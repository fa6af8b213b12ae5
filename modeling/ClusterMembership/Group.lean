import ClusterMembership.Flags
/-!
# The desired group

A `Group` holds the nodes that a cluster should consist of, in order of insertion. Its operations return the notices they
give, one for each change of membership and none for anything else; `Notice.replay` rebuilds the members from them.
-/
namespace ClusterMembership

/-- What is announced about the group or about one of its nodes. -/
inductive Notice where
  | added (n : Node)
  | removed (n : Node)
  /-- A signal was reported, whether or not it changed. -/
  | changed (n : Node) (s : Signal) (value : Bool)
deriving DecidableEq

/-- The members after a notice, given those before it. -/
def Notice.replay (members : List Node) : Notice → List Node
  | added n => members ++ [n]
  | removed n => members.filter (·.id ≠ n.id)
  | changed _ _ _ => members

/-- The nodes that a cluster should consist of. -/
structure Group where
  name : String
  roster : Roster := {}
  isStarted : Bool := true

namespace Group

def members (g : Group) : List Node := g.roster.nodes

def get? (g : Group) (id : NodeId) : Option Node := g.roster.get? id

def contains (g : Group) (id : NodeId) : Bool := g.roster.contains id

def size (g : Group) : Nat := g.roster.size

/-- Takes a node in unless its identity is known. -/
def add (g : Group) (n : Node) : Group × List Notice :=
  if g.contains n.id then (g, []) else ({ g with roster := g.roster.insert n.id n }, [.added n])

def remove (g : Group) (id : NodeId) : Group × List Notice :=
  match g.get? id with
  | none => (g, [])
  | some n => ({ g with roster := g.roster.erase id }, [.removed n])

/-- The group's own verdict: it is started and some member reports that its service is up. -/
def isUp (g : Group) (flags : FlagTable) : Bool :=
  g.isStarted && g.members.any fun n => flags.signal n .serviceUp

end Group

end ClusterMembership
