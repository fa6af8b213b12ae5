import ClusterMembership.Call
import ClusterMembership.Config
import ClusterMembership.Group
/-!
# A cluster as its controller sees it

`Cluster` is the desired group, the flags of its nodes and what the controller knows of the backing cluster: the active
nodes, the primary, whether staged changes wait for a commit, and the phase. The summary that status reads is published
at the end of a pass, so that `Cluster.status` never waits for one.
-/
namespace ClusterMembership

/-- Where the controller stands. -/
inductive Phase where
  /-- No primary is assigned. -/
  | noPrimary
  /-- A candidate is being made coordinator. -/
  | electingPrimary
  /-- The primary is assigned and has not reported that it is initialized. -/
  | awaitingCoordinator
  /-- The primary is initialized and the membership is being brought in line. -/
  | reconciling
deriving DecidableEq

def Phase.name : Phase → String
  | noPrimary => "no-primary"
  | electingPrimary => "electing-primary"
  | awaitingCoordinator => "awaiting-coordinator-ready"
  | reconciling => "reconciling"

/-- What the last pass left to be read. -/
structure Summary where
  activeCount : Nat := 0
  primary : Option NodeId := none
  phase : Phase := .noPrimary
deriving DecidableEq

/-- A cluster as its controller sees it. -/
structure Cluster where
  config : Config
  /-- The backing cluster stages joins and leaves until a commit. -/
  stages : Bool
  group : Group
  flags : FlagTable := {}
  /-- The nodes joined into the backing cluster. -/
  active : Roster := {}
  primary : Option Node := none
  /-- Staged changes wait for a commit. -/
  pendingCommit : Bool := false
  phase : Phase := .noPrimary
  published : Summary := {}

/-- The state of a cluster for those who look at its health. -/
structure Status where
  serviceUp : Bool
  activeCount : Nat
  primary : Option NodeId
  phase : Phase
  memberCount : Nat
  quorum : Nat
deriving DecidableEq

namespace Cluster

def signal (c : Cluster) (n : Node) (s : Signal) : Bool := c.flags.signal n s

def isReady (c : Cluster) (n : Node) : Bool := c.signal n c.config.readiness

/-- The node reports that it has been made a coordinator. -/
def isInitialized (c : Cluster) (n : Node) : Bool := c.signal n .coordinatorInitialized

def isActive (c : Cluster) (n : Node) : Bool := (c.flags.get n).isActive

def isPrimary (c : Cluster) (n : Node) : Bool := (c.flags.get n).isPrimary

/-- What there is to be read of the state. -/
def summary (c : Cluster) : Summary := ⟨c.active.size, c.primary.map (·.id), c.phase⟩

def publish (c : Cluster) : Cluster := { c with published := c.summary }

/-- The group is up and enough members are active for a quorum. -/
def isServiceUp (c : Cluster) : Bool := c.group.isUp c.flags && c.config.quorum.toNat ≤ c.published.activeCount

/-- The status, from the published summary and the group as it is now. -/
def status (c : Cluster) : Status where
  serviceUp := c.isServiceUp
  activeCount := c.published.activeCount
  primary := c.published.primary
  phase := c.published.phase
  memberCount := c.group.size
  quorum := c.config.quorum.toNat

def setActive (c : Cluster) (n : Node) (value : Bool) : Cluster := { c with flags := c.flags.setActive n value }

def enroll (c : Cluster) (id : NodeId) (n : Node) : Cluster :=
  { c.setActive n true with active := c.active.insert id n }

def discharge (c : Cluster) (n : Node) : Cluster :=
  { c.setActive n false with active := c.active.erase n.id }

/-- Records a health signal; the report is announced whether or not it changed anything. -/
def report (c : Cluster) (n : Node) (s : Signal) (value : Bool) : Cluster × List Notice :=
  ({ c with flags := c.flags.setSignal n s value }, [.changed n s value])

def mark (c : Cluster) (isStarted : Bool) : Cluster := { c with group := { c.group with isStarted } }

def addMember (c : Cluster) (n : Node) : Cluster × List Notice :=
  let (g, notices) := c.group.add n
  ({ c with group := g }, notices)

def removeMember (c : Cluster) (id : NodeId) : Cluster × List Notice :=
  let (g, notices) := c.group.remove id
  ({ c with group := g }, notices)

end Cluster

end ClusterMembership
