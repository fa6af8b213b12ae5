import ClusterMembership.Target
/-!
# Nodes and rosters

A `Node` is one announcement of a node: two announcements may share an identity, an address and credentials, and the
serial number still tells them apart. A `Roster` keeps nodes under their identities in order of insertion; writing under
an identity that is already there keeps its place. `get?_insert` and `get?_erase` say what the operations do to look-up.
-/
namespace ClusterMembership

/-- One announcement of a node. -/
structure Node where
  /-- Tells announcements apart. -/
  serial : Nat
  id : NodeId
  address : Address
  credentials : Credentials
deriving DecidableEq

def Node.target (n : Node) : Target := ⟨n.id, n.address, n.credentials⟩

/-- Nodes under identities, in order of insertion. -/
structure Roster where
  entries : List (NodeId × Node) := []
deriving DecidableEq

namespace Roster

def get? (r : Roster) (id : NodeId) : Option Node := (r.entries.find? (·.1 = id)).map (·.2)

def contains (r : Roster) (id : NodeId) : Bool := r.entries.any (·.1 = id)

/-- The entries with `n` written under `id`, in place or at the end. -/
def insertEntry (id : NodeId) (n : Node) : List (NodeId × Node) → List (NodeId × Node)
  | [] => [(id, n)]
  | e :: es => if e.1 = id then (id, n) :: es else e :: insertEntry id n es

def insert (r : Roster) (id : NodeId) (n : Node) : Roster := ⟨insertEntry id n r.entries⟩

/-- Drops what is kept under `id`; the others keep their order. -/
def erase (r : Roster) (id : NodeId) : Roster := ⟨r.entries.filter (·.1 ≠ id)⟩

def nodes (r : Roster) : List Node := r.entries.map (·.2)

def ids (r : Roster) : List NodeId := r.entries.map (·.1)

def size (r : Roster) : Nat := r.entries.length

theorem contains_eq_isSome (r : Roster) (id : NodeId) : r.contains id = (r.get? id).isSome := by
  rw [contains, get?, Option.isSome_map, Bool.eq_iff_iff, List.any_eq_true, List.find?_isSome]

theorem find?_insertEntry (id j : NodeId) (n : Node) (es : List (NodeId × Node)) :
    (insertEntry id n es).find? (·.1 = j) = if j = id then some (id, n) else es.find? (·.1 = j) := by
  induction es with
  | nil => by_cases h : j = id <;> simp [insertEntry, h, eq_comm]
  | cons e es ih =>
    rw [insertEntry]
    split
    · next he =>
      by_cases h : j = id
      · simp [h]
      · have h' : ¬ id = j := fun hh => h hh.symm
        have he' : ¬ e.1 = j := fun hh => h' (he.symm.trans hh)
        simp [h, h', he']
    · next he =>
      by_cases hj : e.1 = j
      · have h : ¬ j = id := fun hh => he (hj.trans hh)
        simp [hj, h]
      · simp only [List.find?_cons, hj, decide_false]
        exact ih

@[simp] theorem get?_insert (r : Roster) (id j : NodeId) (n : Node) :
    (r.insert id n).get? j = if j = id then some n else r.get? j := by
  simp only [get?, insert, find?_insertEntry]
  split <;> rfl

@[simp] theorem get?_erase (r : Roster) (id j : NodeId) :
    (r.erase id).get? j = if j = id then none else r.get? j := by
  simp only [get?, erase, List.find?_filter]
  split
  · next h =>
    rw [List.find?_eq_none.2]
    · rfl
    · rintro e - he
      simp only [ne_eq, decide_not, Bool.not_eq_true', decide_eq_false_iff_not,
        decide_eq_true_eq] at he
      exact he.1 (he.2.trans h)
  · next h =>
    congr 2
    funext e
    by_cases he : e.1 = j
    · have : ¬ j = id := h
      simp [he, this]
    · simp [he]

end Roster

end ClusterMembership
