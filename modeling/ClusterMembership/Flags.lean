import ClusterMembership.Roster
import ClusterMembership.Signal
/-!
# Flags of nodes

What is recorded of every node: its health signals, which pollers write, and the two membership flags, which the
controller alone writes. A node of which nothing was recorded has every flag clear. `get_update` is the law of the table.
-/
namespace ClusterMembership

/-- What is recorded of a node. -/
structure Flags where
  health : SignalSet := {}
  /-- The controller has joined the node into the backing cluster. -/
  isActive : Bool := false
  isPrimary : Bool := false
deriving DecidableEq

/-- Nodes with what is recorded of them. -/
structure FlagTable where
  entries : List (Node × Flags) := []

namespace FlagTable

def get (t : FlagTable) (n : Node) : Flags := ((t.entries.find? (·.1 = n)).map (·.2)).getD {}

def updateEntry (n : Node) (f : Flags → Flags) : List (Node × Flags) → List (Node × Flags)
  | [] => [(n, f {})]
  | e :: es => if e.1 = n then (n, f e.2) :: es else e :: updateEntry n f es

def update (t : FlagTable) (n : Node) (f : Flags → Flags) : FlagTable := ⟨updateEntry n f t.entries⟩

def setSignal (t : FlagTable) (n : Node) (s : Signal) (value : Bool) : FlagTable :=
  t.update n fun flags => { flags with health := flags.health.write s value }

def setActive (t : FlagTable) (n : Node) (value : Bool) : FlagTable :=
  t.update n fun flags => { flags with isActive := value }

def setPrimary (t : FlagTable) (n : Node) (value : Bool) : FlagTable :=
  t.update n fun flags => { flags with isPrimary := value }

def signal (t : FlagTable) (n : Node) (s : Signal) : Bool := (t.get n).health.contains s

/-- **The law of the table**: one node's flags change and no other's. -/
theorem get_update (t : FlagTable) (n m : Node) (f : Flags → Flags) :
    (t.update n f).get m = if m = n then f (t.get n) else t.get m := by
  obtain ⟨es⟩ := t
  simp only [get, update]
  induction es with
  | nil =>
    by_cases h : m = n
    · simp [updateEntry, h]
    · have h' : ¬ n = m := fun hh => h hh.symm
      simp [updateEntry, h, h']
  | cons e es ih =>
    rw [updateEntry]
    split
    · next he =>
      by_cases h : m = n
      · simp [h, he]
      · have h' : ¬ n = m := fun hh => h hh.symm
        have he' : ¬ e.1 = m := fun hh => h' (he.symm.trans hh)
        simp [h, h', he']
    · next he =>
      by_cases hm : e.1 = m
      · have h : ¬ m = n := fun hh => he (hm.trans hh)
        simp [hm, h]
      · simp only [List.find?_cons, hm, he, decide_false]
        exact ih

end FlagTable

end ClusterMembership
