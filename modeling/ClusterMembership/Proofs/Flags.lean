import ClusterMembership.Cluster.History
/-!
# One flag at a time

Which flags the writes of a controller change: each writes one of the two membership flags, of the nodes it is about, and
leaves the other flag and every signal alone.
-/
namespace ClusterMembership

namespace FlagTable

@[simp] theorem isActive_setActive (t : FlagTable) (n m : Node) (b : Bool) :
    ((t.setActive n b).get m).isActive = if m = n then b else (t.get m).isActive := by
  rw [setActive, get_update]; split <;> rfl

@[simp] theorem isPrimary_setActive (t : FlagTable) (n m : Node) (b : Bool) :
    ((t.setActive n b).get m).isPrimary = (t.get m).isPrimary := by
  rw [setActive, get_update]; split <;> simp_all

@[simp] theorem signal_setActive (t : FlagTable) (n m : Node) (b : Bool) (s : Signal) :
    (t.setActive n b).signal m s = t.signal m s := by
  rw [signal, signal, setActive, get_update]; split <;> simp_all

@[simp] theorem isActive_setPrimary (t : FlagTable) (n m : Node) (b : Bool) :
    ((t.setPrimary n b).get m).isActive = (t.get m).isActive := by
  rw [setPrimary, get_update]; split <;> simp_all

@[simp] theorem isPrimary_setPrimary (t : FlagTable) (n m : Node) (b : Bool) :
    ((t.setPrimary n b).get m).isPrimary = if m = n then b else (t.get m).isPrimary := by
  rw [setPrimary, get_update]; split <;> rfl

@[simp] theorem signal_setPrimary (t : FlagTable) (n m : Node) (b : Bool) (s : Signal) :
    (t.setPrimary n b).signal m s = t.signal m s := by
  rw [signal, signal, setPrimary, get_update]; split <;> simp_all

@[simp] theorem isActive_setSignal (t : FlagTable) (n m : Node) (s : Signal) (b : Bool) :
    ((t.setSignal n s b).get m).isActive = (t.get m).isActive := by
  rw [setSignal, get_update]; split <;> simp_all

@[simp] theorem isPrimary_setSignal (t : FlagTable) (n m : Node) (s : Signal) (b : Bool) :
    ((t.setSignal n s b).get m).isPrimary = (t.get m).isPrimary := by
  rw [setSignal, get_update]; split <;> simp_all

theorem isActive_foldl_setActive (ns : List Node) (m : Node) : ∀ t : FlagTable,
    ((ns.foldl (fun t n => t.setActive n false) t).get m).isActive = (!decide (m ∈ ns) && (t.get m).isActive) := by
  induction ns with
  | nil => intro t; simp
  | cons n ns ih =>
    intro t
    rw [List.foldl_cons, ih, isActive_setActive]
    by_cases h : m = n <;> simp [h]

theorem isPrimary_foldl_setActive (ns : List Node) (m : Node) (t : FlagTable) :
    ((ns.foldl (fun t n => t.setActive n false) t).get m).isPrimary = (t.get m).isPrimary := by
  induction ns generalizing t with
  | nil => rfl
  | cons n ns ih => rw [List.foldl_cons, ih, isPrimary_setActive]

theorem signal_foldl_setActive (ns : List Node) (m : Node) (s : Signal) (t : FlagTable) :
    (ns.foldl (fun t n => t.setActive n false) t).signal m s = t.signal m s := by
  induction ns generalizing t with
  | nil => rfl
  | cons n ns ih => rw [List.foldl_cons, ih, signal_setActive]

end FlagTable

namespace Cluster

open FlagTable

/-! ## Single writes -/

@[simp] theorem isActive_enroll (c : Cluster) (id : NodeId) (n m : Node) :
    (c.enroll id n).isActive m = if m = n then true else c.isActive m := isActive_setActive c.flags n m true

@[simp] theorem isActive_discharge (c : Cluster) (n m : Node) :
    (c.discharge n).isActive m = if m = n then false else c.isActive m := isActive_setActive c.flags n m false

theorem isActive_forgetActive (c : Cluster) (m : Node) :
    c.forgetActive.isActive m = (!decide (m ∈ c.active.nodes) && c.isActive m) :=
  isActive_foldl_setActive c.active.nodes m c.flags

theorem isActive_foldl_writePrimary (ws : List (Node × Bool)) (m : Node) (t : FlagTable) :
    ((ws.foldl writePrimary t).get m).isActive = (t.get m).isActive := by
  induction ws generalizing t with
  | nil => rfl
  | cons w ws ih => rw [List.foldl_cons, ih, writePrimary, isActive_setPrimary]

theorem signal_foldl_writePrimary (ws : List (Node × Bool)) (m : Node) (s : Signal) (t : FlagTable) :
    (ws.foldl writePrimary t).signal m s = t.signal m s := by
  induction ws generalizing t with
  | nil => rfl
  | cons w ws ih => rw [List.foldl_cons, ih, writePrimary, signal_setPrimary]

@[simp] theorem isActive_promote (c : Cluster) (n m : Node) : (c.promote n).isActive m = c.isActive m :=
  isActive_foldl_writePrimary _ m c.flags

@[simp] theorem isActive_depose (c : Cluster) (p m : Node) : (c.depose p).isActive m = c.isActive m :=
  isActive_setPrimary c.flags p m false

end Cluster

end ClusterMembership
