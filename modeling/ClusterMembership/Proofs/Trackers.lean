import ClusterMembership.Proofs.Flags
import ClusterMembership.Tracker
/-!
# What a tracker makes of an item

What a tracker remembers after it has handled an item off its backlog (`previous?_handle`, `isSome_get?_handle`), and
when it asks for no pass (`silent_handle_iff`): it keeps quiet about a report alone, one whose signal is of no interest
or whose value it has seen last.
-/
namespace ClusterMembership

theorem LastSeen.get?_ofHealth (health : SignalSet) (s : Signal) :
    (ofHealth health).get? s = some (health.contains s) := by
  cases s <;> rfl

theorem LastSeen.get?_empty (s : Signal) : ({} : LastSeen).get? s = none := rfl

namespace Tracker

variable (t : Tracker) (c : Cluster)

@[simp] theorem get?_remember (id j : NodeId) (l : LastSeen) :
    (t.remember id l).get? j = if j = id then some l else t.get? j := by
  simp only [get?, remember, List.find?_cons]
  by_cases h : j = id
  · simp [h]
  · have h' : ¬ id = j := fun hh => h hh.symm
    simp only [h, h', decide_false, if_false, List.find?_filter]
    congr 2
    funext e
    by_cases he : e.1 = j
    · simp [he, h]
    · simp [he]

@[simp] theorem get?_forget (id j : NodeId) : (t.forget id).get? j = if j = id then none else t.get? j := by
  simp only [get?, forget, List.find?_filter]
  split
  · next h =>
    rw [List.find?_eq_none.2]
    · rfl
    · rintro e - he
      simp only [ne_eq, decide_not, Bool.not_eq_true', decide_eq_false_iff_not, decide_eq_true_eq] at he
      exact he.1 (he.2.trans h)
  · next h =>
    congr 2
    funext e
    by_cases he : e.1 = j
    · have : ¬ j = id := h
      simp [he, this]
    · simp [he]

/-- Reports of the node are remembered. -/
def notes (n : Node) : Bool := (t.get? n.id).isSome || c.group.contains n.id

/-- Where a value of a signal is remembered, what is reported of it is remembered too. -/
theorem notes_of_previous? {id : NodeId} {s : Signal} {value : Bool} (h : t.previous? id s = some value) {n : Node}
    (hid : n.id = id) : t.notes c n = true := by
  rw [notes, hid]
  rw [previous?] at h
  cases hg : t.get? id with
  | none => rw [hg] at h; cases h
  | some l => rfl

theorem get?_note (n : Node) (s : Signal) (value : Bool) (id : NodeId) :
    (t.note c n s value).get? id =
      if id = n.id ∧ t.notes c n = true then some (((t.get? n.id).getD {}).insert s value) else t.get? id := by
  unfold note notes
  cases hl : t.get? n.id with
  | some l => by_cases h : id = n.id <;> simp [h]
  | none =>
    cases hg : c.group.contains n.id with
    | true => by_cases h : id = n.id <;> simp [h]
    | false => simp

theorem previous?_note (n : Node) (s : Signal) (value : Bool) (id : NodeId) (r : Signal) :
    (t.note c n s value).previous? id r =
      if id = n.id ∧ r = s ∧ t.notes c n = true then some value else t.previous? id r := by
  rw [previous?, get?_note, previous?]
  by_cases h : id = n.id ∧ t.notes c n = true
  · rw [if_pos h, Option.bind_some, LastSeen.get?_insert]
    obtain ⟨rfl, hn⟩ := h
    by_cases hr : r = s
    · simp [hr, hn]
    · cases hl : t.get? n.id <;> simp [hr, LastSeen.get?_empty]
  · rw [if_neg h, if_neg (fun h' => h ⟨h'.1, h'.2.2⟩)]

theorem config_note (n : Node) (s : Signal) (value : Bool) : (t.note c n s value).config = t.config := by
  unfold note
  split
  · rfl
  · split <;> rfl

theorem dispatched_note (n : Node) (s : Signal) (value : Bool) :
    (t.note c n s value).dispatched = t.dispatched := by
  unfold note
  split
  · rfl
  · split <;> rfl

theorem handle_changed (n : Node) (s : Signal) (value : Bool) :
    (t.handle c (.notice (.changed n s value))).1.get? =
      if t.config.interest.contains s then (t.note c n s value).get? else t.get? := by
  simp only [handle, onChanged]
  split
  · split <;> rfl
  · rfl

theorem config_handle (r : Received) : (t.handle c r).1.config = t.config := by
  cases r with
  | lagged k => rfl
  | notice x =>
    cases x with
    | added n => rfl
    | removed n => rfl
    | changed n s value =>
      simp only [handle, onChanged]
      split
      · split
        · exact config_note t c n s value
        · exact config_note t c n s value
      · rfl

/-- **A tracker counts the passes that it asks for.** -/
theorem dispatched_handle (r : Received) :
    (t.handle c r).1.dispatched = t.dispatched + (t.handle c r).2.length := by
  cases r with
  | lagged k => rfl
  | notice x =>
    cases x with
    | added n => rfl
    | removed n => rfl
    | changed n s value =>
      simp only [handle, onChanged]
      split
      · split
        · exact dispatched_note t c n s value
        · exact congrArg (· + 1) (dispatched_note t c n s value)
      · rfl

/-- **What is remembered of a signal once an item is handled.** -/
theorem previous?_handle (r : Received) (id : NodeId) (s : Signal) :
    (t.handle c r).1.previous? id s =
      match r with
      | .notice (.added n) => if id = n.id then some (c.signal n s) else t.previous? id s
      | .notice (.removed n) => if id = n.id then none else t.previous? id s
      | .notice (.changed n r value) =>
        if t.config.interest.contains r = true ∧ id = n.id ∧ s = r ∧ t.notes c n = true then some value
        else t.previous? id s
      | .lagged _ => t.previous? id s := by
  cases r with
  | lagged k => rfl
  | notice x =>
    cases x with
    | added n =>
      have hg : (t.handle c (.notice (.added n))).1.get? id = if id = n.id then some _ else t.get? id :=
        t.get?_remember n.id id _
      simp only [previous?, hg]
      split
      · exact LastSeen.get?_ofHealth _ s
      · rfl
    | removed n =>
      have hg : (t.handle c (.notice (.removed n))).1.get? id = if id = n.id then none else t.get? id :=
        t.get?_forget n.id id
      simp only [previous?, hg]
      split <;> rfl
    | changed n r value =>
      have hn := previous?_note t c n r value id s
      simp only [previous?] at hn ⊢
      rw [handle_changed]
      cases hi : t.config.interest.contains r with
      | true => simpa using hn
      | false => simp

/-- **Which nodes are remembered once an item is handled.** -/
theorem isSome_get?_handle (r : Received) (id : NodeId) :
    ((t.handle c r).1.get? id).isSome = true ↔
      match r with
      | .notice (.added n) => id = n.id ∨ (t.get? id).isSome = true
      | .notice (.removed n) => id ≠ n.id ∧ (t.get? id).isSome = true
      | .notice (.changed n s _) =>
        t.config.interest.contains s = true ∧ id = n.id ∧ c.group.contains n.id = true ∨ (t.get? id).isSome = true
      | .lagged _ => (t.get? id).isSome = true := by
  cases r with
  | lagged k => exact Iff.rfl
  | notice x =>
    cases x with
    | added n =>
      have hg : (t.handle c (.notice (.added n))).1.get? id = if id = n.id then some _ else t.get? id :=
        t.get?_remember n.id id _
      rw [hg]
      by_cases h : id = n.id <;> simp [h]
    | removed n =>
      have hg : (t.handle c (.notice (.removed n))).1.get? id = if id = n.id then none else t.get? id :=
        t.get?_forget n.id id
      rw [hg]
      by_cases h : id = n.id <;> simp [h]
    | changed n s value =>
      rw [handle_changed]
      cases hi : t.config.interest.contains s with
      | false => simp [hi]
      | true =>
        rw [if_pos rfl, get?_note]
        by_cases h : id = n.id
        · subst h
          by_cases hn : t.notes c n = true
          · rw [if_pos ⟨rfl, hn⟩, Option.isSome_some]
            rw [notes, Bool.or_eq_true, or_comm] at hn
            simpa [hi] using hn
          · rw [if_neg (fun h => hn h.2)]
            rw [notes, Bool.or_eq_true, not_or] at hn
            simp [hn.2]
        · simp [h]

/-- **A tracker asks for no pass** about a report of no interest and one that repeats what it has seen last, unless it is
to heed repeats; about all else it does. -/
theorem silent_handle_iff (r : Received) :
    (t.handle c r).2 = [] ↔ ∃ n s value, r = .notice (.changed n s value) ∧
      (t.config.interest.contains s = true → t.config.repeats = false ∧ t.previous? n.id s = some value) := by
  cases r with
  | lagged k => simp [handle, dispatch]
  | notice x =>
    cases x with
    | added n => simp [handle, onAdded, dispatch]
    | removed n => simp [handle, onRemoved, dispatch]
    | changed n s value =>
      have hex : (∃ n' s' value', Received.notice (.changed n s value) = .notice (.changed n' s' value') ∧
          (t.config.interest.contains s' = true → t.config.repeats = false ∧ t.previous? n'.id s' = some value')) ↔
          (t.config.interest.contains s = true → t.config.repeats = false ∧ t.previous? n.id s = some value) := by
        constructor
        · rintro ⟨_, _, _, h, hs⟩
          cases h
          exact hs
        · exact fun hs => ⟨n, s, value, rfl, hs⟩
      rw [hex]
      simp only [handle, onChanged]
      split
      · next hi =>
        by_cases hp : t.previous? n.id s = some value
        · cases hr : t.config.repeats <;> simp [hi, hp, hr, dispatch, config_note]
        · simp [hi, hp, dispatch]
      · next hi => simp [hi]

/-- A tracker that asks for no pass has learnt nothing new. -/
theorem previous?_handle_of_silent {r : Received} (h : (t.handle c r).2 = []) :
    (t.handle c r).1.previous? = t.previous? := by
  obtain ⟨n, r, value, rfl, hv⟩ := (silent_handle_iff t c r).1 h
  funext id s
  rw [previous?_handle]
  simp only
  split
  · next hi =>
    obtain ⟨hi, rfl, rfl, -⟩ := hi
    exact (hv hi).2.symm
  · rfl

end Tracker

end ClusterMembership
