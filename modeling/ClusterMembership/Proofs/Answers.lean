import ClusterMembership.Simulated.Basic
/-!
# What an answered call has done

A simulated cluster carries a call out in full or leaves its membership alone (`performWithin_cases`), and it carries out
only what it has no objection to.  A change that is carried out changes the effective membership and nothing else of it,
whether it is staged or made at once (`effective_change`).
-/
namespace ClusterMembership.SimulatedCluster

open Simulated

/-- Nothing is planned unless changes are staged. -/
def Orderly (s : SimulatedCluster) : Prop := s.stages = false → s.plan = []

/-- The membership is as it was, what is planned included. -/
structure SameMembership (s s' : SimulatedCluster) : Prop where
  stages : s'.stages = s.stages
  members : s'.members = s.members
  plan : s'.plan = s.plan

theorem SameMembership.effective {s s' : SimulatedCluster} (h : s.SameMembership s') : s'.effective = s.effective := by
  rw [SimulatedCluster.effective, h.plan, h.members]; rfl

theorem SameMembership.orderly {s s' : SimulatedCluster} (h : s.SameMembership s') (ho : s.Orderly) : s'.Orderly := by
  intro hs
  rw [h.plan]
  exact ho (h.stages.symm.trans hs)

/-! ## The effective membership -/

theorem effective_of_plan_eq_nil {s : SimulatedCluster} (h : s.plan = []) : s.effective = s.members := by
  rw [effective, h, List.foldl_nil]

/-- More members are more members at every stage of a plan. -/
theorem mem_foldl_mono {members members' : List Address} {a : Address} (h : a ∈ members → a ∈ members')
    (plan : List Change) : a ∈ plan.foldl applyChange members → a ∈ plan.foldl applyChange members' := by
  induction plan generalizing members members' with
  | nil => exact h
  | cons x plan ih =>
    refine ih ?_
    cases x with
    | join b => exact fun ha => mem_including.2 ((mem_including.1 ha).imp_right h)
    | leave b => exact fun ha => mem_excluding.2 ((mem_excluding.1 ha).imp_left h)

/-- **A change is made to the effective membership**, staged or not. -/
theorem effective_change {s : SimulatedCluster} (h : s.Orderly) (x : Change) :
    (s.change x).effective = applyChange s.effective x := by
  unfold change
  split
  · rw [effective, effective, List.foldl_append, List.foldl_cons, List.foldl_nil]
  · next hs =>
    have hp := h (Bool.eq_false_iff.2 hs)
    rw [effective_of_plan_eq_nil hp]
    exact effective_of_plan_eq_nil hp

theorem stages_change (s : SimulatedCluster) (x : Change) : (s.change x).stages = s.stages := by
  unfold change; split <;> rfl

theorem plan_change (s : SimulatedCluster) (x : Change) :
    (s.change x).plan = if s.stages then s.plan ++ [x] else s.plan := by
  unfold change; split <;> rfl

theorem orderly_change {s : SimulatedCluster} (h : s.Orderly) (x : Change) : (s.change x).Orderly := by
  intro hs
  rw [stages_change] at hs
  rw [plan_change, hs]
  exact h hs

/-! ## Calls -/

theorem find?_setCounter (counters : List (Action × Nat)) (a b : Action) (n : Nat) :
    (setCounter counters a n).find? (·.1 = b) =
      if b = a then if n = 0 then none else some (a, n) else counters.find? (·.1 = b) := by
  have hrest : (counters.filter (·.1 ≠ a)).find? (·.1 = b) = if b = a then none else counters.find? (·.1 = b) := by
    rw [List.find?_filter]
    split
    · next h => simp [h]
    · next h =>
      refine congrArg (List.find? · counters) (funext fun x => ?_)
      by_cases hx : x.1 = b <;> simp [hx, h]
  rw [setCounter]
  by_cases hn : n = 0
  · rw [if_pos hn, if_pos hn, hrest]
  · rw [if_neg hn, if_neg hn, List.find?_cons, hrest]
    by_cases hb : b = a
    · simp [hb]
    · simp [hb, Ne.symm hb]

/-- **A counter that is set is what a later call finds**, and the others are as they were. -/
theorem outstanding_setCounter (s : SimulatedCluster) (a b : Action) (n : Nat) :
    { s with failNext := setCounter s.failNext a n }.outstanding b = if b = a then n else s.outstanding b := by
  rw [outstanding, find?_setCounter]
  by_cases hb : b = a
  · rw [if_pos hb, if_pos hb]
    split
    · next hn => exact hn.symm
    · rfl
  · rw [if_neg hb, if_neg hb]
    rfl

theorem takeFailure_spec (s : SimulatedCluster) (a : Action) :
    (a ∈ s.failAlways ∧ s.takeFailure a = (s, some (.injected a))) ∨
    (a ∉ s.failAlways ∧ s.outstanding a = 0 ∧ s.takeFailure a = (s, none)) ∨
    ∃ n, a ∉ s.failAlways ∧ s.outstanding a = n + 1 ∧
      s.takeFailure a = ({ s with failNext := setCounter s.failNext a n }, some (.injected a)) := by
  by_cases ha : a ∈ s.failAlways
  · exact Or.inl ⟨ha, by rw [takeFailure, if_pos (List.contains_iff_mem.2 ha)]⟩
  · have hc : ¬ s.failAlways.contains a = true := fun h => ha (List.contains_iff_mem.1 h)
    cases ho : s.outstanding a with
    | zero => exact Or.inr (Or.inl ⟨ha, rfl, by rw [takeFailure, if_neg hc, ho]⟩)
    | succ n => exact Or.inr (Or.inr ⟨n, ha, rfl, by rw [takeFailure, if_neg hc, ho]⟩)

theorem takeFailure_cases (s : SimulatedCluster) (a : Action) :
    s.takeFailure a = (s, none) ∨ ∃ counters, s.takeFailure a = ({ s with failNext := counters }, some (.injected a)) := by
  rcases takeFailure_spec s a with ⟨-, h⟩ | ⟨-, -, h⟩ | ⟨n, -, -, h⟩
  · exact Or.inr ⟨s.failNext, h⟩
  · exact Or.inl h
  · exact Or.inr ⟨_, h⟩

/-- **What becomes of a call that takes effect**: it is carried out, there is an objection, or a failure was asked for. -/
theorem answer_cases (s : SimulatedCluster) (call : Call) :
    (s.objection? call = none ∧ s.answer call = (s.carryOut call, none)) ∨
    (∃ why, s.objection? call = some why ∧ s.answer call = (s, some why)) ∨
    ∃ counters, s.answer call = ({ s with failNext := counters }, some (.injected call.action)) := by
  rcases takeFailure_cases s call.action with ht | ⟨counters, ht⟩
  · cases ho : s.objection? call with
    | none => exact Or.inl ⟨rfl, by simp only [answer, ht, ho]⟩
    | some why => exact Or.inr (Or.inl ⟨why, rfl, by simp only [answer, ht, ho]⟩)
  · exact Or.inr (Or.inr ⟨counters, by simp only [answer, ht]⟩)

theorem objection?_record (s : SimulatedCluster) (c call : Call) : (s.record c).objection? call = s.objection? call := by
  cases call <;> rfl

theorem perform_cases (s : SimulatedCluster) (call : Call) :
    (s.objection? call = none ∧ s.perform call = ((s.record call).carryOut call, none)) ∨
    ∃ s' why, s.perform call = (s', some why) ∧ s.SameMembership s' ∧
      (why = .injected call.action ∨ s.objection? call = some why) := by
  rw [← objection?_record s call call]
  rcases answer_cases (s.record call) call with ⟨ho, h⟩ | ⟨why, ho, h⟩ | ⟨counters, h⟩
  · exact Or.inl ⟨ho, h⟩
  · exact Or.inr ⟨_, why, h, ⟨rfl, rfl, rfl⟩, Or.inr ho⟩
  · exact Or.inr ⟨_, _, h, ⟨rfl, rfl, rfl⟩, Or.inl rfl⟩

/-- **What becomes of a call**: it is carried out, and nothing stood against it, or it leaves the membership alone, and
the answer says what stood against it. -/
theorem performWithin_cases (s : SimulatedCluster) (limit : Span) (call : Call) :
    let r := s.performWithin limit call
    (r.2.1 = .done ∧ s.objection? call = none ∧ r.1 = (s.record call).carryOut call) ∨
    (s.SameMembership r.1 ∧
      (r.2.1 = .timedOut ∨
        ∃ why, r.2.1 = .refused (Reason.refusal why) ∧ (why = .injected call.action ∨ s.objection? call = some why))) := by
  intro r
  by_cases hl : s.latency = 0 ∨ s.latency ≤ limit.ceilMillis
  · rcases perform_cases s call with ⟨ho, hp⟩ | ⟨s', why, hp, hm, hw⟩
    · have hr : r = ((s.record call).carryOut call, .done, ((s.record call).carryOut call).latency) := by
        simp only [r, performWithin, if_pos hl, hp]
      rw [hr]
      exact Or.inl ⟨rfl, ho, rfl⟩
    · have hr : r = (s', .refused why.refusal, s'.latency) := by simp only [r, performWithin, if_pos hl, hp]
      rw [hr]
      exact Or.inr ⟨hm, Or.inr ⟨why, rfl, hw⟩⟩
  · have hr : r = (s.record call, .timedOut, limit.ceilMillis) := if_neg hl
    rw [hr]
    exact Or.inr ⟨⟨rfl, rfl, rfl⟩, Or.inl rfl⟩

/-- **A call that is carried out changes the membership and who is a coordinator, and nothing else.** -/
theorem carryOut_eq (s : SimulatedCluster) (call : Call) :
    s.carryOut call = { s with
      initialized := (s.carryOut call).initialized
      members := (s.carryOut call).members
      plan := (s.carryOut call).plan } := by
  have hchange (x : Change) : s.change x = { s with
      initialized := (s.change x).initialized
      members := (s.change x).members
      plan := (s.change x).plan } := by
    unfold change; split <;> rfl
  cases call with
  | join t a credentials => exact hchange (.join a)
  | leave t leaving => exact hchange (.leave leaving.address)
  | _ => rfl

theorem stages_carryOut (s : SimulatedCluster) (call : Call) : (s.carryOut call).stages = s.stages := by
  cases call with
  | join t a credentials => exact stages_change s (.join a)
  | leave t leaving => exact stages_change s (.leave leaving.address)
  | _ => rfl

theorem stages_performWithin (s : SimulatedCluster) (limit : Span) (call : Call) :
    (s.performWithin limit call).1.stages = s.stages := by
  rcases performWithin_cases s limit call with ⟨-, -, hr⟩ | ⟨hm, -⟩
  · rw [hr]; exact stages_carryOut (s.record call) call
  · exact hm.stages

theorem orderly_carryOut {s : SimulatedCluster} (h : s.Orderly) (call : Call) : (s.carryOut call).Orderly := by
  cases call with
  | bootstrap node => exact fun _ => rfl
  | join t a credentials => exact orderly_change h (.join a)
  | leave t leaving => exact orderly_change h (.leave leaving.address)
  | commit t => exact fun _ => rfl
  | rebalance t => exact h
  | recover failed sponsor => exact h

theorem orderly_perform {s : SimulatedCluster} (h : s.Orderly) (call : Call) : (s.perform call).1.Orderly := by
  rcases perform_cases s call with ⟨-, hp⟩ | ⟨s', why, hp, hm, -⟩
  · rw [hp]; exact orderly_carryOut (s := s.record call) h call
  · rw [hp]; exact hm.orderly h

theorem mem_effective_of_alreadyMember {s : SimulatedCluster} {t : Target} {a : Address} {credentials : Credentials}
    {why : Reason} (h : why = .injected .join ∨ s.objection? (.join t a credentials) = some why)
    (hk : why.kind = .alreadyMember) : a ∈ s.effective := by
  rcases h with rfl | h
  · cases hk
  · simp only [objection?] at h
    split at h
    · cases h; cases hk
    · split at h
      · cases h; cases hk
      · split at h
        · cases h; cases hk
        · split at h
          · next ha => exact List.contains_iff_mem.1 ha
          · cases h

end ClusterMembership.SimulatedCluster
