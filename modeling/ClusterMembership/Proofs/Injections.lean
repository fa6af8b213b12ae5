import ClusterMembership.Proofs.Incidents
import ClusterMembership.Proofs.StagedChanges
/-!
# Failures that were asked for

A simulated cluster can be told that so many of the next calls of an action fail, or all of them.  `Demand` counts what is
asked for of one action and what calls use up of it, and the counters that the cluster keeps agree with it at any time
(`injections_counted`): a counter that is not kept stands for zero, and one that is kept is never zero.
-/
namespace ClusterMembership

open Simulated

/-- The failures of an action that have been asked for. -/
structure Demand where
  /-- So many of the next calls are to fail. -/
  count : Nat := 0
  /-- All calls are to fail. -/
  always : Bool := false

/-- An incident adds to the demand for failures of `a`, withdraws it, or uses one of them up. -/
def Demand.after (a : Action) (d : Demand) : Incident → Demand
  | .instruction (.failNext b) => if b = a then { d with count := d.count + 1 } else d
  | .instruction (.failAlways b) => if b = a then { d with always := true } else d
  | .instruction .clearFailures => {}
  | .landing c => if c.action = a ∧ 0 < d.count ∧ d.always = false then { d with count := d.count - 1 } else d
  | _ => d

theorem Demand.always_landing (a : Action) (d : Demand) (c : Call) : (d.after a (.landing c)).always = d.always := by
  rw [after]; split <;> rfl

theorem Demand.always_failNext (a b : Action) (d : Demand) :
    (d.after a (.instruction (.failNext b))).always = d.always := by
  rw [after]; split <;> rfl

theorem Demand.count_failAlways (a b : Action) (d : Demand) :
    (d.after a (.instruction (.failAlways b))).count = d.count := by
  rw [after]; split <;> rfl

/-- The failures of `a` that are still asked for after a history. -/
def demand (a : Action) (history : List Incident) : Demand := history.foldl (Demand.after a) {}

theorem demand_concat (a : Action) (history : List Incident) (i : Incident) :
    demand a (history ++ [i]) = (demand a history).after a i := List.foldl_concat ..

/-- **All calls are to fail from the time when this is asked for** until all demands are withdrawn. -/
theorem always_demand (a : Action) (history : List Incident) :
    (demand a history).always = true ↔
      Unrevoked (· = .instruction (.failAlways a)) (· = .instruction .clearFailures) history := by
  induction history using List.reverseRecOn with
  | nil => exact iff_of_false Bool.false_ne_true not_unrevoked_nil
  | append_singleton history i ih =>
    rw [demand_concat, unrevoked_concat, ← ih]
    cases i with
    | arrival c => simp [Demand.after]
    | landing c => simp [Demand.always_landing]
    | instruction i =>
      cases i with
      | failNext b => simp [Demand.always_failNext]
      | failAlways b =>
        by_cases hb : b = a
        · simp [Demand.after, hb]
        · simp [Demand.after, hb]
      | _ => simp [Demand.after]

namespace SimulatedCluster

variable {s : SimulatedCluster}

/-! ## The counters -/

/-- Every action has one counter at most, and none is at zero. -/
structure Counts (counters : List (Action × Nat)) : Prop where
  keys : (counters.map Prod.fst).Nodup
  positive : ∀ x ∈ counters, 1 ≤ x.2

theorem Counts.nil : Counts [] := ⟨List.nodup_nil, fun _ h => absurd h List.not_mem_nil⟩

theorem Counts.setCounter {counters : List (Action × Nat)} (h : Counts counters) (a : Action) (n : Nat) :
    Counts (setCounter counters a n) := by
  have hrest : Counts (counters.filter (·.1 ≠ a)) :=
    ⟨h.keys.sublist (List.filter_sublist.map _), fun x hx => h.positive x (List.mem_of_mem_filter hx)⟩
  unfold SimulatedCluster.setCounter
  split
  · exact hrest
  · next hn =>
    have hnew : a ∉ (counters.filter (·.1 ≠ a)).map Prod.fst := by simp
    refine ⟨List.nodup_cons.2 ⟨hnew, hrest.keys⟩, fun x hx => ?_⟩
    rcases List.mem_cons.1 hx with rfl | hx
    · exact Nat.one_le_iff_ne_zero.2 hn
    · exact hrest.positive x hx

/-- The cluster is to fail the calls of each action as they are asked for. -/
structure Owes (s : SimulatedCluster) (d : Action → Demand) : Prop where
  counts : Counts s.failNext
  outstanding : ∀ a, s.outstanding a = (d a).count
  always : ∀ a, a ∈ s.failAlways ↔ (d a).always = true

/-- What is asked for depends on the failure settings alone. -/
theorem Owes.of_eq {k : SimulatedCluster} {d : Action → Demand} (h : s.Owes d) (hn : k.failNext = s.failNext)
    (ha : k.failAlways = s.failAlways) : k.Owes d where
  counts := hn ▸ h.counts
  outstanding a := by rw [SimulatedCluster.outstanding, hn]; exact h.outstanding a
  always a := by rw [ha]; exact h.always a

/-- **The answer to a call is the failure that was asked for**, and only without one what stands against the call. -/
theorem Owes.answer {d : Action → Demand} (h : s.Owes d) (c : Call) :
    (s.answer c).2 = if (d c.action).always = true ∨ 0 < (d c.action).count then some (.injected c.action)
      else s.objection? c := by
  have hcount := h.outstanding c.action
  rcases takeFailure_spec s c.action with ⟨ha, ht⟩ | ⟨ha, hn, ht⟩ | ⟨n, ha, hn, ht⟩
  · rw [if_pos (Or.inl ((h.always _).1 ha)), SimulatedCluster.answer, ht]
  · have hno : ¬ ((d c.action).always = true ∨ 0 < (d c.action).count) := by
      rintro (hd | hd)
      · exact ha ((h.always _).2 hd)
      · omega
    rw [if_neg hno, SimulatedCluster.answer, ht]
    cases ho : s.objection? c <;> simp only [ho]
  · rw [if_pos (Or.inr (by omega)), SimulatedCluster.answer, ht]

/-! ## What incidents do -/

theorem Owes.landing {d : Action → Demand} (h : s.Owes d) (c : Call) :
    (s.answer c).1.Owes fun a => (d a).after a (.landing c) := by
  have hidle (hno : (d c.action).count = 0 ∨ (d c.action).always = true) :
      (fun a => (d a).after a (.landing c)) = d := funext fun a => by
    refine if_neg fun ⟨ha, hpos, hfree⟩ => ?_
    subst ha
    rcases hno with hno | hno
    · omega
    · rw [hfree] at hno; cases hno
  rcases takeFailure_spec s c.action with ⟨ha, ht⟩ | ⟨-, hn, ht⟩ | ⟨n, ha, hn, ht⟩
  · rw [hidle (Or.inr ((h.always _).1 ha)), SimulatedCluster.answer, ht]
    exact h
  · rw [hidle (Or.inl (h.outstanding _ ▸ hn)), SimulatedCluster.answer, ht]
    cases ho : s.objection? c with
    | none =>
      simp only [ho]
      rw [carryOut_eq]
      exact h.of_eq rfl rfl
    | some why => simp only [ho]; exact h
  · rw [SimulatedCluster.answer, ht]
    have hfree : (d c.action).always = false := Bool.eq_false_iff.2 fun hd => ha ((h.always _).2 hd)
    have hcount : (d c.action).count = n + 1 := h.outstanding _ ▸ hn
    refine ⟨h.counts.setCounter _ n, fun a => ?_, fun a => ?_⟩
    · rw [outstanding_setCounter, Demand.after]
      by_cases ha : a = c.action
      · subst ha
        rw [if_pos rfl, if_pos ⟨rfl, by omega, hfree⟩]
        show n = (d c.action).count - 1
        omega
      · rw [if_neg ha, if_neg fun hc => ha hc.1.symm]
        exact h.outstanding a
    · rw [Demand.always_landing]
      exact h.always a

theorem Owes.instruct {d : Action → Demand} (h : s.Owes d) (i : Instruction) :
    (Simulation.instruct s i).1.Owes fun a => (d a).after a (.instruction i) := by
  cases i with
  | failNext b =>
    refine ⟨h.counts.setCounter b (s.outstanding b + 1), fun a => ?_, fun a => ?_⟩
    · rw [Demand.after]
      refine (outstanding_setCounter s b a _).trans ?_
      by_cases ha : a = b
      · subst ha
        rw [if_pos rfl, if_pos rfl, h.outstanding]
      · rw [if_neg ha, if_neg (Ne.symm ha)]
        exact h.outstanding a
    · rw [Demand.always_failNext]
      exact h.always a
  | failAlways b =>
    refine ⟨h.counts, fun a => ?_, fun a => ?_⟩
    · rw [Demand.count_failAlways]
      exact h.outstanding a
    · rw [Demand.after]
      have hmem : a ∈ (s.failEvery b).failAlways ↔ a = b ∨ a ∈ s.failAlways := by
        by_cases ha : a = b <;> simp [failEvery, ha]
      refine hmem.trans ?_
      by_cases ha : a = b
      · subst ha; simp
      · rw [if_neg (Ne.symm ha), ← h.always]; simp [ha]
  | clearFailures => exact ⟨.nil, fun a => rfl, fun a => ⟨fun hm => absurd hm List.not_mem_nil, fun hm => by cases hm⟩⟩
  | _ => exact h.of_eq rfl rfl

theorem Owes.undergo {d : Action → Demand} (h : s.Owes d) (i : Incident) :
    (s.undergo i).Owes fun a => (d a).after a i := by
  cases i with
  | arrival c => exact h.of_eq rfl rfl
  | landing c => exact h.landing c
  | instruction i => exact h.instruct i

/-- **A new cluster owes what has been asked of it.** -/
theorem owes_live (stages : Bool) (history : List Incident) :
    (({ stages } : SimulatedCluster).live history).Owes fun a => demand a history := by
  induction history using List.reverseRecOn with
  | nil => exact ⟨.nil, fun a => rfl, fun a => ⟨fun hm => absurd hm List.not_mem_nil, fun hm => by cases hm⟩⟩
  | append_singleton history i ih =>
    rw [live_append]
    simp only [demand_concat]
    exact ih.undergo i

theorem objection?_ne_injected (s : SimulatedCluster) (c : Call) (b : Action) : s.objection? c ≠ some (.injected b) := by
  cases c <;> rw [objection?]
  all_goals repeat' split
  all_goals simp

end SimulatedCluster

/-- **Failures that were asked for are counted exactly.**  Whatever calls come in and take effect, in whatever order, and
whatever the cluster is told, it keeps for each action the number of failures asked for and not used up, and whether all are
to fail.  A call that takes effect fails for that alone if there is such a demand for its action, before anything else is
looked at, and never on account of another action.  A call that its caller waits for is one arrival, and a landing if its
latency passes in time.  No counter that is kept is at zero. -/
theorem injections_counted (stages : Bool) (history : List Incident) :
    let fresh : SimulatedCluster := { stages }
    let s := fresh.live history
    (∀ a, let d := demand a history
      s.outstanding a = d.count ∧ (a ∈ s.failAlways ↔ d.always = true) ∧
        (d.always = true ↔
          Unrevoked (· = .instruction (.failAlways a)) (· = .instruction .clearFailures) history)) ∧
    (∀ c : Call, let d := demand c.action history
      (s.answer c).2 = (if d.always = true ∨ 0 < d.count then some (.injected c.action) else s.objection? c) ∧
      (∀ b, s.objection? c ≠ some (.injected b)) ∧
      ∀ limit,
        (s.performWithin limit c).1 = fresh.live (history ++ s.course limit c) ∧
        (s.performWithin limit c).2.1 =
          if limit.ceilMillis < s.latency then .timedOut
          else (s.answer c).2.elim .done fun why => .refused why.refusal) ∧
    (s.failNext.map Prod.fst).Nodup ∧ ∀ x ∈ s.failNext, 1 ≤ x.2 := by
  intro fresh s
  have howes : s.Owes fun a => demand a history := SimulatedCluster.owes_live stages history
  refine ⟨fun a => ⟨howes.outstanding a, howes.always a, always_demand a history⟩, fun c => ?_,
    howes.counts.keys, howes.counts.positive⟩
  refine ⟨howes.answer c, s.objection?_ne_injected c, fun limit => ⟨?_, ?_⟩⟩
  · rw [SimulatedCluster.live_append, SimulatedCluster.performWithin_fst]
  · have hreply : (s.perform c).2 = (s.answer c).2 := by
      have hrecord : (s.record c).Owes fun a => demand a history := howes.of_eq rfl rfl
      rw [SimulatedCluster.perform, hrecord.answer, howes.answer, SimulatedCluster.objection?_record]
    rw [SimulatedCluster.performWithin_eq, hreply]
    split <;> rfl

/-- Of two failures asked for, one is used up before all joins are to fail, and the other is still there after a join that
fails for that. -/
theorem injections_counted_stacked :
    let a : Target := ⟨⟨"a"⟩, ⟨"h", 1⟩, ⟨"u", "p"⟩⟩
    let join : Call := .join a ⟨"h", 2⟩ a.credentials
    let history : List Incident := [.instruction (.failNext .join), .instruction (.failNext .join), .arrival join,
      .landing join, .instruction (.failAlways .join), .arrival join, .landing join]
    let s := ({ stages := true } : SimulatedCluster).live history
    s.outstanding .join = 1 ∧ .join ∈ s.failAlways ∧ (s.answer join).2 = some (.injected .join) ∧
      (s.answer (.commit a)).2 = none ∧ ∀ x ∈ s.failNext, 1 ≤ x.2 := by
  intro a join history s
  obtain ⟨hdemand, hanswer, -, hpositive⟩ := injections_counted true history
  exact ⟨(hdemand .join).1.trans (by decide +kernel), (hdemand .join).2.1.2 (by decide +kernel),
    (hanswer join).1.trans (by decide +kernel), (hanswer (.commit a)).1.trans (by decide +kernel), hpositive⟩

end ClusterMembership
