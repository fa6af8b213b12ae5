import ClusterMembership.Proofs.Incidents
/-!
# What calls leave behind

A call comes in and is recorded, which is all that ever happens of a call that its caller gives up.  When it takes effect
it is carried out, it is refused and nothing changes, or it uses up one failure that was asked for (`Call.Effect`).  So
the membership and the coordinators are what the calls that were carried out made of them, one after the other
(`SameStanding.live`), and a call that was given up can be left out of a history without a trace but its record
(`clearLog_live`).
-/
namespace ClusterMembership

open Simulated

/-- Who is a member once a change is made. -/
def Change.MemberAfter (members : List Address) (a : Address) : Change → Prop
  | .join b => a = b ∨ a ∈ members
  | .leave b => a ∈ members ∧ a ≠ b

/-- A change is put at the end of the plan, or made at once if changes are not staged. -/
structure Change.Makes (x : Change) (s k : SimulatedCluster) : Prop where
  plan : k.plan = if s.stages then s.plan ++ [x] else s.plan
  staged : s.stages = true → k.members = s.members
  immediate : s.stages = false → ∀ a, a ∈ k.members ↔ x.MemberAfter s.members a
  initialized : k.initialized = s.initialized

/-- What a call prescribes: who is a member, what is planned, and who has been made a coordinator once it is carried
out. -/
def Call.Prescribes (s k : SimulatedCluster) : Call → Prop
  | .bootstrap node =>
    node.address ∉ s.initialized ∧ (∀ a, a ∈ k.initialized ↔ a = node.address ∨ a ∈ s.initialized) ∧
      (∀ a, a ∈ k.members ↔ a = node.address) ∧ k.plan = []
  | .join _ address _ => (Change.join address).Makes s k
  | .leave _ leaving => (Change.leave leaving.address).Makes s k
  | .commit _ => (∀ a, a ∈ k.members ↔ a ∈ s.effective) ∧ k.plan = [] ∧ k.initialized = s.initialized
  | .rebalance _ => k.members = s.members ∧ k.plan = s.plan ∧ k.initialized = s.initialized
  | .recover failed _ =>
    (∀ a, a ∈ k.members ↔ a = failed.address ∨ a ∈ s.members) ∧ k.plan = s.plan ∧
      ∀ a, a ∈ k.initialized ↔ a ∈ s.initialized ∧ a ≠ failed.address

/-- What a call does to a cluster when it takes effect, by what it is answered. -/
inductive Call.Effect (c : Call) (s : SimulatedCluster) : Option Reason → SimulatedCluster → Prop
  /-- It does what it prescribes, and touches nothing else. -/
  | done {k : SimulatedCluster} (prescribed : c.Prescribes s k)
      (frame : k = { s with initialized := k.initialized, members := k.members, plan := k.plan }) : c.Effect s none k
  /-- All such calls are to fail, or something stands against it, and nothing changes. -/
  | refused {why : Reason} (grounds : c.action ∈ s.failAlways ∧ why = .injected c.action ∨ s.objection? c = some why) :
    c.Effect s (some why) s
  /-- It uses up one of the failures that were asked for, and nothing else changes. -/
  | spent {k : SimulatedCluster} (free : c.action ∉ s.failAlways)
      (counted : s.outstanding c.action = k.outstanding c.action + 1)
      (others : ∀ b, b ≠ c.action → k.outstanding b = s.outstanding b)
      (frame : k = { s with failNext := k.failNext }) : c.Effect s (some (.injected c.action)) k

/-- What is recorded of an incident. -/
def Incident.record? : Incident → Option Record
  | .arrival c => some c.record
  | _ => none

namespace SimulatedCluster

variable {s k : SimulatedCluster}

/-! ## Calls that take effect -/

theorem change_makes (s : SimulatedCluster) (x : Change) : x.Makes s (s.change x) where
  plan := plan_change s x
  staged hs := by rw [change, if_pos hs]
  immediate hs a := by
    rw [change, if_neg (by simp [hs])]
    cases x with
    | join b => exact mem_including
    | leave b => exact mem_excluding
  initialized := by unfold change; split <;> rfl

theorem carryOut_prescribes {c : Call} (ho : s.objection? c = none) : c.Prescribes s (s.carryOut c) := by
  cases c with
  | bootstrap node =>
    have hnew : node.address ∉ s.initialized := fun hm => by
      rw [objection?, if_pos (List.contains_iff_mem.2 hm)] at ho
      cases ho
    exact ⟨hnew, fun a => mem_including, fun a => List.mem_singleton, rfl⟩
  | join t address credentials => exact change_makes s (.join address)
  | leave t leaving => exact change_makes s (.leave leaving.address)
  | commit t => exact ⟨fun a => Iff.rfl, rfl, rfl⟩
  | rebalance t => exact ⟨rfl, rfl, rfl⟩
  | recover failed sponsor => exact ⟨fun a => mem_including, rfl, fun a => mem_excluding⟩

/-- **A call that takes effect does what it prescribes, or changes no more than one counter.** -/
theorem answer_effect (s : SimulatedCluster) (c : Call) : c.Effect s (s.answer c).2 (s.answer c).1 := by
  rcases takeFailure_spec s c.action with ⟨ha, ht⟩ | ⟨-, -, ht⟩ | ⟨n, ha, hn, ht⟩
  · rw [answer, ht]; exact .refused (Or.inl ⟨ha, rfl⟩)
  · rw [answer, ht]
    cases ho : s.objection? c with
    | none => simp only [ho]; exact .done (carryOut_prescribes ho) (carryOut_eq s c)
    | some why => simp only [ho]; exact .refused (Or.inr ho)
  · rw [answer, ht]
    refine .spent ha ?_ (fun b hb => ?_) rfl
    · rw [hn, outstanding_setCounter, if_pos rfl]
    · rw [outstanding_setCounter, if_neg hb]

/-! ## Histories -/

/-- What a call does to the standing depends on the standing alone. -/
theorem SameStanding.carryOut (h : s.SameStanding k) (c : Call) : (s.carryOut c).SameStanding (k.carryOut c) := by
  have he := h.toSameMembership.effective
  have hchange (x : Change) : (s.change x).SameStanding (k.change x) := by
    by_cases hs : s.stages = true
    · rw [change, change, if_pos hs, if_pos (h.stages.trans hs)]
      exact ⟨⟨h.stages, h.members, congrArg (· ++ [x]) h.plan⟩, h.initialized⟩
    · rw [change, change, if_neg hs, if_neg (h.stages ▸ hs)]
      exact ⟨⟨h.stages, congrArg (applyChange · x) h.members, h.plan⟩, h.initialized⟩
  cases c with
  | bootstrap node => exact ⟨⟨h.stages, rfl, rfl⟩, congrArg (including · node.address) h.initialized⟩
  | join t address credentials => exact hchange (.join address)
  | leave t leaving => exact hchange (.leave leaving.address)
  | commit t => exact ⟨⟨h.stages, he, rfl⟩, h.initialized⟩
  | rebalance t => exact h
  | recover failed sponsor =>
    exact ⟨⟨h.stages, congrArg (including · failed.address) h.members, h.plan⟩,
      congrArg (excluding · failed.address) h.initialized⟩

theorem SameStanding.trans {m : SimulatedCluster} (h : s.SameStanding k) (h' : k.SameStanding m) : s.SameStanding m :=
  ⟨⟨h'.stages.trans h.stages, h'.members.trans h.members, h'.plan.trans h.plan⟩, h'.initialized.trans h.initialized⟩

/-- **The standing is what the calls that were carried out made of it**, in the order in which they took effect. -/
theorem SameStanding.live (h : k.SameStanding s) (history : List Incident) :
    ((s.landed history).foldl SimulatedCluster.carryOut k).SameStanding (s.live history) := by
  induction history generalizing s k with
  | nil => exact h
  | cons i history ih =>
    rw [landed, List.foldl_append]
    rcases undergo_cases s i with ⟨hi, hm⟩ | ⟨c, hi, -, hc⟩
    · rw [hi]; exact ih (h.trans hm)
    · rw [hi]; exact ih (hc ▸ h.carryOut c)

theorem takeFailure_clearLog (s : SimulatedCluster) (a : Action) :
    s.clearLog.takeFailure a = ((s.takeFailure a).1.clearLog, (s.takeFailure a).2) := by
  rcases takeFailure_spec s a with ⟨ha, h⟩ | ⟨ha, hn, h⟩ | ⟨n, ha, hn, h⟩
  · rw [h]; exact if_pos (List.contains_iff_mem.2 ha)
  all_goals
    have hc : ¬ s.clearLog.failAlways.contains a = true := fun hc => ha (List.contains_iff_mem.1 hc)
    have ho : s.clearLog.outstanding a = s.outstanding a := rfl
    rw [takeFailure, if_neg hc, ho, hn]
    exact congrArg (fun r => (r.1.clearLog, r.2)) h.symm

theorem carryOut_clearLog (s : SimulatedCluster) (c : Call) : s.clearLog.carryOut c = (s.carryOut c).clearLog := by
  have hchange (x : Change) : s.clearLog.change x = (s.change x).clearLog := by
    by_cases hs : s.stages = true
    · rw [change, change, if_pos hs, if_pos (show s.clearLog.stages = true from hs)]; rfl
    · rw [change, change, if_neg hs, if_neg (show ¬ s.clearLog.stages = true from hs)]; rfl
  cases c with
  | join t address credentials => exact hchange (.join address)
  | leave t leaving => exact hchange (.leave leaving.address)
  | _ => rfl

theorem objection?_clearLog (s : SimulatedCluster) (c : Call) : s.clearLog.objection? c = s.objection? c := by
  cases c <;> rfl

/-- **What a call is answered and does depends on nothing that is recorded.** -/
theorem answer_clearLog (s : SimulatedCluster) (c : Call) :
    s.clearLog.answer c = ((s.answer c).1.clearLog, (s.answer c).2) := by
  rw [answer, answer, takeFailure_clearLog]
  rcases s.takeFailure c.action with ⟨t, _ | why⟩
  · simp only [objection?_clearLog]
    cases t.objection? c with
    | none => simp only [carryOut_clearLog]
    | some why => rfl
  · rfl

theorem clearLog_undergo (s : SimulatedCluster) (i : Incident) :
    (s.undergo i).clearLog = (s.clearLog.undergo i).clearLog := by
  cases i with
  | arrival c => rfl
  | landing c => rw [undergo, undergo, answer_clearLog]; rfl
  | instruction i => cases i <;> rfl

/-- **Clusters that differ in their records alone keep to that.** -/
theorem clearLog_live (h : s.clearLog = k.clearLog) (history : List Incident) :
    (s.live history).clearLog = (k.live history).clearLog := by
  induction history generalizing s k with
  | nil => exact h
  | cons i history ih => exact ih (by rw [clearLog_undergo s, clearLog_undergo k, h])

theorem log_answer (s : SimulatedCluster) (c : Call) : (s.answer c).1.log = s.log := by
  rcases answer_cases s c with ⟨-, h⟩ | ⟨why, -, h⟩ | ⟨counters, h⟩
  · rw [h, carryOut_eq]
  · rw [h]
  · rw [h]

/-- **Every call that comes in is recorded once**, in the order in which they come in. -/
theorem log_live {history : List Incident} (h : .instruction .clearLog ∉ history) :
    (s.live history).log = s.log ++ history.filterMap Incident.record? := by
  induction history generalizing s with
  | nil => exact (List.append_nil _).symm
  | cons i history ih =>
    obtain ⟨hi, hrest⟩ : .instruction .clearLog ≠ i ∧ .instruction .clearLog ∉ history := by simpa using h
    have hstep : (s.undergo i).log = s.log ++ i.record?.toList := by
      cases i with
      | arrival c => rfl
      | landing c => exact (log_answer s c).trans (List.append_nil _).symm
      | instruction i =>
        cases i with
        | clearLog => exact absurd rfl hi
        | _ => exact (List.append_nil _).symm
    rw [live, List.foldl_cons, ← live, ih hrest, hstep, List.append_assoc]
    cases i <;> rfl

end SimulatedCluster

/-- **A call that fails or is cut off changes no membership.**  Its arrival adds one record.  Once its latency has passed,
it does what it prescribes, or it fails and at most uses up one failure that was asked for; a call that is given up before
that has left its record, and otherwise all that happens later is as if it had never come in.  So at any time the standing
is what the calls that were carried out have made of it, and the log has the calls in the order in which they came in. -/
theorem unfinished_calls_inert (s : SimulatedCluster) :
    (∀ c : Call,
      c.Effect s (s.answer c).2 (s.answer c).1 ∧
      ∀ limit,
        let arrived : SimulatedCluster := { s with log := s.log ++ [c.record] }
        let r := s.performWithin limit c
        if limit.ceilMillis < s.latency then
          r.1 = arrived ∧ r.2.1 = .timedOut ∧ ∀ later, (r.1.live later).clearLog = (s.live later).clearLog
        else ∃ reply, c.Effect arrived reply r.1 ∧ r.2.1 = reply.elim .done fun why => .refused why.refusal) ∧
    ∀ history,
      ((s.landed history).foldl SimulatedCluster.carryOut s).SameStanding (s.live history) ∧
      (.instruction .clearLog ∉ history → (s.live history).log = s.log ++ history.filterMap Incident.record?) := by
  refine ⟨fun c => ⟨s.answer_effect c, fun limit => ?_⟩, fun history => ?_⟩
  · intro arrived r
    simp only [r, SimulatedCluster.performWithin_eq]
    by_cases hl : limit.ceilMillis < s.latency
    · rw [if_pos hl, if_pos hl]
      exact ⟨rfl, rfl, SimulatedCluster.clearLog_live rfl⟩
    · rw [if_neg hl, if_neg hl]
      exact ⟨_, (s.record c).answer_effect c, rfl⟩
  · have hsame : s.SameStanding s := ⟨⟨rfl, rfl, rfl⟩, rfl⟩
    exact ⟨hsame.live history, SimulatedCluster.log_live⟩

/-- A join that is cut off and a leave that uses up a failure leave two records and nothing else. -/
theorem unfinished_calls_inert_slowJoin :
    let a : Target := ⟨⟨"a"⟩, ⟨"h", 1⟩, ⟨"u", "p"⟩⟩
    let join : Call := .join a ⟨"h", 2⟩ a.credentials
    let s := ({ stages := false } : SimulatedCluster).live [.arrival (.bootstrap a), .landing (.bootstrap a),
      .instruction (.failNext .leave), .instruction (.setLatency 1001)]
    let k := (s.performWithin (.ofSeconds 1) join).1
    let history : List Incident := [.arrival (.leave a a), .landing (.leave a a)]
    k.members = [a.address] ∧ k.outstanding .leave = 1 ∧ (k.live history).members = [a.address] ∧
      (k.live history).outstanding .leave = 0 ∧
      (k.live history).log = [.bootstrap a.id, .join a.id ⟨"h", 2⟩, .leave a.id a.id] := by
  intro a join s k history
  have hk : k = { s with log := s.log ++ [join.record] } := by
    have h := ((unfinished_calls_inert s).1 join).2 (.ofSeconds 1)
    rw [if_pos (by decide +kernel)] at h
    exact h.1
  have hlive := (unfinished_calls_inert k).2 history
  refine ⟨by decide +kernel, by decide +kernel, ?_, by decide +kernel, ?_⟩
  · rw [hlive.1.members, hk]; decide +kernel
  · rw [hlive.2 (by simp [history]), hk]; decide +kernel

end ClusterMembership
