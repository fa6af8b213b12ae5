import ClusterMembership.Proofs.Deployments
import ClusterMembership.Proofs.Recoveries
import ClusterMembership.Proofs.StagedTwins
/-!
# Recoveries beside a staged plan

A recovery writes its node into the members and leaves the plan alone.  What is planned for an address decides by its last
change (`mem_foldl_applyChange`), so a recovered node is in the effective membership unless that is its leave.  If it is,
the next commit drops the node again, while its controller counts it as active.  `Becomes` is all that a row of orders
does to a cluster, and all that a controller does to its backing cluster, so both are followed in one induction.
-/
namespace ClusterMembership

/-! ## What calls do to an address -/

namespace Call

/-- The call ends the membership of an address. -/
def Ousts (a : Address) : Call → Prop
  | .bootstrap node => node.address ≠ a
  | .leave _ leaving => leaving.address = a
  | _ => False

/-- The call brings an address in. -/
def Admits (a : Address) : Call → Prop
  | .bootstrap node => node.address = a
  | .join _ b _ => b = a
  | .recover failed _ => failed.address = a
  | _ => False

instance (a : Address) : DecidablePred (Admits a)
  | .bootstrap node => inferInstanceAs (Decidable (node.address = a))
  | .join _ b _ => inferInstanceAs (Decidable (b = a))
  | .recover failed _ => inferInstanceAs (Decidable (failed.address = a))
  | .leave .. | .commit _ | .rebalance _ => isFalse id

/-- The call makes an address leave. -/
def Leaves (a : Address) : Call → Prop
  | .leave _ leaving => leaving.address = a
  | _ => False

/-- The call makes up for a planned leave of an address, or ends the plan. -/
def Cancels (a : Address) : Call → Prop
  | .bootstrap _ => True
  | .join _ b _ => b = a
  | .commit _ => True
  | _ => False

end Call

/-- The last change that is planned for an address is its leave. -/
def Dropped (plan : List Change) (a : Address) : Prop := Unrevoked (· = .leave a) (· = .join a) plan

section

open Simulated

variable {members : List Address} {a : Address}

theorem not_dropped_nil : ¬ Dropped [] a := not_unrevoked_nil

theorem dropped_concat (plan : List Change) (x : Change) (a : Address) :
    Dropped (plan ++ [x]) a ↔ x = .leave a ∨ Dropped plan a ∧ x ≠ .join a := unrevoked_concat plan x

/-- **A member outlives the plan unless the last change planned for it is its leave.** -/
theorem mem_foldl_applyChange (h : a ∈ members) (plan : List Change) :
    a ∈ plan.foldl applyChange members ↔ ¬ Dropped plan a := by
  -- from the end, where the change is that decides
  induction plan using List.reverseRecOn with
  | nil => exact iff_of_true h not_dropped_nil
  | append_singleton plan x ih =>
    rw [List.foldl_append, List.foldl_cons, List.foldl_nil, dropped_concat]
    cases x with
    | join b =>
      have hl : Change.join b ≠ .leave a := nofun
      have hj : Change.join b = .join a ↔ a = b := by rw [Change.join.injEq, eq_comm]
      rw [applyChange, mem_including, ih, ne_eq, hj]
      tauto
    | leave b =>
      have hl : Change.leave b = .leave a ↔ a = b := by rw [Change.leave.injEq, eq_comm]
      have hj : Change.leave b ≠ .join a := nofun
      rw [applyChange, mem_excluding, ih, hl]
      tauto

end

namespace SimulatedCluster

open Simulated

/-! ## From one state to another -/

/-- The cluster comes to be another one by carrying out some calls.  Whatever happens besides leaves its membership
alone. -/
inductive Becomes (s : SimulatedCluster) : List Call → SimulatedCluster → Prop
  | refl : Becomes s [] s
  | same {cs s' k} (before : Becomes s cs s') (same : s'.SameMembership k) : Becomes s cs k
  | carryOut {cs s'} (before : Becomes s cs s') (call : Call) : Becomes s (cs ++ [call]) (s'.carryOut call)

variable {s s' k : SimulatedCluster} {a : Address} {cs ds : List Call}

theorem Becomes.trans (h : s.Becomes cs s') (h' : s'.Becomes ds k) : s.Becomes (cs ++ ds) k := by
  induction h' with
  | refl => rw [List.append_nil]; exact h
  | same _ same ih => exact ih.same same
  | carryOut _ c ih => rw [← List.append_assoc]; exact ih.carryOut c

theorem becomes_record_carryOut (s : SimulatedCluster) (c : Call) : s.Becomes [c] ((s.record c).carryOut c) :=
  (Becomes.refl.same ⟨rfl, rfl, rfl⟩ : s.Becomes [] (s.record c)).carryOut c

def carries? (s : SimulatedCluster) : Order → Option Call
  | .call c => if (s.perform c).2 = none then some c else none
  | .instruct _ => none

/-- The calls that are carried out in a row of orders. -/
def carried (s : SimulatedCluster) : List Order → List Call
  | [] => []
  | o :: orders => (s.carries? o).toList ++ (s.obey o).1.carried orders

theorem becomes_obey (s : SimulatedCluster) (o : Order) : s.Becomes (s.carries? o).toList (s.obey o).1 := by
  cases o with
  | instruct i => exact Becomes.refl.same (by cases i <;> exact ⟨rfl, rfl, rfl⟩)
  | call c =>
    rcases perform_cases s c with ⟨-, hp⟩ | ⟨s', why, hp, hm, -⟩
    · simp only [carries?, obey, hp, if_true, Option.toList_some]
      exact becomes_record_carryOut s c
    · simp only [carries?, obey, hp, if_neg (Option.some_ne_none why), Option.toList_none]
      exact Becomes.refl.same hm

theorem becomes_run (s : SimulatedCluster) (orders : List Order) : s.Becomes (s.carried orders) (s.run orders) := by
  induction orders generalizing s with
  | nil => exact .refl
  | cons o orders ih => exact (becomes_obey s o).trans (ih (s.obey o).1)

theorem Becomes.orderly (h : s.Becomes cs s') (ho : s.Orderly) : s'.Orderly := by
  induction h with
  | refl => exact ho
  | same _ same ih => exact same.orderly ih
  | carryOut _ c ih => exact orderly_carryOut ih c

theorem Becomes.stages (h : s.Becomes cs s') : s'.stages = s.stages := by
  induction h with
  | refl => rfl
  | same _ same ih => exact same.stages.trans ih
  | carryOut _ c ih => exact (stages_carryOut _ c).trans ih

/-! ## Following an address -/

/-- A call ends the membership of no address but those that it ousts, and none comes in but those that it admits. -/
theorem effective_carryOut (ho : s.Orderly) (c : Call) (a : Address) :
    (¬ c.Ousts a → a ∈ s.effective → a ∈ (s.carryOut c).effective) ∧
    (¬ c.Admits a → a ∈ (s.carryOut c).effective → a ∈ s.effective) := by
  cases c with
  | bootstrap node =>
    exact ⟨fun hc _ => List.mem_singleton.2 (not_not.1 hc).symm, fun hc h => absurd (List.mem_singleton.1 h).symm hc⟩
  | join t b credentials =>
    have he : (s.carryOut (.join t b credentials)).effective = including s.effective b := effective_change ho (.join b)
    rw [he, mem_including]
    exact ⟨fun _ h => Or.inr h, fun hc h => h.resolve_left (Ne.symm hc)⟩
  | leave t leaving =>
    have he : (s.carryOut (.leave t leaving)).effective = excluding s.effective leaving.address :=
      effective_change ho (.leave leaving.address)
    rw [he, mem_excluding]
    exact ⟨fun hc h => ⟨h, Ne.symm hc⟩, fun _ h => h.1⟩
  | commit t => exact ⟨fun _ h => h, fun _ h => h⟩
  | rebalance t => exact ⟨fun _ h => h, fun _ h => h⟩
  -- it writes to the members below the plan, so the effective membership of others is untouched
  | recover failed sponsor =>
    exact ⟨fun _ => mem_foldl_mono (fun h => mem_including.2 (Or.inr h)) s.plan,
      fun hc => mem_foldl_mono (fun h => (mem_including.1 h).resolve_left (Ne.symm hc)) s.plan⟩

theorem Becomes.keeps {P : SimulatedCluster → Prop} {Q : Call → Prop} (h : s.Becomes cs s') (ho : s.Orderly)
    (same : ∀ {s k : SimulatedCluster}, s.SameMembership k → P s → P k)
    (carryOut : ∀ {s : SimulatedCluster} {c : Call}, s.Orderly → Q c → P s → P (s.carryOut c))
    (hcs : ∀ c ∈ cs, Q c) (hs : P s) : P s' := by
  induction h with
  | refl => exact hs
  | same _ hm ih => exact same hm (ih hcs)
  | carryOut before c ih =>
    exact carryOut (before.orderly ho) (hcs c (List.mem_append_right _ List.mem_cons_self))
      (ih fun c' hc' => hcs c' (List.mem_append_left _ hc'))

/-- **A member stays one until a call ousts it.** -/
theorem Becomes.mem_effective (h : s.Becomes cs s') (ho : s.Orderly) (hcs : ∀ c ∈ cs, ¬ c.Ousts a)
    (ha : a ∈ s.effective) : a ∈ s'.effective :=
  h.keeps (P := fun k => a ∈ k.effective) ho (fun hm hs => by rw [hm.effective]; exact hs)
    (fun hk hc => (effective_carryOut hk _ a).1 hc) hcs ha

/-- **An address that is no member stays none until a call admits it.** -/
theorem Becomes.not_mem_effective (h : s.Becomes cs s') (ho : s.Orderly) (hcs : ∀ c ∈ cs, ¬ c.Admits a)
    (ha : a ∉ s.effective) : a ∉ s'.effective :=
  h.keeps (P := fun k => a ∉ k.effective) ho (fun hm hs => by rw [hm.effective]; exact hs)
    (fun hk hc hs hm => hs ((effective_carryOut hk _ a).2 hc hm)) hcs ha

/-! ## What is planned -/

theorem dropped_plan_carryOut (ho : s.Orderly) (c : Call) (a : Address) :
    Dropped (s.carryOut c).plan a ↔ s.stages = true ∧ c.Leaves a ∨ Dropped s.plan a ∧ ¬ c.Cancels a := by
  have hchange (x : Change) :
      Dropped (s.change x).plan a ↔ s.stages = true ∧ x = .leave a ∨ Dropped s.plan a ∧ x ≠ .join a := by
    rw [plan_change]
    cases hs : s.stages with
    | true => rw [if_pos rfl, dropped_concat, eq_self, true_and]
    | false =>
      -- nothing is planned here, so neither side holds
      have hp : ¬ Dropped s.plan a := by rw [ho hs]; exact not_dropped_nil
      simp [hp]
  cases c with
  | bootstrap node => exact iff_of_false not_dropped_nil (by simp [Call.Leaves, Call.Cancels])
  | join t b credentials => exact (hchange (.join b)).trans (by simp [Call.Leaves, Call.Cancels])
  | leave t leaving => exact (hchange (.leave leaving.address)).trans (by simp [Call.Leaves, Call.Cancels])
  | commit t => exact iff_of_false not_dropped_nil (by simp [Call.Leaves, Call.Cancels])
  | rebalance t => simp [Call.Leaves, Call.Cancels, carryOut]
  | recover failed sponsor => simp [Call.Leaves, Call.Cancels, carryOut]

/-- **How a leave comes to be planned**: it was staged, and neither a join of the address nor a commit nor a bootstrap came
after it. -/
theorem Becomes.dropped_iff (h : s.Becomes cs s') (hp : s.plan = []) :
    Dropped s'.plan a ↔ s.stages = true ∧ Unrevoked (Call.Leaves a) (Call.Cancels a) cs := by
  have ho : s.Orderly := fun _ => hp
  induction h with
  | refl => rw [hp]; exact iff_of_false not_dropped_nil fun h => not_unrevoked_nil h.2
  | same _ same ih => rw [same.plan]; exact ih
  | carryOut before c ih =>
    rw [dropped_plan_carryOut (before.orderly ho), before.stages, unrevoked_concat]
    tauto

/-! ## What a recovery brings about -/

/-- A recovery of `a` makes it a member, and an effective one unless its leave is planned.  It is planned if a leave of it
was staged among the calls that were carried out before and nothing has undone that. -/
structure Regains (s : SimulatedCluster) (before : List Call) (a : Address) (s' : SimulatedCluster) : Prop where
  member : a ∈ s'.members
  effective : a ∈ s'.effective ↔ ¬ Dropped s.plan a
  dropped : Dropped s.plan a ↔ s.stages = true ∧ Unrevoked (Call.Leaves a) (Call.Cancels a) before
  others : ∀ b ≠ a, (b ∈ s'.effective ↔ b ∈ s.effective)
  plan : s'.plan = s.plan

/-- The address is a member to whoever commits or makes it leave. -/
structure Has (s : SimulatedCluster) (a : Address) : Prop where
  effective : a ∈ s.effective
  commits : ∀ t, (s.perform (.commit t)).2 = none → a ∈ (s.perform (.commit t)).1.members
  leaves : ∀ t leaving, leaving.address = a →
    (s.perform (.leave t leaving)).2 ≠ some (.leaveRejected (a.text ++ " is not a member"))

/-- The address is no member to whoever commits or makes it leave. -/
structure Lacks (s : SimulatedCluster) (a : Address) : Prop where
  effective : a ∉ s.effective
  commits : ∀ t, (s.perform (.commit t)).2 = none → a ∉ (s.perform (.commit t)).1.members
  leaves : ∀ t leaving, leaving.address = a →
    (s.perform (.leave t leaving)).2 = some (.leaveRejected (a.text ++ " is not a member")) ∨
    (s.perform (.leave t leaving)).2 = some (.injected .leave)

theorem regains_of_carryOut {s₀ : SimulatedCluster} (h : s₀.Becomes cs s) (hp : s₀.plan = []) (failed sponsor : Target) :
    s.Regains cs failed.address ((s.record (.recover failed sponsor)).carryOut (.recover failed sponsor)) where
  member := mem_including.2 (Or.inl rfl)
  effective := mem_foldl_applyChange (mem_including.2 (Or.inl rfl)) s.plan
  dropped := by rw [h.dropped_iff hp, h.stages]
  others b hb :=
    have hc := effective_carryOut (s := s.record (.recover failed sponsor)) (h.orderly fun _ => hp)
      (.recover failed sponsor) b
    ⟨hc.2 (Ne.symm hb), hc.1 id⟩
  plan := rfl

theorem regains_perform {s₀ : SimulatedCluster} (h : s₀.Becomes cs s) (hp : s₀.plan = []) {failed sponsor : Target}
    (hq : (s.perform (.recover failed sponsor)).2 = none) :
    s.Regains cs failed.address (s.perform (.recover failed sponsor)).1 := by
  rcases perform_cases s (.recover failed sponsor) with ⟨-, hr⟩ | ⟨s', why, hr, -, -⟩
  · rw [hr]; exact regains_of_carryOut h hp failed sponsor
  · rw [hr] at hq; cases hq

theorem Regains.not_dropped (h : s.Regains cs a s') (hs : s.stages = false) : ¬ Dropped s.plan a :=
  fun hd => absurd (h.dropped.1 hd).1 (by rw [hs]; exact Bool.false_ne_true)

theorem members_commit (t : Target) (h : (s.perform (.commit t)).2 = none) :
    (s.perform (.commit t)).1.members = s.effective := by
  rcases perform_cases s (.commit t) with ⟨-, hp⟩ | ⟨s', why, hp, -, -⟩
  · rw [hp]; rfl
  · rw [hp] at h; cases h

theorem objection?_leave_of_mem {t leaving : Target} (h : leaving.address ∈ s.effective) :
    s.objection? (.leave t leaving) ≠ some (.leaveRejected (leaving.address.text ++ " is not a member")) := by
  have hm : ¬ (!s.effective.contains leaving.address) = true := by simpa using h
  rw [objection?, if_neg hm]
  split
  · simp
  · exact fun h => by cases h

theorem objection?_leave_of_not_mem {t leaving : Target} (h : leaving.address ∉ s.effective) :
    s.objection? (.leave t leaving) = some (.leaveRejected (leaving.address.text ++ " is not a member")) := by
  have hm : (!s.effective.contains leaving.address) = true := by simpa using h
  rw [objection?, if_pos hm]

theorem has_of_mem (h : a ∈ s.effective) : s.Has a where
  effective := h
  commits t ht := by rw [members_commit t ht]; exact h
  leaves t leaving := by
    rintro rfl hl
    rcases perform_cases s (.leave t leaving) with ⟨-, hp⟩ | ⟨s', why, hp, -, rfl | ho⟩
    · rw [hp] at hl; cases hl
    · rw [hp] at hl; cases hl
    · rw [hp] at hl
      exact objection?_leave_of_mem h (ho.trans hl)

theorem lacks_of_not_mem (h : a ∉ s.effective) : s.Lacks a where
  effective := h
  commits t ht := by rw [members_commit t ht]; exact h
  leaves t leaving := by
    rintro rfl
    have hno := objection?_leave_of_not_mem (t := t) h
    rcases perform_cases s (.leave t leaving) with ⟨ho, -⟩ | ⟨s', why, hp, -, rfl | ho⟩
    · rw [hno] at ho; cases ho
    · rw [hp]; exact Or.inr rfl
    · rw [hp, ← ho]; exact Or.inl hno

/-- **What becomes of a recovered address**, as long as no call ends its membership, or brings it in anew. -/
theorem Regains.later (h : s.Regains cs a s') (ho : s'.Orderly) (hk : s'.Becomes ds k) :
    (¬ Dropped s.plan a → (∀ c ∈ ds, ¬ c.Ousts a) → a ∈ k.effective) ∧
    (Dropped s.plan a → (∀ c ∈ ds, ¬ c.Admits a) → a ∉ k.effective) :=
  ⟨fun hd hds => hk.mem_effective ho hds (h.effective.2 hd),
    fun hd hds => hk.not_mem_effective ho hds fun ha => h.effective.1 ha hd⟩

end SimulatedCluster

/-! ## Controllers -/

instance (a : Activity) (r : Recovery) : Decidable (a = .recovering r) :=
  match a with
  | .recovering r' => decidable_of_iff (r' = r) ⟨congrArg _, Activity.recovering.inj⟩
  | .resting => isFalse nofun
  | .passing .. => isFalse nofun

namespace Moment

theorem recovering_step {m : Moment} {e : Event} {r : Recovery} (h : (m.step e).activity = .recovering r) :
    m.activity = .recovering r ∨ ∃ f s, m.cluster.beginRecovery f s = .ok r := by
  obtain ⟨c, activity, o⟩ := m
  cases e with
  | reconcile =>
    cases activity with
    | resting => exact absurd h (activity_ofProgress_ne o _ r)
    | _ => exact Or.inl h
  | recover f s =>
    simp only [step, recover] at h
    split at h
    · next r' _ hr => cases h; exact Or.inr ⟨f, s, hr⟩
    · exact Or.inl h
  | answer a =>
    cases activity with
    | passing call p => exact absurd h (activity_ofProgress_ne o _ r)
    | _ => cases h
  | _ => exact Or.inl h

/-- **The call of a recovery is about the node that it records.** -/
theorem call_of_recovering {m : Moment} (h : m.activity = .resting) (history : List Event) {r : Recovery}
    (hr : (m.run history).activity = .recovering r) : ∃ sponsor, r.call = .recover r.node.target sponsor := by
  refine run_induction (P := fun m => ∀ r, m.activity = .recovering r → ∃ sponsor, r.call = .recover r.node.target sponsor)
    (fun r hr => ?_) (fun m e _ ih r hr => ?_) r hr
  · rw [h] at hr; cases hr
  · rcases recovering_step hr with hr | ⟨f, s, hr⟩
    · exact ih r hr
    · obtain ⟨sp, n, -, -, -, -, rfl⟩ := Cluster.beginRecovery_ok hr
      exact ⟨sp.target, rfl⟩

end Moment

namespace Deployment

open SimulatedCluster

def carries? (d : Deployment) : Turn → Option Call
  | .respond => d.moment.activity.call?.filter fun c =>
      (d.backing.performWithin d.moment.cluster.config.actionTimeout c).2.1 = .done
  | _ => none

/-- The calls that are carried out in a row of turns. -/
def carried (d : Deployment) : List Turn → List Call
  | [] => []
  | t :: turns => (d.carries? t).toList ++ (d.step t).carried turns

variable {d : Deployment} {c : Call}

theorem carries?_respond_iff : d.carries? .respond = some c ↔ d.moment.activity.call? = some c ∧
    (d.backing.performWithin d.moment.cluster.config.actionTimeout c).2.1 = .done := by
  rw [carries?, Option.filter_eq_some_iff, decide_eq_true_eq]

theorem respond_of_carries? (h : d.carries? .respond = some c) :
    d.respond = ⟨d.moment.answer .done, (d.backing.record c).carryOut c⟩ := by
  obtain ⟨hc, hdone⟩ := carries?_respond_iff.1 h
  rw [respond_of_call? hc, hdone]
  rcases performWithin_cases d.backing d.moment.cluster.config.actionTimeout c with ⟨-, -, hr⟩ | ⟨-, ht | ⟨why, hw, -⟩⟩
  · rw [hr]
  · rw [hdone] at ht; cases ht
  · rw [hdone] at hw; cases hw

theorem becomes_step (d : Deployment) (t : Turn) : d.backing.Becomes (d.carries? t).toList (d.step t).backing := by
  cases t with
  | event e =>
    by_cases he : ∃ a, e = .answer a
    · obtain ⟨a, rfl⟩ := he
      exact .refl
    · rw [step_event d (fun a ha => he ⟨a, ha⟩)]
      exact .refl
  | instruct i => exact Becomes.refl.same (by cases i <;> exact ⟨rfl, rfl, rfl⟩)
  | respond =>
    cases hq : d.carries? .respond with
    | some c =>
      rw [step, respond_of_carries? hq]
      exact becomes_record_carryOut d.backing c
    | none =>
      cases hc : d.moment.activity.call? with
      | none => rw [step, respond, hc]; exact .refl
      | some c =>
        -- the call was made and is not carried out: it was refused or came too late
        rw [step, respond_of_call? hc]
        rcases performWithin_cases d.backing d.moment.cluster.config.actionTimeout c with ⟨hdone, -, -⟩ | ⟨hm, -⟩
        · rw [carries?_respond_iff.2 ⟨hc, hdone⟩] at hq; cases hq
        · exact Becomes.refl.same hm

theorem becomes_run (d : Deployment) (turns : List Turn) :
    d.backing.Becomes (d.carried turns) (d.run turns).backing := by
  induction turns generalizing d with
  | nil => exact .refl
  | cons t turns ih => exact (becomes_step d t).trans (ih (d.step t))

/-- **A recovery that is carried out readmits its node** on the controller's side. -/
theorem readmits_respond {known : Node → Prop} (hs : d.moment.Sound known) {r : Recovery}
    (hr : d.moment.activity = .recovering r) {sponsor : Target} (hc : r.call = .recover r.node.target sponsor)
    (h : d.carries? .respond = some r.call) : d.moment.cluster.Readmits r.node d.respond.moment.cluster := by
  have hid := hs.recovery_id r hr
  have hcluster : d.respond.moment.cluster = (d.moment.cluster.enroll r.node.id r.node).publish := by
    rw [respond_of_carries? h, Moment.answer, hr, hid]
    exact congrArg Prod.fst (Cluster.finishRecovery_of_success (by rw [hc]; rfl) rfl)
  rw [hcluster]
  exact (Cluster.SameRecords.refl d.moment.cluster).readmits r.node

theorem regains_respond {s₀ : SimulatedCluster} {cs : List Call} (hs : s₀.Becomes cs d.backing) (hp : s₀.plan = [])
    {r : Recovery} {sponsor : Target} (hc : r.call = .recover r.node.target sponsor)
    (h : d.carries? .respond = some r.call) : d.backing.Regains cs r.node.address d.respond.backing := by
  rw [respond_of_carries? h, hc]
  exact regains_of_carryOut hs hp r.node.target sponsor

theorem members_of_commit {t : Target} (h : d.carries? .respond = some (.commit t)) :
    d.respond.backing.members = d.backing.effective := by
  rw [respond_of_carries? h]
  rfl

end Deployment

open SimulatedCluster

/-- **A recovered node is a member unless its leave is what is planned last**: a leave was staged, and neither a join of
its address nor a commit nor a bootstrap came after it.  If it is a member, it is one until a call ousts it, through every
commit, and no leave is refused for want of membership.  If its leave is planned, the next commit drops it, and it cannot
leave, until a call admits it.  This is so in every state that orders bring a cluster to, and in every state that a
controller brings its backing cluster to, which records the node as active either way. -/
theorem recovered_member (config : Config) (stages : Bool) (group : String) :
    (∀ (orders : List Order) (failed sponsor : Target) (later : List Order),
      let s := ({ stages } : SimulatedCluster).run orders
      let q := s.perform (.recover failed sponsor)
      let k := q.1.run later
      q.2 = none →
      s.Regains (({ stages } : SimulatedCluster).carried orders) failed.address q.1 ∧
      (stages = false → ¬ Dropped s.plan failed.address) ∧
      (¬ Dropped s.plan failed.address → (∀ c ∈ q.1.carried later, ¬ c.Ousts failed.address) → k.Has failed.address) ∧
      (Dropped s.plan failed.address → (∀ c ∈ q.1.carried later, ¬ c.Admits failed.address) → k.Lacks failed.address)) ∧
    ∀ (turns : List Turn) (r : Recovery) (later : List Turn),
      let d := (Deployment.fresh config stages group).run turns
      let a := r.node.address
      let k := d.respond.run later
      d.moment.activity = .recovering r → d.carries? .respond = some r.call →
      d.moment.cluster.Readmits r.node d.respond.moment.cluster ∧
      d.backing.Regains ((Deployment.fresh config stages group).carried turns) a d.respond.backing ∧
      (stages = false → ¬ Dropped d.backing.plan a) ∧
      (¬ Dropped d.backing.plan a → (∀ c ∈ d.respond.carried later, ¬ c.Ousts a) →
        k.backing.Has a ∧ ∀ t, k.carries? .respond = some (.commit t) → a ∈ k.respond.backing.members) ∧
      (Dropped d.backing.plan a → (∀ c ∈ d.respond.carried later, ¬ c.Admits a) →
        k.backing.Lacks a ∧ ∀ t, k.carries? .respond = some (.commit t) → a ∉ k.respond.backing.members) := by
  constructor
  · intro orders failed sponsor later s q k hq
    have hs : SimulatedCluster.Becomes { stages } (SimulatedCluster.carried { stages } orders) s :=
      becomes_run { stages } orders
    have hregains := regains_perform hs rfl hq
    have ho : q.1.Orderly := orderly_perform (hs.orderly fun _ => rfl) (.recover failed sponsor)
    obtain ⟨hkept, hlost⟩ := hregains.later ho (becomes_run q.1 later)
    exact ⟨hregains, fun hst => hregains.not_dropped (hs.stages.trans hst), fun hd hl => has_of_mem (hkept hd hl),
      fun hd hl => lacks_of_not_mem (hlost hd hl)⟩
  · intro turns r later d a k hr hc
    have hs : SimulatedCluster.Becomes { stages } ((Deployment.fresh config stages group).carried turns) d.backing :=
      Deployment.becomes_run (Deployment.fresh config stages group) turns
    obtain ⟨history, hh⟩ := Deployment.exists_history turns (Deployment.fresh config stages group)
    have hsound : d.moment.Sound fun _ => True := by
      rw [hh]
      exact Moment.sound_run (Moment.sound_fresh config stages group) fun _ _ => trivial
    obtain ⟨sponsor, hcall⟩ := Moment.call_of_recovering rfl history (hh ▸ hr)
    have hregains := Deployment.regains_respond hs rfl hcall hc
    have ho : d.respond.backing.Orderly := ((Deployment.becomes_step d .respond).orderly (hs.orderly fun _ => rfl))
    obtain ⟨hkept, hlost⟩ := hregains.later ho (Deployment.becomes_run d.respond later)
    refine ⟨Deployment.readmits_respond hsound hr hcall hc, hregains,
      fun hst => hregains.not_dropped (hs.stages.trans hst), fun hd hl => ?_, fun hd hl => ?_⟩
    · exact ⟨has_of_mem (hkept hd hl), fun t ht => by rw [Deployment.members_of_commit ht]; exact hkept hd hl⟩
    · exact ⟨lacks_of_not_mem (hlost hd hl), fun t ht => by rw [Deployment.members_of_commit ht]; exact hlost hd hl⟩

/-- The first node has the second join and leave again, and only the join is committed. -/
def leaving (a b : Target) : List Order :=
  [.call (.bootstrap a), .call (.join a b.address b.credentials), .call (.commit a), .call (.leave a b)]

/-- The second of two active nodes is unready for a while.  The commit of its leave is made to fail, and its recovery is
asked for. -/
def leftUncommitted (a b : Node) : List Turn :=
  [.event (.enter a), .event (.enter b), .event (.report a .serviceUp true), .event (.report b .serviceUp true),
    .event .reconcile, .respond, .event (.report a .coordinatorInitialized true),
    .event .reconcile, .respond, .respond, .respond,
    .event (.report b .serviceUp false), .instruct (.failNext .commit), .event .reconcile, .respond, .respond,
    .event (.recover b.id a.id)]

/-- The commit that follows drops the recovered node, which its controller goes on counting as active. -/
theorem recovered_member_dropped :
    let a : Node := ⟨0, ⟨"a"⟩, ⟨"h", 1⟩, ⟨"u", "p"⟩⟩
    let b : Node := ⟨1, ⟨"b"⟩, ⟨"h", 2⟩, ⟨"u", "p"⟩⟩
    let s := ({ stages := true } : SimulatedCluster).run (leaving a.target b.target)
    let q := s.perform (.recover b.target a.target)
    let d := (Deployment.fresh {} true "g").run (leftUncommitted a b)
    let k := d.respond.run [.event (.report b .serviceUp true), .event .reconcile]
    q.2 = none ∧ b.address ∈ q.1.members ∧ Dropped s.plan b.address ∧
      (q.1.run [.call (.commit a.target)]).Lacks b.address ∧
      d.moment.activity = .recovering ⟨b.id, a.id, b, .recover b.target a.target⟩ ∧
      d.carries? .respond = some (.recover b.target a.target) ∧ Dropped d.backing.plan b.address ∧
      k.carries? .respond = some (.commit a.target) ∧ b.address ∉ k.respond.backing.members ∧
      k.respond.moment.cluster.active.nodes = [a, b] := by
  intro a b
  obtain ⟨hcluster, hcontroller⟩ := recovered_member {} true "g"
  have hq := hcluster (leaving a.target b.target) b.target a.target [.call (.commit a.target)] (by decide +kernel)
  have hs : Dropped (SimulatedCluster.run { stages := true } (leaving a.target b.target)).plan b.address :=
    ⟨[], .leave b.address, [], by decide +kernel, rfl, nofun⟩
  have hd := hcontroller (leftUncommitted a b) ⟨b.id, a.id, b, .recover b.target a.target⟩
    [.event (.report b .serviceUp true), .event .reconcile] (by decide +kernel) (by decide +kernel)
  have hl : Dropped ((Deployment.fresh {} true "g").run (leftUncommitted a b)).backing.plan b.address :=
    ⟨[], .leave b.address, [], by decide +kernel, rfl, nofun⟩
  exact ⟨by decide +kernel, hq.1.member, hs, hq.2.2.2 hs (by decide +kernel), by decide +kernel, by decide +kernel, hl,
    by decide +kernel, (hd.2.2.2.2 hl (by decide +kernel)).2 a.target (by decide +kernel), by decide +kernel⟩

end ClusterMembership
