import ClusterMembership.Proofs.Branches
import ClusterMembership.Proofs.Incidents
import ClusterMembership.Proofs.RequestScripts
/-!
# The kinds of failed calls

A failed call tells by its kind what a controller has to know (`Tells`): nobody was reached, the node to join was a member
already, or the action itself failed.  Of a simulated cluster this is read off its answer; of an operation it is read off
the step at which it stops and what the peer does there (`Blames`).  Both keep the same contract
(`failure_kinds_kept`).
-/
namespace ClusterMembership

/-- The kind of a failed call says whether anybody was reached, and whether the node was a member already; any other
failure is the action's own. -/
structure Tells (kind : FailureKind) (action : Action) (unreached member : Prop) : Prop where
  unreachable : kind = .unreachable ↔ unreached
  alreadyMember : kind = .alreadyMember ↔ member
  own : ¬unreached → ¬member → kind = action.failureKind
  ne_other : kind ≠ .other
  action_eq_join : kind = .alreadyMember → action = .join

section

variable {action : Action} {unreached member : Prop}

theorem Tells.of_own (hu : ¬unreached) (hm : ¬member) : Tells action.failureKind action unreached member := by
  cases action <;>
    exact ⟨iff_of_false nofun hu, iff_of_false nofun hm, fun _ _ => rfl, nofun, nofun⟩

theorem Tells.of_unreached (hu : unreached) (hm : ¬member) : Tells .unreachable action unreached member :=
  ⟨iff_of_true rfl hu, iff_of_false nofun hm, fun h => absurd hu h, nofun, nofun⟩

theorem Tells.of_member (hu : ¬unreached) (hm : member) : Tells .alreadyMember .join unreached member :=
  ⟨iff_of_false nofun hu, iff_of_true rfl hm, fun _ h => absurd hm h, nofun, fun _ => rfl⟩

end

/-! ## What a pass makes of it -/

namespace Cluster

/-- **For a join that finds its node a member a pass goes on as if it were done.** -/
theorem resume_refused_member (k : Cluster) {pending : Pending} {why : Refusal}
    (h : why.kind = .alreadyMember ∧ pending.call.action = .join) :
    k.resume pending (.refused why) = k.resume pending .done := by
  obtain ⟨kind, message⟩ := why
  obtain ⟨rfl, hjoin⟩ := h
  cases pending with
  | joining d n rest => rfl
  | _ => cases hjoin

/-- **Any other refusal is a failure**, which ends the pass unless it only lacks its rebalance. -/
theorem resume_refused (k : Cluster) {pending : Pending} {why : Refusal}
    (h : ¬(why.kind = .alreadyMember ∧ pending.call.action = .join)) :
    (∃ phase failure, k.resume pending (.refused why) = { k with phase }.finish (.error failure)) ∨
    ∃ d committed, pending = .rebalancing d committed ∧
      k.resume pending (.refused why) = k.finish (.ok (.reconciled d.joined d.left committed false)) := by
  have hunfulfilled : ¬(Answer.refused why).fulfils pending.call = true := mt (Answer.fulfils_refused_iff why _).1 h
  by_cases hr : ∃ d committed, pending = .rebalancing d committed
  · obtain ⟨d, committed, rfl⟩ := hr
    exact .inr ⟨d, committed, rfl, rfl⟩
  · have hresumes := resumes k pending (.refused why)
    generalize k.resume pending (.refused why) = x at hresumes
    cases hresumes with
    | failed phase f => exact .inl ⟨phase, f, rfl⟩
    | rebalanced => exact absurd ⟨_, _, rfl⟩ hr
    | _ => contradiction

end Cluster

/-! ## A simulated cluster -/

namespace SimulatedCluster

open Simulated

/-- A join that nothing stands against but that its node is a member already. -/
def FindsMember (s : SimulatedCluster) : Call → Prop
  | .join coordinator a credentials =>
    .join ∉ s.failAlways ∧ s.outstanding .join = 0 ∧ a ∉ s.refused ∧
      (∀ expected, s.expected = some expected → expected = credentials) ∧
        coordinator.address ∈ s.effective ∧ a ∈ s.effective
  | _ => False

variable {s : SimulatedCluster}

theorem any_ne_eq_false_iff {expected : Option Credentials} {credentials : Credentials} :
    expected.any (· ≠ credentials) = false ↔ ∀ e, expected = some e → e = credentials := by
  cases expected <;> simp

/-- **What stands against a join is of the join's own kind, unless it is that the node is a member.** -/
theorem objection?_join_cases (s : SimulatedCluster) (t : Target) (a : Address) (credentials : Credentials) :
    (s.objection? (.join t a credentials) = some (.alreadyMember a.text) ∧ a ∉ s.refused ∧
      (∀ e, s.expected = some e → e = credentials) ∧ t.address ∈ s.effective ∧ a ∈ s.effective) ∨
    ((∀ why, s.objection? (.join t a credentials) = some why → why.kind = .joinRejected) ∧
      ¬(a ∉ s.refused ∧ (∀ e, s.expected = some e → e = credentials) ∧ t.address ∈ s.effective ∧ a ∈ s.effective)) := by
  simp only [objection?]
  split
  · next h =>
    exact .inr ⟨fun why hw => by cases hw; rfl, fun hf => hf.1 (List.contains_iff_mem.1 h)⟩
  · next hrefused =>
    split
    · next h =>
      refine .inr ⟨fun why hw => by cases hw; rfl, fun hf => ?_⟩
      rw [any_ne_eq_false_iff.2 hf.2.1] at h
      cases h
    · next hexpected =>
      split
      · next h => exact .inr ⟨fun why hw => by cases hw; rfl, fun hf => by simp [hf.2.2.1] at h⟩
      · next hcoordinator =>
        split
        · next h =>
          exact .inl ⟨rfl, by simpa using hrefused, any_ne_eq_false_iff.1 (Bool.eq_false_iff.2 hexpected),
            by simpa using hcoordinator, by simpa using h⟩
        · next h => exact .inr ⟨fun why hw => (by cases hw), fun hf => h (List.contains_iff_mem.2 hf.2.2.2)⟩

/-- What stands against a call other than a join is of the kind of its action. -/
theorem kind_of_objection? {c : Call} (hc : c.action ≠ .join) {why : Reason} (h : s.objection? c = some why) :
    why.kind = c.action.failureKind := by
  cases c with
  | join => exact absurd rfl hc
  | bootstrap node =>
    simp only [objection?] at h
    split at h <;> cases h
    rfl
  | leave t leaving =>
    simp only [objection?] at h
    split at h
    · cases h; rfl
    · split at h <;> cases h
      rfl
  | commit t => cases h
  | rebalance t => cases h
  | recover failed sponsor =>
    simp only [objection?] at h
    split at h
    · cases h; rfl
    · split at h <;> cases h
      rfl

/-- **What a call is answered**: a failure that was asked for, or what stands against it. -/
theorem perform_snd_cases (s : SimulatedCluster) (c : Call) :
    ((c.action ∈ s.failAlways ∨ s.outstanding c.action ≠ 0) ∧ (s.perform c).2 = some (.injected c.action)) ∨
    (c.action ∉ s.failAlways ∧ s.outstanding c.action = 0 ∧ (s.perform c).2 = s.objection? c) := by
  rcases takeFailure_spec (s.record c) c.action with ⟨ha, ht⟩ | ⟨ha, ho, ht⟩ | ⟨n, -, ho, ht⟩
  · exact .inl ⟨.inl ha, by rw [perform, answer, ht]⟩
  · refine .inr ⟨ha, ho, ?_⟩
    rw [perform, answer, ht, ← objection?_record s c c]
    cases h : (s.record c).objection? c <;> simp only [h]
  · exact .inl ⟨.inr (fun h => Nat.succ_ne_zero n (ho.symm.trans h)), by rw [perform, answer, ht]⟩

theorem not_findsMember_of_action_ne {c : Call} (hc : c.action ≠ .join) : ¬s.FindsMember c := by
  cases c with
  | join => exact absurd rfl hc
  | _ => exact id

/-- **A failed call tells by its kind whether its node is a member already**; a simulated cluster is always reached. -/
theorem tells_perform {c : Call} {why : Reason} (h : (s.perform c).2 = some why) :
    Tells why.kind c.action False (s.FindsMember c) := by
  rcases perform_snd_cases s c with ⟨hinjected, hp⟩ | ⟨halways, hnext, hp⟩
  · obtain rfl := Option.some.inj (hp.symm.trans h)
    refine .of_own id fun hf => ?_
    cases c with
    | join => exact hinjected.elim hf.1 (fun hn => hn hf.2.1)
    | _ => exact hf
  · rw [hp] at h
    by_cases hc : c.action = .join
    · cases c with
      | join t a credentials =>
        rcases objection?_join_cases s t a credentials with ⟨ho, hf⟩ | ⟨hkind, hf⟩
        · obtain rfl := Option.some.inj (ho.symm.trans h)
          exact .of_member id ⟨halways, hnext, hf⟩
        · rw [hkind why h]
          have htells : Tells Action.join.failureKind .join False (s.FindsMember (.join t a credentials)) :=
            .of_own id fun hm => hf hm.2.2
          exact htells
      | _ => cases hc
    · rw [kind_of_objection? hc h]
      exact .of_own id (not_findsMember_of_action_ne hc)

/-- **A join fails because its node is a member exactly if it finds that**, nothing else standing against it. -/
theorem alreadyMember_iff {c : Call} :
    (∃ why, (s.perform c).2 = some why ∧ why.kind = .alreadyMember) ↔ s.FindsMember c := by
  refine ⟨fun ⟨why, h, hkind⟩ => (tells_perform h).alreadyMember.1 hkind, fun hf => ?_⟩
  cases c with
  | join t a credentials =>
    rcases perform_snd_cases s (.join t a credentials) with ⟨hinjected, -⟩ | ⟨-, -, hp⟩
    · exact absurd hinjected (not_or.2 ⟨fun ha => hf.1 ha, fun hn => hn hf.2.1⟩)
    · rcases objection?_join_cases s t a credentials with ⟨ho, -⟩ | ⟨-, hm⟩
      · exact ⟨.alreadyMember a.text, hp.trans ho, rfl⟩
      · exact absurd hf.2.2 hm
  | _ => exact hf.elim

/-- A call that is refused within its time is refused as it would be without a limit. -/
theorem refused_of_performWithin {c : Call} {limit : Span} {why : Refusal}
    (h : (s.performWithin limit c).2.1 = .refused why) : ∃ r, (s.perform c).2 = some r ∧ why = r.refusal := by
  rw [performWithin_eq] at h
  split at h
  · cases h
  · cases hp : (s.perform c).2 with
    | none => rw [hp] at h; cases h
    | some r => rw [hp] at h; exact ⟨r, rfl, (Answer.refused.inj h).symm⟩

end SimulatedCluster

end ClusterMembership
