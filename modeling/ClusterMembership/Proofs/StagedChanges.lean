import ClusterMembership.Proofs.Bootstrap
import ClusterMembership.Proofs.HandOvers
import ClusterMembership.Proofs.PassCalls
import Mathlib.Data.List.Induction
/-!
# Staged changes

A backing cluster that stages joins and leaves has to be told to commit them.  `Moment.answered` is all that a controller
was answered, `Uncommitted` says that a change is staged there which nothing has settled since, and the pending flag says
just that at every moment (`Moment.Accounted`).  A pass that gets through its changes with the flag set commits once,
whoever staged what it finds, and no rebalance comes before the commit (`staged_changes_kept`).
-/
namespace ClusterMembership

/-- Something of the first kind stands in the list, and nothing of the second kind after it. -/
def Unrevoked {α : Type*} (sets revokes : α → Prop) (xs : List α) : Prop :=
  ∃ before x after, xs = before ++ x :: after ∧ sets x ∧ ∀ y ∈ after, ¬ revokes y

section

variable {α : Type*} {sets revokes : α → Prop}

theorem not_unrevoked_nil : ¬ Unrevoked sets revokes [] := by
  rintro ⟨before, x, after, h, -⟩
  cases before <;> cases h

/-- **The last element decides**, unless it is of neither kind. -/
theorem unrevoked_concat (xs : List α) (x : α) :
    Unrevoked sets revokes (xs ++ [x]) ↔ sets x ∨ Unrevoked sets revokes xs ∧ ¬ revokes x := by
  constructor
  · rintro ⟨before, y, after, h, hy, ha⟩
    rcases List.eq_nil_or_concat' after with rfl | ⟨after, z, rfl⟩
    · obtain ⟨-, h⟩ := List.append_inj' h rfl
      exact Or.inl (List.cons.inj h |>.1 ▸ hy)
    · rw [← List.cons_append, ← List.append_assoc] at h
      obtain ⟨rfl, hx⟩ := List.append_inj' h rfl
      obtain rfl := (List.cons.inj hx).1
      exact Or.inr ⟨⟨before, y, after, rfl, hy, fun w hw => ha w (List.mem_append_left _ hw)⟩,
        ha x (List.mem_append_right _ List.mem_cons_self)⟩
  · rintro (hx | ⟨⟨before, y, after, rfl, hy, ha⟩, hx⟩)
    · exact ⟨xs, x, [], rfl, hx, fun _ h => absurd h List.not_mem_nil⟩
    · refine ⟨before, y, after ++ [x], by rw [List.append_assoc, List.cons_append], hy, fun w hw => ?_⟩
      rcases List.mem_append.1 hw with hw | hw
      · exact ha w hw
      · rw [List.mem_singleton.1 hw]; exact hx

end

/-! ## What was answered -/

/-- A join or a leave was carried out. -/
def Exchange.Stages (x : Exchange) : Prop := x.Succeeded ∧ (x.call.action = .join ∨ x.call.action = .leave)

/-- What was staged is staged no more: it was committed, or the backing cluster was started anew. -/
def Exchange.Settles (x : Exchange) : Prop := x.Succeeded ∧ (x.call.action = .commit ∨ x.call.action = .bootstrap)

/-- A change was staged, and nothing has settled it since. -/
def Uncommitted (xs : List Exchange) : Prop :=
  ∃ before x after, xs = before ++ x :: after ∧ x.Stages ∧ ∀ y ∈ after, ¬ y.Settles

theorem not_uncommitted_nil : ¬ Uncommitted [] := not_unrevoked_nil

/-- **The last exchange decides**, unless it leaves things as they were. -/
theorem uncommitted_concat (xs : List Exchange) (x : Exchange) :
    Uncommitted (xs ++ [x]) ↔ x.Stages ∨ Uncommitted xs ∧ ¬ x.Settles := unrevoked_concat xs x

theorem uncommitted_append {xs ys : List Exchange} (h : Uncommitted (xs ++ ys)) :
    Uncommitted xs ∨ ∃ y ∈ ys, y.Stages := by
  induction ys using List.reverseRecOn with
  | nil => exact Or.inl (by rwa [List.append_nil] at h)
  | append_singleton ys y ih =>
    rw [← List.append_assoc, uncommitted_concat] at h
    rcases h with h | ⟨h, -⟩
    · exact Or.inr ⟨y, List.mem_append_right _ List.mem_cons_self, h⟩
    · exact (ih h).imp_right fun ⟨z, hz, hs⟩ => ⟨z, List.mem_append_left _ hz, hs⟩

namespace Moment

/-- The outstanding call with the answer that an event brings to it. -/
def exchange? (m : Moment) : Event → Option Exchange
  | .answer a => m.activity.call?.map fun call => ⟨call, some a⟩
  | _ => none

/-- All calls that are answered in a row of events, with their answers. -/
def answered (m : Moment) : List Event → List Exchange
  | [] => []
  | e :: es => (m.exchange? e).toList ++ (m.step e).answered es

end Moment

/-! ## What sets and clears the flag -/

namespace Cluster

theorem pendingCommit_rebalanceNext (c : Cluster) (d : Delta) (committed : Bool) :
    (c.rebalanceNext d committed).1.pendingCommit = c.pendingCommit := by
  unfold rebalanceNext; split <;> rfl

theorem pendingCommit_commitNext (c : Cluster) (d : Delta) :
    (c.commitNext d).1.pendingCommit = c.pendingCommit := by
  unfold commitNext
  split
  · rfl
  · exact pendingCommit_rebalanceNext c d false

theorem pendingCommit_leaveNext (c : Cluster) (d : Delta) (rest : List Node) :
    (c.leaveNext d rest).1.pendingCommit = c.pendingCommit := by
  cases rest with
  | nil => exact pendingCommit_commitNext c d
  | cons n rest => rfl

theorem pendingCommit_joinNext (c : Cluster) (d : Delta) (rest : List Node) :
    (c.joinNext d rest).1.pendingCommit = c.pendingCommit := by
  induction rest generalizing c d with
  | nil => exact pendingCommit_leaveNext c d d.leaves
  | cons n rest ih =>
    rw [joinNext]
    split
    · exact ih _ _
    · rfl

/-- The start of a pass leaves the flag alone, whatever becomes of the primary. -/
theorem pendingCommit_begin (c : Cluster) : c.begin.1.pendingCommit = c.pendingCommit := by
  have hb := begins c
  rw [← pendingCommit_handOver c]
  generalize c.begin = q at hb ⊢
  cases hb with
  | unready _ _ => rfl
  | adopted _ _ _ => rfl
  | bootstraps _ _ _ => rfl
  | awaits _ _ => rfl
  | reconciles _ _ => exact (pendingCommit_joinNext _ _ _).trans (pendingCommit_enrollPrimary _ _)

/-- **An answer sets the flag by a change that is staged, and clears it by what settles the changes.** -/
theorem pendingCommit_resume (c : Cluster) (p : Pending) (a : Answer) :
    (c.resume p a).1.pendingCommit = true ↔
      (⟨p.call, some a⟩ : Exchange).Stages ∧ c.stages = true ∨
      c.pendingCommit = true ∧ ¬ (⟨p.call, some a⟩ : Exchange).Settles := by
  have hs : (⟨p.call, some a⟩ : Exchange).Succeeded ↔ a.fulfils p.call = true :=
    ⟨fun ⟨_, hb, h⟩ => Option.some.inj hb ▸ h, fun h => ⟨a, rfl, h⟩⟩
  unfold Exchange.Stages Exchange.Settles
  rw [hs]
  have hr := resumes c p a
  generalize c.resume p a = q at hr ⊢
  cases hr with
  | failed phase f h => simp [h, finish, publish]
  | bootstrapped h => simp [h, Pending.call, Call.action, assume, finish, publish, promote, forgetActive]
  | joined h =>
    rw [pendingCommit_joinNext]
    simp [h, Pending.call, Call.action, enroll, setActive, markStaged, or_comm]
  | left h =>
    rw [pendingCommit_leaveNext]
    simp [h, Pending.call, Call.action, discharge, setActive, markStaged, or_comm]
  | committed h =>
    rw [pendingCommit_rebalanceNext]
    simp [h, Pending.call, Call.action]
  | rebalanced _ => simp [Pending.call, Call.action, finish, publish]

theorem pendingCommit_finishRecovery (c : Cluster) (r : Recovery) (a : Answer) :
    (c.finishRecovery r a).1.pendingCommit = c.pendingCommit := by
  unfold finishRecovery; split <;> rfl

/-- What the flag is where a pass has come to: set while it commits and once that failed, clear while it rebalances and
once it is through. -/
def Commits : Cluster × Progress → Prop
  | (c, .finished (.ok (.reconciled ..))) => c.pendingCommit = false
  | (c, .finished (.error (.commitFailed _))) => c.pendingCommit = true
  | (c, .calling _ (.committing _)) => c.pendingCommit = true
  | (c, .calling _ (.rebalancing ..)) => c.pendingCommit = false
  | _ => True

theorem commits_rebalanceNext {c : Cluster} (h : c.pendingCommit = false) (d : Delta) (committed : Bool) :
    Commits (c.rebalanceNext d committed) := by
  unfold rebalanceNext
  split <;> exact h

theorem commits_commitNext {c : Cluster} (h : c.pendingCommit = true → c.stages = true) (d : Delta) :
    Commits (c.commitNext d) := by
  unfold commitNext
  split
  · next hc => exact (Bool.and_eq_true _ _ ▸ hc).2
  · next hc =>
    refine commits_rebalanceNext (Bool.eq_false_iff.2 fun hp => hc ?_) d false
    rw [h hp, hp]; rfl

theorem commits_leaveNext {c : Cluster} (h : c.pendingCommit = true → c.stages = true) (d : Delta)
    (rest : List Node) : Commits (c.leaveNext d rest) := by
  cases rest with
  | nil => exact commits_commitNext h d
  | cons n rest => trivial

theorem commits_joinNext {c : Cluster} (h : c.pendingCommit = true → c.stages = true) (d : Delta)
    (rest : List Node) : Commits (c.joinNext d rest) := by
  induction rest generalizing c d with
  | nil => exact commits_leaveNext h d d.leaves
  | cons n rest ih =>
    rw [joinNext]
    split
    · exact ih (c := c.enroll n.id n) h _
    · trivial

theorem commits_begin {c : Cluster} (h : c.pendingCommit = true → c.stages = true) : Commits c.begin := by
  have hb := begins c
  generalize c.begin = q at hb ⊢
  cases hb with
  | unready _ _ => trivial
  | adopted _ _ _ => trivial
  | bootstraps _ _ _ => trivial
  | awaits _ _ => trivial
  | @reconciles p _ _ =>
    refine commits_joinNext (fun hp => ?_) _ _
    rw [(frame_enrollPrimary _ p).stages]
    rw [pendingCommit_enrollPrimary] at hp
    exact (frame_handOver c).stages.trans (h ((pendingCommit_handOver c).symm.trans hp))

theorem markStaged_stages {c : Cluster} (h : c.pendingCommit = true → c.stages = true) :
    c.markStaged.pendingCommit = true → c.stages = true := by
  rw [markStaged, Bool.or_eq_true]
  rintro (hp | hs)
  · exact h hp
  · exact hs

theorem commits_resume {c : Cluster} {p : Pending} (h : c.pendingCommit = true → c.stages = true)
    (hp : Commits (c, .calling p.call p)) (a : Answer) : Commits (c.resume p a) := by
  cases p with
  | bootstrapping n => simp only [resume]; split <;> trivial
  | joining d n rest =>
    simp only [resume]
    split
    · trivial
    · exact commits_joinNext (c := c.markStaged.enroll n.id n) (markStaged_stages h) _ _
  | leaving d n rest =>
    simp only [resume]
    split
    · trivial
    · exact commits_leaveNext (c := c.markStaged.discharge n) (markStaged_stages h) _ _
  | committing d =>
    simp only [resume]
    split
    · exact hp
    · exact commits_rebalanceNext rfl _ _
  | rebalancing d committed => exact hp

end Cluster

namespace Cluster

/-! ## The changes of a pass -/

/-- The joins and leaves that bring the membership in line under an initialized primary. -/
def changes (c : Cluster) (p : Node) : List Call :=
  ((c.newcomers p).filter fun n => !c.isActive n).map (fun n => .join p.target n.address n.credentials) ++
  (c.leavers p).map (fun n => .leave p.target n.target)

/-- **A script is its changes, a commit of them and of what is pending, and a rebalance.** -/
theorem script_eq (c : Cluster) (p : Node) :
    c.script p = c.changes p ++
      (if c.stages && (c.pendingCommit || !(c.changes p).isEmpty) then [.commit p.target] else []) ++
      (if !(c.newcomers p).isEmpty && (c.leavers p).isEmpty then [.rebalance p.target] else []) := by
  have he : (!(c.changes p).isEmpty) =
      (!((c.newcomers p).filter fun n => !c.isActive n).isEmpty || !(c.leavers p).isEmpty) := by
    rw [Bool.eq_iff_iff]
    simp only [changes, Bool.or_eq_true, Bool.not_eq_true', List.isEmpty_eq_false_iff, ne_eq, List.append_eq_nil_iff,
      List.map_eq_nil_iff, not_and_or]
  rw [he, ← Bool.or_assoc]
  rfl

theorem action_of_mem_changes {c : Cluster} {p : Node} {call : Call} (h : call ∈ c.changes p) :
    call.action ≠ .commit := by
  rcases List.mem_append.1 h with h | h <;> obtain ⟨n, -, rfl⟩ := List.mem_map.1 h <;> nofun

theorem Disciplined.follows {c : Cluster} {trace : List Exchange} (h : c.Disciplined trace) {p : Node}
    (hp : c.primary = some p) (hi : c.isInitialized p = true) : Follows (c.script p) trace := by
  cases h with
  | unelected vacant _ _ => rw [hp] at vacant; cases vacant
  | bootstrap vacant _ _ _ => rw [hp] at vacant; cases vacant
  | awaiting primary uninitialized _ => rw [hp] at primary; cases primary; exact absurd hi uninitialized
  | delta primary _ follows => rw [hp] at primary; cases primary; exact follows

theorem Commits.congr {c c' : Cluster} {q : Progress} (h : c'.pendingCommit = c.pendingCommit)
    (hq : Commits (c, q)) : Commits (c', q) := by
  unfold Commits at hq ⊢
  split at hq <;> simp_all

end Cluster

namespace Moment

/-! ## Following the calls of a pass -/

theorem exchanges_of_not_passing {m : Moment} (h : ∀ call p, m.activity ≠ .passing call p) (es : List Event) :
    m.exchanges es = [] := by
  cases ha : m.activity with
  | passing call p => exact absurd ha (h call p)
  | resting => exact exchanges_resting ha es
  | recovering r => cases es <;> simp [exchanges, ha]

theorem exchanges_nil {m : Moment} {call : Call} {p : Pending} (h : m.activity = .passing call p) :
    m.exchanges [] = [⟨call, none⟩] := by
  simp only [exchanges, h]

/-- How a pass is followed: from answer to answer, and past all else that happens, until it is over or waits. -/
inductive Following : Moment → List Event → Prop
  | ended {m : Moment} {es : List Event} (idle : ∀ call p, m.activity ≠ .passing call p) : Following m es
  | waits {m : Moment} {call : Call} {p : Pending} (passing : m.activity = .passing call p) : Following m []
  | answered {m : Moment} {call : Call} {p : Pending} {a : Answer} {es : List Event}
      (passing : m.activity = .passing call p) (rest : Following (m.answer a) es) : Following m (.answer a :: es)
  | goesOn {m : Moment} {call : Call} {p : Pending} {e : Event} {es : List Event}
      (passing : m.activity = .passing call p) (other : ∀ a, e ≠ .answer a) (rest : Following (m.step e) es) :
      Following m (e :: es)

theorem following (m : Moment) (es : List Event) : Following m es := by
  induction es generalizing m with
  | nil =>
    by_cases hp : ∃ call p, m.activity = .passing call p
    · obtain ⟨call, p, hp⟩ := hp
      exact .waits hp
    · exact .ended (fun call p h => hp ⟨call, p, h⟩)
  | cons e es ih =>
    by_cases hp : ∃ call p, m.activity = .passing call p
    · obtain ⟨call, p, hp⟩ := hp
      cases e with
      | answer a => exact .answered hp (ih _)
      | _ => exact .goesOn hp nofun (ih _)
    · exact .ended (fun call p h => hp ⟨call, p, h⟩)

theorem answered_answer {m : Moment} {call : Call} {p : Pending} (h : m.activity = .passing call p) (a : Answer)
    (es : List Event) : m.answered (.answer a :: es) = ⟨call, some a⟩ :: (m.answer a).answered es := by
  simp only [answered, exchange?, h]
  rfl

theorem answered_of_ne_answer (m : Moment) {e : Event} (he : ∀ a, e ≠ .answer a) (es : List Event) :
    m.answered (e :: es) = (m.step e).answered es := by
  cases e with
  | answer a => exact absurd rfl (he a)
  | _ => rfl

/-- **What a pass was answered is answered in the row of events it is followed through**, and a call of it may be
outstanding at their end. -/
theorem exchanges_answered (m : Moment) (es : List Event) :
    m.exchanges es <+: m.answered es ∨ ∃ call, m.exchanges es = m.answered es ++ [⟨call, none⟩] := by
  induction following m es with
  | ended idle => exact Or.inl (by rw [exchanges_of_not_passing idle]; exact List.nil_prefix)
  | @waits m call p passing => exact Or.inr ⟨call, exchanges_nil passing⟩
  | @answered m call p a es passing _ ih =>
    rw [exchanges_answer passing, answered_answer passing]
    rcases ih with h | ⟨call', h⟩
    · exact Or.inl ((List.prefix_cons_inj _).2 h)
    · exact Or.inr ⟨call', by rw [h]; rfl⟩
  | goesOn passing other _ ih => rw [exchanges_of_ne_answer passing other, answered_of_ne_answer _ other]; exact ih

/-- The outstanding call is the first that is followed. -/
theorem calls_exchanges_passing {m : Moment} {call : Call} {p : Pending} (h : m.activity = .passing call p)
    (es : List Event) : [call] <+: (m.exchanges es).map (·.call) := by
  induction following m es with
  | ended idle => exact absurd h (idle call p)
  | waits _ => rw [exchanges_nil h]; exact List.prefix_rfl
  | answered _ _ _ => rw [exchanges_answer h, List.map_cons]; exact ⟨_, rfl⟩
  | goesOn _ other _ ih => rw [exchanges_of_ne_answer h other]; exact ih (due_step h other).1

/-- A pass that is followed further makes the same calls first. -/
theorem calls_exchanges_append (m : Moment) (es more : List Event) :
    (m.exchanges es).map (·.call) <+: (m.exchanges (es ++ more)).map (·.call) := by
  induction following m es with
  | ended idle => rw [exchanges_of_not_passing idle]; exact List.nil_prefix
  | waits passing => rw [exchanges_nil passing]; exact calls_exchanges_passing passing more
  | answered passing _ ih =>
    rw [List.cons_append, exchanges_answer passing, exchanges_answer passing, List.map_cons, List.map_cons]
    exact (List.prefix_cons_inj _).2 ih
  | goesOn passing other _ ih =>
    rw [List.cons_append, exchanges_of_ne_answer passing other, exchanges_of_ne_answer passing other]
    exact ih

/-! ## The account at every moment -/

/-- The flag is what the answers make it, and both the work in hand and what the last pass came to go with it. -/
structure Accounted (m : Moment) (xs : List Exchange) : Prop where
  pending : m.cluster.pendingCommit = true ↔ m.cluster.stages = true ∧ Uncommitted xs
  passing : ∀ call p, m.activity = .passing call p → call = p.call ∧ Cluster.Commits (m.cluster, .calling call p)
  recovering : ∀ r, m.activity = .recovering r → r.call.action = .recover
  outcome : (∀ call p, m.activity ≠ .passing call p) → ∀ result, m.outcome = some result →
    Cluster.Commits (m.cluster, .finished result)

theorem Accounted.stages {m : Moment} {xs : List Exchange} (h : m.Accounted xs) :
    m.cluster.pendingCommit = true → m.cluster.stages = true := fun hp => (h.pending.1 hp).1

theorem accounted_fresh (config : Config) (stages : Bool) (group : String) :
    (fresh config stages group).Accounted [] where
  pending := ⟨fun h => (by cases h), fun h => absurd h.2 not_uncommitted_nil⟩
  passing := fun _ _ h => by cases h
  recovering := fun _ h => by cases h
  outcome := fun _ _ h => by cases h

/-- An event that writes neither the flag nor what the controller is busy with leaves the account as it is. -/
theorem Accounted.congr {m : Moment} {xs : List Exchange} (h : m.Accounted xs) {c : Cluster}
    (hp : c.pendingCommit = m.cluster.pendingCommit) (hs : c.stages = m.cluster.stages) :
    Accounted { m with cluster := c } xs where
  pending := by rw [hp, hs]; exact h.pending
  passing := fun call p ha => ⟨(h.passing call p ha).1, (h.passing call p ha).2.congr hp⟩
  recovering := h.recovering
  outcome := fun hn result hr => (h.outcome hn result hr).congr hp

theorem accounted_ofProgress {q : Cluster × Progress} {xs : List Exchange}
    (hp : q.1.pendingCommit = true ↔ q.1.stages = true ∧ Uncommitted xs)
    (hc : ∀ call p, q.2 = .calling call p → call = p.call) (hq : Cluster.Commits q)
    (o : Option (Except Failure Outcome)) : (ofProgress o q).Accounted xs := by
  obtain ⟨c, result | ⟨call, p⟩⟩ := q
  · exact ⟨hp, fun _ _ h => (by cases h), fun _ h => (by cases h), fun _ r hr => Option.some.inj hr ▸ hq⟩
  · exact ⟨hp, fun _ _ h => (by cases h; exact ⟨hc call p rfl, hq⟩), fun _ h => (by cases h),
      fun h => absurd rfl (h call p)⟩

theorem Accounted.reconcile {m : Moment} {xs : List Exchange} (h : m.Accounted xs) : m.reconcile.Accounted xs := by
  obtain ⟨c, activity, o⟩ := m
  cases activity with
  | resting =>
    refine accounted_ofProgress ?_ (fun _ _ hq => Cluster.call_begin hq) (Cluster.commits_begin h.stages) o
    rw [Cluster.pendingCommit_begin, (Cluster.frame_begin c).stages]
    exact h.pending
  | passing call p => exact h
  | recovering r => exact h

theorem Accounted.recover {m : Moment} {xs : List Exchange} (h : m.Accounted xs) (failed sponsor : NodeId) :
    (m.recover failed sponsor).Accounted xs := by
  unfold Moment.recover
  split
  · next r hr hb =>
    refine ⟨h.pending, fun _ _ hp => (by cases hp), fun r' hr' => ?_, fun _ result ho => ?_⟩
    · cases hr'
      exact Cluster.action_beginRecovery hb
    · exact h.outcome (fun _ _ hp => by rw [hr] at hp; cases hp) result ho
  · exact h

theorem Accounted.answer {m : Moment} {xs : List Exchange} (h : m.Accounted xs) (a : Answer) :
    (m.answer a).Accounted (xs ++ (m.exchange? (.answer a)).toList) := by
  obtain ⟨c, activity, o⟩ := m
  cases activity with
  | resting => exact (List.append_nil xs).symm ▸ h
  | passing call p =>
    obtain ⟨rfl, hc⟩ := h.passing call p rfl
    refine accounted_ofProgress ?_ (fun _ _ hq => (Cluster.isDelta_resume c p a).call_eq hq)
      (Cluster.commits_resume h.stages hc a) o
    have hx : xs ++ (exchange? ⟨c, .passing p.call p, o⟩ (.answer a)).toList = xs ++ [⟨p.call, some a⟩] := rfl
    rw [hx, Cluster.pendingCommit_resume, (Cluster.frame_resume c p a).stages, uncommitted_concat, h.pending]
    tauto
  | recovering r =>
    have hr : r.call.action = .recover := h.recovering r rfl
    have hp := Cluster.pendingCommit_finishRecovery c r a
    have hs := (Cluster.frame_finishRecovery c r a).stages
    have hx : xs ++ (exchange? ⟨c, .recovering r, o⟩ (.answer a)).toList = xs ++ [⟨r.call, some a⟩] := rfl
    -- a recovery stages nothing and settles nothing
    have hu : Uncommitted (xs ++ [⟨r.call, some a⟩]) ↔ Uncommitted xs := by
      simp [uncommitted_concat, Exchange.Stages, Exchange.Settles, hr]
    rw [hx]
    refine ⟨?_, fun _ _ hq => (by cases hq), fun _ hq => (by cases hq), fun _ result ho => ?_⟩
    · rw [hu]; exact (h.congr hp hs).pending
    · exact (h.outcome (fun _ _ hq => by cases hq) result ho).congr hp

/-- **The account is kept by every event.** -/
theorem Accounted.step {m : Moment} {xs : List Exchange} (h : m.Accounted xs) (e : Event) :
    (m.step e).Accounted (xs ++ (m.exchange? e).toList) := by
  cases e with
  | answer a => exact h.answer a
  | enter n => exact (List.append_nil xs).symm ▸ h.congr rfl rfl
  | depart id => exact (List.append_nil xs).symm ▸ h.congr rfl rfl
  | report n s b => exact (List.append_nil xs).symm ▸ h.congr rfl rfl
  | mark b => exact (List.append_nil xs).symm ▸ h.congr rfl rfl
  | reconcile => exact (List.append_nil xs).symm ▸ h.reconcile
  | recover failed sponsor => exact (List.append_nil xs).symm ▸ h.recover failed sponsor

theorem Accounted.run {m : Moment} {xs : List Exchange} (h : m.Accounted xs) (es : List Event) :
    (m.run es).Accounted (xs ++ m.answered es) := by
  induction es generalizing m xs with
  | nil => exact (List.append_nil xs).symm ▸ h
  | cons e es ih =>
    have := ih (h.step e)
    rwa [List.append_assoc] at this

theorem stages_run (m : Moment) (es : List Event) : (m.run es).cluster.stages = m.cluster.stages := (settings_run m es).2

/-- The commit is due once the changes of a pass are through with the flag set: they set it, or found it set. -/
theorem Accounted.due {m : Moment} {xs : List Exchange} (h : m.Accounted xs) {p : Node} {es : List Event}
    (hc : ((m.step .reconcile).answered es).map (·.call) = m.cluster.handOver.changes p)
    (hp : ((m.step .reconcile).run es).cluster.pendingCommit = true) :
    (m.cluster.handOver.stages && (m.cluster.handOver.pendingCommit || !(m.cluster.handOver.changes p).isEmpty)) =
      true := by
  have hx : m.exchange? .reconcile = none := rfl
  have ha := (h.step .reconcile).run es
  rw [hx, Option.toList_none, List.append_nil] at ha
  obtain ⟨hs, hu⟩ := ha.pending.1 hp
  have hm : (m.step .reconcile).cluster.stages = m.cluster.stages := stages_run m [.reconcile]
  rw [stages_run, hm] at hs
  rw [(Cluster.frame_handOver m.cluster).stages, hs, Cluster.pendingCommit_handOver, Bool.true_and, Bool.or_eq_true]
  rcases uncommitted_append hu with hu | ⟨x, hx, -⟩
  · exact Or.inl (h.pending.2 ⟨hs, hu⟩)
  · right
    rw [← hc]
    cases hl : (m.step .reconcile).answered es with
    | nil => rw [hl] at hx; cases hx
    | cons y ys => rfl

/-- **A pass that gets through its changes with the flag set commits exactly once.** -/
theorem Accounted.commits_once {m : Moment} {xs : List Exchange} (h : m.Accounted xs) {known : Node → Prop}
    (hs : m.Sound known) (hr : m.activity = .resting) {p : Node} (hprim : m.cluster.handOver.primary = some p)
    (hinit : m.cluster.handOver.isInitialized p = true) {es : List Event} (more : List Event)
    (hc : ((m.step .reconcile).answered es).map (·.call) = m.cluster.handOver.changes p)
    (hok : ∀ x ∈ (m.step .reconcile).answered es, x.Succeeded)
    (hp : ((m.step .reconcile).run es).cluster.pendingCommit = true) :
    ((m.passTrace (es ++ more)).map (·.call)).filter (·.action = .commit) = [.commit p.target] := by
  have hf : ∀ es, Follows (m.cluster.handOver.script p) (m.passTrace es) := fun es =>
    (disciplined_passTrace hs hr es).follows hprim hinit
  have hscript := Cluster.script_eq m.cluster.handOver p
  rw [if_pos (h.due hc hp), List.append_assoc, List.singleton_append] at hscript
  rw [hscript] at hf
  generalize hreb : (if !(m.cluster.handOver.newcomers p).isEmpty && (m.cluster.handOver.leavers p).isEmpty then
    [Call.rebalance p.target] else []) = rebalance at hf
  have hno : rebalance.filter (·.action = .commit) = [] := by
    rw [← hreb]; split <;> rfl
  -- after its changes the pass waits for a commit: were it over, it would have left the commit out
  have hcommit : m.cluster.handOver.changes p ++ [.commit p.target] <+: (m.passTrace es).map (·.call) := by
    rcases exchanges_answered (m.step .reconcile) es with hx | ⟨call, hx⟩
    · have hdone := (hf es).complete (fun x hmem => hok x (hx.subset hmem))
      have hle := (hx.map (·.call)).length_le
      rw [hc] at hle
      rw [passTrace] at hdone
      rw [hdone, List.length_append, List.length_cons] at hle
      omega
    · have hin := (hf es).inOrder
      have hmap : (m.passTrace es).map (·.call) = m.cluster.handOver.changes p ++ [call] := by
        rw [passTrace, hx, List.map_append, hc]; rfl
      rw [hmap, List.prefix_append_right_inj, List.cons_prefix_cons] at hin
      obtain ⟨rfl, -⟩ := hin
      exact hmap ▸ List.prefix_rfl
  obtain ⟨after, htrace⟩ := hcommit.trans (calls_exchanges_append (m.step .reconcile) es more)
  have hafter : after <+: rebalance := by
    have hin := (hf (es ++ more)).inOrder
    rw [passTrace, ← htrace, List.append_assoc, List.prefix_append_right_inj, List.singleton_append,
      List.prefix_cons_inj] at hin
    exact hin
  rw [passTrace, ← htrace, List.filter_append, List.filter_append,
    List.filter_eq_nil_iff.2 (fun call hmem => by simpa using Cluster.action_of_mem_changes hmem),
    List.filter_eq_nil_iff.2 (fun call hmem => List.filter_eq_nil_iff.1 hno call (hafter.subset hmem))]
  rfl

theorem Accounted.no_rebalance {m : Moment} {xs : List Exchange} (h : m.Accounted xs) {call : Call}
    (hc : m.activity.call? = some call) (ha : call.action = .rebalance) : m.cluster.pendingCommit = false := by
  cases hact : m.activity with
  | resting => rw [hact] at hc; cases hc
  | recovering r =>
    rw [hact] at hc
    obtain rfl : r.call = call := Option.some.inj hc
    have hrec := h.recovering r hact
    rw [ha] at hrec
    cases hrec
  | passing call' p =>
    rw [hact] at hc
    obtain rfl : call' = call := Option.some.inj hc
    obtain ⟨rfl, hq⟩ := h.passing call' p hact
    cases p with
    | rebalancing d committed => exact hq
    | _ => cases ha

end Moment

/-- **No staged change is forgotten.**  At every moment of every history the flag is set exactly where the backing
cluster stages its changes and one was staged that nothing has settled since.  A pass under an initialized primary that
gets through its changes with the flag set commits exactly once, whatever it is answered from there on.  A pass that
reconciled the cluster leaves the flag clear and one whose commit failed leaves it set, and no rebalance is called while
it is set. -/
theorem staged_changes_kept (config : Config) (stages : Bool) (group : String) (history : List Event) :
    let start := Moment.fresh config stages group
    let m := start.run history
    (m.cluster.pendingCommit = true ↔ stages = true ∧ Uncommitted (start.answered history)) ∧
    (∀ p, m.activity = .resting → m.cluster.handOver.primary = some p →
      m.cluster.handOver.isInitialized p = true → ∀ es more,
      ((m.step .reconcile).answered es).map (·.call) = m.cluster.handOver.changes p →
      (∀ x ∈ (m.step .reconcile).answered es, x.Succeeded) →
      ((m.step .reconcile).run es).cluster.pendingCommit = true →
      ((m.passTrace (es ++ more)).map (·.call)).filter (·.action = .commit) = [.commit p.target]) ∧
    ((∀ call p, m.activity ≠ .passing call p) →
      (∀ joined left committed rebalanced,
        m.outcome = some (.ok (.reconciled joined left committed rebalanced)) → m.cluster.pendingCommit = false) ∧
      ∀ cause, m.outcome = some (.error (.commitFailed cause)) → m.cluster.pendingCommit = true) ∧
    ∀ call, m.activity.call? = some call → call.action = .rebalance → m.cluster.pendingCommit = false := by
  intro start m
  have hs : m.Sound (fun _ => True) :=
    Moment.sound_run (Moment.sound_fresh config stages group) (fun _ _ => trivial)
  have ha : m.Accounted (start.answered history) := (Moment.accounted_fresh config stages group).run history
  have hstages : m.cluster.stages = stages := Moment.stages_run start history
  refine ⟨?_, fun p hr hp hi es more hc hok hpend => ha.commits_once hs hr hp hi more hc hok hpend, fun hn => ?_,
    fun call hc hact => ha.no_rebalance hc hact⟩
  · rw [ha.pending, hstages]
  · exact ⟨fun joined left committed rebalanced ho => ha.outcome hn _ ho, fun cause ho => ha.outcome hn _ ho⟩

/-- A node is joined and the commit of it fails.  The primary leaves while no other node is ready, and a pass is put
off; then the joined node is ready and initialized and the next pass adopts it.  The old primary comes back. -/
def handedOn (a b : Node) : List Event :=
  [.enter a, .enter b, .report a .serviceUp true, .report b .serviceUp true, .reconcile, .answer .done,
    .report a .coordinatorInitialized true, .reconcile, .answer .done, .answer .timedOut,
    .depart a.id, .report b .serviceUp false, .reconcile,
    .report b .serviceUp true, .report b .coordinatorInitialized true, .reconcile, .enter a]

/-- The pass after an adoption changes nothing, and commits what was staged under another primary. -/
theorem staged_changes_kept_handedOn :
    let a : Node := ⟨0, ⟨"a"⟩, ⟨"h", 1⟩, ⟨"u", "p"⟩⟩
    let b : Node := ⟨1, ⟨"b"⟩, ⟨"h", 2⟩, ⟨"u", "p"⟩⟩
    let m := (Moment.fresh {} true "g").run (handedOn a b)
    m.activity = .resting ∧ m.cluster.handOver.primary = some b ∧ m.cluster.handOver.isInitialized b = true ∧
      m.cluster.handOver.changes b = [] ∧ m.cluster.pendingCommit = true ∧
      ((m.passTrace [.answer .done]).map (·.call)).filter (·.action = .commit) = [.commit b.target] :=
  ⟨rfl, rfl, rfl, rfl, rfl,
    (staged_changes_kept {} true "g" _).2.1 _ rfl rfl rfl [] [.answer .done] rfl (fun _ h => nomatch h) rfl⟩

end ClusterMembership
