import ClusterMembership.Cluster.History
/-!
# The branches of a pass

What a hand-over can come to (`handOver_cases`), how a pass starts (`begins`) and how it goes on once its call is
answered (`resumes`), each branch with what it takes to get there.  A call that fails ends its pass, and leaves all but
the phase and the published summary as it was; only a rebalance may fail without harm.
-/
namespace ClusterMembership

/-- The call whose answer a pass waits for. -/
def Pending.call : Pending → Call
  | .bootstrapping n => .bootstrap n.target
  | .joining d n _ => .join d.coordinator n.address n.credentials
  | .leaving d n _ => .leave d.coordinator n.target
  | .committing d => .commit d.coordinator
  | .rebalancing d _ => .rebalance d.coordinator

/-- The answer says that the call is carried out.  A join is also where the node is a member already. -/
def Answer.fulfils : Answer → Call → Bool
  | .done, _ => true
  | .refused ⟨.alreadyMember, _⟩, .join .. => true
  | _, _ => false

theorem Answer.fulfils_refused_iff (why : Refusal) (call : Call) :
    (Answer.refused why).fulfils call = true ↔ why.kind = .alreadyMember ∧ call.action = .join := by
  obtain ⟨kind, message⟩ := why
  cases kind <;> cases call <;> simp [fulfils, Call.action]

namespace Cluster

/-! ## Handing over -/

theorem mem_members_of_mem_successors {c : Cluster} {p n : Node} (h : n ∈ c.successors p) : n ∈ c.group.members :=
  (List.mem_filter.1 h).1

theorem mem_successors_of_successor? {c : Cluster} {p n : Node} (h : c.successor? p = some n) :
    n ∈ c.successors p := by
  unfold successor? at h
  split at h
  · next m hm =>
    rw [← Option.some.inj h]
    exact List.mem_of_find?_eq_some hm
  · split at h
    · exact List.mem_of_mem_head? (by rw [h]; rfl)
    · cases h

/-- **What a hand-over can do**: nothing, promote a successor, or depose a departed primary that has none. -/
theorem handOver_cases (c : Cluster) :
    c.handOver = c ∨
    (∃ p n, c.primary = some p ∧ n ∈ c.successors p ∧ c.handOver = c.promote n) ∨
    (∃ p, c.primary = some p ∧ c.hasDeparted p = true ∧ c.successors p = [] ∧ c.handOver = c.depose p) := by
  unfold handOver
  split
  · exact Or.inl rfl
  · next p hp =>
    split
    · split
      · next n hn => exact Or.inr (Or.inl ⟨p, n, hp, mem_successors_of_successor? hn, rfl⟩)
      · next hn =>
        split
        · next hd =>
          refine Or.inr (Or.inr ⟨p, hp, hd, ?_, rfl⟩)
          unfold successor? at hn
          split at hn
          · cases hn
          · rw [if_pos hd] at hn
            exact List.head?_eq_none_iff.1 hn
        · exact Or.inl rfl
    · exact Or.inl rfl

/-! ## Starting -/

/-- A pass that starts now elects a node that is initialized already. -/
def adopts (c : Cluster) : Bool :=
  c.handOver.primary.isNone && (c.group.members.find? c.isReady).any c.isInitialized

/-- How a pass starts whose hand-over has led to `c`. -/
inductive Begins (c : Cluster) : Cluster × Progress → Prop
  | unready (vacant : c.primary = none) (first : c.group.members.find? c.isReady = none) :
      Begins c ({ c with phase := .noPrimary }.finish (.ok (.deferred .noPrimary)))
  | adopted {n : Node} (vacant : c.primary = none) (first : c.group.members.find? c.isReady = some n)
      (initialized : c.isInitialized n = true) : Begins c ({ c with phase := .electingPrimary }.assume n)
  | bootstraps {n : Node} (vacant : c.primary = none) (first : c.group.members.find? c.isReady = some n)
      (uninitialized : ¬ c.isInitialized n = true) :
      Begins c ({ c with phase := .electingPrimary }, .calling (.bootstrap n.target) (.bootstrapping n))
  | awaits {p : Node} (primary : c.primary = some p) (uninitialized : ¬ c.isInitialized p = true) :
      Begins c ({ c with phase := .awaitingCoordinator }.finish (.ok (.deferred .awaitingCoordinator)))
  | reconciles {p : Node} (primary : c.primary = some p) (initialized : c.isInitialized p = true) :
      Begins c ({ c with phase := .reconciling }.applyDelta p)

theorem begins (c : Cluster) : Begins c.handOver c.begin := by
  unfold begin
  generalize c.handOver = c
  simp only
  split
  · next hp =>
    unfold elect
    split
    · next hf => exact .unready hp hf
    · next n hf =>
      simp only
      split
      · next hi => exact .adopted hp hf hi
      · next hi => exact .bootstraps hp hf hi
  · next p hp =>
    split
    · next hi => exact .reconciles hp hi
    · next hi => exact .awaits hp hi

/-! ## Going on -/

theorem failure?_eq_none_iff (call : Call) (h : call.action ≠ .join) (a : Answer) (timeout : Span) :
    a.failure? timeout = none ↔ a.fulfils call = true := by
  cases a with
  | done => simp [Answer.failure?, Answer.fulfils]
  | refused why => simp [Answer.failure?, Answer.fulfils_refused_iff, h]
  | timedOut => simp [Answer.failure?, Answer.fulfils]

theorem joinFailure?_eq_none_iff (c : Cluster) {a : Answer} {t : Target} {address : Address}
    {credentials : Credentials} : c.joinFailure? a = none ↔ a.fulfils (.join t address credentials) = true := by
  rcases a with - | ⟨kind, message⟩ | -
  · simp [joinFailure?, Answer.failure?, Answer.fulfils]
  · cases kind <;> simp [joinFailure?, Answer.failure?, Answer.fulfils]
  · simp [joinFailure?, Answer.failure?, Answer.fulfils]

/-- How a pass goes on from `c` once its call is answered. -/
inductive Resumes (c : Cluster) (a : Answer) : Pending → Cluster × Progress → Prop
  | failed {p : Pending} (phase : Phase) (f : Failure) (h : ¬ a.fulfils p.call = true) :
      Resumes c a p ({ c with phase }.finish (.error f))
  | bootstrapped {n : Node} (h : a.fulfils (.bootstrap n.target) = true) :
      Resumes c a (.bootstrapping n) (c.forgetActive.assume n)
  | joined {d : Delta} {n : Node} {rest : List Node}
      (h : a.fulfils (.join d.coordinator n.address n.credentials) = true) :
      Resumes c a (.joining d n rest)
        ((c.markStaged.enroll n.id n).joinNext { d with joined := d.joined ++ [n.id] } rest)
  | left {d : Delta} {n : Node} {rest : List Node} (h : a.fulfils (.leave d.coordinator n.target) = true) :
      Resumes c a (.leaving d n rest) ((c.markStaged.discharge n).leaveNext { d with left := d.left ++ [n.id] } rest)
  | committed {d : Delta} (h : a.fulfils (.commit d.coordinator) = true) :
      Resumes c a (.committing d) ({ c with pendingCommit := false }.rebalanceNext d true)
  | rebalanced {d : Delta} {committed : Bool} (rebalanced : Bool) :
      Resumes c a (.rebalancing d committed) (c.finish (.ok (.reconciled d.joined d.left committed rebalanced)))

theorem resumes (c : Cluster) (p : Pending) (a : Answer) : Resumes c a p (c.resume p a) := by
  cases p with
  | bootstrapping n =>
    have hf := failure?_eq_none_iff (.bootstrap n.target) (fun h => by cases h) a c.config.actionTimeout
    simp only [resume]
    split
    · next hc => exact .failed .noPrimary _ (fun h => by rw [hf.2 h] at hc; cases hc)
    · next hc => exact .bootstrapped (hf.1 hc)
  | joining d n rest =>
    have hf : c.joinFailure? a = none ↔ a.fulfils (.join d.coordinator n.address n.credentials) = true :=
      joinFailure?_eq_none_iff c
    simp only [resume]
    split
    · next hc => exact .failed c.phase _ (fun h => by rw [hf.2 h] at hc; cases hc)
    · next hc => exact .joined (hf.1 hc)
  | leaving d n rest =>
    have hf := failure?_eq_none_iff (.leave d.coordinator n.target) (fun h => by cases h) a c.config.actionTimeout
    simp only [resume]
    split
    · next hc => exact .failed c.phase _ (fun h => by rw [hf.2 h] at hc; cases hc)
    · next hc => exact .left (hf.1 hc)
  | committing d =>
    have hf := failure?_eq_none_iff (.commit d.coordinator) (fun h => by cases h) a c.config.actionTimeout
    simp only [resume]
    split
    · next hc => exact .failed c.phase _ (fun h => by rw [hf.2 h] at hc; cases hc)
    · next hc => exact .committed (hf.1 hc)
  | rebalancing d committed => exact .rebalanced _

/-! ## Recovering -/

/-- **A recovery that nothing stands against**: its sponsor is active, a member by identity and ready, and its node is
known and another one. -/
theorem beginRecovery_ok {c : Cluster} {failed sponsor : NodeId} {r : Recovery}
    (h : c.beginRecovery failed sponsor = .ok r) :
    ∃ s n, c.sponsor? sponsor = some s ∧ c.known? failed = some n ∧ failed ≠ sponsor ∧ c.isReady s = true ∧
      r = ⟨failed, sponsor, n, .recover n.target s.target⟩ := by
  unfold beginRecovery at h
  split at h
  · cases h
  · next s hs =>
    split at h
    · cases h
    · next n hn =>
      split at h
      · cases h
      · next hne =>
        split at h
        · cases h
        · next hr =>
          refine ⟨s, n, hs, hn, hne, ?_, (Except.ok.inj h).symm⟩
          simpa using hr

end Cluster

end ClusterMembership
