import ClusterMembership.Proofs.Passages
import Mathlib.Data.Set.Card
/-!
# What a status tells

Status reads a summary that is published when a pass ends and when a recovery has succeeded.  While a pass waits for an
answer it is known what the phase will be allowed to say in the end (`Pending.Stands`): only an election waits without a
primary, and whatever ends publishes (`announces_begin`, `announces_resume`).  So whenever no pass is running, the summary
is that of the state (`Moment.Truthful`), and the status counts the flagged nodes against the quorum (`status_truthful`).
-/
namespace ClusterMembership

namespace Config

variable {c : Config}

theorem quorum_of_override {q : UInt64} (h : c.quorumOverride = some q) (hq : 0 < q) : c.quorum = q := by
  unfold quorum
  rw [h]
  exact if_pos hq

theorem quorum_of_not_override (h : ∀ q, c.quorumOverride = some q → q = 0) : c.quorum = c.desiredSize / 2 + 1 := by
  unfold quorum
  cases hq : c.quorumOverride with
  | none => rfl
  | some q =>
    rw [h q hq]
    exact if_neg (by decide)

/-- **The quorum is a strict majority** of the desired size, where nothing else is asked for; it does not wrap around. -/
theorem toNat_quorum (h : ∀ q, c.quorumOverride = some q → q = 0) : c.quorum.toNat = c.desiredSize.toNat / 2 + 1 := by
  have hlt := c.desiredSize.toNat_lt
  rw [quorum_of_not_override h, UInt64.toNat_add, UInt64.toNat_div]
  show (c.desiredSize.toNat / 2 + 1) % 18446744073709551616 = _
  omega

theorem one_le_quorum (c : Config) : 1 ≤ c.quorum.toNat := by
  by_cases h : ∃ q, c.quorumOverride = some q ∧ 0 < q
  · obtain ⟨q, hq, hpos⟩ := h
    rw [quorum_of_override hq hpos]
    exact UInt64.lt_iff_toNat_lt.1 hpos
  · rw [toNat_quorum (fun q hq => ?_)]
    · omega
    · by_contra hne
      exact h ⟨q, hq, UInt64.pos_iff_ne_zero.2 hne⟩

end Config

namespace Cluster

/-- The phase is none of a running pass, and names the lack of a primary exactly where there is none. -/
def PhaseAgrees (c : Cluster) : Prop := c.phase ≠ .electingPrimary ∧ (c.phase = .noPrimary ↔ c.primary = none)

/-- What is published is what there is to be read, and the phase is right. -/
def Truthful (c : Cluster) : Prop := c.published = c.summary ∧ c.PhaseAgrees

theorem phaseAgrees_of_vacant {c : Cluster} (hp : c.primary = none) (hph : c.phase = .noPrimary) : c.PhaseAgrees :=
  ⟨by rw [hph]; decide, by rw [hp, hph]; simp⟩

theorem phaseAgrees_of_primary {c : Cluster} {p : Node} (hp : c.primary = some p)
    (hph : c.phase = .awaitingCoordinator ∨ c.phase = .reconciling) : c.PhaseAgrees := by
  rcases hph with hph | hph
  · exact ⟨by rw [hph]; decide, by rw [hp, hph]; simp⟩
  · exact ⟨by rw [hph]; decide, by rw [hp, hph]; simp⟩

end Cluster

/-- What holds while a pass waits: an election has no primary yet, and all else goes on under the right phase. -/
def Pending.Stands (c : Cluster) : Pending → Prop
  | .bootstrapping _ => c.primary = none
  | _ => c.PhaseAgrees

/-- A pass that has ended has published the truth, and one that waits will. -/
def Progress.Announces (c : Cluster) : Progress → Prop
  | .finished _ => c.Truthful
  | .calling _ p => p.Stands c

namespace Cluster

variable {c : Cluster}

theorem PhaseAgrees.finish (h : c.PhaseAgrees) (result : Except Failure Outcome) :
    (c.finish result).2.Announces (c.finish result).1 := ⟨rfl, h⟩

theorem announces_rebalanceNext (h : c.PhaseAgrees) (d : Delta) (committed : Bool) :
    (c.rebalanceNext d committed).2.Announces (c.rebalanceNext d committed).1 := by
  unfold rebalanceNext
  split
  · exact h
  · exact h.finish _

theorem announces_commitNext (h : c.PhaseAgrees) (d : Delta) :
    (c.commitNext d).2.Announces (c.commitNext d).1 := by
  unfold commitNext
  split
  · exact h
  · exact announces_rebalanceNext h d false

theorem announces_leaveNext (h : c.PhaseAgrees) (d : Delta) (rest : List Node) :
    (c.leaveNext d rest).2.Announces (c.leaveNext d rest).1 := by
  cases rest with
  | nil => exact announces_commitNext h d
  | cons n rest => exact h

theorem announces_joinNext (h : c.PhaseAgrees) (d : Delta) (rest : List Node) :
    (c.joinNext d rest).2.Announces (c.joinNext d rest).1 := by
  induction rest generalizing c d with
  | nil => exact announces_leaveNext h d d.leaves
  | cons n rest ih =>
    rw [joinNext]
    split
    · exact ih (c := c.enroll n.id n) h _
    · exact h

theorem announces_assume (c : Cluster) (n : Node) : (c.assume n).2.Announces (c.assume n).1 := by
  refine PhaseAgrees.finish (phaseAgrees_of_primary (p := n) rfl ?_) _
  show (if (c.promote n).isInitialized n then Phase.reconciling else .awaitingCoordinator) = _ ∨ _
  split
  · exact Or.inr rfl
  · exact Or.inl rfl

/-- **A pass up to its first call.** -/
theorem announces_begin (c : Cluster) : c.begin.2.Announces c.begin.1 := by
  have hb := begins c
  generalize c.handOver = c at hb
  generalize Cluster.begin _ = q at hb ⊢
  cases hb with
  | unready vacant _ => exact (phaseAgrees_of_vacant (c := { c with phase := .noPrimary }) vacant rfl).finish _
  | adopted _ _ _ => exact announces_assume _ _
  | bootstraps vacant _ _ => exact vacant
  | awaits primary _ =>
    exact (phaseAgrees_of_primary (c := { c with phase := .awaitingCoordinator }) primary (Or.inl rfl)).finish _
  | @reconciles p primary _ =>
    refine announces_joinNext ?_ _ _
    have hph : PhaseAgrees { c with phase := .reconciling } := phaseAgrees_of_primary primary (Or.inr rfl)
    unfold enrollPrimary
    split <;> exact hph

/-- **A pass from one call to the next**, whatever it is answered. -/
theorem announces_resume {p : Pending} (h : p.Stands c) (a : Answer) : (c.resume p a).2.Announces (c.resume p a).1 := by
  cases p with
  | bootstrapping n =>
    simp only [resume]
    split
    · exact (phaseAgrees_of_vacant (c := { c with phase := .noPrimary }) h rfl).finish _
    · exact announces_assume _ _
  | joining d n rest =>
    simp only [resume]
    split
    · exact PhaseAgrees.finish h _
    · exact announces_joinNext (c := c.markStaged.enroll n.id n) h _ rest
  | leaving d n rest =>
    simp only [resume]
    split
    · exact PhaseAgrees.finish h _
    · exact announces_leaveNext (c := c.markStaged.discharge n) h _ rest
  | committing d =>
    simp only [resume]
    split
    · exact PhaseAgrees.finish h _
    · exact announces_rebalanceNext (c := { c with pendingCommit := false }) h d true
  | rebalancing d committed => exact PhaseAgrees.finish h _

theorem Truthful.finishRecovery (h : c.Truthful) (r : Recovery) (a : Answer) : (c.finishRecovery r a).1.Truthful := by
  unfold Cluster.finishRecovery
  split
  · exact h
  · exact ⟨rfl, h.2⟩

end Cluster

namespace Moment

/-- Status tells the truth unless a pass is running, and then it will once that ends. -/
def Truthful (m : Moment) : Prop :=
  match m.activity with
  | .passing _ p => p.Stands m.cluster
  | _ => m.cluster.Truthful

theorem truthful_ofProgress {q : Cluster × Progress} (h : q.2.Announces q.1) (o : Option (Except Failure Outcome)) :
    (ofProgress o q).Truthful := by
  obtain ⟨c, _ | _⟩ := q <;> exact h

/-- What happens to the group and the signals has no part in what is published. -/
theorem Truthful.keep {m : Moment} (h : m.Truthful) {c : Cluster} (ha : c.active = m.cluster.active)
    (hp : c.primary = m.cluster.primary) (hph : c.phase = m.cluster.phase) (hpub : c.published = m.cluster.published) :
    Truthful { m with cluster := c } := by
  obtain ⟨c', activity, o⟩ := m
  have hagrees : c'.PhaseAgrees → c.PhaseAgrees := fun h => ⟨by rw [hph]; exact h.1, by rw [hph, hp]; exact h.2⟩
  have htruth : c'.Truthful → c.Truthful := fun h => by
    refine ⟨?_, hagrees h.2⟩
    rw [hpub, h.1, Cluster.summary, Cluster.summary, ha, hp, hph]
  cases activity with
  | resting => exact htruth h
  | recovering r => exact htruth h
  | passing call p =>
    cases p with
    | bootstrapping n => exact hp.trans h
    | _ => exact hagrees h

theorem Truthful.step {m : Moment} (h : m.Truthful) (e : Event) : (m.step e).Truthful := by
  cases e with
  | enter n => exact h.keep rfl rfl rfl rfl
  | depart id => exact h.keep rfl rfl rfl rfl
  | report n s value => exact h.keep rfl rfl rfl rfl
  | mark isStarted => exact h.keep rfl rfl rfl rfl
  | reconcile =>
    obtain ⟨c, activity, o⟩ := m
    cases activity with
    | resting => exact truthful_ofProgress (Cluster.announces_begin c) o
    | passing call p => exact h
    | recovering r => exact h
  | recover failed sponsor =>
    show (m.recover failed sponsor).Truthful
    obtain ⟨c, activity, o⟩ := m
    cases activity with
    | resting =>
      unfold recover
      split
      · exact h
      · exact h
    | passing call p => exact h
    | recovering r => exact h
  | answer a =>
    obtain ⟨c, activity, o⟩ := m
    cases activity with
    | resting => exact h
    | passing call p => exact truthful_ofProgress (Cluster.announces_resume h a) o
    | recovering r => exact Cluster.Truthful.finishRecovery h r a

theorem truthful_run (config : Config) (stages : Bool) (group : String) (history : List Event) :
    ((fresh config stages group).run history).Truthful :=
  run_induction (P := Truthful) ⟨rfl, Cluster.phaseAgrees_of_vacant rfl rfl⟩ (fun _ e _ h => h.step e)

end Moment

namespace Cluster

/-- **Counting the active nodes is counting the flagged ones**, where every flagged node is active. -/
theorem Sound.ncard_isActive {known : Node → Prop} {c : Cluster} (hs : c.Sound known) (h : c.Marked) :
    {n | c.isActive n = true}.ncard = c.active.size := by
  have hset : {n | c.isActive n = true} = (c.active.nodes.toFinset : Set Node) := by
    ext n
    rw [Set.mem_ofPred_eq, hs.isActive_iff h, Finset.mem_coe, List.mem_toFinset]
  rw [hset, Set.ncard_coe_finset, List.toFinset_card_of_nodup hs.active_keyed.nodup_nodes, Roster.nodes, List.length_map]
  rfl

end Cluster

/-- **Status tells the truth.**  Where no two nodes that ever entered share an identity, the active nodes are kept under
their own identities and are the flagged ones, at every moment.  Whenever no pass is running, the status is that of the
state: it counts the active nodes, names the primary, and its phase is none of an election and that of no primary exactly
where there is none.  The service is up exactly if the group is started, some member reports its service up, and the
flagged nodes are a quorum; which is at least one, and a strict majority of the desired size unless a positive number is
asked for. -/
theorem status_truthful (config : Config) (stages : Bool) (group : String) (history : List Event)
    (hd : DistinctIds fun n => .enter n ∈ history) :
    let m := (Moment.fresh config stages group).run history
    let c := m.cluster
    c.active.Keyed ∧ (∀ n, c.isActive n = true ↔ n ∈ c.active.nodes) ∧
    ((∀ call p, m.activity ≠ .passing call p) →
      c.published = c.summary ∧
      c.status =
        ⟨c.isServiceUp, c.active.size, c.primary.map (·.id), c.phase, c.group.size, config.quorum.toNat⟩ ∧
      c.phase ≠ .electingPrimary ∧ (c.phase = .noPrimary ↔ c.primary = none) ∧
      (c.isServiceUp = true ↔ c.group.isStarted = true ∧ (∃ n ∈ c.group.members, c.signal n .serviceUp = true) ∧
        config.quorum.toNat ≤ {n | c.isActive n = true}.ncard)) ∧
    1 ≤ config.quorum.toNat ∧ (∀ q, config.quorumOverride = some q → 0 < q → config.quorum = q) ∧
    ((∀ q, config.quorumOverride = some q → q = 0) →
      config.quorum.toNat = config.desiredSize.toNat / 2 + 1 ∧ config.desiredSize.toNat < 2 * config.quorum.toNat) := by
  intro m c
  have hs : c.Sound c.Involves := Moment.sound_cluster_run config stages group history
  have hm : c.Marked := Moment.marked_run config stages group hd
  refine ⟨hs.active_keyed, fun n => hs.isActive_iff hm, fun hr => ?_, config.one_le_quorum,
    fun q hq hpos => Config.quorum_of_override hq hpos, fun h => ?_⟩
  · have hc : c.config = config := (Moment.settings_run (Moment.fresh config stages group) history).1
    have ht : c.Truthful := by
      have ht := Moment.truthful_run config stages group history
      unfold Moment.Truthful at ht
      split at ht
      · next call p hp => exact absurd hp (hr call p)
      · exact ht
    obtain ⟨hpub, hph, hvac⟩ := ht
    refine ⟨hpub, ?_, hph, hvac, ?_⟩
    · rw [Cluster.status, hpub, hc]; rfl
    · rw [Cluster.isServiceUp, Group.isUp, hpub, hc, hs.ncard_isActive hm]
      simp only [Bool.and_eq_true, List.any_eq_true, decide_eq_true_eq, and_assoc]
      rfl
  · have hq := Config.toNat_quorum h
    exact ⟨hq, by omega⟩

/-- A join times out, and the node is brought in by a recovery. -/
def broughtBack (a b : Node) : List Event :=
  [.enter a, .enter b, .report a .serviceUp true, .report b .serviceUp true, .reconcile, .answer .done,
    .report a .coordinatorInitialized true, .reconcile, .answer .timedOut, .recover b.id a.id, .answer .done]

/-- After a failed pass and a recovery the status counts both nodes, which are a quorum of three. -/
theorem status_truthful_broughtBack :
    let a : Node := ⟨0, ⟨"a"⟩, ⟨"h", 1⟩, ⟨"u", "p"⟩⟩
    let b : Node := ⟨1, ⟨"b"⟩, ⟨"h", 2⟩, ⟨"u", "p"⟩⟩
    let m := (Moment.fresh {} false "g").run (broughtBack a b)
    DistinctIds (fun n => .enter n ∈ broughtBack a b) ∧ (∀ call p, m.activity ≠ .passing call p) ∧
      m.outcome = some (.error (.actionFailed .join b.id "timed out after 60s")) ∧
      m.cluster.status = ⟨true, 2, some a.id, .reconciling, 2, 2⟩ ∧ m.cluster.isServiceUp = true ∧
      2 ≤ {n | m.cluster.isActive n = true}.ncard := by
  intro a b m
  have hd : DistinctIds (fun n => .enter n ∈ broughtBack a b) := by
    intro n k hn hk hid
    simp only [broughtBack, List.mem_cons, Event.enter.injEq, reduceCtorEq, List.not_mem_nil, or_false] at hn hk
    rcases hn with rfl | rfl <;> rcases hk with rfl | rfl
    · rfl
    · exact absurd hid (by decide)
    · exact absurd hid (by decide)
    · rfl
  have hr : ∀ call p, m.activity ≠ .passing call p := by
    have hcall : m.activity.call? = none := by simp only [m, a, b]; decide +kernel
    intro call p h
    rw [h] at hcall
    cases hcall
  obtain ⟨-, -, htruth, -⟩ := status_truthful {} false "g" (broughtBack a b) hd
  obtain ⟨-, hstatus, -, -, hup⟩ := htruth hr
  have hservice : m.cluster.isServiceUp = true := by simp only [m, a, b]; decide +kernel
  refine ⟨hd, hr, by simp only [m, a, b]; decide +kernel, ?_, hservice, (hup.1 hservice).2.2⟩
  exact hstatus.trans (by simp only [a, b]; decide +kernel)

end ClusterMembership
