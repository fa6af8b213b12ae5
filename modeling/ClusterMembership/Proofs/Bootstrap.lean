import ClusterMembership.Proofs.Histories
/-!
# When a new backing cluster is started

A bootstrap starts a backing cluster anew.  A pass that finds its primary gone hands the role to a standby, a member that
is ready and joined already, and bootstraps only where there is none; a pass that finds no primary at all elects the
first ready member and bootstraps it unless it is initialized, whoever stands by (`bootstrap_issued_iff`).
-/
namespace ClusterMembership

/-- The call that an event makes the controller issue. -/
def Moment.issued (m : Moment) (e : Event) : Option Call :=
  match m.activity, e with
  | .resting, .reconcile => (m.step e).activity.call?
  | .resting, .recover .. => (m.step e).activity.call?
  | .passing .., .answer _ => (m.step e).activity.call?
  | _, _ => none

theorem Progress.IsDelta.ne_bootstrap {q : Progress} (h : q.IsDelta) (t : Target) (p : Pending) :
    q ≠ .calling (.bootstrap t) p := by
  rintro rfl
  cases p with
  | bootstrapping n => exact h.2 n rfl
  | _ => cases h.1

namespace Cluster

/-- The node is ready and joined already. -/
def isStandby (c : Cluster) (n : Node) : Bool := c.isReady n && (c.isActive n && c.active.contains n.id)

theorem mem_successors {c : Cluster} {p n : Node} :
    n ∈ c.successors p ↔ n ∈ c.group.members ∧ n.id ≠ p.id ∧ c.isStandby n = true := by
  simp only [successors, isStandby, List.mem_filter, Bool.and_eq_true, decide_eq_true_eq]
  tauto

theorem id_ne_of_hasDeparted {c : Cluster} (hk : c.group.roster.Keyed) {p n : Node} (hd : c.hasDeparted p = true)
    (hn : n ∈ c.group.members) : n.id ≠ p.id := by
  intro hid
  have hc : c.group.contains p.id = true := hk.contains_iff_exists.2 ⟨n, hn, hid⟩
  rw [hasDeparted, hc] at hd
  cases hd

theorem successors_eq_nil_iff {c : Cluster} (hk : c.group.roster.Keyed) {p : Node} (hd : c.hasDeparted p = true) :
    c.successors p = [] ↔ ∀ n ∈ c.group.members, ¬ c.isStandby n = true := by
  rw [List.eq_nil_iff_forall_not_mem]
  constructor
  · intro h n hn hs
    exact h n (mem_successors.2 ⟨hn, id_ne_of_hasDeparted hk hd hn, hs⟩)
  · intro h n hn
    obtain ⟨hm, -, hs⟩ := mem_successors.1 hn
    exact h n hm hs

theorem handOver_of_hasDeparted {c : Cluster} {p : Node} (hp : c.primary = some p) (hd : c.hasDeparted p = true)
    (hs : c.successors p ≠ []) : ∃ n ∈ c.successors p, c.handOver = c.promote n := by
  have hsome : ∃ n, c.successor? p = some n := by
    unfold successor?
    split
    · next n _ => exact ⟨n, rfl⟩
    · rw [if_pos hd]
      exact ⟨_, List.head?_eq_some_head hs⟩
  obtain ⟨n, hn⟩ := hsome
  refine ⟨n, mem_successors_of_successor? hn, ?_⟩
  unfold handOver
  simp only [hp, hd, Bool.true_or, if_true, hn]

/-- **No primary is left by a hand-over** exactly where there was none or it left no successor behind. -/
theorem primary_handOver_eq_none_iff (c : Cluster) :
    c.handOver.primary = none ↔ ∀ p, c.primary = some p → c.hasDeparted p = true ∧ c.successors p = [] := by
  constructor
  · intro h p hp
    rcases handOver_cases c with he | ⟨q, n, -, -, he⟩ | ⟨q, hq, hd, hs, -⟩
    · rw [he, hp] at h; cases h
    · rw [he] at h; cases h
    · rw [hp] at hq; cases hq; exact ⟨hd, hs⟩
  · intro h
    cases hp : c.primary with
    | none => unfold handOver; simp only [hp]
    | some p =>
      obtain ⟨hd, hs⟩ := h p hp
      have hn : c.successor? p = none := by
        unfold successor?
        rw [hs, List.find?_nil, if_pos hd, List.head?_nil]
      unfold handOver
      simp only [hp, hd, Bool.true_or, if_true, hn]
      rfl

theorem isStandby_handOver (c : Cluster) : c.handOver.isStandby = c.isStandby := by
  funext n
  rw [isStandby, isStandby, (frame_handOver c).isReady, isActive_handOver, active_handOver]

theorem begin_of_bootstrap {c : Cluster} {t : Target} {p : Pending} (h : c.begin.2 = .calling (.bootstrap t) p) :
    c.begin.1 = { c.handOver with phase := .electingPrimary } ∧ c.handOver.primary = none ∧
      ∃ n, c.handOver.group.members.find? c.handOver.isReady = some n ∧ ¬ c.handOver.isInitialized n = true ∧
        t = n.target := by
  have hb := begins c
  generalize c.begin = q at hb h ⊢
  cases hb with
  | unready _ _ => cases h
  | adopted _ _ _ => cases h
  | @bootstraps n vacant first uninitialized =>
    cases h
    exact ⟨rfl, vacant, n, first, uninitialized, rfl⟩
  | awaits _ _ => cases h
  | reconciles _ _ => exact absurd h ((isDelta_joinNext _ _ _).ne_bootstrap t p)

theorem begin_bootstraps_iff (c : Cluster) (t : Target) :
    (∃ p, c.begin.2 = .calling (.bootstrap t) p) ↔
      c.handOver.primary = none ∧
      ∃ n, c.group.members.find? c.isReady = some n ∧ ¬ c.isInitialized n = true ∧ t = n.target := by
  have hf := frame_handOver c
  rw [← hf.group, ← hf.isReady, ← hf.isInitialized]
  constructor
  · rintro ⟨p, hp⟩
    exact (begin_of_bootstrap hp).2
  · rintro ⟨hp, n, hr, hi, rfl⟩
    have hb := begins c
    generalize c.begin = q at hb ⊢
    cases hb with
    | unready _ first => rw [hr] at first; cases first
    | adopted _ first initialized => rw [hr] at first; cases first; exact absurd initialized hi
    | bootstraps _ first _ => rw [hr] at first; cases first; exact ⟨_, rfl⟩
    | awaits primary _ => rw [hp] at primary; cases primary
    | reconciles primary _ => rw [hp] at primary; cases primary

theorem primary_begin_of_standby {c : Cluster} (hk : c.group.roster.Keyed) {p n : Node} (hp : c.primary = some p)
    (hd : c.hasDeparted p = true) (hn : n ∈ c.group.members) (hs : c.isStandby n = true) :
    ∃ m ∈ c.group.members, c.isStandby m = true ∧ c.begin.1.primary = some m := by
  have hne : c.successors p ≠ [] := fun he => (successors_eq_nil_iff hk hd).1 he n hn hs
  obtain ⟨m, hm, he⟩ := handOver_of_hasDeparted hp hd hne
  obtain ⟨hmem, -, hms⟩ := mem_successors.1 hm
  refine ⟨m, hmem, hms, ?_⟩
  have hm' : c.handOver.primary = some m := by rw [he]; rfl
  have hb := begins c
  generalize c.begin = q at hb ⊢
  cases hb with
  | unready vacant _ => rw [hm'] at vacant; cases vacant
  | adopted vacant _ _ => rw [hm'] at vacant; cases vacant
  | bootstraps vacant _ _ => rw [hm'] at vacant; cases vacant
  | awaits _ _ => exact hm'
  | reconciles _ _ => exact (memberWrites_applyDelta_any _ _).primary.trans hm'

theorem begin_of_adoption {c : Cluster} {n : Node} (hp : c.primary = none)
    (hr : c.group.members.find? c.isReady = some n) (hi : c.isInitialized n = true) :
    c.begin.1.primary = some n ∧ c.begin.2 = .finished (.ok (.elected n.id)) := by
  have hh : c.handOver = c := by unfold handOver; simp only [hp]
  have hb := begins c
  rw [hh] at hb
  generalize c.begin = q at hb ⊢
  cases hb with
  | unready _ first => rw [hr] at first; cases first
  | adopted _ first _ => rw [hr] at first; cases first; exact ⟨rfl, rfl⟩
  | bootstraps _ first uninitialized => rw [hr] at first; cases first; exact absurd hi uninitialized
  | awaits primary _ => rw [hp] at primary; cases primary
  | reconciles primary _ => rw [hp] at primary; cases primary

theorem action_beginRecovery {c : Cluster} {failed sponsor : NodeId} {r : Recovery}
    (h : c.beginRecovery failed sponsor = .ok r) : r.call.action = .recover := by
  obtain ⟨s, n, -, -, -, -, rfl⟩ := beginRecovery_ok h
  rfl

end Cluster

namespace Moment

theorem call?_ofProgress_eq_some {o : Option (Except Failure Outcome)} {p : Cluster × Progress} {call : Call} :
    (ofProgress o p).activity.call? = some call ↔ ∃ q, p.2 = .calling call q := by
  obtain ⟨c, result | ⟨call', q⟩⟩ := p
  · constructor
    · intro h; cases h
    · rintro ⟨q, h⟩; cases h
  · constructor
    · intro h; cases h; exact ⟨q, rfl⟩
    · rintro ⟨q', h⟩; cases h; rfl

theorem cluster_reconcile {m : Moment} (h : m.activity = .resting) : (m.step .reconcile).cluster = m.cluster.begin.1 := by
  obtain ⟨c, activity, o⟩ := m
  cases h
  exact cluster_ofProgress o c.begin

theorem issued_reconcile {m : Moment} (h : m.activity = .resting) {call : Call} (hc : m.issued .reconcile = some call) :
    ∃ q, m.cluster.begin.2 = .calling call q := by
  obtain ⟨c, activity, o⟩ := m
  cases h
  exact call?_ofProgress_eq_some.1 hc

theorem issued_bootstrap_iff (m : Moment) (e : Event) (t : Target) :
    m.issued e = some (.bootstrap t) ↔
      m.activity = .resting ∧ e = .reconcile ∧ ∃ p, m.cluster.begin.2 = .calling (.bootstrap t) p := by
  obtain ⟨c, activity, o⟩ := m
  constructor
  · intro h
    unfold issued at h
    split at h
    · next ha =>
      cases ha
      exact ⟨rfl, rfl, call?_ofProgress_eq_some.1 h⟩
    · next failed sponsor ha =>
      cases ha
      simp only [step, recover] at h
      cases hr : c.beginRecovery failed sponsor with
      | error f => rw [hr] at h; cases h
      | ok r =>
        rw [hr] at h
        have hc := Cluster.action_beginRecovery hr
        rw [Option.some.inj h] at hc
        cases hc
    -- an answer continues a delta, and a delta never bootstraps
    · next call p a ha =>
      cases ha
      obtain ⟨q, hq⟩ := call?_ofProgress_eq_some.1 h
      exact absurd hq ((Cluster.isDelta_resume c p a).ne_bootstrap t q)
    · cases h
  · rintro ⟨rfl, rfl, h⟩
    exact call?_ofProgress_eq_some.2 h

end Moment

/-- **When a bootstrap is issued**: by a pass that finds no primary, or finds its primary gone and no standby among the
members; and then for the first ready member, which is not initialized.  What the members, their readiness and their
membership are has not changed when the call is made.  A primary that left a standby behind is followed by one, and a
first ready member that is initialized is adopted, without a bootstrap. -/
theorem bootstrap_issued_iff (config : Config) (stages : Bool) (group : String) (history : List Event) (e : Event)
    (t : Target) :
    let m := (Moment.fresh config stages group).run history
    (m.issued e = some (.bootstrap t) ↔
      m.activity = .resting ∧ e = .reconcile ∧
      (∀ p, m.cluster.primary = some p →
        m.cluster.hasDeparted p = true ∧ ∀ n ∈ m.cluster.group.members, ¬ m.cluster.isStandby n = true) ∧
      ∃ n, m.cluster.group.members.find? m.cluster.isReady = some n ∧ ¬ m.cluster.isInitialized n = true ∧
        t = n.target) ∧
    (m.issued e = some (.bootstrap t) →
      (m.step e).cluster.group = m.cluster.group ∧ (m.step e).cluster.isStandby = m.cluster.isStandby ∧
      (m.step e).cluster.primary = none) ∧
    (∀ p n, m.activity = .resting → m.cluster.primary = some p → m.cluster.hasDeparted p = true →
      n ∈ m.cluster.group.members → m.cluster.isStandby n = true →
      m.issued .reconcile ≠ some (.bootstrap t) ∧
      ∃ s ∈ m.cluster.group.members, m.cluster.isStandby s = true ∧
        (m.step .reconcile).cluster.primary = some s) ∧
    ∀ n, m.activity = .resting → m.cluster.primary = none →
      m.cluster.group.members.find? m.cluster.isReady = some n → m.cluster.isInitialized n = true →
      m.issued .reconcile = none ∧ (m.step .reconcile).cluster.primary = some n := by
  intro m
  have hs : m.Sound (fun _ => True) :=
    Moment.sound_run (Moment.sound_fresh config stages group) (fun _ _ => trivial)
  have hk := hs.cluster.group_keyed
  have hiff : ∀ e, m.issued e = some (.bootstrap t) ↔
      m.activity = .resting ∧ e = .reconcile ∧
      (∀ p, m.cluster.primary = some p →
        m.cluster.hasDeparted p = true ∧ ∀ n ∈ m.cluster.group.members, ¬ m.cluster.isStandby n = true) ∧
      ∃ n, m.cluster.group.members.find? m.cluster.isReady = some n ∧ ¬ m.cluster.isInitialized n = true ∧
        t = n.target := by
    intro e
    rw [Moment.issued_bootstrap_iff, Cluster.begin_bootstraps_iff, Cluster.primary_handOver_eq_none_iff]
    refine and_congr_right fun _ => and_congr_right fun _ => and_congr_left fun _ => forall₂_congr fun p _ => ?_
    exact and_congr_right fun hd => Cluster.successors_eq_nil_iff hk hd
  refine ⟨hiff e, fun h => ?_, fun p n hr hp hd hn hsb => ?_, fun n hr hp hf hi => ?_⟩
  · obtain ⟨hr, rfl, q, hq⟩ := (m.issued_bootstrap_iff e t).1 h
    obtain ⟨hb, hp, -⟩ := Cluster.begin_of_bootstrap hq
    have hc : (m.step .reconcile).cluster = { m.cluster.handOver with phase := .electingPrimary } :=
      (Moment.cluster_reconcile hr).trans hb
    rw [hc]
    exact ⟨(Cluster.frame_handOver m.cluster).group, Cluster.isStandby_handOver m.cluster, hp⟩
  · refine ⟨fun h => ((hiff .reconcile).1 h).2.2.1 p hp |>.2 n hn hsb, ?_⟩
    obtain ⟨s, hsm, hss, hps⟩ := Cluster.primary_begin_of_standby hk hp hd hn hsb
    exact ⟨s, hsm, hss, (congrArg Cluster.primary (Moment.cluster_reconcile hr)).trans hps⟩
  · obtain ⟨hpn, hfin⟩ := Cluster.begin_of_adoption hp hf hi
    refine ⟨?_, (congrArg Cluster.primary (Moment.cluster_reconcile hr)).trans hpn⟩
    cases hc : m.issued .reconcile with
    | none => rfl
    | some call =>
      obtain ⟨q, hq⟩ := Moment.issued_reconcile hr hc
      rw [hfin] at hq
      cases hq

/-- Two nodes are joined, the primary leaves while the other is not ready, and the other becomes ready again. -/
def orphaned (a b : Node) : List Event :=
  [.enter a, .enter b, .report a .serviceUp true, .report b .serviceUp true, .reconcile, .answer .done,
    .report a .coordinatorInitialized true, .reconcile, .answer .done, .answer .done,
    .depart a.id, .report b .serviceUp false, .reconcile, .report b .serviceUp true]

/-- **A bootstrap may be issued over a living cluster**: the pass after these events bootstraps a standby. -/
theorem bootstrap_beside_standby :
    let a : Node := ⟨0, ⟨"a"⟩, ⟨"h", 1⟩, ⟨"u", "p"⟩⟩
    let b : Node := ⟨1, ⟨"b"⟩, ⟨"h", 2⟩, ⟨"u", "p"⟩⟩
    let m := (Moment.fresh {} false "g").run (orphaned a b)
    m.issued .reconcile = some (.bootstrap b.target) ∧
      b ∈ (m.step .reconcile).cluster.group.members ∧ (m.step .reconcile).cluster.isStandby b = true := by
  decide

end ClusterMembership
