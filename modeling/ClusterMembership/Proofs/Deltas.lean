import ClusterMembership.Proofs.Deeds
import ClusterMembership.Proofs.Disturbances
/-!
# Membership deltas

A pass that reconciles joins the newcomers, in the order of the group, and drops the leavers, in the order in which they
were recorded.  The active nodes are afterwards those of before, the primary at their end if it was missing, and the
newcomers, without the leavers (`Cluster.nodes_agenda`); the active flags follow (`Cluster.isActive_agenda`); and a
rebalance comes of growth only (`Cluster.grows_of_rebalanced`).  `delta_exact` says so of every pass that reconciles,
whatever happens while its calls are outstanding.
-/
namespace ClusterMembership

namespace Cluster

variable {c : Cluster} {p n : Node} {joins leaves : List Node}

/-! ## The active nodes -/

theorem nodes_leaves : ∀ {c : Cluster}, c.active.Keyed →
    (c.performAll (c.agenda [] leaves)).active.nodes = c.active.nodes.filter fun n => n.id ∉ leaves.map (·.id) := by
  induction leaves with
  | nil =>
    intro c _
    rw [agenda_nil]
    split <;> exact (List.filter_eq_self.2 (fun n _ => decide_eq_true List.not_mem_nil)).symm
  | cons n leaves ih =>
    intro c hk
    have hk' : (c.perform (.leave n)).active.Keyed := hk.erase n.id
    have hn : (c.perform (.leave n)).active.nodes = c.active.nodes.filter fun m => decide (m.id ≠ n.id) :=
      hk.nodes_erase n.id
    rw [agenda_leave]
    refine (ih hk').trans ?_
    rw [hn, List.filter_filter]
    refine List.filter_congr (fun m _ => ?_)
    simp only [List.map_cons, List.mem_cons, not_or, Bool.decide_and, ne_eq, Bool.and_comm]

/-- **The active nodes after joins and leaves** are those of before and the ones that joined, in this order, without
those that left. -/
theorem nodes_agenda : ∀ {c : Cluster}, c.active.Keyed → (joins.map (·.id)).Nodup →
    (∀ n ∈ joins, c.active.contains n.id = false) →
    (c.performAll (c.agenda joins leaves)).active.nodes =
      (c.active.nodes ++ joins).filter fun n => n.id ∉ leaves.map (·.id) := by
  induction joins with
  | nil =>
    intro c hk _ _
    rw [List.append_nil]
    exact nodes_leaves hk
  | cons n joins ih =>
    intro c hk hnd hout
    rw [List.map_cons, List.nodup_cons] at hnd
    have hn : n ∉ joins := fun h => hnd.1 (List.mem_map_of_mem h)
    have hact := active_perform_admission c n
    have hk' : (c.perform (c.admission n)).active.Keyed := by rw [hact]; exact hk.insert n
    rw [agenda_join c hn]
    refine (ih hk' hnd.2 (fun m hm => ?_)).trans ?_
    · have hne : m.id ≠ n.id := fun he => hnd.1 (he ▸ List.mem_map_of_mem hm)
      rw [hact, Roster.contains_insert, hout m (List.mem_cons_of_mem n hm), decide_eq_false hne]
      rfl
    · rw [hact, Roster.nodes_insert_of_not_contains n (hout n List.mem_cons_self), List.append_assoc]
      rfl

/-! ## The active flags -/

theorem isActive_leaves : ∀ {c : Cluster},
    (c.performAll (c.agenda [] leaves)).isActive n = (!decide (n ∈ leaves) && c.isActive n) := by
  induction leaves with
  | nil =>
    intro c
    rw [agenda_nil, decide_eq_false List.not_mem_nil]
    split <;> rfl
  | cons m leaves ih =>
    intro c
    have hm : (c.perform (.leave m)).isActive n = if n = m then false else c.isActive n :=
      isActive_discharge c.markStaged m n
    rw [agenda_leave]
    refine ih.trans ?_
    rw [hm]
    by_cases hn : n = m
    · have hmem : n ∈ m :: leaves := by rw [hn]; exact List.mem_cons_self
      rw [if_pos hn, decide_eq_true hmem, Bool.and_false]
      rfl
    · rw [if_neg hn]
      simp [hn]

theorem isActive_perform_admission_self (c : Cluster) (n : Node) : (c.perform (c.admission n)).isActive n = true := by
  unfold admission
  split
  · exact (isActive_enroll c n.id n n).trans (if_pos rfl)
  · exact (isActive_enroll c.markStaged n.id n n).trans (if_pos rfl)

/-- **The active flags after joins and leaves** are set for the nodes that joined, cleared for those that left, and as
they were for all others. -/
theorem isActive_agenda : ∀ {c : Cluster}, joins.Nodup →
    (c.performAll (c.agenda joins leaves)).isActive n = (!decide (n ∈ leaves) && (decide (n ∈ joins) || c.isActive n)) := by
  induction joins with
  | nil =>
    intro c _
    rw [decide_eq_false List.not_mem_nil, Bool.false_or]
    exact isActive_leaves
  | cons m joins ih =>
    intro c hnd
    obtain ⟨hm, hnd⟩ := List.nodup_cons.1 hnd
    rw [agenda_join c hm]
    refine (ih hnd).trans ?_
    by_cases hn : n = m
    · subst hn
      rw [isActive_perform_admission_self, decide_eq_true List.mem_cons_self, Bool.or_true, Bool.true_or]
    · rw [isActive_perform_admission c hn]
      simp [hn]

/-- The active nodes, and the primary `p` at their end if it is none of them. -/
def activeWith (c : Cluster) (p : Node) : List Node :=
  if c.active.contains p.id then c.active.nodes else c.active.nodes ++ [p]

theorem nodes_under (c : Cluster) (p : Node) : (c.under p).active.nodes = c.activeWith p := by
  have ha : ({ c.handOver with phase := .reconciling } : Cluster).active = c.active := active_handOver c
  unfold under enrollPrimary activeWith
  rw [ha]
  split
  · rw [ha]
  · next h =>
    rw [Bool.not_eq_true] at h
    exact (congrArg (fun r => (Roster.insert r p.id p).nodes) ha).trans (Roster.nodes_insert_of_not_contains p h)

variable {known : Node → Prop}

theorem Sound.isActive_under_primary (h : c.Sound known) (hd : DistinctIds known) (hp : c.handOver.primary = some p) :
    (c.under p).isActive n = (decide (n = p) || c.isActive n) := by
  have hl := h.led_under hd hp
  by_cases hn : n = p
  · obtain ⟨q, hq, hid⟩ := hl.sound.active_keyed.contains_iff_exists.1 hl.recorded
    have hqp : q = p := hd q p (hl.sound.active_known q hq) hl.primary_known hid
    rw [decide_eq_true hn, Bool.true_or, hn]
    exact hqp ▸ hl.sound.flagged q hq
  · have ha : ({ c.handOver with phase := .reconciling } : Cluster).isActive n = c.isActive n := isActive_handOver c n
    rw [decide_eq_false hn, Bool.false_or, ← ha]
    unfold under enrollPrimary
    split
    · rfl
    · exact (isActive_enroll _ p.id p n).trans (if_neg hn)

end Cluster

/-! ## Rebalances -/

/-- The pass has still to rebalance, or will, only if `growth`. -/
def Pending.RebalancesIf (growth : Prop) : Pending → Prop
  | .bootstrapping _ => True
  | .joining d _ _ => d.isGrowth = true → growth
  | .leaving d _ _ => d.isGrowth = true → growth
  | .committing d => d.isGrowth = true → growth
  | .rebalancing _ _ => growth

/-- The pass has rebalanced, or will, only if `growth`. -/
def Progress.RebalancesIf (growth : Prop) : Progress → Prop
  | .finished (.ok (.reconciled _ _ _ rebalanced)) => rebalanced = true → growth
  | .finished _ => True
  | .calling _ p => p.RebalancesIf growth

namespace Cluster

variable {growth : Prop}

theorem rebalancesIf_rebalanceNext (c : Cluster) (d : Delta) (committed : Bool) (h : d.isGrowth = true → growth) :
    (c.rebalanceNext d committed).2.RebalancesIf growth := by
  unfold rebalanceNext
  split
  · next hd => exact h hd
  · exact nofun

theorem rebalancesIf_commitNext (c : Cluster) (d : Delta) (h : d.isGrowth = true → growth) :
    (c.commitNext d).2.RebalancesIf growth := by
  unfold commitNext
  split
  · exact h
  · exact rebalancesIf_rebalanceNext c d false h

theorem rebalancesIf_leaveNext (c : Cluster) (d : Delta) (rest : List Node) (h : d.isGrowth = true → growth) :
    (c.leaveNext d rest).2.RebalancesIf growth := by
  cases rest with
  | nil => exact rebalancesIf_commitNext c d h
  | cons n rest => exact h

theorem rebalancesIf_joinNext (c : Cluster) (d : Delta) (rest : List Node) (h : d.isGrowth = true → growth) :
    (c.joinNext d rest).2.RebalancesIf growth := by
  induction rest generalizing c d with
  | nil => exact rebalancesIf_leaveNext c d d.leaves h
  | cons n rest ih =>
    rw [joinNext]
    split
    · exact ih _ _ h
    · exact h

theorem rebalancesIf_resume {p : Pending} (h : p.RebalancesIf growth) (c : Cluster) (a : Answer) :
    (c.resume p a).2.RebalancesIf growth := by
  have hr := resumes c p a
  generalize c.resume p a = q at hr ⊢
  cases hr with
  | failed phase f _ => trivial
  | bootstrapped _ => trivial
  | joined _ => exact rebalancesIf_joinNext _ _ _ h
  | left _ => exact rebalancesIf_leaveNext _ _ _ h
  | committed _ => exact rebalancesIf_rebalanceNext _ _ _ h
  | rebalanced _ => exact fun _ => h

variable {σ : Type*} (take : σ → Call → σ × Answer) {known : Node → Prop} {c : Cluster} {p n : Node}

theorem rebalancesIf_complete (s : σ) (q : Cluster × Progress) (h : q.2.RebalancesIf growth) :
    (Progress.finished (complete take s q).result).RebalancesIf growth := by
  induction s, q using complete.induct take with
  | case1 s c result => rw [complete_finished]; exact h
  | case2 s c call p ih =>
    rw [complete_calling]
    exact ih (rebalancesIf_resume h c _)

/-- **A pass rebalances only where nodes were added and none was removed.** -/
theorem grows_of_rebalanced (hp : c.handOver.primary = some p)
    (hi : c.isInitialized p = true) {s : σ} {joined left : List NodeId} {committed : Bool}
    (hr : (c.pass take s).result = .ok (.reconciled joined left committed true)) :
    c.newcomers p ≠ [] ∧ c.leavers p = [] := by
  have hg : c.begin.2.RebalancesIf ((c.under p).joiners ≠ [] ∧ (c.under p).leavers p = []) := by
    rw [begin_of_initialized hp hi]
    refine rebalancesIf_joinNext _ _ _ (fun hd => ?_)
    rw [Bool.and_eq_true, Bool.not_eq_true', List.isEmpty_eq_false_iff, List.isEmpty_iff] at hd
    exact hd
  have hc := rebalancesIf_complete take s c.begin hg
  rw [joiners_under, leavers_under] at hc
  rw [pass] at hr
  rw [hr] at hc
  exact hc rfl

/-! ## The delta of a pass -/

theorem active_publish (c : Cluster) : c.publish.active = c.active := rfl

theorem isActive_publish (c : Cluster) (n : Node) : c.publish.isActive n = c.isActive n := rfl

theorem isAligned_publish : c.publish.IsAligned p ↔ c.IsAligned p := Iff.rfl

/-- What a pass that reconciles under its primary `p` makes of the membership. -/
structure Delivers (c : Cluster) (p : Node) (joined left : List NodeId) (rebalanced : Bool) (c' : Cluster) : Prop where
  joined_eq : joined = (c.newcomers p).map (·.id)
  left_eq : left = (c.leavers p).map (·.id)
  entries_eq : c'.active.entries =
    ((c.activeWith p ++ c.newcomers p).filter fun n => n.id ∉ left).map fun n => (n.id, n)
  nodup : c'.active.ids.Nodup
  aligned : ∀ n, n ∈ c'.active.nodes ↔ n = p ∨ n ∈ c.group.members ∧ c.isReady n = true
  disjoint : ∀ id ∈ joined, id ∉ left
  grows : rebalanced = true → joined ≠ [] ∧ left = []
  set : ∀ n, n = p ∨ n ∈ c.newcomers p → c'.isActive n = true
  cleared : ∀ n ∈ c.leavers p, c'.isActive n = false
  kept : ∀ n, n ≠ p → n ∉ c.newcomers p → n ∉ c.leavers p → c'.isActive n = c.isActive n

theorem Delivers.of_alike {c' k : Cluster} {joined left : List NodeId} {rebalanced : Bool}
    (h : c.Delivers p joined left rebalanced c') (ha : Alike k c') : c.Delivers p joined left rebalanced k where
  joined_eq := h.joined_eq
  left_eq := h.left_eq
  entries_eq := ha.active ▸ h.entries_eq
  nodup := ha.active ▸ h.nodup
  aligned := ha.active ▸ h.aligned
  disjoint := h.disjoint
  grows := h.grows
  set n hn := (ha.isActive n).trans (h.set n hn)
  cleared n hn := (ha.isActive n).trans (h.cleared n hn)
  kept n hnp hnj hnl := (ha.isActive n).trans (h.kept n hnp hnj hnl)

theorem Sound.not_mem_leavers (h : c.Sound known) (hn : n ∈ c.newcomers p) : n.id ∉ (c.leavers p).map (·.id) := by
  intro hm
  obtain ⟨m, hml, hid⟩ := List.mem_map.1 hm
  have hc := h.active_keyed.contains_of_mem (mem_leavers.1 hml).1
  rw [hid, (mem_newcomers.1 hn).2.2.2] at hc
  cases hc

/-- **An undisturbed pass that reconciles** delivers the delta. -/
theorem Sound.delivers_pass (h : c.Sound known) (hd : DistinctIds known) (hp : c.handOver.primary = some p)
    (hi : c.isInitialized p = true) {s : σ} {joined left : List NodeId} {committed rebalanced : Bool}
    (hr : (c.pass take s).result = .ok (.reconciled joined left committed rebalanced)) :
    c.Delivers p joined left rebalanced (c.pass take s).cluster := by
  have hl := h.led_under hd hp
  have hj : (c.under p).joiners = c.newcomers p := joiners_under c p
  have hv : (c.under p).leavers p = c.leavers p := leavers_under c p
  obtain ⟨q, hq, -, hjoined, hleft, hw⟩ := completes_of_reconciled take h.group_keyed hr
  obtain rfl : p = q := Option.some.inj (hp.symm.trans hq)
  obtain ⟨-, hdone, hrest⟩ := hl.deeds_of_done (List.append_nil _).symm
  have hsound : (c.pass take s).cluster.Sound known := h.writes (h.writes_pass take s)
  have hframe := (h.writes_pass take s).frame
  have hnodes : (c.pass take s).cluster.active.nodes =
      (c.activeWith p ++ c.newcomers p).filter fun n => n.id ∉ (c.leavers p).map (·.id) := by
    rw [hw.cluster, active_publish, ← nodes_under, ← hj, ← hv]
    exact nodes_agenda hl.sound.active_keyed hl.sound.nodup_joiners (fun n hn => (mem_joiners.1 hn).2.2)
  have hact : ∀ n, (c.pass take s).cluster.isActive n =
      (!decide (n ∈ c.leavers p) && (decide (n ∈ c.newcomers p) || (decide (n = p) || c.isActive n))) := by
    intro n
    rw [hw.cluster, isActive_publish, ← h.isActive_under_primary hd hp, ← hj, ← hv]
    exact isActive_agenda (List.Nodup.of_map _ hl.sound.nodup_joiners)
  have hdisj : ∀ n ∈ c.newcomers p, n ∉ c.leavers p := fun n hn hm =>
    h.not_mem_leavers hn (List.mem_map_of_mem hm)
  refine ⟨hjoined, hleft, ?_, hsound.active_keyed.nodup, fun n => ?_, ?_, fun hreb => ?_, fun n hn => ?_, fun n hn => ?_,
    fun n hnp hnj hnl => ?_⟩
  · rw [hsound.active_keyed.entries_eq, hnodes, hleft]
  · have hal : (c.pass take s).cluster.IsAligned p := by
      rw [hw.cluster, isAligned_publish]
      exact hdone.isAligned hrest
    rw [← hframe.group, ← hframe.isReady]
    exact hal n
  · rw [hjoined, hleft]
    intro id hid
    obtain ⟨n, hn, rfl⟩ := List.mem_map.1 hid
    exact h.not_mem_leavers hn
  · subst hreb
    obtain ⟨hne, hnil⟩ := grows_of_rebalanced take hp hi hr
    rw [hjoined, hleft, hnil]
    exact ⟨fun he => hne (List.map_eq_nil_iff.1 he), rfl⟩
  · rcases hn with rfl | hn
    · have hout : n ∉ c.leavers n := fun hm => (mem_leavers.1 hm).2.1 rfl
      rw [hact, decide_eq_false hout]
      simp
    · rw [hact, decide_eq_false (hdisj n hn), decide_eq_true hn]
      rfl
  · rw [hact, decide_eq_true hn]
    rfl
  · rw [hact, decide_eq_false hnl, decide_eq_false hnj, decide_eq_false hnp]
    rfl

end Cluster

/-- **The membership delta is exact.**  A pass that starts after any history under an initialized primary and reconciles,
whatever happens before its calls are answered, joins the ready members that were not active, drops the active nodes that
are no ready members, and leaves on record the primary and the ready members and nobody else, in the order in which they
came, each once; it rebalances only where it joined and dropped none, and it sets and clears the active flags of these
nodes and no other flag. -/
theorem delta_exact (config : Config) (stages : Bool) (group : String) (history es : List Event) (p : Node)
    (joined left : List NodeId) (committed rebalanced : Bool) :
    let m := (Moment.fresh config stages group).run history
    DistinctIds m.cluster.Involves → m.cluster.handOver.primary = some p → m.cluster.isInitialized p = true →
    m.Returns es (.ok (.reconciled joined left committed rebalanced)) →
    m.cluster.Delivers p joined left rebalanced ((m.step .reconcile).run es).cluster := by
  intro m hd hp hi h
  have hs : m.cluster.Sound m.cluster.Involves := Moment.sound_cluster_run config stages group history
  obtain ⟨as, hr, hk, -⟩ := h.undisturbed
  exact (hs.delivers_pass scripted hd hp hi hr).of_alike hk

/-- One node takes the place of another: the pass joins it and drops the other, while the newcomer is reported unready. -/
theorem delta_exact_replacement :
    let a : Node := ⟨0, ⟨"a"⟩, ⟨"h", 1⟩, ⟨"u", "p"⟩⟩
    let b : Node := ⟨1, ⟨"b"⟩, ⟨"h", 2⟩, ⟨"u", "p"⟩⟩
    let c : Node := ⟨2, ⟨"c"⟩, ⟨"h", 3⟩, ⟨"u", "p"⟩⟩
    let m := (Moment.fresh {} true "g").run (replacement a b c)
    let es : List Event := [.answer .done, .report c .serviceUp false, .answer .done, .depart a.id, .answer .done]
    DistinctIds m.cluster.Involves ∧ m.cluster.handOver.primary = some a ∧ m.cluster.isInitialized a = true ∧
      m.Returns es (.ok (.reconciled [c.id] [b.id] true false)) ∧
      m.cluster.Delivers a [c.id] [b.id] false ((m.step .reconcile).run es).cluster ∧
      ((m.step .reconcile).run es).cluster.active.nodes = [a, c] :=
  ⟨by decide, by decide, by decide, by decide,
    delta_exact {} true "g" _ _ _ _ _ true _ (by decide) (by decide) (by decide) (by decide), by decide⟩

end ClusterMembership
