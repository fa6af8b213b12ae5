import ClusterMembership.Proofs.Deeds
import ClusterMembership.Proofs.PrimaryRole
/-!
# Nodes that are replaced

A node may leave the group and another one enter under its identity before the next pass.  The group, the active nodes and
the primary are compared by identity, so the pass takes the new node for the one that holds the place already: an old
node that is the primary or active may stay so (`replaced_keep_places`), while one that is neither never becomes it.  What
passes that come to rest guarantee of each place is said in `replaced_places`.
-/
namespace ClusterMembership

namespace Cluster

variable {known : Node → Prop} {c : Cluster} {p x : Node}

/-! ## Flags without a place -/

/-- The node is flagged active and is not. -/
def Stray (c : Cluster) (x : Node) : Prop := c.isActive x = true ∧ x ∉ c.active.nodes

theorem Stray.of_enroll (hk : c.active.Keyed) {n : Node} (hn : c.active.contains n.id = false)
    (h : (c.enroll n.id n).Stray x) : c.Stray x := by
  obtain ⟨hf, ha⟩ := h
  rw [mem_active_enroll hk] at ha
  push Not at ha
  rw [isActive_enroll, if_neg ha.1] at hf
  refine ⟨hf, fun hx => ?_⟩
  rw [← ha.2 hx, hk.contains_of_mem hx] at hn
  cases hn

theorem Stray.of_discharge (hk : c.active.Keyed) {n : Node} (hn : n ∈ c.active.nodes) (h : (c.discharge n).Stray x) :
    c.Stray x := by
  obtain ⟨hf, ha⟩ := h
  rw [isActive_discharge] at hf
  have hne : x ≠ n := fun he => by rw [if_pos he] at hf; cases hf
  rw [if_neg hne] at hf
  rw [mem_active_discharge hk] at ha
  push Not at ha
  -- an identity stands for one active node only, so dropping it drops no other
  exact ⟨hf, fun hx => hne (hk.eq_of_id_eq hx hn (ha hx))⟩

theorem Stray.of_admission (hk : c.active.Keyed) {n : Node} (hn : c.active.contains n.id = false)
    (h : (c.perform (c.admission n)).Stray x) : c.Stray x := by
  unfold admission at h
  split at h
  · exact h.of_enroll hk hn
  · exact Stray.of_enroll (c := c.markStaged) hk hn h

theorem Stray.of_leaves {leaves : List Node} : ∀ {c : Cluster}, c.active.Keyed → (∀ n ∈ leaves, n ∈ c.active.nodes) →
    (leaves.map (·.id)).Nodup → ∀ {done rest : List Deed}, c.agenda [] leaves = done ++ rest →
      (c.performAll done).Stray x → c.Stray x := by
  induction leaves with
  | nil =>
    intro c _ _ _ done rest hds h
    rw [agenda_nil] at hds
    split at hds
    · rcases List.append_eq_cons_iff.1 hds.symm with ⟨rfl, -⟩ | ⟨ds, rfl, hnil⟩
      · exact h
      · rw [(List.append_eq_nil_iff.1 hnil.symm).1] at h
        exact h
    · rw [(List.append_eq_nil_iff.1 hds.symm).1] at h
      exact h
  | cons n leaves ih =>
    intro c hk hmem hnd done rest hds h
    rw [List.map_cons, List.nodup_cons] at hnd
    rw [agenda_leave] at hds
    rcases List.append_eq_cons_iff.1 hds.symm with ⟨rfl, -⟩ | ⟨ds, rfl, htail⟩
    · exact h
    · have hn := hmem n List.mem_cons_self
      have hk' : (c.perform (.leave n)).active.Keyed := hk.erase n.id
      have hmem' : ∀ m ∈ leaves, m ∈ (c.perform (.leave n)).active.nodes := fun m hm =>
        (mem_active_discharge (c := c.markStaged) hk).2 ⟨hmem m (List.mem_cons_of_mem n hm),
          fun he => hnd.1 (he ▸ List.mem_map_of_mem hm)⟩
      exact Stray.of_discharge (c := c.markStaged) hk hn (ih hk' hmem' hnd.2 htail h)

theorem Stray.of_agenda {joins : List Node} : ∀ {c : Cluster} {leaves : List Node}, c.active.Keyed →
    (∀ n ∈ joins, c.active.contains n.id = false) → (joins.map (·.id)).Nodup → (∀ n ∈ leaves, n ∈ c.active.nodes) →
    (leaves.map (·.id)).Nodup → ∀ {done rest : List Deed}, c.agenda joins leaves = done ++ rest →
      (c.performAll done).Stray x → c.Stray x := by
  induction joins with
  | nil => intro c leaves hk _ _ hl hln done rest hds h; exact Stray.of_leaves hk hl hln hds h
  | cons n joins ih =>
    intro c leaves hk hj hjn hl hln done rest hds h
    rw [List.map_cons, List.nodup_cons] at hjn
    have hnew : n ∉ joins := fun hm => hjn.1 (List.mem_map_of_mem hm)
    rw [agenda_join c hnew] at hds
    rcases List.append_eq_cons_iff.1 hds.symm with ⟨rfl, -⟩ | ⟨ds, rfl, htail⟩
    · exact h
    · have hn := hj n List.mem_cons_self
      have hact := active_perform_admission c n
      have hk' : (c.perform (c.admission n)).active.Keyed := by rw [hact]; exact hk.insert n
      have hj' : ∀ m ∈ joins, (c.perform (c.admission n)).active.contains m.id = false := fun m hm => by
        rw [hact, Roster.contains_insert, hj m (List.mem_cons_of_mem n hm), Bool.or_false]
        exact decide_eq_false (fun he => hjn.1 (he ▸ List.mem_map_of_mem hm))
      have hl' : ∀ m ∈ leaves, m ∈ (c.perform (c.admission n)).active.nodes := fun m hm => by
        rw [hact, hk.mem_nodes_insert]
        refine Or.inr ⟨hl m hm, fun he => ?_⟩
        rw [← he, hk.contains_of_mem (hl m hm)] at hn
        cases hn
      exact Stray.of_admission hk hn (ih hk' hj' hjn.2 hl' hln htail h)

/-- A node keeps its flag and loses no place where the active nodes and the flags stay. -/
theorem Stray.of_eq {c' : Cluster} (hf : ∀ n, c'.isActive n = c.isActive n) (ha : c'.active = c.active)
    (h : c'.Stray x) : c.Stray x := ⟨(hf x).symm.trans h.1, fun hx => h.2 (ha ▸ hx)⟩

theorem Stray.of_under (hk : c.active.Keyed) (h : (c.under p).Stray x) : c.Stray x := by
  have hh : ({ c.handOver with phase := .reconciling } : Cluster).Stray x → c.Stray x :=
    Stray.of_eq (isActive_handOver c) (active_handOver c)
  have hk' : ({ c.handOver with phase := .reconciling } : Cluster).active.Keyed := (active_handOver c).symm ▸ hk
  unfold under enrollPrimary at h
  split at h
  · exact hh h
  · next hc => exact hh (h.of_enroll hk' (Bool.eq_false_iff.2 hc))

theorem Sound.stray_of_under (h : c.Sound known) (hp : c.handOver.primary = some p) {done rest : List Deed}
    (hds : (c.under p).deeds p = done ++ rest) (hx : ((c.under p).performAll done).Stray x) : c.Stray x := by
  have hu : (c.under p).Sound known := h.writes (h.writes_under hp)
  exact Stray.of_under h.active_keyed (Stray.of_agenda hu.active_keyed (fun n hn => (mem_joiners.1 hn).2.2)
    hu.nodup_joiners (fun n hn => (mem_leavers.1 hn).1) (hu.nodup_leavers p) hds hx)

variable {σ : Type*} (take : σ → Call → σ × Answer)

/-- **No pass leaves a node flagged that it drops**: a stray was one before. -/
theorem Sound.stray_of_pass (h : c.Sound known) (s : σ) (hx : (c.pass take s).cluster.Stray x) : c.Stray x := by
  have hh : ∀ {c' : Cluster}, (∀ n, c'.isActive n = c.handOver.isActive n) → c'.active = c.handOver.active →
      c'.Stray x → c.Stray x := fun hf ha hx =>
    Stray.of_eq (isActive_handOver c) (active_handOver c) (Stray.of_eq hf ha hx)
  have he := c.ends take h.group_keyed s
  generalize c.pass take s = w at hx he
  cases he with
  | unready _ _ eq => rw [eq] at hx; exact hh (fun _ => rfl) rfl hx
  | @adopted n _ _ _ eq => rw [eq] at hx; exact hh (fun m => isActive_promote _ n m) rfl hx
  | @bootstrapped n _ _ cluster _ =>
    rw [cluster] at hx
    have hf : ({ c.handOver with phase := .electingPrimary }.forgetActive.promote n).isActive x = true := hx.1
    rw [isActive_promote, isActive_forgetActive, Bool.and_eq_true, Bool.not_eq_true', decide_eq_false_iff_not] at hf
    exact hh (fun _ => rfl) rfl ⟨hf.2, hf.1⟩
  | refused _ _ _ _ cluster _ => rw [cluster] at hx; exact hh (fun _ => rfl) rfl hx
  | awaits _ _ eq => rw [eq] at hx; exact hh (fun _ => rfl) rfl hx
  | @reconciles p primary _ goes =>
    rcases goes with hc | ⟨done, broken, rest, hds, hb⟩
    · rw [hc.cluster] at hx
      exact h.stray_of_under primary (List.append_nil _).symm hx
    · rw [hb.cluster] at hx
      exact h.stray_of_under primary hds hx

theorem Sound.stray_of_passage (h : c.Sound known) (s : σ) (i : Nat) (hx : (c.passage take s i).cluster.Stray x) :
    c.Stray x := by
  induction i with
  | zero => exact h.stray_of_pass take s hx
  | succ i ih => exact ih ((h.writes (h.writes_passage take s i)).stray_of_pass take _ hx)

/-! ## Who may be primary -/

/-- **A pass leaves the role where it is, or gives it to a member.** -/
theorem primary_of_pass (hk : c.group.roster.Keyed) (s : σ) (hp : (c.pass take s).cluster.primary = some p) :
    c.primary = some p ∨ p ∈ c.group.members := by
  have helected : ∀ {n : Node}, c.group.members.find? c.isReady = some n → some n = some p → p ∈ c.group.members :=
    fun hn he => Option.some.inj he ▸ List.mem_of_find?_eq_some hn
  have he := c.ends take hk s
  generalize c.pass take s = w at hp he
  cases he with
  | unready _ _ eq => rw [eq] at hp; exact primary_handOver hp
  | adopted _ first _ eq => rw [eq] at hp; exact Or.inr (helected first hp)
  | bootstrapped _ first cluster _ => rw [cluster] at hp; exact Or.inr (helected first hp)
  | refused _ _ _ _ cluster _ => rw [cluster] at hp; exact primary_handOver hp
  | awaits _ _ eq => rw [eq] at hp; exact primary_handOver hp
  | @reconciles q primary _ goes =>
    obtain rfl : q = p := Option.some.inj ((primary_goesThrough primary goes).symm.trans hp)
    exact primary_handOver primary

theorem Sound.primary_of_passage (h : c.Sound known) (s : σ) (i : Nat)
    (hp : (c.passage take s i).cluster.primary = some p) : c.primary = some p ∨ p ∈ c.group.members := by
  induction i with
  | zero => exact primary_of_pass take h.group_keyed s hp
  | succ i ih =>
    have hw := h.writes_passage take s i
    have hf := hw.frame
    rcases primary_of_pass take (h.writes hw).group_keyed _ hp with hp | hp
    · exact ih hp
    · exact Or.inr (hf.group ▸ hp)

/-! ## A pass that joins nothing and drops nothing -/

/-- **A pass that joins nothing and drops nothing** found nobody to join and nobody to drop; it has settled on a primary,
recorded it, and committed at most. -/
theorem quiet_pass (hk : c.group.roster.Keyed) (s : σ) {committed rebalanced : Bool}
    (hr : (c.pass take s).result = .ok (.reconciled [] [] committed rebalanced)) :
    ∃ p, c.handOver.primary = some p ∧ (c.under p).joiners = [] ∧ (c.under p).leavers p = [] ∧
      ∃ b, (c.pass take s).cluster = ({ c.under p with pendingCommit := b } : Cluster).publish := by
  obtain ⟨p, primary, -, hj, hl, hc⟩ := completes_of_reconciled take hk hr
  have hj' : (c.under p).joiners = [] := (joiners_under c p).trans (List.map_eq_nil_iff.1 hj.symm)
  have hl' : (c.under p).leavers p = [] := (leavers_under c p).trans (List.map_eq_nil_iff.1 hl.symm)
  have hcl : (c.pass take s).cluster = ((c.under p).performAll ((c.under p).agenda [] [])).publish := by
    rw [hc.cluster, deeds, hj', hl']
  refine ⟨p, primary, hj', hl', ?_⟩
  rw [hcl, agenda_nil]
  split
  · exact ⟨false, rfl⟩
  · exact ⟨(c.under p).pendingCommit, rfl⟩

/-- Recording the primary makes it no successor of its own, and nobody else one. -/
theorem successors_enrollPrimary (c : Cluster) (p : Node) : (c.enrollPrimary p).successors p = c.successors p := by
  have hf := frame_enrollPrimary c p
  rw [successors, successors, hf.group, hf.isReady]
  refine List.filter_congr (fun n _ => ?_)
  by_cases hid : n.id = p.id
  · simp [hid]
  · have hflag : (c.enrollPrimary p).isActive n = c.isActive n := by
      unfold enrollPrimary
      split
      · rfl
      · exact (isActive_enroll c p.id p n).trans (if_neg fun he => hid (by rw [he]))
    rw [hflag, contains_enrollPrimary, decide_eq_false hid, Bool.false_or]

theorem successor?_enrollPrimary (c : Cluster) (p : Node) : (c.enrollPrimary p).successor? p = c.successor? p := by
  have hf := frame_enrollPrimary c p
  rw [successor?, successor?, successors_enrollPrimary, hf.isInitialized, hf.hasDeparted]

/-- Once a pass has settled on its primary, there is nothing to hand over. -/
theorem isHandedOver_under (hk : c.group.roster.Keyed) (hp : c.handOver.primary = some p) :
    (c.under p).IsHandedOver := by
  have hf : Frame { c.handOver with phase := .reconciling } (c.under p) := frame_enrollPrimary _ p
  intro q hq
  obtain rfl : p = q := Option.some.inj ((primary_under hp).symm.trans hq)
  obtain ⟨hd, ho⟩ := isHandedOver_handOver hk p hp
  refine ⟨(hf.hasDeparted p).trans hd, fun hov => ?_⟩
  exact (successor?_enrollPrimary _ p).trans (ho ((hf.isOverdue p).symm.trans hov))

/-- **What a pass leaves that joins nothing and drops nothing**: under its primary there is nothing to hand over, every
ready member has a node of its identity active, and every active node but the primary's is in the group and ready. -/
theorem places_of_quiet (hk : c.group.roster.Keyed) (s : σ) {committed rebalanced : Bool}
    (hr : (c.pass take s).result = .ok (.reconciled [] [] committed rebalanced)) :
    ∃ p, (c.pass take s).cluster.primary = some p ∧ (c.pass take s).cluster.IsHandedOver ∧
      (∀ n ∈ c.group.members, c.isReady n = true → (c.pass take s).cluster.active.contains n.id = true) ∧
      ∀ n ∈ (c.pass take s).cluster.active.nodes, n.id = p.id ∨ c.group.contains n.id = true ∧ c.isReady n = true := by
  obtain ⟨p, hp, hj, hl, b, hcl⟩ := quiet_pass take hk s hr
  have hf := frame_under c p
  rw [hcl]
  refine ⟨p, primary_under hp, isHandedOver_under hk hp, fun n hn hr => ?_, fun n hn => ?_⟩
  · by_contra hc
    have hmem : n ∈ (c.under p).joiners := by
      rw [mem_joiners, hf.group, hf.isReady]
      exact ⟨hn, hr, Bool.eq_false_iff.2 hc⟩
    rw [hj] at hmem
    exact List.not_mem_nil hmem
  · by_contra hout
    push Not at hout
    have hmem : n ∈ (c.under p).leavers p := by
      rw [mem_leavers, hf.group, hf.isReady]
      exact ⟨hn, hout.1, hout.2⟩
    rw [hl] at hmem
    exact List.not_mem_nil hmem

end Cluster

/-- **Whoever has a place had it or is a member.**  Let `n` be in the group and `o` another node of its identity, and let
passes that start now end with one that joins nothing and drops nothing.  Then the primary has an identity of the group;
it is a member, or was primary before.  The active nodes have identities of the group too, and are ready or have the
identity of the primary; each is a member, or was active or primary before.  So `o` has the role, or is active, only if it
had a place before; where it has the role, it is ready or has no initialized successor.  If `n` is ready, it is active, or
a node of its identity is that had a place before. -/
theorem replaced_places (config : Config) (stages : Bool) (group : String) (history : List Event) {σ : Type*}
    (take : σ → Call → σ × Answer) (s : σ) (k : Nat) {o n : Node} {committed rebalanced : Bool}
    (hn : n ∈ ((Moment.fresh config stages group).run history).cluster.group.members) (hid : o.id = n.id) (hne : o ≠ n)
    (hr : (((Moment.fresh config stages group).run history).cluster.passage take s k).result =
      .ok (.reconciled [] [] committed rebalanced)) :
    let c := ((Moment.fresh config stages group).run history).cluster
    let c' := (c.passage take s k).cluster
    (∃ p, c'.primary = some p ∧ c.group.contains p.id = true ∧ (p ∈ c.group.members ∨ c.primary = some p) ∧
      ∀ x ∈ c'.active.nodes, c.group.contains x.id = true ∧ (x.id = p.id ∨ c.isReady x = true) ∧
        (x ∈ c.group.members ∨ x ∈ c.active.nodes ∨ c.primary = some x)) ∧
    (c'.isPrimary o = true ↔ c'.primary = some o) ∧
    (c'.primary = some o → c.primary = some o ∧
      (c.isReady o = true ∨ c.config.replaceUnready = false ∨ ∀ x ∈ c'.successors o, ¬ c.isInitialized x = true)) ∧
    (o ∈ c'.active.nodes → o ∈ c.active.nodes ∨ c.primary = some o) ∧
    (c'.isActive o = true → o ∈ c'.active.nodes ∨ c.Stray o) ∧
    (c.isReady n = true → ∃ x ∈ c'.active.nodes, x.id = n.id ∧ (x = n ∨ x ∈ c.active.nodes ∨ c.primary = some x)) := by
  intro c c'
  have hsound : c.Sound c.Involves := Moment.sound_cluster_run config stages group history
  have hw : Cluster.Writes c.Involves c c' := hsound.writes_passage take s k
  have hs' : c'.Sound c.Involves := hsound.writes hw
  have hf := hw.frame
  have ho : o ∉ c.group.members := fun ho => hne (hsound.group_keyed.eq_of_id_eq ho hn hid)
  have hrole : c'.RoleAgrees := (Moment.roleAgrees_run config stages group history).writes hw
  -- the last pass starts where the ones before it ended
  have hplaces : ∃ p, c'.primary = some p ∧ c'.IsHandedOver ∧
      (∀ n ∈ c.group.members, c.isReady n = true → c'.active.contains n.id = true) ∧
      ∀ n ∈ c'.active.nodes, n.id = p.id ∨ c.group.contains n.id = true ∧ c.isReady n = true := by
    cases k with
    | zero => exact Cluster.places_of_quiet take hsound.group_keyed s hr
    | succ k =>
      have hw' := hsound.writes_passage take s k
      have hq := Cluster.places_of_quiet take (hsound.writes hw').group_keyed _ hr
      rw [hw'.frame.group, hw'.frame.isReady] at hq
      exact hq
  obtain ⟨p, hp, hh, hjoined, hstay⟩ := hplaces
  have hpg : c.group.contains p.id = true := by
    have hd := (hh p hp).1
    rw [hf.hasDeparted, Cluster.hasDeparted, Bool.not_eq_false'] at hd
    exact hd
  have hmem := fun x hx => hs'.active_known x hx
  refine ⟨⟨p, hp, hpg, (hsound.primary_of_passage take s k hp).symm, fun x hx => ?_⟩, hrole o, fun hpo => ?_, fun hx => ?_,
    fun hx => ?_, fun hready => ?_⟩
  · refine ⟨?_, (hstay x hx).imp_right And.right, hmem x hx⟩
    rcases hstay x hx with he | ⟨hg, -⟩
    · rw [he]; exact hpg
    · exact hg
  · have hdue := Cluster.IsHandedOver.ready_or_unfollowed hh hpo
    rw [hf.isReady, hf.config, hf.isInitialized] at hdue
    exact ⟨(hsound.primary_of_passage take s k hpo).resolve_right ho, hdue⟩
  · exact (hmem o hx).resolve_left ho
  · by_cases ha : o ∈ c'.active.nodes
    · exact Or.inl ha
    · exact Or.inr (hsound.stray_of_passage take s k ⟨hx, ha⟩)
  · obtain ⟨x, hx, hxid⟩ := hs'.active_keyed.contains_iff_exists.1 (hjoined n hn hready)
    refine ⟨x, hx, hxid, (hmem x hx).imp_left fun hxm => ?_⟩
    exact hsound.group_keyed.eq_of_id_eq hxm hn hxid

/-- The primary `a` and `b`, which is active, are both replaced, by nodes that are ready. -/
def replaced (a b a' b' : Node) : List Event :=
  [.enter a, .report a .serviceUp true, .reconcile, .answer .done, .report a .coordinatorInitialized true,
    .enter b, .report b .serviceUp true, .reconcile, .answer .done, .answer .done, .answer .done,
    .depart a.id, .enter a', .report a' .serviceUp true, .depart b.id, .enter b', .report b' .serviceUp true]

/-- Here the pass finds nothing to do, although the primary and all active nodes have left the group. -/
theorem replaced_keep_places :
    let a : Node := ⟨0, ⟨"a"⟩, ⟨"h", 1⟩, ⟨"u", "p"⟩⟩
    let b : Node := ⟨1, ⟨"b"⟩, ⟨"h", 2⟩, ⟨"u", "p"⟩⟩
    let a' : Node := ⟨2, ⟨"a"⟩, ⟨"h", 3⟩, ⟨"u", "p"⟩⟩
    let b' : Node := ⟨3, ⟨"b"⟩, ⟨"h", 4⟩, ⟨"u", "p"⟩⟩
    let m := (Moment.fresh {} true "g").run (replaced a b a' b')
    let w := m.cluster.passage scripted [] 0
    m.activity.call? = none ∧ m.cluster.group.members = [a', b'] ∧ w.result = .ok (.reconciled [] [] false false) ∧
    w.cluster.primary = some a ∧ w.cluster.isPrimary a = true ∧ w.cluster.active.nodes = [a, b] ∧
    w.cluster.isActive a = true ∧ w.cluster.isActive b = true ∧ w.cluster.isReady b' = true := by
  intro a b a' b' m w
  have hrest : m.activity.call? = none := by simp only [m, a, b, a', b']; decide +kernel
  have hgroup : m.cluster.group.members = [a', b'] := by simp only [m, a, b, a', b']; decide +kernel
  have hresult : w.result = .ok (.reconciled [] [] false false) := by simp only [w, m, a, b, a', b']; decide +kernel
  refine ⟨hrest, hgroup, hresult, ?_⟩
  simp only [w, m, a, b, a', b']
  decide +kernel

/-- A node that is replaced before it is ready, by one that is. -/
def replacedEarly (a b b' : Node) : List Event :=
  [.enter a, .report a .serviceUp true, .reconcile, .answer .done, .report a .coordinatorInitialized true,
    .enter b, .depart b.id, .enter b', .report b' .serviceUp true]

/-- The first pass joins the new node, and the second one finds it in its place and the old one in none. -/
theorem replaced_places_early :
    let a : Node := ⟨0, ⟨"a"⟩, ⟨"h", 1⟩, ⟨"u", "p"⟩⟩
    let b : Node := ⟨1, ⟨"b"⟩, ⟨"h", 2⟩, ⟨"u", "p"⟩⟩
    let b' : Node := ⟨2, ⟨"b"⟩, ⟨"h", 3⟩, ⟨"u", "p"⟩⟩
    let c := ((Moment.fresh {} true "g").run (replacedEarly a b b')).cluster
    let c' := (c.passage scripted [] 1).cluster
    (c.passage scripted [] 0).result = .ok (.reconciled [b'.id] [] true true) ∧
    (c.passage scripted [] 1).result = .ok (.reconciled [] [] false false) ∧
    c'.primary ≠ some b ∧ b ∉ c'.active.nodes ∧ c'.isActive b = false ∧ b' ∈ c'.active.nodes := by
  intro a b b' c c'
  have hn : b' ∈ c.group.members := by simp only [c, a, b, b']; decide +kernel
  have h0 : (c.passage scripted [] 0).result = .ok (.reconciled [b'.id] [] true true) := by
    simp only [c, a, b, b']; decide +kernel
  have hr : (c.passage scripted [] 1).result = .ok (.reconciled [] [] false false) := by
    simp only [c, a, b, b']; decide +kernel
  have hready : c.isReady b' = true := by simp only [c, a, b, b']; decide +kernel
  have hactive : c.active.nodes = [] := by simp only [c, a, b, b']; decide +kernel
  have hprimary : c.primary = some a := by simp only [c, a, b, b']; decide +kernel
  have hstray : c.isActive b = false := by simp only [c, a, b, b']; decide +kernel
  have hab : a ≠ b := by simp only [a, b]; decide
  have hab' : a.id ≠ b'.id := by simp only [a, b']; decide
  obtain ⟨-, -, hrole, hold, hflag, hnew⟩ := replaced_places {} true "g" (replacedEarly a b b') scripted [] 1 (o := b)
    hn rfl (by simp only [b, b']; decide) hr
  have hgone : b ∉ c'.active.nodes := fun hb => by
    rcases hold hb with hb | hb
    · rw [hactive] at hb; exact List.not_mem_nil hb
    · exact hab (Option.some.inj (hprimary.symm.trans hb))
  refine ⟨h0, hr, fun hb => hab (Option.some.inj (hprimary.symm.trans (hrole hb).1)), hgone, ?_, ?_⟩
  · refine Bool.eq_false_iff.2 (fun hb => ?_)
    rcases hflag hb with hb | ⟨hb, -⟩
    · exact hgone hb
    · rw [hstray] at hb; cases hb
  · obtain ⟨x, hx, hid, he | he | he⟩ := hnew hready
    · exact he ▸ hx
    · rw [hactive] at he; exact absurd he List.not_mem_nil
    · obtain rfl : a = x := Option.some.inj (hprimary.symm.trans he)
      exact absurd hid hab'

end ClusterMembership
