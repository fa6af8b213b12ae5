import ClusterMembership.Proofs.Deeds
/-!
# Passes come to rest

Where the group, the signals and the backing cluster stay as they are, a pass may still find something new to do: the one
before it may have joined the very node that the primary role is due to go to.  But that happens once.  A pass that starts
under a primary that is not to be replaced leaves nothing to do (`settles_of_keeps`), and every pass ends either at rest or
with the next one due to start so (`settles_or_keeps`); from the third pass on nothing moves any more (`passes_settle`).
-/
namespace ClusterMembership

namespace Cluster

variable {known : Node → Prop} {c : Cluster} {p : Node}

/-! ## At rest -/

/-- What a pass comes to that finds nothing to do. -/
inductive RestsAt (c : Cluster) : Outcome → Prop
  /-- There is no primary, and no member is ready. -/
  | unready (vacant : c.primary = none) (none_ready : ∀ n ∈ c.group.members, ¬ c.isReady n = true) :
      RestsAt c (.deferred .noPrimary)
  /-- The primary is not initialized. -/
  | awaiting {p : Node} (primary : c.primary = some p) (uninitialized : ¬ c.isInitialized p = true) :
      RestsAt c (.deferred .awaitingCoordinator)
  /-- The active nodes are the primary and the ready members. -/
  | aligned {p : Node} (primary : c.primary = some p) (initialized : c.isInitialized p = true)
      (aligned : c.IsAligned p) : RestsAt c (.reconciled [] [] false false)

/-- A pass that starts now makes no call and changes nothing. -/
structure Settles (c : Cluster) (o : Outcome) : Prop where
  begin_eq : c.begin = (c, .finished (.ok o))
  rests : c.RestsAt o

variable {σ : Type*} (take : σ → Call → σ × Answer)

theorem Settles.passage {o : Outcome} (h : c.Settles o) (s : σ) (i : Nat) : c.passage take s i = ⟨c, s, [], .ok o⟩ := by
  have hp : c.pass take s = ⟨c, s, [], .ok o⟩ := by rw [pass, h.begin_eq, complete_finished]
  induction i with
  | zero => exact hp
  | succ i ih => rw [passage_succ, ih]; exact hp

theorem begins_of_isHandedOver (h : c.IsHandedOver) : Begins c c.begin := by
  have hb := begins c
  rwa [handOver_of_isHandedOver h] at hb

theorem settles_unready (hp : c.primary = none) (hf : c.group.members.find? c.isReady = none) :
    ({ c with phase := .noPrimary }.publish).Settles (.deferred .noPrimary) := by
  refine ⟨?_, .unready hp (List.find?_eq_none.1 hf)⟩
  have hh : ({ c with phase := .noPrimary }.publish).IsHandedOver := fun q hq => absurd (hp.symm.trans hq) nofun
  have hb := begins_of_isHandedOver hh
  generalize ({ c with phase := .noPrimary }.publish).begin = q at hb ⊢
  cases hb with
  | unready _ _ => rfl
  | adopted _ first _ => exact absurd (hf.symm.trans first) nofun
  | bootstraps _ first _ => exact absurd (hf.symm.trans first) nofun
  | awaits primary _ => exact absurd (hp.symm.trans primary) nofun
  | reconciles primary _ => exact absurd (hp.symm.trans primary) nofun

theorem settles_awaiting (hh : c.IsHandedOver) (hp : c.primary = some p) (hi : ¬ c.isInitialized p = true) :
    ({ c with phase := .awaitingCoordinator }.publish).Settles (.deferred .awaitingCoordinator) := by
  refine ⟨?_, .awaiting hp hi⟩
  have hh' : ({ c with phase := .awaitingCoordinator }.publish).IsHandedOver := hh
  have hb := begins_of_isHandedOver hh'
  generalize ({ c with phase := .awaitingCoordinator }.publish).begin = q at hb ⊢
  cases hb with
  | unready vacant _ => exact absurd (hp.symm.trans vacant) nofun
  | adopted vacant _ _ => exact absurd (hp.symm.trans vacant) nofun
  | bootstraps vacant _ _ => exact absurd (hp.symm.trans vacant) nofun
  | awaits _ _ => rfl
  | @reconciles q primary initialized =>
    obtain rfl : p = q := Option.some.inj (hp.symm.trans primary)
    exact absurd initialized hi

theorem begin_of_isInitialized (hh : c.IsHandedOver) (hp : c.primary = some p) (hi : c.isInitialized p = true) :
    c.begin = { c with phase := .reconciling }.applyDelta p := by
  have hh' := handOver_of_isHandedOver hh
  have hb := begin_of_initialized (c := c) (by rw [hh']; exact hp) hi
  rwa [hh'] at hb

theorem settles_aligned (hl : c.Led known p) (hh : c.IsHandedOver) (hp : c.primary = some p)
    (hi : c.isInitialized p = true) (hph : c.phase = .reconciling) (hd : c.deeds p = []) :
    c.publish.Settles (.reconciled [] [] false false) := by
  obtain ⟨hj, hv, hc⟩ := agenda_eq_nil hd
  refine ⟨?_, .aligned hp hi (hl.isAligned hd)⟩
  have hb : c.publish.begin = { c.publish with phase := .reconciling }.applyDelta p :=
    begin_of_isInitialized (c := c.publish) hh hp hi
  have hphase : ({ c.publish with phase := .reconciling } : Cluster) = c.publish := by rw [← hph]; rfl
  have hrec : c.publish.enrollPrimary p = c.publish := if_pos hl.recorded
  have hj' : c.publish.joiners = [] := hj
  have hv' : c.publish.leavers p = [] := hv
  have hc' : ¬ (c.publish.stages && c.publish.pendingCommit) = true := hc
  rw [hb, hphase, applyDelta, hrec]
  simp only [hj', hv', joinNext, leaveNext, commitNext]
  rw [if_neg hc']
  rfl

/-! ## What a pass leaves -/

/-- **A pass that did all there was to do** leaves the cluster at rest, if nobody is now due to follow its primary. -/
theorem Sound.settles_of_completes (h : c.Sound known) (hd : DistinctIds known) (hp : c.handOver.primary = some p)
    (hi : c.isInitialized p = true) {w : Passage σ} {t : Target} {joined left : List NodeId}
    (hw : w.Completes t joined left (c.under p) ((c.under p).deeds p)) (hh : w.cluster.IsHandedOver) :
    w.cluster.Settles (.reconciled [] [] false false) := by
  obtain ⟨hm, hl, hnil⟩ := (h.led_under hd hp).deeds_of_done (List.append_nil _).symm
  have hf := (frame_under c p).trans hm.frame
  rw [hw.cluster] at hh ⊢
  refine settles_aligned hl hh (hm.primary.trans (primary_under hp)) ?_ ?_ hnil
  · rw [hf.isInitialized]; exact hi
  · rw [phase_performAll, phase_under]

/-- **A pass under a primary that nobody is due to follow** leaves the cluster at rest. -/
theorem Sound.settles_of_keeps (h : c.Sound known) (hd : DistinctIds known) (hk : c.handOver.Keeps p) (s : σ)
    (hs : (c.pass take s).Succeeds) : ∃ o, (c.pass take s).cluster.Settles o := by
  have hf := (h.writes_pass take s).frame
  have hf' := frame_handOver c
  have he := c.ends take h.group_keyed s
  generalize c.pass take s = w at hs he hf ⊢
  cases he with
  | unready vacant _ _ => exact absurd (hk.primary.symm.trans vacant) nofun
  | adopted vacant _ _ _ => exact absurd (hk.primary.symm.trans vacant) nofun
  | bootstrapped vacant _ _ _ => exact absurd (hk.primary.symm.trans vacant) nofun
  | refused vacant _ _ _ _ _ => exact absurd (hk.primary.symm.trans vacant) nofun
  | awaits primary uninitialized eq =>
    rw [eq]
    rw [← hf'.isInitialized] at uninitialized
    exact ⟨_, settles_awaiting hk.isHandedOver primary uninitialized⟩
  | @reconciles q primary initialized goes =>
    obtain rfl : p = q := Option.some.inj (hk.primary.symm.trans primary)
    have hc := goes.completes hs
    have hkw : w.cluster.Keeps p := by
      refine ⟨primary_goesThrough primary goes, ?_, ?_⟩
      · rw [hf.hasDeparted, ← hf'.hasDeparted]; exact hk.present
      · rw [hf.isOverdue, ← hf'.isOverdue]; exact hk.due
    exact ⟨_, h.settles_of_completes hd primary initialized hc hkw.isHandedOver⟩

/-- **Every pass ends at rest, or the next one starts under a primary that nobody is due to follow.** -/
theorem Sound.settles_or_keeps (h : c.Sound known) (hd : DistinctIds known) (s : σ) (hs : (c.pass take s).Succeeds) :
    (∃ o, (c.pass take s).cluster.Settles o) ∨ ∃ p, (c.pass take s).cluster.handOver.Keeps p := by
  have hw := h.writes_pass take s
  have hk : (c.pass take s).cluster.group.roster.Keyed := (h.writes hw).group_keyed
  have hf := hw.frame
  have hf' := frame_handOver c
  -- whoever was just elected is a ready member, and stays primary
  have helected : ∀ {n : Node}, c.group.members.find? c.isReady = some n →
      (c.pass take s).cluster.primary = some n → (c.pass take s).cluster.handOver.Keeps n := by
    intro n hn hp
    have hkeeps : (c.pass take s).cluster.Keeps n := by
      refine ⟨hp, ?_, ?_⟩
      · rw [hf.hasDeparted]; exact hasDeparted_of_mem h.group_keyed (List.mem_of_find?_eq_some hn)
      · rw [hf.isOverdue]; exact isOverdue_of_isReady (List.find?_some hn)
    rw [handOver_of_isHandedOver hkeeps.isHandedOver]
    exact hkeeps
  have he := c.ends take h.group_keyed s
  generalize c.pass take s = w at hs hk he hf helected ⊢
  cases he with
  | unready vacant first eq =>
    rw [eq]
    rw [← hf'.group, ← hf'.isReady] at first
    exact Or.inl ⟨_, settles_unready vacant first⟩
  | adopted _ first _ eq => exact Or.inr ⟨_, helected first (by rw [eq]; rfl)⟩
  | bootstrapped _ first cluster _ => exact Or.inr ⟨_, helected first (by rw [cluster]; rfl)⟩
  | refused _ _ exchanges failed _ _ => exact absurd (hs _ (by rw [exchanges]; exact List.mem_cons_self)) failed
  | awaits primary uninitialized eq =>
    rw [eq]
    rw [← hf'.isInitialized] at uninitialized
    exact Or.inl ⟨_, settles_awaiting (isHandedOver_handOver h.group_keyed) primary uninitialized⟩
  | @reconciles p primary initialized goes =>
    have hc := goes.completes hs
    rcases handOver_spec hk with hh | ⟨n, -, hkeeps⟩ | ⟨q, hq, hdeparted, -⟩
    · exact Or.inl ⟨_, h.settles_of_completes hd primary initialized hc hh⟩
    · exact Or.inr ⟨n, hkeeps⟩
    · -- the primary was handed over, so it has not left the group
      obtain rfl : p = q := Option.some.inj ((primary_goesThrough primary goes).symm.trans hq)
      rw [hf.hasDeparted, ← hf'.hasDeparted, (isHandedOver_handOver h.group_keyed p primary).1] at hdeparted
      cases hdeparted

theorem Sound.settles_after_reconciled (h : c.Sound known) (hd : DistinctIds known) (s : σ) {joined left : List NodeId}
    {committed rebalanced : Bool} (hr : (c.pass take s).result = .ok (.reconciled joined left committed rebalanced))
    (hp : (c.pass take s).cluster.primary = some p) (hready : c.isReady p = true ∨ c.config.replaceUnready = false) :
    (c.pass take s).cluster.Settles (.reconciled [] [] false false) := by
  have hf := (h.writes_pass take s).frame
  have hf' := frame_handOver c
  obtain ⟨q, primary, initialized, -, -, hc⟩ := completes_of_reconciled take h.group_keyed hr
  obtain rfl : p = q := Option.some.inj (hp.symm.trans (primary_goesThrough primary (.inl hc)))
  refine h.settles_of_completes hd primary initialized hc (Keeps.isHandedOver (p := p) ⟨hp, ?_, ?_⟩)
  · rw [hf.hasDeparted, ← hf'.hasDeparted]
    exact (isHandedOver_handOver h.group_keyed p primary).1
  · rw [hf.isOverdue]
    rcases hready with hr | hr <;> simp [isOverdue, hr]

end Cluster

/-- **Passes come to rest.**  Where no two of the nodes that the controller has to do with share an identity, and every
call of the first two passes is carried out, the passes from the third one on make no call, change neither the
controller nor the backing cluster, and come to one and the same outcome; that is a deferral only where no member is
ready or the primary is not initialized, and else the active nodes are the ready members and the primary.  After a pass
that brought the membership in line under a primary not due to be replaced, already the next one is such. -/
theorem passes_settle (config : Config) (stages : Bool) (group : String) (history : List Event) {σ : Type*}
    (take : σ → Call → σ × Answer) (s : σ)
    (hd : DistinctIds ((Moment.fresh config stages group).run history).cluster.Involves)
    (hs : ∀ i < 2, (((Moment.fresh config stages group).run history).cluster.passage take s i).Succeeds) :
    let c := ((Moment.fresh config stages group).run history).cluster
    let w := c.passage take s
    (∃ o, (w 1).cluster.RestsAt o ∧ ∀ i ≥ 2, w i = ⟨(w 1).cluster, (w 1).backing, [], .ok o⟩) ∧
    ∀ i p joined left committed rebalanced,
      (w i).result = .ok (.reconciled joined left committed rebalanced) → (w i).cluster.primary = some p →
      c.isReady p = true ∨ c.config.replaceUnready = false →
      (w i).cluster.RestsAt (.reconciled [] [] false false) ∧
      ∀ j > i, w j = ⟨(w i).cluster, (w i).backing, [], .ok (.reconciled [] [] false false)⟩ := by
  intro c w
  have hsound : c.Sound c.Involves := Moment.sound_cluster_run config stages group history
  have hsi : ∀ i, (w i).cluster.Sound c.Involves := fun i => hsound.writes (hsound.writes_passage take s i)
  have hrest : ∀ i o, (w i).cluster.Settles o → ∀ j > i, w j = ⟨(w i).cluster, (w i).backing, [], .ok o⟩ := by
    intro i o ho j hj
    obtain ⟨k, rfl⟩ := Nat.exists_eq_add_of_lt hj
    rw [Nat.add_right_comm]
    exact (Cluster.passage_add take c s i k).trans (ho.passage take _ k)
  refine ⟨?_, fun i p joined left committed rebalanced hr hp hready => ?_⟩
  · -- the second pass ends at rest: the first one did already, or it left a primary that nobody is due to follow
    have hset : ∃ o, (w 1).cluster.Settles o := by
      rcases hsound.settles_or_keeps take hd s (hs 0 (by omega)) with ⟨o, ho⟩ | ⟨p, hp⟩
      · have h1 := hrest 0 o ho 1 (by omega)
        exact ⟨o, by rw [h1]; exact ho⟩
      · exact (hsi 0).settles_of_keeps take hd hp (w 0).backing (hs 1 (by omega))
    obtain ⟨o, ho⟩ := hset
    exact ⟨o, ho.rests, fun i hi => hrest 1 o ho i hi⟩
  · have hset : (w i).cluster.Settles (.reconciled [] [] false false) := by
      cases i with
      | zero => exact hsound.settles_after_reconciled take hd s hr hp hready
      | succ i =>
        have hf := (hsound.writes_passage take s i).frame
        refine (hsi i).settles_after_reconciled take hd (w i).backing hr hp ?_
        rw [hf.isReady, hf.config]
        exact hready
    exact ⟨hset.rests, hrest i _ hset⟩

/-- A node joins under a primary that has just stopped being ready. -/
def overtaken (a b : Node) : List Event :=
  [.enter a, .report a .serviceUp true, .reconcile, .answer .done, .report a .coordinatorInitialized true, .reconcile,
    .enter b, .report b .serviceUp true, .report b .coordinatorInitialized true, .report a .serviceUp false]

/-- The first pass joins the node that the second one hands the role to. -/
theorem passes_settle_overtaken :
    let a : Node := ⟨0, ⟨"a"⟩, ⟨"h", 1⟩, ⟨"u", "p"⟩⟩
    let b : Node := ⟨1, ⟨"b"⟩, ⟨"h", 2⟩, ⟨"u", "p"⟩⟩
    let c := ((Moment.fresh {} true "g").run (overtaken a b)).cluster
    let w := c.passage scripted []
    DistinctIds c.Involves ∧ (∀ i < 2, (w i).Succeeds) ∧
    (∃ o, (w 1).cluster.RestsAt o ∧ ∀ i ≥ 2, w i = ⟨(w 1).cluster, (w 1).backing, [], .ok o⟩) ∧
    (w 0).result = .ok (.reconciled [b.id] [] true true) ∧ (w 1).result = .ok (.reconciled [] [a.id] true false) ∧
    (w 2).result = .ok (.reconciled [] [] false false) := by
  intro a b c w
  have hd : DistinctIds c.Involves := by simp only [c, a, b]; decide +kernel
  have hs : ∀ i < 2, (w i).Succeeds := by simp only [w, c, a, b]; decide +kernel
  refine ⟨hd, hs, (passes_settle {} true "g" (overtaken a b) scripted [] hd hs).1, ?_, ?_, ?_⟩
  · simp only [w, c, a, b]; decide +kernel
  · simp only [w, c, a, b]; decide +kernel
  · simp only [w, c, a, b]; decide +kernel

end ClusterMembership
