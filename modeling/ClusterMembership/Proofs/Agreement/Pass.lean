import ClusterMembership.Proofs.Agreement.Basic
/-!
# A pass keeps the two views in agreement

What the work in hand relies on is `Pending.Fits`: the nodes that join are new, the primary is not among those that leave
and is an active node itself, and a rebalance finds nothing planned.  A pass that adopts nobody starts in agreement
(`holds_begin`), and it stays in agreement whatever the backing cluster answers (`holds_resume`): a call that is carried
out changes both sides alike, and one that is not changes neither.
-/
namespace ClusterMembership

/-- What the work that a pass has still to do relies on. -/
def Pending.Fits (c : Cluster) (s : SimulatedCluster) : Pending → Prop
  | .bootstrapping _ => True
  | .joining d n rest => c.Leads d.leaves ∧ (n :: rest).Nodup ∧ ∀ m ∈ n :: rest, m ∉ c.active.nodes
  | .leaving _ n rest => c.Leads (n :: rest)
  | .committing _ => True
  | .rebalancing .. => s.plan = []

/-- The membership was brought in line. -/
def IsReconciled : Except Failure Outcome → Prop
  | .ok (.reconciled ..) => True
  | _ => False

/-- What a pass relies on once it has come so far; one that brought the membership in line left nothing planned. -/
def Progress.Fits (c : Cluster) (s : SimulatedCluster) : Progress → Prop
  | .finished result => IsReconciled result → s.plan = []
  | .calling _ p => p.Fits c s

/-- The cluster that a pass has come to agrees with the backing cluster, and the work that is left fits it. -/
structure Holds (s : SimulatedCluster) (q : Cluster × Progress) : Prop where
  agrees : Agrees q.1 s
  planned : Planned q.1 s
  fits : q.2.Fits q.1 s

variable {known : Node → Prop} {c c' : Cluster} {s s' : SimulatedCluster}

theorem Pending.Fits.congr {p : Pending} (h : p.Fits c s) (hm : s.SameMembership s') : p.Fits c s' := by
  cases p with
  | rebalancing d committed => exact hm.plan.trans h
  | _ => exact h

theorem Pending.Fits.keep {p : Pending} (h : p.Fits c s) (ha : c'.active = c.active) (hp : c'.primary = c.primary) :
    p.Fits c' s := by
  cases p with
  | joining d n rest =>
    obtain ⟨hl, hnd, hna⟩ := h
    refine ⟨?_, hnd, by rw [ha]; exact hna⟩
    rw [Cluster.Leads, ha, hp]
    exact hl
  | leaving d n rest =>
    show c'.Leads (n :: rest)
    rw [Cluster.Leads, ha, hp]
    exact h
  | _ => exact h

/-! ## Going on with a delta -/

theorem Holds.finish (ha : Agrees c s) (hp : Planned c s) {phase : Phase} {result : Except Failure Outcome}
    (h : IsReconciled result → s.plan = []) : Holds s ({ c with phase }.finish result) :=
  ⟨ha.keep rfl rfl, hp.keep rfl rfl, h⟩

theorem holds_rebalanceNext (ha : Agrees c s) (hp : Planned c s) (d : Delta) (committed : Bool) (h : s.plan = []) :
    Holds s (c.rebalanceNext d committed) := by
  unfold Cluster.rebalanceNext
  split
  · exact ⟨ha, hp, h⟩
  · exact Holds.finish ha hp (fun _ => h)

theorem holds_commitNext (ha : Agrees c s) (hp : Planned c s) (d : Delta) : Holds s (c.commitNext d) := by
  unfold Cluster.commitNext
  split
  · exact ⟨ha, hp, trivial⟩
  · next h => exact holds_rebalanceNext ha hp d false (hp.plan_eq_nil h)

theorem holds_leaveNext (ha : Agrees c s) (hp : Planned c s) (d : Delta) {rest : List Node} (h : c.Leads rest) :
    Holds s (c.leaveNext d rest) := by
  cases rest with
  | nil => exact holds_commitNext ha hp d
  | cons n rest => exact ⟨ha, hp, h⟩

theorem holds_joinNext (hm : c.Marked) (ha : Agrees c s) (hp : Planned c s) (d : Delta) {rest : List Node}
    (hl : c.Leads d.leaves) (hd : rest.Nodup) (hn : ∀ m ∈ rest, m ∉ c.active.nodes) :
    Holds s (c.joinNext d rest) := by
  cases rest with
  | nil => exact holds_leaveNext ha hp d hl
  | cons n rest =>
    have hi : ¬ c.isActive n = true := fun h => hn n List.mem_cons_self (hm n h)
    rw [Cluster.joinNext, if_neg hi]
    exact ⟨ha, hp, hl, hd, hn⟩

/-! ## The start of a pass -/

/-- **A delta starts in agreement.** -/
theorem holds_applyDelta (hd : DistinctIds known) (hs : c.Sound known) (hm : c.Marked) (ha : Agrees c s)
    (hp : Planned c s) {p : Node} (hpr : c.primary = some p) : Holds s (c.applyDelta p) := by
  have hw : Cluster.MemberWrites known c (c.enrollPrimary p) :=
    Cluster.memberWrites_enrollPrimary c (hs.primary_known p hpr)
  obtain ⟨ha', hpa⟩ := agrees_enrollPrimary hd hs ha hpr
  have hs' := hs.writes hw.writes
  have hm' := hm.writes hd hs hw.writes
  refine holds_joinNext hm' ha' (hp.enrollPrimary p) _ ⟨p, hw.primary.trans hpr, hpa, fun hl => ?_⟩ ?_ (fun m hj hma => ?_)
  · have := (List.mem_filter.1 hl).2
    simp at this
  · exact hs'.group_keyed.nodup_nodes.filter _
  · have hj' := (List.mem_filter.1 hj).2
    rw [hs'.active_keyed.contains_of_mem hma] at hj'
    simp at hj'

/-- **A pass that adopts nobody starts in agreement.** -/
theorem holds_begin (hd : DistinctIds known) (hs : c.Sound known) (hm : c.Marked) (ha : Agrees c s)
    (hp : Planned c s) (hn : c.adopts = false) : Holds s c.begin := by
  have hw := Cluster.writes_handOver c hs.members_known
  have hf := Cluster.frame_handOver c
  have hs' := hs.writes hw
  have hm' := hm.writes hd hs hw
  have ha' := ha.handOver hm
  have hp' := hp.handOver
  have hb := Cluster.begins c
  generalize c.begin = q at hb ⊢
  cases hb with
  | unready _ _ => exact Holds.finish ha' hp' False.elim
  | @adopted n vacant first initialized =>
    rw [hf.group, hf.isReady] at first
    rw [hf.isInitialized] at initialized
    rw [Cluster.adopts, vacant, first] at hn
    simp [initialized] at hn
  | bootstraps _ _ _ => exact ⟨ha'.keep rfl rfl, hp'.keep rfl rfl, trivial⟩
  | awaits _ _ => exact Holds.finish ha' hp' False.elim
  | @reconciles p primary _ =>
    have hph : Cluster.Writes known c.handOver { c.handOver with phase := .reconciling } :=
      (Cluster.MemberWrites.single (.phase _)).writes
    exact holds_applyDelta hd (hs'.writes hph) (hm'.writes hd hs' hph) (ha'.keep rfl rfl) (hp'.keep rfl rfl) primary

/-! ## Answers -/

theorem holds_bootstrapped (hp : Planned c s) (n : Node) :
    Holds (s.carryOut (.bootstrap n.target)) (c.forgetActive.assume n) := by
  have ha' : Agrees (c.forgetActive.promote n) (s.carryOut (.bootstrap n.target)) := by
    refine ⟨fun a ha => absurd ha List.not_mem_nil, fun p hpr a => ?_, fun _ _ => Or.inl rfl⟩
    rw [← Option.some.inj hpr]
    show a ∈ [n.address] ↔ a = n.address ∨ a ∈ []
    simp
  have hp' : Planned (c.forgetActive.promote n) (s.carryOut (.bootstrap n.target)) := by
    refine ⟨hp.stages, fun _ => rfl, ?_⟩
    show false = true ↔ ([] : List Change) ≠ []
    simp
  exact Holds.finish ha' hp' False.elim

/-- **A call that is carried out on both sides keeps them in agreement.** -/
theorem holds_resume_of_done (hd : DistinctIds known) (hda : DistinctAddresses known) (hs : c.Sound known)
    (hm : c.Marked) (ha : Agrees c s) (hp : Planned c s) {p : Pending} (hk : ∀ n ∈ p.nodes, known n) (hf : p.Fits c s) :
    Holds (s.carryOut p.call) (c.resume p .done) := by
  have hst : Cluster.Writes known c c.markStaged := (Cluster.MemberWrites.single (.pendingCommit _)).writes
  have hs' := hs.writes hst
  have hm' := hm.writes hd hs hst
  have ha' : Agrees c.markStaged s := ha.keep rfl rfl
  have hr := Cluster.resumes c p .done
  generalize c.resume p .done = q at hr ⊢
  cases hr with
  | failed phase f h => exact absurd rfl h
  | @bootstrapped n _ => exact holds_bootstrapped hp n
  | @joined d n rest _ =>
    obtain ⟨hl, hnd, hna⟩ := hf
    obtain ⟨hnr, hrd⟩ := List.nodup_cons.1 hnd
    have hn := hk n List.mem_cons_self
    have he : Cluster.Writes known c.markStaged (c.markStaged.enroll n.id n) :=
      (Cluster.MemberWrites.single (.enroll hn)).writes
    have hl' : c.markStaged.Leads d.leaves := hl
    -- the primary has its place among the active nodes since the delta began, so the two sides gain one address each
    refine holds_joinNext (hm'.writes hd hs' he) (ha'.enroll hd hs' hn (fun q hq => ?_) (fun a => ?_))
      ((hp.change (.join n.address)).keep rfl rfl) _ (leads_enroll hd hs' hn hl') hrd (fun m hmr hma => ?_)
    · obtain ⟨p, hpr, hpa, -⟩ := hl
      rw [← Option.some.inj (hpr.symm.trans hq)]
      exact Or.inr hpa
    · show a ∈ (s.change (.join n.address)).effective ↔ _
      rw [SimulatedCluster.effective_change hp.orderly]
      exact Simulated.mem_including
    · rcases (Cluster.mem_active_enroll hs'.active_keyed).1 hma with rfl | ⟨hma, -⟩
      · exact hnr hmr
      · exact hna m (List.mem_cons_of_mem n hmr) hma
  | @left d n rest _ =>
    have hn := hk n List.mem_cons_self
    have hl : c.markStaged.Leads (n :: rest) := hf
    -- the primary never leaves, and no other active node has the address of the one that does
    refine holds_leaveNext (ha'.discharge hd hda hs' hn hl.head (fun a => ?_))
      ((hp.change (.leave n.address)).keep rfl rfl) _ (leads_discharge hd hs' hn hl)
    show a ∈ (s.change (.leave n.address)).effective ↔ _
    rw [SimulatedCluster.effective_change hp.orderly]
    exact Simulated.mem_excluding
  | @committed d _ =>
    have ha'' : Agrees { c with pendingCommit := false } (s.carryOut (.commit d.coordinator)) :=
      ⟨ha.covered, ha.exact, ha.anchored⟩
    have hp' : Planned { c with pendingCommit := false } (s.carryOut (.commit d.coordinator)) := by
      refine ⟨hp.stages, fun _ => rfl, ?_⟩
      show false = true ↔ ([] : List Change) ≠ []
      simp
    exact holds_rebalanceNext ha'' hp' d true rfl
  | rebalanced _ => exact Holds.finish ha hp (fun _ => hf)

theorem holds_resume_of_failure (ha : Agrees c s) (hp : Planned c s) {p : Pending} (hf : p.Fits c s) {a : Answer}
    (h : ¬ a.fulfils p.call = true) : Holds s (c.resume p a) := by
  have hr := Cluster.resumes c p a
  generalize c.resume p a = q at hr ⊢
  cases hr with
  | failed phase f _ => exact Holds.finish ha hp False.elim
  | bootstrapped hc => exact absurd hc h
  | joined hc => exact absurd hc h
  | left hc => exact absurd hc h
  | committed hc => exact absurd hc h
  | rebalanced _ => exact Holds.finish ha hp (fun _ => hf)

/-- **Whatever the backing cluster answers, the two stay in agreement.** -/
theorem holds_resume (hd : DistinctIds known) (hda : DistinctAddresses known) (hs : c.Sound known) (hm : c.Marked)
    (ha : Agrees c s) (hp : Planned c s) {p : Pending} (hk : ∀ n ∈ p.nodes, known n) (hf : p.Fits c s) (limit : Span) :
    Holds (s.performWithin limit p.call).1 (c.resume p (s.performWithin limit p.call).2.1) := by
  rcases s.performWithin_cases limit p.call with ⟨hdone, -, hr⟩ | ⟨hsame, hr⟩
  · have hrec : s.SameMembership (s.record p.call) := ⟨rfl, rfl, rfl⟩
    rw [hdone, hr]
    exact holds_resume_of_done hd hda hs hm (ha.congr hrec) (hp.congr hrec) hk (hf.congr hrec)
  · refine holds_resume_of_failure (ha.congr hsame) (hp.congr hsame) (hf.congr hsame) (fun h => ?_)
    -- a refusal counts as done only if it says that the node is a member already, and none that joins is
    rcases hr with hr | ⟨why, hr, hw⟩
    · rw [hr] at h
      cases h
    · rw [hr] at h
      obtain ⟨hkind, hjoin⟩ := (Answer.fulfils_refused_iff _ _).1 h
      cases p with
      | joining d n rest =>
        obtain ⟨hl, -, hna⟩ := hf
        exact not_mem_effective hda hs ha (hk n List.mem_cons_self) (hna n List.mem_cons_self) hl
          (SimulatedCluster.mem_effective_of_alreadyMember hw hkind)
      | _ => cases hjoin

end ClusterMembership
