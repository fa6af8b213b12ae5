import ClusterMembership.Proofs.Deeds
import ClusterMembership.Proofs.Disturbances
import ClusterMembership.Proofs.PrimaryRole
/-!
# Failed passes and their retries

A pass whose call fails keeps what the calls before it did, and nothing of that one.  Since deeds take themselves off the
list, the next pass has to do what is left of it: however often passes fail, they and the one that at last gets through do
together what one pass without a failure does, deed by deed and in the same order (`passes_accumulate`).  A bootstrap that
fails leaves all but the primary role as it was.
-/
namespace ClusterMembership

namespace Cluster

variable {known : Node → Prop} {c : Cluster} {p : Node}

/-- The primary is `p`, which is in the group, ready and initialized. -/
structure Steady (c : Cluster) (p : Node) : Prop where
  primary : c.primary = some p
  present : c.group.contains p.id = true
  ready : c.isReady p = true
  initialized : c.isInitialized p = true

theorem Steady.keeps (h : c.Steady p) : c.Keeps p :=
  ⟨h.primary, by rw [hasDeparted, h.present]; rfl, isOverdue_of_isReady h.ready⟩

theorem Steady.handOver_eq (h : c.Steady p) : c.handOver = c := h.keeps.handOver_eq

theorem Steady.handOver_keeps (h : c.Steady p) : c.handOver.Keeps p := by rw [h.handOver_eq]; exact h.keeps

theorem Steady.of_frame {c' : Cluster} (h : c.Steady p) (hf : Frame c c') (hp : c'.primary = some p) : c'.Steady p :=
  ⟨hp, by rw [hf.group]; exact h.present, by rw [hf.isReady]; exact h.ready, by
    rw [hf.isInitialized]; exact h.initialized⟩

theorem performAll_append (c : Cluster) (ds ds' : List Deed) :
    c.performAll (ds ++ ds') = (c.performAll ds).performAll ds' := List.foldl_append

/-- What is published has no part in what deeds do. -/
theorem performAll_published (c : Cluster) (u : Summary) (ds : List Deed) :
    ({ c with published := u } : Cluster).performAll ds = { c.performAll ds with published := u } := by
  induction ds generalizing c with
  | nil => rfl
  | cons deed ds ih =>
    have hd : ({ c with published := u } : Cluster).perform deed = { c.perform deed with published := u } := by
      cases deed <;> rfl
    exact (congrArg (·.performAll ds) hd).trans (ih (c.perform deed))

theorem publish_performAll_publish (c : Cluster) (ds : List Deed) :
    (c.publish.performAll ds).publish = (c.performAll ds).publish :=
  (congrArg publish (performAll_published c c.summary ds)).trans rfl

variable {σ : Type*} (take : σ → Call → σ × Answer)

/-- The calls that the first passes carry out, one after the other. -/
def carriedOut (c : Cluster) (s : σ) (passes : Nat) : List Call :=
  (((List.range passes).flatMap fun i => (c.passage take s i).exchanges).filter (decide ·.Succeeded)).map (·.call)

theorem carriedOut_succ (c : Cluster) (s : σ) (passes : Nat) :
    c.carriedOut take s (passes + 1) =
      ((c.pass take s).exchanges.filter (decide ·.Succeeded)).map (·.call) ++
        (c.pass take s).cluster.carriedOut take (c.pass take s).backing passes := by
  have h : (List.range passes).flatMap (fun i => (c.passage take s (i + 1)).exchanges) =
      (List.range passes).flatMap fun i =>
        ((c.pass take s).cluster.passage take (c.pass take s).backing i).exchanges :=
    congrArg (List.flatMap · _) (funext fun i => by rw [passage_succ'])
  rw [carriedOut, List.range_succ_eq_map, List.flatMap_cons, List.flatMap_map, List.filter_append, List.map_append, h]
  rfl

end Cluster

theorem filter_succeeded {xs : List Exchange} (h : ∀ x ∈ xs, x.Succeeded) : xs.filter (decide ·.Succeeded) = xs :=
  List.filter_eq_self.2 (fun x hx => decide_eq_true (h x hx))

namespace Passage

variable {σ : Type*} {w : Passage σ} {t : Target} {joined left : List NodeId} {c : Cluster} {ds done : List Deed}
  {broken : Deed}

theorem BreaksAt.carriedOut (h : w.BreaksAt t c done broken) :
    (w.exchanges.filter (decide ·.Succeeded)).map (·.call) = done.filterMap (·.call? t) := by
  obtain ⟨xs, y, hw, hx, hs, -, hy⟩ := h.exchanges
  rw [hw, List.filter_append, filter_succeeded hs, List.filter_cons_of_neg (by simpa using hy), List.filter_nil,
    List.append_nil, hx]

/-- The pass carries out the calls of all its deeds, and a rebalance at most. -/
theorem Completes.carriedOut (h : w.Completes t joined left c ds) :
    ∃ others, (w.exchanges.filter (decide ·.Succeeded)).map (·.call) = ds.filterMap (·.call? t) ++ others ∧
      ∀ call ∈ others, call = .rebalance t := by
  obtain ⟨xs, ys, hw, hx, hs, hy⟩ := h.exchanges
  refine ⟨(ys.filter (decide ·.Succeeded)).map (·.call), ?_, fun call hc => ?_⟩
  · rw [hw, List.filter_append, filter_succeeded hs, List.map_append, hx]
  · obtain ⟨y, hmem, rfl⟩ := List.mem_map.1 hc
    exact hy y (List.mem_filter.1 hmem).1

end Passage

namespace Cluster

variable {known : Node → Prop} {c : Cluster} {p : Node} {σ : Type*} (take : σ → Call → σ × Answer)

theorem goesThrough_of_error {w : Passage σ} {t : Target} {joined left : List NodeId} {ds : List Deed} {f : Failure}
    (h : w.GoesThrough t joined left c ds) (hf : w.result = .error f) :
    ∃ done broken rest, ds = done ++ broken :: rest ∧ w.BreaksAt t c done broken := by
  rcases h with h | h
  · obtain ⟨committed, rebalanced, hr⟩ := h.result
    rw [hf] at hr
    cases hr
  · exact h

theorem Sound.goesThrough (h : c.Sound known) (hp : c.Steady p) (s : σ) :
    (c.pass take s).GoesThrough p.target [] [] (c.under p) ((c.under p).deeds p) :=
  goesThrough_pass take h.group_keyed hp.handOver_keeps.primary hp.initialized s

/-- **Passes accumulate.**  However many passes fail before one gets through, together they do the deeds of the first one,
each once and in their order. -/
theorem Sound.passes_accumulate (hd : DistinctIds known) (k : Nat) : ∀ {c : Cluster}, c.Sound known → c.Steady p →
    ∀ s : σ, (∀ i < k, ∃ f, (c.passage take s i).result = .error f) → (c.passage take s k).Succeeds →
      (c.passage take s k).cluster = ((c.under p).performAll ((c.under p).deeds p)).publish ∧
      (∃ joined left committed rebalanced,
        (c.passage take s k).result = .ok (.reconciled joined left committed rebalanced)) ∧
      ∃ others, c.carriedOut take s (k + 1) = ((c.under p).deeds p).filterMap (·.call? p.target) ++ others ∧
        ∀ call ∈ others, call = .rebalance p.target := by
  induction k with
  | zero =>
    intro c h hp s _ hs
    have hw := (h.goesThrough take hp s).completes hs
    obtain ⟨committed, rebalanced, hr⟩ := hw.result
    obtain ⟨others, ho, hreb⟩ := hw.carriedOut
    refine ⟨hw.cluster, ⟨_, _, committed, rebalanced, hr⟩, others, ?_, hreb⟩
    rw [carriedOut_succ, ho]
    exact List.append_nil _
  | succ k ih =>
    intro c h hp s hfail hs
    obtain ⟨f, hf⟩ := hfail 0 (Nat.succ_pos k)
    obtain ⟨done, broken, rest, hds, hw⟩ := goesThrough_of_error (h.goesThrough take hp s) hf
    obtain ⟨hkeeps, hunder, -, hrest⟩ := h.after_break hd hp.handOver_keeps hds hw
    have hst : (c.pass take s).cluster.Steady p := hp.of_frame (h.writes_pass take s).frame hkeeps.primary
    have hsound : (c.pass take s).cluster.Sound known := h.writes (h.writes_pass take s)
    -- the passes that are left start from where the first one broke
    have hshift := fun i => passage_succ' take c s i
    obtain ⟨hcl, hres, others, ho, hreb⟩ := ih hsound hst (c.pass take s).backing
      (fun i hi => hshift i ▸ hfail (i + 1) (Nat.succ_lt_succ hi)) (hshift k ▸ hs)
    rw [hunder, hrest] at hcl ho
    refine ⟨?_, hshift k ▸ hres, others, ?_, hreb⟩
    · rw [hshift, hcl, hw.cluster, publish_performAll_publish, ← performAll_append, ← hds]
    · rw [carriedOut_succ, ho, hw.carriedOut, hds, List.filterMap_append, List.append_assoc]

/-! ## Which calls these are -/

theorem filterMap_deeds (c : Cluster) (p : Node) (t : Target) :
    (c.deeds p).filterMap (·.call? t) =
      (c.joiners.filter (!c.isActive ·)).map (fun n => .join t n.address n.credentials) ++
        (c.leavers p).map (fun n => .leave t n.target) ++
        if c.stages && (c.pendingCommit || c.joiners.any (!c.isActive ·) || !(c.leavers p).isEmpty) then [.commit t]
        else [] := by
  rw [deeds, agenda, List.filterMap_append, List.filterMap_append, List.filterMap_map, List.filterMap_map]
  congr 1
  · congr 1
    · rw [← List.filterMap_eq_map, ← List.filterMap_eq_filter, List.filterMap_filterMap]
      refine List.filterMap_congr (fun n _ => ?_)
      by_cases hn : c.isActive n = true <;> simp [admission, Deed.call?, Option.guard, hn]
    · rw [← List.filterMap_eq_map]
      rfl
  · split <;> rfl

/-- **The joins among the calls** are those of the newcomers not flagged active, and the leaves those of the leavers. -/
theorem filter_calls (c : Cluster) (p : Node) {others : List Call} (ho : ∀ call ∈ others, call = .rebalance p.target) :
    let calls := ((c.under p).deeds p).filterMap (·.call? p.target) ++ others
    calls.filter (·.action = .join) =
      ((c.newcomers p).filter (!c.isActive ·)).map (fun n => .join p.target n.address n.credentials) ∧
    calls.filter (·.action = .leave) = (c.leavers p).map fun n => .leave p.target n.target := by
  have hact : (c.newcomers p).filter (!(c.under p).isActive ·) = (c.newcomers p).filter (!c.isActive ·) :=
    List.filter_congr (fun n hn => by rw [isActive_under hn])
  have hothers : ∀ a, a ≠ .rebalance → others.filter (·.action = a) = [] := fun a ha =>
    List.filter_eq_nil_iff.2 (fun call hc => by rw [ho call hc, decide_eq_true_eq]; exact ha.symm)
  have hcommit : ∀ (a : Action) (b : Bool), a ≠ .commit →
      (if b then [Call.commit p.target] else []).filter (·.action = a) = [] := by
    intro a b ha
    cases b
    · rfl
    · exact List.filter_cons_of_neg (by rw [decide_eq_true_eq]; exact ha.symm)
  intro calls
  simp only [calls]
  rw [filterMap_deeds, joiners_under, leavers_under, hact]
  constructor
  · rw [List.filter_append, List.filter_append, List.filter_append, hothers .join (by decide), hcommit .join _ (by decide),
      List.append_nil, List.append_nil, List.filter_map, List.filter_map]
    simp [Function.comp_def, Call.action]
  · rw [List.filter_append, List.filter_append, List.filter_append, hothers .leave (by decide), hcommit .leave _ (by decide),
      List.append_nil, List.append_nil, List.filter_map, List.filter_map]
    simp [Function.comp_def, Call.action]

end Cluster

/-! ## A bootstrap that fails -/

/-- If this is the end of the pass, nothing went wrong. -/
def Progress.IsWell : Progress → Prop
  | .finished result => ∃ o, result = .ok o
  | .calling .. => True

namespace Cluster

theorem isWell_rebalanceNext (c : Cluster) (d : Delta) (committed : Bool) : (c.rebalanceNext d committed).2.IsWell := by
  unfold rebalanceNext
  split
  · trivial
  · exact ⟨_, rfl⟩

theorem isWell_commitNext (c : Cluster) (d : Delta) : (c.commitNext d).2.IsWell := by
  unfold commitNext
  split
  · trivial
  · exact isWell_rebalanceNext c d false

theorem isWell_leaveNext (c : Cluster) (d : Delta) (rest : List Node) : (c.leaveNext d rest).2.IsWell := by
  cases rest with
  | nil => exact isWell_commitNext c d
  | cons n rest => trivial

theorem isWell_joinNext (c : Cluster) (d : Delta) (rest : List Node) : (c.joinNext d rest).2.IsWell := by
  induction rest generalizing c d with
  | nil => exact isWell_leaveNext c d d.leaves
  | cons n rest ih =>
    rw [joinNext]
    split
    · exact ih _ _
    · trivial

/-- **A pass fails at the call that it waits for**, and for what that call is about. -/
theorem resume_bootstrapFailed {c : Cluster} {q : Pending} {a : Answer} {id : NodeId} {cause : String}
    (h : (c.resume q a).2 = .finished (.error (.bootstrapFailed id cause))) :
    (∃ n, q = .bootstrapping n) ∧ (c.resume q a).1 = { c with phase := .noPrimary }.publish := by
  have hwell : ∀ {r : Cluster × Progress}, r.2.IsWell → r.2 ≠ .finished (.error (.bootstrapFailed id cause)) := by
    intro r hr he
    rw [he] at hr
    obtain ⟨o, ho⟩ := hr
    cases ho
  by_cases ha : a.fulfils q.call = true
  · cases q with
    | bootstrapping n => rw [resume_bootstrapping c ha] at h; cases h
    | joining d n rest => rw [resume_joining c ha] at h; exact absurd h (hwell (isWell_joinNext _ _ _))
    | leaving d n rest => rw [resume_leaving c ha] at h; exact absurd h (hwell (isWell_leaveNext _ _ _))
    | committing d => rw [resume_committing c ha] at h; exact absurd h (hwell (isWell_rebalanceNext _ _ _))
    | rebalancing d committed => cases h
  · cases q with
    | bootstrapping n =>
      obtain ⟨cause', hc⟩ := resume_bootstrapping_of_failure c ha
      exact ⟨⟨n, rfl⟩, by rw [hc]; rfl⟩
    | joining d n rest => obtain ⟨cause', hc⟩ := resume_joining_of_failure c ha; rw [hc] at h; cases h
    | leaving d n rest => obtain ⟨cause', hc⟩ := resume_leaving_of_failure c ha; rw [hc] at h; cases h
    | committing d => obtain ⟨cause', hc⟩ := resume_committing_of_failure c ha; rw [hc] at h; cases h
    | rebalancing d committed => cases h

/-- What a pass that waits for a bootstrap has done so far is to hand the role over. -/
theorem begin_of_bootstrapping {c : Cluster} {call : Call} {n : Node}
    (h : c.begin.2 = .calling call (.bootstrapping n)) :
    c.begin.1 = { c.handOver with phase := .electingPrimary } ∧ c.handOver.primary = none := by
  have hb := begins c
  generalize c.begin = q at hb h ⊢
  cases hb with
  | unready _ _ => cases h
  | adopted _ _ _ => cases h
  | bootstraps vacant _ _ => exact ⟨rfl, vacant⟩
  | awaits _ _ => cases h
  | @reconciles p _ _ =>
    have hd : ({ c.handOver with phase := .reconciling }.applyDelta p).2.IsDelta := isDelta_joinNext _ _ _
    rw [h] at hd
    exact absurd rfl (hd.2 n)

end Cluster

namespace Moment

/-- **A bootstrap that fails** leaves the members and what is staged as they were, and nobody as primary. -/
theorem bootstrap_failed {m : Moment} (h : m.activity = .resting) {call : Call} {q : Pending}
    (hq : (m.step .reconcile).activity = .passing call q) {es : List Event} (hes : ∀ a, .answer a ∉ es) {a : Answer}
    {id : NodeId} {cause : String} (hr : (((m.step .reconcile).run es).answer a).activity = .resting)
    (ho : (((m.step .reconcile).run es).answer a).outcome = some (.error (.bootstrapFailed id cause))) :
    let k := ((m.step .reconcile).run es).answer a
    k.cluster.active = m.cluster.active ∧ (∀ n, k.cluster.isActive n = m.cluster.isActive n) ∧
      k.cluster.pendingCommit = m.cluster.pendingCommit ∧ k.cluster.primary = none := by
  intro k
  have hb : m.step .reconcile = ofProgress m.outcome m.cluster.begin := by simp only [step, reconcile, h]
  obtain ⟨hact, -, hsame⟩ := sameRecords_run (by rw [hq]; exact fun h => by cases h) hes
  rw [hq] at hact
  have hk : k = ofProgress ((m.step .reconcile).run es).outcome (((m.step .reconcile).run es).cluster.resume q a) := by
    simp only [k, answer, hact]
  -- the pass ends here, with the failure of the call that it was waiting for
  have hfin : (((m.step .reconcile).run es).cluster.resume q a).2 = .finished (.error (.bootstrapFailed id cause)) := by
    have hr' : k.activity = .resting := hr
    have ho' : k.outcome = some (.error (.bootstrapFailed id cause)) := ho
    rw [hk] at hr' ho'
    generalize ((m.step .reconcile).run es).cluster.resume q a = r at hr' ho' ⊢
    obtain ⟨c, result | ⟨call', q'⟩⟩ := r
    · exact congrArg Progress.finished (Option.some.inj ho')
    · cases hr'
  obtain ⟨⟨n, rfl⟩, hcl⟩ := Cluster.resume_bootstrapFailed hfin
  rw [hb] at hq hsame
  obtain ⟨hb1, hvacant⟩ := Cluster.begin_of_bootstrapping (activity_ofProgress hq)
  rw [cluster_ofProgress, hb1] at hsame
  have hkc : k.cluster = { ((m.step .reconcile).run es).cluster with phase := .noPrimary }.publish := by
    rw [hk, cluster_ofProgress, hcl]
  rw [hkc, hb]
  exact ⟨hsame.active.trans (Cluster.active_handOver m.cluster),
    fun i => (hsame.isActive i).trans (Cluster.isActive_handOver m.cluster i),
    hsame.pendingCommit.trans (Cluster.pendingCommit_handOver m.cluster), hsame.primary.trans hvacant⟩

end Moment

/-- **A failed pass keeps what succeeded, and retries do the rest.**  Under a primary that is in the group, ready and
initialized, and where no two of the nodes that the controller has to do with share an identity, a pass that fails has
done the deeds before the one whose call failed, and nothing of that one.  After any number of failed passes, one whose
calls are all carried out leaves the cluster as a single pass without a failure would have left it; over all these passes
each newcomer was joined once, unless it was flagged active and taken over without a call, and each leaver dropped once.
No newcomer is flagged active where no two nodes that ever entered share an identity.  A pass that fails at its bootstrap,
whatever happens meanwhile, leaves the members and what is staged as they were, and nobody as primary. -/
theorem retries_complete (config : Config) (stages : Bool) (group : String) (history : List Event) {σ : Type*}
    (take : σ → Call → σ × Answer) (s : σ) :
    let m := (Moment.fresh config stages group).run history
    let c := m.cluster
    let w := c.passage take s
    (∀ p, DistinctIds c.Involves → c.Steady p →
      (∀ f, (w 0).result = .error f → ∃ done broken rest, (c.under p).deeds p = done ++ broken :: rest ∧
        (w 0).BreaksAt p.target (c.under p) done broken) ∧
      ∀ k, (∀ i < k, ∃ f, (w i).result = .error f) → (w k).Succeeds →
        (∃ joined left committed rebalanced, (w k).result = .ok (.reconciled joined left committed rebalanced)) ∧
        (∀ {τ : Type} (take' : τ → Call → τ × Answer) (s' : τ), (c.pass take' s').Succeeds →
          (w k).cluster = (c.pass take' s').cluster) ∧
        (c.carriedOut take s (k + 1)).filter (·.action = .join) =
          ((c.newcomers p).filter (!c.isActive ·)).map (fun n => .join p.target n.address n.credentials) ∧
        (c.carriedOut take s (k + 1)).filter (·.action = .leave) =
          (c.leavers p).map (fun n => .leave p.target n.target)) ∧
    (DistinctIds (fun n => .enter n ∈ history) → ∀ p, ∀ n ∈ c.newcomers p, c.isActive n = false) ∧
    ∀ call q es a id cause, m.activity = .resting → (m.step .reconcile).activity = .passing call q →
      (∀ b, .answer b ∉ es) → (((m.step .reconcile).run es).answer a).activity = .resting →
      (((m.step .reconcile).run es).answer a).outcome = some (.error (.bootstrapFailed id cause)) →
      let k := ((m.step .reconcile).run es).answer a
      k.cluster.active = c.active ∧ (∀ n, k.cluster.isActive n = c.isActive n) ∧
        k.cluster.pendingCommit = c.pendingCommit ∧ k.cluster.primary = none ∧ ∀ n, k.cluster.isPrimary n = false := by
  intro m c w
  have hsound : c.Sound c.Involves := Moment.sound_cluster_run config stages group history
  refine ⟨fun p hd hp => ⟨fun f hf => Cluster.goesThrough_of_error (hsound.goesThrough take hp s) hf,
    fun k hfail hs => ?_⟩, fun hd p n hn => ?_, fun call q es a id cause hrest hq hes hr ho => ?_⟩
  · obtain ⟨hcl, hres, others, ho, hreb⟩ := Cluster.Sound.passes_accumulate take hd k hsound hp s hfail hs
    obtain ⟨hjoins, hleaves⟩ := c.filter_calls p hreb
    refine ⟨hres, fun take' s' hs' => ?_, ?_, ?_⟩
    · exact hcl.trans ((hsound.goesThrough take' hp s').completes hs').cluster.symm
    · rw [ho]; exact hjoins
    · rw [ho]; exact hleaves
  · by_contra hact
    have hmem : n ∈ c.active.nodes := Moment.marked_run config stages group hd n (Bool.not_eq_false _ ▸ hact)
    have hcont := hsound.active_keyed.contains_of_mem hmem
    have hnew := (List.mem_filter.1 hn).2
    simp only [Bool.and_eq_true, Bool.not_eq_true'] at hnew
    rw [hnew.2.2] at hcont
    cases hcont
  · intro k
    obtain ⟨hactive, hflags, hpend, hprim⟩ := Moment.bootstrap_failed hrest hq hes hr ho
    refine ⟨hactive, hflags, hpend, hprim, fun n => ?_⟩
    have hrole := Moment.roleAgrees_run config stages group (history ++ (.reconcile :: es ++ [.answer a]))
    rw [Moment.run_append, List.cons_append, Moment.run_cons, Moment.run_append] at hrole
    have hn : k.cluster.isPrimary n = true ↔ k.cluster.primary = some n := hrole n
    rw [hprim] at hn
    exact Bool.eq_false_iff.2 (fun h => absurd (hn.1 h) nofun)

/-- A leave times out after the join before it succeeded, and the next pass has only the leave left to do. -/
theorem retries_complete_timedOut :
    let a : Node := ⟨0, ⟨"a"⟩, ⟨"h", 1⟩, ⟨"u", "p"⟩⟩
    let b : Node := ⟨1, ⟨"b"⟩, ⟨"h", 2⟩, ⟨"u", "p"⟩⟩
    let d : Node := ⟨2, ⟨"d"⟩, ⟨"h", 3⟩, ⟨"u", "p"⟩⟩
    let c := ((Moment.fresh {} true "g").run (replacement a b d)).cluster
    let w := c.passage scripted [.done, .timedOut]
    (w 0).result = .error (.actionFailed .leave b.id "timed out after 60s") ∧ (w 1).Succeeds ∧
    (w 1).cluster = (c.pass scripted []).cluster ∧
    (c.carriedOut scripted [.done, .timedOut] 2).filter (·.action = .join) =
      ((c.newcomers a).filter (!c.isActive ·)).map (fun n => .join a.target n.address n.credentials) ∧
    (c.newcomers a).filter (!c.isActive ·) = [d] ∧ c.leavers a = [b] := by
  intro a b d c w
  have hd : DistinctIds c.Involves := by simp only [c, a, b, d]; decide +kernel
  have hp : c.Steady a := by
    simp only [c, a, b, d]
    exact ⟨by decide +kernel, by decide +kernel, by decide +kernel, by decide +kernel⟩
  have hw0 : (w 0).result = .error (.actionFailed .leave b.id "timed out after 60s") := by
    simp only [w, c, a, b, d]; decide +kernel
  have hw1 : (w 1).Succeeds := by simp only [w, c, a, b, d]; decide +kernel
  have hone : (c.pass scripted []).Succeeds := by simp only [c, a, b, d]; decide +kernel
  have hfail : ∀ i < 1, ∃ f, (w i).result = .error f := by
    intro i hi
    rw [Nat.lt_one_iff.1 hi]
    exact ⟨_, hw0⟩
  obtain ⟨-, hcl, hjoins, -⟩ := ((retries_complete {} true "g" (replacement a b d) scripted [.done, .timedOut]).1 a hd hp).2
    1 hfail hw1
  refine ⟨hw0, hw1, hcl scripted [] hone, hjoins, ?_, ?_⟩
  · simp only [c, a, b, d]; decide +kernel
  · simp only [c, a, b, d]; decide +kernel

end ClusterMembership
