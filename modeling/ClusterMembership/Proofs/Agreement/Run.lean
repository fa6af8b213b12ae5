import ClusterMembership.Proofs.Agreement.Pass
import ClusterMembership.Proofs.Deployments
/-!
# The controller and its backing cluster agree

A deployment is in step when its two sides agree and the work in hand fits them.  It starts in step, and every turn keeps
it so that adopts no node and, while changes are staged, recovers none (`Deployment.InStep.step`); so the two sides agree
at every moment (`deployment_agrees`).
-/
namespace ClusterMembership

variable {known : Node → Prop} {c c' : Cluster} {s s' : SimulatedCluster}

/-- What the work in hand relies on.  Of a recovery: it is carried out at once, and it is not the first node that is
taken in. -/
def Moment.Fits (m : Moment) (s : SimulatedCluster) : Prop :=
  match m.activity with
  | .resting => ∀ result, m.outcome = some result → IsReconciled result → s.plan = []
  | .passing _ p => p.Fits m.cluster s
  | .recovering r => s.stages = false ∧ m.cluster.active.nodes ≠ [] ∧ ∃ sponsor, r.call = .recover r.node.target sponsor

theorem Moment.Fits.keep {m : Moment} (h : m.Fits s) (ha : c'.active = m.cluster.active)
    (hp : c'.primary = m.cluster.primary) : ({ m with cluster := c' } : Moment).Fits s := by
  obtain ⟨c, activity, o⟩ := m
  cases activity with
  | resting => exact h
  | passing call p => exact Pending.Fits.keep h ha hp
  | recovering r =>
    obtain ⟨hs, hne, hc⟩ := h
    exact ⟨hs, by rw [ha]; exact hne, hc⟩

theorem Moment.Fits.congr {m : Moment} (h : m.Fits s) (hm : s.SameMembership s') : m.Fits s' := by
  obtain ⟨c, activity, o⟩ := m
  cases activity with
  | resting => exact fun result ho hr => hm.plan.trans (h result ho hr)
  | passing call p => exact Pending.Fits.congr h hm
  | recovering r =>
    obtain ⟨hs, hne, hc⟩ := h
    exact ⟨hm.stages.trans hs, hne, hc⟩

theorem Holds.fits_ofProgress {q : Cluster × Progress} (h : Holds s q) (o : Option (Except Failure Outcome)) :
    (Moment.ofProgress o q).Fits s := by
  obtain ⟨c, result | ⟨call, p⟩⟩ := q
  · intro r ho hr
    cases ho
    exact h.fits hr
  · exact h.fits

/-! ## Recoveries -/

theorem active_ne_nil_of_sponsor (hs : c.Sound known) {id : NodeId} {n : Node} (h : c.sponsor? id = some n) :
    c.active.nodes ≠ [] := by
  unfold Cluster.sponsor? at h
  split at h
  · exact List.ne_nil_of_mem (hs.active_keyed.get?_eq_some_iff.1 h).1
  · cases h

theorem finishRecovery_of_ne_done {a : Answer} (h : a ≠ .done) (r : Recovery) : (c.finishRecovery r a).1 = c := by
  cases a with
  | done => exact absurd rfl h
  | refused why => rfl
  | timedOut => rfl

/-- **A recovered node is taken in on both sides**, or on neither. -/
theorem agrees_finishRecovery (hd : DistinctIds known) (hs : c.Sound known) (ha : Agrees c s) (hp : Planned c s)
    {r : Recovery} (hk : known r.node) (hid : r.node.id = r.failed) (him : s.stages = false)
    (hne : c.active.nodes ≠ []) {sponsor : Target} (hc : r.call = .recover r.node.target sponsor) (limit : Span) :
    Agrees (c.finishRecovery r (s.performWithin limit r.call).2.1).1 (s.performWithin limit r.call).1 ∧
      Planned (c.finishRecovery r (s.performWithin limit r.call).2.1).1 (s.performWithin limit r.call).1 := by
  rcases s.performWithin_cases limit r.call with ⟨hdone, -, hr⟩ | ⟨hsame, hr⟩
  · have hf : (c.finishRecovery r .done).1 = (c.enroll r.node.id r.node).publish := by rw [hid]; rfl
    -- the sponsor is active, so a primary is not one that was just bootstrapped and stands alone
    have hpe : ∀ p, c.primary = some p → p = r.node ∨ p ∈ c.active.nodes :=
      fun p hpr => Or.inr ((ha.anchored p hpr).resolve_left hne)
    have he : ∀ a, a ∈ ((s.record r.call).carryOut r.call).effective ↔ a = r.node.address ∨ a ∈ s.effective := by
      intro a
      have hpl := hp.orderly him
      have hpl' : ((s.record r.call).carryOut r.call).plan = [] := by rw [hc]; exact hpl
      rw [SimulatedCluster.effective_of_plan_eq_nil hpl, SimulatedCluster.effective_of_plan_eq_nil hpl', hc]
      exact Simulated.mem_including
    rw [hdone, hr, hf]
    refine ⟨(ha.enroll hd hs hk hpe he).keep rfl rfl, ?_⟩
    rw [hc]
    exact ⟨hp.stages, hp.orderly, hp.pending⟩
  · have hnd : (s.performWithin limit r.call).2.1 ≠ .done := by
      rcases hr with hr | ⟨why, hr, -⟩ <;> rw [hr] <;> nofun
    rw [finishRecovery_of_ne_done hnd]
    exact ⟨ha.congr hsame, hp.congr hsame⟩

/-! ## Deployments -/

namespace Deployment

/-- The two sides of a deployment agree, and the work in hand fits them. -/
structure InStep (stages : Bool) (d : Deployment) : Prop where
  stages : d.backing.stages = stages
  agrees : Agrees d.moment.cluster d.backing
  planned : Planned d.moment.cluster d.backing
  fits : d.moment.Fits d.backing

variable {stages : Bool} {d : Deployment}

theorem inStep_fresh (config : Config) (stages : Bool) (group : String) : (fresh config stages group).InStep stages where
  stages := rfl
  agrees := ⟨fun _ h => absurd h List.not_mem_nil, fun _ h => (by cases h), fun _ h => (by cases h)⟩
  planned := ⟨rfl, fun _ => rfl, by show false = true ↔ ([] : List Change) ≠ []; simp⟩
  fits := fun _ h => (by cases h)

theorem InStep.keep (h : d.InStep stages) {m : Moment} (he : m = { d.moment with cluster := c' })
    (hc : c'.active = d.moment.cluster.active) (hp : c'.primary = d.moment.cluster.primary)
    (hst : c'.stages = d.moment.cluster.stages) (hpc : c'.pendingCommit = d.moment.cluster.pendingCommit) :
    (⟨m, d.backing⟩ : Deployment).InStep stages := by
  subst he
  exact ⟨h.stages, h.agrees.keep hc hp, h.planned.keep hst hpc, h.fits.keep hc hp⟩

theorem inStep_ofProgress {q : Cluster × Progress} (hs : s.stages = stages) (h : Holds s q)
    (o : Option (Except Failure Outcome)) : (⟨Moment.ofProgress o q, s⟩ : Deployment).InStep stages := by
  refine ⟨hs, ?_, ?_, h.fits_ofProgress o⟩
  · show Agrees (Moment.ofProgress o q).cluster s
    rw [Moment.cluster_ofProgress]
    exact h.agrees
  · show Planned (Moment.ofProgress o q).cluster s
    rw [Moment.cluster_ofProgress]
    exact h.planned

theorem InStep.reconcile (hd : DistinctIds known) (hs : d.Sound known) (h : d.InStep stages)
    (hn : d.adoptsAt (.event .reconcile) = false) : (⟨d.moment.reconcile, d.backing⟩ : Deployment).InStep stages := by
  obtain ⟨⟨c, activity, o⟩, s⟩ := d
  cases activity with
  | resting => exact inStep_ofProgress h.stages (holds_begin hd hs.moment.cluster hs.marked h.agrees h.planned hn) o
  | passing call p => exact h
  | recovering r => exact h

theorem InStep.recover (hs : d.Sound known) (h : d.InStep stages) (hn : d.backing.stages = false)
    (failed sponsor : NodeId) : (⟨d.moment.recover failed sponsor, d.backing⟩ : Deployment).InStep stages := by
  have hc := Moment.cluster_recover d.moment failed sponsor
  refine ⟨h.stages, by rw [hc]; exact h.agrees, by rw [hc]; exact h.planned, ?_⟩
  show (d.moment.recover failed sponsor).Fits d.backing
  unfold Moment.recover
  split
  · next r _ hr =>
    obtain ⟨s, n, hsp, -, -, -, rfl⟩ := Cluster.beginRecovery_ok hr
    exact ⟨hn, active_ne_nil_of_sponsor hs.moment.cluster hsp, s.target, rfl⟩
  · exact h.fits

theorem InStep.respond (hd : DistinctIds known) (hda : DistinctAddresses known) (hs : d.Sound known)
    (h : d.InStep stages) : d.respond.InStep stages := by
  obtain ⟨⟨c, activity, o⟩, s⟩ := d
  have hst := fun call => (s.stages_performWithin c.config.actionTimeout call).trans h.stages
  cases activity with
  | resting => exact h
  | passing call p =>
    have hcall := hs.moment.call_eq call p rfl
    subst hcall
    exact inStep_ofProgress (hst p.call) (holds_resume hd hda hs.moment.cluster hs.marked h.agrees h.planned
      hs.moment.nodes_known h.fits c.config.actionTimeout) o
  | recovering r =>
    obtain ⟨him, hne, sponsor, hc⟩ := h.fits
    obtain ⟨ha, hp⟩ := agrees_finishRecovery hd hs.moment.cluster h.agrees h.planned
      (hs.moment.nodes_known r.node List.mem_cons_self) (hs.moment.recovery_id r rfl) him hne hc c.config.actionTimeout
    refine ⟨hst r.call, ha, hp, fun _ _ _ => hp.orderly ?_⟩
    rw [hst r.call, ← h.stages]
    exact him

/-- **A turn keeps the two in step**, unless it adopts a node or recovers one while changes are staged. -/
theorem InStep.step (hd : DistinctIds known) (hda : DistinctAddresses known) (hs : d.Sound known) (h : d.InStep stages)
    (t : Turn) (hn : d.adoptsAt t = false) (hr : stages = true → t.isRecovery = false) : (d.step t).InStep stages := by
  cases t with
  | event e =>
    cases e with
    | enter n => exact h.keep rfl rfl rfl rfl rfl
    | depart id => exact h.keep rfl rfl rfl rfl rfl
    | report n sig b => exact h.keep rfl rfl rfl rfl rfl
    | mark b => exact h.keep rfl rfl rfl rfl rfl
    | reconcile => exact h.reconcile hd hs hn
    | recover failed sponsor =>
      have him : d.backing.stages = false := by
        rw [h.stages]
        cases stages with
        | false => rfl
        | true => cases hr rfl
      exact h.recover hs him failed sponsor
    | answer a => exact h
  | instruct i =>
    have hi : d.backing.SameMembership (Simulation.instruct d.backing i).1 := by cases i <;> exact ⟨rfl, rfl, rfl⟩
    exact ⟨hi.stages.trans h.stages, h.agrees.congr hi, h.planned.congr hi, h.fits.congr hi⟩
  | respond => exact h.respond hd hda hs

/-- **A row of turns keeps the two in step.** -/
theorem InStep.run (hd : DistinctIds known) (hda : DistinctAddresses known) {turns : List Turn}
    (hk : ∀ n ∈ Turn.entering turns, known n) (hr : stages = true → turns.any Turn.isRecovery = false) :
    ∀ {d : Deployment}, d.Sound known → d.InStep stages → d.adopts turns = false → (d.run turns).InStep stages := by
  induction turns with
  | nil => exact fun _ h _ => h
  | cons t turns ih =>
    intro d hs h hn
    rw [adopts, Bool.or_eq_false_iff] at hn
    have hr' : stages = true → t.isRecovery = false ∧ turns.any Turn.isRecovery = false :=
      fun hst => by have := hr hst; rwa [List.any_cons, Bool.or_eq_false_iff] at this
    have hkt : ∀ n, t = .event (.enter n) → known n := by
      rintro n rfl
      exact hk n List.mem_cons_self
    have hks : ∀ n ∈ Turn.entering turns, known n := by
      intro n hm
      obtain ⟨t', ht', he⟩ := List.mem_filterMap.1 hm
      exact hk n (List.mem_filterMap.2 ⟨t', List.mem_cons_of_mem t ht', he⟩)
    exact ih hks (fun hst => (hr' hst).2) (hs.step hd t hkt) (h.step hd hda hs t hn.1 (fun hst => (hr' hst).1)) hn.2

end Deployment

/-- **The controller and its backing cluster agree**, where every node that enters has its own identity and its own
address, no election is of a node that is initialized already, and nobody recovers nodes while changes are staged.  At
every moment the active nodes are members, and under a primary the members are the active nodes and the primary; where
changes are staged it is the effective membership that is meant, a commit is due exactly when something is planned, and a
pass that brought the membership in line left nothing planned. -/
theorem deployment_agrees (config : Config) (stages : Bool) (group : String) (turns : List Turn)
    (ids : ∀ n ∈ Turn.entering turns, ∀ m ∈ Turn.entering turns, n.id = m.id → n = m)
    (addresses : ∀ n ∈ Turn.entering turns, ∀ m ∈ Turn.entering turns, n.address = m.address → n = m)
    (elected : (Deployment.fresh config stages group).adopts turns = false)
    (recovered : stages = true → turns.any Turn.isRecovery = false) :
    let d := (Deployment.fresh config stages group).run turns
    let c := d.moment.cluster
    (stages = false →
      (∀ a ∈ c.addresses, a ∈ d.backing.members) ∧
      ∀ p, c.primary = some p → ∀ a, a ∈ d.backing.members ↔ a = p.address ∨ a ∈ c.addresses) ∧
    (stages = true →
      (∀ a ∈ c.addresses, a ∈ d.backing.effective) ∧
      (∀ p, c.primary = some p → ∀ a, a ∈ d.backing.effective ↔ a = p.address ∨ a ∈ c.addresses) ∧
      (c.pendingCommit = true ↔ d.backing.plan ≠ []) ∧
      ∀ joined left committed rebalanced, d.moment.activity = .resting →
        d.moment.outcome = some (.ok (.reconciled joined left committed rebalanced)) → d.backing.plan = []) := by
  intro d c
  have hd : DistinctIds (· ∈ Turn.entering turns) := fun n m hn hm => ids n hn m hm
  have hda : DistinctAddresses (· ∈ Turn.entering turns) := fun n m hn hm => addresses n hn m hm
  have h : d.InStep stages := Deployment.InStep.run hd hda (fun _ hn => hn) recovered
    (Deployment.sound_fresh _ config stages group) (Deployment.inStep_fresh config stages group) elected
  refine ⟨fun hs => ?_, fun _ => ⟨h.agrees.covered, h.agrees.exact, h.planned.pending, ?_⟩⟩
  · have he : d.backing.effective = d.backing.members :=
      SimulatedCluster.effective_of_plan_eq_nil (h.planned.orderly (h.stages.trans hs))
    rw [← he]
    exact ⟨h.agrees.covered, h.agrees.exact⟩
  · intro joined left committed rebalanced hr ho
    have hf := h.fits
    unfold Moment.Fits at hf
    simp only [hr] at hf
    exact hf _ ho trivial

/-- Two nodes are joined; the second is refused at first. -/
def refusedOnce (a b : Node) : List Turn :=
  [.event (.enter a), .event (.enter b), .event (.report a .serviceUp true), .event (.report b .serviceUp true),
    .event .reconcile, .respond, .event (.report a .coordinatorInitialized true),
    .instruct (.refuseJoin b.address), .event .reconcile, .respond, .instruct .clearFailures,
    .event .reconcile, .respond, .respond, .respond]

theorem deployment_agrees_refusedOnce :
    let a : Node := ⟨0, ⟨"a"⟩, ⟨"h", 1⟩, ⟨"u", "p"⟩⟩
    let b : Node := ⟨1, ⟨"b"⟩, ⟨"h", 2⟩, ⟨"u", "p"⟩⟩
    let d := (Deployment.fresh {} true "g").run (refusedOnce a b)
    (Deployment.fresh {} true "g").adopts (refusedOnce a b) = false ∧
      d.moment.cluster.primary = some a ∧ d.moment.cluster.active.nodes = [a, b] ∧
      d.backing.members = [a.address, b.address] ∧
      (∀ x, x ∈ d.backing.effective ↔ x = a.address ∨ x ∈ d.moment.cluster.addresses) ∧
      (d.moment.cluster.pendingCommit = true ↔ d.backing.plan ≠ []) := by
  have h := deployment_agrees {} true "g"
    (refusedOnce ⟨0, ⟨"a"⟩, ⟨"h", 1⟩, ⟨"u", "p"⟩⟩ ⟨1, ⟨"b"⟩, ⟨"h", 2⟩, ⟨"u", "p"⟩⟩)
    (by decide) (by decide) (by decide) (by decide)
  obtain ⟨-, hexact, hpending, -⟩ := h.2 rfl
  exact ⟨by decide, by decide, by decide, by decide, hexact _ (by decide), hpending⟩

end ClusterMembership
