import ClusterMembership.Proofs.Passages
/-!
# Passes that are disturbed

While a call is outstanding, nodes may enter and leave the group and signals may change.  None of that touches what the
controller has on record (`Moment.sameRecords_step`), and what a pass does once it has begun depends on the records and
on the answers alone (`Cluster.Alike.resume`).  So a pass that comes to its end, whatever happens in between, ends as one
does that nothing disturbs and that gets the same answers (`Moment.Returns.undisturbed`).
-/
namespace ClusterMembership

namespace Cluster

open FlagTable

/-- What the controller has on record is as it was; the group and the signals may have changed. -/
structure SameRecords (c c' : Cluster) : Prop where
  config : c'.config = c.config
  stages : c'.stages = c.stages
  active : c'.active = c.active
  primary : c'.primary = c.primary
  pendingCommit : c'.pendingCommit = c.pendingCommit
  phase : c'.phase = c.phase
  published : c'.published = c.published
  isActive : ∀ n, c'.isActive n = c.isActive n
  isPrimary : ∀ n, c'.isPrimary n = c.isPrimary n

theorem SameRecords.refl (c : Cluster) : SameRecords c c := ⟨rfl, rfl, rfl, rfl, rfl, rfl, rfl, fun _ => rfl, fun _ => rfl⟩

theorem SameRecords.trans {a b c : Cluster} (h : SameRecords a b) (h' : SameRecords b c) : SameRecords a c :=
  ⟨h'.config.trans h.config, h'.stages.trans h.stages, h'.active.trans h.active, h'.primary.trans h.primary,
    h'.pendingCommit.trans h.pendingCommit, h'.phase.trans h.phase, h'.published.trans h.published,
    fun n => (h'.isActive n).trans (h.isActive n), fun n => (h'.isPrimary n).trans (h.isPrimary n)⟩

theorem sameRecords_report (c : Cluster) (n : Node) (s : Signal) (b : Bool) : SameRecords c (c.report n s b).1 :=
  ⟨rfl, rfl, rfl, rfl, rfl, rfl, rfl, fun m => isActive_report c n m s b,
    fun m => isPrimary_setSignal c.flags n m s b⟩

/-! ## What a pass reads once it has begun -/

/-- What a pass that has begun reads and writes of the controller is the same. -/
structure Alike (c c' : Cluster) : Prop where
  config : c.config = c'.config
  stages : c.stages = c'.stages
  active : c.active = c'.active
  isActive : ∀ n, c.isActive n = c'.isActive n
  pendingCommit : c.pendingCommit = c'.pendingCommit
  primary : c.primary = c'.primary

theorem Alike.refl (c : Cluster) : Alike c c := ⟨rfl, rfl, rfl, fun _ => rfl, rfl, rfl⟩

theorem SameRecords.alike {c c' d : Cluster} (h : SameRecords c c') (ha : Alike c d) : Alike c' d :=
  ⟨h.config.trans ha.config, h.stages.trans ha.stages, h.active.trans ha.active,
    fun n => (h.isActive n).trans (ha.isActive n), h.pendingCommit.trans ha.pendingCommit, h.primary.trans ha.primary⟩

/-- The pass has come equally far, over alike controllers. -/
structure AlikeProgress (q q' : Cluster × Progress) : Prop where
  cluster : Alike q.1 q'.1
  progress : q.2 = q'.2

namespace Alike

variable {c c' : Cluster}

theorem enroll (h : Alike c c') (id : NodeId) (n : Node) : Alike (c.enroll id n) (c'.enroll id n) :=
  ⟨h.config, h.stages, congrArg (·.insert id n) h.active,
    fun m => by rw [isActive_enroll, isActive_enroll, h.isActive], h.pendingCommit, h.primary⟩

theorem discharge (h : Alike c c') (n : Node) : Alike (c.discharge n) (c'.discharge n) :=
  ⟨h.config, h.stages, congrArg (·.erase n.id) h.active,
    fun m => by rw [isActive_discharge, isActive_discharge, h.isActive], h.pendingCommit, h.primary⟩

theorem markStaged (h : Alike c c') : Alike c.markStaged c'.markStaged :=
  ⟨h.config, h.stages, h.active, h.isActive, congrArg₂ (· || ·) h.pendingCommit h.stages, h.primary⟩

theorem forgetActive (h : Alike c c') : Alike c.forgetActive c'.forgetActive :=
  ⟨h.config, h.stages, rfl, fun m => by rw [isActive_forgetActive, isActive_forgetActive, h.active, h.isActive], rfl,
    h.primary⟩

theorem finish (h : Alike c c') (result : Except Failure Outcome) : AlikeProgress (c.finish result) (c'.finish result) :=
  ⟨⟨h.config, h.stages, h.active, h.isActive, h.pendingCommit, h.primary⟩, rfl⟩

theorem assume (h : Alike c c') (n : Node) : AlikeProgress (c.assume n) (c'.assume n) :=
  ⟨⟨h.config, h.stages, h.active, fun m => (isActive_promote c n m).trans ((h.isActive m).trans (isActive_promote c' n m).symm),
    h.pendingCommit, rfl⟩, rfl⟩

theorem rebalanceNext (h : Alike c c') (d : Delta) (committed : Bool) :
    AlikeProgress (c.rebalanceNext d committed) (c'.rebalanceNext d committed) := by
  unfold Cluster.rebalanceNext
  split
  · exact ⟨h, rfl⟩
  · exact h.finish _

theorem commitNext (h : Alike c c') (d : Delta) : AlikeProgress (c.commitNext d) (c'.commitNext d) := by
  unfold Cluster.commitNext
  rw [h.stages, h.pendingCommit]
  split
  · exact ⟨h, rfl⟩
  · exact h.rebalanceNext d false

theorem leaveNext (h : Alike c c') (d : Delta) (rest : List Node) :
    AlikeProgress (c.leaveNext d rest) (c'.leaveNext d rest) := by
  cases rest with
  | nil => exact h.commitNext d
  | cons n rest => exact ⟨h, rfl⟩

theorem joinNext (h : Alike c c') (d : Delta) (rest : List Node) :
    AlikeProgress (c.joinNext d rest) (c'.joinNext d rest) := by
  induction rest generalizing c c' d with
  | nil => exact h.leaveNext d d.leaves
  | cons n rest ih =>
    rw [Cluster.joinNext, Cluster.joinNext, h.isActive]
    split
    · exact ih (h.enroll n.id n) _
    · exact ⟨h, rfl⟩

theorem joinFailure? (h : Alike c c') (a : Answer) : c.joinFailure? a = c'.joinFailure? a := by
  unfold Cluster.joinFailure?
  rw [h.config]

/-- **An answer takes a pass equally far** over alike controllers, whatever their groups and signals. -/
theorem resume (h : Alike c c') (p : Pending) (a : Answer) : AlikeProgress (c.resume p a) (c'.resume p a) := by
  have hf : a.failure? c.config.actionTimeout = a.failure? c'.config.actionTimeout := by rw [h.config]
  cases p with
  | bootstrapping n =>
    simp only [Cluster.resume, hf]
    split
    · have hp : Alike { c with phase := .noPrimary } { c' with phase := .noPrimary } :=
        ⟨h.config, h.stages, h.active, h.isActive, h.pendingCommit, h.primary⟩
      exact hp.finish _
    · exact h.forgetActive.assume n
  | joining d n rest =>
    simp only [Cluster.resume, h.joinFailure?]
    split
    · exact h.finish _
    · exact (h.markStaged.enroll n.id n).joinNext _ _
  | leaving d n rest =>
    simp only [Cluster.resume, hf]
    split
    · exact h.finish _
    · exact (h.markStaged.discharge n).leaveNext _ _
  | committing d =>
    simp only [Cluster.resume, hf]
    split
    · exact h.finish _
    · have hp : Alike { c with pendingCommit := false } { c' with pendingCommit := false } :=
        ⟨h.config, h.stages, h.active, h.isActive, rfl, h.primary⟩
      exact hp.rebalanceNext _ _
  | rebalancing d committed =>
    simp only [Cluster.resume, hf]
    exact h.finish _

end Alike

end Cluster

/-! ## Passes that come to their end -/

instance (a : Activity) : Decidable (a = .resting) :=
  match a with
  | .resting => isTrue rfl
  | .passing .. => isFalse nofun
  | .recovering _ => isFalse nofun

namespace Moment

/-- The work in hand comes to its end with the last of the events, and not before. -/
def EndsWith (m : Moment) : List Event → Prop
  | [] => m.activity = .resting
  | e :: es => m.activity ≠ .resting ∧ (m.step e).EndsWith es

instance decidableEndsWith (m : Moment) : ∀ es, Decidable (m.EndsWith es)
  | [] => inferInstanceAs (Decidable (m.activity = .resting))
  | e :: es => have := decidableEndsWith (m.step e) es; inferInstanceAs (Decidable (_ ∧ _))

/-- A pass that starts now goes on through the events, and comes to the result with the last of them. -/
structure Returns (m : Moment) (es : List Event) (result : Except Failure Outcome) : Prop where
  resting : m.activity = .resting
  ends : (m.step .reconcile).EndsWith es
  outcome : ((m.step .reconcile).run es).outcome = some result

instance (m : Moment) (es : List Event) (result : Except Failure Outcome) : Decidable (m.Returns es result) :=
  decidable_of_iff (m.activity = .resting ∧ (m.step .reconcile).EndsWith es ∧
      ((m.step .reconcile).run es).outcome = some result)
    ⟨fun h => ⟨h.1, h.2.1, h.2.2⟩, fun h => ⟨h.resting, h.ends, h.outcome⟩⟩

/-- **Only answers touch what a busy controller has on record**, or the work it has in hand. -/
theorem sameRecords_step {m : Moment} (h : m.activity ≠ .resting) {e : Event} (he : ∀ a, e ≠ .answer a) :
    (m.step e).activity = m.activity ∧ (m.step e).outcome = m.outcome ∧
      Cluster.SameRecords m.cluster (m.step e).cluster := by
  cases e with
  | report n s b => exact ⟨rfl, rfl, Cluster.sameRecords_report m.cluster n s b⟩
  | reconcile =>
    have hm : m.step .reconcile = m := by
      simp only [step, reconcile]
    rw [hm]
    exact ⟨rfl, rfl, .refl _⟩
  | recover failed sponsor =>
    have hm : m.step (.recover failed sponsor) = m := by
      simp only [step, recover]
      split
      · next hr _ => exact absurd hr h
      · rfl
    rw [hm]
    exact ⟨rfl, rfl, .refl _⟩
  | answer a => exact absurd rfl (he a)
  | _ => exact ⟨rfl, rfl, ⟨rfl, rfl, rfl, rfl, rfl, rfl, rfl, fun _ => rfl, fun _ => rfl⟩⟩

/-- **Without an answer, a busy controller** stays at the work it has in hand, and keeps its records. -/
theorem sameRecords_run {m : Moment} (h : m.activity ≠ .resting) {es : List Event} (hes : ∀ a, .answer a ∉ es) :
    (m.run es).activity = m.activity ∧ (m.run es).outcome = m.outcome ∧
      Cluster.SameRecords m.cluster (m.run es).cluster := by
  refine run_induction (P := fun k => k.activity = m.activity ∧ k.outcome = m.outcome ∧
    Cluster.SameRecords m.cluster k.cluster) ⟨rfl, rfl, .refl _⟩ (fun k e he ⟨ha, ho, hr⟩ => ?_)
  obtain ⟨ha', ho', hr'⟩ := sameRecords_step (ha ▸ h) (fun a hea => hes a (hea ▸ he))
  exact ⟨ha'.trans ha, ho'.trans ho, hr.trans hr'⟩

theorem EndsWith.eq_nil {m : Moment} {es : List Event} (h : m.EndsWith es) (hr : m.activity = .resting) : es = [] := by
  cases es with
  | nil => rfl
  | cons e es => exact absurd hr h.1

/-- A pass that has come equally far, and is not disturbed from there on. -/
theorem EndsWith.undisturbed {o : Option (Except Failure Outcome)} {es : List Event} :
    ∀ {q q' : Cluster × Progress}, Cluster.AlikeProgress q q' → (ofProgress o q).EndsWith es →
      ∃ as, ((ofProgress o q).run es).outcome = some (complete scripted as q').result ∧
        Cluster.Alike ((ofProgress o q).run es).cluster (complete scripted as q').cluster ∧
        (ofProgress o q).exchanges es = (complete scripted as q').exchanges := by
  induction es with
  | nil =>
    rintro ⟨c, result | ⟨call, p⟩⟩ ⟨c', q'⟩ ⟨hc, rfl⟩ hend
    · exact ⟨[], by rw [complete_finished]; exact ⟨rfl, hc, rfl⟩⟩
    · cases hend
  | cons e es ih =>
    rintro ⟨c, result | ⟨call, p⟩⟩ ⟨c', q'⟩ ⟨hc, rfl⟩ hend
    · cases hend.eq_nil rfl
    by_cases he : ∃ a, e = .answer a
    · obtain ⟨a, rfl⟩ := he
      obtain ⟨as, ho, hcl, hx⟩ := ih (hc.resume p a) hend.2
      refine ⟨a :: as, ?_⟩
      rw [complete_calling]
      exact ⟨ho, hcl, (exchanges_answer rfl a es).trans (congrArg (List.cons ⟨call, some a⟩) hx)⟩
    · have he' : ∀ a, e ≠ .answer a := fun a ha => he ⟨a, ha⟩
      obtain ⟨ha, hout, hs⟩ := sameRecords_step hend.1 he'
      -- the pass waits for the same answer, over records that are the same
      have hm : (ofProgress o (c, .calling call p)).step e =
          ofProgress o (((ofProgress o (c, .calling call p)).step e).cluster, .calling call p) := by
        generalize (ofProgress o (c, .calling call p)).step e = m at ha hout
        obtain ⟨d, activity, o'⟩ := m
        cases ha
        cases hout
        rfl
      have hq : Cluster.AlikeProgress (((ofProgress o (c, .calling call p)).step e).cluster, .calling call p)
          (c', .calling call p) := ⟨hs.alike hc, rfl⟩
      have hend' := hend.2
      rw [hm] at hend'
      obtain ⟨as, ho, hcl, hx⟩ := ih hq hend'
      rw [← hm] at ho hcl hx
      exact ⟨as, ho, hcl, (exchanges_of_ne_answer rfl he' es).trans hx⟩

/-- **A pass that comes to its end** ends as one that nothing disturbs, with the same answers: it comes to the same
result, by the same calls, and leaves the same on record. -/
theorem Returns.undisturbed {m : Moment} {es : List Event} {result : Except Failure Outcome} (h : m.Returns es result) :
    ∃ as, (m.cluster.pass scripted as).result = result ∧
      Cluster.Alike ((m.step .reconcile).run es).cluster (m.cluster.pass scripted as).cluster ∧
      m.passTrace es = (m.cluster.pass scripted as).exchanges := by
  have hr : m.step .reconcile = ofProgress m.outcome m.cluster.begin := by simp only [step, reconcile, h.resting]
  have hend := h.ends
  have hout := h.outcome
  rw [hr] at hend hout
  obtain ⟨as, ho, hcl, hx⟩ := hend.undisturbed ⟨.refl m.cluster.begin.1, rfl⟩
  rw [passTrace, hr]
  exact ⟨as, Option.some.inj (ho.symm.trans hout), hcl, hx⟩

end Moment

end ClusterMembership
