import ClusterMembership.Proofs.Rosters
import ClusterMembership.Proofs.Writes
/-!
# What holds at every moment of a history

`Cluster.Sound known` says that the group and the active nodes are kept under their own identities, that the active nodes
are flagged so, and that every node the cluster has to do with is `known`; `Moment.Sound known` says it of the work in
hand too.  It holds before the first event and outlives every event that brings in no unknown node (`sound_run`).  Where
no two known nodes share an identity, the active flag tells the active nodes exactly (`Cluster.Sound.isActive_iff`).
-/
namespace ClusterMembership

/-- No two of the nodes share an identity. -/
def DistinctIds (known : Node → Prop) : Prop := ∀ n m, known n → known m → n.id = m.id → n = m

namespace Cluster

open FlagTable

/-- The rosters are keyed, the active nodes are flagged, and all nodes are `known`. -/
structure Sound (known : Node → Prop) (c : Cluster) : Prop where
  group_keyed : c.group.roster.Keyed
  active_keyed : c.active.Keyed
  flagged : ∀ n ∈ c.active.nodes, c.isActive n = true
  members_known : ∀ n ∈ c.group.members, known n
  active_known : ∀ n ∈ c.active.nodes, known n
  primary_known : ∀ p, c.primary = some p → known p

/-- Every node that is flagged active is one. -/
def Marked (c : Cluster) : Prop := ∀ n, c.isActive n = true → n ∈ c.active.nodes

variable {known : Node → Prop} {c c' : Cluster}

theorem mem_active_enroll (h : c.active.Keyed) {n m : Node} :
    m ∈ (c.enroll n.id n).active.nodes ↔ m = n ∨ m ∈ c.active.nodes ∧ m.id ≠ n.id := h.mem_nodes_insert

theorem mem_active_discharge (h : c.active.Keyed) {n m : Node} :
    m ∈ (c.discharge n).active.nodes ↔ m ∈ c.active.nodes ∧ m.id ≠ n.id := h.mem_nodes_erase

theorem Sound.memberWrite (h : Sound known c) (hw : MemberWrite known c c') : Sound known c' := by
  have hg := hw.frame.group
  have hp := hw.primary
  cases hw with
  | @enroll n hn =>
    refine ⟨h.group_keyed, h.active_keyed.insert n, fun m hm => ?_, h.members_known, fun m hm => ?_, h.primary_known⟩
    · rw [isActive_enroll]
      rcases (mem_active_enroll h.active_keyed).1 hm with rfl | ⟨hm, -⟩
      · exact if_pos rfl
      · rw [h.flagged m hm, ite_self]
    · rcases (mem_active_enroll h.active_keyed).1 hm with rfl | ⟨hm, -⟩
      · exact hn
      · exact h.active_known m hm
  | @discharge n hn =>
    refine ⟨h.group_keyed, h.active_keyed.erase n.id, fun m hm => ?_, h.members_known, fun m hm => ?_, h.primary_known⟩
    · obtain ⟨hm, hne⟩ := (mem_active_discharge h.active_keyed).1 hm
      rw [isActive_discharge, if_neg (fun he => hne (by rw [he])), h.flagged m hm]
    · exact h.active_known m ((mem_active_discharge h.active_keyed).1 hm).1
  | forgetActive =>
    exact ⟨h.group_keyed, Roster.keyed_empty, fun _ hm => absurd hm List.not_mem_nil, h.members_known,
      fun _ hm => absurd hm List.not_mem_nil, h.primary_known⟩
  | pendingCommit b => exact ⟨h.1, h.2, h.3, h.4, h.5, h.6⟩
  | phase ph => exact ⟨h.1, h.2, h.3, h.4, h.5, h.6⟩
  | publish => exact ⟨h.1, h.2, h.3, h.4, h.5, h.6⟩

theorem Sound.write (h : Sound known c) (hw : Write known c c') : Sound known c' := by
  cases hw with
  | member hw => exact h.memberWrite hw
  | @promote n hn =>
    refine ⟨h.group_keyed, h.active_keyed, fun m hm => ?_, h.members_known, h.active_known, fun p hp => ?_⟩
    · rw [isActive_promote]; exact h.flagged m hm
    · rw [← Option.some.inj hp]; exact hn
  | @depose p hp =>
    refine ⟨h.group_keyed, h.active_keyed, fun m hm => ?_, h.members_known, h.active_known, fun p hp => by cases hp⟩
    rw [isActive_depose]; exact h.flagged m hm

theorem Sound.writes (h : Sound known c) (hw : Writes known c c') : Sound known c' :=
  hw.keeps (fun _ _ hw h => Sound.write h hw) h

theorem Marked.write (hd : DistinctIds known) (hs : Sound known c) (h : c.Marked) (hw : Write known c c') :
    c'.Marked := by
  intro m hm
  cases hw with
  | promote _ => rw [isActive_promote] at hm; exact h m hm
  | depose _ => rw [isActive_depose] at hm; exact h m hm
  | member hw =>
    cases hw with
    | @enroll n hn =>
      rw [mem_active_enroll hs.active_keyed]
      rw [isActive_enroll] at hm
      by_cases he : m = n
      · exact Or.inl he
      · rw [if_neg he] at hm
        exact Or.inr ⟨h m hm, fun hid => he (hd m n (hs.active_known m (h m hm)) hn hid)⟩
    | @discharge n hn =>
      rw [mem_active_discharge hs.active_keyed]
      rw [isActive_discharge] at hm
      by_cases he : m = n
      · rw [if_pos he] at hm; cases hm
      · rw [if_neg he] at hm
        -- the roster drops an identity and the flag a node: these are one only where identities are distinct
        exact ⟨h m hm, fun hid => he (hd m n (hs.active_known m (h m hm)) hn hid)⟩
    | forgetActive =>
      rw [isActive_forgetActive, Bool.and_eq_true, Bool.not_eq_true', decide_eq_false_iff_not] at hm
      exact absurd (h m hm.2) hm.1
    | pendingCommit b => exact h m hm
    | phase ph => exact h m hm
    | publish => exact h m hm

theorem Marked.writes (hd : DistinctIds known) (hs : Sound known c) (h : c.Marked) (hw : Writes known c c') :
    c'.Marked :=
  (hw.keeps (P := fun c => Sound known c ∧ c.Marked) (fun _ _ hw h => ⟨h.1.write hw, h.2.write hd h.1 hw⟩) ⟨hs, h⟩).2

/-- **Where every flagged node is active, the flag tells the active nodes.** -/
theorem Sound.isActive_iff (hs : Sound known c) (h : c.Marked) {n : Node} :
    c.isActive n = true ↔ n ∈ c.active.nodes := ⟨h n, hs.flagged n⟩

/-! ## Changes from outside -/

theorem Sound.addMember (h : Sound known c) {n : Node} (hn : known n) : Sound known (c.addMember n).1 := by
  refine ⟨Group.keyed_add h.group_keyed n, h.active_keyed, h.flagged, fun m hm => ?_, h.active_known, h.primary_known⟩
  rcases Group.mem_members_add h.group_keyed hm with rfl | hm
  · exact hn
  · exact h.members_known m hm

theorem Sound.removeMember (h : Sound known c) (id : NodeId) : Sound known (c.removeMember id).1 :=
  ⟨Group.keyed_remove h.group_keyed id, h.active_keyed, h.flagged,
    fun m hm => h.members_known m (Group.mem_members_remove h.group_keyed hm), h.active_known, h.primary_known⟩

@[simp] theorem isActive_report (c : Cluster) (n m : Node) (s : Signal) (b : Bool) :
    (c.report n s b).1.isActive m = c.isActive m := isActive_setSignal c.flags n m s b

theorem Sound.report (h : Sound known c) (n : Node) (s : Signal) (b : Bool) : Sound known (c.report n s b).1 :=
  ⟨h.group_keyed, h.active_keyed, fun m hm => by rw [isActive_report]; exact h.flagged m hm, h.members_known,
    h.active_known, h.primary_known⟩

theorem Sound.mark (h : Sound known c) (b : Bool) : Sound known (c.mark b) := ⟨h.1, h.2, h.3, h.4, h.5, h.6⟩

end Cluster

/-! ## The work in hand -/

/-- The nodes that a pass has still to deal with once it has come so far. -/
def Progress.nodes : Progress → List Node
  | .finished _ => []
  | .calling _ p => p.nodes

/-- The nodes that the controller has still to deal with. -/
def Activity.nodes : Activity → List Node
  | .resting => []
  | .passing _ p => p.nodes
  | .recovering r => [r.node]

/-- The outstanding call. -/
def Activity.call? : Activity → Option Call
  | .resting => none
  | .passing call _ => some call
  | .recovering r => some r.call

/-- The outstanding call, if there is one, is the pending one and bootstraps nothing. -/
def Progress.IsDelta : Progress → Prop
  | .finished _ => True
  | .calling call p => call = p.call ∧ ∀ n, p ≠ .bootstrapping n

theorem Progress.IsDelta.call_eq {q : Progress} {call : Call} {p : Pending} (hq : q.IsDelta)
    (h : q = .calling call p) : call = p.call := by
  rw [h] at hq; exact hq.1

namespace Cluster

theorem isDelta_rebalanceNext (c : Cluster) (d : Delta) (committed : Bool) : (c.rebalanceNext d committed).2.IsDelta := by
  unfold rebalanceNext
  split
  · exact ⟨rfl, fun _ h => by cases h⟩
  · trivial

theorem isDelta_commitNext (c : Cluster) (d : Delta) : (c.commitNext d).2.IsDelta := by
  unfold commitNext
  split
  · exact ⟨rfl, fun _ h => by cases h⟩
  · exact isDelta_rebalanceNext c d false

theorem isDelta_leaveNext (c : Cluster) (d : Delta) (rest : List Node) : (c.leaveNext d rest).2.IsDelta := by
  cases rest with
  | nil => exact isDelta_commitNext c d
  | cons n rest => exact ⟨rfl, fun _ h => by cases h⟩

theorem isDelta_joinNext (c : Cluster) (d : Delta) (rest : List Node) : (c.joinNext d rest).2.IsDelta := by
  induction rest generalizing c d with
  | nil => exact isDelta_leaveNext c d d.leaves
  | cons n rest ih =>
    rw [joinNext]
    split
    · exact ih _ _
    · exact ⟨rfl, fun _ h => by cases h⟩

/-- **Only the start of a pass bootstraps.** -/
theorem isDelta_resume (c : Cluster) (p : Pending) (a : Answer) : (c.resume p a).2.IsDelta := by
  have hr := resumes c p a
  generalize c.resume p a = q at hr ⊢
  cases hr with
  | failed phase f _ => trivial
  | bootstrapped _ => trivial
  | joined _ => exact isDelta_joinNext _ _ _
  | left _ => exact isDelta_leaveNext _ _ _
  | committed _ => exact isDelta_rebalanceNext _ _ _
  | rebalanced _ => trivial

theorem call_begin {c : Cluster} {call : Call} {p : Pending} (h : c.begin.2 = .calling call p) : call = p.call := by
  have hb := begins c
  generalize c.begin = q at hb h
  cases hb with
  | unready _ _ => cases h
  | adopted _ _ _ => cases h
  | bootstraps _ _ _ => cases h; rfl
  | awaits _ _ => cases h
  | reconciles _ _ => exact (isDelta_joinNext _ _ _).call_eq h

theorem nodes_rebalanceNext (c : Cluster) (d : Delta) (committed : Bool) :
    (c.rebalanceNext d committed).2.nodes = [] := by
  unfold rebalanceNext; split <;> rfl

theorem nodes_commitNext (c : Cluster) (d : Delta) : (c.commitNext d).2.nodes = [] := by
  unfold commitNext
  split
  · rfl
  · exact nodes_rebalanceNext c d false

theorem nodes_leaveNext (c : Cluster) (d : Delta) (rest : List Node) : (c.leaveNext d rest).2.nodes = rest := by
  cases rest with
  | nil => exact nodes_commitNext c d
  | cons n rest => rfl

theorem mem_nodes_joinNext (c : Cluster) (d : Delta) (rest : List Node) {n : Node}
    (h : n ∈ (c.joinNext d rest).2.nodes) : n ∈ rest ++ d.leaves := by
  induction rest generalizing c d with
  | nil => rwa [joinNext, nodes_leaveNext] at h
  | cons m rest ih =>
    rw [joinNext] at h
    split at h
    · have := ih _ _ h
      exact List.mem_cons_of_mem m this
    · exact h

theorem mem_nodes_applyDelta {c : Cluster} {p n : Node} (h : n ∈ (c.applyDelta p).2.nodes) :
    n ∈ c.group.members ∨ n ∈ (c.enrollPrimary p).active.nodes := by
  rcases List.mem_append.1 (mem_nodes_joinNext _ _ _ h) with hj | hl
  · rw [← group_enrollPrimary c p]
    exact Or.inl (mem_members_of_mem_joiners hj)
  · exact Or.inr (List.mem_filter.1 hl).1

theorem mem_nodes_resume {c : Cluster} {p : Pending} {a : Answer} {n : Node} (h : n ∈ (c.resume p a).2.nodes) :
    n ∈ p.nodes := by
  have hr := resumes c p a
  generalize c.resume p a = q at hr h
  cases hr with
  | failed phase f _ => cases h
  | bootstrapped _ => cases h
  | joined _ =>
    have := mem_nodes_joinNext _ _ _ h
    exact List.mem_cons_of_mem _ this
  | left _ => rw [nodes_leaveNext] at h; exact List.mem_cons_of_mem _ h
  | committed _ => rw [nodes_rebalanceNext] at h; cases h
  | rebalanced _ => cases h

theorem Sound.nodes_begin {known : Node → Prop} {c : Cluster} (hs : Sound known c) :
    ∀ n ∈ c.begin.2.nodes, known n := by
  intro n hn
  have hs' := hs.writes (writes_handOver c hs.members_known)
  have hb := begins c
  generalize c.begin = q at hb hn
  cases hb with
  | unready _ _ => cases hn
  | adopted _ _ _ => cases hn
  | bootstraps _ first _ =>
    rw [List.mem_singleton.1 hn]
    exact hs'.members_known _ (List.mem_of_find?_eq_some first)
  | awaits _ _ => cases hn
  | @reconciles p primary _ =>
    rcases mem_nodes_applyDelta hn with hm | ha
    · exact hs'.members_known n hm
    · have hw := (MemberWrites.single (.phase .reconciling)).trans
        (memberWrites_enrollPrimary { c.handOver with phase := .reconciling } (hs'.primary_known p primary))
      exact (hs'.writes hw.writes).active_known n ha

theorem Sound.recovery {known : Node → Prop} {c : Cluster} (hs : Sound known c) {failed sponsor : NodeId}
    {r : Recovery} (h : c.beginRecovery failed sponsor = .ok r) : known r.node ∧ r.node.id = r.failed := by
  obtain ⟨s, n, -, hn, -, -, rfl⟩ := beginRecovery_ok h
  rcases Option.or_eq_some_iff.1 hn with hg | ⟨-, ha⟩
  · obtain ⟨hm, hid⟩ := hs.group_keyed.get?_eq_some_iff.1 hg
    exact ⟨hs.members_known n hm, hid⟩
  · obtain ⟨hm, hid⟩ := hs.active_keyed.get?_eq_some_iff.1 ha
    exact ⟨hs.active_known n hm, hid⟩

end Cluster

namespace Moment

variable {known : Node → Prop}

/-- A controller that has done nothing yet, over an empty group. -/
def fresh (config : Config) (stages : Bool) (group : String) : Moment where
  cluster := { config, stages, group := { name := group } }

/-- The cluster is sound, and so is the work in hand. -/
structure Sound (known : Node → Prop) (m : Moment) : Prop where
  cluster : m.cluster.Sound known
  nodes_known : ∀ n ∈ m.activity.nodes, known n
  call_eq : ∀ call p, m.activity = .passing call p → call = p.call
  recovery_id : ∀ r, m.activity = .recovering r → r.node.id = r.failed

theorem cluster_ofProgress (o : Option (Except Failure Outcome)) (p : Cluster × Progress) :
    (ofProgress o p).cluster = p.1 := by
  obtain ⟨c, _ | _⟩ := p <;> rfl

theorem nodes_ofProgress (o : Option (Except Failure Outcome)) (p : Cluster × Progress) :
    (ofProgress o p).activity.nodes = p.2.nodes := by
  obtain ⟨c, _ | _⟩ := p <;> rfl

theorem activity_ofProgress {o : Option (Except Failure Outcome)} {p : Cluster × Progress} {call : Call} {q : Pending}
    (h : (ofProgress o p).activity = .passing call q) : p.2 = .calling call q := by
  obtain ⟨c, _ | _⟩ := p
  · cases h
  · cases h; rfl

theorem activity_ofProgress_ne (o : Option (Except Failure Outcome)) (p : Cluster × Progress) (r : Recovery) :
    (ofProgress o p).activity ≠ .recovering r := by
  obtain ⟨c, _ | _⟩ := p <;> exact fun h => by cases h

theorem sound_fresh (config : Config) (stages : Bool) (group : String) : (fresh config stages group).Sound known where
  cluster :=
    { group_keyed := Roster.keyed_empty
      active_keyed := Roster.keyed_empty
      flagged := fun _ hn => absurd hn List.not_mem_nil
      members_known := fun _ hn => absurd hn List.not_mem_nil
      active_known := fun _ hn => absurd hn List.not_mem_nil
      primary_known := fun _ hp => by cases hp }
  nodes_known := fun _ hn => absurd hn List.not_mem_nil
  call_eq := fun _ _ h => by cases h
  recovery_id := fun _ hr => by cases hr

theorem writes_answer {m : Moment} (h : m.Sound known) (a : Answer) :
    Cluster.Writes known m.cluster (m.answer a).cluster := by
  obtain ⟨c, activity, o⟩ := m
  cases activity with
  | resting => exact .refl c
  | passing call p =>
    rw [answer, cluster_ofProgress]
    exact Cluster.writes_resume c p a h.nodes_known
  | recovering r =>
    exact (Cluster.memberWrites_finishRecovery c r a (h.recovery_id r rfl)
      (h.nodes_known r.node List.mem_cons_self)).writes

theorem writes_reconcile {m : Moment} (h : m.Sound known) : Cluster.Writes known m.cluster m.reconcile.cluster := by
  obtain ⟨c, activity, o⟩ := m
  cases activity with
  | resting =>
    rw [reconcile, cluster_ofProgress]
    exact Cluster.writes_begin c h.cluster.members_known h.cluster.primary_known
  | passing call p => exact .refl c
  | recovering r => exact .refl c

theorem cluster_recover (m : Moment) (failed sponsor : NodeId) : (m.recover failed sponsor).cluster = m.cluster := by
  unfold recover; split <;> rfl

theorem frame_reconcile (m : Moment) : Cluster.Frame m.cluster m.reconcile.cluster := by
  obtain ⟨c, activity, o⟩ := m
  cases activity with
  | resting =>
    rw [reconcile, cluster_ofProgress]
    exact Cluster.frame_begin c
  | passing call p => exact .refl c
  | recovering r => exact .refl c

theorem frame_answer (m : Moment) (a : Answer) : Cluster.Frame m.cluster (m.answer a).cluster := by
  obtain ⟨c, activity, o⟩ := m
  cases activity with
  | resting => exact .refl c
  | passing call p =>
    rw [answer, cluster_ofProgress]
    exact Cluster.frame_resume c p a
  | recovering r => exact Cluster.frame_finishRecovery c r a

theorem Sound.answer {m : Moment} (h : m.Sound known) (a : Answer) : (m.answer a).Sound known := by
  have hw := h.cluster.writes (writes_answer h a)
  obtain ⟨c, activity, o⟩ := m
  cases activity with
  | resting => exact h
  | passing call p =>
    refine ⟨hw, fun n hn => ?_, fun call' p' hp => ?_, fun r hr => absurd hr (activity_ofProgress_ne o _ r)⟩
    · rw [Moment.answer, nodes_ofProgress] at hn
      exact h.nodes_known n (Cluster.mem_nodes_resume hn)
    · exact (Cluster.isDelta_resume c p a).call_eq (activity_ofProgress hp)
  | recovering r =>
    exact ⟨hw, fun _ hn => absurd hn List.not_mem_nil, fun _ _ hp => (by cases hp), fun _ hr => (by cases hr)⟩

theorem Sound.reconcile {m : Moment} (h : m.Sound known) : m.reconcile.Sound known := by
  have hw := h.cluster.writes (writes_reconcile h)
  obtain ⟨c, activity, o⟩ := m
  cases activity with
  | resting =>
    refine ⟨hw, fun n hn => ?_, fun call' p' hp => ?_, fun r hr => absurd hr (activity_ofProgress_ne o _ r)⟩
    · rw [Moment.reconcile, nodes_ofProgress] at hn
      exact h.cluster.nodes_begin n hn
    · exact Cluster.call_begin (activity_ofProgress hp)
  | passing call p => exact h
  | recovering r => exact h

theorem Sound.recover {m : Moment} (h : m.Sound known) (failed sponsor : NodeId) :
    (m.recover failed sponsor).Sound known := by
  unfold Moment.recover
  split
  · next r hr ha =>
    obtain ⟨hk, hid⟩ := h.cluster.recovery ha
    refine ⟨h.cluster, fun n hn => ?_, fun _ _ hp => (by cases hp), fun r' hr' => ?_⟩
    · rw [List.mem_singleton.1 hn]; exact hk
    · cases hr'; exact hid
  · exact h

/-- **Soundness outlives every event** that brings in no unknown node. -/
theorem Sound.step {m : Moment} (h : m.Sound known) (e : Event) (hk : ∀ n, e = .enter n → known n) :
    (m.step e).Sound known := by
  cases e with
  | enter n => exact ⟨h.cluster.addMember (hk n rfl), h.nodes_known, h.call_eq, h.recovery_id⟩
  | depart id => exact ⟨h.cluster.removeMember id, h.nodes_known, h.call_eq, h.recovery_id⟩
  | report n s b => exact ⟨h.cluster.report n s b, h.nodes_known, h.call_eq, h.recovery_id⟩
  | mark b => exact ⟨h.cluster.mark b, h.nodes_known, h.call_eq, h.recovery_id⟩
  | reconcile => exact h.reconcile
  | recover failed sponsor => exact h.recover failed sponsor
  | answer a => exact h.answer a

/-- **Where no two known nodes share an identity, only active nodes are ever flagged so.** -/
theorem marked_step {m : Moment} (hd : DistinctIds known) (hs : m.Sound known) (h : m.cluster.Marked) (e : Event) :
    (m.step e).cluster.Marked := by
  cases e with
  | enter n => exact h
  | depart id => exact h
  | report n s b =>
    intro k hk
    exact h k ((Cluster.isActive_report m.cluster n k s b).symm.trans hk)
  | mark b => exact h
  | reconcile => exact Cluster.Marked.writes hd hs.cluster h (writes_reconcile hs)
  | recover failed sponsor => rw [step, cluster_recover]; exact h
  | answer a => exact Cluster.Marked.writes hd hs.cluster h (writes_answer hs a)

theorem run_induction {P : Moment → Prop} {m : Moment} {history : List Event} (h : P m)
    (hstep : ∀ m e, e ∈ history → P m → P (m.step e)) : P (m.run history) := by
  induction history generalizing m with
  | nil => exact h
  | cons e es ih =>
    exact ih (hstep m e List.mem_cons_self h) (fun m e' he' => hstep m e' (List.mem_cons_of_mem e he'))

/-- **The configuration and the kind of backing cluster never change.** -/
theorem settings_step (m : Moment) (e : Event) :
    (m.step e).cluster.config = m.cluster.config ∧ (m.step e).cluster.stages = m.cluster.stages := by
  cases e with
  | reconcile => exact ⟨(frame_reconcile m).config, (frame_reconcile m).stages⟩
  | recover failed sponsor =>
    show (m.recover failed sponsor).cluster.config = _ ∧ (m.recover failed sponsor).cluster.stages = _
    rw [cluster_recover]
    exact ⟨rfl, rfl⟩
  | answer a => exact ⟨(frame_answer m a).config, (frame_answer m a).stages⟩
  | _ => exact ⟨rfl, rfl⟩

theorem settings_run (m : Moment) (es : List Event) :
    (m.run es).cluster.config = m.cluster.config ∧ (m.run es).cluster.stages = m.cluster.stages :=
  run_induction (P := fun m' => m'.cluster.config = m.cluster.config ∧ m'.cluster.stages = m.cluster.stages) ⟨rfl, rfl⟩
    (fun m' e _ h => ⟨(settings_step m' e).1.trans h.1, (settings_step m' e).2.trans h.2⟩)

/-- **Soundness outlives every history** that brings in no unknown node. -/
theorem sound_run {m : Moment} {history : List Event} (h : m.Sound known)
    (hk : ∀ n, Event.enter n ∈ history → known n) : (m.run history).Sound known :=
  run_induction h (fun m e he hm => hm.step e (fun n hn => hk n (by rw [← hn]; exact he)))

end Moment

end ClusterMembership
