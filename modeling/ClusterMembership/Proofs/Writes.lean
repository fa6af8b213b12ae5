import ClusterMembership.Proofs.Branches
import ClusterMembership.Proofs.Flags
import Mathlib.Logic.Relation
/-!
# Chains of writes

A controller never writes the configuration, the group or a signal (`Cluster.Frame`).  The writes that leave the primary
role alone are listed once, as `Cluster.MemberWrite`; with promotions and depositions they are all the writes there are
(`Cluster.Write`), and whatever a controller does is a chain of them (`writes_begin`, `writes_resume`,
`writes_finishRecovery`).  What every write keeps is kept by every pass and every recovery.
-/
namespace ClusterMembership

/-- The nodes that a pass has still to deal with. -/
def Pending.nodes : Pending → List Node
  | .bootstrapping n => [n]
  | .joining d n rest => n :: rest ++ d.leaves
  | .leaving _ n rest => n :: rest
  | .committing _ => []
  | .rebalancing .. => []

namespace Cluster

open FlagTable

/-! ## What no write of a controller touches -/

/-- The configuration, the kind of backing cluster, the group and the signals are as they were. -/
structure Frame (c c' : Cluster) : Prop where
  config : c'.config = c.config
  stages : c'.stages = c.stages
  group : c'.group = c.group
  signal : ∀ n s, c'.signal n s = c.signal n s

theorem Frame.refl (c : Cluster) : Frame c c := ⟨rfl, rfl, rfl, fun _ _ => rfl⟩

theorem Frame.trans {a b c : Cluster} (h : Frame a b) (h' : Frame b c) : Frame a c :=
  ⟨h'.config.trans h.config, h'.stages.trans h.stages, h'.group.trans h.group,
    fun n s => (h'.signal n s).trans (h.signal n s)⟩

theorem Frame.isReady {c c' : Cluster} (h : Frame c c') : c'.isReady = c.isReady := by
  funext n; rw [Cluster.isReady, Cluster.isReady, h.config, h.signal]

theorem Frame.isInitialized {c c' : Cluster} (h : Frame c c') : c'.isInitialized = c.isInitialized := by
  funext n; exact h.signal n .coordinatorInitialized

theorem frame_promote (c : Cluster) (n : Node) : Frame c (c.promote n) :=
  ⟨rfl, rfl, rfl, fun m s => signal_foldl_writePrimary _ m s c.flags⟩

theorem frame_depose (c : Cluster) (p : Node) : Frame c (c.depose p) :=
  ⟨rfl, rfl, rfl, fun m s => signal_setPrimary c.flags p m false s⟩

/-! ## Chains of writes -/

/-- A write of the controller that leaves the primary role alone; the nodes that it takes in or drops are `known`. -/
inductive MemberWrite (known : Node → Prop) (c : Cluster) : Cluster → Prop
  | enroll {n : Node} (h : known n) : MemberWrite known c (c.enroll n.id n)
  | discharge {n : Node} (h : known n) : MemberWrite known c (c.discharge n)
  | forgetActive : MemberWrite known c c.forgetActive
  | pendingCommit (b : Bool) : MemberWrite known c { c with pendingCommit := b }
  | phase (ph : Phase) : MemberWrite known c { c with phase := ph }
  | publish : MemberWrite known c c.publish

/-- A chain of writes that leave the primary role alone. -/
def MemberWrites (known : Node → Prop) : Cluster → Cluster → Prop := Relation.ReflTransGen (MemberWrite known)

theorem MemberWrite.frame {known : Node → Prop} {c c' : Cluster} (h : MemberWrite known c c') : Frame c c' := by
  cases h with
  | enroll _ => exact ⟨rfl, rfl, rfl, fun m s => signal_setActive c.flags _ m true s⟩
  | discharge _ => exact ⟨rfl, rfl, rfl, fun m s => signal_setActive c.flags _ m false s⟩
  | forgetActive => exact ⟨rfl, rfl, rfl, fun m s => signal_foldl_setActive _ m s c.flags⟩
  | pendingCommit b => exact ⟨rfl, rfl, rfl, fun _ _ => rfl⟩
  | phase ph => exact ⟨rfl, rfl, rfl, fun _ _ => rfl⟩
  | publish => exact ⟨rfl, rfl, rfl, fun _ _ => rfl⟩

theorem MemberWrite.primary {known : Node → Prop} {c c' : Cluster} (h : MemberWrite known c c') :
    c'.primary = c.primary := by
  cases h <;> rfl

theorem MemberWrite.isPrimary {known : Node → Prop} {c c' : Cluster} (h : MemberWrite known c c') (m : Node) :
    c'.isPrimary m = c.isPrimary m := by
  cases h with
  | enroll _ => exact isPrimary_setActive c.flags _ m true
  | discharge _ => exact isPrimary_setActive c.flags _ m false
  | forgetActive => exact isPrimary_foldl_setActive _ m c.flags
  | pendingCommit b => rfl
  | phase ph => rfl
  | publish => rfl

namespace MemberWrites

variable {known : Node → Prop} {a b c : Cluster}

theorem refl (c : Cluster) : MemberWrites known c c := Relation.ReflTransGen.refl

theorem single (h : MemberWrite known a b) : MemberWrites known a b := Relation.ReflTransGen.single h

theorem trans (h : MemberWrites known a b) (h' : MemberWrites known b c) : MemberWrites known a c :=
  Relation.ReflTransGen.trans h h'

theorem keeps {P : Cluster → Prop} (hP : ∀ a b, MemberWrite known a b → P a → P b) (h : MemberWrites known a b)
    (ha : P a) : P b := by
  induction h with
  | refl => exact ha
  | tail _ hw ih => exact hP _ _ hw ih

theorem frame (h : MemberWrites known a b) : Frame a b :=
  h.keeps (P := Frame a) (fun _ _ hw hf => hf.trans hw.frame) (Frame.refl a)

theorem primary (h : MemberWrites known a b) : b.primary = a.primary :=
  h.keeps (P := fun c => c.primary = a.primary) (fun _ _ hw hp => hw.primary.trans hp) rfl

theorem isPrimary (h : MemberWrites known a b) (m : Node) : b.isPrimary m = a.isPrimary m :=
  h.keeps (P := fun c => c.isPrimary m = a.isPrimary m) (fun _ _ hw hp => (hw.isPrimary m).trans hp) rfl

end MemberWrites

variable {known : Node → Prop}

theorem memberWrites_rebalanceNext (c : Cluster) (d : Delta) (committed : Bool) :
    MemberWrites known c (c.rebalanceNext d committed).1 := by
  unfold rebalanceNext
  split
  · exact .refl c
  · exact .single .publish

theorem memberWrites_commitNext (c : Cluster) (d : Delta) : MemberWrites known c (c.commitNext d).1 := by
  unfold commitNext
  split
  · exact .refl c
  · exact memberWrites_rebalanceNext c d false

theorem memberWrites_leaveNext (c : Cluster) (d : Delta) (rest : List Node) :
    MemberWrites known c (c.leaveNext d rest).1 := by
  cases rest with
  | nil => exact memberWrites_commitNext c d
  | cons n rest => exact .refl c

theorem memberWrites_joinNext (c : Cluster) (d : Delta) (rest : List Node) (h : ∀ n ∈ rest, known n) :
    MemberWrites known c (c.joinNext d rest).1 := by
  induction rest generalizing c d with
  | nil => exact memberWrites_leaveNext c d d.leaves
  | cons n rest ih =>
    rw [joinNext]
    split
    · exact (MemberWrites.single (.enroll (h n List.mem_cons_self))).trans
        (ih _ _ (fun m hm => h m (List.mem_cons_of_mem n hm)))
    · exact .refl c

theorem memberWrites_enrollPrimary (c : Cluster) {p : Node} (h : known p) :
    MemberWrites known c (c.enrollPrimary p) := by
  unfold enrollPrimary
  split
  · exact .refl c
  · exact .single (.enroll h)

theorem frame_enrollPrimary (c : Cluster) (p : Node) : Frame c (c.enrollPrimary p) := by
  have hw : MemberWrites (fun _ => True) c (c.enrollPrimary p) := memberWrites_enrollPrimary c trivial
  exact hw.frame

theorem group_enrollPrimary (c : Cluster) (p : Node) : (c.enrollPrimary p).group = c.group := by
  unfold enrollPrimary; split <;> rfl

theorem mem_members_of_mem_joiners {c : Cluster} {n : Node} (h : n ∈ c.joiners) : n ∈ c.group.members :=
  (List.mem_filter.1 h).1

/-- **The delta under a settled primary** makes member writes only, about members and the primary. -/
theorem memberWrites_applyDelta (c : Cluster) {p : Node} (hp : known p) (hm : ∀ n ∈ c.group.members, known n) :
    MemberWrites known c (c.applyDelta p).1 := by
  have hw : MemberWrites known c (c.enrollPrimary p) := memberWrites_enrollPrimary c hp
  refine hw.trans (memberWrites_joinNext _ _ _ (fun n hn => hm n ?_))
  rw [← hw.frame.group]
  exact mem_members_of_mem_joiners hn

theorem memberWrites_applyDelta_any (c : Cluster) (p : Node) : MemberWrites (fun _ => True) c (c.applyDelta p).1 :=
  memberWrites_applyDelta c trivial (fun _ _ => trivial)

theorem memberWrites_finish (c : Cluster) (phase : Phase) (result : Except Failure Outcome) :
    MemberWrites known c ({ c with phase }.finish result).1 :=
  (MemberWrites.single (.phase phase)).trans (.single .publish)

theorem memberWrites_resume (c : Cluster) {p : Pending} (a : Answer) (hb : ∀ n, p ≠ .bootstrapping n)
    (h : ∀ n ∈ p.nodes, known n) : MemberWrites known c (c.resume p a).1 := by
  have hr := resumes c p a
  generalize c.resume p a = q at hr ⊢
  cases hr with
  | failed phase f _ => exact memberWrites_finish c phase _
  | @bootstrapped n _ => exact absurd rfl (hb n)
  | @joined d n rest _ =>
    have hw : MemberWrites known c (c.markStaged.enroll n.id n) :=
      (MemberWrites.single (.pendingCommit _)).trans (.single (.enroll (h n List.mem_cons_self)))
    exact hw.trans (memberWrites_joinNext _ _ _
      (fun m hm => h m (List.mem_append_left _ (List.mem_cons_of_mem n hm))))
  | @left d n rest _ =>
    have hw : MemberWrites known c (c.markStaged.discharge n) :=
      (MemberWrites.single (.pendingCommit _)).trans (.single (.discharge (h n List.mem_cons_self)))
    exact hw.trans (memberWrites_leaveNext _ _ _)
  | committed _ => exact (MemberWrites.single (.pendingCommit _)).trans (memberWrites_rebalanceNext _ _ _)
  | rebalanced _ => exact memberWrites_finish c c.phase _

/-! ## All writes -/

/-- A write of the controller; the nodes that it promotes, takes in or drops are `known`. -/
inductive Write (known : Node → Prop) (c : Cluster) : Cluster → Prop
  | member {c' : Cluster} (h : MemberWrite known c c') : Write known c c'
  | promote {n : Node} (h : known n) : Write known c (c.promote n)
  | depose {p : Node} (h : c.primary = some p) : Write known c (c.depose p)

/-- A chain of writes. -/
def Writes (known : Node → Prop) : Cluster → Cluster → Prop := Relation.ReflTransGen (Write known)

theorem Write.frame {c c' : Cluster} (h : Write known c c') : Frame c c' := by
  cases h with
  | member h => exact h.frame
  | promote _ => exact frame_promote c _
  | depose _ => exact frame_depose c _

namespace Writes

variable {a b c : Cluster}

theorem refl (c : Cluster) : Writes known c c := Relation.ReflTransGen.refl

theorem single (h : Write known a b) : Writes known a b := Relation.ReflTransGen.single h

theorem trans (h : Writes known a b) (h' : Writes known b c) : Writes known a c := Relation.ReflTransGen.trans h h'

theorem keeps {P : Cluster → Prop} (hP : ∀ a b, Write known a b → P a → P b) (h : Writes known a b) (ha : P a) :
    P b := by
  induction h with
  | refl => exact ha
  | tail _ hw ih => exact hP _ _ hw ih

theorem frame (h : Writes known a b) : Frame a b :=
  h.keeps (P := Frame a) (fun _ _ hw hf => hf.trans hw.frame) (Frame.refl a)

end Writes

theorem MemberWrites.writes {a b : Cluster} (h : MemberWrites known a b) : Writes known a b :=
  h.keeps (P := Writes known a) (fun _ _ hw ha => ha.trans (.single (.member hw))) (.refl a)

theorem active_handOver (c : Cluster) : c.handOver.active = c.active := by
  rcases handOver_cases c with h | ⟨p, n, -, -, h⟩ | ⟨p, -, -, -, h⟩ <;> rw [h] <;> rfl

theorem isActive_handOver (c : Cluster) (m : Node) : c.handOver.isActive m = c.isActive m := by
  rcases handOver_cases c with h | ⟨p, n, -, -, h⟩ | ⟨p, -, -, -, h⟩ <;> rw [h]
  · exact isActive_promote c n m
  · exact isActive_depose c p m

theorem writes_handOver (c : Cluster) (hm : ∀ n ∈ c.group.members, known n) : Writes known c c.handOver := by
  rcases handOver_cases c with h | ⟨p, n, -, hn, h⟩ | ⟨p, hp, -, -, h⟩
  · rw [h]; exact .refl c
  · rw [h]; exact .single (.promote (hm n (mem_members_of_mem_successors hn)))
  · rw [h]; exact .single (.depose hp)

theorem frame_handOver (c : Cluster) : Frame c c.handOver := by
  have hw : Writes (fun _ => True) c c.handOver := writes_handOver c (fun _ _ => trivial)
  exact hw.frame

theorem writes_assume (c : Cluster) {n : Node} (h : known n) : Writes known c (c.assume n).1 :=
  (Writes.single (.promote h)).trans (((MemberWrites.single (.phase _)).trans (.single .publish)).writes)

theorem primary_handOver {c : Cluster} {p : Node} (h : c.handOver.primary = some p) :
    c.primary = some p ∨ p ∈ c.group.members := by
  rcases handOver_cases c with he | ⟨q, n, -, hn, he⟩ | ⟨q, -, -, -, he⟩
  · rw [he] at h; exact Or.inl h
  · rw [he] at h
    rw [← Option.some.inj h]
    exact Or.inr (mem_members_of_mem_successors hn)
  · rw [he] at h; cases h

/-- **A pass up to its first call** is a chain of writes. -/
theorem writes_begin (c : Cluster) (hm : ∀ n ∈ c.group.members, known n) (hp : ∀ p, c.primary = some p → known p) :
    Writes known c c.begin.1 := by
  have hw := writes_handOver c hm
  have hm' : ∀ n ∈ c.handOver.group.members, known n := by rw [hw.frame.group]; exact hm
  have hb := begins c
  refine hw.trans ?_
  generalize c.begin = q at hb ⊢
  cases hb with
  | unready _ _ => exact (memberWrites_finish _ _ _).writes
  | adopted _ first _ =>
    have hph : Writes known c.handOver { c.handOver with phase := .electingPrimary } :=
      (MemberWrites.single (.phase _)).writes
    exact hph.trans (writes_assume _ (hm' _ (List.mem_of_find?_eq_some first)))
  | bootstraps _ _ _ => exact (MemberWrites.single (.phase _)).writes
  | awaits _ _ => exact (memberWrites_finish _ _ _).writes
  | @reconciles p primary _ =>
    have hk : known p := (primary_handOver primary).elim (hp p) (hm p)
    exact ((MemberWrites.single (.phase .reconciling)).trans (memberWrites_applyDelta _ hk hm')).writes

/-- **A pass from one call to the next** is a chain of writes. -/
theorem writes_resume (c : Cluster) (p : Pending) (a : Answer) (h : ∀ n ∈ p.nodes, known n) :
    Writes known c (c.resume p a).1 := by
  by_cases hb : ∃ n, p = .bootstrapping n
  · obtain ⟨n, rfl⟩ := hb
    have hr := resumes c (.bootstrapping n) a
    generalize c.resume (.bootstrapping n) a = q at hr ⊢
    cases hr with
    | failed phase f _ => exact (memberWrites_finish c phase _).writes
    | bootstrapped _ => exact (MemberWrites.single .forgetActive).writes.trans (writes_assume _ (h n List.mem_cons_self))
  · exact (memberWrites_resume c a (fun n hn => hb ⟨n, hn⟩) h).writes

theorem memberWrites_finishRecovery (c : Cluster) (r : Recovery) (a : Answer) (hid : r.node.id = r.failed)
    (h : known r.node) : MemberWrites known c (c.finishRecovery r a).1 := by
  unfold finishRecovery
  split
  · exact .refl c
  · rw [← hid]; exact (MemberWrites.single (.enroll h)).trans (.single .publish)

/-! ## No pass and no recovery touches the frame -/

theorem frame_begin (c : Cluster) : Frame c c.begin.1 := by
  have hw : Writes (fun _ => True) c c.begin.1 := writes_begin c (fun _ _ => trivial) (fun _ _ => trivial)
  exact hw.frame

theorem frame_resume (c : Cluster) (p : Pending) (a : Answer) : Frame c (c.resume p a).1 := by
  have hw : Writes (fun _ => True) c (c.resume p a).1 := writes_resume c p a (fun _ _ => trivial)
  exact hw.frame

theorem frame_finishRecovery (c : Cluster) (r : Recovery) (a : Answer) : Frame c (c.finishRecovery r a).1 := by
  unfold finishRecovery
  split
  · exact .refl c
  · exact ⟨rfl, rfl, rfl, fun m s => signal_setActive c.flags r.node m true s⟩

end Cluster

end ClusterMembership
