import ClusterMembership.Proofs.Histories
/-!
# One primary at any time

A promotion is a row of writes: all demotions, and then the promotion itself.  While every node flagged as primary is the
assigned one (`Cluster.RoleAgrees`), no prefix of that row leaves two nodes flagged (`exclusiveThrough_promotion`), and
at its end the promoted node alone is.  `Moment.primaryWrites` lists the writes of the role that an event makes, in
order, and `primary_exclusive` says of every history that no two nodes are ever flagged, between any two of them either.
-/
namespace ClusterMembership

open Cluster

/-- No two nodes are flagged as primary. -/
def FlagTable.Exclusive (t : FlagTable) : Prop :=
  ∀ n m, (t.get n).isPrimary = true → (t.get m).isPrimary = true → n = m

/-- No two nodes are flagged as primary before, between and after the writes. -/
def FlagTable.ExclusiveThrough (t : FlagTable) (ws : List (Node × Bool)) : Prop :=
  ∀ k, ((ws.take k).foldl writePrimary t).Exclusive

namespace FlagTable

theorem isPrimary_foldl_demote (ns : List Node) (m : Node) : ∀ t : FlagTable,
    (((ns.map (·, false)).foldl writePrimary t).get m).isPrimary = (!decide (m ∈ ns) && (t.get m).isPrimary) := by
  induction ns with
  | nil => intro t; simp
  | cons n ns ih =>
    intro t
    rw [List.map_cons, List.foldl_cons, ih, writePrimary, isPrimary_setPrimary]
    by_cases h : m = n <;> simp [h]

theorem isPrimary_foldl_congr (ws : List (Node × Bool)) (m : Node) : ∀ {t t' : FlagTable},
    (∀ n, (t.get n).isPrimary = (t'.get n).isPrimary) →
      ((ws.foldl writePrimary t).get m).isPrimary = ((ws.foldl writePrimary t').get m).isPrimary := by
  induction ws with
  | nil => intro t t' h; exact h m
  | cons w ws ih =>
    intro t t' h
    refine ih (fun n => ?_)
    rw [writePrimary, writePrimary, isPrimary_setPrimary, isPrimary_setPrimary, h]

theorem Exclusive.demote {t : FlagTable} (h : t.Exclusive) (ns : List Node) :
    ((ns.map (·, false)).foldl writePrimary t).Exclusive := by
  intro n m hn hm
  rw [isPrimary_foldl_demote, Bool.and_eq_true] at hn hm
  exact h n m hn.2 hm.2

theorem exclusiveThrough_demote {t : FlagTable} (h : t.Exclusive) (ns : List Node) :
    t.ExclusiveThrough (ns.map (·, false)) := by
  intro k
  rw [← List.map_take]
  exact h.demote (ns.take k)

theorem ExclusiveThrough.append {t : FlagTable} {ws ws' : List (Node × Bool)} (h : t.ExclusiveThrough ws)
    (h' : (ws.foldl writePrimary t).ExclusiveThrough ws') : t.ExclusiveThrough (ws ++ ws') := by
  intro k
  rw [List.take_append, List.foldl_append]
  by_cases hk : k ≤ ws.length
  · rw [Nat.sub_eq_zero_of_le hk]
    exact h k
  · rw [List.take_of_length_le (Nat.le_of_not_le hk)]
    exact h' (k - ws.length)

theorem ExclusiveThrough.congr {t t' : FlagTable} {ws : List (Node × Bool)} (h : t'.ExclusiveThrough ws)
    (he : ∀ n, (t.get n).isPrimary = (t'.get n).isPrimary) : t.ExclusiveThrough ws := by
  intro k n m hn hm
  rw [isPrimary_foldl_congr _ _ he] at hn hm
  exact h k n m hn hm

end FlagTable

namespace Cluster

open FlagTable

/-- The nodes flagged as primary are the one that is assigned. -/
def RoleAgrees (c : Cluster) : Prop := ∀ n, c.isPrimary n = true ↔ c.primary = some n

/-- The nodes that a promotion demotes. -/
def rivals (c : Cluster) (n : Node) : List Node :=
  c.primary.toList ++ (c.group.members ++ c.active.nodes).filter (·.id ≠ n.id)

theorem promotionWrites_eq (c : Cluster) (n : Node) :
    c.promotionWrites n = (c.rivals n).map (·, false) ++ [(n, true)] := rfl

theorem RoleAgrees.exclusive {c : Cluster} (h : c.RoleAgrees) : c.flags.Exclusive := by
  intro n m hn hm
  exact Option.some.inj (((h n).1 hn).symm.trans ((h m).1 hm))

/-- **After a promotion the promoted node alone is flagged.** -/
theorem isPrimary_promote {c : Cluster} (h : c.RoleAgrees) (n m : Node) :
    (c.promote n).isPrimary m = true ↔ m = n := by
  show (((c.promotionWrites n).foldl writePrimary c.flags).get m).isPrimary = true ↔ m = n
  rw [promotionWrites_eq, List.foldl_append, List.foldl_cons, List.foldl_nil, writePrimary, isPrimary_setPrimary,
    isPrimary_foldl_demote]
  by_cases hm : m = n
  · simp [hm]
  · rw [if_neg hm, Bool.and_eq_true, Bool.not_eq_true', decide_eq_false_iff_not]
    refine ⟨?_, fun he => absurd he hm⟩
    rintro ⟨hr, hp⟩
    -- a flagged node is the primary, and so it is demoted unless it is `n`
    have hp' : c.primary = some m := (h m).1 hp
    exact absurd (List.mem_append_left _ (by rw [hp']; exact List.mem_cons_self)) hr

/-- **No prefix of a promotion leaves two nodes flagged.** -/
theorem exclusiveThrough_promotion {c : Cluster} (h : c.RoleAgrees) (n : Node) :
    c.flags.ExclusiveThrough (c.promotionWrites n) := by
  intro k
  -- a prefix without the promotion itself only demotes, and before the promotion every rival has been demoted
  by_cases hk : k ≤ ((c.rivals n).map (·, false)).length
  · rw [promotionWrites_eq, List.take_append_of_le_length hk]
    exact exclusiveThrough_demote h.exclusive (c.rivals n) k
  · have hl : (c.promotionWrites n).length ≤ k := by
      rw [promotionWrites_eq, List.length_append, List.length_singleton]; omega
    rw [List.take_of_length_le hl]
    intro a b ha hb
    rw [(isPrimary_promote h n a).1 ha, (isPrimary_promote h n b).1 hb]

theorem isPrimary_depose (c : Cluster) (p m : Node) :
    (c.depose p).isPrimary m = if m = p then false else c.isPrimary m := isPrimary_setPrimary c.flags p m false

theorem RoleAgrees.write {known : Node → Prop} {c c' : Cluster} (h : c.RoleAgrees) (hw : Write known c c') :
    c'.RoleAgrees := by
  intro m
  cases hw with
  | member hw => rw [hw.isPrimary, hw.primary]; exact h m
  | @promote n _ =>
    rw [isPrimary_promote h]
    exact ⟨fun he => by rw [he]; rfl, fun he => (Option.some.inj he).symm⟩
  | @depose p hp =>
    rw [isPrimary_depose]
    refine ⟨fun hm => ?_, fun hm => by cases hm⟩
    by_cases he : m = p
    · rw [if_pos he] at hm; cases hm
    · rw [if_neg he, h m, hp] at hm
      exact absurd (Option.some.inj hm).symm he

theorem RoleAgrees.writes {known : Node → Prop} {c c' : Cluster} (h : c.RoleAgrees) (hw : Writes known c c') :
    c'.RoleAgrees := hw.keeps (fun _ _ hw h => RoleAgrees.write h hw) h

/-! ## The writes of the role -/

/-- The writes by which a pass hands the role over. -/
def handOverWrites (c : Cluster) : List (Node × Bool) :=
  match c.primary with
  | none => []
  | some p =>
    if c.hasDeparted p || c.isOverdue p then
      match c.successor? p with
      | some n => c.promotionWrites n
      | none => if c.hasDeparted p then [(p, false)] else []
    else []

/-- The writes by which an election adopts an initialized node. -/
def electWrites (c : Cluster) : List (Node × Bool) :=
  match c.group.members.find? c.isReady with
  | none => []
  | some n => if c.isInitialized n then c.promotionWrites n else []

/-- The writes of the role up to the first call of a pass. -/
def beginWrites (c : Cluster) : List (Node × Bool) :=
  c.handOverWrites ++ if c.handOver.primary.isNone then c.handOver.electWrites else []

/-- The writes of the role at the answer to a call. -/
def resumeWrites (c : Cluster) (p : Pending) (a : Answer) : List (Node × Bool) :=
  match p with
  | .bootstrapping n =>
    if (a.failure? c.config.actionTimeout).isNone then c.forgetActive.promotionWrites n else []
  | _ => []

theorem flags_handOver (c : Cluster) : c.handOver.flags = c.handOverWrites.foldl writePrimary c.flags := by
  unfold handOver handOverWrites
  cases c.primary with
  | none => rfl
  | some p =>
    simp only
    by_cases ho : (c.hasDeparted p || c.isOverdue p) = true
    · rw [if_pos ho, if_pos ho]
      cases c.successor? p with
      | some n => rfl
      | none => by_cases hd : c.hasDeparted p = true <;> simp only [hd, if_true] <;> rfl
    · rw [if_neg ho, if_neg ho]; rfl

theorem isPrimary_begin (c : Cluster) (m : Node) :
    c.begin.1.isPrimary m = ((c.beginWrites.foldl writePrimary c.flags).get m).isPrimary := by
  rw [beginWrites, List.foldl_append, ← flags_handOver]
  have hb := begins c
  generalize c.begin = q at hb ⊢
  generalize c.handOver = c at hb ⊢
  cases hb with
  | unready vacant first =>
    have hw : (if c.primary.isNone then c.electWrites else []) = [] := by simp [vacant, electWrites, first]
    rw [hw]
    rfl
  | @adopted n vacant first initialized =>
    have hw : (if c.primary.isNone then c.electWrites else []) = c.promotionWrites n := by
      simp [vacant, electWrites, first, initialized]
    rw [hw]
    rfl
  | bootstraps vacant first uninitialized =>
    have hw : (if c.primary.isNone then c.electWrites else []) = [] := by
      simp [vacant, electWrites, first, uninitialized]
    rw [hw]
    rfl
  | awaits primary _ =>
    have hw : (if c.primary.isNone then c.electWrites else []) = [] := by simp [primary]
    rw [hw]
    rfl
  | @reconciles p primary _ =>
    have hw : (if c.primary.isNone then c.electWrites else []) = [] := by simp [primary]
    rw [hw]
    exact (memberWrites_applyDelta_any { c with phase := .reconciling } p).isPrimary m

theorem isPrimary_resume (c : Cluster) (p : Pending) (a : Answer) (m : Node) :
    (c.resume p a).1.isPrimary m = (((c.resumeWrites p a).foldl writePrimary c.flags).get m).isPrimary := by
  by_cases hb : ∃ n, p = .bootstrapping n
  · obtain ⟨n, rfl⟩ := hb
    simp only [resume, resumeWrites]
    cases a.failure? c.config.actionTimeout with
    | some cause => rfl
    | none => exact isPrimary_foldl_congr _ m (fun k => isPrimary_foldl_setActive _ k c.flags)
  · have hw : MemberWrites (fun _ => True) c (c.resume p a).1 :=
      memberWrites_resume c a (fun n hn => hb ⟨n, hn⟩) (fun _ _ => trivial)
    rw [hw.isPrimary m]
    cases p with
    | bootstrapping n => exact absurd ⟨n, rfl⟩ hb
    | _ => rfl

theorem exclusiveThrough_handOver {c : Cluster} (h : c.RoleAgrees) : c.flags.ExclusiveThrough c.handOverWrites := by
  have hnil : c.flags.ExclusiveThrough [] := exclusiveThrough_demote h.exclusive []
  unfold handOverWrites
  split
  · exact hnil
  · next p hp =>
    split
    · split
      · exact exclusiveThrough_promotion h _
      · split
        · exact exclusiveThrough_demote h.exclusive [p]
        · exact hnil
    · exact hnil

theorem exclusiveThrough_begin {c : Cluster} (h : c.RoleAgrees) : c.flags.ExclusiveThrough c.beginWrites := by
  refine (exclusiveThrough_handOver h).append ?_
  rw [← flags_handOver]
  have hw : Writes (fun _ => True) c c.handOver := writes_handOver c (fun _ _ => trivial)
  have h' : c.handOver.RoleAgrees := h.writes hw
  have hnil : c.handOver.flags.ExclusiveThrough [] := exclusiveThrough_demote h'.exclusive []
  split
  · unfold electWrites
    split
    · exact hnil
    · split
      · exact exclusiveThrough_promotion h' _
      · exact hnil
  · exact hnil

theorem exclusiveThrough_resume {c : Cluster} (h : c.RoleAgrees) (p : Pending) (a : Answer) :
    c.flags.ExclusiveThrough (c.resumeWrites p a) := by
  have hnil : c.flags.ExclusiveThrough [] := exclusiveThrough_demote h.exclusive []
  unfold resumeWrites
  split
  · next n =>
    split
    · have hw : Write (fun _ => True) c c.forgetActive := .member .forgetActive
      have h' : c.forgetActive.RoleAgrees := h.write hw
      exact (exclusiveThrough_promotion h' n).congr (fun k => (isPrimary_foldl_setActive _ k c.flags).symm)
    · exact hnil
  · exact hnil

end Cluster

/-! ## Histories -/

namespace Moment

/-- The writes of the primary role that an event makes the controller do, in order. -/
def primaryWrites (m : Moment) : Event → List (Node × Bool)
  | .reconcile =>
    match m.activity with
    | .resting => m.cluster.beginWrites
    | _ => []
  | .answer a =>
    match m.activity with
    | .passing _ p => m.cluster.resumeWrites p a
    | _ => []
  | _ => []

theorem isPrimary_step {m : Moment} (h : m.Sound fun _ => True) (e : Event) (n : Node) :
    (m.step e).cluster.isPrimary n = (((m.primaryWrites e).foldl writePrimary m.cluster.flags).get n).isPrimary := by
  obtain ⟨c, activity, o⟩ := m
  cases e with
  | report k s b => exact FlagTable.isPrimary_setSignal c.flags k n s b
  | reconcile =>
    cases activity with
    | resting =>
      show (ofProgress o c.begin).cluster.isPrimary n = _
      rw [cluster_ofProgress]
      exact isPrimary_begin c n
    | _ => rfl
  | answer a =>
    cases activity with
    | resting => rfl
    | passing call p =>
      show (ofProgress o (c.resume p a)).cluster.isPrimary n = _
      rw [cluster_ofProgress]
      exact isPrimary_resume c p a n
    | recovering r =>
      have hw : MemberWrites (fun _ => True) c (c.finishRecovery r a).1 :=
        memberWrites_finishRecovery c r a (h.recovery_id r rfl) trivial
      exact hw.isPrimary n
  | recover failed sponsor =>
    show (Moment.recover _ failed sponsor).cluster.isPrimary n = _
    rw [cluster_recover]
    rfl
  | _ => rfl

theorem exclusiveThrough_step {m : Moment} (h : m.cluster.RoleAgrees) (e : Event) :
    m.cluster.flags.ExclusiveThrough (m.primaryWrites e) := by
  have hnil : m.cluster.flags.ExclusiveThrough [] := FlagTable.exclusiveThrough_demote h.exclusive []
  unfold primaryWrites
  split
  · split
    · exact exclusiveThrough_begin h
    · exact hnil
  · split
    · exact exclusiveThrough_resume h _ _
    · exact hnil
  · exact hnil

theorem roleAgrees_step {known : Node → Prop} {m : Moment} (hs : m.Sound known) (h : m.cluster.RoleAgrees) (e : Event) :
    (m.step e).cluster.RoleAgrees := by
  cases e with
  | report k s b => exact fun n => (Bool.eq_iff_iff.1 (FlagTable.isPrimary_setSignal m.cluster.flags k n s b)).trans (h n)
  | reconcile => exact h.writes (writes_reconcile hs)
  | answer a => exact h.writes (writes_answer hs a)
  | recover failed sponsor =>
    show (m.recover failed sponsor).cluster.RoleAgrees
    rw [cluster_recover]
    exact h
  | enter n => exact h
  | depart id => exact h
  | mark b => exact h

theorem roleAgrees_run (config : Config) (stages : Bool) (group : String) (history : List Event) :
    ((fresh config stages group).run history).cluster.RoleAgrees := by
  -- what an answer writes is settled for a sound moment only, so soundness is carried along
  have hP : ((fresh config stages group).run history).Sound (fun _ => True) ∧
      ((fresh config stages group).run history).cluster.RoleAgrees :=
    run_induction (P := fun m => m.Sound (fun _ => True) ∧ m.cluster.RoleAgrees)
      ⟨sound_fresh config stages group, fun n => ⟨fun h => (by cases h), fun h => (by cases h)⟩⟩
      (fun m e _ h => ⟨h.1.step e (fun _ _ => trivial), roleAgrees_step h.1 h.2 e⟩)
  exact hP.2

end Moment

/-- **One primary at any time.**  Whatever has happened and whatever happens next, the writes of the role that the
event makes take the flags from one to the next with no two nodes ever flagged; and at every moment, a pass running or
not, the flagged nodes are the one that is assigned. -/
theorem primary_exclusive (config : Config) (stages : Bool) (group : String) (history : List Event) (e : Event) :
    let m := (Moment.fresh config stages group).run history
    m.cluster.flags.ExclusiveThrough (m.primaryWrites e) ∧
    (∀ n, (m.step e).cluster.isPrimary n =
      (((m.primaryWrites e).foldl writePrimary m.cluster.flags).get n).isPrimary) ∧
    ∀ n, m.cluster.isPrimary n = true ↔ m.cluster.primary = some n := by
  have hr := Moment.roleAgrees_run config stages group history
  have hs : ((Moment.fresh config stages group).run history).Sound (fun _ => True) :=
    Moment.sound_run (Moment.sound_fresh config stages group) (fun _ _ => trivial)
  exact ⟨Moment.exclusiveThrough_step hr e, Moment.isPrimary_step hs e, hr⟩

end ClusterMembership
