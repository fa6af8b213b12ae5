import ClusterMembership.Proofs.Bootstrap
import ClusterMembership.Proofs.Deeds
import ClusterMembership.Proofs.Disturbances
/-!
# Who is primary after a pass

The primary role passes by succession where it can: the primary stays, or one of its successors follows it
(`Cluster.Heir`).  Where it is vacant, the first ready member is elected (`Cluster.Elects`).  A hand-over finds the heir
(`Cluster.heir_iff`), and a pass that comes to its end leaves the role with it, or with whom it elected, and says in its
outcome which of the two it was (`succession_exact`).
-/
namespace ClusterMembership

namespace Cluster

variable {c : Cluster} {p n : Node}

/-! ## Succession -/

/-- The node is in the group, and it is ready or need not be. -/
def IsFit (c : Cluster) (p : Node) : Prop :=
  c.group.contains p.id = true ∧ (c.isReady p = true ∨ c.config.replaceUnready = false)

/-- Who holds the primary role without an election.  The successors of a primary are the other members, in group order,
that are flagged active, recorded as active and ready. -/
inductive Heir (c : Cluster) : Node → Prop
  /-- The primary stays, being fit. -/
  | stays {p : Node} (primary : c.primary = some p) (fit : c.IsFit p) : Heir c p
  /-- It is followed by the first successor that is initialized. -/
  | initialized {p n : Node} (primary : c.primary = some p) (unfit : ¬ c.IsFit p)
      (first : (c.successors p).find? c.isInitialized = some n) : Heir c n
  /-- None is initialized: a primary that left the group is followed by its first successor. -/
  | joined {p n : Node} (primary : c.primary = some p) (departed : c.group.contains p.id = false)
      (uninitialized : (c.successors p).find? c.isInitialized = none) (first : (c.successors p).head? = some n) : Heir c n
  /-- None is initialized: a primary that is in the group stays, though it is not fit. -/
  | kept {p : Node} (primary : c.primary = some p) (unfit : ¬ c.IsFit p) (present : c.group.contains p.id = true)
      (uninitialized : (c.successors p).find? c.isInitialized = none) : Heir c p

/-- There is no primary, or it left the group and left no successor behind. -/
def IsVacant (c : Cluster) : Prop := ∀ p, c.primary = some p → c.group.contains p.id = false ∧ c.successors p = []

theorem isFit_iff : c.IsFit p ↔ (c.hasDeparted p || c.isOverdue p) = false := by
  unfold IsFit isOverdue hasDeparted
  cases c.group.contains p.id <;> cases c.config.replaceUnready <;> cases c.isReady p <;> simp

theorem handOver_of_isFit (hp : c.primary = some p) (h : c.IsFit p) : c.handOver = c := by
  unfold handOver
  simp only [hp, isFit_iff.1 h, Bool.false_eq_true, if_false]

theorem handOver_of_successor (hp : c.primary = some p) (h : ¬ c.IsFit p) (hs : c.successor? p = some n) :
    c.handOver = c.promote n := by
  rw [isFit_iff, Bool.not_eq_false] at h
  unfold handOver
  simp only [hp, h, if_true, hs]

theorem handOver_of_unfollowed (hp : c.primary = some p) (hd : c.hasDeparted p = false) (hs : c.successor? p = none) :
    c.handOver = c := by
  unfold handOver
  simp only [hp, hs, hd, Bool.false_eq_true, if_false, ite_self]

theorem not_isFit_of_departed (h : c.group.contains p.id = false) : ¬ c.IsFit p := by
  rintro ⟨hc, -⟩
  rw [h] at hc
  cases hc

theorem Heir.primary_handOver (h : c.Heir n) : c.handOver.primary = some n := by
  cases h with
  | stays primary fit => rw [handOver_of_isFit primary fit]; exact primary
  | @initialized p _ primary unfit first =>
    have hs : c.successor? p = some n := by unfold successor?; rw [first]
    rw [handOver_of_successor primary unfit hs]
    rfl
  | @joined p _ primary departed uninitialized first =>
    have hs : c.successor? p = some n := by
      unfold successor? hasDeparted
      rw [uninitialized, departed]
      exact first
    rw [handOver_of_successor primary (not_isFit_of_departed departed) hs]
    rfl
  | kept primary unfit present uninitialized =>
    have hd : c.hasDeparted n = false := by rw [hasDeparted, present]; rfl
    have hs : c.successor? n = none := by
      unfold successor?
      rw [uninitialized, hd]
      rfl
    rw [handOver_of_unfollowed primary hd hs]
    exact primary

theorem isVacant_iff : c.IsVacant ↔ c.handOver.primary = none := by
  rw [primary_handOver_eq_none_iff]
  refine forall₂_congr fun p _ => and_congr_left fun _ => ?_
  rw [hasDeparted, Bool.not_eq_true']

/-- **There is an heir, or the role is vacant.** -/
theorem isVacant_or_heir (c : Cluster) : c.IsVacant ∨ ∃ n, c.Heir n := by
  cases hp : c.primary with
  | none => exact Or.inl fun p h => by rw [hp] at h; cases h
  | some p =>
    by_cases hf : c.IsFit p
    · exact Or.inr ⟨p, .stays hp hf⟩
    cases hi : (c.successors p).find? c.isInitialized with
    | some n => exact Or.inr ⟨n, .initialized hp hf hi⟩
    | none =>
      cases hc : c.group.contains p.id with
      | true => exact Or.inr ⟨p, .kept hp hf hc hi⟩
      | false =>
        cases hs : c.successors p with
        | cons n ns => exact Or.inr ⟨n, .joined hp hc hi (by rw [hs]; rfl)⟩
        | nil => exact Or.inl fun q hq => by rw [hp] at hq; cases hq; exact ⟨hc, hs⟩

/-- **A hand-over finds the heir.** -/
theorem heir_iff : c.Heir n ↔ c.handOver.primary = some n := by
  refine ⟨Heir.primary_handOver, fun h => ?_⟩
  rcases c.isVacant_or_heir with hv | ⟨m, hm⟩
  · rw [isVacant_iff.1 hv] at h; cases h
  · rw [hm.primary_handOver] at h
    exact Option.some.inj h ▸ hm

/-! ## Election -/

/-- Whom an election makes primary that makes these calls: the first ready member, if it is initialized or its bootstrap
succeeds. -/
inductive Elects (c : Cluster) : List Exchange → Option Node → Prop
  | unready (first : c.group.members.find? c.isReady = none) : Elects c [] none
  | adopted {n : Node} (first : c.group.members.find? c.isReady = some n) (initialized : c.isInitialized n = true) :
      Elects c [] (some n)
  | bootstrapped {n : Node} {a : Answer} (first : c.group.members.find? c.isReady = some n)
      (uninitialized : ¬ c.isInitialized n = true) (done : a.fulfils (.bootstrap n.target) = true) :
      Elects c [⟨.bootstrap n.target, some a⟩] (some n)
  | refused {n : Node} {a : Answer} (first : c.group.members.find? c.isReady = some n)
      (uninitialized : ¬ c.isInitialized n = true) (failed : ¬ a.fulfils (.bootstrap n.target) = true) :
      Elects c [⟨.bootstrap n.target, some a⟩] none

/-- What the outcome of a pass says that elects. -/
structure Announces (c : Cluster) (elected : Option Node) (result : Except Failure Outcome) : Prop where
  elected_iff : ∀ id, result = .ok (.elected id) ↔ ∃ n, elected = some n ∧ n.id = id
  deferred_iff : result = .ok (.deferred .noPrimary) ↔ c.group.members.find? c.isReady = none

theorem announces_nobody (first : c.group.members.find? c.isReady = none) :
    c.Announces none (.ok (.deferred .noPrimary)) :=
  ⟨fun _ => ⟨nofun, fun ⟨_, h, _⟩ => by cases h⟩, fun _ => first, fun _ => rfl⟩

theorem announces_elected (first : c.group.members.find? c.isReady = some n) :
    c.Announces (some n) (.ok (.elected n.id)) :=
  ⟨fun _ => ⟨fun h => by cases h; exact ⟨n, rfl, rfl⟩, fun ⟨_, h, hid⟩ => by cases h; rw [hid]⟩,
    ⟨nofun, fun h => by rw [first] at h; cases h⟩⟩

theorem announces_failure (first : c.group.members.find? c.isReady = some n) (f : Failure) :
    c.Announces none (.error f) :=
  ⟨fun _ => ⟨nofun, fun ⟨_, h, _⟩ => by cases h⟩, ⟨nofun, fun h => by rw [first] at h; cases h⟩⟩

variable {σ : Type*} (take : σ → Call → σ × Answer)

/-- **An undisturbed pass that finds the role vacant** elects. -/
theorem elects_pass (hv : c.handOver.primary = none) (s : σ) :
    c.Elects (c.pass take s).exchanges (c.pass take s).cluster.primary ∧
      c.Announces (c.pass take s).cluster.primary (c.pass take s).result := by
  have hf := frame_handOver c
  have hb := begins c
  rw [pass]
  generalize c.begin = q at hb ⊢
  cases hb with
  | unready vacant first =>
    rw [hf.group, hf.isReady] at first
    have hp : ({ c.handOver with phase := .noPrimary } : Cluster).publish.primary = none := hv
    rw [complete_finish, hp]
    exact ⟨.unready first, announces_nobody first⟩
  | @adopted n vacant first initialized =>
    rw [hf.group, hf.isReady] at first
    rw [hf.isInitialized] at initialized
    rw [assume, complete_finish]
    exact ⟨.adopted first initialized, announces_elected first⟩
  | @bootstraps n vacant first uninitialized =>
    rw [hf.group, hf.isReady] at first
    rw [hf.isInitialized] at uninitialized
    rw [complete_calling]
    by_cases ha : (take s (.bootstrap n.target)).2.fulfils (.bootstrap n.target) = true
    · rw [resume_bootstrapping _ ha, assume, complete_finish]
      exact ⟨.bootstrapped first uninitialized ha, announces_elected first⟩
    · obtain ⟨cause, hc⟩ := resume_bootstrapping_of_failure { c.handOver with phase := .electingPrimary } ha
      have hp : ({ c.handOver with phase := .noPrimary } : Cluster).publish.primary = none := hv
      rw [hc, complete_finish]
      refine ⟨?_, ?_⟩
      · rw [Passage.after, hp]
        exact .refused first uninitialized ha
      · rw [Passage.after, hp]
        exact announces_failure first _
  | awaits primary _ => rw [hv] at primary; cases primary
  | reconciles primary _ => rw [hv] at primary; cases primary

theorem action_ne_bootstrap_of_call? {t : Target} {deed : Deed} {call : Call} (h : deed.call? t = some call) :
    call.action ≠ .bootstrap := by
  cases deed <;> cases h <;> nofun

end Cluster

namespace Passage

variable {σ : Type*} {w : Passage σ} {t : Target} {joined left : List NodeId} {c : Cluster} {ds : List Deed}

theorem GoesThrough.action_ne_bootstrap (h : w.GoesThrough t joined left c ds) :
    ∀ x ∈ w.exchanges, x.call.action ≠ .bootstrap := by
  have hdone : ∀ {done : List Deed} {xs : List Exchange}, xs.map (·.call) = done.filterMap (·.call? t) →
      ∀ x ∈ xs, x.call.action ≠ .bootstrap := by
    intro done xs hx x hmem
    have hc : x.call ∈ done.filterMap (·.call? t) := hx ▸ List.mem_map_of_mem hmem
    obtain ⟨deed, -, hd⟩ := List.mem_filterMap.1 hc
    exact Cluster.action_ne_bootstrap_of_call? hd
  intro x hx
  rcases h with h | ⟨done, broken, rest, -, h⟩
  · obtain ⟨xs, ys, he, hxs, -, hys⟩ := h.exchanges
    rw [he] at hx
    rcases List.mem_append.1 hx with hx | hx
    · exact hdone hxs x hx
    · rw [hys x hx]; nofun
  · obtain ⟨xs, y, he, hxs, -, hy, -⟩ := h.exchanges
    rw [he] at hx
    rcases List.mem_append.1 hx with hx | hx
    · exact hdone hxs x hx
    · rw [List.mem_singleton.1 hx]
      exact Cluster.action_ne_bootstrap_of_call? hy

theorem GoesThrough.result_ne (h : w.GoesThrough t joined left c ds) :
    (∀ id, w.result ≠ .ok (.elected id)) ∧ w.result ≠ .ok (.deferred .noPrimary) := by
  rcases h with h | ⟨done, broken, rest, -, h⟩
  · obtain ⟨committed, rebalanced, hr⟩ := h.result
    rw [hr]
    exact ⟨nofun, nofun⟩
  · obtain ⟨cause, hr⟩ := h.result
    rw [hr]
    exact ⟨nofun, nofun⟩

end Passage

namespace Cluster

variable {c : Cluster} {p : Node} {σ : Type*} (take : σ → Call → σ × Answer)

/-- **An undisturbed pass that finds an heir** leaves the role with it, and elects nobody. -/
theorem keeps_pass (hk : c.group.roster.Keyed) (hp : c.handOver.primary = some p) (s : σ) :
    (c.pass take s).cluster.primary = some p ∧ (∀ x ∈ (c.pass take s).exchanges, x.call.action ≠ .bootstrap) ∧
      (∀ id, (c.pass take s).result ≠ .ok (.elected id)) ∧ (c.pass take s).result ≠ .ok (.deferred .noPrimary) := by
  cases ends take hk s with
  | unready vacant _ _ => rw [hp] at vacant; cases vacant
  | adopted vacant _ _ _ => rw [hp] at vacant; cases vacant
  | bootstrapped vacant _ _ _ => rw [hp] at vacant; cases vacant
  | refused vacant _ _ _ _ _ => rw [hp] at vacant; cases vacant
  | awaits _ _ eq =>
    rw [eq]
    exact ⟨hp, fun _ hx => absurd hx List.not_mem_nil, nofun, nofun⟩
  | reconciles primary _ goes =>
    rw [hp] at primary
    cases primary
    exact ⟨primary_goesThrough hp goes, goes.action_ne_bootstrap, goes.result_ne⟩

/-- **Only an election names whom it elected**, or that nobody was ready. -/
theorem isVacant_of_result (hk : c.group.roster.Keyed) (s : σ)
    (h : (∃ id, (c.pass take s).result = .ok (.elected id)) ∨ (c.pass take s).result = .ok (.deferred .noPrimary)) :
    c.IsVacant := by
  rcases c.isVacant_or_heir with hv | ⟨n, hn⟩
  · exact hv
  · obtain ⟨-, -, he, hd⟩ := keeps_pass take hk hn.primary_handOver s
    rcases h with ⟨id, h⟩ | h
    · exact absurd h (he id)
    · exact absurd h hd

theorem primary_begin (hp : c.handOver.primary = some p) : c.begin.1.primary = some p := by
  have hb := begins c
  generalize c.begin = q at hb ⊢
  cases hb with
  | unready vacant _ => rw [hp] at vacant; cases vacant
  | adopted vacant _ _ => rw [hp] at vacant; cases vacant
  | bootstraps vacant _ _ => rw [hp] at vacant; cases vacant
  | awaits _ _ => exact hp
  | reconciles _ _ => exact (memberWrites_applyDelta_any _ _).primary.trans hp

end Cluster

/-- **Who is primary after a pass.**  However a pass ends that starts after any history, and whatever happens until then:
the heir holds the role, and held it before the first call was answered; where the role was vacant, the first ready
member does if it is initialized or its bootstrap succeeded, and else nobody.  The outcome names the node that was elected
exactly where one was, and says that none was ready exactly where the role was vacant and no member was. -/
theorem succession_exact (config : Config) (stages : Bool) (group : String) (history es : List Event)
    (result : Except Failure Outcome) :
    let m := (Moment.fresh config stages group).run history
    let k := (m.step .reconcile).run es
    m.Returns es result →
      (m.cluster.IsVacant ∨ ∃ n, m.cluster.Heir n) ∧
      (∀ n, m.cluster.Heir n → k.cluster.primary = some n ∧ (m.step .reconcile).cluster.primary = some n ∧
        ∀ x ∈ m.passTrace es, x.call.action ≠ .bootstrap) ∧
      (m.cluster.IsVacant → m.cluster.Elects (m.passTrace es) k.cluster.primary) ∧
      (∀ id, result = .ok (.elected id) ↔ m.cluster.IsVacant ∧ ∃ n, k.cluster.primary = some n ∧ n.id = id) ∧
      (result = .ok (.deferred .noPrimary) ↔
        m.cluster.IsVacant ∧ ∀ n ∈ m.cluster.group.members, ¬ m.cluster.isReady n = true) := by
  intro m k h
  have hs : m.cluster.Sound m.cluster.Involves := Moment.sound_cluster_run config stages group history
  obtain ⟨as, hr, hk, hx⟩ := h.undisturbed
  have hkp : k.cluster.primary = (m.cluster.pass scripted as).cluster.primary := hk.primary
  have elects : m.cluster.IsVacant →
      m.cluster.Announces (m.cluster.pass scripted as).cluster.primary (m.cluster.pass scripted as).result :=
    fun hv => (Cluster.elects_pass scripted (Cluster.isVacant_iff.1 hv) as).2
  have vacant := Cluster.isVacant_of_result scripted hs.group_keyed as
  rw [hkp, hx, ← hr]
  refine ⟨m.cluster.isVacant_or_heir, fun n hn => ?_, fun hv => ?_, fun id => ?_, ?_⟩
  · obtain ⟨hp, hb, -⟩ := Cluster.keeps_pass scripted hs.group_keyed hn.primary_handOver as
    refine ⟨hp, ?_, hb⟩
    rw [Moment.cluster_reconcile h.resting]
    exact Cluster.primary_begin hn.primary_handOver
  · exact (Cluster.elects_pass scripted (Cluster.isVacant_iff.1 hv) as).1
  · constructor
    · intro he
      have hv := vacant (Or.inl ⟨id, he⟩)
      exact ⟨hv, ((elects hv).elected_iff id).1 he⟩
    · rintro ⟨hv, hn⟩
      exact ((elects hv).elected_iff id).2 hn
  · constructor
    · intro he
      have hv := vacant (Or.inr he)
      exact ⟨hv, List.find?_eq_none.1 ((elects hv).deferred_iff.1 he)⟩
    · rintro ⟨hv, hn⟩
      exact (elects hv).deferred_iff.2 (List.find?_eq_none.2 hn)

/-- Three nodes are joined, the last of them is initialized too, and the primary is reported unready. -/
def flagging (a b c : Node) : List Event :=
  [.enter a, .enter b, .enter c, .report a .serviceUp true, .report b .serviceUp true, .report c .serviceUp true,
    .reconcile, .answer .done, .report a .coordinatorInitialized true, .reconcile, .answer .done, .answer .done,
    .answer .done, .report c .coordinatorInitialized true, .report a .serviceUp false]

/-- The unready primary is followed by the last node, which is initialized, though the one before it joined earlier. -/
theorem succession_exact_flagging :
    let a : Node := ⟨0, ⟨"a"⟩, ⟨"h", 1⟩, ⟨"u", "p"⟩⟩
    let b : Node := ⟨1, ⟨"b"⟩, ⟨"h", 2⟩, ⟨"u", "p"⟩⟩
    let c : Node := ⟨2, ⟨"c"⟩, ⟨"h", 3⟩, ⟨"u", "p"⟩⟩
    let m := (Moment.fresh {} false "g").run (flagging a b c)
    let es : List Event := [.report b .serviceUp false, .answer .done]
    m.Returns es (.ok (.reconciled [] [a.id] false false)) ∧ m.cluster.Heir c ∧
      ((m.step .reconcile).run es).cluster.primary = some c ∧ (m.step .reconcile).cluster.primary = some c ∧
      ∀ x ∈ m.passTrace es, x.call.action ≠ .bootstrap :=
  have hh := Cluster.heir_iff.2 (by decide)
  ⟨by decide, hh, (succession_exact {} false "g" _ _ (.ok (.reconciled [] [⟨"a"⟩] false false)) (by decide)).2.1 _ hh⟩

end ClusterMembership
