import ClusterMembership.Proofs.Agreement.Basic
import ClusterMembership.Proofs.Deeds
/-!
# Calls that took effect unseen

A call that was given up may have taken effect all the same, so that the backing cluster has members that the controller
has still to join, and lacks some that it has still to drop.  `Truthful` says of a backing cluster that it does what it is
asked and tells the truth about its members.  Under such a one a join that has landed counts as done, but a leave that has
landed is refused like any other: it breaks the pass, and every later one at the same place (`landed_calls`).
-/
namespace ClusterMembership

/-- A backing cluster that does what a coordinator among its members asks, says that a node that is to join is a member
where it is one, and refuses to drop a node that is none. -/
structure Truthful {σ : Type*} (take : σ → Call → σ × Answer) (member : σ → Address → Prop) : Prop where
  join_known : ∀ s t a credentials, member s t.address → member s a →
    ∃ text, (take s (.join t a credentials)).2 = .refused ⟨.alreadyMember, text⟩
  join_new : ∀ s t a credentials, member s t.address → ¬ member s a → (take s (.join t a credentials)).2 = .done
  member_join : ∀ s t a credentials b, member s t.address →
    (member (take s (.join t a credentials)).1 b ↔ b = a ∨ member s b)
  leave_known : ∀ s t n, member s t.address → member s n.address → n.address ≠ t.address →
    (take s (.leave t n)).2 = .done
  leave_gone : ∀ s t n, member s t.address → ¬ member s n.address → ∃ why, (take s (.leave t n)).2 = .refused why
  member_leave : ∀ s t n b, member s t.address → n.address ≠ t.address →
    (member (take s (.leave t n)).1 b ↔ member s b ∧ b ≠ n.address)
  commit_done : ∀ s t, member s t.address → (take s (.commit t)).2 = .done
  member_commit : ∀ s t b, member s t.address → (member (take s (.commit t)).1 b ↔ member s b)
  member_rebalance : ∀ s t b, member s t.address → (member (take s (.rebalance t)).1 b ↔ member s b)

/-- The node that a deed is about. -/
def Deed.node? : Deed → Option Node
  | .record n => some n
  | .join n => some n
  | .leave n => some n
  | .commit => none

/-! ## The members, call by call -/

namespace Truthful

variable {σ : Type*} {take : σ → Call → σ × Answer} {member : σ → Address → Prop} (hT : Truthful take member) {p : Node}

include hT

/-- **Deeds change the membership of the nodes that they are about**, and of no others. -/
theorem follow {ds : List Deed} : ∀ {xs : List Exchange} {s s' : σ}, Conversation take s xs s' →
    xs.map (·.call) = ds.filterMap (·.call? p.target) → member s p.address →
    (∀ n, .leave n ∈ ds → n.address ≠ p.address) →
    member s' p.address ∧ ∀ b, (∀ d ∈ ds, ∀ n, d.node? = some n → n.address ≠ b) → (member s' b ↔ member s b) := by
  induction ds with
  | nil =>
    intro xs s s' hc hx hm _
    obtain rfl := List.map_eq_nil_iff.1 hx
    cases hc
    exact ⟨hm, fun _ _ => Iff.rfl⟩
  | cons d ds ih =>
    intro xs s s' hc hx hm hp
    have hp' : ∀ n, .leave n ∈ ds → n.address ≠ p.address := fun n hn => hp n (List.mem_cons_of_mem d hn)
    -- the first deed makes one call, or none
    have hcall : ∀ {call : Call}, d.call? p.target = some call → member (take s call).1 p.address →
        (∀ b, (∀ n, d.node? = some n → n.address ≠ b) → (member (take s call).1 b ↔ member s b)) →
        member s' p.address ∧
          ∀ b, (∀ e ∈ d :: ds, ∀ n, e.node? = some n → n.address ≠ b) → (member s' b ↔ member s b) := by
      intro call hd hm' hb
      rw [List.filterMap_cons_some hd] at hx
      obtain ⟨x, xs, rfl, rfl, hxs⟩ := List.map_eq_cons_iff.1 hx
      obtain ⟨hmp, hmb⟩ := ih hc.2 hxs hm' hp'
      exact ⟨hmp, fun b hne => (hmb b (fun e he => hne e (List.mem_cons_of_mem d he))).trans
        (hb b (hne d List.mem_cons_self))⟩
    cases d with
    | record n =>
      obtain ⟨hmp, hmb⟩ := ih hc hx hm hp'
      exact ⟨hmp, fun b hne => hmb b (fun e he => hne e (List.mem_cons_of_mem _ he))⟩
    | join n =>
      refine hcall rfl ((hT.member_join s p.target _ _ _ hm).2 (Or.inr hm)) (fun b hne => ?_)
      rw [hT.member_join s p.target _ _ _ hm]
      exact ⟨fun h => h.resolve_left (fun he => hne n rfl he.symm), Or.inr⟩
    | leave n =>
      have hnp : n.target.address ≠ p.target.address := hp n List.mem_cons_self
      refine hcall rfl ((hT.member_leave s p.target n.target _ hm hnp).2 ⟨hm, hnp.symm⟩) (fun b hne => ?_)
      rw [hT.member_leave s p.target n.target _ hm hnp]
      exact ⟨And.left, fun h => ⟨h, fun he => hne n rfl he.symm⟩⟩
    | commit =>
      exact hcall rfl ((hT.member_commit s p.target _ hm).2 hm) (fun b _ => hT.member_commit s p.target b hm)

theorem join_succeeds {s : σ} (hm : member s p.address) {n : Node} {x : Exchange}
    (hx : x.call = .join p.target n.address n.credentials) (ha : x.answer = some (take s x.call).2) : x.Succeeded := by
  refine ⟨_, ha, ?_⟩
  rw [hx]
  by_cases hn : member s n.address
  · obtain ⟨text, ht⟩ := hT.join_known s p.target n.address n.credentials hm hn
    rw [ht]; rfl
  · rw [hT.join_new s p.target n.address n.credentials hm hn]; rfl

/-- **A leave succeeds for members alone.** -/
theorem leave_succeeds_iff {s : σ} (hm : member s p.address) {n : Node} (hne : n.address ≠ p.address) {x : Exchange}
    (hx : x.call = .leave p.target n.target) (ha : x.answer = some (take s x.call).2) :
    x.Succeeded ↔ member s n.address := by
  constructor
  · rintro ⟨a, hxa, hf⟩
    by_contra hn
    obtain ⟨why, hw⟩ := hT.leave_gone s p.target n.target hm hn
    rw [ha, hx, hw] at hxa
    cases hxa
    rw [hx, Answer.fulfils_refused_iff] at hf
    cases hf.2
  · intro hn
    refine ⟨_, ha, ?_⟩
    rw [hx, hT.leave_known s p.target n.target hm hn hne]; rfl

/-! ## A pass under a truthful backing cluster -/

variable {known : Node → Prop} {c : Cluster}

omit hT in
/-- A leaver is neither the primary nor any of the nodes that come before it. -/
theorem apart (hl : c.Led known p) (ha : DistinctAddresses known) {before after : List Deed} {n : Node}
    (hds : c.deeds p = before ++ .leave n :: after) :
    (∀ m, .leave m ∈ c.deeds p → m.address ≠ p.address) ∧
    ∀ d ∈ before, ∀ m, d.node? = some m → m.address ≠ n.address := by
  have hjoin := Cluster.filterMap_joiner?_deeds c p
  have hleave := Cluster.filterMap_leaver?_deeds c p
  have hmem : ∀ {m}, .leave m ∈ c.deeds p → m ∈ c.leavers p := fun hm =>
    hleave ▸ List.mem_filterMap.2 ⟨_, hm, rfl⟩
  have hn : n ∈ c.leavers p := hmem (by rw [hds]; exact List.mem_append_right _ List.mem_cons_self)
  have hnk : known n := hl.sound.active_known n (Cluster.mem_leavers.1 hn).1
  refine ⟨fun m hm he => ?_, fun d hd m hdm he => ?_⟩
  · obtain ⟨hma, hne, -⟩ := Cluster.mem_leavers.1 (hmem hm)
    exact hne (congrArg Node.id (ha m p (hl.sound.active_known m hma) hl.primary_known he))
  · -- a node to join is not active, and no leaver is on the list twice
    have hjoiner : ∀ {m}, m ∈ c.joiners → m.address ≠ n.address := by
      intro m hm he
      obtain ⟨hmg, -, hmc⟩ := Cluster.mem_joiners.1 hm
      obtain rfl := ha m n (hl.sound.members_known m hmg) hnk he
      rw [hl.sound.active_keyed.contains_of_mem (Cluster.mem_leavers.1 hn).1] at hmc
      cases hmc
    have hin : d ∈ c.deeds p := by rw [hds]; exact List.mem_append_left _ hd
    cases d with
    | record k => cases hdm; exact hjoiner (hjoin ▸ List.mem_filterMap.2 ⟨_, hin, rfl⟩) he
    | join k => cases hdm; exact hjoiner (hjoin ▸ List.mem_filterMap.2 ⟨_, hin, rfl⟩) he
    | leave k =>
      cases hdm
      have hmn : m = n := ha m n (hl.sound.active_known m (Cluster.mem_leavers.1 (hmem hin)).1) hnk he
      have hnd : (c.leavers p).Nodup := List.Nodup.of_map _ (hl.sound.nodup_leavers p)
      rw [← hleave, hds, List.filterMap_append, List.nodup_append] at hnd
      exact hnd.2.2 m (List.mem_filterMap.2 ⟨_, hd, rfl⟩) n List.mem_cons_self hmn
    | commit => cases hdm

/-- **Only members have left**: a leave that a pass got done was one of a member. -/
theorem member_of_left (hl : c.Led known p) (ha : DistinctAddresses known) {before after after' : List Deed} {n : Node}
    (hds : c.deeds p = before ++ .leave n :: after) {xs : List Exchange} {s s' : σ} (hc : Conversation take s xs s')
    (hx : xs.map (·.call) = (before ++ .leave n :: after').filterMap (·.call? p.target)) (hs : ∀ x ∈ xs, x.Succeeded)
    (hm : member s p.address) : member s n.address := by
  obtain ⟨hleave, hbefore⟩ := apart hl ha hds
  rw [List.filterMap_append] at hx
  obtain ⟨xs₁, ys, rfl, hx₁, hys⟩ := List.map_eq_append_iff.1 hx
  obtain ⟨y, xs₂, rfl, hy, -⟩ := List.map_eq_cons_iff.1 hys
  obtain ⟨s₁, hc₁, hya, -⟩ := (conversation_append take).1 hc
  obtain ⟨hm₁, hsame⟩ := hT.follow hc₁ hx₁ hm
    (fun m hmem => hleave m (by rw [hds]; exact List.mem_append_left _ hmem))
  have hne : n.address ≠ p.address :=
    hleave n (by rw [hds]; exact List.mem_append_right _ List.mem_cons_self)
  rw [← hsame n.address hbefore]
  exact (hT.leave_succeeds_iff hm₁ hne hy hya).1 (hs y (List.mem_append_right _ List.mem_cons_self))

/-- **What breaks a pass** is a leave of a node that is no member. -/
theorem broken_leave (hl : c.Led known p) (ha : DistinctAddresses known) {done rest : List Deed} {broken : Deed}
    (hds : c.deeds p = done ++ broken :: rest) {w : Passage σ} {s : σ}
    (hc : Conversation take s w.exchanges w.backing) (hw : w.BreaksAt p.target c done broken)
    (hm : member s p.address) :
    ∃ n, broken = .leave n ∧ ¬ member s n.address ∧ member w.backing p.address ∧ ¬ member w.backing n.address := by
  obtain ⟨xs, y, hwx, hx, -, hy, hfail⟩ := hw.exchanges
  rw [hwx] at hc
  obtain ⟨s₁, hc₁, hya, hend⟩ := (conversation_append take).1 hc
  have hmem : ∀ {m}, .leave m ∈ c.deeds p → m.address ≠ p.address := by
    intro m hm
    obtain ⟨before, after, hsplit⟩ := List.append_of_mem hm
    exact (apart hl ha hsplit).1 m hm
  obtain ⟨hm₁, hsame⟩ := hT.follow hc₁ hx hm
    (fun m hin => hmem (by rw [hds]; exact List.mem_append_left _ hin))
  have hcall : ∀ {call}, broken.call? p.target = some call → y.call = call := fun hb =>
    Option.some.inj (hy.symm.trans hb)
  cases broken with
  | record n => cases hy
  | join n => exact absurd (hT.join_succeeds hm₁ (hcall rfl) hya) hfail
  | commit =>
    refine absurd ⟨_, hya, ?_⟩ hfail
    rw [hcall rfl, hT.commit_done s₁ p.target hm₁]; rfl
  | leave n =>
    have hne : n.address ≠ p.address := hmem (by rw [hds]; exact List.mem_append_right _ List.mem_cons_self)
    have hn₁ : ¬ member s₁ n.address := fun h => hfail ((hT.leave_succeeds_iff hm₁ hne (hcall rfl) hya).2 h)
    have hback : w.backing = (take s₁ (.leave p.target n.target)).1 := by
      rw [← hcall rfl]; exact hend
    have hkeep := fun b => hT.member_leave s₁ p.target n.target b hm₁ hne
    refine ⟨n, rfl, ?_, ?_, ?_⟩
    · rwa [← hsame n.address (apart hl ha hds).2]
    · rw [hback]; exact (hkeep p.address).2 ⟨hm₁, hne.symm⟩
    · rw [hback]; exact fun h => hn₁ ((hkeep n.address).1 h).1

/-- **What comes of a pass**: all is done, and all that left were members; or it breaks at a leave of a node that is no
member, and all that left before were members. -/
theorem pass_cases (h : c.Sound known) (hd : DistinctIds known) (ha : DistinctAddresses known)
    (hp : c.handOver.primary = some p) (hi : c.isInitialized p = true) {s : σ} (hm : member s p.address) :
    let w := c.pass take s
    (w.Completes p.target [] [] (c.under p) ((c.under p).deeds p) ∧ ∀ n ∈ c.leavers p, member s n.address) ∨
    ∃ done n rest, (c.under p).deeds p = done ++ .leave n :: rest ∧ w.BreaksAt p.target (c.under p) done (.leave n) ∧
      (∀ m, .leave m ∈ done → member s m.address) ∧ ¬ member s n.address ∧
      member w.backing p.address ∧ ¬ member w.backing n.address := by
  intro w
  have hl : (c.under p).Led known p := h.led_under hd hp
  have hc : Conversation take s w.exchanges w.backing := conversation_complete take s c.begin
  have hg : w.GoesThrough p.target [] [] (c.under p) ((c.under p).deeds p) :=
    c.goesThrough_pass take h.group_keyed hp hi s
  rcases hg with hw | ⟨done, broken, rest, hds, hw⟩
  · refine Or.inl ⟨hw, fun n hn => ?_⟩
    obtain ⟨xs, ys, hwx, hx, hs, -⟩ := hw.exchanges
    rw [hwx] at hc
    obtain ⟨s₁, hc₁, -⟩ := (conversation_append take).1 hc
    rw [← c.leavers_under p, ← Cluster.filterMap_leaver?_deeds, List.mem_filterMap] at hn
    obtain ⟨deed, hdeed, hn⟩ := hn
    cases deed <;> cases hn
    obtain ⟨before, after, hsplit⟩ := List.append_of_mem hdeed
    exact hT.member_of_left hl ha hsplit hc₁ (by rw [← hsplit]; exact hx) hs hm
  · obtain ⟨n, rfl, hn, hmp, hmn⟩ := hT.broken_leave hl ha hds hc hw hm
    refine Or.inr ⟨done, n, rest, hds, hw, fun m hmd => ?_, hn, hmp, hmn⟩
    obtain ⟨xs, y, hwx, hx, hs, -, -⟩ := hw.exchanges
    rw [hwx] at hc
    obtain ⟨s₁, hc₁, -⟩ := (conversation_append take).1 hc
    obtain ⟨before, after, rfl⟩ := List.append_of_mem hmd
    rw [List.append_assoc] at hds
    exact hT.member_of_left hl ha hds hc₁ hx hs hm

/-- **A leave that has landed breaks every pass**: the next one finds the same work and fails at the same call. -/
theorem stalls (h : c.Sound known) (hd : DistinctIds known) (ha : DistinctAddresses known) (hk : c.Keeps p)
    (hi : c.isInitialized p = true) (hu : c.under p = c) (hpub : c.publish = c) {n : Node} {rest : List Deed}
    (hds : c.deeds p = .leave n :: rest) {s : σ} (hm : member s p.address) (hn : ¬ member s n.address) (i : Nat) :
    (∃ cause, (c.passage take s i).result = .error (.actionFailed .leave n.id cause)) ∧
      (c.passage take s i).cluster = c ∧ member (c.passage take s i).backing p.address ∧
      ¬ member (c.passage take s i).backing n.address := by
  have hone : ∀ {s : σ}, member s p.address → ¬ member s n.address →
      (∃ cause, (c.pass take s).result = .error (.actionFailed .leave n.id cause)) ∧ (c.pass take s).cluster = c ∧
        member (c.pass take s).backing p.address ∧ ¬ member (c.pass take s).backing n.address := by
    intro s hm hn
    have hp : c.handOver.primary = some p := by rw [hk.handOver_eq]; exact hk.primary
    rcases hT.pass_cases h hd ha hp hi hm with ⟨-, hall⟩ | ⟨done, k, after, hsplit, hw, hdone, -, hmp, hmk⟩
    · refine absurd (hall n ?_) hn
      rw [← Cluster.filterMap_leaver?_deeds, hds]
      exact List.mem_cons_self
    · rw [hu, hds] at hsplit
      rw [hu] at hw
      cases done with
      | nil =>
        cases hsplit
        obtain ⟨cause, hr⟩ := hw.result
        exact ⟨⟨cause, hr⟩, hw.cluster.trans hpub, hmp, hmk⟩
      | cons deed done =>
        cases hsplit
        exact absurd (hdone n List.mem_cons_self) hn
  induction i with
  | zero => exact hone hm hn
  | succ i ih =>
    obtain ⟨-, hcl, hmp, hmn⟩ := ih
    rw [Cluster.passage_succ, hcl]
    exact hone hmp hmn

end Truthful

/-! ## A simulated cluster tells the truth -/

namespace SimulatedCluster

open Simulated

/-- Nothing was asked of the cluster that keeps it from doing what a call asks for. -/
structure Compliant (s : SimulatedCluster) : Prop where
  failNext : s.failNext = []
  failAlways : s.failAlways = []
  refused : s.refused = []
  expected : s.expected = none
  latency : s.latency = 0
  orderly : s.Orderly

variable {s : SimulatedCluster}

theorem compliant_change (h : s.Compliant) (x : Change) : (s.change x).Compliant := by
  have hkept : (s.change x).failNext = s.failNext ∧ (s.change x).failAlways = s.failAlways ∧
      (s.change x).refused = s.refused ∧ (s.change x).expected = s.expected ∧ (s.change x).latency = s.latency := by
    unfold change; split <;> exact ⟨rfl, rfl, rfl, rfl, rfl⟩
  obtain ⟨hn, ha, hr, he, hl⟩ := hkept
  exact ⟨hn.trans h.failNext, ha.trans h.failAlways, hr.trans h.refused, he.trans h.expected, hl.trans h.latency,
    orderly_change h.orderly x⟩

theorem compliant_carryOut (h : s.Compliant) (call : Call) : (s.carryOut call).Compliant := by
  cases call with
  | bootstrap node => exact ⟨h.1, h.2, h.3, h.4, h.5, fun _ => rfl⟩
  | join t a credentials => exact compliant_change h _
  | leave t n => exact compliant_change h _
  | commit t => exact ⟨h.1, h.2, h.3, h.4, h.5, fun _ => rfl⟩
  | rebalance t => exact h
  | recover failed sponsor => exact ⟨h.1, h.2, h.3, h.4, h.5, h.6⟩

theorem compliant_record (h : s.Compliant) (call : Call) : (s.record call).Compliant := ⟨h.1, h.2, h.3, h.4, h.5, h.6⟩

/-- **A compliant cluster does what it is asked** unless something stands against it. -/
theorem performWithin_of_compliant (h : s.Compliant) (limit : Span) (call : Call) :
    s.performWithin limit call =
      match s.objection? call with
      | some why => (s.record call, .refused why.refusal, 0)
      | none => ((s.record call).carryOut call, .done, 0) := by
  have hobj : (s.record call).objection? call = s.objection? call := by cases call <;> rfl
  have htake : (s.record call).takeFailure call.action = (s.record call, none) := by
    have ha : (s.record call).failAlways = [] := h.failAlways
    have hn : (s.record call).failNext = [] := h.failNext
    simp [takeFailure, outstanding, ha, hn]
  unfold performWithin perform answer
  rw [if_pos (Or.inl h.latency), htake]
  simp only [hobj]
  cases ho : s.objection? call with
  | some why =>
    show (s.record call, Answer.refused why.refusal, s.latency) = _
    rw [h.latency]
  | none =>
    show ((s.record call).carryOut call, Answer.done, ((s.record call).carryOut call).latency) = _
    rw [(compliant_carryOut (compliant_record h call) call).latency]

theorem compliant_performWithin (h : s.Compliant) (limit : Span) (call : Call) :
    (s.performWithin limit call).1.Compliant := by
  rw [performWithin_of_compliant h]
  cases s.objection? call with
  | some why => exact compliant_record h call
  | none => exact compliant_carryOut (compliant_record h call) call

/-- A compliant cluster as it answers its controller. -/
def takeCompliant (limit : Span) (s : { s : SimulatedCluster // s.Compliant }) (call : Call) :
    { s : SimulatedCluster // s.Compliant } × Answer :=
  (⟨(s.1.performWithin limit call).1, compliant_performWithin s.2 limit call⟩, (s.1.performWithin limit call).2.1)

theorem objection?_join (h : s.Compliant) {t : Target} (ht : t.address ∈ s.effective) (a : Address)
    (credentials : Credentials) :
    s.objection? (.join t a credentials) = if a ∈ s.effective then some (.alreadyMember a.text) else none := by
  simp [objection?, h.refused, h.expected, ht]

theorem objection?_leave {t n : Target} (ht : t.address ∈ s.effective) (hne : n.address ≠ t.address) :
    s.objection? (.leave t n) =
      if n.address ∈ s.effective then none else some (.leaveRejected (n.address.text ++ " is not a member")) := by
  have hlen : n.address ∈ s.effective → s.effective.length ≠ 1 := by
    intro hn hl
    obtain ⟨a, ha⟩ := List.length_eq_one_iff.1 hl
    rw [ha, List.mem_singleton] at ht hn
    exact hne (hn.trans ht.symm)
  by_cases hn : n.address ∈ s.effective
  · simp [objection?, hn, hlen hn]
  · simp [objection?, hn]

/-- **A simulated cluster that nothing is asked of tells the truth**, about the members as they are planned. -/
theorem truthful_takeCompliant (limit : Span) : Truthful (takeCompliant limit) fun s a => a ∈ s.1.effective where
  join_known := by
    intro s t a credentials ht ha
    refine ⟨(Reason.alreadyMember a.text).message, ?_⟩
    simp only [takeCompliant, performWithin_of_compliant s.2, objection?_join s.2 ht, if_pos ha]
    rfl
  join_new := by
    intro s t a credentials ht ha
    simp only [takeCompliant, performWithin_of_compliant s.2, objection?_join s.2 ht, if_neg ha]
  member_join := by
    intro s t a credentials b ht
    simp only [takeCompliant, performWithin_of_compliant s.2, objection?_join s.2 ht]
    by_cases ha : a ∈ s.1.effective
    · rw [if_pos ha]
      exact ⟨Or.inr, fun h => h.elim (fun he => he ▸ ha) id⟩
    · rw [if_neg ha]
      show b ∈ ((s.1.record _).change (.join a)).effective ↔ _
      rw [effective_change (compliant_record s.2 _).orderly, applyChange, mem_including]
      exact Iff.rfl
  leave_known := by
    intro s t n ht hn hne
    simp only [takeCompliant, performWithin_of_compliant s.2, objection?_leave ht hne, if_pos hn]
  leave_gone := by
    intro s t n ht hn
    have hne : n.address ≠ t.address := fun he => hn (he ▸ ht)
    simp only [takeCompliant, performWithin_of_compliant s.2, objection?_leave ht hne, if_neg hn]
    exact ⟨_, rfl⟩
  member_leave := by
    intro s t n b ht hne
    simp only [takeCompliant, performWithin_of_compliant s.2, objection?_leave ht hne]
    by_cases hn : n.address ∈ s.1.effective
    · rw [if_pos hn]
      show b ∈ ((s.1.record _).change (.leave n.address)).effective ↔ _
      rw [effective_change (compliant_record s.2 _).orderly, applyChange, mem_excluding]
      exact Iff.rfl
    · rw [if_neg hn]
      exact ⟨fun hb => ⟨hb, fun he => hn (he ▸ hb)⟩, And.left⟩
  commit_done := by
    intro s t _
    simp only [takeCompliant, performWithin_of_compliant s.2, objection?]
  member_commit := by
    intro s t b _
    simp only [takeCompliant, performWithin_of_compliant s.2, objection?]
    exact Iff.rfl
  member_rebalance := by
    intro s t b _
    simp only [takeCompliant, performWithin_of_compliant s.2, objection?]
    exact Iff.rfl

end SimulatedCluster

/-- **Landed joins are taken over, and landed leaves stall.**  Under a backing cluster that tells the truth, whatever its
members are, a pass under an initialized primary takes all ready members in, those too whose join has landed already.  If
all the nodes that it has to drop are members still, it brings the membership in line.  But if one of them has left
already, the pass fails at the first such one, drops none of those after it and commits nothing; and every later pass
under that primary fails there again and changes nothing. -/
theorem landed_calls (config : Config) (stages : Bool) (group : String) (history : List Event) {σ : Type*}
    {take : σ → Call → σ × Answer} {member : σ → Address → Prop} (hT : Truthful take member) (s : σ) (p : Node)
    (hd : DistinctIds ((Moment.fresh config stages group).run history).cluster.Involves)
    (ha : DistinctAddresses ((Moment.fresh config stages group).run history).cluster.Involves)
    (hp : ((Moment.fresh config stages group).run history).cluster.handOver.primary = some p)
    (hi : ((Moment.fresh config stages group).run history).cluster.isInitialized p = true)
    (hm : member s p.address) :
    let c := ((Moment.fresh config stages group).run history).cluster
    let w := c.passage take s
    (∀ n ∈ c.group.members, c.isReady n = true → n ∈ (w 0).cluster.active.nodes ∧ (w 0).cluster.isActive n = true) ∧
    ((∀ n ∈ c.leavers p, member s n.address) →
      (∃ joined left committed rebalanced, (w 0).result = .ok (.reconciled joined left committed rebalanced)) ∧
      (w 0).cluster.IsAligned p) ∧
    ((∃ n ∈ c.leavers p, ¬ member s n.address) →
      ∃ done n rest, (c.under p).deeds p = done ++ .leave n :: rest ∧ ¬ member s n.address ∧
        (w 0).BreaksAt p.target (c.under p) done (.leave n) ∧
        (∀ m, .leave m ∈ .leave n :: rest → m ∈ (w 0).cluster.active.nodes) ∧
        (c.handOver.Keeps p → ∀ i, (∃ cause, (w i).result = .error (.actionFailed .leave n.id cause)) ∧
          (w i).cluster = (w 0).cluster)) := by
  intro c w
  have hsound : c.Sound c.Involves := Moment.sound_cluster_run config stages group history
  have hl : (c.under p).Led c.Involves p := hsound.led_under hd hp
  have hf := (hsound.writes_pass take s).frame
  have hsw : (w 0).cluster.Sound c.Involves := hsound.writes (hsound.writes_pass take s)
  rcases hT.pass_cases hsound hd ha hp hi hm with ⟨hw, hall⟩ | ⟨done, n, rest, hds, hw, -, hn, hmp, hmn⟩
  · obtain ⟨-, hl', hnil⟩ := hl.deeds_of_done (List.append_nil _).symm
    have hal : (w 0).cluster.IsAligned p := by
      have hcl : (w 0).cluster = _ := hw.cluster
      rw [hcl]; exact hl'.isAligned hnil
    refine ⟨fun n hng hr => ?_, fun _ => ⟨?_, hal⟩, fun ⟨n, hnl, hn⟩ => absurd (hall n hnl) hn⟩
    · have hna : n ∈ (w 0).cluster.active.nodes := (hal n).2 (Or.inr ⟨hf.group ▸ hng, hf.isReady ▸ hr⟩)
      exact ⟨hna, hsw.flagged n hna⟩
    · obtain ⟨committed, rebalanced, hr⟩ := hw.result
      exact ⟨_, _, committed, rebalanced, hr⟩
  · obtain ⟨hm', hl', hrest⟩ := hl.deeds_of_done hds
    have hf' := (c.frame_under p).trans hm'.frame
    have hcl : (w 0).cluster = ((c.under p).performAll done).publish := hw.cluster
    refine ⟨fun k hk hr => ?_, fun hall => absurd (hall n ?_) hn, fun _ => ?_⟩
    · have hka : k ∈ (w 0).cluster.active.nodes := by
        rw [hcl]
        exact hl'.mem_active (Cluster.joiners_eq_nil_of_leave hrest) (hf'.group ▸ hk) (hf'.isReady ▸ hr)
      exact ⟨hka, hsw.flagged k hka⟩
    · rw [← c.leavers_under p, ← Cluster.filterMap_leaver?_deeds, hds]
      exact List.mem_filterMap.2 ⟨_, List.mem_append_right _ List.mem_cons_self, rfl⟩
    · refine ⟨done, n, rest, hds, hn, hw, fun k hk => ?_, fun hkeeps i => ?_⟩
      · rw [← hrest] at hk
        have hkl : k ∈ ((c.under p).performAll done).leavers p :=
          Cluster.filterMap_leaver?_deeds _ p ▸ List.mem_filterMap.2 ⟨_, hk, rfl⟩
        rw [hcl]
        exact (Cluster.mem_leavers.1 hkl).1
      · obtain ⟨hkw, hu, -, hdw⟩ := hsound.after_break hd hkeeps hds hw
        cases i with
        | zero =>
          obtain ⟨cause, hr⟩ := hw.result
          exact ⟨⟨cause, hr⟩, rfl⟩
        | succ i =>
          have hpub : (w 0).cluster.publish = (w 0).cluster := by rw [hcl]; rfl
          obtain ⟨hr, hcl', -⟩ := hT.stalls hsw hd ha hkw (hf.isInitialized ▸ hi) hu hpub hdw hmp hmn i
          have hshift : w (i + 1) = _ := c.passage_succ' take s i
          rw [hshift]
          exact ⟨hr, hcl'⟩

instance (c : Cluster) : Decidable (DistinctAddresses c.Involves) :=
  decidable_of_iff (∀ n ∈ c.involved, ∀ m ∈ c.involved, n.address = m.address → n = m) (by
    simp only [Cluster.mem_involved]
    exact ⟨fun h n m hn hm => h n hn m hm, fun h n hn m hm => h n m hn hm⟩)

/-- The join of `d` and the leave of `b` have both landed: the join is taken over, and the leave breaks every pass. -/
theorem landed_calls_replacement :
    let a : Node := ⟨0, ⟨"a"⟩, ⟨"h", 1⟩, ⟨"u", "p"⟩⟩
    let b : Node := ⟨1, ⟨"b"⟩, ⟨"h", 2⟩, ⟨"u", "p"⟩⟩
    let d : Node := ⟨2, ⟨"d"⟩, ⟨"h", 3⟩, ⟨"u", "p"⟩⟩
    let c := ((Moment.fresh {} true "g").run (replacement a b d)).cluster
    ∃ h : SimulatedCluster.Compliant { stages := true, members := [a.address, d.address] },
    let w := c.passage (SimulatedCluster.takeCompliant c.config.actionTimeout) ⟨_, h⟩
    (d ∈ (w 0).cluster.active.nodes ∧ (w 0).cluster.isActive d = true) ∧
    ∃ n ∈ c.leavers a, ∀ i, (∃ cause, (w i).result = .error (.actionFailed .leave n.id cause)) ∧
      n ∈ (w i).cluster.active.nodes := by
  intro a b d c
  have h : SimulatedCluster.Compliant { stages := true, members := [a.address, d.address] } :=
    ⟨rfl, rfl, rfl, rfl, rfl, fun h => by cases h⟩
  refine ⟨h, ?_⟩
  intro w
  have hd : DistinctIds c.Involves := by simp only [c, a, b, d]; decide +kernel
  have ha : DistinctAddresses c.Involves := by simp only [c, a, b, d]; decide +kernel
  have hp : c.handOver.primary = some a := by simp only [c, a, b, d]; decide +kernel
  have hi : c.isInitialized a = true := by simp only [c, a, b, d]; decide +kernel
  have hl : c.leavers a = [b] := by simp only [c, a, b, d]; decide +kernel
  have hready : d ∈ c.group.members ∧ c.isReady d = true := by simp only [c, a, b, d]; decide +kernel
  have hgone : b.address ∉ [a.address, d.address] := by simp only [a, b, d]; decide
  have hkeeps : c.handOver.Keeps a := by
    simp only [c, a, b, d]
    exact ⟨by decide +kernel, by decide +kernel, by decide +kernel⟩
  obtain ⟨hjoined, -, hstall⟩ := landed_calls {} true "g" (replacement a b d)
    (SimulatedCluster.truthful_takeCompliant c.config.actionTimeout) ⟨_, h⟩ a hd ha hp hi List.mem_cons_self
  obtain ⟨done, n, rest, hds, -, -, hactive, hall⟩ := hstall ⟨b, by rw [hl]; exact List.mem_cons_self, hgone⟩
  refine ⟨hjoined d hready.1 hready.2, n, ?_, fun i => ⟨(hall hkeeps i).1, ?_⟩⟩
  · rw [← c.leavers_under a, ← Cluster.filterMap_leaver?_deeds, hds]
    exact List.mem_filterMap.2 ⟨_, List.mem_append_right _ List.mem_cons_self, rfl⟩
  · rw [(hall hkeeps i).2]
    exact hactive n List.mem_cons_self

end ClusterMembership
