import ClusterMembership.Proofs.Retries
import ClusterMembership.Proofs.StagedChanges
/-!
# Recoveries

A recovery is checked against what the controller knows (`Cluster.considers`), makes one call, and leaves the records as
they were unless that call succeeds (`Moment.attempts`).  Then its node is recorded as active, and a pass that follows
neither joins it again nor drops it for another reason than it drops any active node (`Cluster.Sound.retains`).
`recovery_all_or_nothing` puts these together.
-/
namespace ClusterMembership

deriving instance DecidableEq for Recovery

namespace Cluster

variable {c k : Cluster} {f s : NodeId} {n p : Node}

/-! ## What a recovery is checked for -/

/-- What becomes of a request to recover `f` through `s`. -/
inductive Considers (c : Cluster) (f s : NodeId) : Except Failure Recovery → Prop
  | unsponsored (unknown : c.active.contains s = false ∨ c.group.contains s = false) :
      Considers c f s (.error (.unknownNode s))
  | unknown (active : c.active.contains s = true) (member : c.group.contains s = true)
      (absent : c.group.contains f = false) (inactive : c.active.contains f = false) :
      Considers c f s (.error (.unknownNode f))
  | refused {sponsor : Node} (cause : String) (active : c.active.get? s = some sponsor)
      (member : c.group.contains s = true) (known : c.group.contains f = true ∨ c.active.contains f = true)
      (unfit : f = s ∨ ¬ c.isReady sponsor = true) : Considers c f s (.error (.recoveryFailed f s cause))
  | accepted {sponsor n : Node} (active : c.active.get? s = some sponsor) (member : c.group.contains s = true)
      (known : c.known? f = some n) (other : f ≠ s) (ready : c.isReady sponsor = true) :
      Considers c f s (.ok ⟨f, s, n, .recover n.target sponsor.target⟩)

theorem sponsor?_eq_none_iff : c.sponsor? s = none ↔ c.active.contains s = false ∨ c.group.contains s = false := by
  rw [sponsor?, Roster.contains_eq_isSome]
  cases c.group.contains s <;> cases c.active.get? s <;> simp

theorem known?_eq_none_iff : c.known? f = none ↔ c.group.contains f = false ∧ c.active.contains f = false := by
  have hg : c.group.contains f = (c.group.get? f).isSome := Roster.contains_eq_isSome c.group.roster f
  rw [known?, hg, Roster.contains_eq_isSome]
  cases c.group.get? f <;> cases c.active.get? f <;> simp

theorem sponsor?_eq_some (h : c.sponsor? s = some n) : c.active.get? s = some n ∧ c.group.contains s = true := by
  unfold sponsor? at h
  split at h
  · next hg => exact ⟨h, hg⟩
  · cases h

theorem contains_of_known? (h : c.known? f = some n) : c.group.contains f = true ∨ c.active.contains f = true := by
  by_contra hn
  rw [not_or, Bool.not_eq_true, Bool.not_eq_true] at hn
  rw [known?_eq_none_iff.2 hn] at h
  cases h

/-- **Every request to recover** comes to one of these. -/
theorem considers (c : Cluster) (f s : NodeId) : c.Considers f s (c.beginRecovery f s) := by
  unfold beginRecovery
  split
  · next hs => exact .unsponsored (sponsor?_eq_none_iff.1 hs)
  · next sponsor hs =>
    obtain ⟨ha, hg⟩ := sponsor?_eq_some hs
    split
    · next hf =>
      obtain ⟨habs, hin⟩ := known?_eq_none_iff.1 hf
      exact .unknown (by rw [Roster.contains_eq_isSome, ha]; rfl) hg habs hin
    · next n hn =>
      split
      · next he => exact .refused _ ha hg (contains_of_known? hn) (Or.inl he)
      · next hne =>
        split
        · next hr => exact .refused _ ha hg (contains_of_known? hn) (Or.inr (by simpa using hr))
        · next hr => exact .accepted ha hg hn hne (by simpa using hr)

/-- What a request to recover is refused for, in the order of the checks. -/
structure Validates (c : Cluster) (f s : NodeId) : Prop where
  unsponsored : c.beginRecovery f s = .error (.unknownNode s) ↔
    c.active.contains s = false ∨ c.group.contains s = false
  unknown : c.active.contains s = true → c.group.contains s = true →
    (c.beginRecovery f s = .error (.unknownNode f) ↔ c.group.contains f = false ∧ c.active.contains f = false)
  refused : ∀ sponsor, c.active.get? s = some sponsor → c.group.contains s = true →
    (c.group.contains f = true ∨ c.active.contains f = true) →
    ((∃ cause, c.beginRecovery f s = .error (.recoveryFailed f s cause)) ↔ f = s ∨ ¬ c.isReady sponsor = true)
  accepted : ∀ sponsor, c.active.get? s = some sponsor → c.group.contains s = true →
    (c.group.contains f = true ∨ c.active.contains f = true) → f ≠ s → c.isReady sponsor = true →
    ∃ n, c.known? f = some n ∧ c.beginRecovery f s = .ok ⟨f, s, n, .recover n.target sponsor.target⟩

theorem validates (c : Cluster) (f s : NodeId) : c.Validates f s := by
  have hc := c.considers f s
  have contains_of_get? : ∀ {n}, c.active.get? s = some n → c.active.contains s = true := fun h => by
    rw [Roster.contains_eq_isSome, h]; rfl
  generalize hq : c.beginRecovery f s = q at hc
  refine ⟨?_, fun ha hg => ?_, fun sponsor hs hg hf => ?_, fun sponsor hs hg hf hne hr => ?_⟩ <;> rw [hq]
  · cases hc with
    | unsponsored unknown => exact iff_of_true rfl unknown
    | unknown active member absent inactive =>
      have hne : f ≠ s := fun he => by rw [he, active] at inactive; cases inactive
      exact iff_of_false (fun h => by cases h; exact hne rfl) (by simp [active, member])
    | refused cause active member known unfit =>
      exact iff_of_false nofun (by simp [contains_of_get? active, member])
    | accepted active member known other ready =>
      exact iff_of_false nofun (by simp [contains_of_get? active, member])
  · cases hc with
    | unsponsored unknown => simp [ha, hg] at unknown
    | unknown active member absent inactive => exact iff_of_true rfl ⟨absent, inactive⟩
    | refused cause active member known unfit =>
      exact iff_of_false nofun (fun ⟨habs, hin⟩ => by simp [habs, hin] at known)
    | accepted active member known other ready =>
      exact iff_of_false nofun (fun h => by rw [known?_eq_none_iff.2 h] at known; cases known)
  · cases hc with
    | unsponsored unknown => simp [contains_of_get? hs, hg] at unknown
    | unknown active member absent inactive => simp [absent, inactive] at hf
    | refused cause active member known unfit =>
      rw [hs] at active
      cases active
      exact iff_of_true ⟨cause, rfl⟩ unfit
    | accepted active member known other ready =>
      rw [hs] at active
      cases active
      exact iff_of_false nofun (fun h => h.elim other (fun hn => hn ready))
  · cases hc with
    | unsponsored unknown => simp [contains_of_get? hs, hg] at unknown
    | unknown active member absent inactive => simp [absent, inactive] at hf
    | refused cause active member known unfit =>
      rw [hs] at active
      cases active
      exact absurd hr (unfit.resolve_left hne)
    | @accepted _ n active member known other ready =>
      rw [hs] at active
      cases active
      exact ⟨n, known, rfl⟩

/-! ## What its call does -/

/-- A node is recorded as active again, and what else there is on record is as it was. -/
structure Readmits (c : Cluster) (n : Node) (k : Cluster) : Prop where
  active : k.active = c.active.insert n.id n
  flagged : k.isActive n = true
  others : ∀ m, m ≠ n → k.isActive m = c.isActive m
  published : k.published.activeCount = k.active.size
  primary : k.primary = c.primary
  phase : k.phase = c.phase
  pendingCommit : k.pendingCommit = c.pendingCommit

theorem finishRecovery_of_failure {r : Recovery} {a : Answer} (hr : r.call.action = .recover)
    (h : ¬ a.fulfils r.call = true) :
    ∃ cause, c.finishRecovery r a = (c, .error (.recoveryFailed r.failed r.sponsor cause)) := by
  rw [← failure?_eq_none_iff r.call (by rw [hr]; nofun) a c.config.actionTimeout] at h
  obtain ⟨cause, hc⟩ := Option.ne_none_iff_exists'.1 h
  exact ⟨cause, by simp only [finishRecovery, hc]⟩

theorem finishRecovery_of_success {r : Recovery} {a : Answer} (hr : r.call.action = .recover)
    (h : a.fulfils r.call = true) : c.finishRecovery r a = ((c.enroll r.failed r.node).publish, .ok ()) := by
  rw [← failure?_eq_none_iff r.call (by rw [hr]; nofun) a c.config.actionTimeout] at h
  simp only [finishRecovery, h]

theorem SameRecords.readmits {c' : Cluster} (h : SameRecords c c') (n : Node) :
    c.Readmits n (c'.enroll n.id n).publish where
  active := congrArg (·.insert n.id n) h.active
  flagged := (isActive_enroll c' n.id n n).trans (if_pos rfl)
  others m hm := (isActive_enroll c' n.id n m).trans ((if_neg hm).trans (h.isActive m))
  published := rfl
  primary := h.primary
  phase := h.phase
  pendingCommit := h.pendingCommit

end Cluster

namespace Moment

/-- What a recovery comes to whose call is answered `a` after the events `es`. -/
def recoveryResult (m : Moment) (r : Recovery) (es : List Event) (a : Answer) : Except Failure Unit :=
  ((m.run (.recover r.failed r.sponsor :: es)).cluster.finishRecovery r a).2

/-- A recovery makes one call, and leaves the records as they were or has its node on record as active. -/
structure Attempts (m : Moment) (r : Recovery) (es : List Event) (a : Answer) (k : Moment) : Prop where
  one_call : m.answered (.recover r.failed r.sponsor :: (es ++ [.answer a])) = [⟨r.call, some a⟩]
  ended : k.activity = .resting
  failed : ¬ a.fulfils r.call = true →
    (∃ cause, m.recoveryResult r es a = .error (.recoveryFailed r.failed r.sponsor cause)) ∧
      Cluster.SameRecords m.cluster k.cluster
  succeeded : a.fulfils r.call = true → m.recoveryResult r es a = .ok () ∧ m.cluster.Readmits r.node k.cluster

theorem answered_of_unanswered {m : Moment} {es : List Event} (hes : ∀ a, .answer a ∉ es) (later : List Event) :
    m.answered (es ++ later) = (m.run es).answered later := by
  induction es generalizing m with
  | nil => rfl
  | cons e es ih =>
    have he : ∀ a, e ≠ .answer a := fun a hea => hes a (hea ▸ List.mem_cons_self)
    rw [List.cons_append, answered_of_ne_answer m he, ih fun a ha => hes a (List.mem_cons_of_mem e ha)]
    rfl

/-- **A recovery is all or nothing**, whatever happens before its call is answered. -/
theorem attempts {known : Node → Prop} {m : Moment} (hs : m.Sound known) (h : m.activity = .resting) {f s : NodeId}
    {r : Recovery} (hr : m.cluster.beginRecovery f s = .ok r) {es : List Event} (hes : ∀ a, .answer a ∉ es)
    (a : Answer) : m.Attempts r es a (m.run (.recover f s :: (es ++ [.answer a]))) := by
  have hfs : r.failed = f ∧ r.sponsor = s := by
    obtain ⟨sp, n, -, -, -, -, rfl⟩ := Cluster.beginRecovery_ok hr
    exact ⟨rfl, rfl⟩
  obtain ⟨rfl, rfl⟩ := hfs
  have hact := Cluster.action_beginRecovery hr
  have hid := (hs.cluster.recovery hr).2
  have hstep : m.step (.recover r.failed r.sponsor) = { m with activity := .recovering r } := by
    simp only [step, recover, h, hr]
  obtain ⟨hbusy, -, hsame⟩ := sameRecords_run (m := { m with activity := .recovering r })
    (fun h => by cases h) hes
  -- the moment when the call is answered
  obtain ⟨k, hk⟩ : ∃ k, k = ({ m with activity := .recovering r } : Moment).run es := ⟨_, rfl⟩
  rw [← hk] at hbusy hsame
  have hresult : m.recoveryResult r es a = (k.cluster.finishRecovery r a).2 := by
    rw [recoveryResult, run_cons, hstep, ← hk]
  have hend : m.run (.recover r.failed r.sponsor :: (es ++ [.answer a])) = k.answer a := by
    rw [run_cons, hstep, run_append, ← hk]
    rfl
  have hanswer : k.answer a = { k with cluster := (k.cluster.finishRecovery r a).1, activity := .resting } := by
    simp only [answer, hbusy]
  rw [hend, hanswer]
  refine ⟨?_, rfl, fun ha => ?_, fun ha => ?_⟩
  · have hcalls : m.answered (.recover r.failed r.sponsor :: (es ++ [.answer a])) = k.answered [.answer a] := by
      rw [answered_of_ne_answer m (fun _ h => by cases h), hstep, answered_of_unanswered hes, ← hk]
    rw [hcalls]
    simp only [answered, exchange?, hbusy]
    rfl
  · obtain ⟨cause, hf⟩ := Cluster.finishRecovery_of_failure (c := k.cluster) hact ha
    rw [hresult, hf]
    exact ⟨⟨cause, rfl⟩, hsame⟩
  · rw [hresult, Cluster.finishRecovery_of_success hact ha, ← hid]
    exact ⟨rfl, Cluster.SameRecords.readmits hsame r.node⟩

theorem action_pending (p : Pending) : p.call.action ≠ .recover := by cases p <;> nofun

/-- **Only a request makes the call of a recovery**: no pass repeats it. -/
theorem recover_of_issued {m : Moment} {e : Event} {call : Call} (h : m.issued e = some call)
    (hc : call.action = .recover) : ∃ f s, e = .recover f s := by
  obtain ⟨c, activity, o⟩ := m
  unfold issued at h
  split at h
  · next ha =>
    cases ha
    obtain ⟨q, hq⟩ := call?_ofProgress_eq_some.1 h
    rw [Cluster.call_begin hq] at hc
    exact absurd hc (action_pending q)
  · next f s _ => exact ⟨f, s, rfl⟩
  · next call' p a ha =>
    cases ha
    obtain ⟨q, hq⟩ := call?_ofProgress_eq_some.1 h
    rw [(Cluster.isDelta_resume c p a).call_eq hq] at hc
    exact absurd hc (action_pending q)
  · cases h

end Moment

/-! ## The pass after it -/

namespace Passage

variable {σ : Type*} {w : Passage σ} {c : Cluster} {p : Node}

theorem Completes.filter_exchanges (h : w.Completes p.target [] [] (c.under p) ((c.under p).deeds p)) :
    (w.exchanges.map (·.call)).filter (·.action = .join) =
      ((c.newcomers p).filter (!c.isActive ·)).map (fun n => .join p.target n.address n.credentials) ∧
    (w.exchanges.map (·.call)).filter (·.action = .leave) = (c.leavers p).map fun n => .leave p.target n.target := by
  obtain ⟨xs, ys, hx, hcalls, -, hys⟩ := h.exchanges
  have hothers : ∀ call ∈ ys.map (·.call), call = .rebalance p.target := fun call hc => by
    obtain ⟨y, hy, rfl⟩ := List.mem_map.1 hc
    exact hys y hy
  rw [hx, List.map_append, hcalls]
  exact c.filter_calls p hothers

/-- **A pass that has done all its deeds** made no other joins than those of newcomers. -/
theorem Completes.join_of_mem (h : w.Completes p.target [] [] (c.under p) ((c.under p).deeds p)) {x : Exchange}
    (hx : x ∈ w.exchanges) (hj : x.call.action = .join) :
    ∃ j ∈ c.newcomers p, x.call = .join p.target j.address j.credentials := by
  have hc : x.call ∈ (w.exchanges.map (·.call)).filter (·.action = .join) :=
    List.mem_filter.2 ⟨List.mem_map_of_mem hx, decide_eq_true hj⟩
  rw [h.filter_exchanges.1] at hc
  obtain ⟨j, hjm, he⟩ := List.mem_map.1 hc
  exact ⟨j, (List.mem_filter.1 hjm).1, he.symm⟩

/-- **A pass that has done all its deeds** made the leaves of the leavers and no others. -/
theorem Completes.leave_iff (h : w.Completes p.target [] [] (c.under p) ((c.under p).deeds p)) {call : Call}
    (hl : call.action = .leave) :
    (∃ x ∈ w.exchanges, x.call = call) ↔ ∃ n ∈ c.leavers p, call = .leave p.target n.target := by
  have hmem : call ∈ (w.exchanges.map (·.call)).filter (·.action = .leave) ↔ ∃ x ∈ w.exchanges, x.call = call := by
    rw [List.mem_filter, List.mem_map, decide_eq_true_eq]
    exact and_iff_left hl
  rw [← hmem, h.filter_exchanges.2, List.mem_map]
  exact exists_congr fun n => and_congr_right fun _ => eq_comm

end Passage

namespace Cluster

variable {known : Node → Prop} {c : Cluster} {p n : Node} {joined left : List NodeId}

/-- A pass under the primary `p` neither joins the active node `n` nor drops it, unless `n` is another node than `p` and
is unready or outside the group. -/
structure Retains (c : Cluster) (p n : Node) (trace : List Exchange) (joined left : List NodeId) : Prop where
  not_joined : n.id ∉ joined
  joins_others : ∀ x ∈ trace, x.call.action = .join →
    ∃ j ∈ c.newcomers p, j.id ≠ n.id ∧ x.call = .join p.target j.address j.credentials
  left_iff : n.id ∈ left ↔ n.id ≠ p.id ∧ (c.group.contains n.id = false ∨ ¬ c.isReady n = true)
  leave_iff : (∃ x ∈ trace, x.call = .leave p.target n.target) ↔
    n.id ≠ p.id ∧ (c.group.contains n.id = false ∨ ¬ c.isReady n = true)

theorem mem_leavers_iff (hn : n ∈ c.active.nodes) :
    n ∈ c.leavers p ↔ n.id ≠ p.id ∧ (c.group.contains n.id = false ∨ ¬ c.isReady n = true) := by
  rw [mem_leavers, and_iff_right hn]
  refine and_congr_right fun _ => ?_
  cases c.group.contains n.id <;> simp

/-- **A pass that reconciles** joins no active node, and drops one only if it is another node than the primary and unready
or outside the group. -/
theorem Sound.retains (h : c.Sound known) (hn : n ∈ c.active.nodes) {σ : Type*} (take : σ → Call → σ × Answer) {s : σ}
    {committed rebalanced : Bool} (hr : (c.pass take s).result = .ok (.reconciled joined left committed rebalanced))
    (hp : (c.pass take s).cluster.primary = some p) : c.Retains p n (c.pass take s).exchanges joined left := by
  obtain ⟨q, hq, -, hj, hl, hw⟩ := completes_of_reconciled take h.group_keyed hr
  obtain rfl : p = q := Option.some.inj (hp.symm.trans (primary_goesThrough hq (.inl hw)))
  have hout : ∀ j ∈ c.newcomers p, j.id ≠ n.id := by
    intro j hj hid
    have hc := h.active_keyed.contains_of_mem hn
    rw [← hid, (mem_newcomers.1 hj).2.2.2] at hc
    cases hc
  have hmem : n.id ∈ left ↔ n ∈ c.leavers p := by
    rw [hl, List.mem_map]
    constructor
    · rintro ⟨m, hm, hid⟩
      exact h.active_keyed.eq_of_id_eq (mem_leavers.1 hm).1 hn hid ▸ hm
    · exact fun hm => ⟨n, hm, rfl⟩
  refine ⟨?_, fun x hxm hxj => ?_, hmem.trans (mem_leavers_iff hn), ?_⟩
  · rw [hj]
    intro hm
    obtain ⟨j, hjm, hid⟩ := List.mem_map.1 hm
    exact hout j hjm hid
  · obtain ⟨j, hjn, he⟩ := hw.join_of_mem hxm hxj
    exact ⟨j, hjn, hout j hjn, he⟩
  · rw [← mem_leavers_iff hn, hw.leave_iff rfl]
    constructor
    · rintro ⟨m, hm, he⟩
      injection he with _ he
      have hid : n.id = m.id := congrArg Target.id he
      exact h.active_keyed.eq_of_id_eq (mem_leavers.1 hm).1 hn hid.symm ▸ hm
    · exact fun hm => ⟨n, hm, rfl⟩

end Cluster

/-- **A recovery is checked, is all or nothing, and stands.**  A controller that is at rest after any history refuses a
request to recover a node for an unknown sponsor, an unknown node, or a sponsor that is the node itself or not ready, in
this order, and then does nothing at all; else it makes one call, whatever happens before that is answered.  If the call
fails, the records stay as they were; if it succeeds, the node is active, and a pass that follows and reconciles under the
same primary does not join it, and drops it only where it is another node than the primary and unready or outside the
group.  No pass makes the call of a recovery again. -/
theorem recovery_all_or_nothing (config : Config) (stages : Bool) (group : String) (history : List Event)
    (f s : NodeId) :
    let m := (Moment.fresh config stages group).run history
    m.activity = .resting →
      m.cluster.Validates f s ∧
      (∀ x, m.cluster.beginRecovery f s = .error x → m.step (.recover f s) = m) ∧
      (∀ r es a, m.cluster.beginRecovery f s = .ok r → (∀ b, .answer b ∉ es) →
        let k := m.run (.recover f s :: (es ++ [.answer a]))
        r.node.id = f ∧ m.Attempts r es a k ∧
        (a.fulfils r.call = true → ∀ p es' joined left committed rebalanced,
          k.Returns es' (.ok (.reconciled joined left committed rebalanced)) →
          ((k.step .reconcile).run es').cluster.primary = some p → k.cluster.Retains p r.node (k.passTrace es') joined left)) ∧
      ∀ later e call, (m.run later).issued e = some call → call.action = .recover → ∃ f' s', e = .recover f' s' := by
  intro m h
  have hs : m.Sound (fun _ => True) :=
    Moment.sound_run (Moment.sound_fresh config stages group) (fun _ _ => trivial)
  refine ⟨m.cluster.validates f s, fun x hx => ?_, fun r es a hr hes => ?_, fun later e call hi hc =>
    Moment.recover_of_issued hi hc⟩
  · simp only [Moment.step, Moment.recover, h, hx]
  · intro k
    obtain ⟨sp, n, -, -, -, -, hreq⟩ := Cluster.beginRecovery_ok hr
    have hid : r.node.id = f := by
      rw [(hs.cluster.recovery hr).2, hreq]
    have hatt : m.Attempts r es a k := Moment.attempts hs h hr hes a
    refine ⟨hid, hatt, fun ha p es' joined left committed rebalanced hret hp => ?_⟩
    have hks : k.Sound (fun _ => True) := Moment.sound_run hs (fun _ _ => trivial)
    have hn : r.node ∈ k.cluster.active.nodes := by
      rw [(hatt.succeeded ha).2.active]
      exact (hs.cluster.active_keyed.mem_nodes_insert).2 (Or.inl rfl)
    obtain ⟨as, hres, halike, htrace⟩ := hret.undisturbed
    rw [htrace]
    exact hks.cluster.retains hn scripted hres (halike.primary ▸ hp)

/-- The request reaches a node that has left the group: the call is carried out, and the next pass, which goes on under
the same primary, drops the node for good. -/
theorem recovery_all_or_nothing_departed :
    let a : Node := ⟨0, ⟨"a"⟩, ⟨"h", 1⟩, ⟨"u", "p"⟩⟩
    let b : Node := ⟨1, ⟨"b"⟩, ⟨"h", 2⟩, ⟨"u", "p"⟩⟩
    let c : Node := ⟨2, ⟨"c"⟩, ⟨"h", 3⟩, ⟨"u", "p"⟩⟩
    let m := (Moment.fresh {} true "g").run (replacement a b c)
    let r : Recovery := ⟨b.id, a.id, b, .recover b.target a.target⟩
    let k := m.run (.recover b.id a.id :: ([.report b .serviceUp true] ++ [.answer .done]))
    let es : List Event := [.answer .done, .answer .done, .answer .done]
    m.activity = .resting ∧ m.cluster.beginRecovery b.id a.id = .ok r ∧
      m.Attempts r [.report b .serviceUp true] .done k ∧
      k.Returns es (.ok (.reconciled [c.id] [b.id] true false)) ∧
      k.cluster.Retains a r.node (k.passTrace es) [c.id] [b.id] :=
  ⟨by decide, by decide,
    ((recovery_all_or_nothing {} true "g" _ _ _ (by decide)).2.2.1 _ _ _ (by decide) (by simp)).2.1, by decide,
    ((recovery_all_or_nothing {} true "g" _ _ _ (by decide)).2.2.1 _ _ _ (by decide) (by simp)).2.2 rfl _ _ _ _ true false
      (by decide) (by decide)⟩

end ClusterMembership
