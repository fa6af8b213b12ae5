import ClusterMembership.Proofs.FailureKinds
import ClusterMembership.Proofs.RequestScripts
/-!
# The faults of requests

Which kind of failure an operation ends in is read off the step at which it stops (`Blames`): the peer was not reached, or
the time of the request was up, or else the failure is of the action's own kind.  Only a join makes more of it, where the
peer rejects it and says that the node is part of the cluster already.  With what holds of a simulated cluster this is the
contract of both (`failure_kinds_kept`).
-/
namespace ClusterMembership.Rest

variable {α β : Type} {l : Line} {p : Peer} {s : Step} {rest : List Step} {kind : FailureKind}

/-! ## What stands against a step -/

/-- The body of the response does not come, and what the step makes of that is reported: a post waits for any body, and a
request for the pool only for that of a pool. -/
def Step.isLeftWaiting (s : Step) (r : Response) : Bool := r.body = .stalled && (s.form.isSome || r.status = 200)

/-- The step does not reach the peer, or not in time: it has somewhere to go, and no connection comes about, or the
reaction uses up its time. -/
def Step.isUnreached (l : Line) (s : Step) (reaction : Reaction) : Bool :=
  (l.url? s.path).isSome &&
    match reaction with
    | .respond r => s.isLeftWaiting r
    | .hang ms => l.options.requestTimeout < ms
    | .close => false
    | .unconnected _ => true

def Line.faultIf (l : Line) (unreached : Bool) : FailureKind := if unreached then .unreachable else l.action.failureKind

/-- The kind of failure in which a call ends that this step stops. -/
def Step.fault (l : Line) (s : Step) (reaction : Reaction) : FailureKind := l.faultIf (s.isUnreached l reaction)

/-- If the dialogue is refused, it is for such a reason. -/
def RefusedFor (P : Reason → Prop) (x : Except Stop α × Peer) : Prop := ∀ why, x.1 = .error (.refused why) → P why

/-- If the dialogue is refused, the reason is of this kind. -/
abbrev RefusedAs (kind : FailureKind) (x : Except Stop α × Peer) : Prop := RefusedFor (·.kind = kind) x

theorem refusedFor_ok {P : Reason → Prop} (a : α) (p : Peer) : RefusedFor P (.ok a, p) := by
  intro why hx
  cases hx

theorem refusedFor_outOfTime {P : Reason → Prop} (p : Peer) :
    RefusedFor P ((.error .outOfTime, p) : Except Stop α × Peer) := by
  intro why hx
  cases hx

theorem refusedFor_throw {P : Reason → Prop} {why : Reason} (h : P why) :
    RefusedFor P (hold p (throw (.refused why) : Dialogue α)) := by
  intro why' hx
  cases hx
  exact h

theorem RefusedFor.bind {P : Reason → Prop} {d : Dialogue α} (h : RefusedFor P (hold p d)) {k : α → Dialogue β}
    (hk : ∀ a p', hold p d = (.ok a, p') → RefusedFor P (hold p' (k a))) : RefusedFor P (hold p (d >>= k)) := by
  obtain ⟨a | e, p', hd⟩ : ∃ x p', hold p d = (x, p') := ⟨_, _, rfl⟩
  · rw [hold_bind_of_error hd]
    intro why hx
    exact h why (by rw [hd]; exact congrArg _ (Except.error.inj hx))
  · rw [hold_bind_of_ok hd]
    exact hk _ p' hd

/-- A failure in transport is the action's own, unless nobody answered in time. -/
theorem kind_reason (l : Line) (f : TransportFailure) :
    (f.reason l.action l.address).kind =
      l.faultIf (match f with | .unreachable _ => true | .overdue => true | _ => false) := by
  cases f <;> rfl

/-- A body that cannot be read fails the transport: its time is up, or it breaks off. -/
theorem body_refusedFor {P : Reason → Prop} (l : Line) (p : Peer) (r : Response)
    (h : P ((if r.body = .stalled then .overdue else .unreadable : TransportFailure).reason l.action l.address)) :
    RefusedFor P (hold p (l.body r)) := by
  obtain ⟨status, body⟩ := r
  cases body with
  | whole bytes => exact refusedFor_ok bytes p
  | cutOff => exact refusedFor_throw h
  | stalled =>
    refine RefusedFor.bind (d := await l.limit l.options.requestTimeout) ?_ fun _ p' _ => refusedFor_throw h
    obtain ⟨elapsed, ha | ⟨-, ha⟩⟩ := await_cases l.limit l.options.requestTimeout p
    · rw [ha]
      exact refusedFor_ok _ _
    · rw [ha]
      exact refusedFor_outOfTime _

theorem body_refusedAs (l : Line) (p : Peer) (r : Response) :
    RefusedAs (l.faultIf (r.body = .stalled)) (hold p (l.body r)) := by
  refine body_refusedFor l p r ((kind_reason l _).trans ?_)
  by_cases h : r.body = .stalled <;> simp [h]

theorem body_ok {r : Response} {bytes : List UInt8} {p' : Peer} (h : hold p (l.body r) = (.ok bytes, p')) :
    r.body = .whole bytes ∧ p' = p := by
  obtain ⟨status, body⟩ := r
  cases hb : (⟨status, body⟩ : Response).bytes? with
  | none =>
    obtain ⟨e, elapsed, hx, -⟩ := body_of_none l p hb
    rw [hx] at h
    cases h
  | some bytes' =>
    rw [body_of_some l p hb] at h
    cases h
    cases body with
    | whole bytes => cases hb; exact ⟨rfl, rfl⟩
    | _ => cases hb

/-! ## The step at which a dialogue stops -/

/-- If the dialogue is refused, the reason is of the kind of the step at which the steps stop. -/
def Blames (l : Line) (steps : List Step) (p : Peer) (x : Except Stop α × Peer) : Prop :=
  ∀ why, x.1 = .error (.refused why) → ∃ s, steps[progress l steps p.reaction]? = some s ∧
    why.kind = s.fault l (p.reaction (progress l steps p.reaction))

theorem blames_ok (l : Line) (steps : List Step) (p p' : Peer) (a : α) : Blames l steps p (.ok a, p') := by
  intro why hx
  cases hx

theorem blames_of_fails (hs : s.succeeds l (p.reaction 0) = false) {x : Except Stop α × Peer}
    (hx : RefusedAs (s.fault l (p.reaction 0)) x) : Blames l (s :: rest) p x := by
  intro why hw
  rw [progress_of_fails hs]
  exact ⟨s, rfl, hx why hw⟩

theorem blames_of_succeeds (hs : s.succeeds l (p.reaction 0) = true) {x : Except Stop α × Peer}
    (hx : Blames l rest (s.leaves l p) x) : Blames l (s :: rest) p x := by
  intro why hw
  obtain ⟨s', hs', hkind⟩ := hx why hw
  rw [Step.reaction_leaves hs] at hs' hkind
  rw [progress_of_succeeds hs, List.getElem?_cons_succ]
  exact ⟨s', hs', hkind⟩

/-! The fault of a step, by what its request comes to. -/

theorem Step.fault_of_unsent {reaction : Reaction} (hu : l.url? s.path = none) :
    s.fault l reaction = l.action.failureKind := by
  unfold fault isUnreached
  rw [hu]
  rfl

theorem Step.fault_of_answered {url : Url} (hu : l.url? s.path = some url) (r : Response) :
    s.fault l (.respond r) = l.faultIf (s.isLeftWaiting r) := by
  unfold fault isUnreached
  rw [hu]
  rfl

theorem Step.fault_of_unanswered {url : Url} {reaction : Reaction} (hu : l.url? s.path = some url)
    (hx : ∀ r, reaction ≠ .respond r) :
    s.fault l reaction = l.faultIf (reaction.isLost l.options.requestTimeout) := by
  unfold fault isUnreached
  rw [hu]
  cases reaction with
  | respond r => exact absurd rfl (hx r)
  | _ => rfl

/-- A dialogue that begins with the request of a step, and goes on with what is made of the response. -/
theorem blames_exchange (h : p.elapsed = 0) {k : Response → Dialogue α}
    (hno : ∀ r, s.accepts r = false → ∀ p', RefusedAs (l.faultIf (s.isLeftWaiting r)) (hold p' (k r)))
    (hyes : ∀ r, p.reaction 0 = .respond r → s.accepts r = true → ∀ p', p'.elapsed = 0 →
      Blames l rest p' (hold p' (k r))) :
    Blames l (s :: rest) p (hold p (l.exchange s.path s.form >>= k)) := by
  -- Unless the request is answered the step itself is to blame; where it is, the step's verdict decides who is.
  have hx := exchange_spec l s.path s.form h
  generalize he : hold p (l.exchange s.path s.form) = x at hx
  cases hx with
  | unsent hu f hf =>
    refine blames_of_fails (Step.succeeds_of_unsent hu) ?_
    rw [hold_bind_of_error he, Step.fault_of_unsent hu]
    refine refusedFor_throw (p := p) ((kind_reason l f).trans ?_)
    obtain rfl | ⟨url, rfl⟩ := hf <;> rfl
  | answered hu r hx =>
    rw [hold_bind_of_ok he]
    cases ha : s.accepts r with
    | true =>
      refine blames_of_succeeds (Step.succeeds_iff.2 ⟨⟨_, hu⟩, r, hx, ha⟩) ?_
      rw [Step.leaves_of_sent hu]
      exact hyes r hx ha _ h
    | false =>
      refine blames_of_fails (by simp [Step.succeeds, hx, ha]) ?_
      rw [hx, Step.fault_of_answered hu]
      exact hno r ha _
  | unanswered hu hx f hf elapsed =>
    refine blames_of_fails (Step.succeeds_of_unanswered hx) ?_
    rw [hold_bind_of_error he, Step.fault_of_unanswered hu hx]
    refine refusedFor_throw (p := p) ((kind_reason l f).trans ?_)
    rw [hf]
    cases (p.reaction 0).isLost l.options.requestTimeout <;> rfl
  | abandoned hu hx hl elapsed =>
    refine blames_of_fails (Step.succeeds_of_unanswered hx) ?_
    rw [hold_bind_of_error he]
    exact refusedFor_outOfTime _

theorem blames_post (path : String) (form : Text.Form) (h : p.elapsed = 0) {k : Unit → Dialogue Unit}
    (hk : ∀ p', p'.elapsed = 0 → Blames l rest p' (hold p' (k ()))) :
    Blames l (.post path form :: rest) p (hold p (l.post path form >>= k)) := by
  rw [Line.post, bind_assoc]
  refine blames_exchange (s := .post path form) h (fun r hr p' => ?_) (fun r _ hr p' hp => ?_)
  · have hwaiting : (Step.post path form).isLeftWaiting r = decide (r.body = .stalled) := by
      simp [Step.isLeftWaiting, Step.post]
    rw [bind_assoc, hwaiting]
    refine (body_refusedAs l p' r).bind fun bytes p'' hbody => ?_
    obtain ⟨hwhole, -⟩ := body_ok hbody
    have hfails : r.isSuccess = false := by simpa [Step.post, Response.bytes?, hwhole] using hr
    rw [hfails, if_neg Bool.false_ne_true, hwhole]
    refine RefusedFor.bind ?_ fun a p' ha => ?_
    · exact refusedFor_throw rfl
    · cases ha
  · obtain ⟨hs, hb⟩ := Bool.and_eq_true_iff.1 hr
    obtain ⟨bytes, hb⟩ := Option.isSome_iff_exists.1 hb
    rw [bind_assoc, hold_bind_of_ok (body_of_some l p' hb), if_pos hs, pure_bind]
    exact hk p' hp

theorem blames_lastPost (path : String) (form : Text.Form) (h : p.elapsed = 0) :
    Blames l [.post path form] p (hold p (l.post path form)) := by
  rw [← bind_pure (l.post path form)]
  exact blames_post path form h fun p' _ => blames_ok l [] p' p' ()

theorem poolOf_refusedAs (l : Line) (p : Peer) (r : Response) :
    RefusedAs (l.faultIf (Step.noPool.isLeftWaiting r)) (hold p (l.poolOf r)) := by
  unfold Line.poolOf
  by_cases hok : r.status = 200
  · have hwaiting : Step.noPool.isLeftWaiting r = decide (r.body = .stalled) := by
      simp [Step.isLeftWaiting, Step.noPool, hok]
    rw [if_pos hok, hwaiting]
    refine (body_refusedAs l p r).bind fun bytes p' hbody => ?_
    rw [(body_ok hbody).1]
    cases Pool.ofBody? bytes with
    | none => exact refusedFor_throw (kind_reason l .unreadable)
    | some pool => exact refusedFor_ok _ _
  · have hwaiting : Step.noPool.isLeftWaiting r = false := by simp [Step.isLeftWaiting, Step.noPool, hok]
    rw [if_neg hok, hwaiting]
    by_cases hno : r.status = 404
    · rw [if_pos hno]
      exact refusedFor_ok _ _
    · rw [if_neg hno]
      obtain ⟨elapsed, ⟨bytes, hx⟩ | ⟨-, hx⟩⟩ := bodyOrNothing_cases l r p
      · rw [hold_bind_of_ok hx]
        exact refusedFor_throw rfl
      · rw [hold_bind_of_error hx]
        exact refusedFor_outOfTime _

theorem isLeftWaiting_of_pool? {r : Response} {pool : Pool} (h : r.pool? = some pool) :
    Step.noPool.isLeftWaiting r = false := by
  obtain ⟨status, body⟩ := r
  cases body with
  | whole bytes => rfl
  | _ => simp [Response.pool?, Response.bytes?] at h

theorem blames_noPool (h : p.elapsed = 0) {k : Option Pool → Dialogue α}
    (hno : ∀ pool p', RefusedAs l.action.failureKind (hold p' (k (some pool))))
    (hyes : ∀ p', p'.elapsed = 0 → Blames l rest p' (hold p' (k none))) :
    Blames l (.noPool :: rest) p (hold p (l.pool? >>= k)) := by
  rw [l.pool?_eq, bind_assoc]
  refine blames_exchange (s := .noPool) h (fun r hr p' => ?_) (fun r _ hr p' hp => ?_)
  · refine (poolOf_refusedAs l p' r).bind fun served p'' hserved => ?_
    obtain ⟨pool, hpool, hx⟩ | ⟨h404, -⟩ | ⟨-, -, e, elapsed, hx, -⟩ := poolOf_cases l r p'
    · cases hserved.symm.trans hx
      rw [isLeftWaiting_of_pool? hpool]
      exact hno pool p'
    · exact absurd h404 (of_decide_eq_false hr)
    · cases hserved.symm.trans hx
  · have h404 : r.status = 404 := of_decide_eq_true hr
    obtain ⟨pool, hpool, -⟩ | ⟨-, -, hx⟩ | ⟨hne, -⟩ := poolOf_cases l r p'
    · rw [Response.pool?, if_neg (by omega)] at hpool
      cases hpool
    · rw [hold_bind_of_ok hx]; exact hyes p' hp
    · exact absurd h404 hne

theorem blames_pool (h : p.elapsed = 0) {wanted : Pool → Bool} {k : Pool → Dialogue α}
    (hno : ∀ pool, wanted pool = false → ∀ p', RefusedAs l.action.failureKind (hold p' (k pool)))
    (hyes : wanted p.pool = true → ∀ p', p'.elapsed = 0 → Blames l rest p' (hold p' (k p.pool))) :
    Blames l (.pool wanted :: rest) p (hold p (l.pool >>= k)) := by
  rw [Line.pool, l.pool?_eq, bind_assoc, bind_assoc]
  refine blames_exchange (s := .pool wanted) h (fun r hr p' => ?_) (fun r hx hr p' hp => ?_)
  · refine (poolOf_refusedAs l p' r).bind fun served p'' hserved => ?_
    obtain ⟨pool, hpool, hx⟩ | ⟨h404, -, hx⟩ | ⟨-, -, e, elapsed, hx, -⟩ := poolOf_cases l r p'
    · have hw : wanted pool = false := by simpa [Step.pool, hpool] using hr
      cases hserved.symm.trans hx
      rw [pure_bind, isLeftWaiting_of_pool? hpool]
      exact hno pool hw p'
    · have hwaiting : Step.noPool.isLeftWaiting r = false := by simp [Step.isLeftWaiting, Step.noPool, h404]
      cases hserved.symm.trans hx
      rw [hwaiting]
      refine RefusedFor.bind ?_ fun a p' ha => ?_
      · exact refusedFor_throw rfl
      · cases ha
    · cases hserved.symm.trans hx
  · obtain ⟨pool, hpool, hw⟩ := (Option.any_eq_true _ _).1 hr
    obtain ⟨pool', hpool', hx'⟩ | ⟨-, hn, -⟩ | ⟨-, hn, -⟩ := poolOf_cases l r p'
    · obtain rfl : pool = pool' := Option.some.inj (hpool.symm.trans hpool')
      have hserved : p.pool = pool := Peer.pool_of_respond hx hpool
      rw [hold_bind_of_ok hx', pure_bind, ← hserved]
      exact hyes (hserved ▸ hw) p' hp
    · rw [hn] at hpool; cases hpool
    · rw [hn] at hpool; cases hpool

/-- **A call other than a join blames the step at which it stops.** -/
theorem blames_dialogue (options : Options) (limit : Option Nat) {c : Call} (hc : c.action ≠ .join)
    (h : p.elapsed = 0) :
    Blames (lineOf options limit c) (steps options p.pool c) p (hold p (dialogue options limit c)) := by
  cases c with
  | join => exact absurd rfl hc
  | bootstrap node =>
    refine blames_noPool h (fun pool p' => refusedFor_throw rfl) (fun p' hp => ?_)
    exact blames_post _ _ hp fun p' hp => blames_lastPost _ _ hp
  | leave t leaving =>
    refine blames_pool h (fun pool hw p' => ?_) (fun hw p' hp => ?_)
    · cases hfind : pool.find? leaving.address with
      | none => exact refusedFor_throw rfl
      | some node =>
        have hlen : pool.nodes.length = 1 := by
          have hpos := one_le_length_of_find? hfind
          simp [hfind] at hw
          omega
        simp only [if_pos hlen]
        exact refusedFor_throw rfl
    · obtain ⟨hfind, hlen⟩ := Bool.and_eq_true_iff.1 hw
      obtain ⟨node, hfind⟩ := Option.isSome_iff_exists.1 hfind
      have hlen : ¬p.pool.nodes.length = 1 := by
        have := of_decide_eq_true hlen
        omega
      rw [hfind]
      simp only [if_neg hlen]
      exact blames_lastPost _ _ hp
  | commit t => exact blames_ok _ [] p p ()
  | rebalance t =>
    refine blames_pool h (fun pool hw p' => nomatch hw) (fun hw p' hp => ?_)
    exact blames_lastPost _ _ hp
  | recover failed sponsor =>
    refine blames_pool h (fun pool hw p' => ?_) (fun hw p' hp => ?_)
    · rw [Option.isSome_eq_false_iff, Option.isNone_iff_eq_none] at hw
      rw [hw]
      exact refusedFor_throw rfl
    · obtain ⟨node, hfind⟩ := Option.isSome_iff_exists.1 hw
      rw [hfind]
      exact blames_post _ _ hp fun p' hp => blames_post _ _ hp fun p' hp => blames_lastPost _ _ hp

/-! ## Joins -/

theorem hasPart_iff {part cs : List Char} : hasPart part cs = true ↔ part <:+: cs := by
  induction cs with
  | nil => rw [hasPart, List.isEmpty_iff, List.infix_nil]
  | cons c cs ih => rw [hasPart, Bool.or_eq_true, List.isPrefixOf_iff_prefix, ih, List.infix_cons_iff]

/-- The line's request for a path is answered with this response. -/
def Line.Gets (l : Line) (p : Peer) (path : String) (r : Response) : Prop :=
  (∃ url, l.url? path = some url) ∧ p.reaction 0 = .respond r

/-- The line's request for a path is rejected with the words that a member is told. -/
def Line.IsToldMember (l : Line) (p : Peer) (path : String) : Prop :=
  ∃ bytes, l.Gets p path ⟨400, .whole bytes⟩ ∧ "already part of cluster".toList <:+: (Text.lossy bytes).toList

theorem gets_of_exchange {path : String} {form : Option Text.Form} {r : Response} {p' : Peer} (h : p.elapsed = 0)
    (he : hold p (l.exchange path form) = (.ok r, p')) : l.Gets p path r := by
  have hx := exchange_spec l path form h
  rw [he] at hx
  cases hx with
  | answered hu r hx => exact ⟨⟨_, hu⟩, hx⟩

theorem exchange_of_gets {path : String} {r : Response} (h : p.elapsed = 0) (hg : l.Gets p path r)
    (form : Option Text.Form) : ∃ p', hold p (l.exchange path form) = (.ok r, p') := by
  obtain ⟨⟨url, hu⟩, hresponse⟩ := hg
  have hx := exchange_spec l path form h
  generalize he : hold p (l.exchange path form) = x at hx
  cases hx with
  | unsent hu' => cases hu.symm.trans hu'
  | answered _ r' hx =>
    cases hresponse.symm.trans hx
    exact ⟨_, rfl⟩
  | unanswered _ hx => exact absurd hresponse (hx r)
  | abandoned _ hx => exact absurd hresponse (hx r)

theorem marksMember_reason (l : Line) (f : TransportFailure) : marksMember (f.reason l.action l.address) = false := by
  cases f <;> rfl

theorem exchange_refusedFor (l : Line) (path : String) (form : Option Text.Form) (h : p.elapsed = 0) :
    RefusedFor (marksMember · = false) (hold p (l.exchange path form)) := by
  have hx := exchange_spec l path form h
  generalize hold p (l.exchange path form) = x at hx
  cases hx with
  | unsent hu f hf => exact refusedFor_throw (p := p) (marksMember_reason l f)
  | answered => exact refusedFor_ok _ _
  | unanswered hu hx f hf elapsed => exact refusedFor_throw (p := p) (marksMember_reason l f)
  | abandoned => exact refusedFor_outOfTime _

theorem RefusedFor.of_unmarked {Q : Reason → Prop} {x : Except Stop α × Peer} (h : RefusedFor (marksMember · = false) x) :
    RefusedFor (fun why => marksMember why = true → Q why) x := by
  intro why hx hm
  rw [h why hx] at hm
  cases hm

/-- **A post is refused with the words that a member is told exactly if the peer answers it with them.** -/
theorem post_marked_iff (l : Line) (path : String) (form : Text.Form) (h : p.elapsed = 0) :
    (∃ why p', hold p (l.post path form) = (.error (.refused why), p') ∧ marksMember why = true) ↔
      l.IsToldMember p path := by
  constructor
  · rintro ⟨why, p', hx, hmark⟩
    have hpost : RefusedFor (fun why => marksMember why = true → l.IsToldMember p path) (hold p (l.post path form)) := by
      refine RefusedFor.bind (exchange_refusedFor l path _ h).of_unmarked fun r p' hr => ?_
      refine RefusedFor.bind (body_refusedFor l p' r (marksMember_reason l _)).of_unmarked fun bytes p'' hbytes => ?_
      split
      · exact refusedFor_ok _ _
      · refine refusedFor_throw fun hm => ?_
        obtain ⟨hstatus, hpart⟩ := Bool.and_eq_true_iff.1 hm
        obtain ⟨status, body⟩ := r
        obtain ⟨rfl, -⟩ := body_ok hbytes
        obtain rfl : status = 400 := of_decide_eq_true hstatus
        exact ⟨bytes, gets_of_exchange h hr, hasPart_iff.1 hpart⟩
    exact hpost why (by rw [hx]) hmark
  · rintro ⟨bytes, hg, hpart⟩
    obtain ⟨p', he⟩ := exchange_of_gets h hg (some form)
    refine ⟨.rejected l.action l.address 400 (Text.lossy bytes), p', ?_, hasPart_iff.2 hpart⟩
    rw [Line.post, hold_bind_of_ok he]
    rfl

/-- A join is answered as its post is, or, where the peer says that the node is a member, for that reason. -/
theorem hold_join {a : Address} {credentials : Credentials} {x : Except Stop Unit × Peer}
    (h : hold p (l.post "/controller/addNode"
      [("hostname", a.text), ("user", credentials.username), ("password", credentials.password)]) = x) :
    (hold p (join l a credentials)).1 = match x.1 with
      | .error (.refused why) => .error (.refused (if marksMember why then .alreadyMember a else why))
      | x => x := by
  obtain ⟨(why | _) | u, p'⟩ := x
  · rw [join, hold_tryCatch_of_error h]
    by_cases hm : marksMember why = true
    · simp only [if_pos hm]; rfl
    · simp only [if_neg hm]; rfl
  · rw [join, hold_tryCatch_of_error h]
    rfl
  · rw [join, hold_tryCatch_of_ok h]

/-! ## Calls -/

/-- The call stops at a step that does not reach the peer, or not in time. -/
def Unreached (options : Options) (p : Peer) (c : Call) : Prop :=
  let l := lineOf options none c
  let script := steps options p.pool c
  let n := progress l script p.reaction
  ∃ s, script[n]? = some s ∧ s.isUnreached l (p.reaction n) = true

/-- The call is a join, and the peer says that its node is part of the cluster already. -/
def FindsMember (options : Options) (p : Peer) : Call → Prop
  | .join coordinator a credentials =>
    (lineOf options none (.join coordinator a credentials)).IsToldMember p "/controller/addNode"
  | _ => False

/-- The fault of a step does not depend on the limit of its call. -/
theorem Step.fault_lineOf (options : Options) (limit : Option Nat) (c : Call) (s : Step) (reaction : Reaction) :
    s.fault (lineOf options limit c) reaction = s.fault (lineOf options none c) reaction := rfl

variable {options : Options} {limit : Option Nat} {c : Call}

theorem not_findsMember_of_action_ne (h : c.action ≠ .join) : ¬FindsMember options p c := by
  cases c with
  | join => exact absurd rfl h
  | _ => exact id

/-- The fault of the step at which a call stops says whether the peer was reached in time. -/
theorem Blames.tells {x : Except Stop α × Peer} {why : Reason}
    (h : Blames (lineOf options limit c) (steps options p.pool c) p x)
    (hx : x.1 = .error (.refused why)) (hm : ¬FindsMember options p c) :
    Tells why.kind c.action (Unreached options p c) (FindsMember options p c) := by
  obtain ⟨s, hs, hkind⟩ := h why hx
  rw [progress_lineOf] at hs hkind
  rw [hkind, Step.fault_lineOf, Step.fault]
  cases hu : s.isUnreached (lineOf options none c)
      (p.reaction (progress (lineOf options none c) (steps options p.pool c) p.reaction)) with
  | true => exact .of_unreached ⟨s, hs, hu⟩ hm
  | false =>
    refine .of_own (fun ⟨s', hs', hu'⟩ => ?_) hm
    cases hs.symm.trans hs'
    rw [hu] at hu'
    cases hu'

/-- A join that the peer answers does reach it. -/
theorem not_unreached_of_findsMember (h : FindsMember options p c) : ¬Unreached options p c := by
  cases c with
  | join t a credentials =>
    rintro ⟨s, hs, hu⟩
    obtain ⟨bytes, ⟨⟨url, hurl⟩, hresponse⟩, -⟩ := h
    generalize progress (lineOf options none (.join t a credentials)) _ p.reaction = n at hs hu
    cases n with
    | zero =>
      obtain rfl := Option.some.inj hs
      rw [hresponse] at hu
      simp [Step.isUnreached, Step.isLeftWaiting] at hu
    | succ n => cases hs
  | _ => exact h.elim

/-- **A call that is refused tells by the kind of the reason** whether the peer was reached in time, and whether it said that
the node is a member. -/
theorem tells_dialogue (options : Options) (limit : Option Nat) (c : Call) (h : p.elapsed = 0) :
    RefusedFor (fun why => Tells why.kind c.action (Unreached options p c) (FindsMember options p c))
      (hold p (dialogue options limit c)) := by
  intro why hx
  by_cases hc : c.action = .join
  · cases c with
    | join t a credentials =>
      let l := lineOf options limit (.join t a credentials)
      let form : Text.Form := [("hostname", a.text), ("user", credentials.username), ("password", credentials.password)]
      have hmarked := post_marked_iff l "/controller/addNode" form h
      have hblames : Blames l _ p _ := blames_lastPost "/controller/addNode" form h
      obtain ⟨(why' | _) | u, p', hd⟩ : ∃ x p', hold p (l.post "/controller/addNode" form) = (x, p') := ⟨_, _, rfl⟩
      · have hjoin := (hold_join hd).symm.trans hx
        by_cases hm : marksMember why' = true
        · simp only [if_pos hm] at hjoin
          cases hjoin
          have hfinds : FindsMember options p (.join t a credentials) := hmarked.1 ⟨why', p', hd, hm⟩
          exact .of_member (not_unreached_of_findsMember hfinds) hfinds
        · simp only [if_neg hm] at hjoin
          cases hjoin
          refine hblames.tells (congrArg Prod.fst hd) fun hfinds => hm ?_
          obtain ⟨why', p'', hd', hm'⟩ := hmarked.2 hfinds
          cases hd.symm.trans hd'
          exact hm'
      · cases (hold_join hd).symm.trans hx
      · cases (hold_join hd).symm.trans hx
    | _ => cases hc
  · exact (blames_dialogue options limit hc h).tells hx (not_findsMember_of_action_ne hc)

theorem perform_eq_some_iff {why : Reason} :
    (perform options p c).2 = some why ↔
      (hold { p with elapsed := 0 } (dialogue options none c)).1 = .error (.refused why) := by
  rw [perform_eq]
  rcases hold { p with elapsed := 0 } (dialogue options none c) with ⟨(why' | _) | _, p'⟩ <;> simp

theorem refused_of_performWithin {limit : Span} {refusal : Refusal}
    (h : (performWithin options p limit c).2.1 = .refused refusal) : ∃ why, refusal = why.refusal ∧
      (hold { p with elapsed := 0 } (dialogue options (some limit.ceilMillis) c)).1 = .error (.refused why) := by
  rw [performWithin_eq] at h
  generalize hold { p with elapsed := 0 } (dialogue options (some limit.ceilMillis) c) = x at h ⊢
  obtain ⟨(why | _) | _, p'⟩ := x
  · exact ⟨why, (Answer.refused.inj h).symm, rfl⟩
  · cases h
  · cases h

theorem tells_perform {why : Reason} (h : (perform options p c).2 = some why) :
    Tells why.kind c.action (Unreached options p c) (FindsMember options p c) :=
  tells_dialogue (p := { p with elapsed := 0 }) options none c rfl why (perform_eq_some_iff.1 h)

/-- **A call is out of reach exactly if the step at which it stops is.** -/
theorem unreachable_iff :
    (∃ why, (perform options p c).2 = some why ∧ why.kind = .unreachable) ↔ Unreached options p c := by
  refine ⟨fun ⟨why, h, hkind⟩ => (tells_perform h).unreachable.1 hkind, fun hu => ?_⟩
  obtain ⟨⟨-, -, hok⟩, -⟩ := perform_follows options c p
  obtain ⟨s, hs, -⟩ := id hu
  have hn := (List.getElem?_eq_some_iff.1 hs).1
  obtain ⟨why, h⟩ := Option.ne_none_iff_exists'.1 (mt hok.1 (Nat.ne_of_lt hn))
  exact ⟨why, h, (tells_perform h).unreachable.2 hu⟩

/-- **A join fails because its node is a member exactly if the peer says so.** -/
theorem alreadyMember_iff :
    (∃ why, (perform options p c).2 = some why ∧ why.kind = .alreadyMember) ↔ FindsMember options p c := by
  refine ⟨fun ⟨why, h, hkind⟩ => (tells_perform h).alreadyMember.1 hkind, fun hf => ?_⟩
  cases c with
  | join t a credentials =>
    obtain ⟨why, p', hd, hm⟩ := (post_marked_iff (p := { p with elapsed := 0 }) _ "/controller/addNode"
      [("hostname", a.text), ("user", credentials.username), ("password", credentials.password)] rfl).2 hf
    have hx := hold_join hd
    simp only [if_pos hm] at hx
    exact ⟨.alreadyMember a, perform_eq_some_iff.2 hx, rfl⟩
  | _ => exact hf.elim

end ClusterMembership.Rest

namespace ClusterMembership

/-- **Failed calls keep to the kinds that their action has.**  A simulated cluster in any state and an operation over the
administration interface, whatever the peer does, fail in the action's own kind.  The exceptions are a join that finds its
node a member, and for an operation a peer that is not reached in time; and what a pass makes of a refused call is what it
would make of one that is done for that join alone. -/
theorem failure_kinds_kept :
    (∀ (s : SimulatedCluster) (c : Call),
      (∀ why, (s.perform c).2 = some why → Tells why.kind c.action False (s.FindsMember c)) ∧
      (∀ limit why, (s.performWithin limit c).2.1 = .refused why → Tells why.kind c.action False (s.FindsMember c)) ∧
      ((∃ why, (s.perform c).2 = some why ∧ why.kind = .alreadyMember) ↔ s.FindsMember c)) ∧
    (∀ (options : Rest.Options) (p : Rest.Peer) (c : Call),
      (∀ why, (Rest.perform options p c).2 = some why →
        Tells why.kind c.action (Rest.Unreached options p c) (Rest.FindsMember options p c)) ∧
      (∀ limit why, (Rest.performWithin options p limit c).2.1 = .refused why →
        Tells why.kind c.action (Rest.Unreached options p c) (Rest.FindsMember options p c)) ∧
      ((∃ why, (Rest.perform options p c).2 = some why ∧ why.kind = .unreachable) ↔ Rest.Unreached options p c) ∧
      ((∃ why, (Rest.perform options p c).2 = some why ∧ why.kind = .alreadyMember) ↔ Rest.FindsMember options p c)) ∧
    ∀ (k : Cluster) (pending : Pending) (why : Refusal),
      (why.kind = .alreadyMember ∧ pending.call.action = .join →
        k.resume pending (.refused why) = k.resume pending .done) ∧
      (¬(why.kind = .alreadyMember ∧ pending.call.action = .join) →
        (∃ phase failure, k.resume pending (.refused why) = { k with phase }.finish (.error failure)) ∨
        ∃ d committed, pending = .rebalancing d committed ∧
          k.resume pending (.refused why) = k.finish (.ok (.reconciled d.joined d.left committed false))) := by
  refine ⟨fun s c => ⟨fun why h => SimulatedCluster.tells_perform h, fun limit why h => ?_,
    SimulatedCluster.alreadyMember_iff⟩, fun options p c => ⟨fun why h => Rest.tells_perform h, fun limit why h => ?_,
    Rest.unreachable_iff, Rest.alreadyMember_iff⟩,
    fun k pending why => ⟨Cluster.resume_refused_member k, Cluster.resume_refused k⟩⟩
  · obtain ⟨r, hp, rfl⟩ := SimulatedCluster.refused_of_performWithin h
    exact SimulatedCluster.tells_perform hp
  · obtain ⟨r, rfl, hx⟩ := Rest.refused_of_performWithin h
    exact Rest.tells_dialogue (p := { p with elapsed := 0 }) options (some limit.ceilMillis) c rfl r hx

/-- A join of a planned member, and one of which the peer says the same: a pass goes on from both; and a bootstrap whose
first request is left hanging. -/
theorem failure_kinds_of_members :
    let node : Target := ⟨⟨"n"⟩, ⟨"[::1]", 1⟩, ⟨"u", "p"⟩⟩
    let other : Node := ⟨0, ⟨"m"⟩, ⟨"k", 2⟩, ⟨"u", "p"⟩⟩
    let join : Call := .join node other.address other.credentials
    let s : SimulatedCluster := { stages := true, members := [node.address], plan := [.join other.address] }
    let p : Rest.Peer := { script := [.respond ⟨400, .whole (Text.octets "Node is already part of cluster.")⟩] }
    let q : Rest.Peer := { script := [.hang 2] }
    let options : Rest.Options := { requestTimeout := 1 }
    let k : Cluster := { config := {}, stages := true, group := { name := "g" } }
    let d : Delta := { coordinator := node, leaves := [], isGrowth := true }
    let member : Refusal := ⟨.alreadyMember, "k:2 is already a member"⟩
    ((s.perform join).2 = some (.alreadyMember "k:2") ∧ Tells .alreadyMember .join False (s.FindsMember join)) ∧
    ((s.performWithin (Span.ofSeconds 1) join).2.1 = .refused member ∧
      Tells .alreadyMember .join False (s.FindsMember join)) ∧
    ((Rest.perform {} p join).2 = some (.alreadyMember other.address) ∧
      Tells .alreadyMember .join (Rest.Unreached {} p join) (Rest.FindsMember {} p join)) ∧
    ((Rest.performWithin options q (Span.ofSeconds 1) (.bootstrap node)).2.1 = .refused
        ⟨.unreachable, "cannot reach [::1]:1: error sending request for url (http://[::1]:1/pools/default)"⟩ ∧
      Tells .unreachable .bootstrap (Rest.Unreached options q (.bootstrap node))
        (Rest.FindsMember options q (.bootstrap node))) ∧
    k.resume (.joining d other []) (.refused member) = k.resume (.joining d other []) .done ∧
    ((∃ phase failure, k.resume (.committing d) (.refused member) = { k with phase }.finish (.error failure)) ∨
      ∃ d' committed, Pending.committing d = .rebalancing d' committed ∧
        k.resume (.committing d) (.refused member) = k.finish (.ok (.reconciled d'.joined d'.left committed false))) := by
  intro node other join s p q options k d member
  have hperform : (s.perform join).2 = some (.alreadyMember "k:2") := by decide +kernel
  have hwithin : (s.performWithin (Span.ofSeconds 1) join).2.1 = .refused member := by decide +kernel
  have hrest : (Rest.perform {} p join).2 = some (.alreadyMember other.address) := by decide +kernel
  have hhanging : (Rest.performWithin options q (Span.ofSeconds 1) (.bootstrap node)).2.1 = .refused
      ⟨.unreachable, "cannot reach [::1]:1: error sending request for url (http://[::1]:1/pools/default)"⟩ := by decide +kernel
  obtain ⟨hsimulated, hoperation, hpass⟩ := failure_kinds_kept
  exact ⟨⟨hperform, (hsimulated s join).1 _ hperform⟩, ⟨hwithin, (hsimulated s join).2.1 _ _ hwithin⟩,
    ⟨hrest, (hoperation {} p join).1 _ hrest⟩,
    ⟨hhanging, (hoperation options q (.bootstrap node)).2.1 _ _ hhanging⟩,
    (hpass k (.joining d other []) member).1 ⟨rfl, rfl⟩, (hpass k (.committing d) member).2 (by decide)⟩

end ClusterMembership
