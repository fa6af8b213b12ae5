import ClusterMembership.Proofs.Authorities
import ClusterMembership.Proofs.Dialogues
/-!
# Operations as scripts of requests

The steps of a call are a list (`steps`): the request of each, and the responses that let the call go on.  How far a call
gets with a peer is read off the peer's reactions (`progress`).  The dialogue of a call sends the requests of its steps up to
the first that fails, and succeeds where none does (`follows_dialogue`).
-/
namespace ClusterMembership.Rest

/-- The pool that a response carries. -/
def Response.pool? (r : Response) : Option Pool := if r.status = 200 then r.bytes?.bind Pool.ofBody? else none

/-- A step of a call: a request, and the responses with which it succeeds. -/
structure Step where
  path : String
  form : Option Text.Form
  accepts : Response → Bool

namespace Step

/-- Posts a form; any success will do, with a body that can be read. -/
def post (path : String) (form : Text.Form) : Step := ⟨path, some form, fun r => r.isSuccess && r.bytes?.isSome⟩

/-- Makes sure that the node serves no pool. -/
def noPool : Step := ⟨"/pools/default", none, fun r => r.status = 404⟩

/-- Reads the pool, which has to be as wanted. -/
def pool (wanted : Pool → Bool) : Step := ⟨"/pools/default", none, fun r => r.pool?.any wanted⟩

/-- The request of the step; `none` where none can be made. -/
def request? (l : Line) (s : Step) : Option Request := (l.url? s.path).map (l.request · s.form)

/-- The step succeeds with this reaction of the peer. -/
def succeeds (l : Line) (s : Step) (reaction : Reaction) : Bool :=
  (l.url? s.path).isSome &&
    match reaction with
    | .respond r => s.accepts r
    | _ => false

end Step

/-- The steps of a call, for a node that serves this pool. -/
def steps (options : Options) (pool : Pool) : Call → List Step
  | .bootstrap node => [
    .noPool,
    .post "/pools/default" [("memoryQuota", Text.decimal options.memoryQuota)],
    .post "/settings/web"
      [("port", "SAME"), ("username", node.credentials.username), ("password", node.credentials.password)]]
  | .join _ a c => [.post "/controller/addNode" [("hostname", a.text), ("user", c.username), ("password", c.password)]]
  | .leave _ leaving => [
    .pool fun pool => (pool.find? leaving.address).isSome && 2 ≤ pool.nodes.length,
    .post "/controller/rebalance" (Line.rebalanceForm pool (pool.find? leaving.address))]
  | .commit _ => []
  | .rebalance _ => [.pool fun _ => true, .post "/controller/rebalance" (Line.rebalanceForm pool none)]
  | .recover failed _ =>
    let name := ((pool.find? failed.address).map (·.otpNode)).getD ""
    [.pool fun pool => (pool.find? failed.address).isSome,
      .post "/controller/failOver" [("otpNode", name)],
      .post "/controller/setRecoveryType" [("otpNode", name), ("recoveryType", "full")],
      .post "/controller/rebalance" (Line.rebalanceForm pool none)]

/-- The pool that the peer serves next. -/
def Peer.pool (p : Peer) : Pool :=
  match p.reaction 0 with
  | .respond r => r.pool?.getD ⟨[]⟩
  | _ => ⟨[]⟩

/-- How many steps succeed before one fails. -/
def progress (l : Line) : List Step → (Nat → Reaction) → Nat
  | [], _ => 0
  | s :: rest, reaction => if s.succeeds l (reaction 0) then progress l rest (fun i => reaction (i + 1)) + 1 else 0

/-- How many steps the peer hears of: those that succeed, and the one that fails if a connection comes about for it. -/
def reach (l : Line) (steps : List Step) (reaction : Nat → Reaction) : Nat :=
  progress l steps reaction + if (reaction (progress l steps reaction)).connects then 1 else 0

/-- The requests of some steps. -/
def requests (l : Line) (steps : List Step) : List Request := steps.filterMap (·.request? l)

variable {l : Line} {p : Peer} {s : Step} {rest : List Step}

/-- The peer after the request of a step. -/
def Step.leaves (l : Line) (p : Peer) (s : Step) : Peer := (s.request? l).elim p p.after

theorem Step.leaves_of_unsent (h : l.url? s.path = none) : s.leaves l p = p := by
  rw [leaves, request?, h]
  rfl

theorem Step.leaves_of_sent {url : Url} (hu : l.url? s.path = some url) :
    s.leaves l p = p.after (l.request url s.form) := by
  rw [leaves, request?, hu]
  rfl

theorem requests_of_unsent (h : l.url? s.path = none) : requests l [s] = [] := by
  rw [requests, List.filterMap_cons, Step.request?, h]
  rfl

theorem requests_of_sent {url : Url} (hu : l.url? s.path = some url) : requests l [s] = [l.request url s.form] := by
  rw [requests, List.filterMap_cons, Step.request?, hu]
  rfl

theorem requests_cons (l : Line) (s : Step) (steps : List Step) :
    requests l (s :: steps) = requests l [s] ++ requests l steps := List.filterMap_append (l := [s])

theorem Step.seen_leaves (l : Line) (p : Peer) (s : Step) :
    (s.leaves l p).seen = p.seen ++ requests l ([s].take (if (p.reaction 0).connects then 1 else 0)) := by
  cases hu : l.url? s.path with
  | none =>
    have hnone : requests l ([s].take (if (p.reaction 0).connects then 1 else 0)) = [] := by
      split
      · exact requests_of_unsent hu
      · rfl
    rw [Step.leaves_of_unsent hu, hnone, List.append_nil]
  | some url =>
    rw [Step.leaves_of_sent hu, Peer.after]
    dsimp only
    split
    · rw [List.take_succ_cons, List.take_zero, requests_of_sent hu]
    · exact (List.append_nil _).symm

theorem Step.script_leaves (l : Line) (p : Peer) (s : Step) :
    (s.leaves l p).script = p.script.drop (requests l [s]).length := by
  cases hu : l.url? s.path with
  | none =>
    rw [Step.leaves_of_unsent hu, requests_of_unsent hu]
    rfl
  | some url =>
    rw [Step.leaves_of_sent hu, requests_of_sent hu, List.length_singleton, List.drop_one]
    rfl

theorem Step.succeeds_iff {reaction : Reaction} :
    s.succeeds l reaction = true ↔
      (∃ url, l.url? s.path = some url) ∧ ∃ r, reaction = .respond r ∧ s.accepts r = true := by
  unfold succeeds
  rw [Bool.and_eq_true, Option.isSome_iff_exists]
  rcases reaction with r | ms | _ | ms <;> simp

theorem Step.succeeds_of_unsent {reaction : Reaction} (h : l.url? s.path = none) : s.succeeds l reaction = false := by
  unfold succeeds
  rw [h, Option.isSome_none, Bool.false_and]

/-- An answer is what every step needs. -/
theorem Step.succeeds_of_unanswered {reaction : Reaction} (hx : ∀ r, reaction ≠ .respond r) :
    s.succeeds l reaction = false := by
  rw [Bool.eq_false_iff]
  intro hs
  obtain ⟨-, r, hr, -⟩ := Step.succeeds_iff.1 hs
  exact hx r hr

/-- A step that succeeds has had one reaction. -/
theorem Step.reaction_leaves (h : s.succeeds l (p.reaction 0) = true) :
    (s.leaves l p).reaction = fun i => p.reaction (i + 1) := by
  obtain ⟨⟨url, hu⟩, -⟩ := Step.succeeds_iff.1 h
  rw [Step.leaves_of_sent hu, Peer.reaction_after]

/-! How far the steps get, by the first of them. -/

section

variable {reaction : Nat → Reaction}

theorem progress_of_fails (hs : s.succeeds l (reaction 0) = false) : progress l (s :: rest) reaction = 0 := by
  rw [progress, hs]
  rfl

theorem progress_of_succeeds (hs : s.succeeds l (reaction 0) = true) :
    progress l (s :: rest) reaction = progress l rest (fun i => reaction (i + 1)) + 1 := if_pos hs

theorem reach_of_fails (hs : s.succeeds l (reaction 0) = false) :
    reach l (s :: rest) reaction = if (reaction 0).connects then 1 else 0 := by
  rw [reach, progress_of_fails hs, Nat.zero_add]

theorem reach_of_succeeds (hs : s.succeeds l (reaction 0) = true) :
    reach l (s :: rest) reaction = reach l rest (fun i => reaction (i + 1)) + 1 := by
  rw [reach, reach, progress_of_succeeds hs, Nat.add_right_comm]

end

/-- A dialogue with a peer went by these steps. -/
structure Follows (l : Line) (steps : List Step) (p : Peer) (x : Except Stop Unit × Peer) : Prop where
  seen : x.2.seen = p.seen ++ requests l (steps.take (reach l steps p.reaction))
  script : x.2.script = p.script.drop (requests l (steps.take (progress l steps p.reaction + 1))).length
  ok : x.1 = .ok () ↔ progress l steps p.reaction = steps.length
  inTime : x.1 = .error .outOfTime → l.limit ≠ none

theorem follows_nil (l : Line) (p : Peer) : Follows l [] p (.ok (), p) where
  seen := by simp [requests]
  script := by simp [requests]
  ok := by simp [progress]
  inTime := nofun

theorem follows_of_fails (hs : s.succeeds l (p.reaction 0) = false) {x : Except Stop Unit × Peer}
    (hx : Stops l.limit (s.leaves l p) x) : Follows l (s :: rest) p x := by
  obtain ⟨e, elapsed, rfl, he⟩ := hx
  have hfirst : (s :: rest).take (if (p.reaction 0).connects then 1 else 0) =
      [s].take (if (p.reaction 0).connects then 1 else 0) := by split <;> rfl
  constructor
  · rw [reach_of_fails hs, hfirst]
    exact s.seen_leaves l p
  · rw [progress_of_fails hs]
    exact s.script_leaves l p
  · rw [progress_of_fails hs]; simp
  · intro h; exact he (Except.error.inj h)

theorem follows_of_succeeds (hs : s.succeeds l (p.reaction 0) = true) {x : Except Stop Unit × Peer}
    (hx : Follows l rest (s.leaves l p) x) : Follows l (s :: rest) p x := by
  obtain ⟨hseen, hscript, hok, htime⟩ := hx
  obtain ⟨-, r, hr, -⟩ := Step.succeeds_iff.1 hs
  have hfirst : (s.leaves l p).seen = p.seen ++ requests l [s] := by
    rw [s.seen_leaves, hr]
    rfl
  constructor
  · rw [reach_of_succeeds hs, ← Step.reaction_leaves hs, List.take_succ_cons, requests_cons, hseen, hfirst,
      List.append_assoc]
  · rw [progress_of_succeeds hs, ← Step.reaction_leaves hs, List.take_succ_cons, requests_cons, List.length_append,
      ← List.drop_drop, hscript, s.script_leaves]
  · rw [progress_of_succeeds hs, ← Step.reaction_leaves hs, hok, List.length_cons, Nat.add_right_cancel_iff]
  · exact htime

/-- A dialogue that begins with the request of a step, and goes on with what is made of the response. -/
theorem follows_exchange (h : p.elapsed = 0) {k : Response → Dialogue Unit}
    (hno : ∀ r, s.accepts r = false → ∀ p', Stops l.limit p' (hold p' (k r)))
    (hyes : ∀ r, p.reaction 0 = .respond r → s.accepts r = true → ∀ p', p'.elapsed = 0 →
      Follows l rest p' (hold p' (k r))) :
    Follows l (s :: rest) p (hold p (l.exchange s.path s.form >>= k)) := by
  have hx := exchange_spec l s.path s.form h
  generalize he : hold p (l.exchange s.path s.form) = x at hx
  cases hx with
  | unsent hu f hf =>
    refine follows_of_fails (Step.succeeds_of_unsent hu) ?_
    rw [Step.leaves_of_unsent hu, hold_bind_of_error he]
    exact ⟨_, _, rfl, nofun⟩
  | answered hu r hx =>
    rw [hold_bind_of_ok he]
    cases ha : s.accepts r with
    | true =>
      refine follows_of_succeeds (Step.succeeds_iff.2 ⟨⟨_, hu⟩, r, hx, ha⟩) ?_
      rw [Step.leaves_of_sent hu]
      exact hyes r hx ha _ h
    | false =>
      refine follows_of_fails (by simp [Step.succeeds, hx, ha]) ?_
      rw [Step.leaves_of_sent hu]
      exact hno r ha _
  | unanswered hu hx f hf elapsed =>
    refine follows_of_fails (Step.succeeds_of_unanswered hx) ?_
    rw [Step.leaves_of_sent hu, hold_bind_of_error he]
    exact ⟨_, elapsed, rfl, nofun⟩
  | abandoned hu hx hl elapsed =>
    refine follows_of_fails (Step.succeeds_of_unanswered hx) ?_
    rw [Step.leaves_of_sent hu, hold_bind_of_error he]
    exact ⟨_, elapsed, rfl, fun _ => hl⟩

theorem follows_post (path : String) (form : Text.Form) (h : p.elapsed = 0) {k : Unit → Dialogue Unit}
    (hk : ∀ p', p'.elapsed = 0 → Follows l rest p' (hold p' (k ()))) :
    Follows l (.post path form :: rest) p (hold p (l.post path form >>= k)) := by
  rw [Line.post, bind_assoc]
  refine follows_exchange (s := .post path form) h (fun r hr p' => ?_) (fun r _ hr p' hp => ?_)
  · rw [Step.post, Bool.and_eq_false_iff] at hr
    rw [bind_assoc]
    cases hb : r.bytes? with
    | none => exact (body_of_none l p' hb).bind _
    | some bytes =>
      rw [hold_bind_of_ok (body_of_some l p' hb), hr.resolve_right (by simp [hb]), if_neg Bool.false_ne_true]
      exact (stops_throw_refused ..).bind k
  · obtain ⟨hs, hb⟩ := Bool.and_eq_true_iff.1 hr
    obtain ⟨bytes, hb⟩ := Option.isSome_iff_exists.1 hb
    rw [bind_assoc, hold_bind_of_ok (body_of_some l p' hb), if_pos hs, pure_bind]
    exact hk p' hp

/-- What a line makes of the response to a request for the pool. -/
def Line.poolOf (l : Line) (r : Response) : Dialogue (Option Pool) := do
  if r.status = 200 then
    match Pool.ofBody? (← l.body r) with
    | some pool => return some pool
    | none => l.fail .unreadable
  else if r.status = 404 then return none
  else throw (.refused (.rejected l.action l.address r.status (Text.lossy (← l.bodyOrNothing r))))

theorem Line.pool?_eq (l : Line) : l.pool? = l.exchange "/pools/default" none >>= l.poolOf := rfl

theorem bodyOrNothing_cases (l : Line) (r : Response) (p : Peer) :
    ∃ elapsed, (∃ bytes, hold p (l.bodyOrNothing r) = (.ok bytes, { p with elapsed })) ∨
      l.limit ≠ none ∧ hold p (l.bodyOrNothing r) = (.error .outOfTime, { p with elapsed }) := by
  unfold Line.bodyOrNothing
  cases hb : r.bytes? with
  | some bytes => exact ⟨p.elapsed, .inl ⟨bytes, hold_tryCatch_of_ok (body_of_some l p hb) _⟩⟩
  | none =>
    obtain ⟨e, elapsed, hx, he⟩ := body_of_none l p hb
    rw [hold_tryCatch_of_error hx]
    cases e with
    | refused why => exact ⟨elapsed, .inl ⟨[], rfl⟩⟩
    | outOfTime => exact ⟨elapsed, .inr ⟨he rfl, rfl⟩⟩

theorem stops_rejected (l : Line) (p : Peer) (r : Response) :
    Stops l.limit p (hold p (l.bodyOrNothing r >>= fun bytes =>
      throw (.refused (.rejected l.action l.address r.status (Text.lossy bytes))) : Dialogue α)) := by
  obtain ⟨elapsed, ⟨bytes, hx⟩ | ⟨hl, hx⟩⟩ := bodyOrNothing_cases l r p
  · rw [hold_bind_of_ok hx]
    exact ⟨_, elapsed, rfl, nofun⟩
  · rw [hold_bind_of_error hx]
    exact ⟨.outOfTime, elapsed, rfl, fun _ => hl⟩

theorem poolOf_cases (l : Line) (r : Response) (p : Peer) :
    (∃ pool, r.pool? = some pool ∧ hold p (l.poolOf r) = (.ok (some pool), p)) ∨
      (r.status = 404 ∧ r.pool? = none ∧ hold p (l.poolOf r) = (.ok none, p)) ∨
        r.status ≠ 404 ∧ r.pool? = none ∧ Stops l.limit p (hold p (l.poolOf r)) := by
  unfold Line.poolOf Response.pool?
  by_cases hok : r.status = 200
  · rw [if_pos hok, if_pos hok]
    cases hb : r.bytes? with
    | none => exact .inr (.inr ⟨by omega, rfl, (body_of_none l p hb).bind _⟩)
    | some bytes =>
      rw [hold_bind_of_ok (body_of_some l p hb), Option.bind_some]
      cases Pool.ofBody? bytes with
      | none => exact .inr (.inr ⟨by omega, rfl, _, _, rfl, nofun⟩)
      | some pool => exact .inl ⟨pool, rfl, rfl⟩
  · rw [if_neg hok, if_neg hok]
    by_cases hno : r.status = 404
    · rw [if_pos hno]
      exact .inr (.inl ⟨hno, rfl, rfl⟩)
    · rw [if_neg hno]
      exact .inr (.inr ⟨hno, rfl, stops_rejected l p r⟩)

theorem follows_noPool (h : p.elapsed = 0) {k : Option Pool → Dialogue Unit}
    (hno : ∀ pool p', Stops l.limit p' (hold p' (k (some pool))))
    (hyes : ∀ p', p'.elapsed = 0 → Follows l rest p' (hold p' (k none))) :
    Follows l (.noPool :: rest) p (hold p (l.pool? >>= k)) := by
  rw [l.pool?_eq, bind_assoc]
  refine follows_exchange (s := .noPool) h (fun r hr p' => ?_) (fun r _ hr p' hp => ?_)
  · obtain ⟨pool, -, hx⟩ | ⟨h404, -⟩ | ⟨-, -, hx⟩ := poolOf_cases l r p'
    · rw [hold_bind_of_ok hx]; exact hno pool p'
    · exact absurd h404 (of_decide_eq_false hr)
    · exact hx.bind k
  · have h404 : r.status = 404 := of_decide_eq_true hr
    obtain ⟨pool, hpool, -⟩ | ⟨-, -, hx⟩ | ⟨hne, -⟩ := poolOf_cases l r p'
    · rw [Response.pool?, if_neg (by omega)] at hpool
      cases hpool
    · rw [hold_bind_of_ok hx]; exact hyes p' hp
    · exact absurd h404 hne

theorem Peer.pool_of_respond {r : Response} {pool : Pool} (hx : p.reaction 0 = .respond r)
    (hpool : r.pool? = some pool) : p.pool = pool := by
  rw [Peer.pool, hx]
  exact congrArg (·.getD ⟨[]⟩) hpool

theorem follows_pool (h : p.elapsed = 0) {wanted : Pool → Bool} {k : Pool → Dialogue Unit}
    (hno : ∀ pool, wanted pool = false → ∀ p', Stops l.limit p' (hold p' (k pool)))
    (hyes : wanted p.pool = true → ∀ p', p'.elapsed = 0 → Follows l rest p' (hold p' (k p.pool))) :
    Follows l (.pool wanted :: rest) p (hold p (l.pool >>= k)) := by
  rw [Line.pool, l.pool?_eq, bind_assoc, bind_assoc]
  refine follows_exchange (s := .pool wanted) h (fun r hr p' => ?_) (fun r hx hr p' hp => ?_)
  · obtain ⟨pool, hpool, hx⟩ | ⟨-, -, hx⟩ | ⟨-, -, hx⟩ := poolOf_cases l r p'
    · have hw : wanted pool = false := by simpa [Step.pool, hpool] using hr
      rw [hold_bind_of_ok hx, pure_bind]
      exact hno pool hw p'
    · rw [hold_bind_of_ok hx]
      exact (stops_throw_refused ..).bind k
    · exact hx.bind _
  · obtain ⟨pool, hpool, hw⟩ := (Option.any_eq_true _ _).1 hr
    have hserved := Peer.pool_of_respond hx hpool
    obtain ⟨pool', hpool', hx⟩ | ⟨-, hn, -⟩ | ⟨-, hn, -⟩ := poolOf_cases l r p'
    · obtain rfl : pool = pool' := Option.some.inj (hpool.symm.trans hpool')
      rw [hold_bind_of_ok hx, pure_bind, ← hserved]
      exact hyes (hserved ▸ hw) p' hp
    · rw [hn] at hpool; cases hpool
    · rw [hn] at hpool; cases hpool

theorem follows_lastPost (path : String) (form : Text.Form) (h : p.elapsed = 0) :
    Follows l [.post path form] p (hold p (l.post path form)) := by
  rw [← bind_pure (l.post path form)]
  exact follows_post path form h fun p' _ => follows_nil l p'

/-- Another reason for the same failure. -/
theorem Follows.tryCatch {steps : List Step} {d : Dialogue Unit} (h : Follows l steps p (hold p d))
    {k : Stop → Dialogue Unit}
    (hk : ∀ e p', ∃ e', hold p' (k e) = (.error e', p') ∧ (e' = .outOfTime → e = .outOfTime)) :
    Follows l steps p (hold p (tryCatch d k)) := by
  obtain ⟨x, p', hd⟩ : ∃ x p', hold p d = (x, p') := ⟨_, _, rfl⟩
  cases x with
  | ok u => rwa [hold_tryCatch_of_ok hd, ← hd]
  | error e =>
    obtain ⟨e', hx, he⟩ := hk e p'
    rw [hd] at h
    rw [hold_tryCatch_of_error hd, hx]
    refine ⟨h.seen, h.script, ?_, fun ht => h.inTime (congrArg _ (he (Except.error.inj ht)))⟩
    rw [← h.ok]
    exact ⟨nofun, nofun⟩

theorem one_le_length_of_find? {pool : Pool} {a : Address} {node : PoolNode} (h : pool.find? a = some node) :
    1 ≤ pool.nodes.length := List.length_pos_of_mem (List.mem_of_find?_eq_some h)

/-- The line on which a call goes out. -/
def lineOf (options : Options) (limit : Option Nat) (c : Call) : Line :=
  ⟨options, c.action, (addressee c).address, (addressee c).credentials, limit⟩

/-- **A call goes by its steps.** -/
theorem follows_dialogue (options : Options) (limit : Option Nat) (c : Call) (h : p.elapsed = 0) :
    Follows (lineOf options limit c) (steps options p.pool c) p (hold p (dialogue options limit c)) := by
  cases c with
  | bootstrap node =>
    refine follows_noPool h (fun pool p' => stops_throw_refused ..) (fun p' hp => ?_)
    exact follows_post _ _ hp fun p' hp => follows_lastPost _ _ hp
  | join t a credentials =>
    refine (follows_lastPost _ _ h).tryCatch fun e p' => ?_
    cases e with
    | refused why => by_cases hm : marksMember why = true <;> simp [hm]
    | outOfTime => exact ⟨.outOfTime, rfl, id⟩
  | leave t leaving =>
    refine follows_pool h (fun pool hw p' => ?_) (fun hw p' hp => ?_)
    · cases hfind : pool.find? leaving.address with
      | none => exact stops_throw_refused ..
      | some node =>
        have hlen : pool.nodes.length = 1 := by
          have hpos := one_le_length_of_find? hfind
          simp [hfind] at hw
          omega
        simp only [if_pos hlen]
        exact stops_throw_refused ..
    · obtain ⟨hfind, hlen⟩ := Bool.and_eq_true_iff.1 hw
      obtain ⟨node, hfind⟩ := Option.isSome_iff_exists.1 hfind
      have hlen : ¬p.pool.nodes.length = 1 := by
        have := of_decide_eq_true hlen
        omega
      rw [hfind]
      simp only [if_neg hlen]
      exact follows_lastPost _ _ hp
  | commit t => exact follows_nil _ p
  | rebalance t =>
    refine follows_pool h (fun pool hw p' => nomatch hw) (fun hw p' hp => ?_)
    exact follows_lastPost _ _ hp
  | recover failed sponsor =>
    refine follows_pool h (fun pool hw p' => ?_) (fun hw p' hp => ?_)
    · rw [Option.isSome_eq_false_iff, Option.isNone_iff_eq_none] at hw
      rw [hw]
      exact stops_throw_refused ..
    · obtain ⟨node, hfind⟩ := Option.isSome_iff_exists.1 hw
      rw [hfind]
      exact follows_post _ _ hp fun p' hp => follows_post _ _ hp fun p' hp => follows_lastPost _ _ hp

/-- The request goes to a node at an endpoint, with the node's credentials; a user that the URL itself names comes before
them. -/
def Request.GoesTo (options : Options) (node : Target) (endpoint : String) (r : Request) : Prop :=
  ∃ path url, Url.parse? (options.scheme ++ "://" ++ node.address.text ++ path) = some url ∧
    url.destination.endpoint = endpoint ∧ r.url = url.destination.withoutFragment.text ∧
      r.authorizations = url.user?.toList.map basicAuthorization ++ [basicAuthorization node.credentials]

theorem isPlainPath_of_mem_steps {options : Options} {pool : Pool} {c : Call} (h : s ∈ steps options pool c) :
    Url.IsPlainPath s.path.toList := by
  have hall : ∀ path ∈ ["/pools/default", "/settings/web", "/controller/addNode", "/controller/rebalance",
      "/controller/failOver", "/controller/setRecoveryType"], Url.IsPlainPath path.toList := by decide
  apply hall
  cases c with
  | bootstrap node =>
    simp only [steps, List.mem_cons, List.not_mem_nil, or_false] at h
    rcases h with rfl | rfl | rfl <;> simp [Step.post, Step.noPool]
  | join t a credentials =>
    obtain rfl := List.mem_singleton.1 h
    simp [Step.post]
  | leave t leaving =>
    simp only [steps, List.mem_cons, List.not_mem_nil, or_false] at h
    rcases h with rfl | rfl <;> simp [Step.post, Step.pool]
  | commit t => cases h
  | rebalance t =>
    simp only [steps, List.mem_cons, List.not_mem_nil, or_false] at h
    rcases h with rfl | rfl <;> simp [Step.post, Step.pool]
  | recover failed sponsor =>
    simp only [steps, List.mem_cons, List.not_mem_nil, or_false] at h
    rcases h with rfl | rfl | rfl | rfl <;> simp [Step.post, Step.pool]

theorem endpoint_destination (u : Url) : u.destination.endpoint = u.endpoint := by
  obtain ⟨scheme, authority, path, query, fragment⟩ := u
  unfold Url.destination
  cases authority with
  | none => rfl
  | some a => split <;> rfl

theorem scheme_destination (u : Url) : u.destination.scheme = u.scheme := by
  unfold Url.destination
  split <;> rfl

/-- One endpoint for all requests to a node. -/
theorem exists_endpoint (options : Options) (a : Address) : ∃ endpoint, ∀ path url, Url.IsPlainPath path.toList →
    Url.parse? (options.scheme ++ "://" ++ a.text ++ path) = some url → url.destination.isRequestable = true →
      url.destination.endpoint = endpoint := by
  obtain ⟨ds, d, hds⟩ : ∃ ds d, Text.decimalDigits a.port.toNat = ds ++ [d] := by
    rcases List.eq_nil_or_concat (Text.decimalDigits a.port.toNat) with h | ⟨ds, d, h⟩
    · exact absurd h (Text.decimalDigits_ne_nil _)
    · exact ⟨ds, d, h.trans List.concat_eq_append⟩
  have hd : (Text.digit? d).isSome = true := by
    obtain ⟨n, hn, rfl⟩ := Text.mem_decimalDigits (n := a.port.toNat) (c := d) (by rw [hds]; simp)
    rw [Text.digit?_digitChar hn]
    rfl
  obtain ⟨scheme, authority, horigin⟩ :=
    Url.parse?_origin (options.scheme.toList ++ "://".toList ++ (a.host.toList ++ ':' :: ds)) hd
  refine ⟨(⟨scheme, some authority, "", none, none⟩ : Url).endpoint, fun path url hpath hparse hreq => ?_⟩
  have htext : options.scheme ++ "://" ++ a.text ++ path =
      String.ofList (options.scheme.toList ++ "://".toList ++ (a.host.toList ++ ':' :: ds) ++ [d] ++ path.toList) := by
    rw [← String.toList_inj]
    simp [Address.text, Address.chars, hds]
  rw [htext] at hparse
  have hscheme : url.scheme = "http" ∨ url.scheme = "https" := by
    rw [← scheme_destination url]
    simp only [Url.isRequestable, Bool.and_eq_true, Bool.or_eq_true, decide_eq_true_eq] at hreq
    exact hreq.1.1
  obtain ⟨hs, ha⟩ := horigin path.toList url hpath hparse hscheme
  rw [endpoint_destination, Url.endpoint, Url.endpoint, Url.host?, Url.host?, hs, ha]

theorem exists_goesTo (options : Options) (limit : Option Nat) (c : Call) : ∃ endpoint, ∀ ss r,
    (∀ s ∈ ss, Url.IsPlainPath s.path.toList) → r ∈ requests (lineOf options limit c) ss →
      r.GoesTo options (addressee c) endpoint := by
  obtain ⟨endpoint, hend⟩ := exists_endpoint options (addressee c).address
  refine ⟨endpoint, fun ss r hss h => ?_⟩
  obtain ⟨s, hmem, hs⟩ := List.mem_filterMap.1 h
  obtain ⟨url, hu, rfl⟩ := Option.map_eq_some_iff.1 hs
  obtain ⟨hparse, hreq⟩ := Option.filter_eq_some_iff.1 hu
  exact ⟨s.path, url, hparse, hend s.path url (hss s hmem) hparse hreq, rfl, List.map_append⟩

/-- How far a call gets does not depend on its limit. -/
theorem progress_lineOf (options : Options) (limit : Option Nat) (c : Call) (ss : List Step)
    (reaction : Nat → Reaction) :
    progress (lineOf options limit c) ss reaction = progress (lineOf options none c) ss reaction := by
  induction ss generalizing reaction with
  | nil => rfl
  | cons s ss ih =>
    have hs : s.succeeds (lineOf options limit c) (reaction 0) = s.succeeds (lineOf options none c) (reaction 0) := rfl
    rw [progress, progress, hs, ih]

theorem perform_spec (options : Options) (c : Call) (p : Peer) :
    let x := hold { p with elapsed := 0 } (dialogue options none c)
    (perform options p c).1 = x.2 ∧ ((perform options p c).2 = none ↔ x.1 = .ok () ∨ x.1 = .error .outOfTime) := by
  dsimp only
  rw [perform_eq]
  rcases hold { p with elapsed := 0 } (dialogue options none c) with ⟨(why | _) | _, p'⟩ <;> simp

theorem performWithin_spec (options : Options) (limit : Span) (c : Call) (p : Peer) :
    let x := hold { p with elapsed := 0 } (dialogue options (some limit.ceilMillis) c)
    (performWithin options p limit c).1 = x.2 ∧ ((performWithin options p limit c).2.1 = .done ↔ x.1 = .ok ()) := by
  dsimp only
  rw [performWithin_eq]
  rcases hold { p with elapsed := 0 } (dialogue options (some limit.ceilMillis) c) with ⟨(why | _) | _, p'⟩ <;> simp

/-- What the peer has seen of a call, and whether the call succeeds, whoever waits for it. -/
theorem perform_follows (options : Options) (c : Call) (p : Peer) :
    let l := lineOf options none c
    let script := steps options p.pool c
    let n := progress l script p.reaction
    let asked := requests l (script.take (n + 1))
    let sent := requests l (script.take (reach l script p.reaction))
    ((perform options p c).1.seen = p.seen ++ sent ∧ (perform options p c).1.script = p.script.drop asked.length ∧
      ((perform options p c).2 = none ↔ n = script.length)) ∧
    ∀ limit, (performWithin options p limit c).1.seen = p.seen ++ sent ∧
      (performWithin options p limit c).1.script = p.script.drop asked.length ∧
      ((performWithin options p limit c).2.1 = .done ↔ n = script.length) := by
  intro l script n asked sent
  refine ⟨?_, fun limit => ?_⟩
  · obtain ⟨hpeer, hnone⟩ := perform_spec options c p
    have h := follows_dialogue (p := { p with elapsed := 0 }) options none c rfl
    have htime : (hold { p with elapsed := 0 } (dialogue options none c)).1 ≠ .error .outOfTime :=
      fun hx => h.inTime hx rfl
    rw [hpeer, hnone, or_iff_left htime]
    exact ⟨h.seen, h.script, h.ok⟩
  · obtain ⟨hpeer, hdone⟩ := performWithin_spec options limit c p
    have h := follows_dialogue (p := { p with elapsed := 0 }) options (some limit.ceilMillis) c rfl
    obtain ⟨hseen, hscript, hok, -⟩ := h
    rw [reach, progress_lineOf] at hseen
    rw [progress_lineOf] at hscript hok
    rw [hpeer, hdone]
    exact ⟨hseen, hscript, hok⟩

/-- **Every call is its script of requests.**  It makes the requests of its steps up to the first that fails, and the peer
reacts to each of them; it sees all of them, but for the last one if no connection comes about for it. -/
theorem calls_scripted (options : Options) (c : Call) (p : Peer) :
    let l := lineOf options none c
    let script := steps options p.pool c
    let n := progress l script p.reaction
    let asked := requests l (script.take (n + 1))
    let sent := requests l (script.take (reach l script p.reaction))
    ((perform options p c).1.seen = p.seen ++ sent ∧ (perform options p c).1.script = p.script.drop asked.length ∧
      ((perform options p c).2 = none ↔ n = script.length)) ∧
    (∀ limit, (performWithin options p limit c).1.seen = p.seen ++ sent ∧
      (performWithin options p limit c).1.script = p.script.drop asked.length ∧
      ((performWithin options p limit c).2.1 = .done ↔ n = script.length)) ∧
    ∃ endpoint, ∀ r ∈ sent, r.GoesTo options (addressee c) endpoint := by
  intro l script n asked sent
  obtain ⟨hperform, hwithin⟩ := perform_follows options c p
  obtain ⟨endpoint, hend⟩ := exists_goesTo options none c
  exact ⟨hperform, hwithin, endpoint,
    fun r hr => hend _ r (fun s hs => isPlainPath_of_mem_steps (List.mem_of_mem_take hs)) hr⟩

/-- Secure connections, of which the third does not come about. -/
example :
    let node : Target := ⟨⟨"n"⟩, ⟨"[::1]", 1⟩, ⟨"u", "p"⟩⟩
    let p : Peer := { script := [.respond ⟨404, .cutOff⟩, .respond ⟨200, .whole []⟩, .unconnected 5, .close] }
    let left := perform { scheme := "https" } p (.bootstrap node)
    left.1.seen.map (fun r => (r.method, r.url, r.authorizations)) =
      [("GET", "https://[::1]:1/pools/default", ["Basic dTpw"]),
        ("POST", "https://[::1]:1/pools/default", ["Basic dTpw"])] ∧
    left.1.script = [.close] ∧
    left.2 = some (.unreachable node.address "error sending request for url (https://[::1]:1/settings/web)") := by
  decide +kernel

end ClusterMembership.Rest
