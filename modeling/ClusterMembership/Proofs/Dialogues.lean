import ClusterMembership.Rest.Operation
/-!
# Dialogues with a peer

`hold` runs a dialogue with a peer.  What a single request can come to is said once (`exchange_spec`): it cannot be made, it
is answered, or it is not, be it that no connection came about.  A request that was answered took no time, so a caller gives
up only where a request fails anyway.
-/
namespace ClusterMembership.Rest

variable {α β : Type} {l : Line} {p : Peer}

/-- The end of a dialogue with a peer, and the peer that it leaves. -/
def hold (p : Peer) (d : Dialogue α) : Except Stop α × Peer := d.run.run p

@[simp] theorem hold_throw (p : Peer) (e : Stop) : hold p (throw e : Dialogue α) = (.error e, p) := rfl

theorem hold_bind_of_ok {d : Dialogue α} {a : α} {p' : Peer} (h : hold p d = (.ok a, p')) (k : α → Dialogue β) :
    hold p (d >>= k) = hold p' (k a) := by
  unfold hold at *
  rw [ExceptT.run_bind, StateT.run_bind, h]
  rfl

theorem hold_bind_of_error {d : Dialogue α} {e : Stop} {p' : Peer} (h : hold p d = (.error e, p')) (k : α → Dialogue β) :
    hold p (d >>= k) = (.error e, p') := by
  unfold hold at *
  rw [ExceptT.run_bind, StateT.run_bind, h]
  rfl

theorem hold_tryCatch_of_ok {d : Dialogue α} {a : α} {p' : Peer} (h : hold p d = (.ok a, p')) (k : Stop → Dialogue α) :
    hold p (tryCatch d k) = (.ok a, p') := by
  unfold hold at *
  rw [ExceptT.run_tryCatch, StateT.run_bind, h]
  rfl

theorem hold_tryCatch_of_error {d : Dialogue α} {e : Stop} {p' : Peer} (h : hold p d = (.error e, p'))
    (k : Stop → Dialogue α) : hold p (tryCatch d k) = hold p' (k e) := by
  unfold hold at *
  rw [ExceptT.run_tryCatch, StateT.run_bind, h]
  rfl

theorem await_cases (limit : Option Nat) (wait : Nat) (p : Peer) :
    ∃ elapsed, hold p (await limit wait) = (.ok (), { p with elapsed }) ∨
      limit ≠ none ∧ hold p (await limit wait) = (.error .outOfTime, { p with elapsed }) := by
  cases limit with
  | none => exact ⟨p.elapsed + wait, .inl rfl⟩
  | some n =>
    by_cases h : p.elapsed + wait ≤ n
    · refine ⟨p.elapsed + wait, .inl ?_⟩
      show hold p (if p.elapsed + wait ≤ n then _ else _) = _
      rw [if_pos h]
      rfl
    · refine ⟨n, .inr ⟨nofun, ?_⟩⟩
      show hold p (if p.elapsed + wait ≤ n then _ else _) = _
      rw [if_neg h]
      rfl

theorem hold_await_zero (limit : Option Nat) (h : p.elapsed = 0) : hold p (await limit 0) = (.ok (), p) := by
  obtain ⟨script, otherwise, seen, elapsed⟩ := p
  obtain rfl : elapsed = 0 := h
  cases limit <;> rfl

theorem Peer.reaction_after (p : Peer) (r : Request) : (p.after r).reaction = fun i => p.reaction (i + 1) := by
  funext i
  unfold reaction after
  cases p.script <;> rfl

/-- The URL for a path; `none` where no request can go there. -/
def Line.url? (l : Line) (path : String) : Option Url :=
  (Url.parse? (l.urlText path)).filter (·.destination.isRequestable)

/-- No connection comes about, or the request is left hanging for longer than it has time. -/
def Reaction.isLost (requestTimeout : Nat) : Reaction → Bool
  | unconnected _ => true
  | hang ms => requestTimeout < ms
  | _ => false

/-- What a request comes to, and the peer that it leaves. -/
inductive Exchanged (l : Line) (path : String) (form : Option Text.Form) (p : Peer) :
    Except Stop Response × Peer → Prop where
  | unsent (hu : l.url? path = none) (f : TransportFailure) (hf : f = .noUrl ∨ ∃ url, f = .unsuitable url) :
    Exchanged l path form p (.error (.refused (f.reason l.action l.address)), p)
  | answered {url : Url} (hu : l.url? path = some url) (r : Response) (hx : p.reaction 0 = .respond r) :
    Exchanged l path form p (.ok r, p.after (l.request url form))
  | unanswered {url : Url} (hu : l.url? path = some url) (hx : ∀ r, p.reaction 0 ≠ .respond r) (f : TransportFailure)
    (hf : f = if (p.reaction 0).isLost l.options.requestTimeout then .unreachable url.destination
      else .closed url.destination) (elapsed : Nat) :
    Exchanged l path form p
      (.error (.refused (f.reason l.action l.address)), { p.after (l.request url form) with elapsed })
  | abandoned {url : Url} (hu : l.url? path = some url) (hx : ∀ r, p.reaction 0 ≠ .respond r) (hl : l.limit ≠ none)
    (elapsed : Nat) :
    Exchanged l path form p (.error .outOfTime, { p.after (l.request url form) with elapsed })

theorem Line.verdict_eq_fail (l : Line) (url : Url) {reaction : Reaction} (hx : ∀ r, reaction ≠ .respond r) :
    l.verdict url reaction =
      l.fail (if reaction.isLost l.options.requestTimeout then .unreachable url else .closed url) := by
  cases reaction with
  | respond r => exact absurd rfl (hx r)
  | hang ms => simp [verdict, Reaction.isLost]
  | close => rfl
  | unconnected ms => rfl

theorem exchanged_of_sent {url : Url} (path : String) (form : Option Text.Form) (h : p.elapsed = 0)
    (hu : l.url? path = some url) :
    Exchanged l path form p (hold (p.after (l.request url form)) do
      await l.limit ((p.reaction 0).wait l.options.requestTimeout)
      l.verdict url.destination (p.reaction 0)) := by
  by_cases hx : ∀ r, p.reaction 0 ≠ .respond r
  · obtain ⟨elapsed, ha | ⟨hl, ha⟩⟩ :=
      await_cases l.limit ((p.reaction 0).wait l.options.requestTimeout) (p.after (l.request url form))
    · rw [hold_bind_of_ok ha, l.verdict_eq_fail url.destination hx]
      exact .unanswered hu hx _ rfl elapsed
    · rw [hold_bind_of_error ha]
      exact .abandoned hu hx hl elapsed
  · -- a response takes no time, so that no limit can get in its way
    simp only [Classical.not_forall, ne_eq, Classical.not_not] at hx
    obtain ⟨r, hx⟩ := hx
    have hwait : hold (p.after (l.request url form)) (await l.limit ((Reaction.respond r).wait l.options.requestTimeout)) =
        (.ok (), p.after (l.request url form)) := hold_await_zero l.limit h
    rw [hx, hold_bind_of_ok hwait]
    exact .answered hu r hx

/-- **What one request can come to.** -/
theorem exchange_spec (l : Line) (path : String) (form : Option Text.Form) (h : p.elapsed = 0) :
    Exchanged l path form p (hold p (l.exchange path form)) := by
  unfold Line.exchange
  cases hp : Url.parse? (l.urlText path) with
  | none => exact .unsent (by rw [Line.url?, hp]; rfl) .noUrl (.inl rfl)
  | some url =>
    simp only
    by_cases hq : url.destination.isRequestable = true
    · have hu : l.url? path = some url := by rw [Line.url?, hp, Option.filter_some, if_pos hq]
      have hsend : hold p (modifyGet fun p => (p.reaction 0, p.after (l.request url form)) : Dialogue Reaction) =
          (.ok (p.reaction 0), p.after (l.request url form)) := rfl
      have hbind := hold_bind_of_ok hsend fun reaction => do
        await l.limit (reaction.wait l.options.requestTimeout)
        l.verdict url.destination reaction
      rw [hq, Bool.not_true, if_neg Bool.false_ne_true]
      exact hbind ▸ exchanged_of_sent path form h hu
    · rw [Bool.not_eq_true] at hq
      have hu : l.url? path = none := by
        rw [Line.url?, hp, Option.filter_some, hq]; rfl
      rw [hq]
      exact .unsent hu _ (.inr ⟨_, rfl⟩)

/-- A dialogue that stops and has done nothing to the peer; the caller's time is up only where it is limited. -/
def Stops (limit : Option Nat) (p : Peer) (x : Except Stop α × Peer) : Prop :=
  ∃ e elapsed, x = (.error e, { p with elapsed }) ∧ (e = .outOfTime → limit ≠ none)

theorem stops_throw_refused (limit : Option Nat) (p : Peer) (why : Reason) :
    Stops limit p (hold p (throw (.refused why) : Dialogue α)) := ⟨.refused why, p.elapsed, rfl, nofun⟩

theorem Stops.bind {limit : Option Nat} {d : Dialogue α} (h : Stops limit p (hold p d)) (k : α → Dialogue β) :
    Stops limit p (hold p (d >>= k)) := by
  obtain ⟨e, elapsed, hd, he⟩ := h
  exact ⟨e, elapsed, hold_bind_of_error hd k, he⟩

/-- The bytes of a body that arrives whole. -/
def Response.bytes? (r : Response) : Option (List UInt8) :=
  match r.body with
  | .whole bytes => some bytes
  | _ => none

theorem body_of_some (l : Line) (p : Peer) {r : Response} {bytes : List UInt8} (h : r.bytes? = some bytes) :
    hold p (l.body r) = (.ok bytes, p) := by
  obtain ⟨status, body⟩ := r
  cases body with
  | whole bytes' => cases h; rfl
  | _ => cases h

theorem body_of_none (l : Line) (p : Peer) {r : Response} (h : r.bytes? = none) :
    Stops l.limit p (hold p (l.body r)) := by
  obtain ⟨status, body⟩ := r
  cases body with
  | whole bytes => cases h
  | cutOff => exact stops_throw_refused ..
  | stalled =>
    obtain ⟨elapsed, ha | ⟨hl, ha⟩⟩ := await_cases l.limit l.options.requestTimeout p
    · exact ⟨_, elapsed, hold_bind_of_ok ha _, nofun⟩
    · exact ⟨.outOfTime, elapsed, hold_bind_of_error ha _, fun _ => hl⟩

/-! A call is its dialogue, held from the start of the peer's clock. -/

theorem perform_eq (options : Options) (p : Peer) (c : Call) :
    perform options p c = match hold { p with elapsed := 0 } (dialogue options none c) with
      | (.ok (), p) => (p, none)
      | (.error (.refused why), p) => (p, some why)
      | (.error .outOfTime, p) => (p, none) := rfl

theorem performWithin_eq (options : Options) (p : Peer) (limit : Span) (c : Call) :
    performWithin options p limit c = match hold { p with elapsed := 0 } (dialogue options (some limit.ceilMillis) c) with
      | (.ok (), p) => (p, .done, p.elapsed)
      | (.error (.refused why), p) => (p, .refused why.refusal, p.elapsed)
      | (.error .outOfTime, p) => (p, .timedOut, p.elapsed) := rfl

end ClusterMembership.Rest
