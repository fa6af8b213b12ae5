import ClusterMembership.Proofs.Dialogues
import Mathlib.Data.List.Forall2
/-!
# Passwords are confined to the credentials that are sent

A call is held side by side with the same call under other passwords.  Dialogues concur if peers that have seen the same
but for passwords cannot make them end differently, and are left as much alike (`Concur`).  Everything that a call is made
of concurs with itself under other passwords (`concur_dialogue`), so passwords reach the peer as credentials and reach
nobody else (`passwords_confined`).
-/
namespace ClusterMembership

def Credentials.withPassword (c : Credentials) (word : String) : Credentials := { c with password := word }

def Target.withPassword (t : Target) (word : String) : Target :=
  { t with credentials := t.credentials.withPassword word }

/-- The call with other passwords, that of the node it is sent to and that of the other node it is about. -/
def Call.withPasswords (c : Call) (own other : String) : Call :=
  match c with
  | bootstrap node => .bootstrap (node.withPassword own)
  | join coordinator a credentials => .join (coordinator.withPassword own) a (credentials.withPassword other)
  | leave coordinator leaving => .leave (coordinator.withPassword own) (leaving.withPassword other)
  | commit coordinator => .commit (coordinator.withPassword own)
  | rebalance coordinator => .rebalance (coordinator.withPassword own)
  | recover failed sponsor => .recover (failed.withPassword other) (sponsor.withPassword own)

namespace Rest

/-! ## What may differ -/

/-- Fields of one name, and of one value unless they give a password. -/
def FieldAlike (f f' : String × String) : Prop := f.1 = f'.1 ∧ (f.1 ≠ "password" → f.2 = f'.2)

def FormAlike (form form' : Text.Form) : Prop := List.Forall₂ FieldAlike form form'

/-- Values of the header that authorize users of one name. -/
def AuthorizationAlike (v v' : String) : Prop :=
  v = v' ∨ ∃ (c : Credentials) (word : String), v = basicAuthorization c ∧ v' = basicAuthorization (c.withPassword word)

/-- Requests that are the same but for the passwords of the users that they authorize, and for a password among the fields
of their form. -/
structure Request.Alike (r r' : Request) : Prop where
  method : r.method = r'.method
  url : r.url = r'.url
  contentType : r.contentType = r'.contentType
  authorizations : List.Forall₂ AuthorizationAlike r.authorizations r'.authorizations
  body : r.body = r'.body ∨
    ∃ form form' : Text.Form, r.body = form.encode ∧ r'.body = form'.encode ∧ FormAlike form form'

/-- Peers that are the same but for passwords in the requests that they have seen. -/
structure Peer.Alike (p p' : Peer) : Prop where
  script : p.script = p'.script
  otherwise : p.otherwise = p'.otherwise
  elapsed : p.elapsed = p'.elapsed
  seen : List.Forall₂ Request.Alike p.seen p'.seen

theorem FieldAlike.refl (f : String × String) : FieldAlike f f := ⟨rfl, fun _ => rfl⟩

theorem fieldAlike_password (word word' : String) : FieldAlike ("password", word) ("password", word') :=
  ⟨rfl, fun h => absurd rfl h⟩

theorem FormAlike.refl (form : Text.Form) : FormAlike form form := List.forall₂_same.2 fun f _ => .refl f

theorem Peer.Alike.reaction {p p' : Peer} (h : p.Alike p') : p.reaction = p'.reaction := by
  funext i
  rw [Peer.reaction, h.script, h.otherwise, Peer.reaction]

theorem Peer.Alike.after {p p' : Peer} {r r' : Request} (h : p.Alike p') (hr : r.Alike r') :
    (p.after r).Alike (p'.after r') where
  script := congrArg List.tail h.script
  otherwise := h.otherwise
  elapsed := h.elapsed
  seen := by
    unfold Peer.after
    rw [h.reaction]
    dsimp only
    split
    · exact List.rel_append h.seen (.cons hr .nil)
    · exact h.seen

theorem Peer.Alike.withElapsed {p p' : Peer} (h : p.Alike p') (elapsed : Nat) :
    Peer.Alike { p with elapsed } { p' with elapsed } := ⟨h.script, h.otherwise, rfl, h.seen⟩

/-! ## Dialogues that concur -/

variable {α β : Type}

/-- Held with peers that are alike, the dialogues end in the same way and leave the peers alike. -/
def Concur (d d' : Dialogue α) : Prop :=
  ∀ p p' : Peer, p.Alike p' → (hold p d).1 = (hold p' d').1 ∧ (hold p d).2.Alike (hold p' d').2

theorem concur_pure (a : α) : Concur (pure a) (pure a) := fun _ _ h => ⟨rfl, h⟩

theorem concur_throw (e : Stop) : Concur (throw e : Dialogue α) (throw e) := fun _ _ h => ⟨rfl, h⟩

theorem concur_modifyGet {f f' : Peer → α × Peer}
    (h : ∀ p p', p.Alike p' → (f p).1 = (f' p').1 ∧ (f p).2.Alike (f' p').2) :
    Concur (modifyGet f : Dialogue α) (modifyGet f') := by
  intro p p' hp
  obtain ⟨hvalue, hleft⟩ := h p p' hp
  exact ⟨congrArg Except.ok hvalue, hleft⟩

theorem Concur.exists_end {d d' : Dialogue α} (h : Concur d d') {p p' : Peer} (hp : p.Alike p') :
    ∃ x q q', hold p d = (x, q) ∧ hold p' d' = (x, q') ∧ q.Alike q' := by
  obtain ⟨hend, hleft⟩ := h p p' hp
  exact ⟨(hold p d).1, (hold p d).2, (hold p' d').2, rfl, Prod.ext hend.symm rfl, hleft⟩

theorem Concur.bind {d d' : Dialogue α} {k k' : α → Dialogue β} (h : Concur d d') (hk : ∀ a, Concur (k a) (k' a)) :
    Concur (d >>= k) (d' >>= k') := by
  intro p p' hp
  obtain ⟨e | a, q, q', hd, hd', hq⟩ := h.exists_end hp
  · rw [hold_bind_of_error hd, hold_bind_of_error hd']
    exact ⟨rfl, hq⟩
  · rw [hold_bind_of_ok hd, hold_bind_of_ok hd']
    exact hk a q q' hq

theorem Concur.tryCatch {d d' : Dialogue α} {k k' : Stop → Dialogue α} (h : Concur d d')
    (hk : ∀ e, Concur (k e) (k' e)) : Concur (tryCatch d k) (tryCatch d' k') := by
  intro p p' hp
  obtain ⟨e | a, q, q', hd, hd', hq⟩ := h.exists_end hp
  · rw [hold_tryCatch_of_error hd, hold_tryCatch_of_error hd']
    exact hk e q q' hq
  · rw [hold_tryCatch_of_ok hd, hold_tryCatch_of_ok hd']
    exact ⟨rfl, hq⟩

/-- What goes on from a look at the peer must not depend on what the peer has seen. -/
theorem concur_get {k k' : Peer → Dialogue β} (h : ∀ p p', p.Alike p' → Concur (k p) (k' p')) :
    Concur (get >>= k) (get >>= k') := fun p p' hp => h p p' hp p p' hp

/-! ## Requests -/

def Line.withPassword (l : Line) (word : String) : Line := { l with credentials := l.credentials.withPassword word }

theorem request_alike (l : Line) (word : String) (url : Url) {form form' : Option Text.Form}
    (h : Option.Rel FormAlike form form') : (l.request url form).Alike ((l.withPassword word).request url form') := by
  have hauth : List.Forall₂ AuthorizationAlike (l.request url form).authorizations
      ((l.withPassword word).request url form').authorizations := by
    unfold Line.request
    rw [List.map_append, List.map_append]
    exact List.rel_append (List.forall₂_same.2 fun _ _ => .inl rfl) (.cons (.inr ⟨l.credentials, word, rfl, rfl⟩) .nil)
  cases h with
  | none => exact ⟨rfl, rfl, rfl, hauth, .inl rfl⟩
  | some hform => exact ⟨rfl, rfl, rfl, hauth, .inr ⟨_, _, rfl, rfl, hform⟩⟩

theorem concur_send {r r' : Request} (h : r.Alike r') :
    Concur (modifyGet fun p => (p.reaction 0, p.after r) : Dialogue Reaction)
      (modifyGet fun p => (p.reaction 0, p.after r')) :=
  concur_modifyGet fun _ _ hp => ⟨congrFun hp.reaction 0, hp.after h⟩

theorem concur_await (limit : Option Nat) (wait : Nat) : Concur (await limit wait) (await limit wait) := by
  refine concur_get fun p p' hp => ?_
  have hset (elapsed : Nat) :
      Concur (modify fun p => { p with elapsed } : Dialogue Unit) (modify fun p => { p with elapsed }) :=
    concur_modifyGet fun q q' hq => ⟨rfl, hq.withElapsed elapsed⟩
  rw [hp.elapsed]
  cases limit with
  | none => exact hset _
  | some limit =>
    dsimp only
    split
    · exact hset _
    · exact (hset _).bind fun _ => concur_throw _

theorem concur_verdict (l : Line) (url : Url) (reaction : Reaction) :
    Concur (l.verdict url reaction) (l.verdict url reaction) := by
  cases reaction with
  | respond r => exact concur_pure r
  | _ => exact concur_throw _

/-- The passwords decide neither where a request goes nor what becomes of it. -/
theorem concur_exchange (l : Line) (word path : String) {form form' : Option Text.Form}
    (h : Option.Rel FormAlike form form') :
    Concur (l.exchange path form) ((l.withPassword word).exchange path form') := by
  have hurl : (l.withPassword word).urlText path = l.urlText path := rfl
  unfold Line.exchange
  rw [hurl]
  cases Url.parse? (l.urlText path) with
  | none => exact concur_throw _
  | some url =>
    dsimp only
    split
    · exact concur_throw _
    · refine (concur_send (request_alike l word url h)).bind fun reaction => ?_
      exact (concur_await l.limit _).bind fun _ => concur_verdict l url.destination reaction

theorem concur_body (l : Line) (r : Response) : Concur (l.body r) (l.body r) := by
  unfold Line.body
  cases r.body with
  | whole bytes => exact concur_pure bytes
  | cutOff => exact concur_throw _
  | stalled => exact (concur_await l.limit _).bind fun _ => concur_throw _

theorem concur_bodyOrNothing (l : Line) (r : Response) : Concur (l.bodyOrNothing r) (l.bodyOrNothing r) := by
  refine (concur_body l r).tryCatch fun e => ?_
  cases e with
  | refused why => exact concur_pure []
  | outOfTime => exact concur_throw _

theorem concur_post (l : Line) (word path : String) {form form' : Text.Form} (h : FormAlike form form') :
    Concur (l.post path form) ((l.withPassword word).post path form') := by
  refine (concur_exchange l word path (.some h)).bind fun r => ?_
  refine (concur_body l r).bind fun bytes => ?_
  split
  · exact concur_pure ()
  · exact concur_throw _

/-! ## Calls -/

theorem concur_pool? (l : Line) (word : String) : Concur l.pool? (l.withPassword word).pool? := by
  refine (concur_exchange l word "/pools/default" .none).bind fun r => ?_
  split
  · refine (concur_body l r).bind fun bytes => ?_
    split
    · exact concur_pure _
    · exact concur_throw _
  · split
    · exact concur_pure none
    · exact (concur_bodyOrNothing l r).bind fun bytes => concur_throw _

theorem concur_pool (l : Line) (word : String) : Concur l.pool (l.withPassword word).pool := by
  refine (concur_pool? l word).bind fun pool => ?_
  cases pool with
  | some pool => exact concur_pure pool
  | none => exact concur_throw _

theorem concur_startRebalance (l : Line) (word : String) (pool : Pool) (ejected : Option PoolNode) :
    Concur (l.rebalance pool ejected) ((l.withPassword word).rebalance pool ejected) :=
  concur_post l word _ (.refl _)

theorem concur_bootstrap (l : Line) (word : String) : Concur (bootstrap l) (bootstrap (l.withPassword word)) := by
  refine (concur_pool? l word).bind fun pool => ?_
  split
  · exact concur_throw _
  · refine (concur_post l word _ (.refl _)).bind fun _ => ?_
    exact concur_post l word _ (.cons (.refl _) (.cons (.refl _) (.cons (fieldAlike_password _ word) .nil)))

theorem concur_join (l : Line) (word : String) (a : Address) (c : Credentials) (other : String) :
    Concur (join l a c) (join (l.withPassword word) a (c.withPassword other)) := by
  have hform : FormAlike [("hostname", a.text), ("user", c.username), ("password", c.password)]
      [("hostname", a.text), ("user", c.username), ("password", other)] :=
    .cons (.refl _) (.cons (.refl _) (.cons (fieldAlike_password c.password other) .nil))
  refine (concur_post l word "/controller/addNode" hform).tryCatch fun e => ?_
  cases e with
  | refused why =>
    dsimp only
    split <;> exact concur_throw _
  | outOfTime => exact concur_throw _

theorem concur_leave (l : Line) (word : String) (a : Address) : Concur (leave l a) (leave (l.withPassword word) a) := by
  refine (concur_pool l word).bind fun pool => ?_
  cases pool.find? a with
  | none => exact concur_throw _
  | some node =>
    dsimp only
    split
    · exact concur_throw _
    · exact concur_startRebalance l word pool (some node)

theorem concur_rebalance (l : Line) (word : String) : Concur (rebalance l) (rebalance (l.withPassword word)) :=
  (concur_pool l word).bind fun pool => concur_startRebalance l word pool none

theorem concur_recover (l : Line) (word : String) (a : Address) :
    Concur (recover l a) (recover (l.withPassword word) a) := by
  refine (concur_pool l word).bind fun pool => ?_
  cases pool.find? a with
  | none => exact concur_throw _
  | some node =>
    refine (concur_post l word _ (.refl _)).bind fun _ => ?_
    refine (concur_post l word _ (.refl _)).bind fun _ => ?_
    exact concur_startRebalance l word pool none

/-- **A call concurs with itself under other passwords.** -/
theorem concur_dialogue (options : Options) (limit : Option Nat) (c : Call) (own other : String) :
    Concur (dialogue options limit c) (dialogue options limit (c.withPasswords own other)) := by
  cases c with
  | bootstrap node => exact concur_bootstrap _ own
  | join coordinator a credentials => exact concur_join _ own a credentials other
  | leave coordinator leaving => exact concur_leave _ own leaving.address
  | commit coordinator => exact concur_pure ()
  | rebalance coordinator => exact concur_rebalance _ own
  | recover failed sponsor => exact concur_recover _ own failed.address

theorem perform_alike (options : Options) {p p' : Peer} (h : p.Alike p') (c : Call) (own other : String) :
    (perform options p c).1.Alike (perform options p' (c.withPasswords own other)).1 ∧
      (perform options p c).2 = (perform options p' (c.withPasswords own other)).2 := by
  obtain ⟨(why | _) | _, q, q', hd, hd', hq⟩ :=
    (concur_dialogue options none c own other).exists_end (h.withElapsed 0)
  all_goals
    rw [perform_eq, perform_eq, hd, hd']
    exact ⟨hq, rfl⟩

theorem performWithin_alike (options : Options) {p p' : Peer} (h : p.Alike p') (limit : Span) (c : Call)
    (own other : String) :
    (performWithin options p limit c).1.Alike (performWithin options p' limit (c.withPasswords own other)).1 ∧
      (performWithin options p limit c).2 = (performWithin options p' limit (c.withPasswords own other)).2 := by
  obtain ⟨(why | _) | _, q, q', hd, hd', hq⟩ :=
    (concur_dialogue options (some limit.ceilMillis) c own other).exists_end (h.withElapsed 0)
  all_goals
    rw [performWithin_eq, performWithin_eq, hd, hd']
    exact ⟨hq, congrArg (Prod.mk _) hq.elapsed⟩

theorem perform_congr {options : Options} {c c' : Call}
    (h : ∀ limit, dialogue options limit c = dialogue options limit c') (p : Peer) :
    perform options p c = perform options p c' ∧
      ∀ limit, performWithin options p limit c = performWithin options p limit c' := by
  refine ⟨?_, fun limit => ?_⟩
  · rw [perform_eq, perform_eq, h]
  · rw [performWithin_eq, performWithin_eq, h]

/-- **Passwords are confined to the credentials that are sent.**  Whatever the peer does, a call under other passwords
ends in the same way after the same time, takes the same responses, and shows the peer the same requests but for passwords.
The password of a node that leaves or is recovered is of no account at all, and debugging output does not depend on any. -/
theorem passwords_confined (options : Options) :
    (∀ (p p' : Peer) (c : Call) (own other : String), p.Alike p' →
      ((perform options p c).1.Alike (perform options p' (c.withPasswords own other)).1 ∧
        (perform options p c).2 = (perform options p' (c.withPasswords own other)).2) ∧
      ∀ limit,
        (performWithin options p limit c).1.Alike (performWithin options p' limit (c.withPasswords own other)).1 ∧
        (performWithin options p limit c).2 = (performWithin options p' limit (c.withPasswords own other)).2) ∧
    (∀ (p : Peer) (node other : Target) (word : String),
      (perform options p (.leave node (other.withPassword word)) = perform options p (.leave node other) ∧
        ∀ limit, performWithin options p limit (.leave node (other.withPassword word)) =
          performWithin options p limit (.leave node other)) ∧
      (perform options p (.recover (other.withPassword word) node) = perform options p (.recover other node) ∧
        ∀ limit, performWithin options p limit (.recover (other.withPassword word) node) =
          performWithin options p limit (.recover other node))) ∧
    (∀ (c : Credentials) (word : String), (c.withPassword word).debug = c.debug) ∧
    ∀ (t : Target) (word : String),
      (t.withPassword word).debug = t.debug ∧ (t.withPassword word).debugOptions = t.debugOptions := by
  refine ⟨fun p p' c own other h => ⟨perform_alike options h c own other, fun limit => ?_⟩,
    fun p node other word => ?_, fun c word => rfl, fun t word => ⟨rfl, rfl⟩⟩
  · exact performWithin_alike options h limit c own other
  · have hleave (limit : Option Nat) :
        dialogue options limit (.leave node (other.withPassword word)) = dialogue options limit (.leave node other) := rfl
    have hrecover (limit : Option Nat) :
        dialogue options limit (.recover (other.withPassword word) node) = dialogue options limit (.recover other node) :=
      rfl
    exact ⟨perform_congr hleave p, perform_congr hrecover p⟩

/-- A join that is rejected, by two peers that have seen two passwords before. -/
theorem passwords_confined_rejected :
    let node : Target := ⟨⟨"n"⟩, ⟨"[::1]", 1⟩, ⟨"u", "p"⟩⟩
    let earlier (word : String) : Request := ⟨"POST", "http://[::1]:1/", [basicAuthorization ⟨"u", word⟩],
      some formType, Text.Form.encode [("password", word)]⟩
    let p (word : String) : Peer :=
      { script := [.respond ⟨400, .whole (Text.octets "no")⟩], seen := [earlier word] }
    let join : Call := .join node ⟨"k", 2⟩ ⟨"v", "p"⟩
    let rejected : Option Reason := some (.rejected .join node.address 400 "no")
    (p "p").Alike (p "q") ∧
    (perform {} (p "p") join).1.Alike (perform {} (p "q") (join.withPasswords "q" "&")).1 ∧
    (perform {} (p "p") join).2 = rejected ∧ (perform {} (p "q") (join.withPasswords "q" "&")).2 = rejected ∧
    (perform {} (p "p") join).1.seen.map (·.body) = ["password=p", "hostname=k%3A2&user=v&password=p"] ∧
    (perform {} (p "q") (join.withPasswords "q" "&")).1.seen.map (·.body) =
      ["password=q", "hostname=k%3A2&user=v&password=%26"] := by
  intro node earlier p join rejected
  have hform : FormAlike [("password", "p")] [("password", "q")] := .cons (fieldAlike_password "p" "q") .nil
  have hearlier : (earlier "p").Alike (earlier "q") :=
    ⟨rfl, rfl, rfl, .cons (.inr ⟨⟨"u", "p"⟩, "q", rfl, rfl⟩) .nil, .inr ⟨_, _, rfl, rfl, hform⟩⟩
  have hp : (p "p").Alike (p "q") := ⟨rfl, rfl, rfl, .cons hearlier .nil⟩
  obtain ⟨⟨hleft, hend⟩, -⟩ := (passwords_confined {}).1 (p "p") (p "q") join "q" "&" hp
  have hrejected : (perform {} (p "p") join).2 = rejected := by decide +kernel
  exact ⟨hp, hleft, hrejected, hend.symm.trans hrejected, by decide +kernel, by decide +kernel⟩

end Rest

end ClusterMembership
