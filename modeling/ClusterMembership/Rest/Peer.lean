import ClusterMembership.Rest.Destination
import ClusterMembership.Rest.Refusal
import ClusterMembership.Text.Base64
import ClusterMembership.Text.Form
/-!
# Requests and the peer that answers them

A `Peer` reacts to requests by a script, one reaction for each, and keeps the requests that it saw. Every request needs
a connection, a secure one if its URL says so, and whether that comes about is part of the reaction. `Line.exchange`
sends one request and gives the response or the transport failure; `Line.body` then reads the body, which may fail on
its own. Time passes only where the peer leaves a connection, a request or a body hanging; a caller that waits no longer
than a limit gives up when the time is up.
-/
namespace ClusterMembership.Rest

/-- A request as the peer sees it. -/
structure Request where
  method : String
  url : String
  /-- The values of the header, in order. -/
  authorizations : List String := []
  contentType : Option String := none
  body : String := ""
deriving DecidableEq

/-- What arrives of a body. -/
inductive Body where
  | whole (bytes : List UInt8)
  /-- The connection breaks before the announced length. -/
  | cutOff
  /-- The rest does not come while the request has time. -/
  | stalled
deriving DecidableEq

/-- A response with its body. -/
structure Response where
  status : Nat
  body : Body
deriving DecidableEq

/-- What the peer does with a request. -/
inductive Reaction where
  | respond (r : Response)
  /-- Lets the time pass and closes the connection. -/
  | hang (ms : Nat)
  /-- Closes the connection. -/
  | close
  /-- No connection comes about, as is known after this time: it is refused, or it is not secure where it has to be. -/
  | unconnected (ms : Nat)
deriving DecidableEq

/-- The request comes to the peer. -/
def Reaction.connects : Reaction → Bool
  | unconnected _ => false
  | _ => true

/-- A peer with what it has still to do and what it has seen. -/
structure Peer where
  script : List Reaction := []
  /-- What it does at the end of its script. -/
  otherwise : Reaction := .close
  seen : List Request := []
  /-- The time that passed in waiting for it, in milliseconds. -/
  elapsed : Nat := 0

/-- How the administration interface is used. -/
structure Options where
  /-- Memory given to the data service of a fresh node, in megabytes. -/
  memoryQuota : Nat := 256
  /-- The time after which a request is given up, in milliseconds. -/
  requestTimeout : Nat := 30000
  scheme : String := "http"

/-- Why a call stops before its end. -/
inductive Stop where
  | refused (why : Reason)
  /-- The caller's time is up. -/
  | outOfTime

/-- A dialogue with the peer that may stop early. -/
abbrev Dialogue := ExceptT Stop (StateM Peer)

/-- Why no response came. -/
inductive TransportFailure where
  /-- The address makes no URL. -/
  | noUrl
  /-- No request can go to the URL, one of another protocol for instance. -/
  | unsuitable (url : Url)
  /-- No connection could be made, or the time of the request is up. -/
  | unreachable (url : Url)
  /-- The connection was closed without a response. -/
  | closed (url : Url)
  /-- The body of the response could not be read. -/
  | unreadable
  /-- The time of the request was up before its body was there. -/
  | overdue
deriving DecidableEq

def TransportFailure.message : TransportFailure → String
  | noUrl => "builder error"
  | unsuitable url => "builder error for url (" ++ url.text ++ ")"
  | unreachable url => "error sending request for url (" ++ url.text ++ ")"
  | closed url => "error sending request for url (" ++ url.text ++ ")"
  | unreadable => "error decoding response body"
  | overdue => "error decoding response body"

/-- The reason that a transport failure gives to a call of an action at an address. -/
def TransportFailure.reason (action : Action) (a : Address) (f : TransportFailure) : Reason :=
  match f with
  | unreachable _ => .unreachable a f.message
  | overdue => .unreachable a f.message
  | f => .http action a f.message

/-- The time until the reaction shows, given when the request is given up. -/
def Reaction.wait (requestTimeout : Nat) : Reaction → Nat
  | hang ms => min ms requestTimeout
  | unconnected ms => min ms requestTimeout
  | _ => 0

/-- What the peer does with the requests to come, counted from zero. -/
def Peer.reaction (p : Peer) (i : Nat) : Reaction := p.script.getD i p.otherwise

/-- The peer once a request has been sent to it. -/
def Peer.after (p : Peer) (r : Request) : Peer :=
  { p with script := p.script.tail, seen := if (p.reaction 0).connects then p.seen ++ [r] else p.seen }

/-- Waits for a time, as long as the caller's time allows. -/
def await (limit : Option Nat) (wait : Nat) : Dialogue Unit := do
  let elapsed := (← get).elapsed
  match limit with
  | none => modify fun p => { p with elapsed := elapsed + wait }
  | some limit =>
    if elapsed + wait ≤ limit then modify fun p => { p with elapsed := elapsed + wait }
    else do
      modify fun p => { p with elapsed := limit }
      throw .outOfTime

def basicAuthorization (c : Credentials) : String :=
  "Basic " ++ Text.base64 (Text.octets (c.username ++ ":" ++ c.password))

def formType : String := "application/x-www-form-urlencoded"

/-- Where and how a call sends its requests. -/
structure Line where
  options : Options
  action : Action
  address : Address
  credentials : Credentials
  /-- The caller's time, in milliseconds. -/
  limit : Option Nat

def Line.urlText (l : Line) (path : String) : String := l.options.scheme ++ "://" ++ l.address.text ++ path

/-- The request for a URL, with a form as its body if there is one. A user that the URL names is authorized before the
one that the call is made for. -/
def Line.request (l : Line) (url : Url) (form : Option Text.Form) : Request where
  method := if form.isSome then "POST" else "GET"
  url := url.destination.withoutFragment.text
  authorizations := (url.user?.toList ++ [l.credentials]).map basicAuthorization
  contentType := form.map fun _ => formType
  body := (form.map Text.Form.encode).getD ""

def Line.fail {α : Type} (l : Line) (f : TransportFailure) : Dialogue α :=
  throw (.refused (f.reason l.action l.address))

/-- What comes of a request that was sent to a URL, once the peer has reacted. -/
def Line.verdict (l : Line) (url : Url) : Reaction → Dialogue Response
  | .respond r => return r
  | .hang ms => l.fail (if l.options.requestTimeout < ms then .unreachable url else .closed url)
  | .close => l.fail (.closed url)
  | .unconnected _ => l.fail (.unreachable url)

/-- Sends one request. -/
def Line.exchange (l : Line) (path : String) (form : Option Text.Form) : Dialogue Response := do
  match Url.parse? (l.urlText path) with
  | none => l.fail .noUrl
  | some url =>
    if !url.destination.isRequestable then l.fail (.unsuitable url.destination)
    else do
      let reaction ← modifyGet fun p => (p.reaction 0, p.after (l.request url form))
      await l.limit (reaction.wait l.options.requestTimeout)
      l.verdict url.destination reaction

def Line.body (l : Line) (r : Response) : Dialogue (List UInt8) := do
  match r.body with
  | .whole bytes => return bytes
  | .cutOff => l.fail .unreadable
  | .stalled => do
    await l.limit l.options.requestTimeout
    l.fail .overdue

def Response.isSuccess (r : Response) : Bool := 200 ≤ r.status && r.status ≤ 299

def Line.post (l : Line) (path : String) (form : Text.Form) : Dialogue Unit := do
  let r ← l.exchange path (some form)
  let bytes ← l.body r
  if r.isSuccess then return
  else throw (.refused (.rejected l.action l.address r.status (Text.lossy bytes)))

end ClusterMembership.Rest
