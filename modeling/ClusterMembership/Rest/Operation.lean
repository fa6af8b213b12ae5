import ClusterMembership.Rest.Peer
import ClusterMembership.Rest.Pool
/-!
# The operations of the administration interface

Every call is a short script of requests to one node, and it stops at the first that fails. Nodes of a pool are removed
and recovered through a rebalance, which names all known nodes.
-/
namespace ClusterMembership.Rest

namespace Line

/-- The body of a response, empty where it cannot be read. -/
def bodyOrNothing (l : Line) (r : Response) : Dialogue (List UInt8) :=
  tryCatch (l.body r) fun
  | .refused _ => return []
  | .outOfTime => throw .outOfTime

/-- The pool that the node serves, if it serves one. -/
def pool? (l : Line) : Dialogue (Option Pool) := do
  let r ← l.exchange "/pools/default" none
  if r.status = 200 then
    match Pool.ofBody? (← l.body r) with
    | some pool => return some pool
    | none => l.fail .unreadable
  else if r.status = 404 then return none
  else throw (.refused (.rejected l.action l.address r.status (Text.lossy (← l.bodyOrNothing r))))

def pool (l : Line) : Dialogue Pool := do
  match ← l.pool? with
  | some pool => return pool
  | none => throw (.refused (.notAMember l.action l.address))

/-- The fields of a rebalance that ejects at most one node. -/
def rebalanceForm (pool : Pool) (ejected : Option PoolNode) : Text.Form := [
  ("knownNodes", String.intercalate "," pool.names),
  ("ejectedNodes", (ejected.map (·.otpNode)).getD "")]

def rebalance (l : Line) (pool : Pool) (ejected : Option PoolNode) : Dialogue Unit :=
  l.post "/controller/rebalance" (rebalanceForm pool ejected)

end Line

/-- What a refused join says of a node that is a member already. -/
def alreadyMemberMark : String := "already part of cluster"

def hasPart (part : List Char) : List Char → Bool
  | [] => part.isEmpty
  | c :: cs => part.isPrefixOf (c :: cs) || hasPart part cs

/-- The refusal of a join that says that the node is a member already. -/
def marksMember : Reason → Bool
  | .rejected _ _ status body => status = 400 && hasPart alreadyMemberMark.toList body.toList
  | _ => false

/-- Makes a node the coordinator of a new cluster; it must not serve a pool yet. -/
def bootstrap (l : Line) : Dialogue Unit := do
  if (← l.pool?).isSome then throw (.refused (.alreadyInitialized l.address))
  l.post "/pools/default" [("memoryQuota", Text.decimal l.options.memoryQuota)]
  l.post "/settings/web"
    [("port", "SAME"), ("username", l.credentials.username), ("password", l.credentials.password)]

def join (l : Line) (a : Address) (c : Credentials) : Dialogue Unit :=
  tryCatch (l.post "/controller/addNode" [("hostname", a.text), ("user", c.username), ("password", c.password)])
    fun
    | .refused why => if marksMember why then throw (.refused (.alreadyMember a)) else throw (.refused why)
    | .outOfTime => throw .outOfTime

/-- Removes a node from the cluster, unless it is the last one. -/
def leave (l : Line) (a : Address) : Dialogue Unit := do
  let pool ← l.pool
  match pool.find? a with
  | none => throw (.refused (.notAMember l.action a))
  | some node =>
    if pool.nodes.length = 1 then throw (.refused (.lastMember a))
    else l.rebalance pool (some node)

def rebalance (l : Line) : Dialogue Unit := do
  let pool ← l.pool
  l.rebalance pool none

/-- Fails a node over, marks it for a full recovery, and rebalances. -/
def recover (l : Line) (a : Address) : Dialogue Unit := do
  let pool ← l.pool
  match pool.find? a with
  | none => throw (.refused (.notAMember l.action a))
  | some node => do
    l.post "/controller/failOver" [("otpNode", node.otpNode)]
    l.post "/controller/setRecoveryType" [("otpNode", node.otpNode), ("recoveryType", "full")]
    l.rebalance pool none

/-- The node that a call is sent to; a commit is sent to nobody. -/
def addressee : Call → Target
  | .bootstrap node => node
  | .join coordinator _ _ => coordinator
  | .leave coordinator _ => coordinator
  | .commit coordinator => coordinator
  | .rebalance coordinator => coordinator
  | .recover _ sponsor => sponsor

/-- A call as a dialogue with the node that it is sent to. Changes of membership take effect at once, so there is nothing
to commit. -/
def dialogue (options : Options) (limit : Option Nat) (c : Call) : Dialogue Unit :=
  let node := addressee c
  let line : Line := ⟨options, c.action, node.address, node.credentials, limit⟩
  match c with
  | .bootstrap _ => bootstrap line
  | .join _ a credentials => join line a credentials
  | .leave _ leaving => leave line leaving.address
  | .commit _ => return
  | .rebalance _ => rebalance line
  | .recover failed _ => recover line failed.address

/-- A call that its caller waits for to the end. -/
def perform (options : Options) (p : Peer) (c : Call) : Peer × Option Reason :=
  match (dialogue options none c).run.run { p with elapsed := 0 } with
  | (.ok (), p) => (p, none)
  | (.error (.refused why), p) => (p, some why)
  | (.error .outOfTime, p) => (p, none)

/-- A call that its caller waits for at most `limit`. Returns the time that passed as well, in milliseconds. -/
def performWithin (options : Options) (p : Peer) (limit : Span) (c : Call) : Peer × Answer × Nat :=
  match (dialogue options (some limit.ceilMillis) c).run.run { p with elapsed := 0 } with
  | (.ok (), p) => (p, .done, p.elapsed)
  | (.error (.refused why), p) => (p, .refused why.refusal, p.elapsed)
  | (.error .outOfTime, p) => (p, .timedOut, p.elapsed)

end ClusterMembership.Rest
