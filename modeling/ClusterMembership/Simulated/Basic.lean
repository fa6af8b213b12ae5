import ClusterMembership.Simulated.Refusal
/-!
# A simulated backing cluster

A cluster in memory that joins and leaves at once or, if it stages changes, with the next commit. It records every call,
and it can be told to fail. `SimulatedCluster.effective` is the membership as it will be when the plan is committed: the
plan folded over the members.
-/
namespace ClusterMembership

/-- A call as it is recorded. -/
inductive Record where
  | bootstrap (node : NodeId)
  | join (coordinator : NodeId) (address : Address)
  | leave (coordinator leaving : NodeId)
  | commit (coordinator : NodeId)
  | rebalance (coordinator : NodeId)
  | recover (failed sponsor : NodeId)
deriving DecidableEq

def Record.action : Record → Action
  | bootstrap _ => .bootstrap
  | join .. => .join
  | leave .. => .leave
  | commit _ => .commit
  | rebalance _ => .rebalance
  | recover .. => .recover

/-- The words of a recorded call: its action and what it was about. -/
def Record.words : Record → List String
  | bootstrap node => [Action.bootstrap.name, node.text]
  | join coordinator address => [Action.join.name, coordinator.text, address.text]
  | leave coordinator leaving => [Action.leave.name, coordinator.text, leaving.text]
  | commit coordinator => [Action.commit.name, coordinator.text]
  | rebalance coordinator => [Action.rebalance.name, coordinator.text]
  | recover failed sponsor => [Action.recover.name, failed.text, sponsor.text]

def Call.record : Call → Record
  | bootstrap node => .bootstrap node.id
  | join coordinator address _ => .join coordinator.id address
  | leave coordinator leaving => .leave coordinator.id leaving.id
  | commit coordinator => .commit coordinator.id
  | rebalance coordinator => .rebalance coordinator.id
  | recover failed sponsor => .recover failed.id sponsor.id

/-- A staged change. -/
inductive Change where
  | join (a : Address)
  | leave (a : Address)
deriving DecidableEq

namespace Simulated

/-- The members with one more, if it is new. -/
def including (members : List Address) (a : Address) : List Address :=
  if members.contains a then members else members ++ [a]

def excluding (members : List Address) (a : Address) : List Address := members.filter (· ≠ a)

def applyChange (members : List Address) : Change → List Address
  | .join a => including members a
  | .leave a => excluding members a

theorem mem_including {members : List Address} {a b : Address} : b ∈ including members a ↔ b = a ∨ b ∈ members := by
  unfold including
  split
  · next h =>
    have : a ∈ members := by simpa using h
    constructor
    · exact .inr
    · rintro (rfl | hb) <;> assumption
  · simp [or_comm]

theorem mem_excluding {members : List Address} {a b : Address} : b ∈ excluding members a ↔ b ∈ members ∧ b ≠ a := by
  simp [excluding]

end Simulated

/-- A backing cluster in memory. -/
structure SimulatedCluster where
  /-- Joins and leaves wait for a commit. -/
  stages : Bool
  /-- The calls so far. -/
  log : List Record := []
  /-- The addresses that were made coordinators. -/
  initialized : List Address := []
  members : List Address := []
  plan : List Change := []
  /-- How many of the next calls of an action fail. -/
  failNext : List (Action × Nat) := []
  /-- The actions that always fail. -/
  failAlways : List Action := []
  /-- The addresses that may not join. -/
  refused : List Address := []
  /-- The credentials that a join has to give. -/
  expected : Option Credentials := none
  /-- How long a call takes, in milliseconds. -/
  latency : Nat := 0

namespace SimulatedCluster

open Simulated

/-- The members as they will be once the plan is committed. -/
def effective (s : SimulatedCluster) : List Address := s.plan.foldl applyChange s.members

/-- How many of the next calls of an action fail. -/
def outstanding (s : SimulatedCluster) (a : Action) : Nat := ((s.failNext.find? (·.1 = a)).map (·.2)).getD 0

/-- The entries with the counter of `a` set to `n`; a counter at zero is not kept. -/
def setCounter (counters : List (Action × Nat)) (a : Action) (n : Nat) : List (Action × Nat) :=
  let rest := counters.filter (·.1 ≠ a)
  if n = 0 then rest else (a, n) :: rest

/-! ## Telling it what to do -/

/-- One more of the next calls of an action fails. -/
def addFailure (s : SimulatedCluster) (a : Action) : SimulatedCluster :=
  { s with failNext := setCounter s.failNext a (s.outstanding a + 1) }

/-- Every call of an action fails from now on. -/
def failEvery (s : SimulatedCluster) (a : Action) : SimulatedCluster :=
  { s with failAlways := a :: s.failAlways.filter (· ≠ a) }

/-- Every join of an address is refused from now on. -/
def refuseJoin (s : SimulatedCluster) (a : Address) : SimulatedCluster := { s with refused := including s.refused a }

def clearFailures (s : SimulatedCluster) : SimulatedCluster :=
  { s with failNext := [], failAlways := [], refused := [] }

/-- A join has to give these credentials from now on. -/
def expect (s : SimulatedCluster) (c : Credentials) : SimulatedCluster := { s with expected := some c }

def clearLog (s : SimulatedCluster) : SimulatedCluster := { s with log := [] }

def logOf (s : SimulatedCluster) (a : Action) : List Record := s.log.filter (·.action = a)

/-! ## Calls -/

/-- The calls that fail before anything else is looked at. A permanent failure uses up none of the counted ones. -/
def takeFailure (s : SimulatedCluster) (a : Action) : SimulatedCluster × Option Reason :=
  if s.failAlways.contains a then (s, some (.injected a))
  else
    match s.outstanding a with
    | 0 => (s, none)
    | n + 1 => ({ s with failNext := setCounter s.failNext a n }, some (.injected a))

def change (s : SimulatedCluster) (c : Change) : SimulatedCluster :=
  if s.stages then { s with plan := s.plan ++ [c] } else { s with members := applyChange s.members c }

/-- What stands against a call, the failures that were asked for apart. -/
def objection? (s : SimulatedCluster) : Call → Option Reason
  | .bootstrap node =>
    if s.initialized.contains node.address then
      some (.bootstrapFailed (node.address.text ++ " is already initialized"))
    else none
  | .join coordinator address credentials =>
    if s.refused.contains address then some (.joinRejected (address.text ++ " was refused"))
    else if s.expected.any (· ≠ credentials) then
      some (.joinRejected ("invalid credentials for " ++ address.text))
    else if !s.effective.contains coordinator.address then
      some (.joinRejected ("coordinator " ++ coordinator.address.text ++ " is not part of a cluster"))
    else if s.effective.contains address then some (.alreadyMember address.text)
    else none
  | .leave _ leaving =>
    if !s.effective.contains leaving.address then
      some (.leaveRejected (leaving.address.text ++ " is not a member"))
    else if s.effective.length = 1 then
      some (.leaveRejected (leaving.address.text ++ " is the last remaining member"))
    else none
  | .commit _ => none
  | .rebalance _ => none
  | .recover failed sponsor =>
    if failed.address = sponsor.address then
      some (.recoveryFailed "a node cannot sponsor its own recovery")
    else if !s.members.contains sponsor.address then
      some (.recoveryFailed ("sponsor " ++ sponsor.address.text ++ " is not a member"))
    else none

def carryOut (s : SimulatedCluster) : Call → SimulatedCluster
  | .bootstrap node =>
    { s with initialized := including s.initialized node.address, plan := [], members := [node.address] }
  | .join _ address _ => s.change (.join address)
  | .leave _ leaving => s.change (.leave leaving.address)
  | .commit _ => { s with members := s.effective, plan := [] }
  | .rebalance _ => s
  | .recover failed _ =>
    { s with initialized := excluding s.initialized failed.address, members := including s.members failed.address }

def answer (s : SimulatedCluster) (c : Call) : SimulatedCluster × Option Reason :=
  match s.takeFailure c.action with
  | (s, some r) => (s, some r)
  | (s, none) =>
    match s.objection? c with
    | some r => (s, some r)
    | none => (s.carryOut c, none)

def record (s : SimulatedCluster) (c : Call) : SimulatedCluster := { s with log := s.log ++ [c.record] }

/-- A call that its caller waits for: it is recorded, the latency passes, and it takes effect. -/
def perform (s : SimulatedCluster) (c : Call) : SimulatedCluster × Option Reason := (s.record c).answer c

/-- A call that its caller waits for at most `limit`: one that takes longer is recorded and has no effect. Returns the
time that passed as well, in milliseconds. -/
def performWithin (s : SimulatedCluster) (limit : Span) (c : Call) : SimulatedCluster × Answer × Nat :=
  if s.latency = 0 ∨ s.latency ≤ limit.ceilMillis then
    match s.perform c with
    | (s, none) => (s, .done, s.latency)
    | (s, some r) => (s, .refused r.refusal, s.latency)
  else (s.record c, .timedOut, limit.ceilMillis)

def sortedMembers (s : SimulatedCluster) : List String :=
  (s.members.map Address.text).mergeSort fun a b => !(b < a)

end SimulatedCluster

end ClusterMembership
