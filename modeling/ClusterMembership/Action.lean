import ClusterMembership.Json.Reader
import ClusterMembership.Json.Value
/-!
# Administrative actions

The six things that a backing cluster can be asked to do, and the kinds of failure by which its answers are sorted. Each
action has a kind of its own (`Action.failureKind`).
-/
namespace ClusterMembership

/-- What a backing cluster can be asked to do. -/
inductive Action where
  /-- Make a node the coordinator of a new cluster. -/
  | bootstrap
  /-- Take a node into the cluster. -/
  | join
  /-- Remove a node from the cluster. -/
  | leave
  /-- Apply the staged changes. -/
  | commit
  /-- Spread the data over the members. -/
  | rebalance
  /-- Evict a failed node and start it afresh. -/
  | recover
deriving DecidableEq

/-- The kind of a failed action. -/
inductive FailureKind where
  | bootstrapFailed
  | joinRejected
  | alreadyMember
  | leaveRejected
  | commitFailed
  | rebalanceFailed
  | recoveryFailed
  | unreachable
  | other
deriving DecidableEq

namespace Action

/-- The actions, in the order in which messages list them. -/
def all : List Action := [bootstrap, join, leave, commit, rebalance, recover]

def name : Action → String
  | bootstrap => "initialize-coordinator"
  | join => "join"
  | leave => "leave"
  | commit => "commit"
  | rebalance => "rebalance"
  | recover => "recover-failed-node"

def label : Action → String
  | bootstrap => "InitializeCoordinator"
  | join => "Join"
  | leave => "Leave"
  | commit => "Commit"
  | rebalance => "Rebalance"
  | recover => "RecoverFailedNode"

/-- The kind of failure that belongs to an action. -/
def failureKind : Action → FailureKind
  | bootstrap => .bootstrapFailed
  | join => .joinRejected
  | leave => .leaveRejected
  | commit => .commitFailed
  | rebalance => .rebalanceFailed
  | recover => .recoveryFailed

def ofName? (name : String) : Option Action := all.find? (·.name = name)

def toJson (a : Action) : Json.Value := .string a.name

def read : Json.Reader Action := Json.readChoice (all.map fun a => (a.name, a))

theorem mem_all (a : Action) : a ∈ all := by cases a <;> decide

theorem name_inj {a b : Action} (h : a.name = b.name) : a = b := by
  cases a <;> cases b <;> first | rfl | exact absurd h (by decide)

end Action

namespace FailureKind

def name : FailureKind → String
  | bootstrapFailed => "BootstrapFailed"
  | joinRejected => "JoinRejected"
  | alreadyMember => "AlreadyMember"
  | leaveRejected => "LeaveRejected"
  | commitFailed => "CommitFailed"
  | rebalanceFailed => "RebalanceFailed"
  | recoveryFailed => "RecoveryFailed"
  | unreachable => "Unreachable"
  | other => "Other"

end FailureKind

end ClusterMembership
