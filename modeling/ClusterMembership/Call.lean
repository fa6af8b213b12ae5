import ClusterMembership.Action
import ClusterMembership.Target
import ClusterMembership.Span.Basic
/-!
# Calls to the backing cluster

A `Call` is one administrative action with what it is about, and an `Answer` is what becomes of it: it is done, it is
refused, or it is given up because it took longer than it may.
-/
namespace ClusterMembership

/-- One call to the backing cluster. -/
inductive Call where
  | bootstrap (node : Target)
  | join (coordinator : Target) (address : Address) (credentials : Credentials)
  | leave (coordinator leaving : Target)
  | commit (coordinator : Target)
  | rebalance (coordinator : Target)
  | recover (failed sponsor : Target)
deriving DecidableEq

def Call.action : Call → Action
  | bootstrap _ => .bootstrap
  | join .. => .join
  | leave .. => .leave
  | commit _ => .commit
  | rebalance _ => .rebalance
  | recover .. => .recover

/-- Why a backing cluster refused a call. -/
structure Refusal where
  kind : FailureKind
  message : String
deriving DecidableEq

/-- What becomes of a call. -/
inductive Answer where
  | done
  | refused (why : Refusal)
  /-- The call did not end within the action timeout. -/
  | timedOut
deriving DecidableEq

/-- Why a call did not succeed, as a controller reports it. -/
def Answer.failure? (timeout : Span) : Answer → Option String
  | done => none
  | refused why => some why.message
  | timedOut => some ("timed out after " ++ timeout.brief)

end ClusterMembership
