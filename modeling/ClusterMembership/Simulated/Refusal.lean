import ClusterMembership.Call
/-!
# Refusals of the simulated cluster

Why the simulated cluster refuses a call, with the kind and the message of each reason.
-/
namespace ClusterMembership.Simulated

/-- Why a call is refused. -/
inductive Reason where
  | bootstrapFailed (text : String)
  | joinRejected (text : String)
  | alreadyMember (text : String)
  | leaveRejected (text : String)
  | recoveryFailed (text : String)
  /-- A failure that was asked for. -/
  | injected (action : Action)
deriving DecidableEq

namespace Reason

def name : Reason → String
  | bootstrapFailed _ => "BootstrapFailed"
  | joinRejected _ => "JoinRejected"
  | alreadyMember _ => "AlreadyMember"
  | leaveRejected _ => "LeaveRejected"
  | recoveryFailed _ => "RecoveryFailed"
  | injected _ => "Injected"

def message : Reason → String
  | bootstrapFailed text => "bootstrap failed: " ++ text
  | joinRejected text => "join rejected: " ++ text
  | alreadyMember text => text ++ " is already a member"
  | leaveRejected text => "leave rejected: " ++ text
  | recoveryFailed text => "recovery failed: " ++ text
  | injected action => "injected " ++ action.name ++ " failure"

def kind : Reason → FailureKind
  | bootstrapFailed _ => .bootstrapFailed
  | joinRejected _ => .joinRejected
  | alreadyMember _ => .alreadyMember
  | leaveRejected _ => .leaveRejected
  | recoveryFailed _ => .recoveryFailed
  | injected action => action.failureKind

def refusal (r : Reason) : Refusal := ⟨r.kind, r.message⟩

end Reason

end ClusterMembership.Simulated
