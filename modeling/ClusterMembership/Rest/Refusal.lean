import ClusterMembership.Call
/-!
# Refusals of the administration interface

Why a call over the administration interface fails, with the kind and the message of each reason.
-/
namespace ClusterMembership.Rest

/-- Why a call fails. -/
inductive Reason where
  /-- The node serves a pool already. -/
  | alreadyInitialized (a : Address)
  | alreadyMember (a : Address)
  /-- The request was answered, and not with success. -/
  | rejected (action : Action) (a : Address) (status : Nat) (body : String)
  | notAMember (action : Action) (a : Address)
  | lastMember (a : Address)
  /-- Nobody answered. -/
  | unreachable (a : Address) (source : String)
  /-- The request could not be made, or its answer could not be read. -/
  | http (action : Action) (a : Address) (source : String)
deriving DecidableEq

namespace Reason

def name : Reason → String
  | alreadyInitialized _ => "AlreadyInitialized"
  | alreadyMember _ => "AlreadyMember"
  | rejected .. => "Rejected"
  | notAMember .. => "NotAMember"
  | lastMember _ => "LastMember"
  | unreachable .. => "Unreachable"
  | http .. => "Http"

def message : Reason → String
  | alreadyInitialized a => a.text ++ " is already initialized"
  | alreadyMember a => a.text ++ " is already part of the cluster"
  | rejected action a status body =>
    action.name ++ " rejected by " ++ a.text ++ " (" ++ Text.decimal status ++ "): " ++ body
  | notAMember _ a => a.text ++ " is not a member of the cluster"
  | lastMember a => a.text ++ " is the last remaining member"
  | unreachable a source => "cannot reach " ++ a.text ++ ": " ++ source
  | http action a source => action.name ++ " request to " ++ a.text ++ " failed: " ++ source

def kind : Reason → FailureKind
  | alreadyInitialized _ => .bootstrapFailed
  | alreadyMember _ => .alreadyMember
  | rejected action .. => action.failureKind
  | notAMember action _ => action.failureKind
  | lastMember _ => .leaveRejected
  | unreachable .. => .unreachable
  | http action .. => action.failureKind

def refusal (r : Reason) : Refusal := ⟨r.kind, r.message⟩

end Reason

end ClusterMembership.Rest
