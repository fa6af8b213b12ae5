import ClusterMembership.Cluster.Basic
/-!
# What comes of a pass

The outcomes of a pass and the failures of a controller, with their messages.
-/
namespace ClusterMembership

/-- What a pass achieved. -/
inductive Outcome where
  /-- A precondition is not met yet; no call was made. -/
  | deferred (phase : Phase)
  /-- A primary was assigned; the pass ends here. -/
  | elected (id : NodeId)
  /-- The membership was brought in line. -/
  | reconciled (joined left : List NodeId) (committed rebalanced : Bool)
deriving DecidableEq

/-- Why a controller did not get through. -/
inductive Failure where
  /-- A join or a leave failed. The next pass tries it again. -/
  | actionFailed (action : Action) (node : NodeId) (cause : String)
  /-- The elected node could not be made coordinator. -/
  | bootstrapFailed (node : NodeId) (cause : String)
  /-- The staged changes could not be committed. -/
  | commitFailed (cause : String)
  /-- A failed node could not be recovered. -/
  | recoveryFailed (failed sponsor : NodeId) (cause : String)
  | unknownNode (id : NodeId)
deriving DecidableEq

namespace Failure

def name : Failure → String
  | actionFailed .. => "DriverActionFailed"
  | bootstrapFailed .. => "BootstrapFailed"
  | commitFailed _ => "CommitFailed"
  | recoveryFailed .. => "RecoveryFailed"
  | unknownNode _ => "UnknownNode"

def message : Failure → String
  | actionFailed action node cause => action.name ++ " of " ++ node.text ++ " failed: " ++ cause
  | bootstrapFailed node cause => "failed to bootstrap coordinator on " ++ node.text ++ ": " ++ cause
  | commitFailed cause => "failed to commit membership changes: " ++ cause
  | recoveryFailed failed sponsor cause =>
    "failed to recover " ++ failed.text ++ " through " ++ sponsor.text ++ ": " ++ cause
  | unknownNode id => "unknown node " ++ id.text

end Failure

end ClusterMembership
