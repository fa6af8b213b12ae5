import ClusterMembership.Cluster.Failure
/-!
# Recovering a failed node

A failed node is evicted and started afresh through a sponsor, an active and ready member. `beginRecovery` checks the
request and `finishRecovery` takes the answer to its one call. A recovery that fails leaves the cluster as it was.
-/
namespace ClusterMembership

/-- A recovery whose call is outstanding. -/
structure Recovery where
  failed : NodeId
  sponsor : NodeId
  node : Node
  call : Call

namespace Cluster

/-- The sponsor of that identity: an active node whose identity is in the group. -/
def sponsor? (c : Cluster) (id : NodeId) : Option Node := if c.group.contains id then c.active.get? id else none

/-- The node of that identity: the member, and else the active node. -/
def known? (c : Cluster) (id : NodeId) : Option Node := (c.group.get? id).or (c.active.get? id)

/-- Checks a recovery and, if nothing stands against it, names its call. -/
def beginRecovery (c : Cluster) (failed sponsor : NodeId) : Except Failure Recovery :=
  match c.sponsor? sponsor with
  | none => .error (.unknownNode sponsor)
  | some s =>
    match c.known? failed with
    | none => .error (.unknownNode failed)
    | some n =>
      if failed = sponsor then
        .error (.recoveryFailed failed sponsor "a node cannot sponsor its own recovery")
      else if !c.isReady s then
        .error (.recoveryFailed failed sponsor ("sponsor " ++ sponsor.text ++ " is not ready"))
      else .ok ⟨failed, sponsor, n, .recover n.target s.target⟩

/-- Takes the answer to the call of a recovery. -/
def finishRecovery (c : Cluster) (r : Recovery) (a : Answer) : Cluster × Except Failure Unit :=
  match a.failure? c.config.actionTimeout with
  | some cause => (c, .error (.recoveryFailed r.failed r.sponsor cause))
  | none => ((c.enroll r.failed r.node).publish, .ok ())

end Cluster

end ClusterMembership
