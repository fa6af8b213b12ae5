import ClusterMembership.Cluster.Failure
/-!
# The primary role

At most one node is flagged as primary at any time: `promote` clears every flag that may be set before it sets the new
one, and `promotionWrites` lists these writes in order. `handOver` opens a pass: it replaces a primary that left the
group, or one that is not ready where the configuration asks for that, by a node that is joined already.
-/
namespace ClusterMembership.Cluster

/-- The writes of a promotion: all demotions, and then the promotion itself. -/
def promotionWrites (c : Cluster) (n : Node) : List (Node × Bool) :=
  (c.primary.toList ++ (c.group.members ++ c.active.nodes).filter (·.id ≠ n.id)).map (·, false) ++ [(n, true)]

def writePrimary (t : FlagTable) (write : Node × Bool) : FlagTable := t.setPrimary write.1 write.2

def promote (c : Cluster) (n : Node) : Cluster :=
  { c with flags := (c.promotionWrites n).foldl writePrimary c.flags, primary := some n }

/-- Takes the role from a primary that has no successor. -/
def depose (c : Cluster) (p : Node) : Cluster := { c with flags := c.flags.setPrimary p false, primary := none }

/-- The members that may follow `p` as primary, in group order: joined, active and ready. -/
def successors (c : Cluster) (p : Node) : List Node :=
  c.group.members.filter fun n => n.id ≠ p.id && c.isActive n && c.active.contains n.id && c.isReady n

def hasDeparted (c : Cluster) (p : Node) : Bool := !c.group.contains p.id

/-- The primary is in the group, is not ready, and is to be replaced for that. -/
def isOverdue (c : Cluster) (p : Node) : Bool := !c.hasDeparted p && c.config.replaceUnready && !c.isReady p

/-- The node that follows `p`: the first successor that is initialized, and for a primary that left the group the first
successor at all if none is. -/
def successor? (c : Cluster) (p : Node) : Option Node :=
  match (c.successors p).find? c.isInitialized with
  | some n => some n
  | none => if c.hasDeparted p then (c.successors p).head? else none

/-- Replaces the primary where it has to be replaced. -/
def handOver (c : Cluster) : Cluster :=
  match c.primary with
  | none => c
  | some p =>
    if c.hasDeparted p || c.isOverdue p then
      match c.successor? p with
      | some n => c.promote n
      | none => if c.hasDeparted p then c.depose p else c
    else c

end ClusterMembership.Cluster
