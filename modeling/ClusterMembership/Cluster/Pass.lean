import ClusterMembership.Cluster.Primary
/-!
# A pass of reconciliation

A pass runs up to its next call to the backing cluster and waits there: `begin` starts it and `resume` takes the answer.
Between the two, signals and group may change; what the pass has still to do is held in `Pending`. Every pass ends with
the summary published.
-/
namespace ClusterMembership

/-- A membership delta that is being applied. -/
structure Delta where
  coordinator : Target
  leaves : List Node
  /-- Nodes are added and none is removed, so a rebalance is due. -/
  isGrowth : Bool
  joined : List NodeId := []
  left : List NodeId := []

/-- What a pass has still to do once its call is answered. -/
inductive Pending where
  | bootstrapping (candidate : Node)
  | joining (d : Delta) (n : Node) (rest : List Node)
  | leaving (d : Delta) (n : Node) (rest : List Node)
  | committing (d : Delta)
  | rebalancing (d : Delta) (committed : Bool)

/-- How far a pass has come. -/
inductive Progress where
  | finished (result : Except Failure Outcome)
  | calling (call : Call) (pending : Pending)

namespace Cluster

def finish (c : Cluster) (result : Except Failure Outcome) : Cluster × Progress := (c.publish, .finished result)

/-! ## Applying the delta -/

/-- Goes on with the rebalance, if one is due. -/
def rebalanceNext (c : Cluster) (d : Delta) (committed : Bool) : Cluster × Progress :=
  if d.isGrowth then (c, .calling (.rebalance d.coordinator) (.rebalancing d committed))
  else c.finish (.ok (.reconciled d.joined d.left committed false))

/-- Goes on with the commit, if one is due. -/
def commitNext (c : Cluster) (d : Delta) : Cluster × Progress :=
  if c.stages && c.pendingCommit then (c, .calling (.commit d.coordinator) (.committing d))
  else c.rebalanceNext d false

/-- Goes on with the nodes that are still to leave. -/
def leaveNext (c : Cluster) (d : Delta) : List Node → Cluster × Progress
  | [] => c.commitNext d
  | n :: rest => (c, .calling (.leave d.coordinator n.target) (.leaving d n rest))

/-- Goes on with the nodes that are still to join. One that is flagged active already is recorded without a call. -/
def joinNext (c : Cluster) (d : Delta) : List Node → Cluster × Progress
  | [] => c.leaveNext d d.leaves
  | n :: rest =>
    if c.isActive n then (c.enroll n.id n).joinNext { d with joined := d.joined ++ [n.id] } rest
    else (c, .calling (.join d.coordinator n.address n.credentials) (.joining d n rest))

/-- A change was staged, if the backing cluster stages changes. -/
def markStaged (c : Cluster) : Cluster := { c with pendingCommit := c.pendingCommit || c.stages }

def enrollPrimary (c : Cluster) (p : Node) : Cluster := if c.active.contains p.id then c else c.enroll p.id p

def joiners (c : Cluster) : List Node :=
  c.group.members.filter fun n => c.isReady n && !c.active.contains n.id

/-- The active nodes other than the primary that left the group or are not ready. -/
def leavers (c : Cluster) (p : Node) : List Node :=
  c.active.nodes.filter fun n => n.id ≠ p.id && (!c.group.contains n.id || !c.isReady n)

/-- Starts on the membership delta under an initialized primary. -/
def applyDelta (c : Cluster) (p : Node) : Cluster × Progress :=
  let c := c.enrollPrimary p
  let joins := c.joiners
  let leaves := c.leavers p
  c.joinNext ⟨p.target, leaves, !joins.isEmpty && leaves.isEmpty, [], []⟩ joins

/-! ## Electing a primary -/

def assume (c : Cluster) (n : Node) : Cluster × Progress :=
  let c := c.promote n
  let phase := if c.isInitialized n then .reconciling else .awaitingCoordinator
  { c with phase := phase }.finish (.ok (.elected n.id))

/-- A cluster just bootstrapped has no members but its coordinator, whom the next pass records. -/
def forgetActive (c : Cluster) : Cluster :=
  { c with
    flags := c.active.nodes.foldl (fun t n => t.setActive n false) c.flags
    active := {}
    pendingCommit := false }

/-- Elects the first ready member, by adopting it if it is initialized and else by bootstrapping it. -/
def elect (c : Cluster) : Cluster × Progress :=
  match c.group.members.find? c.isReady with
  | none => { c with phase := .noPrimary }.finish (.ok (.deferred .noPrimary))
  | some n =>
    let c := { c with phase := .electingPrimary }
    if c.isInitialized n then c.assume n else (c, .calling (.bootstrap n.target) (.bootstrapping n))

/-! ## The pass -/

def begin (c : Cluster) : Cluster × Progress :=
  let c := c.handOver
  match c.primary with
  | none => c.elect
  | some p =>
    if c.isInitialized p then { c with phase := .reconciling }.applyDelta p
    else { c with phase := .awaitingCoordinator }.finish (.ok (.deferred .awaitingCoordinator))

/-- A join counts as done also when the node is a member already. -/
def joinFailure? (c : Cluster) (a : Answer) : Option String :=
  match a with
  | .refused ⟨.alreadyMember, _⟩ => none
  | a => a.failure? c.config.actionTimeout

/-- Takes the answer to the outstanding call and goes on. -/
def resume (c : Cluster) (p : Pending) (a : Answer) : Cluster × Progress :=
  let failure := a.failure? c.config.actionTimeout
  match p with
  | .bootstrapping n =>
    match failure with
    | some cause => { c with phase := .noPrimary }.finish (.error (.bootstrapFailed n.id cause))
    | none => c.forgetActive.assume n
  | .joining d n rest =>
    match c.joinFailure? a with
    | some cause => c.finish (.error (.actionFailed .join n.id cause))
    | none => (c.markStaged.enroll n.id n).joinNext { d with joined := d.joined ++ [n.id] } rest
  | .leaving d n rest =>
    match failure with
    | some cause => c.finish (.error (.actionFailed .leave n.id cause))
    | none => (c.markStaged.discharge n).leaveNext { d with left := d.left ++ [n.id] } rest
  | .committing d =>
    match failure with
    | some cause => c.finish (.error (.commitFailed cause))
    | none => { c with pendingCommit := false }.rebalanceNext d true
  | .rebalancing d committed => c.finish (.ok (.reconciled d.joined d.left committed failure.isNone))

end Cluster

/-- A measure of the calls that a pass can still make. -/
def Pending.remaining : Pending → Nat
  | bootstrapping _ => 0
  | joining d _ rest => rest.length + d.leaves.length + 2
  | leaving _ _ rest => rest.length + 2
  | committing _ => 1
  | rebalancing .. => 0

/-- A measure of the calls that a pass can still make, the one under way included. -/
def Progress.remaining : Progress → Nat
  | finished _ => 0
  | calling _ p => p.remaining + 1

namespace Cluster

theorem remaining_rebalanceNext (c : Cluster) (d : Delta) (committed : Bool) :
    (c.rebalanceNext d committed).2.remaining ≤ 1 := by
  unfold rebalanceNext finish
  split <;> simp [Progress.remaining, Pending.remaining]

theorem remaining_commitNext (c : Cluster) (d : Delta) : (c.commitNext d).2.remaining ≤ 2 := by
  unfold commitNext
  split
  · simp [Progress.remaining, Pending.remaining]
  · exact Nat.le_trans (remaining_rebalanceNext c d false) (by omega)

theorem remaining_leaveNext (c : Cluster) (d : Delta) (rest : List Node) :
    (c.leaveNext d rest).2.remaining ≤ rest.length + 2 := by
  cases rest with
  | nil => simpa [leaveNext] using remaining_commitNext c d
  | cons n rest => simp [leaveNext, Progress.remaining, Pending.remaining]

theorem remaining_joinNext (c : Cluster) (d : Delta) (rest : List Node) :
    (c.joinNext d rest).2.remaining ≤ rest.length + d.leaves.length + 2 := by
  induction rest generalizing c d with
  | nil => simpa [joinNext] using remaining_leaveNext c d d.leaves
  | cons n rest ih =>
    rw [joinNext]
    split
    · have := ih (c.enroll n.id n) { d with joined := d.joined ++ [n.id] }
      simp only [List.length_cons] at *; omega
    · simp only [Progress.remaining, Pending.remaining, List.length_cons]; omega

/-- **A pass comes to an end**: every answer leaves it fewer calls to make. -/
theorem remaining_resume (c : Cluster) (call : Call) (p : Pending) (a : Answer) :
    (c.resume p a).2.remaining < (Progress.calling call p).remaining := by
  cases p with
  | bootstrapping n =>
    simp only [resume]
    split <;> simp [finish, assume, Progress.remaining, Pending.remaining]
  | joining d n rest =>
    simp only [resume]
    split
    · simp [finish, Progress.remaining]
    · have := remaining_joinNext (c.markStaged.enroll n.id n) { d with joined := d.joined ++ [n.id] } rest
      simp only [Progress.remaining, Pending.remaining] at *; omega
  | leaving d n rest =>
    simp only [resume]
    split
    · simp [finish, Progress.remaining]
    · have := remaining_leaveNext (c.markStaged.discharge n) { d with left := d.left ++ [n.id] } rest
      simp only [Progress.remaining, Pending.remaining] at *; omega
  | committing d =>
    simp only [resume]
    split
    · simp [finish, Progress.remaining]
    · have := remaining_rebalanceNext { c with pendingCommit := false } d true
      simp only [Progress.remaining, Pending.remaining] at *; omega
  | rebalancing d committed => simp [resume, finish, Progress.remaining, Pending.remaining]

end Cluster

end ClusterMembership
