import ClusterMembership.Simulation.Step
/-!
# The state of a simulation

A simulation holds one cluster with its backing cluster, its bus and its tracker, the handles of the nodes, and the tasks
that are ready to run: the tracker's listener, which is woken by a notice, and the passes that were asked for, which run
one at a time in the order in which they were asked for.
-/
namespace ClusterMembership

/-- The backing cluster of a simulation. -/
inductive Backing where
  | simulated (s : SimulatedCluster)
  | remote (options : Rest.Options) (peer : Rest.Peer)

namespace Backing

def name : Backing → String
  | simulated _ => "mock"
  | remote .. => "couchbase"

def stages : Backing → Bool
  | simulated s => s.stages
  | remote .. => false

/-- A call that its caller waits for at most `limit`, with the time that it takes in milliseconds. -/
def performWithin (limit : Span) (c : Call) : Backing → Backing × Answer × Nat
  | simulated s =>
    let (s, a, ms) := s.performWithin limit c
    (.simulated s, a, ms)
  | remote options p =>
    let (p, a, ms) := Rest.performWithin options p limit c
    (.remote options p, a, ms)

end Backing

/-- Who receives notices. -/
inductive Receiver where
  | tracker
  | named (name : String)
deriving DecidableEq

/-- What is ready to run. -/
inductive Task where
  /-- The tracker's listener takes notices off its backlog. -/
  | listen
  | pass
deriving DecidableEq

/-- Acts that wait for a call. -/
structure Hook where
  /-- The number of calls until the hook runs, the call that it precedes included. -/
  countdown : Nat
  acts : List Act

/-- The state of a simulation. -/
structure Simulation where
  cluster : Cluster
  backing : Backing
  tracker : Tracker
  bus : Bus Receiver
  /-- The handles with their nodes, in order of creation. -/
  handles : List (String × Node) := []
  made : Nat := 0
  isListening : Bool := false
  hooks : List Hook := []
  ready : List Task := []
  /-- What the hooks of the current step gave back. -/
  hookReplies : List Reply := []

namespace Simulation

def start (config : Config) (tracker : TrackerConfig) (capacity : Nat) (group : String) (backing : Backing) :
    Simulation where
  cluster := { config, stages := backing.stages, group := { name := group } }
  backing
  tracker := { config := tracker }
  bus := Bus.ofCapacity capacity

def node? (s : Simulation) (handle : String) : Option Node :=
  (s.handles.reverse.find? (·.1 = handle)).map (·.2)

def handle? (s : Simulation) (n : Node) : Option String := (s.handles.find? (·.2 = n)).map (·.1)

def register (s : Simulation) (handle : String) (n : Node) : Simulation :=
  if s.handles.contains (handle, n) then s else { s with handles := s.handles ++ [(handle, n)] }

def make (s : Simulation) (a : Announcement) : Node × Simulation :=
  (⟨s.made, a.id, a.address, a.credentials⟩, { s with made := s.made + 1 })

def announce (s : Simulation) (notices : List Notice) : Simulation :=
  match notices with
  | [] => s
  | notices =>
    { s with
      bus := notices.foldl Bus.publish s.bus
      ready := if s.isListening && !s.ready.contains Task.listen then s.ready ++ [Task.listen] else s.ready }

/-- Makes the passes ready that the tracker asked for. -/
def dispatch (s : Simulation) (asked : Tracker × List Dispatch) : Simulation :=
  { s with tracker := asked.1, ready := s.ready ++ asked.2.map fun _ => Task.pass }

/-- Hands one item of its backlog to the tracker. -/
def hear (s : Simulation) (r : Received) : Simulation := s.dispatch (s.tracker.handle s.cluster r)

/-- The listener takes in all that is on its backlog. -/
def listen (s : Simulation) : Simulation :=
  match s.bus.backlog? .tracker with
  | none => s
  | some log =>
    let (items, bus) := s.bus.receive .tracker log.size
    items.foldl hear { s with bus }

/-- While a pass waits for a call, the listener runs if it is ready; other passes wait for their turn. -/
def idle (s : Simulation) : Simulation :=
  if s.ready.contains Task.listen then { s with ready := s.ready.filter (· ≠ Task.listen) }.listen else s

/-! ## Reports -/

def groupReport (s : Simulation) : GroupReport where
  name := s.cluster.group.name
  size := s.cluster.group.size
  isStarted := s.cluster.group.isStarted
  isUp := s.cluster.group.isUp s.cluster.flags
  subscribers := s.bus.size

def accessorReport (s : Simulation) : AccessorReport where
  isUp := s.cluster.isServiceUp
  activeCount := s.cluster.published.activeCount
  primary := s.cluster.published.primary
  phase := s.cluster.published.phase
  quorum := s.cluster.config.quorum.toNat
  desiredSize := s.cluster.config.desiredSize.toNat
  backing := s.backing.name
  group := s.cluster.group.name

def stateReport (s : Simulation) : StateReport where
  members := s.cluster.group.members.map s.handle?
  nodes := s.handles.map fun (handle, n) => (handle, s.cluster.flags.get n)

/-! ## Acts -/

def withNode (s : Simulation) (handle : String) (act : Node → Simulation × Reply) : Simulation × Reply :=
  match s.node? handle with
  | some n => act n
  | none => (s, .inapplicable)

/-- Takes a node into the group and announces it. -/
def enter (s : Simulation) (n : Node) : Simulation :=
  let (c, notices) := s.cluster.addMember n
  { s with cluster := c }.announce notices

def act (s : Simulation) : Act → Simulation × Reply
  | .add a =>
    match s.cluster.group.get? a.id with
    | some n => (s.register a.handle n, .isNew false)
    | none =>
      let (n, s) := s.make a
      ((s.enter n).register a.handle n, .isNew true)
  | .create a =>
    let (n, s) := s.make a
    (s.register a.handle n, .nothing)
  | .addExisting handle => s.withNode handle fun n => (s.enter n, .bool (!s.cluster.group.contains n.id))
  | .remove id =>
    let (c, notices) := s.cluster.removeMember id
    ({ s with cluster := c }.announce notices, .handle ((s.cluster.group.get? id).bind s.handle?))
  | .get id => (s, .found ((s.cluster.group.get? id).bind s.handle?) (s.cluster.group.contains id))
  | .signal handle signal value => s.withNode handle fun n =>
    let (c, notices) := s.cluster.report n signal value
    ({ s with cluster := c }.announce notices, .nothing)
  | .setStarted value => ({ s with cluster := s.cluster.mark value }, .nothing)
  | .readGroup => (s, .group s.groupReport)
  | .readAccessors => (s, .accessors s.accessorReport)
  | .readStatus => (s, .status s.cluster.status)
  | .readState => (s, .state s.stateReport)
  | .readFlags handle => s.withNode handle fun n => (s, .flags (s.cluster.flags.get n))
  | .readTarget handle => s.withNode handle fun n => (s, .target n.target)
  | .subscribe name =>
    let bus := s.bus.subscribe (.named name)
    ({ s with bus }, .count bus.size)
  | .unsubscribe name =>
    let bus := s.bus.unsubscribe (.named name)
    ({ s with bus }, .count bus.size)
  | .receive name limit =>
    let size := ((s.bus.backlog? (.named name)).map Backlog.size).getD 0
    let (items, bus) := s.bus.receive (.named name) (limit.getD size)
    ({ s with bus }, .received items)
  | .publish handle form => s.withNode handle fun n => (s.announce [form.about n], .count s.bus.size)
  | .configure c => ({ s with tracker := { s.tracker with config := c } }, .nothing)
  | .notify handle form => s.withNode handle fun n =>
    let asked := s.tracker.handle s.cluster (.notice (form.about n))
    (s.dispatch asked, .bool (!asked.2.isEmpty))

def acts (s : Simulation) : List Act → Simulation × List Reply
  | [] => (s, [])
  | a :: rest =>
    let (s, reply) := s.act a
    let (s, replies) := s.acts rest
    (s, reply :: replies)

/-! ## Hooks -/

/-- Runs the hooks that are due before a call of the controller, in the order of arming. -/
def fire (s : Simulation) : Simulation :=
  let counted : List Hook := s.hooks.map fun h => { h with countdown := h.countdown - 1 }
  let due := counted.filter (·.countdown = 0)
  let (s, replies) := { s with hooks := counted.filter (·.countdown ≠ 0) }.acts (due.flatMap Hook.acts)
  { s with hookReplies := s.hookReplies ++ replies }

end Simulation

end ClusterMembership
