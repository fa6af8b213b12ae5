import ClusterMembership.Cluster.Pass
import ClusterMembership.Cluster.Recovery
import ClusterMembership.Simulation.Basic
/-!
# Running a simulation

`step` carries out one step and then lets everything that is ready run until nothing is. A pass waits for its calls on a
virtual clock, and the time of a step is that of its own calls. `Entry` is what can be observed of it.
-/
namespace ClusterMembership

namespace Simulation

/-- A call of the controller: the hooks that are due run first, and while the call takes its time the listener may
run. -/
def call (s : Simulation) (c : Call) : Simulation × Answer × Nat :=
  let s := s.fire
  let (backing, answer, ms) := s.backing.performWithin s.cluster.config.actionTimeout c
  let s := { s with backing }
  (if 0 < ms then s.idle else s, answer, ms)

/-- Carries a pass on to its end. Returns its result and the time that its calls took. -/
def drive (s : Simulation) (p : Progress) (ms : Nat) : Simulation × Except Failure Outcome × Nat :=
  match p with
  | .finished result => (s, result, ms)
  | .calling call pending =>
    let called := s.call call
    let resumed := called.1.cluster.resume pending called.2.1
    drive { called.1 with cluster := resumed.1 } resumed.2 (ms + called.2.2)
termination_by p.remaining
decreasing_by exact Cluster.remaining_resume called.1.cluster call pending called.2.1

def pass (s : Simulation) : Simulation × Except Failure Outcome × Nat :=
  let (c, p) := s.cluster.begin
  drive { s with cluster := c } p 0

def passes (s : Simulation) : Nat → Simulation × List (Except Failure Outcome) × Nat
  | 0 => (s, [], 0)
  | count + 1 =>
    let (s, result, ms) := s.pass
    let (s, results, more) := s.passes count
    (s, result :: results, ms + more)

def recover (s : Simulation) (failed sponsor : NodeId) : Simulation × Except Failure Unit × Nat :=
  match s.cluster.beginRecovery failed sponsor with
  | .error f => (s, .error f, 0)
  | .ok recovery =>
    let (s, answer, ms) := s.call recovery.call
    let (c, result) := s.cluster.finishRecovery recovery answer
    ({ s with cluster := c }, result, ms)

/-- Runs the task that has been ready for longest. -/
def runReady (s : Simulation) : Simulation :=
  match s.ready with
  | [] => s
  | .listen :: rest => { s with ready := rest }.listen
  | .pass :: rest => ({ s with ready := rest }.pass).1

/-- An upper bound on the tasks that can still come to run: each item on the tracker's backlog may ask for a pass, and
each act of a hook may wake the listener and leave such an item. -/
def workload (s : Simulation) : Nat :=
  s.ready.length + ((s.bus.backlog? .tracker).map Backlog.size).getD 0 + 3 * (s.hooks.flatMap Hook.acts).length

def runTasks (s : Simulation) : Nat → Simulation
  | 0 => s
  | count + 1 => if s.ready.isEmpty then s else s.runReady.runTasks count

def settle (s : Simulation) : Simulation := s.runTasks s.workload

def instruct (s : SimulatedCluster) : Instruction → SimulatedCluster × Reply
  | .failNext a => (s.addFailure a, .nothing)
  | .failAlways a => (s.failEvery a, .nothing)
  | .refuseJoin a => (s.refuseJoin a, .nothing)
  | .clearFailures => (s.clearFailures, .nothing)
  | .expect c => (s.expect c, .nothing)
  | .setLatency ms => ({ s with latency := ms }, .nothing)
  | .clearLog => (s.clearLog, .nothing)
  | .readLog => (s, .log s.log)
  | .readLogOf a => (s, .log (s.logOf a))
  | .readInitialized a => (s, .bool (s.initialized.contains a))

/-- Carries out a step. Returns what it gives back and how long it took. -/
def perform (s : Simulation) : Step → Simulation × Reply × Nat
  | .act a =>
    let (s, reply) := s.act a
    (s, reply, 0)
  | .batch acts =>
    let (s, replies) := s.acts acts
    (s, .many replies, 0)
  | .reconcile =>
    let (s, result, ms) := s.pass
    (s, .outcome result, ms)
  | .concurrent count =>
    let (s, results, ms) := s.passes count
    (s, .many (results.map .outcome), ms)
  | .recover failed sponsor =>
    let (s, result, ms) := s.recover failed sponsor
    (s, .recovered result, ms)
  | .startTracker =>
    if s.isListening then (s, .tracker (some .alreadyStarted), 0)
    else ({ s with isListening := true, bus := s.bus.subscribe .tracker }, .tracker none, 0)
  | .stopTracker =>
    if s.isListening then
      ({ s with isListening := false, bus := s.bus.unsubscribe .tracker, ready := s.ready.filter (· ≠ Task.listen) },
        .tracker none, 0)
    else (s, .tracker (some .notStarted), 0)
  | .call c =>
    match s.backing with
    | .simulated m =>
      let (m, reason) := m.perform c
      ({ s with backing := .simulated m }, .answered reason, m.latency)
    | .remote .. => (s, .inapplicable, 0)
  | .instruct i =>
    match s.backing with
    | .simulated m =>
      let (m, reply) := instruct m i
      ({ s with backing := .simulated m }, reply, 0)
    | .remote .. => (s, .inapplicable, 0)
  | .respond script =>
    match s.backing with
    | .simulated _ => (s, .inapplicable, 0)
    | .remote options p => ({ s with backing := .remote options { p with script } }, .nothing, 0)
  | .arm count acts => ({ s with hooks := s.hooks ++ [⟨count, acts⟩] }, .nothing, 0)

/-- What a step gave back and the time it took, with what its hooks gave back and the state once all is quiet. -/
structure Entry where
  reply : Reply
  ms : Nat
  hooks : List Reply
  after : Simulation

/-- Carries out one step and lets all that is ready run. -/
def step (s : Simulation) (t : Step) : Entry :=
  let (s, reply, ms) := { s with hookReplies := [] }.perform t
  let s := s.settle
  ⟨reply, ms, s.hookReplies, s⟩

def run (s : Simulation) : List Step → List Entry
  | [] => []
  | t :: rest =>
    let e := s.step t
    e :: e.after.run rest

/-- The calls that a simulated cluster recorded since `earlier`; all of them if the log has become shorter. -/
def recordsSince (earlier now : SimulatedCluster) : List Record :=
  if now.log.length < earlier.log.length then now.log else now.log.drop earlier.log.length

/-- The requests that a peer has seen since `earlier`. -/
def requestsSince (earlier now : Rest.Peer) : List Rest.Request := now.seen.drop earlier.seen.length

end Simulation

end ClusterMembership
