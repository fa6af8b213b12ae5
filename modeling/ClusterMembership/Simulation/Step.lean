import ClusterMembership.Cluster.Failure
import ClusterMembership.Rest.Operation
import ClusterMembership.Simulated.Basic
import ClusterMembership.Tracker
/-!
# Steps of a simulation

A simulation runs a controller, its group, its bus and its tracker through a list of steps. Acts take no time and may
stand anywhere; the other steps may wait for the backing cluster. Nodes are named by handles, of which one may come to
name a later node.
-/
namespace ClusterMembership

/-- What a node is announced with, and its handle. -/
structure Announcement where
  handle : String
  id : NodeId
  address : Address
  credentials : Credentials

/-- A notice that still lacks its node. -/
inductive NoticeForm where
  | added
  | removed
  | changed (s : Signal) (value : Bool)

def NoticeForm.about (n : Node) : NoticeForm → Notice
  | added => .added n
  | removed => .removed n
  | changed s value => .changed n s value

/-- A step that takes no time. -/
inductive Act where
  /-- Announce a node to the group. -/
  | add (a : Announcement)
  /-- Make a node that is no member. -/
  | create (a : Announcement)
  | addExisting (node : String)
  | remove (id : NodeId)
  | get (id : NodeId)
  | signal (node : String) (s : Signal) (value : Bool)
  | setStarted (value : Bool)
  | readGroup
  | readAccessors
  | readStatus
  | readState
  | readFlags (node : String)
  | readTarget (node : String)
  | subscribe (receiver : String)
  | unsubscribe (receiver : String)
  /-- Take up to `limit` items off a receiver's backlog. -/
  | receive (receiver : String) (limit : Option Nat)
  | publish (node : String) (form : NoticeForm)
  | configure (c : TrackerConfig)
  /-- Tell the tracker of a notice, past the bus. -/
  | notify (node : String) (form : NoticeForm)

/-- What a simulated cluster can be told and asked. -/
inductive Instruction where
  | failNext (a : Action)
  | failAlways (a : Action)
  | refuseJoin (a : Address)
  | clearFailures
  | expect (c : Credentials)
  | setLatency (ms : Nat)
  | clearLog
  | readLog
  | readLogOf (a : Action)
  | readInitialized (a : Address)

/-- A step of a simulation. -/
inductive Step where
  | act (a : Act)
  | batch (acts : List Act)
  | reconcile
  /-- So many passes asked for at once. -/
  | concurrent (count : Nat)
  | recover (failed sponsor : NodeId)
  | startTracker
  | stopTracker
  /-- A call that the controller knows nothing of. -/
  | call (c : Call)
  | instruct (i : Instruction)
  /-- A new script for the peer. -/
  | respond (script : List Rest.Reaction)
  /-- Acts that run just before the controller's `count`-th call from now. -/
  | arm (count : Nat) (acts : List Act)

/-- The group as it can be read. -/
structure GroupReport where
  name : String
  size : Nat
  isStarted : Bool
  isUp : Bool
  subscribers : Nat

/-- What the controller can be asked. -/
structure AccessorReport where
  isUp : Bool
  activeCount : Nat
  primary : Option NodeId
  phase : Phase
  quorum : Nat
  desiredSize : Nat
  backing : String
  group : String

/-- The members, by the first handle of each, and the flags of every handle's node. -/
structure StateReport where
  members : List (Option String)
  nodes : List (String × Flags)

/-- What a step gives back. -/
inductive Reply where
  | nothing
  /-- The node that was announced was not known. -/
  | isNew (b : Bool)
  | bool (b : Bool)
  | count (n : Nat)
  | handle (h : Option String)
  | found (h : Option String) (isMember : Bool)
  | outcome (r : Except Failure Outcome)
  | recovered (r : Except Failure Unit)
  | tracker (r : Option TrackerFailure)
  | answered (r : Option Simulated.Reason)
  | status (s : Status)
  | group (r : GroupReport)
  | accessors (r : AccessorReport)
  | state (r : StateReport)
  | flags (f : Flags)
  | target (t : Target)
  | received (items : List Received)
  | log (records : List Record)
  | many (replies : List Reply)
  /-- The step does not apply: no node has the handle, or the backing cluster is of another kind. -/
  | inapplicable

end ClusterMembership
