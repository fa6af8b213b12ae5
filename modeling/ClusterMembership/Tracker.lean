import ClusterMembership.Bus
import ClusterMembership.Cluster.Basic
/-!
# The membership tracker

The tracker turns notices into passes. It remembers, for every node announced and for every member that reports, the last
value of each signal, and lets a report through if its signal is of interest and its value is new. Reports of nodes that
were removed are let through and not remembered.
-/
namespace ClusterMembership

/-- The last values seen of one node's signals. -/
structure LastSeen where
  values : List (Signal × Bool) := []
deriving DecidableEq

namespace LastSeen

/-- The last value of a signal, if one was seen. -/
def get? (l : LastSeen) (s : Signal) : Option Bool := (l.values.find? (·.1 = s)).map (·.2)

def insert (l : LastSeen) (s : Signal) (value : Bool) : LastSeen := ⟨(s, value) :: l.values.filter (·.1 ≠ s)⟩

def ofHealth (health : SignalSet) : LastSeen := ⟨Signal.all.map fun s => (s, health.contains s)⟩

theorem get?_insert (l : LastSeen) (s t : Signal) (value : Bool) :
    (l.insert s value).get? t = if t = s then some value else l.get? t := by
  simp only [get?, insert, List.find?_cons]
  by_cases h : t = s
  · simp [h]
  · have h' : ¬ s = t := fun hh => h hh.symm
    simp only [h, h', decide_false, if_false, List.find?_filter]
    congr 2
    funext v
    by_cases hv : v.1 = t
    · simp [hv, h]
    · simp [hv]

end LastSeen

/-- What the tracker remembers. -/
structure Tracker where
  config : TrackerConfig
  seen : List (NodeId × LastSeen) := []
  /-- The number of passes that it has asked for. -/
  dispatched : Nat := 0

/-- Why a tracker does not start or stop. -/
inductive TrackerFailure where
  | notStarted
  | alreadyStarted
deriving DecidableEq

def TrackerFailure.name : TrackerFailure → String
  | notStarted => "NotStarted"
  | alreadyStarted => "AlreadyStarted"

def TrackerFailure.message : TrackerFailure → String
  | notStarted => "tracker not started"
  | alreadyStarted => "tracker already started"

/-- A pass that was asked for, with the node it is about; the pass considers the whole group in any case. -/
structure Dispatch where
  trigger : Option NodeId
deriving DecidableEq

namespace Tracker

def get? (t : Tracker) (id : NodeId) : Option LastSeen := (t.seen.find? (·.1 = id)).map (·.2)

def remember (t : Tracker) (id : NodeId) (l : LastSeen) : Tracker :=
  { t with seen := (id, l) :: t.seen.filter (·.1 ≠ id) }

def forget (t : Tracker) (id : NodeId) : Tracker := { t with seen := t.seen.filter (·.1 ≠ id) }

def dispatch (t : Tracker) (trigger : Option NodeId) : Tracker × List Dispatch :=
  ({ t with dispatched := t.dispatched + 1 }, [⟨trigger⟩])

/-- A node joined the group: its signals are remembered as they are now. -/
def onAdded (t : Tracker) (c : Cluster) (n : Node) : Tracker × List Dispatch :=
  (t.remember n.id (.ofHealth (c.flags.get n).health)).dispatch n.id

def onRemoved (t : Tracker) (n : Node) : Tracker × List Dispatch := (t.forget n.id).dispatch n.id

/-- The value of a signal that a report is compared with. -/
def previous? (t : Tracker) (id : NodeId) (s : Signal) : Option Bool := (t.get? id).bind (·.get? s)

/-- Remembers a report of a member, or of a node that is remembered still. -/
def note (t : Tracker) (c : Cluster) (n : Node) (s : Signal) (value : Bool) : Tracker :=
  match t.get? n.id with
  | some l => t.remember n.id (l.insert s value)
  | none => if c.group.contains n.id then t.remember n.id (LastSeen.insert {} s value) else t

def onChanged (t : Tracker) (c : Cluster) (n : Node) (s : Signal) (value : Bool) : Tracker × List Dispatch :=
  if t.config.interest.contains s then
    let isRepeat := t.previous? n.id s = some value
    let t := t.note c n s value
    if isRepeat && !t.config.repeats then (t, []) else t.dispatch n.id
  else (t, [])

/-- Handles what the tracker's receiver takes off the bus. A full pass makes up for notices that were lost. -/
def handle (t : Tracker) (c : Cluster) : Received → Tracker × List Dispatch
  | .notice (.added n) => t.onAdded c n
  | .notice (.removed n) => t.onRemoved n
  | .notice (.changed n s value) => t.onChanged c n s value
  | .lagged _ => t.dispatch none

end Tracker

end ClusterMembership
