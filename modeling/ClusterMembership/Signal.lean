import ClusterMembership.Json.Reader
import ClusterMembership.Json.Value
/-!
# Health signals

The three things that pollers report about a node, and sets of them: `SignalSet.contains_write` says that writing one
member of a set leaves the others alone.
-/
namespace ClusterMembership

/-- A health attribute of a node. -/
inductive Signal where
  /-- The clustered service answers requests. -/
  | serviceUp
  /-- The administrative process can be reached. -/
  | processRunning
  /-- The node has been made a coordinator. -/
  | coordinatorInitialized
deriving DecidableEq

namespace Signal

/-- The signals, in the order in which messages list them. -/
def all : List Signal := [serviceUp, processRunning, coordinatorInitialized]

def name : Signal → String
  | serviceUp => "service-up"
  | processRunning => "controller-process-running"
  | coordinatorInitialized => "coordinator-initialized"

def label : Signal → String
  | serviceUp => "ServiceUp"
  | processRunning => "ControllerProcessRunning"
  | coordinatorInitialized => "CoordinatorInitialized"

def ofName? (name : String) : Option Signal := all.find? (·.name = name)

def toJson (s : Signal) : Json.Value := .string s.name

def read : Json.Reader Signal := Json.readChoice (all.map fun s => (s.name, s))

theorem mem_all (s : Signal) : s ∈ all := by cases s <;> decide

theorem name_inj {s t : Signal} (h : s.name = t.name) : s = t := by
  cases s <;> cases t <;> first | rfl | exact absurd h (by decide)

end Signal

/-- A set of signals. -/
structure SignalSet where
  serviceUp : Bool := false
  processRunning : Bool := false
  coordinatorInitialized : Bool := false
deriving DecidableEq

namespace SignalSet

def contains (set : SignalSet) : Signal → Bool
  | .serviceUp => set.serviceUp
  | .processRunning => set.processRunning
  | .coordinatorInitialized => set.coordinatorInitialized

/-- The set with one signal put in or taken out. -/
def write (set : SignalSet) (s : Signal) (value : Bool) : SignalSet :=
  match s with
  | .serviceUp => { set with serviceUp := value }
  | .processRunning => { set with processRunning := value }
  | .coordinatorInitialized => { set with coordinatorInitialized := value }

def full : SignalSet := ⟨true, true, true⟩

def ofList (signals : List Signal) : SignalSet := signals.foldl (fun set s => set.write s true) {}

def toList (set : SignalSet) : List Signal := Signal.all.filter set.contains

theorem contains_write (set : SignalSet) (s t : Signal) (value : Bool) :
    (set.write s value).contains t = if t = s then value else set.contains t := by
  cases s <;> cases t <;> rfl

theorem ofList_toList (set : SignalSet) : ofList set.toList = set := by
  obtain ⟨u, r, i⟩ := set
  cases u <;> cases r <;> cases i <;> rfl

end SignalSet

end ClusterMembership
