import ClusterMembership.Signal
import ClusterMembership.Span.Reader
import ClusterMembership.Span.Printer
/-!
# Configuration

What a controller and a tracker can be told. A configuration text lays its fields over the defaults: `Config.Draft` and
`TrackerConfig.Draft` hold the fields that the text gives and `overlay` fills in the others.
-/
namespace ClusterMembership

/-- The configuration of a controller. -/
structure Config where
  /-- The number of members that the cluster aims for. -/
  desiredSize : UInt64 := 3
  /-- A quorum of its own, in force if it is positive. -/
  quorumOverride : Option UInt64 := none
  /-- The bound on a single call to the backing cluster. -/
  actionTimeout : Span := Span.ofSeconds 60
  /-- The signal that qualifies a member for election and for joining. -/
  readiness : Signal := .serviceUp
  /-- Hand the primary role on when the primary stops being ready. -/
  replaceUnready : Bool := true
deriving DecidableEq

/-- The configuration of a tracker. -/
structure TrackerConfig where
  /-- The signals whose changes lead to a pass. -/
  interest : SignalSet := SignalSet.full
  /-- A signal reported with the value it had leads to a pass too. -/
  repeats : Bool := false
deriving DecidableEq

namespace Config

/-- The quorum in force: the override if it is positive, and else a strict majority of the desired size. -/
def quorum (c : Config) : UInt64 :=
  match c.quorumOverride with
  | some q => if 0 < q then q else c.desiredSize / 2 + 1
  | none => c.desiredSize / 2 + 1

/-- The fields that a text gives. -/
structure Draft where
  desiredSize : Option UInt64 := none
  quorumOverride : Option (Option UInt64) := none
  actionTimeout : Option Span := none
  readiness : Option Signal := none
  replaceUnready : Option Bool := none

/-- The configuration with the given fields in place of its own. -/
def overlay (c : Config) (d : Draft) : Config where
  desiredSize := d.desiredSize.getD c.desiredSize
  quorumOverride := d.quorumOverride.getD c.quorumOverride
  actionTimeout := d.actionTimeout.getD c.actionTimeout
  readiness := d.readiness.getD c.readiness
  replaceUnready := d.replaceUnready.getD c.replaceUnready

def readSpan : Json.Reader Span := Json.Reader.andThen Json.readString fun text =>
  match Span.parse text with
  | .ok d => .ok d
  | .error flaw => .error (.unfit (.refused flaw.message))

def readSize : Json.Reader UInt64 := (Json.readNatural .size Json.exactLimit).map Nat.toUInt64

def shape : Json.Shape Draft where
  name := "ClusterConfig"
  fields := [
    .ofReader "desired_size" (·.desiredSize) (fun d n => { d with desiredSize := some n }) readSize,
    .ofReader "quorum" (·.quorumOverride) (fun d q => { d with quorumOverride := some q }) (Json.readOption readSize),
    .ofReader "action_timeout" (·.actionTimeout) (fun d t => { d with actionTimeout := some t }) readSpan,
    .ofReader "readiness_signal" (·.readiness) (fun d s => { d with readiness := some s }) Signal.read,
    .ofReader "failover_unhealthy_primary" (·.replaceUnready) (fun d b => { d with replaceUnready := some b })
      Json.readBool]
  blank := {}
  mayEndEarly := true

def read : Json.Reader Config := (Json.readRecord shape).map fun d => overlay {} d

def parse (text : String) : Except Json.Flaw Config := Json.readWhole read (Text.symbolsOf text)

def toJson (c : Config) : Json.Value := .object [
  ("desired_size", .nat c.desiredSize.toNat),
  ("quorum", .ofOption (.nat ·.toNat) c.quorumOverride),
  ("action_timeout", .string c.actionTimeout.print),
  ("readiness_signal", c.readiness.toJson),
  ("failover_unhealthy_primary", .bool c.replaceUnready)]

end Config

namespace TrackerConfig

/-- The fields that a text gives. -/
structure Draft where
  interest : Option SignalSet := none
  repeats : Option Bool := none

/-- The configuration with the given fields in place of its own. -/
def overlay (c : TrackerConfig) (d : Draft) : TrackerConfig where
  interest := d.interest.getD c.interest
  repeats := d.repeats.getD c.repeats

def shape : Json.Shape Draft where
  name := "TrackerConfig"
  fields := [
    .ofReader "signals_of_interest" (·.interest) (fun d ss => { d with interest := some ss })
      (Json.Reader.map SignalSet.ofList (Json.readList Signal.read)),
    .ofReader "notify_on_duplicate_value" (·.repeats) (fun d b => { d with repeats := some b }) Json.readBool]
  blank := {}
  mayEndEarly := true

def read : Json.Reader TrackerConfig := (Json.readRecord shape).map fun d => overlay {} d

def parse (text : String) : Except Json.Flaw TrackerConfig := Json.readWhole read (Text.symbolsOf text)

def toJson (c : TrackerConfig) : Json.Value := .object [
  ("signals_of_interest", .list (c.interest.toList.map Signal.toJson)),
  ("notify_on_duplicate_value", .bool c.repeats)]

end TrackerConfig

end ClusterMembership
