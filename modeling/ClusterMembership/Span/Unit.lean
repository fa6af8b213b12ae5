import ClusterMembership.Span.Basic
/-!
# Units of time

The units in which a span is written, their names, and what one of each amounts to. A year is 365.25 days and a month a
twelfth of it rounded to 30.44 days.
-/
namespace ClusterMembership.Span

/-- A unit of time. -/
inductive TimeUnit where
  | nanosecond | microsecond | millisecond | second | minute | hour | day | week | month | year
deriving DecidableEq

namespace TimeUnit

/-- The units with their names, of which the first is not always the one that is written. -/
def names : List (TimeUnit × List String) := [
  (.nanosecond, ["nanos", "nsec", "ns"]),
  (.microsecond, ["usec", "us", "µs"]),
  (.millisecond, ["millis", "msec", "ms"]),
  (.second, ["seconds", "second", "secs", "sec", "s"]),
  (.minute, ["minutes", "minute", "min", "mins", "m"]),
  (.hour, ["hours", "hour", "hr", "hrs", "h"]),
  (.day, ["days", "day", "d"]),
  (.week, ["weeks", "week", "wk", "wks", "w"]),
  (.month, ["months", "month", "M"]),
  (.year, ["years", "year", "yr", "yrs", "y"])]

def ofName? (name : String) : Option TimeUnit := (names.find? fun (_, ns) => ns.contains name).map (·.1)

/-- Nanoseconds in a unit below the minute, for whole numbers of it. -/
def nanos : TimeUnit → Nat
  | nanosecond => 1
  | microsecond => 1000
  | millisecond => 1000000
  | _ => 0

def seconds : TimeUnit → Nat
  | nanosecond | microsecond | millisecond => 0
  | second => 1
  | minute => 60
  | hour => 3600
  | day => 86400
  | week => 604800
  | month => 2630016
  | year => 31557600

end TimeUnit

end ClusterMembership.Span
