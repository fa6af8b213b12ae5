import ClusterMembership.Text.Decimal
/-!
# Spans of time

A `Span` is a whole number of seconds within 64 bits and the nanoseconds below one second. `Span.brief` is the short
text that messages show: one unit, the largest that is not a fraction, with exact decimals.
-/
namespace ClusterMembership

abbrev nanosPerSecond : Nat := 1000000000

/-- A length of time. -/
structure Span where
  seconds : Nat
  nanos : Nat
  seconds_lt : seconds < UInt64.size := by decide
  nanos_lt : nanos < nanosPerSecond := by decide
deriving DecidableEq

namespace Span

def ofSeconds (s : Nat) (h : s < UInt64.size := by decide) : Span := ⟨s, 0, h, by decide⟩

def totalNanos (d : Span) : Nat := d.seconds * nanosPerSecond + d.nanos

def ceilMillis (d : Span) : Nat := (d.totalNanos + 999999) / 1000000

theorem totalNanos_inj {d e : Span} (h : d.totalNanos = e.totalNanos) : d = e := by
  obtain ⟨s, n, hs, hn⟩ := d
  obtain ⟨t, m, ht, hm⟩ := e
  have sum : s * 1000000000 + n = t * 1000000000 + m := h
  have hs : n < 1000000000 := hn
  have ht : m < 1000000000 := hm
  obtain rfl : s = t := by omega
  obtain rfl : n = m := by omega
  rfl

/-- `digits` decimal places of a fraction, without zeros at the end. -/
def decimals : Nat → Nat → List Char
  | 0, _ => []
  | digits + 1, rest =>
    if rest = 0 then [] else Text.digitChar (rest / Nat.pow 10 digits) :: decimals digits (rest % Nat.pow 10 digits)

/-- A number with `digits` decimal places, as few of them as say it exactly. -/
def decimalText (whole digits rest : Nat) : String :=
  Text.decimal whole ++ (if rest = 0 then "" else "." ++ String.ofList (decimals digits rest))

/-- The span in the largest unit of which it holds one, or in nanoseconds. -/
def brief (d : Span) : String :=
  if 0 < d.seconds then decimalText d.seconds 9 d.nanos ++ "s"
  else if 1000000 ≤ d.nanos then decimalText (d.nanos / 1000000) 6 (d.nanos % 1000000) ++ "ms"
  else if 1000 ≤ d.nanos then decimalText (d.nanos / 1000) 3 (d.nanos % 1000) ++ "µs"
  else Text.decimal d.nanos ++ "ns"

end Span

end ClusterMembership
