import ClusterMembership.Span.Unit
import ClusterMembership.Text.Blank
import ClusterMembership.Text.Quoted
/-!
# Reading spans

A span is written as `0` or as terms of a number and a unit, such as `1h 30m` or `1.5s`. The reader goes through the
text character by character and keeps in `Stage` where it stands. Offsets in messages count bytes of UTF-8. Sums and
products stay within 64 bits, and a fraction has to come out whole in nanoseconds, or in seconds from the hour on.
-/
namespace ClusterMembership.Span

/-- Why a text is no span. -/
inductive Flaw where
  | empty
  | expectedNumber (offset : Nat)
  | invalidCharacter (offset : Nat)
  | overflow
  | unitNeeded (number : Nat)
  | unknownUnit (name : String)
deriving DecidableEq

def Flaw.message : Flaw → String
  | empty => "value was empty"
  | expectedNumber offset => "expected number at " ++ Text.decimal offset
  | invalidCharacter offset => "invalid character at " ++ Text.decimal offset
  | overflow =>
    "number is too large or cannot be represented without a lack of precision (values below 1ns are not supported)"
  | unitNeeded n =>
    "time unit needed, for example " ++ Text.decimal n ++ "sec or " ++ Text.decimal n ++ "ms"
  | unknownUnit name =>
    "unknown time unit " ++ Text.quoted name ++
      ", supported units: ns, us/µs, ms, sec, min, hours, days, weeks, months, years (and few variations)"

def fits (n : Nat) : Except Flaw Nat := if n < UInt64.size then .ok n else .error .overflow

def exactly (n d : Nat) : Except Flaw Nat := if n % d = 0 then .ok (n / d) else .error .overflow

/-- A span with seconds and nanoseconds added to it. -/
def plus (d : Span) (seconds nanos : Nat) : Except Flaw Span := do
  let n ← fits (d.nanos + nanos)
  let s ← fits (seconds + n / nanosPerSecond)
  if h : d.seconds + s < UInt64.size then
    .ok ⟨d.seconds + s, n % nanosPerSecond, h, Nat.mod_lt _ (by decide)⟩
  else .error .overflow

/-- Digits after a decimal point: the number they form and the power of ten it is divided by. -/
structure Fraction where
  numerator : Nat
  denominator : Nat

def plusFraction (d : Span) (unit : TimeUnit) (f : Fraction) : Except Flaw Span := do
  match unit with
  | .nanosecond => .error .overflow
  | .microsecond | .millisecond => plus d 0 (← exactly (← fits (f.numerator * unit.nanos)) f.denominator)
  | .second | .minute =>
    plus d 0 (← exactly (← fits (f.numerator * (unit.seconds * nanosPerSecond))) f.denominator)
  | _ => plus d (← exactly (← fits (f.numerator * unit.seconds)) f.denominator) 0

def plusTerm (d : Span) (number : Nat) (fraction : Option Fraction) (name : String) : Except Flaw Span := do
  match TimeUnit.ofName? name with
  | none => .error (if name = "" then .unitNeeded number else .unknownUnit name)
  | some unit =>
    let d ← plus d (← fits (number * unit.seconds)) (← fits (number * unit.nanos))
    match fraction with
    | none => .ok d
    | some f => plusFraction d unit f

/-- Where the reader stands. -/
inductive Stage where
  /-- Before a number, in blanks that begin at `mark`. -/
  | gap (isFirst : Bool) (mark : Nat)
  /-- In the whole part of a number. -/
  | whole (number : Nat)
  /-- Behind the decimal point; `mark` is where the last digit or blank ended. -/
  | fraction (number : Nat) (f : Fraction) (mark : Nat)
  /-- In the name of a unit, its letters in reverse. -/
  | unit (number : Nat) (f : Option Fraction) (letters : List Char)

def isUnitLetter (c : Char) : Bool := ('a' ≤ c && c ≤ 'z') || ('A' ≤ c && c ≤ 'Z') || c = 'µ'

def Fraction.push (f : Fraction) (digit : Nat) : Except Flaw Fraction := do
  let d ← fits (f.denominator * 10)
  let n ← fits (f.numerator * 10 + digit)
  return ⟨n, d⟩

/-- The reader's position: the sum so far, the stage, and the offset of the next character. -/
structure Position where
  sum : Span
  stage : Stage
  offset : Nat

def Position.step (p : Position) (c : Char) : Except Flaw Position := do
  let next := p.offset + c.utf8Size
  let go (stage : Stage) : Except Flaw Position := .ok ⟨p.sum, stage, next⟩
  match p.stage with
  | .gap isFirst mark =>
    match Text.digit? c with
    | some d => go (.whole d)
    | none => if Text.isBlank c then go (.gap isFirst mark) else .error (.expectedNumber mark)
  | .whole n =>
    match Text.digit? c with
    | some d => do
      let n ← fits (n * 10 + d)
      go (.whole n)
    | none =>
      if Text.isBlank c then go (.whole n)
      else if isUnitLetter c then go (.unit n none [c])
      else if c = '.' then go (.fraction n ⟨0, 1⟩ p.offset)
      else .error (.invalidCharacter p.offset)
  | .fraction n f mark =>
    match Text.digit? c with
    | some d => do
      let f ← f.push d
      go (.fraction n f next)
    | none =>
      if Text.isBlank c then go (.fraction n f next)
      else if isUnitLetter c ∧ f.denominator ≠ 1 then go (.unit n (some f) [c])
      else .error (.invalidCharacter mark)
  | .unit n f letters =>
    match Text.digit? c with
    | some d => do
      let sum ← plusTerm p.sum n f (String.ofList letters.reverse)
      .ok ⟨sum, .whole d, next⟩
    | none =>
      if Text.isBlank c then do
        let sum ← plusTerm p.sum n f (String.ofList letters.reverse)
        .ok ⟨sum, .gap false next, next⟩
      else if isUnitLetter c then go (.unit n f (c :: letters))
      else .error (.invalidCharacter p.offset)

def Position.finish (p : Position) : Except Flaw Span :=
  match p.stage with
  | .gap true _ => .error .empty
  | .gap false _ => .ok p.sum
  | .whole n => plusTerm p.sum n none ""
  | .fraction n f mark => if f.denominator = 1 then .error (.invalidCharacter mark) else plusTerm p.sum n (some f) ""
  | .unit n f letters => plusTerm p.sum n f (String.ofList letters.reverse)

def parse (text : String) : Except Flaw Span :=
  if text = "0" then .ok (ofSeconds 0)
  else do
    let p ← text.toList.foldlM Position.step ⟨ofSeconds 0, .gap true 0, 0⟩
    p.finish

end ClusterMembership.Span
