/-!
# Punycode

A text as letters, digits and hyphens: first its ASCII characters, and then, for every other character, how far it is
from the one before in an enumeration of all characters at all places. The distances are numbers to base 36 with a varying
last digit, whose limits follow the size of the distances so far. `encode` and `decode?` are the two directions.
-/
namespace ClusterMembership.Text.Punycode

def digitChar (d : Nat) : Char := if d < 26 then Char.ofNat (0x61 + d) else Char.ofNat (0x30 + (d - 26))

/-- The value of a digit, where the character is one. -/
def digit? (c : Char) : Option Nat :=
  if 'a' ≤ c ∧ c ≤ 'z' then some (c.toNat - 0x61)
  else if 'A' ≤ c ∧ c ≤ 'Z' then some (c.toNat - 0x41)
  else if '0' ≤ c ∧ c ≤ '9' then some (c.toNat - 0x30 + 26)
  else none

/-- A digit below this one is the last of its number; `place` counts the digits before it in steps of 36. -/
def limit (bias place : Nat) : Nat := min 26 (max 1 (place - bias))

theorem limit_bounds (bias place : Nat) : 1 ≤ limit bias place ∧ limit bias place ≤ 26 := by
  unfold limit; omega

/-- Brings a distance below 456 by divisions and counts them in steps of 36. -/
def shrink (delta count : Nat) : Nat :=
  if 455 < delta then shrink (delta / 35) (count + 36) else count + 36 * delta / (delta + 38)
termination_by delta
decreasing_by omega

/-- The bias after a distance, `length` characters being there now. -/
def adapt (delta length : Nat) (isFirst : Bool) : Nat :=
  let delta := if isFirst then delta / 700 else delta / 2
  shrink (delta + delta / length) 0

/-- The character with the number 128 is the first one that is not kept as it is. -/
def firstCode : Nat := 0x80

def firstBias : Nat := 72

/-! ## Writing -/

def distanceDigits (bias place q : Nat) : List Char :=
  if q < limit bias place then [digitChar q]
  else
    digitChar (limit bias place + (q - limit bias place) % (36 - limit bias place)) ::
      distanceDigits bias (place + 36) ((q - limit bias place) / (36 - limit bias place))
termination_by q
decreasing_by
  have := limit_bounds bias place
  have : (q - limit bias place) / (36 - limit bias place) ≤ q - limit bias place := Nat.div_le_self _ _
  omega

/-- How far writing has come: the distance so far, the bias, and the number of characters written. -/
structure Progress where
  delta : Nat
  bias : Nat
  written : Nat
  digits : List Char := []

/-- Passes one character of the text while `code` is being written. -/
def Progress.pass (basic code : Nat) (p : Progress) (c : Char) : Progress :=
  if c.toNat < code then { p with delta := p.delta + 1 }
  else if c.toNat = code then
    ⟨0, adapt p.delta (p.written + 1) (p.written = basic), p.written + 1,
      p.digits ++ distanceDigits p.bias 36 p.delta⟩
  else p

/-- Writes the characters with the given numbers, all of which are at least `next`. -/
def writeCodes (text : List Char) (basic : Nat) : List Nat → Nat → Progress → List Char
  | [], _, p => p.digits
  | code :: codes, next, p =>
    let p := text.foldl (Progress.pass basic code) { p with delta := p.delta + (code - next) * (p.written + 1) }
    writeCodes text basic codes (code + 1) { p with delta := p.delta + 1 }

/-- A number put into a list in ascending order that does not hold it yet. -/
def insertCode (n : Nat) : List Nat → List Nat
  | [] => [n]
  | m :: ms => if n < m then n :: m :: ms else if n = m then m :: ms else m :: insertCode n ms

def encode (text : List Char) : List Char :=
  let basic := text.filter (·.toNat < firstCode)
  let codes := ((text.filter (firstCode ≤ ·.toNat)).map Char.toNat).foldr insertCode []
  basic ++ (if basic = [] then [] else ['-']) ++
    writeCodes text basic.length codes firstCode ⟨0, firstBias, basic.length, []⟩

/-! ## Reading -/

/-- The character with a number, where there is one. -/
def charOf? (n : Nat) : Option Char := if n.isValidChar then some (Char.ofNat n) else none

/-- How far reading has come: the text so far, the number of the last character put in, the place behind it, the bias,
and of the distance under way what its digits amount to, what the next digit counts, and the place of that digit. -/
structure Reading where
  text : List Char
  code : Nat := firstCode
  index : Nat := 0
  bias : Nat := firstBias
  distance : Nat := 0
  weight : Nat := 1
  place : Nat := 36

/-- Takes in one digit; with the last digit of a distance a character is put in. -/
def Reading.push (r : Reading) (c : Char) : Option Reading := do
  let d ← digit? c
  let distance := r.distance + d * r.weight
  let last := limit r.bias r.place
  if d < last then
    let length := r.text.length + 1
    let code := r.code + (r.index + distance) / length
    let index := (r.index + distance) % length
    let char ← charOf? code
    some ⟨r.text.take index ++ char :: r.text.drop index, code, index + 1, adapt distance length (r.index = 0), 0, 1, 36⟩
  else some { r with distance, weight := r.weight * (36 - last), place := r.place + 36 }

/-- The text once all digits are read, unless a distance is left unfinished. -/
def Reading.text? (r : Reading) : Option (List Char) := if r.place = 36 then some r.text else none

/-- The ASCII characters that stand in front, and the digits. -/
def splitBasic (cs : List Char) : List Char × List Char :=
  let digits := (cs.reverse.takeWhile (· ≠ '-')).reverse
  let front := cs.take (cs.length - digits.length)
  match front.dropLast with
  | [] => ([], cs)
  | basic => (basic, digits)

def decode? (cs : List Char) : Option (List Char) :=
  let (basic, digits) := splitBasic cs
  if basic.all (·.toNat < firstCode) then (digits.foldlM Reading.push { text := basic }).bind Reading.text? else none

end ClusterMembership.Text.Punycode
