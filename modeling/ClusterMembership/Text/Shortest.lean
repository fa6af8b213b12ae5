import ClusterMembership.Text.Decimal
/-!
# Shortest decimal of a double

A finite double is `m · 2 ^ q`. `shortestDigits` finds the fewest digits whose decimal number rounds back to it, and of
those the nearest: it tries the decimal grids from coarse to fine and, on each, the two neighbours of the value.
`doubleText` lays the digits out: positional from 10 ^ -5 to below 10 ^ 16, always with a fraction, and scientific with
a signed exponent elsewhere.
-/
namespace ClusterMembership.Text

/-- The magnitude `mantissa · 2 ^ exponent` of a finite double. -/
structure Magnitude where
  mantissa : Nat
  exponent : Int

/-- The lowest mantissa of a double that has all its digits, `2 ^ 52`. -/
def Magnitude.lowest : Nat := 0x10000000000000

/-- The magnitude in the bits of a double, the sign bit left out. -/
def Magnitude.ofBits (bits : UInt64) : Magnitude :=
  let raw : Nat := bits.toNat
  let stored : Nat := raw / lowest % 0x800
  let fraction : Nat := raw % lowest
  if stored = 0 then ⟨fraction, -1074⟩ else ⟨fraction + lowest, (stored : Int) - 1075⟩

/-- A fraction of two naturals, for `n · 2 ^ e · 10 ^ -k`. -/
def scaled (n : Nat) (e k : Int) : Nat × Nat :=
  (n * Nat.pow 2 e.toNat * Nat.pow 10 (-k).toNat, Nat.pow 2 (-e).toNat * Nat.pow 10 k.toNat)

/-- Whether `d · 10 ^ k` rounds to the magnitude: it lies between the midpoints to the neighbours, and a midpoint
itself belongs to an even mantissa. -/
def Magnitude.isReached (v : Magnitude) (d : Nat) (k : Int) : Bool :=
  let isLowest := v.mantissa = lowest && v.exponent > -1074
  let below := if isLowest then 4 * v.mantissa - 1 else 4 * v.mantissa - 2
  let (lowNum, lowDen) := scaled below (v.exponent - 2) k
  let (highNum, highDen) := scaled (4 * v.mantissa + 2) (v.exponent - 2) k
  let even := v.mantissa % 2 = 0
  if even then lowNum ≤ d * lowDen && d * highDen ≤ highNum
  else lowNum < d * lowDen && d * highDen < highNum

/-- The neighbour of the magnitude on the grid of multiples of `10 ^ k` that rounds back to it, the nearer one if both
do and the even one of two equally near. -/
def Magnitude.onGrid? (v : Magnitude) (k : Int) : Option Nat :=
  let (num, den) := scaled v.mantissa v.exponent k
  let d := num / den
  match v.isReached d k && d ≠ 0, v.isReached (d + 1) k with
  | true, true =>
    let rest := 2 * (num % den)
    if rest < den then some d else if den < rest then some (d + 1) else if d % 2 = 0 then some d else some (d + 1)
  | true, false => some d
  | false, true => some (d + 1)
  | false, false => none

/-- The first hit on the grids `10 ^ k`, `10 ^ (k - 1)`, … -/
def Magnitude.firstHit (v : Magnitude) : Nat → Int → Nat × Int
  | 0, k => (0, k)
  | tries + 1, k =>
    match v.onGrid? k with
    | some d => (d, k)
    | none => v.firstHit tries (k - 1)

/-- Trailing zeros of the digits moved into the exponent. -/
def trimZeros : Nat → Nat → Int → Nat × Int
  | 0, d, k => (d, k)
  | tries + 1, d, k => if d % 10 = 0 ∧ d ≠ 0 then trimZeros tries (d / 10) (k + 1) else (d, k)

/-- The shortest decimal `d · 10 ^ k` of a magnitude that is not zero. -/
def shortestDigits (v : Magnitude) : Nat × Int :=
  let (d, k) := v.firstHit 700 330
  trimZeros 20 d k

/-- The number of digits before the decimal point up to which a number is written positionally. -/
def positionalDigits : Int := 16

/-- The number of zeros after the decimal point up to which a small number is written positionally. -/
def positionalZeros : Int := 4

/-- The exponent of scientific notation, always with a sign. -/
def exponentText (e : Int) : String := "e" ++ (if e < 0 then "-" else "+") ++ decimal e.natAbs

/-- The digits `d · 10 ^ k` laid out. -/
def layOut (d : Nat) (k : Int) : String :=
  let digits := decimalDigits d
  let point : Int := digits.length + k
  if 0 ≤ k ∧ point ≤ positionalDigits then
    String.ofList (digits ++ List.replicate k.toNat '0') ++ ".0"
  else if 0 < point ∧ point ≤ positionalDigits then
    String.ofList (digits.take point.toNat) ++ "." ++ String.ofList (digits.drop point.toNat)
  else if -positionalZeros ≤ point ∧ point ≤ 0 then
    "0." ++ String.ofList (List.replicate (-point).toNat '0' ++ digits)
  else
    match digits with
    | [] => ""
    | [c] => c.toString ++ exponentText (point - 1)
    | c :: cs => c.toString ++ "." ++ String.ofList cs ++ exponentText (point - 1)

def doubleText (x : Float) : String :=
  let bits := x.toBits
  let sign := if 0x8000000000000000 ≤ bits.toNat then "-" else ""
  let v := Magnitude.ofBits bits
  if v.mantissa = 0 then sign ++ "0.0"
  else
    let (d, k) := shortestDigits v
    sign ++ layOut d k

end ClusterMembership.Text
