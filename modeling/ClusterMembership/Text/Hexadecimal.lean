/-!
# Digits to base sixteen

Digits are written in lower or in upper case and read in either (`hexValue?_lowerHexChar`, `hexValue?_upperHexChar`).
`lowerHex` writes a number with the fewest digits and `lowerHexDigits` with a given number of them.
-/
namespace ClusterMembership.Text

/-- The digit of a number below sixteen, lower case. -/
def lowerHexChar (n : Nat) : Char := if n < 10 then Char.ofNat (0x30 + n) else Char.ofNat (0x61 + (n - 10))

/-- The digit of a number below sixteen, upper case. -/
def upperHexChar (n : Nat) : Char := if n < 10 then Char.ofNat (0x30 + n) else Char.ofNat (0x41 + (n - 10))

/-- The value of a digit, where the character is one. -/
def hexValue? (c : Char) : Option Nat :=
  if '0' ≤ c ∧ c ≤ '9' then some (c.toNat - 0x30)
  else if 'a' ≤ c ∧ c ≤ 'f' then some (c.toNat - 0x61 + 10)
  else if 'A' ≤ c ∧ c ≤ 'F' then some (c.toNat - 0x41 + 10)
  else none

/-- The number that digits denote; what is no digit counts as zero. -/
def hexNumber (cs : List Char) : Nat := cs.foldl (fun n c => n * 16 + (hexValue? c).getD 0) 0

def lowerHexDigits : Nat → Nat → List Char
  | 0, _ => []
  | count + 1, n => lowerHexDigits count (n / 16) ++ [lowerHexChar (n % 16)]

def lowerHex (n : Nat) : String := String.ofList (Nat.toDigits 16 n)

theorem hexValue?_lowerHexChar {n : Nat} (h : n < 16) : hexValue? (lowerHexChar n) = some n := by
  match n with
  | 0 | 1 | 2 | 3 | 4 | 5 | 6 | 7 | 8 | 9 | 10 | 11 | 12 | 13 | 14 | 15 => decide
  | _ + 16 => omega

theorem hexValue?_upperHexChar {n : Nat} (h : n < 16) : hexValue? (upperHexChar n) = some n := by
  match n with
  | 0 | 1 | 2 | 3 | 4 | 5 | 6 | 7 | 8 | 9 | 10 | 11 | 12 | 13 | 14 | 15 => decide
  | _ + 16 => omega

end ClusterMembership.Text
