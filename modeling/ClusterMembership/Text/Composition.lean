import ClusterMembership.Text.CompositionTable
/-!
# Canonical composition

A character with marks can be written in several ways that mean the same. `compose` brings a text into the one of them
that uses the fewest characters: characters are taken apart, the marks after each are put in the order of their combining
classes, and what can be written as one character is put together again. Syllables of Hangul follow a rule instead of a
table.
-/
namespace ClusterMembership.Text

/-- The class that says where a mark attaches; zero for a character that begins a new one. -/
def combiningClass (c : Char) : Nat :=
  if c.toNat < 0x300 then 0
  else ((combiningClasses.find? fun (_, marks) => marks.contains c).map (·.1)).getD 0

/-! ## Hangul -/

/-- First syllable, leading consonant and vowel, and the character before the first trailing consonant. -/
def firstSyllable : Nat := 0xac00
def firstLeading : Nat := 0x1100
def firstVowel : Nat := 0x1161
def beforeTrailing : Nat := 0x11a7

/-- The syllable of a leading consonant and a vowel, or of a syllable without trailing consonant and such a one. -/
def composeHangul? (a b : Nat) : Option Nat :=
  if firstLeading ≤ a ∧ a < firstLeading + 19 ∧ firstVowel ≤ b ∧ b < firstVowel + 21 then
    some (firstSyllable + ((a - firstLeading) * 21 + (b - firstVowel)) * 28)
  else if firstSyllable ≤ a ∧ a < firstSyllable + 11172 ∧ (a - firstSyllable) % 28 = 0 ∧
      beforeTrailing < b ∧ b < beforeTrailing + 28 then
    some (a + (b - beforeTrailing))
  else none

def decomposeHangul? (c : Nat) : Option (Nat × Nat) :=
  if firstSyllable ≤ c ∧ c < firstSyllable + 11172 then
    let i := c - firstSyllable
    if i % 28 = 0 then some (firstLeading + i / 588, firstVowel + i % 588 / 28)
    else some (c - i % 28, beforeTrailing + i % 28)
  else none

/-! ## Pairs -/

def composePair? (a b : Char) : Option Char :=
  ((composeHangul? a.toNat b.toNat).or do
    let (_, firsts) ← compositions.find? fun (second, _) => second = b.toNat
    let pair ← firsts.find? fun pair => pair.headD 0 = a.toNat
    pair[1]?).map Char.ofNat

def decomposePair? (c : Char) : Option (Char × Char) :=
  ((decomposeHangul? c.toNat).or
    (compositions.findSome? fun (second, firsts) =>
      (firsts.find? fun pair => pair.getLastD 0 = c.toNat).map fun pair => (pair.headD 0, second))).map
    fun (a, b) => (Char.ofNat a, Char.ofNat b)

/-- A character taken apart, in at most `depth` steps. -/
def decompose : Nat → Char → List Char
  | 0, c => [c]
  | depth + 1, c =>
    if c.toNat < 0xc0 then [c]
    else
      match decomposePair? c with
      | none => [c]
      | some (a, b) => decompose depth a ++ [b]

/-- No character is made in more steps than these. -/
def deepest : Nat := 4

/-! ## Order of marks -/

/-- Puts a character before a text whose marks are in order. -/
def insertMark (c : Char) : List Char → List Char
  | [] => [c]
  | d :: ds =>
    if combiningClass d ≠ 0 ∧ combiningClass d < combiningClass c then d :: insertMark c ds else c :: d :: ds

/-- The marks after each character in the order of their classes; marks of one class keep their order. -/
def orderMarks (cs : List Char) : List Char := cs.foldr insertMark []

/-! ## Composition -/

/-- Puts characters together. `starter` is the last character that marks can attach to, and `marks` are those after it
that could not, the last one first. A mark can attach if no mark of its class or a higher one stands in between. -/
def joinMarks : Option Char → List Char → List Char → List Char
  | starter, marks, [] => starter.toList ++ marks.reverse
  | starter, marks, c :: cs =>
    let isBlocked := match marks with
      | [] => false
      | last :: _ => combiningClass c ≤ combiningClass last
    match if isBlocked then none else starter.bind (composePair? · c) with
    | some joined => joinMarks (some joined) marks cs
    | none =>
      if combiningClass c = 0 then starter.toList ++ marks.reverse ++ joinMarks (some c) [] cs
      else joinMarks starter (c :: marks) cs

def compose (cs : List Char) : List Char :=
  if cs.all (·.toNat < 0x300) then cs
  else joinMarks none [] (orderMarks (cs.flatMap (decompose deepest)))

end ClusterMembership.Text
