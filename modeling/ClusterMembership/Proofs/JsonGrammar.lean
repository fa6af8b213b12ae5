import ClusterMembership.Json.Scan
import ClusterMembership.Text.Hexadecimal
/-!
# The grammar of JSON texts

What a JSON text may look like, said without its readers.  The characters of a string may be spelled in several ways
(`Spelled`), blanks may stand around every token, and what stands between brackets is separated by commas (`Bracketed`).
`IsValue` are the texts of single values, nested to any depth.
-/
namespace ClusterMembership.Json

/-- Blanks, or nothing. -/
def IsGapText (gap : List Char) : Prop := ∀ c ∈ gap, Text.isJsonBlank c = true

instance (gap : List Char) : Decidable (IsGapText gap) :=
  decidable_of_iff (gap.all Text.isJsonBlank = true) List.all_eq_true

theorem IsGapText.nil : IsGapText [] := nofun

/-! ## Strings -/

/-- The letters of the short escapes, with the characters that they stand for. -/
def shortEscapes : List (Char × Char) :=
  [('"', '"'), ('\\', '\\'), ('/', '/'), ('b', '\x08'), ('f', '\x0c'), ('n', '\n'), ('r', '\r'), ('t', '\t')]

/-- A character that stands in a string as it is. -/
def IsPlain (c : Char) : Prop := ' ' ≤ c ∧ c ≠ '"' ∧ c ≠ '\\'

instance (c : Char) : Decidable (IsPlain c) := inferInstanceAs (Decidable (_ ∧ _))

/-- Four digits to base sixteen. -/
def IsHexUnit (ds : List Char) : Prop := ds.length = 4 ∧ ∀ d ∈ ds, (Text.hexValue? d).isSome = true

instance (ds : List Char) : Decidable (IsHexUnit ds) :=
  decidable_of_iff (ds.length = 4 ∧ (ds.all fun d => (Text.hexValue? d).isSome) = true) (and_congr_right' List.all_eq_true)

/-- How a character may be spelled in a string: as it is, by a letter, by its number, or by a pair of surrogates. -/
inductive Spells : Char → List Char → Prop
  | plain {c : Char} (h : IsPlain c) : Spells c [c]
  | short {letter c : Char} (h : (letter, c) ∈ shortEscapes) : Spells c ['\\', letter]
  | unit {ds : List Char} (h : IsHexUnit ds) (hlow : isLowSurrogate (Text.hexNumber ds) = false)
    (hhigh : isHighSurrogate (Text.hexNumber ds) = false) :
    Spells (Char.ofNat (Text.hexNumber ds)) ('\\' :: 'u' :: ds)
  | pair {ds es : List Char} (h : IsHexUnit ds) (h' : IsHexUnit es)
    (hhigh : isHighSurrogate (Text.hexNumber ds) = true) (hlow : isLowSurrogate (Text.hexNumber es) = true) :
    Spells (Char.ofNat (0x10000 + (Text.hexNumber ds - 0xd800) * 0x400 + (Text.hexNumber es - 0xdc00)))
      ('\\' :: 'u' :: ds ++ '\\' :: 'u' :: es)

/-- How the characters of a string may be spelled. -/
inductive Spelled : List Char → List Char → Prop
  | nil : Spelled [] []
  | cons {c : Char} {cs t ts : List Char} (h : Spells c t) (hs : Spelled cs ts) : Spelled (c :: cs) (t ++ ts)

theorem Spelled.plain {cs : List Char} (h : cs.all (IsPlain ·) = true) : Spelled cs cs := by
  induction cs with
  | nil => exact .nil
  | cons c cs ih =>
    rw [List.all_cons, Bool.and_eq_true, decide_eq_true_eq] at h
    exact .cons (.plain h.1) (ih h.2)

/-- What may stand in a string.  The number of an escape need not be a character's. -/
inductive IsStringText : List Char → Prop
  | nil : IsStringText []
  | plain {c : Char} {ts : List Char} (h : IsPlain c) (hs : IsStringText ts) : IsStringText (c :: ts)
  | short {letter c : Char} {ts : List Char} (h : (letter, c) ∈ shortEscapes) (hs : IsStringText ts) :
    IsStringText ('\\' :: letter :: ts)
  | unit {ds ts : List Char} (h : IsHexUnit ds) (hs : IsStringText ts) : IsStringText ('\\' :: 'u' :: ds ++ ts)

/-! ## Numbers -/

/-- One digit or more. -/
def IsDigits (ds : List Char) : Prop := ds ≠ [] ∧ ∀ d ∈ ds, d.isDigit = true

/-- A whole number without leading zeros. -/
def IsInteger (ds : List Char) : Prop := IsDigits ds ∧ (ds.head? = some '0' → ds = ['0'])

def IsFraction (t : List Char) : Prop := t = [] ∨ ∃ ds, IsDigits ds ∧ t = '.' :: ds

def IsExponent (t : List Char) : Prop :=
  t = [] ∨ ∃ letter sign ds, letter ∈ ['e', 'E'] ∧ sign ∈ [[], ['+'], ['-']] ∧ IsDigits ds ∧ t = letter :: (sign ++ ds)

def IsNumber (t : List Char) : Prop :=
  ∃ sign integer fraction exponent, sign ∈ [[], ['-']] ∧ IsInteger integer ∧ IsFraction fraction ∧ IsExponent exponent ∧
    t = sign ++ (integer ++ (fraction ++ exponent))

/-! ## Brackets -/

/-- Texts for one thing or more, with blanks around them and commas between them. -/
inductive Joined {α : Type} (W : α → List Char → Prop) : List α → List Char → Prop
  | one {a : α} {before t after : List Char} (hb : IsGapText before) (h : W a t) (ha : IsGapText after) :
    Joined W [a] (before ++ (t ++ after))
  | more {a : α} {as : List α} {before t after rest : List Char} (hb : IsGapText before) (h : W a t) (ha : IsGapText after)
    (hs : Joined W as rest) : Joined W (a :: as) (before ++ (t ++ (after ++ ',' :: rest)))

/-- Texts for any number of things between two brackets. -/
inductive Bracketed {α : Type} (opening closing : Char) (W : α → List Char → Prop) : List α → List Char → Prop
  | none {gap : List Char} (h : IsGapText gap) : Bracketed opening closing W [] (opening :: (gap ++ [closing]))
  | some {as : List α} {t : List Char} (h : Joined W as t) : Bracketed opening closing W as (opening :: (t ++ [closing]))

/-- The text of a member of an object, given the spelling of its name and the text of its value. -/
inductive WritesMember (m : List Char × List Char) : List Char → Prop
  | mk {gap gap' : List Char} (h : IsGapText gap) (h' : IsGapText gap') :
    WritesMember m ('"' :: (m.1 ++ '"' :: (gap ++ ':' :: (gap' ++ m.2))))

/-! ## Values -/

/-- The texts of JSON values. -/
inductive IsValue : List Char → Prop
  | null : IsValue ['n', 'u', 'l', 'l']
  | true : IsValue ['t', 'r', 'u', 'e']
  | false : IsValue ['f', 'a', 'l', 's', 'e']
  | number {t : List Char} (h : IsNumber t) : IsValue t
  | string {t : List Char} (h : IsStringText t) : IsValue ('"' :: (t ++ ['"']))
  | list {items : List (List Char)} {t : List Char} (h : Bracketed '[' ']' (fun item t => item = t) items t)
    (hs : ∀ item ∈ items, IsValue item) : IsValue t
  | object {members : List (List Char × List Char)} {t : List Char} (h : Bracketed '\x7b' '\x7d' WritesMember members t)
    (hnames : ∀ m ∈ members, IsStringText m.1) (hs : ∀ m ∈ members, IsValue m.2) : IsValue t

/-- The text holds the value and blanks around it. -/
def IsWhole (t : List Char) (text : String) : Prop :=
  ∃ before after, IsGapText before ∧ IsGapText after ∧ text.toList = before ++ (t ++ after)

/-- How a choice may be written: its name as a string, or an object of one member with that name and the value null. -/
inductive WritesChoice (name : String) : List Char → Prop
  | string {t : List Char} (h : Spelled name.toList t) : WritesChoice name ('"' :: (t ++ ['"']))
  | object {spelling t : List Char} (h : Spelled name.toList spelling)
    (ht : Bracketed '\x7b' '\x7d' WritesMember [(spelling, ['n', 'u', 'l', 'l'])] t) : WritesChoice name t

end ClusterMembership.Json
