import ClusterMembership.Json.Flaw
import ClusterMembership.Text.Blank
import ClusterMembership.Text.Utf8
/-!
# Scanning a JSON text

The pieces of a text from left to right: literals, strings, numbers and whole values whose content does not matter. Each
scanner takes the symbols still unread and returns what it read with those that remain; the first flaw met is the flaw
reported. Values that are skipped may nest to any depth, and their strings and numbers are checked for form alone.
-/
namespace ClusterMembership.Json

open Text (Symbol)

def isGap : Symbol → Bool
  | some c => Text.isJsonBlank c
  | none => false

def skipGap (s : List Symbol) : List Symbol := s.dropWhile isGap

def literal : List Char → List Symbol → Except Flaw (List Symbol)
  | [], s => .ok s
  | _ :: _, [] => .error .cutShort
  | c :: cs, x :: s => if x = some c then literal cs s else .error .malformed

/-! ## Strings -/

/-- The number of bytes that a symbol takes up. -/
def symbolSize : Symbol → Nat
  | some c => c.utf8Size
  | none => 1

/-- Four digits to base sixteen. Where fewer than four bytes are left, the text ends too early, whatever they are. -/
def hexEscape (s : List Symbol) : Except Flaw (Nat × List Symbol) :=
  match s with
  | some a :: some b :: some c :: some d :: rest =>
    match Text.hexValue? a, Text.hexValue? b, Text.hexValue? c, Text.hexValue? d with
    | some a, some b, some c, some d => .ok (((a * 16 + b) * 16 + c) * 16 + d, rest)
    | _, _, _, _ => .error .malformed
  | s => if s.foldl (fun size x => size + symbolSize x) 0 < 4 then .error .cutShort else .error .malformed

def shortEscape? : Char → Option Char
  | '"' => some '"'
  | '\\' => some '\\'
  | '/' => some '/'
  | 'b' => some '\x08'
  | 'f' => some '\x0c'
  | 'n' => some '\n'
  | 'r' => some '\r'
  | 't' => some '\t'
  | _ => none

def isHighSurrogate (n : Nat) : Bool := 0xd800 ≤ n && n ≤ 0xdbff

def isLowSurrogate (n : Nat) : Bool := 0xdc00 ≤ n && n ≤ 0xdfff

/-- The character of an escape by number; a character beyond sixteen bits is written as a pair of surrogates, and a
surrogate outside a pair is no character. -/
def unicodeEscape (s : List Symbol) : Except Flaw (Char × List Symbol) := do
  let (n, s) ← hexEscape s
  if isLowSurrogate n then .error .malformed
  else if isHighSurrogate n then
    match s with
    | [] => .error .cutShort
    | [some '\\'] => .error .cutShort
    | some '\\' :: some 'u' :: s => do
      let (m, s) ← hexEscape s
      if isLowSurrogate m then .ok (Char.ofNat (0x10000 + (n - 0xd800) * 0x400 + (m - 0xdc00)), s)
      else .error .malformed
    | _ => .error .malformed
  else .ok (Char.ofNat n, s)

/-- What follows a backslash, as the character it stands for. -/
def escape : List Symbol → Except Flaw (Char × List Symbol)
  | [] => .error .cutShort
  | some 'u' :: s => unicodeEscape s
  | some c :: s =>
    match shortEscape? c with
    | some d => .ok (d, s)
    | none => .error .malformed
  | none :: _ => .error .malformed

theorem hexEscape_length {s r : List Symbol} {n : Nat} (h : hexEscape s = .ok (n, r)) : r.length < s.length := by
  unfold hexEscape at h
  split at h
  · split at h
    · simp only [Except.ok.injEq, Prod.mk.injEq] at h
      obtain ⟨-, rfl⟩ := h
      simp only [List.length_cons]; omega
    · cases h
  · split at h <;> cases h

theorem unicodeEscape_length {s r : List Symbol} {c : Char} (h : unicodeEscape s = .ok (c, r)) :
    r.length < s.length := by
  unfold unicodeEscape at h
  cases hs : hexEscape s with
  | error e => simp [hs, bind, Except.bind] at h
  | ok p =>
    obtain ⟨n, t⟩ := p
    have ht := hexEscape_length hs
    simp only [hs, bind, Except.bind] at h
    split at h
    · cases h
    · split at h
      · split at h
        · cases h
        · cases h
        · next u =>
          cases hu : hexEscape u with
          | error e => simp [hu] at h
          | ok q =>
            obtain ⟨m, v⟩ := q
            have hv := hexEscape_length hu
            simp only [hu] at h
            split at h
            · simp only [Except.ok.injEq, Prod.mk.injEq] at h
              obtain ⟨-, rfl⟩ := h
              simp only [List.length_cons] at ht; omega
            · cases h
        · cases h
      · simp only [Except.ok.injEq, Prod.mk.injEq] at h
        obtain ⟨-, rfl⟩ := h
        exact ht

theorem escape_length {s r : List Symbol} {c : Char} (h : escape s = .ok (c, r)) : r.length < s.length := by
  unfold escape at h
  split at h
  · cases h
  · have := unicodeEscape_length h
    simp only [List.length_cons]; omega
  · split at h
    · simp only [Except.ok.injEq, Prod.mk.injEq] at h
      obtain ⟨-, rfl⟩ := h
      simp
    · cases h
  · cases h

/-- The characters of a string up to its closing quote, the opening one having been read. -/
def stringTail (s : List Symbol) : Except Flaw (List Char × List Symbol) :=
  match s with
  | [] => .error .cutShort
  | none :: _ => .error .malformed
  | some '"' :: s => .ok ([], s)
  | some '\\' :: s =>
    match h : escape s with
    | .error e => .error e
    | .ok (c, r) =>
      have : r.length < s.length := escape_length h
      (stringTail r).map fun (cs, r) => (c :: cs, r)
  | some c :: s =>
    if c < ' ' then .error .malformed
    else (stringTail s).map fun (cs, r) => (c :: cs, r)
termination_by s.length

/-- What follows a backslash in a string that is skipped: the number of an escape need not be a character's. -/
def skipEscape : List Symbol → Except Flaw (List Symbol)
  | [] => .error .cutShort
  | some 'u' :: s => (hexEscape s).map (·.2)
  | some c :: s => if (shortEscape? c).isSome then .ok s else .error .malformed
  | none :: _ => .error .malformed

theorem skipEscape_length {s r : List Symbol} (h : skipEscape s = .ok r) : r.length < s.length := by
  unfold skipEscape at h
  split at h
  · cases h
  · next t =>
    cases ht : hexEscape t with
    | error e => simp [ht, Except.map] at h
    | ok p =>
      have := hexEscape_length (n := p.1) (r := p.2) ht
      simp only [ht, Except.map, Except.ok.injEq] at h
      subst h
      simp only [List.length_cons]; omega
  · split at h
    · simp only [Except.ok.injEq] at h
      subst h
      simp
    · cases h
  · cases h

/-- The symbols after a string that is skipped, its opening quote having been read. -/
def skipString (s : List Symbol) : Except Flaw (List Symbol) :=
  match s with
  | [] => .error .cutShort
  | some '"' :: s => .ok s
  | some '\\' :: s =>
    match h : skipEscape s with
    | .error e => .error e
    | .ok r =>
      have : r.length < s.length := skipEscape_length h
      skipString r
  | some c :: s => if c < ' ' then .error .malformed else skipString s
  | none :: s => skipString s
termination_by s.length

theorem skipString_length {s r : List Symbol} (h : skipString s = .ok r) : r.length < s.length := by
  fun_induction skipString s with
  | case1 => cases h
  | case2 s =>
    simp only [Except.ok.injEq] at h
    subst h; simp
  | case3 => cases h
  | case4 s t _ hlt ih =>
    have := ih h
    simp only [List.length_cons]; omega
  | case5 => cases h
  | case6 c s _ _ _ ih =>
    have := ih h
    simp only [List.length_cons]; omega
  | case7 s ih =>
    have := ih h
    simp only [List.length_cons]; omega

/-! ## Numbers -/

def isDigit : Symbol → Bool
  | some c => '0' ≤ c && c ≤ '9'
  | none => false

def digitValue : Symbol → Nat
  | some c => c.toNat - 0x30
  | none => 0

def skipDigits (s : List Symbol) : List Symbol := s.dropWhile isDigit

def exactLimit : Nat := UInt64.size - 1

/-- Appends digits to a number while it stays exact, and returns it with the number of digits left over. -/
def gather (limit acc : Nat) : List Symbol → Nat × Nat
  | [] => (acc, 0)
  | d :: ds =>
    let next := acc * 10 + digitValue d
    if next ≤ limit then gather limit next ds else (acc, ds.length + 1)

def powerOfTen (k : Nat) : Float := Float.ofScientific 1 false k

/-- Divides by `10 ^ k`, in steps that stay within the range of doubles. -/
def divideByPower (x : Float) (k : Nat) : Float :=
  if k ≤ 308 then x / powerOfTen k
  else if x == 0 then x
  else divideByPower (x / powerOfTen 308) (k - 308)
termination_by k

/-- The double for `significand · 10 ^ exponent`; one beyond the range of doubles is no number. -/
def assemble (negative : Bool) (significand : Nat) (exponent : Int) : Except Flaw Number :=
  let x := significand.toUInt64.toFloat
  let signed (y : Float) : Except Flaw Number := .ok (.real (if negative then -y else y))
  if exponent < 0 then signed (divideByPower x exponent.natAbs)
  else if 308 < exponent then if x == 0 then signed x else .error .malformed
  else
    let y := x * powerOfTen exponent.natAbs
    if y.isInf then .error .malformed else signed y

/-- An exponent, its letter having been read. One that does not fit 32 bits counts as infinite. -/
def exponentPart (negative : Bool) (significand : Nat) (exponent : Int) (s : List Symbol) : Except Flaw (Number × List Symbol) := do
  let (minus, s) :=
    match s with
    | some '+' :: s => (false, s)
    | some '-' :: s => (true, s)
    | s => (false, s)
  match s with
  | [] => .error .cutShort
  | d :: r =>
    if isDigit d then
      let rest := skipDigits r
      let (e, dropped) := gather 0x7fffffff (digitValue d) (r.takeWhile isDigit)
      if dropped = 0 then
        let n ← assemble negative significand (if minus then exponent - e else exponent + e)
        .ok (n, rest)
      else if significand = 0 ∨ minus then .ok (.real (if negative then -0.0 else 0.0), rest)
      else .error .malformed
    else .error .malformed

/-- An exponent where one follows, and else the end of the number. -/
def exponentPart? (negative : Bool) (significand : Nat) (exponent : Int) (s : List Symbol) : Except Flaw (Number × List Symbol) :=
  match s with
  | some 'e' :: r => exponentPart negative significand exponent r
  | some 'E' :: r => exponentPart negative significand exponent r
  | s => (assemble negative significand exponent).map (·, s)

/-- Digits after the decimal point, which has been read. Those that no longer fit the significand are dropped. -/
def fractionPart (negative : Bool) (significand : Nat) (exponent : Int) (s : List Symbol) : Except Flaw (Number × List Symbol) :=
  let ds := s.takeWhile isDigit
  let rest := skipDigits s
  if ds = [] then .error (if s = [] then .cutShort else .malformed)
  else
    let (n, dropped) := gather exactLimit significand ds
    exponentPart? negative n (exponent - (ds.length - dropped : Nat)) rest

/-- A number, its sign having been read. A whole number that is not exact, minus zero, and every number with a point or
an exponent is a double. -/
def numberTail (negative : Bool) (s : List Symbol) : Except Flaw (Number × List Symbol) :=
  let ds := s.takeWhile isDigit
  let rest := skipDigits s
  match ds with
  | [] => .error (if s = [] then .cutShort else .malformed)
  | first :: more =>
    if first = some '0' ∧ more ≠ [] then .error .malformed
    else
      let (n, dropped) := gather exactLimit (digitValue first) more
      match rest with
      | some '.' :: r => fractionPart negative n dropped r
      | some 'e' :: r => exponentPart negative n dropped r
      | some 'E' :: r => exponentPart negative n dropped r
      | rest =>
        if dropped = 0 then
          if !negative then .ok (.natural n, rest)
          else if n = 0 ∨ 0x8000000000000000 < n then (assemble true n 0).map (·, rest)
          else .ok (.negative n, rest)
        else (assemble negative n dropped).map (·, rest)

/-- At least one digit, as far as they go. -/
def skipDigitsSome (s : List Symbol) : Except Flaw (List Symbol) :=
  if s.takeWhile isDigit = [] then .error .malformed else .ok (skipDigits s)

/-- The symbols after an exponent that is skipped, its letter having been read. -/
def skipExponent (s : List Symbol) : Except Flaw (List Symbol) :=
  match s with
  | some '+' :: s => skipDigitsSome s
  | some '-' :: s => skipDigitsSome s
  | s => skipDigitsSome s

/-- The symbols after what may follow the digits of a number that is skipped. -/
def skipFraction (s : List Symbol) : Except Flaw (List Symbol) :=
  match s with
  | some '.' :: s => do
    match ← skipDigitsSome s with
    | some 'e' :: s => skipExponent s
    | some 'E' :: s => skipExponent s
    | s => .ok s
  | some 'e' :: s => skipExponent s
  | some 'E' :: s => skipExponent s
  | s => .ok s

/-- The symbols after a number that is skipped, its sign having been read. A text that ends inside it counts as
malformed, not as cut short. -/
def skipNumber (s : List Symbol) : Except Flaw (List Symbol) :=
  match s.takeWhile isDigit with
  | [] => .error .malformed
  | first :: more =>
    if first = some '0' ∧ more ≠ [] then .error .malformed else skipFraction (skipDigits s)

end ClusterMembership.Json
