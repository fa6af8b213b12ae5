import ClusterMembership.Json.Scan
/-!
# Skipping a value

`skipValue` passes over one JSON value whose content does not matter. It keeps the brackets still open in a list, so the
depth of nesting is bounded by nothing but the text, and it stops right after the value.
-/
namespace ClusterMembership.Json

open Text (Symbol)

theorem skipGap_length (s : List Symbol) : (skipGap s).length ≤ s.length :=
  (List.dropWhile_sublist isGap).length_le

theorem skipDigits_length (s : List Symbol) : (skipDigits s).length ≤ s.length :=
  (List.dropWhile_sublist isDigit).length_le

theorem literal_length {cs : List Char} {s r : List Symbol} (h : literal cs s = .ok r) : r.length ≤ s.length := by
  induction cs generalizing s with
  | nil =>
    simp only [literal, Except.ok.injEq] at h
    simp [h]
  | cons c cs ih =>
    cases s with
    | nil => cases h
    | cons x s =>
      simp only [literal] at h
      split at h
      · have := ih h
        simp only [List.length_cons]; omega
      · cases h

theorem skipDigitsSome_length {s r : List Symbol} (h : skipDigitsSome s = .ok r) : r.length ≤ s.length := by
  unfold skipDigitsSome at h
  split at h
  · cases h
  · simp only [Except.ok.injEq] at h
    subst h
    exact skipDigits_length s

theorem skipExponent_length {s r : List Symbol} (h : skipExponent s = .ok r) : r.length ≤ s.length := by
  unfold skipExponent at h
  split at h
  · have := skipDigitsSome_length h
    simp only [List.length_cons]; omega
  · have := skipDigitsSome_length h
    simp only [List.length_cons]; omega
  · exact skipDigitsSome_length h

theorem skipFraction_length {s r : List Symbol} (h : skipFraction s = .ok r) : r.length ≤ s.length := by
  unfold skipFraction at h
  split at h
  · next t =>
    cases ht : skipDigitsSome t with
    | error e => simp [ht, bind, Except.bind] at h
    | ok u =>
      have hu := skipDigitsSome_length ht
      simp only [ht, bind, Except.bind] at h
      split at h
      · have := skipExponent_length h
        simp only [List.length_cons] at *; omega
      · have := skipExponent_length h
        simp only [List.length_cons] at *; omega
      · simp only [Except.ok.injEq] at h
        subst h
        simp only [List.length_cons]; omega
  · have := skipExponent_length h
    simp only [List.length_cons]; omega
  · have := skipExponent_length h
    simp only [List.length_cons]; omega
  · simp only [Except.ok.injEq] at h
    simp [h]

theorem skipNumber_length {s r : List Symbol} (h : skipNumber s = .ok r) : r.length ≤ s.length := by
  unfold skipNumber at h
  split at h
  · cases h
  · split at h
    · cases h
    · exact Nat.le_trans (skipFraction_length h) (skipDigits_length s)

/-- A bracket that is still open. -/
inductive Bracket where
  | list
  | object
deriving DecidableEq

def Bracket.closing : Bracket → Char
  | .list => ']'
  | .object => '\x7d'

/-- What may come next while values are skipped. -/
inductive Awaited where
  | value
  /-- An item, or the end of a list that has none. -/
  | item
  /-- A member, or the end of an object that has none. -/
  | member
  /-- A member after a comma. -/
  | name
  /-- The colon after a member's name. -/
  | colon
  /-- A comma, or the end of the innermost bracket. -/
  | separator
deriving DecidableEq

/-- A value that is no bracket, or the opening of one, told by its first symbol. -/
inductive Opened where
  | bracket (b : Bracket) (rest : List Symbol)
  | scalar (rest : List Symbol)

def openValue (x : Symbol) (s : List Symbol) : Except Flaw Opened :=
  match x with
  | some '"' => (skipString s).map .scalar
  | some '[' => .ok (.bracket .list s)
  | some '\x7b' => .ok (.bracket .object s)
  | some '-' => (skipNumber s).map .scalar
  | some 'n' => (literal ['u', 'l', 'l'] s).map .scalar
  | some 't' => (literal ['r', 'u', 'e'] s).map .scalar
  | some 'f' => (literal ['a', 'l', 's', 'e'] s).map .scalar
  | x => if isDigit x then (skipNumber (x :: s)).map .scalar else .error .malformed

def Opened.rest : Opened → List Symbol
  | .bracket _ rest => rest
  | .scalar rest => rest

def Bracket.inside : Bracket → Awaited
  | .list => .item
  | .object => .member

def Bracket.afterComma : Bracket → Awaited
  | .list => .value
  | .object => .name

theorem skipFraction_length_of_digit {x : Symbol} {s r : List Symbol} (hx : isDigit x = true)
    (h : skipNumber (x :: s) = .ok r) : r.length ≤ s.length := by
  unfold skipNumber at h
  split at h
  · cases h
  · split at h
    · cases h
    · have := skipFraction_length h
      simp only [skipDigits, List.dropWhile_cons, hx, if_true] at this
      exact Nat.le_trans this (skipDigits_length s)

theorem openValue_length {x : Symbol} {s : List Symbol} {o : Opened} (h : openValue x s = .ok o) :
    o.rest.length ≤ s.length := by
  have scalar : ∀ {e : Except Flaw (List Symbol)}, (∀ r, e = .ok r → r.length ≤ s.length) →
      e.map Opened.scalar = .ok o → o.rest.length ≤ s.length := by
    intro e hr he
    cases e with
    | error => cases he
    | ok r =>
      simp only [Except.map, Except.ok.injEq] at he
      subst he
      exact hr r rfl
  unfold openValue at h
  split at h
  · exact scalar (fun _ hr => Nat.le_of_lt (skipString_length hr)) h
  · cases h; exact Nat.le_refl _
  · cases h; exact Nat.le_refl _
  · exact scalar (fun _ hr => skipNumber_length hr) h
  · exact scalar (fun _ hr => literal_length hr) h
  · exact scalar (fun _ hr => literal_length hr) h
  · exact scalar (fun _ hr => literal_length hr) h
  · split at h
    · next hx => exact scalar (fun _ hr => skipFraction_length_of_digit hx hr) h
    · cases h

/-- Passes over what is left of a value: `outer` are the open brackets, the innermost first, and `awaited` is what may
come next. -/
def skim (outer : List Bracket) (awaited : Awaited) (s : List Symbol) : Except Flaw (List Symbol) :=
  match hs : skipGap s with
  | [] => .error .cutShort
  | x :: t =>
    have short : t.length < s.length := by
      have := skipGap_length s
      rw [hs, List.length_cons] at this; exact this
    match awaited with
    | .colon => if x = some ':' then skim outer .value t else .error .malformed
    | .name | .member =>
      if x = some '"' then
        match hq : skipString t with
        | .error e => .error e
        | .ok u =>
          have : u.length < s.length := Nat.lt_trans (skipString_length hq) short
          skim outer .colon u
      else if awaited = .member ∧ x = some '\x7d' then
        match outer.tail with
        | [] => .ok t
        | rest => skim rest .separator t
      else .error .malformed
    | .separator =>
      match outer with
      | [] => .error .malformed
      | b :: rest =>
        if x = some ',' then skim (b :: rest) b.afterComma t
        else if x = some b.closing then
          match rest with
          | [] => .ok t
          | rest => skim rest .separator t
        else .error .malformed
    | .value | .item =>
      if awaited = .item ∧ x = some ']' then
        match outer.tail with
        | [] => .ok t
        | rest => skim rest .separator t
      else
        match ho : openValue x t with
        | .error e => .error e
        | .ok (.bracket b u) =>
          have : u.length < s.length := Nat.lt_of_le_of_lt (openValue_length ho) short
          skim (b :: outer) b.inside u
        | .ok (.scalar u) =>
          have : u.length < s.length := Nat.lt_of_le_of_lt (openValue_length ho) short
          match outer with
          | [] => .ok u
          | outer => skim outer .separator u
termination_by s.length

def skipValue (s : List Symbol) : Except Flaw (List Symbol) := skim [] .value s

end ClusterMembership.Json
