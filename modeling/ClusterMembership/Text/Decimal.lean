/-!
# Decimal numbers

`decimal` writes a number with the fewest digits. The point is `digitsValue_decimalDigits`: the digits read back to the
number they were written from, so two numbers never share a text.
-/
namespace ClusterMembership.Text

def digitChar (d : Nat) : Char := Char.ofNat (0x30 + d)

/-- The value of a digit, where the character is one. -/
def digit? (c : Char) : Option Nat :=
  if '0' ≤ c ∧ c ≤ '9' then some (c.toNat - 0x30) else none

/-- The digits of `n`, the first one not zero unless it is the only one. -/
def decimalDigits (n : Nat) : List Char :=
  if n < 10 then [digitChar n] else decimalDigits (n / 10) ++ [digitChar (n % 10)]
termination_by n

def decimal (n : Nat) : String := String.ofList (decimalDigits n)

/-- What the digits already read amount to, and then those still to come. -/
def digitsValueFrom (start : Nat) (ds : List Char) : Nat :=
  ds.foldl (fun v c => 10 * v + (c.toNat - 0x30)) start

def digitsValue (ds : List Char) : Nat := digitsValueFrom 0 ds

theorem toNat_digitChar {d : Nat} (h : d < 10) : (digitChar d).toNat = 0x30 + d := by
  match d with
  | 0 | 1 | 2 | 3 | 4 | 5 | 6 | 7 | 8 | 9 => rfl
  | _ + 10 => omega

theorem digit?_digitChar {d : Nat} (h : d < 10) : digit? (digitChar d) = some d := by
  match d with
  | 0 | 1 | 2 | 3 | 4 | 5 | 6 | 7 | 8 | 9 => decide
  | _ + 10 => omega

theorem digitsValueFrom_append (start : Nat) (ds es : List Char) :
    digitsValueFrom start (ds ++ es) = digitsValueFrom (digitsValueFrom start ds) es := List.foldl_append

/-- **Digits read back.** -/
theorem digitsValue_decimalDigits (n : Nat) : digitsValue (decimalDigits n) = n := by
  induction n using Nat.strongRecOn with
  | ind n ih =>
    rw [decimalDigits]
    split
    · next h => simp [digitsValue, digitsValueFrom, toNat_digitChar h]
    · next h =>
      have step : digitsValueFrom 0 (decimalDigits (n / 10)) = n / 10 := ih (n / 10) (by omega)
      have last : (digitChar (n % 10)).toNat = 0x30 + n % 10 := toNat_digitChar (Nat.mod_lt _ (by decide))
      rw [digitsValue, digitsValueFrom_append, step]
      simp only [digitsValueFrom, List.foldl_cons, List.foldl_nil, last]
      omega

theorem decimalDigits_inj {m n : Nat} (h : decimalDigits m = decimalDigits n) : m = n := by
  rw [← digitsValue_decimalDigits m, h, digitsValue_decimalDigits]

theorem decimalDigits_ne_nil (n : Nat) : decimalDigits n ≠ [] := by
  rw [decimalDigits]; split <;> simp

theorem mem_decimalDigits {n : Nat} {c : Char} (h : c ∈ decimalDigits n) : ∃ d < 10, c = digitChar d := by
  induction n using Nat.strongRecOn with
  | ind n ih =>
    rw [decimalDigits] at h
    split at h
    · next hn => exact ⟨n, hn, by simpa using h⟩
    · next hn =>
      rcases List.mem_append.1 h with h | h
      · exact ih (n / 10) (by omega) h
      · exact ⟨n % 10, Nat.mod_lt _ (by decide), by simpa using h⟩

theorem toList_decimal (n : Nat) : (decimal n).toList = decimalDigits n := String.toList_ofList

end ClusterMembership.Text
