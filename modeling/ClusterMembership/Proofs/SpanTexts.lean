import ClusterMembership.Span.Printer
import ClusterMembership.Span.Reader
/-!
# The text of a span is read back

A written span is a row of terms.  The reader goes through the digits of a term and then through the letters of its unit,
and at the blank behind it, or at the end, adds the term to its sum (`foldlM_terms`).  The terms of a span amount to the
span (`worth_parts`), and every sum on the way there is within 64 bits because the last one is (`parse_print`).
-/
namespace ClusterMembership.Span

open TimeUnit

/-- The bound on what a span holds, in nanoseconds. -/
def bound : Nat := UInt64.size * nanosPerSecond

theorem totalNanos_lt (d : Span) : d.totalNanos < bound := by
  have hs : d.seconds < 18446744073709551616 := d.seconds_lt
  have hn : d.nanos < 1000000000 := d.nanos_lt
  show d.seconds * 1000000000 + d.nanos < 18446744073709551616 * 1000000000
  omega

/-! ## Adding a term -/

theorem fits_of_lt {n : Nat} (h : n < UInt64.size) : fits n = .ok n := if_pos h

theorem plus_spec (d : Span) {s n : Nat} (hn : n < nanosPerSecond)
    (h : d.totalNanos + (s * nanosPerSecond + n) < bound) :
    ∃ e, plus d s n = .ok e ∧ e.totalNanos = d.totalNanos + (s * nanosPerSecond + n) := by
  have hd := d.nanos_lt
  simp only [totalNanos, bound, UInt64.size, nanosPerSecond] at hn hd h ⊢
  have h₁ : fits (d.nanos + n) = .ok (d.nanos + n) := fits_of_lt (by rw [UInt64.size]; omega)
  have h₂ : fits (s + (d.nanos + n) / 1000000000) = .ok (s + (d.nanos + n) / 1000000000) :=
    fits_of_lt (by rw [UInt64.size]; omega)
  have h₃ : d.seconds + (s + (d.nanos + n) / 1000000000) < UInt64.size := by rw [UInt64.size]; omega
  refine ⟨⟨_, (d.nanos + n) % 1000000000, h₃, Nat.mod_lt _ (by decide)⟩, ?_, ?_⟩
  · rw [plus, h₁]
    show (fits (s + (d.nanos + n) / 1000000000) >>= _) = _
    rw [h₂]
    exact dif_pos h₃
  · show (d.seconds + (s + (d.nanos + n) / 1000000000)) * 1000000000 + (d.nanos + n) % 1000000000 = _
    omega

/-- One of a unit, in nanoseconds. -/
def TimeUnit.worth (u : TimeUnit) : Nat := u.seconds * nanosPerSecond + u.nanos

theorem plusTerm_spec (d : Span) {n : Nat} {name : String} {u : TimeUnit} (hu : ofName? name = some u)
    (hn : n * u.nanos < nanosPerSecond) (h : d.totalNanos + n * u.worth < bound) :
    ∃ e, plusTerm d n none name = .ok e ∧ e.totalNanos = d.totalNanos + n * u.worth := by
  have hworth : n * u.worth = n * u.seconds * nanosPerSecond + n * u.nanos := by
    rw [worth, Nat.mul_add, Nat.mul_assoc]
  rw [hworth] at h ⊢
  obtain ⟨e, he, htotal⟩ := plus_spec d hn h
  refine ⟨e, ?_, htotal⟩
  have hs : fits (n * u.seconds) = .ok (n * u.seconds) := by
    apply fits_of_lt
    simp only [bound, UInt64.size, nanosPerSecond] at h ⊢
    omega
  have hns : fits (n * u.nanos) = .ok (n * u.nanos) := by
    apply fits_of_lt
    simp only [UInt64.size, nanosPerSecond] at hn ⊢
    omega
  rw [plusTerm, hu]
  show (fits (n * u.seconds) >>= fun s => fits (n * u.nanos) >>= fun ns => plus d s ns >>= fun d => .ok d) = _
  rw [hs, hns]
  show (plus d (n * u.seconds) (n * u.nanos) >>= fun d => .ok d) = _
  rw [he]
  rfl

/-! ## Going through the text -/

theorem foldlM_digits (sum : Span) (isFirst : Bool) (mark offset n : Nat) (h : n < UInt64.size) :
    ∃ offset', (Text.decimalDigits n).foldlM Position.step ⟨sum, .gap isFirst mark, offset⟩ =
      .ok ⟨sum, .whole n, offset'⟩ := by
  induction n using Nat.strongRecOn with
  | ind n ih =>
    rw [Text.decimalDigits]
    split
    · next hn =>
      rw [List.foldlM_cons, Position.step, Text.digit?_digitChar hn]
      exact ⟨_, rfl⟩
    · next hn =>
      obtain ⟨offset', hd⟩ := ih (n / 10) (by omega) (by omega)
      have hf : fits (n / 10 * 10 + n % 10) = .ok n := by
        rw [Nat.div_add_mod', fits_of_lt h]
      rw [List.foldlM_append, hd]
      show ∃ offset'', (Position.step ⟨sum, .whole (n / 10), offset'⟩ (Text.digitChar (n % 10)) >>= pure) = _
      rw [Position.step, Text.digit?_digitChar (Nat.mod_lt n (by decide))]
      simp only [hf]
      exact ⟨_, rfl⟩

/-- A letter of a unit's name, which is neither a digit nor a blank. -/
def isLetter (c : Char) : Bool := isUnitLetter c && (Text.digit? c).isNone && !Text.isBlank c

theorem isLetter_of_ofName? {name : String} {u : TimeUnit} (h : ofName? name = some u) :
    name.toList ≠ [] ∧ ∀ c ∈ name.toList, isLetter c = true := by
  have hall : ∀ e ∈ names, ∀ name ∈ e.2, name.toList ≠ [] ∧ name.toList.all isLetter = true := by decide +kernel
  obtain ⟨e, he, -⟩ := Option.map_eq_some_iff.1 h
  obtain ⟨hne, hletters⟩ := hall e (List.mem_of_find?_eq_some he) name (by simpa using List.find?_some he)
  exact ⟨hne, List.all_eq_true.1 hletters⟩

theorem isLetter_iff {c : Char} :
    isLetter c = true ↔ isUnitLetter c = true ∧ Text.digit? c = none ∧ Text.isBlank c = false := by
  rw [isLetter, Bool.and_eq_true, Bool.and_eq_true, Bool.not_eq_true', Option.isNone_iff_eq_none, and_assoc]

theorem foldlM_letters (sum : Span) (n : Nat) : ∀ (cs letters : List Char) (offset : Nat),
    (∀ c ∈ cs, isLetter c = true) → ∃ offset', cs.foldlM Position.step ⟨sum, .unit n none letters, offset⟩ =
      .ok ⟨sum, .unit n none (cs.reverse ++ letters), offset'⟩
  | [], _, offset, _ => ⟨offset, rfl⟩
  | c :: cs, letters, offset, h => by
    obtain ⟨hu, hd, hb⟩ := isLetter_iff.1 (h c List.mem_cons_self)
    rw [List.foldlM_cons, Position.step, hd]
    simp only [hb, hu]
    rw [List.reverse_cons, List.append_assoc]
    exact foldlM_letters sum n cs (c :: letters) _ (fun c' h' => h c' (List.mem_cons_of_mem c h'))

theorem foldlM_name (sum : Span) (n : Nat) {name : String} {u : TimeUnit} (h : ofName? name = some u) (offset : Nat) :
    ∃ offset', name.toList.foldlM Position.step ⟨sum, .whole n, offset⟩ =
      .ok ⟨sum, .unit n none name.toList.reverse, offset'⟩ := by
  obtain ⟨hne, hall⟩ := isLetter_of_ofName? h
  obtain ⟨c, cs, hc⟩ := List.exists_cons_of_ne_nil hne
  rw [hc] at hall ⊢
  obtain ⟨hu, hd, hb⟩ := isLetter_iff.1 (hall c List.mem_cons_self)
  rw [List.foldlM_cons, Position.step, hd]
  simp only [hb, hu]
  rw [List.reverse_cons]
  exact foldlM_letters sum n cs [c] _ (fun c' h' => hall c' (List.mem_cons_of_mem c h'))

/-! ## Terms -/

/-- What a number of a unit amounts to, in nanoseconds. -/
def termWorth (t : Nat × String) : Nat := t.1 * ((ofName? t.2).map worth).getD 0

/-- What a row of terms amounts to. -/
def rowWorth : List (Nat × String) → Nat
  | [] => 0
  | t :: ts => termWorth t + rowWorth ts

def termChars (t : Nat × String) : List Char := Text.decimalDigits t.1 ++ t.2.toList

/-- The term has a unit that it is a part of, or a part of a second. -/
def IsTerm (t : Nat × String) : Prop :=
  ∃ u, ofName? t.2 = some u ∧ t.1 < UInt64.size ∧ t.1 * u.nanos < nanosPerSecond

theorem foldlM_term {t : Nat × String} (h : IsTerm t) (sum : Span) (isFirst : Bool) (mark offset : Nat) :
    ∃ offset', (termChars t).foldlM Position.step ⟨sum, .gap isFirst mark, offset⟩ =
      .ok ⟨sum, .unit t.1 none t.2.toList.reverse, offset'⟩ := by
  obtain ⟨u, hu, ht, -⟩ := h
  obtain ⟨offset₁, hd⟩ := foldlM_digits sum isFirst mark offset t.1 ht
  obtain ⟨offset₂, hn⟩ := foldlM_name sum t.1 hu offset₁
  refine ⟨offset₂, ?_⟩
  rw [termChars, List.foldlM_append, hd]
  exact hn

theorem plusTerm_of_isTerm {t : Nat × String} (h : IsTerm t) (sum : Span) (hs : sum.totalNanos + termWorth t < bound) :
    ∃ e, plusTerm sum t.1 none (String.ofList t.2.toList.reverse.reverse) = .ok e ∧
      e.totalNanos = sum.totalNanos + termWorth t := by
  obtain ⟨u, hu, -, hn⟩ := h
  have hw : termWorth t = t.1 * u.worth := by rw [termWorth, hu]; rfl
  rw [hw] at hs ⊢
  rw [List.reverse_reverse, String.ofList_toList]
  exact plusTerm_spec sum hu hn hs

theorem step_blank {sum sum' : Span} {n : Nat} {letters : List Char} (offset : Nat)
    (h : plusTerm sum n none (String.ofList letters.reverse) = .ok sum') :
    Position.step ⟨sum, .unit n none letters, offset⟩ ' ' = .ok ⟨sum', .gap false (offset + 1), offset + 1⟩ := by
  have hd : Text.digit? ' ' = none := rfl
  have hb : Text.isBlank ' ' = true := rfl
  rw [Position.step, hd]
  simp only [hb, h]
  rfl

/-- **A row of terms is added up**, the letters of its first unit having been read. -/
theorem foldlM_terms (ts : List (Nat × String)) {t : Nat × String} (sum : Span) (offset : Nat)
    (ht : ∀ t' ∈ t :: ts, IsTerm t') (hs : sum.totalNanos + rowWorth (t :: ts) < bound) :
    ∃ e, ((ts.flatMap fun t' => ' ' :: termChars t').foldlM Position.step
        ⟨sum, .unit t.1 none t.2.toList.reverse, offset⟩ >>= Position.finish) = .ok e ∧
      e.totalNanos = sum.totalNanos + rowWorth (t :: ts) := by
  induction ts generalizing t sum offset with
  | nil =>
    simp only [rowWorth, Nat.add_zero] at hs ⊢
    exact plusTerm_of_isTerm (ht t List.mem_cons_self) sum hs
  | cons t' ts ih =>
    rw [rowWorth, ← Nat.add_assoc] at hs ⊢
    obtain ⟨sum', hplus, htotal⟩ := plusTerm_of_isTerm (ht t List.mem_cons_self) sum (by omega)
    rw [← htotal] at hs ⊢
    have ht' : ∀ t₁ ∈ t' :: ts, IsTerm t₁ := fun t₁ h => ht t₁ (List.mem_cons_of_mem t h)
    obtain ⟨offset', hterm⟩ := foldlM_term (ht' t' List.mem_cons_self) sum' false (offset + 1) (offset + 1)
    obtain ⟨e, he, hsum⟩ := ih sum' offset' ht' hs
    refine ⟨e, ?_, hsum⟩
    rw [List.flatMap_cons, List.cons_append, List.foldlM_cons, step_blank offset hplus]
    show ((termChars t' ++ _).foldlM Position.step _ >>= Position.finish) = _
    rw [List.foldlM_append, hterm]
    exact he

/-! ## The terms of a span -/

theorem toList_terms : ∀ (t : Nat × String) (ts : List (Nat × String)),
    (String.intercalate " " ((t :: ts).map fun (n, name) => Text.decimal n ++ name)).toList =
      termChars t ++ ts.flatMap fun t' => ' ' :: termChars t'
  | t, [] => by simp [termChars, Text.toList_decimal]
  | t, t' :: ts => by
    have ih := toList_terms t' ts
    simp only [List.map_cons] at ih ⊢
    rw [String.intercalate_cons_cons, String.toList_append, ih]
    simp [termChars, Text.toList_decimal]

theorem ofName?_year (n : Nat) : ofName? (if n = 1 then "year" else "year" ++ "s") = some .year := by
  split <;> decide

theorem ofName?_month (n : Nat) : ofName? (if n = 1 then "month" else "month" ++ "s") = some .month := by
  split <;> decide

theorem ofName?_day (n : Nat) : ofName? (if n = 1 then "day" else "day" ++ "s") = some .day := by
  split <;> decide

theorem units_parts (d : Span) : d.parts.map (fun t => (t.1, ofName? t.2)) =
    [(d.seconds / 31557600, some .year), (d.seconds % 31557600 / 2630016, some .month),
      (d.seconds % 31557600 % 2630016 / 86400, some .day), (d.seconds % 31557600 % 2630016 % 86400 / 3600, some .hour),
      (d.seconds % 31557600 % 2630016 % 86400 % 3600 / 60, some .minute),
      (d.seconds % 31557600 % 2630016 % 86400 % 60, some .second), (d.nanos / 1000000, some .millisecond),
      (d.nanos / 1000 % 1000, some .microsecond), (d.nanos % 1000, some .nanosecond)] := by
  simp only [parts, List.map_cons, List.map_nil, ofName?_year, ofName?_month, ofName?_day]
  rfl

theorem isTerm_parts (d : Span) : ∀ t ∈ d.parts, IsTerm t := by
  intro t ht
  have hmem := List.mem_map_of_mem (f := fun t => (t.1, ofName? t.2)) ht
  have hs : d.seconds < 18446744073709551616 := d.seconds_lt
  have hn : d.nanos < 1000000000 := d.nanos_lt
  rw [units_parts] at hmem
  simp only [List.mem_cons, Prod.mk.injEq, List.not_mem_nil, or_false] at hmem
  simp only [IsTerm, UInt64.size, nanosPerSecond]
  rcases hmem with ⟨h, hu⟩ | ⟨h, hu⟩ | ⟨h, hu⟩ | ⟨h, hu⟩ | ⟨h, hu⟩ | ⟨h, hu⟩ | ⟨h, hu⟩ | ⟨h, hu⟩ | ⟨h, hu⟩ <;>
    exact ⟨_, hu, by omega, by simp only [TimeUnit.nanos]; omega⟩

theorem rowWorth_eq (ts : List (Nat × String)) :
    rowWorth ts = (ts.map fun t => (t.1, ofName? t.2)).foldr (fun p n => p.1 * (p.2.map worth).getD 0 + n) 0 := by
  induction ts with
  | nil => rfl
  | cons t ts ih => rw [rowWorth, ih]; rfl

theorem worth_parts (d : Span) : rowWorth d.parts = d.totalNanos := by
  have hyear : year.worth = 31557600 * 1000000000 := rfl
  have hmonth : month.worth = 2630016 * 1000000000 := rfl
  have hday : day.worth = 86400 * 1000000000 := rfl
  have hhour : hour.worth = 3600 * 1000000000 := rfl
  have hminute : minute.worth = 60 * 1000000000 := rfl
  have hsecond : second.worth = 1000000000 := rfl
  have hmilli : millisecond.worth = 1000000 := rfl
  have hmicro : microsecond.worth = 1000 := rfl
  have hnano : nanosecond.worth = 1 := rfl
  rw [rowWorth_eq, units_parts]
  -- Steps by definition would be compared by multiplying the products out.
  simp -implicitDefEqProofs only [List.foldr_cons, List.foldr_nil, Option.map_some, Option.getD_some, hyear, hmonth,
    hday, hhour, hminute, hsecond, hmilli, hmicro, hnano]
  simp only [totalNanos, nanosPerSecond]
  omega

theorem worth_filter (ts : List (Nat × String)) :
    rowWorth (ts.filter (·.1 ≠ 0)) = rowWorth ts := by
  induction ts with
  | nil => rfl
  | cons t ts ih =>
    rw [List.filter_cons, rowWorth]
    split
    · rw [rowWorth, ih]
    · next h =>
      have h0 : t.1 = 0 := by simpa using h
      rw [ih, termWorth, h0, Nat.zero_mul, Nat.zero_add]

theorem termChars_ne_zero {t : Nat × String} (h : IsTerm t) (cs : List Char) : termChars t ++ cs ≠ ['0'] := by
  obtain ⟨u, hu, -⟩ := h
  have hd : 0 < (Text.decimalDigits t.1).length := List.length_pos_iff.2 (Text.decimalDigits_ne_nil t.1)
  have hn : 0 < t.2.toList.length := List.length_pos_iff.2 (isLetter_of_ofName? hu).1
  intro hc
  have hlen := congrArg List.length hc
  simp only [termChars, List.length_append, List.length_singleton] at hlen
  omega

/-- **A span is read back.** -/
theorem parse_print (d : Span) : parse d.print = .ok d := by
  have hworth := (worth_filter d.parts).trans (worth_parts d)
  have hterm : ∀ t ∈ d.parts.filter (·.1 ≠ 0), IsTerm t := fun t ht => isTerm_parts d t (List.mem_filter.1 ht).1
  unfold print
  generalize d.parts.filter (·.1 ≠ 0) = ts at hworth hterm ⊢
  cases ts with
  | nil =>
    have h0 : d = ofSeconds 0 := totalNanos_inj hworth.symm
    rw [h0]
    rfl
  | cons t ts =>
    have hlist := toList_terms t ts
    have ht := hterm t List.mem_cons_self
    have hne : (String.intercalate " " ((t :: ts).map fun (n, name) => Text.decimal n ++ name)) ≠ "0" := by
      intro h
      rw [h] at hlist
      exact termChars_ne_zero ht _ hlist.symm
    have h0 : (ofSeconds 0).totalNanos = 0 := rfl
    obtain ⟨offset, hfirst⟩ := foldlM_term ht (ofSeconds 0) true 0 0
    obtain ⟨e, he, htotal⟩ := foldlM_terms ts (ofSeconds 0) offset hterm (by
      rw [h0, hworth, Nat.zero_add]
      exact d.totalNanos_lt)
    rw [h0, hworth, Nat.zero_add] at htotal
    obtain rfl : e = d := totalNanos_inj htotal
    show parse (String.intercalate " " _) = _
    rw [parse, if_neg hne, hlist, List.foldlM_append, hfirst]
    exact he

end ClusterMembership.Span
