import ClusterMembership.Proofs.JsonGrammar
import ClusterMembership.Proofs.JsonTexts
/-!
# Values that are skipped

Every text of a value is skipped, and what follows it is left (`skipValue_isValue`).  The reader goes through the text once,
with the open brackets on a stack, while a value is built of values; so what is shown of a value says what is left to do when
it has been passed, whatever brackets are open around it (`passes_isValue`).
-/
namespace ClusterMembership.Json

open Text (Symbol)

variable {gap t : List Char} {rest s u : List Symbol}

/-! ## Symbols -/

theorem map_between (x y : Char) (t : List Char) (rest : List Symbol) :
    (x :: (t ++ [y])).map some ++ rest = some x :: (t.map some ++ some y :: rest) := by simp

theorem map_one (before t after : List Char) (rest : List Symbol) :
    (before ++ (t ++ after)).map some ++ rest = before.map some ++ (t.map some ++ (after.map some ++ rest)) := by simp

theorem map_more (before t after more : List Char) (rest : List Symbol) :
    (before ++ (t ++ (after ++ ',' :: more))).map some ++ rest =
      before.map some ++ (t.map some ++ (after.map some ++ some ',' :: (more.map some ++ rest))) := by simp

/-- A member behind its opening quote. -/
def memberRest (m : List Char × List Char) (gap gap' : List Char) (rest : List Symbol) : List Symbol :=
  m.1.map some ++ some '"' :: (gap.map some ++ some ':' :: (gap'.map some ++ (m.2.map some ++ rest)))

theorem WritesMember.exists_memberRest {m : List Char × List Char} (h : WritesMember m t) :
    ∃ gap gap', IsGapText gap ∧ IsGapText gap' ∧ ∀ rest, t.map some ++ rest = some '"' :: memberRest m gap gap' rest := by
  cases h with
  | @mk gap gap' hg hg' => exact ⟨gap, gap', hg, hg', fun rest => by simp [memberRest]⟩

/-! ## Blanks -/

theorem skipGap_isGapText (h : IsGapText gap) (s : List Symbol) : skipGap (gap.map some ++ s) = skipGap s := by
  refine List.dropWhile_append_of_pos fun x hx => ?_
  obtain ⟨c, hc, rfl⟩ := List.mem_map.1 hx
  exact h c hc

theorem skipGap_idem (s : List Symbol) : skipGap (skipGap s) = skipGap s := by
  induction s with
  | nil => rfl
  | cons x s ih =>
    cases hx : isGap x with
    | true =>
      have hskip : skipGap (x :: s) = skipGap s := List.dropWhile_cons_of_pos hx
      rw [hskip]
      exact ih
    | false => rw [skipGap_of_not_isGap hx, skipGap_of_not_isGap hx]

theorem skipGap_gap_cons {x : Symbol} (h : IsGapText gap) (hx : isGap x = false) (s : List Symbol) :
    skipGap (gap.map some ++ x :: s) = x :: s := by
  rw [skipGap_isGapText h, skipGap_of_not_isGap hx]

theorem ends_gap (h : IsGapText gap) (hs : Ends s) : Ends (gap.map some ++ s) := by
  cases gap with
  | nil => exact hs
  | cons c gap =>
    intro x hx
    obtain rfl := Option.some.inj hx
    have hc := h c List.mem_cons_self
    simp only [Text.isJsonBlank, Bool.or_eq_true, decide_eq_true_eq] at hc
    rcases hc with ((rfl | rfl) | rfl) | rfl <;> decide

/-! ## Strings -/

theorem hexEscape_isHexUnit {ds : List Char} (h : IsHexUnit ds) (s : List Symbol) :
    hexEscape (ds.map some ++ s) = .ok (Text.hexNumber ds, s) := by
  obtain ⟨hlength, hdigits⟩ := h
  match ds, hlength with
  | [a, b, c, d], _ =>
    obtain ⟨a', ha⟩ := Option.isSome_iff_exists.1 (hdigits a (by simp))
    obtain ⟨b', hb⟩ := Option.isSome_iff_exists.1 (hdigits b (by simp))
    obtain ⟨c', hc⟩ := Option.isSome_iff_exists.1 (hdigits c (by simp))
    obtain ⟨d', hd⟩ := Option.isSome_iff_exists.1 (hdigits d (by simp))
    show hexEscape (some a :: some b :: some c :: some d :: s) = _
    rw [hexEscape, ha, hb, hc, hd]
    simp [Text.hexNumber, ha, hb, hc, hd]

theorem shortEscape?_of_mem {letter c : Char} (h : (letter, c) ∈ shortEscapes) : shortEscape? letter = some c := by
  simp only [shortEscapes, List.mem_cons, Prod.mk.injEq, List.not_mem_nil, or_false] at h
  rcases h with ⟨rfl, rfl⟩ | ⟨rfl, rfl⟩ | ⟨rfl, rfl⟩ | ⟨rfl, rfl⟩ | ⟨rfl, rfl⟩ | ⟨rfl, rfl⟩ | ⟨rfl, rfl⟩ | ⟨rfl, rfl⟩ <;> rfl

theorem ne_u_of_mem {letter c : Char} (h : (letter, c) ∈ shortEscapes) : letter ≠ 'u' := by
  rintro rfl
  have := shortEscape?_of_mem h
  cases this

theorem skipString_escape (h : skipEscape s = .ok u) : skipString (some '\\' :: s) = skipString u := by
  rw [skipString]
  split
  · next h' => rw [h] at h'; cases h'
  · next h' => rw [h] at h'; cases h'; rfl

theorem skipString_plain {c : Char} (h : IsPlain c) (s : List Symbol) : skipString (some c :: s) = skipString s := by
  rw [skipString.eq_4 _ _ h.2.1 h.2.2, if_neg (Char.not_lt.2 h.1)]

theorem skipEscape_short {letter c : Char} (h : (letter, c) ∈ shortEscapes) (s : List Symbol) :
    skipEscape (some letter :: s) = .ok s := by
  rw [skipEscape.eq_3 _ _ (ne_u_of_mem h), shortEscape?_of_mem h]
  rfl

/-- **A string that is skipped** is skipped to its end. -/
theorem skipString_isStringText (h : IsStringText t) (rest : List Symbol) :
    skipString (t.map some ++ some '"' :: rest) = .ok rest := by
  induction h with
  | nil => rw [List.map_nil, List.nil_append, skipString]
  | plain hc _ ih => rw [List.map_cons, List.cons_append, skipString_plain hc, ih]
  | short hc _ ih => exact (skipString_escape (skipEscape_short hc _)).trans ih
  | @unit ds ts hds _ ih =>
    have hescape : skipEscape (some 'u' :: (ds.map some ++ (ts.map some ++ some '"' :: rest))) =
        .ok (ts.map some ++ some '"' :: rest) := by
      rw [skipEscape, hexEscape_isHexUnit hds]
      rfl
    rw [← ih, ← skipString_escape hescape]
    simp

/-! ## Numbers -/

theorem skipDigitsSome_isDigits {ds : List Char} (h : IsDigits ds) (hs : ∀ x, s.head? = some x → isDigit x = false) :
    skipDigitsSome (ds.map some ++ s) = .ok s := by
  obtain ⟨htake, hskip⟩ := takeWhile_isDigit h.2 hs
  have hne : ds.map some ≠ [] := by simpa using h.1
  rw [skipDigitsSome, htake, hskip, if_neg hne]

theorem IsDigits.eq_cons {ds : List Char} (h : IsDigits ds) : ∃ d ds', ds = d :: ds' ∧ d.isDigit = true := by
  obtain ⟨d, ds', rfl⟩ := List.exists_cons_of_ne_nil h.1
  exact ⟨d, ds', rfl, h.2 d List.mem_cons_self⟩

theorem skipExponent_isDigits {sign ds : List Char} (hsign : sign ∈ [[], ['+'], ['-']]) (h : IsDigits ds) (hr : Ends rest) :
    skipExponent ((sign ++ ds).map some ++ rest) = .ok rest := by
  have hdigits := skipDigitsSome_isDigits h fun x hx => (hr x hx).1
  simp only [List.mem_cons, List.not_mem_nil, or_false] at hsign
  rcases hsign with rfl | rfl | rfl
  · obtain ⟨d, ds', rfl, hd⟩ := h.eq_cons
    rw [List.nil_append, skipExponent.eq_3, hdigits]
    · rintro s ⟨⟩; cases hd
    · rintro s ⟨⟩; cases hd
  · exact hdigits
  · exact hdigits

/-- What may follow the digits of a number begins with no digit. -/
theorem head?_isExponent {x : Symbol} (h : IsExponent t) (hr : Ends rest) (hx : (t.map some ++ rest).head? = some x) :
    isDigit x = false ∧ x ≠ some '.' := by
  rcases h with rfl | ⟨letter, sign, ds, hletter, -, -, rfl⟩
  · exact ⟨(hr x hx).1, (hr x hx).2.1⟩
  · obtain rfl := Option.some.inj hx
    simp only [List.mem_cons, List.not_mem_nil, or_false] at hletter
    rcases hletter with rfl | rfl <;> decide

theorem skipFraction_isExponent (h : IsExponent t) (hr : Ends rest) : skipFraction (t.map some ++ rest) = .ok rest := by
  rcases h with rfl | ⟨letter, sign, ds, hletter, hsign, hds, rfl⟩
  · rw [List.map_nil, List.nil_append, skipFraction.eq_4]
    · rintro s rfl; exact (hr _ rfl).2.1 rfl
    · rintro s rfl; exact (hr _ rfl).2.2.1 rfl
    · rintro s rfl; exact (hr _ rfl).2.2.2 rfl
  · have hskip := skipExponent_isDigits hsign hds hr
    simp only [List.mem_cons, List.not_mem_nil, or_false] at hletter
    rcases hletter with rfl | rfl <;> exact hskip

theorem skipFraction_isFraction {fraction exponent : List Char} (h : IsFraction fraction) (h' : IsExponent exponent)
    (hr : Ends rest) : skipFraction ((fraction ++ exponent).map some ++ rest) = .ok rest := by
  rcases h with rfl | ⟨ds, hds, rfl⟩
  · exact skipFraction_isExponent h' hr
  · have hdigits := skipDigitsSome_isDigits hds (s := exponent.map some ++ rest)
      fun x hx => (head?_isExponent h' hr hx).1
    rw [List.cons_append, List.map_cons, List.cons_append, List.map_append, List.append_assoc, skipFraction, hdigits]
    rcases h' with rfl | ⟨letter, sign, es, hletter, hsign, hes, rfl⟩
    · simp only [List.map_nil, List.nil_append, bind, Except.bind]
      split
      · exact absurd rfl (hr _ rfl).2.2.1
      · exact absurd rfl (hr _ rfl).2.2.2
      · rfl
    · have hskip := skipExponent_isDigits hsign hes hr
      simp only [List.mem_cons, List.not_mem_nil, or_false] at hletter
      rcases hletter with rfl | rfl <;> exact hskip

/-- **A number that is skipped** is skipped to its end, its sign having been read. -/
theorem skipNumber_isInteger {integer fraction exponent : List Char} (h : IsInteger integer) (hf : IsFraction fraction)
    (he : IsExponent exponent) (hr : Ends rest) :
    skipNumber ((integer ++ (fraction ++ exponent)).map some ++ rest) = .ok rest := by
  obtain ⟨hdigits, hzero⟩ := h
  have hmore : ∀ x, ((fraction ++ exponent).map some ++ rest).head? = some x → isDigit x = false := by
    intro x hx
    rcases hf with rfl | ⟨ds, -, rfl⟩
    · exact (head?_isExponent he hr hx).1
    · obtain rfl := Option.some.inj hx
      rfl
  obtain ⟨htake, hskip⟩ := takeWhile_isDigit hdigits.2 hmore
  rw [List.map_append, List.append_assoc, skipNumber, htake, hskip]
  obtain ⟨d, ds, rfl, -⟩ := hdigits.eq_cons
  -- A leading zero stands alone.
  have hlead : ¬(some d = some '0' ∧ ds.map some ≠ []) := by
    rintro ⟨h0, hne⟩
    cases hzero h0
    exact hne rfl
  rw [List.map_cons]
  simp only [if_neg hlead]
  exact skipFraction_isFraction hf he hr

theorem openValue_isDigit {c : Char} (h : c.isDigit = true) (s : List Symbol) :
    openValue (some c) s = (skipNumber (some c :: s)).map .scalar := by
  have hdigit : isDigit (some c) = true := h
  rw [openValue.eq_8, if_pos hdigit]
  all_goals rintro ⟨⟩; cases h

theorem openValue_isNumber (h : IsNumber t) :
    ∃ c cs, t = c :: cs ∧ isGap (some c) = false ∧ c ≠ ']' ∧
      ∀ rest, Ends rest → openValue (some c) (cs.map some ++ rest) = .ok (.scalar rest) := by
  obtain ⟨sign, integer, fraction, exponent, hsign, hi, hf, he, rfl⟩ := h
  simp only [List.mem_cons, List.not_mem_nil, or_false] at hsign
  rcases hsign with rfl | rfl
  · obtain ⟨d, ds, rfl, hd⟩ := hi.1.eq_cons
    refine ⟨d, ds ++ (fraction ++ exponent), rfl, isGap_of_isDigit hd, fun he => (by rw [he] at hd; cases hd),
      fun rest hr => ?_⟩
    have hskip := skipNumber_isInteger hi hf he hr
    rw [List.cons_append, List.map_cons, List.cons_append] at hskip
    rw [openValue_isDigit hd, hskip]
    rfl
  · refine ⟨'-', integer ++ (fraction ++ exponent), rfl, rfl, by decide, fun rest hr => ?_⟩
    rw [openValue, skipNumber_isInteger hi hf he hr]
    rfl

/-! ## Values -/

/-- What is left to do when a value has been passed: nothing, or to go on inside the innermost bracket. -/
def goOn (outer : List Bracket) (rest : List Symbol) : Except Flaw (List Symbol) :=
  match outer with
  | [] => .ok rest
  | outer => skim outer .separator rest

section

variable {outer : List Bracket} {awaited : Awaited} {b : Bracket} {x : Symbol}

/-- A value may come next, and the text does not end the list. -/
def Awaited.AtValue (awaited : Awaited) (x : Symbol) : Prop := awaited = .value ∨ awaited = .item ∧ x ≠ some ']'

theorem skim_value (hs : skipGap s = x :: u) (ha : awaited.AtValue x) :
    skim outer awaited s = match openValue x u with
      | .error e => .error e
      | .ok (.bracket b v) => skim (b :: outer) b.inside v
      | .ok (.scalar v) => goOn outer v := by
  rw [skim]
  split
  · next h => rw [hs] at h; cases h
  · next h =>
    cases hs.symm.trans h
    rcases ha with rfl | ⟨rfl, hx⟩
    · simp only [reduceCtorEq, false_and, if_false]
      split
      · next ho => rw [ho]
      · next ho => rw [ho]
      · next ho => rw [ho]; rfl
    · simp only [hx, and_false, if_false]
      split
      · next ho => rw [ho]
      · next ho => rw [ho]
      · next ho => rw [ho]; rfl

theorem skim_item_end (hs : skipGap s = some ']' :: u) : skim (b :: outer) .item s = goOn outer u := by
  rw [skim]
  split
  · next h => rw [hs] at h; cases h
  · next h =>
    cases hs.symm.trans h
    rfl

theorem skim_member_end (hs : skipGap s = some '}' :: u) : skim (b :: outer) .member s = goOn outer u := by
  rw [skim]
  split
  · next h => rw [hs] at h; cases h
  · next h =>
    cases hs.symm.trans h
    rfl

theorem skim_name (hs : skipGap s = some '"' :: u) (ha : awaited = .member ∨ awaited = .name) {v : List Symbol}
    (hu : skipString u = .ok v) : skim outer awaited s = skim outer .colon v := by
  rw [skim]
  split
  · next h => rw [hs] at h; cases h
  · next h =>
    cases hs.symm.trans h
    rcases ha with rfl | rfl
    all_goals
      simp only [if_true]
      split
      · next h' => rw [hu] at h'; cases h'
      · next h' => cases hu.symm.trans h'; rfl

theorem skim_colon (hs : skipGap s = some ':' :: u) : skim outer .colon s = skim outer .value u := by
  rw [skim]
  split
  · next h => rw [hs] at h; cases h
  · next h =>
    cases hs.symm.trans h
    rfl

theorem skim_comma (hs : skipGap s = some ',' :: u) : skim (b :: outer) .separator s = skim (b :: outer) b.afterComma u := by
  rw [skim]
  split
  · next h => rw [hs] at h; cases h
  · next h =>
    cases hs.symm.trans h
    rfl

theorem skim_closing (hs : skipGap s = some b.closing :: u) : skim (b :: outer) .separator s = goOn outer u := by
  have hcomma : some b.closing ≠ some ',' := by cases b <;> decide
  rw [skim]
  split
  · next h => rw [hs] at h; cases h
  · next h =>
    cases hs.symm.trans h
    simp only [if_neg hcomma, if_true]
    rfl

end

/-- The text begins with a token, and not like the end of a list. -/
def Begins (t : List Char) : Prop := ∃ c cs, t = c :: cs ∧ isGap (some c) = false ∧ c ≠ ']'

theorem skipGap_begins (h : IsGapText gap) (ht : Begins t) (s : List Symbol) :
    skipGap (gap.map some ++ (t.map some ++ s)) = t.map some ++ s := by
  obtain ⟨c, cs, rfl, hc, -⟩ := ht
  exact skipGap_gap_cons h hc _

theorem WritesMember.begins {m : List Char × List Char} (h : WritesMember m t) : Begins t := by
  cases h
  exact ⟨'"', _, rfl, rfl, by decide⟩

theorem Bracketed.eq_cons {α : Type} {opening closing : Char} {W : α → List Char → Prop} {as : List α}
    (h : Bracketed opening closing W as t) : ∃ cs, t = opening :: cs := by
  cases h <;> exact ⟨_, rfl⟩

theorem WritesChoice.begins {name : String} (h : WritesChoice name t) : Begins t := by
  cases h with
  | string h => exact ⟨_, _, rfl, rfl, by decide⟩
  | object h ht =>
    obtain ⟨cs, rfl⟩ := ht.eq_cons
    exact ⟨_, _, rfl, rfl, by decide⟩

theorem IsValue.begins (h : IsValue t) : Begins t := by
  cases h with
  | null => exact ⟨_, _, rfl, rfl, by decide⟩
  | true => exact ⟨_, _, rfl, rfl, by decide⟩
  | false => exact ⟨_, _, rfl, rfl, by decide⟩
  | number h =>
    obtain ⟨c, cs, rfl, hc, hend, -⟩ := openValue_isNumber h
    exact ⟨c, cs, rfl, hc, hend⟩
  | string h => exact ⟨_, _, rfl, rfl, by decide⟩
  | list h _ =>
    obtain ⟨cs, rfl⟩ := h.eq_cons
    exact ⟨_, _, rfl, rfl, by decide⟩
  | object h _ _ =>
    obtain ⟨cs, rfl⟩ := h.eq_cons
    exact ⟨_, _, rfl, rfl, by decide⟩

/-- Where a value may come, the text is passed, whatever brackets are open and whatever follows. -/
def Passes (t : List Char) : Prop :=
  ∀ outer awaited s rest, skipGap s = t.map some ++ rest → awaited = .value ∨ awaited = .item → Ends rest →
    skim outer awaited s = goOn outer rest

/-- Inside a bracket the text is passed, the first of its row or behind a comma. -/
def PassesIn (b : Bracket) (t : List Char) : Prop :=
  ∀ outer awaited s rest, skipGap s = t.map some ++ rest → awaited = b.inside ∨ awaited = b.afterComma → Ends rest →
    skim (b :: outer) awaited s = skim (b :: outer) .separator rest

theorem Awaited.atValue {awaited : Awaited} {c : Char} (h : awaited = .value ∨ awaited = .item) (hc : c ≠ ']') :
    awaited.AtValue (some c) := h.imp_right fun h => ⟨h, fun he => hc (Option.some.inj he)⟩

theorem passes_scalar {c : Char} {cs : List Char} (hc : c ≠ ']')
    (ho : ∀ rest, Ends rest → openValue (some c) (cs.map some ++ rest) = .ok (.scalar rest)) : Passes (c :: cs) := by
  intro outer awaited s rest hs ha hr
  rw [List.map_cons, List.cons_append] at hs
  rw [skim_value hs (Awaited.atValue ha hc), ho rest hr]

theorem passesIn_list (h : Passes t) : PassesIn .list t := fun outer awaited s rest hs ha hr =>
  h (.list :: outer) awaited s rest hs ha.symm hr

theorem passesIn_object {m : List Char × List Char} (hname : IsStringText m.1) (hv : Begins m.2) (h : Passes m.2)
    (ht : WritesMember m t) : PassesIn .object t := by
  intro outer awaited s rest hs ha hr
  obtain ⟨gap, gap', hg, hg', htext⟩ := ht.exists_memberRest
  rw [htext] at hs
  rw [skim_name hs ha (skipString_isStringText hname _), skim_colon (skipGap_gap_cons hg rfl _)]
  exact h (.object :: outer) .value _ rest (skipGap_begins hg' hv rest) (.inl rfl) hr

theorem Bracket.ends_closing (b : Bracket) (rest : List Symbol) : Ends (some b.closing :: rest) := by
  cases b
  · exact ends_bracket rest
  · exact ends_brace rest

theorem Bracket.isGap_closing (b : Bracket) : isGap (some b.closing) = false := by cases b <;> rfl

/-- **A row inside a bracket is passed with its end**, if each of its texts is. -/
theorem skim_joined {α : Type} {W : α → List Char → Prop} {as : List α} {b : Bracket} (h : Joined W as t)
    (hW : ∀ a ∈ as, ∀ t, W a t → Begins t ∧ PassesIn b t) (outer : List Bracket) (rest : List Symbol)
    {awaited : Awaited} (ha : awaited = b.inside ∨ awaited = b.afterComma) :
    skim (b :: outer) awaited (t.map some ++ some b.closing :: rest) = goOn outer rest := by
  -- Behind each text stands the end of the bracket, or a comma and the rest of the row; `awaited` says which text comes first.
  induction h generalizing awaited with
  | @one a before t after hb h hafter =>
    obtain ⟨hbegins, hpasses⟩ := hW a List.mem_cons_self t h
    have hs := skipGap_begins hb hbegins (after.map some ++ some b.closing :: rest)
    rw [map_one, hpasses outer awaited _ _ hs ha (ends_gap hafter (b.ends_closing rest)),
      skim_closing (skipGap_gap_cons hafter b.isGap_closing rest)]
  | @more a as before t after more hb h hafter hmore ih =>
    obtain ⟨hbegins, hpasses⟩ := hW a List.mem_cons_self t h
    have hs := skipGap_begins hb hbegins (after.map some ++ some ',' :: (more.map some ++ some b.closing :: rest))
    rw [map_more, hpasses outer awaited _ _ hs ha (ends_gap hafter (ends_comma _)), skim_comma (skipGap_gap_cons hafter rfl _)]
    exact ih (fun a' h' => hW a' (List.mem_cons_of_mem a h')) (.inr rfl)

/-- **What stands between brackets is passed with them.** -/
theorem passes_bracketed {α : Type} {W : α → List Char → Prop} {as : List α} {b : Bracket} {opening : Char}
    (hopen : ∀ s, openValue (some opening) s = .ok (.bracket b s)) (hopening : opening ≠ ']')
    (hend : ∀ {outer s u}, skipGap s = some b.closing :: u → skim (b :: outer) b.inside s = goOn outer u)
    (h : Bracketed opening b.closing W as t) (hW : ∀ a ∈ as, ∀ t, W a t → Begins t ∧ PassesIn b t) : Passes t := by
  intro outer awaited s rest hs ha hr
  cases h with
  | @none gap hg =>
    rw [map_between] at hs
    rw [skim_value hs (Awaited.atValue ha hopening), hopen]
    exact hend (skipGap_gap_cons hg b.isGap_closing rest)
  | @some as t hj =>
    rw [map_between] at hs
    rw [skim_value hs (Awaited.atValue ha hopening), hopen]
    exact skim_joined hj hW outer rest (.inl rfl)

/-- **A value is passed**, whatever brackets are open around it. -/
theorem passes_isValue (h : IsValue t) : Passes t := by
  -- What stands in brackets is passed with one bracket more on the stack, so the stack must be arbitrary throughout.
  induction h with
  | null => exact passes_scalar (by decide) fun rest _ => by rw [openValue, literal_append]; rfl
  | true => exact passes_scalar (by decide) fun rest _ => by rw [openValue, literal_append]; rfl
  | false => exact passes_scalar (by decide) fun rest _ => by rw [openValue, literal_append]; rfl
  | number h =>
    obtain ⟨c, cs, rfl, -, hc, ho⟩ := openValue_isNumber h
    exact passes_scalar hc ho
  | @string t h =>
    refine passes_scalar (by decide) fun rest _ => ?_
    rw [List.map_append, List.append_assoc]
    exact congrArg (Except.map Opened.scalar) (skipString_isStringText h rest)
  | list h hs ih =>
    refine passes_bracketed (b := .list) (fun s => rfl) (by decide) skim_item_end h fun item hitem t ht => ?_
    subst ht
    exact ⟨(hs item hitem).begins, passesIn_list (ih item hitem)⟩
  | object h hnames hs ih =>
    refine passes_bracketed (b := .object) (fun s => rfl) (by decide) skim_member_end h fun m hm t ht => ?_
    exact ⟨ht.begins, passesIn_object (hnames m hm) (hs m hm).begins (ih m hm) ht⟩

/-- **A value is skipped**, and what follows it is left. -/
theorem skipValue_isValue (h : IsValue t) (hg : IsGapText gap) (hr : Ends rest) :
    skipValue ((gap ++ t).map some ++ rest) = .ok rest := by
  rw [List.map_append, List.append_assoc]
  exact passes_isValue h [] .value _ rest (skipGap_begins hg h.begins rest) (.inl rfl) hr

end ClusterMembership.Json
