import ClusterMembership.Proofs.JsonSkips
/-!
# Texts that readers take

A reader takes a text for a value where it returns the value and leaves what follows, whatever blanks stand before it
(`Takes`).  Strings are taken in any spelling, choices in both their forms, and lists with blanks around their items.  A
record is taken from an object, whose members stand in any order and of which the unknown ones are skipped
(`takes_object`), or from a list of its first fields (`takes_elements`).
-/
namespace ClusterMembership.Json

open Text (Symbol)

variable {α β σ : Type} {gap t : List Char} {rest s u : List Symbol}

/-- The reader takes the text, with blanks before it, for the value and leaves what follows. -/
def Takes (read : Reader α) (t : List Char) (a : α) : Prop :=
  ∀ gap rest, IsGapText gap → Ends rest → read (gap.map some ++ (t.map some ++ rest)) = .ok (a, rest)

/-- The reader does not mind blanks before the value. -/
def SkipsGap (read : Reader α) : Prop := ∀ s, read (skipGap s) = read s

theorem SkipsGap.takes {read : Reader α} {a : α} (h : SkipsGap read)
    (hr : ∀ rest, Ends rest → read (t.map some ++ rest) = .ok (a, rest)) : Takes read t a := by
  intro gap rest hg hrest
  rw [← h, skipGap_isGapText hg, h]
  exact hr rest hrest

theorem skipsGap_atToken (read : Symbol → Reader α) : SkipsGap (atToken read) := by
  intro s
  rw [atToken, atToken, skipGap_idem]

theorem SkipsGap.map {read : Reader α} (h : SkipsGap read) (f : α → β) : SkipsGap (read.map f) := by
  intro s
  rw [Reader.map, Reader.map, h s]

theorem SkipsGap.readOption {read : Reader α} (h : SkipsGap read) : SkipsGap (readOption read) := by
  intro s
  rw [Json.readOption, Json.readOption, skipGap_idem, h s]

theorem Takes.map {read : Reader α} {a : α} (h : Takes read t a) (f : α → β) : Takes (read.map f) t (f a) := by
  intro gap rest hg hrest
  rw [Reader.map, h gap rest hg hrest]
  rfl

theorem Takes.andThen {read : Reader α} {a : α} {b : β} (h : Takes read t a) {finish : α → Except Flaw β}
    (hf : finish a = .ok b) : Takes (read.andThen finish) t b := by
  intro gap rest hg hrest
  rw [Reader.andThen, h gap rest hg hrest]
  show (finish a >>= fun b => pure (b, rest)) = _
  rw [hf]
  rfl

theorem Takes.field {name : String} {get : σ → Option α} {set : σ → α → σ} {read : Reader α} {a : α}
    (h : Takes read t a) (record : σ) : Takes ((Field.ofReader name get set read).read record) t (set record a) := by
  intro gap rest hg hrest
  show (read _).map _ = _
  rw [h gap rest hg hrest]
  rfl

theorem Takes.readWhole {read : Reader α} {a : α} (h : Takes read t a) {text : String} (ht : IsWhole t text) :
    readWhole read (Text.symbolsOf text) = .ok a := by
  obtain ⟨before, after, hb, ha, htext⟩ := ht
  have hends : Ends (after.map some ++ []) := ends_gap ha nofun
  have hend : skipGap (after.map some ++ []) = [] := skipGap_isGapText ha []
  have hread := h before (after.map some ++ []) hb hends
  rw [List.append_nil] at hend hread
  rw [Json.readWhole, Text.symbolsOf, htext, List.map_append, List.map_append, hread]
  show (if skipGap (after.map some) = [] then Except.ok a else Except.error Flaw.malformed) = _
  rw [if_pos hend]

/-! ## Strings and choices -/

theorem escape_short {letter c : Char} (h : (letter, c) ∈ shortEscapes) (s : List Symbol) :
    escape (some letter :: s) = .ok (c, s) := by
  rw [escape.eq_3 _ _ (ne_u_of_mem h), shortEscape?_of_mem h]

/-- **A character of a string is taken however it is spelled.** -/
theorem stringTail_spells {c : Char} (h : Spells c t) (s : List Symbol) :
    stringTail (t.map some ++ s) = (stringTail s).map fun (cs, r) => (c :: cs, r) := by
  cases h with
  | plain h =>
    show stringTail (some c :: s) = _
    rw [stringTail.eq_5 _ _ h.2.1 h.2.2, if_neg (Char.not_lt.2 h.1)]
  | short h => exact stringTail_escape (escape_short h s)
  | @unit ds h hlow hhigh =>
    refine stringTail_escape (s := some 'u' :: (ds.map some ++ s)) ?_
    rw [escape, unicodeEscape, hexEscape_isHexUnit h]
    show (if isLowSurrogate _ then _ else if isHighSurrogate _ then _ else Except.ok (Char.ofNat _, s)) = _
    rw [hlow, hhigh]
    rfl
  | @pair ds es h h' hhigh hlow =>
    -- The ranges of surrogates are apart, so the first of the pair is not refused.
    have hnotLow : isLowSurrogate (Text.hexNumber ds) = false := by
      simp only [isHighSurrogate, isLowSurrogate, Bool.and_eq_true, decide_eq_true_eq, Bool.and_eq_false_iff,
        decide_eq_false_iff_not] at hhigh ⊢
      omega
    have htext : ('\\' :: 'u' :: ds ++ '\\' :: 'u' :: es).map some ++ s =
        some '\\' :: some 'u' :: (ds.map some ++ some '\\' :: some 'u' :: (es.map some ++ s)) := by
      simp
    rw [htext]
    refine stringTail_escape (s := some 'u' :: (ds.map some ++ some '\\' :: some 'u' :: (es.map some ++ s))) ?_
    rw [escape, unicodeEscape, hexEscape_isHexUnit h]
    simp only [bind, Except.bind, hnotLow, hhigh, hexEscape_isHexUnit h', hlow, Bool.false_eq_true, if_false, if_true]

theorem stringTail_spelled {cs : List Char} (h : Spelled cs t) (rest : List Symbol) :
    stringTail (t.map some ++ some '"' :: rest) = .ok (cs, rest) := by
  induction h with
  | nil => exact stringTail_quote rest
  | cons h _ ih =>
    rw [List.map_append, List.append_assoc, stringTail_spells h, ih]
    rfl

theorem skipsGap_readString : SkipsGap readString := skipsGap_atToken _

theorem takes_string {name : String} (h : Spelled name.toList t) : Takes readString ('"' :: (t ++ ['"'])) name := by
  refine skipsGap_readString.takes fun rest _ => ?_
  rw [map_between, readString, atToken_of_not_isGap rfl, if_pos rfl, stringTail_spelled h]
  show Except.ok (String.ofList name.toList, rest) = _
  rw [String.ofList_toList]

theorem takes_bool (b : Bool) : Takes readBool (Value.bool b).chars b := (skipsGap_atToken _).takes (reads_bool b)

theorem takes_null : Takes readNull ['n', 'u', 'l', 'l'] () := by
  refine (skipsGap_atToken _).takes fun rest _ => ?_
  show readNull (some 'n' :: (['u', 'l', 'l'].map some ++ rest)) = _
  rw [readNull, atToken_of_not_isGap rfl, if_pos rfl, literal_append]
  rfl

theorem expectChar_gap (c : Char) (hg : IsGapText gap) (hc : isGap (some c) = false) (s : List Symbol) :
    expectChar c (gap.map some ++ some c :: s) = .ok s := by
  rw [expectChar, skipGap_gap_cons hg hc]
  exact if_pos rfl

/-- **A choice is taken in both its forms.** -/
theorem takes_choice {choices : List (String × α)} {name : String} {a : α}
    (hfind : choices.find? (·.1 = name) = some (name, a)) (h : WritesChoice name t) : Takes (readChoice choices) t a := by
  have hc : choose choices name = .ok a := by rw [choose, hfind]
  refine (skipsGap_atToken _).takes fun rest _ => ?_
  cases h with
  | @string t h =>
    rw [map_between, atToken_of_not_isGap rfl, if_pos rfl, stringTail_spelled h]
    show (choose choices (String.ofList name.toList) >>= fun a => pure (a, rest)) = _
    rw [String.ofList_toList, hc]
    rfl
  | @object spelling t h ht =>
    cases ht with
    | some hj =>
      cases hj with
      | @one _ before m after hb hm ha =>
        obtain ⟨gap, gap', hg, hg', htext⟩ := hm.exists_memberRest
        have hnull := takes_null gap' (after.map some ++ some '\x7d' :: rest) hg' (ends_gap ha (ends_brace rest))
        rw [map_between, map_one, htext, memberRest, atToken_of_not_isGap rfl, if_neg (by decide), if_pos rfl]
        simp only [bind, Except.bind, expectChar_gap '"' hb rfl, stringTail_spelled h, String.ofList_toList, hc,
          expectChar_gap ':' hg rfl, hnull, expectChar_gap '\x7d' ha rfl]
        rfl
      | more hb hm ha hs => cases hs

theorem takes_none (read : Reader α) : Takes (readOption read) ['n', 'u', 'l', 'l'] none := by
  intro gap rest hg hrest
  have hskip : skipGap (gap.map some ++ (['n', 'u', 'l', 'l'].map some ++ rest)) =
      skipGap (['n', 'u', 'l', 'l'].map some ++ rest) := skipGap_isGapText hg _
  have hread := reads_none read rest hrest
  rw [readOption, hskip]
  exact hread

/-! ## Lists -/

theorem nextItem_begins (hg : IsGapText gap) (ht : Begins t) (s : List Symbol) :
    nextItem true (gap.map some ++ (t.map some ++ s)) = .ok (true, t.map some ++ s) := by
  have hskip := skipGap_begins hg ht s
  obtain ⟨c, cs, rfl, -, hend⟩ := ht
  rw [nextItem, hskip, List.map_cons, List.cons_append]
  simp only [Option.some.injEq, hend, if_false, if_true]

theorem nextItem_end (isFirst : Bool) (hg : IsGapText gap) (s : List Symbol) :
    nextItem isFirst (gap.map some ++ some ']' :: s) = .ok (false, s) := by
  rw [nextItem, skipGap_gap_cons hg rfl]
  exact if_pos rfl

/-- What may come first in a list may come behind a comma. -/
theorem nextItem_gap_comma (hg : IsGapText gap) (h : nextItem true s = .ok (true, u)) :
    nextItem false (gap.map some ++ some ',' :: s) = .ok (true, u) := by
  rw [nextItem] at h
  rw [nextItem, skipGap_gap_cons hg rfl]
  cases hs : skipGap s with
  | nil => rw [hs] at h; cases h
  | cons x r =>
    rw [hs] at h
    by_cases hx : x = some ']'
    · rw [hx] at h; cases h
    · simpa [hs, hx] using h

theorem nextItem_joined {W : α → List Char → Prop} {as : List α} (h : Joined W as t)
    (hW : ∀ a ∈ as, ∀ t, W a t → Begins t) (s : List Symbol) : ∃ u, nextItem true (t.map some ++ s) = .ok (true, u) := by
  cases h with
  | one hb h ha =>
    rw [map_one]
    exact ⟨_, nextItem_begins hb (hW _ List.mem_cons_self _ h) _⟩
  | more hb h ha hs =>
    rw [map_more]
    exact ⟨_, nextItem_begins hb (hW _ List.mem_cons_self _ h) _⟩

/-- **The items of a list are taken to its end**, the first of them or those behind a comma. -/
theorem readItems_joined {read : Reader α} {W : α → List Char → Prop} {as : List α} (h : Joined W as t)
    (hW : ∀ a ∈ as, ∀ t, W a t → Begins t ∧ Takes read t a) {isFirst : Bool} {room : Nat}
    (hs : nextItem isFirst s = nextItem true (t.map some ++ some ']' :: rest)) (hroom : as.length < room) :
    readItems read isFirst room s = .ok (as, rest) := by
  -- On the row.  Behind an item the reader stands at the comma, so what is known of `s` is only what the next item is.
  obtain ⟨room, rfl⟩ : ∃ r, room = r + 1 := ⟨room - 1, by omega⟩
  induction h generalizing isFirst s room with
  | @one a before t after hb h ha =>
    obtain ⟨hbegins, htakes⟩ := hW a List.mem_cons_self t h
    obtain ⟨room, rfl⟩ : ∃ r, room = r + 1 := ⟨room - 1, by rw [List.length_singleton] at hroom; omega⟩
    rw [map_one, nextItem_begins hb hbegins] at hs
    rw [readItems_succ hs (htakes [] _ .nil (ends_gap ha (ends_bracket rest))), readItems, nextItem_end false ha]
    rfl
  | @more a as before t after more hb h ha hmore ih =>
    obtain ⟨hbegins, htakes⟩ := hW a List.mem_cons_self t h
    have hW' : ∀ a' ∈ as, ∀ t, W a' t → Begins t ∧ Takes read t a' := fun a' h' => hW a' (List.mem_cons_of_mem a h')
    obtain ⟨room, rfl⟩ : ∃ r, room = r + 1 := ⟨room - 1, by rw [List.length_cons] at hroom; omega⟩
    obtain ⟨u, hu⟩ := nextItem_joined hmore (fun a' h' t ht => (hW' a' h' t ht).1) (some ']' :: rest)
    rw [map_more, nextItem_begins hb hbegins] at hs
    rw [readItems_succ hs (htakes [] _ .nil (ends_gap ha (ends_comma _))),
      ih hW' ((nextItem_gap_comma ha hu).trans hu.symm) room (by rw [List.length_cons] at hroom; omega)]
    rfl

theorem Joined.length_le {W : α → List Char → Prop} {as : List α} (h : Joined W as t)
    (hW : ∀ a ∈ as, ∀ t, W a t → Begins t) : as.length ≤ t.length := by
  induction h with
  | one hb h ha =>
    obtain ⟨c, cs, rfl, -⟩ := hW _ List.mem_cons_self _ h
    simp only [List.length_append, List.length_cons, List.length_nil]
    omega
  | more hb h ha hs ih =>
    have hle := ih fun a' h' => hW a' (List.mem_cons_of_mem _ h')
    simp only [List.length_append, List.length_cons]
    omega

/-- **A list is taken** if its items are. -/
theorem takes_list {read : Reader α} {W : α → List Char → Prop} {as : List α} (h : Bracketed '[' ']' W as t)
    (hW : ∀ a ∈ as, ∀ t, W a t → Begins t ∧ Takes read t a) : Takes (readList read) t as := by
  refine (skipsGap_atToken _).takes fun rest _ => ?_
  cases h with
  | @none gap hg =>
    rw [map_between, atToken_of_not_isGap rfl, if_pos rfl, readItems, nextItem_end true hg]
    rfl
  | @some as t hj =>
    have hroom := hj.length_le fun a ha t ht => (hW a ha t ht).1
    rw [map_between, atToken_of_not_isGap rfl, if_pos rfl]
    refine readItems_joined hj hW rfl ?_
    rw [List.length_append, List.length_map]
    omega

/-! ## Records -/

/-- A member of an object that fills in a field which was not filled in before, or one that is skipped. -/
inductive FilledByOne (fields : List (Field σ)) (record : σ) : List Char × List Char → σ → Prop
  | known {field : Field σ} {spelling value : List Char} {record' : σ} (hname : Spelled field.name.toList spelling)
    (hfind : fields.find? (·.name = field.name) = some field) (hset : field.isSet record = false)
    (hvalue : Takes (field.read record) value record') : FilledByOne fields record (spelling, value) record'
  | unknown {name : String} {spelling value : List Char} (hname : Spelled name.toList spelling)
    (hfind : fields.find? (·.name = name) = none) (hvalue : IsValue value) :
    FilledByOne fields record (spelling, value) record

/-- The members of an object, each of them filling in the record that the ones before it have left. -/
inductive FilledBy (fields : List (Field σ)) : σ → List (List Char × List Char) → σ → Prop
  | nil (record : σ) : FilledBy fields record [] record
  | cons {record record' record'' : σ} {m : List Char × List Char} {ms : List (List Char × List Char)}
    (h : FilledByOne fields record m record') (hs : FilledBy fields record' ms record'') :
    FilledBy fields record (m :: ms) record''

theorem readMember_memberRest {fields : List (Field σ)} {record record' : σ} {m : List Char × List Char}
    (h : FilledByOne fields record m record') {gap gap' : List Char} (hg : IsGapText gap) (hg' : IsGapText gap')
    (hrest : Ends rest) : readMember fields record (memberRest m gap gap' rest) = .ok (record', rest) := by
  cases h with
  | known hname hfind hset hvalue =>
    rw [readMember, memberRest, stringTail_spelled hname]
    simp only [bind, Except.bind, String.ofList_toList, hfind, hset, Bool.false_eq_true, if_false,
      expectChar_gap ':' hg rfl]
    exact hvalue _ rest hg' hrest
  | unknown hname hfind hvalue =>
    have hskip := skipValue_isValue hvalue hg' hrest
    rw [List.map_append, List.append_assoc] at hskip
    rw [readMember, memberRest, stringTail_spelled hname]
    simp only [bind, Except.bind, String.ofList_toList, hfind, expectChar_gap ':' hg rfl, hskip]
    rfl

theorem nextMember_first (hg : IsGapText gap) (s : List Symbol) :
    nextMember true (gap.map some ++ some '"' :: s) = .ok (true, s) := by
  rw [nextMember, skipGap_gap_cons hg rfl]
  rfl

theorem nextMember_end (isFirst : Bool) (hg : IsGapText gap) (s : List Symbol) :
    nextMember isFirst (gap.map some ++ some '\x7d' :: s) = .ok (false, s) := by
  rw [nextMember, skipGap_gap_cons hg rfl]
  exact if_pos rfl

/-- What may come first in an object may come behind a comma. -/
theorem nextMember_gap_comma (hg : IsGapText gap) (h : nextMember true s = .ok (true, u)) :
    nextMember false (gap.map some ++ some ',' :: s) = .ok (true, u) := by
  rw [nextMember] at h
  rw [nextMember, skipGap_gap_cons hg rfl]
  cases hs : skipGap s with
  | nil => rw [hs] at h; cases h
  | cons x r =>
    rw [hs] at h
    by_cases hx : x = some '\x7d'
    · rw [hx] at h; cases h
    · simpa [hs, hx] using h

theorem nextMember_joined {ms : List (List Char × List Char)} (h : Joined WritesMember ms t) (s : List Symbol) :
    ∃ u, nextMember true (t.map some ++ s) = .ok (true, u) := by
  cases h with
  | one hb h ha =>
    obtain ⟨gap, gap', -, -, htext⟩ := h.exists_memberRest
    rw [map_one, htext]
    exact ⟨_, nextMember_first hb _⟩
  | more hb h ha hs =>
    obtain ⟨gap, gap', -, -, htext⟩ := h.exists_memberRest
    rw [map_more, htext]
    exact ⟨_, nextMember_first hb _⟩

/-- **The members of an object are taken to its end**, the first of them or those behind a comma. -/
theorem readMembers_joined {fields : List (Field σ)} {record record' : σ} {ms : List (List Char × List Char)}
    (h : Joined WritesMember ms t) (hf : FilledBy fields record ms record') {isFirst : Bool} {room : Nat}
    (hs : nextMember isFirst s = nextMember true (t.map some ++ some '\x7d' :: rest)) (hroom : ms.length < room) :
    readMembers fields isFirst room record s = .ok (record', rest) := by
  obtain ⟨room, rfl⟩ : ∃ r, room = r + 1 := ⟨room - 1, by omega⟩
  induction h generalizing isFirst s room record with
  | one hb h ha =>
    obtain ⟨room, rfl⟩ : ∃ r, room = r + 1 := ⟨room - 1, by rw [List.length_singleton] at hroom; omega⟩
    obtain ⟨gap, gap', hg, hg', htext⟩ := h.exists_memberRest
    cases hf with
    | cons hm hnil =>
      cases hnil
      rw [map_one, htext, nextMember_first hb] at hs
      rw [readMembers_succ hs (readMember_memberRest hm hg hg' (ends_gap ha (ends_brace rest))), readMembers,
        nextMember_end false ha]
      rfl
  | more hb h ha hmore ih =>
    obtain ⟨room, rfl⟩ : ∃ r, room = r + 1 := ⟨room - 1, by rw [List.length_cons] at hroom; omega⟩
    obtain ⟨gap, gap', hg, hg', htext⟩ := h.exists_memberRest
    cases hf with
    | cons hm hms =>
      obtain ⟨u, hu⟩ := nextMember_joined hmore (some '\x7d' :: rest)
      rw [map_more, htext, nextMember_first hb] at hs
      rw [readMembers_succ hs (readMember_memberRest hm hg hg' (ends_gap ha (ends_comma _)))]
      exact ih hms ((nextMember_gap_comma ha hu).trans hu.symm) room (by rw [List.length_cons] at hroom; omega)

/-- **A record is taken from an object** whose members fill it in. -/
theorem takes_object {shape : Shape σ} {record : σ} {ms : List (List Char × List Char)}
    (h : Bracketed '\x7b' '\x7d' WritesMember ms t) (hf : FilledBy shape.fields shape.blank ms record) :
    Takes (readRecord shape) t record := by
  refine (skipsGap_atToken _).takes fun rest _ => ?_
  cases h with
  | @none gap hg =>
    cases hf
    rw [map_between, atToken_of_not_isGap rfl, if_pos rfl, readMembers, nextMember_end true hg]
    rfl
  | @some ms t hj =>
    have hroom := hj.length_le fun m _ t ht => ht.begins
    rw [map_between, atToken_of_not_isGap rfl, if_pos rfl]
    refine readMembers_joined hj hf rfl ?_
    rw [List.length_append, List.length_map]
    omega

/-- Values for the first of the fields, whose texts fill in the record that the ones before have left. -/
inductive FilledInOrder (W : α → List Char → Prop) : List (Field σ) → σ → List α → σ → Prop
  | nil (fields : List (Field σ)) (record : σ) : FilledInOrder W fields record [] record
  | cons {field : Field σ} {fields : List (Field σ)} {record record' record'' : σ} {a : α} {as : List α}
    (h : ∀ t, W a t → Begins t ∧ Takes (field.read record) t record') (hs : FilledInOrder W fields record' as record'') :
    FilledInOrder W (field :: fields) record (a :: as) record''

theorem FilledInOrder.begins {W : α → List Char → Prop} {fields : List (Field σ)} {record record' : σ} {as : List α}
    (h : FilledInOrder W fields record as record') : ∀ a ∈ as, ∀ t, W a t → Begins t := by
  induction h with
  | nil => exact nofun
  | cons h hs ih =>
    rintro a (_ | ⟨_, hmem⟩) t ht
    · exact (h t ht).1
    · exact ih a hmem t ht

theorem FilledInOrder.eq_of_nil {W : α → List Char → Prop} {fields : List (Field σ)} {record record' : σ}
    (h : FilledInOrder W fields record [] record') : record = record' := by
  cases h
  rfl

theorem readElements_cons {shape : Shape σ} {field : Field σ} {fields : List (Field σ)} {index : Nat}
    {record record' : σ} (hs : nextItem (index = 0) s = .ok (true, u)) (h : field.read record u = .ok (record', rest)) :
    readElements shape (field :: fields) index record s = readElements shape fields (index + 1) record' rest := by
  rw [readElements, hs]
  show (field.read record u >>= fun x => readElements shape fields (index + 1) x.1 x.2) = _
  rw [h]
  rfl

theorem readElements_end {shape : Shape σ} (hearly : shape.mayEndEarly = true) (fields : List (Field σ)) (index : Nat)
    (record : σ) (hg : IsGapText gap) (rest : List Symbol) :
    readElements shape fields index record (gap.map some ++ some ']' :: rest) = .ok (record, rest) := by
  cases fields with
  | nil =>
    rw [readElements, expectChar_gap ']' hg rfl]
    rfl
  | cons field fields =>
    rw [readElements, nextItem_end _ hg]
    simp only [bind, Except.bind, hearly, if_true]
    rfl

/-- **The elements of a list are taken to its end**, the first of them or those behind a comma. -/
theorem readElements_joined {shape : Shape σ} (hearly : shape.mayEndEarly = true) {fields : List (Field σ)}
    {record record' : σ} {W : α → List Char → Prop} {as : List α} (h : Joined W as t)
    (hf : FilledInOrder W fields record as record') {index : Nat}
    (hs : nextItem (index = 0) s = nextItem true (t.map some ++ some ']' :: rest)) :
    readElements shape fields index record s = .ok (record', rest) := by
  induction h generalizing fields index s record with
  | @one a before t after hb h ha =>
    cases hf with
    | cons hfill hnil =>
      cases hnil
      obtain ⟨hbegins, htakes⟩ := hfill t h
      rw [map_one, nextItem_begins hb hbegins] at hs
      rw [readElements_cons hs (htakes [] _ .nil (ends_gap ha (ends_bracket rest)))]
      exact readElements_end hearly _ _ _ ha rest
  | @more a as before t after more hb h ha hmore ih =>
    cases hf with
    | cons hfill hf =>
      obtain ⟨hbegins, htakes⟩ := hfill t h
      obtain ⟨u, hu⟩ := nextItem_joined hmore hf.begins (some ']' :: rest)
      rw [map_more, nextItem_begins hb hbegins] at hs
      rw [readElements_cons hs (htakes [] _ .nil (ends_gap ha (ends_comma _)))]
      exact ih hf ((nextItem_gap_comma ha hu).trans hu.symm)

/-- **A record is taken from the list of its first fields**, if it may leave out fields. -/
theorem takes_elements {shape : Shape σ} (hearly : shape.mayEndEarly = true) {record : σ} {W : α → List Char → Prop}
    {as : List α} (h : Bracketed '[' ']' W as t) (hf : FilledInOrder W shape.fields shape.blank as record) :
    Takes (readRecord shape) t record := by
  refine (skipsGap_atToken _).takes fun rest _ => ?_
  cases h with
  | @none gap hg =>
    have hblank : shape.blank = record := hf.eq_of_nil
    rw [map_between, atToken_of_not_isGap rfl, if_neg (by decide), if_pos rfl, hblank]
    exact readElements_end hearly _ _ _ hg rest
  | @some as t hj =>
    rw [map_between, atToken_of_not_isGap rfl, if_neg (by decide), if_pos rfl]
    exact readElements_joined hearly hj hf rfl

end ClusterMembership.Json
