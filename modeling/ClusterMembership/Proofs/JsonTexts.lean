import ClusterMembership.Json.Reader
import ClusterMembership.Json.Value
/-!
# Written values are read back

A reader takes a value back where it returns what was written and leaves what follows (`Reads`).  Strings of any
characters are taken back, whole numbers within the bound of their reader, choices, options, and lists and records of what
is taken back.  What follows a value must not go on with a number, the only kind of value that does not show its end.
-/
namespace ClusterMembership.Json

open Text (Symbol)

/-- What follows a value: nothing that goes on with a number. -/
def Ends (rest : List Symbol) : Prop :=
  ∀ x, rest.head? = some x → isDigit x = false ∧ x ≠ some '.' ∧ x ≠ some 'e' ∧ x ≠ some 'E'

/-- The reader takes the written value back and leaves what follows it. -/
def Reads {α : Type} (read : Reader α) (v : Value) (a : α) : Prop :=
  ∀ rest, Ends rest → read (v.chars.map some ++ rest) = .ok (a, rest)

variable {α β σ : Type}

theorem skipGap_of_not_isGap {x : Symbol} (h : isGap x = false) (t : List Symbol) : skipGap (x :: t) = x :: t := by
  rw [skipGap, List.dropWhile_cons_of_neg (by simp [h])]

theorem atToken_of_not_isGap {x : Symbol} (h : isGap x = false) (read : Symbol → Reader α) (t : List Symbol) :
    atToken read (x :: t) = read x t := by
  rw [atToken, skipGap_of_not_isGap h]

/-! ## Strings -/

theorem stringTail_quote (t : List Symbol) : stringTail (some '"' :: t) = .ok ([], t) := by rw [stringTail]

theorem stringTail_escape {s t : List Symbol} {c : Char} (h : escape s = .ok (c, t)) :
    stringTail (some '\\' :: s) = (stringTail t).map fun (cs, r) => (c :: cs, r) := by
  rw [stringTail]
  split
  · next h' => rw [h] at h'; cases h'
  · next h' => rw [h] at h'; cases h'; rfl

theorem unicodeEscape_control {c : Char} (h : c < ' ') (t : List Symbol) :
    unicodeEscape (some '0' :: some '0' :: some (Text.lowerHexChar (c.toNat / 16)) ::
      some (Text.lowerHexChar (c.toNat % 16)) :: t) = .ok (c, t) := by
  have hc : c.toNat < 32 := h
  have h0 : Text.hexValue? '0' = some 0 := rfl
  have hn : ((0 * 16 + 0) * 16 + c.toNat / 16) * 16 + c.toNat % 16 = c.toNat := by omega
  have hlow : isLowSurrogate c.toNat = false := by simp [isLowSurrogate]; omega
  have hhigh : isHighSurrogate c.toNat = false := by simp [isHighSurrogate]; omega
  have hhex : hexEscape (some '0' :: some '0' :: some (Text.lowerHexChar (c.toNat / 16)) ::
      some (Text.lowerHexChar (c.toNat % 16)) :: t) = .ok (c.toNat, t) := by
    rw [hexEscape, h0, Text.hexValue?_lowerHexChar (by omega), Text.hexValue?_lowerHexChar (by omega)]
    simp only [hn]
  rw [unicodeEscape, hhex]
  show (if isLowSurrogate c.toNat then _ else if isHighSurrogate c.toNat then _ else
    Except.ok (Char.ofNat c.toNat, t)) = _
  rw [hlow, hhigh, Char.ofNat_toNat]
  rfl

/-- **A character of a string is read back.** -/
theorem stringTail_stringChar (c : Char) (t : List Symbol) :
    stringTail ((stringChar c).map some ++ t) = (stringTail t).map fun (cs, r) => (c :: cs, r) := by
  unfold stringChar
  split
  · exact stringTail_escape rfl
  · exact stringTail_escape rfl
  · exact stringTail_escape rfl
  · exact stringTail_escape rfl
  · exact stringTail_escape rfl
  · exact stringTail_escape rfl
  · exact stringTail_escape rfl
  · next hquote hback _ _ _ _ _ =>
    split
    · next h => exact stringTail_escape (unicodeEscape_control h t)
    · next h =>
      show stringTail (some c :: t) = _
      rw [stringTail.eq_5 _ _ hquote hback, if_neg h]

theorem stringTail_stringChars (t : List Symbol) : ∀ cs : List Char,
    stringTail ((cs.flatMap stringChar ++ ['"']).map some ++ t) = .ok (cs, t)
  | [] => stringTail_quote t
  | c :: cs => by
    rw [List.flatMap_cons, List.append_assoc, List.map_append, List.append_assoc, stringTail_stringChar,
      stringTail_stringChars t cs]
    rfl

theorem symbols_stringChars (s : String) (t : List Symbol) : (stringChars s).map some ++ t =
    some '"' :: ((s.toList.flatMap stringChar ++ ['"']).map some ++ t) := rfl

/-- **A string is read back**, whatever its characters. -/
theorem reads_string (s : String) : Reads readString (.string s) s := by
  intro t _
  rw [Value.chars, symbols_stringChars, readString, atToken_of_not_isGap rfl, if_pos rfl, stringTail_stringChars]
  show Except.ok (String.ofList s.toList, t) = _
  rw [String.ofList_toList]

theorem reads_choice {choices : List (String × α)} {s : String} {a : α}
    (h : choices.find? (·.1 = s) = some (s, a)) : Reads (readChoice choices) (.string s) a := by
  intro t _
  have hc : choose choices s = .ok a := by rw [choose, h]
  rw [Value.chars, symbols_stringChars, readChoice, atToken_of_not_isGap rfl, if_pos rfl, stringTail_stringChars]
  show (choose choices (String.ofList s.toList) >>= fun a => pure (a, t)) = _
  rw [String.ofList_toList, hc]
  rfl

/-! ## Numbers -/

theorem isDigit_of_mem {n : Nat} {c : Char} (h : c ∈ Text.decimalDigits n) : isDigit (some c) = true := by
  obtain ⟨d, hd, rfl⟩ := Text.mem_decimalDigits h
  match d with
  | 0 | 1 | 2 | 3 | 4 | 5 | 6 | 7 | 8 | 9 => decide
  | _ + 10 => omega

theorem isGap_of_isDigit {x : Symbol} (h : isDigit x = true) : isGap x = false := by
  cases x with
  | none => rfl
  | some c =>
    rw [isGap, Bool.eq_false_iff]
    intro hb
    simp only [Text.isJsonBlank, Bool.or_eq_true, decide_eq_true_eq] at hb
    rcases hb with ((rfl | rfl) | rfl) | rfl <;> cases h

theorem eq_zero_of_head? {n : Nat} (h : (Text.decimalDigits n).head? = some '0') : n = 0 := by
  induction n using Nat.strongRecOn with
  | ind n ih =>
    rw [Text.decimalDigits] at h
    split at h
    · next hn =>
      have hc : Text.digitChar n = '0' := Option.some.inj h
      have := Text.toNat_digitChar hn
      rw [hc] at this
      simp at this
      omega
    · next hn =>
      obtain ⟨d, ds, hd⟩ := List.exists_cons_of_ne_nil (Text.decimalDigits_ne_nil (n / 10))
      rw [hd] at h
      have := ih (n / 10) (by omega) (by rw [hd]; exact h)
      omega

theorem le_digitsValueFrom (start : Nat) (ds : List Char) : start ≤ Text.digitsValueFrom start ds := by
  induction ds generalizing start with
  | nil => exact Nat.le_refl start
  | cons d ds ih => exact Nat.le_trans (by omega) (ih (10 * start + (d.toNat - 0x30)))

theorem gather_of_le {limit : Nat} (ds : List Char) {acc : Nat} (h : Text.digitsValueFrom acc ds ≤ limit) :
    gather limit acc (ds.map some) = (Text.digitsValueFrom acc ds, 0) := by
  induction ds generalizing acc with
  | nil => rfl
  | cons d ds ih =>
    have hstep : acc * 10 + digitValue (some d) = 10 * acc + (d.toNat - 0x30) := by rw [Nat.mul_comm]; rfl
    have hle : acc * 10 + digitValue (some d) ≤ limit := by
      rw [hstep]; exact Nat.le_trans (le_digitsValueFrom _ ds) h
    rw [List.map_cons, gather]
    simp only [if_pos hle]
    rw [hstep]
    exact ih h

theorem takeWhile_isDigit {ds : List Char} {rest : List Symbol} (hall : ∀ d ∈ ds, isDigit (some d) = true)
    (hrest : ∀ x, rest.head? = some x → isDigit x = false) :
    (ds.map some ++ rest).takeWhile isDigit = ds.map some ∧ skipDigits (ds.map some ++ rest) = rest := by
  have hall : ∀ x ∈ ds.map some, isDigit x = true := by
    intro x hx
    obtain ⟨c, hc, rfl⟩ := List.mem_map.1 hx
    exact hall c hc
  have hrest : rest.takeWhile isDigit = [] ∧ rest.dropWhile isDigit = rest := by
    cases rest with
    | nil => exact ⟨rfl, rfl⟩
    | cons x t =>
      rw [List.takeWhile_cons, List.dropWhile_cons, hrest x rfl]
      exact ⟨rfl, rfl⟩
  rw [skipDigits, List.takeWhile_append_of_pos hall, List.dropWhile_append_of_pos hall, hrest.1, hrest.2, List.append_nil]
  exact ⟨rfl, rfl⟩

/-- **A whole number of 64 bits is read back.** -/
theorem numberTail_decimalDigits {n : Nat} (hn : n ≤ exactLimit) {rest : List Symbol} (h : Ends rest) :
    numberTail false ((Text.decimalDigits n).map some ++ rest) = .ok (.natural n, rest) := by
  obtain ⟨htake, hskip⟩ := takeWhile_isDigit (fun d hd => isDigit_of_mem (n := n) hd) fun x hx => (h x hx).1
  have hzero := eq_zero_of_head? (n := n)
  have hvalue := Text.digitsValue_decimalDigits n
  rw [numberTail, htake, hskip]
  cases hd : Text.decimalDigits n with
  | nil => exact absurd hd (Text.decimalDigits_ne_nil n)
  | cons d ds =>
    rw [hd] at hzero hvalue
    have hlead : ¬(some d = some '0' ∧ ds.map some ≠ []) := by
      rintro ⟨h0, hne⟩
      rw [hzero h0, Text.decimalDigits] at hd
      cases hd
      exact hne rfl
    have hfirst : Text.digitsValueFrom (digitValue (some d)) ds = n := by
      rw [← hvalue, Text.digitsValue, Text.digitsValueFrom, Text.digitsValueFrom, List.foldl_cons, Nat.mul_zero,
        Nat.zero_add]
      rfl
    have hgather : gather exactLimit (digitValue (some d)) (ds.map some) = (n, 0) := by
      rw [gather_of_le ds (by rw [hfirst]; exact hn), hfirst]
    simp only [List.map_cons, if_neg hlead, hgather]
    split
    · exact absurd rfl (h _ rfl).2.1
    · exact absurd rfl (h _ rfl).2.2.1
    · exact absurd rfl (h _ rfl).2.2.2
    · rfl

theorem reads_natural (wanted : Wanted) {limit n : Nat} (hlimit : n ≤ limit) (hn : n ≤ exactLimit) :
    Reads (readNatural wanted limit) (.nat n) n := by
  intro rest hrest
  have htail := numberTail_decimalDigits hn hrest
  have hchars : (Value.nat n).chars = Text.decimalDigits n := rfl
  rw [hchars]
  cases hd : Text.decimalDigits n with
  | nil => exact absurd hd (Text.decimalDigits_ne_nil n)
  | cons d ds =>
    rw [hd] at htail
    have hdigit : isDigit (some d) = true := isDigit_of_mem (n := n) (by rw [hd]; exact List.mem_cons_self)
    have hminus : some d ≠ some '-' := by rintro ⟨⟩; cases hdigit
    rw [List.map_cons, List.cons_append, readNatural, atToken_of_not_isGap (isGap_of_isDigit hdigit), if_neg hminus, if_pos hdigit]
    rw [List.map_cons, List.cons_append] at htail
    rw [htail]
    show ((Number.natural n).natural? wanted limit >>= fun n => pure (n, rest)) = _
    rw [Number.natural?, if_pos hlimit]
    rfl

theorem literal_append : ∀ (cs : List Char) (t : List Symbol), literal cs (cs.map some ++ t) = .ok t
  | [], _ => rfl
  | c :: cs, t => by
    rw [List.map_cons, List.cons_append, literal, if_pos rfl]
    exact literal_append cs t

theorem reads_bool (b : Bool) : Reads readBool (.bool b) b := by
  intro t _
  cases b with
  | true =>
    show readBool (some 't' :: (['r', 'u', 'e'].map some ++ t)) = _
    rw [readBool, atToken_of_not_isGap rfl, if_pos rfl, literal_append]
    rfl
  | false =>
    show readBool (some 'f' :: (['a', 'l', 's', 'e'].map some ++ t)) = _
    rw [readBool, atToken_of_not_isGap rfl, if_neg (by decide), if_pos rfl, literal_append]
    rfl

/-! ## Options -/

theorem reads_none (read : Reader α) : Reads (readOption read) .null none := by
  intro t _
  show readOption read (some 'n' :: (['u', 'l', 'l'].map some ++ t)) = _
  rw [readOption, skipGap_of_not_isGap rfl]
  show (literal _ _).map _ = _
  rw [literal_append]
  rfl

/-- What does not begin like null. -/
def ShowsItself (v : Value) : Prop := ∃ c cs, v.chars = c :: cs ∧ isGap (some c) = false ∧ c ≠ 'n'

theorem reads_some {read : Reader α} {v : Value} {a : α} (h : Reads read v a) (hv : ShowsItself v) :
    Reads (readOption read) v (some a) := by
  intro t ht
  obtain ⟨c, cs, hc, hgap, hn⟩ := hv
  have hread := h t ht
  rw [hc] at hread ⊢
  rw [List.map_cons, List.cons_append] at hread ⊢
  rw [readOption, skipGap_of_not_isGap hgap]
  split
  · next heq => exact absurd (Option.some.inj (List.cons.inj heq).1) hn
  · rw [hread]; rfl

theorem showsItself_nat (n : Nat) : ShowsItself (.nat n) := by
  obtain ⟨d, ds, hd⟩ := List.exists_cons_of_ne_nil (Text.decimalDigits_ne_nil n)
  have hdigit : isDigit (some d) = true := isDigit_of_mem (n := n) (by rw [hd]; exact List.mem_cons_self)
  exact ⟨d, ds, hd, isGap_of_isDigit hdigit, by rintro rfl; cases hdigit⟩

theorem Reads.map {read : Reader α} {v : Value} {a : α} (h : Reads read v a) (f : α → β) :
    Reads (read.map f) v (f a) := by
  intro t ht
  rw [Reader.map, h t ht]
  rfl

theorem Reads.andThen {read : Reader α} {v : Value} {a : α} {b : β} (h : Reads read v a) {finish : α → Except Flaw β}
    (hf : finish a = .ok b) : Reads (read.andThen finish) v b := by
  intro t ht
  rw [Reader.andThen, h t ht]
  show (finish a >>= fun b => pure (b, t)) = _
  rw [hf]
  rfl

/-- A whole text that holds a written value. -/
theorem Reads.readWhole {read : Reader α} {v : Value} {a : α} (h : Reads read v a) :
    readWhole read (Text.symbolsOf v.print) = .ok a := by
  have hread := h [] (fun x hx => by cases hx)
  rw [List.append_nil] at hread
  rw [Json.readWhole, Text.symbolsOf, Value.print, String.toList_ofList, hread]
  rfl

/-! ## Lists -/

theorem ends_comma (t : List Symbol) : Ends (some ',' :: t) := by intro x hx; cases hx; decide

theorem ends_bracket (t : List Symbol) : Ends (some ']' :: t) := by intro x hx; cases hx; decide

theorem ends_brace (t : List Symbol) : Ends (some '\x7d' :: t) := by intro x hx; cases hx; decide

/-- A value does not begin with a blank or like the end of a list. -/
theorem chars_eq_cons (v : Value) : ∃ c cs, v.chars = c :: cs ∧ isGap (some c) = false ∧ c ≠ ']' := by
  cases v with
  | null => exact ⟨_, _, rfl, by decide⟩
  | bool b => cases b <;> exact ⟨_, _, rfl, by decide⟩
  | string s => exact ⟨_, _, rfl, by decide⟩
  | list items => exact ⟨_, _, rfl, by decide⟩
  | object members => exact ⟨_, _, rfl, by decide⟩
  | number n =>
    rw [Value.chars, numberChars]
    split
    · exact ⟨_, _, rfl, by decide⟩
    · obtain ⟨d, ds, hd⟩ := List.exists_cons_of_ne_nil (Text.decimalDigits_ne_nil n.natAbs)
      have hdigit : isDigit (some d) = true := isDigit_of_mem (n := n.natAbs) (by rw [hd]; exact List.mem_cons_self)
      exact ⟨d, ds, hd, isGap_of_isDigit hdigit, by rintro rfl; cases hdigit⟩

/-- The items of a list behind its first one. -/
def moreItems (vs : List Value) : List Char := vs.flatMap fun v => ',' :: v.chars

theorem itemsChars_cons (v : Value) (vs : List Value) : itemsChars (v :: vs) = v.chars ++ moreItems vs := by
  induction vs generalizing v with
  | nil => simp [itemsChars, moreItems]
  | cons w vs ih => rw [itemsChars, ih, moreItems, moreItems, List.flatMap_cons, List.cons_append]

theorem ends_moreItems (vs : List Value) (t : List Symbol) : Ends ((moreItems vs).map some ++ some ']' :: t) := by
  cases vs with
  | nil => exact ends_bracket t
  | cons v vs => exact ends_comma _

theorem nextItem_first (v : Value) (u : List Symbol) :
    nextItem true (v.chars.map some ++ u) = .ok (true, v.chars.map some ++ u) := by
  obtain ⟨c, cs, hc, hgap, hend⟩ := chars_eq_cons v
  rw [hc, List.map_cons, List.cons_append, nextItem, skipGap_of_not_isGap hgap]
  simp only [Option.some.injEq, hend, if_false, if_true]

theorem nextItem_comma (v : Value) (u : List Symbol) :
    nextItem false (some ',' :: (v.chars.map some ++ u)) = .ok (true, v.chars.map some ++ u) := by
  obtain ⟨c, cs, hc, hgap, hend⟩ := chars_eq_cons v
  have hcomma : (',' : Char) ≠ ']' := by decide
  rw [hc, List.map_cons, List.cons_append, nextItem, skipGap_of_not_isGap rfl]
  simp only [Option.some.injEq, hcomma, if_false, if_true, Bool.false_eq_true, skipGap_of_not_isGap hgap, hend]

theorem readItems_succ {read : Reader α} {isFirst : Bool} {room : Nat} {s u : List Symbol} {a : α} {t : List Symbol}
    (hs : nextItem isFirst s = .ok (true, u)) (ha : read u = .ok (a, t)) :
    readItems read isFirst (room + 1) s = (readItems read false room t).map fun (as, r) => (a :: as, r) := by
  rw [readItems, hs]
  show (read u >>= fun x => readItems read false room x.2 >>= fun y => pure (x.1 :: y.1, y.2)) = _
  rw [ha]
  show (readItems read false room t >>= fun y => pure (a :: y.1, y.2)) = _
  cases readItems read false room t <;> rfl

theorem readItems_moreItems {read : Reader α} {write : α → Value} (h : ∀ a, Reads read (write a) a) (t : List Symbol)
    (as : List α) {room : Nat} (hroom : as.length < room) :
    readItems read false room ((moreItems (as.map write)).map some ++ some ']' :: t) = .ok (as, t) := by
  obtain ⟨room, rfl⟩ : ∃ r, room = r + 1 := ⟨room - 1, by omega⟩
  induction as generalizing room with
  | nil => rfl
  | cons a as ih =>
    obtain ⟨room, rfl⟩ : ∃ r, room = r + 1 := ⟨room - 1, by rw [List.length_cons] at hroom; omega⟩
    have hs : (moreItems ((a :: as).map write)).map some ++ some ']' :: t =
        some ',' :: ((write a).chars.map some ++ ((moreItems (as.map write)).map some ++ some ']' :: t)) := by
      simp [moreItems]
    rw [hs, readItems_succ (nextItem_comma (write a) _) (h a _ (ends_moreItems _ t)),
      ih room (by rw [List.length_cons] at hroom; omega)]
    rfl

theorem length_le_moreItems (vs : List Value) : vs.length ≤ (moreItems vs).length := by
  induction vs with
  | nil => exact Nat.le_refl 0
  | cons v vs ih =>
    rw [moreItems] at ih ⊢
    rw [List.flatMap_cons, List.length_append, List.length_cons, List.length_cons]
    omega

/-- **A list is read back** if its items are. -/
theorem reads_list {read : Reader α} {write : α → Value} (h : ∀ a, Reads read (write a) a) (as : List α) :
    Reads (readList read) (.list (as.map write)) as := by
  intro t _
  have hs : (Value.list (as.map write)).chars.map some ++ t =
      some '[' :: ((itemsChars (as.map write)).map some ++ some ']' :: t) := by
    simp [Value.chars]
  rw [hs, readList, atToken_of_not_isGap rfl, if_pos rfl]
  cases as with
  | nil => rfl
  | cons a as =>
    rw [List.map_cons, itemsChars_cons, List.map_append, List.append_assoc,
      readItems_succ (nextItem_first (write a) _) (h a _ (ends_moreItems _ t)), readItems_moreItems h t as]
    · rfl
    · have hlen := length_le_moreItems (as.map write)
      obtain ⟨c, cs, hc, -⟩ := chars_eq_cons (write a)
      simp only [hc, List.length_append, List.length_map, List.length_cons] at hlen ⊢
      omega

/-! ## Records -/

/-- Members that fill in a record, each of them a field that was not filled in before. -/
inductive Fills (fields : List (Field σ)) : σ → List (String × Value) → σ → Prop where
  | nil (record : σ) : Fills fields record [] record
  | cons {record record' record'' : σ} {field : Field σ} {v : Value} {members : List (String × Value)}
    (hfind : fields.find? (·.name = field.name) = some field) (hset : field.isSet record = false)
    (hread : Reads (field.read record) v record') (hmore : Fills fields record' members record'') :
    Fills fields record ((field.name, v) :: members) record''

theorem reads_field {name : String} {get : σ → Option α} {set : σ → α → σ} {read : Reader α} {v : Value} {a : α}
    (h : Reads read v a) (record : σ) : Reads ((Field.ofReader name get set read).read record) v (set record a) := by
  intro t ht
  show (read _).map _ = _
  rw [h t ht]
  rfl

def memberChars (m : String × Value) : List Char := stringChars m.1 ++ ':' :: m.2.chars

/-- The members of an object behind its first one. -/
def moreMembers (ms : List (String × Value)) : List Char := ms.flatMap fun m => ',' :: memberChars m

theorem membersChars_cons (m : String × Value) (ms : List (String × Value)) :
    membersChars (m :: ms) = memberChars m ++ moreMembers ms := by
  induction ms generalizing m with
  | nil => simp [membersChars, moreMembers, memberChars]
  | cons m' ms ih => simp [membersChars, ih, moreMembers, memberChars]

theorem ends_moreMembers (ms : List (String × Value)) (t : List Symbol) :
    Ends ((moreMembers ms).map some ++ some '\x7d' :: t) := by
  cases ms with
  | nil => exact ends_brace t
  | cons m ms => exact ends_comma _

/-- A member behind its opening quote. -/
def memberTail (m : String × Value) (t : List Symbol) : List Symbol :=
  (m.1.toList.flatMap stringChar ++ ['"']).map some ++ some ':' :: (m.2.chars.map some ++ t)

theorem readMember_tail {fields : List (Field σ)} {field : Field σ} {record record' : σ} {v : Value} {t : List Symbol}
    (hfind : fields.find? (·.name = field.name) = some field) (hset : field.isSet record = false)
    (hread : Reads (field.read record) v record') (ht : Ends t) :
    readMember fields record (memberTail (field.name, v) t) = .ok (record', t) := by
  rw [readMember, memberTail, stringTail_stringChars]
  simp only [bind, Except.bind, String.ofList_toList, hfind, hset, Bool.false_eq_true, if_false]
  exact hread t ht

theorem readMembers_succ {fields : List (Field σ)} {isFirst : Bool} {room : Nat} {record record' : σ} {s u t : List Symbol}
    (hs : nextMember isFirst s = .ok (true, u)) (hm : readMember fields record u = .ok (record', t)) :
    readMembers fields isFirst (room + 1) record s = readMembers fields false room record' t := by
  rw [readMembers, hs]
  show (readMember fields record u >>= fun x => readMembers fields false room x.1 x.2) = _
  rw [hm]
  rfl

theorem readMembers_moreMembers {fields : List (Field σ)} {record record' : σ} {ms : List (String × Value)}
    (h : Fills fields record ms record') (t : List Symbol) {room : Nat} (hroom : ms.length < room) :
    readMembers fields false room record ((moreMembers ms).map some ++ some '\x7d' :: t) = .ok (record', t) := by
  obtain ⟨room, rfl⟩ : ∃ r, room = r + 1 := ⟨room - 1, by omega⟩
  induction h generalizing room with
  | nil => rfl
  | @cons record _ _ field v ms hfind hset hread hmore ih =>
    obtain ⟨room, rfl⟩ : ∃ r, room = r + 1 := ⟨room - 1, by rw [List.length_cons] at hroom; omega⟩
    have hs : (moreMembers ((field.name, v) :: ms)).map some ++ some '\x7d' :: t =
        some ',' :: some '"' :: memberTail (field.name, v) ((moreMembers ms).map some ++ some '\x7d' :: t) := by
      simp [moreMembers, memberChars, memberTail, stringChars]
    rw [hs, readMembers_succ rfl (readMember_tail hfind hset hread (ends_moreMembers ms t)),
      ih room (by rw [List.length_cons] at hroom; omega)]

theorem length_le_moreMembers (ms : List (String × Value)) : ms.length ≤ (moreMembers ms).length := by
  induction ms with
  | nil => exact Nat.le_refl 0
  | cons m ms ih =>
    rw [moreMembers] at ih ⊢
    rw [List.flatMap_cons, List.length_append, List.length_cons, List.length_cons]
    omega

/-- **A record is read back** if its members fill it in. -/
theorem reads_record {shape : Shape σ} {record : σ} {ms : List (String × Value)}
    (h : Fills shape.fields shape.blank ms record) : Reads (readRecord shape) (.object ms) record := by
  intro t _
  have hs : (Value.object ms).chars.map some ++ t =
      some '\x7b' :: ((membersChars ms).map some ++ some '\x7d' :: t) := by
    simp [Value.chars]
  rw [hs, readRecord, atToken_of_not_isGap rfl, if_pos rfl]
  cases h with
  | nil => rfl
  | @cons _ _ _ field v ms hfind hset hread hmore =>
    have hs : (membersChars ((field.name, v) :: ms)).map some ++ some '\x7d' :: t =
        some '"' :: memberTail (field.name, v) ((moreMembers ms).map some ++ some '\x7d' :: t) := by
      rw [membersChars_cons]
      simp [memberChars, memberTail, stringChars]
    rw [hs, readMembers_succ rfl (readMember_tail hfind hset hread (ends_moreMembers ms t)),
      readMembers_moreMembers hmore t]
    have hlen := length_le_moreMembers ms
    simp only [memberTail, List.length_append, List.length_map, List.length_cons]
    omega

end ClusterMembership.Json
