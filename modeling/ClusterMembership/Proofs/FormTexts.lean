import ClusterMembership.Text.Form
import Mathlib.Data.List.Basic
import Mathlib.Tactic.IntervalCases
import Mathlib.Tactic.SplitIfs
/-!
# A form is read back from its body

A character is read back from its bytes whatever stands behind them (`symbolsAfter_char`), and so is a byte from what a body
writes for it (`decodeOctets_encodeOctet`).  What is written for a name or a value has no separator in it, so the pieces of a
body are its fields (`pieces_encodeChars`), and the names and values are those of the form (`fields?_encode`).
-/
namespace ClusterMembership.Text

/-! ## Characters -/

theorem toNat_ofNat_lt {n : Nat} (h : n < 0x100) : (UInt8.ofNat n).toNat = n := by
  rw [UInt8.toNat_ofNat']
  exact Nat.mod_eq_of_lt h

theorem opening_whole {n : Nat} (h : n < 0x80) : opening (.ofNat n) = .whole (Char.ofNat n) := by
  have hn : (UInt8.ofNat n).toNat = n := toNat_ofNat_lt (by omega)
  rw [opening, if_pos (UInt8.lt_iff_toNat_lt.2 (by rw [hn]; exact h)), hn]

theorem opening_two {n : Nat} (h : 2 ≤ n) (h' : n < 0x20) :
    opening (.ofNat (n + 0xc0)) = .part ⟨1, 0x80, 0xbf, n⟩ := by
  interval_cases n <;> rfl

theorem opening_three {n : Nat} (h : n < 0x10) :
    opening (.ofNat (n + 0xe0)) =
      .part ⟨2, if n = 0 then 0xa0 else 0x80, if n = 0xd then 0x9f else 0xbf, n⟩ := by
  interval_cases n <;> rfl

theorem opening_four {n : Nat} (h : n < 5) :
    opening (.ofNat (n + 0xf0)) =
      .part ⟨3, if n = 0 then 0x90 else 0x80, if n = 4 then 0x8f else 0xbf, n⟩ := by
  interval_cases n <;> rfl

theorem symbolsAfter_part {b : UInt8} {u : Unfinished} (h : opening b = .part u) (rest : List UInt8) :
    symbolsAfter none (b :: rest) = symbolsAfter (some u) rest := by
  rw [symbolsAfter, feed, h]
  rfl

theorem feed_some {left value n : Nat} {low high : UInt8} (hn : n < 0x40) (hlow : low.toNat ≤ n + 0x80)
    (hhigh : n + 0x80 ≤ high.toNat) :
    feed (some ⟨left, low, high, value⟩) (.ofNat (n + 0x80)) =
      if left ≤ 1 then ([some (Char.ofNat (value * 0x40 + n))], none)
      else ([], some ⟨left - 1, 0x80, 0xbf, value * 0x40 + n⟩) := by
  have hb : (UInt8.ofNat (n + 0x80)).toNat = n + 0x80 := toNat_ofNat_lt (by omega)
  have hrange : low ≤ .ofNat (n + 0x80) ∧ .ofNat (n + 0x80) ≤ high := by
    rw [UInt8.le_iff_toNat_le, UInt8.le_iff_toNat_le, hb]
    exact ⟨hlow, hhigh⟩
  have hvalue : (UInt8.ofNat (n + 0x80)).toNat % 0x40 = n := by omega
  rw [feed]
  simp only [if_pos hrange, hvalue]

theorem symbolsAfter_last {value n : Nat} {low high : UInt8} (hn : n < 0x40) (hlow : low.toNat ≤ n + 0x80)
    (hhigh : n + 0x80 ≤ high.toNat) (rest : List UInt8) :
    symbolsAfter (some ⟨1, low, high, value⟩) (.ofNat (n + 0x80) :: rest) =
      some (Char.ofNat (value * 0x40 + n)) :: symbolsAfter none rest := by
  rw [symbolsAfter, feed_some hn hlow hhigh]
  rfl

theorem symbolsAfter_more {left value n : Nat} {low high : UInt8} (hn : n < 0x40) (hlow : low.toNat ≤ n + 0x80)
    (hhigh : n + 0x80 ≤ high.toNat) (rest : List UInt8) :
    symbolsAfter (some ⟨left + 2, low, high, value⟩) (.ofNat (n + 0x80) :: rest) =
      symbolsAfter (some ⟨left + 1, 0x80, 0xbf, value * 0x40 + n⟩) rest := by
  rw [symbolsAfter, feed_some hn hlow hhigh, if_neg (by omega)]
  rfl

/-- **A character is read back from its bytes.** -/
theorem symbolsAfter_char (c : Char) (rest : List UInt8) :
    symbolsAfter none (String.utf8EncodeChar c ++ rest) = some c :: symbolsAfter none rest := by
  have hc : c.toNat < 0xd800 ∨ 0xdfff < c.toNat ∧ c.toNat < 0x110000 := c.valid
  have hofNat {v : Nat} (hv : v = c.toNat) : Char.ofNat v = c := hv ▸ Char.ofNat_toNat c
  have hany (n : Nat) : (0x80 : UInt8).toNat ≤ n + 0x80 := Nat.le_add_left ..
  have hall {n : Nat} (hn : n < 0x40) : n + 0x80 ≤ (0xbf : UInt8).toNat := Nat.le_of_lt_succ (Nat.add_lt_add_right hn 0x80)
  have hv : c.val.toNat = c.toNat := rfl
  rw [String.utf8EncodeChar, hv]
  generalize hv : c.toNat = v at hc hofNat
  split_ifs with h1 h2 h3
  · rw [List.singleton_append, symbolsAfter, feed, opening_whole (by omega), hofNat rfl]
    rfl
  · simp only [List.cons_append, List.nil_append]
    rw [symbolsAfter_part (opening_two (by omega) (by omega)),
      symbolsAfter_last (by omega) (hany _) (hall (by omega)), hofNat (by omega)]
  · have hlow : (if v / 4096 % 16 = 0 then 0xa0 else 0x80 : UInt8).toNat ≤ v / 64 % 64 + 0x80 := by
      split
      · simp; omega
      · exact hany _
    -- No character is a surrogate.
    have hhigh : v / 64 % 64 + 0x80 ≤ (if v / 4096 % 16 = 0xd then 0x9f else 0xbf : UInt8).toNat := by
      split <;> (simp; omega)
    simp only [List.cons_append, List.nil_append]
    rw [symbolsAfter_part (opening_three (by omega)), symbolsAfter_more (by omega) hlow hhigh,
      symbolsAfter_last (by omega) (hany _) (hall (by omega)), hofNat (by omega)]
  · have hlow : (if v / 262144 % 8 = 0 then 0x90 else 0x80 : UInt8).toNat ≤ v / 4096 % 64 + 0x80 := by
      split
      · simp; omega
      · exact hany _
    have hhigh : v / 4096 % 64 + 0x80 ≤ (if v / 262144 % 8 = 4 then 0x8f else 0xbf : UInt8).toNat := by
      split <;> (simp; omega)
    simp only [List.cons_append, List.nil_append]
    rw [symbolsAfter_part (opening_four (by omega)), symbolsAfter_more (by omega) hlow hhigh,
      symbolsAfter_more (by omega) (hany _) (hall (by omega)),
      symbolsAfter_last (by omega) (hany _) (hall (by omega)), hofNat (by omega)]

theorem symbolsAfter_flatMap (cs : List Char) : symbolsAfter none (cs.flatMap String.utf8EncodeChar) = cs.map some := by
  induction cs with
  | nil => rfl
  | cons c cs ih => rw [List.flatMap_cons, symbolsAfter_char, ih, List.map_cons]

theorem symbols_octets (s : String) : symbols (octets s) = symbolsOf s := symbolsAfter_flatMap s.toList

/-! ## Pieces -/

theorem pieces_append_cons {separator : Char} {piece : List Char} (h : separator ∉ piece) (rest : List Char) :
    pieces separator (piece ++ separator :: rest) = piece :: pieces separator rest := by
  induction piece with
  | nil => rw [List.nil_append, pieces, if_pos rfl]
  | cons c piece ih =>
    obtain ⟨hc, hpiece⟩ : separator ≠ c ∧ separator ∉ piece := by simpa using h
    rw [List.cons_append, pieces, if_neg (Ne.symm hc), ih hpiece]

/-- **Joined pieces are cut apart again.** -/
theorem pieces_intercalate {separator : Char} {ps : List (List Char)} (hne : ps ≠ []) (h : ∀ p ∈ ps, separator ∉ p) :
    pieces separator ([separator].intercalate ps) = ps := by
  induction ps with
  | nil => exact absurd rfl hne
  | cons p ps ih =>
    obtain ⟨hp, hps⟩ := List.forall_mem_cons.1 h
    cases ps with
    | nil => rw [List.intercalate_singleton, pieces_of_not_mem hp]
    | cons q ps =>
      rw [List.intercalate_cons_cons, List.append_assoc, List.singleton_append, pieces_append_cons hp,
        ih (List.cons_ne_nil _ _) hps]

/-! ## Names and values -/

namespace Form

theorem isPlain_bounds {b : UInt8} (h : isPlain b = true) :
    b.toNat < 0x80 ∧ b.toNat ≠ 0x2b ∧ b.toNat ≠ 0x25 ∧ b.toNat ≠ 0x26 ∧ b.toNat ≠ 0x3d := by
  simp only [isPlain, Bool.or_eq_true, Bool.and_eq_true, decide_eq_true_eq, UInt8.le_iff_toNat_le, UInt8.ext_iff,
    UInt8.reduceToNat] at h
  omega

/-- The character may stand in a written name or value: it separates nothing. -/
def IsWritten (c : Char) : Prop := c ≠ '&' ∧ c ≠ '='

theorem isWritten_upperHexChar {n : Nat} (h : n < 16) : IsWritten (upperHexChar n) := by
  unfold IsWritten
  interval_cases n <;> decide

theorem plain_char {b : UInt8} (h : isPlain b = true) :
    String.utf8EncodeChar (Char.ofNat b.toNat) = [b] ∧ Char.ofNat b.toNat ≠ '+' ∧ Char.ofNat b.toNat ≠ '%' ∧
      IsWritten (Char.ofNat b.toNat) := by
  obtain ⟨hlt, hplus, hpercent, hand, hequals⟩ := isPlain_bounds h
  have hn : (Char.ofNat b.toNat).toNat = b.toNat := by
    rw [Char.ofNat, dif_pos (Or.inl (by omega))]; rfl
  have hne {c : Char} (hc : b.toNat ≠ c.toNat) : Char.ofNat b.toNat ≠ c := fun h => hc (by rw [← h, hn])
  refine ⟨?_, hne hplus, hne hpercent, hne hand, hne hequals⟩
  have hv : (Char.ofNat b.toNat).val.toNat = b.toNat := hn
  rw [String.utf8EncodeChar, hv]
  simp only [if_pos (show b.toNat ≤ 127 by omega), UInt8.ofNat_toNat]

/-- **A byte is read back** whatever stands behind it. -/
theorem decodeOctets_encodeOctet (b : UInt8) (rest : List Char) :
    decodeOctets (encodeOctet b ++ rest) = b :: decodeOctets rest := by
  have hb : b.toNat < 256 := b.toNat_lt
  unfold encodeOctet
  split
  · next h => rw [h]; rfl
  · split
    · next hp =>
      obtain ⟨hbytes, hplus, hpercent, -⟩ := plain_char hp
      rw [List.singleton_append, decodeOctets]
      · rw [octets, Char.toString, String.toList_singleton, List.flatMap_singleton, hbytes]
        rfl
      · exact hplus
      · exact fun _ _ _ h _ => hpercent h
    · have hvalue : UInt8.ofNat (b.toNat / 16 * 16 + b.toNat % 16) = b := by
        rw [Nat.div_add_mod', UInt8.ofNat_toNat]
      simp only [List.cons_append, List.nil_append]
      rw [decodeOctets, hexValue?_upperHexChar (by omega), hexValue?_upperHexChar (by omega)]
      simp only [hvalue]

theorem decodeOctets_flatMap (bytes : List UInt8) : decodeOctets (bytes.flatMap encodeOctet) = bytes := by
  induction bytes with
  | nil => rfl
  | cons b bytes ih => rw [List.flatMap_cons, decodeOctets_encodeOctet, ih]

/-- What is written place by place is read back if every place is. -/
theorem mapM_read_write {α β : Type} {write : α → β} {read? : β → Option α} (h : ∀ x, read? (write x) = some x)
    (xs : List α) : (xs.map write).mapM read? = some xs := by
  rw [List.mapM_map, show read? ∘ write = fun x => pure (id x) from funext h, List.mapM_pure, List.map_id]
  rfl

theorem decodeText?_encodeText (s : String) : decodeText? (encodeText s) = some s := by
  have hread : (s.toList.map some).mapM id = some s.toList := mapM_read_write (fun _ => by rfl) s.toList
  rw [decodeText?, encodeText, decodeOctets_flatMap, symbols_octets, symbolsOf, hread, Option.map_some, String.ofList_toList]

theorem isWritten_of_mem_encodeText {s : String} {c : Char} (h : c ∈ encodeText s) : IsWritten c := by
  obtain ⟨b, -, hc⟩ := List.mem_flatMap.1 h
  have hb : b.toNat < 256 := b.toNat_lt
  unfold encodeOctet at hc
  split at hc
  · rw [List.mem_singleton.1 hc]; unfold IsWritten; decide
  · split at hc
    · next hp => rw [List.mem_singleton.1 hc]; exact (plain_char hp).2.2.2
    · simp only [List.mem_cons, List.not_mem_nil, or_false] at hc
      rcases hc with rfl | rfl | rfl
      · unfold IsWritten; decide
      · exact isWritten_upperHexChar (by omega)
      · exact isWritten_upperHexChar (by omega)

/-! ## Fields -/

theorem decodeField?_encodeField (f : String × String) : decodeField? (encodeField f) = some f := by
  have hname : ∀ c ∈ encodeText f.1, decide (c ≠ '=') = true := fun c hc =>
    decide_eq_true (isWritten_of_mem_encodeText hc).2
  rw [decodeField?, encodeField, List.takeWhile_append_of_pos hname, List.dropWhile_append_of_pos hname,
    List.takeWhile_cons, List.dropWhile_cons]
  simp [decodeText?_encodeText]

theorem and_not_mem_encodeField (f : String × String) : '&' ∉ encodeField f := by
  intro h
  rcases List.mem_append.1 h with h | h
  · exact (isWritten_of_mem_encodeText h).1 rfl
  · rcases List.mem_cons.1 h with h | h
    · cases h
    · exact (isWritten_of_mem_encodeText h).1 rfl

theorem encodeChars_eq (form : Form) : encodeChars form = ['&'].intercalate (form.map encodeField) := by
  induction form with
  | nil => rfl
  | cons f form ih =>
    cases form with
    | nil => rw [List.map_cons, List.map_nil, List.intercalate_singleton]; rfl
    | cons g form =>
      rw [encodeChars, ih, List.map_cons, List.map_cons, List.map_cons, List.intercalate_cons_cons, List.append_assoc]
      rfl

/-- **The fields of a body are those of the form**: as many, with the same names and values, in the same order. -/
theorem fields?_encode (form : Form) : fields? form.encode = some form := by
  have hpieces : (pieces '&' (encodeChars form)).filter (· ≠ []) = form.map encodeField := by
    by_cases hform : form = []
    · rw [hform]; rfl
    · rw [encodeChars_eq, pieces_intercalate (by simpa using hform)
        (List.forall_mem_map.2 fun f _ => and_not_mem_encodeField f), List.filter_eq_self]
      intro p hp
      obtain ⟨f, -, rfl⟩ := List.mem_map.1 hp
      simp [encodeField]
  rw [fields?, encode, String.toList_ofList, hpieces, mapM_read_write decodeField?_encodeField]

end Form

end ClusterMembership.Text
