import ClusterMembership.Url.Reader
/-!
# The authority of a URL does not depend on its path

An authority ends with the first slash behind it.  Whatever follows that slash, the reader finds the same user, host and
port before it (`splitAuthority?_slash`), so the URLs for all the paths of one address have one authority
(`authority_parse?`).
-/
namespace ClusterMembership.Url

theorem takeWhile_stop {p : Char → Bool} {c : Char} (h : p c = false) (cs more : List Char) :
    (cs ++ c :: more).takeWhile p = cs.takeWhile p := by
  induction cs with
  | nil => rw [List.nil_append, List.takeWhile_cons, h]; rfl
  | cons a cs ih => rw [List.cons_append, List.takeWhile_cons, List.takeWhile_cons, ih]

theorem dropWhile_stop {p : Char → Bool} {c : Char} (h : p c = false) (cs more : List Char) :
    (cs ++ c :: more).dropWhile p = cs.dropWhile p ++ c :: more := by
  induction cs with
  | nil => rw [List.nil_append, List.dropWhile_cons, h]; rfl
  | cons a cs ih =>
    rw [List.cons_append, List.dropWhile_cons, List.dropWhile_cons, ih]
    split <;> rfl

/-! What is split off before the slash, and what is left of the text before it, is the same for every path. -/

theorem splitUser?_slash (cs : List Char) : ∃ o : Option ((String × Option String) × List Char),
    ∀ path, splitUser? true (cs ++ '/' :: path) = o.map fun (user, left) => (user, left ++ '/' :: path) := by
  unfold splitUser?
  simp only [takeWhile_stop (p := (!endsAuthority true ·)) (c := '/') rfl]
  generalize hw : cs.takeWhile (!endsAuthority true ·) = whole
  generalize hh : (whole.reverse.takeWhile (· ≠ '@')).reverse = host
  have hwhole : whole.length ≤ cs.length := hw ▸ (List.takeWhile_sublist _).length_le
  have hhost : host.length ≤ whole.length := by
    rw [← hh, List.length_reverse]
    exact Nat.le_trans (List.takeWhile_sublist _).length_le (Nat.le_of_eq List.length_reverse)
  by_cases hlen : host.length = whole.length
  · exact ⟨some (("", none), cs), fun path => by rw [if_pos hlen]; rfl⟩
  · have hdrop (path : List Char) :
        (cs ++ '/' :: path).drop ((whole.take (whole.length - host.length - 1)).length + 1) =
          cs.drop ((whole.take (whole.length - host.length - 1)).length + 1) ++ '/' :: path :=
      List.drop_append_of_le_length (by rw [List.length_take]; omega)
    simp only [if_neg hlen, hdrop]
    by_cases hnone : whole.take (whole.length - host.length - 1) = [] ∧ host = []
    · exact ⟨none, fun path => if_pos ⟨hnone.1, hnone.2, by simp⟩⟩
    · exact ⟨some (_, _), fun path => if_neg fun h => hnone ⟨h.1, h.2.1⟩⟩

theorem splitHost_slash (cs : List Char) (inside : Bool) : ∃ host left, ∀ path,
    splitHost true inside (cs ++ '/' :: path) = (host, left ++ '/' :: path) := by
  induction cs generalizing inside with
  | nil =>
    refine ⟨[], [], fun path => ?_⟩
    have hend : (decide ('/' = ':') && !inside || endsAuthority true '/') = true := by cases inside <;> rfl
    rw [List.nil_append, splitHost, if_pos hend]
  | cons c cs ih =>
    obtain ⟨host, left, h⟩ := ih (c = '[' || (inside && c ≠ ']'))
    by_cases hend : (decide (c = ':') && !inside || endsAuthority true c) = true
    · exact ⟨[], c :: cs, fun path => by rw [List.cons_append, splitHost, if_pos hend]⟩
    · exact ⟨c :: host, left, fun path => by rw [List.cons_append, splitHost, if_neg hend, h path]⟩

theorem splitPort?_slash (cs : List Char) : ∃ o : Option (Option Nat × List Char),
    ∀ path, splitPort? (cs ++ '/' :: path) = o.map fun (port, left) => (port, left ++ '/' :: path) := by
  unfold splitPort?
  simp only [takeWhile_stop (p := fun c => (Text.digit? c).isSome) (c := '/') rfl]
  generalize hd : (cs.takeWhile fun c => (Text.digit? c).isSome) = digits
  have hlen : digits.length ≤ cs.length := hd ▸ (List.takeWhile_sublist _).length_le
  have hdrop (path : List Char) : (cs ++ '/' :: path).drop digits.length = cs.drop digits.length ++ '/' :: path :=
    List.drop_append_of_le_length hlen
  have hhead (path : List Char) : (cs.drop digits.length ++ '/' :: path).head? = (cs.drop digits.length ++ ['/']).head? := by
    cases cs.drop digits.length <;> rfl
  simp only [hdrop, hhead]
  by_cases hbad : 65535 < Text.digitsValue digits ∨ !(cs.drop digits.length ++ ['/']).head?.all (endsAuthority true)
  · exact ⟨none, fun path => if_pos hbad⟩
  · exact ⟨some (_, _), fun path => if_neg hbad⟩

theorem splitAuthority?_slash {family : Family} (h : family.isSpecial = true) (cs : List Char) :
    ∃ o : Option (Authority × List Char),
      ∀ path, splitAuthority? family (cs ++ '/' :: path) = o.map fun (a, left) => (a, left ++ '/' :: path) := by
  obtain ⟨o, huser⟩ := splitUser?_slash cs
  unfold splitAuthority?
  simp only [h, huser]
  cases o with
  | none => exact ⟨none, fun path => rfl⟩
  | some x =>
    obtain ⟨⟨username, password⟩, left⟩ := x
    obtain ⟨name, left, hhost⟩ := splitHost_slash left false
    simp only [Option.map_some, Option.bind_eq_bind, Option.bind_some, hhost]
    cases Host.read? true name with
    | none => exact ⟨none, fun path => rfl⟩
    | some host =>
      have hcolon (path : List Char) : (left ++ '/' :: path).head? = some ':' ↔ left.head? = some ':' := by
        cases left <;> simp
      simp only [Option.bind_some, hcolon]
      by_cases hnone : host = "" ∧ ((username ≠ "" ∨ password ≠ none) ∨ left.head? = some ':')
      · exact ⟨none, fun path => if_pos hnone⟩
      · simp only [if_neg hnone]
        by_cases hport : left.head? = some ':'
        · obtain ⟨left, rfl⟩ : ∃ t, left = ':' :: t := List.head?_eq_some_iff.1 hport
          obtain ⟨o, hsplit⟩ := splitPort?_slash left
          simp only [if_pos hport, List.cons_append, List.drop_one, List.tail_cons, hsplit]
          cases o with
          | none => exact ⟨none, fun path => rfl⟩
          | some x =>
            exact ⟨some (⟨username, password, host, if x.1 = family.port? then none else x.1⟩, x.2), fun path => rfl⟩
        · simp only [if_neg hport]
          exact ⟨some (_, _), fun path => rfl⟩

/-- A path with its slash, and without a character that a reader would leave out. -/
def IsPlainPath (path : List Char) : Prop := path.head? = some '/' ∧ ∀ c ∈ path, isEdge c = false

-- The list is gone through: a search for the instance may come upon the one that goes through all characters.
instance (path : List Char) : Decidable (IsPlainPath path) :=
  have : Decidable (∀ c ∈ path, isEdge c = false) := List.decidableBAll (fun c => isEdge c = false) path
  inferInstanceAs (Decidable (path.head? = some '/' ∧ ∀ c ∈ path, isEdge c = false))

/-- What is kept of the text before a path. -/
def trimFront (front : List Char) : List Char :=
  (front.dropWhile isEdge).filter fun c => c ≠ '\t' && c ≠ '\n' && c ≠ '\x0d'

theorem isKept_of_not_isEdge {c : Char} (h : isEdge c = false) : (c ≠ '\t' && c ≠ '\n' && c ≠ '\x0d') = true := by
  simp only [Bool.and_eq_true, decide_eq_true_eq]
  refine ⟨⟨?_, ?_⟩, ?_⟩ <;> (rintro rfl; cases h)

theorem trim_append {front path : List Char} {d : Char} (hd : isEdge d = false) (hpath : IsPlainPath path) :
    trim (front ++ [d] ++ path) = trimFront front ++ [d] ++ path := by
  obtain ⟨hslash, hplain⟩ := hpath
  have hfront : (front ++ [d] ++ path).dropWhile isEdge = front.dropWhile isEdge ++ [d] ++ path := by
    rw [List.append_assoc, List.append_assoc, List.singleton_append, dropWhile_stop hd]
  have hback : ((front.dropWhile isEdge ++ [d] ++ path).reverse.dropWhile isEdge).reverse =
      front.dropWhile isEdge ++ [d] ++ path := by
    obtain ⟨c, t, ht⟩ : ∃ c t, path.reverse = c :: t :=
      List.exists_cons_of_ne_nil (by rw [ne_eq, List.reverse_eq_nil_iff]; rintro rfl; cases hslash)
    have hc : isEdge c = false := hplain c (List.mem_reverse.1 (by rw [ht]; exact List.mem_cons_self))
    rw [List.reverse_append, ht, List.cons_append, List.dropWhile_cons_of_neg (by simp [hc]), ← List.cons_append, ← ht,
      ← List.reverse_append, List.reverse_reverse]
  have hkeep : path.filter (fun c => c ≠ '\t' && c ≠ '\n' && c ≠ '\x0d') = path :=
    List.filter_eq_self.2 fun c hc => isKept_of_not_isEdge (hplain c hc)
  have hlast : [d].filter (fun c => c ≠ '\t' && c ≠ '\n' && c ≠ '\x0d') = [d] :=
    List.filter_cons_of_pos (isKept_of_not_isEdge hd)
  unfold trim trimFront
  simp only [hfront, hback, List.filter_append, hkeep, hlast]

theorem splitScheme?_slash (cs : List Char) : ∃ o : Option (String × List Char),
    (∀ scheme left, o = some (scheme, left) → ∃ name, cs = name ++ ':' :: left) ∧
    ∀ path, splitScheme? (cs ++ '/' :: path) = o.map fun (scheme, left) => (scheme, left ++ '/' :: path) := by
  have hcs : cs.takeWhile isSchemeChar ++ cs.dropWhile isSchemeChar = cs := List.takeWhile_append_dropWhile
  unfold splitScheme?
  simp only [takeWhile_stop (p := isSchemeChar) (c := '/') rfl, dropWhile_stop (p := isSchemeChar) (c := '/') rfl]
  cases hname : cs.takeWhile isSchemeChar with
  | nil => exact ⟨none, nofun, fun path => rfl⟩
  | cons first more =>
    cases hrest : cs.dropWhile isSchemeChar with
    | nil => exact ⟨none, nofun, fun path => rfl⟩
    | cons c left =>
      by_cases hc : c = ':'
      · subst hc
        by_cases hl : Path.isLetter first = true
        · refine ⟨some (_, left), fun scheme left' h => ?_, fun path => if_pos hl⟩
          obtain ⟨-, rfl⟩ : _ ∧ left = left' := Prod.mk.inj (Option.some.inj h)
          exact ⟨first :: more, by rw [← hname, ← hrest, hcs]⟩
        · exact ⟨none, nofun, fun path => if_neg hl⟩
      · refine ⟨none, nofun, fun path => ?_⟩
        rw [List.cons_append]
        simp [hc]

theorem scheme_readFile? {cs : List Char} {u : Url} (h : readFile? cs = some u) : u.scheme = "file" := by
  unfold readFile? at h
  split at h
  · dsimp only at h
    split at h
    · cases h; rfl
    · split at h
      · cases h; rfl
      · obtain ⟨host, -, h⟩ := Option.bind_eq_some_iff.1 h
        split at h <;> (cases h; rfl)
  · cases h; rfl

theorem scheme_readRemote? {family : Family} {scheme : String} {cs : List Char} {u : Url}
    (h : readRemote? family scheme cs = some u) :
    u.scheme = scheme ∧ ∃ x, splitAuthority? family cs = some x ∧ u.authority = some x.1 := by
  obtain ⟨x, hx, h⟩ := Option.bind_eq_some_iff.1 h
  cases h
  exact ⟨rfl, x, hx, rfl⟩

theorem scheme_readOther? {scheme : String} {cs : List Char} {u : Url} (h : readOther? scheme cs = some u) :
    u.scheme = scheme := by
  unfold readOther? at h
  split at h
  · exact (scheme_readRemote? h).1
  · cases h; rfl

theorem digit_spec {d : Char} (hd : (Text.digit? d).isSome = true) :
    isEdge d = false ∧ isSlash true d = false ∧ d ≠ ':' := by
  have h : '0' ≤ d ∧ d ≤ '9' := by
    unfold Text.digit? at hd
    split at hd
    · assumption
    · cases hd
  refine ⟨?_, ?_, ?_⟩
  · have : 48 ≤ d.toNat := h.1
    simp [isEdge]
    omega
  · rw [isSlash, Bool.true_and, Bool.or_eq_false_iff, decide_eq_false_iff_not, decide_eq_false_iff_not]
    exact ⟨by rintro rfl; exact absurd h.1 (by decide), by rintro rfl; exact absurd h.2 (by decide)⟩
  · rintro rfl
    exact absurd h.2 (by decide)

/-- A URL of the web is read into its scheme and, behind the slashes, its authority. -/
theorem authority_parse? {text : String} {u : Url} (h : parse? text = some u)
    (hs : u.scheme = "http" ∨ u.scheme = "https") :
    ∃ rest, splitScheme? (trim text.toList) = some (u.scheme, rest) ∧ (Family.ofScheme u.scheme).isSpecial = true ∧
      ∃ x, splitAuthority? (Family.ofScheme u.scheme) (rest.dropWhile (isSlash true)) = some x ∧
        u.authority = some x.1 := by
  obtain ⟨⟨scheme, rest⟩, hscheme, h⟩ := Option.bind_eq_some_iff.1 h
  dsimp only at h
  split at h
  · next port hf =>
    obtain ⟨rfl, hauthority⟩ := scheme_readRemote? h
    rw [hf]
    exact ⟨rest, hscheme, rfl, hauthority⟩
  · rw [scheme_readFile? h] at hs
    rcases hs with hs | hs <;> exact absurd hs (by decide)
  · next hf =>
    rw [scheme_readOther? h] at hs
    rcases hs with rfl | rfl <;> cases hf

/-- **One scheme and one authority for all paths.** -/
theorem parse?_origin (front : List Char) {d : Char} (hd : (Text.digit? d).isSome = true) :
    ∃ scheme authority, ∀ path u, IsPlainPath path → parse? (String.ofList (front ++ [d] ++ path)) = some u →
      u.scheme = "http" ∨ u.scheme = "https" → u.scheme = scheme ∧ u.authority = some authority := by
  obtain ⟨hedge, hslash, hcolon⟩ := digit_spec hd
  obtain ⟨o, ho, hscheme⟩ := splitScheme?_slash (trimFront front ++ [d])
  have hsplit (path : List Char) (hp : IsPlainPath path) :
      splitScheme? (trim (front ++ [d] ++ path)) = o.map fun (scheme, left) => (scheme, left ++ path) := by
    obtain ⟨t, rfl⟩ := List.head?_eq_some_iff.1 hp.1
    rw [trim_append hedge hp, hscheme]
  cases o with
  | none =>
    refine ⟨"", {}, fun path u hp hu hs => ?_⟩
    obtain ⟨rest, h, -⟩ := authority_parse? hu hs
    rw [String.toList_ofList, hsplit path hp] at h
    cases h
  | some x =>
    obtain ⟨scheme, left⟩ := x
    obtain ⟨name, hname⟩ := ho scheme left rfl
    -- The digit is behind the colon of the scheme, so a path begins a rest of its own.
    obtain ⟨left, rfl⟩ : ∃ t, left = t ++ [d] := by
      rcases List.eq_nil_or_concat left with rfl | ⟨t, e, rfl⟩
      · exact absurd (List.append_inj_right' hname rfl) (by simpa using hcolon)
      · refine ⟨t, ?_⟩
        rw [List.concat_eq_append] at hname ⊢
        rw [← List.cons_append, ← List.append_assoc] at hname
        rw [List.append_inj_right' hname rfl]
    have hread {path : List Char} {u : Url} (hp : IsPlainPath path)
        (hu : parse? (String.ofList (front ++ [d] ++ path)) = some u) (hs : u.scheme = "http" ∨ u.scheme = "https") :
        u.scheme = scheme ∧ (Family.ofScheme scheme).isSpecial = true ∧
          ∃ x, splitAuthority? (Family.ofScheme scheme) (left.dropWhile (isSlash true) ++ [d] ++ path) = some x ∧
            u.authority = some x.1 := by
      obtain ⟨rest, h, hauthority⟩ := authority_parse? hu hs
      rw [String.toList_ofList, hsplit path hp] at h
      obtain ⟨rfl, rfl⟩ := Prod.mk.inj (Option.some.inj h)
      rw [List.append_assoc left, List.singleton_append, dropWhile_stop hslash, ← List.singleton_append,
        ← List.append_assoc] at hauthority
      exact ⟨rfl, hauthority⟩
    by_cases hspecial : (Family.ofScheme scheme).isSpecial = true
    · obtain ⟨o, hauthority⟩ := splitAuthority?_slash hspecial (left.dropWhile (isSlash true) ++ [d])
      refine ⟨scheme, (o.map (·.1)).getD {}, fun path u hp hu hs => ?_⟩
      obtain ⟨hsame, -, x, hx, ha⟩ := hread hp hu hs
      obtain ⟨t, rfl⟩ := List.head?_eq_some_iff.1 hp.1
      rw [hauthority] at hx
      obtain ⟨y, rfl, rfl⟩ := Option.map_eq_some_iff.1 hx
      exact ⟨hsame, ha⟩
    · exact ⟨"", {}, fun path u hp hu hs => absurd (hread hp hu hs).2.1 hspecial⟩

/-- The host and the port that are asked for a URL. -/
def endpoint (u : Url) : String :=
  let port := ((u.authority.bind (·.port)).or (Family.ofScheme u.scheme).port?).getD 0
  u.host?.getD "" ++ ":" ++ Text.decimal port

end ClusterMembership.Url
