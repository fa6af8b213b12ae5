import ClusterMembership.Proofs.JsonRecords
import ClusterMembership.Proofs.Serializations
import Mathlib.Data.List.Forall2
import Mathlib.Data.List.Nodup
import Mathlib.Data.List.ReduceOption
/-!
# Configuration texts lay their fields over the defaults

The fields that a text gives are its settings, and a text gives them as the members of an object, among others that are not
known, or as the items of a list.  Whatever the order of the members and whatever stands between them, the configuration is
the default one with the settings put in (`ServedBy.laysOver`); both configurations are read so
(`texts_lay_over_defaults`).
-/
namespace ClusterMembership

namespace Json

variable {σ γ ι : Type} {t : List Char}

/-- What a text may set: the names of the known fields in order, the field that a setting is for, and the texts of its
value. -/
structure Vocabulary (ι : Type) where
  known : List String
  name : ι → String
  Writes : ι → List Char → Prop

/-- A member of an object: one that gives a setting, or one of an unknown name, with any value. -/
inductive Vocabulary.Gives (v : Vocabulary ι) : Option ι → List Char × List Char → Prop
  | setting {x : ι} {spelling value : List Char} (hname : Spelled (v.name x).toList spelling) (hvalue : v.Writes x value) :
    Gives v (some x) (spelling, value)
  | unknown {name : String} {spelling value : List Char} (hname : Spelled name.toList spelling) (h : name ∉ v.known)
    (hvalue : IsValue value) : Gives v none (spelling, value)

/-- The text is that of an object which gives the settings, each field once at most. -/
structure Vocabulary.IsObjectText (v : Vocabulary ι) (settings : List ι) (text : String) : Prop where
  once : (settings.map v.name).Nodup
  object : ∃ entries ms t, entries.reduceOption = settings ∧ List.Forall₂ v.Gives entries ms ∧
    Bracketed '\x7b' '\x7d' WritesMember ms t ∧ IsWhole t text

/-- The text is that of a list which gives the settings, one for each of the first fields. -/
structure Vocabulary.IsListText (v : Vocabulary ι) (settings : List ι) (text : String) : Prop where
  first : settings.map v.name <+: v.known
  list : ∃ t, Bracketed '[' ']' v.Writes settings t ∧ IsWhole t text

/-- The texts lay their settings over the defaults. -/
structure Vocabulary.LaysOver (v : Vocabulary ι) (parse : String → Except Flaw γ) (defaults : γ) (put : γ → ι → γ) :
    Prop where
  /-- The settings are put in, and the unknown members leave no trace. -/
  object : ∀ {settings text}, v.IsObjectText settings text → parse text = .ok (settings.foldl put defaults)
  /-- The order of the settings does not matter. -/
  order : ∀ {settings settings' text text'}, v.IsObjectText settings text → v.IsObjectText settings' text' →
    settings.Perm settings' → parse text = parse text'
  /-- A list is read like an object with the same settings. -/
  list : ∀ {settings text}, v.IsListText settings text → parse text = .ok (settings.foldl put defaults) ∧
    ∀ text', v.IsObjectText settings text' → parse text = parse text'

/-- The shape takes every setting by the field of its name, and no other setting fills this field in. -/
structure Vocabulary.ServedBy (v : Vocabulary ι) (shape : Shape σ) (fill : σ → ι → σ) : Prop where
  known : shape.fields.map (·.name) = v.known
  found : ∀ field ∈ shape.fields, shape.fields.find? (·.name = field.name) = some field
  blank : ∀ field ∈ shape.fields, field.isSet shape.blank = false
  apart : ∀ field ∈ shape.fields, ∀ x record, v.name x ≠ field.name → field.isSet (fill record x) = field.isSet record
  taken : ∀ x, ∃ field, shape.fields.find? (·.name = v.name x) = some field ∧
    ∀ record value, v.Writes x value → Begins value ∧ Takes (field.read record) value (fill record x)
  mayEndEarly : shape.mayEndEarly = true

/-- Settings that are each for a field of their own may be put in in any order. -/
theorem Vocabulary.foldl_perm {v : Vocabulary ι} {put : γ → ι → γ}
    (hcomm : ∀ c x y, v.name x ≠ v.name y → put (put c x) y = put (put c y) x) {settings settings' : List ι}
    (honce : (settings.map v.name).Nodup) (hperm : settings.Perm settings') (c : γ) :
    settings.foldl put c = settings'.foldl put c := by
  refine hperm.foldl_eq' (fun x hx y hy c => ?_) c
  by_cases hxy : x = y
  · rw [hxy]
  · exact hcomm c x y fun hname => hxy (List.inj_on_of_nodup_map honce hx hy hname)

namespace Vocabulary.ServedBy

variable {v : Vocabulary ι} {shape : Shape σ} {fill : σ → ι → σ}

theorem isSet_foldl (h : v.ServedBy shape fill) {field : Field σ} (hfield : field ∈ shape.fields) {settings : List ι}
    (hnone : field.name ∉ settings.map v.name) (record : σ) :
    field.isSet (settings.foldl fill record) = field.isSet record := by
  induction settings generalizing record with
  | nil => rfl
  | cons x settings ih =>
    rw [List.map_cons, List.mem_cons, not_or] at hnone
    rw [List.foldl_cons, ih hnone.2, h.apart field hfield x record (Ne.symm hnone.1)]

/-- The members of an object fill in what its settings do, behind others that were given before. -/
theorem filledBy (h : v.ServedBy shape fill) {entries : List (Option ι)} {ms : List (List Char × List Char)}
    (hm : List.Forall₂ v.Gives entries ms) (before : List ι)
    (hnodup : ((before ++ entries.reduceOption).map v.name).Nodup) :
    FilledBy shape.fields (before.foldl fill shape.blank) ms ((before ++ entries.reduceOption).foldl fill shape.blank) := by
  -- `before` are the settings of the members that were read already: none of them is for a field that still comes.
  induction hm generalizing before with
  | nil =>
    rw [List.reduceOption_nil, List.append_nil]
    exact .nil _
  | @cons entry m entries ms hgives _ ih =>
    cases hgives with
    | @setting x spelling value hname hvalue =>
      obtain ⟨field, hfind, htakes⟩ := h.taken x
      have hfield : field.name = v.name x := by simpa using List.find?_some hfind
      have happend : before ++ (some x :: entries).reduceOption = before ++ [x] ++ entries.reduceOption := by
        rw [List.reduceOption_cons_of_some, List.append_assoc, List.singleton_append]
      have hnew : field.name ∉ before.map v.name := by
        rw [List.reduceOption_cons_of_some, List.map_append, List.nodup_append] at hnodup
        rw [hfield]
        exact fun hmem => hnodup.2.2 _ hmem _ (by simp) rfl
      rw [happend] at hnodup ⊢
      have hmore := ih (before ++ [x]) hnodup
      rw [List.foldl_append, List.foldl_cons, List.foldl_nil] at hmore
      have hmem := List.mem_of_find?_eq_some hfind
      have hset : field.isSet (before.foldl fill shape.blank) = false := by
        rw [h.isSet_foldl hmem hnew, h.blank field hmem]
      exact .cons (.known (hfield ▸ hname) (hfield ▸ hfind) hset (htakes _ _ hvalue).2) hmore
    | @unknown name spelling value hname hunknown hvalue =>
      have hnone : shape.fields.find? (·.name = name) = none := by
        rw [List.find?_eq_none]
        intro field hfield heq
        exact hunknown (h.known ▸ List.mem_map.2 ⟨field, hfield, by simpa using heq⟩)
      rw [List.reduceOption_cons_of_none] at hnodup ⊢
      exact .cons (.unknown hname hnone hvalue) (ih before hnodup)

theorem filledInOrder (h : v.ServedBy shape fill) {fields : List (Field σ)} (hsub : ∀ field ∈ fields, field ∈ shape.fields)
    {settings : List ι} (hfirst : settings.map v.name <+: fields.map (·.name)) (record : σ) :
    FilledInOrder v.Writes fields record settings (settings.foldl fill record) := by
  induction settings generalizing fields record with
  | nil => exact .nil fields record
  | cons x settings ih =>
    cases fields with
    | nil => exact absurd (List.prefix_nil.1 hfirst) (List.cons_ne_nil _ _)
    | cons field fields =>
      rw [List.map_cons, List.map_cons, List.cons_prefix_cons] at hfirst
      obtain ⟨field', hfind, htakes⟩ := h.taken x
      have hfound := h.found field (hsub field List.mem_cons_self)
      rw [← hfirst.1, hfind] at hfound
      obtain rfl := Option.some.inj hfound
      exact .cons (htakes record) (ih (fun field hmem => hsub field (List.mem_cons_of_mem _ hmem)) hfirst.2 _)

theorem takes_objectText (h : v.ServedBy shape fill) {settings : List ι} {text : String}
    (ht : v.IsObjectText settings text) :
    ∃ t, IsWhole t text ∧ Takes (readRecord shape) t (settings.foldl fill shape.blank) := by
  obtain ⟨hnodup, entries, ms, t, rfl, hm, ht, hwhole⟩ := ht
  exact ⟨t, hwhole, takes_object ht (h.filledBy hm [] hnodup)⟩

theorem takes_listText (h : v.ServedBy shape fill) {settings : List ι} {text : String} (ht : v.IsListText settings text) :
    ∃ t, IsWhole t text ∧ Takes (readRecord shape) t (settings.foldl fill shape.blank) := by
  obtain ⟨hfirst, t, ht, hwhole⟩ := ht
  exact ⟨t, hwhole, takes_elements h.mayEndEarly ht (h.filledInOrder (fun _ hmem => hmem) (h.known ▸ hfirst) _)⟩

/-- **The texts lay their settings over the defaults**, if settings of different fields do not touch each other. -/
theorem laysOver (h : v.ServedBy shape fill) {finish : σ → γ} {put : γ → ι → γ}
    (hput : ∀ d x, finish (fill d x) = put (finish d) x)
    (hcomm : ∀ c x y, v.name x ≠ v.name y → put (put c x) y = put (put c y) x) :
    v.LaysOver (fun text => readWhole ((readRecord shape).map finish) (Text.symbolsOf text)) (finish shape.blank) put := by
  -- Settings are filled into a draft, which is laid over the defaults at the end: as if each were put in at once.
  have hread : ∀ {settings : List ι} {text : String},
      (∃ t, IsWhole t text ∧ Takes (readRecord shape) t (settings.foldl fill shape.blank)) →
      readWhole ((readRecord shape).map finish) (Text.symbolsOf text) = .ok (settings.foldl put (finish shape.blank)) := by
    rintro settings text ⟨t, hwhole, htakes⟩
    rw [(htakes.map finish).readWhole hwhole, List.foldl_hom finish fun d x => (hput d x).symm]
  refine ⟨fun ht => hread (h.takes_objectText ht), fun {settings settings' text text'} ht ht' hperm => ?_, fun ht =>
    ⟨hread (h.takes_listText ht), fun text' ht' =>
      (hread (h.takes_listText ht)).trans (hread (h.takes_objectText ht')).symm⟩⟩
  show readWhole _ _ = readWhole _ _
  rw [hread (h.takes_objectText ht), hread (h.takes_objectText ht'), Vocabulary.foldl_perm hcomm ht.once hperm]

end Vocabulary.ServedBy

theorem begins_chars (v : Value) : Begins v.chars := chars_eq_cons v

end Json

open Json (Begins Bracketed Spelled SkipsGap Takes Value Vocabulary WritesChoice)

theorem Signal.takes (s : Signal) {t : List Char} (h : WritesChoice s.name t) : Takes read t s :=
  Json.takes_choice (by cases s <;> decide) h

namespace Config

/-- A field that a text sets. -/
inductive Setting where
  | desiredSize (n : UInt64)
  | quorum (q : Option UInt64)
  | actionTimeout (d : Span)
  | readiness (s : Signal)
  | replaceUnready (b : Bool)
deriving DecidableEq

def Setting.name : Setting → String
  | desiredSize _ => "desired_size"
  | quorum _ => "quorum"
  | actionTimeout _ => "action_timeout"
  | readiness _ => "readiness_signal"
  | replaceUnready _ => "failover_unhealthy_primary"

/-- The texts of the value that a field is set to. -/
inductive Setting.Writes : Setting → List Char → Prop
  | desiredSize (n : UInt64) : Writes (desiredSize n) (Text.decimalDigits n.toNat)
  | quorum (n : UInt64) : Writes (quorum (some n)) (Text.decimalDigits n.toNat)
  | noQuorum : Writes (quorum none) ['n', 'u', 'l', 'l']
  | actionTimeout {text : String} {d : Span} {t : List Char} (h : Span.parse text = .ok d) (ht : Spelled text.toList t) :
    Writes (actionTimeout d) ('"' :: (t ++ ['"']))
  | readiness {s : Signal} {t : List Char} (h : WritesChoice s.name t) : Writes (readiness s) t
  | replaceUnready (b : Bool) : Writes (replaceUnready b) (Value.bool b).chars

def vocabulary : Vocabulary Setting where
  known := ["desired_size", "quorum", "action_timeout", "readiness_signal", "failover_unhealthy_primary"]
  name := Setting.name
  Writes := Setting.Writes

/-- The configuration with one field replaced. -/
def put (c : Config) : Setting → Config
  | .desiredSize n => { c with desiredSize := n }
  | .quorum q => { c with quorumOverride := q }
  | .actionTimeout d => { c with actionTimeout := d }
  | .readiness s => { c with readiness := s }
  | .replaceUnready b => { c with replaceUnready := b }

def Draft.fill (d : Draft) : Setting → Draft
  | .desiredSize n => { d with desiredSize := some n }
  | .quorum q => { d with quorumOverride := some q }
  | .actionTimeout t => { d with actionTimeout := some t }
  | .readiness s => { d with readiness := some s }
  | .replaceUnready b => { d with replaceUnready := some b }

theorem skipsGap_readSize : SkipsGap readSize := (Json.skipsGap_atToken _).map _

theorem takes_size (n : UInt64) : Takes readSize (Text.decimalDigits n.toNat) n :=
  skipsGap_readSize.takes (reads_size n)

theorem takes_quorum (n : UInt64) : Takes (Json.readOption readSize) (Text.decimalDigits n.toNat) (some n) :=
  skipsGap_readSize.readOption.takes (reads_quorum (some n))

theorem takes_span {text : String} {d : Span} {t : List Char} (h : Span.parse text = .ok d)
    (ht : Spelled text.toList t) : Takes readSpan ('"' :: (t ++ ['"'])) d :=
  (Json.takes_string ht).andThen (by rw [h])

theorem Setting.Writes.begins {x : Setting} {t : List Char} (h : x.Writes t) : Begins t := by
  cases h with
  | desiredSize n => exact Json.begins_chars (.nat n.toNat)
  | quorum n => exact Json.begins_chars (.nat n.toNat)
  | noQuorum => exact Json.begins_chars .null
  | actionTimeout h ht => exact ⟨_, _, rfl, rfl, by decide⟩
  | readiness h => exact h.begins
  | replaceUnready b => exact Json.begins_chars (.bool b)

theorem served : vocabulary.ServedBy shape Draft.fill where
  known := rfl
  found := by simp [shape, Json.Field.ofReader]
  blank := by simp [shape, Json.Field.ofReader]
  apart := by
    intro field hfield x record hname
    simp only [shape, List.mem_cons, List.not_mem_nil, or_false] at hfield
    rcases hfield with rfl | rfl | rfl | rfl | rfl <;> cases x <;> first | rfl | exact absurd rfl hname
  taken := by
    intro x
    cases x with
    | desiredSize n =>
      refine ⟨_, rfl, fun record t h => ⟨h.begins, ?_⟩⟩
      cases h with
      | desiredSize n => exact (takes_size n).field record
    | quorum q =>
      refine ⟨_, rfl, fun record t h => ⟨h.begins, ?_⟩⟩
      cases h with
      | quorum n => exact (takes_quorum n).field record
      | noQuorum => exact (Json.takes_none readSize).field record
    | actionTimeout d =>
      refine ⟨_, rfl, fun record t h => ⟨h.begins, ?_⟩⟩
      cases h with
      | actionTimeout h ht => exact (takes_span h ht).field record
    | readiness s =>
      refine ⟨_, rfl, fun record t h => ⟨h.begins, ?_⟩⟩
      cases h with
      | readiness h => exact (s.takes h).field record
    | replaceUnready b =>
      refine ⟨_, rfl, fun record t h => ⟨h.begins, ?_⟩⟩
      cases h with
      | replaceUnready b => exact (Json.takes_bool b).field record
  mayEndEarly := rfl

theorem put_comm (c : Config) (x y : Setting) (h : x.name ≠ y.name) : (c.put x).put y = (c.put y).put x := by
  cases x <;> cases y <;> first | rfl | exact absurd rfl h

theorem laysOver : vocabulary.LaysOver parse {} put :=
  served.laysOver (fun d x => by cases x <;> rfl) put_comm

/-- **No quorum at all** is what the default has. -/
theorem parse_quorum_none {settings settings' : List Setting} {text text' : String}
    (h : vocabulary.IsObjectText settings text) (h' : vocabulary.IsObjectText settings' text')
    (hperm : settings.Perm (.quorum none :: settings')) : parse text = parse text' := by
  rw [laysOver.object h, laysOver.object h', Vocabulary.foldl_perm put_comm h.once hperm]
  rfl

end Config

/-- A set is known by what it holds. -/
theorem SignalSet.ext_contains {set set' : SignalSet} (h : ∀ s, set.contains s = set'.contains s) : set = set' := by
  rw [SignalSet.mk.injEq]
  exact ⟨h .serviceUp, h .processRunning, h .coordinatorInitialized⟩

namespace TrackerConfig

/-- A field that a text sets. -/
inductive Setting where
  | interest (set : SignalSet)
  | repeats (b : Bool)
deriving DecidableEq

def Setting.name : Setting → String
  | interest _ => "signals_of_interest"
  | repeats _ => "notify_on_duplicate_value"

/-- The texts of the value that a field is set to.  The signals may be listed in any order, and more than once. -/
inductive Setting.Writes : Setting → List Char → Prop
  | interest {signals : List Signal} {set : SignalSet} {t : List Char} (h : ∀ s, set.contains s = signals.contains s)
    (ht : Bracketed '[' ']' (fun s => WritesChoice s.name) signals t) : Writes (interest set) t
  | repeats (b : Bool) : Writes (repeats b) (Value.bool b).chars

def vocabulary : Vocabulary Setting where
  known := ["signals_of_interest", "notify_on_duplicate_value"]
  name := Setting.name
  Writes := Setting.Writes

/-- The configuration with one field replaced. -/
def put (c : TrackerConfig) : Setting → TrackerConfig
  | .interest set => { c with interest := set }
  | .repeats b => { c with repeats := b }

def Draft.fill (d : Draft) : Setting → Draft
  | .interest set => { d with interest := some set }
  | .repeats b => { d with repeats := some b }

theorem takes_interest {signals : List Signal} {set : SignalSet} {t : List Char}
    (h : ∀ s, set.contains s = signals.contains s) (ht : Bracketed '[' ']' (fun s => WritesChoice s.name) signals t) :
    Takes (Json.Reader.map SignalSet.ofList (Json.readList Signal.read)) t set := by
  have hset : SignalSet.ofList signals = set :=
    SignalSet.ext_contains fun s => (SignalSet.contains_ofList signals s).trans (h s).symm
  have hlist := (Json.takes_list ht fun s _ t ht => ⟨ht.begins, s.takes ht⟩).map SignalSet.ofList
  rwa [hset] at hlist

theorem Setting.Writes.begins {x : Setting} {t : List Char} (h : x.Writes t) : Begins t := by
  cases h with
  | interest h ht =>
    obtain ⟨cs, rfl⟩ := ht.eq_cons
    exact ⟨_, _, rfl, rfl, by decide⟩
  | repeats b => exact Json.begins_chars (.bool b)

theorem served : vocabulary.ServedBy shape Draft.fill where
  known := rfl
  found := by simp [shape, Json.Field.ofReader]
  blank := by simp [shape, Json.Field.ofReader]
  apart := by
    intro field hfield x record hname
    simp only [shape, List.mem_cons, List.not_mem_nil, or_false] at hfield
    rcases hfield with rfl | rfl <;> cases x <;> first | rfl | exact absurd rfl hname
  taken := by
    intro x
    cases x with
    | interest set =>
      refine ⟨_, rfl, fun record t h => ⟨h.begins, ?_⟩⟩
      cases h with
      | interest h ht => exact (takes_interest h ht).field record
    | repeats b =>
      refine ⟨_, rfl, fun record t h => ⟨h.begins, ?_⟩⟩
      cases h with
      | repeats b => exact (Json.takes_bool b).field record
  mayEndEarly := rfl

theorem put_comm (c : TrackerConfig) (x y : Setting) (h : x.name ≠ y.name) : (c.put x).put y = (c.put y).put x := by
  cases x <;> cases y <;> first | rfl | exact absurd rfl h

theorem laysOver : vocabulary.LaysOver parse {} put :=
  served.laysOver (fun d x => by cases x <;> rfl) put_comm

end TrackerConfig

/-- **Configuration texts lay their fields over the defaults.**  The order of the fields does not matter, nor do members of
unknown names, nor a quorum of null, nor whether the first fields are listed or named. -/
theorem texts_lay_over_defaults :
    Config.vocabulary.LaysOver Config.parse {} Config.put ∧
    TrackerConfig.vocabulary.LaysOver TrackerConfig.parse {} TrackerConfig.put ∧
    ∀ settings settings' text text', Config.vocabulary.IsObjectText settings text →
      Config.vocabulary.IsObjectText settings' text' → settings.Perm (.quorum none :: settings') →
      Config.parse text = Config.parse text' :=
  ⟨Config.laysOver, TrackerConfig.laysOver, fun _ _ _ _ h h' hperm => Config.parse_quorum_none h h' hperm⟩

theorem Config.isObjectText_size : vocabulary.IsObjectText [.desiredSize 5] "\x7b\"desired_size\":5\x7d" where
  once := by decide
  object :=
    ⟨[some (.desiredSize 5)], _, _, rfl, .cons (.setting (.plain (by decide)) (.desiredSize 5)) .nil,
      .some (.one .nil (.mk .nil .nil) .nil), [], [], .nil, .nil, by decide +kernel⟩

theorem Config.isListText_size : vocabulary.IsListText [.desiredSize 5] "[5]" where
  first := by decide
  list := ⟨_, .some (.one .nil (.desiredSize 5) .nil), [], [], .nil, .nil, by decide +kernel⟩

/-- The name of the unknown member is spelled with an escape. -/
theorem Config.isObjectText_note : vocabulary.IsObjectText [.quorum none, .desiredSize 5]
    "\x7b\"n\\u006fte\":[\x7b\x7d], \"quorum\":null,\"desired_size\":5\x7d" where
  once := by decide
  object := by
    have hnote : Spelled "note".toList "n\\u006fte".toList :=
      .cons (.plain (by decide : Json.IsPlain 'n')) (.cons (.unit (by decide : Json.IsHexUnit ['0', '0', '6', 'f'])
        (by decide) (by decide)) (.plain (by decide)))
    have hvalue : Json.IsValue ['[', '\x7b', '\x7d', ']'] :=
      .list (.some (.one .nil rfl .nil)) (List.forall_mem_singleton.2 (.object (.none .nil) nofun nofun))
    exact ⟨[none, some (.quorum none), some (.desiredSize 5)], _, _, rfl,
      .cons (.unknown hnote (by decide) hvalue) (.cons (.setting (.plain (by decide)) .noQuorum)
        (.cons (.setting (.plain (by decide)) (.desiredSize 5)) .nil)),
      .some (.more .nil (.mk .nil .nil) .nil (.more (by decide : Json.IsGapText [' ']) (.mk .nil .nil) .nil
        (.one .nil (.mk .nil .nil) .nil))), [], [], .nil, .nil, by decide +kernel⟩

theorem TrackerConfig.isObjectText_repeats :
    vocabulary.IsObjectText [.repeats true] "\x7b\"notify_on_duplicate_value\":true\x7d" where
  once := by decide
  object :=
    ⟨[some (.repeats true)], _, _, rfl, .cons (.setting (.plain (by decide)) (.repeats true)) .nil,
      .some (.one .nil (.mk .nil .nil) .nil), [], [], .nil, .nil, by decide⟩

/-- An unknown member and a quorum of null beside a size, the size alone, and the size in a list. -/
theorem texts_lay_over_defaults_of_size :
    Config.parse "\x7b\"n\\u006fte\":[\x7b\x7d], \"quorum\":null,\"desired_size\":5\x7d" =
      Config.parse "\x7b\"desired_size\":5\x7d" ∧
    Config.parse "[5]" = Config.parse "\x7b\"desired_size\":5\x7d" ∧
    Config.parse "\x7b\"desired_size\":5\x7d" = .ok { desiredSize := 5 } ∧
    TrackerConfig.parse "\x7b\"notify_on_duplicate_value\":true\x7d" = .ok { repeats := true } :=
  ⟨texts_lay_over_defaults.2.2 _ _ _ _ Config.isObjectText_note Config.isObjectText_size (.refl _),
    (texts_lay_over_defaults.1.list Config.isListText_size).2 _ Config.isObjectText_size,
    texts_lay_over_defaults.1.object Config.isObjectText_size,
    texts_lay_over_defaults.2.1.object TrackerConfig.isObjectText_repeats⟩

end ClusterMembership
