import ClusterMembership.Action
import ClusterMembership.Config
import ClusterMembership.Proofs.JsonTexts
import ClusterMembership.Proofs.SpanTexts
import ClusterMembership.Target
/-!
# What is serialized decodes back

The texts of configurations, actions, signals, identities, addresses and credentials are read back to the values they
were written from (`serialized_decodes`).  The signals of a tracker's configuration are a set and may be written in any
order.
-/
namespace ClusterMembership

open Json (Reads Fills Value readWhole)

theorem NodeId.reads (id : NodeId) : Reads read id.toJson id := (Json.reads_string id.text).map NodeId.mk

theorem Signal.reads (s : Signal) : Reads read s.toJson s := Json.reads_choice (by cases s <;> decide)

theorem Action.reads (a : Action) : Reads read a.toJson a := Json.reads_choice (by cases a <;> decide)

theorem Address.reads (a : Address) : Reads read a.toJson a := by
  have hport : a.port.toNat ≤ 65535 := Nat.le_of_lt_succ a.port.toNat_lt
  have hnat : Reads ((Json.readNatural .port 65535).map Nat.toUInt16) (.nat a.port.toNat) a.port := by
    have h := (Json.reads_natural .port hport (Nat.le_trans hport (by decide))).map Nat.toUInt16
    rwa [show a.port.toNat.toUInt16 = a.port from UInt16.ofNat_toNat] at h
  have hfills : Fills shape.fields shape.blank [("host", .string a.host), ("admin_port", .nat a.port.toNat)]
      ⟨some a.host, some a.port⟩ :=
    .cons rfl rfl (Json.reads_field (Json.reads_string a.host) _)
      (.cons rfl rfl (Json.reads_field hnat _) (.nil _))
  exact (Json.reads_record hfills).andThen rfl

theorem Credentials.reads (c : Credentials) : Reads read c.toJson c := by
  have hfills : Fills shape.fields shape.blank [("username", .string c.username), ("password", .string c.password)]
      ⟨some c.username, some c.password⟩ :=
    .cons rfl rfl (Json.reads_field (Json.reads_string c.username) _)
      (.cons rfl rfl (Json.reads_field (Json.reads_string c.password) _) (.nil _))
  exact (Json.reads_record hfills).andThen rfl

namespace Config

theorem reads_size (n : UInt64) : Reads readSize (.nat n.toNat) n := by
  have hn : n.toNat ≤ Json.exactLimit := Nat.le_of_lt_succ n.toNat_lt
  have h := (Json.reads_natural .size hn hn).map Nat.toUInt64
  rwa [show n.toNat.toUInt64 = n from UInt64.ofNat_toNat] at h

theorem reads_quorum (q : Option UInt64) : Reads (Json.readOption readSize) (.ofOption (.nat ·.toNat) q) q := by
  cases q with
  | none => exact Json.reads_none readSize
  | some n => exact Json.reads_some (reads_size n) (Json.showsItself_nat n.toNat)

theorem reads_span (d : Span) : Reads readSpan (.string d.print) d :=
  (Json.reads_string d.print).andThen (by rw [Span.parse_print])

theorem reads (c : Config) : Reads read c.toJson c := by
  have hfills : Fills shape.fields shape.blank [
      ("desired_size", .nat c.desiredSize.toNat), ("quorum", .ofOption (.nat ·.toNat) c.quorumOverride),
      ("action_timeout", .string c.actionTimeout.print), ("readiness_signal", c.readiness.toJson),
      ("failover_unhealthy_primary", .bool c.replaceUnready)]
      ⟨some c.desiredSize, some c.quorumOverride, some c.actionTimeout, some c.readiness, some c.replaceUnready⟩ :=
    .cons rfl rfl (Json.reads_field (reads_size c.desiredSize) _)
      (.cons rfl rfl (Json.reads_field (reads_quorum c.quorumOverride) _)
        (.cons rfl rfl (Json.reads_field (reads_span c.actionTimeout) _)
          (.cons rfl rfl (Json.reads_field c.readiness.reads _)
            (.cons rfl rfl (Json.reads_field (Json.reads_bool c.replaceUnready) _) (.nil _)))))
  exact (Json.reads_record hfills).map _

end Config

namespace SignalSet

theorem contains_foldl_write (signals : List Signal) (set : SignalSet) (s : Signal) :
    (signals.foldl (fun set t => set.write t true) set).contains s = (set.contains s || signals.contains s) := by
  induction signals generalizing set with
  | nil => rw [List.foldl_nil, List.contains_nil, Bool.or_false]
  | cons t signals ih =>
    rw [List.foldl_cons, ih, contains_write, List.contains_cons]
    by_cases h : s = t
    · simp [h]
    · rw [if_neg h, beq_eq_false_iff_ne.2 h, Bool.false_or]

/-- A set made of a list holds what the list does. -/
theorem contains_ofList (signals : List Signal) (s : Signal) : (ofList signals).contains s = signals.contains s := by
  rw [ofList, contains_foldl_write]
  cases s <;> rfl

end SignalSet

namespace TrackerConfig

/-- The text of a tracker's configuration, with the signals of interest in some order. -/
def toJsonOf (signals : List Signal) (repeats : Bool) : Value :=
  .object [("signals_of_interest", .list (signals.map Signal.toJson)), ("notify_on_duplicate_value", .bool repeats)]

theorem reads (signals : List Signal) (repeats : Bool) :
    Reads read (toJsonOf signals repeats) ⟨SignalSet.ofList signals, repeats⟩ := by
  have hset := (Json.reads_list Signal.reads signals).map SignalSet.ofList
  have hfills : Fills shape.fields shape.blank [
      ("signals_of_interest", .list (signals.map Signal.toJson)), ("notify_on_duplicate_value", .bool repeats)]
      ⟨some (SignalSet.ofList signals), some repeats⟩ :=
    .cons rfl rfl (Json.reads_field hset _) (.cons rfl rfl (Json.reads_field (Json.reads_bool repeats) _) (.nil _))
  exact (Json.reads_record hfills).map _

end TrackerConfig

/-- **What is serialized decodes back** to the same value. -/
theorem serialized_decodes :
    (∀ c : Config, Config.parse c.toJson.print = .ok c) ∧
    (∀ c : TrackerConfig, TrackerConfig.parse c.toJson.print = .ok c) ∧
    (∀ (signals : List Signal) (repeats : Bool), ∃ c : TrackerConfig,
      TrackerConfig.parse (TrackerConfig.toJsonOf signals repeats).print = .ok c ∧
        (∀ s, c.interest.contains s = signals.contains s) ∧ c.repeats = repeats) ∧
    (∀ a : Action, readWhole Action.read (Text.symbolsOf a.toJson.print) = .ok a) ∧
    (∀ s : Signal, readWhole Signal.read (Text.symbolsOf s.toJson.print) = .ok s) ∧
    (∀ id : NodeId, readWhole NodeId.read (Text.symbolsOf id.toJson.print) = .ok id) ∧
    (∀ a : Address, readWhole Address.read (Text.symbolsOf a.toJson.print) = .ok a) ∧
    ∀ c : Credentials, readWhole Credentials.read (Text.symbolsOf c.toJson.print) = .ok c := by
  refine ⟨fun c => c.reads.readWhole, fun c => ?_, fun signals repeats => ?_, fun a => a.reads.readWhole,
    fun s => s.reads.readWhole, fun id => id.reads.readWhole, fun a => a.reads.readWhole, fun c => c.reads.readWhole⟩
  · have h := (TrackerConfig.reads c.interest.toList c.repeats).readWhole
    rwa [SignalSet.ofList_toList] at h
  · exact ⟨_, (TrackerConfig.reads signals repeats).readWhole, SignalSet.contains_ofList signals, rfl⟩

end ClusterMembership
