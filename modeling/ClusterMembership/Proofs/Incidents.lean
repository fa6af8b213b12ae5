import ClusterMembership.Proofs.Answers
import ClusterMembership.Simulation.Run
/-!
# What happens to a simulated cluster

A call has two parts.  It comes in and is recorded, and once its latency has passed it takes effect; in between the
cluster is free for whatever else happens, and a call that its caller gives up has no second part.  `live` goes through
any history of such parts and of instructions.  A call that nothing gets in the way of is the history `course`
(`performWithin_fst`).
-/
namespace ClusterMembership

/-- What happens to a simulated cluster. -/
inductive Incident where
  /-- A call comes in and is recorded. -/
  | arrival (c : Call)
  /-- The latency of a call has passed, and it takes effect. -/
  | landing (c : Call)
  | instruction (i : Instruction)

namespace SimulatedCluster

/-- The cluster after an incident. -/
def undergo (s : SimulatedCluster) : Incident → SimulatedCluster
  | .arrival c => s.record c
  | .landing c => (s.answer c).1
  | .instruction i => (Simulation.instruct s i).1

/-- The cluster after a history. -/
def live (s : SimulatedCluster) (history : List Incident) : SimulatedCluster := history.foldl undergo s

/-- The call that an incident carries out. -/
def lands? (s : SimulatedCluster) : Incident → Option Call
  | .landing c => if (s.answer c).2 = none then some c else none
  | _ => none

/-- The calls that are carried out in the course of a history. -/
def landed (s : SimulatedCluster) : List Incident → List Call
  | [] => []
  | i :: history => (s.lands? i).toList ++ (s.undergo i).landed history

/-- The parts of a call whose caller waits for it at most `limit`. -/
def course (s : SimulatedCluster) (limit : Span) (c : Call) : List Incident :=
  if limit.ceilMillis < s.latency then [.arrival c] else [.arrival c, .landing c]

variable {s : SimulatedCluster}

theorem live_append (s : SimulatedCluster) (before after : List Incident) :
    s.live (before ++ after) = (s.live before).live after := List.foldl_append

theorem lands?_landing_of_some {c : Call} {k : SimulatedCluster} {why : Simulated.Reason}
    (h : s.answer c = (k, some why)) : s.lands? (.landing c) = none := by
  rw [lands?, h, if_neg (Option.some_ne_none why)]

theorem lands?_landing_of_none {c : Call} {k : SimulatedCluster} (h : s.answer c = (k, none)) :
    s.lands? (.landing c) = some c := by
  rw [lands?, h, if_pos rfl]

/-! ## What an incident changes -/

/-- The membership is as it was, what is planned included, and the same nodes have been made coordinators. -/
structure SameStanding (s k : SimulatedCluster) : Prop extends s.SameMembership k where
  initialized : k.initialized = s.initialized

theorem instruct_sameStanding (s : SimulatedCluster) (i : Instruction) :
    s.SameStanding (Simulation.instruct s i).1 := by
  cases i <;> exact ⟨⟨rfl, rfl, rfl⟩, rfl⟩

/-- **An incident leaves the standing alone, or it is a call that is carried out.** -/
theorem undergo_cases (s : SimulatedCluster) (i : Incident) :
    (s.lands? i = none ∧ s.SameStanding (s.undergo i)) ∨
    ∃ c, s.lands? i = some c ∧ s.objection? c = none ∧ s.undergo i = s.carryOut c := by
  cases i with
  | arrival c => exact Or.inl ⟨rfl, ⟨⟨rfl, rfl, rfl⟩, rfl⟩⟩
  | instruction i => exact Or.inl ⟨rfl, instruct_sameStanding s i⟩
  | landing c =>
    rcases answer_cases s c with ⟨ho, h⟩ | ⟨why, -, h⟩ | ⟨counters, h⟩
    · exact Or.inr ⟨c, lands?_landing_of_none h, ho, by rw [undergo, h]⟩
    · exact Or.inl ⟨lands?_landing_of_some h, by rw [undergo, h]; exact ⟨⟨rfl, rfl, rfl⟩, rfl⟩⟩
    · exact Or.inl ⟨lands?_landing_of_some h, by rw [undergo, h]; exact ⟨⟨rfl, rfl, rfl⟩, rfl⟩⟩

/-! ## Whole calls -/

theorem latency_perform (s : SimulatedCluster) (c : Call) : (s.perform c).1.latency = s.latency := by
  rcases answer_cases (s.record c) c with ⟨-, h⟩ | ⟨why, -, h⟩ | ⟨counters, h⟩
  · rw [perform, h, carryOut_eq]; rfl
  · rw [perform, h]; rfl
  · rw [perform, h]; rfl

theorem performWithin_eq (s : SimulatedCluster) (limit : Span) (c : Call) :
    s.performWithin limit c =
      if limit.ceilMillis < s.latency then (s.record c, .timedOut, limit.ceilMillis)
      else ((s.perform c).1, (s.perform c).2.elim .done fun why => .refused why.refusal, s.latency) := by
  unfold performWithin
  by_cases hl : limit.ceilMillis < s.latency
  · rw [if_pos hl, if_neg (by omega)]
  · rw [if_neg hl, if_pos (by omega), ← latency_perform s c]
    obtain ⟨k, reply⟩ := s.perform c
    cases reply <;> rfl

/-- **A whole call is a history**: it comes in, and it takes effect if its latency is within the limit. -/
theorem performWithin_fst (s : SimulatedCluster) (limit : Span) (c : Call) :
    (s.performWithin limit c).1 = s.live (s.course limit c) := by
  rw [performWithin_eq, course]
  split <;> rfl

end SimulatedCluster

end ClusterMembership
