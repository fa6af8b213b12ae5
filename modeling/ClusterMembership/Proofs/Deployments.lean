import ClusterMembership.Proofs.Histories
import ClusterMembership.Simulation.Run
/-!
# A controller over its backing cluster

A deployment is a controller together with a simulated backing cluster that nobody else calls.  The group and the signals
change as they do in any history, the backing cluster is told at any time how to behave, and it answers the outstanding
call itself.  So a deployment goes through a history of its controller, and what holds of every history holds of it.
-/
namespace ClusterMembership

/-- What happens to a deployment. -/
inductive Turn where
  /-- What happens to the controller; an answer is not taken from here. -/
  | event (e : Event)
  | instruct (i : Instruction)
  /-- The backing cluster answers the outstanding call, if there is one. -/
  | respond

/-- The nodes that enter the group in the course of some turns. -/
def Turn.entering (turns : List Turn) : List Node :=
  turns.filterMap fun
    | .event (.enter n) => some n
    | _ => none

/-- A recovery is asked for. -/
def Turn.isRecovery : Turn → Bool
  | .event (.recover ..) => true
  | _ => false

/-- A controller and its backing cluster. -/
structure Deployment where
  moment : Moment
  backing : SimulatedCluster

namespace Deployment

/-- A controller that has done nothing yet, and a backing cluster without members. -/
def fresh (config : Config) (stages : Bool) (group : String) : Deployment := ⟨.fresh config stages group, { stages }⟩

/-- The outstanding call is made, and the controller takes its answer. -/
def respond (d : Deployment) : Deployment :=
  match d.moment.activity.call? with
  | none => d
  | some call =>
    let (backing, a, _) := d.backing.performWithin d.moment.cluster.config.actionTimeout call
    ⟨d.moment.answer a, backing⟩

/-- The deployment after a turn. -/
def step (d : Deployment) : Turn → Deployment
  | .event (.answer _) => d
  | .event e => { d with moment := d.moment.step e }
  | .instruct i => { d with backing := (Simulation.instruct d.backing i).1 }
  | .respond => d.respond

/-- The deployment after some turns. -/
def run (d : Deployment) (turns : List Turn) : Deployment := turns.foldl step d

/-- The turn starts a pass that elects a node that is initialized already. -/
def adoptsAt (d : Deployment) : Turn → Bool
  | .event .reconcile =>
    match d.moment.activity with
    | .resting => d.moment.cluster.adopts
    | _ => false
  | _ => false

/-- Some election in the course of the turns is of a node that is initialized already. -/
def adopts (d : Deployment) : List Turn → Bool
  | [] => false
  | t :: turns => d.adoptsAt t || (d.step t).adopts turns

theorem respond_of_call? {d : Deployment} {c : Call} (h : d.moment.activity.call? = some c) :
    d.respond = ⟨d.moment.answer (d.backing.performWithin d.moment.cluster.config.actionTimeout c).2.1,
      (d.backing.performWithin d.moment.cluster.config.actionTimeout c).1⟩ := by
  rw [respond, h]

theorem step_event (d : Deployment) {e : Event} (h : ∀ a, e ≠ .answer a) :
    d.step (.event e) = { d with moment := d.moment.step e } := by
  cases e with
  | answer a => exact absurd rfl (h a)
  | _ => rfl

/-- **A turn of a deployment is at most one event of its controller's history.** -/
theorem moment_step (d : Deployment) (t : Turn) :
    (d.step t).moment = d.moment ∨
      ∃ e, (d.step t).moment = d.moment.step e ∧ ∀ n, e = .enter n → t = .event (.enter n) := by
  cases t with
  | event e =>
    by_cases ha : ∃ a, e = .answer a
    · obtain ⟨a, rfl⟩ := ha
      exact Or.inl rfl
    · exact Or.inr ⟨e, by rw [step_event d (fun a he => ha ⟨a, he⟩)], fun n hn => by rw [hn]⟩
  | instruct i => exact Or.inl rfl
  | respond =>
    rw [step, respond]
    split
    · exact Or.inl rfl
    · exact Or.inr ⟨.answer _, rfl, fun n hn => by cases hn⟩

/-- **The controller of a deployment goes through a history.** -/
theorem exists_history (turns : List Turn) : ∀ d : Deployment, ∃ history, (d.run turns).moment = d.moment.run history := by
  induction turns with
  | nil => exact fun d => ⟨[], rfl⟩
  | cons t turns ih =>
    intro d
    obtain ⟨history, hh⟩ := ih (d.step t)
    rcases d.moment_step t with he | ⟨e, he, -⟩
    · exact ⟨history, by rw [← he]; exact hh⟩
    · exact ⟨e :: history, by rw [he] at hh; exact hh⟩

/-- The controller's side is sound, and only active nodes are flagged so. -/
structure Sound (known : Node → Prop) (d : Deployment) : Prop where
  moment : d.moment.Sound known
  marked : d.moment.cluster.Marked

theorem sound_fresh (known : Node → Prop) (config : Config) (stages : Bool) (group : String) :
    (fresh config stages group).Sound known :=
  ⟨Moment.sound_fresh config stages group, fun _ h => (by cases h)⟩

theorem Sound.step {known : Node → Prop} (hd : DistinctIds known) {d : Deployment} (h : d.Sound known) (t : Turn)
    (hk : ∀ n, t = .event (.enter n) → known n) : (d.step t).Sound known := by
  rcases d.moment_step t with he | ⟨e, he, hn⟩
  · exact ⟨by rw [he]; exact h.moment, by rw [he]; exact h.marked⟩
  · refine ⟨?_, ?_⟩
    · rw [he]; exact h.moment.step e (fun n hen => hk n (hn n hen))
    · rw [he]; exact Moment.marked_step hd h.moment h.marked e

end Deployment

end ClusterMembership
