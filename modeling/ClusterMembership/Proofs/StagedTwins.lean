import ClusterMembership.Proofs.Answers
import ClusterMembership.Simulation.Run
/-!
# Staged and immediate clusters

What a staged cluster answers depends on its effective membership only, a recovery apart.  `instant` forgets that changes
were staged: it takes the effective membership for the members and drops the plan.  It commutes with every order
(`instant_obey`), so a cluster that makes its changes at once is the image of one that stages them, answer by answer
(`twins_agree`).
-/
namespace ClusterMembership

/-- What a simulated cluster can be asked for. -/
inductive Order where
  | call (c : Call)
  | instruct (i : Instruction)

/-- The order is no recovery, which looks at the committed members. -/
def Order.IsPlain : Order → Prop
  | .call c => c.action ≠ .recover
  | .instruct _ => True

namespace SimulatedCluster

open Simulated

/-- The cluster after an order, and what it gives back. -/
def obey (s : SimulatedCluster) : Order → SimulatedCluster × Reply
  | .call c => ((s.perform c).1, .answered (s.perform c).2)
  | .instruct i => Simulation.instruct s i

/-- The cluster after some orders. -/
def run (s : SimulatedCluster) (orders : List Order) : SimulatedCluster := orders.foldl (fun s o => (s.obey o).1) s

/-- What the cluster gives back, order by order. -/
def replies (s : SimulatedCluster) : List Order → List Reply
  | [] => []
  | o :: orders => (s.obey o).2 :: (s.obey o).1.replies orders

/-- The cluster that has made at once what this one has planned. -/
def instant (s : SimulatedCluster) : SimulatedCluster := { s with stages := false, members := s.effective, plan := [] }

variable {s : SimulatedCluster}

theorem instant_change (h : s.Orderly) (x : Change) : s.instant.change x = (s.change x).instant := by
  have he : applyChange s.effective x = (s.change x).effective := (effective_change h x).symm
  calc s.instant.change x
    _ = { s.instant with members := applyChange s.effective x } := rfl
    _ = { s.instant with members := (s.change x).effective } := by rw [he]
    _ = (s.change x).instant := by
      unfold change
      split <;> rfl

theorem instant_takeFailure (s : SimulatedCluster) (a : Action) :
    s.instant.takeFailure a = ((s.takeFailure a).1.instant, (s.takeFailure a).2) := by
  have ho : s.instant.outstanding a = s.outstanding a := rfl
  have hf : s.instant.failAlways = s.failAlways := rfl
  unfold takeFailure
  rw [ho, hf]
  split
  · rfl
  · split <;> rfl

theorem objection?_instant {c : Call} (hc : c.action ≠ .recover) : s.instant.objection? c = s.objection? c := by
  cases c with
  | recover failed sponsor => exact absurd rfl hc
  | _ => rfl

theorem instant_carryOut (h : s.Orderly) {c : Call} (hc : c.action ≠ .recover) :
    s.instant.carryOut c = (s.carryOut c).instant := by
  cases c with
  | join t a credentials => exact instant_change h (.join a)
  | leave t leaving => exact instant_change h (.leave leaving.address)
  | recover failed sponsor => exact absurd rfl hc
  | _ => rfl

theorem instant_answer (h : s.Orderly) {c : Call} (hc : c.action ≠ .recover) :
    s.instant.answer c = ((s.answer c).1.instant, (s.answer c).2) := by
  have ht := instant_takeFailure s c.action
  rcases takeFailure_cases s c.action with he | ⟨counters, he⟩
  · rw [he] at ht
    have ho : s.instant.objection? c = s.objection? c := objection?_instant hc
    simp only [answer, ht, he, ho]
    cases s.objection? c with
    | none => exact congrArg (·, none) (instant_carryOut h hc)
    | some why => rfl
  · rw [he] at ht
    simp only [answer, ht, he]

theorem instant_perform (h : s.Orderly) {c : Call} (hc : c.action ≠ .recover) :
    s.instant.perform c = ((s.perform c).1.instant, (s.perform c).2) := instant_answer (s := s.record c) h hc

theorem instant_instruct (s : SimulatedCluster) (i : Instruction) :
    Simulation.instruct s.instant i = ((Simulation.instruct s i).1.instant, (Simulation.instruct s i).2) := by
  cases i <;> rfl

theorem orderly_instruct (h : s.Orderly) (i : Instruction) : (Simulation.instruct s i).1.Orderly := by
  cases i <;> exact h

/-- **An order does to the instant cluster what it does to the staged one**, and gets the same back. -/
theorem instant_obey (h : s.Orderly) {o : Order} (ho : o.IsPlain) :
    s.instant.obey o = ((s.obey o).1.instant, (s.obey o).2) := by
  cases o with
  | call c =>
    show ((s.instant.perform c).1, Reply.answered (s.instant.perform c).2) = _
    rw [instant_perform h ho]
    rfl
  | instruct i => exact instant_instruct s i

theorem orderly_obey (h : s.Orderly) (o : Order) : (s.obey o).1.Orderly := by
  cases o with
  | call c => exact orderly_perform h c
  | instruct i => exact orderly_instruct h i

theorem orderly_run (h : s.Orderly) (orders : List Order) : (s.run orders).Orderly := by
  induction orders generalizing s with
  | nil => exact h
  | cons o orders ih => exact ih (orderly_obey h o)

theorem instant_run (h : s.Orderly) {orders : List Order} (ho : ∀ o ∈ orders, o.IsPlain) :
    s.instant.run orders = (s.run orders).instant ∧ s.instant.replies orders = s.replies orders := by
  induction orders generalizing s with
  | nil => exact ⟨rfl, rfl⟩
  | cons o orders ih =>
    have he := instant_obey h (ho o List.mem_cons_self)
    obtain ⟨hr, hp⟩ := ih (orderly_obey h o) (fun o' h' => ho o' (List.mem_cons_of_mem o h'))
    constructor
    · show (s.instant.obey o).1.run orders = _
      rw [he]
      exact hr
    · show (s.instant.obey o).2 :: (s.instant.obey o).1.replies orders = _
      rw [he]
      exact congrArg _ hp

/-- **A commit and a bootstrap leave nothing planned**, where they succeed. -/
theorem plan_perform_eq_nil {c : Call} (hc : c.action = .commit ∨ c.action = .bootstrap) (hs : (s.perform c).2 = none) :
    (s.perform c).1.plan = [] := by
  rcases perform_cases s c with ⟨-, hp⟩ | ⟨s', why, hp, -, -⟩
  · rw [hp]
    cases c with
    | bootstrap node => rfl
    | commit t => rfl
    | _ => rcases hc with hc | hc <;> cases hc
  · rw [hp] at hs; cases hs

end SimulatedCluster

/-- **A cluster that stages its changes and one that makes them at once answer alike.**  Whatever the two are asked for,
recoveries apart, they give back the same; the effective membership of the one is the membership of the other, which
never has anything planned, and the same nodes have been made coordinators.  A commit or a bootstrap that succeeds leaves
the two with the same members and nothing planned. -/
theorem twins_agree (orders : List Order) (ho : ∀ o ∈ orders, o.IsPlain) :
    let staged : SimulatedCluster := { stages := true }
    let immediate : SimulatedCluster := { stages := false }
    staged.replies orders = immediate.replies orders ∧
    (staged.run orders).effective = (immediate.run orders).members ∧
    (staged.run orders).initialized = (immediate.run orders).initialized ∧ (immediate.run orders).plan = [] ∧
    ∀ c, c.action = .commit ∨ c.action = .bootstrap → ((staged.run orders).perform c).2 = none →
      ((immediate.run orders).perform c).2 = none ∧
      ((staged.run orders).perform c).1.members = ((immediate.run orders).perform c).1.members ∧
      ((staged.run orders).perform c).1.plan = [] := by
  intro staged immediate
  have horderly : staged.Orderly := fun h => by cases h
  obtain ⟨hrun, hreplies⟩ := SimulatedCluster.instant_run horderly ho
  have himage : immediate.run orders = (staged.run orders).instant := hrun
  refine ⟨hreplies.symm, ?_, ?_, ?_, fun c hc hs => ?_⟩
  · rw [himage]; rfl
  · rw [himage]; rfl
  · rw [himage]; rfl
  · have hplain : c.action ≠ .recover := by rcases hc with hc | hc <;> rw [hc] <;> decide
    have hp := SimulatedCluster.instant_perform (SimulatedCluster.orderly_run horderly orders) hplain
    have hnil := SimulatedCluster.plan_perform_eq_nil hc hs
    rw [himage, hp]
    exact ⟨hs, (SimulatedCluster.effective_of_plan_eq_nil hnil).symm, hnil⟩

/-- The second node joins, the commit of that is made to fail, and the first node leaves before the next commit. -/
def relieved (a b : Target) : List Order :=
  [.call (.bootstrap a), .call (.join a b.address b.credentials), .instruct (.failNext .commit), .call (.commit a),
    .call (.leave b a), .call (.leave a b)]

/-- A cluster after these orders. -/
def relievedTwin (stages : Bool) (a b : Target) : SimulatedCluster :=
  ({ stages } : SimulatedCluster).run (relieved a b)

/-- The staged cluster still has the first node for a member, and answers as though only the second were left. -/
theorem twins_agree_relieved :
    let a : Target := ⟨⟨"a"⟩, ⟨"h", 1⟩, ⟨"u", "p"⟩⟩
    let b : Target := ⟨⟨"b"⟩, ⟨"h", 2⟩, ⟨"u", "p"⟩⟩
    (∀ o ∈ relieved a b, o.IsPlain) ∧ (relievedTwin true a b).members = [a.address] ∧
      (relievedTwin false a b).members = [b.address] ∧ (relievedTwin true a b).effective = [b.address] ∧
      ((relievedTwin true a b).perform (.commit b)).1.members = [b.address] := by
  intro a b
  have ho : ∀ o ∈ relieved a b, o.IsPlain := by simp [relieved, Order.IsPlain, Call.action]
  have hmembers : (relievedTwin false a b).members = [b.address] := by decide +kernel
  have hok : ((relievedTwin true a b).perform (.commit b)).2 = none := by decide +kernel
  have hmade : ((relievedTwin false a b).perform (.commit b)).1.members = [b.address] := by decide +kernel
  obtain ⟨-, heffective, -, -, hcommit⟩ := twins_agree (relieved a b) ho
  obtain ⟨-, hsame, -⟩ := hcommit (.commit b) (.inl rfl) hok
  refine ⟨ho, by decide +kernel, hmembers, heffective.trans hmembers, ?_⟩
  -- unfolded first, or the two runs are evaluated to see that they agree
  unfold relievedTwin at hmade ⊢
  rw [hsame, hmade]

/-- A recovery does tell the two apart: it wants a sponsor that is a member already. -/
example :
    let a : Target := ⟨⟨"a"⟩, ⟨"h", 1⟩, ⟨"u", "p"⟩⟩
    let b : Target := ⟨⟨"b"⟩, ⟨"h", 2⟩, ⟨"u", "p"⟩⟩
    ((relievedTwin false a b).perform (.recover a b)).2 = none ∧
      ((relievedTwin true a b).perform (.recover a b)).2 = some (.recoveryFailed "sponsor h:2 is not a member") := by
  decide +kernel

end ClusterMembership
