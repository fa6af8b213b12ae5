import ClusterMembership.Proofs.Incidents
import ClusterMembership.Proofs.Simulations
/-!
# Simulations make incidents of a simulated cluster

Acts, passes and the tracker leave the backing cluster alone but for the calls that a pass makes, and each of these is a
history, as are the calls and the instructions from outside.  So a simulated cluster is, after every step of a simulation,
what some history has made of a new one (`lives_run`).
-/
namespace ClusterMembership.Simulation

variable {s : Simulation} {m : Moment}

theorem backing_register (s : Simulation) (handle : String) (n : Node) : (s.register handle n).backing = s.backing := by
  unfold register
  split <;> rfl

theorem backing_announce (s : Simulation) (notices : List Notice) : (s.announce notices).backing = s.backing := by
  unfold announce
  split <;> rfl

theorem backing_act (s : Simulation) (a : Act) : (s.act a).1.backing = s.backing := by
  cases a with
  | add a =>
    simp only [act]
    split
    · exact backing_register s a.handle _
    · exact (backing_register _ _ _).trans (backing_announce _ _)
  | create a => exact backing_register _ _ _
  | addExisting handle =>
    exact withNode_induction (Q := (·.backing = s.backing)) rfl handle fun n => backing_announce _ _
  | remove id => exact backing_announce _ _
  | signal handle sig value =>
    exact withNode_induction (Q := (·.backing = s.backing)) rfl handle fun n => backing_announce _ _
  | readFlags handle => exact withNode_induction (Q := (·.backing = s.backing)) rfl handle fun _ => rfl
  | readTarget handle => exact withNode_induction (Q := (·.backing = s.backing)) rfl handle fun _ => rfl
  | publish handle form =>
    exact withNode_induction (Q := (·.backing = s.backing)) rfl handle fun n => backing_announce _ _
  | notify handle form => exact withNode_induction (Q := (·.backing = s.backing)) rfl handle fun _ => rfl
  | _ => rfl

/-- A history has made the simulation's backing cluster of a new one. -/
structure Lives (stages : Bool) (s : Simulation) (m : Moment) : Prop where
  cluster : s.cluster = m.cluster
  backing : ∃ history, s.backing = .simulated (({ stages } : SimulatedCluster).live history)

theorem Lives.append {stages : Bool} {b : SimulatedCluster} (h : Lives stages s m) (hb : s.backing = .simulated b)
    (more : List Incident) : Lives stages { s with backing := .simulated (b.live more) } m := by
  obtain ⟨hcluster, history, hlive⟩ := h
  rw [hlive] at hb
  cases hb
  exact ⟨hcluster, history ++ more, by rw [SimulatedCluster.live_append]⟩

theorem lives_lasting (stages : Bool) : Lasting (fun _ => True) True (Lives stages) where
  cluster := Lives.cluster
  hooks := fun _ _ _ _ _ => trivial
  aside := fun h _ _ _ _ => ⟨h.cluster, h.backing⟩
  act := fun {s m a} h _ => by
    refine ⟨{ m with cluster := (s.act a).1.cluster }, ⟨rfl, rfl⟩, rfl, ?_⟩
    rw [backing_act]
    exact h.backing
  listen := fun h => ⟨(cluster_listen _).trans h.cluster, by rw [backing_listen]; exact h.backing⟩
  begins := fun h => ⟨rfl, h.backing⟩
  recovers := fun h failed sponsor => ⟨h.cluster.trans (Moment.cluster_recover _ failed sponsor).symm, h.backing⟩
  answers := fun {s m c} h _ s' hs' => by
    obtain ⟨b, hb⟩ : ∃ b, s.backing = .simulated b := ⟨_, h.backing.choose_spec⟩
    have hcalled := (h.append hb (b.course s.cluster.config.actionTimeout c)).backing
    rw [← SimulatedCluster.performWithin_fst] at hcalled
    refine ⟨rfl, ?_⟩
    rcases hs' with rfl | rfl
    · rw [hb]; exact hcalled
    · rw [backing_idle, hb]; exact hcalled
  starts := fun h _ => ⟨h.cluster, h.backing⟩
  stops := fun h _ => ⟨h.cluster, h.backing⟩
  instructs := fun h hb i => h.append hb [.instruction i]
  responds := fun h hb _ => by
    obtain ⟨history, hlive⟩ := h.backing
    rw [hlive] at hb
    cases hb
  calls := fun _ _ _ _ h hb c => h.append hb [.arrival c, .landing c]

/-- **The simulated cluster of a simulation is what a history has made of a new one**, whoever calls it. -/
theorem lives_run (config : Config) (tracker : TrackerConfig) (capacity : Nat) (group : String) (stages : Bool)
    (steps : List Step) : ∀ e ∈ (start config tracker capacity group (.simulated { stages })).run steps,
      ∃ history, e.after.backing = .simulated (({ stages } : SimulatedCluster).live history) := by
  intro e he
  have hfits : ∀ t ∈ steps, t.Fits (fun _ => True) True := fun t _ => by
    cases t with
    | batch as => exact fun _ _ => trivial
    | arm count as => exact fun _ _ => trivial
    | _ => trivial
  have hstart : Lives stages (start config tracker capacity group (.simulated { stages }))
      (.fresh config stages group) := ⟨rfl, [], rfl⟩
  obtain ⟨m, h, -⟩ := (lives_lasting stages).run hfits hstart rfl e he
  exact h.backing

end ClusterMembership.Simulation
