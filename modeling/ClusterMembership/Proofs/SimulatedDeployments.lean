import ClusterMembership.Proofs.Deployments
import ClusterMembership.Proofs.Simulations
/-!
# Simulations go through the turns of a deployment

Whatever a simulation does over a simulated backing cluster that only its controller calls, it does as a row of turns of
the deployment that it stands for (`reaches_run`): acts are changes of the group and the signals, and every call is made
and answered in one turn.  So what holds at every moment of a deployment holds after every step of a simulation.
-/
namespace ClusterMembership

namespace Deployment

/-- The deployment can come to be the other one. -/
def Reaches (d d' : Deployment) : Prop := ∃ turns, d.run turns = d'

theorem Reaches.refl (d : Deployment) : d.Reaches d := ⟨[], rfl⟩

theorem Reaches.step {d d' : Deployment} (h : d.Reaches d') (t : Turn) : d.Reaches (d'.step t) := by
  obtain ⟨turns, rfl⟩ := h
  exact ⟨turns ++ [t], List.foldl_append⟩

end Deployment

/-- The simulation stands where the deployment does. -/
structure Simulation.Shows (s : Simulation) (d : Deployment) : Prop where
  cluster : s.cluster = d.moment.cluster
  backing : s.backing = .simulated d.backing

namespace Simulation

variable {s s' : Simulation} {d d₀ : Deployment} {m : Moment}

theorem Shows.congr (h : s.Shows d) (hc : s'.cluster = s.cluster) (hb : s'.backing = s.backing) : s'.Shows d :=
  ⟨hc.trans h.cluster, hb.trans h.backing⟩

/-! ## What the deployment knows nothing of -/

theorem Shows.register (h : s.Shows d) (handle : String) (n : Node) : (s.register handle n).Shows d := by
  unfold Simulation.register
  split
  · exact h
  · exact h.congr rfl rfl

theorem Shows.announce (h : s.Shows d) (notices : List Notice) : (s.announce notices).Shows d := by
  unfold Simulation.announce
  split
  · exact h
  · exact h.congr rfl rfl

theorem Shows.listen (h : s.Shows d) : s.listen.Shows d := h.congr (cluster_listen s) (backing_listen s)

theorem Shows.idle (h : s.Shows d) : s.idle.Shows d := h.congr (cluster_idle s) (backing_idle s)

/-! ## Acts -/

/-- The deployment has come, by turns, to the moment, and the simulation stands where it does. -/
def Stages (d₀ : Deployment) (s : Simulation) (m : Moment) : Prop := ∃ d, d₀.Reaches d ∧ d.moment = m ∧ s.Shows d

/-- The deployment comes to show the simulation, with the work in hand as it was. -/
def Follows (d₀ : Deployment) (m : Moment) (s : Simulation) : Prop := ∃ m', m.Drifts m' ∧ Stages d₀ s m'

theorem Stages.follows (h : Stages d₀ s m) : Follows d₀ m s := ⟨m, .refl m, h⟩

/-- What happens to the controller is shown, if it leaves the work in hand alone and is no answer. -/
theorem Stages.event (h : Stages d₀ s m) {e : Event} (he : ∀ a, e ≠ .answer a) (hd : m.Drifts (m.step e)) {c : Cluster}
    (hc : c = (m.step e).cluster) (notices : List Notice) :
    Follows d₀ m (Simulation.announce { s with cluster := c } notices) := by
  obtain ⟨d, hreach, rfl, hs⟩ := h
  have hstep := d.step_event he
  refine ⟨_, hd, d.step (.event e), hreach.step _, by rw [hstep], Shows.announce ⟨?_, ?_⟩ notices⟩
  · rw [hstep]; exact hc
  · rw [hstep]; exact hs.backing

theorem Stages.enter (h : Stages d₀ s m) (n : Node) : Follows d₀ m (s.enter n) := by
  refine h.event (e := .enter n) (fun a ha => by cases ha) (.refl m) ?_ _
  obtain ⟨d, -, rfl, hs⟩ := h
  rw [hs.cluster]; rfl

theorem Stages.congr (h : Stages d₀ s m) (hs : ∀ d, s.Shows d → s'.Shows d) : Stages d₀ s' m := by
  obtain ⟨d, hreach, hm, h⟩ := h
  exact ⟨d, hreach, hm, hs d h⟩

theorem Follows.congr (h : Follows d₀ m s) (hs : ∀ d, s.Shows d → s'.Shows d) : Follows d₀ m s' := by
  obtain ⟨m', hd, h⟩ := h
  exact ⟨m', hd, h.congr hs⟩

/-- **An act changes the group or the signals**, or nothing that the deployment knows of. -/
theorem follows_act (h : Stages d₀ s m) (a : Act) : Follows d₀ m (s.act a).1 := by
  have hcluster : s.cluster = m.cluster := by
    obtain ⟨d, -, rfl, hs⟩ := h
    exact hs.cluster
  cases a with
  | add a =>
    simp only [Simulation.act]
    split
    · exact h.follows.congr (fun d hs => hs.register a.handle _)
    · have hm : Stages d₀ (s.make a).2 m := h.congr (fun d hs => hs.congr rfl rfl)
      exact (hm.enter (s.make a).1).congr (fun d hs => hs.register a.handle _)
  | create a =>
    exact h.follows.congr (fun d hs => Shows.register (s := (s.make a).2) (hs.congr rfl rfl) a.handle (s.make a).1)
  | addExisting handle => exact withNode_induction h.follows handle (fun n => h.enter n)
  | remove id => exact h.event (e := .depart id) (fun a ha => by cases ha) (.refl m) (by rw [hcluster]; rfl) _
  | signal handle sig value =>
    refine withNode_induction h.follows handle (fun n => ?_)
    exact h.event (e := .report n sig value) (c := (s.cluster.report n sig value).1) (fun a ha => by cases ha)
      (.refl m) (by rw [hcluster]; rfl) (s.cluster.report n sig value).2
  | setStarted value =>
    exact h.event (e := .mark value) (fun a ha => by cases ha) (.refl m) (by rw [hcluster]; rfl) []
  | readFlags handle => exact withNode_induction h.follows handle (fun _ => h.follows)
  | readTarget handle => exact withNode_induction h.follows handle (fun _ => h.follows)
  | publish handle form =>
    exact withNode_induction h.follows handle (fun n => h.follows.congr (fun d hs => hs.announce [form.about n]))
  | notify handle form =>
    exact withNode_induction h.follows handle (fun _ => h.follows.congr (fun d hs => hs.congr rfl rfl))
  | _ => exact h.follows.congr (fun d hs => hs.congr rfl rfl)

/-! ## Calls -/

/-- **A call is made and answered in one turn.** -/
theorem stages_respond (h : Stages d₀ s m) {c : Call} (hc : m.activity.call? = some c) {s' : Simulation}
    (hs' : ∀ d, Shows { s with backing := (s.backing.performWithin s.cluster.config.actionTimeout c).1 } d → s'.Shows d) :
    Stages d₀
      { s' with cluster := (m.answer (s.backing.performWithin s.cluster.config.actionTimeout c).2.1).cluster }
      (m.answer (s.backing.performWithin s.cluster.config.actionTimeout c).2.1) := by
  obtain ⟨d, hreach, rfl, hs⟩ := h
  rw [hs.backing, hs.cluster] at hs' ⊢
  have hr := Deployment.respond_of_call? hc
  have hshown := hs' ⟨d.moment, (d.backing.performWithin d.moment.cluster.config.actionTimeout c).1⟩ ⟨rfl, rfl⟩
  refine ⟨d.step .respond, hreach.step .respond, ?_, ?_, ?_⟩
  · rw [Deployment.step, hr]; rfl
  · rw [Deployment.step, hr]; rfl
  · rw [Deployment.step, hr]; exact hshown.backing

/-- **A deployment stays with its simulation**, if nobody else calls the backing cluster. -/
theorem stages_lasting (d₀ : Deployment) : Lasting (fun _ => True) False (Stages d₀) where
  cluster := fun h => by
    obtain ⟨d, -, rfl, hs⟩ := h
    exact hs.cluster
  hooks := fun _ _ _ _ _ => trivial
  aside := fun h _ _ _ _ => h.congr (fun d hs => hs.congr rfl rfl)
  act := fun h _ => follows_act h _
  listen := fun h => h.congr (fun d hs => hs.listen)
  begins := fun h => by
    obtain ⟨d, hreach, rfl, hs⟩ := h
    exact ⟨d.step (.event .reconcile), hreach.step _, rfl, rfl, hs.backing⟩
  recovers := fun h failed sponsor => by
    obtain ⟨d, hreach, rfl, hs⟩ := h
    refine ⟨d.step (.event (.recover failed sponsor)), hreach.step _, rfl, ?_, hs.backing⟩
    exact hs.cluster.trans (Moment.cluster_recover d.moment failed sponsor).symm
  answers := fun h hc s' hs' => by
    refine stages_respond h hc (fun d hs => ?_)
    rcases hs' with rfl | rfl
    · exact hs
    · exact hs.idle
  starts := fun h _ => h.congr (fun d hs => hs.congr rfl rfl)
  stops := fun h _ => h.congr (fun d hs => hs.congr rfl rfl)
  instructs := fun h hb i => by
    obtain ⟨d, hreach, rfl, hs⟩ := h
    rw [hs.backing] at hb
    cases hb
    exact ⟨d.step (.instruct i), hreach.step _, rfl, hs.cluster, rfl⟩
  responds := fun h hb _ => by
    obtain ⟨d, -, -, hs⟩ := h
    rw [hs.backing] at hb
    cases hb
  calls := fun h => h.elim

/-- **Every state of a simulation is one that a deployment can come to**, with nothing in hand. -/
theorem reaches_run (config : Config) (tracker : TrackerConfig) (capacity : Nat) (group : String) (stages : Bool)
    {steps : List Step} (ht : ∀ t ∈ steps, ∀ c, t ≠ .call c) :
    let d₀ := Deployment.fresh config stages group
    ∀ e ∈ (start config tracker capacity group (.simulated { stages })).run steps, ∃ turns,
      e.after.Shows (d₀.run turns) ∧ (d₀.run turns).moment.activity = .resting := by
  intro d₀ e he
  have hfits : ∀ t ∈ steps, t.Fits (fun _ => True) False := fun t hmem => by
    cases t with
    | call c => exact absurd rfl (ht _ hmem c)
    | batch as => exact fun _ _ => trivial
    | arm count as => exact fun _ _ => trivial
    | _ => trivial
  have hstart : Stages d₀ (start config tracker capacity group (.simulated { stages })) d₀.moment :=
    ⟨d₀, .refl d₀, rfl, rfl, rfl⟩
  obtain ⟨m, ⟨d, ⟨turns, rfl⟩, rfl, hs⟩, hr⟩ := (stages_lasting d₀).run hfits hstart rfl e he
  exact ⟨turns, hs, hr⟩

end Simulation

end ClusterMembership
