import ClusterMembership.Proofs.Simulations
import ClusterMembership.Proofs.Watches
/-!
# Simulations go through the occurrences of a watch

Whatever a simulation does in which nobody but the group and its nodes publishes notices, it does as a row of occurrences
of the watch that it stands for (`occurs_run`): the tracker, the backlog of its listener and the cluster are the same, and
the passes that the tracker has counted are those that the watch asked for.  So what is proved of every run of a watch
holds of what a simulation's tracker does, whatever other receivers the bus has.
-/
namespace ClusterMembership

/-! ## Other receivers -/

namespace Bus

variable {κ : Type} [DecidableEq κ] (b : Bus κ) {name other : κ}

theorem backlog?_unsubscribe_of_ne (h : name ≠ other) : (b.unsubscribe other).backlog? name = b.backlog? name := by
  simp only [backlog?, unsubscribe, List.find?_filter]
  congr 2
  funext r
  by_cases hr : r.1 = name
  · simp [hr, h]
  · simp [hr]

theorem backlog?_subscribe_of_ne (h : name ≠ other) : (b.subscribe other).backlog? name = b.backlog? name := by
  have hn : [(other, ({} : Backlog))].find? (·.1 = name) = none := by simp [Ne.symm h]
  rw [← b.backlog?_unsubscribe_of_ne h]
  simp only [backlog?, subscribe, List.find?_append, hn, Option.or_none]

theorem backlog?_setBacklog_of_ne (h : name ≠ other) (log : Backlog) :
    (b.setBacklog other log).backlog? name = b.backlog? name := by
  simp only [backlog?, setBacklog]
  induction b.receivers with
  | nil => rfl
  | cons r rs ih =>
    rw [List.map_cons, List.find?_cons, List.find?_cons]
    by_cases hr : r.1 = other
    · have hn : decide (r.1 = name) = false := decide_eq_false (fun hname => h (hname.symm.trans hr))
      have ho : decide (other = name) = false := decide_eq_false (Ne.symm h)
      simp only [if_pos hr, hn, ho]
      exact ih
    · simp only [hr, if_false]
      cases decide (r.1 = name) with
      | true => rfl
      | false => exact ih

theorem backlog?_receive_of_ne (h : name ≠ other) (limit : Nat) :
    (b.receive other limit).2.backlog? name = b.backlog? name ∧ (b.receive other limit).2.capacity = b.capacity := by
  unfold receive
  split
  · exact ⟨rfl, rfl⟩
  · exact ⟨b.backlog?_setBacklog_of_ne h _, rfl⟩

end Bus

/-! ## Handling a whole backlog -/

namespace Watch

/-- The other watch comes of the one in a row of occurrences. -/
def Reaches (w w' : Watch) : Prop := ∃ os, w.run os = w'

theorem Reaches.refl (w : Watch) : w.Reaches w := ⟨[], rfl⟩

theorem Reaches.run {w w' : Watch} (h : w.Reaches w') (os : List Occurrence) : w.Reaches (w'.run os) := by
  obtain ⟨before, rfl⟩ := h
  exact ⟨before ++ os, w.run_append before os⟩

theorem Reaches.step {w w' : Watch} (h : w.Reaches w') (o : Occurrence) : w.Reaches (w'.step o) := h.run [o]

end Watch

/-- The simulation shows the watch: its cluster, its tracker, and the backlog of its listener. -/
structure Simulation.Displays (s : Simulation) (w : Watch) : Prop where
  cluster : s.cluster = w.cluster
  tracker : s.tracker = w.tracker
  capacity : s.bus.capacity = w.bus.capacity
  backlog? : s.bus.backlog? .tracker = w.backlog?
  isListening : s.isListening = w.backlog?.isSome

namespace Simulation

variable {s s' : Simulation} {w w₀ : Watch} {m : Moment}

theorem Displays.congr (h : s.Displays w) (hc : s'.cluster = s.cluster) (ht : s'.tracker = s.tracker)
    (hb : s'.bus = s.bus) (hl : s'.isListening = s.isListening) : s'.Displays w :=
  ⟨hc.trans h.cluster, ht.trans h.tracker, by rw [hb]; exact h.capacity, by rw [hb]; exact h.backlog?,
    hl.trans h.isListening⟩

theorem Displays.register (h : s.Displays w) (handle : String) (n : Node) : (s.register handle n).Displays w := by
  unfold Simulation.register
  split
  · exact h
  · exact h.congr rfl rfl rfl rfl

/-- **What happens to the cluster is published** on the bus of the watch. -/
theorem Displays.event (h : s.Displays w) (e : Event) {c : Cluster} (hc : c = (w.moment.step e).cluster) :
    (Simulation.announce { s with cluster := c } (w.moment.notices e)).Displays (w.step (.event e)) := by
  have hbus : (Simulation.announce { s with cluster := c } (w.moment.notices e)).bus =
      (w.moment.notices e).foldl Bus.publish s.bus := by
    unfold announce
    split
    · next hn => rw [hn]; rfl
    · rfl
  have hrest : ∀ ns : List Notice, (Simulation.announce { s with cluster := c } ns).cluster = c ∧
      (Simulation.announce { s with cluster := c } ns).tracker = s.tracker ∧
      (Simulation.announce { s with cluster := c } ns).isListening = s.isListening := fun ns => by
    cases ns <;> exact ⟨rfl, rfl, rfl⟩
  obtain ⟨hcluster, htracker, hlistening⟩ := hrest (w.moment.notices e)
  refine ⟨hcluster.trans hc, htracker.trans h.tracker, ?_, ?_, ?_⟩
  · rw [hbus, Bus.capacity_foldl_publish, h.capacity]
    exact (Bus.capacity_foldl_publish w.bus _).symm
  · rw [hbus, Bus.backlog?_foldl_publish, h.capacity, h.backlog?, Watch.backlog?_event]
  · rw [hlistening, h.isListening, Watch.backlog?_event, Option.isSome_map]

/-- What hearing some items leaves alone. -/
theorem hears_frame (items : List Received) (s : Simulation) :
    (items.foldl hear s).bus = s.bus ∧ (items.foldl hear s).isListening = s.isListening ∧
      (items.foldl hear s).hooks = s.hooks := by
  induction items generalizing s with
  | nil => exact ⟨rfl, rfl, rfl⟩
  | cons r items ih => exact ih (s.hear r)

/-- **A backlog is handled item by item**, whatever the tracker is told of it. -/
theorem displays_hears (count : Nat) {s : Simulation} {w : Watch} {log : Backlog} (hb : w.backlog? = some log)
    (hc : s.cluster = w.cluster) (ht : s.tracker = w.tracker) :
    let w' := w.run (List.replicate count .listen)
    ((log.drain count).1.foldl hear s).tracker = w'.tracker ∧ w'.backlog? = some (log.drain count).2 ∧
      w'.moment = w.moment ∧ w'.bus.capacity = w.bus.capacity := by
  induction count generalizing s w log with
  | zero => exact ⟨ht, hb, rfl, rfl⟩
  | succ count ih =>
    have htaken : w.taken? .listen = log.take? := by rw [Watch.taken?, hb]; rfl
    rw [Backlog.drain]
    cases hl : log.take? with
    | none =>
      rw [hl] at htaken
      have hsame := w.step_listen_of_none htaken
      have hdrain : log.drain count = ([], log) := by
        cases count with
        | zero => rfl
        | succ count => rw [Backlog.drain, hl]
      have := ih hb hc ht
      rw [hdrain] at this
      rw [List.replicate_succ, Watch.run, List.foldl_cons, hsame]
      exact this
    | some taken =>
      obtain ⟨r, log'⟩ := taken
      rw [hl] at htaken
      obtain ⟨hafter, htracker, -⟩ := w.listen_taken htaken
      have hmoment : (w.step .listen).moment = w.moment := w.moment_step .listen
      have hcapacity : (w.step .listen).bus.capacity = w.bus.capacity := by rw [w.step_listen htaken]; rfl
      obtain ⟨h₁, h₂, h₃, h₄⟩ := ih (s := s.hear r) hafter
        (hc.trans (congrArg Moment.cluster hmoment).symm)
        (by rw [htracker, ← hc, ← ht]; rfl)
      exact ⟨h₁, h₂, h₃.trans hmoment, h₄.trans hcapacity⟩

/-- **The listener's task is a row of handlings.** -/
theorem Displays.listen (h : s.Displays w) :
    ∃ count, s.listen.Displays (w.run (List.replicate count .listen)) ∧
      (w.run (List.replicate count .listen)).moment = w.moment := by
  unfold Simulation.listen
  rw [h.backlog?]
  cases hb : w.backlog? with
  | none => exact ⟨0, h, rfl⟩
  | some log =>
    have hbus : s.bus.receive .tracker log.size =
        ((log.drain log.size).1, s.bus.setBacklog .tracker (log.drain log.size).2) := by
      rw [Bus.receive, h.backlog?, hb]
    simp only [hbus]
    obtain ⟨htracker, hafter, hmoment, hcapacity⟩ := displays_hears log.size hb
      (s := { s with bus := s.bus.setBacklog .tracker (log.drain log.size).2 }) h.cluster h.tracker
    have hcluster := cluster_hears (log.drain log.size).1
      { s with bus := s.bus.setBacklog .tracker (log.drain log.size).2 }
    obtain ⟨hb', hl', -⟩ := hears_frame (log.drain log.size).1
      { s with bus := s.bus.setBacklog .tracker (log.drain log.size).2 }
    refine ⟨log.size, ⟨?_, htracker, ?_, ?_, ?_⟩, hmoment⟩
    · exact hcluster.trans (h.cluster.trans (congrArg Moment.cluster hmoment).symm)
    · rw [hb', hcapacity]; exact h.capacity
    · rw [hb', hafter, Bus.backlog?_setBacklog, h.backlog?, hb]; rfl
    · rw [hl', hafter]
      exact h.isListening.trans (by rw [hb]; rfl)

/-! ## Acts -/

/-- An act that publishes nothing and tells the tracker nothing past the group and its nodes. -/
def Genuine : Act → Prop
  | .publish .. => False
  | .notify .. => False
  | _ => True

/-- The watch has come to the moment, and the simulation displays it; its hooks only hold genuine acts. -/
def Views (w₀ : Watch) (s : Simulation) (m : Moment) : Prop :=
  FitHooks Genuine s.hooks ∧ ∃ w, w₀.Reaches w ∧ w.moment = m ∧ s.Displays w

theorem Views.congr (h : Views w₀ s m) (hh : s'.hooks = s.hooks) (hs : ∀ w, s.Displays w → s'.Displays w) :
    Views w₀ s' m := by
  obtain ⟨hhooks, w, hreach, hm, hw⟩ := h
  exact ⟨by rw [hh]; exact hhooks, w, hreach, hm, hs w hw⟩

theorem Views.cluster (h : Views w₀ s m) : s.cluster = m.cluster := by
  obtain ⟨-, w, -, rfl, hw⟩ := h
  exact hw.cluster

theorem hooks_announce (s : Simulation) (notices : List Notice) : (s.announce notices).hooks = s.hooks := by
  cases notices <;> rfl

/-- What happens to the cluster is viewed. -/
theorem Views.event (h : Views w₀ s m) (e : Event) (notices : List Notice) {c : Cluster} (hc : c = (m.step e).cluster)
    (hn : notices = m.notices e) : Views w₀ (Simulation.announce { s with cluster := c } notices) (m.step e) := by
  obtain ⟨hhooks, w, hreach, rfl, hw⟩ := h
  subst hn
  exact ⟨by rw [hooks_announce]; exact hhooks, w.step (.event e), hreach.step _, rfl, hw.event e hc⟩

theorem Views.enter (h : Views w₀ s m) (n : Node) : Views w₀ (s.enter n) (m.step (.enter n)) :=
  h.event (.enter n) (s.cluster.addMember n).2 (by rw [h.cluster]; rfl) (by rw [h.cluster]; rfl)

/-- The view goes on with the work in hand as it was. -/
def Pans (w₀ : Watch) (m : Moment) (s : Simulation) : Prop := ∃ m', m.Drifts m' ∧ Views w₀ s m'

theorem Views.pans (h : Views w₀ s m) : Pans w₀ m s := ⟨m, .refl m, h⟩

theorem hooks_register (s : Simulation) (handle : String) (n : Node) : (s.register handle n).hooks = s.hooks := by
  unfold register
  split <;> rfl

theorem Views.register (h : Views w₀ s m) (handle : String) (n : Node) : Views w₀ (s.register handle n) m :=
  h.congr (hooks_register s handle n) (fun _ hw => hw.register handle n)

/-- What becomes of the bus for another receiver is nothing to the listener. -/
theorem Views.rebus (h : Views w₀ s m) (bus : Bus Receiver) (hc : bus.capacity = s.bus.capacity)
    (hb : bus.backlog? .tracker = s.bus.backlog? .tracker) : Views w₀ { s with bus := bus } m :=
  h.congr rfl fun _ hw => ⟨hw.cluster, hw.tracker, hc.trans hw.capacity, hb.trans hw.backlog?, hw.isListening⟩

/-- **A genuine act happens to the cluster or changes the tracker's configuration**, or is nothing to the watch. -/
theorem pans_act (h : Views w₀ s m) {a : Act} (ha : Genuine a) : Pans w₀ m (s.act a).1 := by
  have hcluster := h.cluster
  cases a with
  | add a =>
    simp only [Simulation.act]
    split
    · exact (h.register a.handle _).pans
    · have hm : Views w₀ (s.make a).2 m := h.congr rfl (fun _ hw => hw.congr rfl rfl rfl rfl)
      exact ⟨m.step (.enter (s.make a).1), ⟨rfl, rfl⟩, (hm.enter (s.make a).1).register a.handle (s.make a).1⟩
  | create a =>
    have hm : Views w₀ (s.make a).2 m := h.congr rfl (fun _ hw => hw.congr rfl rfl rfl rfl)
    exact (hm.register a.handle (s.make a).1).pans
  | addExisting handle => exact withNode_induction h.pans handle (fun n => ⟨m.step (.enter n), ⟨rfl, rfl⟩, h.enter n⟩)
  | remove id =>
    exact ⟨m.step (.depart id), ⟨rfl, rfl⟩,
      h.event (.depart id) (s.cluster.removeMember id).2 (by rw [hcluster]; rfl) (by rw [hcluster]; rfl)⟩
  | signal handle sig value =>
    refine withNode_induction h.pans handle (fun n => ⟨m.step (.report n sig value), ⟨rfl, rfl⟩, ?_⟩)
    exact h.event (.report n sig value) (s.cluster.report n sig value).2 (c := (s.cluster.report n sig value).1)
      (by rw [hcluster]; rfl) rfl
  | setStarted value =>
    exact ⟨m.step (.mark value), ⟨rfl, rfl⟩, h.event (.mark value) [] (by rw [hcluster]; rfl) rfl⟩
  | readFlags handle => exact withNode_induction h.pans handle (fun _ => h.pans)
  | readTarget handle => exact withNode_induction h.pans handle (fun _ => h.pans)
  | subscribe name =>
    have hne : Receiver.tracker ≠ .named name := fun he => by cases he
    exact (h.rebus (s.bus.subscribe (.named name)) rfl (s.bus.backlog?_subscribe_of_ne hne)).pans
  | unsubscribe name =>
    have hne : Receiver.tracker ≠ .named name := fun he => by cases he
    exact (h.rebus (s.bus.unsubscribe (.named name)) rfl (s.bus.backlog?_unsubscribe_of_ne hne)).pans
  | receive name limit =>
    have hne : Receiver.tracker ≠ .named name := fun he => by cases he
    obtain ⟨hb, hc⟩ := s.bus.backlog?_receive_of_ne hne
      (limit.getD (((s.bus.backlog? (.named name)).map Backlog.size).getD 0))
    exact (h.rebus _ hc hb).pans
  | configure c =>
    obtain ⟨hhooks, w, hreach, rfl, hw⟩ := h
    exact ⟨w.moment, .refl _, hhooks, w.step (.configure c), hreach.step _, rfl, hw.cluster,
      congrArg (fun t => { t with config := c }) hw.tracker, hw.capacity, hw.backlog?, hw.isListening⟩
  | publish handle form => exact ha.elim
  | notify handle form => exact ha.elim
  | _ => exact h.pans

/-! ## The whole of it -/

theorem hooks_listen (s : Simulation) : s.listen.hooks = s.hooks := by
  unfold Simulation.listen
  split
  · rfl
  · exact (hears_frame _ _).2.2

theorem Views.listen (h : Views w₀ s m) : Views w₀ s.listen m := by
  obtain ⟨hhooks, w, hreach, rfl, hw⟩ := h
  obtain ⟨count, hlisten, hmoment⟩ := hw.listen
  exact ⟨by rw [hooks_listen]; exact hhooks, _, hreach.run _, hmoment, hlisten⟩

theorem Views.idle (h : Views w₀ s m) : Views w₀ s.idle m := by
  unfold Simulation.idle
  split
  · exact Views.listen (h.congr rfl (fun _ hw => hw.congr rfl rfl rfl rfl))
  · exact h

/-- **A watch stays with its simulation**, whatever backing cluster there is and whoever calls it. -/
theorem views_lasting (w₀ : Watch) : Lasting Genuine True (Views w₀) where
  cluster := Views.cluster
  hooks := fun h => h.1
  aside := fun h _ _ _ hh => ⟨hh, by
    obtain ⟨-, w, hreach, hm, hw⟩ := h
    exact ⟨w, hreach, hm, hw.congr rfl rfl rfl rfl⟩⟩
  act := fun h ha => pans_act h ha
  listen := Views.listen
  begins := fun h => h.event .reconcile [] rfl rfl
  recovers := fun h failed sponsor => by
    have hs := h.event (.recover failed sponsor) [] rfl rfl
    refine hs.congr rfl (fun w hw => hw.congr ?_ rfl rfl rfl)
    exact h.cluster.trans (Moment.cluster_recover _ failed sponsor).symm
  answers := fun {s m c} h _ s' hs' => by
    have hv : Views w₀ s' m := by
      have hb : Views w₀ { s with backing := (s.backing.performWithin s.cluster.config.actionTimeout c).1 } m :=
        h.congr rfl (fun _ hw => hw.congr rfl rfl rfl rfl)
      rcases hs' with rfl | rfl
      · exact hb
      · exact hb.idle
    exact hv.event (.answer _) [] rfl rfl
  starts := fun {s m} h hl => by
    obtain ⟨hhooks, w, hreach, rfl, hw⟩ := h
    have hnone : ¬ w.backlog?.isSome = true := by
      rw [← hw.isListening, hl]
      exact Bool.false_ne_true
    have hstart : w.step .start = { w with bus := w.bus.subscribe () } := if_neg hnone
    refine ⟨hhooks, w.step .start, hreach.step _, w.moment_step .start, ?_⟩
    rw [hstart]
    refine ⟨hw.cluster, hw.tracker, hw.capacity, ?_, ?_⟩
    · exact (s.bus.backlog?_subscribe .tracker).trans (w.bus.backlog?_subscribe ()).symm
    · exact congrArg Option.isSome (w.bus.backlog?_subscribe ()).symm
  stops := fun {s m} h _ => by
    obtain ⟨hhooks, w, hreach, rfl, hw⟩ := h
    refine ⟨hhooks, w.step .stop, hreach.step _, rfl, hw.cluster, hw.tracker, hw.capacity, ?_, ?_⟩
    · exact (s.bus.backlog?_unsubscribe .tracker).trans w.backlog?_stop.symm
    · rw [Watch.backlog?_stop]; rfl
  instructs := fun h _ _ => h.congr rfl (fun _ hw => hw.congr rfl rfl rfl rfl)
  responds := fun h _ _ => h.congr rfl (fun _ hw => hw.congr rfl rfl rfl rfl)
  calls := fun _ _ _ _ h _ _ => h.congr rfl (fun _ hw => hw.congr rfl rfl rfl rfl)

theorem displays_start (config : Config) (tracker : TrackerConfig) (capacity : Nat) (group : String)
    (backing : Backing) : (start config tracker capacity group backing).Displays
      (.fresh config backing.stages group (max capacity 1).nextPowerOfTwo tracker) :=
  ⟨rfl, rfl, rfl, rfl, rfl⟩

/-- **Every state of a simulation is one that a watch can come to**, and its tracker has counted the passes that were
asked for on the way. -/
theorem occurs_run (config : Config) (tracker : TrackerConfig) (capacity : Nat) (group : String) (backing : Backing)
    {steps : List Step} (ht : ∀ t ∈ steps, t.Fits Genuine True) :
    let w₀ := Watch.fresh config backing.stages group (max capacity 1).nextPowerOfTwo tracker
    ∀ e ∈ (start config tracker capacity group backing).run steps, ∃ os,
      e.after.Displays (w₀.run os) ∧ e.after.tracker.dispatched = (w₀.dispatches os).length := by
  intro w₀ e he
  have hstart : Views w₀ (start config tracker capacity group backing) w₀.moment :=
    ⟨fun _ hk => absurd hk List.not_mem_nil, w₀, .refl w₀, rfl, displays_start config tracker capacity group backing⟩
  obtain ⟨m, ⟨-, w, ⟨os, rfl⟩, -, hw⟩, -⟩ := (views_lasting w₀).run ht hstart rfl e he
  refine ⟨os, hw, ?_⟩
  rw [hw.tracker, Watch.dispatched_run]
  exact Nat.zero_add _

end Simulation

end ClusterMembership
