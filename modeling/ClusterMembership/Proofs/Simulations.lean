import ClusterMembership.Proofs.Histories
import ClusterMembership.Simulation.Run
/-!
# What lasts through a simulation

A simulation runs its passes and recoveries to their ends, lets hooks act before each call and the tracker ask for more
passes.  Whatever it does, it does in a few ways: acts, handlings of its tracker, the beginnings of passes and recoveries,
answers to calls, and what is done past the controller.  A relation between the simulation and the moment that its
cluster's history has come to lasts through the whole of it if it is kept by each of these (`Lasting.run`).
-/
namespace ClusterMembership

/-- The work in hand and the last outcome are as they were. -/
def Moment.Drifts (m m' : Moment) : Prop := m'.activity = m.activity ∧ m'.outcome = m.outcome

theorem Moment.Drifts.refl (m : Moment) : m.Drifts m := ⟨rfl, rfl⟩

theorem Moment.Drifts.trans {a b c : Moment} (h : a.Drifts b) (h' : b.Drifts c) : a.Drifts c :=
  ⟨h'.1.trans h.1, h'.2.trans h.2⟩

/-- The acts of a step are `fit`, and it calls the backing cluster past the controller only if that is `free`. -/
def Step.Fits (fit : Act → Prop) (free : Prop) : Step → Prop
  | .act a => fit a
  | .batch as => ∀ a ∈ as, fit a
  | .arm _ as => ∀ a ∈ as, fit a
  | .call _ => free
  | _ => True

namespace Simulation

/-- The acts of the hooks are fit. -/
def FitHooks (fit : Act → Prop) (hooks : List Hook) : Prop := ∀ k ∈ hooks, ∀ a ∈ k.acts, fit a

/-! ## What the tracker changes -/

theorem cluster_hears (items : List Received) (s : Simulation) : (items.foldl hear s).cluster = s.cluster := by
  induction items generalizing s with
  | nil => rfl
  | cons r items ih => exact ih (s.hear r)

theorem cluster_listen (s : Simulation) : s.listen.cluster = s.cluster := by
  unfold Simulation.listen
  split
  · rfl
  · exact cluster_hears _ _

theorem cluster_idle (s : Simulation) : s.idle.cluster = s.cluster := by
  unfold Simulation.idle
  split
  · exact cluster_listen _
  · rfl

theorem backing_hears (items : List Received) (s : Simulation) : (items.foldl hear s).backing = s.backing := by
  induction items generalizing s with
  | nil => rfl
  | cons r items ih => exact ih (s.hear r)

theorem backing_listen (s : Simulation) : s.listen.backing = s.backing := by
  unfold Simulation.listen
  split
  · rfl
  · exact backing_hears _ _

theorem backing_idle (s : Simulation) : s.idle.backing = s.backing := by
  unfold Simulation.idle
  split
  · exact backing_listen _
  · rfl

/-- What holds without a node and with any node holds of what is done with the node of a handle. -/
theorem withNode_induction {Q : Simulation → Prop} {s : Simulation} (hs : Q s) (handle : String)
    {act : Node → Simulation × Reply} (ha : ∀ n, Q (act n).1) : Q (s.withNode handle act).1 := by
  unfold withNode
  split
  · exact ha _
  · exact hs

/-- A relation that is kept by all that a simulation does at a time. -/
structure Lasting (fit : Act → Prop) (free : Prop) (P : Simulation → Moment → Prop) : Prop where
  cluster : ∀ {s m}, P s m → s.cluster = m.cluster
  hooks : ∀ {s m}, P s m → FitHooks fit s.hooks
  /-- What is ready to run, the hooks and what they gave back have no part in it. -/
  aside : ∀ {s m}, P s m → ∀ (ready : List Task) (hooks : List Hook) (hookReplies : List Reply), FitHooks fit hooks →
    P { s with ready, hooks, hookReplies } m
  act : ∀ {s m a}, P s m → fit a → ∃ m', m.Drifts m' ∧ P (s.act a).1 m'
  listen : ∀ {s m}, P s m → P s.listen m
  begins : ∀ {s m}, P s m → P { s with cluster := m.reconcile.cluster } m.reconcile
  recovers : ∀ {s m}, P s m → ∀ failed sponsor, P s (m.recover failed sponsor)
  /-- The backing cluster answers a call, and the listener may run before the answer is taken. -/
  answers : ∀ {s m c}, P s m → m.activity.call? = some c →
    let r := s.backing.performWithin s.cluster.config.actionTimeout c
    ∀ s' : Simulation, s' = { s with backing := r.1 } ∨ s' = idle { s with backing := r.1 } →
      P { s' with cluster := (m.answer r.2.1).cluster } (m.answer r.2.1)
  starts : ∀ {s m}, P s m → s.isListening = false →
    P { s with isListening := true, bus := s.bus.subscribe .tracker } m
  stops : ∀ {s m}, P s m → s.isListening = true →
    P { s with isListening := false, bus := s.bus.unsubscribe .tracker } m
  instructs : ∀ {s m b}, P s m → s.backing = .simulated b → ∀ i, P { s with backing := .simulated (instruct b i).1 } m
  responds : ∀ {s m options peer}, P s m → s.backing = .remote options peer → ∀ script,
    P { s with backing := .remote options { peer with script } } m
  calls : free → ∀ {s m b}, P s m → s.backing = .simulated b → ∀ c, P { s with backing := .simulated (b.perform c).1 } m

namespace Lasting

variable {fit : Act → Prop} {free : Prop} {P : Simulation → Moment → Prop} {s : Simulation} {m : Moment}

/-! ## Acts and calls -/

theorem acts (h : Lasting fit free P) {as : List Act} (hf : ∀ a ∈ as, fit a) (hp : P s m) :
    ∃ m', m.Drifts m' ∧ P (s.acts as).1 m' := by
  induction as generalizing s m with
  | nil => exact ⟨m, .refl m, hp⟩
  | cons a as ih =>
    obtain ⟨m₁, hd₁, hp₁⟩ := h.act hp (hf a List.mem_cons_self)
    obtain ⟨m₂, hd₂, hp₂⟩ := ih (fun a' h' => hf a' (List.mem_cons_of_mem a h')) hp₁
    exact ⟨m₂, hd₁.trans hd₂, hp₂⟩

theorem fire (h : Lasting fit free P) (hp : P s m) : ∃ m', m.Drifts m' ∧ P s.fire m' := by
  let counted : List Hook := s.hooks.map fun k => { k with countdown := k.countdown - 1 }
  have hcounted : FitHooks fit counted := fun k hk a ha => by
    obtain ⟨k', hk', rfl⟩ := List.mem_map.1 hk
    exact h.hooks hp k' hk' a ha
  have hs := h.aside hp s.ready (counted.filter (·.countdown ≠ 0)) s.hookReplies
    (fun k hk => hcounted k (List.mem_of_mem_filter hk))
  have hdue : ∀ a ∈ (counted.filter (·.countdown = 0)).flatMap Hook.acts, fit a := fun a ha => by
    obtain ⟨k, hk, ha⟩ := List.mem_flatMap.1 ha
    exact hcounted k (List.mem_of_mem_filter hk) a ha
  obtain ⟨m', hd, hp'⟩ := h.acts hdue hs
  exact ⟨m', hd, h.aside hp' _ _ _ (h.hooks hp')⟩

/-- **A call is made and answered**, once the hooks have acted. -/
theorem call (h : Lasting fit free P) (hp : P s m) {c : Call} (hc : m.activity.call? = some c) :
    ∃ m', m.Drifts m' ∧ (s.call c).1.cluster = m'.cluster ∧
      P { (s.call c).1 with cluster := (m'.answer (s.call c).2.1).cluster } (m'.answer (s.call c).2.1) := by
  obtain ⟨m', hd, hp'⟩ := h.fire hp
  have hc' : m'.activity.call? = some c := by rw [hd.1]; exact hc
  have ha := h.answers hp' hc'
  have hcluster := h.cluster hp'
  simp only [Simulation.call]
  generalize s.fire.backing.performWithin s.fire.cluster.config.actionTimeout c = r at ha ⊢
  refine ⟨m', hd, ?_, ?_⟩
  · split
    · exact (cluster_idle _).trans hcluster
    · exact hcluster
  · split
    · exact ha _ (Or.inr rfl)
    · exact ha _ (Or.inl rfl)

/-! ## Passes and recoveries -/

/-- **What is left of a pass lasts**, and its result is the outcome. -/
theorem drive (h : Lasting fit free P) (s : Simulation) (p : Progress) (ms : Nat)
    {o : Option (Except Failure Outcome)} {m : Moment} (hp : P s m) (hm : m = Moment.ofProgress o (s.cluster, p)) :
    ∃ m', P (s.drive p ms).1 m' ∧ m'.activity = .resting ∧ m'.outcome = some (s.drive p ms).2.1 := by
  fun_induction Simulation.drive s p ms generalizing m with
  | case1 s ms result => exact ⟨m, hp, by rw [hm]; rfl, by rw [hm]; rfl⟩
  | case2 s ms call pending called resumed =>
    rename_i ih
    have hc : m.activity = .passing call pending := by rw [hm]; rfl
    have ho : m.outcome = o := by rw [hm]; rfl
    -- the hooks may change group and signals first, so the pass resumes on the cluster that they leave
    obtain ⟨m₁, hd, hs, hp₁⟩ := h.call hp (c := call) (by rw [hc]; rfl)
    have hm₁ : m₁.answer called.2.1 = Moment.ofProgress o (called.1.cluster.resume pending called.2.1) := by
      rw [hs, ← ho, ← hd.2]
      simp only [Moment.answer, hd.1, hc]
    rw [hm₁, Moment.cluster_ofProgress] at hp₁
    exact ih hp₁ rfl

/-- **A pass lasts**, and its result is the outcome. -/
theorem pass (h : Lasting fit free P) (hp : P s m) (hr : m.activity = .resting) :
    ∃ m', P s.pass.1 m' ∧ m'.activity = .resting ∧ m'.outcome = some s.pass.2.1 := by
  have hm : m.reconcile = Moment.ofProgress m.outcome s.cluster.begin := by
    rw [h.cluster hp]
    simp only [Moment.reconcile, hr]
  have hb := h.begins hp
  rw [hm, Moment.cluster_ofProgress] at hb
  exact h.drive _ s.cluster.begin.2 0 hb rfl

theorem passes (h : Lasting fit free P) (count : Nat) {s : Simulation} {m : Moment} (hp : P s m)
    (hr : m.activity = .resting) : ∃ m', P (s.passes count).1 m' ∧ m'.activity = .resting := by
  induction count generalizing s m with
  | zero => exact ⟨m, hp, hr⟩
  | succ count ih =>
    obtain ⟨m', hp', hr', -⟩ := h.pass hp hr
    exact ih hp' hr'

theorem recover (h : Lasting fit free P) (hp : P s m) (hr : m.activity = .resting) (failed sponsor : NodeId) :
    ∃ m', P (s.recover failed sponsor).1 m' ∧ m'.activity = .resting := by
  unfold Simulation.recover
  cases hb : s.cluster.beginRecovery failed sponsor with
  | error f => exact ⟨m, hp, hr⟩
  | ok r =>
    have hm : m.recover failed sponsor = { m with activity := .recovering r } := by
      rw [h.cluster hp] at hb
      simp only [Moment.recover, hr, hb]
    have hs := h.recovers hp failed sponsor
    rw [hm] at hs
    obtain ⟨m₁, hd, hcluster, hp₁⟩ := h.call hs (c := r.call) rfl
    have hm₁ : m₁.answer (s.call r.call).2.1 =
        { m₁ with cluster := (m₁.cluster.finishRecovery r (s.call r.call).2.1).1, activity := .resting } := by
      have ha : m₁.activity = .recovering r := hd.1
      simp only [Moment.answer, ha]
    rw [hm₁, ← hcluster] at hp₁
    exact ⟨_, hp₁, rfl⟩

/-! ## Steps -/

theorem runReady (h : Lasting fit free P) (hp : P s m) (hr : m.activity = .resting) :
    ∃ m', P s.runReady m' ∧ m'.activity = .resting := by
  unfold Simulation.runReady
  split
  · exact ⟨m, hp, hr⟩
  · exact ⟨m, h.listen (h.aside hp _ _ _ (h.hooks hp)), hr⟩
  · next rest _ =>
    obtain ⟨m', hp', hr', -⟩ := h.pass (h.aside hp rest _ _ (h.hooks hp)) hr
    exact ⟨m', hp', hr'⟩

theorem runTasks (h : Lasting fit free P) (count : Nat) {s : Simulation} {m : Moment} (hp : P s m)
    (hr : m.activity = .resting) : ∃ m', P (s.runTasks count) m' ∧ m'.activity = .resting := by
  induction count generalizing s m with
  | zero => exact ⟨m, hp, hr⟩
  | succ count ih =>
    rw [Simulation.runTasks]
    split
    · exact ⟨m, hp, hr⟩
    · obtain ⟨m', hp', hr'⟩ := h.runReady hp hr
      exact ih hp' hr'

theorem perform (h : Lasting fit free P) {t : Step} (ht : t.Fits fit free) (hp : P s m) (hr : m.activity = .resting) :
    ∃ m', P (s.perform t).1 m' ∧ m'.activity = .resting := by
  cases t with
  | act a =>
    obtain ⟨m', hd, hp'⟩ := h.act hp ht
    exact ⟨m', hp', hd.1.trans hr⟩
  | batch as =>
    obtain ⟨m', hd, hp'⟩ := h.acts ht hp
    exact ⟨m', hp', hd.1.trans hr⟩
  | reconcile =>
    obtain ⟨m', hp', hr', -⟩ := h.pass hp hr
    exact ⟨m', hp', hr'⟩
  | concurrent count => exact h.passes count hp hr
  | recover failed sponsor => exact h.recover hp hr failed sponsor
  | startTracker =>
    simp only [Simulation.perform]
    split
    · exact ⟨m, hp, hr⟩
    · next hl => exact ⟨m, h.starts hp (Bool.eq_false_iff.2 hl), hr⟩
  | stopTracker =>
    simp only [Simulation.perform]
    split
    · next hl => exact ⟨m, h.aside (h.stops hp hl) _ _ _ (h.hooks hp), hr⟩
    · exact ⟨m, hp, hr⟩
  | call c =>
    simp only [Simulation.perform]
    split
    · next b hb => exact ⟨m, h.calls ht hp hb c, hr⟩
    · exact ⟨m, hp, hr⟩
  | instruct i =>
    simp only [Simulation.perform]
    split
    · next b hb => exact ⟨m, h.instructs hp hb i, hr⟩
    · exact ⟨m, hp, hr⟩
  | respond script =>
    simp only [Simulation.perform]
    split
    · exact ⟨m, hp, hr⟩
    · next hb => exact ⟨m, h.responds hp hb script, hr⟩
  | arm count as =>
    refine ⟨m, h.aside hp _ _ _ (fun k hk a ha => ?_), hr⟩
    rcases List.mem_append.1 hk with hk | hk
    · exact h.hooks hp k hk a ha
    · rw [List.mem_singleton.1 hk] at ha; exact ht a ha

/-- **What lasts through what a simulation does lasts through its steps.** -/
theorem after (h : Lasting fit free P) {t : Step} (ht : t.Fits fit free) (hp : P s m) (hr : m.activity = .resting) :
    ∃ m', P (s.step t).after m' ∧ m'.activity = .resting := by
  obtain ⟨m₁, hp₁, hr₁⟩ := h.perform ht (h.aside hp s.ready s.hooks [] (h.hooks hp)) hr
  exact h.runTasks _ hp₁ hr₁

/-- **What lasts through what a simulation does lasts through its run.** -/
theorem run (h : Lasting fit free P) {steps : List Step} (ht : ∀ t ∈ steps, t.Fits fit free) (hp : P s m)
    (hr : m.activity = .resting) : ∀ e ∈ s.run steps, ∃ m', P e.after m' ∧ m'.activity = .resting := by
  induction steps generalizing s m with
  | nil => exact fun _ he => absurd he List.not_mem_nil
  | cons t steps ih =>
    intro e he
    obtain ⟨m₁, hp₁, hr₁⟩ := h.after (ht t List.mem_cons_self) hp hr
    rcases List.mem_cons.1 he with rfl | he
    · exact ⟨m₁, hp₁, hr₁⟩
    · exact ih (fun t' h' => ht t' (List.mem_cons_of_mem t h')) hp₁ hr₁ e he

end Lasting

end Simulation

end ClusterMembership
