import ClusterMembership.Proofs.PassCalls
/-!
# Passes that nothing disturbs

While the group and the signals stay as they are, a pass depends on the answers of the backing cluster alone.  Here a
backing cluster is any state with a rule `take` that answers a call and may change that state.  `complete` has it answer
every call that a pass makes, a `Passage` is what comes of that, and `Cluster.passage` lets pass follow upon pass.  Such
passes are histories (`Moment.run_passage`), and all that they do to the controller is a chain of writes
(`Cluster.Sound.writes_passage`).
-/
namespace ClusterMembership

/-- What comes of a pass that nothing disturbs. -/
structure Passage (σ : Type*) where
  cluster : Cluster
  backing : σ
  exchanges : List Exchange
  result : Except Failure Outcome

instance : DecidablePred Exchange.Succeeded := fun x =>
  decidable_of_iff (x.answer.any (·.fulfils x.call) = true) (by
    cases h : x.answer <;> simp [Exchange.Succeeded, h])

namespace Passage

variable {σ : Type*}

/-- Every call of the pass was carried out. -/
def Succeeds (w : Passage σ) : Prop := ∀ x ∈ w.exchanges, x.Succeeded

instance (w : Passage σ) : Decidable w.Succeeds :=
  inferInstanceAs (Decidable (∀ x ∈ w.exchanges, x.Succeeded))

/-- The answers that the pass got. -/
def answers (w : Passage σ) : List Event := w.exchanges.filterMap fun x => x.answer.map .answer

/-- The pass with an exchange before it. -/
def after (w : Passage σ) (x : Exchange) : Passage σ := { w with exchanges := x :: w.exchanges }

end Passage

variable {σ : Type*} (take : σ → Call → σ × Answer)

/-- Has the backing cluster answer every call that is still to be made. -/
def complete (s : σ) (q : Cluster × Progress) : Passage σ :=
  match q with
  | (c, .finished result) => ⟨c, s, [], result⟩
  | (c, .calling call p) => (complete (take s call).1 (c.resume p (take s call).2)).after ⟨call, some (take s call).2⟩
termination_by q.2.remaining
decreasing_by exact Cluster.remaining_resume c call p _

/-- A backing cluster that goes through a list of answers, and then carries out every call. -/
def scripted (as : List Answer) (_ : Call) : List Answer × Answer := (as.tail, as.headD .done)

namespace Cluster

/-- The pass that starts now. -/
def pass (c : Cluster) (s : σ) : Passage σ := complete take s c.begin

/-- The passes that start now, one after the other. -/
def passage (c : Cluster) (s : σ) : Nat → Passage σ
  | 0 => c.pass take s
  | i + 1 => (c.passage s i).cluster.pass take (c.passage s i).backing

/-- A node that the controller has to do with now. -/
def Involves (c : Cluster) (n : Node) : Prop := n ∈ c.group.members ∨ n ∈ c.active.nodes ∨ c.primary = some n

/-- The nodes that the controller has to do with now. -/
def involved (c : Cluster) : List Node := c.group.members ++ (c.active.nodes ++ c.primary.toList)

theorem mem_involved {c : Cluster} {n : Node} : n ∈ c.involved ↔ c.Involves n := by
  simp [involved, Involves]

instance (c : Cluster) : Decidable (DistinctIds c.Involves) :=
  decidable_of_iff (∀ n ∈ c.involved, ∀ m ∈ c.involved, n.id = m.id → n = m) (by
    simp only [mem_involved]
    exact ⟨fun h n m hn hm => h n hn m hm, fun h n hn m hm => h n m hn hm⟩)

theorem Sound.involves {known : Node → Prop} {c : Cluster} (h : c.Sound known) : c.Sound c.Involves :=
  ⟨h.group_keyed, h.active_keyed, h.flagged, fun _ hn => Or.inl hn, fun _ hn => Or.inr (Or.inl hn),
    fun _ hp => Or.inr (Or.inr hp)⟩

end Cluster

theorem Moment.sound_cluster_run (config : Config) (stages : Bool) (group : String) (history : List Event) :
    ((fresh config stages group).run history).cluster.Sound ((fresh config stages group).run history).cluster.Involves := by
  have h : ((fresh config stages group).run history).Sound (fun _ => True) :=
    sound_run (sound_fresh config stages group) (fun _ _ => trivial)
  exact h.cluster.involves

theorem Moment.marked_run (config : Config) (stages : Bool) (group : String) {history : List Event}
    (hd : DistinctIds fun n => .enter n ∈ history) : ((fresh config stages group).run history).cluster.Marked := by
  have h : ((fresh config stages group).run history).Sound (fun n => .enter n ∈ history) ∧
      ((fresh config stages group).run history).cluster.Marked := by
    refine run_induction (P := fun m => m.Sound (fun n => .enter n ∈ history) ∧ m.cluster.Marked)
      ⟨sound_fresh config stages group, fun n hn => by cases hn⟩ (fun m e he hm => ⟨hm.1.step e ?_, ?_⟩)
    · rintro n rfl; exact he
    · exact marked_step hd hm.1 hm.2 e
  exact h.2

theorem Moment.run_cons (m : Moment) (e : Event) (es : List Event) : m.run (e :: es) = (m.step e).run es := rfl

/-! ## One call after the other -/

theorem complete_finished (s : σ) (c : Cluster) (result : Except Failure Outcome) :
    complete take s (c, .finished result) = ⟨c, s, [], result⟩ := by
  rw [complete]

theorem complete_finish (s : σ) (c : Cluster) (result : Except Failure Outcome) :
    complete take s (c.finish result) = ⟨c.publish, s, [], result⟩ := complete_finished take s c.publish result

theorem complete_calling (s : σ) (c : Cluster) (call : Call) (p : Pending) :
    complete take s (c, .calling call p) =
      (complete take (take s call).1 (c.resume p (take s call).2)).after ⟨call, some (take s call).2⟩ := by
  rw [complete]

/-- The exchanges are what the backing cluster makes of their calls, from one state to the other. -/
def Conversation : σ → List Exchange → σ → Prop
  | s, [], s' => s' = s
  | s, x :: xs, s' => x.answer = some (take s x.call).2 ∧ Conversation (take s x.call).1 xs s'

theorem conversation_append {s s' : σ} {xs ys : List Exchange} :
    Conversation take s (xs ++ ys) s' ↔ ∃ s₁, Conversation take s xs s₁ ∧ Conversation take s₁ ys s' := by
  induction xs generalizing s with
  | nil => exact ⟨fun h => ⟨s, rfl, h⟩, fun ⟨s₁, h, h'⟩ => by cases h; exact h'⟩
  | cons x xs ih =>
    constructor
    · rintro ⟨hx, h⟩
      obtain ⟨s₁, h, h'⟩ := ih.1 h
      exact ⟨s₁, ⟨hx, h⟩, h'⟩
    · rintro ⟨s₁, ⟨hx, h⟩, h'⟩
      exact ⟨hx, ih.2 ⟨s₁, h, h'⟩⟩

theorem conversation_complete (s : σ) (q : Cluster × Progress) :
    Conversation take s (complete take s q).exchanges (complete take s q).backing := by
  induction s, q using complete.induct take with
  | case1 s c result => rw [complete_finished]; rfl
  | case2 s c call p ih => rw [complete_calling]; exact ⟨rfl, ih⟩

namespace Cluster

variable {known : Node → Prop} {c : Cluster}

theorem passage_succ (c : Cluster) (s : σ) (i : Nat) :
    c.passage take s (i + 1) = (c.passage take s i).cluster.pass take (c.passage take s i).backing := rfl

/-- **The passes after the first** are the passes that start from where it ended. -/
theorem passage_succ' (c : Cluster) (s : σ) (i : Nat) :
    c.passage take s (i + 1) = (c.pass take s).cluster.passage take (c.pass take s).backing i := by
  induction i with
  | zero => rfl
  | succ i ih => rw [passage_succ, ih]; rfl

theorem passage_add (c : Cluster) (s : σ) (i j : Nat) :
    c.passage take s (i + 1 + j) = (c.passage take s i).cluster.passage take (c.passage take s i).backing j := by
  induction j with
  | zero => rfl
  | succ j ih => rw [← Nat.add_assoc, passage_succ, ih]; rfl

/-! ## Chains of writes -/

theorem writes_complete (s : σ) (q : Cluster × Progress) (h : ∀ n ∈ q.2.nodes, known n) :
    Writes known q.1 (complete take s q).cluster := by
  induction s, q using complete.induct take with
  | case1 s c result => rw [complete_finished]; exact .refl c
  | case2 s c call p ih =>
    rw [complete_calling]
    exact (writes_resume c p _ h).trans (ih (fun n hn => h n (mem_nodes_resume hn)))

theorem Sound.writes_pass (h : c.Sound known) (s : σ) : Writes known c (c.pass take s).cluster :=
  (writes_begin c h.members_known h.primary_known).trans (writes_complete take s c.begin h.nodes_begin)

/-- **Undisturbed passes** do to the controller what a chain of writes does. -/
theorem Sound.writes_passage (h : c.Sound known) (s : σ) (i : Nat) :
    Writes known c (c.passage take s i).cluster := by
  induction i with
  | zero => exact h.writes_pass take s
  | succ i ih => exact ih.trans ((h.writes ih).writes_pass take _)

end Cluster

/-! ## Undisturbed passes as histories -/

namespace Moment

theorem run_complete (o : Option (Except Failure Outcome)) (s : σ) (q : Cluster × Progress) :
    (ofProgress o q).run (complete take s q).answers =
      ⟨(complete take s q).cluster, .resting, some (complete take s q).result⟩ := by
  induction s, q using complete.induct take with
  | case1 s c result => rw [complete_finished]; rfl
  | case2 s c call p ih =>
    rw [complete_calling]
    exact ih

theorem run_pass {m : Moment} (h : m.activity = .resting) (s : σ) :
    m.run (.reconcile :: (m.cluster.pass take s).answers) =
      ⟨(m.cluster.pass take s).cluster, .resting, some (m.cluster.pass take s).result⟩ := by
  have hr : m.step .reconcile = ofProgress m.outcome m.cluster.begin := by simp only [step, reconcile, h]
  show (m.step .reconcile).run _ = _
  rw [hr]
  exact run_complete take m.outcome s m.cluster.begin

/-- **Undisturbed passes are a history** of starts and answers. -/
theorem run_passage {m : Moment} (h : m.activity = .resting) (s : σ) (i : Nat) :
    m.run ((List.range (i + 1)).flatMap fun j => .reconcile :: (m.cluster.passage take s j).answers) =
      ⟨(m.cluster.passage take s i).cluster, .resting, some (m.cluster.passage take s i).result⟩ := by
  induction i with
  | zero =>
    rw [List.range_one, List.flatMap_singleton]
    exact run_pass take h s
  | succ i ih =>
    rw [List.range_succ, List.flatMap_append, run_append, ih, List.flatMap_singleton]
    exact run_pass take (m := ⟨_, .resting, _⟩) rfl _

end Moment

end ClusterMembership
