import ClusterMembership.Proofs.Histories
/-!
# The calls of a pass

The calls of a pass are settled when it starts: `Cluster.script` lists those that bring the membership in line, and a
pass makes them one after the other for as long as each succeeds (`Follows`), whatever becomes of the group and of the
signals in between.  `Moment.exchanges` follows a pass through a row of events, and `pass_calls` says that it makes no
call, bootstraps the first ready member, or follows the script under its initialized primary.
-/
namespace ClusterMembership

/-- A call and the answer it got, if it got one. -/
structure Exchange where
  call : Call
  answer : Option Answer
deriving DecidableEq

/-- The call was carried out. -/
def Exchange.Succeeded (x : Exchange) : Prop := ∃ a, x.answer = some a ∧ a.fulfils x.call = true

/-- The calls are made in the order of the script, each only after those before it succeeded, and all of them if none
fails. -/
structure Follows (script : List Call) (trace : List Exchange) : Prop where
  inOrder : trace.map (·.call) <+: script
  succeeded : ∀ x ∈ trace.dropLast, x.Succeeded
  complete : (∀ x ∈ trace, x.Succeeded) → trace.map (·.call) = script

namespace Follows

theorem nil : Follows [] [] := ⟨List.prefix_rfl, fun _ hx => absurd hx List.not_mem_nil, fun _ => rfl⟩

theorem single {x : Exchange} (h : ¬ x.Succeeded) (calls : List Call) : Follows (x.call :: calls) [x] :=
  ⟨⟨calls, rfl⟩, fun _ hx => absurd hx List.not_mem_nil, fun hx => absurd (hx x List.mem_cons_self) h⟩

theorem cons {x : Exchange} {calls : List Call} {trace : List Exchange} (hx : x.Succeeded) (h : Follows calls trace) :
    Follows (x.call :: calls) (x :: trace) := by
  refine ⟨?_, fun y hy => ?_, fun hy => ?_⟩
  · rw [List.map_cons, List.prefix_cons_inj]
    exact h.inOrder
  · cases trace with
    | nil => exact absurd hy List.not_mem_nil
    | cons z zs =>
      rcases List.mem_cons.1 hy with rfl | hy
      · exact hx
      · exact h.succeeded y hy
  · rw [List.map_cons, h.complete (fun y hmem => hy y (List.mem_cons_of_mem x hmem))]

theorem eq_nil {trace : List Exchange} (h : Follows [] trace) : trace = [] := by
  have hp := List.prefix_nil.1 h.inOrder
  exact List.map_eq_nil_iff.1 hp

theorem eq_of_singleton {call : Call} {trace : List Exchange} (h : Follows [call] trace) :
    trace.map (·.call) = [call] := by
  cases trace with
  | nil => exact h.complete (fun _ hx => absurd hx List.not_mem_nil)
  | cons x xs =>
    have hp := h.inOrder
    rw [List.map_cons, List.cons_prefix_cons, List.prefix_nil] at hp
    rw [List.map_cons, hp.1, hp.2]

end Follows

/-- The calls that a delta makes if all succeed: the joins, the leaves, a commit where changes are staged, and a
rebalance where the delta only grows. -/
def Delta.calls (d : Delta) (stages pending : Bool) (joins leaves : List Node) : List Call :=
  joins.map (fun n => .join d.coordinator n.address n.credentials) ++
  leaves.map (fun n => .leave d.coordinator n.target) ++
  (if stages && (pending || !joins.isEmpty || !leaves.isEmpty) then [.commit d.coordinator] else []) ++
  (if d.isGrowth then [.rebalance d.coordinator] else [])

/-- The nodes that are still to join, the one under way included. -/
def Pending.joiners : Pending → List Node
  | .joining _ n rest => n :: rest
  | _ => []

/-- The nodes that are still to join. -/
def Progress.joiners : Progress → List Node
  | .finished _ => []
  | .calling _ p => p.joiners

namespace Cluster

/-- The ready members that are neither the primary nor active. -/
def newcomers (c : Cluster) (p : Node) : List Node :=
  c.group.members.filter fun n => c.isReady n && (n.id ≠ p.id && !c.active.contains n.id)

/-- The calls that bring the membership in line under an initialized primary. -/
def script (c : Cluster) (p : Node) : List Call :=
  let leaves := c.leavers p
  Delta.calls ⟨p.target, leaves, !(c.newcomers p).isEmpty && leaves.isEmpty, [], []⟩ c.stages c.pendingCommit
    ((c.newcomers p).filter fun n => !c.isActive n) leaves

/-- The calls that a pass makes after its outstanding one, if all succeed. -/
def due (c : Cluster) : Pending → List Call
  | .bootstrapping _ => []
  | .joining d _ rest => d.calls c.stages true (rest.filter fun n => !c.isActive n) d.leaves
  | .leaving d _ rest => d.calls c.stages true [] rest
  | .committing d => d.calls false false [] []
  | .rebalancing .. => []

/-- The calls that a pass makes once it has come so far, if all succeed. -/
def upcoming : Cluster × Progress → List Call
  | (_, .finished _) => []
  | (c, .calling call p) => call :: c.due p

theorem due_congr (c c' : Cluster) (hs : c'.stages = c.stages) (ha : c'.isActive = c.isActive) (p : Pending) :
    c'.due p = c.due p := by
  cases p <;> simp only [due, hs, ha]

/-! ## From one call to the next -/

theorem upcoming_rebalanceNext (c : Cluster) (d : Delta) (committed : Bool) :
    upcoming (c.rebalanceNext d committed) = d.calls false false [] [] := by
  unfold rebalanceNext Delta.calls
  split <;> rfl

theorem upcoming_commitNext (c : Cluster) (d : Delta) :
    upcoming (c.commitNext d) = d.calls c.stages c.pendingCommit [] [] := by
  unfold commitNext
  split
  · next h => simp [upcoming, due, Delta.calls, h]
  · next h => rw [upcoming_rebalanceNext]; simp [Delta.calls, h]

theorem upcoming_leaveNext (c : Cluster) (d : Delta) (rest : List Node) :
    upcoming (c.leaveNext d rest) = d.calls c.stages c.pendingCommit [] rest := by
  cases rest with
  | nil => exact upcoming_commitNext c d
  | cons n rest => simp [leaveNext, upcoming, due, Delta.calls]

theorem inactive_enroll (c : Cluster) {n : Node} {ns : List Node} (h : n ∉ ns) :
    (ns.filter fun m => !(c.enroll n.id n).isActive m) = ns.filter fun m => !c.isActive m := by
  refine List.filter_congr (fun m hm => ?_)
  rw [isActive_enroll, if_neg (fun he => h (by rw [← he]; exact hm))]

theorem upcoming_joinNext (c : Cluster) (d : Delta) (rest : List Node) (h : rest.Nodup) :
    upcoming (c.joinNext d rest) =
      d.calls c.stages c.pendingCommit (rest.filter fun n => !c.isActive n) d.leaves := by
  induction rest generalizing c d with
  | nil => exact upcoming_leaveNext c d d.leaves
  | cons n rest ih =>
    rw [List.nodup_cons] at h
    rw [joinNext]
    split
    · next ha =>
      rw [ih _ _ h.2, inactive_enroll c h.1, List.filter_cons_of_neg (by rw [ha]; exact Bool.false_ne_true)]
      rfl
    · next ha => simp [upcoming, due, Delta.calls, ha]

theorem joiners_rebalanceNext (c : Cluster) (d : Delta) (committed : Bool) :
    (c.rebalanceNext d committed).2.joiners = [] := by
  unfold rebalanceNext; split <;> rfl

theorem joiners_commitNext (c : Cluster) (d : Delta) : (c.commitNext d).2.joiners = [] := by
  unfold commitNext
  split
  · rfl
  · exact joiners_rebalanceNext c d false

theorem joiners_leaveNext (c : Cluster) (d : Delta) (rest : List Node) : (c.leaveNext d rest).2.joiners = [] := by
  cases rest with
  | nil => exact joiners_commitNext c d
  | cons n rest => rfl

theorem joiners_joinNext (c : Cluster) (d : Delta) (rest : List Node) :
    (c.joinNext d rest).2.joiners.Sublist rest := by
  induction rest generalizing c d with
  | nil => rw [joinNext, joiners_leaveNext]
  | cons n rest ih =>
    rw [joinNext]
    split
    · have := ih (c.enroll n.id n) { d with joined := d.joined ++ [n.id] }
      exact this.cons n
    · exact List.Sublist.refl _

theorem joiners_resume (c : Cluster) (p : Pending) (a : Answer) :
    (c.resume p a).2.joiners.Sublist p.joiners := by
  have hr := resumes c p a
  generalize c.resume p a = q at hr ⊢
  cases hr with
  | failed phase f _ => exact List.nil_sublist _
  | bootstrapped _ => exact List.nil_sublist _
  | @joined d n rest _ => exact (joiners_joinNext _ _ rest).cons n
  | left _ => rw [joiners_leaveNext]; exact List.nil_sublist _
  | committed _ => rw [joiners_rebalanceNext]; exact List.nil_sublist _
  | rebalanced _ => exact List.nil_sublist _

theorem calls_markStaged (c : Cluster) (d : Delta) (joins leaves : List Node) :
    d.calls c.stages c.markStaged.pendingCommit joins leaves = d.calls c.stages true joins leaves := by
  cases hs : c.stages <;> simp [Delta.calls, markStaged, hs]

/-- **A call that succeeds is followed by those that were due after it.** -/
theorem upcoming_resume (c : Cluster) {p : Pending} {a : Answer} (h : a.fulfils p.call = true)
    (hj : p.joiners.Nodup) : upcoming (c.resume p a) = c.due p := by
  have hr := resumes c p a
  generalize c.resume p a = q at hr ⊢
  cases hr with
  | failed phase f hf => exact absurd h hf
  | bootstrapped _ => rfl
  | @joined d n rest _ =>
    obtain ⟨hn, hrest⟩ := List.nodup_cons.1 hj
    -- the node just recorded is none of the `rest`, so those of them that are inactive stay the same
    rw [upcoming_joinNext _ _ rest hrest, inactive_enroll c.markStaged hn]
    exact calls_markStaged c _ _ d.leaves
  | @left d n rest _ =>
    rw [upcoming_leaveNext]
    exact calls_markStaged c _ [] rest
  | committed _ => exact upcoming_rebalanceNext _ _ _
  | rebalanced _ => rfl

/-- **A call that fails is the last one of its pass.** -/
theorem upcoming_resume_of_failure (c : Cluster) {p : Pending} {a : Answer} (h : ¬ a.fulfils p.call = true) :
    upcoming (c.resume p a) = [] := by
  have hr := resumes c p a
  generalize c.resume p a = q at hr ⊢
  cases hr with
  | failed phase f _ => rfl
  | bootstrapped hf => exact absurd hf h
  | joined hf => exact absurd hf h
  | left hf => exact absurd hf h
  | committed hf => exact absurd hf h
  | rebalanced _ => rfl

/-! ## The start of a pass -/

theorem contains_enrollPrimary (c : Cluster) (p : Node) (id : NodeId) :
    (c.enrollPrimary p).active.contains id = (decide (id = p.id) || c.active.contains id) := by
  unfold enrollPrimary
  split
  · next h =>
    by_cases hid : id = p.id
    · simp [hid, h]
    · simp [hid]
  · rw [Roster.contains_eq_isSome, Roster.contains_eq_isSome]
    by_cases hid : id = p.id <;> simp [enroll, hid]

theorem joiners_enrollPrimary (c : Cluster) (p : Node) : (c.enrollPrimary p).joiners = c.newcomers p := by
  have hw : MemberWrites (fun _ => True) c (c.enrollPrimary p) := memberWrites_enrollPrimary c trivial
  rw [joiners, newcomers, group_enrollPrimary, hw.frame.isReady]
  refine List.filter_congr (fun n _ => ?_)
  rw [contains_enrollPrimary, Bool.not_or, decide_not]

theorem leavers_enrollPrimary (c : Cluster) (p : Node) : (c.enrollPrimary p).leavers p = c.leavers p := by
  have hw : MemberWrites (fun _ => True) c (c.enrollPrimary p) := memberWrites_enrollPrimary c trivial
  rw [leavers, leavers, group_enrollPrimary, hw.frame.isReady]
  unfold enrollPrimary
  split
  · rfl
  · next h =>
    rw [Bool.not_eq_true] at h
    show ((c.active.insert p.id p).nodes.filter _) = _
    rw [Roster.nodes_insert_of_not_contains p h, List.filter_append]
    simp

theorem pendingCommit_enrollPrimary (c : Cluster) (p : Node) :
    (c.enrollPrimary p).pendingCommit = c.pendingCommit := by
  unfold enrollPrimary; split <;> rfl

theorem isActive_enrollPrimary_of_mem {c : Cluster} {p n : Node} (h : n ∈ c.newcomers p) :
    (c.enrollPrimary p).isActive n = c.isActive n := by
  have hn := (List.mem_filter.1 h).2
  simp only [Bool.and_eq_true, decide_eq_true_eq] at hn
  unfold enrollPrimary
  split
  · rfl
  · rw [isActive_enroll, if_neg (fun he => hn.2.1 (by rw [he]))]

theorem nodup_newcomers {c : Cluster} (hk : c.group.roster.Keyed) (p : Node) : (c.newcomers p).Nodup :=
  hk.nodup_nodes.filter _

theorem nodup_joiners_applyDelta {c : Cluster} (hk : c.group.roster.Keyed) (p : Node) :
    (c.applyDelta p).2.joiners.Nodup := by
  refine List.Nodup.sublist (joiners_joinNext _ _ _) ?_
  rw [joiners_enrollPrimary]
  exact nodup_newcomers hk p

/-- **The calls of a delta are those of the script.** -/
theorem upcoming_applyDelta {c : Cluster} (hk : c.group.roster.Keyed) (p : Node) :
    upcoming (c.applyDelta p) = c.script p := by
  have hw : MemberWrites (fun _ => True) c (c.enrollPrimary p) := memberWrites_enrollPrimary c trivial
  simp only [applyDelta, script, joiners_enrollPrimary, leavers_enrollPrimary]
  rw [upcoming_joinNext _ _ _ (nodup_newcomers hk p), hw.frame.stages, pendingCommit_enrollPrimary]
  congr 1
  refine List.filter_congr (fun n hn => ?_)
  rw [isActive_enrollPrimary_of_mem hn]

end Cluster

namespace Moment

/-- The calls of the pass under way, with their answers, through a row of events. -/
def exchanges (m : Moment) : List Event → List Exchange
  | [] =>
    match m.activity with
    | .passing call _ => [⟨call, none⟩]
    | _ => []
  | e :: es =>
    match m.activity, e with
    | .passing call _, .answer a => ⟨call, some a⟩ :: (m.step e).exchanges es
    | .passing .., _ => (m.step e).exchanges es
    | _, _ => []

/-- The calls of a pass that starts now and goes on through a row of events, with their answers. -/
def passTrace (m : Moment) (es : List Event) : List Exchange := (m.step .reconcile).exchanges es

theorem exchanges_resting {m : Moment} (h : m.activity = .resting) (es : List Event) : m.exchanges es = [] := by
  cases es <;> simp [exchanges, h]

theorem due_step {m : Moment} {call : Call} {p : Pending} (h : m.activity = .passing call p) {e : Event}
    (he : ∀ a, e ≠ .answer a) :
    (m.step e).activity = .passing call p ∧ (m.step e).cluster.due p = m.cluster.due p := by
  cases e with
  | enter n => exact ⟨h, Cluster.due_congr _ _ rfl rfl p⟩
  | depart id => exact ⟨h, Cluster.due_congr _ _ rfl rfl p⟩
  | report n s b =>
    have ha : (m.cluster.report n s b).1.isActive = m.cluster.isActive :=
      funext fun k => Cluster.isActive_report m.cluster n k s b
    exact ⟨h, Cluster.due_congr m.cluster (m.cluster.report n s b).1 rfl ha p⟩
  | mark b => exact ⟨h, Cluster.due_congr _ _ rfl rfl p⟩
  | reconcile =>
    have hm : m.step .reconcile = m := by simp only [step, reconcile, h]
    rw [hm]
    exact ⟨h, rfl⟩
  | recover failed sponsor =>
    have hm : m.step (.recover failed sponsor) = m := by simp only [step, recover, h]
    rw [hm]
    exact ⟨h, rfl⟩
  | answer a => exact absurd rfl (he a)

theorem exchanges_answer {m : Moment} {call : Call} {p : Pending} (h : m.activity = .passing call p) (a : Answer)
    (es : List Event) : m.exchanges (.answer a :: es) = ⟨call, some a⟩ :: (m.answer a).exchanges es := by
  simp only [exchanges, h]
  rfl

theorem exchanges_of_ne_answer {m : Moment} {call : Call} {p : Pending} (h : m.activity = .passing call p) {e : Event}
    (he : ∀ a, e ≠ .answer a) (es : List Event) : m.exchanges (e :: es) = (m.step e).exchanges es := by
  cases e with
  | answer a => exact absurd rfl (he a)
  | _ => simp only [exchanges, h]

theorem follows_ofProgress {es : List Event}
    (h : ∀ {m : Moment} {p : Pending}, m.activity = .passing p.call p → p.joiners.Nodup →
      Follows (p.call :: m.cluster.due p) (m.exchanges es))
    (o : Option (Except Failure Outcome)) {q : Cluster × Progress}
    (hc : ∀ call p, q.2 = .calling call p → call = p.call) (hj : q.2.joiners.Nodup) :
    Follows (Cluster.upcoming q) ((ofProgress o q).exchanges es) := by
  obtain ⟨c, result | ⟨call, p⟩⟩ := q
  · rw [exchanges_resting rfl]
    exact Follows.nil
  · have he := hc call p rfl
    subst he
    exact h (m := ⟨c, .passing p.call p, o⟩) rfl hj

/-- **A pass follows the calls that are due.** -/
theorem follows_exchanges (es : List Event) : ∀ {m : Moment} {p : Pending}, m.activity = .passing p.call p →
    p.joiners.Nodup → Follows (p.call :: m.cluster.due p) (m.exchanges es) := by
  induction es with
  | nil =>
    intro m p h _
    simp only [exchanges, h]
    have hx : ¬ (⟨p.call, none⟩ : Exchange).Succeeded := by
      rintro ⟨a, ha, -⟩
      cases ha
    exact Follows.single hx _
  | cons e es ih =>
    intro m p h hj
    by_cases he : ∃ a, e = .answer a
    · obtain ⟨a, rfl⟩ := he
      have hr : m.answer a = ofProgress m.outcome (m.cluster.resume p a) := by simp only [answer, h]
      -- the answer leads to another call or to the end, and what is then upcoming is what was due
      have hf := follows_ofProgress ih m.outcome (q := m.cluster.resume p a)
        (fun _ _ hq => (Cluster.isDelta_resume m.cluster p a).call_eq hq)
        (hj.sublist (Cluster.joiners_resume m.cluster p a))
      rw [exchanges_answer h, hr]
      by_cases ha : a.fulfils p.call = true
      · rw [Cluster.upcoming_resume m.cluster ha hj] at hf
        exact Follows.cons (x := ⟨p.call, some a⟩) ⟨a, rfl, ha⟩ hf
      · rw [Cluster.upcoming_resume_of_failure m.cluster ha] at hf
        have hx : ¬ (⟨p.call, some a⟩ : Exchange).Succeeded := by
          rintro ⟨b, hb, hab⟩
          cases hb
          exact ha hab
        rw [hf.eq_nil]
        exact Follows.single hx _
    · have he' : ∀ a, e ≠ .answer a := fun a ha => he ⟨a, ha⟩
      -- nothing but an answer touches what is due, since the delta was fixed when it began
      obtain ⟨ha, hd⟩ := due_step h he'
      rw [exchanges_of_ne_answer h he', ← hd]
      exact ih ha hj

end Moment

/-- What a pass may call, once its hand-over has led to `c`. -/
inductive Cluster.Disciplined (c : Cluster) (trace : List Exchange) : Prop
  /-- Nobody is ready, or the first ready member is adopted. -/
  | unelected (vacant : c.primary = none)
      (adopted : ∀ n, c.group.members.find? c.isReady = some n → c.isInitialized n = true) (silent : trace = [])
  /-- The first ready member is bootstrapped. -/
  | bootstrap {n : Node} (vacant : c.primary = none) (first : c.group.members.find? c.isReady = some n)
      (uninitialized : ¬ c.isInitialized n = true) (calls : trace.map (·.call) = [.bootstrap n.target])
  /-- The primary is not initialized yet. -/
  | awaiting {p : Node} (primary : c.primary = some p) (uninitialized : ¬ c.isInitialized p = true)
      (silent : trace = [])
  /-- The membership is brought in line under the primary. -/
  | delta {p : Node} (primary : c.primary = some p) (initialized : c.isInitialized p = true)
      (follows : Follows (c.script p) trace)

theorem Moment.disciplined_passTrace {known : Node → Prop} {m : Moment} (hs : m.Sound known)
    (h : m.activity = .resting) (es : List Event) : m.cluster.handOver.Disciplined (m.passTrace es) := by
  have hr : m.step .reconcile = ofProgress m.outcome m.cluster.begin := by simp only [step, reconcile, h]
  have hc : ∀ call p, m.cluster.begin.2 = .calling call p → call = p.call := fun _ _ hq => Cluster.call_begin hq
  have hb := Cluster.begins m.cluster
  rw [passTrace, hr]
  generalize m.cluster.begin = q at hb hc ⊢
  have hf := fun hj => follows_ofProgress (follows_exchanges es) m.outcome hc hj
  cases hb with
  | unready vacant first =>
    exact .unelected vacant (fun n hn => by rw [first] at hn; cases hn) (hf List.nodup_nil).eq_nil
  | adopted vacant first initialized =>
    exact .unelected vacant (fun n hn => by rw [first] at hn; cases hn; exact initialized) (hf List.nodup_nil).eq_nil
  | bootstraps vacant first uninitialized =>
    exact .bootstrap vacant first uninitialized (hf List.nodup_nil).eq_of_singleton
  | awaits primary uninitialized => exact .awaiting primary uninitialized (hf List.nodup_nil).eq_nil
  | @reconciles p primary initialized =>
    have hk : m.cluster.handOver.group.roster.Keyed := by
      rw [(Cluster.frame_handOver m.cluster).group]; exact hs.cluster.group_keyed
    have hd : ({ m.cluster.handOver with phase := .reconciling } : Cluster).group.roster.Keyed := hk
    have hf' := hf (Cluster.nodup_joiners_applyDelta hd p)
    rw [Cluster.upcoming_applyDelta hd p] at hf'
    exact .delta primary initialized hf'

/-- **The calls of a pass.**  A pass that starts after any history makes no call, bootstraps the first ready member where
no primary is left, or follows the script under its initialized primary, whatever happens and whatever its calls are
answered. -/
theorem pass_calls (config : Config) (stages : Bool) (group : String) (history : List Event)
    (h : ((Moment.fresh config stages group).run history).activity = .resting) (es : List Event) :
    let m := (Moment.fresh config stages group).run history
    m.cluster.handOver.Disciplined (m.passTrace es) := by
  intro m
  have hs : m.Sound (fun _ => True) :=
    Moment.sound_run (Moment.sound_fresh config stages group) (fun _ _ => trivial)
  exact Moment.disciplined_passTrace hs h es

/-- A cluster of two is joined, and one of its nodes is replaced by a third. -/
def replacement (a b c : Node) : List Event :=
  [.enter a, .enter b, .report a .serviceUp true, .report b .serviceUp true, .reconcile, .answer .done,
    .report a .coordinatorInitialized true, .reconcile, .answer .done, .answer .done, .answer .done,
    .depart b.id, .enter c, .report c .serviceUp true]

theorem pass_calls_replacement :
    let a : Node := ⟨0, ⟨"a"⟩, ⟨"h", 1⟩, ⟨"u", "p"⟩⟩
    let b : Node := ⟨1, ⟨"b"⟩, ⟨"h", 2⟩, ⟨"u", "p"⟩⟩
    let c : Node := ⟨2, ⟨"c"⟩, ⟨"h", 3⟩, ⟨"u", "p"⟩⟩
    let m := (Moment.fresh {} true "g").run (replacement a b c)
    let es : List Event := [.answer (.refused ⟨.alreadyMember, "h:3"⟩), .report c .serviceUp false, .answer .done,
      .answer .timedOut]
    m.activity = .resting ∧ m.cluster.handOver.Disciplined (m.passTrace es) ∧
      m.passTrace es =
        [⟨.join a.target c.address c.credentials, some (.refused ⟨.alreadyMember, "h:3"⟩)⟩,
          ⟨.leave a.target b.target, some .done⟩, ⟨.commit a.target, some .timedOut⟩] :=
  ⟨rfl, pass_calls {} true "g" _ rfl _, by decide⟩

end ClusterMembership
