import ClusterMembership.Proofs.HandOvers
import ClusterMembership.Proofs.Passages
/-!
# What a pass has to do

Under an initialized primary a pass goes through a list of deeds, settled when it starts: it takes the joiners in, drops
the leavers, and commits (`Cluster.deeds`).  A pass does them all, or it does those before the first one whose call fails
and nothing of that one (`goesThrough_pass`).  Each deed takes itself off the list and leaves the rest as it was
(`Led.deeds_of_done`), so what a broken pass leaves for the next one to do is what it did not get done.
-/
namespace ClusterMembership

/-- One thing that a pass has to do. -/
inductive Deed where
  /-- Record a node that is flagged active already, which takes no call. -/
  | record (n : Node)
  | join (n : Node)
  | leave (n : Node)
  | commit
deriving DecidableEq

namespace Deed

theorem toList_append_filterMap {β : Type*} (f : Deed → Option β) (deed : Deed) (ds : List Deed) :
    (f deed).toList ++ ds.filterMap f = (deed :: ds).filterMap f := by
  cases h : f deed <;> simp [h]

/-- The call that the deed takes. -/
def call? (t : Target) : Deed → Option Call
  | record _ => none
  | join n => some (.join t n.address n.credentials)
  | leave n => some (.leave t n.target)
  | commit => some (.commit t)

/-- What a pass comes to that cannot do the deed. -/
def failure (cause : String) : Deed → Failure
  | record n => .actionFailed .join n.id cause
  | join n => .actionFailed .join n.id cause
  | leave n => .actionFailed .leave n.id cause
  | commit => .commitFailed cause

/-- The node that the deed takes in. -/
def joiner? : Deed → Option Node
  | record n => some n
  | join n => some n
  | _ => none

/-- The node that the deed drops. -/
def leaver? : Deed → Option Node
  | leave n => some n
  | _ => none

def joined? (deed : Deed) : Option NodeId := deed.joiner?.map (·.id)

def left? (deed : Deed) : Option NodeId := deed.leaver?.map (·.id)

end Deed

namespace Cluster

/-- The cluster after a deed. -/
def perform (c : Cluster) : Deed → Cluster
  | .record n => c.enroll n.id n
  | .join n => c.markStaged.enroll n.id n
  | .leave n => c.markStaged.discharge n
  | .commit => { c with pendingCommit := false }

/-- The cluster after some deeds. -/
def performAll (c : Cluster) (ds : List Deed) : Cluster := ds.foldl perform c

/-- How a node is taken in. -/
def admission (c : Cluster) (n : Node) : Deed := if c.isActive n then .record n else .join n

/-- The deeds that joins and leaves take, a commit included where changes are staged. -/
def agenda (c : Cluster) (joins leaves : List Node) : List Deed :=
  joins.map c.admission ++ leaves.map .leave ++
    if c.stages && (c.pendingCommit || joins.any (!c.isActive ·) || !leaves.isEmpty) then [.commit] else []

/-- What there is to do under the primary `p`. -/
def deeds (c : Cluster) (p : Node) : List Deed := c.agenda c.joiners (c.leavers p)

/-- The cluster once a pass has settled on its primary `p` and recorded it. -/
def under (c : Cluster) (p : Node) : Cluster := { c.handOver with phase := .reconciling }.enrollPrimary p

end Cluster

/-! ## Doing them -/

namespace Passage

variable {σ : Type*}

/-- The pass has done all the deeds, each of whose calls succeeded, and may have rebalanced. -/
structure Completes (w : Passage σ) (t : Target) (joined left : List NodeId) (c : Cluster) (ds : List Deed) : Prop where
  exchanges : ∃ xs ys, w.exchanges = xs ++ ys ∧ xs.map (·.call) = ds.filterMap (·.call? t) ∧ (∀ x ∈ xs, x.Succeeded) ∧
    ∀ y ∈ ys, y.call = .rebalance t
  cluster : w.cluster = (c.performAll ds).publish
  result : ∃ committed rebalanced,
    w.result = .ok (.reconciled (joined ++ ds.filterMap Deed.joined?) (left ++ ds.filterMap Deed.left?)
      committed rebalanced)

/-- The pass has done the deeds `ds`, and failed at the call of the deed `broken`. -/
structure BreaksAt (w : Passage σ) (t : Target) (c : Cluster) (ds : List Deed) (broken : Deed) : Prop where
  exchanges : ∃ xs y, w.exchanges = xs ++ [y] ∧ xs.map (·.call) = ds.filterMap (·.call? t) ∧ (∀ x ∈ xs, x.Succeeded) ∧
    broken.call? t = some y.call ∧ ¬ y.Succeeded
  cluster : w.cluster = (c.performAll ds).publish
  result : ∃ cause, w.result = .error (broken.failure cause)

/-- The pass has done all the deeds, or those before one that failed. -/
def GoesThrough (w : Passage σ) (t : Target) (joined left : List NodeId) (c : Cluster) (ds : List Deed) : Prop :=
  w.Completes t joined left c ds ∨ ∃ done broken rest, ds = done ++ broken :: rest ∧ w.BreaksAt t c done broken

variable {w : Passage σ} {t : Target} {joined left joined' left' : List NodeId} {c : Cluster} {deed : Deed}
  {ds : List Deed}

theorem GoesThrough.recorded (hc : deed.call? t = none) (hj : joined' = joined ++ deed.joined?.toList)
    (hl : left' = left ++ deed.left?.toList) (h : w.GoesThrough t joined' left' (c.perform deed) ds) :
    w.GoesThrough t joined left c (deed :: ds) := by
  subst hj hl
  rcases h with ⟨⟨xs, ys, hw, hx, hs, hy⟩, hcl, committed, rebalanced, hr⟩ | ⟨done, broken, rest, rfl, hb⟩
  · refine Or.inl ⟨⟨xs, ys, hw, ?_, hs, hy⟩, hcl, committed, rebalanced, ?_⟩
    · rw [hx, List.filterMap_cons_none hc]
    · rw [hr, List.append_assoc, List.append_assoc, Deed.toList_append_filterMap, Deed.toList_append_filterMap]
  · obtain ⟨xs, y, hw, hx, hs, hy⟩ := hb.exchanges
    refine Or.inr ⟨deed :: done, broken, rest, rfl, ⟨xs, y, hw, ?_, hs, hy⟩, hb.cluster, hb.result⟩
    rw [hx, List.filterMap_cons_none hc]

theorem GoesThrough.called {x : Exchange} (hc : deed.call? t = some x.call) (hx : x.Succeeded)
    (hj : joined' = joined ++ deed.joined?.toList) (hl : left' = left ++ deed.left?.toList)
    (h : w.GoesThrough t joined' left' (c.perform deed) ds) : (w.after x).GoesThrough t joined left c (deed :: ds) := by
  subst hj hl
  have hcons : ∀ {xs : List Exchange}, (∀ y ∈ xs, y.Succeeded) → ∀ y ∈ x :: xs, y.Succeeded :=
    fun hs y hy => (List.mem_cons.1 hy).elim (fun he => he ▸ hx) (hs y)
  rcases h with ⟨⟨xs, ys, hw, hxs, hs, hy⟩, hcl, committed, rebalanced, hr⟩ | ⟨done, broken, rest, rfl, hb⟩
  · refine Or.inl ⟨⟨x :: xs, ys, congrArg (x :: ·) hw, ?_, hcons hs, hy⟩, hcl, committed, rebalanced, ?_⟩
    · rw [List.map_cons, hxs, List.filterMap_cons_some hc]
    · rw [after, hr, List.append_assoc, List.append_assoc, Deed.toList_append_filterMap, Deed.toList_append_filterMap]
  · obtain ⟨xs, y, hw, hxs, hs, hy⟩ := hb.exchanges
    refine Or.inr ⟨deed :: done, broken, rest, rfl, ⟨x :: xs, y, congrArg (x :: ·) hw, ?_, hcons hs, hy⟩, hb.cluster,
      hb.result⟩
    rw [List.map_cons, hxs, List.filterMap_cons_some hc]

theorem GoesThrough.broken {call : Call} {a : Answer} {s : σ} {cause : String} (hc : deed.call? t = some call)
    (ha : ¬ a.fulfils call = true) :
    (Passage.after ⟨c.publish, s, [], .error (deed.failure cause)⟩ ⟨call, some a⟩).GoesThrough t joined left c
      (deed :: ds) := by
  have hx : ¬ (⟨call, some a⟩ : Exchange).Succeeded := fun ⟨b, hb, hab⟩ => ha (by cases hb; exact hab)
  exact Or.inr ⟨[], deed, ds, rfl, ⟨[], ⟨call, some a⟩, rfl, rfl, fun _ h => absurd h List.not_mem_nil, hc, hx⟩, rfl,
    cause, rfl⟩

theorem GoesThrough.finished (h : ∀ y ∈ w.exchanges, y.call = .rebalance t) (hc : w.cluster = c.publish)
    {committed rebalanced : Bool} (hr : w.result = .ok (.reconciled joined left committed rebalanced)) :
    w.GoesThrough t joined left c [] := by
  refine Or.inl ⟨⟨[], w.exchanges, rfl, rfl, fun _ hx => absurd hx List.not_mem_nil, h⟩, hc, committed, rebalanced, ?_⟩
  simpa using hr

theorem GoesThrough.completes (h : w.GoesThrough t joined left c ds) (hs : w.Succeeds) :
    w.Completes t joined left c ds := by
  rcases h with h | ⟨done, broken, rest, -, hb⟩
  · exact h
  · obtain ⟨xs, y, hw, -, -, -, hy⟩ := hb.exchanges
    exact absurd (hs y (by rw [hw]; exact List.mem_append_right _ List.mem_cons_self)) hy

end Passage

namespace Cluster

variable {σ : Type*} (take : σ → Call → σ × Answer)

/-! ## The list, from its front -/

theorem agenda_nil (c : Cluster) : c.agenda [] [] = if c.stages && c.pendingCommit then [.commit] else [] := by
  simp [agenda]

theorem agenda_leave (c : Cluster) (n : Node) (leaves : List Node) :
    c.agenda [] (n :: leaves) = .leave n :: (c.perform (.leave n)).agenda [] leaves := by
  cases hs : c.stages <;> simp [agenda, perform, markStaged, discharge, setActive, hs]

theorem isActive_perform_admission (c : Cluster) {n m : Node} (h : m ≠ n) :
    (c.perform (c.admission n)).isActive m = c.isActive m := by
  unfold admission
  split
  · exact (isActive_enroll c n.id n m).trans (if_neg h)
  · exact (isActive_enroll c.markStaged n.id n m).trans (if_neg h)

theorem agenda_join (c : Cluster) {n : Node} {joins : List Node} (h : n ∉ joins) (leaves : List Node) :
    c.agenda (n :: joins) leaves = c.admission n :: (c.perform (c.admission n)).agenda joins leaves := by
  have ha : ∀ m ∈ joins, (c.perform (c.admission n)).isActive m = c.isActive m :=
    fun m hm => isActive_perform_admission c (fun he => h (by rw [← he]; exact hm))
  have hm : joins.map (c.perform (c.admission n)).admission = joins.map c.admission :=
    List.map_congr_left (fun m hm => if_congr (by rw [ha m hm]) rfl rfl)
  have hany : joins.any (!(c.perform (c.admission n)).isActive ·) = joins.any (!c.isActive ·) := by
    rw [Bool.eq_iff_iff, List.any_eq_true, List.any_eq_true]
    exact exists_congr fun m => and_congr_right fun hm => by rw [ha m hm]
  rw [agenda, agenda, hm, hany, List.map_cons, List.any_cons, List.cons_append, List.cons_append]
  congr 3
  -- a join stages a change, which is what makes a commit due for it
  unfold admission
  split
  · next hn => rw [hn]; rfl
  · next hn =>
    cases hs : c.stages <;> simp [perform, markStaged, enroll, setActive, hs, hn]

theorem filterMap_joiner?_deeds (c : Cluster) (p : Node) : (c.deeds p).filterMap Deed.joiner? = c.joiners := by
  have hj : c.joiners.filterMap (Deed.joiner? ∘ c.admission) = c.joiners := by
    refine (List.filterMap_congr (g := some) (fun n _ => ?_)).trans List.filterMap_some
    rw [Function.comp_apply, admission]
    split <;> rfl
  have hl : (c.leavers p).filterMap (Deed.joiner? ∘ Deed.leave) = [] := List.filterMap_eq_nil_iff.2 (fun _ _ => rfl)
  rw [deeds, agenda, List.filterMap_append, List.filterMap_append, List.filterMap_map, List.filterMap_map, hj, hl,
    List.append_nil]
  split <;> exact List.append_nil _

theorem filterMap_leaver?_deeds (c : Cluster) (p : Node) : (c.deeds p).filterMap Deed.leaver? = c.leavers p := by
  have hj : c.joiners.filterMap (Deed.leaver? ∘ c.admission) = [] := by
    refine List.filterMap_eq_nil_iff.2 (fun n _ => ?_)
    rw [Function.comp_apply, admission]
    split <;> rfl
  have hl : (c.leavers p).filterMap (Deed.leaver? ∘ Deed.leave) = c.leavers p := List.filterMap_some
  rw [deeds, agenda, List.filterMap_append, List.filterMap_append, List.filterMap_map, List.filterMap_map, hj, hl,
    List.nil_append]
  split <;> exact List.append_nil _

theorem filterMap_joined?_deeds (c : Cluster) (p : Node) :
    (c.deeds p).filterMap Deed.joined? = c.joiners.map (·.id) := by
  rw [← filterMap_joiner?_deeds c p, List.map_filterMap]
  rfl

theorem filterMap_left?_deeds (c : Cluster) (p : Node) :
    (c.deeds p).filterMap Deed.left? = (c.leavers p).map (·.id) := by
  rw [← filterMap_leaver?_deeds c p, List.map_filterMap]
  rfl

/-! ## A pass goes through them -/

theorem resume_bootstrapping_of_failure (c : Cluster) {n : Node} {a : Answer}
    (h : ¬ a.fulfils (.bootstrap n.target) = true) :
    ∃ cause, c.resume (.bootstrapping n) a =
      { c with phase := .noPrimary }.finish (.error (.bootstrapFailed n.id cause)) := by
  rw [← failure?_eq_none_iff (.bootstrap n.target) nofun a c.config.actionTimeout] at h
  obtain ⟨cause, hc⟩ := Option.ne_none_iff_exists'.1 h
  exact ⟨cause, by simp only [resume, hc]⟩

theorem resume_bootstrapping (c : Cluster) {n : Node} {a : Answer} (h : a.fulfils (.bootstrap n.target) = true) :
    c.resume (.bootstrapping n) a = c.forgetActive.assume n := by
  rw [← failure?_eq_none_iff (.bootstrap n.target) nofun a c.config.actionTimeout] at h
  simp only [resume, h]

theorem resume_joining_of_failure (c : Cluster) {d : Delta} {n : Node} {rest : List Node} {a : Answer}
    (h : ¬ a.fulfils (.join d.coordinator n.address n.credentials) = true) :
    ∃ cause, c.resume (.joining d n rest) a = c.finish (.error ((Deed.join n).failure cause)) := by
  rw [← joinFailure?_eq_none_iff c] at h
  obtain ⟨cause, hc⟩ := Option.ne_none_iff_exists'.1 h
  exact ⟨cause, by simp only [resume, hc]; rfl⟩

theorem resume_leaving_of_failure (c : Cluster) {d : Delta} {n : Node} {rest : List Node} {a : Answer}
    (h : ¬ a.fulfils (.leave d.coordinator n.target) = true) :
    ∃ cause, c.resume (.leaving d n rest) a = c.finish (.error ((Deed.leave n).failure cause)) := by
  rw [← failure?_eq_none_iff (.leave d.coordinator n.target) nofun a c.config.actionTimeout] at h
  obtain ⟨cause, hc⟩ := Option.ne_none_iff_exists'.1 h
  exact ⟨cause, by simp only [resume, hc]; rfl⟩

theorem resume_committing_of_failure (c : Cluster) {d : Delta} {a : Answer}
    (h : ¬ a.fulfils (.commit d.coordinator) = true) :
    ∃ cause, c.resume (.committing d) a = c.finish (.error (Deed.commit.failure cause)) := by
  rw [← failure?_eq_none_iff (.commit d.coordinator) nofun a c.config.actionTimeout] at h
  obtain ⟨cause, hc⟩ := Option.ne_none_iff_exists'.1 h
  exact ⟨cause, by simp only [resume, hc]; rfl⟩

theorem resume_joining (c : Cluster) {d : Delta} {n : Node} {rest : List Node} {a : Answer}
    (h : a.fulfils (.join d.coordinator n.address n.credentials) = true) :
    c.resume (.joining d n rest) a =
      (c.perform (.join n)).joinNext { d with joined := d.joined ++ [n.id] } rest := by
  rw [← joinFailure?_eq_none_iff c] at h
  simp only [resume, h]
  rfl

theorem resume_leaving (c : Cluster) {d : Delta} {n : Node} {rest : List Node} {a : Answer}
    (h : a.fulfils (.leave d.coordinator n.target) = true) :
    c.resume (.leaving d n rest) a = (c.perform (.leave n)).leaveNext { d with left := d.left ++ [n.id] } rest := by
  rw [← failure?_eq_none_iff (.leave d.coordinator n.target) nofun a c.config.actionTimeout] at h
  simp only [resume, h]
  rfl

theorem resume_committing (c : Cluster) {d : Delta} {a : Answer} (h : a.fulfils (.commit d.coordinator) = true) :
    c.resume (.committing d) a = (c.perform .commit).rebalanceNext d true := by
  rw [← failure?_eq_none_iff (.commit d.coordinator) nofun a c.config.actionTimeout] at h
  simp only [resume, h]
  rfl

theorem goesThrough_rebalanceNext (s : σ) (c : Cluster) (d : Delta) (committed : Bool) :
    (complete take s (c.rebalanceNext d committed)).GoesThrough d.coordinator d.joined d.left c [] := by
  unfold rebalanceNext
  split
  · rw [complete_calling, resume, complete_finish]
    exact .finished (fun y hy => by rw [List.mem_singleton.1 hy]) rfl rfl
  · rw [complete_finish]
    exact .finished (fun y hy => absurd hy List.not_mem_nil) rfl rfl

theorem goesThrough_commitNext (s : σ) (c : Cluster) (d : Delta) :
    (complete take s (c.commitNext d)).GoesThrough d.coordinator d.joined d.left c (c.agenda [] []) := by
  rw [agenda_nil]
  unfold commitNext
  split
  · rw [complete_calling]
    by_cases ha : (take s (.commit d.coordinator)).2.fulfils (.commit d.coordinator) = true
    · rw [resume_committing c ha]
      exact .called rfl ⟨_, rfl, ha⟩ (List.append_nil _).symm (List.append_nil _).symm
        (goesThrough_rebalanceNext take _ (c.perform .commit) d true)
    · obtain ⟨cause, hc⟩ := resume_committing_of_failure c ha
      rw [hc, complete_finish]
      exact .broken rfl ha
  · exact goesThrough_rebalanceNext take s c d false

theorem goesThrough_leaveNext (s : σ) (c : Cluster) (d : Delta) (leaves : List Node) :
    (complete take s (c.leaveNext d leaves)).GoesThrough d.coordinator d.joined d.left c (c.agenda [] leaves) := by
  induction leaves generalizing s c d with
  | nil => exact goesThrough_commitNext take s c d
  | cons n leaves ih =>
    rw [leaveNext, complete_calling, agenda_leave]
    by_cases ha : (take s (.leave d.coordinator n.target)).2.fulfils (.leave d.coordinator n.target) = true
    · rw [resume_leaving c ha]
      exact .called rfl ⟨_, rfl, ha⟩ (List.append_nil _).symm rfl
        (ih _ (c.perform (.leave n)) { d with left := d.left ++ [n.id] })
    · obtain ⟨cause, hc⟩ := resume_leaving_of_failure c ha
      rw [hc, complete_finish]
      exact .broken rfl ha

theorem goesThrough_joinNext (s : σ) (c : Cluster) (d : Delta) {joins : List Node} (h : joins.Nodup) :
    (complete take s (c.joinNext d joins)).GoesThrough d.coordinator d.joined d.left c (c.agenda joins d.leaves) := by
  induction joins generalizing s c d with
  | nil => exact goesThrough_leaveNext take s c d d.leaves
  | cons n joins ih =>
    obtain ⟨hn, hj⟩ := List.nodup_cons.1 h
    rw [joinNext, agenda_join c hn]
    split
    · next hact =>
      have hadm : c.admission n = .record n := if_pos hact
      rw [hadm]
      exact .recorded rfl rfl (List.append_nil _).symm
        (ih s (c.perform (.record n)) { d with joined := d.joined ++ [n.id] } hj)
    · next hact =>
      have hadm : c.admission n = .join n := if_neg hact
      rw [hadm, complete_calling]
      by_cases ha : (take s (.join d.coordinator n.address n.credentials)).2.fulfils
          (.join d.coordinator n.address n.credentials) = true
      · rw [resume_joining c ha]
        exact .called rfl ⟨_, rfl, ha⟩ rfl (List.append_nil _).symm
          (ih _ (c.perform (.join n)) { d with joined := d.joined ++ [n.id] } hj)
      · obtain ⟨cause, hc⟩ := resume_joining_of_failure c ha
        rw [hc, complete_finish]
        exact .broken rfl ha

theorem begin_of_initialized {c : Cluster} {p : Node} (hp : c.handOver.primary = some p)
    (hi : c.isInitialized p = true) : c.begin = { c.handOver with phase := .reconciling }.applyDelta p := by
  rw [← (frame_handOver c).isInitialized] at hi
  unfold begin
  simp only [hp, hi, if_true]

theorem frame_under (c : Cluster) (p : Node) : Frame c (c.under p) := by
  have hphase : Frame c.handOver { c.handOver with phase := .reconciling } := ⟨rfl, rfl, rfl, fun _ _ => rfl⟩
  exact (frame_handOver c).trans (hphase.trans (frame_enrollPrimary _ p))

/-- **A pass under an initialized primary** does what there is to do, up to the first deed whose call fails. -/
theorem goesThrough_pass {c : Cluster} (hk : c.group.roster.Keyed) {p : Node} (hp : c.handOver.primary = some p)
    (hi : c.isInitialized p = true) (s : σ) :
    (c.pass take s).GoesThrough p.target [] [] (c.under p) ((c.under p).deeds p) := by
  rw [pass, begin_of_initialized hp hi]
  refine goesThrough_joinNext take s _ _ ?_
  have hj : (c.under p).group.roster.Keyed := by rw [(frame_under c p).group]; exact hk
  exact hj.nodup_nodes.filter _

/-! ## Deeds take themselves off the list -/

variable {known : Node → Prop} {c : Cluster} {p : Node} {deed : Deed} {rest : List Deed}

/-- Nodes have identities of their own, and the primary `p` is recorded as active. -/
structure Led (known : Node → Prop) (p : Node) (c : Cluster) : Prop where
  sound : c.Sound known
  distinct : DistinctIds known
  primary_known : known p
  recorded : c.active.contains p.id = true

theorem mem_joiners {n : Node} :
    n ∈ c.joiners ↔ n ∈ c.group.members ∧ c.isReady n = true ∧ c.active.contains n.id = false := by
  rw [joiners, List.mem_filter, Bool.and_eq_true, Bool.not_eq_true']

theorem mem_newcomers {n : Node} :
    n ∈ c.newcomers p ↔ n ∈ c.group.members ∧ c.isReady n = true ∧ n.id ≠ p.id ∧ c.active.contains n.id = false := by
  rw [newcomers, List.mem_filter, Bool.and_eq_true, Bool.and_eq_true, decide_eq_true_eq, Bool.not_eq_true']

theorem mem_leavers {n : Node} :
    n ∈ c.leavers p ↔ n ∈ c.active.nodes ∧ n.id ≠ p.id ∧ (c.group.contains n.id = true → ¬ c.isReady n = true) := by
  simp only [leavers, List.mem_filter, Bool.and_eq_true, Bool.or_eq_true, Bool.not_eq_true', decide_eq_true_eq,
    ← Bool.not_eq_true]
  tauto

theorem active_perform_admission (c : Cluster) (n : Node) :
    (c.perform (c.admission n)).active = c.active.insert n.id n := by
  unfold admission; split <;> rfl

theorem memberWrites_markStaged (c : Cluster) : MemberWrites known c c.markStaged := .single (.pendingCommit _)

theorem memberWrites_perform_admission (c : Cluster) {n : Node} (h : known n) :
    MemberWrites known c (c.perform (c.admission n)) := by
  unfold admission
  split
  · exact .single (.enroll h)
  · exact (memberWrites_markStaged c).trans (.single (.enroll h))

theorem memberWrites_perform_leave (c : Cluster) {n : Node} (h : known n) :
    MemberWrites known c (c.perform (.leave n)) := (memberWrites_markStaged c).trans (.single (.discharge h))

/-- In a keyed roster the first of the nodes that a filter keeps is the only one with its identity. -/
theorem filter_id_ne_head {n : Node} {ns : List Node} (h : ((n :: ns).map (·.id)).Nodup) :
    (n :: ns).filter (fun m => decide (m.id ≠ n.id)) = ns := by
  rw [List.map_cons, List.nodup_cons] at h
  rw [List.filter_cons_of_neg (by simp), List.filter_eq_self]
  intro m hm
  exact decide_eq_true (fun he => h.1 (he ▸ List.mem_map_of_mem hm))

theorem Sound.nodup_joiners (h : c.Sound known) : (c.joiners.map (·.id)).Nodup := by
  have hk : (c.group.members.map (·.id)).Nodup := by
    rw [Group.members, h.group_keyed.map_id_nodes]; exact h.group_keyed.nodup
  exact hk.sublist (List.filter_sublist.map _)

theorem Sound.nodup_leavers (h : c.Sound known) (p : Node) : ((c.leavers p).map (·.id)).Nodup := by
  have hk : (c.active.nodes.map (·.id)).Nodup := by rw [h.active_keyed.map_id_nodes]; exact h.active_keyed.nodup
  exact hk.sublist (List.filter_sublist.map _)

theorem Sound.joiners_admission (h : c.Sound known) {n : Node} {ns : List Node} (hj : c.joiners = n :: ns) :
    (c.perform (c.admission n)).joiners = ns := by
  have hw : MemberWrites (fun _ => True) c (c.perform (c.admission n)) := memberWrites_perform_admission c trivial
  have hns := filter_id_ne_head (hj ▸ h.nodup_joiners)
  rw [← hj] at hns
  rw [joiners, hw.frame.group, hw.frame.isReady, active_perform_admission]
  refine Eq.trans ?_ hns
  rw [joiners, List.filter_filter]
  refine List.filter_congr (fun m _ => ?_)
  rw [Roster.contains_insert, Bool.not_or, decide_not]
  cases c.isReady m <;> simp

theorem Sound.leavers_admission (h : c.Sound known) {n : Node} (hn : n ∈ c.joiners) (p : Node) :
    (c.perform (c.admission n)).leavers p = c.leavers p := by
  have hw : MemberWrites (fun _ => True) c (c.perform (c.admission n)) := memberWrites_perform_admission c trivial
  obtain ⟨hm, hr, hc⟩ := mem_joiners.1 hn
  have hg : c.group.contains n.id = true := h.group_keyed.contains_of_mem hm
  rw [leavers, hw.frame.group, hw.frame.isReady, active_perform_admission, Roster.nodes_insert_of_not_contains n hc,
    List.filter_append, List.filter_cons_of_neg (by simp [hg, hr]), List.filter_nil, List.append_nil]
  rfl

theorem Sound.leavers_leave (h : c.Sound known) {n : Node} {ns : List Node} (hl : c.leavers p = n :: ns) :
    (c.perform (.leave n)).leavers p = ns := by
  have hw : MemberWrites (fun _ => True) c (c.perform (.leave n)) := memberWrites_perform_leave c trivial
  have hns := filter_id_ne_head (hl ▸ h.nodup_leavers p)
  rw [← hl] at hns
  have hnodes : (c.perform (.leave n)).active.nodes = c.active.nodes.filter fun m => decide (m.id ≠ n.id) :=
    h.active_keyed.nodes_erase n.id
  rw [leavers, hw.frame.group, hw.frame.isReady, hnodes]
  refine Eq.trans ?_ hns
  rw [leavers, List.filter_filter, List.filter_filter]
  exact List.filter_congr (fun m _ => Bool.and_comm _ _)

theorem Led.joiners_leave (h : c.Led known p) (hj : c.joiners = []) {n : Node} (hn : n ∈ c.leavers p) :
    (c.perform (.leave n)).joiners = [] := by
  have hw : MemberWrites (fun _ => True) c (c.perform (.leave n)) := memberWrites_perform_leave c trivial
  obtain ⟨hna, -, hout⟩ := mem_leavers.1 hn
  rw [List.eq_nil_iff_forall_not_mem]
  intro m hm
  obtain ⟨hmg, hmr, hmc⟩ := mem_joiners.1 hm
  rw [hw.frame.group] at hmg
  rw [hw.frame.isReady] at hmr
  have hmc' : (!decide (m.id = n.id) && c.active.contains m.id) = false := (Roster.contains_erase c.active n.id m.id) ▸ hmc
  by_cases hid : m.id = n.id
  · -- the leaver itself would have to be a ready member
    have he := h.distinct m n (h.sound.members_known m hmg) (h.sound.active_known n hna) hid
    subst he
    exact hout (h.sound.group_keyed.contains_of_mem hmg) hmr
  · have hc : c.active.contains m.id = false := by simpa [hid] using hmc'
    have hmj : m ∈ c.joiners := mem_joiners.2 ⟨hmg, hmr, hc⟩
    rw [hj] at hmj
    exact absurd hmj List.not_mem_nil

/-- **A deed takes itself off the list** and leaves the rest of it as it was. -/
theorem Led.step (h : c.Led known p) (hd : c.deeds p = deed :: rest) :
    MemberWrites known c (c.perform deed) ∧ (c.perform deed).Led known p ∧ (c.perform deed).deeds p = rest := by
  cases hj : c.joiners with
  | cons n joins =>
    have hn : n ∈ c.joiners := by rw [hj]; exact List.mem_cons_self
    have hnd : n ∉ joins := (List.nodup_cons.1 (hj ▸ List.Nodup.of_map _ h.sound.nodup_joiners)).1
    rw [deeds, hj, agenda_join c hnd, List.cons.injEq] at hd
    obtain ⟨rfl, rfl⟩ := hd
    have hw : MemberWrites known c (c.perform (c.admission n)) :=
      memberWrites_perform_admission c (h.sound.members_known n (mem_joiners.1 hn).1)
    refine ⟨hw, ⟨h.sound.writes hw.writes, h.distinct, h.primary_known, ?_⟩, ?_⟩
    · rw [active_perform_admission, Roster.contains_insert, h.recorded, Bool.or_true]
    · rw [deeds, h.sound.joiners_admission hj, h.sound.leavers_admission hn]
  | nil =>
    cases hl : c.leavers p with
    | cons n leaves =>
      have hn : n ∈ c.leavers p := by rw [hl]; exact List.mem_cons_self
      obtain ⟨hna, hne, -⟩ := mem_leavers.1 hn
      rw [deeds, hj, hl, agenda_leave, List.cons.injEq] at hd
      obtain ⟨rfl, rfl⟩ := hd
      have hw : MemberWrites known c (c.perform (.leave n)) :=
        memberWrites_perform_leave c (h.sound.active_known n hna)
      refine ⟨hw, ⟨h.sound.writes hw.writes, h.distinct, h.primary_known, ?_⟩, ?_⟩
      · refine (Roster.contains_erase c.active n.id p.id).trans ?_
        rw [h.recorded, decide_eq_false (fun he => hne he.symm)]; rfl
      · rw [deeds, h.joiners_leave hj hn, h.sound.leavers_leave hl]
    | nil =>
      rw [deeds, hj, hl, agenda_nil] at hd
      split at hd
      · cases hd
        have hw : MemberWrites known c (c.perform .commit) := .single (.pendingCommit false)
        refine ⟨hw, ⟨h.sound.writes hw.writes, h.distinct, h.primary_known, h.recorded⟩, ?_⟩
        have hj' : (c.perform .commit).joiners = [] := hj
        have hl' : (c.perform .commit).leavers p = [] := hl
        rw [deeds, hj', hl', agenda_nil]
        exact if_neg (by simp [perform])
      · cases hd

/-- **What is done is off the list**: once some of the deeds are done, in their order, the others are left to do. -/
theorem Led.deeds_of_done (h : c.Led known p) {done : List Deed} (hd : c.deeds p = done ++ rest) :
    MemberWrites known c (c.performAll done) ∧ (c.performAll done).Led known p ∧
      (c.performAll done).deeds p = rest := by
  induction done generalizing c with
  | nil => exact ⟨.refl c, h, hd⟩
  | cons deed done ih =>
    obtain ⟨hw, hl, hr⟩ := h.step hd
    obtain ⟨hw', hl', hr'⟩ := ih hl hr
    exact ⟨hw.trans hw', hl', hr'⟩

theorem agenda_eq_nil {joins leaves : List Node} (h : c.agenda joins leaves = []) :
    joins = [] ∧ leaves = [] ∧ ¬ (c.stages && c.pendingCommit) = true := by
  rw [agenda, List.append_eq_nil_iff, List.append_eq_nil_iff, List.map_eq_nil_iff, List.map_eq_nil_iff] at h
  obtain ⟨⟨rfl, rfl⟩, h⟩ := h
  refine ⟨rfl, rfl, fun hc => ?_⟩
  have h' : c.agenda [] [] = [] := h
  rw [agenda_nil, if_pos hc] at h'
  cases h'

/-- The active nodes are the primary `p` and the ready members. -/
def IsAligned (c : Cluster) (p : Node) : Prop := ∀ n, n ∈ c.active.nodes ↔ n = p ∨ n ∈ c.group.members ∧ c.isReady n = true

theorem Led.mem_active (h : c.Led known p) (hj : c.joiners = []) {n : Node} (hn : n ∈ c.group.members)
    (hr : c.isReady n = true) : n ∈ c.active.nodes := by
  by_contra hout
  have hm : n ∈ c.joiners := by
    refine mem_joiners.2 ⟨hn, hr, Bool.eq_false_iff.2 (fun hc => hout ?_)⟩
    obtain ⟨m, hm, hmid⟩ := h.sound.active_keyed.contains_iff_exists.1 hc
    exact h.distinct m n (h.sound.active_known m hm) (h.sound.members_known n hn) hmid ▸ hm
  rw [hj] at hm
  exact List.not_mem_nil hm

/-- **Where nothing is left to do**, the active nodes are the primary and the ready members. -/
theorem Led.isAligned (h : c.Led known p) (hd : c.deeds p = []) : c.IsAligned p := by
  obtain ⟨hj, hl, -⟩ := agenda_eq_nil hd
  intro n
  constructor
  · intro hn
    by_cases hid : n.id = p.id
    · exact Or.inl (h.distinct n p (h.sound.active_known n hn) h.primary_known hid)
    · by_contra hout
      have hm : n ∈ c.leavers p := by
        refine mem_leavers.2 ⟨hn, hid, fun hg hr => hout (Or.inr ⟨?_, hr⟩)⟩
        obtain ⟨m, hm, hmid⟩ := h.sound.group_keyed.contains_iff_exists.1 hg
        exact h.distinct m n (h.sound.members_known m hm) (h.sound.active_known n hn) hmid ▸ hm
      rw [hl] at hm
      exact List.not_mem_nil hm
  · rintro (rfl | ⟨hn, hr⟩)
    · obtain ⟨q, hq, hid⟩ := h.sound.active_keyed.contains_iff_exists.1 h.recorded
      exact h.distinct q n (h.sound.active_known q hq) h.primary_known hid ▸ hq
    · exact h.mem_active hj hn hr

theorem joiners_eq_nil_of_leave {n : Node} (hd : c.deeds p = .leave n :: rest) : c.joiners = [] := by
  cases hj : c.joiners with
  | nil => rfl
  | cons m joins =>
    rw [deeds, hj, agenda, List.map_cons, List.cons_append, List.cons_append, List.cons.injEq, admission] at hd
    obtain ⟨hadm, -⟩ := hd
    split at hadm <;> cases hadm

/-! ## Under a primary -/

theorem Sound.writes_under (h : c.Sound known) (hp : c.handOver.primary = some p) :
    Writes known c (c.under p) := by
  have hw := writes_handOver c h.members_known
  have hk : known p := (h.writes hw).primary_known p hp
  exact hw.trans ((MemberWrites.single (.phase .reconciling)).trans (memberWrites_enrollPrimary _ hk)).writes

theorem Sound.led_under (h : c.Sound known) (hd : DistinctIds known) (hp : c.handOver.primary = some p) :
    (c.under p).Led known p where
  sound := h.writes (h.writes_under hp)
  distinct := hd
  primary_known := (h.writes (writes_handOver c h.members_known)).primary_known p hp
  recorded := by rw [under, contains_enrollPrimary, decide_eq_true rfl, Bool.true_or]

theorem phase_under (c : Cluster) (p : Node) : (c.under p).phase = .reconciling := by
  unfold under enrollPrimary; split <;> rfl

theorem phase_perform (c : Cluster) (deed : Deed) : (c.perform deed).phase = c.phase := by cases deed <;> rfl

theorem phase_performAll (c : Cluster) (ds : List Deed) : (c.performAll ds).phase = c.phase := by
  induction ds generalizing c with
  | nil => rfl
  | cons deed ds ih => exact (ih (c.perform deed)).trans (phase_perform c deed)

theorem primary_under (hp : c.handOver.primary = some p) : (c.under p).primary = some p := by
  unfold under enrollPrimary; split <;> exact hp

theorem primary_perform (c : Cluster) (deed : Deed) : (c.perform deed).primary = c.primary := by cases deed <;> rfl

theorem primary_performAll (c : Cluster) (ds : List Deed) : (c.performAll ds).primary = c.primary := by
  induction ds generalizing c with
  | nil => rfl
  | cons deed ds ih => exact (ih (c.perform deed)).trans (primary_perform c deed)

theorem primary_goesThrough (hp : c.handOver.primary = some p) {w : Passage σ} {t : Target} {joined left : List NodeId}
    {ds : List Deed} (hw : w.GoesThrough t joined left (c.under p) ds) : w.cluster.primary = some p := by
  have hdone : ∀ done, ((c.under p).performAll done).primary = some p := fun done =>
    (primary_performAll _ done).trans (primary_under hp)
  rcases hw with hw | ⟨done, broken, rest, -, hw⟩
  · rw [hw.cluster]; exact hdone ds
  · rw [hw.cluster]; exact hdone done

theorem joiners_under (c : Cluster) (p : Node) : (c.under p).joiners = c.newcomers p := by
  have hf := frame_handOver c
  rw [under, joiners_enrollPrimary]
  show c.handOver.newcomers p = c.newcomers p
  rw [newcomers, newcomers, hf.group, hf.isReady, active_handOver]

theorem leavers_under (c : Cluster) (p : Node) : (c.under p).leavers p = c.leavers p := by
  have hf := frame_handOver c
  rw [under, leavers_enrollPrimary]
  show c.handOver.leavers p = c.leavers p
  rw [leavers, leavers, hf.group, hf.isReady, active_handOver]

theorem isActive_under {n : Node} (hn : n ∈ c.newcomers p) : (c.under p).isActive n = c.isActive n := by
  have hf := frame_handOver c
  have hn' : n ∈ ({ c.handOver with phase := .reconciling } : Cluster).newcomers p := by
    show n ∈ c.handOver.newcomers p
    rwa [newcomers, hf.group, hf.isReady, active_handOver]
  exact (isActive_enrollPrimary_of_mem hn').trans (isActive_handOver c n)

theorem Keeps.handOver_eq (h : c.Keeps p) : c.handOver = c := handOver_of_isHandedOver h.isHandedOver

/-- A cluster on which a pass has settled already is settled on again as it is. -/
theorem Keeps.under_eq (h : c.Keeps p) (hph : c.phase = .reconciling) (hrec : c.active.contains p.id = true) :
    c.under p = c := by
  have hphase : ({ c with phase := .reconciling } : Cluster) = c := by rw [← hph]
  rw [under, h.handOver_eq, hphase, enrollPrimary, if_pos hrec]

/-- **What a failed pass leaves** is settled on already, and what there is to do is what it did not get done. -/
theorem Sound.after_break (h : c.Sound known) (hd : DistinctIds known) (hk : c.handOver.Keeps p) {w : Passage σ}
    {t : Target} {done : List Deed} {broken : Deed} (hds : (c.under p).deeds p = done ++ rest)
    (hw : w.BreaksAt t (c.under p) done broken) :
    w.cluster.Keeps p ∧ w.cluster.under p = w.cluster ∧ w.cluster.Led known p ∧ w.cluster.deeds p = rest := by
  obtain ⟨hm, hl, hrest⟩ := (h.led_under hd hk.primary).deeds_of_done hds
  have hf := (frame_under c p).trans hm.frame
  have hf' := frame_handOver c
  have hkeeps : ((c.under p).performAll done).publish.Keeps p := by
    refine ⟨hm.primary.trans (primary_under hk.primary), ?_, ?_⟩
    · have hdep := hk.present
      rw [hf'.hasDeparted, ← hf.hasDeparted] at hdep; exact hdep
    · have hdue := hk.due
      rw [hf'.isOverdue, ← hf.isOverdue] at hdue; exact hdue
  have hw' : Writes known ((c.under p).performAll done) ((c.under p).performAll done).publish :=
    (MemberWrites.single .publish).writes
  rw [hw.cluster]
  refine ⟨hkeeps, hkeeps.under_eq ?_ hl.recorded,
    ⟨hl.sound.writes hw', hd, hl.primary_known, hl.recorded⟩, hrest⟩
  exact (phase_performAll _ done).trans (phase_under c p)

/-! ## How a pass ends -/

/-- What can come of a pass that nothing disturbs; what it starts on is what the hand-over leaves. -/
inductive Ends (c : Cluster) (s : σ) (w : Passage σ) : Prop
  /-- Nobody is ready. -/
  | unready (vacant : c.handOver.primary = none) (first : c.group.members.find? c.isReady = none)
      (eq : w = ⟨{ c.handOver with phase := .noPrimary }.publish, s, [], .ok (.deferred .noPrimary)⟩)
  /-- The first ready member is adopted. -/
  | adopted {n : Node} (vacant : c.handOver.primary = none) (first : c.group.members.find? c.isReady = some n)
      (initialized : c.isInitialized n = true)
      (eq : w = ⟨({ c.handOver with phase := .electingPrimary }.assume n).1, s, [], .ok (.elected n.id)⟩)
  /-- The first ready member is bootstrapped. -/
  | bootstrapped {n : Node} (vacant : c.handOver.primary = none) (first : c.group.members.find? c.isReady = some n)
      (cluster : w.cluster = ({ c.handOver with phase := .electingPrimary }.forgetActive.assume n).1)
      (result : w.result = .ok (.elected n.id))
  /-- The bootstrap of the first ready member fails. -/
  | refused {n : Node} {x : Exchange} {cause : String} (vacant : c.handOver.primary = none)
      (first : c.group.members.find? c.isReady = some n) (exchanges : w.exchanges = [x]) (failed : ¬ x.Succeeded)
      (cluster : w.cluster = { c.handOver with phase := .noPrimary }.publish)
      (result : w.result = .error (.bootstrapFailed n.id cause))
  /-- The primary is not initialized yet. -/
  | awaits {p : Node} (primary : c.handOver.primary = some p) (uninitialized : ¬ c.isInitialized p = true)
      (eq : w = ⟨{ c.handOver with phase := .awaitingCoordinator }.publish, s, [], .ok (.deferred .awaitingCoordinator)⟩)
  /-- The membership is brought in line under the primary. -/
  | reconciles {p : Node} (primary : c.handOver.primary = some p) (initialized : c.isInitialized p = true)
      (goes : w.GoesThrough p.target [] [] (c.under p) ((c.under p).deeds p))

theorem ends (hk : c.group.roster.Keyed) (s : σ) : c.Ends s (c.pass take s) := by
  have hf := frame_handOver c
  have hb := begins c
  have hg : ∀ {p}, c.handOver.primary = some p → c.isInitialized p = true →
      (c.pass take s).GoesThrough p.target [] [] (c.under p) ((c.under p).deeds p) :=
    fun hp hi => goesThrough_pass take hk hp hi s
  rw [← hf.isInitialized] at hg
  rw [pass] at hg ⊢
  generalize c.begin = q at hb hg ⊢
  cases hb with
  | unready vacant first =>
    rw [hf.group, hf.isReady] at first
    exact .unready vacant first (complete_finish take s _ _)
  | adopted vacant first initialized =>
    rw [hf.group, hf.isReady] at first
    rw [hf.isInitialized] at initialized
    exact .adopted vacant first initialized (complete_finish take s _ _)
  | @bootstraps n vacant first _ =>
    rw [hf.group, hf.isReady] at first
    rw [complete_calling]
    by_cases ha : (take s (.bootstrap n.target)).2.fulfils (.bootstrap n.target) = true
    · rw [resume_bootstrapping _ ha]
      exact .bootstrapped vacant first (congrArg Passage.cluster (complete_finish take _ _ _))
        (congrArg Passage.result (complete_finish take _ _ _))
    · obtain ⟨cause, hc⟩ := resume_bootstrapping_of_failure { c.handOver with phase := .electingPrimary } ha
      rw [hc, complete_finish]
      exact .refused vacant first rfl (fun ⟨b, hb, hab⟩ => ha (by cases hb; exact hab)) rfl rfl
  | awaits primary uninitialized =>
    rw [hf.isInitialized] at uninitialized
    exact .awaits primary uninitialized (complete_finish take s _ _)
  | reconciles primary initialized => exact .reconciles primary (hf.isInitialized ▸ initialized) (hg primary initialized)

/-- **A pass that reconciles** has done all there was to do under an initialized primary. -/
theorem completes_of_reconciled (hk : c.group.roster.Keyed) {s : σ} {joined left : List NodeId}
    {committed rebalanced : Bool} (hr : (c.pass take s).result = .ok (.reconciled joined left committed rebalanced)) :
    ∃ p, c.handOver.primary = some p ∧ c.isInitialized p = true ∧
      joined = (c.newcomers p).map (·.id) ∧ left = (c.leavers p).map (·.id) ∧
      (c.pass take s).Completes p.target [] [] (c.under p) ((c.under p).deeds p) := by
  have he := c.ends take hk s
  generalize c.pass take s = w at hr he ⊢
  cases he with
  | unready _ _ eq => rw [eq] at hr; cases hr
  | adopted _ _ _ eq => rw [eq] at hr; cases hr
  | bootstrapped _ _ _ result => rw [result] at hr; cases hr
  | refused _ _ _ _ _ result => rw [result] at hr; cases hr
  | awaits _ _ eq => rw [eq] at hr; cases hr
  | @reconciles p primary initialized goes =>
    rcases goes with hc | ⟨done, broken, rest, -, hb⟩
    · obtain ⟨committed', rebalanced', hr'⟩ := hc.result
      rw [hr, filterMap_joined?_deeds, filterMap_left?_deeds, joiners_under, leavers_under] at hr'
      cases hr'
      exact ⟨p, primary, initialized, rfl, rfl, hc⟩
    · obtain ⟨cause, hb⟩ := hb.result
      rw [hb] at hr
      cases hr

end Cluster

end ClusterMembership
