import ClusterMembership.Proofs.Histories
import ClusterMembership.Proofs.Trackers
import Mathlib.Data.List.Infix
/-!
# Watching a cluster

A `Watch` is a cluster in one moment of its history together with the bus that its notices are published on and the
tracker that receives them.  Events of the cluster, handlings by the tracker's listener, restarts of the tracker and
changes of its configuration follow on each other in any order (`Watch.run`).  What a row of these publishes, what the
listener takes off the backlog and which passes the tracker asks for are `Watch.published`, `Watch.heard` and
`Watch.dispatches`; where nothing is lost, the first two and the backlog add up (`queue_conserved`).
-/
namespace ClusterMembership

/-! ## What an event announces and what it changes -/

namespace Moment

/-- The notices that an event gives. -/
def notices (m : Moment) : Event → List Notice
  | .enter n => (m.cluster.addMember n).2
  | .depart id => (m.cluster.removeMember id).2
  | .report n s value => (m.cluster.report n s value).2
  | _ => []

theorem notices_enter (m : Moment) (n : Node) :
    m.notices (.enter n) = if m.cluster.group.contains n.id then [] else [.added n] := by
  simp only [notices, Cluster.addMember, Group.add]
  split <;> rfl

theorem notices_depart (m : Moment) (id : NodeId) :
    m.notices (.depart id) = ((m.cluster.group.get? id).map Notice.removed).toList := by
  simp only [notices, Cluster.removeMember, Group.remove]
  split
  · next h => rw [h]; rfl
  · next n h => rw [h]; rfl

/-- **An event gives at most one notice.** -/
theorem length_notices (m : Moment) (e : Event) : (m.notices e).length ≤ 1 := by
  cases e with
  | enter n => rw [notices_enter]; split <;> simp
  | depart id => rw [notices_depart]; cases m.cluster.group.get? id <;> simp
  | report n s value => exact Nat.le_refl 1
  | _ => exact Nat.zero_le 1

theorem frame_step (m : Moment) {e : Event} (h : ∀ n, e ≠ .enter n) (h' : ∀ id, e ≠ .depart id)
    (hr : ∀ n s value, e ≠ .report n s value) :
    (m.step e).cluster.group.roster = m.cluster.group.roster ∧
    ∀ n s, (m.step e).cluster.signal n s = m.cluster.signal n s := by
  cases e with
  | enter n => exact absurd rfl (h n)
  | depart id => exact absurd rfl (h' id)
  | report n s value => exact absurd rfl (hr n s value)
  | mark b => exact ⟨rfl, fun _ _ => rfl⟩
  | reconcile => exact ⟨congrArg Group.roster (frame_reconcile m).group, (frame_reconcile m).signal⟩
  | recover failed sponsor => rw [step, cluster_recover]; exact ⟨rfl, fun _ _ => rfl⟩
  | answer a => exact ⟨congrArg Group.roster (frame_answer m a).group, (frame_answer m a).signal⟩

/-- **Which identities the group holds after an event.** -/
theorem contains_step (m : Moment) (e : Event) (id : NodeId) :
    (m.step e).cluster.group.contains id = true ↔
      match e with
      | .enter n => id = n.id ∨ m.cluster.group.contains id = true
      | .depart j => id ≠ j ∧ m.cluster.group.contains id = true
      | _ => m.cluster.group.contains id = true := by
  cases e with
  | enter n =>
    simp only [step, Cluster.addMember, Group.add]
    split
    · next hc => exact ⟨Or.inr, fun h => h.elim (fun h => by rw [h]; exact hc) fun h => h⟩
    · have hi := Roster.contains_insert m.cluster.group.roster n id
      rw [Group.contains, hi]
      simp [Group.contains]
  | depart j =>
    simp only [step, Cluster.removeMember, Group.remove]
    split
    · next hg =>
      refine ⟨fun h => ⟨fun he => ?_, h⟩, fun h => h.2⟩
      rw [he, Group.contains, Roster.contains_eq_isSome] at h
      rw [Group.get?] at hg
      rw [hg] at h
      cases h
    · have he := Roster.contains_erase m.cluster.group.roster j id
      rw [Group.contains, he]
      simp [Group.contains]
  | report n s value => exact Iff.rfl
  | _ => exact iff_of_eq (congrArg (fun r => Roster.contains r id = true)
      (m.frame_step (fun _ h => by cases h) (fun _ h => by cases h) (fun _ _ _ h => by cases h)).1)

/-- **What a signal is after an event.** -/
theorem signal_step (m : Moment) (e : Event) (n : Node) (s : Signal) :
    (m.step e).cluster.signal n s =
      match e with
      | .report k r value => if n = k ∧ s = r then value else m.cluster.signal n s
      | _ => m.cluster.signal n s := by
  cases e with
  | enter k => rfl
  | depart id => rfl
  | report k r value =>
    simp only [step, Cluster.report, Cluster.signal, FlagTable.signal, FlagTable.setSignal, FlagTable.get_update]
    by_cases hn : n = k
    · rw [if_pos hn, SignalSet.contains_write]
      by_cases hs : s = r <;> simp [hn, hs]
    · rw [if_neg hn, if_neg (fun h => hn h.1)]
  | _ => exact (m.frame_step (fun _ h => by cases h) (fun _ h => by cases h) (fun _ _ _ h => by cases h)).2 n s

end Moment

/-! ## Backlogs on a bus -/

deriving instance DecidableEq for Backlog

namespace Bus

variable {κ : Type} [DecidableEq κ] (b : Bus κ) (name : κ)

theorem backlog?_publish (x : Notice) :
    (b.publish x).backlog? name = (b.backlog? name).map fun log => log.push b.capacity x := by
  simp only [backlog?, publish, List.find?_map, Option.map_map]
  rfl

omit [DecidableEq κ] in
theorem capacity_foldl_publish (xs : List Notice) : (xs.foldl publish b).capacity = b.capacity := by
  induction xs generalizing b with
  | nil => rfl
  | cons x xs ih => exact ih (b.publish x)

theorem backlog?_foldl_publish (xs : List Notice) :
    (xs.foldl publish b).backlog? name = (b.backlog? name).map fun log => xs.foldl (Backlog.push b.capacity) log := by
  induction xs generalizing b with
  | nil => exact Option.map_id'.symm
  | cons x xs ih => rw [List.foldl_cons, ih, backlog?_publish, Option.map_map]; rfl

theorem backlog?_unsubscribe : (b.unsubscribe name).backlog? name = none := by
  rw [backlog?, Option.map_eq_none_iff, List.find?_eq_none]
  intro r hr
  have hne := (List.mem_filter.1 hr).2
  simpa using hne

theorem backlog?_subscribe : (b.subscribe name).backlog? name = some {} := by
  have hn := Option.map_eq_none_iff.1 (b.backlog?_unsubscribe name)
  simp only [backlog?, subscribe, List.find?_append, hn]
  simp

theorem backlog?_setBacklog (log : Backlog) :
    (b.setBacklog name log).backlog? name = (b.backlog? name).map fun _ => log := by
  simp only [backlog?, setBacklog]
  induction b.receivers with
  | nil => rfl
  | cons r rs ih =>
    rw [List.map_cons, List.find?_cons, List.find?_cons]
    by_cases h : r.1 = name
    · simp [h]
    · simp only [h, if_false, decide_false]
      exact ih

end Bus

/-! ## Runs -/

/-- What happens to a cluster that is watched. -/
inductive Occurrence where
  /-- Something happens to the cluster; its notices are published. -/
  | event (e : Event)
  /-- The tracker starts to listen. -/
  | start
  /-- The tracker listens no more. -/
  | stop
  /-- The tracker is given another configuration. -/
  | configure (c : TrackerConfig)
  /-- The listener takes one item off its backlog, if there is one, and hands it to the tracker. -/
  | listen

def Occurrence.isListen : Occurrence → Bool
  | .listen => true
  | _ => false

/-- The tracker is left as it is, but for what it hears. -/
def Occurrence.isSteady : Occurrence → Bool
  | .stop => false
  | .configure _ => false
  | _ => true

/-- A cluster, the bus its notices are published on, and its tracker. -/
structure Watch where
  moment : Moment
  bus : Bus Unit
  tracker : Tracker

namespace Watch

/-- A tracker that does not listen yet, over a cluster that nothing has happened to and a bus of any capacity. -/
def fresh (config : Config) (stages : Bool) (group : String) (capacity : Nat) (tracker : TrackerConfig) : Watch where
  moment := .fresh config stages group
  bus := { capacity }
  tracker := { config := tracker }

def cluster (w : Watch) : Cluster := w.moment.cluster

/-- The backlog of the tracker's listener, if it listens. -/
def backlog? (w : Watch) : Option Backlog := w.bus.backlog? ()

/-- The notices that the listener has still to take. -/
def queue (w : Watch) : List Notice := (w.backlog?.map (·.queue)).getD []

/-- What is published by an occurrence. -/
def notices (w : Watch) : Occurrence → List Notice
  | .event e => w.moment.notices e
  | _ => []

/-- What the listener takes, and the backlog that it leaves. -/
def taken? (w : Watch) : Occurrence → Option (Received × Backlog)
  | .listen => w.backlog?.bind Backlog.take?
  | _ => none

/-- The passes that the tracker asks for. -/
def asked (w : Watch) (o : Occurrence) : List Dispatch :=
  match w.taken? o with
  | some (r, _) => (w.tracker.handle w.cluster r).2
  | none => []

def step (w : Watch) : Occurrence → Watch
  | .event e => { w with moment := w.moment.step e, bus := (w.moment.notices e).foldl Bus.publish w.bus }
  | .start => if w.backlog?.isSome then w else { w with bus := w.bus.subscribe () }
  | .stop => { w with bus := w.bus.unsubscribe () }
  | .configure c => { w with tracker := { w.tracker with config := c } }
  | .listen =>
    match w.taken? .listen with
    | some (r, log) => { w with bus := w.bus.setBacklog () log, tracker := (w.tracker.handle w.cluster r).1 }
    | none => w

def run (w : Watch) (os : List Occurrence) : Watch := os.foldl step w

/-- What is published in a row of occurrences. -/
def published (w : Watch) : List Occurrence → List Notice
  | [] => []
  | o :: os => w.notices o ++ (w.step o).published os

/-- What the listener takes in a row of occurrences. -/
def heard (w : Watch) : List Occurrence → List Received
  | [] => []
  | o :: os => ((w.taken? o).map (·.1)).toList ++ (w.step o).heard os

/-- The passes that the tracker asks for in a row of occurrences. -/
def dispatches (w : Watch) : List Occurrence → List Dispatch
  | [] => []
  | o :: os => w.asked o ++ (w.step o).dispatches os

variable (w : Watch)

theorem notices_stop : w.notices .stop = [] := rfl

theorem notices_listen : w.notices .listen = [] := rfl

theorem run_append (before after : List Occurrence) : w.run (before ++ after) = (w.run before).run after :=
  List.foldl_append

theorem published_append (before after : List Occurrence) :
    w.published (before ++ after) = w.published before ++ (w.run before).published after := by
  induction before generalizing w with
  | nil => rfl
  | cons o os ih => rw [List.cons_append, published, published, ih (w.step o), List.append_assoc]; rfl

theorem dispatches_append (before after : List Occurrence) :
    w.dispatches (before ++ after) = w.dispatches before ++ (w.run before).dispatches after := by
  induction before generalizing w with
  | nil => rfl
  | cons o os ih => rw [List.cons_append, dispatches, dispatches, ih (w.step o), List.append_assoc]; rfl

/-! ## One occurrence -/

@[simp] theorem backlog?_event (e : Event) :
    (w.step (.event e)).backlog? =
      w.backlog?.map fun log => (w.moment.notices e).foldl (Backlog.push w.bus.capacity) log :=
  w.bus.backlog?_foldl_publish () (w.moment.notices e)

@[simp] theorem backlog?_start : (w.step .start).backlog? = some (w.backlog?.getD {}) := by
  rw [step]
  split
  · next h => obtain ⟨log, h⟩ := Option.isSome_iff_exists.1 h; rw [h]; rfl
  · next h =>
    rw [Option.not_isSome_iff_eq_none] at h
    rw [h]
    exact w.bus.backlog?_subscribe ()

@[simp] theorem backlog?_stop : (w.step .stop).backlog? = none := w.bus.backlog?_unsubscribe ()

@[simp] theorem backlog?_configure (c : TrackerConfig) : (w.step (.configure c)).backlog? = w.backlog? := rfl

theorem step_listen_of_none (h : w.taken? .listen = none) : w.step .listen = w := by rw [step, h]

theorem step_listen {r : Received} {log : Backlog} (h : w.taken? .listen = some (r, log)) :
    w.step .listen =
      { w with bus := w.bus.setBacklog () log, tracker := (w.tracker.handle w.cluster r).1 } := by
  rw [step, h]

theorem backlog?_listen {r : Received} {log : Backlog} (h : w.taken? .listen = some (r, log)) :
    (w.step .listen).backlog? = some log := by
  rw [step_listen w h]
  have hs : w.backlog?.isSome = true := by
    rw [taken?] at h
    cases hb : w.backlog? with
    | none => rw [hb] at h; cases h
    | some b => rfl
  obtain ⟨b, hb⟩ := Option.isSome_iff_exists.1 hs
  exact (w.bus.backlog?_setBacklog () log).trans (by rw [backlog?] at hb; rw [hb]; rfl)

theorem moment_step (o : Occurrence) :
    (w.step o).moment = match o with | .event e => w.moment.step e | _ => w.moment := by
  cases o with
  | event e => rfl
  | start => rw [step]; split <;> rfl
  | stop => rfl
  | configure c => rfl
  | listen => rw [step]; split <;> rfl

/-- Only a handling changes what the tracker remembers. -/
theorem seen_step {o : Occurrence} (h : o ≠ .listen) : (w.step o).tracker.seen = w.tracker.seen := by
  cases o with
  | event e => rfl
  | start => rw [step]; split <;> rfl
  | stop => rfl
  | configure c => rfl
  | listen => exact absurd rfl h

theorem get?_step {o : Occurrence} (h : o ≠ .listen) (id : NodeId) :
    (w.step o).tracker.get? id = w.tracker.get? id := by
  rw [Tracker.get?, seen_step w h]; rfl

theorem previous?_step {o : Occurrence} (h : o ≠ .listen) (id : NodeId) (s : Signal) :
    (w.step o).tracker.previous? id s = w.tracker.previous? id s := by
  rw [Tracker.previous?, get?_step w h]; rfl

/-- **What the listener makes of its backlog**: nothing where there is nothing, a full pass of a lag, and else what the
tracker makes of the oldest notice. -/
inductive Listens (w : Watch) : Prop
  | idle (empty : w.queue = []) (taken : w.taken? .listen = none) (same : w.step .listen = w)
      (asked : w.asked .listen = [])
  | lag {k : Nat} {rest : List Notice} (before : w.backlog? = some ⟨k + 1, rest⟩)
      (taken : w.taken? .listen = some (.lagged (k + 1), ⟨0, rest⟩))
      (after : (w.step .listen).backlog? = some ⟨0, rest⟩)
      (tracker : (w.step .listen).tracker = (w.tracker.handle w.cluster (.lagged (k + 1))).1)
      (asked : w.asked .listen = (w.tracker.handle w.cluster (.lagged (k + 1))).2)
  | notice {x : Notice} {rest : List Notice} (before : w.backlog? = some ⟨0, x :: rest⟩)
      (taken : w.taken? .listen = some (.notice x, ⟨0, rest⟩))
      (after : (w.step .listen).backlog? = some ⟨0, rest⟩)
      (tracker : (w.step .listen).tracker = (w.tracker.handle w.cluster (.notice x)).1)
      (asked : w.asked .listen = (w.tracker.handle w.cluster (.notice x)).2)

/-- What is taken is handed to the tracker. -/
theorem listen_taken {r : Received} {log : Backlog} (h : w.taken? .listen = some (r, log)) :
    (w.step .listen).backlog? = some log ∧ (w.step .listen).tracker = (w.tracker.handle w.cluster r).1 ∧
    w.asked .listen = (w.tracker.handle w.cluster r).2 :=
  ⟨w.backlog?_listen h, by rw [w.step_listen h], by rw [asked, h]⟩

/-- The oldest notice is taken. -/
theorem listen_notice {x : Notice} {rest : List Notice} (h : w.backlog? = some ⟨0, x :: rest⟩) :
    w.taken? .listen = some (.notice x, ⟨0, rest⟩) ∧ (w.step .listen).backlog? = some ⟨0, rest⟩ ∧
    (w.step .listen).tracker = (w.tracker.handle w.cluster (.notice x)).1 ∧
    w.asked .listen = (w.tracker.handle w.cluster (.notice x)).2 := by
  have ht : w.taken? .listen = some (.notice x, ⟨0, rest⟩) := by rw [taken?, h]; rfl
  exact ⟨ht, w.listen_taken ht⟩

theorem listens : w.Listens := by
  have hidle : w.queue = [] → w.taken? .listen = none → w.Listens := fun hq ht =>
    .idle hq ht (w.step_listen_of_none ht) (by rw [asked, ht])
  cases hb : w.backlog? with
  | none => exact hidle (by rw [queue, hb]; rfl) (by rw [taken?, hb]; rfl)
  | some log =>
    obtain ⟨_ | k, rest⟩ := log
    · cases rest with
      | nil => exact hidle (by rw [queue, hb]; rfl) (by rw [taken?, hb]; rfl)
      | cons x rest =>
        obtain ⟨taken, after, tracker, asked⟩ := w.listen_notice hb
        exact .notice hb taken after tracker asked
    · have ht : w.taken? .listen = some (.lagged (k + 1), ⟨0, rest⟩) := by rw [taken?, hb]; rfl
      obtain ⟨after, tracker, asked⟩ := w.listen_taken ht
      exact .lag hb ht after tracker asked

/-- **The passes that were counted are those that were asked for.** -/
theorem dispatched_step (o : Occurrence) :
    (w.step o).tracker.dispatched = w.tracker.dispatched + (w.asked o).length := by
  cases o with
  | event e => rfl
  | start => rw [step]; split <;> rfl
  | stop => rfl
  | configure c => rfl
  | listen =>
    cases w.listens with
    | idle _ _ same asked => rw [same, asked]; rfl
    | lag _ _ _ tracker asked => rw [tracker, asked, Tracker.dispatched_handle]
    | notice _ _ _ tracker asked => rw [tracker, asked, Tracker.dispatched_handle]

theorem dispatched_run (os : List Occurrence) :
    (w.run os).tracker.dispatched = w.tracker.dispatched + (w.dispatches os).length := by
  induction os generalizing w with
  | nil => rfl
  | cons o os ih =>
    refine (ih (w.step o)).trans ?_
    rw [dispatched_step, dispatches, List.length_append, Nat.add_assoc]

theorem taken?_of_ne_listen {o : Occurrence} (h : o ≠ .listen) : w.taken? o = none := by
  cases o with
  | listen => exact absurd rfl h
  | _ => rfl

theorem queue_of_backlog? {b : Backlog} (h : w.backlog? = some b) : w.queue = b.queue := by
  rw [queue, h]; rfl

theorem notices_cases (o : Occurrence) : w.notices o = [] ∨ ∃ x, w.notices o = [x] := by
  cases o with
  | event e =>
    have hl := w.moment.length_notices e
    rw [notices]
    rcases hn : w.moment.notices e with _ | ⟨x, _ | ⟨y, rest⟩⟩
    · exact Or.inl rfl
    · exact Or.inr ⟨x, rfl⟩
    · rw [hn] at hl; simp at hl
  | _ => exact Or.inl rfl

/-- What becomes of a backlog on an event. -/
theorem backlog?_event_cases {b : Backlog} (h : w.backlog? = some b) (e : Event) :
    w.notices (.event e) = [] ∧ (w.step (.event e)).backlog? = some b ∨
    ∃ x, w.notices (.event e) = [x] ∧ (w.step (.event e)).backlog? = some (b.push w.bus.capacity x) := by
  rw [backlog?_event, h]
  rcases w.notices_cases (.event e) with hn | ⟨x, hn⟩
  · exact Or.inl ⟨hn, by rw [notices] at hn; rw [hn]; rfl⟩
  · exact Or.inr ⟨x, hn, by rw [notices] at hn; rw [hn]; rfl⟩

/-- **What becomes of a backlog** that the listener neither takes from nor gives up. -/
theorem backlog?_step_cases {b : Backlog} (h : w.backlog? = some b) {o : Occurrence} (hl : o ≠ .listen)
    (hs : o ≠ .stop) :
    w.notices o = [] ∧ (w.step o).backlog? = some b ∨
    ∃ x, w.notices o = [x] ∧ (w.step o).backlog? = some (b.push w.bus.capacity x) := by
  cases o with
  | event e => exact w.backlog?_event_cases h e
  | start => exact Or.inl ⟨rfl, by rw [backlog?_start, h]; rfl⟩
  | stop => exact absurd rfl hs
  | configure c => exact Or.inl ⟨rfl, h⟩
  | listen => exact absurd rfl hl

theorem queue_of_none (h : w.backlog? = none) : w.queue = [] := by rw [queue, h]; rfl

/-- Without a backlog nothing is put on one. -/
theorem queue_step_of_none (h : w.backlog? = none) (o : Occurrence) : (w.step o).queue = [] := by
  cases o with
  | event e => rw [queue, backlog?_event, h]; rfl
  | start => rw [queue, backlog?_start, h]; rfl
  | stop => rw [queue, backlog?_stop]; rfl
  | configure c => rw [queue, backlog?_configure, h]; rfl
  | listen =>
    rw [step_listen_of_none w (by rw [taken?, h]; rfl)]
    exact w.queue_of_none h

/-- **A backlog grows at its end and is taken off at its head.** -/
theorem queue_step_suffix (o : Occurrence) : (w.step o).queue <:+ w.queue ++ w.notices o := by
  cases hb : w.backlog? with
  | none => rw [w.queue_step_of_none hb]; exact List.nil_suffix
  | some b =>
    by_cases hs : o = .stop
    · rw [hs, queue, backlog?_stop]; exact List.nil_suffix
    by_cases hl : o = .listen
    · rw [hl, notices_listen, List.append_nil]
      cases w.listens with
      | idle _ _ same _ => rw [same]
      | lag before _ after _ _ => rw [queue_of_backlog? w before, queue_of_backlog? _ after]
      | @notice x rest before _ after _ _ =>
        rw [queue_of_backlog? w before, queue_of_backlog? _ after]
        exact List.suffix_cons x rest
    rw [queue_of_backlog? w hb]
    rcases w.backlog?_step_cases hb hl hs with ⟨hn, ha⟩ | ⟨x, hn, ha⟩ <;> rw [queue_of_backlog? _ ha, hn]
    · exact ⟨[], by simp⟩
    · rw [Backlog.push]
      split
      · exact List.suffix_rfl
      · obtain ⟨t, ht⟩ := b.queue.tail_suffix
        exact ⟨t, by rw [← List.append_assoc, ht]⟩

/-! ## What is known of the nodes -/

end Watch

/-- The node that a notice is about. -/
def Notice.node : Notice → Node
  | .added n => n
  | .removed n => n
  | .changed n _ _ => n

/-- The nodes that an occurrence brings in are `known`. -/
def Occurrence.Concerns (known : Node → Prop) : Occurrence → Prop
  | .event (.enter n) => known n
  | .event (.report n _ _) => known n
  | _ => True

namespace Watch

variable {known : Node → Prop} {w : Watch}

/-- The cluster is sound, and the notices on the backlog are about known nodes. -/
structure Sound (known : Node → Prop) (w : Watch) : Prop where
  moment : w.moment.Sound known
  queue_known : ∀ x ∈ w.queue, known x.node

theorem sound_fresh (config : Config) (stages : Bool) (group : String) (capacity : Nat) (tracker : TrackerConfig) :
    (fresh config stages group capacity tracker).Sound known :=
  ⟨Moment.sound_fresh config stages group, fun _ hx => absurd hx List.not_mem_nil⟩

/-- What is announced, and of what. -/
inductive Announces (w : Watch) : Occurrence → Notice → Prop
  | added {n : Node} (free : w.cluster.group.contains n.id = false) : Announces w (.event (.enter n)) (.added n)
  | removed {n : Node} (member : n ∈ w.cluster.group.members) : Announces w (.event (.depart n.id)) (.removed n)
  | changed (n : Node) (s : Signal) (value : Bool) : Announces w (.event (.report n s value)) (.changed n s value)

/-- **Only entries, departures and reports are announced.** -/
theorem Sound.announces (h : w.Sound known) {o : Occurrence} {x : Notice} (hx : x ∈ w.notices o) :
    w.Announces o x := by
  cases o with
  | event e =>
    rw [notices] at hx
    cases e with
    | enter n =>
      rw [Moment.notices_enter] at hx
      split at hx
      · cases hx
      · next hfree =>
        cases List.mem_singleton.1 hx
        exact .added (Bool.eq_false_iff.2 hfree)
    | depart id =>
      rw [Moment.notices_depart, Option.mem_toList, Option.map_eq_some_iff] at hx
      obtain ⟨n, hn, rfl⟩ := hx
      obtain ⟨hm, rfl⟩ := h.moment.cluster.group_keyed.get?_eq_some_iff.1 hn
      exact .removed hm
    | report n s value =>
      cases List.mem_singleton.1 hx
      exact .changed n s value
    | _ => cases hx
  | _ => cases hx

theorem Sound.notices_known (h : w.Sound known) {o : Occurrence} (ho : o.Concerns known) :
    ∀ x ∈ w.notices o, known x.node := by
  intro x hx
  cases h.announces hx with
  | added _ => exact ho
  | removed member => exact h.moment.cluster.members_known _ member
  | changed _ _ _ => exact ho

theorem Sound.step (h : w.Sound known) {o : Occurrence} (ho : o.Concerns known) : (w.step o).Sound known := by
  refine ⟨?_, fun x hx => ?_⟩
  · rw [moment_step]
    cases o with
    | event e => exact h.moment.step e (fun n hn => by rw [hn] at ho; exact ho)
    | _ => exact h.moment
  · rcases List.mem_append.1 ((w.queue_step_suffix o).subset hx) with hx | hx
    · exact h.queue_known x hx
    · exact h.notices_known ho x hx

theorem Sound.run (h : w.Sound known) {os : List Occurrence} (ho : ∀ o ∈ os, o.Concerns known) :
    (w.run os).Sound known := by
  induction os generalizing w with
  | nil => exact h
  | cons o os ih => exact ih (h.step (ho o List.mem_cons_self)) (fun o' h' => ho o' (List.mem_cons_of_mem o h'))

/-! ## Before the tracker listens -/

/-- A tracker that does not listen remembers nothing. -/
def Unheard (w : Watch) : Prop := w.backlog? = none → w.tracker.seen = []

theorem backlog?_step_isSome {o : Occurrence} (h : w.backlog?.isSome = true) (hs : o ≠ .stop) :
    (w.step o).backlog?.isSome = true := by
  obtain ⟨b, hb⟩ := Option.isSome_iff_exists.1 h
  by_cases hl : o = .listen
  · subst hl
    cases w.listens with
    | idle _ _ same _ => rw [same]; exact h
    | lag _ _ after _ _ => rw [after]; rfl
    | notice _ _ after _ _ => rw [after]; rfl
  · rcases w.backlog?_step_cases hb hl hs with ⟨-, ha⟩ | ⟨x, -, ha⟩ <;> rw [ha] <;> rfl

theorem Unheard.step (h : w.Unheard) {o : Occurrence} (hs : o ≠ .stop) : (w.step o).Unheard := by
  intro hn
  have hb : w.backlog? = none := by
    cases hb : w.backlog? with
    | none => rfl
    | some b =>
      have := backlog?_step_isSome (o := o) (by rw [hb]; rfl) hs
      rw [hn] at this
      cases this
  by_cases hl : o = .listen
  · subst hl
    rw [step_listen_of_none w (by rw [taken?, hb]; rfl)]
    exact h hb
  · rw [seen_step w hl]; exact h hb

/-! ## Runs in which nothing is lost -/

/-- No notices were lost to the listener that it was not told of. -/
def KeepsUp (w : Watch) : Prop := ∀ log ∈ w.backlog?, log.missed = 0

instance (w : Watch) : Decidable w.KeepsUp := inferInstanceAs (Decidable (∀ log ∈ w.backlog?, log.missed = 0))

/-- The tracker is never stopped or given another configuration, and its backlog never overflows. -/
structure Smooth (w : Watch) (os : List Occurrence) : Prop where
  steady : ∀ o ∈ os, o.isSteady = true
  keepsUp : ∀ xs ∈ os.inits, (w.run xs).KeepsUp

instance (w : Watch) (os : List Occurrence) : Decidable (w.Smooth os) :=
  decidable_of_iff ((∀ o ∈ os, o.isSteady = true) ∧ ∀ xs ∈ os.inits, (w.run xs).KeepsUp)
    ⟨fun h => ⟨h.1, h.2⟩, fun h => ⟨h.1, h.2⟩⟩

theorem KeepsUp.backlog? (h : w.KeepsUp) (hl : w.backlog?.isSome = true) : w.backlog? = some ⟨0, w.queue⟩ := by
  obtain ⟨⟨missed, q⟩, hb⟩ := Option.isSome_iff_exists.1 hl
  obtain rfl : missed = 0 := h _ hb
  rw [queue_of_backlog? _ hb]
  exact hb

theorem Smooth.head {os : List Occurrence} (h : w.Smooth os) : w.KeepsUp :=
  h.keepsUp [] ((List.mem_inits _ _).2 List.nil_prefix)

theorem Smooth.ne_stop {o : Occurrence} {os : List Occurrence} (h : w.Smooth (o :: os)) : o ≠ .stop :=
  fun he => by cases h.steady .stop (by rw [he]; exact List.mem_cons_self)

theorem Smooth.tail {o : Occurrence} {os : List Occurrence} (h : w.Smooth (o :: os)) : (w.step o).Smooth os where
  steady := fun o' hm => h.steady o' (List.mem_cons_of_mem o hm)
  keepsUp := fun xs hx =>
    h.keepsUp (o :: xs) ((List.mem_inits _ _).2 ((List.prefix_cons_inj o).2 ((List.mem_inits _ _).1 hx)))

theorem Smooth.left {os more : List Occurrence} (h : w.Smooth (os ++ more)) : w.Smooth os where
  steady := fun o hm => h.steady o (List.mem_append_left _ hm)
  keepsUp := fun xs hx =>
    h.keepsUp xs ((List.mem_inits _ _).2 (((List.mem_inits _ _).1 hx).trans (List.prefix_append os more)))

theorem Smooth.right {os more : List Occurrence} (h : w.Smooth (os ++ more)) : (w.run os).Smooth more := by
  induction os generalizing w with
  | nil => exact h
  | cons o os ih => exact ih h.tail

theorem Smooth.config_step {o : Occurrence} {os : List Occurrence} (h : w.Smooth (o :: os)) :
    (w.step o).tracker.config = w.tracker.config := by
  cases o with
  | event e => rfl
  | start => rw [Watch.step]; split <;> rfl
  | stop => rfl
  | configure c => cases h.steady _ List.mem_cons_self
  | listen =>
    rw [Watch.step]
    split
    · exact Tracker.config_handle _ _ _
    · rfl

theorem Smooth.config_run {os : List Occurrence} (h : w.Smooth os) : (w.run os).tracker.config = w.tracker.config := by
  induction os generalizing w with
  | nil => rfl
  | cons o os ih => exact (ih h.tail).trans h.config_step

/-- **How a backlog goes on while nothing is lost.** -/
theorem Smooth.backlog?_step {o : Occurrence} {os : List Occurrence} (h : w.Smooth (o :: os)) {q : List Notice}
    (hb : w.backlog? = some ⟨0, q⟩) (ho : o ≠ .listen) : (w.step o).backlog? = some ⟨0, q ++ w.notices o⟩ := by
  rcases w.backlog?_step_cases hb ho h.ne_stop with ⟨hn, ha⟩ | ⟨x, hn, ha⟩
  · rw [ha, hn, List.append_nil]
  · have hk := h.tail.head _ ha
    rw [ha, hn]
    unfold Backlog.push at hk ⊢
    split at hk
    · next hc => rw [if_pos hc]
    · cases hk

/-- **What is published is heard in its order**: what was on the backlog and is published since is what is heard and
what is then on the backlog. -/
theorem queue_conserved {os : List Occurrence} (h : w.Smooth os) {q : List Notice} (hb : w.backlog? = some ⟨0, q⟩) :
    ∃ q' ns, (w.run os).backlog? = some ⟨0, q'⟩ ∧ w.heard os = ns.map .notice ∧ q ++ w.published os = ns ++ q' := by
  induction os generalizing w q with
  | nil => exact ⟨q, [], hb, rfl, List.append_nil q⟩
  | cons o os ih =>
    by_cases ho : o = .listen
    · subst ho
      have hn : w.notices .listen = [] := rfl
      rw [published, heard, hn, List.nil_append]
      cases w.listens with
      | idle _ taken same _ => rw [taken]; exact ih h.tail (by rw [same]; exact hb)
      | lag before _ _ _ _ => rw [hb] at before; cases before
      | @notice x rest before taken after _ _ =>
        obtain ⟨q', ns, hq, hns, he⟩ := ih h.tail after
        rw [hb] at before
        cases before
        exact ⟨q', x :: ns, hq, by rw [taken, hns]; rfl, by rw [List.cons_append, he]; rfl⟩
    · obtain ⟨q', ns, hq, hns, he⟩ := ih h.tail (h.backlog?_step hb ho)
      rw [published, heard, w.taken?_of_ne_listen ho]
      exact ⟨q', ns, hq, hns, by rw [← List.append_assoc, he]⟩

/-- What is heard was taken at some moment. -/
theorem heard_split {os : List Occurrence} {pre post : List Received} {r : Received}
    (h : w.heard os = pre ++ r :: post) :
    ∃ ahead since log, os = ahead ++ .listen :: since ∧ w.heard ahead = pre ∧
      (w.run ahead).taken? .listen = some (r, log) ∧ ((w.run ahead).step .listen).heard since = post := by
  induction os generalizing w pre with
  | nil => cases pre <;> cases h
  | cons o os ih =>
    rw [heard] at h
    cases ht : w.taken? o with
    | none =>
      rw [ht] at h
      obtain ⟨ahead, since, log, rfl, hpre, hr, hpost⟩ := ih h
      exact ⟨o :: ahead, since, log, rfl, by rw [heard, ht, hpre]; rfl, hr, hpost⟩
    | some taken =>
      have ho : o = .listen := by
        by_contra ho
        rw [w.taken?_of_ne_listen ho] at ht
        cases ht
      subst ho
      rw [ht] at h
      cases pre with
      | nil =>
        obtain ⟨rfl, hpost⟩ := List.cons.inj h
        exact ⟨[], os, taken.2, rfl, rfl, ht, hpost⟩
      | cons p pre =>
        obtain ⟨hp, hpre⟩ := List.cons.inj h
        obtain ⟨ahead, since, log, rfl, hpre, hr, hpost⟩ := ih hpre
        exact ⟨.listen :: ahead, since, log, rfl, by rw [heard, ht, hpre, ← hp]; rfl, hr, hpost⟩

/-- The notice that `w` has just published is the next to be taken: what was ahead of it on the backlog is gone, and
what was published since stands behind it. -/
def HasTurn (w : Watch) (x : Notice) (mid : List Occurrence) : Prop :=
  (w.run mid).backlog? = some ⟨0, x :: w.published mid⟩

instance (w : Watch) (x : Notice) (mid : List Occurrence) : Decidable (w.HasTurn x mid) :=
  inferInstanceAs (Decidable ((w.run mid).backlog? = some ⟨0, x :: w.published mid⟩))

/-- **Every notice on the backlog has its turn** once the listener has taken as many items as are ahead of it. -/
theorem turn_comes {os : List Occurrence} (h : w.Smooth os) {pre post : List Notice} {x : Notice}
    (hb : w.backlog? = some ⟨0, pre ++ x :: post⟩) (hc : pre.length < os.countP (·.isListen)) :
    ∃ mid rest, os = mid ++ .listen :: rest ∧
      (w.run mid).backlog? = some ⟨0, x :: (post ++ w.published mid)⟩ := by
  induction os generalizing w pre post with
  | nil => exact absurd hc (Nat.not_lt_zero _)
  | cons o os ih =>
    by_cases ho : o = .listen
    · subst ho
      cases pre with
      | nil => exact ⟨[], os, rfl, by rw [published, List.append_nil]; exact hb⟩
      | cons y pre =>
        have ha : (w.step .listen).backlog? = some ⟨0, pre ++ x :: post⟩ := (w.listen_notice hb).2.1
        obtain ⟨mid, rest, rfl, hm⟩ := ih h.tail ha (by simpa [List.countP_cons, Occurrence.isListen] using hc)
        exact ⟨.listen :: mid, rest, rfl, hm⟩
    · have ha := h.backlog?_step hb ho
      have hl : o.isListen = false := by cases o <;> first | rfl | exact absurd rfl ho
      rw [List.append_assoc, List.cons_append] at ha
      obtain ⟨mid, rest, rfl, hm⟩ := ih h.tail ha (by simpa [List.countP_cons, hl] using hc)
      exact ⟨o :: mid, rest, rfl, by rw [published, ← List.append_assoc]; exact hm⟩

end Watch

end ClusterMembership
