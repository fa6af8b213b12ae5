import ClusterMembership.Proofs.Watches
import Mathlib.Data.List.Induction
/-!
# What a tracker will compare a report with

A report that is published now is compared, once it has its turn, with the last report of its signal that is ahead of it
on the backlog, and with what the tracker remembers where there is none: `Watch.foreseen` tells that value in advance.
A report goes unheeded exactly where no pass was asked for while it waited and its value is the one foreseen
(`unheeded_iff`).  What is foreseen is what the signal is (`Watch.Current`), unless a report was lost that the tracker
has not made up for (`current_or_missed`).
-/
namespace ClusterMembership

/-! ## The last report on a backlog -/

/-- The value that a notice reports of a signal of the node of an identity. -/
def Notice.reported? (id : NodeId) (s : Signal) : Notice → Option Bool
  | .changed n r value => if n.id = id ∧ r = s then some value else none
  | _ => none

/-- The value that was reported last. -/
def lastReport? (id : NodeId) (s : Signal) (queue : List Notice) : Option Bool :=
  (queue.filterMap (·.reported? id s)).getLast?

section

variable {id : NodeId} {s : Signal}

theorem lastReport?_nil : lastReport? id s [] = none := rfl

theorem lastReport?_append (before after : List Notice) :
    lastReport? id s (before ++ after) = (lastReport? id s after).or (lastReport? id s before) := by
  rw [lastReport?, List.filterMap_append, List.getLast?_append]
  rfl

theorem lastReport?_singleton (x : Notice) : lastReport? id s [x] = x.reported? id s := by
  rw [lastReport?, List.filterMap_cons]
  cases x.reported? id s <;> rfl

theorem lastReport?_cons (x : Notice) (queue : List Notice) :
    lastReport? id s (x :: queue) = (lastReport? id s queue).or (x.reported? id s) := by
  rw [← lastReport?_singleton x, ← lastReport?_append]; rfl

theorem lastReport?_of_suffix {queue rest : List Notice} (h : rest <:+ queue) {value : Bool}
    (hr : lastReport? id s rest = some value) : lastReport? id s queue = some value := by
  obtain ⟨front, rfl⟩ := h
  rw [lastReport?_append, hr]; rfl

theorem lastReport?_eq_none_iff {queue : List Notice} :
    lastReport? id s queue = none ↔ ∀ x ∈ queue, x.reported? id s = none := by
  rw [lastReport?, List.getLast?_eq_none_iff, List.filterMap_eq_nil_iff]

theorem reported?_eq_some {x : Notice} {value : Bool} (h : x.reported? id s = some value) :
    ∃ n, n.id = id ∧ x = .changed n s value := by
  cases x with
  | added n => cases h
  | removed n => cases h
  | changed n r v =>
    rw [Notice.reported?] at h
    split at h
    · next hn => obtain ⟨hid, rfl⟩ := hn; cases h; exact ⟨n, hid, rfl⟩
    · cases h

end

namespace Watch

variable {known : Node → Prop} {w : Watch}

/-- The value that a report published now is going to be compared with. -/
def foreseen (w : Watch) (id : NodeId) (s : Signal) : Option Bool :=
  (lastReport? id s w.queue).or (w.tracker.previous? id s)

/-! ## Waiting for one's turn -/

/-- Where the notice `x` stands, which `w` has just published: it is gone from the backlog, a pass was asked for in the
meantime or is sure to be, or it waits behind `ahead` and the tracker has learnt nothing new. -/
inductive Stands (w : Watch) (x : Notice) (id : NodeId) (s : Signal) (expected : Option Bool)
    (mid : List Occurrence) : Prop
  | gone (h : (w.run mid).queue.length ≤ (w.published mid).length)
  | heeded (h : w.dispatches mid ≠ [])
  | lagging {k : Nat} {rest : List Notice} (h : (w.run mid).backlog? = some ⟨k + 1, rest⟩)
  | waiting (ahead : List Notice) (h : (w.run mid).backlog? = some ⟨0, ahead ++ x :: w.published mid⟩)
      (learnt : (lastReport? id s ahead).or ((w.run mid).tracker.previous? id s) = expected)

theorem run_concat (mid : List Occurrence) (o : Occurrence) : w.run (mid ++ [o]) = (w.run mid).step o :=
  w.run_append mid [o]

theorem published_concat (mid : List Occurrence) (o : Occurrence) :
    w.published (mid ++ [o]) = w.published mid ++ (w.run mid).notices o := by
  rw [published_append, published, published, List.append_nil]

theorem dispatches_concat (mid : List Occurrence) (o : Occurrence) :
    w.dispatches (mid ++ [o]) = w.dispatches mid ++ (w.run mid).asked o := by
  rw [dispatches_append, dispatches, dispatches, List.append_nil]

variable {x : Notice} {id : NodeId} {s : Signal} {expected : Option Bool} {mid : List Occurrence}

theorem Stands.of_gone {o : Occurrence} (h : (w.run mid).queue.length ≤ (w.published mid).length) :
    w.Stands x id s expected (mid ++ [o]) := by
  refine .gone ?_
  have hle := ((w.run mid).queue_step_suffix o).length_le
  rw [List.length_append] at hle
  rw [run_concat, published_concat, List.length_append]
  omega

/-- While the listener takes nothing, what waits goes on waiting, unless the backlog overflows. -/
theorem Stands.of_unheard {o : Occurrence} (hl : o ≠ .listen) (hs : o ≠ .stop) (h : w.Stands x id s expected mid) :
    w.Stands x id s expected (mid ++ [o]) := by
  have hseen : (w.run (mid ++ [o])).tracker.previous? id s = (w.run mid).tracker.previous? id s := by
    rw [run_concat, previous?_step _ hl]
  cases h with
  | gone h => exact .of_gone h
  | heeded h => exact .heeded (by rw [dispatches_concat]; exact List.append_ne_nil_of_left_ne_nil h _)
  | @lagging k rest h =>
    rcases (w.run mid).backlog?_step_cases h hl hs with ⟨-, ha⟩ | ⟨y, -, ha⟩ <;> rw [← run_concat] at ha
    · exact .lagging ha
    · rw [Backlog.push] at ha
      split at ha <;> exact .lagging ha
  | waiting ahead h learnt =>
    rcases (w.run mid).backlog?_step_cases h hl hs with ⟨hn, ha⟩ | ⟨y, hn, ha⟩ <;> rw [← run_concat] at ha
    · refine .waiting ahead ?_ (by rw [hseen]; exact learnt)
      rw [ha, published_concat, hn, List.append_nil]
    · rw [Backlog.push] at ha
      split at ha
      · refine .waiting ahead ?_ (by rw [hseen]; exact learnt)
        rw [ha, published_concat, hn, List.append_assoc, List.cons_append]
      · exact .lagging ha

/-- What is ahead is handled: a pass is asked for, or what it tells is what the tracker has seen already. -/
theorem Stands.of_heard (hi : (w.run mid).tracker.config.interest.contains s = true)
    (h : w.Stands x id s expected mid) : w.Stands x id s expected (mid ++ [.listen]) := by
  have hheeded : (w.run mid).asked .listen ≠ [] → w.Stands x id s expected (mid ++ [.listen]) := fun ha =>
    .heeded (by rw [dispatches_concat]; exact List.append_ne_nil_of_right_ne_nil _ ha)
  cases h with
  | gone h => exact .of_gone h
  | heeded h => exact .heeded (by rw [dispatches_concat]; exact List.append_ne_nil_of_left_ne_nil h _)
  | lagging h =>
    cases (w.run mid).listens with
    | idle _ taken _ _ => rw [taken?, h] at taken; cases taken
    | lag _ _ _ _ asked => exact hheeded (by rw [asked]; exact List.cons_ne_nil _ _)
    | notice before _ _ _ _ => rw [h] at before; cases before
  | waiting ahead h learnt =>
    cases ahead with
    | nil =>
      obtain ⟨-, after, -, -⟩ := (w.run mid).listen_notice h
      refine .gone ?_
      rw [run_concat, queue_of_backlog? _ after, published_concat, notices_listen, List.append_nil]
    | cons y ahead =>
      obtain ⟨-, after, tracker, asked⟩ := (w.run mid).listen_notice h
      by_cases hsilent : (w.run mid).asked .listen = []
      · rw [asked] at hsilent
        refine .waiting ahead ?_ ?_
        · rw [run_concat, after, published_concat, notices_listen, List.append_nil]; rfl
        · rw [run_concat, tracker, Tracker.previous?_handle_of_silent _ _ hsilent]
          rw [lastReport?_cons, Option.or_assoc] at learnt
          cases hy : y.reported? id s with
          | none => rw [hy, Option.none_or] at learnt; exact learnt
          | some value =>
            -- a report of this very signal that is let pass in silence repeats what was seen
            obtain ⟨n, rfl, rfl⟩ := reported?_eq_some hy
            obtain ⟨_, _, _, he, hseen⟩ := (Tracker.silent_handle_iff _ _ _).1 hsilent
            cases he
            rw [hy, (hseen hi).2] at learnt
            rw [(hseen hi).2]
            exact learnt
      · exact hheeded hsilent

theorem Stands.run {w₀ : Watch} (hi : ∀ xs, xs <+: mid → (w₀.run xs).tracker.config.interest.contains s = true)
    (h : w₀.Stands x id s expected []) : w₀.Stands x id s expected mid := by
  induction mid using List.reverseRecOn with
  | nil => exact h
  | append_singleton mid o ih =>
    have hm := ih (fun xs hx => hi xs (hx.trans (List.prefix_append mid [o])))
    by_cases hl : o = .listen
    · rw [hl]; exact hm.of_heard (hi mid (List.prefix_append mid [o]))
    · by_cases hs : o = .stop
      · refine .gone ?_
        rw [hs, run_concat, queue, backlog?_stop]
        exact Nat.zero_le _
      · exact hm.of_unheard hl hs

/-- A report that has just been published stands at the end of the backlog. -/
theorem stands_report (hl : w.backlog?.isSome = true) (n : Node) (s : Signal) (value : Bool) :
    (w.step (.event (.report n s value))).Stands (.changed n s value) n.id s (w.foreseen n.id s) [] := by
  obtain ⟨⟨missed, queue⟩, hb⟩ := Option.isSome_iff_exists.1 hl
  rcases w.backlog?_event_cases hb (.report n s value) with ⟨hn, -⟩ | ⟨y, hn, ha⟩
  · cases hn
  · obtain rfl : .changed n s value = y := (List.cons.inj hn).1
    rw [Backlog.push] at ha
    cases missed with
    | succ k => split at ha <;> exact .lagging ha
    | zero =>
      split at ha
      · refine .waiting queue ha ?_
        rw [foreseen, queue_of_backlog? w hb]
        rfl
      · exact .lagging ha

/-- **When a report goes unheeded.**  The report has its turn after `mid`.  No pass is asked for from its publication up
to and with its handling exactly where none was asked for while it waited, repeats are not to be heeded, and its value is
the one foreseen.  It does not matter how the tracker came to that value. -/
theorem unheeded_iff (hl : w.backlog?.isSome = true) {n : Node} {s : Signal} {value : Bool} {mid : List Occurrence}
    (hi : ∀ xs, xs <+: mid →
      ((w.step (.event (.report n s value))).run xs).tracker.config.interest.contains s = true)
    (ht : (w.step (.event (.report n s value))).HasTurn (.changed n s value) mid) :
    (w.step (.event (.report n s value))).dispatches (mid ++ [.listen]) = [] ↔
      (w.step (.event (.report n s value))).dispatches mid = [] ∧
      ((w.step (.event (.report n s value))).run mid).tracker.config.repeats = false ∧
      w.foreseen n.id s = some value := by
  have hstands := (stands_report hl n s value).run hi
  generalize w.step (.event (.report n s value)) = w' at hi ht hstands ⊢
  rw [HasTurn] at ht
  rw [dispatches_concat, List.append_eq_nil_iff]
  cases hstands with
  | gone h =>
    rw [queue_of_backlog? _ ht, List.length_cons] at h
    exact absurd h (Nat.not_succ_le_self _)
  | heeded h => exact ⟨fun hd => absurd hd.1 h, fun hd => absurd hd.1 h⟩
  | lagging h => rw [h] at ht; cases ht
  | waiting ahead h learnt =>
    rw [h] at ht
    have hq := (Backlog.mk.inj (Option.some.inj ht)).2
    obtain rfl : ahead = [] := by
      have hlen := congrArg List.length hq
      rw [List.length_append, List.length_cons] at hlen
      exact List.length_eq_zero_iff.1 (by omega)
    rw [lastReport?_nil, Option.none_or] at learnt
    refine and_congr_right fun _ => ?_
    obtain ⟨-, -, -, asked⟩ := (w'.run mid).listen_notice h
    rw [asked, Tracker.silent_handle_iff, ← learnt]
    constructor
    · rintro ⟨_, _, _, he, hseen⟩
      cases he
      exact hseen (hi mid List.prefix_rfl)
    · exact fun hseen => ⟨n, s, value, rfl, fun _ => hseen⟩

/-! ## What is foreseen and what is so -/

/-- **What an event reports is what the signal is then.** -/
theorem Sound.signal_step (hd : DistinctIds known) {n : Node} (hn : known n) (s : Signal) {o : Occurrence}
    (ho : o.Concerns known) :
    (w.step o).cluster.signal n s = (lastReport? n.id s (w.notices o)).getD (w.cluster.signal n s) := by
  have hquiet : lastReport? n.id s [] = none := lastReport?_nil
  cases o with
  | event e =>
    have hsig := w.moment.signal_step e n s
    cases e with
    | report k r value =>
      have hk : n = k ∧ s = r ↔ k.id = n.id ∧ r = s :=
        ⟨fun h => ⟨by rw [h.1], h.2.symm⟩, fun h => ⟨hd n k hn ho h.1.symm, h.2.symm⟩⟩
      have hr : lastReport? n.id s (w.notices (.event (.report k r value))) =
          if k.id = n.id ∧ r = s then some value else none := lastReport?_singleton _
      rw [hr]
      refine hsig.trans ?_
      simp only [hk]
      split <;> rfl
    | enter k =>
      have hr : lastReport? n.id s (w.notices (.event (.enter k))) = none := by
        rw [notices, Moment.notices_enter]
        split
        · rfl
        · exact lastReport?_singleton _
      rw [hr]; exact hsig
    | depart id =>
      have hr : lastReport? n.id s (w.notices (.event (.depart id))) = none := by
        rw [notices, Moment.notices_depart]
        cases w.moment.cluster.group.get? id with
        | none => rfl
        | some k => exact lastReport?_singleton _
      rw [hr]; exact hsig
    | _ => exact hsig
  | start => rw [cluster, moment_step]; rfl
  | stop => rfl
  | configure c => rfl
  | listen => rw [cluster, moment_step]; rfl

/-- The last report of a signal that is on the backlog tells what the signal is. -/
structure Faithful (known : Node → Prop) (w : Watch) : Prop where
  sound : w.Sound known
  last : ∀ n s value, known n → lastReport? n.id s w.queue = some value → w.cluster.signal n s = value

theorem faithful_fresh (config : Config) (stages : Bool) (group : String) (capacity : Nat) (tracker : TrackerConfig) :
    (fresh config stages group capacity tracker).Faithful known :=
  ⟨sound_fresh config stages group capacity tracker, fun _ _ _ _ h => by cases h⟩

theorem Faithful.step (hd : DistinctIds known) (h : w.Faithful known) {o : Occurrence} (ho : o.Concerns known) :
    (w.step o).Faithful known := by
  refine ⟨h.sound.step ho, fun n s value hn hl => ?_⟩
  have hl' := lastReport?_of_suffix (w.queue_step_suffix o) hl
  rw [lastReport?_append] at hl'
  rw [Sound.signal_step hd hn s ho]
  cases hr : lastReport? n.id s (w.notices o) with
  | some u => rw [hr] at hl'; exact Option.some.inj hl'
  | none => rw [hr, Option.none_or] at hl'; exact h.last n s value hn hl'

theorem Faithful.run (hd : DistinctIds known) (h : w.Faithful known) {os : List Occurrence}
    (ho : ∀ o ∈ os, o.Concerns known) : (w.run os).Faithful known := by
  induction os generalizing w with
  | nil => exact h
  | cons o os ih => exact ih (h.step hd (ho o List.mem_cons_self)) (fun o' h' => ho o' (List.mem_cons_of_mem o h'))

/-- What is foreseen of a signal, if anything, is what it is. -/
def Current (w : Watch) (n : Node) (s : Signal) : Prop :=
  ∀ value, w.foreseen n.id s = some value → w.cluster.signal n s = value

theorem current_fresh (config : Config) (stages : Bool) (group : String) (capacity : Nat) (tracker : TrackerConfig)
    (n : Node) (s : Signal) : (fresh config stages group capacity tracker).Current n s := fun _ h => by cases h

/-- The notices that the tracker is never going to learn from: those that nobody receives, that overflow the backlog,
that are on it when the tracker stops, and those it has no interest in. -/
def lost (w : Watch) : Occurrence → List Notice
  | .event e =>
    match w.backlog? with
    | none => w.moment.notices e
    | some b => if b.queue.length < w.bus.capacity then [] else (w.moment.notices e).flatMap fun _ => b.queue.take 1
  | .stop => w.queue
  | .listen =>
    match w.taken? .listen with
    | some (.notice (.changed n s value), _) =>
      if w.tracker.config.interest.contains s then [] else [.changed n s value]
    | _ => []
  | _ => []

/-- The tracker remembers a value of the signal, and a report that should have replaced it is lost. -/
def Misses (w : Watch) (n : Node) (s : Signal) (o : Occurrence) : Prop :=
  (w.tracker.previous? n.id s).isSome = true ∧ ∃ x ∈ w.lost o, (x.reported? n.id s).isSome = true

/-- The tracker comes to know the signal: a report of it is put on the backlog, or the node's addition or removal is
handled. -/
def Learns (w : Watch) (n : Node) (s : Signal) : Occurrence → Prop
  | .event e => w.backlog?.isSome = true ∧ ∃ value, e = .report n s value
  | .listen => ∃ k log, k.id = n.id ∧
      (w.taken? .listen = some (.notice (.added k), log) ∨ w.taken? .listen = some (.notice (.removed k), log))
  | _ => False

/-- What is published is put on the backlog or lost. -/
theorem lost_append_queue {o : Occurrence} (hl : o ≠ .listen) :
    w.queue ++ w.notices o = w.lost o ++ (w.step o).queue := by
  by_cases hs : o = .stop
  · rw [hs, notices_stop, queue, queue, backlog?_stop]; rfl
  cases hb : w.backlog? with
  | none =>
    rw [w.queue_of_none hb, w.queue_step_of_none hb, List.nil_append, List.append_nil]
    cases o with
    | event e => rw [lost, hb]; rfl
    | stop => exact absurd rfl hs
    | listen => exact absurd rfl hl
    | _ => rfl
  | some b =>
    rw [queue_of_backlog? w hb]
    have hkept : w.notices o = [] → w.lost o = [] := by
      intro hn
      cases o with
      | event e =>
        rw [notices] at hn
        rw [lost, hb]
        simp only [hn, List.flatMap_nil, ite_self]
      | stop => exact absurd rfl hs
      | listen => exact absurd rfl hl
      | _ => rfl
    rcases w.backlog?_step_cases hb hl hs with ⟨hn, ha⟩ | ⟨x, hn, ha⟩ <;> rw [queue_of_backlog? _ ha, hn]
    · rw [hkept hn, List.append_nil]; rfl
    · cases o with
      | event e =>
        rw [notices] at hn
        rw [lost, hb]
        simp only [hn, Backlog.push]
        split
        · rfl
        · rw [List.flatMap_singleton, ← List.append_assoc, ← List.drop_one, List.take_append_drop]
      | _ => cases hn

theorem not_reported_of_not_misses {n : Node} {s : Signal} {o : Occurrence} (hm : ¬ w.Misses n s o) {value : Bool}
    (hp : w.tracker.previous? n.id s = some value) : ∀ x ∈ w.lost o, x.reported? n.id s = none := by
  intro x hx
  by_contra hr
  exact hm ⟨by rw [hp]; rfl, x, hx, Option.isSome_iff_ne_none.2 hr⟩

/-- Where a report is on the backlog it is foreseen, and else what is remembered. -/
theorem Faithful.current (hf : w.Faithful known) {n : Node} (hn : known n) {s : Signal}
    (h : lastReport? n.id s w.queue = none → ∀ value, w.tracker.previous? n.id s = some value →
      w.cluster.signal n s = value) : w.Current n s := by
  intro value hv
  rw [foreseen] at hv
  cases hl : lastReport? n.id s w.queue with
  | some u => rw [hl] at hv; cases hv; exact hf.last n s value hn hl
  | none => rw [hl, Option.none_or] at hv; exact h hl value hv

/-- **A handling leaves what is foreseen what it is**, unless the report that is handled is of no interest. -/
theorem Current.listen (hd : DistinctIds known) (hf : w.Faithful known) {n : Node} (hn : known n) {s : Signal}
    (h : w.Current n s) (hm : ¬ w.Misses n s .listen) : (w.step .listen).Current n s := by
  refine (hf.step hd (o := .listen) trivial).current hn (fun hl value hv => ?_)
  have hsig : (w.step .listen).cluster.signal n s = w.cluster.signal n s := by rw [cluster, moment_step]; rfl
  rw [hsig]
  cases w.listens with
  | idle empty _ same _ => rw [same] at hv; exact h value (by rw [foreseen, empty]; exact hv)
  | lag before _ after tracker _ =>
    rw [queue_of_backlog? _ after] at hl
    rw [tracker, Tracker.previous?_handle] at hv
    exact h value (by rw [foreseen, queue_of_backlog? w before, hl]; exact hv)
  | @notice x rest before taken after tracker _ =>
    rw [queue_of_backlog? _ after] at hl
    have hq : w.queue = x :: rest := queue_of_backlog? w before
    have hunreported : x.reported? n.id s = none → w.tracker.previous? n.id s = some value →
        w.cluster.signal n s = value := fun hx hp =>
      h value (by rw [foreseen, hq, lastReport?_cons, hl, hx]; exact hp)
    rw [tracker, Tracker.previous?_handle] at hv
    cases x with
    | added k =>
      simp only at hv
      split at hv
      · next hid =>
        have hk : known k := hf.sound.queue_known (.added k) (by rw [hq]; exact List.mem_cons_self)
        rw [hd n k hn hk hid]
        exact Option.some.inj hv
      · exact hunreported rfl hv
    | removed k =>
      simp only at hv
      split at hv
      · cases hv
      · exact hunreported rfl hv
    | changed k r u =>
      simp only at hv
      split at hv
      · next hi =>
        obtain ⟨-, hid, rfl, -⟩ := hi
        have hx : (Notice.changed k s u).reported? n.id s = some u := if_pos ⟨hid.symm, rfl⟩
        exact h value (by rw [foreseen, hq, lastReport?_cons, hl, hx]; exact hv)
      · next hi =>
        -- a report that is of interest is noted where a value is remembered, and one that is not is lost
        refine hunreported ?_ hv
        by_cases hint : w.tracker.config.interest.contains r = true
        · exact if_neg (fun hid => hi ⟨hint, hid.1.symm, hid.2.symm, w.tracker.notes_of_previous? w.cluster hv hid.1⟩)
        · have hlost : w.lost .listen = [.changed k r u] := by
            rw [lost, taken]
            exact if_neg hint
          exact not_reported_of_not_misses hm hv _ (by rw [hlost]; exact List.mem_cons_self)

/-- **What is foreseen stays what is so** where no report is lost that should have replaced what is remembered. -/
theorem Current.step (hd : DistinctIds known) (hf : w.Faithful known) {n : Node} (hn : known n) {s : Signal}
    (h : w.Current n s) {o : Occurrence} (ho : o.Concerns known) (hm : ¬ w.Misses n s o) : (w.step o).Current n s := by
  by_cases hlisten : o = .listen
  · subst hlisten; exact h.listen hd hf hn hm
  refine (hf.step hd ho).current hn (fun hl value hv => ?_)
  rw [previous?_step w hlisten] at hv
  have hlost := lastReport?_eq_none_iff.2 (not_reported_of_not_misses hm hv)
  have hall : lastReport? n.id s (w.queue ++ w.notices o) = none := by
    rw [lost_append_queue hlisten, lastReport?_append, hl, hlost]; rfl
  rw [lastReport?_append, Option.or_eq_none_iff] at hall
  rw [Sound.signal_step hd hn s ho, hall.1]
  exact h value (by rw [foreseen, hall.2]; exact hv)

/-- **A tracker that comes to know a signal foresees what it is.** -/
theorem Learns.current (hd : DistinctIds known) (hf : w.Faithful known) {n : Node} (hn : known n) {s : Signal}
    {o : Occurrence} (ho : o.Concerns known) (h : w.Learns n s o) : (w.step o).Current n s := by
  refine (hf.step hd ho).current hn (fun hl value hv => ?_)
  cases o with
  | event e =>
    obtain ⟨hb, u, rfl⟩ := h
    obtain ⟨b, hb⟩ := Option.isSome_iff_exists.1 hb
    rcases w.backlog?_event_cases hb (.report n s u) with ⟨hn', -⟩ | ⟨x, hx, ha⟩
    · cases hn'
    · obtain rfl : .changed n s u = x := (List.cons.inj hx).1
      rw [queue_of_backlog? _ ha, Backlog.push, lastReport?_eq_none_iff] at hl
      have hmem : ∀ q : List Notice, Notice.changed n s u ∈ q ++ [.changed n s u] := fun q =>
        List.mem_append_right q List.mem_cons_self
      have hnone := hl (.changed n s u) (by split <;> exact hmem _)
      rw [Notice.reported?, if_pos ⟨rfl, rfl⟩] at hnone
      cases hnone
  | listen =>
    obtain ⟨k, log, hid, ht⟩ := h
    cases w.listens with
    | idle _ taken _ _ => rw [taken] at ht; rcases ht with ht | ht <;> cases ht
    | lag _ taken _ _ _ => rw [taken] at ht; rcases ht with ht | ht <;> cases ht
    | @notice x rest before taken after tracker _ =>
      rw [taken] at ht
      have hx : known x.node := hf.sound.queue_known x (by rw [queue_of_backlog? w before]; exact List.mem_cons_self)
      rw [tracker, Tracker.previous?_handle] at hv
      rcases ht with ht | ht <;> cases ht
      · simp only [hid, if_true] at hv
        rw [cluster, moment_step, hd n k hn hx hid.symm]
        exact Option.some.inj hv
      · simp only [hid, if_true] at hv
        cases hv
  | _ => exact h.elim

/-- Somewhere in `os` a report was missed, and the tracker has not come to know the signal since. -/
def MissedSince (w : Watch) (n : Node) (s : Signal) (os : List Occurrence) : Prop :=
  ∃ xs o ys, os = xs ++ o :: ys ∧ (w.run xs).Misses n s o ∧
    ∀ as o' bs, ys = as ++ o' :: bs → ¬ (w.run (xs ++ o :: as)).Learns n s o'

theorem MissedSince.concat {n : Node} {s : Signal} {os : List Occurrence} {o : Occurrence}
    (h : w.MissedSince n s os) (hl : ¬ (w.run os).Learns n s o) : w.MissedSince n s (os ++ [o]) := by
  obtain ⟨xs, o₁, ys, rfl, hm, hno⟩ := h
  refine ⟨xs, o₁, ys ++ [o], by rw [List.append_assoc, List.cons_append], hm, fun as o' bs hs => ?_⟩
  rcases List.eq_nil_or_concat' bs with rfl | ⟨bs, z, rfl⟩
  · obtain ⟨rfl, ho⟩ := List.append_inj' hs rfl
    obtain rfl := (List.cons.inj ho).1
    exact hl
  · rw [← List.cons_append, ← List.append_assoc] at hs
    exact hno as o' bs (List.append_inj' hs rfl).1

/-- **What is foreseen is what is so, unless a report was missed** that the tracker has not made up for. -/
theorem current_or_missed (hd : DistinctIds known) (hf : w.Faithful known) {n : Node} (hn : known n) {s : Signal}
    (h : w.Current n s) {os : List Occurrence} (ho : ∀ o ∈ os, o.Concerns known) :
    (w.run os).Current n s ∨ w.MissedSince n s os := by
  induction os using List.reverseRecOn with
  | nil => exact Or.inl h
  | append_singleton os o ih =>
    have hos : ∀ o' ∈ os, o'.Concerns known := fun o' h' => ho o' (List.mem_append_left _ h')
    have hc : o.Concerns known := ho o (List.mem_append_right _ List.mem_cons_self)
    have hf' := hf.run hd hos
    by_cases hl : (w.run os).Learns n s o
    · rw [run_concat]; exact Or.inl (hl.current hd hf' hn hc)
    · rcases ih hos with hcur | hmissed
      · by_cases hm : (w.run os).Misses n s o
        · exact Or.inr ⟨os, o, [], rfl, hm, fun as o' bs hs => by cases as <;> cases hs⟩
        · rw [run_concat]; exact Or.inl (hcur.step hd hf' hn hc hm)
      · exact Or.inr (hmissed.concat hl)

/-- **What a gap leaves behind.**  In every run, whatever was lost in it, a report of a signal of interest that reaches
the tracker goes unheeded exactly where no pass is asked for while it waits, repeats are not to be heeded, and its value
is the one foreseen.  Where no two nodes share an identity, a report that changes the signal can go unheeded only after a
report that was missed and that the tracker has not made up for: a full pass does not make up for it, and neither does a
restart or another configuration. -/
theorem unheeded_after_gap (config : Config) (stages : Bool) (group : String) (capacity : Nat)
    (tracker : TrackerConfig) (before : List Occurrence) (n : Node) (s : Signal) (value : Bool)
    (hl : ((fresh config stages group capacity tracker).run before).backlog?.isSome = true) (mid : List Occurrence)
    (hi : ∀ xs, xs <+: mid → (((((fresh config stages group capacity tracker).run before).step
      (.event (.report n s value))).run xs).tracker.config.interest.contains s) = true)
    (ht : (((fresh config stages group capacity tracker).run before).step
      (.event (.report n s value))).HasTurn (.changed n s value) mid) :
    let w := (fresh config stages group capacity tracker).run before
    let w' := w.step (.event (.report n s value))
    (w'.dispatches (mid ++ [.listen]) = [] ↔
      w'.dispatches mid = [] ∧ (w'.run mid).tracker.config.repeats = false ∧ w.foreseen n.id s = some value) ∧
    ∀ known, DistinctIds known → (∀ o ∈ before, o.Concerns known) → known n → w.cluster.signal n s ≠ value →
      w'.dispatches (mid ++ [.listen]) = [] → (fresh config stages group capacity tracker).MissedSince n s before := by
  intro w w'
  have hiff := unheeded_iff hl hi ht
  refine ⟨hiff, fun known hd ho hn hne hsilent => ?_⟩
  have hcases := current_or_missed hd (faithful_fresh config stages group capacity tracker) hn
    (current_fresh config stages group capacity tracker n s) ho
  rcases hcases with hc | hm
  · exact absurd (hc value (hiff.1 hsilent).2.2) hne
  · exact hm

/-- Of two reports the first overflows the backlog.  A full pass is asked for; but the next report of that signal, which
takes it back, is passed over. -/
theorem unheeded_after_gap_lagged :
    let a : Node := ⟨0, ⟨"a"⟩, ⟨"h", 1⟩, ⟨"u", "p"⟩⟩
    let w₀ := fresh {} false "g" 1 {}
    let before : List Occurrence := [.start, .event (.enter a), .listen, .event (.report a .serviceUp true),
      .event (.report a .processRunning true), .listen, .listen]
    let w := w₀.run before
    let w' := w.step (.event (.report a .serviceUp false))
    w.cluster.signal a .serviceUp = true ∧ (w₀.dispatches before).length = 3 ∧
      w'.HasTurn (.changed a .serviceUp false) [] ∧ w'.dispatches [.listen] = [] ∧ w₀.MissedSince a .serviceUp before := by
  intro a w₀ before w w'
  have hd : DistinctIds (· = a) := fun n m hn hm _ => hn.trans hm.symm
  have ht : w'.HasTurn (.changed a .serviceUp false) [] := by decide
  have hi : ∀ xs, xs <+: [] → (w'.run xs).tracker.config.interest.contains .serviceUp = true := by
    intro xs hx
    rw [List.prefix_nil.1 hx]
    decide
  obtain ⟨hiff, hmissed⟩ := unheeded_after_gap {} false "g" 1 {} before a .serviceUp false (by decide) [] hi ht
  have hsilent : w'.dispatches [.listen] = [] := hiff.2 (by decide)
  exact ⟨by decide, by decide, ht, hsilent,
    hmissed (· = a) hd (by simp [before, Occurrence.Concerns]) rfl (by decide) hsilent⟩

end Watch

end ClusterMembership
