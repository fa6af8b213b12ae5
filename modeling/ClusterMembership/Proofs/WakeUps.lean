import ClusterMembership.Proofs.Foresight
/-!
# No wake-up is lost

While a tracker keeps up with what is published and is left as it is, it misses no report of a signal that it is to look
after (`Smooth.not_misses`), so that what it foresees of a signal is what the signal is (`Smooth.current`).  Hence a
report that changes a signal is never taken for a repeat, although the tracker may have seen the change before it heard
of it: every change of the membership, and every change of such a signal of a member, is followed by a pass no later than
its notice is handled (`no_wakeup_lost`).
-/
namespace ClusterMembership.Watch

variable {known : Node → Prop} {w : Watch} {n : Node} {s : Signal}

/-- The event is one that a pass has to follow: the membership changes, or a signal of interest of a member does. -/
def Stirs (w : Watch) : Event → Prop
  | .enter n => w.cluster.group.contains n.id = false
  | .depart id => w.cluster.group.contains id = true
  | .report n s value =>
    n ∈ w.cluster.group.members ∧ w.tracker.config.interest.contains s = true ∧ w.cluster.signal n s ≠ value
  | _ => False

/-- **A tracker that keeps up misses nothing** of what it is to look after. -/
theorem Smooth.not_misses {o : Occurrence} {os : List Occurrence} (h : w.Smooth (o :: os)) (hu : w.Unheard)
    (hi : w.tracker.config.interest.contains s = true) : ¬ w.Misses n s o := by
  rintro ⟨hp, x, hx, hr⟩
  cases o with
  | event e =>
    cases hb : w.backlog? with
    | none =>
      rw [Tracker.previous?, Tracker.get?, hu hb] at hp
      cases hp
    | some b =>
      rw [lost, hb] at hx
      simp only at hx
      split at hx
      · cases hx
      · next hfull =>
        -- the backlog is full, so that what it loses is counted
        obtain ⟨y, hy, -⟩ := List.mem_flatMap.1 hx
        rcases w.backlog?_event_cases hb e with ⟨hn, -⟩ | ⟨z, -, ha⟩
        · rw [notices] at hn; rw [hn] at hy; cases hy
        · have hk := h.tail.head _ ha
          rw [Backlog.push, if_neg hfull] at hk
          cases hk
  | start => cases hx
  | stop => exact absurd rfl h.ne_stop
  | configure c => cases hx
  | listen =>
    cases w.listens with
    | idle _ taken _ _ => rw [lost, taken] at hx; cases hx
    | lag _ taken _ _ _ => rw [lost, taken] at hx; cases hx
    | @notice y rest _ taken _ _ _ =>
      rw [lost, taken] at hx
      cases y with
      | added k => cases hx
      | removed k => cases hx
      | changed k r value =>
        simp only at hx
        split at hx
        · cases hx
        · next hni =>
          rw [List.mem_singleton.1 hx] at hr
          obtain ⟨u, hu⟩ := Option.isSome_iff_exists.1 hr
          obtain ⟨_, -, he⟩ := reported?_eq_some hu
          cases he
          exact hni hi

/-- **A tracker that keeps up foresees what is so.** -/
theorem Smooth.current (hd : DistinctIds known) (hn : known n) {os : List Occurrence} (h : w.Smooth os)
    (ho : ∀ o ∈ os, o.Concerns known) (hi : w.tracker.config.interest.contains s = true) (hf : w.Faithful known)
    (hu : w.Unheard) (hc : w.Current n s) : (w.run os).Current n s := by
  induction os generalizing w with
  | nil => exact hc
  | cons o os ih =>
    have ho' : o.Concerns known := ho o List.mem_cons_self
    exact ih h.tail (fun o' h' => ho o' (List.mem_cons_of_mem o h')) (by rw [h.config_step]; exact hi)
      (hf.step hd ho') (hu.step h.ne_stop) (hc.step hd hf hn ho' (h.not_misses hu hi))

theorem notices_of_stirs {e : Event} (h : w.Stirs e) : ∃ x, w.notices (.event e) = [x] := by
  cases e with
  | enter n =>
    have hc : w.moment.cluster.group.contains n.id = false := h
    exact ⟨.added n, by rw [notices, Moment.notices_enter, hc]; rfl⟩
  | depart id =>
    have hc : (w.moment.cluster.group.roster.get? id).isSome = true := by
      rw [← Roster.contains_eq_isSome]; exact h
    obtain ⟨n, hn⟩ := Option.isSome_iff_exists.1 hc
    exact ⟨.removed n, by rw [notices, Moment.notices_depart, Group.get?, hn]; rfl⟩
  | report n s value => exact ⟨.changed n s value, rfl⟩
  | _ => exact h.elim

theorem event_of_changed {e : Event} {value : Bool} (h : w.notices (.event e) = [.changed n s value]) :
    e = .report n s value := by
  rw [notices] at h
  cases e with
  | enter k => rw [Moment.notices_enter] at h; split at h <;> cases h
  | depart id => rw [Moment.notices_depart] at h; cases hg : w.moment.cluster.group.get? id <;> rw [hg] at h <;> cases h
  | report k r u => cases h; rfl
  | _ => cases h

/-- **What a pass has to follow is not passed over** where the tracker foresees what is so. -/
theorem Stirs.heeded {e : Event} {x : Notice} (he : w.Stirs e) (hx : w.notices (.event e) = [x])
    (hl : w.backlog?.isSome = true) (hc : ∀ n s value, e = .report n s value → w.Current n s) {mid : List Occurrence}
    (hm : (w.step (.event e)).Smooth mid) (ht : (w.step (.event e)).HasTurn x mid) :
    (w.step (.event e)).dispatches (mid ++ [.listen]) ≠ [] := by
  intro hnone
  obtain ⟨-, -, -, asked⟩ := ((w.step (.event e)).run mid).listen_notice ht
  have hsilent := (List.append_eq_nil_iff.1 ((dispatches_concat mid .listen).symm.trans hnone)).2
  rw [asked, Tracker.silent_handle_iff] at hsilent
  obtain ⟨n, s, value, hchanged, -⟩ := hsilent
  -- only a report can be passed over, and one that changes a signal tells what is not foreseen
  obtain rfl : x = .changed n s value := Received.notice.inj hchanged
  obtain rfl := event_of_changed hx
  obtain ⟨-, hi, hne⟩ := he
  have hi' : ∀ xs, xs <+: mid →
      ((w.step (.event (.report n s value))).run xs).tracker.config.interest.contains s = true := by
    rintro xs ⟨ys, rfl⟩
    rw [hm.left.config_run]
    exact hi
  exact hne (hc n s value rfl value ((unheeded_iff hl hi' ht).1 hnone).2.2)

/-- **No wake-up is lost.**  Of a tracker that is left as it is and keeps up, listening since some moment, and of nodes
no two of which share an identity: a change of the membership, and a change of a signal of interest of a member, gives
one notice, and from the change up to and with the handling of that notice a pass is asked for.  The notice is handled
once the listener has taken as many items as were ahead of it. -/
theorem no_wakeup_lost (config : Config) (stages : Bool) (group : String) (capacity : Nat)
    (tracker : TrackerConfig) (hd : DistinctIds known) (before after : List Occurrence) (e : Event)
    (ho : ∀ o ∈ before ++ .event e :: after, o.Concerns known)
    (hs : (fresh config stages group capacity tracker).Smooth (before ++ .event e :: after))
    (hl : ((fresh config stages group capacity tracker).run before).backlog?.isSome = true)
    (he : ((fresh config stages group capacity tracker).run before).Stirs e) :
    let w := (fresh config stages group capacity tracker).run before
    ∃ x, w.notices (.event e) = [x] ∧
      (∀ mid rest, after = mid ++ .listen :: rest → (w.step (.event e)).HasTurn x mid →
        (w.step (.event e)).dispatches (mid ++ [.listen]) ≠ []) ∧
      (w.queue.length < after.countP (·.isListen) →
        ∃ mid rest, after = mid ++ .listen :: rest ∧ (w.step (.event e)).HasTurn x mid) := by
  intro w
  obtain ⟨x, hx⟩ := notices_of_stirs he
  have hafter : (w.step (.event e)).Smooth after := hs.right.tail
  refine ⟨x, hx, fun mid rest hsplit ht => ?_, fun hc => ?_⟩
  · have hm : (w.step (.event e)).Smooth mid := by rw [hsplit] at hafter; exact hafter.left
    refine he.heeded hx hl (fun n s value hr => ?_) hm ht
    subst hr
    have hn : known n := ho (.event (.report n s value)) (List.mem_append_right _ List.mem_cons_self)
    have hi : (fresh config stages group capacity tracker).tracker.config.interest.contains s = true := by
      rw [← hs.left.config_run]; exact he.2.1
    exact hs.left.current hd hn (fun o h => ho o (List.mem_append_left _ h)) hi
      (faithful_fresh config stages group capacity tracker) (fun _ => rfl)
      (current_fresh config stages group capacity tracker n s)
  · have ha := hs.right.backlog?_step (hs.right.head.backlog? hl) (fun h => by cases h)
    rw [hx] at ha
    exact turn_comes hafter ha hc

/-- A node reports before its addition is handled.  The tracker learns of the change when it handles the addition, and
passes over the report. -/
theorem no_wakeup_lost_seededAhead :
    let a : Node := ⟨0, ⟨"a"⟩, ⟨"h", 1⟩, ⟨"u", "p"⟩⟩
    let w := (fresh {} false "g" 16 {}).run [.start, .event (.enter a)]
    let w' := w.step (.event (.report a .serviceUp true))
    w.Stirs (.report a .serviceUp true) ∧ w'.HasTurn (.changed a .serviceUp true) [.listen] ∧
      (w'.run [.listen]).asked .listen = [] ∧ w'.dispatches [.listen, .listen] ≠ [] := by
  intro a w w'
  have hd : DistinctIds (· = a) := fun n m hn hm _ => hn.trans hm.symm
  have hs : (fresh {} false "g" 16 {}).Smooth
      ([.start, .event (.enter a)] ++ .event (.report a .serviceUp true) :: [.listen, .listen]) := by decide
  have he : w.Stirs (.report a .serviceUp true) := ⟨by decide, rfl, by decide⟩
  have ht : w'.HasTurn (.changed a .serviceUp true) [.listen] := by decide
  obtain ⟨x, hx, hheeded, -⟩ := no_wakeup_lost {} false "g" 16 {} hd [.start, .event (.enter a)] [.listen, .listen] _
    (by simp [Occurrence.Concerns]) hs (by decide) he
  obtain rfl : .changed a .serviceUp true = x := (List.cons.inj hx).1
  exact ⟨he, ht, by decide, hheeded [.listen] [] rfl ht⟩

end ClusterMembership.Watch
