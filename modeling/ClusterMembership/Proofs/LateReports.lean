import ClusterMembership.Proofs.Foresight
/-!
# Reports of nodes that were removed

A tracker keeps what it has seen under identities.  While it keeps up, it remembers an identity only as long as the group
holds it or its removal is still to be heard (`Tracks`), so that reports of a node that is gone leave nothing behind.
But an identity may come to name another node, and a report of the old one that is heard after the addition of the new
one counts as a report of the new one: `late_reports` says what a report of a member is compared with.
-/
namespace ClusterMembership.Watch

variable {w : Watch} {id : NodeId}

/-! ## What is remembered of identities that are gone -/

/-- An identity that is remembered, or is to be, is in the group, or its removal is still to be heard after that. -/
structure Tracks (id : NodeId) (w : Watch) : Prop where
  remembered : (w.tracker.get? id).isSome = true →
    w.cluster.group.contains id = true ∨ ∃ k, .removed k ∈ w.queue ∧ k.id = id
  announced : ∀ pre m post, w.queue = pre ++ .added m :: post → m.id = id →
    w.cluster.group.contains id = true ∨ ∃ k, .removed k ∈ post ∧ k.id = id

theorem cluster_step_of_unannounced {o : Occurrence} (h : ∀ e, o ≠ .event e) : (w.step o).cluster = w.cluster := by
  rw [cluster, moment_step]
  cases o with
  | event e => exact absurd rfl (h e)
  | _ => rfl

/-- An identity leaves the group with a notice. -/
theorem contains_or_removed {known : Node → Prop} (hs : w.Sound known) (o : Occurrence)
    (h : w.cluster.group.contains id = true) :
    (w.step o).cluster.group.contains id = true ∨ ∃ k, .removed k ∈ w.notices o ∧ k.id = id := by
  cases o with
  | event e =>
    have hc := w.moment.contains_step e id
    cases e with
    | enter n => exact Or.inl (hc.2 (Or.inr h))
    | depart j =>
      by_cases hj : id = j
      · subst hj
        have hsome : (w.moment.cluster.group.get? id).isSome = true := by
          rw [Group.get?, ← Roster.contains_eq_isSome]; exact h
        obtain ⟨k, hk⟩ := Option.isSome_iff_exists.1 hsome
        refine Or.inr ⟨k, ?_, (hs.moment.cluster.group_keyed.get?_eq_some_iff.1 hk).2⟩
        rw [notices, Moment.notices_depart, hk]
        exact List.mem_cons_self
      · exact Or.inl (hc.2 ⟨hj, h⟩)
    | _ => exact Or.inl (hc.2 h)
  | _ => exact Or.inl (by rw [cluster_step_of_unannounced (fun _ h => by cases h)]; exact h)

/-- A node that is announced is in the group. -/
theorem contains_of_announced {known : Node → Prop} (hs : w.Sound known) {o : Occurrence} {m : Node}
    (h : .added m ∈ w.notices o) : (w.step o).cluster.group.contains m.id = true := by
  cases hs.announces h with
  | added _ => exact (w.moment.contains_step (.enter m) m.id).2 (Or.inl rfl)

/-- What is published behind a backlog keeps its account. -/
theorem Tracks.publish {known : Node → Prop} (hs : w.Sound known) (h : w.Tracks id) {o : Occurrence}
    (hl : o ≠ .listen) (hq : (w.step o).queue = w.queue ++ w.notices o) : (w.step o).Tracks id := by
  -- an account that holds of a part of the backlog holds of it with what is published behind it
  have hkeep : ∀ q : List Notice, (w.cluster.group.contains id = true ∨ ∃ k, .removed k ∈ q ∧ k.id = id) →
      (w.step o).cluster.group.contains id = true ∨ ∃ k, .removed k ∈ q ++ w.notices o ∧ k.id = id := by
    rintro q (hc | ⟨k, hk, hid⟩)
    · exact (contains_or_removed hs o hc).imp_right fun ⟨k, hk, hid⟩ => ⟨k, List.mem_append_right _ hk, hid⟩
    · exact Or.inr ⟨k, List.mem_append_left _ hk, hid⟩
  refine ⟨fun hr => ?_, fun pre m post hsplit hm => ?_⟩
  · rw [get?_step w hl] at hr
    rw [hq]
    exact hkeep w.queue (h.remembered hr)
  · have hnew : .added m ∈ w.notices o → (w.step o).cluster.group.contains id = true := fun hmem => by
      rw [← hm]; exact contains_of_announced hs hmem
    rw [hq, List.append_eq_append_iff] at hsplit
    rcases hsplit with ⟨front, -, hfront⟩ | ⟨rest, hqueue, hrest⟩
    · exact Or.inl (hnew (by rw [hfront]; exact List.mem_append_right _ List.mem_cons_self))
    · cases rest with
      | nil => exact Or.inl (hnew (by rw [← show .added m :: post = w.notices o from hrest]; exact List.mem_cons_self))
      | cons x rest =>
        obtain ⟨rfl, rfl⟩ := List.cons.inj hrest
        exact hkeep rest (h.announced pre m rest hqueue hm)

/-- What is handled is gone from the backlog, and remembered by then only with good reason. -/
theorem Tracks.hear (h : w.Tracks id) (hk : w.KeepsUp) : (w.step .listen).Tracks id := by
  cases w.listens with
  | idle _ _ same _ => rw [same]; exact h
  | lag before _ _ _ _ => cases hk _ before
  | @notice x rest before _ after tracker _ =>
    have hq : w.queue = x :: rest := queue_of_backlog? w before
    have hc : (w.step .listen).cluster = w.cluster := cluster_step_of_unannounced (fun _ h => by cases h)
    -- a removal that is still to be heard is so after any other notice
    have hold : (∀ k, x = .removed k → k.id ≠ id) → (w.tracker.get? id).isSome = true →
        w.cluster.group.contains id = true ∨ ∃ k, .removed k ∈ rest ∧ k.id = id := fun hx hr => by
      rcases h.remembered hr with hc | ⟨k, hk, hid⟩
      · exact Or.inl hc
      · rw [hq] at hk
        rcases List.mem_cons.1 hk with rfl | hk
        · exact absurd hid (hx k rfl)
        · exact Or.inr ⟨k, hk, hid⟩
    refine ⟨fun hr => ?_, fun pre m post hsplit hm => ?_⟩
    · rw [tracker, Tracker.isSome_get?_handle] at hr
      rw [hc, queue_of_backlog? _ after]
      cases x with
      | added m =>
        rcases hr with rfl | hr
        · exact h.announced [] m rest hq rfl
        · exact hold nofun hr
      | removed m => exact hold (fun k he hid => hr.1 (by cases he; exact hid.symm)) hr.2
      | changed n s value =>
        rcases hr with ⟨-, rfl, hcontains⟩ | hr
        · exact Or.inl hcontains
        · exact hold nofun hr
    · rw [queue_of_backlog? _ after] at hsplit
      have hrest : rest = pre ++ .added m :: post := hsplit
      rw [hc]
      exact h.announced (x :: pre) m post (by rw [hq, hrest]; rfl) hm

/-- **The account of identities is kept** while nothing is lost. -/
theorem Tracks.step {known : Node → Prop} (h : w.Tracks id) {o : Occurrence} {os : List Occurrence}
    (hsmooth : w.Smooth (o :: os)) (hs : w.Sound known) (hu : w.Unheard) : (w.step o).Tracks id := by
  by_cases hl : o = .listen
  · rw [hl]; exact h.hear hsmooth.head
  · cases hb : w.backlog? with
    | none =>
      refine ⟨fun hr => ?_, fun pre m post hsplit _ => ?_⟩
      · rw [get?_step w hl, Tracker.get?, hu hb] at hr; cases hr
      · rw [w.queue_step_of_none hb] at hsplit; cases pre <;> cases hsplit
    | some b =>
      have hb' := hsmooth.head.backlog? (by rw [hb]; rfl)
      exact h.publish hs hl (queue_of_backlog? _ (hsmooth.backlog?_step hb' hl))

theorem tracks_run {known : Node → Prop} {os : List Occurrence} (h : w.Tracks id) (hsmooth : w.Smooth os)
    (hs : w.Sound known) (hu : w.Unheard) (ho : ∀ o ∈ os, o.Concerns known) : (w.run os).Tracks id := by
  induction os generalizing w with
  | nil => exact h
  | cons o os ih =>
    exact ih (h.step hsmooth hs hu) hsmooth.tail (hs.step (ho o List.mem_cons_self)) (hu.step hsmooth.ne_stop)
      (fun o' h' => ho o' (List.mem_cons_of_mem o h'))

/-! ## What a report of a member is compared with -/

/-- While the group holds an identity, what is announced of it is reports. -/
theorem reports_of_member {known : Node → Prop} (hs : w.Sound known) {os : List Occurrence}
    (ho : ∀ o ∈ os, o.Concerns known) (hc : w.cluster.group.contains id = true)
    (hstay : ∀ o ∈ os, o ≠ .event (.depart id)) :
    ∀ x ∈ w.published os, x.node.id = id → ∃ n s value, x = .changed n s value := by
  induction os generalizing w with
  | nil => exact fun _ hx => absurd hx List.not_mem_nil
  | cons o os ih =>
    have hgo : ∀ k, .removed k ∈ w.notices o → k.id ≠ id := by
      intro k hk hid
      cases hs.announces hk with
      | removed _ => exact hstay _ List.mem_cons_self (by rw [hid])
    intro x hx hid
    rcases List.mem_append.1 hx with hx | hx
    · cases hs.announces hx with
      -- a node is announced only where its identity was free
      | @added n free => rw [show n.id = id from hid, hc] at free; cases free
      | removed _ => exact absurd hid (hgo _ hx)
      | changed n s value => exact ⟨n, s, value, rfl⟩
    · exact ih (hs.step (ho o List.mem_cons_self)) (fun o' h' => ho o' (List.mem_cons_of_mem o h'))
        ((contains_or_removed hs o hc).resolve_right fun ⟨k, hk, hid⟩ => hgo k hk hid)
        (fun o' h' => hstay o' (List.mem_cons_of_mem o h')) x hx hid

/-- A report replaces what is remembered of its signal, and where nothing else is announced all else leaves it. -/
theorem previous?_handle_reported {t : Tracker} {c : Cluster} {x : Notice} {s : Signal} {value : Bool}
    (hp : t.previous? id s = some value) (hi : t.config.interest.contains s = true)
    (hx : x.node.id = id → ∃ n r u, x = .changed n r u) :
    (t.handle c (.notice x)).1.previous? id s = some ((x.reported? id s).getD value) := by
  have hother : (∀ n r u, x ≠ .changed n r u) → ¬ id = x.node.id := fun h hid => by
    obtain ⟨n, r, u, he⟩ := hx hid.symm
    exact h n r u he
  rw [Tracker.previous?_handle]
  cases x with
  | added k => exact (if_neg (hother nofun)).trans hp
  | removed k => exact (if_neg (hother nofun)).trans hp
  | changed k r u =>
    rw [Notice.reported?]
    by_cases hr : k.id = id ∧ r = s
    · obtain ⟨hid, rfl⟩ := hr
      simp only [hi, hid, t.notes_of_previous? c hp hid, and_self, if_true, Option.getD_some]
    · rw [if_neg hr]
      exact (if_neg (fun h => hr ⟨h.2.1.symm, h.2.2.1.symm⟩)).trans hp

/-- **What is remembered is the last report that was heard**, and what was remembered before where none was. -/
theorem remembered_since {s : Signal} {value : Bool} (hp : w.tracker.previous? id s = some value)
    (hi : w.tracker.config.interest.contains s = true) {os : List Occurrence} (hsmooth : w.Smooth os)
    {ns : List Notice} (hh : w.heard os = ns.map .notice)
    (hns : ∀ x ∈ ns, x.node.id = id → ∃ n r u, x = .changed n r u) :
    (w.run os).tracker.previous? id s = some ((lastReport? id s ns).getD value) := by
  induction os generalizing w value ns with
  | nil =>
    obtain rfl : ns = [] := List.map_eq_nil_iff.1 hh.symm
    exact hp
  | cons o os ih =>
    have hconfig := hsmooth.config_step
    by_cases hl : o = .listen
    · subst hl
      rw [heard] at hh
      cases w.listens with
      | idle _ taken same _ =>
        rw [taken] at hh
        exact ih (by rw [same]; exact hp) (by rw [same]; exact hi) hsmooth.tail hh hns
      | lag before _ _ _ _ => cases hsmooth.head _ before
      | @notice x rest before taken after tracker _ =>
        rw [taken] at hh
        cases ns with
        | nil => cases hh
        | cons y ns =>
          obtain ⟨hy, hlater⟩ := List.cons.inj hh
          obtain rfl : x = y := Received.notice.inj hy
          have hx : (w.step .listen).tracker.previous? id s = some ((x.reported? id s).getD value) := by
            rw [tracker]; exact previous?_handle_reported hp hi (hns x List.mem_cons_self)
          have hrest := ih hx (by rw [hconfig]; exact hi) hsmooth.tail hlater
            (fun z hz => hns z (List.mem_cons_of_mem x hz))
          rw [lastReport?_cons]
          refine hrest.trans (congrArg some ?_)
          cases lastReport? id s ns <;> rfl
    · rw [heard, w.taken?_of_ne_listen hl] at hh
      exact ih (by rw [previous?_step w hl]; exact hp) (by rw [hconfig]; exact hi) hsmooth.tail hh hns

/-- **What was published ahead of a notice was heard before its turn.**  Where `added` stood at the end of the backlog,
and `x` is published after `between` and has its turn after `mid`, `added` had its turn earlier, and what was heard since
is what was published in `between`. -/
theorem heard_between {added x : Notice} {queue : List Notice} (hb : w.backlog? = some ⟨0, queue ++ [added]⟩)
    {between mid : List Occurrence} {o : Occurrence} (hsmooth : w.Smooth (between ++ o :: mid))
    (hx : (w.run between).notices o = [x]) (ht : ((w.run between).step o).HasTurn x mid) :
    ∃ ahead since, between ++ o :: mid = ahead ++ .listen :: since ∧ w.HasTurn added ahead ∧
      ((w.run ahead).step .listen).heard since = (w.published between).map .notice := by
  have hrun : w.run (between ++ o :: mid) = ((w.run between).step o).run mid := w.run_append between (o :: mid)
  obtain ⟨q, ns, hq, hns, he⟩ := queue_conserved hsmooth hb
  have hpub : w.published (between ++ o :: mid) =
      w.published between ++ x :: ((w.run between).step o).published mid := by
    rw [published_append, published, hx]; rfl
  rw [hrun, ht] at hq
  obtain ⟨-, rfl⟩ := Backlog.mk.inj (Option.some.inj hq)
  -- the backlog at the end is what follows `between`, so all that comes before has been heard
  have hheard : ns = queue ++ added :: w.published between := by
    rw [hpub, ← List.append_assoc] at he
    have := List.append_cancel_right he
    rw [← this, List.append_assoc, List.singleton_append]
  rw [hheard, List.map_append, List.map_cons] at hns
  obtain ⟨ahead, since, log, hsplit, hahead, -, hsince⟩ := heard_split hns
  refine ⟨ahead, since, hsplit, ?_, hsince⟩
  rw [hsplit] at hsmooth
  obtain ⟨q', ns', hq', hns', he'⟩ := queue_conserved hsmooth.left hb
  rw [hahead] at hns'
  obtain rfl : queue = ns' := List.map_injective_iff.2 (fun _ _ h => Received.notice.inj h) hns'
  rw [HasTurn, hq', ← List.append_cancel_left ((List.append_assoc _ _ _).symm.trans he')]
  rfl

theorem lastReport?_filter {s : Signal} {queue : List Notice} {n : Node}
    (h : ∀ x ∈ queue, x.node.id = n.id → x.node = n) :
    lastReport? n.id s (queue.filter (·.node = n)) = lastReport? n.id s queue := by
  rw [lastReport?, lastReport?, List.filterMap_filter]
  congr 1
  refine List.filterMap_congr (fun x hx => ?_)
  by_cases hn : x.node = n
  · simp [hn]
  · have hid : x.node.id ≠ n.id := fun hid => hn (h x hx hid)
    have hr : x.reported? n.id s = none := by
      cases x with
      | changed k r u => exact if_neg (fun he => hid he.1)
      | _ => rfl
    simp [hn, hr]

/-- **What a report of a member is compared with**: what was reported last of its identity since the addition of the
node was announced, and where nothing was, what the signal was when that was handled. -/
theorem asked_of_member {known : Node → Prop} (hs : w.Sound known) {n : Node} {queue : List Notice}
    (hb : w.backlog? = some ⟨0, queue ++ [.added n]⟩) (hc : w.cluster.group.contains n.id = true)
    {between mid : List Occurrence} (ho : ∀ o ∈ between, o.Concerns known)
    (hstay : ∀ o ∈ between, o ≠ .event (.depart n.id)) {s : Signal} {value : Bool}
    (hsmooth : w.Smooth (between ++ .event (.report n s value) :: mid))
    (ht : ((w.run between).step (.event (.report n s value))).HasTurn (.changed n s value) mid) :
    ∃ ahead since, between ++ .event (.report n s value) :: mid = ahead ++ .listen :: since ∧
      w.HasTurn (.added n) ahead ∧
      ((((w.run between).step (.event (.report n s value))).run mid).asked .listen = [] ↔
        (w.tracker.config.interest.contains s = true → w.tracker.config.repeats = false ∧
          (lastReport? n.id s (w.published between)).getD ((w.run ahead).cluster.signal n s) = value)) := by
  obtain ⟨ahead, since, hsplit, hturn, hheard⟩ := heard_between hb hsmooth rfl ht
  refine ⟨ahead, since, hsplit, hturn, ?_⟩
  have hrun : ((w.run between).step (.event (.report n s value))).run mid =
      ((w.run ahead).step .listen).run since := by
    have := congrArg w.run hsplit
    rwa [run_append, run_append] at this
  obtain ⟨-, -, -, hasked⟩ := (((w.run between).step (.event (.report n s value))).run mid).listen_notice ht
  obtain ⟨-, -, htracker, -⟩ := (w.run ahead).listen_notice hturn
  rw [hsplit] at hsmooth
  have hconfig : ((w.run ahead).step .listen).tracker.config = w.tracker.config :=
    hsmooth.right.config_step.trans hsmooth.left.config_run
  have hseeded : ((w.run ahead).step .listen).tracker.previous? n.id s = some ((w.run ahead).cluster.signal n s) := by
    rw [htracker, Tracker.previous?_handle]
    exact if_pos rfl
  have hsince : w.tracker.config.interest.contains s = true →
      (((w.run ahead).step .listen).run since).tracker.previous? n.id s =
        some ((lastReport? n.id s (w.published between)).getD ((w.run ahead).cluster.signal n s)) := fun hi =>
    remembered_since hseeded (by rw [hconfig]; exact hi) hsmooth.right.tail hheard (reports_of_member hs ho hc hstay)
  rw [hasked, Tracker.silent_handle_iff, hrun, hsmooth.right.tail.config_run, hconfig]
  constructor
  · rintro ⟨_, _, _, he, hseen⟩ hi
    cases he
    obtain ⟨hr, hp⟩ := hseen hi
    rw [hsince hi] at hp
    exact ⟨hr, Option.some.inj hp⟩
  · refine fun h => ⟨n, s, value, rfl, fun hi => ⟨(h hi).1, ?_⟩⟩
    rw [hsince hi, (h hi).2]

/-- **What reports leave behind, and what they are compared with**, in every run in which the tracker keeps up and is left
as it is, whoever reports.  A report of a node that has been a member since its addition was announced is passed over
exactly if its signal is of no interest, or repeats are not to be heeded and its value is the one reported last of its
identity since then, or the one the signal had when the addition was handled where none was reported.  Where no other
node of its identity has reported in the meantime these are its own reports; else the other's report may pass for one of
its own.  And of an identity that the group does not hold nothing is remembered once its removal has been heard. -/
theorem late_reports (config : Config) (stages : Bool) (group : String) (capacity : Nat) (tracker : TrackerConfig)
    (os : List Occurrence) (hs : (fresh config stages group capacity tracker).Smooth os) :
    let w₀ := fresh config stages group capacity tracker
    (∀ before n between s value mid,
      os = before ++ .event (.enter n) :: (between ++ .event (.report n s value) :: mid) →
      let w := (w₀.run before).step (.event (.enter n))
      let w' := (w.run between).step (.event (.report n s value))
      (w₀.run before).backlog?.isSome = true → (w₀.run before).cluster.group.contains n.id = false →
      (∀ o ∈ between, o ≠ .event (.depart n.id)) → w'.HasTurn (.changed n s value) mid →
      ∃ ahead since, between ++ .event (.report n s value) :: mid = ahead ++ .listen :: since ∧
        w.HasTurn (.added n) ahead ∧
        ((w'.run mid).asked .listen = [] ↔ (tracker.interest.contains s = true → tracker.repeats = false ∧
          (lastReport? n.id s (w.published between)).getD ((w.run ahead).cluster.signal n s) = value)) ∧
        ((∀ x ∈ w.published between, x.node.id = n.id → x.node = n) →
          lastReport? n.id s (w.published between) =
            lastReport? n.id s ((w.published between).filter (·.node = n)))) ∧
    ∀ id, (w₀.run os).cluster.group.contains id = false → (∀ k, .removed k ∈ (w₀.run os).queue → k.id ≠ id) →
      (w₀.run os).tracker.get? id = none := by
  intro w₀
  have hany : ∀ o : Occurrence, o.Concerns (fun _ => True) := fun o => by
    cases o with
    | event e => cases e <;> trivial
    | _ => trivial
  have hsound : ∀ os, (w₀.run os).Sound (fun _ => True) := fun os =>
    (sound_fresh config stages group capacity tracker).run (fun o _ => hany o)
  refine ⟨fun before n between s value mid hos => ?_, fun id hc hq => ?_⟩
  · rw [hos] at hs
    intro w w' hl hfree hstay ht
    have hb := hs.right.head.backlog? hl
    have hadded : (w₀.run before).notices (.event (.enter n)) = [.added n] := by
      have hfree' : (w₀.run before).moment.cluster.group.contains n.id = false := hfree
      rw [notices, Moment.notices_enter, hfree']; rfl
    have hb' := hs.right.backlog?_step hb (fun h => by cases h)
    rw [hadded] at hb'
    have hc : w.cluster.group.contains n.id = true :=
      contains_of_announced (hsound before) (by rw [hadded]; exact List.mem_cons_self)
    obtain ⟨ahead, since, hsplit, hturn, hiff⟩ := asked_of_member ((hsound before).step (hany _)) hb' hc
      (fun o _ => hany o) hstay hs.right.tail ht
    have hconfig : w.tracker.config = tracker := hs.left.config_run
    rw [hconfig] at hiff
    exact ⟨ahead, since, hsplit, hturn, hiff, fun hown => (lastReport?_filter hown).symm⟩
  · have htracks : (w₀.run os).Tracks id := by
      refine tracks_run ⟨fun hr => (by cases hr), fun pre m post hsplit _ => ?_⟩ hs (hsound []) (fun _ => rfl)
        (fun o _ => hany o)
      cases pre <;> cases hsplit
    by_contra hsome
    rcases htracks.remembered (Option.isSome_iff_ne_none.2 hsome) with hin | ⟨k, hk, hid⟩
    · rw [hc] at hin; cases hin
    · exact hq k hk hid

/-- A node is replaced by another one of its identity.  The old one reports once more, and the same report of the new one
is passed over, although it is the first that the new one gives. -/
theorem late_reports_replaced :
    let a₁ : Node := ⟨0, ⟨"a"⟩, ⟨"h", 1⟩, ⟨"u", "p"⟩⟩
    let a₂ : Node := ⟨1, ⟨"a"⟩, ⟨"h", 2⟩, ⟨"u", "p"⟩⟩
    let w₀ := fresh {} false "g" 16 {}
    let before : List Occurrence :=
      [.start, .event (.enter a₁), .listen, .event (.depart a₁.id), .listen]
    let between : List Occurrence := [.listen, .event (.report a₁ .serviceUp true), .listen]
    let w := (w₀.run before).step (.event (.enter a₂))
    let w' := (w.run between).step (.event (.report a₂ .serviceUp true))
    (w.run between).cluster.signal a₂ .serviceUp = false ∧ w'.HasTurn (.changed a₂ .serviceUp true) [] ∧
      (w'.run []).asked .listen = [] ∧
      lastReport? a₂.id .serviceUp ((w.published between).filter (·.node = a₂)) = none := by
  intro a₁ a₂ w₀ before between w w'
  have hs : w₀.Smooth (before ++ .event (.enter a₂) :: (between ++ .event (.report a₂ .serviceUp true) :: [])) := by
    decide
  have ht : w'.HasTurn (.changed a₂ .serviceUp true) [] := by decide
  have hlast : lastReport? a₂.id .serviceUp (w.published between) = some true := by decide
  obtain ⟨ahead, since, -, -, hiff, -⟩ := (late_reports {} false "g" 16 {} _ hs).1 before a₂ between .serviceUp true []
    rfl (by decide) (by decide) (by simp [between]) ht
  exact ⟨by decide, ht, hiff.2 (fun _ => ⟨rfl, by rw [hlast]; rfl⟩), by decide⟩

end ClusterMembership.Watch
