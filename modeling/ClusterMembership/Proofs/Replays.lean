import ClusterMembership.Proofs.Rosters
import ClusterMembership.Proofs.Simulations
/-!
# Replaying the notices of a group

The group announces what changes its membership and nothing else, so that whoever folds its notices has its members, the
same nodes in the same order, after every row of acts (`group_replayed`).  What one act does to the members is said once
(`Turn`); what the notices tell of them is an invariant of it (`Tracked.act`).
-/
namespace ClusterMembership

/-- The act leaves the bus to the group: it announces nothing past it, and the receivers stay who they are. -/
def Act.sparesBus : Act → Bool
  | .publish .. => false
  | .subscribe _ => false
  | .unsubscribe _ => false
  | .receive .. => false
  | _ => true

/-- The node was added, and after it none of its identity. -/
def AddedLast (published : List Notice) (n : Node) : Prop :=
  ∃ earlier later, published = earlier ++ .added n :: later ∧ ∀ k, .added k ∈ later → k.id ≠ n.id

def Notice.isOfMembership : Notice → Bool
  | .changed .. => false
  | _ => true

theorem Notice.replay_of_changed {x : Notice} (h : x.isOfMembership = false) (members : List Node) :
    x.replay members = members := by
  cases x with
  | changed n s value => rfl
  | _ => cases h

theorem AddedLast.append {published : List Notice} {n : Node} (h : AddedLast published n) {xs : List Notice}
    (hxs : ∀ k, .added k ∈ xs → k.id ≠ n.id) : AddedLast (published ++ xs) n := by
  obtain ⟨earlier, later, rfl, hlater⟩ := h
  refine ⟨earlier, later ++ xs, by rw [List.append_assoc, List.cons_append], fun k hk => ?_⟩
  exact (List.mem_append.1 hk).elim (hlater k) (hxs k)

namespace Simulation

/-- The notices that the group gives in an act. -/
def notices (s : Simulation) : Act → List Notice
  | .add a => (s.cluster.addMember (s.make a).1).2
  | .addExisting handle => ((s.node? handle).map fun n => (s.cluster.addMember n).2).getD []
  | .remove id => (s.cluster.removeMember id).2
  | .signal handle signal value => ((s.node? handle).map fun n => (s.cluster.report n signal value).2).getD []
  | _ => []

/-- The notices that the group gives in a row of acts. -/
def published (s : Simulation) : List Act → List Notice
  | [] => []
  | a :: as => s.notices a ++ (s.act a).1.published as

variable {s : Simulation}

/-! ## What an act does -/

theorem bus_announce (s : Simulation) (notices : List Notice) :
    (s.announce notices).bus = notices.foldl Bus.publish s.bus := by
  cases notices <;> rfl

theorem cluster_announce (s : Simulation) (notices : List Notice) : (s.announce notices).cluster = s.cluster := by
  cases notices <;> rfl

theorem handles_announce (s : Simulation) (notices : List Notice) : (s.announce notices).handles = s.handles := by
  cases notices <;> rfl

theorem handles_enter (s : Simulation) (n : Node) : (s.enter n).handles = s.handles := handles_announce _ _

theorem made_announce (s : Simulation) (notices : List Notice) : (s.announce notices).made = s.made := by
  cases notices <;> rfl

theorem mem_register {e : String × Node} (s : Simulation) (handle : String) (n : Node) :
    e ∈ (s.register handle n).handles ↔ e ∈ s.handles ∨ e = (handle, n) := by
  unfold register
  split
  · next h =>
    have hmem : (handle, n) ∈ s.handles := by simpa using h
    exact ⟨.inl, fun he => he.elim id (fun he => he ▸ hmem)⟩
  · rw [List.mem_append, List.mem_singleton]

theorem register_frame (s : Simulation) (handle : String) (n : Node) :
    (s.register handle n).cluster = s.cluster ∧ (s.register handle n).bus = s.bus ∧
      (s.register handle n).made = s.made := by
  unfold register
  split <;> exact ⟨rfl, rfl, rfl⟩

theorem mem_handles_of_node? {handle : String} {n : Node} (h : s.node? handle = some n) : (handle, n) ∈ s.handles := by
  obtain ⟨e, he, rfl⟩ := Option.map_eq_some_iff.1 h
  have hhandle : e.1 = handle := by simpa using List.find?_some he
  rw [← hhandle]
  exact List.mem_reverse.1 (List.mem_of_find?_eq_some he)

/-- What an act does to the members, with the notices that the group gives. -/
inductive Turn (s s' : Simulation) : List Notice → Prop
  | keeps {xs : List Notice} (silent : ∀ x ∈ xs, x.isOfMembership = false)
      (roster : s'.cluster.group.roster = s.cluster.group.roster) : Turn s s' xs
  | enters {n : Node} {handle : String} (isNew : s.cluster.group.contains n.id = false) (handled : (handle, n) ∈ s'.handles)
      (roster : s'.cluster.group.roster = s.cluster.group.roster.insert n.id n) : Turn s s' [.added n]
  | departs {n : Node} {id : NodeId} (found : s.cluster.group.get? id = some n)
      (roster : s'.cluster.group.roster = s.cluster.group.roster.erase id) : Turn s s' [.removed n]

theorem Turn.of_cluster {s s' : Simulation} (h : s'.cluster = s.cluster) : Turn s s' [] :=
  .keeps nofun (by rw [h])

theorem Turn.enter {s' : Simulation} {n : Node} {handle : String}
    (hgroup : s'.cluster.group = (s.cluster.group.add n).1) (handled : (handle, n) ∈ s'.handles) :
    Turn s s' (s.cluster.addMember n).2 := by
  have hnotices : (s.cluster.addMember n).2 = (s.cluster.group.add n).2 := rfl
  rw [hnotices]
  unfold Group.add at hgroup ⊢
  split
  · next h =>
    rw [if_pos h] at hgroup
    exact .keeps nofun (by rw [hgroup])
  · next h =>
    rw [if_neg h] at hgroup
    exact .enters (Bool.eq_false_iff.2 h) handled (by rw [hgroup])

theorem notices_of_known (n : Node) {m : Node} (h : s.cluster.group.get? n.id = some m) :
    (s.cluster.addMember n).2 = [] := by
  have hknown : s.cluster.group.contains n.id = true := by
    rw [Group.contains, Roster.contains_eq_isSome]
    exact Option.isSome_iff_exists.2 ⟨m, h⟩
  show (s.cluster.group.add n).2 = []
  rw [Group.add, if_pos hknown]

/-- **An act takes a node in, drops one, or leaves the members alone**, and the group says which. -/
theorem turn (s : Simulation) (a : Act) : Turn s (s.act a).1 (s.notices a) := by
  have haside {handle : String} {act : Node → Simulation × Reply} (h : ∀ n, (act n).1.cluster = s.cluster) :
      Turn s (s.withNode handle act).1 [] :=
    .of_cluster (withNode_induction (Q := fun s' => s'.cluster = s.cluster) rfl handle h)
  cases a with
  | add a =>
    simp only [act, notices]
    cases hg : s.cluster.group.get? a.id with
    | none =>
      refine .enter ?_ ((mem_register _ a.handle _).2 (.inr rfl))
      rw [(register_frame _ _ _).1]
      exact congrArg Cluster.group (cluster_announce _ _)
    | some n =>
      rw [notices_of_known _ hg]
      exact .of_cluster (register_frame _ _ _).1
  | addExisting handle =>
    simp only [act, notices, withNode]
    cases hn : s.node? handle with
    | none => exact .of_cluster rfl
    | some n =>
      have handled : (handle, n) ∈ (s.enter n).handles := by
        rw [handles_enter]
        exact mem_handles_of_node? hn
      exact .enter (congrArg Cluster.group (cluster_announce _ _)) handled
  | remove id =>
    have hgroup : (s.act (.remove id)).1.cluster.group = (s.cluster.group.remove id).1 :=
      congrArg Cluster.group (cluster_announce _ _)
    have hnotices : s.notices (.remove id) = (s.cluster.group.remove id).2 := rfl
    rw [hnotices]
    unfold Group.remove at hgroup ⊢
    cases hg : s.cluster.group.get? id with
    | none =>
      rw [hg] at hgroup
      exact .keeps nofun (by rw [hgroup])
    | some n =>
      rw [hg] at hgroup
      exact .departs hg (by rw [hgroup])
  | signal handle signal value =>
    simp only [act, notices, withNode]
    cases hn : s.node? handle with
    | none => exact .of_cluster rfl
    | some n => exact .keeps (by simp [Cluster.report, Notice.isOfMembership]) rfl
  | create a => exact .of_cluster (register_frame _ _ _).1
  | setStarted value => exact .keeps nofun rfl
  | readFlags handle => exact haside fun n => rfl
  | readTarget handle => exact haside fun n => rfl
  | publish handle form => exact haside fun n => rfl
  | notify handle form => exact haside fun n => rfl
  | _ => exact .of_cluster rfl

/-- **The bus hears of an act what the group says**, if the act leaves it that. -/
theorem bus_act (s : Simulation) {a : Act} (h : a.sparesBus = true) :
    (s.act a).1.bus = (s.notices a).foldl Bus.publish s.bus := by
  have haside {handle : String} {act : Node → Simulation × Reply} (h : ∀ n, (act n).1.bus = s.bus) :
      (s.withNode handle act).1.bus = s.bus :=
    withNode_induction (Q := fun s' => s'.bus = s.bus) rfl handle h
  cases a with
  | add a =>
    simp only [act, notices]
    cases hg : s.cluster.group.get? a.id with
    | none => rw [(register_frame _ _ _).2.1]; exact bus_announce _ _
    | some n =>
      rw [notices_of_known _ hg]
      exact (register_frame _ _ _).2.1
  | addExisting handle =>
    simp only [act, notices, withNode]
    cases s.node? handle with
    | none => rfl
    | some n => exact bus_announce _ _
  | remove id => exact bus_announce _ _
  | signal handle signal value =>
    simp only [act, notices, withNode]
    cases s.node? handle with
    | none => rfl
    | some n => exact bus_announce _ _
  | create a => exact (register_frame _ _ _).2.1
  | readFlags handle => exact haside fun n => rfl
  | readTarget handle => exact haside fun n => rfl
  | notify handle form => exact haside fun n => rfl
  | publish => cases h
  | subscribe => cases h
  | unsubscribe => cases h
  | receive => cases h
  | _ => rfl

theorem handles_register {s' : Simulation} (h : s'.handles = s.handles) (handle : String) (n : Node) :
    (s'.register handle n).handles = (s.register handle n).handles := by
  unfold register
  rw [h]
  split
  · exact h
  · rfl

theorem mem_members_of_get? {g : Group} {id : NodeId} {n : Node} (h : g.get? id = some n) : n ∈ g.members := by
  obtain ⟨e, he, rfl⟩ := Option.map_eq_some_iff.1 h
  exact List.mem_map.2 ⟨e, List.mem_of_find?_eq_some he, rfl⟩

/-- What an act does to the handles: nothing, or it registers a member or a node that it makes. -/
theorem handles_act_cases (s : Simulation) (a : Act) :
    ((s.act a).1.handles = s.handles ∧ (s.act a).1.made = s.made) ∨
    ∃ handle n, (s.act a).1.handles = (s.register handle n).handles ∧
      ((n ∈ s.cluster.group.members ∧ (s.act a).1.made = s.made) ∨
        (n.serial = s.made ∧ (s.act a).1.made = s.made + 1)) := by
  let Same (s' : Simulation) : Prop := s'.handles = s.handles ∧ s'.made = s.made
  have haside {handle : String} {act : Node → Simulation × Reply} (h : ∀ n, Same (act n).1) :
      Same (s.withNode handle act).1 := withNode_induction (Q := Same) ⟨rfl, rfl⟩ handle h
  have hannounce (k : Cluster) (xs : List Notice) : Same ({ s with cluster := k }.announce xs) :=
    ⟨handles_announce _ _, made_announce _ _⟩
  cases a with
  | add a =>
    simp only [act]
    cases hg : s.cluster.group.get? a.id with
    | none =>
      have henter : ((s.make a).2.enter (s.make a).1).handles = s.handles := handles_enter _ _
      exact .inr ⟨a.handle, (s.make a).1, handles_register henter _ _,
        .inr ⟨rfl, (register_frame _ _ _).2.2.trans (made_announce _ _)⟩⟩
    | some n => exact .inr ⟨a.handle, n, rfl, .inl ⟨mem_members_of_get? hg, (register_frame _ _ _).2.2⟩⟩
  | create a =>
    have hmake : (s.make a).2.handles = s.handles := rfl
    exact .inr ⟨a.handle, (s.make a).1, handles_register hmake _ _, .inr ⟨rfl, (register_frame _ _ _).2.2⟩⟩
  | addExisting handle => exact .inl (haside fun n => hannounce _ _)
  | remove id => exact .inl (hannounce _ _)
  | signal handle signal value => exact .inl (haside fun n => hannounce _ _)
  | publish handle form => exact .inl (haside fun n => hannounce _ _)
  | readFlags handle => exact .inl (haside fun n => ⟨rfl, rfl⟩)
  | readTarget handle => exact .inl (haside fun n => ⟨rfl, rfl⟩)
  | notify handle form => exact .inl (haside fun n => ⟨rfl, rfl⟩)
  | _ => exact .inl ⟨rfl, rfl⟩

/-! ## What the notices tell -/

end Simulation

/-- Whoever is removed is the node that was last added under its identity. -/
def RemovesLast (published : List Notice) : Prop :=
  ∀ before n after, published = before ++ .removed n :: after → AddedLast before n

theorem RemovesLast.append {published : List Notice} (h : RemovesLast published) {xs : List Notice}
    (hxs : ∀ before n after, xs = before ++ .removed n :: after → AddedLast (published ++ before) n) :
    RemovesLast (published ++ xs) := by
  intro before n after hsplit
  obtain ⟨more, rfl, hmore⟩ | ⟨more, hpublished, hmore⟩ := List.append_eq_append_iff.1 hsplit
  · exact hxs more n after hmore
  · cases more with
    | nil =>
      have := hxs [] n after hmore.symm
      rw [List.append_nil] at this hpublished
      exact hpublished ▸ this
    | cons y more =>
      obtain ⟨rfl, -⟩ := List.cons.inj hmore
      exact h before n more hpublished

theorem foldl_replay_of_silent {xs : List Notice} (h : ∀ x ∈ xs, x.isOfMembership = false) (members : List Node) :
    xs.foldl Notice.replay members = members := by
  induction xs with
  | nil => rfl
  | cons x xs ih =>
    rw [List.foldl_cons, Notice.replay_of_changed (h x List.mem_cons_self)]
    exact ih fun y hy => h y (List.mem_cons_of_mem x hy)

namespace Simulation

variable {s : Simulation} {published : List Notice}

/-- What the notices published so far tell of the members, and what the handles do. -/
structure Tracked (published : List Notice) (s : Simulation) : Prop where
  keyed : s.cluster.group.roster.Keyed
  members : published.foldl Notice.replay [] = s.cluster.group.members
  latest : ∀ n ∈ s.cluster.group.members, AddedLast published n
  removed : RemovesLast published
  handled : ∀ n ∈ s.cluster.group.members, ∃ handle, (handle, n) ∈ s.handles
  made : ∀ e ∈ s.handles, e.2.serial < s.made

theorem Tracked.made_act (h : Tracked published s) (a : Act) :
    ∀ e ∈ (s.act a).1.handles, e.2.serial < (s.act a).1.made := by
  intro e he
  rcases handles_act_cases s a with ⟨hhandles, hmade⟩ | ⟨handle, n, hhandles, hn⟩
  · rw [hhandles] at he
    rw [hmade]
    exact h.made e he
  · rw [hhandles, mem_register] at he
    rcases he with he | rfl
    · have := h.made e he
      rcases hn with ⟨-, hmade⟩ | ⟨-, hmade⟩ <;> omega
    · rcases hn with ⟨hn, hmade⟩ | ⟨hn, hmade⟩
      · obtain ⟨handle', hhandle⟩ := h.handled n hn
        rw [hmade]
        exact h.made (handle', n) hhandle
      · rw [hn, hmade]
        exact Nat.lt_succ_self s.made

theorem handles_act_mono {e : String × Node} (he : e ∈ s.handles) (a : Act) : e ∈ (s.act a).1.handles := by
  rcases handles_act_cases s a with ⟨hhandles, -⟩ | ⟨handle, n, hhandles, -⟩
  · rwa [hhandles]
  · rw [hhandles, mem_register]
    exact .inl he

/-- **The notices go on telling the members** after an act. -/
theorem Tracked.act (h : Tracked published s) (a : Act) : Tracked (published ++ s.notices a) (s.act a).1 := by
  have hhandled {n : Node} (hn : n ∈ s.cluster.group.members) : ∃ handle, (handle, n) ∈ (s.act a).1.handles :=
    (h.handled n hn).imp fun handle he => handles_act_mono he a
  have hmade := h.made_act a
  -- From here on only the turn that the act takes counts, not the act.
  have hturn := turn s a
  generalize (s.act a).1 = s' at hturn hhandled hmade ⊢
  generalize s.notices a = xs at hturn ⊢
  cases hturn with
  | keeps silent roster =>
    have hmembers : s'.cluster.group.members = s.cluster.group.members := congrArg Roster.nodes roster
    constructor
    · rw [roster]; exact h.keyed
    · rw [List.foldl_append, h.members, foldl_replay_of_silent silent, hmembers]
    · rw [hmembers]
      exact fun n hn => (h.latest n hn).append fun k hk => nomatch silent _ hk
    · refine h.removed.append fun before n after hxs => ?_
      cases silent (.removed n) (by rw [hxs]; simp)
    · rw [hmembers]
      exact fun n hn => hhandled hn
    · exact hmade
  | @enters n handle isNew handled roster =>
    have hmembers : s'.cluster.group.members = s.cluster.group.members ++ [n] :=
      (congrArg Roster.nodes roster).trans (Roster.nodes_insert_of_not_contains n isNew)
    -- The new notice takes the last word from no member.
    have hnew : ∀ m ∈ s.cluster.group.members, n.id ≠ m.id := by
      intro m hm hid
      have hcontains := h.keyed.contains_of_mem hm
      rw [← hid] at hcontains
      cases isNew.symm.trans hcontains
    constructor
    · rw [roster]; exact h.keyed.insert n
    · rw [List.foldl_append, h.members, hmembers]; rfl
    · intro m hm
      rw [hmembers, List.mem_append, List.mem_singleton] at hm
      rcases hm with hm | rfl
      · exact (h.latest m hm).append fun k hk => by
          cases List.mem_singleton.1 hk
          exact hnew m hm
      · exact ⟨published, [], rfl, nofun⟩
    · refine h.removed.append fun before m after hxs => ?_
      have hmem : Notice.removed m ∈ [Notice.added n] := by rw [hxs]; simp
      cases List.mem_singleton.1 hmem
    · intro m hm
      rw [hmembers, List.mem_append, List.mem_singleton] at hm
      rcases hm with hm | rfl
      · exact hhandled hm
      · exact ⟨handle, handled⟩
    · exact hmade
  | @departs n id found roster =>
    obtain ⟨hn, rfl⟩ := h.keyed.get?_eq_some_iff.1 found
    have hmembers : s'.cluster.group.members = s.cluster.group.members.filter (·.id ≠ n.id) :=
      (congrArg Roster.nodes roster).trans (h.keyed.nodes_erase n.id)
    constructor
    · rw [roster]; exact h.keyed.erase n.id
    · rw [List.foldl_append, h.members, hmembers]; rfl
    · intro m hm
      rw [hmembers] at hm
      exact (h.latest m (List.mem_of_mem_filter hm)).append fun k hk => nomatch List.mem_singleton.1 hk
    · refine h.removed.append fun before m after hxs => ?_
      -- The notice is the only one, and what was added last under its identity is the member that leaves.
      cases before with
      | nil =>
        obtain ⟨hm, -⟩ := List.cons.inj hxs
        cases hm
        rw [List.append_nil]
        exact h.latest n hn
      | cons y before => simp at hxs
    · intro m hm
      rw [hmembers] at hm
      exact hhandled (List.mem_of_mem_filter hm)
    · exact hmade

/-- **The notices go on telling the members** through a row of acts. -/
theorem Tracked.acts (h : Tracked published s) (as : List Act) :
    Tracked (published ++ s.published as) (s.acts as).1 := by
  induction as generalizing s published with
  | nil => rw [Simulation.published, List.append_nil]; exact h
  | cons a as ih =>
    rw [Simulation.published, ← List.append_assoc]
    exact ih (h.act a)

/-- **The bus hears what the group says**, all of it and in this order. -/
theorem bus_acts {as : List Act} (h : ∀ a ∈ as, a.sparesBus = true) :
    (s.acts as).1.bus = (s.published as).foldl Bus.publish s.bus := by
  induction as generalizing s with
  | nil => rfl
  | cons a as ih =>
    rw [Simulation.published, List.foldl_append, ← bus_act s (h a List.mem_cons_self)]
    exact ih fun b hb => h b (List.mem_cons_of_mem a hb)

/-! ## What the group answers -/

theorem get?_eq_none_of_new {g : Group} {id : NodeId} (h : g.roster.Keyed) (hnew : ∀ n ∈ g.members, n.id ≠ id) :
    g.get? id = none := by
  rw [Option.eq_none_iff_forall_ne_some]
  intro n hn
  obtain ⟨hmem, hid⟩ := h.get?_eq_some_iff.1 hn
  exact hnew n hmem hid

theorem contains_eq_false_of_new {g : Group} {id : NodeId} (h : g.roster.Keyed) (hnew : ∀ n ∈ g.members, n.id ≠ id) :
    g.contains id = false := by
  rw [Group.contains, Roster.contains_eq_isSome, Option.isSome_eq_false_iff, Option.isNone_iff_eq_none]
  exact get?_eq_none_of_new h hnew

theorem addMember_of_new {c : Cluster} {n : Node} (h : c.group.roster.Keyed) (hnew : ∀ m ∈ c.group.members, m.id ≠ n.id) :
    (c.addMember n).2 = [.added n] := by
  show (c.group.add n).2 = [.added n]
  rw [Group.add, contains_eq_false_of_new h hnew, if_neg Bool.false_ne_true]

/-- Announcing a node whose identity is known gives the member that has it. -/
structure AnswersAdd (s : Simulation) : Prop where
  known : ∀ a n, n ∈ s.cluster.group.members → n.id = a.id →
    s.act (.add a) = (s.register a.handle n, .isNew false) ∧ s.notices (.add a) = []
  new : ∀ a, (∀ n ∈ s.cluster.group.members, n.id ≠ a.id) →
    (s.act (.add a)).2 = .isNew true ∧ s.notices (.add a) = [.added (s.make a).1]

/-- A node that exists is taken in unless its identity is known. -/
structure AnswersAddExisting (s : Simulation) : Prop where
  known : ∀ handle n, s.node? handle = some n → (∃ m ∈ s.cluster.group.members, m.id = n.id) →
    s.act (.addExisting handle) = (s, .bool false) ∧ s.notices (.addExisting handle) = []
  new : ∀ handle n, s.node? handle = some n → (∀ m ∈ s.cluster.group.members, m.id ≠ n.id) →
    (s.act (.addExisting handle)).2 = .bool true ∧ s.notices (.addExisting handle) = [.added n]

/-- Removing an identity gives the member that has it, and nothing where none has. -/
structure AnswersRemove (s : Simulation) : Prop where
  known : ∀ n ∈ s.cluster.group.members, ∃ handle, (handle, n) ∈ s.handles ∧
    (s.act (.remove n.id)).2 = .handle (some handle) ∧ s.notices (.remove n.id) = [.removed n]
  unknown : ∀ id, (∀ n ∈ s.cluster.group.members, n.id ≠ id) →
    s.act (.remove id) = (s, .handle none) ∧ s.notices (.remove id) = []

theorem Tracked.answersAdd (h : Tracked published s) : AnswersAdd s where
  known a n hn hid := by
    have hg : s.cluster.group.get? a.id = some n := h.keyed.get?_eq_some_iff.2 ⟨hn, hid⟩
    exact ⟨by simp only [Simulation.act, hg], notices_of_known (s.make a).1 hg⟩
  new a hnew := ⟨by simp only [Simulation.act, get?_eq_none_of_new h.keyed hnew], addMember_of_new h.keyed hnew⟩

theorem Tracked.answersAddExisting (h : Tracked published s) : AnswersAddExisting s where
  known handle n hn hknown := by
    obtain ⟨m, hm, hid⟩ := hknown
    have hg : s.cluster.group.get? n.id = some m := h.keyed.get?_eq_some_iff.2 ⟨hm, hid⟩
    have hcontains : s.cluster.group.contains n.id = true := by
      rw [← hid]
      exact h.keyed.contains_of_mem hm
    have hadd : s.cluster.group.add n = (s.cluster.group, []) := by rw [Group.add, if_pos hcontains]
    refine ⟨?_, ?_⟩
    · simp only [Simulation.act, withNode, hn, Simulation.enter, Cluster.addMember, hadd, hcontains]
      rfl
    · rw [notices, hn]
      exact notices_of_known n hg
  new handle n hn hnew := by
    refine ⟨?_, ?_⟩
    · simp only [Simulation.act, withNode, hn, contains_eq_false_of_new h.keyed hnew]
      rfl
    · rw [notices, hn]
      exact addMember_of_new h.keyed hnew

theorem Tracked.answersRemove (h : Tracked published s) : AnswersRemove s where
  known n hn := by
    have hg : s.cluster.group.get? n.id = some n := h.keyed.get?_eq_some_iff.2 ⟨hn, rfl⟩
    obtain ⟨handle, hhandle⟩ := h.handled n hn
    obtain ⟨e, he⟩ := Option.isSome_iff_exists.1
      (List.find?_isSome.2 ⟨(handle, n), hhandle, by simp⟩ : (s.handles.find? (·.2 = n)).isSome = true)
    have hnode : e.2 = n := by simpa using List.find?_some he
    have hfound : s.handle? n = some e.1 := by rw [handle?, he]; rfl
    refine ⟨e.1, hnode ▸ List.mem_of_find?_eq_some he, ?_, ?_⟩
    · simp only [Simulation.act, hg, Option.bind_some, hfound]
    · simp only [notices, Cluster.removeMember, Group.remove, hg]
  unknown id hnew := by
    have hg := get?_eq_none_of_new h.keyed hnew
    have hremove : s.cluster.group.remove id = (s.cluster.group, []) := by rw [Group.remove, hg]
    refine ⟨?_, ?_⟩
    · simp only [Simulation.act, Cluster.removeMember, hremove, hg]
      rfl
    · simp only [notices, Cluster.removeMember, hremove]

/-- **The group announces the acts that change its members, and no others.** -/
theorem Tracked.announces_iff (h : Tracked published s) (a : Act) :
    (∃ x ∈ s.notices a, x.isOfMembership = true) ↔ (s.act a).1.cluster.group.members ≠ s.cluster.group.members := by
  have hturn := turn s a
  generalize (s.act a).1 = s' at hturn ⊢
  generalize s.notices a = xs at hturn ⊢
  cases hturn with
  | keeps silent roster =>
    refine iff_of_false (fun ⟨x, hx, hmember⟩ => ?_) (fun hne => hne (congrArg Roster.nodes roster))
    cases (silent x hx).symm.trans hmember
  | @enters n handle isNew handled roster =>
    refine iff_of_true ⟨_, List.mem_singleton_self _, rfl⟩ fun he => ?_
    have hmembers : s'.cluster.group.members = s.cluster.group.members ++ [n] :=
      (congrArg Roster.nodes roster).trans (Roster.nodes_insert_of_not_contains n isNew)
    simp [he] at hmembers
  | @departs n id found roster =>
    refine iff_of_true ⟨_, List.mem_singleton_self _, rfl⟩ fun he => ?_
    obtain ⟨hn, rfl⟩ := h.keyed.get?_eq_some_iff.1 found
    have hgone : n ∉ s'.cluster.group.members := by
      show n ∉ s'.cluster.group.roster.nodes
      rw [roster, h.keyed.mem_nodes_erase]
      exact fun hmem => hmem.2 rfl
    exact hgone (he ▸ hn)

/-- A simulation that has not begun, whoever receives its notices. -/
theorem tracked_start (config : Config) (tracker : TrackerConfig) (capacity : Nat) (group : String) (backing : Backing)
    (bus : Bus Receiver) (isListening : Bool) :
    Tracked [] { start config tracker capacity group backing with bus, isListening } where
  keyed := Roster.keyed_empty
  members := rfl
  latest := nofun
  removed := fun before n after h => by simp at h
  handled := nofun
  made := nofun

/-- **Folding the notices of the group gives its members**, the same nodes in the same order, after any row of acts that
leaves the bus to the group.  No two members share an identity, and a node that is made is another one than all before it; the
group announces what changes its members and nothing else, and who is removed is the node last added under its identity. -/
theorem group_replayed (config : Config) (tracker : TrackerConfig) (capacity : Nat) (group : String) (backing : Backing)
    (bus : Bus Receiver) (isListening : Bool) (as : List Act) (h : ∀ a ∈ as, a.sparesBus = true) :
    let start : Simulation := { start config tracker capacity group backing with bus, isListening }
    let s := (start.acts as).1
    let members := s.cluster.group.members
    s.bus = (start.published as).foldl Bus.publish bus ∧
    (start.published as).foldl Notice.replay [] = members ∧
    (members.map (·.id)).Nodup ∧
    RemovesLast (start.published as) ∧
    (∀ a, (∃ x ∈ s.notices a, x.isOfMembership = true) ↔ (s.act a).1.cluster.group.members ≠ members) ∧
    (∀ a, ∀ e ∈ s.handles, e.2 ≠ (s.make a).1) ∧
    AnswersAdd s ∧ AnswersAddExisting s ∧ AnswersRemove s := by
  intro start s members
  have htracked : Tracked (start.published as) s :=
    (tracked_start config tracker capacity group backing bus isListening).acts as
  refine ⟨bus_acts h, htracked.members, ?_, htracked.removed, htracked.announces_iff, fun a e he heq => ?_,
    htracked.answersAdd, htracked.answersAddExisting, htracked.answersRemove⟩
  · exact htracked.keyed.map_id_nodes ▸ htracked.keyed.nodup
  · have hserial : e.2.serial = s.made := by rw [heq]; rfl
    exact Nat.ne_of_lt (htracked.made e he) hserial

/-- A node as it is announced to a group of the example below. -/
def announcedAs (handle id host : String) : Announcement := ⟨handle, ⟨id⟩, ⟨host, 1⟩, ⟨"u", "p"⟩⟩

/-- An identity changes hands twice: its first node leaves, another is announced under it and leaves too, and the first comes
back. -/
def returning : List Act := [.add (announcedAs "a" "1" "x"), .add (announcedAs "b" "2" "y"), .signal "b" .serviceUp true,
  .remove ⟨"1"⟩, .add (announcedAs "c" "1" "z"), .addExisting "a", .remove ⟨"1"⟩, .remove ⟨"3"⟩, .addExisting "a"]

def watched (config : Config) : Simulation :=
  { start config {} 8 "g" (.simulated { stages := false }) with
    bus := (Bus.ofCapacity 8).subscribe (.named "r"), isListening := false }

/-- Where an identity changes hands, each removal is of the node that had it. -/
theorem group_replayed_of_return :
    let first : Node := ⟨0, ⟨"1"⟩, ⟨"x", 1⟩, ⟨"u", "p"⟩⟩
    let second : Node := ⟨1, ⟨"2"⟩, ⟨"y", 1⟩, ⟨"u", "p"⟩⟩
    let third : Node := ⟨2, ⟨"1"⟩, ⟨"z", 1⟩, ⟨"u", "p"⟩⟩
    let s := ((watched {}).acts returning).1
    (∀ a ∈ returning, a.sparesBus = true) ∧
    (watched {}).published returning = [.added first, .added second, .changed second .serviceUp true, .removed first,
      .added third, .removed third, .added first] ∧
    s.bus = ((watched {}).published returning).foldl Bus.publish (watched {}).bus ∧
    ((watched {}).published returning).foldl Notice.replay [] = [second, first] ∧
    AddedLast [.added first, .added second, .changed second .serviceUp true, .removed first, .added third] third ∧
    s.act (.add (announcedAs "d" "2" "w")) = (s.register "d" second, .isNew false) ∧
    s.act (.addExisting "c") = (s, .bool false) ∧
    s.act (.remove ⟨"3"⟩) = (s, .handle none) := by
  intro first second third s
  have hspares : ∀ a ∈ returning, a.sparesBus = true := by simp [returning, Act.sparesBus]
  have hpublished : (watched {}).published returning = [.added first, .added second, .changed second .serviceUp true,
      .removed first, .added third, .removed third, .added first] := by decide +kernel
  have hmembers : s.cluster.group.members = [second, first] := by decide +kernel
  have hthird : s.node? "c" = some third := by decide +kernel
  obtain ⟨hbus, hfold, -, hremoves, -, -, hadd, hexisting, hremove⟩ :=
    group_replayed {} {} 8 "g" (.simulated { stages := false }) (watched {}).bus false returning hspares
  have hlast : AddedLast [.added first, .added second, .changed second .serviceUp true, .removed first, .added third]
      third := hremoves _ third [.added first] (hpublished.trans rfl)
  have hknown : second ∈ s.cluster.group.members := by rw [hmembers]; exact List.mem_cons_self
  have hback : first ∈ s.cluster.group.members := by rw [hmembers]; exact List.mem_cons_of_mem _ List.mem_cons_self
  have hgone : ∀ n ∈ s.cluster.group.members, n.id ≠ ⟨"3"⟩ := by rw [hmembers]; decide
  exact ⟨hspares, hpublished, hbus, hfold.trans hmembers, hlast,
    (hadd.known (announcedAs "d" "2" "w") second hknown rfl).1, (hexisting.known "c" third hthird ⟨first, hback, rfl⟩).1,
    (hremove.unknown ⟨"3"⟩ hgone).1⟩

end Simulation

end ClusterMembership
