import ClusterMembership.Proofs.Histories
/-!
# What a hand-over leaves

A hand-over leaves the role alone where its holder is in the group and either ready enough or without a successor that is
initialized (`Cluster.IsHandedOver`).  Else it promotes a ready member, which no further hand-over replaces
(`Cluster.Keeps`), or deposes a primary that has left the group (`handOver_spec`).  So a second hand-over finds nothing
to do (`isHandedOver_handOver`).
-/
namespace ClusterMembership.Cluster

variable {c : Cluster} {p : Node}

/-- No primary has left the group, and none is overdue that has a successor. -/
def IsHandedOver (c : Cluster) : Prop :=
  ∀ p, c.primary = some p → c.hasDeparted p = false ∧ (c.isOverdue p = true → c.successor? p = none)

/-- The primary is `p`, which no hand-over replaces whoever may follow it. -/
structure Keeps (c : Cluster) (p : Node) : Prop where
  primary : c.primary = some p
  present : c.hasDeparted p = false
  due : c.isOverdue p = false

theorem Frame.hasDeparted {c' : Cluster} (h : Frame c c') (p : Node) : c'.hasDeparted p = c.hasDeparted p := by
  rw [Cluster.hasDeparted, Cluster.hasDeparted, h.group]

theorem Frame.isOverdue {c' : Cluster} (h : Frame c c') (p : Node) : c'.isOverdue p = c.isOverdue p := by
  rw [Cluster.isOverdue, Cluster.isOverdue, h.hasDeparted, h.config, h.isReady]

theorem Keeps.isHandedOver (h : c.Keeps p) : c.IsHandedOver := by
  intro q hq
  obtain rfl : p = q := Option.some.inj (h.primary.symm.trans hq)
  exact ⟨h.present, fun ho => absurd ho (by rw [h.due]; exact Bool.false_ne_true)⟩

theorem hasDeparted_of_mem (hk : c.group.roster.Keyed) {n : Node} (h : n ∈ c.group.members) :
    c.hasDeparted n = false := by
  have hc : c.group.contains n.id = true := hk.contains_of_mem h
  rw [hasDeparted, hc]; rfl

theorem isOverdue_of_isReady {n : Node} (h : c.isReady n = true) : c.isOverdue n = false := by
  simp [isOverdue, h]

theorem isReady_of_mem_successors {n : Node} (h : n ∈ c.successors p) : c.isReady n = true := by
  have := (List.mem_filter.1 h).2
  simp only [Bool.and_eq_true] at this
  exact this.2

theorem not_isInitialized_of_successor? (h : c.successor? p = none) {n : Node} (hn : n ∈ c.successors p) :
    ¬ c.isInitialized n = true := by
  unfold successor? at h
  split at h
  · cases h
  · next hf => exact List.find?_eq_none.1 hf n hn

/-- A primary that is handed over is ready, or is not to be replaced for not being so, or no successor is initialized. -/
theorem IsHandedOver.ready_or_unfollowed (h : c.IsHandedOver) (hp : c.primary = some p) :
    c.isReady p = true ∨ c.config.replaceUnready = false ∨ ∀ n ∈ c.successors p, ¬ c.isInitialized n = true := by
  obtain ⟨hd, ho⟩ := h p hp
  by_cases hov : c.isOverdue p = true
  · exact Or.inr (Or.inr fun n hn => not_isInitialized_of_successor? (ho hov) hn)
  · rw [isOverdue, hd] at hov
    cases hc : c.config.replaceUnready with
    | false => exact Or.inr (Or.inl rfl)
    | true =>
      rw [hc] at hov
      exact Or.inl (by simpa using hov)

theorem handOver_of_isHandedOver (h : c.IsHandedOver) : c.handOver = c := by
  unfold handOver
  cases hp : c.primary with
  | none => rfl
  | some p =>
    obtain ⟨hd, ho⟩ := h p hp
    simp only [hd, Bool.false_or]
    split
    · next hov => rw [ho hov]; rfl
    · rfl

theorem pendingCommit_handOver (c : Cluster) : c.handOver.pendingCommit = c.pendingCommit := by
  rcases handOver_cases c with h | ⟨p, n, -, -, h⟩ | ⟨p, -, -, -, h⟩ <;> rw [h] <;> rfl

/-- **A hand-over changes nothing, or leaves a primary that no further one replaces**, or deposes one that is gone. -/
theorem handOver_spec (hk : c.group.roster.Keyed) :
    c.IsHandedOver ∨ (∃ n, n ∈ c.group.members ∧ c.handOver.Keeps n) ∨
    ∃ p, c.primary = some p ∧ c.hasDeparted p = true ∧ c.handOver.primary = none := by
  by_cases hh : c.IsHandedOver
  · exact Or.inl hh
  refine Or.inr ?_
  unfold IsHandedOver at hh
  push Not at hh
  obtain ⟨p, hp, hh⟩ := hh
  have hf := frame_handOver c
  -- the primary is gone or overdue: it has a successor, or it is gone and is deposed
  cases hs : c.successor? p with
  | some n =>
    have hn := mem_successors_of_successor? hs
    have hgo : (c.hasDeparted p || c.isOverdue p) = true := by
      by_contra hgo
      rw [Bool.not_eq_true, Bool.or_eq_false_iff] at hgo
      exact absurd (hh hgo.1).1 (by rw [hgo.2]; exact Bool.false_ne_true)
    have he : c.handOver = c.promote n := by
      unfold handOver
      simp only [hp, hgo, if_true, hs]
    have hm := mem_members_of_mem_successors hn
    refine Or.inl ⟨n, hm, by rw [he]; rfl, ?_, ?_⟩
    · rw [hf.hasDeparted]; exact hasDeparted_of_mem hk hm
    · rw [hf.isOverdue]; exact isOverdue_of_isReady (isReady_of_mem_successors hn)
  | none =>
    have hd : c.hasDeparted p = true := by
      by_contra hd
      exact (hh (Bool.eq_false_iff.2 hd)).2 hs
    refine Or.inr ⟨p, hp, hd, ?_⟩
    unfold handOver
    simp only [hp, hd, Bool.true_or, if_true, hs]
    rfl

theorem isHandedOver_handOver (hk : c.group.roster.Keyed) : c.handOver.IsHandedOver := by
  rcases handOver_spec hk with h | ⟨n, -, h⟩ | ⟨-, -, -, h⟩
  · rw [handOver_of_isHandedOver h]; exact h
  · exact h.isHandedOver
  · intro p hp; rw [h] at hp; cases hp

end ClusterMembership.Cluster
