import ClusterMembership.Proofs.Answers
import ClusterMembership.Proofs.Histories
/-!
# Two views of one membership

The controller keeps its active nodes and its primary, the backing cluster its members and its plan.  They agree
(`Agrees`) when the active nodes are members and, under a primary, the members are the active nodes and the primary; and
the controller knows what is planned (`Planned`) when a commit is due exactly when something is.  Taking a node in on both
sides and dropping it on both sides keep the two in agreement, where no identity and no address stands for two nodes, and
so does handing the role over: a primary without a place among the active nodes has nobody to hand it to.
-/
namespace ClusterMembership

/-- No two of the nodes share an address. -/
def DistinctAddresses (known : Node → Prop) : Prop := ∀ n m, known n → known m → n.address = m.address → n = m

namespace Cluster

/-- The addresses of the active nodes. -/
def addresses (c : Cluster) : List Address := c.active.nodes.map (·.address)

/-- The primary is an active node, and is not among `others`. -/
def Leads (c : Cluster) (others : List Node) : Prop :=
  ∃ p, c.primary = some p ∧ p ∈ c.active.nodes ∧ p ∉ others

theorem Leads.head {c : Cluster} {n : Node} {ns : List Node} (h : c.Leads (n :: ns)) : c.Leads [n] := by
  obtain ⟨p, hp, hpa, hpn⟩ := h
  exact ⟨p, hp, hpa, fun he => hpn (by rw [List.mem_singleton.1 he]; exact List.mem_cons_self)⟩

theorem mem_addresses {c : Cluster} {a : Address} : a ∈ c.addresses ↔ ∃ n ∈ c.active.nodes, n.address = a :=
  List.mem_map

end Cluster

/-- The active nodes are members; under a primary, they and the primary are all members.  A primary without a place among
the active nodes is alone. -/
structure Agrees (c : Cluster) (s : SimulatedCluster) : Prop where
  covered : ∀ a ∈ c.addresses, a ∈ s.effective
  exact : ∀ p, c.primary = some p → ∀ a, a ∈ s.effective ↔ a = p.address ∨ a ∈ c.addresses
  anchored : ∀ p, c.primary = some p → c.active.nodes = [] ∨ p ∈ c.active.nodes

/-- A commit is due exactly when something is planned. -/
structure Planned (c : Cluster) (s : SimulatedCluster) : Prop where
  stages : c.stages = s.stages
  orderly : s.Orderly
  pending : c.pendingCommit = true ↔ s.plan ≠ []

variable {known : Node → Prop} {c c' : Cluster} {s s' : SimulatedCluster}

theorem Agrees.keep (h : Agrees c s) (ha : c'.active = c.active) (hp : c'.primary = c.primary) : Agrees c' s := by
  have hadd : c'.addresses = c.addresses := by rw [Cluster.addresses, ha]; rfl
  refine ⟨?_, ?_, ?_⟩
  · rw [hadd]; exact h.covered
  · rw [hadd, hp]; exact h.exact
  · rw [ha, hp]; exact h.anchored

theorem Planned.keep (h : Planned c s) (hs : c'.stages = c.stages) (hp : c'.pendingCommit = c.pendingCommit) :
    Planned c' s :=
  ⟨hs.trans h.stages, h.orderly, by rw [hp]; exact h.pending⟩

theorem Agrees.congr (h : Agrees c s) (hm : s.SameMembership s') : Agrees c s' :=
  ⟨fun a ha => by rw [hm.effective]; exact h.covered a ha, fun p hp a => by rw [hm.effective]; exact h.exact p hp a,
    h.anchored⟩

theorem Planned.congr (h : Planned c s) (hm : s.SameMembership s') : Planned c s' :=
  ⟨h.stages.trans hm.stages.symm, hm.orderly h.orderly, by rw [hm.plan]; exact h.pending⟩

theorem Planned.plan_eq_nil (h : Planned c s) (hc : ¬ (c.stages && c.pendingCommit) = true) : s.plan = [] := by
  by_cases hs : c.stages = true
  · rw [hs, Bool.true_and] at hc
    by_contra hne
    exact hc (h.pending.2 hne)
  · exact h.orderly (h.stages.symm.trans (Bool.eq_false_iff.2 hs))

/-! ## Taking in and dropping nodes -/

theorem mem_active_enroll_of_mem (hd : DistinctIds known) (hs : c.Sound known) {n m : Node} (hn : known n)
    (hm : m ∈ c.active.nodes) : m ∈ (c.enroll n.id n).active.nodes := by
  rw [Cluster.mem_active_enroll hs.active_keyed]
  by_cases hid : m.id = n.id
  · exact Or.inl (hd m n (hs.active_known m hm) hn hid)
  · exact Or.inr ⟨hm, hid⟩

theorem mem_addresses_enroll (hd : DistinctIds known) (hs : c.Sound known) {n : Node} (hn : known n) {a : Address} :
    a ∈ (c.enroll n.id n).addresses ↔ a = n.address ∨ a ∈ c.addresses := by
  rw [Cluster.mem_addresses, Cluster.mem_addresses]
  constructor
  · rintro ⟨m, hm, rfl⟩
    rcases (Cluster.mem_active_enroll hs.active_keyed).1 hm with rfl | ⟨hm, -⟩
    · exact Or.inl rfl
    · exact Or.inr ⟨m, hm, rfl⟩
  · rintro (rfl | ⟨m, hm, rfl⟩)
    · exact ⟨n, (Cluster.mem_active_enroll hs.active_keyed).2 (Or.inl rfl), rfl⟩
    · exact ⟨m, mem_active_enroll_of_mem hd hs hn hm, rfl⟩

theorem mem_addresses_discharge (hd : DistinctIds known) (hda : DistinctAddresses known) (hs : c.Sound known)
    {n : Node} (hn : known n) {a : Address} :
    a ∈ (c.discharge n).addresses ↔ a ∈ c.addresses ∧ a ≠ n.address := by
  rw [Cluster.mem_addresses, Cluster.mem_addresses]
  constructor
  · rintro ⟨m, hm, rfl⟩
    obtain ⟨hm, hid⟩ := (Cluster.mem_active_discharge hs.active_keyed).1 hm
    exact ⟨⟨m, hm, rfl⟩, fun he => hid (by rw [hda m n (hs.active_known m hm) hn he])⟩
  · rintro ⟨⟨m, hm, rfl⟩, hne⟩
    exact ⟨m, (Cluster.mem_active_discharge hs.active_keyed).2
      ⟨hm, fun hid => hne (by rw [hd m n (hs.active_known m hm) hn hid])⟩, rfl⟩

/-- **A node taken in on both sides**, where the primary has its place among the active nodes or takes it now. -/
theorem Agrees.enroll (hd : DistinctIds known) (hs : c.Sound known) (h : Agrees c s) {n : Node} (hn : known n)
    (hp : ∀ p, c.primary = some p → p = n ∨ p ∈ c.active.nodes)
    (he : ∀ a, a ∈ s'.effective ↔ a = n.address ∨ a ∈ s.effective) : Agrees (c.enroll n.id n) s' := by
  refine ⟨fun a ha => ?_, fun p hpr a => ?_, fun p hpr => ?_⟩
  · rw [he]
    exact ((mem_addresses_enroll hd hs hn).1 ha).imp_right (h.covered a)
  · rw [he, mem_addresses_enroll hd hs hn, h.exact p hpr a]
    tauto
  · rcases hp p hpr with rfl | hpa
    · exact Or.inr ((Cluster.mem_active_enroll hs.active_keyed).2 (Or.inl rfl))
    · exact Or.inr (mem_active_enroll_of_mem hd hs hn hpa)

/-- **A node dropped on both sides**, other than the primary. -/
theorem Agrees.discharge (hd : DistinctIds known) (hda : DistinctAddresses known) (hs : c.Sound known)
    (h : Agrees c s) {n : Node} (hn : known n) (hl : c.Leads [n])
    (he : ∀ a, a ∈ s'.effective ↔ a ∈ s.effective ∧ a ≠ n.address) : Agrees (c.discharge n) s' := by
  obtain ⟨p, hpr, hpa, hpn⟩ := hl
  have hne : p ≠ n := fun he => hpn (by rw [he]; exact List.mem_cons_self)
  have hpk := hs.primary_known p hpr
  refine ⟨fun a ha => ?_, fun q hq a => ?_, fun q hq => ?_⟩
  · obtain ⟨ha, hna⟩ := (mem_addresses_discharge hd hda hs hn).1 ha
    exact (he a).2 ⟨h.covered a ha, hna⟩
  · rw [he, mem_addresses_discharge hd hda hs hn, h.exact q hq a]
    have hqp : q = p := Option.some.inj (hq.symm.trans hpr)
    have hqn : a = q.address → a ≠ n.address := by
      rintro rfl hqn
      exact hne (hda p n hpk hn (by rw [← hqp]; exact hqn))
    tauto
  · have hqp : q = p := Option.some.inj (hq.symm.trans hpr)
    rw [hqp]
    exact Or.inr ((Cluster.mem_active_discharge hs.active_keyed).2 ⟨hpa, fun hid => hne (hd p n hpk hn hid)⟩)

theorem leads_enroll (hd : DistinctIds known) (hs : c.Sound known) {n : Node} (hn : known n) {ns : List Node}
    (h : c.Leads ns) : (c.enroll n.id n).Leads ns := by
  obtain ⟨p, hpr, hpa, hpn⟩ := h
  exact ⟨p, hpr, mem_active_enroll_of_mem hd hs hn hpa, hpn⟩

theorem leads_discharge (hd : DistinctIds known) (hs : c.Sound known) {n : Node} (hn : known n) {ns : List Node}
    (h : c.Leads (n :: ns)) : (c.discharge n).Leads ns := by
  obtain ⟨p, hpr, hpa, hpn⟩ := h
  have hne : p ≠ n := fun he => hpn (by rw [he]; exact List.mem_cons_self)
  refine ⟨p, hpr, (Cluster.mem_active_discharge hs.active_keyed).2 ⟨hpa, fun hid => ?_⟩, fun hm => ?_⟩
  · exact hne (hd p n (hs.primary_known p hpr) hn hid)
  · exact hpn (List.mem_cons_of_mem n hm)

/-! ## The role -/

theorem Agrees.promote (h : Agrees c s) {p n : Node} (hp : c.primary = some p) (hn : n ∈ c.active.nodes) :
    Agrees (c.promote n) s := by
  have hpa : p ∈ c.active.nodes := (h.anchored p hp).resolve_left (List.ne_nil_of_mem hn)
  refine ⟨h.covered, fun q hq a => ?_, fun q hq => Or.inr (by rw [← Option.some.inj hq]; exact hn)⟩
  rw [← Option.some.inj hq, h.exact p hp a]
  show a = p.address ∨ a ∈ c.addresses ↔ a = n.address ∨ a ∈ c.addresses
  have hpm : a = p.address → a ∈ c.addresses := fun he => Cluster.mem_addresses.2 ⟨p, hpa, he.symm⟩
  have hnm : a = n.address → a ∈ c.addresses := fun he => Cluster.mem_addresses.2 ⟨n, hn, he.symm⟩
  tauto

theorem Agrees.handOver (hm : c.Marked) (h : Agrees c s) : Agrees c.handOver s := by
  rcases Cluster.handOver_cases c with he | ⟨p, n, hp, hn, he⟩ | ⟨p, -, -, -, he⟩
  · rw [he]; exact h
  · rw [he]
    have hs := (List.mem_filter.1 hn).2
    simp only [Bool.and_eq_true] at hs
    exact h.promote hp (hm n hs.1.1.2)
  · rw [he]
    exact ⟨h.covered, fun q hq => (by cases hq), fun q hq => (by cases hq)⟩

theorem Planned.handOver (h : Planned c s) : Planned c.handOver s := by
  rcases Cluster.handOver_cases c with he | ⟨p, n, -, -, he⟩ | ⟨p, -, -, -, he⟩ <;> rw [he]
  · exact h
  · exact h.keep rfl rfl
  · exact h.keep rfl rfl

theorem agrees_enrollPrimary (hd : DistinctIds known) (hs : c.Sound known) (h : Agrees c s) {p : Node}
    (hp : c.primary = some p) : Agrees (c.enrollPrimary p) s ∧ p ∈ (c.enrollPrimary p).active.nodes := by
  have hk := hs.primary_known p hp
  unfold Cluster.enrollPrimary
  split
  · next hc =>
    obtain ⟨m, hm, hid⟩ := hs.active_keyed.contains_iff_exists.1 hc
    have hmp := hd m p (hs.active_known m hm) hk hid
    exact ⟨h, by rw [← hmp]; exact hm⟩
  · have hpe : p.address ∈ s.effective := (h.exact p hp p.address).2 (Or.inl rfl)
    refine ⟨h.enroll hd hs hk (fun q hq => Or.inl (Option.some.inj (hq.symm.trans hp))) (fun a => ?_), ?_⟩
    · exact ⟨Or.inr, fun ha => ha.elim (fun he => by rw [he]; exact hpe) id⟩
    · exact (Cluster.mem_active_enroll hs.active_keyed).2 (Or.inl rfl)

theorem Planned.enrollPrimary (h : Planned c s) (p : Node) : Planned (c.enrollPrimary p) s := by
  unfold Cluster.enrollPrimary
  split
  · exact h
  · exact h.keep rfl rfl

/-! ## Changes of membership -/

theorem Planned.change (h : Planned c s) (x : Change) : Planned c.markStaged (s.change x) := by
  refine ⟨h.stages.trans (SimulatedCluster.stages_change s x).symm, SimulatedCluster.orderly_change h.orderly x, ?_⟩
  rw [SimulatedCluster.plan_change]
  show (c.pendingCommit || c.stages) = true ↔ _
  rw [h.stages]
  cases hs : s.stages with
  | true => simp
  | false => rw [Bool.or_false, h.pending]; rfl

theorem not_mem_effective (hda : DistinctAddresses known) (hs : c.Sound known) (ha : Agrees c s) {n : Node}
    (hn : known n) (hna : n ∉ c.active.nodes) {ns : List Node} (hl : c.Leads ns) : n.address ∉ s.effective := by
  obtain ⟨p, hp, hpa, -⟩ := hl
  intro h
  rcases (ha.exact p hp n.address).1 h with he | hm
  · exact hna (by rw [hda n p hn (hs.primary_known p hp) he]; exact hpa)
  · obtain ⟨m, hm, he⟩ := Cluster.mem_addresses.1 hm
    exact hna (by rw [← hda m n (hs.active_known m hm) hn he]; exact hm)

end ClusterMembership
