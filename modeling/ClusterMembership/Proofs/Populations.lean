import ClusterMembership.Proofs.Incidents
import Mathlib.Data.List.Nodup
/-!
# Populated clusters

A simulated cluster has no members until a node is made its coordinator, and from then on it has one for ever
(`never_emptied`).  What carries this is that the cluster stays inhabited at every stage of its plan (`Populated`): the
last remaining member of the effective membership may not leave, a commit only brings the members to a later stage of the
plan, and a node that is recovered below the plan is one more at every stage.
-/
namespace ClusterMembership

namespace Simulated

variable {members : List Address} {a : Address}

theorem nodup_including (h : members.Nodup) (a : Address) : (including members a).Nodup := by
  unfold including
  split
  · exact h
  · next ha => exact h.append (List.nodup_singleton a) (by simpa using ha)

theorem nodup_foldl_applyChange (h : members.Nodup) (plan : List Change) : (plan.foldl applyChange members).Nodup := by
  induction plan generalizing members with
  | nil => exact h
  | cons x plan ih =>
    cases x with
    | join a => exact ih (nodup_including h a)
    | leave a => exact ih (h.filter _)

theorem including_ne_nil (members : List Address) (a : Address) : including members a ≠ [] :=
  List.ne_nil_of_mem (mem_including.2 (Or.inl rfl))

/-- **Somebody is left when one of several members leaves.** -/
theorem excluding_ne_nil (h : members.Nodup) (ha : a ∈ members) (hl : members.length ≠ 1) : excluding members a ≠ [] := by
  have hne : members ≠ [a] := fun hone => hl (by rw [hone]; rfl)
  obtain ⟨b, hb, hba⟩ := ((h.ne_singleton_iff a).1 hne).resolve_left (List.ne_nil_of_mem ha)
  exact List.ne_nil_of_mem (mem_excluding.2 ⟨hb, hba⟩)

end Simulated

namespace SimulatedCluster

open Simulated

/-- Nobody is a member, and nothing is planned. -/
structure Vacant (s : SimulatedCluster) : Prop where
  members : s.members = []
  plan : s.plan = []

/-- The cluster is inhabited, and stays so at every stage of its plan. -/
structure Populated (s : SimulatedCluster) : Prop where
  orderly : s.Orderly
  nodup : s.members.Nodup
  inhabited : ∀ planned, planned <+: s.plan → planned.foldl applyChange s.members ≠ []

variable {s : SimulatedCluster}

theorem Populated.effective_ne_nil (h : s.Populated) : s.effective ≠ [] := h.inhabited s.plan List.prefix_rfl

theorem Populated.nodup_effective (h : s.Populated) : s.effective.Nodup := nodup_foldl_applyChange h.nodup s.plan

/-- With nothing planned it is enough that there are members. -/
theorem populated_of_plan_eq_nil (hp : s.plan = []) (hd : s.members.Nodup) (hm : s.members ≠ []) : s.Populated where
  orderly _ := hp
  nodup := hd
  inhabited planned h := by
    obtain rfl : planned = [] := List.prefix_nil.1 (hp ▸ h)
    exact hm

theorem SameMembership.populated {k : SimulatedCluster} (h : s.SameMembership k) (hs : s.Populated) : k.Populated where
  orderly := h.orderly hs.orderly
  nodup := by rw [h.members]; exact hs.nodup
  inhabited := by rw [h.plan, h.members]; exact hs.inhabited

/-! ## What calls do -/

/-- **A change that leaves somebody in the effective membership keeps the cluster populated**, staged or not. -/
theorem Populated.change (h : s.Populated) {x : Change} (hx : applyChange s.effective x ≠ []) :
    (s.change x).Populated := by
  have he : (s.change x).effective = applyChange s.effective x := effective_change h.orderly x
  have hd : (applyChange s.effective x).Nodup := nodup_foldl_applyChange h.nodup_effective [x]
  unfold SimulatedCluster.change at he ⊢
  split
  · refine ⟨fun hs => absurd hs (by simpa using ‹s.stages = true›), h.nodup, fun planned hpre => ?_⟩
    rcases List.prefix_concat_iff.1 hpre with rfl | hpre
    · rw [List.foldl_append]; exact hx
    · exact h.inhabited planned hpre
  · next hs =>
    have hp : s.plan = [] := h.orderly (Bool.eq_false_iff.2 hs)
    rw [effective_of_plan_eq_nil hp] at hd hx
    exact populated_of_plan_eq_nil hp hd hx

theorem populated_bootstrap (s : SimulatedCluster) (node : Target) : (s.carryOut (.bootstrap node)).Populated :=
  populated_of_plan_eq_nil rfl (List.nodup_singleton _) (List.cons_ne_nil _ _)

theorem Populated.recover (h : s.Populated) (failed sponsor : Target) :
    (s.carryOut (.recover failed sponsor)).Populated where
  orderly := orderly_carryOut h.orderly _
  nodup := nodup_including h.nodup _
  inhabited planned hpre := by
    obtain ⟨a, ha⟩ := List.exists_mem_of_ne_nil _ (h.inhabited planned hpre)
    exact List.ne_nil_of_mem (mem_foldl_mono (fun hm => mem_including.2 (Or.inr hm)) planned ha)

theorem leave_objected {t leaving : Target} (h : s.objection? (.leave t leaving) = none) :
    leaving.address ∈ s.effective ∧ s.effective.length ≠ 1 := by
  rw [objection?] at h
  split at h
  · cases h
  · next hm =>
    split at h
    · cases h
    · next hl => exact ⟨by simpa using hm, hl⟩

/-- **A call that is carried out keeps the cluster populated.** -/
theorem Populated.carryOut (h : s.Populated) {c : Call} (ho : s.objection? c = none) : (s.carryOut c).Populated := by
  cases c with
  | bootstrap node => exact populated_bootstrap s node
  | join t a credentials => exact h.change (including_ne_nil _ a)
  | leave t leaving =>
    obtain ⟨hm, hl⟩ := leave_objected ho
    exact h.change (excluding_ne_nil h.nodup_effective hm hl)
  | commit t => exact populated_of_plan_eq_nil rfl h.nodup_effective h.effective_ne_nil
  | rebalance t => exact h
  | recover failed sponsor => exact h.recover failed sponsor

theorem Vacant.effective (h : s.Vacant) : s.effective = [] := by rw [effective_of_plan_eq_nil h.plan, h.members]

theorem Vacant.objection? (h : s.Vacant) {c : Call}
    (hc : c.action = .join ∨ c.action = .leave ∨ c.action = .recover) : s.objection? c ≠ none := by
  cases c with
  | join t a credentials =>
    simp only [SimulatedCluster.objection?, h.effective]
    split
    · simp
    · split <;> simp
  | leave t leaving => simp [SimulatedCluster.objection?, h.effective]
  | recover failed sponsor =>
    simp only [SimulatedCluster.objection?, h.members]
    split <;> simp
  | _ => rcases hc with hc | hc | hc <;> cases hc

theorem Vacant.carryOut (h : s.Vacant) {c : Call} (ho : s.objection? c = none) :
    (∃ node, c = .bootstrap node) ∨ (s.carryOut c).Vacant := by
  cases c with
  | bootstrap node => exact Or.inl ⟨node, rfl⟩
  | join t a credentials => exact absurd ho (h.objection? (Or.inl rfl))
  | leave t leaving => exact absurd ho (h.objection? (Or.inr (Or.inl rfl)))
  | commit t => exact Or.inr ⟨h.effective, rfl⟩
  | rebalance t => exact Or.inr h
  | recover failed sponsor => exact absurd ho (h.objection? (Or.inr (Or.inr rfl)))

/-! ## What incidents do -/

theorem Populated.undergo (h : s.Populated) (i : Incident) : (s.undergo i).Populated := by
  rcases undergo_cases s i with ⟨-, hm⟩ | ⟨c, -, ho, hc⟩
  · exact hm.toSameMembership.populated h
  · rw [hc]; exact h.carryOut ho

theorem Populated.live (h : s.Populated) (history : List Incident) : (s.live history).Populated := by
  induction history generalizing s with
  | nil => exact h
  | cons i history ih => exact ih (h.undergo i)

/-- Some node has been made the coordinator of a new cluster. -/
def Founded (s : SimulatedCluster) (history : List Incident) : Prop := ∃ node, .bootstrap node ∈ s.landed history

/-- **A vacant cluster stays so until it is founded.** -/
theorem Vacant.live (h : s.Vacant) (history : List Incident) :
    (s.Founded history ∧ (s.live history).Populated) ∨ (¬ s.Founded history ∧ (s.live history).Vacant) := by
  induction history generalizing s with
  | nil => exact Or.inr ⟨fun ⟨_, hn⟩ => List.not_mem_nil hn, h⟩
  | cons i history ih =>
    have hcons (hnot : ∀ node, s.lands? i ≠ some (.bootstrap node)) :
        s.Founded (i :: history) ↔ (s.undergo i).Founded history :=
      exists_congr fun node => by simp [landed, hnot node]
    rcases undergo_cases s i with ⟨hi, hm⟩ | ⟨c, hi, ho, hc⟩
    · have hv : (s.undergo i).Vacant := ⟨hm.members.trans h.members, hm.plan.trans h.plan⟩
      rw [hcons fun node hn => by rw [hi] at hn; cases hn]
      exact ih hv
    · rcases h.carryOut ho with ⟨node, rfl⟩ | hv
      · have hp : (s.undergo i).Populated := by rw [hc]; exact populated_bootstrap s node
        exact Or.inl ⟨⟨node, by simp [landed, hi]⟩, hp.live history⟩
      · rw [hcons fun node hn => ?_]
        · exact ih (by rw [hc]; exact hv)
        · obtain rfl : c = .bootstrap node := Option.some.inj (hi.symm.trans hn)
          exact absurd hv.members (List.cons_ne_nil _ _)

/-- A call fails: it is refused if it takes effect now, and whoever makes it now does not get it done. -/
def Fails (s : SimulatedCluster) (c : Call) : Prop :=
  (s.answer c).2 ≠ none ∧ ∀ limit, (s.performWithin limit c).2.1 ≠ .done

theorem fails_of_objection {c : Call} (h : s.objection? c ≠ none) : s.Fails c := by
  constructor
  · rcases answer_cases s c with ⟨ho, -⟩ | ⟨why, -, ha⟩ | ⟨counters, ha⟩
    · exact absurd ho h
    · rw [ha]; exact Option.some_ne_none why
    · rw [ha]; exact Option.some_ne_none _
  · intro limit hdone
    rcases performWithin_cases s limit c with ⟨-, ho, -⟩ | ⟨-, ht | ⟨why, hw, -⟩⟩
    · exact h ho
    · rw [hdone] at ht; cases ht
    · rw [hdone] at hw; cases hw

theorem Populated.last_stays (h : s.Populated) {t leaving : Target} (hl : ∀ a ∈ s.effective, a = leaving.address) :
    s.objection? (.leave t leaving) ≠ none := by
  intro ho
  obtain ⟨hm, hne⟩ := leave_objected ho
  refine excluding_ne_nil h.nodup_effective hm hne (List.filter_eq_nil_iff.2 fun a ha => ?_)
  simpa using hl a ha

end SimulatedCluster

open Simulated

/-- **A simulated cluster is never emptied.**  Whatever calls come in and take effect, in whatever order, and whatever the
cluster is told, nobody is a member before some node is made a coordinator, and no join, leave or recovery succeeds.  From
then on there are members at every stage of the plan, the first and the last included, and the only member of the effective
membership cannot leave. -/
theorem never_emptied (stages : Bool) (history : List Incident) :
    let fresh : SimulatedCluster := { stages }
    let s := fresh.live history
    (¬ fresh.Founded history →
      s.members = [] ∧ s.effective = [] ∧
      ∀ c, c.action = .join ∨ c.action = .leave ∨ c.action = .recover → s.Fails c) ∧
    (fresh.Founded history → ∀ later,
      let k := s.live later
      k.members ≠ [] ∧ k.effective ≠ [] ∧
      (∀ planned, planned <+: k.plan → planned.foldl applyChange k.members ≠ []) ∧
      ∀ t leaving, (∀ a ∈ k.effective, a = leaving.address) → k.Fails (.leave t leaving)) := by
  intro fresh s
  have hfresh : fresh.Vacant := ⟨rfl, rfl⟩
  rcases hfresh.live history with ⟨hf, hp⟩ | ⟨hf, hv⟩
  · refine ⟨fun hn => absurd hf hn, fun _ later => ?_⟩
    have hk : (s.live later).Populated := hp.live later
    exact ⟨hk.inhabited [] (List.nil_prefix), hk.effective_ne_nil, hk.inhabited,
      fun t leaving hl => SimulatedCluster.fails_of_objection (hk.last_stays hl)⟩
  · exact ⟨fun _ => ⟨hv.members, hv.effective, fun c hc => SimulatedCluster.fails_of_objection (hv.objection? hc)⟩,
      fun hn => absurd hn hf⟩

/-- A cluster of two is to lose its first node, and the failed commit of that leaves both its members. -/
def handedDown (a b : Target) : List Incident :=
  [.arrival (.bootstrap a), .landing (.bootstrap a), .arrival (.join a b.address b.credentials),
    .landing (.join a b.address b.credentials), .arrival (.commit a), .landing (.commit a), .arrival (.leave b a),
    .landing (.leave b a), .instruction (.failNext .commit), .arrival (.commit b), .landing (.commit b)]

/-- The second node is the only one left in the effective membership, and cannot leave. -/
theorem never_emptied_handedDown :
    let a : Target := ⟨⟨"a"⟩, ⟨"h", 1⟩, ⟨"u", "p"⟩⟩
    let b : Target := ⟨⟨"b"⟩, ⟨"h", 2⟩, ⟨"u", "p"⟩⟩
    let fresh : SimulatedCluster := { stages := true }
    let k := (fresh.live (handedDown a b)).live [.arrival (.leave a b)]
    fresh.Founded (handedDown a b) ∧ k.members = [a.address, b.address] ∧ k.effective = [b.address] ∧
      k.Fails (.leave a b) ∧ ¬ fresh.Founded [.landing (.join a b.address b.credentials)] := by
  intro a b fresh k
  have hf : fresh.Founded (handedDown a b) := ⟨a, by decide +kernel⟩
  have he : k.effective = [b.address] := by decide +kernel
  have hlast := ((never_emptied true (handedDown a b)).2 hf [.arrival (.leave a b)]).2.2.2
  have hnone : fresh.landed [.landing (.join a b.address b.credentials)] = [] := by decide +kernel
  refine ⟨hf, by decide +kernel, he, hlast a b fun c hc => ?_, fun ⟨node, hn⟩ => ?_⟩
  · exact List.mem_singleton.1 (he ▸ hc)
  · rw [hnone] at hn; cases hn

end ClusterMembership
