import ClusterMembership.Group
import Mathlib.Data.List.Nodup
/-!
# Rosters that keep nodes under their own identities

A roster is *keyed* when no identity occurs twice in it and every node stands under its own identity.  Taking a node in
under its identity and dropping an identity keep a roster keyed (`Keyed.insert`, `Keyed.erase`), and in a keyed roster
looking up an identity is asking for the one node that has it (`Keyed.get?_eq_some_iff`).
-/
namespace ClusterMembership

namespace Roster

/-- No identity occurs twice, and every node stands under its own. -/
structure Keyed (r : Roster) : Prop where
  nodup : r.ids.Nodup
  own : ∀ e ∈ r.entries, e.2.id = e.1

theorem keyed_empty : Keyed {} := ⟨List.nodup_nil, fun e he => by cases he⟩

theorem mem_nodes {r : Roster} {n : Node} : n ∈ r.nodes ↔ ∃ id, (id, n) ∈ r.entries := by
  constructor
  · intro h
    obtain ⟨e, he, rfl⟩ := List.mem_map.1 h
    exact ⟨e.1, he⟩
  · rintro ⟨id, h⟩
    exact List.mem_map.2 ⟨(id, n), h, rfl⟩

theorem Keyed.mem_nodes_iff {r : Roster} (h : r.Keyed) {n : Node} : n ∈ r.nodes ↔ (n.id, n) ∈ r.entries := by
  rw [mem_nodes]
  constructor
  · rintro ⟨id, hn⟩
    have hid : n.id = id := h.own _ hn
    rwa [hid]
  · exact fun hn => ⟨n.id, hn⟩

theorem Keyed.map_id_nodes {r : Roster} (h : r.Keyed) : r.nodes.map (·.id) = r.ids := by
  rw [nodes, ids, List.map_map]
  exact List.map_congr_left h.own

theorem Keyed.nodup_nodes {r : Roster} (h : r.Keyed) : r.nodes.Nodup :=
  List.Nodup.of_map (·.id) (by rw [h.map_id_nodes]; exact h.nodup)

theorem contains_iff {r : Roster} {id : NodeId} : r.contains id = true ↔ id ∈ r.ids := by
  simp [contains, ids]

theorem Keyed.contains_iff_exists {r : Roster} (h : r.Keyed) {id : NodeId} :
    r.contains id = true ↔ ∃ n ∈ r.nodes, n.id = id := by
  rw [contains_iff, ← h.map_id_nodes, List.mem_map]

theorem Keyed.contains_of_mem {r : Roster} (h : r.Keyed) {n : Node} (hn : n ∈ r.nodes) : r.contains n.id = true :=
  h.contains_iff_exists.2 ⟨n, hn, rfl⟩

/-- **Looking up an identity in a keyed roster** finds the one node that has it. -/
theorem Keyed.get?_eq_some_iff {r : Roster} (h : r.Keyed) {id : NodeId} {n : Node} :
    r.get? id = some n ↔ n ∈ r.nodes ∧ n.id = id := by
  rw [get?, Option.map_eq_some_iff]
  constructor
  · rintro ⟨e, he, rfl⟩
    have hmem := List.mem_of_find?_eq_some he
    have hid : e.1 = id := by simpa using List.find?_some he
    exact ⟨List.mem_map.2 ⟨e, hmem, rfl⟩, (h.own e hmem).trans hid⟩
  · rintro ⟨hn, rfl⟩
    have hmem := h.mem_nodes_iff.1 hn
    obtain ⟨e, he⟩ := Option.isSome_iff_exists.1
      (List.find?_isSome.2 ⟨(n.id, n), hmem, by simp⟩ : (r.entries.find? (·.1 = n.id)).isSome = true)
    have hid : e.1 = n.id := by simpa using List.find?_some he
    have heq : e = (n.id, n) := List.inj_on_of_nodup_map (f := Prod.fst) h.nodup (List.mem_of_find?_eq_some he) hmem hid
    exact ⟨e, he, by rw [heq]⟩

theorem Keyed.eq_of_id_eq {r : Roster} (h : r.Keyed) {n m : Node} (hn : n ∈ r.nodes) (hm : m ∈ r.nodes)
    (hid : n.id = m.id) : n = m :=
  Option.some.inj ((h.get?_eq_some_iff.2 ⟨hn, hid⟩).symm.trans (h.get?_eq_some_iff.2 ⟨hm, rfl⟩))

/-! ## Taking in and dropping -/

theorem map_fst_insertEntry (id : NodeId) (n : Node) (es : List (NodeId × Node)) :
    (insertEntry id n es).map Prod.fst = if id ∈ es.map Prod.fst then es.map Prod.fst else es.map Prod.fst ++ [id] := by
  induction es with
  | nil => rfl
  | cons e es ih =>
    rw [insertEntry]
    by_cases he : e.1 = id
    · simp [he]
    · have he' : ¬ id = e.1 := fun h => he h.symm
      rw [if_neg he, List.map_cons, ih, List.map_cons]
      by_cases hm : id ∈ es.map Prod.fst
      · rw [if_pos hm, if_pos (List.mem_cons_of_mem e.1 hm)]
      · rw [if_neg hm, if_neg (fun h => (List.mem_cons.1 h).elim he' hm), List.cons_append]

theorem mem_insertEntry {id : NodeId} {n : Node} : ∀ {es : List (NodeId × Node)}, (es.map Prod.fst).Nodup →
    ∀ {e : NodeId × Node}, e ∈ insertEntry id n es ↔ e = (id, n) ∨ e ∈ es ∧ e.1 ≠ id
  | [], _, e => by simp [insertEntry]
  | a :: es, hnd, e => by
    rw [List.map_cons, List.nodup_cons] at hnd
    rw [insertEntry]
    by_cases ha : a.1 = id
    · have hes : ∀ b ∈ es, b.1 ≠ id := fun b hb hid => hnd.1 (by rw [ha, ← hid]; exact List.mem_map.2 ⟨b, hb, rfl⟩)
      rw [if_pos ha, List.mem_cons, List.mem_cons]
      constructor
      · rintro (h | h)
        · exact Or.inl h
        · exact Or.inr ⟨Or.inr h, hes e h⟩
      · rintro (h | ⟨rfl | h, hne⟩)
        · exact Or.inl h
        · exact absurd ha hne
        · exact Or.inr h
    · rw [if_neg ha, List.mem_cons, List.mem_cons, mem_insertEntry hnd.2]
      constructor
      · rintro (rfl | h | ⟨h, hne⟩)
        · exact Or.inr ⟨Or.inl rfl, ha⟩
        · exact Or.inl h
        · exact Or.inr ⟨Or.inr h, hne⟩
      · rintro (h | ⟨rfl | h, hne⟩)
        · exact Or.inr (Or.inl h)
        · exact Or.inl rfl
        · exact Or.inr (Or.inr ⟨h, hne⟩)

theorem Keyed.insert {r : Roster} (h : r.Keyed) (n : Node) : (r.insert n.id n).Keyed := by
  constructor
  · show ((insertEntry n.id n r.entries).map Prod.fst).Nodup
    rw [map_fst_insertEntry]
    split
    · exact h.nodup
    · next hm => exact List.Nodup.append h.nodup (List.nodup_singleton _) (by simpa using hm)
  · intro e he
    rcases (mem_insertEntry h.nodup).1 he with rfl | ⟨he', -⟩
    · rfl
    · exact h.own e he'

theorem Keyed.mem_nodes_insert {r : Roster} (h : r.Keyed) {n m : Node} :
    m ∈ (r.insert n.id n).nodes ↔ m = n ∨ m ∈ r.nodes ∧ m.id ≠ n.id := by
  rw [(h.insert n).mem_nodes_iff, h.mem_nodes_iff, Roster.insert, mem_insertEntry h.nodup, Prod.mk.injEq]
  constructor
  · rintro (⟨-, rfl⟩ | hm)
    · exact Or.inl rfl
    · exact Or.inr hm
  · rintro (rfl | hm)
    · exact Or.inl ⟨rfl, rfl⟩
    · exact Or.inr hm

theorem nodes_insert_of_not_contains {r : Roster} {id : NodeId} (n : Node) (h : r.contains id = false) :
    (r.insert id n).nodes = r.nodes ++ [n] := by
  obtain ⟨es⟩ := r
  simp only [contains, List.any_eq_false, decide_eq_true_eq] at h
  simp only [Roster.insert, nodes]
  induction es with
  | nil => rfl
  | cons e es ih =>
    rw [insertEntry, if_neg (h e List.mem_cons_self), List.map_cons, List.map_cons, List.cons_append,
      ih (fun b hb => h b (List.mem_cons_of_mem e hb))]

theorem contains_insert (r : Roster) (n : Node) (id : NodeId) :
    (r.insert n.id n).contains id = (decide (id = n.id) || r.contains id) := by
  rw [contains_eq_isSome, contains_eq_isSome, get?_insert]
  by_cases h : id = n.id <;> simp [h]

theorem contains_erase (r : Roster) (id j : NodeId) :
    (r.erase id).contains j = (!decide (j = id) && r.contains j) := by
  rw [contains_eq_isSome, contains_eq_isSome, get?_erase]
  by_cases h : j = id <;> simp [h]

theorem Keyed.erase {r : Roster} (h : r.Keyed) (id : NodeId) : (r.erase id).Keyed := by
  constructor
  · exact h.nodup.sublist (List.filter_sublist.map Prod.fst)
  · exact fun e he => h.own e (List.mem_filter.1 he).1

theorem Keyed.mem_nodes_erase {r : Roster} (h : r.Keyed) {id : NodeId} {m : Node} :
    m ∈ (r.erase id).nodes ↔ m ∈ r.nodes ∧ m.id ≠ id := by
  rw [(h.erase id).mem_nodes_iff, h.mem_nodes_iff]
  simp [Roster.erase]

theorem Keyed.nodes_erase {r : Roster} (h : r.Keyed) (id : NodeId) :
    (r.erase id).nodes = r.nodes.filter fun m => decide (m.id ≠ id) := by
  rw [nodes, nodes, List.filter_map]
  refine congrArg (List.map Prod.snd) (List.filter_congr (fun e he => ?_))
  rw [Function.comp_apply, h.own e he]

/-- **A keyed roster is the list of its nodes**, each under its own identity. -/
theorem Keyed.entries_eq {r : Roster} (h : r.Keyed) : r.entries = r.nodes.map fun n => (n.id, n) := by
  rw [nodes, List.map_map, List.map_congr_left (g := id), List.map_id]
  intro e he
  rw [Function.comp_apply, h.own e he]
  rfl

end Roster

/-! ## Groups -/

namespace Group

theorem keyed_add {g : Group} (h : g.roster.Keyed) (n : Node) : (g.add n).1.roster.Keyed := by
  unfold add
  split
  · exact h
  · exact h.insert n

theorem keyed_remove {g : Group} (h : g.roster.Keyed) (id : NodeId) : (g.remove id).1.roster.Keyed := by
  unfold remove
  split
  · exact h
  · exact h.erase id

theorem mem_members_add {g : Group} (h : g.roster.Keyed) {n m : Node} (hm : m ∈ (g.add n).1.members) :
    m = n ∨ m ∈ g.members := by
  unfold add at hm
  split at hm
  · exact Or.inr hm
  · exact ((h.mem_nodes_insert).1 hm).imp_right And.left

theorem mem_members_remove {g : Group} (h : g.roster.Keyed) {id : NodeId} {m : Node}
    (hm : m ∈ (g.remove id).1.members) : m ∈ g.members := by
  unfold remove at hm
  split at hm
  · exact hm
  · exact ((h.mem_nodes_erase).1 hm).1

end Group

end ClusterMembership
