import ClusterMembership.Rest.Pool
import Mathlib.Data.List.Nodup
/-!
# The text of an address identifies it

A host may end in colons and digits itself, but no port has a colon in it, so the last colon of a text ends its host
(`Address.text_inj`).  A pool that gives its nodes by the texts of addresses is therefore a table of nodes by address
(`Pool.find?_eq_lookup`), and finds each of them under its own address only (`nodes_found_by_address`).
-/
namespace ClusterMembership

theorem Text.colon_not_mem_decimalDigits (n : Nat) : ':' ∉ Text.decimalDigits n := by
  intro h
  obtain ⟨d, hd, hc⟩ := Text.mem_decimalDigits h
  have hvalue : (':').toNat = 0x30 + d := by rw [hc, Text.toNat_digitChar hd]
  have : (':').toNat = 0x3a := rfl
  omega

/-- A row whose only separator comes first is cut at its beginning. -/
theorem eq_nil_of_cons_eq_append_cons {c : Char} {back more back' : List Char} (h : c ∉ back)
    (heq : c :: back = more ++ c :: back') : more = [] := by
  cases more with
  | nil => rfl
  | cons d more =>
    obtain ⟨-, rfl⟩ := List.cons.inj heq
    exact absurd (List.mem_append_right more List.mem_cons_self) h

/-- **A text is cut at its last separator in one way.** -/
theorem eq_of_append_cons_eq {c : Char} {front front' back back' : List Char} (h : c ∉ back) (h' : c ∉ back')
    (heq : front ++ c :: back = front' ++ c :: back') : front = front' ∧ back = back' := by
  rcases List.append_eq_append_iff.1 heq with ⟨more, rfl, hback⟩ | ⟨more, rfl, hback⟩
  · obtain rfl := eq_nil_of_cons_eq_append_cons h hback
    exact ⟨(List.append_nil _).symm, (List.cons.inj hback).2⟩
  · obtain rfl := eq_nil_of_cons_eq_append_cons h' hback
    exact ⟨List.append_nil _, (List.cons.inj hback).2.symm⟩

theorem Address.text_inj {a b : Address} : a.text = b.text ↔ a = b := by
  refine ⟨fun h => ?_, congrArg text⟩
  have hchars : a.chars = b.chars := String.ofList_injective h
  obtain ⟨hhost, hport⟩ :=
    eq_of_append_cons_eq (Text.colon_not_mem_decimalDigits _) (Text.colon_not_mem_decimalDigits _) hchars
  obtain ⟨host, port⟩ := a
  obtain ⟨host', port'⟩ := b
  obtain rfl : host = host' := String.toList_inj.1 hhost
  obtain rfl : port = port' := UInt16.toNat_inj.1 (Text.decimalDigits_inj hport)
  rfl

section

variable {α β : Type} [BEq α] [LawfulBEq α] {entries : List (α × β)} {key : α}

theorem lookup_eq_none_iff_not_mem : entries.lookup key = none ↔ key ∉ entries.map Prod.fst := by
  rw [List.lookup_eq_none_iff]
  refine ⟨fun h hmem => ?_, fun h p hp => bne_iff_ne.2 fun hkey => h (List.mem_map.2 ⟨p, hp, hkey.symm⟩)⟩
  obtain ⟨p, hp, hkey⟩ := List.mem_map.1 hmem
  exact bne_iff_ne.1 (h p hp) hkey.symm

/-- In a table without repeated keys every entry is the one that is looked up. -/
theorem lookup_eq_some_iff_mem (h : (entries.map Prod.fst).Nodup) {value : β} :
    entries.lookup key = some value ↔ (key, value) ∈ entries := by
  rw [List.lookup_eq_some_iff]
  constructor
  · rintro ⟨before, after, rfl, -⟩
    exact List.mem_append_right before List.mem_cons_self
  · intro hmem
    obtain ⟨before, after, rfl⟩ := List.append_of_mem hmem
    refine ⟨before, after, rfl, fun p hp => bne_iff_ne.2 ?_⟩
    rintro rfl
    rw [List.map_append, List.nodup_append] at h
    exact h.2.2 _ (List.mem_map_of_mem hp) _ List.mem_cons_self rfl

end

namespace Rest

theorem Pool.find?_eq_lookup {pool : Pool} {addresses : List Address}
    (h : pool.nodes.map (·.hostname) = addresses.map Address.text) (x : Address) :
    pool.find? x = (addresses.zip pool.nodes).lookup x := by
  obtain ⟨nodes⟩ := pool
  dsimp only [find?] at h ⊢
  induction addresses generalizing nodes with
  | nil =>
    obtain rfl : nodes = [] := List.map_eq_nil_iff.1 h
    rfl
  | cons a addresses ih =>
    obtain ⟨node, nodes, rfl, hnode, hnodes⟩ := List.map_eq_cons_iff.1 h
    have hkey : decide (node.hostname = x.text) = (x == a) := by
      rw [hnode, Bool.eq_iff_iff, decide_eq_true_iff, beq_iff_eq, Address.text_inj, eq_comm]
    rw [List.zip_cons_cons, List.lookup_cons, List.find?_cons, hkey, ih nodes hnodes]

/-- **The text of an address identifies it.**  So a pool that gives its nodes by the texts of different addresses finds
under each of them the node that stands there, and under any other address none. -/
theorem nodes_found_by_address :
    (∀ a b : Address, a.text = b.text ↔ a = b) ∧
    ∀ (pool : Pool) (addresses : List Address), addresses.Nodup →
      pool.nodes.map (·.hostname) = addresses.map Address.text → ∀ x : Address,
        (∀ node, pool.find? x = some node ↔ (x, node) ∈ addresses.zip pool.nodes) ∧
        (pool.find? x = none ↔ x ∉ addresses) := by
  refine ⟨fun a b => Address.text_inj, fun pool addresses hdistinct h x => ?_⟩
  have hlength : addresses.length ≤ pool.nodes.length := by
    have := congrArg List.length h
    rw [List.length_map, List.length_map] at this
    exact Nat.le_of_eq this.symm
  have hkeys : (addresses.zip pool.nodes).map Prod.fst = addresses := List.map_fst_zip hlength
  rw [Pool.find?_eq_lookup h, lookup_eq_none_iff_not_mem, hkeys]
  exact ⟨fun node => lookup_eq_some_iff_mem (hkeys.symm ▸ hdistinct), Iff.rfl⟩

/-- Hosts with colons and digits at their ends, and none at all. -/
theorem nodes_found_by_address_of_colons :
    let addresses : List Address := [⟨"a", 12⟩, ⟨"a:1", 2⟩, ⟨"", 1⟩]
    let pool : Pool := ⟨[⟨"a:12", "m"⟩, ⟨"a:1:2", "n"⟩, ⟨":1", "o"⟩]⟩
    addresses.Nodup ∧ pool.nodes.map (·.hostname) = addresses.map Address.text ∧
    pool.find? ⟨"a:1", 2⟩ = some ⟨"a:1:2", "n"⟩ ∧ pool.find? ⟨"a:1:", 2⟩ = none := by
  intro addresses pool
  have hdistinct : addresses.Nodup := by decide
  have htexts : pool.nodes.map (·.hostname) = addresses.map Address.text := by decide +kernel
  have hfind := nodes_found_by_address.2 pool addresses hdistinct htexts
  exact ⟨hdistinct, htexts, ((hfind ⟨"a:1", 2⟩).1 _).2 (by decide), (hfind ⟨"a:1:", 2⟩).2.2 (by decide)⟩

end Rest

end ClusterMembership
