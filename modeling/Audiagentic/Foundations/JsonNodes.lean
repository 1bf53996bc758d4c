import Mathlib.Data.List.Sort
import Audiagentic.Foundations.JsonTrees

/-!
# Nodes of a JSON tree, and its canonical form

A property of a whole tree is stated node by node, with the depth at which each node stands.
-/

namespace Audiagentic.Foundations.Json

open Bool

universe u v

variable {α : Type u} {β : Type v}

/-! ## Equality -/

section Equality

variable [DecidableEq α]

mutual
/-- Whether two trees are the same, with their keys in the same order. -/
def identical : Json α → Json α → Bool
  | null, null => true
  | scalar first, scalar second => first == second
  | list items, list items' => identicalItems items items'
  | map entries, map entries' => identicalEntries entries entries'
  | _, _ => false

def identicalItems : List (Json α) → List (Json α) → Bool
  | [], [] => true
  | item :: rest, item' :: rest' => identical item item' && identicalItems rest rest'
  | _, _ => false

def identicalEntries : Entries α → Entries α → Bool
  | [], [] => true
  | (name, value) :: rest, (name', value') :: rest' =>
    name == name' && identical value value' && identicalEntries rest rest'
  | _, _ => false
end

mutual
theorem eq_of_identical : ∀ {first second : Json α}, identical first second = true → first = second
  | null, null, _ => rfl
  | scalar _, scalar _, same => congrArg scalar (beq_iff_eq.mp same)
  | list _, list _, same => congrArg list (eq_of_identicalItems same)
  | map _, map _, same => congrArg map (eq_of_identicalEntries same)

theorem eq_of_identicalItems : ∀ {first second : List (Json α)},
    identicalItems first second = true → first = second
  | [], [], _ => rfl
  | item :: rest, item' :: rest', same => by
    rw [identicalItems, and_eq_true] at same
    rw [eq_of_identical same.1, eq_of_identicalItems same.2]

theorem eq_of_identicalEntries : ∀ {first second : Entries α},
    identicalEntries first second = true → first = second
  | [], [], _ => rfl
  | (name, value) :: rest, (name', value') :: rest', same => by
    rw [identicalEntries, and_eq_true, and_eq_true, beq_iff_eq] at same
    rw [same.1.1, eq_of_identical same.1.2, eq_of_identicalEntries same.2]
end

mutual
theorem identical_self : ∀ tree : Json α, identical tree tree = true
  | null => rfl
  | scalar _ => beq_self_eq_true _
  | list items => identicalItems_self items
  | map entries => identicalEntries_self entries

theorem identicalItems_self : ∀ items : List (Json α), identicalItems items items = true
  | [] => rfl
  | item :: rest => by
    rw [identicalItems, identical_self item, identicalItems_self rest]
    rfl

theorem identicalEntries_self : ∀ entries : Entries α, identicalEntries entries entries = true
  | [] => rfl
  | (name, value) :: rest => by
    rw [identicalEntries, identical_self value, identicalEntries_self rest, beq_self_eq_true]
    rfl
end

instance : DecidableEq (Json α) := fun first second =>
  decidable_of_iff (identical first second = true)
    ⟨eq_of_identical, fun same => same ▸ identical_self first⟩

end Equality

/-! ## Nodes -/

/-- This node stands at this depth of a tree, the root at depth zero. -/
inductive NodeAt : ℕ → Json α → Json α → Prop
  | root (tree : Json α) : NodeAt 0 tree tree
  | inList {depth : ℕ} {node item : Json α} {items : List (Json α)} (member : item ∈ items)
      (inside : NodeAt depth node item) : NodeAt (depth + 1) node (list items)
  | inMap {depth : ℕ} {node value : Json α} {name : Text} {entries : Entries α}
      (member : (name, value) ∈ entries) (inside : NodeAt depth node value) :
      NodeAt (depth + 1) node (map entries)

def Everywhere (holds : ℕ → Json α → Prop) (tree : Json α) : Prop :=
  ∀ depth node, NodeAt depth node tree → holds depth node

variable {entries : Entries α}

section Everywhere

variable {holds : ℕ → Json α → Prop}

theorem Everywhere.mono {weaker : ℕ → Json α → Prop} {tree : Json α}
    (all : Everywhere holds tree) (implies : ∀ depth node, holds depth node → weaker depth node) :
    Everywhere weaker tree :=
  fun depth node inside => implies depth node (all depth node inside)

theorem everywhere_null : Everywhere holds null ↔ holds 0 null := by
  constructor
  · exact fun all => all 0 null (.root _)
  · rintro here depth node ⟨⟩
    exact here

theorem everywhere_scalar {value : α} :
    Everywhere holds (scalar value) ↔ holds 0 (scalar value) := by
  constructor
  · exact fun all => all 0 _ (.root _)
  · rintro here depth node ⟨⟩
    exact here

theorem everywhere_list {items : List (Json α)} :
    Everywhere holds (list items) ↔
      holds 0 (list items) ∧
        ∀ item ∈ items, Everywhere (fun depth node => holds (depth + 1) node) item := by
  constructor
  · intro all
    exact ⟨all 0 _ (.root _), fun item member depth node inside =>
      all (depth + 1) node (.inList member inside)⟩
  rintro ⟨here, below⟩ depth node inside
  cases inside with
  | root => exact here
  | inList member inside => exact below _ member _ node inside

theorem everywhere_map :
    Everywhere holds (map entries) ↔
      holds 0 (map entries) ∧
        ∀ entry ∈ entries, Everywhere (fun depth node => holds (depth + 1) node) entry.2 := by
  constructor
  · intro all
    exact ⟨all 0 _ (.root _), fun entry member depth node inside =>
      all (depth + 1) node (.inMap member inside)⟩
  rintro ⟨here, below⟩ depth node inside
  cases inside with
  | root => exact here
  | inMap member inside => exact below _ member _ node inside

end Everywhere

mutual
theorem distinct_of_everywhere : ∀ {tree : Json α},
    (tree.Everywhere fun _ node => (node.entries.map Prod.fst).Nodup) → tree.distinct = true
  | null, _ => rfl
  | scalar _, _ => rfl
  | list items, all => distinctItems_of_everywhere (everywhere_list.mp all).2
  | map entries, all => by
    obtain ⟨here, below⟩ := everywhere_map.mp all
    rw [distinct, and_eq_true, decide_eq_true_eq]
    exact ⟨here, distinctEntries_of_everywhere below⟩

theorem distinctItems_of_everywhere : ∀ {items : List (Json α)},
    (∀ item ∈ items, item.Everywhere fun _ node => (node.entries.map Prod.fst).Nodup) →
      distinctItems items = true
  | [], _ => rfl
  | item :: rest, all => by
    obtain ⟨here, later⟩ := List.forall_mem_cons.mp all
    rw [distinctItems, distinct_of_everywhere here, distinctItems_of_everywhere later]
    rfl

theorem distinctEntries_of_everywhere : ∀ {entries : Entries α},
    (∀ entry ∈ entries, entry.2.Everywhere fun _ node => (node.entries.map Prod.fst).Nodup) →
      distinctEntries entries = true
  | [], _ => rfl
  | (name, value) :: rest, all => by
    obtain ⟨here, later⟩ := List.forall_mem_cons.mp all
    rw [distinctEntries, distinct_of_everywhere here, distinctEntries_of_everywhere later]
    rfl
end

/-! ## Other scalars -/

mutual
def mapScalars (change : α → β) : Json α → Json β
  | null => null
  | scalar value => scalar (change value)
  | list items => list (mapItems change items)
  | map entries => map (mapEntries change entries)

def mapItems (change : α → β) : List (Json α) → List (Json β)
  | [] => []
  | item :: rest => mapScalars change item :: mapItems change rest

def mapEntries (change : α → β) : Entries α → Entries β
  | [] => []
  | (name, value) :: rest => (name, mapScalars change value) :: mapEntries change rest
end

theorem mapItems_eq (change : α → β) (items : List (Json α)) :
    mapItems change items = items.map (mapScalars change) := by
  induction items with
  | nil => rfl
  | cons item rest ih => rw [mapItems, ih, List.map_cons]

theorem mapEntries_eq (change : α → β) (entries : Entries α) :
    mapEntries change entries =
      entries.map fun entry => (entry.1, mapScalars change entry.2) := by
  induction entries with
  | nil => rfl
  | cons entry rest ih => rw [mapEntries, ih, List.map_cons]

theorem keys_mapEntries (change : α → β) (entries : Entries α) :
    (mapEntries change entries).map Prod.fst = entries.map Prod.fst := by
  rw [mapEntries_eq, List.map_map]
  rfl

theorem exists_of_nodeAt_mapScalars {change : α → β} {depth : ℕ} {node : Json β} {tree : Json α}
    (inside : NodeAt depth node (mapScalars change tree)) :
    ∃ old, NodeAt depth old tree ∧ node = mapScalars change old := by
  induction depth generalizing tree with
  | zero =>
    cases inside
    exact ⟨tree, .root tree, rfl⟩
  | succ depth ih =>
    cases tree with
    | null | scalar => cases inside
    | list items =>
      rw [mapScalars, mapItems_eq] at inside
      cases inside with
      | inList member inside =>
        obtain ⟨item, listed, rfl⟩ := List.mem_map.mp member
        obtain ⟨old, within, same⟩ := ih inside
        exact ⟨old, .inList listed within, same⟩
    | map entries =>
      rw [mapScalars, mapEntries_eq] at inside
      cases inside with
      | inMap member inside =>
        obtain ⟨entry, listed, same⟩ := List.mem_map.mp member
        cases same
        obtain ⟨old, within, same⟩ := ih inside
        exact ⟨old, .inMap listed within, same⟩

/-! ## Keys in order -/

def byKey (entries : Entries α) : Entries α :=
  entries.insertionSort fun first second => first.1 ≤ second.1

mutual
def sortKeys : Json α → Json α
  | null => null
  | scalar value => scalar value
  | list items => list (sortItems items)
  | map entries => map (byKey (sortValues entries))

def sortItems : List (Json α) → List (Json α)
  | [] => []
  | item :: rest => sortKeys item :: sortItems rest

def sortValues : Entries α → Entries α
  | [] => []
  | (name, value) :: rest => (name, sortKeys value) :: sortValues rest
end

theorem sortItems_eq (items : List (Json α)) : sortItems items = items.map sortKeys := by
  induction items with
  | nil => rfl
  | cons item rest ih => rw [sortItems, ih, List.map_cons]

theorem sortValues_eq (entries : Entries α) :
    sortValues entries = entries.map fun entry => (entry.1, sortKeys entry.2) := by
  induction entries with
  | nil => rfl
  | cons entry rest ih => rw [sortValues, ih, List.map_cons]

theorem byKey_perm (entries : Entries α) : (byKey entries).Perm entries :=
  List.perm_insertionSort _ _

theorem mem_byKey {entry : Text × Json α} : entry ∈ byKey entries ↔ entry ∈ entries :=
  (byKey_perm entries).mem_iff

theorem mem_sorted {entry : Text × Json α} :
    entry ∈ byKey (sortValues entries) ↔
      ∃ value, (entry.1, value) ∈ entries ∧ entry.2 = sortKeys value := by
  rw [mem_byKey, sortValues_eq, List.mem_map]
  constructor
  · rintro ⟨old, member, rfl⟩
    exact ⟨old.2, member, rfl⟩
  · rintro ⟨value, member, same⟩
    exact ⟨(entry.1, value), member, Prod.ext rfl same.symm⟩

theorem keys_sorted_perm (entries : Entries α) :
    ((byKey (sortValues entries)).map Prod.fst).Perm (entries.map Prod.fst) := by
  have keys : (sortValues entries).map Prod.fst = entries.map Prod.fst := by
    rw [sortValues_eq, List.map_map]
    rfl
  rw [← keys]
  exact (byKey_perm _).map Prod.fst

theorem lookup_sorted (distinct : (entries.map Prod.fst).Nodup) (name : Text) :
    lookup name (byKey (sortValues entries)) = (lookup name entries).map sortKeys := by
  have distinctSorted : ((byKey (sortValues entries)).map Prod.fst).Nodup :=
    (keys_sorted_perm entries).nodup_iff.mpr distinct
  cases found : lookup name entries with
  | none =>
    rw [Option.map_none, lookup_eq_none_iff, (keys_sorted_perm entries).mem_iff]
    exact lookup_eq_none_iff.mp found
  | some value =>
    exact lookup_of_mem distinctSorted
      (mem_sorted.mpr ⟨value, mem_of_lookup found, rfl⟩)

theorem exists_of_nodeAt_sortKeys {depth : ℕ} {node tree : Json α}
    (inside : NodeAt depth node (sortKeys tree)) :
    ∃ old, NodeAt depth old tree ∧ node = sortKeys old := by
  induction depth generalizing tree with
  | zero =>
    cases inside
    exact ⟨tree, .root tree, rfl⟩
  | succ depth ih =>
    cases tree with
    | null | scalar => cases inside
    | list items =>
      rw [sortKeys, sortItems_eq] at inside
      cases inside with
      | inList member inside =>
        obtain ⟨item, listed, rfl⟩ := List.mem_map.mp member
        obtain ⟨old, within, same⟩ := ih inside
        exact ⟨old, .inList listed within, same⟩
    | map entries =>
      rw [sortKeys] at inside
      cases inside with
      | inMap member inside =>
        obtain ⟨value, listed, same⟩ := mem_sorted.mp member
        dsimp only at listed same
        subst same
        obtain ⟨old, within, same⟩ := ih inside
        exact ⟨old, .inMap listed within, same⟩

mutual
/-- **A sorted tree is sorted already.** -/
theorem sortKeys_sortKeys : ∀ tree : Json α, sortKeys (sortKeys tree) = sortKeys tree
  | null => rfl
  | scalar _ => rfl
  | list items => by
    rw [sortKeys, sortKeys, sortItems_sortItems items]
  | map entries => by
    have commutes : sortValues (byKey (sortValues entries)) =
        byKey (sortValues (sortValues entries)) := by
      rw [sortValues_eq, sortValues_eq (sortValues entries)]
      exact List.map_insertionSort _ _ _ _ fun _ _ _ _ => Iff.rfl
    have sorted : byKey (byKey (sortValues entries)) = byKey (sortValues entries) :=
      (List.pairwise_insertionSort _ _).insertionSort_eq
    rw [sortKeys, sortKeys, commutes, sortValues_sortValues entries, sorted]

theorem sortItems_sortItems : ∀ items : List (Json α), sortItems (sortItems items) = sortItems items
  | [] => rfl
  | item :: rest => by
    rw [sortItems, sortItems, sortKeys_sortKeys item, sortItems_sortItems rest]

theorem sortValues_sortValues : ∀ entries : Entries α,
    sortValues (sortValues entries) = sortValues entries
  | [] => rfl
  | (name, value) :: rest => by
    rw [sortValues, sortValues, sortKeys_sortKeys value, sortValues_sortValues rest]
end

/-! ## What sorting keeps -/

mutual
/-- **A sorted tree is the same up to the order of keys.** -/
theorem sameBy_sortKeys {equal : α → α → Bool} (reflexive : ∀ value, equal value value = true) :
    ∀ {tree : Json α}, tree.distinct = true → tree.sameBy equal (sortKeys tree) = true
  | null, _ => rfl
  | scalar value, _ => reflexive value
  | list items, unique => by
    rw [sortKeys, sameBy]
    exact sameItems_sortItems reflexive (distinct_list.mp unique)
  | map entries, unique => by
    obtain ⟨keys, inside⟩ := distinct_map.mp unique
    have lengths : entries.length = (byKey (sortValues entries)).length := by
      rw [(byKey_perm _).length_eq, sortValues_eq, List.length_map]
    rw [sortKeys, sameBy, and_eq_true, beq_iff_eq]
    refine ⟨lengths, sameEntries_sorted reflexive inside fun entry member => ?_⟩
    rw [lookup_sorted keys, lookup_of_mem keys member]
    rfl

theorem sameItems_sortItems {equal : α → α → Bool}
    (reflexive : ∀ value, equal value value = true) :
    ∀ {items : List (Json α)}, (∀ item ∈ items, item.distinct = true) →
      sameItems equal items (sortItems items) = true
  | [], _ => rfl
  | item :: rest, unique => by
    obtain ⟨here, later⟩ := List.forall_mem_cons.mp unique
    rw [sortItems, sameItems, sameBy_sortKeys reflexive here, sameItems_sortItems reflexive later]
    rfl

theorem sameEntries_sorted {equal : α → α → Bool}
    (reflexive : ∀ value, equal value value = true) {sorted : Entries α} :
    ∀ {entries : Entries α}, (∀ entry ∈ entries, entry.2.distinct = true) →
      (∀ entry ∈ entries, lookup entry.1 sorted = some (sortKeys entry.2)) →
      sameEntries equal entries sorted = true
  | [], _, _ => rfl
  | (name, value) :: rest, unique, found => by
    obtain ⟨here, later⟩ := List.forall_mem_cons.mp unique
    obtain ⟨first, others⟩ := List.forall_mem_cons.mp found
    rw [sameEntries, first, and_eq_true]
    exact ⟨sameBy_sortKeys reflexive here, sameEntries_sorted reflexive later others⟩
end

end Audiagentic.Foundations.Json
