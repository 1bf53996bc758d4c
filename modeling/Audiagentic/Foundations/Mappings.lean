import Mathlib.Data.String.Basic

/-!
# Mappings with text keys

A finite mapping, kept as its entries in the order of the keys, so that two
mappings are equal exactly when they have the same entries, whatever order they
were written in.
-/

namespace Audiagentic.Foundations

open List

structure Mapping (α : Type) where
  entries : List (String × α)
  increasing : entries.Pairwise fun first second => first.1 < second.1

namespace Mapping

variable {α : Type}

instance [DecidableEq α] : DecidableEq (Mapping α) := fun first second =>
  decidable_of_iff (first.entries = second.entries) <| by
    cases first
    cases second
    simp

def lookup (mapping : Mapping α) (key : String) : Option α :=
  (mapping.entries.find? fun entry => decide (entry.1 = key)).map Prod.snd

def mapValues (mapping : Mapping α) (change : String → α → α) : Mapping α where
  entries := mapping.entries.map fun entry => (entry.1, change entry.1 entry.2)
  increasing := by
    rw [pairwise_map]
    exact mapping.increasing

theorem mem_of_lookup {mapping : Mapping α} {key : String} {value : α}
    (found : mapping.lookup key = some value) : (key, value) ∈ mapping.entries := by
  obtain ⟨entry, selected, rfl⟩ := Option.map_eq_some_iff.mp found
  have chosen := find?_some selected
  rw [← of_decide_eq_true chosen]
  exact mem_of_find?_eq_some selected

theorem lookup_of_mem {mapping : Mapping α} {key : String} {value : α}
    (member : (key, value) ∈ mapping.entries) : mapping.lookup key = some value := by
  obtain ⟨entries, increasing⟩ := mapping
  change (entries.find? fun entry => decide (entry.1 = key)).map Prod.snd = some value
  induction entries with
  | nil => cases member
  | cons first rest ih =>
    rw [pairwise_cons] at increasing
    rcases mem_cons.mp member with here | later
    · subst here
      simp
    · have different : first.1 ≠ key := (increasing.1 _ later).ne
      rw [find?_cons_of_neg (by simpa using different)]
      exact ih increasing.2 later

theorem lookup_mapValues (mapping : Mapping α) (change : String → α → α) (key : String) :
    (mapping.mapValues change).lookup key = (mapping.lookup key).map (change key) := by
  unfold lookup mapValues
  rw [find?_map, Option.map_map, Option.map_map]
  cases selected : mapping.entries.find? ((fun entry => decide (entry.1 = key)) ∘
      fun entry => (entry.1, change entry.1 entry.2)) with
  | none =>
    have absent : mapping.entries.find? (fun entry => decide (entry.1 = key)) = none := selected
    rw [absent]
    rfl
  | some entry =>
    have present : mapping.entries.find? (fun entry => decide (entry.1 = key)) = some entry :=
      selected
    have chosen := find?_some present
    rw [present]
    simp [of_decide_eq_true chosen]

/-- **Changes that agree on the entries are the same.** -/
theorem mapValues_congr {mapping : Mapping α} {first second : String → α → α}
    (agree : ∀ key value, mapping.lookup key = some value → first key value = second key value) :
    mapping.mapValues first = mapping.mapValues second := by
  have entries : (mapping.mapValues first).entries = (mapping.mapValues second).entries := by
    refine map_congr_left ?_
    intro entry member
    rw [agree entry.1 entry.2 (lookup_of_mem member)]
  unfold mapValues at entries ⊢
  simp only [Mapping.mk.injEq]
  exact entries

theorem mapValues_eq_self {mapping : Mapping α} {change : String → α → α}
    (kept : ∀ key value, mapping.lookup key = some value → change key value = value) :
    mapping.mapValues change = mapping := by
  have same : mapping.mapValues change = mapping.mapValues fun _ value => value :=
    mapValues_congr kept
  rw [same]
  cases mapping
  simp [mapValues]

end Mapping

end Audiagentic.Foundations
