import Mathlib.Data.List.AList

/-!
# Dictionaries

A dictionary is an association list without repeated keys.  What a program sees of it
is its lookups, so the rules here are about lookups.
-/

namespace Audiagentic.Foundations

open List Option AList

universe u v w

/-- A dictionary with keys in `κ` and values in `ν`. -/
abbrev Dict (κ : Type u) (ν : Type v) : Type (max u v) :=
  AList fun _ : κ => ν

namespace Dict

variable {κ : Type u} {ν : Type v} [DecidableEq κ]

theorem lookup_insert_eq (dict : Dict κ ν) (key other : κ) (value : ν) :
    (dict.insert key value).lookup other =
      if other = key then some value else dict.lookup other := by
  by_cases same : other = key
  · subst same
    rw [if_pos rfl, lookup_insert]
  · rw [if_neg same, lookup_insert_ne same]

theorem lookup_erase_eq (dict : Dict κ ν) (key other : κ) :
    (dict.erase key).lookup other = if other = key then none else dict.lookup other := by
  by_cases same : other = key
  · subst same
    rw [if_pos rfl, lookup_erase]
  · rw [if_neg same, lookup_erase_ne same]

theorem eq_empty_iff {dict : Dict κ ν} : dict = ∅ ↔ ∀ key, dict.lookup key = none := by
  constructor
  · rintro rfl key
    exact lookup_empty key
  intro silent
  apply AList.ext
  cases entries : dict.entries with
  | nil => rfl
  | cons entry rest =>
    have member : entry.1 ∈ dict := by
      rw [AList.mem_keys, AList.keys, entries]
      exact mem_cons_self
    exact absurd member (lookup_eq_none.mp (silent entry.1))

theorem mem_entries_iff {dict : Dict κ ν} {key : κ} {value : ν} :
    (⟨key, value⟩ : Sigma fun _ : κ => ν) ∈ dict.entries ↔ dict.lookup key = some value := by
  rw [← mem_def, mem_lookup_iff]

/-! ### Dictionaries of lists -/

section Buckets

variable {ι : Type w}

def bucket (dict : Dict κ (List ι)) (key : κ) : List ι :=
  (dict.lookup key).getD []

def Tidy (dict : Dict κ (List ι)) : Prop :=
  ∀ key, dict.lookup key ≠ some []

theorem lookup_of_bucket_eq_nil {dict : Dict κ (List ι)} (tidy : Tidy dict) {key : κ}
    (nothing : dict.bucket key = []) : dict.lookup key = none := by
  rcases eq_none_or_eq_some (dict.lookup key) with missing | ⟨items, found⟩
  · exact missing
  · rw [bucket, found, getD_some] at nothing
    exact absurd (nothing ▸ found) (tidy key)

theorem lookup_of_bucket_ne_nil {dict : Dict κ (List ι)} {key : κ}
    (something : dict.bucket key ≠ []) : dict.lookup key = some (dict.bucket key) := by
  rcases eq_none_or_eq_some (dict.lookup key) with missing | ⟨items, found⟩
  · rw [bucket, missing] at something
    exact absurd rfl something
  · rw [bucket, found, getD_some]

theorem bucket_insert (dict : Dict κ (List ι)) (key other : κ) (items : List ι) :
    bucket (dict.insert key items) other = if other = key then items else dict.bucket other := by
  rw [bucket, lookup_insert_eq]
  split <;> rfl

theorem bucket_erase (dict : Dict κ (List ι)) (key other : κ) :
    bucket (dict.erase key) other = if other = key then [] else dict.bucket other := by
  rw [bucket, lookup_erase_eq]
  split <;> rfl

theorem bucket_empty (key : κ) : bucket (∅ : Dict κ (List ι)) key = [] := by
  rw [bucket, lookup_empty]
  rfl

theorem tidy_empty : Tidy (∅ : Dict κ (List ι)) := by
  intro key
  rw [lookup_empty]
  exact (some_ne_none []).symm

theorem Tidy.insert {dict : Dict κ (List ι)} (tidy : Tidy dict) (key : κ) {items : List ι}
    (something : items ≠ []) : Tidy (dict.insert key items) := by
  intro other
  rw [lookup_insert_eq]
  split
  · exact fun same => something (Option.some.inj same)
  · exact tidy other

theorem Tidy.erase {dict : Dict κ (List ι)} (tidy : Tidy dict) (key : κ) :
    Tidy (dict.erase key) := by
  intro other
  rw [lookup_erase_eq]
  split
  · exact (some_ne_none []).symm
  · exact tidy other

end Buckets

end Dict

/-! ## Lists with distinct keys -/

theorem find?_eq_some_of_nodup {ι : Type v} {κ : Type w} [DecidableEq κ] {key : ι → κ}
    {items : List ι} {item : ι} (distinct : (items.map key).Nodup) (member : item ∈ items) :
    items.find? (fun other => key other = key item) = some item := by
  induction items with
  | nil => cases member
  | cons first rest ih =>
    obtain ⟨fresh, distinct⟩ := nodup_cons.mp distinct
    rcases mem_cons.mp member with rfl | member
    · exact find?_cons_of_pos (by simp)
    have different : key first ≠ key item := by
      intro same
      exact fresh (same ▸ List.mem_map_of_mem member)
    rw [find?_cons_of_neg (by simpa using different)]
    exact ih distinct member

theorem find?_filter_key_ne {ι : Type v} {κ : Type w} [DecidableEq κ] (key : ι → κ)
    (items : List ι) (removed other : κ) :
    (items.filter fun item => key item ≠ removed).find? (fun item => key item = other) =
      if other = removed then none else items.find? fun item => key item = other := by
  induction items with
  | nil => simp
  | cons first rest ih =>
    by_cases gone : key first = removed
    · rw [filter_cons_of_neg (by simpa using gone), ih]
      by_cases same : other = removed
      · rw [if_pos same, if_pos same]
      · have different : key first ≠ other := fun equal => same (equal.symm.trans gone)
        rw [if_neg same, if_neg same, find?_cons_of_neg (by simpa using different)]
    · rw [filter_cons_of_pos (by simpa using gone)]
      by_cases here : key first = other
      · rw [find?_cons_of_pos (by simpa using here),
          find?_cons_of_pos (by simpa using here), if_neg (by rw [← here]; exact gone)]
      · rw [find?_cons_of_neg (by simpa using here), find?_cons_of_neg (by simpa using here)]
        exact ih

theorem erase_eq_filter_key_ne {ι : Type v} {κ : Type w} [DecidableEq ι] [DecidableEq κ]
    {key : ι → κ} {items : List ι} {item : ι} (distinct : (items.map key).Nodup)
    (member : item ∈ items) : items.erase item = items.filter fun other =>
    key other ≠ key item := by
  rw [(List.Nodup.of_map key distinct).erase_eq_filter]
  refine filter_congr fun other here => ?_
  have same : other = item ↔ key other = key item :=
    ⟨congrArg key, fun equal => inj_on_of_nodup_map distinct here member equal⟩
  by_cases equal : other = item
  · simp [equal]
  · have different : key other ≠ key item := fun keys => equal (same.mpr keys)
    simp [bne_iff_ne.mpr equal, different]

section Loops

variable {σ : Type u} {ι : Type v} {κ : Type w} {ν : Type u} [DecidableEq κ]

/-- **A loop that touches one key in each round.**  Reading a key after the loop shows the
round of that key, if there is one, and nothing else. -/
theorem read_foldl {round : σ → ι → σ} {key : ι → κ} {read : σ → κ → ν} {change : ι → ν → ν}
    (touches : ∀ state item other, read (round state item) other =
      if other = key item then change item (read state other) else read state other)
    (items : List ι) (distinct : (items.map key).Nodup) (state : σ) (other : κ) :
    read (items.foldl round state) other =
      match items.find? (fun item => key item = other) with
      | some item => change item (read state other)
      | none => read state other := by
  induction items generalizing state with
  | nil => rfl
  | cons item items ih =>
    obtain ⟨fresh, distinct⟩ := nodup_cons.mp distinct
    rw [foldl_cons, ih distinct, touches]
    by_cases same : other = key item
    · have later : items.find? (fun item => key item = other) = none := by
        rw [find?_eq_none]
        intro next member
        have different : key next ≠ other := by
          intro equal
          exact fresh (List.mem_map.mpr ⟨next, member, equal.trans same⟩)
        simpa using different
      rw [later, find?_cons_of_pos (by simpa using same.symm)]
      simp only [if_pos same]
    · rw [find?_cons_of_neg (by simpa using fun equal => same equal.symm)]
      simp only [if_neg same]

end Loops

end Audiagentic.Foundations
