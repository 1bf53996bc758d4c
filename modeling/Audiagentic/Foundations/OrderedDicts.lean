import Mathlib.Data.List.Nodup

/-!
# Ordered dictionaries

A dictionary that remembers the order in which its keys came in.  Writing to a key that is
there keeps its place, writing to a new key puts it at the end, and a key that was removed
comes back at the end.
-/

namespace Audiagentic.Foundations

open List Option

universe u v

variable {κ : Type u} {ν : Type v}

/-- A list of entries with distinct keys. -/
structure OrderedDict (κ : Type u) (ν : Type v) where
  entries : List (κ × ν)
  nodup : (entries.map Prod.fst).Nodup
deriving DecidableEq

namespace OrderedDict

@[ext] theorem ext {first second : OrderedDict κ ν} (same : first.entries = second.entries) :
    first = second := by
  cases first
  cases second
  cases same
  rfl

variable [DecidableEq κ]

/-- `{}`. -/
def empty : OrderedDict κ ν := ⟨[], nodup_nil⟩

instance : EmptyCollection (OrderedDict κ ν) := ⟨empty⟩

def keys (dict : OrderedDict κ ν) : List κ := dict.entries.map Prod.fst

/-- `dict.get(key)`. -/
def get? (dict : OrderedDict κ ν) (key : κ) : Option ν :=
  (dict.entries.find? fun entry => entry.1 = key).map Prod.snd

/-- `key in dict`. -/
def has (dict : OrderedDict κ ν) (key : κ) : Bool := (dict.get? key).isSome

/-- `not dict`. -/
def isEmpty (dict : OrderedDict κ ν) : Bool := dict.entries.isEmpty

/-! ## Writing -/

/-- The entries after `dict[key] = value`. -/
def setEntries (key : κ) (value : ν) : List (κ × ν) → List (κ × ν)
  | [] => [(key, value)]
  | (other, old) :: rest =>
    if other = key then (key, value) :: rest else (other, old) :: setEntries key value rest

theorem keys_setEntries (key : κ) (value : ν) (entries : List (κ × ν)) :
    (setEntries key value entries).map Prod.fst =
      if key ∈ entries.map Prod.fst then entries.map Prod.fst
      else entries.map Prod.fst ++ [key] := by
  induction entries with
  | nil => rfl
  | cons entry rest ih =>
    obtain ⟨other, old⟩ := entry
    rw [setEntries]
    by_cases same : other = key
    · rw [if_pos same, map_cons, map_cons, if_pos (by simp [same]), same]
    rw [if_neg same, map_cons, map_cons, ih]
    have different : key ≠ other := fun equal => same equal.symm
    simp only [mem_cons, different, false_or]
    split <;> rfl

/-- `dict[key] = value`. -/
def set (dict : OrderedDict κ ν) (key : κ) (value : ν) : OrderedDict κ ν where
  entries := setEntries key value dict.entries
  nodup := by
    rw [keys_setEntries]
    split
    · exact dict.nodup
    next fresh =>
      rw [← concat_eq_append]
      exact List.Nodup.concat fresh dict.nodup

/-- `dict.pop(key, None)`, without the value. -/
def pop (dict : OrderedDict κ ν) (key : κ) : OrderedDict κ ν where
  entries := dict.entries.filter fun entry => entry.1 ≠ key
  nodup := dict.nodup.sublist (List.Sublist.map Prod.fst filter_sublist)

def ofList (entries : List (κ × ν)) : OrderedDict κ ν :=
  entries.foldl (fun dict entry => dict.set entry.1 entry.2) empty

/-- `dict.update(other)`. -/
def update (dict other : OrderedDict κ ν) : OrderedDict κ ν :=
  other.entries.foldl (fun dict entry => dict.set entry.1 entry.2) dict

/-- `for key in keys: dict.pop(key, None)`. -/
def popAll (dict : OrderedDict κ ν) (keys : List κ) : OrderedDict κ ν :=
  keys.foldl pop dict

/-! ## Lookups -/

variable {key : κ} {dict : OrderedDict κ ν}

/-- **The entries are the lookups.** -/
theorem mem_entries_iff {value : ν} : (key, value) ∈ dict.entries ↔ dict.get? key = some value := by
  obtain ⟨entries, nodup⟩ := dict
  simp only [get?]
  induction entries with
  | nil => simp
  | cons entry rest ih =>
    obtain ⟨other, old⟩ := entry
    obtain ⟨fresh, nodup⟩ := nodup_cons.mp nodup
    by_cases same : other = key
    · subst same
      have absent : (other, value) ∉ rest :=
        fun member => fresh (List.mem_map.mpr ⟨_, member, rfl⟩)
      simp [absent, eq_comm]
    · have different : key ≠ other := fun equal => same equal.symm
      rw [find?_cons_of_neg (by simpa using same), ← ih nodup]
      simp [different]

theorem get?_setEntries (key other : κ) (value : ν) (entries : List (κ × ν)) :
    ((setEntries key value entries).find? fun entry => entry.1 = other).map Prod.snd =
      if other = key then some value
      else (entries.find? fun entry => entry.1 = other).map Prod.snd := by
  induction entries with
  | nil =>
    by_cases same : other = key
    · simp [setEntries, same]
    · have different : key ≠ other := fun equal => same equal.symm
      simp [setEntries, same, different]
  | cons entry rest ih =>
    obtain ⟨first, old⟩ := entry
    rw [setEntries]
    by_cases here : first = key
    · subst here
      by_cases same : other = first
      · simp [same]
      · have different : first ≠ other := fun equal => same equal.symm
        simp [same, different]
    · rw [if_neg here]
      by_cases there : first = other
      · have different : other ≠ key := there ▸ here
        simp [there, different]
      · rw [find?_cons_of_neg (by simpa using there), ih, find?_cons_of_neg (by simpa using there)]

/-- **One write.** -/
theorem get?_set (dict : OrderedDict κ ν) (key other : κ) (value : ν) :
    (dict.set key value).get? other = if other = key then some value else dict.get? other :=
  get?_setEntries key other value dict.entries

@[simp] theorem get?_set_self (dict : OrderedDict κ ν) (key : κ) (value : ν) :
    (dict.set key value).get? key = some value := by
  rw [get?_set, if_pos rfl]

theorem get?_set_of_ne (dict : OrderedDict κ ν) {other : κ} (different : other ≠ key) (value : ν) :
    (dict.set key value).get? other = dict.get? other := by
  rw [get?_set, if_neg different]

/-- **One removal.** -/
theorem get?_pop (dict : OrderedDict κ ν) (key other : κ) :
    (dict.pop key).get? other = if other = key then none else dict.get? other := by
  ext value
  rw [← mem_entries_iff, pop, mem_filter, mem_entries_iff]
  by_cases same : other = key <;> simp [same]

/-- **Many removals.** -/
theorem get?_popAll (dict : OrderedDict κ ν) (keys : List κ) (other : κ) :
    (dict.popAll keys).get? other = if other ∈ keys then none else dict.get? other := by
  unfold popAll
  induction keys generalizing dict with
  | nil => simp
  | cons key keys ih =>
    rw [foldl_cons, ih, get?_pop]
    by_cases here : other = key <;> simp [here]

theorem mem_keys_iff : key ∈ dict.keys ↔ ∃ value, dict.get? key = some value := by
  constructor
  · intro member
    obtain ⟨⟨_, value⟩, here, rfl⟩ := List.mem_map.mp member
    exact ⟨value, mem_entries_iff.mp here⟩
  · rintro ⟨value, found⟩
    exact List.mem_map.mpr ⟨(key, value), mem_entries_iff.mpr found, rfl⟩

theorem get?_eq_none_iff : dict.get? key = none ↔ key ∉ dict.keys := by
  rw [mem_keys_iff]
  cases found : dict.get? key with
  | none => simp
  | some value => simp

variable {entries : List (κ × ν)}

theorem setEntries_of_not_mem (fresh : key ∉ entries.map Prod.fst) (value : ν) :
    setEntries key value entries = entries ++ [(key, value)] := by
  induction entries with
  | nil => rfl
  | cons entry rest ih =>
    obtain ⟨other, old⟩ := entry
    rw [map_cons, mem_cons, not_or] at fresh
    rw [setEntries, if_neg fun same => fresh.1 same.symm, ih fresh.2]
    rfl

/-- **A new key stands at the end.** -/
theorem entries_set_of_not_mem (fresh : dict.get? key = none) (value : ν) :
    (dict.set key value).entries = dict.entries ++ [(key, value)] :=
  setEntries_of_not_mem (get?_eq_none_iff.mp fresh) value

theorem get?_mk_cons {entry : κ × ν} {rest : List (κ × ν)}
    (nodup : ((entry :: rest).map Prod.fst).Nodup) (key : κ) :
    (⟨entry :: rest, nodup⟩ : OrderedDict κ ν).get? key =
      if key = entry.1 then some entry.2
      else (⟨rest, (nodup_cons.mp nodup).2⟩ : OrderedDict κ ν).get? key := by
  by_cases same : key = entry.1
  · simp [get?, same]
  · have different : entry.1 ≠ key := fun equal => same equal.symm
    simp [get?, same, different]

/-- **Many writes.**  What the second has wins. -/
theorem get?_update (dict other : OrderedDict κ ν) (key : κ) :
    (dict.update other).get? key = (other.get? key).or (dict.get? key) := by
  obtain ⟨entries, nodup⟩ := other
  unfold update
  simp only
  induction entries generalizing dict with
  | nil => rfl
  | cons entry rest ih =>
    obtain ⟨fresh, unique⟩ := nodup_cons.mp nodup
    rw [foldl_cons, ih _ unique, get?_mk_cons nodup, get?_set]
    by_cases same : key = entry.1
    · have absent : (⟨rest, unique⟩ : OrderedDict κ ν).get? key = none := by
        rw [get?_eq_none_iff]
        exact same ▸ fresh
      rw [if_pos same, if_pos same, absent]
      rfl
    · rw [if_neg same, if_neg same]

theorem has_iff : dict.has key = true ↔ ∃ value, dict.get? key = some value :=
  isSome_iff_exists

theorem has_eq_false_iff : dict.has key = false ↔ dict.get? key = none := by
  rw [has, isSome_eq_false_iff, isNone_iff_eq_none]

theorem entries_foldl_set (entries : List (κ × ν)) (dict : OrderedDict κ ν)
    (nodup : (dict.keys ++ entries.map Prod.fst).Nodup) :
    (entries.foldl (fun dict entry => dict.set entry.1 entry.2) dict).entries =
      dict.entries ++ entries := by
  induction entries generalizing dict with
  | nil => exact (append_nil _).symm
  | cons entry rest ih =>
    have fresh : dict.get? entry.1 = none := by
      refine get?_eq_none_iff.mpr fun member => ?_
      exact (nodup_append.mp nodup).2.2 entry.1 member entry.1 mem_cons_self rfl
    have keys : (dict.set entry.1 entry.2).keys = dict.keys ++ [entry.1] := by
      rw [keys, entries_set_of_not_mem fresh, map_append]
      rfl
    rw [foldl_cons, ih, entries_set_of_not_mem fresh, append_assoc]
    · rfl
    · rw [keys, append_assoc]
      exact nodup

theorem ofList_entries (dict : OrderedDict κ ν) : ofList dict.entries = dict := by
  refine ext ?_
  exact (entries_foldl_set dict.entries empty dict.nodup).trans (nil_append _)

theorem mem_of_mem_foldl_set {entry : κ × ν}
    (member : entry ∈ (entries.foldl (fun dict entry => dict.set entry.1 entry.2) dict).entries) :
    entry ∈ entries ∨ entry ∈ dict.entries := by
  induction entries generalizing dict with
  | nil => exact .inr member
  | cons first rest ih =>
    rcases ih member with later | before
    · exact .inl (mem_cons_of_mem _ later)
    obtain ⟨key, value⟩ := entry
    rw [mem_entries_iff, get?_set] at before
    split at before
    next same =>
      cases before
      rw [same]
      exact .inl mem_cons_self
    · exact .inr (mem_entries_iff.mpr before)

theorem mem_of_mem_ofList {entry : κ × ν} (member : entry ∈ (ofList entries).entries) :
    entry ∈ entries := by
  rcases mem_of_mem_foldl_set member with listed | impossible
  · exact listed
  · cases impossible

theorem filter_setEntries {keeps : κ × ν → Bool} (blind : ∀ value, keeps (key, value) = false)
    (value : ν) (entries : List (κ × ν)) :
    (setEntries key value entries).filter keeps = entries.filter keeps := by
  induction entries with
  | nil =>
    rw [setEntries, filter_cons_of_neg (by simp [blind])]
  | cons entry rest ih =>
    obtain ⟨other, old⟩ := entry
    rw [setEntries]
    split
    next same =>
      subst same
      rw [filter_cons_of_neg (by simp [blind]), filter_cons_of_neg (by simp [blind])]
    · rw [filter_cons, filter_cons, ih]

theorem set_of_get? {value : ν} (there : dict.get? key = some value) :
    dict.set key value = dict := by
  have each : ∀ entries : List (κ × ν), (entries.map Prod.fst).Nodup → (key, value) ∈ entries →
      setEntries key value entries = entries := by
    intro entries
    induction entries with
    | nil =>
      intro _ member
      cases member
    | cons entry rest ih =>
      intro nodup member
      obtain ⟨fresh, nodup⟩ := nodup_cons.mp nodup
      rw [setEntries]
      rcases mem_cons.mp member with rfl | later
      · rw [if_pos rfl]
      · have different : entry.1 ≠ key := fun same =>
          fresh (List.mem_map.mpr ⟨(key, value), later, same.symm⟩)
        rw [if_neg different, ih nodup later]
  exact ext (each dict.entries dict.nodup (mem_entries_iff.mpr there))

/-! ## Restriction -/

/-- The entries whose keys are kept. -/
def restrict (keeps : κ → Bool) (dict : OrderedDict κ ν) : OrderedDict κ ν where
  entries := dict.entries.filter fun entry => keeps entry.1
  nodup := dict.nodup.sublist (List.Sublist.map Prod.fst filter_sublist)

theorem restrict_set_of_dropped {keeps : κ → Bool} (drops : keeps key = false)
    (dict : OrderedDict κ ν) (value : ν) :
    (dict.set key value).restrict keeps = dict.restrict keeps :=
  ext (filter_setEntries (fun _ => drops) value dict.entries)

theorem restrict_set_of_kept {keeps : κ → Bool} (kept : keeps key = true) (dict : OrderedDict κ ν)
    (value : ν) : (dict.set key value).restrict keeps = (dict.restrict keeps).set key value := by
  refine ext ?_
  change (setEntries key value dict.entries).filter (fun entry => keeps entry.1) =
    setEntries key value (dict.entries.filter fun entry => keeps entry.1)
  induction dict.entries with
  | nil =>
    rw [setEntries, filter_cons_of_pos (by simpa using kept)]
    rfl
  | cons entry rest ih =>
    obtain ⟨other, old⟩ := entry
    rw [setEntries]
    by_cases same : other = key
    · subst same
      rw [if_pos rfl, filter_cons_of_pos (by simpa using kept),
        filter_cons_of_pos (by simpa using kept), setEntries, if_pos rfl]
    rw [if_neg same, filter_cons, filter_cons, ih]
    split
    · rw [setEntries, if_neg same]
    · rfl

theorem restrict_popAll_of_dropped {keeps : κ → Bool} {keys : List κ}
    (drops : ∀ key ∈ keys, keeps key = false) (dict : OrderedDict κ ν) :
    (dict.popAll keys).restrict keeps = dict.restrict keeps := by
  unfold popAll
  induction keys generalizing dict with
  | nil => rfl
  | cons key keys ih =>
    obtain ⟨here, later⟩ := forall_mem_cons.mp drops
    rw [foldl_cons, ih later]
    refine ext ?_
    change (dict.entries.filter fun entry => entry.1 ≠ key).filter (fun entry => keeps entry.1) =
      dict.entries.filter fun entry => keeps entry.1
    rw [List.filter_filter]
    refine filter_congr fun entry _ => ?_
    by_cases same : entry.1 = key
    · rw [same, here, Bool.false_and]
    · rw [decide_eq_true same, Bool.and_true]

end OrderedDict

end Audiagentic.Foundations
