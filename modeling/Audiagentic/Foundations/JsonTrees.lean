import Audiagentic.Foundations.JsonPointers
import Audiagentic.Foundations.OrderedDicts
import Mathlib.Data.List.Perm.Subperm

/-!
# JSON trees

A tree of mappings and lists over scalars of any type.  A path leads from a tree to a node by
keys and by indices, each written as a text.

* `merge` — the merge patch of RFC 7396;
* `at?_merge_cons` — what a merge leaves at a place;
* `sameBy` — equality up to the order of keys, for a given equality of scalars.
-/

namespace Audiagentic.Foundations

open Option

universe u

/-- A JSON document over scalars `α`. -/
inductive Json (α : Type u) where
  | null
  | scalar (value : α)
  | list (items : List (Json α))
  | map (entries : List (Text × Json α))

namespace Json

variable {α : Type u}

abbrev Entries (α : Type u) := List (Text × Json α)

instance : Inhabited (Json α) := ⟨null⟩

def isNull : Json α → Bool
  | null => true
  | _ => false

def isMap : Json α → Bool
  | map _ => true
  | _ => false

def entries : Json α → Entries α
  | map entries => entries
  | _ => []

def lookup (name : Text) (entries : Entries α) : Option (Json α) :=
  (entries.find? fun entry => entry.1 = name).map Prod.snd

@[simp] theorem lookup_nil (name : Text) : lookup name ([] : Entries α) = none := rfl

theorem lookup_cons (name other : Text) (value : Json α) (rest : Entries α) :
    lookup name ((other, value) :: rest) =
      if other = name then some value else lookup name rest := by
  by_cases same : other = name <;> simp [lookup, same]

theorem lookup_cons_self (name : Text) (value : Json α) (rest : Entries α) :
    lookup name ((name, value) :: rest) = some value := by
  rw [lookup_cons, if_pos rfl]

theorem lookup_cons_of_ne {name other : Text} (different : other ≠ name) (value : Json α)
    (rest : Entries α) : lookup name ((other, value) :: rest) = lookup name rest := by
  rw [lookup_cons, if_neg different]

theorem mem_of_lookup {name : Text} {value : Json α} {entries : Entries α}
    (found : lookup name entries = some value) : (name, value) ∈ entries := by
  obtain ⟨entry, here, rfl⟩ := map_eq_some_iff.mp found
  have named : entry.1 = name := by simpa using List.find?_some here
  rw [← named]
  exact List.mem_of_find?_eq_some here

theorem lookup_eq_none_iff {name : Text} {entries : Entries α} :
    lookup name entries = none ↔ name ∉ entries.map Prod.fst := by
  rw [lookup, map_eq_none_iff, List.find?_eq_none]
  constructor
  · intro absent member
    obtain ⟨entry, here, named⟩ := List.mem_map.mp member
    exact absent entry here (by simpa using named)
  · intro absent entry here named
    refine absent (List.mem_map.mpr ⟨entry, here, by simpa using named⟩)

theorem lookup_of_mem {name : Text} {value : Json α} {entries : Entries α}
    (distinct : (entries.map Prod.fst).Nodup) (member : (name, value) ∈ entries) :
    lookup name entries = some value := by
  induction entries with
  | nil => cases member
  | cons entry rest ih =>
    obtain ⟨other, old⟩ := entry
    obtain ⟨fresh, distinct⟩ := List.nodup_cons.mp distinct
    rcases List.mem_cons.mp member with here | later
    · cases here
      exact lookup_cons_self _ _ _
    have different : other ≠ name := by
      rintro rfl
      exact fresh (List.mem_map.mpr ⟨_, later, rfl⟩)
    rw [lookup_cons_of_ne different, ih distinct later]

theorem lookup_set (name other : Text) (value : Json α) (entries : Entries α) :
    lookup other (OrderedDict.setEntries name value entries) =
      if other = name then some value else lookup other entries :=
  OrderedDict.get?_setEntries name other value entries

/-- The entries without those of a name. -/
def remove (name : Text) (entries : Entries α) : Entries α :=
  entries.filter fun entry => entry.1 ≠ name

theorem lookup_remove (name other : Text) (entries : Entries α) :
    lookup other (remove name entries) = if other = name then none else lookup other entries := by
  induction entries with
  | nil => simp [remove]
  | cons entry rest ih =>
    obtain ⟨first, value⟩ := entry
    rw [remove, List.filter_cons] at *
    by_cases here : first = name
    · subst here
      rw [if_neg (by simp), ih]
      by_cases same : other = first
      · rw [if_pos same, if_pos same]
      · rw [if_neg same, if_neg same, lookup_cons_of_ne (Ne.symm same)]
    · rw [if_pos (by simpa using here), lookup_cons, ih, lookup_cons]
      by_cases there : first = other
      · rw [if_pos there, if_pos there, if_neg (there ▸ here)]
      · rw [if_neg there, if_neg there]

/-! ## Distinct keys -/

mutual
/-- No mapping of the tree holds a key twice. -/
def distinct : Json α → Bool
  | map entries => decide (entries.map Prod.fst).Nodup && distinctEntries entries
  | list items => distinctItems items
  | _ => true

def distinctEntries : Entries α → Bool
  | [] => true
  | (_, value) :: rest => value.distinct && distinctEntries rest

def distinctItems : List (Json α) → Bool
  | [] => true
  | item :: rest => item.distinct && distinctItems rest
end

theorem distinctItems_iff {items : List (Json α)} :
    distinctItems items = true ↔ ∀ item ∈ items, item.distinct = true := by
  induction items with
  | nil => simp [distinctItems]
  | cons item rest ih => simp [distinctItems, ih]

theorem distinctEntries_iff {entries : Entries α} :
    distinctEntries entries = true ↔ ∀ entry ∈ entries, entry.2.distinct = true := by
  induction entries with
  | nil => simp [distinctEntries]
  | cons entry rest ih =>
    obtain ⟨name, value⟩ := entry
    simp only [distinctEntries, Bool.and_eq_true, ih, List.forall_mem_cons]

theorem distinct_list {items : List (Json α)} :
    (list items).distinct = true ↔ ∀ item ∈ items, item.distinct = true := by
  rw [distinct, distinctItems_iff]

theorem distinct_map {entries : Entries α} :
    (map entries).distinct = true ↔
      (entries.map Prod.fst).Nodup ∧ ∀ entry ∈ entries, entry.2.distinct = true := by
  rw [distinct, Bool.and_eq_true, decide_eq_true_eq, distinctEntries_iff]

/-! ## Places -/

def item? (segment : Text) (items : List (Json α)) : Option (Json α) :=
  ((List.range items.length).find? fun index => indexText index = segment).bind (items[·]?)

theorem item?_indexText (index : Nat) (items : List (Json α)) :
    item? (indexText index) items = items[index]? := by
  by_cases inside : index < items.length
  · have found : (List.range items.length).find? (fun other => indexText other = indexText index) =
        some index := by
      rw [List.find?_range_eq_some]
      refine ⟨by simp, by simpa using inside, ?_⟩
      intro other before
      have different : indexText other ≠ indexText index :=
        fun same => (Nat.ne_of_lt before) (indexText_injective same)
      simpa using different
    rw [item?, found, bind_some]
  · rw [item?, List.getElem?_eq_none (Nat.le_of_not_lt inside)]
    refine bind_eq_none_iff.mpr fun other found => absurd ?_ inside
    have same : indexText other = indexText index := by simpa using List.find?_some found
    rw [← indexText_injective same]
    exact List.mem_range.mp (List.mem_of_find?_eq_some found)

theorem item?_eq_some {segment : Text} {items : List (Json α)} {item : Json α}
    (found : item? segment items = some item) :
    ∃ index, segment = indexText index ∧ items[index]? = some item := by
  obtain ⟨index, here, stored⟩ := bind_eq_some_iff.mp found
  exact ⟨index, by simpa [eq_comm] using List.find?_some here, stored⟩

def child? (tree : Json α) (segment : Text) : Option (Json α) :=
  match tree with
  | map entries => lookup segment entries
  | list items => item? segment items
  | _ => none

def at? (tree : Json α) : List Text → Option (Json α)
  | [] => some tree
  | segment :: rest => (tree.child? segment).bind fun child => child.at? rest

theorem at?_cons (tree : Json α) (segment : Text) (rest : List Text) :
    tree.at? (segment :: rest) = (tree.child? segment).bind fun child => child.at? rest := rfl

def throughList : Json α → List Text → Bool
  | list _, _ :: _ => true
  | map entries, name :: rest =>
    match lookup name entries with
    | some child => child.throughList rest
    | none => false
  | _, _ => false

/-! ## Merge patches -/

mutual
def merge (target : Json α) : Json α → Json α
  | map patch => map (mergeEntries target.entries patch)
  | patch => patch

def mergeEntries (result : Entries α) : Entries α → Entries α
  | [] => result
  | (name, value) :: rest =>
    if value.isNull then mergeEntries (remove name result) rest
    else mergeEntries
      (OrderedDict.setEntries name (merge ((lookup name result).getD null) value) result) rest
end

theorem merge_map (target : Json α) (patch : Entries α) :
    target.merge (map patch) = map (mergeEntries target.entries patch) := by
  rw [merge]

theorem merge_of_not_map (target : Json α) {patch : Json α} (other : patch.isMap = false) :
    target.merge patch = patch := by
  cases patch with
  | map entries => cases other
  | _ => rw [merge]; simp

/-- **What a merge leaves under a name.** -/
theorem lookup_mergeEntries {patch : Entries α} (unique : (patch.map Prod.fst).Nodup)
    (result : Entries α) (name : Text) :
    lookup name (mergeEntries result patch) =
      match lookup name patch with
      | none => lookup name result
      | some value =>
        if value.isNull then none else some (((lookup name result).getD null).merge value) := by
  induction patch generalizing result with
  | nil => rw [mergeEntries]; rfl
  | cons entry rest ih =>
    obtain ⟨other, value⟩ := entry
    obtain ⟨fresh, unique⟩ := List.nodup_cons.mp unique
    rw [mergeEntries]
    by_cases same : other = name
    · subst same
      have absent : lookup other rest = none := lookup_eq_none_iff.mpr fresh
      rw [lookup_cons_self]
      split
      next deletes =>
        rw [ih unique, absent]
        simp [lookup_remove, deletes]
      next keeps =>
        rw [ih unique, absent]
        simp [lookup_set, keeps]
    · rw [lookup_cons_of_ne same]
      split
      · rw [ih unique, lookup_remove, if_neg (Ne.symm same)]
      · rw [ih unique, lookup_set, if_neg (Ne.symm same)]

/-! ## Equality up to the order of keys -/

mutual
/-- Whether two trees are equal, with scalars compared by `equal` and the order of keys left
out. -/
def sameBy (equal : α → α → Bool) : Json α → Json α → Bool
  | null, null => true
  | scalar first, scalar second => equal first second
  | list items, list items' => sameItems equal items items'
  | map entries, map entries' =>
    entries.length == entries'.length && sameEntries equal entries entries'
  | _, _ => false

def sameItems (equal : α → α → Bool) : List (Json α) → List (Json α) → Bool
  | [], [] => true
  | item :: rest, item' :: rest' => item.sameBy equal item' && sameItems equal rest rest'
  | _, _ => false

def sameEntries (equal : α → α → Bool) : Entries α → Entries α → Bool
  | [], _ => true
  | (name, value) :: rest, entries =>
    (match lookup name entries with
    | some value' => value.sameBy equal value'
    | none => false) && sameEntries equal rest entries
end

theorem lookup_of_sameEntries {equal : α → α → Bool} {first second : Entries α}
    (same : sameEntries equal first second = true) {name : Text} {value : Json α}
    (found : lookup name first = some value) :
    ∃ value', lookup name second = some value' ∧ value.sameBy equal value' = true := by
  induction first with
  | nil => cases found
  | cons entry rest ih =>
    obtain ⟨other, old⟩ := entry
    rw [sameEntries, Bool.and_eq_true] at same
    obtain ⟨here, later⟩ := same
    by_cases equals : other = name
    · subst equals
      rw [lookup_cons_self] at found
      cases found
      cases there : lookup other second with
      | none =>
        rw [there] at here
        cases here
      | some value' =>
        rw [there] at here
        exact ⟨value', rfl, here⟩
    · rw [lookup_cons_of_ne equals] at found
      exact ih later found

theorem induction {motive : Json α → Prop} (null : motive null)
    (scalar : ∀ value, motive (scalar value))
    (list : ∀ items, (∀ item ∈ items, motive item) → motive (list items))
    (map : ∀ entries, (∀ entry ∈ entries, motive entry.2) → motive (map entries))
    (tree : Json α) : motive tree := by
  match tree with
  | .null => exact null
  | .scalar value => exact scalar value
  | .list items => exact list items fun item member => induction null scalar list map item
  | .map entries => exact map entries fun entry member => induction null scalar list map entry.2
termination_by sizeOf tree
decreasing_by
  · have smaller := List.sizeOf_lt_of_mem member
    simp only [Json.list.sizeOf_spec]
    omega
  have smaller := List.sizeOf_lt_of_mem member
  obtain ⟨name, value⟩ := entry
  simp only [Json.map.sizeOf_spec, Prod.mk.sizeOf_spec] at smaller ⊢
  omega

theorem nodup_mergeEntries {result : Entries α} (unique : (result.map Prod.fst).Nodup)
    (patch : Entries α) : ((mergeEntries result patch).map Prod.fst).Nodup := by
  induction patch generalizing result with
  | nil => rwa [mergeEntries]
  | cons entry rest ih =>
    rw [mergeEntries]
    split
    · exact ih (unique.sublist (List.Sublist.map Prod.fst List.filter_sublist))
    · exact ih (OrderedDict.set ⟨result, unique⟩ _ _).nodup

/-- **Mappings with the same values at all keys are the same.** -/
theorem sameBy_map {equal : α → α → Bool} {first second : Entries α}
    (unique : (first.map Prod.fst).Nodup) (unique' : (second.map Prod.fst).Nodup)
    (absent : ∀ name, lookup name second = none → lookup name first = none)
    (present : ∀ name value', lookup name second = some value' →
      ∃ value, lookup name first = some value ∧ value.sameBy equal value' = true) :
    (map first).sameBy equal (map second) = true := by
  have keys : ∀ name, name ∈ first.map Prod.fst ↔ name ∈ second.map Prod.fst := by
    intro name
    rw [← not_iff_not, ← lookup_eq_none_iff, ← lookup_eq_none_iff]
    refine ⟨fun none' => ?_, absent name⟩
    cases found : lookup name second with
    | none => rfl
    | some value' =>
      obtain ⟨value, stored, _⟩ := present name value' found
      rw [none'] at stored
      cases stored
  have lengths := ((List.perm_ext_iff_of_nodup unique unique').mpr keys).length_eq
  rw [List.length_map, List.length_map] at lengths
  have below : ∀ entries : Entries α, (∀ entry ∈ entries, lookup entry.1 first = some entry.2) →
      sameEntries equal entries second = true := by
    intro entries stored
    induction entries with
    | nil => rfl
    | cons entry rest ih =>
      obtain ⟨here, later⟩ := List.forall_mem_cons.mp stored
      rw [sameEntries, Bool.and_eq_true]
      refine ⟨?_, ih later⟩
      cases found : lookup entry.1 second with
      | none =>
        rw [absent _ found] at here
        cases here
      | some value' =>
        obtain ⟨value, there, same⟩ := present _ _ found
        rw [here] at there
        cases there
        exact same
  rw [sameBy, Bool.and_eq_true, beq_iff_eq]
  exact ⟨lengths, below first fun entry member => lookup_of_mem unique member⟩

theorem sameBy_map_iff {equal : α → α → Bool} {first second : Entries α}
    (unique : (first.map Prod.fst).Nodup) (unique' : (second.map Prod.fst).Nodup) :
    (map first).sameBy equal (map second) = true ↔
      ∀ name, match lookup name first, lookup name second with
        | none, none => True
        | some value, some value' => value.sameBy equal value' = true
        | _, _ => False := by
  constructor
  · intro same name
    rw [sameBy, Bool.and_eq_true, beq_iff_eq] at same
    obtain ⟨lengths, same⟩ := same
    cases found : lookup name first with
    | some value =>
      obtain ⟨value', there, same⟩ := lookup_of_sameEntries same found
      rw [there]
      exact same
    | none =>
      -- As many keys, among them all of the first mapping.
      have within : first.map Prod.fst ⊆ second.map Prod.fst := by
        intro key member
        by_contra absent
        have missing := lookup_eq_none_iff.mpr absent
        obtain ⟨entry, here, rfl⟩ := List.mem_map.mp member
        obtain ⟨value', there, -⟩ := lookup_of_sameEntries same (lookup_of_mem unique here)
        rw [missing] at there
        cases there
      have keys := (unique.subperm within).perm_of_length_le (by simp [lengths])
      have absent : lookup name second = none := by
        rw [lookup_eq_none_iff, ← keys.mem_iff]
        exact lookup_eq_none_iff.mp found
      rw [absent]
      trivial
  · intro pointwise
    refine sameBy_map unique unique' ?_ ?_
    · intro name absent
      have here := pointwise name
      rw [absent] at here
      cases found : lookup name first with
      | none => rfl
      | some value =>
        rw [found] at here
        exact here.elim
    · intro name value' there
      have here := pointwise name
      rw [there] at here
      cases found : lookup name first with
      | none =>
        rw [found] at here
        exact here.elim
      | some value =>
        rw [found] at here
        exact ⟨value, rfl, here⟩

theorem sameBy_refl {equal : α → α → Bool} (reflexive : ∀ value, equal value value = true)
    (tree : Json α) (distinct : tree.distinct = true) : tree.sameBy equal tree = true := by
  induction tree using induction with
  | null => rfl
  | scalar value => exact reflexive value
  | list items ih =>
    have each := distinct_list.mp distinct
    clear distinct
    rw [sameBy]
    induction items with
    | nil => rfl
    | cons item rest inner =>
      obtain ⟨here, later⟩ := List.forall_mem_cons.mp ih
      obtain ⟨first, others⟩ := List.forall_mem_cons.mp each
      rw [sameItems, here first, inner later others]
      rfl
  | map entries ih =>
    obtain ⟨unique, each⟩ := distinct_map.mp distinct
    refine sameBy_map unique unique (fun _ => id) fun name value found => ⟨value, found, ?_⟩
    exact ih _ (mem_of_lookup found) (each _ (mem_of_lookup found))

theorem sameBy_trans {equal equal' equal'' : α → α → Bool}
    (compose : ∀ first second third, equal first second = true → equal' second third = true →
      equal'' first third = true) {first second third : Json α}
    (same : first.sameBy equal second = true) (same' : second.sameBy equal' third = true) :
    first.sameBy equal'' third = true := by
  induction first using induction generalizing second third with
  | null =>
    cases second <;> cases same
    cases third <;> cases same'
    rfl
  | scalar value =>
    cases second <;> try cases same
    cases third <;> try cases same'
    exact compose _ _ _ same same'
  | list items ih =>
    cases second <;> try cases same
    cases third <;> try cases same'
    next items' items'' =>
      rw [sameBy] at same same' ⊢
      induction items generalizing items' items'' with
      | nil =>
        cases items' <;> cases same
        cases items'' <;> cases same'
        rfl
      | cons item rest inner =>
        cases items' <;> try cases same
        cases items'' <;> try cases same'
        rw [sameItems, Bool.and_eq_true] at same same' ⊢
        obtain ⟨here, later⟩ := List.forall_mem_cons.mp ih
        exact ⟨here same.1 same'.1, inner later _ same.2 _ same'.2⟩
  | map entries ih =>
    cases second <;> try cases same
    cases third <;> try cases same'
    next entries' entries'' =>
      rw [sameBy, Bool.and_eq_true, beq_iff_eq] at same same' ⊢
      obtain ⟨lengths, same⟩ := same
      obtain ⟨lengths', same'⟩ := same'
      refine ⟨lengths.trans lengths', ?_⟩
      clear lengths
      induction entries with
      | nil => rfl
      | cons entry rest inner =>
        obtain ⟨name, value⟩ := entry
        obtain ⟨here, later⟩ := List.forall_mem_cons.mp ih
        rw [sameEntries, Bool.and_eq_true] at same ⊢
        obtain ⟨mine, others⟩ := same
        refine ⟨?_, inner later others⟩
        cases found : lookup name entries' with
        | none =>
          rw [found] at mine
          cases mine
        | some value' =>
          rw [found] at mine
          obtain ⟨value'', there, below⟩ := lookup_of_sameEntries same' found
          rw [there]
          exact here mine below

/-- **Equal documents that agree on the scalars at each place.** -/
theorem sameBy_of_scalars {equal finer : α → α → Bool} {first : Json α}
    (distinct : first.distinct = true) {second : Json α} (same : first.sameBy equal second = true)
    (agree : ∀ path value value', first.at? path = some (scalar value) →
      second.at? path = some (scalar value') → equal value value' = true →
        finer value value' = true) : first.sameBy finer second = true := by
  induction first using induction generalizing second with
  | null =>
    cases second <;> cases same
    rfl
  | scalar value =>
    cases second <;> try cases same
    exact agree [] _ _ rfl rfl same
  | list items ih =>
    cases second <;> try cases same
    next items' =>
      have each := distinct_list.mp distinct
      have below : ∀ (index : Nat) (item item' : Json α), items[index]? = some item →
          items'[index]? = some item' → item.sameBy equal item' = true →
            item.sameBy finer item' = true := by
        intro index item item' here there same
        have member := List.mem_of_getElem? here
        refine ih item member (each item member) same fun path value value' found found' => ?_
        refine agree (indexText index :: path) value value' ?_ ?_
        · rw [at?_cons, child?, item?_indexText, here]
          exact found
        · rw [at?_cons, child?, item?_indexText, there]
          exact found'
      clear ih agree each distinct
      rw [sameBy] at same ⊢
      induction items generalizing items' with
      | nil =>
        cases items' <;> cases same
        rfl
      | cons item rest inner =>
        cases items' <;> try cases same
        rw [sameItems, Bool.and_eq_true] at same ⊢
        exact ⟨below 0 _ _ rfl rfl same.1, inner _ same.2 fun index => below (index + 1)⟩
  | map entries ih =>
    cases second <;> try cases same
    next entries' =>
      obtain ⟨unique, each⟩ := distinct_map.mp distinct
      rw [sameBy, Bool.and_eq_true] at same ⊢
      refine ⟨same.1, ?_⟩
      have within : ∀ entry ∈ entries, lookup entry.1 entries = some entry.2 :=
        fun entry member => lookup_of_mem unique member
      have below : ∀ entry ∈ entries, ∀ value', lookup entry.1 entries' = some value' →
          entry.2.sameBy equal value' = true → entry.2.sameBy finer value' = true := by
        intro entry member value' there same
        refine ih entry member (each entry member) same fun path value value' found found' => ?_
        refine agree (entry.1 :: path) value value' ?_ ?_
        · rw [at?_cons, child?, within entry member]
          exact found
        · rw [at?_cons, child?, there]
          exact found'
      obtain ⟨-, same⟩ := same
      clear ih agree each distinct unique within
      induction entries with
      | nil => rfl
      | cons entry rest inner =>
        obtain ⟨name, value⟩ := entry
        obtain ⟨here, later⟩ := List.forall_mem_cons.mp below
        rw [sameEntries, Bool.and_eq_true] at same ⊢
        refine ⟨?_, inner later same.2⟩
        cases found : lookup name entries' with
        | none =>
          rw [found] at same
          cases same.1
        | some value' =>
          rw [found] at same
          exact here _ found same.1

theorem distinct_merge {patch : Json α} (distinct : patch.distinct = true) {target : Json α}
    (distinctTarget : target.distinct = true) : (target.merge patch).distinct = true := by
  induction patch using induction generalizing target with
  | null | scalar | list => rwa [merge_of_not_map _ rfl]
  | map patch ih =>
    obtain ⟨unique, each⟩ := distinct_map.mp distinct
    obtain ⟨uniqueTarget, eachTarget⟩ : (target.entries.map Prod.fst).Nodup ∧
        ∀ entry ∈ target.entries, entry.2.distinct = true := by
      cases target with
      | map => exact distinct_map.mp distinctTarget
      | _ => exact ⟨List.nodup_nil, nofun⟩
    have nodup := nodup_mergeEntries uniqueTarget patch
    rw [merge_map]
    refine distinct_map.mpr ⟨nodup, fun entry member => ?_⟩
    have found := lookup_of_mem nodup member
    rw [lookup_mergeEntries unique] at found
    split at found
    · exact eachTarget _ (mem_of_lookup found)
    next value patched =>
      split at found
      · cases found
      · rw [← Option.some.inj found]
        refine ih _ (mem_of_lookup patched) (each _ (mem_of_lookup patched)) ?_
        cases stored : lookup entry.1 target.entries with
        | none => rfl
        | some old => exact eachTarget _ (mem_of_lookup stored)

end Json

end Audiagentic.Foundations
