import Audiagentic.Config.Merge

/-!
# Origins after a merge

`originsAfter` says, place by place, what a merge leaves in the origins.
-/

namespace Audiagentic.Config

open Foundations JsonPointer List OrderedDict

universe u

variable {α : Type u}

/-! ## Places -/

theorem not_prefix_append_cons {parts rest : List Text} {name other : Text}
    (different : name ≠ other) : ¬ parts ++ [name] <+: parts ++ other :: rest := by
  rw [prefix_append_right_inj]
  intro start
  exact different (cons_prefix_cons.mp start).1

theorem not_prefix_snoc {parts path : List Text} (name : Text) (elsewhere : ¬ parts <+: path) :
    ¬ parts ++ [name] <+: path :=
  fun start => elsewhere ((prefix_append parts [name]).trans start)

theorem not_snoc_prefix (parts : List Text) (name : Text) : ¬ parts ++ [name] <+: parts := by
  intro start
  have short := start.length_le
  rw [length_append] at short
  exact absurd short (Nat.not_succ_le_self _)

theorem pointer_ne_of_apart {parts path : List Text} (elsewhere : ¬ parts <+: path) :
    pointer path ≠ pointer parts :=
  fun same => elsewhere (pointer_injective same ▸ prefix_rfl)

theorem pointer_append_cons_ne (parts rest : List Text) (name : Text) :
    pointer (parts ++ name :: rest) ≠ pointer parts := by
  intro same
  simpa using pointer_injective same

/-! ## One write to the origins -/

theorem get?_forget (origins : Origins) (parts path : List Text) :
    (forget origins (pointer parts)).get? (pointer path) =
      if parts <+: path then none else origins.get? (pointer path) := by
  ext origin
  rw [← OrderedDict.mem_entries_iff, forget, mem_filter, OrderedDict.mem_entries_iff]
  by_cases below : parts <+: path
  · simp [below, under_pointer_iff.mpr below]
  · have outside : under (pointer parts) (pointer path) = false :=
      Bool.eq_false_iff.mpr fun inside => below (under_pointer_iff.mp inside)
    simp [below, outside]

theorem get?_setDefault (origins : Origins) (parts path : List Text) (origin : Origin) :
    (setDefault origins (pointer parts) origin).get? (pointer path) =
      if path = parts then some ((origins.get? (pointer path)).getD origin)
      else origins.get? (pointer path) := by
  rw [setDefault]
  by_cases here : path = parts
  · subst here
    cases present : origins.get? (pointer path) with
    | none | some => simp [OrderedDict.has, present]
  have elsewhere : pointer path ≠ pointer parts := fun same => here (pointer_injective same)
  rw [if_neg here]
  split
  · rfl
  · rw [get?_set_of_ne _ elsewhere]

/-! ## Recording a value -/

section Record

variable {originOf : Text → Origin} {path : List Text}

mutual
theorem get?_record_of_apart : ∀ {parts : List Text} (origins : Origins) (value : Json α),
    ¬ parts <+: path →
      (record originOf parts origins value).get? (pointer path) = origins.get? (pointer path)
  | parts, origins, .map entries, elsewhere => by
    rw [record, get?_recordEntries_of_apart _ entries
      fun name _ => not_prefix_snoc name elsewhere,
      get?_set_of_ne _ (pointer_ne_of_apart elsewhere)]
  | parts, origins, .list items, elsewhere => by
    rw [record, get?_recordItems_of_apart 0 _ items fun index _ => not_prefix_snoc _ elsewhere,
      get?_set_of_ne _ (pointer_ne_of_apart elsewhere)]
  | _, _, .null, elsewhere | _, _, .scalar _, elsewhere => by
    rw [record, get?_set_of_ne _ (pointer_ne_of_apart elsewhere)]

theorem get?_recordEntries_of_apart : ∀ {parts : List Text} (origins : Origins)
    (entries : Json.Entries α), (∀ name ∈ entries.map Prod.fst, ¬ parts ++ [name] <+: path) →
      (recordEntries originOf parts origins entries).get? (pointer path) =
        origins.get? (pointer path)
  | _, _, [], _ => by rw [recordEntries]
  | parts, origins, (name, child) :: rest, elsewhere => by
    rw [recordEntries, get?_recordEntries_of_apart _ rest
      fun other member => elsewhere other (mem_cons_of_mem _ member),
      get?_record_of_apart origins child (elsewhere name mem_cons_self)]

theorem get?_recordItems_of_apart : ∀ {parts : List Text} (index : Nat)
    (origins : Origins) (items : List (Json α)),
    (∀ other, index ≤ other → ¬ parts ++ [indexText other] <+: path) →
      (recordItems originOf parts index origins items).get? (pointer path) =
        origins.get? (pointer path)
  | _, _, _, [], _ => by rw [recordItems]
  | parts, index, origins, child :: rest, elsewhere => by
    rw [recordItems, get?_recordItems_of_apart (index + 1) _ rest
      fun other later => elsewhere other (Nat.le_of_succ_le later),
      get?_record_of_apart origins child (elsewhere index le_rfl)]
end

mutual
/-- **A recorded value and everything in it have the origin of their pointers.** -/
theorem get?_record : ∀ {parts : List Text} (origins : Origins) (value : Json α),
    value.distinct = true → ∀ rest : List Text,
      (record originOf parts origins value).get? (pointer (parts ++ rest)) =
        if (value.at? rest).isSome then some (originOf (pointer (parts ++ rest)))
        else origins.get? (pointer (parts ++ rest))
  | parts, origins, .map entries, distinct, [] => by
    rw [record, append_nil, get?_recordEntries_of_apart _ entries
      fun name _ => not_snoc_prefix parts name, get?_set_self]
    rfl
  | parts, origins, .map entries, distinct, name :: rest => by
    obtain ⟨unique, inside⟩ := Json.distinct_map.mp distinct
    rw [record, get?_recordEntries _ entries unique inside,
      get?_set_of_ne _ (pointer_append_cons_ne _ _ _)]
    rfl
  | parts, origins, .list items, distinct, [] => by
    rw [record, append_nil, get?_recordItems_of_apart 0 _ items
      fun index _ => not_snoc_prefix parts (indexText index), get?_set_self]
    rfl
  | parts, origins, .list items, distinct, segment :: rest => by
    have inside := Json.distinct_list.mp distinct
    rw [record, Json.at?_cons]
    by_cases isIndex : ∃ index, segment = indexText index
    · obtain ⟨index, rfl⟩ := isIndex
      have found := @get?_recordItems parts 0
        (origins.set (pointer parts) (originOf (pointer parts))) items inside index rest
      rw [Nat.zero_add] at found
      rw [found, get?_set_of_ne _ (pointer_append_cons_ne _ _ _)]
      simp only [Json.child?, Json.item?_indexText]
    · have absent : Json.item? segment items = none := by
        cases found : Json.item? segment items with
        | none => rfl
        | some item =>
          obtain ⟨index, same, _⟩ := Json.item?_eq_some found
          exact absurd ⟨index, same⟩ isIndex
      rw [get?_recordItems_of_apart 0 _ items
        fun index _ => not_prefix_append_cons fun same => isIndex ⟨index, same.symm⟩,
        get?_set_of_ne _ (pointer_append_cons_ne _ _ _)]
      simp only [Json.child?, absent]
      rfl
  | _, _, .null, _, [] | _, _, .scalar _, _, [] => by
    rw [record, append_nil, get?_set_self]
    rfl
  | _, _, .null, _, _ :: _ | _, _, .scalar _, _, _ :: _ => by
    rw [record, get?_set_of_ne _ (pointer_append_cons_ne _ _ _)]
    rfl

theorem get?_recordEntries : ∀ {parts : List Text} (origins : Origins)
    (entries : Json.Entries α), (entries.map Prod.fst).Nodup →
    (∀ entry ∈ entries, entry.2.distinct = true) → ∀ (name : Text) (rest : List Text),
      (recordEntries originOf parts origins entries).get? (pointer (parts ++ name :: rest)) =
        if ((Json.lookup name entries).bind fun child => child.at? rest).isSome then
          some (originOf (pointer (parts ++ name :: rest)))
        else origins.get? (pointer (parts ++ name :: rest))
  | _, _, [], _, _, _, _ => by
    rw [recordEntries]
    rfl
  | parts, origins, (other, child) :: more, unique, inside, name, rest => by
    obtain ⟨fresh, unique⟩ := nodup_cons.mp unique
    have distinct := inside _ mem_cons_self
    rw [recordEntries]
    by_cases same : other = name
    · subst same
      have elsewhere : ∀ name ∈ more.map Prod.fst,
          ¬ parts ++ [name] <+: parts ++ other :: rest := by
        rintro name member
        refine not_prefix_append_cons ?_
        rintro rfl
        exact fresh member
      have here := @get?_record (parts ++ [other]) origins child distinct rest
      rw [append_assoc, singleton_append] at here
      rw [get?_recordEntries_of_apart _ more elsewhere, here, Json.lookup_cons_self]
      rfl
    · rw [get?_recordEntries _ more unique
        (fun entry member => inside entry (mem_cons_of_mem _ member)) name rest,
        get?_record_of_apart origins child (not_prefix_append_cons same),
        Json.lookup_cons_of_ne same]

theorem get?_recordItems : ∀ {parts : List Text} (index : Nat) (origins : Origins)
    (items : List (Json α)), (∀ item ∈ items, item.distinct = true) →
    ∀ (offset : Nat) (rest : List Text),
      (recordItems originOf parts index origins items).get?
          (pointer (parts ++ indexText (index + offset) :: rest)) =
        if ((items[offset]?).bind fun child => child.at? rest).isSome then
          some (originOf (pointer (parts ++ indexText (index + offset) :: rest)))
        else origins.get? (pointer (parts ++ indexText (index + offset) :: rest))
  | _, _, _, [], _, _, _ => by
    rw [recordItems]
    rfl
  | parts, index, origins, child :: more, inside, 0, rest => by
    have distinct := inside _ mem_cons_self
    have elsewhere : ∀ other, index + 1 ≤ other →
        ¬ parts ++ [indexText other] <+: parts ++ indexText (index + 0) :: rest := by
      intro other later
      refine not_prefix_append_cons fun same => ?_
      have equal := indexText_injective same
      omega
    have here := @get?_record (parts ++ [indexText index]) origins child distinct rest
    rw [append_assoc, singleton_append] at here
    rw [recordItems, get?_recordItems_of_apart (index + 1) _ more elsewhere]
    exact here
  | parts, index, origins, child :: more, inside, offset + 1, rest => by
    have later : index + (offset + 1) = index + 1 + offset := by omega
    have elsewhere : indexText index ≠ indexText (index + 1 + offset) := by
      intro same
      have equal := indexText_injective same
      omega
    rw [recordItems, later, get?_recordItems (index + 1) _ more
      (fun item member => inside item (mem_cons_of_mem _ member)) offset rest,
      get?_record_of_apart origins child (not_prefix_append_cons elsewhere),
      getElem?_cons_succ]
end

end Record

/-! ## Merging a document -/

mutual
/-- **The value `merge_patch` returns is the merge patch of RFC 7396.** -/
theorem mergePatch_fst (originOf : Text → Origin) : ∀ (parts : List Text) (target : Json α)
    (origins : Origins) (patch : Json α),
    (mergePatch originOf parts target origins patch).1 = target.merge patch
  | parts, target, origins, .map patch => by
    rw [mergePatch, Json.merge]
    exact congrArg Json.map (mergePatchEntries_fst originOf parts target.entries _ patch)
  | _, _, _, .list _ | _, _, _, .null | _, _, _, .scalar _ => by
    rw [mergePatch, Json.merge]
    all_goals simp

theorem mergePatchEntries_fst (originOf : Text → Origin) : ∀ (parts : List Text)
    (result : Json.Entries α) (origins : Origins) (patch : Json.Entries α),
    (mergePatchEntries originOf parts result origins patch).1 = Json.mergeEntries result patch
  | _, _, _, [] => by rw [mergePatchEntries, Json.mergeEntries]
  | parts, result, origins, (name, value) :: rest => by
    rw [mergePatchEntries, Json.mergeEntries]
    dsimp only
    split
    · exact mergePatchEntries_fst originOf parts _ _ rest
    · rw [mergePatchEntries_fst originOf parts _ _ rest, mergePatch_fst originOf]
end

section Merge

variable {originOf : Text → Origin} {path : List Text}

theorem get?_record_forget_of_apart {parts : List Text} (origins : Origins)
    (value : Json α) (elsewhere : ¬ parts <+: path) :
    (record originOf parts (forget origins (pointer parts)) value).get? (pointer path) =
      origins.get? (pointer path) := by
  rw [get?_record_of_apart _ value elsewhere, get?_forget, if_neg elsewhere]

mutual
theorem get?_mergePatch_of_apart : ∀ {parts : List Text} (target : Json α)
    (origins : Origins) (patch : Json α), ¬ parts <+: path →
      (mergePatch originOf parts target origins patch).2.get? (pointer path) =
        origins.get? (pointer path)
  | parts, target, origins, .map patch, elsewhere => by
    rw [mergePatch]
    dsimp only
    rw [get?_mergePatchEntries_of_apart _ _ patch fun name _ => not_prefix_snoc name elsewhere]
    have kept : (if target.isMap then origins else forget origins (pointer parts)).get?
        (pointer path) = origins.get? (pointer path) := by
      split
      · rfl
      · rw [get?_forget, if_neg elsewhere]
    split
    · exact kept
    · rw [get?_setDefault, if_neg, kept]
      rintro rfl
      exact elsewhere prefix_rfl
  | _, _, origins, .list _, elsewhere | _, _, origins, .null, elsewhere
  | _, _, origins, .scalar _, elsewhere => by
    rw [mergePatch]
    · exact get?_record_forget_of_apart origins _ elsewhere
    · simp

theorem get?_mergePatchEntries_of_apart : ∀ {parts : List Text}
    (result : Json.Entries α) (origins : Origins) (patch : Json.Entries α),
    (∀ name ∈ patch.map Prod.fst, ¬ parts ++ [name] <+: path) →
      (mergePatchEntries originOf parts result origins patch).2.get? (pointer path) =
        origins.get? (pointer path)
  | _, _, _, [], _ => by rw [mergePatchEntries]
  | parts, result, origins, (name, value) :: rest, elsewhere => by
    have here := elsewhere name mem_cons_self
    have later : ∀ other ∈ rest.map Prod.fst, ¬ parts ++ [other] <+: path :=
      fun other member => elsewhere other (mem_cons_of_mem _ member)
    rw [mergePatchEntries]
    dsimp only
    split
    · rw [get?_mergePatchEntries_of_apart _ _ rest later,
        get?_set_of_ne _ (pointer_ne_of_apart here), get?_forget, if_neg here]
    · rw [get?_mergePatchEntries_of_apart _ _ rest later, get?_mergePatch_of_apart _ _ value here]
end

/-- The origins at and below a place after a merge there, from those before it and those the
merged document gives. -/
def originsAfter : Json α → Json α → (List Text → Option Origin) → (List Text → Origin) →
    List Text → Option Origin
  | target, .map _, before, made, [] =>
    some ((if target.isMap then before [] else none).getD (made []))
  | target, .map patch, before, made, name :: rest =>
    match Json.lookup name patch with
    | none => if target.isMap then before (name :: rest) else none
    | some value =>
      if value.isNull then
        if rest = [] then some (tombstone (made [name])) else none
      else
        originsAfter ((Json.lookup name target.entries).getD .null) value
          (fun below => if target.isMap then before (name :: below) else none)
          (fun below => made (name :: below)) rest
  | _, patch, _, made, path => if (patch.at? path).isSome then some (made path) else none

theorem originsAfter_of_not_map (target : Json α) {patch : Json α} (other : patch.isMap = false)
    (before : List Text → Option Origin) (made : List Text → Origin) (path : List Text) :
    originsAfter target patch before made path =
      if (patch.at? path).isSome then some (made path) else none := by
  cases patch with
  | map patch => cases other
  | _ => rw [originsAfter] <;> simp

theorem get?_record_forget {parts : List Text} (origins : Origins) {value : Json α}
    (distinct : value.distinct = true) (rest : List Text) :
    (record originOf parts (forget origins (pointer parts)) value).get?
        (pointer (parts ++ rest)) =
      if (value.at? rest).isSome then some (originOf (pointer (parts ++ rest))) else none := by
  rw [get?_record _ value distinct, get?_forget, if_pos (prefix_append parts rest)]

mutual
/-- **What a merge leaves at and below its place.** -/
theorem get?_mergePatch : ∀ {parts : List Text} (target : Json α) (origins : Origins)
    (patch : Json α), patch.distinct = true → ∀ rest : List Text, (parts ++ rest ≠ []) →
      (mergePatch originOf parts target origins patch).2.get? (pointer (parts ++ rest)) =
        originsAfter target patch (fun below => origins.get? (pointer (parts ++ below)))
          (fun below => originOf (pointer (parts ++ below))) rest
  | parts, target, origins, .map patch, _, [], inside => by
    rw [append_nil] at inside ⊢
    rw [mergePatch]
    dsimp only
    rw [get?_mergePatchEntries_of_apart _ _ patch fun name _ => not_snoc_prefix parts name,
      if_neg inside, get?_setDefault, if_pos rfl, originsAfter, append_nil]
    split
    · rfl
    · rw [get?_forget, if_pos prefix_rfl]
  | parts, target, origins, .map patch, distinct, name :: rest, _ => by
    obtain ⟨unique, inside⟩ := Json.distinct_map.mp distinct
    have started : ∀ below : List Text,
        (if parts = [] then (if target.isMap then origins else forget origins (pointer parts))
          else setDefault (if target.isMap then origins else forget origins (pointer parts))
            (pointer parts) (originOf (pointer parts))).get? (pointer (parts ++ name :: below)) =
          if target.isMap then origins.get? (pointer (parts ++ name :: below)) else none := by
      intro below
      have kept : (if target.isMap then origins else forget origins (pointer parts)).get?
          (pointer (parts ++ name :: below)) =
            if target.isMap then origins.get? (pointer (parts ++ name :: below)) else none := by
        split
        · rfl
        · rw [get?_forget, if_pos (prefix_append _ _)]
      split
      · exact kept
      · rw [get?_setDefault, if_neg (by simp), kept]
    rw [mergePatch]
    dsimp only
    rw [get?_mergePatchEntries _ _ patch unique inside, originsAfter]
    simp only [started]
  | _, target, origins, .list _, distinct, rest, _ | _, target, origins, .null, distinct, rest, _
  | _, target, origins, .scalar _, distinct, rest, _ => by
    rw [mergePatch, originsAfter_of_not_map target rfl]
    · exact get?_record_forget origins distinct rest
    · simp

theorem get?_mergePatchEntries : ∀ {parts : List Text} (result : Json.Entries α)
    (origins : Origins) (patch : Json.Entries α), (patch.map Prod.fst).Nodup →
    (∀ entry ∈ patch, entry.2.distinct = true) → ∀ (name : Text) (rest : List Text),
      (mergePatchEntries originOf parts result origins patch).2.get?
          (pointer (parts ++ name :: rest)) =
        match Json.lookup name patch with
        | none => origins.get? (pointer (parts ++ name :: rest))
        | some value =>
          if value.isNull then
            if rest = [] then some (tombstone (originOf (pointer (parts ++ [name])))) else none
          else
            originsAfter ((Json.lookup name result).getD .null) value
              (fun below => origins.get? (pointer (parts ++ name :: below)))
              (fun below => originOf (pointer (parts ++ name :: below))) rest
  | _, _, _, [], _, _, _, _ => by
    rw [mergePatchEntries]
    rfl
  | parts, result, origins, (other, value) :: more, unique, inside, name, rest => by
    obtain ⟨fresh, unique⟩ := nodup_cons.mp unique
    have distinct := inside _ mem_cons_self
    have later : ∀ entry ∈ more, entry.2.distinct = true :=
      fun entry member => inside entry (mem_cons_of_mem _ member)
    rw [mergePatchEntries]
    dsimp only
    by_cases same : other = name
    · subst same
      have elsewhere : ∀ name ∈ more.map Prod.fst,
          ¬ parts ++ [name] <+: parts ++ other :: rest := by
        rintro name member
        refine not_prefix_append_cons ?_
        rintro rfl
        exact fresh member
      rw [Json.lookup_cons_self]
      dsimp only
      split
      · rw [get?_mergePatchEntries_of_apart _ _ more elsewhere]
        cases rest with
        | nil => rw [get?_set_self, if_pos rfl]
        | cons segment below =>
          have snoc : parts ++ other :: segment :: below =
              parts ++ [other] ++ segment :: below := by simp
          rw [snoc, get?_set_of_ne _ (pointer_append_cons_ne _ _ _),
            get?_forget, if_pos (prefix_append _ _), if_neg (cons_ne_nil _ _)]
      · rw [get?_mergePatchEntries_of_apart _ _ more elsewhere]
        have here := @get?_mergePatch (parts ++ [other])
          ((Json.lookup other result).getD .null) origins value distinct rest (by simp)
        simp only [append_assoc, singleton_append] at here
        exact here
    · rw [Json.lookup_cons_of_ne same]
      have away : ∀ below, ¬ parts ++ [other] <+: parts ++ name :: below :=
        fun _ => not_prefix_append_cons same
      split
      · rw [get?_mergePatchEntries _ _ more unique later]
        simp only [Json.lookup_remove, if_neg (Ne.symm same),
          get?_set_of_ne _ (pointer_ne_of_apart (away _)), get?_forget,
          if_neg (away _)]
      · rw [get?_mergePatchEntries _ _ more unique later]
        simp only [Json.lookup_set, if_neg (Ne.symm same),
          get?_mergePatch_of_apart _ _ value (away _)]
end

end Merge

/-! ## The keys of the origins -/

def OnlyPointers (origins : Origins) : Prop := ∀ key ∈ origins.keys, ∃ path, key = pointer path

namespace OnlyPointers

variable {originOf : Text → Origin} {origins : Origins}

theorem set (only : OnlyPointers origins) (path : List Text) (origin : Origin) :
    OnlyPointers (origins.set (pointer path) origin) := by
  intro key member
  obtain ⟨value, found⟩ := OrderedDict.mem_keys_iff.mp member
  rw [get?_set] at found
  split at found
  · next same => exact ⟨path, same⟩
  · exact only key (OrderedDict.mem_keys_iff.mpr ⟨value, found⟩)

theorem forget (only : OnlyPointers origins) (pointer : Text) :
    OnlyPointers (forget origins pointer) := by
  intro key member
  obtain ⟨entry, here, rfl⟩ := List.mem_map.mp member
  exact only entry.1 (List.mem_map_of_mem (mem_of_mem_filter here))

theorem setDefault (only : OnlyPointers origins) (path : List Text) (origin : Origin) :
    OnlyPointers (setDefault origins (pointer path) origin) := by
  rw [Config.setDefault]
  split
  · exact only
  · exact only.set path origin

mutual
theorem record : ∀ {parts : List Text} {origins : Origins}, OnlyPointers origins →
    ∀ value : Json α, OnlyPointers (Config.record originOf parts origins value)
  | parts, _, only, .map entries => by
    rw [Config.record]
    exact recordEntries (only.set parts _) entries
  | parts, _, only, .list items => by
    rw [Config.record]
    exact recordItems 0 (only.set parts _) items
  | parts, _, only, .null | parts, _, only, .scalar _ => by
    rw [Config.record]
    exact only.set parts _

theorem recordEntries : ∀ {parts : List Text} {origins : Origins}, OnlyPointers origins →
    ∀ entries : Json.Entries α, OnlyPointers (Config.recordEntries originOf parts origins entries)
  | _, _, only, [] => by
    rw [Config.recordEntries]
    exact only
  | _, _, only, (_, child) :: rest => by
    rw [Config.recordEntries]
    exact recordEntries (record only child) rest

theorem recordItems : ∀ {parts : List Text} (index : Nat) {origins : Origins},
    OnlyPointers origins → ∀ items : List (Json α),
      OnlyPointers (Config.recordItems originOf parts index origins items)
  | _, _, _, only, [] => by
    rw [Config.recordItems]
    exact only
  | _, index, _, only, child :: rest => by
    rw [Config.recordItems]
    exact recordItems (index + 1) (record only child) rest
end

mutual
/-- **A merge keeps the keys pointers.** -/
theorem mergePatch : ∀ {parts : List Text} (target : Json α) {origins : Origins},
    OnlyPointers origins → ∀ patch : Json α,
      OnlyPointers (Config.mergePatch originOf parts target origins patch).2
  | parts, target, origins, only, .map patch => by
    have kept : OnlyPointers
        (if target.isMap then origins else Config.forget origins (pointer parts)) := by
      split
      · exact only
      · exact only.forget _
    rw [Config.mergePatch]
    dsimp only
    refine mergePatchEntries _ ?_ patch
    split
    · exact kept
    · exact kept.setDefault parts _
  | _, _, _, only, .list _ | _, _, _, only, .null | _, _, _, only, .scalar _ => by
    rw [Config.mergePatch]
    · exact record (only.forget _) _
    · simp

theorem mergePatchEntries : ∀ {parts : List Text} (result : Json.Entries α)
    {origins : Origins}, OnlyPointers origins → ∀ patch : Json.Entries α,
      OnlyPointers (Config.mergePatchEntries originOf parts result origins patch).2
  | _, _, _, only, [] => by
    rw [Config.mergePatchEntries]
    exact only
  | parts, _, _, only, (name, value) :: rest => by
    rw [Config.mergePatchEntries]
    dsimp only
    split
    · exact mergePatchEntries _ ((only.forget _).set (parts ++ [name]) _) rest
    · exact mergePatchEntries _ (mergePatch _ only value) rest
end

end OnlyPointers

end Audiagentic.Config
