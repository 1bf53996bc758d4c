import Audiagentic.Foundations.Checks
import Audiagentic.Config.Origins

/-!
# Provenance of settings

What the origins say of the settings that any sequence of layers gives, and of those that a
resolution gives.
-/

namespace Audiagentic.Config

open Foundations JsonPointer List Json

universe u

variable {α : Type u}

/-! ## Mentions -/

inductive Mention where
  | deleted
  | container
  | assigned

/-- How a document mentions a place: a null deletes, a mapping opens a container, anything else
is assigned, and so is everything inside a list. -/
def mention (document : Json α) (path : List Text) : Option Mention :=
  (document.at? path).map fun node =>
    if document.throughList path then .assigned
    else if node.isNull then .deleted
    else if node.isMap then .container
    else .assigned

/-- The node at a place is a mapping that is not inside a list. -/
def IsContainer (tree : Json α) (path : List Text) : Prop :=
  (∃ entries, tree.at? path = some (.map entries)) ∧ tree.throughList path = false

def IsValue (tree : Json α) (path : List Text) : Prop :=
  ∃ node, tree.at? path = some node ∧ (tree.throughList path = true ∨ node.isMap = false)

variable {path : List Text}

theorem IsContainer.isSome {tree : Json α} (container : IsContainer tree path) :
    (tree.at? path).isSome = true := by
  obtain ⟨⟨entries, here⟩, _⟩ := container
  rw [here]
  rfl

theorem IsContainer.not_isValue {tree : Json α} (container : IsContainer tree path) :
    ¬ IsValue tree path := by
  obtain ⟨⟨entries, here⟩, outside⟩ := container
  rintro ⟨node, there, through | plain⟩
  · rw [outside] at through
    cases through
  · rw [here] at there
    cases there
    cases plain

theorem at?_map_cons (entries : Json.Entries α) (name : Text) (rest : List Text) :
    (Json.map entries).at? (name :: rest) =
      (Json.lookup name entries).bind fun child => child.at? rest := rfl

theorem mention_map_cons (entries : Json.Entries α) (name : Text) (rest : List Text) :
    mention (.map entries) (name :: rest) =
      (Json.lookup name entries).bind fun child => mention child rest := by
  rw [mention, at?_map_cons]
  cases found : Json.lookup name entries with
  | none => rfl
  | some child =>
    rw [Json.throughList, found]
    rfl

/-- A document that is neither a mapping nor a null assigns whatever it mentions. -/
theorem mention_of_not_map {document : Json α} (other : document.isMap = false)
    (inside : document.isNull = true → path ≠ []) :
    mention document path = if (document.at? path).isSome then some .assigned else none := by
  cases document with
  | map entries => cases other
  | null =>
    cases path with
    | nil => exact absurd rfl (inside rfl)
    | cons segment rest => rfl
  | scalar value =>
    cases path with
    | nil => rfl
    | cons segment rest => rfl
  | list items =>
    cases path with
    | nil => rfl
    | cons segment rest =>
      rw [mention]
      cases (Json.list items).at? (segment :: rest) with
      | none => rfl
      | some node => rfl

/-! ## One merge at one place -/

/-- What merging `patch` into `target` does at a place: the origin before it, the origin the
patch gives, and the origin after it. -/
inductive Outcome (target patch : Json α) (path : List Text) (before : Option Origin)
    (made : Origin) (after : Option Origin) : Prop where
  | assigned (mentioned : mention patch path = some .assigned)
      (there : ((target.merge patch).at? path).isSome = true) (origin : after = some made)
  | opened (mentioned : mention patch path = some .container)
      (there : IsContainer (target.merge patch) path) (origin : after = some made)
  | widened (mentioned : mention patch path = some .container) (was : IsContainer target path)
      (there : IsContainer (target.merge patch) path) (origin : after = some (before.getD made))
  | deleted (mentioned : mention patch path = some .deleted)
      (absent : (target.merge patch).at? path = none) (origin : after = some (tombstone made))
  | gone (mentioned : mention patch path = none)
      (absent : (target.merge patch).at? path = none) (origin : after = none)
  | kept (mentioned : mention patch path = none)
      (same : (target.merge patch).at? path = target.at? path)
      (through : (target.merge patch).throughList path = target.throughList path)
      (origin : after = before)

theorem at?_getD_null (child : Option (Json α)) {rest : List Text} (below : rest ≠ []) :
    (child.getD .null).at? rest = child.bind fun node => node.at? rest := by
  cases child with
  | some node => rfl
  | none =>
    cases rest with
    | nil => exact absurd rfl below
    | cons segment more => rfl

theorem throughList_getD_null (entries : Json.Entries α) (name : Text) (rest : List Text) :
    ((Json.lookup name entries).getD .null).throughList rest =
      (Json.map entries).throughList (name :: rest) := by
  rw [Json.throughList]
  cases Json.lookup name entries with
  | some child => rfl
  | none => cases rest <;> rfl

theorem isContainer_getD_null {entries : Json.Entries α} {name : Text} {rest : List Text}
    (container : IsContainer ((Json.lookup name entries).getD .null) rest) :
    IsContainer (.map entries) (name :: rest) := by
  refine ⟨?_, throughList_getD_null entries name rest ▸ container.2⟩
  obtain ⟨⟨inner, here⟩, _⟩ := container
  refine ⟨inner, ?_⟩
  rw [at?_map_cons]
  cases found : Json.lookup name entries with
  | some child =>
    rw [found] at here
    exact here
  | none =>
    rw [found] at here
    cases rest with
    | nil | cons => cases here

section Below

variable {target value : Json α} {patch : Json.Entries α} {name : Text} {rest : List Text}

section

variable (unique : (patch.map Prod.fst).Nodup)
include unique

section

variable (given : Json.lookup name patch = some value)
include given

theorem at?_merge_cons (keeps : value.isNull = false) :
    (target.merge (.map patch)).at? (name :: rest) =
      (((Json.lookup name target.entries).getD .null).merge value).at? rest := by
  rw [merge_map, at?_map_cons, lookup_mergeEntries unique, given]
  simp [keeps]

theorem throughList_merge_cons (keeps : value.isNull = false) :
    (target.merge (.map patch)).throughList (name :: rest) =
      (((Json.lookup name target.entries).getD .null).merge value).throughList rest := by
  rw [merge_map, Json.throughList, lookup_mergeEntries unique, given]
  simp [keeps]

theorem isContainer_merge_cons (keeps : value.isNull = false) :
    IsContainer (target.merge (.map patch)) (name :: rest) ↔
      IsContainer (((Json.lookup name target.entries).getD .null).merge value) rest := by
  rw [IsContainer, IsContainer, at?_merge_cons unique given keeps,
    throughList_merge_cons unique given keeps]

end

theorem lookup_merge_of_absent (absent : Json.lookup name patch = none) :
    Json.lookup name (Json.mergeEntries target.entries patch) =
      Json.lookup name target.entries := by
  rw [lookup_mergeEntries unique, absent]

end

theorem mention_of_lookup (given : Json.lookup name patch = some value) :
    mention (.map patch) (name :: rest) = mention value rest := by
  rw [mention_map_cons, given]
  rfl

variable {before : List Text → Option Origin} {made : List Text → Origin}

/-- A name the patch does not hold keeps what is there, unless the target was replaced. -/
theorem outcome_of_absent (unique : (patch.map Prod.fst).Nodup)
    (absent : Json.lookup name patch = none) :
    Outcome target (.map patch) (name :: rest) (before (name :: rest)) (made (name :: rest))
      (originsAfter target (.map patch) before made (name :: rest)) := by
  have mentioned : mention (.map patch) (name :: rest) = none := by
    rw [mention_map_cons, absent]
    rfl
  have same : Json.lookup name (Json.mergeEntries target.entries patch) =
      Json.lookup name target.entries := lookup_merge_of_absent unique absent
  rw [originsAfter, absent]
  cases target with
  | map entries =>
    refine .kept mentioned ?_ ?_ rfl
    · rw [merge_map, at?_map_cons, same]
      rfl
    · rw [merge_map, Json.throughList, same]
      rfl
  | null | scalar | list =>
    exact .gone mentioned (by rw [merge_map, at?_map_cons, same]; rfl) rfl

theorem outcome_of_null (unique : (patch.map Prod.fst).Nodup)
    (given : Json.lookup name patch = some .null) :
    Outcome target (.map patch) (name :: rest) (before (name :: rest)) (made (name :: rest))
      (originsAfter target (.map patch) before made (name :: rest)) := by
  have removed : (target.merge (.map patch)).at? (name :: rest) = none := by
    rw [merge_map, at?_map_cons, lookup_mergeEntries unique, given]
    rfl
  rw [originsAfter, given]
  cases rest with
  | nil => exact .deleted (by rw [mention_of_lookup given]; rfl) removed rfl
  | cons segment more => exact .gone (by rw [mention_of_lookup given]; rfl) removed rfl

/-- What a merge does below a name is what the merge of the values under it does. -/
theorem Outcome.below {after : Option Origin} (unique : (patch.map Prod.fst).Nodup)
    (given : Json.lookup name patch = some value) (keeps : value.isNull = false)
    (inner : Outcome ((Json.lookup name target.entries).getD .null) value rest
      (if target.isMap then before (name :: rest) else none) (made (name :: rest)) after) :
    Outcome target (.map patch) (name :: rest) (before (name :: rest)) (made (name :: rest))
      after := by
  have mentioned : mention (.map patch) (name :: rest) = mention value rest :=
    mention_of_lookup given
  have there : (target.merge (.map patch)).at? (name :: rest) =
      (((Json.lookup name target.entries).getD .null).merge value).at? rest :=
    at?_merge_cons unique given keeps
  have through : (target.merge (.map patch)).throughList (name :: rest) =
      (((Json.lookup name target.entries).getD .null).merge value).throughList rest :=
    throughList_merge_cons unique given keeps
  have containers : IsContainer (target.merge (.map patch)) (name :: rest) ↔
      IsContainer (((Json.lookup name target.entries).getD .null).merge value) rest :=
    isContainer_merge_cons unique given keeps
  cases inner with
  | assigned mentions found origin =>
    exact .assigned (mentioned.trans mentions) (there ▸ found) origin
  | opened mentions found origin =>
    exact .opened (mentioned.trans mentions) (containers.mpr found) origin
  | widened mentions was found origin =>
    cases target with
    | map entries =>
      exact .widened (mentioned.trans mentions) (isContainer_getD_null was)
        (containers.mpr found) origin
    | null | scalar | list =>
      exact absurd (isContainer_getD_null was).isSome (by simp [at?_map_cons, Json.entries])
  | deleted mentions absent origin =>
    exact .deleted (mentioned.trans mentions) (there.trans absent) origin
  | gone mentions absent origin =>
    exact .gone (mentioned.trans mentions) (there.trans absent) origin
  | kept mentions same sameThrough origin =>
    have further : rest ≠ [] := by
      rintro rfl
      rw [mention] at mentions
      cases mentions
    rw [at?_getD_null _ further] at same
    cases target with
    | map entries =>
      refine .kept (mentioned.trans mentions) (there.trans same) ?_ origin
      rw [through, sameThrough]
      exact throughList_getD_null entries name rest
    | null | scalar | list => exact .gone (mentioned.trans mentions) (there.trans same) origin

end Below

/-- **Every merge does one of these at every place.** -/
theorem outcome {patch : Json α} (distinct : patch.distinct = true) (target : Json α)
    (path : List Text) (below : patch.isNull = true → path ≠ [])
    (before : List Text → Option Origin) (made : List Text → Origin) :
    Outcome target patch path (before path) (made path)
      (originsAfter target patch before made path) := by
  induction path generalizing target patch before made with
  | nil =>
    cases patch with
    | null => exact absurd rfl (below rfl)
    | scalar | list => exact .assigned rfl rfl (by rw [originsAfter_of_not_map _ rfl]; rfl)
    | map patch =>
      have there : IsContainer (target.merge (.map patch)) [] :=
        ⟨⟨_, by rw [merge_map]; rfl⟩, by rw [merge_map]; rfl⟩
      cases target with
      | map entries => exact .widened rfl ⟨⟨entries, rfl⟩, rfl⟩ there (by rw [originsAfter]; rfl)
      | null | scalar | list => exact .opened rfl there (by rw [originsAfter]; rfl)
  | cons name rest ih =>
    by_cases isMap : patch.isMap = true
    · cases patch with
      | null | scalar | list => cases isMap
      | map patch =>
        obtain ⟨unique, inside⟩ := distinct_map.mp distinct
        cases given : Json.lookup name patch with
        | none => exact outcome_of_absent unique given
        | some value =>
          by_cases deletes : value.isNull = true
          · cases value with
            | null => exact outcome_of_null unique given
            | scalar | list | map => cases deletes
          have keeps : value.isNull = false := Bool.eq_false_iff.mpr deletes
          rw [originsAfter, given]
          dsimp only
          rw [if_neg deletes]
          refine Outcome.below unique given keeps ?_
          exact ih (inside _ (Json.mem_of_lookup given)) _
            (fun null => absurd null deletes)
            (fun below => if target.isMap then before (name :: below) else none)
            (fun below => made (name :: below))
    · have other : patch.isMap = false := Bool.eq_false_iff.mpr isMap
      have mentioned : mention patch (name :: rest) =
          if (patch.at? (name :: rest)).isSome then some .assigned else none :=
        mention_of_not_map other below
      cases here : patch.at? (name :: rest) with
      | none =>
        rw [here] at mentioned
        refine .gone mentioned ?_ ?_
        · rw [merge_of_not_map target other, here]
        · rw [originsAfter_of_not_map target other, here]
          rfl
      | some node =>
        rw [here] at mentioned
        refine .assigned mentioned ?_ ?_
        · rw [merge_of_not_map target other, here]
          rfl
        · rw [originsAfter_of_not_map target other, here]
          rfl

/-! ## Layers -/

/-- The document of the layer at `index` mentions the place in the given way. -/
def Mentions (layers : List (Layer α)) (index : Nat) (path : List Text) (how : Mention) : Prop :=
  ∃ layer, layers[index]? = some layer ∧ mention layer.document path = some how

/-- The origin the layer at `index` gives to the place is `origin`. -/
def Names (layers : List (Layer α)) (index : Nat) (path : List Text) (origin : Origin) : Prop :=
  ∃ layer, layers[index]? = some layer ∧ origin = layer.originOf (pointer path)

/-- The layer at `index` wrote the node at a place: its document has a node there, the place has
held a node ever since, and a node that is not an open mapping was assigned by this layer last. -/
structure WrittenBy (layers : List (Layer α)) (path : List Text) (index : Nat) : Prop where
  wrote : Mentions layers index path .container ∨ Mentions layers index path .assigned
  since : ∀ count, index < count → count ≤ layers.length →
    ((effectiveOf (layers.take count)).1.at? path).isSome = true
  last : IsValue (effectiveOf layers).1 path → Mentions layers index path .assigned ∧
    ∀ later, index < later → ¬ Mentions layers later path .assigned

/-- The layer at `index` deleted the place, and no later layer mentions it. -/
structure DeletedBy (layers : List (Layer α)) (path : List Text) (index : Nat) : Prop where
  deleted : Mentions layers index path .deleted
  last : ∀ later how, index < later → ¬ Mentions layers later path how

structure SoundProvenance (layers : List (Layer α)) : Prop where
  values : (effectiveOf layers).1 =
    layers.foldl (fun values layer => values.merge layer.document) (.map [])
  written : ∀ path, path ≠ [] → ((effectiveOf layers).1.at? path).isSome = true →
    ∃ index origin, (effectiveOf layers).2.get? (pointer path) = some origin ∧
      origin.deleted = false ∧ Names layers index path origin ∧ WrittenBy layers path index
  effective : ∀ key origin, (effectiveOf layers).2.get? key = some origin →
    origin.deleted = false →
      ∃ path, key = pointer path ∧ ((effectiveOf layers).1.at? path).isSome = true
  deleted : ∀ key origin, (effectiveOf layers).2.get? key = some origin →
    origin.deleted = true →
      ∃ path, key = pointer path ∧ (effectiveOf layers).1.at? path = none ∧
        ∃ index named, Names layers index path named ∧ origin = tombstone named ∧
          DeletedBy layers path index

section Append

variable {layers : List (Layer α)} {layer : Layer α} {path : List Text} {index : Nat}

theorem effectiveOf_append (layers : List (Layer α)) (layer : Layer α) :
    effectiveOf (layers ++ [layer]) = applyLayer (effectiveOf layers) layer := by
  rw [effectiveOf, exec_append]
  rfl

theorem values_append (layers : List (Layer α)) (layer : Layer α) :
    (effectiveOf (layers ++ [layer])).1 = (effectiveOf layers).1.merge layer.document := by
  rw [effectiveOf_append]
  exact mergePatch_fst _ _ _ _ _

theorem outcome_append (layers : List (Layer α)) (layer : Layer α) (inside : path ≠ []) :
    Outcome (effectiveOf layers).1 layer.document path
      ((effectiveOf layers).2.get? (pointer path)) (layer.originOf (pointer path))
      ((effectiveOf (layers ++ [layer])).2.get? (pointer path)) := by
  have after := @get?_mergePatch _ layer.originOf [] (effectiveOf layers).1
    (effectiveOf layers).2 layer.document layer.distinct path inside
  rw [nil_append] at after
  rw [effectiveOf_append, applyLayer, after]
  exact outcome layer.distinct _ path (fun _ => inside)
    (fun below => (effectiveOf layers).2.get? (pointer ([] ++ below)))
    (fun below => layer.originOf (pointer ([] ++ below)))

theorem getElem?_append_of_some {other : Layer α} (here : layers[index]? = some other) :
    (layers ++ [layer])[index]? = some other := by
  rw [getElem?_append_left (List.getElem?_eq_some_iff.mp here).1, here]

theorem Mentions.append {how : Mention} (mentions : Mentions layers index path how) :
    Mentions (layers ++ [layer]) index path how := by
  obtain ⟨other, here, mentioned⟩ := mentions
  exact ⟨other, getElem?_append_of_some here, mentioned⟩

theorem Names.append {origin : Origin} (names : Names layers index path origin) :
    Names (layers ++ [layer]) index path origin := by
  obtain ⟨other, here, same⟩ := names
  exact ⟨other, getElem?_append_of_some here, same⟩

/-- A mention by one of the layers and the added one is by the one or the other. -/
theorem mentions_append {how : Mention} (mentions : Mentions (layers ++ [layer]) index path how) :
    Mentions layers index path how ∨
      index = layers.length ∧ mention layer.document path = some how := by
  obtain ⟨other, here, mentioned⟩ := mentions
  rcases Nat.lt_or_ge index layers.length with before | after
  · rw [getElem?_append_left before] at here
    exact Or.inl ⟨other, here, mentioned⟩
  rw [getElem?_append_right after] at here
  have first : index - layers.length = 0 := by
    have short := (List.getElem?_eq_some_iff.mp here).1
    simp only [length_singleton] at short
    omega
  rw [first] at here
  cases here
  exact Or.inr ⟨by omega, mentioned⟩

theorem mentions_last {how : Mention} (mentioned : mention layer.document path = some how) :
    Mentions (layers ++ [layer]) layers.length path how :=
  ⟨layer, by simp, mentioned⟩

theorem names_last (layers : List (Layer α)) (layer : Layer α) (path : List Text) :
    Names (layers ++ [layer]) layers.length path (layer.originOf (pointer path)) :=
  ⟨layer, by simp, rfl⟩

theorem not_mentions_after {later : Nat} {how : Mention} (after : layers.length < later) :
    ¬ Mentions (layers ++ [layer]) later path how := by
  rintro ⟨other, here, _⟩
  have short := (List.getElem?_eq_some_iff.mp here).1
  simp only [length_append, length_singleton] at short
  omega

theorem writtenBy_last
    (wrote : mention layer.document path = some .container ∨
      mention layer.document path = some .assigned)
    (there : ((effectiveOf (layers ++ [layer])).1.at? path).isSome = true)
    (value : IsValue (effectiveOf (layers ++ [layer])).1 path →
      mention layer.document path = some .assigned) :
    WrittenBy (layers ++ [layer]) path layers.length where
  wrote := wrote.imp mentions_last mentions_last
  since := by
    intro count after within
    rw [length_append, length_singleton] at within
    have all : count = (layers ++ [layer]).length := by
      rw [length_append, length_singleton]
      omega
    rw [all, take_length]
    exact there
  last := fun isValue => ⟨mentions_last (value isValue), fun _ after => not_mentions_after after⟩

/-- Who wrote a node still did when a layer is added that leaves the place a node and does not
assign it. -/
theorem WrittenBy.append (written : WrittenBy layers path index)
    (there : ((effectiveOf (layers ++ [layer])).1.at? path).isSome = true)
    (value : IsValue (effectiveOf (layers ++ [layer])).1 path →
      IsValue (effectiveOf layers).1 path ∧ mention layer.document path = none) :
    WrittenBy (layers ++ [layer]) path index where
  wrote := written.wrote.imp Mentions.append Mentions.append
  since := by
    intro count after within
    rw [length_append, length_singleton] at within
    rcases Nat.lt_or_ge layers.length count with beyond | inside
    · have all : count = (layers ++ [layer]).length := by
        rw [length_append, length_singleton]
        omega
      rw [all, take_length]
      exact there
    · rw [take_append_of_le_length inside]
      exact written.since count after inside
  last := by
    intro isValue
    obtain ⟨was, unmentioned⟩ := value isValue
    obtain ⟨assigned, last⟩ := written.last was
    refine ⟨assigned.append, ?_⟩
    intro later after mentions
    rcases mentions_append mentions with old | ⟨_, mentioned⟩
    · exact last later after old
    · rw [unmentioned] at mentioned
      cases mentioned

theorem DeletedBy.append (deleted : DeletedBy layers path index)
    (unmentioned : mention layer.document path = none) :
    DeletedBy (layers ++ [layer]) path index where
  deleted := deleted.deleted.append
  last := by
    intro later how after mentions
    rcases mentions_append mentions with old | ⟨_, mentioned⟩
    · exact deleted.last later how after old
    · rw [unmentioned] at mentioned
      cases mentioned

end Append

/-- The provenance of one place other than the root. -/
structure SoundAt (layers : List (Layer α)) (path : List Text) : Prop where
  written : ((effectiveOf layers).1.at? path).isSome = true →
    ∃ index origin, (effectiveOf layers).2.get? (pointer path) = some origin ∧
      origin.deleted = false ∧ Names layers index path origin ∧ WrittenBy layers path index
  effective : ∀ origin, (effectiveOf layers).2.get? (pointer path) = some origin →
    origin.deleted = false → ((effectiveOf layers).1.at? path).isSome = true
  deleted : ∀ origin, (effectiveOf layers).2.get? (pointer path) = some origin →
    origin.deleted = true →
      (effectiveOf layers).1.at? path = none ∧
        ∃ index named, Names layers index path named ∧ origin = tombstone named ∧
          DeletedBy layers path index

theorem soundAt_of_last {layers : List (Layer α)} {layer : Layer α}
    (wrote : mention layer.document path = some .container ∨
      mention layer.document path = some .assigned)
    (there : ((effectiveOf (layers ++ [layer])).1.at? path).isSome = true)
    (value : IsValue (effectiveOf (layers ++ [layer])).1 path →
      mention layer.document path = some .assigned)
    (origin : (effectiveOf (layers ++ [layer])).2.get? (pointer path) =
      some (layer.originOf (pointer path))) : SoundAt (layers ++ [layer]) path where
  written _ := ⟨layers.length, _, origin, layer.genuine _, names_last layers layer path,
    writtenBy_last wrote there value⟩
  effective _ _ _ := there
  deleted := by
    intro other found isDeleted
    rw [origin] at found
    cases found
    rw [layer.genuine] at isDeleted
    cases isDeleted

/-- **One more layer keeps the provenance of a place.** -/
theorem SoundAt.append {layers : List (Layer α)} (sound : SoundAt layers path) (inside : path ≠ [])
    (layer : Layer α) : SoundAt (layers ++ [layer]) path := by
  have values := values_append layers layer
  cases outcome_append layers layer inside with
  | assigned mentioned there origin =>
    exact soundAt_of_last (Or.inr mentioned) (values ▸ there) (fun _ => mentioned) origin
  | opened mentioned there origin =>
    exact soundAt_of_last (Or.inl mentioned) (values ▸ there.isSome)
      (fun value => absurd value (values ▸ there).not_isValue) origin
  | widened mentioned was there origin =>
    obtain ⟨index, named, found, genuine, names, written⟩ := sound.written was.isSome
    rw [found, Option.getD_some] at origin
    have still : ((effectiveOf (layers ++ [layer])).1.at? path).isSome = true :=
      values ▸ there.isSome
    refine ⟨fun _ => ⟨index, named, origin, genuine, names.append, written.append still ?_⟩,
      fun _ _ _ => still, ?_⟩
    · intro value
      exact absurd value (values ▸ there).not_isValue
    · intro other isOrigin isDeleted
      rw [origin] at isOrigin
      cases isOrigin
      rw [genuine] at isDeleted
      cases isDeleted
  | deleted mentioned absent origin =>
    have none : (effectiveOf (layers ++ [layer])).1.at? path = none := values ▸ absent
    refine ⟨fun some => ?_, ?_, ?_⟩
    · rw [none] at some
      cases some
    · intro other found genuine
      rw [origin] at found
      cases found
      cases genuine
    · intro other found _
      rw [origin] at found
      cases found
      exact ⟨none, layers.length, _, names_last layers layer path, rfl,
        ⟨mentions_last mentioned, fun _ _ after => not_mentions_after after⟩⟩
  | gone mentioned absent origin =>
    have none : (effectiveOf (layers ++ [layer])).1.at? path = none := values ▸ absent
    refine ⟨fun some => ?_, ?_, ?_⟩
    · rw [none] at some
      cases some
    · intro other found _
      rw [origin] at found
      cases found
    · intro other found _
      rw [origin] at found
      cases found
  | kept mentioned same through origin =>
    rw [← values] at same through
    refine ⟨?_, ?_, ?_⟩
    · intro there
      have was : ((effectiveOf layers).1.at? path).isSome = true := same ▸ there
      obtain ⟨index, named, found, genuine, names, written⟩ := sound.written was
      refine ⟨index, named, origin.trans found, genuine, names.append, written.append there ?_⟩
      rintro ⟨node, here, value⟩
      rw [same] at here
      rw [through] at value
      exact ⟨⟨node, here, value⟩, mentioned⟩
    · intro other found genuine
      rw [same]
      exact sound.effective other (origin.symm.trans found) genuine
    · intro other found isDeleted
      obtain ⟨absent, index, named, names, isTombstone, deleted⟩ :=
        sound.deleted other (origin.symm.trans found) isDeleted
      exact ⟨same.trans absent, index, named, names.append, isTombstone, deleted.append mentioned⟩

/-- **The provenance of every place.** -/
theorem soundAt (layers : List (Layer α)) (inside : path ≠ []) : SoundAt layers path := by
  induction layers using List.reverseRecOn with
  | nil =>
    refine ⟨?_, ?_, ?_⟩
    · intro there
      cases path with
      | nil => exact absurd rfl inside
      | cons name rest => cases there
    · intro origin found
      cases found
    · intro origin found
      cases found
  | append_singleton layers layer ih => exact ih.append inside layer

theorem root_genuine (layers : List (Layer α)) {origin : Origin}
    (found : (effectiveOf layers).2.get? (pointer []) = some origin) : origin.deleted = false := by
  induction layers using List.reverseRecOn generalizing origin with
  | nil => cases found
  | append_singleton layers layer ih =>
    rw [effectiveOf_append, applyLayer] at found
    obtain ⟨document, originOf, distinct, genuine⟩ := layer
    dsimp only at found
    cases document with
    | map patch =>
      rw [mergePatch] at found
      dsimp only at found
      rw [get?_mergePatchEntries_of_apart _ _ patch
        fun name _ => not_snoc_prefix [] name, if_pos rfl] at found
      split at found
      · exact ih found
      · rw [get?_forget, if_pos prefix_rfl] at found
        cases found
    | _ =>
      rw [mergePatch] at found
      · have recorded := @get?_record_forget _ originOf [] (effectiveOf layers).2 _ distinct []
        rw [append_nil] at recorded
        rw [recorded] at found
        cases found
        exact genuine _
      · simp

theorem onlyPointers_effectiveOf (layers : List (Layer α)) :
    OnlyPointers (effectiveOf layers).2 := by
  have kept : ∀ (effective : Effective α) (layer : Layer α), OnlyPointers effective.2 →
      OnlyPointers (applyLayer effective layer).2 :=
    fun _ _ only => OnlyPointers.mergePatch _ only _
  have initially : OnlyPointers ((.map [], ∅) : Effective α).2 :=
    fun _ member => absurd member not_mem_nil
  exact exec_invariant kept initially layers

/-- **Provenance is sound for every sequence of layers.** -/
theorem provenance_is_sound (layers : List (Layer α)) : SoundProvenance layers where
  values := by
    induction layers using List.reverseRecOn with
    | nil => rfl
    | append_singleton layers layer ih =>
      rw [values_append, ih, foldl_append]
      rfl
  written path inside there := (soundAt layers inside).written there
  effective := by
    intro key origin found genuine
    obtain ⟨path, rfl⟩ :=
      onlyPointers_effectiveOf layers key (OrderedDict.mem_keys_iff.mpr ⟨origin, found⟩)
    refine ⟨path, rfl, ?_⟩
    by_cases root : path = []
    · rw [root]
      rfl
    · exact (soundAt layers root).effective origin found genuine
  deleted := by
    intro key origin found isDeleted
    obtain ⟨path, rfl⟩ :=
      onlyPointers_effectiveOf layers key (OrderedDict.mem_keys_iff.mpr ⟨origin, found⟩)
    by_cases root : path = []
    · rw [root] at found
      rw [root_genuine layers found] at isDeleted
      cases isDeleted
    · exact ⟨path, rfl, (soundAt layers root).deleted origin found isDeleted⟩

/-! ## Resolution -/

def documentLayer (scope : Text) (document : LoadedDocument α) : Layer α where
  document := document.data
  originOf := originOf scope document
  distinct := document.distinct
  genuine _ := rfl

def cliLayer (overrides : Json.Entries α) (distinct : (Json.map overrides).distinct = true) :
    Layer α where
  document := .map overrides
  originOf := cliOrigin
  distinct := distinct
  genuine _ := rfl

def sourceLayers (sources : List (ScopeSource α)) : List (Layer α) :=
  sources.filterMap fun source => source.loaded.join.map (documentLayer source.scope)

/-- The loop over the sources applies the layers of the scopes that are there. -/
theorem resolveSources_eq_ok {validate : Json α → List SchemaError} {collect : Bool}
    {start resolved : ResolvedSettings α} {sources : List (ScopeSource α)}
    (success : resolveSources validate collect start sources = .ok resolved) :
    (resolved.values, resolved.origins) =
      exec applyLayer (start.values, start.origins) (sourceLayers sources) := by
  induction sources generalizing start with
  | nil =>
    cases success
    rfl
  | cons source rest ih =>
    obtain ⟨scope, path, required, loaded⟩ := source
    rw [resolveSources] at success
    match loaded with
    | none =>
      dsimp only at success
      split at success
      · cases success
      · exact ih success
    | some none => cases success
    | some (some document) =>
      dsimp only at success
      split at success
      · cases success
      · exact ih success

/-- **A resolution gives the settings and the origins of its layers.** -/
theorem resolveSettings_layers {validate : Json α → List SchemaError} {collect : Bool}
    {sources : List (ScopeSource α)} {overrides : Json.Entries α} {resolved : ResolvedSettings α}
    (distinct : (Json.map overrides).distinct = true)
    (success : resolveSettings validate collect sources overrides = .ok resolved) :
    (resolved.values, resolved.origins) =
      effectiveOf (sourceLayers sources ++
        if overrides.isEmpty then [] else [cliLayer overrides distinct]) := by
  obtain ⟨found, loaded, success⟩ := bind_eq_ok.mp success
  have fromSources := resolveSources_eq_ok loaded
  have same : (resolved.values, resolved.origins) =
      if overrides.isEmpty then (found.values, found.origins)
      else mergePatch cliOrigin [] found.values found.origins (.map overrides) := by
    dsimp only at success
    generalize (if overrides.isEmpty then (found.values, found.origins)
      else mergePatch cliOrigin [] found.values found.origins (.map overrides)) = merged
      at success ⊢
    split at success
    · split at success
      · cases success
      · cases success
        rfl
    · cases success
      rfl
  rw [same, effectiveOf, exec_append, ← fromSources]
  split <;> rfl

end Audiagentic.Config
