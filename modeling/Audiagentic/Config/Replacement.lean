import Audiagentic.Config.Writer

/-!
# Replacement patches

`replacement_patch` makes a merge patch of two documents, and `replace_at` writes the one that
replaces the mapping at a path.
-/

namespace Audiagentic.Config

open Foundations List Bool Json

mutual
def replacementPatch (old : Value) : Value → Value
  | .map new =>
    if old.isMap then
      .map ((old.entries.filter fun entry => entry.1 ∉ new.map Prod.fst).map (·.1, .null) ++
        replacedEntries old.entries new)
    else .map new
  | new => new

/-- The loop of `replacement_patch` over the new entries. -/
def replacedEntries (old : Json.Entries Scalar) : Json.Entries Scalar → Json.Entries Scalar
  | [] => []
  | (key, value) :: rest =>
    match Json.lookup key old with
    | none => (key, value) :: replacedEntries old rest
    | some value' =>
      if equalValues value' value = false then
        (key, replacementPatch value' value) :: replacedEntries old rest
      else replacedEntries old rest
end

/-- The value that mappings lead to; nothing where a key is absent. -/
def valueAt? : List Text → Value → Option Value
  | [], value => some value
  | part :: path, value => (Json.lookup part value.entries).bind (valueAt? path)

/-- The loop of `replace_at` over the path: `None` where a key is absent. -/
def nodeAt : List Text → Value → Value
  | [], node => node
  | part :: path, node => nodeAt path ((Json.lookup part node.entries).getD .null)

def wrap (path : List Text) (change : Value) : Value :=
  path.foldr (fun part patch => .map [(part, patch)]) change

/-- The patch that `replace_at` writes. -/
def replaceAtPatch (document : Value) (path : List Text) (value : Json.Entries Scalar) : Value :=
  let old := nodeAt path document
  let change :=
    if value.isEmpty then if old.isNull then .map [] else .null
    else replacementPatch (if old.isMap then old else .map []) (.map value)
  if equalValues change (.map []) = false ∨ old.isNull = false then wrap path change else .map []

/-- `replace_at`, when the file does not change between the read and the write. -/
def replaceAt (host : WriterHost) (scope : Text) (target : Target) (path : List Text)
    (value : Json.Entries Scalar) (file : Option ByteArray) (faults : List Fault) :
    Except WriteError WriteResult × Option ByteArray :=
  match checkTarget scope target, readScopeSettings host file with
  | .error error, _ => (.error error, file)
  | .ok (), .error error => (.error (.load error), file)
  | .ok (), .ok document =>
    match replaceAtPatch document path value with
    | .map patch => writeSettingsPatch host scope target patch false file file faults
    -- a patch that is no mapping raises `TypeError`
    | _ => (.error .editorFailed, file)

mutual
def noNulls : Value → Bool
  | .map entries => noNullEntries entries
  | _ => true

def noNullEntries : Json.Entries Scalar → Bool
  | [] => true
  | (_, value) :: rest => !value.isNull && noNulls value && noNullEntries rest
end

theorem noNulls_map {entries : Json.Entries Scalar} : noNulls (.map entries) = true ↔
    ∀ entry ∈ entries, entry.2.isNull = false ∧ noNulls entry.2 = true := by
  rw [noNulls]
  induction entries with
  | nil => simp [noNullEntries]
  | cons entry rest ih =>
    rw [noNullEntries, and_eq_true, and_eq_true, ih, forall_mem_cons, not_eq_true']

variable {old new : Json.Entries Scalar}

theorem lookup_replacedEntries (unique : (new.map Prod.fst).Nodup) (name : Text) :
    Json.lookup name (replacedEntries old new) =
      match Json.lookup name new, Json.lookup name old with
      | none, _ => none
      | some value, none => some value
      | some value, some value' =>
        if equalValues value' value = false then some (replacementPatch value' value)
        else none := by
  induction new with
  | nil => rfl
  | cons entry rest ih =>
    obtain ⟨key, value⟩ := entry
    obtain ⟨fresh, unique⟩ := nodup_cons.mp unique
    have later := ih unique
    rw [replacedEntries]
    by_cases here : key = name
    · subst here
      rw [Json.lookup_eq_none_iff.mpr fresh] at later
      rw [Json.lookup_cons_self]
      cases Json.lookup key old with
      | none => exact Json.lookup_cons_self ..
      | some value' =>
        dsimp only
        split
        · exact Json.lookup_cons_self ..
        · exact later
    · rw [lookup_cons_of_ne here]
      cases Json.lookup key old with
      | none => rw [lookup_cons_of_ne here, later]
      | some value' =>
        dsimp only
        split
        · rw [lookup_cons_of_ne here, later]
        · exact later

theorem keys_replacedEntries (old new : Json.Entries Scalar) :
    ((replacedEntries old new).map Prod.fst).Sublist (new.map Prod.fst) := by
  induction new with
  | nil => exact .slnil
  | cons entry rest ih =>
    rw [replacedEntries]
    split
    · exact ih.cons_cons _
    · split
      · exact ih.cons_cons _
      · exact ih.cons _

theorem lookup_removed (old : Json.Entries Scalar) (name : Text) (kept : Text → Prop)
    [DecidablePred kept] :
    Json.lookup name ((old.filter fun entry => ¬ kept entry.1).map (·.1, (.null : Value))) =
      if kept name then none else (Json.lookup name old).map fun _ => .null := by
  induction old with
  | nil => exact (ite_self none).symm
  | cons entry rest ih =>
    obtain ⟨key, value⟩ := entry
    by_cases keeps : kept key
    · rw [filter_cons_of_neg (by simpa using keeps), ih]
      split
      · rfl
      next other =>
        have different : key ≠ name := fun same => other (same ▸ keeps)
        rw [lookup_cons_of_ne different]
    · rw [filter_cons_of_pos (by simpa using keeps), map_cons, Json.lookup_cons, ih,
        Json.lookup_cons]
      by_cases here : key = name
      · rw [if_pos here, if_pos here, if_neg (here ▸ keeps)]
        rfl
      · rw [if_neg here, if_neg here]

/-- What the patch of two mappings has under a name. -/
theorem lookup_replacement (old : Json.Entries Scalar) (unique : (new.map Prod.fst).Nodup)
    (name : Text) :
    Json.lookup name ((old.filter fun entry => entry.1 ∉ new.map Prod.fst).map (·.1, .null) ++
        replacedEntries old new) =
      match Json.lookup name new, Json.lookup name old with
      | none, none => none
      | none, some _ => some .null
      | some value, none => some value
      | some value, some value' =>
        if equalValues value' value = false then some (replacementPatch value' value)
        else none := by
  have removed := lookup_removed old name (· ∈ new.map Prod.fst)
  rw [Json.lookup, find?_append, Option.map_or]
  change (Json.lookup name _).or (Json.lookup name _) = _
  rw [removed, lookup_replacedEntries unique]
  cases found : Json.lookup name new with
  | none =>
    rw [if_neg (Json.lookup_eq_none_iff.mp found)]
    cases Json.lookup name old with
    | none => rfl
    | some value' => rfl
  | some value =>
    rw [if_pos (List.mem_map.mpr ⟨_, Json.mem_of_lookup found, rfl⟩)]
    cases Json.lookup name old with
    | none => rfl
    | some value' => rfl

theorem nodup_replacement (unique : (old.map Prod.fst).Nodup)
    (uniqueNew : (new.map Prod.fst).Nodup) :
    (((old.filter fun entry => entry.1 ∉ new.map Prod.fst).map (·.1, (.null : Value)) ++
      replacedEntries old new).map Prod.fst).Nodup := by
  have same : ∀ entries : Json.Entries Scalar,
      (entries.map (·.1, (.null : Value))).map Prod.fst = entries.map Prod.fst :=
    fun entries => List.map_map
  rw [map_append, same]
  refine List.Nodup.append (unique.sublist (List.Sublist.map _ filter_sublist))
    (uniqueNew.sublist (keys_replacedEntries old new)) ?_
  intro name gone kept
  obtain ⟨entry, member, rfl⟩ := List.mem_map.mp gone
  have absent := (mem_filter.mp member).2
  exact (by simpa using absent : entry.1 ∉ new.map Prod.fst)
    ((keys_replacedEntries old new).subset kept)

theorem replacementPatch_map (old new : Json.Entries Scalar) :
    replacementPatch (.map old) (.map new) =
      .map ((old.filter fun entry => entry.1 ∉ new.map Prod.fst).map (·.1, .null) ++
        replacedEntries old new) := by
  rw [replacementPatch]
  rfl

theorem replacedEntries_nil (new : Json.Entries Scalar) : replacedEntries [] new = new := by
  induction new with
  | nil => rfl
  | cons entry rest ih => rw [replacedEntries, Json.lookup_nil, ih]

theorem isNull_replacementPatch (old new : Value) :
    (replacementPatch old new).isNull = new.isNull := by
  cases new with
  | map entries =>
    rw [replacementPatch]
    split <;> rfl
  | _ => rw [replacementPatch]; simp

theorem replacementPatch_of_not_map {old : Value} (other : old.isMap = false) (new : Value) :
    replacementPatch old new = new := by
  cases new with
  | map entries => rw [replacementPatch, other]; rfl
  | _ => rw [replacementPatch]; simp

/-- **A replacement patch turns the old value into the new one.** -/
theorem merge_replacementPatch {new : Value} (plain : noNulls new = true)
    (distinct : new.distinct = true) {old : Value} (distinctOld : old.distinct = true) :
    equalValues (old.merge (replacementPatch old new)) new = true := by
  induction new using Json.induction generalizing old with
  | null => rfl
  | scalar | list => exact equalValues_refl distinct
  | map entries ih =>
    obtain ⟨unique, each⟩ := distinct_map.mp distinct
    have below : ∀ {name value}, Json.lookup name entries = some value → value.isNull = false ∧
        ∀ old : Value, old.distinct = true →
          equalValues (old.merge (replacementPatch old value)) value = true := by
      intro name value found
      have member := Json.mem_of_lookup found
      obtain ⟨present, plainValue⟩ := noNulls_map.mp plain _ member
      exact ⟨present, fun _ => ih _ member plainValue (each _ member)⟩
    have mapped : ∀ old : Json.Entries Scalar, (Json.map old).distinct = true →
        equalValues ((Json.map old).merge (replacementPatch (.map old) (.map entries)))
          (.map entries) = true := by
      intro old distinctOld
      obtain ⟨uniqueOld, eachOld⟩ := distinct_map.mp distinctOld
      have uniquePatch := nodup_replacement uniqueOld unique
      have names := lookup_replacement old unique
      rw [replacementPatch_map, merge_map]
      refine sameBy_map (nodup_mergeEntries uniqueOld _) unique ?_ ?_
      · intro name absent
        rw [lookup_mergeEntries uniquePatch, names, absent]
        cases stored : Json.lookup name old with
        | none => exact stored
        | some value' => rfl
      · intro name value found
        obtain ⟨present, same⟩ := below found
        rw [lookup_mergeEntries uniquePatch, names, found]
        cases stored : Json.lookup name old with
        | none =>
          have fresh := same .null rfl
          rw [replacementPatch_of_not_map rfl] at fresh
          refine ⟨_, if_neg (by simp [present]), ?_⟩
          rwa [Json.entries, stored]
        | some value' =>
          dsimp only
          by_cases differs : equalValues value' value = false
          · rw [if_pos differs]
            refine ⟨_, if_neg (by simp [isNull_replacementPatch, present]), ?_⟩
            rw [Json.entries, stored]
            exact same value' (eachOld _ (Json.mem_of_lookup stored))
          · rw [if_neg differs]
            exact ⟨value', stored, (not_eq_false _).mp differs⟩
    cases old with
    | map old => exact mapped old distinctOld
    | _ =>
      have fresh := mapped [] rfl
      rw [replacementPatch_map, filter_nil, map_nil, nil_append, replacedEntries_nil] at fresh
      rw [replacementPatch_of_not_map rfl]
      exact fresh

/-- **A replacement patch of a value by itself changes nothing.** -/
theorem merge_replacementPatch_self {old : Value} (distinct : old.distinct = true) :
    old.merge (replacementPatch old old) = old := by
  cases old with
  | map old =>
    obtain ⟨unique, each⟩ := distinct_map.mp distinct
    have removed : (old.filter fun entry => entry.1 ∉ old.map Prod.fst) = [] := by
      refine filter_eq_nil_iff.mpr fun entry member => ?_
      simpa using ⟨entry.2, member⟩
    have replaced : ∀ rest ⊆ old, replacedEntries old rest = [] := by
      intro rest within
      induction rest with
      | nil => rfl
      | cons entry rest ih =>
        obtain ⟨here, later⟩ := cons_subset.mp within
        rw [replacedEntries, Json.lookup_of_mem unique here]
        dsimp only
        rw [equalValues_refl (each _ here), if_neg (by simp), ih later]
    rw [replacementPatch_map, removed, replaced old (List.Subset.refl old), merge_map,
      map_nil, append_nil, Json.mergeEntries]
    rfl
  | _ => rw [replacementPatch_of_not_map rfl, merge_of_not_map _ rfl]

/-! ## At a path -/

theorem nodeAt_eq (path : List Text) (node : Value) :
    nodeAt path node = (valueAt? path node).getD .null := by
  induction path generalizing node with
  | nil => rfl
  | cons part path ih =>
    rw [nodeAt, valueAt?, ih]
    cases Json.lookup part node.entries with
    | some value => rfl
    | none =>
      cases path with
      | nil => rfl
      | cons next path => rfl

/-- What a patch at one key leaves. -/
theorem lookup_merge_wrap (target change : Value) (part other : Text) (path : List Text) :
    Json.lookup other (target.merge (wrap (part :: path) change)).entries =
      if other = part then
        if (wrap path change).isNull then none
        else some (((Json.lookup part target.entries).getD .null).merge (wrap path change))
      else Json.lookup other target.entries := by
  have unique : (([(part, wrap path change)] : Json.Entries Scalar).map Prod.fst).Nodup :=
    nodup_singleton part
  change Json.lookup other (target.merge (.map [(part, wrap path change)])).entries = _
  rw [merge_map, Json.entries, lookup_mergeEntries unique, Json.lookup_cons]
  by_cases same : other = part
  · rw [if_pos same, if_pos same.symm, same]
  · rw [if_neg same, if_neg (Ne.symm same)]
    rfl

/-- **A patch at a path** is merged into what is there. -/
theorem nodeAt_merge_wrap (path : List Text) (target change : Value) :
    nodeAt path (target.merge (wrap path change)) = (nodeAt path target).merge change := by
  induction path generalizing target with
  | nil => rfl
  | cons part path ih =>
    rw [nodeAt, lookup_merge_wrap, if_pos rfl, nodeAt]
    split
    next deletes =>
      cases path with
      | nil =>
        have none' : change = .null := by
          cases change with
          | null => rfl
          | _ => cases deletes
        rw [none', merge_of_not_map _ rfl]
        rfl
      | cons next path => cases deletes
    next => exact ih _

/-- **A patch at a path leaves what is not above or below it.** -/
theorem valueAt?_merge_wrap {path other : List Text} (notAbove : ¬ other <+: path)
    (notBelow : ¬ path <+: other) (target change : Value) :
    valueAt? other (target.merge (wrap path change)) = valueAt? other target := by
  induction path generalizing other target with
  | nil => exact absurd nil_prefix notBelow
  | cons part path ih =>
    cases other with
    | nil => exact absurd nil_prefix notAbove
    | cons first other =>
      rw [valueAt?, valueAt?, lookup_merge_wrap]
      by_cases same : first = part
      · subst same
        rw [if_pos rfl]
        rw [prefix_cons_inj] at notAbove notBelow
        split
        next deletes =>
          cases path with
          | nil => exact absurd nil_prefix notBelow
          | cons next path => cases deletes
        next =>
          rw [Option.bind_some, ih notAbove notBelow]
          cases Json.lookup first target.entries with
          | some value => rfl
          | none =>
            cases other with
            | nil => exact absurd nil_prefix notAbove
            | cons next other => rfl
      · rw [if_neg same]

/-- What becomes of a document whose mapping at a path is replaced: an empty mapping removes what
is there. -/
structure Replaces (document after : Value) (path : List Text) (value : Json.Entries Scalar) :
    Prop where
  replaced : value ≠ [] → equalValues (nodeAt path after) (.map value) = true
  removed : value = [] → nodeAt path after = .null
  others : ∀ other, ¬ other <+: path → ¬ path <+: other →
    valueAt? other after = valueAt? other document

theorem distinct_nodeAt (path : List Text) {document : Value}
    (distinct : document.distinct = true) :
    (nodeAt path document).distinct = true := by
  induction path generalizing document with
  | nil => exact distinct
  | cons part path ih =>
    refine ih ?_
    cases document with
    | map entries =>
      cases found : Json.lookup part entries with
      | none => rw [Json.entries, found]; rfl
      | some value =>
        rw [Json.entries, found]
        exact (distinct_map.mp distinct).2 _ (Json.mem_of_lookup found)
    | _ => rfl

theorem distinct_wrap {change : Value} (distinct : change.distinct = true) (path : List Text) :
    (wrap path change).distinct = true := by
  induction path with
  | nil => exact distinct
  | cons part path ih =>
    exact distinct_map.mpr ⟨nodup_singleton part, forall_mem_singleton.mpr ih⟩

theorem distinct_replacementPatch {new : Value} (distinct : new.distinct = true) {old : Value}
    (distinctOld : old.distinct = true) : (replacementPatch old new).distinct = true := by
  induction new using Json.induction generalizing old with
  | null | scalar | list =>
    rw [replacementPatch]
    · exact distinct
    · nofun
  | map entries ih =>
    obtain ⟨unique, each⟩ := distinct_map.mp distinct
    cases old with
    | map old =>
      obtain ⟨uniqueOld, eachOld⟩ := distinct_map.mp distinctOld
      have nodup := nodup_replacement uniqueOld unique
      rw [replacementPatch_map]
      refine distinct_map.mpr ⟨nodup, fun entry member => ?_⟩
      have found := lookup_of_mem nodup member
      rw [lookup_replacement old unique] at found
      split at found
      · cases found
      · rw [← Option.some.inj found]
        rfl
      next value here _ =>
        rw [← Option.some.inj found]
        exact each _ (mem_of_lookup here)
      next value value' here there =>
        split at found
        · rw [← Option.some.inj found]
          exact ih _ (mem_of_lookup here) (each _ (mem_of_lookup here))
            (eachOld _ (mem_of_lookup there))
        · cases found
    | _ =>
      rw [replacementPatch_of_not_map rfl]
      exact distinct

/-- **What the patch of `replace_at` does to the document.** -/
theorem replaces_replaceAtPatch {document : Value} (distinct : document.distinct = true)
    (mapped : document.isMap = true) {path : List Text} {value patch : Json.Entries Scalar}
    (plain : noNulls (.map value) = true) (distinctValue : (Json.map value).distinct = true)
    (patched : replaceAtPatch document path value = .map patch) :
    (Json.map patch).distinct = true ∧
      Replaces document (document.merge (.map patch)) path value := by
  have others : ∀ (change : Value) other, ¬ other <+: path → ¬ path <+: other →
      valueAt? other (document.merge (wrap path change)) = valueAt? other document :=
    fun change other notAbove notBelow => valueAt?_merge_wrap notAbove notBelow document change
  have at_ := fun change => nodeAt_merge_wrap path document change
  cases value with
  | nil =>
    cases missing : nodeAt path document with
    | null =>
      have nothing : replaceAtPatch document path [] = .map [] := by
        simp [replaceAtPatch, missing, Json.isNull, equalValues, Json.sameBy, Json.sameEntries]
      cases patched.symm.trans nothing
      have same : document.merge (.map []) = document := by
        cases document with
        | map entries => rw [merge_map, Json.mergeEntries]; rfl
        | _ => cases mapped
      rw [same]
      exact ⟨rfl, absurd rfl, fun _ => missing, fun _ _ _ => rfl⟩
    | _ =>
      have deletes : replaceAtPatch document path [] = wrap path .null := by
        simp [replaceAtPatch, missing, Json.isNull]
      rw [← patched, deletes]
      exact ⟨distinct_wrap rfl path, absurd rfl, fun _ => by rw [at_, merge_of_not_map _ rfl],
        others _⟩
  | cons entry value =>
    obtain ⟨base, based, distinctBase, entries_eq⟩ : ∃ base : Json.Entries Scalar,
        (if (nodeAt path document).isMap then nodeAt path document else .map []) = .map base ∧
          (Json.map base).distinct = true ∧ (nodeAt path document).entries = base := by
      have old := distinct_nodeAt path distinct
      cases stored : nodeAt path document with
      | map base => exact ⟨base, rfl, stored ▸ old, rfl⟩
      | _ => exact ⟨[], rfl, rfl, rfl⟩
    have writes : equalValues (replacementPatch (.map base) (.map (entry :: value))) (.map []) =
        false ∨ (nodeAt path document).isNull = false := by
      cases stored : nodeAt path document with
      | null =>
        rw [stored] at entries_eq
        obtain rfl : [] = base := entries_eq
        rw [replacementPatch_map, replacedEntries_nil]
        exact .inl rfl
      | _ => exact .inr rfl
    have patch_eq : replaceAtPatch document path (entry :: value) =
        wrap path (replacementPatch (.map base) (.map (entry :: value))) := by
      have filled : ¬ (entry :: value).isEmpty = true := by simp
      rw [replaceAtPatch, based, if_neg filled, if_pos writes]
    have law := merge_replacementPatch plain distinctValue distinctBase
    rw [← patched, patch_eq]
    refine ⟨distinct_wrap (distinct_replacementPatch distinctValue distinctBase) path,
      fun _ => ?_, fun empty => absurd empty (cons_ne_nil _ _), others _⟩
    rw [at_, replacementPatch_map, merge_map, entries_eq]
    rwa [replacementPatch_map, merge_map] at law

/-- A file whose mapping at a path was replaced. -/
structure Replaced (document after : Value) (path : List Text) (value : Json.Entries Scalar) :
    Prop where
  replaced : value ≠ [] → equalValues (nodeAt path after) (.map value) = true
  removed : value = [] → nodeAt path after = .null
  others : ∀ other, ¬ other <+: path → ¬ path <+: other →
    Option.Rel (fun first second => identicalValues first second = true) (valueAt? other after)
      (valueAt? other document)

theorem valueAt?_same {equal : Scalar → Scalar → Bool} {first second : Value}
    (distinct : first.distinct = true) (distinct' : second.distinct = true)
    (same : first.sameBy equal second = true) (path : List Text) :
    Option.Rel (fun first second => Json.sameBy equal first second = true) (valueAt? path first)
      (valueAt? path second) := by
  induction path generalizing first second with
  | nil => exact .some same
  | cons part path ih =>
    rw [valueAt?, valueAt?]
    cases first with
    | map entries =>
      cases second <;> try cases same
      next entries' =>
        obtain ⟨unique, each⟩ := distinct_map.mp distinct
        obtain ⟨unique', each'⟩ := distinct_map.mp distinct'
        have here := (sameBy_map_iff unique unique').mp same part
        rw [Json.entries, Json.entries]
        cases found : Json.lookup part entries with
        | none =>
          cases found' : Json.lookup part entries' with
          | none => exact .none
          | some value' => rw [found, found'] at here; exact here.elim
        | some value =>
          cases found' : Json.lookup part entries' with
          | none => rw [found, found'] at here; exact here.elim
          | some value' =>
            rw [found, found'] at here
            exact ih (each _ (mem_of_lookup found)) (each' _ (mem_of_lookup found')) here
    | _ =>
      cases second <;> try cases same
      all_goals exact .none

theorem nodeAt_same {equal : Scalar → Scalar → Bool} {first second : Value}
    (distinct : first.distinct = true) (distinct' : second.distinct = true)
    (same : first.sameBy equal second = true) (path : List Text) :
    (nodeAt path first).sameBy equal (nodeAt path second) = true := by
  have here := valueAt?_same distinct distinct' same path
  rw [nodeAt_eq, nodeAt_eq]
  cases found : valueAt? path first <;> cases found' : valueAt? path second <;>
    rw [found, found'] at here <;> cases here
  · rfl
  · assumption

theorem equal_trans {first second third : Scalar} (same : first.equal second = true)
    (same' : second.equal third = true) : first.equal third = true := by
  unfold Scalar.equal at *
  split at same <;> split at same' <;> split <;> simp_all

/-- What is the same as a document whose mapping was replaced has it replaced, too. -/
theorem Replaces.file {equal : Scalar → Scalar → Bool} {document merged after : Value}
    {path : List Text} {value : Json.Entries Scalar}
    (replaces : Replaces document merged path value)
    (loose : ∀ first second, equal first second = true → first.equal second = true)
    (distinct : after.distinct = true) (distinct' : merged.distinct = true)
    (same : after.sameBy equal merged = true)
    (others : ∀ other, ¬ other <+: path → ¬ path <+: other →
      Option.Rel (fun first second => identicalValues first second = true) (valueAt? other after)
        (valueAt? other merged)) : Replaced document after path value where
  replaced filled := by
    have there : (nodeAt path merged).sameBy Scalar.equal (.map value) = true :=
      replaces.replaced filled
    refine sameBy_trans ?_ (nodeAt_same distinct distinct' same path) there
    exact fun first second third here => equal_trans (loose first second here)
  removed empty := by
    have here := nodeAt_same distinct distinct' same path
    rw [replaces.removed empty] at here
    cases found : nodeAt path after with
    | null => rfl
    | _ => rw [found] at here; cases here
  others other notAbove notBelow := replaces.others other notAbove notBelow ▸
    others other notAbove notBelow

section File

variable {host : WriterHost} {scope : Text} {target : Target} {path : List Text}
  {value : Json.Entries Scalar} {faults : List Fault}

/-- **The file after `replace_at`.** -/
theorem replaceAt_replaces (laws : ParserLaws host) (editor : EditorLaws host)
    (file : AcceptedFile host) (distinctValue : (Json.map value).distinct = true)
    (plain : noNulls (.map value) = true)
    (seen : ¬Overlooked equalValues file.old (replaceAtPatch file.old path value)) :
    match replaceAt host scope target path value (some file.raw) faults with
    | (.error _, after) => after = some file.raw
    | (.ok _, after) => ∃ data, readScopeSettings host after = .ok data ∧
        Replaced file.old data path value := by
  rw [replaceAt, readScopeSettings_accepted laws file]
  cases targeted : checkTarget scope target with
  | error error => rfl
  | ok accepted =>
  dsimp only
  obtain ⟨mapped, distinct⟩ := isMap_and_distinct_of_loaded file.loaded
  cases patched : replaceAtPatch file.old path value with
  | null | scalar | list => rfl
  | map patch =>
  obtain ⟨distinctPatch, replaces⟩ :=
    replaces_replaceAtPatch distinct mapped plain distinctValue patched
  have distinctMerged := distinct_merge distinctPatch distinct
  rw [patched] at seen
  dsimp only
  rw [writeSettingsPatch]
  cases proposed : propose host scope target patch (some file.raw) with
  | error error => rfl
  | ok proposal =>
  have allowed : checkSections host scope patch = .ok () := by
    by_contra refused
    obtain ⟨error, failed⟩ : ∃ error, propose host scope target patch (some file.raw) =
        .error error := propose_not_accepted fun both => refused both.2
    rw [proposed] at failed
    cases failed
  rw [propose_accepted file targeted allowed] at proposed
  split at proposed
  next none =>
    cases proposed
    have kept : keeps equalValues false file.old (.map patch) = true := by
      by_contra changed
      refine seen ⟨?_, by simpa using changed⟩
      exact (changedKeys_merge distinctPatch rfl distinct).mp (List.isEmpty_iff.mp none)
    have same := (sameBy_merge equal_self distinctPatch distinct).mpr kept
    refine ⟨file.old, readScopeSettings_accepted laws file, ?_⟩
    refine replaces.file (fun _ _ equal => equal) distinct distinctMerged same ?_
    intro other notAbove notBelow
    rw [replaces.others other notAbove notBelow]
    exact valueAt?_same distinct distinct
      (sameBy_refl (fun _ => beq_self_eq_true _) _ distinct) other
  next =>
    obtain ⟨text, candidate, edited, loaded, same, valid, rfl⟩ := verified_eq_ok proposed
    dsimp only
    rw [if_neg Bool.false_ne_true, if_neg (by simp)]
    split_ifs
    · rfl
    · rfl
    have identical := identical_of_edited editor file edited loaded same
    have distinctCandidate := (isMap_and_distinct_of_loaded loaded).2
    refine ⟨candidate, readScopeSettings_encode laws loaded valid, ?_⟩
    refine replaces.file ?_ distinctCandidate distinctMerged identical ?_
    · intro first second here
      rw [beq_iff_eq.mp here]
      exact equal_self second
    · exact fun other _ _ => valueAt?_same distinctCandidate distinctMerged identical other

end File

end Audiagentic.Config
