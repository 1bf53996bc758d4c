import Audiagentic.Foundations.Checks
import Audiagentic.Foundations.JsonTrees
import Audiagentic.Foundations.Runs

/-!
# Patches of configuration documents

A patch sets or removes one key of a document, and returns a change that says what stood there.
Setting makes a mapping of whatever is in the way; removing drops the mappings that it leaves
empty.  A change remembers the value at the key, and nothing of what is above it.

Two documents are the same when the same values stand at the same paths, in any order of keys.
-/

namespace Audiagentic.Toolchains

open Foundations Json Option

variable {α : Type}

/-! ## Documents -/

/-- The mapping under a node; a node that is none is passed over for an empty one. -/
def tableOf (node : Option (Json α)) : Entries α := (node.map Json.entries).getD []

@[simp] theorem tableOf_map (table : Entries α) : tableOf (some (.map table)) = table := rfl

/-- The table with this child under the key, or without the key. -/
def writeChild (key : Text) (child : Option (Json α)) (table : Entries α) : Entries α :=
  match child with
  | some value => OrderedDict.setEntries key value table
  | none => remove key table

def valueAt : List Text → Option (Json α) → Option (Json α)
  | [], node => node
  | key :: rest, node => valueAt rest (lookup key (tableOf node))

def setNode (value : Json α) : List Text → Option (Json α) → Json α
  | [], _ => value
  | key :: rest, node =>
    .map (writeChild key (some (setNode value rest (lookup key (tableOf node)))) (tableOf node))

/-- Without what stands at the path, and without a mapping that this leaves empty. -/
def removeNode : List Text → Option (Json α) → Option (Json α)
  | [], _ => none
  | key :: rest, node =>
    let table := writeChild key (removeNode rest (lookup key (tableOf node))) (tableOf node)
    if table.isEmpty then none else some (.map table)

/-! ## Patches -/

inductive PatchOperation where
  | set
  | remove

/-- `OwnedChange`; a prior value of `none` is `UNSET`, where the key did not exist. -/
structure OwnedChange (α : Type) where
  keyPath : List Text
  operation : PatchOperation
  priorValue : Option (Json α)

inductive PatchError where
  | emptyKeyPath

/-- `set_key`: what it returns, and the document that it writes. -/
def setKey (keyPath : List Text) (value : Json α) (data : Entries α) :
    Except PatchError (OwnedChange α × Entries α) :=
  match keyPath with
  | [] => .error .emptyKeyPath
  | key :: rest =>
    .ok (⟨keyPath, .set, valueAt rest (lookup key data)⟩,
      writeChild key (some (setNode value rest (lookup key data))) data)

/-- `remove_key`.  The document itself stays when it is left empty. -/
def removeKey (keyPath : List Text) (data : Entries α) :
    Except PatchError (OwnedChange α × Entries α) :=
  match keyPath with
  | [] => .error .emptyKeyPath
  | key :: rest =>
    let prior := valueAt rest (lookup key data)
    .ok (⟨keyPath, .remove, prior⟩,
      if prior.isSome then writeChild key (removeNode rest (lookup key data)) data else data)

/-- What a call leaves of the document; a call that raises leaves it. -/
def written (data : Entries α) (result : Except PatchError (OwnedChange α × Entries α)) :
    Entries α :=
  match result with
  | .ok (_, after) => after
  | .error _ => data

def revert (change : OwnedChange α) (data : Entries α) : Entries α :=
  match change.operation, change.priorValue with
  | _, some prior => written data (setKey change.keyPath prior data)
  | .set, none => written data (removeKey change.keyPath data)
  | .remove, none => data

theorem revert_some (key : Text) (rest : List Text) (operation : PatchOperation) (prior : Json α)
    (data : Entries α) : revert ⟨key :: rest, operation, some prior⟩ data =
      writeChild key (some (setNode prior rest (lookup key data))) data := by
  cases operation <;> rfl

inductive Patch (α : Type) where
  | set (keyPath : List Text) (value : Json α)
  | remove (keyPath : List Text)

def Patch.apply : Patch α → Entries α → Except PatchError (OwnedChange α × Entries α)
  | .set keyPath value => setKey keyPath value
  | .remove keyPath => removeKey keyPath

/-- The changes of the patches, first to last, and the document after the last one. -/
def applyAll : List (Patch α) → Entries α → Except PatchError (List (OwnedChange α) × Entries α)
  | [], data => .ok ([], data)
  | patch :: rest, data => do
    let (change, after) ← patch.apply data
    let (changes, final) ← applyAll rest after
    .ok (change :: changes, final)

/-- The last change is reverted first. -/
def revertAll (changes : List (OwnedChange α)) (data : Entries α) : Entries α :=
  changes.foldr revert data

/-! ## The same document -/

/-- What `==` sees at a path: nothing, a mapping, or a value that is none. -/
def standing : List Text → Json α → Option (Option (Json α))
  | [], .map _ => some none
  | [], value => some (some value)
  | key :: rest, .map entries => (lookup key entries).bind (standing rest)
  | _ :: _, _ => none

def Alike (first second : Option (Json α)) : Prop :=
  ∀ path, first.bind (standing path) = second.bind (standing path)

/-- The documents are equal. -/
def SameDocument (first second : Entries α) : Prop :=
  ∀ key, Alike (lookup key first) (lookup key second)

/-- What is not there is alike to nothing else. -/
theorem alike_none_iff {node : Option (Json α)} : Alike none node ↔ node = none := by
  constructor
  · intro alike
    cases node with
    | none => rfl
    | some value =>
      have here := alike []
      cases value <;> cases here
  · rintro rfl _
    rfl

theorem alike_map_iff {first second : Entries α} :
    Alike (some (.map first)) (some (.map second)) ↔ SameDocument first second := by
  constructor
  · exact fun alike key path => alike (key :: path)
  intro same path
  cases path with
  | nil => rfl
  | cons key rest => exact same key rest

theorem SameDocument.nil_iff {first second : Entries α} (same : SameDocument first second) :
    first = [] ↔ second = [] := by
  have nil_iff : ∀ table : Entries α, table = [] ↔ ∀ key, lookup key table = none := by
    intro table
    constructor
    · rintro rfl _
      rfl
    intro nothing
    rw [List.eq_nil_iff_forall_not_mem]
    exact fun entry listed =>
      lookup_eq_none_iff.mp (nothing entry.1) (List.mem_map_of_mem listed)
  rw [nil_iff, nil_iff]
  refine forall_congr' fun key => ⟨fun absent => ?_, fun absent => ?_⟩
  · have alike := same key
    rwa [absent, alike_none_iff] at alike
  · have alike : Alike none (lookup key first) := fun path => by
      rw [same key path, absent]
    rwa [alike_none_iff] at alike

theorem Alike.tables {first second : Option (Json α)} (alike : Alike first second) :
    SameDocument (tableOf first) (tableOf second) := by
  intro key path
  have below : ∀ node : Option (Json α),
      (lookup key (tableOf node)).bind (standing path) = node.bind (standing (key :: path)) := by
    rintro (_ | _ | _ | _ | _) <;> rfl
  rw [below, below]
  exact alike (key :: path)

@[simp] theorem lookup_writeChild (key other : Text) (child : Option (Json α)) (table : Entries α) :
    lookup other (writeChild key child table) =
      if other = key then child else lookup other table := by
  cases child with
  | some value => exact lookup_set key other value table
  | none => exact lookup_remove key other table

theorem SameDocument.writeChild {first second : Entries α} (same : SameDocument first second)
    (key : Text) {child other : Option (Json α)} (alike : Alike child other) :
    SameDocument (writeChild key child first) (writeChild key other second) := by
  intro name
  rw [lookup_writeChild, lookup_writeChild]
  split
  · exact alike
  · exact same name

/-- What is written last under a key decides whether the table is as it was. -/
theorem sameDocument_rewritten_iff (first : Option (Json α)) {key : Text} {last : Option (Json α)}
    {table : Entries α} :
    SameDocument (writeChild key last (writeChild key first table)) table ↔
      Alike last (lookup key table) := by
  constructor
  · intro same
    have here := same key
    rwa [lookup_writeChild, if_pos rfl] at here
  intro alike name
  rw [lookup_writeChild, lookup_writeChild]
  split
  · rename_i same
    rw [same]
    exact alike
  · exact fun _ => rfl

theorem valueAt_none (path : List Text) : valueAt path (none : Option (Json α)) = none := by
  induction path with
  | nil => rfl
  | cons _ _ ih => exact ih

/-- A value below a node makes the node a mapping. -/
theorem map_of_valueAt {key : Text} {rest : List Text} {node : Option (Json α)} {value : Json α}
    (found : valueAt (key :: rest) node = some value) : ∃ table, node = some (.map table) := by
  have nothing : valueAt rest (none : Option (Json α)) ≠ some value := by
    rw [valueAt_none]
    exact (some_ne_none value).symm
  rcases node with _ | _ | _ | _ | table
  · exact absurd found nothing
  · exact absurd found nothing
  · exact absurd found nothing
  · exact absurd found nothing
  · exact ⟨table, rfl⟩

/-! ## Reverting one change -/

/-- Setting back the value that stood at a path, after it was set to another one. -/
theorem setNode_setNode {path : List Text} {node : Option (Json α)} {prior : Json α}
    (value : Json α) (found : valueAt path node = some prior) :
    Alike (some (setNode prior path (some (setNode value path node)))) node := by
  induction path generalizing node with
  | nil =>
    rw [show node = some prior from found]
    exact fun _ => rfl
  | cons key rest ih =>
    obtain ⟨table, rfl⟩ := map_of_valueAt found
    rw [setNode, setNode, tableOf_map, tableOf_map, lookup_writeChild, if_pos rfl, alike_map_iff,
      sameDocument_rewritten_iff]
    exact ih found

/-- Setting back the value that stood at a path, after it was removed. -/
theorem setNode_removeNode {path : List Text} {node : Option (Json α)} {prior : Json α}
    (found : valueAt path node = some prior) :
    Alike (some (setNode prior path (removeNode path node))) node := by
  induction path generalizing node with
  | nil =>
    rw [show node = some prior from found]
    exact fun _ => rfl
  | cons key rest ih =>
    obtain ⟨table, rfl⟩ := map_of_valueAt found
    have left : tableOf (removeNode (key :: rest) (some (.map table))) =
        writeChild key (removeNode rest (lookup key table)) table := by
      rw [removeNode]
      split
      · rename_i empty
        exact (List.isEmpty_iff.mp empty).symm
      · rfl
    rw [setNode, left, lookup_writeChild, if_pos rfl, alike_map_iff, sameDocument_rewritten_iff]
    exact ih found

/-- The path leaves the node at a key that is absent, and what it passes on the way are mappings
that are not empty. -/
def Leaves : List Text → Option (Json α) → Prop
  | _, none => True
  | key :: rest, some (.map table) => table ≠ [] ∧ Leaves rest (lookup key table)
  | _, _ => False

theorem leaves_none (path : List Text) : Leaves path (none : Option (Json α)) := by
  cases path <;> trivial

/-- Removing what was set where nothing stood. -/
theorem removeNode_setNode_iff {path : List Text} {node : Option (Json α)} (value : Json α)
    (absent : valueAt path node = none) :
    Alike (removeNode path (some (setNode value path node))) node ↔ Leaves path node := by
  induction path generalizing node with
  | nil =>
    rw [show node = none from absent]
    exact iff_of_true (fun _ => rfl) trivial
  | cons key rest ih =>
    have below := ih absent
    rw [setNode, removeNode, tableOf_map, lookup_writeChild, if_pos rfl]
    generalize setNode value rest (lookup key (tableOf node)) = made at below ⊢
    rw [← sameDocument_rewritten_iff (some made)] at below
    generalize writeChild key _ (writeChild key (some made) (tableOf node)) = left at below ⊢
    have emptied : tableOf node = [] → left = [] := by
      intro nothing
      rw [nothing] at below
      exact (below.mpr (leaves_none rest)).nil_iff.mpr rfl
    cases node with
    | none =>
      rw [emptied rfl]
      exact iff_of_true (fun _ => rfl) trivial
    | some value =>
      cases value with
      | map table =>
        change _ ↔ table ≠ [] ∧ Leaves rest (lookup key table)
        rw [tableOf_map] at below
        split
        · rename_i empty
          rw [alike_none_iff]
          refine iff_of_false (some_ne_none _) fun leaves => leaves.1 ?_
          exact (below.mpr leaves.2).nil_iff.mp (List.isEmpty_iff.mp empty)
        · rename_i full
          rw [alike_map_iff, ← below]
          refine (and_iff_right_of_imp fun same nothing => full ?_).symm
          exact List.isEmpty_iff.mpr (same.nil_iff.mpr nothing)
      | _ =>
        rw [emptied rfl]
        exact iff_of_false (fun alike => nomatch alike_none_iff.mp alike) id

theorem valueAt_setNode (path : List Text) (value : Json α) (node : Option (Json α)) :
    valueAt path (some (setNode value path node)) = some value := by
  induction path generalizing node with
  | nil => rfl
  | cons key rest ih =>
    rw [setNode, valueAt, tableOf_map, lookup_writeChild, if_pos rfl]
    exact ih _

/-- What the change of the patch remembers is enough to undo it: there is a value at the key, or
the path leaves the document at an absent key without passing a mapping that is empty or a value
that is none. -/
def Patch.Reversible (data : Entries α) : Patch α → Prop
  | .set (key :: rest) _ => (valueAt rest (lookup key data)).isSome ∨ Leaves rest (lookup key data)
  | _ => True

/-- **Reverting one change.** -/
theorem revert_iff {patch : Patch α} {data after : Entries α} {change : OwnedChange α}
    (applied : patch.apply data = .ok (change, after)) :
    SameDocument (revert change after) data ↔ patch.Reversible data := by
  rcases patch with ⟨_ | ⟨key, rest⟩, value⟩ | ⟨_ | ⟨key, rest⟩⟩
  · cases applied
  · cases applied
    rw [Patch.Reversible]
    cases found : valueAt rest (lookup key data) with
    | some prior =>
      refine iff_of_true ?_ (.inl rfl)
      rw [revert_some, sameDocument_rewritten_iff, lookup_writeChild, if_pos rfl]
      exact setNode_setNode value found
    | none =>
      rw [← removeNode_setNode_iff value found]
      change SameDocument (ite _ (writeChild key _ (writeChild key _ data)) _) data ↔ _
      rw [lookup_writeChild, if_pos rfl, valueAt_setNode, isSome_some, if_pos rfl,
        sameDocument_rewritten_iff]
      exact (or_iff_right Bool.false_ne_true).symm
  · cases applied
  · cases applied
    refine iff_of_true ?_ trivial
    cases found : valueAt rest (lookup key data) with
    | some prior =>
      rw [revert_some, isSome_some, if_pos rfl, sameDocument_rewritten_iff, lookup_writeChild,
        if_pos rfl]
      exact setNode_removeNode found
    | none => exact fun _ _ => rfl

/-! ## Reverting a sequence -/

theorem Alike.isSome_eq {first second : Option (Json α)} (alike : Alike first second) :
    first.isSome = second.isSome := by
  have here := alike []
  rcases first with _ | _ | _ | _ | _ <;> rcases second with _ | _ | _ | _ | _ <;> first
    | rfl
    | cases here

section Alike

variable {first second : Option (Json α)} (alike : Alike first second)
include alike

theorem Alike.valueAt (path : List Text) : Alike (valueAt path first) (valueAt path second) := by
  induction path generalizing first second with
  | nil => exact alike
  | cons key rest ih => exact ih (alike.tables key)

theorem Alike.setNode (value : Json α) (path : List Text) :
    Alike (some (setNode value path first)) (some (setNode value path second)) := by
  induction path generalizing first second with
  | nil => exact fun _ => rfl
  | cons key rest ih =>
    exact alike_map_iff.mpr (alike.tables.writeChild key (ih (alike.tables key)))

theorem Alike.removeNode (path : List Text) :
    Alike (removeNode path first) (removeNode path second) := by
  induction path generalizing first second with
  | nil => exact fun _ => rfl
  | cons key rest ih =>
    have same := alike.tables.writeChild key (ih (alike.tables key))
    rw [Toolchains.removeNode, Toolchains.removeNode]
    simp only [List.isEmpty_iff]
    rw [if_congr same.nil_iff rfl rfl]
    split
    · exact fun _ => rfl
    · exact alike_map_iff.mpr same

end Alike

/-- A change is reverted in the same way in documents that are the same. -/
theorem SameDocument.revert {first second : Entries α} (same : SameDocument first second)
    (change : OwnedChange α) : SameDocument (revert change first) (revert change second) := by
  obtain ⟨_ | ⟨key, rest⟩, operation, prior⟩ := change
  · cases operation <;> cases prior <;> exact same
  cases prior with
  | some prior => cases operation <;> exact same.writeChild key ((same key).setNode prior rest)
  | none =>
    cases operation with
    | remove => exact same
    | set =>
      change SameDocument (ite _ _ _) (ite _ _ _)
      rw [((same key).valueAt rest).isSome_eq]
      split
      · exact same.writeChild key ((same key).removeNode rest)
      · exact same

def patchStep (data : Entries α) (patch : Patch α) : Entries α := written data (patch.apply data)

/-- **Reverting the changes of a sequence of reversible patches.** -/
theorem revertAll_same {patches : List (Patch α)} {data final : Entries α}
    {changes : List (OwnedChange α)} (applied : applyAll patches data = .ok (changes, final))
    (run : Admissible patchStep (fun data patch => patch.Reversible data) data patches) :
    SameDocument (revertAll changes final) data := by
  induction patches generalizing data changes with
  | nil =>
    cases applied
    exact fun _ _ => rfl
  | cons patch rest ih =>
    obtain ⟨⟨change, after⟩, here, applied⟩ := bind_eq_ok.mp applied
    obtain ⟨⟨changes, _⟩, later, same⟩ := bind_eq_ok.mp applied
    cases same
    have stepped : patchStep data patch = after := by rw [patchStep, here]; rfl
    have below := ih later (stepped ▸ run.2)
    have reverted := (revert_iff here).mpr run.1
    intro name path
    exact (below.revert change name path).trans (reverted name path)

/-- **The undoing of changes, exactly.** -/
theorem reverts_exactly :
    (∀ (patch : Patch α) (data after : Entries α) (change : OwnedChange α),
      patch.apply data = .ok (change, after) →
        (SameDocument (revert change after) data ↔ patch.Reversible data)) ∧
    ∀ (patches : List (Patch α)) (data final : Entries α) (changes : List (OwnedChange α)),
      applyAll patches data = .ok (changes, final) →
        Admissible patchStep (fun data patch => patch.Reversible data) data patches →
          SameDocument (revertAll changes final) data :=
  ⟨fun _ _ _ _ => revert_iff, fun _ _ _ _ => revertAll_same⟩

/-- An empty mapping that a key was set in is gone after the key was removed. -/
theorem empty_mapping_is_lost : ¬∀ (patch : Patch ℕ) (data after : Entries ℕ)
    (change : OwnedChange ℕ), patch.apply data = .ok (change, after) →
      SameDocument (revert change after) data := by
  intro restores
  have same := restores (.set ["servers".toList, "local".toList] (.scalar 1))
    [("servers".toList, .map [])] _ _ rfl "servers".toList
  exact nomatch alike_none_iff.mp same

end Audiagentic.Toolchains
