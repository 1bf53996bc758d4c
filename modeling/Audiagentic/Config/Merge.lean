import Audiagentic.Foundations.JsonTrees
import Audiagentic.Foundations.Runs

/-!
# Merging settings with provenance

`mergePatch` applies a document to the settings and keeps, for the pointer of every effective
value, the origin that set it.  `resolveSettings` folds the present scopes, lowest precedence
first, and then the overrides of the command line.

The schema validator is not part of the repository: it is a function from documents to the
places and messages of its errors.  An index is a segment of a path in its decimal digits.
-/

namespace Audiagentic.Config

open Foundations JsonPointer

universe u

variable {α : Type u}

/-! ## Documents and origins -/

/-- Where a value starts in a file. -/
structure Position where
  line : Nat
  column : Nat

structure LoadedDocument (α : Type u) where
  path : Text
  data : Json α
  positions : OrderedDict Text Position
  distinct : data.distinct = true

structure Origin where
  scope : Text
  file : Option Text
  line : Option Nat
  column : Option Nat
  deleted : Bool

abbrev Origins := OrderedDict Text Origin

def tombstone (origin : Origin) : Origin := { origin with deleted := true }

/-- `_forget`: drop the origins of a pointer and of those below it. -/
def forget (origins : Origins) (pointer : Text) : Origins where
  entries := origins.entries.filter fun entry => !under pointer entry.1
  nodup := origins.nodup.sublist (List.Sublist.map Prod.fst List.filter_sublist)

/-- `origins.setdefault(pointer, origin)`. -/
def setDefault (origins : Origins) (pointer : Text) (origin : Origin) : Origins :=
  if origins.has pointer then origins else origins.set pointer origin

mutual
/-- `_record`: a value and everything in it have the origin of their pointers. -/
def record (originOf : Text → Origin) (parts : List Text) (origins : Origins) :
    Json α → Origins
  | .map entries =>
    recordEntries originOf parts
      (origins.set (pointer parts) (originOf (pointer parts))) entries
  | .list items =>
    recordItems originOf parts 0
      (origins.set (pointer parts) (originOf (pointer parts))) items
  | .null => origins.set (pointer parts) (originOf (pointer parts))
  | .scalar _ => origins.set (pointer parts) (originOf (pointer parts))

def recordEntries (originOf : Text → Origin) (parts : List Text) (origins : Origins) :
    Json.Entries α → Origins
  | [] => origins
  | (name, child) :: rest =>
    recordEntries originOf parts (record originOf (parts ++ [name]) origins child) rest

def recordItems (originOf : Text → Origin) (parts : List Text) (index : Nat)
    (origins : Origins) : List (Json α) → Origins
  | [] => origins
  | child :: rest =>
    recordItems originOf parts (index + 1)
      (record originOf (parts ++ [indexText index]) origins child) rest
end

mutual
/-- `merge_patch`: the merged value, and the origins as the call leaves them. -/
def mergePatch (originOf : Text → Origin) (parts : List Text) (target : Json α)
    (origins : Origins) : Json α → Json α × Origins
  | .map patch =>
    let kept := if target.isMap then origins else forget origins (pointer parts)
    let started :=
      if parts = [] then kept
      else setDefault kept (pointer parts) (originOf (pointer parts))
    let merged := mergePatchEntries originOf parts target.entries started patch
    (.map merged.1, merged.2)
  | patch => (patch, record originOf parts (forget origins (pointer parts)) patch)

/-- The loop of `merge_patch` over the entries of a patch. -/
def mergePatchEntries (originOf : Text → Origin) (parts : List Text)
    (result : Json.Entries α) (origins : Origins) : Json.Entries α → Json.Entries α × Origins
  | [] => (result, origins)
  | (name, value) :: rest =>
    let child := pointer (parts ++ [name])
    if value.isNull then
      mergePatchEntries originOf parts (Json.remove name result)
        ((forget origins child).set child (tombstone (originOf child))) rest
    else
      let merged := mergePatch originOf (parts ++ [name])
        ((Json.lookup name result).getD .null) origins value
      mergePatchEntries originOf parts (OrderedDict.setEntries name merged.1 result)
        merged.2 rest
end

mutual
/-- `without_nulls`: a fragment without its deletion markers. -/
def withoutNulls : Json α → Json α
  | .map entries => .map (withoutNullEntries entries)
  | .list items => .list (withoutNullItems items)
  | value => value

def withoutNullEntries : Json.Entries α → Json.Entries α
  | [] => []
  | (name, child) :: rest =>
    if child.isNull then withoutNullEntries rest
    else (name, withoutNulls child) :: withoutNullEntries rest

def withoutNullItems : List (Json α) → List (Json α)
  | [] => []
  | child :: rest => withoutNulls child :: withoutNullItems rest
end

/-! ## Layers -/

/-- A document to merge and the origin it gives to a pointer.  No mapping holds a key twice,
and no layer calls what it sets deleted. -/
structure Layer (α : Type u) where
  document : Json α
  originOf : Text → Origin
  distinct : document.distinct = true
  genuine : ∀ pointer, (originOf pointer).deleted = false

abbrev Effective (α : Type u) := Json α × Origins

def applyLayer (effective : Effective α) (layer : Layer α) : Effective α :=
  mergePatch layer.originOf [] effective.1 effective.2 layer.document

def effectiveOf (layers : List (Layer α)) : Effective α :=
  exec applyLayer (.map [], ∅) layers

/-! ## Resolution -/

structure SchemaError where
  path : List Text
  message : Text
deriving DecidableEq

structure SettingsIssue where
  file : Option Text
  line : Option Nat
  column : Option Nat
  pointer : Text
  message : Text
deriving DecidableEq

inductive SettingsError where
  | missing (scope path : Text)
  | unreadable (path : Text)
  | invalid (issues : List SettingsIssue)
deriving DecidableEq

def nearestPosition (positions : OrderedDict Text Position) (path : List Text) :
    Option Position :=
  path.inits.reverse.findSome? fun lookup => positions.get? (pointer lookup)

def SettingsIssue.before (first second : SettingsIssue) : Bool :=
  let place (issue : SettingsIssue) := (issue.line.getD 0, issue.column.getD 0)
  if (place first).1 ≠ (place second).1 then (place first).1 < (place second).1
  else if (place first).2 ≠ (place second).2 then (place first).2 < (place second).2
  else first.pointer.map Char.toNat ≤ second.pointer.map Char.toNat

/-- `_issues`. -/
def issuesOf (validate : Json α → List SchemaError) (instance' : Json α) (file : Option Text)
    (positions : OrderedDict Text Position) : List SettingsIssue :=
  ((validate instance').map fun error =>
    let position := nearestPosition positions error.path
    ⟨file, position.map Position.line, position.map Position.column, pointer error.path,
      error.message⟩).mergeSort SettingsIssue.before

structure ScopeSource (α : Type u) where
  scope : Text
  path : Text
  required : Bool
  loaded : Option (Option (LoadedDocument α))

def originOf (scope : Text) (document : LoadedDocument α) (pointer : Text) : Origin :=
  let position := document.positions.get? pointer
  ⟨scope, some document.path, position.map Position.line, position.map Position.column, false⟩

def cliOrigin (_pointer : Text) : Origin := ⟨"cli".toList, none, none, none, false⟩

structure ResolvedSettings (α : Type u) where
  values : Json α
  origins : Origins
  issues : List SettingsIssue

/-- The loop of `resolve_settings` over the sources. -/
def resolveSources (validate : Json α → List SchemaError) (collect : Bool) :
    ResolvedSettings α → List (ScopeSource α) → Except SettingsError (ResolvedSettings α)
  | resolved, [] => .ok resolved
  | resolved, source :: rest =>
    match source.loaded with
    | none =>
      if source.required then .error (.missing source.scope source.path)
      else resolveSources validate collect resolved rest
    | some none => .error (.unreadable source.path)
    | some (some document) =>
      let issues := issuesOf validate (withoutNulls document.data) (some source.path)
        document.positions
      if !issues.isEmpty && !collect then .error (.invalid issues)
      else
        let merged := mergePatch (originOf source.scope document) [] resolved.values
          resolved.origins document.data
        resolveSources validate collect
          ⟨merged.1, merged.2, resolved.issues ++ issues⟩ rest

def located (origins : Origins) (issue : SettingsIssue) : SettingsIssue :=
  match origins.get? issue.pointer with
  | some origin => ⟨origin.file, origin.line, origin.column, issue.pointer, issue.message⟩
  | none => issue

/-- `resolve_settings`, with the sources and the overrides found. -/
def resolveSettings (validate : Json α → List SchemaError) (collect : Bool)
    (sources : List (ScopeSource α)) (overrides : Json.Entries α) :
    Except SettingsError (ResolvedSettings α) := do
  let resolved ← resolveSources validate collect ⟨.map [], ∅, []⟩ sources
  let merged :=
    if overrides.isEmpty then (resolved.values, resolved.origins)
    else mergePatch cliOrigin [] resolved.values resolved.origins (.map overrides)
  if resolved.issues.isEmpty then
    let issues := (issuesOf validate merged.1 none ∅).map (located merged.2)
    if !issues.isEmpty && !collect then .error (.invalid issues)
    else .ok ⟨merged.1, merged.2, issues⟩
  else .ok ⟨merged.1, merged.2, resolved.issues⟩

end Audiagentic.Config
