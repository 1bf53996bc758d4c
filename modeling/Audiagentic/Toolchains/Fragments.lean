import Audiagentic.Foundations.CrashTriples
import Audiagentic.Foundations.PythonValues

/-!
# Managed fragments

`reconcile_fragments` brings named entries of a user's document to what is desired, under a registry
that says which names are owned, by scope and managed id.  `ManagedFragmentRegistry` keeps that
registry in a file of its own, which is written after the document.

The document is what its reader makes of it: a dictionary of payloads, taken up to `==`.  Its store
may refuse to write a payload, and then raises.  Every write of the document and of the registry is
an entry of a tape, so that a crash is a beginning of it.
-/

namespace Audiagentic.Toolchains

open Foundations List OrderedDict

/-! ## The registry -/

/-- Owned names by scope and managed id. -/
abbrev Owners := OrderedDict Text (OrderedDict Text Text)

inductive RegistryFile where
  | absent
  /-- Not a JSON file. -/
  | unreadable
  | document (payload : Json Scalar)

structure ManagedFragmentRegistry where
  topLevelKey : Text
  contractVersion : Text
  isSeparate : topLevelKey ≠ "contract-version".toList

/-- A managed id with its name, where that is a string. -/
def loadRow (entry : Text × Json Scalar) : Option (Text × Text) :=
  match entry.2 with
  | .scalar (.str name) => some (entry.1, name)
  | _ => none

/-- The managed ids of a scope with their names, where all of them are strings. -/
def loadRows : Json Scalar → Option (OrderedDict Text Text)
  | .map entries => (entries.mapM loadRow).map OrderedDict.ofList
  | _ => none

def loadScope (entry : Text × Json Scalar) : Option (Text × OrderedDict Text Text) :=
  (loadRows entry.2).map fun rows => (entry.1, rows)

def ManagedFragmentRegistry.load (registry : ManagedFragmentRegistry) :
    RegistryFile → Except String Owners
  | .absent => .ok ∅
  | .unreadable => .error "CON-MCFG-001"
  | .document (.map payload) =>
    match Json.lookup "contract-version".toList payload with
    | some (.scalar (.str version)) =>
      if version = registry.contractVersion then
        match Json.lookup registry.topLevelKey payload with
        | some (.map owners) =>
          match owners.mapM loadScope with
          | some scopes => .ok (OrderedDict.ofList scopes)
          | none => .error "CON-MCFG-001"
        | _ => .error "CON-MCFG-001"
      else .error "CON-MCFG-001"
    | _ => .error "CON-MCFG-001"
  | .document _ => .error "CON-MCFG-001"

/-- `ManagedFragmentRegistry.save`: the file that is written. -/
def ManagedFragmentRegistry.saved (registry : ManagedFragmentRegistry) (owners : Owners) :
    RegistryFile :=
  .document (.map
    [("contract-version".toList, .scalar (.str registry.contractVersion)),
      (registry.topLevelKey, .map (owners.entries.map fun scope =>
        (scope.1, .map (scope.2.entries.map fun row => (row.1, .scalar (.str row.2))))))])

theorem loadRows_saved (rows : OrderedDict Text Text) :
    loadRows (.map (rows.entries.map fun row => (row.1, .scalar (.str row.2)))) = some rows := by
  have each : ∀ entries : List (Text × Text),
      (entries.map fun row => (row.1, (.scalar (.str row.2) : Json Scalar))).mapM loadRow =
        some entries := by
    intro entries
    induction entries with
    | nil => rfl
    | cons entry rest ih =>
      rw [map_cons, mapM_cons, ih]
      rfl
  rw [loadRows, each, Option.map_some, ofList_entries]

/-- **A registry that was saved is loaded as it was.** -/
theorem ManagedFragmentRegistry.load_saved (registry : ManagedFragmentRegistry) (owners : Owners) :
    registry.load (registry.saved owners) = .ok owners := by
  have each : ∀ entries : List (Text × OrderedDict Text Text),
      (entries.map fun scope => (scope.1, (.map (scope.2.entries.map fun row =>
        (row.1, .scalar (.str row.2))) : Json Scalar))).mapM loadScope = some entries := by
    intro entries
    induction entries with
    | nil => rfl
    | cons entry rest ih =>
      rw [map_cons, mapM_cons, ih, loadScope, loadRows_saved]
      rfl
  unfold saved load
  simp only [Json.lookup_cons_self, if_true, Json.lookup_cons_of_ne registry.isSeparate.symm, each,
    ofList_entries]

/-! ## Documents -/

variable {ν : Type} [DecidableEq ν]

structure FragmentDisk (ν : Type) [DecidableEq ν] where
  target : OrderedDict Text ν
  registry : RegistryFile

inductive FragmentEffect (ν : Type) where
  | write (name : Text) (payload : ν)
  | remove (name : Text)
  | save (owners : Owners)

/-- What a reconciliation is run with: the registry, the payload `None`, and which payloads the
store writes. -/
structure FragmentHost (ν : Type) where
  registry : ManagedFragmentRegistry
  null : ν
  accepts : Text → ν → Bool

def FragmentDisk.apply (host : FragmentHost ν) (disk : FragmentDisk ν) :
    FragmentEffect ν → FragmentDisk ν
  | .write name payload => { disk with target := disk.target.set name payload }
  | .remove name => { disk with target := disk.target.pop name }
  | .save owners => { disk with registry := host.registry.saved owners }

abbrev FragmentTape (ν : Type) [DecidableEq ν] := Tape (FragmentEffect ν) (FragmentDisk ν)

abbrev FragmentScript (ν : Type) [DecidableEq ν] (α : Type) := Script String (FragmentTape ν) α

/-! ## Reconciling -/

/-- The arguments of `reconcile_fragments`. -/
structure ReconcileCall (ν : Type) where
  scope : Text
  desired : OrderedDict Text (Text × ν)
  managedIds : Option (List Text)
  targetScopes : Option (List Text)

/-- A name that is not the managed id's to take. -/
structure FragmentCollision where
  managedId : Text
  desiredName : Text
  reason : String

structure ReconcileResult where
  ok : Bool
  changed : Bool
  updated : List Text
  removed : List Text
  collisions : List FragmentCollision

namespace ReconcileCall

def touches (call : ReconcileCall ν) (managedId : Text) : Bool :=
  match call.managedIds with
  | some ids => ids.contains managedId
  | none => true

def wanted (call : ReconcileCall ν) : List (Text × Text × ν) :=
  call.desired.entries.filter fun entry => call.touches entry.1

/-- `target_scopes or {owner_scope}`. -/
def sharedScopes (call : ReconcileCall ν) : List Text :=
  match call.targetScopes with
  | some (scope :: scopes) => scope :: scopes
  | _ => [call.scope]

end ReconcileCall

/-- `{name: managed_id for managed_id, name in rows.items()}.get(name)`: the last one wins. -/
def ownerByName (rows : OrderedDict Text Text) (name : Text) : Option Text :=
  (rows.entries.reverse.find? fun row => row.2 = name).map Prod.fst

/-- The scope and the managed id that the name is recorded for: the last one wins. -/
def incumbent (owners : Owners) (call : ReconcileCall ν) (name : Text) : Option (Text × Text) :=
  (owners.entries.filter fun scope => call.sharedScopes.contains scope.1).reverse.findSome?
    fun scope => (ownerByName scope.2 name).map fun managedId => (scope.1, managedId)

/-- The collisions that the complete request is checked for; `names` are those before. -/
def collisionsOf (owners : Owners) (call : ReconcileCall ν) (current : OrderedDict Text ν) :
    List Text → List (Text × Text × ν) → List FragmentCollision
  | _, [] => []
  | names, (managedId, name, _) :: rest =>
    let collides := names.contains name ||
      (current.has name && incumbent owners call name ≠ some (call.scope, managedId))
    let later := collisionsOf owners call current (name :: names) rest
    if collides then
      { managedId, desiredName := name
        reason := "name is unowned or belongs to another entry" } :: later
    else later

structure Reconciling (ν : Type) [DecidableEq ν] where
  current : OrderedDict Text ν
  rows : OrderedDict Text Text
  changed : Bool := false
  updated : List Text := []
  removed : List Text := []
  collisions : List FragmentCollision := []

def Reconciling.result (state : Reconciling ν) : ReconcileResult where
  ok := state.collisions.isEmpty
  changed := state.changed
  updated := state.updated
  removed := state.removed
  collisions := state.collisions

section Reconcile

variable (host : FragmentHost ν)

/-- `store.write` of one entry. -/
def writeFragment (name : Text) (payload : ν) : FragmentScript ν Unit :=
  if host.accepts name payload then Script.put (FragmentDisk.apply host) (.write name payload)
  else Script.check (.error "store.write")

/-- `store.remove`. -/
def removeFragment (name : Text) : FragmentScript ν Bool := do
  let tape ← Script.read
  if tape.store.target.has name then
    Script.put (FragmentDisk.apply host) (.remove name)
    return true
  else return false

/-- The owned entries that are no longer desired are removed. -/
def removeStale (call : ReconcileCall ν) :
    List (Text × Text) → Reconciling ν → FragmentScript ν (Reconciling ν)
  | [], state => return state
  | (managedId, oldName) :: rest, state => do
    if call.desired.has managedId then removeStale call rest state
    else
      let isRemoved ← if state.current.has oldName then removeFragment host oldName else pure false
      let state := if isRemoved then
          { state with
            removed := state.removed ++ [oldName]
            changed := true
            current := state.current.pop oldName }
        else state
      removeStale call rest { state with rows := state.rows.pop managedId }

def writeDesired (name : Text) (payload : ν) (state : Reconciling ν) :
    FragmentScript ν (Reconciling ν) :=
  if (state.current.get? name).getD host.null ≠ payload then do
    writeFragment host name payload
    return { state with
      current := state.current.set name payload
      updated := if state.updated.contains name then state.updated else state.updated ++ [name]
      changed := true }
  else return state

/-- The former name of a desired entry is given up. -/
def dropOldName (oldName : Option Text) (name : Text) (state : Reconciling ν) :
    FragmentScript ν (Reconciling ν) :=
  match oldName with
  | some old =>
    if old ≠ [] ∧ old ≠ name ∧ state.current.has old = true then do
      let isRemoved ← removeFragment host old
      return if isRemoved then
          { state with
            removed := state.removed ++ [old]
            current := state.current.pop old }
        else state
    else return state
  | none => return state

/-- The desired entries are written, and their former names given up. -/
def placeDesired : List (Text × Text × ν) → Reconciling ν → FragmentScript ν (Reconciling ν)
  | [], state => return state
  | (managedId, name, payload) :: rest, state => do
    let oldName := state.rows.get? managedId
    let owner := ownerByName state.rows name
    if state.current.has name = true ∧ owner ≠ none ∧ owner ≠ some managedId then
      placeDesired rest { state with
        collisions := state.collisions ++
          [{ managedId, desiredName := name
             reason := "name already owned by another managed entry" }] }
    else
      let state ← writeDesired host name payload state
      let state ← dropOldName host oldName name
        { state with rows := state.rows.set managedId name }
      placeDesired rest state

/-- `==` of dictionaries. -/
def sameRows (first second : OrderedDict Text Text) : Bool :=
  first.keys.all (fun key => first.get? key = second.get? key) &&
    second.keys.all fun key => first.get? key = second.get? key

def saveRows (owners : Owners) (scope : Text) (rows placed : OrderedDict Text Text) :
    FragmentScript ν Unit :=
  if sameRows rows placed = false then
    Script.put (FragmentDisk.apply host) (.save (owners.set scope placed))
  else return ()

/-- The rest of `reconcile_fragments`, once nothing collides. -/
def reconcileOwned (call : ReconcileCall ν) (owners : Owners) (target : OrderedDict Text ν) :
    FragmentScript ν ReconcileResult := do
  let rows := (owners.get? call.scope).getD ∅
  let source := rows.entries.filter fun row => call.touches row.1
  let state ← removeStale host call source { current := target, rows }
  let state ← placeDesired host call.wanted state
  saveRows host owners call.scope rows state.rows
  return state.result

def reconcileFragments (call : ReconcileCall ν) : FragmentScript ν ReconcileResult := do
  let tape ← Script.read
  let owners ← Script.check (host.registry.load tape.store.registry)
  -- Validate the complete request before any removal or write.
  match collisionsOf owners call tape.store.target [] call.wanted with
  | [] => reconcileOwned host call owners tape.store.target
  | collision :: collisions => return {
      ok := false
      changed := false
      updated := []
      removed := []
      collisions := collision :: collisions }

end Reconcile

end Audiagentic.Toolchains
