import Mathlib.Data.List.Sort
import Audiagentic.Foundations.PythonValues
import Audiagentic.Foundations.CrashTriples

/-!
# The store of management operations

`ManagementOperationStore` keeps one directory for each operation, with its record and its lock.
Taking the lock makes the directory, whether or not there is a record in it.

Every call is a script on a tape of effects: the directories it makes, the records it writes, and
the executions of claimed operations.  A crash leaves a beginning of the effects.
-/

namespace Audiagentic.Management

open Foundations Option

/-! ## Contracts -/

/-- `ManagementOperationKind`. -/
inductive OperationKind where
  | reconcile
  | archive
  | purge
  | sessionPurge
  | nodeRevoke
deriving DecidableEq

/-- A Python value that is handed in as a scope or a result. -/
inductive PyData where
  | none
  | scalar (value : Scalar)
  | sequence (items : List PyData)
  /-- A mapping; a key that is not a string is `none`. -/
  | mapping (entries : List (Option Text × PyData))
  /-- Anything else. -/
  | other

abbrev PyEntries := List (Option Text × PyData)

/-- `bool(value)`; an object of another kind is true. -/
def PyData.truthy : PyData → Bool
  | none => false
  | scalar value => (Json.scalar value).truthy
  | sequence items => !items.isEmpty
  | mapping entries => !entries.isEmpty
  | other => true

/-! ## Redacted data -/

def forbiddenScopeKeys : List Text :=
  ["prompt", "prompt-body", "prompt_body", "output", "raw-output", "raw_output", "credential",
    "credentials", "token", "password", "authorization"].map String.toList

/-- `str.lower` as far as it leads to ASCII letters: beside the letters themselves, the Kelvin sign
is the only character that does. -/
def lowerChar (char : Char) : Char := if char = '\u212A' then 'k' else char.toLower

/-- `key.lower() in _FORBIDDEN_SCOPE_KEYS`. -/
def isForbidden (key : Text) : Bool := forbiddenScopeKeys.contains (key.map lowerChar)

mutual
/-- `_safe_value`: the JSON value, where the data is JSON without forbidden keys. -/
def safeValue : PyData → Option (Json Scalar)
  | .none => some .null
  | .scalar value => some (.scalar value)
  | .sequence items => (safeItems items).map .list
  | .mapping entries => (safeEntries entries).map .map
  | .other => none

def safeItems : List PyData → Option (List (Json Scalar))
  | [] => some []
  | item :: rest => do
    let value ← safeValue item
    let values ← safeItems rest
    return value :: values

def safeEntries : PyEntries → Option (Json.Entries Scalar)
  | [] => some []
  | (none, _) :: _ => none
  | (some key, item) :: rest =>
    if isForbidden key then none
    else do
      let value ← safeValue item
      let values ← safeEntries rest
      return (key, value) :: values
end

mutual
/-- No mapping of the value has a forbidden key. -/
def isSafe : Json Scalar → Bool
  | .list items => isSafeItems items
  | .map entries => isSafeEntries entries
  | _ => true

def isSafeItems : List (Json Scalar) → Bool
  | [] => true
  | item :: rest => isSafe item && isSafeItems rest

def isSafeEntries : Json.Entries Scalar → Bool
  | [] => true
  | (key, value) :: rest => !isForbidden key && isSafe value && isSafeEntries rest
end

mutual
theorem isSafe_safeValue : ∀ {data : PyData} {value : Json Scalar},
    safeValue data = some value → isSafe value = true
  | .none, _, rfl => rfl
  | .scalar _, _, rfl => rfl
  | .sequence items, value, safe => by
    obtain ⟨values, found, rfl⟩ := map_eq_some_iff.mp safe
    exact isSafe_safeItems found
  | .mapping entries, value, safe => by
    obtain ⟨values, found, rfl⟩ := map_eq_some_iff.mp safe
    exact isSafe_safeEntries found

theorem isSafe_safeItems : ∀ {items : List PyData} {values : List (Json Scalar)},
    safeItems items = some values → isSafeItems values = true
  | [], _, rfl => rfl
  | item :: rest, values, safe => by
    obtain ⟨value, here, others, later, rfl⟩ : ∃ value, safeValue item = some value ∧
        ∃ others, safeItems rest = some others ∧ value :: others = values := by
      simpa [safeItems, bind_eq_some_iff] using safe
    rw [isSafeItems, isSafe_safeValue here, isSafe_safeItems later]
    rfl

theorem isSafe_safeEntries : ∀ {entries : PyEntries} {values : Json.Entries Scalar},
    safeEntries entries = some values → isSafeEntries values = true
  | [], _, rfl => rfl
  | (some key, item) :: rest, values, safe => by
    obtain ⟨allowed, value, here, others, later, rfl⟩ : isForbidden key = false ∧
        ∃ value, safeValue item = some value ∧
          ∃ others, safeEntries rest = some others ∧ (key, value) :: others = values := by
      simpa [safeEntries, bind_eq_some_iff] using safe
    rw [isSafeEntries, allowed, isSafe_safeValue here, isSafe_safeEntries later]
    rfl
end

structure SafeMapping where
  entries : Json.Entries Scalar
  safe : isSafeEntries entries = true

/-- `_validate_scope`; results go the same way. -/
def validateScope : PyData → Except String SafeMapping
  | .mapping entries =>
    match found : safeEntries entries with
    | some values => .ok ⟨values, isSafe_safeEntries found⟩
    | none => .error "VAL-AGM-005"
  | _ => .error "VAL-AGM-004"

/-- `[A-Za-z0-9][A-Za-z0-9_.:-]{0,199}`. -/
def isNodeId : Text → Bool
  | first :: rest =>
    first.isAlphanum && decide (rest.length ≤ 199) &&
      rest.all fun char => char.isAlphanum || ['_', '.', ':', '-'].contains char
  | [] => false

def isNodeRevokeScope (scope : Json.Entries Scalar) : Bool :=
  decide (scope.length = 2) &&
    (match Json.lookup "node-id".toList scope with
      | some (.scalar (.str node)) => isNodeId node
      | _ => false) &&
    (match Json.lookup "expected-grant-revision".toList scope with
      | some (.scalar (.int revision)) => decide (1 ≤ revision ∧ revision ≤ 2 ^ 63 - 1)
      | _ => false)

/-- What `_validate_record` asks of a scope. -/
def scopeIsValid (kind : OperationKind) (scope : Json.Entries Scalar) : Bool :=
  match kind with
  | .nodeRevoke => isNodeRevokeScope scope
  | _ => isSafeEntries scope

theorem SafeMapping.isValid (scope : SafeMapping) {kind : OperationKind}
    (other : kind ≠ .nodeRevoke) : scopeIsValid kind scope.entries = true := by
  cases kind with
  | nodeRevoke => exact absurd rfl other
  | _ => exact scope.safe

/-- An error that may be stored: a code, and nothing else. -/
structure OperationError where
  code : Text
  stated : code ≠ []

def validateError : PyEntries → Except String OperationError
  | [(some key, .scalar (.str code))] =>
    if stated : key = "code".toList ∧ code ≠ [] then .ok ⟨code, stated.2⟩
    else .error "VAL-AGM-006"
  | _ => .error "VAL-AGM-006"

/-! ## Records -/

/-- `^[A-Za-z0-9][A-Za-z0-9_-]{2,127}$`. -/
def isOperationId : Text → Bool
  | first :: rest =>
    first.isAlphanum && decide (2 ≤ rest.length ∧ rest.length ≤ 127) &&
      rest.all fun char => char.isAlphanum || ['_', '-'].contains char
  | [] => false

abbrev OperationId := { text : Text // isOperationId text = true }

def requireId (text : Text) : Except String OperationId :=
  if valid : isOperationId text = true then .ok ⟨text, valid⟩ else .error "VAL-AGM-003"

/-- The states of the workflow `gateway-operation`. -/
inductive OperationState where
  | accepted
  | running
  | completed
  | failed
deriving DecidableEq

namespace OperationState

def transitions : OperationState → List OperationState
  | accepted => [running, failed]
  | running => [accepted, completed, failed]
  | completed => []
  | failed => []

def isDispatchable (state : OperationState) : Bool := state = accepted

def isTerminal (state : OperationState) : Bool := [completed, failed].contains state

end OperationState

structure OperationIntent where
  kind : OperationKind
  scope : Json.Entries Scalar
  correlationId : Option String
  valid : scopeIsValid kind scope = true

/-- The record of an operation.  What `_validate_record` checks of it holds of every value of this
type. -/
structure Operation where
  operationId : OperationId
  intent : OperationIntent
  intentDigest : String
  state : OperationState
  revision : ℕ
  ownerEpoch : Option String
  createdAt : String
  updatedAt : String
  startedAt : Option String
  finishedAt : Option String
  result : Option SafeMapping
  error : Option OperationError

/-- The directories; one without a record has its lock only. -/
abbrev OperationStore := OrderedDict OperationId (Option Operation)

/-- What calls do to the store, and the executions of operations that they claimed.  The text is the
owner epoch of the caller. -/
inductive OperationEffect where
  | lock (operationId : OperationId)
  | accept (operation : Operation)
  | claim (ownerEpoch : String) (operation : Operation)
  | execute (ownerEpoch : String) (operation : Operation)
  | finish (ownerEpoch : String) (operation : Operation)
  | requeue (ownerEpoch : String) (operation : Operation)

def OperationStore.apply (store : OperationStore) : OperationEffect → OperationStore
  | .lock operationId => store.set operationId none
  | .accept operation => store.set operation.operationId (some operation)
  | .claim _ operation => store.set operation.operationId (some operation)
  | .execute _ _ => store
  | .finish _ operation => store.set operation.operationId (some operation)
  | .requeue _ operation => store.set operation.operationId (some operation)

abbrev OperationTape := Tape OperationEffect OperationStore

abbrev OperationScript (α : Type) := Script String OperationTape α

/-- What the store is run with: the digest of an intent, and the time at which a revision of an
operation is written. -/
structure OperationHost where
  intentDigest : OperationIntent → String
  now : OperationId → ℕ → String

/-! ## Calls -/

def emit (effect : OperationEffect) : OperationScript Unit :=
  Script.put OperationStore.apply effect

def current : OperationScript OperationStore := do
  let tape ← Script.read
  return tape.store

def lockDirectory (operationId : OperationId) : OperationScript Unit := do
  let store ← current
  if store.has operationId then return ()
  else emit (.lock operationId)

def readUnlocked (operationId : OperationId) : OperationScript Operation := do
  let store ← current
  match store.get? operationId with
  | some (some operation) => return operation
  | _ => Script.check (.error "RES-AGM-001")

structure ManagementCommand where
  operationId : Text
  kind : OperationKind
  scope : PyData
  correlationId : Option String

def ManagementCommand.validate (command : ManagementCommand) : Except String OperationIntent :=
  if revoke : command.kind = .nodeRevoke then
    -- a scope with other keys or values than the two scalars is refused, so that safe ones are all
    match command.scope with
    | .mapping entries =>
      match safeEntries entries with
      | some scope =>
        if valid : isNodeRevokeScope scope = true then
          .ok ⟨command.kind, scope, command.correlationId, by rw [revoke]; exact valid⟩
        else .error "VAL-AGM-004"
      | none => .error "VAL-AGM-004"
    | _ => .error "VAL-AGM-004"
  else do
    let scope ← validateScope command.scope
    return ⟨command.kind, scope.entries, command.correlationId, scope.isValid revoke⟩

/-- What `create` checks before it takes the lock. -/
def ManagementCommand.admit (command : ManagementCommand) (localOnly : Bool) :
    Except String (OperationId × OperationIntent) := do
  let operationId ← requireId command.operationId
  refuse (command.kind = .nodeRevoke ∧ localOnly = false) "UNS-AGM-001"
  let intent ← command.validate
  return (operationId, intent)

section Calls

variable (host : OperationHost)

def newOperation (operationId : OperationId) (intent : OperationIntent) : Operation where
  operationId := operationId
  intent := intent
  intentDigest := host.intentDigest intent
  state := .accepted
  revision := 0
  ownerEpoch := none
  createdAt := host.now operationId 0
  updatedAt := host.now operationId 0
  startedAt := none
  finishedAt := none
  result := none
  error := none

def create (command : ManagementCommand) (localOnly : Bool) : OperationScript Operation := do
  let (operationId, intent) ← Script.check <| command.admit localOnly
  lockDirectory operationId
  let store ← current
  match store.get? operationId with
  | some (some existing) =>
    Script.check (refuse (existing.intentDigest ≠ host.intentDigest intent) "CON-AGM-001")
    return existing
  | _ =>
    let operation := newOperation host operationId intent
    emit (.accept operation)
    return operation

/-- `read`. -/
def readOperation (operationId : Text) : OperationScript Operation := do
  let operationId ← Script.check (requireId operationId)
  lockDirectory operationId
  readUnlocked operationId

def Operation.transition (operation : Operation) (newState : OperationState) :
    Except String Operation := do
  refuse (newState ∉ operation.state.transitions) "CON-AGM-003"
  return { operation with
    state := newState
    revision := operation.revision + 1
    updatedAt := host.now operation.operationId (operation.revision + 1) }

/-- `claim`: nothing for a duplicate claimant. -/
def claim (operationId : Text) (ownerEpoch : String) : OperationScript (Option Operation) := do
  let operationId ← Script.check (requireId operationId)
  Script.check (refuse (ownerEpoch = "") "VAL-AGM-002")
  lockDirectory operationId
  let operation ← readUnlocked operationId
  if operation.state.isDispatchable then
    let updated ← Script.check (operation.transition host .running)
    let updated := { updated with
      ownerEpoch := some ownerEpoch
      startedAt := some (host.now operationId updated.revision) }
    emit (.claim ownerEpoch updated)
    return some updated
  else return none

def finish (operationId : Text) (ownerEpoch : String) (result : PyData) (error : PyEntries) :
    OperationScript Operation := do
  let operationId ← Script.check (requireId operationId)
  lockDirectory operationId
  let operation ← readUnlocked operationId
  Script.check (refuse (operation.state ≠ .running ∨ operation.ownerEpoch ≠ some ownerEpoch)
    "CON-AGM-002")
  let updated ← Script.check
    (operation.transition host (if error.isEmpty then .completed else .failed))
  let updated ← Script.check (
    if error.isEmpty then do
      let stored ← validateScope (if result.truthy then result else .mapping [])
      return { updated with result := some stored, error := none }
    else do
      let stored ← validateError error
      return { updated with result := none, error := some stored })
  let updated := { updated with finishedAt := some (host.now operationId updated.revision) }
  emit (.finish ownerEpoch updated)
  return updated

def fail (operationId : Text) (ownerEpoch : String) (code : Text) : OperationScript Operation :=
  finish host operationId ownerEpoch .none [(some "code".toList, .scalar (.str code))]

/-- One directory of `recover_prior_owner_claims`. -/
def requeue (ownerEpoch : String) (operationId : OperationId) : OperationScript Unit := do
  lockDirectory operationId
  let operation ← readUnlocked operationId
  if operation.state ≠ .running ∨ operation.ownerEpoch = some ownerEpoch then return ()
  else
    let updated ← Script.check (operation.transition host .accepted)
    emit (.requeue ownerEpoch { updated with ownerEpoch := none, startedAt := none })

/-- `sorted(self._root.iterdir())`. -/
def sortedIds (store : OperationStore) : List OperationId :=
  store.keys.insertionSort fun first second => first.1 ≤ second.1

/-- `recover_prior_owner_claims`, without the number it returns. -/
def recoverPriorOwnerClaims (ownerEpoch : String) : OperationScript Unit := do
  let store ← current
  if ownerEpoch = "" then return ()
  else Script.forEach (requeue host ownerEpoch) (sortedIds store)

/-- The record of a directory, where it is dispatchable; a directory that cannot be read is passed
over. -/
def dispatchable? (store : OperationStore) (operationId : OperationId) : Option Operation :=
  match store.get? operationId with
  | some (some operation) => if operation.state.isDispatchable then some operation else none
  | _ => none

/-- `list_dispatchable`.  The locks it takes are in directories that are there. -/
def listDispatchable (limit : ℕ) : OperationScript (List Operation) := do
  Script.check (refuse (limit = 0) "VAL-AGM-001")
  let store ← current
  return ((sortedIds store).filterMap (dispatchable? store)).take limit

/-! ## The pump -/

/-- `ManagementOperationExecutor.execute`: the result, or nothing where it raises. -/
abbrev Executor := Operation → Option PyData

/-- One candidate of `run_once`. -/
def dispatch (executor : Executor) (ownerEpoch : String) (candidate : Operation) :
    OperationScript Unit := do
  let claimed ← claim host candidate.operationId.1 ownerEpoch
  match claimed with
  | none => return ()
  | some operation =>
    emit (.execute ownerEpoch operation)
    match executor operation with
    | some result =>
      let finished ← (finish host operation.operationId.1 ownerEpoch result []).attempt
      match finished with
      | .ok _ => return ()
      | .error _ =>
        (fail host operation.operationId.1 ownerEpoch "INT-AGM-001".toList).dropped
    | none => (fail host operation.operationId.1 ownerEpoch "INT-AGM-001".toList).dropped

/-- `run_once`, without the records it returns. -/
def runOnce (executor : Executor) (ownerEpoch : String) (limit : ℕ) : OperationScript Unit := do
  recoverPriorOwnerClaims host ownerEpoch
  let candidates ← listDispatchable limit
  Script.forEach (dispatch host executor ownerEpoch) candidates

end Calls

end Audiagentic.Management
