import Audiagentic.Session.Writers

/-!
# Calls on a session

The other writers of a session record, and the calls that a run is made of.  A call that raises
leaves the record as it was.  What the binding index says to a registration comes with the call.
-/

namespace Audiagentic.Session

open Foundations
open Gateway (GatewayError agentsError)

/-! ## Ordinary updates -/

/-- The request that `update_provider_metadata` is given for a checkpoint. -/
structure Fence where
  requestId : Option Text
  dispatchOwnerEpoch : Option Text
  workerId : Option Text
  attemptEpoch : Option ℤ

def Fence.owner? (fence : Fence) : Option (Text × Owner) :=
  match fence.requestId, fence.dispatchOwnerEpoch, fence.workerId, fence.attemptEpoch with
  | some (first :: request), some (char :: epoch), some (letter :: worker), some attempt =>
    some (first :: request, ⟨char :: epoch, letter :: worker, attempt⟩)
  | _, _, _, _ => none

def updateProviderMetadata (host : SessionHost) (requests : Requests) (session : SessionRecord)
    (update : Fields) (removeKeys : List Text) (fence : Fence) (claimId : Option Text) :
    Except GatewayError SessionRecord :=
  let update := update.popAll loadBudgetKeys
  let removeKeys := removeKeys.filter (· ∉ loadBudgetKeys)
  if (present recoveryCheckpointKeys update).isEmpty &&
      removeKeys.all (· ∉ recoveryCheckpointKeys) then
    .ok { session with metadata := written session.metadata update removeKeys }
  else
    match fence.owner? with
    | some (requestId, owner) =>
      updateOwnedSubmissionCheckpoint host requests session requestId update claimId owner
        removeKeys
    | none =>
      .error (checkpointError "provider recovery checkpoint requires its request-owner fence")

def bindingUpdate (fields : Fields) : Fields :=
  fields.popAll (recoveryCheckpointKeys ++ loadBudgetKeys)

def annotateOwnedManualReconciliation (host : SessionHost) (requests : Requests)
    (session : SessionRecord) (requestId : Text) (owner : Owner) :
    Except GatewayError SessionRecord := do
  let _ ← assertRequestDispatchOwner host requests session requestId owner false
  refuse (holdsTurn session.metadata requestId = false)
    (checkpointError "manual reconciliation annotation requires the current unresolved turn")
  let annotation : Json Scalar := .scalar (.str "manual-reconcile-required".toList)
  .ok { session with metadata := session.metadata.set recoveryStateKey annotation }

/-! ## The end of a turn -/

def unsentStages : List Text := observationStages.take 4

/-- The checkpoint is the exact attempt and was never sent. -/
def unsentAttempt (request : Request) (metadata : Fields) (requestId attemptId : Text) : Bool :=
  !request.recoveryRequired && holdsTurn metadata requestId &&
    equalsText (metadata.read stateKey) dispatching && !attemptId.isEmpty &&
    equalsText (metadata.read attemptIdKey) attemptId && (metadata.read sendIntentKey).isFalse &&
    !(metadata.read provenKey).isTrue &&
    (match (metadata.read stageKey).text? with
      | some stage => decide (stage ∈ unsentStages)
      | none => false) &&
    unclaimed metadata

def clearOwnedUnsentSubmissionCheckpoint (host : SessionHost) (requests : Requests)
    (session : SessionRecord) (requestId attemptId : Text) (owner : Owner) :
    Except GatewayError SessionRecord := do
  let request ← assertRequestDispatchOwner host requests session requestId owner false
  refuse (unsentAttempt request session.metadata requestId attemptId = false)
    (checkpointError "unsent checkpoint retirement requires the exact current no-Send attempt")
  let retired := session.metadata.popAll recoveryCheckpointKeys
  .ok { session with metadata := retired.set pendingKey (.scalar (.bool false)) }

def sameCheckpoint (expected metadata : Fields) : Bool :=
  recoveryCheckpointKeys.all fun key =>
    expected.has key == metadata.has key &&
      (!expected.has key || equalValues (expected.read key) (metadata.read key))

/-- `clear_terminal_submission_checkpoint`: the session after it, and whether it was cleared. -/
def clearTerminalSubmissionCheckpoint (requests : Requests) (session : SessionRecord)
    (requestId recoveryState : Text) (removeKeys : List Text) (expected : Option Fields) :
    Except GatewayError (SessionRecord × Bool) := do
  let request ← readRequest requests requestId
  refuse ((request.state.isTerminal && request.sessionId = some session.sessionId) = false)
    (checkpointError "provider checkpoint cleanup requires a terminal request bound to the session")
  refuse (removeKeys.all (fun key => decide (key ∈ recoveryCheckpointKeys) && key != pendingKey &&
      key != claimKey) = false)
    (checkpointError "terminal provider checkpoint cleanup contains unsupported fields")
  let metadata := session.metadata
  if equalsText (metadata.read turnIdKey) requestId && expected.all (sameCheckpoint · metadata) then
    let ended := (metadata.set pendingKey (.scalar (.bool false))).set recoveryStateKey
      (.scalar (.str recoveryState))
    .ok ({ session with metadata := ended.popAll removeKeys }, true)
  else .ok (session, false)

/-! ## Recorded turns -/

/-- The metadata that `record_session_turn` writes. -/
def recordedMetadata (metadata brought : Fields) (requestId : Text) : Except GatewayError Fields :=
  do
  let proves ← terminalCheckpointClearIsProven metadata brought requestId
  let updated := metadata.update (bindingUpdate brought)
  .ok (if proves then updated.set evidenceKey (brought.read evidenceKey) else updated)

def metadataAfterTurn (session : SessionRecord) (requestId : Text) :
    Option Fields → Except GatewayError Fields
  | some brought => recordedMetadata session.metadata brought requestId
  | none => .ok session.metadata

def recordSessionTurn (session : SessionRecord) (requestId : Text) (brought : Option Fields) :
    Except GatewayError SessionRecord := do
  let metadata ← metadataAfterTurn session requestId brought
  let served : SessionRecord := { session with metadata := metadata }
  .ok (if requestId ∈ session.requestIds then served
    else { served with
      requestIds := session.requestIds ++ [requestId]
      turnCount := session.turnCount + 1 })

/-! ## Bindings -/

def providerRefKey (host : SessionHost) (providerId : Option Text) (surfaceId : Text)
    (identityContext : Option Text) (providerSessionRef : Text) : Text :=
  let stated (value : Option Text) (default : String) : Text :=
    match value with
    | some (char :: rest) => char :: rest
    | _ => default.toList
  host.digest [stated providerId "unknown-provider", surfaceId, "provider-session-ref".toList,
    stated identityContext "unknown", providerSessionRef]

/-- `build_binding` of an opened and owned binding, with its fresh id. -/
def buildBinding (host : SessionHost) (bindingId : Text) (providerId : Option Text)
    (surfaceId providerSessionRef : Text) (identityContext : Option Text) :
    Except GatewayError Binding := do
  refuse (surfaceId.isEmpty = true)
    (agentsError "VAL-AGW-102" "provider session binding requires a resolved surface id")
  .ok { bindingId, providerId, surfaceId, providerSessionRef,
        providerRefKey :=
          providerRefKey host providerId surfaceId identityContext providerSessionRef,
        ownership := .owned }

structure BindingArguments where
  bindingId : Text
  providerId : Text
  surfaceId : Text
  providerSessionRef : Text
  identityContext : Option Text
  metadata : Fields

def Binding.isFor (binding : Binding) (providerId : Option Text) (surfaceId reference : Text) :
    Bool :=
  binding.providerId = providerId && binding.surfaceId = surfaceId &&
    binding.providerSessionRef = reference

/-- The session has no provider of its own, or this one. -/
def SessionRecord.admits (session : SessionRecord) (providerId : Text) : Bool :=
  match session.providerId with
  | none => true
  | some [] => true
  | some admitted => admitted = providerId

def bindingFor (host : SessionHost) (session : SessionRecord) (arguments : BindingArguments)
    (conflict : String) : Except GatewayError Binding :=
  match session.binding with
  | some current => do
    refuse (current.isFor (some arguments.providerId) arguments.surfaceId
      arguments.providerSessionRef = false) (bindingError conflict)
    .ok current
  | none => buildBinding host arguments.bindingId (some arguments.providerId) arguments.surfaceId
      arguments.providerSessionRef arguments.identityContext

/-- The record that `install_initial_provider_binding` registers and writes. -/
def installInitialProviderBinding (host : SessionHost) (session : SessionRecord)
    (arguments : BindingArguments) : Except GatewayError SessionRecord := do
  refuse (session.admits arguments.providerId = false)
    (bindingError "provider binding does not match the admitted session provider")
  let binding ← bindingFor host session arguments
    "provider session binding is immutable within a session generation"
  .ok { session with
    binding := some binding
    metadata := session.metadata.update (bindingUpdate arguments.metadata) }

/-- The record that `install_prepared_recovery_binding` registers and writes. -/
def installPreparedRecoveryBinding (host : SessionHost) (requests : Requests)
    (session : SessionRecord) (requestId claimId : Text) (owner : Owner)
    (arguments : BindingArguments) (expectedSurfaceId : Text) :
    Except GatewayError SessionRecord := do
  assertPreparedSubmissionClaim host requests session requestId claimId owner
  refuse (session.admits arguments.providerId = false)
    (bindingError "prepared provider binding conflicts with admitted provider")
  refuse (Text.isBlank expectedSurfaceId = true ∨ arguments.surfaceId ≠ expectedSurfaceId)
    (bindingError "prepared provider binding does not match the admission-frozen surface")
  let binding ← bindingFor host session arguments
    "prepared provider binding conflicts with existing session identity"
  .ok { session with
    binding := some binding
    metadata := session.metadata.update (bindingUpdate arguments.metadata) }

/-- The record that `commit_prepared_recovery_open` writes and registers. -/
def commitPreparedRecoveryOpen (host : SessionHost) (requests : Requests)
    (session : SessionRecord) (requestId claimId : Text) (owner : Owner)
    (opened : SessionRecord) (expectedSurfaceId : Text) : Except GatewayError SessionRecord := do
  assertPreparedSubmissionClaim host requests session requestId claimId owner
  match opened.binding with
  | none => .error (bindingError "provider open did not return a durable session binding")
  | some binding => do
    refuse (Text.isBlank expectedSurfaceId = true ∨ binding.surfaceId ≠ expectedSurfaceId)
      (bindingError "provider-open surface differs from the admission-frozen surface")
    refuse (session.binding.any (fun current =>
        !current.isFor binding.providerId binding.surfaceId binding.providerSessionRef) = true)
      (bindingError "provider-open result conflicts with the committed session binding")
    refuse ((session.providerId.isNone || session.providerId = binding.providerId) = false)
      (bindingError "provider-open result conflicts with the admitted session provider")
    refuse (opened.executionProfileId ≠ session.executionProfileId)
      (bindingError "provider-open profile differs from the admitted session profile")
    .ok { session with
      binding := some (session.binding.getD binding)
      transportKind := .providerSession
      providerId := opened.providerId.or session.providerId
      modelId := opened.modelId.or session.modelId
      metadata := session.metadata.update (bindingUpdate opened.metadata) }

end Audiagentic.Session
