import Audiagentic.Gateway.Record

/-!
# The transition operations of the gateway store

Every operation of `store/_transitions.py` that rewrites a request record.  An
operation is a check of its arguments (`preflight`) and a body that runs under
the request lock on the record `_read_record_locked` returns; the body's result
is the record as it is then on disk.  `Operation.run` is one call: what is on
disk afterwards, and what the caller sees.

Timelines, session records and the work index are not part of the record; the
index and the active-work markers are modelled with recovery.
-/

namespace Audiagentic.Gateway

open Foundations

/-! ## Inputs -/

/-- An error handed to a transition: an exception, or a mapping with its keys. -/
structure ErrorValue where
  isMapping : Bool
  code : Option String
  kind : Option String
  message : Option String
  details : Option Doc
  /-- `details["watchdog-classification"]`, when it is a non-empty string. -/
  watchdogClassification : Option TerminalClassification
  /-- `str(error)`. -/
  text : String

/-- `bounded_recovery_error`'s projection. -/
structure BoundedError where
  code : Option String
  errorType : Option String
  kind : Option String
  details : Option Doc

/-- The pure helpers that decide the contents of diagnostic and redacted
documents.  The store passes their results on and never reads them back, so
every result below holds for any choice of them. -/
structure Projections where
  mergeDiagnostics : Option Diagnostics → Diagnostics → Diagnostics
  classifyError : ErrorValue → Option String → Option String → Diagnostics
  staleProgressDiagnostic : String → String → String → Diagnostics
  evidenceFromActivity : String → Option String → Int → Option String → String →
    Option Nat → Nat → Evidence
  normalizeActivityLabel : Option String → Option String
  activityGroup : Option String → Option String
  isMeaningfulActivity : Option String → Option String → Bool
  redactError : ErrorValue → RedactedError
  boundedRecoveryError : ErrorValue → BoundedError
  extractWorkerEvidence : ErrorValue → Option Doc

/-- Projections that keep the error code and drop the rest: a concrete choice to run the
store with. -/
def Projections.plain : Projections :=
  let diagnostics (failureCode : Option String) (phase sideEffectState : String) : Diagnostics :=
    { classification := .unknown
      certainty := "weak"
      phase
      sideEffectState
      resolutionState := "open"
      failureCode
      reasonCode := none
      providerSignals := []
      evidenceCount := 0
      coalescedObservationCount := 0
      disposition := "none"
      allowedActions := [] }
  { mergeDiagnostics := fun _ current => current
    classifyError := fun error phase sideEffectState =>
      diagnostics error.code (phase.getD "unknown") (sideEffectState.getD "unknown")
    staleProgressDiagnostic := fun phase sideEffectState _ => diagnostics none phase sideEffectState
    evidenceFromActivity := fun requestId sessionId attemptEpoch phase source sourceSequence
        sequence =>
      { evidenceId := "ev_activity"
        sequence
        requestId := some requestId
        sessionId
        attemptEpoch := attemptEpoch.toNat
        phase := phase.getD "unknown"
        kind := "activity"
        certainty := "weak"
        sideEffectState := "unknown"
        source := some source
        sourceSequence }
    normalizeActivityLabel := id
    activityGroup := id
    isMeaningfulActivity := fun _ phase => phase.isSome
    redactError := fun error =>
      { code := error.code, message := error.message, kind := error.kind, details := none }
    boundedRecoveryError := fun error =>
      { code := error.code, errorType := none, kind := error.kind, details := none }
    extractWorkerEvidence := fun _ => none }

/-- The value is neither null nor the empty string. -/
def present : Option String → Bool
  | none => false
  | some text => text != ""

/-- `text[:length]`. -/
def clip (length : Nat) (text : String) : String :=
  String.ofList (text.toList.take length)

/-- `items[-length:]` for a positive length. -/
def lastItems {α : Type} (length : Nat) (items : List α) : List α :=
  items.drop (items.length - length)

/-! ## Operations and calls -/

structure Operation where
  /-- The checks made before the request lock is taken. -/
  preflight : Except GatewayError Unit
  body : Record → Except GatewayError Record

/-- `_read_record_locked`. -/
def Record.readLocked (stored : Record) : Except GatewayError Record := do
  stored.migrate.validate "VAL-AGW-005"
  return stored.migrate

/-- One call: the record on disk afterwards, and the caller's result. -/
def Operation.run (operation : Operation) (stored : Record) :
    Record × Except GatewayError Record :=
  match operation.preflight with
  | .error error => (stored, .error error)
  | .ok _ =>
    match stored.readLocked with
    | .error error => (stored, .error error)
    | .ok record =>
      match operation.body record with
      | .error error => (record, .error error)
      | .ok updated => (updated, .ok updated)

theorem Record.readLocked_eq_ok {stored record : Record} :
    stored.readLocked = .ok record ↔ stored.Valid ∧ record = stored.migrate := by
  simp only [Record.readLocked, bind_eq_ok, Record.validate_eq_ok, exists_const]
  constructor
  · rintro ⟨valid, same⟩
    cases same
    exact ⟨Record.valid_migrate_iff.mp valid, rfl⟩
  · rintro ⟨valid, rfl⟩
    exact ⟨Record.valid_migrate_iff.mpr valid, rfl⟩

/-- **The three ends of a call.**  It is refused before the record is read, it fails on the
record read, or it succeeds. -/
theorem Operation.run_cases (operation : Operation) (stored : Record) :
    (∃ error, operation.run stored = (stored, .error error)) ∨
      (∃ error, operation.run stored = (stored.migrate, .error error)) ∨
      ∃ updated, operation.preflight = .ok () ∧ stored.Valid ∧
        operation.body stored.migrate = .ok updated ∧
        operation.run stored = (updated, .ok updated) := by
  cases admitted : operation.preflight with
  | error error => exact .inl ⟨error, by simp only [run, admitted]⟩
  | ok passed =>
    cases read : stored.readLocked with
    | error error => exact .inl ⟨error, by simp only [run, admitted, read]⟩
    | ok record =>
      obtain ⟨valid, rfl⟩ := Record.readLocked_eq_ok.mp read
      cases body : operation.body stored.migrate with
      | error error => exact .inr (.inl ⟨error, by simp only [run, admitted, read, body]⟩)
      | ok updated =>
        exact .inr (.inr ⟨updated, rfl, valid, rfl, by simp only [run, admitted, read, body]⟩)

/-! ## Fences -/

structure OwnedIdentity where
  ownerEpoch : Option String
  workerId : Option String
  attemptEpoch : Int

def requireOwnedIdentity (identity : OwnedIdentity) : Except GatewayError Unit :=
  refuse (present identity.ownerEpoch = false ∨ present identity.workerId = false ∨
      identity.attemptEpoch < 1)
    (agentsError "VAL-AGW-085"
      "owned mutation requires dispatch owner, worker, and attempt identity")

/-- `_check_expected_identity`; `none` is "do not check". -/
def checkExpectedIdentity (record : Record) (expectedRevision : Option Int)
    (expectedDispatchOwnerEpoch expectedWorkerId : Option String)
    (expectedAttemptEpoch : Option Int) : Except GatewayError Unit := do
  refuse (∃ expected ∈ expectedRevision, (record.revision : Int) ≠ expected)
    (agentsErrorWith "CON-AGW-071" "gateway request revision changed"
      [("expected", .number (expectedRevision.getD 0)), ("actual", .number record.revision)])
  refuse (∃ expected ∈ expectedDispatchOwnerEpoch, record.dispatchOwnerEpoch ≠ some expected)
    (agentsError "CON-AGW-083" "gateway request dispatch ownership changed")
  refuse (∃ expected ∈ expectedWorkerId, record.workerId ≠ some expected)
    (agentsError "CON-AGW-072" "gateway request worker ownership changed")
  refuse (∃ expected ∈ expectedAttemptEpoch, (record.attemptEpoch : Int) ≠ expected)
    (agentsErrorWith "CON-AGW-073" "gateway request attempt epoch changed"
      [("expected", .number (expectedAttemptEpoch.getD 0)),
        ("actual", .number record.attemptEpoch)])

/-- `ensure_transition`.  Every typed state is a known one, so only the illegal
transition is left to refuse. -/
def ensureTransition (current new : RequestState) : Except GatewayError Unit :=
  refuse (current.transitionAllowed new = false)
    (agentsErrorWith "CON-AGW-001" "illegal gateway request state transition"
      [("from", .text current.text), ("to", .text new.text)])

def checkDiagnosticRevision (record : Record) (expectedRevision : Option Int) (message : String) :
    Except GatewayError Unit :=
  refuse (∃ expected ∈ expectedRevision, (record.revision : Int) ≠ expected)
    (agentsErrorWith "CON-AGW-143" message [("request-id", .text record.admission.requestId)])

/-! ## Result updates -/

/-- An assignment to one of `_MUTABLE_RESULT_FIELDS`. -/
inductive ResultUpdate where
  | providerId (value : Option String)
  | modelId (value : Option String)
  | output (value : Option String)
  | responseArtifact (value : Option Doc)
  | failureResponseArtifact (value : Option Doc)
  | failureResponsePreview (value : Option String)
  | failureResponseTruncated (value : Bool)
  | outputPreview (value : Option String)
  | outputTruncated (value : Bool)
  | completion (value : Option Doc)
  | usage (value : Option Doc)
  | error (value : Option ErrorValue)
  | workerEvidence (value : Option Doc)
  | startedAt (value : Option Timestamp)
  | finishedAt (value : Option Timestamp)
  | sessionId (value : Option String)
  | cancelProvenance (value : Option CancelProvenance)
  | providerMetadata (value : Option Doc)
  | recovery (value : Option Recovery)
  | replayRequired (value : Option Bool)
  | replayReason (value : Option String)
  | replayedByRequestId (value : Option String)
  | terminalClassification (value : Option TerminalClassification)
  | terminalFinalization (value : Finalization)
  | diagnostics (value : Option Diagnostics)
  | diagnosticEvidence (value : List Evidence)
  | recoveryRequired (value : Bool)
  | watchdogState (value : Option WatchdogState)
  | watchdogReason (value : Option String)

/-- One entry of an `updates` mapping: a result field, or the name of a field that a
transition must not set. -/
inductive Update where
  | result (update : ResultUpdate)
  | illegal (field : String)

def Update.result? : Update → Option ResultUpdate
  | .result update => some update
  | .illegal _ => none

/-- The fields that `transition_record` rejects. -/
def Update.illegal? : Update → Option String
  | .result _ => none
  | .illegal field => some field

/-- An error as a mapping, as it stands in a record that does not redact it. -/
def ErrorValue.raw (error : ErrorValue) : RedactedError :=
  { code := error.code, message := error.message, kind := error.kind, details := error.details }

/-- The plain assignment `updated[key] = value`. -/
def ResultUpdate.assign (record : Record) : ResultUpdate → Record
  | .providerId value => { record with results := { record.results with providerId := value } }
  | .modelId value => { record with results := { record.results with modelId := value } }
  | .output value => { record with results := { record.results with output := value } }
  | .responseArtifact value =>
    { record with results := { record.results with responseArtifact := value } }
  | .failureResponseArtifact value =>
    { record with results := { record.results with failureResponseArtifact := value } }
  | .failureResponsePreview value =>
    { record with results := { record.results with failureResponsePreview := value } }
  | .failureResponseTruncated value =>
    { record with results := { record.results with failureResponseTruncated := some value } }
  | .outputPreview value =>
    { record with results := { record.results with outputPreview := some value } }
  | .outputTruncated value =>
    { record with results := { record.results with outputTruncated := some value } }
  | .completion value => { record with results := { record.results with completion := value } }
  | .usage value => { record with results := { record.results with usage := value } }
  | .error value =>
    { record with results := { record.results with error := value.map ErrorValue.raw } }
  | .workerEvidence value =>
    { record with results := { record.results with workerEvidence := value } }
  | .startedAt value => { record with results := { record.results with startedAt := value } }
  | .finishedAt value => { record with results := { record.results with finishedAt := value } }
  | .sessionId value => { record with results := { record.results with sessionId := value } }
  | .cancelProvenance value => { record with cancelProvenance := value }
  | .providerMetadata value =>
    { record with results := { record.results with providerMetadata := value } }
  | .recovery value => { record with recovery := value }
  | .replayRequired value =>
    { record with results := { record.results with replayRequired := value } }
  | .replayReason value =>
    { record with results := { record.results with replayReason := value } }
  | .replayedByRequestId value =>
    { record with results := { record.results with replayedByRequestId := value } }
  | .terminalClassification value =>
    { record with results := { record.results with terminalClassification := value } }
  | .terminalFinalization value =>
    { record with results := { record.results with terminalFinalization := some value } }
  | .diagnostics value => { record with diagnostics := value }
  | .diagnosticEvidence value => { record with diagnosticEvidence := value }
  | .recoveryRequired value => { record with recoveryRequired := value }
  | .watchdogState value => { record with watchdogState := value }
  | .watchdogReason value => { record with watchdogReason := value }

def assignAll (record : Record) (updates : List ResultUpdate) : Record :=
  updates.foldl ResultUpdate.assign record

variable (projections : Projections)

/-- One round of `transition_record`'s update loop: an error is redacted, after the
worker evidence it carries has been taken out of it. -/
def ResultUpdate.applyTransition (record : Record) : ResultUpdate → Record
  | .error value =>
    let evidence := value.bind projections.extractWorkerEvidence
    { record with results := { record.results with
        workerEvidence := evidence.or record.results.workerEvidence
        error := value.map projections.redactError } }
  | update => update.assign record

/-- `updates.get("error")`. -/
def errorOf (updates : List ResultUpdate) : Option ErrorValue :=
  (updates.reverse.findSome? fun update =>
    match update with
    | .error value => some value
    | _ => none).join

/-- `updates["diagnostics"]`, when the key is there. -/
def diagnosticsOf (updates : List ResultUpdate) : Option (Option Diagnostics) :=
  updates.reverse.findSome? fun update =>
    match update with
    | .diagnostics value => some value
    | _ => none

/-- The whole of `transition_record`'s handling of its `updates`. -/
def applyUpdates (record : Record) (updates : List ResultUpdate) : Record :=
  let updated := updates.foldl (fun current update =>
    update.applyTransition projections current) record
  let derived := match errorOf updates with
    | some error => some (projections.mergeDiagnostics record.diagnostics
        (projections.classifyError error none none))
    | none => updated.diagnostics
  { updated with diagnostics := (diagnosticsOf updates).getD derived }

/-! ## Lifecycle transitions -/

/-- The identity a transition may be asked to check; `none` is "do not check". -/
structure ExpectedIdentity where
  revision : Option Int := none
  dispatchOwnerEpoch : Option String := none
  workerId : Option String := none
  attemptEpoch : Option Int := none

/-- `_check_expected_identity` on the four expectations as a whole. -/
def ExpectedIdentity.check (expected : ExpectedIdentity) (record : Record) :
    Except GatewayError Unit :=
  checkExpectedIdentity record expected.revision expected.dispatchOwnerEpoch expected.workerId
    expected.attemptEpoch

/-- The record that `transition_record` writes. -/
def transitioned (record : Record) (newState : RequestState) (updates : List ResultUpdate)
    (now : Timestamp) : Record :=
  let updated := applyUpdates projections
    { record with state := newState, updatedAt := now, revision := record.revision + 1 } updates
  if newState.isTerminal then { updated with recoveryRequired := false } else updated

/-- `sorted(set(names))`. -/
def sortedNames (names : List String) : List String :=
  names.eraseDups.mergeSort (fun first second => decide (first ≤ second))

def transitionRecord (requestId : String) (newState : RequestState) (updates : List Update)
    (expected : ExpectedIdentity) (now : Timestamp) : Operation where
  preflight :=
    refuse (updates.filterMap Update.illegal? ≠ [])
      (agentsErrorWith "VAL-AGW-098"
        "request transition may not modify immutable admission/ownership fields"
        [("request-id", .text requestId),
          ("rejected-fields", .names (sortedNames (updates.filterMap Update.illegal?)))])
  body record := do
    expected.check record
    ensureTransition record.state newState
    record.write
      (transitioned projections record newState (updates.filterMap Update.result?) now)

def terminalUpdates (updates : List Update) : List Update :=
  let classification := (errorOf (updates.filterMap Update.result?)).bind fun error =>
    if error.isMapping then error.watchdogClassification else none
  updates ++ (classification.toList.map fun value =>
      .result (.terminalClassification (some value))) ++
    [.result (.watchdogState (some .notStarted)), .result (.watchdogReason none),
      .result (.recoveryRequired false)]

/-- `transition_owned_terminal`, as far as the record goes. -/
def transitionOwnedTerminal (requestId : String) (newState : RequestState)
    (identity : OwnedIdentity) (updates : List Update) (expectedRevision : Option Int)
    (now : Timestamp) : Operation where
  preflight := do
    refuse (newState.isTerminal = false)
      (agentsError "VAL-AGW-084" "owned transition must be terminal")
    requireOwnedIdentity identity
    (transitionRecord projections requestId newState (terminalUpdates updates) {} now).preflight
  body :=
    (transitionRecord projections requestId newState (terminalUpdates updates)
      { revision := expectedRevision
        dispatchOwnerEpoch := identity.ownerEpoch
        workerId := identity.workerId
        attemptEpoch := some identity.attemptEpoch } now).body

def updateDiagnostics (diagnostics : Diagnostics) (evidence : Option Evidence)
    (expectedRevision : Option Int) (now : Timestamp) : Operation where
  preflight := .ok ()
  body record := do
    checkDiagnosticRevision record expectedRevision "diagnostic recovery revision is stale"
    record.write { record with
      diagnostics := some (projections.mergeDiagnostics record.diagnostics diagnostics)
      diagnosticEvidence := match evidence with
        | none => record.diagnosticEvidence
        | some item => lastItems 8 (record.diagnosticEvidence ++ [item])
      updatedAt := now
      revision := record.revision + 1 }

/-! ## Cancellation -/

structure CancelRequest where
  source : String
  actorType : String
  actorId : Option String
  reason : Option String

/-- An unknown source is recorded as a legacy one. -/
def CancelSource.ofText (text : String) : CancelSource :=
  if text = "api" then .api
  else if text = "operator" then .operator
  else if text = "watchdog" then .watchdog
  else if text = "worker-shutdown" then .workerShutdown
  else if text = "system" then .system
  else .unknownLegacy

def CancelActorType.ofText (text : String) : CancelActorType :=
  if text = "client" then .client
  else if text = "operator" then .operator
  else if text = "worker" then .worker
  else if text = "system" then .system
  else .unknown

/-- The component of `CANCEL_ACK_ACTORS` with this name. -/
def CancelAckActor.ofText? (text : String) : Option CancelAckActor :=
  if text = "queue-worker" then some .queueWorker
  else if text = "session-runtime" then some .sessionRuntime
  else if text = "dispatch" then some .dispatch
  else if text = "recovery" then some .recovery
  else none

/-- The provenance recorded for a cancellation requested at `now`. -/
def CancelRequest.provenance (request : CancelRequest) (now : Timestamp) : CancelProvenance where
  source := .ofText request.source
  actorType := .ofText request.actorType
  actorId := request.actorId.map (clip 128)
  reason := request.reason.map (clip 256)
  requestedAt := now

/-- The error mapping `{"code": "CON-AGW-CANCELLED"}`. -/
def cancelledError : ErrorValue where
  isMapping := true
  code := some "CON-AGW-CANCELLED"
  kind := none
  message := none
  details := none
  watchdogClassification := none
  text := ""

def cancellationDiagnostics (record : Record) : Diagnostics :=
  projections.classifyError cancelledError (some "cancellation")
    (record.diagnostics.map Diagnostics.sideEffectState)

def markCancelRequested (request : CancelRequest) (now : Timestamp) : Operation where
  preflight := .ok ()
  body record :=
    if record.cancelRequested then .ok record
    else record.write { record with
      cancelRequested := true
      diagnostics := some (projections.mergeDiagnostics record.diagnostics
        (cancellationDiagnostics projections record))
      cancelProvenance := some (request.provenance now)
      updatedAt := now
      revision := record.revision + 1 }

def acknowledgeCancel (actor : String) (now : Timestamp) : Operation where
  preflight :=
    refuse (CancelAckActor.ofText? actor = none)
      (agentsErrorWith "VAL-AGW-086"
        "cancel acknowledgement actor is required and must be a known component"
        [("by", .text actor),
          ("allowed", .names ["dispatch", "queue-worker", "recovery", "session-runtime"])])
  body record := do
    refuse (record.cancelRequested = false)
      (agentsErrorWith "CON-AGW-086" "cannot acknowledge a cancellation that was never requested"
        [("request-id", .text record.admission.requestId), ("state", .text record.state.text)])
    if record.cancelAcknowledgedBy.isSome then return record
    else record.write { record with
      cancelAcknowledgedAt := some now
      cancelAcknowledgedBy := CancelAckActor.ofText? actor
      updatedAt := now
      revision := record.revision + 1 }

def cancelQueuedOrMarkRequested (request : CancelRequest) (diagnostics : Option Diagnostics)
    (expectedRevision : Option Int) (now : Timestamp) : Operation where
  preflight := .ok ()
  body record := do
    checkDiagnosticRevision record expectedRevision "diagnostic recovery revision is stale"
    let merged := projections.mergeDiagnostics record.diagnostics
      (diagnostics.getD (cancellationDiagnostics projections record))
    if record.state = .queued then
      record.write { record with
        state := .cancelled
        cancelRequested := true
        diagnostics := some merged
        cancelProvenance := some (request.provenance now)
        cancelAcknowledgedAt := some now
        cancelAcknowledgedBy := some .queueWorker
        updatedAt := now
        revision := record.revision + 1
        results := { record.results with finishedAt := some now } }
    else if record.state = .running ∧ record.cancelRequested = false then
      record.write { record with
        cancelRequested := true
        diagnostics := some merged
        cancelProvenance := some (request.provenance now)
        updatedAt := now
        revision := record.revision + 1 }
    else if diagnostics.isSome then
      record.write { record with
        diagnostics := some merged
        updatedAt := now
        revision := record.revision + 1 }
    else return record

/-! ## Attempts -/

/-- The entry that `append_attempt` is asked to append. -/
structure AttemptEntry where
  executionProfileId : String
  providerId : Option String
  modelId : Option String
  state : AttemptState
  error : Option ErrorValue
  startedAt : Option Timestamp
  finishedAt : Option Timestamp

def appendAttempt (entry : AttemptEntry) (expectedDispatchOwnerEpoch expectedWorkerId :
    Option String)
    (expectedAttemptEpoch : Option Int) (now : Timestamp) : Operation where
  preflight := .ok ()
  body record := do
    checkExpectedIdentity record none expectedDispatchOwnerEpoch expectedWorkerId
      expectedAttemptEpoch
    record.write { record with
      attempts := record.attempts ++ [{
        executionProfileId := entry.executionProfileId
        providerId := entry.providerId
        modelId := entry.modelId
        state := entry.state
        error := entry.error.map projections.redactError
        startedAt := entry.startedAt.getD now
        finishedAt := entry.finishedAt
        workerId := record.workerId
        attemptEpoch := record.attemptEpoch }]
      updatedAt := now
      revision := record.revision + 1 }

def appendOwnedAttempt (identity : OwnedIdentity) (entry : AttemptEntry) (now : Timestamp) :
    Operation where
  preflight := requireOwnedIdentity identity
  body := (appendAttempt projections entry identity.ownerEpoch identity.workerId
    (some identity.attemptEpoch) now).body

def startAttempt (workerId : String) (now : Timestamp) : Operation where
  preflight := refuse (workerId = "") (agentsError "VAL-AGW-070" "worker_id is required")
  body record := do
    ensureTransition record.state .running
    record.write { record with
      state := .running
      workerId := some workerId
      attemptEpoch := record.attemptEpoch + 1
      updatedAt := now
      revision := record.revision + 1
      results := { record.results with startedAt := some now } }

/-- The argument check shared by the three operations that assign a worker. -/
def requireOwnerAndWorker (ownerEpoch workerId : Option String) : Except GatewayError Unit :=
  refuse (present ownerEpoch = false ∨ present workerId = false)
    (agentsError "VAL-AGW-070" "owner epoch and worker_id are required")

/-- `start_owned_attempt`, as far as the record goes. -/
def startOwnedAttempt (ownerEpoch workerId : Option String) (expectedRevision : Int)
    (now : Timestamp) : Operation where
  preflight := requireOwnerAndWorker ownerEpoch workerId
  body record := do
    checkExpectedIdentity record (some expectedRevision) ownerEpoch none none
    ensureTransition record.state .running
    record.write { record with
      state := .running
      workerId := workerId
      attemptEpoch := record.attemptEpoch + 1
      updatedAt := now
      revision := record.revision + 1
      results := { record.results with startedAt := some now } }

structure Placement where
  sourceId : Option String
  modelId : Option String
  modelSelector : Option String
  capacityGeneration : Option String

def prepareOwnedSessionAttempt (ownerEpoch workerId : Option String) (expectedRevision : Int)
    (resolved : Placement) (now : Timestamp) : Operation where
  preflight := requireOwnerAndWorker ownerEpoch workerId
  body record := do
    checkExpectedIdentity record (some expectedRevision) ownerEpoch none none
    refuse (record.state ≠ .queued)
      (agentsError "CON-AGW-087" "gateway session request is no longer queued")
    refuse (record.cancelRequested = true)
      (agentsError "CON-AGW-CANCELLED" "gateway session request was cancelled")
    record.write { record with
      workerId := workerId
      attemptEpoch := record.attemptEpoch + 1
      updatedAt := now
      revision := record.revision + 1
      resolvedSourceId := resolved.sourceId.or record.resolvedSourceId
      resolvedModelId := resolved.modelId.or record.resolvedModelId
      resolvedModelSelector := resolved.modelSelector.or record.resolvedModelSelector
      resolvedCapacityGeneration :=
        resolved.capacityGeneration.or record.resolvedCapacityGeneration }

/-- `start_owned_session_attempt`, as far as the record goes. -/
def startOwnedSessionAttempt (identity : OwnedIdentity) (now : Timestamp) : Operation where
  preflight := requireOwnedIdentity identity
  body record := do
    checkExpectedIdentity record none identity.ownerEpoch identity.workerId
      (some identity.attemptEpoch)
    if record.state = .running then return record
    else do
      refuse (record.state ≠ .queued)
        (agentsError "CON-AGW-087" "gateway session request is not dispatchable")
      refuse (record.cancelRequested = true)
        (agentsError "CON-AGW-CANCELLED" "gateway session request was cancelled")
      record.write { record with
        state := .running
        updatedAt := now
        watchdogState := some .active
        watchdogReason := some "awaiting-verified-activity"
        revision := record.revision + 1
        results := { record.results with startedAt := some now } }

def bindAndStartOwnedAttempt (ownerEpoch workerId : Option String) (expectedRevision : Int)
    (resolved : Placement) (now : Timestamp) : Operation where
  preflight := do
    requireOwnerAndWorker ownerEpoch workerId
    refuse (present resolved.sourceId = false ∨ present resolved.modelId = false)
      (agentsError "VAL-AGW-086" "resolved source id and model id are required before dispatch")
  body record := do
    checkExpectedIdentity record (some expectedRevision) ownerEpoch none none
    ensureTransition record.state .running
    record.write { record with
      state := .running
      workerId := workerId
      attemptEpoch := record.attemptEpoch + 1
      resolvedSourceId := resolved.sourceId
      resolvedModelId := resolved.modelId
      resolvedModelSelector := resolved.modelSelector
      resolvedCapacityGeneration := resolved.capacityGeneration
      watchdogState := some .active
      watchdogReason := some "awaiting-verified-activity"
      updatedAt := now
      revision := record.revision + 1
      results := { record.results with startedAt := some now } }

end Audiagentic.Gateway
