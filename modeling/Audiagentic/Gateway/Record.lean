import Audiagentic.Gateway.Contracts

/-!
# The gateway request record

The durable record of one gateway request, under contract version `v11`: what
`build_record` creates, what every store operation rewrites and what
`_validate` accepts.  Fields that the store copies without reading are kept as
documents (`Doc`, their JSON text); every field that some operation compares,
counts or branches on is typed.

`Record.schemaIssues` is the schema check of `write_record`, as far as the types
do not already enforce it.
-/

namespace Audiagentic.Gateway

open Foundations

/-- A JSON value the store carries without looking inside. -/
abbrev Doc := String

/-- A moment, in seconds: `now_iso_z` prints one and `fromisoformat` reads it back. -/
abbrev Timestamp := Int

/-! ## Request states -/

/-- The states of `workflows.yaml`, kind `gateway-request`. -/
inductive RequestState where
  | queued
  | running
  | completed
  | failed
  | cancelled
  | rejected
  | interrupted
deriving DecidableEq, Repr

namespace RequestState

def text : RequestState → String
  | queued => "queued"
  | running => "running"
  | completed => "completed"
  | failed => "failed"
  | cancelled => "cancelled"
  | rejected => "rejected"
  | interrupted => "interrupted"

/-- The state set `terminal`. -/
def isTerminal : RequestState → Bool
  | queued | running => false
  | completed | failed | cancelled | rejected | interrupted => true

/-- The rows of the workflow's `transitions` table. -/
def targets : RequestState → List RequestState
  | queued => [running, failed, cancelled, rejected, interrupted]
  | running => [completed, failed, cancelled, interrupted]
  | interrupted => [completed]
  | completed | failed | cancelled | rejected => []

/-- `transition_allowed_fn`. -/
def transitionAllowed (current new : RequestState) : Bool :=
  current.targets.contains new

end RequestState

/-! ## Parts of the record -/

/-- `provider-transport-kind`. -/
inductive TransportKind where
  | worker
  | providerSession
deriving DecidableEq

/-- `mode`. -/
inductive Mode where
  | async
  | blocking
deriving DecidableEq

structure NodePlacement where
  nodeId : String
  workspaceId : String
  principalId : String
  serverProjectId : String
  grantRevision : Nat
deriving DecidableEq

/-- `NodeAdmissionDescriptor`, with its policy's profile id in view. -/
structure NodeAdmission where
  serverId : String
  semantic : Doc
  policyProfileId : String
  policy : Doc
  sourceWorkspace : Option Doc
  snapshotSha256 : String
deriving DecidableEq

/-- `authorization-state` of a node dispatch. -/
inductive AuthorizationState where
  | notAuthorized
  | authorized
  | effectObserved
  | uncertain
  | terminal
  | noEffect
deriving DecidableEq

/-- The stages of a node receipt, in the order of the `stages` table. -/
inductive ReceiptStage where
  | prepared
  | effectIntent
  | nativeAccepted
  | terminal
deriving DecidableEq, Repr

namespace ReceiptStage

/-- The rank of a stage in the `stages` table. -/
def rank : ReceiptStage → Nat
  | prepared => 0
  | effectIntent => 1
  | nativeAccepted => 2
  | terminal => 3

end ReceiptStage

/-- `node-dispatch`: the one command identity a request is bound to, its
authorization and the last receipt applied. -/
structure NodeDispatch where
  identity : CommandIdentity
  attestationSha256 : Option String
  authorizationId : Option String
  authorizationState : AuthorizationState
  receiptSequence : Nat
  receiptSha256 : Option String
  receiptStage : Option ReceiptStage
  outputSha256 : Option String
deriving DecidableEq

/-- `recovery.reason`. -/
inductive RecoveryReason where
  | serviceRestart
  | gatewayRestart
  | ownerLoss
  | unprovenDispatch
  | unprovenExecution

/-- `recovery.outcome`. -/
inductive RecoveryOutcome where
  | resubmitRequired
  | replayRequired
  | manualReviewRequired
  | inPlace
  | boundedRecoveryExhausted
  | providerTerminalUncorrelated

/-- `recovery`: the recovery metadata of the record.  An absent key is `none`. -/
structure Recovery where
  reason : RecoveryReason
  outcome : RecoveryOutcome
  fromOwnerEpoch : Option String := none
  handoffId : Option String := none
  attempt : Option Nat := none
  followupAttempt : Option Nat := none
  lastError : Option String := none
  lastErrorCode : Option String := none
  lastErrorType : Option String := none
  lastErrorKind : Option String := none
  lastErrorDetails : Option Doc := none
  phase : Option String := none
  sideEffectState : Option String := none
  nextRetryAt : Option Timestamp := none
  retryDelaySeconds : Option Int := none
  continuation : Option Doc := none

/-- `watchdog-state`. -/
inductive WatchdogState where
  | notStarted
  | active
  | unknown
  | intervention
  | terminal
deriving DecidableEq

/-- The provider bucket of `activity`. -/
inductive Capability where
  | unsupported
  | supported
  | unknown
deriving DecidableEq

/-- `activity.provider`. -/
structure ProviderActivity where
  capability : Capability := .unknown
  firstAt : Option Timestamp := none
  lastAt : Option Timestamp := none
  leaseExpiresAt : Option Timestamp := none
  source : Option String := none
  sourceInstance : Option String := none
  sourceSequence : Nat := 0
  phase : Option String := none
  activityLabel : Option String := none
  activityGroup : Option String := none

/-- `activity.owner`. -/
structure OwnerActivity where
  lastAt : Option Timestamp := none
  leaseExpiresAt : Option Timestamp := none
  source : Option String := none
  sourceInstance : Option String := none
  sourceSequence : Nat := 0

/-- `activity`; its defaults are `default_activity()`. -/
structure Activity where
  sequence : Nat := 0
  lastAt : Option Timestamp := none
  lastSource : Option String := none
  provider : ProviderActivity := {}
  owner : OwnerActivity := {}

/-- `diagnostics.classification`. -/
inductive Classification where
  | providerRejected
  | providerError
  | browserAdapterError
  | gatewayOwnershipQueueError
  | gatewayRestart
  | cancelled
  | timeout
  | staleProgress
  | ambiguousSideEffect
  | unknown
deriving DecidableEq

/-- `diagnostics`: the semantic rollup beside the redacted error. -/
structure Diagnostics where
  classification : Classification
  certainty : String
  phase : String
  sideEffectState : String
  resolutionState : String
  failureCode : Option String
  reasonCode : Option String
  providerSignals : List String
  evidenceCount : Nat
  coalescedObservationCount : Nat
  disposition : String
  allowedActions : List String

/-- One item of `diagnostic-evidence`. -/
structure Evidence where
  evidenceId : String
  sequence : Nat
  requestId : Option String
  sessionId : Option String
  attemptEpoch : Nat
  phase : String
  kind : String
  certainty : String
  sideEffectState : String
  source : Option String
  sourceSequence : Option Nat
  activityLabel : Option String := none
  activityGroup : Option String := none

/-- `state` of an attempt entry. -/
inductive AttemptState where
  | running
  | completed
  | failed
  | cancelled

structure RedactedError where
  code : Option String
  message : Option String
  kind : Option String
  details : Option Doc

/-- One entry of `attempts`. -/
structure Attempt where
  executionProfileId : String
  providerId : Option String
  modelId : Option String
  state : AttemptState
  error : Option RedactedError
  startedAt : Timestamp
  finishedAt : Option Timestamp
  workerId : Option String
  attemptEpoch : Nat

/-- `cancel-provenance.source`. -/
inductive CancelSource where
  | api
  | operator
  | watchdog
  | workerShutdown
  | system
  | unknownLegacy
deriving DecidableEq

/-- `cancel-provenance.actor-type`. -/
inductive CancelActorType where
  | client
  | operator
  | worker
  | system
  | unknown
deriving DecidableEq

/-- `cancel-provenance`. -/
structure CancelProvenance where
  source : CancelSource
  actorType : CancelActorType
  actorId : Option String
  reason : Option String
  requestedAt : Timestamp
deriving DecidableEq

/-- `CANCEL_ACK_ACTORS`. -/
inductive CancelAckActor where
  | queueWorker
  | sessionRuntime
  | dispatch
  | recovery
deriving DecidableEq

/-- `terminal-classification`; `other` is a text outside the schema's list. -/
inductive TerminalClassification where
  | cancelled
  | workerProcessExited
  | providerTerminalError
  | verifiedStall
  | absoluteSafetyCeiling
  | uncorrelatedProviderTerminal
  | expiredProviderSession
  | other (text : String)

structure CaptureOwner where
  dispatchOwnerEpoch : Option String
  workerId : Option String
  attemptEpoch : Nat

/-- `terminal-finalization`: the session cleanup still owed by a completed request. -/
structure Finalization where
  sessionId : String
  recoveredBinding : Option Doc
  clearUnresolvedTurn : Bool
  preClearCheckpoint : Option Doc := none
  expectedSessionBinding : Option Doc := none
  captureOwner : Option CaptureOwner := none

/-- `watchdog-policy`, as far as the store reads it. -/
structure WatchdogPolicy where
  policyId : String
  policyDigest : String
  activityLeaseSeconds : Int
  absoluteSafetyCeilingSeconds : Int
  diagnosticGraceSeconds : Int
  initialActivityGraceSeconds : Option Int
  available : Bool

/-! ## The record -/

/-- The part of the record that admission fixes and no transition rewrites. -/
structure Admission where
  requestId : String
  executionProfileId : String
  mode : Mode
  contextFingerprint : Option String
  promptDigest : Option String
  continuationSessionId : Option String
  providerTransportKind : TransportKind
  sessionKeepAlive : Option Bool
  sessionIdleTimeoutSeconds : Option Int
  sessionMaxLifetimeSeconds : Option Int
  nodePlacement : Option NodePlacement
  nodeAdmission : Option NodeAdmission
  idempotencyKey : Option String
  enqueueOrdinal : Option Nat
  watchdogPolicy : Option WatchdogPolicy
  createdAt : Timestamp

/-- The result fields that a transition may set and no fence reads. -/
structure Results where
  providerId : Option String := none
  modelId : Option String := none
  output : Option String := none
  responseArtifact : Option Doc := none
  failureResponseArtifact : Option Doc := none
  failureResponsePreview : Option String := none
  failureResponseTruncated : Option Bool := none
  /-- The outer `none` is the absent key, the inner one a null value. -/
  outputPreview : Option (Option String) := some none
  outputTruncated : Option Bool := some false
  completion : Option Doc := none
  usage : Option Doc := none
  error : Option RedactedError := none
  workerEvidence : Option Doc := none
  startedAt : Option Timestamp := none
  finishedAt : Option Timestamp := none
  sessionId : Option String := none
  providerMetadata : Option Doc := none
  replayRequired : Option Bool := none
  replayReason : Option String := none
  replayedByRequestId : Option String := none
  terminalClassification : Option TerminalClassification := none
  terminalFinalization : Option Finalization := none

structure Record where
  admission : Admission
  state : RequestState
  revision : Nat
  updatedAt : Timestamp
  cancelRequested : Bool
  cancelAcknowledgedAt : Option Timestamp
  cancelAcknowledgedBy : Option CancelAckActor
  cancelProvenance : Option CancelProvenance
  workerId : Option String
  attemptEpoch : Nat
  dispatchOwnerEpoch : Option String
  dispatchClaimedAt : Option Timestamp
  dispatchServiceRoot : Option String
  recovery : Option Recovery
  recoveryRequired : Bool
  resolvedSourceId : Option String
  resolvedModelId : Option String
  resolvedModelSelector : Option String
  resolvedCapacityGeneration : Option String
  lastActivityAt : Option Timestamp
  activitySequence : Nat
  activitySource : Option String
  activityLeaseExpiresAt : Option Timestamp
  activity : Activity
  watchdogState : Option WatchdogState
  watchdogReason : Option String
  diagnostics : Option Diagnostics
  diagnosticEvidence : List Evidence
  attempts : List Attempt
  warnings : List Doc
  /-- `metadata["provider-chat-url"]`, the one metadata key the store reads. -/
  providerChatUrl : Option String
  metadata : Doc
  nodeDispatch : Option NodeDispatch
  results : Results

/-- `build_record`: the initial record of an admitted request. -/
def buildRecord (admission : Admission) (metadata : Doc) (warnings : List Doc)
    (sessionId : Option String) : Record where
  admission
  state := .queued
  revision := 0
  updatedAt := admission.createdAt
  cancelRequested := false
  cancelAcknowledgedAt := none
  cancelAcknowledgedBy := none
  cancelProvenance := none
  workerId := none
  attemptEpoch := 0
  dispatchOwnerEpoch := none
  dispatchClaimedAt := none
  dispatchServiceRoot := none
  recovery := none
  recoveryRequired := false
  resolvedSourceId := none
  resolvedModelId := none
  resolvedModelSelector := none
  resolvedCapacityGeneration := none
  lastActivityAt := none
  activitySequence := 0
  activitySource := none
  activityLeaseExpiresAt := none
  activity := {}
  watchdogState := some .notStarted
  watchdogReason := none
  diagnostics := none
  diagnosticEvidence := []
  attempts := []
  warnings
  providerChatUrl := none
  metadata
  nodeDispatch := none
  results := { sessionId }

/-! ## Schema validation -/

/-- The schema's `pattern`s are searched with `$`, which also matches before one
final newline. -/
def beforeFinalNewline (value : String) : String :=
  match value.toList.getLast? with
  | some '\n' => String.ofList value.toList.dropLast
  | _ => value

/-- `^[A-Za-z0-9][A-Za-z0-9_.:-]{0,199}$` in the schema. -/
def matchesIdentifier (value : String) : Bool :=
  isIdentifier value || isIdentifier (beforeFinalNewline value)

/-- `^[0-9a-f]{64}$` in the schema. -/
def matchesSha256 (value : String) : Bool :=
  isSha256Hex value || isSha256Hex (beforeFinalNewline value)

def whenPresent {α : Type} (check : α → Bool) : Option α → Bool
  | none => true
  | some value => check value

/-- The schema of `node-placement`. -/
def NodePlacement.schemaValid (placement : NodePlacement) : Bool :=
  [placement.nodeId, placement.workspaceId, placement.principalId,
      placement.serverProjectId].all matchesIdentifier &&
    isContractInteger placement.grantRevision

/-- The schema of `node-dispatch`. -/
def NodeDispatch.schemaValid (dispatch : NodeDispatch) : Bool :=
  dispatch.identity.identifiers.all matchesIdentifier &&
    dispatch.identity.integers.all isContractInteger &&
    matchesSha256 dispatch.identity.payloadSha256 &&
    whenPresent matchesSha256 dispatch.attestationSha256 &&
    whenPresent matchesIdentifier dispatch.authorizationId &&
    decide (dispatch.receiptSequence ≤ maxInteger) &&
    whenPresent matchesSha256 dispatch.receiptSha256 &&
    whenPresent matchesSha256 dispatch.outputSha256

/-- The length bounds of `recovery`. -/
def Recovery.schemaValid (recovery : Recovery) : Bool :=
  whenPresent (fun text => decide (text.length ≤ 256)) recovery.lastError &&
    whenPresent (fun text => decide (text.length ≤ 128)) recovery.lastErrorCode &&
    whenPresent (fun text => decide (text.length ≤ 128)) recovery.lastErrorType &&
    whenPresent (fun text => decide (text.length ≤ 64)) recovery.lastErrorKind &&
    whenPresent (fun text => decide (text.length ≤ 64)) recovery.phase &&
    whenPresent (fun text => decide (text.length ≤ 64)) recovery.sideEffectState &&
    whenPresent (fun delay => decide (0 ≤ delay)) recovery.retryDelaySeconds

/-- The length bounds of `diagnostics`. -/
def Diagnostics.schemaValid (diagnostics : Diagnostics) : Bool :=
  decide (diagnostics.providerSignals.length ≤ 8) &&
    diagnostics.providerSignals.all (fun signal => decide (signal.length ≤ 128)) &&
    decide (diagnostics.allowedActions.length ≤ 8) &&
    diagnostics.allowedActions.all (fun action => decide (action.length ≤ 64))

def Evidence.schemaValid (evidence : Evidence) : Bool :=
  decide (evidence.evidenceId.length ≤ 128) &&
    whenPresent (fun text => decide (text.length ≤ 128)) evidence.requestId &&
    whenPresent (fun text => decide (text.length ≤ 128)) evidence.sessionId &&
    decide (evidence.phase.length ≤ 64) && decide (evidence.kind.length ≤ 64) &&
    decide (evidence.certainty.length ≤ 32) && decide (evidence.sideEffectState.length ≤ 64) &&
    whenPresent (fun text => decide (text.length ≤ 128)) evidence.source &&
    whenPresent (fun text => decide (text.length ≤ 128)) evidence.activityLabel &&
    whenPresent (fun text => decide (text.length ≤ 64)) evidence.activityGroup

/-- The length bounds of `cancel-provenance`. -/
def CancelProvenance.schemaValid (provenance : CancelProvenance) : Bool :=
  whenPresent (fun text => decide (text.length ≤ 128)) provenance.actorId &&
    whenPresent (fun text => decide (text.length ≤ 256)) provenance.reason

def TerminalClassification.schemaValid : TerminalClassification → Bool
  | .other _ => false
  | _ => true

/-- The length bounds of the labels in `activity.provider`. -/
def ProviderActivity.schemaValid (provider : ProviderActivity) : Bool :=
  whenPresent (fun text => decide (text.length ≤ 128)) provider.activityLabel &&
    whenPresent (fun text => decide (text.length ≤ 64)) provider.activityGroup

namespace Record

def schemaChecks (record : Record) : List (String × Bool) :=
  [("node-placement", whenPresent NodePlacement.schemaValid record.admission.nodePlacement),
    ("node-dispatch", whenPresent NodeDispatch.schemaValid record.nodeDispatch),
    ("enqueue-ordinal", whenPresent (fun n => decide (1 ≤ n)) record.admission.enqueueOrdinal),
    ("warnings", decide (record.warnings.length ≤ 3)),
    ("activity", record.activity.provider.schemaValid),
    ("terminal-classification",
      whenPresent TerminalClassification.schemaValid record.results.terminalClassification),
    ("diagnostics", whenPresent Diagnostics.schemaValid record.diagnostics),
    ("diagnostic-evidence", decide (record.diagnosticEvidence.length ≤ 8) &&
      record.diagnosticEvidence.all Evidence.schemaValid),
    ("cancel-provenance", whenPresent CancelProvenance.schemaValid record.cancelProvenance),
    ("recovery", whenPresent Recovery.schemaValid record.recovery)]

/-- `validate_with_schema_fn`: the names of the fields the schema refuses. -/
def schemaIssues (record : Record) : List String :=
  (record.schemaChecks.filter (fun check => !check.2)).map Prod.fst

def admissionConsistent (record : Record) : Bool :=
  whenPresent (fun descriptor => descriptor.policyProfileId == record.admission.executionProfileId
    && record.admission.nodePlacement.isSome) record.admission.nodeAdmission

def validate (record : Record) (code : String) : Except GatewayError Unit := do
  refuse (record.admissionConsistent = false)
    (agentsError code "Node admission requires matching placement and profile")
  refuse (record.schemaIssues ≠ [])
    (agentsErrorWith code "gateway request record failed schema validation"
      [("issues", .names record.schemaIssues)])

/-- `_redact_for_persistence`: an answer kept as an artifact is not kept inline. -/
def redactForPersistence (record : Record) : Record :=
  { record with results := { record.results with
      output := if record.results.responseArtifact.isSome then none else record.results.output } }

/-- The keys that `_migrate_v1_payload` restores on a current-version record. -/
def migrate (record : Record) : Record :=
  { record with results := { record.results with
      outputPreview := some (record.results.outputPreview.getD record.results.output)
      outputTruncated := some (record.results.outputTruncated.getD false) } }

/-- `write_record` over a record read under the request lock: the record as it is
then on disk. -/
def write (previous updated : Record) : Except GatewayError Record := do
  refuse (updated.admission.requestId = "")
    (agentsError "VAL-AGW-003" "gateway request record missing request-id")
  updated.validate "VAL-AGW-004"
  refuse (previous.admission.nodeAdmission ≠ updated.admission.nodeAdmission)
    (agentsError "VAL-AGW-098" "Node admission descriptor is immutable after record creation")
  return updated.redactForPersistence

/-! ### Written records -/

/-- The record passes `_validate`. -/
structure Valid (record : Record) : Prop where
  consistent : record.admissionConsistent = true
  accepted : record.schemaIssues = []

theorem validate_eq_ok {record : Record} {code : String} {passed : Unit} :
    record.validate code = .ok passed ↔ record.Valid := by
  simp only [validate, refuse_bind_eq_ok, refuse_eq_ok, Bool.not_eq_false, not_not]
  exact ⟨fun checks => ⟨checks.1, checks.2⟩, fun valid => ⟨valid.consistent, valid.accepted⟩⟩

/-- **What a successful write means.**  The updated record is valid, keeps the admission
descriptor, and its redacted form is on disk. -/
theorem write_eq_ok {previous updated written : Record} :
    previous.write updated = .ok written ↔
      updated.admission.requestId ≠ "" ∧ updated.Valid ∧
        previous.admission.nodeAdmission = updated.admission.nodeAdmission ∧
        written = updated.redactForPersistence := by
  simp only [write, bind_eq_ok, refuse_eq_ok, validate_eq_ok, exists_const, not_not]
  constructor
  · rintro ⟨named, valid, kept, same⟩
    cases same
    exact ⟨named, valid, kept, rfl⟩
  · rintro ⟨named, valid, kept, rfl⟩
    exact ⟨named, valid, kept, rfl⟩

theorem write_eq_redact {previous updated written : Record}
    (success : previous.write updated = .ok written) : written = updated.redactForPersistence :=
  (write_eq_ok.mp success).2.2.2

/-- The schema accepts a record when it accepts each of the checked fields. -/
theorem valid_iff {record : Record} :
    record.Valid ↔ record.admissionConsistent = true ∧
      ∀ check ∈ record.schemaChecks, check.2 = true := by
  have accepted : record.schemaIssues = [] ↔ ∀ check ∈ record.schemaChecks, check.2 = true := by
    simp only [schemaIssues, List.map_eq_nil_iff, List.filter_eq_nil_iff, Bool.not_eq_true',
      Bool.not_eq_false]
  constructor
  · rintro ⟨consistent, issues⟩
    exact ⟨consistent, accepted.mp issues⟩
  · rintro ⟨consistent, checks⟩
    exact ⟨consistent, accepted.mpr checks⟩

theorem Valid.redact {record : Record} (valid : record.Valid) :
    record.redactForPersistence.Valid :=
  ⟨valid.consistent, valid.accepted⟩

theorem valid_migrate_iff {record : Record} : record.migrate.Valid ↔ record.Valid :=
  ⟨fun valid => ⟨valid.consistent, valid.accepted⟩, fun valid => ⟨valid.consistent, valid.accepted⟩⟩

end Record

end Audiagentic.Gateway
