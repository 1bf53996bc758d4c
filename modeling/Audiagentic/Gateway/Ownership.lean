import Audiagentic.Gateway.Transitions

/-!
# Ownership, recovery and operator completion

The operations that move the owner fence of a record: a dispatch claim, its
release, the takeover by a new gateway generation, the deferral of a recovery,
and the two terminal writes that do not come from the owner, by recovery and by
an operator.
-/

namespace Audiagentic.Gateway

open Foundations

variable (projections : Projections)

/-! ## Claims -/

inductive ClaimOutcome where
  /-- A running request under recovery, handed to the owner that took it over. -/
  | recoveredDispatch
  | alreadyClaimed
  | claimed
deriving DecidableEq

def claimed (record : Record) (ownerEpoch : String) (serviceRoot : Option String)
    (now : Timestamp) : Record :=
  { record with
    dispatchOwnerEpoch := some ownerEpoch
    dispatchClaimedAt := some now
    dispatchServiceRoot := serviceRoot
    updatedAt := now
    revision := record.revision + 1 }

/-- The body of `claim_dispatch`, with the branch it took. -/
def claimDispatchBody (ownerEpoch : String) (expectedRevision : Int)
    (serviceRoot : Option String) (now : Timestamp) (record : Record) :
    Except GatewayError (ClaimOutcome × Record) := do
  refuse (record.admission.nodePlacement.isSome = true ∧
      (record.revision : Int) ≠ expectedRevision)
    (agentsError "CON-AGW-071" "gateway request revision changed")
  if record.state = .running ∧ record.recoveryRequired = true ∧
      record.dispatchOwnerEpoch = some ownerEpoch then
    return (.recoveredDispatch, record)
  else do
    refuse ((record.revision : Int) ≠ expectedRevision)
      (agentsErrorWith "CON-AGW-071" "gateway request revision changed"
        [("expected", .number expectedRevision), ("actual", .number record.revision)])
    refuse (record.state ≠ .queued)
      (agentsError "CON-AGW-083" "gateway request is not available for dispatch claim")
    refuse (record.dispatchOwnerEpoch ≠ none ∧ record.dispatchOwnerEpoch ≠ some ownerEpoch)
      (agentsError "CON-AGW-083" "gateway request dispatch ownership changed")
    -- A takeover of an admitted, never claimed request leaves the service root
    -- empty; the owner's claim then still has to be completed.
    if record.dispatchOwnerEpoch = some ownerEpoch ∧
        (serviceRoot = none ∨ present record.dispatchServiceRoot = true) then
      return (.alreadyClaimed, record)
    else do
      let written ← record.write (claimed record ownerEpoch serviceRoot now)
      return (.claimed, written)

/-- `claim_dispatch`, as far as the record goes. -/
def claimDispatch (ownerEpoch : String) (expectedRevision : Int) (serviceRoot : Option String)
    (now : Timestamp) : Operation where
  preflight :=
    refuse (ownerEpoch = "") (agentsError "VAL-AGW-083" "dispatch owner epoch is required")
  body record := do
    let outcome ← claimDispatchBody ownerEpoch expectedRevision serviceRoot now record
    return outcome.2

def releaseStaleClaim (staleEpoch : Option String) (now : Timestamp) : Operation where
  preflight := .ok ()
  body record := do
    refuse (record.dispatchOwnerEpoch ≠ staleEpoch)
      (agentsError "CON-AGW-083" "gateway request dispatch ownership changed")
    refuse (record.state ≠ .queued)
      (agentsErrorWith "CON-AGW-083" "gateway request is not a stale queued claim"
        [("state", .text record.state.text)])
    record.write { record with
      dispatchOwnerEpoch := none
      dispatchClaimedAt := none
      dispatchServiceRoot := none
      updatedAt := now
      revision := record.revision + 1
      recovery := some { reason := .serviceRestart, outcome := .resubmitRequired } }

/-! ## Takeover -/

def takeoverRecovery (record : Record) (handoffId : Option String) : Recovery :=
  let previous := record.recovery.getD { reason := .ownerLoss, outcome := .inPlace }
  { previous with
    reason := if present handoffId then .gatewayRestart else previous.reason
    outcome := .inPlace
    fromOwnerEpoch := record.dispatchOwnerEpoch
    handoffId := if present handoffId then handoffId else previous.handoffId
    attempt := some (previous.attempt.getD 0) }

def takenOver (record : Record) (newOwnerEpoch : String) (newWorkerId handoffId : Option String)
    (now : Timestamp) : Record :=
  { record with
    dispatchOwnerEpoch := some newOwnerEpoch
    updatedAt := now
    recovery := some (takeoverRecovery record handoffId)
    recoveryRequired := decide (record.state = .running)
    revision := record.revision + 1
    workerId := newWorkerId.or record.workerId }

def takeoverNonterminalOwner (expectedOwnerEpoch : Option String) (newOwnerEpoch : String)
    (newWorkerId handoffId : Option String) (now : Timestamp) : Operation where
  preflight :=
    refuse (newOwnerEpoch = "") (agentsError "VAL-AGW-087" "new gateway owner epoch is required")
  body record :=
    if record.state ≠ .queued ∧ record.state ≠ .running then .ok record
    else do
      refuse (∃ expected ∈ expectedOwnerEpoch, record.dispatchOwnerEpoch ≠ some expected)
        (agentsError "CON-AGW-083" "gateway request dispatch ownership changed")
      if record.dispatchOwnerEpoch = some newOwnerEpoch then return record
      else record.write (takenOver record newOwnerEpoch newWorkerId handoffId now)

/-! ## Deferred recovery -/

structure Deferral where
  error : Option ErrorValue
  phase : String
  sideEffectState : String
  retryDelaySeconds : Option Int
  continuation : Option Doc
  allowQueued : Bool
  expectedRevision : Option Int

/-- The deferral of a queued node request that no worker has claimed. -/
def Deferral.unclaimedNode (deferral : Deferral) (identity : OwnedIdentity) : Bool :=
  deferral.allowQueued && identity.workerId.isNone && decide (identity.attemptEpoch = 0)

/-- `error_message`, before it is clipped. -/
def Deferral.errorMessage (deferral : Deferral) : String :=
  match deferral.error with
  | none => "recovery retry deferred"
  | some error => error.message.getD error.text

def Deferral.recovery (deferral : Deferral) (record : Record) (now : Timestamp) : Recovery where
  reason := (record.recovery.map Recovery.reason).getD .gatewayRestart
  outcome := .inPlace
  fromOwnerEpoch := record.recovery.bind Recovery.fromOwnerEpoch
  handoffId := record.recovery.bind Recovery.handoffId
  attempt := some ((record.recovery.bind Recovery.attempt).getD 0 + 1)
  followupAttempt := some ((record.recovery.bind Recovery.followupAttempt).getD 0 +
    if deferral.phase = "followup-reconcile" then 1 else 0)
  lastError := some (clip 256 deferral.errorMessage)
  lastErrorCode := (deferral.error.map projections.boundedRecoveryError).bind BoundedError.code
  lastErrorType :=
    (deferral.error.map projections.boundedRecoveryError).bind BoundedError.errorType
  lastErrorKind := (deferral.error.map projections.boundedRecoveryError).bind BoundedError.kind
  lastErrorDetails :=
    (deferral.error.map projections.boundedRecoveryError).bind BoundedError.details
  phase := some deferral.phase
  sideEffectState := some deferral.sideEffectState
  nextRetryAt := deferral.retryDelaySeconds.map (now + ·)
  retryDelaySeconds := some (deferral.retryDelaySeconds.getD 0)
  continuation := deferral.continuation.or (record.recovery.bind Recovery.continuation)

def Deferral.deferred (deferral : Deferral) (record : Record) (now : Timestamp) : Record :=
  let queuedRecovery := decide (record.state = .queued)
  let unscheduled := deferral.retryDelaySeconds.isNone
  { record with
    diagnostics :=
      if record.diagnostics.isNone ∧ deferral.sideEffectState ≠ "not-started" then
        some (projections.staleProgressDiagnostic "reconciliation" deferral.sideEffectState
          deferral.phase)
      else record.diagnostics
    recovery := some (deferral.recovery projections record now)
    recoveryRequired := !queuedRecovery
    watchdogState := some (if queuedRecovery then .notStarted
      else if unscheduled then .intervention else .active)
    watchdogReason := some (if unscheduled then deferral.phase
      else if queuedRecovery then "queued-recovery-retry" else "recovery-retry-scheduled")
    updatedAt := now
    revision := record.revision + 1 }

/-- `defer_owned_recovery`, and with `allowQueued` also `defer_owned_queued_recovery`. -/
def deferOwnedRecovery (identity : OwnedIdentity) (deferral : Deferral) (now : Timestamp) :
    Operation where
  preflight := do
    if deferral.unclaimedNode identity = true then
      refuse (present identity.ownerEpoch = false ∨
          ¬ ∃ expected ∈ deferral.expectedRevision, 0 ≤ expected)
        (agentsError "VAL-AGW-085" "Unclaimed node deferral requires owner and revision")
    else requireOwnedIdentity identity
    refuse (deferral.phase = "" ∨ ∃ delay ∈ deferral.retryDelaySeconds, delay < 0)
      (agentsError "VAL-AGW-087" "recovery retry metadata is invalid")
  body record := do
    refuse (deferral.retryDelaySeconds = none ∧ record.admission.nodePlacement.isNone = true)
      (agentsError "VAL-AGW-085" "Unscheduled deferral requires node placement")
    refuse (deferral.unclaimedNode identity = true ∧
        (record.admission.nodePlacement.isNone = true ∨ record.state ≠ .queued ∨
          record.workerId ≠ none ∨ record.attemptEpoch ≠ 0))
      (agentsError "VAL-AGW-085" "Unclaimed deferral requires a queued node request")
    checkExpectedIdentity record deferral.expectedRevision identity.ownerEpoch identity.workerId
      (some identity.attemptEpoch)
    refuse (record.state ≠ .running ∧ ¬ (deferral.allowQueued = true ∧ record.state = .queued))
      (agentsError "CON-AGW-088" "gateway request is not running")
    record.write (deferral.deferred projections record now)

/-! ## Terminal writes that are not the owner's -/

/-- The record `transition_recovered_terminal` writes. -/
def recoveredTerminal (record : Record) (newState : RequestState) (error : Option ErrorValue)
    (replayRequired : Option Bool) (replayReason : Option String) (now : Timestamp) : Record :=
  let acknowledges := record.cancelRequested && record.cancelAcknowledgedBy.isNone
  { record with
    state := newState
    dispatchServiceRoot := none
    updatedAt := now
    revision := record.revision + 1
    recovery := some { reason := .serviceRestart, outcome :=
      if replayRequired = some true then .replayRequired else .resubmitRequired }
    watchdogState := some .notStarted
    watchdogReason := none
    diagnostics := match error with
      | some failure =>
        if newState = .interrupted ∧ failure.code = some "CON-AGW-084" then
          some (projections.mergeDiagnostics record.diagnostics
            (projections.classifyError failure (some "reconciliation") (some "may-have-started")))
        else record.diagnostics
      | none => record.diagnostics
    cancelAcknowledgedAt := if acknowledges then some now else record.cancelAcknowledgedAt
    cancelAcknowledgedBy := if acknowledges then some .recovery else record.cancelAcknowledgedBy
    results := { record.results with
      error := error.map projections.redactError
      finishedAt := some now
      workerEvidence :=
        (error.bind projections.extractWorkerEvidence).or record.results.workerEvidence
      replayRequired := replayRequired.or record.results.replayRequired
      replayReason := replayReason.or record.results.replayReason } }

def transitionRecoveredTerminal (newState : RequestState) (error : Option ErrorValue)
    (staleEpoch : Option String) (expectedRevision : Option Int) (replayRequired : Option Bool)
    (replayReason : Option String) (now : Timestamp) : Operation where
  preflight :=
    refuse (newState.isTerminal = false)
      (agentsError "VAL-AGW-084" "recovered transition must be terminal")
  body record := do
    checkDiagnosticRevision record expectedRevision
      "gateway request revision changed during recovery"
    refuse (∃ expected ∈ staleEpoch, record.dispatchOwnerEpoch ≠ some expected)
      (agentsError "CON-AGW-083" "gateway request dispatch ownership changed")
    ensureTransition record.state newState
    record.write
      (recoveredTerminal projections record newState error replayRequired replayReason now)

/-- The arguments of `transition_operator_terminal`, with the answers of the recovery
journal and of the session store it consults. -/
structure OperatorCapture where
  expectedRevision : Int
  /-- The result fields to set, the captured answer's artifact among them. -/
  updates : List ResultUpdate
  /-- The recovery claim is the caller's when the request lock is taken. -/
  claimHeldAtEntry : Bool
  finalization : Option Finalization
  artifactFailure : Option GatewayError
  /-- The session record still matches the expected provider and binding. -/
  sessionUnchanged : Bool
  /-- The recovery claim is still the caller's just before the write. -/
  claimHeldAtCommit : Bool
  /-- `_apply_terminal_finalization` succeeded and reported the cleanup done. -/
  finalizationApplied : Bool

def operatorBase (record : Record) (capture : OperatorCapture) (now : Timestamp) : Record :=
  { record with
    state := .completed
    updatedAt := now
    revision := record.revision + 1
    workerId := none
    dispatchOwnerEpoch := none
    dispatchClaimedAt := none
    watchdogState := some .notStarted
    watchdogReason := none
    recoveryRequired := false
    diagnostics := record.diagnostics.map fun diagnostics =>
      { diagnostics with
        resolutionState := "resolved", disposition := "none", allowedActions := [] }
    results := { record.results with
      outputPreview := none
      outputTruncated := none
      finishedAt := some now
      terminalFinalization := capture.finalization.or record.results.terminalFinalization } }

def operatorCompleted (record : Record) (capture : OperatorCapture) (now : Timestamp) : Record :=
  assignAll (operatorBase record capture now) capture.updates

def retireFinalization (record : Record) (revision : Nat) (now : Timestamp) : Record :=
  { record with
    updatedAt := now
    revision := revision
    results := { record.results with terminalFinalization := none } }

/-- `RecoveryClaimLostError`. -/
def recoveryClaimLost : GatewayError :=
  agentsError "RecoveryClaimLostError" "recovery claim lost before terminal commit"

def transitionOperatorTerminal (capture : OperatorCapture) (now : Timestamp) : Operation where
  preflight := refuse (capture.claimHeldAtEntry = false) recoveryClaimLost
  body record := do
    checkExpectedIdentity record (some capture.expectedRevision) none none none
    if record.state = .completed then return record
    else do
      refuse (record.state = .rejected)
        (agentsError "CON-AGW-151" "request is not operator-completable")
      refuse (capture.artifactFailure ≠ none) (capture.artifactFailure.getD recoveryClaimLost)
      refuse (capture.sessionUnchanged = false)
        (agentsErrorWith "CON-AGW-156" "provider session changed during response capture"
          [("request-id", .text record.admission.requestId)])
      refuse (capture.claimHeldAtCommit = false) recoveryClaimLost
      let written ← record.write (operatorCompleted record capture now)
      -- A cleanup that is already done, with no checkpoint to hand over, retires its marker
      -- in a second write.
      match capture.finalization with
      | some finalization =>
        if capture.finalizationApplied = true ∧ finalization.preClearCheckpoint = none then
          written.migrate.write (retireFinalization written.migrate (record.revision + 2) now)
        else return written
      | none => return written

/-- `repair_pending_terminal_finalization`, up to the hand-over to the live observer. -/
def repairPendingTerminalFinalization (applied : Bool) (now : Timestamp) : Operation where
  preflight := .ok ()
  body record :=
    match record.results.terminalFinalization with
    | some finalization =>
      if record.state = .completed ∧ applied = true ∧ finalization.preClearCheckpoint = none then
        record.write (retireFinalization record (record.revision + 1) now)
      else .ok record
    | none => .ok record

def linkReplay (newRequestId : String) (now : Timestamp) : Operation where
  preflight := .ok ()
  body record := do
    refuse (record.state ≠ .interrupted ∨ record.results.replayRequired ≠ some true)
      (agentsErrorWith "CON-AGW-103"
        "can only link replay to an interrupted request requiring replay"
        [("request-id", .text record.admission.requestId), ("state", .text record.state.text)])
    record.write { record with
      updatedAt := now
      revision := record.revision + 1
      results := { record.results with replayedByRequestId := some newRequestId } }

end Audiagentic.Gateway
