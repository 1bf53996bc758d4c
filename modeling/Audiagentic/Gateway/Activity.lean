import Audiagentic.Gateway.Ownership

/-!
# Activity leases, the watchdog and the running session

The owned writes that a live worker makes while its request runs: accepted
activity, the diagnostic that an expired lease leaves, and the attachment of the
provider session.  None of them moves the owner fence or the request state.
-/

namespace Audiagentic.Gateway

open Foundations

variable (projections : Projections)

/-! ## Accepted activity -/

inductive ActivityKind where
  | provider
  | ownerHeartbeat
  | clientLiveness
deriving Repr

def ActivityKind.ofText? (text : String) : Option ActivityKind :=
  if text = "provider" then some .provider
  else if text = "owner-heartbeat" then some .ownerHeartbeat
  else if text = "client-liveness" then some .clientLiveness
  else none

/-- The arguments of `record_owned_activity` beside the identity. -/
structure ActivityReport where
  kind : String
  source : String
  sourceInstance : Option String
  sourceSequence : Option Int
  phase : Option String
  providerCapability : Option Capability
  activityLeaseSeconds : Int
  aggregateSequence : Option Nat

def nextSourceSequence (current : Nat) (reported : Option Int) : Nat :=
  (reported.map Int.toNat).getD (current + 1)

def ActivityReport.aggregate (report : ActivityReport) (record : Record) : Nat :=
  report.aggregateSequence.getD
    ((if record.activity.sequence = 0 then record.activitySequence
      else record.activity.sequence) + 1)

def ActivityReport.ownerBucket (report : ActivityReport) (bucket : OwnerActivity)
    (now : Timestamp) : OwnerActivity where
  lastAt := some now
  leaseExpiresAt := some (now + report.activityLeaseSeconds)
  source := some report.source
  sourceInstance := report.sourceInstance
  sourceSequence := nextSourceSequence bucket.sourceSequence report.sourceSequence

def ActivityReport.providerBucket (report : ActivityReport) (bucket : ProviderActivity)
    (now : Timestamp) : ProviderActivity :=
  let label := projections.normalizeActivityLabel report.phase
  { bucket with
    lastAt := some now
    leaseExpiresAt := some (now + report.activityLeaseSeconds)
    source := some report.source
    sourceInstance := report.sourceInstance
    sourceSequence := nextSourceSequence bucket.sourceSequence report.sourceSequence
    firstAt := some (bucket.firstAt.getD now)
    phase := label.or report.phase
    activityLabel := label
    activityGroup := projections.activityGroup label
    capability := report.providerCapability.getD bucket.capability }

/-- The report repeats a sequence number that its bucket has seen from this source. -/
def ActivityReport.repeated (report : ActivityReport) (bucketInstance : Option String)
    (bucketSequence : Nat) : Bool :=
  match report.sourceSequence with
  | none => false
  | some sequence =>
    decide (bucketInstance = report.sourceInstance) && decide (sequence ≤ bucketSequence)

/-- Provider work was seen: a stale-progress suspicion is resolved, the counters go up. -/
def Diagnostics.activityResumed (diagnostics : Diagnostics) : Diagnostics :=
  let counted := { diagnostics with
    coalescedObservationCount := diagnostics.coalescedObservationCount + 1
    evidenceCount := diagnostics.evidenceCount + 1 }
  if diagnostics.classification = .staleProgress then
    { counted with
      resolutionState := "resolved"
      reasonCode := some "activity-resumed"
      disposition := "none"
      allowedActions := [] }
  else counted

def ActivityReport.accepted (report : ActivityReport) (record : Record) (attemptEpoch : Int)
    (now : Timestamp) : ActivityKind → Record
  | .ownerHeartbeat =>
    -- A heartbeat is evidence of ownership only: it renews no lease.
    { record with
      activity := { record.activity with owner := report.ownerBucket record.activity.owner now }
      updatedAt := now
      revision := record.revision + 1 }
  | .clientLiveness =>
    { record with
      lastActivityAt := some now
      activitySequence := report.aggregate record
      activitySource := some report.source
      activity := { record.activity with
        owner := report.ownerBucket record.activity.owner now
        sequence := report.aggregate record
        lastAt := some now
        lastSource := some report.source }
      updatedAt := now
      revision := record.revision + 1 }
  | .provider =>
    { record with
      diagnosticEvidence := lastItems 8 (record.diagnosticEvidence ++
        [projections.evidenceFromActivity record.admission.requestId record.results.sessionId
          attemptEpoch report.phase report.source (report.sourceSequence.map Int.toNat)
          (report.aggregate record)])
      diagnostics := record.diagnostics.map Diagnostics.activityResumed
      lastActivityAt := some now
      activitySequence := report.aggregate record
      activitySource := some report.source
      activityLeaseExpiresAt := some (now + report.activityLeaseSeconds)
      activity := { record.activity with
        sequence := report.aggregate record
        lastAt := some now
        lastSource := some report.source
        provider := report.providerBucket projections record.activity.provider now }
      watchdogState := some .active
      watchdogReason := some "verified-activity-renewed"
      updatedAt := now
      revision := record.revision + 1 }

def ActivityReport.seenBy (report : ActivityReport) (activity : Activity) : ActivityKind → Bool
  | .provider => report.repeated activity.provider.sourceInstance activity.provider.sourceSequence
  | .ownerHeartbeat | .clientLiveness =>
    report.repeated activity.owner.sourceInstance activity.owner.sourceSequence

def recordOwnedActivity (identity : OwnedIdentity) (report : ActivityReport) (now : Timestamp) :
    Operation where
  preflight := do
    requireOwnedIdentity identity
    refuse (ActivityKind.ofText? report.kind = none)
      (agentsErrorWith "VAL-AGW-088" "unknown activity kind" [("kind", .text report.kind)])
    refuse (report.source = "") (agentsError "VAL-AGW-088" "activity source is required")
    refuse (∃ sequence ∈ report.sourceSequence, sequence < 0)
      (agentsError "VAL-AGW-088" "source activity sequence is invalid")
    refuse (report.activityLeaseSeconds ≤ 0)
      (agentsError "VAL-AGW-088" "activity lease seconds must be positive")
  body record := do
    checkExpectedIdentity record none identity.ownerEpoch identity.workerId
      (some identity.attemptEpoch)
    refuse (record.state ≠ .running) (agentsError "CON-AGW-088" "gateway request is not running")
    let kind := (ActivityKind.ofText? report.kind).getD .provider
    if report.seenBy record.activity kind = true then return record
    else record.write (report.accepted projections record identity.attemptEpoch now kind)

/-- `source.strip().lower().replace("_", "-").replace(" ", "-")`, for an ASCII source. -/
def normalizedSource (source : String) : String :=
  String.ofList <| (source.trimAscii.toString.toLower.toList).map fun c =>
    if c = '_' ∨ c = ' ' then '-' else c

/-- The kind that `renew_owned_activity` derives from the source. -/
def renewalKind (source : String) : String :=
  if normalizedSource source = "soft-liveness" ∨
      normalizedSource source = "delivery-timeout-retry" then "client-liveness"
  else if projections.isMeaningfulActivity (some source) (some source) then "provider"
  else "owner-heartbeat"

def renewOwnedActivity (identity : OwnedIdentity) (activitySeq : Int) (activitySource : String)
    (activityLeaseSeconds : Int) (now : Timestamp) : Operation :=
  let renewal := recordOwnedActivity projections identity
    { kind := renewalKind projections activitySource
      source := activitySource
      sourceInstance := identity.workerId
      sourceSequence := some activitySeq
      phase := none
      providerCapability := none
      activityLeaseSeconds
      aggregateSequence := some activitySeq.toNat } now
  { preflight := do
      requireOwnedIdentity identity
      refuse (activitySeq ≤ 0)
        (agentsError "VAL-AGW-088" "activity sequence must be positive")
      refuse (activitySource = "") (agentsError "VAL-AGW-088" "activity source is required")
      refuse (activityLeaseSeconds ≤ 0)
        (agentsError "VAL-AGW-088" "activity lease seconds must be positive")
      renewal.preflight
    body := renewal.body }

/-! ## The watchdog -/

/-- The provider bucket holds real provider work, not synthetic liveness. -/
def providerActivityIsReal (provider : ProviderActivity) : Bool :=
  (provider.phase.isNone && !present provider.source) ||
    projections.isMeaningfulActivity provider.source provider.phase

def firstActivity (provider : ProviderActivity) : Option Timestamp :=
  if providerActivityIsReal projections provider then provider.firstAt.or provider.lastAt else none

/-- The grace before the first activity: the policy's, when positive, else thirty seconds. -/
def initialGrace (record : Record) : Int :=
  match record.admission.watchdogPolicy.bind WatchdogPolicy.initialActivityGraceSeconds with
  | some seconds => if 0 < seconds then seconds else 30
  | none => 30

/-- No activity was ever seen and the initial grace is over. -/
def initialObservationExpired (record : Record) (now : Timestamp) : Bool :=
  (firstActivity projections record.activity.provider).isNone &&
    match record.results.startedAt with
    | some startedAt => decide (startedAt + initialGrace record ≤ now)
    | none => false

def watchdogExpiry (record : Record) : Option Timestamp :=
  let provider := record.activity.provider
  if providerActivityIsReal projections provider = true ∧ provider.capability = .supported ∧
      provider.lastAt.isSome = true then provider.leaseExpiresAt
  else match record.admission.providerTransportKind with
    | .providerSession => none
    | .worker => record.activityLeaseExpiresAt

def watchdogExpired (record : Record) (now : Timestamp) : Bool :=
  let expired := initialObservationExpired projections record now
  if record.admission.providerTransportKind = .providerSession ∧
      (firstActivity projections record.activity.provider).isNone = true ∧ expired = false then
    false
  else if record.activity.provider.capability = .unsupported ∧ expired = false then false
  else expired || match watchdogExpiry projections record with
    | some expiry => decide (expiry ≤ now)
    -- A missing lease must not keep work alive.
    | none => true

def watchdogIntervened (record : Record) (attemptEpoch : Int) (now : Timestamp) : Record :=
  let initial := initialObservationExpired projections record now
  let reasonCode :=
    if initial then "initial-activity-observation-expired" else "activity-lease-expired"
  let diagnostic := projections.staleProgressDiagnostic "reconciliation" "may-have-started"
    reasonCode
  { record with
    diagnostics := some (match record.diagnostics with
      | some prior => { diagnostic with
          evidenceCount := prior.evidenceCount + 1
          coalescedObservationCount := prior.coalescedObservationCount }
      | none => diagnostic)
    diagnosticEvidence := lastItems 8 (record.diagnosticEvidence ++ [{
      evidenceId := s!"ev_watchdog_{attemptEpoch}"
      sequence := record.activitySequence
      requestId := some record.admission.requestId
      sessionId := record.results.sessionId
      attemptEpoch := attemptEpoch.toNat
      phase := "reconciliation"
      kind := if initial then "initial-activity-timeout" else "activity-lease-expired"
      certainty := "weak"
      sideEffectState := "may-have-started"
      source := some "gateway-watchdog"
      sourceSequence := none }])
    watchdogState := some .intervention
    watchdogReason := some (if initial then "initial-activity-observation-expired"
      else "activity-lease-expired-diagnostic")
    updatedAt := now
    revision := record.revision + 1 }

def markWatchdogInterventionIfExpired (identity : OwnedIdentity) (now : Timestamp) :
    Operation where
  preflight := requireOwnedIdentity identity
  body record := do
    checkExpectedIdentity record none identity.ownerEpoch identity.workerId
      (some identity.attemptEpoch)
    if record.state ≠ .running then return record
    else if watchdogExpired projections record now = false ∨
        record.watchdogState = some .intervention then return record
    else record.write (watchdogIntervened projections record identity.attemptEpoch now)

/-! ## The running session -/

/-- The arguments of `update_owned_running_session` beside the identity. -/
structure SessionAttachment where
  sessionId : String
  providerMetadata : Option Doc
  warnings : Option (List Doc)
  recoveryChatUrl : Option String
  resultUpdates : List Update

def SessionAttachment.attached (attachment : SessionAttachment) (record : Record) : Record :=
  let touched := attachment.warnings.isSome || present attachment.recoveryChatUrl
  { record with
    warnings := (attachment.warnings.map (lastItems 3)).getD record.warnings
    providerChatUrl :=
      if touched then
        (if present attachment.recoveryChatUrl then attachment.recoveryChatUrl else none)
      else record.providerChatUrl
    results := { record.results with
      sessionId := some attachment.sessionId
      providerMetadata := attachment.providerMetadata.or record.results.providerMetadata } }

/-- `update_owned_running_session`.  `updatesUnchanged` is the answer of the source's
comparison of each result update with the stored field. -/
def updateOwnedRunningSession (identity : OwnedIdentity) (attachment : SessionAttachment)
    (updatesUnchanged : Bool) (now : Timestamp) : Operation where
  preflight := do
    requireOwnedIdentity identity
    refuse (attachment.sessionId = "")
      (agentsError "VAL-AGW-087" "session_id is required for a running session update")
  body record := do
    checkExpectedIdentity record none identity.ownerEpoch identity.workerId
      (some identity.attemptEpoch)
    refuse (record.state ≠ .queued ∧ record.state ≠ .running)
      (agentsErrorWith "CON-AGW-087" "gateway request is not an active session attempt"
        [("request-id", .text record.admission.requestId), ("state", .text record.state.text)])
    if record.results.sessionId = some attachment.sessionId ∧
        (∀ metadata ∈ attachment.providerMetadata,
          record.results.providerMetadata.getD "\x7b\x7d" = metadata) ∧
        (∀ warnings ∈ attachment.warnings, lastItems 3 warnings = record.warnings) ∧
        (∀ url ∈ attachment.recoveryChatUrl, record.providerChatUrl = some url) ∧
        (attachment.resultUpdates.isEmpty = true ∨ updatesUnchanged = true) then return record
    else do
      refuse (attachment.resultUpdates.filterMap Update.illegal? ≠ [])
        (agentsErrorWith "VAL-AGW-088" "invalid running result update"
          [("field", .text ((attachment.resultUpdates.filterMap Update.illegal?).headD ""))])
      record.write { assignAll (attachment.attached record)
          (attachment.resultUpdates.filterMap Update.result?) with
        updatedAt := now
        revision := record.revision + 1 }

end Audiagentic.Gateway
