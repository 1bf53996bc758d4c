import Mathlib.Data.Finset.Basic
import Audiagentic.Gateway.Transitions

/-!
# Stored payloads and their migration

A record on disk carries the contract version it was written under, and an older writer may
have left keys out of it.  `_migrate_v1_payload` runs on every locked read.  `StoredPayload`
is the document on disk: a record together with its version, the keys it lacks and the keys
the current contract does not know.

Records of versions `v8` to `v10` get a new envelope and nothing else; all others go through
the full migration, which for the versions before `v8` also clears the ownership, recovery
and replay fields.
-/

namespace Audiagentic.Gateway

open Foundations

/-! ## Versions and keys -/

/-- `contract-version`. -/
inductive ContractVersion where
  | v1 | v2 | v3 | v4 | v5 | v6 | v7 | v8 | v9 | v10 | v11
deriving DecidableEq, Repr

namespace ContractVersion

def label : ContractVersion → ContractVersion
  | v1 | v2 | v3 | v4 | v5 => v5
  | v7 => v7
  | v6 | v8 | v9 | v10 | v11 => v11

def envelopeOnly : ContractVersion → Bool
  | v8 | v9 | v10 => true
  | _ => false

def clearsFences : ContractVersion → Bool
  | v1 | v2 | v3 | v4 | v5 | v6 | v7 => true
  | v8 | v9 | v10 | v11 => false

def schemaKnows : ContractVersion → Bool
  | v1 | v2 | v3 | v4 => false
  | _ => true

end ContractVersion

/-- The keys that a migration sets when they are missing.  `attestation` is the key
`attestation-sha256` of a node dispatch, and `activity` stands for the activity document and
the keys in it. -/
inductive DefaultedKey where
  | nodeAdmission
  | nodeDispatch
  | nodePlacement
  | attestation
  | cancelAcknowledgedAt
  | cancelAcknowledgedBy
  | cancelProvenance
  | dispatchServiceRoot
  | responseArtifact
  | providerTransportKind
  | continuationSessionId
  | dispatchOwnerEpoch
  | dispatchClaimedAt
  | recovery
  | replayRequired
  | replayReason
  | replayedByRequestId
  | resumedFromRequestId
  | resolvedSourceId
  | resolvedModelSelector
  | resolvedCapacityGeneration
  | lastActivityAt
  | activitySequence
  | activitySource
  | activityLeaseExpiresAt
  | recoveryRequired
  | activity
  | watchdogState
  | watchdogReason
  | watchdogPolicy
  | terminalClassification
  | diagnostics
  | diagnosticEvidence
deriving DecidableEq, Repr

namespace DefaultedKey

/-- What the record holds at a key that the payload lacks: the value `get` answers. -/
def Unset (record : Record) (resumedFrom : Option String) : DefaultedKey → Prop
  | nodeAdmission => record.admission.nodeAdmission = none
  | nodeDispatch => record.nodeDispatch = none
  | nodePlacement => record.admission.nodePlacement = none
  | attestation => ∃ dispatch, record.nodeDispatch = some dispatch ∧
      dispatch.attestationSha256 = none
  | cancelAcknowledgedAt => record.cancelAcknowledgedAt = none
  | cancelAcknowledgedBy => record.cancelAcknowledgedBy = none
  | cancelProvenance => record.cancelProvenance = none
  | dispatchServiceRoot => record.dispatchServiceRoot = none
  | responseArtifact => record.results.responseArtifact = none
  | providerTransportKind => record.admission.providerTransportKind = .worker
  | continuationSessionId => record.admission.continuationSessionId = none
  | dispatchOwnerEpoch => record.dispatchOwnerEpoch = none
  | dispatchClaimedAt => record.dispatchClaimedAt = none
  | recovery => record.recovery = none
  | replayRequired => record.results.replayRequired = none
  | replayReason => record.results.replayReason = none
  | replayedByRequestId => record.results.replayedByRequestId = none
  | resumedFromRequestId => resumedFrom = none
  | resolvedSourceId => record.resolvedSourceId = none
  | resolvedModelSelector => record.resolvedModelSelector = none
  | resolvedCapacityGeneration => record.resolvedCapacityGeneration = none
  | lastActivityAt => record.lastActivityAt = none
  | activitySequence => record.activitySequence = 0
  | activitySource => record.activitySource = none
  | activityLeaseExpiresAt => record.activityLeaseExpiresAt = none
  | recoveryRequired => record.recoveryRequired = false
  -- The keys that the document does have are kept, so nothing is known of it as a whole.
  | activity => True
  | watchdogState => record.watchdogState = none
  | watchdogReason => record.watchdogReason = none
  | watchdogPolicy => record.admission.watchdogPolicy = none
  | terminalClassification => record.results.terminalClassification = none
  | diagnostics => record.diagnostics = none
  | diagnosticEvidence => record.diagnosticEvidence = []

/-- The schema's `required` keys, with those that only newer versions require. -/
def required (version : ContractVersion) : DefaultedKey → Bool
  | cancelAcknowledgedAt | cancelAcknowledgedBy | dispatchOwnerEpoch | dispatchClaimedAt
  | dispatchServiceRoot | recovery | recoveryRequired | resolvedSourceId
  | resolvedCapacityGeneration | lastActivityAt | activitySequence | activitySource
  | activityLeaseExpiresAt => true
  | nodeDispatch | nodePlacement => decide (version ∈ [.v9, .v10, .v11])
  | attestation => decide (version ∈ [.v10, .v11])
  | nodeAdmission => decide (version = .v11)
  | _ => false

def text : DefaultedKey → String
  | nodeAdmission => "node-admission"
  | nodeDispatch => "node-dispatch"
  | nodePlacement => "node-placement"
  | attestation => "attestation-sha256"
  | cancelAcknowledgedAt => "cancel-acknowledged-at"
  | cancelAcknowledgedBy => "cancel-acknowledged-by"
  | cancelProvenance => "cancel-provenance"
  | dispatchServiceRoot => "dispatch-service-root"
  | responseArtifact => "response-artifact"
  | providerTransportKind => "provider-transport-kind"
  | continuationSessionId => "continuation-session-id"
  | dispatchOwnerEpoch => "dispatch-owner-epoch"
  | dispatchClaimedAt => "dispatch-claimed-at"
  | recovery => "recovery"
  | replayRequired => "replay-required"
  | replayReason => "replay-reason"
  | replayedByRequestId => "replayed-by-request-id"
  | resumedFromRequestId => "resumed-from-request-id"
  | resolvedSourceId => "resolved-source-id"
  | resolvedModelSelector => "resolved-model-selector"
  | resolvedCapacityGeneration => "resolved-capacity-generation"
  | lastActivityAt => "last-activity-at"
  | activitySequence => "activity-sequence"
  | activitySource => "activity-source"
  | activityLeaseExpiresAt => "activity-lease-expires-at"
  | recoveryRequired => "recovery-required"
  | activity => "activity"
  | watchdogState => "watchdog-state"
  | watchdogReason => "watchdog-reason"
  | watchdogPolicy => "watchdog-policy"
  | terminalClassification => "terminal-classification"
  | diagnostics => "diagnostics"
  | diagnosticEvidence => "diagnostic-evidence"

def all : List DefaultedKey :=
  [nodeAdmission, nodeDispatch, nodePlacement, attestation, cancelAcknowledgedAt,
    cancelAcknowledgedBy, cancelProvenance, dispatchServiceRoot, responseArtifact,
    providerTransportKind, continuationSessionId, dispatchOwnerEpoch, dispatchClaimedAt, recovery,
    replayRequired, replayReason, replayedByRequestId, resumedFromRequestId, resolvedSourceId,
    resolvedModelSelector, resolvedCapacityGeneration, lastActivityAt, activitySequence,
    activitySource, activityLeaseExpiresAt, recoveryRequired, activity, watchdogState,
    watchdogReason, watchdogPolicy, terminalClassification, diagnostics, diagnosticEvidence]

theorem mem_all (key : DefaultedKey) : key ∈ all := by
  cases key <;> decide

end DefaultedKey

namespace ContractVersion

def fills (version : ContractVersion) (key : DefaultedKey) : Bool :=
  match version, key with
  | v10, .nodeAdmission => true
  | v10, _ => false
  | v8, .nodeAdmission | v8, .nodeDispatch | v8, .nodePlacement | v8, .attestation => true
  | v9, .nodeAdmission | v9, .nodeDispatch | v9, .nodePlacement | v9, .attestation => true
  | v8, _ | v9, _ => false
  | _, .attestation => false
  | version, .nodeDispatch | version, .nodePlacement => decide (version.label = v11)
  | _, _ => true

/-- The keys that earlier contracts knew and the full migration drops. -/
def retiredKeys : List String :=
  ["gateway-execution-lane-key", "resolved-queue-limits", "admission-policy-digest"]

def drops (version : ContractVersion) (key : String) : Bool :=
  key == "timeout-seconds" || (!version.envelopeOnly && retiredKeys.contains key)

end ContractVersion

@[ext]
structure StoredPayload where
  version : ContractVersion
  absent : Finset DefaultedKey
  extraKeys : List String
  resumedFromRequestId : Option String
  record : Record
  unset : ∀ key ∈ absent, key.Unset record resumedFromRequestId

/-! ## The migration -/

namespace Record

/-- `setdefault` of the keys whose default is not the value of a missing key. -/
def fillAbsent (absent : Finset DefaultedKey) (record : Record) : Record :=
  { record with
    admission := { record.admission with
      providerTransportKind :=
        if .providerTransportKind ∈ absent then
          (if present record.results.sessionId then .providerSession else .worker)
        else record.admission.providerTransportKind
      continuationSessionId :=
        if .continuationSessionId ∈ absent then record.results.sessionId
        else record.admission.continuationSessionId }
    watchdogState := if .watchdogState ∈ absent then some .notStarted else record.watchdogState }

/-- The ownership, recovery and replay fields of a historical record are not trusted. -/
def clearFences (record : Record) : Record :=
  { record with
    dispatchOwnerEpoch := none
    dispatchClaimedAt := none
    recovery := none
    results := { record.results with
      replayRequired := none
      replayReason := none
      replayedByRequestId := none } }

/-- Older records only had one worker lease: it is preserved as owner evidence. -/
def adoptActivity (record : Record) : Record :=
  if record.activity.sequence = 0 ∧ record.activitySequence ≠ 0 then
    { record with
      activity := { record.activity with
        sequence := record.activitySequence
        lastAt := record.lastActivityAt
        lastSource := record.activitySource
        owner := { record.activity.owner with
          lastAt := record.lastActivityAt
          leaseExpiresAt := record.activityLeaseExpiresAt
          source := record.activitySource
          sourceSequence := record.activitySequence } } }
  else record

/-- Pre-attestation command identity is historical evidence only. -/
def resetAttestation (record : Record) : Record :=
  { record with
    nodeDispatch := record.nodeDispatch.map fun dispatch =>
      { dispatch with attestationSha256 := none } }

/-- The record after the migration of a payload that lacks the keys `absent`. -/
def upgrade (version : ContractVersion) (absent : Finset DefaultedKey) (record : Record) :
    Record :=
  match version with
  | .v10 => record
  | .v8 | .v9 => record.resetAttestation
  | .v11 => (record.migrate.fillAbsent absent).adoptActivity
  | _ => (record.migrate.fillAbsent absent).clearFences.adoptActivity

end Record

theorem adoptActivity_frame (record : Record) :
    record.adoptActivity.nodeDispatch = record.nodeDispatch ∧
      record.adoptActivity.admission = record.admission := by
  unfold Record.adoptActivity
  split <;> exact ⟨rfl, rfl⟩

variable {record : Record}

theorem DefaultedKey.Unset.full {key : DefaultedKey} {full : Record} {resumedFrom : Option String}
    (unset : key.Unset record resumedFrom)
    (late : key = .nodeDispatch ∨ key = .nodePlacement ∨ key = .attestation)
    (dispatch : full.nodeDispatch = record.nodeDispatch)
    (placement : full.admission.nodePlacement = record.admission.nodePlacement)
    (resumed : Option String) : key.Unset full resumed := by
  rcases late with rfl | rfl | rfl
  · exact dispatch.trans unset
  · exact placement.trans unset
  · obtain ⟨bound, found, unattested⟩ := unset
    exact ⟨bound, dispatch.trans found, unattested⟩

theorem DefaultedKey.Unset.upgrade {key : DefaultedKey} {resumedFrom : Option String}
    (unset : key.Unset record resumedFrom) (version : ContractVersion)
    (absent : Finset DefaultedKey) (open_ : version.fills key = false) :
    key.Unset (record.upgrade version absent)
      (if version.clearsFences then none else resumedFrom) := by
  have full : ∀ migrated : Record, migrated.nodeDispatch = record.nodeDispatch →
      migrated.admission.nodePlacement = record.admission.nodePlacement →
      (key = .nodeDispatch ∨ key = .nodePlacement ∨ key = .attestation) →
      ∀ resumed, key.Unset migrated.adoptActivity resumed := by
    intro migrated dispatch placement late resumed
    obtain ⟨sameDispatch, sameAdmission⟩ := adoptActivity_frame migrated
    exact unset.full late (sameDispatch.trans dispatch)
      ((congrArg Admission.nodePlacement sameAdmission).trans placement) resumed
  cases version with
  | v10 => exact unset
  | v8 | v9 =>
    cases key
    all_goals first
      | exact unset
      | cases open_
  | v11 =>
    refine full (record.migrate.fillAbsent absent) rfl rfl ?_ resumedFrom
    cases key
    all_goals first
      | exact .inr (.inr rfl)
      | cases open_
  | _ =>
    refine full (record.migrate.fillAbsent absent).clearFences rfl rfl ?_ none
    cases key
    all_goals first
      | exact .inl rfl
      | exact .inr (.inl rfl)
      | exact .inr (.inr rfl)
      | cases open_

/-- The payload that `_migrate_v1_payload` hands to `_validate`. -/
def StoredPayload.upgraded (payload : StoredPayload) : StoredPayload where
  version := payload.version.label
  absent := payload.absent.filter (fun key => payload.version.fills key = false)
  extraKeys := payload.extraKeys.filter (fun key => !payload.version.drops key)
  resumedFromRequestId :=
    if payload.version.clearsFences then none else payload.resumedFromRequestId
  record := payload.record.upgrade payload.version payload.absent
  unset := by
    intro key missing
    obtain ⟨missing, open_⟩ := Finset.mem_filter.mp missing
    exact (payload.unset key missing).upgrade payload.version payload.absent open_

variable {payload : StoredPayload}

namespace StoredPayload

def missingKeys (payload : StoredPayload) : List DefaultedKey :=
  DefaultedKey.all.filter fun key =>
    decide (key ∈ payload.absent) && key.required payload.version

/-- `validate_with_schema_fn` on the whole payload. -/
def schemaIssues (payload : StoredPayload) : List String :=
  (if payload.version.schemaKnows then [] else ["contract-version"]) ++ payload.extraKeys ++
    payload.missingKeys.map DefaultedKey.text ++ payload.record.schemaIssues

/-- `_validate` on the whole payload. -/
def validate (payload : StoredPayload) (code : String) : Except GatewayError Unit := do
  refuse (payload.record.admissionConsistent = false)
    (agentsError code "Node admission requires matching placement and profile")
  refuse (payload.schemaIssues ≠ [])
    (agentsErrorWith code "gateway request record failed schema validation"
      [("issues", .names payload.schemaIssues)])

/-- `_migrate_v1_payload`. -/
def migrate (payload : StoredPayload) : Except GatewayError StoredPayload := do
  payload.upgraded.validate "VAL-AGW-005"
  return payload.upgraded

/-- The payload passes `_validate`. -/
structure Acceptable (payload : StoredPayload) : Prop where
  known : payload.version.schemaKnows = true
  extraKeys : payload.extraKeys = []
  keys : ∀ key ∈ payload.absent, key.required payload.version = false
  valid : payload.record.Valid

theorem missingKeys_eq_nil :
    payload.missingKeys = [] ↔ ∀ key ∈ payload.absent, key.required payload.version = false := by
  simp only [missingKeys, List.filter_eq_nil_iff, Bool.and_eq_true, decide_eq_true_eq, not_and,
    Bool.not_eq_true]
  exact ⟨fun none key missing => none key key.mem_all missing, fun none key _ => none key⟩

theorem validate_eq_ok {code : String} {passed : Unit} :
    payload.validate code = .ok passed ↔ payload.Acceptable := by
  have issues : payload.schemaIssues = [] ↔ payload.version.schemaKnows = true ∧
      payload.extraKeys = [] ∧ (∀ key ∈ payload.absent, key.required payload.version = false) ∧
      payload.record.schemaIssues = [] := by
    simp [schemaIssues, missingKeys_eq_nil]
  simp only [validate, refuse_bind_eq_ok, refuse_eq_ok, Bool.not_eq_false, not_not, issues]
  constructor
  · rintro ⟨consistent, known, extraKeys, keys, accepted⟩
    exact ⟨known, extraKeys, keys, consistent, accepted⟩
  · rintro ⟨known, extraKeys, keys, consistent, accepted⟩
    exact ⟨consistent, known, extraKeys, keys, accepted⟩

/-- **What an accepted read means.** -/
theorem migrate_eq_ok {migrated : StoredPayload} :
    payload.migrate = .ok migrated ↔ payload.upgraded.Acceptable ∧
      migrated = payload.upgraded := by
  simp only [migrate, bind_eq_ok, validate_eq_ok, exists_const]
  constructor
  · rintro ⟨acceptable, same⟩
    cases same
    exact ⟨acceptable, rfl⟩
  · rintro ⟨acceptable, rfl⟩
    exact ⟨acceptable, rfl⟩

/-- The payload with its ownership, recovery and replay fields cleared. -/
def withoutFences (payload : StoredPayload) : StoredPayload where
  version := payload.version
  absent := payload.absent
  extraKeys := payload.extraKeys
  resumedFromRequestId := none
  record := payload.record.clearFences
  unset := by
    intro key missing
    have unset := payload.unset key missing
    cases key
    all_goals first
      | exact unset
      | rfl

end StoredPayload

/-! ## Complete payloads -/

/-- The record has everything that the full migration would set. -/
structure Record.Current (record : Record) : Prop where
  preview : record.results.outputPreview.isSome = true
  truncated : record.results.outputTruncated.isSome = true
  counted : record.activity.sequence = 0 → record.activitySequence = 0

theorem Record.migrate_of_previews (preview : record.results.outputPreview.isSome = true)
    (truncated : record.results.outputTruncated.isSome = true) : record.migrate = record := by
  have samePreview : some (record.results.outputPreview.getD record.results.output) =
      record.results.outputPreview := by
    obtain ⟨text, found⟩ := Option.isSome_iff_exists.mp preview
    rw [found]
    rfl
  have sameTruncated : some (record.results.outputTruncated.getD false) =
      record.results.outputTruncated := by
    obtain ⟨cut, found⟩ := Option.isSome_iff_exists.mp truncated
    rw [found]
    rfl
  rw [Record.migrate, samePreview, sameTruncated]

theorem Record.adoptActivity_of_counted
    (counted : record.activity.sequence = 0 → record.activitySequence = 0) :
    record.adoptActivity = record := by
  refine if_neg ?_
  rintro ⟨zero, nonzero⟩
  exact nonzero (counted zero)

theorem Record.adoptActivity_counted (record : Record) :
    record.adoptActivity.activity.sequence = 0 → record.adoptActivity.activitySequence = 0 := by
  unfold Record.adoptActivity
  split
  · exact id
  next untouched =>
    intro zero
    by_contra nonzero
    exact untouched ⟨zero, nonzero⟩

theorem Record.fillAbsent_of_present {absent : Finset DefaultedKey}
    (transport : .providerTransportKind ∉ absent) (continuation : .continuationSessionId ∉ absent)
    (watchdog : .watchdogState ∉ absent) : record.fillAbsent absent = record := by
  simp only [Record.fillAbsent, if_neg transport, if_neg continuation, if_neg watchdog]

theorem Record.full_current (record : Record) (absent : Finset DefaultedKey) :
    (record.migrate.fillAbsent absent).adoptActivity.Current ∧
      (record.migrate.fillAbsent absent).clearFences.adoptActivity.Current := by
  have adopted : ∀ filled : Record, filled.results.outputPreview.isSome = true →
      filled.results.outputTruncated.isSome = true → filled.adoptActivity.Current := by
    intro filled preview truncated
    refine ⟨?_, ?_, filled.adoptActivity_counted⟩
    · unfold Record.adoptActivity
      split <;> exact preview
    · unfold Record.adoptActivity
      split <;> exact truncated
  exact ⟨adopted _ rfl rfl, adopted _ rfl rfl⟩

theorem Record.clearFences_adopted (record : Record) :
    record.clearFences.adoptActivity = record.adoptActivity.clearFences := by
  unfold Record.adoptActivity
  split
  next adopts => exact (if_pos adopts).symm ▸ rfl
  next keeps => exact (if_neg keeps).symm ▸ rfl

namespace StoredPayload

/-- Nothing is left for the full migration to fill in or to drop. -/
structure Complete (payload : StoredPayload) : Prop where
  keys : ∀ key ∈ payload.absent, payload.version.fills key = false
  extraKeys : payload.extraKeys = []
  current : payload.record.Current

section

variable (complete : payload.Complete)
include complete

theorem Complete.notMem {key : DefaultedKey} (filled : payload.version.fills key = true) :
    key ∉ payload.absent := by
  intro missing
  rw [complete.keys key missing] at filled
  cases filled

/-- The parts of a complete payload that no fence clearing touches are kept. -/
theorem Complete.upgraded_frame (labelled : payload.version.label = payload.version) :
    payload.upgraded.version = payload.version ∧ payload.upgraded.absent = payload.absent ∧
      payload.upgraded.extraKeys = payload.extraKeys := by
  refine ⟨labelled, Finset.filter_true_of_mem complete.keys, ?_⟩
  change payload.extraKeys.filter _ = payload.extraKeys
  rw [complete.extraKeys]
  rfl

theorem Complete.filled_eq (full : payload.version.envelopeOnly = false) :
    payload.record.migrate.fillAbsent payload.absent = payload.record := by
  have filled : ∀ key, key = .providerTransportKind ∨ key = .continuationSessionId ∨
      key = .watchdogState → payload.version.fills key = true := by
    rintro key (rfl | rfl | rfl)
    all_goals
      cases version : payload.version
      all_goals first
        | rfl
        | (rw [version] at full; cases full)
  rw [Record.migrate_of_previews complete.current.preview complete.current.truncated]
  exact Record.fillAbsent_of_present (complete.notMem (filled _ (.inl rfl)))
    (complete.notMem (filled _ (.inr (.inl rfl)))) (complete.notMem (filled _ (.inr (.inr rfl))))

/-- **A complete payload of the current version is read as it is.** -/
theorem Complete.upgraded_eq (current : payload.version = .v11) :
    payload.upgraded = payload := by
  have labelled : payload.version.label = payload.version := by rw [current]; rfl
  obtain ⟨version, absent, extraKeys⟩ := complete.upgraded_frame labelled
  have record : payload.upgraded.record = payload.record := by
    change payload.record.upgrade payload.version payload.absent = payload.record
    rw [current]
    change (payload.record.migrate.fillAbsent payload.absent).adoptActivity = payload.record
    rw [complete.filled_eq (by rw [current]; rfl),
      Record.adoptActivity_of_counted complete.current.counted]
  have resumed : payload.upgraded.resumedFromRequestId = payload.resumedFromRequestId := by
    change (if payload.version.clearsFences then none else payload.resumedFromRequestId) = _
    rw [current]
    rfl
  exact StoredPayload.ext version absent extraKeys resumed record

/-- **A complete payload of a historical version is read without its fences.** -/
theorem Complete.upgraded_eq_withoutFences
    (historical : payload.version = .v5 ∨ payload.version = .v7) :
    payload.upgraded = payload.withoutFences := by
  have labelled : payload.version.label = payload.version := by
    rcases historical with same | same <;> (rw [same]; rfl)
  have full : payload.version.envelopeOnly = false := by
    rcases historical with same | same <;> (rw [same]; rfl)
  obtain ⟨version, absent, extraKeys⟩ := complete.upgraded_frame labelled
  have record : payload.upgraded.record = payload.record.clearFences := by
    have upgrade : payload.record.upgrade payload.version payload.absent =
        (payload.record.migrate.fillAbsent payload.absent).clearFences.adoptActivity := by
      rcases historical with same | same <;> (rw [same]; rfl)
    change payload.record.upgrade payload.version payload.absent = _
    rw [upgrade, complete.filled_eq full]
    exact Record.adoptActivity_of_counted complete.current.counted
  have resumed : payload.upgraded.resumedFromRequestId = none := by
    change (if payload.version.clearsFences then none else payload.resumedFromRequestId) = _
    rcases historical with same | same <;> (rw [same]; rfl)
  exact StoredPayload.ext version absent extraKeys resumed record

end

theorem fills_label (version : ContractVersion) (full : version.envelopeOnly = false)
    (key : DefaultedKey) : version.label.fills key = version.fills key := by
  cases version with
  | v8 | v9 | v10 => cases full
  | _ => cases key <;> rfl

theorem label_cases (version : ContractVersion) :
    version.label = .v11 ∨ version.label = .v5 ∨ version.label = .v7 := by
  cases version <;> decide

/-- **The full migration completes a payload.** -/
theorem upgraded_complete (full : payload.version.envelopeOnly = false)
    (extraKeys : payload.upgraded.extraKeys = []) : payload.upgraded.Complete where
  keys := by
    intro key missing
    obtain ⟨_, open_⟩ := Finset.mem_filter.mp missing
    exact (fills_label payload.version full key).trans open_
  extraKeys := extraKeys
  current := by
    obtain ⟨kept, cleared⟩ := payload.record.full_current payload.absent
    have upgrade : payload.upgraded.record =
        payload.record.upgrade payload.version payload.absent := rfl
    rw [upgrade]
    cases version : payload.version with
    | v8 | v9 | v10 =>
      rw [version] at full
      cases full
    | v11 => exact kept
    | _ => exact cleared

/-- A payload that the migration labels with a historical version has lost its fences. -/
theorem upgraded_withoutFences
    (historical : payload.version.label = .v5 ∨ payload.version.label = .v7) :
    payload.upgraded.withoutFences = payload.upgraded := by
  have resumed : payload.upgraded.resumedFromRequestId = none := by
    change (if payload.version.clearsFences then none else payload.resumedFromRequestId) = none
    cases version : payload.version with
    | v8 | v9 | v10 | v11 =>
      rw [version] at historical
      rcases historical with wrong | wrong <;> cases wrong
    | _ => rfl
  have record : payload.upgraded.record =
      (payload.record.migrate.fillAbsent payload.absent).clearFences.adoptActivity := by
    change payload.record.upgrade payload.version payload.absent = _
    cases version : payload.version with
    | v8 | v9 | v10 | v11 =>
      rw [version] at historical
      rcases historical with wrong | wrong <;> cases wrong
    | _ => rfl
  refine StoredPayload.ext rfl rfl rfl resumed.symm ?_
  change payload.upgraded.record.clearFences = payload.upgraded.record
  rw [record, Record.clearFences_adopted]
  rfl

/-- **The full migration is idempotent.** -/
theorem upgraded_upgraded (full : payload.version.envelopeOnly = false)
    (extraKeys : payload.upgraded.extraKeys = []) :
    payload.upgraded.upgraded = payload.upgraded := by
  have complete := upgraded_complete full extraKeys
  rcases label_cases payload.version with current | historical
  · exact complete.upgraded_eq current
  · rw [complete.upgraded_eq_withoutFences historical, upgraded_withoutFences historical]

theorem valid_full (valid : record.Valid) (absent : Finset DefaultedKey) :
    (record.migrate.fillAbsent absent).adoptActivity.Valid ∧
      (record.migrate.fillAbsent absent).clearFences.adoptActivity.Valid := by
  have adopted : ∀ filled : Record, filled.Valid → filled.adoptActivity.Valid := by
    intro filled valid
    unfold Record.adoptActivity
    split
    · exact ⟨valid.consistent, valid.accepted⟩
    · exact valid
  have cleared : ∀ filled : Record, filled.Valid → filled.clearFences.Valid := by
    intro filled valid
    obtain ⟨consistent, checks⟩ := Record.valid_iff.mp valid
    refine Record.valid_iff.mpr ⟨consistent, ?_⟩
    simp only [Record.schemaChecks, List.forall_mem_cons] at checks ⊢
    obtain ⟨placement, dispatch, ordinal, warnings, activity, classification, diagnostics,
      evidence, provenance, _, done⟩ := checks
    exact ⟨placement, dispatch, ordinal, warnings, activity, classification, diagnostics,
      evidence, provenance, rfl, done⟩
  have filled : (record.migrate.fillAbsent absent).Valid := ⟨valid.consistent, valid.accepted⟩
  exact ⟨adopted _ filled, adopted _ (cleared _ filled)⟩

theorem Acceptable.upgraded (acceptable : payload.Acceptable)
    (labelled : payload.version.label = payload.version) : payload.upgraded.Acceptable where
  known := by
    change payload.version.label.schemaKnows = true
    rw [labelled]
    exact acceptable.known
  extraKeys := by
    change payload.extraKeys.filter _ = []
    rw [acceptable.extraKeys]
    rfl
  keys := by
    intro key missing
    change key.required payload.version.label = false
    rw [labelled]
    exact acceptable.keys key (Finset.mem_filter.mp missing).1
  valid := by
    obtain ⟨kept, cleared⟩ := valid_full acceptable.valid payload.absent
    have upgrade : payload.upgraded.record =
        payload.record.upgrade payload.version payload.absent := rfl
    rw [upgrade]
    cases version : payload.version with
    | v8 | v9 | v10 =>
      rw [version] at labelled
      cases labelled
    | v11 => exact kept
    | _ => exact cleared

end StoredPayload

end Audiagentic.Gateway
