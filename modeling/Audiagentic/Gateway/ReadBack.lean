import Audiagentic.Gateway.Marks
import Audiagentic.Gateway.Migration

/-!
# Reading back what a mutation wrote

Between two store operations the record goes through the migration again.  A mutation runs on
a migrated payload and writes a payload of the same version; the question is what the next
locked read makes of it.
-/

namespace Audiagentic.Gateway

open Foundations

/-! ## What a mutation leaves for the next read -/

variable {record updated : Record}

namespace Record.Current

theorem of_write {target : Record} (written : record.write target = .ok updated)
    (preview : target.results.outputPreview.isSome = true)
    (truncated : target.results.outputTruncated.isSome = true)
    (counted : target.activity.sequence = 0 → target.activitySequence = 0) : updated.Current := by
  rw [Record.write_eq_redact written]
  exact ⟨preview, truncated, counted⟩

theorem assign (current : record.Current) (update : ResultUpdate) :
    (update.assign record).Current := by
  cases update with
  | outputPreview => exact ⟨rfl, current.truncated, current.counted⟩
  | outputTruncated => exact ⟨current.preview, rfl, current.counted⟩
  | _ => exact ⟨current.preview, current.truncated, current.counted⟩

theorem foldl {round : Record → ResultUpdate → Record}
    (keeps : ∀ record update, Record.Current record → (round record update).Current)
    (current : record.Current) (updates : List ResultUpdate) :
    (updates.foldl round record).Current := by
  induction updates generalizing record with
  | nil => exact current
  | cons update updates ih =>
    exact ih (keeps record update current)

theorem applyUpdates (current : record.Current) (projections : Projections)
    (updates : List ResultUpdate) : (applyUpdates projections record updates).Current := by
  have loop : (updates.foldl (fun record update => update.applyTransition projections record)
      record).Current := by
    refine foldl (fun record update current => ?_) current updates
    cases update with
    | outputPreview => exact ⟨rfl, current.truncated, current.counted⟩
    | outputTruncated => exact ⟨current.preview, rfl, current.counted⟩
    | _ => exact ⟨current.preview, current.truncated, current.counted⟩
  exact ⟨loop.preview, loop.truncated, loop.counted⟩

theorem transitioned (current : record.Current) (projections : Projections)
    (newState : RequestState) (updates : List ResultUpdate) (now : Timestamp) :
    (transitioned projections record newState updates now).Current := by
  have started : Record.Current { record with
      state := newState, updatedAt := now, revision := record.revision + 1 } :=
    ⟨current.preview, current.truncated, current.counted⟩
  have loop := started.applyUpdates projections updates
  unfold Gateway.transitioned
  split
  · exact ⟨loop.preview, loop.truncated, loop.counted⟩
  · exact loop

variable {now : Timestamp} {projections : Projections}

section

variable (current : record.Current)
include current

theorem of_transition {newState : RequestState} {updates : List ResultUpdate}
    (written : record.write (Gateway.transitioned projections record newState updates now) = .ok
      updated) : updated.Current :=
  let target := current.transitioned projections newState updates now
  of_write written target.preview target.truncated target.counted

theorem of_activity {identity : OwnedIdentity} {report : ActivityReport}
    (success : (recordOwnedActivity projections identity report now).body record = .ok updated) :
    updated.Current := by
  simp only [recordOwnedActivity, bind_eq_ok, refuse_eq_ok, exists_const] at success
  obtain ⟨_, _, _, success⟩ := success
  split at success
  · cases success
    exact current
  cases kind : (ActivityKind.ofText? report.kind).getD .provider with
  | ownerHeartbeat =>
    rw [kind] at success
    exact of_write success current.preview current.truncated current.counted
  | clientLiveness =>
    rw [kind] at success
    -- Both counters are set to the same aggregate.
    exact of_write success current.preview current.truncated id
  | provider =>
    rw [kind] at success
    exact of_write success current.preview current.truncated id

theorem of_session {identity : OwnedIdentity} {attachment : SessionAttachment}
    {updatesUnchanged : Bool}
    (success : (updateOwnedRunningSession identity attachment updatesUnchanged now).body record =
      .ok updated) : updated.Current := by
  simp only [updateOwnedRunningSession, bind_eq_ok, refuse_eq_ok, exists_const] at success
  obtain ⟨_, _, _, success⟩ := success
  split at success
  · cases success
    exact current
  simp only [refuse_bind_eq_ok] at success
  have attached : (attachment.attached record).Current :=
    ⟨current.preview, current.truncated, current.counted⟩
  have loop := foldl (fun record update current => current.assign update) attached
    (attachment.resultUpdates.filterMap Update.result?)
  exact of_write success.2 loop.preview loop.truncated loop.counted

theorem of_nodeWrite {dispatch : NodeDispatch} {clearRecovery : Bool}
    (written : writeNodeDispatch record dispatch clearRecovery now = .ok updated) :
    updated.Current := by
  cases clearRecovery with
  | true | false => exact of_write written current.preview current.truncated current.counted

theorem of_cancel {request : CancelRequest} {diagnostics : Option Diagnostics}
    {expectedRevision : Option Int}
    (success : (cancelQueuedOrMarkRequested projections request diagnostics expectedRevision
      now).body record = .ok updated) : updated.Current := by
  simp only [cancelQueuedOrMarkRequested, bind_eq_ok] at success
  obtain ⟨_, _, success⟩ := success
  split at success
  · exact of_write success current.preview current.truncated current.counted
  split at success
  · exact of_write success current.preview current.truncated current.counted
  split at success
  · exact of_write success current.preview current.truncated current.counted
  · cases success
    exact current

end

end Record.Current

variable {projections : Projections} {hashing : Hashing}

/-- **Every operation but an operator's completion leaves a record with everything that a read
would fill in.** -/
theorem StoreOp.Succeeds.current {op : StoreOp}
    (succeeds : op.Succeeds projections hashing record updated)
    (inside : op.completesFromOutside = false) (current : record.Current) : updated.Current := by
  by_cases writes : op.writesDispatch = true
  · rcases succeeds.nodeOutcome writes with kept | ⟨dispatch, clearRecovery, now, _, written⟩
    · rw [kept]
      exact current
    · exact current.of_nodeWrite written
  by_cases plain : op.isPlain = true
  · rcases StoreOp.plainOutcome projections hashing plain succeeds.success with
      kept | ⟨target, written, plain⟩
    · rw [kept]
      exact current
    · refine Record.Current.of_write written (plain.preview ▸ current.preview)
        (plain.truncated ▸ current.truncated) ?_
      rw [plain.activity, plain.sequence]
      exact current.counted
  have success := succeeds.success
  cases op with
  | transitionRecord =>
    simp only [StoreOp.operation, Gateway.transitionRecord, bind_eq_ok] at success
    obtain ⟨_, _, _, _, written⟩ := success
    exact current.of_transition written
  | transitionOwnedTerminal =>
    simp only [StoreOp.operation, Gateway.transitionOwnedTerminal, Gateway.transitionRecord,
      bind_eq_ok] at success
    obtain ⟨_, _, _, _, written⟩ := success
    exact current.of_transition written
  | cancelQueuedOrMarkRequested => exact current.of_cancel success
  | transitionRecoveredTerminal =>
    simp only [StoreOp.operation, Gateway.transitionRecoveredTerminal, bind_eq_ok, refuse_eq_ok,
      exists_const] at success
    obtain ⟨_, _, _, _, _, written⟩ := success
    exact Record.Current.of_write written current.preview current.truncated current.counted
  | transitionOperatorTerminal => cases inside
  | recordOwnedActivity | renewOwnedActivity => exact current.of_activity success
  | updateOwnedRunningSession => exact current.of_session success
  | bindOwnedNodeDispatch | authorizeOwnedNodeEffect | fenceNodeDispatchNoEffect
  | applyOwnedNodeReceipt => exact absurd rfl writes
  | _ => exact absurd rfl plain

/-! ## Reading back -/

/-- **The read keeps what was written.**  Every field is the written one, except that a missing
preview is rebuilt from the output, that a key which the written payload lacks has its default,
and that an activity summary which counted nothing may be adopted from the flat counters. -/
structure ReadsBack (written read : StoredPayload) : Prop where
  version : read.version = written.version
  absent : read.absent ⊆ written.absent
  extraKeys : read.extraKeys = written.extraKeys
  resumedFromRequestId : read.resumedFromRequestId = written.resumedFromRequestId
  record : read.record = { written.record with
    admission := { written.record.admission with
      providerTransportKind := read.record.admission.providerTransportKind
      continuationSessionId := read.record.admission.continuationSessionId }
    watchdogState := read.record.watchdogState
    activity := read.record.activity
    results := { written.record.results with
      outputPreview := read.record.results.outputPreview
      outputTruncated := read.record.results.outputTruncated } }
  preview : read.record.results.outputPreview =
    some (written.record.results.outputPreview.getD written.record.results.output)
  truncated : read.record.results.outputTruncated =
    some (written.record.results.outputTruncated.getD false)
  transportKind : .providerTransportKind ∉ written.absent →
    read.record.admission.providerTransportKind = written.record.admission.providerTransportKind
  continuation : .continuationSessionId ∉ written.absent →
    read.record.admission.continuationSessionId = written.record.admission.continuationSessionId
  watchdog : .watchdogState ∉ written.absent →
    read.record.watchdogState = written.record.watchdogState
  activity : (written.record.activity.sequence = 0 → written.record.activitySequence = 0) →
    read.record.activity = written.record.activity

namespace ReadsBack

variable {written : StoredPayload}

theorem of_filled {read : StoredPayload} (version : read.version = written.version)
    (absent : read.absent ⊆ written.absent) (extraKeys : read.extraKeys = written.extraKeys)
    (resumed : read.resumedFromRequestId = written.resumedFromRequestId)
    (record : read.record = (written.record.migrate.fillAbsent written.absent).adoptActivity) :
    ReadsBack written read := by
  have frame : ∀ filled : Record, filled.adoptActivity =
      { filled with activity := filled.adoptActivity.activity } := by
    intro filled
    unfold Record.adoptActivity
    split <;> rfl
  rw [frame] at record
  refine ⟨version, absent, extraKeys, resumed, ?_, ?_, ?_, ?_, ?_, ?_, ?_⟩
  · rw [record]
    rfl
  · rw [record]
    rfl
  · rw [record]
    rfl
  · intro kept
    rw [record]
    exact if_neg kept
  · intro kept
    rw [record]
    exact if_neg kept
  · intro kept
    rw [record]
    exact if_neg kept
  · intro counted
    have kept : (written.record.migrate.fillAbsent written.absent).adoptActivity.activity =
        (written.record.migrate.fillAbsent written.absent).activity :=
      congrArg Record.activity (Record.adoptActivity_of_counted counted)
    rw [record]
    exact kept

theorem upgraded (current : written.version = .v11) (extraKeys : written.extraKeys = []) :
    ReadsBack written written.upgraded := by
  refine of_filled ?_ (Finset.filter_subset _ _) ?_ ?_ ?_
  · change written.version.label = written.version
    rw [current]
    rfl
  · change written.extraKeys.filter _ = written.extraKeys
    rw [extraKeys]
    rfl
  · change (if written.version.clearsFences then none else written.resumedFromRequestId) = _
    rw [current]
    rfl
  · change written.record.upgrade written.version written.absent = _
    rw [current]
    rfl

/-- A payload that keeps its label is read back, as far as its fences do not matter. -/
theorem upgraded_withoutFences (labelled : written.version.label = written.version)
    (extraKeys : written.extraKeys = []) :
    ReadsBack written.withoutFences written.upgraded.withoutFences := by
  refine of_filled labelled (Finset.filter_subset _ _) ?_ rfl ?_
  · change written.extraKeys.filter _ = written.extraKeys
    rw [extraKeys]
    rfl
  have upgrade : (written.record.upgrade written.version written.absent).clearFences =
      (written.record.migrate.fillAbsent written.absent).adoptActivity.clearFences := by
    rcases StoredPayload.label_cases written.version with same | same | same
    · rw [← labelled, same]
      rfl
    all_goals
      rw [← labelled, same]
      change (written.record.migrate.fillAbsent
        written.absent).clearFences.adoptActivity.clearFences
        = _
      rw [Record.clearFences_adopted]
      rfl
  change (written.record.upgrade written.version written.absent).clearFences = _
  rw [upgrade, ← Record.clearFences_adopted]
  rfl

end ReadsBack

/-! ## Mutations of stored payloads -/

variable (projections hashing)

/-- The operation writes `after` over the payload `before`: it may set missing keys, and touches
no key outside the record. -/
structure StoreOp.Writes (op : StoreOp) (before after : StoredPayload) : Prop where
  version : after.version = before.version
  absent : after.absent ⊆ before.absent
  extraKeys : after.extraKeys = before.extraKeys
  resumedFromRequestId : after.resumedFromRequestId = before.resumedFromRequestId
  succeeds : op.Succeeds projections hashing before.record after.record

/-- One accepted mutation.  An operator's completion that retires its session cleanup reads the
record once more before its last write. -/
def StoreOp.Mutates (op : StoreOp) (before after : StoredPayload) : Prop :=
  op.Writes projections hashing before after ∨
    (op.completesFromOutside = true ∧
      ∃ first, op.Writes projections hashing before first ∧ after = first.upgraded)

variable {projections hashing}

variable {before : StoredPayload}

theorem StoreOp.Writes.acceptable {op : StoreOp} {after : StoredPayload}
    (writes : op.Writes projections hashing before after) (acceptable : before.Acceptable) :
    after.Acceptable where
  known := writes.version ▸ acceptable.known
  extraKeys := writes.extraKeys.trans acceptable.extraKeys
  keys := by
    intro key missing
    rw [writes.version]
    exact acceptable.keys key (writes.absent missing)
  valid := by
    rcases writes.succeeds.change with kept | change
    · rw [kept]
      exact acceptable.valid
    · exact change.valid

/-- A mutation that is no operator's completion keeps a complete payload complete. -/
theorem StoreOp.Writes.complete {op : StoreOp} {after : StoredPayload}
    (writes : op.Writes projections hashing before after) (inside : op.completesFromOutside = false)
    (complete : before.Complete) : after.Complete where
  keys := by
    intro key missing
    rw [writes.version]
    exact complete.keys key (writes.absent missing)
  extraKeys := writes.extraKeys.trans complete.extraKeys
  current := writes.succeeds.current inside complete.current

/-! ## Stability under use -/

theorem StoredPayload.Acceptable.reread {payload : StoredPayload}
    (acceptable : payload.Acceptable) (labelled : payload.version.label = payload.version) :
    payload.migrate = .ok payload.upgraded ∧
      payload.upgraded.migrate = .ok payload.upgraded := by
  have read := acceptable.upgraded labelled
  have full : payload.version.envelopeOnly = false := by
    rcases StoredPayload.label_cases payload.version with same | same | same
    all_goals
      rw [← labelled, same]
      rfl
  have same := StoredPayload.upgraded_upgraded full read.extraKeys
  refine ⟨StoredPayload.migrate_eq_ok.mpr ⟨read, rfl⟩,
    StoredPayload.migrate_eq_ok.mpr ⟨?_, same.symm⟩⟩
  rw [same]
  exact read

theorem StoreOp.Mutates.acceptable {op : StoreOp} {after : StoredPayload}
    (mutates : op.Mutates projections hashing before after) (acceptable : before.Acceptable)
    (labelled : before.version.label = before.version) :
    after.Acceptable ∧ after.version = before.version := by
  rcases mutates with writes | ⟨_, first, writes, rfl⟩
  · exact ⟨writes.acceptable acceptable, writes.version⟩
  have same : first.version.label = first.version := by
    rw [writes.version]
    exact labelled
  exact ⟨(writes.acceptable acceptable).upgraded same, same.trans writes.version⟩

/-- A complete payload is read as it is, up to the fences of a historical version. -/
theorem StoredPayload.Complete.reread {payload : StoredPayload} (complete : payload.Complete)
    (labelled : payload.version.label = payload.version) :
    (payload.version = .v11 → payload.upgraded = payload) ∧
      payload.upgraded.withoutFences = payload.withoutFences := by
  refine ⟨complete.upgraded_eq, ?_⟩
  rcases StoredPayload.label_cases payload.version with current | historical
  · rw [complete.upgraded_eq (labelled.symm.trans current)]
  · rw [labelled] at historical
    rw [complete.upgraded_eq_withoutFences historical]
    rfl

/-- **Migration is stable under use.**  Let `migrated` be what a locked read makes of a payload
of any version, and `written` what an accepted operation then writes over it.

The next read succeeds, and every further read returns what it returned.  It keeps what was
written: of a payload of the current version all of it, and of one that keeps a historical
version all but the ownership, recovery and replay fields, of which nothing is said.  It is
exactly what was written unless an operator completed the request, whose previews are rebuilt
on the read, or the payload came from version `v8`, `v9` or `v10` and lacked a key, since these
get a new envelope only.  With the same exception the migration itself is idempotent. -/
theorem migration_stable_under_use (projections : Projections) (hashing : Hashing)
    {payload migrated : StoredPayload} (accepted : payload.migrate = .ok migrated) :
    (payload.version.envelopeOnly = false ∨ migrated.Complete → migrated.migrate = .ok migrated) ∧
    ∀ (op : StoreOp) (written : StoredPayload), op.Mutates projections hashing migrated written →
      ∃ read, written.migrate = .ok read ∧ read.migrate = .ok read ∧
        (migrated.version = .v11 → ReadsBack written read) ∧
        ReadsBack written.withoutFences read.withoutFences ∧
        (op.completesFromOutside = false →
          payload.version.envelopeOnly = false ∨ migrated.Complete →
          (migrated.version = .v11 → read = written) ∧
            read.withoutFences = written.withoutFences) := by
  obtain ⟨acceptable, rfl⟩ := StoredPayload.migrate_eq_ok.mp accepted
  have labelled : payload.upgraded.version.label = payload.upgraded.version := by
    change payload.version.label.label = payload.version.label
    cases payload.version <;> rfl
  have whole : payload.version.envelopeOnly = false ∨ payload.upgraded.Complete →
      payload.upgraded.Complete := by
    rintro (full | complete)
    · exact StoredPayload.upgraded_complete full acceptable.extraKeys
    · exact complete
  constructor
  · intro complete
    have same : payload.upgraded.upgraded = payload.upgraded := by
      rcases StoredPayload.label_cases payload.version with current | historical
      · exact (whole complete).upgraded_eq current
      · rw [(whole complete).upgraded_eq_withoutFences historical,
          StoredPayload.upgraded_withoutFences historical]
    have read := (acceptable.reread labelled).1
    rw [same] at read
    exact read
  · intro op written mutates
    obtain ⟨writtenAcceptable, version⟩ := mutates.acceptable acceptable labelled
    have writtenLabelled : written.version.label = written.version := by
      rw [version]
      exact labelled
    obtain ⟨read, again⟩ := writtenAcceptable.reread writtenLabelled
    refine ⟨written.upgraded, read, again, ?_, ?_, ?_⟩
    · intro current
      exact ReadsBack.upgraded (version.trans current) writtenAcceptable.extraKeys
    · exact ReadsBack.upgraded_withoutFences writtenLabelled writtenAcceptable.extraKeys
    · intro inside complete
      rcases mutates with writes | ⟨outside, _⟩
      · obtain ⟨same, sameFences⟩ :=
          (writes.complete inside (whole complete)).reread writtenLabelled
        exact ⟨fun current => same (version.trans current), sameFences⟩
      · rw [inside] at outside
        cases outside

def admittedPayload (version : ContractVersion) : StoredPayload where
  version := version
  absent := ∅
  extraKeys := []
  resumedFromRequestId := none
  record := buildRecord sampleAdmission "" [] none
  unset := fun _ missing => absurd missing (Finset.notMem_empty _)

/-- The payload after a claim by `g1`. -/
def claimedPayload (version : ContractVersion) : StoredPayload :=
  { admittedPayload version with
    record := (claimed (admittedPayload version).record "g1" none 1).redactForPersistence
    unset := fun _ missing => absurd missing (Finset.notMem_empty _) }

theorem claimedPayload_mutates (version : ContractVersion) :
    (StoreOp.claimDispatch "g1" 0 none 1).Mutates .plain .constant (admittedPayload version)
      (claimedPayload version) :=
  .inl ⟨rfl, subset_rfl, rfl, rfl, rfl, rfl⟩

/-- A `v6` payload is read as one of the current version, and a claim of it is read back. -/
theorem claim_of_v6_payload_read_back :
    (admittedPayload .v6).migrate = .ok (admittedPayload .v11) ∧
      (claimedPayload .v11).migrate = .ok (claimedPayload .v11) ∧
      (claimedPayload .v11).record.dispatchOwnerEpoch = some "g1" := by
  have accepted : (admittedPayload .v6).migrate = .ok (admittedPayload .v11) := rfl
  obtain ⟨read, found, _, _, _, same⟩ := (migration_stable_under_use .plain .constant accepted).2 _
    _ (claimedPayload_mutates .v11)
  rw [(same rfl (.inl rfl)).1 rfl] at found
  exact ⟨accepted, found, rfl⟩

/-- An operator's completion that brings no updates. -/
def bareCapture : OperatorCapture where
  expectedRevision := 0
  updates := []
  claimHeldAtEntry := true
  finalization := none
  artifactFailure := none
  sessionUnchanged := true
  claimHeldAtCommit := true
  finalizationApplied := false

def completedPayload : StoredPayload :=
  { admittedPayload .v11 with
    record := (operatorCompleted (admittedPayload .v11).record bareCapture 1).redactForPersistence
    unset := fun _ missing => absurd missing (Finset.notMem_empty _) }

/-- A `v8` payload without `watchdog-state`. -/
def bareEnvelope : StoredPayload where
  version := .v8
  absent := {.watchdogState}
  extraKeys := []
  resumedFromRequestId := none
  record := { buildRecord sampleAdmission "" [] none with watchdogState := none }
  unset := by
    intro key missing
    rw [Finset.mem_singleton.mp missing]
    rfl

/-- **Three reads that do not return what was written**: of an operator's completion, whose
previews are rebuilt; of a claimed `v7` record, whose owner is gone; and of a `v8` record
without `watchdog-state`, which only the second read fills in. -/
theorem reads_differ_from_writes :
    ((admittedPayload .v11).migrate = .ok (admittedPayload .v11) ∧
      (StoreOp.transitionOperatorTerminal bareCapture 1).Mutates .plain .constant
        (admittedPayload .v11) completedPayload ∧
      completedPayload.migrate ≠ .ok completedPayload) ∧
    ((admittedPayload .v7).migrate = .ok (admittedPayload .v7) ∧
      (StoreOp.claimDispatch "g1" 0 none 1).Mutates .plain .constant (admittedPayload .v7)
        (claimedPayload .v7) ∧
      (claimedPayload .v7).record.dispatchOwnerEpoch = some "g1" ∧
      (claimedPayload .v7).migrate = .ok (claimedPayload .v7).withoutFences ∧
      (claimedPayload .v7).withoutFences.record.dispatchOwnerEpoch = none) ∧
    bareEnvelope.migrate = .ok bareEnvelope.upgraded ∧
      bareEnvelope.upgraded.migrate ≠ .ok bareEnvelope.upgraded := by
  refine ⟨⟨rfl, .inl ⟨rfl, subset_rfl, rfl, rfl, rfl, rfl⟩, ?_⟩,
    ⟨rfl, claimedPayload_mutates .v7, rfl, rfl, rfl⟩, rfl, ?_⟩
  · intro same
    have preview := congrArg (fun result => result.toOption.map
      (fun payload => payload.record.results.outputPreview)) same
    exact absurd preview (by decide)
  · intro same
    have state := congrArg (fun result => result.toOption.map
      (fun payload => payload.record.watchdogState)) same
    exact absurd state (by decide)

end Audiagentic.Gateway
