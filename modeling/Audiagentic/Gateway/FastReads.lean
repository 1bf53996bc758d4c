import Audiagentic.Gateway.ReadBack

/-!
# Fast reads of the record

`read_record` returns a payload of the current version as it is when a list of keys is there,
and goes through the migration under the request lock otherwise.  The list is not that of the
keys which the migration sets: an operator's completion takes both previews out of the record,
and a payload that only got a new envelope may lack any of the older keys.
-/

namespace Audiagentic.Gateway

open Foundations

/-- A payload and what the fast test sees of its activity document. -/
structure DiskPayload where
  payload : StoredPayload
  /-- `activity` is a mapping, and so is its `provider`, which has `first-at`. -/
  providerStarted : Bool
  started : .activity ∉ payload.absent → providerStarted = true

/-- The keys in the test of `read_record`, but for those of the activity document. -/
def fastKeys : List DefaultedKey :=
  [.nodeDispatch, .nodePlacement, .nodeAdmission, .cancelAcknowledgedAt, .cancelAcknowledgedBy,
    .resolvedSourceId, .resolvedCapacityGeneration, .lastActivityAt, .activitySequence,
    .activitySource, .activityLeaseExpiresAt, .recoveryRequired]

namespace DiskPayload

/-- The fast-path test of `read_record`. -/
def passesFastTest (disk : DiskPayload) : Bool :=
  decide (disk.payload.version = .v11) && fastKeys.all (fun key => key ∉ disk.payload.absent) &&
    !disk.payload.extraKeys.contains "timeout-seconds" && disk.providerStarted

/-- `read_record`, without the output. -/
def readRecord (disk : DiskPayload) : Except GatewayError StoredPayload := do
  if disk.passesFastTest then
    disk.payload.validate "VAL-AGW-005"
    return disk.payload
  else disk.payload.migrate

end DiskPayload

namespace StoredPayload

/-- A payload that the full migration leaves as it is has everything the migration sets. -/
theorem complete_of_upgraded_eq {payload : StoredPayload} (current : payload.version = .v11)
    (extraKeys : payload.extraKeys = []) (same : payload.upgraded = payload) :
    payload.Complete where
  keys := by
    intro key missing
    rw [← congrArg StoredPayload.absent same] at missing
    exact (Finset.mem_filter.mp missing).2
  extraKeys := extraKeys
  current := by
    have full : payload.version.envelopeOnly = false := by
      rw [current]
      rfl
    have upgraded := upgraded_complete full ((congrArg StoredPayload.extraKeys same).trans
      extraKeys)
    rw [same] at upgraded
    exact upgraded.current

/-- `_redact_for_persistence` on the whole payload. -/
def redacted (payload : StoredPayload) : StoredPayload where
  version := payload.version
  absent := payload.absent
  extraKeys := payload.extraKeys
  resumedFromRequestId := payload.resumedFromRequestId
  record := payload.record.redactForPersistence
  unset := by
    intro key missing
    have unset := payload.unset key missing
    cases key
    all_goals exact unset

theorem Acceptable.redacted {payload : StoredPayload} (acceptable : payload.Acceptable) :
    payload.redacted.Acceptable :=
  ⟨acceptable.known, acceptable.extraKeys, acceptable.keys, acceptable.valid.redact⟩

theorem Complete.redacted {payload : StoredPayload} (complete : payload.Complete) :
    payload.redacted.Complete :=
  ⟨complete.keys, complete.extraKeys,
    ⟨complete.current.preview, complete.current.truncated, complete.current.counted⟩⟩

end StoredPayload

/-- **The fast read is the slow one exactly of complete payloads.** -/
theorem readRecord_eq_migrate_iff {disk : DiskPayload} (acceptable : disk.payload.Acceptable)
    (fast : disk.passesFastTest = true) :
    disk.readRecord = disk.payload.migrate ↔ disk.payload.Complete := by
  have current : disk.payload.version = .v11 := by
    simp only [DiskPayload.passesFastTest, Bool.and_eq_true, decide_eq_true_eq] at fast
    exact fast.1.1.1
  have read : disk.readRecord = .ok disk.payload := by
    rw [DiskPayload.readRecord, if_pos fast]
    exact bind_eq_ok.mpr ⟨(), StoredPayload.validate_eq_ok.mpr acceptable, rfl⟩
  have labelled : disk.payload.version.label = disk.payload.version := by
    rw [current]
    rfl
  rw [read, (acceptable.reread labelled).1]
  constructor
  · intro same
    exact StoredPayload.complete_of_upgraded_eq current acceptable.extraKeys
      (Except.ok.inj same).symm
  · intro complete
    rw [complete.upgraded_eq current]

/-! ## What store operations leave -/

section OnDisk

variable (projections : Projections) (hashing : Hashing)

def freshPayload (admission : Admission) (metadata : Doc) (warnings : List Doc)
    (sessionId : Option String) : StoredPayload where
  version := .v11
  absent := ∅
  extraKeys := []
  resumedFromRequestId := none
  record := (buildRecord admission metadata warnings sessionId).redactForPersistence
  unset := fun _ missing => absurd missing (Finset.notMem_empty _)

/-- A payload that store operations leave on disk: of an admission, of a locked read of what was
there, and of an operation on what such a read returned.  `found` are the payloads that were
there before, of any version. -/
inductive OnDisk (operations : StoreOp → Prop) (found : StoredPayload → Prop) :
    StoredPayload → Prop
  | admitted (admission : Admission) (metadata : Doc) (warnings : List Doc)
      (sessionId : Option String)
      (valid : (buildRecord admission metadata warnings sessionId).Valid) :
      OnDisk operations found (freshPayload admission metadata warnings sessionId)
  | migrated {payload read : StoredPayload}
      (source : found payload) (accepted : payload.migrate = .ok read) :
      OnDisk operations found read.redacted
  | reread {payload read : StoredPayload} (before : OnDisk operations found payload)
      (accepted : payload.migrate = .ok read) : OnDisk operations found read.redacted
  | mutated {payload read after : StoredPayload} (before : OnDisk operations found payload)
      (accepted : payload.migrate = .ok read) {op : StoreOp} (allowed : operations op)
      (mutates : op.Mutates projections hashing read after) : OnDisk operations found after
  | mutatedFound {payload read after : StoredPayload} (source : found payload)
      (accepted : payload.migrate = .ok read) {op : StoreOp} (allowed : operations op)
      (mutates : op.Mutates projections hashing read after) : OnDisk operations found after

variable {projections hashing}

theorem labelled_of_migrate {payload read : StoredPayload} (accepted : payload.migrate = .ok read) :
    read.Acceptable ∧ read.version.label = read.version := by
  obtain ⟨acceptable, rfl⟩ := StoredPayload.migrate_eq_ok.mp accepted
  refine ⟨acceptable, ?_⟩
  change payload.version.label.label = payload.version.label
  cases payload.version <;> rfl

/-- **Every payload that is left passes validation**, under a version that the migration keeps. -/
theorem OnDisk.acceptable {operations : StoreOp → Prop} {found : StoredPayload → Prop}
    {payload : StoredPayload} (left : OnDisk projections hashing operations found payload) :
    payload.Acceptable ∧ payload.version.label = payload.version := by
  have written : ∀ {payload read after : StoredPayload} {op : StoreOp},
      payload.migrate = .ok read → op.Mutates projections hashing read after →
        after.Acceptable ∧ after.version.label = after.version := by
    intro payload read after op accepted mutates
    obtain ⟨acceptable, labelled⟩ := labelled_of_migrate accepted
    obtain ⟨kept, version⟩ := mutates.acceptable acceptable labelled
    rw [version]
    exact ⟨kept, labelled⟩
  have reads : ∀ {payload read : StoredPayload}, payload.migrate = .ok read →
      read.redacted.Acceptable ∧ read.redacted.version.label = read.redacted.version := by
    intro payload read accepted
    obtain ⟨acceptable, labelled⟩ := labelled_of_migrate accepted
    exact ⟨acceptable.redacted, labelled⟩
  cases left with
  | admitted admission metadata warnings sessionId valid =>
    exact ⟨⟨rfl, rfl, fun _ missing => absurd missing (Finset.notMem_empty _), valid.redact⟩, rfl⟩
  | migrated _ accepted | reread _ accepted => exact reads accepted
  | mutated _ accepted _ mutates | mutatedFound _ accepted _ mutates =>
    exact written accepted mutates

theorem complete_of_migrate {payload read : StoredPayload} (accepted : payload.migrate = .ok read)
    (whole : payload.version.envelopeOnly = false ∨ read.Complete) : read.Complete := by
  obtain ⟨acceptable, rfl⟩ := StoredPayload.migrate_eq_ok.mp accepted
  rcases whole with full | complete
  · exact StoredPayload.upgraded_complete full acceptable.extraKeys
  · exact complete

/-- **Where no operator completes a request, and no payload is found that gets a new envelope
while it lacks a key, every payload that is left is complete.** -/
theorem OnDisk.complete {found : StoredPayload → Prop}
    (whole : ∀ payload read, found payload → payload.migrate = .ok read →
      payload.version.envelopeOnly = false ∨ read.Complete)
    {payload : StoredPayload}
    (left : OnDisk projections hashing (fun op => op.completesFromOutside = false) found payload) :
    payload.Complete := by
  have written : ∀ {read after : StoredPayload} {op : StoreOp}, read.Complete →
      op.completesFromOutside = false → op.Mutates projections hashing read after →
        after.Complete := by
    intro read after op complete inside mutates
    rcases mutates with writes | ⟨outside, _⟩
    · exact writes.complete inside complete
    · rw [inside] at outside
      cases outside
  -- What is left has a label of the full migration, so that the next read completes it.
  have reads : ∀ {payload read : StoredPayload},
      OnDisk projections hashing (fun op => op.completesFromOutside = false) found payload →
        payload.migrate = .ok read → read.Complete := by
    intro payload read before accepted
    refine complete_of_migrate accepted (.inl ?_)
    rcases StoredPayload.label_cases payload.version with same | same | same
    all_goals
      rw [← before.acceptable.2, same]
      rfl
  cases left with
  | admitted admission metadata warnings sessionId valid =>
    exact ⟨fun _ missing => absurd missing (Finset.notMem_empty _), rfl, rfl, rfl, fun _ => rfl⟩
  | migrated source accepted =>
    exact (complete_of_migrate accepted (whole _ _ source accepted)).redacted
  | reread before accepted => exact (reads before accepted).redacted
  | mutated before accepted allowed mutates => exact written (reads before accepted) allowed mutates
  | mutatedFound source accepted allowed mutates =>
    exact written (complete_of_migrate accepted (whole _ _ source accepted)) allowed mutates

end OnDisk

/-- **When a fast read is the slow one.**  Of a payload that store operations left and that
passes the fast test, it is exactly when the payload has every key that the migration sets, with
an activity summary that did not stop counting.  Every payload has when no operator completed
the request and no payload was found that lacked a key under a version of which only the
envelope is upgraded. -/
theorem fast_read_equals_slow_read (projections : Projections) (hashing : Hashing) :
    (∀ operations found (disk : DiskPayload),
      OnDisk projections hashing operations found disk.payload → disk.passesFastTest = true →
        (disk.readRecord = disk.payload.migrate ↔ disk.payload.Complete)) ∧
      ∀ found (disk : DiskPayload),
        OnDisk projections hashing (fun op => op.completesFromOutside = false) found
          disk.payload →
        (∀ payload read, found payload → payload.migrate = .ok read →
          payload.version.envelopeOnly = false ∨ read.Complete) →
        disk.payload.Complete ∧ disk.readRecord = disk.payload.migrate := by
  refine ⟨fun operations found disk left fast =>
    readRecord_eq_migrate_iff left.acceptable.1 fast, fun found disk left whole => ?_⟩
  have complete := left.complete whole
  refine ⟨complete, ?_⟩
  cases fast : disk.passesFastTest with
  | true => exact (readRecord_eq_migrate_iff left.acceptable.1 fast).mpr complete
  | false => rw [DiskPayload.readRecord, if_neg (by rw [fast]; simp)]

def completedOnDisk : DiskPayload where
  payload := completedPayload
  providerStarted := true
  started := fun _ => rfl

/-- **An operator's completion is read in two ways.**  Its payload passes the fast test, which
returns it without the previews that the locked read fills in. -/
theorem completed_request_reads_differ :
    OnDisk .plain .constant (fun _ => True) (fun _ => False) completedOnDisk.payload ∧
      completedOnDisk.passesFastTest = true ∧
      completedOnDisk.readRecord ≠ completedOnDisk.payload.migrate := by
  refine ⟨?_, rfl, ?_⟩
  · have admitted : OnDisk .plain .constant (fun _ => True) (fun _ => False)
        (freshPayload sampleAdmission "" [] none) :=
      .admitted sampleAdmission "" [] none ⟨rfl, rfl⟩
    have accepted : (freshPayload sampleAdmission "" [] none).migrate =
        .ok (admittedPayload .v11) := rfl
    have completed : (StoreOp.transitionOperatorTerminal bareCapture 1).Mutates .plain .constant
        (admittedPayload .v11) completedPayload := .inl ⟨rfl, subset_rfl, rfl, rfl, rfl, rfl⟩
    exact .mutated admitted accepted trivial completed
  · intro same
    have preview := congrArg (fun result => result.toOption.map
      (fun payload => payload.record.results.outputPreview)) same
    exact absurd preview (by decide)

end Audiagentic.Gateway
