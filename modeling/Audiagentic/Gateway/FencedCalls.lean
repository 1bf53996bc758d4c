import Audiagentic.Gateway.OwnerFencing
import Audiagentic.Gateway.WorkIndex

/-!
# Claims and starts, with their markers

`claim_dispatch`, `start_owned_attempt` and `start_owned_session_attempt` write the record
first and update the markers of the service root after it.  A failed index write is passed
over, but an index entry that refuses the update makes the call fail when the record has
already changed.
-/

namespace Audiagentic.Gateway

open Foundations

/-! ## Calls -/

/-- The record of a request, and the marker directories of the service roots. -/
structure ServiceFiles where
  record : Record
  services : String → Markers

/-- The marker writes that fail with an `OSError`. -/
structure MarkerFaults where
  activeWork : Bool := false
  workIndex : Bool := false

structure FencedCall where
  preflight : Except GatewayError Unit
  body : Record → Except GatewayError (Bool × Record)
  markers : Record → Bool → (String → Markers) → (String → Markers) × Except Failure Unit

def FencedCall.run (call : FencedCall) (files : ServiceFiles) :
    ServiceFiles × Except Failure Record :=
  match call.preflight with
  | .error error => (files, .error (.refused error))
  | .ok _ =>
    match files.record.readLocked with
    | .error error => (files, .error (.refused error))
    | .ok record =>
      match call.body record with
      | .error error => ({ files with record := record }, .error (.refused error))
      | .ok (wrote, updated) =>
        (⟨updated, (call.markers record wrote files.services).1⟩,
          (call.markers record wrote files.services).2.map fun _ => updated)

section Calls

variable (digests : MarkerDigests) (projectRoot : String) (faults : MarkerFaults)

def claimMarkers (ownerEpoch : String) (serviceRoot : Option String) (now : Timestamp)
    (record : Record) (wrote : Bool) (services : String → Markers) :
    (String → Markers) × Except Failure Unit :=
  match serviceRoot with
  | none => (services, .ok ())
  | some root =>
    if faults.activeWork then (services, .error .osError)
    else
      let requestId := record.admission.requestId
      let marked := recordActiveWork digests (services root) projectRoot requestId ownerEpoch
      if wrote = false then (Function.update services root marked, .ok ())
      else
        match updateWorkIndexPhase digests marked requestId .admitted .claimed
            (some ownerEpoch) now with
        | .error error => (Function.update services root marked, .error (.refused error))
        | .ok (found, updated) =>
          -- A failed write of the entry is logged, and the claim stands.
          (Function.update services root (if faults.workIndex then if found then marked else updated
            else if found then updated
            else writeWorkIndexEntry digests updated projectRoot requestId .claimed
              (some ownerEpoch) none now), .ok ())

def startMarkers (ownerEpoch : Option String) (now : Timestamp) (record : Record) (wrote : Bool)
    (services : String → Markers) : (String → Markers) × Except Failure Unit :=
  match record.dispatchServiceRoot with
  | none => (services, .ok ())
  | some root =>
    if root = "" ∨ wrote = false then (services, .ok ())
    else
      match updateWorkIndexPhase digests (services root) record.admission.requestId .claimed
          .running ownerEpoch now with
      | .error error => (services, .error (.refused error))
      | .ok (found, updated) =>
        (Function.update services root
          (if faults.workIndex ∧ found then services root else updated), .ok ())

inductive FencedRequest where
  | claimDispatch (ownerEpoch : String) (expectedRevision : Int) (serviceRoot : Option String)
      (now : Timestamp)
  | startOwnedAttempt (ownerEpoch workerId : Option String) (expectedRevision : Int)
      (now : Timestamp)
  | startOwnedSessionAttempt (identity : OwnedIdentity) (now : Timestamp)

/-- `claim_dispatch`, `start_owned_attempt` and `start_owned_session_attempt`. -/
def FencedRequest.call : FencedRequest → FencedCall
  | .claimDispatch ownerEpoch expectedRevision serviceRoot now =>
    { preflight := (Gateway.claimDispatch ownerEpoch expectedRevision serviceRoot now).preflight
      body := fun record => do
        let (outcome, updated) ←
          claimDispatchBody ownerEpoch expectedRevision serviceRoot now record
        return (decide (outcome = .claimed), updated)
      markers := claimMarkers digests projectRoot faults ownerEpoch serviceRoot now }
  | .startOwnedAttempt ownerEpoch workerId expectedRevision now =>
    { preflight := (Gateway.startOwnedAttempt ownerEpoch workerId expectedRevision now).preflight
      body := fun record => do
        let updated ←
          (Gateway.startOwnedAttempt ownerEpoch workerId expectedRevision now).body record
        return (true, updated)
      markers := startMarkers digests faults ownerEpoch now }
  | .startOwnedSessionAttempt identity now =>
    { preflight := (Gateway.startOwnedSessionAttempt identity now).preflight
      body := fun record => do
        let updated ← (Gateway.startOwnedSessionAttempt identity now).body record
        return (decide (record.state ≠ .running), updated)
      markers := startMarkers digests faults identity.ownerEpoch now }

end Calls

/-! ## When a call fails after its write -/

namespace FencedRequest

def argumentsPass : FencedRequest → Prop
  | .claimDispatch ownerEpoch .. => ownerEpoch ≠ ""
  | .startOwnedAttempt ownerEpoch workerId .. =>
    present ownerEpoch = true ∧ present workerId = true
  | .startOwnedSessionAttempt identity _ => present identity.ownerEpoch = true ∧
      present identity.workerId = true ∧ 1 ≤ identity.attemptEpoch

def writes (record : Record) : FencedRequest → Prop
  | .claimDispatch ownerEpoch expectedRevision serviceRoot _ =>
    record.state = .queued ∧ (record.revision : Int) = expectedRevision ∧
      (record.dispatchOwnerEpoch = none ∨ record.dispatchOwnerEpoch = some ownerEpoch ∧
        serviceRoot ≠ none ∧ present record.dispatchServiceRoot = false)
  | .startOwnedAttempt ownerEpoch _ expectedRevision _ =>
    record.state = .queued ∧ (record.revision : Int) = expectedRevision ∧
      record.dispatchOwnerEpoch = ownerEpoch
  | .startOwnedSessionAttempt identity _ =>
    record.state = .queued ∧ record.cancelRequested = false ∧
      record.dispatchOwnerEpoch = identity.ownerEpoch ∧ record.workerId = identity.workerId ∧
      (record.attemptEpoch : Int) = identity.attemptEpoch

/-- The markers that refuse the call: a claim whose active-work marker cannot be written or
whose entry is past admission, a start whose entry is not claimed or has another owner. -/
def refusedByMarkers (digests : MarkerDigests) (faults : MarkerFaults) (files : ServiceFiles) :
    FencedRequest → Prop
  | .claimDispatch _ _ serviceRoot _ => ∃ root, serviceRoot = some root ∧
      (faults.activeWork = true ∨ (activeWorkName digests files.record.admission.requestId ≠
            files.record.admission.requestId ∧
          ∃ entry, entryAt digests (files.services root) files.record.admission.requestId =
            some entry ∧ entry.phase ≠ .admitted))
  | .startOwnedAttempt ownerEpoch .. => startRefused files ownerEpoch
  | .startOwnedSessionAttempt identity _ => startRefused files identity.ownerEpoch
where
  startRefused (files : ServiceFiles) (ownerEpoch : Option String) : Prop :=
    ∃ root, files.record.dispatchServiceRoot = some root ∧ root ≠ "" ∧
      ∃ entry, entryAt digests (files.services root) files.record.admission.requestId =
        some entry ∧ (entry.phase ≠ .claimed ∨
          present entry.ownerEpoch = true ∧ entry.ownerEpoch ≠ ownerEpoch)

/-- The call passes its checks, writes the record, and is then refused by the markers. -/
def failsLate (digests : MarkerDigests) (faults : MarkerFaults) (files : ServiceFiles)
    (request : FencedRequest) : Prop :=
  request.argumentsPass ∧ files.record.Valid ∧ files.record.admission.requestId ≠ "" ∧
    request.writes files.record ∧ request.refusedByMarkers digests faults files

end FencedRequest

/-! ## Calls in general -/

namespace FencedCall

def LateFailure (call : FencedCall) (files : ServiceFiles) : Prop :=
  call.preflight = .ok () ∧ files.record.Valid ∧
    (∃ updated, call.body files.record.migrate = .ok (true, updated)) ∧
    ∃ failure, (call.markers files.record.migrate true files.services).2 = .error failure

/-- The record is written exactly when the body says so. -/
structure Honest (call : FencedCall) : Prop where
  kept : ∀ record updated, call.body record = .ok (false, updated) → updated = record
  advanced : ∀ record updated, call.body record = .ok (true, updated) →
    updated.revision = record.revision + 1

variable {call : FencedCall} {files : ServiceFiles}

/-- **The ends of a call.**  It is refused before the record is read, it fails on the record
read, or its body succeeds and the markers decide. -/
theorem run_cases (call : FencedCall) (files : ServiceFiles) :
    (∃ failure, call.run files = (files, .error failure)) ∨
      (∃ failure, call.run files =
        ({ files with record := files.record.migrate }, .error failure)) ∨
      ∃ wrote updated, call.preflight = .ok () ∧ files.record.Valid ∧
        call.body files.record.migrate = .ok (wrote, updated) ∧
        call.run files =
          (⟨updated, (call.markers files.record.migrate wrote files.services).1⟩,
            (call.markers files.record.migrate wrote files.services).2.map fun _ => updated) := by
  cases passed : call.preflight with
  | error error => exact .inl ⟨.refused error, by simp only [run, passed]⟩
  | ok _ =>
    cases read : files.record.readLocked with
    | error error => exact .inl ⟨.refused error, by simp only [run, passed, read]⟩
    | ok record =>
      obtain ⟨valid, rfl⟩ := Record.readLocked_eq_ok.mp read
      cases body : call.body files.record.migrate with
      | error error =>
        exact .inr (.inl ⟨.refused error, by simp only [run, passed, read, body]⟩)
      | ok result =>
        exact .inr (.inr ⟨result.1, result.2, rfl, valid, rfl,
          by simp only [run, passed, read, body]⟩)

theorem Honest.run_late (honest : call.Honest) (late : call.LateFailure files) :
    (∃ failure, (call.run files).2 = .error failure) ∧
      (call.run files).1.record.revision = files.record.revision + 1 := by
  obtain ⟨passed, valid, ⟨updated, wrote⟩, failure, refused⟩ := late
  have read : files.record.readLocked = .ok files.record.migrate :=
    Record.readLocked_eq_ok.mpr ⟨valid, rfl⟩
  simp only [run, passed, read, wrote, refused]
  exact ⟨⟨failure, rfl⟩, honest.advanced files.record.migrate updated wrote⟩

/-- **A failure that is not late leaves the record as it was read.** -/
theorem Honest.run_early (honest : call.Honest) (early : ¬ call.LateFailure files)
    (failed : ∃ failure, (call.run files).2 = .error failure) :
    (call.run files).1.record = files.record ∨
      (call.run files).1.record = files.record.migrate := by
  rcases call.run_cases files with
    ⟨_, same⟩ | ⟨_, same⟩ | ⟨wrote, updated, passed, valid, body, same⟩
  · rw [same]
    exact .inl rfl
  · rw [same]
    exact .inr rfl
  · rw [same] at failed ⊢
    cases wrote with
    | false => exact .inr (honest.kept _ _ body)
    | true =>
      -- The markers would have to refuse a written record.
      obtain ⟨failure, failed⟩ := failed
      cases refused : (call.markers files.record.migrate true files.services).2 with
      | error other => exact absurd ⟨passed, valid, ⟨updated, body⟩, other, refused⟩ early
      | ok done =>
        rw [refused] at failed
        cases failed

end FencedCall

theorem Record.migrate_migrate (record : Record) : record.migrate.migrate = record.migrate := rfl

/-! ## The three calls -/

variable {record : Record}

/-- A record that was read accepts a write of any fields the schema does not check. -/
theorem Record.write_ok {updated : Record} (named : updated.admission.requestId ≠ "")
    (valid : updated.Valid)
    (admission : record.admission.nodeAdmission = updated.admission.nodeAdmission) :
    record.write updated = .ok updated.redactForPersistence :=
  Record.write_eq_ok.mpr ⟨named, valid, admission, rfl⟩

variable {now : Timestamp}

/-- **The claims that write the record.** -/
theorem claimDispatchBody_claimed_iff {ownerEpoch : String} {expectedRevision : Int}
    {serviceRoot : Option String} (valid : record.Valid) :
    (∃ updated, claimDispatchBody ownerEpoch expectedRevision serviceRoot now record =
        .ok (.claimed, updated)) ↔
      record.admission.requestId ≠ "" ∧
        (FencedRequest.claimDispatch ownerEpoch expectedRevision serviceRoot now).writes
        record := by
  constructor
  · rintro ⟨updated, success⟩
    simp only [claimDispatchBody, refuse_bind_eq_ok] at success
    obtain ⟨-, success⟩ := success
    split at success
    next => cases success
    next =>
      simp only [refuse_bind_eq_ok, not_not] at success
      obtain ⟨revision, queued, owner, success⟩ := success
      split at success
      next => cases success
      next incomplete =>
        simp only [bind_eq_ok] at success
        obtain ⟨written, write, -⟩ := success
        refine ⟨(Record.write_eq_ok.mp write).1, queued, revision, ?_⟩
        grind
  · rintro ⟨named, queued, revision, owner⟩
    have written := @Record.write_ok record (claimed record ownerEpoch serviceRoot now) named
      ⟨valid.consistent, valid.accepted⟩ rfl
    refine ⟨(claimed record ownerEpoch serviceRoot now).redactForPersistence, ?_⟩
    simp only [claimDispatchBody, refuse_bind_eq_ok]
    refine ⟨fun stale => stale.2 revision, ?_⟩
    rw [if_neg (by simp [queued])]
    simp only [refuse_bind_eq_ok, not_not]
    refine ⟨revision, queued, ?_, ?_⟩
    · grind
    · rw [if_neg (by grind), written]
      rfl

theorem forall_mem_eq_iff {expected actual : Option String} (given : present expected = true) :
    (∀ value ∈ expected, actual = some value) ↔ actual = expected := by
  cases expected with
  | none => cases given
  | some value =>
    constructor
    · intro every
      exact every value rfl
    · rintro rfl other same
      exact same

theorem RequestState.running_from_queued {state : RequestState} :
    state.transitionAllowed .running = true ↔ state = .queued := by
  cases state <;> decide

/-- **The starts that write the record.** -/
theorem startOwnedAttempt_body_iff {ownerEpoch workerId : Option String} {expectedRevision : Int}
    (valid : record.Valid) (given : present ownerEpoch = true) :
    (∃ updated, (startOwnedAttempt ownerEpoch workerId expectedRevision now).body record =
        .ok updated) ↔
      record.admission.requestId ≠ "" ∧
        (FencedRequest.startOwnedAttempt ownerEpoch workerId expectedRevision now).writes
          record := by
  simp only [startOwnedAttempt, bind_eq_ok, checkExpectedIdentity_ok, ensureTransition_ok,
    exists_const]
  constructor
  · rintro ⟨updated, holds, allowed, write⟩
    refine ⟨(Record.write_eq_ok.mp write).1, RequestState.running_from_queued.mp allowed,
      holds.revision expectedRevision rfl, ?_⟩
    exact (forall_mem_eq_iff given).mp holds.owner
  · rintro ⟨named, queued, revision, owner⟩
    have holds : ExpectedHolds record (some expectedRevision) ownerEpoch none none := by
      refine ⟨?_, (forall_mem_eq_iff given).mpr owner, ?_, ?_⟩
      · intro expected same
        cases same
        exact revision
      · intro expected impossible
        cases impossible
      · intro expected impossible
        cases impossible
    exact ⟨_, holds, RequestState.running_from_queued.mpr queued,
      Record.write_ok named ⟨valid.consistent, valid.accepted⟩ rfl⟩

/-- **The session starts that write the record.** -/
theorem startOwnedSessionAttempt_body_iff {identity : OwnedIdentity} (valid : record.Valid)
    (arguments : (FencedRequest.startOwnedSessionAttempt identity now).argumentsPass) :
    ((∃ updated, (startOwnedSessionAttempt identity now).body record = .ok updated) ∧
        record.state ≠ .running) ↔
      record.admission.requestId ≠ "" ∧
        (FencedRequest.startOwnedSessionAttempt identity now).writes record := by
  obtain ⟨ownerGiven, workerGiven, -⟩ := arguments
  simp only [startOwnedSessionAttempt, bind_eq_ok, checkExpectedIdentity_ok, exists_const]
  constructor
  · rintro ⟨⟨updated, holds, success⟩, notRunning⟩
    rw [if_neg notRunning] at success
    simp only [refuse_bind_eq_ok, not_not, Bool.not_eq_true] at success
    obtain ⟨queued, live, write⟩ := success
    exact ⟨(Record.write_eq_ok.mp write).1, queued, live,
      (forall_mem_eq_iff ownerGiven).mp holds.owner,
      (forall_mem_eq_iff workerGiven).mp holds.worker, holds.attempt _ rfl⟩
  · rintro ⟨named, queued, live, owner, worker, attempt⟩
    have notRunning : record.state ≠ .running := by
      rw [queued]
      decide
    have holds : ExpectedHolds record none identity.ownerEpoch identity.workerId
        (some identity.attemptEpoch) := by
      refine ⟨?_, (forall_mem_eq_iff ownerGiven).mpr owner,
        (forall_mem_eq_iff workerGiven).mpr worker, ?_⟩
      · intro expected impossible
        cases impossible
      · intro expected same
        cases same
        exact attempt
    obtain ⟨written, write⟩ : ∃ written, record.write { record with
        state := .running
        updatedAt := now
        watchdogState := some .active
        watchdogReason := some "awaiting-verified-activity"
        revision := record.revision + 1
        results := { record.results with startedAt := some now } } = .ok written :=
      ⟨_, Record.write_ok named ⟨valid.consistent, valid.accepted⟩ rfl⟩
    refine ⟨⟨written, holds, ?_⟩, notRunning⟩
    rw [if_neg notRunning]
    simp only [refuse_bind_eq_ok, not_not, Bool.not_eq_true]
    exact ⟨queued, live, write⟩

section Calls

variable {digests : MarkerDigests} {projectRoot : String} {faults : MarkerFaults}

theorem FencedRequest.preflight_iff (request : FencedRequest) :
    (request.call digests projectRoot faults).preflight = .ok () ↔ request.argumentsPass := by
  cases request with
  | claimDispatch ownerEpoch expectedRevision serviceRoot now => exact refuse_eq_ok
  | startOwnedAttempt | startOwnedSessionAttempt =>
    refine refuse_eq_ok.trans ?_
    simp [argumentsPass]

/-- **The calls that write the record**, by the record. -/
theorem FencedRequest.body_writes_iff (request : FencedRequest) (arguments : request.argumentsPass)
    (valid : record.Valid) :
    (∃ updated, (request.call digests projectRoot faults).body record = .ok (true, updated)) ↔
      record.admission.requestId ≠ "" ∧ request.writes record := by
  cases request with
  | claimDispatch ownerEpoch expectedRevision serviceRoot now =>
    rw [← claimDispatchBody_claimed_iff valid]
    simp only [call, bind_eq_ok]
    constructor
    · rintro ⟨updated, ⟨outcome, written⟩, success, same⟩
      cases outcome <;> cases same
      exact ⟨_, success⟩
    · rintro ⟨updated, success⟩
      exact ⟨updated, _, success, rfl⟩
  | startOwnedAttempt ownerEpoch workerId expectedRevision now =>
    rw [← startOwnedAttempt_body_iff valid arguments.1]
    simp only [call, bind_eq_ok]
    constructor
    · rintro ⟨updated, written, success, same⟩
      exact ⟨written, success⟩
    · rintro ⟨updated, success⟩
      exact ⟨updated, updated, success, rfl⟩
  | startOwnedSessionAttempt identity now =>
    rw [← startOwnedSessionAttempt_body_iff valid arguments]
    simp only [call, bind_eq_ok]
    constructor
    · rintro ⟨updated, written, success, same⟩
      have wrote := congrArg Prod.fst (Except.ok.inj same)
      exact ⟨⟨written, success⟩, of_decide_eq_true wrote⟩
    rintro ⟨⟨updated, success⟩, notRunning⟩
    refine ⟨updated, updated, success, ?_⟩
    rw [decide_eq_true notRunning]
    rfl

theorem FencedRequest.honest (request : FencedRequest) :
    (request.call digests projectRoot faults).Honest := by
  cases request with
  | claimDispatch ownerEpoch expectedRevision serviceRoot now =>
    have branches : ∀ record wrote updated, (call digests projectRoot faults
        (.claimDispatch ownerEpoch expectedRevision serviceRoot now)).body record =
          .ok (wrote, updated) →
        (wrote = false → updated = record) ∧
          (wrote = true → updated.revision = record.revision + 1) := by
      intro record wrote updated success
      simp only [call, bind_eq_ok] at success
      obtain ⟨⟨outcome, written⟩, claim, same⟩ := success
      cases same
      rcases claimDispatchBody_ok claim with
        ⟨rfl, kept, -⟩ | ⟨rfl, kept, -⟩ | ⟨rfl, -, -, -, write⟩
      · exact ⟨fun _ => kept, fun impossible => absurd impossible (by simp)⟩
      · exact ⟨fun _ => kept, fun impossible => absurd impossible (by simp)⟩
      · refine ⟨fun impossible => absurd impossible (by simp), fun _ => ?_⟩
        rw [Record.write_eq_redact write]
        rfl
    exact ⟨fun record updated success => (branches record false updated success).1 rfl,
      fun record updated success => (branches record true updated success).2 rfl⟩
  | startOwnedAttempt ownerEpoch workerId expectedRevision now =>
    constructor
    · intro record updated success
      simp only [call, bind_eq_ok] at success
      obtain ⟨written, -, same⟩ := success
      cases same
    · intro record updated success
      simp only [call, bind_eq_ok, Gateway.startOwnedAttempt, checkExpectedIdentity_ok,
        ensureTransition_ok, exists_const] at success
      obtain ⟨written, ⟨-, -, write⟩, same⟩ := success
      cases same
      rw [Record.write_eq_redact write]
      rfl
  | startOwnedSessionAttempt identity now =>
    constructor
    · intro record updated success
      simp only [call, bind_eq_ok, Gateway.startOwnedSessionAttempt, checkExpectedIdentity_ok,
        exists_const] at success
      obtain ⟨written, ⟨-, branch⟩, same⟩ := success
      have running : record.state = .running :=
        not_not.mp (of_decide_eq_false (congrArg Prod.fst (Except.ok.inj same)))
      rw [if_pos running] at branch
      cases branch
      exact (congrArg Prod.snd (Except.ok.inj same)).symm
    · intro record updated success
      simp only [call, bind_eq_ok, Gateway.startOwnedSessionAttempt, checkExpectedIdentity_ok,
        exists_const] at success
      obtain ⟨written, ⟨-, branch⟩, same⟩ := success
      have notRunning : record.state ≠ .running :=
        of_decide_eq_true (congrArg Prod.fst (Except.ok.inj same))
      rw [if_neg notRunning] at branch
      simp only [refuse_bind_eq_ok] at branch
      obtain ⟨-, -, write⟩ := branch
      have final : written = updated := congrArg Prod.snd (Except.ok.inj same)
      rw [← final, Record.write_eq_redact write]
      rfl

theorem claimMarkers_refuse_iff {ownerEpoch : String} {serviceRoot : Option String}
    {services : String → Markers} :
    (∃ failure, (claimMarkers digests projectRoot faults ownerEpoch serviceRoot now record true
        services).2 = .error failure) ↔
      ∃ root, serviceRoot = some root ∧ (faults.activeWork = true ∨
        (activeWorkName digests record.admission.requestId ≠ record.admission.requestId ∧
          ∃ entry, entryAt digests (services root) record.admission.requestId = some entry ∧
            entry.phase ≠ .admitted)) := by
  cases serviceRoot with
  | none => simp [claimMarkers]
  | some root =>
    by_cases unwritable : faults.activeWork = true
    · simp [claimMarkers, unwritable]
    have refused : (∃ failure, (claimMarkers digests projectRoot faults ownerEpoch (some root)
          now record true services).2 = .error failure) ↔
        ∃ error, updateWorkIndexPhase digests
          (recordActiveWork digests (services root) projectRoot record.admission.requestId
            ownerEpoch) record.admission.requestId .admitted .claimed (some ownerEpoch) now =
              .error error := by
      simp only [claimMarkers, unwritable]
      generalize updateWorkIndexPhase digests _ _ _ _ _ _ = update
      cases update with
      | error error => simp
      | ok result => simp
    rw [refused, updateWorkIndexPhase_refuses_iff (by decide), entryAt_recordActiveWork]
    by_cases collides : activeWorkName digests record.admission.requestId =
        record.admission.requestId
    · simp [collides, unwritable]
    · simp [collides, unwritable]

theorem startMarkers_refuse_iff {ownerEpoch : Option String} {services : String → Markers}
    (given : present ownerEpoch = true) :
    (∃ failure, (startMarkers digests faults ownerEpoch now record true services).2 =
        .error failure) ↔
      ∃ root, record.dispatchServiceRoot = some root ∧ root ≠ "" ∧
        ∃ entry, entryAt digests (services root) record.admission.requestId = some entry ∧
          (entry.phase ≠ .claimed ∨
            present entry.ownerEpoch = true ∧ entry.ownerEpoch ≠ ownerEpoch) := by
  cases service : record.dispatchServiceRoot with
  | none => simp [startMarkers, service]
  | some root =>
    by_cases empty : root = ""
    · simp [startMarkers, service, empty]
    have refused : (∃ failure, (startMarkers digests faults ownerEpoch now record true
          services).2 = .error failure) ↔
        ∃ error, updateWorkIndexPhase digests (services root) record.admission.requestId
          .claimed .running ownerEpoch now = .error error := by
      simp only [startMarkers, service, empty]
      generalize updateWorkIndexPhase digests _ _ _ _ _ _ = update
      cases update with
      | error error => simp
      | ok result => simp
    rw [refused, updateWorkIndexPhase_refuses_iff (by decide)]
    simp [empty, given]

theorem FencedRequest.markers_refuse_iff (request : FencedRequest)
    (arguments : request.argumentsPass) {files : ServiceFiles} :
    (∃ failure, ((request.call digests projectRoot faults).markers files.record.migrate true
      files.services).2 = .error failure) ↔ request.refusedByMarkers digests faults files := by
  cases request with
  | claimDispatch ownerEpoch expectedRevision serviceRoot now => exact claimMarkers_refuse_iff
  | startOwnedAttempt | startOwnedSessionAttempt =>
    exact startMarkers_refuse_iff arguments.1

/-- **A call that is refused by the markers is a late failure.** -/
theorem FencedRequest.lateFailure_iff (request : FencedRequest) {files : ServiceFiles} :
    (request.call digests projectRoot faults).LateFailure files ↔
      request.failsLate digests faults files := by
  rw [FencedCall.LateFailure, failsLate, request.preflight_iff]
  constructor
  · rintro ⟨arguments, valid, wrote, refused⟩
    have readable : files.record.migrate.Valid := Record.valid_migrate_iff.mpr valid
    obtain ⟨named, writes⟩ := (request.body_writes_iff arguments readable).mp wrote
    refine ⟨arguments, valid, named, ?_, (request.markers_refuse_iff arguments).mp refused⟩
    cases request <;> exact writes
  · rintro ⟨arguments, valid, named, writes, refused⟩
    have readable : files.record.migrate.Valid := Record.valid_migrate_iff.mpr valid
    refine ⟨arguments, valid, (request.body_writes_iff arguments readable).mpr ⟨named, ?_⟩,
      (request.markers_refuse_iff arguments).mpr refused⟩
    cases request <;> exact writes

end Calls

/-- **A failed claim or start leaves the record alone exactly when it is not refused late.**
What every later read of the record gives is then unchanged, and a record already in the
current form is left exactly as it was. -/
theorem fenced_call_unchanged_iff (digests : MarkerDigests) (projectRoot : String)
    (faults : MarkerFaults) (request : FencedRequest) (files : ServiceFiles) :
    let after := (request.call digests projectRoot faults).run files
    (((∃ failure, after.2 = .error failure) → after.1.record.migrate = files.record.migrate) ↔
        ¬ request.failsLate digests faults files) ∧
      (files.record.migrate = files.record →
        (((∃ failure, after.2 = .error failure) → after.1.record = files.record) ↔
          ¬ request.failsLate digests faults files)) := by
  intro after
  have honest : (request.call digests projectRoot faults).Honest := request.honest
  have lateFailure := @FencedRequest.lateFailure_iff digests projectRoot faults request files
  -- A late failure is seen in the revision, which no migration touches.
  have moved : request.failsLate digests faults files →
      (∃ failure, after.2 = .error failure) ∧ after.1.record.revision = files.record.revision + 1 :=
    fun late => honest.run_late (lateFailure.mpr late)
  have kept : ¬ request.failsLate digests faults files → (∃ failure, after.2 = .error failure) →
      after.1.record = files.record ∨ after.1.record = files.record.migrate :=
    fun early => honest.run_early fun late => early (lateFailure.mp late)
  refine ⟨⟨?_, ?_⟩, fun current => ⟨?_, ?_⟩⟩
  · intro unchanged late
    obtain ⟨failed, revision⟩ := moved late
    have same : after.1.record.migrate.revision = files.record.migrate.revision := by
      rw [unchanged failed]
    exact absurd (revision.symm.trans same) (Nat.succ_ne_self _)
  · intro early failed
    rcases kept early failed with same | same
    · rw [same]
    · rw [same, Record.migrate_migrate]
  · intro unchanged late
    obtain ⟨failed, revision⟩ := moved late
    rw [unchanged failed] at revision
    omega
  · intro early failed
    rcases kept early failed with same | same
    · exact same
    · rw [same, current]

/-! ## A released claim -/

def sampleDigests : MarkerDigests where
  requestId := fun _ => "f0c32b437b092d94ee8a7a9a781d72ae6cd3203b588de992e8107f0738649689"
  projectRoot := fun _ => "4f3f91f6b0b47e3b"

/-- The sample request as `admit_record` leaves it, with its entry. -/
def serviceSample : ServiceFiles where
  record := buildRecord sampleAdmission "" [] none
  services := fun _ => writeWorkIndexEntry sampleDigests ∅ "/srv/project" "req_sample_1" .admitted
    none none 0

/-- The sample request claimed by `g1` and released again. -/
def releasedSample : ServiceFiles :=
  let claimed := ((FencedRequest.claimDispatch "g1" 0 (some "/srv/gateway") 1).call sampleDigests
    "/srv/project" {}).run serviceSample
  { claimed.1 with record := ((releaseStaleClaim (some "g1") 2).run claimed.1.record).1 }

/-- **A claim after a release is half done.**  The release leaves the entry claimed, so the
claim of `g2` writes the record and is then refused. -/
theorem claim_after_release_half_done :
    let after := ((FencedRequest.claimDispatch "g2" 2 (some "/srv/gateway") 3).call sampleDigests
      "/srv/project" {}).run releasedSample
    releasedSample.record.dispatchOwnerEpoch = none ∧
      (∃ error, after.2 = .error (.refused error) ∧ error.code = "CON-AGW-104") ∧
      after.1.record ≠ releasedSample.record := by
  refine ⟨by decide +kernel, ⟨phaseMismatch "req_sample_1" .admitted .claimed, rfl, rfl⟩, ?_⟩
  intro same
  exact absurd (congrArg Record.revision same) (by decide +kernel)

end Audiagentic.Gateway
