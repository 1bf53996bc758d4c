import Audiagentic.Gateway.OwnerFencing

/-!
# The recovery mark and the cancellation marks

`recovery-required` says that a running request still has to be recovered, and the three
cancellation fields say who asked for a cancellation and who saw it first.  Every writer of a
record handles them by hand.  `Marks` says once what a call does to them.
-/

namespace Audiagentic.Gateway

open Foundations

/-- **What a call does to the marks**: under its condition a terminal record is unmarked, or it
was terminal with the same mark; a cancellation stays requested; and only a requested
cancellation is acknowledged. -/
structure Marks (condition : Prop) (record updated : Record) : Prop where
  recovery : condition → updated.state.isTerminal = true → updated.recoveryRequired = false ∨
    (record.state.isTerminal = true ∧ updated.recoveryRequired = record.recoveryRequired)
  requested : record.cancelRequested = true → updated.cancelRequested = true
  acknowledged : updated.cancelAcknowledgedBy = record.cancelAcknowledgedBy ∨
    updated.cancelRequested = true

variable {record updated target : Record}

namespace Marks

variable {condition : Prop}

theorem refl (record : Record) : Marks condition record record where
  recovery := fun _ terminal => .inr ⟨terminal, rfl⟩
  requested := id
  acknowledged := .inl rfl

theorem of_write (written : record.write target = .ok updated)
    (marks : Marks condition record target) : Marks condition record updated := by
  rw [Record.write_eq_redact written]
  exact ⟨marks.recovery, marks.requested, marks.acknowledged⟩

theorem of_same (state : target.state = record.state)
    (recovery : target.recoveryRequired = record.recoveryRequired)
    (requested : target.cancelRequested = record.cancelRequested)
    (acknowledged : target.cancelAcknowledgedBy = record.cancelAcknowledgedBy) :
    Marks condition record target where
  recovery := fun _ terminal => .inr ⟨state ▸ terminal, recovery⟩
  requested := fun was => requested.trans was
  acknowledged := .inl acknowledged

theorem of_open (open_ : target.state.isTerminal = false)
    (requested : target.cancelRequested = record.cancelRequested)
    (acknowledged : target.cancelAcknowledgedBy = record.cancelAcknowledgedBy) :
    Marks condition record target where
  recovery := by
    intro _ terminal
    rw [open_] at terminal
    cases terminal
  requested := fun was => requested.trans was
  acknowledged := .inl acknowledged

theorem of_cleared (cleared : target.recoveryRequired = false)
    (requested : target.cancelRequested = record.cancelRequested)
    (acknowledged : target.cancelAcknowledgedBy = record.cancelAcknowledgedBy) :
    Marks condition record target where
  recovery := fun _ _ => .inl cleared
  requested := fun was => requested.trans was
  acknowledged := .inl acknowledged

end Marks

/-! ## Result updates -/

theorem foldl_acknowledgedBy {round : Record → ResultUpdate → Record}
    (keeps : ∀ record update,
      (round record update).cancelAcknowledgedBy = record.cancelAcknowledgedBy)
    (record : Record) (updates : List ResultUpdate) :
    (updates.foldl round record).cancelAcknowledgedBy = record.cancelAcknowledgedBy := by
  induction updates generalizing record with
  | nil => rfl
  | cons update updates ih =>
    rw [List.foldl_cons, ih]
    exact keeps record update

theorem assignAll_acknowledgedBy (record : Record) (updates : List ResultUpdate) :
    (assignAll record updates).cancelAcknowledgedBy = record.cancelAcknowledgedBy := by
  refine foldl_acknowledgedBy (fun record update => ?_) record updates
  cases update <;> rfl

theorem applyUpdates_acknowledgedBy (projections : Projections) (record : Record)
    (updates : List ResultUpdate) :
    (applyUpdates projections record updates).cancelAcknowledgedBy =
      record.cancelAcknowledgedBy := by
  refine foldl_acknowledgedBy (fun record update => ?_) record updates
  cases update <;> rfl

theorem assignAll_recoveryRequired {updates : List ResultUpdate}
    (silent : ∀ update ∈ updates, update ≠ .recoveryRequired true)
    (cleared : record.recoveryRequired = false) :
    (assignAll record updates).recoveryRequired = false := by
  induction updates generalizing record with
  | nil => exact cleared
  | cons update updates ih =>
    obtain ⟨here, later⟩ := List.forall_mem_cons.mp silent
    refine ih later ?_
    cases update with
    | recoveryRequired value =>
      cases value with
      | false => rfl
      | true => exact absurd rfl here
    | _ => exact cleared

/-! ## The writers -/

variable {projections : Projections} {hashing : Hashing} {condition : Prop}

variable {now : Timestamp}

theorem marks_of_transition {newState : RequestState} {updates : List ResultUpdate}
    (written : record.write (transitioned projections record newState updates now) =
      .ok updated) : Marks condition record updated := by
  have fence := transitioned_sameFence projections record newState updates now
  have acknowledged : (transitioned projections record newState updates
      now).cancelAcknowledgedBy = record.cancelAcknowledgedBy := by
    have loop := applyUpdates_acknowledgedBy projections
      { record with state := newState, updatedAt := now, revision := record.revision + 1 } updates
    unfold transitioned
    split <;> exact loop
  cases terminal : newState.isTerminal with
  | true =>
    refine Marks.of_write written (Marks.of_cleared ?_ fence.cancelRequested acknowledged)
    simp only [transitioned, terminal, if_true]
  | false =>
    refine Marks.of_write written (Marks.of_open ?_ fence.cancelRequested acknowledged)
    rw [fence.state]
    exact terminal

theorem marks_of_activity {identity : OwnedIdentity} {report : ActivityReport}
    (success : (recordOwnedActivity projections identity report now).body record = .ok updated) :
    Marks condition record updated := by
  simp only [recordOwnedActivity, bind_eq_ok, refuse_eq_ok, exists_const] at success
  obtain ⟨_, _, _, success⟩ := success
  split at success
  · cases success
    exact .refl _
  · refine Marks.of_write success ?_
    cases (ActivityKind.ofText? report.kind).getD .provider <;>
      exact Marks.of_same rfl rfl rfl rfl

theorem marks_of_session {identity : OwnedIdentity} {attachment : SessionAttachment}
    {updatesUnchanged : Bool}
    (success : (updateOwnedRunningSession identity attachment updatesUnchanged now).body record =
      .ok updated) : Marks condition record updated := by
  simp only [updateOwnedRunningSession, bind_eq_ok, refuse_eq_ok, exists_const] at success
  obtain ⟨_, _, active, success⟩ := success
  split at success
  · cases success
    exact .refl _
  simp only [refuse_bind_eq_ok] at success
  have fence := SameFence.assignAll (attachment.attached record)
    (attachment.resultUpdates.filterMap Update.result?)
  have open_ : record.state.isTerminal = false := by
    cases state : record.state <;> simp_all [RequestState.isTerminal]
  refine Marks.of_write success.2 (Marks.of_open ?_ fence.cancelRequested ?_)
  · exact (congrArg RequestState.isTerminal fence.state).trans open_
  · exact assignAll_acknowledgedBy (attachment.attached record) _

theorem marks_of_nodeWrite {dispatch : NodeDispatch} {clearRecovery : Bool}
    (written : writeNodeDispatch record dispatch clearRecovery now = .ok updated) :
    Marks condition record updated := by
  refine Marks.of_write written ?_
  cases clearRecovery with
  | true => exact Marks.of_cleared rfl rfl rfl
  | false => exact Marks.of_same rfl rfl rfl rfl

/-- The call would not leave the mark on a record that it makes terminal: a recovered terminal
write and the cancellation of a queued request, when their own checks pass, find the record
unmarked; and an operator does not set the mark. -/
def StoreOp.clearsRecovery (record : Record) : StoreOp → Prop
  | .transitionRecoveredTerminal newState _ staleEpoch expectedRevision .. =>
    record.state.transitionAllowed newState = true →
    (∀ expected ∈ staleEpoch, record.dispatchOwnerEpoch = some expected) →
    (∀ expected ∈ expectedRevision, (record.revision : Int) = expected) →
      record.recoveryRequired = false
  | .cancelQueuedOrMarkRequested _ _ expectedRevision _ =>
    record.state = .queued →
    (∀ expected ∈ expectedRevision, (record.revision : Int) = expected) →
      record.recoveryRequired = false
  | .transitionOperatorTerminal capture _ =>
    ∀ update ∈ capture.updates, update ≠ .recoveryRequired true
  | _ => True

variable {expectedRevision : Option Int}

theorem checkDiagnosticRevision_ok {message : String} {passed : Unit} :
    checkDiagnosticRevision record expectedRevision message = .ok passed ↔
      ∀ expected ∈ expectedRevision, (record.revision : Int) = expected := by
  simp only [checkDiagnosticRevision, refuse_eq_ok, not_exists, not_and, not_not]

theorem recoveredTerminal_acknowledged (record : Record) (newState : RequestState)
    (error : Option ErrorValue) (replayRequired : Option Bool) (replayReason : Option String)
    (now : Timestamp) :
    (recoveredTerminal projections record newState error replayRequired replayReason
        now).cancelAcknowledgedBy = record.cancelAcknowledgedBy ∨
      record.cancelRequested = true := by
  cases requested : record.cancelRequested with
  | true => exact .inr rfl
  | false =>
    left
    simp [recoveredTerminal, requested]

theorem marks_of_recovered {newState : RequestState} {error : Option ErrorValue}
    {staleEpoch : Option String} {replayRequired : Option Bool} {replayReason : Option String}
    (success : (transitionRecoveredTerminal projections newState error staleEpoch
      expectedRevision replayRequired replayReason now).body record = .ok updated) :
    Marks ((StoreOp.transitionRecoveredTerminal newState error staleEpoch expectedRevision
      replayRequired replayReason now).clearsRecovery record) record updated := by
  simp only [transitionRecoveredTerminal, bind_eq_ok, checkDiagnosticRevision_ok, refuse_eq_ok,
    ensureTransition_ok, exists_const, not_exists, not_and, not_not] at success
  obtain ⟨current, owned, allowed, written⟩ := success
  refine Marks.of_write written ⟨fun clears _ => .inl ?_, id, ?_⟩
  · exact clears allowed owned current
  · exact recoveredTerminal_acknowledged record newState error replayRequired replayReason now

theorem marks_of_cancel {request : CancelRequest} {diagnostics : Option Diagnostics}
    (success : (cancelQueuedOrMarkRequested projections request diagnostics expectedRevision
      now).body record = .ok updated) :
    Marks ((StoreOp.cancelQueuedOrMarkRequested request diagnostics expectedRevision
      now).clearsRecovery record) record updated := by
  simp only [cancelQueuedOrMarkRequested, bind_eq_ok, checkDiagnosticRevision_ok,
    exists_const] at success
  obtain ⟨current, success⟩ := success
  split at success
  next queued =>
    exact Marks.of_write success
      ⟨fun clears _ => .inl (clears queued current), fun _ => rfl, .inr rfl⟩
  next =>
    split at success
    next running =>
      refine Marks.of_write success ⟨fun _ terminal => ?_, fun _ => rfl, .inr rfl⟩
      have open_ : record.state.isTerminal = true := terminal
      rw [running.1] at open_
      cases open_
    next =>
      split at success
      · exact Marks.of_write success (Marks.of_same rfl rfl rfl rfl)
      · cases success
        exact .refl _

theorem marks_of_operator {capture : OperatorCapture}
    (success : (transitionOperatorTerminal capture now).body record = .ok updated) :
    Marks ((StoreOp.transitionOperatorTerminal capture now).clearsRecovery record) record
      updated := by
  simp only [transitionOperatorTerminal, bind_eq_ok] at success
  obtain ⟨_, _, success⟩ := success
  split at success
  · cases success
    exact .refl _
  simp only [bind_eq_ok, refuse_eq_ok, exists_const] at success
  obtain ⟨_, _, _, _, written, write, success⟩ := success
  have first : Marks ((StoreOp.transitionOperatorTerminal capture now).clearsRecovery record)
      record written := by
    refine Marks.of_write write ⟨fun silent _ => .inl ?_, fun was => ?_, .inl ?_⟩
    · exact assignAll_recoveryRequired silent rfl
    · exact (SameFence.assignAll (operatorBase record capture now)
        capture.updates).cancelRequested.trans was
    · exact assignAll_acknowledgedBy (operatorBase record capture now) capture.updates
  split at success
  · split at success
    · rw [Record.write_eq_redact success]
      exact ⟨first.recovery, first.requested, first.acknowledged⟩
    · cases success
      exact first
  · cases success
    exact first

/-- **One call of any operation.** -/
theorem StoreOp.Succeeds.marks {op : StoreOp}
    (succeeds : op.Succeeds projections hashing record updated) :
    Marks (op.clearsRecovery record) record updated := by
  by_cases writes : op.writesDispatch = true
  · rcases succeeds.nodeOutcome writes with kept | ⟨dispatch, clearRecovery, now, _, written⟩
    · rw [kept]
      exact .refl _
    · exact marks_of_nodeWrite written
  by_cases plain : op.isPlain = true
  · rcases StoreOp.plainOutcome projections hashing plain succeeds.success with
      kept | ⟨target, written, plain⟩
    · rw [kept]
      exact .refl _
    · refine Marks.of_write written ⟨fun _ terminal => ?_, plain.requested, plain.acknowledged⟩
      rcases plain.recovery with ⟨state, same⟩ | isOpen
      · exact .inr ⟨state ▸ terminal, same⟩
      · cases isOpen.symm.trans terminal
  have success := succeeds.success
  cases op with
  | transitionRecord =>
    simp only [StoreOp.operation, Gateway.transitionRecord, bind_eq_ok] at success
    obtain ⟨_, _, _, _, written⟩ := success
    exact marks_of_transition written
  | transitionOwnedTerminal =>
    simp only [StoreOp.operation, Gateway.transitionOwnedTerminal, Gateway.transitionRecord,
      bind_eq_ok] at success
    obtain ⟨_, _, _, _, written⟩ := success
    exact marks_of_transition written
  | cancelQueuedOrMarkRequested => exact marks_of_cancel success
  | transitionRecoveredTerminal => exact marks_of_recovered success
  | transitionOperatorTerminal => exact marks_of_operator success
  | recordOwnedActivity | renewOwnedActivity => exact marks_of_activity success
  | updateOwnedRunningSession => exact marks_of_session success
  | bindOwnedNodeDispatch | authorizeOwnedNodeEffect | fenceNodeDispatchNoEffect
  | applyOwnedNodeReceipt => exact absurd rfl writes
  | _ => exact absurd rfl plain

/-! ## The recovery mark over runs -/

/-- A terminal request is not marked as needing recovery. -/
def Record.Settled (record : Record) : Prop :=
  record.state.isTerminal = true → record.recoveryRequired = false

theorem storeStep_settled (stored : Record) (op : StoreOp) (settled : stored.Settled)
    (clears : op.clearsRecovery stored) :
    (storeStep projections hashing stored op).Settled := by
  rcases @storeStep_cases projections hashing stored op with
    kept | normal | succeeds
  · rw [kept]
    exact settled
  · rw [normal]
    exact settled
  · intro terminal
    have normalized : op.clearsRecovery stored.migrate := by
      cases op <;> exact clears
    rcases succeeds.marks.recovery normalized terminal with cleared | ⟨before, same⟩
    · exact cleared
    · rw [same]
      exact settled before

/-- **A terminal request is never marked as needing recovery**, in every run of store operations
whose recovered terminal writes and queued cancellations find the record unmarked and whose
operators do not set the mark. -/
theorem terminal_needs_no_recovery (projections : Projections) (hashing : Hashing)
    (admission : Admission) (metadata : Doc) (warnings : List Doc) (sessionId : Option String)
    (ops : List StoreOp)
    (run : Admissible (storeStep projections hashing) (fun record op => op.clearsRecovery record)
      (buildRecord admission metadata warnings sessionId) ops)
    (terminal : (exec (storeStep projections hashing)
      (buildRecord admission metadata warnings sessionId) ops).state.isTerminal = true) :
    (exec (storeStep projections hashing) (buildRecord admission metadata warnings sessionId)
      ops).recoveryRequired = false := by
  have settled := run.invariant storeStep_settled (fun _ => rfl)
  exact settled terminal

/-- A request that runs under `g1` and is taken over by `g2`. -/
def takenOverRun : List StoreOp :=
  [.claimDispatch "g1" 0 none 1, .startOwnedAttempt (some "g1") (some "w1") 1 2,
    .takeoverNonterminalOwner (some "g1") "g2" (some "w2") none 3]

/-- The new owner fails the request: the mark is cleared. -/
theorem owned_terminal_clears_mark :
    (exec (storeStep .plain .constant) (buildRecord sampleAdmission "" [] none) (takenOverRun ++
      [.transitionOwnedTerminal "req_sample_1" .failed ⟨some "g2", some "w2", 1⟩ [] none
        4])).state = .failed ∧
      (exec (storeStep .plain .constant) (buildRecord sampleAdmission "" [] none) (takenOverRun ++
        [.transitionOwnedTerminal "req_sample_1" .failed ⟨some "g2", some "w2", 1⟩ [] none
          4])).recoveryRequired = false := by
  refine ⟨by decide +kernel, terminal_needs_no_recovery .plain .constant sampleAdmission "" [] none
    _ ⟨trivial, trivial, trivial, trivial, trivial⟩ (by decide +kernel)⟩

/-- **A recovered terminal write leaves the mark**: the interrupted request still says that it
needs recovery. -/
theorem recovered_terminal_keeps_mark :
    (exec (storeStep .plain .constant) (buildRecord sampleAdmission "" [] none) (takenOverRun ++
      [.transitionRecoveredTerminal .interrupted none (some "g2") none none none
        4])).state = .interrupted ∧
      (exec (storeStep .plain .constant) (buildRecord sampleAdmission "" [] none) (takenOverRun ++
        [.transitionRecoveredTerminal .interrupted none (some "g2") none none none
          4])).recoveryRequired = true := by
  exact ⟨by decide +kernel, by decide +kernel⟩

/-! ## Cancellation evidence over runs -/

def StoreOp.isCancellation : StoreOp → Bool
  | .markCancelRequested .. | .acknowledgeCancel .. | .cancelQueuedOrMarkRequested ..
  | .transitionRecoveredTerminal .. => true
  | _ => false

def Record.provenanceFree (record : Record) (request : CancelRequest) (now : Timestamp) : Prop :=
  record.cancelProvenance = none ∨ record.cancelProvenance = some (request.provenance now)

/-- The call does not overwrite evidence: the cancellation of a queued request finds no
acknowledgement of another component, and a call that writes the provenance finds it free. -/
def StoreOp.keepsEvidence (record : Record) : StoreOp → Prop
  | .markCancelRequested request now =>
    record.cancelRequested = false → record.provenanceFree request now
  | .cancelQueuedOrMarkRequested request _ expectedRevision now =>
    (∀ expected ∈ expectedRevision, (record.revision : Int) = expected) →
      (record.state = .queued → (record.cancelAcknowledgedBy = none ∨
          record.cancelAcknowledgedBy = some .queueWorker) ∧ record.provenanceFree request now) ∧
        (record.state = .running → record.cancelRequested = false →
          record.provenanceFree request now)
  | _ => True

structure EvidenceKept (record updated : Record) : Prop where
  requested : record.cancelRequested = true → updated.cancelRequested = true
  acknowledged : ∀ actor, record.cancelAcknowledgedBy = some actor →
    updated.cancelAcknowledgedBy = some actor
  provenance : ∀ value, record.cancelProvenance = some value →
    updated.cancelProvenance = some value

namespace EvidenceKept

theorem refl (record : Record) : EvidenceKept record record :=
  ⟨id, fun _ => id, fun _ => id⟩

theorem trans {first second third : Record} (left : EvidenceKept first second)
    (right : EvidenceKept second third) : EvidenceKept first third where
  requested := right.requested ∘ left.requested
  acknowledged := fun actor => right.acknowledged actor ∘ left.acknowledged actor
  provenance := fun value => right.provenance value ∘ left.provenance value

theorem of_write (written : record.write target = .ok updated) (kept : EvidenceKept record target) :
    EvidenceKept record updated := by
  rw [Record.write_eq_redact written]
  exact ⟨kept.requested, kept.acknowledged, kept.provenance⟩

end EvidenceKept

theorem Record.provenanceFree.kept {request : CancelRequest}
    (free : record.provenanceFree request now) {value : CancelProvenance}
    (found : record.cancelProvenance = some value) :
    some (request.provenance now) = some value := by
  rcases free with missing | same
  · rw [missing] at found
    cases found
  · exact same.symm.trans found

/-- **One cancellation call.** -/
theorem StoreOp.Succeeds.evidenceKept {op : StoreOp}
    (succeeds : op.Succeeds projections hashing record updated) (cancels : op.isCancellation = true)
    (keeps : op.keepsEvidence record) : EvidenceKept record updated := by
  have success := succeeds.success
  cases op with
  | markCancelRequested request now =>
    simp only [StoreOp.operation, Gateway.markCancelRequested] at success
    split at success
    · cases success
      exact .refl _
    next fresh =>
      exact EvidenceKept.of_write success ⟨fun _ => rfl, fun _ => id,
        fun _ found => (keeps (eq_false_of_ne_true fresh)).kept found⟩
  | acknowledgeCancel =>
    simp only [StoreOp.operation, Gateway.acknowledgeCancel, refuse_bind_eq_ok] at success
    obtain ⟨_, success⟩ := success
    split at success
    · cases success
      exact .refl _
    next unseen =>
      refine EvidenceKept.of_write success ⟨id, fun actor found => ?_, fun _ => id⟩
      rw [found] at unseen
      exact absurd rfl unseen
  | cancelQueuedOrMarkRequested request diagnostics expectedRevision now =>
    simp only [StoreOp.operation, Gateway.cancelQueuedOrMarkRequested, bind_eq_ok,
      checkDiagnosticRevision_ok, exists_const] at success
    obtain ⟨current, success⟩ := success
    obtain ⟨whenQueued, whenRunning⟩ := keeps current
    split at success
    next queued =>
      obtain ⟨seen, free⟩ := whenQueued queued
      refine EvidenceKept.of_write success ⟨fun _ => rfl, fun actor found => ?_,
        fun _ found => free.kept found⟩
      rcases seen with unseen | same
      · rw [unseen] at found
        cases found
      · exact same.symm.trans found
    next =>
      split at success
      next running =>
        exact EvidenceKept.of_write success ⟨fun _ => rfl, fun _ => id,
          fun _ found => (whenRunning running.1 running.2).kept found⟩
      next =>
        split at success
        · exact EvidenceKept.of_write success ⟨id, fun _ => id, fun _ => id⟩
        · cases success
          exact .refl _
  | transitionRecoveredTerminal =>
    simp only [StoreOp.operation, Gateway.transitionRecoveredTerminal, bind_eq_ok, refuse_eq_ok,
      exists_const] at success
    obtain ⟨_, _, _, _, _, written⟩ := success
    refine EvidenceKept.of_write written ⟨id, fun actor found => ?_, fun _ => id⟩
    simp [recoveredTerminal, found]
  | _ => cases cancels

theorem storeStep_evidenceKept (stored : Record) (op : StoreOp)
    (cancels : op.isCancellation = true) (keeps : op.keepsEvidence stored) :
    EvidenceKept stored (storeStep projections hashing stored op) := by
  rcases @storeStep_cases projections hashing stored op with kept | normal | succeeds
  · rw [kept]
    exact .refl _
  · rw [normal]
    exact ⟨id, fun _ => id, fun _ => id⟩
  · have normalized : op.keepsEvidence stored.migrate := by
      cases op <;> exact keeps
    have kept := succeeds.evidenceKept cancels normalized
    exact ⟨kept.requested, kept.acknowledged, kept.provenance⟩

def Record.Acknowledged (record : Record) : Prop :=
  record.cancelAcknowledgedBy ≠ none → record.cancelRequested = true

theorem storeStep_acknowledged (stored : Record) (op : StoreOp)
    (acknowledged : stored.Acknowledged) :
    (storeStep projections hashing stored op).Acknowledged := by
  rcases @storeStep_cases projections hashing stored op with kept | normal | succeeds
  · rw [kept]
    exact acknowledged
  · rw [normal]
    exact acknowledged
  · intro seen
    rcases succeeds.marks.acknowledged with same | requested
    · rw [same] at seen
      exact succeeds.marks.requested (acknowledged seen)
    · exact requested

theorem storeStep_cancelRequested (stored : Record) (op : StoreOp)
    (requested : stored.cancelRequested = true) :
    (storeStep projections hashing stored op).cancelRequested = true := by
  rcases @storeStep_cases projections hashing stored op with kept | normal | succeeds
  · rw [kept]
    exact requested
  · rw [normal]
    exact requested
  · exact succeeds.marks.requested requested

/-- **Cancellation evidence is write-once**, in every sequence of cancellation calls in which
the cancellation of a queued request finds no acknowledgement of another component and a call
that writes the provenance finds it free: the first acknowledgement and the first provenance stay
as they are.  Whatever is called, a cancellation stays requested and only a requested cancellation
is acknowledged. -/
theorem cancellation_evidence_kept (projections : Projections) (hashing : Hashing) :
    (∀ (record : Record) (calls : List StoreOp), (∀ call ∈ calls, call.isCancellation = true) →
      Admissible (storeStep projections hashing) (fun record call => call.keepsEvidence record)
        record calls →
      EvidenceKept record (exec (storeStep projections hashing) record calls)) ∧
    (∀ (record : Record) (calls : List StoreOp), record.cancelRequested = true →
      (exec (storeStep projections hashing) record calls).cancelRequested = true) ∧
    (∀ (record : Record) (calls : List StoreOp), record.Acknowledged →
      (exec (storeStep projections hashing) record calls).Acknowledged) ∧
    ∀ (admission : Admission) (metadata : Doc) (warnings : List Doc) (sessionId : Option String)
      (calls : List StoreOp), (exec (storeStep projections hashing)
        (buildRecord admission metadata warnings sessionId) calls).Acknowledged := by
  have acknowledged : ∀ (record : Record) (calls : List StoreOp), record.Acknowledged →
      (exec (storeStep projections hashing) record calls).Acknowledged :=
    fun record calls initially => exec_invariant storeStep_acknowledged initially calls
  refine ⟨?_, fun record calls requested =>
    exec_invariant storeStep_cancelRequested requested calls, acknowledged, ?_⟩
  · intro record calls cancelling run
    induction calls generalizing record with
    | nil => exact .refl _
    | cons call calls ih =>
      obtain ⟨here, later⟩ := List.forall_mem_cons.mp cancelling
      exact (storeStep_evidenceKept record call here run.1).trans
        (ih _ later run.2)
  · intro admission metadata warnings sessionId calls
    exact acknowledged _ calls (fun seen => absurd rfl seen)

/-- A cancellation of a queued request that the session runtime has seen. -/
def acknowledgedRun : List StoreOp :=
  [.markCancelRequested ⟨"operator", "operator", none, none⟩ 1,
    .acknowledgeCancel "session-runtime" 2]

/-- A later acknowledgement and a recovery keep the first evidence. -/
theorem later_recovery_keeps_evidence :
    (exec (storeStep .plain .constant) (buildRecord sampleAdmission "" [] none) (acknowledgedRun ++
      [.acknowledgeCancel "recovery" 3, .transitionRecoveredTerminal .interrupted none none none
        none none 4])).cancelAcknowledgedBy = some .sessionRuntime := by
  have seen : (exec (storeStep .plain .constant) (buildRecord sampleAdmission "" [] none)
      acknowledgedRun).cancelAcknowledgedBy = some .sessionRuntime := by decide +kernel
  rw [exec_append]
  exact ((cancellation_evidence_kept .plain .constant).1 _
    [.acknowledgeCancel "recovery" 3, .transitionRecoveredTerminal .interrupted none none none none
      none 4] (by decide) ⟨trivial, trivial, trivial⟩).acknowledged .sessionRuntime seen

/-- **The cancellation of a queued request overwrites the evidence**: the first acknowledgement
and the first provenance are lost. -/
theorem queued_cancellation_overwrites_evidence :
    (exec (storeStep .plain .constant) (buildRecord sampleAdmission "" [] none)
        acknowledgedRun).cancelAcknowledgedBy = some .sessionRuntime ∧
      (exec (storeStep .plain .constant) (buildRecord sampleAdmission "" [] none)
        (acknowledgedRun ++ [.cancelQueuedOrMarkRequested ⟨"api", "client", none, none⟩ none none
          3])).cancelAcknowledgedBy = some .queueWorker ∧
      (exec (storeStep .plain .constant) (buildRecord sampleAdmission "" [] none)
          acknowledgedRun).cancelProvenance ≠
        (exec (storeStep .plain .constant) (buildRecord sampleAdmission "" [] none)
          (acknowledgedRun ++ [.cancelQueuedOrMarkRequested ⟨"api", "client", none, none⟩ none none
            3])).cancelProvenance ∧
      (exec (storeStep .plain .constant) (buildRecord sampleAdmission "" [] none)
        acknowledgedRun).cancelProvenance ≠ none := by
  exact ⟨by decide +kernel, by decide +kernel, by decide +kernel, by decide +kernel⟩

end Audiagentic.Gateway
