import Audiagentic.Gateway.NodeProtocol

/-!
# The hand-over of a request to a new owner

A started request is held by an owner epoch, a worker and a service root.  Only three
operations move the holder: a takeover, and the two terminal writes that are not the
owner's.
-/

namespace Audiagentic.Gateway

open Foundations

variable {record updated : Record}

theorem Record.write_of_valid (valid : updated.Valid) (named : updated.admission.requestId ≠ "")
    (same : updated.admission = record.admission) :
    record.write updated = .ok updated.redactForPersistence :=
  Record.write_eq_ok.mpr ⟨named, valid, by rw [same], rfl⟩

variable {handoffId : Option String}

theorem takeoverRecovery_schemaValid
    (valid : whenPresent Recovery.schemaValid record.recovery = true) :
    (takeoverRecovery record handoffId).schemaValid = true := by
  cases stored : record.recovery with
  | none =>
    simp [takeoverRecovery, stored, Recovery.schemaValid, whenPresent]
  | some previous =>
    rw [stored] at valid
    simpa only [takeoverRecovery, stored, Recovery.schemaValid, Option.getD_some,
      whenPresent] using valid

variable {now : Timestamp}

theorem takenOver_valid {newOwnerEpoch : String} {newWorkerId : Option String}
    (valid : record.Valid) : (takenOver record newOwnerEpoch newWorkerId handoffId now).Valid := by
  rw [Record.valid_iff] at valid ⊢
  refine ⟨valid.1, ?_⟩
  have checks := valid.2
  simp only [Record.schemaChecks, List.forall_mem_cons] at checks ⊢
  obtain ⟨placement, dispatch, ordinal, warnings, activity, classification, diagnostics, evidence,
    provenance, recovery, rest⟩ := checks
  exact ⟨placement, dispatch, ordinal, warnings, activity, classification, diagnostics, evidence,
    provenance, takeoverRecovery_schemaValid recovery, rest⟩

/-- **A takeover of an open request succeeds.** -/
theorem takeoverNonterminalOwner_run {stored : Record} {expectedOwnerEpoch : Option String}
    {newOwnerEpoch : String} {newWorkerId handoffId : Option String} {now : Timestamp}
    (valid : stored.Valid) (named : stored.admission.requestId ≠ "")
    (epoch : newOwnerEpoch ≠ "") (isOpen : stored.state = .queued ∨ stored.state = .running)
    (expected : ∀ owner ∈ expectedOwnerEpoch, stored.dispatchOwnerEpoch = some owner)
    (other : stored.dispatchOwnerEpoch ≠ some newOwnerEpoch) :
    (takeoverNonterminalOwner expectedOwnerEpoch newOwnerEpoch newWorkerId handoffId now).run
        stored =
      ((takenOver stored.migrate newOwnerEpoch newWorkerId handoffId now).redactForPersistence,
        .ok (takenOver stored.migrate newOwnerEpoch newWorkerId handoffId
          now).redactForPersistence) := by
  have read : stored.readLocked = .ok stored.migrate :=
    Record.readLocked_eq_ok.mpr ⟨valid, rfl⟩
  have written : stored.migrate.write
      (takenOver stored.migrate newOwnerEpoch newWorkerId handoffId now) = .ok _ :=
    Record.write_of_valid (takenOver_valid (Record.valid_migrate_iff.mpr valid)) named rfl
  have isOpen' : ¬ (stored.migrate.state ≠ .queued ∧ stored.migrate.state ≠ .running) := by
    rintro ⟨notQueued, notRunning⟩
    exact isOpen.elim notQueued notRunning
  have same : ¬ ∃ owner ∈ expectedOwnerEpoch,
      stored.migrate.dispatchOwnerEpoch ≠ some owner := by
    rintro ⟨owner, member, different⟩
    exact different (expected owner member)
  have body : (takeoverNonterminalOwner expectedOwnerEpoch newOwnerEpoch newWorkerId handoffId
      now).body stored.migrate =
        .ok (takenOver stored.migrate newOwnerEpoch newWorkerId handoffId
          now).redactForPersistence := by
    simp only [takeoverNonterminalOwner]
    rw [if_neg isOpen', refuse_of_not same]
    change (if stored.migrate.dispatchOwnerEpoch = some newOwnerEpoch then _ else _) = _
    rw [if_neg (show ¬ stored.migrate.dispatchOwnerEpoch = _ from other)]
    exact written
  have admitted : (takeoverNonterminalOwner expectedOwnerEpoch newOwnerEpoch newWorkerId handoffId
      now).preflight = .ok () := refuse_of_not epoch
  simp only [Operation.run, admitted, read, body]

/-! ## The holder of a started request -/

structure SameHolder (record updated : Record) : Prop where
  owner : updated.dispatchOwnerEpoch = record.dispatchOwnerEpoch
  worker : updated.workerId = record.workerId
  service : updated.dispatchServiceRoot = record.dispatchServiceRoot

theorem SameHolder.refl (record : Record) : SameHolder record record :=
  ⟨rfl, rfl, rfl⟩

theorem SameFence.sameHolder (same : SameFence record updated) : SameHolder record updated :=
  ⟨same.dispatchOwnerEpoch, same.workerId, same.dispatchServiceRoot⟩

theorem SameHolder.of_write {target : Record} (written : record.write target = .ok updated)
    (same : SameHolder record target) : SameHolder record updated := by
  rw [Record.write_eq_redact written]
  exact ⟨same.owner, same.worker, same.service⟩

variable {projections : Projections} {hashing : Hashing}

theorem sameHolder_of_transition {newState : RequestState} {updates : List ResultUpdate}
    (written : record.write (transitioned projections record newState updates now) =
      .ok updated) : SameHolder record updated := by
  have fence := transitioned_sameFence projections record newState updates now
  exact SameHolder.of_write written
    ⟨fence.dispatchOwnerEpoch, fence.workerId, fence.dispatchServiceRoot⟩

theorem sameHolder_of_activity {identity : OwnedIdentity} {report : ActivityReport}
    (success : (recordOwnedActivity projections identity report now).body record = .ok updated) :
    SameHolder record updated := by
  simp only [recordOwnedActivity, bind_eq_ok, refuse_eq_ok, exists_const] at success
  obtain ⟨_, _, _, success⟩ := success
  split at success
  · cases success
    exact .refl _
  have fence := accepted_fence projections report record identity.attemptEpoch now
    ((ActivityKind.ofText? report.kind).getD .provider)
  exact SameHolder.of_write success
    ⟨fence.dispatchOwnerEpoch, fence.workerId, fence.dispatchServiceRoot⟩

theorem sameHolder_of_session {identity : OwnedIdentity} {attachment : SessionAttachment}
    {updatesUnchanged : Bool}
    (success : (updateOwnedRunningSession identity attachment updatesUnchanged now).body record =
      .ok updated) : SameHolder record updated := by
  simp only [updateOwnedRunningSession, bind_eq_ok, refuse_eq_ok, exists_const] at success
  obtain ⟨_, _, _, success⟩ := success
  split at success
  · cases success
    exact .refl _
  simp only [refuse_bind_eq_ok] at success
  have fence := SameFence.assignAll (attachment.attached record)
    (attachment.resultUpdates.filterMap Update.result?)
  exact SameHolder.of_write success.2
    ⟨fence.dispatchOwnerEpoch, fence.workerId, fence.dispatchServiceRoot⟩

theorem sameHolder_of_cancel {request : CancelRequest} {diagnostics : Option Diagnostics}
    {expectedRevision : Option Int}
    (success : (cancelQueuedOrMarkRequested projections request diagnostics expectedRevision
      now).body record = .ok updated) : SameHolder record updated := by
  simp only [cancelQueuedOrMarkRequested, bind_eq_ok] at success
  obtain ⟨_, _, success⟩ := success
  split at success
  · exact SameHolder.of_write success ⟨rfl, rfl, rfl⟩
  split at success
  · exact SameHolder.of_write success ⟨rfl, rfl, rfl⟩
  split at success
  · exact SameHolder.of_write success ⟨rfl, rfl, rfl⟩
  · cases success
    exact .refl _

section

variable {op : StoreOp} (succeeds : op.Succeeds projections hashing record updated)
include succeeds

/-- **Every other operation keeps the holder of a started request.** -/
theorem StoreOp.Succeeds.sameHolder (started : record.state ≠ .queued)
    (keeps : op.movesHolder = false) : SameHolder record updated := by
  by_cases writes : op.writesDispatch = true
  · rcases succeeds.nodeOutcome writes with kept | ⟨dispatch, clearRecovery, now, _, written⟩
    · rw [kept]
      exact .refl _
    · have fence := (writeNodeDispatch_ok written).2
      exact ⟨fence.dispatchOwnerEpoch, fence.workerId, fence.dispatchServiceRoot⟩
  by_cases plain : op.isPlain = true
  · rcases StoreOp.plainOutcome projections hashing plain succeeds.success with
      kept | ⟨target, written, plain⟩
    · rw [kept]
      exact .refl _
    · obtain ⟨owner, worker, service⟩ := plain.holder started keeps
      exact SameHolder.of_write written ⟨owner, worker, service⟩
  have success := succeeds.success
  cases op with
  | transitionRecord =>
    simp only [StoreOp.operation, Gateway.transitionRecord, bind_eq_ok] at success
    obtain ⟨_, _, _, _, written⟩ := success
    exact sameHolder_of_transition written
  | transitionOwnedTerminal =>
    simp only [StoreOp.operation, Gateway.transitionOwnedTerminal, Gateway.transitionRecord,
      bind_eq_ok] at success
    obtain ⟨_, _, _, _, written⟩ := success
    exact sameHolder_of_transition written
  | cancelQueuedOrMarkRequested => exact sameHolder_of_cancel success
  | recordOwnedActivity | renewOwnedActivity => exact sameHolder_of_activity success
  | updateOwnedRunningSession => exact sameHolder_of_session success
  | transitionRecoveredTerminal | transitionOperatorTerminal => cases keeps
  | bindOwnedNodeDispatch | authorizeOwnedNodeEffect | fenceNodeDispatchNoEffect
  | applyOwnedNodeReceipt => exact absurd rfl writes
  | _ => exact absurd rfl plain

theorem StoreOp.Succeeds.started (started : record.state ≠ .queued) :
    updated.state ≠ .queued := by
  rcases succeeds.change with kept | change
  · rw [kept]
    exact started
  rcases change.state with same | allowed | ⟨_, completed⟩
  · rw [same]
    exact started
  · intro queued
    rw [queued] at allowed
    revert allowed
    cases record.state <;> decide
  · rw [completed]
    decide

/-- **A first binding.**  Only `bind_owned_node_dispatch` makes one, on a running request with
a worker. -/
theorem StoreOp.Succeeds.first_binding {dispatch : NodeDispatch}
    (unbound : record.nodeDispatch = none) (bound : updated.nodeDispatch = some dispatch) :
    (∃ identity payload accepted fence resumeUnbound now,
        op = .bindOwnedNodeDispatch identity payload accepted fence resumeUnbound now) ∧
      record.state = .running ∧ present record.workerId = true := by
  have writes : op.writesDispatch = true := by
    by_contra silent
    rcases succeeds.change with kept | change
    · rw [kept, unbound] at bound
      cases bound
    · rw [change.dispatch (eq_false_of_ne_true silent), unbound] at bound
      cases bound
  obtain ⟨admitted, success⟩ := succeeds
  cases op with
  | bindOwnedNodeDispatch identity payload accepted fence resumeUnbound now =>
    refine ⟨⟨_, _, _, _, _, _, rfl⟩, ?_⟩
    simp only [StoreOp.operation, Gateway.bindOwnedNodeDispatch, bind_eq_ok,
      NodeFence.require_ok] at admitted
    obtain ⟨_, _, _, _, _, worker, _⟩ := admitted
    simp only [StoreOp.operation, Gateway.bindOwnedNodeDispatch, bind_eq_ok,
      NodeFence.check_ok, exists_const] at success
    obtain ⟨held, _, _, _, eligible, _⟩ := success
    have working : present record.workerId = true := by
      cases named : fence.workerId with
      | none =>
        rw [named] at worker
        cases worker
      | some workerId =>
        rw [held.worker workerId named, ← named]
        exact worker
    refine ⟨?_, working⟩
    cases resumeUnbound with
    | true =>
      simp only [bindingEligible, if_true, bind_eq_ok, refuse_eq_ok, not_or, not_not] at eligible
      obtain ⟨_, _, _, running, _⟩ := eligible
      exact running
    | false => exact (nodeFreshEffect_ok.mp eligible).2.1
  | authorizeOwnedNodeEffect =>
    simp only [StoreOp.operation, Gateway.authorizeOwnedNodeEffect, bind_eq_ok, unbound] at success
    obtain ⟨_, _, _, _, _, _, impossible⟩ := success
    cases impossible
  | fenceNodeDispatchNoEffect =>
    simp only [StoreOp.operation, Gateway.fenceNodeDispatchNoEffect, bind_eq_ok, unbound] at success
    obtain ⟨_, _, _, _, _, _, impossible⟩ := success
    cases impossible
  | applyOwnedNodeReceipt =>
    simp only [StoreOp.operation, Gateway.applyOwnedNodeReceipt, bind_eq_ok, unbound] at success
    obtain ⟨_, _, _, _, impossible⟩ := success
    cases impossible
  | _ => cases writes

end

/-- A successful takeover leaves the record as read, or hands it to the new owner. -/
theorem takeoverNonterminalOwner_ok {expectedOwnerEpoch : Option String} {newOwnerEpoch : String}
    {newWorkerId : Option String}
    (success : (takeoverNonterminalOwner expectedOwnerEpoch newOwnerEpoch newWorkerId handoffId
      now).body record = .ok updated) :
    updated = record ∨ updated =
      (takenOver record newOwnerEpoch newWorkerId handoffId now).redactForPersistence := by
  simp only [takeoverNonterminalOwner] at success
  split at success
  · cases success
    exact .inl rfl
  simp only [refuse_bind_eq_ok] at success
  obtain ⟨_, success⟩ := success
  split at success
  · cases success
    exact .inl rfl
  · exact .inr (Record.write_eq_redact success)

end Audiagentic.Gateway
