import Audiagentic.Gateway.NodeDispatch
import Audiagentic.Foundations.Runs

/-!
# What a store operation can do to a record

`StoreOp` is the alphabet of all operations on one request record, with their
arguments; a run of the store is a list of them.  `Change` says once what a successful
operation does to the fenced part of a record: every later invariant is derived from it.

`StoreOp.plainOutcome` inverts the operations that only set fields of their own, and each
`…_changes` lemma one of the others; the node dispatch has its own protocol and its own module.
-/

namespace Audiagentic.Gateway

open Foundations

/-! ## The fenced part of a record -/

structure SameFence (record updated : Record) : Prop where
  admission : updated.admission = record.admission
  state : updated.state = record.state
  revision : updated.revision = record.revision
  cancelRequested : updated.cancelRequested = record.cancelRequested
  workerId : updated.workerId = record.workerId
  attemptEpoch : updated.attemptEpoch = record.attemptEpoch
  dispatchOwnerEpoch : updated.dispatchOwnerEpoch = record.dispatchOwnerEpoch
  dispatchServiceRoot : updated.dispatchServiceRoot = record.dispatchServiceRoot
  nodeDispatch : updated.nodeDispatch = record.nodeDispatch

namespace SameFence

theorem refl (record : Record) : SameFence record record :=
  ⟨rfl, rfl, rfl, rfl, rfl, rfl, rfl, rfl, rfl⟩

theorem trans {first second third : Record} (left : SameFence first second)
    (right : SameFence second third) : SameFence first third where
  admission := right.admission.trans left.admission
  state := right.state.trans left.state
  revision := right.revision.trans left.revision
  cancelRequested := right.cancelRequested.trans left.cancelRequested
  workerId := right.workerId.trans left.workerId
  attemptEpoch := right.attemptEpoch.trans left.attemptEpoch
  dispatchOwnerEpoch := right.dispatchOwnerEpoch.trans left.dispatchOwnerEpoch
  dispatchServiceRoot := right.dispatchServiceRoot.trans left.dispatchServiceRoot
  nodeDispatch := right.nodeDispatch.trans left.nodeDispatch

theorem withRevision {first second : Record} (same : SameFence first second) (revision : Nat) :
    SameFence { first with revision := revision } { second with revision := revision } :=
  ⟨same.admission, same.state, rfl, same.cancelRequested, same.workerId, same.attemptEpoch,
    same.dispatchOwnerEpoch, same.dispatchServiceRoot, same.nodeDispatch⟩

theorem redact (record : Record) : SameFence record record.redactForPersistence :=
  ⟨rfl, rfl, rfl, rfl, rfl, rfl, rfl, rfl, rfl⟩

theorem migrate (record : Record) : SameFence record record.migrate :=
  ⟨rfl, rfl, rfl, rfl, rfl, rfl, rfl, rfl, rfl⟩

theorem retireFinalization (record : Record) (revision : Nat) (now : Timestamp) :
    SameFence { record with revision := revision } (retireFinalization record revision now) :=
  ⟨rfl, rfl, rfl, rfl, rfl, rfl, rfl, rfl, rfl⟩

theorem assign (record : Record) (update : ResultUpdate) :
    SameFence record (update.assign record) := by
  cases update <;> exact ⟨rfl, rfl, rfl, rfl, rfl, rfl, rfl, rfl, rfl⟩

theorem applyTransition (projections : Projections) (record : Record) (update : ResultUpdate) :
    SameFence record (update.applyTransition projections record) := by
  cases update <;> exact ⟨rfl, rfl, rfl, rfl, rfl, rfl, rfl, rfl, rfl⟩

theorem foldl {round : Record → ResultUpdate → Record}
    (keeps : ∀ record update, SameFence record (round record update)) (record : Record)
    (updates : List ResultUpdate) : SameFence record (updates.foldl round record) := by
  induction updates generalizing record with
  | nil => exact refl record
  | cons update updates ih =>
    exact (keeps record update).trans (ih (round record update))

theorem assignAll (record : Record) (updates : List ResultUpdate) :
    SameFence record (assignAll record updates) :=
  foldl assign record updates

theorem applyUpdates (projections : Projections) (record : Record) (updates : List ResultUpdate) :
    SameFence record (applyUpdates projections record updates) :=
  let loop := foldl (applyTransition projections) record updates
  ⟨loop.admission, loop.state, loop.revision, loop.cancelRequested, loop.workerId,
    loop.attemptEpoch, loop.dispatchOwnerEpoch, loop.dispatchServiceRoot, loop.nodeDispatch⟩

end SameFence

/-! ## The alphabet -/

inductive StoreOp where
  | transitionRecord (requestId : String) (newState : RequestState) (updates : List Update)
      (expected : ExpectedIdentity) (now : Timestamp)
  | transitionOwnedTerminal (requestId : String) (newState : RequestState)
      (identity : OwnedIdentity) (updates : List Update) (expectedRevision : Option Int)
      (now : Timestamp)
  | updateDiagnostics (diagnostics : Diagnostics) (evidence : Option Evidence)
      (expectedRevision : Option Int) (now : Timestamp)
  | markCancelRequested (request : CancelRequest) (now : Timestamp)
  | acknowledgeCancel (actor : String) (now : Timestamp)
  | cancelQueuedOrMarkRequested (request : CancelRequest) (diagnostics : Option Diagnostics)
      (expectedRevision : Option Int) (now : Timestamp)
  | appendAttempt (entry : AttemptEntry)
      (expectedDispatchOwnerEpoch expectedWorkerId : Option String)
      (expectedAttemptEpoch : Option Int) (now : Timestamp)
  | appendOwnedAttempt (identity : OwnedIdentity) (entry : AttemptEntry) (now : Timestamp)
  | startAttempt (workerId : String) (now : Timestamp)
  | startOwnedAttempt (ownerEpoch workerId : Option String) (expectedRevision : Int)
      (now : Timestamp)
  | prepareOwnedSessionAttempt (ownerEpoch workerId : Option String) (expectedRevision : Int)
      (resolved : Placement) (now : Timestamp)
  | startOwnedSessionAttempt (identity : OwnedIdentity) (now : Timestamp)
  | bindAndStartOwnedAttempt (ownerEpoch workerId : Option String) (expectedRevision : Int)
      (resolved : Placement) (now : Timestamp)
  | claimDispatch (ownerEpoch : String) (expectedRevision : Int) (serviceRoot : Option String)
      (now : Timestamp)
  | releaseStaleClaim (staleEpoch : Option String) (now : Timestamp)
  | takeoverNonterminalOwner (expectedOwnerEpoch : Option String) (newOwnerEpoch : String)
      (newWorkerId handoffId : Option String) (now : Timestamp)
  | deferOwnedRecovery (identity : OwnedIdentity) (deferral : Deferral) (now : Timestamp)
  | transitionRecoveredTerminal (newState : RequestState) (error : Option ErrorValue)
      (staleEpoch : Option String) (expectedRevision : Option Int) (replayRequired : Option Bool)
      (replayReason : Option String) (now : Timestamp)
  | transitionOperatorTerminal (capture : OperatorCapture) (now : Timestamp)
  | repairPendingTerminalFinalization (applied : Bool) (now : Timestamp)
  | linkReplay (newRequestId : String) (now : Timestamp)
  | recordOwnedActivity (identity : OwnedIdentity) (report : ActivityReport) (now : Timestamp)
  | renewOwnedActivity (identity : OwnedIdentity) (activitySeq : Int) (activitySource : String)
      (activityLeaseSeconds : Int) (now : Timestamp)
  | markWatchdogInterventionIfExpired (identity : OwnedIdentity) (now : Timestamp)
  | updateOwnedRunningSession (identity : OwnedIdentity) (attachment : SessionAttachment)
      (updatesUnchanged : Bool) (now : Timestamp)
  | bindOwnedNodeDispatch (identity : CommandIdentity) (payload : CommandPayload)
      (accepted : Attestation) (fence : NodeFence) (resumeUnbound : Bool) (now : Timestamp)
  | authorizeOwnedNodeEffect (identity : CommandIdentity) (authorizationId : String)
      (accepted : Attestation) (currentNodeEpoch : String) (currentConnectionGeneration : Int)
      (fence : NodeFence) (now : Timestamp)
  | fenceNodeDispatchNoEffect (identity : CommandIdentity) (fence : NodeFence)
      (retiredConnectionGeneration : Int) (now : Timestamp)
  | applyOwnedNodeReceipt (receipt : PublicReceipt) (fence : NodeFence) (now : Timestamp)

variable (projections : Projections) (hashing : Hashing)

def StoreOp.operation : StoreOp → Operation
  | .transitionRecord requestId newState updates expected now =>
    Gateway.transitionRecord projections requestId newState updates expected now
  | .transitionOwnedTerminal requestId newState identity updates expectedRevision now =>
    Gateway.transitionOwnedTerminal projections requestId newState identity updates
      expectedRevision now
  | .updateDiagnostics diagnostics evidence expectedRevision now =>
    Gateway.updateDiagnostics projections diagnostics evidence expectedRevision now
  | .markCancelRequested request now => Gateway.markCancelRequested projections request now
  | .acknowledgeCancel actor now => Gateway.acknowledgeCancel actor now
  | .cancelQueuedOrMarkRequested request diagnostics expectedRevision now =>
    Gateway.cancelQueuedOrMarkRequested projections request diagnostics expectedRevision now
  | .appendAttempt entry ownerEpoch workerId attemptEpoch now =>
    Gateway.appendAttempt projections entry ownerEpoch workerId attemptEpoch now
  | .appendOwnedAttempt identity entry now =>
    Gateway.appendOwnedAttempt projections identity entry now
  | .startAttempt workerId now => Gateway.startAttempt workerId now
  | .startOwnedAttempt ownerEpoch workerId expectedRevision now =>
    Gateway.startOwnedAttempt ownerEpoch workerId expectedRevision now
  | .prepareOwnedSessionAttempt ownerEpoch workerId expectedRevision resolved now =>
    Gateway.prepareOwnedSessionAttempt ownerEpoch workerId expectedRevision resolved now
  | .startOwnedSessionAttempt identity now => Gateway.startOwnedSessionAttempt identity now
  | .bindAndStartOwnedAttempt ownerEpoch workerId expectedRevision resolved now =>
    Gateway.bindAndStartOwnedAttempt ownerEpoch workerId expectedRevision resolved now
  | .claimDispatch ownerEpoch expectedRevision serviceRoot now =>
    Gateway.claimDispatch ownerEpoch expectedRevision serviceRoot now
  | .releaseStaleClaim staleEpoch now => Gateway.releaseStaleClaim staleEpoch now
  | .takeoverNonterminalOwner expectedOwnerEpoch newOwnerEpoch newWorkerId handoffId now =>
    Gateway.takeoverNonterminalOwner expectedOwnerEpoch newOwnerEpoch newWorkerId handoffId now
  | .deferOwnedRecovery identity deferral now =>
    Gateway.deferOwnedRecovery projections identity deferral now
  | .transitionRecoveredTerminal newState error staleEpoch expectedRevision replayRequired
      replayReason now =>
      Gateway.transitionRecoveredTerminal projections newState error staleEpoch expectedRevision
        replayRequired replayReason now
  | .transitionOperatorTerminal capture now => Gateway.transitionOperatorTerminal capture now
  | .repairPendingTerminalFinalization applied now =>
    Gateway.repairPendingTerminalFinalization applied now
  | .linkReplay newRequestId now => Gateway.linkReplay newRequestId now
  | .recordOwnedActivity identity report now =>
    Gateway.recordOwnedActivity projections identity report now
  | .renewOwnedActivity identity activitySeq activitySource activityLeaseSeconds now =>
    Gateway.renewOwnedActivity projections identity activitySeq activitySource
      activityLeaseSeconds now
  | .markWatchdogInterventionIfExpired identity now =>
    Gateway.markWatchdogInterventionIfExpired projections identity now
  | .updateOwnedRunningSession identity attachment updatesUnchanged now =>
    Gateway.updateOwnedRunningSession identity attachment updatesUnchanged now
  | .bindOwnedNodeDispatch identity payload accepted fence resumeUnbound now =>
    Gateway.bindOwnedNodeDispatch hashing identity payload accepted fence resumeUnbound now
  | .authorizeOwnedNodeEffect identity authorizationId accepted currentNodeEpoch
      currentConnectionGeneration fence now =>
      Gateway.authorizeOwnedNodeEffect hashing identity authorizationId accepted currentNodeEpoch
        currentConnectionGeneration fence now
  | .fenceNodeDispatchNoEffect identity fence retiredConnectionGeneration now =>
    Gateway.fenceNodeDispatchNoEffect identity fence retiredConnectionGeneration now
  | .applyOwnedNodeReceipt receipt fence now =>
    Gateway.applyOwnedNodeReceipt hashing receipt fence now

/-- The operation writes `node-dispatch`. -/
def StoreOp.writesDispatch : StoreOp → Bool
  | .bindOwnedNodeDispatch .. | .authorizeOwnedNodeEffect .. | .fenceNodeDispatchNoEffect ..
  | .applyOwnedNodeReceipt .. => true
  | _ => false

inductive OwnerMove where
  | keep
  | release
  | assign (epoch : String)

def OwnerMove.apply (current : Option String) : OwnerMove → Option String
  | .keep => current
  | .release => none
  | .assign epoch => some epoch

def StoreOp.ownerMove : StoreOp → OwnerMove
  | .claimDispatch ownerEpoch .. => .assign ownerEpoch
  | .takeoverNonterminalOwner _ newOwnerEpoch .. => .assign newOwnerEpoch
  | .releaseStaleClaim .. | .transitionOperatorTerminal .. => .release
  | _ => .keep

/-- An operator may complete a request from any state but a rejected one. -/
def StoreOp.completesFromOutside : StoreOp → Bool
  | .transitionOperatorTerminal .. => true
  | _ => false

def StoreOp.movesHolder : StoreOp → Bool
  | .takeoverNonterminalOwner .. | .transitionRecoveredTerminal ..
  | .transitionOperatorTerminal .. => true
  | _ => false

/-- **What a writing operation does to the fenced part of a record.** -/
structure Change (op : StoreOp) (record updated : Record) : Prop where
  valid : updated.Valid
  admission : updated.admission = record.admission
  revision : record.revision < updated.revision
  attempt : record.attemptEpoch ≤ updated.attemptEpoch
  owner : updated.dispatchOwnerEpoch = op.ownerMove.apply record.dispatchOwnerEpoch
  state : updated.state = record.state ∨ record.state.transitionAllowed updated.state = true ∨
    (op.completesFromOutside = true ∧ updated.state = .completed)
  dispatch : op.writesDispatch = false → updated.nodeDispatch = record.nodeDispatch

/-- A successful call of the operation's body leaves the record as read or changes it. -/
def StoreOp.Changes (op : StoreOp) : Prop :=
  ∀ record updated, (op.operation projections hashing).body record = .ok updated →
    updated = record ∨ Change op record updated

variable {record updated : Record}

/-- A write whose target keeps the fence, up to its owner move, is a change. -/
theorem Change.of_write {op : StoreOp} {target : Record}
    (success : record.write target = .ok updated) (admission : target.admission = record.admission)
    (revision : record.revision < target.revision)
    (attempt : record.attemptEpoch ≤ target.attemptEpoch)
    (owner : target.dispatchOwnerEpoch = op.ownerMove.apply record.dispatchOwnerEpoch)
    (state : target.state = record.state ∨ record.state.transitionAllowed target.state = true ∨
      (op.completesFromOutside = true ∧ target.state = .completed))
    (dispatch : op.writesDispatch = false → target.nodeDispatch = record.nodeDispatch) :
    Change op record updated := by
  obtain ⟨_, valid, _, rfl⟩ := Record.write_eq_ok.mp success
  exact ⟨valid.redact, admission, revision, attempt, owner, state, dispatch⟩

/-! ## The changes of each operation -/

theorem ensureTransition_ok {current new : RequestState} {passed : Unit} :
    ensureTransition current new = .ok passed ↔ current.transitionAllowed new = true := by
  simp only [ensureTransition, refuse_eq_ok, Bool.not_eq_false]

theorem transitioned_sameFence (record : Record) (newState : RequestState)
    (updates : List ResultUpdate) (now : Timestamp) :
    SameFence { record with state := newState, updatedAt := now, revision := record.revision + 1 }
      (transitioned projections record newState updates now) := by
  have loop := SameFence.applyUpdates projections
    { record with state := newState, updatedAt := now, revision := record.revision + 1 } updates
  unfold transitioned
  split
  · exact ⟨loop.admission, loop.state, loop.revision, loop.cancelRequested, loop.workerId,
      loop.attemptEpoch, loop.dispatchOwnerEpoch, loop.dispatchServiceRoot, loop.nodeDispatch⟩
  · exact loop

variable {now : Timestamp}

theorem transitionRecord_write {op : StoreOp} {newState : RequestState}
    {updates : List ResultUpdate} (keeps : op.ownerMove = .keep)
    (allowed : record.state.transitionAllowed newState = true)
    (success : record.write (transitioned projections record newState updates now) =
      .ok updated) : Change op record updated := by
  have fence := transitioned_sameFence projections record newState updates now
  refine Change.of_write success fence.admission ?_ ?_ ?_ ?_ (fun _ => fence.nodeDispatch)
  · rw [fence.revision]
    exact Nat.lt_succ_self _
  · exact Nat.le_of_eq fence.attemptEpoch.symm
  · rw [fence.dispatchOwnerEpoch, keeps]
    rfl
  · rw [fence.state]
    exact .inr (.inl allowed)

theorem transitionRecord_changes (requestId : String) (newState : RequestState)
    (updates : List Update) (expected : ExpectedIdentity) (now : Timestamp) :
    (StoreOp.transitionRecord requestId newState updates expected now).Changes projections
      hashing := by
  intro record updated success
  change (transitionRecord projections requestId newState updates expected now).body record =
    .ok updated at success
  simp only [transitionRecord, bind_eq_ok, ensureTransition_ok, exists_const] at success
  obtain ⟨_, _, allowed, written⟩ := success
  exact .inr (transitionRecord_write projections rfl allowed written)

theorem transitionOwnedTerminal_changes (requestId : String) (newState : RequestState)
    (identity : OwnedIdentity) (updates : List Update) (expectedRevision : Option Int)
    (now : Timestamp) :
    (StoreOp.transitionOwnedTerminal requestId newState identity updates expectedRevision
      now).Changes projections hashing := by
  intro record updated success
  change (transitionOwnedTerminal projections requestId newState identity updates
      expectedRevision now).body record = .ok updated at success
  simp only [transitionOwnedTerminal, transitionRecord, bind_eq_ok,
    ensureTransition_ok, exists_const] at success
  obtain ⟨_, _, allowed, written⟩ := success
  exact .inr (transitionRecord_write projections rfl allowed written)

theorem cancelQueuedOrMarkRequested_changes (request : CancelRequest)
    (diagnostics : Option Diagnostics) (expectedRevision : Option Int) (now : Timestamp) :
    (StoreOp.cancelQueuedOrMarkRequested request diagnostics expectedRevision now).Changes
      projections hashing := by
  intro record updated success
  change (cancelQueuedOrMarkRequested projections request diagnostics expectedRevision
      now).body record = .ok updated at success
  simp only [cancelQueuedOrMarkRequested, bind_eq_ok] at success
  obtain ⟨_, _, success⟩ := success
  split at success
  next queued =>
    refine .inr (Change.of_write success rfl (Nat.lt_succ_self _) (Nat.le_refl _) rfl
      (.inr (.inl ?_))
      (fun _ => rfl))
    rw [queued]
    rfl
  next =>
    split at success
    · exact .inr (Change.of_write success rfl (Nat.lt_succ_self _) (Nat.le_refl _) rfl (.inl rfl)
        (fun _ => rfl))
    split at success
    · exact .inr (Change.of_write success rfl (Nat.lt_succ_self _) (Nat.le_refl _) rfl (.inl rfl)
        (fun _ => rfl))
    · cases success
      exact .inl rfl

theorem claimDispatchBody_ok {ownerEpoch : String} {expectedRevision : Int}
    {serviceRoot : Option String} {outcome : ClaimOutcome}
    (success : claimDispatchBody ownerEpoch expectedRevision serviceRoot now record =
      .ok (outcome, updated)) :
    (outcome = .recoveredDispatch ∧ updated = record ∧ record.state = .running ∧
        record.recoveryRequired = true ∧ record.dispatchOwnerEpoch = some ownerEpoch) ∨
    (outcome = .alreadyClaimed ∧ updated = record ∧ record.state = .queued ∧
        (record.revision : Int) = expectedRevision ∧
        record.dispatchOwnerEpoch = some ownerEpoch ∧
        (serviceRoot = none ∨ present record.dispatchServiceRoot = true)) ∨
    (outcome = .claimed ∧ record.state = .queued ∧ (record.revision : Int) = expectedRevision ∧
        (record.dispatchOwnerEpoch = none ∨ record.dispatchOwnerEpoch = some ownerEpoch) ∧
        record.write (claimed record ownerEpoch serviceRoot now) = .ok updated) := by
  simp only [claimDispatchBody, refuse_bind_eq_ok] at success
  obtain ⟨_, success⟩ := success
  split at success
  next recovered =>
    cases success
    exact .inl ⟨rfl, rfl, recovered⟩
  next =>
    simp only [refuse_bind_eq_ok, not_not] at success
    obtain ⟨revision, queued, owner, success⟩ := success
    split at success
    next held =>
      cases success
      exact .inr (.inl ⟨rfl, rfl, queued, revision, held⟩)
    next =>
      simp only [bind_eq_ok] at success
      obtain ⟨written, write, same⟩ := success
      cases same
      have available : record.dispatchOwnerEpoch = none ∨
          record.dispatchOwnerEpoch = some ownerEpoch := by grind
      exact .inr (.inr ⟨rfl, queued, revision, available, write⟩)

theorem transitionRecoveredTerminal_changes (newState : RequestState) (error : Option ErrorValue)
    (staleEpoch : Option String) (expectedRevision : Option Int) (replayRequired : Option Bool)
    (replayReason : Option String) (now : Timestamp) :
    (StoreOp.transitionRecoveredTerminal newState error staleEpoch expectedRevision replayRequired
      replayReason now).Changes projections hashing := by
  intro record updated success
  change (transitionRecoveredTerminal projections newState error staleEpoch expectedRevision
      replayRequired replayReason now).body record = .ok updated at success
  simp only [transitionRecoveredTerminal, bind_eq_ok, refuse_eq_ok,
    ensureTransition_ok, exists_const] at success
  obtain ⟨_, _, _, allowed, written⟩ := success
  exact .inr (Change.of_write written rfl (Nat.lt_succ_self _) (Nat.le_refl _) rfl
    (.inr (.inl allowed)) (fun _ => rfl))

theorem operatorCompleted_fence (record : Record) (capture : OperatorCapture) (now : Timestamp) :
    SameFence { record with
        state := .completed
        revision := record.revision + 1
        workerId := none
        dispatchOwnerEpoch := none } (operatorCompleted record capture now) := by
  refine SameFence.trans ?_
    (SameFence.assignAll (operatorBase record capture now) capture.updates)
  exact ⟨rfl, rfl, rfl, rfl, rfl, rfl, rfl, rfl, rfl⟩

/-- The writes of a successful operator completion, seen through the fence. -/
theorem transitionOperatorTerminal_ok {capture : OperatorCapture}
    (success : (transitionOperatorTerminal capture now).body record = .ok updated) :
    (record.state = .completed ∧ updated = record) ∨
    (record.state ≠ .completed ∧ record.state ≠ .rejected ∧ updated.Valid ∧
      ∃ revision, record.revision < revision ∧
        SameFence { record with
          state := .completed
          revision := revision
          workerId := none
          dispatchOwnerEpoch := none } updated) := by
  simp only [transitionOperatorTerminal, bind_eq_ok] at success
  obtain ⟨_, _, success⟩ := success
  split at success
  next completed =>
    cases success
    exact .inl ⟨completed, rfl⟩
  next open_ =>
    simp only [bind_eq_ok, refuse_eq_ok, exists_const] at success
    obtain ⟨completable, _, _, _, written, write, success⟩ := success
    obtain ⟨_, valid, _, rfl⟩ := Record.write_eq_ok.mp write
    have first := operatorCompleted_fence record capture now
    have once : SameFence { record with
        state := .completed
        revision := record.revision + 1
        workerId := none
        dispatchOwnerEpoch := none } (operatorCompleted record capture now).redactForPersistence :=
      first.trans (.redact _)
    refine .inr ⟨open_, completable, ?_⟩
    split at success
    · split at success
      · obtain ⟨_, validAgain, _, rfl⟩ := Record.write_eq_ok.mp success
        have reread := (once.trans (.migrate _)).withRevision (record.revision + 2)
        exact ⟨validAgain.redact, record.revision + 2, by omega,
          (reread.trans (.retireFinalization _ _ now)).trans (.redact _)⟩
      · cases success
        exact ⟨valid.redact, record.revision + 1, Nat.lt_succ_self _, once⟩
    · cases success
      exact ⟨valid.redact, record.revision + 1, Nat.lt_succ_self _, once⟩

theorem transitionOperatorTerminal_changes (capture : OperatorCapture) (now : Timestamp) :
    (StoreOp.transitionOperatorTerminal capture now).Changes projections hashing := by
  intro record updated success
  rcases transitionOperatorTerminal_ok success with
    ⟨_, kept⟩ | ⟨_, _, valid, revision, newer, fence⟩
  · exact .inl kept
  · refine .inr ⟨valid, fence.admission, ?_, ?_, fence.dispatchOwnerEpoch,
      .inr (.inr ⟨rfl, fence.state⟩), fun _ => fence.nodeDispatch⟩
    · rw [fence.revision]
      exact newer
    · exact Nat.le_of_eq fence.attemptEpoch.symm

theorem accepted_fence (report : ActivityReport) (record : Record) (attemptEpoch : Int)
    (now : Timestamp) (kind : ActivityKind) :
    SameFence { record with revision := record.revision + 1 }
      (report.accepted projections record attemptEpoch now kind) := by
  cases kind <;> exact ⟨rfl, rfl, rfl, rfl, rfl, rfl, rfl, rfl, rfl⟩

theorem recordOwnedActivity_write {op : StoreOp} (keeps : op.ownerMove = .keep)
    {identity : OwnedIdentity} {report : ActivityReport}
    (success : (recordOwnedActivity projections identity report now).body record = .ok updated) :
    updated = record ∨ Change op record updated := by
  simp only [recordOwnedActivity, bind_eq_ok, refuse_eq_ok, exists_const] at success
  obtain ⟨_, _, _, success⟩ := success
  split at success
  · cases success
    exact .inl rfl
  have fence := accepted_fence projections report record identity.attemptEpoch now
    ((ActivityKind.ofText? report.kind).getD .provider)
  refine .inr (Change.of_write success fence.admission ?_ ?_ ?_ (.inl fence.state)
    (fun _ => fence.nodeDispatch))
  · rw [fence.revision]
    exact Nat.lt_succ_self _
  · exact Nat.le_of_eq fence.attemptEpoch.symm
  · rw [fence.dispatchOwnerEpoch, keeps]
    rfl

theorem updateOwnedRunningSession_changes (identity : OwnedIdentity)
    (attachment : SessionAttachment) (updatesUnchanged : Bool) (now : Timestamp) :
    (StoreOp.updateOwnedRunningSession identity attachment updatesUnchanged now).Changes
      projections hashing := by
  intro record updated success
  change (updateOwnedRunningSession identity attachment updatesUnchanged now).body record =
    .ok updated at success
  simp only [updateOwnedRunningSession, bind_eq_ok, refuse_eq_ok, exists_const] at success
  obtain ⟨_, _, _, success⟩ := success
  split at success
  · cases success
    exact .inl rfl
  simp only [refuse_bind_eq_ok] at success
  obtain ⟨_, written⟩ := success
  have attached : SameFence record (attachment.attached record) :=
    ⟨rfl, rfl, rfl, rfl, rfl, rfl, rfl, rfl, rfl⟩
  have fence := attached.trans (SameFence.assignAll (attachment.attached record)
    (attachment.resultUpdates.filterMap Update.result?))
  exact .inr (Change.of_write written fence.admission (Nat.lt_succ_self _)
    (Nat.le_of_eq fence.attemptEpoch.symm) fence.dispatchOwnerEpoch (.inl fence.state)
    (fun _ => fence.nodeDispatch))

theorem queued_of_starts {state : RequestState}
    (allowed : state.transitionAllowed .running = true) : state = .queued := by
  revert allowed
  cases state <;> decide

/-! ## Plain operations -/

/-- The operations that write one record with a few fields of their own, in all its other fields the
one they read. -/
def StoreOp.isPlain : StoreOp → Bool
  | .transitionRecord .. | .transitionOwnedTerminal .. | .cancelQueuedOrMarkRequested ..
  | .transitionRecoveredTerminal .. | .transitionOperatorTerminal .. | .recordOwnedActivity ..
  | .renewOwnedActivity .. | .updateOwnedRunningSession .. | .bindOwnedNodeDispatch ..
  | .authorizeOwnedNodeEffect .. | .fenceNodeDispatchNoEffect .. | .applyOwnedNodeReceipt .. =>
    false
  | _ => true

/-- **What a plain operation writes.** -/
structure PlainWrite (op : StoreOp) (record target : Record) : Prop where
  admission : target.admission = record.admission
  revision : record.revision < target.revision
  attempt : record.attemptEpoch ≤ target.attemptEpoch
  owner : target.dispatchOwnerEpoch = op.ownerMove.apply record.dispatchOwnerEpoch
  state : target.state = record.state ∨ record.state.transitionAllowed target.state = true
  dispatch : target.nodeDispatch = record.nodeDispatch
  recovery : target.state = record.state ∧ target.recoveryRequired = record.recoveryRequired ∨
    target.state.isTerminal = false
  requested : record.cancelRequested = true → target.cancelRequested = true
  acknowledged : target.cancelAcknowledgedBy = record.cancelAcknowledgedBy ∨
    target.cancelRequested = true
  holder : record.state ≠ .queued → op.movesHolder = false →
    target.dispatchOwnerEpoch = record.dispatchOwnerEpoch ∧ target.workerId = record.workerId ∧
      target.dispatchServiceRoot = record.dispatchServiceRoot
  preview : target.results.outputPreview = record.results.outputPreview
  truncated : target.results.outputTruncated = record.results.outputTruncated
  activity : target.activity = record.activity
  sequence : target.activitySequence = record.activitySequence

def PlainOutcome (op : StoreOp) (record updated : Record) : Prop :=
  updated = record ∨ ∃ target, record.write target = .ok updated ∧ PlainWrite op record target

theorem isTerminal_eq_false {state : RequestState} (active : state = .queued ∨ state = .running) :
    state.isTerminal = false := by
  rcases active with rfl | rfl <;> rfl

/-- The operations on the attempts of a request. -/
def StoreOp.isAttempt : StoreOp → Bool
  | .appendAttempt .. | .appendOwnedAttempt .. | .startAttempt .. | .startOwnedAttempt ..
  | .bindAndStartOwnedAttempt .. | .prepareOwnedSessionAttempt ..
  | .startOwnedSessionAttempt .. => true
  | _ => false

theorem StoreOp.attemptOutcome {op : StoreOp} (attempt : op.isAttempt = true)
    (success : (op.operation projections hashing).body record = .ok updated) :
    PlainOutcome op record updated := by
  cases op with
  | appendAttempt | appendOwnedAttempt =>
    simp only [StoreOp.operation, Gateway.appendOwnedAttempt, Gateway.appendAttempt,
      bind_eq_ok] at success
    obtain ⟨_, _, written⟩ := success
    exact .inr ⟨_, written, rfl, Nat.lt_succ_self _, Nat.le_refl _, rfl, .inl rfl, rfl,
      .inl ⟨rfl, rfl⟩, id, .inl rfl, fun _ _ => ⟨rfl, rfl, rfl⟩, rfl, rfl, rfl, rfl⟩
  | startAttempt =>
    simp only [StoreOp.operation, Gateway.startAttempt, bind_eq_ok, ensureTransition_ok,
      exists_const] at success
    obtain ⟨allowed, written⟩ := success
    exact .inr ⟨_, written, rfl, Nat.lt_succ_self _, Nat.le_succ _, rfl, .inr allowed, rfl,
      .inr rfl, id, .inl rfl, fun started _ => absurd (queued_of_starts allowed) started, rfl,
      rfl, rfl, rfl⟩
  | startOwnedAttempt | bindAndStartOwnedAttempt =>
    simp only [StoreOp.operation, Gateway.startOwnedAttempt, Gateway.bindAndStartOwnedAttempt,
      bind_eq_ok, ensureTransition_ok, exists_const] at success
    obtain ⟨_, _, allowed, written⟩ := success
    exact .inr ⟨_, written, rfl, Nat.lt_succ_self _, Nat.le_succ _, rfl, .inr allowed, rfl,
      .inr rfl, id, .inl rfl, fun started _ => absurd (queued_of_starts allowed) started, rfl,
      rfl, rfl, rfl⟩
  | prepareOwnedSessionAttempt =>
    simp only [StoreOp.operation, Gateway.prepareOwnedSessionAttempt, bind_eq_ok, refuse_eq_ok,
      exists_const, not_not] at success
    obtain ⟨_, _, queued, _, written⟩ := success
    exact .inr ⟨_, written, rfl, Nat.lt_succ_self _, Nat.le_succ _, rfl, .inl rfl, rfl,
      .inl ⟨rfl, rfl⟩, id, .inl rfl, fun started _ => absurd queued started, rfl, rfl, rfl, rfl⟩
  | startOwnedSessionAttempt =>
    simp only [StoreOp.operation, Gateway.startOwnedSessionAttempt, bind_eq_ok] at success
    obtain ⟨_, _, success⟩ := success
    split at success
    · cases success
      exact .inl rfl
    simp only [refuse_bind_eq_ok, not_not] at success
    obtain ⟨queued, _, written⟩ := success
    exact .inr ⟨_, written, rfl, Nat.lt_succ_self _, Nat.le_refl _, rfl,
      .inr (by rw [queued]; rfl), rfl, .inr rfl, id, .inl rfl,
      fun started _ => absurd queued started, rfl, rfl, rfl, rfl⟩
  | _ => cases attempt

/-- The plain operations on the owner of a dispatch. -/
def StoreOp.isOwnership : StoreOp → Bool
  | .claimDispatch .. | .releaseStaleClaim .. | .takeoverNonterminalOwner ..
  | .deferOwnedRecovery .. => true
  | _ => false

theorem StoreOp.ownershipOutcome {op : StoreOp} (ownership : op.isOwnership = true)
    (success : (op.operation projections hashing).body record = .ok updated) :
    PlainOutcome op record updated := by
  cases op with
  | claimDispatch =>
    simp only [StoreOp.operation, Gateway.claimDispatch, bind_eq_ok] at success
    obtain ⟨⟨outcome, written⟩, claim, same⟩ := success
    cases same
    rcases claimDispatchBody_ok claim with ⟨_, kept, _⟩ | ⟨_, kept, _⟩ | ⟨_, queued, _, _, write⟩
    · exact .inl kept
    · exact .inl kept
    · exact .inr ⟨_, write, rfl, Nat.lt_succ_self _, Nat.le_refl _, rfl, .inl rfl, rfl,
        .inl ⟨rfl, rfl⟩, id, .inl rfl, fun started _ => absurd queued started, rfl, rfl, rfl, rfl⟩
  | releaseStaleClaim =>
    simp only [StoreOp.operation, Gateway.releaseStaleClaim, refuse_bind_eq_ok, not_not] at success
    obtain ⟨_, queued, written⟩ := success
    exact .inr ⟨_, written, rfl, Nat.lt_succ_self _, Nat.le_refl _, rfl, .inl rfl, rfl,
      .inl ⟨rfl, rfl⟩, id, .inl rfl, fun started _ => absurd queued started, rfl, rfl, rfl, rfl⟩
  | takeoverNonterminalOwner =>
    simp only [StoreOp.operation, Gateway.takeoverNonterminalOwner] at success
    split at success
    · cases success
      exact .inl rfl
    next active =>
      simp only [refuse_bind_eq_ok] at success
      obtain ⟨_, success⟩ := success
      split at success
      · cases success
        exact .inl rfl
      · have isOpen : record.state.isTerminal = false := isTerminal_eq_false (by grind)
        exact .inr ⟨_, success, rfl, Nat.lt_succ_self _, Nat.le_refl _, rfl, .inl rfl, rfl,
          .inr isOpen, id, .inl rfl, nofun, rfl, rfl, rfl, rfl⟩
  | deferOwnedRecovery =>
    simp only [StoreOp.operation, Gateway.deferOwnedRecovery, bind_eq_ok, refuse_eq_ok,
      exists_const] at success
    obtain ⟨_, _, _, _, active, written⟩ := success
    have isOpen : record.state.isTerminal = false := isTerminal_eq_false (by grind)
    exact .inr ⟨_, written, rfl, Nat.lt_succ_self _, Nat.le_refl _, rfl, .inl rfl, rfl,
      .inr isOpen, id, .inl rfl, fun _ _ => ⟨rfl, rfl, rfl⟩, rfl, rfl, rfl, rfl⟩
  | _ => cases ownership

/-- **The outcome of a plain operation.** -/
theorem StoreOp.plainOutcome {op : StoreOp} (plain : op.isPlain = true)
    (success : (op.operation projections hashing).body record = .ok updated) :
    PlainOutcome op record updated := by
  by_cases attempt : op.isAttempt = true
  · exact attemptOutcome projections hashing attempt success
  by_cases ownership : op.isOwnership = true
  · exact ownershipOutcome projections hashing ownership success
  cases op with
  | updateDiagnostics =>
    simp only [StoreOp.operation, Gateway.updateDiagnostics, bind_eq_ok] at success
    obtain ⟨_, _, written⟩ := success
    exact .inr ⟨_, written, rfl, Nat.lt_succ_self _, Nat.le_refl _, rfl, .inl rfl, rfl,
      .inl ⟨rfl, rfl⟩, id, .inl rfl, fun _ _ => ⟨rfl, rfl, rfl⟩, rfl, rfl, rfl, rfl⟩
  | markCancelRequested =>
    simp only [StoreOp.operation, Gateway.markCancelRequested] at success
    split at success
    · cases success
      exact .inl rfl
    · exact .inr ⟨_, success, rfl, Nat.lt_succ_self _, Nat.le_refl _, rfl, .inl rfl, rfl,
        .inl ⟨rfl, rfl⟩, fun _ => rfl, .inl rfl, fun _ _ => ⟨rfl, rfl, rfl⟩, rfl, rfl, rfl, rfl⟩
  | acknowledgeCancel =>
    simp only [StoreOp.operation, Gateway.acknowledgeCancel, refuse_bind_eq_ok,
      Bool.not_eq_false] at success
    obtain ⟨requested, success⟩ := success
    split at success
    · cases success
      exact .inl rfl
    · exact .inr ⟨_, success, rfl, Nat.lt_succ_self _, Nat.le_refl _, rfl, .inl rfl, rfl,
        .inl ⟨rfl, rfl⟩, id, .inr requested, fun _ _ => ⟨rfl, rfl, rfl⟩, rfl, rfl, rfl, rfl⟩
  | repairPendingTerminalFinalization =>
    simp only [StoreOp.operation, Gateway.repairPendingTerminalFinalization] at success
    split at success
    · split at success
      · exact .inr ⟨_, success, rfl, Nat.lt_succ_self _, Nat.le_refl _, rfl, .inl rfl, rfl,
          .inl ⟨rfl, rfl⟩, id, .inl rfl, fun _ _ => ⟨rfl, rfl, rfl⟩, rfl, rfl, rfl, rfl⟩
      · cases success
        exact .inl rfl
    · cases success
      exact .inl rfl
  | linkReplay =>
    simp only [StoreOp.operation, Gateway.linkReplay, refuse_bind_eq_ok] at success
    exact .inr ⟨_, success.2, rfl, Nat.lt_succ_self _, Nat.le_refl _, rfl, .inl rfl, rfl,
      .inl ⟨rfl, rfl⟩, id, .inl rfl, fun _ _ => ⟨rfl, rfl, rfl⟩, rfl, rfl, rfl, rfl⟩
  | markWatchdogInterventionIfExpired =>
    simp only [StoreOp.operation, Gateway.markWatchdogInterventionIfExpired, bind_eq_ok] at success
    obtain ⟨_, _, success⟩ := success
    split at success
    · cases success
      exact .inl rfl
    split at success
    · cases success
      exact .inl rfl
    · exact .inr ⟨_, success, rfl, Nat.lt_succ_self _, Nat.le_refl _, rfl, .inl rfl, rfl,
        .inl ⟨rfl, rfl⟩, id, .inl rfl, fun _ _ => ⟨rfl, rfl, rfl⟩, rfl, rfl, rfl, rfl⟩
  | _ => first | exact absurd rfl attempt | exact absurd rfl ownership | cases plain

theorem PlainOutcome.change {op : StoreOp} (outcome : PlainOutcome op record updated) :
    updated = record ∨ Change op record updated := by
  obtain kept | ⟨target, written, plain⟩ := outcome
  · exact .inl kept
  · exact .inr (Change.of_write written plain.admission plain.revision plain.attempt plain.owner
      (plain.state.imp_right .inl) fun _ => plain.dispatch)

/-! ## Passed identity checks -/

/-- What a passed `_check_expected_identity` says. -/
structure ExpectedHolds (record : Record) (revision : Option Int)
    (ownerEpoch workerId : Option String) (attemptEpoch : Option Int) : Prop where
  revision : ∀ expected ∈ revision, (record.revision : Int) = expected
  owner : ∀ expected ∈ ownerEpoch, record.dispatchOwnerEpoch = some expected
  worker : ∀ expected ∈ workerId, record.workerId = some expected
  attempt : ∀ expected ∈ attemptEpoch, (record.attemptEpoch : Int) = expected

theorem checkExpectedIdentity_ok {revision : Option Int} {ownerEpoch workerId : Option String}
    {attemptEpoch : Option Int} {passed : Unit} :
    checkExpectedIdentity record revision ownerEpoch workerId attemptEpoch = .ok passed ↔
      ExpectedHolds record revision ownerEpoch workerId attemptEpoch := by
  simp only [checkExpectedIdentity, bind_eq_ok, refuse_eq_ok, exists_const, not_exists, not_and,
    not_not]
  constructor
  · rintro ⟨revision, owner, worker, attempt⟩
    exact ⟨revision, owner, worker, attempt⟩
  · intro holds
    exact ⟨holds.revision, holds.owner, holds.worker, holds.attempt⟩

end Audiagentic.Gateway
