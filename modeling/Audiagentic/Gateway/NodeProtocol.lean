import Audiagentic.Gateway.StoreOps

/-!
# The protocol of a node dispatch

`DispatchStep` is the protocol that a request's node dispatch follows, in its own
terms: bind once, authorize or fence once, then receive evidence that only moves
forward.  The operations of the store refine it (`StoreOp.dispatchStep`): under any
arguments, a call changes `node-dispatch` by one protocol step and in no other way.
-/

namespace Audiagentic.Gateway

open Foundations

variable (projections : Projections) (hashing : Hashing)

/-! ## The protocol -/

structure IdentityMatches (admission : Admission) (identity : CommandIdentity) : Prop where
  request : identity.requestId = admission.requestId
  profile : identity.executionProfileId = admission.executionProfileId
  placement : ∃ placement, admission.nodePlacement = some placement ∧
    placement.agrees identity = true

variable {record : Record} {identity : CommandIdentity} {passed : Unit}

theorem nodeMatchesRecord_ok :
    nodeMatchesRecord record identity = .ok passed ↔
      IdentityMatches record.admission identity := by
  simp only [nodeMatchesRecord, bind_eq_ok, refuse_eq_ok, exists_const, not_or, not_not]
  constructor
  · rintro ⟨⟨request, profile⟩, placed, agrees⟩
    obtain ⟨placement, found⟩ := Option.ne_none_iff_exists'.mp placed
    refine ⟨request, profile, placement, found, ?_⟩
    have agreed := fun refused => agrees ⟨placement, by rw [found]; rfl, refused⟩
    exact eq_true_of_ne_false agreed
  · rintro ⟨request, profile, placement, found, agreed⟩
    refine ⟨⟨request, profile⟩, by rw [found]; exact Option.some_ne_none _, ?_⟩
    rintro ⟨other, member, refused⟩
    rw [found] at member
    cases member
    rw [agreed] at refused
    cases refused

/-- **The protocol of one node dispatch.**  Every write of `node-dispatch` is one of these
five steps, under the record it is made in and with the receipt that the call carries. -/
inductive DispatchStep (record : Record) (carried : Option PublicReceipt) :
    Option NodeDispatch → Option NodeDispatch → Prop where
  | keep (dispatch : Option NodeDispatch) : DispatchStep record carried dispatch dispatch
  | bind (identity : CommandIdentity) (attestation : String)
      (isMatch : IdentityMatches record.admission identity)
      (owned : record.dispatchOwnerEpoch = some identity.gatewayOwnerEpoch)
      (attempted : 1 ≤ record.attemptEpoch) :
      DispatchStep record carried none (some (.bound identity attestation))
  | authorize (prior : NodeDispatch) (authorizationId : String)
      (owned : record.dispatchOwnerEpoch = some prior.identity.gatewayOwnerEpoch)
      (running : record.state = .running) (notCancelled : record.cancelRequested = false)
      (notRecovering : record.recoveryRequired = false)
      (unauthorized : prior.authorizationState = .notAuthorized)
      (absent : prior.authorizationId = none) :
      DispatchStep record carried (some prior)
        (some { prior with
          authorizationId := some authorizationId
          authorizationState := .authorized })
  | fence (prior : NodeDispatch)
      (owned : record.dispatchOwnerEpoch = some prior.identity.gatewayOwnerEpoch)
      (unauthorized : prior.authorizationState = .notAuthorized)
      (absent : prior.authorizationId = none) :
      DispatchStep record carried (some prior)
        (some { prior with authorizationState := .noEffect })
  | receive (prior : NodeDispatch) (receipt : PublicReceipt) (carries : carried = some receipt)
      (wellFormed : receipt.wellFormed = true) (bound : prior.identity = receipt.identity)
      (newer : prior.receiptSequence < receipt.receiptSequence)
      (follows : ∀ previous ∈ prior.receiptStage, previous.blocks receipt.state = false)
      (backed : receipt.state ≠ .prepared → prior.authorizationId ≠ none) :
      DispatchStep record carried (some prior) (some (prior.received hashing receipt))

variable {updated : Record} {now : Timestamp}

theorem writeNodeDispatch_ok {dispatch : NodeDispatch} {clearRecovery : Bool}
    (success : writeNodeDispatch record dispatch clearRecovery now = .ok updated) :
    updated.Valid ∧ SameFence
      { record with nodeDispatch := some dispatch, revision := record.revision + 1 } updated := by
  obtain ⟨_, valid, _, rfl⟩ := Record.write_eq_ok.mp success
  refine ⟨valid.redact, ?_⟩
  cases clearRecovery <;> exact ⟨rfl, rfl, rfl, rfl, rfl, rfl, rfl, rfl, rfl⟩

variable {op : StoreOp}

theorem Change.of_nodeWrite {dispatch : NodeDispatch} {clearRecovery : Bool}
    (keeps : op.ownerMove = .keep) (writes : op.writesDispatch = true)
    (success : writeNodeDispatch record dispatch clearRecovery now = .ok updated) :
    Change op record updated := by
  obtain ⟨valid, fence⟩ := writeNodeDispatch_ok success
  refine ⟨valid, fence.admission, ?_, Nat.le_of_eq fence.attemptEpoch.symm, ?_, .inl fence.state,
    ?_⟩
  · rw [fence.revision]
    exact Nat.lt_succ_self _
  · rw [fence.dispatchOwnerEpoch, keeps]
    rfl
  · intro silent
    rw [writes] at silent
    cases silent

/-! ## The four writers follow the protocol -/

variable {fence : NodeFence}

theorem NodeFence.require_ok :
    fence.require = .ok passed ↔ present fence.ownerEpoch = true ∧
      present fence.workerId = true ∧ 1 ≤ fence.attemptEpoch ∧ 0 ≤ fence.expectedRevision := by
  simp only [NodeFence.require, refuse_eq_ok, not_or, Bool.not_eq_false, Int.not_lt]

theorem NodeFence.check_ok :
    fence.check record = .ok passed ↔ ExpectedHolds record (some fence.expectedRevision)
      fence.ownerEpoch fence.workerId (some fence.attemptEpoch) :=
  checkExpectedIdentity_ok

theorem nodeFreshEffect_ok {ownerEpoch : Option String} :
    nodeFreshEffect record identity ownerEpoch = .ok passed ↔
      IdentityMatches record.admission identity ∧ record.state = .running ∧
        record.cancelRequested = false ∧ record.recoveryRequired = false ∧
        ownerEpoch = some identity.gatewayOwnerEpoch := by
  simp only [nodeFreshEffect, bind_eq_ok, nodeMatchesRecord_ok, refuse_eq_ok, exists_const,
    not_or, not_not, Bool.not_eq_true]
  exact and_congr_right fun _ => and_congr_right fun _ => and_congr_right fun _ =>
    and_congr_right fun _ => eq_comm

theorem bindingEligible_ok {ownerEpoch : Option String} {resumeUnbound : Bool}
    (eligible : bindingEligible record identity ownerEpoch resumeUnbound = .ok passed) :
    IdentityMatches record.admission identity ∧ ownerEpoch = some identity.gatewayOwnerEpoch := by
  cases resumeUnbound with
  | true =>
    simp only [bindingEligible, if_true, bind_eq_ok, nodeMatchesRecord_ok, refuse_eq_ok,
      exists_const, not_or, not_not] at eligible
    exact ⟨eligible.1, eligible.2.2.2.2.2.symm⟩
  | false =>
    have fresh := nodeFreshEffect_ok.mp eligible
    exact ⟨fresh.1, fresh.2.2.2.2⟩

def NodeOutcome (carried : Option PublicReceipt) (record updated : Record) : Prop :=
  updated = record ∨ ∃ dispatch clearRecovery now,
    DispatchStep hashing record carried record.nodeDispatch (some dispatch) ∧
      writeNodeDispatch record dispatch clearRecovery now = .ok updated

variable {accepted : Attestation}

theorem bindOwnedNodeDispatch_outcome {payload : CommandPayload} {resumeUnbound : Bool}
    (admitted : (bindOwnedNodeDispatch hashing identity payload accepted fence resumeUnbound
      now).preflight = .ok passed)
    (success : (bindOwnedNodeDispatch hashing identity payload accepted fence resumeUnbound
      now).body record = .ok updated) : NodeOutcome hashing none record updated := by
  simp only [bindOwnedNodeDispatch, bind_eq_ok, NodeFence.require_ok] at admitted
  obtain ⟨_, _, _, _, _, _, started, _⟩ := admitted
  simp only [bindOwnedNodeDispatch, bind_eq_ok, NodeFence.check_ok, exists_const] at success
  obtain ⟨held, _, _, _, eligible, success⟩ := success
  have attempted : 1 ≤ record.attemptEpoch := by
    have same := held.attempt _ rfl
    omega
  have facts := bindingEligible_ok eligible
  cases stored : record.nodeDispatch with
  | some prior =>
    simp only [stored, refuse_bind_eq_ok] at success
    cases success.2
    exact .inl rfl
  | none =>
    simp only [stored] at success
    refine .inr ⟨_, _, _, ?_, success⟩
    rw [stored]
    exact .bind identity _ facts.1 (held.owner _ facts.2) attempted

theorem authorizeOwnedNodeEffect_outcome {authorizationId : String} {currentNodeEpoch : String}
    {currentConnectionGeneration : Int}
    (success : (authorizeOwnedNodeEffect hashing identity authorizationId accepted
      currentNodeEpoch currentConnectionGeneration fence now).body record = .ok updated) :
    NodeOutcome hashing none record updated := by
  simp only [authorizeOwnedNodeEffect, bind_eq_ok, NodeFence.check_ok, nodeFreshEffect_ok,
    exists_const] at success
  obtain ⟨held, _, _, fresh, success⟩ := success
  obtain ⟨_, running, notCancelled, notRecovering, owner⟩ := fresh
  cases stored : record.nodeDispatch with
  | none =>
    simp only [stored] at success
    cases success
  | some prior =>
    simp only [stored, refuse_bind_eq_ok, not_not] at success
    obtain ⟨sameIdentity, _, success⟩ := success
    split at success
    · simp only [refuse_bind_eq_ok] at success
      cases success.2
      exact .inl rfl
    simp only [refuse_bind_eq_ok, not_or, not_not] at success
    obtain ⟨⟨unauthorized, absent⟩, written⟩ := success
    refine .inr ⟨_, _, _, ?_, written⟩
    rw [stored]
    refine .authorize prior authorizationId ?_ running notCancelled notRecovering
      unauthorized absent
    rw [sameIdentity]
    exact held.owner _ owner

/-- A successful authorization leaves the record bound to the identity, under this id. -/
theorem authorizeOwnedNodeEffect_ok {authorizationId : String} {currentNodeEpoch : String}
    {currentConnectionGeneration : Int}
    (success : (authorizeOwnedNodeEffect hashing identity authorizationId accepted
      currentNodeEpoch currentConnectionGeneration fence now).body record = .ok updated) :
    ∃ dispatch, updated.nodeDispatch = some dispatch ∧ dispatch.identity = identity ∧
      dispatch.authorizationId = some authorizationId := by
  simp only [authorizeOwnedNodeEffect, bind_eq_ok] at success
  obtain ⟨_, _, _, _, _, _, success⟩ := success
  cases stored : record.nodeDispatch with
  | none =>
    simp only [stored] at success
    cases success
  | some prior =>
    simp only [stored, refuse_bind_eq_ok, not_not] at success
    obtain ⟨sameIdentity, _, success⟩ := success
    split at success
    · simp only [refuse_bind_eq_ok, not_not] at success
      obtain ⟨recorded, kept⟩ := success
      cases kept
      exact ⟨prior, stored, sameIdentity, recorded⟩
    · simp only [refuse_bind_eq_ok] at success
      obtain ⟨_, written⟩ := success
      exact ⟨_, (writeNodeDispatch_ok written).2.nodeDispatch, sameIdentity, rfl⟩

theorem fenceNodeDispatchNoEffect_outcome {retiredConnectionGeneration : Int}
    (success : (fenceNodeDispatchNoEffect identity fence retiredConnectionGeneration now).body
      record = .ok updated) : NodeOutcome hashing none record updated := by
  simp only [fenceNodeDispatchNoEffect, bind_eq_ok, NodeFence.check_ok, refuse_eq_ok,
    exists_const, not_not] at success
  obtain ⟨held, owner, _, _, success⟩ := success
  cases stored : record.nodeDispatch with
  | none =>
    simp only [stored] at success
    cases success
  | some prior =>
    simp only [stored, refuse_bind_eq_ok, not_or, not_not] at success
    obtain ⟨⟨sameIdentity, unauthorized, absent⟩, written⟩ := success
    refine .inr ⟨_, _, _, ?_, written⟩
    rw [stored]
    refine .fence prior ?_ unauthorized absent
    rw [sameIdentity]
    exact held.owner _ owner.symm

/-- An accepted receipt is an exact replay of the last one, or a newer one that is written. -/
theorem applyOwnedNodeReceipt_ok {receipt : PublicReceipt}
    (success : (applyOwnedNodeReceipt hashing receipt fence now).body record = .ok updated) :
    ∃ prior, record.nodeDispatch = some prior ∧ prior.identity = receipt.identity ∧
      ((updated = record ∧ prior.receiptSequence = receipt.receiptSequence ∧
          prior.receiptSha256 = some (hashing.receipt receipt)) ∨
        (prior.receiptSequence < receipt.receiptSequence ∧
          (∀ previous ∈ prior.receiptStage, previous.blocks receipt.state = false) ∧
          (receipt.state ≠ .prepared → prior.authorizationId ≠ none) ∧
          writeNodeDispatch record (prior.received hashing receipt) false now = .ok updated)) := by
  simp only [applyOwnedNodeReceipt, bind_eq_ok] at success
  obtain ⟨_, _, _, _, success⟩ := success
  cases stored : record.nodeDispatch with
  | none =>
    simp only [stored] at success
    cases success
  | some prior =>
    simp only [stored, refuse_bind_eq_ok, not_not] at success
    obtain ⟨bound, success⟩ := success
    refine ⟨prior, rfl, bound, ?_⟩
    split at success
    next same =>
      simp only [refuse_bind_eq_ok, not_not] at success
      obtain ⟨digest, kept⟩ := success
      cases kept
      exact .inl ⟨rfl, same.symm, digest.symm⟩
    next different =>
      simp only [refuse_bind_eq_ok, not_exists, not_and, Bool.not_eq_true] at success
      obtain ⟨notOlder, follows, backed, written⟩ := success
      exact .inr ⟨by omega, follows, backed, written⟩

theorem applyOwnedNodeReceipt_outcome {receipt : PublicReceipt}
    (admitted : (applyOwnedNodeReceipt hashing receipt fence now).preflight = .ok passed)
    (success : (applyOwnedNodeReceipt hashing receipt fence now).body record = .ok updated) :
    NodeOutcome hashing (some receipt) record updated := by
  simp only [applyOwnedNodeReceipt, bind_eq_ok, refuse_eq_ok, exists_const,
    Bool.not_eq_false] at admitted
  obtain ⟨_, _, wellFormed, _⟩ := admitted
  obtain ⟨prior, stored, bound, ⟨kept, _⟩ | ⟨newer, follows, backed, written⟩⟩ :=
    applyOwnedNodeReceipt_ok hashing success
  · exact .inl kept
  · refine .inr ⟨_, _, _, ?_, written⟩
    rw [stored]
    exact .receive prior receipt rfl wellFormed bound newer follows backed

/-! ## All operations -/

def StoreOp.receipt? : StoreOp → Option PublicReceipt
  | .applyOwnedNodeReceipt receipt _ _ => some receipt
  | _ => none

/-- A call that passed its argument checks and whose body succeeded. -/
structure StoreOp.Succeeds (op : StoreOp) (record updated : Record) : Prop where
  admitted : (op.operation projections hashing).preflight = .ok ()
  success : (op.operation projections hashing).body record = .ok updated

variable {projections hashing}

theorem StoreOp.Succeeds.nodeOutcome (succeeds : op.Succeeds projections hashing record updated)
    (writes : op.writesDispatch = true) : NodeOutcome hashing op.receipt? record updated := by
  obtain ⟨admitted, success⟩ := succeeds
  cases op with
  | bindOwnedNodeDispatch => exact bindOwnedNodeDispatch_outcome hashing admitted success
  | authorizeOwnedNodeEffect => exact authorizeOwnedNodeEffect_outcome hashing success
  | fenceNodeDispatchNoEffect => exact fenceNodeDispatchNoEffect_outcome hashing success
  | applyOwnedNodeReceipt => exact applyOwnedNodeReceipt_outcome hashing admitted success
  | _ => cases writes

theorem ownerMove_of_writesDispatch (writes : op.writesDispatch = true) : op.ownerMove = .keep := by
  cases op <;> first | rfl | cases writes

/-- **What a successful operation does.**  It leaves the record as read, or changes it. -/
theorem StoreOp.Succeeds.change (succeeds : op.Succeeds projections hashing record updated) :
    updated = record ∨ Change op record updated := by
  by_cases writes : op.writesDispatch = true
  · rcases succeeds.nodeOutcome writes with kept | ⟨dispatch, clearRecovery, now, _, written⟩
    · exact .inl kept
    · exact .inr (Change.of_nodeWrite (ownerMove_of_writesDispatch writes) writes written)
  by_cases plain : op.isPlain = true
  · exact (StoreOp.plainOutcome projections hashing plain succeeds.success).change
  have success := succeeds.success
  cases op with
  | transitionRecord => exact transitionRecord_changes projections hashing _ _ _ _ _ _ _ success
  | transitionOwnedTerminal =>
    exact transitionOwnedTerminal_changes projections hashing _ _ _ _ _ _ _ _ success
  | cancelQueuedOrMarkRequested =>
    exact cancelQueuedOrMarkRequested_changes projections hashing _ _ _ _ _ _ success
  | transitionRecoveredTerminal =>
    exact transitionRecoveredTerminal_changes projections hashing _ _ _ _ _ _ _ _ _ success
  | transitionOperatorTerminal =>
    exact transitionOperatorTerminal_changes projections hashing _ _ _ _ success
  | recordOwnedActivity | renewOwnedActivity =>
    exact recordOwnedActivity_write projections rfl success
  | updateOwnedRunningSession =>
    exact updateOwnedRunningSession_changes projections hashing _ _ _ _ _ _ success
  | bindOwnedNodeDispatch | authorizeOwnedNodeEffect | fenceNodeDispatchNoEffect
  | applyOwnedNodeReceipt => exact absurd rfl writes
  | _ => exact absurd rfl plain

/-- **The store refines the dispatch protocol.**  A successful operation moves
`node-dispatch` by one protocol step, made in the record it read. -/
theorem StoreOp.Succeeds.dispatchStep (succeeds : op.Succeeds projections hashing record updated) :
    DispatchStep hashing record op.receipt? record.nodeDispatch updated.nodeDispatch := by
  by_cases writes : op.writesDispatch = true
  · rcases succeeds.nodeOutcome writes with kept | ⟨dispatch, clearRecovery, now, step, written⟩
    · rw [kept]
      exact .keep _
    · rw [(writeNodeDispatch_ok written).2.nodeDispatch]
      exact step
  · rcases succeeds.change with kept | change
    · rw [kept]
      exact .keep _
    · rw [change.dispatch (eq_false_of_ne_true writes)]
      exact .keep _

/-! ## Calls -/

variable (projections hashing)

def storeStep (stored : Record) (op : StoreOp) : Record :=
  ((op.operation projections hashing).run stored).1

variable {projections hashing}

/-- **One call.**  It leaves the record, normalises it on reading, or succeeds on the
normalised record. -/
theorem storeStep_cases (stored : Record) (op : StoreOp) :
    storeStep projections hashing stored op = stored ∨
      storeStep projections hashing stored op = stored.migrate ∨
      op.Succeeds projections hashing stored.migrate (storeStep projections hashing stored op) := by
  rcases Operation.run_cases (op.operation projections hashing) stored with
    ⟨error, refused⟩ | ⟨error, failed⟩ | ⟨updated, admitted, _, success, run⟩
  · exact .inl (by simp only [storeStep, refused])
  · exact .inr (.inl (by simp only [storeStep, failed]))
  · have written : storeStep projections hashing stored op = updated := by
      simp only [storeStep, run]
    rw [written]
    exact .inr (.inr ⟨admitted, success⟩)

end Audiagentic.Gateway
