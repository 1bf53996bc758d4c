import Audiagentic.Gateway.NodeProtocol

/-!
# Owner fencing over whole runs

An owned mutation carries the identity its caller believes in.  The fence is an
equality with the identity on the record at that step, so three things follow for any
interleaving of any callers: a mutation that writes carried the current identity
(`carries_of_changed`); a refused one writes nothing (`unchanged_of_error`); and an epoch
that lost the record stays locked out until a claim or a takeover makes it the owner again
(`fenced_until_reassigned`).  Completion by an operator is final: it leaves a completed
record without an owner, which no owned mutation can pass (`fenced_after_operator`).
-/

namespace Audiagentic.Gateway

open Foundations

variable {projections : Projections} {hashing : Hashing}

/-! ## Carried identities -/

/-- The identity an owned mutation carries; `none` is a part it does not carry. -/
structure CarriedIdentity where
  ownerEpoch : Option String
  workerId : Option String
  attemptEpoch : Option Int

def OwnedIdentity.carried (identity : OwnedIdentity) : CarriedIdentity where
  ownerEpoch := identity.ownerEpoch
  workerId := identity.workerId
  attemptEpoch := some identity.attemptEpoch

/-- The owned mutations and what they carry.  The three operations that assign a worker carry
the owner epoch only: their worker id is a new value, not an expectation. -/
def StoreOp.carries : StoreOp → Option CarriedIdentity
  | .prepareOwnedSessionAttempt ownerEpoch .. | .startOwnedAttempt ownerEpoch ..
  | .bindAndStartOwnedAttempt ownerEpoch .. =>
    some { ownerEpoch, workerId := none, attemptEpoch := none }
  | .startOwnedSessionAttempt identity .. | .appendOwnedAttempt identity ..
  | .recordOwnedActivity identity .. | .renewOwnedActivity identity ..
  | .deferOwnedRecovery identity .. | .updateOwnedRunningSession identity ..
  | .markWatchdogInterventionIfExpired identity ..
  | .transitionOwnedTerminal _ _ identity .. => some identity.carried
  | _ => none

structure CarriedIdentity.Holds (carried : CarriedIdentity) (record : Record) : Prop where
  named : carried.ownerEpoch ≠ none
  owner : carried.ownerEpoch = record.dispatchOwnerEpoch
  worker : ∀ workerId ∈ carried.workerId, record.workerId = some workerId
  attempt : ∀ attemptEpoch ∈ carried.attemptEpoch, (record.attemptEpoch : Int) = attemptEpoch

theorem exists_of_present {text : Option String} (isPresent : present text = true) :
    ∃ value, text = some value := by
  cases text with
  | none => cases isPresent
  | some value => exact ⟨value, rfl⟩

theorem ExpectedHolds.carried {record : Record} {revision : Option Int}
    {ownerEpoch workerId : Option String} {attemptEpoch : Option Int}
    (held : ExpectedHolds record revision ownerEpoch workerId attemptEpoch)
    (named : present ownerEpoch = true) :
    CarriedIdentity.Holds { ownerEpoch, workerId, attemptEpoch } record := by
  obtain ⟨epoch, rfl⟩ := exists_of_present named
  exact ⟨Option.some_ne_none epoch, (held.owner epoch rfl).symm, held.worker, held.attempt⟩

theorem requireOwnedIdentity_ok {identity : OwnedIdentity} {passed : Unit} :
    requireOwnedIdentity identity = .ok passed ↔ present identity.ownerEpoch = true ∧
      present identity.workerId = true ∧ 1 ≤ identity.attemptEpoch := by
  simp only [requireOwnedIdentity, refuse_eq_ok, not_or, Bool.not_eq_false, Int.not_lt]

theorem requireOwnerAndWorker_ok {ownerEpoch workerId : Option String} {passed : Unit} :
    requireOwnerAndWorker ownerEpoch workerId = .ok passed ↔
      present ownerEpoch = true ∧ present workerId = true := by
  simp only [requireOwnerAndWorker, refuse_eq_ok, not_or, Bool.not_eq_false]

/-- A deferral names its owner, also where it describes an unclaimed node request. -/
theorem deferOwnedRecovery_named {identity : OwnedIdentity} {deferral : Deferral}
    {now : Timestamp} {passed : Unit}
    (admitted : (deferOwnedRecovery projections identity deferral now).preflight = .ok passed) :
    present identity.ownerEpoch = true := by
  simp only [deferOwnedRecovery] at admitted
  split at admitted
  · simp only [refuse_bind_eq_ok, not_or, Bool.not_eq_false] at admitted
    exact admitted.1.1
  · simp only [bind_eq_ok, requireOwnedIdentity_ok] at admitted
    obtain ⟨_, named, _⟩ := admitted
    exact named.1

variable {op : StoreOp} {carried : CarriedIdentity}

/-- **A successful owned mutation carries the record's identity.** -/
theorem carries_of_succeeds {record updated : Record}
    (succeeds : op.Succeeds projections hashing record updated)
    (owned : op.carries = some carried) :
    carried.Holds record := by
  obtain ⟨admitted, success⟩ := succeeds
  cases op with
  | prepareOwnedSessionAttempt =>
    cases owned
    simp only [StoreOp.operation, prepareOwnedSessionAttempt, bind_eq_ok,
      checkExpectedIdentity_ok, exists_const] at success
    exact success.1.carried (requireOwnerAndWorker_ok.mp admitted).1
  | startOwnedAttempt =>
    cases owned
    simp only [StoreOp.operation, startOwnedAttempt, bind_eq_ok, checkExpectedIdentity_ok,
      exists_const] at success
    exact success.1.carried (requireOwnerAndWorker_ok.mp admitted).1
  | bindAndStartOwnedAttempt =>
    cases owned
    simp only [StoreOp.operation, bindAndStartOwnedAttempt, bind_eq_ok,
      requireOwnerAndWorker_ok] at admitted
    obtain ⟨_, named, _⟩ := admitted
    simp only [StoreOp.operation, bindAndStartOwnedAttempt, bind_eq_ok,
      checkExpectedIdentity_ok, exists_const] at success
    exact success.1.carried named.1
  | startOwnedSessionAttempt =>
    cases owned
    simp only [StoreOp.operation, startOwnedSessionAttempt, bind_eq_ok,
      checkExpectedIdentity_ok, exists_const] at success
    exact success.1.carried (requireOwnedIdentity_ok.mp admitted).1
  | appendOwnedAttempt =>
    cases owned
    simp only [StoreOp.operation, appendOwnedAttempt, appendAttempt, bind_eq_ok,
      checkExpectedIdentity_ok, exists_const] at success
    exact success.1.carried (requireOwnedIdentity_ok.mp admitted).1
  | recordOwnedActivity =>
    cases owned
    simp only [StoreOp.operation, recordOwnedActivity, bind_eq_ok,
      requireOwnedIdentity_ok] at admitted
    obtain ⟨_, named, _⟩ := admitted
    simp only [StoreOp.operation, recordOwnedActivity, bind_eq_ok, checkExpectedIdentity_ok,
      exists_const] at success
    exact success.1.carried named.1
  | renewOwnedActivity =>
    cases owned
    simp only [StoreOp.operation, renewOwnedActivity, bind_eq_ok,
      requireOwnedIdentity_ok] at admitted
    obtain ⟨_, named, _⟩ := admitted
    simp only [StoreOp.operation, renewOwnedActivity, recordOwnedActivity, bind_eq_ok,
      checkExpectedIdentity_ok, exists_const] at success
    exact success.1.carried named.1
  | deferOwnedRecovery =>
    cases owned
    have named := deferOwnedRecovery_named admitted
    simp only [StoreOp.operation, deferOwnedRecovery, bind_eq_ok, checkExpectedIdentity_ok,
      refuse_eq_ok, exists_const] at success
    exact success.2.2.1.carried named
  | updateOwnedRunningSession =>
    cases owned
    simp only [StoreOp.operation, updateOwnedRunningSession, bind_eq_ok,
      requireOwnedIdentity_ok] at admitted
    obtain ⟨_, named, _⟩ := admitted
    simp only [StoreOp.operation, updateOwnedRunningSession, bind_eq_ok,
      checkExpectedIdentity_ok, exists_const] at success
    exact success.1.carried named.1
  | markWatchdogInterventionIfExpired =>
    cases owned
    simp only [StoreOp.operation, markWatchdogInterventionIfExpired, bind_eq_ok,
      checkExpectedIdentity_ok, exists_const] at success
    exact success.1.carried (requireOwnedIdentity_ok.mp admitted).1
  | transitionOwnedTerminal =>
    cases owned
    simp only [StoreOp.operation, transitionOwnedTerminal, bind_eq_ok, refuse_eq_ok,
      requireOwnedIdentity_ok, exists_const] at admitted
    obtain ⟨_, named, _⟩ := admitted
    simp only [StoreOp.operation, transitionOwnedTerminal, transitionRecord,
      ExpectedIdentity.check, bind_eq_ok, checkExpectedIdentity_ok, exists_const] at success
    exact success.1.carried named.1
  | _ => cases owned

/-! ## Changed records -/

/-- A call wrote something: the record is neither what it was nor its normal form. -/
def RecordChanged (stored after : Record) : Prop :=
  after ≠ stored ∧ after ≠ stored.migrate

theorem not_changed_self (stored : Record) : ¬ RecordChanged stored stored :=
  fun changed => changed.1 rfl

theorem not_changed_migrate (stored : Record) : ¬ RecordChanged stored stored.migrate :=
  fun changed => changed.2 rfl

variable {stored : Record}

theorem Change.recordChanged {after : Record} (change : Change op stored.migrate after) :
    RecordChanged stored after := by
  have newer : stored.revision < after.revision := change.revision
  constructor
  all_goals
    rintro rfl
    exact Nat.lt_irrefl _ newer

theorem carries_of_changed (owned : op.carries = some carried)
    (changed : RecordChanged stored (storeStep projections hashing stored op)) :
    carried.Holds stored := by
  rcases storeStep_cases stored op with kept | normalised | succeeds
  · exact absurd kept changed.1
  · exact absurd normalised changed.2
  · obtain ⟨named, owner, worker, attempt⟩ := carries_of_succeeds succeeds owned
    exact ⟨named, owner, worker, attempt⟩

theorem unchanged_of_error {error : GatewayError}
    (refused : ((op.operation projections hashing).run stored).2 = .error error) :
    ¬ RecordChanged stored (storeStep projections hashing stored op) := by
  rcases Operation.run_cases (op.operation projections hashing) stored with
    ⟨_, early⟩ | ⟨_, late⟩ | ⟨updated, _, _, _, run⟩
  · simp only [storeStep, early]
    exact not_changed_self stored
  · simp only [storeStep, late]
    exact not_changed_migrate stored
  · rw [run] at refused
    cases refused

/-! ## Lock-out -/

variable (projections hashing) in
/-- The call is not a claim or takeover that makes `epoch` the owner. -/
def NotReassigned (epoch : String) (stored : Record) (op : StoreOp) : Prop :=
  op.ownerMove = .assign epoch → ¬ RecordChanged stored (storeStep projections hashing stored op)

theorem storeStep_lockedOut {epoch : String} (stored : Record) (op : StoreOp)
    (lockedOut : stored.dispatchOwnerEpoch ≠ some epoch)
    (notReassigned : NotReassigned projections hashing epoch stored op) :
    (storeStep projections hashing stored op).dispatchOwnerEpoch ≠ some epoch := by
  rcases storeStep_cases stored op with kept | normalised | succeeds
  · rw [kept]
    exact lockedOut
  · rw [normalised]
    exact lockedOut
  · rcases succeeds.change with same | change
    · rw [same]
      exact lockedOut
    rw [change.owner]
    cases move : op.ownerMove with
    | keep => exact lockedOut
    | release => exact Option.some_ne_none epoch |>.symm
    | assign other =>
      intro reassigned
      cases reassigned
      exact notReassigned move change.recordChanged

/-- **A superseded epoch stays fenced.**  Along every run that does not reassign it, no owned
mutation carrying it changes the record. -/
theorem fenced_until_reassigned {epoch : String} {ops : List StoreOp}
    (lockedOut : stored.dispatchOwnerEpoch ≠ some epoch)
    (run : Admissible (storeStep projections hashing) (NotReassigned projections hashing epoch)
      stored ops) (owned : op.carries = some carried) (stale : carried.ownerEpoch = some epoch) :
    ¬ RecordChanged (exec (storeStep projections hashing) stored ops)
      (storeStep projections hashing (exec (storeStep projections hashing) stored ops) op) := by
  intro changed
  have stillOut := run.invariant (fun state action => storeStep_lockedOut state action) lockedOut
  have holds := carries_of_changed owned changed
  exact stillOut (holds.owner.symm.trans stale)

/-! ## Completion by an operator -/

/-- A completed record without an owner. -/
structure Closed (record : Record) : Prop where
  completed : record.state = .completed
  unowned : record.dispatchOwnerEpoch = none

theorem assign_requires_open {record updated : Record} {epoch : String}
    (succeeds : op.Succeeds projections hashing record updated)
    (move : op.ownerMove = .assign epoch) :
    updated = record ∨ record.state = .queued ∨ record.state = .running := by
  have success := succeeds.success
  cases op with
  | claimDispatch =>
    simp only [StoreOp.operation, claimDispatch, bind_eq_ok] at success
    obtain ⟨⟨outcome, written⟩, claim, same⟩ := success
    cases same
    rcases claimDispatchBody_ok claim with ⟨_, kept, _⟩ | ⟨_, kept, _⟩ | ⟨_, queued, _⟩
    · exact .inl kept
    · exact .inl kept
    · exact .inr (.inl queued)
  | takeoverNonterminalOwner =>
    simp only [StoreOp.operation, takeoverNonterminalOwner] at success
    split at success
    · cases success
      exact .inl rfl
    next open_ =>
      exact .inr (by grind)
  | _ => cases move

theorem completed_targets {next : RequestState} :
    RequestState.completed.transitionAllowed next = false := rfl

theorem storeStep_closed (stored : Record) (op : StoreOp) (closed : Closed stored) :
    Closed (storeStep projections hashing stored op) := by
  rcases storeStep_cases stored op with kept | normalised | succeeds
  · rw [kept]
    exact closed
  · rw [normalised]
    exact ⟨closed.completed, closed.unowned⟩
  · rcases succeeds.change with same | change
    · rw [same]
      exact ⟨closed.completed, closed.unowned⟩
    have completed : stored.migrate.state = .completed := closed.completed
    have unowned : stored.migrate.dispatchOwnerEpoch = none := closed.unowned
    constructor
    · rcases change.state with same | allowed | operator
      · rw [same]
        exact completed
      · rw [completed, completed_targets] at allowed
        cases allowed
      · exact operator.2
    · rw [change.owner, unowned]
      cases move : op.ownerMove with
      | keep => rfl
      | release => rfl
      | assign epoch =>
        rcases assign_requires_open succeeds move with same | queued | running
        · exact absurd same (fun same => change.recordChanged.2 same)
        · rw [completed] at queued
          cases queued
        · rw [completed] at running
          cases running

/-- **Completion by an operator is final.**  No owned mutation changes the record again. -/
theorem fenced_after_operator (closed : Closed stored) (ops : List StoreOp)
    (owned : op.carries = some carried) :
    ¬ RecordChanged (exec (storeStep projections hashing) stored ops)
      (storeStep projections hashing (exec (storeStep projections hashing) stored ops) op) := by
  intro changed
  have stillClosed : Closed (exec (storeStep projections hashing) stored ops) :=
    exec_invariant storeStep_closed closed ops
  have holds := carries_of_changed owned changed
  exact holds.named (holds.owner.trans stillClosed.unowned)

theorem closed_of_operator {updated : Record} {capture : OperatorCapture} {now : Timestamp}
    (open_ : stored.state ≠ .completed)
    (success : (((StoreOp.transitionOperatorTerminal capture now).operation projections
      hashing).run stored).2 = .ok updated) :
    Closed (storeStep projections hashing stored (.transitionOperatorTerminal capture now)) := by
  rcases Operation.run_cases
      ((StoreOp.transitionOperatorTerminal capture now).operation projections hashing) stored with
    ⟨_, early⟩ | ⟨_, late⟩ | ⟨written, _, _, body, run⟩
  · rw [early] at success
    cases success
  · rw [late] at success
    cases success
  · have isWritten : storeStep projections hashing stored
        (.transitionOperatorTerminal capture now) = written := by
      simp only [storeStep, run]
    rw [isWritten]
    rcases transitionOperatorTerminal_ok body with ⟨completed, _⟩ | ⟨_, _, _, _, _, fence⟩
    · exact absurd completed open_
    · exact ⟨fence.state, fence.dispatchOwnerEpoch⟩

/-! ## The fence as a whole -/

/-- **Owner fencing.**  For every record and every interleaving of store operations on it:
an owned mutation changes the record only when the identity it carries is the record's; a
refused one leaves the record as it was, up to its normal form; after a takeover by another
epoch, a superseded epoch changes nothing in any run in which no claim or takeover makes it
the owner again; and after an operator has completed the request, no owned mutation changes
it at all. -/
theorem owner_fencing (projections : Projections) (hashing : Hashing) (stored : Record) :
    (∀ op carried, op.carries = some carried →
      (RecordChanged stored (storeStep projections hashing stored op) → carried.Holds stored) ∧
      ∀ error, ((op.operation projections hashing).run stored).2 = .error error →
        ¬ RecordChanged stored (storeStep projections hashing stored op)) ∧
    (∀ expected newOwner newWorker handoff now, ∀ epoch ≠ newOwner, ∀ ops op carried,
      let taken := storeStep projections hashing stored
        (.takeoverNonterminalOwner expected newOwner newWorker handoff now)
      taken.dispatchOwnerEpoch = some newOwner →
      Admissible (storeStep projections hashing) (NotReassigned projections hashing epoch)
        taken ops →
      op.carries = some carried → carried.ownerEpoch = some epoch →
      ¬ RecordChanged (exec (storeStep projections hashing) taken ops)
        (storeStep projections hashing (exec (storeStep projections hashing) taken ops) op)) ∧
    (∀ capture now updated ops op carried,
      let call := StoreOp.transitionOperatorTerminal capture now
      let completed := storeStep projections hashing stored call
      stored.state ≠ .completed →
      ((call.operation projections hashing).run stored).2 = .ok updated →
      op.carries = some carried →
      ¬ RecordChanged (exec (storeStep projections hashing) completed ops)
        (storeStep projections hashing
          (exec (storeStep projections hashing) completed ops) op)) := by
  refine ⟨?_, ?_, ?_⟩
  · intro op carried owned
    exact ⟨carries_of_changed owned, fun _ => unchanged_of_error⟩
  · intro expected newOwner newWorker handoff now epoch different ops op carried taken owner run
      owned stale
    refine fenced_until_reassigned ?_ run owned stale
    rw [owner]
    intro same
    exact different (Option.some.inj same).symm
  · intro capture now updated ops op carried call completed open_ success owned
    exact fenced_after_operator (closed_of_operator open_ success) ops owned

def sampleAdmission : Admission where
  requestId := "req_sample_1"
  executionProfileId := "profile"
  mode := .async
  contextFingerprint := none
  promptDigest := none
  continuationSessionId := none
  providerTransportKind := .worker
  sessionKeepAlive := none
  sessionIdleTimeoutSeconds := none
  sessionMaxLifetimeSeconds := none
  nodePlacement := none
  nodeAdmission := none
  idempotencyKey := none
  enqueueOrdinal := none
  watchdogPolicy := none
  createdAt := 0

/-- The sample request after the epoch `g1` has claimed it. -/
def claimedSample : Record :=
  storeStep .plain .constant (buildRecord sampleAdmission "" [] none) (.claimDispatch "g1" 0 none 1)

/-- The epoch `g2` takes the request over and releases it, and `g1` claims it once more. -/
def reclaimedRun : List StoreOp :=
  [.takeoverNonterminalOwner (some "g1") "g2" none (some "restart") 2,
    .releaseStaleClaim (some "g2") 3, .claimDispatch "g1" 3 none 4]

/-- **A superseded epoch can come back.**  The takeover by `g2` succeeds, and after a release
the old epoch `g1` claims the request again and starts an attempt on it. -/
theorem superseded_epoch_returns :
    claimedSample.dispatchOwnerEpoch = some "g1" ∧
      (storeStep .plain .constant claimedSample
        (.takeoverNonterminalOwner (some "g1") "g2" none (some "restart") 2)).dispatchOwnerEpoch =
          some "g2" ∧
      RecordChanged (exec (storeStep .plain .constant) claimedSample reclaimedRun)
        (storeStep .plain .constant (exec (storeStep .plain .constant) claimedSample reclaimedRun)
          (.startOwnedAttempt (some "g1") (some "w1") 4 5)) := by
  refine ⟨by decide +kernel, by decide +kernel, ?_, ?_⟩
  · intro same
    exact absurd (congrArg Record.revision same) (by decide +kernel)
  · intro same
    exact absurd (congrArg Record.revision same) (by decide +kernel)

end Audiagentic.Gateway
