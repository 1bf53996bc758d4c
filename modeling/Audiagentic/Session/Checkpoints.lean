import Audiagentic.Session.Records

/-!
# The checkpoint writers

The operations that write the turn checkpoint in a session's provider metadata: which turn is
unresolved, how far its submission has got and who may recover it.  Each reads the record under its
locks, refuses or writes it back, so each is a function of the record and the requests.
-/

namespace Audiagentic.Session

open Foundations
open Gateway (GatewayError)

/-! ## Fields -/

def present (keys : List Text) (fields : Fields) :
    List Text := keys.filter fun key => fields.has key

/-- The value is `None` or `False`. -/
def isUnset (value : Json Scalar) : Bool := value.isNull || value.isFalse

/-- `value == text`. -/
def equalsText (value : Json Scalar) (text : Text) : Bool := value.text? = some text

/-- `metadata` says that the turn of the request is unresolved. -/
def holdsTurn (metadata : Fields) (requestId : Text) : Bool :=
  (metadata.read pendingKey).isTrue && equalsText (metadata.read turnIdKey) requestId

/-- Neither a claim nor a generation is there. -/
def unclaimed (metadata : Fields) : Bool :=
  (metadata.read claimKey).isNull && (metadata.read generationKey).isNull

/-- `first != second` of two fields that are both there. -/
def replaces (metadata update : Fields) (key : Text) : Bool :=
  match update.get? key, metadata.get? key with
  | some new, some old => !equalValues new old
  | _, _ => false

/-! ## Guards -/

def validateSubmissionObservationProgress (metadata update : Fields) : Except GatewayError Unit :=
  do
  let attempt := update.read attemptIdKey
  refuse ((attempt.isNull ||
      match attempt.text? with
      | some text => !text.isEmpty && text.length ≤ 64
      | none => false) = false)
    (checkpointError "submission observation attempt identity is invalid")
  refuse ((attempt.isNull || (metadata.read attemptIdKey).isNull ||
      equalValues attempt (metadata.read attemptIdKey)) = false)
    (checkpointError "submission observation attempt identity cannot change")
  let stage := update.read stageKey
  let order := stage.text?.bind stageOrder
  refuse ((stage.isNull || order.isSome) = false)
    (checkpointError "submission observation stage is invalid")
  let stored := (metadata.read stageKey).text?.bind stageOrder
  refuse ((match order, stored with
      | some new, some old => decide (new < old)
      | _, _ => false) = true)
    (checkpointError "submission observation stage cannot move backwards")
  let intent := update.read sendIntentKey
  refuse ((intent.isNull || intent.isTrue || intent.isFalse) = false)
    (checkpointError "submission send-intent latch must be boolean")
  refuse (((metadata.read sendIntentKey).isTrue && intent.isFalse) = true)
    (checkpointError "submission send-intent latch cannot be cleared")
  let effective := if intent.isNull then metadata.read sendIntentKey else intent
  refuse ((match order with
      | some new => decide (4 ≤ new) && !effective.isTrue
      | none => false) = true)
    (checkpointError "send-intent observation requires the durable send-intent latch")

def frozenIdentityMismatchKeys (existing update : Fields) : List Text :=
  recoveryIdentityKeys.filter fun key =>
    (update.has key != existing.has key) ||
      (existing.has key && !equalValues (update.read key) (existing.read key))

/-- The texts of a list, `set(verification)`; an item that cannot be in a set raises. -/
def verificationSet : Json Scalar → Except GatewayError (List Text)
  | .list items =>
    if items.any Json.isUnhashable then .error typeError else .ok (items.filterMap Json.text?)
  | _ => .ok []

def terminalCheckpointClearIsProven (existing update : Fields) (requestId : Text) :
    Except GatewayError Bool := do
  let evidence := update.read evidenceKey
  let field (key : String) := (Json.lookup key.toList evidence.entries).getD .null
  let verification ← verificationSet (field "verification-evidence")
  .ok (holdsTurn existing requestId &&
    equalsText (update.read turnIdKey) requestId &&
    (update.read provenKey).isTrue &&
    equalsText (update.read proofSourceKey) "provider-user-message".toList &&
    (update.read digestKey).isName &&
    evidence.isMap &&
    equalsText (field "turn-id") requestId &&
    equalsText (field "policy") "response-complete".toList &&
    decide ("not-generating".toList ∈ verification) &&
    decide ("text-present".toList ∈ verification) &&
    (decide ("completion-control".toList ∈ verification) ||
      decide ("response-complete-status".toList ∈ verification)) &&
    (frozenIdentityMismatchKeys existing update).isEmpty)

/-- The two fields that a fresh checkpoint may have with the value `False`. -/
def falseDefaults (fields : Fields) : List Text :=
  [pendingKey, provenKey].filter fun key => (fields.get? key).any Json.isFalse

def freshCheckpointRemovalsAreSafe (metadata update : Fields) (removeKeys : List Text) : Bool :=
  removeKeys.all fun key =>
    decide (key ∈ freshSubmissionDefaultRemovals) &&
      (!update.has key || decide (key ∈ falseDefaults update)) &&
      (!(decide (key ∈ recoveryCheckpointKeys) && metadata.has key) ||
        decide (key ∈ falseDefaults metadata))

/-! ## The claim of a prepared submission -/

def claimField (metadata : Fields) (key : String) : Json Scalar :=
  (Json.lookup key.toList (metadata.read claimKey).entries).getD .null

def holdsClaim (metadata : Fields) (claimId : Text) (owner : Owner) : Bool :=
  (metadata.read claimKey).isMap &&
    equalsText (claimField metadata "claim-id") claimId &&
    equalsText (claimField metadata "dispatch-owner-epoch") owner.dispatchOwnerEpoch &&
    equalsText (claimField metadata "worker-id") owner.workerId &&
    equalValues (claimField metadata "attempt-epoch") (.scalar (.int owner.attemptEpoch)) &&
    equalValues (claimField metadata "generation") (metadata.read generationKey)

/-- `_assert_prepared_submission_claim_locked`. -/
def assertPreparedSubmissionClaim (host : SessionHost) (requests : Requests)
    (session : SessionRecord) (requestId claimId : Text) (owner : Owner) :
    Except GatewayError Unit := do
  let _ ← assertRequestDispatchOwner host requests session requestId owner true
  let metadata := session.metadata
  refuse ((holdsTurn metadata requestId && equalsText (metadata.read stateKey) prepared &&
      (metadata.read provenKey).isFalse && holdsClaim metadata claimId owner) = false)
    (checkpointError "prepared submission recovery claim was lost before provider action")

def claimOwnedBy (metadata : Fields) (owner : Owner) : Bool :=
  equalsText (claimField metadata "dispatch-owner-epoch") owner.dispatchOwnerEpoch &&
    equalsText (claimField metadata "worker-id") owner.workerId &&
    equalValues (claimField metadata "attempt-epoch") (.scalar (.int owner.attemptEpoch))

def nextGeneration (host : SessionHost) (metadata : Fields) : Except GatewayError ℤ := do
  let zero : Json Scalar := .scalar (.int 0)
  let stored := (metadata.get? generationKey).getD zero
  let found ←
    match metadata.read claimKey with
    | .map previous =>
      match larger stored ((Json.lookup "generation".toList previous).getD zero) with
      | some value => .ok value
      | none => .error typeError
    | _ => .ok stored
  match integerOf host.digit found with
  | .value generation => .ok (max 0 generation + 1)
  | .invalid => .ok 1
  | .overflow => .error overflowError

def grantedClaim (claimId leaseExpiresAt : Text) (generation : ℤ) (owner : Owner) : Json Scalar :=
  .map [("claim-id".toList, .scalar (.str claimId)),
    ("generation".toList, .scalar (.int generation)),
    ("dispatch-owner-epoch".toList, .scalar (.str owner.dispatchOwnerEpoch)),
    ("worker-id".toList, .scalar (.str owner.workerId)),
    ("attempt-epoch".toList, .scalar (.int owner.attemptEpoch)),
    ("lease-expires-at".toList, .scalar (.str leaseExpiresAt))]

/-- `claim_prepared_submission_recovery`, with the fresh claim id and what the comparison of the
stored lease with the clock gives. -/
def claimPreparedSubmissionRecovery (host : SessionHost) (requests : Requests)
    (session : SessionRecord) (requestId : Text) (owner : Owner) (leaseExpired : Bool)
    (claimId leaseExpiresAt : Text) : Except GatewayError SessionRecord := do
  let _ ← assertRequestDispatchOwner host requests session requestId owner true
  let metadata := session.metadata
  refuse ((session.state = .active && holdsTurn metadata requestId &&
      equalsText (metadata.read stateKey) prepared && (metadata.read provenKey).isFalse) = false)
    (checkpointError "prepared submission checkpoint changed before recovery claim")
  refuse (((metadata.read claimKey).isMap && claimOwnedBy metadata owner && !leaseExpired) = true)
    (checkpointError "prepared submission recovery is already claimed")
  let generation ← nextGeneration host metadata
  let claimed := metadata.set claimKey (grantedClaim claimId leaseExpiresAt generation owner)
  .ok { session with metadata := claimed.set generationKey (.scalar (.int generation)) }

/-- `release_prepared_submission_recovery_claim`: the session after it, and whether the claim was
released. -/
def releasePreparedSubmissionRecoveryClaim (session : SessionRecord) (claimId : Text) :
    SessionRecord × Bool :=
  let metadata := session.metadata
  if (metadata.read claimKey).isMap && equalsText (claimField metadata "claim-id") claimId then
    ({ session with metadata := metadata.pop claimKey }, true)
  else (session, false)

def written (metadata update : Fields) (removeKeys : List Text) : Fields :=
  (metadata.update update).popAll removeKeys

def advancePreparedSubmissionToDispatching (host : SessionHost) (requests : Requests)
    (session : SessionRecord) (requestId : Text) (update : Fields) (claimId : Text) (owner : Owner)
    (removeKeys : List Text) : Except GatewayError SessionRecord := do
  refuse ((update.has claimKey || update.has generationKey) = true)
    (checkpointError "provider checkpoint cannot replace recovery claim identity")
  assertPreparedSubmissionClaim host requests session requestId claimId owner
  let metadata := session.metadata
  refuse (equalsText (update.read stateKey) dispatching = false)
    (checkpointError "prepared recovery may only advance to dispatching")
  refuse ((holdsTurn update requestId && !(update.read provenKey).isTrue) = false)
    (checkpointError "dispatching checkpoint does not preserve the unsent request identity")
  refuse (recoveryIdentityKeys.any (replaces metadata update) = true)
    (checkpointError "dispatching checkpoint cannot replace frozen turn identity")
  refuse (freshCheckpointRemovalsAreSafe metadata update removeKeys = false)
    (checkpointError "prepared recovery removal is not limited to absent/default fields")
  validateSubmissionObservationProgress metadata update
  .ok { session with metadata := written metadata update (removeKeys ++ [claimKey]) }

end Audiagentic.Session
