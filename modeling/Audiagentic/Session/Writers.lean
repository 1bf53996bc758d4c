import Audiagentic.Session.Checkpoints

/-!
# Updates of a session's provider metadata

The update of a checkpoint under its request owner, with the stages it tells apart, and the other
operations that write the provider metadata: ordinary updates, bindings, recorded turns, and the
two that end a turn.
-/

namespace Audiagentic.Session

open Foundations
open Gateway (GatewayError agentsError)

/-! ## Which update it is -/

/-- `fresh_prepared_checkpoint`: the first checkpoint of a turn. -/
def freshPreparedCheckpoint (metadata update : Fields) (requestId : Text)
    (claimId : Option Text) : Bool :=
  let cleared := (metadata.read recoveryStateKey).text? ∈
    [some "terminal-captured".toList, some "stale-terminal-checkpoint-residue-cleared".toList,
      some "orphaned-terminal-fence-cleared".toList]
  (metadata.read stateKey).isNull && !(metadata.read pendingKey).isTrue &&
    (present recoveryIdentityKeys metadata).all (· = baselineAlertsKey) &&
    (present recoveryCheckpointKeys metadata).all (fun key =>
      key = pendingKey || key = provenKey || key = baselineAlertsKey ||
        (key = recoveryStateKey && cleared)) &&
    (!metadata.has baselineAlertsKey ||
      equalValues (metadata.read baselineAlertsKey) (.list [])) &&
    isUnset (metadata.read provenKey) &&
    equalsText (update.read stateKey) prepared && holdsTurn update requestId &&
    (update.read provenKey).isFalse && claimId.isNone

/-- `fresh_prepared_dispatch`: the first dispatch of a turn that was never claimed. -/
def freshPreparedDispatch (metadata : Fields) (claimId : Option Text) : Bool :=
  equalsText (metadata.read stateKey) prepared && claimId.isNone && unclaimed metadata

/-- `prompt_message_id_is_durable`. -/
def durablePromptMessage (value : Json Scalar) : Bool :=
  match value.text? with
  | some text => !Text.isBlank text && !"fallback-".toList.isPrefixOf text &&
      !"virtualized-prompt-for-".toList.isPrefixOf text
  | none => false

def baselineMatches (metadata update : Fields) (key : Text) : Bool :=
  (metadata.read key).integer?.isSome && equalValues (update.read key) (metadata.read key)

def dispatchingToProvenCheckpoint (metadata update : Fields) (requestId : Text)
    (claimId : Option Text) (request : Request) : Bool :=
  let message := update.read promptMessageKey
  equalsText (metadata.read stateKey) dispatching && claimId.isNone &&
    holdsTurn metadata requestId && isUnset (metadata.read provenKey) && unclaimed metadata &&
    equalsText (update.read stateKey) proven && holdsTurn update requestId &&
    (update.read provenKey).isTrue &&
    equalsText (update.read proofSourceKey) "provider-user-message".toList &&
    update.keys.all (fun key => key ∈ recoveryCheckpointKeys || key = "target-id".toList) &&
    (frozenIdentityMismatchKeys metadata update).isEmpty && durablePromptMessage message &&
    ((metadata.read digestKey).isName &&
      equalValues (update.read digestKey) (metadata.read digestKey)) &&
    baselineMatches metadata update baselineUserCountKey &&
    baselineMatches metadata update baselineAssistantCountKey &&
    ((metadata.read baselineUserKey).text?.isNone ||
      !equalValues message (metadata.read baselineUserKey)) &&
    !request.recoveryRequired

inductive UpdateKind where
  | freshCheckpoint
  | freshDispatch
  | claimedPrepared
  | proof
  | observation

namespace UpdateKind

/-- The turn was never claimed and is at its beginning. -/
def isFresh : UpdateKind → Bool
  | freshCheckpoint | freshDispatch => true
  | claimedPrepared | proof | observation => false

def changesState : UpdateKind → Bool
  | freshCheckpoint | freshDispatch | proof => true
  | claimedPrepared | observation => false

end UpdateKind

/-! ## The update of an owned checkpoint -/

section OwnedUpdate

variable (host : SessionHost) (requests : Requests) (session : SessionRecord) (requestId : Text)
  (update : Fields) (claimId : Option Text) (owner : Owner) (removeKeys : List Text)

/-- The branch of `update_owned_submission_checkpoint` that the stored stage selects. -/
def ownedUpdateKind : Except GatewayError UpdateKind :=
  let metadata := session.metadata
  if freshPreparedCheckpoint metadata update requestId claimId then do
    let request ← assertRequestDispatchOwner host requests session requestId owner false
    refuse (request.recoveryRequired = true)
      (checkpointError "recovered request requires a prepared submission claim")
    refuse (removeKeys.any (fun key => decide (key ∈ recoveryCheckpointKeys) && metadata.has key &&
        !decide (key ∈ falseDefaults metadata)) = true)
      (checkpointError "initial prepared checkpoint cannot remove recovery evidence")
    .ok .freshCheckpoint
  else if freshPreparedDispatch metadata claimId then do
    let request ← assertRequestDispatchOwner host requests session requestId owner false
    refuse ((!request.recoveryRequired && holdsTurn metadata requestId &&
        isUnset (metadata.read provenKey) && equalsText (update.read stateKey) dispatching &&
        holdsTurn update requestId && !(update.read provenKey).isTrue) = false)
      (checkpointError "fresh prepared checkpoint cannot advance without its request owner")
    .ok .freshDispatch
  else if equalsText (metadata.read stateKey) prepared then
    match claimId with
    | some (char :: rest) => do
      assertPreparedSubmissionClaim host requests session requestId (char :: rest) owner
      .ok .claimedPrepared
    | _ => .error (checkpointError "prepared checkpoint update requires its recovery claim")
  else do
    let request ← assertRequestDispatchOwner host requests session requestId owner false
    let proves := dispatchingToProvenCheckpoint metadata update requestId claimId request
    refuse ((holdsTurn metadata requestId &&
        ((metadata.read stateKey).isNull || equalsText (metadata.read stateKey) dispatching) &&
        claimId.isNone && (!equalsText (update.read stateKey) proven || proves)) = false)
      (checkpointError "owned checkpoint update does not match the current dispatch stage")
    .ok (if proves then .proof else .observation)

/-- The checks of `update_owned_submission_checkpoint` after its branch. -/
def checkOwnedUpdate (kind : UpdateKind) : Except GatewayError Unit := do
  let metadata := session.metadata
  let atPrepared := equalsText (metadata.read stateKey) prepared
  refuse ((update.has stateKey && !kind.changesState &&
      (!equalsText (update.read stateKey) dispatching ||
        !((metadata.read stateKey).isNull ||
          equalsText (metadata.read stateKey) dispatching))) = true)
    (checkpointError "owned checkpoint update cannot change submission stage")
  refuse ((update.has turnIdKey && !equalsText (update.read turnIdKey) requestId) = true)
    (checkpointError "owned checkpoint update cannot change its request identity")
  refuse ((atPrepared && (update.read provenKey).isTrue) = true)
    (checkpointError "prepared checkpoint cannot claim a submitted prompt")
  refuse ((atPrepared && (update.read pendingKey).isFalse) = true)
    (checkpointError "prepared checkpoint cannot be completed before dispatch")
  refuse ((update.read pendingKey).isFalse = true)
    (checkpointError "running request cannot clear its recovery checkpoint")
  refuse (((metadata.read provenKey).isTrue && (update.read provenKey).isFalse) = true)
    (checkpointError "submission proof cannot regress from proven to unproven")
  refuse (recoveryIdentityKeys.any (replaces metadata update) = true)
    (checkpointError "owned checkpoint update cannot replace frozen turn identity")
  let protectedRemovals := removeKeys.any fun key => decide (key ∈ recoveryCheckpointKeys)
  let safe := kind.isFresh && freshCheckpointRemovalsAreSafe metadata update removeKeys
  refuse ((kind.isFresh && !safe) = true)
    (checkpointError "fresh checkpoint cleanup exceeds the absent/default allowlist")
  refuse ((atPrepared && protectedRemovals && !safe) = true)
    (checkpointError "prepared recovery evidence cannot be removed before dispatch")
  refuse ((protectedRemovals && !safe) = true)
    (checkpointError "recovery evidence removal requires a terminal request")
  validateSubmissionObservationProgress metadata update

/-- The locked part of `update_owned_submission_checkpoint`. -/
def updateOwnedLocked : Except GatewayError SessionRecord := do
  refuse ((session.metadata.read recoveryStateKey).isUnhashable = true) typeError
  let kind ← ownedUpdateKind host requests session requestId update claimId owner removeKeys
  checkOwnedUpdate session requestId update removeKeys kind
  .ok { session with metadata := written session.metadata update removeKeys }

def updateOwnedSubmissionCheckpoint : Except GatewayError SessionRecord := do
  let update := update.popAll loadBudgetKeys
  let removeKeys := removeKeys.filter (· ∉ loadBudgetKeys)
  refuse ((update.has claimKey || update.has generationKey) = true)
    (checkpointError "provider checkpoint cannot replace recovery claim identity")
  updateOwnedLocked host requests session requestId update claimId owner removeKeys

end OwnedUpdate

end Audiagentic.Session
