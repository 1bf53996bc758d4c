import Audiagentic.Foundations.PythonValues
import Audiagentic.Gateway.Record

/-!
# Session records

A gateway session as its record holds it: its lifecycle state, its provider binding and the
provider metadata, a dictionary that the checkpoint writers share.  Of a request record the session
store reads the owner and what names its provider project.

Schema validation of a record is in the types.  Time stamps that the writers set and none of them
reads are left out.
-/

namespace Audiagentic.Session

open Foundations
open Gateway (GatewayError agentsError RequestState)

/-! ## Keys of the provider metadata -/

def pendingKey : Text := "unresolved-turn-pending".toList

def turnIdKey : Text := "unresolved-turn-id".toList

def stateKey : Text := "submission-state".toList

def attemptIdKey : Text := "submission-attempt-id".toList

def stageKey : Text := "submission-stage".toList

def sendIntentKey : Text := "send-intent-ever".toList

def provenKey : Text := "submission-proven".toList

def proofSourceKey : Text := "submission-proof-source".toList

def claimKey : Text := "submission-recovery-claim".toList

def generationKey : Text := "submission-recovery-generation".toList

def recoveryStateKey : Text := "recovery-state".toList

def digestKey : Text := "prompt-text-digest".toList

def promptMessageKey : Text := "prompt-message-id".toList

def evidenceKey : Text := "terminal-evidence".toList

def baselineUserKey : Text := "unresolved-baseline-user-id".toList

def baselineAssistantKey : Text := "unresolved-baseline-assistant-id".toList

def baselineUserCountKey : Text := "unresolved-baseline-user-count".toList

def baselineAssistantCountKey : Text := "unresolved-baseline-assistant-count".toList

def baselineAlertsKey : Text := "unresolved-baseline-error-alert-occurrences".toList

def recoveryCheckpointKeys : List Text :=
  [pendingKey, turnIdKey, stateKey, attemptIdKey, stageKey, sendIntentKey, provenKey,
    proofSourceKey, claimKey, generationKey, recoveryStateKey, digestKey, promptMessageKey,
    "assistant-message-id".toList, "assistant-before-message-id".toList,
    "assistant-before-id".toList, evidenceKey, baselineUserKey, baselineAssistantKey,
    baselineUserCountKey, baselineAssistantCountKey, baselineAlertsKey]

def recoveryIdentityKeys : List Text :=
  [turnIdKey, baselineUserKey, baselineAssistantKey, baselineUserCountKey,
    baselineAssistantCountKey, baselineAlertsKey, digestKey, attemptIdKey, generationKey, claimKey]

def loadBudgetKeys : List Text :=
  ["conversation-load-recovery-attempts".toList, "conversation-load-recovery-revision".toList]

def freshSubmissionDefaultRemovals : List Text :=
  [provenKey, promptMessageKey, "assistant-message-id".toList,
    "assistant-before-message-id".toList, "assistant-before-id".toList, evidenceKey, digestKey]

/-- `_SUBMISSION_OBSERVATION_STAGE_ORDER`, in order. -/
def observationStages : List Text :=
  ["dispatching".toList, "composer-focused".toList, "composer-filled".toList,
    "composer-validated".toList, "send-intent".toList, "send-click-acknowledged".toList]

def stageOrder (stage : Text) : Option ℕ := observationStages.idxOf? stage

def prepared : Text := "prepared".toList

def dispatching : Text := "dispatching".toList

def proven : Text := "proven".toList

/-! ## Records -/

/-- The states of `workflows.yaml`, kind `gateway-session`. -/
inductive SessionState where
  | active
  | closing
  | closed
  | expired
  | failed
deriving DecidableEq

/-- The state set `terminal`. -/
def SessionState.isTerminal : SessionState → Bool
  | .active | .closing => false
  | .closed | .expired | .failed => true

/-- The rows of the session workflow's `transitions` table. -/
def SessionState.targets : SessionState → List SessionState
  | .active => [.closing, .closed, .expired, .failed]
  | .closing => [.closed, .failed]
  | .closed | .expired | .failed => []

/-- Whose the provider conversation is. -/
inductive Ownership where
  | owned
  | external
  | adopted

structure Binding where
  bindingId : Text
  providerId : Option Text
  surfaceId : Text
  providerSessionRef : Text
  providerRefKey : Text
  ownership : Ownership

inductive TransportKind where
  | worker
  | providerSession

structure SessionRecord where
  sessionId : Text
  executionProfileId : Text
  transportKind : TransportKind
  state : SessionState
  binding : Option Binding
  providerId : Option Text
  modelId : Option Text
  metadata : Fields
  requestIds : List Text
  turnCount : ℕ

structure Request where
  state : RequestState
  sessionId : Option Text
  dispatchOwnerEpoch : Option Text
  workerId : Option Text
  attemptEpoch : Option ℤ
  recoveryRequired : Bool
  projectId : Json Scalar
  providerMetadata : Fields

structure Owner where
  dispatchOwnerEpoch : Text
  workerId : Text
  attemptEpoch : ℤ

/-- What the session store is run with: `str` of a value, the decimal digits of the character set,
the project id in a provider URL, and the digest of a list of texts. -/
structure SessionHost where
  str : Json Scalar → Text
  digit : Char → Option ℕ
  parseProjectId : Text → Option Text
  digest : List Text → Text

/-! ## Errors -/

/-- `CON-AGW-125`, the refusal of a checkpoint writer. -/
def checkpointError (message : String) : GatewayError := agentsError "CON-AGW-125" message

/-- `CON-AGW-120`, the refusal of a binding. -/
def bindingError (message : String) : GatewayError := agentsError "CON-AGW-120" message

def typeError : GatewayError := { code := "TypeError", kind := "python", message := "" }

def overflowError : GatewayError := { code := "OverflowError", kind := "python", message := "" }

/-! ## The request owner -/

def projectOf (host : SessionHost) (stated : Json Scalar) (metadata : Fields) : Option Text :=
  let found := if stated.isName then stated.text? else
    host.parseProjectId (host.str (((metadata.read "project-url".toList).orElse
      (metadata.read "chat-url".toList)).orElse (.scalar (.str []))))
  found.filter fun project => !project.isEmpty

def sameProject (host : SessionHost) (request : Request) (metadata : Fields) : Bool :=
  let key := "project-id".toList
  match projectOf host (request.projectId.orElse (request.providerMetadata.read key))
      request.providerMetadata, projectOf host (metadata.read key) metadata with
  | some project, some project' => project = project'
  | _, _ => false

def Request.isOwned (request : Request) (allowQueuedPreSend : Bool) : Bool :=
  request.state = .running ||
    (allowQueuedPreSend && request.state = .queued && !request.recoveryRequired)

def Request.ownedBy (request : Request) (owner : Owner) : Bool :=
  request.dispatchOwnerEpoch = some owner.dispatchOwnerEpoch &&
    request.workerId = some owner.workerId && request.attemptEpoch = some owner.attemptEpoch

abbrev Requests := Text → Option Request

def readRequest (requests : Requests) (requestId : Text) : Except GatewayError Request :=
  match requests requestId with
  | some request => .ok request
  | none => .error (agentsError "RES-AGW-001" "gateway request not found")

def assertRequestDispatchOwner (host : SessionHost) (requests : Requests) (session : SessionRecord)
    (requestId : Text) (owner : Owner) (allowQueuedPreSend : Bool) :
    Except GatewayError Request := do
  let request ← readRequest requests requestId
  refuse ((request.isOwned allowQueuedPreSend &&
      request.sessionId = some session.sessionId && request.ownedBy owner) = false)
    (checkpointError "prepared submission recovery lost its request owner fence")
  refuse (session.providerId = some "gpt-auto".toList ∧
      sameProject host request session.metadata = false)
    (checkpointError "prepared recovery request and session do not prove the same GPT project")
  .ok request

end Audiagentic.Session
