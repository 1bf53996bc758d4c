import Audiagentic.Foundations.PythonValues
import Audiagentic.Gateway.OwnerFencing

/-!
# Recovery claims

A recovery action on a request is written to the request's recovery journal before its side effect:
an intent, renewals of its lease where it reconciles, and a result.  Who may reconcile is read off
the journal: the last reconcile intent is the claim, with the renewals and the result that name its
attempt and its generation.  Everything here happens under the mutation lock of the request, so each
call is one step; a call may read the clock several times.
-/

namespace Audiagentic.Gateway

open Foundations

/-! ## The journal -/

/-- A moment in microseconds, as `datetime` keeps it. -/
abbrev Moment := Int

def seconds (count : Int) : Moment := 1000000 * count

/-- `RECOVERY_CLAIM_LEASE_SECONDS`. -/
def recoveryClaimLease : Moment := seconds 120

/-- `RECOVERY_UNRESOLVED_COOLDOWN_SECONDS`. -/
def recoveryUnresolvedCooldown : Moment := seconds 60

/-- `_RECOVERY_CLOCK_SKEW_SECONDS`. -/
def recoveryClockSkew : Moment := seconds 5

inductive ActionKind where
  | providerNativeRetry
  | providerNativeContinue
  | linkedChildTurn
  | reconcile
deriving DecidableEq

/-- `{"provider-native-retry", "provider-native-continue"}`. -/
def ActionKind.isProviderNative : ActionKind → Bool
  | .providerNativeRetry | .providerNativeContinue => true
  | _ => false

inductive RecoveryDisposition where
  | intentPersisted
  | reconciliationRequired
  | budgetExhausted
  | alreadyRecorded
deriving DecidableEq

/-- An `action-intent` event. -/
structure RecoveryIntent where
  actionAttemptId : String
  action : Option String
  actionKind : ActionKind
  attemptEpoch : Int
  retryBudget : Int
  retryBudgetBefore : Int
  submissionProven : Option Bool
  disposition : RecoveryDisposition
  outcome : String
  causalInputIds : List String
  binding : List (String × Scalar)
  createdAt : Moment
  claimGeneration : Option Int
  leaseExpiresAt : Option Moment

/-- A `claim-renewal` event. -/
structure ClaimRenewal where
  actionAttemptId : String
  claimGeneration : Int
  leaseExpiresAt : Moment
  createdAt : Moment

/-- An `action-result` event. -/
structure RecoveryResult where
  actionAttemptId : String
  claimGeneration : Option Int
  outcome : String
  terminal : Bool
  causalInputIds : List String
  createdAt : Moment

inductive RecoveryEntry where
  | intent (intent : RecoveryIntent)
  | renewal (renewal : ClaimRenewal)
  | result (result : RecoveryResult)

namespace RecoveryEntry

/-- `entry.get("action-attempt-id")`. -/
def actionAttemptId : RecoveryEntry → String
  | .intent written => written.actionAttemptId
  | .renewal written => written.actionAttemptId
  | .result written => written.actionAttemptId

def intent? : RecoveryEntry → Option RecoveryIntent
  | .intent written => some written
  | _ => none

def result? : RecoveryEntry → Option RecoveryResult
  | .result written => some written
  | _ => none

end RecoveryEntry

def RecoveryIntent.claims (intent : RecoveryIntent) : Bool :=
  intent.actionKind = .reconcile && intent.disposition = .intentPersisted

def RecoveryIntent.spends (intent : RecoveryIntent) : Bool :=
  intent.actionKind.isProviderNative && intent.disposition = .intentPersisted

/-! ## The claim -/

/-- The claim that `recovery_claim_state` projects. -/
structure RecoveryClaim where
  intent : RecoveryIntent
  claimGeneration : Int
  leaseExpiresAt : Option Moment
  leaseCreatedAt : Moment
  result : Option RecoveryResult

namespace RecoveryClaim

def opened (intent : RecoveryIntent) (generation : Int) : RecoveryClaim where
  intent := intent
  claimGeneration := generation
  leaseExpiresAt := intent.leaseExpiresAt
  leaseCreatedAt := intent.createdAt
  result := none

def renewed (claim : RecoveryClaim) (renewal : ClaimRenewal) : RecoveryClaim :=
  if renewal.actionAttemptId = claim.intent.actionAttemptId ∧
      renewal.claimGeneration = claim.claimGeneration then
    { claim with
      leaseExpiresAt := some renewal.leaseExpiresAt
      leaseCreatedAt := renewal.createdAt }
  else claim

def resulted (claim : RecoveryClaim) (result : RecoveryResult) : RecoveryClaim :=
  if result.actionAttemptId = claim.intent.actionAttemptId ∧
      result.claimGeneration = some claim.claimGeneration then
    { claim with result := some result }
  else claim

/-- `claim["valid"]`. -/
def valid (claim : RecoveryClaim) (reference : Moment) : Bool :=
  match claim.leaseExpiresAt with
  | some expires =>
    claim.intent.createdAt ≤ reference + recoveryClockSkew &&
      claim.leaseCreatedAt ≤ reference + recoveryClockSkew &&
      claim.leaseCreatedAt ≤ expires &&
      expires ≤ claim.leaseCreatedAt + recoveryClaimLease + recoveryClockSkew
  | none => false

/-- `claim["active"]`. -/
def active (claim : RecoveryClaim) (reference : Moment) : Bool :=
  claim.valid reference && claim.leaseExpiresAt.any fun expires => reference < expires

/-- The claim is the attempt's, of the generation, and has no result. -/
def ownedBy (claim : RecoveryClaim) (reference : Moment) (actionAttemptId : String)
    (generation : Option Int) : Bool :=
  claim.valid reference && claim.active reference &&
    claim.intent.actionAttemptId = actionAttemptId &&
    some claim.claimGeneration = generation && claim.result.isNone

end RecoveryClaim

/-- One round of the loop of `recovery_claim_state`, with the last generation. -/
def claimStep (state : Option RecoveryClaim × Int) : RecoveryEntry → Option RecoveryClaim × Int
  | .intent intent =>
    if intent.claims then
      let generation := intent.claimGeneration.getD (state.2 + 1)
      (some (.opened intent generation), generation)
    else state
  | .renewal renewal => (state.1.map fun claim => claim.renewed renewal, state.2)
  | .result result => (state.1.map fun claim => claim.resulted result, state.2)

def recoveryClaimState (entries : List RecoveryEntry) : Option RecoveryClaim :=
  (entries.foldl claimStep (none, 0)).1

/-- The owner check that the calls share. -/
def holdsClaim (entries : List RecoveryEntry) (reference : Moment) (actionAttemptId : String)
    (generation : Option Int) : Bool :=
  (recoveryClaimState entries).any fun claim => claim.ownedBy reference actionAttemptId generation

/-! ## The calls -/

def assertRecoveryClaimOwner (entries : List RecoveryEntry) (now : Moment)
    (actionAttemptId : String) (generation : Int) : Except GatewayError RecoveryClaim :=
  match recoveryClaimState entries with
  | some claim =>
    if claim.ownedBy now actionAttemptId (some generation) then .ok claim
    else .error (agentsError "RecoveryClaimLostError" "recovery claim is no longer owned")
  | none => .error (agentsError "RecoveryClaimLostError" "recovery claim is no longer owned")

structure Readings where
  first : Moment
  second : Moment
  third : Moment

def renewRecoveryClaim (entries : List RecoveryEntry) (readings : Readings)
    (actionAttemptId : String) (generation : Int) : Bool × List RecoveryEntry :=
  if holdsClaim entries readings.first actionAttemptId (some generation) then
    (true, entries ++ [.renewal
      { actionAttemptId
        claimGeneration := generation
        leaseExpiresAt := readings.second + recoveryClaimLease
        createdAt := readings.third }])
  else (false, entries)

/-- `_text`. -/
def recoveryText (limit : ℕ) (value : String) : Option String :=
  if value = "" then none else some (clip limit value)

/-- The arguments of `prepare_recovery_action`. -/
structure RecoveryRequest where
  actionAttemptId : String
  action : String
  attemptEpoch : Int
  retryBudget : Int
  submissionProven : Option Bool
  actionKind : ActionKind
  causalInputIds : List String
  binding : String → Option (Json Scalar)

/-- What `prepare_recovery_action` returns. -/
inductive PreparedAction where
  | written (intent : RecoveryIntent)
  | stored (entry : RecoveryEntry)
  | fenced (intent : RecoveryIntent) (result : Option RecoveryResult)
      (disposition : RecoveryDisposition) (outcome : String)

def checkRecoveryRequest (request : RecoveryRequest) : Except GatewayError Unit := do
  refuse (request.actionAttemptId = "" ∨ request.action = "")
    (agentsError "ValueError" "action and action_attempt_id are required")
  refuse (request.retryBudget < 0)
    (agentsError "ValueError" "retry budget cannot be negative")

def existingEntry (entries : List RecoveryEntry) (actionAttemptId : String) :
    Option RecoveryEntry :=
  entries.reverse.find? fun entry => entry.actionAttemptId = actionAttemptId

def existingResult (entries : List RecoveryEntry) (actionAttemptId : String) :
    Option RecoveryResult :=
  (entries.filterMap RecoveryEntry.result?).find? fun result =>
    result.actionAttemptId = actionAttemptId

def answerExisting (entries : List RecoveryEntry) (actionAttemptId : String)
    (entry : RecoveryEntry) : PreparedAction :=
  match entry with
  | .intent intent =>
    if intent.disposition = .intentPersisted then
      if (existingResult entries actionAttemptId).isSome then
        .fenced intent none .alreadyRecorded "action-already-recorded"
      else .fenced intent none .reconciliationRequired "action-result-missing"
    else .stored entry
  | _ => .stored entry

def consumedBudget (entries : List RecoveryEntry) : ℕ :=
  (entries.filterMap RecoveryEntry.intent?).countP RecoveryIntent.spends

def nextClaimGeneration (entries : List RecoveryEntry) (now : Moment) :
    Except PreparedAction (Option Int) :=
  match recoveryClaimState entries with
  | none => .ok (some 1)
  | some claim =>
    match claim.result with
    | some prior =>
      if prior.outcome = "reconciliation-completed" then
        .error (.fenced claim.intent prior .alreadyRecorded prior.outcome)
      else if now + recoveryClockSkew < prior.createdAt then
        .error (.fenced claim.intent prior .reconciliationRequired "recovery-timestamp-invalid")
      else if now - prior.createdAt < recoveryUnresolvedCooldown then
        .error (.fenced claim.intent prior .reconciliationRequired "recovery-cooldown-active")
      -- The generation stays unset here.
      else .ok none
    | none =>
      if claim.valid now = false then
        .ok (some ((if 0 < claim.claimGeneration then claim.claimGeneration else 0) + 1))
      else if claim.active now then
        .error (.fenced claim.intent none .reconciliationRequired "recovery-claim-active")
      else .ok (some (claim.claimGeneration + 1))

def intentDisposition (request : RecoveryRequest) (remaining : Int) :
    RecoveryDisposition × String :=
  if request.actionKind.isProviderNative ∧ request.submissionProven ≠ some false then
    (.reconciliationRequired, "rejected-ambiguous-submission")
  else if remaining = 0 ∧ request.actionKind ≠ .reconcile then
    (.budgetExhausted, "rejected-retry-budget")
  else (.intentPersisted, "pending-side-effect")

/-- The keys of `safe_binding`. -/
def safeBindingKeys : List String :=
  ["project-id", "session-id", "chat-id", "turn-id", "prompt-fingerprint", "assistant-id",
    "terminal-witness-id", "provider-session-id", "provider-turn-id"]

/-- `safe_binding`: texts, integers and booleans only. -/
def safeBinding (binding : String → Option (Json Scalar)) : List (String × Scalar) :=
  safeBindingKeys.filterMap fun key =>
    match binding key with
    | some (.scalar (.float _)) => none
    | some (.scalar value) => some (key, value)
    | _ => none

def newIntent (entries : List RecoveryEntry) (request : RecoveryRequest)
    (generation : Option Int) (createdAt : Moment) : RecoveryIntent :=
  let remaining := max 0 (request.retryBudget - consumedBudget entries)
  let decided := intentDisposition request remaining
  let claims := request.actionKind = .reconcile ∧ decided.1 = .intentPersisted
  { actionAttemptId := clip 128 request.actionAttemptId
    action := recoveryText 128 request.action
    actionKind := request.actionKind
    attemptEpoch := max 1 request.attemptEpoch
    retryBudget := if request.actionKind ≠ .reconcile then remaining else request.retryBudget
    retryBudgetBefore := request.retryBudget
    submissionProven := request.submissionProven
    disposition := decided.1
    outcome := decided.2
    causalInputIds := request.causalInputIds.filterMap (recoveryText 128)
    binding := safeBinding request.binding
    createdAt
    claimGeneration :=
      if claims then
        match generation with
        | some number => if number = 0 then some 1 else some number
        | none => some 1
      else none
    leaseExpiresAt := if claims then some (createdAt + recoveryClaimLease) else none }

/-- `prepare_recovery_action`, up to the observation. -/
def prepareRecoveryAction (entries : List RecoveryEntry) (readings : Readings)
    (request : RecoveryRequest) : Except GatewayError (PreparedAction × List RecoveryEntry) := do
  checkRecoveryRequest request
  match existingEntry entries request.actionAttemptId with
  | some entry => .ok (answerExisting entries request.actionAttemptId entry, entries)
  | none =>
    let generation :=
      if request.actionKind = .reconcile then nextClaimGeneration entries readings.first
      else .ok none
    match generation with
    | .error answer => .ok (answer, entries)
    | .ok generation =>
      let intent := newIntent entries request generation readings.second
      .ok (.written intent, entries ++ [.intent intent])

/-- What `record_recovery_result` returns. -/
inductive RecordedResult where
  | stored (result : RecoveryResult)
  /-- `stale-claim`. -/
  | lost (actionAttemptId : String) (claimGeneration : Option Int)

/-- `record_recovery_result`, up to the observation. -/
def recordRecoveryResult (entries : List RecoveryEntry) (readings : Readings)
    (actionAttemptId outcome : String) (terminal : Bool) (claimGeneration : Option Int)
    (causalInputIds : List String) :
    Except GatewayError (RecordedResult × List RecoveryEntry) :=
  match (entries.filterMap RecoveryEntry.intent?).find? fun intent =>
      intent.actionAttemptId = actionAttemptId with
  | none => .error (agentsError "ValueError" "recovery action intent is missing")
  | some intent =>
    let generation := claimGeneration.or intent.claimGeneration
    match existingResult entries actionAttemptId with
    | some result => .ok (.stored result, entries)
    | none =>
      if intent.actionKind = .reconcile ∧
          holdsClaim entries readings.first actionAttemptId generation = false then
        .ok (.lost actionAttemptId generation, entries)
      else
        let result : RecoveryResult :=
          { actionAttemptId := clip 128 actionAttemptId
            claimGeneration := generation
            outcome := (recoveryText 128 outcome).getD "unknown"
            terminal
            causalInputIds := causalInputIds.filterMap (recoveryText 128)
            createdAt := readings.second }
        .ok (.stored result, entries ++ [.result result])

/-- `transition_operator_terminal` with a recovery attempt: the claim is looked up when the lock is
taken and again before the write. -/
def captureWithClaim (entries : List RecoveryEntry) (readings : Readings)
    (actionAttemptId : String) (generation : Option Int) (capture : OperatorCapture) :
    OperatorCapture :=
  { capture with
    claimHeldAtEntry := holdsClaim entries readings.first actionAttemptId generation
    claimHeldAtCommit := holdsClaim entries readings.second actionAttemptId generation }

end Audiagentic.Gateway
