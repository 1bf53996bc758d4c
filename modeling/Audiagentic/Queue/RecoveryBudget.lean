import Audiagentic.Foundations.PythonValues
import Audiagentic.Gateway.OwnerFencing

/-!
# The budget of a recovery

A runner that may already have reached its provider raises `RecoveryDeferred`, and `_run_one`
tries again later until the attempts of the phase are used up.  There are three bounds: that of
follow-ups, that of turns which wait for their predecessor and have sent nothing, and the generic
one.  The interrupted record reports the bound of its phase, but the count of a waiting turn is
compared with the generic one.
-/

namespace Audiagentic.Queue

open Foundations Gateway

/-! ## Bounds -/

/-- What `int(value)` raises and no bound catches. -/
inductive Escaped where
  | overflowError

/-- `_RECOVERY_RETRY_MAX_ATTEMPTS`. -/
def recoveryRetryDefault : ℕ := 6

/-- `_FOLLOWUP_RECOVERY_DEFAULT_MAX_ATTEMPTS`. -/
def followupRecoveryDefault : ℕ := max (recoveryRetryDefault * 4) 24

/-- `_PRESUBMIT_RECOVERY_DEFAULT_MAX_ATTEMPTS`. -/
def presubmitRecoveryDefault : ℕ := max (recoveryRetryDefault * 4) 24

def boundOf (digit : Char → Option ℕ) (params : Fields) (name : Text) (default : ℕ) :
    Except Escaped ℕ :=
  match params.get? name with
  | none => .ok default
  | some (.scalar (.bool _)) => .ok default
  | some value =>
    match integerOf digit value with
    | .value number => .ok (if 0 < number then number.toNat else default)
    | .invalid => .ok default
    | .overflow => .error .overflowError

variable (digit : Char → Option ℕ)

def recoveryRetryMaxAttempts (params : Fields) : Except Escaped ℕ :=
  boundOf digit params "provider-session-recovery-max-attempts".toList recoveryRetryDefault

def recoveryFollowupMaxAttempts (params : Fields) : Except Escaped ℕ :=
  boundOf digit params "provider-session-followup-recovery-max-attempts".toList
    followupRecoveryDefault

def recoveryPresubmitMaxAttempts (params : Fields) : Except Escaped ℕ :=
  boundOf digit params "provider-session-presubmit-recovery-max-attempts".toList
    presubmitRecoveryDefault

/-! ## A deferral and what is known with it -/

structure RecoveryDeferred where
  error : ErrorValue
  phase : String
  sideEffectState : String
  continuation : Option Doc

namespace RecoveryDeferred

/-- `wait_for_previous_turn`. -/
def waitsForPreviousTurn (deferred : RecoveryDeferred) : Bool :=
  decide (deferred.phase = "presubmit-reconcile") &&
    decide (deferred.sideEffectState = "not-started")

/-- `followup_reconciliation`. -/
def followsUp (deferred : RecoveryDeferred) : Bool :=
  decide (deferred.phase = "followup-reconcile")

end RecoveryDeferred

/-- The queued entry whose runner was called. -/
structure QueueEntry where
  isNode : Bool
  ownerEpoch : Option String
  placement : Option NodePlacement
  /-- `snapshot.execution_params`. -/
  params : Fields

/-- What `_run_one` knows beside the entry and the current record. -/
structure Situation where
  recoveredRunning : Bool
  /-- `_has_durable_provider_identity`. -/
  durableIdentity : Bool
  /-- `_durable_provider_session_is_active`. -/
  durableActive : Bool
  /-- `provider-metadata.submission-proven`. -/
  submissionProven : Bool
  identity : OwnedIdentity
  now : Timestamp

/-- The attempt that this deferral ends: `recovery.attempt` and one more. -/
def recoveryAttempt (current : Record) : ℕ := (current.recovery.bind Recovery.attempt).getD 0 + 1

def followupAttempt (deferred : RecoveryDeferred) (current : Record) : ℕ :=
  (current.recovery.bind Recovery.followupAttempt).getD 0 + if deferred.followsUp then 1 else 0

/-- `effective_recovery_max_attempts`: the bound of the phase. -/
def effectiveMaxAttempts (params : Fields) (deferred : RecoveryDeferred) : Except Escaped ℕ :=
  if deferred.followsUp then recoveryFollowupMaxAttempts digit params
  else if deferred.waitsForPreviousTurn then recoveryPresubmitMaxAttempts digit params
  else recoveryRetryMaxAttempts digit params

def durableSession (situation : Situation) (current : Record) : Bool :=
  decide (current.admission.providerTransportKind = .providerSession) &&
    situation.durableIdentity && situation.durableActive

def conversationLoadReconciliation (situation : Situation) (deferred : RecoveryDeferred)
    (current : Record) : Bool :=
  decide (deferred.phase = "conversation-load-reconcile") && durableSession situation current

def durableProviderRecovery (situation : Situation) (current : Record) : Bool :=
  situation.recoveredRunning && durableSession situation current

def promptUnavailableRecovery (deferred : RecoveryDeferred) : Bool :=
  decide (deferred.error.code = some "RES-AGW-004") && decide (deferred.phase = "rehydrate-retry")

/-! ## The disposition -/

/-- `details` of the error of an exhausted recovery. -/
structure ExhaustedDetails where
  recoveryAttempt : ℕ
  recoveryMaxAttempts : ℕ
  recoveryPhase : String
  sideEffectState : String
  sessionFenceState : Option String
  submissionProven : Bool
  rootRecoveryError : BoundedError

/-- A recovery as a diagnosis names it; an absent key is `none`. -/
structure Diagnosis where
  lastErrorCode : Option String
  lastError : Option String
  phase : Option String
  sideEffectState : Option String
  attempt : Option ℕ
deriving DecidableEq

/-- What `_run_one` does with a deferral. -/
inductive Disposition where
  | deferNode
  | cancel (fresh : Diagnosis) (prior : Option Diagnosis)
  | interrupt (details : ExhaustedDetails)
  | retry

/-- The cancellation of a request that is not in a provider session wins over its recovery. -/
def cancelsRecovery (current : Record) : Bool :=
  current.cancelRequested && decide (current.state = .running) &&
    decide (current.admission.providerTransportKind ≠ .providerSession)

def freshDiagnosis (deferred : RecoveryDeferred) : Diagnosis where
  lastErrorCode := deferred.error.code
  lastError := some (clip 512 (deferred.error.message.getD deferred.error.text))
  phase := some deferred.phase
  sideEffectState := some deferred.sideEffectState
  attempt := none

def priorDiagnosis (current : Record) : Option Diagnosis :=
  (current.recovery.map fun recovery =>
    ⟨recovery.lastErrorCode, recovery.lastError, recovery.phase, recovery.sideEffectState,
      recovery.attempt⟩).filter fun diagnosis => diagnosis ≠ ⟨none, none, none, none, none⟩

/-- The exhaustion test of `_run_one`. -/
def exhausted (situation : Situation) (deferred : RecoveryDeferred) (current : Record)
    (generic followup : ℕ) : Bool :=
  let followupExhausted :=
    deferred.followsUp && decide (followup ≤ followupAttempt deferred current)
  (decide (generic ≤ recoveryAttempt current) && !deferred.followsUp || followupExhausted) &&
    !conversationLoadReconciliation situation deferred current &&
    !(durableProviderRecovery situation current && !promptUnavailableRecovery deferred &&
      !followupExhausted)

variable (projections : Projections)

def exhaustedDetails (situation : Situation) (deferred : RecoveryDeferred) (current : Record)
    (effective : ℕ) : ExhaustedDetails where
  recoveryAttempt := recoveryAttempt current
  recoveryMaxAttempts := effective
  recoveryPhase := deferred.phase
  sideEffectState := deferred.sideEffectState
  sessionFenceState :=
    if deferred.followsUp && present current.results.sessionId then
      some "manual-reconcile-required"
    else none
  submissionProven := situation.submissionProven
  rootRecoveryError := projections.boundedRecoveryError deferred.error

/-- What `_run_one` does when its runner raises `RecoveryDeferred`. -/
def disposition (entry : QueueEntry) (situation : Situation) (deferred : RecoveryDeferred)
    (current : Record) : Except Escaped Disposition := do
  if entry.isNode then return .deferNode
  else if cancelsRecovery current then
    return .cancel (freshDiagnosis deferred) (priorDiagnosis current)
  else do
    let generic ← recoveryRetryMaxAttempts digit entry.params
    let followup ← recoveryFollowupMaxAttempts digit entry.params
    let effective ← effectiveMaxAttempts digit entry.params deferred
    if exhausted situation deferred current generic followup then
      return .interrupt (exhaustedDetails projections situation deferred current effective)
    else return .retry

/-! ## The bound that is honoured -/

def usedAttempt (deferred : RecoveryDeferred) (current : Record) : ℕ :=
  if deferred.followsUp then followupAttempt deferred current else recoveryAttempt current

/-- An interruption reports the bound of its phase, and its count has reached that bound. -/
def Honours (entry : QueueEntry) (situation : Situation) (deferred : RecoveryDeferred)
    (current : Record) : Prop :=
  ∀ details, disposition digit projections entry situation deferred current =
      .ok (.interrupt details) →
    effectiveMaxAttempts digit entry.params deferred = .ok details.recoveryMaxAttempts ∧
      details.recoveryAttempt = recoveryAttempt current ∧
      details.recoveryMaxAttempts ≤ usedAttempt deferred current

/-- A turn that has sent nothing and waits for its predecessor has used up the generic bound but
not its own, and nothing exempts it. -/
def Premature (entry : QueueEntry) (situation : Situation) (deferred : RecoveryDeferred)
    (current : Record) : Prop :=
  entry.isNode = false ∧ cancelsRecovery current = false ∧
    deferred.waitsForPreviousTurn = true ∧ durableProviderRecovery situation current = false ∧
    ∃ generic followup presubmit, recoveryRetryMaxAttempts digit entry.params = .ok generic ∧
      recoveryFollowupMaxAttempts digit entry.params = .ok followup ∧
      recoveryPresubmitMaxAttempts digit entry.params = .ok presubmit ∧
      generic ≤ recoveryAttempt current ∧ recoveryAttempt current < presubmit

variable {digit projections}

variable {deferred : RecoveryDeferred} {current : Record} {entry : QueueEntry}
  {situation : Situation}

/-- **What an interruption means.** -/
theorem disposition_interrupt {details : ExhaustedDetails} :
    disposition digit projections entry situation deferred current = .ok (.interrupt details) ↔
      entry.isNode = false ∧ cancelsRecovery current = false ∧
        ∃ generic followup effective, recoveryRetryMaxAttempts digit entry.params = .ok generic ∧
          recoveryFollowupMaxAttempts digit entry.params = .ok followup ∧
          effectiveMaxAttempts digit entry.params deferred = .ok effective ∧
          exhausted situation deferred current generic followup = true ∧
          details = exhaustedDetails projections situation deferred current effective := by
  unfold disposition
  cases node : entry.isNode with
  | true => simp [pure, Except.pure]
  | false =>
    cases cancels : cancelsRecovery current with
    | true => simp [pure, Except.pure]
    | false =>
      simp only [Bool.false_eq_true, if_false, bind_eq_ok, true_and]
      constructor
      · rintro ⟨generic, bound, followup, bound', effective, bound'', ended⟩
        split at ended
        next holds =>
          cases ended
          exact ⟨generic, followup, effective, bound, bound', bound'', holds, rfl⟩
        · cases ended
      · rintro ⟨generic, followup, effective, bound, bound', bound'', holds, rfl⟩
        exact ⟨generic, bound, followup, bound', effective, bound'', by rw [if_pos holds]; rfl⟩

theorem followsUp_of_waits (waits : deferred.waitsForPreviousTurn = true) :
    deferred.followsUp = false ∧ promptUnavailableRecovery deferred = false ∧
      ∀ situation current, conversationLoadReconciliation situation deferred current = false := by
  simp only [RecoveryDeferred.waitsForPreviousTurn, Bool.and_eq_true, decide_eq_true_eq] at waits
  simp [RecoveryDeferred.followsUp, promptUnavailableRecovery, conversationLoadReconciliation,
    waits.1]

theorem exhausted_of_waits {generic followup : ℕ} (waits : deferred.waitsForPreviousTurn = true) :
    exhausted situation deferred current generic followup = true ↔
      generic ≤ recoveryAttempt current ∧ durableProviderRecovery situation current = false := by
  obtain ⟨follows, unavailable, load⟩ := followsUp_of_waits waits
  simp [exhausted, follows, unavailable, load]

theorem reached_of_exhausted {generic followup : ℕ}
    (holds : exhausted situation deferred current generic followup = true) :
    (if deferred.followsUp then followup else generic) ≤ usedAttempt deferred current := by
  cases follows : deferred.followsUp with
  | true =>
    simp only [exhausted, follows, Bool.and_eq_true, Bool.or_eq_true, Bool.not_true,
      decide_eq_true_eq] at holds
    simpa [usedAttempt, follows] using holds.1.1
  | false =>
    simp only [exhausted, follows, Bool.and_eq_true, Bool.or_eq_true, Bool.not_false,
      decide_eq_true_eq] at holds
    simpa [usedAttempt, follows] using holds.1.1

/-- **The interruptions that do not honour their bound.** -/
theorem honours_iff :
    Honours digit projections entry situation deferred current ↔
      ¬ Premature digit entry situation deferred current := by
  constructor
  · rintro honours ⟨local_, keeps, waits, fragile, generic, followup, presubmit, bound, bound',
      bound'', reached, early⟩
    obtain ⟨follows, -, -⟩ := followsUp_of_waits waits
    have effective : effectiveMaxAttempts digit entry.params deferred = .ok presubmit := by
      rw [effectiveMaxAttempts, follows, if_neg (by simp), if_pos waits, bound'']
    obtain ⟨_, _, used⟩ := honours _ (disposition_interrupt.mpr ⟨local_, keeps, generic, followup,
      presubmit, bound, bound', effective, (exhausted_of_waits waits).mpr ⟨reached, fragile⟩, rfl⟩)
    change presubmit ≤ usedAttempt deferred current at used
    rw [usedAttempt, follows, if_neg (by simp)] at used
    exact absurd used (not_le.mpr early)
  · intro timely details ended
    obtain ⟨local_, keeps, generic, followup, effective, bound, bound', bound'', holds, rfl⟩ :=
      disposition_interrupt.mp ended
    refine ⟨bound'', rfl, ?_⟩
    change effective ≤ usedAttempt deferred current
    have reached := reached_of_exhausted holds
    rw [effectiveMaxAttempts] at bound''
    cases follows : deferred.followsUp with
    | true =>
      rw [follows, if_pos rfl] at bound'' reached
      rw [bound'] at bound''
      cases bound''
      exact reached
    | false =>
      rw [follows, if_neg (by simp)] at bound'' reached
      cases waits : deferred.waitsForPreviousTurn with
      | false =>
        rw [waits, if_neg (by simp), bound] at bound''
        cases bound''
        exact reached
      | true =>
        rw [waits, if_pos rfl] at bound''
        obtain ⟨passed, fragile⟩ := (exhausted_of_waits waits).mp holds
        rw [usedAttempt, follows, if_neg (by simp)]
        by_contra early
        exact timely ⟨local_, keeps, waits, fragile, generic, followup, effective, bound,
          bound', bound'', passed, not_le.mp early⟩

/-! ## Runs -/

/-- What the queue calls on the way, and the documents it writes. -/
structure RecoveryHost where
  /-- The decimal digits that `int` reads. -/
  digit : Char → Option ℕ
  projections : Projections
  hashing : Hashing
  /-- `_recovery_retry_delay`. -/
  retryDelay : Fields → ℕ → Int
  sanitizeNodeError : ErrorValue → ErrorValue
  exhaustedDocument : ExhaustedDetails → Doc
  cancelledDocument : RecoveryDeferred → Diagnosis → Option Diagnosis → Doc

variable (host : RecoveryHost)

/-- The side effect state that `_defer_node` derives from the dispatch. -/
def nodeSideEffect : Option NodeDispatch → String
  | none => "not-started"
  | some dispatch =>
    if dispatch.receiptStage = some .terminal then "terminal-evidence-seen"
    else "may-have-started"

def deferNode (entry : QueueEntry) (situation : Situation) (deferred : RecoveryDeferred)
    (current : Record) : Record :=
  if (current.state = .queued ∨ current.state = .running) ∧
      current.dispatchOwnerEpoch = entry.ownerEpoch ∧
      current.admission.nodePlacement = entry.placement ∧
      current.workerId = situation.identity.workerId ∧
      (current.attemptEpoch : Int) = situation.identity.attemptEpoch then
    ((deferOwnedRecovery host.projections ⟨entry.ownerEpoch, current.workerId, current.attemptEpoch⟩
      { error := some (host.sanitizeNodeError deferred.error)
        phase := deferred.phase
        sideEffectState := nodeSideEffect current.nodeDispatch
        retryDelaySeconds := none
        continuation := none
        allowQueued := decide (current.state = .queued)
        expectedRevision := some current.revision } situation.now).run current).1
  else current

def cancelledError (deferred : RecoveryDeferred) (fresh : Diagnosis) (prior : Option Diagnosis) :
    ErrorValue where
  isMapping := true
  code := some "CON-AGW-CANCELLED"
  kind := some "agents"
  message := some "gateway request cancelled during recovery"
  details := some (host.cancelledDocument deferred fresh prior)
  watchdogClassification := none
  text := ""

def exhaustedError (details : ExhaustedDetails) : ErrorValue where
  isMapping := true
  code := some "CON-AGW-084"
  kind := some "agents"
  message :=
    some "bounded provider-session recovery exhausted; provider outcome remains unresolved"
  details := some (host.exhaustedDocument details)
  watchdogClassification := none
  text := ""

def exhaustedRecovery (previous : Recovery) (deferred : RecoveryDeferred) : Recovery :=
  { previous with
    outcome := .boundedRecoveryExhausted
    phase := some deferred.phase
    sideEffectState := some deferred.sideEffectState
    nextRetryAt := none
    retryDelaySeconds := some 0 }

def interruptExhausted (situation : Situation) (deferred : RecoveryDeferred) (current : Record)
    (details : ExhaustedDetails) : Operation :=
  let write (recovery : Option Recovery) : Operation :=
    transitionOwnedTerminal host.projections current.admission.requestId .interrupted
      situation.identity
      [.result (.error (some (exhaustedError host details))),
        .result (.finishedAt (some situation.now)), .result (.recovery recovery)]
      none situation.now
  match current.recovery with
  | some previous => write (some (exhaustedRecovery previous deferred))
  -- Metadata without a reason does not pass the schema.
  | none =>
    { write none with
      body := fun _ => .error (agentsErrorWith "VAL-AGW-004"
        "gateway request record failed schema validation" [("issues", .names ["recovery"])]) }

def retryRecovery (entry : QueueEntry) (situation : Situation) (deferred : RecoveryDeferred)
    (current : Record) : Operation :=
  deferOwnedRecovery host.projections situation.identity
    { error := some deferred.error
      phase := deferred.phase
      sideEffectState := deferred.sideEffectState
      retryDelaySeconds := some (host.retryDelay entry.params (recoveryAttempt current))
      continuation := deferred.continuation
      allowQueued := decide (current.state = .queued)
      expectedRevision := none } situation.now

def afterDeferral (entry : QueueEntry) (situation : Situation) (deferred : RecoveryDeferred)
    (current : Record) : Record :=
  match disposition host.digit host.projections entry situation deferred current with
  | .error _ => current
  | .ok .deferNode => deferNode host entry situation deferred current
  | .ok (.cancel fresh prior) =>
    ((transitionOwnedTerminal host.projections current.admission.requestId .cancelled
      situation.identity
      [.result (.error (some (cancelledError host deferred fresh prior))),
        .result (.finishedAt (some situation.now))] none situation.now).run current).1
  | .ok (.interrupt details) =>
    ((interruptExhausted host situation deferred current details).run current).1
  | .ok .retry => ((retryRecovery host entry situation deferred current).run current).1

/-- What happens to a request: its runner defers, or any store operation runs on its record. -/
inductive RecoveryEvent where
  | deferred (situation : Situation) (deferred : RecoveryDeferred)
  | store (op : StoreOp)

def recoveryStep (entry : QueueEntry) (current : Record) : RecoveryEvent → Record
  | .deferred situation deferred => afterDeferral host entry situation deferred current
  | .store op => ((op.operation host.projections host.hashing).run current).1

def BudgetHonoured (entry : QueueEntry) (current : Record) : RecoveryEvent → Prop
  | .deferred situation deferred =>
    Honours host.digit host.projections entry situation deferred current
  | .store _ => True

def Timely (entry : QueueEntry) (current : Record) : RecoveryEvent → Prop
  | .deferred situation deferred => ¬ Premature host.digit entry situation deferred current
  | .store _ => True

variable {host}

theorem budgetHonoured_iff {event : RecoveryEvent} :
    BudgetHonoured host entry current event ↔ Timely host entry current event := by
  cases event with
  | deferred situation deferred => exact honours_iff
  | store op => exact Iff.rfl

/-- A waiting bound that is not above the generic one leaves no premature interruption. -/
theorem timely_of_bounds
    (ordered : ∀ generic presubmit, recoveryRetryMaxAttempts host.digit entry.params = .ok generic →
      recoveryPresubmitMaxAttempts host.digit entry.params = .ok presubmit → presubmit ≤ generic)
    (current : Record) (event : RecoveryEvent) : Timely host entry current event := by
  cases event with
  | store op => trivial
  | deferred situation deferred =>
    rintro ⟨_, _, _, _, generic, _, presubmit, bound, _, bound', reached, early⟩
    have := ordered generic presubmit bound bound'
    omega

/-- **The recovery budget.**  In a run of deferrals and store operations, every interruption
reports the bound of its phase and has reached it, exactly when no deferral of the run is
premature.  None is, in any run, when the bound of waiting turns is not above the generic one. -/
theorem recovery_budget_honoured_iff (host : RecoveryHost) (entry : QueueEntry) :
    (∀ (start : Record) (events : List RecoveryEvent),
      Admissible (recoveryStep host entry) (BudgetHonoured host entry) start events ↔
        Admissible (recoveryStep host entry) (Timely host entry) start events) ∧
      ((∀ generic presubmit, recoveryRetryMaxAttempts host.digit entry.params = .ok generic →
          recoveryPresubmitMaxAttempts host.digit entry.params = .ok presubmit →
            presubmit ≤ generic) →
        ∀ (start : Record) (events : List RecoveryEvent),
          Admissible (recoveryStep host entry) (BudgetHonoured host entry) start events) := by
  have same : ∀ (start : Record) (events : List RecoveryEvent),
      Admissible (recoveryStep host entry) (BudgetHonoured host entry) start events ↔
        Admissible (recoveryStep host entry) (Timely host entry) start events := by
    intro start events
    exact @admissible_congr _ _ _ _ _ (fun _ => True) (fun _ _ _ _ => trivial)
      (fun _ _ _ => budgetHonoured_iff) _ trivial events
  refine ⟨same, fun ordered start events => (same start events).mpr ?_⟩
  exact admissible_of_forall (timely_of_bounds ordered) start events

/-! ## A premature interruption -/

/-- A host that writes no details and retries at once. -/
def plainRecoveryHost : RecoveryHost where
  digit _ := none
  projections := .plain
  hashing := .constant
  retryDelay _ _ := 1
  sanitizeNodeError error := error
  exhaustedDocument _ := ""
  cancelledDocument _ _ _ := ""

/-- An entry without parameters of its own. -/
def plainEntry : QueueEntry := ⟨false, some "g1", none, ∅⟩

/-- A worker's attempt, in no provider session. -/
def plainSituation : Situation := ⟨false, false, false, false, ⟨some "g1", some "w1", 1⟩, 5⟩

/-- The turn before is not resolved. -/
def waitingDeferral : RecoveryDeferred where
  error := ⟨true, some "EXT-GPTAUTO-004", some "providers", some "previous turn remains unresolved",
    none, none, ""⟩
  phase := "presubmit-reconcile"
  sideEffectState := "not-started"
  continuation := none

def attemptedRecord : Record :=
  { buildRecord sampleAdmission "" [] none with
    state := .running
    workerId := some "w1"
    attemptEpoch := 1
    dispatchOwnerEpoch := some "g1" }

/-- **The sixth of twenty-four attempts is the last.** -/
theorem presubmit_wait_interrupted_early :
    let run := List.replicate 6 (RecoveryEvent.deferred plainSituation waitingDeferral)
    let before := exec (recoveryStep plainRecoveryHost plainEntry) attemptedRecord (run.take 5)
    (exec (recoveryStep plainRecoveryHost plainEntry) attemptedRecord run).state = .interrupted ∧
      recoveryAttempt before = 6 ∧
      effectiveMaxAttempts plainRecoveryHost.digit plainEntry.params waitingDeferral = .ok 24 ∧
      ¬ Admissible (recoveryStep plainRecoveryHost plainEntry)
        (BudgetHonoured plainRecoveryHost plainEntry) attemptedRecord run := by
  intro run before
  have attempt : recoveryAttempt before = 6 := by decide +kernel
  refine ⟨by decide +kernel, attempt, rfl, fun honoured => ?_⟩
  have split : run = run.take 5 ++ [.deferred plainSituation waitingDeferral] := rfl
  rw [split, admissible_append] at honoured
  have last : Honours plainRecoveryHost.digit plainRecoveryHost.projections plainEntry
      plainSituation waitingDeferral before := honoured.2.1
  refine honours_iff.mp last ⟨rfl, by decide +kernel, rfl, by decide +kernel, 6, 24, 24, rfl, rfl,
    rfl, ?_, ?_⟩
  · rw [attempt]
  · rw [attempt]
    decide

end Audiagentic.Queue
