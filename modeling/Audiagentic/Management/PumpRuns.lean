import Audiagentic.Management.PumpProgress

/-!
# Management operations over whole runs

Any calls on one store, each of them cut off after any of its effects.  Operations are executed
once, end once and stay as they ended, in every run.  The pump reaches them as long as no directory
is left without a record: by a call on an operation that was never created, or by a creation that
is cut off between the lock and the record.
-/

namespace Audiagentic.Management

open Foundations List OrderedDict Script

section Runs

variable (host : OperationHost)

/-! ## The property -/

def Reaches (tape : OperationTape) : Prop :=
  ∀ (executor : Executor) (ownerEpoch : String) (limit : ℕ), ownerEpoch ≠ "" → 0 < limit →
    ∃ after, Reached host executor ownerEpoch limit tape after

/-- **Management operations run once, and are reached.** -/
structure RunsOnce (tape : OperationTape) : Prop where
  claimed : (claims tape.writes).Nodup
  executed : (executions tape.writes).Sublist (claims tape.writes)
  /-- An operation is ended by the owner that holds it, and not written again. -/
  finished : ∀ before ownerEpoch operation after,
    tape.writes = before ++ .finish ownerEpoch operation :: after →
      (∃ held, (replay before).get? operation.operationId = some (some held) ∧
        held.state = .running ∧ held.ownerEpoch = some ownerEpoch) ∧
      ∀ effect ∈ after, ∀ record, effect.written? = some record →
        record.operationId ≠ operation.operationId
  /-- An operation that ended stays as it ended. -/
  terminal : ∀ before after, tape.writes = before ++ after → ∀ operationId operation,
    (replay before).get? operationId = some (some operation) →
      operation.state.isTerminal = true →
        tape.store.get? operationId = some (some operation)
  /-- A result or an error is there when the operation was ended, and not before. -/
  outcome : ∀ operationId operation, tape.store.get? operationId = some (some operation) →
    if operation.state.isTerminal then ∃ ownerEpoch, .finish ownerEpoch operation ∈ tape.writes
    else operation.result = none ∧ operation.error = none
  created : ∀ command localOnly operationId intent existing,
    ManagementCommand.admit command localOnly = .ok (operationId, intent) →
      tape.store.get? operationId = some (some existing) →
        (create host command localOnly).run tape =
          (if host.intentDigest existing.intent = host.intentDigest intent then .ok existing
            else .error "CON-AGM-001", tape)
  reaches : Reaches host tape

variable {host}

theorem reaches_iff_recorded {tape : OperationTape} (sound : Sound host tape) :
    Reaches host tape ↔ Recorded tape.store := by
  constructor
  · intro reaches operationId bare
    obtain ⟨after, reached⟩ := reaches (fun _ => none) "g1" 1 (by decide) Nat.one_pos
    obtain ⟨⟨⟩, middle, recovered, -⟩ := Script.bind_eq_ok.mp reached.returns
    rw [run_recoverPriorOwnerClaims host (by decide)] at recovered
    refine recorded_of_run_sweep host sound recovered operationId ?_ bare
    rw [mem_sortedIds, bare]
    rfl
  · intro recorded executor ownerEpoch limit stated positive
    obtain ⟨after, reached, -⟩ :=
      runOnce_reaches host (sound.orderly recorded) executor stated positive
    exact ⟨after, reached⟩

theorem runsOnce_iff_recorded {tape : OperationTape} (sound : Sound host tape) :
    RunsOnce host tape ↔ Recorded tape.store := by
  rw [← reaches_iff_recorded sound]
  refine ⟨RunsOnce.reaches, fun reaches => ⟨claims_nodup sound.justified,
    executions_sublist_claims sound.justified, ?_, ?_, ?_, ?_, reaches⟩⟩
  · intro before ownerEpoch operation after split
    have guarded := sound.justified
    obtain ⟨held, outcome, there, running, mine, same⟩ :=
      guarded before (.finish ownerEpoch operation) after split
    refine ⟨⟨held, there, running, mine⟩, ?_⟩
    have ended : operation.state.isTerminal = true := by
      rw [same]
      cases outcome <;> rfl
    rw [split, ← singleton_append, ← append_assoc] at guarded
    refine (terminal_stays guarded ?_ ended).2
    rw [replay_concat]
    exact get?_set_self _ _ _
  · intro before after split operationId operation there ended
    have guarded := sound.justified
    rw [split] at guarded
    rw [sound.store, split]
    exact (terminal_stays guarded there ended).1
  · intro operationId operation there
    have consistent := consistent_of_replay sound.justified (sound.held there).1
    split
    next ended => exact consistent.ended ended
    next isOpen => exact consistent.outcome (Bool.eq_false_iff.mpr isOpen)
  · intro command localOnly operationId intent existing admitted there
    have consistent := consistent_of_replay sound.justified (sound.held there).1
    rw [run_create host admitted, there, ← consistent.intentDigest]
    simp only
    split <;> rfl

/-! ## The condition -/

/-- The operation whose directory a call makes where it is not there. -/
def ManagementCall.enters : ManagementCall → Option OperationId
  | .create command localOnly => command.admit localOnly |>.toOption.map Prod.fst
  | .read text => (requireId text).toOption
  | .claim text ownerEpoch => if ownerEpoch = "" then none else (requireId text).toOption
  | .finish text _ _ _ => (requireId text).toOption
  | .fail text _ _ => (requireId text).toOption
  | .recoverPriorOwnerClaims _ => none
  | .runOnce _ _ _ => none

def ManagementCall.isCreate : ManagementCall → Bool
  | .create _ _ => true
  | _ => false

/-- **The condition on a call.**  A call on an operation whose directory is not there is a creation
that is not cut off right after the lock, or is cut off before everything. -/
def Unblocking (tape : OperationTape) (call : ManagementCall × Option ℕ) : Prop :=
  ∀ operationId, call.1.enters = some operationId → tape.store.get? operationId = none →
    call.2 = some 0 ∨ call.1.isCreate = true ∧ call.2 ≠ some 1

theorem requireId_toOption {text : Text} {operationId : OperationId}
    (valid : (requireId text).toOption = some operationId) : text = operationId.1 := by
  unfold requireId at valid
  split at valid
  · cases valid
    rfl
  · cases valid

theorem requireId_of_none {text : Text} (invalid : (requireId text).toOption = none) :
    requireId text = .error "VAL-AGM-003" := by
  cases required : requireId text with
  | ok operationId =>
    rw [required] at invalid
    cases invalid
  | error code =>
    unfold requireId at required
    split at required
    · cases required
    · exact required.symm

theorem run_dropped {α : Type} (script : OperationScript α) (tape : OperationTape) :
    (script.dropped.run tape).2 = (script.run tape).2 :=
  run_bind_of_reads (fun _ _ => rfl) tape

theorem requireId_cases (text : Text) :
    requireId text = .error "VAL-AGM-003" ∨ ∃ operationId : OperationId, text = operationId.1 ∧
      (requireId text).toOption = some operationId := by
  cases valid : (requireId text).toOption with
  | none => exact .inl (requireId_of_none valid)
  | some operationId => exact .inr ⟨operationId, requireId_toOption valid, rfl⟩

/-! ### Calls on operations that are there -/

theorem run_dispatch_of_unstated (executor : Executor) (candidate : Operation)
    (tape : OperationTape) :
    (dispatch host executor "" candidate).run tape = (.error "VAL-AGM-002", tape) := by
  refine run_bind_of_error ?_
  unfold claim
  rw [requireId_eq, run_check_ok_bind, refuse_of rfl]
  rfl

theorem passes_runOnce {tape : OperationTape} (orderly : Orderly tape.store) (executor : Executor)
    (ownerEpoch : String) (limit : ℕ) :
    PassesOrderly tape ((runOnce host executor ownerEpoch limit).run tape).2 := by
  by_cases stated : ownerEpoch = ""
  · have recovers : (recoverPriorOwnerClaims host ownerEpoch).run tape = (.ok (), tape) := by
      rw [stated]
      rfl
    rw [runOnce, run_bind_of_ok recovers]
    have lists := run_listDispatchable limit tape
    by_cases zero : limit = 0
    · rw [if_pos zero] at lists
      rw [run_bind_of_error lists]
      exact .refl orderly
    rw [if_neg zero] at lists
    rw [run_bind_of_ok lists, stated]
    cases ((sortedIds tape.store).filterMap (dispatchable? tape.store)).take limit with
    | nil => exact .refl orderly
    | cons candidate rest =>
      have refused := @run_dispatch_of_unstated host executor candidate tape
      exact (congrArg Prod.snd (run_bind_of_error refused)).symm ▸ .refl orderly
  · rcases Nat.eq_zero_or_pos limit with zero | positive
    · obtain ⟨swept, first, passes, -, -⟩ := run_sweep host orderly ownerEpoch
        (fun operationId member => mem_sortedIds.mp member) (nodup_sortedIds tape.store)
      rw [runOnce, run_bind_of_ok ((run_recoverPriorOwnerClaims host stated).trans first)]
      have refused := run_listDispatchable limit swept
      rw [if_pos zero] at refused
      rw [run_bind_of_error refused]
      exact passes
    · obtain ⟨after, reached, passes⟩ := runOnce_reaches host orderly executor stated positive
      rw [reached.returns]
      exact passes

/-- A call on an operation that is there goes through stores of records only. -/
theorem passes_of_present {tape : OperationTape} (orderly : Orderly tape.store)
    {call : ManagementCall} (present : ∀ operationId, call.enters = some operationId →
      tape.store.get? operationId ≠ none) :
    PassesOrderly tape ((call.script host).run tape).2 := by
  have finishes : ∀ text ownerEpoch result error,
      (∀ operationId, (requireId text).toOption = some operationId →
        tape.store.get? operationId ≠ none) →
      PassesOrderly tape ((finish host text ownerEpoch result error).run tape).2 := by
    intro text ownerEpoch result error present
    obtain refused | ⟨operationId, rfl, named⟩ := requireId_cases text
    · unfold finish
      rw [refused]
      exact .refl orderly
    rw [run_finish]
    split
    · split
      · split
        next outcome _ => exact .write _ (.refl orderly) (orderly.set _)
        next => exact .refl orderly
      · exact .refl orderly
    · exact .refl orderly
    next absent => exact absurd absent (present operationId named)
  cases call with
  | create command localOnly =>
    rw [ManagementCall.script, run_dropped]
    cases admitted : command.admit localOnly with
    | error code =>
      unfold create
      rw [admitted]
      exact .refl orderly
    | ok pair =>
      obtain ⟨operationId, intent⟩ := pair
      rw [run_create host admitted]
      split
      · split <;> exact .refl orderly
      next other =>
        rcases there : tape.store.get? operationId with _ | _ | existing
        · refine absurd there (present operationId ?_)
          rw [ManagementCall.enters, admitted]
          rfl
        · exact absurd there (orderly.recorded operationId)
        · exact absurd there (other existing)
  | read text =>
    rw [ManagementCall.script, run_dropped]
    obtain refused | ⟨operationId, rfl, named⟩ := requireId_cases text
    · unfold readOperation
      rw [refused]
      exact .refl orderly
    rw [run_readOperation]
    split
    · exact .refl orderly
    · exact .refl orderly
    next absent => exact absurd absent (present operationId named)
  | claim text ownerEpoch =>
    rw [ManagementCall.script, run_dropped]
    obtain refused | ⟨operationId, rfl, named⟩ := requireId_cases text
    · unfold claim
      rw [refused]
      exact .refl orderly
    by_cases stated : ownerEpoch = ""
    · unfold claim
      rw [requireId_eq, run_check_ok_bind, refuse_of stated]
      exact .refl orderly
    rw [run_claim host stated]
    split
    · split
      · exact .write _ (.refl orderly) (orderly.set _)
      · exact .refl orderly
    · exact .refl orderly
    next absent =>
      refine absurd absent (present operationId ?_)
      rw [ManagementCall.enters, if_neg stated]
      exact named
  | finish text ownerEpoch result error =>
    rw [ManagementCall.script, run_dropped]
    exact finishes text ownerEpoch result error present
  | fail text ownerEpoch code =>
    rw [ManagementCall.script, run_dropped]
    exact finishes text ownerEpoch _ _ present
  | recoverPriorOwnerClaims ownerEpoch =>
    by_cases stated : ownerEpoch = ""
    · rw [stated]
      exact .refl orderly
    obtain ⟨swept, first, passes, -, -⟩ := run_sweep host orderly ownerEpoch
      (fun operationId member => mem_sortedIds.mp member) (nodup_sortedIds tape.store)
    rw [ManagementCall.script, run_recoverPriorOwnerClaims host stated, first]
    exact passes
  | runOnce executor ownerEpoch limit => exact passes_runOnce orderly executor ownerEpoch limit

/-! ### Calls on operations that are not there -/

/-- A call on an operation that is not there makes its directory, and the record if it creates. -/
theorem run_of_absent {tape : OperationTape} {call : ManagementCall} {operationId : OperationId}
    (enters : call.enters = some operationId) (absent : tape.store.get? operationId = none) :
    ((call.script host).run tape).2 = tape.record OperationStore.apply (.lock operationId) ∧
        call.isCreate = false ∨
      ∃ operation, operation.operationId = operationId ∧ call.isCreate = true ∧
        ((call.script host).run tape).2 =
          (tape.record OperationStore.apply (.lock operationId)).record OperationStore.apply
            (.accept operation) := by
  have finishes : ∀ text ownerEpoch result error, (requireId text).toOption = some operationId →
      ((finish host text ownerEpoch result error).run tape).2 =
        tape.record OperationStore.apply (.lock operationId) := by
    intro text ownerEpoch result error named
    rw [requireId_toOption named, run_finish, absent]
  cases call with
  | create command localOnly =>
    rw [ManagementCall.script, run_dropped]
    cases admitted : command.admit localOnly with
    | error code =>
      rw [ManagementCall.enters, admitted] at enters
      cases enters
    | ok pair =>
      obtain ⟨named, intent⟩ := pair
      rw [ManagementCall.enters, admitted] at enters
      obtain rfl : named = operationId := Option.some.inj enters
      have has : tape.store.has named = false := by
        rw [OrderedDict.has, absent]
        rfl
      refine .inr ⟨newOperation host named intent, rfl, rfl, ?_⟩
      rw [run_create host admitted, absent, entered, if_neg (by rw [has]; decide)]
  | read text =>
    refine .inl ⟨?_, rfl⟩
    rw [ManagementCall.script, run_dropped, requireId_toOption enters, run_readOperation, absent]
  | claim text ownerEpoch =>
    by_cases stated : ownerEpoch = ""
    · rw [ManagementCall.enters, if_pos stated] at enters
      cases enters
    rw [ManagementCall.enters, if_neg stated] at enters
    refine .inl ⟨?_, rfl⟩
    rw [ManagementCall.script, run_dropped, requireId_toOption enters, run_claim host stated,
      absent]
  | finish text ownerEpoch result error =>
    refine .inl ⟨?_, rfl⟩
    rw [ManagementCall.script, run_dropped]
    exact finishes text ownerEpoch result error enters
  | fail text ownerEpoch code =>
    refine .inl ⟨?_, rfl⟩
    rw [ManagementCall.script, run_dropped]
    exact finishes text ownerEpoch _ _ enters
  | recoverPriorOwnerClaims | runOnce => cases enters

/-! ### One call -/

/-- **The step lemma of the condition.**  From a store of records, a call leaves one exactly when it
meets the condition. -/
theorem recorded_step_iff {tape : OperationTape} (orderly : Orderly tape.store)
    (call : ManagementCall × Option ℕ) :
    Recorded (managementStep host tape call).store ↔ Unblocking tape call := by
  obtain ⟨call, cut⟩ := call
  by_cases entering : ∃ operationId, call.enters = some operationId ∧
      tape.store.get? operationId = none
  · obtain ⟨operationId, enters, absent⟩ := entering
    have condition : Unblocking tape (call, cut) ↔
        cut = some 0 ∨ call.isCreate = true ∧ cut ≠ some 1 := by
      refine ⟨fun met => met operationId enters absent, fun met other entered _ => ?_⟩
      exact met
    have bare : ¬ Recorded (tape.store.set operationId none) :=
      fun recorded => recorded operationId (get?_set_self _ _ _)
    rw [condition]
    obtain ⟨locks, reads⟩ | ⟨operation, named, creates, accepts⟩ :=
      @run_of_absent host tape call operationId enters absent
    · rw [reads]
      have effects : ∀ made, managementStep host tape (call, some made) =
          ⟨tape.writes ++ [.lock operationId].take made,
            exec OperationStore.apply tape.store ([.lock operationId].take made)⟩ := by
        intro made
        simp [managementStep, locks, Tape.record]
      rcases cut with _ | _ | made
      · refine iff_of_false ?_ (by simp)
        change ¬ Recorded ((call.script host).run tape).2.store
        rw [locks]
        exact bare
      · refine iff_of_true ?_ (by simp)
        rw [effects]
        exact orderly.recorded
      · refine iff_of_false ?_ (by simp)
        rw [effects, take_of_length_le (by simp)]
        exact bare
    · rw [creates]
      have effects : ∀ made, managementStep host tape (call, some made) =
          ⟨tape.writes ++ [.lock operationId, .accept operation].take made,
            exec OperationStore.apply tape.store
              ([.lock operationId, .accept operation].take made)⟩ := by
        intro made
        simp [managementStep, accepts, Tape.record]
      have whole : Recorded ((tape.store.set operationId none).set operation.operationId
          (some operation)) := by
        intro other bare
        rw [get?_set] at bare
        split at bare
        · cases bare
        next different =>
          rw [named] at different
          rw [get?_set_of_ne _ different] at bare
          exact orderly.recorded other bare
      rcases cut with _ | _ | _ | made
      · refine iff_of_true ?_ (by simp)
        change Recorded ((call.script host).run tape).2.store
        rw [accepts]
        exact whole
      · refine iff_of_true ?_ (by simp)
        rw [effects]
        exact orderly.recorded
      · refine iff_of_false ?_ (by simp)
        rw [effects]
        exact bare
      · refine iff_of_true ?_ (by simp)
        rw [effects, take_of_length_le (by simp)]
        exact whole
  · have present : ∀ operationId, call.enters = some operationId →
        tape.store.get? operationId ≠ none :=
      fun operationId enters absent => entering ⟨operationId, enters, absent⟩
    have passes := @passes_of_present host tape orderly call present
    refine ⟨fun _ operationId enters absent => absurd absent (present operationId enters), fun _ =>
      ?_⟩
    cases cut with
    | none => exact passes.last.recorded
    | some made =>
      obtain ⟨effects, writes, -, crashes⟩ := passes.crashes
      simp only [managementStep, writes, drop_left]
      exact (crashes made).recorded

/-! ## Whole runs -/

/-- **Management operations run once and are reached** all along a run exactly when its calls leave
no directory without a record. -/
theorem management_operations_run_once (host : OperationHost)
    (calls : List (ManagementCall × Option ℕ)) :
    (∀ first later, calls = first ++ later →
      RunsOnce host (exec (managementStep host) ⟨[], ∅⟩ first)) ↔
        Admissible (managementStep host) Unblocking ⟨[], ∅⟩ calls := by
  have exact_step : ∀ tape call, Sound host tape → RunsOnce host tape →
      (RunsOnce host (managementStep host tape call) ↔ Unblocking tape call) := by
    intro tape call sound once
    rw [runsOnce_iff_recorded (sound.step call)]
    exact recorded_step_iff (sound.orderly ((runsOnce_iff_recorded sound).mp once)) call
  have initially : RunsOnce host ⟨[], ∅⟩ :=
    (runsOnce_iff_recorded sound_empty).mpr fun _ bare => by cases bare
  exact admissible_iff_forall_prefix (fun _ call sound => sound.step call) exact_step sound_empty
    initially calls

end Runs

/-! An operation is created, and another one is asked for that never was. -/

section Blocked

private def sampleHost : OperationHost where
  intentDigest _ := ""
  now _ _ := "2026-10-29T00:00:00Z"

private def blockedCalls : List (ManagementCall × Option ℕ) :=
  [(.create ⟨"op_001".toList, .reconcile, .mapping [], none⟩ false, none),
    (.read "op_000".toList, none)]

/-- **A look at an unknown operation blocks the pump.** -/
theorem unknown_operation_blocks_pump :
    ¬ ∀ (host : OperationHost) (calls : List (ManagementCall × Option ℕ)),
      RunsOnce host (exec (managementStep host) ⟨[], ∅⟩ calls) := by
  intro claimed
  obtain ⟨after, reached⟩ := (claimed sampleHost blockedCalls).reaches (fun _ => none) "g1" 100
    (by decide) (by decide)
  have refused : ((runOnce sampleHost (fun _ => none) "g1" 100).run
      (exec (managementStep sampleHost) ⟨[], ∅⟩ blockedCalls)).1.toOption = none := by
    decide +kernel
  rw [reached.returns] at refused
  cases refused

end Blocked

end Audiagentic.Management
