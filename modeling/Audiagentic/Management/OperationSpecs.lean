import Audiagentic.Management.OperationStore

/-!
# What the calls on management operations do

One equation for each call, by what its directory holds: the record, the lock only, or nothing.
A call on a directory that is not there leaves one without a record, and raises.
-/

namespace Audiagentic.Management

open Foundations OrderedDict Script

section Specs

variable (host : OperationHost)

/-! ## The records that are written -/

/-- The record that `_transition` makes. -/
def Operation.moved (operation : Operation) (newState : OperationState) : Operation :=
  { operation with
    state := newState
    revision := operation.revision + 1
    updatedAt := host.now operation.operationId (operation.revision + 1) }

def Operation.claimed (operation : Operation) (operationId : OperationId) (ownerEpoch : String) :
    Operation :=
  { operation.moved host .running with
    ownerEpoch := some ownerEpoch
    startedAt := some (host.now operationId (operation.revision + 1)) }

/-- The record of a claim that is taken back. -/
def Operation.requeued (operation : Operation) : Operation :=
  { operation.moved host .accepted with
    ownerEpoch := none
    startedAt := none }

def Operation.finished (operation : Operation) (operationId : OperationId)
    (outcome : SafeMapping ⊕ OperationError) : Operation :=
  { operation.moved host (match outcome with | .inl _ => .completed | .inr _ => .failed) with
    result := outcome.getLeft?
    error := outcome.getRight?
    finishedAt := some (host.now operationId (operation.revision + 1)) }

theorem Operation.transition_of_mem {operation : Operation} {newState : OperationState}
    (allowed : newState ∈ operation.state.transitions) :
    operation.transition host newState = .ok (operation.moved host newState) := by
  rw [transition, refuse_of_not (not_not_intro allowed)]
  rfl

/-- What `finish` stores, of what it is given. -/
def finishOutcome (result : PyData) (error : PyEntries) :
    Except String (SafeMapping ⊕ OperationError) :=
  if error.isEmpty then
    (validateScope (if result.truthy then result else .mapping [])).map .inl
  else (validateError error).map .inr

/-! ## One equation for each call -/

variable {tape : OperationTape} {operationId : OperationId}

theorem run_lockDirectory_of_has {held : Option Operation}
    (there : tape.store.get? operationId = some held) :
    (lockDirectory operationId).run tape = (.ok (), tape) := by
  have has : tape.store.has operationId = true := by
    rw [OrderedDict.has, there]
    rfl
  change (if tape.store.has operationId then return () else emit (.lock operationId) :
    OperationScript Unit).run tape = _
  rw [if_pos has]
  rfl

theorem run_lockDirectory_of_none (absent : tape.store.get? operationId = none) :
    (lockDirectory operationId).run tape =
      (.ok (), tape.record OperationStore.apply (.lock operationId)) := by
  have has : tape.store.has operationId = false := by
    rw [OrderedDict.has, absent]
    rfl
  change (if tape.store.has operationId then return () else emit (.lock operationId) :
    OperationScript Unit).run tape = _
  rw [if_neg (by rw [has]; decide)]
  rfl

theorem run_current_bind {α : Type} (next : OperationStore → OperationScript α) :
    (current >>= next).run tape = (next tape.store).run tape := rfl

theorem run_readUnlocked_of_recorded {operation : Operation}
    (there : tape.store.get? operationId = some (some operation)) :
    (readUnlocked operationId).run tape = (.ok operation, tape) := by
  rw [readUnlocked, run_current_bind, there]
  rfl

theorem run_readUnlocked_of_bare
    (bare : (tape.store.get? operationId).join = none) :
    (readUnlocked operationId).run tape = (.error "RES-AGM-001", tape) := by
  rw [readUnlocked, run_current_bind]
  rcases there : tape.store.get? operationId with _ | _ | operation
  · rfl
  · rfl
  · rw [there] at bare
    cases bare

def entered (tape : OperationTape) (operationId : OperationId) : OperationTape :=
  if tape.store.has operationId then tape
  else tape.record OperationStore.apply (.lock operationId)

theorem requireId_eq (operationId : OperationId) : requireId operationId.1 = .ok operationId :=
  dif_pos operationId.2

theorem run_locked {α : Type} (next : Operation → OperationScript α) :
    (lockDirectory operationId >>= fun _ => readUnlocked operationId >>= next).run tape =
      match tape.store.get? operationId with
      | some (some operation) => (next operation).run tape
      | some none => (.error "RES-AGM-001", tape)
      | none => (.error "RES-AGM-001", tape.record OperationStore.apply (.lock operationId)) := by
  rcases there : tape.store.get? operationId with _ | _ | operation
  · rw [run_bind_of_ok (run_lockDirectory_of_none there)]
    refine run_bind_of_error (run_readUnlocked_of_bare ?_)
    change ((tape.store.set operationId none).get? operationId).join = none
    rw [get?_set_self]
    rfl
  · rw [run_bind_of_ok (run_lockDirectory_of_has there)]
    exact run_bind_of_error (run_readUnlocked_of_bare (by rw [there]; rfl))
  · rw [run_bind_of_ok (run_lockDirectory_of_has there),
      run_bind_of_ok (run_readUnlocked_of_recorded there)]

theorem run_readOperation (operationId : OperationId) (tape : OperationTape) :
    (readOperation operationId.1).run tape =
      match tape.store.get? operationId with
      | some (some operation) => (.ok operation, tape)
      | some none => (.error "RES-AGM-001", tape)
      | none => (.error "RES-AGM-001", tape.record OperationStore.apply (.lock operationId)) := by
  change (Script.check (requireId operationId.1) >>= _ : OperationScript Operation).run tape = _
  rw [requireId_eq]
  change (lockDirectory operationId >>= fun _ => readUnlocked operationId).run tape = _
  rcases there : tape.store.get? operationId with _ | _ | operation
  · rw [run_bind_of_ok (run_lockDirectory_of_none there)]
    refine run_readUnlocked_of_bare ?_
    change ((tape.store.set operationId none).get? operationId).join = none
    rw [get?_set_self]
    rfl
  · rw [run_bind_of_ok (run_lockDirectory_of_has there)]
    exact run_readUnlocked_of_bare (by rw [there]; rfl)
  · rw [run_bind_of_ok (run_lockDirectory_of_has there)]
    exact run_readUnlocked_of_recorded there

theorem run_claim {ownerEpoch : String} (stated : ownerEpoch ≠ "") (operationId : OperationId)
    (tape : OperationTape) :
    (claim host operationId.1 ownerEpoch).run tape =
      match tape.store.get? operationId with
      | some (some operation) =>
        if operation.state = .accepted then
          (.ok (some (operation.claimed host operationId ownerEpoch)),
            tape.record OperationStore.apply
              (.claim ownerEpoch (operation.claimed host operationId ownerEpoch)))
        else (.ok none, tape)
      | some none => (.error "RES-AGM-001", tape)
      | none => (.error "RES-AGM-001", tape.record OperationStore.apply (.lock operationId)) := by
  unfold claim
  rw [requireId_eq, run_check_ok_bind, refuse_of_not stated, run_check_ok_bind, run_locked]
  rcases tape.store.get? operationId with _ | _ | operation
  · rfl
  · rfl
  · by_cases accepted : operation.state = .accepted
    · have allowed : OperationState.running ∈ operation.state.transitions := by
        rw [accepted]
        decide
      simp only [OperationState.isDispatchable, accepted, decide_true, if_true,
        Operation.transition_of_mem host allowed]
      rfl
    · simp only [OperationState.isDispatchable, accepted, decide_false, if_false,
        Bool.false_eq_true]
      rfl

theorem eq_of_run_claim {ownerEpoch : String} {operation : Operation} {after : OperationTape}
    (granted : (claim host operationId.1 ownerEpoch).run tape = (.ok (some operation), after)) :
    after = tape.record OperationStore.apply (.claim ownerEpoch operation) := by
  by_cases stated : ownerEpoch = ""
  · unfold claim at granted
    rw [requireId_eq, run_check_ok_bind, refuse_of stated] at granted
    cases granted
  rw [run_claim host stated] at granted
  split at granted
  · split at granted
    · cases granted
      rfl
    · cases granted
  · cases granted
  · cases granted

theorem run_finish (ownerEpoch : String) (result : PyData) (error : PyEntries)
    (operationId : OperationId) (tape : OperationTape) :
    (finish host operationId.1 ownerEpoch result error).run tape =
      match tape.store.get? operationId with
      | some (some operation) =>
        if operation.state = .running ∧ operation.ownerEpoch = some ownerEpoch then
          match finishOutcome result error with
          | .ok outcome =>
            (.ok (operation.finished host operationId outcome),
              tape.record OperationStore.apply
                (.finish ownerEpoch (operation.finished host operationId outcome)))
          | .error code => (.error code, tape)
        else (.error "CON-AGM-002", tape)
      | some none => (.error "RES-AGM-001", tape)
      | none => (.error "RES-AGM-001", tape.record OperationStore.apply (.lock operationId)) := by
  unfold finish
  rw [requireId_eq, run_check_ok_bind, run_locked]
  rcases tape.store.get? operationId with _ | _ | operation
  · rfl
  · rfl
  · by_cases held : operation.state = .running ∧ operation.ownerEpoch = some ownerEpoch
    · have passes : ¬ (operation.state ≠ .running ∨ operation.ownerEpoch ≠ some ownerEpoch) := by
        rintro (other | other)
        · exact other held.1
        · exact other held.2
      have allowed : (if error.isEmpty then OperationState.completed else .failed) ∈
          operation.state.transitions := by
        rw [held.1]
        split <;> decide
      simp only [if_pos held, refuse_of_not passes, run_check_ok_bind,
        Operation.transition_of_mem host allowed]
      unfold finishOutcome
      cases error with
      | nil =>
        simp only [List.isEmpty_nil, if_true]
        cases validateScope (if result.truthy then result else .mapping []) <;> rfl
      | cons entry rest =>
        simp only [List.isEmpty_cons, Bool.false_eq_true, if_false]
        cases validateError (entry :: rest) <;> rfl
    · have fires : operation.state ≠ .running ∨ operation.ownerEpoch ≠ some ownerEpoch := by
        by_contra neither
        simp only [not_or, not_not] at neither
        exact held neither
      simp only [if_neg held, refuse_of fires]
      rfl

theorem run_requeue (ownerEpoch : String) (operationId : OperationId) (tape : OperationTape) :
    (requeue host ownerEpoch operationId).run tape =
      match tape.store.get? operationId with
      | some (some operation) =>
        if operation.state = .running ∧ operation.ownerEpoch ≠ some ownerEpoch then
          (.ok (), tape.record OperationStore.apply
            (.requeue ownerEpoch (operation.requeued host)))
        else (.ok (), tape)
      | some none => (.error "RES-AGM-001", tape)
      | none => (.error "RES-AGM-001", tape.record OperationStore.apply (.lock operationId)) := by
  unfold requeue
  rw [run_locked]
  rcases tape.store.get? operationId with _ | _ | operation
  · rfl
  · rfl
  · by_cases stale : operation.state = .running ∧ operation.ownerEpoch ≠ some ownerEpoch
    · have goesOn : ¬ (operation.state ≠ .running ∨ operation.ownerEpoch = some ownerEpoch) := by
        rintro (other | same)
        · exact other stale.1
        · exact stale.2 same
      have allowed : OperationState.accepted ∈ operation.state.transitions := by
        rw [stale.1]
        decide
      simp only [if_pos stale, if_neg goesOn, Operation.transition_of_mem host allowed]
      rfl
    · have stops : operation.state ≠ .running ∨ operation.ownerEpoch = some ownerEpoch := by
        by_contra neither
        simp only [not_or, not_not] at neither
        exact stale neither
      simp only [if_neg stale, if_pos stops]
      rfl

theorem run_create {command : ManagementCommand} {localOnly : Bool} {intent : OperationIntent}
    (admitted : command.admit localOnly = .ok (operationId, intent)) (tape : OperationTape) :
    (create host command localOnly).run tape =
      match tape.store.get? operationId with
      | some (some existing) =>
        if existing.intentDigest = host.intentDigest intent then (.ok existing, tape)
        else (.error "CON-AGM-001", tape)
      | _ => (.ok (newOperation host operationId intent),
          (entered tape operationId).record OperationStore.apply
            (.accept (newOperation host operationId intent))) := by
  unfold create
  rw [admitted, run_check_ok_bind]
  rcases there : tape.store.get? operationId with _ | _ | existing
  · have has : tape.store.has operationId = false := by
      rw [OrderedDict.has, there]
      rfl
    have made : (tape.store.set operationId none).get? operationId = some none :=
      get?_set_self _ _ _
    change (lockDirectory operationId >>= _ : OperationScript Operation).run tape = _
    rw [run_bind_of_ok (run_lockDirectory_of_none there), entered, if_neg (by rw [has]; decide)]
    change (match (tape.store.set operationId none).get? operationId with
      | some (some existing) => _
      | _ => _ : OperationScript Operation).run _ = _
    rw [made]
    rfl
  · have has : tape.store.has operationId = true := by
      rw [OrderedDict.has, there]
      rfl
    change (lockDirectory operationId >>= _ : OperationScript Operation).run tape = _
    rw [run_bind_of_ok (run_lockDirectory_of_has there), entered, if_pos has]
    change (match tape.store.get? operationId with
      | some (some existing) => _
      | _ => _ : OperationScript Operation).run tape = _
    rw [there]
    rfl
  · change (lockDirectory operationId >>= _ : OperationScript Operation).run tape = _
    rw [run_bind_of_ok (run_lockDirectory_of_has there)]
    change (match tape.store.get? operationId with
      | some (some existing) => _
      | _ => _ : OperationScript Operation).run tape = _
    rw [there]
    by_cases same : existing.intentDigest = host.intentDigest intent
    · simp only [if_pos same, refuse_of_not (not_not_intro same)]
      rfl
    · simp only [if_neg same, refuse_of same]
      rfl

theorem run_listDispatchable (limit : ℕ) (tape : OperationTape) :
    (listDispatchable limit).run tape =
      (if limit = 0 then .error "VAL-AGM-001"
        else .ok (((sortedIds tape.store).filterMap (dispatchable? tape.store)).take limit),
        tape) := by
  unfold listDispatchable
  by_cases zero : limit = 0
  · rw [refuse_of zero, if_pos zero]
    rfl
  · rw [refuse_of_not zero, if_neg zero]
    rfl

end Specs

end Audiagentic.Management
