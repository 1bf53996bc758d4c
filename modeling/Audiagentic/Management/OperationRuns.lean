import Mathlib.Data.List.Sublists
import Audiagentic.Management.OperationSpecs

/-!
# The history of management operations

The effects of calls on one store, in their order, with a crash after any of them.  Every effect is
justified by those before it: a claim takes accepted work, only the holder finishes, only another
owner takes back, and an execution follows its claim at once.  What is asked of the store over whole
runs follows from that alone.
-/

namespace Audiagentic.Management

open Foundations OrderedDict Script

/-! ## Justified effects -/

def replay (effects : List OperationEffect) : OperationStore := exec OperationStore.apply ∅ effects

theorem replay_concat (effects : List OperationEffect) (effect : OperationEffect) :
    replay (effects ++ [effect]) = (replay effects).apply effect := by
  rw [replay, exec_append]
  rfl

variable {tape : OperationTape} {effect : OperationEffect}

section Justified

variable (host : OperationHost)

def Justified (before : List OperationEffect) : OperationEffect → Prop
  | .lock operationId => (replay before).get? operationId = none
  | .accept operation =>
    (replay before).get? operation.operationId = some none ∧
      operation = newOperation host operation.operationId operation.intent
  | .claim ownerEpoch operation =>
    ∃ held, (replay before).get? operation.operationId = some (some held) ∧
      held.state = .accepted ∧ operation = held.claimed host operation.operationId ownerEpoch
  | .execute ownerEpoch operation => before.getLast? = some (.claim ownerEpoch operation)
  | .finish ownerEpoch operation =>
    ∃ held outcome, (replay before).get? operation.operationId = some (some held) ∧
      held.state = .running ∧ held.ownerEpoch = some ownerEpoch ∧
        operation = held.finished host operation.operationId outcome
  | .requeue ownerEpoch operation =>
    ∃ held, (replay before).get? operation.operationId = some (some held) ∧
      held.state = .running ∧ held.ownerEpoch ≠ some ownerEpoch ∧
        operation = held.requeued host

/-- The tape of a store whose effects are all justified. -/
structure Sound (tape : OperationTape) : Prop where
  store : tape.store = replay tape.writes
  justified : Guarded (Justified host) tape.writes

variable {host}

theorem sound_empty : Sound host ⟨[], ∅⟩ := ⟨rfl, guarded_nil⟩

theorem Sound.record (sound : Sound host tape) (justified : Justified host tape.writes effect) :
    Sound host (tape.record OperationStore.apply effect) where
  store := by
    change tape.store.apply effect = replay (tape.writes ++ [effect])
    rw [sound.store, replay_concat]
  justified := guarded_append_singleton.mpr ⟨sound.justified, justified⟩

end Justified

/-! ## Directories and their records -/

def OperationEffect.written? : OperationEffect → Option Operation
  | .lock _ => none
  | .accept operation => some operation
  | .claim _ operation => some operation
  | .execute _ _ => none
  | .finish _ operation => some operation
  | .requeue _ operation => some operation

variable {operation : Operation}

theorem OperationStore.get?_apply_written (written : effect.written? = some operation)
    (store : OperationStore) (operationId : OperationId) :
    (store.apply effect).get? operationId =
      if operationId = operation.operationId then some (some operation)
      else store.get? operationId := by
  cases effect <;> cases written <;> exact get?_set _ _ _ _

variable {operationId : OperationId}

theorem OperationStore.get?_apply_unwritten (unwritten : effect.written? = none)
    {store : OperationStore} :
    (store.apply effect).get? operationId = some (some operation) →
      store.get? operationId = some (some operation) := by
  intro found
  cases effect with
  | lock other =>
    change (store.set other none).get? operationId = _ at found
    rw [get?_set] at found
    split at found
    · cases found
    · exact found
  | execute _ _ => exact found
  | accept | claim | finish | requeue => cases unwritten

theorem operationId_of_replay {effects : List OperationEffect}
    (found : (replay effects).get? operationId = some (some operation)) :
    operation.operationId = operationId := by
  induction effects using List.reverseRecOn with
  | nil => cases found
  | append_singleton effects effect ih =>
    rw [replay_concat] at found
    cases written : effect.written? with
    | none => exact ih (OperationStore.get?_apply_unwritten written found)
    | some record =>
      rw [OperationStore.get?_apply_written written] at found
      split at found
      next same =>
        cases found
        exact same.symm
      next => exact ih found

/-! ## Calls make justified effects only -/

section Calls

variable {host : OperationHost}

/-- The script makes justified effects only, from any justified tape. -/
def Walks {α : Type} (host : OperationHost) (script : OperationScript α) : Prop :=
  Script.Triple OperationStore.apply (Sound host) (Sound host) script (fun _ => Sound host)
    (Sound host)

theorem Walks.of_run {α : Type} {script : OperationScript α}
    (one : ∀ tape, Sound host tape → (script.run tape).2 = tape ∨
      ∃ effect, Justified host tape.writes effect ∧
        (script.run tape).2 = tape.record OperationStore.apply effect) : Walks host script := by
  intro tape sound
  have passes : Passes OperationStore.apply (Sound host) tape (script.run tape).2 := by
    rcases one tape sound with same | ⟨effect, justified, same⟩
    · rw [same]
      exact .refl sound
    · rw [same]
      exact .write effect (.refl sound) (sound.record justified)
  refine ⟨passes, ?_⟩
  have last := passes.last
  revert last
  cases (script.run tape).1 with
  | ok | error => exact id

theorem Sound.held (sound : Sound host tape)
    (there : tape.store.get? operationId = some (some operation)) :
    (replay tape.writes).get? operationId = some (some operation) ∧
      operation.operationId = operationId := by
  rw [sound.store] at there
  exact ⟨there, operationId_of_replay there⟩

theorem Sound.absent (sound : Sound host tape) (absent : tape.store.get? operationId = none) :
    Justified host tape.writes (.lock operationId) := by
  rw [sound.store] at absent
  exact absent

theorem walks_readOperation (text : Text) : Walks host (readOperation text) := by
  refine .of_run fun tape sound => ?_
  by_cases valid : isOperationId text = true
  · rw [run_readOperation ⟨text, valid⟩]
    split
    · exact .inl rfl
    · exact .inl rfl
    next absent => exact .inr ⟨.lock _, sound.absent absent, rfl⟩
  · left
    change ((Script.check (requireId text) >>= _ : OperationScript Operation).run tape).2 = tape
    rw [requireId, dif_neg valid]
    rfl

theorem walks_claim (text : Text) (ownerEpoch : String) :
    Walks host (claim host text ownerEpoch) := by
  refine .of_run fun tape sound => ?_
  by_cases valid : isOperationId text = true
  · by_cases stated : ownerEpoch = ""
    · left
      unfold claim
      rw [requireId_eq ⟨text, valid⟩, run_check_ok_bind, refuse_of stated]
      rfl
    · rw [run_claim host stated ⟨text, valid⟩]
      split
      next operation there =>
        obtain ⟨held, named⟩ := sound.held there
        split
        next accepted =>
          refine .inr ⟨.claim ownerEpoch (operation.claimed host ⟨text, valid⟩ ownerEpoch),
            ⟨operation, ?_, accepted, ?_⟩, rfl⟩
          · change (replay tape.writes).get? operation.operationId = _
            rw [named]
            exact held
          · change _ = operation.claimed host operation.operationId ownerEpoch
            rw [named]
        next => exact .inl rfl
      · exact .inl rfl
      next absent => exact .inr ⟨.lock _, sound.absent absent, rfl⟩
  · left
    unfold claim
    rw [requireId, dif_neg valid]
    rfl

theorem walks_finish (text : Text) (ownerEpoch : String) (result : PyData) (error : PyEntries) :
    Walks host (finish host text ownerEpoch result error) := by
  refine .of_run fun tape sound => ?_
  by_cases valid : isOperationId text = true
  · rw [run_finish host ownerEpoch result error ⟨text, valid⟩]
    split
    next operation there =>
      obtain ⟨held, named⟩ := sound.held there
      split
      next mine =>
        split
        next outcome _ =>
          refine .inr ⟨.finish ownerEpoch (operation.finished host ⟨text, valid⟩ outcome),
            ⟨operation, outcome, ?_, mine.1, mine.2, ?_⟩, rfl⟩
          · change (replay tape.writes).get? operation.operationId = _
            rw [named]
            exact held
          · change _ = operation.finished host operation.operationId outcome
            rw [named]
        next => exact .inl rfl
      next => exact .inl rfl
    · exact .inl rfl
    next absent => exact .inr ⟨.lock _, sound.absent absent, rfl⟩
  · left
    unfold finish
    rw [requireId, dif_neg valid]
    rfl

theorem walks_requeue (ownerEpoch : String) (operationId : OperationId) :
    Walks host (requeue host ownerEpoch operationId) := by
  refine .of_run fun tape sound => ?_
  rw [run_requeue host]
  split
  next operation there =>
    obtain ⟨held, named⟩ := sound.held there
    split
    next stale =>
      refine .inr ⟨.requeue ownerEpoch (operation.requeued host),
        ⟨operation, ?_, stale.1, stale.2, rfl⟩, rfl⟩
      change (replay tape.writes).get? operation.operationId = _
      rw [named]
      exact held
    next => exact .inl rfl
  · exact .inl rfl
  next absent => exact .inr ⟨.lock _, sound.absent absent, rfl⟩

theorem walks_create (command : ManagementCommand) (localOnly : Bool) :
    Walks host (create host command localOnly) := by
  intro tape sound
  cases admitted : command.admit localOnly with
  | error code =>
    have stays : (create host command localOnly).run tape = (.error code, tape) := by
      unfold create
      rw [admitted]
      rfl
    rw [stays]
    exact ⟨.refl sound, sound⟩
  | ok pair =>
    obtain ⟨operationId, intent⟩ := pair
    rw [run_create host admitted]
    have accepts : ∀ bare : OperationTape, Sound host bare →
        bare.store.get? operationId = some none →
          Sound host (bare.record OperationStore.apply
            (.accept (newOperation host operationId intent))) := by
      intro bare soundly there
      rw [soundly.store] at there
      have justified : Justified host bare.writes
          (.accept (newOperation host operationId intent)) := ⟨there, rfl⟩
      exact soundly.record justified
    rcases there : tape.store.get? operationId with _ | _ | existing
    · have has : tape.store.has operationId = false := by
        rw [OrderedDict.has, there]
        rfl
      have locked := sound.record (sound.absent there)
      have final := accepts _ locked (get?_set_self _ _ _)
      simp only [entered, has, Bool.false_eq_true, if_false]
      exact ⟨.write _ (.write _ (.refl sound) locked) final, final⟩
    · have has : tape.store.has operationId = true := by
        rw [OrderedDict.has, there]
        rfl
      have final := accepts tape sound there
      simp only [entered, has, if_true]
      exact ⟨.write _ (.refl sound) final, final⟩
    · by_cases same : existing.intentDigest = host.intentDigest intent
      · simp only [if_pos same]
        exact ⟨.refl sound, sound⟩
      · simp only [if_neg same]
        exact ⟨.refl sound, sound⟩

theorem Walks.pure {α : Type} (value : α) : Walks host (pure value : OperationScript α) :=
  fun _ sound => ⟨.refl sound, sound⟩

theorem Walks.current_bind {α : Type} {next : OperationStore → OperationScript α}
    (each : ∀ store, Walks host (next store)) : Walks host (current >>= next) :=
  fun tape sound => each tape.store tape sound

theorem Walks.check_bind {α β : Type} {checked : Except String α} {next : α → OperationScript β}
    (each : ∀ value, checked = .ok value → Walks host (next value)) :
    Walks host (Script.check checked >>= next) := by
  intro tape sound
  cases checked with
  | error code => exact ⟨.refl sound, sound⟩
  | ok value => exact each value rfl tape sound

theorem Walks.bind {α β : Type} {script : OperationScript α} {next : α → OperationScript β}
    (first : Walks host script) (second : ∀ value, Walks host (next value)) :
    Walks host (script >>= next) :=
  triple_bind first second

theorem Walks.dropped {α : Type} {script : OperationScript α} (walks : Walks host script) :
    Walks host script.dropped :=
  walks.bind fun _ => .pure ()

theorem Walks.attempt {α : Type} {script : OperationScript α} (walks : Walks host script) :
    Walks host script.attempt := by
  intro tape sound
  obtain ⟨passes, -⟩ := walks tape sound
  exact ⟨passes, passes.last⟩

theorem Walks.forEach {ι : Type} {body : ι → OperationScript Unit}
    (each : ∀ item, Walks host (body item)) (items : List ι) :
    Walks host (Script.forEach body items) := by
  induction items with
  | nil => exact .pure ()
  | cons item items ih => exact (each item).bind fun _ => ih

theorem walks_recoverPriorOwnerClaims (ownerEpoch : String) :
    Walks host (recoverPriorOwnerClaims host ownerEpoch) := by
  refine .current_bind fun store => ?_
  split
  · exact .pure ()
  · exact .forEach (walks_requeue ownerEpoch) (sortedIds store)

theorem walks_fail (text : Text) (ownerEpoch : String) (code : Text) :
    Walks host (fail host text ownerEpoch code) :=
  walks_finish text ownerEpoch _ _

theorem walks_outcome (text : Text) (ownerEpoch : String) (outcome : Option PyData) :
    Walks host (match outcome with
      | some result => do
        let finished ← (finish host text ownerEpoch result []).attempt
        match finished with
        | .ok _ => return ()
        | .error _ => (fail host text ownerEpoch "INT-AGM-001".toList).dropped
      | none => (fail host text ownerEpoch "INT-AGM-001".toList).dropped) := by
  cases outcome with
  | none => exact (walks_fail text ownerEpoch _).dropped
  | some result =>
    refine (walks_finish text ownerEpoch result []).attempt.bind fun finished => ?_
    cases finished with
    | ok _ => exact .pure ()
    | error _ => exact (walks_fail text ownerEpoch _).dropped

theorem walks_dispatch (executor : Executor) (ownerEpoch : String) (candidate : Operation) :
    Walks host (dispatch host executor ownerEpoch candidate) := by
  have claims : Script.Triple OperationStore.apply (Sound host) (Sound host)
      (claim host candidate.operationId.1 ownerEpoch)
      (fun claimed tape => Sound host tape ∧ ∀ operation, claimed = some operation →
        tape.writes.getLast? = some (.claim ownerEpoch operation)) (Sound host) := by
    intro tape sound
    have walk := walks_claim candidate.operationId.1 ownerEpoch tape sound
    refine ⟨walk.1, ?_⟩
    have last := walk.1.last
    rcases ended : (claim host candidate.operationId.1 ownerEpoch).run tape with
      ⟨code | claimed, after⟩
    · rw [ended] at last
      exact last
    rw [ended] at last
    refine ⟨last, ?_⟩
    rintro operation rfl
    rw [eq_of_run_claim host ended]
    exact List.getLast?_concat
  refine triple_bind claims fun claimed => ?_
  cases claimed with
  | none => exact triple_pure () fun tape holds => ⟨holds.1, holds.1⟩
  | some operation =>
    have executes : Script.Triple OperationStore.apply (Sound host)
        (fun tape => Sound host tape ∧ ∀ other, some operation = some other →
          tape.writes.getLast? = some (.claim ownerEpoch other))
        (emit (.execute ownerEpoch operation)) (fun _ => Sound host) (Sound host) := by
      refine triple_put _ fun tape holds => ?_
      have justified : Justified host tape.writes (.execute ownerEpoch operation) :=
        holds.2 operation rfl
      exact ⟨holds.1, holds.1.record justified, holds.1.record justified⟩
    exact triple_bind executes fun _ =>
      walks_outcome operation.operationId.1 ownerEpoch (executor operation)

theorem walks_runOnce (executor : Executor) (ownerEpoch : String) (limit : ℕ) :
    Walks host (runOnce host executor ownerEpoch limit) := by
  refine (walks_recoverPriorOwnerClaims ownerEpoch).bind fun _ => ?_
  have lists : Walks host (listDispatchable limit) :=
    .check_bind fun _ _ => .current_bind fun _ => .pure _
  exact lists.bind fun candidates => .forEach (walks_dispatch executor ownerEpoch) candidates

end Calls

/-! ## Whole runs -/

inductive ManagementCall where
  | create (command : ManagementCommand) (localOnly : Bool)
  | read (operationId : Text)
  | claim (operationId : Text) (ownerEpoch : String)
  | finish (operationId : Text) (ownerEpoch : String) (result : PyData) (error : PyEntries)
  | fail (operationId : Text) (ownerEpoch : String) (code : Text)
  | recoverPriorOwnerClaims (ownerEpoch : String)
  | runOnce (executor : Executor) (ownerEpoch : String) (limit : ℕ)

def ManagementCall.script (host : OperationHost) : ManagementCall → OperationScript Unit
  | create command localOnly => (Management.create host command localOnly).dropped
  | read operationId => (readOperation operationId).dropped
  | claim operationId ownerEpoch => (Management.claim host operationId ownerEpoch).dropped
  | finish operationId ownerEpoch result error =>
    (Management.finish host operationId ownerEpoch result error).dropped
  | fail operationId ownerEpoch code => (Management.fail host operationId ownerEpoch code).dropped
  | recoverPriorOwnerClaims ownerEpoch => Management.recoverPriorOwnerClaims host ownerEpoch
  | runOnce executor ownerEpoch limit => Management.runOnce host executor ownerEpoch limit

/-- One call, of whose effects only the given number happens where it is cut off. -/
def managementStep (host : OperationHost) (tape : OperationTape)
    (call : ManagementCall × Option ℕ) : OperationTape :=
  let after := ((call.1.script host).run tape).2
  match call.2 with
  | none => after
  | some made =>
    let effects := (after.writes.drop tape.writes.length).take made
    ⟨tape.writes ++ effects, exec OperationStore.apply tape.store effects⟩

section Runs

variable {host : OperationHost}

theorem walks_call (call : ManagementCall) : Walks host (call.script host) := by
  cases call with
  | create command localOnly => exact (walks_create command localOnly).dropped
  | read text => exact (walks_readOperation text).dropped
  | claim text ownerEpoch => exact (walks_claim text ownerEpoch).dropped
  | finish text ownerEpoch result error => exact (walks_finish text ownerEpoch result error).dropped
  | fail text ownerEpoch code => exact (walks_fail text ownerEpoch code).dropped
  | recoverPriorOwnerClaims ownerEpoch => exact walks_recoverPriorOwnerClaims ownerEpoch
  | runOnce executor ownerEpoch limit => exact walks_runOnce executor ownerEpoch limit

/-- **The step lemma.**  Every call, wherever it is cut off, leaves a sound tape. -/
theorem Sound.step (sound : Sound host tape) (call : ManagementCall × Option ℕ) :
    Sound host (managementStep host tape call) := by
  obtain ⟨call, cut⟩ := call
  obtain ⟨passes, -⟩ := walks_call call tape sound
  cases cut with
  | none => exact passes.last
  | some made =>
    obtain ⟨effects, writes, -, crashes⟩ := passes.crashes
    have same : ((call.script host).run tape).2.writes.drop tape.writes.length = effects := by
      rw [writes, List.drop_left]
    simp only [managementStep, same]
    exact crashes made

end Runs

end Audiagentic.Management
