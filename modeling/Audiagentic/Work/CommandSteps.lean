import Audiagentic.Work.Commands

/-!
# Steps of the calls on commands

An acceptance adds a command to the record or finds it there; the other operations change a command
only by its first execution id.  A message is lost when the inputs file is rewritten from an older
reading, and an acceptance fails halfway when its message id stands in the file with another
message. -/

namespace Audiagentic.Work

open Foundations List OrderedDict Function

variable {digest : CommandDigest} {world : CommandWorld} {works : Works}

/-! ## One section under the lock of a Work -/

inductive Accepted (works : Works) (contextId workId : Text) (command : WorkCommand) :
    WorkCommandReceipt → Prop where
  | replayed {current : AgentWorkRecord} {prior : WorkCommand}
      (there : works.get? workId = some current) (context : current.contextId = contextId)
      (known : current.command? command.deliveryKey = some prior)
      (same : prior.digest = command.digest) :
      Accepted works contextId workId command
        { work := current, command := prior, replayed := true }
  | appended {current updated : AgentWorkRecord}
      (there : works.get? workId = some current) (context : current.contextId = contextId)
      (unknown : current.command? command.deliveryKey = none)
      (goes : current.state.isTerminal = false)
      (moved : updated.workId = current.workId ∧ updated.contextId = current.contextId ∧
        updated.state = current.state ∧ updated.commands = current.commands ++ [command]) :
      Accepted works contextId workId command
        { work := updated, command := command, replayed := false }
  | created {created : AgentWorkRecord} (absent : works.get? workId = none)
      (new : created.workId = workId ∧ created.contextId = contextId ∧
        created.commands = [command]) :
      Accepted works contextId workId command
        { work := created, command := command, replayed := false }

variable {workId : Text} {receipt : WorkCommandReceipt} {command : WorkCommand}

/-- **An acceptance.**  An exclusive one of a command that is not known finds no other open Work. -/
theorem accept_ok {contextId now : Text} {parentWorkId : Option Text} {exclusive : Bool}
    (accepts : works.accept contextId workId command parentWorkId exclusive now = .ok receipt) :
    (exclusive = true → works.busy contextId workId = false ∨
      works.knows workId command.deliveryKey = true) ∧
      Accepted works contextId workId command receipt := by
  rw [Works.accept, refuse_bind_eq_ok] at accepts
  obtain ⟨free, accepts⟩ := accepts
  constructor
  · intro isExclusive
    by_contra both
    rw [not_or, Bool.not_eq_false, Bool.not_eq_true] at both
    exact free ⟨isExclusive, both⟩
  · cases there : works.get? workId with
    | none =>
      rw [there] at accepts
      cases accepts
      exact .created there ⟨rfl, rfl, rfl⟩
    | some current =>
      rw [there] at accepts
      simp only [refuse_bind_eq_ok, not_not] at accepts
      obtain ⟨context, accepts⟩ := accepts
      cases known : current.command? command.deliveryKey with
      | some prior =>
        rw [known] at accepts
        simp only [refuse_bind_eq_ok, ne_eq, not_not] at accepts
        obtain ⟨same, accepts⟩ := accepts
        cases accepts
        exact .replayed there context known same
      | none =>
        rw [known] at accepts
        simp only [refuse_bind_eq_ok, Bool.not_eq_true] at accepts
        obtain ⟨goes, accepts⟩ := accepts
        cases accepts
        exact .appended there context known goes ⟨rfl, rfl, rfl, rfl⟩

/-- A command stays as it is, or gains an execution id that it did not have. -/
def Gains (command later : WorkCommand) : Prop :=
  later = command ∨ isSet command.executionId = false ∧
    ∃ executionId, later = { command with executionId := some executionId }

theorem Gains.trans {first second third : WorkCommand} (left : Gains first second)
    (right : Gains second third) : Gains first third := by
  rcases left with rfl | ⟨unset, executionId, rfl⟩
  · exact right
  · rcases right with rfl | ⟨-, executionId', rfl⟩
    · exact .inr ⟨unset, executionId, rfl⟩
    · exact .inr ⟨unset, executionId', rfl⟩

/-- Commands are appended, and the earlier ones gain execution ids. -/
def Grows (commands later : List WorkCommand) : Prop :=
  ∀ (index : ℕ) (command : WorkCommand), commands[index]? = some command →
    ∃ command', later[index]? = some command' ∧ Gains command command'

theorem Grows.refl (commands : List WorkCommand) : Grows commands commands :=
  fun _ command there => ⟨command, there, .inl rfl⟩

theorem Grows.trans {first second third : List WorkCommand} (left : Grows first second)
    (right : Grows second third) : Grows first third := by
  intro index command there
  obtain ⟨middle, here, gains⟩ := left index command there
  obtain ⟨last, stands, further⟩ := right index middle here
  exact ⟨last, stands, gains.trans further⟩

theorem Grows.append (commands added : List WorkCommand) : Grows commands (commands ++ added) := by
  intro index command there
  refine ⟨command, ?_, .inl rfl⟩
  rw [getElem?_append_left (List.getElem?_eq_some_iff.mp there).1, there]

theorem Grows.link {commands : List WorkCommand} {index : ℕ}
    (there : commands[index]? = some command) (unset : isSet command.executionId = false)
    (executionId : Text) :
    Grows commands (commands.set index { command with executionId := some executionId }) := by
  intro other old found
  by_cases here : index = other
  · subst here
    rw [there] at found
    cases found
    refine ⟨_, ?_, .inr ⟨unset, executionId, rfl⟩⟩
    rw [getElem?_set_self (List.getElem?_eq_some_iff.mp there).1]
  · exact ⟨old, (getElem?_set_ne here).trans found, .inl rfl⟩

def deliveryKeys (commands : List WorkCommand) : List Text := commands.map WorkCommand.deliveryKey

theorem deliveryKeys_link {commands : List WorkCommand} {index : ℕ}
    (there : commands[index]? = some command) (executionId : Text) :
    deliveryKeys (commands.set index { command with executionId := some executionId }) =
      deliveryKeys commands := by
  obtain ⟨bound, rfl⟩ := List.getElem?_eq_some_iff.mp there
  unfold deliveryKeys
  rw [map_set]
  show (commands.map WorkCommand.deliveryKey).set index commands[index].deliveryKey = _
  rw [← getElem_map WorkCommand.deliveryKey (h := by simpa using bound)]
  exact set_getElem_self _

structure RecordMove (current updated : AgentWorkRecord) : Prop where
  workId : updated.workId = current.workId
  contextId : updated.contextId = current.contextId
  terminal : current.state.isTerminal = true → updated.state.isTerminal = true
  commands : updated.commands = current.commands ∨
    ∃ (index : ℕ) (command : WorkCommand) (executionId : Text),
      current.commands[index]? = some command ∧ isSet command.executionId = false ∧
        updated.commands =
          current.commands.set index { command with executionId := some executionId }

variable {updated : AgentWorkRecord}

theorem linkCommandExecution_ok {deliveryKey executionId now : Text}
    (links : works.linkCommandExecution workId deliveryKey executionId now = .ok updated) :
    ∃ current, works.get? workId = some current ∧ RecordMove current updated := by
  rw [Works.linkCommandExecution, bind_eq_ok] at links
  obtain ⟨current, loaded, links⟩ := links
  refine ⟨current, Works.load_eq_ok.mp loaded, ?_⟩
  split at links
  · cases links
  split at links
  · cases links
  next command there =>
    split at links
    · cases links
      exact ⟨rfl, rfl, id, .inl rfl⟩
    rw [refuse_bind_eq_ok] at links
    obtain ⟨unset, links⟩ := links
    dsimp only at links
    split at links
    · cases links
    cases links
    refine ⟨rfl, rfl, id, .inr ⟨_, command, executionId, there, ?_, rfl⟩⟩
    simpa using unset

theorem not_terminal_of_allowed {old new : AgentWorkState}
    (allowed : transitionAllowed old new = true) : old.isTerminal = false := by
  cases old with
  | submitted | active | waiting => rfl
  | completed | failed | cancelled | rejected => cases allowed

/-- **The operations on a record.**  Every one keeps the commands, or links one of them. -/
theorem RecordOp.run_ok {op : RecordOp} {stamp : Text}
    (runs : op.run works workId stamp = .ok updated) :
    ∃ current, works.get? workId = some current ∧ RecordMove current updated := by
  cases op with
  | link deliveryKey executionId => exact linkCommandExecution_ok runs
  | transition target expectedRevision executionId =>
    obtain ⟨current, there, -, allowed, rfl⟩ := Works.transition_eq_ok.mp runs
    refine ⟨current, there, rfl, rfl, fun ended => ?_, .inl rfl⟩
    rw [not_terminal_of_allowed allowed] at ended
    cases ended
  | linkExecution executionId expectedRevision =>
    obtain ⟨current, there, -, -, rfl⟩ := Works.linkExecution_eq_ok.mp runs
    exact ⟨current, there, rfl, rfl, id, .inl rfl⟩
  | setWaiting interactionId reason expectedRevision =>
    obtain ⟨current, there, -, active, rfl⟩ := Works.setWaiting_eq_ok.mp runs
    refine ⟨current, there, rfl, rfl, fun ended => ?_, .inl rfl⟩
    rw [active] at ended
    cases ended
  | resumeWaiting expectedRevision =>
    obtain ⟨current, there, -, waiting, rfl⟩ := Works.resumeWaiting_eq_ok.mp runs
    refine ⟨current, there, rfl, rfl, fun ended => ?_, .inl rfl⟩
    rw [waiting] at ended
    cases ended

/-! ## Steps -/

/-- **The Works after a step.**  At most one record is replaced, by an acceptance or by one of the
operations on a record. -/
theorem commandStep_works (action : CommandAction) :
    (commandStep digest world action).works = world.works ∨
      ∃ workId updated,
        (commandStep digest world action).works = world.works.set workId updated ∧
        ((∃ caller reading request receipt, action = .step caller reading ∧
            world.calls caller = .committing request ∧ request.resolvedWorkId = workId ∧
            world.works.accept request.contextId workId (request.command digest)
              request.parentWorkId request.exclusive reading.stamp = .ok receipt ∧
            receipt.replayed = false ∧ receipt.work = updated) ∨
          ∃ stamp op, action = .record workId stamp op ∧
            op.run world.works workId stamp = .ok updated) := by
  cases action with
  | call | crash =>
    rw [commandStep]
    split <;> exact .inl rfl
  | record workId stamp op =>
    cases runs : op.run world.works workId stamp with
    | error failure =>
      refine .inl ?_
      rw [commandStep, runs]
      rfl
    | ok updated =>
      refine .inr ⟨workId, updated, ?_, .inr ⟨stamp, op, rfl, runs⟩⟩
      rw [commandStep, runs]
      rfl
  | step caller reading =>
    rw [commandStep]
    cases stage : world.calls caller with
    | idle | projecting | rewriting | returned | raised | crashed => exact .inl rfl
    | opening request =>
      rw [CommandWorld.stepCall]
      split <;> exact .inl rfl
    | committing request =>
      rw [CommandWorld.stepCall, CommandWorld.commit]
      cases accepts : world.works.accept request.contextId request.resolvedWorkId
          (request.command digest) request.parentWorkId request.exclusive reading.stamp with
      | error failure => exact .inl rfl
      | ok receipt =>
        dsimp only
        cases replayed : receipt.replayed with
        | true => exact .inl rfl
        | false =>
          exact .inr ⟨_, _, rfl, .inl ⟨caller, reading, request, receipt, rfl, stage, rfl,
            accepts, replayed, rfl⟩⟩

/-- Records stand under their ids, and no record has a delivery key twice. -/
structure Keyed (works : Works) : Prop where
  named : ∀ workId record, works.get? workId = some record → record.workId = workId
  keys : ∀ workId record, works.get? workId = some record → (deliveryKeys record.commands).Nodup

variable {record : AgentWorkRecord}

theorem not_mem_deliveryKeys {deliveryKey : Text} (unknown : record.command? deliveryKey = none) :
    deliveryKey ∉ deliveryKeys record.commands := by
  intro member
  obtain ⟨command, there, same⟩ := List.mem_map.mp member
  have absent := find?_eq_none.mp unknown command there
  exact absent (by simpa using same)

theorem Keyed.set (keyed : Keyed works) (named : updated.workId = workId)
    (keys : (deliveryKeys updated.commands).Nodup) : Keyed (works.set workId updated) where
  named other record there := by
    rw [get?_set] at there
    split at there
    next here =>
      cases there
      rw [named, here]
    · exact keyed.named other record there
  keys other record there := by
    rw [get?_set] at there
    split at there
    · cases there
      exact keys
    · exact keyed.keys other record there

theorem RecordMove.keys {current : AgentWorkRecord} (move : RecordMove current updated)
    (keys : (deliveryKeys current.commands).Nodup) : (deliveryKeys updated.commands).Nodup := by
  rcases move.commands with same | ⟨index, command, executionId, there, -, links⟩
  · rw [same]
    exact keys
  · rw [links, deliveryKeys_link there]
    exact keys

/-- **Every delivery key once.** -/
theorem Keyed.step (keyed : Keyed world.works) (action : CommandAction) :
    Keyed (commandStep digest world action).works := by
  rcases @commandStep_works digest world action with same | ⟨workId, updated, after, kind⟩
  · rw [same]
    exact keyed
  rw [after]
  rcases kind with ⟨caller, reading, request, receipt, -, -, -, accepts, new, rfl⟩ |
    ⟨stamp, op, -, runs⟩
  · cases (accept_ok accepts).2 with
    | replayed => cases new
    | @appended current updated there context unknown goes moved =>
      obtain ⟨named, -, -, commands⟩ := moved
      refine keyed.set (named.trans (keyed.named _ _ there)) ?_
      dsimp only
      rw [commands, deliveryKeys, map_append]
      refine nodup_append.mpr ⟨keyed.keys _ _ there, nodup_singleton _, ?_⟩
      rintro key member _ last rfl
      obtain rfl := mem_singleton.mp last
      exact not_mem_deliveryKeys unknown member
    | @created created absent fresh =>
      obtain ⟨named, -, commands⟩ := fresh
      refine keyed.set named ?_
      dsimp only
      rw [commands]
      exact nodup_singleton _
  · obtain ⟨current, there, move⟩ := RecordOp.run_ok runs
    exact keyed.set (move.workId.trans (keyed.named _ _ there)) (move.keys (keyed.keys _ _ there))

/-! ## One open Work in a Context -/

/-- No Context has two Works that are not terminal. -/
def OneOpenWork (works : Works) : Prop :=
  ∀ first second record other, works.get? first = some record → works.get? second = some other →
    record.contextId = other.contextId → record.state.isTerminal = false →
    other.state.isTerminal = false → first = second

/-- The request of a call that has not been committed yet. -/
def AcceptCall.request? : AcceptCall → Option CommandRequest
  | .opening request | .committing request => some request
  | _ => none

/-- Every acceptance under way is exclusive, and a Context has one open Work at most. -/
structure Exclusive (world : CommandWorld) : Prop where
  keyed : Keyed world.works
  requests : ∀ caller request, (world.calls caller).request? = some request →
    request.exclusive = true
  single : OneOpenWork world.works

theorem mem_list (there : works.get? workId = some record) : record ∈ works.list := by
  refine List.mem_map.mpr ⟨(workId, record), ?_, rfl⟩
  exact (perm_insertionSort _ works.entries).mem_iff.mpr (OrderedDict.mem_entries_iff.mpr there)

theorem Keyed.not_busy (keyed : Keyed works) {contextId other : Text}
    (free : works.busy contextId workId = false) (there : works.get? other = some record)
    (context : record.contextId = contextId) (goes : record.state.isTerminal = false) :
    other = workId := by
  by_contra apart
  rw [Works.busy, List.any_eq_false] at free
  refine free record (mem_list there) ?_
  rw [keyed.named other record there]
  simp [context, apart, goes]

theorem OneOpenWork.replace (single : OneOpenWork works) {current : AgentWorkRecord}
    (there : works.get? workId = some current) (context : updated.contextId = current.contextId)
    (terminal : current.state.isTerminal = true → updated.state.isTerminal = true) :
    OneOpenWork (works.set workId updated) := by
  have before : ∀ other record, (works.set workId updated).get? other = some record →
      record.state.isTerminal = false → ∃ old, works.get? other = some old ∧
        old.contextId = record.contextId ∧ old.state.isTerminal = false := by
    intro other record found goes
    rw [get?_set] at found
    split at found
    next here =>
      cases found
      refine ⟨current, here ▸ there, context.symm, ?_⟩
      by_contra ended
      rw [terminal (Bool.not_eq_false _ ▸ ended)] at goes
      cases goes
    · exact ⟨record, found, rfl, goes⟩
  intro first second record other here found same goes open_
  obtain ⟨old, stands, context', goes'⟩ := before first record here goes
  obtain ⟨old', stands', context'', goes''⟩ := before second other found open_
  exact single first second old old' stands stands' ((context'.trans same).trans context''.symm)
    goes' goes''

theorem Exclusive.oneOpenWork (exclusive : Exclusive world) (action : CommandAction) :
    OneOpenWork (commandStep digest world action).works := by
  rcases @commandStep_works digest world action with same | ⟨workId, updated, after, kind⟩
  · rw [same]
    exact exclusive.single
  rw [after]
  rcases kind with ⟨caller, reading, request, receipt, -, stage, rfl, accepts, new, rfl⟩ |
    ⟨stamp, op, -, runs⟩
  · obtain ⟨refuses, accepted⟩ := accept_ok accepts
    cases accepted with
    | replayed => cases new
    | @appended current updated there context unknown goes moved =>
      obtain ⟨-, context', state, -⟩ := moved
      exact exclusive.single.replace there context' fun ended => state ▸ ended
    | @created created absent fresh =>
      have isExclusive := exclusive.requests caller request (by rw [stage]; rfl)
      have unknown : world.works.knows request.resolvedWorkId
          (request.command digest).deliveryKey = false := by
        rw [Works.knows, absent]
        rfl
      have free := (refuses isExclusive).resolve_right (by simp [unknown])
      obtain ⟨-, context, -⟩ := fresh
      intro first second record other here found same goes open_
      rw [get?_set] at here found
      split at here
      next isFirst =>
        cases here
        split at found
        · next isSecond => rw [isFirst, isSecond]
        · rw [isFirst]
          exact (exclusive.keyed.not_busy free found (same.symm.trans context) open_).symm
      · split at found
        next isSecond =>
          cases found
          rw [isSecond]
          exact exclusive.keyed.not_busy free here (same.trans context) goes
        · exact exclusive.single first second record other here found same goes open_
  · obtain ⟨current, there, move⟩ := RecordOp.run_ok runs
    exact exclusive.single.replace there move.contextId move.terminal

theorem commit_call {request : CommandRequest} {stamp : Text} :
    (∃ receipt, (world.commit digest request stamp).2 = .projecting receipt) ∨
      ∃ failure, (world.commit digest request stamp).2 = .raised failure := by
  rw [CommandWorld.commit]
  split
  · exact .inr ⟨_, rfl⟩
  · split_ifs <;> exact .inl ⟨_, rfl⟩

variable {reading : CommandReading}

theorem request?_step {call : AcceptCall} {request : CommandRequest}
    (after : (world.stepCall digest reading call).2.request? = some request) :
    call.request? = some request := by
  cases call with
  | idle | rewriting | returned | raised | crashed => exact after
  | projecting receipt =>
    simp only [CommandWorld.stepCall, CommandWorld.project] at after
    split at after
    · split at after <;> cases after
    · cases after
  | opening request =>
    rw [CommandWorld.stepCall] at after
    split at after
    · cases after
    · cases after
    · exact after
  | committing request' =>
    rw [CommandWorld.stepCall] at after
    rcases @commit_call digest world request' reading.stamp with
      ⟨receipt, commits⟩ | ⟨failure, raises⟩
    · rw [commits] at after
      cases after
    · rw [raises] at after
      cases after

variable {action : CommandAction}

theorem Exclusive.step (exclusive : Exclusive world)
    (requests : ∀ caller request, action = .call caller request → request.exclusive = true) :
    Exclusive (commandStep digest world action) where
  keyed := exclusive.keyed.step action
  single := exclusive.oneOpenWork action
  requests other request after := by
    cases action with
    | call caller made =>
      rw [commandStep] at after
      split at after
      · by_cases here : other = caller
        · subst here
          simp only [update_self] at after
          cases after
          exact requests _ _ rfl
        · simp only [update_of_ne here] at after
          exact exclusive.requests other request after
      · exact exclusive.requests other request after
    | step caller reading =>
      by_cases here : other = caller
      · subst here
        simp only [commandStep, update_self] at after
        exact exclusive.requests other request (request?_step after)
      · simp only [commandStep, update_of_ne here] at after
        exact exclusive.requests other request after
    | crash caller =>
      rw [commandStep] at after
      split at after
      · exact exclusive.requests other request after
      · exact exclusive.requests other request after
      · by_cases here : other = caller
        · subst here
          simp only [update_self] at after
          cases after
        · simp only [update_of_ne here] at after
          exact exclusive.requests other request after
    | record workId stamp op => exact exclusive.requests other request after

/-! ## The inputs files -/

def Holds (inputs : Text → WorkInputs) (receipt : WorkCommandReceipt) : Prop :=
  ∃ stored, (inputs receipt.work.workId).get? receipt.message.messageId = some stored ∧
    (stored = receipt.message ∨ stored.matches receipt.message = true)

/-- The message of a receipt does not meet another one of the same id in the inputs file, and the
file is rewritten from what it holds. -/
structure CarefulCommand (world : CommandWorld) (action : CommandAction) : Prop where
  projects : ∀ caller reading receipt prior, action = .step caller reading →
    world.calls caller = .projecting receipt →
    (world.inputs receipt.work.workId).get? receipt.message.messageId = some prior →
    prior.matches receipt.message = true
  rewrites : ∀ caller reading receipt existing, action = .step caller reading →
    world.calls caller = .rewriting receipt existing →
    world.inputs receipt.work.workId = existing

def AcceptCall.receipt? : AcceptCall → Option WorkCommandReceipt
  | .projecting receipt | .rewriting receipt _ | .returned receipt => some receipt
  | _ => none

/-- What the calls know of the inputs files. -/
structure Projects (world : CommandWorld) : Prop where
  absent : ∀ caller receipt existing, world.calls caller = .rewriting receipt existing →
    existing.get? receipt.message.messageId = none
  holds : ∀ caller receipt, world.calls caller = .returned receipt → Holds world.inputs receipt

/-- **A careful step keeps every message.** -/
theorem inputs_kept (projects : Projects world) (careful : CarefulCommand world action) {id : Text}
    {stored : WorkInputMessage} (there : (world.inputs workId).get? id = some stored) :
    ((commandStep digest world action).inputs workId).get? id = some stored := by
  cases action with
  | call | crash =>
    rw [commandStep]
    split <;> exact there
  | record => exact there
  | step caller reading =>
    rw [commandStep]
    cases stage : world.calls caller with
    | idle | projecting | returned | raised | crashed => exact there
    | opening request =>
      rw [CommandWorld.stepCall]
      split <;> exact there
    | committing request =>
      rw [CommandWorld.stepCall, CommandWorld.commit]
      split
      · exact there
      · split_ifs <;> exact there
    | rewriting receipt existing =>
      have same := careful.rewrites caller reading receipt existing rfl stage
      have fresh := projects.absent caller receipt existing stage
      show ((Function.update world.inputs receipt.work.workId _) workId).get? id = some stored
      by_cases here : workId = receipt.work.workId
      · subst here
        rw [update_self, get?_set_of_ne, ← same, there]
        rintro rfl
        rw [same, fresh] at there
        cases there
      · rw [update_of_ne here, there]

theorem Holds.step (projects : Projects world) (careful : CarefulCommand world action)
    (holds : Holds world.inputs receipt) :
    Holds (commandStep digest world action).inputs receipt := by
  obtain ⟨stored, there, same⟩ := holds
  exact ⟨stored, inputs_kept projects careful there, same⟩

/-- **A committed call.**  By a careful step it goes on with its receipt; when it returns, the
inputs file holds the message. -/
theorem stepCall_committed {caller : ℕ} (careful : CarefulCommand world (.step caller reading))
    (committed : (world.calls caller).receipt? = some receipt) :
    (world.stepCall digest reading (world.calls caller)).2.receipt? = some receipt := by
  cases stage : world.calls caller with
  | idle | opening | committing | raised | crashed =>
    rw [stage] at committed
    cases committed
  | rewriting | returned =>
    rw [stage] at committed
    exact committed
  | projecting receipt =>
    rw [stage] at committed
    cases committed
    simp only [CommandWorld.stepCall, CommandWorld.project]
    cases there : (world.inputs receipt.work.workId).get? receipt.message.messageId with
    | none => rfl
    | some prior =>
      simp only [careful.projects caller reading receipt prior rfl stage there, if_true]
      rfl

theorem projects_of_away {call : AcceptCall} {Absent : WorkCommandReceipt → WorkInputs → Prop}
    {Held : WorkCommandReceipt → Prop} (away : call.receipt? = none) :
    (∀ receipt existing, call = .rewriting receipt existing → Absent receipt existing) ∧
      ∀ receipt, call = .returned receipt → Held receipt := by
  constructor
  · rintro receipt existing rfl
    cases away
  · rintro receipt rfl
    cases away

/-- A call that rewrites has read no message of its id, and one that returns leaves its message. -/
theorem Projects.stepCall {caller : ℕ} (projects : Projects world) :
    (∀ receipt existing,
      (world.stepCall digest reading (world.calls caller)).2 = .rewriting receipt existing →
        existing.get? receipt.message.messageId = none) ∧
    ∀ receipt, (world.stepCall digest reading (world.calls caller)).2 = .returned receipt →
      Holds (world.stepCall digest reading (world.calls caller)).1.inputs receipt := by
  cases stage : world.calls caller with
  | idle | raised | crashed => exact projects_of_away rfl
  | opening request =>
    refine projects_of_away ?_
    rw [CommandWorld.stepCall]
    split <;> rfl
  | committing request =>
    rw [CommandWorld.stepCall]
    rcases @commit_call digest world request reading.stamp with
      ⟨receipt, commits⟩ | ⟨failure, raises⟩
    · rw [commits]
      constructor
      · rintro _ _ ⟨⟩
      · rintro _ ⟨⟩
    · rw [raises]
      exact projects_of_away rfl
  | projecting receipt =>
    simp only [CommandWorld.stepCall, CommandWorld.project]
    cases there : (world.inputs receipt.work.workId).get? receipt.message.messageId with
    | none =>
      constructor
      · rintro _ _ ⟨⟩
        exact there
      · rintro _ ⟨⟩
    | some prior =>
      by_cases same : prior.matches receipt.message = true
      · simp only [same, if_true]
        constructor
        · rintro _ _ ⟨⟩
        · rintro _ ⟨⟩
          exact ⟨prior, there, .inr same⟩
      · simp only [if_neg same]
        exact projects_of_away rfl
  | rewriting receipt existing =>
    constructor
    · rintro _ _ ⟨⟩
    rintro _ ⟨⟩
    refine ⟨receipt.message, ?_, .inl rfl⟩
    show ((Function.update world.inputs receipt.work.workId _) receipt.work.workId).get? _ = _
    rw [update_self, get?_set_self]
  | returned receipt =>
    constructor
    · rintro _ _ ⟨⟩
    · rintro _ ⟨⟩
      exact projects.holds caller receipt stage

theorem commandStep_calls (action : CommandAction) (caller : ℕ) :
    (commandStep digest world action).calls caller = world.calls caller ∨
      (∃ reading, action = .step caller reading ∧
        (commandStep digest world action).calls caller =
          (world.stepCall digest reading (world.calls caller)).2) ∨
      (commandStep digest world action).calls caller = .crashed ∨
      world.calls caller = .idle ∧
        ∃ request, (commandStep digest world action).calls caller = .opening request := by
  cases action with
  | record => exact .inl rfl
  | call other request =>
    rw [commandStep]
    split
    next idle =>
      by_cases here : caller = other
      · subst here
        exact .inr (.inr (.inr ⟨idle, request, update_self _ _ _⟩))
      · exact .inl (update_of_ne here _ _)
    · exact .inl rfl
  | step other reading =>
    by_cases here : caller = other
    · subst here
      exact .inr (.inl ⟨reading, rfl, update_self _ _ _⟩)
    · exact .inl (update_of_ne here _ _)
  | crash other =>
    rw [commandStep]
    split
    · exact .inl rfl
    · exact .inl rfl
    · by_cases here : caller = other
      · subst here
        exact .inr (.inr (.inl (update_self _ _ _)))
      · exact .inl (update_of_ne here _ _)

theorem Projects.step (projects : Projects world) (careful : CarefulCommand world action) :
    Projects (commandStep digest world action) where
  absent caller receipt existing after := by
    rcases @commandStep_calls digest world action caller with
      same | ⟨reading, rfl, steps⟩ | crashed | ⟨-, request, opens⟩
    · exact projects.absent caller receipt existing (same.symm.trans after)
    · exact projects.stepCall.1 receipt existing (steps.symm.trans after)
    · rw [crashed] at after
      cases after
    · rw [opens] at after
      cases after
  holds caller receipt after := by
    rcases @commandStep_calls digest world action caller with
      same | ⟨reading, rfl, steps⟩ | crashed | ⟨-, request, opens⟩
    · exact (projects.holds caller receipt (same.symm.trans after)).step projects careful
    · exact projects.stepCall.2 receipt (steps.symm.trans after)
    · rw [crashed] at after
      cases after
    · rw [opens] at after
      cases after

theorem receipt_step (careful : CarefulCommand world action) {caller : ℕ}
    (committed : (world.calls caller).receipt? = some receipt ∨ world.calls caller = .crashed) :
    ((commandStep digest world action).calls caller).receipt? = some receipt ∨
      (commandStep digest world action).calls caller = .crashed := by
  rcases @commandStep_calls digest world action caller with
    same | ⟨reading, rfl, steps⟩ | crashed | ⟨idle, -⟩
  · rw [same]
    exact committed
  · rw [steps]
    rcases committed with goes | crashed
    · exact .inl (stepCall_committed careful goes)
    · rw [crashed]
      exact .inr rfl
  · exact .inr crashed
  · rw [idle] at committed
    rcases committed with goes | crashed
    · cases goes
    · cases crashed

/-! ## What happens to a record -/

/-- Every record stays, with its commands. -/
def Kept (works later : Works) : Prop :=
  ∀ workId record, works.get? workId = some record →
    ∃ record', later.get? workId = some record' ∧ Grows record.commands record'.commands

/-- **Every step only appends commands and links them.** -/
theorem kept_step (action : CommandAction) :
    Kept world.works (commandStep digest world action).works := by
  intro workId record there
  rcases @commandStep_works digest world action with same | ⟨other, updated, after, kind⟩
  · exact ⟨record, same ▸ there, .refl _⟩
  rw [after]
  by_cases here : workId = other
  · subst here
    refine ⟨updated, get?_set_self _ _ _, ?_⟩
    rcases kind with ⟨caller, reading, request, receipt, -, -, -, accepts, new, rfl⟩ |
      ⟨stamp, op, rfl, runs⟩
    · cases (accept_ok accepts).2 with
      | replayed => cases new
      | @appended current updated found context unknown goes moved =>
        obtain ⟨-, -, -, commands⟩ := moved
        rw [there] at found
        cases found
        dsimp only
        rw [commands]
        exact .append _ _
      | created absent fresh =>
        rw [there] at absent
        cases absent
    · obtain ⟨current, found, move⟩ := RecordOp.run_ok runs
      rw [there] at found
      cases found
      rcases move.commands with same | ⟨index, command, executionId, stands, unset, links⟩
      · rw [same]
        exact .refl _
      · rw [links]
        exact .link stands unset executionId
  · exact ⟨record, (get?_set_of_ne _ here _).trans there, .refl _⟩

theorem Kept.refl (works : Works) : Kept works works :=
  fun _ record there => ⟨record, there, .refl _⟩

theorem Kept.trans {first second third : Works} (left : Kept first second)
    (right : Kept second third) : Kept first third := by
  intro workId record there
  obtain ⟨middle, here, grows⟩ := left workId record there
  obtain ⟨last, stands, further⟩ := right workId middle here
  exact ⟨last, stands, grows.trans further⟩

end Audiagentic.Work
