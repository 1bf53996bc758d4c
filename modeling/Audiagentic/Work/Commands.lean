import Audiagentic.Work.Records
import Audiagentic.Foundations.Runs

/-!
# Work commands

A command of a caller is accepted by one replacement of the Work record, and its message is then
written to the inputs file of the Work: the file is read in one step and rewritten in another, after
the locks are released.  An acceptance is known by its delivery key, a message in the file by its
message id.  Any number of callers accept, link and move Works, and a caller may crash between two
steps.
-/

namespace Audiagentic.Work

open Foundations

/-! ## Acceptance -/

/-- What `accept_command` returns. -/
structure WorkCommandReceipt where
  work : AgentWorkRecord
  command : WorkCommand
  replayed : Bool

/-- The command that was accepted under a delivery key. -/
def AgentWorkRecord.command? (record : AgentWorkRecord) (deliveryKey : Text) :
    Option WorkCommand :=
  record.commands.find? fun command => command.deliveryKey = deliveryKey

namespace Works

variable (works : Works)

/-- The delivery is a replay. -/
def knows (workId deliveryKey : Text) : Bool :=
  (works.get? workId).any fun current => (current.command? deliveryKey).isSome

/-- Some other Work of the Context is not terminal. -/
def busy (contextId workId : Text) : Bool :=
  works.list.any fun work =>
    decide (work.contextId = contextId) && decide (work.workId ≠ workId) &&
      !work.state.isTerminal

/-- `_accept_locked`: the receipt, whose record is written unless it is that of a replay. -/
def accept (contextId workId : Text) (command : WorkCommand) (parentWorkId : Option Text)
    (exclusive : Bool) (now : Text) : Except WorkError WorkCommandReceipt := do
  refuse (exclusive = true ∧ busy works contextId workId = true ∧
    knows works workId command.deliveryKey = false) (.conflict 167)
  match works.get? workId with
  | some current =>
    refuse (current.contextId ≠ contextId) (.conflict 160)
    match current.command? command.deliveryKey with
    | some prior =>
      refuse (prior.digest ≠ command.digest) (.conflict 161)
      pure { work := current, command := prior, replayed := true }
    | none =>
      refuse (current.state.isTerminal = true) (.conflict 162)
      let updated := { current.next now with commands := current.commands ++ [command] }
      pure { work := updated, command := command, replayed := false }
  | none =>
    let created : AgentWorkRecord := {
      workId := workId
      contextId := contextId
      state := .submitted
      waitReason := none
      activeExecutionId := none
      parentWorkId := parentWorkId
      currentInteractionId := none
      revision := 0
      createdAt := now
      updatedAt := now
      commands := [command] }
    pure { work := created, command := command, replayed := false }

/-- A command keeps its execution, and the Work runs that of the newest one. -/
def linkCommandExecution (workId deliveryKey executionId now : Text) :
    Except WorkError AgentWorkRecord := do
  let current ← load works workId
  match current.commands.findIdx? fun command => command.deliveryKey = deliveryKey with
  | none => .error (.conflict 165)
  | some index =>
    match current.commands[index]? with
    | none => .error (.conflict 165)
    | some command =>
      if command.executionId = some executionId then pure current
      else
        refuse (isSet command.executionId) (.conflict 166)
        let commands := current.commands.set index
          { command with executionId := some executionId }
        match (commands.filter fun other => isSet other.executionId).getLast? with
        -- `max` of nothing.
        | none => .error (.invalid "max() arg is an empty sequence")
        | some newest =>
          pure { current.next now with
            activeExecutionId := newest.executionId
            commands := commands }

end Works

/-! ## Inputs -/

/-- The inputs file of a Work, by message id. -/
abbrev WorkInputs := OrderedDict Text WorkInputMessage

/-- `==` of two messages in the file. -/
def WorkInputMessage.matches (first second : WorkInputMessage) : Bool :=
  decide (first.messageId = second.messageId) && decide (first.text = second.text) &&
    equalValues (.map first.inputs.entries) (.map second.inputs.entries) &&
    decide (first.createdAt = second.createdAt)

/-! ## Calls -/

/-- The arguments of `accept_work_command`. -/
structure CommandRequest where
  contextId : Text
  deliveryKey : Text
  message : WorkInputMessage
  intent : Fields
  workId : Option Text
  parentWorkId : Option Text
  exclusive : Bool

/-- `work_id or f"work_{delivery_key[:32]}"`. -/
def CommandRequest.resolvedWorkId (request : CommandRequest) : Text :=
  match request.workId with
  | some workId =>
    if workId.isEmpty then "work_".toList ++ request.deliveryKey.take 32 else workId
  | none => "work_".toList ++ request.deliveryKey.take 32

/-- `work_command_digest`, of a text, inputs and an intent. -/
abbrev CommandDigest := Text → Fields → Fields → Text

def CommandRequest.command (request : CommandRequest) (digest : CommandDigest) : WorkCommand where
  deliveryKey := request.deliveryKey
  digest := digest request.message.text request.message.inputs request.intent
  message := request.message
  intent := request.intent
  acceptedAt := request.message.createdAt

/-- A call of `accept_work_command`, by what it is about to do. -/
inductive AcceptCall where
  | idle
  | opening (request : CommandRequest)
  | committing (request : CommandRequest)
  /-- `append_work_input`: about to read the inputs file. -/
  | projecting (receipt : WorkCommandReceipt)
  | rewriting (receipt : WorkCommandReceipt) (existing : WorkInputs)
  | returned (receipt : WorkCommandReceipt)
  | raised (error : WorkError)
  | crashed

/-- The records and the inputs files, with the calls that are under way. -/
structure CommandWorld where
  works : Works
  inputs : Text → WorkInputs
  calls : ℕ → AcceptCall

/-- What a step gets from outside: the time stamp, and whether the Context exists and is open. -/
structure CommandReading where
  stamp : Text
  isOpen : Option Bool

def WorkCommandReceipt.message (receipt : WorkCommandReceipt) : WorkInputMessage :=
  receipt.command.message

namespace CommandWorld

variable (world : CommandWorld) (digest : CommandDigest)

/-- The command is accepted under the lock of the store. -/
def commit (request : CommandRequest) (stamp : Text) : CommandWorld × AcceptCall :=
  match world.works.accept request.contextId request.resolvedWorkId (request.command digest)
      request.parentWorkId request.exclusive stamp with
  | .error error => (world, .raised error)
  | .ok receipt =>
    if receipt.replayed then (world, .projecting receipt)
    else
      ({ world with works := world.works.set request.resolvedWorkId receipt.work },
        .projecting receipt)

/-- The inputs file is read, and its message of the same id compared. -/
def project (receipt : WorkCommandReceipt) : AcceptCall :=
  let existing := world.inputs receipt.work.workId
  match existing.get? receipt.message.messageId with
  | some prior =>
    if prior.matches receipt.message then .returned receipt
    else .raised (.invalid "work message ID payload conflict")
  | none => .rewriting receipt existing

/-- The inputs file is replaced by what was read and the message. -/
def rewrite (receipt : WorkCommandReceipt) (existing : WorkInputs) : CommandWorld :=
  { world with
    inputs := Function.update world.inputs receipt.work.workId
      (existing.set receipt.message.messageId receipt.message) }

def stepCall (reading : CommandReading) : AcceptCall → CommandWorld × AcceptCall
  | .opening request =>
    match reading.isOpen with
    | none => (world, .raised .keyError)
    | some false => (world, .raised (.conflict 164))
    | some true => (world, .committing request)
  | .committing request => world.commit digest request reading.stamp
  | .projecting receipt => (world, world.project receipt)
  | .rewriting receipt existing => (world.rewrite receipt existing, .returned receipt)
  | call => (world, call)

end CommandWorld

/-- The other operations on a record. -/
inductive RecordOp where
  | link (deliveryKey executionId : Text)
  | transition (target : AgentWorkState) (expectedRevision : ℤ) (executionId : Option Text)
  | linkExecution (executionId : Text) (expectedRevision : ℤ)
  | setWaiting (interactionId : Text) (reason : AgentWorkWaitReason) (expectedRevision : ℤ)
  | resumeWaiting (expectedRevision : ℤ)

def RecordOp.run (works : Works) (workId stamp : Text) : RecordOp → Except WorkError AgentWorkRecord
  | .link deliveryKey executionId =>
    works.linkCommandExecution workId deliveryKey executionId stamp
  | .transition target expectedRevision executionId =>
    works.transition workId target expectedRevision executionId stamp
  | .linkExecution executionId expectedRevision =>
    works.linkExecution workId executionId expectedRevision stamp
  | .setWaiting interactionId reason expectedRevision =>
    works.setWaiting workId interactionId reason expectedRevision stamp
  | .resumeWaiting expectedRevision => works.resumeWaiting workId expectedRevision stamp

inductive CommandAction where
  /-- A call that was not made before is made. -/
  | call (caller : ℕ) (request : CommandRequest)
  | step (caller : ℕ) (reading : CommandReading)
  | crash (caller : ℕ)
  | record (workId stamp : Text) (op : RecordOp)

def commandStep (digest : CommandDigest) (world : CommandWorld) : CommandAction → CommandWorld
  | .call caller request =>
    match world.calls caller with
    | .idle => { world with calls := Function.update world.calls caller (.opening request) }
    | _ => world
  | .step caller reading =>
    let stepped := world.stepCall digest reading (world.calls caller)
    { stepped.1 with calls := Function.update world.calls caller stepped.2 }
  | .crash caller =>
    match world.calls caller with
    | .returned _ | .raised _ => world
    | _ => { world with calls := Function.update world.calls caller .crashed }
  | .record workId stamp op =>
    { world with works := world.works.write workId (op.run world.works workId stamp) }

def noWorks : CommandWorld where
  works := .empty
  inputs _ := .empty
  calls _ := .idle

end Audiagentic.Work
