import Audiagentic.Foundations.Checks
import Audiagentic.Foundations.PythonValues
import Mathlib.Data.List.Sort

/-!
# Work records

A Work is one record in a file of its own.  Every change of a record happens under the lock of the
Work: the record is read, checked and replaced as a whole, with the next revision.  The operations
here are these sections; each gives the record that is written, or the error that is raised.
-/

namespace Audiagentic.Work

open Foundations

/-! ## Records -/

/-- The states of the workflow `agent-work`. -/
inductive AgentWorkState where
  | submitted
  | active
  | waiting
  | completed
  | failed
  | cancelled
  | rejected
deriving DecidableEq

/-- What a waiting Work waits for. -/
inductive AgentWorkWaitReason where
  | userInput
  | approval
  | authentication
  | permission
  | dependency
  | childWork

/-- `state in _TERMINAL`. -/
def AgentWorkState.isTerminal : AgentWorkState → Bool
  | completed | failed | cancelled | rejected => true
  | submitted | active | waiting => false

/-- The `transitions` of the workflow `agent-work`. -/
def AgentWorkState.transitions : AgentWorkState → List AgentWorkState
  | submitted => [active, rejected, cancelled, failed]
  | waiting => [active, failed, cancelled]
  | active => [waiting, completed, failed, cancelled]
  | completed | failed | cancelled | rejected => []

def transitionAllowed (old new : AgentWorkState) : Bool := new ∈ old.transitions

/-- `WorkInputMessage`, and the mapping of the same fields. -/
structure WorkInputMessage where
  messageId : Text
  text : Text
  inputs : Fields
  createdAt : Text

/-- An accepted command, with the execution that took it up. -/
structure WorkCommand where
  deliveryKey : Text
  digest : Text
  message : WorkInputMessage
  intent : Fields
  acceptedAt : Text
  executionId : Option Text := none

/-- `record.json` of a Work. -/
structure AgentWorkRecord where
  workId : Text
  contextId : Text
  state : AgentWorkState
  waitReason : Option AgentWorkWaitReason
  activeExecutionId : Option Text
  parentWorkId : Option Text
  currentInteractionId : Option Text
  revision : ℤ
  createdAt : Text
  updatedAt : Text
  commands : List WorkCommand := []

/-- The records, by the names of their directories. -/
abbrev Works := OrderedDict Text AgentWorkRecord

/-- What the operations raise. -/
inductive WorkError where
  /-- `RES-AGW-153`. -/
  | notFound (workId : Text)
  /-- `CON-AGW-` and a number. -/
  | conflict (number : ℕ)
  /-- `RuntimeError("work revision conflict")`. -/
  | revisionConflict
  /-- `ValueError`, with its message. -/
  | invalid (message : String)
  /-- The record of a Work that has none is read under its lock. -/
  | keyError
  /-- `FileExistsError`. -/
  | exists (workId : Text)
  /-- An interaction cannot be read or does not validate. -/
  | interaction

/-- The truth of an optional text. -/
def isSet : Option Text → Bool
  | none => false
  | some text => !text.isEmpty

/-- `first or second`. -/
def orElse (first second : Option Text) : Option Text := if isSet first then first else second

/-- Every write takes the next revision. -/
def AgentWorkRecord.next (record : AgentWorkRecord) (now : Text) : AgentWorkRecord :=
  { record with
    revision := record.revision + 1
    updatedAt := now }

namespace Works

variable (works : Works)

/-- `_from_mapping(load_json_file(path))` under the lock. -/
def load (workId : Text) : Except WorkError AgentWorkRecord :=
  match works.get? workId with
  | some record => .ok record
  | none => .error .keyError

/-- The entries as `sorted(root.glob("*/record.json"))` has them. -/
def sorted : List (Text × AgentWorkRecord) :=
  works.entries.insertionSort fun first second => first.1 ≤ second.1

/-- `AgentWorkStore.list`: the records, by the names of their directories. -/
def list : List AgentWorkRecord := works.sorted.map Prod.snd

/-- `AgentWorkStore.transition`: the workflow decides on the new state. -/
def transition (workId : Text) (target : AgentWorkState) (expectedRevision : ℤ)
    (activeExecutionId : Option Text) (now : Text) : Except WorkError AgentWorkRecord := do
  let current ← load works workId
  refuse (current.revision ≠ expectedRevision) .revisionConflict
  refuse (transitionAllowed current.state target = false) (.invalid "illegal work transition")
  pure { current.next now with
    state := target
    activeExecutionId := orElse activeExecutionId current.activeExecutionId }

/-- `AgentWorkStore.link_execution`: a Work keeps the execution that it is linked to. -/
def linkExecution (workId executionId : Text) (expectedRevision : ℤ) (now : Text) :
    Except WorkError AgentWorkRecord := do
  let current ← load works workId
  refuse (current.revision ≠ expectedRevision) .revisionConflict
  refuse (isSet current.activeExecutionId ∧ current.activeExecutionId ≠ some executionId)
    (.invalid "work already links a different execution")
  pure { current.next now with activeExecutionId := some executionId }

/-- `AgentWorkStore.set_waiting`: only active Work can wait for an interaction. -/
def setWaiting (workId interactionId : Text) (reason : AgentWorkWaitReason) (expectedRevision : ℤ)
    (now : Text) : Except WorkError AgentWorkRecord := do
  let current ← load works workId
  refuse (current.revision ≠ expectedRevision) .revisionConflict
  refuse (current.state ≠ .active) (.invalid "only active work can wait")
  pure { current.next now with
    state := .waiting
    waitReason := some reason
    currentInteractionId := some interactionId }

/-- `AgentWorkStore.resume_waiting`: back to active, without reason and interaction. -/
def resumeWaiting (workId : Text) (expectedRevision : ℤ) (now : Text) :
    Except WorkError AgentWorkRecord := do
  let current ← load works workId
  refuse (current.revision ≠ expectedRevision) .revisionConflict
  refuse (current.state ≠ .waiting) (.invalid "only waiting work can resume")
  pure { current.next now with
    state := .active
    waitReason := none
    currentInteractionId := none }

/-- The files after one of the operations. -/
def write (workId : Text) : Except WorkError AgentWorkRecord → Works
  | .ok updated => works.set workId updated
  | .error _ => works

/-! ## What the operations write -/

variable {works} {workId : Text} {record updated : AgentWorkRecord} {now : Text} {revision : ℤ}

theorem load_eq_ok : load works workId = .ok record ↔ works.get? workId = some record := by
  unfold load
  cases works.get? workId with
  | none => simp
  | some stored => simp

theorem transition_eq_ok {target : AgentWorkState} {executionId : Option Text} :
    transition works workId target revision executionId now = .ok updated ↔
      ∃ current, works.get? workId = some current ∧ current.revision = revision ∧
        transitionAllowed current.state target = true ∧
        { current.next now with
          state := target
          activeExecutionId := orElse executionId current.activeExecutionId } = updated := by
  rw [transition, bind_eq_ok]
  simp only [refuse_bind_eq_ok, load_eq_ok, ne_eq, not_not, Bool.not_eq_false, pure, Except.pure,
    Except.ok.injEq]

theorem linkExecution_eq_ok {executionId : Text} :
    linkExecution works workId executionId revision now = .ok updated ↔
      ∃ current, works.get? workId = some current ∧ current.revision = revision ∧
        ¬ (isSet current.activeExecutionId = true ∧
          current.activeExecutionId ≠ some executionId) ∧
        { current.next now with activeExecutionId := some executionId } = updated := by
  rw [linkExecution, bind_eq_ok]
  simp only [refuse_bind_eq_ok, load_eq_ok, ne_eq, not_not, pure, Except.pure, Except.ok.injEq]

theorem setWaiting_eq_ok {interactionId : Text} {reason : AgentWorkWaitReason} :
    setWaiting works workId interactionId reason revision now = .ok updated ↔
      ∃ current, works.get? workId = some current ∧ current.revision = revision ∧
        current.state = .active ∧
        { current.next now with
          state := .waiting
          waitReason := some reason
          currentInteractionId := some interactionId } = updated := by
  rw [setWaiting, bind_eq_ok]
  simp only [refuse_bind_eq_ok, load_eq_ok, ne_eq, not_not, pure, Except.pure, Except.ok.injEq]

theorem resumeWaiting_eq_ok :
    resumeWaiting works workId revision now = .ok updated ↔
      ∃ current, works.get? workId = some current ∧ current.revision = revision ∧
        current.state = .waiting ∧
        { current.next now with
          state := .active
          waitReason := none
          currentInteractionId := none } = updated := by
  rw [resumeWaiting, bind_eq_ok]
  simp only [refuse_bind_eq_ok, load_eq_ok, ne_eq, not_not, pure, Except.pure, Except.ok.injEq]

end Works

end Audiagentic.Work
