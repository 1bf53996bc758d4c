import Audiagentic.Work.Records
import Audiagentic.Foundations.Runs

/-!
# Works that wait for an interaction

A Work that waits for a decision names an interaction, whose record lies in a store of its own.
Any number of callers ask, answer, poll, resume, reconcile and cancel.  Each reading of a file, each
writing of an interaction and each section under the lock of a Work is one step; between two steps
of a caller the others may take any number of theirs.  What a caller has read is kept as its call.
-/

namespace Audiagentic.Work

open Foundations

/-! ## Interactions -/

/-- How far a question to the operator has come. -/
inductive InteractionState where
  | pending
  | answered
  | expired
deriving DecidableEq

/-- The `answer` of an interaction. -/
structure Answer where
  choice : Option Text
  details : Fields

/-- The file of a question to the operator. -/
structure Interaction where
  requestId : Text
  kind : Text
  title : Text
  description : Text
  choices : List Text
  state : InteractionState
  answer : Option Answer
  sourceKind : Text
  sourceId : Text
  requestedAt : ℚ
  answeredAt : Option ℚ
  ttlSeconds : ℤ

/-- `_validate_record`, of a record with the types of its fields. -/
def Interaction.validates (interaction : Interaction) : Bool :=
  !interaction.requestId.isEmpty && !interaction.kind.isEmpty && !interaction.title.isEmpty &&
    decide (1 ≤ interaction.ttlSeconds)

/-- Pending beyond its time to live. -/
def Interaction.isExpired (interaction : Interaction) (now : ℚ) : Bool :=
  decide (interaction.state = .pending) &&
    decide (interaction.requestedAt + interaction.ttlSeconds ≤ now)

/-- `ResponseStatus`, as `get_response` gives it. -/
inductive ResponseStatus where
  | answered
  | timedOut

abbrev Interactions := OrderedDict Text Interaction

/-- What a caller asks the operator. -/
structure WaitRequest where
  workId : Text
  kind : Text
  title : Text
  reason : AgentWorkWaitReason
  description : Text
  choices : List Text
  ttlSeconds : ℤ

/-- The record that `request_interaction` writes. -/
def requestInteraction (request : WaitRequest) (requestId : Text) (now : ℚ) : Interaction where
  requestId := requestId
  kind := request.kind
  title := request.title
  description := request.description
  choices := request.choices
  state := .pending
  answer := none
  sourceKind := "agent-work".toList
  sourceId := request.workId
  requestedAt := now
  answeredAt := none
  ttlSeconds := request.ttlSeconds

/-- The record that `respond` writes over the one it has read. -/
def Interaction.respond (interaction : Interaction) (answer : Answer) (now : ℚ) : Interaction :=
  { interaction with
    state := .answered
    answer := some answer
    answeredAt := some now }

/-- The record that `get_response` writes over an expired one. -/
def Interaction.expire (interaction : Interaction) : Interaction :=
  { interaction with state := .expired }

/-! ## Projection of execution states -/

/-- `execution_state.strip().lower()`, looked up in the table of `reconcile_work`. -/
def projectedState (executionState : Text) : Option AgentWorkState :=
  [("queued", .active), ("admitted", .active), ("running", .active), ("active", .active),
    ("waiting", .waiting), ("completed", .completed), ("succeeded", .completed),
    ("failed", .failed), ("interrupted", .failed), ("rejected", .rejected),
    ("cancelled", .cancelled), ("canceled", AgentWorkState.cancelled)].lookup
      (String.ofList ((Text.strip executionState).map Char.toLower))

/-- The state to which `reconcile_work` moves a Work that it was given, if it does. -/
def reconcileTarget (work : AgentWorkRecord) (executionState : Text) : Option AgentWorkState :=
  if work.state.isTerminal then none
  else (projectedState executionState).filter fun target => target ≠ work.state

/-! ## Calls -/

/-- A call under way, by what it is about to do and what it has read. -/
inductive WorkCall where
  /-- `wait_for_interaction`: about to read the Work. -/
  | wait (request : WaitRequest)
  | waitRequest (request : WaitRequest) (work : AgentWorkRecord)
  | waitSet (request : WaitRequest) (work : AgentWorkRecord) (interactionId : Text)
  /-- `respond`. -/
  | respond (requestId : Text) (answer : Answer)
  | respondWrite (interaction : Interaction) (answer : Answer)
  /-- `get_response`, with the clock it was given, if any. -/
  | poll (requestId : Text) (now : Option ℚ)
  | pollExpire (interaction : Interaction)
  /-- `resume_after_interaction`. -/
  | resume (workId : Text)
  | resumePoll (work : AgentWorkRecord) (interactionId : Text)
  | resumeExpire (work : AgentWorkRecord) (interaction : Interaction)
  | resumeSet (work : AgentWorkRecord) (status : ResponseStatus)
  /-- `reconcile_work`, of a Work that is read first. -/
  | reconcile (workId executionState : Text)
  | reconcileSet (work : AgentWorkRecord) (target : AgentWorkState)
  /-- `cancel_work`: the Works that are left to cancel, the next one first. -/
  | cancel (pending : List Text)
  | cancelSet (work : AgentWorkRecord) (pending : List Text)
  | cancelChildren (workId : Text) (pending : List Text)
  /-- `child_work`: the Works that are left to read, and the open children that were read. -/
  | cancelReading (workId : Text) (names children pending : List Text)

/-- What a step gets from outside: the clock of the interactions, the time stamp of the records and
an id that a new interaction draws. -/
structure WorkReading where
  now : ℚ
  stamp : Text
  drawn : Text

/-- The files of the Works and of their interactions. -/
structure WorkFiles where
  works : Works
  interactions : Interactions

/-- The files after a step of a call, and what is left of the call; `none` is a call that has
returned or raised. -/
abbrev Stepped := WorkFiles × Option WorkCall

namespace WorkFiles

variable (files : WorkFiles)

/-- The files stay as they are. -/
def proceed (call : Option WorkCall) : Stepped := (files, call)

/-- The call writes a Work record, unless it raises. -/
def writeWork (workId : Text) (result : Except WorkError AgentWorkRecord)
    (call : Option WorkCall) : Stepped :=
  match result with
  | .ok updated => ({ files with works := files.works.set workId updated }, call)
  | .error _ => (files, none)

/-- The call writes an interaction record, unless it does not validate. -/
def writeInteraction (interaction : Interaction) (call : Option WorkCall) : Stepped :=
  if interaction.validates then
    ({ files with interactions := files.interactions.set interaction.requestId interaction }, call)
  else (files, none)

/-- The open child that a record is, if it is one. -/
def openChild (workId : Text) (child : AgentWorkRecord) : List Text :=
  if child.parentWorkId = some workId && !child.state.isTerminal then [child.workId] else []

/-- One step of a call. -/
def stepCall (reading : WorkReading) : WorkCall → Stepped
  | .wait request =>
    files.proceed ((files.works.get? request.workId).map fun work => .waitRequest request work)
  | .waitRequest request work =>
    files.writeInteraction (requestInteraction request reading.drawn reading.now)
      (some (.waitSet request work reading.drawn))
  | .waitSet request work interactionId =>
    files.writeWork request.workId (files.works.setWaiting request.workId interactionId
      request.reason work.revision reading.stamp) none
  | .respond requestId answer =>
    files.proceed ((files.interactions.get? requestId).map fun interaction =>
      .respondWrite interaction answer)
  | .respondWrite interaction answer =>
    files.writeInteraction (interaction.respond answer reading.now) none
  | .poll requestId now =>
    files.proceed ((files.interactions.get? requestId).bind fun interaction =>
      if interaction.isExpired (now.getD reading.now) then some (.pollExpire interaction)
      else none)
  | .pollExpire interaction => files.writeInteraction interaction.expire none
  | .resume workId =>
    files.proceed ((files.works.get? workId).bind fun work =>
      if isSet work.currentInteractionId then
        work.currentInteractionId.map fun interactionId => .resumePoll work interactionId
      else none)
  | .resumePoll work interactionId =>
    files.proceed ((files.interactions.get? interactionId).bind fun interaction =>
      if interaction.isExpired reading.now then some (.resumeExpire work interaction)
      else match interaction.state with
        | .pending => none
        | .answered => some (.resumeSet work .answered)
        | .expired => some (.resumeSet work .timedOut))
  | .resumeExpire work interaction =>
    files.writeInteraction interaction.expire (some (.resumeSet work .timedOut))
  | .resumeSet work _ =>
    files.writeWork work.workId (files.works.resumeWaiting work.workId work.revision
      reading.stamp) none
  | .reconcile workId executionState =>
    files.proceed ((files.works.get? workId).bind fun work =>
      (reconcileTarget work executionState).map fun target => .reconcileSet work target)
  | .reconcileSet work target =>
    files.writeWork work.workId (files.works.transition work.workId target work.revision none
      reading.stamp) none
  | .cancel [] => files.proceed none
  | .cancel (workId :: pending) =>
    files.proceed ((files.works.get? workId).map fun work =>
      if work.state.isTerminal then .cancel pending else .cancelSet work pending)
  | .cancelSet work pending =>
    files.writeWork work.workId (files.works.transition work.workId .cancelled work.revision none
      reading.stamp) (some (.cancelChildren work.workId pending))
  | .cancelChildren workId pending =>
    files.proceed (some (.cancelReading workId (files.works.sorted.map Prod.fst) [] pending))
  | .cancelReading _ [] children pending => files.proceed (some (.cancel (children ++ pending)))
  | .cancelReading workId (name :: names) children pending =>
    files.proceed ((files.works.get? name).map fun child =>
      .cancelReading workId names (children ++ openChild workId child) pending)

end WorkFiles

/-- The files, and the calls that are under way. -/
structure WorkWorld where
  files : WorkFiles
  calls : ℕ → Option WorkCall

inductive WorkAction where
  /-- A caller that has no call under way makes one. -/
  | call (caller : ℕ) (call : WorkCall)
  | step (caller : ℕ) (reading : WorkReading)

/-- A call that has not begun. -/
def WorkCall.isEntry : WorkCall → Bool
  | .wait _ | .respond _ _ | .poll _ _ | .resume _ | .reconcile _ _ => true
  | .cancel pending => decide (pending.length = 1)
  | _ => false

def workStep (world : WorkWorld) : WorkAction → WorkWorld
  | .call caller call =>
    if world.calls caller = none ∧ call.isEntry then
      { world with calls := Function.update world.calls caller (some call) }
    else world
  | .step caller reading =>
    match world.calls caller with
    | none => world
    | some call =>
      let stepped := world.files.stepCall reading call
      { files := stepped.1, calls := Function.update world.calls caller stepped.2 }

end Audiagentic.Work
