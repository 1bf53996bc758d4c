import Audiagentic.Foundations.PythonValues

/-!
# Steps and their compensation

A step is a leaf, a sequence of steps, a selection of one of several variants, or a condition with
one or two branches.  A sequence runs its steps in order.  It stops at the first step that does not
return `ok`, unless it is not to fail fast, and when it fails it may compensate the steps that it
has committed, the last one first.  A sequence that is compensated compensates all its steps.

What a run does to the leaves is kept as a list of events beside its result, under the positions of
the leaves in the tree.
-/

namespace Audiagentic.Steps

open Foundations

/-! ## Results -/

namespace StepStatus

def ok : Text := "ok".toList
def skipped : Text := "skipped".toList
def planned : Text := "planned".toList
def waitingForInput : Text := "waiting_for_input".toList
def failed : Text := "failed".toList

/-- `status in _NON_FAILURE`. -/
def isNonFailure (status : Text) : Bool :=
  decide (status = ok ∨ status = skipped ∨ status = planned)

end StepStatus

structure CompensationRecord where
  id : Text
  status : Text
  reason : Option Text := none
  outputs : Option Fields := none

def textValue (text : Text) : Json Scalar := .scalar (.str text)

def CompensationRecord.toJson (record : CompensationRecord) : Json Scalar :=
  .map ([("id".toList, textValue record.id), ("status".toList, textValue record.status),
      ("phase".toList, textValue "compensation".toList)] ++
    (record.reason.map fun reason => ("reason".toList, textValue reason)).toList ++
    (record.outputs.map fun outputs => ("outputs".toList, .map outputs.entries)).toList)

/-- `StepResult`, with the fields of `SequenceResult`. -/
structure StepResult where
  status : Text
  outputs : Fields := ∅
  reason : Option Text := none
  question : Option (Json Scalar) := none
  compensation : List CompensationRecord := []
  failedStep : Option Text := none

/-! ## Steps -/

/-- A step without substeps.  What it returns or raises is arbitrary, as is what its compensator
does; a leaf may have none. -/
structure Leaf where
  id : Text
  run : Fields → Except Text StepResult
  compensate : Option (Fields → Except Text StepResult)

inductive Step where
  | leaf (primitive : Leaf)
  | sequence (id : Text) (steps : List Step) (failFast compensateOnFailure : Bool)
  | select (id : Text) (selector : Fields → Except Text (Option Text))
      (variants : List (Text × Step)) (fallback : Option Step)
  | conditional (id : Text) (conditionKey : Text) (whenTrue : Step) (whenFalse : Option Step)

def Step.id : Step → Text
  | .leaf primitive => primitive.id
  | .sequence id _ _ _ => id
  | .select id _ _ _ => id
  | .conditional id _ _ _ => id

/-- The way from a step down to a leaf. -/
abbrev Position := List ℕ

inductive StepEvent where
  /-- A leaf ran; whether it has a compensator, and whether it returned `ok`. -/
  | ran (position : Position) (compensable committed : Bool)
  | compensated (position : Position)

def StepEvent.under (index : ℕ) : StepEvent → StepEvent
  | .ran position compensable committed => .ran (index :: position) compensable committed
  | .compensated position => .compensated (index :: position)

/-- What a step returns or raises, and what happens to its leaves. -/
structure Ran where
  result : Except Text StepResult
  events : List StepEvent

def Ran.under (index : ℕ) (ran : Ran) : Ran :=
  { ran with events := ran.events.map (StepEvent.under index) }

/-- The step returned `ok`. -/
def Ran.isCommitted (ran : Ran) : Bool :=
  match ran.result with
  | .ok result => decide (result.status = StepStatus.ok)
  | .error _ => false

/-! ## Compensation -/

/-- A step whose turn it is in `_compensate`; `none` is a step without `compensate`. -/
structure Attempt where
  id : Text
  index : ℕ
  ran : Option Ran

def Attempt.record (attempt : Attempt) : CompensationRecord :=
  match attempt.ran with
  | none =>
    { id := attempt.id, status := StepStatus.skipped, reason := some "not compensable".toList }
  | some ⟨.ok result, _⟩ =>
    { id := attempt.id, status := result.status, outputs := some result.outputs }
  | some ⟨.error reason, _⟩ =>
    { id := attempt.id, status := StepStatus.failed, reason := some reason }

def Attempt.events (attempt : Attempt) : List StepEvent :=
  match attempt.ran with
  | none => []
  | some ran => (ran.under attempt.index).events

/-- `_compensate`. -/
def compensateAll (attempts : List Attempt) : List CompensationRecord × List StepEvent :=
  (attempts.reverse.map Attempt.record, attempts.reverse.flatMap Attempt.events)

/-- The result of `SequenceStep.compensate`. -/
def compensated (compensation : List CompensationRecord) : StepResult :=
  let failed := compensation.find? fun entry => entry.status = StepStatus.failed
  { status := if failed.isSome then StepStatus.failed else StepStatus.ok
    outputs := OrderedDict.set ∅ "rollback_steps".toList
      (.list (compensation.map CompensationRecord.toJson))
    compensation := compensation
    reason := failed.bind CompensationRecord.reason }

mutual
/-- `getattr(step, "compensate", None)`, called with a context. -/
def Step.compensate : Step → Fields → Option Ran
  | .leaf primitive, context =>
    primitive.compensate.map fun compensate => ⟨compensate context, [.compensated []]⟩
  | .sequence _ steps _ _, context =>
    let compensation := compensateAll (attempts 0 steps context)
    some ⟨.ok (compensated compensation.1), compensation.2⟩
  | .select _ _ _ _, _ => none
  | .conditional _ _ _ _, _ => none

def attempts : ℕ → List Step → Fields → List Attempt
  | _, [], _ => []
  | index, step :: rest, context =>
    ⟨step.id, index, step.compensate context⟩ :: attempts (index + 1) rest context
end

/-! ## Runs -/

/-- One entry of `outputs["steps"]`. -/
structure StepRecord where
  id : Text
  status : Text
  outputs : Fields

def StepRecord.toJson (record : StepRecord) : Json Scalar :=
  .map [("id".toList, textValue record.id), ("status".toList, textValue record.status),
    ("outputs".toList, .map record.outputs.entries)]

/-- The local variables of `SequenceStep.run`. -/
structure Progress where
  committed : List (ℕ × Step) := []
  records : List StepRecord := []
  outputs : Fields := ∅
  statuses : Fields := ∅

namespace Progress

def childContext (progress : Progress) (context : Fields) : Fields :=
  (context.set "step_results".toList (.map progress.outputs.entries)).set "step_status".toList
    (.map progress.statuses.entries)

def record (progress : Progress) (step : Step) (result : StepResult) : Progress :=
  { progress with
    records := progress.records ++ [⟨step.id, result.status, result.outputs⟩]
    outputs := progress.outputs.set step.id (.map result.outputs.entries)
    statuses := progress.statuses.set step.id (textValue result.status) }

def commit (progress : Progress) (index : ℕ) (step : Step) : Progress :=
  { progress with committed := progress.committed ++ [(index, step)] }

/-- `{"steps": records, **outputs}`. -/
def allOutputs (progress : Progress) : Fields :=
  (OrderedDict.set ∅ "steps".toList (.list (progress.records.map StepRecord.toJson))).update
    progress.outputs

/-- `self._compensate(committed, context) if self.compensate_on_failure else []`. -/
def compensation (progress : Progress) (compensateOnFailure : Bool) (context : Fields) :
    List CompensationRecord × List StepEvent :=
  if compensateOnFailure then
    compensateAll (progress.committed.map fun entry =>
      ⟨entry.2.id, entry.1, entry.2.compensate context⟩)
  else ([], [])

def fail (progress : Progress) (compensateOnFailure : Bool) (context : Fields)
    (reason : Option Text) (failedStep : Text) : Ran :=
  let compensation := progress.compensation compensateOnFailure context
  ⟨.ok { status := StepStatus.failed
         outputs := progress.allOutputs
         reason := reason
         compensation := compensation.1
         failedStep := some failedStep }, compensation.2⟩

/-- The sequence ends with a step that neither committed nor failed. -/
def stop (progress : Progress) (step : Step) (result : StepResult) : Ran :=
  ⟨.ok { status := result.status
         outputs := progress.allOutputs
         reason := result.reason
         question := result.question
         failedStep := some step.id }, []⟩

/-- The sequence has no steps left. -/
def finish (progress : Progress) (compensateOnFailure : Bool) (context : Fields) : Ran :=
  match progress.records.find? fun record => !StepStatus.isNonFailure record.status with
  | some failed => progress.fail compensateOnFailure context none failed.id
  | none => ⟨.ok { status := StepStatus.ok, outputs := progress.allOutputs }, []⟩

end Progress

def Ran.caught (ran : Ran) : StepResult :=
  match ran.result with
  | .ok result => result
  | .error reason => { status := StepStatus.failed, reason := some reason }

/-- The run goes on with another one. -/
def Ran.followedBy (ran next : Ran) : Ran := { next with events := ran.events ++ next.events }

variable (repr : Text → Text)

mutual
/-- `step.run(context)`. -/
def Step.run : Step → Fields → Ran
  | .leaf primitive, context =>
    let result := primitive.run context
    ⟨result, [.ran [] primitive.compensate.isSome (Ran.isCommitted ⟨result, []⟩)]⟩
  | .sequence _ steps failFast compensateOnFailure, context =>
    runSteps failFast compensateOnFailure context 0 steps {}
  | .select _ selector variants fallback, context =>
    match selector context with
    | .error error => ⟨.error error, []⟩
    | .ok key =>
      match key.bind fun key => runVariant 0 variants key context with
      | some ran => ran
      | none =>
        match runBranch variants.length fallback context with
        | some ran => ran
        | none =>
          match key with
          | none => ⟨.ok { status := StepStatus.skipped
                           reason := some "no variant selected".toList }, []⟩
          | some key => ⟨.ok { status := StepStatus.failed
                               reason := some ("no variant for key ".toList ++
                                 repr key) }, []⟩
  | .conditional _ conditionKey whenTrue whenFalse, context =>
    if (context.read conditionKey).truthy then (whenTrue.run context).under 0
    else
      match runBranch 1 whenFalse context with
      | some ran => ran
      | none => ⟨.ok { status := StepStatus.skipped
                       reason := some "condition not met".toList }, []⟩

/-- `variants.get(key)`, run. -/
def runVariant : ℕ → List (Text × Step) → Text → Fields → Option Ran
  | _, [], _, _ => none
  | index, (other, step) :: rest, key, context =>
    if other = key then some ((step.run context).under index)
    else runVariant (index + 1) rest key context

def runBranch : ℕ → Option Step → Fields → Option Ran
  | _, none, _ => none
  | index, some step, context => some ((step.run context).under index)

/-- The loop of `SequenceStep.run`. -/
def runSteps (failFast compensateOnFailure : Bool) (context : Fields) :
    ℕ → List Step → Progress → Ran
  | _, [], progress => progress.finish compensateOnFailure context
  | index, step :: rest, progress =>
    let ran := (step.run (progress.childContext context)).under index
    let result := ran.caught
    let progress := progress.record step result
    if result.status = StepStatus.ok then
      ran.followedBy (runSteps failFast compensateOnFailure context (index + 1) rest
        (progress.commit index step))
    else if result.status = StepStatus.skipped ∨
        result.status = StepStatus.waitingForInput then
      if failFast then ran.followedBy (progress.stop step result)
      else
        ran.followedBy (runSteps failFast compensateOnFailure context (index + 1) rest progress)
    else if StepStatus.isNonFailure result.status && !failFast then
      ran.followedBy (runSteps failFast compensateOnFailure context (index + 1) rest progress)
    else if StepStatus.isNonFailure result.status then
      ran.followedBy (progress.stop step result)
    else if !failFast then
      ran.followedBy (runSteps failFast compensateOnFailure context (index + 1) rest progress)
    else
      ran.followedBy (progress.fail compensateOnFailure context result.reason step.id)
end

end Audiagentic.Steps
