import Audiagentic.Work.Interactions

/-!
# Steps of the calls on Works that wait

What a step does to a Work and to an interaction is said once, by the call that takes it.  A Work
that waits is made active by two calls: by one that resumes it, whatever response it got, and by one
that projects the state of its execution.  An interaction is overwritten by the calls that answer
it or let it expire, whatever its state is by then.
-/

namespace Audiagentic.Work

open Foundations Option

variable {files : WorkFiles} {reading : WorkReading} {call : WorkCall}

/-! ## What a step does to the records -/

inductive WorkMove (stored : AgentWorkRecord) : WorkCall → AgentWorkRecord → Prop where
  | waits {request : WaitRequest} {work : AgentWorkRecord} {interactionId stamp : Text}
      (active : stored.state = .active) :
      WorkMove stored (.waitSet request work interactionId) { stored.next stamp with
        state := .waiting
        waitReason := some request.reason
        currentInteractionId := some interactionId }
  | resumes {work : AgentWorkRecord} {status : ResponseStatus} {stamp : Text}
      (revision : stored.revision = work.revision) (waiting : stored.state = .waiting) :
      WorkMove stored (.resumeSet work status) { stored.next stamp with
        state := .active
        waitReason := none
        currentInteractionId := none }
  | reconciles {work : AgentWorkRecord} {target : AgentWorkState} {stamp : Text}
      (revision : stored.revision = work.revision)
      (allowed : transitionAllowed stored.state target = true) :
      WorkMove stored (.reconcileSet work target) { stored.next stamp with
        state := target
        activeExecutionId := orElse none stored.activeExecutionId }
  | cancels {work : AgentWorkRecord} {pending : List Text} {stamp : Text} :
      WorkMove stored (.cancelSet work pending) { stored.next stamp with
        state := .cancelled
        activeExecutionId := orElse none stored.activeExecutionId }

/-- The Work whose record a call is about to write. -/
def WorkCall.target? : WorkCall → Option Text
  | .waitSet request _ _ => some request.workId
  | .resumeSet work _ => some work.workId
  | .reconcileSet work _ => some work.workId
  | .cancelSet work _ => some work.workId
  | _ => none

theorem writeWork_works (workId : Text) (result : Except WorkError AgentWorkRecord)
    (next : Option WorkCall) :
    (files.writeWork workId result next).1.works = files.works ∨
      ∃ updated, result = .ok updated ∧
        (files.writeWork workId result next).1.works = files.works.set workId updated := by
  cases result with
  | error failure => exact .inl rfl
  | ok updated => exact .inr ⟨updated, rfl, rfl⟩

theorem writeInteraction_works (interaction : Interaction) (next : Option WorkCall) :
    (files.writeInteraction interaction next).1.works = files.works := by
  unfold WorkFiles.writeInteraction
  split <;> rfl

/-- **The Works after a step.**  At most the record of one Work is replaced. -/
theorem stepCall_works :
    (files.stepCall reading call).1.works = files.works ∨
      ∃ workId stored updated, call.target? = some workId ∧
        files.works.get? workId = some stored ∧ WorkMove stored call updated ∧
        (files.stepCall reading call).1.works = files.works.set workId updated := by
  cases call with
  | wait | respond | poll | resume | resumePoll | reconcile | cancelChildren => exact .inl rfl
  | cancel pending | cancelReading _ pending => cases pending with
    | nil | cons => exact .inl rfl
  | waitRequest | respondWrite | pollExpire | resumeExpire =>
    exact .inl (writeInteraction_works _ _)
  | waitSet request work interactionId =>
    refine (writeWork_works _ _ _).imp id ?_
    rintro ⟨updated, written, after⟩
    obtain ⟨stored, there, -, active, rfl⟩ := Works.setWaiting_eq_ok.mp written
    exact ⟨_, stored, _, rfl, there, .waits active, after⟩
  | resumeSet work status =>
    refine (writeWork_works _ _ _).imp id ?_
    rintro ⟨updated, written, after⟩
    obtain ⟨stored, there, revision, waiting, rfl⟩ := Works.resumeWaiting_eq_ok.mp written
    exact ⟨_, stored, _, rfl, there, .resumes revision waiting, after⟩
  | reconcileSet work target =>
    refine (writeWork_works _ _ _).imp id ?_
    rintro ⟨updated, written, after⟩
    obtain ⟨stored, there, revision, allowed, rfl⟩ := Works.transition_eq_ok.mp written
    exact ⟨_, stored, _, rfl, there, .reconciles revision allowed, after⟩
  | cancelSet work pending =>
    refine (writeWork_works _ _ _).imp id ?_
    rintro ⟨updated, written, after⟩
    obtain ⟨stored, there, -, -, rfl⟩ := Works.transition_eq_ok.mp written
    exact ⟨_, stored, _, rfl, there, .cancels, after⟩

theorem WorkMove.next {stored updated : AgentWorkRecord} (move : WorkMove stored call updated) :
    updated.revision = stored.revision + 1 ∧ updated.workId = stored.workId := by
  cases move with
  | waits | resumes | reconciles | cancels => exact ⟨rfl, rfl⟩

theorem to_active {state : AgentWorkState} (allowed : transitionAllowed state .active = true) :
    state = .submitted ∨ state = .waiting := by
  cases state with
  | submitted => exact .inl rfl
  | waiting => exact .inr rfl
  | active | completed | failed | cancelled | rejected => cases allowed

theorem WorkMove.not_submitted {stored updated : AgentWorkRecord}
    (move : WorkMove stored call updated) : updated.state ≠ .submitted := by
  cases move with
  | waits | resumes | cancels => exact AgentWorkState.noConfusion
  | reconciles revision allowed =>
    rintro rfl
    cases state : stored.state <;> rw [state] at allowed <;> cases allowed

/-! ## What a step does to the interactions -/

def WorkCall.overwrites : WorkCall → Option Interaction
  | .respondWrite interaction _ => some interaction
  | .pollExpire interaction => some interaction
  | .resumeExpire _ interaction => some interaction
  | _ => none

theorem writeWork_interactions (workId : Text) (result : Except WorkError AgentWorkRecord)
    (next : Option WorkCall) :
    (files.writeWork workId result next).1.interactions = files.interactions := by
  cases result with
  | error failure => rfl
  | ok updated => rfl

theorem writeInteraction_interactions (interaction : Interaction) (next : Option WorkCall) :
    (files.writeInteraction interaction next).1.interactions = files.interactions ∨
      (files.writeInteraction interaction next).1.interactions =
        files.interactions.set interaction.requestId interaction := by
  unfold WorkFiles.writeInteraction
  split
  · exact .inr rfl
  · exact .inl rfl

/-- An interaction that the call requests draws an id under which there is none (`uuid4`). -/
def WorkFiles.drawsFresh (files : WorkFiles) (reading : WorkReading) : WorkCall → Bool
  | .waitRequest _ _ => !files.interactions.has reading.drawn
  | _ => true

/-- **The interactions after a step.**  At most one record is written: a pending one under an id
that was not in use, or a settled one over the record that the call is about to overwrite. -/
theorem stepCall_interactions (draws : files.drawsFresh reading call = true) :
    (files.stepCall reading call).1.interactions = files.interactions ∨
      ∃ written : Interaction,
        (files.stepCall reading call).1.interactions =
          files.interactions.set written.requestId written ∧
        ((files.interactions.get? written.requestId = none ∧ written.state = .pending) ∨
          ∃ read, call.overwrites = some read ∧ read.requestId = written.requestId ∧
            written.state ≠ .pending) := by
  cases call with
  | wait | respond | poll | resume | resumePoll | reconcile | cancelChildren => exact .inl rfl
  | cancel pending | cancelReading _ pending => cases pending with
    | nil | cons => exact .inl rfl
  | waitSet | resumeSet | reconcileSet | cancelSet => exact .inl (writeWork_interactions _ _ _)
  | waitRequest request work =>
    have unused : files.interactions.get? reading.drawn = none :=
      OrderedDict.has_eq_false_iff.mp (Bool.not_eq_true' _ ▸ draws)
    exact (writeInteraction_interactions _ _).imp id fun after => ⟨_, after, .inl ⟨unused, rfl⟩⟩
  | respondWrite interaction | pollExpire interaction =>
    refine (writeInteraction_interactions _ none).imp id fun after => ⟨_, after, .inr ?_⟩
    exact ⟨interaction, rfl, rfl, InteractionState.noConfusion⟩
  | resumeExpire work interaction =>
    refine (writeInteraction_interactions _ _).imp id fun after => ⟨_, after, .inr ?_⟩
    exact ⟨interaction, rfl, rfl, InteractionState.noConfusion⟩

theorem stepCall_settled {id : Text} {after : Interaction}
    (draws : files.drawsFresh reading call = true)
    (there : (files.stepCall reading call).1.interactions.get? id = some after)
    (settled : after.state ≠ .pending) :
    files.interactions.get? id = some after ∨ ∃ read, call.overwrites = some read ∧
      read.requestId = id := by
  rcases stepCall_interactions draws with same | ⟨written, set, kind⟩
  · rw [same] at there
    exact .inl there
  rw [set, OrderedDict.get?_set] at there
  by_cases here : id = written.requestId
  · rw [if_pos here] at there
    cases there
    rcases kind with ⟨-, pending⟩ | ⟨read, overwrites, same, -⟩
    · exact absurd pending settled
    · exact .inr ⟨read, overwrites, same.trans here.symm⟩
  · rw [if_neg here] at there
    exact .inl there

/-! ## What a caller knows -/

def WorkCall.work? : WorkCall → Option AgentWorkRecord
  | .waitRequest _ work | .waitSet _ work _ | .resumePoll work _ | .resumeExpire work _
  | .resumeSet work _ | .reconcileSet work _ | .cancelSet work _ => some work
  | _ => none

def Polled (interactions : Interactions) : WorkCall → Prop
  | .resumePoll work interactionId => work.currentInteractionId = some interactionId
  | .resumeSet work .answered => ∃ interactionId interaction,
      work.currentInteractionId = some interactionId ∧
        interactions.get? interactionId = some interaction ∧ interaction.state = .answered
  | _ => True

theorem writeWork_next {workId : Text} {result : Except WorkError AgentWorkRecord}
    {next : Option WorkCall} {after : WorkCall}
    (goes : (files.writeWork workId result next).2 = some after) : next = some after := by
  cases result with
  | error failure => cases goes
  | ok updated => exact goes

theorem writeInteraction_next {interaction : Interaction} {next : Option WorkCall}
    {after : WorkCall} (goes : (files.writeInteraction interaction next).2 = some after) :
    next = some after := by
  unfold WorkFiles.writeInteraction at goes
  split at goes
  · exact goes
  · cases goes

/-- What is known of the call after a step: it has read a Work record that was read before, or that
is stored, and then the step writes no Work; and it has polled what it goes by. -/
structure Follows (files after : WorkFiles) (call next : WorkCall) : Prop where
  work : ∀ work, next.work? = some work → after.works = files.works ∧
    (call.work? = some work ∨ ∃ workId, files.works.get? workId = some work)
  polled : Polled files.interactions call → Polled after.interactions next

theorem Follows.of_none {after : WorkFiles} {next : WorkCall} (unread : next.work? = none)
    (polled : Polled after.interactions next) : Follows files after call next :=
  ⟨fun _ reads => (nomatch unread.symm.trans reads), fun _ => polled⟩

theorem Follows.of_stored {next : WorkCall} {workId : Text} {stored : AgentWorkRecord}
    (there : files.works.get? workId = some stored) (read : next.work? = some stored)
    (polled : Polled files.interactions next) : Follows files files call next := by
  refine ⟨fun work reads => ⟨rfl, .inr ⟨workId, ?_⟩⟩, fun _ => polled⟩
  rw [there, ← read, reads]

theorem stepCall_next {next : WorkCall} (goes : (files.stepCall reading call).2 = some next) :
    Follows files (files.stepCall reading call).1 call next := by
  cases call with
  | wait request =>
    obtain ⟨stored, there, rfl⟩ := map_eq_some_iff.mp goes
    exact .of_stored there rfl trivial
  | waitRequest request read =>
    cases writeInteraction_next goes
    exact ⟨fun _ reads => ⟨writeInteraction_works _ _, .inl reads⟩, fun _ => trivial⟩
  | respond requestId answer =>
    obtain ⟨interaction, -, rfl⟩ := map_eq_some_iff.mp goes
    exact .of_none rfl trivial
  | poll requestId now =>
    obtain ⟨interaction, -, expires⟩ := bind_eq_some_iff.mp goes
    split at expires
    · cases expires
      exact .of_none rfl trivial
    · cases expires
  | waitSet | resumeSet | reconcileSet => cases writeWork_next goes
  | respondWrite | pollExpire => cases writeInteraction_next goes
  | resume workId =>
    obtain ⟨stored, there, names⟩ := bind_eq_some_iff.mp goes
    split at names
    · obtain ⟨interactionId, named, rfl⟩ := map_eq_some_iff.mp names
      exact .of_stored there rfl named
    · cases names
  | resumePoll read interactionId =>
    obtain ⟨interaction, there, response⟩ := bind_eq_some_iff.mp goes
    split at response
    · cases response
      exact ⟨fun _ reads => ⟨rfl, .inl reads⟩, fun _ => trivial⟩
    split at response
    · cases response
    next state =>
      cases response
      exact ⟨fun _ reads => ⟨rfl, .inl reads⟩,
        fun polled => ⟨interactionId, interaction, polled, there, state⟩⟩
    · cases response
      exact ⟨fun _ reads => ⟨rfl, .inl reads⟩, fun _ => trivial⟩
  | resumeExpire read interaction =>
    cases writeInteraction_next goes
    exact ⟨fun _ reads => ⟨writeInteraction_works _ _, .inl reads⟩, fun _ => trivial⟩
  | reconcile workId executionState =>
    obtain ⟨stored, there, moves⟩ := bind_eq_some_iff.mp goes
    obtain ⟨target, -, rfl⟩ := map_eq_some_iff.mp moves
    exact .of_stored there rfl trivial
  | cancel pending =>
    cases pending with
    | nil => cases goes
    | cons workId pending =>
      obtain ⟨stored, there, rfl⟩ := map_eq_some_iff.mp goes
      split
      · exact .of_none rfl trivial
      · exact .of_stored there rfl trivial
  | cancelSet read pending =>
    cases writeWork_next goes
    exact .of_none rfl trivial
  | cancelChildren workId pending =>
    cases goes
    exact .of_none rfl trivial
  | cancelReading workId names children pending =>
    cases names with
    | nil =>
      cases goes
      exact .of_none rfl trivial
    | cons name names =>
      obtain ⟨child, -, rfl⟩ := map_eq_some_iff.mp goes
      exact .of_none rfl trivial

theorem WorkCall.entry_work (entry : call.isEntry = true) : call.work? = none := by
  cases call with
  | wait | respond | poll | resume | reconcile | cancel => rfl
  | _ => cases entry

theorem Polled.of_entry {interactions : Interactions} (entry : call.isEntry = true) :
    Polled interactions call := by
  cases call with
  | wait | respond | poll | resume | reconcile | cancel => trivial
  | _ => cases entry

end Audiagentic.Work
