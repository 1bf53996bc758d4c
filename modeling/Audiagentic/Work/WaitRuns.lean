import Audiagentic.Work.WaitSteps

/-!
# Waiting over whole runs

In runs in which no Work is made active without an answer and only pending interactions are
overwritten, a Work waits until it is answered.
-/

namespace Audiagentic.Work

open Foundations OrderedDict Option Function

variable {files : WorkFiles} {reading : WorkReading} {call : WorkCall}

/-! ## Careful steps -/

def WorkFiles.StillWaits (files : WorkFiles) (work : AgentWorkRecord) : Prop :=
  ∃ stored, files.works.get? work.workId = some stored ∧ stored.revision = work.revision ∧
    stored.state = .waiting

/-- The step does not overwrite a settled interaction, does not resume a waiting Work whose
interaction timed out, and does not project a running execution onto a waiting Work. -/
structure CarefulCall (files : WorkFiles) (call : WorkCall) : Prop where
  overwrites : ∀ interaction, call.overwrites = some interaction →
    ∃ stored, files.interactions.get? interaction.requestId = some stored ∧ stored.state = .pending
  resumes : ∀ work, call = .resumeSet work .timedOut → ¬ files.StillWaits work
  reconciles : ∀ work, call = .reconcileSet work .active → ¬ files.StillWaits work

theorem stillWaits_iff {work : AgentWorkRecord} :
    ((files.works.get? work.workId).any fun stored =>
      decide (stored.revision = work.revision) && decide (stored.state = .waiting)) = true ↔
      files.StillWaits work := by
  simp [WorkFiles.StillWaits, Option.any_eq_true]

instance {work : AgentWorkRecord} : Decidable (files.StillWaits work) :=
  decidable_of_iff _ stillWaits_iff

/-- `CarefulCall`, computed. -/
def WorkFiles.carefulCall (files : WorkFiles) (call : WorkCall) : Bool :=
  (call.overwrites.all fun interaction =>
    (files.interactions.get? interaction.requestId).any fun stored =>
      decide (stored.state = .pending)) &&
  match call with
  | .resumeSet work .timedOut => !decide (files.StillWaits work)
  | .reconcileSet work .active => !decide (files.StillWaits work)
  | _ => true

theorem carefulCall_iff : files.carefulCall call = true ↔ CarefulCall files call := by
  unfold WorkFiles.carefulCall
  rw [Bool.and_eq_true]
  have overwrites : (call.overwrites.all fun interaction =>
      (files.interactions.get? interaction.requestId).any fun stored =>
        decide (stored.state = .pending)) = true ↔
      ∀ interaction, call.overwrites = some interaction → ∃ stored,
        files.interactions.get? interaction.requestId = some stored ∧ stored.state = .pending := by
    simp [Option.all_eq_true, Option.any_eq_true]
  rw [overwrites]
  constructor
  · rintro ⟨overwrites, goes⟩
    constructor
    · exact overwrites
    · rintro work rfl
      simpa using goes
    · rintro work rfl
      simpa using goes
  · rintro ⟨overwrites, resumes, reconciles⟩
    refine ⟨overwrites, ?_⟩
    split
    · simpa using resumes _ rfl
    · simpa using reconciles _ rfl
    · rfl

instance : Decidable (CarefulCall files call) := decidable_of_iff _ carefulCall_iff

/-- The id that a new interaction draws is in no record. -/
def DrawsFresh (world : WorkWorld) : WorkAction → Prop
  | .call _ _ => True
  | .step caller reading => (world.calls caller).all (world.files.drawsFresh reading) = true

instance (world : WorkWorld) : ∀ action, Decidable (DrawsFresh world action)
  | .call _ _ => .isTrue trivial
  | .step _ _ => inferInstanceAs (Decidable (_ = true))

def Careful (world : WorkWorld) : WorkAction → Prop
  | .call _ _ => True
  | .step caller _ => ∀ call, world.calls caller = some call → CarefulCall world.files call

instance (world : WorkWorld) (action : WorkAction) : Decidable (Careful world action) :=
  match action with
  | .call _ _ => .isTrue trivial
  | .step caller _ =>
    decidable_of_iff ((world.calls caller).all (world.files.carefulCall ·) = true) (by
      simp [Careful, Option.all_eq_true, carefulCall_iff])

variable {id : Text}

theorem CarefulCall.settled (careful : CarefulCall files call)
    (draws : files.drawsFresh reading call = true) {stored : Interaction}
    (there : files.interactions.get? id = some stored) (settled : stored.state ≠ .pending) :
    (files.stepCall reading call).1.interactions.get? id = some stored := by
  rcases stepCall_interactions draws with same | ⟨written, after, kind⟩
  · rw [same]
    exact there
  rw [after, get?_set, if_neg, there]
  rintro rfl
  rcases kind with ⟨absent, -⟩ | ⟨read, overwrites, here, -⟩
  · rw [absent] at there
    cases there
  obtain ⟨found, present, pending⟩ := careful.overwrites read overwrites
  rw [here, there] at present
  cases present
  exact settled pending

/-! ## The invariant -/

def Known (works : Works) (work : AgentWorkRecord) : Prop :=
  ∃ stored, works.get? work.workId = some stored ∧ work.revision ≤ stored.revision ∧
    (work.revision = stored.revision → work = stored)

/-- A record whose Work is not at work on anything that it waits for. -/
def AgentWorkRecord.Idle (work : AgentWorkRecord) : Prop :=
  work.waitReason = none ∧ work.currentInteractionId = none

structure Sound (world : WorkWorld) : Prop where
  named : ∀ workId work, world.files.works.get? workId = some work → work.workId = workId
  idle : ∀ workId work, world.files.works.get? workId = some work →
    work.state = .submitted ∨ work.state = .active → work.Idle
  known : ∀ caller call work, world.calls caller = some call → call.work? = some work →
    Known world.files.works work
  polled : ∀ caller call, world.calls caller = some call → Polled world.files.interactions call

variable {workId : Text}

theorem Known.of_stored {works : Works}
    (named : ∀ workId work, works.get? workId = some work → work.workId = workId)
    {work : AgentWorkRecord} (there : works.get? workId = some work) : Known works work :=
  ⟨work, (named workId work there).symm ▸ there, le_rfl, fun _ => rfl⟩

variable {stored updated : AgentWorkRecord}

theorem Known.move {works : Works} {work : AgentWorkRecord} (known : Known works work)
    (there : works.get? workId = some stored) (newer : updated.revision = stored.revision + 1) :
    Known (works.set workId updated) work := by
  obtain ⟨current, found, older, same⟩ := known
  unfold Known
  rw [get?_set]
  by_cases here : work.workId = workId
  · rw [here, there] at found
    cases found
    rw [if_pos here]
    exact ⟨updated, rfl, by omega, fun equal => absurd equal (by omega)⟩
  · rw [if_neg here]
    exact ⟨current, found, older, same⟩

theorem Polled.keep {other : WorkCall} (polled : Polled files.interactions other)
    (careful : CarefulCall files call) (draws : files.drawsFresh reading call = true) :
    Polled (files.stepCall reading call).1.interactions other := by
  cases other with
  | resumeSet work status =>
    cases status with
    | answered =>
      obtain ⟨interactionId, interaction, names, there, state⟩ := polled
      refine ⟨interactionId, interaction, names, careful.settled draws there ?_, state⟩
      rw [state]
      exact InteractionState.noConfusion
    | timedOut => trivial
  | resumePoll work interactionId => exact polled
  | _ => trivial

variable {world : WorkWorld}

/-- A Work that is made active by a careful step waited for an interaction that is answered, if it
waited. -/
theorem Sound.answered (sound : Sound world) {caller : ℕ} (under : world.calls caller = some call)
    (careful : CarefulCall world.files call) (there : world.files.works.get? workId = some stored)
    (target : call.target? = some workId) (move : WorkMove stored call updated)
    (active : updated.state = .active) :
    updated.Idle ∧
      (stored.state = .waiting → ∃ interactionId interaction,
        stored.currentInteractionId = some interactionId ∧
          world.files.interactions.get? interactionId = some interaction ∧
            interaction.state = .answered) := by
  cases move with
  | waits | cancels => cases active
  | @resumes work status stamp revision waiting =>
    cases target
    obtain ⟨current, found, -, same⟩ := sound.known caller _ work under rfl
    rw [there] at found
    cases found
    cases status with
    | timedOut => exact absurd ⟨stored, there, revision, waiting⟩ (careful.resumes work rfl)
    | answered =>
      obtain rfl := same revision.symm
      exact ⟨⟨rfl, rfl⟩, fun _ => sound.polled caller _ under⟩
  | @reconciles work target' stamp revision allowed =>
    cases target
    obtain rfl : target' = .active := active
    have notWaiting : stored.state ≠ .waiting := fun waiting =>
      careful.reconciles work rfl ⟨stored, there, revision, waiting⟩
    have submitted : stored.state = .submitted :=
      (to_active allowed).resolve_right notWaiting
    exact ⟨sound.idle _ stored there (.inl submitted), fun waiting => absurd waiting notWaiting⟩

/-- **A careful step of a call.**  The records keep their names and what is known of them. -/
theorem Sound.stepCall (sound : Sound world) {caller : ℕ} (under : world.calls caller = some call)
    (careful : CarefulCall world.files call) (draws : world.files.drawsFresh reading call = true) :
    Sound {
      files := (world.files.stepCall reading call).1
      calls := Function.update world.calls caller (world.files.stepCall reading call).2 } := by
  have kept : ∀ work, Known world.files.works work →
      Known (world.files.stepCall reading call).1.works work := by
    intro work known
    rcases @stepCall_works world.files reading call with same | ⟨_, _, _, -, there, move, after⟩
    · rw [same]
      exact known
    · rw [after]
      exact known.move there move.next.1
  constructor
  · intro workId work there
    rcases @stepCall_works world.files reading call with same | ⟨_, _, _, -, found, move, after⟩
    · exact sound.named workId work (same ▸ there)
    rw [after] at there
    rw [get?_set] at there
    split at there
    next here =>
      cases there
      rw [move.next.2, here]
      exact sound.named _ _ found
    · exact sound.named workId work there
  · intro workId work there state
    rcases @stepCall_works world.files reading call with
      same | ⟨_, _, _, target, found, move, after⟩
    · exact sound.idle workId work (same ▸ there) state
    · rw [after] at there
      rw [get?_set] at there
      split at there
      · cases there
        have active := state.resolve_left move.not_submitted
        exact (sound.answered under careful found target move active).1
      · exact sound.idle workId work there state
  · intro other next work calls reads
    by_cases here : other = caller
    · subst here
      simp only [update_self] at calls
      obtain ⟨same, before⟩ := (stepCall_next calls).work _ reads
      rcases before with read | ⟨workId, there⟩
      · exact kept work (sound.known other call work under read)
      · exact kept work (.of_stored sound.named there)
    · simp only [update_of_ne here] at calls
      exact kept work (sound.known other next work calls reads)
  · intro other next calls
    by_cases here : other = caller
    · subst here
      simp only [update_self] at calls
      exact (stepCall_next calls).polled (sound.polled other call under)
    · simp only [update_of_ne here] at calls
      exact (sound.polled other next calls).keep careful draws

variable {action : WorkAction}

theorem DrawsFresh.under {caller : ℕ} (draws : DrawsFresh world (.step caller reading))
    (under : world.calls caller = some call) : world.files.drawsFresh reading call = true := by
  rw [DrawsFresh, under] at draws
  exact draws

/-- **A careful step of a caller.**  It keeps the invariant. -/
theorem Sound.step (sound : Sound world) (careful : Careful world action)
    (draws : DrawsFresh world action) :
    Sound (workStep world action) := by
  cases action with
  | call caller call =>
    rw [workStep]
    split
    next entry =>
      refine ⟨sound.named, sound.idle, ?_, ?_⟩
      · intro other under work calls reads
        by_cases here : other = caller
        · subst here
          simp only [update_self, Option.some.injEq] at calls
          subst calls
          rw [WorkCall.entry_work entry.2] at reads
          cases reads
        · simp only [update_of_ne here] at calls
          exact sound.known other under work calls reads
      · intro other under calls
        by_cases here : other = caller
        · subst here
          simp only [update_self, Option.some.injEq] at calls
          subst calls
          exact .of_entry entry.2
        · simp only [update_of_ne here] at calls
          exact sound.polled other under calls
    · exact sound
  | step caller reading =>
    rw [workStep]
    cases under : world.calls caller with
    | none => exact sound
    | some call =>
      have allowed : CarefulCall world.files call := careful call under
      exact sound.stepCall under allowed (draws.under under)

/-! ## Runs -/

structure Fresh (world : WorkWorld) : Prop where
  named : ∀ workId work, world.files.works.get? workId = some work → work.workId = workId
  idle : ∀ workId work, world.files.works.get? workId = some work →
    work.state ≠ .waiting ∧ work.Idle
  unasked : ∀ id, world.files.interactions.get? id = none
  quiet : ∀ caller, world.calls caller = none

def AnsweredIn (start : WorkWorld) (actions : List WorkAction) (id : Text) : Prop :=
  ∃ before action later pending answered, actions = before ++ action :: later ∧
    (exec workStep start before).files.interactions.get? id = some pending ∧
    pending.state = .pending ∧
    (exec workStep start (before ++ [action])).files.interactions.get? id = some answered ∧
    answered.state = .answered

def ExpiredIn (start : WorkWorld) (actions : List WorkAction) (id : Text) : Prop :=
  ∃ before later expired, actions = before ++ later ∧
    (exec workStep start before).files.interactions.get? id = some expired ∧
    expired.state = .expired

/-- An action after a run makes a waiting Work active only if the interaction for which it waits was
answered and never expired, and it leaves every settled interaction as it is. -/
structure WaitsForAnswers (start : WorkWorld) (before : List WorkAction) (action : WorkAction) :
    Prop where
  resumed : ∀ workId stored updated,
    (exec workStep start before).files.works.get? workId = some stored →
    stored.state = .waiting →
    (exec workStep start (before ++ [action])).files.works.get? workId = some updated →
    updated.state = .active →
    ∃ id, stored.currentInteractionId = some id ∧ AnsweredIn start before id ∧
      ¬ ExpiredIn start before id
  settled : ∀ id interaction,
    (exec workStep start before).files.interactions.get? id = some interaction →
    interaction.state ≠ .pending →
    (exec workStep start (before ++ [action])).files.interactions.get? id = some interaction

variable {start : WorkWorld}

theorem Fresh.sound (fresh : Fresh start) : Sound start where
  named := fresh.named
  idle workId work there _ := (fresh.idle workId work there).2
  known caller call work calls := by
    rw [fresh.quiet] at calls
    cases calls
  polled caller call calls := by
    rw [fresh.quiet] at calls
    cases calls

variable {actions : List WorkAction}

theorem Sound.run (sound : Sound start) (careful : Admissible workStep Careful start actions)
    (draws : Admissible workStep DrawsFresh start actions) : Sound (exec workStep start actions) :=
  (careful.and draws).invariant (fun _ _ sound both => sound.step both.1 both.2) sound

theorem Careful.settled (careful : Careful world action) (draws : DrawsFresh world action)
    {interaction : Interaction}
    (there : world.files.interactions.get? id = some interaction)
    (settled : interaction.state ≠ .pending) :
    (workStep world action).files.interactions.get? id = some interaction := by
  cases action with
  | call caller call =>
    rw [workStep]
    split <;> exact there
  | step caller reading =>
    rw [workStep]
    cases under : world.calls caller with
    | none => exact there
    | some call => exact CarefulCall.settled (careful call under) (draws.under under) there settled

theorem settled_run (careful : Admissible workStep Careful start actions)
    (draws : Admissible workStep DrawsFresh start actions) {interaction : Interaction}
    (there : start.files.interactions.get? id = some interaction)
    (settled : interaction.state ≠ .pending) :
    (exec workStep start actions).files.interactions.get? id = some interaction := by
  induction actions generalizing start with
  | nil => exact there
  | cons action actions ih =>
    exact ih careful.2 draws.2 (careful.1.settled draws.1 there settled)

variable {answered : Interaction}

theorem workStep_answered (careful : Careful world action) (draws : DrawsFresh world action)
    (there : (workStep world action).files.interactions.get? id = some answered)
    (state : answered.state = .answered) :
    world.files.interactions.get? id = some answered ∨
      ∃ pending, world.files.interactions.get? id = some pending ∧ pending.state = .pending := by
  cases action with
  | call caller call =>
    rw [workStep] at there
    split at there <;> exact .inl there
  | step caller reading =>
    rw [workStep] at there
    cases under : world.calls caller with
    | none =>
      rw [under] at there
      exact .inl there
    | some call =>
      rw [under] at there
      have settled : answered.state ≠ .pending := by
        rw [state]
        exact InteractionState.noConfusion
      rcases stepCall_settled (draws.under under) there settled with same | ⟨read, overwrites, rfl⟩
      · exact .inl same
      · exact .inr ((careful call under).overwrites read overwrites)

/-- **Answers of a careful run.**  What is answered at its end was answered while it was pending. -/
theorem answeredIn_run (fresh : Fresh start) (careful : Admissible workStep Careful start actions)
    (draws : Admissible workStep DrawsFresh start actions)
    (there : (exec workStep start actions).files.interactions.get? id = some answered)
    (state : answered.state = .answered) : AnsweredIn start actions id := by
  induction actions using List.reverseRecOn with
  | nil =>
    rw [exec_nil, fresh.unasked] at there
    cases there
  | append_singleton actions action ih =>
    obtain ⟨earlier, here, -⟩ := admissible_append.mp careful
    obtain ⟨drawn, draws, -⟩ := admissible_append.mp draws
    have last := there
    rw [exec_append, exec_cons, exec_nil] at last
    rcases workStep_answered here draws last state with same | ⟨pending, present, isPending⟩
    · obtain ⟨before, next, later, first, second, rfl, asked, answers⟩ :=
        ih earlier drawn same
      exact ⟨before, next, later ++ [action], first, second, by simp, asked, answers⟩
    · exact ⟨actions, action, [], pending, answered, rfl, present, isPending, there, state⟩

theorem not_expiredIn_run (careful : Admissible workStep Careful start actions)
    (draws : Admissible workStep DrawsFresh start actions)
    (there : (exec workStep start actions).files.interactions.get? id = some answered)
    (state : answered.state = .answered) : ¬ ExpiredIn start actions id := by
  rintro ⟨before, later, expired, rfl, present, isExpired⟩
  obtain ⟨-, rest⟩ := admissible_append.mp careful
  obtain ⟨-, draws⟩ := admissible_append.mp draws
  have settled : expired.state ≠ .pending := by
    rw [isExpired]
    exact InteractionState.noConfusion
  rw [exec_append, settled_run rest draws present settled] at there
  cases there
  rw [state] at isExpired
  cases isExpired

/-- A Work whose record a step of the world replaces is moved by the call that takes the step. -/
theorem workStep_works (before : world.files.works.get? workId = some stored)
    (after : (workStep world action).files.works.get? workId = some updated) :
    updated = stored ∨ ∃ caller reading call, action = .step caller reading ∧
      world.calls caller = some call ∧ call.target? = some workId ∧
        WorkMove stored call updated := by
  cases action with
  | call caller call =>
    rw [workStep] at after
    split at after <;> exact .inl (Option.some.inj (after.symm.trans before))
  | step caller reading =>
    rw [workStep] at after
    cases under : world.calls caller with
    | none =>
      rw [under] at after
      exact .inl (Option.some.inj (after.symm.trans before))
    | some call =>
      rw [under] at after
      rcases @stepCall_works world.files reading call with
        same | ⟨moved, found, replaced, target, present, move, works⟩
      · rw [same] at after
        exact .inl (Option.some.inj (after.symm.trans before))
      · rw [works, get?_set] at after
        split at after
        next here =>
          subst here
          rw [before] at present
          cases present
          cases after
          exact .inr ⟨caller, reading, call, rfl, under, target, move⟩
        · exact .inl (Option.some.inj (after.symm.trans before))

/-- **Waiting.**  In a run in which nothing settled is overwritten, and no Work that still waits is
resumed on a timeout or by a running execution, the Works that are active have nothing to wait for,
waiting Works become active only when they are answered, and settled interactions never change.
No id is drawn twice. -/
theorem waiting_work_waits_for_its_answer {start : WorkWorld} (fresh : Fresh start)
    {actions : List WorkAction} (careful : Admissible workStep Careful start actions)
    (draws : Admissible workStep DrawsFresh start actions) :
    ∀ before later, actions = before ++ later →
      (∀ workId work, (exec workStep start before).files.works.get? workId = some work →
        work.state = .active → work.Idle) ∧
      ∀ action rest, later = action :: rest → WaitsForAnswers start before action := by
  rintro before later rfl
  obtain ⟨earlier, run⟩ := admissible_append.mp careful
  obtain ⟨drawn, draws⟩ := admissible_append.mp draws
  have sound : Sound (exec workStep start before) := fresh.sound.run earlier drawn
  refine ⟨fun workId work there active => sound.idle workId work there (.inr active), ?_⟩
  rintro action rest rfl
  have last : exec workStep start (before ++ [action]) =
      workStep (exec workStep start before) action := by
    rw [exec_append, exec_cons, exec_nil]
  constructor
  · intro workId stored updated there waiting after active
    rw [last] at after
    rcases workStep_works there after with rfl | ⟨caller, reading, call, rfl, under, target, move⟩
    · rw [waiting] at active
      cases active
    obtain ⟨-, answered⟩ :=
      sound.answered under (run.1 call under) there target move active
    obtain ⟨id, interaction, names, present, state⟩ := answered waiting
    exact ⟨id, names, answeredIn_run fresh earlier drawn present state,
      not_expiredIn_run earlier drawn present state⟩
  · intro id interaction there settled
    rw [last]
    exact run.1.settled draws.1 there settled

/-! ## One Work that asks -/

/-- An active Work, and no one at work on it. -/
def activeWork : WorkWorld where
  files := {
    works := OrderedDict.empty.set "w".toList {
      workId := "w".toList
      contextId := "c".toList
      state := .active
      waitReason := none
      activeExecutionId := none
      parentWorkId := none
      currentInteractionId := none
      revision := 1
      createdAt := []
      updatedAt := [] }
    interactions := .empty }
  calls _ := none

theorem activeWork_fresh : Fresh activeWork where
  named workId work there := by
    rw [activeWork, get?_set] at there
    split at there
    next here =>
      cases there
      exact here.symm
    · cases there
  idle workId work there := by
    rw [activeWork, get?_set] at there
    split at there
    · cases there
      exact ⟨AgentWorkState.noConfusion, rfl, rfl⟩
    · cases there
  unasked _ := rfl
  quiet _ := rfl

def stepAt (caller : ℕ) (now : ℚ) : WorkAction :=
  .step caller { now := now, stamp := [], drawn := "i".toList }

def asking : List WorkAction :=
  [.call 0 (.wait {
      workId := "w".toList
      kind := "approval".toList
      title := "Deploy?".toList
      reason := .approval
      description := []
      choices := ["yes".toList, "no".toList]
      ttlSeconds := 3600 }),
    stepAt 0 0, stepAt 0 0, stepAt 0 0]

def answering : List WorkAction :=
  [.call 1 (.respond "i".toList { choice := some "yes".toList, details := .empty }), stepAt 1 60,
    stepAt 1 60, .call 2 (.resume "w".toList), stepAt 2 61, stepAt 2 61]

theorem waiting_work_waits_for_its_answer_answered :
    AnsweredIn activeWork (asking ++ answering) "i".toList := by
  have careful : Admissible workStep Careful activeWork (asking ++ answering ++ [stepAt 2 61]) := by
    decide +kernel
  have draws : Admissible workStep DrawsFresh activeWork
      (asking ++ answering ++ [stepAt 2 61]) := by
    decide +kernel
  have waits := (waiting_work_waits_for_its_answer activeWork_fresh careful draws
    (asking ++ answering) [stepAt 2 61] rfl).2 (stepAt 2 61) [] rfl
  obtain ⟨stored, there, waiting, names⟩ : ∃ stored,
      (exec workStep activeWork (asking ++ answering)).files.works.get? "w".toList = some stored ∧
        stored.state = .waiting ∧ stored.currentInteractionId = some "i".toList :=
    ⟨_, rfl, by decide +kernel, by decide +kernel⟩
  obtain ⟨updated, after, active⟩ : ∃ updated,
      (exec workStep activeWork
        (asking ++ answering ++ [stepAt 2 61])).files.works.get? "w".toList = some updated ∧
          updated.state = .active := ⟨_, rfl, by decide +kernel⟩
  obtain ⟨id, named, answered, -⟩ := waits.resumed _ stored updated there waiting after active
  rw [names] at named
  cases named
  exact answered

/-- No one answers within the hour, and the Work is about to be resumed. -/
def expiring : List WorkAction :=
  [.call 2 (.resume "w".toList), stepAt 2 3600, stepAt 2 3600, stepAt 2 3600]

/-- The expired interaction makes its Work active: an outcome that is no answer is a response. -/
theorem expired_interaction_resumes_its_work :
    ¬ ∀ start before action, Fresh start → WaitsForAnswers start before action := by
  intro waits
  have resumed := (waits activeWork (asking ++ expiring) (stepAt 2 3600) activeWork_fresh).resumed
  have before : ((exec workStep activeWork (asking ++ expiring)).files.works.get? "w".toList).map
      (fun work => (work.state, work.currentInteractionId)) = some (.waiting, some "i".toList) := by
    decide +kernel
  have after : ((exec workStep activeWork
      (asking ++ expiring ++ [stepAt 2 3600])).files.works.get? "w".toList).map
      AgentWorkRecord.state = some .active := by
    decide +kernel
  have expired : ((exec workStep activeWork
      (asking ++ expiring)).files.interactions.get? "i".toList).map Interaction.state =
        some .expired := by
    decide +kernel
  obtain ⟨stored, there, same⟩ := map_eq_some_iff.mp before
  obtain ⟨updated, later, active⟩ := map_eq_some_iff.mp after
  obtain ⟨interaction, present, isExpired⟩ := map_eq_some_iff.mp expired
  obtain ⟨waiting, names⟩ := Prod.mk.inj same
  obtain ⟨id, named, -, notExpired⟩ := resumed _ stored updated there waiting later active
  rw [names] at named
  cases named
  exact notExpired ⟨asking ++ expiring, [], interaction, by simp, present, isExpired⟩

end Audiagentic.Work
