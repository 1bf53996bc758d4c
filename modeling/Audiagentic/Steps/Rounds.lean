import Audiagentic.Steps.Sequence

/-!
# The rounds of a sequence

The events of a run name the leaves that it committed, in the order in which they ran, and the
leaves that were compensated.  A sequence is read as its rounds: the steps that it ran, each in its
context; a selection or a condition is read as the branch that it ran.
-/

namespace Audiagentic.Steps

open Foundations List Option

/-! ## The leaves in a list of events -/

/-- The leaves with a compensator that returned `ok`, in the order in which they ran. -/
def committedLeaves (events : List StepEvent) : List Position :=
  events.filterMap fun
    | .ran position true true => some position
    | _ => none

/-- The leaves whose compensator was called, in the order of the calls. -/
def compensatedLeaves (events : List StepEvent) : List Position :=
  events.filterMap fun
    | .compensated position => some position
    | _ => none

@[simp] theorem committedLeaves_append (first second : List StepEvent) :
    committedLeaves (first ++ second) = committedLeaves first ++ committedLeaves second :=
  filterMap_append

@[simp] theorem compensatedLeaves_append (first second : List StepEvent) :
    compensatedLeaves (first ++ second) = compensatedLeaves first ++ compensatedLeaves second :=
  filterMap_append

theorem committedLeaves_under (index : ℕ) (events : List StepEvent) :
    committedLeaves (events.map (StepEvent.under index)) =
      (committedLeaves events).map (List.cons index) := by
  induction events with
  | nil => rfl
  | cons event events ih =>
    cases event with
    | ran position compensable committed =>
      cases compensable <;> cases committed <;>
        simpa [committedLeaves, StepEvent.under] using ih
    | compensated position => simpa [committedLeaves, StepEvent.under] using ih

theorem compensatedLeaves_under (index : ℕ) (events : List StepEvent) :
    compensatedLeaves (events.map (StepEvent.under index)) =
      (compensatedLeaves events).map (List.cons index) := by
  induction events with
  | nil => rfl
  | cons event events ih =>
    cases event with
    | ran | compensated =>
      simpa [compensatedLeaves, StepEvent.under] using ih

theorem committedLeaves_flatMap {α : Type} (items : List α) (events : α → List StepEvent) :
    committedLeaves (items.flatMap events) =
      items.flatMap fun item => committedLeaves (events item) := by
  induction items with
  | nil => rfl
  | cons item items ih => rw [flatMap_cons, committedLeaves_append, ih, flatMap_cons]

theorem compensatedLeaves_flatMap {α : Type} (items : List α) (events : α → List StepEvent) :
    compensatedLeaves (items.flatMap events) =
      items.flatMap fun item => compensatedLeaves (events item) := by
  induction items with
  | nil => rfl
  | cons item items ih => rw [flatMap_cons, compensatedLeaves_append, ih, flatMap_cons]

/-! ## Compensation as a whole -/

mutual
/-- The leaves that the compensation of a step reaches: those with a compensator that are reached
through sequences only, in order. -/
def Step.reached : Step → List Position
  | .leaf primitive => if primitive.compensate.isSome then [[]] else []
  | .sequence _ steps _ _ => reachedAll 0 steps
  | .select _ _ _ _ => []
  | .conditional _ _ _ _ => []

def reachedAll : ℕ → List Step → List Position
  | _, [] => []
  | index, step :: rest => step.reached.map (List.cons index) ++ reachedAll (index + 1) rest
end

theorem compensatedLeaves_events (attempt : Attempt) :
    compensatedLeaves attempt.events =
      (attempt.ran.elim [] fun ran => compensatedLeaves ran.events).map
        (List.cons attempt.index) := by
  obtain ⟨id, index, ran⟩ := attempt
  cases ran with
  | none => rfl
  | some ran => exact compensatedLeaves_under index ran.events

mutual
theorem compensatedLeaves_compensate : ∀ (step : Step) (context : Fields),
    ((step.compensate context).elim [] fun ran => compensatedLeaves ran.events) =
      step.reached.reverse
  | .leaf primitive, context => by
    rw [Step.compensate, Step.reached]
    cases primitive.compensate with
    | none => rfl
    | some compensate => rfl
  | .sequence _ steps _ _, context => by
    rw [Step.compensate, Step.reached]
    exact compensatedLeaves_attempts 0 steps context
  | .select _ _ _ _, _ | .conditional _ _ _ _, _ => by
    rw [Step.compensate, Step.reached]
    rfl

theorem compensatedLeaves_attempts : ∀ (index : ℕ) (steps : List Step) (context : Fields),
    compensatedLeaves (compensateAll (attempts index steps context)).2 =
      (reachedAll index steps).reverse
  | index, [], context => by
    rw [attempts, reachedAll]
    rfl
  | index, step :: rest, context => by
    have here := compensatedLeaves_compensate step context
    have there := compensatedLeaves_attempts (index + 1) rest context
    rw [attempts, reachedAll, reverse_append, ← there, compensateAll, compensateAll,
      reverse_cons, flatMap_append, compensatedLeaves_append, flatMap_singleton,
      compensatedLeaves_events, here, map_reverse]
end

theorem committedLeaves_events (attempt : Attempt) :
    committedLeaves attempt.events =
      (attempt.ran.elim [] fun ran => committedLeaves ran.events).map
        (List.cons attempt.index) := by
  obtain ⟨id, index, ran⟩ := attempt
  cases ran with
  | none => rfl
  | some ran => exact committedLeaves_under index ran.events

mutual
theorem committedLeaves_compensate : ∀ (step : Step) (context : Fields),
    ((step.compensate context).elim [] fun ran => committedLeaves ran.events) = []
  | .leaf primitive, context => by
    rw [Step.compensate]
    cases primitive.compensate with
    | none => rfl
    | some compensate => rfl
  | .sequence _ steps _ _, context => by
    rw [Step.compensate]
    exact committedLeaves_attempts 0 steps context
  | .select _ _ _ _, _ | .conditional _ _ _ _, _ => by
    rw [Step.compensate]
    rfl

theorem committedLeaves_attempts : ∀ (index : ℕ) (steps : List Step) (context : Fields),
    committedLeaves (compensateAll (attempts index steps context)).2 = []
  | index, [], context => by
    rw [attempts]
    rfl
  | index, step :: rest, context => by
    have here := committedLeaves_compensate step context
    have there := committedLeaves_attempts (index + 1) rest context
    rw [compensateAll] at there
    rw [attempts, compensateAll, reverse_cons, flatMap_append, committedLeaves_append,
      flatMap_singleton, committedLeaves_events, here, there]
    rfl
end

/-! ## The rounds of a sequence -/

variable (repr : Text → Text)

def Ran.status (ran : Ran) : Text := ran.caught.status

/-- A step that a sequence runs, with its context. -/
structure Round where
  index : ℕ
  step : Step
  context : Fields

namespace Round

variable (round : Round)

def ran : Ran := round.step.run repr round.context

def left : List Position := committedLeaves (round.ran repr).events

def own : List Position := compensatedLeaves (round.ran repr).events

end Round

/-- The local variables after a round. -/
def Progress.after (progress : Progress) (index : ℕ) (step : Step) (ran : Ran) : Progress :=
  let recorded := progress.record step ran.caught
  if ran.isCommitted then recorded.commit index step else recorded

/-- The rounds of the loop of `SequenceStep.run`. -/
def roundsFrom (failFast : Bool) (context : Fields) : ℕ → List Step → Progress → List Round
  | _, [], _ => []
  | index, step :: rest, progress =>
    let child := progress.childContext context
    let ran := step.run repr child
    ⟨index, step, child⟩ ::
      if ran.isCommitted || !failFast then
        roundsFrom failFast context (index + 1) rest (progress.after index step ran)
      else []

/-- The rounds of a step: none unless it is a sequence. -/
def Step.rounds : Step → Fields → List Round
  | .sequence _ steps failFast _, context => roundsFrom repr failFast context 0 steps {}
  | _, _ => []

variable {repr}
variable {failFast compensateOnFailure : Bool} {context : Fields}

theorem isCommitted_iff {ran : Ran} : ran.isCommitted = true ↔ ran.status = StepStatus.ok := by
  obtain ⟨result, events⟩ := ran
  cases result with
  | ok result => simp [Ran.isCommitted, Ran.status, Ran.caught]
  | error reason => simp [Ran.isCommitted, Ran.status, Ran.caught, StepStatus.failed, StepStatus.ok]

theorem index_le_of_mem_roundsFrom {index : ℕ} {steps : List Step} {progress : Progress}
    {round : Round} (member : round ∈ roundsFrom repr failFast context index steps progress) :
    index ≤ round.index ∧ round.step ∈ steps := by
  induction steps generalizing index progress with
  | nil => cases member
  | cons step rest ih =>
    rw [roundsFrom] at member
    rcases mem_cons.mp member with rfl | member
    · exact ⟨le_rfl, mem_cons_self⟩
    split at member
    · obtain ⟨later, within⟩ := ih member
      exact ⟨Nat.le_of_succ_le later, mem_cons_of_mem _ within⟩
    · cases member

theorem nodup_index_roundsFrom (index : ℕ) (steps : List Step) (progress : Progress) :
    ((roundsFrom repr failFast context index steps progress).map Round.index).Nodup := by
  induction steps generalizing index progress with
  | nil => exact nodup_nil
  | cons step rest ih =>
    rw [roundsFrom, map_cons, nodup_cons]
    split
    · refine ⟨fun member => ?_, ih _ _⟩
      obtain ⟨round, within, same⟩ := List.mem_map.mp member
      have later := (index_le_of_mem_roundsFrom within).1
      rw [same] at later
      exact absurd later (Nat.not_succ_le_self _)
    · exact ⟨not_mem_nil, nodup_nil⟩

def compensationOf (context : Fields) (committed : List (ℕ × Step)) : List StepEvent :=
  (compensateAll (committed.map fun entry =>
    ⟨entry.2.id, entry.1, entry.2.compensate context⟩)).2

def committedSteps (repr : Text → Text) (rounds : List Round) : List (ℕ × Step) :=
  (rounds.filter fun round => (round.ran repr).isCommitted).map fun round =>
    (round.index, round.step)

/-- The statuses with which a sequence ends without failing. -/
def isCalm (status : Text) : Bool :=
  StepStatus.isNonFailure status || decide (status = StepStatus.waitingForInput)

theorem runSteps_cons (index : ℕ) (step : Step) (rest : List Step) (progress : Progress) :
    runSteps repr failFast compensateOnFailure context index (step :: rest) progress =
      ((step.run repr (progress.childContext context)).under index).followedBy
        (if (step.run repr (progress.childContext context)).isCommitted || !failFast then
          runSteps repr failFast compensateOnFailure context (index + 1) rest
            (progress.after index step (step.run repr (progress.childContext context)))
        else if isCalm (step.run repr (progress.childContext context)).status then
          (progress.record step (step.run repr (progress.childContext context)).caught).stop step
            (step.run repr (progress.childContext context)).caught
        else
          (progress.record step (step.run repr (progress.childContext context)).caught).fail
            compensateOnFailure context
            (step.run repr (progress.childContext context)).caught.reason step.id) := by
  rw [runSteps]
  generalize step.run repr (progress.childContext context) = ran
  have caught : (ran.under index).caught = ran.caught := rfl
  have status : ran.caught.status = ran.status := rfl
  simp only [caught, status, Progress.after]
  by_cases ok : ran.status = StepStatus.ok
  · rw [if_pos ok, isCommitted_iff.mpr ok]
    rfl
  have uncommitted : ran.isCommitted = false :=
    Bool.eq_false_iff.mpr fun committed => ok (isCommitted_iff.mp committed)
  rw [if_neg ok, uncommitted, Bool.false_or]
  by_cases quiet : ran.status = StepStatus.skipped ∨ ran.status = StepStatus.waitingForInput
  · have calm : isCalm ran.status = true := by
      rcases quiet with status | status <;> rw [status] <;> decide
    rw [if_pos quiet, calm]
    cases failFast <;> rfl
  · rw [if_neg quiet]
    push Not at quiet
    have calm : isCalm ran.status = StepStatus.isNonFailure ran.status := by
      simp [isCalm, quiet.2]
    rw [calm]
    cases StepStatus.isNonFailure ran.status <;> cases failFast <;> rfl

theorem events_finish (progress : Progress) :
    (progress.finish compensateOnFailure context).events =
      if compensateOnFailure ∧ (progress.finish compensateOnFailure context).status =
          StepStatus.failed then
        compensationOf context progress.committed
      else [] := by
  unfold Progress.finish
  cases progress.records.find? fun record => !StepStatus.isNonFailure record.status with
  | none =>
    have different : StepStatus.ok ≠ StepStatus.failed := by decide
    exact (if_neg fun failed => different failed.2).symm
  | some failed =>
    cases compensateOnFailure with
    | true => exact (if_pos ⟨rfl, rfl⟩).symm
    | false => exact (if_neg fun failed => absurd failed.1 (by decide)).symm

@[simp] theorem events_followedBy (ran next : Ran) :
    (ran.followedBy next).events = ran.events ++ next.events := rfl

@[simp] theorem status_followedBy (ran next : Ran) :
    (ran.followedBy next).status = next.status := rfl

theorem committed_after (progress : Progress) (index : ℕ) (step : Step) (ran : Ran) :
    (progress.after index step ran).committed =
      progress.committed ++ if ran.isCommitted then [(index, step)] else [] := by
  unfold Progress.after
  cases ran.isCommitted with
  | true => rfl
  | false => exact (append_nil _).symm

theorem committedSteps_cons (round : Round) (rounds : List Round) :
    committedSteps repr (round :: rounds) =
      (if (round.ran repr).isCommitted then [(round.index, round.step)] else []) ++
        committedSteps repr rounds := by
  unfold committedSteps
  cases committed : (round.ran repr).isCommitted with
  | true | false => simp [committed]

theorem isCalm_failed : isCalm StepStatus.failed = false := by decide

/-- The events of a sequence: those of its rounds, and the compensation of the committed steps when
the sequence fails and compensates. -/
theorem events_runSteps (index : ℕ) (steps : List Step) (progress : Progress) :
    (runSteps repr failFast compensateOnFailure context index steps progress).events =
      ((roundsFrom repr failFast context index steps progress).flatMap fun round =>
        (round.ran repr).events.map (StepEvent.under round.index)) ++
      if compensateOnFailure ∧ (runSteps repr failFast compensateOnFailure context index steps
          progress).status = StepStatus.failed then
        compensationOf context (progress.committed ++
          committedSteps repr (roundsFrom repr failFast context index steps progress))
      else [] := by
  induction steps generalizing index progress with
  | nil =>
    rw [runSteps, roundsFrom]
    simpa [committedSteps] using events_finish progress
  | cons step rest ih =>
    rw [runSteps_cons, roundsFrom, flatMap_cons, committedSteps_cons, events_followedBy,
      status_followedBy, append_assoc]
    refine congrArg _ ?_
    have ran : Round.ran repr ⟨index, step, progress.childContext context⟩ =
      step.run repr (progress.childContext context) := rfl
    rw [ran]
    generalize step.run repr (progress.childContext context) = ran
    by_cases goes : (ran.isCommitted || !failFast) = true
    · rw [if_pos goes, if_pos goes, ih, committed_after, append_assoc]
    rw [if_neg goes, if_neg goes]
    simp only [Bool.or_eq_true, not_or, Bool.not_eq_true] at goes
    rw [goes.1, if_neg Bool.false_ne_true, flatMap_nil, nil_append]
    cases calm : isCalm ran.status with
    | true =>
      refine (if_neg fun failed => ?_).symm
      have status : ran.status = StepStatus.failed := failed.2
      rw [status, isCalm_failed] at calm
      cases calm
    | false =>
      change (progress.compensation compensateOnFailure context).2 = _
      cases compensateOnFailure with
      | true =>
        refine Eq.trans ?_ (if_pos ⟨rfl, rfl⟩).symm
        exact congrArg (compensationOf context) (append_nil _).symm
      | false => exact (if_neg fun failed => absurd failed.1 Bool.false_ne_true).symm

/-- The status that is recorded for a round, where the rounds of a sequence that does not fail fast
have all been recorded. -/
theorem calm_of_mem_roundsFrom {index : ℕ} {steps : List Step} {progress : Progress}
    (calm : (runSteps repr failFast compensateOnFailure context index steps progress).status ≠
      StepStatus.failed) :
    (failFast = false → ∀ record ∈ progress.records, StepStatus.isNonFailure record.status = true) ∧
    ∀ round ∈ roundsFrom repr failFast context index steps progress,
      isCalm (round.ran repr).status = true := by
  induction steps generalizing index progress with
  | nil =>
    refine ⟨fun _ record member => ?_, fun _ impossible => nomatch impossible⟩
    rw [runSteps, Progress.finish] at calm
    cases found : progress.records.find? fun record =>
        !StepStatus.isNonFailure record.status with
    | some failed => rw [found] at calm; exact absurd rfl calm
    | none => simpa using find?_eq_none.mp found record member
  | cons step rest ih =>
    rw [runSteps_cons, status_followedBy] at calm
    rw [roundsFrom]
    have ran : Round.ran repr ⟨index, step, progress.childContext context⟩ =
      step.run repr (progress.childContext context) := rfl
    rw [forall_mem_cons, ran]
    generalize step.run repr (progress.childContext context) = ran at calm ⊢
    have recorded : (progress.after index step ran).records =
        progress.records ++ [⟨step.id, ran.status, ran.caught.outputs⟩] := by
      unfold Progress.after
      cases ran.isCommitted with
      | true => rfl
      | false => rfl
    by_cases goes : (ran.isCommitted || !failFast) = true
    · rw [if_pos goes] at calm ⊢
      obtain ⟨records, rounds⟩ := ih calm
      rw [recorded] at records
      refine ⟨fun slow record member => records slow record (mem_append_left _ member), ?_, rounds⟩
      rcases Bool.or_eq_true_iff.mp goes with committed | slow
      · rw [isCommitted_iff.mp committed]
        rfl
      · have nonFailure := records (by simpa using slow)
          ⟨step.id, ran.status, ran.caught.outputs⟩ (by simp)
        exact Bool.or_eq_true_iff.mpr (.inl nonFailure)
    · rw [if_neg goes] at calm ⊢
      simp only [Bool.or_eq_true, not_or, Bool.not_eq_true] at goes
      refine ⟨fun slow => ?_, ?_, fun _ impossible => nomatch impossible⟩
      · rw [slow] at goes
        simp at goes
      · by_contra loud
        rw [if_neg loud] at calm
        exact calm rfl

/-! ## Steps with branches -/

def variantAt : ℕ → List (Text × Step) → Text → Option (ℕ × Step)
  | _, [], _ => none
  | index, (other, step) :: rest, key =>
    if other = key then some (index, step) else variantAt (index + 1) rest key

def Step.branch? : Step → Fields → Option (ℕ × Step)
  | .select _ selector variants fallback, context =>
    match selector context with
    | .error _ => none
    | .ok key =>
      (key.bind fun key => variantAt 0 variants key).or
        (fallback.map fun step => (variants.length, step))
  | .conditional _ conditionKey whenTrue whenFalse, context =>
    if (context.read conditionKey).truthy then some (0, whenTrue)
    else whenFalse.map fun step => (1, step)
  | _, _ => none

def Step.isSequence : Step → Bool
  | .sequence _ _ _ _ => true
  | _ => false

theorem runVariant_eq (index : ℕ) (variants : List (Text × Step)) (key : Text) :
    runVariant repr index variants key context =
      (variantAt index variants key).map fun branch =>
        (branch.2.run repr context).under branch.1 := by
  induction variants generalizing index with
  | nil => rw [runVariant, variantAt]; rfl
  | cons variant rest ih =>
    obtain ⟨other, step⟩ := variant
    rw [runVariant, variantAt]
    split
    · rfl
    · exact ih (index + 1)

theorem runBranch_eq (index : ℕ) (branch : Option Step) :
    runBranch repr index branch context =
      branch.map fun step => (step.run repr context).under index := by
  cases branch with
  | none | some => rw [runBranch]; rfl

theorem mem_of_variantAt {index found : ℕ} {variants : List (Text × Step)} {key : Text}
    {step : Step} (at_ : variantAt index variants key = some (found, step)) :
    ∃ variant ∈ variants, variant.2 = step := by
  induction variants generalizing index with
  | nil => cases at_
  | cons variant rest ih =>
    obtain ⟨other, first⟩ := variant
    rw [variantAt] at at_
    split at at_
    · cases at_
      exact ⟨_, mem_cons_self, rfl⟩
    · obtain ⟨variant, within, same⟩ := ih at_
      exact ⟨variant, mem_cons_of_mem _ within, same⟩

theorem run_of_branch {step branch : Step} {index : ℕ}
    (chosen : step.branch? context = some (index, branch)) :
    step.run repr context = (branch.run repr context).under index := by
  cases step with
  | leaf | sequence => cases chosen
  | select id selector variants fallback =>
    rw [Step.run]
    rw [Step.branch?] at chosen
    cases selected : selector context with
    | error error => rw [selected] at chosen; cases chosen
    | ok key =>
      have variant : (key.bind fun key => runVariant repr 0 variants key context) =
          (key.bind fun key => variantAt 0 variants key).map fun branch =>
            (branch.2.run repr context).under branch.1 := by
        cases key with
        | none => rfl
        | some key => exact runVariant_eq 0 variants key
      rw [selected] at chosen
      simp only [variant, runBranch_eq] at chosen ⊢
      cases found : key.bind fun key => variantAt 0 variants key with
      | some branch =>
        rw [found] at chosen
        cases chosen
        rfl
      | none =>
        rw [found] at chosen
        cases fallback with
        | none => cases chosen
        | some step =>
          cases chosen
          rfl
  | conditional id conditionKey whenTrue whenFalse =>
    rw [Step.run]
    rw [Step.branch?] at chosen
    by_cases holds : (context.read conditionKey).truthy = true
    · rw [if_pos holds] at chosen ⊢
      cases chosen
      rfl
    rw [if_neg holds] at chosen ⊢
    rw [runBranch_eq]
    cases whenFalse with
    | none => cases chosen
    | some step =>
      cases chosen
      rfl

/-- A step that is no sequence and runs no branch calls no compensator, and commits a leaf only when
it is one that returned `ok`. -/
theorem events_of_no_branch {step : Step} (simple : step.isSequence = false)
    (none_ : step.branch? context = none) :
    compensatedLeaves (step.run repr context).events = [] ∧
      ((step.run repr context).isCommitted = false →
        committedLeaves (step.run repr context).events = []) := by
  cases step with
  | leaf primitive =>
    rw [Step.run]
    refine ⟨rfl, fun uncommitted => ?_⟩
    change Ran.isCommitted ⟨primitive.run context, []⟩ = false at uncommitted
    simp [committedLeaves, uncommitted]
  | sequence id steps failFast compensateOnFailure => cases simple
  | select id selector variants fallback =>
    rw [Step.run]
    rw [Step.branch?] at none_
    cases selected : selector context with
    | error error => exact ⟨rfl, fun _ => rfl⟩
    | ok key =>
      rw [selected] at none_
      obtain ⟨noVariant, noFallback⟩ := or_eq_none_iff.mp none_
      obtain rfl := map_eq_none_iff.mp noFallback
      cases key with
      | none => exact ⟨rfl, fun _ => rfl⟩
      | some key =>
        have missing : runVariant repr 0 variants key context = none := by
          rw [runVariant_eq, show variantAt 0 variants key = none from noVariant]
          rfl
        simp only [bind_some, missing, runBranch]
        exact ⟨rfl, fun _ => rfl⟩
  | conditional id conditionKey whenTrue whenFalse =>
    rw [Step.run]
    rw [Step.branch?] at none_
    by_cases holds : (context.read conditionKey).truthy = true
    · rw [if_pos holds] at none_
      cases none_
    rw [if_neg holds] at none_ ⊢
    obtain rfl := map_eq_none_iff.mp none_
    rw [runBranch]
    exact ⟨rfl, fun _ => rfl⟩

/-- **Induction over steps**, by the substeps that a run may go into. -/
theorem Step.induction {motive : Step → Prop}
    (simple : ∀ step, step.isSequence = false →
      (∀ context index branch, step.branch? context = some (index, branch) → motive branch) →
        motive step)
    (sequence : ∀ id steps failFast compensateOnFailure, (∀ step ∈ steps, motive step) →
      motive (.sequence id steps failFast compensateOnFailure)) (step : Step) : motive step := by
  match step with
  | .leaf primitive => exact simple _ rfl fun _ _ _ impossible => nomatch impossible
  | .sequence id steps failFast compensateOnFailure =>
    exact sequence id steps failFast compensateOnFailure fun substep member =>
      Step.induction simple sequence substep
  | .select id selector variants fallback =>
    refine simple _ rfl fun context index branch chosen => ?_
    have within : (∃ variant ∈ variants, variant.2 = branch) ∨ fallback = some branch := by
      rw [Step.branch?] at chosen
      cases selected : selector context with
      | error error => rw [selected] at chosen; cases chosen
      | ok key =>
        rw [selected] at chosen
        rcases or_eq_some_iff.mp chosen with variant | ⟨-, other⟩
        · obtain ⟨key, rfl, found⟩ := bind_eq_some_iff.mp variant
          exact .inl (mem_of_variantAt found)
        · obtain ⟨step, rfl, same⟩ := map_eq_some_iff.mp other
          exact .inr (congrArg some (Prod.mk.inj same).2)
    rcases within with ⟨⟨key, variant⟩, member, rfl⟩ | other
    · exact Step.induction simple sequence variant
    · exact Step.induction simple sequence branch
  | .conditional id conditionKey whenTrue whenFalse =>
    refine simple _ rfl fun context index branch chosen => ?_
    have within : branch = whenTrue ∨ whenFalse = some branch := by
      rw [Step.branch?] at chosen
      by_cases holds : (context.read conditionKey).truthy = true
      · rw [if_pos holds] at chosen
        exact .inl (Prod.mk.inj (Option.some.inj chosen)).2.symm
      · rw [if_neg holds] at chosen
        obtain ⟨step, rfl, same⟩ := map_eq_some_iff.mp chosen
        exact .inr (congrArg some (Prod.mk.inj same).2)
    rcases within with here | other
    · rw [here]
      exact Step.induction simple sequence whenTrue
    · exact Step.induction simple sequence branch
termination_by sizeOf step
decreasing_by
  · have smaller := sizeOf_lt_of_mem member
    simp only [Step.sequence.sizeOf_spec]
    omega
  · have smaller := sizeOf_lt_of_mem member
    simp only [Step.select.sizeOf_spec]
    simp at smaller
    omega
  · rw [other]
    simp only [Step.select.sizeOf_spec, Option.some.sizeOf_spec]
    omega
  · simp only [Step.conditional.sizeOf_spec]
    omega
  · rw [other]
    simp only [Step.conditional.sizeOf_spec, Option.some.sizeOf_spec]
    omega

end Audiagentic.Steps
