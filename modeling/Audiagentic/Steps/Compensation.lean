import Audiagentic.Steps.Rounds
import Audiagentic.Foundations.Reversals

/-!
# What a failing sequence compensates

A committed step is compensated as a whole, so that what is compensated are the leaves that its
`compensate` reaches, and every other step has to have undone what it committed by itself.
-/

namespace Audiagentic.Steps

open Foundations List

variable {repr : Text → Text} {failFast compensateOnFailure : Bool} {context : Fields}

/-! ## What undoes itself -/

variable (repr) in
/-- The round is undone after the sequence has ended: a sequence that compensates reaches exactly
the leaves that the round committed, and any other sequence leaves nothing to undo. -/
def Round.IsReverted (compensates : Bool) (round : Round) : Prop :=
  if compensates then round.step.reached = round.left repr else round.left repr = []

variable (repr) in
def Step.compensates (step : Step) (context : Fields) : Bool :=
  match step with
  | .sequence _ _ _ compensateOnFailure =>
    compensateOnFailure && decide ((step.run repr context).status = StepStatus.failed)
  | _ => false

variable (repr) in
/-- A step that is not committed leaves nothing to undo.  A step without substeps does so, and a
selection or a condition when its branch does.  A sequence does when every step that it committed is
undone after it has ended, every other one leaves nothing to undo, and no step commits a leaf after
one that is not committed has. -/
inductive SelfUndone : Step → Fields → Prop where
  | simple {step : Step} {context : Fields} (simple : step.isSequence = false)
      (none : step.branch? context = none) : SelfUndone step context
  | branch {step branch : Step} {context : Fields} {index : ℕ}
      (chosen : step.branch? context = some (index, branch)) (undone : SelfUndone branch context) :
      SelfUndone step context
  | sequence {id : Text} {steps : List Step} {failFast compensateOnFailure : Bool}
      {context : Fields}
      (reverted : ∀ round ∈ (Step.sequence id steps failFast compensateOnFailure).rounds repr
        context, (round.ran repr).isCommitted = true → round.IsReverted repr
          ((Step.sequence id steps failFast compensateOnFailure).compensates repr context))
      (undone : ∀ round ∈ (Step.sequence id steps failFast compensateOnFailure).rounds repr context,
        (round.ran repr).isCommitted = false → SelfUndone round.step round.context)
      (ordered : ((Step.sequence id steps failFast compensateOnFailure).rounds repr
        context).Pairwise fun round other => (round.ran repr).isCommitted = false →
          round.left repr = [] ∨ other.left repr = []) :
      SelfUndone (.sequence id steps failFast compensateOnFailure) context

theorem compensatedLeaves_of_calm (step : Step) : ∀ context,
    isCalm (step.run repr context).status = true →
      compensatedLeaves (step.run repr context).events = [] := by
  induction step using Step.induction with
  | simple step simple branches =>
    intro context calm
    cases chosen : step.branch? context with
    | none => exact (events_of_no_branch simple chosen).1
    | some branch =>
      obtain ⟨index, branch⟩ := branch
      rw [run_of_branch chosen] at calm ⊢
      have inside := branches context index branch chosen context calm
      rw [Ran.under, compensatedLeaves_under, inside]
      rfl
  | sequence id steps failFast compensateOnFailure substeps =>
    intro context calm
    rw [Step.run] at calm ⊢
    have notFailed : (runSteps repr failFast compensateOnFailure context 0 steps {}).status ≠
        StepStatus.failed := by
      intro failed
      rw [failed, isCalm_failed] at calm
      cases calm
    rw [events_runSteps, if_neg fun both => notFailed both.2, append_nil,
      compensatedLeaves_flatMap, flatMap_eq_nil_iff]
    intro round member
    have inside := substeps round.step (index_le_of_mem_roundsFrom member).2 round.context
      ((calm_of_mem_roundsFrom notFailed).2 round member)
    rw [compensatedLeaves_under]
    exact map_eq_nil_iff.mpr inside

/-! ## A failing sequence -/

/-- The round as a round whose marks are the leaves that it committed. -/
def Round.toUndo (repr : Text → Text) (compensates : Bool) (round : Round) :
    UndoRound ℕ Position where
  number := round.index
  committed := (round.ran repr).isCommitted
  left := round.left repr
  own := round.own repr
  whole := if compensates then round.step.reached.reverse else []

def join (entry : ℕ × Position) : Position := entry.1 :: entry.2

theorem join_injective : Function.Injective join := by
  rintro ⟨index, position⟩ ⟨index', position'⟩ same
  obtain ⟨rfl, rfl⟩ := List.cons.inj same
  rfl

theorem map_join_under (round : UndoRound ℕ Position) (marks : List Position) :
    (round.under marks).map join = marks.map (List.cons round.number) := by
  rw [UndoRound.under, List.map_map]
  rfl

theorem compensatedLeaves_compensationOf (rounds : List Round) :
    compensatedLeaves (compensationOf context (committedSteps repr rounds)) =
      (UndoRound.wholes (rounds.map (Round.toUndo repr true))).map join := by
  have each : ∀ round : Round,
      compensatedLeaves (Attempt.events
        ⟨round.step.id, round.index, round.step.compensate context⟩) =
          ((round.toUndo repr true).under (round.toUndo repr true).whole).map join := by
    intro round
    rw [compensatedLeaves_events, map_join_under]
    exact congrArg _ (compensatedLeaves_compensate round.step context)
  rw [compensationOf, compensateAll, compensatedLeaves_flatMap, committedSteps, UndoRound.wholes,
    List.filter_map, map_flatMap]
  simp only [← map_reverse, flatMap_map]
  exact flatMap_congr fun round _ => each round

theorem committedLeaves_compensationOf (committed : List (ℕ × Step)) :
    committedLeaves (compensationOf context committed) = [] := by
  rw [compensationOf, compensateAll, committedLeaves_flatMap, flatMap_eq_nil_iff]
  intro attempt member
  obtain ⟨entry, -, rfl⟩ := List.mem_map.mp (mem_reverse.mp member)
  rw [committedLeaves_events, committedLeaves_compensate]
  rfl

theorem wholes_of_not_compensates (rounds : List Round) :
    UndoRound.wholes (rounds.map (Round.toUndo repr false)) = [] := by
  rw [UndoRound.wholes, flatMap_eq_nil_iff]
  intro round member
  obtain ⟨round, -, rfl⟩ :=
    List.mem_map.mp (mem_of_mem_filter (mem_reverse.mp member))
  rfl

theorem map_join_flatMap (rounds : List Round) (marks : Round → List Position)
    (undo : Round → UndoRound ℕ Position) (numbered : ∀ round, (undo round).number = round.index)
    (same : UndoRound ℕ Position → List Position)
    (marked : ∀ round, same (undo round) = marks round) :
    ((rounds.map undo).flatMap fun round => round.under (same round)).map join =
      rounds.flatMap fun round => (marks round).map (List.cons round.index) := by
  rw [map_flatMap, flatMap_map]
  refine flatMap_congr fun round _ => ?_
  rw [map_join_under, marked, numbered]

section Sequences

variable {id : Text} {steps : List Step}

theorem committedLeaves_sequence (compensates : Bool) :
    committedLeaves ((Step.sequence id steps failFast compensateOnFailure).run repr
        context).events =
      (UndoRound.lefts (((Step.sequence id steps failFast compensateOnFailure).rounds repr
        context).map (Round.toUndo repr compensates))).map join := by
  rw [Step.run, events_runSteps, committedLeaves_append, committedLeaves_flatMap, UndoRound.lefts,
    map_join_flatMap _ (Round.left repr) _ (fun _ => rfl) _ fun _ => rfl]
  have nothing : ∀ (condition : Prop) [Decidable condition] (committed : List (ℕ × Step)),
      committedLeaves (if condition then compensationOf context committed else []) = [] := by
    intro condition _ committed
    split
    · exact committedLeaves_compensationOf committed
    · rfl
  rw [nothing, append_nil]
  exact flatMap_congr fun round _ => committedLeaves_under _ _

theorem compensatedLeaves_sequence :
    compensatedLeaves ((Step.sequence id steps failFast compensateOnFailure).run repr
        context).events =
      (UndoRound.owns (((Step.sequence id steps failFast compensateOnFailure).rounds repr
        context).map (Round.toUndo repr ((Step.sequence id steps failFast
          compensateOnFailure).compensates repr context))) ++
      UndoRound.wholes (((Step.sequence id steps failFast compensateOnFailure).rounds repr
        context).map (Round.toUndo repr ((Step.sequence id steps failFast
          compensateOnFailure).compensates repr context)))).map join := by
  rw [map_append, UndoRound.owns,
    map_join_flatMap _ (Round.own repr) _ (fun _ => rfl) _ fun _ => rfl, Step.compensates, Step.run,
    events_runSteps, compensatedLeaves_append, compensatedLeaves_flatMap]
  refine congrArg₂ _ (flatMap_congr fun round _ => compensatedLeaves_under _ _) ?_
  by_cases both : compensateOnFailure = true ∧
      (runSteps repr failFast compensateOnFailure context 0 steps {}).status = StepStatus.failed
  · rw [if_pos both, both.1, decide_eq_true (both.1 ▸ both.2)]
    exact compensatedLeaves_compensationOf _
  · rw [if_neg both]
    have spared : (compensateOnFailure && decide ((runSteps repr failFast compensateOnFailure
        context 0 steps {}).status = StepStatus.failed)) = false := by simpa using both
    rw [spared, wholes_of_not_compensates]
    rfl

/-- A sequence undoes what it committed, in the reverse order, exactly when its rounds do. -/
theorem sequence_undoes_iff :
    compensatedLeaves ((Step.sequence id steps failFast compensateOnFailure).run repr
        context).events =
      (committedLeaves ((Step.sequence id steps failFast compensateOnFailure).run repr
        context).events).reverse ↔
    (∀ round ∈ (Step.sequence id steps failFast compensateOnFailure).rounds repr context,
      if (round.ran repr).isCommitted then round.IsReverted repr
        ((Step.sequence id steps failFast compensateOnFailure).compensates repr context)
      else round.own repr = (round.left repr).reverse) ∧
    ((Step.sequence id steps failFast compensateOnFailure).rounds repr context).Pairwise
      fun round other => (round.ran repr).isCommitted = false →
        round.left repr = [] ∨ other.left repr = [] := by
  rw [compensatedLeaves_sequence, committedLeaves_sequence ((Step.sequence id steps failFast
    compensateOnFailure).compensates repr context)]
  generalize (Step.sequence id steps failFast compensateOnFailure).compensates repr context =
    compensates
  have numbered : (((Step.sequence id steps failFast compensateOnFailure).rounds repr context).map
      (Round.toUndo repr compensates) |>.map UndoRound.number).Nodup := by
    rw [List.map_map]
    exact nodup_index_roundsFrom 0 steps {}
  have later : ∀ round ∈ ((Step.sequence id steps failFast compensateOnFailure).rounds repr
      context).map (Round.toUndo repr compensates), round.committed = true → round.own = [] := by
    intro round member committed
    obtain ⟨round, -, rfl⟩ := List.mem_map.mp member
    refine compensatedLeaves_of_calm round.step round.context ?_
    rw [show (round.step.run repr round.context).status = _ from isCommitted_iff.mp committed]
    rfl
  rw [← map_reverse, (map_injective_iff.mpr join_injective).eq_iff,
    UndoRound.undone_eq_reverse_iff numbered later, pairwise_map, List.forall_mem_map]
  refine and_congr (forall₂_congr fun round _ => ?_) Iff.rfl
  change (if (round.ran repr).isCommitted then _ else _) = (round.left repr).reverse ↔ _
  cases (round.ran repr).isCommitted with
  | false => exact Iff.rfl
  | true =>
    change (if compensates then round.step.reached.reverse else []) = _ ↔
      (if compensates then _ else _)
    cases compensates with
    | true => exact reverse_inj
    | false => exact eq_comm.trans reverse_eq_nil_iff

end Sequences

/-- **A step that is not committed** has undone what it committed, in the reverse order, exactly
when it undoes itself. -/
theorem undoneBy_eq_reverse_iff (step : Step) : ∀ context,
    (step.run repr context).isCommitted = false →
      (compensatedLeaves (step.run repr context).events =
        (committedLeaves (step.run repr context).events).reverse ↔
          SelfUndone repr step context) := by
  induction step using Step.induction with
  | simple step simple branches =>
    intro context uncommitted
    cases chosen : step.branch? context with
    | none =>
      obtain ⟨nothing, silent⟩ := @events_of_no_branch repr context step simple chosen
      rw [nothing, silent uncommitted]
      exact iff_of_true rfl (.simple simple chosen)
    | some branch =>
      obtain ⟨index, branch⟩ := branch
      rw [run_of_branch chosen] at uncommitted ⊢
      have inside := branches context index branch chosen context uncommitted
      rw [Ran.under, compensatedLeaves_under, committedLeaves_under, ← map_reverse,
        (map_injective_iff.mpr (cons_injective (a := index))).eq_iff, inside]
      refine ⟨fun undone => .branch chosen undone, fun undone => ?_⟩
      cases undone with
      | simple _ none_ => rw [chosen] at none_; cases none_
      | branch chosen' undone => rw [chosen] at chosen'; cases chosen'; exact undone
      | sequence => cases simple
  | sequence id steps failFast compensateOnFailure substeps =>
    intro context uncommitted
    rw [sequence_undoes_iff]
    have inside : ∀ round ∈ (Step.sequence id steps failFast compensateOnFailure).rounds repr
        context, (round.ran repr).isCommitted = false →
          (round.own repr = (round.left repr).reverse ↔ SelfUndone repr round.step round.context) :=
      fun round member => substeps round.step (index_le_of_mem_roundsFrom member).2 round.context
    constructor
    · rintro ⟨each, ordered⟩
      refine .sequence (fun round member committed => ?_) (fun round member open_ => ?_) ordered
      · simpa [committed] using each round member
      · exact (inside round member open_).mp (by simpa [open_] using each round member)
    · intro undone
      cases undone with
      | simple simple | branch simple => cases simple
      | sequence reverted undone ordered =>
        refine ⟨fun round member => ?_, ordered⟩
        cases committed : (round.ran repr).isCommitted with
        | true => exact reverted round member committed
        | false => exact (inside round member committed).mpr (undone round member committed)

/-! ## The outermost sequence -/

/-- **The outermost sequence.**  When it fails with compensation enabled, the leaves whose
compensators are called are the compensable leaves that returned `ok`, each once and the last one
first, exactly when the sequence undoes itself. -/
theorem failing_sequence_undoes_committed_iff (id : Text) (steps : List Step) (failFast : Bool)
    (context : Fields)
    (failed : ((Step.sequence id steps failFast true).run repr context).status =
      StepStatus.failed) :
    compensatedLeaves ((Step.sequence id steps failFast true).run repr context).events =
        (committedLeaves ((Step.sequence id steps failFast true).run repr context).events).reverse ↔
      SelfUndone repr (.sequence id steps failFast true) context := by
  refine undoneBy_eq_reverse_iff _ context (Bool.eq_false_iff.mpr fun committed => ?_)
  have both := failed.symm.trans (isCommitted_iff.mp committed)
  exact absurd both (by decide)

/-- A leaf that returns a status, and whose compensator, if it has one, raises. -/
def plainLeaf (status : Text) (compensable : Bool) : Step :=
  .leaf ⟨"leaf".toList, fun _ => .ok { status := status },
    if compensable then some fun _ => .error "broken".toList else none⟩

/-- A committed leaf, a committed sequence of two, and a leaf that fails. -/
def nestedSteps : List Step :=
  [plainLeaf StepStatus.ok true,
    .sequence "inner".toList [plainLeaf StepStatus.ok true, plainLeaf StepStatus.ok true] true
      false,
    plainLeaf StepStatus.failed true]

theorem failing_sequence_undoes_committed_iff_nested :
    compensatedLeaves ((Step.sequence "outer".toList nestedSteps true true).run (fun key => key)
        ∅).events = [[1, 1], [1, 0], [0]] ∧
      SelfUndone (fun key => key) (.sequence "outer".toList nestedSteps true true) ∅ :=
  ⟨by decide +kernel, (failing_sequence_undoes_committed_iff "outer".toList nestedSteps true ∅
      (by decide +kernel)).mp (by decide +kernel)⟩

/-- A committed sequence with a skipped leaf, a committed leaf under a condition, and a leaf that
fails. -/
def branchingSteps : List Step :=
  [.sequence "inner".toList [plainLeaf StepStatus.skipped true] false false,
    .conditional "condition".toList "missing".toList (plainLeaf StepStatus.ok true)
      (some (plainLeaf StepStatus.ok true)),
    plainLeaf StepStatus.failed true]

/-- The leaf that returned `ok` is not compensated, and the one that was skipped is. -/
theorem failing_sequence_compensates_skipped_leaf :
    ((Step.sequence "outer".toList branchingSteps true true).run (fun key => key) ∅).status =
        StepStatus.failed ∧
      committedLeaves ((Step.sequence "outer".toList branchingSteps true true).run (fun key => key)
        ∅).events = [[1, 1]] ∧
      compensatedLeaves ((Step.sequence "outer".toList branchingSteps true true).run
        (fun key => key) ∅).events = [[0, 0]] ∧
      compensatedLeaves ((Step.sequence "outer".toList branchingSteps true true).run
        (fun key => key) ∅).events ≠
          (committedLeaves ((Step.sequence "outer".toList branchingSteps true true).run
            (fun key => key) ∅).events).reverse := by
  decide +kernel

end Audiagentic.Steps
