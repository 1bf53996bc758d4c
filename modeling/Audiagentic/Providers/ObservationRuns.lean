import Audiagentic.Providers.Observation
import Mathlib.Data.List.Induction
import Mathlib.Tactic.Linarith

/-!
# Outcomes of an observed phase

What the clock of a tracker says about the observations that were fed to it: when the last progress
was, which observations make up the block of the current candidate, and when a stall was first
suspected.  One step keeps this reading of the clock, so that it holds as long as no observation has
returned an outcome, and the outcome of the next observation is justified by it.
-/

namespace Audiagentic.Providers

open List

abbrev Sighting := Observation × ℚ

namespace Sighting

def hasProgress (sighting : Sighting) : Bool := sighting.1.capabilities.progress

/-- The sighting carries neither progress nor a terminal candidate. -/
def isQuiet (sighting : Sighting) : Bool :=
  !sighting.1.capabilities.progress && !sighting.1.terminalCandidate

end Sighting

def lastProgress (start : ℚ) (fed : List Sighting) : ℚ :=
  fed.foldl (fun time sighting => if sighting.hasProgress then sighting.2 else time) start

theorem lastProgress_append_singleton (start : ℚ) (fed : List Sighting) (sighting : Sighting) :
    lastProgress start (fed ++ [sighting]) =
      if sighting.hasProgress then sighting.2 else lastProgress start fed := by
  rw [lastProgress, foldl_append]
  rfl

/-- A run of terminal candidates of which only the first may carry progress. -/
structure CandidateBlock (fed before : List Sighting) (first : Sighting) (rest : List Sighting) :
    Prop where
  split : fed = before ++ first :: rest
  candidates : ∀ sighting ∈ first :: rest, sighting.1.terminalCandidate = true
  calm : ∀ sighting ∈ rest, sighting.hasProgress = false

/-- The window that a block has to span. -/
def ObservationPolicy.requiredStability (policy : ObservationPolicy) (block : List Sighting) : ℚ :=
  if block.any fun sighting => sighting.1.terminalContradiction then policy.contradictionWindow
  else policy.candidateStabilityWindowSeconds

def VerifiedBlock (policy : ObservationPolicy) (fed : List Sighting) (last : Sighting) : Prop :=
  ∃ before first rest, CandidateBlock (fed ++ [last]) before first rest ∧
    last.1.terminalVerifiedOk = true ∧
    policy.requiredStability (first :: rest) ≤ last.2 - first.2

/-- The entry moves the phase, which was not there before, to `suspectStalled`. -/
def Suspects (policy : ObservationPolicy) (start : ℚ) (before : List Sighting) (entry : Sighting) :
    Prop :=
  ∃ tracker outcome next, (ObservationTracker.start policy start).feed before = some tracker ∧
    tracker.state ≠ .suspectStalled ∧
    tracker.advance entry.1 entry.2 = .ok (outcome, next) ∧
    next.clock.suspectEnteredAt = some entry.2

/-- A stall is suspected since the entry, and nothing but quiet sightings followed. -/
structure Suspicion (policy : ObservationPolicy) (start : ℚ) (fed before : List Sighting)
    (entry : Sighting) (rest : List Sighting) : Prop where
  split : fed = before ++ entry :: rest
  entered : Suspects policy start before entry
  quiet : ∀ sighting ∈ rest, sighting.isQuiet = true

/-- The grace of a suspected stall has passed at the last sighting. -/
def StalledFor (policy : ObservationPolicy) (start : ℚ) (fed : List Sighting) (last : Sighting) :
    Prop :=
  ∃ before entry rest, Suspicion policy start (fed ++ [last]) before entry rest ∧
    policy.suspectGraceSeconds ≤ last.2 - entry.2

/-- The part of the knowledge that later blocks of a step leave as it is. -/
structure Keeps (policy : ObservationPolicy) (start : ℚ) (fed : List Sighting)
    (tracker : ObservationTracker) : Prop where
  governed : tracker.policy = policy
  started : tracker.clock.phaseStartedAt = start
  base : tracker.clock.base = lastProgress start fed
  grace : ∀ deadline, tracker.clock.softGraceDeadline = some deadline →
    deadline = lastProgress start fed + policy.progressLeaseSeconds + policy.softGraceCapSeconds

def KnowsCandidate (fed : List Sighting) (clock : ObservationClock) : Prop :=
  ∃ before first rest, CandidateBlock fed before first rest ∧
    clock.candidateEnteredAt = some first.2 ∧
    clock.candidateGeneration = some clock.progressGeneration ∧
    clock.candidateSawContradiction =
      (first :: rest).any fun sighting => sighting.1.terminalContradiction

/-- The clock says since when a stall is suspected. -/
def KnowsSuspicion (policy : ObservationPolicy) (start : ℚ) (fed : List Sighting)
    (clock : ObservationClock) : Prop :=
  ∃ before entry rest, Suspicion policy start fed before entry rest ∧
    clock.suspectEnteredAt = some entry.2

structure Tracks (policy : ObservationPolicy) (start : ℚ) (fed : List Sighting)
    (tracker : ObservationTracker) : Prop extends Keeps policy start fed tracker where
  reached : (ObservationTracker.start policy start).feed fed = some tracker
  within : ∀ sighting ∈ fed, sighting.2 - start < policy.absoluteCeilingSeconds
  running : tracker.state ≠ .done
  candidate : tracker.state = .candidateTerminal → KnowsCandidate fed tracker.clock
  suspect : tracker.state = .suspectStalled → KnowsSuspicion policy start fed tracker.clock

variable {policy : ObservationPolicy} {start : ℚ} {fed : List Sighting}
variable {tracker : ObservationTracker} {sighting : Sighting}

/-! ## Recording the evidence -/

theorem Keeps.record (keeps : Keeps policy start fed tracker) (positive : 0 < sighting.2) :
    Keeps policy start (fed ++ [sighting]) (tracker.recordEvidence sighting.1 sighting.2) := by
  unfold ObservationTracker.recordEvidence
  by_cases progress : sighting.1.capabilities.progress = true
  · have last : lastProgress start (fed ++ [sighting]) = sighting.2 := by
      rw [lastProgress_append_singleton, Sighting.hasProgress, if_pos progress]
    rw [if_pos progress]
    refine ⟨keeps.governed, keeps.started, ?_, fun deadline impossible => nomatch impossible⟩
    rw [last]
    exact if_neg positive.ne'
  · have last : lastProgress start (fed ++ [sighting]) = lastProgress start fed := by
      rw [lastProgress_append_singleton, Sighting.hasProgress, if_neg progress]
    rw [if_neg progress]
    split
    · refine ⟨keeps.governed, keeps.started, by rw [last]; exact keeps.base, ?_⟩
      rintro deadline ⟨⟩
      rw [last]
      cases earlier : tracker.clock.softGraceDeadline with
      | some deadline => exact keeps.grace deadline earlier
      | none => rw [Option.getD_none, keeps.base, keeps.governed]
    · refine ⟨keeps.governed, keeps.started, by rw [last]; exact keeps.base, ?_⟩
      rw [last]
      exact keeps.grace

theorem Keeps.progressLeaseDeadline_le (keeps : Keeps policy start fed tracker)
    (capped : 0 ≤ policy.softGraceCapSeconds) :
    tracker.progressLeaseDeadline ≤
      lastProgress start fed + policy.progressLeaseSeconds + policy.softGraceCapSeconds := by
  unfold ObservationTracker.progressLeaseDeadline
  rw [keeps.base, keeps.governed]
  cases extended : tracker.clock.softGraceDeadline with
  | none => linarith
  | some deadline =>
    rw [keeps.grace deadline extended]
    exact max_le (by linarith) le_rfl

structure Recorded (tracker : ObservationTracker) (sighting : Sighting)
    (recorded : ObservationTracker) : Prop where
  state : recorded.state = tracker.state
  entered : recorded.clock.candidateEnteredAt = tracker.clock.candidateEnteredAt
  generation : recorded.clock.candidateGeneration = tracker.clock.candidateGeneration
  contradiction : recorded.clock.candidateSawContradiction = tracker.clock.candidateSawContradiction
  suspected : recorded.clock.suspectEnteredAt = tracker.clock.suspectEnteredAt
  progress : recorded.clock.progressGeneration =
    tracker.clock.progressGeneration + if sighting.hasProgress then 1 else 0

theorem recorded_recordEvidence (tracker : ObservationTracker) (sighting : Sighting) :
    Recorded tracker sighting (tracker.recordEvidence sighting.1 sighting.2) := by
  unfold ObservationTracker.recordEvidence
  by_cases progress : sighting.1.capabilities.progress = true
  · rw [if_pos progress]
    exact ⟨rfl, rfl, rfl, rfl, rfl, by rw [Sighting.hasProgress, if_pos progress]⟩
  · rw [if_neg progress]
    split <;> exact ⟨rfl, rfl, rfl, rfl, rfl, by rw [Sighting.hasProgress, if_neg progress]; rfl⟩

/-! ## Moving the state -/

theorem Keeps.of_clock {moved : ObservationTracker} (keeps : Keeps policy start fed tracker)
    (governed : moved.policy = tracker.policy)
    (started : moved.clock.phaseStartedAt = tracker.clock.phaseStartedAt)
    (base : moved.clock.base = tracker.clock.base)
    (grace : moved.clock.softGraceDeadline = tracker.clock.softGraceDeadline) :
    Keeps policy start fed moved where
  governed := governed.trans keeps.governed
  started := started.trans keeps.started
  base := base.trans keeps.base
  grace := by rw [grace]; exact keeps.grace

/-- What the state blocks of a step do, up to the ceiling. -/
structure Moved (policy : ObservationPolicy) (start : ℚ) (fed : List Sighting)
    (tracker : ObservationTracker) (sighting : Sighting) (outcome : Option ObservationOutcome)
    (moved : ObservationTracker) : Prop where
  kept : Keeps policy start (fed ++ [sighting]) moved
  running : outcome = none → moved.state ≠ .done
  candidate : moved.state = .candidateTerminal → KnowsCandidate (fed ++ [sighting]) moved.clock
  suspect : moved.state = .suspectStalled →
    (tracker.state ≠ .suspectStalled ∧ moved.clock.suspectEnteredAt = some sighting.2) ∨
      KnowsSuspicion policy start (fed ++ [sighting]) moved.clock
  verified : outcome = some .verifiedTerminal → VerifiedBlock policy fed sighting
  stalled : outcome = some .unresolvedStall →
    (tracker.state ≠ .suspectStalled ∧ moved.clock.suspectEnteredAt = some sighting.2 ∧
      policy.suspectGraceSeconds ≤ 0) ∨ StalledFor policy start fed sighting

variable {recorded : ObservationTracker}

theorem knowsCandidate_enterCandidate (terminal : sighting.1.terminalCandidate = true) :
    KnowsCandidate (fed ++ [sighting])
      (recorded.enterCandidate sighting.1 sighting.2).clock := by
  refine ⟨fed, sighting, [], ⟨rfl, ?_, ?_⟩, rfl, rfl, ?_⟩
  · simpa using terminal
  · simp
  · simp [ObservationTracker.enterCandidate]

theorem Moved.enter {moved : ObservationTracker}
    (kept : Keeps policy start (fed ++ [sighting]) recorded)
    (terminal : sighting.1.terminalCandidate = true) (state : moved.state = .candidateTerminal)
    (policies : moved.policy = recorded.policy)
    (clock : moved.clock = { (recorded.enterCandidate sighting.1 sighting.2).clock with
      suspectEnteredAt := moved.clock.suspectEnteredAt }) :
    Moved policy start fed tracker sighting none moved where
  kept := kept.of_clock policies (by rw [clock]; rfl) (by rw [clock]; rfl) (by rw [clock]; rfl)
  running := fun _ => by rw [state]; exact ObservationState.noConfusion
  candidate := fun _ => by
    rw [clock]
    exact knowsCandidate_enterCandidate terminal
  suspect := fun suspected => by rw [state] at suspected; cases suspected
  verified := nofun
  stalled := nofun

theorem Moved.suspecting {moved : ObservationTracker}
    (kept : Keeps policy start (fed ++ [sighting]) moved) (new : tracker.state ≠ .suspectStalled)
    (state : moved.state = .suspectStalled)
    (entered : moved.clock.suspectEnteredAt = some sighting.2) :
    Moved policy start fed tracker sighting none moved where
  kept := kept
  running := fun _ => by rw [state]; exact ObservationState.noConfusion
  candidate := fun candidate => by rw [state] at candidate; cases candidate
  suspect := fun _ => .inl ⟨new, entered⟩
  verified := nofun
  stalled := nofun

theorem Moved.unsuspected {moved : ObservationTracker}
    (kept : Keeps policy start (fed ++ [sighting]) moved)
    (state : moved.state = .awaitingEvidence ∨ moved.state = .active) :
    Moved policy start fed tracker sighting none moved where
  kept := kept
  running := fun _ done => by rw [done] at state; simp at state
  candidate := fun candidate => by rw [candidate] at state; simp at state
  suspect := fun suspected => by rw [suspected] at state; simp at state
  verified := nofun
  stalled := nofun

theorem moved_advanceActive (kept : Keeps policy start (fed ++ [sighting]) recorded)
    (new : tracker.state ≠ .suspectStalled) (active : recorded.state = .active) :
    Moved policy start fed tracker sighting none
      (recorded.advanceActive sighting.1 sighting.2) := by
  unfold ObservationTracker.advanceActive
  by_cases terminal : sighting.1.terminalCandidate = true
  · rw [if_pos terminal]
    exact .enter kept terminal rfl rfl rfl
  rw [if_neg terminal]
  split
  · exact .suspecting (kept.of_clock rfl rfl rfl rfl) new rfl rfl
  · exact .unsuspected kept (.inr active)

theorem CandidateBlock.extend {before rest : List Sighting} {first : Sighting}
    (block : CandidateBlock fed before first rest) (terminal : sighting.1.terminalCandidate = true)
    (calm : sighting.hasProgress = false) :
    CandidateBlock (fed ++ [sighting]) before first (rest ++ [sighting]) where
  split := by rw [block.split, append_assoc, cons_append]
  candidates := fun other member => by
    rw [← cons_append] at member
    rcases mem_append.mp member with earlier | last
    · exact block.candidates other earlier
    · rw [mem_singleton.mp last]
      exact terminal
  calm := fun other member => by
    rcases mem_append.mp member with earlier | last
    · exact block.calm other earlier
    · rw [mem_singleton.mp last]
      exact calm

theorem moved_judgeCandidate {noted : ObservationTracker} {before rest : List Sighting}
    {first : Sighting} (kept : Keeps policy start (fed ++ [sighting]) noted)
    (new : tracker.state ≠ .suspectStalled) (candidate : noted.state = .candidateTerminal)
    (block : CandidateBlock (fed ++ [sighting]) before first rest)
    (entered : noted.clock.candidateEnteredAt = some first.2)
    (generation : noted.clock.candidateGeneration = some noted.clock.progressGeneration)
    (contradiction : noted.clock.candidateSawContradiction =
      (first :: rest).any fun other => other.1.terminalContradiction) :
    Moved policy start fed tracker sighting
      (noted.judgeCandidate sighting.1 sighting.2 first.2).1
      (noted.judgeCandidate sighting.1 sighting.2 first.2).2 := by
  have held : Moved policy start fed tracker sighting none noted := {
    kept := kept
    running := fun _ => by rw [candidate]; exact ObservationState.noConfusion
    candidate := fun _ => ⟨before, first, rest, block, entered, generation, contradiction⟩
    suspect := fun suspected => by rw [candidate] at suspected; cases suspected
    verified := nofun
    stalled := nofun }
  have required : (if noted.clock.candidateSawContradiction then
      noted.policy.contradictionWindow else noted.policy.candidateStabilityWindowSeconds) =
        policy.requiredStability (first :: rest) := by
    rw [contradiction, kept.governed]
    rfl
  unfold ObservationTracker.judgeCandidate
  simp only [required]
  by_cases spans : policy.requiredStability (first :: rest) ≤ sighting.2 - first.2
  · rw [if_pos spans]
    by_cases ok : sighting.1.terminalVerifiedOk = true
    · rw [if_pos ⟨ok, generation.symm⟩]
      exact {
        kept := kept.of_clock rfl rfl rfl rfl
        running := nofun
        candidate := nofun
        suspect := nofun
        verified := fun _ => ⟨before, first, rest, block, ok, spans⟩
        stalled := nofun }
    · rw [if_neg fun verified => ok verified.1]
      split
      · exact .suspecting (kept.of_clock rfl rfl rfl rfl) new rfl rfl
      · exact held
  · rw [if_neg spans]
    exact held

theorem moved_advanceCandidate (kept : Keeps policy start (fed ++ [sighting]) recorded)
    (record : Recorded tracker sighting recorded) (candidate : recorded.state = .candidateTerminal)
    (knows : KnowsCandidate fed tracker.clock) :
    ∃ outcome moved, recorded.advanceCandidate sighting.1 sighting.2 = .ok (outcome, moved) ∧
      Moved policy start fed tracker sighting outcome moved := by
  obtain ⟨before, first, rest, block, entered, generation, contradiction⟩ := knows
  have new : tracker.state ≠ .suspectStalled := by
    rw [← record.state, candidate]
    exact ObservationState.noConfusion
  have dropped : Moved policy start fed tracker sighting none
      { recorded.dropCandidate with state := .active } :=
    .unsuspected (kept.of_clock rfl rfl rfl rfl) (.inr rfl)
  unfold ObservationTracker.advanceCandidate
  rw [record.entered, entered]
  by_cases progress : sighting.hasProgress = true
  · have changed : some recorded.clock.progressGeneration ≠
        recorded.clock.candidateGeneration := by
      rw [record.progress, if_pos progress, record.generation, generation]
      simp
    exact ⟨none, _, if_pos ⟨progress, changed⟩, dropped⟩
  · have calm : sighting.hasProgress = false := by simpa using progress
    have same : recorded.clock.progressGeneration = tracker.clock.progressGeneration := by
      rw [record.progress, if_neg progress, Nat.add_zero]
    by_cases terminal : sighting.1.terminalCandidate = true
    · refine ⟨_, _, (if_neg fun changed => progress changed.1).trans
        (if_neg (by simpa using terminal)), ?_⟩
      refine moved_judgeCandidate (kept.of_clock rfl rfl rfl rfl) new candidate
        (block.extend terminal calm) (record.entered.trans entered) ?_ ?_
      · exact (record.generation.trans generation).trans (congrArg some same.symm)
      · rw [ObservationTracker.noteContradiction, record.contradiction, contradiction]
        simp [Bool.or_assoc]
    · exact ⟨none, _, (if_neg fun changed => progress changed.1).trans
        (if_pos (by simpa using terminal)), dropped⟩

theorem Suspicion.extend {before rest : List Sighting} {entry : Sighting}
    (suspicion : Suspicion policy start fed before entry rest) (quiet : sighting.isQuiet = true) :
    Suspicion policy start (fed ++ [sighting]) before entry (rest ++ [sighting]) where
  split := by rw [suspicion.split, append_assoc, cons_append]
  entered := suspicion.entered
  quiet := fun other member => by
    rcases mem_append.mp member with earlier | last
    · exact suspicion.quiet other earlier
    · rw [mem_singleton.mp last]
      exact quiet

theorem moved_advanceSuspect (kept : Keeps policy start (fed ++ [sighting]) recorded)
    (record : Recorded tracker sighting recorded) (suspected : recorded.state = .suspectStalled)
    (knows : KnowsSuspicion policy start fed tracker.clock) :
    ∃ outcome moved, recorded.advanceSuspect sighting.1 sighting.2 = .ok (outcome, moved) ∧
      Moved policy start fed tracker sighting outcome moved := by
  obtain ⟨before, entry, rest, suspicion, entered⟩ := knows
  unfold ObservationTracker.advanceSuspect
  rw [record.suspected, entered]
  by_cases progress : sighting.1.capabilities.progress = true
  · exact ⟨none, _, if_pos progress, .unsuspected (kept.of_clock rfl rfl rfl rfl) (.inr rfl)⟩
  by_cases terminal : sighting.1.terminalCandidate = true
  · exact ⟨none, _, (if_neg progress).trans (if_pos terminal), .enter kept terminal rfl rfl rfl⟩
  have longer := @Suspicion.extend policy start fed sighting before rest entry suspicion
    (by simp [Sighting.isQuiet, progress, terminal])
  by_cases lapsed : recorded.policy.suspectGraceSeconds ≤ sighting.2 - entry.2
  · refine ⟨some .unresolvedStall, _,
      (if_neg progress).trans ((if_neg terminal).trans (if_pos lapsed)), ?_⟩
    exact {
      kept := kept.of_clock rfl rfl rfl rfl
      running := nofun
      candidate := nofun
      suspect := nofun
      verified := nofun
      stalled := fun _ => .inr ⟨before, entry, _, longer, kept.governed ▸ lapsed⟩ }
  · refine ⟨none, _, (if_neg progress).trans ((if_neg terminal).trans (if_neg lapsed)), ?_⟩
    exact {
      kept := kept
      running := fun _ => by rw [suspected]; exact ObservationState.noConfusion
      candidate := fun candidate => by rw [suspected] at candidate; cases candidate
      suspect := fun _ => .inr ⟨before, entry, _, longer, record.suspected.trans entered⟩
      verified := nofun
      stalled := nofun }

theorem moved_suspect_advanceSuspect (kept : Keeps policy start (fed ++ [sighting]) recorded)
    (new : tracker.state ≠ .suspectStalled) (none_ : sighting.1.capabilities.progress = false)
    (terminal : sighting.1.terminalCandidate = false) :
    ∃ outcome moved, (recorded.suspect sighting.2).advanceSuspect sighting.1 sighting.2 =
        .ok (outcome, moved) ∧
      Moved policy start fed tracker sighting outcome moved := by
  have kept' : Keeps policy start (fed ++ [sighting]) (recorded.suspect sighting.2) :=
    kept.of_clock rfl rfl rfl rfl
  have noProgress : ¬ sighting.1.capabilities.progress = true := by simp [none_]
  have noCandidate : ¬ sighting.1.terminalCandidate = true := by simp [terminal]
  by_cases lapsed : recorded.policy.suspectGraceSeconds ≤ sighting.2 - sighting.2
  · refine ⟨some .unresolvedStall, _,
      (if_neg noProgress).trans ((if_neg noCandidate).trans (if_pos lapsed)), ?_⟩
    exact {
      kept := kept.of_clock rfl rfl rfl rfl
      running := nofun
      candidate := nofun
      suspect := nofun
      verified := nofun
      stalled := fun _ =>
        .inl ⟨new, rfl, by rw [← kept.governed, ← sub_self sighting.2]; exact lapsed⟩ }
  · exact ⟨none, _, (if_neg noProgress).trans ((if_neg noCandidate).trans (if_neg lapsed)),
      .suspecting kept' new rfl rfl⟩

theorem Tracks.moved (tracks : Tracks policy start fed tracker) (positive : 0 < sighting.2) :
    ∃ outcome moved, ((tracker.recordEvidence sighting.1 sighting.2).leaveAwaiting sighting.1
        sighting.2).moveState sighting.1 sighting.2 = .ok (outcome, moved) ∧
      Moved policy start fed tracker sighting outcome moved := by
  have kept := tracks.toKeeps.record positive
  have record := recorded_recordEvidence tracker sighting
  generalize tracker.recordEvidence sighting.1 sighting.2 = recorded at kept record
  unfold ObservationTracker.leaveAwaiting
  cases state : tracker.state with
  | awaitingEvidence =>
    have new : tracker.state ≠ .suspectStalled := by simp [state]
    rw [if_pos (record.state.trans state)]
    by_cases evidence : sighting.1.capabilities ≠ .none ∨ sighting.1.terminalCandidate = true
    · rw [if_pos (by simpa using evidence)]
      exact ⟨none, _, rfl, moved_advanceActive (kept.of_clock rfl rfl rfl rfl) new rfl⟩
    rw [if_neg (by simpa using evidence)]
    push Not at evidence
    split
    · exact moved_suspect_advanceSuspect kept new (by rw [evidence.1]; rfl)
        (by simpa using evidence.2)
    · refine ⟨none, recorded, ?_, .unsuspected kept (.inl (record.state.trans state))⟩
      unfold ObservationTracker.moveState
      rw [record.state, state]
  | active =>
    have active := record.state.trans state
    rw [if_neg (by simp [active])]
    refine ⟨none, _, ?_, moved_advanceActive kept (by simp [state]) active⟩
    unfold ObservationTracker.moveState
    rw [active]
  | candidateTerminal =>
    have candidate := record.state.trans state
    rw [if_neg (by simp [candidate])]
    obtain ⟨outcome, moved, moves, spec⟩ :=
      moved_advanceCandidate kept record candidate (tracks.candidate state)
    refine ⟨outcome, moved, ?_, spec⟩
    unfold ObservationTracker.moveState
    rw [candidate]
    exact moves
  | suspectStalled =>
    have suspected := record.state.trans state
    rw [if_neg (by simp [suspected])]
    obtain ⟨outcome, moved, moves, spec⟩ :=
      moved_advanceSuspect kept record suspected (tracks.suspect state)
    refine ⟨outcome, moved, ?_, spec⟩
    unfold ObservationTracker.moveState
    rw [suspected]
    exact moves
  | done => exact absurd state tracks.running

/-! ## One observation -/

structure Ended (moved : ObservationTracker) (outcome : Option ObservationOutcome) (now : ℚ)
    (result : Option ObservationOutcome) (after : ObservationTracker) : Prop where
  clock : after.clock = moved.clock
  continued : result = none → outcome = none ∧ after = moved ∧
    now - moved.clock.phaseStartedAt < moved.policy.absoluteCeilingSeconds
  reason : result = outcome ∨ outcome = none ∧ result = some .budgetExhausted ∧
    moved.policy.absoluteCeilingSeconds ≤ now - moved.clock.phaseStartedAt

theorem ended_of_moved {moved : ObservationTracker} {outcome : Option ObservationOutcome}
    (moves : ((tracker.recordEvidence sighting.1 sighting.2).leaveAwaiting sighting.1
      sighting.2).moveState sighting.1 sighting.2 = .ok (outcome, moved)) :
    ∃ result after, tracker.advance sighting.1 sighting.2 = .ok (result, after) ∧
      Ended moved outcome sighting.2 result after := by
  unfold ObservationTracker.advance
  simp only [moves]
  cases outcome with
  | some reached =>
    exact ⟨some reached, moved, rfl, rfl, by simp, .inl rfl⟩
  | none =>
    by_cases ceiling : moved.policy.absoluteCeilingSeconds ≤
        sighting.2 - moved.clock.phaseStartedAt
    · refine ⟨some .budgetExhausted, { moved with state := .done }, ?_, rfl,
        by simp, .inr ⟨rfl, rfl, ceiling⟩⟩
      exact congrArg Except.ok (if_pos ceiling)
    · refine ⟨none, moved, ?_, rfl, fun _ => ⟨rfl, rfl, not_le.mp ceiling⟩, .inl rfl⟩
      exact congrArg Except.ok (if_neg ceiling)

/-- What an outcome after a sighting, or none, says about the sightings up to it. -/
structure Justified (policy : ObservationPolicy) (start : ℚ) (fed : List Sighting)
    (tracker : ObservationTracker) (sighting : Sighting) (outcome : Option ObservationOutcome)
    (after : ObservationTracker) : Prop where
  verified : outcome = some .verifiedTerminal → VerifiedBlock policy fed sighting
  stalled : outcome = some .unresolvedStall → StalledFor policy start fed sighting
  lapsed : tracker.state = .active → sighting.isQuiet = true →
    lastProgress start fed + policy.progressLeaseSeconds + policy.softGraceCapSeconds ≤
      sighting.2 →
    after.clock.suspectEnteredAt = some sighting.2 ∧
      (outcome = none ∧ after.state = .suspectStalled ∨
        outcome = some .budgetExhausted ∧ policy.absoluteCeilingSeconds ≤ sighting.2 - start)
  bounded : policy.absoluteCeilingSeconds ≤ sighting.2 - start → outcome ≠ none

/-- An active phase without evidence moves to `suspectStalled` when its lease is over. -/
theorem Tracks.moveState_of_lapsed (tracks : Tracks policy start fed tracker)
    (positive : 0 < sighting.2) (capped : 0 ≤ policy.softGraceCapSeconds)
    (active : tracker.state = .active) (quiet : sighting.isQuiet = true)
    (late : lastProgress start fed + policy.progressLeaseSeconds + policy.softGraceCapSeconds ≤
      sighting.2) :
    ((tracker.recordEvidence sighting.1 sighting.2).leaveAwaiting sighting.1 sighting.2).moveState
        sighting.1 sighting.2 =
      .ok (none, (tracker.recordEvidence sighting.1 sighting.2).suspect sighting.2) := by
  have kept := tracks.toKeeps.record positive
  have record := recorded_recordEvidence tracker sighting
  generalize tracker.recordEvidence sighting.1 sighting.2 = recorded at kept record
  have state := record.state.trans active
  simp only [Sighting.isQuiet, Bool.and_eq_true, Bool.not_eq_true'] at quiet
  have last : lastProgress start (fed ++ [sighting]) = lastProgress start fed := by
    rw [lastProgress_append_singleton, Sighting.hasProgress, if_neg (by simp [quiet.1])]
  have lapsed : recorded.progressLeaseDeadline ≤ sighting.2 :=
    (kept.progressLeaseDeadline_le capped).trans (by rw [last]; exact late)
  rw [ObservationTracker.leaveAwaiting, if_neg (by simp [state])]
  unfold ObservationTracker.moveState
  rw [state]
  simp only [ObservationTracker.advanceActive]
  rw [if_neg (by simp [quiet.2]), if_pos lapsed]

/-- **One observation.**  It raises no assertion, its outcome is justified, and if it has none, the
tracker knows about it. -/
theorem Tracks.advance (tracks : Tracks policy start fed tracker) (positive : 0 < sighting.2)
    (capped : 0 ≤ policy.softGraceCapSeconds) :
    ∃ outcome after, tracker.advance sighting.1 sighting.2 = .ok (outcome, after) ∧
      Justified policy start fed tracker sighting outcome after ∧
      (outcome = none → Tracks policy start (fed ++ [sighting]) after) := by
  obtain ⟨outcome, moved, moves, spec⟩ := tracks.moved positive
  obtain ⟨result, after, advanced, ended⟩ := ended_of_moved moves
  have entered : tracker.state ≠ .suspectStalled →
      moved.clock.suspectEnteredAt = some sighting.2 → Suspects policy start fed sighting :=
    fun new entered => ⟨tracker, result, after, tracks.reached, new, advanced,
      by rw [ended.clock]; exact entered⟩
  have begins : tracker.state ≠ .suspectStalled →
      moved.clock.suspectEnteredAt = some sighting.2 →
        Suspicion policy start (fed ++ [sighting]) fed sighting [] :=
    fun new since => ⟨rfl, entered new since, by simp⟩
  refine ⟨result, after, advanced, ⟨?_, ?_, ?_, ?_⟩, ?_⟩
  · intro verified
    rcases ended.reason with same | ⟨-, exhausted, -⟩
    · exact spec.verified (same.symm.trans verified)
    · rw [exhausted] at verified
      cases verified
  · intro stalled
    rcases ended.reason with same | ⟨-, exhausted, -⟩
    · rcases spec.stalled (same.symm.trans stalled) with ⟨new, since, graceless⟩ | stalled
      · exact ⟨fed, sighting, [], begins new since, by rw [sub_self]; exact graceless⟩
      · exact stalled
    · rw [exhausted] at stalled
      cases stalled
  · intro active quiet late
    have suspected := tracks.moveState_of_lapsed positive capped active quiet late
    rw [moves] at suspected
    injection suspected with pair
    obtain ⟨none_, moved_⟩ := Prod.mk.injEq .. ▸ pair
    refine ⟨by rw [ended.clock, moved_]; rfl, ?_⟩
    cases result with
    | none =>
      obtain ⟨-, same, -⟩ := ended.continued rfl
      exact .inl ⟨rfl, by rw [same, moved_]; rfl⟩
    | some reached =>
      rcases ended.reason with same | ⟨-, exhausted, ceiling⟩
      · rw [none_] at same
        cases same
      · rw [spec.kept.started, spec.kept.governed] at ceiling
        exact .inr ⟨exhausted, ceiling⟩
  · rintro ceiling rfl
    obtain ⟨-, same, below⟩ := ended.continued rfl
    rw [spec.kept.started, spec.kept.governed] at below
    exact absurd ceiling (not_le.mpr below)
  · rintro rfl
    obtain ⟨none_, same, below⟩ := ended.continued rfl
    rw [spec.kept.started, spec.kept.governed] at below
    rw [same]
    exact {
      toKeeps := spec.kept
      reached := by
        rw [ObservationTracker.feed_append, tracks.reached, Option.bind_some,
          ObservationTracker.feed, advanced, same]
        rfl
      within := fun other member => by
        rcases mem_append.mp member with earlier | last
        · exact tracks.within other earlier
        · rw [mem_singleton.mp last]
          exact below
      running := spec.running none_
      candidate := spec.candidate
      suspect := fun suspected => by
        rcases spec.suspect suspected with ⟨new, since⟩ | knows
        · exact ⟨fed, sighting, [], begins new since, since⟩
        · exact knows }

/-! ## Every sequence of observations -/

theorem tracks_start (policy : ObservationPolicy) (start : ℚ) :
    Tracks policy start [] (ObservationTracker.start policy start) where
  governed := rfl
  started := rfl
  base := rfl
  grace := fun _ impossible => nomatch impossible
  reached := rfl
  within := fun _ impossible => nomatch impossible
  running := ObservationState.noConfusion
  candidate := nofun
  suspect := nofun

/-- The tracker knows about every sequence of observations none of which returned an outcome. -/
theorem tracks_of_feed (capped : 0 ≤ policy.softGraceCapSeconds)
    (positive : ∀ sighting ∈ fed, 0 < sighting.2)
    (reached : (ObservationTracker.start policy start).feed fed = some tracker) :
    Tracks policy start fed tracker := by
  induction fed using List.reverseRecOn generalizing tracker with
  | nil =>
    obtain rfl := Option.some.inj reached
    exact tracks_start policy start
  | append_singleton fed sighting ih =>
    rw [ObservationTracker.feed_append] at reached
    obtain ⟨earlier, before, last⟩ := Option.bind_eq_some_iff.mp reached
    have tracks := ih (fun other member => positive other (mem_append_left _ member)) before
    obtain ⟨outcome, after, advanced, -, further⟩ :=
      tracks.advance (positive sighting (by simp)) capped
    rw [ObservationTracker.feed, advanced] at last
    cases outcome with
    | some reached => cases last
    | none =>
      obtain rfl := Option.some.inj last
      exact further rfl

/-- **Outcomes are justified.**  However the observations of a phase came, as long as none returned
an outcome all of them came before the ceiling, and the outcome of the next one is justified by the
observations up to it. -/
theorem observation_outcomes_are_justified (policy : ObservationPolicy) (start : ℚ)
    (fed : List Sighting) (tracker : ObservationTracker) (sighting : Sighting)
    (capped : 0 ≤ policy.softGraceCapSeconds)
    (positive : ∀ other ∈ fed ++ [sighting], 0 < other.2)
    (reached : (ObservationTracker.start policy start).feed fed = some tracker) :
    (∀ other ∈ fed, other.2 - start < policy.absoluteCeilingSeconds) ∧
      ∃ outcome after, tracker.advance sighting.1 sighting.2 = .ok (outcome, after) ∧
        Justified policy start fed tracker sighting outcome after := by
  have tracks := tracks_of_feed capped
    (fun other member => positive other (mem_append_left _ member)) reached
  obtain ⟨outcome, after, advanced, justified, -⟩ :=
    tracks.advance (positive sighting (by simp)) capped
  exact ⟨tracks.within, outcome, after, advanced, justified⟩

/-! ## A verified answer -/

def tenSeconds : ObservationPolicy where
  startBoundSeconds := 10
  progressLeaseSeconds := 10
  softGraceCapSeconds := 10
  candidateStabilityWindowSeconds := 10
  candidateContradictionStabilityWindowSeconds := some 30
  candidateMaxVerificationWindowSeconds := 60
  suspectGraceSeconds := 10
  absoluteCeilingSeconds := 600

/-- Progress, then a candidate that the provider contradicts. -/
def answerSeen : List Sighting :=
  [(⟨{ progress := true }, false, false, false⟩, 2),
    (⟨{ terminalWitness := true }, true, true, true⟩, 3),
    (⟨{ softLiveness := true, terminalWitness := true }, true, true, false⟩, 20)]

def answerVerified : Sighting := (⟨{ terminalWitness := true }, true, true, false⟩, 33)

theorem observation_outcomes_are_justified_verified :
    ∃ tracker after, (ObservationTracker.start tenSeconds 1).feed answerSeen = some tracker ∧
      tracker.advance answerVerified.1 answerVerified.2 = .ok (some .verifiedTerminal, after) ∧
      VerifiedBlock tenSeconds answerSeen answerVerified := by
  have capped : 0 ≤ tenSeconds.softGraceCapSeconds := by decide +kernel
  have positive : ∀ other ∈ answerSeen ++ [answerVerified], 0 < other.2 := by decide +kernel
  have fed : ((ObservationTracker.start tenSeconds 1).feed answerSeen).isSome := by decide +kernel
  obtain ⟨tracker, reached⟩ := Option.isSome_iff_exists.mp fed
  have last : (((ObservationTracker.start tenSeconds 1).feed answerSeen).map fun tracker =>
      (tracker.advance answerVerified.1 answerVerified.2).toOption.map Prod.fst) =
        some (some (some .verifiedTerminal)) := by decide +kernel
  obtain ⟨-, outcome, after, advanced, justified⟩ :=
    observation_outcomes_are_justified tenSeconds 1 answerSeen tracker answerVerified capped
      positive reached
  rw [reached, Option.map_some, advanced] at last
  obtain rfl : outcome = some .verifiedTerminal := by simpa [Except.toOption] using last
  exact ⟨tracker, after, reached, advanced, justified.verified rfl⟩

end Audiagentic.Providers
