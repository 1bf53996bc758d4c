import Mathlib.Algebra.Order.Ring.Rat

/-!
# Observation of a turn

One phase of a turn is watched through a sequence of observations, and the tracker of the phase says
in which state the phase is and, once it can, how the phase ended.  An observation carries evidence
of up to three kinds: progress renews the lease of the phase, a sign of life extends the lease once,
and a terminal candidate starts a window in which the candidate has to hold.

Times are exact numbers.  `advance` is written in the four parts of its source: the evidence is
recorded, a phase that awaits evidence may leave that state, the state moves, and the ceiling of
the phase is applied.
-/

namespace Audiagentic.Providers

structure EvidenceCapability where
  progress : Bool := false
  softLiveness : Bool := false
  terminalWitness : Bool := false
deriving DecidableEq

def EvidenceCapability.none : EvidenceCapability := {}

inductive ObservationState where
  | awaitingEvidence
  | active
  | candidateTerminal
  | suspectStalled
  | done
deriving DecidableEq

inductive ObservationOutcome where
  | verifiedTerminal
  | unresolvedStall
  | budgetExhausted
deriving DecidableEq

/-- One classification of a snapshot. -/
structure Observation where
  capabilities : EvidenceCapability
  terminalCandidate : Bool
  terminalVerifiedOk : Bool := false
  terminalContradiction : Bool := false

/-- The windows of a phase.  A policy may lack the window of contradicted candidates. -/
structure ObservationPolicy where
  startBoundSeconds : ℚ
  progressLeaseSeconds : ℚ
  softGraceCapSeconds : ℚ
  candidateStabilityWindowSeconds : ℚ
  candidateContradictionStabilityWindowSeconds : Option ℚ
  candidateMaxVerificationWindowSeconds : ℚ
  suspectGraceSeconds : ℚ
  absoluteCeilingSeconds : ℚ

def ObservationPolicy.contradictionWindow (policy : ObservationPolicy) : ℚ :=
  policy.candidateContradictionStabilityWindowSeconds.getD policy.candidateStabilityWindowSeconds

structure ObservationClock where
  phaseStartedAt : ℚ
  lastConclusiveProgressAt : Option ℚ := none
  lastSoftActivityAt : Option ℚ := none
  softGraceDeadline : Option ℚ := none
  progressGeneration : ℕ := 0
  candidateEnteredAt : Option ℚ := none
  candidateGeneration : Option ℕ := none
  candidateSawContradiction : Bool := false
  suspectEnteredAt : Option ℚ := none

structure ObservationTracker where
  policy : ObservationPolicy
  now : ℚ
  clock : ObservationClock
  state : ObservationState

/-- An assertion of `advance` does not hold. -/
inductive ObservationError where
  | assertion

/-- `last_conclusive_progress_at or phase_started_at`; zero is falsy. -/
def ObservationClock.base (clock : ObservationClock) : ℚ :=
  match clock.lastConclusiveProgressAt with
  | some time => if time = 0 then clock.phaseStartedAt else time
  | none => clock.phaseStartedAt

namespace ObservationTracker

def start (policy : ObservationPolicy) (now : ℚ) : ObservationTracker where
  policy := policy
  now := now
  clock := { phaseStartedAt := now }
  state := .awaitingEvidence

def progressLeaseDeadline (tracker : ObservationTracker) : ℚ :=
  let deadline := tracker.clock.base + tracker.policy.progressLeaseSeconds
  match tracker.clock.softGraceDeadline with
  | some softGraceDeadline => max deadline softGraceDeadline
  | none => deadline

/-- Record the evidence of an observation: the first block of `advance`. -/
def recordEvidence (tracker : ObservationTracker) (observation : Observation) (now : ℚ) :
    ObservationTracker :=
  let clock := tracker.clock
  if observation.capabilities.progress then
    { tracker with
      now := now
      clock := { clock with
        lastConclusiveProgressAt := some now
        progressGeneration := clock.progressGeneration + 1
        softGraceDeadline := none } }
  else if observation.capabilities.softLiveness then
    { tracker with
      now := now
      clock := { clock with
        lastSoftActivityAt := some now
        softGraceDeadline := some (clock.softGraceDeadline.getD
          (clock.base + tracker.policy.progressLeaseSeconds +
            tracker.policy.softGraceCapSeconds)) } }
  else
    { tracker with now := now }

/-- The state moves to `suspectStalled`. -/
def suspect (tracker : ObservationTracker) (now : ℚ) : ObservationTracker :=
  { tracker with
    state := .suspectStalled
    clock := { tracker.clock with suspectEnteredAt := some now } }

def enterCandidate (tracker : ObservationTracker) (observation : Observation) (now : ℚ) :
    ObservationTracker :=
  { tracker with
    state := .candidateTerminal
    clock := { tracker.clock with
      candidateEnteredAt := some now
      candidateGeneration := some tracker.clock.progressGeneration
      candidateSawContradiction := observation.terminalContradiction } }

def dropCandidate (tracker : ObservationTracker) : ObservationTracker :=
  { tracker with
    clock := { tracker.clock with
      candidateEnteredAt := none
      candidateGeneration := none
      candidateSawContradiction := false } }

/-- No stall is suspected any more. -/
def clearSuspicion (tracker : ObservationTracker) : ObservationTracker :=
  { tracker with clock := { tracker.clock with suspectEnteredAt := none } }

/-- A phase that awaits evidence: the second block of `advance`. -/
def leaveAwaiting (tracker : ObservationTracker) (observation : Observation) (now : ℚ) :
    ObservationTracker :=
  if tracker.state = .awaitingEvidence then
    if observation.capabilities ≠ .none || observation.terminalCandidate then
      { tracker with state := .active }
    else if tracker.policy.startBoundSeconds ≤ now - tracker.clock.phaseStartedAt then
      tracker.suspect now
    else tracker
  else tracker

/-- The state `active` in the third block of `advance`. -/
def advanceActive (tracker : ObservationTracker) (observation : Observation) (now : ℚ) :
    ObservationTracker :=
  if observation.terminalCandidate then tracker.enterCandidate observation now
  else if tracker.progressLeaseDeadline ≤ now then tracker.suspect now
  else tracker

def noteContradiction (tracker : ObservationTracker) (observation : Observation) :
    ObservationTracker :=
  { tracker with
    clock := { tracker.clock with
      candidateSawContradiction :=
        tracker.clock.candidateSawContradiction || observation.terminalContradiction } }

/-- A candidate that holds is verified, or given up when its verification takes too long. -/
def judgeCandidate (tracker : ObservationTracker) (observation : Observation)
    (now candidateEnteredAt : ℚ) : Option ObservationOutcome × ObservationTracker :=
  let requiredStability :=
    if tracker.clock.candidateSawContradiction then tracker.policy.contradictionWindow
    else tracker.policy.candidateStabilityWindowSeconds
  let candidateAge := now - candidateEnteredAt
  if requiredStability ≤ candidateAge then
    if observation.terminalVerifiedOk ∧
        some tracker.clock.progressGeneration = tracker.clock.candidateGeneration then
      (some .verifiedTerminal, { tracker with state := .done })
    else if tracker.policy.candidateMaxVerificationWindowSeconds ≤ candidateAge then
      (none, (tracker.suspect now).dropCandidate)
    else (none, tracker)
  else (none, tracker)

/-- The state `candidateTerminal` in the third block of `advance`. -/
def advanceCandidate (tracker : ObservationTracker) (observation : Observation) (now : ℚ) :
    Except ObservationError (Option ObservationOutcome × ObservationTracker) :=
  match tracker.clock.candidateEnteredAt with
  | none => .error .assertion
  | some candidateEnteredAt =>
    if observation.capabilities.progress ∧
        some tracker.clock.progressGeneration ≠ tracker.clock.candidateGeneration then
      .ok (none, { tracker.dropCandidate with state := .active })
    else if !observation.terminalCandidate then
      .ok (none, { tracker.dropCandidate with state := .active })
    else
      .ok ((tracker.noteContradiction observation).judgeCandidate observation now
        candidateEnteredAt)

/-- The state `suspectStalled` in the third block of `advance`. -/
def advanceSuspect (tracker : ObservationTracker) (observation : Observation) (now : ℚ) :
    Except ObservationError (Option ObservationOutcome × ObservationTracker) :=
  match tracker.clock.suspectEnteredAt with
  | none => .error .assertion
  | some suspectEnteredAt =>
    if observation.capabilities.progress then
      .ok (none, { tracker.clearSuspicion with state := .active })
    else if observation.terminalCandidate then
      .ok (none, (tracker.enterCandidate observation now).clearSuspicion)
    else if tracker.policy.suspectGraceSeconds ≤ now - suspectEnteredAt then
      .ok (some .unresolvedStall, { tracker with state := .done })
    else .ok (none, tracker)

/-- The third block of `advance`: one of three states moves. -/
def moveState (tracker : ObservationTracker) (observation : Observation) (now : ℚ) :
    Except ObservationError (Option ObservationOutcome × ObservationTracker) :=
  match tracker.state with
  | .active => .ok (none, tracker.advanceActive observation now)
  | .candidateTerminal => tracker.advanceCandidate observation now
  | .suspectStalled => tracker.advanceSuspect observation now
  | _ => .ok (none, tracker)

/-- The last block of `advance`: the ceiling of the phase. -/
def applyCeiling (tracker : ObservationTracker) (now : ℚ) :
    Option ObservationOutcome × ObservationTracker :=
  if tracker.policy.absoluteCeilingSeconds ≤ now - tracker.clock.phaseStartedAt then
    (some .budgetExhausted, { tracker with state := .done })
  else (none, tracker)

/-- `advance`: feed one observation. -/
def advance (tracker : ObservationTracker) (observation : Observation) (now : ℚ) :
    Except ObservationError (Option ObservationOutcome × ObservationTracker) := do
  let recorded := tracker.recordEvidence observation now
  let (outcome, moved) ← (recorded.leaveAwaiting observation now).moveState observation now
  match outcome with
  | some outcome => pure (some outcome, moved)
  | none => pure (moved.applyCeiling now)

def feed (tracker : ObservationTracker) : List (Observation × ℚ) → Option ObservationTracker
  | [] => some tracker
  | (observation, now) :: rest =>
    match tracker.advance observation now with
    | .ok (none, next) => next.feed rest
    | _ => none

theorem feed_append (tracker : ObservationTracker) (first second : List (Observation × ℚ)) :
    tracker.feed (first ++ second) = (tracker.feed first).bind fun next => next.feed second := by
  induction first generalizing tracker with
  | nil => rfl
  | cons sighting rest ih =>
    obtain ⟨observation, now⟩ := sighting
    rw [List.cons_append, feed, feed]
    cases advanced : tracker.advance observation now with
    | error error => rfl
    | ok result =>
      obtain ⟨outcome, next⟩ := result
      cases outcome with
      | some outcome => rfl
      | none => exact ih next

end ObservationTracker

end Audiagentic.Providers
