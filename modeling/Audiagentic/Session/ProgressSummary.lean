import Audiagentic.Foundations.OrderedDicts
import Audiagentic.Foundations.Runs
import Audiagentic.Foundations.Texts
import Mathlib.Data.Finset.Card

/-!
# The progress summary of a session

During a turn a callback writes observations of the transport to the timeline of the session: one
row for each start and each end of a tool call, and one for every activity.  The summary of the
progress folds over the rows.  It counts tool calls in the rows of the kind `tool-call`, a kind
that no observation has.
-/

namespace Audiagentic.Session

open Foundations List

/-! ## The callback -/

/-- `TransportObservationKind`. -/
inductive ObservationKind where
  | turnAccepted
  | activity
  | toolRequested
  | toolFinished
  | permissionRequested
  | inProgress
  | timing
  | terminal
  | transportError
  | transportClosed
  | transportUnknown
deriving DecidableEq

def ObservationKind.value : ObservationKind → Text
  | .turnAccepted => "turn-accepted".toList
  | .activity => "activity".toList
  | .toolRequested => "tool-requested".toList
  | .toolFinished => "tool-finished".toList
  | .permissionRequested => "permission-requested".toList
  | .inProgress => "in-progress".toList
  | .timing => "timing".toList
  | .terminal => "terminal".toList
  | .transportError => "transport-error".toList
  | .transportClosed => "transport-closed".toList
  | .transportUnknown => "transport-unknown".toList

/-- The attributes are those of a tool call, as `str` gives them. -/
structure TransportObservation where
  kind : ObservationKind
  sequence : Option ℕ
  toolCallId : Option Text
  toolStatus : Option Text

def TransportObservation.identity (obs : TransportObservation) : Text :=
  obs.toolCallId.getD "unidentified".toList

def toolTerminalStatuses : List (Option Text) := [some "completed".toList, some "failed".toList]

def toolActiveStatuses : List (Option Text) :=
  [none, some "pending".toList, some "in_progress".toList]

structure TurnEventProjector where
  modelStarted : Bool
  toolsStarted : List Text
  toolsFinished : List Text

inductive TurnTopic where
  | modelStarted
  | modelInProgress
  | modelCompleted
  | toolStarted
  | toolCompleted

namespace TurnEventProjector

def initial : TurnEventProjector := ⟨false, [], []⟩

def resolve (projector : TurnEventProjector) (obs : TransportObservation) :
    Option TurnTopic × TurnEventProjector :=
  match obs.kind with
  | .activity =>
    if projector.modelStarted then (none, projector)
    else (some .modelStarted, { projector with modelStarted := true })
  | .inProgress => (some .modelInProgress, projector)
  | .terminal => (some .modelCompleted, projector)
  | .toolRequested =>
    if obs.toolStatus ∉ toolActiveStatuses ∨ obs.identity ∈ projector.toolsStarted then
      (none, projector)
    else
      (some .toolStarted, { projector with toolsStarted := obs.identity :: projector.toolsStarted })
  | .toolFinished =>
    if obs.toolStatus ∉ toolTerminalStatuses ∨ obs.identity ∈ projector.toolsFinished then
      (none, projector)
    else
      (some .toolCompleted,
        { projector with toolsFinished := obs.identity :: projector.toolsFinished })
  | _ => (none, projector)

end TurnEventProjector

/-- A row of the timeline, with the attributes that the summary reads. -/
structure TimelineRow where
  event : Text
  timestamp : Text
  requestId : Option Text
  sequence : Option ℕ
  kind : Text
  toolCallId : Option Text
  status : Option Text

/-- A call of the callback.  A row that cannot be written is lost without an error. -/
structure CallbackCall where
  obs : TransportObservation
  now : Text
  written : Bool

def eventPrefix : Text := "session.turn.".toList

def turnRow (requestId : Option Text) (call : CallbackCall) : TimelineRow :=
  let isTool : Bool := call.obs.kind = .toolRequested ∨ call.obs.kind = .toolFinished
  { event := eventPrefix ++ call.obs.kind.value
    timestamp := call.now
    requestId
    sequence := call.obs.sequence
    kind := call.obs.kind.value
    toolCallId := if isTool then call.obs.toolCallId else none
    status := if isTool then call.obs.toolStatus else none }

/-- `_on_event`.  An activity or a timing is recorded also when it is not projected. -/
def onEvent (requestId : Option Text) (state : TurnEventProjector × List TimelineRow)
    (call : CallbackCall) : TurnEventProjector × List TimelineRow :=
  let (topic, projector) := state.1.resolve call.obs
  (projector,
    if (topic.isSome ∨ call.obs.kind = .activity ∨ call.obs.kind = .timing) ∧ call.written then
      state.2 ++ [turnRow requestId call]
    else state.2)

/-- What the callback records.  Rows of closed segments are read before those of the head. -/
def timelineOf (requestId : Option Text) (calls : List CallbackCall) : List TimelineRow :=
  (exec (onEvent requestId) (.initial, []) calls).2

/-! ## The summary -/

structure ProgressFold where
  lastSequence : Option ℕ
  lastTimestamp : Option Text
  eventKindCounts : OrderedDict Text ℕ
  assistantThoughtCount : ℕ
  toolStatusMap : OrderedDict Text Text

namespace ProgressFold

def initial : ProgressFold := ⟨none, none, ∅, 0, ∅⟩

/-- `asked` is the request that the summary is for, if it is for one. -/
def read (asked : Option Text) (fold : ProgressFold) (row : TimelineRow) : ProgressFold :=
  if ¬eventPrefix.isPrefixOf row.event ∨ (asked ≠ none ∧ row.requestId ≠ asked) then fold
  else
    let isLater := row.sequence.any fun sequence => fold.lastSequence.all (· < sequence)
    { lastSequence := if isLater then row.sequence else fold.lastSequence
      lastTimestamp := if isLater then some row.timestamp else fold.lastTimestamp
      eventKindCounts :=
        fold.eventKindCounts.set row.kind ((fold.eventKindCounts.get? row.kind).getD 0 + 1)
      assistantThoughtCount :=
        if row.kind ∈ ["assistant-message".toList, "thought".toList] then
          fold.assistantThoughtCount + 1
        else fold.assistantThoughtCount
      toolStatusMap :=
        if row.kind = "tool-call".toList ∧ row.toolCallId.getD [] ≠ [] ∧
          row.status.getD [] ≠ [] then
          fold.toolStatusMap.set (row.toolCallId.getD []) (row.status.getD [])
        else fold.toolStatusMap }

end ProgressFold

structure ProgressSummary where
  latestSequence : Option ℕ
  latestTimestamp : Option Text
  eventKindCounts : OrderedDict Text ℕ
  toolCountActive : ℕ
  toolCountCompleted : ℕ
  toolCountFailed : ℕ
  assistantThoughtChunkCount : ℕ

def buildSessionProgressSummary (rows : List TimelineRow) (asked : Option Text) :
    Option ProgressSummary :=
  let fold := exec (ProgressFold.read asked) .initial rows
  let statuses := fold.toolStatusMap.entries.map Prod.snd
  if fold.lastSequence = none ∧ fold.eventKindCounts.isEmpty then none
  else some {
    latestSequence := fold.lastSequence
    latestTimestamp := fold.lastTimestamp
    eventKindCounts := fold.eventKindCounts
    toolCountActive := statuses.countP fun status => some status ∉ toolTerminalStatuses
    toolCountCompleted := statuses.count "completed".toList
    toolCountFailed := statuses.count "failed".toList
    assistantThoughtChunkCount := fold.assistantThoughtCount }

/-! ## What was observed -/

/-- The tool calls with an observation of the kind and of one of the statuses. -/
def toolCalls (kind : ObservationKind) (status : Option Text → Bool) (calls : List CallbackCall) :
    Finset Text :=
  (((calls.map CallbackCall.obs).filter fun obs => obs.kind = kind ∧ status obs.toolStatus).map
    TransportObservation.identity).toFinset

def requestedTools : List CallbackCall → Finset Text := toolCalls .toolRequested fun _ => true

def finishedTools : List CallbackCall → Finset Text := toolCalls .toolFinished fun _ => true

def finishedAs (status : Text) : List CallbackCall → Finset Text :=
  toolCalls .toolFinished (· = some status)

/-- A summary that is absent tells of no tool call and of no sequence. -/
structure Tells (calls : List CallbackCall) (rows : List TimelineRow)
    (summary : Option ProgressSummary) : Prop where
  active : summary.elim 0 ProgressSummary.toolCountActive =
    (requestedTools calls \ finishedTools calls).card
  completed : summary.elim 0 ProgressSummary.toolCountCompleted =
    (finishedAs "completed".toList calls).card
  failed : summary.elim 0 ProgressSummary.toolCountFailed =
    (finishedAs "failed".toList calls).card
  latest : summary.bind ProgressSummary.latestSequence = (rows.filterMap TimelineRow.sequence).max?

/-- The summary of the request, and that of the whole session, tell what was observed. -/
def SummaryAgrees (requestId : Option Text) (calls : List CallbackCall) : Prop :=
  ∀ asked, asked = none ∨ asked = requestId →
    Tells calls (timelineOf requestId calls)
      (buildSessionProgressSummary (timelineOf requestId calls) asked)

/-! ## The rows of the callback -/

/-- No observation is of the kind under which the summary looks for tool calls. -/
theorem value_ne_toolCall (kind : ObservationKind) : kind.value ≠ "tool-call".toList := by
  cases kind <;> decide

/-- A row that the callback may write. -/
structure TurnRow (requestId : Option Text) (row : TimelineRow) : Prop where
  named : eventPrefix.isPrefixOf row.event
  request : row.requestId = requestId
  kind : row.kind ≠ "tool-call".toList

theorem turnRow_timelineOf (requestId : Option Text) (calls : List CallbackCall) :
    ∀ row ∈ timelineOf requestId calls, TurnRow requestId row := by
  have step : ∀ (state : TurnEventProjector × List TimelineRow) (call : CallbackCall),
      (∀ row ∈ state.2, TurnRow requestId row) →
        ∀ row ∈ (onEvent requestId state call).2, TurnRow requestId row := by
    intro state call before
    rw [onEvent]
    dsimp only
    split
    · refine forall_mem_snoc before ⟨?_, rfl, value_ne_toolCall _⟩
      exact isPrefixOf_iff_prefix.mpr (prefix_append _ _)
    · exact before
  exact exec_invariant step (forall_mem_nil _) calls

/-! ## The fold over them -/

theorem max?_snoc (numbers : List ℕ) (last : ℕ) :
    (numbers ++ [last]).max? = some (numbers.max?.elim last fun most => max most last) := by
  cases numbers with
  | nil => rfl
  | cons first rest =>
    rw [cons_append, max?_cons', max?_cons', foldl_append]
    rfl

/-- A row of the callback brings its sequence and no status of a tool. -/
theorem read_turnRow {requestId asked : Option Text} {row : TimelineRow}
    (recorded : TurnRow requestId row) (scope : asked = none ∨ asked = requestId)
    (fold : ProgressFold) :
    (fold.read asked row).toolStatusMap = fold.toolStatusMap ∧
      (fold.read asked row).lastSequence = row.sequence.elim fold.lastSequence fun sequence =>
        some (fold.lastSequence.elim sequence fun most => max most sequence) := by
  have inScope : ¬(asked ≠ none ∧ row.requestId ≠ asked) := by
    rintro ⟨some, other⟩
    exact scope.elim some fun same => other (recorded.request.trans same.symm)
  rw [ProgressFold.read, if_neg (not_or.mpr ⟨not_not_intro recorded.named, inScope⟩)]
  refine ⟨if_neg fun tool => recorded.kind tool.1, ?_⟩
  cases row.sequence with
  | none => rfl
  | some sequence =>
    cases fold.lastSequence with
    | none => rfl
    | some most =>
      by_cases later : most < sequence
      · simp [later, max_eq_right later.le]
      · simp [later, max_eq_left (not_lt.mp later)]

theorem exec_read {requestId asked : Option Text} {rows : List TimelineRow}
    (recorded : ∀ row ∈ rows, TurnRow requestId row) (scope : asked = none ∨ asked = requestId) :
    (exec (ProgressFold.read asked) .initial rows).toolStatusMap = ∅ ∧
      (exec (ProgressFold.read asked) .initial rows).lastSequence =
        (rows.filterMap TimelineRow.sequence).max? := by
  induction rows using List.reverseRecOn with
  | nil => exact ⟨rfl, rfl⟩
  | append_singleton rows row ih =>
    obtain ⟨tools, latest⟩ := ih fun earlier member => recorded _ (mem_append_left _ member)
    obtain ⟨sameTools, nextLatest⟩ :=
      read_turnRow (recorded row (mem_append_right _ (mem_singleton_self _))) scope
        (exec (ProgressFold.read asked) .initial rows)
    rw [exec_append, exec_cons, exec_nil]
    refine ⟨sameTools.trans tools, nextLatest.trans ?_⟩
    rw [latest, filterMap_append]
    cases sequence : row.sequence with
    | none => simp [sequence]
    | some number =>
      rw [filterMap_cons_some sequence]
      exact (max?_snoc _ _).symm

/-- **What the summary tells of a turn.**  The last sequence is right, and there are no tools. -/
theorem summary_timelineOf (requestId : Option Text) (calls : List CallbackCall)
    {asked : Option Text} (scope : asked = none ∨ asked = requestId) :
    let summary := buildSessionProgressSummary (timelineOf requestId calls) asked
    summary.elim 0 ProgressSummary.toolCountActive = 0 ∧
      summary.elim 0 ProgressSummary.toolCountCompleted = 0 ∧
      summary.elim 0 ProgressSummary.toolCountFailed = 0 ∧
      summary.bind ProgressSummary.latestSequence =
        ((timelineOf requestId calls).filterMap TimelineRow.sequence).max? := by
  obtain ⟨tools, latest⟩ := exec_read (turnRow_timelineOf requestId calls) scope
  intro summary
  simp only [summary, buildSessionProgressSummary, tools]
  split
  · rename_i absent
    exact ⟨rfl, rfl, rfl, absent.1.symm.trans latest⟩
  · exact ⟨rfl, rfl, rfl, latest⟩

/-- **The summary agrees with the observations when there are no tool calls to count.** -/
theorem summaryAgrees_iff (requestId : Option Text) (calls : List CallbackCall) :
    SummaryAgrees requestId calls ↔ requestedTools calls ⊆ finishedTools calls ∧
      finishedAs "completed".toList calls = ∅ ∧ finishedAs "failed".toList calls = ∅ := by
  constructor
  · intro agrees
    obtain ⟨active, completed, failed, -⟩ := summary_timelineOf requestId calls (.inl rfl)
    have told := agrees none (.inl rfl)
    exact ⟨Finset.sdiff_eq_empty_iff_subset.mp
        (Finset.card_eq_zero.mp (told.active.symm.trans active)),
      Finset.card_eq_zero.mp (told.completed.symm.trans completed),
      Finset.card_eq_zero.mp (told.failed.symm.trans failed)⟩
  · rintro ⟨closed, noneCompleted, noneFailed⟩ asked scope
    obtain ⟨active, completed, failed, latest⟩ := summary_timelineOf requestId calls scope
    refine ⟨active.trans ?_, completed.trans ?_, failed.trans ?_, latest⟩
    · rw [Finset.sdiff_eq_empty_iff_subset.mpr closed, Finset.card_empty]
    · rw [noneCompleted, Finset.card_empty]
    · rw [noneFailed, Finset.card_empty]

theorem requested_tool_is_not_counted :
    ¬SummaryAgrees none [⟨⟨.toolRequested, some 0, some "tool".toList, none⟩, [], true⟩] :=
  fun agrees => absurd (agrees none (.inl rfl)).active (by decide)

end Audiagentic.Session
