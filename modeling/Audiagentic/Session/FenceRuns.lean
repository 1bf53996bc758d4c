import Audiagentic.Session.TurnRuns

/-!
# The turn fence over whole runs

An unresolved turn holds the session: the pending mark and the turn id stay until the turn is ended
by one of the two calls that may end it.  The writers refuse an update that sets the mark to `False`
or clears the send-intent latch to `False`; an update that gives another value than a boolean for
the mark, or `None` for the latch, passes and loses it.
-/

namespace Audiagentic.Session

open Foundations List
open Gateway (GatewayError)

/-! ## What an observation was checked for -/

/-- The facts of `_validate_submission_observation_progress`. -/
structure Observed (metadata update : Fields) : Prop where
  stage : update.read stageKey = .null ∨ ∃ text place,
    update.read stageKey = .scalar (.str text) ∧ stageOrder text = some place ∧
      ∀ old, (metadata.read stageKey).text?.bind stageOrder = some old → old ≤ place
  intent : update.read sendIntentKey = .null ∨ update.read sendIntentKey = .scalar (.bool true) ∨
    update.read sendIntentKey = .scalar (.bool false)
  latch : (metadata.read sendIntentKey).isTrue = true → (update.read sendIntentKey).isFalse = false

theorem text?_eq_some_iff {value : Json Scalar} {text : Text} :
    value.text? = some text ↔ value = .scalar (.str text) := by
  rw [← equalsText_iff, equalsText, decide_eq_true_eq]

variable {metadata update : Fields}

theorem observed_of_validate {passed : Unit}
    (checked : validateSubmissionObservationProgress metadata update = .ok passed) :
    Observed metadata update := by
  unfold validateSubmissionObservationProgress at checked
  simp only [refuse_bind_eq_ok] at checked
  obtain ⟨_, _, known, forward, boolean, latch, _⟩ := checked
  simp only [Bool.not_eq_false, Bool.or_eq_true, isNull_iff, Option.isSome_iff_exists] at known
  simp only [Bool.not_eq_false, Bool.or_eq_true, isNull_iff, isTrue_iff, isFalse_iff,
    or_assoc] at boolean
  rw [Bool.and_eq_true, not_and, Bool.not_eq_true] at latch
  refine ⟨known.imp_right ?_, boolean, latch⟩
  rintro ⟨place, order⟩
  obtain ⟨text, read, here⟩ := Option.bind_eq_some_iff.mp order
  refine ⟨text, place, text?_eq_some_iff.mp read, here, fun old stored => ?_⟩
  rw [order, stored, decide_eq_true_eq] at forward
  exact Nat.le_of_not_lt forward

/-! ## One write -/

variable {requestId : Text} {removeKeys : List Text}

theorem GuardedWrite.not_removed {key : Text} {value : Json Scalar}
    (guard : GuardedWrite metadata update removeKeys requestId)
    (checkpoint : key ∈ recoveryCheckpointKeys) (evidence : key ∉ bookkeepingKeys)
    (found : metadata.get? key = some value)
    (stated : key ∈ [pendingKey, provenKey] → value ≠ .scalar (.bool false)) :
    key ∉ removeKeys := by
  intro removed
  rcases (guard.removal key removed checkpoint evidence).2 with absent | ⟨default, unset⟩
  · cases found.symm.trans absent
  · rw [found] at unset
    exact stated default (Option.some.inj unset)

/-- **A field after a guarded write.**  It is what the update says, or as it was. -/
theorem GuardedWrite.get?_result {key : Text} {value : Json Scalar}
    (guard : GuardedWrite metadata update removeKeys requestId)
    (checkpoint : key ∈ recoveryCheckpointKeys) (evidence : key ∉ bookkeepingKeys)
    (found : metadata.get? key = some value)
    (stated : key ∈ [pendingKey, provenKey] → value ≠ .scalar (.bool false)) :
    (written metadata update removeKeys).get? key = some ((update.get? key).getD value) := by
  rw [get?_written, if_neg (guard.not_removed checkpoint evidence found stated), found]
  cases update.get? key with
  | none => rfl
  | some new => rfl

def KeepsMarks (metadata update : Fields) : Prop :=
  (update.get? pendingKey = none ∨ (update.read pendingKey).isTrue = true ∨
      (update.read pendingKey).isFalse = true) ∧
    ((metadata.read sendIntentKey).isTrue = true → update.get? sendIntentKey ≠ some .null)

theorem GuardedWrite.holdsTurn {given : Fields}
    (guard : GuardedWrite metadata update removeKeys requestId)
    (agrees : ∀ key ∈ recoveryCheckpointKeys, update.get? key = given.get? key)
    (held : holdsTurn metadata requestId = true) (marks : KeepsMarks metadata given) :
    holdsTurn (written metadata update removeKeys) requestId = true := by
  obtain ⟨pending, turn⟩ := holdsTurn_iff.mp held
  rw [holdsTurn_iff, guard.get?_result (by decide) (by decide) pending fun _ => nofun,
    guard.get?_result (by decide) (by decide) turn fun _ => nofun]
  constructor
  · have same := agrees pendingKey (by decide)
    rcases marks.1 with absent | raised | lowered
    · rw [same, absent]
      rfl
    · rw [same, get?_of_read (isTrue_iff.mp raised) nofun]
      rfl
    · have refused := guard.pending
      rw [read_eq_of_get?_eq same, lowered] at refused
      cases refused
  · rcases guard.turn with absent | same
    · rw [absent]
      rfl
    · rw [same]
      rfl

def sent (metadata : Fields) : Bool := (metadata.read sendIntentKey).isTrue

theorem GuardedWrite.sent {given : Fields}
    (guard : GuardedWrite metadata update removeKeys requestId)
    (agrees : ∀ key ∈ recoveryCheckpointKeys, update.get? key = given.get? key)
    (marks : (metadata.read sendIntentKey).isTrue = true → given.get? sendIntentKey ≠ some .null)
    (latched : sent metadata = true) : sent (written metadata update removeKeys) = true := by
  have stored := get?_of_read (isTrue_iff.mp latched) nofun
  have result := guard.get?_result (by decide) (by decide) stored fun _ => nofun
  have observed := observed_of_validate guard.observed
  rw [Session.sent, read_of_get? result]
  cases found : update.get? sendIntentKey with
  | none => rfl
  | some value =>
    rw [Option.getD_some]
    have read := read_of_get? found
    rcases observed.intent with unset | raised | lowered
    · rw [read] at unset
      rw [agrees sendIntentKey (by decide), unset] at found
      exact absurd found (marks latched)
    · rw [read] at raised
      rw [raised]
      rfl
    · have refused := observed.latch latched
      rw [lowered] at refused
      cases refused

/-! ## One call -/

/-- The call does not lose the mark or the latch. -/
def KeepsFence (state : TurnState) (call : TurnCall) : Prop :=
  ∀ update, call.update? = some update → KeepsMarks state.session.metadata update

inductive Ends (state : TurnState) (requestId : Text) : TurnCall → Prop
  | terminal (recoveryState : Text) (removeKeys : List Text) (expected : Option Fields)
      (request : Request) (found : state.requests requestId = some request)
      (ended : request.state.isTerminal = true) :
      Ends state requestId (.clearTerminal requestId recoveryState removeKeys expected)
  | unsent (attemptId : Text) (owner : Owner) (unsent : sent state.session.metadata = false) :
      Ends state requestId (.clearUnsent requestId attemptId owner)

/-- The turn is held, and the latch is as it was or set. -/
structure FenceKept (metadata after : Fields) (requestId : Text) : Prop where
  turn : holdsTurn after requestId = true
  latch : sent metadata = true → sent after = true

theorem fenceKept_of_keepsEvidence {after : Fields} (held : holdsTurn metadata requestId = true)
    (kept : KeepsEvidence metadata after) : FenceKept metadata after requestId := by
  obtain ⟨pending, turn⟩ := holdsTurn_iff.mp held
  refine ⟨?_, fun latched => ?_⟩
  · rw [holdsTurn_iff, kept _ (by decide) (by decide), kept _ (by decide) (by decide)]
    exact ⟨pending, turn⟩
  · rwa [sent, read_eq_of_get?_eq (kept sendIntentKey (by decide) (by decide))]

/-- **The fence after one call.** -/
theorem fence_call (host : SessionHost) {state : TurnState} {call : TurnCall}
    (held : holdsTurn state.session.metadata requestId = true) (keeps : KeepsFence state call) :
    Ends state requestId call ∨
      FenceKept state.session.metadata (stepTurn host state call).session.metadata requestId := by
  rcases stepTurn_cases host state call with same | wrote
  · right
    rw [same]
    exact ⟨held, id⟩
  cases effect_of_write wrote with
  | kept same => exact .inr (fenceKept_of_keepsEvidence held same)
  | guarded writer update given removeKeys maker carried agrees before guard result =>
    have pending := (Bool.and_eq_true_iff.mp held).1
    have writes : holdsTurn state.session.metadata writer = true := by
      rcases before with turn | ⟨free, _⟩
      · exact turn
      · exact Bool.noConfusion (free.symm.trans pending)
    cases holdsTurn_unique writes held
    have marks := keeps given carried
    right
    rw [result]
    exact ⟨guard.holdsTurn agrees held marks, guard.sent agrees marks.2⟩
  | unsent writer attemptId owner request made unsent cleared =>
    simp only [unsentAttempt, Bool.and_eq_true, and_assoc, isFalse_iff] at unsent
    obtain ⟨_, turn, _, _, _, intent, _⟩ := unsent
    cases holdsTurn_unique turn held
    rw [made]
    exact .inl (.unsent attemptId owner (by rw [sent, intent]; rfl))
  | terminal writer recoveryState removeKeys expected request made found ended bound turn cleared =>
    have both := turn.symm.trans (read_of_get? (holdsTurn_iff.mp held).2)
    cases both
    rw [made]
    exact .inl (.terminal recoveryState removeKeys expected request found ended)

/-! ## Runs -/

/-- The call may end the turn after the calls before it: the request is terminal, or no send intent
was ever recorded. -/
inductive MayEnd (host : SessionHost) (start : TurnState) (before : List TurnCall)
    (requestId : Text) : TurnCall → Prop
  | terminal (recoveryState : Text) (removeKeys : List Text) (expected : Option Fields)
      (request : Request)
      (found : (exec (stepTurn host) start before).requests requestId = some request)
      (ended : request.state.isTerminal = true) :
      MayEnd host start before requestId
        (.clearTerminal requestId recoveryState removeKeys expected)
  | unsent (attemptId : Text) (owner : Owner)
      (never : ∀ earlier later, before = earlier ++ later →
        sent (exec (stepTurn host) start earlier).session.metadata = false) :
      MayEnd host start before requestId (.clearUnsent requestId attemptId owner)

/-- Held after the calls, with a latch that shows whether a send intent was ever recorded. -/
structure FenceRun (host : SessionHost) (start : TurnState) (calls : List TurnCall)
    (requestId : Text) : Prop where
  turn : holdsTurn (exec (stepTurn host) start calls).session.metadata requestId = true
  latch : ∀ earlier later, calls = earlier ++ later →
    sent (exec (stepTurn host) start earlier).session.metadata = true →
      sent (exec (stepTurn host) start calls).session.metadata = true

theorem fenceRun {host : SessionHost} {start : TurnState}
    (held : holdsTurn start.session.metadata requestId = true) (calls : List TurnCall)
    (keeps : Admissible (stepTurn host) KeepsFence start calls)
    (continues : ∀ before call later, calls = before ++ call :: later →
      ¬ MayEnd host start before requestId call) : FenceRun host start calls requestId := by
  induction calls using List.reverseRecOn with
  | nil =>
    refine ⟨held, fun earlier later split latched => ?_⟩
    rw [(append_eq_nil_iff.mp split.symm).1] at latched
    exact latched
  | append_singleton calls call ih =>
    obtain ⟨earlier, here⟩ := admissible_append.mp keeps
    have reached := ih earlier fun before call' later split =>
      continues before call' (later ++ [call]) (by rw [split, append_assoc]; rfl)
    have stays : ¬ Ends (exec (stepTurn host) start calls) requestId call := by
      intro ends
      refine continues calls call [] rfl ?_
      cases ends with
      | terminal recoveryState removeKeys expected request found ended =>
        exact .terminal recoveryState removeKeys expected request found ended
      | unsent attemptId owner unsent =>
        refine .unsent attemptId owner fun earlier later split => ?_
        rw [← Bool.not_eq_true]
        intro latched
        exact Bool.noConfusion (unsent.symm.trans (reached.latch earlier later split latched))
    have next := (fence_call host reached.turn here.1).resolve_left stays
    refine ⟨?_, fun first later split latched => ?_⟩
    · rw [exec_append]
      exact next.turn
    rw [exec_append]
    rcases eq_nil_or_concat later with rfl | ⟨rest, last, rfl⟩
    · rw [append_nil] at split
      rw [← split, exec_append] at latched
      exact latched
    · rw [concat_eq_append, ← append_assoc] at split
      obtain ⟨same, _⟩ := append_inj' split rfl
      exact next.latch (reached.latch first rest same latched)

/-- **The turn fence, over every run.**  It stays until a call that may end the turn, as long as no
update loses the mark or the latch; and while it is there, calls for other requests leave the
checkpoint alone. -/
theorem turn_fence_is_kept (host : SessionHost) {start : TurnState} {requestId : Text}
    (held : holdsTurn start.session.metadata requestId = true) (calls : List TurnCall) :
    (Admissible (stepTurn host) KeepsFence start calls →
        (∀ before call later, calls = before ++ call :: later →
          ¬ MayEnd host start before requestId call) →
        holdsTurn (exec (stepTurn host) start calls).session.metadata requestId = true) ∧
      (holdsTurn (exec (stepTurn host) start calls).session.metadata requestId = true →
        ∀ call other, call.madeFor = some other → other ≠ requestId →
          ∀ key ∈ recoveryCheckpointKeys,
            (exec (stepTurn host) start (calls ++ [call])).session.metadata.get? key =
              (exec (stepTurn host) start calls).session.metadata.get? key) := by
  refine ⟨fun keeps continues => (fenceRun held calls keeps continues).turn,
    fun still call other maker different key checkpoint => ?_⟩
  have last : exec (stepTurn host) start (calls ++ [call]) =
      stepTurn host (exec (stepTurn host) start calls) call := exec_append _ _ _ _
  rw [last]
  rcases stepTurn_cases host (exec (stepTurn host) start calls) call with same | wrote
  · rw [same]
  · exact untouched_by_other still maker different wrote key checkpoint

/-! ### A turn that is being dispatched -/

def plainHost : SessionHost where
  str _ := []
  digit _ := none
  parseProjectId _ := none
  digest := List.flatten

def firstOwner : Owner := ⟨"epoch-1".toList, "worker-1".toList, 1⟩

def runningRequest : Request where
  state := .running
  sessionId := some "ses-1".toList
  dispatchOwnerEpoch := some firstOwner.dispatchOwnerEpoch
  workerId := some firstOwner.workerId
  attemptEpoch := some 1
  recoveryRequired := false
  projectId := .null
  providerMetadata := ∅

/-- A session with the given provider metadata, and its running request. -/
def turnState (metadata : List (Text × Json Scalar)) : TurnState where
  session :=
    { sessionId := "ses-1".toList, executionProfileId := "profile".toList,
      transportKind := .providerSession, state := .active, binding := none, providerId := none,
      modelId := none, metadata := OrderedDict.ofList metadata, requestIds := [], turnCount := 0 }
  requests := Function.update (fun _ => none) "req-1".toList (some runningRequest)

/-- The metadata of a turn whose send intent is recorded. -/
def dispatchingTurn : List (Text × Json Scalar) :=
  [(pendingKey, .scalar (.bool true)), (turnIdKey, .scalar (.str "req-1".toList)),
    (stateKey, .scalar (.str dispatching)), (attemptIdKey, .scalar (.str "attempt-1".toList)),
    (stageKey, .scalar (.str "composer-filled".toList)), (sendIntentKey, .scalar (.bool true))]

def setField (key : Text) (value : Json Scalar) : TurnCall :=
  .updateOwned "req-1".toList (OrderedDict.ofList [(key, value)]) none firstOwner []

/-- **`None` for the mark loses the fence.** -/
theorem null_mark_loses_fence :
    holdsTurn (turnState dispatchingTurn).session.metadata "req-1".toList = true ∧
      ¬ MayEnd plainHost (turnState dispatchingTurn) [] "req-1".toList
        (setField pendingKey .null) ∧
      holdsTurn (stepTurn plainHost (turnState dispatchingTurn)
        (setField pendingKey .null)).session.metadata "req-1".toList = false :=
  ⟨rfl, nofun, rfl⟩

/-- The fence stays over an observed send. -/
theorem turn_fence_is_kept_sending :
    holdsTurn (exec (stepTurn plainHost) (turnState dispatchingTurn)
      [setField stageKey (.scalar (.str "send-intent".toList))]).session.metadata
        "req-1".toList = true := by
  have held : holdsTurn (turnState dispatchingTurn).session.metadata "req-1".toList = true := rfl
  refine (turn_fence_is_kept plainHost held _).1 ⟨?_, trivial⟩ fun before call later split
    ends => ?_
  · rintro update ⟨⟩
    exact ⟨.inl rfl, fun _ => nofun⟩
  cases before with
  | nil =>
    cases split
    cases ends
  | cons first rest =>
    rw [cons_append] at split
    have impossible := congrArg List.length split
    simp at impossible

end Audiagentic.Session
