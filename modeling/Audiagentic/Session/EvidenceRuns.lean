import Audiagentic.Session.FenceRuns

/-!
# The evidence of one turn over whole runs

While a turn is held its evidence only grows: what identifies the attempt stays, the stage and the
submission state go forward, and a latch that is set stays set.  The writers check the value of an
update against the stored one, and let `None` pass; `None` unsets the stage or the send-intent
latch, and the next update may then go back.
-/

namespace Audiagentic.Session

open Foundations List Option
open Gateway (GatewayError)

/-! ## Progress -/

/-- What identifies the attempt: its id, the digest of its prompt and the baselines. -/
def frozenKeys : List Text :=
  [attemptIdKey, digestKey, baselineUserKey, baselineAssistantKey, baselineUserCountKey,
    baselineAssistantCountKey, baselineAlertsKey]

theorem frozen_is_evidence {key : Text} (frozen : key ∈ frozenKeys) :
    key ∈ recoveryCheckpointKeys ∧ key ∉ bookkeepingKeys ∧ key ∈ recoveryIdentityKeys ∧
      key ∉ [pendingKey, provenKey] := by
  have each : ∀ key ∈ frozenKeys, key ∈ recoveryCheckpointKeys ∧ key ∉ bookkeepingKeys ∧
      key ∈ recoveryIdentityKeys ∧ key ∉ [pendingKey, provenKey] := by decide +kernel
  exact each key frozen

def stagePlace (metadata : Fields) : Option ℕ := (metadata.read stageKey).text?.bind stageOrder

def isProven (metadata : Fields) : Bool := (metadata.read provenKey).isTrue

inductive StateStep : Json Scalar → Json Scalar → Prop
  | dispatches : StateStep (.scalar (.str prepared)) (.scalar (.str dispatching))
  | proves : StateStep (.scalar (.str dispatching)) (.scalar (.str proven))

/-- The submission state is one of the three. -/
def Staged (metadata : Fields) : Prop :=
  ∃ state ∈ [prepared, dispatching, proven], metadata.read stateKey = .scalar (.str state)

structure Progress (metadata after : Fields) : Prop where
  frozen : ∀ key ∈ frozenKeys, ∀ value, metadata.get? key = some value →
    after.get? key = some value
  stage : ∀ place, stagePlace metadata = some place →
    ∃ later, stagePlace after = some later ∧ place ≤ later
  intent : sent metadata = true → sent after = true
  proof : isProven metadata = true → isProven after = true
  state : Relation.ReflTransGen StateStep (metadata.read stateKey) (after.read stateKey)

theorem Progress.refl (metadata : Fields) : Progress metadata metadata where
  frozen _ _ _ found := found
  stage place found := ⟨place, found, le_rfl⟩
  intent := id
  proof := id
  state := .refl

theorem Progress.trans {first second third : Fields} (earlier : Progress first second)
    (later : Progress second third) : Progress first third where
  frozen key frozen value found :=
    later.frozen key frozen value (earlier.frozen key frozen value found)
  stage place found := by
    obtain ⟨between, there, up⟩ := earlier.stage place found
    obtain ⟨last, here, further⟩ := later.stage between there
    exact ⟨last, here, up.trans further⟩
  intent latched := later.intent (earlier.intent latched)
  proof latched := later.proof (earlier.proof latched)
  state := earlier.state.trans later.state

variable {metadata : Fields}

theorem Staged.forward {after : Fields} (staged : Staged metadata)
    (steps : Relation.ReflTransGen StateStep (metadata.read stateKey) (after.read stateKey)) :
    Staged after := by
  unfold Staged
  rcases Relation.ReflTransGen.cases_tail steps with same | ⟨before, _, step⟩
  · rw [same]
    exact staged
  generalize after.read stateKey = state at step ⊢
  cases step with
  | dispatches => exact ⟨dispatching, by decide, rfl⟩
  | proves => exact ⟨proven, by decide, rfl⟩

theorem Staged.ne_null (staged : Staged metadata) : metadata.read stateKey ≠ .null := by
  obtain ⟨state, _, found⟩ := staged
  rw [found]
  exact nofun

theorem progress_of_keepsEvidence {after : Fields} (kept : KeepsEvidence metadata after) :
    Progress metadata after := by
  have same : ∀ key ∈ recoveryCheckpointKeys, key ∉ bookkeepingKeys →
      after.read key = metadata.read key :=
    fun key checkpoint evidence => read_eq_of_get?_eq (kept key checkpoint evidence)
  refine ⟨fun key frozen value found => ?_, fun place found => ⟨place, ?_, le_rfl⟩, ?_, ?_, ?_⟩
  · obtain ⟨checkpoint, evidence, _⟩ := frozen_is_evidence frozen
    rw [kept key checkpoint evidence, found]
  · rw [stagePlace, same stageKey (by decide) (by decide)]
    exact found
  · rw [sent, sent, same sendIntentKey (by decide) (by decide)]
    exact id
  · rw [isProven, isProven, same provenKey (by decide) (by decide)]
    exact id
  · rw [same stateKey (by decide) (by decide)]

/-! ## One write -/

/-- The update unsets no latch, and gives what identifies the attempt as it is stored. -/
structure KeepsLatches (metadata update : Fields) : Prop where
  stage : (stagePlace metadata).isSome = true → update.get? stageKey ≠ some .null
  intent : sent metadata = true → update.get? sendIntentKey ≠ some .null
  proof : isProven metadata = true → ∀ value, update.get? provenKey = some value →
    value.isTrue = true ∨ value.isFalse = true
  same : ∀ key ∈ frozenKeys, ∀ new old, update.get? key = some new →
    metadata.get? key = some old → equalValues new old = true → new = old

section GuardedWrite

variable {metadata update given : Fields} {removeKeys : List Text} {requestId : Text}

section

variable (guard : GuardedWrite metadata update removeKeys requestId)
include guard

theorem GuardedWrite.frozen_result
    (agrees : ∀ key ∈ recoveryCheckpointKeys, update.get? key = given.get? key)
    (keeps : KeepsLatches metadata given) {key : Text} (frozen : key ∈ frozenKeys)
    {value : Json Scalar} (found : metadata.get? key = some value) :
    (written metadata update removeKeys).get? key = some value := by
  obtain ⟨checkpoint, evidence, identity, apart⟩ := frozen_is_evidence frozen
  rw [guard.get?_result checkpoint evidence found fun default => absurd default apart]
  cases brought : update.get? key with
  | none => rfl
  | some new =>
    have equal := guard.frozen key identity
    rw [replaces, brought, found] at equal
    have unchanged : equalValues new value = true := by simpa using equal
    rw [agrees key checkpoint] at brought
    rw [getD_some, keeps.same key frozen new value brought found unchanged]

theorem GuardedWrite.stage_result
    (agrees : ∀ key ∈ recoveryCheckpointKeys, update.get? key = given.get? key)
    (keeps : KeepsLatches metadata given) {place : ℕ} (found : stagePlace metadata = some place) :
    ∃ later, stagePlace (written metadata update removeKeys) = some later ∧ place ≤ later := by
  obtain ⟨text, read, order⟩ := bind_eq_some_iff.mp found
  have stored := get?_of_read (text?_eq_some_iff.mp read) nofun
  have result := guard.get?_result (by decide) (by decide) stored fun _ => nofun
  cases brought : update.get? stageKey with
  | none =>
    rw [brought, getD_none] at result
    refine ⟨place, ?_, le_rfl⟩
    rw [stagePlace, read_of_get? result]
    exact order
  | some new =>
    rw [brought, getD_some] at result
    have newRead := read_of_get? brought
    rcases (observed_of_validate guard.observed).stage with unset | ⟨next, later, moved, here, up⟩
    · rw [newRead] at unset
      rw [agrees stageKey (by decide), unset] at brought
      exact absurd brought (keeps.stage (by rw [found]; rfl))
    rw [newRead] at moved
    refine ⟨later, ?_, up place found⟩
    rw [stagePlace, read_of_get? result, moved]
    exact here

theorem GuardedWrite.proof_result
    (agrees : ∀ key ∈ recoveryCheckpointKeys, update.get? key = given.get? key)
    (keeps : KeepsLatches metadata given) (latched : isProven metadata = true) :
    isProven (written metadata update removeKeys) = true := by
  have stored := get?_of_read (isTrue_iff.mp latched) nofun
  have result := guard.get?_result (by decide) (by decide) stored fun _ => nofun
  rw [isProven, read_of_get? result]
  cases brought : update.get? provenKey with
  | none => rfl
  | some new =>
    have refused := guard.proof latched
    rw [read_of_get? brought] at refused
    rw [agrees provenKey (by decide)] at brought
    rw [getD_some]
    exact (keeps.proof latched new brought).resolve_right (by rw [refused]; exact nofun)

theorem GuardedWrite.state_result :
    (written metadata update removeKeys).get? stateKey =
      (update.get? stateKey).or (metadata.get? stateKey) := by
  have stays : stateKey ∉ removeKeys := by
    intro removed
    have allowed := (guard.removal stateKey removed (by decide) (by decide)).1
    exact absurd allowed (by decide)
  rw [get?_written, if_neg stays]

theorem GuardedWrite.state_moved {state : Text}
    (moved : update.read stateKey = .scalar (.str state)) :
    (written metadata update removeKeys).read stateKey = .scalar (.str state) := by
  have result := guard.state_result
  rw [get?_of_read moved nofun, some_or] at result
  exact read_of_get? result

theorem GuardedWrite.state_steps (staged : Staged metadata) :
    Relation.ReflTransGen StateStep (metadata.read stateKey)
      ((written metadata update removeKeys).read stateKey) := by
  cases guard.state with
  | unstated absent =>
    have result := guard.state_result
    rw [absent, none_or] at result
    rw [read_eq_of_get?_eq result]
  | prepares old new => exact absurd old staged.ne_null
  | dispatches old new =>
    rw [guard.state_moved new, old]
    exact .single .dispatches
  | stays old new =>
    rw [guard.state_moved new, old.resolve_left staged.ne_null]
  | proves old new =>
    rw [guard.state_moved new, old]
    exact .single .proves

/-- **The evidence grows by every guarded write** that unsets no latch. -/
theorem GuardedWrite.progress
    (agrees : ∀ key ∈ recoveryCheckpointKeys, update.get? key = given.get? key)
    (keeps : KeepsLatches metadata given) (staged : Staged metadata) :
    Progress metadata (written metadata update removeKeys) where
  frozen _ frozen _ found := guard.frozen_result agrees keeps frozen found
  stage _ found := guard.stage_result agrees keeps found
  intent := guard.sent agrees keeps.intent
  proof := guard.proof_result agrees keeps
  state := guard.state_steps staged

end

end GuardedWrite

/-! ## Runs -/

def KeepsEvidenceLatches (state : TurnState) (call : TurnCall) : Prop :=
  ∀ update, call.update? = some update → KeepsLatches state.session.metadata update

variable {host : SessionHost} {requestId : Text}

/-- **The evidence after one call** that leaves the turn held. -/
theorem progress_call {state : TurnState} {call : TurnCall}
    (keeps : KeepsEvidenceLatches state call) (staged : Staged state.session.metadata)
    (held : holdsTurn (stepTurn host state call).session.metadata requestId = true) :
    Progress state.session.metadata (stepTurn host state call).session.metadata := by
  have pending := (holdsTurn_iff.mp held).1
  rcases stepTurn_cases host state call with same | wrote
  · rw [same]
    exact .refl _
  cases effect_of_write wrote with
  | kept same => exact progress_of_keepsEvidence same
  | guarded writer update given removeKeys maker carried agrees before guard result =>
    rw [result]
    exact guard.progress agrees (keeps given carried) staged
  | unsent _ _ _ _ _ _ cleared | terminal _ _ _ _ _ _ _ _ _ _ cleared =>
    cases pending.symm.trans cleared

def HeldThroughout (host : SessionHost) (start : TurnState) (calls : List TurnCall)
    (requestId : Text) : Prop :=
  ∀ earlier later, calls = earlier ++ later →
    holdsTurn (exec (stepTurn host) start earlier).session.metadata requestId = true

theorem heldThroughout_iff {start : TurnState} {calls : List TurnCall} :
    HeldThroughout host start calls requestId ↔
      holdsTurn start.session.metadata requestId = true ∧
        Admissible (stepTurn host) (fun state call =>
          holdsTurn (stepTurn host state call).session.metadata requestId = true) start calls := by
  induction calls generalizing start with
  | nil =>
    refine ⟨fun held => ⟨held [] [] rfl, trivial⟩, fun held earlier later split => ?_⟩
    rw [(append_eq_nil_iff.mp split.symm).1]
    exact held.1
  | cons call calls ih =>
    constructor
    · intro held
      have next : HeldThroughout host (stepTurn host start call) calls requestId :=
        fun earlier later split => held (call :: earlier) later (by rw [split]; rfl)
      obtain ⟨here, later⟩ := ih.mp next
      exact ⟨held [] _ rfl, here, later⟩
    · rintro ⟨here, next, rest⟩ earlier later split
      cases earlier with
      | nil => exact here
      | cons first earlier =>
        obtain ⟨rfl, tail⟩ := cons_eq_cons.mp split
        exact ih.mpr ⟨next, rest⟩ earlier later tail

/-- **The evidence over a run** in which the turn stays held. -/
theorem progress_run {start : TurnState} {calls : List TurnCall}
    (staged : Staged start.session.metadata) (held : HeldThroughout host start calls requestId)
    (keeps : Admissible (stepTurn host) KeepsEvidenceLatches start calls) :
    Progress start.session.metadata (exec (stepTurn host) start calls).session.metadata := by
  have respects : ∀ state call, Staged state.session.metadata →
      KeepsEvidenceLatches state call ∧
        holdsTurn (stepTurn host state call).session.metadata requestId = true →
      Progress state.session.metadata (stepTurn host state call).session.metadata :=
    fun state call staged allowed => progress_call allowed.1 staged allowed.2
  exact (keeps.and (heldThroughout_iff.mp held).2).relates
    (R := fun first second => Progress first.session.metadata second.session.metadata)
    (fun _ => .refl _) (fun _ _ _ => .trans)
    (fun state call staged allowed => staged.forward (respects state call staged allowed).state)
    respects staged

/-- **A turn is installed as prepared.** -/
theorem prepared_of_install {before : TurnState} {call : TurnCall}
    (free : holdsTurn before.session.metadata requestId = false)
    (held : holdsTurn (stepTurn host before call).session.metadata requestId = true) :
    (stepTurn host before call).session.metadata.read stateKey = .scalar (.str prepared) := by
  obtain ⟨pending, turn⟩ := holdsTurn_iff.mp held
  rcases stepTurn_cases host before call with same | wrote
  · rw [same, free] at held
    cases held
  cases effect_of_write wrote with
  | kept same =>
    rw [same pendingKey (by decide) (by decide)] at pending
    rw [same turnIdKey (by decide) (by decide)] at turn
    rw [holdsTurn_iff.mpr ⟨pending, turn⟩] at free
    cases free
  | guarded writer update given removeKeys maker carried agrees earlier guard result =>
    rcases earlier with already | ⟨_, prepares⟩
    · have stored := (holdsTurn_iff.mp already).2
      have kept := guard.get?_result (by decide) (by decide) stored fun _ => nofun
      rw [result] at turn
      have same : requestId = writer := by
        rcases guard.turn with absent | stated
        · rw [absent] at kept
          cases turn.symm.trans kept
          rfl
        · rw [stated] at kept
          cases turn.symm.trans kept
          rfl
      rw [same, already] at free
      cases free
    · rw [result]
      exact guard.state_moved prepares
  | unsent _ _ _ _ _ _ cleared | terminal _ _ _ _ _ _ _ _ _ _ cleared =>
    cases pending.symm.trans cleared

theorem not_retired_of_sent {state : TurnState} {attemptId : Text} {owner : Owner}
    {after : SessionRecord} (latched : sent state.session.metadata = true) :
    write host state (.clearUnsent requestId attemptId owner) ≠ .ok after := by
  intro wrote
  obtain ⟨⟨request, unsent⟩, _⟩ := unsentAttempt_of_clear wrote
  simp only [unsentAttempt, Bool.and_eq_true, and_assoc, isFalse_iff] at unsent
  obtain ⟨_, _, _, _, _, intent, _⟩ := unsent
  rw [sent, intent] at latched
  cases latched

/-- **The evidence of a turn is monotone over every run** from the call that installs the turn, as
long as it is held and no update unsets a latch: between any two moments the evidence grows, from
a prepared submission, and once a send intent is recorded no call retires the attempt as unsent. -/
theorem evidence_is_monotone (host : SessionHost) {before : TurnState} {install : TurnCall}
    {requestId : Text} (free : holdsTurn before.session.metadata requestId = false)
    {calls : List TurnCall}
    (held : HeldThroughout host (stepTurn host before install) calls requestId)
    (keeps : Admissible (stepTurn host) KeepsEvidenceLatches (stepTurn host before install) calls) :
    (stepTurn host before install).session.metadata.read stateKey = .scalar (.str prepared) ∧
      (∀ earlier middle later, calls = earlier ++ middle ++ later →
        Progress (exec (stepTurn host) (stepTurn host before install) earlier).session.metadata
          (exec (stepTurn host) (stepTurn host before install)
            (earlier ++ middle)).session.metadata) ∧
      ∀ earlier later, calls = earlier ++ later →
        sent (exec (stepTurn host) (stepTurn host before install) earlier).session.metadata =
          true →
        ∀ writer attemptId owner after,
          write host (exec (stepTurn host) (stepTurn host before install) calls)
            (.clearUnsent writer attemptId owner) ≠ .ok after := by
  have installed := prepared_of_install free (held [] calls rfl)
  have staged : Staged (stepTurn host before install).session.metadata :=
    ⟨prepared, mem_cons_self, installed⟩
  have between : ∀ earlier middle later, calls = earlier ++ middle ++ later →
      Progress (exec (stepTurn host) (stepTurn host before install) earlier).session.metadata
        (exec (stepTurn host) (stepTurn host before install)
          (earlier ++ middle)).session.metadata := by
    intro earlier middle later split
    rw [split] at keeps
    obtain ⟨first, second⟩ := admissible_append.mp (admissible_append.mp keeps).1
    have heldFirst : HeldThroughout host (stepTurn host before install) earlier requestId :=
      fun front rest cut => held front (rest ++ (middle ++ later)) (by rw [split, cut]; simp)
    have reached := progress_run staged heldFirst first
    rw [exec_append]
    have heldSecond : HeldThroughout host
        (exec (stepTurn host) (stepTurn host before install) earlier) middle requestId := by
      intro front rest cut
      rw [← exec_append]
      exact held (earlier ++ front) (rest ++ later) (by rw [split, cut]; simp)
    exact progress_run (staged.forward reached.state) heldSecond second
  refine ⟨installed, between, fun earlier later split latched writer attemptId owner after => ?_⟩
  have grown := between earlier later [] (by rw [split, append_nil])
  rw [← split] at grown
  exact not_retired_of_sent (grown.intent latched)

/-! ### A turn that is sent -/

def ownUpdate (fields : List (Text × Json Scalar)) : TurnCall :=
  .updateOwned "req-1".toList (OrderedDict.ofList fields) none firstOwner []

def heldFields : List (Text × Json Scalar) :=
  [(pendingKey, .scalar (.bool true)), (turnIdKey, .scalar (.str "req-1".toList))]

def installPrepared : TurnCall :=
  ownUpdate (heldFields ++
    [(stateKey, .scalar (.str prepared)), (provenKey, .scalar (.bool false)),
      (attemptIdKey, .scalar (.str "attempt-1".toList))])

def sendTurn : List TurnCall :=
  [ownUpdate (heldFields ++ [(stateKey, .scalar (.str dispatching))]),
    ownUpdate [(stageKey, .scalar (.str "send-intent".toList)),
      (sendIntentKey, .scalar (.bool true))]]

/-- `None` for the stage and the latch, and then an earlier stage without a send intent. -/
def unsetLatches : List TurnCall :=
  [ownUpdate [(stageKey, .null), (sendIntentKey, .null)],
    ownUpdate [(stageKey, .scalar (.str "composer-filled".toList)),
      (sendIntentKey, .scalar (.bool false))]]

def installedTurn : TurnState := stepTurn plainHost (turnState []) installPrepared

def sentTurn (calls : List TurnCall) : TurnState := exec (stepTurn plainHost) installedTurn calls

/-- **`None` unsets the latch and the stage.**  The stage goes back, and the attempt whose send
intent was recorded is retired as unsent. -/
theorem null_unsets_latches :
    sent (sentTurn sendTurn).session.metadata = true ∧
      sent (sentTurn (sendTurn ++ unsetLatches)).session.metadata = false ∧
      stagePlace (sentTurn sendTurn).session.metadata = some 4 ∧
      stagePlace (sentTurn (sendTurn ++ unsetLatches)).session.metadata = some 2 ∧
      holdsTurn (sentTurn (sendTurn ++ unsetLatches)).session.metadata "req-1".toList = true ∧
      ∃ after, write plainHost (sentTurn (sendTurn ++ unsetLatches))
        (.clearUnsent "req-1".toList "attempt-1".toList firstOwner) = .ok after :=
  ⟨rfl, rfl, rfl, rfl, rfl, _, rfl⟩

theorem keepsLatches_of_absent {update : Fields}
    (absent : ∀ key ∈ provenKey :: frozenKeys, update.get? key = none)
    (stage : update.get? stageKey ≠ some .null) (intent : update.get? sendIntentKey ≠ some .null) :
    KeepsLatches metadata update where
  stage _ := stage
  intent _ := intent
  proof _ value given := by
    rw [absent provenKey mem_cons_self] at given
    cases given
  same key frozen new _ given _ _ := by
    rw [absent key (mem_cons_of_mem _ frozen)] at given
    cases given

/-- The evidence of a turn that is sent grows. -/
theorem evidence_is_monotone_sending :
    Progress installedTurn.session.metadata (sentTurn sendTurn).session.metadata := by
  have free : holdsTurn (turnState []).session.metadata "req-1".toList = false := rfl
  have held : HeldThroughout plainHost installedTurn sendTurn "req-1".toList :=
    heldThroughout_iff.mpr (by decide +kernel)
  have keeps : Admissible (stepTurn plainHost) KeepsEvidenceLatches installedTurn sendTurn := by
    refine ⟨?_, ?_, trivial⟩
    · rintro update ⟨⟩
      exact keepsLatches_of_absent (by decide +kernel) nofun nofun
    · rintro update ⟨⟩
      exact keepsLatches_of_absent (by decide +kernel) nofun nofun
  have grown := (evidence_is_monotone plainHost free held keeps).2.1 [] sendTurn []
  exact grown (append_nil _).symm

end Audiagentic.Session
