import Audiagentic.Foundations.Runs
import Audiagentic.Session.Calls

/-!
# Calls of a run and what they do to the checkpoint

One session, the request records and the calls of any requests and owners in any order; request
records may change between calls in any way.  What a successful call does to the turn's evidence is
said once (`Effect`): it leaves it alone, it is a guarded write for the turn that is held, or it
ends a turn.
-/

namespace Audiagentic.Session

open Foundations List OrderedDict Option
open Bool (and_eq_true not_eq_false not_eq_true not_eq_true')
open Gateway (GatewayError)

/-! ## Calls -/

inductive TurnCall where
  | requestWritten (requestId : Text) (request : Option Request)
  | updateProvider (update : Fields) (removeKeys : List Text) (fence : Fence)
      (claimId : Option Text)
  | updateOwned (requestId : Text) (update : Fields) (claimId : Option Text) (owner : Owner)
      (removeKeys : List Text)
  | claim (requestId : Text) (owner : Owner) (leaseExpired : Bool)
      (claimId leaseExpiresAt : Text)
  | assertClaim (requestId claimId : Text) (owner : Owner)
  | advance (requestId : Text) (update : Fields) (claimId : Text) (owner : Owner)
      (removeKeys : List Text)
  | release (claimId : Text)
  | installPrepared (requestId claimId : Text) (owner : Owner) (arguments : BindingArguments)
      (expectedSurfaceId : Text) (registered : Except GatewayError Unit)
  | commitOpen (requestId claimId : Text) (owner : Owner) (opened : SessionRecord)
      (expectedSurfaceId : Text) (registered : Except GatewayError Unit)
  | installInitial (arguments : BindingArguments) (registered : Except GatewayError Unit)
  | annotate (requestId : Text) (owner : Owner)
  | recordTurn (requestId : Text) (brought : Option Fields)
  | clearUnsent (requestId attemptId : Text) (owner : Owner)
  | clearTerminal (requestId recoveryState : Text) (removeKeys : List Text)
      (expected : Option Fields)

/-- A session and the request records. -/
structure TurnState where
  session : SessionRecord
  requests : Requests

def write (host : SessionHost) (state : TurnState) :
    TurnCall → Except GatewayError SessionRecord
  | .requestWritten _ _ => .ok state.session
  | .updateProvider update removeKeys fence claimId =>
    updateProviderMetadata host state.requests state.session update removeKeys fence claimId
  | .updateOwned requestId update claimId owner removeKeys =>
    updateOwnedSubmissionCheckpoint host state.requests state.session requestId update claimId
      owner removeKeys
  | .claim requestId owner leaseExpired claimId leaseExpiresAt =>
    claimPreparedSubmissionRecovery host state.requests state.session requestId owner
      leaseExpired claimId leaseExpiresAt
  | .assertClaim requestId claimId owner => do
    assertPreparedSubmissionClaim host state.requests state.session requestId claimId owner
    .ok state.session
  | .advance requestId update claimId owner removeKeys =>
    advancePreparedSubmissionToDispatching host state.requests state.session requestId update
      claimId owner removeKeys
  | .release claimId => .ok (releasePreparedSubmissionRecoveryClaim state.session claimId).1
  | .installPrepared requestId claimId owner arguments expectedSurfaceId registered => do
    let bound ← installPreparedRecoveryBinding host state.requests state.session requestId
      claimId owner arguments expectedSurfaceId
    registered
    .ok bound
  | .commitOpen requestId claimId owner opened expectedSurfaceId registered => do
    let bound ← commitPreparedRecoveryOpen host state.requests state.session requestId claimId
      owner opened expectedSurfaceId
    registered
    .ok bound
  | .installInitial arguments registered => do
    let bound ← installInitialProviderBinding host state.session arguments
    registered
    .ok bound
  | .annotate requestId owner =>
    annotateOwnedManualReconciliation host state.requests state.session requestId owner
  | .recordTurn requestId brought => recordSessionTurn state.session requestId brought
  | .clearUnsent requestId attemptId owner =>
    clearOwnedUnsentSubmissionCheckpoint host state.requests state.session requestId attemptId
      owner
  | .clearTerminal requestId recoveryState removeKeys expected => do
    let done ← clearTerminalSubmissionCheckpoint state.requests state.session requestId
      recoveryState removeKeys expected
    .ok done.1

def requestsAfter (requests : Requests) : TurnCall → Requests
  | .requestWritten requestId request => Function.update requests requestId request
  | _ => requests

def stepTurn (host : SessionHost) (state : TurnState) (call : TurnCall) : TurnState where
  session :=
    match write host state call with
    | .ok session => session
    | .error _ => state.session
  requests := requestsAfter state.requests call

variable {host : SessionHost} {session : SessionRecord} {state : TurnState} {call : TurnCall}

theorem stepTurn_of_ok (wrote : write host state call = .ok session) :
    (stepTurn host state call).session = session := by
  rw [stepTurn, wrote]

theorem stepTurn_of_error {error : GatewayError} (raised : write host state call = .error error) :
    (stepTurn host state call).session = state.session := by
  rw [stepTurn, raised]

theorem stepTurn_cases (host : SessionHost) (state : TurnState) (call : TurnCall) :
    (stepTurn host state call).session = state.session ∨
      write host state call = .ok (stepTurn host state call).session := by
  cases result : write host state call with
  | ok session => exact .inr (by rw [stepTurn_of_ok result])
  | error error => exact .inl (stepTurn_of_error result)

/-! ## Written metadata -/

theorem get?_written (metadata update : Fields) (removeKeys : List Text) (key : Text) :
    (written metadata update removeKeys).get? key =
      if key ∈ removeKeys then none else (update.get? key).or (metadata.get? key) := by
  rw [written, get?_popAll, get?_update]
  by_cases removed : key ∈ removeKeys
  · rw [if_pos removed, if_pos removed]
  · rw [if_neg removed, if_neg removed]

variable {key : Text}

theorem get?_bindingUpdate (checkpoint : key ∈ recoveryCheckpointKeys) (fields : Fields) :
    (bindingUpdate fields).get? key = none := by
  rw [bindingUpdate, get?_popAll, if_pos (mem_append_left _ checkpoint)]

theorem get?_update_bindingUpdate (checkpoint : key ∈ recoveryCheckpointKeys)
    (metadata fields : Fields) :
    (metadata.update (bindingUpdate fields)).get? key = metadata.get? key := by
  rw [get?_update, get?_bindingUpdate checkpoint]
  rfl

theorem read_eq_of_get?_eq {first second : Fields} (same : first.get? key = second.get? key) :
    first.read key = second.read key := by
  rw [Fields.read, same, Fields.read]

variable {value : Json Scalar}

theorem equalsText_iff {text : Text} :
    equalsText value text = true ↔ value = .scalar (.str text) := by
  rw [equalsText, decide_eq_true_eq]
  constructor
  · intro found
    cases value with
    | scalar scalar =>
      cases scalar with
      | str other =>
        cases found
        rfl
      | bool | int | float => cases found
    | null | list | map => cases found
  · rintro rfl
    rfl

theorem isTrue_iff : value.isTrue = true ↔ value = .scalar (.bool true) := by
  constructor
  · intro holds
    unfold Json.isTrue at holds
    split at holds
    · rfl
    · cases holds
  · rintro rfl
    rfl

theorem isFalse_iff : value.isFalse = true ↔ value = .scalar (.bool false) := by
  constructor
  · intro holds
    unfold Json.isFalse at holds
    split at holds
    · rfl
    · cases holds
  · rintro rfl
    rfl

theorem get?_of_read {fields : Fields} (found : fields.read key = value) (stated : value ≠ .null) :
    fields.get? key = some value := by
  unfold Fields.read at found
  cases there : fields.get? key with
  | none =>
    rw [there] at found
    exact absurd found.symm stated
  | some other =>
    rw [there] at found
    rw [← found, getD_some]

theorem read_of_get? {fields : Fields} (found : fields.get? key = some value) :
    fields.read key = value := by
  rw [Fields.read, found, getD_some]

variable {requestId : Text} {metadata : Fields}

/-- **The turn is held** when both its fields say so. -/
theorem holdsTurn_iff :
    holdsTurn metadata requestId = true ↔
      metadata.get? pendingKey = some (.scalar (.bool true)) ∧
        metadata.get? turnIdKey = some (.scalar (.str requestId)) := by
  rw [holdsTurn, and_eq_true, isTrue_iff, equalsText_iff]
  constructor
  · rintro ⟨pending, turn⟩
    exact ⟨get?_of_read pending nofun, get?_of_read turn nofun⟩
  · rintro ⟨pending, turn⟩
    exact ⟨read_of_get? pending, read_of_get? turn⟩

theorem holdsTurn_unique {first second : Text} (held : holdsTurn metadata first = true)
    (other : holdsTurn metadata second = true) : first = second := by
  have both := (holdsTurn_iff.mp held).2.symm.trans (holdsTurn_iff.mp other).2
  cases both
  rfl

/-! ## Owners and claims -/

structure OwnsRequest (requests : Requests) (session : SessionRecord) (requestId : Text)
    (owner : Owner) (allowQueuedPreSend : Bool) (request : Request) : Prop where
  found : requests requestId = some request
  state : request.isOwned allowQueuedPreSend = true
  session : request.sessionId = some session.sessionId
  fence : request.ownedBy owner = true

variable {requests : Requests} {owner : Owner}

theorem ownsRequest_of_assert {allowQueuedPreSend : Bool} {request : Request}
    (passed : assertRequestDispatchOwner host requests session requestId owner
      allowQueuedPreSend = .ok request) :
    OwnsRequest requests session requestId owner allowQueuedPreSend request := by
  obtain ⟨read, found, passed⟩ := bind_eq_ok.mp passed
  obtain ⟨owned, passed⟩ := refuse_bind_eq_ok.mp passed
  obtain ⟨_, passed⟩ := refuse_bind_eq_ok.mp passed
  cases passed
  simp only [not_eq_false, and_eq_true, decide_eq_true_eq] at owned
  unfold readRequest at found
  split at found
  next there =>
    cases found
    exact ⟨there, owned.1.1, owned.1.2, owned.2⟩
  · cases found

structure OwnsClaim (requests : Requests) (session : SessionRecord) (requestId claimId : Text)
    (owner : Owner) : Prop where
  request : ∃ request, OwnsRequest requests session requestId owner true request
  turn : holdsTurn session.metadata requestId = true
  state : session.metadata.read stateKey = .scalar (.str prepared)
  unproven : session.metadata.read provenKey = .scalar (.bool false)
  claim : holdsClaim session.metadata claimId owner = true

theorem ownsClaim_of_assert {claimId : Text} {passed : Unit}
    (asserted : assertPreparedSubmissionClaim host requests session requestId claimId owner =
      .ok passed) : OwnsClaim requests session requestId claimId owner := by
  obtain ⟨request, owned, asserted⟩ := bind_eq_ok.mp asserted
  have holds := refuse_eq_ok.mp asserted
  simp only [not_eq_false, and_eq_true, and_assoc, equalsText_iff, isFalse_iff] at holds
  obtain ⟨turn, state, unproven, claim⟩ := holds
  exact ⟨⟨request, ownsRequest_of_assert owned⟩, turn, state, unproven, claim⟩

/-! ## What an owned update found -/

/-- The branches of `update_owned_submission_checkpoint`. -/
inductive OwnedBranch (requests : Requests) (session : SessionRecord) (requestId : Text)
    (update : Fields) (claimId : Option Text) (owner : Owner) : UpdateKind → Prop
  | freshCheckpoint (request : Request)
      (owned : OwnsRequest requests session requestId owner false request)
      (fresh : freshPreparedCheckpoint session.metadata update requestId claimId = true)
      (regular : request.recoveryRequired = false) :
      OwnedBranch requests session requestId update claimId owner .freshCheckpoint
  | freshDispatch (request : Request)
      (owned : OwnsRequest requests session requestId owner false request)
      (state : session.metadata.read stateKey = .scalar (.str prepared))
      (unclaimed : unclaimed session.metadata = true) (claimless : claimId = none)
      (regular : request.recoveryRequired = false)
      (turn : holdsTurn session.metadata requestId = true)
      (moved : update.read stateKey = .scalar (.str dispatching))
      (kept : holdsTurn update requestId = true) :
      OwnedBranch requests session requestId update claimId owner .freshDispatch
  | claimedPrepared (claim : Text) (given : claimId = some claim)
      (owned : OwnsClaim requests session requestId claim owner) :
      OwnedBranch requests session requestId update claimId owner .claimedPrepared
  | proof (request : Request) (owned : OwnsRequest requests session requestId owner false request)
      (turn : holdsTurn session.metadata requestId = true) (claimless : claimId = none)
      (state : session.metadata.read stateKey = .scalar (.str dispatching))
      (moved : update.read stateKey = .scalar (.str proven))
      (kept : holdsTurn update requestId = true) :
      OwnedBranch requests session requestId update claimId owner .proof
  | observation (request : Request)
      (owned : OwnsRequest requests session requestId owner false request)
      (turn : holdsTurn session.metadata requestId = true) (claimless : claimId = none)
      (state : session.metadata.read stateKey = .null ∨
        session.metadata.read stateKey = .scalar (.str dispatching)) :
      OwnedBranch requests session requestId update claimId owner .observation

theorem isNull_iff : value.isNull = true ↔ value = .null := by
  cases value with
  | null => exact ⟨fun _ => rfl, fun _ => rfl⟩
  | scalar | list | map => exact ⟨nofun, nofun⟩

variable {update : Fields} {removeKeys : List Text} {claimId : Option Text}

/-- **The branch that was taken.** -/
theorem ownedBranch_of_kind {kind : UpdateKind}
    (found : ownedUpdateKind host requests session requestId update claimId owner removeKeys =
      .ok kind) : OwnedBranch requests session requestId update claimId owner kind := by
  unfold ownedUpdateKind at found
  simp only at found
  split at found
  next fresh =>
    obtain ⟨request, owned, found⟩ := bind_eq_ok.mp found
    obtain ⟨regular, found⟩ := refuse_bind_eq_ok.mp found
    obtain ⟨_, found⟩ := refuse_bind_eq_ok.mp found
    cases found
    exact .freshCheckpoint request (ownsRequest_of_assert owned) fresh
      (not_eq_true _ |>.mp regular)
  · split at found
    next fresh =>
      obtain ⟨request, owned, found⟩ := bind_eq_ok.mp found
      obtain ⟨facts, found⟩ := refuse_bind_eq_ok.mp found
      cases found
      simp only [not_eq_false, and_eq_true, not_eq_true', and_assoc, equalsText_iff] at facts
      simp only [freshPreparedDispatch, and_eq_true, isNone_iff_eq_none, and_assoc,
        equalsText_iff] at fresh
      obtain ⟨regular, turn, _, moved, kept, _⟩ := facts
      obtain ⟨state, claimless, unclaimed⟩ := fresh
      exact .freshDispatch request (ownsRequest_of_assert owned) state unclaimed claimless
        regular turn moved kept
    · split at found
      · split at found
        next char rest =>
          obtain ⟨_, asserted, found⟩ := bind_eq_ok.mp found
          cases found
          exact .claimedPrepared _ rfl (ownsClaim_of_assert asserted)
        · cases found
      · obtain ⟨request, owned, found⟩ := bind_eq_ok.mp found
        obtain ⟨facts, found⟩ := refuse_bind_eq_ok.mp found
        have owns := ownsRequest_of_assert owned
        simp only [not_eq_false, and_eq_true, Bool.or_eq_true, isNull_iff,
          equalsText_iff, isNone_iff_eq_none, and_assoc] at facts
        obtain ⟨turn, state, claimless, _⟩ := facts
        cases proves : dispatchingToProvenCheckpoint session.metadata update requestId claimId
            request with
        | true =>
          rw [proves] at found
          cases found
          simp only [dispatchingToProvenCheckpoint, and_eq_true, and_assoc,
            equalsText_iff] at proves
          obtain ⟨dispatched, _, _, _, _, moved, kept, _⟩ := proves
          exact .proof request owns turn claimless dispatched moved kept
        | false =>
          rw [proves] at found
          cases found
          exact .observation request owns turn claimless state

/-! ## Guarded writes -/

def bookkeepingKeys : List Text := [claimKey, generationKey, recoveryStateKey, evidenceKey]

inductive StateMove (metadata update : Fields) : Prop
  | unstated (absent : update.get? stateKey = none)
  | prepares (old : metadata.read stateKey = .null)
      (new : update.read stateKey = .scalar (.str prepared))
  | dispatches (old : metadata.read stateKey = .scalar (.str prepared))
      (new : update.read stateKey = .scalar (.str dispatching))
  | stays (old : metadata.read stateKey = .null ∨
        metadata.read stateKey = .scalar (.str dispatching))
      (new : update.read stateKey = .scalar (.str dispatching))
  | proves (old : metadata.read stateKey = .scalar (.str dispatching))
      (new : update.read stateKey = .scalar (.str proven))

structure GuardedWrite (metadata update : Fields) (removeKeys : List Text) (requestId : Text) :
    Prop where
  turn : update.get? turnIdKey = none ∨ update.get? turnIdKey = some (.scalar (.str requestId))
  pending : (update.read pendingKey).isFalse = false
  proof : (metadata.read provenKey).isTrue = true → (update.read provenKey).isFalse = false
  frozen : ∀ key ∈ recoveryIdentityKeys, replaces metadata update key = false
  observed : validateSubmissionObservationProgress metadata update = .ok ()
  removal : ∀ key ∈ removeKeys, key ∈ recoveryCheckpointKeys → key ∉ bookkeepingKeys →
    key ∈ freshSubmissionDefaultRemovals ∧ (metadata.get? key = none ∨
      key ∈ [pendingKey, provenKey] ∧ metadata.get? key = some (.scalar (.bool false)))
  state : StateMove metadata update

theorem mem_falseDefaults {fields : Fields} (member : key ∈ falseDefaults fields) :
    key ∈ [pendingKey, provenKey] ∧ fields.get? key = some (.scalar (.bool false)) := by
  obtain ⟨default, value⟩ := mem_filter.mp member
  obtain ⟨found, there, isFalse⟩ := Option.any_eq_true _ _ |>.mp value
  rw [there, isFalse_iff.mp isFalse]
  exact ⟨default, rfl⟩

theorem safe_removal (safe : freshCheckpointRemovalsAreSafe metadata update removeKeys = true)
    (member : key ∈ removeKeys) (checkpoint : key ∈ recoveryCheckpointKeys) :
    key ∈ freshSubmissionDefaultRemovals ∧ (metadata.get? key = none ∨
      key ∈ [pendingKey, provenKey] ∧ metadata.get? key = some (.scalar (.bool false))) := by
  have here := List.all_eq_true.mp safe key member
  simp only [and_eq_true, Bool.or_eq_true, decide_eq_true_eq, not_eq_true',
    Bool.and_eq_false_iff, decide_eq_false_iff_not] at here
  refine ⟨here.1.1, ?_⟩
  obtain ⟨_, absent | default⟩ := here
  · rcases absent with other | absent
    · exact absurd checkpoint other
    · exact .inl (OrderedDict.has_eq_false_iff.mp absent)
  · exact .inr (mem_falseDefaults default)

theorem frozen_of_any (kept : ¬ recoveryIdentityKeys.any (replaces metadata update) = true) :
    ∀ key ∈ recoveryIdentityKeys, replaces metadata update key = false := by
  intro key member
  rw [not_eq_true, List.any_eq_false] at kept
  exact not_eq_true _ |>.mp (kept key member)

theorem OwnedBranch.stateMove {kind : UpdateKind}
    (branch : OwnedBranch requests session requestId update claimId owner kind)
    (checked : ¬ (update.has stateKey && !kind.changesState &&
      (!equalsText (update.read stateKey) dispatching ||
        !((session.metadata.read stateKey).isNull ||
          equalsText (session.metadata.read stateKey) dispatching))) = true) :
    StateMove session.metadata update := by
  have unchanged : kind.changesState = false → StateMove session.metadata update := by
    intro still
    rw [still] at checked
    simp only [Bool.not_false, Bool.and_true, and_eq_true, Bool.or_eq_true,
      not_eq_true', not_and, not_or, not_eq_false, Bool.or_eq_false_iff] at checked
    cases stated : update.has stateKey with
    | false => exact .unstated (OrderedDict.has_eq_false_iff.mp stated)
    | true =>
      obtain ⟨new, old⟩ := checked stated
      refine .stays ?_ (equalsText_iff.mp new)
      by_cases null : (session.metadata.read stateKey).isNull = true
      · exact .inl (isNull_iff.mp null)
      · exact .inr (equalsText_iff.mp (old (not_eq_true _ |>.mp null)))
  cases branch with
  | freshCheckpoint request owned fresh regular =>
    simp only [freshPreparedCheckpoint, and_eq_true, and_assoc, isNull_iff, equalsText_iff] at fresh
    obtain ⟨old, _, _, _, _, _, new, _⟩ := fresh
    exact .prepares old new
  | freshDispatch request owned state unclaimed claimless regular turn moved kept =>
    exact .dispatches state moved
  | claimedPrepared | observation => exact unchanged rfl
  | proof request owned turn claimless state moved kept => exact .proves state moved

variable {after : SessionRecord}

theorem checked_of_updateOwned
    (wrote : updateOwnedLocked host requests session requestId update claimId owner removeKeys =
      .ok after) :
    ∃ kind, OwnedBranch requests session requestId update claimId owner kind ∧
      checkOwnedUpdate session requestId update removeKeys kind = .ok () ∧
      after = { session with metadata := written session.metadata update removeKeys } := by
  obtain ⟨_, wrote⟩ := refuse_bind_eq_ok.mp wrote
  obtain ⟨kind, found, wrote⟩ := bind_eq_ok.mp wrote
  obtain ⟨_, checked, wrote⟩ := bind_eq_ok.mp wrote
  cases wrote
  exact ⟨kind, ownedBranch_of_kind found, checked, rfl⟩

/-- **Every owned update is guarded.** -/
theorem guarded_of_updateOwned
    (wrote : updateOwnedLocked host requests session requestId update claimId owner removeKeys =
      .ok after) :
    (∃ kind, OwnedBranch requests session requestId update claimId owner kind) ∧
      GuardedWrite session.metadata update removeKeys requestId ∧
      after = { session with metadata := written session.metadata update removeKeys } := by
  obtain ⟨kind, branch, checked, result⟩ := checked_of_updateOwned wrote
  unfold checkOwnedUpdate at checked
  simp only [refuse_bind_eq_ok] at checked
  obtain ⟨state, turn, _, _, pending, proof, frozen, fresh, _, removal, observed⟩ := checked
  simp only [and_eq_true, not_and, not_eq_true, not_eq_true'] at turn pending proof fresh removal
  refine ⟨⟨kind, branch⟩, ⟨?_, pending, proof, frozen_of_any frozen, observed,
    fun key member checkpoint bookkeeping => ?_, branch.stateMove state⟩, result⟩
  · cases stated : update.get? turnIdKey with
    | none => exact .inl rfl
    | some value =>
      have equal := equalsText_iff.mp (not_eq_false _ |>.mp
        (turn (has_iff.mpr ⟨value, stated⟩)))
      rw [read_of_get? stated] at equal
      exact .inr (by rw [equal])
  · have safe := not_eq_false _ |>.mp
      (removal (List.any_eq_true.mpr ⟨key, member, decide_eq_true checkpoint⟩))
    exact safe_removal (Bool.and_eq_true_iff.mp safe).2 member checkpoint

/-- **Every advance is guarded**, and takes a prepared checkpoint to dispatching. -/
theorem guarded_of_advance {claimId : Text}
    (wrote : advancePreparedSubmissionToDispatching host requests session requestId update claimId
      owner removeKeys = .ok after) :
    OwnsClaim requests session requestId claimId owner ∧
      update.read stateKey = .scalar (.str dispatching) ∧ holdsTurn update requestId = true ∧
      GuardedWrite session.metadata update (removeKeys ++ [claimKey]) requestId ∧
      after = { session with
        metadata := written session.metadata update (removeKeys ++ [claimKey]) } := by
  obtain ⟨_, wrote⟩ := refuse_bind_eq_ok.mp wrote
  obtain ⟨_, asserted, wrote⟩ := bind_eq_ok.mp wrote
  have owns := ownsClaim_of_assert asserted
  obtain ⟨moved, wrote⟩ := refuse_bind_eq_ok.mp wrote
  obtain ⟨kept, wrote⟩ := refuse_bind_eq_ok.mp wrote
  obtain ⟨frozen, wrote⟩ := refuse_bind_eq_ok.mp wrote
  obtain ⟨safe, wrote⟩ := refuse_bind_eq_ok.mp wrote
  obtain ⟨_, observed, wrote⟩ := bind_eq_ok.mp wrote
  cases wrote
  rw [not_eq_false, equalsText_iff] at moved
  rw [not_eq_false, and_eq_true] at kept
  rw [not_eq_false] at safe
  have turn := holdsTurn_iff.mp kept.1
  refine ⟨owns, moved, kept.1, ⟨.inr turn.2, ?_, ?_, frozen_of_any frozen, observed,
    fun key member checkpoint bookkeeping => ?_, .dispatches owns.state moved⟩, rfl⟩
  · rw [read_of_get? turn.1]
    rfl
  · rw [owns.unproven]
    exact nofun
  · rcases mem_append.mp member with member | member
    · exact safe_removal safe member checkpoint
    · rw [mem_singleton.mp member] at bookkeeping
      exact absurd mem_cons_self bookkeeping

/-! ## Effects -/

namespace TurnCall

def madeFor : TurnCall → Option Text
  | requestWritten _ _ => none
  | updateProvider _ _ fence _ => fence.requestId
  | updateOwned requestId _ _ _ _ => some requestId
  | claim requestId _ _ _ _ => some requestId
  | assertClaim requestId _ _ => some requestId
  | advance requestId _ _ _ _ => some requestId
  | release _ => none
  | installPrepared requestId _ _ _ _ _ => some requestId
  | commitOpen requestId _ _ _ _ _ => some requestId
  | installInitial _ _ => none
  | annotate requestId _ => some requestId
  | recordTurn requestId _ => some requestId
  | clearUnsent requestId _ _ => some requestId
  | clearTerminal requestId _ _ _ => some requestId

def update? : TurnCall → Option Fields
  | updateProvider update _ _ _ => some update
  | updateOwned _ update _ _ _ => some update
  | advance _ update _ _ _ => some update
  | _ => none

end TurnCall

def KeepsEvidence (metadata after : Fields) : Prop :=
  ∀ key ∈ recoveryCheckpointKeys, key ∉ bookkeepingKeys → after.get? key = metadata.get? key

inductive Effect (state : TurnState) (call : TurnCall) (after : SessionRecord) : Prop
  | kept (same : KeepsEvidence state.session.metadata after.metadata)
  | guarded (requestId : Text) (update given : Fields) (removeKeys : List Text)
      (maker : call.madeFor = some requestId) (carried : call.update? = some given)
      (agrees : ∀ key ∈ recoveryCheckpointKeys, update.get? key = given.get? key)
      (before : holdsTurn state.session.metadata requestId = true ∨
        (state.session.metadata.read pendingKey).isTrue = false ∧
          update.read stateKey = .scalar (.str prepared))
      (guard : GuardedWrite state.session.metadata update removeKeys requestId)
      (result : after.metadata = written state.session.metadata update removeKeys)
  | unsent (requestId attemptId : Text) (owner : Owner) (request : Request)
      (made : call = .clearUnsent requestId attemptId owner)
      (unsent : unsentAttempt request state.session.metadata requestId attemptId = true)
      (cleared : after.metadata.get? pendingKey = some (.scalar (.bool false)))
  | terminal (requestId recoveryState : Text) (removeKeys : List Text) (expected : Option Fields)
      (request : Request) (made : call = .clearTerminal requestId recoveryState removeKeys expected)
      (found : state.requests requestId = some request) (ended : request.state.isTerminal = true)
      (bound : request.sessionId = some state.session.sessionId)
      (turn : state.session.metadata.read turnIdKey = .scalar (.str requestId))
      (cleared : after.metadata.get? pendingKey = some (.scalar (.bool false)))

theorem checkpoint_not_budget (checkpoint : key ∈ recoveryCheckpointKeys) :
    key ∉ loadBudgetKeys := by
  have apart : ∀ key ∈ recoveryCheckpointKeys, key ∉ loadBudgetKeys := by decide
  exact apart key checkpoint

theorem get?_popAll_budget (checkpoint : key ∈ recoveryCheckpointKeys) (fields : Fields) :
    (fields.popAll loadBudgetKeys).get? key = fields.get? key := by
  rw [get?_popAll, if_neg (checkpoint_not_budget checkpoint)]

theorem keepsEvidence_of_forall {after : Fields}
    (same : ∀ key ∈ recoveryCheckpointKeys, after.get? key = metadata.get? key) :
    KeepsEvidence metadata after :=
  fun key checkpoint _ => same key checkpoint

theorem keepsEvidence_set (bookkeeping : key ∈ bookkeepingKeys) (value : Json Scalar) :
    KeepsEvidence metadata (metadata.set key value) := by
  intro other _ apart
  rw [get?_set_of_ne]
  rintro rfl
  exact apart bookkeeping

theorem KeepsEvidence.trans {first second third : Fields} (earlier : KeepsEvidence first second)
    (later : KeepsEvidence second third) : KeepsEvidence first third :=
  fun key checkpoint apart =>
    (later key checkpoint apart).trans (earlier key checkpoint apart)

theorem OwnedBranch.before {kind : UpdateKind}
    (branch : OwnedBranch requests session requestId update claimId owner kind) :
    holdsTurn session.metadata requestId = true ∨
      (session.metadata.read pendingKey).isTrue = false ∧
        update.read stateKey = .scalar (.str prepared) := by
  cases branch with
  | freshCheckpoint request owned fresh regular =>
    simp only [freshPreparedCheckpoint, and_eq_true, and_assoc, not_eq_true',
      equalsText_iff] at fresh
    obtain ⟨_, free, _, _, _, _, new, _⟩ := fresh
    exact .inr ⟨free, new⟩
  | freshDispatch _ _ _ _ _ _ turn | proof _ _ turn | observation _ _ turn => exact .inl turn
  | claimedPrepared claim given owned => exact .inl owned.turn

theorem effect_of_updateOwned {given : Fields} (maker : call.madeFor = some requestId)
    (carried : call.update? = some given)
    (agrees : ∀ key ∈ recoveryCheckpointKeys, update.get? key = given.get? key)
    (wrote : updateOwnedSubmissionCheckpoint host state.requests state.session requestId update
      claimId owner removeKeys = .ok after) : Effect state call after := by
  obtain ⟨_, wrote⟩ := refuse_bind_eq_ok.mp wrote
  obtain ⟨⟨kind, branch⟩, guard, rfl⟩ := guarded_of_updateOwned wrote
  exact .guarded requestId _ given _ maker carried
    (fun key checkpoint => (get?_popAll_budget checkpoint update).trans (agrees key checkpoint))
    branch.before guard rfl

theorem effect_of_updateProvider {given : Fields} {fence : Fence}
    (wrote : updateProviderMetadata host state.requests state.session given removeKeys fence
      claimId = .ok after) :
    (∀ key ∈ recoveryCheckpointKeys,
        after.metadata.get? key = state.session.metadata.get? key) ∨
      ∃ requestId owner, fence.requestId = some requestId ∧
        updateOwnedSubmissionCheckpoint host state.requests state.session requestId
          (given.popAll loadBudgetKeys) claimId owner
          (removeKeys.filter (· ∉ loadBudgetKeys)) = .ok after := by
  unfold updateProviderMetadata at wrote
  simp only at wrote
  split at wrote
  next ordinary =>
    left
    cases wrote
    intro key checkpoint
    rw [and_eq_true, List.isEmpty_iff, present, filter_eq_nil_iff] at ordinary
    have untouched : (given.popAll loadBudgetKeys).get? key = none :=
      OrderedDict.has_eq_false_iff.mp (not_eq_true _ |>.mp (ordinary.1 key checkpoint))
    have stays : key ∉ removeKeys.filter (· ∉ loadBudgetKeys) := by
      intro member
      have other := List.all_eq_true.mp ordinary.2 key member
      exact of_decide_eq_true other checkpoint
    rw [get?_written, if_neg stays, untouched]
    rfl
  · split at wrote
    next requestId owner fenced =>
      refine .inr ⟨requestId, owner, ?_, wrote⟩
      unfold Fence.owner? at fenced
      split at fenced
      next first request _ _ _ _ _ found _ _ _ =>
        cases fenced
        exact found
      · cases fenced
    · cases wrote

theorem keeps_claim {claimId leaseExpiresAt : Text} {leaseExpired : Bool}
    (wrote : claimPreparedSubmissionRecovery host requests session requestId owner leaseExpired
      claimId leaseExpiresAt = .ok after) :
    holdsTurn session.metadata requestId = true ∧
    KeepsEvidence session.metadata after.metadata := by
  obtain ⟨request, owned, wrote⟩ := bind_eq_ok.mp wrote
  obtain ⟨facts, wrote⟩ := refuse_bind_eq_ok.mp wrote
  obtain ⟨_, wrote⟩ := refuse_bind_eq_ok.mp wrote
  obtain ⟨generation, _, wrote⟩ := bind_eq_ok.mp wrote
  cases wrote
  simp only [not_eq_false, and_eq_true, and_assoc] at facts
  exact ⟨facts.2.1, (keepsEvidence_set (by decide) _).trans (keepsEvidence_set (by decide) _)⟩

theorem keeps_release (session : SessionRecord) (claimId : Text) :
    KeepsEvidence session.metadata
      (releasePreparedSubmissionRecoveryClaim session claimId).1.metadata := by
  unfold releasePreparedSubmissionRecoveryClaim
  simp only
  split
  · intro key _ apart
    rw [get?_pop, if_neg]
    rintro rfl
    exact apart mem_cons_self
  · exact fun _ _ _ => rfl

theorem keeps_installPrepared {claimId expectedSurfaceId : Text} {arguments : BindingArguments}
    (wrote : installPreparedRecoveryBinding host requests session requestId claimId owner arguments
      expectedSurfaceId = .ok after) :
    OwnsClaim requests session requestId claimId owner ∧ ∀ key ∈ recoveryCheckpointKeys,
      after.metadata.get? key = session.metadata.get? key := by
  unfold installPreparedRecoveryBinding at wrote
  rw [bind_eq_ok] at wrote
  obtain ⟨_, asserted, wrote⟩ := wrote
  rw [refuse_bind_eq_ok, refuse_bind_eq_ok, bind_eq_ok] at wrote
  obtain ⟨_, _, _, _, same⟩ := wrote
  refine ⟨ownsClaim_of_assert asserted, fun key checkpoint => ?_⟩
  rw [← Except.ok.inj same, get?_update_bindingUpdate checkpoint]

theorem keeps_installInitial {arguments : BindingArguments}
    (wrote : installInitialProviderBinding host session arguments = .ok after) :
    ∀ key ∈ recoveryCheckpointKeys, after.metadata.get? key = session.metadata.get? key := by
  unfold installInitialProviderBinding at wrote
  rw [refuse_bind_eq_ok, bind_eq_ok] at wrote
  obtain ⟨_, _, _, same⟩ := wrote
  intro key checkpoint
  rw [← Except.ok.inj same, get?_update_bindingUpdate checkpoint]

theorem keeps_commitOpen {opened : SessionRecord} {claimId expectedSurfaceId : Text}
    (wrote : commitPreparedRecoveryOpen host requests session requestId claimId owner opened
      expectedSurfaceId = .ok after) :
    OwnsClaim requests session requestId claimId owner ∧ ∀ key ∈ recoveryCheckpointKeys,
      after.metadata.get? key = session.metadata.get? key := by
  unfold commitPreparedRecoveryOpen at wrote
  rw [bind_eq_ok] at wrote
  obtain ⟨_, asserted, wrote⟩ := wrote
  refine ⟨ownsClaim_of_assert asserted, ?_⟩
  split at wrote
  · cases wrote
  rw [refuse_bind_eq_ok, refuse_bind_eq_ok, refuse_bind_eq_ok, refuse_bind_eq_ok] at wrote
  obtain ⟨_, _, _, _, same⟩ := wrote
  intro key checkpoint
  rw [← Except.ok.inj same, get?_update_bindingUpdate checkpoint]

/-- A recorded turn writes no evidence, and a terminal witness for the turn that is held only. -/
theorem keeps_recordTurn {brought : Option Fields}
    (wrote : recordSessionTurn session requestId brought = .ok after) :
    KeepsEvidence session.metadata after.metadata ∧
      (holdsTurn session.metadata requestId = false → ∀ key ∈ recoveryCheckpointKeys,
        after.metadata.get? key = session.metadata.get? key) := by
  obtain ⟨metadata, found, wrote⟩ := bind_eq_ok.mp wrote
  have written : after.metadata = metadata := by
    rw [← Except.ok.inj wrote]
    split <;> rfl
  rw [written]
  cases brought with
  | none =>
    cases found
    exact ⟨fun _ _ _ => rfl, fun _ _ _ => rfl⟩
  | some brought =>
    obtain ⟨proves, proved, found⟩ := bind_eq_ok.mp found
    have same := fun key (checkpoint : key ∈ recoveryCheckpointKeys) =>
      get?_update_bindingUpdate checkpoint session.metadata brought
    have result := Except.ok.inj found
    cases proves with
    | false =>
      rw [if_neg Bool.false_ne_true] at result
      rw [← result]
      exact ⟨keepsEvidence_of_forall same, fun _ => same⟩
    | true =>
      rw [if_pos rfl] at result
      rw [← result]
      refine ⟨(keepsEvidence_of_forall same).trans (keepsEvidence_set (by decide) _),
        fun other => ?_⟩
      obtain ⟨_, _, proved⟩ := bind_eq_ok.mp proved
      simp [other] at proved

theorem unsentAttempt_of_clear {attemptId : Text}
    (wrote : clearOwnedUnsentSubmissionCheckpoint host requests session requestId attemptId owner =
      .ok after) :
    (∃ request, unsentAttempt request session.metadata requestId attemptId = true) ∧
      after.metadata.get? pendingKey = some (.scalar (.bool false)) := by
  obtain ⟨request, _, wrote⟩ := bind_eq_ok.mp wrote
  obtain ⟨unsent, wrote⟩ := refuse_bind_eq_ok.mp wrote
  refine ⟨⟨request, not_eq_false _ |>.mp unsent⟩, ?_⟩
  rw [← Except.ok.inj wrote, get?_set_self]

theorem clearTerminal_eq_ok {recoveryState : Text} {expected : Option Fields}
    {done : SessionRecord × Bool}
    (wrote : clearTerminalSubmissionCheckpoint requests session requestId recoveryState removeKeys
      expected = .ok done) :
    done.1 = session ∨ ∃ request, requests requestId = some request ∧
      request.state.isTerminal = true ∧ request.sessionId = some session.sessionId ∧
      session.metadata.read turnIdKey = .scalar (.str requestId) ∧
      done.1.metadata.get? pendingKey = some (.scalar (.bool false)) := by
  obtain ⟨request, found, wrote⟩ := bind_eq_ok.mp wrote
  obtain ⟨ended, wrote⟩ := refuse_bind_eq_ok.mp wrote
  obtain ⟨supported, wrote⟩ := refuse_bind_eq_ok.mp wrote
  have stays : pendingKey ∉ removeKeys := by
    intro removed
    have allowed := List.all_eq_true.mp (not_eq_false _ |>.mp supported) pendingKey removed
    simp at allowed
  simp only [not_eq_false, and_eq_true, decide_eq_true_eq] at ended
  have there : requests requestId = some request := by
    unfold readRequest at found
    split at found
    next there =>
      cases found
      exact there
    · cases found
  simp only at wrote
  split at wrote
  next turn =>
    rw [and_eq_true, equalsText_iff] at turn
    refine .inr ⟨request, there, ended.1, ended.2, turn.1, ?_⟩
    have apart : pendingKey ≠ recoveryStateKey := by decide
    rw [← Except.ok.inj wrote, get?_popAll, if_neg stays, get?_set_of_ne _ apart, get?_set_self]
  · cases wrote
    exact .inl rfl

/-- **The effect of every call that succeeds.** -/
theorem effect_of_write (wrote : write host state call = .ok after) : Effect state call after := by
  cases call with
  | requestWritten requestId request =>
    cases wrote
    exact .kept fun _ _ _ => rfl
  | updateProvider update removeKeys fence claimId =>
    rcases effect_of_updateProvider wrote with same | ⟨requestId, owner, fenced, wrote⟩
    · exact .kept (keepsEvidence_of_forall same)
    · exact effect_of_updateOwned fenced rfl
        (fun key checkpoint => get?_popAll_budget checkpoint update) wrote
  | updateOwned requestId update claimId owner removeKeys =>
    exact effect_of_updateOwned rfl rfl (fun _ _ => rfl) wrote
  | claim requestId owner leaseExpired claimId leaseExpiresAt => exact .kept (keeps_claim wrote).2
  | assertClaim requestId claimId owner =>
    obtain ⟨_, _, wrote⟩ := bind_eq_ok.mp wrote
    cases wrote
    exact .kept fun _ _ _ => rfl
  | advance requestId update claimId owner removeKeys =>
    obtain ⟨owns, _, _, guard, rfl⟩ := guarded_of_advance wrote
    exact .guarded requestId update update _ rfl rfl (fun _ _ => rfl) (.inl owns.turn) guard rfl
  | release claimId =>
    cases wrote
    exact .kept (keeps_release state.session claimId)
  | installPrepared requestId claimId owner arguments expectedSurfaceId registered =>
    obtain ⟨bound, installed, wrote⟩ := bind_eq_ok.mp wrote
    obtain ⟨_, _, wrote⟩ := bind_eq_ok.mp wrote
    cases wrote
    exact .kept (keepsEvidence_of_forall (keeps_installPrepared installed).2)
  | commitOpen requestId claimId owner opened expectedSurfaceId registered =>
    obtain ⟨bound, committed, wrote⟩ := bind_eq_ok.mp wrote
    obtain ⟨_, _, wrote⟩ := bind_eq_ok.mp wrote
    cases wrote
    exact .kept (keepsEvidence_of_forall (keeps_commitOpen committed).2)
  | installInitial arguments registered =>
    obtain ⟨bound, installed, wrote⟩ := bind_eq_ok.mp wrote
    obtain ⟨_, _, wrote⟩ := bind_eq_ok.mp wrote
    cases wrote
    exact .kept (keepsEvidence_of_forall (keeps_installInitial installed))
  | annotate requestId owner =>
    obtain ⟨_, _, wrote⟩ := bind_eq_ok.mp wrote
    obtain ⟨_, wrote⟩ := refuse_bind_eq_ok.mp wrote
    cases wrote
    exact .kept (keepsEvidence_set (by decide) _)
  | recordTurn requestId brought => exact .kept (keeps_recordTurn wrote).1
  | clearUnsent requestId attemptId owner =>
    obtain ⟨⟨request, unsent⟩, cleared⟩ := unsentAttempt_of_clear wrote
    exact .unsent requestId attemptId owner request rfl unsent cleared
  | clearTerminal requestId recoveryState removeKeys expected =>
    obtain ⟨done, cleared, wrote⟩ := bind_eq_ok.mp wrote
    cases wrote
    rcases clearTerminal_eq_ok cleared with same | ⟨request, found, ended, bound, turn, lowered⟩
    · exact .kept fun _ _ _ => by rw [same]
    · exact .terminal requestId recoveryState removeKeys expected request rfl found ended bound
        turn lowered

/-- **A call for another request leaves the held checkpoint alone.** -/
theorem untouched_by_other {holder other : Text}
    (held : holdsTurn state.session.metadata holder = true) (maker : call.madeFor = some other)
    (different : other ≠ holder) (wrote : write host state call = .ok after) :
    ∀ key ∈ recoveryCheckpointKeys,
      after.metadata.get? key = state.session.metadata.get? key := by
  have foreign : holdsTurn state.session.metadata other = false := by
    rw [← not_eq_true]
    exact fun both => different (holdsTurn_unique both held)
  have pending : (state.session.metadata.read pendingKey).isTrue = true :=
    (Bool.and_eq_true_iff.mp held).1
  have refused : ∀ {update : Fields} {claimId : Option Text} {owner : Owner}
      {removeKeys : List Text}, updateOwnedSubmissionCheckpoint host state.requests state.session
        other update claimId owner removeKeys ≠ .ok after := by
    intro update claimId owner removeKeys wrote
    obtain ⟨_, wrote⟩ := refuse_bind_eq_ok.mp wrote
    obtain ⟨⟨kind, branch⟩, _⟩ := guarded_of_updateOwned wrote
    rcases branch.before with turn | ⟨free, _⟩
    · exact Bool.noConfusion (foreign.symm.trans turn)
    · exact Bool.noConfusion (free.symm.trans pending)
  cases call with
  | requestWritten | release | installInitial => cases maker
  | updateProvider update removeKeys fence claimId =>
    rcases effect_of_updateProvider wrote with same | ⟨requestId, owner, fenced, wrote⟩
    · exact same
    · cases fenced.symm.trans maker
      exact absurd wrote refused
  | updateOwned requestId update claimId owner removeKeys =>
    cases maker
    exact absurd wrote refused
  | claim requestId owner leaseExpired claimId leaseExpiresAt =>
    cases maker
    exact Bool.noConfusion (foreign.symm.trans (keeps_claim wrote).1)
  | assertClaim requestId claimId owner =>
    cases maker
    obtain ⟨_, asserted, _⟩ := bind_eq_ok.mp wrote
    exact Bool.noConfusion (foreign.symm.trans (ownsClaim_of_assert asserted).turn)
  | advance requestId update claimId owner removeKeys =>
    cases maker
    exact Bool.noConfusion (foreign.symm.trans (guarded_of_advance wrote).1.turn)
  | installPrepared requestId claimId owner arguments expectedSurfaceId registered =>
    cases maker
    obtain ⟨bound, installed, _⟩ := bind_eq_ok.mp wrote
    exact Bool.noConfusion (foreign.symm.trans (keeps_installPrepared installed).1.turn)
  | commitOpen requestId claimId owner opened expectedSurfaceId registered =>
    cases maker
    obtain ⟨bound, committed, _⟩ := bind_eq_ok.mp wrote
    exact Bool.noConfusion (foreign.symm.trans (keeps_commitOpen committed).1.turn)
  | annotate requestId owner =>
    cases maker
    obtain ⟨_, _, wrote⟩ := bind_eq_ok.mp wrote
    obtain ⟨turn, _⟩ := refuse_bind_eq_ok.mp wrote
    exact absurd foreign turn
  | recordTurn requestId brought =>
    cases maker
    exact (keeps_recordTurn wrote).2 foreign
  | clearUnsent requestId attemptId owner =>
    cases maker
    obtain ⟨⟨request, unsent⟩, _⟩ := unsentAttempt_of_clear wrote
    simp [unsentAttempt, foreign] at unsent
  | clearTerminal requestId recoveryState removeKeys expected =>
    cases maker
    obtain ⟨done, cleared, wrote⟩ := bind_eq_ok.mp wrote
    cases wrote
    rcases clearTerminal_eq_ok cleared with same | ⟨request, _, _, _, turn, _⟩
    · exact fun _ _ => by rw [same]
    · have both := (read_of_get? (holdsTurn_iff.mp held).2).symm.trans turn
      cases both
      exact absurd rfl different

end Audiagentic.Session
