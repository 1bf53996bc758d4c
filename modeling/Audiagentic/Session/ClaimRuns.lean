import Audiagentic.Session.EvidenceRuns

/-!
# Claims of a prepared turn over whole runs

A prepared turn may be claimed by any worker that owns its request, again and again; each claim has
a generation above the stored one, and the stored claim is the latest or none.  The two ways from
prepared to dispatching are told apart by the stored claim and its generation: the claimed way
needs the stored claim, the fresh way a turn that was never claimed.
-/

namespace Audiagentic.Session

open Foundations List OrderedDict Option
open Gateway (GatewayError)

/-! ## Calls -/

/-- A call of a worker on a prepared turn, or a take-over of a request. -/
inductive ClaimCall where
  | takeOver (requestId : Text) (request : Option Request)
  | claim (requestId : Text) (owner : Owner) (leaseExpired : Bool) (claimId leaseExpiresAt : Text)
  | assertClaim (requestId claimId : Text) (owner : Owner)
  | advance (requestId : Text) (update : Fields) (claimId : Text) (owner : Owner)
      (removeKeys : List Text)
  | release (claimId : Text)
  | updateOwned (requestId : Text) (update : Fields) (claimId : Option Text) (owner : Owner)
      (removeKeys : List Text)

namespace ClaimCall

def turn : ClaimCall → TurnCall
  | takeOver requestId request => .requestWritten requestId request
  | claim requestId owner leaseExpired claimId leaseExpiresAt =>
    .claim requestId owner leaseExpired claimId leaseExpiresAt
  | assertClaim requestId claimId owner => .assertClaim requestId claimId owner
  | advance requestId update claimId owner removeKeys =>
    .advance requestId update claimId owner removeKeys
  | release claimId => .release claimId
  | updateOwned requestId update claimId owner removeKeys =>
    .updateOwned requestId update claimId owner removeKeys

def claimed? : ClaimCall → Option Text
  | claim _ _ _ claimId _ => some claimId
  | _ => none

def carried? : ClaimCall → Option Text
  | assertClaim _ claimId _ => some claimId
  | advance _ _ claimId _ _ => some claimId
  | release claimId => some claimId
  | updateOwned _ _ claimId _ _ => claimId
  | takeOver _ _ | claim _ _ _ _ _ => none

end ClaimCall

def stepClaim (host : SessionHost) (state : TurnState) (call : ClaimCall) : TurnState :=
  stepTurn host state call.turn

def Grants (host : SessionHost) (state : TurnState) (call : ClaimCall) (claimId : Text)
    (generation : ℤ) : Prop :=
  call.claimed? = some claimId ∧ ∃ after, write host state call.turn = .ok after ∧
    after.metadata.get? generationKey = some (.scalar (.int generation))

/-! ## Generations -/

theorem le_integer_of_less {stored : ℤ} {value : ℚ} (above : (stored : ℚ) < value) :
    stored ≤ if 0 ≤ value then ⌊value⌋ else ⌈value⌉ := by
  split
  · exact Int.le_floor.mpr above.le
  · have ceiling : (stored : ℚ) ≤ ⌈value⌉ := above.le.trans (Int.le_ceil value)
    exact_mod_cast ceiling

/-- What `int` of a value at least as large as an integer comes to. -/
def AtLeast (digit : Char → Option ℕ) (stored : ℤ) (found : Json Scalar) : Prop :=
  integerOf digit found = .overflow ∨
    ∃ value, integerOf digit found = .value value ∧ stored ≤ value

theorem atLeast_larger {digit : Char → Option ℕ} {stored : ℤ} {other found : Json Scalar}
    (compared : larger (.scalar (.int stored)) other = some found) :
    AtLeast digit stored found := by
  obtain ⟨above, decided, rfl⟩ := map_eq_some_iff.mp compared
  cases above with
  | false => exact .inr ⟨stored, rfl, le_rfl⟩
  | true =>
    rw [if_pos rfl]
    cases other with
    | null | list | map => cases decided
    | scalar scalar =>
      cases scalar with
      | str text => cases decided
      | bool value =>
        refine .inr ⟨_, rfl, ?_⟩
        have less : (stored : ℚ) < if value = true then 1 else 0 := by
          simpa [greater, Scalar.greater, Scalar.number?, Double.less] using decided
        cases value with
        | true | false => exact_mod_cast less.le
      | int value =>
        refine .inr ⟨value, rfl, ?_⟩
        have less : (stored : ℚ) < value := by
          simpa [greater, Scalar.greater, Scalar.number?, Double.less] using decided
        exact_mod_cast less.le
      | float value =>
        cases value with
        | infinite negative => exact .inl rfl
        | finite value =>
          refine .inr ⟨_, rfl, le_integer_of_less ?_⟩
          simpa [greater, Scalar.greater, Scalar.number?, Double.less] using decided

variable {generation : ℤ} {host : SessionHost}

/-- **The next generation is above the stored one.** -/
theorem generation_lt_of_next {metadata : Fields} {stored : ℤ}
    (there : metadata.get? generationKey = some (.scalar (.int stored)))
    (next : nextGeneration host metadata = .ok generation) : stored < generation := by
  rw [nextGeneration, there, getD_some] at next
  split at next
  · split at next
    · next compared =>
      obtain ⟨found, ⟨⟩, next⟩ := bind_eq_ok.mp next
      dsimp only at next
      rcases atLeast_larger compared with overflow | ⟨value, read, least⟩
      · rw [overflow] at next
        cases next
      · rw [read] at next
        cases next
        omega
    · cases next
  · obtain ⟨found, ⟨⟩, next⟩ := bind_eq_ok.mp next
    cases next
    omega

/-! ## The stored claim -/

structure StoredClaim (claimId : Text) (generation : ℤ) (metadata : Fields) : Prop where
  generation : metadata.get? generationKey = some (.scalar (.int generation))
  claim : ∀ other, (metadata.read claimKey).isMap = true →
    equalsText (claimField metadata "claim-id") other = true → other = claimId

/-- The generation is left alone, and the claim is left alone or gone. -/
structure KeepsClaim (metadata after : Fields) : Prop where
  generation : after.get? generationKey = metadata.get? generationKey
  claim : after.get? claimKey = none ∨ after.get? claimKey = metadata.get? claimKey

theorem KeepsClaim.refl (metadata : Fields) : KeepsClaim metadata metadata := ⟨rfl, .inr rfl⟩

variable {claimId : Text}

theorem StoredClaim.keep {metadata after : Fields}
    (stored : StoredClaim claimId generation metadata) (kept : KeepsClaim metadata after) :
    StoredClaim claimId generation after := by
  refine ⟨kept.generation.trans stored.generation, fun other there equal => ?_⟩
  rcases kept.claim with gone | same
  · rw [Fields.read, gone] at there
    cases there
  have read := read_eq_of_get?_eq same
  rw [claimField, read] at equal
  rw [read] at there
  exact stored.claim other there equal

variable {session : SessionRecord} {requestId : Text} {update : Fields} {removeKeys : List Text}

theorem freshRemoval_of_check {key : Text} {kind : UpdateKind}
    (checked : checkOwnedUpdate session requestId update removeKeys kind = .ok ())
    (removed : key ∈ removeKeys) (checkpoint : key ∈ recoveryCheckpointKeys) :
    key ∈ freshSubmissionDefaultRemovals := by
  unfold checkOwnedUpdate at checked
  simp only [refuse_bind_eq_ok] at checked
  obtain ⟨_, _, _, _, _, _, _, _, _, removal, _⟩ := checked
  simp only [Bool.and_eq_true, not_and, Bool.not_eq_true'] at removal
  have safe := Bool.not_eq_false _ |>.mp
    (removal (List.any_eq_true.mpr ⟨key, removed, decide_eq_true checkpoint⟩))
  exact (safe_removal (Bool.and_eq_true_iff.mp safe).2 removed checkpoint).1

variable {after : SessionRecord}

theorem keepsClaim_of_updateOwned {requests : Requests} {claimId : Option Text} {owner : Owner}
    (wrote : updateOwnedSubmissionCheckpoint host requests session requestId update claimId owner
      removeKeys = .ok after) : KeepsClaim session.metadata after.metadata := by
  obtain ⟨unnamed, wrote⟩ := refuse_bind_eq_ok.mp wrote
  obtain ⟨kind, _, checked, rfl⟩ := checked_of_updateOwned wrote
  simp only [Bool.or_eq_true, not_or, Bool.not_eq_true] at unnamed
  have same : ∀ key ∈ [claimKey, generationKey], (update.popAll loadBudgetKeys).has key = false →
      (written session.metadata (update.popAll loadBudgetKeys)
        (removeKeys.filter (· ∉ loadBudgetKeys))).get? key = session.metadata.get? key := by
    intro key member absent
    have fixed : ∀ key ∈ [claimKey, generationKey], key ∈ recoveryCheckpointKeys ∧
        key ∉ freshSubmissionDefaultRemovals := by decide
    obtain ⟨checkpoint, apart⟩ := fixed key member
    have stays : key ∉ removeKeys.filter (· ∉ loadBudgetKeys) :=
      fun removed => apart (freshRemoval_of_check checked removed checkpoint)
    rw [get?_written, if_neg stays, OrderedDict.has_eq_false_iff.mp absent, none_or]
  exact ⟨same generationKey (by decide) unnamed.2, .inr (same claimKey (by decide) unnamed.1)⟩

theorem keepsClaim_of_advance {requests : Requests} {owner : Owner}
    (wrote : advancePreparedSubmissionToDispatching host requests session requestId update claimId
      owner removeKeys = .ok after) : KeepsClaim session.metadata after.metadata := by
  obtain ⟨unnamed, wrote⟩ := refuse_bind_eq_ok.mp wrote
  obtain ⟨_, _, wrote⟩ := bind_eq_ok.mp wrote
  obtain ⟨_, wrote⟩ := refuse_bind_eq_ok.mp wrote
  obtain ⟨_, wrote⟩ := refuse_bind_eq_ok.mp wrote
  obtain ⟨_, wrote⟩ := refuse_bind_eq_ok.mp wrote
  obtain ⟨safe, wrote⟩ := refuse_bind_eq_ok.mp wrote
  obtain ⟨_, _, wrote⟩ := bind_eq_ok.mp wrote
  cases wrote
  simp only [Bool.or_eq_true, not_or, Bool.not_eq_true] at unnamed
  refine ⟨?_, .inl ?_⟩
  · have stays : generationKey ∉ removeKeys ++ [claimKey] := by
      intro removed
      rcases mem_append.mp removed with removed | removed
      · have allowed := (safe_removal (Bool.not_eq_false _ |>.mp safe) removed (by decide)).1
        exact absurd allowed (by decide)
      · exact absurd removed (by decide)
    rw [get?_written, if_neg stays, OrderedDict.has_eq_false_iff.mp unnamed.2, none_or]
  · rw [get?_written, if_pos (mem_append_right _ mem_cons_self)]

theorem keepsClaim_of_release (session : SessionRecord) (claimId : Text) :
    KeepsClaim session.metadata
      (releasePreparedSubmissionRecoveryClaim session claimId).1.metadata := by
  unfold releasePreparedSubmissionRecoveryClaim
  simp only
  split
  · refine ⟨?_, .inl ?_⟩
    · rw [get?_pop, if_neg (by decide)]
    · rw [get?_pop, if_pos rfl]
  · exact .refl _

variable {call : ClaimCall} {state : TurnState}

theorem keepsClaim_of_write (other : call.claimed? = none)
    (wrote : write host state call.turn = .ok after) :
    KeepsClaim state.session.metadata after.metadata := by
  cases call with
  | takeOver requestId request =>
    cases wrote
    exact .refl _
  | claim requestId owner leaseExpired claimId leaseExpiresAt => cases other
  | assertClaim requestId claimId owner =>
    obtain ⟨_, _, wrote⟩ := bind_eq_ok.mp wrote
    cases wrote
    exact .refl _
  | advance requestId update claimId owner removeKeys => exact keepsClaim_of_advance wrote
  | release claimId =>
    cases wrote
    exact keepsClaim_of_release state.session claimId
  | updateOwned requestId update claimId owner removeKeys => exact keepsClaim_of_updateOwned wrote

theorem claimed_of_claim {requests : Requests} {leaseExpiresAt : Text} {owner : Owner}
    {leaseExpired : Bool}
    (wrote : claimPreparedSubmissionRecovery host requests session requestId owner leaseExpired
      claimId leaseExpiresAt = .ok after) :
    ∃ generation, nextGeneration host session.metadata = .ok generation ∧
      after.metadata =
        (session.metadata.set claimKey (grantedClaim claimId leaseExpiresAt generation owner)).set
          generationKey (.scalar (.int generation)) := by
  obtain ⟨_, _, wrote⟩ := bind_eq_ok.mp wrote
  obtain ⟨_, wrote⟩ := refuse_bind_eq_ok.mp wrote
  obtain ⟨_, wrote⟩ := refuse_bind_eq_ok.mp wrote
  obtain ⟨generation, next, wrote⟩ := bind_eq_ok.mp wrote
  exact ⟨generation, next, by rw [← Except.ok.inj wrote]⟩

/-- **A granted claim** is the stored one, with the next generation. -/
theorem storedClaim_of_grants (granted : Grants host state call claimId generation) :
    nextGeneration host state.session.metadata = .ok generation ∧
      StoredClaim claimId generation (stepClaim host state call).session.metadata := by
  obtain ⟨named, after, wrote, stated⟩ := granted
  rw [stepClaim, stepTurn_of_ok wrote]
  cases call with
  | takeOver | assertClaim | advance | release | updateOwned => cases named
  | claim requestId owner leaseExpired fresh leaseExpiresAt =>
    cases named
    obtain ⟨next, computed, result⟩ := claimed_of_claim wrote
    have same : next = generation := by
      rw [result, get?_set_self] at stated
      cases stated
      rfl
    rw [same] at computed result
    refine ⟨computed, stated, fun other _ equal => ?_⟩
    have apart : claimKey ≠ generationKey := by decide
    have claim : after.metadata.read claimKey =
        grantedClaim claimId leaseExpiresAt generation owner := by
      rw [result, Fields.read, get?_set_of_ne _ apart, get?_set_self]
      rfl
    rw [claimField, claim] at equal
    have text : (Json.scalar (Scalar.str claimId)) = .scalar (.str other) := equalsText_iff.mp equal
    cases text
    rfl

/-- **One call on a stored claim.** -/
theorem storedClaim_call (host : SessionHost) (call : ClaimCall)
    (stored : StoredClaim claimId generation state.session.metadata) :
    StoredClaim claimId generation (stepClaim host state call).session.metadata ∨
      ∃ next later, Grants host state call next later ∧ generation < later ∧
        StoredClaim next later (stepClaim host state call).session.metadata := by
  rcases stepTurn_cases host state call.turn with same | wrote
  · left
    rw [stepClaim, same]
    exact stored
  cases named : call.claimed? with
  | none => exact .inl (stored.keep (keepsClaim_of_write named wrote))
  | some next =>
    right
    obtain ⟨later, there⟩ : ∃ later, (stepTurn host state call.turn).session.metadata.get?
        generationKey = some (.scalar (.int later)) := by
      cases call with
      | takeOver | assertClaim | advance | release | updateOwned => cases named
      | claim requestId owner leaseExpired fresh leaseExpiresAt =>
        obtain ⟨later, _, result⟩ := claimed_of_claim wrote
        exact ⟨later, by rw [result, get?_set_self]⟩
    have granted : Grants host state call next later := ⟨named, _, wrote, there⟩
    obtain ⟨computed, holds⟩ := storedClaim_of_grants granted
    exact ⟨next, later, granted, generation_lt_of_next stored.generation computed, holds⟩

/-- **A run on a stored claim.** -/
theorem storedClaim_run (host : SessionHost) {start : TurnState}
    (stored : StoredClaim claimId generation start.session.metadata) (calls : List ClaimCall) :
    ∃ latest later, StoredClaim latest later (exec (stepClaim host) start calls).session.metadata ∧
      generation ≤ later ∧
      (latest = claimId ∨ ∃ call ∈ calls, call.claimed? = some latest) := by
  induction calls generalizing start claimId generation with
  | nil => exact ⟨claimId, generation, stored, le_rfl, .inl rfl⟩
  | cons call calls ih =>
    rcases storedClaim_call host call stored with
      kept | ⟨next, raised, granted, above, holds⟩
    · obtain ⟨latest, later, reached, least, named⟩ := ih kept
      refine ⟨latest, later, reached, least, named.imp_right ?_⟩
      rintro ⟨claim, member, fresh⟩
      exact ⟨claim, mem_cons_of_mem _ member, fresh⟩
    · obtain ⟨latest, later, reached, least, named⟩ := ih holds
      refine ⟨latest, later, reached, above.le.trans least, .inr ?_⟩
      rcases named with rfl | ⟨claim, member, fresh⟩
      · exact ⟨call, mem_cons_self, granted.1⟩
      · exact ⟨claim, mem_cons_of_mem _ member, fresh⟩

def NoGrant (host : SessionHost) (start : TurnState) (calls : List ClaimCall) : Prop :=
  ∀ before call later, calls = before ++ call :: later → ∀ claimId generation,
    ¬ Grants host (exec (stepClaim host) start before) call claimId generation

theorem storedClaim_run_of_noGrant {start : TurnState}
    (stored : StoredClaim claimId generation start.session.metadata) {calls : List ClaimCall}
    (none : NoGrant host start calls) :
    StoredClaim claimId generation (exec (stepClaim host) start calls).session.metadata := by
  induction calls generalizing start with
  | nil => exact stored
  | cons call calls ih =>
    rcases storedClaim_call host call stored with
      kept | ⟨next, raised, granted, _⟩
    · refine ih kept fun before next later split => ?_
      exact none (call :: before) next later (by rw [split]; rfl)
    · exact absurd granted (none [] call calls rfl next raised)

/-- **A call with another claim than the stored one changes nothing.** -/
theorem unchanged_of_stale {stale : Text}
    (stored : StoredClaim claimId generation state.session.metadata)
    (carried : call.carried? = some stale) (different : stale ≠ claimId) :
    (stepClaim host state call).session = state.session := by
  have refused : ∀ {requestId : Text} {owner : Owner},
      ¬ OwnsClaim state.requests state.session requestId stale owner := by
    intro requestId owner owns
    have claim := owns.claim
    simp only [holdsClaim, Bool.and_eq_true, and_assoc] at claim
    exact different (stored.claim stale claim.1 claim.2.1)
  rcases stepTurn_cases host state call.turn with same | wrote
  · exact same
  cases call with
  | takeOver | claim => cases carried
  | assertClaim requestId claim owner =>
    cases carried
    obtain ⟨_, asserted, _⟩ := bind_eq_ok.mp wrote
    exact absurd (ownsClaim_of_assert asserted) refused
  | advance requestId update claim owner removeKeys =>
    cases carried
    exact absurd (guarded_of_advance wrote).1 refused
  | release claim =>
    cases carried
    have result := (Except.ok.inj wrote).symm
    rw [stepClaim, result]
    unfold releasePreparedSubmissionRecoveryClaim
    simp only
    split
    next matched =>
      rw [Bool.and_eq_true] at matched
      exact absurd (stored.claim stale matched.1 matched.2) different
    · rfl
  | updateOwned requestId update claim owner removeKeys =>
    cases carried
    obtain ⟨_, wrote⟩ := refuse_bind_eq_ok.mp wrote
    obtain ⟨⟨kind, branch⟩, _⟩ := guarded_of_updateOwned wrote
    cases branch with
    | freshCheckpoint request owned fresh regular =>
      simp [freshPreparedCheckpoint] at fresh
    | freshDispatch _ _ _ _ claimless | proof _ _ _ claimless | observation _ _ _ claimless =>
      cases claimless
    | claimedPrepared claim given owned =>
      cases given
      exact absurd owned refused

/-! ## Dispatches -/

def Dispatches (host : SessionHost) (state : TurnState) (call : ClaimCall) : Prop :=
  state.session.metadata.read stateKey = .scalar (.str prepared) ∧
    (stepClaim host state call).session.metadata.read stateKey = .scalar (.str dispatching)

/-- Who may dispatch a prepared turn: the owner of the request that holds the stored claim, or the
owner of a request that need not be recovered, where nothing was ever claimed. -/
inductive DispatchedBy (state : TurnState) : ClaimCall → Prop
  | claimed (requestId : Text) (update : Fields) (claimId : Text) (owner : Owner)
      (removeKeys : List Text)
      (owns : OwnsClaim state.requests state.session requestId claimId owner) :
      DispatchedBy state (.advance requestId update claimId owner removeKeys)
  | fresh (requestId : Text) (update : Fields) (owner : Owner) (removeKeys : List Text)
      (request : Request)
      (owned : OwnsRequest state.requests state.session requestId owner false request)
      (turn : holdsTurn state.session.metadata requestId = true)
      (unclaimed : unclaimed state.session.metadata = true)
      (regular : request.recoveryRequired = false) :
      DispatchedBy state (.updateOwned requestId update none owner removeKeys)

theorem unstated_of_claimed
    (checked : checkOwnedUpdate session requestId update removeKeys .claimedPrepared = .ok ())
    (state : session.metadata.read stateKey = .scalar (.str prepared)) :
    update.get? stateKey = none := by
  unfold checkOwnedUpdate at checked
  simp only [refuse_bind_eq_ok] at checked
  obtain ⟨unmoved, _⟩ := checked
  rw [state] at unmoved
  cases stated : update.has stateKey with
  | false => exact OrderedDict.has_eq_false_iff.mp stated
  | true =>
    rw [stated] at unmoved
    have other : equalsText (.scalar (.str prepared)) dispatching = false := by decide
    simp [UpdateKind.changesState, Json.isNull, other] at unmoved

theorem prepared_ne_dispatching :
    (Json.scalar (Scalar.str prepared)) ≠ .scalar (.str dispatching) := by
  intro same
  injection same with scalars
  injection scalars with texts
  exact absurd texts (by decide)

/-- **Every dispatch is one that may be made.** -/
theorem dispatchedBy_of_dispatches (dispatched : Dispatches host state call) :
    DispatchedBy state call := by
  obtain ⟨before, after⟩ := dispatched
  have moved : ∀ {same : Json Scalar}, same = state.session.metadata.read stateKey →
      same ≠ .scalar (.str dispatching) := by
    rintro same rfl
    rw [before]
    exact prepared_ne_dispatching
  rcases stepTurn_cases host state call.turn with same | wrote
  · rw [stepClaim, same] at after
    exact absurd after (moved rfl)
  rw [stepClaim] at after
  cases call with
  | takeOver requestId request => exact absurd after (moved rfl)
  | claim requestId owner leaseExpired claimId leaseExpiresAt =>
    obtain ⟨generation, _, result⟩ := claimed_of_claim wrote
    rw [result, Fields.read, get?_set_of_ne _ (by decide), get?_set_of_ne _ (by decide)] at after
    exact absurd after (moved rfl)
  | assertClaim requestId claimId owner =>
    obtain ⟨_, _, wrote⟩ := bind_eq_ok.mp wrote
    rw [← Except.ok.inj wrote] at after
    exact absurd after (moved rfl)
  | advance requestId update claimId owner removeKeys =>
    exact .claimed requestId update claimId owner removeKeys (guarded_of_advance wrote).1
  | release claimId =>
    rw [← Except.ok.inj wrote] at after
    have same := keeps_release state.session claimId stateKey (by decide) (by decide)
    exact absurd after (moved (read_eq_of_get?_eq same))
  | updateOwned requestId update claimId owner removeKeys =>
    obtain ⟨_, wrote⟩ := refuse_bind_eq_ok.mp wrote
    obtain ⟨kind, branch, checked, result⟩ := checked_of_updateOwned wrote
    have guard := (guarded_of_updateOwned wrote).2.1
    cases branch with
    | freshCheckpoint request owned fresh regular =>
      simp [freshPreparedCheckpoint, before, Json.isNull] at fresh
    | freshDispatch request owned prepares unclaimed claimless regular turn =>
      cases claimless
      exact .fresh requestId update owner removeKeys request owned turn unclaimed regular
    | claimedPrepared claim given owned =>
      have kept := guard.state_result
      rw [unstated_of_claimed checked before, none_or] at kept
      rw [result, read_eq_of_get?_eq kept] at after
      exact absurd after (moved rfl)
    | proof request owned turn claimless prepares =>
      exact absurd (before.symm.trans prepares) prepared_ne_dispatching
    | observation request owned turn claimless prepares =>
      rcases prepares with unset | prepares
      · cases before.symm.trans unset
      · exact absurd (before.symm.trans prepares) prepared_ne_dispatching

theorem state_call (host : SessionHost) (call : ClaimCall)
    (staged : Staged state.session.metadata) :
    Relation.ReflTransGen StateStep (state.session.metadata.read stateKey)
      ((stepClaim host state call).session.metadata.read stateKey) := by
  rcases stepTurn_cases host state call.turn with same | wrote
  · rw [stepClaim, same]
  rw [stepClaim]
  cases effect_of_write wrote with
  | kept same => rw [read_eq_of_get?_eq (same stateKey (by decide) (by decide))]
  | guarded writer update given removeKeys maker carried agrees before guard result =>
    rw [result]
    exact guard.state_steps staged
  | unsent _ _ _ _ made | terminal _ _ _ _ _ made => cases call <;> cases made

theorem state_run (host : SessionHost) {start : TurnState}
    (staged : Staged start.session.metadata) (calls : List ClaimCall) :
    Relation.ReflTransGen StateStep (start.session.metadata.read stateKey)
      ((exec (stepClaim host) start calls).session.metadata.read stateKey) := by
  induction calls generalizing start with
  | nil => exact .refl
  | cons call calls ih =>
    have step := state_call host call staged
    exact step.trans (ih (staged.forward step))

theorem not_prepared_of_steps {first last : Json Scalar}
    (steps : Relation.ReflTransGen StateStep first last)
    (moved : first = .scalar (.str dispatching)) :
    last ≠ .scalar (.str prepared) := by
  rcases Relation.ReflTransGen.cases_tail steps with rfl | ⟨before, _, step⟩
  · rw [moved]
    exact prepared_ne_dispatching.symm
  generalize other : Json.scalar (Scalar.str prepared) = start
  rintro rfl
  cases step with
  | dispatches => exact prepared_ne_dispatching other
  | proves =>
    injection other with scalars
    injection scalars with texts
    exact absurd texts (by decide)

/-! ## Every run -/

def afterClaims (host : SessionHost) (start : TurnState) (calls : List ClaimCall) : TurnState :=
  exec (stepClaim host) start calls

theorem afterClaims_append (host : SessionHost) (start : TurnState)
    (first second : List ClaimCall) :
    afterClaims host start (first ++ second) =
      afterClaims host (afterClaims host start first) second :=
  exec_append _ _ _ _

theorem afterClaims_cons (host : SessionHost) (start : TurnState) (call : ClaimCall)
    (calls : List ClaimCall) :
    afterClaims host start (call :: calls) = afterClaims host (stepClaim host start call) calls :=
  rfl

section Run

variable {host : SessionHost} {start : TurnState}

variable {before : List ClaimCall} {granting : ClaimCall}

theorem storedClaim_after
    (granted : Grants host (afterClaims host start before) granting claimId generation) :
    StoredClaim claimId generation
      (afterClaims host start (before ++ [granting])).session.metadata := by
  rw [afterClaims_append]
  exact (storedClaim_of_grants granted).2

variable {between : List ClaimCall}

theorem generations_increase {first second : ClaimCall} {claimId' : Text} {generation' : ℤ}
    (granted : Grants host (afterClaims host start before) first claimId generation)
    (again : Grants host (afterClaims host start (before ++ first :: between)) second claimId'
      generation') : generation < generation' := by
  obtain ⟨latest, later, stored, least, _⟩ :=
    storedClaim_run host (storedClaim_after granted) between
  have here : afterClaims host start (before ++ first :: between) =
      exec (stepClaim host) (afterClaims host start (before ++ [first])) between := by
    rw [← singleton_append, ← append_assoc, afterClaims_append]
    rfl
  rw [← here] at stored
  exact least.trans_lt (generation_lt_of_next stored.generation (storedClaim_of_grants again).1)

theorem earlier_claim_is_stale {later : List ClaimCall} {earlier : Text}
    (granted : Grants host (afterClaims host start before) granting claimId generation)
    (fresh : ∀ claim ∈ granting :: later, claim.claimed? ≠ some earlier)
    (carried : call.carried? = some earlier) :
    (stepClaim host (afterClaims host start (before ++ granting :: later)) call).session =
      (afterClaims host start (before ++ granting :: later)).session := by
  obtain ⟨latest, _, stored, _, named⟩ :=
    storedClaim_run host (storedClaim_of_grants granted).2 later
  have here : afterClaims host start (before ++ granting :: later) =
      exec (stepClaim host) (stepClaim host (afterClaims host start before) granting) later := by
    rw [afterClaims_append, afterClaims_cons]
    rfl
  rw [here]
  refine unchanged_of_stale stored carried ?_
  rintro rfl
  rcases named with rfl | ⟨claim, member, fresh'⟩
  · exact fresh granting mem_cons_self granted.1
  · exact fresh claim (mem_cons_of_mem _ member) fresh'

theorem dispatch_of_granted
    (granted : Grants host (afterClaims host start before) granting claimId generation)
    (none : NoGrant host (afterClaims host start (before ++ [granting])) between)
    (dispatched : DispatchedBy (afterClaims host start (before ++ granting :: between)) call) :
    ∃ requestId update owner removeKeys,
      call = .advance requestId update claimId owner removeKeys := by
  have stored := storedClaim_run_of_noGrant (storedClaim_after granted) none
  have here : afterClaims host start (before ++ granting :: between) =
      exec (stepClaim host) (afterClaims host start (before ++ [granting])) between := by
    rw [← singleton_append, ← append_assoc, afterClaims_append]
    rfl
  rw [← here] at stored
  cases dispatched with
  | claimed requestId update claim owner removeKeys owns =>
    have holds := owns.claim
    simp only [holdsClaim, Bool.and_eq_true, and_assoc] at holds
    rw [stored.claim claim holds.1 holds.2.1]
    exact ⟨requestId, update, owner, removeKeys, rfl⟩
  | fresh requestId update owner removeKeys request owned turn unclaimed regular =>
    rw [Session.unclaimed, Bool.and_eq_true, isNull_iff, isNull_iff,
      read_of_get? stored.generation] at unclaimed
    cases unclaimed.2

theorem dispatched_once {next : ClaimCall}
    (dispatched : Dispatches host (afterClaims host start before) call) :
    ¬ Dispatches host (afterClaims host start (before ++ call :: between)) next := by
  have staged : Staged (stepClaim host (afterClaims host start before) call).session.metadata :=
    ⟨dispatching, by decide, dispatched.2⟩
  have steps := state_run host staged between
  intro again
  refine not_prepared_of_steps steps dispatched.2 ?_
  have prepared := again.1
  rw [afterClaims_append, afterClaims_cons] at prepared
  exact prepared

end Run

/-- **A prepared turn is dispatched by one claimant, over every run** of claims, releases, advances,
updates and take-overs.  The generation rises with each claim; a call with an earlier claim changes
nothing once a later claim is granted; and the turn goes from prepared to dispatching at most once,
by the owner of the request, with the latest claim where there ever was one. -/
theorem prepared_turn_has_one_claimant (host : SessionHost) (start : TurnState)
    (calls : List ClaimCall) :
    (∀ before granting later, calls = before ++ granting :: later →
        ∀ claimId generation,
          Grants host (afterClaims host start before) granting claimId generation →
            (∀ stored, (afterClaims host start before).session.metadata.get? generationKey =
                some (.scalar (.int stored)) → stored < generation) ∧
              (∀ between next rest claimId' generation', later = between ++ next :: rest →
                Grants host (afterClaims host start (before ++ granting :: between)) next claimId'
                  generation' → generation < generation') ∧
              ∀ earlier, (∀ claim ∈ granting :: later, claim.claimed? ≠ some earlier) →
                ∀ call, call.carried? = some earlier →
                  (stepClaim host (afterClaims host start calls) call).session =
                    (afterClaims host start calls).session) ∧
      ∀ before call later, calls = before ++ call :: later →
        Dispatches host (afterClaims host start before) call →
          DispatchedBy (afterClaims host start before) call ∧
            (∀ claimed granting between claimId generation,
              before = claimed ++ granting :: between →
              Grants host (afterClaims host start claimed) granting claimId generation →
              NoGrant host (afterClaims host start (claimed ++ [granting])) between →
              ∃ requestId update owner removeKeys,
                call = .advance requestId update claimId owner removeKeys) ∧
            ∀ between next rest, later = between ++ next :: rest →
              ¬ Dispatches host (afterClaims host start (before ++ call :: between)) next := by
  constructor
  · rintro before granting later rfl claimId generation granted
    refine ⟨fun stored there => ?_, ?_, ?_⟩
    · exact generation_lt_of_next there (storedClaim_of_grants granted).1
    · rintro between next rest claimId' generation' _ again
      exact generations_increase granted again
    · intro earlier fresh call carried
      exact earlier_claim_is_stale granted fresh carried
  · rintro before call later _ dispatched
    have by' := dispatchedBy_of_dispatches dispatched
    refine ⟨by', ?_, fun between next rest _ => dispatched_once dispatched⟩
    rintro claimed granting between claimId generation rfl granted none
    exact dispatch_of_granted granted none by'

/-! ### A turn that is claimed twice -/

def secondOwner : Owner := ⟨"epoch-2".toList, "worker-2".toList, 1⟩

/-- A prepared turn that was never claimed. -/
def preparedTurn : TurnState :=
  turnState (heldFields ++
    [(stateKey, .scalar (.str prepared)), (provenKey, .scalar (.bool false))])

def takenOver : ClaimCall :=
  .takeOver "req-1".toList (some
    { runningRequest with
      dispatchOwnerEpoch := some secondOwner.dispatchOwnerEpoch
      workerId := some secondOwner.workerId
      recoveryRequired := true })

def firstClaim : ClaimCall :=
  .claim "req-1".toList firstOwner false "claim-1".toList "later".toList

def secondClaim : ClaimCall :=
  .claim "req-1".toList secondOwner false "claim-2".toList "later".toList

def secondAdvance : ClaimCall :=
  .advance "req-1".toList
    (OrderedDict.ofList (heldFields ++ [(stateKey, .scalar (.str dispatching))]))
    "claim-2".toList secondOwner []

/-- The first claim is stale after the second, and the turn is dispatched with the second. -/
theorem prepared_turn_has_one_claimant_twice :
    (stepClaim plainHost (afterClaims plainHost preparedTurn [firstClaim, takenOver, secondClaim])
        (.release "claim-1".toList)).session =
        (afterClaims plainHost preparedTurn [firstClaim, takenOver, secondClaim]).session ∧
      DispatchedBy (afterClaims plainHost preparedTurn [firstClaim, takenOver, secondClaim])
        secondAdvance := by
  have granted : Grants plainHost (afterClaims plainHost preparedTurn [firstClaim, takenOver])
      secondClaim "claim-2".toList 2 := ⟨rfl, _, rfl, rfl⟩
  have dispatched : Dispatches plainHost
      (afterClaims plainHost preparedTurn [firstClaim, takenOver, secondClaim]) secondAdvance :=
    ⟨rfl, rfl⟩
  constructor
  · obtain ⟨_, _, stale⟩ := (prepared_turn_has_one_claimant plainHost preparedTurn
      [firstClaim, takenOver, secondClaim]).1 [firstClaim, takenOver] secondClaim [] rfl _ _ granted
    refine stale "claim-1".toList ?_ (.release "claim-1".toList) rfl
    intro claim member
    rw [mem_singleton.mp member]
    decide
  · exact ((prepared_turn_has_one_claimant plainHost preparedTurn
      [firstClaim, takenOver, secondClaim, secondAdvance]).2
        [firstClaim, takenOver, secondClaim] secondAdvance [] rfl dispatched).1

end Audiagentic.Session
