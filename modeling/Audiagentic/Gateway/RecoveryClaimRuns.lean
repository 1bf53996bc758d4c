import Audiagentic.Gateway.RecoveryClaims

/-!
# Runs of recovery calls

Calls on the recovery journal of one request, one after another, with a clock that does not go back.
`RecoveryLaws` says what has to hold of every journal that is reached.  It does as long as no call
prepares a reconcile attempt once an unresolved result has cooled down, where the generation starts
over, and no attempt is shortened to an id that is in the journal.
-/

namespace Audiagentic.Gateway

open Foundations List

/-! ## Steps -/

/-- The recovery journal of a request, the request and the last reading of the clock; and, for what
is proved only, the intents that were written with the attempts that they were written for. -/
structure RecoveryStore where
  journal : List RecoveryEntry
  record : Record
  clock : Moment
  written : List (String × RecoveryIntent)

/-- The time that passes before each reading of the clock. -/
structure Ticks where
  first : ℕ
  second : ℕ
  third : ℕ

def Ticks.readings (ticks : Ticks) (clock : Moment) : Readings where
  first := clock + ticks.first
  second := clock + ticks.first + ticks.second
  third := clock + ticks.first + ticks.second + ticks.third

inductive RecoveryCall where
  | prepare (request : RecoveryRequest)
  | renew (actionAttemptId : String) (generation : Int)
  | assertOwner (actionAttemptId : String) (generation : Int)
  | recordResult (actionAttemptId outcome : String) (terminal : Bool)
      (claimGeneration : Option Int) (causalInputIds : List String)
  | captureTerminal (actionAttemptId : String) (generation : Option Int)
      (capture : OperatorCapture) (now : Timestamp)

def RecoveryStore.prepared (store : RecoveryStore) (readings : Readings)
    (request : RecoveryRequest) : RecoveryStore :=
  match prepareRecoveryAction store.journal readings request with
  | .ok (.written intent, journal) =>
    { store with
      journal
      written := store.written ++ [(request.actionAttemptId, intent)] }
  | _ => store

def recoveryCall (store : RecoveryStore) (readings : Readings) : RecoveryCall → RecoveryStore
  | .prepare request => store.prepared readings request
  | .renew actionAttemptId generation =>
    { store with
      journal := (renewRecoveryClaim store.journal readings actionAttemptId generation).2 }
  | .assertOwner _ _ => store
  | .recordResult actionAttemptId outcome terminal claimGeneration causalInputIds =>
    match recordRecoveryResult store.journal readings actionAttemptId outcome terminal
        claimGeneration causalInputIds with
    | .ok (_, journal) => { store with journal }
    | .error _ => store
  | .captureTerminal actionAttemptId generation capture now =>
    { store with
      record := ((transitionOperatorTerminal (captureWithClaim store.journal readings
        actionAttemptId generation capture) now).run store.record).1 }

def recoveryStep (store : RecoveryStore) (call : RecoveryCall × Ticks) : RecoveryStore :=
  let readings := call.2.readings store.clock
  { recoveryCall store readings call.1 with clock := readings.third }

/-- A request without recovery actions so far. -/
def RecoveryStore.fresh (record : Record) (clock : Moment) : RecoveryStore where
  journal := []
  record := record
  clock := clock
  written := []

/-! ## What has to hold -/

def intentsOf (entries : List RecoveryEntry) : List RecoveryIntent :=
  entries.filterMap RecoveryEntry.intent?

/-- The reconcile intents that were persisted. -/
def claimsOf (entries : List RecoveryEntry) : List RecoveryIntent :=
  (intentsOf entries).filter RecoveryIntent.claims

def ClaimPrecedes (first second : RecoveryIntent) : Prop :=
  ∃ generation ∈ first.claimGeneration, ∃ later ∈ second.claimGeneration, generation < later

def Superseded (store : RecoveryStore) (attempt : String) : Prop :=
  ∃ before claim middle other after,
    store.written = before ++ claim :: middle ++ other :: after ∧
      claim.1 = attempt ∧ claim.2.claims = true ∧ other.2.claims = true ∧ other.1 ≠ attempt

/-- The attempt passes no owner check, renews nothing, records nothing and commits nothing. -/
structure LocksOut (store : RecoveryStore) (attempt : String) : Prop where
  owner : ∀ now generation,
    (assertRecoveryClaimOwner store.journal now attempt generation).isOk = false
  renews : ∀ readings generation,
    renewRecoveryClaim store.journal readings attempt generation = (false, store.journal)
  records : ∀ readings outcome terminal generation causalInputIds answer journal,
    recordRecoveryResult store.journal readings attempt outcome terminal generation causalInputIds =
      .ok (answer, journal) → journal = store.journal
  commits : ∀ readings generation capture now,
    ((transitionOperatorTerminal (captureWithClaim store.journal readings attempt generation
      capture) now).run store.record).1 = store.record

structure RecoveryLaws (store : RecoveryStore) : Prop where
  written : store.written.map Prod.snd = intentsOf store.journal
  increasing : (claimsOf store.journal).Pairwise ClaimPrecedes
  oneOwner : ∀ now attempt generation now' attempt' generation',
    holdsClaim store.journal now attempt generation = true →
      holdsClaim store.journal now' attempt' generation' = true → attempt = attempt'
  superseded : ∀ attempt, Superseded store attempt → LocksOut store attempt
  finished : ∀ before result after, store.journal = before ++ .result result :: after →
    result.outcome = "reconciliation-completed" → claimsOf after = []
  once : (store.written.map Prod.fst).Nodup
  budget : 0 < consumedBudget store.journal →
    ∃ intent ∈ intentsOf store.journal, (consumedBudget store.journal : Int) ≤
    intent.retryBudgetBefore
  proven : ∀ intent ∈ intentsOf store.journal, intent.spends = true →
    intent.submissionProven = some false

/-- The condition on a call that prepares an attempt which is not in the journal. -/
structure Separates (store : RecoveryStore) (now : Moment) (request : RecoveryRequest) : Prop where
  /-- The attempt is not shortened to an id that is in the journal. -/
  distinct : request.actionAttemptId.length ≤ 128 ∨
    ∀ entry ∈ store.journal, entry.actionAttemptId ≠ clip 128 request.actionAttemptId
  /-- An unresolved result of the claim has not cooled down. -/
  resolved : request.actionKind = .reconcile → ∀ claim prior,
    recoveryClaimState store.journal = some claim → claim.result = some prior →
      prior.outcome = "reconciliation-completed" ∨ now + recoveryClockSkew < prior.createdAt ∨
        now - prior.createdAt < recoveryUnresolvedCooldown
  completed : request.actionKind = .reconcile → ∀ result, .result result ∈ store.journal →
    result.outcome = "reconciliation-completed" →
      ∃ claim prior, recoveryClaimState store.journal = some claim ∧ claim.result = some prior

def KeepsApart (store : RecoveryStore) : RecoveryCall × Ticks → Prop
  | (.prepare request, ticks) => (checkRecoveryRequest request).isOk = true →
      (∀ entry ∈ store.journal, entry.actionAttemptId ≠ request.actionAttemptId) →
        Separates store (ticks.readings store.clock).first request
  | _ => True

/-! ## The claim is the last claim intent -/

@[simp] theorem intentsOf_append (first second : List RecoveryEntry) :
    intentsOf (first ++ second) = intentsOf first ++ intentsOf second :=
  filterMap_append

variable {entries : List RecoveryEntry} {intent : RecoveryIntent}

theorem mem_intentsOf : intent ∈ intentsOf entries ↔ .intent intent ∈ entries := by
  rw [intentsOf, mem_filterMap]
  constructor
  · rintro ⟨entry, member, same⟩
    cases entry with
    | intent written =>
      obtain rfl := Option.some.inj same
      exact member
    | renewal | result => cases same
  · exact fun member => ⟨.intent intent, member, rfl⟩

theorem claimsOf_append (first second : List RecoveryEntry) :
    claimsOf (first ++ second) = claimsOf first ++ claimsOf second := by
  rw [claimsOf, intentsOf_append, filter_append]
  rfl

theorem RecoveryClaim.intent_renewed (claim : RecoveryClaim) (renewal : ClaimRenewal) :
    (claim.renewed renewal).intent = claim.intent := by
  unfold renewed
  split <;> rfl

theorem RecoveryClaim.intent_resulted (claim : RecoveryClaim) (result : RecoveryResult) :
    (claim.resulted result).intent = claim.intent := by
  unfold resulted
  split <;> rfl

theorem RecoveryClaim.generation_renewed (claim : RecoveryClaim) (renewal : ClaimRenewal) :
    (claim.renewed renewal).claimGeneration = claim.claimGeneration := by
  unfold renewed
  split <;> rfl

theorem RecoveryClaim.generation_resulted (claim : RecoveryClaim) (result : RecoveryResult) :
    (claim.resulted result).claimGeneration = claim.claimGeneration := by
  unfold resulted
  split <;> rfl

theorem recoveryClaimState_append (entries : List RecoveryEntry) (entry : RecoveryEntry) :
    recoveryClaimState (entries ++ [entry]) = (claimStep (entries.foldl claimStep (none, 0))
      entry).1 := by
  rw [recoveryClaimState, foldl_append]
  rfl

/-- **The claim is that of the last reconcile intent.** -/
theorem recoveryClaimState_intent (entries : List RecoveryEntry) :
    (recoveryClaimState entries).map RecoveryClaim.intent = (claimsOf entries).getLast? := by
  induction entries using List.reverseRecOn with
  | nil => rfl
  | append_singleton entries entry ih =>
    rw [recoveryClaimState_append, claimsOf_append]
    cases entry with
    | intent intent =>
      cases claims : intent.claims with
      | true =>
        have only : claimsOf [.intent intent] = [intent] :=
          filter_cons_of_pos claims
        rw [only, getLast?_concat, claimStep, if_pos claims]
        rfl
      | false =>
        have none : claimsOf [.intent intent] = [] :=
          filter_cons_of_neg (by rw [claims]; decide)
        rw [none, append_nil, claimStep, if_neg (by rw [claims]; decide)]
        exact ih
    | renewal renewal =>
      change Option.map _ (Option.map _ (recoveryClaimState entries)) = (_ ++ []).getLast?
      rw [Option.map_map, append_nil, ← ih]
      exact congrArg (fun look => (recoveryClaimState entries).map look)
        (funext fun claim => claim.intent_renewed renewal)
    | result result =>
      change Option.map _ (Option.map _ (recoveryClaimState entries)) = (_ ++ []).getLast?
      rw [Option.map_map, append_nil, ← ih]
      exact congrArg (fun look => (recoveryClaimState entries).map look)
        (funext fun claim => claim.intent_resulted result)

theorem recoveryClaimState_generation (entries : List RecoveryEntry) :
    ∀ claim, recoveryClaimState entries = some claim →
      ∀ generation, claim.intent.claimGeneration = some generation →
        claim.claimGeneration = generation := by
  induction entries using List.reverseRecOn with
  | nil =>
    intro claim impossible
    cases impossible
  | append_singleton entries entry ih =>
    intro claim found generation numbered
    rw [recoveryClaimState_append] at found
    cases entry with
    | intent intent =>
      rw [claimStep] at found
      split at found
      · obtain rfl := Option.some.inj found
        change intent.claimGeneration = some generation at numbered
        change intent.claimGeneration.getD _ = generation
        rw [numbered]
        rfl
      · exact ih claim found generation numbered
    | renewal renewal =>
      obtain ⟨before, current, rfl⟩ := Option.map_eq_some_iff.mp found
      rw [RecoveryClaim.intent_renewed] at numbered
      rw [RecoveryClaim.generation_renewed]
      exact ih before current generation numbered
    | result result =>
      obtain ⟨before, current, rfl⟩ := Option.map_eq_some_iff.mp found
      rw [RecoveryClaim.intent_resulted] at numbered
      rw [RecoveryClaim.generation_resulted]
      exact ih before current generation numbered

/-! ## Who holds the claim -/

variable {attempt : String} {generation : Option Int}

theorem holdsClaim_iff {now : Moment} :
    holdsClaim entries now attempt generation = true ↔
      ∃ claim, recoveryClaimState entries = some claim ∧
        claim.ownedBy now attempt generation = true :=
  Option.any_eq_true _ _

/-- **Who holds the claim** is the attempt of the last reconcile intent. -/
theorem attempt_of_holdsClaim {now : Moment}
    (holds : holdsClaim entries now attempt generation = true) :
    ∃ intent, (claimsOf entries).getLast? = some intent ∧ intent.actionAttemptId = attempt := by
  obtain ⟨claim, found, owned⟩ := holdsClaim_iff.mp holds
  refine ⟨claim.intent, ?_, ?_⟩
  · rw [← recoveryClaimState_intent, found]
    rfl
  · simp only [RecoveryClaim.ownedBy, Bool.and_eq_true, decide_eq_true_eq] at owned
    exact owned.1.1.2

/-! ## What each call writes -/

structure Writes (entries : List RecoveryEntry) (readings : Readings) (request : RecoveryRequest)
    (intent : RecoveryIntent) : Prop where
  checked : (checkRecoveryRequest request).isOk = true
  fresh : ∀ entry ∈ entries, entry.actionAttemptId ≠ request.actionAttemptId
  prepares : ∃ generation, intent = newIntent entries request generation readings.second ∧
    (request.actionKind = .reconcile → nextClaimGeneration entries readings.first = .ok generation)

theorem answerExisting_ne (entries : List RecoveryEntry) (attempt : String) (entry : RecoveryEntry)
    (intent : RecoveryIntent) : answerExisting entries attempt entry ≠ .written intent := by
  unfold answerExisting
  split
  · split
    · split <;> exact PreparedAction.noConfusion
    · exact PreparedAction.noConfusion
  · exact PreparedAction.noConfusion

theorem nextClaimGeneration_ne {now : Moment} {answer : PreparedAction}
    (fenced : nextClaimGeneration entries now = .error answer) (intent : RecoveryIntent) :
    answer ≠ .written intent := by
  unfold nextClaimGeneration at fenced
  split at fenced
  · cases fenced
  next claim _ =>
    split at fenced
    · split at fenced
      · cases fenced
        exact PreparedAction.noConfusion
      split at fenced
      · cases fenced
        exact PreparedAction.noConfusion
      split at fenced
      · cases fenced
        exact PreparedAction.noConfusion
      · cases fenced
    · split at fenced
      · cases fenced
      split at fenced
      · cases fenced
        exact PreparedAction.noConfusion
      · cases fenced

/-- **Preparing an attempt** writes nothing or one intent. -/
theorem prepared_cases (store : RecoveryStore) (readings : Readings) (request : RecoveryRequest) :
    store.prepared readings request = store ∨
      ∃ intent, Writes store.journal readings request intent ∧
        store.prepared readings request =
          { store with
            journal := store.journal ++ [.intent intent]
            written := store.written ++ [(request.actionAttemptId, intent)] } := by
  unfold RecoveryStore.prepared prepareRecoveryAction
  cases checked : checkRecoveryRequest request with
  | error failure => exact .inl rfl
  | ok _ =>
    cases existing : existingEntry store.journal request.actionAttemptId with
    | some entry =>
      left
      change (match (Except.ok (answerExisting store.journal request.actionAttemptId entry,
          store.journal) : Except GatewayError (PreparedAction × List RecoveryEntry)) with
        | .ok (.written intent, journal) => _
        | _ => store) = store
      cases answer : answerExisting store.journal request.actionAttemptId entry with
      | written intent => exact absurd answer (answerExisting_ne _ _ _ _)
      | stored _ => rfl
      | fenced _ _ _ _ => rfl
    | none =>
      have fresh : ∀ entry ∈ store.journal, entry.actionAttemptId ≠ request.actionAttemptId := by
        intro entry member same
        have absent := find?_eq_none.mp existing entry (mem_reverse.mpr member)
        exact absent (decide_eq_true same)
      have writes : ∀ generation, (request.actionKind = .reconcile →
            nextClaimGeneration store.journal readings.first = .ok generation) →
          Writes store.journal readings request
            (newIntent store.journal request generation readings.second) :=
        fun generation given => ⟨by rw [checked]; rfl, fresh, generation, rfl, given⟩
      by_cases reconciles : request.actionKind = .reconcile
      · cases next : nextClaimGeneration store.journal readings.first with
        | error answer =>
          left
          simp only [reconciles, if_true]
          cases answer with
          | written intent => exact absurd rfl (nextClaimGeneration_ne next intent)
          | stored _ => rfl
          | fenced _ _ _ _ => rfl
        | ok generation =>
          right
          refine ⟨_, writes generation fun _ => next, ?_⟩
          simp only [reconciles, if_true]
          rfl
      · right
        refine ⟨_, writes none fun same => absurd same reconciles, ?_⟩
        simp only [reconciles, if_false]
        rfl

/-- **Recording a result** writes nothing, or a result of an attempt whose intent is there and which
holds the claim where it reconciles. -/
theorem recordRecoveryResult_cases {journal : List RecoveryEntry} {readings : Readings}
    {outcome : String} {terminal : Bool} {causalInputIds : List String} {answer : RecordedResult}
    (recorded : recordRecoveryResult entries readings attempt outcome terminal generation
      causalInputIds = .ok (answer, journal)) :
    journal = entries ∨ ∃ intent result,
      (intentsOf entries).find? (fun intent => intent.actionAttemptId = attempt) = some intent ∧
      (intent.actionKind = .reconcile → ∃ number,
        holdsClaim entries readings.first attempt number = true) ∧
      journal = entries ++ [.result result] := by
  unfold recordRecoveryResult at recorded
  split at recorded
  · cases recorded
  next intent found =>
    split at recorded
    · cases recorded
      exact .inl rfl
    simp only at recorded
    split at recorded
    · cases recorded
      exact .inl rfl
    next holds =>
      cases recorded
      rw [not_and, Bool.not_eq_false] at holds
      exact .inr ⟨intent, _, found, fun reconciles => ⟨_, holds reconciles⟩, rfl⟩

/-- A call writes one entry at most: an intent that it prepares, a renewal or a result. -/
inductive Appends (store : RecoveryStore) (readings : Readings) : RecoveryCall → RecoveryStore →
    Prop
  | nothing {call : RecoveryCall} (record : Record) :
      Appends store readings call { store with record }
  | intent {request : RecoveryRequest} (intent : RecoveryIntent)
      (writes : Writes store.journal readings request intent) :
      Appends store readings (.prepare request)
        { store with
          journal := store.journal ++ [.intent intent]
          written := store.written ++ [(request.actionAttemptId, intent)] }
  | renewal {call : RecoveryCall} (renewal : ClaimRenewal) :
      Appends store readings call { store with journal := store.journal ++ [.renewal renewal] }
  | result {call : RecoveryCall} (result : RecoveryResult) :
      Appends store readings call { store with journal := store.journal ++ [.result result] }

theorem recoveryCall_appends (store : RecoveryStore) (readings : Readings) (call : RecoveryCall) :
    Appends store readings call (recoveryCall store readings call) := by
  cases call with
  | prepare request =>
    rcases prepared_cases store readings request with same | ⟨intent, writes, next⟩
    · rw [recoveryCall, same]
      exact .nothing store.record
    · rw [recoveryCall, next]
      exact .intent intent writes
  | renew attempt generation =>
    rw [recoveryCall, renewRecoveryClaim]
    split
    · exact .renewal _
    · exact .nothing store.record
  | assertOwner _ _ => exact .nothing store.record
  | recordResult attempt outcome terminal generation causalInputIds =>
    rw [recoveryCall, recordRecoveryResult]
    split
    next answer journal recorded =>
      rcases recordRecoveryResult_cases recorded with rfl | ⟨_, result, _, _, rfl⟩
      · exact .nothing store.record
      · exact .result result
    · exact .nothing store.record
  | captureTerminal attempt generation capture now => exact .nothing _

/-! ## A new intent -/

variable {request : RecoveryRequest}

theorem claims_newIntent {createdAt : Moment}
    (claims : (newIntent entries request generation createdAt).claims = true) :
    request.actionKind = .reconcile := by
  rw [RecoveryIntent.claims, Bool.and_eq_true] at claims
  exact of_decide_eq_true claims.1

theorem generation_newIntent {number : Int} {createdAt : Moment}
    (reconciles : request.actionKind = .reconcile) (positive : 0 < number) :
    (newIntent entries request (some number) createdAt).claimGeneration = some number := by
  have decided : ∀ remaining, (intentDisposition request remaining).1 = .intentPersisted := by
    intro remaining
    rw [intentDisposition, reconciles, if_neg (by rintro ⟨native, -⟩; cases native),
      if_neg (by rintro ⟨-, other⟩; exact other rfl)]
  simp only [newIntent, reconciles, decided, and_self, if_true, if_neg (Int.ne_of_gt positive)]

/-- **A provider-native intent** is persisted with budget left and without a submission only. -/
theorem spends_newIntent {createdAt : Moment}
    (spends : (newIntent entries request generation createdAt).spends = true) :
    request.submissionProven = some false ∧
      (consumedBudget entries : Int) + 1 ≤ request.retryBudget := by
  rw [RecoveryIntent.spends, Bool.and_eq_true, decide_eq_true_eq] at spends
  obtain ⟨native, persisted⟩ := spends
  change request.actionKind.isProviderNative = true at native
  change (intentDisposition request (max 0 (request.retryBudget - consumedBudget entries))).1 =
    .intentPersisted at persisted
  have other : request.actionKind ≠ .reconcile := by
    intro same
    rw [same] at native
    cases native
  rw [intentDisposition] at persisted
  split at persisted
  · cases persisted
  next proven =>
    split at persisted
    · cases persisted
    next left =>
      rw [not_and, not_not] at proven
      rw [not_and, not_not] at left
      refine ⟨proven native, ?_⟩
      have remaining : max 0 (request.retryBudget - consumedBudget entries) ≠ 0 :=
        fun none => other (left none)
      omega

/-- **The generation of a new claim** is one more than that of the claim before it, while that has
no result. -/
theorem nextClaimGeneration_cases {now : Moment}
    (next : nextClaimGeneration entries now = .ok generation)
    (resolved : ∀ claim prior, recoveryClaimState entries = some claim → claim.result = some prior →
      prior.outcome = "reconciliation-completed" ∨ now + recoveryClockSkew < prior.createdAt ∨
        now - prior.createdAt < recoveryUnresolvedCooldown) :
    (recoveryClaimState entries = none ∧ generation = some 1) ∨
      ∃ claim, recoveryClaimState entries = some claim ∧ claim.result = none ∧
        (0 < claim.claimGeneration → generation = some (claim.claimGeneration + 1)) := by
  unfold nextClaimGeneration at next
  cases found : recoveryClaimState entries with
  | none =>
    rw [found] at next
    cases next
    exact .inl ⟨rfl, rfl⟩
  | some claim =>
    right
    rw [found] at next
    simp only at next
    cases prior : claim.result with
    | some result =>
      rw [prior] at next
      have fenced := resolved claim result found prior
      simp only at next
      split at next
      · cases next
      next unfinished =>
        split at next
        · cases next
        next past =>
          split at next
          · cases next
          next cooled =>
            rcases fenced with finished | future | cooling
            · exact absurd finished unfinished
            · exact absurd future past
            · exact absurd cooling cooled
    | none =>
      rw [prior] at next
      simp only at next
      refine ⟨claim, rfl, prior, fun positive => ?_⟩
      split at next
      · cases next
        rfl
      split at next
      · cases next
      · cases next
        rfl

/-! ## What is kept -/

structure Tracked (store : RecoveryStore) : Prop where
  written : store.written.map Prod.snd = intentsOf store.journal
  named : ∀ claim ∈ store.written, claim.2.actionAttemptId = clip 128 claim.1
  distinct : (store.written.map fun claim => claim.2.actionAttemptId).Nodup
  numbered : ∀ intent ∈ claimsOf store.journal,
    ∃ generation, intent.claimGeneration = some generation ∧ 0 < generation
  increasing : (claimsOf store.journal).Pairwise ClaimPrecedes
  finished : ∀ before result after, store.journal = before ++ .result result :: after →
    result.outcome = "reconciliation-completed" → claimsOf after = []
  budget : 0 < consumedBudget store.journal →
    ∃ intent ∈ intentsOf store.journal, (consumedBudget store.journal : Int) ≤
    intent.retryBudgetBefore
  proven : ∀ intent ∈ intentsOf store.journal, intent.spends = true →
    intent.submissionProven = some false

theorem tracked_fresh (record : Record) (clock : Moment) :
    Tracked (RecoveryStore.fresh record clock) where
  written := rfl
  named _ member := by cases member
  distinct := nodup_nil
  numbered _ member := by cases member
  increasing := List.Pairwise.nil
  finished before _ _ split := by cases before <;> cases split
  budget impossible := by cases impossible
  proven _ member := by cases member

theorem finished_append {entry : RecoveryEntry}
    (finished : ∀ before result after, entries = before ++ .result result :: after →
      result.outcome = "reconciliation-completed" → claimsOf after = [])
    (last : ∀ result, .result result ∈ entries → result.outcome = "reconciliation-completed" →
      claimsOf [entry] = []) :
    ∀ before result after, entries ++ [entry] = before ++ .result result :: after →
      result.outcome = "reconciliation-completed" → claimsOf after = [] := by
  intro before result after split completes
  rcases eq_nil_or_concat after with rfl | ⟨rest, final, rfl⟩
  · rfl
  rw [concat_eq_append, ← cons_append, ← append_assoc] at split
  obtain ⟨start, same⟩ := append_inj' split rfl
  obtain rfl := (List.cons.inj same).1
  rw [concat_eq_append, claimsOf_append, finished before result rest start completes,
    last result (start ▸ mem_append_right _ mem_cons_self) completes]
  rfl

variable {store : RecoveryStore}

theorem Tracked.append (tracked : Tracked store) {entry : RecoveryEntry}
    (other : intentsOf [entry] = []) :
    Tracked { store with journal := store.journal ++ [entry] } := by
  have same : intentsOf (store.journal ++ [entry]) = intentsOf store.journal := by
    rw [intentsOf_append, other, append_nil]
  have claims : claimsOf (store.journal ++ [entry]) = claimsOf store.journal := by
    rw [claimsOf, same]
    rfl
  have spent : consumedBudget (store.journal ++ [entry]) = consumedBudget store.journal :=
    congrArg (List.countP RecoveryIntent.spends) same
  refine ⟨?_, tracked.named, tracked.distinct, ?_, ?_, ?_, ?_, ?_⟩
  · exact tracked.written.trans same.symm
  · rw [claims]
    exact tracked.numbered
  · rw [claims]
    exact tracked.increasing
  · refine finished_append tracked.finished fun _ _ _ => ?_
    rw [claimsOf, other]
    rfl
  · rw [spent, same]
    exact tracked.budget
  · rw [same]
    exact tracked.proven

theorem precedes_of_last {claims : List RecoveryIntent} (increasing : claims.Pairwise ClaimPrecedes)
    {last next : RecoveryIntent} (ends : claims.getLast? = some last) {number later : Int}
    (lastNumber : last.claimGeneration = some number)
    (nextNumber : next.claimGeneration = some later) (above : number < later) :
    ∀ intent ∈ claims, ClaimPrecedes intent next := by
  obtain ⟨before, rfl⟩ := getLast?_eq_some_iff.mp ends
  intro intent member
  rcases mem_append.mp member with early | final
  · obtain ⟨generation, given, other, same, below⟩ :=
      (pairwise_append.mp increasing).2.2 intent early last (mem_singleton_self _)
    obtain rfl := Option.some.inj (lastNumber.symm.trans same)
    exact ⟨generation, given, later, nextNumber, below.trans above⟩
  · obtain rfl := mem_singleton.mp final
    exact ⟨number, lastNumber, later, nextNumber, above⟩

section

variable (tracked : Tracked store)
include tracked

/-- **A new claim** comes after all others. -/
theorem Writes.precedes {readings : Readings}
    (writes : Writes store.journal readings request intent)
    (separates : Separates store readings.first request) (claims : intent.claims = true) :
    (∃ number, intent.claimGeneration = some number ∧ 0 < number) ∧
      ∀ other ∈ claimsOf store.journal, ClaimPrecedes other intent := by
  obtain ⟨generation, rfl, given⟩ := writes.prepares
  have reconciles := claims_newIntent claims
  have last := recoveryClaimState_intent store.journal
  rcases nextClaimGeneration_cases (given reconciles) (separates.resolved reconciles) with
    ⟨none, rfl⟩ | ⟨claim, found, -, next⟩
  · rw [none] at last
    have empty : claimsOf store.journal = [] := getLast?_eq_none_iff.mp last.symm
    rw [empty]
    refine ⟨⟨1, generation_newIntent reconciles Int.one_pos, Int.one_pos⟩, fun _ member => ?_⟩
    cases member
  · rw [found] at last
    have member : claim.intent ∈ claimsOf store.journal :=
      mem_of_getLast? last.symm
    obtain ⟨number, numbered, positive⟩ := tracked.numbered claim.intent member
    have same := recoveryClaimState_generation store.journal claim found number numbered
    rw [same] at next
    obtain rfl := next positive
    have numberedNext := @generation_newIntent store.journal request (number + 1) readings.second
      reconciles (by omega)
    exact ⟨⟨number + 1, numberedNext, by omega⟩, precedes_of_last tracked.increasing last.symm
      numbered numberedNext (by omega)⟩

/-- **A new intent keeps the invariant.** -/
theorem Tracked.write {readings : Readings} (writes : Writes store.journal readings request intent)
    (separates : Separates store readings.first request) :
    Tracked { store with
      journal := store.journal ++ [.intent intent]
      written := store.written ++ [(request.actionAttemptId, intent)] } := by
  have prepares := writes.prepares
  have named : intent.actionAttemptId = clip 128 request.actionAttemptId := by
    obtain ⟨_, rfl, _⟩ := prepares
    rfl
  have fresh : ∀ entry ∈ store.journal, entry.actionAttemptId ≠ intent.actionAttemptId := by
    rw [named]
    rcases separates.distinct with short | distinct
    · have whole : clip 128 request.actionAttemptId = request.actionAttemptId := by
        rw [clip, take_of_length_le short, String.ofList_toList]
      rw [whole]
      exact writes.fresh
    · exact distinct
  have claimsNew : claimsOf [.intent intent] = if intent.claims then [intent] else [] :=
    filter_cons
  refine ⟨?_, ?_, ?_, ?_, ?_, ?_, ?_, ?_⟩
  · change (store.written ++ [_]).map Prod.snd = _
    rw [map_append, tracked.written, intentsOf_append]
    rfl
  · exact forall_mem_snoc tracked.named named
  · change ((store.written ++ [_]).map _).Nodup
    rw [map_append, map_singleton, ← concat_eq_append]
    refine List.Nodup.concat ?_ tracked.distinct
    intro member
    obtain ⟨claim, before, same⟩ := List.mem_map.mp member
    have there : claim.2 ∈ intentsOf store.journal :=
      tracked.written ▸ List.mem_map.mpr ⟨claim, before, rfl⟩
    exact fresh _ (mem_intentsOf.mp there) same
  · intro other member
    rw [claimsOf_append, claimsNew] at member
    rcases mem_append.mp member with before | now
    · exact tracked.numbered other before
    split at now
    next claims =>
      obtain rfl := mem_singleton.mp now
      exact (writes.precedes tracked separates claims).1
    · cases now
  · change (claimsOf (store.journal ++ [_])).Pairwise ClaimPrecedes
    rw [claimsOf_append, claimsNew]
    split
    next claims =>
      refine pairwise_append.mpr ⟨tracked.increasing, pairwise_singleton _ _, ?_⟩
      intro other member later only
      rw [mem_singleton.mp only]
      exact (writes.precedes tracked separates claims).2 other member
    · rw [append_nil]
      exact tracked.increasing
  · refine finished_append tracked.finished fun result member completes => ?_
    rw [claimsNew]
    split
    next claims =>
      obtain ⟨generation, rfl, given⟩ := prepares
      have reconciles := claims_newIntent claims
      obtain ⟨claim, prior, found, has⟩ := separates.completed reconciles result member completes
      rcases nextClaimGeneration_cases (given reconciles) (separates.resolved reconciles) with
        ⟨none, -⟩ | ⟨other, same, unresolved, -⟩
      · rw [none] at found
        cases found
      · obtain rfl := Option.some.inj (found.symm.trans same)
        rw [unresolved] at has
        cases has
    · rfl
  · intro positive
    change ∃ other ∈ intentsOf (store.journal ++ [_]),
      (consumedBudget (store.journal ++ [_]) : Int) ≤ _
    have spent : consumedBudget (store.journal ++ [.intent intent]) =
        consumedBudget store.journal + if intent.spends then 1 else 0 := by
      rw [consumedBudget, filterMap_append, countP_append]
      exact congrArg (consumedBudget store.journal + ·) countP_singleton
    rw [intentsOf_append, spent]
    cases spends : intent.spends with
    | true =>
      refine ⟨intent, mem_append_right _ (mem_singleton_self _), ?_⟩
      obtain ⟨generation, rfl, -⟩ := prepares
      rw [if_pos rfl, Nat.cast_add, Nat.cast_one]
      exact (spends_newIntent spends).2
    | false =>
      change 0 < consumedBudget (store.journal ++ [_]) at positive
      rw [spent, spends] at positive
      obtain ⟨other, member, bound⟩ := tracked.budget positive
      exact ⟨other, mem_append_left _ member, by simpa using bound⟩
  · intro other member spends
    rw [intentsOf_append] at member
    rcases mem_append.mp member with before | now
    · exact tracked.proven other before spends
    · obtain rfl := mem_singleton.mp now
      obtain ⟨generation, rfl, -⟩ := prepares
      exact (spends_newIntent spends).1

theorem Tracked.of_record (record : Record) (clock : Moment) :
    Tracked { store with record, clock } where
  written := tracked.written
  named := tracked.named
  distinct := tracked.distinct
  numbered := tracked.numbered
  increasing := tracked.increasing
  finished := tracked.finished
  budget := tracked.budget
  proven := tracked.proven

/-- **A call that meets the condition keeps the invariant.** -/
theorem Tracked.step {call : RecoveryCall × Ticks} (apart : KeepsApart store call) :
    Tracked (recoveryStep store call) := by
  obtain ⟨call, ticks⟩ := call
  have appends := recoveryCall_appends store (ticks.readings store.clock) call
  have after : Tracked (recoveryCall store (ticks.readings store.clock) call) := by
    revert appends
    generalize recoveryCall store (ticks.readings store.clock) call = next
    intro appends
    cases appends with
    | nothing record => exact tracked.of_record record store.clock
    | intent intent writes => exact tracked.write writes (apart writes.checked writes.fresh)
    | renewal | result => exact tracked.append rfl
  exact after.of_record _ _

/-! ## Superseded attempts -/

theorem Tracked.clip_of_named {claim : String × RecoveryIntent} (member : claim ∈ store.written)
    (named : claim.2.actionAttemptId = attempt) :
    clip 128 attempt = attempt := by
  have short : attempt.toList.length ≤ 128 := by
    rw [← named, tracked.named claim member, clip, String.toList_ofList]
    exact length_take_le _ _
  rw [clip, take_of_length_le short, String.ofList_toList]

/-- **A superseded attempt does not hold the claim.** -/
theorem Superseded.not_holds (superseded : Superseded store attempt) (now : Moment)
    (generation : Option Int) :
    holdsClaim store.journal now attempt generation = false := by
  rw [← Bool.not_eq_true]
  intro holds
  obtain ⟨last, ends, named⟩ := attempt_of_holdsClaim holds
  obtain ⟨before, claim, middle, other, after, split, rfl, claims, otherClaims, -⟩ := superseded
  have own : claim.2.actionAttemptId = clip 128 claim.1 :=
    tracked.named claim (split ▸ mem_append_left _ (mem_append_right _ mem_cons_self))
  have lastOf : claimsOf store.journal =
      ((before ++ claim :: middle).map Prod.snd).filter RecoveryIntent.claims ++
        ((other :: after).map Prod.snd).filter RecoveryIntent.claims := by
    rw [claimsOf, ← tracked.written, split, map_append, filter_append]
  have late : last ∈ ((other :: after).map Prod.snd).filter RecoveryIntent.claims := by
    have nonempty : ((other :: after).map Prod.snd).filter RecoveryIntent.claims ≠ [] :=
      ne_nil_of_mem (mem_filter.mpr ⟨mem_cons_self, otherClaims⟩)
    rw [lastOf, getLast?_append_of_ne_nil _ nonempty] at ends
    exact mem_of_getLast? ends
  obtain ⟨written, member, rfl⟩ := List.mem_map.mp (mem_of_mem_filter late)
  have distinct := tracked.distinct
  rw [split, map_append, nodup_append] at distinct
  refine distinct.2.2 claim.2.actionAttemptId ?_ written.2.actionAttemptId ?_ ?_
  · exact List.mem_map.mpr ⟨claim, mem_append_right _ mem_cons_self, rfl⟩
  · exact List.mem_map.mpr ⟨written, member, rfl⟩
  · have there : written ∈ store.written := split ▸ mem_append_right _ member
    rw [own, named, tracked.clip_of_named there named]

/-- **A superseded attempt is locked out.** -/
theorem Superseded.locksOut (superseded : Superseded store attempt) :
    LocksOut store attempt where
  owner now generation := by
    have lost := superseded.not_holds tracked now (some generation)
    unfold holdsClaim at lost
    unfold assertRecoveryClaimOwner
    cases found : recoveryClaimState store.journal with
    | none => rfl
    | some claim =>
      rw [found] at lost
      change claim.ownedBy now attempt (some generation) = false at lost
      simp only [lost, Bool.false_eq_true, if_false]
      rfl
  renews readings generation := by
    rw [renewRecoveryClaim, superseded.not_holds tracked]
    rfl
  records readings outcome terminal generation causalInputIds answer journal recorded := by
    rcases recordRecoveryResult_cases recorded with same | ⟨intent, _, found, holds, -⟩
    · exact same
    have named : intent.actionAttemptId = attempt := by simpa using find?_some found
    have member : intent ∈ store.written.map Prod.snd :=
      tracked.written ▸ mem_of_find?_eq_some found
    obtain ⟨written, there, rfl⟩ := List.mem_map.mp member
    have whole := tracked.clip_of_named there named
    have lost := superseded.not_holds tracked
    obtain ⟨before, claim, middle, other, after, split, rfl, claims, -, -⟩ := superseded
    have own : claim ∈ store.written :=
      split ▸ mem_append_left _ (mem_append_right _ mem_cons_self)
    have same : written = claim := inj_on_of_nodup_map tracked.distinct there own
      (by rw [named, tracked.named claim own, whole])
    subst same
    rw [RecoveryIntent.claims, Bool.and_eq_true] at claims
    obtain ⟨number, held⟩ := holds (of_decide_eq_true claims.1)
    rw [lost] at held
    cases held
  commits readings generation capture now := by
    have refused : (transitionOperatorTerminal (captureWithClaim store.journal readings attempt
        generation capture) now).preflight = .error recoveryClaimLost := by
      simp only [transitionOperatorTerminal, captureWithClaim, superseded.not_holds tracked]
      rfl
    unfold Operation.run
    rw [refused]

theorem RecoveryLaws.of_tracked : RecoveryLaws store where
  written := tracked.written
  increasing := tracked.increasing
  oneOwner now attempt generation now' attempt' generation' holds holds' := by
    obtain ⟨last, ends, named⟩ := attempt_of_holdsClaim holds
    obtain ⟨last', ends', named'⟩ := attempt_of_holdsClaim holds'
    obtain rfl := Option.some.inj (ends.symm.trans ends')
    exact named.symm.trans named'
  superseded _ superseded := superseded.locksOut tracked
  finished := tracked.finished
  once := by
    have distinct := tracked.distinct
    have same : (store.written.map fun claim => claim.2.actionAttemptId) =
        (store.written.map Prod.fst).map (clip 128) := by
      rw [List.map_map]
      exact map_congr_left tracked.named
    rw [same] at distinct
    exact distinct.of_map
  budget := tracked.budget
  proven := tracked.proven

end

/-! ## Runs -/

/-- **Recovery claims and budgets** keep the laws all along a run whose calls meet the condition. -/
theorem recovery_claims_keep_laws (record : Record) (clock : Moment)
    (calls : List (RecoveryCall × Ticks))
    (apart : Admissible recoveryStep KeepsApart (.fresh record clock) calls) :
    RecoveryLaws (exec recoveryStep (.fresh record clock) calls) := by
  have kept : ∀ store call, Tracked store → KeepsApart store call →
      Tracked (recoveryStep store call) := fun _ _ tracked apart => tracked.step apart
  exact .of_tracked (apart.invariant kept (tracked_fresh record clock))

section Sample

private def sampleAttempt (name : String) : RecoveryRequest where
  actionAttemptId := name
  action := "reconcile"
  attemptEpoch := 1
  retryBudget := 0
  submissionProven := none
  actionKind := .reconcile
  causalInputIds := []
  binding _ := none

private def sampleRecord : Record := buildRecord sampleAdmission "" [] none

private def atOnce : Ticks := ⟨0, 0, 0⟩

/-! A second attempt takes the claim over once its lease has run out. -/

private def takeover : List (RecoveryCall × Ticks) :=
  [(.prepare (sampleAttempt "recovery_1"), atOnce), (.assertOwner "recovery_1" 1, atOnce),
    (.prepare (sampleAttempt "recovery_2"), ⟨200000000, 0, 0⟩)]

private theorem takeover_keepsApart (record : Record) :
    Admissible recoveryStep KeepsApart (.fresh record 0) takeover := by
  refine ⟨fun _ _ => ⟨.inl (by decide), fun _ _ _ none => ?_, fun _ _ member => ?_⟩, trivial,
    fun _ _ => ⟨.inl (by decide), fun _ claim prior found has => ?_, fun _ _ member => ?_⟩, trivial⟩
  · cases none
  · cases member
  · cases found
    cases has
  · rcases mem_singleton.mp member with impossible
    cases impossible

theorem recovery_claims_keep_laws_takeover :
    RecoveryLaws (exec recoveryStep (.fresh sampleRecord 0) takeover) :=
  recovery_claims_keep_laws sampleRecord 0 takeover (takeover_keepsApart sampleRecord)

/-! The first attempt does not resolve the turn, and a second one is prepared a minute later. -/

private def startsOver : List (RecoveryCall × Ticks) :=
  [(.prepare (sampleAttempt "recovery_1"), atOnce),
    (.recordResult "recovery_1" "reconciliation-unresolved" false (some 1) [], atOnce),
    (.prepare (sampleAttempt "recovery_2"), ⟨60000000, 0, 0⟩)]

/-- **The generation starts over** after an unresolved result. -/
theorem claim_generation_starts_over :
    ¬ ∀ (record : Record) (clock : Moment) (calls : List (RecoveryCall × Ticks)),
      RecoveryLaws (exec recoveryStep (.fresh record clock) calls) := by
  intro claimed
  have increasing := (claimed sampleRecord 0 startsOver).increasing
  have generations : (claimsOf (exec recoveryStep (.fresh sampleRecord 0) startsOver).journal).map
      RecoveryIntent.claimGeneration = [some 1, some 1] := by
    decide +kernel
  rcases claims : claimsOf (exec recoveryStep (.fresh sampleRecord 0) startsOver).journal with
    _ | ⟨first, _ | ⟨second, rest⟩⟩
  · rw [claims] at generations
    cases generations
  · rw [claims] at generations
    exact absurd (List.cons.inj generations).2 (cons_ne_nil _ _).symm
  · rw [claims] at increasing generations
    obtain ⟨firstNumber, secondNumber⟩ := List.cons.inj generations
    obtain ⟨number, given, later, same, below⟩ :=
      rel_of_pairwise_cons increasing mem_cons_self
    rw [firstNumber] at given
    rw [(List.cons.inj secondNumber).1] at same
    obtain rfl := Option.some.inj given
    obtain rfl := Option.some.inj same
    exact lt_irrefl _ below

end Sample

end Audiagentic.Gateway
