import Audiagentic.Gateway.NodeProtocol

/-!
# Node dispatch over whole runs

`BoundDispatch` is the invariant of a bound dispatch and `Progress` the order in which
it moves: identity and attestation are fixed, an authorization is final, a no-effect
fence is absorbing, receipts only advance.  Both are facts about `DispatchStep`; the
store inherits them for every list of operations because each call is a protocol step.
-/

namespace Audiagentic.Gateway

open Foundations

variable {projections : Projections} {hashing : Hashing}

/-! ## The invariant of a bound dispatch -/

def NodeDispatch.lastReceipt (dispatch : NodeDispatch) (stage : ReceiptStage) : PublicReceipt where
  identity := dispatch.identity
  state := stage
  receiptSequence := dispatch.receiptSequence
  outputSha256 := dispatch.outputSha256

def AuthorizationState.granted : AuthorizationState → Bool
  | .authorized | .uncertain | .effectObserved | .terminal => true
  | .notAuthorized | .noEffect => false

def AuthorizationState.agreesWith (state : AuthorizationState) : Option ReceiptStage → Prop
  | none | some .prepared => state = .notAuthorized ∨ state = .authorized ∨ state = .noEffect
  | some .effectIntent => state = .uncertain
  | some .nativeAccepted => state = .effectObserved
  | some .terminal => state = .terminal

variable (hashing) in
/-- **The invariant of a bound dispatch.** -/
structure BoundDispatch (record : Record) (dispatch : NodeDispatch) : Prop where
  isMatch : IdentityMatches record.admission dispatch.identity
  attempted : 1 ≤ record.attemptEpoch
  granted : dispatch.authorizationState.granted = true ↔ dispatch.authorizationId ≠ none
  staged : dispatch.authorizationState.agreesWith dispatch.receiptStage
  recorded : ∀ stage ∈ dispatch.receiptStage, (dispatch.lastReceipt stage).wellFormed = true ∧
    dispatch.receiptSha256 = some (hashing.receipt (dispatch.lastReceipt stage))

variable (hashing) in
def DispatchInvariant (record : Record) : Prop :=
  ∀ dispatch ∈ record.nodeDispatch, BoundDispatch hashing record dispatch

variable {record : Record} {dispatch : NodeDispatch}

/-- The invariant reads the admission and a lower bound of the attempt epoch. -/
theorem BoundDispatch.transport {updated : Record} (bound : BoundDispatch hashing record dispatch)
    (admission : updated.admission = record.admission)
    (attempt : record.attemptEpoch ≤ updated.attemptEpoch) :
    BoundDispatch hashing updated dispatch where
  isMatch := by rw [admission]; exact bound.isMatch
  attempted := Nat.le_trans bound.attempted attempt
  granted := bound.granted
  staged := bound.staged
  recorded := bound.recorded

theorem BoundDispatch.stage_of_unauthorized (bound : BoundDispatch hashing record dispatch)
    (absent : dispatch.authorizationId = none) :
    dispatch.receiptStage = none ∨ dispatch.receiptStage = some .prepared := by
  have notGranted : dispatch.authorizationState.granted ≠ true :=
    fun granted => bound.granted.mp granted absent
  have staged := bound.staged
  cases stage : dispatch.receiptStage with
  | none => exact .inl rfl
  | some stage' =>
    rw [stage] at staged
    cases stage' with
    | prepared => exact .inr rfl
    | effectIntent | nativeAccepted | terminal => exact absurd (by rw [staged]; rfl) notGranted

theorem bound_boundDispatch {identity : CommandIdentity} {attestation : String}
    (isMatch : IdentityMatches record.admission identity) (attempted : 1 ≤ record.attemptEpoch) :
    BoundDispatch hashing record (.bound identity attestation) where
  isMatch := isMatch
  attempted := attempted
  granted := by simp [NodeDispatch.bound, AuthorizationState.granted]
  staged := .inl rfl
  recorded := by
    intro stage member
    cases member

theorem received_boundDispatch {prior : NodeDispatch} {receipt : PublicReceipt}
    (bound : BoundDispatch hashing record prior) (wellFormed : receipt.wellFormed = true)
    (sameIdentity : prior.identity = receipt.identity)
    (follows : ∀ previous ∈ prior.receiptStage, previous.blocks receipt.state = false)
    (backed : receipt.state ≠ .prepared → prior.authorizationId ≠ none) :
    BoundDispatch hashing record (prior.received hashing receipt) where
  isMatch := bound.isMatch
  attempted := bound.attempted
  granted := by
    cases stage : receipt.state with
    | prepared => simpa [NodeDispatch.received, ReceiptStage.authorizationState, stage] using
        bound.granted
    | effectIntent => simpa [NodeDispatch.received, ReceiptStage.authorizationState, stage,
        AuthorizationState.granted] using backed (by rw [stage]; decide)
    | nativeAccepted => simpa [NodeDispatch.received, ReceiptStage.authorizationState, stage,
        AuthorizationState.granted] using backed (by rw [stage]; decide)
    | terminal => simpa [NodeDispatch.received, ReceiptStage.authorizationState, stage,
        AuthorizationState.granted] using backed (by rw [stage]; decide)
  staged := by
    cases stage : receipt.state with
    | prepared =>
      -- A prepared receipt may only follow none or another prepared one.
      have staged := bound.staged
      simp only [NodeDispatch.received, ReceiptStage.authorizationState, stage]
      cases previous : prior.receiptStage with
      | none => rw [previous] at staged; exact staged
      | some previousStage =>
        have allowed := follows previousStage previous
        rw [previous] at staged
        rw [stage] at allowed
        cases previousStage with
        | prepared => exact staged
        | effectIntent | nativeAccepted | terminal => cases allowed
    | effectIntent => simp [NodeDispatch.received, ReceiptStage.authorizationState, stage,
        AuthorizationState.agreesWith]
    | nativeAccepted => simp [NodeDispatch.received, ReceiptStage.authorizationState, stage,
        AuthorizationState.agreesWith]
    | terminal => simp [NodeDispatch.received, ReceiptStage.authorizationState, stage,
        AuthorizationState.agreesWith]
  recorded := by
    intro stage member
    have sameStage : receipt.state = stage := Option.some.inj member
    have sameReceipt : (prior.received hashing receipt).lastReceipt stage = receipt := by
      rw [← sameStage]
      simp only [NodeDispatch.lastReceipt, NodeDispatch.received, sameIdentity]
    rw [sameReceipt]
    exact ⟨wellFormed, rfl⟩

variable {carried : Option PublicReceipt} {before : Option NodeDispatch}

/-- **A protocol step keeps the invariant.** -/
theorem DispatchStep.boundDispatch {after : Option NodeDispatch}
    (step : DispatchStep hashing record carried before after)
    (invariant : ∀ dispatch ∈ before, BoundDispatch hashing record dispatch) :
    ∀ dispatch ∈ after, BoundDispatch hashing record dispatch := by
  cases step with
  | keep => exact invariant
  | bind identity attestation isMatch owned attempted =>
    rintro dispatch ⟨⟩
    exact bound_boundDispatch isMatch attempted
  | authorize prior authorizationId owned running notCancelled notRecovering unauthorized absent =>
    rintro dispatch ⟨⟩
    have bound := invariant prior rfl
    refine ⟨bound.isMatch, bound.attempted, by simp [AuthorizationState.granted], ?_,
      bound.recorded⟩
    rcases bound.stage_of_unauthorized absent with stage | stage <;>
      simp [AuthorizationState.agreesWith, stage]
  | fence prior owned unauthorized absent =>
    rintro dispatch ⟨⟩
    have bound := invariant prior rfl
    refine ⟨bound.isMatch, bound.attempted, by simp [AuthorizationState.granted, absent], ?_,
      bound.recorded⟩
    rcases bound.stage_of_unauthorized absent with stage | stage <;>
      simp [AuthorizationState.agreesWith, stage]
  | receive prior receipt _ wellFormed sameIdentity newer follows backed =>
    rintro dispatch ⟨⟩
    exact received_boundDispatch (invariant prior rfl) wellFormed sameIdentity follows backed

theorem storeStep_dispatchInvariant (stored : Record) (op : StoreOp)
    (invariant : DispatchInvariant hashing stored) :
    DispatchInvariant hashing (storeStep projections hashing stored op) := by
  rcases storeStep_cases stored op with kept | normalised | succeeds
  · rw [kept]
    exact invariant
  · rw [normalised]
    exact fun dispatch member => (invariant dispatch member).transport rfl (Nat.le_refl _)
  · have stepped := succeeds.dispatchStep.boundDispatch
      (fun dispatch member => (invariant dispatch member).transport rfl (Nat.le_refl _))
    intro dispatch member
    have bound := stepped dispatch member
    rcases succeeds.change with same | change
    · rw [same]
      exact bound
    · exact bound.transport change.admission change.attempt

theorem exec_dispatchInvariant {start : Record} (invariant : DispatchInvariant hashing start)
    (ops : List StoreOp) :
    DispatchInvariant hashing (exec (storeStep projections hashing) start ops) :=
  exec_invariant storeStep_dispatchInvariant invariant ops

theorem buildRecord_dispatchInvariant (admission : Admission) (metadata : Doc)
    (warnings : List Doc) (sessionId : Option String) :
    DispatchInvariant hashing (buildRecord admission metadata warnings sessionId) := by
  intro dispatch member
  cases member

/-! ## Progress -/

/-- **How a bound dispatch may move.** -/
structure Progress (earlier later : NodeDispatch) : Prop where
  identity : later.identity = earlier.identity
  attestation : later.attestationSha256 = earlier.attestationSha256
  authorization : ∀ id ∈ earlier.authorizationId, later.authorizationId = some id
  noEffect : earlier.authorizationState = .noEffect → later.authorizationState = .noEffect
  sequence : earlier.receiptSequence ≤ later.receiptSequence
  stage : ∀ before ∈ earlier.receiptStage, ∃ after ∈ later.receiptStage, before.rank ≤ after.rank
  terminal : earlier.receiptStage = some .terminal → later.receiptStage = some .terminal ∧
    later.receiptSha256 = earlier.receiptSha256 ∧ later.outputSha256 = earlier.outputSha256

theorem Progress.refl (dispatch : NodeDispatch) : Progress dispatch dispatch where
  identity := rfl
  attestation := rfl
  authorization _ member := member
  noEffect := id
  sequence := Nat.le_refl _
  stage stage member := ⟨stage, member, Nat.le_refl _⟩
  terminal final := ⟨final, rfl, rfl⟩

theorem Progress.trans {first second third : NodeDispatch} (left : Progress first second)
    (right : Progress second third) : Progress first third where
  identity := right.identity.trans left.identity
  attestation := right.attestation.trans left.attestation
  authorization id member := right.authorization id (left.authorization id member)
  noEffect fenced := right.noEffect (left.noEffect fenced)
  sequence := Nat.le_trans left.sequence right.sequence
  stage before member := by
    obtain ⟨middle, middleMember, upToMiddle⟩ := left.stage before member
    obtain ⟨after, afterMember, fromMiddle⟩ := right.stage middle middleMember
    exact ⟨after, afterMember, Nat.le_trans upToMiddle fromMiddle⟩
  terminal final := by
    obtain ⟨stage, digest, output⟩ := left.terminal final
    obtain ⟨stage', digest', output'⟩ := right.terminal stage
    exact ⟨stage', digest'.trans digest, output'.trans output⟩

def DispatchProgress (earlier later : Option NodeDispatch) : Prop :=
  ∀ dispatch ∈ earlier, ∃ next ∈ later, Progress dispatch next

theorem received_progress {prior : NodeDispatch} {receipt : PublicReceipt}
    (bound : BoundDispatch hashing record prior)
    (newer : prior.receiptSequence < receipt.receiptSequence)
    (follows : ∀ previous ∈ prior.receiptStage, previous.blocks receipt.state = false)
    (backed : receipt.state ≠ .prepared → prior.authorizationId ≠ none) :
    Progress prior (prior.received hashing receipt) where
  identity := rfl
  attestation := rfl
  authorization _ member := member
  noEffect fenced := by
    -- A fenced dispatch has no authorization, so only a prepared receipt gets through.
    have absent : ¬ prior.authorizationId ≠ none := by
      rw [← bound.granted, fenced]
      simp [AuthorizationState.granted]
    have prepared : receipt.state = .prepared := by
      by_contra effect
      exact absent (backed effect)
    simp only [NodeDispatch.received, prepared, ReceiptStage.authorizationState, fenced]
  sequence := Nat.le_of_lt newer
  stage before member := by
    have allowed := follows before member
    simp only [ReceiptStage.blocks, Bool.or_eq_false_iff, decide_eq_false_iff_not,
      Nat.not_lt] at allowed
    exact ⟨receipt.state, rfl, allowed.1⟩
  terminal final := by
    have allowed := follows .terminal final
    simp [ReceiptStage.blocks] at allowed

/-- **A protocol step is progress.** -/
theorem DispatchStep.progress {after : Option NodeDispatch}
    (step : DispatchStep hashing record carried before after)
    (invariant : ∀ dispatch ∈ before, BoundDispatch hashing record dispatch) :
    DispatchProgress before after := by
  cases step with
  | keep => exact fun dispatch member => ⟨dispatch, member, .refl dispatch⟩
  | bind => rintro dispatch ⟨⟩
  | authorize prior authorizationId owned running notCancelled notRecovering unauthorized absent =>
    rintro dispatch ⟨⟩
    refine ⟨_, rfl, rfl, rfl, ?_, ?_, Nat.le_refl _, fun stage member => ⟨stage, member,
      Nat.le_refl _⟩, fun final => ⟨final, rfl, rfl⟩⟩
    · intro id member
      rw [absent] at member
      cases member
    · intro fenced
      rw [unauthorized] at fenced
      cases fenced
  | fence prior owned unauthorized absent =>
    rintro dispatch ⟨⟩
    exact ⟨_, rfl, rfl, rfl, fun _ member => member, fun _ => rfl, Nat.le_refl _,
      fun stage member => ⟨stage, member, Nat.le_refl _⟩, fun final => ⟨final, rfl, rfl⟩⟩
  | receive prior receipt _ wellFormed sameIdentity newer follows backed =>
    rintro dispatch ⟨⟩
    exact ⟨_, rfl, received_progress (invariant prior rfl) newer follows backed⟩

theorem storeStep_dispatchProgress (stored : Record) (op : StoreOp)
    (invariant : DispatchInvariant hashing stored) :
    DispatchProgress stored.nodeDispatch
      (storeStep projections hashing stored op).nodeDispatch := by
  rcases storeStep_cases stored op with kept | normalised | succeeds
  · rw [kept]
    exact fun dispatch member => ⟨dispatch, member, .refl dispatch⟩
  · rw [normalised]
    exact fun dispatch member => ⟨dispatch, member, .refl dispatch⟩
  · exact succeeds.dispatchStep.progress
      (fun dispatch member => (invariant dispatch member).transport rfl (Nat.le_refl _))

/-- **A whole run is progress.** -/
theorem exec_dispatchProgress {start : Record} (invariant : DispatchInvariant hashing start)
    (ops : List StoreOp) :
    DispatchProgress start.nodeDispatch
      (exec (storeStep projections hashing) start ops).nodeDispatch := by
  refine exec_relates (R := fun first second : Record =>
    DispatchProgress first.nodeDispatch second.nodeDispatch) ?_ ?_
    storeStep_dispatchInvariant storeStep_dispatchProgress invariant ops
  · exact fun _ dispatch member => ⟨dispatch, member, .refl dispatch⟩
  · intro first second third left right dispatch member
    obtain ⟨middle, middleMember, toMiddle⟩ := left dispatch member
    obtain ⟨last, lastMember, fromMiddle⟩ := right middle middleMember
    exact ⟨last, lastMember, toMiddle.trans fromMiddle⟩

/-! ## Authorizations -/

/-- The call wrote an authorization id that the record did not have. -/
def AuthorizationWritten (before after : Record) (dispatch : NodeDispatch) : Prop :=
  after.nodeDispatch = some dispatch ∧ dispatch.authorizationId ≠ none ∧
    ∀ prior ∈ before.nodeDispatch, prior.authorizationId ≠ dispatch.authorizationId

theorem DispatchStep.of_authorizationWritten
    (step : DispatchStep hashing record carried before (some dispatch))
    (present : dispatch.authorizationId ≠ none)
    (fresh : ∀ prior ∈ before, prior.authorizationId ≠ dispatch.authorizationId) :
    record.dispatchOwnerEpoch = some dispatch.identity.gatewayOwnerEpoch ∧
      record.state = .running ∧ record.cancelRequested = false ∧
      record.recoveryRequired = false := by
  cases step with
  | keep => exact absurd rfl (fresh dispatch rfl)
  | bind => exact absurd rfl present
  | authorize prior authorizationId owned running notCancelled notRecovering =>
    exact ⟨owned, running, notCancelled, notRecovering⟩
  | fence prior | receive prior => exact absurd rfl (fresh prior rfl)

theorem storeStep_authorizationWritten {stored : Record} {op : StoreOp}
    (written : AuthorizationWritten stored (storeStep projections hashing stored op) dispatch) :
    stored.dispatchOwnerEpoch = some dispatch.identity.gatewayOwnerEpoch ∧
      stored.state = .running ∧ stored.cancelRequested = false ∧
      stored.recoveryRequired = false := by
  obtain ⟨stored', present, fresh⟩ := written
  rcases storeStep_cases stored op with kept | normalised | succeeds
  · rw [kept] at stored'
    exact absurd rfl (fresh dispatch stored')
  · rw [normalised] at stored'
    exact absurd rfl (fresh dispatch stored')
  · have step := succeeds.dispatchStep
    rw [stored'] at step
    exact step.of_authorizationWritten present fresh

/-! ## The protocol's guarantees -/

/-- **The node dispatch protocol.**  Take any list of store operations from a freshly built
record, with any arguments and in any order, refused calls included, and any two moments
of it.  A bound identity and its attestation never change, an authorization id never
changes, a no-effect fence is absorbing, sequence and stage of the receipts never decrease
and terminal evidence is final; an authorization id is there exactly in the states that
follow an authorization; and any next call that writes one finds the record running,
neither cancelled nor under recovery, and owned by the epoch of the bound identity. -/
theorem node_dispatch_protocol (projections : Projections) (hashing : Hashing)
    (admission : Admission) (metadata : Doc) (warnings : List Doc) (sessionId : Option String)
    (first second : List StoreOp) (next : StoreOp) :
    let start := buildRecord admission metadata warnings sessionId
    let earlier := exec (storeStep projections hashing) start first
    let later := exec (storeStep projections hashing) earlier second
    DispatchProgress earlier.nodeDispatch later.nodeDispatch ∧
      (∀ dispatch ∈ later.nodeDispatch,
        (dispatch.authorizationState.granted = true ↔ dispatch.authorizationId ≠ none) ∧
          (dispatch.authorizationState = .noEffect → dispatch.authorizationId = none)) ∧
      ∀ dispatch,
        AuthorizationWritten later (storeStep projections hashing later next) dispatch →
          later.dispatchOwnerEpoch = some dispatch.identity.gatewayOwnerEpoch ∧
            later.state = .running ∧ later.cancelRequested = false ∧
            later.recoveryRequired = false := by
  intro start earlier later
  have reached : DispatchInvariant hashing earlier :=
    exec_dispatchInvariant (buildRecord_dispatchInvariant _ _ _ _) first
  have invariant : DispatchInvariant hashing later := exec_dispatchInvariant reached second
  refine ⟨exec_dispatchProgress reached second, ?_, fun _ => storeStep_authorizationWritten⟩
  intro dispatch member
  have granted := (invariant dispatch member).granted
  refine ⟨granted, ?_⟩
  intro fenced
  by_contra present
  have contradiction := granted.mpr present
  rw [fenced] at contradiction
  cases contradiction

end Audiagentic.Gateway
