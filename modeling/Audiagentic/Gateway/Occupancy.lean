import Audiagentic.Gateway.DispatchRuns

/-!
# Node occupancy

A node is occupied by the requests whose canonical record still holds it.
`recordHoldsNode` is recomputed from the request state, the authorization and the last
receipt; this module says for which reachable records its answer is the intended one.
-/

namespace Audiagentic.Gateway

open Foundations Option

variable {projections : Projections} {hashing : Hashing}

/-! ## The projection -/

def NodeDispatch.hasTerminalEvidence (dispatch : NodeDispatch) : Bool :=
  decide (dispatch.authorizationState = .terminal) &&
    decide (dispatch.receiptStage = some .terminal) && present dispatch.authorizationId &&
    decide (0 < dispatch.receiptSequence) && present dispatch.receiptSha256 &&
    present dispatch.outputSha256

variable (hashing) in
def recordHoldsNode (record : Record) : Bool :=
  match record.nodeDispatch with
  | none => false
  | some dispatch =>
    if dispatch.hasTerminalEvidence then
      decide (dispatch.receiptSha256 ≠ some (hashing.receipt (dispatch.lastReceipt .terminal)))
    else if record.state.isTerminal = true ∧ dispatch.authorizationState = .notAuthorized ∧
        dispatch.authorizationId = none ∧
        (dispatch.receiptStage = none ∨ dispatch.receiptStage = some .prepared) then false
    else true

/-! ## The occupancy of reachable records -/

def NodeDispatch.settled (hashing : Hashing) (dispatch : NodeDispatch) : Prop :=
  dispatch.receiptStage = some .terminal ∧
    dispatch.receiptSha256 = some (hashing.receipt (dispatch.lastReceipt .terminal))

section

variable {record : Record} {dispatch : NodeDispatch} (stored : record.nodeDispatch = some dispatch)
include stored

/-- **An unsettled effect holds its node**, whatever the request state. -/
theorem holds_of_authorized (authorized : dispatch.authorizationId ≠ none)
    (unsettled : ¬ dispatch.settled hashing) : recordHoldsNode hashing record = true := by
  simp only [recordHoldsNode, stored]
  split
  next evidence =>
    have staged : dispatch.receiptStage = some .terminal := by
      simp only [NodeDispatch.hasTerminalEvidence, Bool.and_eq_true, decide_eq_true_eq] at evidence
      exact evidence.1.1.1.1.2
    exact decide_eq_true fun digest => unsettled ⟨staged, digest⟩
  next =>
    rw [if_neg]
    exact fun released => authorized released.2.2.1

/-- **A terminal request that was never authorized releases its node.** -/
theorem released_of_never_authorized (bound : BoundDispatch hashing record dispatch)
    (terminal : record.state.isTerminal = true) (absent : dispatch.authorizationId = none)
    (unfenced : dispatch.authorizationState ≠ .noEffect) :
    recordHoldsNode hashing record = false := by
  have noEvidence : dispatch.hasTerminalEvidence = false := by
    simp [NodeDispatch.hasTerminalEvidence, absent, present]
  have unauthorized : dispatch.authorizationState = .notAuthorized := by
    have notGranted : dispatch.authorizationState.granted ≠ true :=
      fun granted => bound.granted.mp granted absent
    cases state : dispatch.authorizationState with
    | notAuthorized => rfl
    | noEffect => exact absurd state unfenced
    | authorized | effectObserved | uncertain | terminal =>
      exact absurd (by rw [state]; rfl) notGranted
  simp only [recordHoldsNode, stored, noEvidence, Bool.false_eq_true, if_false]
  rw [if_pos ⟨terminal, unauthorized, absent, bound.stage_of_unauthorized absent⟩]

/-- **A fenced dispatch holds its node**, also when its request is terminal. -/
theorem holds_of_noEffect (fenced : dispatch.authorizationState = .noEffect) :
    recordHoldsNode hashing record = true := by
  have noEvidence : dispatch.hasTerminalEvidence = false := by
    simp [NodeDispatch.hasTerminalEvidence, fenced]
  simp [recordHoldsNode, stored, noEvidence, fenced]

end

/-! ## The law over runs -/

section Runs

variable (projections hashing)

/-- At some moment of the run the dispatch had an authorization id. -/
def EverAuthorized (start : Record) (ops : List StoreOp) : Prop :=
  ∃ first second, ops = first ++ second ∧
    ∃ dispatch ∈ (exec (storeStep projections hashing) start first).nodeDispatch,
      dispatch.authorizationId ≠ none

/-- At some moment of the run a valid terminal receipt was recorded. -/
def EverSettled (start : Record) (ops : List StoreOp) : Prop :=
  ∃ first second, ops = first ++ second ∧
    ∃ dispatch ∈ (exec (storeStep projections hashing) start first).nodeDispatch,
      dispatch.settled hashing

/-- **The occupancy law**, for the record that a run ends in: an authorized dispatch holds its
node until a valid terminal receipt is applied, and a terminal request whose binding was never
authorized does not hold it. -/
structure OccupancyLaw (start : Record) (ops : List StoreOp) : Prop where
  held : EverAuthorized projections hashing start ops →
    ¬ EverSettled projections hashing start ops →
    recordHoldsNode hashing (exec (storeStep projections hashing) start ops) = true
  released : (exec (storeStep projections hashing) start ops).state.isTerminal = true →
    (exec (storeStep projections hashing) start ops).nodeDispatch ≠ none →
    ¬ EverAuthorized projections hashing start ops →
    recordHoldsNode hashing (exec (storeStep projections hashing) start ops) = false

variable {projections hashing}

theorem EverAuthorized.final {start : Record} {ops : List StoreOp}
    (ever : EverAuthorized projections hashing start ops)
    (invariant : DispatchInvariant hashing start) :
    ∃ dispatch ∈ (exec (storeStep projections hashing) start ops).nodeDispatch,
      dispatch.authorizationId ≠ none := by
  obtain ⟨first, second, rfl, dispatch, member, authorized⟩ := ever
  have reached : DispatchInvariant hashing (exec (storeStep projections hashing) start first) :=
    exec_dispatchInvariant invariant first
  obtain ⟨last, lastMember, progress⟩ := exec_dispatchProgress reached second dispatch member
  rw [exec_append]
  obtain ⟨id, present⟩ := ne_none_iff_exists'.mp authorized
  refine ⟨last, lastMember, ?_⟩
  rw [progress.authorization id present]
  exact some_ne_none id

theorem everAuthorized_of_final {start : Record} {ops : List StoreOp} {dispatch : NodeDispatch}
    (member : (exec (storeStep projections hashing) start ops).nodeDispatch = some dispatch)
    (authorized : dispatch.authorizationId ≠ none) :
    EverAuthorized projections hashing start ops :=
  ⟨ops, [], (List.append_nil ops).symm, dispatch, member, authorized⟩

theorem not_everAuthorized {start : Record} {ops : List StoreOp} {dispatch : NodeDispatch}
    (invariant : DispatchInvariant hashing start)
    (member : (exec (storeStep projections hashing) start ops).nodeDispatch = some dispatch)
    (absent : dispatch.authorizationId = none) :
    ¬ EverAuthorized projections hashing start ops := by
  intro ever
  obtain ⟨last, lastMember, authorized⟩ := ever.final invariant
  rw [member] at lastMember
  cases lastMember
  exact authorized absent

/-- **When the occupancy law holds.**  For every run from a freshly built record: exactly when
the record it ends in is not a terminal request whose binding was fenced `no-effect`. -/
theorem occupancy_law_iff (projections : Projections) (hashing : Hashing) (admission : Admission)
    (metadata : Doc) (warnings : List Doc) (sessionId : Option String) (ops : List StoreOp) :
    let start := buildRecord admission metadata warnings sessionId
    let record := exec (storeStep projections hashing) start ops
    OccupancyLaw projections hashing start ops ↔
      ¬ (record.state.isTerminal = true ∧
        ∃ dispatch ∈ record.nodeDispatch, dispatch.authorizationState = .noEffect) := by
  intro start record
  have initially : DispatchInvariant hashing start := buildRecord_dispatchInvariant _ _ _ _
  have invariant : DispatchInvariant hashing record := exec_dispatchInvariant initially ops
  constructor
  · rintro law ⟨terminal, dispatch, member, fenced⟩
    have absent : dispatch.authorizationId = none := by
      by_contra authorized
      have granted := (invariant dispatch member).granted.mpr authorized
      rw [fenced] at granted
      cases granted
    have bound : record.nodeDispatch ≠ none := by
      intro unbound
      rw [unbound] at member
      cases member
    have released := law.released terminal bound (not_everAuthorized initially member absent)
    rw [holds_of_noEffect member fenced] at released
    cases released
  · intro unfenced
    constructor
    · intro ever unsettled
      obtain ⟨dispatch, member, authorized⟩ := ever.final initially
      refine holds_of_authorized member authorized fun settled => unsettled ?_
      exact ⟨ops, [], (List.append_nil ops).symm, dispatch, member, settled⟩
    · intro terminal bound never
      obtain ⟨dispatch, member⟩ := ne_none_iff_exists'.mp bound
      have absent : dispatch.authorizationId = none := by
        by_contra authorized
        exact never (everAuthorized_of_final member authorized)
      exact released_of_never_authorized member (invariant dispatch member) terminal absent
        fun fenced => unfenced ⟨terminal, dispatch, member, fenced⟩

end Runs

/-- The request is claimed, started and bound, its binding is fenced after a reconnect, and the
worker reports the cancellation. -/
def fencedRun : List StoreOp :=
  [.claimDispatch "g1" 0 (some "/service") 1,
    .startOwnedAttempt (some "g1") (some "w1") 1 2,
    .bindOwnedNodeDispatch sampleIdentity samplePayload sampleAttestation (sampleFence 2) false 3,
    .fenceNodeDispatchNoEffect sampleIdentity (sampleFence 3) 2 4,
    .transitionOwnedTerminal "req_node_1" .cancelled
      { ownerEpoch := some "g1", workerId := some "w1", attemptEpoch := 1 } [] none 5]

/-- **A fenced, cancelled request keeps its node.** -/
theorem fenced_request_holds_node :
    ¬ OccupancyLaw .plain .sample (buildRecord sampleNodeAdmission "" [] none) fencedRun := by
  intro law
  have bound : (exec (storeStep .plain .sample) (buildRecord sampleNodeAdmission "" [] none)
      fencedRun).nodeDispatch = some { NodeDispatch.bound sampleIdentity
        "a0b86515ca32a36c16ef5a63ed942962422b6c8227c211013467a4680b29b016" with
        authorizationState := .noEffect } := by decide +kernel
  have released := law.released (by decide +kernel) (by rw [bound]; exact some_ne_none _)
    (not_everAuthorized (buildRecord_dispatchInvariant _ _ _ _) bound rfl)
  rw [holds_of_noEffect bound rfl] at released
  cases released

end Audiagentic.Gateway
