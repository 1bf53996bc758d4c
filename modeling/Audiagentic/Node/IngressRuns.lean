import Audiagentic.Node.ReceiptRuntime

/-!
# Receipt ingress over whole runs

Requests are admitted, their records move through any operation of the store, receipts
come in, and the gateway restarts under new owner epochs, each time taking over some of
the records it finds.  A receipt that its record may take is refused only when the live
gateway does not hold the record.
-/

namespace Audiagentic.Node

open Foundations Gateway Option

/-! ## Steps -/

/-- The takeover of one request at a restart.  Recovery keeps the worker of a node request. -/
structure Handover where
  root : String
  requestId : String
  expectedOwnerEpoch : Option String
  handoffId : Option String
  now : Timestamp

inductive IngressAction where
  | admitRequest (root requestId : String) (admission : Admission) (metadata : Doc)
      (warnings : List Doc) (sessionId : Option String)
  | storeCall (root requestId : String) (op : StoreOp)
  /-- `_accept`. -/
  | receive (access : IngressAccess) (receipt : PublicReceipt) (logIncarnationId : String)
      (now : Timestamp)
  /-- A new gateway generation, with the requests it takes over. -/
  | restart (ownerEpoch : String) (handovers : List Handover)
  | damage (root requestId : String)

/-- A new service: no requests and no cursor. -/
def IngressState.initial (ownerEpoch : String) : IngressState where
  ownerEpoch
  files := fun _ _ => .absent
  cursor := none

section Step

variable (resolve : String → String) (config : IngressConfig) (projections : Projections)
  (hashing : Hashing) (owner : Checkpoints)

/-- The record as admission writes it, if admission accepts it: a node request goes into the
root of the project it names. -/
def admits (root : String) (record : Record) : Bool :=
  decide (record.admission.requestId ≠ "") && decide (record.admissionConsistent = true) &&
    decide (record.schemaIssues = []) &&
    whenPresent (fun placement =>
      decide (config.projects.lookup placement.serverProjectId = some root))
      record.admission.nodePlacement

def RecordFile.after (op : StoreOp) : RecordFile → RecordFile
  | .stored record => .stored (storeStep projections hashing record op)
  | file => file

def IngressState.afterCall (state : IngressState) (root requestId : String) (op : StoreOp) :
    IngressState :=
  state.put root requestId ((state.files root requestId).after projections hashing op)

def Handover.op (ownerEpoch : String) (handover : Handover) : StoreOp :=
  .takeoverNonterminalOwner handover.expectedOwnerEpoch ownerEpoch none handover.handoffId
    handover.now

/-- The takeovers of a restart, in order. -/
def IngressState.takeOver (state : IngressState) (handovers : List Handover) : IngressState :=
  handovers.foldl (fun state handover => state.afterCall projections hashing handover.root
    handover.requestId (handover.op state.ownerEpoch)) state

def ingressStep (state : IngressState) : IngressAction → IngressState
  | .admitRequest root requestId admission metadata warnings sessionId =>
    let record := buildRecord { admission with requestId } metadata warnings sessionId
    match state.files root requestId with
    | .absent =>
      if admits config root record then state.put root requestId (.stored record) else state
    | _ => state
  | .storeCall root requestId op => state.afterCall projections hashing root requestId op
  | .receive access receipt logIncarnationId now =>
    ((accept resolve config hashing owner access receipt logIncarnationId now).run state).2
  | .restart ownerEpoch handovers =>
    -- An owner epoch is an identifier: the transport server checks it.
    if isIdentifier ownerEpoch then
      IngressState.takeOver projections hashing { state with ownerEpoch } handovers
    else state
  | .damage root requestId =>
    match state.files root requestId with
    | .stored _ => state.put root requestId .damaged
    | _ => state

end Step

/-! ## What a step leaves in a file -/

variable {resolve : String → String} {config : IngressConfig} {projections : Projections}
  {hashing : Hashing} {owner : Checkpoints}

variable {root requestId : String}

theorem soundRecord_storeStep {stored : Record} (op : StoreOp)
    (sound : SoundRecord config hashing root requestId stored) :
    SoundRecord config hashing root requestId (storeStep projections hashing stored op) := by
  have dispatch := @storeStep_dispatchInvariant projections hashing stored op sound.dispatch
  rcases storeStep_cases stored op with kept | normalised | succeeds
  · rw [kept]
    exact sound
  · rw [normalised] at dispatch ⊢
    exact ⟨Record.valid_migrate_iff.mpr sound.valid, sound.named, sound.nonempty, dispatch,
      sound.started, sound.placed⟩
  · have started : (storeStep projections hashing stored op).nodeDispatch ≠ none →
        (storeStep projections hashing stored op).state ≠ .queued := by
      intro bound
      obtain ⟨after, found⟩ := ne_none_iff_exists'.mp bound
      refine succeeds.started ?_
      cases before : stored.migrate.nodeDispatch with
      | none =>
        rw [(succeeds.first_binding before found).2.1]
        decide
      | some prior =>
        refine sound.started ?_
        intro absent
        have same : stored.migrate.nodeDispatch = stored.nodeDispatch := rfl
        rw [same, absent] at before
        cases before
    rcases succeeds.change with same | change
    · refine ⟨?_, ?_, sound.nonempty, dispatch, started, ?_⟩
      · rw [same]
        exact Record.valid_migrate_iff.mpr sound.valid
      · rw [same]
        exact sound.named
      · rw [same]
        exact sound.placed
    · refine ⟨change.valid, ?_, sound.nonempty, dispatch, started, ?_⟩
      · rw [change.admission]
        exact sound.named
      · rw [change.admission]
        exact sound.placed

def SoundFile (config : IngressConfig) (hashing : Hashing) (root requestId : String)
    (file : RecordFile) : Prop :=
  ∀ record, file = .stored record → SoundRecord config hashing root requestId record

variable {file : RecordFile}

theorem soundFile_after (op : StoreOp) (sound : SoundFile config hashing root requestId file) :
    SoundFile config hashing root requestId (file.after projections hashing op) := by
  intro record stored
  cases file with
  | absent | damaged => cases stored
  | stored before =>
    cases stored
    exact soundRecord_storeStep op (sound before rfl)

variable {state : IngressState}

theorem ingressInvariant_put (invariant : IngressInvariant config hashing owner state)
    (sound : SoundFile config hashing root requestId file) :
    IngressInvariant config hashing owner (state.put root requestId file) where
  epoch := invariant.epoch
  records := by
    intro otherRoot otherId record stored
    by_cases here : otherRoot = root ∧ otherId = requestId
    · obtain ⟨rfl, rfl⟩ := here
      rw [IngressState.put_files_self] at stored
      exact sound record stored
    · rw [IngressState.put_files_of_ne here] at stored
      exact invariant.records otherRoot otherId record stored
  cursor := invariant.cursor

theorem ingressInvariant_afterCall {state : IngressState} (root requestId : String) (op : StoreOp)
    (invariant : IngressInvariant config hashing owner state) :
    IngressInvariant config hashing owner
      (state.afterCall projections hashing root requestId op) :=
  ingressInvariant_put invariant (soundFile_after op (invariant.records root requestId))

/-! ## What a receipt leaves -/

section Receive

variable {access : IngressAccess} {receipt : PublicReceipt} {logIncarnationId : String}
  {now : Timestamp}

theorem call_writes (state : IngressState) (root requestId : String) (op : StoreOp) :
    ((IngressState.call root requestId (op.operation projections hashing)).run state).2 =
      state.afterCall projections hashing root requestId op := by
  simp only [IngressState.call, Script.run_read_bind, IngressState.afterCall]
  cases file : state.files root requestId with
  | stored record => rfl
  | absent | damaged =>
    simp only [Script.run_check, RecordFile.after]
    rw [← file]
    exact (IngressState.put_files state root requestId).symm

/-- **What `_accept` writes.**  Nothing, the receipt's record, or the record and the cursor. -/
theorem accept_effect (state : IngressState) :
    ((accept resolve config hashing owner access receipt logIncarnationId now).run state).2 =
        state ∨
      ∃ root fence, ∃ written, written = state.afterCall projections hashing root
          receipt.identity.requestId (.applyOwnedNodeReceipt receipt fence now) ∧
        (((accept resolve config hashing owner access receipt logIncarnationId now).run state).2 =
            written ∨
          (owner.plan hashing access.custody access.poisoned state.cursor receipt
              logIncarnationId = .ok .applyNext ∧
            ((accept resolve config hashing owner access receipt logIncarnationId now).run
              state).2 = { written with cursor := some (owner.committed hashing receipt
                logIncarnationId state.ownerEpoch) })) := by
  simp only [accept]
  cases current : access.current with
  | error failure => exact .inl rfl
  | ok passed =>
    simp only [Script.run_check_ok_bind, Script.run_read_bind]
    cases planned : owner.plan hashing access.custody access.poisoned state.cursor receipt
        logIncarnationId with
    | error failure => exact .inl rfl
    | ok plan =>
      simp only [Script.run_check_ok_bind]
      cases plan with
      | repeatAck cursor => exact .inl rfl
      | applyNext =>
        simp only
        cases found : target resolve config state receipt.identity with
        | error failure => exact .inl rfl
        | ok original =>
          simp only [Script.run_check_ok_bind]
          refine .inr ⟨original.1, receiptFence state.ownerEpoch original.2, _, rfl, ?_⟩
          have writes := @call_writes projections hashing state original.1
            receipt.identity.requestId (.applyOwnedNodeReceipt receipt
              (receiptFence state.ownerEpoch original.2) now)
          rw [← writes]
          change _ ∨ _ ∧ _
          cases call : (IngressState.call original.1 receipt.identity.requestId
              (applyOwnedNodeReceipt hashing receipt
                (receiptFence state.ownerEpoch original.2) now)).run state with
          | mk result written =>
            simp only [StoreOp.operation, call]
            cases result with
            | error failure =>
              rw [Script.run_bind_of_error call]
              exact .inl rfl
            | ok updated =>
              rw [Script.run_bind_of_ok call]
              exact .inr ⟨trivial, rfl⟩

end Receive

/-! ## The invariant of the ingress -/

/-- The names that `NodeReceiptCheckpoints` was built with. -/
structure Checkpoints.Named (owner : Checkpoints) : Prop where
  server : isIdentifier owner.serverId = true
  node : isIdentifier owner.nodeId = true

variable {receipt : PublicReceipt}

theorem committed_reads {access : IngressAccess} {logIncarnationId : String} (named : owner.Named)
    (epoch : isIdentifier state.ownerEpoch = true)
    (planned : owner.plan hashing access.custody access.poisoned state.cursor receipt
      logIncarnationId = .ok .applyNext) :
    owner.readCursor (owner.committed hashing receipt logIncarnationId state.ownerEpoch) =
      .ok () := by
  simp only [Checkpoints.plan, bind_eq_ok] at planned
  obtain ⟨_, arguments, _⟩ := planned
  simp only [acceptArguments, bind_eq_ok, refuse_eq_ok, exists_const,
    Bool.not_eq_false] at arguments
  obtain ⟨log, integer, _⟩ := arguments
  simp only [Checkpoints.readCursor, refuse_bind_eq_ok, not_or, Bool.not_eq_false]
  refine ⟨⟨named.server, named.node, epoch⟩, log, integer, hashing.receipt_isSha256 receipt,
    refuse_of_not ?_⟩
  rintro (otherServer | otherNode)
  · exact otherServer rfl
  · exact otherNode rfl

theorem soundRecord_of_admits {admission : Admission} {metadata : Doc} {warnings : List Doc}
    {sessionId : Option String} (admitted : admits config root
      (buildRecord { admission with requestId } metadata warnings sessionId) = true) :
    SoundRecord config hashing root requestId
      (buildRecord { admission with requestId } metadata warnings sessionId) := by
  simp only [admits, Bool.and_eq_true, decide_eq_true_eq] at admitted
  obtain ⟨⟨⟨nonempty, consistent⟩, accepted⟩, placed⟩ := admitted
  refine ⟨⟨consistent, accepted⟩, rfl, nonempty, buildRecord_dispatchInvariant _ _ _ _,
    fun bound => absurd rfl bound, ?_⟩
  intro placement member
  rw [mem_def.mp member] at placed
  exact of_decide_eq_true placed

theorem ingressInvariant_takeOver (handovers : List Handover)
    (invariant : IngressInvariant config hashing owner state) :
    IngressInvariant config hashing owner (state.takeOver projections hashing handovers) := by
  induction handovers generalizing state with
  | nil => exact invariant
  | cons handover handovers ih =>
    exact ih (ingressInvariant_afterCall _ _ _ invariant)

theorem ingressInvariant_step (named : owner.Named) (state : IngressState)
    (action : IngressAction) (invariant : IngressInvariant config hashing owner state) :
    IngressInvariant config hashing owner
      (ingressStep resolve config projections hashing owner state action) := by
  cases action with
  | admitRequest root requestId admission metadata warnings sessionId =>
    simp only [ingressStep]
    split
    · split
      next admitted =>
        refine ingressInvariant_put invariant ?_
        rintro record ⟨⟩
        exact soundRecord_of_admits admitted
      next => exact invariant
    · exact invariant
  | storeCall root requestId op => exact ingressInvariant_afterCall root requestId op invariant
  | receive access receipt logIncarnationId now =>
    simp only [ingressStep]
    rcases @accept_effect resolve config projections hashing owner access receipt
        logIncarnationId now state with
      kept | ⟨root, fence, written, rfl, applied | ⟨planned, advanced⟩⟩
    · rw [kept]
      exact invariant
    · rw [applied]
      exact ingressInvariant_afterCall _ _ _ invariant
    · rw [advanced]
      have stored := @ingressInvariant_afterCall config projections hashing owner state root
        receipt.identity.requestId (.applyOwnedNodeReceipt receipt fence now) invariant
      refine ⟨stored.epoch, stored.records, ?_⟩
      rintro cursor ⟨⟩
      exact committed_reads named invariant.epoch planned
  | restart ownerEpoch handovers =>
    simp only [ingressStep]
    split
    next identifier =>
      exact ingressInvariant_takeOver handovers
        ⟨identifier, invariant.records, invariant.cursor⟩
    next => exact invariant
  | damage root requestId =>
    simp only [ingressStep]
    split
    · refine ingressInvariant_put invariant ?_
      rintro record ⟨⟩
    · exact invariant

variable {ownerEpoch : String}

theorem initial_ingressInvariant (identifier : isIdentifier ownerEpoch = true) :
    IngressInvariant config hashing owner (.initial ownerEpoch) where
  epoch := identifier
  records := by
    rintro root requestId record ⟨⟩
  cursor := by
    rintro cursor ⟨⟩

theorem exec_ingressInvariant (named : owner.Named) (identifier : isIdentifier ownerEpoch = true)
    (actions : List IngressAction) :
    IngressInvariant config hashing owner
      (exec (ingressStep resolve config projections hashing owner) (.initial ownerEpoch) actions) :=
  exec_invariant (ingressInvariant_step named) (initial_ingressInvariant identifier) actions

/-! ## Holding the open requests -/

/-- The node still owes a receipt of the dispatch, or the cursor does not stand on its last one
yet. -/
def IsOpen (state : IngressState) (dispatch : NodeDispatch) : Prop :=
  ¬ (dispatch.receiptStage = some .terminal ∧
    dispatch.receiptSequence ≤ cursorSequence state.cursor)

theorem isOpen_of_takes {dispatch : NodeDispatch} (takes : Takes hashing dispatch receipt)
    (next : receipt.receiptSequence = cursorSequence state.cursor + 1) : IsOpen state dispatch := by
  rintro ⟨terminal, recorded⟩
  rcases takes with ⟨same, _⟩ | ⟨_, follows, _⟩
  · omega
  · have blocked := follows .terminal terminal
    simp [ReceiptStage.blocks] at blocked

variable (resolve config) in
/-- **No open request is let go.**  Every request with an open dispatch is held by the live
owner, and no two configured projects have a request of one id. -/
structure HoldsOpen (state : IngressState) : Prop where
  unique : ∀ requestId, ∀ root ∈ config.roots, ∀ other ∈ config.roots, other ≠ root →
    state.files root requestId ≠ .absent → state.files other requestId = .absent
  held : ∀ root requestId record dispatch, state.files root requestId = .stored record →
    record.nodeDispatch = some dispatch → IsOpen state dispatch →
    HeldBy resolve config record state.ownerEpoch

variable (resolve config) in
/-- The call does not let go of an open request: a first binding is made by the live owner under
this service, and a request with an open dispatch changes hands only to the live owner. -/
def OrderlyCall (state : IngressState) (record : Record) (op : StoreOp) : Prop :=
  match record.nodeDispatch, op with
  | none, .bindOwnedNodeDispatch .. =>
    record.dispatchOwnerEpoch = some state.ownerEpoch ∧
      servedHere resolve config record = true
  | none, _ => True
  | some dispatch, .takeoverNonterminalOwner _ newOwnerEpoch newWorkerId _ _ =>
    IsOpen state dispatch →
      newOwnerEpoch = state.ownerEpoch ∧ ∀ workerId ∈ newWorkerId, workerId ≠ ""
  | some dispatch, op => IsOpen state dispatch → op.movesHolder = false

variable (resolve config) in
/-- The steps that let no open request go. -/
def Orderly (state : IngressState) : IngressAction → Prop
  | .admitRequest root requestId .. =>
    root ∈ config.roots → ∀ other ∈ config.roots, other ≠ root →
      state.files other requestId = .absent
  | .storeCall root requestId op =>
    ∀ record, state.files root requestId = .stored record →
      OrderlyCall resolve config state record op
  | .restart _ handovers =>
    ∀ root requestId record dispatch, state.files root requestId = .stored record →
      record.nodeDispatch = some dispatch → IsOpen state dispatch →
      record.state = .running ∧ ∃ handover ∈ handovers, handover.root = root ∧
        handover.requestId = requestId ∧
        ∀ expected ∈ handover.expectedOwnerEpoch, record.dispatchOwnerEpoch = some expected
  | .receive .. | .damage .. => True

/-! ### One record -/

section OneRecord

variable {state : IngressState} {stored : Record}

theorem HeldBy.transport {record updated : Record} (held : HeldBy resolve config record ownerEpoch)
    (same : SameHolder record updated) : HeldBy resolve config updated ownerEpoch where
  owned := by
    rw [same.owner]
    exact held.owned
  worker := by
    rw [same.worker]
    exact held.worker
  served := by
    simp only [servedHere, same.service]
    exact held.served

theorem isOpen_of_step {record : Record} {carried : Option PublicReceipt}
    {before after : NodeDispatch}
    (step : DispatchStep hashing record carried (some before) (some after))
    (isOpen : IsOpen state after) : IsOpen state before := by
  cases step with
  | keep | authorize | fence => exact isOpen
  | receive _ receipt _ _ _ _ follows _ =>
    rintro ⟨terminal, _⟩
    have blocked := follows .terminal terminal
    simp [ReceiptStage.blocks] at blocked

theorem heldBy_of_takeover {expectedOwnerEpoch newWorkerId handoffId : Option String}
    {now : Timestamp} {record updated : Record} (held : HeldBy resolve config record ownerEpoch)
    (worker : ∀ workerId ∈ newWorkerId, workerId ≠ "")
    (success : (takeoverNonterminalOwner expectedOwnerEpoch ownerEpoch newWorkerId handoffId
      now).body record = .ok updated) : HeldBy resolve config updated ownerEpoch := by
  rcases takeoverNonterminalOwner_ok success with kept | taken
  · rw [kept]
    exact held
  rw [taken]
  refine ⟨rfl, ?_, held.served⟩
  cases assigned : newWorkerId with
  | none => exact held.worker
  | some workerId =>
    have named := worker workerId assigned
    simpa [takenOver, Record.redactForPersistence, present] using named

/-- **An orderly call lets no open request go.** -/
theorem heldBy_storeStep {op : StoreOp} {dispatch : NodeDispatch}
    (sound : SoundRecord config hashing root requestId stored)
    (orderly : OrderlyCall resolve config state stored op)
    (held : ∀ prior, stored.nodeDispatch = some prior → IsOpen state prior →
      HeldBy resolve config stored state.ownerEpoch)
    (bound : (storeStep projections hashing stored op).nodeDispatch = some dispatch)
    (isOpen : IsOpen state dispatch) :
    HeldBy resolve config (storeStep projections hashing stored op) state.ownerEpoch := by
  have read : SameHolder stored stored.migrate := (SameFence.migrate stored).sameHolder
  rcases storeStep_cases stored op with kept | normalised | succeeds
  · rw [kept] at bound ⊢
    exact held dispatch bound isOpen
  · rw [normalised] at bound ⊢
    exact (held dispatch bound isOpen).transport read
  · cases before : stored.nodeDispatch with
    | none =>
      obtain ⟨⟨_, _, _, _, _, _, rfl⟩, running, worker⟩ := succeeds.first_binding before bound
      have started : stored.migrate.state ≠ .queued := by
        rw [running]
        decide
      simp only [OrderlyCall, before] at orderly
      have holds : HeldBy resolve config stored state.ownerEpoch :=
        ⟨orderly.1, worker, orderly.2⟩
      exact (holds.transport read).transport (succeeds.sameHolder started rfl)
    | some prior =>
      have step := succeeds.dispatchStep
      rw [bound, show stored.migrate.nodeDispatch = some prior from before] at step
      have priorOpen := isOpen_of_step step isOpen
      have holds := (held prior before priorOpen).transport read
      have started : stored.migrate.state ≠ .queued :=
        sound.started (by rw [before]; exact some_ne_none _)
      cases op with
      | takeoverNonterminalOwner expectedOwnerEpoch newOwnerEpoch newWorkerId handoffId now =>
        simp only [OrderlyCall, before] at orderly
        obtain ⟨rfl, worker⟩ := orderly priorOpen
        exact heldBy_of_takeover holds worker succeeds.success
      | _ =>
        simp only [OrderlyCall, before] at orderly
        exact holds.transport (succeeds.sameHolder started (orderly priorOpen))

end OneRecord

/-! ### All records -/

section AllRecords

variable {state : IngressState}

/-- Writing one file keeps hold of the open requests when the file does, and when it appears
only where no other configured project has the id. -/
theorem HoldsOpen.put (holds : HoldsOpen resolve config state)
    (alone : root ∈ config.roots → file ≠ .absent → state.files root requestId = .absent →
      ∀ other ∈ config.roots, other ≠ root → state.files other requestId = .absent)
    (held : ∀ record dispatch, file = .stored record → record.nodeDispatch = some dispatch →
      IsOpen state dispatch → HeldBy resolve config record state.ownerEpoch) :
    HoldsOpen resolve config (state.put root requestId file) where
  unique := by
    intro otherId first firstMember second secondMember different present
    by_cases sameId : otherId = requestId
    · subst sameId
      by_cases firstHere : first = root
      · subst firstHere
        rw [IngressState.put_files_self] at present
        rw [IngressState.put_files_of_ne fun same => different same.1]
        by_cases before : state.files first otherId = .absent
        · exact alone firstMember present before second secondMember different
        · exact holds.unique otherId first firstMember second secondMember different before
      · rw [IngressState.put_files_of_ne fun same => firstHere same.1] at present
        by_cases secondHere : second = root
        · subst secondHere
          rw [IngressState.put_files_self]
          have before := holds.unique otherId first firstMember second secondMember different
            present
          by_contra appears
          exact present (alone secondMember appears before first firstMember firstHere)
        · rw [IngressState.put_files_of_ne fun same => secondHere same.1]
          exact holds.unique otherId first firstMember second secondMember different present
    · rw [IngressState.put_files_of_ne fun same => sameId same.2] at present ⊢
      exact holds.unique otherId first firstMember second secondMember different present
  held := by
    intro otherRoot otherId record dispatch stored bound isOpen
    by_cases here : otherRoot = root ∧ otherId = requestId
    · obtain ⟨rfl, rfl⟩ := here
      rw [IngressState.put_files_self] at stored
      exact held record dispatch stored bound isOpen
    · rw [IngressState.put_files_of_ne here] at stored
      exact holds.held otherRoot otherId record dispatch stored bound isOpen

theorem holdsOpen_afterCall {root requestId : String} {op : StoreOp}
    (invariant : IngressInvariant config hashing owner state)
    (holds : HoldsOpen resolve config state)
    (orderly : ∀ record, state.files root requestId = .stored record →
      OrderlyCall resolve config state record op) :
    HoldsOpen resolve config (state.afterCall projections hashing root requestId op) := by
  refine holds.put ?_ ?_
  · intro _ appears before
    rw [before] at appears
    exact absurd rfl appears
  intro record dispatch written bound isOpen
  cases file : state.files root requestId with
  | absent | damaged =>
    rw [file] at written
    cases written
  | stored stored =>
    rw [file] at written
    cases written
    exact heldBy_storeStep (invariant.records root requestId stored file)
      (orderly stored file)
      (fun prior before priorOpen => holds.held root requestId stored prior file before priorOpen)
      bound isOpen

theorem HoldsOpen.advance {cursor : Option Cursor} (holds : HoldsOpen resolve config state)
    (forward : cursorSequence state.cursor ≤ cursorSequence cursor) :
    HoldsOpen resolve config { state with cursor } where
  unique := holds.unique
  held := by
    intro root requestId record dispatch stored bound isOpen
    refine holds.held root requestId record dispatch stored bound ?_
    rintro ⟨terminal, recorded⟩
    exact isOpen ⟨terminal, Nat.le_trans recorded forward⟩

theorem holdsOpen_receive {access : IngressAccess} {logIncarnationId : String} {now : Timestamp}
    (invariant : IngressInvariant config hashing owner state)
    (holds : HoldsOpen resolve config state) :
    HoldsOpen resolve config
      ((accept resolve config hashing owner access receipt logIncarnationId now).run state).2 := by
  rcases @accept_effect resolve config .plain hashing owner access receipt logIncarnationId now
      state with
    kept | ⟨root, fence, written, rfl, applied | ⟨planned, advanced⟩⟩
  · rw [kept]
    exact holds
  all_goals
    have orderly : ∀ record, state.files root receipt.identity.requestId = .stored record →
        OrderlyCall resolve config state record (.applyOwnedNodeReceipt receipt fence now) := by
      intro record _
      cases bound : record.nodeDispatch with
      | none => simp only [OrderlyCall, bound]
      | some dispatch =>
        simp only [OrderlyCall, bound]
        exact fun _ => rfl
    have recorded := @holdsOpen_afterCall resolve config .plain hashing owner state root
      receipt.identity.requestId (.applyOwnedNodeReceipt receipt fence now) invariant holds orderly
  · rw [applied]
    exact recorded
  · rw [advanced]
    refine recorded.advance ?_
    obtain ⟨_, ⟨_, next⟩ | ⟨_, _, impossible⟩⟩ := Checkpoints.plan_ok planned
    · simp only [IngressState.afterCall, IngressState.put]
      change cursorSequence state.cursor ≤ receipt.receiptSequence
      omega
    · cases impossible

/-! ### A restart -/

structure HandedOver (ownerEpoch : String) (handover : Handover) (stored updated : Record) :
    Prop where
  running : updated.state = .running
  dispatch : updated.nodeDispatch = stored.nodeDispatch
  worker : updated.workerId = stored.workerId
  service : updated.dispatchServiceRoot = stored.dispatchServiceRoot
  owner : updated.dispatchOwnerEpoch = stored.dispatchOwnerEpoch ∨
    updated.dispatchOwnerEpoch = some ownerEpoch
  taken : (∀ expected ∈ handover.expectedOwnerEpoch,
      stored.dispatchOwnerEpoch = some expected) → updated.dispatchOwnerEpoch = some ownerEpoch

theorem storeStep_handover (stored : Record) (ownerEpoch : String) (handover : Handover) :
    storeStep projections hashing stored (handover.op ownerEpoch) = stored ∨
      storeStep projections hashing stored (handover.op ownerEpoch) = stored.migrate ∨
      storeStep projections hashing stored (handover.op ownerEpoch) =
        (takenOver stored.migrate ownerEpoch none handover.handoffId
          handover.now).redactForPersistence := by
  rcases storeStep_cases stored (handover.op ownerEpoch) with kept | normalised | succeeds
  · exact .inl kept
  · exact .inr (.inl normalised)
  · exact .inr (takeoverNonterminalOwner_ok succeeds.success)

theorem storeStep_handover_dispatch (stored : Record) (ownerEpoch : String)
    (handover : Handover) :
    (storeStep projections hashing stored (handover.op ownerEpoch)).nodeDispatch =
      stored.nodeDispatch := by
  rcases @storeStep_handover projections hashing stored ownerEpoch handover with
    same | same | same
  · rw [same]
  · rw [same]
    rfl
  · rw [same]
    rfl

theorem handedOver_storeStep {root requestId ownerEpoch : String} {stored : Record}
    (handover : Handover) (sound : SoundRecord config hashing root requestId stored)
    (epoch : ownerEpoch ≠ "") (running : stored.state = .running) :
    HandedOver ownerEpoch handover stored
      (storeStep projections hashing stored (handover.op ownerEpoch)) := by
  have outcome := @storeStep_handover projections hashing stored ownerEpoch handover
  have taken : (∀ expected ∈ handover.expectedOwnerEpoch,
      stored.dispatchOwnerEpoch = some expected) →
      (storeStep projections hashing stored (handover.op ownerEpoch)).dispatchOwnerEpoch =
        some ownerEpoch := by
    intro expected
    by_cases already : stored.dispatchOwnerEpoch = some ownerEpoch
    · rcases outcome with same | same | same
      · rw [same]
        exact already
      · rw [same]
        exact already
      · rw [same]
        rfl
    · have named : stored.admission.requestId ≠ "" := by
        rw [sound.named]
        exact sound.nonempty
      have run := @takeoverNonterminalOwner_run stored handover.expectedOwnerEpoch ownerEpoch none
        handover.handoffId handover.now sound.valid named epoch (.inr running) expected already
      simp only [storeStep, Handover.op, StoreOp.operation, run]
      rfl
  rcases outcome with same | same | same
  · rw [same] at taken ⊢
    exact ⟨running, rfl, rfl, rfl, .inl rfl, taken⟩
  · rw [same] at taken ⊢
    exact ⟨running, rfl, rfl, rfl, .inl rfl, taken⟩
  · rw [same] at taken ⊢
    exact ⟨running, rfl, rfl, rfl, .inr rfl, taken⟩

variable (resolve config) in
/-- Every open request is held by the live owner or is still to be taken over by it. -/
structure Reclaims (state : IngressState) (handovers : List Handover) : Prop where
  unique : ∀ requestId, ∀ root ∈ config.roots, ∀ other ∈ config.roots, other ≠ root →
    state.files root requestId ≠ .absent → state.files other requestId = .absent
  open_ : ∀ root requestId record dispatch, state.files root requestId = .stored record →
    record.nodeDispatch = some dispatch → IsOpen state dispatch →
    record.state = .running ∧ present record.workerId = true ∧
      servedHere resolve config record = true ∧
      (record.dispatchOwnerEpoch = some state.ownerEpoch ∨
        ∃ handover ∈ handovers, handover.root = root ∧ handover.requestId = requestId ∧
          ∀ expected ∈ handover.expectedOwnerEpoch, record.dispatchOwnerEpoch = some expected)

theorem reclaims_afterCall {handover : Handover} {handovers : List Handover}
    (invariant : IngressInvariant config hashing owner state)
    (reclaims : Reclaims resolve config state (handover :: handovers)) :
    Reclaims resolve config (state.afterCall projections hashing handover.root handover.requestId
      (handover.op state.ownerEpoch)) handovers where
  unique := by
    have absent_iff : ∀ root requestId,
        (state.afterCall projections hashing handover.root handover.requestId
          (handover.op state.ownerEpoch)).files root requestId = .absent ↔
          state.files root requestId = .absent := by
      intro root requestId
      by_cases here : root = handover.root ∧ requestId = handover.requestId
      · obtain ⟨rfl, rfl⟩ := here
        rw [IngressState.afterCall, IngressState.put_files_self]
        cases state.files handover.root handover.requestId <;> simp [RecordFile.after]
      · rw [IngressState.afterCall, IngressState.put_files_of_ne here]
    intro requestId root member other otherMember different present
    rw [Ne, absent_iff] at present
    rw [absent_iff]
    exact reclaims.unique requestId root member other otherMember different present
  open_ := by
    intro root requestId record dispatch stored bound isOpen
    by_cases here : root = handover.root ∧ requestId = handover.requestId
    · obtain ⟨rfl, rfl⟩ := here
      rw [IngressState.afterCall, IngressState.put_files_self] at stored
      cases file : state.files handover.root handover.requestId with
      | absent | damaged =>
        rw [file] at stored
        cases stored
      | stored before =>
        rw [file] at stored
        cases stored
        have sound := invariant.records _ _ before file
        have epoch := ne_empty_of_isIdentifier invariant.epoch
        have boundBefore : before.nodeDispatch = some dispatch := by
          rw [← @storeStep_handover_dispatch projections hashing before state.ownerEpoch handover]
          exact bound
        obtain ⟨running, worker, served, owned⟩ :=
          reclaims.open_ _ _ before dispatch file boundBefore isOpen
        have handed := @handedOver_storeStep config projections hashing _ _ state.ownerEpoch
          before handover sound epoch running
        refine ⟨handed.running, by rw [handed.worker]; exact worker, ?_, ?_⟩
        · simp only [servedHere, handed.service]
          exact served
        rcases owned with owned | ⟨chosen, member, sameRoot, sameId, expected⟩
        · rcases handed.owner with same | same
          · exact .inl (same.trans owned)
          · exact .inl same
        rcases List.mem_cons.mp member with rfl | member
        · exact .inl (handed.taken expected)
        rcases handed.owner with same | same
        · refine .inr ⟨chosen, member, sameRoot, sameId, ?_⟩
          rw [same]
          exact expected
        · exact .inl same
    · rw [IngressState.afterCall, IngressState.put_files_of_ne here] at stored
      obtain ⟨running, worker, served, owned⟩ :=
        reclaims.open_ root requestId record dispatch stored bound isOpen
      refine ⟨running, worker, served, ?_⟩
      rcases owned with owned | ⟨chosen, member, sameRoot, sameId, expected⟩
      · exact .inl owned
      · rcases List.mem_cons.mp member with rfl | member
        · exact absurd ⟨sameRoot.symm, sameId.symm⟩ here
        · exact .inr ⟨chosen, member, sameRoot, sameId, expected⟩

theorem holdsOpen_takeOver {handovers : List Handover}
    (invariant : IngressInvariant config hashing owner state)
    (reclaims : Reclaims resolve config state handovers) :
    HoldsOpen resolve config (state.takeOver projections hashing handovers) := by
  induction handovers generalizing state with
  | nil =>
    refine ⟨reclaims.unique, ?_⟩
    intro root requestId record dispatch stored bound isOpen
    obtain ⟨_, worker, served, owned | ⟨_, impossible, _⟩⟩ :=
      reclaims.open_ root requestId record dispatch stored bound isOpen
    · exact ⟨owned, worker, served⟩
    · cases impossible
  | cons handover handovers ih =>
    exact ih (ingressInvariant_afterCall _ _ _ invariant)
      (reclaims_afterCall invariant reclaims)

end AllRecords

/-- **An orderly step keeps hold of the open requests.** -/
theorem holdsOpen_step (state : IngressState) (action : IngressAction)
    (invariant : IngressInvariant config hashing owner state)
    (holds : HoldsOpen resolve config state) (orderly : Orderly resolve config state action) :
    HoldsOpen resolve config
      (ingressStep resolve config projections hashing owner state action) := by
  cases action with
  | admitRequest root requestId admission metadata warnings sessionId =>
    simp only [ingressStep]
    split
    · split
      · refine holds.put (fun member _ _ => orderly member) ?_
        rintro record dispatch ⟨⟩ ⟨⟩
      · exact holds
    · exact holds
  | storeCall root requestId op => exact holdsOpen_afterCall invariant holds orderly
  | receive access receipt logIncarnationId now => exact holdsOpen_receive invariant holds
  | restart ownerEpoch handovers =>
    simp only [ingressStep]
    split
    next identifier =>
      refine holdsOpen_takeOver ⟨identifier, invariant.records, invariant.cursor⟩
        ⟨holds.unique, ?_⟩
      intro root requestId record dispatch stored bound isOpen
      have held := holds.held root requestId record dispatch stored bound isOpen
      obtain ⟨running, chosen⟩ := orderly root requestId record dispatch stored bound isOpen
      exact ⟨running, held.worker, held.served, .inr chosen⟩
    next => exact holds
  | damage root requestId =>
    simp only [ingressStep]
    split
    next stored =>
      refine holds.put ?_ ?_
      · intro _ _ before
        rw [stored] at before
        cases before
      · rintro record dispatch ⟨⟩
    next => exact holds

theorem initial_holdsOpen (ownerEpoch : String) :
    HoldsOpen resolve config (.initial ownerEpoch) where
  unique := fun _ _ _ _ _ _ _ => rfl
  held := by
    rintro root requestId record dispatch ⟨⟩

theorem exec_holdsOpen (named : owner.Named) (identifier : isIdentifier ownerEpoch = true)
    {actions : List IngressAction}
    (run : Admissible (ingressStep resolve config projections hashing owner)
      (Orderly resolve config) (.initial ownerEpoch) actions) :
    HoldsOpen resolve config
      (exec (ingressStep resolve config projections hashing owner) (.initial ownerEpoch)
        actions) := by
  have both := @Admissible.invariant _ _ _ _
    (fun state => IngressInvariant config hashing owner state ∧ HoldsOpen resolve config state)
    (fun state action holds orderly => ⟨ingressInvariant_step named state action holds.1,
      holdsOpen_step state action holds.1 holds.2 orderly⟩) _ _ run
    ⟨initial_ingressInvariant identifier, initial_holdsOpen ownerEpoch⟩
  exact both.2

/-! ## The receipt stream -/

/-- **When the next receipt gets through.**  In every reachable state, the node's next receipt,
bound to a record that may take it, is accepted and advances the cursor exactly when the live
gateway holds the record.  In a run that lets no open request go, it always is. -/
theorem receipt_stream_progress (named : owner.Named) {ownerEpoch : String}
    (identifier : isIdentifier ownerEpoch = true) (actions : List IngressAction)
    {access : IngressAccess} {receipt : PublicReceipt} {logIncarnationId root : String}
    {record : Record} (now : Timestamp)
    (next : NextReceipt config hashing owner access
      (exec (ingressStep resolve config projections hashing owner) (.initial ownerEpoch) actions)
      receipt logIncarnationId root record) :
    (Advances resolve config hashing owner access
        (exec (ingressStep resolve config projections hashing owner) (.initial ownerEpoch) actions)
        receipt logIncarnationId now ↔
      Held resolve config
        (exec (ingressStep resolve config projections hashing owner) (.initial ownerEpoch) actions)
        root record) ∧
    (Admissible (ingressStep resolve config projections hashing owner)
        (Orderly resolve config) (.initial ownerEpoch) actions →
      Advances resolve config hashing owner access
        (exec (ingressStep resolve config projections hashing owner) (.initial ownerEpoch) actions)
        receipt logIncarnationId now) := by
  have invariant : IngressInvariant config hashing owner
      (exec (ingressStep resolve config projections hashing owner) (.initial ownerEpoch)
        actions) := exec_ingressInvariant named identifier actions
  have exact_ := @accept_iff_held resolve config hashing owner access _ receipt logIncarnationId
    now root record invariant next
  refine ⟨exact_, ?_⟩
  intro run
  have holds := exec_holdsOpen named identifier run
  obtain ⟨dispatch, dispatched, _, takes⟩ := next.bound
  have held := holds.held root _ record dispatch next.stored dispatched
    (isOpen_of_takes takes next.next)
  refine exact_.mpr ⟨held, ?_⟩
  intro other member different
  rw [(invariant.records root _ record next.stored).named]
  refine holds.unique _ root next.configured other member different ?_
  rw [next.stored]
  exact RecordFile.noConfusion

/-! ### A stream that is stuck -/

def RecordFile.record? : RecordFile → Option Record
  | .stored record => some record
  | _ => none

theorem RecordFile.eq_stored (other : Record) (found : file.record?.isSome = true) :
    file = .stored (file.record?.getD other) := by
  cases file with
  | absent | damaged => cases found
  | stored record => rfl

/-- One project, served from `/service`. -/
def sampleConfig : IngressConfig where
  projects := [("project-1", "/srv/p1")]
  serviceRoot := "/service"

/-- The stream of `node-1`. -/
def sampleStream : Checkpoints where
  serverId := "server-1"
  nodeId := "node-1"

theorem sampleStream_named : sampleStream.Named :=
  ⟨by decide +kernel, by decide +kernel⟩

/-- A current channel with a healthy stream. -/
def sampleAccess : IngressAccess where
  current := .ok ()
  custody := { guarded := .ok (), readable := .ok () }
  poisoned := false

def sampleLog : String := "3f2b8c1e-5d4a-4c6b-9e7f-1a2b3c4d5e6f"

def sampleIntent : PublicReceipt :=
  { samplePrepared with state := .effectIntent, receiptSequence := 2 }

/-- The request is admitted, claimed, started and bound; its first receipt comes in and its
effect is authorized. -/
def authorizedRun : List IngressAction :=
  [.admitRequest "/srv/p1" "req_node_1" sampleNodeAdmission "" [] none,
    .storeCall "/srv/p1" "req_node_1" (.claimDispatch "g1" 0 (some "/service") 1),
    .storeCall "/srv/p1" "req_node_1" (.startOwnedAttempt (some "g1") (some "w1") 1 2),
    .storeCall "/srv/p1" "req_node_1" (.bindOwnedNodeDispatch sampleIdentity samplePayload
      sampleAttestation (sampleFence 2) false 3),
    .receive sampleAccess samplePrepared sampleLog 4,
    .storeCall "/srv/p1" "req_node_1" (.authorizeOwnedNodeEffect sampleIdentity "auth-1"
      sampleAttestation "ne-1" 1 (sampleFence 4) 5)]

/-- Then an operator completes the request from the answer already on the screen. -/
def operatorRun : List IngressAction :=
  authorizedRun ++ [.storeCall "/srv/p1" "req_node_1" (.transitionOperatorTerminal
    { expectedRevision := 5
      updates := []
      claimHeldAtEntry := true
      finalization := none
      artifactFailure := none
      sessionUnchanged := true
      claimHeldAtCommit := true
      finalizationApplied := false } 6)]

/-- The state after a run under the epoch `g1`. -/
def sampleState (actions : List IngressAction) : IngressState :=
  exec (ingressStep id sampleConfig .plain .sample sampleStream) (.initial "g1") actions

def sampleStored (actions : List IngressAction) : Record :=
  ((sampleState actions).files "/srv/p1" "req_node_1").record?.getD
    (buildRecord sampleNodeAdmission "" [] none)

def sampleAuthorized : NodeDispatch :=
  { (NodeDispatch.bound sampleIdentity
      "a0b86515ca32a36c16ef5a63ed942962422b6c8227c211013467a4680b29b016").received .sample
      samplePrepared with
    authorizationId := some "auth-1"
    authorizationState := .authorized }

/-- The second receipt is the next one of a stream whose record has the authorized dispatch. -/
theorem sampleIntent_next {actions : List IngressAction}
    (found : ((sampleState actions).files "/srv/p1" "req_node_1").record?.isSome = true)
    (bound : (sampleStored actions).nodeDispatch = some sampleAuthorized)
    (cursor : (sampleState actions).cursor =
      some (sampleStream.committed .sample samplePrepared sampleLog "g1")) :
    NextReceipt sampleConfig .sample sampleStream sampleAccess (sampleState actions) sampleIntent
      sampleLog "/srv/p1" (sampleStored actions) where
  current := rfl
  guarded := rfl
  readable := rfl
  healthy := rfl
  identified := by decide +kernel
  parsed := by decide +kernel
  log := by decide +kernel
  sameLog := by
    intro stored member
    rw [cursor] at member
    cases member
    rfl
  node := rfl
  next := by
    rw [cursor]
    rfl
  configured := by decide +kernel
  stored := RecordFile.eq_stored _ found
  bound := by
    refine ⟨sampleAuthorized, bound, rfl, .inr ⟨by decide, ?_, fun _ => by decide⟩⟩
    rintro previous ⟨⟩
    rfl

/-- While the request is held, the second receipt gets through. -/
theorem authorized_stream_progresses :
    Advances id sampleConfig .sample sampleStream sampleAccess (sampleState authorizedRun)
      sampleIntent sampleLog 6 := by
  have next := @sampleIntent_next authorizedRun (by decide +kernel) (by decide +kernel)
    (by decide +kernel)
  refine (receipt_stream_progress sampleStream_named (by decide +kernel) authorizedRun 6
    next).1.mpr ⟨⟨by decide +kernel, by decide +kernel, by decide +kernel⟩, ?_⟩
  intro other member different
  rw [show sampleConfig.roots = ["/srv/p1"] by decide +kernel] at member
  exact absurd (List.mem_singleton.mp member) different

/-- **A completed request stops the stream.**  The operator's completion clears the owner; the
node's next receipt, which the record may take, is then refused. -/
theorem operator_completion_blocks_stream :
    NextReceipt sampleConfig .sample sampleStream sampleAccess (sampleState operatorRun)
        sampleIntent sampleLog "/srv/p1" (sampleStored operatorRun) ∧
      ¬ Advances id sampleConfig .sample sampleStream sampleAccess (sampleState operatorRun)
        sampleIntent sampleLog 7 := by
  have next := @sampleIntent_next operatorRun (by decide +kernel) (by decide +kernel)
    (by decide +kernel)
  refine ⟨next, ?_⟩
  intro advances
  have invariant : IngressInvariant sampleConfig .sample sampleStream (sampleState operatorRun) :=
    exec_ingressInvariant sampleStream_named (by decide +kernel) operatorRun
  have held := (accept_iff_held invariant next).mp advances
  have released : (sampleStored operatorRun).dispatchOwnerEpoch = none := by decide +kernel
  rw [held.owned] at released
  cases released

end Audiagentic.Node
