import Audiagentic.Node.ReceiptStore

/-!
# What the methods of the receipt store do

One lemma for each method says what it does when it returns: it leaves the
database, or it makes the one write the lemma names, and in both cases the
instance's scope is the one in the owner row.  `Effect` collects the five kinds
of write; everything proved about runs is proved about these.
-/

namespace Audiagentic.Node

open Foundations Gateway
open Script (check_bind_eq_ok run_check run_pure run_read_bind run_write_bind)

variable {sha256 : List UInt8 → String} {hashing : Hashing} {scope : OwnerScope}
  {storage : Storage} {db written : Database}

/-! ## Statements -/

theorem requireCurrentScope_ok {passed : Unit} :
    (requireCurrentScope scope).run db = (.ok passed, written) ↔
      written = db ∧ db.owner.scope = scope := by
  simp only [requireCurrentScope, run_read_bind, run_check, Prod.mk.injEq, refuse_eq_ok, not_not]
  exact ⟨fun ⟨current, same⟩ => ⟨same.symm, current⟩, fun ⟨same, current⟩ => ⟨current, same.symm⟩⟩

variable {identity : CommandIdentity}

theorem requireCurrent_ok {passed : Unit} :
    (requireCurrent scope identity).run db = (.ok passed, written) ↔
      written = db ∧ db.owner.scope = scope ∧ commandScope identity = scope := by
  simp only [requireCurrent, run_read_bind, run_check, Prod.mk.injEq, refuse_eq_ok, not_or, not_not]
  exact ⟨fun ⟨current, same⟩ => ⟨same.symm, current⟩, fun ⟨same, current⟩ => ⟨current, same.symm⟩⟩

theorem selectRow_ok {row : CommandRow} :
    (selectRow identity).run db = (.ok row, written) ↔
      written = db ∧ db.command? identity.commandId = some row ∧ row.identity = identity := by
  simp only [selectRow, run_read_bind]
  cases found : db.command? identity.commandId with
  | none => simp
  | some other =>
    simp only [Script.refuse_bind_eq_ok, not_not, run_pure, Prod.mk.injEq,
      Except.ok.injEq, Option.some.injEq]
    constructor
    · rintro ⟨same, rfl, rfl⟩
      exact ⟨rfl, rfl, same⟩
    · rintro ⟨rfl, rfl, same⟩
      exact ⟨same, rfl, rfl⟩

variable {receipt : PublicReceipt}

theorem appendReceipt_ok {stage : ReceiptStage} {outputDigest : Option String} :
    (appendReceipt identity stage outputDigest).run db = (.ok receipt, written) ↔
      db.lastRowid < maxInteger ∧
        receipt = ⟨identity, stage, db.lastRowid + 1, outputDigest⟩ ∧
        written = db.append identity.commandId stage outputDigest := by
  simp only [appendReceipt, run_read_bind, Script.refuse_bind_eq_ok, Nat.not_le,
    run_write_bind, run_pure, Prod.mk.injEq, Except.ok.injEq]
  constructor
  all_goals
    rintro ⟨room, rfl, rfl⟩
    exact ⟨room, rfl, rfl⟩

theorem Storage.transaction_ok {α : Type} {body : Statement α} {value : α}
    (success : (storage.transaction body).run db = (.ok value, written)) :
    body.run db = (.ok value, written) := by
  simp only [Storage.transaction, Script.releasing_eq_ok, Script.transaction_eq_ok,
    check_bind_eq_ok] at success
  obtain ⟨_, _, _, success⟩ := success
  obtain ⟨other, middle, body_ok, success⟩ := Script.bind_eq_ok.mp success
  simp only [check_bind_eq_ok, run_pure, Prod.mk.injEq, Except.ok.injEq] at success
  obtain ⟨_, _, rfl, rfl⟩ := success
  exact body_ok

/-- The storage as it is when nothing fails after `COMMIT`. -/
def Storage.closed (storage : Storage) : Storage := { storage with released := .ok ⟨⟩ }

theorem Storage.transaction_commits {α : Type} (body : Statement α) :
    (storage.transaction body).CommitsAs (storage.closed.transaction body) :=
  Script.commitsAs_releasing _ _

/-! ## Effects -/

inductive ReceiptCall where
  | prepare (identity : CommandIdentity) (payload : List UInt8)
  | effectIntent (identity : CommandIdentity) (request reply : Frame) (connectionGeneration : Nat)
  | nativeAccepted (identity : CommandIdentity) (nativeRef : String)
  | terminal (identity : CommandIdentity) (text : String)
  | terminalFromWorkerResult (identity : CommandIdentity) (proof : WorkerProof)
  | advanceEpoch (nodeEpoch gatewayOwnerEpoch : String)
  | acknowledge (frame : Frame) (expectedServerId : String) (connection : ConnectionIdentity)

structure Marks (set : CommandRow → CommandRow) : Prop where
  command : ∀ row, (set row).command = row.command
  identity : ∀ row, (set row).identity = row.identity
  state : ∀ row, (set row).state = row.state
  sequence : ∀ row, (set row).sequence = row.sequence
  outputDigest : ∀ row, (set row).outputDigest = row.outputDigest

variable (hashing) in
/-- **The writes of the receipt store**, by the call that makes them. -/
inductive Effect (call : ReceiptCall) (db : Database) : Database → Prop where
  | kept : Effect call db db
  | prepared (identity : CommandIdentity) (payload : List UInt8)
      (fresh : db.command? identity.commandId = none) :
      Effect call db ((db.insertCommand identity payload).append identity.commandId .prepared none)
  | advanced (identity : CommandIdentity) (row : CommandRow) (set : CommandRow → CommandRow)
      (stage : ReceiptStage) (outputDigest : Option String)
      (found : db.command? identity.commandId = some row) (same : row.identity = identity)
      (marks : Marks set) (later : row.state.rank < stage.rank)
      (backed : row.state = .prepared → ∃ request reply connectionGeneration authorizationId,
        call = .effectIntent identity request reply connectionGeneration ∧
        validateEffectAuthorization identity request reply connectionGeneration =
          .ok authorizationId) :
      Effect call db ((db.updateCommand identity.commandId set).append identity.commandId
        stage outputDigest)
  | handedOver (nodeEpoch gatewayOwnerEpoch : String)
      (hands : call = .advanceEpoch nodeEpoch gatewayOwnerEpoch) :
      Effect call db
        { db with owner.scope := { db.owner.scope with nodeEpoch, gatewayOwnerEpoch } }
  | acknowledged (frame : Frame) (connection : ConnectionIdentity) (ack : Acknowledgement)
      (receipt : PublicReceipt) (serverId : String) (generation : Nat)
      (carries : call = .acknowledge frame serverId connection)
      (payload : frame.payload = .receiptAck serverId ack.logIncarnationId generation
        ack.throughSequence ack.throughReceiptSha256)
      (sameLog : ack.logIncarnationId = db.owner.logIncarnationId)
      (found : db.receipt? ack.throughSequence = some receipt)
      (digest : hashing.receipt receipt = ack.throughReceiptSha256)
      (ahead : db.checkpoint.throughSequence < ack.throughSequence) :
      Effect call db { db with
        checkpoint := ⟨some serverId, ack.throughSequence, some ack.throughReceiptSha256⟩ }

/-! ## Methods -/

theorem prepare_ok {payload : List UInt8}
    (success : (prepare sha256 scope storage identity payload).run db = (.ok receipt, written)) :
    db.owner.scope = scope ∧ Effect hashing (.prepare identity payload) db written := by
  simp only [prepare, Script.refuse_bind_eq_ok] at success
  obtain ⟨_, _, success⟩ := success
  obtain ⟨_, _, checked, body⟩ := Script.bind_eq_ok.mp (Storage.transaction_ok success)
  obtain ⟨rfl, current, _⟩ := requireCurrent_ok.mp checked
  refine ⟨current, ?_⟩
  simp only [run_read_bind] at body
  split at body
  next =>
    obtain ⟨row, _, selected, rest⟩ := Script.bind_eq_ok.mp body
    obtain ⟨rfl, _, _⟩ := selectRow_ok.mp selected
    simp only [Script.refuse_bind_eq_ok, run_check, Prod.mk.injEq] at rest
    rw [← rest.2.2]
    exact .kept
  next fresh =>
    simp only [run_write_bind, appendReceipt_ok] at body
    rw [body.2.2]
    exact .prepared identity payload fresh

/-- A granted intent: the command was only prepared, and is now authorized by the reply. -/
theorem effectIntent_ok {request reply : Frame} {connectionGeneration : Nat} {granted : Bool}
    (success : (effectIntent scope storage identity request reply connectionGeneration).run db =
      (.ok granted, written)) :
    db.owner.scope = scope ∧ commandScope identity = scope ∧
      ∃ authorizationId row,
        validateEffectAuthorization identity request reply connectionGeneration =
          .ok authorizationId ∧
        db.command? identity.commandId = some row ∧ row.identity = identity ∧
        ((granted = false ∧ written = db) ∨ (granted = true ∧ row.state = .prepared ∧
            written = (db.updateCommand identity.commandId fun row =>
              { row with authorizationId := some authorizationId }).append identity.commandId
                .effectIntent none)) := by
  simp only [effectIntent, check_bind_eq_ok] at success
  obtain ⟨authorizationId, authorized, success⟩ := success
  obtain ⟨_, _, checked, body⟩ := Script.bind_eq_ok.mp (Storage.transaction_ok success)
  obtain ⟨rfl, current, issued⟩ := requireCurrent_ok.mp checked
  obtain ⟨row, _, selected, rest⟩ := Script.bind_eq_ok.mp body
  obtain ⟨rfl, found, same⟩ := selectRow_ok.mp selected
  refine ⟨current, issued, authorizationId, row, authorized, found, same, ?_⟩
  split at rest
  next =>
    simp only [Script.refuse_bind_eq_ok, run_pure, Prod.mk.injEq, Except.ok.injEq] at rest
    exact .inl ⟨rest.2.1.symm, rest.2.2.symm⟩
  next prepared =>
    simp only [Script.refuse_bind_eq_ok, run_write_bind] at rest
    obtain ⟨_, rest⟩ := rest
    obtain ⟨_, _, appended, rest⟩ := Script.bind_eq_ok.mp rest
    obtain ⟨_, _, rfl⟩ := appendReceipt_ok.mp appended
    simp only [run_pure, Prod.mk.injEq, Except.ok.injEq] at rest
    exact .inr ⟨rest.1.symm, not_not.mp prepared, rest.2.symm⟩

theorem nativeAccepted_ok {nativeRef : String}
    (success : (nativeAccepted sha256 scope storage identity nativeRef).run db =
      (.ok receipt, written)) :
    db.owner.scope = scope ∧ Effect hashing (.nativeAccepted identity nativeRef) db written := by
  simp only [nativeAccepted, Script.refuse_bind_eq_ok] at success
  obtain ⟨_, success⟩ := success
  obtain ⟨_, _, checked, body⟩ := Script.bind_eq_ok.mp (Storage.transaction_ok success)
  obtain ⟨rfl, current, _⟩ := requireCurrent_ok.mp checked
  obtain ⟨row, _, selected, rest⟩ := Script.bind_eq_ok.mp body
  obtain ⟨rfl, found, same⟩ := selectRow_ok.mp selected
  refine ⟨current, ?_⟩
  split at rest
  next =>
    simp only [Script.refuse_bind_eq_ok, run_check, Prod.mk.injEq] at rest
    rw [← rest.2.2]
    exact .kept
  next =>
    simp only [Script.refuse_bind_eq_ok, not_not, run_write_bind, appendReceipt_ok] at rest
    obtain ⟨intent, _, _, written_eq⟩ := rest
    rw [written_eq]
    refine .advanced identity row _ .nativeAccepted none found same
      ⟨fun _ => rfl, fun _ => rfl, fun _ => rfl, fun _ => rfl, fun _ => rfl⟩ ?_ ?_
    · rw [intent]
      decide
    · intro prepared
      rw [intent] at prepared
      cases prepared

theorem terminal_ok {text : String}
    (success : (terminal sha256 scope storage identity text).run db = (.ok receipt, written)) :
    db.owner.scope = scope ∧ Effect hashing (.terminal identity text) db written := by
  simp only [terminal] at success
  obtain ⟨_, _, checked, body⟩ := Script.bind_eq_ok.mp (Storage.transaction_ok success)
  obtain ⟨rfl, current, _⟩ := requireCurrent_ok.mp checked
  obtain ⟨row, _, selected, rest⟩ := Script.bind_eq_ok.mp body
  obtain ⟨rfl, found, same⟩ := selectRow_ok.mp selected
  refine ⟨current, ?_⟩
  split at rest
  next =>
    simp only [check_bind_eq_ok, refuse_eq_ok, exists_const, run_check, Prod.mk.injEq] at rest
    obtain ⟨_, _, _, _, _, rfl⟩ := rest
    exact .kept
  next =>
    simp only [check_bind_eq_ok, refuse_eq_ok, exists_const, not_not,
      run_write_bind, appendReceipt_ok] at rest
    obtain ⟨accepted, _, _, _, _, rfl⟩ := rest
    refine .advanced identity row _ .terminal _ found same
      ⟨fun _ => rfl, fun _ => rfl, fun _ => rfl, fun _ => rfl, fun _ => rfl⟩ ?_ ?_
    · rw [accepted]
      decide
    · intro prepared
      rw [accepted] at prepared
      cases prepared

theorem terminalFromWorkerResult_ok {proof : WorkerProof}
    (success : (terminalFromWorkerResult sha256 scope storage identity proof).run db =
      (.ok receipt, written)) :
    db.owner.scope = scope ∧
    Effect hashing (.terminalFromWorkerResult identity proof) db written := by
  simp only [terminalFromWorkerResult] at success
  obtain ⟨_, _, checked, body⟩ := Script.bind_eq_ok.mp (Storage.transaction_ok success)
  obtain ⟨rfl, current, _⟩ := requireCurrent_ok.mp checked
  obtain ⟨row, _, selected, rest⟩ := Script.bind_eq_ok.mp body
  obtain ⟨rfl, found, same⟩ := selectRow_ok.mp selected
  refine ⟨current, ?_⟩
  simp only [check_bind_eq_ok, refuse_eq_ok, exists_const] at rest
  obtain ⟨eligible, _, raw, _, rest⟩ := rest
  split at rest
  next =>
    simp only [check_bind_eq_ok, refuse_eq_ok, exists_const, run_check, Prod.mk.injEq] at rest
    obtain ⟨_, _, _, _, _, _, rfl⟩ := rest
    exact .kept
  next notTerminal =>
    simp only [check_bind_eq_ok, run_write_bind, appendReceipt_ok] at rest
    obtain ⟨_, _, _, _, rfl⟩ := rest
    have intent : row.state = .effectIntent := by grind
    refine .advanced identity row _ .terminal _ found same
      ⟨fun _ => rfl, fun _ => rfl, fun _ => rfl, fun _ => rfl, fun _ => rfl⟩ ?_ ?_
    · rw [intent]
      decide
    · intro prepared
      rw [intent] at prepared
      cases prepared

theorem advanceEpoch_ok {nodeEpoch gatewayOwnerEpoch : String} {done : Unit}
    (success : (advanceEpoch scope storage nodeEpoch gatewayOwnerEpoch).run db =
      (.ok done, written)) :
    db.owner.scope = scope ∧
      written =
      { db with owner.scope := { db.owner.scope with nodeEpoch, gatewayOwnerEpoch } } := by
  simp only [advanceEpoch, Script.refuse_bind_eq_ok] at success
  obtain ⟨_, _, success⟩ := success
  obtain ⟨_, _, checked, body⟩ := Script.bind_eq_ok.mp (Storage.transaction_ok success)
  obtain ⟨rfl, current⟩ := requireCurrentScope_ok.mp checked
  simp only [Script.refuse_bind_eq_ok, Script.run_write, Prod.mk.injEq] at body
  exact ⟨current, body.2.2.symm⟩

theorem readCheckpoint_ok {checkpoint : Checkpoint}
    (success : db.readCheckpoint hashing = .ok checkpoint) :
    checkpoint = ⟨db.owner.logIncarnationId, db.checkpoint⟩ := by
  simp only [Database.readCheckpoint, bind_eq_ok, refuse_eq_ok, exists_const] at success
  obtain ⟨_, _, _, success⟩ := success
  split at success
  next =>
    cases success
    rfl
  next =>
    simp only [bind_eq_ok, refuse_eq_ok, exists_const] at success
    obtain ⟨_, _, _, _, _, success⟩ := success
    cases success
    rfl

theorem outboxReceipt_ok {sequence : Nat} (success : db.outboxReceipt sequence = .ok receipt) :
    db.receipt? sequence = some receipt := by
  unfold Database.outboxReceipt at success
  split at success
  next => cases success
  next found =>
    simp only [bind_eq_ok] at success
    obtain ⟨_, _, same⟩ := success
    cases same
    exact found

theorem acknowledgement_payload {frame : Frame} {expectedServerId : String}
    {connection : ConnectionIdentity} {ack : Acknowledgement}
    (success : acknowledgement scope frame expectedServerId connection = .ok ack) :
    ∃ generation, frame.payload = .receiptAck expectedServerId ack.logIncarnationId generation
      ack.throughSequence ack.throughReceiptSha256 := by
  simp only [acknowledgement, bind_eq_ok, refuse_eq_ok, exists_const] at success
  obtain ⟨_, _, _, _, success⟩ := success
  split at success
  next payload =>
    simp only [bind_eq_ok, refuse_eq_ok, exists_const, not_or, not_not] at success
    obtain ⟨_, _, _, _, ⟨_, _, _, _, _, rfl⟩, same⟩ := success
    cases same
    exact ⟨_, payload⟩
  next => cases success

/-- An accepted ACK moves the cursor forward, to a receipt of the outbox it names by digest. -/
theorem acknowledge_ok {frame : Frame} {expectedServerId : String}
    {connection : ConnectionIdentity} {checkpoint : Checkpoint}
    (success : (acknowledge hashing scope storage frame expectedServerId connection).run db =
      (.ok checkpoint, written)) :
    db.owner.scope = scope ∧ Effect hashing (.acknowledge frame expectedServerId connection) db
    written := by
  simp only [acknowledge, check_bind_eq_ok] at success
  obtain ⟨ack, validated, success⟩ := success
  obtain ⟨_, _, checked, body⟩ := Script.bind_eq_ok.mp (Storage.transaction_ok success)
  obtain ⟨rfl, current⟩ := requireCurrentScope_ok.mp checked
  refine ⟨current, ?_⟩
  simp only [run_read_bind, check_bind_eq_ok, refuse_eq_ok, exists_const, not_or,
    not_not, Nat.not_lt] at body
  obtain ⟨before, stored, ⟨log, _⟩, notBehind, receipt, found, digest, body⟩ := body
  rw [readCheckpoint_ok stored] at log notBehind body
  split at body
  next =>
    simp only [check_bind_eq_ok, refuse_eq_ok, exists_const, run_pure, Prod.mk.injEq] at body
    rw [← body.2.2]
    exact .kept
  next different =>
    simp only [run_write_bind, run_read_bind, run_check, Prod.mk.injEq] at body
    obtain ⟨generation, payload⟩ := acknowledgement_payload validated
    rw [← body.2]
    exact .acknowledged frame connection ack receipt expectedServerId generation rfl payload log
      (outboxReceipt_ok found) digest (Nat.lt_of_le_of_ne notBehind (Ne.symm different))

end Audiagentic.Node
