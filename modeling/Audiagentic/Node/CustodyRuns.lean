import Audiagentic.Node.Custody

/-!
# Custody over whole runs

The invariant of the custody system and its consequences.  A receipt of the log
never changes, so what is in flight stays true; the history of applied receipts is
the log up to the central cursor, or one receipt beyond it between the canonical
write and the cursor write.  A crash there is repaired by the exact replay of that
one receipt, which changes nothing.
-/

namespace Audiagentic.Node

open Foundations Gateway List Option

/-! ## The log does not change -/

section Log

variable {hashing : Hashing} {call : ReceiptCall} {db written : Database} {sequence : Nat}
  {receipt : PublicReceipt}

/-- A receipt of the log: an outbox row joined with the identity of its command. -/
theorem receipt?_eq_some_iff :
    db.receipt? sequence = some receipt ↔ ∃ entry row,
      db.outbox.find? (fun entry => entry.sequence = sequence) = some entry ∧
      db.command? entry.command = some row ∧
      receipt = ⟨row.identity, entry.state, entry.sequence, entry.outputDigest⟩ := by
  simp only [Database.receipt?, Database.receiptOf, bind_eq_some_iff, map_eq_some_iff]
  constructor
  · rintro ⟨entry, found, row, owner, rfl⟩
    exact ⟨entry, row, found, owner, rfl⟩
  · rintro ⟨entry, row, found, owner, rfl⟩
    exact ⟨entry, found, row, owner, rfl⟩

theorem receiptSequence_of_receipt? (found : db.receipt? sequence = some receipt) :
    receipt.receiptSequence = sequence := by
  obtain ⟨entry, row, selected, _, rfl⟩ := receipt?_eq_some_iff.mp found
  have same := find?_some selected
  exact of_decide_eq_true same

theorem receipt?_bounds (consistent : Consistent db) (found : db.receipt? sequence = some receipt) :
    1 ≤ sequence ∧ sequence ≤ db.outbox.length := by
  obtain ⟨entry, _, selected, _, _⟩ := receipt?_eq_some_iff.mp found
  have same : entry.sequence = sequence := by
    have selectedSame := find?_some selected
    exact of_decide_eq_true selectedSame
  have numbered : entry.sequence ∈ db.outbox.map OutboxRow.sequence :=
    List.mem_map_of_mem (mem_of_find?_eq_some selected)
  rw [consistent.numbered, mem_range'_1] at numbered
  omega

section

variable (effect : Effect hashing call db written)
include effect

theorem Effect.command_identity {command : String} {row : CommandRow}
    (found : db.command? command = some row) :
    ∃ updated, written.command? command = some updated ∧ updated.identity = row.identity := by
  cases effect with
  | kept | handedOver | acknowledged => exact ⟨row, found, rfl⟩
  | prepared identity payload fresh =>
    have different : command ≠ identity.commandId := by
      intro same
      rw [← same, found] at fresh
      cases fresh
    rw [Database.command?_append, Database.command?_insertCommand_of_ne different, found]
    refine ⟨_, rfl, ?_⟩
    by_cases addressed : row.command = identity.commandId <;> simp [addressed]
  | advanced identity target set stage outputDigest _ _ marks _ _ =>
    rw [Database.command?_append, Database.command?_updateCommand marks.command, found]
    refine ⟨_, rfl, ?_⟩
    by_cases addressed : row.command = identity.commandId
    · simp [addressed, marks.command, marks.identity]
    · simp [addressed]

theorem Effect.outbox :
    ∃ appended, written.outbox = db.outbox ++ appended := by
  cases effect with
  | kept | handedOver | acknowledged => exact ⟨[], (append_nil _).symm⟩
  | prepared | advanced => exact ⟨_, rfl⟩

/-- **A receipt of the log stays what it is.** -/
theorem Effect.receipt? (found : db.receipt? sequence = some receipt) :
    written.receipt? sequence = some receipt := by
  obtain ⟨entry, row, selected, owner, rfl⟩ := receipt?_eq_some_iff.mp found
  obtain ⟨appended, grown⟩ := effect.outbox
  obtain ⟨updated, lookup, same⟩ := effect.command_identity owner
  refine receipt?_eq_some_iff.mpr ⟨entry, updated, ?_, lookup, ?_⟩
  · rw [grown, find?_append, selected]
    rfl
  · rw [same]

/-- Only an ACK moves the local cursor, forward and to the number it carries. -/
theorem Effect.checkpoint :
    written.checkpoint = db.checkpoint ∨
      db.checkpoint.throughSequence < written.checkpoint.throughSequence ∧
      ∃ frame server connection, call = .acknowledge frame server connection ∧
        ∃ log generation digest, frame.payload =
          .receiptAck server log generation written.checkpoint.throughSequence digest := by
  cases effect with
  | kept | prepared | advanced | handedOver => exact .inl rfl
  | acknowledged frame connection ack receipt serverId generation carries payload _ _ _ ahead =>
    exact .inr ⟨ahead, frame, serverId, connection, carries, _, generation, _, payload⟩

end

end Log

/-! ## The invariant -/

def lastApplied (applied : List PublicReceipt) (requestId : String) : Option PublicReceipt :=
  (applied.filter fun receipt => receipt.identity.requestId = requestId).getLast?

/-- The dispatch of a request shows the last receipt applied for it. -/
def Recorded (hashing : Hashing) (dispatch : Option NodeDispatch) (last : Option PublicReceipt) :
    Prop :=
  match dispatch, last with
  | none, last => last = none
  | some dispatch, none => dispatch.receiptSequence = 0
  | some dispatch, some receipt =>
    dispatch.identity = receipt.identity ∧ dispatch.receiptSequence = receipt.receiptSequence ∧
      dispatch.receiptSha256 = some (hashing.receipt receipt) ∧
      dispatch.receiptStage = some receipt.state ∧
      dispatch.outputSha256 = receipt.outputSha256

/-- **The custody invariant.**  The cursors are ordered, the receipts in flight are rows of the
log, and the history is the log up to the central cursor or one receipt beyond it. -/
structure CustodyInvariant (hashing : Hashing) (state : CustodyState) : Prop where
  tables : Consistent state.node
  sent : ∀ message ∈ state.receiptsSent,
    state.node.receipt? message.2.receiptSequence = some message.2
  acks : ∀ frame ∈ state.acksSent, ∀ server log generation sequence digest,
    frame.payload = .receiptAck server log generation sequence digest → sequence ≤ state.central
  acked : state.node.checkpoint.throughSequence ≤ state.central
  history : state.applied.map some =
    (List.range' 1 state.applied.length).map state.node.receipt?
  behind : state.central ≤ state.applied.length
  ahead : state.applied.length ≤ state.central + 1
  pending : ∀ cursor ∈ state.pending,
    cursor.sequence = state.central + 1 ∧ state.applied.length = state.central + 1
  recorded : ∀ requestId, Recorded hashing ((state.records requestId).bind Record.nodeDispatch)
    (lastApplied state.applied requestId)

variable {sha256 : List UInt8 → String} {projections : Projections} {hashing : Hashing}
  {owner : Checkpoints} {state : CustodyState}

theorem initial_custodyInvariant (scope : OwnerScope) (logIncarnationId : String) :
    CustodyInvariant hashing (.initial scope logIncarnationId) where
  tables := initial_consistent scope logIncarnationId
  sent := by
    intro message member
    cases member
  acks := by
    intro frame member
    cases member
  acked := Nat.le_refl 0
  history := rfl
  behind := Nat.le_refl 0
  ahead := Nat.zero_le 1
  pending := by
    intro cursor member
    cases member
  recorded := fun _ => rfl

variable {receipt : PublicReceipt}

namespace CustodyInvariant

variable (invariant : CustodyInvariant hashing state)
include invariant

theorem receipt?_of_mem_applied (member : receipt ∈ state.applied) :
    state.node.receipt? receipt.receiptSequence = some receipt ∧
      1 ≤ receipt.receiptSequence ∧ receipt.receiptSequence ≤ state.applied.length := by
  have listed : some receipt ∈ state.applied.map some := List.mem_map_of_mem member
  rw [invariant.history] at listed
  obtain ⟨sequence, inRange, found⟩ := List.mem_map.mp listed
  rw [mem_range'_1] at inRange
  rw [receiptSequence_of_receipt? found]
  exact ⟨found, by omega⟩

/-- The last receipt of the history is the row with its length for a number. -/
theorem receipt?_of_split {before : List PublicReceipt} {last : PublicReceipt}
    (split : state.applied = before ++ [last]) :
    state.node.receipt? state.applied.length = some last := by
  have history := congrArg (fun list => list[before.length]?) invariant.history
  simp only [getElem?_map, split, length_append, length_singleton] at history
  rw [getElem?_concat_length, getElem?_range' (by omega)] at history
  simp only [map_some, Option.some.injEq, Nat.one_mul] at history
  rw [split, length_append, length_singleton, Nat.add_comm]
  exact history.symm

theorem applied_length_le : state.applied.length ≤ state.node.outbox.length := by
  rcases eq_nil_or_concat state.applied with empty | ⟨before, last, split⟩
  · rw [empty]
    exact Nat.zero_le _
  · rw [concat_eq_append] at split
    exact (receipt?_bounds invariant.tables (invariant.receipt?_of_split split)).2

/-- A node call keeps the custody: the log only grows, and an ACK is one that was sent. -/
theorem nodeCall {issued : IssuedCall} (delivered : state.delivers issued.call = true) :
    CustodyInvariant hashing
      { state with node := receiptStep sha256 hashing state.node issued } where
  tables := invariant.tables.of_effect (receiptStep_effect state.node issued)
  sent := by
    intro message member
    exact (receiptStep_effect state.node issued).receipt? (invariant.sent message member)
  acks := invariant.acks
  acked := by
    rcases (receiptStep_effect state.node issued).checkpoint with
      kept | ⟨_, frame, server, connection, carries, log, generation, digest, payload⟩
    · exact Nat.le_trans (Nat.le_of_eq (congrArg CheckpointRow.throughSequence kept))
        invariant.acked
    · rw [carries] at delivered
      exact invariant.acks frame (of_decide_eq_true delivered) _ _ _ _ _ payload
  history := by
    change state.applied.map some =
      (List.range' 1 state.applied.length).map
      (receiptStep sha256 hashing state.node issued).receipt?
    rw [invariant.history]
    refine map_congr_left ?_
    intro sequence member
    have listed : state.node.receipt? sequence ∈ state.applied.map some := by
      rw [invariant.history]
      exact List.mem_map_of_mem member
    obtain ⟨receipt, _, found⟩ := List.mem_map.mp listed
    rw [← found]
    exact ((receiptStep_effect state.node issued).receipt? found.symm).symm
  behind := invariant.behind
  ahead := invariant.ahead
  pending := invariant.pending
  recorded := invariant.recorded

end CustodyInvariant

/-! ## Canonical records -/

variable {record : Record}

section Canonical

variable {dispatch after : Option NodeDispatch} {last : Option PublicReceipt}

theorem Recorded.of_dispatchStep (recorded : Recorded hashing dispatch last)
    (step : DispatchStep hashing record none dispatch after) : Recorded hashing after last := by
  cases step with
  | keep => exact recorded
  | bind identity attestation _ _ _ =>
    cases recorded
    rfl
  | authorize | fence =>
    cases last with
    | none | some => exact recorded
  | receive prior receipt carries _ _ _ _ _ => cases carries

theorem Recorded.storeStep {stored : Record} {op : StoreOp}
    (recorded : Recorded hashing stored.nodeDispatch last) (silent : op.receipt? = none) :
    Recorded hashing (Gateway.storeStep projections hashing stored op).nodeDispatch last := by
  have normal : stored.migrate.nodeDispatch = stored.nodeDispatch :=
    (SameFence.migrate stored).nodeDispatch
  rcases @storeStep_cases projections hashing stored op with
    kept | normalised | succeeds
  · rw [kept]
    exact recorded
  · rw [normalised, normal]
    exact recorded
  · have step := succeeds.dispatchStep
    rw [silent, normal] at step
    exact recorded.of_dispatchStep step

theorem recorded_received {prior : NodeDispatch} (bound : prior.identity = receipt.identity) :
    Recorded hashing (some (prior.received hashing receipt)) (some receipt) :=
  ⟨bound, rfl, rfl, rfl, rfl⟩

variable (hashing) in
/-- The canonical write of a receipt: it is refused, it is an exact replay, or it is newer and
written. -/
theorem applyOwnedNodeReceipt_run (receipt : PublicReceipt) (fence : NodeFence) (now : Timestamp)
    (stored : Record) :
    let call := (applyOwnedNodeReceipt hashing receipt fence now).run stored
    (call.1.nodeDispatch = stored.nodeDispatch ∧ ∃ error, call.2 = .error error) ∨
      ((∃ updated, call.2 = .ok updated) ∧ ∃ prior, stored.nodeDispatch = some prior ∧
        prior.identity = receipt.identity ∧
        ((call.1.nodeDispatch = stored.nodeDispatch ∧
            prior.receiptSequence = receipt.receiptSequence) ∨
          (call.1.nodeDispatch = some (prior.received hashing receipt) ∧
            prior.receiptSequence < receipt.receiptSequence))) := by
  intro call
  have normal : stored.migrate.nodeDispatch = stored.nodeDispatch :=
    (SameFence.migrate stored).nodeDispatch
  rcases Operation.run_cases (applyOwnedNodeReceipt hashing receipt fence now) stored with
    ⟨error, refused⟩ | ⟨error, failed⟩ | ⟨updated, _, _, success, ran⟩
  · exact .inl (by rw [show call = _ from refused]; exact ⟨rfl, error, rfl⟩)
  · exact .inl (by rw [show call = _ from failed]; exact ⟨normal, error, rfl⟩)
  · rw [show call = _ from ran]
    obtain ⟨prior, found, bound, outcome⟩ := applyOwnedNodeReceipt_ok hashing success
    rw [normal] at found
    refine .inr ⟨⟨updated, rfl⟩, prior, found, bound, ?_⟩
    rcases outcome with ⟨kept, same, _⟩ | ⟨newer, _, _, written⟩
    · exact .inl ⟨by rw [kept]; exact normal, same⟩
    · exact .inr ⟨(writeNodeDispatch_ok written).2.nodeDispatch, newer⟩

theorem receiptNumber_congr {other : Record} (same : record.nodeDispatch = other.nodeDispatch) :
    receiptNumber record = receiptNumber other := by
  unfold receiptNumber
  rw [same]

theorem lastApplied_append_self {applied : List PublicReceipt} (receipt : PublicReceipt) :
    lastApplied (applied ++ [receipt]) receipt.identity.requestId = some receipt := by
  simp [lastApplied, filter_append]

theorem lastApplied_append_of_ne {applied : List PublicReceipt} {requestId : String}
    (different : requestId ≠ receipt.identity.requestId) :
    lastApplied (applied ++ [receipt]) requestId = lastApplied applied requestId := by
  simp [lastApplied, filter_append, different.symm]

end Canonical

/-! ## Every step keeps the invariant -/

variable {committed : Cursor}

namespace CustodyInvariant

variable (invariant : CustodyInvariant hashing state)
include invariant

theorem receiptSequence_le {requestId : String} {dispatch : NodeDispatch}
    (stored : state.records requestId = some record) (bound : record.nodeDispatch = some dispatch) :
    dispatch.receiptSequence ≤ state.applied.length := by
  have recorded := invariant.recorded requestId
  rw [stored, bind_some, bound] at recorded
  cases last : lastApplied state.applied requestId with
  | none =>
    rw [last] at recorded
    exact Nat.le_trans (Nat.le_of_eq recorded) (Nat.zero_le _)
  | some receipt =>
    rw [last] at recorded
    have member : receipt ∈ state.applied :=
      (mem_filter.mp (mem_of_getLast? last)).1
    have bounds := (invariant.receipt?_of_mem_applied member).2.2
    rw [recorded.2.1]
    exact bounds

theorem receiptSequence_of_last {dispatch : NodeDispatch}
    (found : state.node.receipt? receipt.receiptSequence = some receipt)
    (last : receipt.receiptSequence = state.applied.length)
    (stored : state.records receipt.identity.requestId = some record)
    (bound : record.nodeDispatch = some dispatch) :
    dispatch.receiptSequence = receipt.receiptSequence := by
  have positive := (receipt?_bounds invariant.tables found).1
  rcases eq_nil_or_concat state.applied with empty | ⟨before, final, split⟩
  · rw [empty, length_nil] at last
    omega
  rw [concat_eq_append] at split
  have same := invariant.receipt?_of_split split
  rw [← last, found] at same
  cases same
  have recorded := invariant.recorded receipt.identity.requestId
  rw [stored, bind_some, bound, split, lastApplied_append_self] at recorded
  exact recorded.2.1

theorem putRecord {requestId : String}
    (shows : Recorded hashing record.nodeDispatch (lastApplied state.applied requestId)) :
    CustodyInvariant hashing (state.putRecord requestId record) := by
  refine { invariant with recorded := ?_ }
  intro other
  by_cases same : other = requestId
  · subst same
    simp only [CustodyState.putRecord, if_true, bind_some]
    exact shows
  · simp only [CustodyState.putRecord, if_neg same]
    exact invariant.recorded other

/-- The next receipt joins the history together with the record that shows it. -/
theorem putApplied {prior : NodeDispatch}
    (found : state.node.receipt? receipt.receiptSequence = some receipt)
    (next : receipt.receiptSequence = state.applied.length + 1) (idle : state.pending = none)
    (level : state.applied.length = state.central) (bound : prior.identity = receipt.identity)
    (shows : record.nodeDispatch = some (prior.received hashing receipt)) :
    CustodyInvariant hashing
      { state.putRecord receipt.identity.requestId record with
        applied := state.applied ++ [receipt] } where
  tables := invariant.tables
  sent := invariant.sent
  acks := invariant.acks
  acked := invariant.acked
  history := by
    rw [next] at found
    change (state.applied ++ [receipt]).map some =
      (List.range' 1 (state.applied ++ [receipt]).length).map state.node.receipt?
    rw [map_append, invariant.history, length_append, length_singleton,
      range'_1_concat, map_append, map_singleton, map_singleton,
      Nat.add_comm 1, found]
  behind := by
    rw [length_append]
    exact Nat.le_trans invariant.behind (Nat.le_add_right _ _)
  ahead := by
    have grown : (state.applied ++ [receipt]).length = state.central + 1 := by
      rw [length_append, length_singleton, level]
    exact Nat.le_of_eq grown
  pending := by
    intro cursor member
    change cursor ∈ state.pending at member
    rw [idle] at member
    cases member
  recorded := by
    intro other
    by_cases same : other = receipt.identity.requestId
    · subst same
      simp only [CustodyState.putRecord, if_true, bind_some, lastApplied_append_self, shows]
      exact recorded_received bound
    · simp only [CustodyState.putRecord, if_neg same, lastApplied_append_of_ne same]
      exact invariant.recorded other

theorem putPending (due : committed.sequence = state.central + 1)
    (ahead : state.applied.length = state.central + 1) :
    CustodyInvariant hashing { state with pending := some committed } := by
  refine { invariant with pending := ?_ }
  intro cursor member
  cases member
  exact ⟨due, ahead⟩

/-- The canonical write of the next receipt.  A history that ends at the cursor takes the
receipt; one that is beyond the cursor already ends with it, and the write is a replay. -/
theorem applyReceipt {fence : NodeFence} {now : Timestamp} (idle : state.pending = none)
    (found : state.node.receipt? receipt.receiptSequence = some receipt)
    (next : receipt.receiptSequence = state.central + 1)
    (commits : committed.sequence = receipt.receiptSequence) :
    CustodyInvariant hashing (state.applyReceipt hashing receipt fence committed now) := by
  cases lookup : state.records receipt.identity.requestId with
  | none =>
    simp only [CustodyState.applyReceipt, lookup]
    exact invariant
  | some stored =>
    have recorded := invariant.recorded receipt.identity.requestId
    rw [lookup, bind_some] at recorded
    simp only [CustodyState.applyReceipt, lookup]
    rcases applyOwnedNodeReceipt_run hashing receipt fence now stored with
      ⟨kept, error, raised⟩ | ⟨⟨updated, returned⟩, prior, bound, same,
        ⟨kept, replay⟩ | ⟨written, newer⟩⟩
    · -- Refused: the record shows what it showed.
      rw [raised, if_pos (receiptNumber_congr kept)]
      exact invariant.putRecord (by rw [kept]; exact recorded)
    · -- An exact replay: only after a crash that lost the cursor write.
      have reached := invariant.receiptSequence_le lookup bound
      have ahead := invariant.ahead
      rw [returned, if_pos (receiptNumber_congr kept)]
      refine (invariant.putRecord (by rw [kept]; exact recorded)).putPending ?_ ?_
      · exact commits.trans next
      · change state.applied.length = state.central + 1
        omega
    · -- A new receipt: were the history ahead, the record would show it already.
      have level : state.applied.length = state.central := by
        have behind := invariant.behind
        have ahead := invariant.ahead
        by_contra different
        have last : receipt.receiptSequence = state.applied.length := by omega
        have shown := invariant.receiptSequence_of_last found last lookup bound
        omega
      have number : receiptNumber
          ((applyOwnedNodeReceipt hashing receipt fence now).run stored).1 ≠
          receiptNumber stored := by
        unfold receiptNumber
        rw [written, bound]
        exact Nat.ne_of_gt newer
      rw [returned, if_neg number]
      refine (invariant.putApplied found (by omega) idle level same written).putPending ?_ ?_
      · exact commits.trans next
      · change (state.applied ++ [receipt]).length = state.central + 1
        rw [length_append, length_singleton, level]

theorem putAck {cursor : Cursor} (messageId : String) (connection : ConnectionIdentity)
    (reached : cursor.sequence ≤ state.central) :
    CustodyInvariant hashing
      { state with acksSent := state.acksSent ++ [cursor.ackFrame messageId connection] } := by
  refine { invariant with acks := ?_ }
  refine forall_mem_snoc invariant.acks ?_
  rintro _ _ _ _ _ ⟨⟩
  exact reached

theorem putCursor (due : state.pending = some committed) :
    CustodyInvariant hashing { state with cursor := some committed, pending := none } := by
  obtain ⟨next, ahead⟩ := invariant.pending committed due
  have moved : cursorSequence (some committed) = state.central + 1 := next
  refine { invariant with
    acks := ?_, acked := ?_, behind := ?_, ahead := ?_, pending := ?_ }
  · intro frame member server log generation sequence digest payload
    have bound := invariant.acks frame member server log generation sequence digest payload
    change sequence ≤ cursorSequence (some committed)
    omega
  · have acked := invariant.acked
    change state.node.checkpoint.throughSequence ≤ cursorSequence (some committed)
    omega
  · change cursorSequence (some committed) ≤ state.applied.length
    omega
  · change state.applied.length ≤ cursorSequence (some committed) + 1
    omega
  · intro cursor member
    cases member

theorem dropPending : CustodyInvariant hashing { state with pending := none } := by
  refine { invariant with pending := ?_ }
  intro cursor member
  cases member

theorem accept {message : Nat} {access : CustodyAccess} {fence : NodeFence}
    {gatewayOwnerEpoch messageId : String} {connection : ConnectionIdentity} {now : Timestamp} :
    CustodyInvariant hashing (state.accept hashing owner message access fence gatewayOwnerEpoch
      messageId connection now) := by
  unfold CustodyState.accept
  split
  next logIncarnationId receipt idle delivered =>
    have found : state.node.receipt? receipt.receiptSequence = some receipt :=
      invariant.sent (logIncarnationId, receipt) (mem_of_getElem? delivered)
    split
    next => exact invariant
    next cursor planned =>
      obtain ⟨_, ⟨impossible, _⟩ | ⟨stored, file, same⟩⟩ := Checkpoints.plan_ok planned
      · cases impossible
      cases same
      refine invariant.putAck messageId connection ?_
      rw [CustodyState.central, file]
      exact Nat.le_refl _
    next planned =>
      obtain ⟨_, ⟨_, next⟩ | ⟨_, _, impossible⟩⟩ := Checkpoints.plan_ok planned
      · exact invariant.applyReceipt idle found next rfl
      · cases impossible
  next => exact invariant

theorem writeCursor (outcome : CursorWrite) :
    CustodyInvariant hashing (state.writeCursor outcome) := by
  unfold CustodyState.writeCursor
  split
  next => exact invariant
  next committed messageId connection due =>
    exact (invariant.putCursor due).putAck messageId connection (Nat.le_refl _)
  next committed replaced due =>
    cases replaced with
    | true => exact { invariant.putCursor due with }
    | false => exact { invariant.dropPending with }

theorem crash (replaced : Bool) :
    CustodyInvariant hashing (custodyStep sha256 projections hashing owner state
      (.crash replaced)) := by
  simp only [custodyStep]
  cases due : state.pending with
  | none =>
    cases replaced <;> exact { invariant.dropPending with }
  | some committed =>
    cases replaced with
    | true => exact { invariant.putCursor due with }
    | false => exact { invariant.dropPending with }

theorem send : CustodyInvariant hashing (state.send hashing) := by
  unfold CustodyState.send
  split
  next checkpoint _ =>
    split
    next receipt found =>
      split
      · refine { invariant with sent := ?_ }
        refine forall_mem_snoc invariant.sent ?_
        · change state.node.receipt? receipt.receiptSequence = some receipt
          rw [receiptSequence_of_receipt? found]
          exact found
      · exact invariant
    next => exact invariant
  next => exact invariant

theorem resume (access : CustodyAccess) :
    CustodyInvariant hashing (state.resume hashing owner access) := by
  unfold CustodyState.resume
  split
  next =>
    split
    next =>
      split
      · exact { invariant with }
      · exact invariant
    next => exact invariant
  next => exact invariant

/-- **Every step of the system keeps the custody invariant.** -/
theorem step (action : CustodyAction) :
    CustodyInvariant hashing (custodyStep sha256 projections hashing owner state action) := by
  cases action with
  | nodeCall issued =>
    simp only [custodyStep]
    split
    next delivered => exact invariant.nodeCall delivered
    next => exact invariant
  | reconnect => exact { invariant with }
  | resume access => exact invariant.resume access
  | send => exact invariant.send
  | admitRequest requestId admission metadata warnings sessionId =>
    simp only [custodyStep]
    cases lookup : state.records requestId with
    | some _ => exact invariant
    | none =>
      have recorded := invariant.recorded requestId
      rw [lookup] at recorded
      exact invariant.putRecord recorded
  | storeCall requestId op =>
    simp only [custodyStep]
    split
    next stored silent lookup =>
      have recorded := invariant.recorded requestId
      rw [lookup, bind_some] at recorded
      exact invariant.putRecord (recorded.storeStep silent)
    next => exact invariant
  | accept => exact invariant.accept
  | writeCursor outcome => exact invariant.writeCursor outcome
  | crash replaced => exact invariant.crash replaced

end CustodyInvariant

/-! ## Cursors and history only advance -/

/-- What one step does to the cursors and the history. -/
structure CustodyMove (state next : CustodyState) : Prop where
  cursor : next.cursor = state.cursor ∨ (state.pending ≠ none ∧ next.cursor = state.pending)
  acked : state.node.checkpoint.throughSequence ≤ next.node.checkpoint.throughSequence
  applied : state.applied <+: next.applied

namespace CustodyMove

theorem refl (state : CustodyState) : CustodyMove state state :=
  ⟨.inl rfl, Nat.le_refl _, prefix_rfl⟩

theorem putCursor (due : state.pending = some committed) :
    CustodyMove state { state with cursor := some committed } := by
  refine ⟨.inr ⟨?_, due.symm⟩, Nat.le_refl _, prefix_rfl⟩
  rw [due]
  exact some_ne_none committed

theorem applyReceipt {fence : NodeFence} {now : Timestamp} :
    CustodyMove state (state.applyReceipt hashing receipt fence committed now) := by
  have grows : ∀ unchanged : Prop, [Decidable unchanged] →
      state.applied <+: if unchanged then state.applied else state.applied ++ [receipt] := by
    intro unchanged _
    split
    · exact prefix_rfl
    · exact prefix_append _ _
  unfold CustodyState.applyReceipt
  split
  · exact refl state
  · dsimp only
    split <;> exact ⟨.inl rfl, Nat.le_refl _, grows _⟩

theorem nodeCall (issued : IssuedCall) :
    CustodyMove state { state with node := receiptStep sha256 hashing state.node issued } := by
  refine ⟨.inl rfl, ?_, prefix_rfl⟩
  have effect := @receiptStep_effect sha256 hashing state.node issued
  rcases effect.checkpoint with kept | ⟨ahead, _⟩
  · exact Nat.le_of_eq (congrArg CheckpointRow.throughSequence kept.symm)
  · exact Nat.le_of_lt ahead

theorem step (action : CustodyAction) :
    CustodyMove state (custodyStep sha256 projections hashing owner state action) := by
  cases action with
  | nodeCall issued =>
    simp only [custodyStep]
    split
    · exact nodeCall issued
    · exact refl state
  | reconnect => exact { refl state with }
  | resume access =>
    simp only [custodyStep, CustodyState.resume]
    repeat' split
    all_goals exact { refl state with }
  | send =>
    simp only [custodyStep, CustodyState.send]
    repeat' split
    all_goals exact { refl state with }
  | admitRequest | storeCall =>
    simp only [custodyStep]
    split <;> exact { refl state with }
  | accept message access fence gatewayOwnerEpoch messageId connection now =>
    simp only [custodyStep, CustodyState.accept]
    split
    · split
      · exact refl state
      · exact { refl state with }
      · exact applyReceipt
    · exact refl state
  | writeCursor outcome =>
    simp only [custodyStep, CustodyState.writeCursor]
    split
    next => exact refl state
    next committed _ _ due => exact { putCursor due with }
    next committed replaced due =>
      cases replaced with
      | true => exact { putCursor due with }
      | false => exact { refl state with }
  | crash replaced =>
    simp only [custodyStep]
    cases due : state.pending with
    | none => cases replaced <;> exact { refl state with }
    | some committed =>
      cases replaced with
      | true => exact { putCursor due with }
      | false => exact { refl state with }

end CustodyMove

structure CustodyAdvance (earlier later : CustodyState) : Prop where
  acked : earlier.node.checkpoint.throughSequence ≤ later.node.checkpoint.throughSequence
  central : earlier.central ≤ later.central
  applied : earlier.applied <+: later.applied

theorem CustodyAdvance.trans {first second third : CustodyState}
    (one : CustodyAdvance first second) (two : CustodyAdvance second third) :
    CustodyAdvance first third :=
  ⟨Nat.le_trans one.acked two.acked, Nat.le_trans one.central two.central,
    one.applied.trans two.applied⟩

/-! ## Custody of whole runs -/

/-- The canonical record of the receipt with this number shows it. -/
def Shown (hashing : Hashing) (state : CustodyState) (sequence : Nat) : Prop :=
  ∃ receipt record dispatch, state.node.receipt? sequence = some receipt ∧
    state.records receipt.identity.requestId = some record ∧
    record.nodeDispatch = some dispatch ∧ dispatch.identity = receipt.identity ∧
    dispatch.receiptSequence = sequence ∧
    dispatch.receiptSha256 = some (hashing.receipt receipt)

namespace CustodyInvariant

variable (invariant : CustodyInvariant hashing state)
include invariant

theorem shown_last (nonempty : 0 < state.applied.length) :
    Shown hashing state state.applied.length := by
  rcases eq_nil_or_concat state.applied with empty | ⟨before, last, split⟩
  · rw [empty] at nonempty
    exact absurd nonempty (by decide)
  rw [concat_eq_append] at split
  have found := invariant.receipt?_of_split split
  have recorded := invariant.recorded last.identity.requestId
  rw [split, lastApplied_append_self] at recorded
  cases lookup : state.records last.identity.requestId with
  | none =>
    rw [lookup] at recorded
    cases recorded
  | some record =>
    rw [lookup, bind_some] at recorded
    cases bound : record.nodeDispatch with
    | none =>
      rw [bound] at recorded
      cases recorded
    | some dispatch =>
      rw [bound] at recorded
      refine ⟨last, record, dispatch, found, lookup, bound, recorded.1, ?_, recorded.2.2.1⟩
      rw [recorded.2.1]
      exact receiptSequence_of_receipt? found

/-- The central cursor moves by one, to a receipt that is already shown, or not at all. -/
theorem central_step {next : CustodyState} (move : CustodyMove state next) :
    next.central = state.central ∨
      (next.central = state.central + 1 ∧ Shown hashing state (state.central + 1)) := by
  rcases move.cursor with kept | ⟨due, moved⟩
  · exact .inl (congrArg cursorSequence kept)
  obtain ⟨committed, pending⟩ := ne_none_iff_exists'.mp due
  obtain ⟨sequence, ahead⟩ := invariant.pending committed pending
  have shown := invariant.shown_last (by omega)
  rw [ahead] at shown
  refine .inr ⟨?_, shown⟩
  rw [CustodyState.central, moved, pending]
  exact sequence

theorem advance {next : CustodyState} (move : CustodyMove state next) :
    CustodyAdvance state next := by
  refine ⟨move.acked, ?_, move.applied⟩
  rcases invariant.central_step move with kept | ⟨moved, _⟩
  · exact Nat.le_of_eq kept.symm
  · rw [moved]
    exact Nat.le_succ _

end CustodyInvariant

/-- **Receipt custody end to end.**  From a new system, in every run and at every point of it:
the local ACK is behind the central cursor and the cursor within the log; both cursors and the
history only advance; the next step moves the cursor by one, to a receipt its canonical record
already shows, or not at all; and the receipts that took effect are, in order and once each,
the rows of the log up to the cursor or to one beyond it, and what each record shows is the
last of them for its request. -/
theorem receipt_custody (sha256 : List UInt8 → String) (projections : Projections)
    (hashing : Hashing) (owner : Checkpoints) (scope : OwnerScope) (logIncarnationId : String)
    (first second : List CustodyAction) :
    let step := custodyStep sha256 projections hashing owner
    let earlier := exec step (.initial scope logIncarnationId) first
    let later := exec step earlier second
    (later.node.checkpoint.throughSequence ≤ later.central ∧
        later.central ≤ later.node.outbox.length) ∧
      CustodyAdvance earlier later ∧
      (∀ action, (step later action).central = later.central ∨
        ((step later action).central = later.central + 1 ∧
          Shown hashing later (later.central + 1))) ∧
      (later.applied.length = later.central ∨ later.applied.length = later.central + 1) ∧
      later.applied.map some = (List.range' 1 later.applied.length).map later.node.receipt? ∧
      ∀ requestId, Recorded hashing ((later.records requestId).bind Record.nodeDispatch)
        (lastApplied later.applied requestId) := by
  intro step earlier later
  have preserved : ∀ state action, CustodyInvariant hashing state →
      CustodyInvariant hashing (step state action) := fun _ action holds => holds.step action
  have reached : CustodyInvariant hashing earlier :=
    exec_invariant preserved (initial_custodyInvariant scope logIncarnationId) first
  have invariant : CustodyInvariant hashing later := exec_invariant preserved reached second
  have advance : CustodyAdvance earlier later :=
    exec_relates (fun _ => ⟨Nat.le_refl _, Nat.le_refl _, prefix_rfl⟩)
      (fun _ _ _ one two => one.trans two) preserved
      (fun _ action holds => holds.advance (.step action)) reached second
  refine ⟨⟨invariant.acked, ?_⟩, advance, ?_, ?_, invariant.history, invariant.recorded⟩
  · exact Nat.le_trans invariant.behind invariant.applied_length_le
  · intro action
    exact invariant.central_step (.step action)
  · have behind := invariant.behind
    have ahead := invariant.ahead
    omega

end Audiagentic.Node
