import Audiagentic.Gateway.NodeProtocol
import Audiagentic.Node.Checkpoints
import Audiagentic.Node.ReceiptRuns

/-!
# Receipt custody end to end

One node with its receipt database, one gateway with its cursor file and its
canonical records, and the channel between them.  Messages are never removed from
the channel, so a delivery may be late, repeated or never made.  The canonical
write of a receipt and the write of the cursor are separate steps; between them
anything else may happen, a crash included.
-/

namespace Audiagentic.Node

open Foundations Gateway

/-! ## The system -/

/-- The durable state of both sides, what is in flight, and what the owners hold in memory. -/
structure CustodyState where
  node : Database
  receiptsSent : List (String × PublicReceipt)
  acksSent : List Frame
  resumed : Bool
  cursor : Option Cursor
  records : String → Option Record
  /-- The stream owner saw a failed cursor write. -/
  poisoned : Bool
  /-- An accepted receipt whose cursor is not written yet. -/
  pending : Option Cursor
  /-- History: the receipts whose application changed a canonical record, in order. -/
  applied : List PublicReceipt

def CustodyState.central (state : CustodyState) : Nat :=
  cursorSequence state.cursor

/-- A new system: an empty log, no cursor and no records. -/
def CustodyState.initial (scope : OwnerScope) (logIncarnationId : String) : CustodyState where
  node := Database.initial scope logIncarnationId
  receiptsSent := []
  acksSent := []
  resumed := false
  cursor := none
  records := fun _ => none
  poisoned := false
  pending := none
  applied := []

inductive CursorWrite where
  | returned (messageId : String) (connection : ConnectionIdentity)
  /-- It raises; the file may have been replaced or not. -/
  | raised (replaced : Bool)

inductive CustodyAction where
  /-- A method of the node's receipt store; an ACK only if it was sent. -/
  | nodeCall (issued : IssuedCall)
  /-- A new connection: the sender has to resume, and the stream owner is rebuilt. -/
  | reconnect
  /-- `receipt-resume` and its reply. -/
  | resume (access : CustodyAccess)
  | send
  | admitRequest (requestId : String) (admission : Admission) (metadata : Doc) (warnings : List Doc)
      (sessionId : Option String)
  /-- Any operation of the request store that does not carry a receipt. -/
  | storeCall (requestId : String) (op : StoreOp)
  /-- A receipt that was sent arrives, and its target resolves to these fences. -/
  | accept (message : Nat) (access : CustodyAccess) (fence : NodeFence)
      (gatewayOwnerEpoch messageId : String) (connection : ConnectionIdentity) (now : Timestamp)
  | writeCursor (outcome : CursorWrite)
  /-- The gateway stops; a cursor write under way is complete or not begun. -/
  | crash (replaced : Bool)

def receiptNumber (record : Record) : Nat :=
  (record.nodeDispatch.map NodeDispatch.receiptSequence).getD 0

/-- The check of `_cursor_row`: the cursor names a receipt of the local log. -/
def Database.hasCursorRow (hashing : Hashing) (db : Database) (sequence : Nat)
    (digest : Option String) : Bool :=
  match sequence with
  | 0 => digest.isNone
  | sequence + 1 => decide ((db.receipt? (sequence + 1)).map hashing.receipt = digest) &&
      digest.isSome

def CustodyState.putRecord (state : CustodyState) (requestId : String) (record : Record) :
    CustodyState :=
  { state with
    records := fun other => if other = requestId then some record else state.records other }

/-- An ACK is delivered only if it was sent. -/
def CustodyState.delivers (state : CustodyState) (call : ReceiptCall) : Bool :=
  match call with
  | .acknowledge frame _ _ => decide (frame ∈ state.acksSent)
  | _ => true

section Step

variable (sha256 : List UInt8 → String) (projections : Projections) (hashing : Hashing)
  (owner : Checkpoints)

/-- `_resume` of the sender, with the reply the gateway computes. -/
def CustodyState.resume (state : CustodyState) (access : CustodyAccess) : CustodyState :=
  match state.pending, state.node.readCheckpoint hashing with
  | none, .ok checkpoint =>
    match owner.resumeCursor access state.poisoned state.cursor checkpoint.logIncarnationId with
    | .ok (sequence, digest) =>
      if checkpoint.row.throughSequence ≤ sequence ∧
          state.node.hasCursorRow hashing sequence digest = true then
        { state with resumed := true }
      else state
    | .error _ => state
  | _, _ => state

def CustodyState.send (state : CustodyState) : CustodyState :=
  match state.node.readCheckpoint hashing with
  | .ok checkpoint =>
    match state.node.receipt? (checkpoint.row.throughSequence + 1) with
    | some receipt =>
      if state.resumed = true ∧ receipt.identity.nodeId = state.node.owner.scope.nodeId then
        { state with
          receiptsSent := state.receiptsSent ++ [(checkpoint.logIncarnationId, receipt)] }
      else state
    | none => state
  | .error _ => state

/-- The canonical write of `accept`, and its effect on the history. -/
def CustodyState.applyReceipt (state : CustodyState) (receipt : PublicReceipt)
    (fence : NodeFence) (committed : Cursor) (now : Timestamp) : CustodyState :=
  match state.records receipt.identity.requestId with
  | none => state
  | some stored =>
    let call := (applyOwnedNodeReceipt hashing receipt fence now).run stored
    let written :=
      { state.putRecord receipt.identity.requestId call.1 with
        applied := if receiptNumber call.1 = receiptNumber stored then state.applied
          else state.applied ++ [receipt] }
    match call.2 with
    | .ok _ => { written with pending := some committed }
    | .error _ => written

/-- `accept`, up to the cursor write.  The service guard keeps a second one out. -/
def CustodyState.accept (state : CustodyState) (message : Nat) (access : CustodyAccess)
    (fence : NodeFence) (gatewayOwnerEpoch messageId : String) (connection : ConnectionIdentity)
    (now : Timestamp) : CustodyState :=
  match state.pending, state.receiptsSent[message]? with
  | none, some (logIncarnationId, receipt) =>
    match owner.plan hashing access state.poisoned state.cursor receipt logIncarnationId with
    | .error _ => state
    | .ok (.repeatAck cursor) =>
      { state with acksSent := state.acksSent ++ [cursor.ackFrame messageId connection] }
    | .ok .applyNext =>
      state.applyReceipt hashing receipt fence
        (owner.committed hashing receipt logIncarnationId gatewayOwnerEpoch) now
  | _, _ => state

def CustodyState.writeCursor (state : CustodyState) (outcome : CursorWrite) : CustodyState :=
  match state.pending, outcome with
  | none, _ => state
  | some committed, .returned messageId connection =>
    { state with
      cursor := some committed
      pending := none
      acksSent := state.acksSent ++ [committed.ackFrame messageId connection] }
  | some committed, .raised replaced =>
    { state with
      cursor := if replaced then some committed else state.cursor
      pending := none
      poisoned := true }

def custodyStep (state : CustodyState) : CustodyAction → CustodyState
  | .nodeCall issued =>
    if state.delivers issued.call then
      { state with node := receiptStep sha256 hashing state.node issued }
    else state
  | .reconnect => { state with resumed := false, poisoned := false }
  | .resume access => state.resume hashing owner access
  | .send => state.send hashing
  | .admitRequest requestId admission metadata warnings sessionId =>
    match state.records requestId with
    | some _ => state
    | none =>
      state.putRecord requestId
        (buildRecord { admission with requestId } metadata warnings sessionId)
  | .storeCall requestId op =>
    match op.receipt?, state.records requestId with
    | none, some stored =>
      state.putRecord requestId (storeStep projections hashing stored op)
    | _, _ => state
  | .accept message access fence gatewayOwnerEpoch messageId connection now =>
    state.accept hashing owner message access fence gatewayOwnerEpoch messageId connection now
  | .writeCursor outcome => state.writeCursor outcome
  | .crash replaced =>
    { state with
      cursor := if replaced then state.pending.orElse fun _ => state.cursor else state.cursor
      pending := none
      poisoned := false
      resumed := false }

end Step

end Audiagentic.Node
