import Audiagentic.Node.ReceiptStore

/-!
# Central receipt custody

The gateway's side of the receipt log: `NodeReceiptCheckpoints` owns one cursor
file for a node and accepts exactly the next receipt, after the canonical record
has it.  The two durable writes of `accept` are two steps here, with the plan
that leads to them in between.
-/

namespace Audiagentic.Node

open Foundations Gateway

def conflictBecause (reason message : String) : GatewayError :=
  { conflict message with details := [("reason_code", .text reason)] }

structure Cursor where
  serverId : String
  nodeId : String
  logIncarnationId : String
  sequence : Nat
  receiptSha256 : String
  gatewayOwnerEpoch : String
deriving DecidableEq

/-- `NodeReceiptCheckpoints`: the stream owner of one node. -/
structure Checkpoints where
  serverId : String
  nodeId : String

def cursorSequence (cursor : Option Cursor) : Nat :=
  (cursor.map Cursor.sequence).getD 0

/-- `_read` on an existing file. -/
def Checkpoints.readCursor (owner : Checkpoints) (cursor : Cursor) :
    Except GatewayError Unit := do
  refuse (isIdentifier cursor.serverId = false ∨ isIdentifier cursor.nodeId = false ∨
      isIdentifier cursor.gatewayOwnerEpoch = false)
    (invalid "Invalid node contract identifier")
  refuse (isLogId cursor.logIncarnationId = false)
    (invalid "Receipt log identity must be a canonical UUID v4")
  refuse (isContractInteger cursor.sequence = false) (invalid "Invalid node contract integer")
  refuse (isSha256Hex cursor.receiptSha256 = false)
    (invalid "Receipt digest must be a lowercase SHA256")
  refuse (cursor.serverId ≠ owner.serverId ∨ cursor.nodeId ≠ owner.nodeId)
    (conflict "Central receipt checkpoint targets another server or node")

def Checkpoints.read (owner : Checkpoints) (readable : Except GatewayError Unit)
    (file : Option Cursor) : Except GatewayError (Option Cursor) := do
  readable
  match file with
  | none => return none
  | some cursor => do
    owner.readCursor cursor
    return some cursor

/-- What surrounds a call of the stream owner: the service guard and the cursor's file. -/
structure CustodyAccess where
  /-- `owner_guard(expected_epoch)`. -/
  guarded : Except GatewayError Unit
  readable : Except GatewayError Unit

/-- The checks of `accept` before the service guard is taken. -/
def acceptArguments (owner : Checkpoints) (receipt : PublicReceipt) (logIncarnationId : String) :
    Except GatewayError Unit := do
  refuse (isLogId logIncarnationId = false)
    (invalid "Receipt log identity must be a canonical UUID v4")
  refuse (isContractInteger receipt.receiptSequence = false)
    (invalid "Invalid node contract integer")
  refuse (receipt.identity.nodeId ≠ owner.nodeId) (conflict "Receipt targets another node")
  match receipt.state with
  | .terminal =>
    refuse (∀ digest ∈ receipt.outputSha256, isSha256Hex digest = false)
      (invalid "Receipt digest must be a lowercase SHA256")
  | _ =>
    refuse (receipt.outputSha256 ≠ none)
      (invalid "Nonterminal receipt cannot contain an output digest")

def Checkpoints.openStream (owner : Checkpoints) (access : CustodyAccess) (poisoned : Bool)
    (file : Option Cursor) (logIncarnationId : String) :
    Except GatewayError (Option Cursor) := do
  access.guarded
  refuse (poisoned = true) (conflictBecause "receipt-custody-uncertain"
    "Receipt custody is uncertain; restart the stream owner")
  let cursor ← owner.read access.readable file
  refuse (∃ stored ∈ cursor, stored.logIncarnationId ≠ logIncarnationId)
    (conflictBecause "receipt-log-changed" "Unknown receipt log incarnation; custody cannot reset")
  return cursor

/-- What `accept` does with a receipt: repeat the current ACK, or apply the next one. -/
inductive AcceptPlan where
  | repeatAck (cursor : Cursor)
  | applyNext

variable (hashing : Hashing)

/-- The decision of `accept`, under the guard. -/
def Checkpoints.plan (owner : Checkpoints) (access : CustodyAccess) (poisoned : Bool)
    (file : Option Cursor) (receipt : PublicReceipt) (logIncarnationId : String) :
    Except GatewayError AcceptPlan := do
  acceptArguments owner receipt logIncarnationId
  let cursor ← owner.openStream access poisoned file logIncarnationId
  match cursor with
  | some stored =>
    if receipt.receiptSequence ≤ stored.sequence then do
      refuse (receipt.receiptSequence = stored.sequence ∧
          hashing.receipt receipt ≠ stored.receiptSha256)
        (conflictBecause "receipt-cursor-mismatch" "Latest receipt replay digest changed")
      return .repeatAck stored
    else do
      refuse (receipt.receiptSequence ≠ stored.sequence + 1)
        (conflictBecause "receipt-stream-gap"
          "Receipt stream has a gap; expected the next sequence")
      return .applyNext
  | none => do
    refuse (receipt.receiptSequence ≠ 1)
      (conflictBecause "receipt-stream-gap" "Receipt stream has a gap; expected the next sequence")
    return .applyNext

/-- The cursor that `accept` writes after the canonical write of the receipt. -/
def Checkpoints.committed (owner : Checkpoints) (receipt : PublicReceipt)
    (logIncarnationId gatewayOwnerEpoch : String) : Cursor where
  serverId := owner.serverId
  nodeId := owner.nodeId
  logIncarnationId
  sequence := receipt.receiptSequence
  receiptSha256 := hashing.receipt receipt
  gatewayOwnerEpoch

/-- `ReceiptAcknowledgement.payload`, wrapped in a frame of the live connection. -/
def Cursor.ackFrame (cursor : Cursor) (messageId : String) (connection : ConnectionIdentity) :
    Frame :=
  connection.frame .reconcileResult messageId
    (.receiptAck cursor.serverId cursor.logIncarnationId connection.connectionGeneration
      cursor.sequence cursor.receiptSha256)

def Checkpoints.resumeCursor (owner : Checkpoints) (access : CustodyAccess) (poisoned : Bool)
    (file : Option Cursor) (logIncarnationId : String) :
    Except GatewayError (Nat × Option String) := do
  refuse (isLogId logIncarnationId = false)
    (invalid "Receipt log identity must be a canonical UUID v4")
  let cursor ← owner.openStream access poisoned file logIncarnationId
  return (cursorSequence cursor, cursor.map Cursor.receiptSha256)

/-! ## What a plan says -/

variable {hashing} {owner : Checkpoints} {access : CustodyAccess} {poisoned : Bool}
  {file : Option Cursor} {receipt : PublicReceipt} {logIncarnationId : String}

theorem Checkpoints.read_ok {readable : Except GatewayError Unit} {cursor : Option Cursor}
    (success : owner.read readable file = .ok cursor) : cursor = file := by
  simp only [Checkpoints.read, bind_eq_ok] at success
  obtain ⟨_, _, success⟩ := success
  split at success
  next =>
    cases success
    rfl
  next =>
    simp only [bind_eq_ok] at success
    obtain ⟨_, _, same⟩ := success
    cases same
    rfl

theorem Checkpoints.openStream_ok {cursor : Option Cursor}
    (success : owner.openStream access poisoned file logIncarnationId = .ok cursor) :
    cursor = file ∧ poisoned = false := by
  simp only [Checkpoints.openStream, bind_eq_ok, refuse_eq_ok, exists_const,
    Bool.not_eq_true] at success
  obtain ⟨_, _, clean, _, read, _, same⟩ := success
  cases same
  exact ⟨Checkpoints.read_ok read, clean⟩

/-- The plan follows the cursor: an older or equal receipt repeats the ACK, and only the next
one is applied. -/
theorem Checkpoints.plan_ok {plan : AcceptPlan}
    (success : owner.plan hashing access poisoned file receipt logIncarnationId = .ok plan) :
    poisoned = false ∧
      ((plan = .applyNext ∧ receipt.receiptSequence = cursorSequence file + 1) ∨
        ∃ cursor, file = some cursor ∧ plan = .repeatAck cursor) := by
  simp only [Checkpoints.plan, bind_eq_ok] at success
  obtain ⟨_, _, cursor, opened, success⟩ := success
  obtain ⟨rfl, clean⟩ := Checkpoints.openStream_ok opened
  refine ⟨clean, ?_⟩
  split at success
  next stored =>
    split at success
    · simp only [refuse_bind_eq_ok] at success
      cases success.2
      exact .inr ⟨stored, rfl, rfl⟩
    simp only [refuse_bind_eq_ok, not_not] at success
    obtain ⟨next, same⟩ := success
    cases same
    exact .inl ⟨rfl, next⟩
  next =>
    simp only [refuse_bind_eq_ok, not_not] at success
    obtain ⟨first, same⟩ := success
    cases same
    exact .inl ⟨rfl, first⟩

end Audiagentic.Node
