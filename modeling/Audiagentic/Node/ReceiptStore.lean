import Audiagentic.Foundations.Transactions
import Audiagentic.Node.Frames

/-!
# The node receipt store

`NodeReceiptStore` keeps the effect state of every command of one node: a row for
each command, an append-only outbox of receipts, the owner row that names the
current epochs and the cursor of acknowledged custody.  Every method is one
SQLite transaction over this database.

What surrounds a call (whether the file can be opened, whether the commit
succeeds, what the private output directory holds) is part of the call: it is
different for every call, and nothing is assumed about it.
-/

namespace Audiagentic.Node

open Foundations Gateway

/-! ## The tables -/

/-- `artifact_kind`. -/
inductive ArtifactKind where
  | nativePlaintext
  | workerTerminalResult
deriving DecidableEq

/-- A row of `commands`. -/
structure CommandRow where
  command : String
  identity : CommandIdentity
  payload : List UInt8
  state : ReceiptStage
  nativeRef : Option String
  outputDigest : Option String
  sequence : Nat
  authorizationId : Option String
  artifactKind : Option ArtifactKind

/-- A row of `outbox`. -/
structure OutboxRow where
  sequence : Nat
  command : String
  state : ReceiptStage
  outputDigest : Option String

/-- The row of `owner`. -/
structure OwnerRow where
  scope : OwnerScope
  logIncarnationId : String

/-- The row of `receipt_checkpoint`. -/
structure CheckpointRow where
  serverId : Option String
  throughSequence : Nat
  throughDigest : Option String

/-- The database.  `lastRowid` is the outbox's entry of `sqlite_sequence`: the largest row id
the table ever had. -/
structure Database where
  owner : OwnerRow
  commands : List CommandRow
  outbox : List OutboxRow
  lastRowid : Nat
  checkpoint : CheckpointRow

/-- `_create_schema` and the owner row of a new store. -/
def Database.initial (scope : OwnerScope) (logIncarnationId : String) : Database where
  owner := ⟨scope, logIncarnationId⟩
  commands := []
  outbox := []
  lastRowid := 0
  checkpoint := ⟨none, 0, none⟩

namespace Database

variable (db : Database)

/-- `SELECT … FROM commands WHERE command=?`. -/
def command? (command : String) : Option CommandRow :=
  db.commands.find? (fun row => row.command = command)

/-- `UPDATE commands SET … WHERE command=?`. -/
def updateCommand (command : String) (set : CommandRow → CommandRow) : Database :=
  { db with commands := db.commands.map fun row => if row.command = command then set row else row }

/-- `INSERT INTO commands(…) VALUES (…,'prepared',0)`. -/
def insertCommand (identity : CommandIdentity) (payload : List UInt8) : Database :=
  { db with
    commands := db.commands ++
      [{  command := identity.commandId
          identity
          payload
          state := .prepared
          nativeRef := none
          outputDigest := none
          sequence := 0
          authorizationId := none
          artifactKind := none }] }

/-- `INSERT INTO outbox(command,state,output_digest)`: AUTOINCREMENT takes one more than the
largest row id ever used. -/
def insertOutbox (command : String) (state : ReceiptStage) (outputDigest : Option String) :
    Database :=
  { db with
    outbox := db.outbox ++ [⟨db.lastRowid + 1, command, state, outputDigest⟩]
    lastRowid := db.lastRowid + 1 }

/-- The two writes of `_append`. -/
def append (command : String) (state : ReceiptStage) (outputDigest : Option String) : Database :=
  (db.insertOutbox command state outputDigest).updateCommand command fun row =>
    { row with state, sequence := db.lastRowid + 1, outputDigest }

def entries (command : String) : List OutboxRow :=
  db.outbox.filter fun entry => entry.command = command

end Database

/-! ## The surroundings of a call -/

structure OutputDirectory where
  /-- `mkdir` and the redirect check. -/
  usable : Except GatewayError Unit
  /-- `output.exists()`. -/
  contains : String → Bool
  bytes : String → Except GatewayError (List UInt8)
  /-- `atomic_write_bytes` and the sync of the directory. -/
  written : Except GatewayError Unit

structure Storage where
  /-- The lock, the connection and its pragmas. -/
  opened : Except GatewayError Unit
  /-- `COMMIT`. -/
  committed : Except GatewayError Unit
  /-- `db.close()` and the release of the lock, after the transaction has ended. -/
  released : Except GatewayError Unit
  outputs : OutputDirectory

/-- `build_worker_terminal_output` and `parse_worker_terminal_output` for the preparation and
the proof that the call carries: the envelope's canonical bytes from the stored payload, and
the check of an existing artifact. -/
structure WorkerProof where
  build : CommandIdentity → List UInt8 → Except GatewayError (List UInt8)
  parse : List UInt8 → CommandIdentity → Option String → Except GatewayError Unit

/-- `_transaction` raises this for every failure of the database or a file. -/
def persistenceFailed : GatewayError where
  code := "IO-AGND-001"
  kind := "agents-node"
  message := "Node receipt persistence failed; effect outcome must be reconciled"

abbrev Statement (α : Type) : Type := Script GatewayError Database α

/-- `_transaction`.  A failure of the release is raised although `COMMIT` has succeeded. -/
def Storage.transaction {α : Type} (storage : Storage) (body : Statement α) : Statement α :=
  Script.releasing storage.released (Script.transaction do
    Script.check storage.opened
    let value ← body
    Script.check storage.committed
    return value)

section Methods

variable (sha256 : List UInt8 → String)

/-- `_read_output`: the artifact's bytes, checked against the digest and for UTF-8. -/
def OutputDirectory.readOutput (outputs : OutputDirectory) (digest : Option String) :
    Except GatewayError (List UInt8) :=
  match digest with
  | none => .error (conflict "Invalid private output digest")
  | some digest => do
    refuse (isSha256Hex digest = false) (conflict "Invalid private output digest")
    let raw ← outputs.bytes digest
    refuse (sha256 raw ≠ digest) (conflict "Private terminal output digest mismatch")
    refuse (String.fromUTF8? ⟨raw.toArray⟩ = none) persistenceFailed
    return raw

def OutputDirectory.persistOutput (outputs : OutputDirectory) (digest : String) :
    Except GatewayError Unit := do
  outputs.usable
  if outputs.contains digest then do
    let _ ← outputs.readOutput sha256 (some digest)
    return ⟨⟩
  else outputs.written

/-- `_require_current` without an identity. -/
def requireCurrentScope (scope : OwnerScope) : Statement Unit := do
  let db ← Script.read
  Script.check (refuse (db.owner.scope ≠ scope)
    (conflict "Stale node or gateway epoch is evidence-only"))

def requireCurrent (scope : OwnerScope) (identity : CommandIdentity) : Statement Unit := do
  let db ← Script.read
  Script.check (refuse (db.owner.scope ≠ scope ∨ commandScope identity ≠ scope)
    (conflict "Stale node or gateway epoch is evidence-only"))

/-- `_row`. -/
def selectRow (identity : CommandIdentity) : Statement CommandRow := do
  let db ← Script.read
  match db.command? identity.commandId with
  | none => Script.check (.error (conflict "Command has not been prepared"))
  | some row => do
    Script.check (refuse (row.identity ≠ identity)
      (conflict "Command identity or payload digest changed"))
    return row

/-- `_append`. -/
def appendReceipt (identity : CommandIdentity) (state : ReceiptStage)
    (outputDigest : Option String) : Statement PublicReceipt := do
  let db ← Script.read
  -- A table that reached the largest row id refuses every further insert.
  Script.check (refuse (maxInteger ≤ db.lastRowid) persistenceFailed)
  Script.write fun db => db.append identity.commandId state outputDigest
  return ⟨identity, state, db.lastRowid + 1, outputDigest⟩

/-- `_receipt`: a terminal receipt is returned only with its artifact verified. -/
def rowReceipt (outputs : OutputDirectory) (identity : CommandIdentity) (row : CommandRow) :
    Except GatewayError PublicReceipt := do
  if row.state = .terminal then do
    let _ ← outputs.readOutput sha256 row.outputDigest
    return ⟨identity, row.state, row.sequence, row.outputDigest⟩
  else return ⟨identity, row.state, row.sequence, row.outputDigest⟩

def maxFrameBytes : Nat := 1024 * 1024

variable (scope : OwnerScope) (storage : Storage)

def prepare (identity : CommandIdentity) (payload : List UInt8) : Statement PublicReceipt := do
  Script.check (refuse (maxFrameBytes < payload.length)
    (invalid "Command payload must be bounded bytes"))
  Script.check (refuse (sha256 payload ≠ identity.payloadSha256)
    (conflict "Command payload does not match its authorized digest"))
  storage.transaction do
    requireCurrent scope identity
    let db ← Script.read
    match db.command? identity.commandId with
    | some _ => do
      let row ← selectRow identity
      Script.check (refuse (row.payload ≠ payload) (conflict "Command payload changed"))
      Script.check (rowReceipt sha256 storage.outputs identity row)
    | none => do
      Script.write fun db => db.insertCommand identity payload
      appendReceipt identity .prepared none

/-- `effect_intent`: true only for the call that committed the intent. -/
def effectIntent (identity : CommandIdentity) (request reply : Frame)
    (connectionGeneration : Nat) : Statement Bool := do
  let authorizationId ← Script.check
    (validateEffectAuthorization identity request reply connectionGeneration)
  storage.transaction do
    requireCurrent scope identity
    let row ← selectRow identity
    if row.state ≠ .prepared then do
      Script.check (refuse (row.authorizationId ≠ some authorizationId)
        (conflict "Command authorization identity changed"))
      return false
    else do
      Script.check (refuse (row.authorizationId ≠ none ∧
          row.authorizationId ≠ some authorizationId)
        (conflict "Command authorization identity changed"))
      Script.write fun db => db.updateCommand identity.commandId fun row =>
        { row with authorizationId := some authorizationId }
      let _ ← appendReceipt identity .effectIntent none
      return true

def nativeAccepted (identity : CommandIdentity) (nativeRef : String) :
    Statement PublicReceipt := do
  Script.check (refuse (nativeRef = "" ∨ 4096 < nativeRef.length)
    (invalid "Native acceptance requires a bounded private reference"))
  storage.transaction do
    requireCurrent scope identity
    let row ← selectRow identity
    if row.state = .nativeAccepted ∨ row.state = .terminal then do
      Script.check (refuse (row.nativeRef ≠ some nativeRef) (conflict "Native receipt changed"))
      Script.check (rowReceipt sha256 storage.outputs identity row)
    else do
      Script.check (refuse (row.state ≠ .effectIntent)
        (conflict "Native acceptance requires committed effect intent"))
      Script.write fun db => db.updateCommand identity.commandId fun row =>
        { row with nativeRef := some nativeRef }
      appendReceipt identity .nativeAccepted none

def terminal (identity : CommandIdentity) (text : String) : Statement PublicReceipt := do
  let digest := sha256 (utf8Bytes text)
  storage.transaction do
    requireCurrent scope identity
    let row ← selectRow identity
    if row.state = .terminal then do
      Script.check (refuse (row.artifactKind = some .workerTerminalResult)
        (conflict "Worker terminal cannot be consumed as native plaintext"))
      Script.check (refuse (row.outputDigest ≠ some digest) (conflict "Terminal output changed"))
      let _ ← Script.check (storage.outputs.readOutput sha256 (some digest))
      Script.check (rowReceipt sha256 storage.outputs identity row)
    else do
      Script.check (refuse (row.state ≠ .nativeAccepted)
        (conflict "Terminal observation requires native acceptance evidence"))
      Script.check (storage.outputs.persistOutput sha256 digest)
      Script.write fun db => db.updateCommand identity.commandId fun row =>
        { row with artifactKind := some .nativePlaintext }
      appendReceipt identity .terminal (some digest)

def terminalFromWorkerResult (identity : CommandIdentity) (proof : WorkerProof) :
    Statement PublicReceipt :=
  storage.transaction do
    requireCurrent scope identity
    let row ← selectRow identity
    Script.check (refuse ((row.state ≠ .effectIntent ∧ row.state ≠ .terminal) ∨
        present row.authorizationId = false ∨ row.nativeRef ≠ none)
      (conflict
        "Worker terminal requires original authorized effect intent without native acceptance"))
    Script.check (refuse (
        (row.state = .terminal ∧ row.artifactKind ≠ some .workerTerminalResult) ∨
        (row.state = .effectIntent ∧ row.artifactKind ≠ none))
      (conflict "Worker terminal artifact kind is absent or conflicts"))
    let raw ← Script.check (proof.build identity row.payload)
    let digest := sha256 raw
    if row.state = .terminal then do
      let existing ← Script.check (storage.outputs.readOutput sha256 row.outputDigest)
      Script.check (proof.parse existing identity row.outputDigest)
      Script.check (refuse (row.outputDigest ≠ some digest ∨ existing ≠ raw)
        (conflict "Verified worker terminal output changed"))
      Script.check (rowReceipt sha256 storage.outputs identity row)
    else do
      Script.check (storage.outputs.persistOutput sha256 digest)
      Script.write fun db => db.updateCommand identity.commandId fun row =>
        { row with artifactKind := some .workerTerminalResult }
      appendReceipt identity .terminal (some digest)

/-- `advance_epoch`: the owner hands the store over to a new pair of epochs. -/
def advanceEpoch (nodeEpoch gatewayOwnerEpoch : String) : Statement Unit := do
  Script.check (refuse (isIdentifier nodeEpoch = false)
    (invalid "Invalid node contract identifier"))
  Script.check (refuse (isIdentifier gatewayOwnerEpoch = false)
    (invalid "Invalid node contract identifier"))
  storage.transaction do
    requireCurrentScope scope
    Script.check (refuse (nodeEpoch = scope.nodeEpoch ∧ gatewayOwnerEpoch = scope.gatewayOwnerEpoch)
      (conflict "Epoch handoff must change an epoch"))
    Script.write fun db =>
      { db with owner.scope := { db.owner.scope with nodeEpoch, gatewayOwnerEpoch } }

end Methods

/-! ## Acknowledged custody -/

section Custody

variable (hashing : Hashing) (scope : OwnerScope) (storage : Storage)

/-- `ReceiptCheckpoint`. -/
structure Checkpoint where
  logIncarnationId : String
  row : CheckpointRow

/-- `_log_id`: the canonical text of a version 4 UUID. -/
def isLogId (value : String) : Bool :=
  let bytes := utf8Bytes value
  let dashes := [8, 13, 18, 23]
  decide (bytes.length = 36) &&
    bytes.zipIdx.all (fun (byte, index) =>
      if dashes.contains index then isBetween '-' '-' byte else isLowerHex byte) &&
    (bytes[14]?).any (isBetween '4' '4') &&
    (bytes[19]?).any (fun byte => isBetween '8' '9' byte || isBetween 'a' 'b' byte)

def Database.receiptOf (db : Database) (entry : OutboxRow) : Option PublicReceipt :=
  (db.command? entry.command).map fun row =>
    ⟨row.identity, entry.state, entry.sequence, entry.outputDigest⟩

/-- The join of `_outbox_receipt`. -/
def Database.receipt? (db : Database) (sequence : Nat) : Option PublicReceipt :=
  (db.outbox.find? (fun entry => entry.sequence = sequence)).bind db.receiptOf

def Database.outboxReceipt (db : Database) (sequence : Nat) :
    Except GatewayError PublicReceipt :=
  match db.receipt? sequence with
  | none => .error (conflict "Receipt ACK references an absent local outbox row")
  | some receipt => do
    let _ ← receipt.identity.validate
    return receipt

/-- `_checkpoint`: the durable cursor, checked against the outbox. -/
def Database.readCheckpoint (db : Database) : Except GatewayError Checkpoint := do
  refuse (isLogId db.owner.logIncarnationId = false)
    (invalid "Receipt log identity must be a canonical UUID v4")
  let row := db.checkpoint
  refuse (maxInteger < row.throughSequence) (invalid "Invalid node contract integer")
  refuse ((row.throughSequence = 0 ∧ (row.throughDigest ≠ none ∨ row.serverId ≠ none)) ∨
      (0 < row.throughSequence ∧ (row.serverId = none ∨ row.throughDigest = none)))
    (conflict "Invalid node receipt checkpoint state")
  match row.serverId with
  | none => return ⟨db.owner.logIncarnationId, row⟩
  | some serverId => do
    refuse (isIdentifier serverId = false) (invalid "Invalid node contract identifier")
    refuse (∀ digest ∈ row.throughDigest, isSha256Hex digest = false)
      (invalid "Receipt digest must be a lowercase SHA256")
    let receipt ← db.outboxReceipt row.throughSequence
    refuse (some (hashing.receipt receipt) ≠ row.throughDigest)
      (conflict "Stored ACK checkpoint does not match local receipt evidence")
    return ⟨db.owner.logIncarnationId, row⟩

/-- A validated ACK: where the log stands at the gateway. -/
structure Acknowledgement where
  logIncarnationId : String
  throughSequence : Nat
  throughReceiptSha256 : String

/-- The argument checks of `acknowledge`: a cumulative ACK of this server on this very
connection. -/
def acknowledgement (frame : Frame) (expectedServerId : String)
    (connection : ConnectionIdentity) : Except GatewayError Acknowledgement := do
  refuse (isIdentifier expectedServerId = false) (invalid "Invalid node contract identifier")
  refuse (isIdentifier connection.scope.nodeId = false ∨
      isIdentifier connection.scope.nodeEpoch = false ∨
      isIdentifier connection.scope.gatewayOwnerEpoch = false)
    (invalid "Invalid node contract identifier")
  refuse (isContractInteger connection.connectionGeneration = false)
    (invalid "Invalid node contract integer")
  refuse (frame.type ≠ .reconcileResult)
    (invalid "Receipt ACK requires a reconcile-result frame")
  match frame.payload with
  | .receiptAck serverId logIncarnationId connectionGeneration throughSequence
      throughReceiptSha256 => do
      refuse (isLogId logIncarnationId = false)
        (invalid "Receipt log identity must be a canonical UUID v4")
      refuse (isContractInteger throughSequence = false) (invalid "Invalid node contract integer")
      refuse (isSha256Hex throughReceiptSha256 = false)
        (invalid "Receipt digest must be a lowercase SHA256")
      refuse (isContractInteger connectionGeneration = false)
        (invalid "Invalid node contract integer")
      refuse (connection.scope ≠ scope ∨ frame.scope ≠ connection.scope ∨
          connection.scope.nodeEpoch = "unbound" ∨
          connection.scope.gatewayOwnerEpoch = "unbound" ∨
          connectionGeneration ≠ connection.connectionGeneration ∨
          serverId ≠ expectedServerId)
        (conflict "Receipt ACK does not match trusted server and live connection")
      return ⟨logIncarnationId, throughSequence, throughReceiptSha256⟩
  | _ => .error (invalid "Invalid receipt ACK payload variant")

def acknowledge (frame : Frame) (expectedServerId : String) (connection : ConnectionIdentity) :
    Statement Checkpoint := do
  let ack ← Script.check (acknowledgement scope frame expectedServerId connection)
  storage.transaction do
    requireCurrentScope scope
    let db ← Script.read
    let checkpoint ← Script.check (db.readCheckpoint hashing)
    Script.check (refuse (ack.logIncarnationId ≠ checkpoint.logIncarnationId ∨
        (checkpoint.row.serverId ≠ none ∧ checkpoint.row.serverId ≠ some expectedServerId))
      (conflict "Receipt ACK targets another log or bound server"))
    Script.check (refuse (ack.throughSequence < checkpoint.row.throughSequence)
      (conflict "Receipt ACK cursor regressed"))
    let receipt ← Script.check (db.outboxReceipt ack.throughSequence)
    Script.check (refuse (hashing.receipt receipt ≠ ack.throughReceiptSha256)
      (conflict "Receipt ACK digest does not match exact local receipt"))
    if ack.throughSequence = checkpoint.row.throughSequence then do
      Script.check (refuse (some ack.throughReceiptSha256 ≠ checkpoint.row.throughDigest)
        (conflict "Duplicate receipt ACK digest changed"))
      return checkpoint
    else do
      Script.write fun db =>
        { db with
          checkpoint := ⟨some expectedServerId, ack.throughSequence,
            some ack.throughReceiptSha256⟩ }
      let written ← Script.read
      Script.check (written.readCheckpoint hashing)

end Custody

end Audiagentic.Node
