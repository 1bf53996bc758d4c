import Audiagentic.Node.ReceiptRuns

/-!
# The node's execution owner

`NodeExecutionOwner` is the process-local owner of one node's receipt store: it
follows the control connection, hands the store over to new epochs while it is
quiescent, and runs one authorized command at a time.  A run is two steps, with
the provider worker between them.
-/

namespace Audiagentic.Node

open Foundations Gateway

structure ExecutionOwner where
  nodeId : String
  nodeEpoch : String
  control : Option ConnectionIdentity
  lastControl : Option ConnectionIdentity
  /-- The connection whose epochs the store was handed over to. -/
  bound : Option ConnectionIdentity
  /-- The control channel is active, not draining. -/
  active : Bool
  store : OwnerScope
  running : Option CommandIdentity
  pending : List CommandIdentity
  retiredGateways : List String

/-- The commands with a receipt that is not followed by a terminal one. -/
def Database.pendingCommands (db : Database) : List CommandIdentity :=
  (db.outbox.filterMap db.receiptOf).foldl (fun pending receipt =>
    if receipt.state = .terminal then pending.filter (fun identity => identity ≠ receipt.identity)
    else pending.insert receipt.identity) []

/-- `open`: the persisted scope and the pending commands, nothing else. -/
def ExecutionOwner.openOwner (nodeId nodeEpoch : String) (db : Database) : ExecutionOwner where
  nodeId
  nodeEpoch
  control := none
  lastControl := none
  bound := none
  active := false
  store := db.owner.scope
  running := none
  pending := db.pendingCommands
  retiredGateways := []

namespace ExecutionOwner

variable (owner : ExecutionOwner)

def observeConnection (connection : ConnectionIdentity) (active : Bool) :
    Except GatewayError ExecutionOwner := do
  refuse (isIdentifier connection.scope.nodeId = false ∨
      isIdentifier connection.scope.nodeEpoch = false ∨
      isIdentifier connection.scope.gatewayOwnerEpoch = false)
    (invalid "Invalid node contract identifier")
  refuse (isContractInteger connection.connectionGeneration = false)
    (invalid "Invalid node contract integer")
  refuse (connection.scope.nodeId ≠ owner.nodeId ∨ connection.scope.nodeEpoch ≠ owner.nodeEpoch ∨
      connection.scope.nodeEpoch = "unbound" ∨ connection.scope.gatewayOwnerEpoch = "unbound")
    (conflict "Control connection does not belong to this node process epoch")
  refuse (connection.scope.gatewayOwnerEpoch ∈ owner.retiredGateways)
    (conflict "Retired gateway control epoch cannot be resurrected")
  refuse (∃ previous ∈ owner.lastControl, previous ≠ connection ∧
      previous.scope.gatewayOwnerEpoch = connection.scope.gatewayOwnerEpoch ∧
      connection.connectionGeneration ≤ previous.connectionGeneration)
    (conflict "Stale control connection generation")
  refuse (owner.lastControl = some connection ∧ owner.control = none)
    (conflict "Disconnected channel cannot be resurrected")
  let retired := match owner.lastControl with
    | some previous =>
      if previous.scope.gatewayOwnerEpoch ≠ connection.scope.gatewayOwnerEpoch then
        owner.retiredGateways.insert previous.scope.gatewayOwnerEpoch
      else owner.retiredGateways
    | none => owner.retiredGateways
  return { owner with
    control := some connection
    lastControl := some connection
    active
    retiredGateways := retired }

def connectionLost (connection : ConnectionIdentity) : ExecutionOwner :=
  if owner.control = some connection then { owner with control := none, active := false }
  else owner

/-- The producer fence of `run_one`. -/
def mayRun (identity : CommandIdentity) : Except GatewayError ConnectionIdentity :=
  match owner.control with
  | some live =>
    if owner.bound = some live ∧ owner.active = true ∧ owner.running = none ∧
        commandScope identity = live.scope ∧
        identity.connectionGeneration = live.connectionGeneration ∧
        (∀ other ∈ owner.pending, other = identity) then
      .ok live
    else .error (conflict
      "Node producer is occupied, disconnected, draining or awaiting handoff")
  | none => .error (conflict
      "Node producer is occupied, disconnected, draining or awaiting handoff")

end ExecutionOwner

section Runs

variable (sha256 : List UInt8 → String) (hashing : Hashing)

/-- `handoff_if_quiescent`: advance the store's epochs, then open it under them. -/
def handoffIfQuiescent (owner : ExecutionOwner) (db : Database) (storage : Storage)
    (reopened : Except GatewayError Unit) : ExecutionOwner × Database :=
  match owner.running, owner.control with
  | none, some control =>
    if owner.store = control.scope then ({ owner with bound := some control }, db)
    else
      let call := receiptAnswer sha256 hashing db
        ⟨owner.store, storage, .advanceEpoch control.scope.nodeEpoch
          control.scope.gatewayOwnerEpoch⟩
      match call.1.2, reopened with
      | .ok _, .ok _ => ({ owner with store := control.scope, bound := some control }, call.2)
      | _, _ => (owner, call.2)
  | _, _ => (owner, db)

structure RunInputs where
  /-- The retained preparation, the payload and the worker inputs agree. -/
  prepared : Except GatewayError Unit
  /-- `validate_recipient_workspace`, under the producer fence. -/
  workspace : Except GatewayError Unit
  payload : List UInt8
  request : Frame
  reply : Frame

/-- The first step of `run_one`: everything up to the call of the provider worker, which is
made exactly when `running` is set. -/
def beginRun (owner : ExecutionOwner) (db : Database) (identity : CommandIdentity)
    (inputs : RunInputs) (preparing intending : Storage) : ExecutionOwner × Database :=
  let admitted : Except GatewayError ConnectionIdentity := do
    inputs.prepared
    let live ← owner.mayRun identity
    let _ ← validateEffectAuthorization identity inputs.request inputs.reply
      live.connectionGeneration
    inputs.workspace
    return live
  match admitted with
  | .error _ => (owner, db)
  | .ok live =>
    let held := { owner with pending := owner.pending.insert identity }
    let prepare := receiptAnswer sha256 hashing db
      ⟨owner.store, preparing, .prepare identity inputs.payload⟩
    match prepare.1.2 with
    | .error _ => (held, prepare.2)
    | .ok (.receipt receipt) =>
      if receipt.state ≠ .prepared then (owner, prepare.2)
      else
        let intent := receiptAnswer sha256 hashing prepare.2
          ⟨owner.store, intending, .effectIntent identity inputs.request inputs.reply
            live.connectionGeneration⟩
        match intent.1.2 with
        | .ok (.intent true) => ({ held with running := some identity }, intent.2)
        | _ => (held, intent.2)
    | .ok _ => (owner, prepare.2)

/-- The second step of `run_one`: the worker has returned a proof, or failed. -/
def finishRun (owner : ExecutionOwner) (db : Database) (proof : Option WorkerProof)
    (storage : Storage) : ExecutionOwner × Database :=
  match owner.running, proof with
  | some identity, some proof =>
    let call := receiptAnswer sha256 hashing db
      ⟨owner.store, storage, .terminalFromWorkerResult identity proof⟩
    match call.1.2 with
    | .ok _ => ({ owner with
        running := none
        pending := owner.pending.filter (fun other => other ≠ identity) }, call.2)
    | .error _ => ({ owner with running := none }, call.2)
  | _, _ => ({ owner with running := none }, db)

end Runs

end Audiagentic.Node
