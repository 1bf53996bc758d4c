import Audiagentic.Node.GrantRuns

/-!
# Live connection slots

`NodeConnectionOwner` keeps the live slot of every node under the lock of the
grant authority.  A slot, the connection attached to it and the configuration
file each hold a capability and a grant revision; `_refresh_capability_locked`
brings the slot up to date, and readiness is granted and consumed only where the
three agree.  `NodeTransportServer._handle` drives one socket through the owner.

Slots and connections are objects: they are known by their places in the order
in which they were made.
-/

namespace Audiagentic.Node

open Foundations Gateway

/-! ## Slots and connections -/

inductive ChannelCapability where
  | active
  | drain
deriving DecidableEq

/-- `UNBOUND`. -/
def unboundEpoch : String := "unbound"

structure ConnectionSlot where
  identity : ConnectionIdentity
  websocket : Nat
  grantRevision : Nat
  capability : ChannelCapability
  credentialSha256 : String
  connection : Option Nat
  readyRevision : Option Nat

def ConnectionSlot.nodeId (slot : ConnectionSlot) : String :=
  slot.identity.scope.nodeId

/-- `NodeConnection` of the gateway's side, with the state of its socket. -/
structure NodeConnection where
  identity : ConnectionIdentity
  grantRevision : Nat
  capability : ChannelCapability
  closeReason : Option String
  failure : Option String
  /-- `websocket.state is State.OPEN`. -/
  isOpen : Bool

def NodeConnection.nodeId (live : NodeConnection) : String :=
  live.identity.scope.nodeId

/-- `NodeConnectionOwner`. -/
structure ConnectionOwner where
  gatewayOwnerEpoch : String
  slots : List ConnectionSlot
  /-- `_active`. -/
  active : String → Option Nat
  /-- `_generations`. -/
  generations : String → Nat

/-- What a callback of `serialize` reads outside the owner: the document that was just loaded, the
token files, and whether a disabled grant has historical work. -/
structure GrantReading where
  raw : RawConfig
  token : String → Except GatewayError String
  eligible : Except GatewayError Bool

section Owner

variable (sha256 : String → String) (reading : GrantReading)

/-- `_capability`. -/
def grantCapability (entry : GrantEntry) : Except GatewayError ChannelCapability :=
  if entry.enabled = true then
    .ok .active
  else do
    let eligible ← reading.eligible
    refuse (eligible = false) (conflict "Disabled node has no canonical historical work")
    return .drain

def grantCredential (entry : GrantEntry) : Except GatewayError String := do
  let token ← reading.token entry.tokenFile
  return sha256 ("Bearer " ++ token)

/-- One turn of the loop of `authenticate`: the last grant whose token matches stays. -/
def matchGrant (authorization : String) (matched : Option (String × GrantEntry))
    (entry : String × GrantEntry) : Except GatewayError (Option (String × GrantEntry)) := do
  let token ← reading.token entry.2.tokenFile
  return if authorization = "Bearer " ++ token then some entry else matched

/-- `authenticate`, under the lock. -/
def authenticateGrant (authorization : String) : Except GatewayError String := do
  let matched ← reading.raw.nodes.entries.foldlM (matchGrant reading authorization) none
  match matched with
  | none => .error (conflict "Node credential is not enrolled")
  | some (nodeId, entry) => do
    let _ ← grantCapability reading entry
    return nodeId

namespace ConnectionOwner

variable (owner : ConnectionOwner)

def editSlot (number : Nat) (change : ConnectionSlot → ConnectionSlot) : ConnectionOwner :=
  { owner with slots := owner.slots.modify number change }

/-- `self._active.get(slot.identity.node_id) is slot`. -/
def isCurrent (number : Nat) : Bool :=
  owner.slots[number]?.any fun slot => decide (owner.active slot.nodeId = some number)

/-- `del self._active[node_id]`. -/
def deactivate (nodeId : String) : ConnectionOwner :=
  { owner with active := Function.update owner.active nodeId none }

/-- `replace`, under the lock: the new slot and the one it replaces. -/
def replace (nodeId nodeEpoch : String) (websocket : Nat) (authenticated : String) :
    Except GatewayError ((Nat × Option Nat) × ConnectionOwner) :=
  match reading.raw.nodes.lookup nodeId with
  | none => .error (conflict "Node is no longer enrolled")
  | some entry => do
    let credential ← grantCredential sha256 reading entry
    refuse (credential ≠ authenticated)
      (conflict "Node credential changed after authentication")
    let capability ← grantCapability reading entry
    let generation := owner.generations nodeId + 1
    let slot : ConnectionSlot :=
      { identity := ⟨⟨nodeId, nodeEpoch, owner.gatewayOwnerEpoch⟩, generation⟩
        websocket
        grantRevision := entry.revision
        capability
        credentialSha256 := credential
        connection := none
        readyRevision := none }
    return ((owner.slots.length, owner.active nodeId),
      { owner with
        slots := owner.slots ++ [slot]
        active := Function.update owner.active nodeId (some owner.slots.length)
        generations := Function.update owner.generations nodeId generation })

/-- What `_refresh_capability_locked` hands to its caller for the notification. -/
structure Refreshed where
  slot : Nat
  capability : Option ChannelCapability
  old : Option (ChannelCapability × Nat)

/-- What `_refresh_capability_locked` derives for a slot, or raises to retire it. -/
def deriveCapability (nodeId : String) (slot : ConnectionSlot) :
    Except GatewayError (ChannelCapability × Nat) :=
  match reading.raw.nodes.lookup nodeId with
  | none => .error (conflict "Node enrollment removed")
  | some entry => do
    let credential ← grantCredential sha256 reading entry
    refuse (credential ≠ slot.credentialSha256) (conflict "Node credential rotated")
    let capability ← grantCapability reading entry
    refuse (slot.capability = .drain ∧ capability ≠ .drain)
      (conflict "Drain connection cannot regain effect capability")
    return (capability, entry.revision)

end ConnectionOwner

def ConnectionSlot.refresh (current : ChannelCapability × Nat) (slot : ConnectionSlot) :
    ConnectionSlot :=
  { slot with
    capability := current.1
    grantRevision := current.2
    readyRevision := if (slot.capability, slot.grantRevision) ≠ current then none
      else slot.readyRevision }

namespace ConnectionOwner

variable (owner : ConnectionOwner)

def refreshCapabilityLocked (nodeId : String) : Option Refreshed × ConnectionOwner :=
  match owner.active nodeId with
  | none => (none, owner)
  | some number =>
    match owner.slots[number]? with
    | none => (none, owner)
    | some slot =>
      match deriveCapability sha256 reading nodeId slot with
      | .error _ => (some ⟨number, none, none⟩, owner.deactivate nodeId)
      | .ok current =>
        (some ⟨number, some current.1, some (slot.capability, slot.grantRevision)⟩,
          owner.editSlot number (ConnectionSlot.refresh current))

/-- `attach`, under the lock. -/
def attach (number connection : Nat) : Except GatewayError ConnectionOwner := do
  refuse (owner.isCurrent number = false)
    (conflict "Node connection replaced before attachment")
  return owner.editSlot number fun slot => { slot with connection := some connection }

/-- `remove`, under the lock. -/
def remove (number : Nat) : Bool × ConnectionOwner :=
  match owner.slots[number]? with
  | none => (false, owner)
  | some slot =>
    if owner.active slot.nodeId = some number then (true, owner.deactivate slot.nodeId)
    else (false, owner)

/-- What `_ready_slot` asks of the live slot of the connection's node. -/
def Qualifies (connection : Nat) (live : NodeConnection) (grantRevision number : Nat)
    (slot : ConnectionSlot) : Prop :=
  owner.active live.nodeId = some number ∧ slot.connection = some connection ∧
    slot.identity = live.identity ∧
    slot.identity.scope.gatewayOwnerEpoch = owner.gatewayOwnerEpoch ∧
    slot.identity.scope.nodeEpoch ≠ unboundEpoch ∧
    slot.capability = .active ∧ slot.grantRevision = grantRevision ∧
    live.capability = .active ∧ live.grantRevision = grantRevision ∧
    live.closeReason = none ∧ live.failure = none ∧ live.isOpen = true

instance (connection : Nat) (live : NodeConnection) (grantRevision number : Nat)
    (slot : ConnectionSlot) :
    Decidable (owner.Qualifies connection live grantRevision number slot) := by
  unfold Qualifies
  infer_instance

variable (connections : List NodeConnection) (connection grantRevision : Nat)

def readySlot : Except GatewayError (Option (Nat × ConnectionSlot)) :=
  match connections[connection]? with
  | none => .error (invalid "Readiness requires the actual node connection")
  | some live => do
    refuse (isContractInteger grantRevision = false) (invalid "Invalid node contract integer")
    match owner.active live.nodeId with
    | none => return none
    | some number =>
      match owner.slots[number]? with
      | none => return none
      | some slot =>
        return if owner.Qualifies connection live grantRevision number slot then
          some (number, slot)
        else none

/-- The owner after `_refresh_capability_locked(connection.identity.node_id)`. -/
def refreshConnection : ConnectionOwner :=
  match connections[connection]? with
  | none => owner
  | some live => (owner.refreshCapabilityLocked sha256 reading live.nodeId).2

def markReady : Except GatewayError Bool × ConnectionOwner :=
  match owner.readySlot connections connection grantRevision with
  | .error error => (.error error, owner)
  | .ok none => (.ok false, owner)
  | .ok (some _) =>
    let refreshed := owner.refreshConnection sha256 reading connections connection
    match refreshed.readySlot connections connection grantRevision with
    | .error error => (.error error, refreshed)
    | .ok none => (.ok false, refreshed)
    | .ok (some (number, _)) =>
      (.ok true, refreshed.editSlot number fun slot =>
        { slot with readyRevision := some grantRevision })

def isReady : Except GatewayError Bool := do
  let found ← owner.readySlot connections connection grantRevision
  return found.any fun pair => decide (pair.2.readyRevision = some grantRevision)

def consumeReady : Except GatewayError Bool × ConnectionOwner :=
  match owner.isReady connections connection grantRevision with
  | .error error => (.error error, owner)
  | .ok false => (.ok false, owner)
  | .ok true =>
    let refreshed := owner.refreshConnection sha256 reading connections connection
    match refreshed.readySlot connections connection grantRevision with
    | .error error => (.error error, refreshed)
    | .ok none => (.ok false, refreshed)
    | .ok (some (number, slot)) =>
      if slot.readyRevision = some grantRevision then
        (.ok true, refreshed.editSlot number fun slot => { slot with readyRevision := none })
      else (.ok false, refreshed)

end ConnectionOwner

end Owner

/-! ## The transport -/

/-- How far `_handle` has come with a socket. -/
inductive Handler where
  | waiting
  | authenticated (nodeId credential : String)
  | published (slot : Nat)
  | connected (slot connection : Nat)
  | attached (slot connection : Nat)
  | ended

def Handler.slot? : Handler → Option Nat
  | .published slot => some slot
  | .connected slot _ => some slot
  | .attached slot _ => some slot
  | _ => none

def Handler.isAttached : Handler → Bool
  | .attached _ _ => true
  | _ => false

/-- The authority with its file, the token files, the owner, the connections and the handlers of
the sockets. -/
structure SlotWorld where
  system : AuthoritySystem
  token : String → Except GatewayError String
  owner : ConnectionOwner
  connections : List NodeConnection
  handlers : Nat → Handler

def SlotWorld.opened (system : AuthoritySystem) (token : String → Except GatewayError String)
    (gatewayOwnerEpoch : String) : SlotWorld where
  system
  token
  owner := ⟨gatewayOwnerEpoch, [], fun _ => none, fun _ => 0⟩
  connections := []
  handlers := fun _ => .waiting

/-- The calls of the owner, each one step under the authority, and what happens around them. -/
inductive SlotAction where
  /-- Another operation of the authority, or an edit of the configuration file. -/
  | grant (action : GrantAction)
  | rotate (token : String → Except GatewayError String)
  | authenticate (socket : Nat) (authorization : String) (eligible : Except GatewayError Bool)
  /-- The hello of the socket arrives, and the owner publishes its slot. -/
  | replace (socket : Nat) (nodeEpoch : String) (eligible : Except GatewayError Bool)
  | connect (socket : Nat) (isOpen : Bool)
  | attach (socket : Nat)
  | remove (socket : Nat)
  | refreshCapability (nodeId : String) (eligible : Except GatewayError Bool)
  | markReady (connection grantRevision : Nat) (eligible : Except GatewayError Bool)
  | consumeReady (connection grantRevision : Nat) (eligible : Except GatewayError Bool)
  /-- `begin_close`, or the end of the receiver. -/
  | close (connection : Nat) (reason : String)
  /-- `_remember_failure`. -/
  | fail (connection : Nat) (code : String)
  /-- The socket leaves its open state. -/
  | disconnect (connection : Nat)
  /-- `notify_drain` has sent its frame. -/
  | notifyDrain (connection revision : Nat)

namespace NodeConnection

variable (live : NodeConnection)

def close (reason : String) : NodeConnection :=
  { live with closeReason := some (live.closeReason.getD reason) }

def fail (code : String) : NodeConnection :=
  { live with failure := some (live.failure.getD code) }

def disconnect : NodeConnection :=
  { live with isOpen := false }

def notifyDrain (revision : Nat) : NodeConnection :=
  if live.grantRevision < revision then
    { live with
      grantRevision := revision
      capability := .drain }
  else live

end NodeConnection

namespace SlotWorld

variable (format : ConfigFormat) (sha256 : String → String) (world : SlotWorld)

/-- `authority.serialize`: the callback runs on what was loaded. -/
def serialize {α : Type} (eligible : Except GatewayError Bool)
    (callback : GrantReading → Except GatewayError α × ConnectionOwner) :
    Except GatewayError α × SlotWorld :=
  match (Node.serialize format).run world.system with
  | (.error error, system) => (.error error, { world with system })
  | (.ok _, system) =>
    let returned := callback ⟨system.authority.raw, world.token, eligible⟩
    (returned.1, { world with
      system
      owner := returned.2 })

def advance (socket : Nat) (handler : Handler) : SlotWorld :=
  { world with handlers := Function.update world.handlers socket handler }

def editConnection (connection : Nat) (change : NodeConnection → NodeConnection) : SlotWorld :=
  { world with connections := world.connections.modify connection change }

def authenticate (authorization : String) (eligible : Except GatewayError Bool) :
    Except GatewayError String × SlotWorld :=
  world.serialize format eligible fun reading =>
    (authenticateGrant reading authorization, world.owner)

/-- A callback that raises leaves the owner as it was. -/
def published {α : Type} (result : Except GatewayError (α × ConnectionOwner)) :
    Except GatewayError α × ConnectionOwner :=
  match result with
  | .error error => (.error error, world.owner)
  | .ok (value, owner) => (.ok value, owner)

def replace (nodeId nodeEpoch : String) (socket : Nat) (credential : String)
    (eligible : Except GatewayError Bool) : Except GatewayError (Nat × Option Nat) × SlotWorld :=
  world.serialize format eligible fun reading =>
    world.published (world.owner.replace sha256 reading nodeId nodeEpoch socket credential)

def attach (number connection : Nat) : Except GatewayError Unit × SlotWorld :=
  world.serialize format (.ok false) fun _ =>
    world.published ((world.owner.attach number connection).map fun owner => ((), owner))

def remove (number : Nat) : Except GatewayError Bool × SlotWorld :=
  world.serialize format (.ok false) fun _ =>
    (.ok (world.owner.remove number).1, (world.owner.remove number).2)

def refreshCapability (nodeId : String) (eligible : Except GatewayError Bool) :
    Except GatewayError (Option ConnectionOwner.Refreshed) × SlotWorld :=
  world.serialize format eligible fun reading =>
    let refreshed := world.owner.refreshCapabilityLocked sha256 reading nodeId
    (.ok refreshed.1, refreshed.2)

def markReady (connection grantRevision : Nat) (eligible : Except GatewayError Bool) :
    Except GatewayError Bool × SlotWorld :=
  world.serialize format eligible fun reading =>
    world.owner.markReady sha256 reading world.connections connection grantRevision

def consumeReady (connection grantRevision : Nat) (eligible : Except GatewayError Bool) :
    Except GatewayError Bool × SlotWorld :=
  world.serialize format eligible fun reading =>
    world.owner.consumeReady sha256 reading world.connections connection grantRevision

end SlotWorld

def slotStep (format : ConfigFormat) (sha256 : String → String) (world : SlotWorld) :
    SlotAction → SlotWorld
  | .grant action => { world with system := (grantStep format ⟨world.system, []⟩ action).system }
  | .rotate token => { world with token }
  | .authenticate socket authorization eligible =>
    match world.handlers socket with
    | .waiting =>
      match world.authenticate format authorization eligible with
      | (.ok nodeId, after) =>
        after.advance socket (.authenticated nodeId (sha256 authorization))
      | (.error _, after) => after.advance socket .ended
    | _ => world
  | .replace socket nodeEpoch eligible =>
    match world.handlers socket with
    | .authenticated nodeId credential =>
      -- `validate_hello` refuses the unbound epoch.
      if nodeEpoch = unboundEpoch then world.advance socket .ended
      else
        match world.replace format sha256 nodeId nodeEpoch socket credential eligible with
        | (.ok (number, _), after) => after.advance socket (.published number)
        | (.error _, after) => after.advance socket .ended
    | _ => world
  | .connect socket isOpen =>
    match world.handlers socket with
    | .published number =>
      match world.owner.slots[number]? with
      | some slot =>
        if isContractInteger slot.grantRevision = true then
          { world with
            connections := world.connections ++ [⟨slot.identity, slot.grantRevision,
              slot.capability, none, none, isOpen⟩]
            handlers := Function.update world.handlers socket
              (.connected number world.connections.length) }
        else world
      | none => world
    | _ => world
  | .attach socket =>
    match world.handlers socket with
    | .connected number connection =>
      match world.attach format number connection with
      | (.ok _, after) => after.advance socket (.attached number connection)
      | (.error _, after) => after
    | _ => world
  | .remove socket =>
    match (world.handlers socket).slot? with
    | some number => (world.remove format number).2.advance socket .ended
    | none => world
  | .refreshCapability nodeId eligible => (world.refreshCapability format sha256 nodeId eligible).2
  | .markReady connection grantRevision eligible =>
    (world.markReady format sha256 connection grantRevision eligible).2
  | .consumeReady connection grantRevision eligible =>
    (world.consumeReady format sha256 connection grantRevision eligible).2
  | .close connection reason => world.editConnection connection fun live => live.close reason
  | .fail connection code => world.editConnection connection fun live => live.fail code
  | .disconnect connection => world.editConnection connection NodeConnection.disconnect
  | .notifyDrain connection revision =>
    world.editConnection connection fun live => live.notifyDrain revision

end Audiagentic.Node
