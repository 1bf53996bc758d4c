import Audiagentic.Node.SlotSteps

/-!
# Runs of the connection slots

Sockets of any nodes go through their handlers, readiness is marked and
consumed, the configuration and the token files change, all in any order.  What
is proved of every run rests on one inversion of the step: it moves the owner
quietly, attaches a connection to a slot that had none, or marks a slot that
qualifies.
-/

namespace Audiagentic.Node

open Foundations Gateway Option

variable {format : ConfigFormat} {sha256 : String → String}

/-! ## The inversion of a step -/

/-- **A call under the authority** raises in its reload, or its callback ran on what was loaded. -/
theorem serialize_cases {α : Type} (format : ConfigFormat) (world : SlotWorld)
    (eligible : Except GatewayError Bool)
    (callback : GrantReading → Except GatewayError α × ConnectionOwner) :
    (∃ error, world.serialize format eligible callback =
        (.error error, { world with system := ((serialize format).run world.system).2 })) ∨
      ∃ system returned, (serialize format).run world.system = (.ok (), system) ∧
        callback ⟨system.authority.raw, world.token, eligible⟩ = returned ∧
        world.serialize format eligible callback =
          (returned.1, { world with
            system
            owner := returned.2 }) := by
  unfold SlotWorld.serialize
  split
  next error system ran => exact .inl ⟨error, by rw [ran]⟩
  next system ran => exact .inr ⟨system, _, ran, rfl, rfl⟩

variable {world : SlotWorld} {eligible : Except GatewayError Bool}

theorem serialize_moves {α : Type}
    {callback : GrantReading → Except GatewayError α × ConnectionOwner}
    (moves : ∀ reading, OwnerMoves world.owner (callback reading).2) :
    OwnerMoves world.owner (world.serialize format eligible callback).2.owner := by
  rcases serialize_cases format world eligible callback with
    ⟨error, raised⟩ | ⟨system, returned, _, called, ended⟩
  · rw [raised]
  · rw [ended, ← called]
    exact moves _

/-- A handler ends, goes on with its slot, or has just published one. -/
def HandlerMove (owner : ConnectionOwner) (socket : Nat) (before after : Handler) : Prop :=
  after.slot? = none ∨
    (after.slot? = before.slot? ∧ after.isAttached = before.isAttached) ∨
    ∃ number slot, after.slot? = some number ∧ owner.slots[number]? = some slot ∧
      slot.websocket = socket ∧ slot.connection = none

theorem HandlerMove.refl (owner : ConnectionOwner) (socket : Nat) (handler : Handler) :
    HandlerMove owner socket handler handler :=
  .inr (.inl ⟨rfl, rfl⟩)

theorem handlerMove_update {owner : ConnectionOwner} {handlers : Nat → Handler} {socket : Nat}
    {after : Handler} (moved : HandlerMove owner socket (handlers socket) after) (other : Nat) :
    HandlerMove owner other (handlers other) (Function.update handlers socket after other) := by
  rw [Function.update_apply]
  split
  next same =>
    subst same
    exact moved
  next => exact .refl _ _ _

/-- **What a step does to the owner and the handlers.** -/
inductive SlotStep (format : ConfigFormat) (sha256 : String → String) (world : SlotWorld) :
    SlotAction → SlotWorld → Prop where
  | quiet (action : SlotAction) (after : SlotWorld) (moves : OwnerMoves world.owner after.owner)
      (handlers : ∀ socket, HandlerMove after.owner socket (world.handlers socket)
        (after.handlers socket)) :
      SlotStep format sha256 world action after
  | attached (socket number connection : Nat) (after : SlotWorld)
      (handler : world.handlers socket = .connected number connection)
      (owner : after.owner =
        world.owner.editSlot number fun slot => { slot with connection := some connection })
      (handlers : after.handlers =
        Function.update world.handlers socket (.attached number connection)) :
      SlotStep format sha256 world (.attach socket) after
  | marked (connection revision : Nat) (eligible : Except GatewayError Bool) (after : SlotWorld)
      (refreshed : ConnectionOwner) (number : Nat) (slot : ConnectionSlot)
      (moves : OwnerMoves world.owner refreshed)
      (found : refreshed.readySlot world.connections connection revision =
        .ok (some (number, slot)))
      (returned : (world.markReady format sha256 connection revision eligible).1 = .ok true)
      (owner : after.owner =
        refreshed.editSlot number fun slot => { slot with readyRevision := some revision })
      (handlers : after.handlers = world.handlers) :
      SlotStep format sha256 world (.markReady connection revision eligible) after

variable {after : SlotWorld}

theorem SlotStep.still (action : SlotAction) (moves : OwnerMoves world.owner after.owner)
    (handlers : after.handlers = world.handlers) : SlotStep format sha256 world action after := by
  refine .quiet action after moves ?_
  intro socket
  rw [handlers]
  exact .refl _ _ _

theorem SlotStep.advance (action : SlotAction) {socket : Nat} {handler : Handler}
    (moves : OwnerMoves world.owner after.owner) (handlers : after.handlers = world.handlers)
    (moved : HandlerMove after.owner socket (world.handlers socket) handler) :
    SlotStep format sha256 world action (after.advance socket handler) := by
  refine .quiet action _ moves ?_
  intro other
  change HandlerMove after.owner other _ (Function.update after.handlers socket handler other)
  rw [handlers]
  exact handlerMove_update moved other

theorem serialize_handlers {α : Type}
    {callback : GrantReading → Except GatewayError α × ConnectionOwner} :
    (world.serialize format eligible callback).2.handlers = world.handlers := by
  rcases serialize_cases format world eligible callback with
    ⟨error, raised⟩ | ⟨system, returned, _, _, ended⟩
  · rw [raised]
  · rw [ended]

theorem attach_cases (format : ConfigFormat) (world : SlotWorld) (number connection : Nat) :
    (∃ error, (world.attach format number connection).1 = .error error ∧
        (world.attach format number connection).2.owner = world.owner) ∨
      (world.attach format number connection).1 = .ok () ∧
        world.owner.isCurrent number = true ∧
        (world.attach format number connection).2.owner =
          world.owner.editSlot number fun slot => { slot with connection := some connection } := by
  unfold SlotWorld.attach
  rcases serialize_cases format world (.ok false) (fun _ =>
    world.published ((world.owner.attach number connection).map fun owner => ((), owner))) with
    ⟨error, raised⟩ | ⟨system, returned, _, rfl, ended⟩
  · rw [raised]
    exact .inl ⟨error, rfl, rfl⟩
  · rw [ended]
    unfold ConnectionOwner.attach
    by_cases current : world.owner.isCurrent number = true
    · rw [refuse_of_not (by rw [current]; exact nofun)]
      exact .inr ⟨rfl, current, rfl⟩
    · rw [Bool.not_eq_true] at current
      rw [refuse_of current]
      exact .inl ⟨_, rfl, rfl⟩

/-- **`replace` raises, or publishes a slot of the socket without a connection.** -/
theorem worldReplace_cases (format : ConfigFormat) (sha256 : String → String) (world : SlotWorld)
    (nodeId nodeEpoch : String) (socket : Nat) (credential : String)
    (eligible : Except GatewayError Bool) :
    let ended := world.replace format sha256 nodeId nodeEpoch socket credential eligible
    OwnerMoves world.owner ended.2.owner ∧ ended.2.handlers = world.handlers ∧
      ∀ number old, ended.1 = .ok (number, old) →
        ∃ slot, ended.2.owner.slots[number]? = some slot ∧ slot.websocket = socket ∧
          slot.connection = none := by
  intro ended
  refine ⟨?_, serialize_handlers, ?_⟩
  · refine serialize_moves ?_
    intro reading
    unfold SlotWorld.published
    split
    next => exact .refl
    next replaced => exact .single (replace_ok replaced).2.1
  · intro number old returned
    rcases serialize_cases format world eligible (fun reading =>
        world.published (world.owner.replace sha256 reading nodeId nodeEpoch socket credential))
      with ⟨error, raised⟩ | ⟨system, result, _, rfl, ran⟩
    · rw [show ended = _ from raised] at returned
      cases returned
    · rw [show ended = _ from ran] at returned ⊢
      unfold SlotWorld.published at returned ⊢
      split at returned
      next => cases returned
      next replaced =>
        cases returned
        obtain ⟨rfl, _, slot, slots, websocket, unattached⟩ := replace_ok replaced
        refine ⟨slot, ?_, websocket, unattached⟩
        rw [slots]
        exact slot_of_append.mpr (.inr ⟨rfl, rfl⟩)

/-- **`mark_ready` and the world.** -/
theorem worldMark_step (format : ConfigFormat) (sha256 : String → String) (world : SlotWorld)
    (connection revision : Nat) (eligible : Except GatewayError Bool) :
    SlotStep format sha256 world (.markReady connection revision eligible)
      (world.markReady format sha256 connection revision eligible).2 := by
  rcases serialize_cases format world eligible (fun reading =>
      world.owner.markReady sha256 reading world.connections connection revision) with
    ⟨error, raised⟩ | ⟨system, returned, _, called, ended⟩
  · refine .still _ ?_ serialize_handlers
    change OwnerMoves world.owner (world.serialize format eligible _).2.owner
    rw [raised]
  · rcases markReady_cases sha256 _ world.owner world.connections connection revision with
      ⟨_, moves⟩ | ⟨number, slot, found, marked⟩
    · refine .still _ ?_ serialize_handlers
      change OwnerMoves world.owner (world.serialize format eligible _).2.owner
      rw [ended, ← called]
      exact moves
    · rw [marked] at called
      subst called
      refine .marked connection revision eligible _ _ number slot
        (refreshConnection_moves _ _ _ _ _) found ?_ ?_ serialize_handlers
      · change (world.serialize format eligible _).1 = _
        rw [ended]
      · change (world.serialize format eligible _).2.owner = _
        rw [ended]

theorem worldConsume_moves {connection revision : Nat} :
    OwnerMoves world.owner
      (world.consumeReady format sha256 connection revision eligible).2.owner := by
  refine serialize_moves ?_
  intro reading
  rcases consumeReady_cases sha256 reading world.owner world.connections connection revision with
    ⟨_, moves⟩ | ⟨number, slot, _, _, consumed⟩
  · exact moves
  · rw [consumed]
    refine (refreshConnection_moves _ _ _ _ _).tail (.edited number _ ?_)
    exact fun other _ => .consume other

/-- **The inversion of a step.** -/
theorem slotStep_cases (format : ConfigFormat) (sha256 : String → String) (world : SlotWorld)
    (action : SlotAction) :
    SlotStep format sha256 world action (slotStep format sha256 world action) := by
  cases action with
  | grant | rotate | close | fail | disconnect | notifyDrain => exact .still _ .refl rfl
  | authenticate socket authorization eligible =>
    have moves : OwnerMoves world.owner
        (world.authenticate format authorization eligible).2.owner :=
      serialize_moves fun _ => .refl
    have handlers : (world.authenticate format authorization eligible).2.handlers =
        world.handlers := serialize_handlers
    simp only [slotStep]
    split
    next =>
      split
      next ended =>
        rw [ended] at moves handlers
        exact .advance _ moves handlers (.inl rfl)
      next ended =>
        rw [ended] at moves handlers
        exact .advance _ moves handlers (.inl rfl)
    next => exact .still _ .refl rfl
  | replace socket nodeEpoch eligible =>
    simp only [slotStep]
    split
    next nodeId credential _ =>
      split
      next => exact .advance _ .refl rfl (.inl rfl)
      next =>
        obtain ⟨moves, handlers, publishes⟩ := worldReplace_cases format sha256 world nodeId
          nodeEpoch socket credential eligible
        split
        next number old after ended =>
          rw [ended] at moves handlers publishes
          obtain ⟨slot, found, websocket, unattached⟩ := publishes number old rfl
          exact .advance _ moves handlers
            (.inr (.inr ⟨number, slot, rfl, found, websocket, unattached⟩))
        next ended =>
          rw [ended] at moves handlers
          exact .advance _ moves handlers (.inl rfl)
    next => exact .still _ .refl rfl
  | connect socket isOpen =>
    simp only [slotStep]
    split
    next number handler =>
      split
      next =>
        split
        next =>
          refine .quiet _ _ .refl ?_
          intro other
          refine handlerMove_update ?_ other
          rw [handler]
          exact .inr (.inl ⟨rfl, rfl⟩)
        next => exact .still _ .refl rfl
      next => exact .still _ .refl rfl
    next => exact .still _ .refl rfl
  | attach socket =>
    simp only [slotStep]
    split
    next number connection handler =>
      have handlers : (world.attach format number connection).2.handlers = world.handlers :=
        serialize_handlers
      rcases attach_cases format world number connection with
        ⟨error, raised, same⟩ | ⟨returned, _, edited⟩
      · split
        next ended =>
          rw [ended] at raised
          cases raised
        next ended =>
          rw [ended] at same handlers
          exact .still _ (by rw [same]) handlers
      · split
        next ended =>
          rw [ended] at edited handlers
          refine .attached socket number connection _ handler edited ?_
          rw [← handlers]
          rfl
        next ended =>
          rw [ended] at returned
          cases returned
    next => exact .still _ .refl rfl
  | remove socket =>
    simp only [slotStep]
    split
    next => exact .advance _ (serialize_moves fun _ => remove_moves _) serialize_handlers (.inl rfl)
    next => exact .still _ .refl rfl
  | refreshCapability nodeId eligible =>
    exact .still _ (serialize_moves fun _ => refresh_moves nodeId) serialize_handlers
  | markReady connection revision eligible =>
    exact worldMark_step format sha256 world connection revision eligible
  | consumeReady connection revision eligible =>
    exact .still _ worldConsume_moves serialize_handlers

/-! ## The invariant -/

/-- The owner is sound, and the slot of a handler is a slot of its socket, without a connection
until the handler has attached one. -/
structure SlotsSound (world : SlotWorld) : Prop where
  owner : OwnerSound world.owner
  handled : ∀ socket number, (world.handlers socket).slot? = some number →
    ∃ slot, world.owner.slots[number]? = some slot ∧ slot.websocket = socket ∧
      ((world.handlers socket).isAttached = false → slot.connection = none)

theorem slotsSound_opened (system : AuthoritySystem)
    (token : String → Except GatewayError String) (gatewayOwnerEpoch : String) :
    SlotsSound (.opened system token gatewayOwnerEpoch) where
  owner :=
    { current := nofun
      increasing := nofun
      bounded := nofun
      ready := nofun }
  handled := nofun

theorem marked_ready {owner : ConnectionOwner} {connections : List NodeConnection}
    {connection revision number : Nat} {slot : ConnectionSlot}
    (found : owner.readySlot connections connection revision = .ok (some (number, slot))) :
    owner.slots[number]? = some slot ∧ slot.capability = .active ∧ slot.grantRevision = revision ∧
      slot.connection = some connection := by
  obtain ⟨_, present, live, _, _, attached, _, _, _, capability, revised, _⟩ :=
    readySlot_some.mp found
  exact ⟨present, capability, revised, attached⟩

/-- **One step evolves the owner.** -/
theorem slotStep_evolves {action : SlotAction} (sound : SlotsSound world)
    (stepped : SlotStep format sha256 world action after) :
    OwnerEvolves world.owner after.owner := by
  cases stepped with
  | quiet _ _ moves _ => exact moves.evolves
  | attached socket number connection _ handler edited _ =>
    rw [edited]
    refine .edit ?_
    intro slot found
    obtain ⟨other, present, _, unattached⟩ := sound.handled socket number (by rw [handler]; rfl)
    rw [found] at present
    cases present
    refine ⟨rfl, rfl, rfl, id, ?_⟩
    intro attached
    exact absurd (unattached (by rw [handler]; rfl)) attached
  | marked connection revision _ _ refreshed number slot moves found _ edited _ =>
    rw [edited]
    refine moves.evolves.trans (.edit ?_)
    exact fun _ _ => ⟨rfl, rfl, rfl, id, fun _ => rfl⟩

/-- **One step keeps the invariant.** -/
theorem SlotsSound.step {action : SlotAction} (sound : SlotsSound world)
    (stepped : SlotStep format sha256 world action after) : SlotsSound after := by
  cases stepped with
  | quiet _ _ moves handlers =>
    refine ⟨sound.owner.moves moves, ?_⟩
    intro socket number held
    rcases handlers socket with ended | ⟨same, attached⟩ | ⟨other, slot, has, fresh⟩
    · rw [ended] at held
      cases held
    · obtain ⟨slot, found, websocket, unattached⟩ :=
        sound.handled socket number (same.symm.trans held)
      obtain ⟨later, present, quieter⟩ := moves.slots found
      refine ⟨later, present, quieter.websocket.trans websocket, ?_⟩
      rw [attached, quieter.connection]
      exact unattached
    · rw [has] at held
      cases held
      exact ⟨slot, fresh.1, fresh.2.1, fun _ => fresh.2.2⟩
  | attached socket number connection _ handler edited handlers =>
    obtain ⟨slot, found, websocket, unattached⟩ :=
      sound.handled socket number (by rw [handler]; rfl)
    have unready : ∀ revision, slot.readyRevision ≠ some revision := by
      intro revision ready
      exact (sound.owner.ready number slot revision found ready).2.2
        (unattached (by rw [handler]; rfl))
    refine ⟨?_, ?_⟩
    · rw [edited]
      refine sound.owner.edit (fun _ _ => rfl) ?_
      intro other revision present ready
      rw [found] at present
      cases present
      exact absurd ready (unready revision)
    · intro other place held
      rw [handlers, Function.update_apply] at held ⊢
      rw [edited, editSlot_slot]
      split at held
      next same =>
        cases held
        rw [found, map_some, if_pos rfl, if_pos same]
        exact ⟨_, rfl, websocket.trans same.symm, nofun⟩
      next different =>
        obtain ⟨mine, present, own, free⟩ := sound.handled other place held
        have elsewhere : number ≠ place := by
          rintro rfl
          rw [found] at present
          cases present
          exact different (own.symm.trans websocket)
        rw [present, map_some, if_neg elsewhere, if_neg different]
        exact ⟨mine, rfl, own, free⟩
  | marked connection revision _ _ refreshed number slot moves found _ edited handlers =>
    obtain ⟨present, capability, revised, attached⟩ := marked_ready found
    refine ⟨?_, ?_⟩
    · rw [edited]
      refine (sound.owner.moves moves).edit (fun _ _ => rfl) ?_
      intro other marked here ready
      rw [present] at here
      cases here
      cases ready
      exact ⟨capability, revised, by rw [attached]; exact nofun⟩
    · intro socket place held
      rw [handlers] at held ⊢
      obtain ⟨mine, here, own, free⟩ := sound.handled socket place held
      obtain ⟨later, kept, quieter⟩ := moves.slots here
      rw [edited, editSlot_slot, kept, map_some]
      refine ⟨_, rfl, ?_, ?_⟩
      · split <;> exact quieter.websocket.trans own
      · intro unattached
        have same := quieter.connection.trans (free unattached)
        split <;> exact same

theorem exec_slotsSound (format : ConfigFormat) (sha256 : String → String) {start : SlotWorld}
    (sound : SlotsSound start) (run : List SlotAction) :
    SlotsSound (exec (slotStep format sha256) start run) :=
  exec_invariant (fun world action holds => holds.step (slotStep_cases format sha256 world action))
    sound run

/-- **A run evolves the owner.** -/
theorem exec_evolves (format : ConfigFormat) (sha256 : String → String) {start : SlotWorld}
    (sound : SlotsSound start) (run : List SlotAction) :
    OwnerEvolves start.owner (exec (slotStep format sha256) start run).owner := by
  refine @exec_relates _ _ (slotStep format sha256) SlotsSound
    (fun before after => OwnerEvolves before.owner after.owner) ?_ ?_ ?_ ?_ _ sound run
  · exact fun world => .refl world.owner
  · exact fun _ _ _ earlier later => earlier.trans later
  · exact fun world action holds => holds.step (slotStep_cases format sha256 world action)
  · exact fun world action holds =>
      slotStep_evolves holds (slotStep_cases format sha256 world action)

/-! ## Readiness -/

def Armed (connection revision number : Nat) (world : SlotWorld) : Prop :=
  ∃ slot, world.owner.slots[number]? = some slot ∧
    world.owner.active slot.nodeId = some number ∧ slot.connection = some connection ∧
    slot.readyRevision = some revision

/-- **Readiness begins with a mark** of the very connection at the very revision. -/
theorem armed_begins {action : SlotAction} (sound : SlotsSound world)
    (stepped : SlotStep format sha256 world action after) {connection revision number : Nat}
    (armed : Armed connection revision number after) :
    Armed connection revision number world ∨
      ∃ eligible live, action = .markReady connection revision eligible ∧
        (world.markReady format sha256 connection revision eligible).1 = .ok true ∧
        world.connections[connection]? = some live ∧
        after.owner.active live.nodeId = some number := by
  obtain ⟨slot, found, active, attached, ready⟩ := armed
  have quiet : ∀ {owner : ConnectionOwner}, OwnerMoves world.owner owner →
      owner.slots[number]? = some slot → owner.active slot.nodeId = some number →
      Armed connection revision number world := by
    intro owner moves present current
    obtain ⟨before, earlier, quieter⟩ := moves.ready present ready
    have named : before.nodeId = slot.nodeId := (congrArg (·.scope.nodeId) quieter.identity).symm
    refine ⟨before, earlier, ?_, ?_, (quieter.ready revision ready).1⟩
    · exact moves.current earlier (by rw [named]; exact current)
    · rw [← quieter.connection]
      exact attached
  cases stepped with
  | quiet _ _ moves _ => exact .inl (quiet moves found active)
  | attached socket place made _ handler edited _ =>
    refine .inl ?_
    rw [edited] at found active
    obtain ⟨before, present, ⟨rfl, rfl⟩ | ⟨_, rfl⟩⟩ := slot_of_editSlot found
    · -- A slot that is ready has a connection; this one had none.
      obtain ⟨mine, here, _, unattached⟩ := sound.handled socket place (by rw [handler]; rfl)
      rw [present] at here
      cases here
      exact absurd (unattached (by rw [handler]; rfl))
        (sound.owner.ready place before revision present ready).2.2
    · exact ⟨slot, present, active, attached, ready⟩
  | marked other marked eligible _ refreshed place target moves qualified returned edited _ =>
    rw [edited] at found active
    obtain ⟨here, _, _, own⟩ := marked_ready qualified
    obtain ⟨before, present, ⟨rfl, rfl⟩ | ⟨_, rfl⟩⟩ := slot_of_editSlot found
    · rw [present] at here
      cases here
      cases ready
      cases own.symm.trans attached
      obtain ⟨_, _, live, known, current, _⟩ := readySlot_some.mp qualified
      refine .inr ⟨eligible, live, rfl, returned, known, ?_⟩
      rw [edited]
      exact current
    · exact .inl (quiet moves present active)

end Audiagentic.Node
