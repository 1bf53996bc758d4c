import Audiagentic.Node.ConnectionSlots

/-!
# What one step does to the slots

Most operations only move the owner quietly: a slot is published, retired, or
edited so that it can lose its readiness and its capability but gain neither.
The two exceptions are the attachment of a connection and `mark_ready`.
-/

namespace Audiagentic.Node

open Foundations Gateway List Option Function

/-! ## Quiet moves -/

/-- A slot that may have lost its readiness or its capability, and nothing else but its revision. -/
structure ConnectionSlot.Quieter (before after : ConnectionSlot) : Prop where
  identity : after.identity = before.identity
  websocket : after.websocket = before.websocket
  credential : after.credentialSha256 = before.credentialSha256
  connection : after.connection = before.connection
  drain : before.capability = .drain → after.capability = .drain
  ready : ∀ revision, after.readyRevision = some revision →
    before.readyRevision = some revision ∧ after.capability = before.capability ∧
      after.grantRevision = before.grantRevision

variable {slot before : ConnectionSlot}

namespace ConnectionSlot.Quieter

theorem refl (slot : ConnectionSlot) : slot.Quieter slot :=
  ⟨rfl, rfl, rfl, rfl, id, fun _ ready => ⟨ready, rfl, rfl⟩⟩

theorem trans {first second third : ConnectionSlot} (earlier : first.Quieter second)
    (later : second.Quieter third) : first.Quieter third where
  identity := later.identity.trans earlier.identity
  websocket := later.websocket.trans earlier.websocket
  credential := later.credential.trans earlier.credential
  connection := later.connection.trans earlier.connection
  drain := fun drains => later.drain (earlier.drain drains)
  ready := by
    intro revision ready
    obtain ⟨middle, capability, revised⟩ := later.ready revision ready
    obtain ⟨first, capability', revised'⟩ := earlier.ready revision middle
    exact ⟨first, capability.trans capability', revised.trans revised'⟩

theorem refresh {current : ChannelCapability × Nat}
    (drain : slot.capability = .drain → current.1 = .drain) :
    slot.Quieter (slot.refresh current) where
  identity := rfl
  websocket := rfl
  credential := rfl
  connection := rfl
  drain
  ready := by
    intro revision ready
    unfold ConnectionSlot.refresh at ready
    dsimp only at ready
    split at ready
    next => cases ready
    next same =>
      rw [ne_eq, not_not] at same
      subst same
      exact ⟨ready, rfl, rfl⟩

theorem consume (slot : ConnectionSlot) : slot.Quieter { slot with readyRevision := none } where
  identity := rfl
  websocket := rfl
  credential := rfl
  connection := rfl
  drain := id
  ready := by
    intro _ impossible
    cases impossible

theorem eq_of_ready {after : ConnectionSlot} (quieter : before.Quieter after) {revision : Nat}
    (ready : after.readyRevision = some revision) : before = after := by
  obtain ⟨wasReady, capability, revised⟩ := quieter.ready revision ready
  obtain ⟨identity, websocket, credential, connection, _, _⟩ := quieter
  cases before
  cases after
  simp_all

end ConnectionSlot.Quieter

/-- The owner after `replace` has stored the slot. -/
def ConnectionOwner.publish (owner : ConnectionOwner) (slot : ConnectionSlot) : ConnectionOwner :=
  { owner with
    slots := owner.slots ++ [slot]
    active := Function.update owner.active slot.nodeId (some owner.slots.length)
    generations := Function.update owner.generations slot.nodeId
      slot.identity.connectionGeneration }

theorem publish_active (owner : ConnectionOwner) (slot : ConnectionSlot) (nodeId : String) :
    (owner.publish slot).active nodeId =
      if nodeId = slot.nodeId then some owner.slots.length else owner.active nodeId :=
  update_apply _ _ _ _

theorem publish_generations (owner : ConnectionOwner) (slot : ConnectionSlot) (nodeId : String) :
    (owner.publish slot).generations nodeId =
      if nodeId = slot.nodeId then slot.identity.connectionGeneration
      else owner.generations nodeId :=
  update_apply _ _ _ _

theorem deactivate_active (owner : ConnectionOwner) (nodeId other : String) :
    (owner.deactivate nodeId).active other =
      if other = nodeId then none else owner.active other :=
  update_apply _ _ _ _

/-- **A quiet move of the owner.** -/
inductive OwnerMove (owner : ConnectionOwner) : ConnectionOwner → Prop where
  | retired (nodeId : String) : OwnerMove owner (owner.deactivate nodeId)
  | edited (number : Nat) (change : ConnectionSlot → ConnectionSlot)
      (quieter : ∀ slot, owner.slots[number]? = some slot → slot.Quieter (change slot)) :
      OwnerMove owner (owner.editSlot number change)
  /-- `replace`. -/
  | published (slot : ConnectionSlot)
      (generation : slot.identity.connectionGeneration = owner.generations slot.nodeId + 1)
      (unready : slot.readyRevision = none) :
      OwnerMove owner (owner.publish slot)

abbrev OwnerMoves (owner after : ConnectionOwner) : Prop :=
  Relation.ReflTransGen OwnerMove owner after

variable {number : Nat} {owner : ConnectionOwner} {change : ConnectionSlot → ConnectionSlot}

theorem editSlot_slot {other : Nat} :
    (owner.editSlot number change).slots[other]? =
      owner.slots[other]?.map fun slot => if number = other then change slot else slot :=
  getElem?_modify change number owner.slots other

theorem editSlot_self (found : owner.slots[number]? = some slot) :
    (owner.editSlot number change).slots[number]? = some (change slot) := by
  rw [editSlot_slot, found, map_some, if_pos rfl]

/-! ## What the callbacks do -/

variable {after : ConnectionOwner}

section Callbacks

variable {sha256 : String → String} {reading : GrantReading} {owner : ConnectionOwner}

/-- **The outcomes of `_refresh_capability_locked`.** -/
inductive RefreshOutcome (sha256 : String → String) (reading : GrantReading)
    (owner : ConnectionOwner) (nodeId : String) :
    Option ConnectionOwner.Refreshed × ConnectionOwner → Prop where
  | absent (absent : ∀ number slot, owner.active nodeId = some number →
      owner.slots[number]? ≠ some slot) :
      RefreshOutcome sha256 reading owner nodeId (none, owner)
  | retired (number : Nat) (slot : ConnectionSlot) (error : GatewayError)
      (active : owner.active nodeId = some number) (found : owner.slots[number]? = some slot)
      (raised : ConnectionOwner.deriveCapability sha256 reading nodeId slot = .error error) :
      RefreshOutcome sha256 reading owner nodeId
        (some ⟨number, none, none⟩, owner.deactivate nodeId)
  | kept (number : Nat) (slot : ConnectionSlot) (current : ChannelCapability × Nat)
      (active : owner.active nodeId = some number) (found : owner.slots[number]? = some slot)
      (derived : ConnectionOwner.deriveCapability sha256 reading nodeId slot = .ok current) :
      RefreshOutcome sha256 reading owner nodeId
        (some ⟨number, some current.1, some (slot.capability, slot.grantRevision)⟩,
          owner.editSlot number (ConnectionSlot.refresh current))

theorem refresh_outcome (sha256 : String → String) (reading : GrantReading)
    (owner : ConnectionOwner) (nodeId : String) :
    RefreshOutcome sha256 reading owner nodeId
      (owner.refreshCapabilityLocked sha256 reading nodeId) := by
  unfold ConnectionOwner.refreshCapabilityLocked
  split
  next idle =>
    refine .absent ?_
    intro number _ active
    rw [idle] at active
    cases active
  next number active =>
    split
    next missing =>
      refine .absent ?_
      intro other slot active'
      rw [active] at active'
      cases active'
      rw [missing]
      exact nofun
    next slot found =>
      split
      next error raised => exact .retired number slot error active found raised
      next current derived => exact .kept number slot current active found derived

/-- **What a refresh that keeps the slot has read.** -/
theorem deriveCapability_ok {nodeId : String} {current : ChannelCapability × Nat}
    (derived : ConnectionOwner.deriveCapability sha256 reading nodeId slot = .ok current) :
    ∃ entry, reading.raw.nodes.lookup nodeId = some entry ∧
      grantCredential sha256 reading entry = .ok slot.credentialSha256 ∧
      grantCapability reading entry = .ok current.1 ∧ current.2 = entry.revision ∧
      (slot.capability = .drain → current.1 = .drain) := by
  unfold ConnectionOwner.deriveCapability at derived
  split at derived
  next => cases derived
  next entry found =>
    obtain ⟨credential, read, derived⟩ := bind_eq_ok.mp derived
    rw [refuse_bind_eq_ok, ne_eq, not_not] at derived
    obtain ⟨rfl, derived⟩ := derived
    obtain ⟨capability, granted, derived⟩ := bind_eq_ok.mp derived
    rw [refuse_bind_eq_ok] at derived
    obtain ⟨regains, returned⟩ := derived
    cases returned
    refine ⟨entry, found, read, granted, rfl, ?_⟩
    intro drains
    by_contra active
    exact regains ⟨drains, active⟩

theorem grantCapability_active {entry : GrantEntry} :
    grantCapability reading entry = .ok .active ↔ entry.enabled = true := by
  unfold grantCapability
  constructor
  · intro granted
    split at granted
    next enabled => exact enabled
    next =>
      obtain ⟨_, _, rest⟩ := bind_eq_ok.mp granted
      rw [refuse_bind_eq_ok] at rest
      cases rest.2
  · intro enabled
    exact if_pos enabled

/-- **An active slot after a refresh** has the enabled grant and the credential that were read. -/
theorem refresh_active {nodeId : String}
    (active : (owner.refreshCapabilityLocked sha256 reading nodeId).2.active nodeId = some number)
    (found : (owner.refreshCapabilityLocked sha256 reading nodeId).2.slots[number]? = some slot)
    (capability : slot.capability = .active) :
    ∃ entry, reading.raw.nodes.lookup nodeId = some entry ∧ entry.enabled = true ∧
      slot.grantRevision = entry.revision ∧
      grantCredential sha256 reading entry = .ok slot.credentialSha256 := by
  have outcome := refresh_outcome sha256 reading owner nodeId
  generalize owner.refreshCapabilityLocked sha256 reading nodeId = result at outcome active found
  cases outcome with
  | absent absent => exact absurd found (absent number slot active)
  | retired _ _ _ _ _ _ =>
    rw [deactivate_active, if_pos rfl] at active
    cases active
  | kept place before current wasActive present derived =>
    cases wasActive.symm.trans active
    rw [editSlot_self present] at found
    cases found
    obtain ⟨entry, listed, read, granted, revised, _⟩ := deriveCapability_ok derived
    rw [show current.1 = .active from capability] at granted
    exact ⟨entry, listed, grantCapability_active.mp granted, revised, read⟩

theorem refresh_moves (nodeId : String) :
    OwnerMoves owner (owner.refreshCapabilityLocked sha256 reading nodeId).2 := by
  have outcome := refresh_outcome sha256 reading owner nodeId
  generalize owner.refreshCapabilityLocked sha256 reading nodeId = result at outcome
  cases outcome with
  | absent _ => exact .refl
  | retired _ _ _ _ _ _ => exact .single (.retired nodeId)
  | kept number slot current active found derived =>
    refine .single (.edited number _ ?_)
    intro other found'
    rw [found] at found'
    cases found'
    obtain ⟨_, _, _, _, _, drain⟩ := deriveCapability_ok derived
    exact .refresh drain

theorem refreshConnection_moves (sha256 : String → String) (reading : GrantReading)
    (owner : ConnectionOwner) (connections : List NodeConnection)
    (connection : Nat) :
    OwnerMoves owner (owner.refreshConnection sha256 reading connections connection) := by
  unfold ConnectionOwner.refreshConnection
  split
  next => exact .refl
  next => exact refresh_moves _

/-- **What `_ready_slot` finds.** -/
theorem readySlot_some {connections : List NodeConnection} {connection grantRevision : Nat} :
    owner.readySlot connections connection grantRevision = .ok (some (number, slot)) ↔
      isContractInteger grantRevision = true ∧ owner.slots[number]? = some slot ∧
        ∃ live, connections[connection]? = some live ∧
          owner.Qualifies connection live grantRevision number slot := by
  unfold ConnectionOwner.readySlot
  constructor
  · intro ready
    split at ready
    next => cases ready
    next live found =>
      rw [refuse_bind_eq_ok, Bool.not_eq_false] at ready
      obtain ⟨bounded, ready⟩ := ready
      split at ready
      next => cases ready
      next active _ =>
        split at ready
        next => cases ready
        next present =>
          obtain ⟨qualifies, same⟩ := ite_none_right_eq_some.mp (Except.ok.inj ready)
          cases same
          exact ⟨bounded, present, live, found, qualifies⟩
  · rintro ⟨bounded, present, live, found, qualifies⟩
    rw [found]
    dsimp only
    rw [refuse_of_not (by rw [bounded]; exact nofun)]
    simp only [qualifies.1, present, if_pos qualifies]
    rfl

/-- **`mark_ready` marks, or moves quietly.** -/
theorem markReady_cases (sha256 : String → String) (reading : GrantReading)
    (owner : ConnectionOwner) (connections : List NodeConnection)
    (connection grantRevision : Nat) :
    ((owner.markReady sha256 reading connections connection grantRevision).1 ≠ .ok true ∧
        OwnerMoves owner
          (owner.markReady sha256 reading connections connection grantRevision).2) ∨
      ∃ number slot,
        (owner.refreshConnection sha256 reading connections connection).readySlot connections
          connection grantRevision = .ok (some (number, slot)) ∧
        owner.markReady sha256 reading connections connection grantRevision =
          (.ok true, (owner.refreshConnection sha256 reading connections connection).editSlot
            number fun slot => { slot with readyRevision := some grantRevision }) := by
  have moved := refreshConnection_moves sha256 reading owner connections connection
  unfold ConnectionOwner.markReady
  split
  next => exact .inl ⟨nofun, .refl⟩
  next => exact .inl ⟨by simp, .refl⟩
  next =>
    dsimp only
    split
    next => exact .inl ⟨nofun, moved⟩
    next => exact .inl ⟨by simp, moved⟩
    next number slot found => exact .inr ⟨number, slot, found, rfl⟩

/-- **`consume_ready` moves quietly, and returns true where the refreshed slot is ready.** -/
theorem consumeReady_cases (sha256 : String → String) (reading : GrantReading)
    (owner : ConnectionOwner) (connections : List NodeConnection)
    (connection grantRevision : Nat) :
    ((owner.consumeReady sha256 reading connections connection grantRevision).1 ≠ .ok true ∧
        OwnerMoves owner
          (owner.consumeReady sha256 reading connections connection grantRevision).2) ∨
      ∃ number slot,
        (owner.refreshConnection sha256 reading connections connection).readySlot connections
          connection grantRevision = .ok (some (number, slot)) ∧
        slot.readyRevision = some grantRevision ∧
        owner.consumeReady sha256 reading connections connection grantRevision =
          (.ok true, (owner.refreshConnection sha256 reading connections connection).editSlot
            number fun slot => { slot with readyRevision := none }) := by
  have moved := refreshConnection_moves sha256 reading owner connections connection
  unfold ConnectionOwner.consumeReady
  split
  next => exact .inl ⟨nofun, .refl⟩
  next => exact .inl ⟨by simp, .refl⟩
  next =>
    dsimp only
    split
    next => exact .inl ⟨nofun, moved⟩
    next => exact .inl ⟨by simp, moved⟩
    next number slot found =>
      split
      next ready => exact .inr ⟨number, slot, found, ready, rfl⟩
      next => exact .inl ⟨by simp, moved⟩

theorem remove_moves (number : Nat) : OwnerMoves owner (owner.remove number).2 := by
  unfold ConnectionOwner.remove
  split
  next => exact .refl
  next =>
    split
    next => exact .single (.retired _)
    next => exact .refl

/-- **What `replace` publishes.** -/
theorem replace_ok {nodeId nodeEpoch authenticated : String} {websocket : Nat} {old : Option Nat}
    (replaced : owner.replace sha256 reading nodeId nodeEpoch websocket authenticated =
      .ok ((number, old), after)) :
    number = owner.slots.length ∧ OwnerMove owner after ∧
      ∃ slot, after.slots = owner.slots ++ [slot] ∧ slot.websocket = websocket ∧
        slot.connection = none := by
  unfold ConnectionOwner.replace at replaced
  split at replaced
  next => cases replaced
  next entry found =>
    obtain ⟨credential, _, replaced⟩ := bind_eq_ok.mp replaced
    rw [refuse_bind_eq_ok] at replaced
    obtain ⟨capability, _, returned⟩ := bind_eq_ok.mp replaced.2
    cases returned
    exact ⟨rfl, .published ⟨⟨⟨nodeId, nodeEpoch, owner.gatewayOwnerEpoch⟩, _⟩, websocket,
      entry.revision, capability, credential, none, none⟩ rfl rfl, _, rfl, rfl, rfl⟩

end Callbacks

/-! ## The owner's invariant -/

def ConnectionSlot.generation (slot : ConnectionSlot) : Nat :=
  slot.identity.connectionGeneration

/-- The current slot of a node is one of its slots, its generations increase, and a ready slot is
active and attached, at the revision it was marked for. -/
structure OwnerSound (owner : ConnectionOwner) : Prop where
  current : ∀ nodeId number, owner.active nodeId = some number →
    ∃ slot, owner.slots[number]? = some slot ∧ slot.nodeId = nodeId
  increasing : ∀ (first second : Nat) (older newer : ConnectionSlot), first < second →
    owner.slots[first]? = some older → owner.slots[second]? = some newer →
    older.nodeId = newer.nodeId → older.generation < newer.generation
  bounded : ∀ (number : Nat) (slot : ConnectionSlot), owner.slots[number]? = some slot →
    slot.generation ≤ owner.generations slot.nodeId
  ready : ∀ (number : Nat) (slot : ConnectionSlot) (revision : Nat), owner.slots[number]? =
    some slot →
    slot.readyRevision = some revision →
    slot.capability = .active ∧ slot.grantRevision = revision ∧ slot.connection ≠ none

theorem slot_of_editSlot {other : Nat} {after : ConnectionSlot}
    (found : (owner.editSlot number change).slots[other]? = some after) :
    ∃ before, owner.slots[other]? = some before ∧
      (number = other ∧ after = change before ∨ number ≠ other ∧ after = before) := by
  rw [editSlot_slot] at found
  obtain ⟨before, present, same⟩ := map_eq_some_iff.mp found
  refine ⟨before, present, ?_⟩
  split at same
  next here => exact .inl ⟨here, same.symm⟩
  next elsewhere => exact .inr ⟨elsewhere, same.symm⟩

theorem slot_of_append {slots : List ConnectionSlot} {other : ConnectionSlot} :
    (slots ++ [slot])[number]? = some other ↔
      slots[number]? = some other ∨ number = slots.length ∧ slot = other := by
  rw [getElem?_append, getElem?_singleton]
  constructor
  · intro found
    split_ifs at found with within first
    · exact .inl found
    · exact .inr ⟨by omega, Option.some.inj found⟩
  · rintro (found | ⟨rfl, rfl⟩)
    · rw [if_pos (List.getElem?_eq_some_iff.mp found).1]
      exact found
    · rw [if_neg (Nat.lt_irrefl _), if_pos (Nat.sub_self _)]

namespace OwnerSound

/-- An edit that keeps the identity and gives no false readiness keeps the invariant. -/
theorem edit (sound : OwnerSound owner) (identity : ∀ slot, owner.slots[number]? = some slot →
      (change slot).identity = slot.identity)
    (ready : ∀ slot revision, owner.slots[number]? = some slot →
      (change slot).readyRevision = some revision →
      (change slot).capability = .active ∧ (change slot).grantRevision = revision ∧
        (change slot).connection ≠ none) : OwnerSound (owner.editSlot number change) := by
  have earlier : ∀ (other : Nat) (after : ConnectionSlot),
    (owner.editSlot number change).slots[other]? = some after →
      ∃ before, owner.slots[other]? = some before ∧ after.identity = before.identity := by
    intro other after found
    obtain ⟨before, present, ⟨rfl, rfl⟩ | ⟨_, rfl⟩⟩ := slot_of_editSlot found
    · exact ⟨before, present, identity before present⟩
    · exact ⟨after, present, rfl⟩
  refine ⟨?_, ?_, ?_, ?_⟩
  · intro nodeId other active
    obtain ⟨slot, found, named⟩ := sound.current nodeId other active
    refine ⟨if number = other then change slot else slot, by rw [editSlot_slot, found]; rfl, ?_⟩
    split
    next here =>
      subst here
      exact (congrArg (·.scope.nodeId) (identity slot found)).trans named
    next => exact named
  · intro first second older newer before olderFound newerFound same
    obtain ⟨old, oldFound, oldSame⟩ := earlier first older olderFound
    obtain ⟨new, newFound, newSame⟩ := earlier second newer newerFound
    unfold ConnectionSlot.nodeId at same
    unfold ConnectionSlot.generation
    rw [oldSame, newSame] at same ⊢
    exact sound.increasing first second old new before oldFound newFound same
  · intro other after found
    obtain ⟨before, present, same⟩ := earlier other after found
    unfold ConnectionSlot.generation ConnectionSlot.nodeId
    rw [same]
    exact sound.bounded other before present
  · intro other after revision found marked
    obtain ⟨before, present, ⟨rfl, rfl⟩ | ⟨_, rfl⟩⟩ := slot_of_editSlot found
    · exact ready before revision present marked
    · exact sound.ready other after revision present marked

/-- **Quiet moves keep the invariant.** -/
theorem move (sound : OwnerSound owner) (moved : OwnerMove owner after) : OwnerSound after := by
  cases moved with
  | retired nodeId =>
    refine ⟨?_, sound.increasing, sound.bounded, sound.ready⟩
    intro other number active
    rw [deactivate_active] at active
    split at active
    next => cases active
    next => exact sound.current other number active
  | edited number change quieter =>
    refine sound.edit (fun slot found => (quieter slot found).identity) ?_
    intro slot revision found marked
    obtain ⟨before, capability, revised⟩ := (quieter slot found).ready revision marked
    rw [capability, revised, (quieter slot found).connection]
    exact sound.ready number slot revision found before
  | published slot generation unready =>
    have places : ∀ (number : Nat) (other : ConnectionSlot),
        (owner.slots ++ [slot])[number]? = some other →
        owner.slots[number]? = some other ∨ number = owner.slots.length ∧ slot = other := by
      intro number other found
      exact slot_of_append.mp found
    refine ⟨?_, ?_, ?_, ?_⟩
    · intro nodeId number active
      rw [publish_active] at active
      split at active
      next same =>
        cases active
        exact ⟨slot, slot_of_append.mpr (.inr ⟨rfl, rfl⟩), same.symm⟩
      next =>
        obtain ⟨other, found, named⟩ := sound.current nodeId number active
        exact ⟨other, slot_of_append.mpr (.inl found), named⟩
    · intro first second older newer before olderFound newerFound same
      rcases places first older olderFound with old | ⟨last, rfl⟩
      · rcases places second newer newerFound with new | ⟨_, rfl⟩
        · exact sound.increasing first second older newer before old new same
        have bounded := sound.bounded first older old
        rw [same] at bounded
        change older.generation < slot.identity.connectionGeneration
        omega
      · have within : second < (owner.slots ++ [slot]).length :=
          (List.getElem?_eq_some_iff.mp newerFound).1
        rw [length_append, length_singleton] at within
        omega
    · intro number other found
      rw [publish_generations]
      split
      next same =>
        rcases places number other found with old | ⟨_, rfl⟩
        · have bounded := sound.bounded number other old
          rw [same] at bounded
          omega
        · exact Nat.le_refl _
      next different =>
        rcases places number other found with old | ⟨_, rfl⟩
        · exact sound.bounded number other old
        · exact absurd rfl different
    · intro number other revision found marked
      rcases places number other found with old | ⟨_, rfl⟩
      · exact sound.ready number other revision old marked
      · rw [unready] at marked
        cases marked

theorem moves (sound : OwnerSound owner) (moved : OwnerMoves owner after) : OwnerSound after := by
  induction moved with
  | refl => exact sound
  | tail _ move ih => exact ih.move move

end OwnerSound

/-! ## What stays of a slot -/

/-- A slot keeps its identity, its socket and its credential; it never leaves the drain, and a
connection once attached stays. -/
structure ConnectionSlot.Evolves (before after : ConnectionSlot) : Prop where
  identity : after.identity = before.identity
  websocket : after.websocket = before.websocket
  credential : after.credentialSha256 = before.credentialSha256
  drain : before.capability = .drain → after.capability = .drain
  connection : before.connection ≠ none → after.connection = before.connection

theorem ConnectionSlot.Quieter.evolves {after : ConnectionSlot} (quieter : before.Quieter after) :
    before.Evolves after :=
  ⟨quieter.identity, quieter.websocket, quieter.credential, quieter.drain,
    fun _ => quieter.connection⟩

/-- Every slot evolves, and a slot that is no longer current never is again. -/
structure OwnerEvolves (owner after : ConnectionOwner) : Prop where
  slots : ∀ (number : Nat) (before : ConnectionSlot), owner.slots[number]? = some before →
    ∃ slot, after.slots[number]? = some slot ∧ before.Evolves slot
  current : ∀ (number : Nat) (before : ConnectionSlot), owner.slots[number]? = some before →
    after.active before.nodeId = some number → owner.active before.nodeId = some number
  epoch : after.gatewayOwnerEpoch = owner.gatewayOwnerEpoch

namespace OwnerEvolves

theorem refl (owner : ConnectionOwner) : OwnerEvolves owner owner where
  slots _ before found := ⟨before, found, rfl, rfl, rfl, id, fun _ => rfl⟩
  current _ _ _ active := active
  epoch := rfl

theorem trans {first second third : ConnectionOwner} (earlier : OwnerEvolves first second)
    (later : OwnerEvolves second third) : OwnerEvolves first third where
  slots := by
    intro number before found
    obtain ⟨middle, present, once⟩ := earlier.slots number before found
    obtain ⟨after, kept, twice⟩ := later.slots number middle present
    refine ⟨after, kept, twice.identity.trans once.identity, twice.websocket.trans once.websocket,
      twice.credential.trans once.credential, fun drains => twice.drain (once.drain drains), ?_⟩
    intro attached
    have same := once.connection attached
    exact (twice.connection (by rw [same]; exact attached)).trans same
  current := by
    intro number before found active
    obtain ⟨middle, present, once⟩ := earlier.slots number before found
    have named : middle.nodeId = before.nodeId := congrArg (·.scope.nodeId) once.identity
    rw [← named] at active
    exact earlier.current number before found (named ▸ later.current number middle present active)
  epoch := later.epoch.trans earlier.epoch

theorem edit (evolves : ∀ slot, owner.slots[number]? = some slot → slot.Evolves (change slot)) :
    OwnerEvolves owner (owner.editSlot number change) where
  slots := by
    intro other before found
    rw [editSlot_slot, found, map_some]
    refine ⟨_, rfl, ?_⟩
    split
    next here =>
      subst here
      exact evolves before found
    next => exact ⟨rfl, rfl, rfl, id, fun _ => rfl⟩
  current _ _ _ active := active
  epoch := rfl

end OwnerEvolves

section

variable (moved : OwnerMoves owner after)
include moved

/-- **Quiet moves leave every slot at its place**, as it was or quieter. -/
theorem OwnerMoves.slots (found : owner.slots[number]? = some before) :
    ∃ slot, after.slots[number]? = some slot ∧ before.Quieter slot := by
  induction moved with
  | refl => exact ⟨before, found, .refl before⟩
  | tail _ move ih =>
    obtain ⟨middle, present, earlier⟩ := ih
    cases move with
    | retired nodeId => exact ⟨middle, present, earlier⟩
    | edited other change quieter =>
      rw [editSlot_slot, present, map_some]
      refine ⟨_, rfl, ?_⟩
      split
      next here =>
        subst here
        exact earlier.trans (quieter middle present)
      next => exact earlier
    | published slot _ _ => exact ⟨middle, slot_of_append.mpr (.inl present), earlier⟩

/-- **Quiet moves make no slot current again.** -/
theorem OwnerMoves.current (found : owner.slots[number]? = some before)
    (active : after.active before.nodeId = some number) :
    owner.active before.nodeId = some number := by
  induction moved with
  | refl => exact active
  | tail earlier move ih =>
    refine ih ?_
    cases move with
    | retired nodeId =>
      rw [deactivate_active] at active
      split at active
      next => cases active
      next => exact active
    | edited other change quieter => exact active
    | published slot _ _ =>
      obtain ⟨middle, present, _⟩ := OwnerMoves.slots earlier found
      have within := (List.getElem?_eq_some_iff.mp present).1
      rw [publish_active] at active
      split at active
      next =>
        rw [Option.some.injEq] at active
        omega
      next => exact active

theorem OwnerMoves.evolves : OwnerEvolves owner after where
  slots := by
    intro number before found
    obtain ⟨slot, present, quieter⟩ := moved.slots found
    exact ⟨slot, present, quieter.evolves⟩
  current _ _ found active := moved.current found active
  epoch := by
    induction moved with
    | refl => rfl
    | tail _ move ih =>
      rw [← ih]
      cases move <;> rfl

/-- **A slot that is ready after quiet moves was ready before them.** -/
theorem OwnerMoves.ready {revision : Nat} (found : after.slots[number]? = some slot)
    (ready : slot.readyRevision = some revision) :
    ∃ before, owner.slots[number]? = some before ∧ before.Quieter slot := by
  induction moved generalizing slot with
  | refl => exact ⟨slot, found, .refl slot⟩
  | tail _ move ih =>
    cases move with
    | retired nodeId => exact ih found ready
    | edited other change quieter =>
      obtain ⟨middle, present, ⟨rfl, rfl⟩ | ⟨_, rfl⟩⟩ := slot_of_editSlot found
      · have edited := quieter middle present
        obtain ⟨before, first, earlier⟩ :=
          ih present (edited.ready revision ready).1
        exact ⟨before, first, earlier.trans edited⟩
      · exact ih present ready
    | published other _ unready =>
      rcases slot_of_append.mp found with old | ⟨_, rfl⟩
      · exact ih old ready
      · rw [unready] at ready
        cases ready

end

end Audiagentic.Node
