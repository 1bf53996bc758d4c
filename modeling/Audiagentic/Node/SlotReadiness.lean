import Audiagentic.Node.SlotRuns

/-!
# Readiness of a connection slot

Readiness is granted to the current, open and active connection of a node at the
revision it was marked for.  A consume that returns true uses up one earlier
mark: since then the slot has stayed as it was, and the grant and the credential
that it reads are those of the mark.  A change of the configuration that is
undone before any operation reads the file is not noticed.
-/

namespace Audiagentic.Node

open Foundations Gateway List Option

variable {format : ConfigFormat} {sha256 : String → String}

/-! ## Connections -/

structure NodeConnection.Usable (live : NodeConnection) : Prop where
  capability : live.capability = .active
  unclosed : live.closeReason = none
  unfailed : live.failure = none
  opened : live.isOpen = true

/-- A connection keeps its identity, and is not usable again once it has changed. -/
structure NodeConnection.Evolves (before after : NodeConnection) : Prop where
  identity : after.identity = before.identity
  usable : after.Usable → after = before

theorem NodeConnection.Evolves.trans {first second third : NodeConnection}
    (earlier : first.Evolves second) (later : second.Evolves third) : first.Evolves third where
  identity := later.identity.trans earlier.identity
  usable := by
    intro usable
    have same := later.usable usable
    rw [same] at usable
    exact same.trans (earlier.usable usable)

variable {connection : Nat} {world : SlotWorld} {before : NodeConnection}

theorem evolves_editConnection {place : Nat} {change : NodeConnection → NodeConnection}
    (evolves : ∀ live : NodeConnection, live.Evolves (change live))
    (found : world.connections[connection]? = some before) :
    ∃ after, (world.editConnection place change).connections[connection]? = some after ∧
      before.Evolves after := by
  unfold SlotWorld.editConnection
  dsimp only
  rw [getElem?_modify, found]
  refine ⟨_, rfl, ?_⟩
  split
  next => exact evolves before
  next => exact ⟨rfl, fun _ => rfl⟩

variable {eligible : Except GatewayError Bool}

theorem serialize_connections {α : Type}
    {callback : GrantReading → Except GatewayError α × ConnectionOwner} :
    (world.serialize format eligible callback).2.connections = world.connections := by
  rcases serialize_cases format world eligible callback with
    ⟨error, raised⟩ | ⟨system, returned, _, _, ended⟩
  · rw [raised]
  · rw [ended]

/-- **What a step does to the authority and the connections.**  It reads the configuration under
the authority and leaves the connections, or evolves them and leaves the authority. -/
inductive SlotAccess (format : ConfigFormat) (world after : SlotWorld) : Prop
  | reads (used : GrantAction)
      (system : after.system = (grantStep format ⟨world.system, []⟩ used).system)
      (connections : after.connections = world.connections)
  | evolves (system : after.system = world.system)
      (connections : ∀ {connection : Nat} {before : NodeConnection},
        world.connections[connection]? = some before →
          ∃ live, after.connections[connection]? = some live ∧ before.Evolves live)

namespace SlotAccess

variable {after : SlotWorld}

theorem of_same (system : after.system = world.system)
    (connections : after.connections = world.connections) : SlotAccess format world after :=
  .evolves system fun found => ⟨_, by rw [connections]; exact found, rfl, fun _ => rfl⟩

theorem advance (access : SlotAccess format world after) (socket : Nat) (handler : Handler) :
    SlotAccess format world (after.advance socket handler) := by
  cases access with
  | reads used system connections => exact .reads used system connections
  | evolves system connections => exact .evolves system connections

theorem serialize {α : Type} {callback : GrantReading → Except GatewayError α × ConnectionOwner} :
    SlotAccess format world (world.serialize format eligible callback).2 := by
  refine .reads .serialize ?_ serialize_connections
  rcases serialize_cases format world eligible callback with
    ⟨error, raised⟩ | ⟨system, returned, ran, _, ended⟩
  · rw [raised]
    rfl
  · rw [ended]
    simp only [grantStep]
    rw [ran]

theorem step (world : SlotWorld) (action : SlotAction) :
    SlotAccess format world (slotStep format sha256 world action) := by
  cases action with
  | grant action => exact .reads action rfl rfl
  | rotate token => exact of_same rfl rfl
  | authenticate socket authorization eligible =>
    have access : SlotAccess format world (world.authenticate format authorization eligible).2 :=
      serialize
    simp only [slotStep]
    split
    next => split <;> next ended => rw [ended] at access; exact access.advance _ _
    next => exact of_same rfl rfl
  | replace socket nodeEpoch eligible =>
    simp only [slotStep]
    split
    next nodeId credential _ =>
      have access : SlotAccess format world (world.replace format sha256 nodeId nodeEpoch socket
          credential eligible).2 := serialize
      split
      next => exact of_same rfl rfl
      next => split <;> next ended => rw [ended] at access; exact access.advance _ _
    next => exact of_same rfl rfl
  | connect socket isOpen =>
    simp only [slotStep]
    split
    next number handler =>
      split
      next slot _ =>
        split
        next =>
          refine .evolves rfl fun found => ⟨_, ?_, rfl, fun _ => rfl⟩
          exact (getElem?_append_left (List.getElem?_eq_some_iff.mp found).1).trans found
        next => exact of_same rfl rfl
      next => exact of_same rfl rfl
    next => exact of_same rfl rfl
  | attach socket =>
    simp only [slotStep]
    split
    next number made _ =>
      have access : SlotAccess format world (world.attach format number made).2 := serialize
      split
      next ended => rw [ended] at access; exact access.advance _ _
      next ended => rw [ended] at access; exact access
    next => exact of_same rfl rfl
  | remove socket =>
    simp only [slotStep]
    split
    next => exact serialize.advance _ _
    next => exact of_same rfl rfl
  | refreshCapability | markReady | consumeReady => exact serialize
  | close other reason =>
    refine .evolves rfl (evolves_editConnection ?_)
    refine fun live => ⟨rfl, fun usable => ?_⟩
    cases usable.unclosed
  | fail other code =>
    refine .evolves rfl (evolves_editConnection ?_)
    refine fun live => ⟨rfl, fun usable => ?_⟩
    cases usable.unfailed
  | disconnect other =>
    refine .evolves rfl (evolves_editConnection ?_)
    refine fun live => ⟨rfl, fun usable => ?_⟩
    cases usable.opened
  | notifyDrain other revision =>
    refine .evolves rfl (evolves_editConnection ?_)
    intro live
    unfold NodeConnection.notifyDrain
    split
    next =>
      refine ⟨rfl, fun usable => ?_⟩
      cases usable.capability
    next => exact ⟨rfl, fun _ => rfl⟩

theorem survives (access : SlotAccess format world after)
    (found : world.connections[connection]? = some before) :
    ∃ live, after.connections[connection]? = some live ∧ before.Evolves live := by
  cases access with
  | reads _ _ connections => exact ⟨before, by rw [connections]; exact found, rfl, fun _ => rfl⟩
  | evolves _ connections => exact connections found

end SlotAccess

/-- **A run evolves every connection.** -/
theorem exec_connections (format : ConfigFormat) (sha256 : String → String) {start : SlotWorld}
    (run : List SlotAction) (found : start.connections[connection]? = some before) :
    ∃ after, (exec (slotStep format sha256) start run).connections[connection]? = some after ∧
      before.Evolves after := by
  induction run generalizing start before with
  | nil => exact ⟨before, found, rfl, fun _ => rfl⟩
  | cons action run ih =>
    obtain ⟨middle, present, once⟩ := (SlotAccess.step start action).survives found
    obtain ⟨after, kept, later⟩ := ih present
    exact ⟨after, kept, once.trans later⟩

/-! ## What the authority has loaded -/

structure GrantsKept (before after : Authority) : Prop where
  poisoned : before.poisoned = true → after.poisoned = true
  grant : ∀ nodeId, after.raw.nodes.lookup nodeId = before.raw.nodes.lookup nodeId ∨
    Disabled nodeId after.raw

variable {system : AuthoritySystem}

namespace GrantsKept

theorem refl (authority : Authority) : GrantsKept authority authority :=
  ⟨id, fun _ => .inl rfl⟩

theorem trans {first second third : Authority} (earlier : GrantsKept first second)
    (later : GrantsKept second third) : GrantsKept first third where
  poisoned := fun poisoned => later.poisoned (earlier.poisoned poisoned)
  grant := by
    intro nodeId
    rcases later.grant nodeId with same | disabled
    · rcases earlier.grant nodeId with unchanged | disabled
      · exact .inl (same.trans unchanged)
      · refine .inr ?_
        intro entry found
        exact disabled entry (same ▸ found)
    · exact .inr disabled

theorem enabled {before middle after : Authority} (earlier : GrantsKept before middle)
    (later : GrantsKept middle after) {nodeId : String} {entry : GrantEntry}
    (found : after.raw.nodes.lookup nodeId = some entry) (enabled : entry.enabled = true) :
    middle.raw.nodes.lookup nodeId = some entry ∧ before.raw.nodes.lookup nodeId = some entry := by
  have on : ∀ {raw : RawConfig}, raw.nodes.lookup nodeId = some entry → ¬ Disabled nodeId raw := by
    intro raw listed disabled
    rw [disabled entry listed] at enabled
    cases enabled
  have held := ((later.grant nodeId).resolve_right (on found)).symm.trans found
  exact ⟨held, ((earlier.grant nodeId).resolve_right (on held)).symm.trans held⟩

theorem reload (loaded : Loaded format system.authority)
    (collisionFree : Function.Injective format.digest) (expectedDigest : Option String) :
    GrantsKept system.authority
      ((Node.reload format expectedDigest).run system).2.authority := by
  have outcome := reload_cases format expectedDigest system
  generalize (Node.reload format expectedDigest).run system = result at outcome
  cases outcome with
  | refused _ _ => exact .refl _
  | poisoned _ _ _ _ _ _ _ _ => exact ⟨fun _ => rfl, fun _ => .inl rfl⟩
  | loaded config raw digest sound found _ supported =>
    refine ⟨?_, ?_⟩
    · intro poisoned
      rw [sound] at poisoned
      cases poisoned
    intro nodeId
    change raw.nodes.lookup nodeId = system.authority.raw.nodes.lookup nodeId ∨
      Disabled nodeId raw
    obtain ⟨text, _, parsed, digested, _⟩ := loaded
    obtain ⟨newText, _, newParsed, newDigested, _⟩ := readConfig_ok found
    by_cases same : digest = system.authority.digest
    · have texts : newText = text := collisionFree (by rw [← newDigested, same, digested])
      rw [texts, parsed] at newParsed
      cases newParsed
      exact .inl rfl
    · have accepted : system.authority.raw.supported raw = raw := by
        by_contra different
        exact supported ⟨same, .inl different⟩
      rw [← accepted]
      cases present : system.authority.raw.nodes.lookup nodeId with
      | none =>
        refine .inl ?_
        rw [supported_lookup, present, map_none]
      | some entry =>
        by_cases revokes : entry.enabled = true ∧
            (∃ new ∈ raw.nodes.lookup nodeId, new.enabled = false)
        · refine .inr ?_
          intro other listed
          rw [supported_lookup, present, map_some, if_pos revokes] at listed
          cases listed
          rfl
        · refine .inl ?_
          rw [supported_lookup, present, map_some, if_neg revokes]

theorem withRevision (raw : RawConfig) (revoked : String) (revision : Nat) (nodeId : String) :
    (raw.withRevision revoked revision).nodes.lookup nodeId = raw.nodes.lookup nodeId ∨
      Disabled nodeId (raw.withRevision revoked revision) := by
  by_cases same : nodeId = revoked
  · subst same
    exact .inr (disabled_withRevision nodeId raw revision)
  · refine .inl ?_
    rw [RawConfig.withRevision, Mapping.lookup_mapValues]
    simp only [if_neg same, Option.map_id']

theorem revoke (loaded : Loaded format system.authority)
    (collisionFree : Function.Injective format.digest) (readsBack : ReadsBack format)
    (nodeId : String) (expectedGrantRevision : Int) (expectedDigest : Option String)
    (events : RevokeEvents) :
    GrantsKept system.authority ((Node.revoke format nodeId expectedGrantRevision expectedDigest
      events).run system).2.authority := by
  have reloads := reload loaded collisionFree expectedDigest
  rcases revoke_outcome format nodeId expectedGrantRevision expectedDigest events system with
    ⟨error, after, reloaded, raised⟩ | ⟨config, after, reloaded, ended⟩
  · rw [raised]
    rw [reloaded] at reloads
    exact reloads
  · have again := (reload_keeps loaded collisionFree expectedDigest).loaded
    rw [reloaded] at reloads again
    obtain ⟨rfl, sound⟩ := reload_ok reloaded
    generalize (Node.revoke format nodeId expectedGrantRevision expectedDigest events).run system =
      outcome at ended
    cases ended with
    | kept result last unchanged _ =>
      change GrantsKept _ last.authority
      rw [unchanged]
      exact reloads
    | uncertain error last poisoned =>
      change GrantsKept _ last.authority
      rw [poisoned]
      exact reloads.trans ⟨fun _ => rfl, fun _ => .inl rfl⟩
    | revoked grant current raw digest last granted enabled revision found confirmed replaced =>
      have written := confirmed_raw again collisionFree readsBack granted enabled revision found
        confirmed
      change GrantsKept _ last.authority
      rw [replaced, written]
      refine reloads.trans ⟨?_, ?_⟩
      · intro poisoned
        rw [sound] at poisoned
        cases poisoned
      · exact fun other => withRevision after.authority.raw nodeId _ other

theorem step {state : GrantState} (loaded : Loaded format state.system.authority)
    (collisionFree : Function.Injective format.digest) (readsBack : ReadsBack format)
    (action : GrantAction) :
    GrantsKept state.system.authority (grantStep format state action).system.authority := by
  cases action with
  | authorizeEffect placement connection expectedDigest =>
    have kept := reload loaded collisionFree expectedDigest
    rw [← authorizeEffect_system placement connection expectedDigest] at kept
    simp only [grantStep]
    split <;> exact kept
  | revoke nodeId revision expectedDigest events =>
    exact revoke loaded collisionFree readsBack nodeId revision expectedDigest events
  | serialize =>
    simp only [grantStep]
    rw [serialize_system]
    exact reload loaded collisionFree none
  | edit file => exact .refl _

end GrantsKept

/-- **A run keeps what is loaded.** -/
theorem exec_grantsKept (sha256 : String → String)
    (collisionFree : Function.Injective format.digest)
    (readsBack : ReadsBack format) {start : SlotWorld}
    (loaded : Loaded format start.system.authority) (run : List SlotAction) :
    Loaded format (exec (slotStep format sha256) start run).system.authority ∧
      GrantsKept start.system.authority
        (exec (slotStep format sha256) start run).system.authority := by
  have preserved : ∀ (world : SlotWorld) (action : SlotAction),
      Loaded format world.system.authority →
      Loaded format (slotStep format sha256 world action).system.authority ∧
        GrantsKept world.system.authority
          (slotStep format sha256 world action).system.authority := by
    intro world action holds
    cases SlotAccess.step world action with
    | reads used same _ =>
      rw [same]
      exact ⟨(grantStep_keeps holds collisionFree readsBack used).1.loaded,
        @GrantsKept.step format ⟨world.system, []⟩ holds collisionFree readsBack used⟩
    | evolves same _ =>
      rw [same]
      exact ⟨holds, .refl _⟩
  refine ⟨exec_invariant (fun world action holds => (preserved world action holds).1) loaded run,
    ?_⟩
  refine @exec_relates _ _ (slotStep format sha256)
    (fun world => Loaded format world.system.authority)
    (fun before after => GrantsKept before.system.authority after.system.authority) ?_ ?_ ?_ ?_ _
    loaded run
  · exact fun world => .refl _
  · exact fun _ _ _ earlier later => earlier.trans later
  · exact fun world action holds => (preserved world action holds).1
  · exact fun world action holds => (preserved world action holds).2

/-! ## Marks and consumes -/

def CredentialHolds (sha256 : String → String) (slot : ConnectionSlot) (entry : GrantEntry)
    (world : SlotWorld) : Prop :=
  ∃ token, world.token entry.tokenFile = .ok token ∧
    sha256 ("Bearer " ++ token) = slot.credentialSha256

structure StaysReady (connection number : Nat) (slot : ConnectionSlot) (live : NodeConnection)
    (entry : GrantEntry) (world : SlotWorld) : Prop where
  present : world.owner.slots[number]? = some slot
  known : world.connections[connection]? = some live
  qualifies : world.owner.Qualifies connection live entry.revision number slot
  loaded : world.system.authority.raw.nodes.lookup slot.nodeId = some entry
  enabled : entry.enabled = true
  sound : world.system.authority.poisoned = false

variable {revision : Nat} {slot : ConnectionSlot}

theorem usable_of_qualifies {owner : ConnectionOwner} {number : Nat} {live : NodeConnection}
    (qualifies : owner.Qualifies connection live revision number slot) : live.Usable := by
  obtain ⟨_, _, _, _, _, _, _, capability, _, unclosed, unfailed, opened⟩ := qualifies
  exact ⟨capability, unclosed, unfailed, opened⟩

/-- A serialized operation whose reload returned found the authority unpoisoned. -/
theorem serialize_sound {after : AuthoritySystem}
    (ran : (serialize format).run system = (.ok (), after)) : after.authority.poisoned = false := by
  unfold serialize at ran
  obtain ⟨config, middle, reloaded, returned⟩ := Script.bind_eq_ok.mp ran
  cases returned
  exact (reload_ok reloaded).2

/-- **A slot that qualifies after the refresh of its connection** does so under the enabled grant
and with the credential that were read. -/
theorem qualified_grant {reading : GrantReading} {owner : ConnectionOwner}
    {connections : List NodeConnection} {number : Nat}
    (found : (owner.refreshConnection sha256 reading connections connection).readySlot connections
      connection revision = .ok (some (number, slot))) :
    ∃ live entry, connections[connection]? = some live ∧
      (owner.refreshConnection sha256 reading connections connection).slots[number]? = some slot ∧
      (owner.refreshConnection sha256 reading connections connection).Qualifies connection live
        entry.revision number slot ∧
      reading.raw.nodes.lookup slot.nodeId = some entry ∧ entry.enabled = true ∧
      entry.revision = revision ∧
      grantCredential sha256 reading entry = .ok slot.credentialSha256 := by
  obtain ⟨_, present, live, known, qualifies⟩ := readySlot_some.mp found
  obtain ⟨active, _, identity, _, _, capability, revised, _⟩ := id qualifies
  have refreshed : owner.refreshConnection sha256 reading connections connection =
      (owner.refreshCapabilityLocked sha256 reading live.nodeId).2 := by
    unfold ConnectionOwner.refreshConnection
    rw [known]
  have named : slot.nodeId = live.nodeId := congrArg (·.scope.nodeId) identity
  rw [refreshed] at active present
  obtain ⟨entry, listed, enabled, same, credential⟩ := refresh_active active present capability
  have marked : entry.revision = revision := same.symm.trans revised
  rw [← refreshed] at present
  exact ⟨live, entry, known, present, by rw [marked]; exact qualifies, by rw [named]; exact listed,
    enabled, marked, credential⟩

theorem credentialHolds_of_read {reading : GrantReading} {entry : GrantEntry}
    (same : world.token = reading.token)
    (read : grantCredential sha256 reading entry = .ok slot.credentialSha256) :
    CredentialHolds sha256 slot entry world := by
  obtain ⟨token, stored, digested⟩ := bind_eq_ok.mp read
  exact ⟨token, by rw [same]; exact stored, Except.ok.inj digested⟩

/-- **What `mark_ready` grants.** -/
theorem markReady_ok
    (returned : (world.markReady format sha256 connection revision eligible).1 = .ok true) :
    let after := (world.markReady format sha256 connection revision eligible).2
    ∃ number slot live entry, entry.revision = revision ∧ slot.readyRevision = some revision ∧
      StaysReady connection number slot live entry after ∧
      CredentialHolds sha256 slot entry after := by
  unfold SlotWorld.markReady at returned ⊢
  rcases serialize_cases format world eligible (fun reading =>
      world.owner.markReady sha256 reading world.connections connection revision) with
    ⟨error, raised⟩ | ⟨system, result, ran, called, ended⟩
  · rw [raised] at returned
    cases returned
  · rw [ended] at returned ⊢
    rcases markReady_cases sha256 ⟨system.authority.raw, world.token, eligible⟩ world.owner
        world.connections connection revision with ⟨failed, _⟩ | ⟨number, slot, found, marked⟩
    · rw [called] at failed
      exact absurd returned failed
    · rw [marked] at called
      subst called
      obtain ⟨live, entry, known, present, qualifies, listed, enabled, revised, credential⟩ :=
        qualified_grant found
      exact ⟨number, { slot with readyRevision := some revision }, live, entry, revised, rfl,
        ⟨editSlot_self present, known, qualifies, listed, enabled, serialize_sound ran⟩,
        credentialHolds_of_read rfl credential⟩

/-- **What `consume_ready` finds and leaves.** -/
theorem consumeReady_ok
    (returned : (world.consumeReady format sha256 connection revision eligible).1 = .ok true) :
    let after := (world.consumeReady format sha256 connection revision eligible).2
    ∃ number slot live entry, entry.revision = revision ∧ slot.readyRevision = some revision ∧
      Armed connection revision number world ∧ world.owner.slots[number]? = some slot ∧
      StaysReady connection number { slot with readyRevision := none } live entry after ∧
      CredentialHolds sha256 slot entry after := by
  unfold SlotWorld.consumeReady at returned ⊢
  rcases serialize_cases format world eligible (fun reading =>
      world.owner.consumeReady sha256 reading world.connections connection revision) with
    ⟨error, raised⟩ | ⟨system, result, ran, called, ended⟩
  · rw [raised] at returned
    cases returned
  · rw [ended] at returned ⊢
    rcases consumeReady_cases sha256 ⟨system.authority.raw, world.token, eligible⟩ world.owner
        world.connections connection revision with ⟨failed, _⟩ | ⟨number, slot, found, ready, used⟩
    · rw [called] at failed
      exact absurd returned failed
    · rw [used] at called
      subst called
      obtain ⟨live, entry, known, present, qualifies, listed, enabled, revised, credential⟩ :=
        qualified_grant found
      have moves := refreshConnection_moves sha256 ⟨system.authority.raw, world.token, eligible⟩
        world.owner world.connections connection
      -- The refresh left a ready slot, so it changed nothing in it.
      obtain ⟨before, earlier, quieter⟩ := moves.ready present ready
      cases quieter.eq_of_ready ready
      have named : slot.nodeId = live.nodeId := congrArg (·.scope.nodeId) qualifies.2.2.1
      have current : world.owner.active slot.nodeId = some number :=
        moves.current earlier (by rw [named]; exact qualifies.1)
      exact ⟨number, slot, live, entry, revised, ready, ⟨slot, earlier, current, qualifies.2.1,
        ready⟩, earlier, ⟨editSlot_self present, known, qualifies, listed, enabled,
        serialize_sound ran⟩, credentialHolds_of_read rfl credential⟩

/-- **A refresh that keeps an active slot** has read its credential. -/
theorem refreshCapability_held {number : Nat} {live : NodeConnection} {entry : GrantEntry}
    {result : Option ConnectionOwner.Refreshed}
    (returned : (world.refreshCapability format sha256 slot.nodeId eligible).1 = .ok result)
    (held : StaysReady connection number slot live entry
      (world.refreshCapability format sha256 slot.nodeId eligible).2) :
    CredentialHolds sha256 slot entry world := by
  unfold SlotWorld.refreshCapability at returned held
  obtain ⟨present, _, qualifies, listed, _, _⟩ := held
  rcases serialize_cases format world eligible (fun reading =>
      let refreshed := world.owner.refreshCapabilityLocked sha256 reading slot.nodeId
      (.ok refreshed.1, refreshed.2)) with
    ⟨error, raised⟩ | ⟨system, outcome, ran, rfl, ended⟩
  · rw [raised] at returned
    cases returned
  · rw [ended] at present qualifies listed
    have named : live.nodeId = slot.nodeId := congrArg (·.scope.nodeId) qualifies.2.2.1.symm
    have active := qualifies.1
    rw [named] at active
    obtain ⟨_, _, _, _, _, capability, _⟩ := qualifies
    obtain ⟨read, found, _, _, credential⟩ := refresh_active active present capability
    cases listed.symm.trans found
    exact credentialHolds_of_read rfl credential

/-! ## From the mark to the consume -/

section Since

variable {marked : SlotWorld} {connection revision number : Nat} {slot : ConnectionSlot}
  {live : NodeConnection} {entry : GrantEntry}

/-- A slot that has been ready since its mark is as the mark left it. -/
theorem slot_since {later : SlotWorld} (evolves : OwnerEvolves marked.owner later.owner)
    (sound : SlotsSound later) (held : StaysReady connection number slot live entry marked)
    (revised : entry.revision = revision) (ready : slot.readyRevision = some revision)
    (armed : Armed connection revision number later) :
    later.owner.slots[number]? = some slot ∧
      later.owner.active live.nodeId = some number := by
  obtain ⟨now, found, active, attached, stillReady⟩ := armed
  obtain ⟨same, present, evolved⟩ := evolves.slots number slot held.present
  rw [found] at present
  cases present
  obtain ⟨_, own, identity, _, _, capability, granted, _⟩ := held.qualifies
  obtain ⟨capabilityNow, grantedNow, _⟩ := sound.owner.ready number now revision found stillReady
  have unchanged : now = slot := by
    obtain ⟨identityNow, websocket, credential, _, _⟩ := evolved
    rw [revised] at granted
    cases now
    cases slot
    simp_all
  rw [unchanged] at found active
  have named : slot.nodeId = live.nodeId := congrArg (·.scope.nodeId) identity
  rw [named] at active
  exact ⟨found, active⟩

/-- **Ready since the mark.**  Where the slot is still ready, and qualifies in the end,
everything it was marked under is as it was. -/
theorem held_since (collisionFree : Function.Injective format.digest)
    (readsBack : ReadsBack format) (sound : SlotsSound marked)
    (loaded : Loaded format marked.system.authority)
    (held : StaysReady connection number slot live entry marked)
    (revised : entry.revision = revision)
    (ready : slot.readyRevision = some revision) (first rest : List SlotAction)
    (armed : Armed connection revision number (exec (slotStep format sha256) marked first))
    {slotLast : ConnectionSlot} {liveLast : NodeConnection} {entryLast : GrantEntry}
    (last : StaysReady connection number slotLast liveLast entryLast
      (exec (slotStep format sha256) marked (first ++ rest))) :
    StaysReady connection number slot live entry (exec (slotStep format sha256) marked first) ∧
      liveLast = live ∧ entryLast = entry := by
  have evolves := exec_evolves format sha256 sound first
  have soundNow := exec_slotsSound format sha256 sound first
  obtain ⟨present, active⟩ := slot_since evolves soundNow held revised ready armed
  obtain ⟨loadedNow, kept⟩ := exec_grantsKept sha256 collisionFree readsBack loaded first
  obtain ⟨_, keptLast⟩ := exec_grantsKept sha256 collisionFree readsBack loadedNow rest
  obtain ⟨liveNow, known, liveEvolves⟩ := exec_connections format sha256 first held.known
  obtain ⟨liveEnd, knownEnd, liveEvolvesEnd⟩ := exec_connections format sha256 rest known
  obtain ⟨slotNow, presentEnd, slotEvolves⟩ :=
    (exec_evolves format sha256 soundNow rest).slots number slot present
  rw [← exec_append] at keptLast knownEnd presentEnd
  -- The connection is usable in the end, so it has not changed.
  cases last.known.symm.trans knownEnd
  have usable := usable_of_qualifies last.qualifies
  have sameEnd := liveEvolvesEnd.usable usable
  rw [sameEnd] at usable
  have sameNow := liveEvolves.usable usable
  -- The grant is enabled in the end, so it has been loaded all along.
  cases last.present.symm.trans presentEnd
  have listed := last.loaded
  rw [show slotLast.nodeId = slot.nodeId from congrArg (·.scope.nodeId) slotEvolves.identity]
    at listed
  obtain ⟨entryNow, entryMarked⟩ := kept.enabled keptLast listed last.enabled
  cases held.loaded.symm.trans entryMarked
  refine ⟨⟨present, ?_, ?_, entryNow, held.enabled, ?_⟩, sameEnd.trans sameNow, rfl⟩
  · rw [known, sameNow]
  · obtain ⟨_, own, identity, epoch, bound, rest⟩ := held.qualifies
    refine ⟨active, own, identity, ?_, bound, rest⟩
    rw [evolves.epoch]
    exact epoch
  · have unpoisoned := last.sound
    by_contra poisoned
    rw [Bool.not_eq_false] at poisoned
    rw [keptLast.poisoned poisoned] at unpoisoned
    cases unpoisoned

end Since

/-! ## Superseded slots -/

/-- **A superseded slot changes nothing** by its attachment or its removal. -/
theorem superseded_unchanged (format : ConfigFormat) (sha256 : String → String)
    {socket number : Nat} (handler : (world.handlers socket).slot? = some number)
    (superseded : world.owner.isCurrent number = false) :
    (slotStep format sha256 world (.attach socket)).owner = world.owner ∧
      (slotStep format sha256 world (.remove socket)).owner = world.owner := by
  constructor
  · simp only [slotStep]
    split
    next place connection connected =>
      rw [connected] at handler
      cases handler
      rcases attach_cases format world _ connection with ⟨_, _, same⟩ | ⟨_, current, _⟩
      · split <;> next ended => rw [ended] at same; exact same
      · rw [superseded] at current
        cases current
    next => rfl
  · simp only [slotStep]
    rw [handler]
    change (world.remove format number).2.owner = world.owner
    unfold SlotWorld.remove
    rcases serialize_cases format world (.ok false) (fun _ =>
      (.ok (world.owner.remove number).1, (world.owner.remove number).2)) with
      ⟨error, raised⟩ | ⟨system, returned, _, rfl, ended⟩
    · rw [raised]
    · rw [ended]
      change (world.owner.remove number).2 = world.owner
      unfold ConnectionOwner.remove
      unfold ConnectionOwner.isCurrent at superseded
      split
      next => rfl
      next slot found =>
        rw [found, any_some, decide_eq_false_iff_not] at superseded
        rw [if_neg superseded]

/-! ## Every run -/

/-- The readiness that a consume after the run uses up is that of one mark of the run: since then
the slot, its connection and its loaded grant have stayed as they were, no consume has used it up,
every refresh of the node has read its credential, and so does the consume. -/
def FromOneMark (format : ConfigFormat) (sha256 : String → String) (start : SlotWorld)
    (run : List SlotAction) (connection revision : Nat) (after : SlotWorld) : Prop :=
  ∃ before marked between number slot live entry,
    run = before ++ .markReady connection revision marked :: between ∧
    slot.readyRevision = some revision ∧ entry.revision = revision ∧
    ((exec (slotStep format sha256) start before).markReady format sha256 connection revision
      marked).1 = .ok true ∧
    CredentialHolds sha256 slot entry (exec (slotStep format sha256) start
      (before ++ [.markReady connection revision marked])) ∧
    (∀ first rest, between = first ++ rest →
      let later := exec (slotStep format sha256) start
        (before ++ .markReady connection revision marked :: first)
      StaysReady connection number slot live entry later ∧
        (∀ other eligible others, rest = .consumeReady connection other eligible :: others →
          (later.consumeReady format sha256 connection other eligible).1 ≠ .ok true) ∧
        (∀ eligible others result, rest = .refreshCapability slot.nodeId eligible :: others →
          (later.refreshCapability format sha256 slot.nodeId eligible).1 = .ok result →
          CredentialHolds sha256 slot entry later)) ∧
    StaysReady connection number { slot with readyRevision := none } live entry after ∧
    CredentialHolds sha256 slot entry after

/-- **A consume that returns true uses up one mark.** -/
theorem consume_fromOneMark (collisionFree : Function.Injective format.digest)
    (readsBack : ReadsBack format) {start : SlotWorld} (sound : SlotsSound start)
    (loaded : Loaded format start.system.authority) (fresh : start.owner.slots = [])
    (run : List SlotAction)
    (returned : ((exec (slotStep format sha256) start run).consumeReady format sha256 connection
      revision eligible).1 = .ok true) :
    FromOneMark format sha256 start run connection revision
      ((exec (slotStep format sha256) start run).consumeReady format sha256 connection revision
        eligible).2 := by
  obtain ⟨number, slotLast, liveLast, entryLast, revisedLast, readyLast, armed, presentLast,
    heldLast, credentialLast⟩ := consumeReady_ok returned
  have absent : ¬ Armed connection revision number start := by
    rintro ⟨_, found, _⟩
    rw [fresh] at found
    cases found
  -- The slot has been ready since a mark.
  obtain ⟨before, _, between, rfl, ⟨marked, liveMarked, rfl, granted, known, active⟩, since⟩ :=
    exec_since (fun world action holds => holds.step (slotStep_cases format sha256 world action))
      (fun world action holds => armed_begins holds (slotStep_cases format sha256 world action))
      sound absent run armed
  obtain ⟨place, slot, live, entry, revised, ready, held, credential⟩ := markReady_ok granted
  have knownAfter := held.known
  rw [show ((exec (slotStep format sha256) start before).markReady format sha256 connection
    revision marked).2.connections = _ from serialize_connections, known] at knownAfter
  obtain rfl : live = liveMarked := (Option.some.inj knownAfter).symm
  cases active.symm.trans held.qualifies.1
  have soundMarked : SlotsSound ((exec (slotStep format sha256) start before).markReady format
      sha256 connection revision marked).2 :=
    (exec_slotsSound format sha256 sound before).step (worldMark_step format sha256 _ _ _ _)
  have loadedMarked := (exec_grantsKept sha256 collisionFree readsBack loaded
    (before ++ [.markReady connection revision marked])).1
  rw [exec_append] at loadedMarked
  generalize world : ((exec (slotStep format sha256) start before).markReady format sha256
    connection revision marked).2 = marking at held credential soundMarked
  have later : ∀ first, exec (slotStep format sha256) start
      (before ++ .markReady connection revision marked :: first) =
        exec (slotStep format sha256) marking first := by
    intro first
    rw [exec_append, exec_cons, ← world]
    rfl
  have sinceMark : ∀ first rest, between = first ++ rest →
      StaysReady connection number slot live entry (exec (slotStep format sha256) marking first) ∧
        liveLast = live ∧ entryLast = entry := by
    intro first rest split
    have armedLater : Armed connection revision number
        (exec (slotStep format sha256) marking first) := by
      rw [← later]
      exact since first rest split
    have heldEnd : StaysReady connection number { slotLast with readyRevision := none } liveLast
      entryLast
        (exec (slotStep format sha256) marking
          (first ++ (rest ++ [.consumeReady connection revision eligible]))) := by
      rw [← append_assoc, ← split, exec_append, ← later]
      exact heldLast
    exact held_since collisionFree readsBack soundMarked (world ▸ loadedMarked) held revised ready
      first _ armedLater heldEnd
  obtain ⟨heldNow, rfl, rfl⟩ := sinceMark between [] (append_nil between).symm
  rw [← later] at heldNow
  obtain rfl : slotLast = slot := Option.some.inj (presentLast.symm.trans heldNow.present)
  refine ⟨before, marked, between, number, slotLast, liveLast, entryLast, rfl, ready, revised,
    granted, ?_, ?_, heldLast, credentialLast⟩
  · rw [later]
    exact credential
  · intro first rest split
    dsimp only
    rw [later]
    refine ⟨(sinceMark first rest split).1, ?_, ?_⟩
    · rintro other consumer others rfl used
      obtain ⟨place, spent, _, _, _, _, _, _, heldSpent, _⟩ := consumeReady_ok used
      obtain ⟨heldAfter, _⟩ := sinceMark (first ++ [.consumeReady connection other consumer]) others
        (by rw [split, append_assoc]; rfl)
      rw [exec_append] at heldAfter
      cases heldSpent.known.symm.trans heldAfter.known
      cases heldSpent.qualifies.1.symm.trans heldAfter.qualifies.1
      cases heldSpent.present.symm.trans heldAfter.present
      cases ready
    · rintro refresher others result rfl read
      obtain ⟨heldAfter, _⟩ :=
        sinceMark (first ++ [.refreshCapability slotLast.nodeId refresher]) others
        (by rw [split, append_assoc]; rfl)
      rw [exec_append] at heldAfter
      exact refreshCapability_held read heldAfter

/-- **The live slots in every run.**  From an open authority, whatever the sockets, the
configuration and the token files do: a later slot of a node has a greater generation; the current
slot of a node is one of its own; the attachment and the removal of a superseded slot leave the
owner as it was; a slot keeps its identity and never leaves the drain, and one that is superseded
stays so; a slot in the drain is not ready; `mark_ready` returns true for the current, open and
active connection under the enabled grant of that revision; and `consume_ready` returns true only
where it uses up one earlier mark, since which nothing that was read has changed. -/
theorem slots_of_every_run (format : ConfigFormat) (sha256 : String → String)
    (collisionFree : Function.Injective format.digest) (readsBack : ReadsBack format)
    {config : ServerConfig} {tokens : Except GatewayError Unit} {file : ConfigFile}
    {authority : Authority} (opened : openAuthority format config tokens file = .ok authority)
    (token : String → Except GatewayError String) (gatewayOwnerEpoch : String)
    (run : List SlotAction) :
    let start := SlotWorld.opened ⟨authority, file⟩ token gatewayOwnerEpoch
    let world := exec (slotStep format sha256) start run
    (∀ (first second : Nat) (older newer : ConnectionSlot), first < second →
        world.owner.slots[first]? = some older → world.owner.slots[second]? = some newer →
        older.nodeId = newer.nodeId → older.generation < newer.generation) ∧
      (∀ nodeId number, world.owner.active nodeId = some number →
        ∃ slot, world.owner.slots[number]? = some slot ∧ slot.nodeId = nodeId) ∧
      (∀ socket number, (world.handlers socket).slot? = some number →
        world.owner.isCurrent number = false →
        (slotStep format sha256 world (.attach socket)).owner = world.owner ∧
          (slotStep format sha256 world (.remove socket)).owner = world.owner) ∧
      (∀ later, OwnerEvolves world.owner (exec (slotStep format sha256) world later).owner) ∧
      (∀ (number : Nat) (slot : ConnectionSlot), world.owner.slots[number]? = some slot →
        slot.capability = .drain → slot.readyRevision = none) ∧
      (∀ connection revision eligible,
        (world.markReady format sha256 connection revision eligible).1 = .ok true →
        ∃ number slot live entry, entry.revision = revision ∧
          slot.readyRevision = some revision ∧
          StaysReady connection number slot live entry
            (world.markReady format sha256 connection revision eligible).2 ∧
          CredentialHolds sha256 slot entry
            (world.markReady format sha256 connection revision eligible).2) ∧
      (∀ connection revision eligible,
        (world.consumeReady format sha256 connection revision eligible).1 = .ok true →
        FromOneMark format sha256 start run connection revision
          (world.consumeReady format sha256 connection revision eligible).2) := by
  intro start world
  have initially : SlotsSound start := slotsSound_opened _ _ _
  have sound : SlotsSound world := exec_slotsSound format sha256 initially run
  refine ⟨sound.owner.increasing, sound.owner.current, ?_, exec_evolves format sha256 sound, ?_, ?_,
    ?_⟩
  · exact fun socket number => superseded_unchanged format sha256
  · intro number slot found drains
    by_contra marked
    obtain ⟨revision, ready⟩ := ne_none_iff_exists'.mp marked
    rw [(sound.owner.ready number slot revision found ready).1] at drains
    cases drains
  · exact fun connection revision eligible => markReady_ok
  · exact fun connection revision eligible =>
      consume_fromOneMark collisionFree readsBack initially (openAuthority_loaded opened) rfl run

/-! ## A node that gets ready -/

def sampleSha256 (text : String) : String :=
  if text = "Bearer n1-secret" then
    "8fe09d2e72a277c3e06866632d1ee89cbb277c4e540f0c78782cb14117e81765"
  else "#" ++ text

def sampleToken (path : String) : Except GatewayError String :=
  if path = "n1.token" then .ok "n1-secret"
  else .error (invalid "gateway auth token file is unreadable")

def sampleSlots : SlotWorld :=
  .opened ⟨sampleAuthority, sampleFile "1" "true"⟩ sampleToken "gateway-1"

/-- A socket of the node is published and attached, and its connection marked. -/
def readyRun : List SlotAction :=
  [.authenticate 0 "Bearer n1-secret" (.ok false), .replace 0 "boot-1" (.ok false),
    .connect 0 true, .attach 0, .markReady 0 1 (.ok false)]

def restoredSlotsRun : List SlotAction :=
  readyRun ++ [.grant (.edit (sampleFile "7" "false")), .grant (.edit (sampleFile "1" "true"))]

/-- The sample's mark is consumed, and is the only one. -/
theorem sample_slots_of_every_run :
    ((exec (slotStep .sample sampleSha256) sampleSlots readyRun).consumeReady .sample sampleSha256
        0 1 (.ok false)).1 = .ok true ∧
      FromOneMark .sample sampleSha256 sampleSlots readyRun 0 1
        ((exec (slotStep .sample sampleSha256) sampleSlots readyRun).consumeReady .sample
          sampleSha256 0 1 (.ok false)).2 := by
  have returned : ((exec (slotStep .sample sampleSha256) sampleSlots readyRun).consumeReady .sample
      sampleSha256 0 1 (.ok false)).1 = .ok true := by
    decide +kernel
  obtain ⟨_, _, _, _, _, _, consumed⟩ := slots_of_every_run .sample sampleSha256
    sample_collisionFree sample_readsBack sampleAuthority_opened sampleToken "gateway-1" readyRun
  exact ⟨returned, consumed 0 1 (.ok false) returned⟩

/-- **A change that is undone goes unnoticed.**  Between the mark and the consume the file holds
another grant of the node, which is disabled and has another revision, and the consume returns
true. -/
theorem undone_edit_unnoticed :
    ((exec (slotStep .sample sampleSha256) sampleSlots (readyRun.take 4)).markReady .sample
        sampleSha256 0 1 (.ok false)).1 = .ok true ∧
      ((readConfig .sample (exec (slotStep .sample sampleSha256) sampleSlots
          (restoredSlotsRun.take 6)).system.file).map fun read => read.2.1) =
        .ok (sampleRaw 7 false) ∧
      (sampleRaw 7 false).nodes.lookup "n1" ≠ (sampleRaw 1 true).nodes.lookup "n1" ∧
      ((exec (slotStep .sample sampleSha256) sampleSlots restoredSlotsRun).consumeReady .sample
        sampleSha256 0 1 (.ok false)).1 = .ok true := by
  refine ⟨?_, ?_, ?_, ?_⟩
  · decide +kernel
  · decide +kernel
  · decide +kernel
  · decide +kernel

end Audiagentic.Node
