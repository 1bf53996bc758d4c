import Audiagentic.Foundations.Runs
import Audiagentic.Node.GrantAuthority

/-!
# Revocation is final

Runs of one grant authority: effects are authorized, grants revoked and the
configuration file edited in any order.  A grant that was revoked stays disabled
in the loaded document, because `_reload` accepts no other change than further
revocations, and a poisoned authority stays poisoned.
-/

namespace Audiagentic.Node

open Foundations Gateway List Option
open Script (run_check_ok_bind run_read_bind run_write_bind)

/-! ## Supported edits -/

structure RevokesSome (raw : RawConfig) (chosen : String → Bool) : Prop where
  nonempty : ∃ nodeId entry, raw.nodes.lookup nodeId = some entry ∧ chosen nodeId = true
  enabled : ∀ nodeId entry, raw.nodes.lookup nodeId = some entry → chosen nodeId = true →
    entry.enabled = true

theorem revokeAll_lookup (raw : RawConfig) (chosen : String → Bool) (nodeId : String) :
    (raw.revokeAll chosen).nodes.lookup nodeId = (raw.nodes.lookup nodeId).map fun entry =>
      if chosen nodeId = true then entry.revoked else entry :=
  Mapping.lookup_mapValues _ _ _

theorem supported_lookup (raw found : RawConfig) (nodeId : String) :
    (raw.supported found).nodes.lookup nodeId = (raw.nodes.lookup nodeId).map fun entry =>
      if entry.enabled = true ∧ (∃ new ∈ found.nodes.lookup nodeId, new.enabled = false) then
        entry.revoked
      else entry :=
  Mapping.lookup_mapValues _ _ _

variable {raw : RawConfig}

theorem revokeAll_ne {chosen : String → Bool} (revokes : RevokesSome raw chosen) :
    raw.revokeAll chosen ≠ raw := by
  intro same
  obtain ⟨nodeId, entry, found, picked⟩ := revokes.nonempty
  have looked := revokeAll_lookup raw chosen nodeId
  rw [same, found, map_some, if_pos picked] at looked
  have enabled := revokes.enabled nodeId entry found picked
  rw [Option.some.inj looked] at enabled
  cases enabled

theorem supported_revokeAll {chosen : String → Bool}
    (enabled : ∀ nodeId entry, raw.nodes.lookup nodeId = some entry → chosen nodeId = true →
      entry.enabled = true) : raw.supported (raw.revokeAll chosen) = raw.revokeAll chosen := by
  unfold RawConfig.supported
  have same : (raw.nodes.mapValues fun nodeId entry =>
      if entry.enabled = true ∧
          (∃ new ∈ (raw.revokeAll chosen).nodes.lookup nodeId, new.enabled = false) then
        entry.revoked
      else entry) = raw.nodes.mapValues fun nodeId entry =>
        if chosen nodeId = true then entry.revoked else entry := by
    refine Mapping.mapValues_congr ?_
    intro nodeId entry found
    rw [revokeAll_lookup, found, map_some]
    by_cases picked : chosen nodeId = true
    · have wasEnabled := enabled nodeId entry found picked
      rw [if_pos picked, if_pos ⟨wasEnabled, entry.revoked, rfl, rfl⟩]
    rw [if_neg picked, if_neg]
    rintro ⟨wasEnabled, new, member, disabled⟩
    cases member
    rw [wasEnabled] at disabled
    cases disabled
  rw [same]
  rfl

/-- **The supported edits.**  What `_reload` accepts is the loaded document with a non-empty set
of enabled grants revoked. -/
theorem supported_iff {found : RawConfig} :
    (raw.supported found = found ∧ raw.supported found ≠ raw) ↔
      ∃ chosen, RevokesSome raw chosen ∧ found = raw.revokeAll chosen := by
  constructor
  · rintro ⟨same, changed⟩
    -- The grants that were enabled and are disabled in the file.
    let chosen : String → Bool := fun nodeId =>
      (raw.nodes.lookup nodeId).any GrantEntry.enabled &&
        (found.nodes.lookup nodeId).any fun new => !new.enabled
    have built : raw.supported found = raw.revokeAll chosen := by
      unfold RawConfig.supported RawConfig.revokeAll
      congr 1
      refine Mapping.mapValues_congr ?_
      intro nodeId entry present
      have agrees : (entry.enabled = true ∧
          (∃ new ∈ found.nodes.lookup nodeId, new.enabled = false)) ↔ chosen nodeId = true := by
        simp only [chosen, present, any_some, Bool.and_eq_true]
        cases found.nodes.lookup nodeId <;> simp
      by_cases picked : chosen nodeId = true
      · rw [if_pos (agrees.mpr picked), if_pos picked]
      · rw [if_neg (mt agrees.mp picked), if_neg picked]
    refine ⟨chosen, ⟨?_, ?_⟩, same.symm.trans built⟩
    · by_contra empty
      refine changed (built.trans ?_)
      unfold RawConfig.revokeAll
      rw [Mapping.mapValues_eq_self]
      intro nodeId entry present
      exact if_neg fun picked => empty ⟨nodeId, entry, present, picked⟩
    · intro nodeId entry present picked
      simp only [chosen, present, any_some, Bool.and_eq_true] at picked
      exact picked.1
  · rintro ⟨chosen, revokes, rfl⟩
    have recognized := supported_revokeAll revokes.enabled
    rw [recognized]
    exact ⟨rfl, revokeAll_ne revokes⟩

/-! ## Reloading -/

variable {format : ConfigFormat}

/-- **The outcomes of `_reload`.** -/
inductive Reloaded (format : ConfigFormat) (expectedDigest : Option String)
    (system : AuthoritySystem) : Except GatewayError ServerConfig × AuthoritySystem → Prop where
  /-- The authority is poisoned, the file cannot be read, or it is not the expected one. -/
  | refused (error : GatewayError)
      (reason : system.authority.poisoned = true ∨
        (∃ failure, readConfig format system.file = .error failure) ∨
        ∃ config raw digest expected, readConfig format system.file = .ok (config, raw, digest) ∧
          expectedDigest = some expected ∧ expected ≠ digest) :
      Reloaded format expectedDigest system (.error error, system)
  /-- The file was edited in another way. -/
  | poisoned (error : GatewayError) (config : ServerConfig) (raw : RawConfig) (digest : String)
      (sound : system.authority.poisoned = false)
      (found : readConfig format system.file = .ok (config, raw, digest))
      (expected : ∀ other ∈ expectedDigest, other = digest)
      (unsupported : system.authority.unsupported raw digest) :
      Reloaded format expectedDigest system (.error error, system.poison)
  | loaded (config : ServerConfig) (raw : RawConfig) (digest : String)
      (sound : system.authority.poisoned = false)
      (found : readConfig format system.file = .ok (config, raw, digest))
      (expected : ∀ other ∈ expectedDigest, other = digest)
      (supported : ¬ system.authority.unsupported raw digest) :
      Reloaded format expectedDigest system (.ok config, system.load config raw digest)

theorem reload_cases (format : ConfigFormat) (expectedDigest : Option String)
    (system : AuthoritySystem) :
    Reloaded format expectedDigest system ((reload format expectedDigest).run system) := by
  unfold reload
  rw [run_read_bind]
  by_cases poisoned : system.authority.poisoned = true
  · rw [refuse_of poisoned]
    exact .refused _ (.inl poisoned)
  rw [refuse_of_not poisoned, run_check_ok_bind]
  have sound : system.authority.poisoned = false := by simpa using poisoned
  rcases found : readConfig format system.file with failure | ⟨config, raw, digest⟩
  · exact .refused failure (.inr (.inl ⟨failure, found⟩))
  rw [run_check_ok_bind]
  dsimp only
  by_cases stale : ∃ expected ∈ expectedDigest, expected ≠ digest
  · rw [refuse_of stale]
    obtain ⟨expected, same, different⟩ := stale
    exact .refused _ (.inr (.inr ⟨config, raw, digest, expected, found, same, different⟩))
  have expected : ∀ other ∈ expectedDigest, other = digest := by
    intro other member
    by_contra different
    exact stale ⟨other, member, different⟩
  rw [refuse_of_not stale, run_check_ok_bind]
  split
  next unsupported => exact .poisoned _ config raw digest sound found expected unsupported
  next supported => exact .loaded config raw digest sound found expected supported

/-! ## What the authority has loaded -/

def Loaded (format : ConfigFormat) (authority : Authority) : Prop :=
  ∃ text served, format.parse text = .ok authority.raw ∧ authority.digest = format.digest text ∧
    loadSharedServerConfig authority.raw served = .ok authority.config

variable {config : ServerConfig} {digest : String} {file : ConfigFile}

theorem readConfig_ok (success : readConfig format file = .ok (config, raw, digest)) :
    ∃ text served, format.parse text = .ok raw ∧ digest = format.digest text ∧
      loadSharedServerConfig raw served = .ok config := by
  unfold readConfig at success
  split at success
  next => cases success
  next text _ =>
    simp only [readText, bind_eq_ok] at success
    obtain ⟨_, ⟨found, parsed, served, _, loaded, valid, pair⟩, returned⟩ := success
    cases pair
    cases returned
    exact ⟨text, served, parsed, rfl, valid⟩

theorem grant?_of_load {served : List String}
    (success : loadSharedServerConfig raw served = .ok config) (nodeId : String) :
    config.grant? nodeId = (raw.nodes.lookup nodeId).map fun entry => grantOf (nodeId, entry) := by
  simp only [loadSharedServerConfig, bind_eq_ok] at success
  obtain ⟨_, _, _, _, _, _, returned⟩ := success
  cases returned
  unfold ServerConfig.grant? Mapping.lookup
  rw [find?_map, Option.map_map]
  change ((raw.nodes.entries.find? fun entry => decide (entry.1 = nodeId)).map grantOf) = _
  cases found : raw.nodes.entries.find? fun entry => decide (entry.1 = nodeId) with
  | none => rfl
  | some entry =>
    have chosen := find?_some found
    simp [← of_decide_eq_true chosen]

/-- The node has no enabled grant in the document. -/
def Disabled (nodeId : String) (raw : RawConfig) : Prop :=
  ∀ entry, raw.nodes.lookup nodeId = some entry → entry.enabled = false

/-- The authority lets no effect of the node through, now and, as it turns out, ever. -/
def Denied (nodeId : String) (authority : Authority) : Prop :=
  authority.poisoned = true ∨ Disabled nodeId authority.raw

variable {nodeId : String}

theorem Disabled.withRevision (disabled : Disabled nodeId raw) (other : String) (revision : Nat) :
    Disabled nodeId (raw.withRevision other revision) := by
  intro entry found
  rw [RawConfig.withRevision, Mapping.lookup_mapValues] at found
  obtain ⟨before, present, rfl⟩ := map_eq_some_iff.mp found
  by_cases same : nodeId = other
  · simp [same]
  · simp only [if_neg same]
    exact disabled before present

theorem disabled_withRevision (nodeId : String) (raw : RawConfig) (revision : Nat) :
    Disabled nodeId (raw.withRevision nodeId revision) := by
  intro entry found
  rw [RawConfig.withRevision, Mapping.lookup_mapValues] at found
  obtain ⟨before, _, rfl⟩ := map_eq_some_iff.mp found
  simp

variable {authority : Authority}

/-- A disabled grant stays disabled in every document that `_reload` accepts. -/
theorem Disabled.reload (loaded : Loaded format authority)
    (collisionFree : Function.Injective format.digest)
    (found : readConfig format file = .ok (config, raw, digest))
    (supported : ¬ authority.unsupported raw digest) (disabled : Disabled nodeId authority.raw) :
    Disabled nodeId raw := by
  obtain ⟨text, served, parsed, digested, _⟩ := loaded
  obtain ⟨newText, newServed, newParsed, newDigested, _⟩ := readConfig_ok found
  by_cases same : digest = authority.digest
  · -- The same digest is the same text, so the same document.
    have texts : newText = text := collisionFree (by rw [← newDigested, same, digested])
    rw [texts, parsed] at newParsed
    cases newParsed
    exact disabled
  · have accepted : authority.raw.supported raw = raw := by
      by_contra different
      exact supported ⟨same, .inl different⟩
    intro entry present
    rw [← accepted, supported_lookup] at present
    obtain ⟨before, beforeFound, rfl⟩ := map_eq_some_iff.mp present
    have off := disabled before beforeFound
    simp [off]

/-! ## What the operations do to the authority -/

structure KeepsDenials (format : ConfigFormat) (before after : Authority) : Prop where
  loaded : Loaded format after
  denied : ∀ nodeId, Denied nodeId before → Denied nodeId after

variable {system : AuthoritySystem}

theorem reload_keeps (loaded : Loaded format system.authority)
    (collisionFree : Function.Injective format.digest) (expectedDigest : Option String) :
    KeepsDenials format system.authority
      ((reload format expectedDigest).run system).2.authority := by
  have cases_ := reload_cases format expectedDigest system
  generalize (reload format expectedDigest).run system = outcome at cases_
  cases cases_ with
  | refused error reason => exact ⟨loaded, fun _ denied => denied⟩
  | poisoned error config raw digest _ _ _ _ => exact ⟨loaded, fun _ _ => .inl rfl⟩
  | loaded config raw digest sound found _ supported =>
    refine ⟨?_, ?_⟩
    · obtain ⟨text, served, parsed, digested, valid⟩ := readConfig_ok found
      exact ⟨text, served, parsed, digested, valid⟩
    rintro nodeId (poisoned | disabled)
    · rw [sound] at poisoned
      cases poisoned
    · exact .inr (Disabled.reload loaded collisionFree found supported disabled)

theorem serialize_system (system : AuthoritySystem) :
    ((serialize format).run system).2 = ((reload format none).run system).2 :=
  Script.run_bind_of_reads (fun _ _ => rfl) system

theorem authorizeEffect_system (placement : SealedPlacement)
    (connection : Except GatewayError (Option ConnectionIdentity))
    (expectedDigest : Option String) (system : AuthoritySystem) :
    ((authorizeEffect format placement connection expectedDigest).run system).2 =
      ((reload format expectedDigest).run system).2 := by
  refine Script.run_bind_of_reads ?_ system
  intro config store
  exact Script.run_bind_of_reads (fun _ _ => rfl) store

variable {expectedDigest : Option String}

theorem authorizeEffect_ok {placement : SealedPlacement}
    {connection : Except GatewayError (Option ConnectionIdentity)} {after : AuthoritySystem}
    (success : (authorizeEffect format placement connection expectedDigest).run system =
      (.ok (), after)) :
    after.authority.poisoned = false ∧
      ∃ entry, after.authority.raw.nodes.lookup placement.identity.nodeId = some entry ∧
        entry.enabled = true ∧ entry.revision = placement.identity.grantRevision := by
  obtain ⟨config, middle, reloaded, rest⟩ := Script.bind_eq_ok.mp success
  simp only [Script.check_bind_eq_ok, Script.run_check, Prod.mk.injEq, refuse_eq_ok, not_or,
    Bool.not_eq_false] at rest
  obtain ⟨live, _, ⟨_, permitted⟩, rfl⟩ := rest
  have outcome := reload_cases format expectedDigest system
  rw [reloaded] at outcome
  cases outcome with
  | loaded _ raw digest sound found _ _ =>
    refine ⟨sound, ?_⟩
    obtain ⟨_, served, _, _, valid⟩ := readConfig_ok found
    unfold ServerConfig.permits at permitted
    split at permitted
    next grant principal grantFound _ =>
      rw [grant?_of_load valid] at grantFound
      obtain ⟨entry, present, rfl⟩ := map_eq_some_iff.mp grantFound
      simp only [Bool.and_eq_true, decide_eq_true_eq] at permitted
      obtain ⟨⟨⟨⟨⟨⟨_, enabled⟩, revision⟩, _⟩, _⟩, _⟩, _⟩ := permitted
      exact ⟨entry, present, enabled, revision⟩
    next => cases permitted

/-- **The outcomes of `revoke`** after its reload, which left `system` and loaded `config`. -/
inductive RevokeOutcome (format : ConfigFormat) (nodeId : String) (expectedGrantRevision : Int)
    (events : RevokeEvents) (config : ServerConfig) (system : AuthoritySystem) :
    Except GatewayError Int × AuthoritySystem → Prop where
  /-- Nothing was written: an error, or a grant that is disabled already. -/
  | kept (result : Except GatewayError Int) (after : AuthoritySystem)
      (same : after.authority = system.authority)
      (disabled : ∀ revision, result = .ok revision →
        ∃ grant, config.grant? nodeId = some grant ∧ grant.enabled = false) :
      RevokeOutcome format nodeId expectedGrantRevision events config system (result, after)
  /-- The write could not be confirmed. -/
  | uncertain (error : GatewayError) (after : AuthoritySystem)
      (poisoned : after.authority = { system.authority with poisoned := true }) :
      RevokeOutcome format nodeId expectedGrantRevision events config system (.error error, after)
  /-- The revocation was written and read back. -/
  | revoked (grant : Grant) (current : ServerConfig) (raw : RawConfig) (digest : String)
      (after : AuthoritySystem) (granted : config.grant? nodeId = some grant)
      (enabled : grant.enabled = true) (revision : (grant.revision : Int) = expectedGrantRevision)
      (found : readConfig format events.left = .ok (current, raw, digest))
      (confirmed : digest = format.digest (format.dump
        (system.authority.raw.withRevision nodeId (expectedGrantRevision + 1).toNat)))
      (loaded : after.authority = ⟨current, raw, digest, false⟩) :
      RevokeOutcome format nodeId expectedGrantRevision events config system
        (.ok (expectedGrantRevision + 1), after)

/-- The write of a revocation is confirmed, or leaves the authority poisoned. -/
theorem persistRevocation_cases (payload : String) (events : RevokeEvents)
    (system : AuthoritySystem) :
    (∃ error, (persistRevocation format payload events).run system =
        (.error error, { system with file := events.left })) ∨
      ∃ current raw, readConfig format events.left = .ok (current, raw, format.digest payload) ∧
        (persistRevocation format payload events).run system =
          (.ok (), ⟨⟨current, raw, format.digest payload, false⟩, events.left⟩) := by
  unfold persistRevocation
  rw [run_write_bind]
  split
  next current raw digest _ found =>
    by_cases same : digest = format.digest payload
    · subst same
      rw [refuse_of_not (by simp), run_check_ok_bind]
      exact .inr ⟨current, raw, found, rfl⟩
    · rw [refuse_of same]
      exact .inl ⟨_, rfl⟩
  next => exact .inl ⟨_, rfl⟩

theorem revokeGrant_outcome {expectedGrantRevision : Int} (events : RevokeEvents) {grant : Grant}
    (system : AuthoritySystem) (granted : config.grant? nodeId = some grant)
    (enabled : grant.enabled = true) (revision : (grant.revision : Int) = expectedGrantRevision) :
    RevokeOutcome format nodeId expectedGrantRevision events config system
      ((revokeGrant format nodeId expectedGrantRevision events).run system) := by
  have raises : ∀ error after, after.authority = system.authority →
      RevokeOutcome format nodeId expectedGrantRevision events config system
        (.error error, after) := by
    intro error after same
    refine .kept _ after same ?_
    intro _ impossible
    cases impossible
  unfold revokeGrant
  rw [run_read_bind]
  dsimp only
  generalize payload_eq : format.dump
    (system.authority.raw.withRevision nodeId (expectedGrantRevision + 1).toNat) = payload
  rcases events.staging with error | _
  · exact raises error system rfl
  rw [run_check_ok_bind]
  rcases readText format payload events.served with error | staged
  · exact raises error system rfl
  rw [run_check_ok_bind, run_write_bind, run_read_bind]
  dsimp only
  by_cases missing : (events.edit.getD system.file).text = none
  · rw [refuse_of missing]
    exact raises _ _ rfl
  rw [refuse_of_not missing, run_check_ok_bind]
  by_cases moved : (events.edit.getD system.file).text.map format.digest ≠
      some system.authority.digest
  · rw [refuse_of moved]
    exact raises _ _ rfl
  rw [refuse_of_not moved, run_check_ok_bind, run_write_bind]
  rcases persistRevocation_cases payload events
      (AuthoritySystem.poison { system with file := events.edit.getD system.file }) with
    ⟨error, failed⟩ | ⟨current, raw, found, written⟩
  · rw [Script.run_bind_of_error failed]
    exact .uncertain error _ rfl
  · rw [Script.run_bind_of_ok written]
    exact .revoked grant current raw _ _ granted enabled revision found
      (by rw [payload_eq]) rfl

theorem revoke_outcome (format : ConfigFormat) (nodeId : String) (expectedGrantRevision : Int)
    (expectedDigest : Option String) (events : RevokeEvents) (system : AuthoritySystem) :
    (∃ error after, (reload format expectedDigest).run system = (.error error, after) ∧
        (revoke format nodeId expectedGrantRevision expectedDigest events).run system =
          (.error error, after)) ∨
      ∃ config after, (reload format expectedDigest).run system = (.ok config, after) ∧
        RevokeOutcome format nodeId expectedGrantRevision events config after
          ((revoke format nodeId expectedGrantRevision expectedDigest events).run system) := by
  unfold revoke
  rcases reloaded : (reload format expectedDigest).run system with ⟨error | config, after⟩
  · exact .inl ⟨error, after, rfl, Script.run_bind_of_error reloaded⟩
  refine .inr ⟨config, after, rfl, ?_⟩
  rw [Script.run_bind_of_ok reloaded]
  have raises : RevokeOutcome format nodeId expectedGrantRevision events config after
      (.error revisionStale, after) := by
    refine .kept _ after rfl ?_
    intro _ impossible
    cases impossible
  split
  next => exact raises
  next grant granted =>
    split
    next => exact raises
    next =>
      split
      next already =>
        refine .kept _ after rfl ?_
        exact fun _ _ => ⟨grant, granted, already.1⟩
      next =>
        split
        next => exact raises
        next current =>
          simp only [not_or, Bool.not_eq_false, ne_eq, not_not] at current
          exact revokeGrant_outcome events after granted current.1 current.2

def ReadsBack (format : ConfigFormat) : Prop :=
  ∀ text raw nodeId entry, format.parse text = .ok raw →
    raw.nodes.lookup nodeId = some entry → entry.enabled = true →
    format.parse (format.dump (raw.withRevision nodeId (entry.revision + 1))) =
      .ok (raw.withRevision nodeId (entry.revision + 1))

/-- A reload that returns has loaded what it returns, into an authority that is not poisoned. -/
theorem reload_ok {after : AuthoritySystem}
    (reloaded : (reload format expectedDigest).run system = (.ok config, after)) :
    after.authority.config = config ∧ after.authority.poisoned = false := by
  have outcome := reload_cases format expectedDigest system
  rw [reloaded] at outcome
  cases outcome with
  | loaded _ _ _ sound _ _ _ => exact ⟨rfl, sound⟩

theorem confirmed_raw (loaded : Loaded format authority)
    (collisionFree : Function.Injective format.digest) (readsBack : ReadsBack format)
    {expectedGrantRevision : Int} {grant : Grant} {current : ServerConfig}
    (granted : authority.config.grant? nodeId = some grant) (enabled : grant.enabled = true)
    (revision : (grant.revision : Int) = expectedGrantRevision)
    (found : readConfig format file = .ok (current, raw, digest))
    (confirmed : digest = format.digest (format.dump
      (authority.raw.withRevision nodeId (expectedGrantRevision + 1).toNat))) :
    raw = authority.raw.withRevision nodeId (expectedGrantRevision + 1).toNat := by
  obtain ⟨text, served, parsed, _, valid⟩ := loaded
  obtain ⟨newText, _, newParsed, newDigested, _⟩ := readConfig_ok found
  rw [grant?_of_load valid] at granted
  obtain ⟨entry, present, rfl⟩ := map_eq_some_iff.mp granted
  have next : (expectedGrantRevision + 1).toNat = entry.revision + 1 := by
    have same : ((grantOf (nodeId, entry)).revision : Int) = entry.revision := rfl
    omega
  have texts : newText = format.dump
      (authority.raw.withRevision nodeId (expectedGrantRevision + 1).toNat) :=
    collisionFree (by rw [← newDigested, confirmed])
  rw [texts, next, readsBack text authority.raw nodeId entry parsed present enabled] at newParsed
  cases newParsed
  rw [next]

/-- **A revocation keeps the denials**, and when it returns the node is denied. -/
theorem revoke_keeps (loaded : Loaded format system.authority)
    (collisionFree : Function.Injective format.digest) (readsBack : ReadsBack format)
    (nodeId : String) (expectedGrantRevision : Int) (expectedDigest : Option String)
    (events : RevokeEvents) :
    let outcome := (revoke format nodeId expectedGrantRevision expectedDigest events).run system
    KeepsDenials format system.authority outcome.2.authority ∧
      ∀ revision, outcome.1 = .ok revision → Denied nodeId outcome.2.authority := by
  intro outcome
  have keeps := reload_keeps loaded collisionFree expectedDigest
  rcases revoke_outcome format nodeId expectedGrantRevision expectedDigest events system with
    ⟨error, after, reloaded, raised⟩ | ⟨config, after, reloaded, ended⟩
  · rw [show outcome = _ from raised]
    rw [reloaded] at keeps
    refine ⟨keeps, ?_⟩
    intro _ impossible
    cases impossible
  · rw [reloaded] at keeps
    obtain ⟨same, sound⟩ := reload_ok reloaded
    subst same
    change RevokeOutcome format nodeId expectedGrantRevision events _ after outcome at ended
    clear_value outcome
    cases ended with
    | kept result last unchanged disabled =>
      refine ⟨by rw [unchanged]; exact keeps, ?_⟩
      intro revision returned
      obtain ⟨grant, granted, off⟩ := disabled revision returned
      refine .inr ?_
      rw [unchanged]
      intro entry present
      obtain ⟨_, served, _, _, valid⟩ := keeps.loaded
      rw [grant?_of_load valid, present] at granted
      cases granted
      exact off
    | uncertain error last poisoned =>
      rw [poisoned]
      refine ⟨⟨keeps.loaded, fun _ _ => .inl rfl⟩, ?_⟩
      intro _ impossible
      cases impossible
    | revoked grant current raw digest last granted enabled revision found confirmed loadedLast =>
      have written := confirmed_raw keeps.loaded collisionFree readsBack granted enabled revision
        found confirmed
      rw [loadedLast]
      refine ⟨⟨?_, ?_⟩, ?_⟩
      · obtain ⟨text, served, parsed, digested, valid⟩ := readConfig_ok found
        exact ⟨text, served, parsed, digested, valid⟩
      · intro other denied
        refine .inr ?_
        rcases keeps.denied other denied with poisoned | disabled
        · rw [sound] at poisoned
          cases poisoned
        · change Disabled other raw
          rw [written]
          exact disabled.withRevision nodeId _
      · intro _ _
        refine .inr ?_
        change Disabled nodeId raw
        rw [written]
        exact disabled_withRevision nodeId _ _

/-! ## Runs -/

/-- The authority, the file, and the effects whose callbacks ran. -/
structure GrantState where
  system : AuthoritySystem
  effects : List CommandIdentity

inductive GrantAction where
  | authorizeEffect (placement : SealedPlacement)
      (connection : Except GatewayError (Option ConnectionIdentity))
      (expectedDigest : Option String)
  | revoke (nodeId : String) (expectedGrantRevision : Int) (expectedDigest : Option String)
      (events : RevokeEvents)
  | serialize
  | edit (file : ConfigFile)

def grantStep (format : ConfigFormat) (state : GrantState) : GrantAction → GrantState
  | .authorizeEffect placement connection expectedDigest =>
    let outcome := (Node.authorizeEffect format placement connection expectedDigest).run
      state.system
    match outcome.1 with
    | .ok _ => ⟨outcome.2, state.effects ++ [placement.identity]⟩
    | .error _ => ⟨outcome.2, state.effects⟩
  | .revoke nodeId expectedGrantRevision expectedDigest events =>
    ⟨((Node.revoke format nodeId expectedGrantRevision expectedDigest events).run
      state.system).2, state.effects⟩
  | .serialize => ⟨((Node.serialize format).run state.system).2, state.effects⟩
  | .edit file => ⟨{ state.system with file }, state.effects⟩

/-- **One step**: denials stay, and a denied node gets no effect. -/
theorem grantStep_keeps {state : GrantState} (loaded : Loaded format state.system.authority)
    (collisionFree : Function.Injective format.digest) (readsBack : ReadsBack format)
    (action : GrantAction) :
    KeepsDenials format state.system.authority (grantStep format state action).system.authority ∧
      ∀ identity ∈ (grantStep format state action).effects, identity ∈ state.effects ∨
        ¬ Denied identity.nodeId state.system.authority := by
  cases action with
  | authorizeEffect placement connection expectedDigest =>
    have keeps := reload_keeps loaded collisionFree expectedDigest
    rw [← authorizeEffect_system placement connection expectedDigest] at keeps
    simp only [grantStep]
    split
    next returned =>
      refine ⟨keeps, ?_⟩
      rw [forall_mem_append, forall_mem_singleton]
      refine ⟨fun _ member => .inl member, .inr ?_⟩
      intro denied
      obtain ⟨sound, entry, present, enabled, _⟩ := authorizeEffect_ok
        (show (authorizeEffect format placement connection expectedDigest).run state.system =
          (.ok (), _) from Prod.ext returned rfl)
      rcases keeps.denied _ denied with poisoned | disabled
      · rw [sound] at poisoned
        cases poisoned
      · rw [disabled entry present] at enabled
        cases enabled
    next => exact ⟨keeps, fun _ member => .inl member⟩
  | revoke nodeId expectedGrantRevision expectedDigest events =>
    exact ⟨(revoke_keeps loaded collisionFree readsBack nodeId expectedGrantRevision
      expectedDigest events).1, fun _ member => .inl member⟩
  | serialize =>
    refine ⟨?_, fun _ member => .inl member⟩
    simp only [grantStep]
    rw [serialize_system]
    exact reload_keeps loaded collisionFree none
  | edit file => exact ⟨⟨loaded, fun _ denied => denied⟩, fun _ member => .inl member⟩

/-- The authority has loaded a text, and the node is denied and has had no effect. -/
structure Quiet (format : ConfigFormat) (nodeId : String) (state : GrantState) : Prop where
  loaded : Loaded format state.system.authority
  denied : Denied nodeId state.system.authority
  none : ∀ identity ∈ state.effects, identity.nodeId ≠ nodeId

section

variable (collisionFree : Function.Injective format.digest)
include collisionFree

/-- **A denied node gets no effect in any later run.** -/
theorem quiet_exec (readsBack : ReadsBack format) {start : GrantState}
    (quiet : Quiet format nodeId start) (later : List GrantAction) :
    Quiet format nodeId (exec (grantStep format) start later) := by
  refine exec_invariant ?_ quiet later
  intro state action holds
  obtain ⟨keeps, effects⟩ := grantStep_keeps holds.loaded collisionFree readsBack action
  refine ⟨keeps.loaded, keeps.denied nodeId holds.denied, ?_⟩
  intro identity member same
  rcases effects identity member with old | allowed
  · exact holds.none identity old same
  · rw [same] at allowed
    exact allowed holds.denied

theorem exec_loaded (readsBack : ReadsBack format) {start : GrantState}
    (loaded : Loaded format start.system.authority) (actions : List GrantAction) :
    Loaded format (exec (grantStep format) start actions).system.authority :=
  exec_invariant
    (fun (state : GrantState) action (holds : Loaded format state.system.authority) =>
      (grantStep_keeps holds collisionFree readsBack action).1.loaded)
    loaded actions

theorem poisoned_exec (readsBack : ReadsBack format) {system : AuthoritySystem}
    (loaded : Loaded format system.authority) (poisoned : system.authority.poisoned = true)
    (later : List GrantAction) : (exec (grantStep format) ⟨system, []⟩ later).effects = [] := by
  refine eq_nil_iff_forall_not_mem.mpr ?_
  intro identity member
  have quiet : Quiet format identity.nodeId ⟨system, []⟩ := by
    refine ⟨loaded, .inl poisoned, ?_⟩
    intro _ impossible
    cases impossible
  exact (quiet_exec collisionFree readsBack quiet later).none identity member rfl

end

theorem openAuthority_loaded {tokens : Except GatewayError Unit}
    (opened : openAuthority format config tokens file = .ok authority) :
    Loaded format authority := by
  simp only [openAuthority, bind_eq_ok] at opened
  obtain ⟨⟨current, raw, digest⟩, found, _, _, _, _, returned⟩ := opened
  cases returned
  obtain ⟨text, served, parsed, digested, valid⟩ := readConfig_ok found
  exact ⟨text, served, parsed, digested, valid⟩

/-- **A changed file.**  When it can be read and is the expected one, `_reload` accepts it exactly
when it is the loaded document with some enabled grants revoked, and poisons the authority
otherwise. -/
theorem reload_changed (sound : system.authority.poisoned = false)
    (found : readConfig format system.file = .ok (config, raw, digest))
    (expected : ∀ other ∈ expectedDigest, other = digest)
    (changed : digest ≠ system.authority.digest) :
    ((∃ chosen, RevokesSome system.authority.raw chosen ∧
          raw = system.authority.raw.revokeAll chosen) →
        (reload format expectedDigest).run system =
          (.ok config, system.load config raw digest)) ∧
      ((¬ ∃ chosen, RevokesSome system.authority.raw chosen ∧
          raw = system.authority.raw.revokeAll chosen) →
        ∃ error, (reload format expectedDigest).run system = (.error error, system.poison)) := by
  have outcome := reload_cases format expectedDigest system
  rw [← supported_iff]
  generalize (reload format expectedDigest).run system = result at outcome
  cases outcome with
  | refused error reason =>
    exfalso
    rcases reason with poisoned | ⟨failure, unreadable⟩ | ⟨_, _, _, _, again, same, different⟩
    · rw [sound] at poisoned
      cases poisoned
    · rw [found] at unreadable
      cases unreadable
    · rw [found] at again
      cases again
      exact different (expected _ same)
  | poisoned error _ _ _ _ again _ unsupported =>
    rw [found] at again
    cases again
    refine ⟨?_, fun _ => ⟨error, rfl⟩⟩
    rintro ⟨recognized, differs⟩
    rcases unsupported.2 with unlike | unchanged
    · exact absurd recognized unlike
    · exact absurd unchanged differs
  | loaded _ _ _ _ again _ supported =>
    rw [found] at again
    cases again
    refine ⟨fun _ => rfl, ?_⟩
    intro unsupported
    refine absurd ⟨changed, ?_⟩ supported
    by_contra neither
    rw [not_or, not_not] at neither
    exact unsupported neither

/-- A file that cannot be read, or is not the expected one, changes nothing. -/
theorem reload_refused (reason : (∃ failure, readConfig format system.file = .error failure) ∨
      ∃ config raw digest expected, readConfig format system.file = .ok (config, raw, digest) ∧
        expectedDigest = some expected ∧ expected ≠ digest) :
    ∃ error, (reload format expectedDigest).run system = (.error error, system) := by
  have expectedOne : ∀ config raw digest,
      readConfig format system.file = .ok (config, raw, digest) →
      ¬ ∀ other ∈ expectedDigest, other = digest := by
    intro config raw digest found expected
    rcases reason with ⟨failure, unreadable⟩ | ⟨_, _, _, _, again, same, different⟩
    · rw [found] at unreadable
      cases unreadable
    · rw [found] at again
      cases again
      exact different (expected _ same)
  have outcome := reload_cases format expectedDigest system
  generalize (reload format expectedDigest).run system = result at outcome
  cases outcome with
  | refused error _ => exact ⟨error, rfl⟩
  | poisoned _ config raw digest _ found expected | loaded config raw digest _ found expected =>
    exact absurd expected (expectedOne config raw digest found)

/-- **Revocation is final.**  In every run of an authority from its opening: after a revoke of a
node has returned, no effect of the node is authorized any more; a changed file that can be read
and is the expected one is accepted exactly when it is the loaded document with a non-empty set of
grants revoked, and otherwise no effect is ever authorized again; a file that cannot be read or is
not the expected one is refused and changes nothing; and after a write that could not be confirmed
no effect is ever authorized again. -/
theorem grant_revocation_final (format : ConfigFormat)
    (collisionFree : Function.Injective format.digest) (readsBack : ReadsBack format)
    {config : ServerConfig} {tokens : Except GatewayError Unit} {file : ConfigFile}
    {authority : Authority} (opened : openAuthority format config tokens file = .ok authority)
    (earlier later : List GrantAction) :
    let system := (exec (grantStep format) ⟨⟨authority, file⟩, []⟩ earlier).system
    (∀ nodeId revision expectedDigest events result,
        ((revoke format nodeId revision expectedDigest events).run system).1 = .ok result →
        ∀ identity ∈ (exec (grantStep format)
          ⟨((revoke format nodeId revision expectedDigest events).run system).2, []⟩ later).effects,
          identity.nodeId ≠ nodeId) ∧
      (∀ expectedDigest, system.authority.poisoned = false →
        (∀ current raw digest, readConfig format system.file = .ok (current, raw, digest) →
          (∀ other ∈ expectedDigest, other = digest) → digest ≠ system.authority.digest →
          ((reload format expectedDigest).run system =
              (.ok current, system.load current raw digest) ↔
            ∃ chosen, RevokesSome system.authority.raw chosen ∧
              raw = system.authority.raw.revokeAll chosen) ∧
          ((¬ ∃ chosen, RevokesSome system.authority.raw chosen ∧
              raw = system.authority.raw.revokeAll chosen) →
            (exec (grantStep format) ⟨((reload format expectedDigest).run system).2, []⟩
              later).effects = [])) ∧
        ((∃ failure, readConfig format system.file = .error failure) ∨
          (∃ current raw digest expected,
            readConfig format system.file = .ok (current, raw, digest) ∧
            expectedDigest = some expected ∧ expected ≠ digest) →
          ∃ error, (reload format expectedDigest).run system = (.error error, system))) ∧
      (∀ payload events error,
        ((persistRevocation format payload events).run system.poison).1 = .error error →
        (exec (grantStep format)
          ⟨((persistRevocation format payload events).run system.poison).2, []⟩ later).effects =
            []) := by
  intro system
  have loaded : Loaded format system.authority :=
    exec_loaded collisionFree readsBack (openAuthority_loaded opened) earlier
  refine ⟨?_, ?_, ?_⟩
  · intro nodeId revision expectedDigest events result returned
    obtain ⟨keeps, denied⟩ := revoke_keeps loaded collisionFree readsBack nodeId revision
      expectedDigest events
    have quiet : Quiet format nodeId
        ⟨((revoke format nodeId revision expectedDigest events).run system).2, []⟩ := by
      refine ⟨keeps.loaded, denied result returned, ?_⟩
      intro _ impossible
      cases impossible
    exact (quiet_exec collisionFree readsBack quiet later).none
  · intro expectedDigest sound
    refine ⟨?_, ?_⟩
    · intro current raw digest found expected changed
      obtain ⟨accepts, rejects⟩ := reload_changed sound found expected changed
      refine ⟨⟨?_, accepts⟩, ?_⟩
      · intro accepted
        by_contra unsupported
        obtain ⟨error, refused⟩ := rejects unsupported
        rw [refused] at accepted
        cases accepted
      · intro unsupported
        obtain ⟨error, refused⟩ := rejects unsupported
        rw [refused]
        exact poisoned_exec collisionFree readsBack
          (show Loaded format system.poison.authority from loaded) rfl later
    · exact reload_refused
  · intro payload events error failed
    rcases persistRevocation_cases payload events system.poison with
      ⟨_, raised⟩ | ⟨_, _, _, returned⟩
    · rw [raised]
      exact @poisoned_exec format collisionFree readsBack
        { system.poison with file := events.left } loaded rfl later
    · rw [returned] at failed
      cases failed

/-! ## A stale digest does not poison -/

def sampleText (revision enabled : String) : String :=
  "schema-version: 1\nserver-id: server\nlisten:\n  port: 0\nprincipals:\n  p:\n    token-file: " ++
    "p.token\nnode-listen:\n  port: 0\nnodes:\n  n1:\n    token-file: n1.token\n    workspaces:\n"
    ++
    "      w: proj\n    principals:\n    - p\n    revision: " ++ revision ++
    "\n    enabled: " ++ enabled ++ "\n"

def sampleRaw (revision : Nat) (enabled : Bool) : RawConfig where
  serverId := "server"
  principals := ⟨[("p", ⟨"p.token", none, none⟩)], pairwise_singleton _ _⟩
  nodes := ⟨[("n1", ⟨"n1.token", ⟨[("w", "proj")], pairwise_singleton _ _⟩, ["p"], revision,
    enabled⟩)], pairwise_singleton _ _⟩
  others := "schema-version 1, listen port 0, node-listen port 0"

/-- The grant as it was enrolled, revoked, and disabled by hand with another revision; with the
SHA-256 digests of the three texts. -/
def ConfigFormat.sample : ConfigFormat where
  parse text :=
    if text = sampleText "1" "true" then .ok (sampleRaw 1 true)
    else if text = sampleText "2" "false" then .ok (sampleRaw 2 false)
    else if text = sampleText "7" "false" then .ok (sampleRaw 7 false)
    else .error (configError "006" "Cannot load shared gateway YAML configuration")
  dump raw := if raw = sampleRaw 2 false then sampleText "2" "false" else ""
  digest text :=
    if text = sampleText "1" "true" then
      "a5469fba3c24f75c3eb7caa8a104ff12bb3d60382d3703cd86c27681cf46390a"
    else if text = sampleText "2" "false" then
      "8d61b9b86cd5beec375bc512e32d9e96b9ab3d96405071575183a68768972a82"
    else if text = sampleText "7" "false" then
      "13b6b996b01d32603087b9fc5b386c9dd0c31872ba7a2b698ba7dcaa4355844b"
    else "#" ++ text

def sampleFile (revision enabled : String) : ConfigFile where
  text := some (sampleText revision enabled)
  served := .ok ["proj"]

def sampleAuthority : Authority where
  config := ⟨"server", ["proj"], [⟨"p", ["proj"], [.read, .submit, .cancel, .session]⟩],
    [⟨"n1", ⟨[("w", "proj")], pairwise_singleton _ _⟩, ["p"], 1, true⟩]⟩
  raw := sampleRaw 1 true
  digest := "a5469fba3c24f75c3eb7caa8a104ff12bb3d60382d3703cd86c27681cf46390a"
  poisoned := false

theorem sampleAuthority_opened :
    openAuthority .sample sampleAuthority.config (.ok ()) (sampleFile "1" "true") =
      .ok sampleAuthority := by
  decide +kernel

def samplePlacement : SealedPlacement where
  identity := { sampleIdentity with nodeId := "n1", workspaceId := "w", grantRevision := 1 }
  serverId := "server"
  principalId := "p"
  serverProjectId := "proj"

def sampleConnection : ConnectionIdentity :=
  ⟨commandScope samplePlacement.identity, samplePlacement.identity.connectionGeneration⟩

/-- The file is edited by hand while a caller still expects the old digest, and restored. -/
def restoredRun : List GrantAction :=
  [.edit (sampleFile "7" "false"),
    .authorizeEffect samplePlacement (.ok (some sampleConnection)) (some sampleAuthority.digest),
    .edit (sampleFile "1" "true"),
    .authorizeEffect samplePlacement (.ok (some sampleConnection)) none]

/-- **A refused edit does not always poison.**  The edit is no revocation, the reload that sees it
refuses it, and the authority is as before: with the old file back, an effect is authorized. -/
theorem stale_digest_does_not_poison :
    (¬ ∃ chosen, RevokesSome sampleAuthority.raw chosen ∧
        sampleRaw 7 false = sampleAuthority.raw.revokeAll chosen) ∧
      (exec (grantStep .sample) ⟨⟨sampleAuthority, sampleFile "1" "true"⟩, []⟩
        (restoredRun.take 2)).system.authority = sampleAuthority ∧
      (exec (grantStep .sample) ⟨⟨sampleAuthority, sampleFile "1" "true"⟩, []⟩
        restoredRun).effects = [samplePlacement.identity] := by
  rw [← supported_iff]
  refine ⟨?_, ?_, ?_⟩
  · decide +kernel
  · decide +kernel
  · decide +kernel

theorem sample_digest_cases (text : String) :
    (text = sampleText "1" "true" ∧ ConfigFormat.sample.digest text =
        "a5469fba3c24f75c3eb7caa8a104ff12bb3d60382d3703cd86c27681cf46390a") ∨
      (text = sampleText "2" "false" ∧ ConfigFormat.sample.digest text =
        "8d61b9b86cd5beec375bc512e32d9e96b9ab3d96405071575183a68768972a82") ∨
      (text = sampleText "7" "false" ∧ ConfigFormat.sample.digest text =
        "13b6b996b01d32603087b9fc5b386c9dd0c31872ba7a2b698ba7dcaa4355844b") ∨
      ConfigFormat.sample.digest text = "#" ++ text := by
  simp only [ConfigFormat.sample]
  split
  next enrolled => exact .inl ⟨enrolled, rfl⟩
  next =>
    split
    next revoked => exact .inr (.inl ⟨revoked, rfl⟩)
    next =>
      split
      next edited => exact .inr (.inr (.inl ⟨edited, rfl⟩))
      next => exact .inr (.inr (.inr rfl))

theorem ne_marked (first : digest.toList.head? ≠ some '#') (text : String) :
    digest ≠ "#" ++ text := by
  intro same
  rw [same] at first
  exact first (by simp)

theorem sample_collisionFree : Function.Injective ConfigFormat.sample.digest := by
  intro first second same
  rcases sample_digest_cases first with ⟨rfl, left⟩ | ⟨rfl, left⟩ | ⟨rfl, left⟩ | left <;>
    rcases sample_digest_cases second with ⟨rfl, right⟩ | ⟨rfl, right⟩ | ⟨rfl, right⟩ | right <;>
    have digests := left.symm.trans (same.trans right)
  all_goals first
    | exact absurd digests (by decide +kernel)
    | exact absurd digests (ne_marked (by decide +kernel) _)
    | exact absurd digests.symm (ne_marked (by decide +kernel) _)
    | exact (String.append_right_inj "#").mp digests
    | rfl

theorem sample_readsBack : ReadsBack .sample := by
  intro text raw nodeId entry parsed present enabled
  have read : raw = sampleRaw 1 true ∨ raw = sampleRaw 2 false ∨ raw = sampleRaw 7 false := by
    simp only [ConfigFormat.sample] at parsed
    split at parsed
    · cases parsed
      exact .inl rfl
    split at parsed
    · cases parsed
      exact .inr (.inl rfl)
    split at parsed
    · cases parsed
      exact .inr (.inr rfl)
    · cases parsed
  have member := Mapping.mem_of_lookup present
  rcases read with rfl | rfl | rfl
  · cases mem_singleton.mp member
    decide +kernel
  · cases mem_singleton.mp member
    cases enabled
  · cases mem_singleton.mp member
    cases enabled

/-- The revocation of the sample's grant, with nothing in its way. -/
def sampleEvents : RevokeEvents where
  staging := .ok ()
  served := .ok ["proj"]
  edit := none
  written := true
  left := sampleFile "2" "false"

/-- The sample's grant is revoked for good. -/
theorem sample_revocation_final :
    ((revoke .sample "n1" 1 none sampleEvents).run
        ⟨sampleAuthority, sampleFile "1" "true"⟩).1 = .ok 2 ∧
      ∀ later, ∀ identity ∈ (exec (grantStep .sample)
        ⟨((revoke .sample "n1" 1 none sampleEvents).run
          ⟨sampleAuthority, sampleFile "1" "true"⟩).2, []⟩ later).effects,
        identity.nodeId ≠ "n1" := by
  have returned : ((revoke .sample "n1" 1 none sampleEvents).run
      ⟨sampleAuthority, sampleFile "1" "true"⟩).1 = .ok 2 := by
    decide +kernel
  refine ⟨returned, ?_⟩
  intro later
  exact (grant_revocation_final .sample sample_collisionFree sample_readsBack
    sampleAuthority_opened [] later).1 "n1" 1 none sampleEvents 2 returned

end Audiagentic.Node
