import Audiagentic.Foundations.Mappings
import Audiagentic.Foundations.Transactions
import Audiagentic.Node.Frames

/-!
# The node grant authority

`NodeGrantAuthority` orders effect authorizations and grant revocations by one
lock over the server's configuration file.  The authority keeps the loaded
configuration, its raw document and its digest, and compares the file with them
before every operation; a supported edit is a revocation, and everything else
poisons the authority.

A script over the authority and the file keeps what it wrote when it raises.
-/

namespace Audiagentic.Node

open Foundations Gateway

/-! ## The configuration -/

/-- `make_error_factory("VAL", "AGSV", "gateway-service")`. -/
def configError (number message : String) : GatewayError :=
  { code := "VAL-AGSV-" ++ number, kind := "gateway-service", message }

/-- `_ACTIONS`. -/
inductive PrincipalAction where
  | read
  | submit
  | cancel
  | session
deriving DecidableEq

/-- One entry of `principals` in the document. -/
structure PrincipalEntry where
  tokenFile : String
  projects : Option (List String)
  actions : Option (List PrincipalAction)
deriving DecidableEq

/-- One entry of `nodes` in the document. -/
structure GrantEntry where
  tokenFile : String
  workspaces : Mapping String
  principals : List String
  revision : Nat
  enabled : Bool
deriving DecidableEq

/-- The server document, as the YAML reader and the checks of its shape give it.  An omitted
`nodes` is the empty mapping. -/
structure RawConfig where
  serverId : String
  principals : Mapping PrincipalEntry
  nodes : Mapping GrantEntry
  /-- The version, the listeners, the project list and the service root. -/
  others : Doc
deriving DecidableEq

/-- `SharedGatewayPrincipal`. -/
structure Principal where
  principalId : String
  projects : List String
  actions : List PrincipalAction
deriving DecidableEq

/-- `SharedNodeGrant`. -/
structure Grant where
  nodeId : String
  workspaces : Mapping String
  principals : List String
  revision : Nat
  enabled : Bool
deriving DecidableEq

/-- `SharedGatewayServerConfig`. -/
structure ServerConfig where
  serverId : String
  projects : List String
  principals : List Principal
  nodes : List Grant
deriving DecidableEq

/-- `_grants`. -/
def checkGrants (value allowed : List String) (allowEmpty : Bool) : Except GatewayError Unit := do
  refuse (value = [] ∧ allowEmpty = false)
    (configError "006" "Shared gateway grants must be a non-empty list")
  refuse (¬ value.Nodup ∨ ∃ item ∈ value, item ∉ allowed)
    (configError "006" "Shared gateway grants contain duplicate or unknown entries")

def checkPrincipal (served : List String) (entry : PrincipalEntry) : Except GatewayError Unit := do
  match entry.projects with
  | some listed => checkGrants listed served true
  | none => pure ()
  match entry.actions with
  | some listed =>
    refuse (¬ listed.Nodup)
      (configError "006" "Shared gateway grants contain duplicate or unknown entries")
  | none => pure ()

def checkGrant (served principals : List String) (entry : GrantEntry) :
    Except GatewayError Unit := do
  refuse (entry.revision < 1)
    (configError "006" "Node revision must be a positive integer and enabled a boolean")
  refuse (entry.workspaces.entries = [])
    (configError "006" "Node workspaces must be a non-empty project-ID mapping")
  refuse (∃ workspace ∈ entry.workspaces.entries, workspace.2 ∉ served)
    (configError "006" "Node workspaces must reference configured server projects")
  checkGrants entry.principals principals false

def principalOf (served : List String) (entry : String × PrincipalEntry) : Principal where
  principalId := entry.1
  projects := entry.2.projects.getD served
  actions := entry.2.actions.getD [.read, .submit, .cancel, .session]

def grantOf (entry : String × GrantEntry) : Grant where
  nodeId := entry.1
  workspaces := entry.2.workspaces
  principals := entry.2.principals
  revision := entry.2.revision
  enabled := entry.2.enabled

/-- `load_shared_server_config` over the document, where `served` are the ids of the projects
that its paths lead to. -/
def loadSharedServerConfig (raw : RawConfig) (served : List String) :
    Except GatewayError ServerConfig := do
  refuse (raw.principals.entries = [])
    (configError "006" "Shared gateway principals must be a non-empty mapping")
  raw.principals.entries.forM fun entry => checkPrincipal served entry.2
  raw.nodes.entries.forM fun entry =>
    checkGrant served (raw.principals.entries.map Prod.fst) entry.2
  return {
    serverId := raw.serverId
    projects := served
    principals := raw.principals.entries.map (principalOf served)
    nodes := raw.nodes.entries.map grantOf }

def ServerConfig.grant? (config : ServerConfig) (nodeId : String) : Option Grant :=
  config.nodes.find? fun grant => decide (grant.nodeId = nodeId)

def ServerConfig.principal? (config : ServerConfig) (principalId : String) : Option Principal :=
  config.principals.find? fun principal => decide (principal.principalId = principalId)

/-! ## Revoked grants -/

def GrantEntry.revoked (entry : GrantEntry) : GrantEntry :=
  { entry with enabled := false, revision := entry.revision + 1 }

namespace RawConfig

variable (raw : RawConfig)

def revokeAll (chosen : String → Bool) : RawConfig :=
  { raw with nodes := raw.nodes.mapValues fun nodeId entry =>
      if chosen nodeId = true then entry.revoked else entry }

/-- The document that `_reload` builds from the loaded one: the grants that are enabled there
and disabled in the file are revoked. -/
def supported (found : RawConfig) : RawConfig :=
  { raw with nodes := raw.nodes.mapValues fun nodeId entry =>
      if entry.enabled = true ∧ (∃ new ∈ found.nodes.lookup nodeId, new.enabled = false) then
        entry.revoked
      else entry }

/-- The candidate of `revoke`. -/
def withRevision (nodeId : String) (revision : Nat) : RawConfig :=
  { raw with nodes := raw.nodes.mapValues fun other entry =>
      if other = nodeId then { entry with enabled := false, revision } else entry }

end RawConfig

/-! ## The file -/

/-- The YAML reader and writer, with the checks of the document's shape, and the digest of the
file's bytes. -/
structure ConfigFormat where
  parse : String → Except GatewayError RawConfig
  dump : RawConfig → String
  digest : String → String

structure ConfigFile where
  /-- The content; `none` when the file cannot be read. -/
  text : Option String
  /-- The served project ids, or the failure of a path, credential or project check. -/
  served : Except GatewayError (List String)

structure Authority where
  config : ServerConfig
  raw : RawConfig
  digest : String
  poisoned : Bool
deriving DecidableEq

structure AuthoritySystem where
  authority : Authority
  file : ConfigFile

abbrev AuthorityScript := Script GatewayError AuthoritySystem

section Operations

variable (format : ConfigFormat)

/-- `load_shared_server_config` and `load_yaml_file` of a text. -/
def readText (text : String) (served : Except GatewayError (List String)) :
    Except GatewayError (ServerConfig × RawConfig) := do
  let raw ← format.parse text
  let ids ← served
  let config ← loadSharedServerConfig raw ids
  return (config, raw)

/-- `_read`. -/
def readConfig (file : ConfigFile) : Except GatewayError (ServerConfig × RawConfig × String) :=
  match file.text with
  | none => .error (conflict "Cannot reload node authority config")
  | some text => do
    let (config, raw) ← readText format text file.served
    return (config, raw, format.digest text)

/-- The constructor of `NodeGrantAuthority`: the file still holds the given configuration and the
tokens are distinct. -/
def openAuthority (config : ServerConfig) (tokens : Except GatewayError Unit) (file : ConfigFile) :
    Except GatewayError Authority := do
  let (current, raw, digest) ← readConfig format file
  refuse (current ≠ config) (conflict "Server config changed before node authority startup")
  tokens
  return ⟨current, raw, digest, false⟩

/-- A changed document is not the loaded one with at least one grant revoked. -/
def Authority.unsupported (authority : Authority) (found : RawConfig) (digest : String) : Prop :=
  digest ≠ authority.digest ∧
    (authority.raw.supported found ≠ found ∨ authority.raw.supported found = authority.raw)

instance (authority : Authority) (found : RawConfig) (digest : String) :
    Decidable (authority.unsupported found digest) := by
  unfold Authority.unsupported
  infer_instance

def AuthoritySystem.poison (system : AuthoritySystem) : AuthoritySystem :=
  { system with authority := { system.authority with poisoned := true } }

def AuthoritySystem.load (config : ServerConfig) (raw : RawConfig) (digest : String)
    (system : AuthoritySystem) : AuthoritySystem :=
  { system with authority := { system.authority with config, raw, digest } }

def reload (expectedDigest : Option String) : AuthorityScript ServerConfig := do
  let system ← Script.read
  Script.check (refuse (system.authority.poisoned = true)
    (conflict "Node authority persistence is uncertain; reconcile before restart"))
  let (config, raw, digest) ← Script.check (readConfig format system.file)
  Script.check (refuse (∃ expected ∈ expectedDigest, expected ≠ digest)
    (conflict "Node authority config digest is stale"))
  if system.authority.unsupported raw digest then do
    Script.write AuthoritySystem.poison
    Script.check (.error (conflict "Unsupported external server config edit"))
  else do
    Script.write (AuthoritySystem.load config raw digest)
    return config

/-- `SealedNodePlacement`. -/
structure SealedPlacement where
  identity : CommandIdentity
  serverId : String
  principalId : String
  serverProjectId : String

def ServerConfig.permits (config : ServerConfig) (placement : SealedPlacement) : Bool :=
  match config.grant? placement.identity.nodeId, config.principal? placement.principalId with
  | some grant, some principal =>
    decide (placement.serverId = config.serverId) && grant.enabled &&
      decide (grant.revision = placement.identity.grantRevision) &&
      decide (grant.workspaces.lookup placement.identity.workspaceId =
        some placement.serverProjectId) &&
      grant.principals.contains placement.principalId &&
      principal.projects.contains placement.serverProjectId &&
      principal.actions.contains .submit
  | _, _ => false

/-- `authorize_effect` up to its callback, which runs when this returns. -/
def authorizeEffect (placement : SealedPlacement)
    (connection : Except GatewayError (Option ConnectionIdentity))
    (expectedDigest : Option String) : AuthorityScript Unit := do
  let config ← reload format expectedDigest
  let live ← Script.check connection
  let expected : ConnectionIdentity :=
    ⟨commandScope placement.identity, placement.identity.connectionGeneration⟩
  Script.check (refuse (live ≠ some expected ∨ config.permits placement = false)
    (conflict "Node effect placement or live connection is no longer authorized"))

/-- `serialize` up to its callback. -/
def serialize : AuthorityScript Unit := do
  let _ ← reload format none
  return ()

/-- What happens outside the authority during a revocation. -/
structure RevokeEvents where
  staging : Except GatewayError Unit
  /-- What the paths of the staging file lead to. -/
  served : Except GatewayError (List String)
  edit : Option ConfigFile
  /-- `atomic_write_bytes` returned. -/
  written : Bool
  left : ConfigFile

def revisionStale : GatewayError :=
  conflict "Node grant revision is stale or already revoked"

def persistenceUncertain : GatewayError :=
  conflict "Node grant persistence is uncertain; reconcile config"

/-- The write of `revoke` and its confirmation, with the authority poisoned. -/
def persistRevocation (payload : String) (events : RevokeEvents) : AuthorityScript Unit := do
  Script.write fun system => { system with file := events.left }
  match events.written, readConfig format events.left with
  | true, .ok (current, raw, digest) => do
    Script.check (refuse (digest ≠ format.digest payload) persistenceUncertain)
    Script.write fun system => { system with authority := ⟨current, raw, digest, false⟩ }
  | _, _ => Script.check (.error persistenceUncertain)

/-- `revoke` of an enabled grant of the expected revision. -/
def revokeGrant (nodeId : String) (expectedGrantRevision : Int) (events : RevokeEvents) :
    AuthorityScript Int := do
  let system ← Script.read
  let payload := format.dump
    (system.authority.raw.withRevision nodeId (expectedGrantRevision + 1).toNat)
  Script.check events.staging
  let _ ← Script.check (readText format payload events.served)
  Script.write fun system => { system with file := events.edit.getD system.file }
  let checked ← Script.read
  Script.check (refuse (checked.file.text = none) ⟨"", "OSError", "", []⟩)
  Script.check (refuse (checked.file.text.map format.digest ≠ some checked.authority.digest)
    (conflict "Server config changed before grant persistence"))
  Script.write AuthoritySystem.poison
  persistRevocation format payload events
  return expectedGrantRevision + 1

def revoke (nodeId : String) (expectedGrantRevision : Int) (expectedDigest : Option String)
    (events : RevokeEvents) : AuthorityScript Int := do
  let config ← reload format expectedDigest
  match config.grant? nodeId with
  | none => Script.check (.error revisionStale)
  | some grant =>
    if expectedGrantRevision < 1 then Script.check (.error revisionStale)
    else if grant.enabled = false ∧ (grant.revision : Int) = expectedGrantRevision + 1 then
      return (grant.revision : Int)
    else if grant.enabled = false ∨ (grant.revision : Int) ≠ expectedGrantRevision then
      Script.check (.error revisionStale)
    else revokeGrant format nodeId expectedGrantRevision events

end Operations

end Audiagentic.Node
