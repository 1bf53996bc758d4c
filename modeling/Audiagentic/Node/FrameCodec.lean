import Audiagentic.Foundations.JsonNodes
import Audiagentic.Foundations.PythonValues
import Audiagentic.Foundations.Utf8
import Audiagentic.Node.Frames

/-!
# The codec of node frames

A frame is built from values that nothing is known of, written as canonical JSON, and read back
from bytes.  Its payload is checked twice: when it is frozen, with the depth counted from the
payload, and when the frame is written, with the depth counted from the frame.

The JSON module is a host: `dumps` writes an object in the order of its entries, and sorting the
keys is a step of its own here.
-/

namespace Audiagentic.Node.Codec

open Foundations Gateway
open Foundations.Utf8 (Bytes)

/-! ## Values -/

/-- A value given to the codec.  A key is absent where it is not a string. -/
inductive Given where
  | null
  | scalar (value : Scalar)
  | nan
  /-- An instance of any other type. -/
  | foreign
  | sequence (items : List Given)
  | mapping (entries : List (Option Text × Given))

namespace Given

mutual
def ofJson : Json Scalar → Given
  | .null => null
  | .scalar value => scalar value
  | .list items => sequence (ofItems items)
  | .map entries => mapping (ofEntries entries)

def ofItems : List (Json Scalar) → List Given
  | [] => []
  | item :: rest => ofJson item :: ofItems rest

def ofEntries : Json.Entries Scalar → List (Option Text × Given)
  | [] => []
  | (name, value) :: rest => (some name, ofJson value) :: ofEntries rest
end

def text (value : String) : Given := scalar (.str value.toList)

def number (value : ℕ) : Given := scalar (.int value)

def item? (entries : List (Option Text × Given)) (key : Option Text) : Option Given :=
  (entries.find? fun entry => entry.1 = key).map Prod.snd

/-- `value[key]`, where the key is there. -/
def valueAt (entries : List (Option Text × Given)) (name : Text) : Given :=
  (item? entries (some name)).getD null

/-- The values of a mapping with exactly these keys: `isinstance(value, Mapping)` and
`set(value) == names`. -/
def fields? (names : List Text) : Given → Option (Text → Given)
  | mapping entries =>
    if (∀ entry ∈ entries, ∃ name ∈ names, entry.1 = some name) ∧
        ∀ name ∈ names, some name ∈ entries.map Prod.fst then some (valueAt entries)
    else none
  | _ => none

end Given

/-! ## Freezing -/

def privateKeys : List Text :=
  ["native-ref".toList, "native-reference".toList, "native-locator".toList,
    "native_ref".toList, "native_reference".toList, "native_locator".toList,
    "native-correlation".toList, "native_correlation".toList]

/-- `not isinstance(k, str) or k in _PRIVATE_KEYS`. -/
def refusedKey : Option Text → Bool
  | some name => decide (name ∈ privateKeys)
  | none => true

/-- `math.isfinite`, true of what is no float. -/
def isFinite : Scalar → Bool
  | .float (.infinite _) => false
  | _ => true

/-- The bound of `_freeze`. -/
def maxDepth : ℕ := 64

def nestingError : GatewayError := invalid "Node payload nesting exceeds the supported bound"

def fieldError : GatewayError := invalid "Invalid or private node payload field"

def valueError : GatewayError := invalid "Node payload must contain finite JSON values"

mutual
def freeze (depth : ℕ) : Given → Except GatewayError (Json Scalar)
  | .mapping entries => do
    refuse (maxDepth < depth) nestingError
    refuse (entries.any (fun entry => refusedKey entry.1) = true) fieldError
    let frozen ← freezeEntries (depth + 1) entries
    return .map (OrderedDict.ofList frozen).entries
  | .sequence items => do
    refuse (maxDepth < depth) nestingError
    let frozen ← freezeItems (depth + 1) items
    return .list frozen
  | .null => do
    refuse (maxDepth < depth) nestingError
    return .null
  | .scalar value => do
    refuse (maxDepth < depth) nestingError
    refuse (isFinite value = false) valueError
    return .scalar value
  | .nan => do
    refuse (maxDepth < depth) nestingError
    .error valueError
  | .foreign => do
    refuse (maxDepth < depth) nestingError
    .error valueError

def freezeItems (depth : ℕ) : List Given → Except GatewayError (List (Json Scalar))
  | [] => .ok []
  | item :: rest => do
    let frozen ← freeze depth item
    let others ← freezeItems depth rest
    return frozen :: others

def freezeEntries (depth : ℕ) : List (Option Text × Given) →
    Except GatewayError (Json.Entries Scalar)
  | [] => .ok []
  | (some name, value) :: rest => do
    let frozen ← freeze depth value
    let others ← freezeEntries depth rest
    return (name, frozen) :: others
  -- Such a key was refused before.
  | (none, _) :: _ => .error fieldError
end

/-! ## The JSON module -/

/-- A scalar of a JSON text: a value, or a constant that JSON does not have. -/
inductive RawScalar where
  | value (scalar : Scalar)
  | constant (name : Text)

/-- What a reader hands to its hooks: the keys of an object that was read, or a constant. -/
inductive HookCall where
  | pairs (keys : List Text)
  | constant

structure FrameJson where
  /-- `json.dumps(value, ensure_ascii=False, allow_nan=False, separators=(",", ":"))`. -/
  dumps : Json Scalar → Option Text
  /-- What `json.loads` reads, or what it had handed to its hooks when it gave up. -/
  parse : Text → Except (List HookCall) (Json RawScalar)

def toRaw : Json Scalar → Json RawScalar := Json.mapScalars .value

def Finite (document : Json Scalar) : Prop :=
  document.Everywhere fun _ node => ∀ value, node = .scalar value → isFinite value = true

/-- **The JSON module round-trips finite values.** -/
def FrameJson.RoundTrips (json : FrameJson) : Prop :=
  ∀ document text, document.distinct = true → Finite document →
    json.dumps document = some text → json.parse text = .ok (toRaw document)

/-- `_pairs` or `_constant`. -/
def hook : HookCall → Except GatewayError Unit
  | .pairs keys => refuse (¬ keys.Nodup) (invalid "Duplicate node JSON key")
  | .constant => .error (invalid "Non-finite node JSON value")

mutual
/-- What reading a text gives under the hooks: an object is handed over after its values. -/
def load : Json RawScalar → Except GatewayError (Json Scalar)
  | .null => .ok .null
  | .scalar (.value value) => .ok (.scalar value)
  | .scalar (.constant _) => do
    hook .constant
    return .null
  | .list items => do
    let loaded ← loadItems items
    return .list loaded
  | .map entries => do
    let loaded ← loadEntries entries
    hook (.pairs (entries.map Prod.fst))
    return .map loaded

def loadItems : List (Json RawScalar) → Except GatewayError (List (Json Scalar))
  | [] => .ok []
  | item :: rest => do
    let loaded ← load item
    let others ← loadItems rest
    return loaded :: others

def loadEntries : Json.Entries RawScalar → Except GatewayError (Json.Entries Scalar)
  | [] => .ok []
  | (name, value) :: rest => do
    let loaded ← load value
    let others ← loadEntries rest
    return (name, loaded) :: others
end

variable (json : FrameJson)

def canonicalJson (value : Given) : Except GatewayError Bytes := do
  let frozen ← freeze 0 value
  match json.dumps frozen.sortKeys with
  | some text => return Utf8.encode text
  | none => .error (invalid "Node contract is not valid UTF-8 JSON")

/-! ## Contract values -/

def identifier : Given → Except GatewayError String
  | .scalar (.str value) => do
    refuse (isIdentifier (String.ofList value) = false)
      (invalid "Invalid node contract identifier")
    return String.ofList value
  | _ => .error (invalid "Invalid node contract identifier")

def integer : Given → Except GatewayError ℕ
  | .scalar (.int value) => do
    refuse (¬ (1 ≤ value ∧ value ≤ maxInteger)) (invalid "Invalid node contract integer")
    return value.toNat
  | _ => .error (invalid "Invalid node contract integer")

/-- `is_sha256_hex`. -/
def payloadDigest : Given → Except GatewayError String
  | .scalar (.str value) => do
    refuse (isSha256Hex (String.ofList value) = false) (invalid "Invalid command payload digest")
    return String.ofList value
  | _ => .error (invalid "Invalid command payload digest")

/-! ## Frames -/

def typeName : FrameType → String
  | .hello => "hello"
  | .welcome => "welcome"
  | .heartbeat => "heartbeat"
  | .command => "command"
  | .effectAuthorize => "effect-authorize"
  | .effectAuthorized => "effect-authorized"
  | .effectDenied => "effect-denied"
  | .receipt => "receipt"
  | .reconcile => "reconcile"
  | .reconcileResult => "reconcile-result"
  | .revoke => "revoke"
  | .error => "error"

/-- `_TYPES`. -/
def frameTypes : List FrameType :=
  [.hello, .welcome, .heartbeat, .command, .effectAuthorize, .effectAuthorized, .effectDenied,
    .receipt, .reconcile, .reconcileResult, .revoke, .error]

/-- `self.type in _TYPES`. -/
def frameType : Given → Except GatewayError FrameType
  | .scalar (.str value) =>
    match frameTypes.find? fun type => (typeName type).toList = value with
    | some type => .ok type
    | none => .error (invalid "Unsupported node frame type")
  | _ => .error (invalid "Unsupported node frame type")

/-- `Frame`, with its payload frozen. -/
structure Frame where
  version : ℕ
  type : FrameType
  messageId : String
  nodeId : String
  nodeEpoch : String
  gatewayOwnerEpoch : String
  sequence : ℕ
  payload : Json Scalar
deriving DecidableEq

/-- The arguments of `Frame(...)`. -/
structure FrameArguments where
  version : Given
  type : Given
  messageId : Given
  nodeId : Given
  nodeEpoch : Given
  gatewayOwnerEpoch : Given
  sequence : Given
  payload : Given

def Frame.header (frame : Frame) : Json.Entries Scalar :=
  [("version".toList, .scalar (.int frame.version)),
    ("type".toList, .scalar (.str (typeName frame.type).toList)),
    ("message-id".toList, .scalar (.str frame.messageId.toList)),
    ("node-id".toList, .scalar (.str frame.nodeId.toList)),
    ("node-epoch".toList, .scalar (.str frame.nodeEpoch.toList)),
    ("gateway-owner-epoch".toList, .scalar (.str frame.gatewayOwnerEpoch.toList)),
    ("sequence".toList, .scalar (.int frame.sequence))]

def Frame.entries (frame : Frame) : Json.Entries Scalar :=
  frame.header ++ [("payload".toList, frame.payload)]

def frameNames : List Text :=
  ["version".toList, "type".toList, "message-id".toList, "node-id".toList, "node-epoch".toList,
    "gateway-owner-epoch".toList, "sequence".toList, "payload".toList]

def Frame.toBytes (frame : Frame) : Except GatewayError Bytes :=
  canonicalJson json (.ofJson (.map frame.entries))

def maxFrameBytes : ℕ := 1024 * 1024

/-- `isinstance(self.payload, Mapping)`, then `_freeze(self.payload)`. -/
def freezePayload : Given → Except GatewayError (Json Scalar)
  | .mapping entries => freeze 0 (.mapping entries)
  | _ => .error (invalid "Node frame payload must be an object")

/-- `Frame(...)`, with `Frame.__post_init__`. -/
def construct (arguments : FrameArguments) : Except GatewayError Frame := do
  match arguments.version with
  | .scalar (.int 1) =>
    let type ← frameType arguments.type
    let messageId ← identifier arguments.messageId
    let nodeId ← identifier arguments.nodeId
    let nodeEpoch ← identifier arguments.nodeEpoch
    let gatewayOwnerEpoch ← identifier arguments.gatewayOwnerEpoch
    let sequence ← integer arguments.sequence
    let payload ← freezePayload arguments.payload
    let frame : Frame :=
      { version := 1, type, messageId, nodeId, nodeEpoch, gatewayOwnerEpoch, sequence, payload }
    let bytes ← frame.toBytes json
    refuse (maxFrameBytes < bytes.length) (invalid "Node frame exceeds 1 MiB")
    return frame
  | _ => .error (invalid "Unsupported node frame version")

def argumentsOf (read : Text → Given) : FrameArguments where
  version := read "version".toList
  type := read "type".toList
  messageId := read "message-id".toList
  nodeId := read "node-id".toList
  nodeEpoch := read "node-epoch".toList
  gatewayOwnerEpoch := read "gateway-owner-epoch".toList
  sequence := read "sequence".toList
  payload := read "payload".toList

/-- `json.loads(raw.decode("utf-8"), object_pairs_hook=_pairs, parse_constant=_constant)`. -/
def decodeJson (raw : Bytes) : Except GatewayError (Json Scalar) :=
  match Utf8.decode raw with
  | none => .error (invalid "Invalid node JSON frame")
  | some text =>
    match json.parse text with
    | .ok document => load document
    | .error calls => do
      calls.forM hook
      .error (invalid "Invalid node JSON frame")

def fromBytes (raw : Bytes) : Except GatewayError Frame := do
  refuse (maxFrameBytes < raw.length) (invalid "Node frame must be at most 1 MiB of UTF-8 JSON")
  let document ← decodeJson json raw
  match (Given.ofJson document).fields? frameNames with
  | some read => construct json (argumentsOf read)
  | none => .error (invalid "Invalid node frame fields")

/-! ## Command identities -/

def identityNames : List Text :=
  ["command-id".toList, "request-id".toList, "node-id".toList, "node-epoch".toList,
    "gateway-owner-epoch".toList, "connection-generation".toList, "workspace-id".toList,
    "grant-revision".toList, "binding-generation".toList, "payload-sha256".toList,
    "execution-profile-id".toList]

def identityEntries (identity : CommandIdentity) : Json.Entries Scalar :=
  [("command-id".toList, .scalar (.str identity.commandId.toList)),
    ("request-id".toList, .scalar (.str identity.requestId.toList)),
    ("node-id".toList, .scalar (.str identity.nodeId.toList)),
    ("node-epoch".toList, .scalar (.str identity.nodeEpoch.toList)),
    ("gateway-owner-epoch".toList, .scalar (.str identity.gatewayOwnerEpoch.toList)),
    ("connection-generation".toList, .scalar (.int identity.connectionGeneration)),
    ("workspace-id".toList, .scalar (.str identity.workspaceId.toList)),
    ("grant-revision".toList, .scalar (.int identity.grantRevision)),
    ("binding-generation".toList, .scalar (.int identity.bindingGeneration)),
    ("payload-sha256".toList, .scalar (.str identity.payloadSha256.toList)),
    ("execution-profile-id".toList, .scalar (.str identity.executionProfileId.toList))]

def toMapping (identity : CommandIdentity) : Given := .ofJson (.map (identityEntries identity))

/-- `CommandIdentity(...)`, with `CommandIdentity.__post_init__`, from arguments by name. -/
def constructIdentity (read : Text → Given) : Except GatewayError CommandIdentity := do
  let commandId ← identifier (read "command-id".toList)
  let requestId ← identifier (read "request-id".toList)
  let nodeId ← identifier (read "node-id".toList)
  let nodeEpoch ← identifier (read "node-epoch".toList)
  let gatewayOwnerEpoch ← identifier (read "gateway-owner-epoch".toList)
  let connectionGeneration ← integer (read "connection-generation".toList)
  let workspaceId ← identifier (read "workspace-id".toList)
  let grantRevision ← integer (read "grant-revision".toList)
  let bindingGeneration ← integer (read "binding-generation".toList)
  let payloadSha256 ← payloadDigest (read "payload-sha256".toList)
  let executionProfileId ← identifier (read "execution-profile-id".toList)
  return { commandId, requestId, nodeId, nodeEpoch, gatewayOwnerEpoch, connectionGeneration,
           workspaceId, grantRevision, bindingGeneration, payloadSha256, executionProfileId }

def fromMapping (value : Given) : Except GatewayError CommandIdentity :=
  match value.fields? identityNames with
  | some read => constructIdentity read
  | none => .error (invalid "Invalid command identity fields")

def digest (sha256 : Bytes → Text) (identity : CommandIdentity) : Except GatewayError Text := do
  let bytes ← canonicalJson json (toMapping identity)
  return sha256 bytes

end Audiagentic.Node.Codec
