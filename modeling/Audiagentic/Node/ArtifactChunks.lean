import Audiagentic.Foundations.Base64
import Audiagentic.Foundations.PythonValues
import Audiagentic.Node.ReceiptEffects

/-!
# Artifact chunks

A terminal artifact leaves its node in chunks.  `read_artifact_chunk` cuts one from the stored
bytes, the recipient runtime puts it on the wire, and `_parse_artifact_chunk` reads it at the
gateway.

A chunk that was read within the bound of both sides is parsed as it was sent
(`parseArtifactChunk_payload`).
-/

namespace Audiagentic.Node

open Foundations Gateway

def maxChunkBytes : Nat := 256 * 1024

def invalidInteger : GatewayError := invalid "Invalid node contract integer"

/-- `_digest(value)`. -/
def checkDigest (value : String) : Except GatewayError Unit :=
  refuse (isSha256Hex value = false) (invalid "Receipt digest must be a lowercase SHA256")

/-! ## Reading a chunk -/

section Read

variable (sha256 : List UInt8 → String)

/-- `_read_output_bytes`: the bytes of a regular file that does not exceed the bound. -/
def OutputDirectory.readOutputBytes (outputs : OutputDirectory) (digest : String)
    (maxBytes : Nat) : Except GatewayError (List UInt8) := do
  refuse (isSha256Hex digest = false) (conflict "Invalid private output digest")
  let raw ← outputs.bytes digest
  refuse (maxBytes < raw.length) (invalid "Private terminal artifact exceeds trusted byte bound")
  return raw

def artifactBytes (storage : Storage) (identity : CommandIdentity) (expectedSha256 : String)
    (maxBytes : Nat) : Statement (Option ArtifactKind × List UInt8) := do
  Script.check (refuse (isContractInteger maxBytes = false) invalidInteger)
  Script.check (checkDigest expectedSha256)
  storage.transaction do
    let row ← selectRow identity
    Script.check (refuse (row.state ≠ .terminal ∨ row.outputDigest ≠ some expectedSha256)
      (conflict "Artifact does not match exact terminal receipt digest"))
    let raw ← Script.check (storage.outputs.readOutputBytes expectedSha256 maxBytes)
    return (row.artifactKind, raw)

structure NodeArtifactChunk where
  artifactKind : Option ArtifactKind
  totalBytes : Nat
  data : List UInt8
  eof : Bool
  artifactSha256 : String
  offset : Nat

/-- `read_artifact_chunk`; without a receipt store there is no storage. -/
def readArtifactChunk (storage : Option Storage) (identity : CommandIdentity)
    (expectedSha256 : String) (offset limit maxTotalBytes : Nat) :
    Statement NodeArtifactChunk := do
  Script.check (checkDigest expectedSha256)
  Script.check (refuse (maxInteger < offset) invalidInteger)
  Script.check (refuse (isContractInteger limit = false) invalidInteger)
  Script.check (refuse (isContractInteger maxTotalBytes = false) invalidInteger)
  Script.check (refuse (maxChunkBytes < limit ∨ maxTotalBytes < offset)
    (invalid "Artifact read exceeds trusted chunk or total bounds"))
  match storage with
  | none => Script.check (.error (conflict "No local receipt storage exists"))
  | some storage => do
    let (kind, raw) ← artifactBytes storage identity expectedSha256 maxTotalBytes
    Script.check (refuse (maxTotalBytes < raw.length)
      (invalid "Artifact exceeds trusted total byte bound"))
    Script.check (refuse (sha256 raw ≠ expectedSha256)
      (conflict "Artifact bytes do not match terminal receipt digest"))
    -- Only an empty artifact has a chunk without bytes.
    Script.check (refuse (raw.length < offset ∨ (0 < raw.length ∧ offset = raw.length))
      (invalid "Artifact offset is outside available bytes"))
    let data := (raw.drop offset).take limit
    return ⟨kind, raw.length, data, offset + data.length = raw.length, expectedSha256, offset⟩

end Read

/-! ## A chunk on the wire -/

/-- The payload of an `artifact-chunk` frame, with the fields whose types the parser checks as
they come. -/
structure ChunkPayload where
  inReplyTo : String
  identity : CommandIdentity
  artifactSha256 : String
  artifactKind : Json Scalar
  offset : Json Scalar
  totalBytes : Json Scalar
  data : Json Scalar
  eof : Json Scalar

def ArtifactKind.text : ArtifactKind → Text
  | .nativePlaintext => "native-plaintext".toList
  | .workerTerminalResult => "worker-terminal-result".toList

/-- An artifact kind on the wire; a missing one is `null`. -/
def kindValue : Option ArtifactKind → Json Scalar
  | none => .null
  | some kind => .scalar (.str kind.text)

def NodeArtifactChunk.payload (chunk : NodeArtifactChunk) (inReplyTo : String)
    (identity : CommandIdentity) : ChunkPayload where
  inReplyTo
  identity
  artifactSha256 := chunk.artifactSha256
  artifactKind := kindValue chunk.artifactKind
  offset := .scalar (.int chunk.offset)
  totalBytes := .scalar (.int chunk.totalBytes)
  data := .scalar (.str (Base64.encode chunk.data))
  eof := .scalar (.bool chunk.eof)

structure ArtifactChunk where
  messageId : String
  inReplyTo : String
  identity : CommandIdentity
  artifactSha256 : String
  artifactKind : Option ArtifactKind
  offset : Int
  totalBytes : Int
  data : List UInt8
  eof : Bool

/-- `_integer(value, 0)`. -/
def wireNatural (value : Json Scalar) : Except GatewayError Nat :=
  match value.integer? with
  | none => .error invalidInteger
  | some number =>
    if 0 ≤ number ∧ number ≤ maxInteger then .ok number.toNat else .error invalidInteger

def decodeChunk (encoded : Json Scalar) : Except GatewayError (List UInt8) :=
  match encoded.text? with
  | none => .error (invalid "Artifact chunk exceeds encoded bound")
  | some text => do
    refuse (4 * ((maxChunkBytes + 2) / 3) < text.length)
      (invalid "Artifact chunk exceeds encoded bound")
    match Base64.decode text with
    | none => .error (invalid "Artifact chunk requires strict base64")
    | some data => do
      refuse (Base64.encode data ≠ text ∨ maxChunkBytes < data.length)
        (invalid "Artifact chunk requires bounded canonical base64")
      return data

/-- `p["artifact-kind"]`, one of the three that are known. -/
def wireKind (value : Json Scalar) : Except GatewayError (Option ArtifactKind) :=
  match value with
  | .null => .ok none
  | .scalar (.str text) =>
    if text = ArtifactKind.workerTerminalResult.text then .ok (some .workerTerminalResult)
    else if text = ArtifactKind.nativePlaintext.text then .ok (some .nativePlaintext)
    else .error (invalid "Unknown artifact kind")
  | _ => .error (invalid "Unknown artifact kind")

/-- `_parse_artifact_chunk` on a channel of this node. -/
def parseArtifactChunk (nodeId : String) (maxArtifactBytes : Nat) (messageId : String)
    (payload : ChunkPayload) : Except GatewayError ArtifactChunk := do
  let offset ← wireNatural payload.offset
  let total ← wireNatural payload.totalBytes
  let data ← decodeChunk payload.data
  let mismatch := invalid "Artifact chunk progress/EOF does not match trusted bounds"
  match payload.eof with
  | .scalar (.bool eof) => do
    refuse (maxArtifactBytes < total ∨ total < offset + data.length ∨
        eof ≠ decide (offset + data.length = total) ∨ (0 < total ∧ data = [])) mismatch
    let kind ← wireKind payload.artifactKind
    refuse (isIdentifier payload.inReplyTo = false) (invalid "Invalid node contract identifier")
    let identity ← payload.identity.validate
    refuse (identity.nodeId ≠ nodeId) (invalid "Work identity does not match current channel")
    checkDigest payload.artifactSha256
    return ⟨messageId, payload.inReplyTo, identity, payload.artifactSha256, kind, offset, total,
      data, eof⟩
  | _ => .error mismatch

/-! ## What the two sides agree on -/

theorem wireNatural_int {number : Nat} (small : number ≤ maxInteger) :
    wireNatural (.scalar (.int number)) = .ok number := by
  have within : (0 : Int) ≤ number ∧ (number : Int) ≤ maxInteger := by omega
  simp only [wireNatural, Json.integer?, if_pos within, Int.toNat_natCast]

theorem wireKind_kindValue (kind : Option ArtifactKind) : wireKind (kindValue kind) = .ok kind := by
  match kind with
  | none => rfl
  | some .workerTerminalResult => rfl
  | some .nativePlaintext => rfl

theorem decodeChunk_encode {data : List UInt8} (small : data.length ≤ maxChunkBytes) :
    decodeChunk (.scalar (.str (Base64.encode data))) = .ok data := by
  have short : ¬ 4 * ((maxChunkBytes + 2) / 3) < (Base64.encode data).length := by
    rw [Base64.length_encode]
    omega
  have canonical : ¬ (Base64.encode data ≠ Base64.encode data ∨ maxChunkBytes < data.length) := by
    rintro (changed | large)
    · exact changed rfl
    · omega
  simp only [decodeChunk, Json.text?, refuse_bind_eq_ok, Base64.decode_encode]
  exact ⟨short, canonical, rfl⟩

/-- **What a chunk that was read says** about the artifact it was cut from. -/
structure ChunkOf (sha256 : List UInt8 → String) (raw : List UInt8) (expectedSha256 : String)
    (offset limit maxTotalBytes : Nat) (chunk : NodeArtifactChunk) : Prop where
  digest : isSha256Hex expectedSha256 = true
  bound : maxTotalBytes ≤ maxInteger
  limited : limit ≤ maxChunkBytes
  positive : 1 ≤ limit
  within : raw.length ≤ maxTotalBytes
  verified : sha256 raw = expectedSha256
  inside : offset ≤ raw.length
  progress : 0 < raw.length → offset < raw.length
  same : chunk = ⟨chunk.artifactKind, raw.length, (raw.drop offset).take limit,
    decide (offset + ((raw.drop offset).take limit).length = raw.length), expectedSha256, offset⟩

/-- **A chunk that was read is parsed as it was sent**, when both sides have the same bound. -/
theorem parseArtifactChunk_payload {sha256 : List UInt8 → String} {raw : List UInt8}
    {expectedSha256 : String} {offset limit maxBytes : Nat} {chunk : NodeArtifactChunk}
    (cut : ChunkOf sha256 raw expectedSha256 offset limit maxBytes chunk)
    {nodeId messageId inReplyTo : String} {identity : CommandIdentity}
    (identifier : isIdentifier inReplyTo = true) (valid : identity.wellFormed = true)
    (sameNode : identity.nodeId = nodeId) :
    parseArtifactChunk nodeId maxBytes messageId (chunk.payload inReplyTo identity) =
      .ok ⟨messageId, inReplyTo, identity, expectedSha256, chunk.artifactKind, offset, raw.length,
        (raw.drop offset).take limit,
        decide (offset + ((raw.drop offset).take limit).length = raw.length)⟩ := by
  have size : ((raw.drop offset).take limit).length = min limit (raw.length - offset) := by
    rw [List.length_take, List.length_drop]
  have positive := cut.positive
  have limited := cut.limited
  have within := cut.within
  have bound := cut.bound
  have inside := cut.inside
  have progress := cut.progress
  have small : ((raw.drop offset).take limit).length ≤ maxChunkBytes := by omega
  have offsetSmall : offset ≤ maxInteger := by omega
  have totalSmall : raw.length ≤ maxInteger := by omega
  have moves : ¬ (0 < raw.length ∧ (raw.drop offset).take limit = []) := by
    rintro ⟨nonempty, none⟩
    have before := progress nonempty
    rw [none, List.length_nil] at size
    omega
  rw [cut.same]
  simp only [parseArtifactChunk, NodeArtifactChunk.payload, wireNatural_int offsetSmall,
    wireNatural_int totalSmall, decodeChunk_encode small, wireKind_kindValue, bind_eq_ok,
    CommandIdentity.validate_eq_ok, checkDigest, cut.digest]
  refine ⟨_, rfl, _, rfl, _, rfl, ⟨⟩, refuse_of_not ?_, _, rfl, ⟨⟩, refuse_of_not ?_, identity,
    ⟨valid, rfl⟩, ⟨⟩, refuse_of_not (not_not.mpr sameNode), ⟨⟩, refuse_of_not nofun, rfl⟩
  · rintro (large | overrun | wrongEnd | idle)
    · omega
    · omega
    · exact wrongEnd rfl
    · exact moves idle
  · rw [identifier]
    exact nofun

/-! ## The stored artifact -/

/-- **The node holds this artifact** under this digest, as the terminal evidence of the command, and
its storage works. -/
structure HoldsArtifact (sha256 : List UInt8 → String) (storage : Storage) (db : Database)
    (identity : CommandIdentity) (digest : String) (kind : Option ArtifactKind)
    (raw : List UInt8) : Prop where
  opened : storage.opened = .ok ⟨⟩
  committed : storage.committed = .ok ⟨⟩
  released : storage.released = .ok ⟨⟩
  row : ∃ row, db.command? identity.commandId = some row ∧ row.identity = identity ∧
    row.state = .terminal ∧ row.outputDigest = some digest ∧ row.artifactKind = kind
  bytes : storage.outputs.bytes digest = .ok raw
  isDigest : isSha256Hex digest = true
  verified : sha256 raw = digest

theorem Storage.transaction_of_ok {α : Type} {storage : Storage} {body : Statement α} {value : α}
    {db written : Database} (opened : storage.opened = .ok ⟨⟩)
    (committed : storage.committed = .ok ⟨⟩) (released : storage.released = .ok ⟨⟩)
    (success : body.run db = (.ok value, written)) :
    (storage.transaction body).run db = (.ok value, written) := by
  simp only [Storage.transaction, Script.releasing_eq_ok, Script.transaction_eq_ok,
    Script.check_bind_eq_ok]
  refine ⟨released, ⟨⟩, opened, Script.bind_eq_ok.mpr ⟨value, written, success, ?_⟩⟩
  simp only [Script.check_bind_eq_ok]
  exact ⟨⟨⟩, committed, rfl⟩

theorem artifactBytes_holds {sha256 : List UInt8 → String} {storage : Storage} {db : Database}
    {identity : CommandIdentity} {digest : String} {kind : Option ArtifactKind} {raw : List UInt8}
    (holds : HoldsArtifact sha256 storage db identity digest kind raw) {maxBytes : Nat}
    (bounded : isContractInteger maxBytes = true) (within : raw.length ≤ maxBytes) :
    (artifactBytes storage identity digest maxBytes).run db = (.ok (kind, raw), db) := by
  obtain ⟨row, found, same, terminal, ownDigest, rfl⟩ := holds.row
  simp only [artifactBytes, checkDigest, Script.refuse_bind_eq_ok, bounded, holds.isDigest]
  refine ⟨by simp, by simp,
    Storage.transaction_of_ok holds.opened holds.committed holds.released ?_⟩
  refine Script.bind_eq_ok.mpr ⟨row, db, selectRow_ok.mpr ⟨rfl, found, same⟩, ?_⟩
  have output : storage.outputs.readOutputBytes digest maxBytes = .ok raw := by
    simp only [OutputDirectory.readOutputBytes, refuse_bind_eq_ok, holds.isDigest]
    refine ⟨by simp, bind_eq_ok.mpr ⟨raw, holds.bytes, ?_⟩⟩
    rw [refuse_bind_eq_ok]
    exact ⟨Nat.not_lt.mpr within, rfl⟩
  rw [Script.refuse_bind_eq_ok, Script.check_bind_eq_ok]
  refine ⟨?_, raw, output, rfl⟩
  rintro (pending | changed)
  · exact pending terminal
  · exact changed ownDigest

/-- **Every chunk of a held artifact that may be asked for is read.** -/
theorem readArtifactChunk_holds {sha256 : List UInt8 → String} {storage : Storage} {db : Database}
    {identity : CommandIdentity} {digest : String} {kind : Option ArtifactKind} {raw : List UInt8}
    (holds : HoldsArtifact sha256 storage db identity digest kind raw) {maxBytes offset limit : Nat}
    (bounded : isContractInteger maxBytes = true) (within : raw.length ≤ maxBytes)
    (positive : 1 ≤ limit) (limited : limit ≤ maxChunkBytes) (inside : offset ≤ raw.length)
    (progress : 0 < raw.length → offset < raw.length) :
    (readArtifactChunk sha256 (some storage) identity digest offset limit maxBytes).run db =
      (.ok ⟨kind, raw.length, (raw.drop offset).take limit,
        decide (offset + ((raw.drop offset).take limit).length = raw.length), digest, offset⟩,
        db) := by
  obtain ⟨_, small⟩ := isContractInteger_iff.mp bounded
  have limitSmall : isContractInteger limit = true := by
    refine isContractInteger_iff.mpr ⟨positive, limited.trans ?_⟩
    decide
  simp only [readArtifactChunk, checkDigest, Script.refuse_bind_eq_ok, bounded, holds.isDigest,
    limitSmall]
  refine ⟨by simp, by omega, by simp, by simp, by omega, ?_⟩
  refine Script.bind_eq_ok.mpr ⟨(kind, raw), db, artifactBytes_holds holds bounded within, ?_⟩
  simp only [Script.refuse_bind_eq_ok]
  exact ⟨by omega, not_not.mpr holds.verified, by omega, rfl⟩

end Audiagentic.Node
