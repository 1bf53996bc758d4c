import Audiagentic.Node.FrameRoundTrip

/-!
# The contract of the node frame codec

Command identities are written and read field by field, so that reading a mapping undoes writing
it; with the round trip of frames this is the contract of the codec.
-/

namespace Audiagentic.Node.Codec

open Foundations Gateway List Option Json
open Foundations.Utf8 (Bytes)

/-! ## Command identities -/

theorem nodup_identityNames : identityNames.Nodup := by decide

variable {identity : CommandIdentity}

theorem wellFormed_iff :
    identity.wellFormed = true ↔
      isIdentifier identity.commandId = true ∧ isIdentifier identity.requestId = true ∧
        isIdentifier identity.nodeId = true ∧ isIdentifier identity.nodeEpoch = true ∧
        isIdentifier identity.gatewayOwnerEpoch = true ∧
        isContractInteger identity.connectionGeneration = true ∧
        isIdentifier identity.workspaceId = true ∧
        isContractInteger identity.grantRevision = true ∧
        isContractInteger identity.bindingGeneration = true ∧
        isSha256Hex identity.payloadSha256 = true ∧
        isIdentifier identity.executionProfileId = true := by
  simp only [CommandIdentity.wellFormed, CommandIdentity.identifiers, CommandIdentity.integers,
    all_cons, all_nil, Bool.and_eq_true, Bool.and_true]
  tauto

theorem identityFields_iff {read : Text → Given} :
    (∀ entry ∈ identityEntries identity, read entry.1 = .ofJson entry.2) ↔
      read "command-id".toList = .text identity.commandId ∧
        read "request-id".toList = .text identity.requestId ∧
        read "node-id".toList = .text identity.nodeId ∧
        read "node-epoch".toList = .text identity.nodeEpoch ∧
        read "gateway-owner-epoch".toList = .text identity.gatewayOwnerEpoch ∧
        read "connection-generation".toList = .number identity.connectionGeneration ∧
        read "workspace-id".toList = .text identity.workspaceId ∧
        read "grant-revision".toList = .number identity.grantRevision ∧
        read "binding-generation".toList = .number identity.bindingGeneration ∧
        read "payload-sha256".toList = .text identity.payloadSha256 ∧
        read "execution-profile-id".toList = .text identity.executionProfileId := by
  simp only [identityEntries, forall_mem_cons, not_mem_nil, false_implies, implies_true, and_true]
  rfl

/-- **An identity is constructed from the fields that stand for it.** -/
theorem constructIdentity_eq_ok {read : Text → Given} :
    constructIdentity read = .ok identity ↔
      identity.wellFormed = true ∧
        ∀ entry ∈ identityEntries identity, read entry.1 = .ofJson entry.2 := by
  rw [identityFields_iff, wellFormed_iff]
  simp only [constructIdentity, bind_eq_ok, identifier_eq_ok, integer_eq_ok, payloadDigest_eq_ok]
  constructor
  · rintro ⟨commandId, ⟨command, commandShape⟩, requestId, ⟨request, requestShape⟩,
      nodeId, ⟨node, nodeShape⟩, nodeEpoch, ⟨epoch, epochShape⟩,
      gatewayOwnerEpoch, ⟨owner, ownerShape⟩, connectionGeneration, ⟨connection, connected⟩,
      workspaceId, ⟨workspace, workspaceShape⟩, grantRevision, ⟨grant, granted⟩,
      bindingGeneration, ⟨binding, bound⟩, payloadSha256, ⟨payload, payloadShape⟩,
      executionProfileId, ⟨profile, profileShape⟩, same⟩
    cases same
    exact ⟨⟨commandShape, requestShape, nodeShape, epochShape, ownerShape, connected,
      workspaceShape, granted, bound, payloadShape, profileShape⟩,
      command, request, node, epoch, owner, connection, workspace, grant, binding, payload,
      profile⟩
  · rintro ⟨⟨commandShape, requestShape, nodeShape, epochShape, ownerShape, connected,
      workspaceShape, granted, bound, payloadShape, profileShape⟩,
      command, request, node, epoch, owner, connection, workspace, grant, binding, payload,
      profile⟩
    exact ⟨_, ⟨command, commandShape⟩, _, ⟨request, requestShape⟩, _, ⟨node, nodeShape⟩,
      _, ⟨epoch, epochShape⟩, _, ⟨owner, ownerShape⟩, _, ⟨connection, connected⟩,
      _, ⟨workspace, workspaceShape⟩, _, ⟨grant, granted⟩, _, ⟨binding, bound⟩,
      _, ⟨payload, payloadShape⟩, _, ⟨profile, profileShape⟩, rfl⟩

theorem identity_scalar {entry : Text × Json Scalar} (member : entry ∈ identityEntries identity) :
    ∃ value, entry.2 = .scalar value ∧ isFinite value = true := by
  have each : ∀ entry ∈ identityEntries identity,
      ∃ value, entry.2 = .scalar value ∧ isFinite value = true := by
    simp [identityEntries, isFinite]
  exact each entry member

theorem distinct_identity (identity : CommandIdentity) :
    (Json.map (identityEntries identity)).distinct = true := by
  refine distinct_map.mpr ⟨nodup_identityNames, fun entry member => ?_⟩
  obtain ⟨value, same, _⟩ := identity_scalar member
  rw [same]
  rfl

theorem fromMapping_of_lookup {entries : Json.Entries Scalar} (valid : identity.wellFormed = true)
    (keys : (entries.map Prod.fst).Perm identityNames)
    (found : ∀ entry ∈ identityEntries identity, Json.lookup entry.1 entries = some entry.2) :
    fromMapping (.ofJson (.map entries)) = .ok identity := by
  have read : (Given.ofJson (.map entries)).fields? identityNames =
      some (Given.valueAt (Given.ofEntries entries)) :=
    fields?_ofJson.mpr ⟨⟨fun entry member => keys.mem_iff.mp (List.mem_map_of_mem member),
      fun name member => keys.mem_iff.mpr member⟩, rfl⟩
  simp only [fromMapping, read]
  exact constructIdentity_eq_ok.mpr
    ⟨valid, fun entry member => valueAt_ofEntries (found entry member)⟩

theorem lookup_identity {entry : Text × Json Scalar} (member : entry ∈ identityEntries identity) :
    Json.lookup entry.1 (identityEntries identity) = some entry.2 := by
  have keys : ((identityEntries identity).map Prod.fst).Nodup := nodup_identityNames
  exact Json.lookup_of_mem keys member

/-- **Reading a mapping undoes writing it.** -/
theorem fromMapping_toMapping (valid : identity.wellFormed = true) :
    fromMapping (toMapping identity) = .ok identity :=
  fromMapping_of_lookup valid (.refl identityNames) fun _ member => lookup_identity member

theorem fromMapping_sorted (valid : identity.wellFormed = true) :
    fromMapping (.ofJson (Json.map (identityEntries identity)).sortKeys) = .ok identity := by
  refine fromMapping_of_lookup valid (keys_sorted_perm _) fun entry member => ?_
  have keys : ((identityEntries identity).map Prod.fst).Nodup := nodup_identityNames
  obtain ⟨value, same, _⟩ := identity_scalar member
  rw [lookup_sorted keys, lookup_identity member, same]
  rfl

theorem item?_eq_none {entries : List (Option Text × Given)} {key : Option Text}
    (absent : ∀ entry ∈ entries, entry.1 ≠ key) : Given.item? entries key = none := by
  rw [Given.item?, map_eq_none_iff, find?_eq_none]
  simpa using absent

theorem item?_of_mem {entries : List (Option Text × Given)} {name : Text}
    (listed : some name ∈ entries.map Prod.fst) :
    Given.item? entries (some name) = some (Given.valueAt entries name) := by
  obtain ⟨entry, member, key⟩ := List.mem_map.mp listed
  have here : (Given.item? entries (some name)).isSome := by
    rw [Given.item?, isSome_map, find?_isSome]
    exact ⟨entry, member, by simpa using key⟩
  obtain ⟨value, found⟩ := isSome_iff_exists.mp here
  rw [Given.valueAt, found, getD_some]

theorem fields?_eq_some {names : List Text} {value : Given} {read : Text → Given}
    (named : value.fields? names = some read) :
    ∃ entries, value = .mapping entries ∧ read = Given.valueAt entries ∧
      (∀ entry ∈ entries, ∃ name ∈ names, entry.1 = some name) ∧
      ∀ name ∈ names, some name ∈ entries.map Prod.fst := by
  rw [Given.fields?.eq_def] at named
  split at named
  next entries =>
    obtain ⟨⟨keys, listed⟩, same⟩ := ite_none_right_eq_some.mp named
    cases same
    exact ⟨entries, rfl, rfl, keys, listed⟩
  · cases named

/-- **Writing what was read from a mapping gives its entries.** -/
theorem toMapping_of_fromMapping {value : Given} (accepted : fromMapping value = .ok identity) :
    identity.wellFormed = true ∧
      ∃ entries, value = .mapping entries ∧
        ∀ key, Given.item? entries key =
          Given.item? (Given.ofEntries (identityEntries identity)) key := by
  rw [fromMapping] at accepted
  split at accepted
  next read named =>
    obtain ⟨valid, fields⟩ := constructIdentity_eq_ok.mp accepted
    obtain ⟨entries, rfl, rfl, keys, listed⟩ := fields?_eq_some named
    refine ⟨valid, entries, rfl, fun key => ?_⟩
    by_cases member : ∃ entry ∈ identityEntries identity, key = some entry.1
    · obtain ⟨entry, here, rfl⟩ := member
      rw [item?_of_mem (listed _ (List.mem_map_of_mem here)), fields entry here, item?_ofEntries,
        lookup_identity here]
      rfl
    · -- A key that is no field of the identity is in neither mapping.
      rw [item?_eq_none, item?_eq_none]
      · rw [Given.ofEntries_eq, List.forall_mem_map]
        intro entry here same
        exact member ⟨entry, here, same.symm⟩
      intro entry here same
      obtain ⟨name, inside, key⟩ := keys entry here
      obtain ⟨field, there, rfl⟩ := List.mem_map.mp
        (show name ∈ (identityEntries identity).map Prod.fst from inside)
      exact member ⟨field, there, same.symm.trans key⟩
  · cases accepted

/-- **Identities with the same canonical bytes are the same.** -/
theorem identity_of_canonicalJson {json : FrameJson} (sound : json.RoundTrips)
    {first second : CommandIdentity} (valid : first.wellFormed = true)
    (valid' : second.wellFormed = true) {bytes : Bytes}
    (written : canonicalJson json (toMapping first) = .ok bytes)
    (written' : canonicalJson json (toMapping second) = .ok bytes) : first = second := by
  have document := decodeJson_canonicalJson sound (distinct_identity first) written
  rw [decodeJson_canonicalJson sound (distinct_identity second) written'] at document
  have same := fromMapping_sorted valid'
  rw [Except.ok.inj document, fromMapping_sorted valid] at same
  exact Except.ok.inj same

/-! ## The codec -/

def Frame.Same (frame other : Frame) : Prop :=
  { frame with payload := .null } = { other with payload := .null } ∧
    identicalValues frame.payload other.payload = true

def Frame.Rereads (json : FrameJson) (frame : Frame) : Prop :=
  ∃ bytes reread, frame.toBytes json = .ok bytes ∧ fromBytes json bytes = .ok reread ∧
    frame.Same reread ∧ reread.toBytes json = .ok bytes

/-- No key twice, no private key and no number that is not finite at this node. -/
def Admitted : Json RawScalar → Prop
  | .map entries =>
    (entries.map Prod.fst).Nodup ∧ ∀ name ∈ entries.map Prod.fst, name ∉ privateKeys
  | .scalar (.value value) => isFinite value = true
  | .scalar (.constant _) => False
  | _ => True

theorem Acceptable.admitted {document : Json Scalar} (acceptable : Acceptable 0 document) :
    (toRaw document).Everywhere fun depth node => depth ≤ maxDepth ∧ Admitted node := by
  intro depth node inside
  obtain ⟨old, within, rfl⟩ := exists_of_nodeAt_mapScalars inside
  obtain ⟨bound, permitted⟩ := acceptable depth old within
  refine ⟨by omega, ?_⟩
  cases old with
  | null | list => trivial
  | scalar value => exact permitted
  | map entries =>
    rw [Json.mapScalars, Admitted, keys_toRaw]
    exact permitted

theorem Constructed.rereads {json : FrameJson} (sound : json.RoundTrips) {frame : Frame}
    {bytes : Bytes} (made : Constructed json frame bytes) : frame.Rereads json := by
  have same := sameBy_sortKeys (fun value : Scalar => beq_self_eq_true value)
    made.acceptable.distinct
  exact ⟨bytes, frame.canonical, made.written, fromBytes_of_constructed sound made,
    ⟨rfl, same⟩, made.canonical.written⟩

/-- **The node frame codec.**  Every frame that can be constructed, and every frame that was
decoded, is read back from its bytes as an equal frame with the same bytes.  No bytes are
accepted whose document holds, at any depth, a key twice, a private key, a number that is not
finite, or a node beyond the bound.  Reading a command identity from a mapping and writing it as
one undo each other, so that equal canonical bytes are those of equal identities, and equal
digests those of equal identities or of a collision. -/
theorem node_frame_codec {json : FrameJson} (sound : json.RoundTrips) :
    (∀ arguments frame, construct json arguments = .ok frame → frame.Rereads json) ∧
      (∀ raw frame, fromBytes json raw = .ok frame →
        frame.Rereads json ∧
          ∃ text document, Utf8.decode raw = some text ∧ json.parse text = .ok document ∧
            document.Everywhere fun depth node => depth ≤ maxDepth ∧ Admitted node) ∧
      (∀ identity : CommandIdentity, identity.wellFormed = true →
        fromMapping (toMapping identity) = .ok identity) ∧
      (∀ value identity, fromMapping value = .ok identity →
        identity.wellFormed = true ∧
          ∃ entries, value = .mapping entries ∧
            ∀ key, Given.item? entries key =
              Given.item? (Given.ofEntries (identityEntries identity)) key) ∧
      ∀ first second : CommandIdentity, first.wellFormed = true → second.wellFormed = true →
        ∀ bytes bytes', canonicalJson json (toMapping first) = .ok bytes →
          canonicalJson json (toMapping second) = .ok bytes' →
            (bytes = bytes' ↔ first = second) ∧
              ∀ (sha256 : Bytes → Text) (name name' : Text),
                digest json sha256 first = .ok name → digest json sha256 second = .ok name' →
                  (name = name' ↔
                    first = second ∨ bytes ≠ bytes' ∧ sha256 bytes = sha256 bytes') := by
  refine ⟨?_, ?_, fun _ => fromMapping_toMapping, fun _ _ => toMapping_of_fromMapping, ?_⟩
  · intro arguments frame made
    obtain ⟨_, bytes, constructed⟩ := construct_eq_ok.mp made
    exact constructed.rereads sound
  · intro raw frame accepted
    obtain ⟨⟨text, document, decoded, parsed, acceptable⟩, bytes, constructed⟩ :=
      fromBytes_ok accepted
    exact ⟨constructed.rereads sound, text, toRaw document, decoded, parsed, acceptable.admitted⟩
  · intro first second valid valid' bytes bytes' written written'
    have canonical : bytes = bytes' ↔ first = second := by
      constructor
      · rintro rfl
        exact identity_of_canonicalJson sound valid valid' written written'
      · rintro rfl
        exact Except.ok.inj (written.symm.trans written')
    refine ⟨canonical, fun sha256 name name' digested digested' => ?_⟩
    rw [digest, written] at digested
    rw [digest, written'] at digested'
    cases digested
    cases digested'
    rw [← canonical]
    constructor
    · intro same
      by_cases equal : bytes = bytes'
      · exact .inl equal
      · exact .inr ⟨equal, same⟩
    · rintro (rfl | ⟨_, same⟩)
      · rfl
      · exact same

/-! ## A frame -/

def samplePayload : Json Scalar :=
  .map [("steps".toList, .list [.scalar (.int 1), .null]), ("dry".toList, .scalar (.bool true))]

def sampleFrame : Frame where
  version := 1
  type := .hello
  messageId := "m1"
  nodeId := "n1"
  nodeEpoch := "e1"
  gatewayOwnerEpoch := "g1"
  sequence := 7
  payload := samplePayload

def sampleText : Text :=
  ("\x7b\"gateway-owner-epoch\":\"g1\",\"message-id\":\"m1\",\"node-epoch\":\"e1\"," ++
    "\"node-id\":\"n1\",\"payload\":\x7b\"dry\":true,\"steps\":[1,null]\x7d,\"sequence\":7," ++
    "\"type\":\"hello\",\"version\":1\x7d").toList

/-- A module that writes and reads this one text. -/
def sampleJson : FrameJson where
  dumps document :=
    if document = (Json.map sampleFrame.entries).sortKeys then some sampleText else none
  parse text :=
    if text = sampleText then .ok (toRaw (Json.map sampleFrame.entries).sortKeys) else .error []

theorem sampleJson_roundTrips : sampleJson.RoundTrips := by
  intro document text _ _ dumped
  obtain ⟨rfl, same⟩ := ite_none_right_eq_some.mp dumped
  simp only [sampleJson, ← Option.some.inj same, if_pos]

def sampleArguments : FrameArguments where
  version := .number 1
  type := .text "hello"
  messageId := .text "m1"
  nodeId := .text "n1"
  nodeEpoch := .text "e1"
  gatewayOwnerEpoch := .text "g1"
  sequence := .number 7
  payload := .ofJson samplePayload

theorem node_frame_codec_sample :
    construct sampleJson sampleArguments = .ok sampleFrame ∧ sampleFrame.Rereads sampleJson := by
  have made : construct sampleJson sampleArguments = .ok sampleFrame := by decide +kernel
  exact ⟨made, (node_frame_codec sampleJson_roundTrips).1 _ _ made⟩

end Audiagentic.Node.Codec
