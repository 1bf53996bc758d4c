import Audiagentic.Gateway.Activity

/-!
# Node dispatch

The four writers of `node-dispatch`: the binding of one attested command
identity, its authorization, the fence that proves it never had an effect, and
the receipts that report its progress.  Digests are a parameter (`Hashing`);
what is used of them is only that they are lowercase hexadecimal SHA-256 texts.
-/

namespace Audiagentic.Gateway

open Foundations

/-! ## Preparation attestations -/

/-- `PromptSemanticIdentity`, with the two fields that a final command is checked against. -/
structure SemanticIdentity where
  executionProfileId : String
  rawPromptSha256 : String
  fingerprints : Doc
deriving DecidableEq

/-- `PreparationBinding`: the connection and the preparation exchange of one command. -/
structure PreparationBinding where
  commandId : String
  requestId : String
  nodeId : String
  nodeEpoch : String
  gatewayOwnerEpoch : String
  connectionGeneration : Nat
  workspaceId : String
  grantRevision : Nat
  bindingGeneration : Nat
  preparationChallenge : String
  preparationRequestId : String
deriving DecidableEq

/-- `PreparationAttestation`: what the node attests to have prepared. -/
structure Attestation where
  binding : PreparationBinding
  semantic : SemanticIdentity
  workerId : String
  attemptEpoch : Nat
  resolved : Doc
deriving DecidableEq

structure CommandPayload where
  semantic : SemanticIdentity
  attestation : Attestation
  rawPrompt : String
  preparationChallenge : String
  preparationRequestId : String
deriving DecidableEq

/-- `Receipt.public_payload`: the fields of a receipt that leave the node. -/
structure PublicReceipt where
  identity : CommandIdentity
  state : ReceiptStage
  receiptSequence : Nat
  outputSha256 : Option String
deriving DecidableEq

/-- SHA-256 over the canonical JSON of the contracts: a function of the value whose
result is a digest text. -/
structure Hashing where
  text : String → String
  payload : CommandPayload → String
  attestation : Attestation → String
  receipt : PublicReceipt → String
  attestation_isSha256 : ∀ value, isSha256Hex (attestation value) = true
  receipt_isSha256 : ∀ value, isSha256Hex (receipt value) = true

/-- The text `e3b0…b855`, the SHA-256 digest of no bytes. -/
def emptyDigest : String :=
  "e3b0c44298fc1c149afbf4c8996fb92427ae41e4649b934ca495991b7852b855"

/-- One digest for every value: a concrete choice to run the store with where no two digests
are compared. -/
def Hashing.constant : Hashing where
  text _ := emptyDigest
  payload _ := emptyDigest
  attestation _ := emptyDigest
  receipt _ := emptyDigest
  attestation_isSha256 _ := by decide +kernel
  receipt_isSha256 _ := by decide +kernel

variable (hashing : Hashing)

def CommandIdentity.matchesBinding (identity : CommandIdentity) (binding : PreparationBinding) :
    Bool :=
  decide (identity.commandId = binding.commandId) &&
    decide (identity.requestId = binding.requestId) && decide (identity.nodeId = binding.nodeId) &&
    decide (identity.nodeEpoch = binding.nodeEpoch) &&
    decide (identity.gatewayOwnerEpoch = binding.gatewayOwnerEpoch) &&
    decide (identity.connectionGeneration = binding.connectionGeneration) &&
    decide (identity.workspaceId = binding.workspaceId) &&
    decide (identity.grantRevision = binding.grantRevision) &&
    decide (identity.bindingGeneration = binding.bindingGeneration)

def validateFinalCommandPayload (payload : CommandPayload) (identity : CommandIdentity)
    (accepted : Attestation) : Except GatewayError Unit :=
  refuse (payload.attestation ≠ accepted ∨ payload.semantic ≠ accepted.semantic ∨
      hashing.text payload.rawPrompt ≠ payload.semantic.rawPromptSha256 ∨
      payload.preparationChallenge ≠ accepted.binding.preparationChallenge ∨
      payload.preparationRequestId ≠ accepted.binding.preparationRequestId ∨
      identity.executionProfileId ≠ payload.semantic.executionProfileId ∨
      identity.payloadSha256 ≠ hashing.payload payload ∨
      identity.matchesBinding accepted.binding = false)
    (conflict "Final command does not match accepted preparation attestation")

/-! ## Shared guards -/

structure NodeFence where
  ownerEpoch : Option String
  workerId : Option String
  attemptEpoch : Int
  expectedRevision : Int

/-- The argument check of `_node_owned_record`. -/
def NodeFence.require (fence : NodeFence) : Except GatewayError Unit :=
  refuse (present fence.ownerEpoch = false ∨ present fence.workerId = false ∨
      fence.attemptEpoch < 1 ∨ fence.expectedRevision < 0)
    (conflict "Node mutation requires complete owned attempt fences")

/-- The record check of `_node_owned_record`. -/
def NodeFence.check (fence : NodeFence) (record : Record) : Except GatewayError Unit :=
  checkExpectedIdentity record (some fence.expectedRevision) fence.ownerEpoch fence.workerId
    (some fence.attemptEpoch)

def NodePlacement.agrees (placement : NodePlacement) (identity : CommandIdentity) : Bool :=
  decide (identity.nodeId = placement.nodeId) &&
    decide (identity.workspaceId = placement.workspaceId) &&
    decide (identity.grantRevision = placement.grantRevision)

def nodeMatchesRecord (record : Record) (identity : CommandIdentity) :
    Except GatewayError Unit := do
  refuse (identity.requestId ≠ record.admission.requestId ∨
      identity.executionProfileId ≠ record.admission.executionProfileId)
    (conflict "Node command does not match the admitted request")
  refuse (record.admission.nodePlacement = none)
    (conflict "Node command requires sealed admission placement")
  refuse (∃ placement ∈ record.admission.nodePlacement, placement.agrees identity = false)
    (conflict "Node command does not match immutable admission placement")

def nodeAttestationMatchesAttempt (record : Record) (attestation : Attestation) :
    Except GatewayError Unit :=
  refuse (some attestation.workerId ≠ record.workerId ∨
      attestation.attemptEpoch ≠ record.attemptEpoch)
    (conflict "Accepted node attestation does not match the owned worker attempt")

def nodeFreshEffect (record : Record) (identity : CommandIdentity) (ownerEpoch : Option String) :
    Except GatewayError Unit := do
  nodeMatchesRecord record identity
  refuse (record.state ≠ .running ∨ record.cancelRequested = true ∨
      record.recoveryRequired = true ∨ some identity.gatewayOwnerEpoch ≠ ownerEpoch)
    (conflict "Node command is not eligible for fresh effect authorization")

def writeNodeDispatch (record : Record) (dispatch : NodeDispatch) (clearRecovery : Bool)
    (now : Timestamp) : Except GatewayError Record :=
  let updated : Record :=
    { record with nodeDispatch := some dispatch, revision := record.revision + 1, updatedAt := now }
  record.write (if clearRecovery then
      { updated with
        recoveryRequired := false
        watchdogState := some .active
        watchdogReason := some "node-recovery-bound" }
    else updated)

/-! ## The four writers -/

/-- A fresh binding: no authorization, no receipt. -/
def NodeDispatch.bound (identity : CommandIdentity) (attestationSha256 : String) :
    NodeDispatch where
  identity
  attestationSha256 := some attestationSha256
  authorizationId := none
  authorizationState := .notAuthorized
  receiptSequence := 0
  receiptSha256 := none
  receiptStage := none
  outputSha256 := none

def bindingEligible (record : Record) (identity : CommandIdentity) (ownerEpoch : Option String)
    (resumeUnbound : Bool) : Except GatewayError Unit :=
  if resumeUnbound then do
    nodeMatchesRecord record identity
    refuse (record.nodeDispatch ≠ none ∨ record.state ≠ .running ∨
        record.recoveryRequired = false ∨ record.cancelRequested = true ∨
        some identity.gatewayOwnerEpoch ≠ ownerEpoch)
      (conflict "Recovered node binding requires an owned unsent attempt")
  else nodeFreshEffect record identity ownerEpoch

def bindOwnedNodeDispatch (identity : CommandIdentity) (payload : CommandPayload)
    (accepted : Attestation) (fence : NodeFence) (resumeUnbound : Bool) (now : Timestamp) :
    Operation where
  preflight := do
    let _ ← identity.validate
    validateFinalCommandPayload hashing payload identity accepted
    fence.require
  body record := do
    fence.check record
    nodeAttestationMatchesAttempt record accepted
    bindingEligible record identity fence.ownerEpoch resumeUnbound
    match record.nodeDispatch with
    | some prior => do
      refuse (prior.identity ≠ identity ∨
          prior.attestationSha256 ≠ some (hashing.attestation accepted))
        (conflict "Node dispatch identity collision")
      return record
    | none =>
      writeNodeDispatch record (.bound identity (hashing.attestation accepted)) resumeUnbound now

def authorizeOwnedNodeEffect (identity : CommandIdentity) (authorizationId : String)
    (accepted : Attestation) (currentNodeEpoch : String) (currentConnectionGeneration : Int)
    (fence : NodeFence) (now : Timestamp) : Operation where
  preflight := do
    let _ ← identity.validate
    refuse (isIdentifier authorizationId = false) (invalid "Invalid node contract identifier")
    refuse ((identity.connectionGeneration : Int) ≠ currentConnectionGeneration ∨
        identity.nodeEpoch ≠ currentNodeEpoch)
      (conflict "Cannot authorize a stale node connection")
    fence.require
  body record := do
    fence.check record
    nodeAttestationMatchesAttempt record accepted
    nodeFreshEffect record identity fence.ownerEpoch
    match record.nodeDispatch with
    | none => .error (conflict "Node authorization identity collision")
    | some prior => do
      refuse (prior.identity ≠ identity) (conflict "Node authorization identity collision")
      refuse (prior.attestationSha256 ≠ some (hashing.attestation accepted))
        (conflict "Node authorization does not match the bound accepted attestation")
      if prior.authorizationState = .authorized then do
        refuse (prior.authorizationId ≠ some authorizationId)
          (conflict "Node authorization identity changed")
        return record
      else do
        refuse (prior.authorizationState ≠ .notAuthorized ∨ prior.authorizationId ≠ none)
          (conflict "Prior node effect requires evidence reconciliation")
        writeNodeDispatch record { prior with
          authorizationId := some authorizationId
          authorizationState := .authorized } false now

def fenceNodeDispatchNoEffect (identity : CommandIdentity) (fence : NodeFence)
    (retiredConnectionGeneration : Int) (now : Timestamp) : Operation where
  preflight := do
    let _ ← identity.validate
    refuse (retiredConnectionGeneration ≤ identity.connectionGeneration)
      (conflict "No-effect fence requires a proven strictly newer connection generation")
    fence.require
  body record := do
    fence.check record
    -- The generation counter belongs to one owner epoch, so the proof does not reach
    -- across a takeover.
    refuse (some identity.gatewayOwnerEpoch ≠ fence.ownerEpoch)
      (conflict "No-effect fence requires a proven strictly newer connection generation")
    nodeMatchesRecord record identity
    match record.nodeDispatch with
    | none => .error (conflict "No-effect fence requires an original unauthorized binding")
    | some prior => do
      refuse (prior.identity ≠ identity ∨ prior.authorizationState ≠ .notAuthorized ∨
          prior.authorizationId ≠ none)
        (conflict "No-effect fence requires an original unauthorized binding")
      writeNodeDispatch record { prior with authorizationState := .noEffect } false now

def PublicReceipt.wellFormed (receipt : PublicReceipt) : Bool :=
  isContractInteger receipt.receiptSequence &&
    match receipt.state with
    | .terminal => (receipt.outputSha256.map isSha256Hex).getD false
    | _ => receipt.outputSha256.isNone

def ReceiptStage.authorizationState (prior : AuthorizationState) :
    ReceiptStage → AuthorizationState
  | .prepared => prior
  | .effectIntent => .uncertain
  | .nativeAccepted => .effectObserved
  | .terminal => .terminal

/-- A previous stage that the receipt may not follow. -/
def ReceiptStage.blocks (previous next : ReceiptStage) : Bool :=
  decide (next.rank < previous.rank) || decide (previous = .terminal)

def NodeDispatch.received (prior : NodeDispatch) (receipt : PublicReceipt) : NodeDispatch :=
  { prior with
    authorizationState := receipt.state.authorizationState prior.authorizationState
    receiptSequence := receipt.receiptSequence
    receiptSha256 := some (hashing.receipt receipt)
    receiptStage := some receipt.state
    outputSha256 := receipt.outputSha256 }

def applyOwnedNodeReceipt (receipt : PublicReceipt) (fence : NodeFence) (now : Timestamp) :
    Operation where
  preflight := do
    let _ ← receipt.identity.validate
    refuse (receipt.wellFormed = false)
      (conflict "Invalid node receipt sequence, stage or output digest")
    fence.require
  body record := do
    fence.check record
    nodeMatchesRecord record receipt.identity
    match record.nodeDispatch with
    | none => .error (conflict "Node receipt identity collision")
    | some prior => do
      refuse (prior.identity ≠ receipt.identity) (conflict "Node receipt identity collision")
      if receipt.receiptSequence = prior.receiptSequence then do
        refuse (some (hashing.receipt receipt) ≠ prior.receiptSha256)
          (conflict "Node receipt replay changed")
        return record
      else do
        refuse (receipt.receiptSequence < prior.receiptSequence)
          (conflict "Node receipt sequence regressed")
        refuse (∃ previous ∈ prior.receiptStage, previous.blocks receipt.state = true)
          (conflict "Node receipt stage regressed or terminal evidence changed")
        refuse (receipt.state ≠ .prepared ∧ prior.authorizationId = none)
          (conflict "Node effect receipt has no durable authorization")
        writeNodeDispatch record (prior.received hashing receipt) false now

/-! ## A concrete command -/

/-- The semantic identity of the prompt `ping`. -/
def sampleSemantic : SemanticIdentity where
  executionProfileId := "profile"
  rawPromptSha256 := "758d61f26a44448384e5c4468a0dcb7a2abe456067b0f7b505bc28b9411fe931"
  fingerprints := "composition, definition, prompt-1, expanded prompt version 1"

/-- The attestation of worker `w1` for its first attempt, under the owner epoch `g1`. -/
def sampleAttestation : Attestation where
  binding :=
    { commandId := "cmd-1"
      requestId := "req_node_1"
      nodeId := "node-1"
      nodeEpoch := "ne-1"
      gatewayOwnerEpoch := "g1"
      connectionGeneration := 1
      workspaceId := "ws-1"
      grantRevision := 1
      bindingGeneration := 1
      preparationChallenge := "challenge-1"
      preparationRequestId := "prep-1" }
  semantic := sampleSemantic
  workerId := "w1"
  attemptEpoch := 1
  resolved := "rendered, manifest-1, manifest, context, runtime, provider, model"

/-- The final command for the prompt `ping`. -/
def samplePayload : CommandPayload where
  semantic := sampleSemantic
  attestation := sampleAttestation
  rawPrompt := "ping"
  preparationChallenge := "challenge-1"
  preparationRequestId := "prep-1"

def sampleIdentity : CommandIdentity where
  commandId := "cmd-1"
  requestId := "req_node_1"
  nodeId := "node-1"
  nodeEpoch := "ne-1"
  gatewayOwnerEpoch := "g1"
  connectionGeneration := 1
  workspaceId := "ws-1"
  grantRevision := 1
  bindingGeneration := 1
  payloadSha256 := "f0a48f71c513a5630b8e09473322d6714c454aa3809281aa99ac5d590b804cb0"
  executionProfileId := "profile"

def samplePrepared : PublicReceipt where
  identity := sampleIdentity
  state := .prepared
  receiptSequence := 1
  outputSha256 := none

/-- The fence of worker `w1` in its first attempt, at a given revision. -/
def sampleFence (revision : Int) : NodeFence where
  ownerEpoch := some "g1"
  workerId := some "w1"
  attemptEpoch := 1
  expectedRevision := revision

/-- SHA-256 on the values of the concrete command. -/
def Hashing.sample : Hashing where
  text value := if value = "ping" then sampleSemantic.rawPromptSha256 else emptyDigest
  payload value := if value = samplePayload then sampleIdentity.payloadSha256 else emptyDigest
  attestation value :=
    if value = sampleAttestation then
      "a0b86515ca32a36c16ef5a63ed942962422b6c8227c211013467a4680b29b016"
    else emptyDigest
  receipt value :=
    if value = samplePrepared then
      "e95b83c69fd9f5c887a51c39d2fbb4039086ec947c19302f9c818d5a955d4e42"
    else emptyDigest
  attestation_isSha256 value := by
    split <;> decide +kernel
  receipt_isSha256 value := by
    split <;> decide +kernel

def sampleNodeAdmission : Admission where
  requestId := "req_node_1"
  executionProfileId := "profile"
  mode := .async
  contextFingerprint := none
  promptDigest := none
  continuationSessionId := none
  providerTransportKind := .worker
  sessionKeepAlive := none
  sessionIdleTimeoutSeconds := none
  sessionMaxLifetimeSeconds := none
  nodePlacement := some
    { nodeId := "node-1"
      workspaceId := "ws-1"
      principalId := "principal-1"
      serverProjectId := "project-1"
      grantRevision := 1 }
  nodeAdmission := none
  idempotencyKey := none
  enqueueOrdinal := none
  watchdogPolicy := none
  createdAt := 0

end Audiagentic.Gateway
