import Audiagentic.Gateway.NodeDispatch

/-!
# Node frames

The frames of the node channel that carry effect authorizations and receipt
custody.  A payload whose keys are none of the listed variants is `other`: every
reader below refuses it in the same way.
-/

namespace Audiagentic.Node

open Foundations Gateway

inductive FrameType where
  | hello | welcome | heartbeat | command | effectAuthorize | effectAuthorized | effectDenied
  | receipt | reconcile | reconcileResult | revoke | error
deriving DecidableEq

/-- The payload variants the receipt and authorization protocols read. -/
inductive FramePayload where
  | effectAuthorize (identity : CommandIdentity)
  | effectAuthorized (identity : CommandIdentity) (authorizationRequestId authorizationId : String)
      (authorized : Bool)
  | receipt (logIncarnationId : String) (receipt : PublicReceipt)
  | receiptAck (serverId logIncarnationId : String)
      (connectionGeneration throughSequence : Nat) (throughReceiptSha256 : String)
  | other
deriving DecidableEq

structure Frame where
  type : FrameType
  messageId : String
  nodeId : String
  nodeEpoch : String
  gatewayOwnerEpoch : String
  payload : FramePayload
deriving DecidableEq

/-- `ReceiptOwnerScope`: a node and the two epochs under which it may act. -/
structure OwnerScope where
  nodeId : String
  nodeEpoch : String
  gatewayOwnerEpoch : String
deriving DecidableEq

def Frame.scope (frame : Frame) : OwnerScope :=
  ⟨frame.nodeId, frame.nodeEpoch, frame.gatewayOwnerEpoch⟩

def commandScope (identity : CommandIdentity) : OwnerScope :=
  ⟨identity.nodeId, identity.nodeEpoch, identity.gatewayOwnerEpoch⟩

/-- `NodeConnectionIdentity`: the live channel, as its owner sees it. -/
structure ConnectionIdentity where
  scope : OwnerScope
  connectionGeneration : Nat
deriving DecidableEq

def ConnectionIdentity.frame (connection : ConnectionIdentity) (type : FrameType)
    (messageId : String) (payload : FramePayload) : Frame where
  type
  messageId
  nodeId := connection.scope.nodeId
  nodeEpoch := connection.scope.nodeEpoch
  gatewayOwnerEpoch := connection.scope.gatewayOwnerEpoch
  payload

/-- The reply answers the request about this very identity on this connection. -/
def authorizationMatches (identity : CommandIdentity) (request reply : Frame)
    (connectionGeneration : Nat) : Option String :=
  match request.payload, reply.payload with
  | .effectAuthorize asked, .effectAuthorized granted authorizationRequestId authorizationId
      authorized =>
      if identity.connectionGeneration = connectionGeneration ∧
          request.type = .effectAuthorize ∧ reply.type = .effectAuthorized ∧
          asked = identity ∧ granted = identity ∧
          authorizationRequestId = request.messageId ∧ authorized = true ∧
          request.scope = commandScope identity ∧
          reply.scope = commandScope identity then
        some authorizationId
      else none
  | _, _ => none

def validateEffectAuthorization (identity : CommandIdentity) (request reply : Frame)
    (connectionGeneration : Nat) : Except GatewayError String := do
  refuse (isContractInteger connectionGeneration = false) (invalid "Invalid node contract integer")
  match authorizationMatches identity request reply connectionGeneration with
  | none =>
    .error (conflict "Effect authorization does not match the live command and request")
  | some authorizationId => do
    refuse (isIdentifier authorizationId = false) (invalid "Invalid node contract identifier")
    return authorizationId

theorem validateEffectAuthorization_ok {identity : CommandIdentity} {request reply : Frame}
    {connectionGeneration : Nat} {authorizationId : String}
    (success : validateEffectAuthorization identity request reply connectionGeneration =
      .ok authorizationId) :
    isIdentifier authorizationId = true ∧
      reply.payload = .effectAuthorized identity request.messageId authorizationId true := by
  simp only [validateEffectAuthorization, refuse_bind_eq_ok] at success
  obtain ⟨_, success⟩ := success
  split at success
  next => cases success
  next granted found =>
    simp only [refuse_bind_eq_ok, Bool.not_eq_false] at success
    obtain ⟨identifier, same⟩ := success
    cases same
    refine ⟨identifier, ?_⟩
    unfold authorizationMatches at found
    split at found
    next payload =>
      split at found
      next agrees =>
        cases found
        obtain ⟨_, _, _, _, rfl, rfl, rfl, _⟩ := agrees
        exact payload
      next => cases found
    next => cases found

end Audiagentic.Node
