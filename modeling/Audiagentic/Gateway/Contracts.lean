import Audiagentic.Foundations.Checks
import Mathlib.Algebra.Group.Nat.Defs

/-!
# Error values, identifiers and command identities

The vocabulary that the gateway store and the node channel share: the
`AudiaGenticError` value, the identifier and digest shapes of the node
contracts, and the command identity that a node dispatch is bound to.
-/

namespace Audiagentic.Gateway

open Foundations

/-! ## Errors -/

/-- A value in the `details` mapping of an error. -/
inductive Detail where
  | text (value : String)
  | number (value : Int)
  | names (values : List String)
deriving DecidableEq

/-- `AudiaGenticError`: the closed error value every refused operation raises. -/
structure GatewayError where
  code : String
  kind : String
  message : String
  details : List (String × Detail) := []
deriving DecidableEq

/-- `make_error_factory("CON", "AGND", "agents-node")(1, message)`. -/
def conflict (message : String) : GatewayError :=
  { code := "CON-AGND-001", kind := "agents-node", message }

/-- `make_error_factory("VAL", "AGND", "agents-node")(1, message)`. -/
def invalid (message : String) : GatewayError :=
  { code := "VAL-AGND-001", kind := "agents-node", message }

def agentsErrorWith (code message : String) (details : List (String × Detail)) : GatewayError :=
  { code, kind := "agents", message, details }

def agentsError (code message : String) : GatewayError :=
  agentsErrorWith code message []

/-! ## Identifier shapes -/

def utf8Bytes (value : String) : List UInt8 :=
  value.toByteArray.data.toList

def isBetween (low high : Char) (byte : UInt8) : Bool :=
  decide (low.toNat ≤ byte.toNat) && decide (byte.toNat ≤ high.toNat)

/-- The class `[A-Za-z0-9]`. -/
def isAsciiAlphanumeric (byte : UInt8) : Bool :=
  isBetween 'a' 'z' byte || isBetween '0' '9' byte || isBetween 'A' 'Z' byte

/-- The class `[A-Za-z0-9_.:-]`. -/
def isIdentifierTail (byte : UInt8) : Bool :=
  isAsciiAlphanumeric byte || ['_', '.', ':', '-'].any (fun mark => isBetween mark mark byte)

/-- `re.fullmatch(r"[A-Za-z0-9][A-Za-z0-9_.:-]{0,199}", value)`. -/
def isIdentifier (value : String) : Bool :=
  match utf8Bytes value with
  | [] => false
  | first :: rest =>
    isAsciiAlphanumeric first && decide (rest.length ≤ 199) && rest.all isIdentifierTail

/-- The class `[0-9a-f]`. -/
def isLowerHex (byte : UInt8) : Bool :=
  isBetween '0' '9' byte || isBetween 'a' 'f' byte

/-- `is_sha256_hex`: sixty-four lowercase hexadecimal digits. -/
def isSha256Hex (value : String) : Bool :=
  decide ((utf8Bytes value).length = 64) && (utf8Bytes value).all isLowerHex

def maxInteger : Nat := 2 ^ 63 - 1

/-- `_integer(value)` with its default minimum of one. -/
def isContractInteger (value : Nat) : Bool :=
  decide (1 ≤ value) && decide (value ≤ maxInteger)

theorem isContractInteger_iff {value : Nat} :
    isContractInteger value = true ↔ 1 ≤ value ∧ value ≤ maxInteger := by
  rw [isContractInteger, Bool.and_eq_true, decide_eq_true_iff, decide_eq_true_iff]

/-! ## Command identity -/

structure CommandIdentity where
  commandId : String
  requestId : String
  nodeId : String
  nodeEpoch : String
  gatewayOwnerEpoch : String
  connectionGeneration : Nat
  workspaceId : String
  grantRevision : Nat
  bindingGeneration : Nat
  payloadSha256 : String
  executionProfileId : String
deriving DecidableEq

namespace CommandIdentity

/-- The string fields that `__post_init__` passes to `_identifier`. -/
def identifiers (identity : CommandIdentity) : List String :=
  [identity.commandId, identity.requestId, identity.nodeId, identity.nodeEpoch,
    identity.gatewayOwnerEpoch, identity.workspaceId, identity.executionProfileId]

/-- The integer fields that `__post_init__` passes to `_integer`. -/
def integers (identity : CommandIdentity) : List Nat :=
  [identity.connectionGeneration, identity.grantRevision, identity.bindingGeneration]

/-- The mapping passes every check of `CommandIdentity.__post_init__`. -/
def wellFormed (identity : CommandIdentity) : Bool :=
  identity.identifiers.all isIdentifier && identity.integers.all isContractInteger &&
    isSha256Hex identity.payloadSha256

/-- `CommandIdentity.__post_init__`, with the error of the first kind of field
that fails. -/
def validate (identity : CommandIdentity) : Except GatewayError CommandIdentity := do
  refuse (identity.identifiers.all isIdentifier = false)
    (invalid "Invalid node contract identifier")
  refuse (identity.integers.all isContractInteger = false)
    (invalid "Invalid node contract integer")
  refuse (isSha256Hex identity.payloadSha256 = false) (invalid "Invalid command payload digest")
  return identity

theorem validate_eq_ok {identity result : CommandIdentity} :
    identity.validate = .ok result ↔ identity.wellFormed = true ∧ result = identity := by
  simp only [validate, refuse_bind_eq_ok, wellFormed, Bool.and_eq_true, Bool.not_eq_false]
  constructor
  · rintro ⟨identifiers, integers, digest, same⟩
    cases same
    exact ⟨⟨⟨identifiers, integers⟩, digest⟩, rfl⟩
  · rintro ⟨⟨⟨identifiers, integers⟩, digest⟩, rfl⟩
    exact ⟨identifiers, integers, digest, rfl⟩

end CommandIdentity

end Audiagentic.Gateway
