import Audiagentic.Gateway.Contracts
import Audiagentic.Ledger.Events

/-!
# The registry of external sessions

One record for each provider reference: where the session is reached, which join facts justified
that, and which gateway writer currently may write to it.  Every operation runs under the lock of
the reference, reads the record, refuses or gives the record that is stored from then on.  The
record of a reference is therefore all the state there is.
-/

namespace Audiagentic.Session

open Foundations
open Gateway (Detail GatewayError)
open Ledger (dropFinalNewline matchesName)

/-! ## Records -/

structure WriterClaim where
  writerId : Text
  ownerEpoch : Text
  claimedAt : Text

/-- The proven join facts, `_BASIS_FIELDS`. -/
structure JoinBasis where
  evidenceId : Text
  executableDigest : Text
  executableVersion : Text
  instanceGeneration : Text
deriving DecidableEq

structure Registration where
  refKey : Text
  providerId : Text
  surfaceId : Text
  nodeLocator : Text
  basis : JoinBasis
  writer : Option WriterClaim
  generation : ℕ
  createdAt : Text
  updatedAt : Text

/-! ## Errors -/

/-- `registry_error(number, message)`. -/
def registryError (number message : String) : GatewayError where
  code := "VAL-XSR-" ++ number
  kind := "agents"
  message := message

/-- `conflict_error(number, message)`. -/
def registryConflict (number message : String) (details : List (String × Detail)) :
    GatewayError where
  code := "CON-XSR-" ++ number
  kind := "agents"
  message := message
  details := details

/-! ## The schema -/

def isLowerHexText (length : ℕ) (text : Text) : Bool :=
  text.length = length && text.all fun char => char.isDigit || ('a' ≤ char && char ≤ 'f')

/-- `^…[0-9a-f]{length}$` after a fixed beginning. -/
def matchesHexAfter (beginning : Text) (length : ℕ) (text : Text) : Bool :=
  beginning.isPrefixOf text && isLowerHexText length (dropFinalNewline (text.drop beginning.length))

/-- `^[A-Za-z0-9][A-Za-z0-9…]{0,most}$`. -/
def matchesBoundedName (further : Text) (most : ℕ) (text : Text) : Bool :=
  matchesName further text && (dropFinalNewline text).length ≤ most + 1

/-- A text with between one and `most` characters. -/
def isSized (most : ℕ) (text : Text) : Bool := 1 ≤ text.length && text.length ≤ most

namespace JoinBasis

def isValid (basis : JoinBasis) : Bool :=
  matchesHexAfter "qe_".toList 24 basis.evidenceId &&
    matchesHexAfter "sha256:".toList 64 basis.executableDigest &&
    isSized 64 basis.executableVersion && isSized 128 basis.instanceGeneration

end JoinBasis

namespace WriterClaim

def isValid (claim : WriterClaim) : Bool :=
  matchesBoundedName "._:-".toList 127 claim.writerId && isSized 128 claim.ownerEpoch

end WriterClaim

namespace Registration

def isValid (record : Registration) : Bool :=
  matchesHexAfter [] 64 record.refKey &&
    matchesBoundedName "._-".toList 63 record.providerId &&
    matchesBoundedName "._-".toList 63 record.surfaceId &&
    isSized 512 record.nodeLocator && 1 ≤ record.generation && record.basis.isValid &&
    record.writer.all WriterClaim.isValid

def validate (record : Registration) : Except GatewayError Registration := do
  refuse (record.isValid = false)
    (registryError "001" "Invalid external session registration")
  .ok record

end Registration

/-! ## Files -/

/-- `_paths`: the key is safe to build a path from. -/
def checkRefKey (refKey : Text) : Except GatewayError Unit :=
  refuse (isLowerHexText 64 refKey = false) (registryError "004" "Invalid provider ref key")

/-- `_load`. -/
def loadRegistration (refKey : Text) :
    Option Registration → Except GatewayError (Option Registration)
  | none => .ok none
  | some stored => do
    let record ← stored.validate
    refuse (record.refKey ≠ refKey)
      (registryError "003" "External session registration does not match its location")
    .ok (some record)

/-- `_require`. -/
def requireRegistration (refKey : Text) (stored : Option Registration) :
    Except GatewayError Registration := do
  match ← loadRegistration refKey stored with
  | some record => .ok record
  | none => .error (registryError "011" "External session is not registered")

/-- `_store`: the record that is written. -/
def storeRegistration (record : Registration) (now : Text) : Except GatewayError Registration :=
  { record with updatedAt := now }.validate

/-! ## Operations -/

def basisFields : List Text :=
  ["evidence-id".toList, "executable-digest".toList, "executable-version".toList,
    "instance-generation".toList]

/-- `sorted(set(basis) ^ set(_BASIS_FIELDS))`. -/
def unprovenFields (basis : OrderedDict Text Text) : List String :=
  ((basis.keys.filter (· ∉ basisFields) ++ basisFields.filter (· ∉ basis.keys)).map
    String.ofList).insertionSort (· ≤ ·)

def joinBasis? (basis : OrderedDict Text Text) : Option JoinBasis :=
  if basis.keys.all (· ∈ basisFields) then do
    let evidenceId ← basis.get? "evidence-id".toList
    let executableDigest ← basis.get? "executable-digest".toList
    let executableVersion ← basis.get? "executable-version".toList
    let instanceGeneration ← basis.get? "instance-generation".toList
    some { evidenceId, executableDigest, executableVersion, instanceGeneration }
  else none

section Operations

variable (refKey : Text) (stored : Option Registration) (now : Text)

/-- `register`: the record that is there afterwards. -/
def register (providerId surfaceId nodeLocator : Text) (basis : OrderedDict Text Text) :
    Except GatewayError Registration :=
  match joinBasis? basis with
  | none =>
    .error
      { registryError "005" "Registration basis must carry exactly the proven join facts" with
        details := [("fields", .names (unprovenFields basis))] }
  | some proven => do
    checkRefKey refKey
    match ← loadRegistration refKey stored with
    | none =>
      storeRegistration
        { refKey, providerId, surfaceId, nodeLocator, basis := proven, writer := none,
          generation := 1, createdAt := now, updatedAt := now } now
    | some current =>
      refuse ((current.providerId, current.surfaceId) ≠ (providerId, surfaceId))
        (registryConflict "006"
          "Provider ref is already registered for a different provider surface" [])
      if current.nodeLocator = nodeLocator ∧ current.basis = proven then .ok current
      else
        storeRegistration
          { refKey, providerId, surfaceId, nodeLocator, basis := proven, writer := none,
            generation := current.generation + 1, createdAt := current.createdAt,
            updatedAt := now } now

def staleDetails (current : ℕ) (given : ℤ) : List (String × Detail) :=
  [("current", .number current), ("given", .number given)]

/-- `claim_writer`: the record that is there afterwards. -/
def claimWriter (writerId ownerEpoch : Text) (generation : ℤ) : Except GatewayError Registration :=
  do
  checkRefKey refKey
  let record ← requireRegistration refKey stored
  refuse ((record.generation : ℤ) ≠ generation)
    (registryConflict "007" "Binding generation is stale; re-register before claiming"
      (staleDetails record.generation generation))
  let claim : WriterClaim := { writerId, ownerEpoch, claimedAt := now }
  match record.writer with
  | none => storeRegistration { record with writer := some claim } now
  | some holder =>
    if holder.ownerEpoch = ownerEpoch then
      if holder.writerId = writerId then .ok record
      else
        .error (registryConflict "008" "Another writer already holds this external session" [])
    else
      -- The generation moves, so that the retired owner is fenced out.
      storeRegistration
        { record with generation := record.generation + 1, writer := some claim } now

/-- `release_writer`: the record that is there afterwards. -/
def releaseWriter (writerId : Text) (generation : ℤ) : Except GatewayError Registration := do
  checkRefKey refKey
  let record ← requireRegistration refKey stored
  match record.writer with
  | none => .ok record
  | some holder =>
    refuse (holder.writerId ≠ writerId ∨ (record.generation : ℤ) ≠ generation)
      (registryConflict "009"
        "Only the current writer at the current generation can release the claim" [])
    storeRegistration { record with writer := none } now

def assertWriter (writerId ownerEpoch : Text) (generation : ℤ) :
    Except GatewayError Registration := do
  checkRefKey refKey
  let record ← requireRegistration refKey stored
  refuse ((record.generation : ℤ) ≠ generation)
    (registryConflict "007" "Binding generation is stale"
      (staleDetails record.generation generation))
  match record.writer with
  | none =>
    .error (registryConflict "010" "This writer does not hold the external session" [])
  | some holder =>
    refuse (holder.writerId ≠ writerId)
      (registryConflict "010" "This writer does not hold the external session" [])
    refuse (holder.ownerEpoch ≠ ownerEpoch)
      (registryConflict "012" "The claim belongs to a retired gateway owner epoch" [])
    .ok record

end Operations

/-! ## Calls -/

inductive RegistryCall where
  | register (providerId surfaceId nodeLocator : Text) (basis : OrderedDict Text Text)
  | claimWriter (writerId ownerEpoch : Text) (generation : ℤ)
  | releaseWriter (writerId : Text) (generation : ℤ)
  | assertWriter (writerId ownerEpoch : Text) (generation : ℤ)

/-- What the call returns, at the time `now`. -/
def RegistryCall.answer (refKey : Text) (stored : Option Registration) (now : Text) :
    RegistryCall → Except GatewayError Registration
  | .register providerId surfaceId nodeLocator basis =>
    Session.register refKey stored now providerId surfaceId nodeLocator basis
  | .claimWriter writerId ownerEpoch generation =>
    Session.claimWriter refKey stored now writerId ownerEpoch generation
  | .releaseWriter writerId generation =>
    Session.releaseWriter refKey stored now writerId generation
  | .assertWriter writerId ownerEpoch generation =>
    Session.assertWriter refKey stored writerId ownerEpoch generation

/-- The record after a call at the time `now`: the one that a successful call returns, whether it
was written or only read. -/
def registryStep (refKey : Text) (stored : Option Registration) (call : RegistryCall × Text) :
    Option Registration :=
  match call.1.answer refKey stored call.2 with
  | .ok record => some record
  | .error _ => stored

end Audiagentic.Session
