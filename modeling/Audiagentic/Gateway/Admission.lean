import Mathlib.Data.List.Sort
import Audiagentic.Foundations.Journals
import Audiagentic.Gateway.Record

/-!
# Admission of gateway requests

`admit_record` reserves an idempotency key and persists the request's record.
It works in two phases.  Before the admission lock it checks the candidate and,
when the sequence file is missing, scans the records for the last ordinal; under
the lock it looks for a record of the same key, through the index file and then
by a scan, and writes the sequence, the record and the index when there is none.

The files of one project are its records in the order of their creation, one
index file for each key digest, and the sequence file.
-/

namespace Audiagentic.Gateway

open Foundations

/-! ## Execution intent -/

structure NodeIntent where
  serverId : String
  semantic : Doc
  policyProfileId : String
  policy : Doc
  sourceWorkspace : Option Doc
deriving DecidableEq

/-- The mapping that `_intent_digest` encodes.  The two node keys are there together. -/
structure ExecutionIntent where
  executionProfileId : String
  contextFingerprint : Option String
  promptDigest : Option String
  mode : Mode
  continuationSessionId : Option String
  providerTransportKind : TransportKind
  sessionKeepAlive : Option Bool
  sessionIdleTimeoutSeconds : Option Int
  sessionMaxLifetimeSeconds : Option Int
  node : Option (Option NodePlacement × Option NodeIntent)
deriving DecidableEq

def NodeAdmission.intent (descriptor : NodeAdmission) : NodeIntent where
  serverId := descriptor.serverId
  semantic := descriptor.semantic
  policyProfileId := descriptor.policyProfileId
  policy := descriptor.policy
  sourceWorkspace := descriptor.sourceWorkspace

/-- The execution intent of a record: no provenance, no ids, no raw prompt. -/
def Admission.intent (admission : Admission) : ExecutionIntent where
  executionProfileId := admission.executionProfileId
  contextFingerprint := admission.contextFingerprint
  promptDigest := admission.promptDigest
  mode := admission.mode
  continuationSessionId := admission.continuationSessionId
  providerTransportKind := admission.providerTransportKind
  sessionKeepAlive := admission.sessionKeepAlive
  sessionIdleTimeoutSeconds := admission.sessionIdleTimeoutSeconds
  sessionMaxLifetimeSeconds := admission.sessionMaxLifetimeSeconds
  node :=
    if admission.nodePlacement ≠ none ∨ admission.nodeAdmission ≠ none then
      some (admission.nodePlacement, admission.nodeAdmission.map NodeAdmission.intent)
    else none

structure AdmissionDigests where
  hashIdempotencyKey : String → String
  intentDigest : ExecutionIntent → String

/-! ## Files -/

inductive IndexFile where
  | missing
  /-- Not JSON, not a mapping, or without its three texts. -/
  | malformed
  | entry (keyDigest intentDigest requestId : String)

/-- `enqueue-sequence.json`. -/
inductive SequenceFile where
  | missing
  /-- Not a natural number. -/
  | malformed
  | counter (value : Nat)
deriving DecidableEq

structure Project where
  /-- In the order of their creation. -/
  records : List Record
  index : String → IndexFile
  sequence : SequenceFile

def Project.empty : Project where
  records := []
  index := fun _ => .missing
  sequence := .missing

/-- A durable write of `admit_record`. -/
inductive AdmissionWrite where
  | unlinkIndex (keyDigest : String)
  | writeIndex (keyDigest intentDigest requestId : String)
  | writeSequence (value : Nat)
  | writeRecord (record : Record)

namespace Project

def putIndex (project : Project) (keyDigest : String) (file : IndexFile) : Project :=
  { project with
    index := fun other => if other = keyDigest then file else project.index other }

def record? (project : Project) (requestId : String) : Option Record :=
  project.records.find? fun record => decide (record.admission.requestId = requestId)

def putRecord (project : Project) (record : Record) : Project :=
  match project.record? record.admission.requestId with
  | none => { project with records := project.records ++ [record] }
  | some _ => { project with
      records := project.records.map fun other =>
        if other.admission.requestId = record.admission.requestId then record else other }

def apply (project : Project) : AdmissionWrite → Project
  | .unlinkIndex keyDigest => project.putIndex keyDigest .missing
  | .writeIndex keyDigest intentDigest requestId =>
    project.putIndex keyDigest (.entry keyDigest intentDigest requestId)
  | .writeSequence value => { project with sequence := .counter value }
  | .writeRecord record => project.putRecord record

end Project

/-! ## Reading records -/

def hasByte (mark : Char) (text : String) : Bool :=
  (utf8Bytes text).any (isBetween mark mark)

/-- The name of a directory entry below the gateway root that `list_records` looks into. -/
def isListedName (name : String) : Bool :=
  !(["", ".", "..", "idempotency", "sessions"].contains name) && !hasByte '/' name

/-- `list_records`: newest first. -/
def listRecords (project : Project) : List Record :=
  (project.records.filter fun record => isListedName record.admission.requestId).insertionSort
    fun first second => second.admission.createdAt ≤ first.admission.createdAt

def isEntryName (name : String) : Bool :=
  !hasByte '\x00' name && !hasByte '/' name && decide (name ≠ "..")

def recordNotFound (requestId : String) : GatewayError :=
  agentsErrorWith "RES-AGW-001" "gateway request not found" [("request-id", .text requestId)]

def recordUnreadable (requestId : String) : GatewayError :=
  agentsErrorWith "IO-AGW-001" "failed to read gateway request record"
    [("request-id", .text requestId)]

/-- `read_record` at a name that an index file gives.  A NUL byte makes the path invalid, which
is a `ValueError`; a name with a separator reaches `outside`, whatever lies there. -/
def readRecord (outside : String → Except GatewayError Record) (project : Project)
    (name : String) : Except GatewayError Record :=
  if hasByte '\x00' name then .error (recordUnreadable name)
  else if hasByte '/' name ∨ name = ".." then outside name
  else
    match project.record? name with
    | some record => .ok record
    | none => .error (recordNotFound name)

/-! ## Generated ids -/

/-- The class `[a-z0-9-]`. -/
def isSlugByte (byte : UInt8) : Bool :=
  isBetween 'a' 'z' byte || isBetween '0' '9' byte || isBetween '-' '-' byte

/-- The shape of what `generate_request_id` returns: `req_`, a slug of the project's name of at
most twenty-four characters, `_` and twelve hexadecimal digits. -/
def isGeneratedRequestId (requestId : String) : Bool :=
  let body := (utf8Bytes requestId).drop 4
  let slug := body.take (body.length - 13)
  let suffix := body.drop (body.length - 13)
  decide ((utf8Bytes requestId).take 4 = utf8Bytes "req_") &&
    decide (1 ≤ slug.length ∧ slug.length ≤ 24) && slug.all isSlugByte &&
    decide (suffix.take 1 = utf8Bytes "_") && decide ((suffix.drop 1).length = 12) &&
    (suffix.drop 1).all isLowerHex

/-! ## Before the lock -/

/-- The arguments of `admit_record`. -/
structure AdmissionCall where
  payload : Record
  idempotencyKey : String

/-- What a call has when it takes the lock. -/
structure PreparedAdmission where
  candidate : Record
  keyDigest : String
  fallbackOrdinal : Option Nat

def checkNodeTarget (admission : Admission) : Except GatewayError Unit :=
  match admission.nodePlacement, admission.nodeAdmission with
  | some _, none => .error (invalid "Node admission requires a mapping")
  | some _, some descriptor => do
    refuse (descriptor.sourceWorkspace = none)
      (agentsError "VAL-AGW-002" "Fresh node admission requires caller workspace identity")
    refuse (descriptor.policyProfileId ≠ admission.executionProfileId)
      (agentsError "VAL-AGW-002" "Node admission profile mismatch")
  | none, some _ => .error (agentsError "VAL-AGW-002" "Node descriptor requires sealed placement")
  | none, none => .ok ()

def lastOrdinal (records : List Record) : Nat :=
  (records.filterMap fun record => record.admission.enqueueOrdinal).foldl max 0

/-- The request takes part in the enqueue order. -/
def Admission.isSession (admission : Admission) : Bool :=
  decide (admission.providerTransportKind = .providerSession)

def Record.isSession (record : Record) : Bool :=
  record.admission.isSession

variable (digests : AdmissionDigests)

def AdmissionCall.candidate (call : AdmissionCall) : Record :=
  { call.payload with admission := { call.payload.admission with
      idempotencyKey := some (digests.hashIdempotencyKey call.idempotencyKey) } }

/-- `admit_record` before the admission lock, on the files as they are then. -/
def prepareAdmission (project : Project) (call : AdmissionCall) :
    Except GatewayError PreparedAdmission := do
  checkNodeTarget call.payload.admission
  call.payload.validate "VAL-AGW-002"
  return {
    candidate := call.candidate digests
    keyDigest := digests.hashIdempotencyKey call.idempotencyKey
    fallbackOrdinal :=
      if call.payload.isSession = true ∧ project.sequence = .missing then
        some (lastOrdinal (listRecords project))
      else none }

/-! ## Under the lock -/

/-- A program that makes the writes of `admit_record`. -/
abbrev AdmissionJournal := Journal GatewayError AdmissionWrite

/-- `CON-AGW-081`. -/
def keyConflict : GatewayError :=
  agentsError "CON-AGW-081" "idempotency key was already used for a different gateway request"

variable (prepared : PreparedAdmission)

def PreparedAdmission.intentDigest : String :=
  digests.intentDigest prepared.candidate.admission.intent

def indexedRecord (outside : String → Except GatewayError Record) (project : Project) :
    AdmissionJournal (Option Record) :=
  match project.index prepared.keyDigest with
  | .missing | .malformed => return none
  | .entry keyDigest intentDigest requestId =>
    if keyDigest ≠ prepared.keyDigest then do
      Journal.write (.unlinkIndex prepared.keyDigest)
      return none
    else
      match readRecord outside project requestId with
      | .error failure => do
        Journal.check (refuse (failure.code ≠ "RES-AGW-001") failure)
        Journal.write (.unlinkIndex prepared.keyDigest)
        return none
      | .ok original =>
        if original.admission.idempotencyKey ≠ some prepared.keyDigest then do
          Journal.write (.unlinkIndex prepared.keyDigest)
          return none
        else do
          let persisted := digests.intentDigest original.admission.intent
          if intentDigest ≠ persisted then
            Journal.write (.writeIndex prepared.keyDigest persisted
              original.admission.requestId)
          Journal.check (refuse (persisted ≠ prepared.intentDigest digests) keyConflict)
          return some original

def matchingPersistedRecord (project : Project) : Except GatewayError (Option Record) :=
  match (listRecords project).filter fun record =>
      decide (record.admission.idempotencyKey = some prepared.keyDigest) with
  | [] => .ok none
  | [record] =>
    if digests.intentDigest record.admission.intent = prepared.intentDigest digests then
      .ok (some record)
    else .error keyConflict
  | _ => .error keyConflict

/-- The ordinal before the candidate's: the counter, or the hint of the scan when there is
none. -/
def previousOrdinal (project : Project) : Except GatewayError Nat :=
  match project.sequence with
  | .counter value => .ok value
  | .malformed => .error ⟨"", "ValueError", "invalid gateway enqueue sequence", []⟩
  | .missing => .ok (prepared.fallbackOrdinal.getD (lastOrdinal (listRecords project)))

def Record.withOrdinal (record : Record) (ordinal : Nat) : Record :=
  { record with admission := { record.admission with enqueueOrdinal := some ordinal } }

def numberCandidate (project : Project) : AdmissionJournal Record :=
  if prepared.candidate.isSession = true then do
    let previous ← Journal.check (previousOrdinal prepared project)
    Journal.write (.writeSequence (previous + 1))
    return prepared.candidate.withOrdinal (previous + 1)
  else return prepared.candidate

def writeRecord (project : Project) (record : Record) : AdmissionJournal Unit := do
  Journal.check (refuse (record.admission.requestId = "")
    (agentsError "VAL-AGW-003" "gateway request record missing request-id"))
  Journal.check (record.validate "VAL-AGW-004")
  Journal.check (refuse (∃ previous ∈ project.record? record.admission.requestId,
      previous.admission.nodeAdmission ≠ record.admission.nodeAdmission)
    (agentsError "VAL-AGW-098" "Node admission descriptor is immutable after record creation"))
  Journal.write (.writeRecord record.redactForPersistence)

def createRecord (beforeWrite : Except GatewayError Unit) (project : Project) :
    AdmissionJournal (Record × Bool) := do
  Journal.check beforeWrite
  let candidate ← numberCandidate prepared project
  writeRecord project candidate
  Journal.write (.writeIndex prepared.keyDigest (prepared.intentDigest digests)
    candidate.admission.requestId)
  return (candidate, true)

/-- `admit_record` under the admission lock. -/
def admitRecord (outside : String → Except GatewayError Record)
    (beforeWrite : Except GatewayError Unit) (project : Project) :
    AdmissionJournal (Record × Bool) := do
  match ← indexedRecord digests prepared outside project with
  | some original => return (original, false)
  | none =>
    match ← Journal.check (matchingPersistedRecord digests prepared project) with
    | some recovered => do
      Journal.write (.writeIndex prepared.keyDigest (prepared.intentDigest digests)
        recovered.admission.requestId)
      return (recovered, false)
    | none => createRecord digests prepared beforeWrite project

end Audiagentic.Gateway
