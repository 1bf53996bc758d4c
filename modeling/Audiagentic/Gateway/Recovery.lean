import Mathlib.Data.List.Sort
import Audiagentic.Foundations.Tapes
import Audiagentic.Gateway.Ownership
import Audiagentic.Gateway.WorkIndex

/-!
# Recovery of gateway requests

After a restart the new gateway generation goes through the markers of its service root and
takes over the open requests of older generations.  It looks at the active-work markers first,
as far as their names do not look like those of the work index, and at the work index second.

A service is the records of all projects and the markers of the service root.  Every call is a
script on a tape of durable writes, so that it can stop after any of them.
-/

namespace Audiagentic.Gateway

open Foundations

/-! ## The service -/

/-- The records, by project root and request id, and the markers of the service root. -/
structure Service where
  records : Dict (String × String) Record := ∅
  markers : Markers := ∅

inductive ServiceWrite where
  | record (projectRoot requestId : String) (record : Record)
  | marker (name : String) (file : Option MarkerFile)

namespace Service

def apply (service : Service) : ServiceWrite → Service
  | .record projectRoot requestId record =>
    { service with records := service.records.insert (projectRoot, requestId) record }
  | .marker name (some file) => { service with markers := service.markers.insert name file }
  | .marker name none => { service with markers := service.markers.erase name }

/-- The error of a request without a record. -/
def requestNotFound (requestId : String) : GatewayError :=
  agentsErrorWith "RES-AGW-001" "gateway request not found" [("request-id", .text requestId)]

/-- `read_record`, for records of the current version. -/
def readRecord (service : Service) (projectRoot requestId : String) : Except GatewayError Record :=
  match service.records.lookup (projectRoot, requestId) with
  | none => .error (requestNotFound requestId)
  | some stored => do
    stored.validate "VAL-AGW-005"
    return stored

end Service

abbrev ServiceScript (α : Type) := Script GatewayError (Tape ServiceWrite Service) α

def putWrite (entry : ServiceWrite) : ServiceScript Unit :=
  Script.put Service.apply entry

def callStore (operation : Operation) (projectRoot requestId : String) : ServiceScript Record := do
  Script.check operation.preflight
  let tape ← Script.read
  match tape.store.records.lookup (projectRoot, requestId) with
  | none => Script.check (.error (Service.requestNotFound requestId))
  | some stored => do
    let record ← Script.check stored.readLocked
    putWrite (.record projectRoot requestId record)
    let updated ← Script.check (operation.body record)
    putWrite (.record projectRoot requestId updated)
    return updated

/-! ## Markers -/

section Markers

variable (digests : MarkerDigests)

/-- `record_active_work`, as a write. -/
def activeWorkMarker (projectRoot requestId ownerEpoch : String) : ServiceWrite :=
  .marker (activeWorkName digests requestId)
    (some (.object
      { requestId := requestId, projectRoot := projectRoot, ownerEpoch := ownerEpoch }))

/-- `clear_active_work` and then `clear_stale_terminal_index`. -/
def clearMarkers (requestId : String) : ServiceScript Unit := do
  putWrite (.marker (activeWorkName digests requestId) none)
  putWrite (.marker requestId none)

/-- The cleanup of `transition_owned_terminal`: the index entry first. -/
def clearTerminalMarkers (requestId : String) : ServiceScript Unit := do
  putWrite (.marker requestId none)
  putWrite (.marker (activeWorkName digests requestId) none)

/-- `work_index.takeover_owner`, as a write. -/
def writeTakeover (requestId : String) (expectedOwnerEpoch : Option String)
    (newOwnerEpoch : String) : ServiceScript Unit := do
  let tape ← Script.read
  match takeoverOwner digests tape.store.markers requestId expectedOwnerEpoch newOwnerEpoch with
  | .error error => Script.check (.error error)
  | .ok (_, markers) => putWrite (.marker requestId (markers.lookup requestId))

def takeoverIndexEntry (requestId : String) (expectedOwnerEpoch : Option String)
    (newOwnerEpoch : String) : ServiceScript Unit := do
  let moved ← Script.attempt (writeTakeover digests requestId expectedOwnerEpoch newOwnerEpoch)
  match moved with
  | .ok _ => return ()
  | .error error =>
    if error.code ≠ "CON-AGW-106" then Script.check (.error error)
    else writeTakeover digests requestId none newOwnerEpoch

end Markers

/-! ## Stale requests -/

structure RecoveringService where
  projections : Projections
  digests : MarkerDigests
  /-- `str(service_root)`. -/
  serviceRoot : String
  /-- The details of an interruption: the phase, the side effect state, the transport kind and
  whether the submission is proven. -/
  interruptionDetails : Record → Doc

structure RecoveryPass where
  liveOwnerEpoch : String
  workerId : String → String → String
  now : Timestamp

section Stale

variable (gateway : RecoveringService) (pass : RecoveryPass)

def staleTakeover (record : Record) (recordEpoch workerId : Option String) : Operation :=
  takeoverNonterminalOwner recordEpoch pass.liveOwnerEpoch workerId
    (record.recovery.bind Recovery.handoffId) pass.now

def takenIdentity (updated : Record) (workerId : String) : OwnedIdentity where
  ownerEpoch :=
    if present updated.dispatchOwnerEpoch then updated.dispatchOwnerEpoch
    else some pass.liveOwnerEpoch
  workerId := if present updated.workerId then updated.workerId else some workerId
  attemptEpoch := updated.attemptEpoch

def recoveryError (code message : String) (details : Doc) : ErrorValue where
  isMapping := true
  code := some code
  kind := some "agents"
  message := some message
  details := some details
  watchdogClassification := none
  text := ""

def cancelStaleRequest (projectRoot requestId : String) (record : Record)
    (recordEpoch : Option String) : ServiceScript (Option RequestState) := do
  let workerId := pass.workerId projectRoot requestId
  let updated ← callStore (staleTakeover pass record recordEpoch (some workerId)) projectRoot
    requestId
  let _ ← callStore (transitionOwnedTerminal gateway.projections requestId .cancelled
    (takenIdentity pass updated workerId)
    [.result (.error (some (recoveryError "CON-AGW-085"
        "request was cancelled before gateway restart recovery"
        "\x7b\"recovery-phase\": \"restart-cancel-requested\"\x7d"))),
      .result (.recovery (some { reason := .ownerLoss, outcome := .inPlace,
                                 phase := some "restart-cancel-requested" })),
      .result (.finishedAt (some pass.now))] none pass.now) projectRoot requestId
  clearTerminalMarkers gateway.digests requestId
  return none

def interruptStaleRequest (projectRoot requestId : String) (record : Record)
    (recordEpoch : Option String) : ServiceScript (Option RequestState) := do
  let workerId := pass.workerId projectRoot requestId
  let updated ← callStore (staleTakeover pass record recordEpoch (some workerId)) projectRoot
    requestId
  let interrupted ← callStore (transitionOwnedTerminal gateway.projections requestId .interrupted
    (takenIdentity pass updated workerId)
    [.result (.error (some (recoveryError "CON-AGW-084"
        "worker-backed request interrupted because its gateway owner was lost"
        (gateway.interruptionDetails record)))),
      .result (.recovery (some { reason := .ownerLoss, outcome := .manualReviewRequired,
                                 phase := some "restart-unreattachable-worker",
                                 sideEffectState := some "may-have-started" })),
      .result (.finishedAt (some pass.now))] none pass.now) projectRoot requestId
  -- No service root is given, so the cleanup goes to the one the record names.
  if interrupted.dispatchServiceRoot = some gateway.serviceRoot then
    clearTerminalMarkers gateway.digests requestId
  return some .interrupted

/-- The record after the takeover of work that goes on.  A takeover that a prior generation
has already committed for this owner is repaired, another live owner is never overwritten. -/
def adoptRecord (projectRoot requestId : String) (record : Record)
    (recordEpoch workerId : Option String) : ServiceScript Record := do
  let claimed ← Script.attempt
    (callStore (staleTakeover pass record recordEpoch workerId) projectRoot requestId)
  match claimed with
  | .ok updated => return updated
  | .error error =>
    if error.code ≠ "CON-AGW-083" then Script.check (.error error)
    else do
      let tape ← Script.read
      let current ← Script.check (tape.store.readRecord projectRoot requestId)
      Script.check (refuse (current.dispatchOwnerEpoch ≠ some pass.liveOwnerEpoch) error)
      return current

/-- Work that goes on under the live owner. -/
def adoptStaleRequest (projectRoot requestId : String) (record : Record)
    (recordEpoch : Option String) : ServiceScript (Option RequestState) := do
  let workerId :=
    if record.state = .running ∧ record.admission.nodePlacement = none then
      some (pass.workerId projectRoot requestId)
    else none
  let updated ← adoptRecord pass projectRoot requestId record recordEpoch workerId
  takeoverIndexEntry gateway.digests requestId recordEpoch pass.liveOwnerEpoch
  putWrite (activeWorkMarker gateway.digests projectRoot requestId pass.liveOwnerEpoch)
  return some updated.state

/-- `_takeover_stale_request`: the state under which the request is reported, if it is. -/
def takeoverStaleRequest (projectRoot requestId : String) (recordEpoch : Option String) :
    ServiceScript (Option RequestState) := do
  let tape ← Script.read
  match tape.store.readRecord projectRoot requestId with
  | .error _ => return none
  | .ok record =>
    if record.state.isTerminal then do
      clearMarkers gateway.digests requestId
      return none
    else if record.admission.nodePlacement = none ∧ record.cancelRequested = true then
      cancelStaleRequest gateway pass projectRoot requestId record recordEpoch
    else if record.state = .running ∧
        record.admission.providerTransportKind ≠ .providerSession ∧
        record.admission.nodePlacement = none then
      interruptStaleRequest gateway pass projectRoot requestId record recordEpoch
    else adoptStaleRequest gateway pass projectRoot requestId record recordEpoch

end Stale

/-! ## The pass -/

structure RecoveryReport where
  examined : Nat := 0
  replayRequired : Nat := 0
  interrupted : Nat := 0
  cleared : Nat := 0
  skippedLive : Nat := 0
  quarantined : Nat := 0
  queued : List (String × String) := []
  running : List (String × String) := []
  deferred : List (String × String) := []

def RecoveryReport.noted (report : RecoveryReport) (projectRoot requestId : String) :
    Option RequestState → RecoveryReport
  | none => report
  | some .queued => { report with queued := report.queued ++ [(projectRoot, requestId)] }
  | some .running => { report with running := report.running ++ [(projectRoot, requestId)] }
  | some .interrupted => { report with interrupted := report.interrupted + 1 }
  | some _ => { report with deferred := report.deferred ++ [(projectRoot, requestId)] }

/-- `_read_entry`: the project root and the request id of a marker. -/
def readEntry : MarkerFile → Option (String × String)
  | .unreadable | .notObject => none
  | .object content =>
    if present content.requestId ∧ present content.projectRoot then
      some (content.projectRoot.getD "", content.requestId.getD "")
    else none

/-- The file is in the directory itself, not below it. -/
def inDirectory (name : String) : Bool := !name.toList.contains '/'

/-- `name.startswith("req_")`. -/
def isIndexName (name : String) : Bool := "req_".toList.isPrefixOf name.toList

/-- `sorted(active_root.glob("*.json"))`, by the names without `.json`. -/
def directoryNames (markers : Markers) : List String :=
  (markers.keys.filter inDirectory).insertionSort
    (fun first second => first ++ ".json" ≤ second ++ ".json")

section Pass

variable (gateway : RecoveringService) (pass : RecoveryPass)

/-- The two counters of a pass, and the request ids that the first path has seen. -/
structure Discovery where
  processed : List String := []
  report : RecoveryReport := {}

def activeRound (name : String) (found : Discovery) : ServiceScript Discovery := do
  let tape ← Script.read
  match (tape.store.markers.lookup name).map readEntry with
  | none | some none => do
    -- Unreadable, or removed by an earlier round: quarantined.
    putWrite (.marker name none)
    return { found with report :=
      { found.report with quarantined := found.report.quarantined + 1 } }
  | some (some (projectRoot, requestId)) =>
    let seen : Discovery :=
      { processed := requestId :: found.processed
        report := { found.report with examined := found.report.examined + 1 } }
    match tape.store.readRecord projectRoot requestId with
    | .error _ => return seen
    | .ok record =>
      if record.state.isTerminal then do
        clearMarkers gateway.digests requestId
        return { seen with report := { seen.report with cleared := seen.report.cleared + 1 } }
      else if record.dispatchOwnerEpoch = some pass.liveOwnerEpoch then
        return { seen with
          report := { seen.report with skippedLive := seen.report.skippedLive + 1 } }
      else if present record.dispatchOwnerEpoch = false then do
        clearMarkers gateway.digests requestId
        return { seen with report := { seen.report with cleared := seen.report.cleared + 1 } }
      else do
        let state ← takeoverStaleRequest gateway pass projectRoot requestId
          record.dispatchOwnerEpoch
        return { seen with report := seen.report.noted projectRoot requestId state }

def activeRounds : List String → Discovery → ServiceScript Discovery
  | [], found => return found
  | name :: names, found => do
    let next ← activeRound gateway pass name found
    activeRounds names next

/-- `recover_work_index_entries`: the valid entries, and the number of the others. -/
def recoverWorkIndexEntries : List String → ServiceScript (List WorkIndexEntry × Nat)
  | [] => return ([], 0)
  | name :: names => do
    let tape ← Script.read
    match (tape.store.markers.lookup name).map (parseEntry gateway.digests) with
    | some (.ok (_, entry)) => do
      let (entries, quarantined) ← recoverWorkIndexEntries names
      return (entry :: entries, quarantined)
    | _ => do
      putWrite (.marker name none)
      let (entries, quarantined) ← recoverWorkIndexEntries names
      return (entries, quarantined + 1)

def indexRound (processed : List String) (entry : WorkIndexEntry) (report : RecoveryReport) :
    ServiceScript RecoveryReport := do
  if entry.requestId ∈ processed then return report
  else do
    let seen := { report with examined := report.examined + 1 }
    let tape ← Script.read
    match tape.store.readRecord entry.projectRoot entry.requestId with
    | .error _ => do
      putWrite (.marker entry.requestId none)
      return { seen with quarantined := seen.quarantined + 1 }
    | .ok record =>
      if record.state.isTerminal then do
        putWrite (.marker entry.requestId none)
        return { seen with cleared := seen.cleared + 1 }
      else
        let recordEpoch :=
          if present entry.ownerEpoch then entry.ownerEpoch else record.dispatchOwnerEpoch
        if present recordEpoch = true ∧ recordEpoch = some pass.liveOwnerEpoch then
          return { seen with skippedLive := seen.skippedLive + 1 }
        else do
          let state ← takeoverStaleRequest gateway pass entry.projectRoot entry.requestId
            (if present recordEpoch then recordEpoch else none)
          return seen.noted entry.projectRoot entry.requestId state

def indexRounds (processed : List String) :
    List WorkIndexEntry → RecoveryReport → ServiceScript RecoveryReport
  | [], report => return report
  | entry :: entries, report => do
    let next ← indexRound gateway pass processed entry report
    indexRounds processed entries next

def recoverGatewayRequests : ServiceScript RecoveryReport := do
  let before ← Script.read
  let found ← activeRounds gateway pass
    ((directoryNames before.store.markers).filter fun name => !isIndexName name) {}
  let between ← Script.read
  let (entries, quarantined) ← recoverWorkIndexEntries gateway
    ((directoryNames between.store.markers).filter isIndexName)
  indexRounds gateway pass found.processed entries
    { found.report with quarantined := found.report.quarantined + quarantined }

end Pass

end Audiagentic.Gateway
