import Audiagentic.Foundations.Dictionaries
import Audiagentic.Gateway.Transitions

/-!
# Markers of admitted and active work

A service root keeps two kinds of markers in one directory: an active-work marker under the
digest of a request id, written by a claim, and a work-index entry under the id itself, with
the phase that the request has reached.  Both are references; the record stays the authority.
-/

namespace Audiagentic.Gateway

open Foundations Option

/-! ## Files -/

inductive Phase where
  | admitted
  | claimed
  | running
  | terminalCleanup
deriving DecidableEq, Repr

namespace Phase

def text : Phase → String
  | admitted => "admitted"
  | claimed => "claimed"
  | running => "running"
  | terminalCleanup => "terminal-cleanup"

/-- `_PHASE_LEGAL_TRANSITIONS`; a phase without a row is not one of an entry. -/
def legalTargets : Phase → Option (List Phase)
  | admitted => some [claimed, terminalCleanup]
  | claimed => some [running, terminalCleanup]
  | running => some [terminalCleanup]
  | terminalCleanup => none

def ofText? (text : String) : Option Phase :=
  [admitted, claimed, running].find? fun phase => phase.text = text

end Phase

/-- The object in a marker; `none` where a key is missing or not a text. -/
structure MarkerObject where
  requestId : Option String := none
  projectRoot : Option String := none
  projectRootDigest : Option String := none
  phase : Option String := none
  ownerEpoch : Option String := none
  laneKey : Option String := none
  admittedAt : Option Timestamp := none
  claimedAt : Option Timestamp := none
deriving Repr

inductive MarkerFile where
  | unreadable
  | notObject
  | object (content : MarkerObject)
deriving Repr

/-- The directory `active-work`, by the names of its files without `.json`. -/
abbrev Markers := Dict String MarkerFile

structure MarkerDigests where
  requestId : String → String
  /-- `_project_root_digest`. -/
  projectRoot : String → String

inductive Failure where
  | refused (error : GatewayError)
  | osError

variable (digests : MarkerDigests)

/-! ## Active work -/

/-- The file name of `active_work_path`. -/
def activeWorkName (requestId : String) : String := digests.requestId requestId

/-- `record_active_work`, for a service root. -/
def recordActiveWork (markers : Markers) (projectRoot requestId ownerEpoch : String) : Markers :=
  markers.insert (activeWorkName digests requestId)
    (.object { requestId := requestId, projectRoot := projectRoot, ownerEpoch := ownerEpoch })

/-! ## The work index -/

structure WorkIndexEntry where
  requestId : String
  projectRoot : String
  phase : Phase
  ownerEpoch : Option String
  laneKey : Option String
  admittedAt : Option Timestamp
  claimedAt : Option Timestamp

/-- `_read_raw_entry`, with the reason of a quarantine. -/
def readRawEntry : MarkerFile → Except String MarkerObject
  | .unreadable => .error "unreadable"
  | .notObject => .error "not-object"
  | .object content =>
    if present content.requestId ∧ present content.projectRoot ∧ present content.phase then
      .ok content
    else .error "missing-fields"

/-- `validate_work_index_entry` of a parsed object. -/
def validateWorkIndexEntry (raw : MarkerObject) : Except String WorkIndexEntry := do
  refuse (present raw.requestId = false) "missing-request-id"
  refuse (present raw.projectRoot = false) "missing-project-root"
  match Phase.ofText? (raw.phase.getD "") with
  | none => .error "invalid-phase"
  | some phase =>
    refuse (present raw.projectRootDigest = true ∧
        raw.projectRootDigest ≠ some (digests.projectRoot (raw.projectRoot.getD "")))
      "digest-mismatch"
    return ⟨raw.requestId.getD "", raw.projectRoot.getD "", phase, raw.ownerEpoch, raw.laneKey,
      raw.admittedAt, raw.claimedAt⟩

def parseEntry (file : MarkerFile) : Except String (MarkerObject × WorkIndexEntry) := do
  let raw ← readRawEntry file
  let entry ← validateWorkIndexEntry digests raw
  return (raw, entry)

/-- The object that `write_work_index_entry` writes. -/
def newEntry (projectRoot requestId : String) (phase : Phase) (ownerEpoch laneKey : Option String)
    (now : Timestamp) : MarkerObject where
  requestId := requestId
  projectRoot := projectRoot
  projectRootDigest := digests.projectRoot projectRoot
  phase := phase.text
  ownerEpoch := ownerEpoch
  laneKey := laneKey
  admittedAt := now
  claimedAt := none

def writeWorkIndexEntry (markers : Markers) (projectRoot requestId : String) (phase : Phase)
    (ownerEpoch laneKey : Option String) (now : Timestamp) : Markers :=
  markers.insert requestId
    (.object (newEntry digests projectRoot requestId phase ownerEpoch laneKey now))

def phaseMismatch (requestId : String) (fromPhase actual : Phase) : GatewayError :=
  agentsErrorWith "CON-AGW-104" "work-index phase mismatch on update"
    [("request-id", .text requestId), ("expected-from-phase", .text fromPhase.text),
      ("actual-phase", .text actual.text)]

def ownerMismatch (requestId : String) (stored caller : Option String) : GatewayError :=
  agentsErrorWith "CON-AGW-106" "work-index owner-epoch mismatch on phase transition"
    [("request-id", .text requestId), ("stored-owner-epoch", .text (stored.getD "")),
      ("caller-owner-epoch", .text (caller.getD ""))]

/-- The error of a transition that is not in the table. -/
def illegalPhase (requestId : String) (fromPhase toPhase : Phase) : GatewayError :=
  agentsErrorWith "CON-AGW-105" "illegal work-index phase transition"
    [("request-id", .text requestId), ("from-phase", .text fromPhase.text),
      ("to-phase", .text toPhase.text),
      ("legal-targets", .names ((fromPhase.legalTargets.getD []).map Phase.text))]

def checkPhaseUpdate (requestId : String) (fromPhase toPhase : Phase) (ownerEpoch : Option String)
    (entry : WorkIndexEntry) : Except GatewayError Unit := do
  refuse (entry.phase ≠ fromPhase) (phaseMismatch requestId fromPhase entry.phase)
  refuse ((fromPhase = .claimed ∨ fromPhase = .running) ∧ present entry.ownerEpoch = true ∧
      present ownerEpoch = true ∧ entry.ownerEpoch ≠ ownerEpoch)
    (ownerMismatch requestId entry.ownerEpoch ownerEpoch)
  refuse (toPhase ∉ fromPhase.legalTargets.getD []) (illegalPhase requestId fromPhase toPhase)

def phaseUpdated (raw : MarkerObject) (toPhase : Phase) (ownerEpoch : Option String)
    (now : Timestamp) : MarkerObject :=
  if toPhase = .claimed ∧ present ownerEpoch = true then
    { raw with phase := toPhase.text, ownerEpoch := ownerEpoch, claimedAt := now }
  else { raw with phase := toPhase.text }

/-- `update_work_index_phase`: whether there was an entry, and the directory.  A file that is
not a valid entry is moved to the quarantine. -/
def updateWorkIndexPhase (markers : Markers) (requestId : String) (fromPhase toPhase : Phase)
    (ownerEpoch : Option String) (now : Timestamp) : Except GatewayError (Bool × Markers) :=
  match markers.lookup requestId with
  | none => .ok (false, markers)
  | some file =>
    match parseEntry digests file with
    | .error _ => .ok (false, markers.erase requestId)
    | .ok (raw, entry) => do
      checkPhaseUpdate requestId fromPhase toPhase ownerEpoch entry
      return (true, markers.insert requestId
        (.object (phaseUpdated raw toPhase ownerEpoch now)))

def takeoverOwner (markers : Markers) (requestId : String) (expectedOwnerEpoch : Option String)
    (newOwnerEpoch : String) : Except GatewayError (Bool × Markers) :=
  match markers.lookup requestId with
  | none => .ok (false, markers)
  | some file =>
    match parseEntry digests file with
    | .error _ => .ok (false, markers.erase requestId)
    | .ok (raw, entry) => do
      refuse (expectedOwnerEpoch ≠ none ∧ entry.ownerEpoch ≠ expectedOwnerEpoch)
        (agentsErrorWith "CON-AGW-106" "work-index owner-epoch changed during takeover"
          [("request-id", .text requestId)])
      return (true, markers.insert requestId
        (.object { raw with ownerEpoch := newOwnerEpoch }))

/-! ## Entries -/

def entryAt (markers : Markers) (requestId : String) : Option WorkIndexEntry :=
  (markers.lookup requestId).bind fun file => (parseEntry digests file).toOption.map Prod.snd

variable {digests}

/-- **A phase update is refused** exactly on a valid entry that fails its checks. -/
theorem updateWorkIndexPhase_refused {markers : Markers} {requestId : String}
    {fromPhase toPhase : Phase} {ownerEpoch : Option String} {now : Timestamp}
    {error : GatewayError} :
    updateWorkIndexPhase digests markers requestId fromPhase toPhase ownerEpoch now =
        .error error ↔
      ∃ entry, entryAt digests markers requestId = some entry ∧
        checkPhaseUpdate requestId fromPhase toPhase ownerEpoch entry = .error error := by
  rw [updateWorkIndexPhase, entryAt]
  rcases eq_none_or_eq_some (markers.lookup requestId) with missing | ⟨file, found⟩
  · rw [missing]
    simp
  rw [found]
  dsimp only [bind_some]
  cases parsed : parseEntry digests file with
  | error reason => simp [Except.toOption]
  | ok pair =>
    obtain ⟨raw, entry⟩ := pair
    dsimp only [Except.toOption, map_some]
    rw [bind_eq_error]
    constructor
    · rintro (refused | ⟨_, _, impossible⟩)
      · exact ⟨entry, rfl, refused⟩
      · cases impossible
    · rintro ⟨other, same, refused⟩
      rw [Option.some.inj same]
      exact .inl refused

theorem checkPhaseUpdate_refused {requestId : String} {fromPhase toPhase : Phase}
    {ownerEpoch : Option String} {entry : WorkIndexEntry}
    (legal : toPhase ∈ fromPhase.legalTargets.getD []) :
    (∃ error, checkPhaseUpdate requestId fromPhase toPhase ownerEpoch entry = .error error) ↔
      entry.phase ≠ fromPhase ∨ ((fromPhase = .claimed ∨ fromPhase = .running) ∧
        present entry.ownerEpoch = true ∧ present ownerEpoch = true ∧
        entry.ownerEpoch ≠ ownerEpoch) := by
  simp only [checkPhaseUpdate, bind_eq_error, refuse_eq_error, refuse_eq_ok, exists_const, legal,
    not_true_eq_false, false_and, and_false, or_false]
  constructor
  · rintro ⟨error, ⟨other, -⟩ | ⟨-, mismatch, -⟩⟩
    · exact .inl other
    · exact .inr mismatch
  intro refused
  by_cases same : entry.phase = fromPhase
  · rcases refused with other | mismatch
    · exact absurd same other
    · exact ⟨_, .inr ⟨not_not.mpr same, mismatch, rfl⟩⟩
  · exact ⟨_, .inl ⟨same, rfl⟩⟩

theorem updateWorkIndexPhase_refuses_iff {markers : Markers} {requestId : String}
    {fromPhase toPhase : Phase} {ownerEpoch : Option String} {now : Timestamp}
    (legal : toPhase ∈ fromPhase.legalTargets.getD []) :
    (∃ error, updateWorkIndexPhase digests markers requestId fromPhase toPhase ownerEpoch now =
        .error error) ↔
      ∃ entry, entryAt digests markers requestId = some entry ∧
        (entry.phase ≠ fromPhase ∨ ((fromPhase = .claimed ∨ fromPhase = .running) ∧
          present entry.ownerEpoch = true ∧ present ownerEpoch = true ∧
          entry.ownerEpoch ≠ ownerEpoch)) := by
  constructor
  · rintro ⟨error, refused⟩
    obtain ⟨entry, found, refused⟩ := updateWorkIndexPhase_refused.mp refused
    exact ⟨entry, found, (checkPhaseUpdate_refused legal).mp ⟨error, refused⟩⟩
  · rintro ⟨entry, found, reason⟩
    obtain ⟨error, refused⟩ := (checkPhaseUpdate_refused legal).mpr reason
    exact ⟨error, updateWorkIndexPhase_refused.mpr ⟨entry, found, refused⟩⟩

theorem parseEntry_of_phase_none {content : MarkerObject} (unphased : content.phase = none) :
    parseEntry digests (.object content) = .error "missing-fields" := by
  simp [parseEntry, readRawEntry, unphased, present, bind, Except.bind]

/-- An active-work marker is not an entry, and it leaves the entries of other names alone. -/
theorem entryAt_recordActiveWork (markers : Markers) (projectRoot requestId ownerEpoch : String) :
    entryAt digests (recordActiveWork digests markers projectRoot requestId ownerEpoch) requestId =
      if activeWorkName digests requestId = requestId then none
      else entryAt digests markers requestId := by
  rw [entryAt, recordActiveWork, Dict.lookup_insert_eq]
  by_cases same : activeWorkName digests requestId = requestId
  · rw [if_pos same.symm, if_pos same, bind_some, parseEntry_of_phase_none rfl]
    rfl
  · rw [if_neg (Ne.symm same), if_neg same]
    rfl

end Audiagentic.Gateway
