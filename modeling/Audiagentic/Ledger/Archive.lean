import Audiagentic.Ledger.Events

/-!
# Recording and archiving

Recording writes one event file.  Archiving migrates what older layouts left, then appends every
pending event to the historical ledger under the release id.  Merging another branch adds its
event files.
-/

namespace Audiagentic.Ledger

open Foundations

/-! ## Recording -/

/-- `write_event`: the event files after it, and whether one was created. -/
def writeEvent (host : LedgerHost) (files : OrderedDict Text Content) (event : Event) :
    Except LedgerError (OrderedDict Text Content × Bool) :=
  let name := host.eventFileName (eventId event)
  match files.get? name with
  | some content => do
    let existing ← parseEventFile host name content
    refuse (sameIdentity existing event = false) (.differentContent (eventId event))
    .ok (files, false)
  | none => .ok (files.set name (some (.map event)), true)

/-- The event with the time stamp and the id that `record_change_event` gives where there are
none. -/
def completed (now freshId : Text) (event : Event) : Event :=
  let stamped :=
    if hasField timestampKey event then event
    else OrderedDict.setEntries timestampKey (.scalar (.str now)) event
  if hasField eventIdKey stamped then stamped
  else OrderedDict.setEntries eventIdKey (.scalar (.str freshId)) stamped

/-- `record_change_event`: the event files after it, the id, and whether a file was created. -/
def recordChangeEvent (host : LedgerHost) (ledger : LedgerFiles) (now freshId : Text)
    (event : Event) : Except LedgerError (OrderedDict Text Content × Text × Bool) := do
  let event ← validatePersistedEvent .current (.map (completed now freshId event))
  let released ← releasedEvents ledger
  checkReleased released event
  let (files, created) ← writeEvent host ledger.files event
  .ok (files, eventId event, created)

/-! ## Migrating what older layouts left -/

def legacyEvent (file : RetainedFile) : Option Event :=
  let record :=
    match file.folder, file.content with
    | .outbox, some (.map record) => Json.lookup "event".toList record
    | _, content => content
  match record with
  | some (.map event) =>
    match Json.lookup eventIdKey event with
    | some (.scalar (.str _)) => some event
    | _ => none
  | _ => none

def migrateEvent (host : LedgerHost) (released : ById) (files : OrderedDict Text Content)
    (event : Event) : Except LedgerError (OrderedDict Text Content) := do
  let event ← validatePersistedEvent .current (.map event)
  match released.get? (eventId event) with
  | some prior => do
    refuse (sameIdentity prior event = false) (.conflictingHistory (eventId event))
    .ok files
  | none => do
    let (files, _) ← writeEvent host files event
    .ok files

/-- One round of `migrate_legacy_runtime`: the event files and the retained files left. -/
def migrateFile (host : LedgerHost) (released : ById)
    (state : OrderedDict Text Content × List RetainedFile) (file : RetainedFile) :
    OrderedDict Text Content × List RetainedFile :=
  match legacyEvent file with
  | none => (state.1, state.2 ++ [file])
  | some event =>
    match migrateEvent host released state.1 event with
    | .ok files => (files, state.2)
    | .error _ => (state.1, state.2 ++ [file])

def migrateLegacyRuntime (host : LedgerHost) (ledger : LedgerFiles) :
    Except LedgerError LedgerFiles := do
  let released ← releasedEvents ledger
  let (files, left) := ledger.retained.foldl (migrateFile host released) (ledger.files, [])
  .ok { ledger with files := files, retained := left }

/-! ## Archiving -/

/-- The event has a release id that is not empty. -/
def hasRelease (event : Event) : Bool :=
  match textField releaseIdKey event with
  | some release => !release.isEmpty
  | none => false

/-- What `_merge_historical_events` keeps of two events of one id. -/
def mergeHistoricalEvent (existing event : Event) : Except LedgerError Event := do
  refuse (sameIdentity existing event = false) (.conflictingHistory (eventId event))
  refuse (hasRelease existing = true ∧ hasRelease event = true ∧
    textField releaseIdKey existing ≠ textField releaseIdKey event)
    (.assignedElsewhere (eventId event))
  .ok (if textField statusKey event = some released ∨
      textField statusKey existing ≠ some released then event
    else existing)

/-- One round of `_merge_historical_events`. -/
def addHistorical (known : ById) (event : Event) : Except LedgerError ById := do
  refuse ((eventId event).isEmpty = true) .invalidEventId
  match known.get? (eventId event) with
  | none => .ok (known.set (eventId event) event)
  | some existing => do
    let kept ← mergeHistoricalEvent existing event
    .ok (known.set (eventId event) kept)

def mergeHistoricalEvents (historical released : List Event) :
    Except LedgerError (List Event) := do
  let known ← (historical ++ released).foldlM addHistorical ∅
  .ok (known.entries.map Prod.snd)

/-- The event as it is released: `{**e, "status": "released", "release-id": release_id}`. -/
def releaseEvent (releaseId : Text) (event : Event) : Event :=
  OrderedDict.setEntries releaseIdKey (.scalar (.str releaseId))
    (OrderedDict.setEntries statusKey (.scalar (.str released)) event)

def sortedIds (events : List Event) : List Text := (events.map eventId).insertionSort before

def eventsOfRelease (releaseId : Text) (events : List Event) : List Event :=
  events.filter fun event => textField releaseIdKey event = some releaseId

/-- What an archive comes to before anything is written: the ids to report, and the historical
ledger to write if there is one. -/
structure ArchivePlan where
  ids : List Text
  merged : Option (List Event)

/-- The reading part of `_archive_current_ledger_locked`. -/
def planArchive (host : LedgerHost) (ledger : LedgerFiles) (releaseId : Text) :
    Except LedgerError ArchivePlan := do
  let loaded ← loadHistorical ledger
  let historical ← mergeHistoricalEvents loaded []
  let pending ← pendingEvents host ledger
  let prior := sortedIds (eventsOfRelease releaseId historical)
  if prior ≠ [] ∨ pending = [] then .ok ⟨prior, none⟩
  else do
    let releasedNow := pending.map (releaseEvent releaseId)
    let _ ← releasedNow.mapM fun event => validatePersistedEvent .historical (.map event)
    let merged ← mergeHistoricalEvents historical releasedNow
    .ok ⟨sortedIds releasedNow, some merged⟩

/-! ## Calls -/

inductive LedgerCall where
  | record (now freshId : Text) (event : Event)
  | archive (releaseId : Text) (lockHeld crash : Bool)
  | merge (files : List (Text × Content))

inductive LedgerAnswer where
  | recorded (eventId : Text) (created : Bool)
  | archived (releaseId : Text) (ids : List Text)
  | crashed
  | merged

/-- What the writes of an archive leave; a crash falls between them. -/
def commitArchive (ledger : LedgerFiles) (releaseId : Text) (plan : ArchivePlan) (crash : Bool) :
    LedgerAnswer × LedgerFiles :=
  match plan.merged with
  | none => (.archived releaseId plan.ids, ledger)
  | some merged =>
    let reset := { ledger with summaryReset := true }
    if crash then (.crashed, reset)
    else (.archived releaseId plan.ids,
      { reset with historical := merged.map fun event => some (.map event) })

def archiveCurrentLedger (host : LedgerHost) (ledger : LedgerFiles) (releaseId : Text)
    (lockHeld crash : Bool) : Except LedgerError LedgerAnswer × LedgerFiles :=
  match (do
    validateReleaseId releaseId
    refuse (lockHeld = true) .lockHeld
    migrateLegacyRuntime host ledger) with
  | .error error => (.error error, ledger)
  | .ok migrated =>
    if migrated.retained ≠ [] then
      (.error (.leftInPlace (migrated.retained.map RetainedFile.name)), migrated)
    else
      match planArchive host migrated releaseId with
      | .error error => (.error error, migrated)
      | .ok plan =>
        let done := commitArchive migrated releaseId plan crash
        (.ok done.1, done.2)

def mergeFiles (files : OrderedDict Text Content) (theirs : List (Text × Content)) :
    OrderedDict Text Content :=
  theirs.foldl (fun files file => if files.has file.1 then files else files.set file.1 file.2) files

def answer (host : LedgerHost) (ledger : LedgerFiles) (call : LedgerCall) :
    Except LedgerError LedgerAnswer × LedgerFiles :=
  match call with
  | .record now freshId event =>
    match recordChangeEvent host ledger now freshId event with
    | .error error => (.error error, ledger)
    | .ok (files, id, created) => (.ok (.recorded id created), { ledger with files := files })
  | .archive releaseId lockHeld crash =>
    archiveCurrentLedger host ledger releaseId lockHeld crash
  | .merge files =>
    (.ok .merged, { ledger with files := mergeFiles ledger.files files })

def callLedger (host : LedgerHost) (ledger : LedgerFiles) (call : LedgerCall) : LedgerFiles :=
  (answer host ledger call).2

end Audiagentic.Ledger
