import Mathlib.Data.Char
import Mathlib.Data.List.Lex
import Mathlib.Data.List.Sort
import Audiagentic.Foundations.CrashTriples
import Audiagentic.Foundations.Dictionaries

/-!
# Planning transactions

`commit_mutation` of `components/planning/durability.py` writes and deletes planning files
through a roll-forward journal: the contents are staged in a directory of their own, a manifest
with the hashes of what is there and of what is to come makes them a transaction, and from then
on `_apply_manifest` can be repeated until everything is in place.  The event of the mutation
goes to the outbox, and the directory is removed.

Every file-system operation is an entry of a tape, so that a crash is a beginning of it.  A
planning file can be refused: no file is put where a directory is, or below another file, and
what names the file system takes is a parameter.  The order in which `shutil.rmtree` removes the
files of a directory is not specified, and is a parameter, as are SHA-256 and the contents of
the event.
-/

namespace Audiagentic.Planning

open Foundations

/-! ## Files -/

abbrev Bytes := List UInt8

/-- An event to go with a mutation, as `build_planning_event` makes it. -/
structure PlanningEvent where
  eventId : String
  eventType : String
  payload : List (String × String)
  metadata : List (String × String)
deriving DecidableEq

structure OutboxRecord where
  planningEventId : String
  eventType : String
  payload : List (String × String)
  metadata : List (String × String)
deriving DecidableEq

/-- The record that `enqueue_planning_event` writes: the payload gets the id, unless it has one. -/
def PlanningEvent.record (event : PlanningEvent) : OutboxRecord where
  planningEventId := event.eventId
  eventType := event.eventType
  payload :=
    if event.payload.any (·.1 = "planning-event-id") then event.payload
    else event.payload ++ [("planning-event-id", event.eventId)]
  metadata := event.metadata

/-- A file that is to be written, with the hashes before and after. -/
structure WriteIntent where
  relativePath : String
  /-- The number in the name of the payload, `write-<number>.payload`. -/
  payload : Nat
  sha256 : String
  previousSha256 : Option String

/-- A file that is to go. -/
structure DeleteIntent where
  relativePath : String
  sha256 : Option String

inductive TransactionPhase where
  | prepared
  | committed

/-- `manifest.json` of a transaction. -/
structure Manifest where
  version : Nat
  mutationId : String
  operation : String
  phase : TransactionPhase
  writes : List WriteIntent
  deletes : List DeleteIntent
  planningEvent : Option PlanningEvent

inductive TransactionFile where
  | manifest
  | payload (number : Nat)

/-- A directory of the journal: the manifest and the staged contents. -/
structure TransactionDir where
  manifest : Option Manifest
  payloads : Dict Nat Bytes

namespace TransactionDir

def entries (dir : TransactionDir) : List TransactionFile :=
  (dir.manifest.toList.map fun _ => .manifest) ++ dir.payloads.keys.map .payload

/-- The directory without one of its files. -/
def without (dir : TransactionDir) : TransactionFile → TransactionDir
  | .manifest => { dir with manifest := none }
  | .payload number => { dir with payloads := dir.payloads.erase number }

end TransactionDir

/-- The planning files by their path, the transaction directories and the outbox. -/
structure PlanningDisk where
  files : Dict String Bytes
  txns : Dict String TransactionDir
  outbox : Dict String OutboxRecord

/-- One operation of the file system. -/
inductive PlanningWrite where
  | makeDir (name : String)
  | writePayload (name : String) (number : Nat) (data : Bytes)
  | writeManifest (name : String) (manifest : Manifest)
  | writeTarget (path : String) (data : Bytes)
  | unlinkTarget (path : String)
  | writeOutbox (record : OutboxRecord)
  | unlinkEntry (name : String) (entry : TransactionFile)
  | removeDir (name : String)

namespace PlanningDisk

def changeDir (disk : PlanningDisk) (name : String) (change : TransactionDir → TransactionDir) :
    PlanningDisk :=
  match disk.txns.lookup name with
  | none => disk
  | some dir => { disk with txns := disk.txns.insert name (change dir) }

def apply (disk : PlanningDisk) : PlanningWrite → PlanningDisk
  | .makeDir name => { disk with txns := disk.txns.insert name ⟨none, ∅⟩ }
  | .writePayload name number data =>
    disk.changeDir name fun dir => { dir with payloads := dir.payloads.insert number data }
  | .writeManifest name manifest =>
    disk.changeDir name fun dir => { dir with manifest := some manifest }
  | .writeTarget path data => { disk with files := disk.files.insert path data }
  | .unlinkTarget path => { disk with files := disk.files.erase path }
  | .writeOutbox record =>
    { disk with outbox := disk.outbox.insert record.planningEventId record }
  | .unlinkEntry name entry => disk.changeDir name (·.without entry)
  | .removeDir name => { disk with txns := disk.txns.erase name }

end PlanningDisk

/-! ## Applying a manifest -/

/-- `PlanningIntegrityError`, the `ValueError` of the outbox, and the `OSError` of a path that
cannot be read or written. -/
inductive PlanningError where
  | pathEscapes
  | unreadable (path : String)
  | unwritable (path : String)
  | payloadMissing (number : Nat)
  | payloadHashMismatch (path : String)
  | unexpectedWriteTarget (path : String)
  | unexpectedDeleteTarget (path : String)
  | unsupportedVersion
  | invalidManifest (name : String)
  | eventIdExists (eventId : String)

abbrev PlanningScript := Script PlanningError (Tape PlanningWrite PlanningDisk)

def perform (entry : PlanningWrite) : PlanningScript Unit :=
  Script.put PlanningDisk.apply entry

def disk : PlanningScript PlanningDisk := do
  let tape ← Script.read
  return tape.store

@[simp] theorem run_disk_bind {β : Type} (next : PlanningDisk → PlanningScript β)
    (tape : Tape PlanningWrite PlanningDisk) :
    (disk >>= next : PlanningScript β).run tape = (next tape.store).run tape := rfl

/-- The names that the file system takes.  One may be short enough for a file and too long for
the temporary file of `atomic_write_bytes`, which has the longer name. -/
structure Volume where
  visible : String → Bool
  accepts : String → Bool

/-- The second path leads through the first. -/
def isBelow (path other : String) : Bool :=
  (path ++ "/").toList.isPrefixOf other.toList

/-- `target.exists()` and `target.read_bytes()` return: there is no directory at the path. -/
def PlanningDisk.reaches (now : PlanningDisk) (volume : Volume) (path : String) : Bool :=
  volume.visible path && now.files.keys.all fun other => !isBelow path other

/-- `atomic_write_bytes` finds or makes the directories on the way to the path. -/
def PlanningDisk.fits (now : PlanningDisk) (volume : Volume) (path : String) : Bool :=
  volume.accepts path && now.files.keys.all fun other => !isBelow other path

section Journal

variable (volume : Volume) (sha256 : Bytes → String)

/-- The contents of a file, if it is there. -/
def inspect (path : String) : PlanningScript (Option Bytes) := do
  let now ← disk
  Script.check (refuse (now.reaches volume path = false) (.unreadable path))
  return now.files.lookup path

def atomicWriteBytes (path : String) (data : Bytes) : PlanningScript Unit := do
  let now ← disk
  Script.check (refuse (now.fits volume path = false) (.unwritable path))
  perform (.writeTarget path data)

/-- `_apply_write`. -/
def applyWrite (name : String) (intent : WriteIntent) : PlanningScript Unit := do
  let now ← disk
  match (now.txns.lookup name).bind (·.payloads.lookup intent.payload) with
  | none => Script.check (.error (.payloadMissing intent.payload))
  | some data =>
    Script.check
      (refuse (sha256 data ≠ intent.sha256) (.payloadHashMismatch intent.relativePath))
    let there ← inspect volume intent.relativePath
    match there with
    | none => atomicWriteBytes volume intent.relativePath data
    | some current =>
      if sha256 current = intent.sha256 then return ()
      else if intent.previousSha256 = some (sha256 current) then
        atomicWriteBytes volume intent.relativePath data
      else Script.check (.error (.unexpectedWriteTarget intent.relativePath))

/-- `_apply_delete`. -/
def applyDelete (intent : DeleteIntent) : PlanningScript Unit := do
  let there ← inspect volume intent.relativePath
  match there with
  | none => return ()
  | some current =>
    Script.check (refuse (∃ expected, intent.sha256 = some expected ∧ sha256 current ≠ expected)
      (.unexpectedDeleteTarget intent.relativePath))
    perform (.unlinkTarget intent.relativePath)

def applyManifest (name : String) (manifest : Manifest) : PlanningScript Unit := do
  Script.check (refuse (manifest.version ≠ 1) .unsupportedVersion)
  Script.forEach (applyWrite volume sha256 name) manifest.writes
  Script.forEach (applyDelete volume sha256) manifest.deletes

/-- `_persist_event_from_manifest`, with `enqueue_planning_event`. -/
def persistEvent (manifest : Manifest) : PlanningScript Unit :=
  match manifest.planningEvent with
  | none => return ()
  | some event => do
    let now ← disk
    match now.outbox.lookup event.eventId with
    | none => perform (.writeOutbox event.record)
    | some existing =>
      Script.check (refuse (existing ≠ event.record) (.eventIdExists event.eventId))

/-- The order in which `shutil.rmtree` removes the files of a directory. -/
structure ScanOrder where
  scan : List TransactionFile → List TransactionFile
  perm : ∀ entries, (scan entries).Perm entries

/-- `shutil.rmtree`. -/
def removeTree (order : ScanOrder) (name : String) : PlanningScript Unit := do
  let now ← disk
  let entries := ((now.txns.lookup name).map TransactionDir.entries).getD []
  Script.forEach (fun entry => perform (.unlinkEntry name entry)) (order.scan entries)
  perform (.removeDir name)

/-- A name that a transaction directory without a manifest may have: `.staging-<id>`, or 32
hexadecimal digits as before there were staging names. -/
def isStagingName (name : String) : Bool :=
  ".staging-".toList.isPrefixOf name.toList ||
    (name.toList.length = 32 && name.toList.all fun letter =>
      letter.isDigit || ('a' ≤ letter && letter ≤ 'f'))

/-- What follows a durable manifest: it is applied, the event goes to the outbox, the manifest
is marked, and the directory is removed. -/
def rollForward (order : ScanOrder) (name : String) (manifest : Manifest) :
    PlanningScript Unit := do
  applyManifest volume sha256 name manifest
  persistEvent manifest
  perform (.writeManifest name { manifest with phase := .committed })
  removeTree order name

/-- One round of `_reconcile_pending_mutations`: whether a transaction was repaired. -/
def reconcileDir (order : ScanOrder) (name : String) : PlanningScript Bool := do
  let now ← disk
  match (now.txns.lookup name).bind (·.manifest) with
  | none =>
    if isStagingName name then
      removeTree order name
      return false
    else Script.check (.error (.invalidManifest name))
  | some manifest =>
    rollForward volume sha256 order name manifest
    return true

/-- The rounds over the directories that were there. -/
def reconcileDirs (order : ScanOrder) : List String → PlanningScript Nat
  | [] => return 0
  | name :: names => do
    let repaired ← reconcileDir volume sha256 order name
    let others ← reconcileDirs order names
    return (if repaired then others + 1 else others)

/-- `reconcile_pending_mutations`: how many directories it went through. -/
def reconcilePendingMutations (order : ScanOrder) : PlanningScript Nat := do
  let now ← disk
  reconcileDirs volume sha256 order (now.txns.keys.insertionSort (·.toList ≤ ·.toList))

/-! ## Committing a mutation -/

/-- The arguments of `commit_mutation`.  A path is given as it is resolved; one that leads out
of the project root is `none`. -/
structure Mutation where
  writes : List (Option String × Bytes)
  deletes : List (Option String)
  operation : String
  planningEvent : Option PlanningEvent

def resolved (path : Option String) : PlanningScript String :=
  Script.check (path.elim (.error .pathEscapes) .ok)

def stageWrites (name : String) : Nat → List (Option String × Bytes) →
    PlanningScript (List WriteIntent)
  | _, [] => return []
  | number, (path, data) :: writes => do
    perform (.writePayload name number data)
    let path ← resolved path
    let previous ← inspect volume path
    let intents ← stageWrites name (number + 1) writes
    return ⟨path, number, sha256 data, previous.map sha256⟩ :: intents

def stageDeletes : List (Option String) → PlanningScript (List DeleteIntent)
  | [] => return []
  | path :: deletes => do
    let path ← resolved path
    let expected ← inspect volume path
    let intents ← stageDeletes deletes
    return ⟨path, expected.map sha256⟩ :: intents

/-- `commit_mutation`, with the id it draws. -/
def commitMutation (order : ScanOrder) (txId : String) (mutation : Mutation) :
    PlanningScript String := do
  let _ ← reconcilePendingMutations volume sha256 order
  let name := ".staging-" ++ txId
  perform (.makeDir name)
  let writes ← stageWrites volume sha256 name 0 mutation.writes
  let deletes ← stageDeletes volume sha256 mutation.deletes
  let manifest : Manifest :=
    ⟨1, txId, mutation.operation, .prepared, writes, deletes, mutation.planningEvent⟩
  perform (.writeManifest name manifest)
  rollForward volume sha256 order name manifest
  return txId

end Journal

end Audiagentic.Planning
