import Audiagentic.Events.DurableSpool
import Audiagentic.Foundations.PythonValues

/-!
# Spool files of any content

`consume` over files whose bytes nobody has checked.  `_read_event` turns an unreadable file into
`None` only where decoding and parsing raise what it catches, and the retry of a failed event takes
the integer of whatever `attempts` holds; every other exception leaves `consume`.

The file operations succeed here: it is the contents that may be bad.
-/

namespace Audiagentic.Events

open Foundations

/-! ## Reading a file -/

/-- What `json.loads` and `json.dumps` do with a text or a value of any size and depth. -/
structure JsonHost where
  /-- `json.loads`: a value, a `JSONDecodeError` (`none`), or another exception. -/
  loads : Text → Except String (Option (Json Scalar))
  /-- `json.dumps(value, indent=2, sort_keys=True)` returns. -/
  dumps : Json Scalar → Bool
  digit : Char → Option ℕ

abbrev Bytes := List UInt8

/-- `bytes.decode("utf-8")`. -/
def decodeUtf8 (bytes : Bytes) : Option Text :=
  (ByteArray.utf8Decode? ⟨⟨bytes⟩⟩).map Array.toList

abbrev EventFields := Json.Entries Scalar

/-- `not value.get(key)` fails. -/
def hasTrue (fields : EventFields) (key : Text) : Bool :=
  (Json.lookup key fields).any Json.truthy

def eventIdKey : Text := "event-id".toList

def topicKey : Text := "topic".toList

def attemptsKey : Text := "attempts".toList

/-- `_read_event` of the bytes of a file: a record, `None`, or what it raises. -/
def readContents (host : JsonHost) (bytes : Bytes) : Except String (Option EventFields) :=
  match decodeUtf8 bytes with
  | none => .error "UnicodeDecodeError"
  | some text => do
    let value ← host.loads (Text.universalNewlines text)
    match value with
    | some (.map fields) =>
      if hasTrue fields eventIdKey = true ∧ hasTrue fields topicKey = true then
        return some fields
      else return none
    | _ => return none

/-- `int(record.get("attempts", 0)) + 1`; a text of more than 4300 digits is refused. -/
def nextAttempts (host : JsonHost) (fields : EventFields) : Except String ℤ :=
  let value := (Json.lookup attemptsKey fields).getD (.scalar (.int 0))
  let digits := (value.text?.getD []).countP fun char => (host.digit char).isSome
  if 4300 < digits then .error "ValueError"
  else
    match integerOf host.digit value with
    | .value integer => .ok (integer + 1)
    | .invalid => .error "TypeError or ValueError"
    | .overflow => .error "OverflowError"

/-- The record with one attempt more, as it is written back. -/
def retried (host : JsonHost) (fields : EventFields) : Except String (ℤ × EventFields) := do
  let attempts ← nextAttempts host fields
  let written := OrderedDict.setEntries attemptsKey (.scalar (.int attempts)) fields
  if host.dumps (.map written) = true then return (attempts, written)
  else .error "RecursionError or ValueError"

/-! ## The sweep -/

/-- What a pending file holds: bytes that somebody left, or a record that `consume` has written
back. -/
inductive SpoolContents where
  | bytes (bytes : Bytes)
  | record (fields : EventFields)

structure ContentsSweep (M : Type) where
  pending : OrderedDict Text SpoolContents
  deadLetter : OrderedDict Text SpoolContents
  counters : Counters
  memory : M
  calls : List EventFields

namespace ContentsSweep

variable {M : Type}

/-- `limit is not None and delivered + failed + poisoned >= limit`. -/
def limitReached (sweep : ContentsSweep M) (limit : Option ℤ) : Bool :=
  match limit with
  | none => false
  | some limit =>
    limit ≤ (sweep.counters.delivered + sweep.counters.failed + sweep.counters.deadLettered : ℕ)

def moveToDeadLetter (sweep : ContentsSweep M) (name : Text) : ContentsSweep M :=
  { sweep with
    pending := sweep.pending.pop name
    deadLetter :=
      match sweep.pending.get? name with
      | none => sweep.deadLetter
      | some contents => sweep.deadLetter.set name contents
    counters := { sweep.counters with deadLettered := sweep.counters.deadLettered + 1 } }

def acknowledge (sweep : ContentsSweep M) (name : Text) : ContentsSweep M :=
  { sweep with
    pending := sweep.pending.pop name
    counters := { sweep.counters with delivered := sweep.counters.delivered + 1 } }

def writeBack (sweep : ContentsSweep M) (name : Text) (fields : EventFields) : ContentsSweep M :=
  { sweep with pending := sweep.pending.set name (.record fields) }

def failedOnce (sweep : ContentsSweep M) : ContentsSweep M :=
  { sweep with counters := { sweep.counters with failed := sweep.counters.failed + 1 } }

def called (sweep : ContentsSweep M) (fields : EventFields) (memory : M) : ContentsSweep M :=
  { sweep with
    memory
    calls := sweep.calls ++ [fields] }

end ContentsSweep

section Consume

variable {M : Type} (host : JsonHost) (maxAttempts : ℕ)
  (handler : M → EventFields → Outcome × M) (limit : Option ℤ)

/-- `_read_event` of a pending file. -/
def readPending (contents : Option SpoolContents) : Except String (Option EventFields) :=
  match contents with
  | none => .ok none
  | some (.bytes bytes) => readContents host bytes
  | some (.record fields) => .ok (some fields)

/-- How one turn of the loop ends: an exception leaves `consume`, the sweep stops, or it goes on. -/
inductive Turn (M : Type) where
  | raised (error : String) (sweep : ContentsSweep M)
  | stopped (sweep : ContentsSweep M)
  | next (sweep : ContentsSweep M)

/-- One turn of the loop of `consume`. -/
def sweepTurn (name : Text) (sweep : ContentsSweep M) : Turn M :=
  match readPending host (sweep.pending.get? name) with
  | .error error => .raised error sweep
  | .ok none => .next (sweep.moveToDeadLetter name)
  | .ok (some fields) =>
    let after := handler sweep.memory fields
    let sweep := sweep.called fields after.2
    match after.1 with
    | .success => .next (sweep.acknowledge name)
    | .poison => .next (sweep.moveToDeadLetter name)
    | .error =>
      match retried host fields with
      | .error error => .raised error sweep
      | .ok (attempts, written) =>
        let sweep := sweep.writeBack name written
        if (maxAttempts : ℤ) ≤ attempts then .next (sweep.moveToDeadLetter name)
        else .stopped sweep.failedOnce

/-- The loop of `consume` over the paths that are left: the error that leaves it, or none. -/
def sweepContents : List Text → ContentsSweep M → Option String × ContentsSweep M
  | [], sweep => (none, sweep)
  | name :: rest, sweep =>
    if sweep.limitReached limit = true then (none, sweep)
    else
      match sweepTurn host maxAttempts handler name sweep with
      | .raised error sweep => (some error, sweep)
      | .stopped sweep => (none, sweep)
      | .next sweep => sweepContents rest sweep

/-- `sorted(self.pending_dir.glob("*.json"))`. -/
def sortedNames (files : OrderedDict Text Bytes) : List Text :=
  files.keys.insertionSort (· ≤ ·)

def pendingFiles (files : OrderedDict Text Bytes) : OrderedDict Text SpoolContents where
  entries := files.entries.map fun entry => (entry.1, .bytes entry.2)
  nodup := by
    rw [List.map_map]
    exact files.nodup

/-- `consume` over pending files of these bytes. -/
def consumeContents (files : OrderedDict Text Bytes)
    (deadLetter : OrderedDict Text SpoolContents) (memory : M) :
    Option String × ContentsSweep M :=
  sweepContents host maxAttempts handler limit (sortedNames files)
    ⟨pendingFiles files, deadLetter, ⟨0, 0, 0⟩, memory, []⟩

end Consume

end Audiagentic.Events
