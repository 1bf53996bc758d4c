import Mathlib.Data.List.Lex
import Mathlib.Data.List.Sort
import Mathlib.Data.Char
import Audiagentic.Foundations.Dictionaries

/-!
# The durable event spool

`DurableSpoolTransport` of `foundation/event/durable_spool.py` keeps each event in a file of its
own, under `pending/` until a handler has taken it and under `dead-letter/` once it is poison or
has failed too often.  Publishers only create files.  One consumer sweeps over the pending files
in the order of their names, and moves dead letters back.

Each file operation of the consumer is a step here, and may fail; a crash leaves the consumer
nowhere and the files as they are.  `atomic_write_json` is one operation: the temporary file it
goes through has another suffix and is never listed.
-/

namespace Audiagentic.Events

open Foundations

/-! ## Event ids -/

/-- `f"{time.time_ns():020d}-{uuid.uuid4().hex[:8]}"`: names of one length. -/
structure EventId where
  letters : List Char
  length_eq : letters.length = 29
deriving DecidableEq

def jsonSuffix : List Char := ['.', 'j', 's', 'o', 'n']

namespace EventId

def fileName (id : EventId) : List Char := id.letters ++ jsonSuffix

/-- The event whose file has this name. -/
def ofFileName? (name : List Char) : Option EventId :=
  if shaped : (name.take 29).length = 29 ∧ name.drop 29 = jsonSuffix then
    some ⟨name.take 29, shaped.1⟩
  else none

instance : LT EventId where
  lt first second := first.letters < second.letters

/-- The order in which `sorted` puts the paths of two events in one directory. -/
def PathLe (first second : EventId) : Prop := first.fileName ≤ second.fileName

instance : DecidableRel PathLe := fun first second =>
  inferInstanceAs (Decidable (first.fileName ≤ second.fileName))

end EventId

/-! ## Records and files -/

structure EventRecord (Payload : Type) where
  eventId : EventId
  topic : String
  payload : Payload
  metadata : Payload
  publishedAt : String
  attempts : Nat

def EventRecord.renewed {Payload : Type} (record : EventRecord Payload) : EventRecord Payload :=
  { record with attempts := 0 }

inductive Location where
  | pending (id : EventId)
  | deadLetter (id : EventId)
deriving DecidableEq

def Location.id : Location → EventId
  | pending id | deadLetter id => id

/-- The constructor's arguments, as it checks them. -/
structure Transport where
  /-- The absolute path of the spool, by its parts. -/
  root : List (List Char)
  allowedTopics : List String
  maxAttempts : Nat
  topics_ne_nil : allowedTopics ≠ []
  maxAttempts_pos : 1 ≤ maxAttempts

variable {Payload : Type}

abbrev SpoolFiles (Payload : Type) := Dict Location (EventRecord Payload)

namespace SpoolFiles

/-- `sorted(self.pending_dir.glob("*.json"))`. -/
def pendingIds (files : SpoolFiles Payload) : List EventId :=
  (files.keys.filterMap fun
    | .pending id => some id
    | .deadLetter _ => none).insertionSort EventId.PathLe

/-- `_read_event`: an event without a topic is as unreadable as a missing file. -/
def readEvent (files : SpoolFiles Payload) (location : Location) : Option (EventRecord Payload) :=
  (files.lookup location).filter fun record => record.topic ≠ ""

end SpoolFiles

/-! ## Paths of a replay -/

namespace Transport

def enter (path : List (List Char)) (part : List Char) : List (List Char) :=
  if part = ['.', '.'] then path.dropLast
  else if part = [] ∨ part = ['.'] then path
  else path ++ [part]

def resolve (base parts : List (List Char)) : List (List Char) :=
  parts.foldl enter base

def pendingName : List Char := ['p', 'e', 'n', 'd', 'i', 'n', 'g']

def deadLetterName : List Char := ['d', 'e', 'a', 'd', '-', 'l', 'e', 't', 't', 'e', 'r']

/-- `directory / f"{event_id}.json"`; an absolute argument replaces the directory. -/
def eventPath (transport : Transport) (directory eventId : List Char) : List (List Char) :=
  let parts := (eventId ++ jsonSuffix).splitOn '/'
  if eventId.head? = some '/' then resolve [] parts
  else resolve (transport.root ++ [directory]) parts

def locate (transport : Transport) (path : List (List Char)) : Option Location :=
  match path.getLast?.bind EventId.ofFileName? with
  | none => none
  | some id =>
    if path = transport.root ++ [pendingName, id.fileName] then some (.pending id)
    else if path = transport.root ++ [deadLetterName, id.fileName] then some (.deadLetter id)
    else none

/-- The `source` of `replay_dead_letter`. -/
def replaySource (transport : Transport) (eventId : List Char) : List (List Char) :=
  transport.eventPath deadLetterName eventId

/-- The file that `replay_dead_letter` writes. -/
def replayTarget (transport : Transport) (eventId : List Char) : List (List Char) :=
  transport.eventPath pendingName eventId

end Transport

/-! ## The consumer -/

inductive Outcome where
  | success
  /-- It raises `SpoolPoison`. -/
  | poison
  /-- It raises another exception. -/
  | error
deriving DecidableEq

structure HandlerCall where
  id : EventId
  attempts : Nat
  outcome : Outcome

/-- What `consume` returns. -/
structure Counters where
  delivered : Nat
  failed : Nat
  deadLettered : Nat

/-- The loop of `consume`: the paths left, the limit and the counters. -/
structure Sweep where
  rest : List EventId
  limit : Option Int
  counters : Counters

namespace Sweep

/-- `limit is not None and delivered + failed + poisoned >= limit`. -/
def limitReached (sweep : Sweep) : Bool :=
  match sweep.limit with
  | none => false
  | some limit =>
    limit ≤ (sweep.counters.delivered + sweep.counters.failed + sweep.counters.deadLettered : Nat)

def delivered (sweep : Sweep) : Sweep :=
  { sweep with counters := { sweep.counters with delivered := sweep.counters.delivered + 1 } }

def failed (sweep : Sweep) : Sweep :=
  { sweep with counters := { sweep.counters with failed := sweep.counters.failed + 1 } }

def deadLettered (sweep : Sweep) : Sweep :=
  { sweep with counters := { sweep.counters with deadLettered := sweep.counters.deadLettered + 1 } }

end Sweep

inductive Position (Payload : Type) where
  | idle
  /-- At the head of the loop. -/
  | sweeping (sweep : Sweep)
  | handling (id : EventId) (record : EventRecord Payload) (sweep : Sweep)
  /-- The handler has returned. -/
  | acknowledging (id : EventId) (sweep : Sweep)
  | retrying (id : EventId) (record : EventRecord Payload) (sweep : Sweep)
  /-- About to move the file, in `_move_to_dead_letter`. -/
  | burying (id : EventId) (sweep : Sweep)
  /-- The move has failed. -/
  | dropping (id : EventId) (sweep : Sweep)
  | replaying (source : Location) (target : Option Location) (record : EventRecord Payload)
  | unlinkingSource (source : Location)

structure Spool (Payload : Type) where
  files : SpoolFiles Payload
  position : Position Payload
  published : List (EventRecord Payload)
  /-- The events whose file was removed after their handler returned. -/
  acknowledged : List EventId
  calls : List HandlerCall
  sweepCalls : List HandlerCall
  /-- What the last sweep returned, if it returned. -/
  report : Option Counters

/-- What happens next; `fails` when the file operation raises `OSError`. -/
inductive SpoolAction (Payload : Type) where
  | publish (id : EventId) (topic : String) (payload metadata : Payload) (publishedAt : String)
      (fails : Bool)
  | consume (limit : Option Int)
  | replayDeadLetter (eventId : List Char) (fails : Bool)
  /-- The next file operation of the consumer. -/
  | proceed (fails : Bool)
  | handled (outcome : Outcome)
  | crash

namespace Spool

def init : Spool Payload where
  files := ∅
  position := .idle
  published := []
  acknowledged := []
  calls := []
  sweepCalls := []
  report := none

/-- `publish`, under an id that was not drawn before. -/
def publish (transport : Transport) (spool : Spool Payload) (id : EventId) (topic : String)
    (payload metadata : Payload) (publishedAt : String) : Spool Payload :=
  let record : EventRecord Payload := ⟨id, topic, payload, metadata, publishedAt, 0⟩
  if topic ∉ transport.allowedTopics ∨ id ∈ spool.published.map EventRecord.eventId then spool
  else
    { spool with
      files := spool.files.insert (.pending id) record
      published := spool.published ++ [record] }

/-- `consume` lists the directory. -/
def consume (spool : Spool Payload) (limit : Option Int) : Spool Payload :=
  match spool.position with
  | .idle =>
    { spool with
      position := .sweeping ⟨spool.files.pendingIds, limit, ⟨0, 0, 0⟩⟩
      sweepCalls := []
      report := none }
  | _ => spool

/-- `replay_dead_letter` reads its source. -/
def replayDeadLetter (transport : Transport) (spool : Spool Payload) (eventId : List Char) :
    Spool Payload :=
  match spool.position, transport.locate (transport.replaySource eventId) with
  | .idle, some source =>
    match spool.files.readEvent source with
    | none => spool
    | some record =>
      { spool with
        position := .replaying source (transport.locate (transport.replayTarget eventId))
          record.renewed }
  | _, _ => spool

def finish (spool : Spool Payload) (sweep : Sweep) : Spool Payload :=
  { spool with position := .idle, report := some sweep.counters }

/-- The head of the loop of `consume`. -/
def nextPath (spool : Spool Payload) (sweep : Sweep) (fails : Bool) : Spool Payload :=
  match sweep.rest with
  | [] => spool.finish sweep
  | id :: rest =>
    if sweep.limitReached then spool.finish sweep
    else
      match (if fails then none else spool.files.readEvent (.pending id)) with
      | none => { spool with position := .burying id { sweep with rest := rest } }
      | some record => { spool with position := .handling id record { sweep with rest := rest } }

/-- The next file operation of the consumer. -/
def proceed (transport : Transport) (spool : Spool Payload) (fails : Bool) : Spool Payload :=
  match spool.position with
  | .idle | .handling _ _ _ => spool
  | .sweeping sweep => spool.nextPath sweep fails
  | .acknowledging id sweep =>
    if fails then { spool with position := .sweeping sweep.delivered }
    else
      { spool with
        files := spool.files.erase (.pending id)
        acknowledged := spool.acknowledged ++ [id]
        position := .sweeping sweep.delivered }
  | .retrying id record sweep =>
    if fails then { spool with position := .idle }
    else if transport.maxAttempts ≤ record.attempts then
      { spool with
        files := spool.files.insert (.pending id) record
        position := .burying id sweep }
    else { spool with files := spool.files.insert (.pending id) record }.finish sweep.failed
  | .burying id sweep =>
    match (if fails then none else spool.files.lookup (.pending id)) with
    | none => { spool with position := .dropping id sweep }
    | some record =>
      { spool with
        files := (spool.files.erase (.pending id)).insert (.deadLetter id) record
        position := .sweeping sweep.deadLettered }
  | .dropping id sweep =>
    if fails then { spool with position := .sweeping sweep.deadLettered }
    else
      { spool with
        files := spool.files.erase (.pending id)
        position := .sweeping sweep.deadLettered }
  | .replaying source target record =>
    if fails then { spool with position := .idle }
    else
      match target with
      | none => { spool with position := .unlinkingSource source }
      | some target =>
        { spool with
          files := spool.files.insert target record
          position := .unlinkingSource source }
  | .unlinkingSource source =>
    if fails then { spool with position := .idle }
    else { spool with files := spool.files.erase source, position := .idle }

/-- The handler ends, and `consume` sorts its outcome. -/
def handled (spool : Spool Payload) (outcome : Outcome) : Spool Payload :=
  match spool.position with
  | .handling id record sweep =>
    { spool with
      calls := spool.calls ++ [⟨id, record.attempts, outcome⟩]
      sweepCalls := spool.sweepCalls ++ [⟨id, record.attempts, outcome⟩]
      position :=
        match outcome with
        | .success => .acknowledging id sweep
        | .poison => .burying id sweep
        | .error => .retrying id { record with attempts := record.attempts + 1 } sweep }
  | _ => spool

def step (transport : Transport) (spool : Spool Payload) : SpoolAction Payload → Spool Payload
  | .publish id topic payload metadata publishedAt fails =>
    if fails then spool else spool.publish transport id topic payload metadata publishedAt
  | .consume limit => spool.consume limit
  | .replayDeadLetter eventId fails =>
    if fails then spool else spool.replayDeadLetter transport eventId
  | .proceed fails => spool.proceed transport fails
  | .handled outcome => spool.handled outcome
  | .crash => { spool with position := .idle }

end Spool

end Audiagentic.Events
