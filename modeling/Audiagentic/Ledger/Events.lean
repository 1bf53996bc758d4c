import Audiagentic.Foundations.Checks
import Audiagentic.Foundations.PythonValues
import Mathlib.Data.List.Sort

/-!
# Ledger events

The events of the ledger and how they are read: from the frozen baseline, from one write-once
file for each event, and from the historical ledger.  Pending events are those whose ids are not
in the historical ledger.

A file is what reading it as JSON gives, or nothing where it is not JSON.
-/

namespace Audiagentic.Ledger

open Foundations

/-! ## Events -/

abbrev Event := Json.Entries Scalar

def statusKey : Text := "status".toList

def releaseIdKey : Text := "release-id".toList

def eventIdKey : Text := "event-id".toList

def timestampKey : Text := "timestamp-utc".toList

def unreleased : Text := "unreleased".toList

def released : Text := "released".toList

def textField (key : Text) (event : Event) : Option Text :=
  match Json.lookup key event with
  | some (.scalar (.str text)) => some text
  | _ => none

def eventId (event : Event) : Text := (textField eventIdKey event).getD []

def annotations : List Text := [statusKey, releaseIdKey, "git-commits".toList]

def eventIdentity (event : Event) : Event := event.filter fun entry => entry.1 ∉ annotations

/-- `event_identity(first) == event_identity(second)`. -/
def sameIdentity (first second : Event) : Bool :=
  equalValues (.map (eventIdentity first)) (.map (eventIdentity second))

/-! ## Errors -/

inductive LedgerError where
  | lockHeld
  | leftInPlace (names : List Text)
  | unsafeReleaseId
  | invalidEventId
  | conflictingHistory (eventId : Text)
  | assignedElsewhere (eventId : Text)
  | notObject
  | schemaViolation
  | notCurrent
  | notHistorical
  | invalidJson
  | fileNameMismatch
  | conflictingSources (eventId : Text)
  | differentContent (eventId : Text)

/-! ## Validation -/

/-- A text without a line feed at its end, where `$` matches too. -/
def dropFinalNewline (text : Text) : Text :=
  if text.getLast? = some '\n' then text.dropLast else text

/-- `^[A-Za-z0-9][A-Za-z0-9…]*$`, with the further characters that may follow the first. -/
def matchesName (further : Text) (text : Text) : Bool :=
  match dropFinalNewline text with
  | [] => false
  | first :: rest => first.isAlphanum && rest.all fun char => char.isAlphanum || char ∈ further

def changeClasses : List Text :=
  ["feature".toList, "code-fix".toList, "refactor".toList, "docs".toList, "tests".toList,
    "config".toList, "release".toList, "audit".toList, "workflow".toList]

def textItems : List (Json Scalar) → Option (List Text)
  | [] => some []
  | .scalar (.str text) :: rest => (textItems rest).map (text :: ·)
  | _ => none

def textListField (key : Text) (event : Event) : Option (List Text) :=
  match Json.lookup key event with
  | some (.list items) => textItems items
  | _ => none

def isNameField (further : Text) (key : Text) (event : Event) : Bool :=
  match textField key event with
  | some text => 1 ≤ text.length && text.length ≤ 128 && matchesName further text
  | none => false

def hasField (key : Text) (event : Event) : Bool := (Json.lookup key event).isSome

def validChangeEvent (event : Event) : Bool :=
  isNameField "._'(),-".toList eventIdKey event &&
  (match textField "change-class".toList event with
    | some text => text ∈ changeClasses
    | none => false) &&
  (match textListField "files".toList event with
    | some files => !files.isEmpty
    | none => false) &&
  (textField "technical-summary".toList event).isSome &&
  (textField "user-summary-candidate".toList event).isSome &&
  (match textField statusKey event with
    | some status => status ∈ [unreleased, released]
    | none => false) &&
  (!hasField releaseIdKey event || isNameField "._-".toList releaseIdKey event) &&
  (!hasField "git-commits".toList event ||
    match textListField "git-commits".toList event with
    | some commits => commits.all (fun commit => 7 ≤ commit.length) && decide commits.Nodup
    | none => false) &&
  (textField statusKey event ≠ some released || hasField releaseIdKey event) &&
  (!hasField releaseIdKey event || textField statusKey event = some released)

inductive Role where
  | current
  | historical

def fitsRole (event : Event) : Role → Bool
  | .current => textField statusKey event = some unreleased && !hasField releaseIdKey event
  | .historical =>
    textField statusKey event = some released &&
      match textField releaseIdKey event with
      | some release => !release.isEmpty
      | none => false

def roleError : Role → LedgerError
  | .current => .notCurrent
  | .historical => .notHistorical

def validatePersistedEvent (role : Role) (value : Json Scalar) : Except LedgerError Event :=
  match value with
  | .map event => do
    refuse (validChangeEvent event = false) .schemaViolation
    refuse (fitsRole event role = false) (roleError role)
    .ok event
  | _ => .error .notObject

def validateReleaseId (releaseId : Text) : Except LedgerError Unit :=
  match releaseId with
  | [] => .error .unsafeReleaseId
  | first :: rest =>
    refuse ((first.isAlphanum && rest.length ≤ 127 &&
      rest.all fun char => char.isAlphanum || char ∈ "._-".toList) = false) .unsafeReleaseId

/-! ## Sources -/

/-- What the ledger is run with: the file name of an event id, the digest of a line, and `str` of
a value. -/
structure LedgerHost where
  eventFileName : Text → Text
  lineDigest : Text → Text
  str : Json Scalar → Text

structure BaselineLine where
  text : Text
  value : Option (Json Scalar)

abbrev Content := Option (Json Scalar)

def legacyId (line : Nat) (digest : Text) : Text :=
  "legacy-line-".toList ++ indexText line ++ ['-'] ++ digest

def legacyRow (host : LedgerHost) (number : Nat) (line : BaselineLine) :
    Except LedgerError Event :=
  match line.value with
  | none => .error .invalidJson
  | some (.map event) =>
    match textField eventIdKey event with
    | some (_ :: _) => .ok event
    | _ => .ok (OrderedDict.setEntries eventIdKey
        (.scalar (.str (legacyId number (host.lineDigest line.text)))) event)
  | some _ => .error .notObject

/-- `_legacy_rows`, from the line of the given number. -/
def legacyRows (host : LedgerHost) : Nat → List BaselineLine → Except LedgerError (List Event)
  | _, [] => .ok []
  | number, line :: rest =>
    if Text.isBlank line.text || Text.strip line.text = "[]".toList then
      legacyRows host (number + 1) rest
    else do
      let row ← legacyRow host number line
      let rows ← legacyRows host (number + 1) rest
      .ok (row :: rows)

def parseEventFile (host : LedgerHost) (name : Text) (content : Content) :
    Except LedgerError Event :=
  match content with
  | none => .error .invalidJson
  | some value => do
    let event ← validatePersistedEvent .current value
    refuse (host.eventFileName (eventId event) ≠ name) .fileNameMismatch
    .ok event

/-- Where older layouts kept an event: as a fragment, or inside a record of the outbox. -/
inductive Folder where
  | fragments
  | outbox

/-- A file that an older layout left in the runtime directory. -/
structure RetainedFile where
  folder : Folder
  name : Text
  content : Content

structure LedgerFiles where
  baseline : List BaselineLine
  files : OrderedDict Text Content
  historical : List Content
  summaryReset : Bool
  retained : List RetainedFile

def before (first second : Text) : Prop := first.map Char.toNat ≤ second.map Char.toNat

instance : DecidableRel before := fun first second =>
  inferInstanceAs (Decidable (first.map Char.toNat ≤ second.map Char.toNat))

def eventFiles (ledger : LedgerFiles) : List (Text × Content) :=
  ledger.files.entries.insertionSort fun first second => before first.1 second.1

def recordedEvents (host : LedgerHost) (ledger : LedgerFiles) : Except LedgerError (List Event) :=
  (eventFiles ledger).mapM fun file => parseEventFile host file.1 file.2

/-- `str(event.get("timestamp-utc") or "")`. -/
def timestampText (host : LedgerHost) (event : Event) : Text :=
  match Json.lookup timestampKey event with
  | none => []
  | some .null => []
  | some (.scalar (.str text)) => text
  | some (.scalar (.bool false)) => []
  | some (.scalar (.int 0)) => []
  | some (.scalar (.float (.finite number))) =>
    if number = 0 then [] else host.str (.scalar (.float (.finite number)))
  | some (.list []) => []
  | some (.map []) => []
  | some value => host.str value

def recordedBefore (host : LedgerHost) (first second : Event) : Prop :=
  if timestampText host first = timestampText host second then
    before (eventId first) (eventId second)
  else before (timestampText host first) (timestampText host second)

instance (host : LedgerHost) : DecidableRel (recordedBefore host) := fun first second => by
  unfold recordedBefore
  infer_instance

abbrev ById := OrderedDict Text Event

/-- One round of `_merge`. -/
def addEvent (known : ById) (event : Event) : Except LedgerError ById :=
  match known.get? (eventId event) with
  | none => .ok (known.set (eventId event) event)
  | some other => do
    refuse (sameIdentity other event = false) (.conflictingSources (eventId event))
    .ok known

/-- `_merge`. -/
def mergeSources (host : LedgerHost) (baseline recorded : List Event) :
    Except LedgerError (List Event) := do
  let known ← (baseline ++ recorded.insertionSort (recordedBefore host)).foldlM addEvent ∅
  .ok (known.entries.map Prod.snd)

def iterEvents (host : LedgerHost) (ledger : LedgerFiles) : Except LedgerError (List Event) := do
  let baseline ← legacyRows host 1 ledger.baseline
  let recorded ← recordedEvents host ledger
  mergeSources host baseline recorded

def historicalEvent (content : Content) : Except LedgerError Event :=
  match content with
  | none => .error .invalidJson
  | some value => validatePersistedEvent .historical value

/-- `load_persisted_events` of the historical ledger. -/
def loadHistorical (ledger : LedgerFiles) : Except LedgerError (List Event) :=
  ledger.historical.mapM historicalEvent

/-- One round of `released_events`. -/
def addReleased (known : ById) (event : Event) : Except LedgerError ById :=
  match known.get? (eventId event) with
  | none => .ok (known.set (eventId event) event)
  | some other => do
    refuse (sameIdentity other event = false ∨
      textField releaseIdKey other ≠ textField releaseIdKey event)
      (.conflictingHistory (eventId event))
    .ok known

def releasedEvents (ledger : LedgerFiles) : Except LedgerError ById := do
  let events ← loadHistorical ledger
  events.foldlM addReleased ∅

/-- The check of one event by `reconcile`. -/
def checkReleased (released : ById) (event : Event) : Except LedgerError Unit :=
  match released.get? (eventId event) with
  | none => .ok ()
  | some prior => refuse (sameIdentity prior event = false) (.conflictingHistory (eventId event))

def reconcile (host : LedgerHost) (ledger : LedgerFiles) :
    Except LedgerError (List Event × ById) := do
  let released ← releasedEvents ledger
  let events ← iterEvents host ledger
  let _ ← events.mapM (checkReleased released)
  .ok (events, released)

def pendingEvents (host : LedgerHost) (ledger : LedgerFiles) : Except LedgerError (List Event) := do
  let (events, released) ← reconcile host ledger
  .ok (events.filter fun event => !released.has (eventId event))

end Audiagentic.Ledger
