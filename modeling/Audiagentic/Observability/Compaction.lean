import Mathlib.Algebra.BigOperators.Group.Finset.Basic
import Audiagentic.Observability.NdjsonRows

/-!
# Compacting an indexed journal

A journal that is not segmented has an index beside it: for each row its offset, its length and
its event number.  `compact_indexed_ndjson` rewrites both files when the journal has outgrown
`max_bytes`.  It selects rows by position, required rows first, then the newest others while they
fit, and writes the selected rows and their index anew.

When the required rows do not fit, only the last row is selected.  It need not be a required one.
-/

namespace Audiagentic.Observability

open Foundations
open scoped BigOperators

/-! ## Writing a journal and its index -/

def offsetKey : Text := "offset".toList

def lengthKey : Text := "length".toList

def eventNumberKeys : List Text := ["event_seq".toList, "event-seq".toList]

def rowLine (json : JsonLines) (row : RowFields) : Except LineError Utf8.Bytes := do
  let text ← json.dumps row
  return Utf8.encode (text ++ ['\n'])

def indexEntry (row : RowFields) (offset length : ℕ) : RowFields :=
  (offsetKey, .scalar (.int offset)) :: (lengthKey, .scalar (.int length)) ::
    eventNumberKeys.filterMap fun key => (Json.lookup key row).map fun value => (key, value)

/-- One turn of `_journal_content`. -/
def addRow (json : JsonLines) (content : Utf8.Bytes × Utf8.Bytes) (row : RowFields) :
    Except LineError (Utf8.Bytes × Utf8.Bytes) := do
  let line ← rowLine json row
  let entry ← rowLine json (indexEntry row content.1.length line.length)
  return (content.1 ++ line, content.2 ++ entry)

def journalContent (json : JsonLines) (rows : List RowFields) :
    Except LineError (Utf8.Bytes × Utf8.Bytes) :=
  rows.foldlM (addRow json) ([], [])

/-! ## Selecting rows -/

section Select

variable (preserve : RowFields → Bool) (maxBytes : ℤ) (rows : List RowFields)
  (encoded : List Utf8.Bytes)

/-- `must_keep`: the positions of the preserved rows and of the last one. -/
def mustKeep : Finset ℕ :=
  insert (rows.length - 1)
    ((Finset.range rows.length).filter fun index => (rows[index]?).any preserve = true)

/-- `len(encoded[index])`. -/
def sizeAt (index : ℕ) : ℕ := (encoded[index]?.getD []).length

/-- `selected_bytes` of the rows that must be kept. -/
def requiredBytes : ℕ := ∑ index ∈ mustKeep preserve rows, sizeAt encoded index

/-- The loop that adds rows while they fit in `target_bytes`. -/
def addHeadroom (targetBytes : ℤ) : List ℕ → Finset ℕ → ℕ → Finset ℕ
  | [], selected, _ => selected
  | index :: rest, selected, selectedBytes =>
    if index ∈ selected then addHeadroom targetBytes rest selected selectedBytes
    else if targetBytes < (selectedBytes + sizeAt encoded index : ℕ) then selected
    else
      addHeadroom targetBytes rest (insert index selected)
        (selectedBytes + sizeAt encoded index)

/-- `selected`. -/
def selectRows : Finset ℕ :=
  let required := requiredBytes preserve rows encoded
  if (required : ℤ) ≤ maxBytes then
    addHeadroom encoded (max required (maxBytes * 3 / 4)) (List.range rows.length).reverse
      (mustKeep preserve rows) required
  else {rows.length - 1}

/-- `sorted(selected)`: every selected position is one of a row. -/
def sortedPositions (selected : Finset ℕ) : List ℕ :=
  (List.range rows.length).filter fun index => index ∈ selected

end Select

/-! ## The compaction -/

structure IndexedJournal where
  journal : Option Utf8.Bytes
  index : Option Utf8.Bytes

section Compact

variable (json : JsonLines) (preserve : RowFields → Bool) (maxBytes : ℤ)

def compactedContent (rows : List RowFields) : Except LineError (Utf8.Bytes × Utf8.Bytes) := do
  let encoded ← rows.mapM (rowLine json)
  let positions := sortedPositions rows (selectRows preserve maxBytes rows encoded)
  journalContent json (positions.filterMap fun index => rows[index]?)

def compactIndexedNdjson (files : IndexedJournal) : Except LineError Bool × IndexedJournal :=
  match files.journal with
  | none => (.ok false, files)
  | some journal =>
    if (journal.length : ℤ) ≤ maxBytes then (.ok false, files)
    else
      match iterNdjson json (some journal) with
      | .error .tooDeep => (.error .tooDeep, files)
      | .error _ => (.ok false, files)
      | .ok [] => (.ok false, files)
      | .ok rows =>
        match compactedContent json preserve maxBytes rows with
        | .error error => (.error error, files)
        | .ok (journal, index) => (.ok true, ⟨some journal, some index⟩)

end Compact

/-! ## What `json` is relied on for -/

/-- `json` writes an object on one line and reads it back. -/
structure JsonLines.RoundTrips (json : JsonLines) : Prop where
  oneLine : ∀ row text, json.dumps row = .ok text → '\n' ∉ text ∧ '\r' ∉ text
  braced : ∀ row text, json.dumps row = .ok text → text.head? = some '\x7b'
  reads : ∀ row text, json.dumps row = .ok text →
    ∃ read, json.loads (text ++ ['\n']) = .ok (.map read) ∧
      identicalValues (.map row) (.map read) = true

def ReadsAs (row read : RowFields) : Prop := identicalValues (.map row) (.map read) = true

/-! ## An exact index -/

def rowAt (json : JsonLines) (journal : Utf8.Bytes) (offset length : ℕ) :
    Except LineError (Json Scalar) :=
  match Utf8.decode ((journal.drop offset).take length) with
  | none => .error .undecodable
  | some text => json.loads text

/-- **The entries give where the rows lie**, one entry a row and in the same order, each where the
one before it ended, the first at this offset and the last at the end of the journal. -/
def Located (json : JsonLines) (journal : Utf8.Bytes) :
    ℕ → List RowFields → List RowFields → Prop
  | start, [], [] => start = journal.length
  | start, row :: rows, entry :: entries =>
    ∃ length : ℕ, Json.lookup offsetKey entry = some (.scalar (.int start)) ∧
      Json.lookup lengthKey entry = some (.scalar (.int length)) ∧
      rowAt json journal start length = .ok (.map row) ∧
      Located json journal (start + length) rows entries
  | _, _, _ => False

end Audiagentic.Observability
