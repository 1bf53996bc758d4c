import Audiagentic.Foundations.Checks
import Audiagentic.Foundations.PythonValues
import Audiagentic.Foundations.Utf8

/-!
# Rows of newline-delimited JSON

`iter_ndjson` reads a file as text, line by line, and keeps the objects among its values.  What
`json` makes of a line is a parameter.
-/

namespace Audiagentic.Observability

open Foundations List

abbrev RowFields := Json.Entries Scalar

inductive LineError where
  /-- `UnicodeDecodeError`. -/
  | undecodable
  /-- `json.JSONDecodeError`. -/
  | malformed
  /-- Another `ValueError`, of an integer with too many digits. -/
  | value
  /-- `RecursionError`. -/
  | tooDeep

/-- What `json` does with a line and with an object. -/
structure JsonLines where
  /-- `json.loads(line)`. -/
  loads : Text → Except LineError (Json Scalar)
  /-- `json.dumps(row, sort_keys=True, separators=(",", ":"))`. -/
  dumps : RowFields → Except LineError Text

def fileLines : Text → List Text
  | [] => []
  | char :: rest =>
    if char = '\n' then ['\n'] :: fileLines rest
    else
      match fileLines rest with
      | [] => [[char]]
      | line :: lines => (char :: line) :: lines

/-- The objects among the values of lines: the loop of `iter_ndjson`. -/
def objectRows (json : JsonLines) : List Text → Except LineError (List RowFields)
  | [] => .ok []
  | line :: rest =>
    if Text.isBlank line = true then objectRows json rest
    else
      match json.loads line with
      | .error error => .error error
      | .ok (.map fields) => (objectRows json rest).map (fields :: ·)
      | .ok _ => objectRows json rest

/-- `list(iter_ndjson(path, _segments=False))`.  A file that is no text is refused at once, where
the source first gives the rows before the bad bytes. -/
def iterNdjson (json : JsonLines) : Option Utf8.Bytes → Except LineError (List RowFields)
  | none => .ok []
  | some bytes =>
    match Utf8.decode bytes with
    | none => .error .undecodable
    | some text => objectRows json (fileLines (Text.universalNewlines text))

/-! ## Lines -/

theorem fileLines_line {line : Text} (single : '\n' ∉ line) (rest : Text) :
    fileLines (line ++ '\n' :: rest) = (line ++ ['\n']) :: fileLines rest := by
  induction line with
  | nil => rw [nil_append, fileLines, if_pos rfl, nil_append]
  | cons char line ih =>
    obtain ⟨different, single⟩ := ne_and_not_mem_of_not_mem_cons single
    rw [cons_append, fileLines, if_neg (Ne.symm different), ih single]
    rfl

def lineText (lines : List Text) : Text := (lines.map fun line => line ++ ['\n']).flatten

@[simp] theorem lineText_nil : lineText [] = [] := rfl

theorem lineText_cons (line : Text) (lines : List Text) :
    lineText (line :: lines) = line ++ '\n' :: lineText lines := by
  rw [lineText, map_cons, flatten_cons, append_assoc]
  rfl

theorem fileLines_lineText {lines : List Text} (single : ∀ line ∈ lines, '\n' ∉ line) :
    fileLines (lineText lines) = lines.map fun line => line ++ ['\n'] := by
  induction lines with
  | nil => rfl
  | cons line lines ih =>
    rw [lineText_cons, fileLines_line (single line mem_cons_self),
      ih fun other member => single other (mem_cons_of_mem _ member),
      map_cons]

theorem universalNewlines_of_notMem {text : Text} (plain : '\r' ∉ text) :
    Text.universalNewlines text = text := by
  induction text with
  | nil => rfl
  | cons char rest ih =>
    obtain ⟨different, plain⟩ := ne_and_not_mem_of_not_mem_cons plain
    rw [Text.universalNewlines, ih plain, if_neg (Ne.symm different)]
    intro _ same
    exact absurd same.symm different

theorem notMem_lineText {char : Char} {lines : List Text} (notBreak : char ≠ '\n')
    (absent : ∀ line ∈ lines, char ∉ line) : char ∉ lineText lines := by
  rw [lineText, mem_flatten]
  rintro ⟨part, member, here⟩
  obtain ⟨line, listed, rfl⟩ := List.mem_map.mp member
  rcases mem_append.mp here with inLine | inBreak
  · exact absent line listed inLine
  · exact notBreak (mem_singleton.mp inBreak)

theorem iterNdjson_lineText (json : JsonLines) {lines : List Text}
    (single : ∀ line ∈ lines, '\n' ∉ line ∧ '\r' ∉ line) :
    iterNdjson json (some (Utf8.encode (lineText lines))) =
      objectRows json (lines.map fun line => line ++ ['\n']) := by
  have plain : '\r' ∉ lineText lines :=
    notMem_lineText (by decide) fun line member => (single line member).2
  simp only [iterNdjson, Utf8.decode_encode]
  rw [universalNewlines_of_notMem plain,
    fileLines_lineText fun line member => (single line member).1]

end Audiagentic.Observability
