import Audiagentic.Foundations.JsonViews
import Audiagentic.Foundations.PythonValues

/-!
# Redaction

The walkers that make structured values safe to log: the bounded summary, the redaction of error
details and the search for a key that must not be logged.  They share two classes of keys, told
apart by the words in them.  What is done to a single text is left open: the functions are written
over any `redact_text` and any JSON writer.
-/

namespace Audiagentic.Observability

open Foundations

/-! ## Keys -/

/-- The case folding of a case-insensitive search, for the letters that stand in the words below:
two letters beyond ASCII fold to `i`, one to `k` and one to `s`. -/
def foldCase (char : Char) : Char :=
  if char = 'İ' || char = 'ı' then 'i'
  else if char = '\u212a' then 'k'
  else if char = 'ſ' then 's'
  else if 'A' ≤ char ∧ char ≤ 'Z' then char.toLower
  else char

def mentions (words : List Text) (key : Text) : Bool :=
  words.any fun word => Text.contains word (key.map foldCase)

/-- `SECRET_KEYS`. -/
def secretWords : List Text :=
  ["key".toList, "token".toList, "secret".toList, "password".toList, "authorization".toList,
    "auth".toList]

/-- `BULK_KEYS`. -/
def bulkWords : List Text :=
  ["stdout".toList, "stderr".toList, "output".toList, "input".toList, "prompt".toList]

def isSensitiveKey (key : Text) : Bool := mentions secretWords key

def isBulkKey (key : Text) : Bool := mentions bulkWords key

def isDenylisted (key : Text) : Bool := isSensitiveKey key || isBulkKey key

/-! ## Values -/

def redacted : Text := "[REDACTED]".toList

def truncated : Text := "[TRUNCATED]".toList

def maxStructDepth : ℕ := 8

def maxStructEntries : ℕ := 20

/-- `_MAX_LEAF_STR_LEN`. -/
def maxLeafLength : ℕ := 80

def safeMetadataKeys : List Text :=
  ["correlation_id".toList, "correlation-id".toList, "subject".toList, "job-id".toList,
    "trigger-id".toList, "source-component".toList]

def text (value : Text) : Json Scalar := .scalar (.str value)

/-- `f"{omitted} entries omitted"`. -/
def omittedText (omitted : ℕ) : Text := indexText omitted ++ " entries omitted".toList

/-! ## The search for a key -/

mutual
def findDenylistedKey (depth : ℕ) (value : Json Scalar) : Option Text :=
  if depth > 16 then none
  else
    match value with
    | .map entries => findInEntries depth entries
    | .list items => findInItems depth items
    | _ => none

def findInEntries (depth : ℕ) : Json.Entries Scalar → Option Text
  | [] => none
  | (key, nested) :: rest =>
    if isDenylisted key then some key
    else (findDenylistedKey (depth + 1) nested).or (findInEntries depth rest)

def findInItems (depth : ℕ) : List (Json Scalar) → Option Text
  | [] => none
  | nested :: rest => (findDenylistedKey (depth + 1) nested).or (findInItems depth rest)
end

section Walkers

variable (redactText : Text → Text)

/-- `redact_text(value)[:_MAX_LEAF_STR_LEN]`. -/
def leafText (value : Text) : Json Scalar := text ((redactText value).take maxLeafLength)

/-! ## The summary -/

mutual
def summarizeValue (depth : ℕ) (value : Json Scalar) : Json Scalar :=
  if depth > maxStructDepth then text truncated
  else
    match value with
    | .scalar (.str value) => leafText redactText value
    | .map entries =>
      let summarized := summarizeEntries depth maxStructEntries entries
      .map (if entries.length > maxStructEntries then
        OrderedDict.setEntries truncated (text (omittedText (entries.length - maxStructEntries)))
          summarized
      else summarized)
    | .list items =>
      let summarized := summarizeItems depth maxStructEntries items
      .list (if items.length > maxStructEntries then summarized ++ [text truncated]
      else summarized)
    | other => other

def summarizeEntries (depth : ℕ) : ℕ → Json.Entries Scalar → Json.Entries Scalar
  | _, [] => []
  | 0, _ => []
  | left + 1, (key, value) :: rest =>
    (key, if isDenylisted key then text redacted else summarizeValue (depth + 1) value) ::
      summarizeEntries depth left rest

def summarizeItems (depth : ℕ) : ℕ → List (Json Scalar) → List (Json Scalar)
  | _, [] => []
  | 0, _ => []
  | left + 1, value :: rest =>
    summarizeValue (depth + 1) value :: summarizeItems depth left rest
end

/-- `summarize_structure`, with what `json.dumps` gives; nothing where it raises. -/
def summarizeStructure (dumps : Json Scalar → Option Text) (maxLen : ℤ) (value : Json Scalar) :
    Text :=
  match dumps (summarizeValue redactText 0 value) with
  | none => redacted
  | some text =>
    if (text.length : ℤ) ≤ maxLen then text
    else text.take (maxLen - truncated.length).toNat ++ truncated

def safeMetadata (metadata : Json Scalar) : Json.Entries Scalar :=
  safeMetadataKeys.filterMap fun key =>
    (Json.lookup key metadata.entries).map fun value => (key, summarizeValue redactText 0 value)

/-! ## Error details -/

mutual
def redactErrorValue (key : Text) (value : Json Scalar) : Json Scalar :=
  if isSensitiveKey key then text redacted
  else if isBulkKey key then
    match value with
    | .scalar (.str value) => leafText redactText value
    | other => other
  else
    match value with
    | .scalar (.str value) => leafText redactText value
    | .map entries => .map (redactErrorEntries entries)
    | .list items => .list (redactErrorItems key items)
    | other => other

def redactErrorEntries : Json.Entries Scalar → Json.Entries Scalar
  | [] => []
  | (key, value) :: rest => (key, redactErrorValue key value) :: redactErrorEntries rest

def redactErrorItems (key : Text) : List (Json Scalar) → List (Json Scalar)
  | [] => []
  | value :: rest => redactErrorValue key value :: redactErrorItems key rest
end

def detailsKey : Text := "details".toList

/-- `redact_error_envelope` of a dictionary. -/
def redactErrorEnvelope (envelope : Json.Entries Scalar) : Json.Entries Scalar :=
  match Json.lookup detailsKey envelope with
  | some (.map details) =>
    OrderedDict.setEntries detailsKey (.map (redactErrorEntries redactText details)) envelope
  | _ => envelope

end Walkers

/-! ## Errors -/

section Errors

variable (secretShaped : Text → Bool)

def detailsMaxOutput : ℕ := 1024

/-- `redact_details` of a text; the patterns of `_REDACT_PATTERNS` are found in it or not. -/
def redactDetailText (key value : Text) : Text :=
  if secretShaped value then redacted
  else if (key = "stdout".toList ∨ key = "stderr".toList) ∧ value.length > detailsMaxOutput then
    value.take detailsMaxOutput ++ "... (truncated, ".toList ++ indexText value.length ++
      " total chars)".toList
  else value

mutual
/-- `_redact_value`. -/
def redactDetailValue (key : Text) : Json Scalar → Json Scalar
  | .scalar (.str value) => text (redactDetailText secretShaped key value)
  | .map entries => .map (redactDetails entries)
  | .list items => .list (redactDetailItems key items)
  | .scalar other => .scalar other
  | .null => .null

def redactDetails : Json.Entries Scalar → Json.Entries Scalar
  | [] => []
  | (key, value) :: rest => (key, redactDetailValue key value) :: redactDetails rest

def redactDetailItems (key : Text) : List (Json Scalar) → List (Json Scalar)
  | [] => []
  | value :: rest => redactDetailValue key value :: redactDetailItems key rest
end

/-- An `AudiaGenticError`, whose code and kind have been validated, with the details it was raised
with. -/
structure RaisedError where
  code : Text
  kind : Text
  message : Text
  details : Option (Json.Entries Scalar)

/-- `to_error_envelope`.  The constructor of the error has redacted the details once before. -/
def toErrorEnvelope (resolution : Text → Option Text) (error : RaisedError) : Json.Entries Scalar :=
  let details := (error.details.map fun details =>
    redactDetails secretShaped (redactDetails secretShaped details)).getD []
  [("contract-version".toList, text "v1".toList), ("ok".toList, .scalar (.bool false)),
    ("error-code".toList, text error.code), ("error-kind".toList, text error.kind),
    ("message".toList, text error.message), (detailsKey, .map details)] ++
      match resolution error.code with
      | some advice => if advice.isEmpty then [] else [("resolution".toList, text advice)]
      | none => []

end Errors

end Audiagentic.Observability
