import Audiagentic.Foundations.Checks
import Audiagentic.Foundations.Texts

/-!
# Planning identities

`identity.py`: what a plan slug, an item id and a review id look like, and the errors and
argument values that all planning operations share.
-/

namespace Audiagentic.Planning

open Foundations

/-! ## Values and errors -/

/-- A value that is neither a string nor `None`, by what the code reads of it. -/
structure OtherValue where
  /-- `bool(value)`. -/
  truth : Bool
  /-- `_serialize_section_value(value)`. -/
  markdown : Text
  /-- `str(value)`. -/
  printed : Text
  /-- `repr(value)`. -/
  represented : Text
  oneLine : ∀ char ∈ represented, Text.isLineBreak char = false
deriving DecidableEq

inductive Value where
  | none
  | text (content : Text)
  | other (value : OtherValue)
deriving DecidableEq

namespace Value

/-- `bool(value)`. -/
def truth : Value → Bool
  | none => false
  | text content => !content.isEmpty
  | other value => value.truth

/-- `str(value)`. -/
def printed : Value → Text
  | none => "None".toList
  | text content => content
  | other value => value.printed

def serializeSectionValue : Value → Text
  | none => []
  | text content => content
  | other value => value.markdown

/-- The default of `order`. -/
def zero : Value :=
  other ⟨false, ['0'], ['0'], ['0'], by simp [Text.isLineBreak]⟩

end Value

/-- `AudiaGenticError` of the planning component: its code and message, and the value that the
message or the details name. -/
structure RecordError where
  code : String
  message : String
  subject : Text

namespace RecordError

/-- `PlanningIntegrityError`. -/
def integrity (message : String) (subject : Text) : RecordError :=
  ⟨"VAL-PLN-040", message, subject⟩

end RecordError

/-! ## Identities -/

/-- `[a-z0-9]`. -/
def isSlugChar (char : Char) : Bool := char.isLower || char.isDigit

/-- `_PLAN_RE`: parts of small letters and digits between single hyphens. -/
def isPlanSlug (text : Text) : Bool :=
  (text.splitOn '-').all fun part => !part.isEmpty && part.all isSlugChar

/-- Capital letters and the digits after them, where a text is made of nothing else. -/
def splitId (text : Text) : Option (Text × Text) :=
  let letters := text.takeWhile Char.isUpper
  let digits := text.dropWhile Char.isUpper
  if !letters.isEmpty && !digits.isEmpty && digits.all Char.isDigit then some (letters, digits)
  else none

/-- `_ITEM_RE`. -/
def isItemId (text : Text) : Bool := (splitId text).isSome

def reviewLetters : Text := ['R', 'V']

/-- `value.startswith("RV")`. -/
def startsRV (text : Text) : Bool := reviewLetters.isPrefixOf text

/-- `_REVIEW_RE`. -/
def isReviewId (text : Text) : Bool :=
  startsRV text && !(text.drop 2).isEmpty && (text.drop 2).all Char.isDigit

def validate (accepts : Text → Bool) (kind : String) (value : Value) : Except RecordError Text :=
  match value with
  | .text text =>
    if accepts text then .ok text
    else .error ⟨"VAL-PLN-035", "invalid planning", kind.toList⟩
  | _ => .error ⟨"VAL-PLN-035", "invalid planning", kind.toList⟩

def validatePlanSlug : Value → Except RecordError Text :=
  validate isPlanSlug "plan slug"

def validateItemId (value : Value) : Except RecordError Text := do
  let result ← validate isItemId "item ID" value
  refuse (startsRV result = true) ⟨"VAL-PLN-035", "review IDs are not item IDs", []⟩
  return result

def validateReviewId : Value → Except RecordError Text :=
  validate isReviewId "review ID"

def validateRecordId (value : Value) : Except RecordError Text :=
  match value with
  | .text text => if startsRV text then validateReviewId value else validateItemId value
  | _ => validateItemId value

/-! ## Which texts pass -/

variable {text : Text} {value : Value}

theorem validate_eq_ok {accepts : Text → Bool} {kind : String} :
    validate accepts kind value = .ok text ↔ value = .text text ∧ accepts text = true := by
  cases value with
  | none | other => simp [validate]
  | text given =>
    simp only [validate, Value.text.injEq]
    split
    next accepted =>
      constructor
      · intro same
        cases same
        exact ⟨rfl, accepted⟩
      · rintro ⟨rfl, _⟩
        rfl
    next refused =>
      constructor
      · intro impossible
        cases impossible
      · rintro ⟨rfl, accepted⟩
        exact absurd accepted refused

theorem validatePlanSlug_eq_ok :
    validatePlanSlug value = .ok text ↔ value = .text text ∧ isPlanSlug text = true :=
  validate_eq_ok

theorem validateReviewId_eq_ok :
    validateReviewId value = .ok text ↔ value = .text text ∧ isReviewId text = true :=
  validate_eq_ok

theorem validateItemId_eq_ok :
    validateItemId value = .ok text ↔
      value = .text text ∧ isItemId text = true ∧ startsRV text = false := by
  rw [validateItemId, bind_eq_ok]
  constructor
  · rintro ⟨result, accepted, passed⟩
    obtain ⟨rfl, isId⟩ := validate_eq_ok.mp accepted
    obtain ⟨notReview, same⟩ := refuse_bind_eq_ok.mp passed
    cases same
    exact ⟨rfl, isId, by simpa using notReview⟩
  · rintro ⟨rfl, isId, notReview⟩
    refine ⟨text, validate_eq_ok.mpr ⟨rfl, isId⟩, refuse_bind_eq_ok.mpr ⟨?_, rfl⟩⟩
    simp [notReview]

theorem startsRV_of_isReviewId (review : isReviewId text = true) : startsRV text = true := by
  simp only [isReviewId, Bool.and_eq_true] at review
  exact review.1.1

def IsRecordId (text : Text) : Prop :=
  isReviewId text = true ∨ isItemId text = true ∧ startsRV text = false

/-- **A record id is a review id or an item id, by its first letters.** -/
theorem validateRecordId_eq_ok :
    validateRecordId value = .ok text ↔ value = .text text ∧ IsRecordId text := by
  cases value with
  | none | other => simp [validateRecordId, validateItemId_eq_ok]
  | text given =>
    rw [validateRecordId]
    split
    next starts =>
      rw [validateReviewId_eq_ok]
      constructor
      · rintro ⟨same, review⟩
        exact ⟨same, Or.inl review⟩
      rintro ⟨same, review | ⟨_, notReview⟩⟩
      · exact ⟨same, review⟩
      · cases same
        rw [starts] at notReview
        cases notReview
    next plain =>
      rw [validateItemId_eq_ok]
      constructor
      · rintro ⟨same, item⟩
        exact ⟨same, Or.inr item⟩
      rintro ⟨same, review | item⟩
      · cases same
        exact absurd (startsRV_of_isReviewId review) plain
      · exact ⟨same, item⟩

end Audiagentic.Planning
