import Audiagentic.Planning.Items

/-!
# Reviews

The operations of `reviews.py`.  A review lies under its parent item, and the parent's body links
to it: creating and deleting a review writes the parent too.  Every other operation on a review
first resolves its parent through the integrity index.
-/

namespace Audiagentic.Planning

open Foundations

/-- The content after line `index`, when the lines from there on match
`## heading\n\n(.*?)(?=^## |\Z)`. -/
def reviewSectionAt (heading : Text) (lines : List Text) : Option Text :=
  match lines with
  | line :: [] :: first :: rest =>
    if line = "## ".toList ++ heading then
      some (Text.strip (Text.joinLines ((first :: rest).takeWhile fun line =>
        !("## ".toList).isPrefixOf line)))
    else none
  | _ => none

/-- `_parse_review_sections`: the last occurrence of each section. -/
def parseReviewSections (body : Text) : OrderedDict Text Text :=
  reviewSections.entries.foldl
    (fun sections entry =>
      match ((Text.lines body).tails.filterMap (reviewSectionAt entry.2)).getLast? with
      | some content => sections.set entry.1 content
      | none => sections) ∅

/-! ## Creation -/

/-- The keys of `create_review` that never become custom sections. -/
def consumedReviewKeys : List Text :=
  ["id".toList, "review-of".toList, "review_of".toList, "title".toList, "reviewed-by".toList,
    "reviewed_by".toList, "reviewer_id".toList, "reviewed-at".toList] ++ reviewSections.keys

def reviewedByKey : Text := "reviewed-by".toList

/-- `review-of`, or `review_of`. -/
def parentOf (review : Arguments) : Value :=
  if (review.value reviewOfKey).truth then review.value reviewOfKey
  else review.value "review_of".toList

def reviewedBy (review : Arguments) : Value :=
  firstTrue [review.value reviewedByKey, review.value "reviewed_by".toList,
    review.value "reviewer_id".toList] (.text [])

def newReviewFrontmatter (review : Arguments) (reviewId parentId : Text) (plan : Value) :
    Frontmatter :=
  .ofList [(idKey, .text reviewId), (reviewOfKey, .text parentId), (planKey, plan),
    (stateKey, .text reviewWorkflow.initial),
    (reviewedByKey, reviewedBy review),
    ("reviewed-at".toList, (review.get? "reviewed-at".toList).getD (.text []))]

def newReviewSections (review : Arguments) : OrderedDict Text Text :=
  let known := reviewSections.keys.map fun key =>
    (key, ((review.get? key).getD (.text [])).serializeSectionValue)
  let custom := (review.entries.filter fun entry => !consumedReviewKeys.contains entry.1).map
    fun entry => (entry.1, entry.2.serializeSectionValue)
  .ofList (known ++ custom)

def newReviewBody (host : Host) (review : Arguments) : Text :=
  buildSectionedBody host (review.value titleKey).printed (newReviewSections review)
    reviewSections ∅

/-- `create_review`: the review, and a link in the body of its parent. -/
def createReview (host : Host) (scan : Scan) (repository : Repository) (review : Arguments) :
    Except RecordError (RecordPath × Repository) := do
  refuse ((parentOf review).truth = false)
    ⟨"VAL-PLN-008", "review 'review-of' (or 'review_of') is required", []⟩
  let parentId ← validateItemId (parentOf review)
  refuse ((review.value titleKey).truth = false) ⟨"VAL-PLN-009", "review 'title' is required", []⟩
  let given ← givenId validateReviewId (review.value idKey)
  let found ← findItem scan repository parentId false
  match found.bind fun path => (repository.get? path).map fun document => (path, document) with
  | none => .error ⟨"VAL-PLN-010", "parent item not found", parentId⟩
  | some (parentPath, parent) => do
    let slug := parentPath.parentName
    refuse (parent.frontmatter.value planKey ≠ .text slug)
      ⟨"VAL-PLN-035", "parent item metadata does not match its canonical path", parentId⟩
    refuse (itemWorkflow.terminal.any (fun state =>
        decide (parent.frontmatter.value stateKey = .text state)) = true)
      ⟨"VAL-PLN-041", "completed items cannot receive active reviews", parentId⟩
    let reviewId := given.getD (nextReviewId scan repository)
    let existing ← findItem scan repository reviewId false
    refuse (existing ≠ none) ⟨"VAL-PLN-011", "review already exists", reviewId⟩
    let target := RecordPath.review .active slug parentPath.stem reviewId
    let written ← render host (newReviewFrontmatter review reviewId parentPath.stem
      ((parent.frontmatter.get? planKey).getD (.text slug))) (newReviewBody host review)
    let parentWritten ← render host parent.frontmatter (appendReviewLink host parent.text reviewId)
    return (target, (repository.set target written).set parentPath parentWritten)

/-! ## State changes -/

/-- `set_review_state`: not to an active state under an item that has ended. -/
def setReviewState (host : Host) (scan : Scan) (repository : Repository)
    (reviewId newState : Text) : Except RecordError (RecordPath × Repository) := do
  let (path, document) ← requireItem scan repository reviewId false
  ensureReview document.frontmatter reviewId "VAL-PLN-013"
  let context ← requireCanonicalReviewContext host scan repository reviewId
  validateRecordPath path document.frontmatter
  reviewWorkflow.checkTransition (document.frontmatter.state createdState) newState
  refuse (reviewWorkflow.active.contains newState = true ∧
      itemWorkflow.terminal.any (fun state =>
        decide (context.parent.frontmatter.value stateKey = .text state)) = true)
    ⟨"VAL-PLN-041", "completed items cannot have active reviews", reviewId⟩
  let bucket ← reviewWorkflow.placementForState newState
  let target := RecordPath.review bucket path.plan path.parentName path.stem
  let written ← render host (document.frontmatter.set stateKey (.text newState)) document.text
  return (target, repository.move path target written)

/-! ## Updates -/

/-- The fields that no review update may write. -/
def protectedReviewFields : List Text :=
  ["id".toList, "plan".toList, "state".toList, "review-of".toList, "review_of".toList,
    "created-at".toList, "created_at".toList]

def reviewFrontmatterFields : List Text :=
  ["reviewed-by".toList, "reviewed-at".toList, "review-of".toList, "review_of".toList,
    "id".toList, "plan".toList, "state".toList]

def reviewFrontmatterKey (key : Text) : Text :=
  if key = "reviewed_by".toList ∨ key = "reviewer_id".toList then reviewedByKey else key

/-- What an update changes of the frontmatter and of the sections. -/
def overlayReview (updates : Arguments) (frontmatter : Frontmatter)
    (sections : OrderedDict Text Text) : Frontmatter × OrderedDict Text Text :=
  updates.entries.foldl
    (fun state entry =>
      let key := reviewFrontmatterKey entry.1
      if reviewFrontmatterFields.contains key then (state.1.set key entry.2, state.2)
      else if entry.1 = titleKey then state
      else (state.1, state.2.set entry.1 entry.2.serializeSectionValue))
    (frontmatter, sections)

def reviewBodySections (host : Host) (body : Text) : OrderedDict Text Text :=
  (parseReviewSections body).entries.foldl (fun sections entry => sections.set entry.1 entry.2)
    ((parseItemSections host body).pop titleKey)

/-- `parse_title(body) or review_id`. -/
def reviewTitle (body reviewId : Text) : Text :=
  match parseTitle body with
  | some [] | none => reviewId
  | some title => title

/-- `update_review`. -/
def updateReview (host : Host) (scan : Scan) (repository : Repository) (reviewId : Text)
    (updates : Arguments) : Except RecordError (RecordPath × Repository) := do
  refuse (updates.keys.any protectedReviewFields.contains = true)
    ⟨"VAL-PLN-029", "protected fields cannot be written by review update", []⟩
  refuse (updates.isEmpty = true)
    ⟨"VAL-PLN-030", "review update requires at least one field", []⟩
  let (path, document) ← requireItem scan repository reviewId false
  ensureReview document.frontmatter reviewId "VAL-PLN-023"
  let _ ← requireCanonicalReviewContext host scan repository reviewId
  validateRecordPath path document.frontmatter
  let body := document.text
  let updated := overlayReview updates document.frontmatter (reviewBodySections host body)
  let title := ((updates.get? titleKey).map Value.printed).getD (reviewTitle body reviewId)
  let written ← render host updated.1 (buildSectionedBody host title updated.2 reviewSections
    (parseCustomHeadings host body reviewSections))
  return (path, repository.set path written)

/-! ## Deletion -/

/-- `delete_review`: the link in the parent goes too. -/
def deleteReview (host : Host) (scan : Scan) (repository : Repository) (reviewId : Text) :
    Except RecordError (RecordPath × Repository) := do
  let (path, document) ← requireItem scan repository reviewId false
  ensureReview document.frontmatter reviewId "VAL-PLN-024"
  let context ← requireCanonicalReviewContext host scan repository reviewId
  validateRecordPath path document.frontmatter
  let written ← render host context.parent.frontmatter
    (removeReviewLink host context.parent.text reviewId)
  return (path, (repository.set context.parentPath written).pop path)

/-! ## Reading -/

/-- A row of `list_reviews`. -/
structure ReviewRow where
  id : Value
  reviewOf : Value
  plan : Value
  state : Value
  reviewedBy : Value
  reviewedAt : Value
  title : Text
  path : Text

def reviewSearchDirs (state : Option Text) : List Bucket :=
  match state with
  | none => [.active, .completed]
  | some state =>
    if state = createdState ∨ state = consideredState ∨ state = "open".toList then [.active]
    else if state = closedState then [.completed]
    else [.active, .completed]

def reviewStatePasses (filter : Option Text) (persisted : Value) : Bool :=
  match filter with
  | none => true
  | some state =>
    if state = "all".toList then true
    else if state = "open".toList then
      persisted = .text createdState || persisted = .text consideredState
    else persisted = .text state

/-- One round of `list_reviews`. -/
def reviewRow (host : Host) (state slug parent idStart : Option Text)
    (file : RecordPath × Document) : Except RecordError (Option ReviewRow) :=
  let frontmatter := file.2.frontmatter
  if (slug.any fun slug => file.1.plan ≠ slug) ||
      (parent.any fun parent => file.1.parentName ≠ parent) then .ok none
  else if file.2.readable = false then .error unreadable
  else if frontmatter.isEmpty then .ok none
  else do
    let reviewId := (frontmatter.get? idKey).getD (.text file.1.stem)
    validateRecordPath file.1 frontmatter
    let persisted := frontmatter.state createdState
    if reviewStatePasses state persisted && idPasses host idStart reviewId then
      return some ⟨reviewId, rowField frontmatter "review-of", rowField frontmatter "plan",
        persisted, rowField frontmatter "reviewed-by", rowField frontmatter "reviewed-at",
        (parseTitle file.2.text).getD [], file.1.relative⟩
    else return none

/-- `list_reviews`, filtered by state, plan, parent and the beginning of the id. -/
def listReviews (host : Host) (scan : Scan) (repository : Repository)
    (state plan reviewOf idStart : Option Text) : Except RecordError (List ReviewRow) := do
  refuse ((state.any fun state => !(["open".toList, "all".toList, createdState, consideredState,
      closedState].contains state)) = true) ⟨"VAL-PLN-006", "invalid review state filter", []⟩
  let slug ← planFilter plan
  let parent ← givenId validateItemId ((reviewOf.map Value.text).getD .none)
  collect (reviewRow host state slug parent idStart) ((repository.files scan).filter fun file =>
    file.1.isReview && (reviewSearchDirs state).contains file.1.bucket)

end Audiagentic.Planning
