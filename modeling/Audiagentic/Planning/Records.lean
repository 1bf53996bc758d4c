import Audiagentic.Planning.ItemText

/-!
# Planning records

The repository of Markdown records as `item_store.py` and `integrity.py` see it: the two trees
and the paths in them, the workflows of `workflows.yaml`, the one check that a record belongs
where it is (`validateRecordPath`), the search for a record, the numbering of new records and the
index of reviews and their parents.

A document is kept as it is read back: every reader parses the file anew, and gets the same.
Directories are listed in an order that is not specified (`Scan`).
-/

namespace Audiagentic.Planning

open Foundations

/-! ## Workflows -/

/-- The tree in which a record lies. -/
inductive Bucket where
  | active
  | completed
deriving DecidableEq

/-- A workflow of `workflows.yaml`. -/
structure Workflow where
  kind : String
  initial : Text
  values : List Text
  transitions : List (Text × List Text)
  terminal : List Text
  active : List Text
  placement : List (Text × Bucket)

def pendingState : Text := "pending".toList
def inProgressState : Text := "in_progress".toList
def completedState : Text := "completed".toList
def supersededState : Text := "superseded".toList
def deprecatedState : Text := "deprecated".toList
def createdState : Text := "created".toList
def consideredState : Text := "considered".toList
def closedState : Text := "closed".toList

def itemWorkflow : Workflow where
  kind := "item"
  initial := pendingState
  values := [pendingState, inProgressState, completedState, supersededState, deprecatedState]
  transitions :=
    [(pendingState, [inProgressState, completedState, supersededState, deprecatedState]),
      (inProgressState, [pendingState, completedState, supersededState, deprecatedState]),
      (completedState, [pendingState, inProgressState, supersededState, deprecatedState]),
      (supersededState, [pendingState, inProgressState]),
      (deprecatedState, [pendingState, inProgressState])]
  terminal := [completedState, supersededState, deprecatedState]
  active := [pendingState, inProgressState]
  placement := [(pendingState, .active), (inProgressState, .active), (completedState, .completed),
    (supersededState, .completed), (deprecatedState, .completed)]

def reviewWorkflow : Workflow where
  kind := "review"
  initial := createdState
  values := [createdState, consideredState, closedState]
  transitions := [(createdState, [consideredState, closedState]),
    (consideredState, [createdState, closedState]), (closedState, [createdState, consideredState])]
  terminal := [closedState]
  active := [createdState, consideredState]
  placement := [(createdState, .active), (consideredState, .active), (closedState, .completed)]

namespace Workflow

/-- `is_known_state`. -/
def isKnownState (workflow : Workflow) (state : Text) : Bool := workflow.values.contains state

def transitionAllowed (workflow : Workflow) (old new : Text) : Bool :=
  workflow.isKnownState old && workflow.isKnownState new &&
    ((workflow.transitions.lookup old).getD []).contains new

/-- The tree of a state; one without a placement goes by whether it is terminal. -/
def placementForState (workflow : Workflow) (state : Text) : Except RecordError Bucket := do
  refuse (workflow.isKnownState state = false) ⟨"VAL-PLN-006", "invalid state", state⟩
  match workflow.placement.lookup state with
  | some bucket => return bucket
  | none => return if workflow.terminal.contains state then .completed else .active

/-- `check_transition`.  Writing the state that is there is allowed. -/
def checkTransition (workflow : Workflow) (old : Value) (new : Text) :
    Except RecordError PUnit.{1} := do
  refuse (workflow.isKnownState new = false) ⟨"VAL-PLN-006", "invalid state", new⟩
  match old with
  | .text state =>
    refuse (state ≠ new ∧ workflow.transitionAllowed state new = false)
      ⟨"VAL-PLN-014", "illegal transition", new⟩
  | _ => .error ⟨"VAL-PLN-014", "illegal transition", new⟩

end Workflow

/-! ## Paths and documents -/

/-- Where a record lies below the two trees: `plan/id.md`, or `plan/reviews/parent/id.md`. -/
inductive RecordPath where
  | item (bucket : Bucket) (plan id : Text)
  | review (bucket : Bucket) (plan parent id : Text)
deriving DecidableEq

namespace RecordPath

/-- The name of the file is the id. -/
def stem : RecordPath → Text
  | item _ _ id => id
  | review _ _ _ id => id

/-- `path.parent.name`. -/
def parentName : RecordPath → Text
  | item _ plan _ => plan
  | review _ _ parent _ => parent

/-- The plan in whose directory the record lies. -/
def plan : RecordPath → Text
  | item _ plan _ => plan
  | review _ plan _ _ => plan

def bucket : RecordPath → Bucket
  | item bucket _ _ => bucket
  | review bucket _ _ _ => bucket

def isReview : RecordPath → Bool
  | item .. => false
  | review .. => true

end RecordPath

/-- The two trees are the directories `active` and `completed` below `docs/planning`. -/
def Bucket.directory : Bucket → Text
  | .active => "docs/planning/active".toList
  | .completed => "docs/planning/completed".toList

/-- `str(path.relative_to(project_root))`. -/
def RecordPath.relative : RecordPath → Text
  | .item bucket plan id =>
    List.intercalate ['/'] [bucket.directory, plan, id ++ ".md".toList]
  | .review bucket plan parent id =>
    List.intercalate ['/']
      [bucket.directory, plan, "reviews".toList, parent, id ++ ".md".toList]

/-- The mapping at the head of a file. -/
abbrev Frontmatter := OrderedDict Text Value

/-- `fm.get(key)`. -/
def Frontmatter.value (frontmatter : Frontmatter) (key : Text) : Value :=
  (frontmatter.get? key).getD .none

def idKey : Text := "id".toList
def planKey : Text := "plan".toList
def stateKey : Text := "state".toList
def reviewOfKey : Text := "review-of".toList

/-- `fm.get("state", default)`. -/
def Frontmatter.state (frontmatter : Frontmatter) (initial : Text) : Value :=
  (frontmatter.get? stateKey).getD (.text initial)

/-- A document.  The frontmatter is what a reader gets, and what was written where a reader gets
nothing. -/
structure Document where
  frontmatter : Frontmatter
  body : Text
  /-- `yaml.safe_load` reads the file. -/
  readable : Bool

/-- The `YAMLError` of a file that cannot be parsed. -/
def unreadable : RecordError := ⟨"YAMLError", "could not construct the frontmatter", []⟩

/-- `render_item`, and what the file is read as. -/
def render (host : Host) (frontmatter : Frontmatter) (body : Text) :
    Except RecordError Document := do
  refuse (host.dumps frontmatter = false) ⟨"TypeError", "cannot represent the frontmatter", []⟩
  match host.reload frontmatter with
  | some read => return ⟨read, body, true⟩
  | none => return ⟨frontmatter, body, false⟩

/-- The body as `parse_frontmatter(path.read_text())` gives it. -/
def Document.text (document : Document) : Text :=
  (Text.universalNewlines document.body).dropWhile fun char => char = '\n'

/-- The record files of the two trees. -/
abbrev Repository := OrderedDict RecordPath Document

/-- The order in which the host lists directories. -/
structure Scan where
  arrange : List RecordPath → List RecordPath
  perm : ∀ paths, (arrange paths).Perm paths

/-- The files, as the directories list them. -/
def Repository.files (repository : Repository) (scan : Scan) : List (RecordPath × Document) :=
  (scan.arrange repository.keys).filterMap fun path =>
    (repository.get? path).map fun document => (path, document)

/-! ## Canonical records -/

/-- The last check of `validate_record_path`. -/
def validatePlacement (workflow : Workflow) (bucket : Bucket) (state : Value) (subject : Text) :
    Except RecordError PUnit.{1} :=
  match state with
  | .text state =>
    match workflow.placementForState state with
    | .ok placed => refuse (bucket ≠ placed)
        (.integrity "state does not match its canonical placement" subject)
    | .error _ => .error (.integrity "record has an unknown workflow state" subject)
  | _ => .error (.integrity "record has an unknown workflow state" subject)

/-- `validate_record_path`.  The kind it is called with is that of the directory. -/
def validateRecordPath (path : RecordPath) (frontmatter : Frontmatter) :
    Except RecordError PUnit.{1} :=
  match path with
  | .item bucket directory stem => do
    let recordId ← validateItemId (frontmatter.value idKey)
    let plan ← validatePlanSlug (frontmatter.value planKey)
    refuse (frontmatter.has reviewOfKey = true)
      (.integrity "review metadata cannot be treated as a plan item" recordId)
    refuse (stem ≠ recordId ∨ directory ≠ plan)
      (.integrity "item metadata does not match its canonical path" recordId)
    validatePlacement itemWorkflow bucket (frontmatter.state itemWorkflow.initial) recordId
  | .review bucket directory parent stem => do
    let recordId ← validateReviewId (frontmatter.value idKey)
    let plan ← validatePlanSlug (frontmatter.value planKey)
    let parentId ← validateItemId (frontmatter.value reviewOfKey)
    refuse (stem ≠ recordId ∨ parent ≠ parentId ∨ directory ≠ plan)
      (.integrity "review metadata does not match its canonical path" recordId)
    validatePlacement reviewWorkflow bucket (frontmatter.state reviewWorkflow.initial) recordId

/-! ## Lookup -/

/-- `path.parent.parent.name != placement_for_state("item", state)`. -/
def RecordPath.misplaced (path : RecordPath) (state : Text) : Bool :=
  match path with
  | .item bucket _ _ =>
    match itemWorkflow.placementForState state with
    | .ok placed => bucket ≠ placed
    | .error _ => false
  | .review .. => true

/-- A record in the wrong tree, found for a call that is going to move it. -/
def repairable (itemId : Text) (path : RecordPath) (frontmatter : Frontmatter) : Bool :=
  path.stem = itemId && frontmatter.value idKey = .text itemId &&
    frontmatter.value planKey = .text path.parentName &&
    match frontmatter.value stateKey with
    | .text state => itemWorkflow.isKnownState state && path.misplaced state
    | _ => false

/-- One round of `find_item`. -/
def considerMatch (itemId : Text) (allowPlacementRepair : Bool) (file : RecordPath × Document) :
    Except RecordError (Option RecordPath) :=
  let path := file.1
  let frontmatter := file.2.frontmatter
  if file.2.readable = false then .error unreadable
  else if frontmatter.isEmpty then .ok none
  else
    match validateRecordPath path frontmatter with
    | .ok _ => .ok (if path.stem = itemId then some path else none)
    | .error error =>
      -- Unrelated corrupt records are passed over, but not the requested one.
      if path.stem = itemId || frontmatter.value idKey = .text itemId then
        if allowPlacementRepair && repairable itemId path frontmatter then .ok (some path)
        else .error error
      else .ok none

/-- `find_item`: reviews are looked for by their letters, and no id may stand twice. -/
def findItem (scan : Scan) (repository : Repository) (itemId : Text)
    (allowPlacementRepair : Bool) : Except RecordError (Option RecordPath) := do
  let _ ← validateRecordId (.text itemId)
  let found ← collect (considerMatch itemId allowPlacementRepair)
    ((repository.files scan).filter fun file => file.1.isReview = startsRV itemId)
  refuse (found.length > 1) ⟨"VAL-PLN-036", "duplicate planning identity", itemId⟩
  return found.head?

/-- `require_item`, with the document at the path. -/
def requireItem (scan : Scan) (repository : Repository) (itemId : Text)
    (allowPlacementRepair : Bool) : Except RecordError (RecordPath × Document) := do
  let found ← findItem scan repository itemId allowPlacementRepair
  match found.bind fun path => (repository.get? path).map fun document => (path, document) with
  | some file => return file
  | none => .error ⟨"VAL-PLN-001", "plan item not found", itemId⟩

/-- `review_paths`: the reviews under a parent. -/
def reviewPaths (scan : Scan) (repository : Repository) (parentId : Text) :
    List (RecordPath × Document) :=
  (repository.files scan).filter fun file =>
    file.1.isReview && file.1.parentName = parentId && startsRV file.1.stem

/-- An item tool refuses a review. -/
def ensureNotReview (frontmatter : Frontmatter) (itemId : Text) (code : String) :
    Except RecordError PUnit.{1} :=
  refuse (frontmatter.has reviewOfKey = true)
    ⟨code, "the requested record is a review; use the review-scoped tool", itemId⟩

/-- A review tool refuses an item. -/
def ensureReview (frontmatter : Frontmatter) (reviewId : Text) (code : String) :
    Except RecordError PUnit.{1} :=
  refuse (frontmatter.has reviewOfKey = false)
    ⟨code, "the requested record is a plan item; use the item-scoped tool", reviewId⟩

/-! ## Numbering -/

/-- `_ITEM_ID_RE`: the letters of a file name that looks like an id.  File names are ASCII, as ids
are validated before anything is written. -/
def idLetters (stem : Text) : Option Text :=
  let letters := stem.takeWhile Char.isAlpha
  let digits := stem.dropWhile Char.isAlpha
  if !letters.isEmpty && !digits.isEmpty && digits.all Char.isDigit then
    some (letters.map Char.toUpper)
  else none

/-- The ids of the items of a plan in one tree. -/
def itemStems (scan : Scan) (repository : Repository) (bucket : Bucket) (plan : Text) :
    List Text :=
  (repository.files scan).filterMap fun file =>
    match file.1 with
    | .item tree directory stem => if tree = bucket ∧ directory = plan then some stem else none
    | .review .. => none

/-- How often each prefix occurs, in the order of first occurrence. -/
def countPrefixes (stems : List Text) : OrderedDict Text Nat :=
  (stems.filterMap idLetters).foldl
    (fun counts letters => counts.set letters ((counts.get? letters).getD 0 + 1)) ∅

/-- The first entry with the greatest count. -/
def mostFrequent (counts : List (Text × Nat)) : Option (Text × Nat) :=
  counts.foldl (fun best entry =>
    match best with
    | none => some entry
    | some other => if other.2 < entry.2 then some entry else some other) none

/-- `dir_item_prefix`: the letters that most of the items have. -/
def dirItemPrefix (scan : Scan) (repository : Repository) (bucket : Bucket) (plan : Text) :
    Option Text :=
  (mostFrequent (countPrefixes (itemStems scan repository bucket plan)).entries).map Prod.fst

def digitsValue (digits : Text) : Nat :=
  digits.foldl (fun value digit => 10 * value + (digit.toNat - '0'.toNat)) 0

/-- The number of an id with these letters, in either case. -/
def numberAfter (letters stem : Text) : Option Nat :=
  if (letters.map Char.toUpper).isPrefixOf (stem.map Char.toUpper) then
    let digits := stem.drop letters.length
    if !digits.isEmpty && digits.all Char.isDigit then some (digitsValue digits) else none
  else none

def greatest (numbers : List Nat) : Nat := numbers.foldl max 0

def twoDigits (number : Nat) : Text :=
  let digits := Nat.toDigits 10 number
  if digits.length < 2 then '0' :: digits else digits

/-- The first two characters of the slug, as capitals. -/
def guessedPrefix (slug : Text) : Text :=
  let capitals := ((slug.take 2).filter Char.isUpper).map Char.toUpper
  if capitals.isEmpty then (slug.take 2).map Char.toUpper else capitals

def otherPlans (scan : Scan) (repository : Repository) (slug : Text) :
    List (Bucket × Text) :=
  ((repository.files scan).map fun file => (file.1.bucket, file.1.plan)).filter
    fun directory => directory.2 ≠ slug

/-- `_check_prefix_collision`. -/
def checkPrefixCollision (scan : Scan) (repository : Repository) (slug letters : Text) :
    Except RecordError PUnit.{1} :=
  refuse ((otherPlans scan repository slug).any (fun directory =>
      dirItemPrefix scan repository directory.1 directory.2 = some letters) = true)
    ⟨"VAL-PLN-012", "derived prefix is already used by another plan", letters⟩

/-- The letters in use, or a guess that no other plan has in use. -/
def planPrefix (scan : Scan) (repository : Repository) (slug : Text) : Except RecordError Text :=
  match (dirItemPrefix scan repository .active slug).or
    (dirItemPrefix scan repository .completed slug) with
  | some letters => .ok letters
  | none => do
    checkPrefixCollision scan repository slug (guessedPrefix slug)
    return guessedPrefix slug

/-- `next_item_id`: the number after all of the plan. -/
def nextItemId (scan : Scan) (repository : Repository) (slug : Text) :
    Except RecordError Text := do
  let letters ← planPrefix scan repository slug
  let stems := itemStems scan repository .active slug ++ itemStems scan repository .completed slug
  return letters ++ twoDigits (greatest (stems.filterMap (numberAfter letters)) + 1)

/-- Reviews are numbered over all plans. -/
def nextReviewId (scan : Scan) (repository : Repository) : Text :=
  let numbers := (repository.files scan).filterMap fun file =>
    if file.1.isReview && isReviewId file.1.stem then some (digitsValue (file.1.stem.drop 2))
    else none
  reviewLetters ++ twoDigits (greatest numbers + 1)

/-! ## The integrity index -/

/-- A plan and an id. -/
abbrev ItemKey := Text × Text

/-- `PlanningIntegrityIndex`, with one entry in `reviewBacklinks` for each link. -/
structure IntegrityIndex where
  items : OrderedDict ItemKey (RecordPath × Document)
  reviews : OrderedDict Text (RecordPath × Document)
  reviewBacklinks : List (Text × ItemKey)

namespace IntegrityIndex

def empty : IntegrityIndex := ⟨∅, ∅, []⟩

/-- Of several items with an id the first is indexed. -/
def addItem (host : Host) (index : IntegrityIndex) (file : RecordPath × Document) :
    IntegrityIndex :=
  match file.2.frontmatter.value idKey, file.2.frontmatter.value planKey,
      validateRecordPath file.1 file.2.frontmatter with
  | .text itemId, .text plan, .ok _ =>
    if index.items.keys.any fun key => key.2 = itemId then index
    else
      { index with
        items := index.items.set (plan, itemId) file
        reviewBacklinks := index.reviewBacklinks ++
          (reviewLinks host file.2.text).map fun reviewId => (reviewId, (plan, itemId)) }
  | _, _, _ => index

def addReview (index : IntegrityIndex) (file : RecordPath × Document) : IntegrityIndex :=
  match file.2.frontmatter.value idKey, validateRecordPath file.1 file.2.frontmatter with
  | .text reviewId, .ok _ =>
    if index.reviews.has reviewId then index
    else { index with reviews := index.reviews.set reviewId file }
  | _, _ => index

/-- `index.review_backlinks.get(review_id, [])`. -/
def backlinks (index : IntegrityIndex) (reviewId : Text) : List ItemKey :=
  index.reviewBacklinks.filterMap fun link => if link.1 = reviewId then some link.2 else none

end IntegrityIndex

def buildIntegrityIndex (host : Host) (scan : Scan) (repository : Repository) :
    Except RecordError IntegrityIndex := do
  let files := repository.files scan
  refuse (files.any (fun file => !file.2.readable) = true) unreadable
  return (files.filter fun file => file.1.isReview).foldl IntegrityIndex.addReview
    ((files.filter fun file => !file.1.isReview).foldl (IntegrityIndex.addItem host) .empty)

/-- A review and its parent. -/
structure ReviewContext where
  reviewPath : RecordPath
  review : Document
  parentPath : RecordPath
  parent : Document

/-- The parent has to link the review once, and no other item may. -/
def requireCanonicalReviewContext (host : Host) (scan : Scan) (repository : Repository)
    (reviewId : Text) : Except RecordError ReviewContext := do
  let _ ← validateReviewId (.text reviewId)
  let snapshot ← buildIntegrityIndex host scan repository
  match snapshot.reviews.get? reviewId with
  | none => .error (.integrity "review not found in canonical index" reviewId)
  | some review =>
    match review.2.frontmatter.value reviewOfKey, review.2.frontmatter.value planKey with
    | .text parentId, .text plan => do
      let _ ← validateItemId (.text parentId)
      match snapshot.items.get? (plan, parentId) with
      | none => .error (.integrity "review references missing parent" reviewId)
      | some parent => do
        refuse (parent.2.frontmatter.value idKey ≠ .text parentId ∨
            parent.2.frontmatter.value planKey ≠ .text plan)
          (.integrity "review parent metadata mismatch" reviewId)
        refuse (snapshot.backlinks reviewId ≠ [(plan, parentId)])
          (.integrity "review requires exactly one backlink from its parent" reviewId)
        return ⟨review.1, review.2, parent.1, parent.2⟩
    | _, _ => .error (.integrity "review has invalid parent metadata" reviewId)

end Audiagentic.Planning
