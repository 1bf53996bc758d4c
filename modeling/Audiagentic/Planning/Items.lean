import Audiagentic.Planning.Records

/-!
# Plan items

The operations of `items.py`.  Each reads the repository, checks its arguments, and gives the
path of the record it is about together with the repository after its commit.  A call that raises
commits nothing.
-/

namespace Audiagentic.Planning

open Foundations

/-- What `datetime.now(timezone.utc).isoformat()` gives. -/
structure Timestamp where
  text : Text
  printable : text.all isPrintable = true

abbrev Arguments := Frontmatter

/-- The first value that counts as true: `first or second or default`. -/
def firstTrue (values : List Value) (default : Value) : Value :=
  (values.find? Value.truth).getD default

/-! ## Creation -/

def createdByKey : Text := "created-by".toList

/-- The keys of `create_item` that never become sections. -/
def consumedKeys : List Text :=
  frontmatterFields ++
    ["id".toList, "order".toList, "plan".toList, "state".toList, "breadth".toList,
      "skill".toList] ++ metadataKeys

/-- The first of the three fields that is true, or the default. -/
def createdBy (item : Arguments) : Value :=
  firstTrue [item.value createdByKey, item.value "created_by".toList,
    item.value "creator_id".toList] (.text "agent".toList)

/-- The fields that every new item gets. -/
def initialFrontmatter (item : Arguments) (itemId slug : Text) (now : Timestamp) : Frontmatter :=
  .ofList [(idKey, .text itemId), ("order".toList, (item.get? "order".toList).getD .zero),
    (planKey, .text slug), (stateKey, .text itemWorkflow.initial),
    ("created-at".toList, .text now.text),
    ("breadth".toList, (item.get? "breadth".toList).getD (.text [])),
    ("skill".toList, (item.get? "skill".toList).getD (.text [])),
    (createdByKey, createdBy item)]

/-- A field that is there already is not taken from the arguments. -/
def addRequestedFields (item : Arguments) (frontmatter : Frontmatter) : Frontmatter :=
  frontmatterFields.foldl
    (fun frontmatter field =>
      if frontmatter.has field then frontmatter
      else
        match item.get? field with
        | some value => frontmatter.set field value
        | none => frontmatter) frontmatter

def newItemFrontmatter (item : Arguments) (itemId slug : Text) (now : Timestamp) : Frontmatter :=
  addRequestedFields item (initialFrontmatter item itemId slug now)

def newItemSections (item : Arguments) : OrderedDict Text Text :=
  let known := itemSectionHeading.keys.map fun key =>
    (key, ((item.get? key).getD (.text [])).serializeSectionValue)
  let custom := (item.entries.filter fun entry =>
    !consumedKeys.contains entry.1 && !itemSectionHeading.has entry.1).map fun entry =>
      (entry.1, entry.2.serializeSectionValue)
  .ofList (known ++ custom)

def newItemBody (host : Host) (item : Arguments) (now : Timestamp) : Text :=
  appendChangeLog (buildItemBody host (item.value titleKey).printed (newItemSections item) ∅)
    now.text createdByKey ("Created by ".toList ++ (createdBy item).printed)

/-- The id an argument gives, checked.  `None` gives none. -/
def givenId (check : Value → Except RecordError Text) : Value → Except RecordError (Option Text)
  | .none => .ok none
  | value => (check value).map some

/-- A supplied id is validated, a derived one is not. -/
def chosenItemId (scan : Scan) (repository : Repository) (slug : Text) :
    Option Text → Except RecordError Text
  | some itemId => .ok itemId
  | none => nextItemId scan repository slug

/-- `create_item`: the path of the item, and the repository with it. -/
def createItem (host : Host) (scan : Scan) (now : Timestamp) (repository : Repository)
    (item : Arguments) : Except RecordError (RecordPath × Repository) := do
  refuse ((item.value planKey).truth = false) ⟨"VAL-PLN-003", "item 'plan' is required", []⟩
  let slug ← validatePlanSlug (item.value planKey)
  refuse ((item.value titleKey).truth = false) ⟨"VAL-PLN-004", "item 'title' is required", []⟩
  let given ← givenId validateItemId (item.value idKey)
  refuse ((createdBy item).truth = false) ⟨"VAL-PLN-025", "item 'created-by' is required", []⟩
  let itemId ← chosenItemId scan repository slug given
  let existing ← findItem scan repository itemId false
  refuse (existing ≠ none) ⟨"VAL-PLN-005", "plan item already exists", itemId⟩
  let target := RecordPath.item .active slug itemId
  let document ← render host (newItemFrontmatter item itemId slug now) (newItemBody host item now)
  return (target, repository.set target document)

/-! ## State changes -/

def validationKey : Text := "validation".toList
def acceptanceCriteriaKey : Text := "acceptance_criteria".toList

/-- `not str(sections.get(name, "")).strip()`. -/
def lacksSection (sections : OrderedDict Text Text) (name : Text) : Bool :=
  Text.isBlank ((sections.get? name).getD [])

/-- Completion asks for acceptance criteria and for a validation. -/
def requireCompletionSections (sections : OrderedDict Text Text) :
    Except RecordError PUnit.{1} :=
  refuse (([validationKey, acceptanceCriteriaKey].any (lacksSection sections)) = true)
    ⟨"VAL-PLN-034", "completed items require non-empty validation and acceptance criteria", []⟩

def isOpenReview (document : Document) : Bool :=
  match document.frontmatter.value stateKey with
  | .text state => reviewWorkflow.active.contains state
  | _ => false

/-- What `set_state` asks of an item that is to be completed. -/
def requireCompletable (host : Host) (scan : Scan) (repository : Repository) (itemId body : Text) :
    Except RecordError PUnit.{1} := do
  requireCompletionSections (parseItemSections host body)
  let reviews := reviewPaths scan repository itemId
  refuse (reviews.any (fun file => !file.2.readable) = true) unreadable
  refuse (reviews.any (fun file => isOpenReview file.2) = true)
    ⟨"VAL-PLN-041", "completed items cannot have open reviews", itemId⟩

/-- Write a record, and remove the file it was read from when it moves. -/
def Repository.move (repository : Repository) (path target : RecordPath) (document : Document) :
    Repository :=
  if target = path then repository.set target document
  else (repository.set target document).pop path

def describeTransition (oldState : Value) (newState : Text) : Text :=
  "State: ".toList ++ oldState.printed ++ " → ".toList ++ newState

/-- `set_state`: the record moves to the tree of its state. -/
def setState (host : Host) (scan : Scan) (now : Timestamp) (repository : Repository)
    (itemId newState : Text) : Except RecordError (RecordPath × Repository) := do
  let bucket ← itemWorkflow.placementForState newState
  let (path, document) ← requireItem scan repository itemId true
  ensureNotReview document.frontmatter itemId "VAL-PLN-019"
  refuse (itemWorkflow.isKnownState newState = false)
    ⟨"VAL-PLN-006", "invalid item state", newState⟩
  let oldState := document.frontmatter.state pendingState
  itemWorkflow.checkTransition oldState newState
  checkIf (newState = completedState) (requireCompletable host scan repository itemId document.text)
  let body := appendChangeLog document.text now.text "state-transition".toList
    (describeTransition oldState newState)
  let target := RecordPath.item bucket path.parentName path.stem
  let written ← render host (document.frontmatter.set stateKey (.text newState)) body
  return (target, repository.move path target written)

/-! ## Updates -/

/-- The fields that no update may write. -/
def protectedFields : List Text :=
  ["id".toList, "plan".toList, "state".toList, "created-at".toList, "created_at".toList,
    "review-of".toList, "review_of".toList]

def frontmatterKey (key : Text) : Text :=
  if key = "created_by".toList ∨ key = "creator_id".toList then createdByKey else key

def isFrontmatterKey (key : Text) : Bool := frontmatterFields.contains (frontmatterKey key)

/-- The checks of `update_item` on its arguments. -/
def checkUpdates (updates : Arguments) (append : Option (List Text)) :
    Except RecordError PUnit.{1} := do
  let names := append.getD []
  refuse (updates.keys.any protectedFields.contains = true)
    ⟨"VAL-PLN-029", "protected fields cannot be written by item update", []⟩
  refuse (names ≠ [] ∧ updates.isEmpty = true)
    ⟨"VAL-PLN-027", "append was provided without update content", []⟩
  refuse (¬ names.Nodup) ⟨"VAL-PLN-031", "append contains duplicate section names", []⟩
  refuse (updates.isEmpty = true) ⟨"VAL-PLN-030", "item update requires at least one field", []⟩
  refuse (¬ ∀ name ∈ names, name ∈ updates.keys)
    ⟨"VAL-PLN-028", "append contains section names that are absent from updates", []⟩

def updatedFrontmatter (updates : Arguments) (frontmatter : Frontmatter) : Frontmatter :=
  updates.entries.foldl
    (fun frontmatter entry =>
      if isFrontmatterKey entry.1 then frontmatter.set (frontmatterKey entry.1) entry.2
      else frontmatter) frontmatter

/-- The sections that are added to instead of replaced. -/
def appendKeys (append : Option (List Text)) : List Text := append.getD ["notes".toList]

def updatedContent (append : Option (List Text)) (old : OrderedDict Text Text) (key : Text)
    (value : Value) : Text :=
  if (appendKeys append).contains key then
    let existing := Text.rstrip ((old.get? key).getD [])
    if existing.isEmpty then value.serializeSectionValue
    else existing ++ "\n\n".toList ++ value.serializeSectionValue
  else value.serializeSectionValue

def updatedSections (updates : Arguments) (append : Option (List Text))
    (old : OrderedDict Text Text) : OrderedDict Text Text :=
  updates.entries.foldl
    (fun sections entry =>
      if isFrontmatterKey entry.1 then sections
      else sections.set entry.1 (updatedContent append old entry.1 entry.2)) old

def describeChanges (host : Host) (updates : Arguments) (frontmatter : Frontmatter)
    (old : OrderedDict Text Text) : Text :=
  let changed := updates.entries.filterMap fun entry =>
    if isFrontmatterKey entry.1 then
      if frontmatter.value (frontmatterKey entry.1) ≠ entry.2 then
        some (frontmatterKey entry.1 ++ ['='] ++ entry.2.represented host)
      else none
    else
      if .text ((old.get? entry.1).getD []) ≠ entry.2 then some ("section:".toList ++ entry.1)
      else none
  if changed.isEmpty then "Updated (no visible changes)".toList
  else "Updated: ".toList ++ List.intercalate ", ".toList changed

def updatedTitle (sections : OrderedDict Text Text) (body itemId : Text) : Text :=
  match sections.get? titleKey with
  | some title => title
  | none =>
    match parseTitle body with
    | some [] | none => itemId
    | some title => title

def updatedBody (host : Host) (updates : Arguments) (append : Option (List Text))
    (body itemId : Text) : Text :=
  let sections := updatedSections updates append (parseItemSections host body)
  buildItemBody host (updatedTitle sections body itemId) (sections.pop titleKey)
    (parseItemCustomHeadings host body)

/-- `update_item`: title, sections and frontmatter, with a line in the change log. -/
def updateItem (host : Host) (scan : Scan) (now : Timestamp) (repository : Repository)
    (itemId : Text) (updates : Arguments) (append : Option (List Text)) :
    Except RecordError (RecordPath × Repository) := do
  checkUpdates updates append
  let (path, document) ← requireItem scan repository itemId false
  ensureNotReview document.frontmatter itemId "VAL-PLN-020"
  let frontmatter := updatedFrontmatter updates document.frontmatter
  let newBody := updatedBody host updates append document.text itemId
  checkIf (frontmatter.value stateKey = .text completedState)
    (requireCompletionSections (parseItemSections host newBody))
  let newBody := appendChangeLog newBody now.text "updated-by".toList
    (describeChanges host updates document.frontmatter (parseItemSections host document.text))
  let written ← render host frontmatter newBody
  return (path, repository.set path written)

/-! ## Deletion -/

/-- `delete_item`: not while reviews are under it. -/
def deleteItem (scan : Scan) (repository : Repository) (itemId : Text) :
    Except RecordError (RecordPath × Repository) := do
  let (path, document) ← requireItem scan repository itemId false
  ensureNotReview document.frontmatter itemId "VAL-PLN-021"
  refuse (reviewPaths scan repository itemId ≠ [])
    ⟨"VAL-PLN-037", "cannot delete plan item while reviews exist", itemId⟩
  return (path, repository.pop path)

/-! ## Reading -/

/-- A row of `list_items`. -/
structure ItemRow where
  id : Value
  plan : Value
  state : Value
  work : Value
  skill : Value
  createdBy : Value
  createdAt : Value
  title : Text
  path : Text

def itemSearchDirs (state : Option Text) : List Bucket :=
  match state with
  | none => [.active, .completed]
  | some state =>
    if state = "active".toList ∨ itemWorkflow.active.contains state = true then [.active]
    else if itemWorkflow.terminal.contains state then [.completed]
    else [.active, .completed]

def itemStatePasses (filter : Option Text) (persisted : Value) : Bool :=
  match filter with
  | none => true
  | some state =>
    if state = "all".toList then true
    else if state = "active".toList then
      match persisted with
      | .text state => itemWorkflow.active.contains state
      | _ => false
    else persisted = .text state

/-- `str(record_id).upper().startswith(id_prefix.upper())`, for a prefix that was given. -/
def idPasses (host : Host) (idStart : Option Text) (recordId : Value) : Bool :=
  match idStart with
  | none | some [] => true
  | some start => (host.upper start).isPrefixOf (host.upper recordId.printed)

def planFilter (plan : Option Text) : Except RecordError (Option Text) :=
  match plan with
  | none | some [] => .ok none
  | some slug => do return some (← validatePlanSlug (.text slug))

def rowField (frontmatter : Frontmatter) (key : String) : Value :=
  (frontmatter.get? key.toList).getD (.text [])

/-- One round of `list_items`. -/
def itemRow (host : Host) (state slug idStart : Option Text) (file : RecordPath × Document) :
    Except RecordError (Option ItemRow) :=
  let frontmatter := file.2.frontmatter
  if slug.any fun slug => file.1.parentName ≠ slug then .ok none
  else if file.2.readable = false then .error unreadable
  else if frontmatter.isEmpty then .ok none
  else do
    validateRecordPath file.1 frontmatter
    let itemId := (frontmatter.get? idKey).getD (.text file.1.stem)
    let persisted := frontmatter.state pendingState
    if itemStatePasses state persisted && idPasses host idStart itemId then
      return some ⟨itemId, rowField frontmatter "plan", persisted, rowField frontmatter "work",
        rowField frontmatter "skill", rowField frontmatter "created-by",
        rowField frontmatter "created-at", (parseTitle file.2.text).getD [], file.1.relative⟩
    else return none

/-- `list_items`, filtered by state, plan and the beginning of the id. -/
def listItems (host : Host) (scan : Scan) (repository : Repository)
    (state plan idStart : Option Text) : Except RecordError (List ItemRow) := do
  refuse ((state.any fun state => state ≠ "active".toList && state ≠ "all".toList &&
      !itemWorkflow.isKnownState state) = true) ⟨"VAL-PLN-006", "invalid item state filter", []⟩
  let slug ← planFilter plan
  collect (itemRow host state slug idStart) ((repository.files scan).filter fun file =>
    !file.1.isReview && (itemSearchDirs state).contains file.1.bucket)

end Audiagentic.Planning
