import Audiagentic.Planning.Markdown

/-!
# The text of a plan item

The constants of `planning.yaml` and the functions of `item_store.py` and `integrity.py` that
read and edit the body of an item: its sections, its change log and its links to reviews.
-/

namespace Audiagentic.Planning

open Foundations

/-! ## Constants -/

def itemSectionHeading : OrderedDict Text Text where
  entries := [("description".toList, "Description".toList), ("steps".toList, "Steps".toList),
    ("detailed_solution".toList, "Detailed Solution & Technical Design".toList),
    ("code_samples".toList, "Code Samples & Guidance".toList), ("files".toList, "Files".toList),
    ("validation".toList, "Validation".toList), ("effort_risk".toList, "Effort & Risk".toList),
    ("standards".toList, "Standards".toList),
    ("acceptance_criteria".toList, "Acceptance Criteria".toList), ("notes".toList, "Notes".toList)]
  nodup := by decide

def headingToField : OrderedDict Text Text where
  entries := itemSectionHeading.entries.map Prod.swap
  nodup := by decide

def reviewSections : OrderedDict Text Text where
  entries := [("notes".toList, "Notes".toList), ("findings".toList, "Findings".toList),
    ("conclusion".toList, "Conclusion".toList)]
  nodup := by decide

def frontmatterFields : List Text :=
  ["id".toList, "order".toList, "plan".toList, "state".toList, "work".toList, "skill".toList,
    "priority".toList, "created-by".toList, "created-at".toList]

def metadataKeys : List Text :=
  ["created-by".toList, "created_by".toList, "creator_id".toList, titleKey]

def changeLogHeading : Text := "## Change Log".toList

def reviewLinkHeading : Text := "## Reviews".toList

/-! ## Sections -/

def parseItemSections (host : Host) (body : Text) : OrderedDict Text Text :=
  parseSections host body headingToField

def parseItemCustomHeadings (host : Host) (body : Text) : OrderedDict Text Text :=
  parseCustomHeadings host body headingToField

def buildItemBody (host : Host) (title : Text) (sections customHeadings : OrderedDict Text Text) :
    Text :=
  buildSectionedBody host title sections itemSectionHeading customHeadings

/-! ## The change log -/

structure ChangeEntry where
  timestamp : Text
  actor : Text
  description : Text

def ChangeEntry.line (entry : ChangeEntry) : Text :=
  "- ".toList ++ entry.timestamp ++ " (".toList ++ entry.actor ++ "): ".toList ++ entry.description

def appendChangeLog (body timestamp actor description : Text) : Text :=
  let entry := ChangeEntry.line ⟨timestamp, actor, description⟩
  match Text.rfind changeLogHeading body with
  | some index =>
    let sectionText := body.drop index
    let sectionText := if ['\n'].isSuffixOf sectionText then sectionText else sectionText ++ ['\n']
    body.take index ++ sectionText ++ entry ++ ['\n']
  | none =>
    Text.rstrip body ++ "\n\n".toList ++ changeLogHeading ++ "\n\n".toList ++ entry ++ ['\n']

def afterPart (part text : Text) : Option Text :=
  if part.isPrefixOf text then some (text.drop part.length) else none

/-! ## Links to reviews -/

/-- `_HEADING_RE.match(line)`: two hashes, white space, and something after it. -/
def isHeadingLine : Text → Bool
  | '#' :: '#' :: space :: _ :: _ => Text.isSpace space
  | _ => false

/-- The line `_review_section_bounds` looks for. -/
def isReviewsLine (host : Host) (line : Text) : Bool :=
  host.lower (Text.strip line) = host.lower reviewLinkHeading

def reviewSectionBounds (host : Host) (lines : List Text) : Option (Nat × Nat) :=
  (lines.findIdx? (isReviewsLine host)).map fun index =>
    (index, index + 1 + (lines.drop (index + 1)).findIdx isHeadingLine)

/-- `_REVIEW_LINK_RE` of the item store matches the line with this review id. -/
def isLinkTo (reviewId line : Text) : Bool :=
  match Text.lstrip line with
  | bullet :: rest =>
    (bullet = '-' || bullet = '+' || bullet = '*') && (rest.head?.any Text.isSpace) &&
      decide (Text.strip rest = reviewId)
  | [] => false

def appendReviewLink (host : Host) (body reviewId : Text) : Text :=
  let lines := Text.splitlines body
  match reviewSectionBounds host lines with
  | none =>
    let gap := match lines.getLast? with
      | some last => if Text.isBlank last then [] else [[]]
      | none => []
    Text.rstrip (Text.joinLines
      (lines ++ gap ++ [reviewLinkHeading, [], "- ".toList ++ reviewId])) ++ ['\n']
  | some (start, stop) =>
    if ((lines.drop (start + 1)).take (stop - (start + 1))).any (isLinkTo reviewId) then body
    else
      -- The new link stands after the last line of the section that is not blank.
      let section_ := ((lines.drop (start + 1)).take (stop - (start + 1))).rdropWhile Text.isBlank
      let insertion := start + 1 + section_.length
      Text.rstrip (Text.joinLines
        (lines.take insertion ++ ("- ".toList ++ reviewId) :: lines.drop insertion)) ++ ['\n']

def removeReviewLink (host : Host) (body reviewId : Text) : Text :=
  let lines := Text.splitlines body
  match reviewSectionBounds host lines with
  | none => body
  | some (start, stop) =>
    let section_ := (lines.drop (start + 1)).take (stop - (start + 1))
    let filtered := section_.filter fun line => !isLinkTo reviewId line
    if filtered.length = section_.length then body
    else
      -- The section goes when its only content was the removed link.
      let kept := if filtered.all Text.isBlank then (lines.drop stop).dropWhile Text.isBlank
        else (lines.drop start).take 1 ++ filtered ++ lines.drop stop
      Text.rstrip (Text.joinLines (lines.take start ++ kept)) ++ ['\n']

/-! ## Links as the integrity index reads them -/

def lineStarts (text : Text) : List Text :=
  text :: afterNewlines text
where
  afterNewlines : Text → List Text
    | [] => []
    | char :: rest => if char = '\n' then rest :: afterNewlines rest else afterNewlines rest

/-- A letter of `Reviews`, whatever its case.  Ignoring case also equates two letters i of Turkish
and the long s. -/
def foldLetter (char : Char) : Char :=
  if char.toNat = 0x130 || char.toNat = 0x131 then 'i'
  else if char.toNat = 0x17F then 's'
  else char.toLower

/-- What follows a match of `##\s+Reviews\s*$` at the beginning of a text. -/
def afterReviewsHeading (text : Text) : Option Text := do
  let rest ← afterPart "##".toList text
  guard (rest.head?.any Text.isSpace)
  let word := Text.lstrip rest
  guard ((word.take 7).map foldLetter = "reviews".toList)
  let spaces := (word.drop 7).takeWhile Text.isSpace
  match (word.drop 7).dropWhile Text.isSpace with
  | [] => return []
  | tail =>
    -- The white space is matched up to its last line feed.
    guard ('\n' ∈ spaces)
    return '\n' :: spaces.rtakeWhile (fun char => char ≠ '\n') ++ tail

/-- `##\s+` matches at the beginning of a text. -/
def startsHeading : Text → Bool
  | '#' :: '#' :: space :: _ => Text.isSpace space
  | _ => false

/-- The longest match of `RV\d+(?![A-Za-z0-9])` at the beginning of a text. -/
def reviewIdAt (host : Host) (text : Text) : Option Text :=
  if startsRV text then
    let digits := (text.drop 2).takeWhile host.isDecimal
    (List.range digits.length).reverse.findSome? fun shorter =>
      if (text.drop (shorter + 3)).head?.any Char.isAlphanum then none
      else some (text.take (shorter + 3))
  else none

/-- The matches of `_REVIEW_LINK_RE` of the integrity index, from left to right.  `skipped` counts
the characters that belong to the last match. -/
def reviewIdsFrom (host : Host) : Nat → Option Char → Text → List Text
  | _, _, [] => []
  | skipped + 1, _, char :: rest => reviewIdsFrom host skipped (some char) rest
  | 0, before, char :: rest =>
    if before.any Char.isAlphanum then reviewIdsFrom host 0 (some char) rest
    else
      match reviewIdAt host (char :: rest) with
      | some reviewId => reviewId :: reviewIdsFrom host (reviewId.length - 1) (some char) rest
      | none => reviewIdsFrom host 0 (some char) rest

def linkedText (body : Text) : Text :=
  match (lineStarts body).findSome? afterReviewsHeading with
  | none => body
  | some remainder =>
    match (lineStarts remainder).find? startsHeading with
    | none => remainder
    | some next => remainder.take (remainder.length - next.length)

def reviewLinks (host : Host) (body : Text) : List Text :=
  (reviewIdsFrom host 0 none (linkedText body)).eraseDups

end Audiagentic.Planning
