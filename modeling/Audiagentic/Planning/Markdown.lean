import Audiagentic.Foundations.OrderedDicts
import Audiagentic.Planning.Identity

/-!
# Sectioned Markdown documents

`foundation/workflow/frontmatter.py`: the body of a document is read into a dictionary of
sections and rendered back from one.  Every write of a planning record goes through the two.

The Markdown parser is a third-party package.  What the code takes from it are the level-2
headings, each with its text and its line, and these are a parameter.  So are YAML, the Unicode
case tables, the representation of strings and the length of file names.

`yaml.dump` writes more values than `yaml.safe_load` reads: a tuple makes a file that nobody can
parse.  That a plain value comes back as it was is a law of the host.
-/

namespace Audiagentic.Planning

open Foundations

/-- A character of printable ASCII. -/
def isPrintable (char : Char) : Bool := 0x20 ≤ char.toNat && char.toNat ≤ 0x7e

/-- What the code calls outside the repository. -/
structure Host where
  /-- The level-2 headings that `MarkdownIt().parse` reads, with their lines. -/
  headings : Text → List (Text × Nat)
  /-- `str.lower`. -/
  lower : Text → Text
  /-- `str.upper`. -/
  upper : Text → Text
  /-- `str.capitalize`. -/
  capitalize : Text → Text
  /-- `\d` of a regular expression. -/
  isDecimal : Char → Bool
  /-- `repr` of a string. -/
  represent : Text → Text
  oneLine : ∀ text, ∀ char ∈ represent text, Text.isLineBreak char = false
  /-- `yaml.dump` writes the frontmatter. -/
  dumps : OrderedDict Text Value → Bool
  /-- What `yaml.safe_load` makes of what `yaml.dump` wrote, unless it raises. -/
  reload : OrderedDict Text Value → Option (OrderedDict Text Value)
  /-- A value that YAML gives back as it was. -/
  plain : Value → Bool
  plain_ascii : ∀ text, text.all isPrintable = true → plain (.text text) = true
  plain_zero : plain .zero = true
  round_trip : ∀ frontmatter,
    (∀ key value, frontmatter.get? key = some value → plain value = true) →
    dumps frontmatter = true ∧ reload frontmatter = some frontmatter
  /-- A plain value comes back also from among others. -/
  keeps : ∀ {frontmatter read}, reload frontmatter = some read → ∀ key,
    (∀ value, frontmatter.get? key = some value → plain value = true) →
      read.get? key = frontmatter.get? key
  /-- The longest name of a file. -/
  nameMax : Nat
  roomy : 17 ≤ nameMax

namespace Value

/-- `repr(value)`. -/
def represented (host : Host) : Value → Text
  | none => "None".toList
  | text content => host.represent content
  | other value => value.represented

end Value

/-! ## Headings -/

def parseTitle : Text → Option Text
  | '#' :: ' ' :: rest =>
    let line := rest.takeWhile fun char => char ≠ '\n'
    if line.isEmpty then none else some (Text.strip line)
  | _ => none

def underscoreRuns : Text → Text
  | [] => []
  | char :: rest =>
    if isSlugChar char then char :: underscoreRuns rest
    else
      match underscoreRuns rest with
      | '_' :: tail => '_' :: tail
      | tail => '_' :: tail

def slugifyHeading (host : Host) (heading : Text) : Text :=
  ((underscoreRuns (host.lower (Text.strip heading))).dropWhile fun char => char = '_').rdropWhile
    fun char => char = '_'

def reconstructHeading (host : Host) (key : Text) : Text :=
  let words := (key.map fun char => if char = '_' then ' ' else char).splitOnP Text.isSpace
  List.intercalate [' '] ((words.filter fun word => !word.isEmpty).map host.capitalize)

/-! ## Reading -/

def sectionContent (lines : List Text) (first : Nat) (stop : Option Nat) : Text :=
  let rest := lines.drop first
  Text.strip (Text.joinLines (match stop with
    | none => rest
    | some line => rest.take (line - first)))

def headingField (host : Host) (headingToField : OrderedDict Text Text) (heading : Text) : Text :=
  (headingToField.get? heading).getD (slugifyHeading host heading)

/-- The sections of a body from its headings: each ends where the next begins. -/
def sectionEntries (host : Host) (headingToField : OrderedDict Text Text) (lines : List Text) :
    List (Text × Nat) → List (Text × Text)
  | [] => []
  | (heading, line) :: rest =>
    (headingField host headingToField heading,
      sectionContent lines (line + 1) (rest.head?.map Prod.snd)) ::
      sectionEntries host headingToField lines rest

def titleKey : Text := "title".toList

/-- What `parse_sections` starts from. -/
def titleEntry (body : Text) : OrderedDict Text Text :=
  match parseTitle body with
  | some title => OrderedDict.set ∅ titleKey title
  | none => ∅

def parseSections (host : Host) (body : Text) (headingToField : OrderedDict Text Text) :
    OrderedDict Text Text :=
  (sectionEntries host headingToField (Text.lines body) (host.headings body)).foldl
    (fun result entry => result.set entry.1 entry.2) (titleEntry body)

def parseCustomHeadings (host : Host) (body : Text) (headingToField : OrderedDict Text Text) :
    OrderedDict Text Text :=
  (host.headings body).foldl
    (fun result heading =>
      if headingToField.has heading.1 then result
      else result.set (slugifyHeading host heading.1) heading.1) ∅

/-! ## Rendering -/

/-- One `## Heading` section. -/
def renderSection (heading content : Text) : Text :=
  "\n## ".toList ++ heading ++ "\n\n".toList ++ content

def customHeading (host : Host) (customHeadings : OrderedDict Text Text) (key : Text) : Text :=
  match customHeadings.get? key with
  | some [] | none => reconstructHeading host key
  | some heading => heading

/-- A section that is rendered after the known ones. -/
def isCustom (fieldToHeading : OrderedDict Text Text) (section_ : Text × Text) : Bool :=
  section_.1 ≠ titleKey && !fieldToHeading.has section_.1 && !Text.isBlank section_.2

def buildSectionedBody (host : Host) (title : Text) (sections : OrderedDict Text Text)
    (fieldToHeading customHeadings : OrderedDict Text Text) : Text :=
  let known := fieldToHeading.entries.map fun entry =>
    renderSection entry.2 ((sections.get? entry.1).getD [])
  let custom := (sections.entries.filter (isCustom fieldToHeading)).map fun entry =>
    renderSection (customHeading host customHeadings entry.1) entry.2
  Text.joinLines (("# ".toList ++ title) :: (known ++ custom)) ++ ['\n']

end Audiagentic.Planning
