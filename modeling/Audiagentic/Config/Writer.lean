import Audiagentic.Config.Changes
import Audiagentic.Config.Merge

/-!
# Writing settings

`writeSettingsPatch` applies a merge patch to the file of one scope.  The text editor proposes a
new text, the strict loader reads it back, and it is written only when its document compares
equal to the merged one.

The YAML parser, the schema validator and the digest are parameters, and so is the text editor,
which works on the marks of the parser.
-/

namespace Audiagentic.Config

open Foundations List

/-! ## Files -/

def byteOrderMark : Char := Char.ofNat 0xFEFF

/-- A text without one leading byte-order mark. -/
def dropMark : Text → Text
  | [] => []
  | char :: rest => if char = byteOrderMark then rest else char :: rest

/-- `raw.decode("utf-8-sig")`. -/
def decode (raw : ByteArray) : Option Text := raw.utf8Decode?.map fun chars => dropMark chars.toList

/-- `text.encode("utf-8")`. -/
def encode (text : Text) : ByteArray := (String.ofList text).toByteArray

theorem decode_encode (text : Text) : decode (encode text) = some (dropMark text) := by
  rw [decode, encode, String.toByteArray_ofList, utf8Decode?_utf8Encode]
  rfl

def newFile : Text := "schema_version: 1\n".toList

structure WriterHost where
  parse : Parser
  /-- `patch_text`; nothing where it raises. -/
  patchText : Text → Value → Json.Entries Scalar → Option Text
  sectionScopes : Text → List Text
  validate : Value → List SchemaError
  digest : ByteArray → Text

inductive WriteError where
  | scopeNotWritable
  | scopeHasNoFile
  | symbolicLink
  | sectionNotInScope (section' : Text)
  | load (error : LoadError)
  | editorFailed
  | layout
  | invalid (issues : List SchemaError)
  | changedMeanwhile
  | inputOutput
deriving DecidableEq

structure WriteResult where
  changed : Bool
  written : Bool
  keys : List Text

def writableScopes : List Text :=
  ["user".toList, "user-project".toList, "project".toList]

/-- What is known of the file of a scope before it is read. -/
structure Target where
  present : Bool
  linked : Bool

/-- `_target`. -/
def checkTarget (scope : Text) (target : Target) : Except WriteError Unit := do
  refuse (scope ∉ writableScopes) .scopeNotWritable
  refuse (target.present = false) .scopeHasNoFile
  refuse (target.linked = true) .symbolicLink

def checkSections (host : WriterHost) (scope : Text) : Json.Entries Scalar → Except WriteError Unit
  | [] => .ok ()
  | (section', _) :: rest => do
    refuse (host.sectionScopes section' ≠ [] ∧ scope ∉ host.sectionScopes section')
      (.sectionNotInScope section')
    checkSections host scope rest

def textOf (file : Option ByteArray) : Except WriteError Text :=
  match file with
  | none => .ok newFile
  | some raw =>
    match decode raw with
    | some text => .ok text
    | none => .error (.load .notUtf8)

def load (host : WriterHost) (text : Text) : Except WriteError Value :=
  (loadSettingsText host.parse text).mapError .load

/-- What a write comes to before anything is written. -/
inductive Proposal where
  | unchanged (old new : Value)
  | edit (keys : List Text) (text : Text) (candidate new : Value)

def verified (host : WriterHost) (oldText : Text) (old : Value) (patch : Json.Entries Scalar)
    (keys : List Text) : Except WriteError Proposal :=
  match host.patchText oldText old patch with
  | none => .error .editorFailed
  | some text => do
    let candidate ← load host text
    let new := old.merge (.map patch)
    refuse (equalValues candidate new = false) .layout
    refuse (host.validate (withoutNulls candidate) ≠ [])
      (.invalid (host.validate (withoutNulls candidate)))
    .ok (.edit keys text candidate new)

/-- The part of `write_settings_patch` that reads. -/
def propose (host : WriterHost) (scope : Text) (target : Target) (patch : Json.Entries Scalar)
    (file : Option ByteArray) : Except WriteError Proposal := do
  checkTarget scope target
  checkSections host scope patch
  let oldText ← textOf file
  let old ← load host oldText
  let new := old.merge (.map patch)
  let keys := changedKeys [] old new
  if keys.isEmpty then .ok (.unchanged old new)
  else verified host oldText old patch keys

/-- An input or output operation that can fail before the file is replaced. -/
inductive Fault where
  | backup
  | replace
deriving DecidableEq

/-- `write_settings_patch`: what it returns or raises, and the file after it.  `reread` is the
file when it is read again before the write. -/
def writeSettingsPatch (host : WriterHost) (scope : Text) (target : Target)
    (patch : Json.Entries Scalar) (dryRun : Bool) (file reread : Option ByteArray)
    (faults : List Fault) : Except WriteError WriteResult × Option ByteArray :=
  match propose host scope target patch file with
  | .error error => (.error error, reread)
  | .ok (.unchanged _ _) => (.ok ⟨false, false, []⟩, reread)
  | .ok (.edit keys text _ _) =>
    if dryRun then (.ok ⟨true, false, keys⟩, reread)
    else if reread.map host.digest ≠ file.map host.digest then (.error .changedMeanwhile, reread)
    else if file.isSome ∧ .backup ∈ faults then (.error .inputOutput, reread)
    else if .replace ∈ faults then (.error .inputOutput, reread)
    else (.ok ⟨true, true, keys⟩, some (encode text))

/-- `read_scope_settings`: the document of the file, with the line ends of a text file. -/
def readScopeSettings (host : WriterHost) (file : Option ByteArray) : Except LoadError Value :=
  match file with
  | none => .ok (.map [])
  | some raw =>
    match decode raw with
    | some text => loadSettingsText host.parse (Text.universalNewlines text)
    | none => .error .notUtf8

/-! ## Taking effect -/

/-- What is relied on of the YAML parser and the settings schema: line ends are all alike, a
byte-order mark at the start says nothing, and a second one would begin a key that the schema
does not have. -/
structure ParserLaws (host : WriterHost) : Prop where
  lineEnds : ∀ text, host.parse (Text.universalNewlines text) = host.parse text
  mark : ∀ text, text.head? ≠ some byteOrderMark →
    host.parse (byteOrderMark :: text) = host.parse text
  oneMark : ∀ text data,
    loadSettingsText host.parse (byteOrderMark :: byteOrderMark :: text) = .ok data →
      host.validate (withoutNulls data) ≠ []

/-- What is relied on of the text editor: it writes scalars with `json.dumps`, which the loader
reads back with their types, and keeps the text of the others.  So a scalar of the edited text is
not equal to the merged one of another type. -/
structure EditorLaws (host : WriterHost) : Prop where
  typed : ∀ text old patch edited candidate, loadSettingsText host.parse text = .ok old →
    host.patchText text old patch = some edited →
      loadSettingsText host.parse edited = .ok candidate → ∀ path scalar scalar',
        candidate.at? path = some (.scalar scalar) →
          (old.merge (.map patch)).at? path = some (.scalar scalar') →
            scalar.equal scalar' = true → scalar = scalar'

structure AcceptedFile (host : WriterHost) where
  raw : ByteArray
  text : Text
  old : Value
  decoded : decode raw = some text
  loaded : loadSettingsText host.parse text = .ok old

section Write

variable (host : WriterHost) (scope : Text) (target : Target) (patch : Json.Entries Scalar)
  (file : AcceptedFile host) (faults : List Fault)

/-- The write raises and leaves the bytes of the file, or the merged document is read back
afterwards, and no change is reported only where there is none. -/
def TakesEffect : Prop :=
  match writeSettingsPatch host scope target patch false (some file.raw) (some file.raw) faults with
  | (.error _, after) => after = some file.raw
  | (.ok result, after) =>
    (∃ data, readScopeSettings host after = .ok data ∧
      identicalValues data (file.old.merge (.map patch)) = true) ∧
    (result.changed = false → identicalValues file.old (file.old.merge (.map patch)) = true)

end Write

section Proofs

variable {host : WriterHost} {scope : Text} {target : Target} {patch : Json.Entries Scalar}
  {file : AcceptedFile host} {faults : List Fault}

theorem readScopeSettings_encode (laws : ParserLaws host) {text : Text} {candidate : Value}
    (loaded : loadSettingsText host.parse text = .ok candidate)
    (valid : host.validate (withoutNulls candidate) = []) :
    readScopeSettings host (some (encode text)) = .ok candidate := by
  have same : host.parse (dropMark text) = host.parse text := by
    match text with
    | [] => rfl
    | first :: rest =>
      by_cases marked : first = byteOrderMark
      · subst marked
        have plain : rest.head? ≠ some byteOrderMark := by
          intro again
          cases rest with
          | nil => cases again
          | cons second more =>
            rw [head?_cons] at again
            cases again
            exact laws.oneMark more candidate loaded valid
        rw [dropMark, if_pos rfl, laws.mark rest plain]
      · rw [dropMark, if_neg marked]
  rw [readScopeSettings, decode_encode]
  exact (loadSettingsText_congr ((laws.lineEnds _).trans same)).trans loaded

theorem readScopeSettings_accepted (laws : ParserLaws host) (file : AcceptedFile host) :
    readScopeSettings host (some file.raw) = .ok file.old := by
  rw [readScopeSettings, file.decoded]
  exact (loadSettingsText_congr (laws.lineEnds _)).trans file.loaded

theorem load_eq_ok {text : Text} {value : Value} :
    load host text = .ok value ↔ loadSettingsText host.parse text = .ok value := by
  rw [load]
  cases loadSettingsText host.parse text with
  | error error =>
    constructor
    all_goals
      intro impossible
      cases impossible
  | ok other =>
    constructor
    all_goals
      intro same
      cases same
      rfl

theorem propose_accepted (file : AcceptedFile host)
    (targeted : checkTarget scope target = .ok ())
    (allowed : checkSections host scope patch = .ok ()) :
    propose host scope target patch (some file.raw) =
      if (changedKeys [] file.old (file.old.merge (.map patch))).isEmpty then
        .ok (.unchanged file.old (file.old.merge (.map patch)))
      else verified host file.text file.old patch
        (changedKeys [] file.old (file.old.merge (.map patch))) := by
  have text : textOf (some file.raw) = .ok file.text := by rw [textOf, file.decoded]
  have loaded : load host file.text = .ok file.old := load_eq_ok.mpr file.loaded
  simp only [propose, targeted, allowed, text]
  show (load host file.text >>= fun old => _) = _
  rw [loaded]
  rfl

theorem verified_eq_ok {oldText : Text} {old : Value} {keys : List Text} {proposal : Proposal}
    (success : verified host oldText old patch keys = .ok proposal) :
    ∃ text candidate, host.patchText oldText old patch = some text ∧
      loadSettingsText host.parse text = .ok candidate ∧
      equalValues candidate (old.merge (.map patch)) = true ∧
      host.validate (withoutNulls candidate) = [] ∧
      proposal = .edit keys text candidate (old.merge (.map patch)) := by
  rw [verified] at success
  split at success
  · cases success
  next text edited =>
    obtain ⟨candidate, loaded, success⟩ := bind_eq_ok.mp success
    obtain ⟨same, success⟩ := refuse_bind_eq_ok.mp success
    obtain ⟨valid, success⟩ := refuse_bind_eq_ok.mp success
    cases success
    exact ⟨text, candidate, edited, load_eq_ok.mp loaded, by simpa using same, by simpa using valid,
      rfl⟩

theorem takesEffect_of_error {error : WriteError}
    (failed : propose host scope target patch (some file.raw) = .error error) :
    TakesEffect host scope target patch file faults := by
  rw [TakesEffect, writeSettingsPatch, failed]

theorem propose_not_accepted
    (refused : ¬ (checkTarget scope target = .ok () ∧ checkSections host scope patch = .ok ())) :
    ∃ error, propose host scope target patch (some file.raw) = .error error := by
  rw [propose]
  cases targeted : checkTarget scope target with
  | error error => exact ⟨error, rfl⟩
  | ok _ =>
    cases allowed : checkSections host scope patch with
    | error error => exact ⟨error, rfl⟩
    | ok _ => exact absurd ⟨targeted, allowed⟩ refused

theorem takesEffect_unchanged (laws : ParserLaws host) {new : Value}
    (proposed : propose host scope target patch (some file.raw) = .ok (.unchanged file.old new))
    (merged : new = file.old.merge (.map patch)) :
    TakesEffect host scope target patch file faults ↔ identicalValues file.old new = true := by
  subst merged
  rw [TakesEffect, writeSettingsPatch, proposed]
  constructor
  · intro effect
    exact effect.2 rfl
  · intro same
    exact ⟨⟨file.old, readScopeSettings_accepted laws file, same⟩, fun _ => same⟩

/-- A write of a verified text takes effect when the text has the merged document, or when it
fails. -/
theorem takesEffect_edit (laws : ParserLaws host) {keys : List Text} {text : Text}
    {candidate new : Value}
    (proposed : propose host scope target patch (some file.raw) =
      .ok (.edit keys text candidate new))
    (merged : new = file.old.merge (.map patch))
    (loaded : loadSettingsText host.parse text = .ok candidate)
    (valid : host.validate (withoutNulls candidate) = []) :
    TakesEffect host scope target patch file faults ↔
      (faults = [] → identicalValues candidate new = true) := by
  subst merged
  rw [TakesEffect, writeSettingsPatch, proposed]
  dsimp only
  rw [if_neg Bool.false_ne_true, if_neg (by simp)]
  cases faults with
  | nil =>
    rw [if_neg (by simp), if_neg (by simp)]
    have read := readScopeSettings_encode laws loaded valid
    constructor
    · rintro ⟨⟨data, readBack, same⟩, _⟩ _
      rw [read] at readBack
      cases readBack
      exact same
    · intro same
      exact ⟨⟨candidate, read, same rfl⟩, fun unchanged => by cases unchanged⟩
  | cons fault rest =>
    have fails : (if (some file.raw).isSome = true ∧ Fault.backup ∈ fault :: rest then
        (Except.error WriteError.inputOutput, some file.raw)
      else if Fault.replace ∈ fault :: rest then (.error .inputOutput, some file.raw)
      else (.ok ⟨true, true, keys⟩, some (encode text))) =
        ((.error .inputOutput, some file.raw) :
          Except WriteError WriteResult × Option ByteArray) := by
      cases fault with
      | backup => rw [if_pos (by simp)]
      | replace =>
        split
        · rfl
        · rw [if_pos mem_cons_self]
    rw [fails]
    simp

theorem AcceptedFile.distinct (file : AcceptedFile host) : file.old.distinct = true :=
  (isMap_and_distinct_of_loaded file.loaded).2

/-- **An edited text that is taken for the merged document is it.** -/
theorem identical_of_edited (editor : EditorLaws host) (file : AcceptedFile host) {text : Text}
    {candidate : Value} (edited : host.patchText file.text file.old patch = some text)
    (loaded : loadSettingsText host.parse text = .ok candidate)
    (same : equalValues candidate (file.old.merge (.map patch)) = true) :
    identicalValues candidate (file.old.merge (.map patch)) = true := by
  have distinct := (isMap_and_distinct_of_loaded loaded).2
  refine Json.sameBy_of_scalars distinct same fun path scalar scalar' here there equals => ?_
  have typed := editor.typed file.text file.old patch text candidate file.loaded edited loaded
  rw [typed path scalar scalar' here there equals]
  exact beq_self_eq_true _

end Proofs

/-! ## A masked null -/

/-- A settings file in which a null of one provider masks what lower scopes set. -/
def maskingText : Text := "schema_version: 1\nproviders:\n  claude: null\n".toList

/-- The same file with another provider in its place. -/
def unmaskedText : Text := "schema_version: 1\nproviders:\n  codex: 2\n".toList

/-- The events of a file with one provider. -/
def providerEvents (name value : String) : List Event :=
  let plain (text : String) : Event := .scalar text.toList true false false
  [.streamStart, .documentStart, .mappingStart false false,
    plain "schema_version", plain "1",
    plain "providers", .mappingStart false false, plain name, plain value, .mappingEnd,
    .mappingEnd, .documentEnd, .streamEnd]

def providerDocument (name : String) (value : Value) : Value :=
  .map [("schema_version".toList, .scalar (.int 1)),
    ("providers".toList, .map [(name.toList, value)])]

/-- The patch that deletes the provider. -/
def removeClaude : Json.Entries Scalar :=
  [("providers".toList, .map [("claude".toList, .null)])]

/-- The patch that sets the other one, too. -/
def replaceClaude : Json.Entries Scalar :=
  [("providers".toList, .map [("claude".toList, .null), ("codex".toList, .scalar (.int 2))])]

def twiceMarked (text : Text) : Bool :=
  match text with
  | first :: second :: _ => first == byteOrderMark && second == byteOrderMark
  | _ => false

/-- A host that tells two files apart, makes one edit and refuses a second byte-order mark. -/
def maskingHost : WriterHost where
  parse text :=
    if twiceMarked text then .error .syntaxError
    else if '2' ∈ text then .ok (providerEvents "codex" "2")
    else .ok (providerEvents "claude" "null")
  patchText _ _ patch :=
    match patch with
    | [(section', .map [(first, .null), (second, .scalar (.int 2))])] =>
      if section' = "providers".toList ∧ first = "claude".toList ∧ second = "codex".toList then
        some unmaskedText
      else none
    | _ => none
  sectionScopes _ := []
  validate _ := []
  digest _ := []

theorem universalNewlines_cons {char : Char} (other : char ≠ '\r') (rest : Text) :
    Text.universalNewlines (char :: rest) = char :: Text.universalNewlines rest := by
  rw [Text.universalNewlines, if_neg other]
  rintro _ rfl
  exact absurd rfl other

theorem head?_universalNewlines (text : Text) :
    (Text.universalNewlines text).head? = some byteOrderMark ↔
      text.head? = some byteOrderMark := by
  cases text with
  | nil => rfl
  | cons char rest =>
    by_cases carriage : char = '\r'
    · subst carriage
      have plain : '\n' ≠ byteOrderMark ∧ '\r' ≠ byteOrderMark := by decide
      cases rest with
      | nil => simp [Text.universalNewlines, plain]
      | cons next more =>
        by_cases feed : next = '\n'
        · subst feed
          simp [Text.universalNewlines, plain]
        rw [Text.universalNewlines]
        · simp [plain]
        · rintro _ _ same
          exact feed (List.cons.inj same).1
    · rw [universalNewlines_cons carriage]
      rfl

theorem twiceMarked_iff (text : Text) :
    twiceMarked text = true ↔
      ∃ rest, text = byteOrderMark :: rest ∧ rest.head? = some byteOrderMark := by
  match text with
  | [] => simp [twiceMarked]
  | [char] => simp [twiceMarked]
  | first :: second :: rest => simp [twiceMarked]

theorem twiceMarked_universalNewlines (text : Text) :
    twiceMarked (Text.universalNewlines text) = twiceMarked text := by
  rw [Bool.eq_iff_iff, twiceMarked_iff, twiceMarked_iff]
  have plain : byteOrderMark ≠ '\r' := by decide
  constructor
  · rintro ⟨rest, same, again⟩
    have first : text.head? = some byteOrderMark :=
      (head?_universalNewlines text).mp (by rw [same]; rfl)
    cases text with
    | nil => cases first
    | cons char more =>
      cases first
      rw [universalNewlines_cons plain] at same
      cases same
      exact ⟨more, rfl, (head?_universalNewlines more).mp again⟩
  · rintro ⟨rest, rfl, again⟩
    exact ⟨_, universalNewlines_cons plain rest, (head?_universalNewlines rest).mpr again⟩

theorem mem_universalNewlines {char : Char} (other : char ≠ '\r') (feed : char ≠ '\n')
    (text : Text) : char ∈ Text.universalNewlines text ↔ char ∈ text := by
  induction text using Text.universalNewlines.induct with
  | case1 => rfl
  | case2 rest ih => simp [Text.universalNewlines, other, feed, ih]
  | case3 first rest lone ih =>
    rw [Text.universalNewlines, mem_cons, mem_cons, ih]
    · split
      next carriage => simp [carriage, other, feed]
      · rfl
    · exact lone

theorem parserLaws_maskingHost : ParserLaws maskingHost where
  lineEnds text := by
    have digit := @mem_universalNewlines '2' (by decide) (by decide) text
    simp only [maskingHost, twiceMarked_universalNewlines, digit]
  mark text plain := by
    have once : twiceMarked (byteOrderMark :: text) = false := by
      rw [Bool.eq_false_iff, Ne, twiceMarked_iff]
      rintro ⟨rest, same, again⟩
      cases same
      exact plain again
    have never : twiceMarked text = false := by
      rw [Bool.eq_false_iff, Ne, twiceMarked_iff]
      rintro ⟨rest, rfl, _⟩
      exact plain rfl
    have digit : '2' ∈ byteOrderMark :: text ↔ '2' ∈ text := by
      rw [mem_cons, or_iff_right (by decide)]
    simp only [maskingHost, once, never, digit]
  oneMark text data loaded := by
    have twice : twiceMarked (byteOrderMark :: byteOrderMark :: text) = true :=
      (twiceMarked_iff _).mpr ⟨_, rfl, rfl⟩
    have refused : maskingHost.parse (byteOrderMark :: byteOrderMark :: text) =
        .error .syntaxError := by
      simp only [maskingHost, twice, if_true]
    obtain ⟨events, parsed, _⟩ := bind_eq_ok.mp loaded
    rw [refused] at parsed
    cases parsed

theorem loaded_maskingHost {text : Text} {data : Value}
    (loaded : loadSettingsText maskingHost.parse text = .ok data) :
    data = providerDocument "codex" (.scalar (.int 2)) ∨
    data = providerDocument "claude" .null := by
  obtain ⟨events, parsed, built⟩ := bind_eq_ok.mp loaded
  simp only [maskingHost] at parsed
  split at parsed
  · cases parsed
  · split at parsed <;> cases parsed <;> cases built
    · exact .inl rfl
    · exact .inr rfl

theorem editorLaws_maskingHost : EditorLaws maskingHost where
  typed text old patch edited candidate loaded patched reloaded path scalar scalar' here there
    _ := by
    simp only [maskingHost] at patched
    split at patched
    · split at patched
      next named =>
        obtain ⟨rfl, rfl, rfl⟩ := named
        cases patched
        cases reloaded
        have merged : old.merge (.map replaceClaude) =
            providerDocument "codex" (.scalar (.int 2)) := by
          rcases loaded_maskingHost loaded with rfl | rfl <;> rfl
        have same := here.symm.trans (merged ▸ there)
        cases same
        rfl
      · cases patched
    · cases patched

def maskingFile : AcceptedFile maskingHost where
  raw := encode maskingText
  text := maskingText
  old := providerDocument "claude" .null
  decoded := decode_encode maskingText
  loaded := rfl

end Audiagentic.Config
