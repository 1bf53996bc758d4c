import Mathlib
import Audiagentic.Planning.RepositoryRuns

/-!
# When a planning repository stays canonical

An id that `create_item` derives begins with the first two letters of the plan's slug.  For a
slug that begins with `rv` they are the letters of a review id.  The lookup then searches the
reviews for it, finds none, and an item `RV01` is written that no check accepts.

A value that YAML writes and does not read again, such as a tuple, makes a file on which every
listing raises.
-/

namespace Audiagentic.Planning

open Foundations List OrderedDict

variable {host : Host} {scan : Scan} {repository : Repository}

/-! ## Canonical repositories -/

/-- **The canonical repository**: every record can be read and passes `validate_record_path`, no id
is held by two files, and listing raises nothing that it does not also raise for an empty
repository. -/
structure CanonicalRepository (host : Host) (repository : Repository) : Prop where
  valid : ∀ {path document}, repository.get? path = some document →
    document.readable = true ∧ validateRecordPath path document.frontmatter = .ok ⟨⟩
  unique : ∀ {path other document document'}, repository.get? path = some document →
    repository.get? other = some document' → path.stem = other.stem → path = other
  listsItems : ∀ {scan state plan idStart error},
    listItems host scan repository state plan idStart = .error error →
      listItems host scan ∅ state plan idStart = .error error
  listsReviews : ∀ {scan state plan reviewOf idStart error},
    listReviews host scan repository state plan reviewOf idStart = .error error →
      listReviews host scan ∅ state plan reviewOf idStart = .error error

/-- YAML gives back every value. -/
def AllPlain (host : Host) (frontmatter : Frontmatter) : Prop :=
  ∀ key value, frontmatter.get? key = some value → host.plain value = true

structure ProperRecord (host : Host) (path : RecordPath) (document : Document) : Prop where
  named : path.misnamed = false
  readable : document.readable = true
  plain : AllPlain host document.frontmatter

structure ProperRecords (host : Host) (repository : Repository) : Prop where
  proper : ∀ {path document}, repository.get? path = some document →
    ProperRecord host path document

theorem collect_ne_error {ε ι α : Type} {visit : ι → Except ε (Option α)} {items : List ι}
    {error : ε} (each : ∀ item ∈ items, ∃ found, visit item = .ok found) :
    collect visit items ≠ .error error := by
  obtain ⟨values, success⟩ := exists_collect each
  rw [success]
  exact nofun

variable {state idStart : Option Text}

theorem itemRow_ok {slug : Option Text} {file : RecordPath × Document}
    (valid : file.2.readable = true ∧ validateRecordPath file.1 file.2.frontmatter = .ok ⟨⟩) :
    ∃ found, itemRow host state slug idStart file = .ok found := by
  rw [itemRow, valid.1]
  split
  · exact ⟨none, rfl⟩
  rw [if_neg (by decide)]
  split
  · exact ⟨none, rfl⟩
  simp only [valid.2, bind, Except.bind]
  split
  · exact ⟨_, rfl⟩
  · exact ⟨none, rfl⟩

theorem reviewRow_ok {slug parent : Option Text} {file : RecordPath × Document}
    (valid : file.2.readable = true ∧ validateRecordPath file.1 file.2.frontmatter = .ok ⟨⟩) :
    ∃ found, reviewRow host state slug parent idStart file = .ok found := by
  rw [reviewRow, valid.1]
  split
  · exact ⟨none, rfl⟩
  rw [if_neg (by decide)]
  split
  · exact ⟨none, rfl⟩
  simp only [valid.2, bind, Except.bind]
  split
  · exact ⟨_, rfl⟩
  · exact ⟨none, rfl⟩

theorem listItems_error {plan : Option Text} {error : RecordError}
    (valid : ∀ {path document}, repository.get? path = some document →
      document.readable = true ∧ validateRecordPath path document.frontmatter = .ok ⟨⟩)
    (failed : listItems host scan repository state plan idStart = .error error) :
    listItems host scan ∅ state plan idStart = .error error := by
  unfold listItems at failed ⊢
  rcases bind_eq_error.mp failed with refused | ⟨_, passed, failed⟩
  · exact bind_eq_error.mpr (Or.inl refused)
  refine bind_eq_error.mpr (Or.inr ⟨_, passed, ?_⟩)
  rcases bind_eq_error.mp failed with refused | ⟨slug, filtered, failed⟩
  · exact bind_eq_error.mpr (Or.inl refused)
  · refine absurd failed (collect_ne_error ?_)
    intro file member
    exact itemRow_ok (valid (mem_files.mp (mem_filter.mp member).1))

theorem listReviews_error {plan reviewOf : Option Text} {error : RecordError}
    (valid : ∀ {path document}, repository.get? path = some document →
      document.readable = true ∧ validateRecordPath path document.frontmatter = .ok ⟨⟩)
    (failed : listReviews host scan repository state plan reviewOf idStart = .error error) :
    listReviews host scan ∅ state plan reviewOf idStart = .error error := by
  unfold listReviews at failed ⊢
  rcases bind_eq_error.mp failed with refused | ⟨_, passed, failed⟩
  · exact bind_eq_error.mpr (Or.inl refused)
  refine bind_eq_error.mpr (Or.inr ⟨_, passed, ?_⟩)
  rcases bind_eq_error.mp failed with refused | ⟨slug, filtered, failed⟩
  · exact bind_eq_error.mpr (Or.inl refused)
  rcases bind_eq_error.mp failed with refused | ⟨parent, given, failed⟩
  · exact bind_eq_error.mpr (Or.inr ⟨slug, filtered, bind_eq_error.mpr (Or.inl refused)⟩)
  · refine absurd failed (collect_ne_error ?_)
    intro file member
    exact reviewRow_ok (valid (mem_files.mp (mem_filter.mp member).1))

/-- **Proper records are canonical** where they are placed. -/
theorem ProperRecords.canonical (records : ProperRecords host repository)
    (placed : Placed repository) : CanonicalRepository host repository := by
  have valid : ∀ {path document}, repository.get? path = some document →
      document.readable = true ∧ validateRecordPath path document.frontmatter = .ok ⟨⟩ :=
    fun here => ⟨(records.proper here).readable,
      (placed.fits here).validateRecordPath_eq (records.proper here).named⟩
  refine ⟨valid, ?_, listItems_error valid, listReviews_error valid⟩
  intro path other document document' here there stem
  have kind : ∀ {path document}, repository.get? path = some document →
      path.isReview = startsRV path.stem := by
    intro path document here
    have plain := (records.proper here).named
    cases isReview : path.isReview with
    | true => exact ((placed.fits here).stem_startsRV isReview).symm
    | false =>
      rw [RecordPath.misnamed, isReview] at plain
      simpa using plain.symm
  exact placed.distinct here there (by rw [kind here, kind there, stem]) stem
    (records.proper here).named

/-! ## Letters and digits of an id -/

variable {char : Char}

theorem isAlpha_of_isDigit (digit : char.isDigit = true) : char.isAlpha = false := by
  simp only [Char.isDigit, Char.isAlpha, Char.isUpper, Char.isLower, Bool.and_eq_true,
    decide_eq_true_eq, Bool.or_eq_false_iff, Bool.and_eq_false_iff,
    decide_eq_false_iff_not] at digit ⊢
  grind

theorem isAlpha_of_isUpper (upper : char.isUpper = true) : char.isAlpha = true := by
  rw [Char.isAlpha, upper, Bool.true_or]

theorem exists_letters {stem : Text} (isItem : isItemId stem = true) :
    ∃ letters digits, stem = letters ++ digits ∧ letters ≠ [] ∧ idLetters stem = some letters := by
  have split : splitId stem ≠ none := by
    intro none
    rw [isItemId, none] at isItem
    cases isItem
  have parts : stem.takeWhile Char.isUpper ++ stem.dropWhile Char.isUpper = stem :=
    takeWhile_append_dropWhile
  have capitals : ∀ char ∈ stem.takeWhile Char.isUpper, char.isUpper = true :=
    fun char member => mem_takeWhile_imp member
  unfold splitId at split
  generalize stem.takeWhile Char.isUpper = letters at split parts capitals
  generalize stem.dropWhile Char.isUpper = digits at split parts
  have shape : letters.isEmpty = false ∧ digits.isEmpty = false ∧
      digits.all Char.isDigit = true := by
    by_contra other
    refine split (if_neg ?_)
    simpa [and_assoc] using other
  obtain ⟨someLetters, someDigits, allDigits⟩ := shape
  have alpha : ∀ char ∈ letters, char.isAlpha = true :=
    fun char member => isAlpha_of_isUpper (capitals char member)
  cases digits with
  | nil => cases someDigits
  | cons digit rest =>
    have notAlpha : digit.isAlpha = false :=
      isAlpha_of_isDigit (List.all_eq_true.mp allDigits digit mem_cons_self)
    have taken : stem.takeWhile Char.isAlpha = letters := by
      rw [← parts, takeWhile_append_of_pos alpha, takeWhile_cons_of_neg (by simp [notAlpha]),
        append_nil]
    have dropped : stem.dropWhile Char.isAlpha = digit :: rest := by
      rw [← parts, dropWhile_append_of_pos alpha, dropWhile_cons_of_neg (by simp [notAlpha])]
    have upper : letters.map Char.toUpper = letters := by
      refine (map_congr_left fun char member => ?_).trans (List.map_id letters)
      exact Char.toUpper_eq_of_not_isLower (Char.not_isLower_of_isUpper (capitals char member))
    refine ⟨letters, digit :: rest, parts.symm, by simpa using someLetters, ?_⟩
    simp only [idLetters, taken, dropped, someLetters, allDigits, upper]
    rfl

theorem isItemId_append {letters digits : Text} (some' : letters ≠ [])
    (upper : ∀ char ∈ letters, char.isUpper = true) (number : digits ≠ [])
    (digit : ∀ char ∈ digits, char.isDigit = true) : isItemId (letters ++ digits) = true := by
  obtain ⟨first, rest, rfl⟩ := exists_cons_of_ne_nil number
  have notUpper : ¬ first.isUpper = true := by
    intro capital
    have alpha := isAlpha_of_isUpper capital
    rw [isAlpha_of_isDigit (digit first mem_cons_self)] at alpha
    cases alpha
  have allDigits : (first :: rest).all Char.isDigit = true := List.all_eq_true.mpr digit
  rw [isItemId, splitId, takeWhile_append_of_pos upper, takeWhile_cons_of_neg notUpper,
    dropWhile_append_of_pos upper, dropWhile_cons_of_neg notUpper, allDigits]
  simp [some']

variable {slug : Text}

section

variable (isSlug : isPlanSlug slug = true)
include isSlug

theorem isUpper_of_mem_slug (member : char ∈ slug) :
    char.isUpper = false := by
  rcases isSlugChar_of_mem isSlug member with rfl | slugChar
  · rfl
  · simp only [isSlugChar, Char.isLower, Char.isDigit, Char.isUpper, Bool.or_eq_true,
      Bool.and_eq_true, decide_eq_true_eq, decide_eq_false_iff_not] at slugChar ⊢
    grind

theorem guessedPrefix_eq :
    guessedPrefix slug = (slug.take 2).map Char.toUpper := by
  have none : (slug.take 2).filter Char.isUpper = [] := by
    rw [filter_eq_nil_iff]
    intro char member
    rw [isUpper_of_mem_slug isSlug (mem_of_mem_take member)]
    exact Bool.false_ne_true
  rw [guessedPrefix, none]
  rfl

/-- The guess for a slug begins like a review id when the slug does, in small letters. -/
theorem startsRV_guessedPrefix :
    startsRV (guessedPrefix slug) = true ↔ ['r', 'v'] <+: slug := by
  rw [guessedPrefix_eq isSlug]
  match slug with
  | [] => simp [startsRV, reviewLetters]
  | [only] => simp [startsRV, reviewLetters]
  | first :: second :: rest =>
    have small : ∀ {char letter other : Char}, char ∈ first :: second :: rest →
        letter.toLower = other → other.toUpper = letter →
        (char.toUpper = letter ↔ char = other) := by
      intro char letter other member lower upper
      constructor
      · intro same
        rw [← lower, ← same, Char.toLower_toUpper_eq_toLower,
          Char.toLower_eq_of_not_isUpper (by simp [isUpper_of_mem_slug isSlug member])]
      · rintro rfl
        exact upper
    have firstLetter : first.toUpper = 'R' ↔ first = 'r' := small (by simp) rfl rfl
    have secondLetter : second.toUpper = 'V' ↔ second = 'v' := small (by simp) rfl rfl
    simp only [startsRV, reviewLetters, take_succ_cons, take_zero, map_cons,
      map_nil, isPrefixOf_cons_cons, isPrefixOf_nil_left, Bool.and_true,
      Bool.and_eq_true, beq_iff_eq, cons_prefix_cons, nil_prefix, and_true]
    rw [eq_comm, firstLetter, eq_comm (a := 'V'), secondLetter, eq_comm, eq_comm (a := second)]

end

variable {letters : Text}

/-- A prefix before digits begins like a review id only if it does so itself. -/
theorem startsRV_of_append {digits : Text} (digit : digits.head?.any Char.isDigit = true)
    (starts : startsRV (letters ++ digits) = true) (some : letters ≠ []) :
    startsRV letters = true := by
  match letters with
  | [] => exact absurd rfl some
  | [first] =>
    cases digits with
    | nil => cases digit
    | cons second rest =>
      have isV : second = 'V' := by
        simp only [startsRV, reviewLetters, cons_append, nil_append,
          isPrefixOf_cons_cons, Bool.and_eq_true, beq_iff_eq] at starts
        exact starts.2.1.symm
      subst isV
      cases digit
  | first :: second :: rest =>
    simpa [startsRV, reviewLetters] using starts

theorem head_twoDigits (number : Nat) : (twoDigits number).head?.any Char.isDigit = true := by
  rw [twoDigits]
  split
  · rfl
  cases digits : Nat.toDigits 10 number with
  | nil => exact absurd digits Nat.toDigits_ne_nil
  | cons digit rest =>
    have member : digit ∈ Nat.toDigits 10 number := by rw [digits]; exact mem_cons_self
    simpa using Nat.isDigit_of_mem_toDigits (by decide) (by decide) member

/-! ## The prefix of a plan -/

variable {bucket : Bucket} {plan : Text}

theorem mem_itemStems {stem : Text} :
    stem ∈ itemStems scan repository bucket plan ↔
      ∃ document, repository.get? (.item bucket plan stem) = some document := by
  rw [itemStems, mem_filterMap]
  constructor
  · rintro ⟨⟨path, document⟩, listed, found⟩
    cases path with
    | review tree directory parent id => cases found
    | item tree directory id =>
      obtain ⟨⟨rfl, rfl⟩, rfl⟩ : (tree = bucket ∧ directory = plan) ∧ id = stem := by
        simpa using found
      exact ⟨document, mem_files.mp listed⟩
  · rintro ⟨document, here⟩
    exact ⟨(.item bucket plan stem, document), mem_files.mpr here, by simp⟩

theorem mem_keys_countPrefixes {stems : List Text} :
    letters ∈ (countPrefixes stems).keys ↔ letters ∈ stems.filterMap idLetters := by
  rw [countPrefixes]
  generalize stems.filterMap idLetters = found
  have counted : ∀ counts : OrderedDict Text Nat, letters ∈ (found.foldl
      (fun counts letters => counts.set letters ((counts.get? letters).getD 0 + 1)) counts).keys ↔
        letters ∈ counts.keys ∨ letters ∈ found := by
    induction found with
    | nil => simp
    | cons first rest ih =>
      intro counts
      rw [foldl_cons, ih]
      have written : letters ∈ (counts.set first ((counts.get? first).getD 0 + 1)).keys ↔
          letters ∈ counts.keys ∨ letters = first := by
        rw [OrderedDict.keys, OrderedDict.set, keys_setEntries]
        split
        next present =>
          constructor
          · exact Or.inl
          · rintro (member | rfl)
            · exact member
            · exact present
        · exact mem_append.trans (or_congr_right mem_singleton)
      rw [written, mem_cons, or_assoc]
  rw [counted]
  exact ⟨fun member => member.resolve_left not_mem_nil, Or.inr⟩

/-- A fold that keeps what it has or takes the next entry ends with one of them. -/
theorem chosen_mem {step : Option (Text × Nat) → Text × Nat → Option (Text × Nat)}
    (choice : ∀ best entry, step best entry = some entry ∨ step best entry = best)
    {counts : List (Text × Nat)} {start : Option (Text × Nat)} {entry : Text × Nat}
    (chosen : counts.foldl step start = some entry) : start = some entry ∨ entry ∈ counts := by
  induction counts generalizing start with
  | nil => exact .inl chosen
  | cons first rest ih =>
    rcases ih chosen with here | later
    · rcases choice start first with taken | kept
      · rw [taken] at here
        cases here
        exact .inr mem_cons_self
      · exact .inl (kept.symm.trans here)
    · exact .inr (mem_cons_of_mem _ later)

theorem mostFrequent_mem {counts : List (Text × Nat)} {entry : Text × Nat}
    (chosen : mostFrequent counts = some entry) : entry ∈ counts := by
  refine (chosen_mem (fun best other => ?_) chosen).resolve_left (Option.some_ne_none entry).symm
  cases best with
  | none => exact .inl rfl
  | some best =>
    dsimp only
    split
    · exact .inl rfl
    · exact .inr rfl

theorem mostFrequent_eq_none {counts : List (Text × Nat)} (none : mostFrequent counts = .none) :
    counts = [] := by
  rcases eq_nil_or_concat' counts with rfl | ⟨before, last, rfl⟩
  · rfl
  rw [mostFrequent, foldl_append, foldl_cons, foldl_nil] at none
  split at none
  · cases none
  · split at none
    · cases none
    · cases none

theorem isItemId_stem (placed : Placed repository) {bucket : Bucket} {plan stem : Text}
    {document : Document} (here : repository.get? (.item bucket plan stem) = some document) :
    isItemId stem = true := by
  rcases (placed.fits here).named.2 with review | ⟨isItem, _⟩
  · simp only [isReviewId, startsRV, Bool.and_eq_true, Bool.not_eq_true',
      isEmpty_eq_false_iff, isPrefixOf_iff_prefix, List.all_eq_true] at review
    obtain ⟨⟨⟨digits, rfl⟩, some'⟩, digit⟩ := review
    exact isItemId_append (by decide) (List.all_eq_true.mp rfl) some' digit
  · exact isItem

theorem of_dirItemPrefix (found : dirItemPrefix scan repository bucket plan = some letters) :
    ∃ stem document, repository.get? (.item bucket plan stem) = some document ∧
      idLetters stem = some letters := by
  obtain ⟨entry, chosen, rfl⟩ := Option.map_eq_some_iff.mp found
  have counted : entry.1 ∈ (countPrefixes (itemStems scan repository bucket plan)).keys :=
    List.mem_map_of_mem (mostFrequent_mem chosen)
  obtain ⟨stem, member, same⟩ := mem_filterMap.mp (mem_keys_countPrefixes.mp counted)
  obtain ⟨document, here⟩ := mem_itemStems.mp member
  exact ⟨stem, document, here, same⟩

/-- Where items are properly named, a prefix in use does not begin like a review id. -/
theorem startsRV_of_dirItemPrefix (placed : Placed repository)
    (records : ProperRecords host repository) (found : dirItemPrefix scan repository bucket plan =
      some letters) :
    letters ≠ [] ∧ startsRV letters = false := by
  obtain ⟨stem, document, here, same⟩ := of_dirItemPrefix found
  have plain : startsRV stem = false := (records.proper here).named
  obtain ⟨parts, digits, split, nonempty, isLetters⟩ :=
    exists_letters (isItemId_stem placed here)
  rw [same] at isLetters
  cases isLetters
  constructor
  · exact nonempty
  by_contra starts
  have begins : startsRV (letters ++ digits) = true := by
    have isPre : reviewLetters.isPrefixOf letters = true := by simpa [startsRV] using starts
    rw [startsRV, isPrefixOf_iff_prefix] at *
    exact isPre.trans (prefix_append _ _)
  rw [split, begins] at plain
  cases plain

theorem of_dirItemPrefix_none {stem : Text} {document : Document}
    (missing : dirItemPrefix scan repository bucket plan = none)
    (here : repository.get? (.item bucket plan stem) = some document) : idLetters stem = none := by
  have empty : (countPrefixes (itemStems scan repository bucket plan)).entries = [] :=
    mostFrequent_eq_none (Option.map_eq_none_iff.mp missing)
  cases letters : idLetters stem with
  | none => rfl
  | some found =>
    have counted : found ∈ (countPrefixes (itemStems scan repository bucket plan)).keys :=
      mem_keys_countPrefixes.mpr
        (mem_filterMap.mpr ⟨stem, mem_itemStems.mpr ⟨document, here⟩, letters⟩)
    rw [OrderedDict.keys, empty] at counted
    cases counted

/-! ## Deriving an id -/

/-- The first id of a plan whose slug begins with `rv`. -/
def firstReviewId : Text := "RV01".toList

def hasNoItem (repository : Repository) (slug : Text) : Bool :=
  repository.keys.all fun path => path.isReview || path.plan ≠ slug

theorem hasNoItem_iff :
    hasNoItem repository slug = true ↔
      ∀ {bucket stem document}, repository.get? (.item bucket slug stem) ≠ some document := by
  rw [hasNoItem, List.all_eq_true]
  constructor
  · intro none bucket stem document here
    have listed : RecordPath.item bucket slug stem ∈ repository.keys :=
      OrderedDict.mem_keys_iff.mpr ⟨document, here⟩
    simpa [RecordPath.isReview, RecordPath.plan] using none _ listed
  · intro none path listed
    obtain ⟨document, here⟩ := OrderedDict.mem_keys_iff.mp listed
    cases path with
    | review bucket plan parent id => rfl
    | item bucket plan stem =>
      by_cases same : plan = slug
      · subst same
        exact absurd here none
      · simp [RecordPath.isReview, RecordPath.plan, same]

theorem itemStems_of_hasNoItem (none : hasNoItem repository slug = true) :
    itemStems scan repository bucket slug = [] := by
  rw [eq_nil_iff_forall_not_mem]
  intro stem member
  obtain ⟨document, here⟩ := mem_itemStems.mp member
  exact hasNoItem_iff.mp none here

/-- Every item would give its plan a prefix. -/
theorem hasNoItem_of_none (placed : Placed repository)
    (active : dirItemPrefix scan repository .active slug = none)
    (completed : dirItemPrefix scan repository .completed slug = none) :
    hasNoItem repository slug = true := by
  rw [hasNoItem_iff]
  intro bucket stem document here
  obtain ⟨letters, _, _, _, isLetters⟩ := exists_letters (isItemId_stem placed here)
  have missing : idLetters stem = none := by
    cases bucket with
    | active => exact of_dirItemPrefix_none active here
    | completed => exact of_dirItemPrefix_none completed here
  rw [missing] at isLetters
  cases isLetters

/-- **A derived id begins like a review id** only for the first item of a plan whose slug begins
with `rv`, and it is `RV01` then. -/
theorem of_nextItemId (placed : Placed repository) (records : ProperRecords host repository)
    {itemId : Text} (isSlug : isPlanSlug slug = true)
    (numbered : nextItemId scan repository slug = .ok itemId) (starts : startsRV itemId = true) :
    ['r', 'v'] <+: slug ∧ hasNoItem repository slug = true ∧ itemId = firstReviewId := by
  obtain ⟨letters, chosen, numbered⟩ := bind_eq_ok.mp numbered
  cases numbered
  rw [planPrefix] at chosen
  have used : ∀ {bucket letters}, dirItemPrefix scan repository bucket slug = some letters →
      ∀ number, startsRV (letters ++ twoDigits number) = false := by
    intro bucket letters found number
    obtain ⟨nonempty, plain⟩ := startsRV_of_dirItemPrefix placed records found
    by_contra begins
    rw [startsRV_of_append (head_twoDigits number) (by simpa using begins) nonempty] at plain
    cases plain
  cases active : dirItemPrefix scan repository .active slug with
  | some found =>
    rw [active] at chosen
    cases chosen
    rw [used active] at starts
    cases starts
  | none =>
    cases completed : dirItemPrefix scan repository .completed slug with
    | some found =>
      rw [active, completed] at chosen
      cases chosen
      rw [used completed] at starts
      cases starts
    | none =>
      rw [active, completed] at chosen
      obtain ⟨_, _, chosen⟩ := bind_eq_ok.mp chosen
      cases chosen
      have none := hasNoItem_of_none placed active completed
      rw [itemStems_of_hasNoItem none, itemStems_of_hasNoItem none] at starts ⊢
      have begins : ['r', 'v'] <+: slug := by
        rw [← startsRV_guessedPrefix isSlug]
        refine startsRV_of_append (head_twoDigits _) starts ?_
        intro empty
        rw [empty] at starts
        cases starts
      refine ⟨begins, none, ?_⟩
      obtain ⟨rest, rfl⟩ := begins
      have two : twoDigits 1 = ['0', '1'] := by decide
      rw [guessedPrefix_eq isSlug]
      change ['R', 'V'] ++ twoDigits 1 = firstReviewId
      rw [two]
      rfl

/-- What `create_item` needs to derive a review id. -/
def derivesReviewId (repository : Repository) (call : Call) : Bool :=
  match call.operation with
  | .createItem item =>
    match item.value idKey, item.value planKey with
    | .none, .text slug =>
      (item.value titleKey).truth && isPlanSlug slug && ['r', 'v'].isPrefixOf slug &&
        hasNoItem repository slug &&
        repository.keys.all fun path => !path.isReview || path.stem ≠ firstReviewId
    | _, _ => false
  | _ => false

theorem hasNoFirstReview_iff :
    (repository.keys.all fun path => !path.isReview || path.stem ≠ firstReviewId) = true ↔
      ∀ path, ¬ repository.Bears firstReviewId path := by
  rw [List.all_eq_true]
  constructor
  · rintro none path ⟨⟨document, here⟩, kind, stem⟩
    have listed := none path (OrderedDict.mem_keys_iff.mpr ⟨document, here⟩)
    rw [kind, stem] at listed
    revert listed
    decide
  · intro none path listed
    obtain ⟨document, here⟩ := OrderedDict.mem_keys_iff.mp listed
    cases kind : path.isReview with
    | false => rfl
    | true =>
      have different : path.stem ≠ firstReviewId := fun stem =>
        none path ⟨⟨document, here⟩, kind, stem⟩
      simp [different]

/-! ## What a call writes -/

section Plain

variable {item updates : Arguments} {itemId plan : Text} {now : Timestamp}
  {frontmatter : Frontmatter}

/-- The values of a call that go into a frontmatter. -/
def Operation.values : Operation → List Value
  | .createItem item => createdBy item ::
    ["order".toList, "breadth".toList, "skill".toList, "work".toList,
      "priority".toList].filterMap item.get?
  | .updateItem _ updates _ =>
    (updates.entries.filter fun entry => isFrontmatterKey entry.1).map Prod.snd
  | .createReview review => reviewedBy review :: ["reviewed-at".toList].filterMap review.get?
  | .updateReview _ updates => (updates.entries.filter fun entry =>
    reviewFrontmatterFields.contains (reviewFrontmatterKey entry.1)).map Prod.snd
  | .setState _ _ | .deleteItem _ | .setReviewState _ _ | .deleteReview _ => []

theorem AllPlain.set {key : Text} {value : Value} (plain : AllPlain host frontmatter)
    (here : host.plain value = true) : AllPlain host (frontmatter.set key value) := by
  intro other found stored
  rw [get?_set] at stored
  split at stored
  · cases stored
    exact here
  · exact plain other found stored

theorem allPlain_ofList {entries : List (Text × Value)}
    (each : ∀ entry ∈ entries, host.plain entry.2 = true) : AllPlain host (.ofList entries) :=
  List.foldlRecOn (motive := AllPlain host) _ _ nofun fun _ kept entry member =>
    kept.set (each entry member)

theorem AllPlain.set_text {key text : Text} (plain : AllPlain host frontmatter)
    (printable : text.all isPrintable = true) :
    AllPlain host (frontmatter.set key (.text text)) := plain.set (host.plain_ascii text printable)

theorem plain_getD {key : Text} {default : Value} (here : host.plain default = true)
    (given : ∀ value, item.get? key = some value → host.plain value = true) :
    host.plain ((item.get? key).getD default) = true := by
  cases found : item.get? key with
  | none => exact here
  | some value => exact given value found

theorem of_addRequestedFields {key : Text} {value : Value}
    (found : (addRequestedFields item frontmatter).get? key = some value) :
    frontmatter.get? key = some value ∨ key ∈ frontmatterFields ∧ item.get? key = some value := by
  revert found
  refine List.foldlRecOn (motive := fun other : Frontmatter => other.get? key = some value →
    frontmatter.get? key = some value ∨ key ∈ frontmatterFields ∧ item.get? key = some value)
    _ _ .inl ?_
  intro current before field member found
  split at found
  · exact before found
  split at found
  next requested =>
    rw [get?_set] at found
    split at found
    next same =>
      subst same
      exact .inr ⟨member, requested.trans found⟩
    · exact before found
  · exact before found

theorem allPlain_newItem (isId : IsRecordId itemId) (isSlug : isPlanSlug plan = true)
    (plain : ∀ value ∈ (Operation.createItem item).values, host.plain value = true) :
    AllPlain host (newItemFrontmatter item itemId plan now) := by
  have given : ∀ key ∈ ["order".toList, "breadth".toList, "skill".toList, "work".toList,
      "priority".toList], ∀ value, item.get? key = some value → host.plain value = true :=
    fun key listed value found =>
      plain value (mem_cons_of_mem _ (mem_filterMap.mpr ⟨key, listed, found⟩))
  have nothing : host.plain (.text []) = true := host.plain_ascii _ rfl
  have initial : AllPlain host (initialFrontmatter item itemId plan now) := by
    refine allPlain_ofList ?_
    simp only [forall_mem_cons]
    exact ⟨host.plain_ascii _ (printable_record isId),
      plain_getD host.plain_zero (given _ (by simp)), host.plain_ascii _ (printable_plan isSlug),
      host.plain_ascii _ rfl, host.plain_ascii _ now.printable,
      plain_getD nothing (given _ (by simp)), plain_getD nothing (given _ (by simp)),
      plain _ mem_cons_self, nofun⟩
  intro key value found
  cases known : (initialFrontmatter item itemId plan now).has key with
  | true =>
    rw [newItemFrontmatter, get?_addRequestedFields (.inl known)] at found
    exact initial key value found
  | false =>
    rcases of_addRequestedFields found with here | ⟨listed, here⟩
    · exact initial key value here
    · refine given key ?_ value here
      simp only [frontmatterFields, mem_cons, not_mem_nil, or_false] at listed
      rcases listed with rfl | rfl | rfl | rfl | rfl | rfl | rfl | rfl | rfl <;> try decide
      all_goals cases known

theorem allPlain_updated {append : Option (List Text)} (old : AllPlain host frontmatter)
    (plain : ∀ value ∈ (Operation.updateItem itemId updates append).values,
      host.plain value = true) : AllPlain host (updatedFrontmatter updates frontmatter) := by
  refine List.foldlRecOn (motive := AllPlain host) _ _ old ?_
  intro current kept entry member
  split
  next listed =>
    exact kept.set (plain _ (List.mem_map.mpr ⟨entry, mem_filter.mpr ⟨member, listed⟩, rfl⟩))
  · exact kept

theorem allPlain_newReview {review : Arguments} {reviewId parentId : Text}
    (isReview : isReviewId reviewId = true) (isItem : isItemId parentId = true)
    (isSlug : isPlanSlug plan = true)
    (plain : ∀ value ∈ (Operation.createReview review).values, host.plain value = true) :
    AllPlain host (newReviewFrontmatter review reviewId parentId (.text plan)) := by
  have reviewed : host.plain ((review.get? "reviewed-at".toList).getD (.text [])) = true := by
    refine plain_getD (host.plain_ascii _ rfl) fun value found => ?_
    exact plain value (mem_cons_of_mem _ (mem_filterMap.mpr ⟨_, mem_singleton_self _, found⟩))
  refine allPlain_ofList ?_
  simp only [forall_mem_cons]
  exact ⟨host.plain_ascii _ (printable_review isReview), host.plain_ascii _ (printable_item isItem),
    host.plain_ascii _ (printable_plan isSlug), host.plain_ascii _ rfl, plain _ mem_cons_self,
    reviewed, nofun⟩

theorem allPlain_overlay {reviewId : Text} {sections : OrderedDict Text Text}
    (old : AllPlain host frontmatter)
    (plain : ∀ value ∈ (Operation.updateReview reviewId updates).values,
      host.plain value = true) : AllPlain host (overlayReview updates frontmatter sections).1 := by
  refine List.foldlRecOn
    (motive := fun state : Frontmatter × OrderedDict Text Text => AllPlain host state.1) _ _ old ?_
  intro current kept entry member
  dsimp only
  split
  next listed =>
    exact kept.set (plain _ (List.mem_map.mpr ⟨entry, mem_filter.mpr ⟨member, listed⟩, rfl⟩))
  · split <;> exact kept

/-- **What is plain is read as it was written.** -/
theorem render_plain (plain : AllPlain host frontmatter) (body : Text) :
    render host frontmatter body = .ok ⟨frontmatter, body, true⟩ := by
  obtain ⟨dumped, read⟩ := host.round_trip frontmatter plain
  rw [render, refuse_of_not (by simp [dumped]), read]
  rfl

theorem AllPlain.proper {path : RecordPath} {document : Document} {body : Text}
    (plain : AllPlain host frontmatter) (named : path.misnamed = false)
    (rendered : render host frontmatter body = .ok document) : ProperRecord host path document := by
  cases (render_plain plain body).symm.trans rendered
  exact ⟨named, rfl, plain⟩

end Plain

/-! ## One call -/

section Steps

variable {repository' : Repository} {now : Timestamp} {path target : RecordPath}
  {document : Document}

namespace ProperRecords

section

variable (records : ProperRecords host repository)
include records

theorem set (proper : ProperRecord host path document) :
    ProperRecords host (repository.set path document) := by
  refine ⟨fun {other stored} here => ?_⟩
  rw [get?_set] at here
  split at here
  next same =>
    cases here
    exact same ▸ proper
  · exact records.proper here

theorem pop : ProperRecords host (repository.pop path) := by
  refine ⟨fun {other stored} here => ?_⟩
  rw [get?_pop] at here
  split at here
  · cases here
  · exact records.proper here

theorem move (proper : ProperRecord host target document) :
    ProperRecords host (repository.move path target document) := by
  rw [Repository.move]
  split
  · exact records.set proper
  · exact (records.set proper).pop

theorem createItem (placed : Placed repository) {item : Arguments}
    (success : createItem host scan now repository item = .ok (target, repository'))
    (avoided : derivesReviewId repository ⟨scan, now, .createItem item⟩ = false)
    (plain : ∀ value ∈ (Operation.createItem item).values, host.plain value = true) :
    ProperRecords host repository' := by
  obtain ⟨slug, itemId, document, planValue, isSlug, titled, isId, source, absent, rendered, rfl⟩ :=
    of_createItem placed success
  refine records.set ((allPlain_newItem isId isSlug plain).proper ?_ rendered)
  cases starts : startsRV itemId with
  | false => exact starts
  | true =>
    rcases source with given | ⟨noId, numbered⟩
    · rw [(validateItemId_eq_ok.mp given).2.2] at starts
      cases starts
    obtain ⟨begins, none, rfl⟩ := of_nextItemId placed records isSlug numbered starts
    have derived : derivesReviewId repository ⟨scan, now, .createItem item⟩ = true := by
      simp only [derivesReviewId, noId, planValue, titled, isSlug, none, Bool.true_and,
        Bool.and_eq_true, isPrefixOf_iff_prefix]
      exact ⟨⟨begins, trivial⟩, hasNoFirstReview_iff.mpr absent⟩
    rw [derived] at avoided
    cases avoided

/-- **A call with plain values that derives no review id keeps the records proper.** -/
theorem operate (placed : Placed repository) {call : Call}
    (success : operate host repository call = .ok (target, repository'))
    (avoided : derivesReviewId repository call = false)
    (plain : ∀ value ∈ call.operation.values, host.plain value = true) :
    ProperRecords host repository' := by
  obtain ⟨scan, now, operation⟩ := call
  cases operation with
  | createItem item => exact records.createItem placed success avoided plain
  | updateItem itemId updates append =>
    obtain ⟨bucket, plan, document, _, _, _, _, here, _, rendered, rfl⟩ :=
      of_updateItem placed success
    have old := records.proper here
    exact records.set ((allPlain_updated old.plain plain).proper old.named rendered)
  | setState itemId newState =>
    obtain ⟨bucket, plan, source, document, _, _, named, here, placedIn, _, _, rendered, rfl⟩ :=
      of_setState placed success
    have state := @printable_state newState itemWorkflow bucket (by decide) placedIn
    exact records.move (((records.proper here).plain.set_text state).proper named rendered)
  | deleteItem itemId =>
    obtain ⟨bucket, plan, document, _, _, rfl⟩ := of_deleteItem placed success
    exact records.pop
  | createReview review =>
    obtain ⟨bucket, plan, parentId, reviewId, parent, _, _, isItem, _, isReview, here, _, _,
      rendered, parentRendered, rfl⟩ := of_createReview placed success
    have old := records.proper here
    have isSlug := (placed.fits here).named.1
    exact (records.set ((allPlain_newReview isReview isItem isSlug plain).proper rfl rendered)).set
      (old.plain.proper old.named parentRendered)
  | updateReview reviewId updates =>
    obtain ⟨bucket, plan, parentId, document, _, _, _, here, rendered, rfl⟩ :=
      of_updateReview placed success
    exact records.set ((allPlain_overlay (records.proper here).plain plain).proper rfl rendered)
  | setReviewState reviewId newState =>
    obtain ⟨source, bucket, tree, plan, parentId, document, parent, _, here, _, placedIn, _,
      rendered, rfl⟩ := of_setReviewState placed success
    have state := @printable_state newState reviewWorkflow bucket (by decide) placedIn
    exact records.move (((records.proper here).plain.set_text state).proper rfl rendered)
  | deleteReview reviewId =>
    obtain ⟨bucket, tree, plan, parentId, document, parent, _, _, parentHere, rendered, rfl⟩ :=
      of_deleteReview placed success
    have old := records.proper parentHere
    exact (records.set (old.plain.proper old.named rendered)).pop

end

end ProperRecords

end Steps

theorem createdBy_truth (item : Arguments) : (createdBy item).truth = true := by
  rw [createdBy, firstTrue]
  cases found : [item.value createdByKey, item.value "created_by".toList,
      item.value "creator_id".toList].find? Value.truth with
  | none => rfl
  | some value => exact find?_some found

/-! ## Runs -/

/-- The call derives no review id, and YAML gives back what it puts into a frontmatter. -/
structure Orderly (host : Host) (state : Project) (call : Call) : Prop where
  avoids : derivesReviewId state.records call = false
  plain : ∀ value ∈ call.operation.values, host.plain value = true

/-- **The repository stays canonical** through every run of orderly calls. -/
theorem repository_stays_canonical (host : Host) {calls : List Call}
    (orderly : Admissible (step host) (Orderly host) .empty calls) (first later : List Call)
    (split : calls = first ++ later) :
    CanonicalRepository host (exec (step host) .empty first).records := by
  subst split
  have kept := @Admissible.invariant _ _ (step host) (Orderly host)
    (fun state => Placed state.records ∧ ProperRecords host state.records) ?_ .empty first
    (admissible_append.mp orderly).1 ⟨placed_empty, ⟨nofun⟩⟩
  · exact kept.2.canonical kept.1
  · rintro state call ⟨placed, records⟩ ⟨avoids, plain⟩
    refine ⟨placed.step call, ?_⟩
    rcases step_cases host state call with same | ⟨target, success⟩
    · rw [same]
      exact records
    · exact records.operate placed success avoids plain

/-- Strings of printable ASCII, `None` and zero are plain, and no file is read that holds another
value. -/
def plainValue : Value → Bool
  | .none => true
  | .text text => text.all isPrintable
  | .other value => Value.other value = .zero

/-- A host for ASCII texts whose only level-2 headings are lines that begin with two hashes. -/
def plainHost : Host where
  headings body := (Text.lines body).zipIdx.filterMap fun line =>
    if ("## ".toList).isPrefixOf line.1 then some (Text.strip (line.1.drop 3), line.2) else none
  lower := List.map Char.toLower
  upper := List.map Char.toUpper
  capitalize
    | [] => []
    | first :: rest => first.toUpper :: rest.map Char.toLower
  isDecimal := Char.isDigit
  represent text := '\'' :: text.filter (fun char => !Text.isLineBreak char) ++ ['\'']
  oneLine := by
    intro text char member
    rcases mem_cons.mp member with rfl | member
    · rfl
    rcases mem_append.mp member with member | member
    · simpa using (mem_filter.mp member).2
    · rw [mem_singleton.mp member]
      rfl
  dumps _ := true
  reload frontmatter :=
    if frontmatter.entries.all fun entry => plainValue entry.2 then some frontmatter else none
  plain := plainValue
  plain_ascii _ printable := printable
  plain_zero := by decide
  round_trip frontmatter plain := by
    refine ⟨rfl, if_pos (List.all_eq_true.mpr fun entry member => ?_)⟩
    exact plain entry.1 entry.2 (mem_entries_iff.mp member)
  keeps reloaded key _ := by
    split at reloaded
    · cases reloaded
      rfl
    · cases reloaded
  nameMax := 255
  roomy := by decide

def writtenOrder : Scan := ⟨id, fun _ => .refl _⟩

def newYear : Timestamp := ⟨"2026-01-01T00:00:00+00:00".toList, by decide⟩

/-- The first item of a plan, without an id of its own. -/
def createIn (plan : String) : Call :=
  ⟨writtenOrder, newYear, .createItem (.ofList
    [(planKey, .text plan.toList), (titleKey, .text "Revise the index".toList)])⟩

/-- The plan `docs` gets its first item. -/
theorem repository_stays_canonical_docs :
    CanonicalRepository plainHost (exec (step plainHost) .empty [createIn "docs"]).records :=
  @repository_stays_canonical plainHost [createIn "docs"] ⟨⟨by decide, by decide⟩, trivial⟩ _ [] rfl

/-- The first item of the plan `rv` is written as `RV01`, and the repository is no longer
canonical. -/
theorem item_numbered_as_review :
    ¬ CanonicalRepository plainHost (exec (step plainHost) .empty [createIn "rv"]).records := by
  intro canonical
  have written : ((exec (step plainHost) .empty [createIn "rv"]).records.get?
      (.item .active "rv".toList firstReviewId)).isSome = true := by decide +kernel
  obtain ⟨document, here⟩ := Option.isSome_iff_exists.mp written
  obtain ⟨error, failed⟩ := ((placed_exec plainHost _).fits here).validateRecordPath_of_misnamed rfl
  rw [(canonical.valid here).2] at failed
  cases failed

end Audiagentic.Planning
