import Audiagentic.Planning.Reviews

/-!
# Records lie where their metadata says

A record agrees with its path (`Fits`), and no two items or two reviews have one id (`Placed`).
An item may still bear a review id.  Such a record is not canonical, but every lookup passes
it over.
-/

namespace Audiagentic.Planning

open Foundations List OrderedDict Option

variable {repository : Repository} {scan : Scan} {path : RecordPath} {document : Document}
  {frontmatter : Frontmatter}

/-! ## Listing -/

theorem files_map_fst (repository : Repository) (scan : Scan) :
    (repository.files scan).map Prod.fst = scan.arrange repository.keys := by
  have known : ∀ path ∈ scan.arrange repository.keys,
      ∃ document, repository.get? path = some document := by
    intro path member
    exact OrderedDict.mem_keys_iff.mp ((scan.perm _).mem_iff.mp member)
  rw [Repository.files]
  generalize scan.arrange repository.keys = paths at known
  induction paths with
  | nil => rfl
  | cons path paths ih =>
    obtain ⟨⟨document, found⟩, known⟩ := forall_mem_cons.mp known
    rw [filterMap_cons_some (by rw [found]; rfl), map_cons, ih known]

/-- **The listed files are the files.** -/
theorem mem_files {file : RecordPath × Document} :
    file ∈ repository.files scan ↔ repository.get? file.1 = some file.2 := by
  obtain ⟨path, document⟩ := file
  simp only [Repository.files, mem_filterMap, map_eq_some_iff, Prod.mk.injEq]
  constructor
  · rintro ⟨other, _, document, found, rfl, rfl⟩
    exact found
  · intro found
    exact ⟨path, (scan.perm _).mem_iff.mpr (OrderedDict.mem_keys_iff.mpr ⟨document, found⟩),
      document, found, rfl, rfl⟩

theorem nodup_files (repository : Repository) (scan : Scan) :
    ((repository.files scan).map Prod.fst).Nodup := by
  rw [files_map_fst]
  exact (scan.perm _).nodup_iff.mpr repository.nodup

/-! ## One record -/

def RecordPath.workflow : RecordPath → Workflow
  | .item .. => itemWorkflow
  | .review .. => reviewWorkflow

def RecordPath.wellNamed : RecordPath → Prop
  | .item _ plan id => isPlanSlug plan = true ∧ IsRecordId id
  | .review _ plan parent id =>
    isPlanSlug plan = true ∧ isReviewId id = true ∧ isItemId parent = true ∧
      startsRV parent = false

def RecordPath.parentValue : RecordPath → Option Value
  | .item .. => none
  | .review _ _ parent _ => some (.text parent)

/-- **A record agrees with its path.** -/
structure Fits (path : RecordPath) (frontmatter : Frontmatter) : Prop where
  named : path.wellNamed
  id : frontmatter.get? idKey = some (.text path.stem)
  plan : frontmatter.get? planKey = some (.text path.plan)
  parent : frontmatter.get? reviewOfKey = path.parentValue
  placed : ∃ state, frontmatter.get? stateKey = some (.text state) ∧
    path.workflow.placementForState state = .ok path.bucket

def RecordPath.misnamed (path : RecordPath) : Bool := !path.isReview && startsRV path.stem

theorem RecordPath.misnamed_eq_false (kind : path.isReview = startsRV path.stem) :
    path.misnamed = false := by
  rw [misnamed, kind]
  cases startsRV path.stem with
  | false => rfl
  | true => rfl

theorem RecordPath.misnamed_congr {other : RecordPath} (kind : path.isReview = other.isReview)
    (stem : path.stem = other.stem) : path.misnamed = other.misnamed := by
  rw [misnamed, misnamed, kind, stem]

namespace Fits

section

variable (fits : Fits path frontmatter)
include fits

theorem congr {other : Frontmatter}
    (same : ∀ key ∈ [idKey, planKey, reviewOfKey, stateKey], other.get? key = frontmatter.get?
    key) :
    Fits path other := by
  refine ⟨fits.named, ?_, ?_, ?_, ?_⟩
  · rw [same idKey (by simp), fits.id]
  · rw [same planKey (by simp), fits.plan]
  · rw [same reviewOfKey (by simp), fits.parent]
  · rw [same stateKey (by simp)]
    exact fits.placed

theorem not_isEmpty : frontmatter.isEmpty = false := by
  have found := fits.id
  cases entries : frontmatter.entries with
  | nil => simp [OrderedDict.get?, entries] at found
  | cons entry rest => simp [OrderedDict.isEmpty, entries]

theorem value_id : frontmatter.value idKey = .text path.stem := by
  rw [Frontmatter.value, fits.id, getD_some]

theorem value_plan :
    frontmatter.value planKey = .text path.plan := by
  rw [Frontmatter.value, fits.plan, getD_some]

theorem has_reviewOf :
    frontmatter.has reviewOfKey = path.isReview := by
  rw [OrderedDict.has, fits.parent]
  cases path with
  | item bucket plan id => rfl
  | review bucket plan parent id => rfl

theorem stem_startsRV (review : path.isReview = true) :
    startsRV path.stem = true := by
  cases path with
  | item bucket plan id => cases review
  | review bucket plan parent id => exact startsRV_of_isReviewId fits.named.2.1

theorem validatePlacement (subject : Text) :
    validatePlacement path.workflow path.bucket (frontmatter.state path.workflow.initial) subject =
      .ok ⟨⟩ := by
  obtain ⟨state, found, placed⟩ := fits.placed
  rw [Frontmatter.state, found, getD_some, Planning.validatePlacement, placed]
  exact refuse_of_not (fun different => different rfl)

/-- **A record that fits passes the check, unless it is an item under a review id.** -/
theorem validateRecordPath_eq (named : path.misnamed = false) :
    validateRecordPath path frontmatter = .ok ⟨⟩ := by
  have placement := fits.validatePlacement path.stem
  have recordId := fits.value_id
  have planName := fits.value_plan
  have kind := fits.has_reviewOf
  cases path with
  | item bucket plan id =>
    have plain : startsRV id = false := by
      simpa [RecordPath.misnamed, RecordPath.isReview, RecordPath.stem] using named
    have isItem : isItemId id = true := by
      rcases fits.named.2 with review | ⟨isItem, _⟩
      · rw [startsRV_of_isReviewId review] at plain
        cases plain
      · exact isItem
    refine bind_eq_ok.mpr ⟨id, validateItemId_eq_ok.mpr ⟨recordId, isItem, plain⟩, ?_⟩
    refine bind_eq_ok.mpr ⟨plan, validatePlanSlug_eq_ok.mpr ⟨planName, fits.named.1⟩, ?_⟩
    refine refuse_bind_eq_ok.mpr ⟨?_, refuse_bind_eq_ok.mpr ⟨?_, placement⟩⟩
    · simp [kind, RecordPath.isReview]
    · simp
  | review bucket plan parent id =>
    have parentName : frontmatter.value reviewOfKey = .text parent := by
      rw [Frontmatter.value, fits.parent]
      rfl
    obtain ⟨slug, isReview, isParent, plain⟩ := fits.named
    refine bind_eq_ok.mpr ⟨id, validateReviewId_eq_ok.mpr ⟨recordId, isReview⟩, ?_⟩
    refine bind_eq_ok.mpr ⟨plan, validatePlanSlug_eq_ok.mpr ⟨planName, slug⟩, ?_⟩
    refine bind_eq_ok.mpr ⟨parent, validateItemId_eq_ok.mpr ⟨parentName, isParent, plain⟩, ?_⟩
    refine refuse_bind_eq_ok.mpr ⟨?_, placement⟩
    simp

theorem validateRecordPath_of_misnamed (named : path.misnamed = true) :
    ∃ error, validateRecordPath path frontmatter = .error error := by
  have recordId := fits.value_id
  cases path with
  | review bucket plan parent id => simp [RecordPath.misnamed, RecordPath.isReview] at named
  | item bucket plan id =>
    have starts : startsRV id = true := by
      simpa [RecordPath.misnamed, RecordPath.isReview, RecordPath.stem] using named
    cases checked : validateRecordPath (.item bucket plan id) frontmatter with
    | error error => exact ⟨error, rfl⟩
    | ok passed =>
      obtain ⟨recordId', valid, _⟩ := bind_eq_ok.mp checked
      obtain ⟨same, _, plain⟩ := validateItemId_eq_ok.mp valid
      rw [recordId] at same
      cases same
      rw [RecordPath.stem, starts] at plain
      cases plain

end

end Fits

/-! ## The repository -/

/-- **Every record fits, and ids are unique among the items and among the reviews.**  Items under
a review id are left out, as no lookup finds them. -/
structure Placed (repository : Repository) : Prop where
  fits : ∀ {path document}, repository.get? path = some document → Fits path document.frontmatter
  distinct : ∀ {path other document document'}, repository.get? path = some document →
    repository.get? other = some document' → path.isReview = other.isReview →
    path.stem = other.stem → path.misnamed = false → path = other

theorem placed_empty : Placed ∅ where
  fits := by
    intro path document found
    cases found
  distinct := by
    intro path other document document' found
    cases found

/-! ## Lookup -/

theorem considerMatch_of_fits {itemId : Text} {allowPlacementRepair : Bool}
    {file : RecordPath × Document} (fits : Fits file.1 file.2.frontmatter)
    (readable : file.2.readable = true) (kind : file.1.isReview = startsRV itemId) :
    considerMatch itemId allowPlacementRepair file =
      .ok (if file.1.stem = itemId then some file.1 else none) := by
  rw [considerMatch, readable, fits.not_isEmpty, if_neg (by decide), if_neg Bool.false_ne_true]
  cases named : file.1.misnamed with
  | false => rw [fits.validateRecordPath_eq named]
  | true =>
    obtain ⟨error, failed⟩ := fits.validateRecordPath_of_misnamed named
    simp only [RecordPath.misnamed, Bool.and_eq_true, Bool.not_eq_true'] at named
    -- An item under a review id is not the record of an item id.
    have different : file.1.stem ≠ itemId := by
      intro same
      rw [← same, named.1, named.2] at kind
      cases kind
    have other : file.2.frontmatter.value idKey ≠ .text itemId := by
      rw [fits.value_id]
      exact fun same => different (Value.text.inj same)
    rw [failed]
    simp [different, other]

/-! ## What is written and read back -/

section Written

variable {host : Host} {text body : Text} {written : Document}

theorem isPrintable_of_isUpper {char : Char} (upper : char.isUpper = true) :
    isPrintable char = true := by
  replace upper : decide ('A'.val ≤ char.val ∧ char.val ≤ 'Z'.val) = true := upper
  simp [isPrintable, UInt32.le_iff_toNat_le] at *
  omega

theorem isPrintable_of_isSlugChar {char : Char} (slugChar : isSlugChar char = true) :
    isPrintable char = true := by
  replace slugChar : (decide ('a'.val ≤ char.val) && decide (char.val ≤ 'z'.val) ||
    decide ('0'.val ≤ char.val) && decide (char.val ≤ '9'.val)) = true := slugChar
  simp [isPrintable, UInt32.le_iff_toNat_le] at *
  omega

theorem isSlugChar_of_mem {slug : Text} (isSlug : isPlanSlug slug = true) {char : Char}
    (member : char ∈ slug) : char = '-' ∨ isSlugChar char = true := by
  have joined : ['-'].intercalate (slug.splitOn '-') = slug := intercalate_splitOn '-'
  rw [← joined] at member
  rcases Text.mem_intercalate member with rfl | ⟨part, listed, here⟩
  · exact .inl rfl
  · have accepted := List.all_eq_true.mp isSlug part listed
    rw [Bool.and_eq_true] at accepted
    exact .inr (List.all_eq_true.mp accepted.2 char here)

theorem printable_digits {digits : Text} (all : digits.all Char.isDigit = true) :
    digits.all isPrintable = true := by
  refine List.all_eq_true.mpr fun char member => isPrintable_of_isSlugChar ?_
  rw [isSlugChar, List.all_eq_true.mp all char member, Bool.or_true]

theorem printable_plan (isSlug : isPlanSlug text = true) : text.all isPrintable = true := by
  refine List.all_eq_true.mpr fun char member => ?_
  rcases isSlugChar_of_mem isSlug member with rfl | slugChar
  · rfl
  · exact isPrintable_of_isSlugChar slugChar

theorem printable_item (isItem : isItemId text = true) : text.all isPrintable = true := by
  rw [isItemId, splitId] at isItem
  split at isItem
  next shape =>
    simp only [Bool.and_eq_true] at shape
    rw [← @takeWhile_append_dropWhile _ Char.isUpper text, all_append, printable_digits shape.2,
      Bool.and_true]
    exact List.all_eq_true.mpr fun char member =>
      isPrintable_of_isUpper (mem_takeWhile_imp member)
  · cases isItem

theorem printable_review (isReview : isReviewId text = true) : text.all isPrintable = true := by
  simp only [isReviewId, startsRV, Bool.and_eq_true, isPrefixOf_iff_prefix] at isReview
  obtain ⟨⟨⟨digits, rfl⟩, _⟩, digit⟩ := isReview
  rw [all_append]
  exact Bool.and_eq_true_iff.mpr ⟨rfl, printable_digits digit⟩

theorem printable_record (isId : IsRecordId text) : text.all isPrintable = true := by
  rcases isId with isReview | ⟨isItem, _⟩
  · exact printable_review isReview
  · exact printable_item isItem

theorem printable_state {workflow : Workflow} {bucket : Bucket}
    (ascii : ∀ state ∈ workflow.values, state.all isPrintable = true)
    (placed : workflow.placementForState text = .ok bucket) : text.all isPrintable = true := by
  obtain ⟨known, _⟩ := refuse_bind_eq_ok.mp placed
  exact ascii text (by simpa [Workflow.isKnownState] using known)

theorem render_eq_ok (rendered : render host frontmatter body = .ok written) :
    written.body = body ∧ (written.frontmatter = frontmatter ∨
      host.reload frontmatter = some written.frontmatter) := by
  obtain ⟨_, rendered⟩ := refuse_bind_eq_ok.mp rendered
  split at rendered
  next read reloaded =>
    cases rendered
    exact ⟨rfl, .inr reloaded⟩
  · cases rendered
    exact ⟨rfl, .inl rfl⟩

/-- **What places a record comes back.** -/
theorem Fits.get?_render (fits : Fits path frontmatter)
    (rendered : render host frontmatter body = .ok written) {key : Text}
    (listed : key ∈ [idKey, planKey, reviewOfKey, stateKey]) :
    written.frontmatter.get? key = frontmatter.get? key := by
  rcases (render_eq_ok rendered).2 with same | reloaded
  · rw [same]
  refine host.keeps reloaded key fun value found => ?_
  have named := fits.named
  simp only [mem_cons, not_mem_nil, or_false] at listed
  rcases listed with rfl | rfl | rfl | rfl
  · cases fits.id.symm.trans found
    refine host.plain_ascii _ ?_
    cases path with
    | item bucket plan id => exact printable_record named.2
    | review bucket plan parent id => exact printable_review named.2.1
  · cases fits.plan.symm.trans found
    refine host.plain_ascii _ ?_
    cases path with
    | item | review => exact printable_plan named.1
  · cases path with
    | item bucket plan id => cases fits.parent.symm.trans found
    | review bucket plan parent id =>
      cases fits.parent.symm.trans found
      exact host.plain_ascii _ (printable_item named.2.2.1)
  · obtain ⟨state, stored, placed⟩ := fits.placed
    cases stored.symm.trans found
    refine host.plain_ascii _ ?_
    cases path with
    | item => exact @printable_state _ itemWorkflow _ (by decide) placed
    | review => exact @printable_state _ reviewWorkflow _ (by decide) placed

theorem Fits.render (fits : Fits path frontmatter)
    (rendered : render host frontmatter body = .ok written) : Fits path written.frontmatter :=
  fits.congr fun _ listed => fits.get?_render rendered listed

end Written

theorem Repository.get?_move {other target : RecordPath} :
    (repository.move path target document).get? other =
      if other = target then some document
      else if other = path then none else repository.get? other := by
  rw [move]
  split
  next same =>
    subst same
    rw [get?_set]
    split <;> rfl
  next different =>
    rw [get?_pop, get?_set]
    split
    · next here => rw [if_neg (fun same => different (same.symm.trans here))]
    · rfl

theorem length_le_one {α : Type} {items : List α} (distinct : items.Nodup)
    (same : ∀ first ∈ items, ∀ second ∈ items, first = second) : items.length ≤ 1 := by
  match items with
  | [] => exact Nat.zero_le 1
  | [_] => exact Nat.le_refl 1
  | first :: second :: rest =>
    have equal : first = second := same first (by simp) second (by simp)
    subst equal
    exact absurd mem_cons_self (nodup_cons.mp distinct).1

theorem head?_eq_some_iff_mem {α : Type} {items : List α} (few : items.length ≤ 1) {item : α} :
    items.head? = some item ↔ item ∈ items := by
  match items with
  | [] => simp
  | [only] => simp [eq_comm]
  | _ :: _ :: _ => exact absurd few (by simp)

/-- The files of one kind can be read. -/
def Repository.Legible (repository : Repository) (reviews : Bool) : Prop :=
  ∀ {path document}, repository.get? path = some document → path.isReview = reviews →
    document.readable = true

def Repository.Bears (repository : Repository) (itemId : Text) (path : RecordPath) : Prop :=
  (∃ document, repository.get? path = some document) ∧ path.isReview = startsRV itemId ∧
    path.stem = itemId

namespace Placed

section

variable (placed : Placed repository)
include placed

theorem collect_eq (itemId : Text) (allowPlacementRepair : Bool)
    (legible : repository.Legible (startsRV itemId)) :
    collect (considerMatch itemId allowPlacementRepair)
        ((repository.files scan).filter fun file => file.1.isReview = startsRV itemId) =
      .ok (((repository.files scan).map Prod.fst).filter fun path =>
        path.isReview = startsRV itemId ∧ path.stem = itemId) := by
  have each : ∀ file ∈ (repository.files scan).filter fun file =>
      file.1.isReview = startsRV itemId,
      considerMatch itemId allowPlacementRepair file =
        .ok (if file.1.stem = itemId then some file.1 else none) := by
    intro file member
    obtain ⟨listed, kind⟩ := mem_filter.mp member
    have here := mem_files.mp listed
    exact considerMatch_of_fits (placed.fits here) (legible here (by simpa using kind))
      (by simpa using kind)
  rw [collect_eq_ok each]
  congr 1
  generalize repository.files scan = files
  induction files with
  | nil => rfl
  | cons file files ih =>
    rw [map_cons, filter_cons, filter_cons]
    by_cases kind : file.1.isReview = startsRV itemId
    · rw [if_pos (by simpa using kind), filterMap_cons]
      by_cases same : file.1.stem = itemId <;> simp [kind, same, ih]
    · rw [if_neg (by simpa using kind), ih, if_neg (by simp [kind])]

/-- **The lookup of an id finds the record of that id.** -/
theorem findItem_eq_ok {itemId : Text} {allowPlacementRepair : Bool} {found : Option RecordPath} :
    findItem scan repository itemId allowPlacementRepair = .ok found ↔
      IsRecordId itemId ∧ repository.Legible (startsRV itemId) ∧
        ∀ path, found = some path ↔ repository.Bears itemId path := by
  have candidates : ∀ path, path ∈ (((repository.files scan).map Prod.fst).filter fun path =>
      path.isReview = startsRV itemId ∧ path.stem = itemId) ↔ repository.Bears itemId path := by
    intro path
    simp only [mem_filter, List.mem_map, Prod.exists, exists_and_right, exists_eq_right,
      decide_eq_true_eq, mem_files, Repository.Bears]
  have few : (((repository.files scan).map Prod.fst).filter fun path =>
      path.isReview = startsRV itemId ∧ path.stem = itemId).length ≤ 1 := by
    refine length_le_one ((nodup_files repository scan).filter _) ?_
    intro first firstMember second secondMember
    obtain ⟨⟨_, firstFound⟩, firstKind, firstStem⟩ := (candidates first).mp firstMember
    obtain ⟨⟨_, secondFound⟩, secondKind, secondStem⟩ := (candidates second).mp secondMember
    exact placed.distinct firstFound secondFound (firstKind.trans secondKind.symm)
      (firstStem.trans secondStem.symm)
      (RecordPath.misnamed_eq_false (by rw [firstKind, firstStem]))
  by_cases legible : repository.Legible (startsRV itemId)
  rotate_left
  · refine iff_of_false (fun success => legible ?_) fun both => legible both.2.1
    intro path document here kind
    obtain ⟨_, _, success⟩ := bind_eq_ok.mp success
    obtain ⟨_, collected, _⟩ := bind_eq_ok.mp success
    obtain ⟨found, considered⟩ := exists_of_collect collected (path, document)
      (mem_filter.mpr ⟨mem_files.mpr here, by simpa using kind⟩)
    by_contra unread
    rw [considerMatch, if_pos (by simpa using unread)] at considered
    cases considered
  rw [findItem, placed.collect_eq _ _ legible]
  generalize (((repository.files scan).map Prod.fst).filter fun path =>
    path.isReview = startsRV itemId ∧ path.stem = itemId) = paths at candidates few
  have first : ∀ path, paths.head? = some path ↔ repository.Bears itemId path := by
    intro path
    rw [← candidates, head?_eq_some_iff_mem few]
  constructor
  · intro success
    obtain ⟨valid, checked, success⟩ := bind_eq_ok.mp success
    obtain ⟨paths', same, success⟩ := bind_eq_ok.mp success
    cases same
    obtain ⟨_, success⟩ := refuse_bind_eq_ok.mp success
    cases success
    obtain ⟨same, isId⟩ := validateRecordId_eq_ok.mp checked
    cases same
    exact ⟨isId, legible, first⟩
  · rintro ⟨isId, _, known⟩
    have same : found = paths.head? := by
      ext path
      exact (known path).trans (first path).symm
    subst same
    refine bind_eq_ok.mpr ⟨itemId, validateRecordId_eq_ok.mpr ⟨rfl, isId⟩, ?_⟩
    refine bind_eq_ok.mpr ⟨paths, rfl, ?_⟩
    exact refuse_bind_eq_ok.mpr ⟨Nat.not_lt.mpr few, rfl⟩

/-- **The record of an id, with its document.** -/
theorem requireItem_eq_ok {itemId : Text} {allowPlacementRepair : Bool} :
    requireItem scan repository itemId allowPlacementRepair = .ok (path, document) ↔
      IsRecordId itemId ∧ repository.Legible (startsRV itemId) ∧
        repository.get? path = some document ∧ path.isReview = startsRV itemId ∧
          path.stem = itemId := by
  constructor
  · intro success
    obtain ⟨found, searched, success⟩ := bind_eq_ok.mp success
    obtain ⟨isId, legible, known⟩ := placed.findItem_eq_ok.mp searched
    cases found with
    | none => cases success
    | some found =>
      obtain ⟨⟨stored, here⟩, kind, stem⟩ := (known found).mp rfl
      rw [bind_some, here] at success
      cases success
      exact ⟨isId, legible, here, kind, stem⟩
  · rintro ⟨isId, legible, here, kind, stem⟩
    have bears : repository.Bears itemId path := ⟨⟨document, here⟩, kind, stem⟩
    refine bind_eq_ok.mpr ⟨some path, placed.findItem_eq_ok.mpr ⟨isId, legible, ?_⟩, ?_⟩
    · intro other
      constructor
      · intro same
        cases same
        exact bears
      · rintro ⟨⟨_, found⟩, otherKind, otherStem⟩
        rw [placed.distinct here found (kind.trans otherKind.symm) (stem.trans otherStem.symm)
          (RecordPath.misnamed_eq_false (by rw [kind, stem]))]
    · rw [bind_some, here]
      rfl

/-! ## What operations do to the files -/

/-- **A record is written** where no other record has its id. -/
theorem set (fits : Fits path document.frontmatter)
    (own : path.misnamed = false → ∀ {other stored}, repository.get? other = some stored →
      other.isReview = path.isReview → other.stem = path.stem → other = path) :
    Placed (repository.set path document) where
  fits := by
    intro other stored found
    rw [get?_set] at found
    split at found
    next same =>
      cases found
      exact same ▸ fits
    · exact placed.fits found
  distinct := by
    intro first second stored stored' firstFound secondFound kind stem named
    rw [get?_set] at firstFound secondFound
    split at firstFound
    next firstHere =>
      split at secondFound
      · next secondHere => exact firstHere.trans secondHere.symm
      · subst firstHere
        exact (own named secondFound kind.symm stem.symm).symm
    · split at secondFound
      next secondHere =>
        subst secondHere
        exact own ((RecordPath.misnamed_congr kind stem).symm.trans named) firstFound kind stem
      · exact placed.distinct firstFound secondFound kind stem named

theorem set_existing {stored : Document} (found : repository.get? path = some stored)
    (fits : Fits path document.frontmatter) : Placed (repository.set path document) :=
  placed.set fits fun named _ _ here kind stem =>
    (placed.distinct found here kind.symm stem.symm named).symm

/-- **A record is removed.** -/
theorem pop (path : RecordPath) : Placed (repository.pop path) := by
  have kept : ∀ {other stored}, (repository.pop path).get? other = some stored →
      repository.get? other = some stored := by
    intro other stored found
    rw [get?_pop] at found
    split at found
    · cases found
    · exact found
  exact ⟨fun found => placed.fits (kept found),
    fun first second => placed.distinct (kept first) (kept second)⟩

/-- **A record moves to the other tree.** -/
theorem move {stored : Document} {target : RecordPath}
    (found : repository.get? path = some stored) (kind : target.isReview = path.isReview)
    (stem : target.stem = path.stem) (fits : Fits target document.frontmatter) :
    Placed (repository.move path target document) := by
  have moved : ∀ {other kept},
      (repository.move path target document).get? other = some kept →
      other = target ∧ kept = document ∨
        other ≠ path ∧ repository.get? other = some kept := by
    intro other kept here
    rw [Repository.get?_move] at here
    split at here
    · next same => exact Or.inl ⟨same, (Option.some.inj here).symm⟩
    · split at here
      · cases here
      · next elsewhere => exact Or.inr ⟨elsewhere, here⟩
  -- No file but the one that moved has its id.
  have alone : ∀ {other kept}, other ≠ path → repository.get? other = some kept →
      target.misnamed = false →
      ¬ (target.isReview = other.isReview ∧ target.stem = other.stem) := by
    rintro other kept elsewhere here named ⟨sameKind, sameStem⟩
    exact elsewhere (placed.distinct found here (kind.symm.trans sameKind)
      (stem.symm.trans sameStem) ((RecordPath.misnamed_congr kind stem).symm.trans named)).symm
  refine ⟨?_, ?_⟩
  · intro other kept here
    rcases moved here with ⟨rfl, rfl⟩ | ⟨_, here⟩
    · exact fits
    · exact placed.fits here
  · intro first second kept kept' firstHere secondHere sameKind sameStem named
    rcases moved firstHere with ⟨rfl, _⟩ | ⟨firstElse, firstKept⟩
    · rcases moved secondHere with ⟨rfl, _⟩ | ⟨secondElse, secondKept⟩
      · rfl
      · exact absurd ⟨sameKind, sameStem⟩ (alone secondElse secondKept named)
    rcases moved secondHere with ⟨rfl, _⟩ | ⟨_, secondKept⟩
    · exact absurd ⟨sameKind.symm, sameStem.symm⟩ (alone firstElse firstKept
        ((RecordPath.misnamed_congr sameKind sameStem).symm.trans named))
    · exact placed.distinct firstKept secondKept sameKind sameStem named

end

end Placed

end Audiagentic.Planning
