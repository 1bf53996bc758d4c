import Audiagentic.Planning.Placement

/-!
# What the planning operations do

One lemma for each operation says all that a successful call has read and written, in a
repository whose records lie where their metadata says.  From these, and the four writes of
`Placed`, every call keeps the records placed (`Placed.step`), and so does every run
(`placed_exec`).
-/

namespace Audiagentic.Planning

open Foundations OrderedDict Option

variable {host : Host} {scan : Scan} {now : Timestamp} {repository repository' : Repository}
  {path target : RecordPath} {document : Document}

/-! ## The record a call is about -/

variable {itemId : Text}

theorem item_of_requireItem (placed : Placed repository) {repair : Bool} {code : String}
    (found : requireItem scan repository itemId repair = .ok (path, document))
    (kind : ensureNotReview document.frontmatter itemId code = .ok ⟨⟩) :
    ∃ bucket plan, path = .item bucket plan itemId ∧ startsRV itemId = false ∧
      repository.get? (.item bucket plan itemId) = some document := by
  obtain ⟨_, _, here, sameKind, stem⟩ := placed.requireItem_eq_ok.mp found
  have notReview := refuse_eq_ok.mp kind
  rw [(placed.fits here).has_reviewOf] at notReview
  cases path with
  | item bucket plan id =>
    cases stem
    exact ⟨bucket, plan, rfl, sameKind.symm, here⟩
  | review bucket plan parent id => exact absurd rfl notReview

variable {reviewId : Text}

theorem review_of_requireItem (placed : Placed repository) {repair : Bool} {code : String}
    (found : requireItem scan repository reviewId repair = .ok (path, document))
    (kind : ensureReview document.frontmatter reviewId code = .ok ⟨⟩) :
    ∃ bucket plan parent, path = .review bucket plan parent reviewId ∧
      repository.get? (.review bucket plan parent reviewId) = some document := by
  obtain ⟨_, _, here, sameKind, stem⟩ := placed.requireItem_eq_ok.mp found
  have isReview := refuse_eq_ok.mp kind
  rw [(placed.fits here).has_reviewOf] at isReview
  cases path with
  | item bucket plan id => exact absurd rfl isReview
  | review bucket plan parent id =>
    cases stem
    exact ⟨bucket, plan, parent, rfl, here⟩

/-! ## The review a call is about, with its parent -/

structure IndexSound (repository : Repository) (index : IntegrityIndex) : Prop where
  items : ∀ {key file}, index.items.get? key = some file →
    repository.get? file.1 = some file.2 ∧ file.1.isReview = false ∧ file.1.plan = key.1 ∧
      file.1.stem = key.2
  reviews : ∀ {reviewId file}, index.reviews.get? reviewId = some file →
    repository.get? file.1 = some file.2 ∧ file.1.isReview = true ∧ file.1.stem = reviewId

namespace IndexSound

variable {index : IntegrityIndex} {file : RecordPath × Document}

theorem addItem (sound : IndexSound repository index) (fits : Fits file.1 file.2.frontmatter)
    (here : repository.get? file.1 = some file.2) (kind : file.1.isReview = false) :
    IndexSound repository (index.addItem host file) := by
  rw [IntegrityIndex.addItem, fits.value_id, fits.value_plan]
  split
  next itemId plan _ sameId samePlan _ =>
    cases sameId
    cases samePlan
    split
    · exact sound
    refine ⟨?_, sound.reviews⟩
    intro key stored found
    rw [get?_set] at found
    split at found
    next same =>
      cases found
      cases same
      exact ⟨here, kind, rfl, rfl⟩
    · exact sound.items found
  · exact sound

theorem addReview (sound : IndexSound repository index) (fits : Fits file.1 file.2.frontmatter)
    (here : repository.get? file.1 = some file.2) (kind : file.1.isReview = true) :
    IndexSound repository (index.addReview file) := by
  rw [IntegrityIndex.addReview, fits.value_id]
  split
  next reviewId _ sameId _ =>
    cases sameId
    split
    · exact sound
    refine ⟨sound.items, ?_⟩
    intro reviewId stored found
    rw [get?_set] at found
    split at found
    next same =>
      cases found
      exact ⟨here, kind, same.symm⟩
    · exact sound.reviews found
  · exact sound

end IndexSound

/-- **The index holds records of the repository.** -/
theorem indexSound (placed : Placed repository) {index : IntegrityIndex}
    (built : buildIntegrityIndex host scan repository = .ok index) :
    IndexSound repository index := by
  obtain ⟨_, built⟩ := refuse_bind_eq_ok.mp built
  cases built
  have items : IndexSound repository
      (((repository.files scan).filter fun file => !file.1.isReview).foldl
        (IntegrityIndex.addItem host) .empty) := by
    refine List.foldlRecOn _ _ ⟨?_, ?_⟩ ?_
    · intro key file found
      cases found
    · intro reviewId file found
      cases found
    · intro index sound file member
      obtain ⟨listed, kind⟩ := List.mem_filter.mp member
      have here := mem_files.mp listed
      exact sound.addItem (placed.fits here) here (by simpa using kind)
  refine List.foldlRecOn _ _ items ?_
  intro index sound file member
  obtain ⟨listed, kind⟩ := List.mem_filter.mp member
  have here := mem_files.mp listed
  exact sound.addReview (placed.fits here) here kind

/-- **The context of a review**: the review, and the item in whose directory it lies. -/
theorem of_requireCanonicalReviewContext (placed : Placed repository) {context : ReviewContext}
    (success : requireCanonicalReviewContext host scan repository reviewId = .ok context) :
    ∃ bucket tree plan parent, context.reviewPath = .review bucket plan parent reviewId ∧
      context.parentPath = .item tree plan parent ∧
      repository.get? (.review bucket plan parent reviewId) = some context.review ∧
      repository.get? (.item tree plan parent) = some context.parent := by
  unfold requireCanonicalReviewContext at success
  obtain ⟨_, _, success⟩ := bind_eq_ok.mp success
  obtain ⟨index, built, success⟩ := bind_eq_ok.mp success
  have sound : IndexSound repository index := indexSound placed built
  cases indexed : index.reviews.get? reviewId with
  | none => simp [indexed] at success
  | some review =>
    obtain ⟨here, kind, stem⟩ := sound.reviews indexed
    have fits := placed.fits here
    simp only [indexed] at success
    obtain ⟨reviewPath, stored⟩ := review
    cases reviewPath with
    | item bucket plan id => cases kind
    | review bucket plan parent id =>
      cases stem
      have parentName : stored.frontmatter.value reviewOfKey = .text parent := by
        rw [Frontmatter.value, fits.parent]
        rfl
      have planName : stored.frontmatter.value planKey = .text plan := fits.value_plan
      simp only [parentName, planName] at success
      obtain ⟨_, _, success⟩ := bind_eq_ok.mp success
      cases known : index.items.get? (plan, parent) with
      | none => simp [known] at success
      | some item =>
        obtain ⟨itemHere, itemKind, itemPlan, itemStem⟩ := sound.items known
        simp only [known] at success
        obtain ⟨_, success⟩ := refuse_bind_eq_ok.mp success
        obtain ⟨_, success⟩ := refuse_bind_eq_ok.mp success
        cases success
        obtain ⟨itemPath, itemDocument⟩ := item
        cases itemPath with
        | review tree itemPlan itemParent itemId => cases itemKind
        | item tree itemPlan itemId =>
          cases itemPlan
          cases itemStem
          exact ⟨bucket, tree, plan, parent, rfl, rfl, here, itemHere⟩

/-! ## Items -/

theorem givenId_eq_ok {check : Value → Except RecordError Text} {value : Value}
    {given : Option Text} :
    givenId check value = .ok given ↔
      value = .none ∧ given = none ∨
        value ≠ .none ∧ ∃ id, check value = .ok id ∧ given = some id := by
  have checked : ∀ value : Value, (check value).map some = .ok given ↔
      ∃ id, check value = .ok id ∧ given = some id := by
    intro value
    cases check value with
    | error error => simp [Except.map]
    | ok id => simp [Except.map, eq_comm]
  cases value with
  | none => simp [givenId, eq_comm]
  | text | other => simp [givenId, checked]

section

variable (placed : Placed repository)
include placed

/-- **What `create_item` does.** -/
theorem of_createItem {item : Arguments}
    (success : createItem host scan now repository item = .ok (target, repository')) :
    ∃ slug itemId document, item.value planKey = .text slug ∧ isPlanSlug slug = true ∧
      (item.value titleKey).truth = true ∧ IsRecordId itemId ∧
      (validateItemId (item.value idKey) = .ok itemId ∨
        item.value idKey = .none ∧ nextItemId scan repository slug = .ok itemId) ∧
      (∀ path, ¬ repository.Bears itemId path) ∧
      render host (newItemFrontmatter item itemId slug now) (newItemBody host item now) =
        .ok document ∧
      repository' = repository.set (.item .active slug itemId) document := by
  unfold createItem at success
  obtain ⟨_, success⟩ := refuse_bind_eq_ok.mp success
  obtain ⟨slug, slugValid, success⟩ := bind_eq_ok.mp success
  obtain ⟨titled, success⟩ := refuse_bind_eq_ok.mp success
  obtain ⟨given, givenValid, success⟩ := bind_eq_ok.mp success
  obtain ⟨_, success⟩ := refuse_bind_eq_ok.mp success
  obtain ⟨itemId, chosen, success⟩ := bind_eq_ok.mp success
  obtain ⟨existing, searched, success⟩ := bind_eq_ok.mp success
  obtain ⟨absent, success⟩ := refuse_bind_eq_ok.mp success
  obtain ⟨document, rendered, success⟩ := bind_eq_ok.mp success
  obtain ⟨planValue, isSlug⟩ := validatePlanSlug_eq_ok.mp slugValid
  obtain ⟨isId, _, known⟩ := placed.findItem_eq_ok.mp searched
  cases success
  have none : existing = none := by simpa using absent
  refine ⟨slug, itemId, document, planValue, isSlug, by simpa using titled, isId, ?_, ?_, rendered,
    rfl⟩
  · rcases givenId_eq_ok.mp givenValid with ⟨noId, rfl⟩ | ⟨_, valid, accepted, rfl⟩
    · exact Or.inr ⟨noId, chosen⟩
    · cases chosen
      exact Or.inl accepted
  · intro path bears
    have some := (known path).mpr bears
    rw [none] at some
    cases some

/-- **What `set_state` does.** -/
theorem of_setState {newState : Text}
    (success : setState host scan now repository itemId newState = .ok (target, repository')) :
    ∃ bucket plan source document written body, startsRV itemId = false ∧
      repository.get? (.item source plan itemId) = some document ∧
      itemWorkflow.placementForState newState = .ok bucket ∧
      itemWorkflow.checkTransition (document.frontmatter.state pendingState) newState = .ok ⟨⟩ ∧
      (newState = completedState →
        requireCompletable host scan repository itemId document.text = .ok ⟨⟩) ∧
      render host (document.frontmatter.set stateKey (.text newState)) body = .ok written ∧
      repository' = repository.move (.item source plan itemId) (.item bucket plan itemId)
        written := by
  unfold setState at success
  obtain ⟨bucket, placedIn, success⟩ := bind_eq_ok.mp success
  obtain ⟨⟨path, document⟩, found, success⟩ := bind_eq_ok.mp success
  obtain ⟨_, kind, success⟩ := bind_eq_ok.mp success
  obtain ⟨_, success⟩ := refuse_bind_eq_ok.mp success
  obtain ⟨_, allowed, success⟩ := bind_eq_ok.mp success
  obtain ⟨completable, success⟩ := checkIf_bind_eq_ok.mp success
  obtain ⟨written, rendered, success⟩ := bind_eq_ok.mp success
  obtain ⟨source, plan, rfl, plain, here⟩ := item_of_requireItem placed found kind
  cases success
  exact ⟨bucket, plan, source, document, written, _, plain, here, placedIn, allowed, completable,
    rendered, rfl⟩

/-- **What `update_item` does.** -/
theorem of_updateItem {updates : Arguments} {append : Option (List Text)}
    (success : updateItem host scan now repository itemId updates append = .ok (target,
      repository')) :
    ∃ bucket plan document written body, startsRV itemId = false ∧
      checkUpdates updates append = .ok ⟨⟩ ∧
      repository.get? (.item bucket plan itemId) = some document ∧
      ((updatedFrontmatter updates document.frontmatter).value stateKey = .text completedState →
        requireCompletionSections (parseItemSections host
          (updatedBody host updates append document.text itemId)) = .ok ⟨⟩) ∧
      render host (updatedFrontmatter updates document.frontmatter) body = .ok written ∧
      repository' = repository.set (.item bucket plan itemId) written := by
  unfold updateItem at success
  obtain ⟨_, checked, success⟩ := bind_eq_ok.mp success
  obtain ⟨⟨path, document⟩, found, success⟩ := bind_eq_ok.mp success
  obtain ⟨_, kind, success⟩ := bind_eq_ok.mp success
  obtain ⟨complete, success⟩ := checkIf_bind_eq_ok.mp success
  obtain ⟨written, rendered, success⟩ := bind_eq_ok.mp success
  obtain ⟨bucket, plan, rfl, plain, here⟩ := item_of_requireItem placed found kind
  cases success
  exact ⟨bucket, plan, document, written, _, plain, checked, here, complete, rendered, rfl⟩

/-- **What `delete_item` does.** -/
theorem of_deleteItem (success : deleteItem scan repository itemId = .ok (target, repository')) :
    ∃ bucket plan document, repository.get? (.item bucket plan itemId) = some document ∧
      reviewPaths scan repository itemId = [] ∧
      repository' = repository.pop (.item bucket plan itemId) := by
  unfold deleteItem at success
  obtain ⟨⟨path, document⟩, found, success⟩ := bind_eq_ok.mp success
  obtain ⟨_, kind, success⟩ := bind_eq_ok.mp success
  obtain ⟨none, success⟩ := refuse_bind_eq_ok.mp success
  obtain ⟨bucket, plan, rfl, _, here⟩ := item_of_requireItem placed found kind
  cases success
  exact ⟨bucket, plan, document, here, by simpa using none, rfl⟩

/-! ## Reviews -/

/-- **What `create_review` does.** -/
theorem of_createReview {review : Arguments}
    (success : createReview host scan repository review = .ok (target, repository')) :
    ∃ bucket plan parentId reviewId parent written parentWritten, isItemId parentId = true ∧
      startsRV parentId = false ∧ isReviewId reviewId = true ∧
      repository.get? (.item bucket plan parentId) = some parent ∧
      (∀ state ∈ itemWorkflow.terminal, parent.frontmatter.value stateKey ≠ .text state) ∧
      (∀ path, ¬ repository.Bears reviewId path) ∧
      render host (newReviewFrontmatter review reviewId parentId (.text plan))
        (newReviewBody host review) = .ok written ∧
      render host parent.frontmatter (appendReviewLink host parent.text reviewId) =
        .ok parentWritten ∧
      repository' = (repository.set (.review .active plan parentId reviewId) written).set
        (.item bucket plan parentId) parentWritten := by
  unfold createReview at success
  obtain ⟨_, success⟩ := refuse_bind_eq_ok.mp success
  obtain ⟨parentId, parentValid, success⟩ := bind_eq_ok.mp success
  obtain ⟨_, success⟩ := refuse_bind_eq_ok.mp success
  obtain ⟨given, givenValid, success⟩ := bind_eq_ok.mp success
  obtain ⟨found, searched, success⟩ := bind_eq_ok.mp success
  obtain ⟨_, isItem, plain⟩ := validateItemId_eq_ok.mp parentValid
  obtain ⟨_, _, known⟩ := placed.findItem_eq_ok.mp searched
  cases found with
  | none => simp at success
  | some parentPath =>
    obtain ⟨⟨parent, here⟩, kind, stem⟩ := (known parentPath).mp rfl
    rw [plain] at kind
    have fits := placed.fits here
    simp only [bind_some, here, map_some] at success
    cases parentPath with
    | review bucket plan parent id => cases kind
    | item bucket plan id =>
      cases stem
      have planName : parent.frontmatter.get? planKey = some (.text plan) := fits.plan
      rw [planName, getD_some] at success
      obtain ⟨_, checked⟩ := refuse_bind_eq_ok.mp success
      obtain ⟨notTerminal, searching⟩ := refuse_bind_eq_ok.mp checked
      obtain ⟨existing, searchedReview, creation⟩ := bind_eq_ok.mp searching
      obtain ⟨absent, creation⟩ := refuse_bind_eq_ok.mp creation
      obtain ⟨written, rendered, creation⟩ := bind_eq_ok.mp creation
      obtain ⟨parentWritten, parentRendered, created⟩ := bind_eq_ok.mp creation
      obtain ⟨isId, _, knownReview⟩ := placed.findItem_eq_ok.mp searchedReview
      have none : existing = none := by simpa using absent
      cases created
      refine ⟨bucket, plan, id, given.getD (nextReviewId scan repository), parent, written,
        parentWritten, isItem, plain, ?_, here, ?_, ?_, rendered, parentRendered, rfl⟩
      · rcases givenId_eq_ok.mp givenValid with ⟨_, rfl⟩ | ⟨_, reviewId, accepted, rfl⟩
        · rcases isId with isReview | ⟨_, notReview⟩
          · exact isReview
          · cases notReview
        · exact (validateReviewId_eq_ok.mp accepted).2
      · intro state member same
        exact notTerminal (List.any_eq_true.mpr ⟨state, member, decide_eq_true same⟩)
      · intro path bears
        have some := (knownReview path).mpr bears
        rw [none] at some
        cases some

/-- **What `set_review_state` does.** -/
theorem of_setReviewState {newState : Text}
    (success : setReviewState host scan repository reviewId newState = .ok (target, repository')) :
    ∃ source bucket tree plan parentId document parent written,
      repository.get? (.review source plan parentId reviewId) = some document ∧
      repository.get? (.item tree plan parentId) = some parent ∧
      reviewWorkflow.placementForState newState = .ok bucket ∧
      (reviewWorkflow.active.contains newState = true → ∀ state ∈ itemWorkflow.terminal,
        parent.frontmatter.value stateKey ≠ .text state) ∧
      render host (document.frontmatter.set stateKey (.text newState)) document.text =
        .ok written ∧
      repository' = repository.move (.review source plan parentId reviewId)
        (.review bucket plan parentId reviewId) written := by
  unfold setReviewState at success
  obtain ⟨⟨path, document⟩, found, success⟩ := bind_eq_ok.mp success
  obtain ⟨_, kind, success⟩ := bind_eq_ok.mp success
  obtain ⟨context, resolved, success⟩ := bind_eq_ok.mp success
  obtain ⟨_, _, success⟩ := bind_eq_ok.mp success
  obtain ⟨_, _, success⟩ := bind_eq_ok.mp success
  obtain ⟨permitted, success⟩ := refuse_bind_eq_ok.mp success
  obtain ⟨bucket, placedIn, success⟩ := bind_eq_ok.mp success
  obtain ⟨written, rendered, success⟩ := bind_eq_ok.mp success
  obtain ⟨source, plan, parentId, rfl, here⟩ := review_of_requireItem placed found kind
  obtain ⟨source', tree, plan', parentId', _, _, reviewHere, parentHere⟩ :=
    of_requireCanonicalReviewContext placed resolved
  cases placed.distinct here reviewHere rfl rfl rfl
  cases success
  refine ⟨source, bucket, tree, plan, parentId, document, context.parent, written, here,
    parentHere, placedIn, ?_, rendered, rfl⟩
  intro active state member same
  exact permitted ⟨active, List.any_eq_true.mpr ⟨state, member, decide_eq_true same⟩⟩

/-- **What `update_review` does.** -/
theorem of_updateReview {updates : Arguments}
    (success : updateReview host scan repository reviewId updates = .ok (target, repository')) :
    ∃ bucket plan parentId document written body,
      updates.keys.any protectedReviewFields.contains = false ∧
      repository.get? (.review bucket plan parentId reviewId) = some document ∧
      render host (overlayReview updates document.frontmatter
        (reviewBodySections host document.text)).1 body = .ok written ∧
      repository' = repository.set (.review bucket plan parentId reviewId) written := by
  unfold updateReview at success
  obtain ⟨unprotected, success⟩ := refuse_bind_eq_ok.mp success
  obtain ⟨_, success⟩ := refuse_bind_eq_ok.mp success
  obtain ⟨⟨path, document⟩, found, success⟩ := bind_eq_ok.mp success
  obtain ⟨_, kind, success⟩ := bind_eq_ok.mp success
  obtain ⟨context, resolved, success⟩ := bind_eq_ok.mp success
  obtain ⟨_, _, success⟩ := bind_eq_ok.mp success
  obtain ⟨written, rendered, success⟩ := bind_eq_ok.mp success
  obtain ⟨bucket, plan, parentId, rfl, here⟩ := review_of_requireItem placed found kind
  cases success
  exact ⟨bucket, plan, parentId, document, written, _, by simpa using unprotected, here, rendered,
    rfl⟩

/-- **What `delete_review` does.** -/
theorem of_deleteReview
    (success : deleteReview host scan repository reviewId = .ok (target, repository')) :
    ∃ bucket tree plan parentId document parent written,
      repository.get? (.review bucket plan parentId reviewId) = some document ∧
      repository.get? (.item tree plan parentId) = some parent ∧
      render host parent.frontmatter (removeReviewLink host parent.text reviewId) =
        .ok written ∧
      repository' = (repository.set (.item tree plan parentId) written).pop
        (.review bucket plan parentId reviewId) := by
  unfold deleteReview at success
  obtain ⟨⟨path, document⟩, found, success⟩ := bind_eq_ok.mp success
  obtain ⟨_, kind, success⟩ := bind_eq_ok.mp success
  obtain ⟨context, resolved, success⟩ := bind_eq_ok.mp success
  obtain ⟨_, _, success⟩ := bind_eq_ok.mp success
  obtain ⟨written, rendered, success⟩ := bind_eq_ok.mp success
  obtain ⟨bucket, plan, parentId, rfl, here⟩ := review_of_requireItem placed found kind
  obtain ⟨bucket', tree, plan', parentId', _, sameParent, reviewHere, parentHere⟩ :=
    of_requireCanonicalReviewContext placed resolved
  cases placed.distinct here reviewHere rfl rfl rfl
  cases success
  exact ⟨bucket, tree, plan, parentId, document, context.parent, written, here, parentHere,
    rendered, by rw [sameParent]⟩

end

end Audiagentic.Planning
