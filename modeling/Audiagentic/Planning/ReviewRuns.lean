import Audiagentic.Planning.RepositoryRuns

/-!
# Reviews and their items

A review is created under an item that is there, an item with reviews is not deleted, and an item
is completed only when its reviews are closed.  No later call undoes this.
-/

namespace Audiagentic.Planning

open Foundations OrderedDict

variable {host : Host} {repository : Repository} {path target : RecordPath}
  {document stored : Document} {bucket source : Bucket} {plan itemId reviewId : Text}

def isCompleted (document : Document) : Prop :=
  document.frontmatter.value stateKey = .text completedState

/-- Every review lies under an item of its plan, and none under a completed item is open. -/
structure Reviewed (repository : Repository) : Prop where
  parent : ∀ {tree plan itemId reviewId review},
    repository.get? (.review tree plan itemId reviewId) = some review →
      ∃ bucket item, repository.get? (.item bucket plan itemId) = some item
  closed : ∀ {bucket plan itemId item tree slug reviewId review},
    repository.get? (.item bucket plan itemId) = some item → isCompleted item →
      repository.get? (.review tree slug itemId reviewId) = some review →
        isOpenReview review = false

namespace Reviewed

section

variable (reviewed : Reviewed repository)
include reviewed

theorem pop (still : ∀ {tree plan itemId reviewId review},
      repository.get? (.review tree plan itemId reviewId) = some review →
        ∃ bucket item, .item bucket plan itemId ≠ path ∧
          repository.get? (.item bucket plan itemId) = some item) :
    Reviewed (repository.pop path) := by
  have kept : ∀ {other stored}, (repository.pop path).get? other = some stored →
      repository.get? other = some stored := by
    intro other stored found
    rw [get?_pop] at found
    split at found
    · cases found
    · exact found
  refine ⟨fun review => ?_,
    fun item completed review => reviewed.closed (kept item) completed (kept review)⟩
  obtain ⟨bucket, item, different, here⟩ := still (kept review)
  exact ⟨bucket, item, by rw [get?_pop, if_neg different, here]⟩

theorem pop_review : Reviewed (repository.pop (.review source plan itemId reviewId)) := by
  refine reviewed.pop fun review => ?_
  obtain ⟨bucket, item, here⟩ := reviewed.parent review
  exact ⟨bucket, item, by simp, here⟩

theorem parent_set (here : repository.get? (.review source plan itemId reviewId) = some stored) :
    ∃ bucket item, (repository.set path document).get? (.item bucket plan itemId) = some item := by
  obtain ⟨bucket, item, found⟩ := reviewed.parent here
  refine ⟨bucket, ?_⟩
  rw [get?_set]
  split
  · exact ⟨document, rfl⟩
  · exact ⟨item, found⟩

theorem set_item
    (complete : isCompleted document → ∀ {tree slug reviewId review},
      repository.get? (.review tree slug itemId reviewId) = some review →
        isOpenReview review = false) :
    Reviewed (repository.set (.item bucket plan itemId) document) := by
  refine ⟨fun review => ?_, fun item completed review => ?_⟩ <;>
    rw [get?_set_of_ne _ (by simp)] at review
  · exact reviewed.parent_set review
  rw [get?_set] at item
  split at item
  next same =>
    cases same
    cases item
    exact complete completed review
  · exact reviewed.closed item completed review

theorem set_review
    (parent : repository.get? (.item bucket plan itemId) = some stored)
    (unfinished : isOpenReview document = true → ∀ {tree slug item},
      repository.get? (.item tree slug itemId) = some item → ¬ isCompleted item) :
    Reviewed (repository.set (.review source plan itemId reviewId) document) := by
  refine ⟨fun review => ?_, fun item completed review => ?_⟩ <;> rw [get?_set] at review <;>
    split at review
  next same =>
    cases same
    exact ⟨bucket, stored, by rw [get?_set_of_ne _ (by simp), parent]⟩
  · exact reviewed.parent_set review
  all_goals rw [get?_set_of_ne _ (by simp)] at item
  next same =>
    cases same
    cases review
    exact Bool.eq_false_iff.mpr fun isOpen => unfinished isOpen item completed
  · exact reviewed.closed item completed review

theorem set_same (here : repository.get? path = some stored)
    (same : document.frontmatter.value stateKey = stored.frontmatter.value stateKey) :
    Reviewed (repository.set path document) := by
  cases path with
  | item =>
    exact reviewed.set_item fun completed => reviewed.closed here (same.symm.trans completed)
  | review =>
    obtain ⟨bucket, item, parent⟩ := reviewed.parent here
    refine reviewed.set_review parent fun isOpen _ _ _ item completed => ?_
    have shut := reviewed.closed item completed here
    rw [isOpenReview, ← same] at shut
    exact Bool.false_ne_true (shut.symm.trans isOpen)

end

theorem move_item (written : Reviewed (repository.set (.item bucket plan itemId) document)) :
    Reviewed (repository.move (.item source plan itemId) (.item bucket plan itemId) document) := by
  rw [Repository.move]
  split
  · exact written
  next moved =>
    refine written.pop fun {_ slug parentId _ _} review => ?_
    obtain ⟨other, item, there⟩ := written.parent review
    by_cases left : RecordPath.item other slug parentId = .item source plan itemId
    · cases left
      exact ⟨bucket, document, moved, get?_set_self _ _ _⟩
    · exact ⟨other, item, left, there⟩

theorem move_review
    (written : Reviewed (repository.set (.review bucket plan itemId reviewId) document)) :
    Reviewed (repository.move (.review source plan itemId reviewId)
      (.review bucket plan itemId reviewId) document) := by
  rw [Repository.move]
  split
  · exact written
  · exact written.pop_review

section

variable (placed : Placed repository)
include placed

/-- The parent of a review is the one item with its id. -/
theorem not_completed (plain : startsRV itemId = false)
    (here : repository.get? (.item bucket plan itemId) = some document)
    (unfinished : ∀ state ∈ itemWorkflow.terminal,
      document.frontmatter.value stateKey ≠ .text state)
    {slug : Text} (found : repository.get? (.item source slug itemId) = some stored) :
    ¬ isCompleted stored := by
  cases placed.distinct here found rfl rfl (RecordPath.misnamed_eq_false plain.symm)
  cases here.symm.trans found
  exact unfinished completedState (by decide)

theorem mem_reviewPaths {scan : Scan}
    (here : repository.get? (.review bucket plan itemId reviewId) = some document) :
    (.review bucket plan itemId reviewId, document) ∈ reviewPaths scan repository itemId := by
  refine List.mem_filter.mpr ⟨mem_files.mpr here, ?_⟩
  simp [RecordPath.isReview, RecordPath.parentName, (placed.fits here).stem_startsRV rfl]

theorem operate {scan : Scan} {now : Timestamp} {operation : Operation} {repository' : Repository}
    (reviewed : Reviewed repository)
    (success : operate host repository ⟨scan, now, operation⟩ = .ok (target, repository')) :
    Reviewed repository' := by
  cases operation <;> simp only [Planning.operate] at success
  case createItem item =>
    obtain ⟨slug, itemId, document, _, isSlug, _, isId, _, _, rendered, rfl⟩ :=
      of_createItem placed success
    refine reviewed.set_item fun completed => absurd completed ?_
    rw [isCompleted, Frontmatter.value, (fits_newItem isSlug isId).get?_render rendered (by simp),
      newItemFrontmatter, get?_addRequestedFields (Or.inl rfl)]
    exact show Value.text pendingState ≠ .text completedState by decide
  case updateItem itemId updates append =>
    obtain ⟨_, _, document, _, _, _, checked, here, _, rendered, rfl⟩ :=
      of_updateItem placed success
    have kept : ∀ key ∈ [idKey, planKey, reviewOfKey, stateKey],
        (updatedFrontmatter updates document.frontmatter).get? key =
          document.frontmatter.get? key :=
      fun key listed => get?_updatedFrontmatter checked (by revert key; decide)
    refine reviewed.set_same here ?_
    rw [Frontmatter.value, ((placed.fits here).congr kept).get?_render rendered (by simp),
      kept stateKey (by simp)]
    rfl
  case setState itemId newState =>
    obtain ⟨bucket, plan, source, document, _, _, _, here, placedIn, _, completable, rendered,
      rfl⟩ := of_setState placed success
    refine move_item (reviewed.set_item fun completed _ _ _ _ found => ?_)
    have fits := placed.fits here
    have moved : Fits (.item bucket plan itemId)
        (document.frontmatter.set stateKey (.text newState)) :=
      fits.set_state fits.named rfl rfl rfl placedIn
    have state : newState = completedState := by
      rw [isCompleted, Frontmatter.value, moved.get?_render rendered (by simp)] at completed
      simpa using completed
    obtain ⟨_, _, shut⟩ := bind_eq_ok.mp (completable state)
    obtain ⟨_, shut⟩ := refuse_bind_eq_ok.mp shut
    refine Bool.eq_false_iff.mpr fun isOpen => refuse_eq_ok.mp shut ?_
    exact List.any_eq_true.mpr ⟨_, mem_reviewPaths placed found, isOpen⟩
  case deleteItem itemId =>
    obtain ⟨_, _, _, _, none, rfl⟩ := of_deleteItem placed success
    refine reviewed.pop fun review => ?_
    obtain ⟨bucket, item, here⟩ := reviewed.parent review
    refine ⟨bucket, item, ?_, here⟩
    rintro ⟨⟩
    exact List.not_mem_nil (none ▸ mem_reviewPaths placed review)
  case createReview review =>
    obtain ⟨bucket, plan, parentId, reviewId, parent, _, parentWritten, _, plain, _, here,
      unfinished, _, _, rendered, rfl⟩ := of_createReview placed success
    have same : parentWritten.frontmatter.value stateKey = parent.frontmatter.value stateKey := by
      rw [Frontmatter.value, (placed.fits here).get?_render rendered (by simp)]
      rfl
    refine set_same (reviewed.set_review here fun _ _ _ _ found => ?_)
      ((get?_set_of_ne _ (by simp) _).trans here) same
    exact not_completed placed plain here unfinished found
  case updateReview reviewId updates =>
    obtain ⟨_, _, _, document, _, _, checked, here, rendered, rfl⟩ :=
      of_updateReview placed success
    have kept : ∀ key ∈ [idKey, planKey, reviewOfKey, stateKey],
        (overlayReview updates document.frontmatter
          (reviewBodySections host document.text)).1.get? key = document.frontmatter.get? key :=
      fun key listed => get?_overlayReview checked (by revert key; decide)
    refine reviewed.set_same here ?_
    rw [Frontmatter.value, ((placed.fits here).congr kept).get?_render rendered (by simp),
      kept stateKey (by simp)]
    rfl
  case setReviewState reviewId newState =>
    obtain ⟨_, bucket, tree, plan, parentId, document, parent, _, here, parentHere, placedIn,
      permitted, rendered, rfl⟩ := of_setReviewState placed success
    have fits := placed.fits here
    have plain := fits.named.2.2.2
    have moved : Fits (.review bucket plan parentId reviewId)
        (document.frontmatter.set stateKey (.text newState)) :=
      fits.set_state fits.named rfl rfl rfl placedIn
    refine move_review (reviewed.set_review parentHere fun isOpen _ _ _ found => ?_)
    refine not_completed placed plain parentHere (permitted ?_) found
    rw [isOpenReview, Frontmatter.value, moved.get?_render rendered (by simp)] at isOpen
    simpa using isOpen
  case deleteReview reviewId =>
    obtain ⟨_, _, _, _, _, _, _, _, parentHere, rendered, rfl⟩ := of_deleteReview placed success
    refine Reviewed.pop_review (reviewed.set_same parentHere ?_)
    rw [Frontmatter.value, (placed.fits parentHere).get?_render rendered (by simp)]
    rfl

end

theorem step {state : Project} (placed : Placed state.records) (reviewed : Reviewed state.records)
    (call : Call) : Reviewed (step host state call).records := by
  rcases step_cases host state call with same | ⟨target, success⟩
  · rw [same]
    exact reviewed
  · exact reviewed.operate placed success

end Reviewed

/-- **In every run every review has its item, and no completed item has an open review.** -/
theorem reviewed_of_every_run (host : Host) (calls : List Call) :
    Reviewed (exec (step host) .empty calls).records := by
  refine (@exec_invariant _ _ (step host)
    (fun state => Placed state.records ∧ Reviewed state.records) ?_ .empty
    ⟨placed_empty, ⟨?_, ?_⟩⟩ calls).2
  · exact fun _ call kept => ⟨kept.1.step call, Reviewed.step kept.1 kept.2 call⟩
  all_goals exact nofun

end Audiagentic.Planning
