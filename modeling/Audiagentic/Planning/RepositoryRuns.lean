import Audiagentic.Foundations.Runs
import Audiagentic.Planning.Operations

/-!
# Runs of planning operations

A run is a list of calls, each with its arguments, the time it reads and the order in which it
finds the directories listed.  A call that raises leaves the records as they are.  One whose file
name is too long for the temporary file alone leaves a transaction that no reconciliation can
complete, and every later call raises.

`placed_exec`: after every run from an empty repository, every record lies where its metadata
says, and no two items and no two reviews have one id.
-/

namespace Audiagentic.Planning

open Foundations OrderedDict

/-! ## Calls -/

/-- The calls that write records. -/
inductive Operation where
  | createItem (item : Arguments)
  | updateItem (itemId : Text) (updates : Arguments) (append : Option (List Text))
  | setState (itemId newState : Text)
  | deleteItem (itemId : Text)
  | createReview (review : Arguments)
  | updateReview (reviewId : Text) (updates : Arguments)
  | setReviewState (reviewId newState : Text)
  | deleteReview (reviewId : Text)

/-- A call, with the listing of the directories and the clock that it meets. -/
structure Call where
  scan : Scan
  now : Timestamp
  operation : Operation

/-- What a call gives to `commit_mutation`, with the file that it names first. -/
def operate (host : Host) (repository : Repository) (call : Call) :
    Except RecordError (RecordPath × Repository) :=
  match call.operation with
  | .createItem item => createItem host call.scan call.now repository item
  | .updateItem itemId updates append =>
    updateItem host call.scan call.now repository itemId updates append
  | .setState itemId newState => setState host call.scan call.now repository itemId newState
  | .deleteItem itemId => deleteItem call.scan repository itemId
  | .createReview review => createReview host call.scan repository review
  | .updateReview reviewId updates => updateReview host call.scan repository reviewId updates
  | .setReviewState reviewId newState =>
    setReviewState host call.scan repository reviewId newState
  | .deleteReview reviewId => deleteReview host call.scan repository reviewId

/-- The records, and whether a transaction is pending that cannot be completed. -/
structure Project where
  records : Repository
  stuck : Bool

def Project.empty : Project := ⟨∅, false⟩

/-- The `OSError` of a name that is too long. -/
def nameTooLong : RecordError := ⟨"OSError", "file name too long", []⟩

/-- `commit_mutation`.  The file is looked up before the manifest is durable.  The name of its
temporary file has ten characters more, and is tried after that. -/
def commit (host : Host) (state : Project) (target : RecordPath) (records : Repository) :
    Except RecordError RecordPath × Project :=
  if host.nameMax < target.stem.length + 3 then (.error nameTooLong, state)
  else if host.nameMax < target.stem.length + 13 then
    (.error nameTooLong, { state with stuck := true })
  else (.ok target, { state with records := records })

/-- A call: every one reconciles the pending transactions first. -/
def performCall (host : Host) (state : Project) (call : Call) :
    Except RecordError RecordPath × Project :=
  if state.stuck then (.error nameTooLong, state)
  else
    match operate host state.records call with
    | .error error => (.error error, state)
    | .ok (target, records) => commit host state target records

def step (host : Host) (state : Project) (call : Call) : Project :=
  (performCall host state call).2

/-- **A call either leaves the records as they are, or commits.** -/
theorem step_cases (host : Host) (state : Project) (call : Call) :
    (step host state call).records = state.records ∨
      ∃ target, operate host state.records call =
        .ok (target, (step host state call).records) := by
  unfold step performCall
  split
  · exact .inl rfl
  cases operated : operate host state.records call with
  | error error => exact .inl rfl
  | ok result =>
    dsimp only [commit]
    split
    · exact .inl rfl
    split
    · exact .inl rfl
    · exact .inr ⟨result.1, rfl⟩

/-! ## Metadata -/

section Metadata

variable {item review updates : Arguments} {itemId slug parentId reviewId plan : Text}
  {now : Timestamp} {frontmatter : Frontmatter} {path : RecordPath}

theorem get?_foldl {ι κ ν : Type} [DecidableEq κ] {round : OrderedDict κ ν → ι → OrderedDict κ ν}
    {items : List ι} {key : κ}
    (keeps : ∀ dict, ∀ item ∈ items, (round dict item).get? key = dict.get? key)
    (dict : OrderedDict κ ν) : (items.foldl round dict).get? key = dict.get? key := by
  refine List.foldlRecOn (motive := fun other : OrderedDict κ ν => other.get? key = dict.get? key)
    items round rfl ?_
  intro current same item member
  rw [keeps current item member, same]

theorem get?_addRequestedFields {key : Text}
    (known : frontmatter.has key = true ∨ key ∉ frontmatterFields) :
    (addRequestedFields item frontmatter).get? key = frontmatter.get? key := by
  refine List.foldlRecOn (motive := fun other : Frontmatter => other.get? key =
    frontmatter.get? key)
    _ _ rfl ?_
  intro current same field member
  split
  · exact same
  next absent =>
    split
    · have different : key ≠ field := by
        rintro rfl
        rcases known with known | foreign
        · rw [OrderedDict.has, same] at absent
          exact absent known
        · exact foreign member
      rw [get?_set_of_ne _ different, same]
    · exact same

/-- **A new item lies where its metadata says.** -/
theorem fits_newItem (isSlug : isPlanSlug slug = true) (isId : IsRecordId itemId) :
    Fits (.item .active slug itemId) (newItemFrontmatter item itemId slug now) where
  named := ⟨isSlug, isId⟩
  id := get?_addRequestedFields (Or.inl rfl)
  plan := get?_addRequestedFields (Or.inl rfl)
  parent := get?_addRequestedFields (Or.inr (by decide))
  placed := ⟨pendingState, get?_addRequestedFields (Or.inl rfl), rfl⟩

/-- **A new review lies where its metadata says.** -/
theorem fits_newReview (isSlug : isPlanSlug plan = true) (isReview : isReviewId reviewId = true)
    (isItem : isItemId parentId = true) (plain : startsRV parentId = false) :
    Fits (.review .active plan parentId reviewId)
      (newReviewFrontmatter review reviewId parentId (.text plan)) where
  named := ⟨isSlug, isReview, isItem, plain⟩
  id := rfl
  plan := rfl
  parent := rfl
  placed := ⟨createdState, rfl, rfl⟩

theorem get?_updatedFrontmatter {append : Option (List Text)} {key : Text}
    (checked : checkUpdates updates append = .ok ⟨⟩) (guarded : key ∈ protectedFields) :
    (updatedFrontmatter updates frontmatter).get? key = frontmatter.get? key := by
  obtain ⟨unprotected, _⟩ := refuse_bind_eq_ok.mp checked
  refine get?_foldl ?_ frontmatter
  intro current entry member
  split
  · have given : entry.1 ∉ protectedFields := by
      intro named
      refine unprotected (List.any_eq_true.mpr ⟨entry.1, ?_, List.contains_iff_mem.mpr named⟩)
      exact List.mem_map_of_mem member
    have different : key ≠ frontmatterKey entry.1 := by
      rw [frontmatterKey]
      split
      · rintro rfl
        revert guarded
        decide
      · rintro rfl
        exact given guarded
    exact get?_set_of_ne _ different _
  · rfl

theorem get?_overlayReview {sections : OrderedDict Text Text} {key : Text}
    (checked : updates.keys.any protectedReviewFields.contains = false)
    (guarded : key ∈ protectedReviewFields) :
    (overlayReview updates frontmatter sections).1.get? key = frontmatter.get? key := by
  refine List.foldlRecOn
    (motive := fun state : Frontmatter × OrderedDict Text Text =>
      state.1.get? key = frontmatter.get? key) _ _ rfl ?_
  intro current same entry member
  have given : entry.1 ∉ protectedReviewFields := by
    intro named
    have fires : updates.keys.any protectedReviewFields.contains = true :=
      List.any_eq_true.mpr ⟨entry.1, List.mem_map_of_mem member, List.contains_iff_mem.mpr named⟩
    rw [checked] at fires
    cases fires
  have different : key ≠ reviewFrontmatterKey entry.1 := by
    rw [reviewFrontmatterKey]
    split
    · rintro rfl
      revert guarded
      decide
    · rintro rfl
      exact given guarded
  dsimp only
  split
  · rw [get?_set_of_ne _ different, same]
  · split <;> exact same

end Metadata

/-! ## Every call keeps the records placed -/

section Runs

variable {host : Host} {scan : Scan} {now : Timestamp} {repository repository' : Repository}
  {path target : RecordPath}

theorem Fits.set_state {frontmatter : Frontmatter} {newState : Text} (fits : Fits path frontmatter)
    (named : target.wellNamed) (stem : target.stem = path.stem) (plan : target.plan = path.plan)
    (parent : target.parentValue = path.parentValue)
    (placedIn : target.workflow.placementForState newState = .ok target.bucket) :
    Fits target (frontmatter.set stateKey (.text newState)) where
  named := named
  id := by rw [get?_set_of_ne _ (by decide), fits.id, stem]
  plan := by rw [get?_set_of_ne _ (by decide), fits.plan, plan]
  parent := by rw [get?_set_of_ne _ (by decide), fits.parent, parent]
  placed := ⟨newState, get?_set_self _ _ _, placedIn⟩

namespace Placed

section

variable (placed : Placed repository)
include placed

theorem createItem {item : Arguments}
    (success : createItem host scan now repository item = .ok (target, repository')) :
    Placed repository' := by
  obtain ⟨slug, itemId, document, _, isSlug, _, isId, _, absent, rendered, rfl⟩ :=
    of_createItem placed success
  refine placed.set ((fits_newItem isSlug isId).render rendered) ?_
  intro named other stored here kind stem
  have plain : startsRV itemId = false := by
    simpa [RecordPath.misnamed, RecordPath.isReview, RecordPath.stem] using named
  exact absurd ⟨⟨stored, here⟩, kind.trans plain.symm, stem⟩ (absent other)

theorem updateItem {itemId : Text} {updates : Arguments} {append : Option (List Text)}
    (success : updateItem host scan now repository itemId updates append = .ok (target,
      repository')) : Placed repository' := by
  obtain ⟨bucket, plan, document, written, body, _, checked, here, _, rendered, rfl⟩ :=
    of_updateItem placed success
  refine placed.set_existing here (((placed.fits here).congr ?_).render rendered)
  intro key member
  refine get?_updatedFrontmatter checked ?_
  revert key
  decide

theorem setState {itemId newState : Text}
    (success : setState host scan now repository itemId newState = .ok (target, repository')) :
    Placed repository' := by
  obtain ⟨bucket, plan, source, document, written, body, _, here, placedIn, _, _, rendered,
    rfl⟩ := of_setState placed success
  have fits := placed.fits here
  have moved : Fits (.item bucket plan itemId)
    (document.frontmatter.set stateKey (.text newState)) :=
    fits.set_state fits.named rfl rfl rfl placedIn
  exact placed.move here rfl rfl (moved.render rendered)

theorem deleteItem {itemId : Text}
    (success : deleteItem scan repository itemId = .ok (target, repository')) :
    Placed repository' := by
  obtain ⟨bucket, plan, document, _, _, rfl⟩ := of_deleteItem placed success
  exact placed.pop _

theorem createReview {review : Arguments}
    (success : createReview host scan repository review = .ok (target, repository')) :
    Placed repository' := by
  obtain ⟨bucket, plan, parentId, reviewId, parent, written, parentWritten, isItem, plain,
    isReview, here, _, absent, rendered, parentRendered, rfl⟩ := of_createReview placed success
  have parentFits := placed.fits here
  have created : Placed (repository.set (.review .active plan parentId reviewId) written) := by
    refine placed.set
      ((fits_newReview parentFits.named.1 isReview isItem plain).render rendered) ?_
    intro _ other stored found kind stem
    have starts : startsRV reviewId = true := startsRV_of_isReviewId isReview
    exact absurd ⟨⟨stored, found⟩, kind.trans starts.symm, stem⟩ (absent other)
  have still : (repository.set (.review .active plan parentId reviewId) written).get?
      (.item bucket plan parentId) = some parent := by
    rw [get?_set_of_ne _ (by simp), here]
  exact created.set_existing still (parentFits.render parentRendered)

theorem updateReview {reviewId : Text} {updates : Arguments}
    (success : updateReview host scan repository reviewId updates = .ok (target, repository')) :
    Placed repository' := by
  obtain ⟨bucket, plan, parentId, document, written, body, checked, here, rendered, rfl⟩ :=
    of_updateReview placed success
  refine placed.set_existing here (((placed.fits here).congr ?_).render rendered)
  intro key member
  refine get?_overlayReview checked ?_
  revert key
  decide

theorem setReviewState {reviewId newState : Text}
    (success : setReviewState host scan repository reviewId newState = .ok (target, repository')) :
    Placed repository' := by
  obtain ⟨source, bucket, tree, plan, parentId, document, parent, written, here, _, placedIn, _,
    rendered, rfl⟩ := of_setReviewState placed success
  have fits := placed.fits here
  have moved : Fits (.review bucket plan parentId reviewId)
      (document.frontmatter.set stateKey (.text newState)) :=
    fits.set_state fits.named rfl rfl rfl placedIn
  exact placed.move here rfl rfl (moved.render rendered)

theorem deleteReview {reviewId : Text}
    (success : deleteReview host scan repository reviewId = .ok (target, repository')) :
    Placed repository' := by
  obtain ⟨bucket, tree, plan, parentId, document, parent, written, _, parentHere, rendered, rfl⟩ :=
    of_deleteReview placed success
  exact (placed.set_existing parentHere ((placed.fits parentHere).render rendered)).pop _

end

/-- **One call.** -/
theorem step {state : Project} (placed : Placed state.records) (call : Call) :
    Placed (step host state call).records := by
  rcases step_cases host state call with same | ⟨target, success⟩
  · rw [same]
    exact placed
  obtain ⟨scan, now, operation⟩ := call
  cases operation with
  | createItem item => exact placed.createItem success
  | updateItem itemId updates append => exact placed.updateItem success
  | setState itemId newState => exact placed.setState success
  | deleteItem itemId => exact placed.deleteItem success
  | createReview review => exact placed.createReview success
  | updateReview reviewId updates => exact placed.updateReview success
  | setReviewState reviewId newState => exact placed.setReviewState success
  | deleteReview reviewId => exact placed.deleteReview success

end Placed

/-- **Every run.** -/
theorem placed_exec (host : Host) (calls : List Call) :
    Placed (exec (step host) .empty calls).records := by
  refine @exec_invariant _ _ (step host) (fun state => Placed state.records) ?_ .empty placed_empty
    calls
  exact fun _ call placed => placed.step call

end Runs

end Audiagentic.Planning
