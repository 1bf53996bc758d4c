import Mathlib.Data.Set.Card
import Audiagentic.Gateway.RecoveryRuns

/-!
# The number of active requests

`count_active_work` goes through the files whose names begin with `req_`.  A claim writes its
active-work marker under a digest, so what is counted are the entries of the work index, of the
requests whose ids begin that way.
-/

namespace Audiagentic.Gateway

open Foundations List Option

/-! ## The count -/

/-- Whether a file is counted; `none` where the source raises, on a value without `get`. -/
def countsFile (service : Service) : MarkerFile → Option Bool
  | .unreadable => some false
  | .notObject => none
  | .object content =>
    match content.projectRoot, content.requestId with
    | some projectRoot, some requestId =>
      match service.readRecord projectRoot requestId with
      | .ok record => some (decide (record.state = .queued ∨ record.state = .running))
      | .error _ => some false
    | _, _ => some false

def countActiveWork (service : Service) : Option Nat := do
  let counted ← ((directoryNames service.markers).filter isIndexName).mapM fun name =>
    (service.markers.lookup name).elim (some false) (countsFile service)
  return counted.count true

/-! ## Open requests by their markers -/

namespace Service

/-- The file of this name names the request, whose record is readable and queued or running. -/
def OpenUnder (service : Service) (name requestId : String) : Prop :=
  ∃ file projectRoot record, service.markers.lookup name = some file ∧
    readEntry file = some (projectRoot, requestId) ∧
    service.readRecord projectRoot requestId = .ok record ∧
    (record.state = .queued ∨ record.state = .running)

def ActivelyOpen (digests : MarkerDigests) (service : Service) (requestId : String) : Prop :=
  service.OpenUnder (activeWorkName digests requestId) requestId

/-- The open request has an entry of the work index whose name begins with `req_`. -/
def IndexedOpen (service : Service) (requestId : String) : Prop :=
  inDirectory requestId = true ∧ isIndexName requestId = true ∧
    service.OpenUnder requestId requestId

end Service

section Counting

variable {digests : MarkerDigests} {service : Service}

/-- A marker that names a request is counted exactly when its record is open. -/
theorem countsFile_eq {file : MarkerFile} {key : String × String}
    (names : readEntry file = some key) :
    ∃ counted, countsFile service file = some counted ∧
      (counted = true ↔ ∃ record, service.readRecord key.1 key.2 = .ok record ∧
        (record.state = .queued ∨ record.state = .running)) := by
  cases file with
  | unreadable | notObject => cases names
  | object content =>
    obtain ⟨requestId, projectRoot, _, _, _, _, _, _⟩ := content
    simp only [readEntry] at names
    split at names
    next fields =>
      cases requestId with
      | none => cases fields.1
      | some requestId =>
        cases projectRoot with
        | none => cases fields.2
        | some projectRoot =>
          cases names
          simp only [countsFile, getD_some]
          cases service.readRecord projectRoot requestId with
          | error error => exact ⟨false, rfl, by simp⟩
          | ok record => exact ⟨_, rfl, by simp⟩
    next => cases names

theorem finite_openUnder (service : Service) (nameOf : String → String) :
    {requestId | service.OpenUnder (nameOf requestId) requestId}.Finite := by
  refine Set.Finite.subset (((service.markers.keys.filterMap service.markers.lookup).filterMap
    readEntry).map Prod.snd).finite_toSet ?_
  rintro requestId ⟨file, root, _, found, names, _⟩
  refine List.mem_map.mpr ⟨(root, requestId), mem_filterMap.mpr ⟨file, ?_, names⟩, rfl⟩
  refine mem_filterMap.mpr ⟨nameOf requestId, ?_, found⟩
  exact AList.mem_keys.mp (AList.lookup_isSome.mp (isSome_iff_exists.mpr ⟨file, found⟩))

theorem mapM_eq_some_map {α β : Type} {read : α → Option β} {value : α → β} {items : List α}
    (each : ∀ item ∈ items, read item = some (value item)) :
    items.mapM read = some (items.map value) := by
  induction items with
  | nil => rfl
  | cons item items ih =>
    obtain ⟨here, later⟩ := forall_mem_cons.mp each
    rw [mapM_cons, here, ih later]
    rfl

theorem directoryNames_nodup (markers : Markers) : (directoryNames markers).Nodup :=
  (perm_insertionSort _ _).nodup_iff.mpr (markers.keys_nodup.filter _)

theorem named_of_sound (sound : service.Sound digests)
    (apart : ∀ requestId, isIndexName (activeWorkName digests requestId) = false)
    {name : String} {file : MarkerFile} (index : isIndexName name = true)
    (found : service.markers.lookup name = some file) :
    ∃ projectRoot, readEntry file = some (projectRoot, name) := by
  obtain ⟨⟨projectRoot, requestId⟩, names, active | ⟨entry, _⟩⟩ := sound name file found
  · rw [active, apart] at index
    cases index
  · rw [entry]
    exact ⟨projectRoot, names⟩

/-- **What is counted** are the open requests with an entry whose name begins with `req_`. -/
theorem countActiveWork_eq (sound : service.Sound digests)
    (apart : ∀ requestId, isIndexName (activeWorkName digests requestId) = false) :
    countActiveWork service = some {requestId | service.IndexedOpen requestId}.ncard := by
  classical
  let isOpen (name : String) : Bool := decide (service.OpenUnder name name)
  have counts : ∀ name ∈ (directoryNames service.markers).filter isIndexName,
      (service.markers.lookup name).elim (some false) (countsFile service) =
        some (isOpen name) := by
    intro name member
    obtain ⟨listed, index⟩ := mem_filter.mp member
    obtain ⟨_, file, found⟩ := mem_directoryNames.mp listed
    obtain ⟨projectRoot, names⟩ := named_of_sound sound apart index found
    have ⟨counted, same, iff⟩ : ∃ counted, countsFile service file = some counted ∧ _ :=
      countsFile_eq names
    rw [found, elim_some, same, Option.some.injEq, Bool.eq_iff_iff, iff, decide_eq_true_eq]
    constructor
    · rintro ⟨record, read, state⟩
      exact ⟨file, projectRoot, record, found, names, read, state⟩
    rintro ⟨other, root, record, there, otherNames, read, state⟩
    cases found.symm.trans there
    cases names.symm.trans otherNames
    exact ⟨record, read, state⟩
  have members : {requestId | service.IndexedOpen requestId} =
      ((((directoryNames service.markers).filter isIndexName).filter isOpen).toFinset :
        Set String) := by
    ext requestId
    simp only [Set.mem_ofPred_eq, Service.IndexedOpen, coe_toFinset, mem_filter,
      mem_directoryNames, isOpen, decide_eq_true_eq]
    constructor
    · rintro ⟨inside, index, file, root, record, found, rest⟩
      exact ⟨⟨⟨inside, file, found⟩, index⟩, file, root, record, found, rest⟩
    · rintro ⟨⟨⟨inside, _⟩, index⟩, isOpen⟩
      exact ⟨inside, index, isOpen⟩
  have nodup : (((directoryNames service.markers).filter isIndexName).filter isOpen).Nodup :=
    ((directoryNames_nodup _).filter _).filter _
  rw [countActiveWork, mapM_eq_some_map counts, members, Set.ncard_coe_finset,
    toFinset_card_of_nodup nodup]
  simp only [bind_eq_bind, bind_some, Option.pure_def, Option.some.injEq]
  rw [List.count, countP_map, countP_eq_length_filter]
  congr 2
  funext name
  simp

end Counting

/-! ## After any run -/

/-- **When the count is exact.**  After any run, with a crash after any write of any call, the
count is the number of open requests with an active-work marker exactly when as many of the
counted requests have no such marker as requests with such a marker are not counted. -/
theorem active_count_exact_iff (gateway : RecoveringService) (hashing : Hashing)
    (hexDigests : ∀ requestId, isSha256Hex (gateway.digests.requestId requestId) = true)
    (events : List ServiceEvent) :
    let service := exec (serviceStep gateway hashing) {} events
    countActiveWork service =
        some {requestId | service.ActivelyOpen gateway.digests requestId}.ncard ↔
      {requestId | service.IndexedOpen requestId ∧
          ¬ service.ActivelyOpen gateway.digests requestId}.ncard =
        {requestId | service.ActivelyOpen gateway.digests requestId ∧
          ¬ service.IndexedOpen requestId}.ncard := by
  intro service
  have apart : ∀ requestId, isIndexName (activeWorkName gateway.digests requestId) = false :=
    fun requestId => isIndexName_digest (hexDigests requestId)
  have indexed : {requestId | service.IndexedOpen requestId}.Finite :=
    (finite_openUnder service id).subset fun _ isOpen => isOpen.2.2
  have active : {requestId | service.ActivelyOpen gateway.digests requestId}.Finite :=
    finite_openUnder service _
  rw [countActiveWork_eq (sound_run events) apart, Option.some.injEq,
    Set.ncard_eq_ncard_iff_ncard_sdiff_eq_ncard_sdiff indexed active]
  rfl

/-! ## A claimed request -/

theorem project_ne : "/srv/project" ≠ "" := by decide

def claimChosen (requestId : String) (named : requestId ≠ "") : List ServiceEvent :=
  admitSample requestId named ++
    [⟨.fenced ⟨"/srv/project", requestId, project_ne, named⟩
      (.claimDispatch "g1" 0 (some "/srv/gateway") 1), 9⟩]

/-- What a marker of an open request names. -/
theorem openUnder_iff_of_marker {service : Service} {name requestId : String}
    (marker : (service.markers.lookup name).map readEntry =
      some (some ("/srv/project", requestId)))
    (queued : (service.readRecord "/srv/project" requestId).toOption.map
      (fun record => record.state) = some .queued) (other : String) :
    service.OpenUnder name other ↔ other = requestId := by
  obtain ⟨file, found, names⟩ := map_eq_some_iff.mp marker
  constructor
  · rintro ⟨_, projectRoot, _, there, otherNames, _⟩
    cases found.symm.trans there
    cases names.symm.trans otherNames
    rfl
  · rintro rfl
    obtain ⟨record, read, state⟩ := map_eq_some_iff.mp queued
    cases outcome : service.readRecord "/srv/project" other with
    | error error =>
      rw [outcome] at read
      cases read
    | ok current =>
      rw [outcome] at read
      cases read
      exact ⟨file, "/srv/project", record, found, names, outcome, .inl state⟩

/-- A claimed request whose id begins with `req_` is counted. -/
theorem active_count_after_claim :
    let service := exec (serviceStep chosenGateway .constant) {}
      (claimChosen "req_claimed_1" (by decide))
    countActiveWork service =
        some {requestId | service.ActivelyOpen chosenGateway.digests requestId}.ncard ∧
      countActiveWork service = some 1 := by
  intro service
  have hexadecimal : isSha256Hex
      "026ab639c21df8aa80e5789370a9db1b8b524b776fd8a0c2ba71efb377ecc7d9" = true := by
    decide +kernel
  have queued : (service.readRecord "/srv/project" "req_claimed_1").toOption.map
      (fun record => record.state) = some .queued := by decide +kernel
  have active : ∀ requestId, service.ActivelyOpen chosenGateway.digests requestId ↔
      requestId = "req_claimed_1" := openUnder_iff_of_marker (by decide +kernel) queued
  have named : service.markers.keys.filter isIndexName = ["req_claimed_1"] := by decide +kernel
  have indexed : ∀ requestId, service.IndexedOpen requestId ↔ requestId = "req_claimed_1" := by
    intro requestId
    constructor
    · rintro ⟨_, index, file, _, _, found, _⟩
      have listed : requestId ∈ service.markers.keys.filter isIndexName :=
        mem_filter.mpr ⟨AList.mem_keys.mp (AList.lookup_isSome.mp (by rw [found]; rfl)), index⟩
      rw [named] at listed
      exact mem_singleton.mp listed
    · rintro rfl
      exact ⟨by decide +kernel, by decide +kernel,
        (openUnder_iff_of_marker (by decide +kernel) queued _).mpr rfl⟩
  refine ⟨(active_count_exact_iff chosenGateway .constant (fun _ => hexadecimal) _).mpr ?_,
    by decide +kernel⟩
  change {requestId | service.IndexedOpen requestId ∧
      ¬ service.ActivelyOpen chosenGateway.digests requestId}.ncard =
    {requestId | service.ActivelyOpen chosenGateway.digests requestId ∧
      ¬ service.IndexedOpen requestId}.ncard
  simp only [active, indexed]

/-- **A claimed request is not counted.**  Its active-work marker has the digest as its name, and
its entry does not begin with `req_`. -/
theorem claimed_request_uncounted :
    let service := exec (serviceStep chosenGateway .constant) {} (claimChosen "job-1" (by decide))
    countActiveWork service = some 0 ∧
      {requestId | service.ActivelyOpen chosenGateway.digests requestId} = {"job-1"} ∧
      countActiveWork service ≠
        some {requestId | service.ActivelyOpen chosenGateway.digests requestId}.ncard := by
  intro service
  have none : countActiveWork service = some 0 := by decide +kernel
  have active : {requestId | service.ActivelyOpen chosenGateway.digests requestId} =
      {"job-1"} :=
    Set.ext (openUnder_iff_of_marker (by decide +kernel) (by decide +kernel))
  refine ⟨none, active, ?_⟩
  rw [none, active, Set.ncard_singleton]
  decide

end Audiagentic.Gateway
