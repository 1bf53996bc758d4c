import Mathlib.Data.List.Sort
import Audiagentic.Foundations.Dictionaries
import Audiagentic.Foundations.Runs

/-!
# Pending work

`PendingAuthority` keeps the pending requests in four indexes: a queue for each lane, the
lanes of each project, the requests by id and the rotation of the projects.  All four are
views of one list, the waiting requests in arrival order (`Represents`).

Lanes are keys of any type; `own` is the key of a project's own lane.
-/

namespace Audiagentic.Queue

open Foundations List Option Dict

universe u

/-! ## The authority -/

/-- A waiting request, with its number in the order of arrival. -/
structure PendingRequest (T K : Type u) where
  requestId : String
  projectKey : String
  value : T
  lane : Option K
  sequence : Nat
deriving DecidableEq

/-- `PendingAuthority`, with the next number of its counter. -/
structure PendingAuthority (T K : Type u) where
  byLane : Dict K (List (PendingRequest T K))
  lanesOfProject : Dict String (List K)
  byRequest : Dict String (PendingRequest T K)
  rotation : List String
  nextSequence : Nat

/-- A missing key or item: what the indexing and the removals of the source raise. -/
inductive PendingFault where
  | missingQueue
  | missingRequest
  | missingLanes
  | missingLane
  | missingProject

variable {other project projectKey : String} {rotate : Bool}

section Authority

variable {T K : Type u} [DecidableEq K] (own : String → K)

/-- A request without a lane waits in its project's own. -/
def PendingRequest.laneKey (request : PendingRequest T K) : K :=
  request.lane.getD (own request.projectKey)

namespace PendingAuthority

/-- `__init__`. -/
def empty : PendingAuthority T K := ⟨∅, ∅, ∅, [], 1⟩

/-- The request that `enqueue` makes. -/
def request (authority : PendingAuthority T K) (requestId projectKey : String) (value : T)
    (lane : Option K) : PendingRequest T K :=
  ⟨requestId, projectKey, value, lane, authority.nextSequence⟩

/-- The writes of `enqueue`. -/
def append (authority : PendingAuthority T K) (request : PendingRequest T K) :
    PendingAuthority T K where
  byLane := authority.byLane.insert (request.laneKey own)
    (authority.byLane.bucket (request.laneKey own) ++ [request])
  lanesOfProject :=
    match authority.byLane.lookup (request.laneKey own) with
    | some _ => authority.lanesOfProject
    | none => authority.lanesOfProject.insert request.projectKey
        (authority.lanesOfProject.bucket request.projectKey ++ [request.laneKey own])
  byRequest := authority.byRequest.insert request.requestId request
  rotation :=
    if request.projectKey ∈ authority.rotation then authority.rotation
    else authority.rotation ++ [request.projectKey]
  nextSequence := authority.nextSequence + 1

/-- `enqueue`: the request it made, with the authority after it. -/
def enqueue (authority : PendingAuthority T K) (requestId projectKey : String) (value : T)
    (lane : Option K) : Except String (PendingRequest T K × PendingAuthority T K) :=
  if requestId = "" ∨ projectKey = "" then .error "pending request identity is invalid"
  else if (authority.byRequest.lookup requestId).isSome then
    .error ("request is already pending: " ++ requestId)
  else
    let request := authority.request requestId projectKey value lane
    .ok (request, authority.append own request)

/-- A project that was served goes to the end. -/
def rotated (rotate : Bool) (projectKey : String) (rotation : List String) : List String :=
  if rotate = true ∧ projectKey ∈ rotation then rotation.erase projectKey ++ [projectKey]
  else rotation

/-- `_remove_locked` for an indexed request. -/
def withdraw [DecidableEq T] (authority : PendingAuthority T K) (request : PendingRequest T K)
    (rotate : Bool) :
    Except PendingFault (PendingAuthority T K) :=
  let popped := { authority with byRequest := authority.byRequest.erase request.requestId }
  match authority.byLane.lookup (request.laneKey own) with
  | none => .error .missingQueue
  | some queue =>
    if request ∉ queue then .error .missingRequest
    else if queue.erase request ≠ [] then
      .ok { popped with
        byLane := authority.byLane.insert (request.laneKey own) (queue.erase request)
        rotation := rotated rotate request.projectKey authority.rotation }
    else
      match authority.lanesOfProject.lookup request.projectKey with
      | none => .error .missingLanes
      | some lanes =>
        if request.laneKey own ∉ lanes then .error .missingLane
        else if lanes.erase (request.laneKey own) ≠ [] then
          .ok { popped with
            byLane := authority.byLane.erase (request.laneKey own)
            lanesOfProject := authority.lanesOfProject.insert request.projectKey
              (lanes.erase (request.laneKey own))
            rotation := rotated rotate request.projectKey authority.rotation }
        else if request.projectKey ∉ authority.rotation then .error .missingProject
        else
          .ok { popped with
            byLane := authority.byLane.erase (request.laneKey own)
            lanesOfProject := authority.lanesOfProject.erase request.projectKey
            rotation := rotated rotate request.projectKey
              (authority.rotation.erase request.projectKey) }

/-- `_remove_locked`: no request is no fault. -/
def removeLocked [DecidableEq T] (authority : PendingAuthority T K) (requestId : String)
    (rotate : Bool) :
    Except PendingFault (Option (PendingRequest T K) × PendingAuthority T K) :=
  match authority.byRequest.lookup requestId with
  | none => .ok (none, authority)
  | some request => do
    let remaining ← authority.withdraw own request rotate
    return (some request, remaining)

/-- The project keeps its turn. -/
def remove [DecidableEq T] (authority : PendingAuthority T K) (requestId : String) :
    Except PendingFault (Option (PendingRequest T K) × PendingAuthority T K) :=
  authority.removeLocked own requestId false

/-- The project has had its turn. -/
def claim [DecidableEq T] (authority : PendingAuthority T K) (requestId : String) :
    Except PendingFault (Option (PendingRequest T K) × PendingAuthority T K) :=
  authority.removeLocked own requestId true

/-- The first requests of the lanes of a project, by arrival. -/
def projectHeads (authority : PendingAuthority T K) (projectKey : String) :
    List (PendingRequest T K) :=
  ((authority.lanesOfProject.bucket projectKey).filterMap fun lane =>
    (authority.byLane.bucket lane).head?).insertionSort
      fun first second => first.sequence ≤ second.sequence

/-- What `claim_next` may look at, in its order. -/
def candidates (authority : PendingAuthority T K) : List (PendingRequest T K) :=
  authority.rotation.flatMap authority.projectHeads

/-- The request that the loops of `claim_next` stop at. -/
def nextEligible (authority : PendingAuthority T K) (eligible : PendingRequest T K → Bool) :
    Option (PendingRequest T K) :=
  authority.rotation.findSome? fun projectKey => (authority.projectHeads projectKey).find? eligible

/-- The first eligible candidate leaves. -/
def claimNext [DecidableEq T] (authority : PendingAuthority T K)
    (eligible : PendingRequest T K → Bool) :
    Except PendingFault (Option (PendingRequest T K) × PendingAuthority T K) :=
  match authority.nextEligible eligible with
  | none => .ok (none, authority)
  | some candidate => do
    let outcome ← authority.removeLocked own candidate.requestId true
    return (some candidate, outcome.2)

/-! ## The waiting requests -/

/-- **The four indexes stand for the waiting requests**, in arrival order. -/
structure Represents (authority : PendingAuthority T K) (waiting : List (PendingRequest T K)) :
    Prop where
  ordered : waiting.Pairwise fun first second => first.sequence < second.sequence
  numbered : ∀ request ∈ waiting, request.sequence < authority.nextSequence
  ids : (waiting.map PendingRequest.requestId).Nodup
  owned : ∀ first ∈ waiting, ∀ second ∈ waiting, first.laneKey own = second.laneKey own →
    first.projectKey = second.projectKey
  requests : ∀ requestId, authority.byRequest.lookup requestId =
    waiting.find? fun request => request.requestId = requestId
  queues : ∀ lane, authority.byLane.bucket lane =
    waiting.filter fun request => request.laneKey own = lane
  queuesTidy : Dict.Tidy authority.byLane
  lanes : ∀ projectKey lane, lane ∈ authority.lanesOfProject.bucket projectKey ↔
    ∃ request ∈ waiting, request.projectKey = projectKey ∧ request.laneKey own = lane
  lanesNodup : ∀ projectKey, (authority.lanesOfProject.bucket projectKey).Nodup
  lanesTidy : Dict.Tidy authority.lanesOfProject
  projects : ∀ projectKey, projectKey ∈ authority.rotation ↔
    ∃ request ∈ waiting, request.projectKey = projectKey
  projectsNodup : authority.rotation.Nodup

theorem represents_empty : (empty : PendingAuthority T K).Represents own [] where
  ordered := List.Pairwise.nil
  numbered := by
    intro request member
    cases member
  ids := nodup_nil
  owned := by
    intro first member
    cases member
  requests := fun requestId => AList.lookup_empty requestId
  queues := fun lane => bucket_empty lane
  queuesTidy := tidy_empty
  lanes := by
    intro projectKey lane
    rw [empty, bucket_empty]
    simp
  lanesNodup := by
    intro projectKey
    rw [empty, bucket_empty]
    exact nodup_nil
  lanesTidy := tidy_empty
  projects := by simp [empty]
  projectsNodup := nodup_nil

variable {own} {authority : PendingAuthority T K} {waiting : List (PendingRequest T K)}

/-! ### An arrival -/

section

variable (represents : authority.Represents own waiting)
include represents

theorem Represents.unknown {requestId : String} :
    (authority.byRequest.lookup requestId).isSome = false ↔
      requestId ∉ waiting.map PendingRequest.requestId := by
  rw [represents.requests, isSome_eq_false_iff, isNone_iff_eq_none, find?_eq_none, List.mem_map]
  simp

theorem Represents.lookup_lane_eq_none {lane : K} :
    authority.byLane.lookup lane = none ↔ ∀ request ∈ waiting, request.laneKey own ≠ lane := by
  have silent : authority.byLane.bucket lane = [] ↔
      ∀ request ∈ waiting, request.laneKey own ≠ lane := by
    rw [represents.queues, filter_eq_nil_iff]
    simp
  rw [← silent]
  constructor
  · intro missing
    rw [Dict.bucket, missing]
    rfl
  · exact lookup_of_bucket_eq_nil represents.queuesTidy

/-- The lanes of the projects after an arrival. -/
theorem Represents.lanes_append {request : PendingRequest T K}
    (consistent : ∀ other ∈ waiting, other.laneKey own = request.laneKey own →
      other.projectKey = request.projectKey) (projectKey : String) (lane : K) :
    lane ∈ (authority.append own request).lanesOfProject.bucket projectKey ↔
      ∃ other ∈ waiting ++ [request], other.projectKey = projectKey ∧
        other.laneKey own = lane := by
  have split : (∃ other ∈ waiting ++ [request], other.projectKey = projectKey ∧
      other.laneKey own = lane) ↔ (∃ other ∈ waiting, other.projectKey = projectKey ∧
        other.laneKey own = lane) ∨ (request.projectKey = projectKey ∧
          request.laneKey own = lane) := by
    simp only [mem_append, mem_singleton, or_and_right, exists_or, exists_eq_left]
  rw [split, ← represents.lanes, PendingAuthority.append]
  dsimp only
  split
  next queue found =>
    -- The lane is known, so its project is this one.
    have inhabited : ∃ other ∈ waiting, other.laneKey own = request.laneKey own := by
      by_contra nobody
      have missing := represents.lookup_lane_eq_none.mpr fun other member same =>
        nobody ⟨other, member, same⟩
      rw [missing] at found
      cases found
    obtain ⟨other, member, sameLane⟩ := inhabited
    constructor
    · exact .inl
    rintro (known | ⟨rfl, rfl⟩)
    · exact known
    · rw [represents.lanes]
      exact ⟨other, member, consistent other member sameLane, sameLane⟩
  next missing =>
    rw [bucket_insert]
    by_cases same : projectKey = request.projectKey
    · rw [if_pos same, same, mem_append, mem_singleton]
      constructor
      · rintro (known | rfl)
        · exact .inl known
        · exact .inr ⟨rfl, rfl⟩
      · rintro (known | ⟨_, rfl⟩)
        · exact .inl known
        · exact .inr rfl
    · rw [if_neg same]
      constructor
      · exact .inl
      · rintro (known | ⟨equal, _⟩)
        · exact known
        · exact absurd equal.symm same

/-- The projects in rotation after an arrival. -/
theorem Represents.projects_append (request : PendingRequest T K) (projectKey : String) :
    projectKey ∈ (authority.append own request).rotation ↔
      ∃ other ∈ waiting ++ [request], other.projectKey = projectKey := by
  have split : (∃ other ∈ waiting ++ [request], other.projectKey = projectKey) ↔
      (∃ other ∈ waiting, other.projectKey = projectKey) ∨
        request.projectKey = projectKey := by
    simp only [mem_append, mem_singleton, or_and_right, exists_or, exists_eq_left]
  rw [split, ← represents.projects, PendingAuthority.append]
  dsimp only
  split
  next known =>
    constructor
    · exact .inl
    · rintro (member | rfl)
      · exact member
      · exact known
  next =>
    rw [mem_append, mem_singleton]
    exact or_congr_right eq_comm

/-- **An arrival is added at the end.** -/
theorem Represents.append {request : PendingRequest T K}
    (fresh : request.requestId ∉ waiting.map PendingRequest.requestId)
    (numbered : request.sequence = authority.nextSequence)
    (consistent : ∀ other ∈ waiting, other.laneKey own = request.laneKey own →
      other.projectKey = request.projectKey) :
    (authority.append own request).Represents own (waiting ++ [request]) := by
  constructor
  case ordered =>
    rw [pairwise_append]
    refine ⟨represents.ordered, pairwise_singleton _ _, ?_⟩
    intro earlier member last here
    rw [mem_singleton.mp here, numbered]
    exact represents.numbered earlier member
  case numbered =>
    refine forall_mem_snoc ?_ (numbered ▸ Nat.lt_succ_self _)
    exact fun other member => Nat.lt_succ_of_lt (represents.numbered other member)
  case ids =>
    exact nodup_map_snoc represents.ids fun other member same =>
      fresh (same ▸ List.mem_map_of_mem member)
  case owned =>
    refine forall_mem_snoc ?_ (forall_mem_snoc ?_ fun _ => rfl)
    · exact fun first member =>
        forall_mem_snoc (represents.owned first member) (consistent first member)
    · exact fun second member same => (consistent second member same.symm).symm
  case requests =>
    intro requestId
    change (authority.byRequest.insert _ _).lookup _ = _
    rw [lookup_insert_eq, find?_append, ← represents.requests]
    by_cases same : requestId = request.requestId
    · have missing : authority.byRequest.lookup requestId = none := by
        rw [← isNone_iff_eq_none, ← isSome_eq_false_iff, represents.unknown, same]
        exact fresh
      rw [if_pos same, missing, none_or, find?_cons_of_pos (by simpa using same.symm)]
    · have other : [request].find? (fun request => request.requestId = requestId) = none := by
        rw [find?_eq_none]
        intro found here
        rw [mem_singleton.mp here]
        simpa using fun equal => same equal.symm
      rw [if_neg same, other, or_none]
  case queues =>
    intro lane
    change Dict.bucket (authority.byLane.insert _ _) lane = _
    rw [bucket_insert, filter_append, represents.queues, ← represents.queues lane]
    by_cases same : lane = request.laneKey own
    · rw [if_pos same, same, represents.queues, filter_cons_of_pos (by simp), filter_nil]
    · rw [if_neg same, filter_cons_of_neg (by simpa using fun equal => same equal.symm),
        filter_nil, append_nil]
  case queuesTidy =>
    exact represents.queuesTidy.insert _ (append_ne_nil_of_right_ne_nil _ (cons_ne_nil _ _))
  case lanes => exact represents.lanes_append consistent
  case lanesNodup =>
    intro projectKey
    rw [PendingAuthority.append]
    dsimp only
    split
    · exact represents.lanesNodup projectKey
    next missing =>
      rw [bucket_insert]
      split
      · refine nodup_snoc (represents.lanesNodup _) fun member => ?_
        obtain ⟨other, waits, _, inLane⟩ := (represents.lanes _ _).mp member
        exact represents.lookup_lane_eq_none.mp missing other waits inLane
      · exact represents.lanesNodup projectKey
  case lanesTidy =>
    rw [PendingAuthority.append]
    dsimp only
    split
    · exact represents.lanesTidy
    · exact represents.lanesTidy.insert _
        (append_ne_nil_of_right_ne_nil _ (cons_ne_nil _ _))
  case projects => exact represents.projects_append request
  case projectsNodup =>
    rw [PendingAuthority.append]
    dsimp only
    split
    · exact represents.projectsNodup
    next unknown => exact nodup_snoc represents.projectsNodup unknown

end

/-! ### A departure -/

def without (waiting : List (PendingRequest T K)) (request : PendingRequest T K) :
    List (PendingRequest T K) :=
  waiting.filter fun other => other.requestId ≠ request.requestId

omit [DecidableEq K] in
theorem mem_without {request other : PendingRequest T K} :
    other ∈ without waiting request ↔ other ∈ waiting ∧ other.requestId ≠ request.requestId := by
  rw [without, mem_filter, decide_eq_true_iff]

theorem Represents.eq_of_requestId (represents : authority.Represents own waiting)
    {first second : PendingRequest T K} (firstWaits : first ∈ waiting)
    (secondWaits : second ∈ waiting) (same : first.requestId = second.requestId) :
    first = second :=
  inj_on_of_nodup_map represents.ids firstWaits secondWaits same

theorem Represents.exists_without (represents : authority.Represents own waiting)
    {request : PendingRequest T K} (waits : request ∈ waiting)
    {property : PendingRequest T K → Prop} :
    (∃ other ∈ waiting, property other) ↔
      (∃ other ∈ without waiting request, property other) ∨ property request := by
  constructor
  · rintro ⟨other, member, holds⟩
    by_cases same : other.requestId = request.requestId
    · rw [represents.eq_of_requestId member waits same] at holds
      exact .inr holds
    · exact .inl ⟨other, mem_without.mpr ⟨member, same⟩, holds⟩
  · rintro (⟨other, member, holds⟩ | holds)
    · exact ⟨other, (mem_without.mp member).1, holds⟩
    · exact ⟨request, waits, holds⟩

variable {rotation : List String}

theorem mem_rotated : other ∈ rotated rotate projectKey rotation ↔ other ∈ rotation := by
  rw [rotated]
  split
  next found =>
    rw [mem_append, mem_singleton]
    by_cases same : other = projectKey
    · subst same
      exact iff_of_true (.inr rfl) found.2
    · rw [mem_erase_of_ne same]
      exact or_iff_left same
  next => exact Iff.rfl

theorem nodup_rotated (distinct : rotation.Nodup) : (rotated rotate projectKey rotation).Nodup := by
  rw [rotated]
  split
  next => exact nodup_snoc (distinct.erase _) distinct.not_mem_erase
  next => exact distinct

/-- What the writes of a departure have in common: the parts of the representation that do not
depend on which indexes became empty. -/
theorem Represents.departed (represents : authority.Represents own waiting)
    {request : PendingRequest T K} {remaining : PendingAuthority T K}
    (byRequest : remaining.byRequest = authority.byRequest.erase request.requestId)
    (nextSequence : remaining.nextSequence = authority.nextSequence)
    (queues : ∀ lane, remaining.byLane.bucket lane =
      (without waiting request).filter fun other => other.laneKey own = lane)
    (queuesTidy : Dict.Tidy remaining.byLane)
    (lanes : ∀ projectKey lane, lane ∈ remaining.lanesOfProject.bucket projectKey ↔
      ∃ other ∈ without waiting request, other.projectKey = projectKey ∧ other.laneKey own = lane)
    (lanesNodup : ∀ projectKey, (remaining.lanesOfProject.bucket projectKey).Nodup)
    (lanesTidy : Dict.Tidy remaining.lanesOfProject)
    (projects : ∀ projectKey, projectKey ∈ remaining.rotation ↔
      ∃ other ∈ without waiting request, other.projectKey = projectKey)
    (projectsNodup : remaining.rotation.Nodup) :
    remaining.Represents own (without waiting request) where
  ordered := represents.ordered.sublist filter_sublist
  numbered := by
    intro other member
    rw [nextSequence]
    exact represents.numbered other (mem_without.mp member).1
  ids := represents.ids.sublist (filter_sublist.map _)
  owned := by
    intro first firstMember second secondMember same
    exact represents.owned first (mem_without.mp firstMember).1 second
      (mem_without.mp secondMember).1 same
  requests := by
    intro requestId
    rw [byRequest, lookup_erase_eq, represents.requests]
    exact (find?_filter_key_ne PendingRequest.requestId waiting request.requestId requestId).symm
  queues := queues
  queuesTidy := queuesTidy
  lanes := lanes
  lanesNodup := lanesNodup
  lanesTidy := lanesTidy
  projects := projects
  projectsNodup := projectsNodup

/-- What a departure leaves.  A project that has nothing left leaves the rotation. -/
structure Departure (own : String → K) (authority : PendingAuthority T K)
    (waiting : List (PendingRequest T K)) (rotate : Bool) (request : PendingRequest T K)
    (remaining : PendingAuthority T K) : Prop where
  waits : request ∈ waiting
  represents : remaining.Represents own (without waiting request)
  sequence : remaining.nextSequence = authority.nextSequence
  order : remaining.rotation = rotated rotate request.projectKey authority.rotation ∨
    ((∀ other ∈ without waiting request, other.projectKey ≠ request.projectKey) ∧
      remaining.rotation = authority.rotation.erase request.projectKey)

/-! ### The indexes without one request -/

section

variable (represents : authority.Represents own waiting)
include represents

section

variable {request : PendingRequest T K} (waits : request ∈ waiting)
include waits

theorem Represents.mem_lane :
    request ∈ authority.byLane.bucket (request.laneKey own) := by
  rw [represents.queues, mem_filter]
  exact ⟨waits, by simp⟩

theorem Represents.lane_without [DecidableEq T] :
    (authority.byLane.bucket (request.laneKey own)).erase request =
      (without waiting request).filter fun other => other.laneKey own = request.laneKey own := by
  have distinct : ((authority.byLane.bucket (request.laneKey own)).map
      PendingRequest.requestId).Nodup := by
    rw [represents.queues]
    exact represents.ids.sublist (filter_sublist.map _)
  rw [erase_eq_filter_key_ne distinct (represents.mem_lane waits), represents.queues, without,
    filter_comm]

theorem Represents.otherLane_without {lane : K} (different : lane ≠ request.laneKey own) :
    authority.byLane.bucket lane =
      (without waiting request).filter fun other => other.laneKey own = lane := by
  rw [represents.queues, without, filter_comm]
  refine (filter_eq_self.mpr fun other member => ?_).symm
  obtain ⟨member, inLane⟩ := mem_filter.mp member
  have notThis : other.requestId ≠ request.requestId := by
    intro same
    rw [represents.eq_of_requestId member waits same] at inLane
    exact different (of_decide_eq_true inLane).symm
  simpa using notThis

theorem Represents.lanes_without
    (laneGone : ∀ other ∈ without waiting request, other.laneKey own ≠ request.laneKey own)
    (lane : K) :
    lane ∈ (authority.lanesOfProject.bucket request.projectKey).erase (request.laneKey own) ↔
      ∃ other ∈ without waiting request,
        other.projectKey = request.projectKey ∧ other.laneKey own = lane := by
  rw [(represents.lanesNodup _).mem_erase_iff, represents.lanes, represents.exists_without waits]
  constructor
  · rintro ⟨different, known | ⟨_, same⟩⟩
    · exact known
    · exact absurd same.symm different
  · rintro ⟨other, member, found⟩
    exact ⟨found.2 ▸ laneGone other member, .inl ⟨other, member, found⟩⟩

theorem Represents.otherLanes_without (different : projectKey ≠ request.projectKey) (lane : K) :
    lane ∈ authority.lanesOfProject.bucket projectKey ↔ ∃ other ∈ without waiting request,
      other.projectKey = projectKey ∧ other.laneKey own = lane := by
  rw [represents.lanes, represents.exists_without waits]
  exact or_iff_left fun same => different same.1.symm

/-- A lane that is left empty is erased. -/
theorem Represents.queues_erase [DecidableEq T]
    (emptied : (authority.byLane.bucket (request.laneKey own)).erase request = []) (lane : K) :
    Dict.bucket (authority.byLane.erase (request.laneKey own)) lane =
      (without waiting request).filter fun other => other.laneKey own = lane := by
  rw [bucket_erase]
  split
  next same => rw [same, ← represents.lane_without waits, emptied]
  next different => exact represents.otherLane_without waits different

/-- A project without requests leaves the rotation. -/
theorem Represents.projects_erase
    (gone : ∀ other ∈ without waiting request, other.projectKey ≠ request.projectKey)
    (projectKey : String) : projectKey ∈ authority.rotation.erase request.projectKey ↔
      ∃ other ∈ without waiting request, other.projectKey = projectKey := by
  rw [represents.projectsNodup.mem_erase_iff, represents.projects, represents.exists_without waits]
  constructor
  · rintro ⟨different, known | same⟩
    · exact known
    · exact absurd same.symm different
  · rintro ⟨other, member, rfl⟩
    exact ⟨gone other member, .inl ⟨other, member, rfl⟩⟩

/-- A project with another request stays in the rotation. -/
theorem Represents.projects_rotated {mate : PendingRequest T K}
    (mateWaits : mate ∈ without waiting request)
    (mateProject : mate.projectKey = request.projectKey) (rotate : Bool) (projectKey : String) :
    projectKey ∈ rotated rotate request.projectKey authority.rotation ↔
      ∃ other ∈ without waiting request, other.projectKey = projectKey := by
  rw [mem_rotated, represents.projects, represents.exists_without waits]
  refine or_iff_left_of_imp ?_
  rintro rfl
  exact ⟨mate, mateWaits, mateProject⟩

/-- **A departure removes the request**, and finds everything it looks for. -/
theorem Represents.withdraw [DecidableEq T] (rotate : Bool) :
    ∃ remaining, authority.withdraw own request rotate = .ok remaining ∧
      Departure own authority waiting rotate request remaining := by
  have inQueue := represents.mem_lane waits
  have queueFound := lookup_of_bucket_ne_nil (ne_nil_of_mem inQueue)
  have queueLeft := represents.lane_without waits
  rw [PendingAuthority.withdraw]
  simp only [queueFound, inQueue, not_true_eq_false, if_false]
  by_cases laneLeft : (authority.byLane.bucket (request.laneKey own)).erase request = []
  · -- The lane is empty now, and is taken from its project.
    rw [if_neg (fun left => left laneLeft)]
    have laneGone : ∀ other ∈ without waiting request,
        other.laneKey own ≠ request.laneKey own := by
      have nobody := queueLeft.symm.trans laneLeft
      rw [filter_eq_nil_iff] at nobody
      simpa using nobody
    have inLanes : request.laneKey own ∈ authority.lanesOfProject.bucket request.projectKey :=
      (represents.lanes _ _).mpr ⟨request, waits, rfl, rfl⟩
    have lanesFound := lookup_of_bucket_ne_nil (ne_nil_of_mem inLanes)
    have queuesAfter := represents.queues_erase waits laneLeft
    have lanesLeft := represents.lanes_without waits laneGone
    simp only [lanesFound, inLanes, not_true_eq_false, if_false]
    by_cases lastLane : (authority.lanesOfProject.bucket request.projectKey).erase
        (request.laneKey own) = []
    · -- The project has no lane left, and leaves the rotation.
      rw [if_neg (fun left => left lastLane)]
      have projectGone : ∀ other ∈ without waiting request,
          other.projectKey ≠ request.projectKey := by
        intro other member same
        have impossible := (lanesLeft _).mpr ⟨other, member, same, rfl⟩
        rw [lastLane] at impossible
        cases impossible
      have inRotation : request.projectKey ∈ authority.rotation :=
        (represents.projects _).mpr ⟨request, waits, rfl⟩
      have served : rotated rotate request.projectKey
          (authority.rotation.erase request.projectKey) =
            authority.rotation.erase request.projectKey := by
        rw [rotated, if_neg]
        exact fun found => represents.projectsNodup.not_mem_erase found.2
      simp only [inRotation, not_true_eq_false, if_false, served]
      refine ⟨_, rfl, waits, represents.departed rfl rfl queuesAfter
        (represents.queuesTidy.erase _) ?_ ?_ (represents.lanesTidy.erase _)
        (represents.projects_erase waits projectGone) (represents.projectsNodup.erase _), rfl,
        .inr ⟨projectGone, rfl⟩⟩
      · intro projectKey lane
        rw [bucket_erase]
        split
        next same =>
          rw [same, ← lanesLeft, lastLane]
        next different => exact represents.otherLanes_without waits different lane
      · intro projectKey
        rw [bucket_erase]
        split
        · exact nodup_nil
        · exact represents.lanesNodup projectKey
    · rw [if_pos lastLane]
      obtain ⟨lane, laneMember⟩ := exists_mem_of_ne_nil _ lastLane
      obtain ⟨mate, mateWaits, mateProject, _⟩ := (lanesLeft lane).mp laneMember
      refine ⟨_, rfl, waits, represents.departed rfl rfl queuesAfter
        (represents.queuesTidy.erase _) ?_ ?_ (represents.lanesTidy.insert _ lastLane)
        (represents.projects_rotated waits mateWaits mateProject rotate)
        (nodup_rotated represents.projectsNodup), rfl, .inl rfl⟩
      · intro projectKey lane
        rw [bucket_insert]
        split
        next same =>
          rw [same]
          exact lanesLeft lane
        next different => exact represents.otherLanes_without waits different lane
      · intro projectKey
        rw [bucket_insert]
        split
        · exact (represents.lanesNodup _).erase _
        · exact represents.lanesNodup projectKey
  · -- Another request waits in the lane: lanes and projects stay.
    rw [if_pos laneLeft]
    obtain ⟨mate, mateMember⟩ := exists_mem_of_ne_nil _ laneLeft
    rw [queueLeft, mem_filter, decide_eq_true_iff] at mateMember
    obtain ⟨mateWaits, mateLane⟩ := mateMember
    have mateProject := represents.owned mate (mem_without.mp mateWaits).1 request waits mateLane
    refine ⟨_, rfl, waits, represents.departed rfl rfl ?_ ?_ ?_ represents.lanesNodup
      represents.lanesTidy (represents.projects_rotated waits mateWaits mateProject rotate)
      (nodup_rotated represents.projectsNodup), rfl, .inl rfl⟩
    · intro lane
      rw [bucket_insert]
      split
      next same => rw [same, queueLeft]
      next different => exact represents.otherLane_without waits different
    · exact represents.queuesTidy.insert _ laneLeft
    · intro projectKey lane
      rw [represents.lanes, represents.exists_without waits]
      refine or_iff_left_of_imp ?_
      rintro ⟨rfl, rfl⟩
      exact ⟨mate, mateWaits, mateProject, mateLane⟩

end

end

/-! ### Candidates -/

/-- Nothing in the lane of the request waits longer. -/
def Oldest (own : String → K) (waiting : List (PendingRequest T K))
    (request : PendingRequest T K) : Prop :=
  request ∈ waiting ∧ ∀ other ∈ waiting, other.laneKey own = request.laneKey own →
    request.sequence ≤ other.sequence

section

variable (represents : authority.Represents own waiting)
include represents

theorem Represents.head?_bucket {lane : K} {request : PendingRequest T K} :
    (authority.byLane.bucket lane).head? = some request ↔
      Oldest own waiting request ∧ request.laneKey own = lane := by
  have ordered : (authority.byLane.bucket lane).Pairwise
      fun first second => first.sequence < second.sequence := by
    rw [represents.queues]
    exact represents.ordered.sublist filter_sublist
  have member : ∀ other, other ∈ authority.byLane.bucket lane ↔
      other ∈ waiting ∧ other.laneKey own = lane := by
    intro other
    rw [represents.queues, mem_filter, decide_eq_true_iff]
  cases queue : authority.byLane.bucket lane with
  | nil =>
    refine iff_of_false (some_ne_none _).symm ?_
    rintro ⟨oldest, inLane⟩
    have impossible := (member request).mpr ⟨oldest.1, inLane⟩
    rw [queue] at impossible
    cases impossible
  | cons first rest =>
    rw [queue] at ordered member
    rw [head?_cons, some_inj]
    obtain ⟨firstWaits, firstLane⟩ := (member first).mp mem_cons_self
    constructor
    · rintro rfl
      refine ⟨⟨firstWaits, fun other waits same => ?_⟩, firstLane⟩
      rcases mem_cons.mp ((member other).mpr ⟨waits, same.trans firstLane⟩) with rfl | later
      · exact Nat.le_refl _
      · exact Nat.le_of_lt ((pairwise_cons.mp ordered).1 other later)
    · rintro ⟨oldest, inLane⟩
      rcases mem_cons.mp ((member request).mpr ⟨oldest.1, inLane⟩) with rfl | later
      · rfl
      · have younger := (pairwise_cons.mp ordered).1 request later
        have older := oldest.2 first firstWaits (firstLane.trans inLane.symm)
        omega

theorem Represents.mem_projectHeads {request : PendingRequest T K} :
    request ∈ authority.projectHeads projectKey ↔
      Oldest own waiting request ∧ request.projectKey = projectKey := by
  rw [projectHeads, mem_insertionSort, mem_filterMap]
  constructor
  · rintro ⟨lane, known, head⟩
    obtain ⟨oldest, inLane⟩ := represents.head?_bucket.mp head
    obtain ⟨other, waits, ofProject, otherLane⟩ := (represents.lanes _ _).mp known
    refine ⟨oldest, ?_⟩
    rw [← ofProject]
    exact represents.owned request oldest.1 other waits (inLane.trans otherLane.symm)
  · rintro ⟨oldest, ofProject⟩
    exact ⟨request.laneKey own, (represents.lanes _ _).mpr ⟨request, oldest.1, ofProject, rfl⟩,
      represents.head?_bucket.mpr ⟨oldest, rfl⟩⟩

/-- **The candidates are the oldest requests of the lanes.** -/
theorem Represents.mem_candidates {request : PendingRequest T K} :
    request ∈ authority.candidates ↔ Oldest own waiting request := by
  rw [candidates, mem_flatMap]
  constructor
  · rintro ⟨projectKey, _, head⟩
    exact (represents.mem_projectHeads.mp head).1
  · intro oldest
    exact ⟨request.projectKey, (represents.projects _).mpr ⟨request, oldest.1, rfl⟩,
      represents.mem_projectHeads.mpr ⟨oldest, rfl⟩⟩

theorem Represents.candidates_nodup :
    authority.candidates.Nodup := by
  rw [candidates, nodup_flatMap]
  constructor
  · intro projectKey _
    rw [projectHeads, (perm_insertionSort _ _).nodup_iff]
    refine List.Nodup.filterMap ?_ (represents.lanesNodup projectKey)
    intro first second request inFirst inSecond
    exact (represents.head?_bucket.mp inFirst).2.symm.trans (represents.head?_bucket.mp inSecond).2
  · refine represents.projectsNodup.imp fun different => ?_
    intro request inFirst inSecond
    exact different ((represents.mem_projectHeads.mp inFirst).2.symm.trans
      (represents.mem_projectHeads.mp inSecond).2)

theorem Represents.nextEligible_eq_some {eligible : PendingRequest T K → Bool}
    {request : PendingRequest T K} (found : authority.nextEligible eligible = some request) :
    Oldest own waiting request ∧ eligible request = true := by
  rw [nextEligible] at found
  obtain ⟨projectKey, _, here⟩ := exists_of_findSome?_eq_some found
  exact ⟨(represents.mem_projectHeads.mp (mem_of_find?_eq_some here)).1, find?_some here⟩

/-! ### The calls -/

/-- **A removal by id.**  It returns the waiting request with that id, if there is one. -/
theorem Represents.removeLocked [DecidableEq T] (requestId : String) (rotate : Bool) :
    (waiting.find? (fun request => request.requestId = requestId) = none ∧
        authority.removeLocked own requestId rotate = .ok (none, authority)) ∨
      ∃ request remaining, request.requestId = requestId ∧
        authority.removeLocked own requestId rotate = .ok (some request, remaining) ∧
        Departure own authority waiting rotate request remaining := by
  have indexed := represents.requests requestId
  rw [PendingAuthority.removeLocked]
  cases found : waiting.find? (fun request => request.requestId = requestId) with
  | none =>
    rw [found] at indexed
    exact .inl ⟨rfl, by simp only [indexed]⟩
  | some request =>
    rw [found] at indexed
    have waits : request ∈ waiting := mem_of_find?_eq_some found
    have named : request.requestId = requestId := by simpa using find?_some found
    obtain ⟨remaining, withdrawn, departure⟩ := represents.withdraw waits rotate
    refine .inr ⟨request, remaining, named, ?_, departure⟩
    simp only [indexed, withdrawn]
    rfl

/-- **A claim of the next eligible request.** -/
theorem Represents.claimNext [DecidableEq T] (eligible : PendingRequest T K → Bool) :
    (authority.nextEligible eligible = none ∧
        authority.claimNext own eligible = .ok (none, authority)) ∨
      ∃ request remaining, authority.nextEligible eligible = some request ∧
        Oldest own waiting request ∧
        authority.claimNext own eligible = .ok (some request, remaining) ∧
        Departure own authority waiting true request remaining := by
  rw [PendingAuthority.claimNext]
  cases found : authority.nextEligible eligible with
  | none => exact .inl ⟨rfl, rfl⟩
  | some candidate =>
    have oldest := (represents.nextEligible_eq_some found).1
    rcases represents.removeLocked candidate.requestId true with
      ⟨missing, _⟩ | ⟨request, remaining, named, removed, departure⟩
    · exact absurd (find?_eq_some_of_nodup represents.ids oldest.1) (by rw [missing]; nofun)
    · have same := represents.eq_of_requestId departure.waits oldest.1 named
      subst same
      refine .inr ⟨request, remaining, rfl, oldest, ?_, departure⟩
      simp only [removed]
      rfl

end

/-! ### The rotation -/

/-- The project is in the rotation, and the other is not before it. -/
def Ahead (project other : String) (rotation : List String) : Prop :=
  ∃ before after, rotation = before ++ project :: after ∧ other ∉ before

theorem Ahead.append (ahead : Ahead project other rotation) (more : List String) :
    Ahead project other (rotation ++ more) := by
  obtain ⟨before, after, rfl, absent⟩ := ahead
  exact ⟨before, after ++ more, by simp, absent⟩

theorem Ahead.erase {served : String} (ahead : Ahead project other rotation)
    (different : served ≠ project) : Ahead project other (rotation.erase served) := by
  obtain ⟨before, after, rfl, absent⟩ := ahead
  by_cases earlier : served ∈ before
  · refine ⟨before.erase served, after, erase_append_left _ earlier, ?_⟩
    exact fun member => absent (mem_of_mem_erase member)
  · refine ⟨before, after.erase served, ?_, absent⟩
    rw [erase_append_right _ earlier, erase_cons_tail (by simpa using different.symm)]

theorem Ahead.rotated {served : String} (ahead : Ahead project other rotation)
    (different : served ≠ project) : Ahead project other (rotated rotate served rotation) := by
  rw [PendingAuthority.rotated]
  split
  · exact (ahead.erase different).append [served]
  · exact ahead

theorem ahead_of_absent (known : project ∈ rotation) (absent : other ∉ rotation) :
    Ahead project other rotation := by
  obtain ⟨before, after, rfl⟩ := append_of_mem known
  exact ⟨before, after, rfl, fun member => absent (mem_append_left _ member)⟩

theorem ahead_of_served (distinct : rotation.Nodup) (known : project ∈ rotation)
    (different : project ≠ other) : Ahead project other (rotated true other rotation) := by
  rw [rotated]
  split
  · have left : project ∈ rotation.erase other := (mem_erase_of_ne different).mpr known
    exact (ahead_of_absent left distinct.not_mem_erase).append [other]
  next absent => exact ahead_of_absent known fun member => absent ⟨rfl, member⟩

/-- **A project that is ahead with an eligible head is not passed over.** -/
theorem Represents.nextEligible_ahead (represents : authority.Represents own waiting)
    (ahead : Ahead project other authority.rotation) (different : project ≠ other)
    {eligible : PendingRequest T K → Bool} {head : PendingRequest T K}
    (oldest : Oldest own waiting head) (ofProject : head.projectKey = project)
    (isEligible : eligible head = true) :
    ∃ request, authority.nextEligible eligible = some request ∧ request.projectKey ≠ other := by
  obtain ⟨before, after, rotation, absent⟩ := ahead
  rw [nextEligible, rotation, findSome?_append]
  have project_of : ∀ {served : String} {request : PendingRequest T K},
      (authority.projectHeads served).find? eligible = some request →
        request.projectKey = served := fun found =>
    (represents.mem_projectHeads.mp (mem_of_find?_eq_some found)).2
  cases earlier : before.findSome? fun projectKey =>
      (authority.projectHeads projectKey).find? eligible with
  | some request =>
    obtain ⟨served, member, found⟩ := exists_of_findSome?_eq_some earlier
    refine ⟨request, rfl, ?_⟩
    rw [project_of found]
    exact fun same => absent (same ▸ member)
  | none =>
    have here : ((authority.projectHeads project).find? eligible).isSome := by
      rw [find?_isSome]
      exact ⟨head, represents.mem_projectHeads.mpr ⟨oldest, ofProject⟩, isEligible⟩
    obtain ⟨request, found⟩ := isSome_iff_exists.mp here
    refine ⟨request, ?_, ?_⟩
    · rw [none_or, findSome?_cons, found]
    · rw [project_of found]
      exact different

end PendingAuthority

end Authority

/-! ## Runs -/

/-- The authority with what its callers have seen of it. -/
structure PendingRun (T K : Type u) where
  authority : PendingAuthority T K
  enqueued : List (PendingRequest T K)
  returned : List (PendingRequest T K)
  /-- The first lookup that failed. -/
  fault : Option PendingFault

/-- A call of `enqueue`, `remove`, `claim` or `claim_next`. -/
inductive PendingCall (T K : Type u) where
  | enqueue (requestId projectKey : String) (value : T) (lane : Option K)
  | remove (requestId : String)
  | claim (requestId : String)
  | claimNext (eligible : PendingRequest T K → Bool)

section Runs

variable {T K : Type u} [DecidableEq T] [DecidableEq K] (own : String → K)

namespace PendingRun

def init : PendingRun T K := ⟨.empty, [], [], none⟩

/-- The requests that were enqueued and are not removed or claimed. -/
def waiting (run : PendingRun T K) : List (PendingRequest T K) :=
  run.enqueued.filter fun request => request ∉ run.returned

/-- The answer of a removal or a claim. -/
def outcome (run : PendingRun T K) :
    PendingCall T K → Except PendingFault (Option (PendingRequest T K) × PendingAuthority T K)
  | .enqueue .. => .ok (none, run.authority)
  | .remove requestId => run.authority.remove own requestId
  | .claim requestId => run.authority.claim own requestId
  | .claimNext eligible => run.authority.claimNext own eligible

/-- What the caller gets is noted, and a fault too. -/
def settle (run : PendingRun T K) :
    Except PendingFault (Option (PendingRequest T K) × PendingAuthority T K) → PendingRun T K
  | .error fault => { run with fault := some fault }
  | .ok (found, authority) =>
    { run with authority := authority, returned := found.toList ++ run.returned }

def step (run : PendingRun T K) (call : PendingCall T K) : PendingRun T K :=
  match call with
  | .enqueue requestId projectKey value lane =>
    match run.authority.enqueue own requestId projectKey value lane with
    | .error _ => run
    | .ok (request, authority) =>
      { run with authority := authority, enqueued := run.enqueued ++ [request] }
  | call => run.settle (run.outcome own call)

/-- The request that a call of `claim` or `claim_next` claims. -/
def claimed (run : PendingRun T K) (call : PendingCall T K) : Option (PendingRequest T K) :=
  match call with
  | .enqueue .. | .remove _ => none
  | call =>
    match run.outcome own call with
    | .ok (found, _) => found
    | .error _ => none

/-- The project that a call of `claim_next` serves. -/
def served (run : PendingRun T K) (call : PendingCall T K) : Option String :=
  match call with
  | .claimNext eligible => (run.claimed own (.claimNext eligible)).map PendingRequest.projectKey
  | _ => none

/-- What the callers promise: a lane is used by one project only. -/
def allows (owner : K → String) (_ : PendingRun T K) : PendingCall T K → Prop
  | .enqueue _ projectKey _ lane => owner (lane.getD (own projectKey)) = projectKey
  | _ => True

/-- Every request is waiting or was returned once, and no lookup has failed. -/
structure Sound (owner : K → String) (run : PendingRun T K) : Prop where
  represents : run.authority.Represents own run.waiting
  faultless : run.fault = none
  once : run.returned.Nodup
  known : ∀ request ∈ run.returned, request ∈ run.enqueued
  numbered : ∀ request ∈ run.enqueued, request.sequence < run.authority.nextSequence
  owned : ∀ request ∈ run.enqueued, owner (request.laneKey own) = request.projectKey

theorem mem_waiting {run : PendingRun T K} {request : PendingRequest T K} :
    request ∈ run.waiting ↔ request ∈ run.enqueued ∧ request ∉ run.returned := by
  rw [waiting, mem_filter, decide_eq_true_iff]

theorem sound_init (owner : K → String) : (init : PendingRun T K).Sound own owner where
  represents := PendingAuthority.represents_empty own
  faultless := rfl
  once := nodup_nil
  known := by
    intro request member
    cases member
  numbered := by
    intro request member
    cases member
  owned := by
    intro request member
    cases member

variable {own} {owner : K → String} {run : PendingRun T K}

theorem Sound.departure (sound : run.Sound own owner) {request : PendingRequest T K}
    {remaining : PendingAuthority T K}
    (departure : PendingAuthority.Departure own run.authority run.waiting rotate request
      remaining) : (run.settle (.ok (some request, remaining))).Sound own owner := by
  obtain ⟨waits, represents, sequence, _⟩ := departure
  obtain ⟨enqueued, fresh⟩ := mem_waiting.mp waits
  have waitingAfter : (run.settle (.ok (some request, remaining))).waiting =
      PendingAuthority.without run.waiting request := by
    rw [waiting, PendingAuthority.without, waiting, List.filter_filter]
    refine filter_congr fun other member => ?_
    have same : other ∈ run.waiting → (other = request ↔ other.requestId = request.requestId) :=
      fun here => ⟨congrArg _, sound.represents.eq_of_requestId here waits⟩
    by_cases gone : other ∈ run.returned
    · simp [settle, gone]
    · have iff := same (mem_waiting.mpr ⟨member, gone⟩)
      simp [settle, gone, iff]
  constructor
  case represents =>
    rw [waitingAfter]
    exact represents
  case faultless => exact sound.faultless
  case once => exact nodup_cons.mpr ⟨fresh, sound.once⟩
  case known => exact forall_mem_cons.mpr ⟨enqueued, sound.known⟩
  case numbered =>
    intro other member
    change other.sequence < remaining.nextSequence
    rw [sequence]
    exact sound.numbered other member
  case owned => exact sound.owned

def rotates : PendingCall T K → Bool
  | .claim _ | .claimNext _ => true
  | _ => false

/-- **The answer of a removal or a claim**: nothing, or a departure. -/
theorem Sound.outcome (sound : run.Sound own owner) (call : PendingCall T K) :
    run.outcome own call = .ok (none, run.authority) ∨
      ∃ request remaining, run.outcome own call = .ok (some request, remaining) ∧
        PendingAuthority.Departure own run.authority run.waiting (rotates call) request
          remaining := by
  cases call with
  | enqueue => exact .inl rfl
  | remove requestId =>
    rcases sound.represents.removeLocked requestId false with
      ⟨_, nothing⟩ | ⟨request, remaining, _, removed, departure⟩
    · exact .inl nothing
    · exact .inr ⟨request, remaining, removed, departure⟩
  | claim requestId =>
    rcases sound.represents.removeLocked requestId true with
      ⟨_, nothing⟩ | ⟨request, remaining, _, removed, departure⟩
    · exact .inl nothing
    · exact .inr ⟨request, remaining, removed, departure⟩
  | claimNext eligible =>
    rcases sound.represents.claimNext eligible with
      ⟨_, nothing⟩ | ⟨request, remaining, _, _, removed, departure⟩
    · exact .inl nothing
    · exact .inr ⟨request, remaining, removed, departure⟩

theorem Sound.arrival (sound : run.Sound own owner) {requestId : String} {value : T}
    {lane : Option K} (allowed : run.allows own owner (.enqueue requestId projectKey value lane)) :
    (run.step own (.enqueue requestId projectKey value lane)).Sound own owner := by
  rw [step, PendingAuthority.enqueue]
  by_cases invalid : requestId = "" ∨ projectKey = ""
  · rw [if_pos invalid]
    exact sound
  rw [if_neg invalid]
  by_cases pending : (run.authority.byRequest.lookup requestId).isSome = true
  · rw [if_pos pending]
    exact sound
  rw [if_neg pending]
  have fresh := sound.represents.unknown.mp (Bool.not_eq_true _ ▸ pending)
  have new : ∀ other ∈ run.enqueued,
      other ≠ run.authority.request requestId projectKey value lane := by
    rintro other member rfl
    exact Nat.lt_irrefl _ (sound.numbered _ member)
  have waitingAfter : run.enqueued.filter (fun request => request ∉ run.returned) ++
      [run.authority.request requestId projectKey value lane] =
      (run.enqueued ++ [run.authority.request requestId projectKey value lane]).filter
        fun request => request ∉ run.returned := by
    have unreturned : run.authority.request requestId projectKey value lane ∉ run.returned :=
      fun member => new _ (sound.known _ member) rfl
    rw [filter_append, filter_cons_of_pos (by simpa using unreturned), filter_nil]
  have consistent : ∀ other ∈ run.waiting, other.laneKey own =
      (run.authority.request requestId projectKey value lane).laneKey own →
      other.projectKey = projectKey := by
    intro other member same
    rw [← sound.owned other (mem_waiting.mp member).1, same]
    exact allowed
  constructor
  case represents =>
    have added := sound.represents.append fresh rfl consistent
    rw [waiting] at added
    rw [waiting, ← waitingAfter]
    exact added
  case faultless => exact sound.faultless
  case once => exact sound.once
  case known =>
    intro request member
    exact mem_append_left _ (sound.known request member)
  case numbered =>
    refine forall_mem_snoc ?_ (Nat.lt_succ_self _)
    exact fun request member => Nat.lt_succ_of_lt (sound.numbered request member)
  case owned => exact forall_mem_snoc sound.owned allowed

theorem claimed_of_rotates {call : PendingCall T K} {found : Option (PendingRequest T K)}
    {remaining : PendingAuthority T K} (rotating : rotates call = true)
    (answer : run.outcome own call = .ok (found, remaining)) : run.claimed own call = found := by
  cases call with
  | enqueue | remove => cases rotating
  | claim | claimNext => simp only [claimed, answer]

theorem Sound.step (sound : run.Sound own owner) {call : PendingCall T K}
    (allowed : run.allows own owner call) : (run.step own call).Sound own owner := by
  have settled : (run.settle (run.outcome own call)).Sound own owner := by
    rcases sound.outcome call with nothing | ⟨request, remaining, found, departure⟩
    · rw [nothing]
      exact sound
    · rw [found]
      exact sound.departure departure
  cases call with
  | enqueue => exact sound.arrival allowed
  | remove | claim | claimNext => exact settled

/-! ### Fairness -/

/-- The project waits through the call with an eligible head: it has a request before and after
it, the call claims none of its requests, and a `claim_next` finds one of its heads eligible. -/
structure Patient (own : String → K) (project : String) (run : PendingRun T K)
    (call : PendingCall T K) : Prop where
  before : ∃ request ∈ run.waiting, request.projectKey = project
  after : ∃ request ∈ (run.step own call).waiting, request.projectKey = project
  unclaimed : ∀ request, run.claimed own call = some request → request.projectKey ≠ project
  eligible : ∀ eligible, call = .claimNext eligible →
    ∃ head, PendingAuthority.Oldest own run.waiting head ∧ head.projectKey = project ∧
      eligible head = true

theorem step_of_not_enqueue {call : PendingCall T K}
    (other : ∀ requestId projectKey value lane, call ≠ .enqueue requestId projectKey value lane) :
    run.step own call = run.settle (run.outcome own call) := by
  cases call with
  | enqueue requestId projectKey value lane => exact absurd rfl (other _ _ _ _)
  | remove | claim | claimNext => rfl

theorem Sound.ahead_step (sound : run.Sound own owner) {call : PendingCall T K}
    (patient : Patient own project run call)
    (ahead : PendingAuthority.Ahead project other run.authority.rotation)
    (after : (run.step own call).Sound own owner) :
    PendingAuthority.Ahead project other (run.step own call).authority.rotation := by
  by_cases arrives : ∃ requestId projectKey value lane,
      call = .enqueue requestId projectKey value lane
  · obtain ⟨requestId, projectKey, value, lane, rfl⟩ := arrives
    rw [PendingRun.step]
    split
    · exact ahead
    next request authority accepted =>
      rw [PendingAuthority.enqueue] at accepted
      split at accepted
      · cases accepted
      split at accepted
      · cases accepted
      cases accepted
      change PendingAuthority.Ahead project other (if _ then _ else _)
      split
      · exact ahead
      · exact ahead.append _
  · have settles : run.step own call = run.settle (run.outcome own call) :=
      step_of_not_enqueue fun requestId projectKey value lane same =>
        arrives ⟨requestId, projectKey, value, lane, same⟩
    rcases sound.outcome call with nothing | ⟨request, remaining, found, departure⟩
    · rw [settles, nothing]
      exact ahead
    rw [found] at settles
    rw [settles]
    change PendingAuthority.Ahead project other remaining.rotation
    rcases departure.order with turned | ⟨gone, left⟩
    · rw [turned]
      cases rotates : rotates call with
      | true => exact ahead.rotated (patient.unclaimed request (claimed_of_rotates rotates found))
      | false => exact ahead
    · rw [left]
      refine ahead.erase fun same => ?_
      -- The project would have left the rotation, but it still waits.
      have inRotation := (after.represents.projects project).mpr patient.after
      rw [settles] at inRotation
      have inRemaining : project ∈ remaining.rotation := inRotation
      rw [left, same] at inRemaining
      exact sound.represents.projectsNodup.not_mem_erase inRemaining

theorem Sound.served_eq_some (sound : run.Sound own owner) {call : PendingCall T K}
    (served : run.served own call = some other) :
    ∃ eligible request remaining, call = .claimNext eligible ∧
      run.authority.nextEligible eligible = some request ∧ request.projectKey = other ∧
      run.step own call = run.settle (.ok (some request, remaining)) ∧
      PendingAuthority.Departure own run.authority run.waiting true request remaining := by
  cases call with
  | enqueue | remove | claim => cases served
  | claimNext eligible =>
    rcases sound.represents.claimNext eligible with
      ⟨_, nothing⟩ | ⟨request, remaining, next, _, found, departure⟩
    · simp only [PendingRun.served, claimed, PendingRun.outcome, nothing] at served
      cases served
    · simp only [PendingRun.served, claimed, PendingRun.outcome, found, map_some,
        some_inj] at served
      refine ⟨eligible, request, remaining, rfl, next, served, ?_, departure⟩
      simp only [PendingRun.step, PendingRun.outcome, found]

/-- **No project is served twice while another waits with an eligible head.** -/
theorem Sound.served_at_most_once (sound : run.Sound own owner) (different : project ≠ other)
    {calls : List (PendingCall T K)} (patient : Admissible (PendingRun.step own) (fun run call =>
      run.allows own owner call ∧ Patient own project run call) run calls) :
    (answers (fun run call => (run.served own call, run.step own call)) run calls).countP
      (fun answer => answer = some other) ≤ 1 := by
  refine @Admissible.answers_countP_le_one _ _ _
    (fun run call => (run.served own call, run.step own call)) _
    (fun run => run.Sound own owner)
    (fun run => PendingAuthority.Ahead project other run.authority.rotation)
    (fun answer => answer = some other)
    (fun _ _ holds allowed => holds.step allowed.1) ?_ ?_ ?_ run calls patient sound
  · intro state call holds allowed served ahead
    obtain ⟨eligible, request, remaining, rfl, next, ofOther, _⟩ :=
      holds.served_eq_some (of_decide_eq_true served)
    obtain ⟨head, oldest, ofProject, isEligible⟩ := allowed.2.eligible eligible rfl
    obtain ⟨chosen, found, notOther⟩ := holds.represents.nextEligible_ahead ahead different oldest
      ofProject isEligible
    rw [next] at found
    cases found
    exact notOther ofOther
  · intro state call holds allowed served
    obtain ⟨eligible, request, remaining, _, next, ofOther, reached, departure⟩ :=
      holds.served_eq_some (of_decide_eq_true served)
    have known : project ∈ state.authority.rotation :=
      (holds.represents.projects project).mpr allowed.2.before
    dsimp only
    rw [reached]
    change PendingAuthority.Ahead project other remaining.rotation
    rcases departure.order with turned | ⟨_, left⟩
    · rw [turned, ofOther]
      exact PendingAuthority.ahead_of_served holds.represents.projectsNodup known different
    · rw [left, ofOther]
      exact PendingAuthority.ahead_of_absent ((mem_erase_of_ne different).mpr known)
        holds.represents.projectsNodup.not_mem_erase
  · intro state call holds allowed ahead
    exact holds.ahead_step allowed.2 ahead (holds.step allowed.1)

end PendingRun

end Runs

/-- **The pending authority.**  After every sequence of calls in which each lane is used by one
project: no lookup has failed; the index holds exactly the enqueued requests that were not
removed or claimed, and none was returned twice; the candidates are the oldest requests of the
lanes, each once; what `claim_next` returns is the oldest of its lane; and while a project waits
with an eligible head, unclaimed, `claim_next` serves every other project at most once. -/
theorem pending_authority {T K : Type u} [DecidableEq T] [DecidableEq K] (own : String → K)
    (owner : K → String) (calls : List (PendingCall T K))
    (admissible : Admissible (PendingRun.step own) (PendingRun.allows own owner) .init calls) :
    let run := exec (PendingRun.step own) .init calls
    run.fault = none ∧
    (∀ requestId request, run.authority.byRequest.lookup requestId = some request ↔
      request.requestId = requestId ∧ request ∈ run.enqueued ∧ request ∉ run.returned) ∧
    run.returned.Nodup ∧
    run.authority.candidates.Nodup ∧
    (∀ request, request ∈ run.authority.candidates ↔
      PendingAuthority.Oldest own run.waiting request) ∧
    (∀ eligible request, run.claimed own (.claimNext eligible) = some request →
      PendingAuthority.Oldest own run.waiting request) ∧
    ∀ project other, project ≠ other → ∀ later : List (PendingCall T K),
      Admissible (PendingRun.step own) (fun run call =>
        run.allows own owner call ∧ PendingRun.Patient own project run call) run later →
      (answers (fun run call => (run.served own call, run.step own call)) run later).countP
        (fun answer => answer = some other) ≤ 1 := by
  intro run
  have sound : run.Sound own owner :=
    admissible.invariant (fun _ _ holds allowed => holds.step allowed)
      (PendingRun.sound_init own owner)
  refine ⟨sound.faultless, ?_, sound.once, sound.represents.candidates_nodup,
    fun request => sound.represents.mem_candidates, ?_, ?_⟩
  · intro requestId request
    rw [sound.represents.requests, ← PendingRun.mem_waiting]
    constructor
    · intro found
      exact ⟨by simpa using find?_some found, mem_of_find?_eq_some found⟩
    · rintro ⟨rfl, waits⟩
      exact find?_eq_some_of_nodup sound.represents.ids waits
  · intro eligible request claimed
    rcases sound.represents.claimNext eligible with
      ⟨_, nothing⟩ | ⟨chosen, remaining, _, oldest, found, _⟩
    · simp only [PendingRun.claimed, PendingRun.outcome, nothing] at claimed
      cases claimed
    · simp only [PendingRun.claimed, PendingRun.outcome, found, some_inj] at claimed
      exact claimed ▸ oldest
  · intro project other different later patient
    exact sound.served_at_most_once different patient

/-- A request of one project, then two of another. -/
def arrivals : List (PendingCall Unit String) :=
  [.enqueue "p1" "p" () none, .enqueue "q1" "q" () none, .enqueue "q2" "q" () none]

/-- The requests `p1` and `q2` are left once `q1` is removed.  A `claim_next` takes `p1` then, and
`q2` waits through it. -/
theorem arrivals_are_pending :
    let run := exec (PendingRun.step id) .init (arrivals ++ [.remove "q1"])
    (∀ requestId request, run.authority.byRequest.lookup requestId = some request ↔
      request.requestId = requestId ∧ request ∈ run.enqueued ∧ request ∉ run.returned) ∧
    run.authority.candidates.map PendingRequest.requestId = ["p1", "q2"] ∧
    (∀ request, run.claimed id (.claimNext fun _ => true) = some request →
      PendingAuthority.Oldest id run.waiting request) ∧
    (run.claimed id (.claimNext fun _ => true)).map PendingRequest.requestId = some "p1" ∧
    (answers (fun run call => (run.served id call, run.step id call)) run
      [.claimNext fun _ => true]).countP (fun answer => answer = some "p") ≤ 1 := by
  intro run
  have admissible : Admissible (PendingRun.step id) (PendingRun.allows id id) .init
      (arrivals ++ [.remove "q1"]) := ⟨rfl, rfl, rfl, trivial, trivial⟩
  obtain ⟨_, pending, _, _, _, oldest, fair⟩ := pending_authority id id _ admissible
  refine ⟨pending, by decide, oldest _, by decide,
    fair "q" "p" (by decide) _ ⟨⟨trivial, ?_⟩, trivial⟩⟩
  constructor
  · decide
  · decide
  · have claimed : (run.claimed id (.claimNext fun _ => true)).all
        (fun request => request.projectKey ≠ "q") = true := by decide
    intro request found
    rw [found] at claimed
    exact of_decide_eq_true claimed
  · rintro _ ⟨⟩
    have head : ∃ head ∈ run.waiting, (∀ other ∈ run.waiting, other.laneKey id = head.laneKey id →
        head.sequence ≤ other.sequence) ∧ head.projectKey = "q" := by decide
    obtain ⟨head, waits, first, ofProject⟩ := head
    exact ⟨head, ⟨waits, first⟩, ofProject, rfl⟩

/-- **Direct claims pass over a project.**  Two `claim` calls take the requests of one project
while the head of the other is a candidate all the time. -/
theorem direct_claims_pass_over :
    (exec (PendingRun.step id) .init (arrivals ++
        [.claim "q1", .claim "q2"])).returned.map PendingRequest.projectKey = ["q", "q"] ∧
      ∀ taken ∈ [[], [PendingCall.claim "q1"], [.claim "q1", .claim "q2"]],
        "p1" ∈ (exec (PendingRun.step id) .init
          (arrivals ++ taken)).authority.candidates.map PendingRequest.requestId := by
  exact ⟨by decide, by decide⟩

end Audiagentic.Queue
