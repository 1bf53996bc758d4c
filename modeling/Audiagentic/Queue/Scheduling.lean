import Audiagentic.Queue.ScopedCapacity
import Audiagentic.Queue.SourceCapacity

/-!
# Placing pending requests

`_try_reserve_source` tries the compatible instances of a pending request in order.  A
refusal is recorded by the resource as a source that waits; only a later reservation of that
same source removes the record.  The request that was refused may meanwhile be cancelled, or
be placed on another instance, and then nothing removes the record: after the starvation
interval it keeps every other source out of a free resource.
-/

namespace Audiagentic.Queue

open Foundations List

/-! ## An attempt -/

structure InstanceFacts where
  sourceId : String
  modelId : Option String
  resourceId : Option String
  concurrency : Option Int
  modelSelector : Option String := none
deriving DecidableEq

/-- `QueuedDispatch`, with what `_try_reserve_source` reads of it: the limits of its profile,
the encoded profile and project, and the id of its virtual resource. -/
structure QueuedDispatch where
  requestId : String
  instanceFacts : List InstanceFacts
  sessionSourceId : Option String := none
  limits : CapacityLimits
  projectScope : String
  virtualResource : String
deriving DecidableEq

structure QueueReservation where
  source : CapacityReservation
  overlay : OverlayReservation
deriving DecidableEq

namespace QueuedDispatch

/-- The arguments of the source reservation for one instance. -/
def capacityRequest (entry : QueuedDispatch) (facts : InstanceFacts) : CapacityRequest :=
  let virtual := entry.limits.global.map fun _ => entry.virtualResource
  { sourceId := facts.sourceId
    resourceId := if facts.resourceId.isSome then facts.resourceId else virtual
    concurrency := if facts.resourceId.isSome then facts.concurrency else entry.limits.global
    modelId := facts.modelId
    modelSelector := facts.modelSelector
    capacitySourceId :=
      if facts.resourceId.isSome then some facts.sourceId else some (virtual.getD facts.sourceId)
    declared := facts.resourceId.isSome }

/-- The reservations that the loop tries, over `compatible_facts`. -/
def attempts (entry : QueuedDispatch) : List CapacityRequest :=
  (entry.instanceFacts.filter fun facts =>
    entry.sessionSourceId = none ∨ some facts.sourceId = entry.sessionSourceId).map
      entry.capacityRequest

/-- The request names a source of a resource. -/
def names (entry : QueuedDispatch) (id source : String) : Bool :=
  entry.attempts.any fun request => request.resourceId = some id && request.capacityKey = source

end QueuedDispatch

structure Authorities where
  capacity : SourceCapacity
  scopedCapacity : ScopedCapacity

/-- The loop of `_try_reserve_source`.  Each round draws an overlay token and a source token. -/
def tryRequests (starvation now : Int) (scopes : List (String × Int)) :
    List CapacityRequest → (Nat → String × String) → Authorities →
      Except String (Option QueueReservation) × Authorities
  | [], _, authorities => (.ok none, authorities)
  | request :: rest, tokens, authorities =>
    match authorities.scopedCapacity.tryReserve scopes (tokens 0).1 with
    | (none, overlays) => (.ok none, { authorities with scopedCapacity := overlays })
    | (some overlay, overlays) =>
      match SourceCapacity.tryReserve starvation now authorities.capacity request
        (tokens 0).2 with
      | (.error raised, capacity) => (.error raised, ⟨capacity, overlays⟩)
      | (.ok (some source), capacity) => (.ok (some ⟨source, overlay⟩), ⟨capacity, overlays⟩)
      | (.ok none, capacity) =>
        tryRequests starvation now scopes rest (fun round => tokens (round + 1))
          ⟨capacity, overlays.release (some overlay)⟩

def tryReserveSource (starvation now : Int) (tokens : Nat → String × String)
    (entry : QueuedDispatch) (authorities : Authorities) :
    Except String (Option QueueReservation) × Authorities :=
  tryRequests starvation now (scopeKeys entry.limits entry.projectScope) entry.attempts tokens
    authorities

def releaseReservation (authorities : Authorities) (reservation : QueueReservation) :
    Authorities where
  capacity := SourceCapacity.release authorities.capacity reservation.source
  scopedCapacity := authorities.scopedCapacity.release (some reservation.overlay)

/-! ### The sources that wait -/

/-- The resource records the source as waiting. -/
def ResourceCapacity.waits (resource : ResourceCapacity) (source : String) : Prop :=
  (resource.waitingSince.lookup source).isSome = true

variable {source other : String} {resource : ResourceCapacity}

theorem ResourceCapacity.waits_await {now : Int}
    (waiting : (resource.await source now).waits other) :
    resource.waits other ∨ other = source := by
  rw [waits, ResourceCapacity.await] at waiting
  by_cases same : other = source
  · exact .inr same
  dsimp only at waiting
  split at waiting
  · exact .inl waiting
  · rw [Dict.lookup_insert_eq, if_neg same] at waiting
    exact .inl waiting

variable {token : String}

theorem ResourceCapacity.waits_admitToken {count : Nat}
    (waiting : (resource.admitToken source token count).waits other) : resource.waits other := by
  rw [waits, ResourceCapacity.admitToken, Dict.lookup_erase_eq] at waiting
  split at waiting
  · cases waiting
  · exact waiting

variable {starvation : Int}

theorem ResourceCapacity.waits_tryReserve {now : Int} {concurrency : Int}
    (waiting : (resource.tryReserve starvation now source concurrency token).2.waits other) :
    resource.waits other ∨ other = source := by
  have own : (resource.tryOwn starvation now source concurrency token).2.waits other →
      resource.waits other ∨ other = source := by
    intro waiting
    rw [ResourceCapacity.tryOwn] at waiting
    split at waiting
    · exact waits_await waiting
    · split at waiting
      · exact waits_await waiting
      · exact .inl (waits_admitToken waiting)
  rw [ResourceCapacity.tryReserve] at waiting
  split at waiting
  · exact own waiting
  split at waiting
  · exact own waiting
  · split at waiting
    · exact .inl (waits_admitToken waiting)
    · exact waits_await waiting

theorem ResourceCapacity.waits_release :
    (resource.release source token).waits other ↔ resource.waits other := by
  rw [ResourceCapacity.release]
  split
  · rfl
  · split <;> rfl

/-- A source of a resource of the authority waits. -/
def waits (capacity : SourceCapacity) (id source : String) : Prop :=
  (SourceCapacity.resource capacity id).waits source

instance (capacity : SourceCapacity) (id source : String) : Decidable (waits capacity id source) :=
  inferInstanceAs (Decidable (_ = true))

variable {id : String}

theorem waits_tryReserve {capacity : SourceCapacity} {now : Int} {request : CapacityRequest}
    (waiting : waits (SourceCapacity.tryReserve starvation now capacity request token).2 id
      source) :
    waits capacity id source ∨ (request.resourceId = some id ∧ request.capacityKey = source) := by
  rw [SourceCapacity.tryReserve] at waiting
  split at waiting
  · exact .inl waiting
  split at waiting
  · exact .inl waiting
  next own concurrency onId bounded =>
    split at waiting
    · exact .inl waiting
    rw [waits, SourceCapacity.reserveOn, resource_insert] at waiting
    split at waiting
    next here =>
      rcases ResourceCapacity.waits_tryReserve waiting with before | asked
      · exact .inl (here ▸ before)
      · exact .inr ⟨here ▸ onId, asked.symm⟩
    next => exact .inl waiting
  · exact .inl waiting

theorem waits_release {capacity : SourceCapacity} {reservation : CapacityReservation} :
    waits (SourceCapacity.release capacity reservation) id source ↔ waits capacity id source := by
  rw [waits, resource_release]
  split
  · exact ResourceCapacity.waits_release
  · rfl

variable {authorities : Authorities}

theorem waits_tryRequests {now : Int} {scopes : List (String × Int)}
    {requests : List CapacityRequest} {tokens : Nat → String × String}
    (waiting : waits (tryRequests starvation now scopes requests tokens authorities).2.capacity
      id source) :
    waits authorities.capacity id source ∨
      ∃ request ∈ requests, request.resourceId = some id ∧ request.capacityKey = source := by
  induction requests generalizing tokens authorities with
  | nil => exact .inl waiting
  | cons request rest ih =>
    rw [tryRequests] at waiting
    split at waiting
    · exact .inl waiting
    have asked : ∀ {outcome : Except String (Option CapacityReservation) × SourceCapacity},
        SourceCapacity.tryReserve starvation now authorities.capacity request (tokens 0).2 =
          outcome → waits outcome.2 id source →
        waits authorities.capacity id source ∨ ∃ asked ∈ request :: rest,
          asked.resourceId = some id ∧ asked.capacityKey = source := by
      rintro _ rfl recorded
      rcases waits_tryReserve recorded with before | here
      · exact .inl before
      · exact .inr ⟨request, mem_cons_self, here⟩
    split at waiting
    next outcome => exact asked outcome waiting
    next outcome => exact asked outcome waiting
    next outcome =>
      rcases ih waiting with before | ⟨later, member, named⟩
      · exact asked outcome before
      · exact .inr ⟨later, mem_cons_of_mem request member, named⟩

theorem QueuedDispatch.names_iff {entry : QueuedDispatch} :
    entry.names id source = true ↔ ∃ request ∈ entry.attempts, request.resourceId = some id ∧
      request.capacityKey = source := by
  simp only [names, List.any_eq_true, Bool.and_eq_true, decide_eq_true_iff]

/-- **An attempt leaves waiting only what waited before and what its request names.** -/
theorem waits_tryReserveSource {now : Int} {tokens : Nat → String × String} {entry : QueuedDispatch}
    (waiting : waits (tryReserveSource starvation now tokens entry authorities).2.capacity id
      source) : waits authorities.capacity id source ∨ entry.names id source = true := by
  rw [QueuedDispatch.names_iff]
  exact waits_tryRequests waiting

/-! ## Runs of the queue -/

/-- The queue: the pending requests, the authorities, and the reservations that were made for
a request that is still to be claimed. -/
structure Scheduler where
  pending : List QueuedDispatch
  authorities : Authorities
  bound : List (QueuedDispatch × QueueReservation)

def Scheduler.init : Scheduler := ⟨[], ⟨∅, .empty⟩, []⟩

inductive SchedulerAction where
  | enqueue (entry : QueuedDispatch)
  /-- `_try_reserve_source` for a candidate. -/
  | reserve (entry : QueuedDispatch) (now : Int) (tokens : Nat → String × String)
  /-- `claim` after a reservation. -/
  | claim (entry : QueuedDispatch) (reservation : QueueReservation)
  | release (reservation : QueueReservation)
  | cancel (requestId : String)

/-- The pending set without a request: `claim`, or the removal of `cancel`. -/
def Scheduler.withoutRequest (queue : Scheduler) (requestId : String) : List QueuedDispatch :=
  queue.pending.filter fun entry => entry.requestId ≠ requestId

/-- One step.  A request that was removed before it is claimed gives its reservation back. -/
def Scheduler.step (starvation : Int) (queue : Scheduler) : SchedulerAction → Scheduler
  | .enqueue entry =>
    if queue.pending.any fun other => other.requestId = entry.requestId then queue
    else { queue with pending := queue.pending ++ [entry] }
  | .reserve entry now tokens =>
    match tryReserveSource starvation now tokens entry queue.authorities with
    | (.ok (some reservation), authorities) =>
      { queue with authorities := authorities, bound := (entry, reservation) :: queue.bound }
    | (_, authorities) => { queue with authorities := authorities }
  | .claim entry reservation =>
    if (entry, reservation) ∉ queue.bound then queue
    else if queue.pending.any fun other => other.requestId = entry.requestId then
      { queue with
        pending := queue.withoutRequest entry.requestId
        bound := queue.bound.erase (entry, reservation) }
    else
      { queue with
        authorities := releaseReservation queue.authorities reservation
        bound := queue.bound.erase (entry, reservation) }
  | .release reservation =>
    { queue with authorities := releaseReservation queue.authorities reservation }
  | .cancel requestId => { queue with pending := queue.withoutRequest requestId }

/-- A pending request names the source. -/
def Scheduler.wanted (queue : Scheduler) (id source : String) : Prop :=
  ∃ entry ∈ queue.pending, entry.names id source = true

def Scheduler.canLeave (queue : Scheduler) (id requestId : String) : Prop :=
  ∀ entry ∈ queue.pending, entry.requestId = requestId → ∀ source,
    entry.names id source = true → waits queue.authorities.capacity id source →
      ∃ other ∈ queue.pending, other.requestId ≠ requestId ∧ other.names id source = true

/-- The steps that leave no stale waiter on the resource: a request leaves the pending set only
when it can, and is tried only on sources that are wanted (as those of a pending request are). -/
def Scheduler.allows (id : String) (queue : Scheduler) : SchedulerAction → Prop
  | .enqueue _ => True
  | .reserve entry _ _ => ∀ source, entry.names id source = true → queue.wanted id source
  | .claim entry _ => queue.canLeave id entry.requestId
  | .release _ => True
  | .cancel requestId => queue.canLeave id requestId

/-- Every source that waits is wanted. -/
def Scheduler.Covered (id : String) (queue : Scheduler) : Prop :=
  ∀ source, waits queue.authorities.capacity id source → queue.wanted id source

theorem Scheduler.step_reserve (starvation now : Int) (queue : Scheduler)
    (entry : QueuedDispatch) (tokens : Nat → String × String) :
    (queue.step starvation (.reserve entry now tokens)).pending = queue.pending ∧
      (queue.step starvation (.reserve entry now tokens)).authorities =
        (tryReserveSource starvation now tokens entry queue.authorities).2 := by
  rw [step]
  split
  next placed => exact ⟨rfl, by rw [placed]⟩
  next other => exact ⟨rfl, by rw [other]⟩

theorem Scheduler.Covered.leave {requestId : String} {queue : Scheduler}
    (covered : queue.Covered id) (allowed : queue.canLeave id requestId) (source : String)
    (waiting : waits queue.authorities.capacity id source) :
    ∃ entry ∈ queue.withoutRequest requestId, entry.names id source = true := by
  obtain ⟨entry, member, named⟩ := covered source waiting
  by_cases leaving : entry.requestId = requestId
  · obtain ⟨other, member, stays, named⟩ := allowed entry member leaving source named waiting
    exact ⟨other, mem_filter.mpr ⟨member, by simpa using stays⟩, named⟩
  · exact ⟨entry, mem_filter.mpr ⟨member, by simpa using leaving⟩, named⟩

theorem waits_releaseReservation {reservation : QueueReservation} :
    waits (releaseReservation authorities reservation).capacity id source ↔
      waits authorities.capacity id source :=
  waits_release

theorem Scheduler.Covered.step {queue : Scheduler} (covered : queue.Covered id) (starvation : Int)
    {action : SchedulerAction} (allowed : queue.allows id action) :
    (queue.step starvation action).Covered id := by
  intro source waiting
  match action, allowed with
  | .enqueue entry, _ =>
    rw [Scheduler.step] at waiting ⊢
    split at waiting
    next known =>
      rw [if_pos known]
      exact covered source waiting
    next unknown =>
      obtain ⟨other, member, named⟩ := covered source waiting
      rw [if_neg unknown]
      exact ⟨other, mem_append_left [entry] member, named⟩
  | .reserve entry now tokens, wanted =>
    obtain ⟨samePending, authorities⟩ := step_reserve starvation now queue entry tokens
    rw [authorities] at waiting
    rw [Scheduler.wanted, samePending]
    rcases waits_tryReserveSource waiting with before | named
    · exact covered source before
    · exact wanted source named
  | .claim entry reservation, canLeave =>
    rw [Scheduler.step] at waiting ⊢
    split at waiting
    next unbound =>
      rw [if_pos unbound]
      exact covered source waiting
    next bound =>
      rw [if_neg bound]
      split at waiting
      next pending =>
        rw [if_pos pending]
        exact covered.leave canLeave source waiting
      next removed =>
        rw [if_neg removed]
        exact covered source (waits_releaseReservation.mp waiting)
  | .release reservation, _ => exact covered source (waits_releaseReservation.mp waiting)
  | .cancel requestId, canLeave => exact covered.leave canLeave source waiting

theorem Scheduler.covered_init (id : String) : init.Covered id := by
  intro source waiting
  have nothing : SourceCapacity.resource init.authorities.capacity id = .empty := by
    change ((∅ : SourceCapacity).lookup id).getD .empty = .empty
    rw [AList.lookup_empty]
    rfl
  rw [waits, nothing, ResourceCapacity.waits, ResourceCapacity.empty, AList.lookup_empty] at waiting
  cases waiting

/-- **A free resource without foreign waiters admits.** -/
theorem ResourceCapacity.tryReserve_idle (idle : ∀ other, resource.running other = 0)
    (alone : ∀ other, resource.waits other → other = source) (starvation now : Int)
    {concurrency : Int} (positive : 1 ≤ concurrency) (token : String) :
    (resource.tryReserve starvation now source concurrency token).1 = true := by
  have notBlocked : resource.blockedByWaiter starvation now source = false := by
    rw [blockedByWaiter, List.any_eq_false]
    rintro ⟨waiting, since⟩ member
    have recorded : resource.waits waiting := by
      rw [waits, Dict.mem_entries_iff.mp member]
      rfl
    rw [alone waiting recorded]
    simp
  have own : (resource.tryOwn starvation now source concurrency token).1 = true := by
    have room : ¬ concurrency ≤ (resource.running source : Int) := by
      rw [idle source]
      omega
    rw [ResourceCapacity.tryOwn, notBlocked, if_neg Bool.false_ne_true, if_neg room]
  rw [ResourceCapacity.tryReserve]
  split
  · exact own
  · split
    · exact own
    · rw [if_pos (idle _)]

/-- **Refused reservations leave no wedge**, in every run in which no request leaves the pending
set while one of its sources waits on the resource for it alone: when nothing is in flight on
the resource and the pending requests name no other source of it, the source is admitted. -/
theorem idle_resource_admits (starvation : Int) (id : String) (actions : List SchedulerAction)
    (admissible : Admissible (Scheduler.step starvation) (Scheduler.allows id) .init actions)
    (source : String) :
    let queue := exec (Scheduler.step starvation) .init actions
    (∀ other, (SourceCapacity.resource queue.authorities.capacity id).running other = 0) →
    (∀ entry ∈ queue.pending, ∀ other, entry.names id other = true → other = source) →
    ∀ (now concurrency : Int) (token : String), 1 ≤ concurrency →
      ((SourceCapacity.resource queue.authorities.capacity id).tryReserve starvation now source
        concurrency token).1 = true := by
  intro queue idle alone now concurrency token positive
  have covered : queue.Covered id :=
    admissible.invariant (fun _ _ holds allowed => holds.step starvation allowed)
      (Scheduler.covered_init id)
  refine ResourceCapacity.tryReserve_idle idle (fun other waiting => ?_) starvation now positive
    token
  obtain ⟨entry, member, named⟩ := covered other waiting
  exact alone entry member other named

/-! ### Two requests for one resource -/

/-- A request for one source of a resource that serves one request at a time. -/
def gpuRequest (requestId source : String) : QueuedDispatch where
  requestId := requestId
  instanceFacts := [⟨source, none, some "gpu", some 1, none⟩]
  limits := ⟨none, false, none⟩
  projectScope := "p"
  virtualResource := "profile:p/1/d"

def gpuReservation (source overlayToken token : String) : QueueReservation where
  source := ⟨source, some "gpu", none, source, true, some 1, token, none⟩
  overlay := ⟨overlayToken, []⟩

/-- The first request runs on `s` while the second is refused on `t`. -/
def contention : List SchedulerAction :=
  [.enqueue (gpuRequest "q1" "s"), .reserve (gpuRequest "q1" "s") 0 fun _ => ("o1", "t1"),
    .claim (gpuRequest "q1" "s") (gpuReservation "s" "o1" "t1"),
    .enqueue (gpuRequest "q2" "t"), .reserve (gpuRequest "q2" "t") 1 fun _ => ("o2", "t2"),
    .release (gpuReservation "s" "o1" "t1")]

theorem running_eq_zero_of_entries (drained : ∀ entry ∈ resource.inFlight.entries, entry.2 = 0)
    (source : String) : resource.running source = 0 := by
  rw [ResourceCapacity.running]
  rcases Option.eq_none_or_eq_some (resource.inFlight.lookup source) with
    missing | ⟨count, found⟩
  · rw [missing]
    rfl
  · rw [found]
    exact drained _ (Dict.mem_entries_iff.mpr found)

theorem Scheduler.canLeave_of_silent {queue : Scheduler} {requestId : String}
    (silent : ∀ entry ∈ queue.pending, ∀ request ∈ entry.attempts,
      ¬ waits queue.authorities.capacity id request.capacityKey) : queue.canLeave id requestId := by
  intro entry member _ source named waiting
  obtain ⟨request, asked, _, rfl⟩ := QueuedDispatch.names_iff.mp named
  exact absurd waiting (silent entry member request asked)

/-- The second request is placed and finishes: the resource is free for the first source. -/
theorem contended_resource_admits :
    ((SourceCapacity.resource (exec (Scheduler.step 30) .init (contention ++
        [.reserve (gpuRequest "q2" "t") 2 fun _ => ("o3", "t3"),
          .claim (gpuRequest "q2" "t") (gpuReservation "t" "o3" "t3"),
          .release (gpuReservation "t" "o3" "t3")])).authorities.capacity "gpu").tryReserve 30 40
      "s" 1 "t4").1 = true := by
  refine idle_resource_admits 30 "gpu" _ ?_ "s" (running_eq_zero_of_entries (by decide)) ?_ 40 1
    "t4" (by decide)
  · exact ⟨trivial, fun _ named => ⟨gpuRequest "q1" "s", by decide, named⟩,
      Scheduler.canLeave_of_silent (by decide), trivial,
      fun _ named => ⟨gpuRequest "q2" "t", by decide, named⟩, trivial,
      fun _ named => ⟨gpuRequest "q2" "t", by decide, named⟩,
      Scheduler.canLeave_of_silent (by decide), trivial, trivial⟩
  · have nothing : (exec (Scheduler.step 30) .init (contention ++
        [.reserve (gpuRequest "q2" "t") 2 fun _ => ("o3", "t3"),
          .claim (gpuRequest "q2" "t") (gpuReservation "t" "o3" "t3"),
          .release (gpuReservation "t" "o3" "t3")])).pending = [] := by decide
    rw [nothing]
    intro entry member
    cases member

/-- **The second request is cancelled: its source waits for ever.**  Nothing is in flight, no
request is pending, and the first source is refused. -/
theorem stale_waiter_blocks_idle_resource :
    let queue := exec (Scheduler.step 30) .init (contention ++ [.cancel "q2"])
    (∀ other, (SourceCapacity.resource queue.authorities.capacity "gpu").running other = 0) ∧
      queue.pending = [] ∧
      ((SourceCapacity.resource queue.authorities.capacity "gpu").tryReserve 30 40 "s" 1
        "t4").1 = false := by
  refine ⟨running_eq_zero_of_entries (by decide), by decide, by decide⟩

end Audiagentic.Queue
