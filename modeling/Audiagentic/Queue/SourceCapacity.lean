import Mathlib.Data.Finset.Card
import Audiagentic.Foundations.Dictionaries
import Audiagentic.Foundations.Runs

/-!
# Source capacity

`SourceCapacityAuthority` holds one `_ResourceCapacity` for each physical resource.  A
resource serves one source at a time: another source is let in when the active one has
drained.  The resource keeps a counter, a token set and an active source; all three are
views of the outstanding tokens of its sources (`ResourceCapacity.Represents`).

Clock readings are integers.
-/

namespace Audiagentic.Queue

open Foundations List Option Function Dict AList Finset

/-! ## One resource -/

structure ResourceCapacity where
  activeSourceId : Option String
  inFlight : Dict String Nat
  waitingSince : Dict String Int
  activeTokens : Dict String (Finset String)

namespace ResourceCapacity

/-- `__init__`. -/
def empty : ResourceCapacity := ⟨none, ∅, ∅, ∅⟩

/-- `self._in_flight.get(source_id, 0)`. -/
def running (resource : ResourceCapacity) (source : String) : Nat :=
  (resource.inFlight.lookup source).getD 0

/-- `self._waiting_since.setdefault(source_id, now)`. -/
def await (resource : ResourceCapacity) (source : String) (now : Int) : ResourceCapacity :=
  { resource with
    waitingSince :=
      if (resource.waitingSince.lookup source).isSome then resource.waitingSince
      else resource.waitingSince.insert source now }

/-- `blocked_by_waiter`: another source waits for the starvation interval. -/
def blockedByWaiter (resource : ResourceCapacity) (starvation now : Int) (source : String) :
    Bool :=
  resource.waitingSince.entries.any fun waiting =>
    decide (waiting.1 ≠ source) && decide (starvation ≤ now - waiting.2)

/-- The writes of a reservation that succeeds with the given count. -/
def admitToken (resource : ResourceCapacity) (source token : String) (count : Nat) :
    ResourceCapacity where
  activeSourceId := some source
  inFlight := resource.inFlight.insert source count
  activeTokens := resource.activeTokens.insert source
    (insert token ((resource.activeTokens.lookup source).getD ∅))
  waitingSince := resource.waitingSince.erase source

/-- The branch of `try_reserve` for a resource that is free or serves the source. -/
def tryOwn (starvation now : Int) (resource : ResourceCapacity) (source : String)
    (concurrency : Int) (token : String) : Bool × ResourceCapacity :=
  if resource.blockedByWaiter starvation now source then (false, resource.await source now)
  else if concurrency ≤ resource.running source then (false, resource.await source now)
  else (true, resource.admitToken source token (resource.running source + 1))

def tryReserve (starvation now : Int) (resource : ResourceCapacity) (source : String)
    (concurrency : Int) (token : String) : Bool × ResourceCapacity :=
  match resource.activeSourceId with
  | none => tryOwn starvation now resource source concurrency token
  | some active =>
    if active = source then tryOwn starvation now resource source concurrency token
    -- The active source has drained: the resource is swapped.
    else if resource.running active = 0 then (true, resource.admitToken source token 1)
    else (false, resource.await source now)

def release (resource : ResourceCapacity) (source token : String) : ResourceCapacity :=
  match resource.activeTokens.lookup source with
  | none => resource
  | some tokens =>
    if token ∉ tokens then resource
    else
      { resource with
        activeTokens :=
          if tokens.erase token = ∅ then resource.activeTokens.erase source
          else resource.activeTokens.insert source (tokens.erase token)
        inFlight :=
          if 0 < resource.running source then
            resource.inFlight.insert source (resource.running source - 1)
          else resource.inFlight }

/-- **The resource stands for the outstanding tokens of its sources.**  The bound is the
concurrency of each source. -/
structure Represents (resource : ResourceCapacity) (tokens : String → Finset String)
    (bound : String → Nat) : Prop where
  sets : ∀ source, resource.activeTokens.lookup source =
    if tokens source = ∅ then none else some (tokens source)
  counts : ∀ source, resource.running source = (tokens source).card
  bounded : ∀ source, (tokens source).card ≤ bound source
  exclusive : ∀ source, tokens source ≠ ∅ → resource.activeSourceId = some source

theorem represents_empty (bound : String → Nat) : Represents empty (fun _ => ∅) bound where
  sets := by
    intro source
    rw [if_pos rfl]
    exact lookup_empty source
  counts := by
    intro source
    rw [running, empty, lookup_empty]
    rfl
  bounded := fun source => Nat.zero_le (bound source)
  exclusive := fun source waiting => absurd rfl waiting

section Calls

variable {resource : ResourceCapacity} {tokens : String → Finset String} {bound : String → Nat}

section

variable (represents : resource.Represents tokens bound)
include represents

theorem Represents.await (source : String) (now : Int) :
    (resource.await source now).Represents tokens bound :=
  ⟨represents.sets, represents.counts, represents.bounded, represents.exclusive⟩

theorem Represents.set (source : String) :
    (resource.activeTokens.lookup source).getD ∅ = tokens source := by
  rw [represents.sets]
  split
  next drained => exact drained.symm
  next => rfl

/-- **A reservation adds its token**, when no other source has one and there is room. -/
theorem Represents.admitToken {source token : String}
    (others : ∀ other, other ≠ source → tokens other = ∅)
    (room : (tokens source).card < bound source) (fresh : token ∉ tokens source) :
    (resource.admitToken source token ((tokens source).card + 1)).Represents
      (Function.update tokens source (insert token (tokens source))) bound := by
  constructor
  case sets =>
    intro other
    rw [ResourceCapacity.admitToken, represents.set]
    change (resource.activeTokens.insert source _).lookup other = _
    rw [lookup_insert_eq]
    by_cases same : other = source
    · subst same
      rw [if_pos rfl, update_self, if_neg (insert_ne_empty token _)]
    · rw [if_neg same, update_of_ne same]
      exact represents.sets other
  case counts =>
    intro other
    change ((resource.inFlight.insert source _).lookup other).getD 0 = _
    rw [lookup_insert_eq]
    by_cases same : other = source
    · subst same
      rw [if_pos rfl, update_self, card_insert_of_notMem fresh]
      rfl
    · rw [if_neg same, update_of_ne same]
      exact represents.counts other
  case bounded =>
    intro other
    by_cases same : other = source
    · subst same
      rw [update_self, card_insert_of_notMem fresh]
      exact room
    · rw [update_of_ne same]
      exact represents.bounded other
  case exclusive =>
    intro other busy
    by_cases same : other = source
    · rw [same]
      rfl
    · rw [update_of_ne same] at busy
      exact absurd (others other same) busy

end

def granted (tokens : String → Finset String) (source token : String) (grant : Bool) :
    String → Finset String :=
  if grant then Function.update tokens source (insert token (tokens source)) else tokens

section

variable (represents : resource.Represents tokens bound)
include represents

theorem Represents.tryOwn (starvation now : Int) {source token : String}
    (others : ∀ other, other ≠ source → tokens other = ∅) (fresh : token ∉ tokens source) :
    (resource.tryOwn starvation now source (bound source) token).2.Represents
      (granted tokens source token
        (resource.tryOwn starvation now source (bound source) token).1) bound := by
  rw [ResourceCapacity.tryOwn]
  split
  next => exact represents.await source now
  next =>
    split
    next => exact represents.await source now
    next free =>
      have room : (tokens source).card < bound source := by
        rw [represents.counts] at free
        omega
      rw [represents.counts]
      exact represents.admitToken others room fresh

/-- **A call of `try_reserve`.**  A refusal leaves the tokens as they were. -/
theorem Represents.tryReserve (starvation now : Int) {source token : String}
    (fresh : token ∉ tokens source) (serves : 1 ≤ bound source) :
    (resource.tryReserve starvation now source (bound source) token).2.Represents
      (granted tokens source token
        (resource.tryReserve starvation now source (bound source) token).1) bound := by
  -- Only the active source has tokens.
  have idle : ∀ other, resource.activeSourceId ≠ some other → tokens other = ∅ := by
    intro other inactive
    by_contra busy
    exact inactive (represents.exclusive other busy)
  cases active : resource.activeSourceId with
  | none =>
    simp only [ResourceCapacity.tryReserve, active]
    refine represents.tryOwn starvation now (fun other _ => idle other ?_) fresh
    rw [active]
    exact (some_ne_none other).symm
  | some current =>
    simp only [ResourceCapacity.tryReserve, active]
    by_cases same : current = source
    · rw [if_pos same]
      refine represents.tryOwn starvation now (fun other different => idle other ?_) fresh
      rw [active, same]
      exact fun equal => different (Option.some.inj equal).symm
    · rw [if_neg same]
      by_cases drained : resource.running current = 0
      · have noTokens : ∀ other, tokens other = ∅ := by
          intro other
          by_cases here : other = current
          · rw [here, ← card_eq_zero, ← represents.counts]
            exact drained
          · refine idle other ?_
            rw [active]
            exact fun equal => here (Option.some.inj equal).symm
        have zero : (tokens source).card = 0 := by rw [noTokens, card_empty]
        have added := represents.admitToken (fun other _ => noTokens other) (by omega) fresh
        rw [zero] at added
        rw [if_pos drained]
        exact added
      · rw [if_neg drained]
        exact represents.await source now

theorem Represents.release_eq_self {source token : String} (ended : token ∉ tokens source) :
    resource.release source token = resource := by
  rw [ResourceCapacity.release]
  split
  next => rfl
  next stored found =>
    have known := represents.set source
    rw [found, getD_some] at known
    rw [if_pos (by rw [known]; exact ended)]

/-- **A call of `release`** removes the token. -/
theorem Represents.release (source token : String) :
    (resource.release source token).Represents
      (Function.update tokens source ((tokens source).erase token)) bound := by
  by_cases held : token ∈ tokens source
  · have busy : tokens source ≠ ∅ := ne_empty_of_mem held
    have found : resource.activeTokens.lookup source = some (tokens source) := by
      rw [represents.sets, if_neg busy]
    have positive : 0 < resource.running source := by
      rw [represents.counts]
      exact card_pos.mpr ⟨token, held⟩
    have result : resource.release source token =
        { resource with
          activeTokens :=
            if (tokens source).erase token = ∅ then resource.activeTokens.erase source
            else resource.activeTokens.insert source ((tokens source).erase token)
          inFlight := resource.inFlight.insert source (resource.running source - 1) } := by
      simp only [ResourceCapacity.release, found, held, not_true_eq_false, if_false, positive,
        if_true]
    rw [result]
    constructor
    case sets =>
      intro other
      by_cases same : other = source
      · subst same
        rw [update_self]
        by_cases last : (tokens other).erase token = ∅ <;> simp [last]
      rw [update_of_ne same]
      by_cases last : (tokens source).erase token = ∅
      · simpa [last, lookup_erase_ne same] using represents.sets other
      · simpa [last, lookup_insert_ne same] using represents.sets other
    case counts =>
      intro other
      change ((resource.inFlight.insert source _).lookup other).getD 0 = _
      rw [lookup_insert_eq]
      by_cases same : other = source
      · subst same
        rw [if_pos rfl, update_self, card_erase_of_mem held, represents.counts]
        rfl
      · rw [if_neg same, update_of_ne same]
        exact represents.counts other
    case bounded =>
      intro other
      by_cases same : other = source
      · subst same
        rw [update_self]
        exact Nat.le_trans (card_erase_le) (represents.bounded other)
      · rw [update_of_ne same]
        exact represents.bounded other
    case exclusive =>
      intro other still
      by_cases same : other = source
      · rw [same]
        exact represents.exclusive source busy
      · rw [update_of_ne same] at still
        exact represents.exclusive other still
  · have unchanged : Function.update tokens source ((tokens source).erase token) = tokens := by
      rw [erase_eq_of_notMem held, update_eq_self]
    rw [unchanged, represents.release_eq_self held]
    exact represents

end

end Calls

end ResourceCapacity

/-! ## The authority -/

structure CapacityReservation where
  sourceId : String
  resourceId : Option String
  modelId : Option String
  capacitySourceId : String
  declared : Bool
  concurrency : Option Int
  token : String
  modelSelector : Option String
deriving DecidableEq

/-- The arguments of `SourceCapacityAuthority.try_reserve`. -/
structure CapacityRequest where
  sourceId : String
  resourceId : Option String
  concurrency : Option Int
  modelId : Option String
  modelSelector : Option String := none
  capacitySourceId : Option String := none
  declared : Bool := true

/-- `capacity_source_id or source_id`. -/
def CapacityRequest.capacityKey (request : CapacityRequest) : String :=
  match request.capacitySourceId with
  | some key => if key = "" then request.sourceId else key
  | none => request.sourceId

/-- `SourceCapacityAuthority`: a resource for each id. -/
abbrev SourceCapacity : Type := Dict String ResourceCapacity

namespace SourceCapacity

def resource (authority : SourceCapacity) (id : String) : ResourceCapacity :=
  (authority.lookup id).getD .empty

/-- The reservation that `try_reserve` returns on a declared resource. -/
def reservation (request : CapacityRequest) (token : String) : CapacityReservation where
  sourceId := request.sourceId
  resourceId := request.resourceId
  modelId := request.modelId
  capacitySourceId := request.capacityKey
  declared := request.declared
  concurrency := request.concurrency
  token := token
  modelSelector := request.modelSelector

/-- The answer and the state of `try_reserve` on a declared resource. -/
def reserveOn (starvation now : Int) (authority : SourceCapacity) (request : CapacityRequest)
    (id : String) (concurrency : Int) (token : String) :
    Option CapacityReservation × SourceCapacity :=
  let outcome := (authority.resource id).tryReserve starvation now request.capacityKey
    concurrency token
  (if outcome.1 then some (reservation request token) else none, authority.insert id outcome.2)

/-- `try_reserve`, with the token that `uuid4` gives. -/
def tryReserve (starvation now : Int) (authority : SourceCapacity) (request : CapacityRequest)
    (token : String) : Except String (Option CapacityReservation) × SourceCapacity :=
  if request.sourceId = "" then (.error "source capacity identity is invalid", authority)
  else
    match request.resourceId, request.concurrency with
    -- A source without a resource declaration is unbounded.
    | none, none =>
      (.ok (some ⟨request.sourceId, none, request.modelId, request.sourceId, false, none, token,
        request.modelSelector⟩), authority)
    | some id, some concurrency =>
      if id = "" ∨ concurrency < 1 then
        (.error "declared source capacity is invalid", authority)
      else
        let outcome := authority.reserveOn starvation now request id concurrency token
        (.ok outcome.1, outcome.2)
    | _, _ => (.error "declared source capacity is invalid", authority)

def release (authority : SourceCapacity) (reservation : CapacityReservation) : SourceCapacity :=
  match reservation.resourceId with
  | none => authority
  | some id =>
    match authority.lookup id with
    | none => authority
    | some resource =>
      authority.insert id (resource.release reservation.capacitySourceId reservation.token)

end SourceCapacity

/-! ## Runs -/

/-- The authority with what its callers have seen of it. -/
structure CapacityRun where
  authority : SourceCapacity
  /-- The reservations that were granted and are not released. -/
  held : List CapacityReservation
  /-- Every token that `uuid4` gave. -/
  issued : List String

def CapacityRun.init : CapacityRun := ⟨∅, [], []⟩

inductive CapacityCall where
  /-- `try_reserve` at a clock reading, with the next `uuid4`. -/
  | tryReserve (now : Int) (request : CapacityRequest) (token : String)
  | release (reservation : CapacityReservation)

/-- Two reservations name the same token of the same source. -/
def CapacityReservation.same (first second : CapacityReservation) : Bool :=
  first.resourceId = second.resourceId && first.capacitySourceId = second.capacitySourceId &&
    first.token = second.token

/-- One call, with the reservations it grants or ends. -/
def CapacityRun.step (starvation : Int) (run : CapacityRun) : CapacityCall → CapacityRun
  | .tryReserve now request token =>
    match SourceCapacity.tryReserve starvation now run.authority request token with
    | (.ok (some reservation), authority) =>
      ⟨authority, reservation :: run.held, token :: run.issued⟩
    | (_, authority) => { run with authority := authority, issued := token :: run.issued }
  | .release reservation =>
    { run with
      authority := SourceCapacity.release run.authority reservation
      held := run.held.filter fun other => !(other.same reservation) }

/-- What the callers promise: the concurrency of a capacity source is fixed, and `uuid4` does
not repeat a token. -/
def CapacityRun.allows (concurrencyOf : String → String → Nat) (run : CapacityRun) :
    CapacityCall → Prop
  | .tryReserve _ request token =>
    token ∉ run.issued ∧ ∀ id concurrency, request.resourceId = some id →
      request.concurrency = some concurrency → 1 ≤ concurrency →
        concurrency = concurrencyOf id request.capacityKey
  | .release _ => True

/-- The outstanding tokens of one source of a resource. -/
def tokensOf (held : List CapacityReservation) (id source : String) : Finset String :=
  ((held.filter fun reservation =>
    reservation.resourceId = some id && reservation.capacitySourceId = source).map
      CapacityReservation.token).toFinset

structure CapacityRun.Sound (concurrencyOf : String → String → Nat) (run : CapacityRun) :
    Prop where
  resources : ∀ id, (SourceCapacity.resource run.authority id).Represents (tokensOf run.held id)
    (concurrencyOf id)
  granted : ∀ reservation ∈ run.held, reservation.token ∈ run.issued

theorem mem_tokensOf {held : List CapacityReservation} {id source token : String} :
    token ∈ tokensOf held id source ↔ ∃ reservation ∈ held, reservation.resourceId = some id ∧
      reservation.capacitySourceId = source ∧ reservation.token = token := by
  simp only [tokensOf, List.mem_toFinset, List.mem_map, mem_filter, Bool.and_eq_true,
    decide_eq_true_iff, and_assoc]

theorem CapacityReservation.same_iff {first second : CapacityReservation} :
    first.same second = true ↔ first.resourceId = second.resourceId ∧
      first.capacitySourceId = second.capacitySourceId ∧ first.token = second.token := by
  simp only [CapacityReservation.same, Bool.and_eq_true, decide_eq_true_iff, and_assoc]

theorem tokensOf_cons (reservation : CapacityReservation) (held : List CapacityReservation)
    (id : String) :
    tokensOf (reservation :: held) id =
      if reservation.resourceId = some id then
        ResourceCapacity.granted (tokensOf held id) reservation.capacitySourceId
          reservation.token true
      else tokensOf held id := by
  funext source
  ext token
  rw [mem_tokensOf]
  by_cases here : reservation.resourceId = some id
  · rw [if_pos here, ResourceCapacity.granted, if_pos rfl]
    by_cases same : source = reservation.capacitySourceId
    · subst same
      rw [update_self, Finset.mem_insert, mem_tokensOf]
      constructor
      · rintro ⟨other, member, onId, ofSource, rfl⟩
        rcases mem_cons.mp member with rfl | member
        · exact .inl rfl
        · exact .inr ⟨other, member, onId, ofSource, rfl⟩
      · rintro (rfl | ⟨other, member, found⟩)
        · exact ⟨reservation, mem_cons_self, here, rfl, rfl⟩
        · exact ⟨other, mem_cons_of_mem _ member, found⟩
    · rw [update_of_ne same, mem_tokensOf]
      constructor
      · rintro ⟨other, member, onId, ofSource, sameToken⟩
        rcases mem_cons.mp member with rfl | member
        · exact absurd ofSource.symm same
        · exact ⟨other, member, onId, ofSource, sameToken⟩
      · rintro ⟨other, member, found⟩
        exact ⟨other, mem_cons_of_mem _ member, found⟩
  · rw [if_neg here, mem_tokensOf]
    constructor
    · rintro ⟨other, member, onId, found⟩
      rcases mem_cons.mp member with rfl | member
      · exact absurd onId here
      · exact ⟨other, member, onId, found⟩
    · rintro ⟨other, member, found⟩
      exact ⟨other, mem_cons_of_mem _ member, found⟩

theorem tokensOf_released (reservation : CapacityReservation) (held : List CapacityReservation)
    (id : String) :
    tokensOf (held.filter fun other => !(other.same reservation)) id =
      if reservation.resourceId = some id then
        Function.update (tokensOf held id) reservation.capacitySourceId
          ((tokensOf held id reservation.capacitySourceId).erase reservation.token)
      else tokensOf held id := by
  funext source
  ext token
  have kept : token ∈ tokensOf (held.filter fun other => !(other.same reservation)) id source ↔
      token ∈ tokensOf held id source ∧ ¬ (some id = reservation.resourceId ∧
        source = reservation.capacitySourceId ∧ token = reservation.token) := by
    simp only [mem_tokensOf, mem_filter, Bool.not_eq_true', ← Bool.not_eq_true,
      CapacityReservation.same_iff]
    constructor
    · rintro ⟨other, ⟨member, different⟩, onId, rfl, rfl⟩
      exact ⟨⟨other, member, onId, rfl, rfl⟩, onId ▸ different⟩
    · rintro ⟨⟨other, member, onId, rfl, rfl⟩, different⟩
      exact ⟨other, ⟨member, onId.symm ▸ different⟩, onId, rfl, rfl⟩
  rw [kept]
  by_cases here : reservation.resourceId = some id
  · rw [if_pos here]
    by_cases same : source = reservation.capacitySourceId
    · subst same
      rw [update_self, Finset.mem_erase]
      simp [here, and_comm]
    · rw [update_of_ne same]
      simp [same]
  · rw [if_neg here]
    exact and_iff_left fun found => here found.1.symm

/-- **What a call of `try_reserve` can do**: raise, grant an unbounded source, or ask the
resource. -/
theorem step_tryReserve_cases (starvation now : Int) (run : CapacityRun)
    (request : CapacityRequest) (token : String) :
    (run.step starvation (.tryReserve now request token) =
        { run with issued := token :: run.issued }) ∨
      (∃ reservation : CapacityReservation, reservation.resourceId = none ∧
        reservation.token = token ∧
        run.step starvation (.tryReserve now request token) =
          ⟨run.authority, reservation :: run.held, token :: run.issued⟩) ∨
      ∃ id concurrency, request.resourceId = some id ∧ request.concurrency = some concurrency ∧
        1 ≤ concurrency ∧
        let outcome := (SourceCapacity.resource run.authority id).tryReserve starvation now
          request.capacityKey concurrency token
        run.step starvation (.tryReserve now request token) =
          ⟨run.authority.insert id outcome.2,
            if outcome.1 then SourceCapacity.reservation request token :: run.held
            else run.held, token :: run.issued⟩ := by
  rw [CapacityRun.step]
  by_cases anonymous : request.sourceId = ""
  · simp only [SourceCapacity.tryReserve, anonymous, if_true]
    exact .inl trivial
  cases onId : request.resourceId with
  | none =>
    cases bounded : request.concurrency with
    | none =>
      simp only [SourceCapacity.tryReserve, anonymous, if_false, onId, bounded]
      exact .inr (.inl ⟨_, rfl, rfl, rfl⟩)
    | some concurrency =>
      simp only [SourceCapacity.tryReserve, anonymous, if_false, onId, bounded]
      exact .inl trivial
  | some id =>
    cases bounded : request.concurrency with
    | none =>
      simp only [SourceCapacity.tryReserve, anonymous, if_false, onId, bounded]
      exact .inl trivial
    | some concurrency =>
      by_cases invalid : id = "" ∨ concurrency < 1
      · simp only [SourceCapacity.tryReserve, anonymous, if_false, onId, bounded, invalid, if_true]
        exact .inl trivial
      refine .inr (.inr ⟨id, concurrency, rfl, rfl, by omega, ?_⟩)
      simp only [SourceCapacity.tryReserve, anonymous, if_false, onId, bounded, invalid,
        SourceCapacity.reserveOn]
      cases ((SourceCapacity.resource run.authority id).tryReserve starvation now
        request.capacityKey concurrency token).1 with
      | false => rfl
      | true => rfl

theorem resource_insert (authority : SourceCapacity) (id other : String)
    (resource : ResourceCapacity) :
    SourceCapacity.resource (authority.insert id resource) other =
      if other = id then resource else SourceCapacity.resource authority other := by
  rw [SourceCapacity.resource, lookup_insert_eq]
  split <;> rfl

theorem resource_release (authority : SourceCapacity) (reservation : CapacityReservation)
    (id : String) :
    SourceCapacity.resource (SourceCapacity.release authority reservation) id =
      if reservation.resourceId = some id then
        (SourceCapacity.resource authority id).release reservation.capacitySourceId
          reservation.token
      else SourceCapacity.resource authority id := by
  rw [SourceCapacity.release]
  cases onId : reservation.resourceId with
  | none => simp
  | some own =>
    rcases eq_none_or_eq_some (authority.lookup own) with missing | ⟨resource, found⟩
    · simp only [missing]
      split
      next here =>
        cases here
        simp [SourceCapacity.resource, missing, ResourceCapacity.release,
          ResourceCapacity.empty]
      next => rfl
    · simp only [found]
      rw [resource_insert]
      by_cases here : id = own
      · subst here
        rw [if_pos rfl, if_pos rfl, SourceCapacity.resource, found]
        rfl
      · rw [if_neg here, if_neg fun equal => here (Option.some.inj equal).symm]

section Runs

variable {concurrencyOf : String → String → Nat} {run : CapacityRun}

theorem CapacityRun.sound_init : init.Sound concurrencyOf := by
  refine ⟨fun id => ?_, ?_⟩
  · have fresh : SourceCapacity.resource init.authority id = .empty := by
      rw [SourceCapacity.resource, init, lookup_empty]
      rfl
    rw [fresh]
    exact ResourceCapacity.represents_empty (concurrencyOf id)
  · intro reservation member
    cases member

theorem CapacityRun.Sound.step (sound : run.Sound concurrencyOf) (starvation : Int)
    {call : CapacityCall} (allowed : run.allows concurrencyOf call) :
    (run.step starvation call).Sound concurrencyOf := by
  have older : ∀ token, ∀ reservation ∈ run.held, reservation.token ∈ token :: run.issued :=
    fun token reservation member => mem_cons_of_mem token (sound.granted reservation member)
  match call, allowed with
  | .tryReserve now request token, ⟨fresh, fixed⟩ =>
    obtain raised | ⟨reservation, unbounded, ofToken, granted⟩ |
        ⟨id, concurrency, onId, bounded, positive, asked⟩ :=
      step_tryReserve_cases starvation now run request token
    · rw [raised]
      exact ⟨sound.resources, older token⟩
    · rw [granted]
      refine ⟨fun id => ?_, forall_mem_cons.mpr ⟨?_, older token⟩⟩
      · rw [tokensOf_cons, if_neg (by rw [unbounded]; exact (some_ne_none id).symm)]
        exact sound.resources id
      · rw [ofToken]
        exact mem_cons_self
    · have limit := fixed id concurrency onId bounded positive
      have unused : token ∉ tokensOf run.held id request.capacityKey := by
        intro member
        obtain ⟨reservation, member, _, _, same⟩ := mem_tokensOf.mp member
        exact fresh (same ▸ sound.granted reservation member)
      have called := (sound.resources id).tryReserve starvation now unused
        (by omega)
      rw [← limit] at called
      rw [asked]
      constructor
      · intro other
        rw [resource_insert]
        by_cases here : other = id
        · subst here
          rw [if_pos rfl]
          cases grant : ((SourceCapacity.resource run.authority other).tryReserve starvation now
              request.capacityKey concurrency token).1 with
          | false =>
            rw [grant] at called
            rw [if_neg Bool.false_ne_true]
            exact called
          | true =>
            have here : (SourceCapacity.reservation request token).resourceId = some other :=
              onId
            rw [grant] at called
            rw [if_pos rfl, tokensOf_cons, if_pos here]
            exact called
        · rw [if_neg here]
          have untouched : tokensOf (SourceCapacity.reservation request token :: run.held)
              other = tokensOf run.held other := by
            rw [tokensOf_cons, if_neg]
            intro equal
            exact here (Option.some.inj (equal.symm.trans onId))
          split
          · rw [untouched]
            exact sound.resources other
          · exact sound.resources other
      · intro reservation member
        split at member
        · rcases mem_cons.mp member with rfl | member
          · exact mem_cons_self
          · exact older token reservation member
        · exact older token reservation member
  | .release reservation, _ =>
    constructor
    · intro id
      rw [CapacityRun.step, tokensOf_released, resource_release]
      split
      · exact (sound.resources id).release _ _
      · exact sound.resources id
    · intro other member
      exact sound.granted other (mem_filter.mp member).1

end Runs

/-- The reservation is over: its token was given and no outstanding reservation is the same. -/
def CapacityRun.Ended (run : CapacityRun) (reservation : CapacityReservation) : Prop :=
  reservation.token ∈ run.issued ∧ ∀ other ∈ run.held, ¬ other.same reservation = true

theorem CapacityRun.Ended.step {concurrencyOf : String → String → Nat} {run : CapacityRun}
    {ended : CapacityReservation} (spent : run.Ended ended) (starvation : Int)
    {call : CapacityCall} (allowed : run.allows concurrencyOf call) :
    (run.step starvation call).Ended ended := by
  obtain ⟨issued, gone⟩ := spent
  match call, allowed with
  | .tryReserve now request token, ⟨fresh, _⟩ =>
    have different : ∀ reservation : CapacityReservation, reservation.token = token →
        ¬ reservation.same ended = true := by
      rintro reservation rfl same
      exact fresh ((CapacityReservation.same_iff.mp same).2.2 ▸ issued)
    obtain raised | ⟨reservation, _, ofToken, granted⟩ | ⟨_, _, _, _, _, asked⟩ :=
      step_tryReserve_cases starvation now run request token
    · rw [raised]
      exact ⟨mem_cons_of_mem token issued, gone⟩
    · rw [granted]
      exact ⟨mem_cons_of_mem token issued,
        forall_mem_cons.mpr ⟨different reservation ofToken, gone⟩⟩
    · rw [asked]
      refine ⟨mem_cons_of_mem token issued, ?_⟩
      dsimp only
      split
      · exact forall_mem_cons.mpr ⟨different _ rfl, gone⟩
      · exact gone
  | .release reservation, _ =>
    exact ⟨issued, fun other member => gone other (mem_filter.mp member).1⟩

theorem CapacityRun.Sound.release_ended {concurrencyOf : String → String → Nat}
    {run : CapacityRun} (sound : run.Sound concurrencyOf) {ended : CapacityReservation}
    (gone : ∀ other ∈ run.held, ¬ other.same ended = true) (id : String) :
    SourceCapacity.resource (SourceCapacity.release run.authority ended) id =
      SourceCapacity.resource run.authority id := by
  rw [resource_release]
  split
  next here =>
    apply (sound.resources id).release_eq_self
    intro member
    obtain ⟨other, held, onId, ofSource, ofToken⟩ := mem_tokensOf.mp member
    exact gone other held (CapacityReservation.same_iff.mpr
      ⟨onId.trans here.symm, ofSource, ofToken⟩)
  next => rfl

/-- **Source capacity safety.**  After every sequence of calls, for every resource: the count
of a source is the number of its outstanding tokens and at most its concurrency; a source with
a positive count is the active one, so there is at most one; and a second release of a
reservation changes no resource, whatever was called between the two. -/
theorem source_capacity (starvation : Int) (concurrencyOf : String → String → Nat)
    (calls : List CapacityCall)
    (admissible : Admissible (CapacityRun.step starvation) (CapacityRun.allows concurrencyOf)
      .init calls) :
    let run := exec (CapacityRun.step starvation) .init calls
    (∀ id source, (SourceCapacity.resource run.authority id).running source =
        (tokensOf run.held id source).card ∧
      (SourceCapacity.resource run.authority id).running source ≤ concurrencyOf id source) ∧
    (∀ id source, 0 < (SourceCapacity.resource run.authority id).running source →
      (SourceCapacity.resource run.authority id).activeSourceId = some source) ∧
    (∀ id first second, 0 < (SourceCapacity.resource run.authority id).running first →
      0 < (SourceCapacity.resource run.authority id).running second → first = second) ∧
    ∀ (reservation : CapacityReservation) (later : List CapacityCall),
      later = [] ∨ reservation.token ∈ run.issued →
      Admissible (CapacityRun.step starvation) (CapacityRun.allows concurrencyOf)
        (run.step starvation (.release reservation)) later →
      ∀ id, SourceCapacity.resource (SourceCapacity.release
          (exec (CapacityRun.step starvation) (run.step starvation (.release reservation))
            later).authority reservation) id =
        SourceCapacity.resource
          (exec (CapacityRun.step starvation) (run.step starvation (.release reservation))
            later).authority id := by
  intro run
  have sound : run.Sound concurrencyOf :=
    admissible.invariant (fun _ _ holds allowed => holds.step starvation allowed)
      CapacityRun.sound_init
  have active : ∀ id source, 0 < (SourceCapacity.resource run.authority id).running source →
      (SourceCapacity.resource run.authority id).activeSourceId = some source := by
    intro id source positive
    rw [(sound.resources id).counts] at positive
    exact (sound.resources id).exclusive source (card_pos.mp positive).ne_empty
  refine ⟨fun id source => ⟨(sound.resources id).counts source, ?_⟩, active, ?_, ?_⟩
  · rw [(sound.resources id).counts]
    exact (sound.resources id).bounded source
  · intro id first second firstBusy secondBusy
    exact Option.some.inj ((active id first firstBusy).symm.trans (active id second secondBusy))
  · intro reservation later known continued
    have released : (run.step starvation (.release reservation)).Sound concurrencyOf :=
      sound.step starvation trivial
    have gone : ∀ other ∈ (run.step starvation (.release reservation)).held,
        ¬ other.same reservation = true := by
      intro other member
      simpa using (mem_filter.mp member).2
    rcases known with rfl | issued
    · exact released.release_ended gone
    have stays : ∀ (state : CapacityRun) (call : CapacityCall),
        state.Sound concurrencyOf ∧ state.Ended reservation →
        state.allows concurrencyOf call → (state.step starvation call).Sound concurrencyOf ∧
          (state.step starvation call).Ended reservation :=
      fun _ _ holds allowed => ⟨holds.1.step starvation allowed, holds.2.step starvation allowed⟩
    have after := continued.invariant stays ⟨released, issued, gone⟩
    exact after.1.release_ended after.2.2

/-- Two reservations of one source, a refused one of another, and a repeated release. -/
def capacitySample : List CapacityCall :=
  let request : String → CapacityRequest := fun source =>
    ⟨source, some "gpu", some 2, none, none, none, true⟩
  let reservation : CapacityReservation := ⟨"s", some "gpu", none, "s", true, some 2, "a", none⟩
  [.tryReserve 0 (request "s") "a", .tryReserve 1 (request "s") "b",
    .tryReserve 2 (request "t") "c", .release reservation, .release reservation]

theorem capacity_sample_in_flight :
    let run := exec (CapacityRun.step 30) .init capacitySample
    (SourceCapacity.resource run.authority "gpu").running "s" = 1 ∧
      (SourceCapacity.resource run.authority "gpu").activeSourceId = some "s" := by
  have admissible : Admissible (CapacityRun.step 30) (CapacityRun.allows fun _ _ => 2) .init
      capacitySample := by
    have fixed : ∀ id concurrency, some "gpu" = some id → some (2 : Int) = some concurrency →
        1 ≤ concurrency → concurrency = ((2 : Nat) : Int) := by
      rintro id concurrency - bounded -
      exact (Option.some.inj bounded).symm
    exact ⟨⟨by decide, fixed⟩, ⟨by decide, fixed⟩, ⟨by decide, fixed⟩, trivial, trivial, trivial⟩
  obtain ⟨counts, active, -⟩ := source_capacity 30 (fun _ _ => 2) capacitySample admissible
  have one := (counts "gpu" "s").1.trans (by decide : _ = 1)
  exact ⟨one, active "gpu" "s" (by rw [one]; exact Nat.one_pos)⟩

end Audiagentic.Queue
