import Audiagentic.Events.Patterns
import Audiagentic.Foundations.Runs
import Mathlib.Algebra.Order.Ring.Int

/-!
# Propagation of events

A publication runs the handlers of its subscribers one after another, and a handler publishes
further events before it returns, with the metadata that it got.  The bus compares the depth that
the metadata state with its bound, and the id of the event with those of its correlation.

A handler keeps a store of its own and may go by what its publications answered; a subscription
says of it only the types of the events that it may publish.  So many types in a row, each one
published by a subscriber of the one before, is how deep the publications can nest
(`propagation_bounded_iff`).
-/

namespace Audiagentic.Events

open Foundations List

/-! ## Events and handlers -/

/-- What the bus reads of the metadata. -/
structure Metadata where
  propagationDepth : Option ℤ
  correlationId : Option Text

def Metadata.depth (metadata : Metadata) : ℤ := metadata.propagationDepth.getD 0

structure BusEvent (π : Type) where
  type : Text
  payload : π
  metadata : Metadata

/-- An event that a handler publishes, with the metadata it got or with their depth alone. -/
structure Publication (π : Type) where
  type : Text
  payload : π
  depthAlone : Bool

def Publication.event {π : Type} (publication : Publication π) (received : Metadata) :
    BusEvent π where
  type := publication.type
  payload := publication.payload
  metadata := if publication.depthAlone then ⟨some received.depth, none⟩ else received

inductive EventError where
  /-- `CycleDetectedError`. -/
  | cycle
  | handler

/-- What a handler does over its store: it returns or raises, or it publishes an event and goes on
by what the publication answers. -/
inductive Handling (π σ : Type) where
  | done (raises : Bool) (finish : σ → σ)
  | publish (choose : σ → Publication π × σ) (next : Except EventError Unit → σ → Handling π σ)

/-- The handler publishes events of these types only, whatever it is answered. -/
def Handling.Within {π σ : Type} (types : List Text) : Handling π σ → Prop
  | .done _ _ => True
  | .publish choose next => (∀ store, (choose store).1.type ∈ types) ∧
      ∀ answer store, (next answer store).Within types

/-- A subscription, with the types of the events that its handler may publish. -/
structure SubscriptionHandle where
  id : ℕ
  publishes : List Text

/-- What the handler of every subscription does with an event, from the store on. -/
abbrev Handlers (π σ : Type) := SubscriptionHandle → BusEvent π → σ → Handling π σ

/-! ## The bus -/

structure EventBus where
  maxDepth : ℤ
  correlationTracking : Bool
  maxCorrelationChains : ℕ
  maxEventsPerCorrelation : ℕ
  subscriptions : List (Text × List SubscriptionHandle)

/-- The next id is that of no event before; the correlations stand in the order of their use.  The
events that were taken and the subscribers that received them are kept as a history. -/
structure BusState (π σ : Type) where
  nextId : ℕ
  correlationChains : List (Text × List ℕ)
  published : List (BusEvent π)
  received : List (BusEvent π × SubscriptionHandle)
  store : σ

/-- A computation of the bus; nothing comes of one that nests deeper than it may. -/
abbrev BusRun (π σ : Type) := BusState π σ → Option (Except EventError Unit × BusState π σ)

/-- Room for one entry more. -/
def capped {α : Type} (limit : ℕ) (entries : List α) : List α :=
  if limit ≤ entries.length then entries.tail else entries

variable {π σ : Type}

/-- The handler runs; what it publishes carries the metadata that it received. -/
def Handling.run (publish : BusEvent π → BusRun π σ) (received : Metadata) :
    Handling π σ → BusRun π σ
  | .done raises finish, state =>
    some (if raises then .error .handler else .ok (), { state with store := finish state.store })
  | .publish choose next, state =>
    let (publication, store) := choose state.store
    match publish (publication.event received) { state with store } with
    | none => none
    | some (answer, state) => (next answer state.store).run publish received state

/-- One subscriber after another; what a handler raises is logged. -/
def runAll : List (BusRun π σ) → BusRun π σ
  | [], state => some (.ok (), state)
  | run :: rest, state =>
    match run state with
    | none => none
    | some (_, state) => runAll rest state

/-- A subscriber receives the event, and its handler runs. -/
def SubscriptionHandle.run (handlers : Handlers π σ) (publish : BusEvent π → BusRun π σ)
    (event : BusEvent π) (handle : SubscriptionHandle) : BusRun π σ := fun state =>
  (handlers handle event state.store).run publish event.metadata
    { state with received := state.received ++ [(event, handle)] }

namespace EventBus

variable (bus : EventBus)

def findMatchingSubscribers (type : Text) : List SubscriptionHandle :=
  bus.subscriptions.flatMap fun entry => if patternMatches entry.1 type then entry.2 else []

/-- The second part of `_check_cycle`. -/
def track (chains : List (Text × List ℕ)) (correlation : Text) (id : ℕ) :
    Except EventError Unit × List (Text × List ℕ) :=
  match chains.find? fun chain => chain.1 = correlation with
  | none => (.ok (), capped bus.maxCorrelationChains chains ++ [(correlation, [id])])
  | some (_, events) =>
    let others := chains.filter fun chain => chain.1 ≠ correlation
    if id ∈ events then (.error .cycle, others ++ [(correlation, events)])
    else (.ok (), others ++ [(correlation, capped bus.maxEventsPerCorrelation events ++ [id])])

def checkCycle (event : BusEvent π) (state : BusState π σ) :
    Except EventError Unit × BusState π σ :=
  let numbered := { state with nextId := state.nextId + 1 }
  if bus.maxDepth ≤ event.metadata.depth then (.error .cycle, numbered)
  else
    let correlation := event.metadata.correlationId.getD []
    if correlation ≠ [] ∧ bus.correlationTracking = true then
      let (answer, correlationChains) := bus.track state.correlationChains correlation state.nextId
      (answer, { numbered with correlationChains })
    else (.ok (), numbered)

/-- `_dispatch_sync`. -/
def dispatchSync (handlers : Handlers π σ) (publish : BusEvent π → BusRun π σ)
    (event : BusEvent π) : BusRun π σ :=
  runAll ((bus.findMatchingSubscribers event.type).map (·.run handlers publish event))

/-- `publish`, with so many publications in one another as the number says. -/
def publish (handlers : Handlers π σ) : ℕ → BusEvent π → BusRun π σ
  | nested, event, state =>
    match bus.checkCycle event state with
    | (.error error, state) => some (.error error, state)
    | (.ok _, state) =>
      match nested with
      | 0 => none
      | nested + 1 => bus.dispatchSync handlers (publish handlers nested) event
          { state with published := state.published ++ [event] }

/-! ## What is asked of a publication -/

/-- Every handler publishes what its subscription says, at most. -/
def Conform (handlers : Handlers π σ) : Prop :=
  ∀ handle event store, (handlers handle event store).Within handle.publishes

/-- What was taken since `before` has been received by all its subscribers. -/
def Served (before after : BusState π σ) : Prop :=
  ∀ event ∈ after.published, event ∈ before.published ∨
    ∀ handle ∈ bus.findMatchingSubscribers event.type, (event, handle) ∈ after.received

/-- A publication ends, with no more publications in one another than the bound allows.  One that
states the bound or more is refused; one that is taken is received by all its subscribers, and so is
every event that is published within it. -/
def PropagationBounded (handlers : Handlers π σ) (event : BusEvent π) (state : BusState π σ) :
    Prop :=
  ∃ answer after,
    bus.publish handlers bus.maxDepth.toNat event state = some (answer, after) ∧
      bus.Served state after ∧
      if bus.maxDepth ≤ event.metadata.depth then answer = .error .cycle
      else answer = .ok () ∧ event ∈ after.published

/-- No more than so many types in a row, from this one on, each of which a subscriber of the one
before may publish. -/
def Short : ℕ → Text → Prop
  | 0, _ => False
  | bound + 1, type => ∀ handle ∈ bus.findMatchingSubscribers type,
      ∀ next ∈ handle.publishes, Short bound next

instance : ∀ bound type, Decidable (bus.Short bound type)
  | 0, _ => .isFalse id
  | bound + 1, type =>
    have : ∀ type, Decidable (bus.Short bound type) := instDecidableShort bound
    inferInstanceAs (Decidable (∀ handle ∈ bus.findMatchingSubscribers type,
      ∀ next ∈ handle.publishes, bus.Short bound next))

end EventBus

/-- The correlations know only events of before. -/
def BusState.Fresh (state : BusState π σ) : Prop :=
  ∀ chain ∈ state.correlationChains, ∀ id ∈ chain.2, id < state.nextId

variable {bus : EventBus} {event : BusEvent π} {state : BusState π σ}

/-! ## The ids of a correlation -/

theorem mem_of_mem_capped {α : Type} {limit : ℕ} {entries : List α} {entry : α}
    (kept : entry ∈ capped limit entries) : entry ∈ entries := by
  unfold capped at kept
  split at kept
  · exact mem_of_mem_tail kept
  · exact kept

/-- A new id is never found among those of its correlation. -/
theorem track_ok {chains : List (Text × List ℕ)} {next : ℕ}
    (fresh : ∀ chain ∈ chains, ∀ id ∈ chain.2, id < next) (correlation : Text) :
    ∃ tracked, bus.track chains correlation next = (.ok (), tracked) ∧
      ∀ chain ∈ tracked, ∀ id ∈ chain.2, id < next + 1 := by
  have older : ∀ chain ∈ chains, ∀ id ∈ chain.2, id < next + 1 := fun chain listed id member =>
    Nat.lt_succ_of_lt (fresh chain listed id member)
  unfold EventBus.track
  split
  next =>
    exact ⟨_, rfl, forall_mem_snoc (fun chain kept => older chain (mem_of_mem_capped kept))
      (by simp)⟩
  next events found =>
    have listed := mem_of_find?_eq_some found
    rw [if_neg fun again => lt_irrefl _ (fresh _ listed _ again)]
    exact ⟨_, rfl, forall_mem_snoc (fun chain kept => older chain (mem_of_mem_filter kept))
      (forall_mem_snoc (fun id kept => older _ listed id (mem_of_mem_capped kept))
        (Nat.lt_succ_self next))⟩

/-- **The check refuses by the stated depth alone.**  The state stays fresh. -/
theorem checkCycle_fresh (fresh : state.Fresh) :
    ∃ checked : BusState π σ, checked.Fresh ∧ checked.published = state.published ∧
      checked.received = state.received ∧ checked.store = state.store ∧
      bus.checkCycle event state =
        (if bus.maxDepth ≤ event.metadata.depth then .error .cycle else .ok (), checked) := by
  have older : ∀ chain ∈ state.correlationChains, ∀ id ∈ chain.2, id < state.nextId + 1 :=
    fun chain listed id member => Nat.lt_succ_of_lt (fresh chain listed id member)
  unfold EventBus.checkCycle
  dsimp only
  split
  · exact ⟨{ state with nextId := state.nextId + 1 }, older, rfl, rfl, rfl, rfl⟩
  split
  · obtain ⟨tracked, answer, newer⟩ := @track_ok bus _ _ fresh
      (event.metadata.correlationId.getD [])
    rw [answer]
    exact ⟨{ state with nextId := state.nextId + 1, correlationChains := tracked }, newer, rfl, rfl,
      rfl, rfl⟩
  · exact ⟨{ state with nextId := state.nextId + 1 }, older, rfl, rfl, rfl, rfl⟩

theorem depth_event (publication : Publication π) (received : Metadata) :
    (publication.event received).metadata.depth = received.depth := by
  rw [Publication.event]
  split <;> rfl

/-! ## What a computation leaves -/

/-- What one state keeps of another: the history, to which only events are added that are served. -/
structure Later (bus : EventBus) (before after : BusState π σ) : Prop where
  received : before.received ⊆ after.received
  published : before.published ⊆ after.published
  served : bus.Served before after

theorem Later.of_same {before after : BusState π σ} (received : before.received ⊆ after.received)
    (published : after.published = before.published) : Later bus before after where
  received := received
  published := fun _ taken => published ▸ taken
  served := fun _ taken => .inl (published ▸ taken)

theorem Later.trans {first second third : BusState π σ} (earlier : Later bus first second)
    (later : Later bus second third) : Later bus first third where
  received := List.Subset.trans earlier.received later.received
  published := List.Subset.trans earlier.published later.published
  served event taken := by
    rcases later.served event taken with before | all
    · exact (earlier.served event before).imp_right fun all handle matching =>
        later.received (all handle matching)
    · exact .inr all

/-- A computation that ends in a fresh state leaves a later one that is fresh. -/
def Keeps (bus : EventBus) (run : BusRun π σ) : Prop :=
  ∀ ⦃state answer after⦄, state.Fresh → run state = some (answer, after) →
    after.Fresh ∧ Later bus state after

theorem keeps_handling {publish : BusEvent π → BusRun π σ}
    (inner : ∀ event, Keeps bus (publish event)) (received : Metadata) (handling : Handling π σ) :
    Keeps bus (handling.run publish received) := by
  induction handling with
  | done raises finish =>
    rintro state answer after fresh ⟨⟩
    exact ⟨fresh, .of_same (List.Subset.refl _) rfl⟩
  | publish choose next ih =>
    intro state answer after fresh ran
    rw [Handling.run] at ran
    dsimp only at ran
    split at ran
    · cases ran
    next answered middle published =>
      obtain ⟨fresh', later⟩ :=
        @inner _ { state with store := (choose state.store).2 } _ _ fresh published
      obtain ⟨fresh'', later'⟩ := ih _ _ fresh' ran
      exact ⟨fresh'', .trans ⟨later.received, later.published, later.served⟩ later'⟩

theorem keeps_runAll {runs : List (BusRun π σ)} (each : ∀ run ∈ runs, Keeps bus run) :
    Keeps bus (runAll runs) := by
  induction runs with
  | nil =>
    rintro state answer after fresh ⟨⟩
    exact ⟨fresh, .of_same (List.Subset.refl _) rfl⟩
  | cons run rest ih =>
    obtain ⟨here, others⟩ := forall_mem_cons.mp each
    intro state answer after fresh ran
    rw [runAll] at ran
    split at ran
    · cases ran
    next answered middle first =>
      obtain ⟨fresh', later⟩ := here fresh first
      obtain ⟨fresh'', later'⟩ := ih others fresh' ran
      exact ⟨fresh'', later.trans later'⟩

variable {handlers : Handlers π σ} {publish : BusEvent π → BusRun π σ}

/-- A subscriber has received the event when its handler has run. -/
theorem keeps_handle (inner : ∀ event, Keeps bus (publish event)) {handle : SubscriptionHandle}
    {answer : Except EventError Unit} {after : BusState π σ} (fresh : state.Fresh)
    (ran : handle.run handlers publish event state = some (answer, after)) :
    (after.Fresh ∧ Later bus state after) ∧ (event, handle) ∈ after.received := by
  obtain ⟨newer, later⟩ := @keeps_handling π σ bus _ inner event.metadata _
    { state with received := state.received ++ [(event, handle)] } answer after fresh ran
  have received : Later bus state { state with received := state.received ++ [(event, handle)] } :=
    .of_same (List.subset_append_left _ _) rfl
  exact ⟨⟨newer, received.trans later⟩, later.received (by simp)⟩

theorem keeps_handles (inner : ∀ event, Keeps bus (publish event))
    (handles : List SubscriptionHandle) :
    Keeps bus (runAll (handles.map (·.run handlers publish event))) := by
  refine keeps_runAll fun run listed => ?_
  obtain ⟨handle, -, rfl⟩ := mem_map.mp listed
  exact fun _ _ _ fresh ran => (keeps_handle inner fresh ran).1

/-- **Every subscriber receives what is dispatched**, whatever the others raise. -/
theorem received_runAll (inner : ∀ event, Keeps bus (publish event))
    {handles : List SubscriptionHandle} {answer : Except EventError Unit} {after : BusState π σ}
    (fresh : state.Fresh)
    (ran : runAll (handles.map (·.run handlers publish event)) state = some (answer, after)) :
    answer = .ok () ∧ ∀ handle ∈ handles, (event, handle) ∈ after.received := by
  induction handles generalizing state with
  | nil =>
    cases ran
    exact ⟨rfl, forall_mem_nil _⟩
  | cons handle rest ih =>
    rw [map_cons, runAll] at ran
    split at ran
    · cases ran
    next answered middle first =>
      obtain ⟨⟨fresh', -⟩, shown⟩ := keeps_handle inner fresh first
      obtain ⟨ok, received⟩ := ih fresh' ran
      have kept := (keeps_handles inner rest fresh' ran).2.received
      exact ⟨ok, forall_mem_cons.mpr ⟨kept shown, received⟩⟩

/-! ## Publications -/

theorem publish_of_deep (deep : bus.maxDepth ≤ event.metadata.depth) (fresh : state.Fresh)
    (nested : ℕ) : ∃ refused : BusState π σ, refused.Fresh ∧
      refused.published = state.published ∧ refused.received = state.received ∧
      bus.publish handlers nested event state = some (.error .cycle, refused) := by
  obtain ⟨checked, newer, published, received, -, checks⟩ := @checkCycle_fresh π σ bus event _ fresh
  rw [if_pos deep] at checks
  refine ⟨checked, newer, published, received, ?_⟩
  cases nested with
  | zero | succ => rw [EventBus.publish, checks]

/-- An event that states less than the bound is taken. -/
theorem publish_of_shallow (shallow : ¬ bus.maxDepth ≤ event.metadata.depth)
    (fresh : state.Fresh) : ∃ taken : BusState π σ, taken.Fresh ∧
      taken.published = state.published ++ [event] ∧ taken.received = state.received ∧
      bus.publish handlers 0 event state = none ∧ ∀ nested,
        bus.publish handlers (nested + 1) event state =
          bus.dispatchSync handlers (bus.publish handlers nested) event taken := by
  obtain ⟨checked, newer, published, received, -, checks⟩ := @checkCycle_fresh π σ bus event _ fresh
  rw [if_neg shallow] at checks
  refine ⟨{ checked with published := checked.published ++ [event] }, newer, ?_, received, ?_,
    fun nested => ?_⟩
  · rw [published]
  · rw [EventBus.publish, checks]
  · rw [EventBus.publish, checks]

/-- **What a publication leaves** when it ends. -/
theorem keeps_publish (nested : ℕ) (event : BusEvent π) :
    Keeps bus (bus.publish handlers nested event) := by
  induction nested generalizing event with
  | zero =>
    intro state answer after fresh ran
    by_cases deep : bus.maxDepth ≤ event.metadata.depth
    · obtain ⟨refused, newer, published, received, refuses⟩ :=
        @publish_of_deep π σ bus event _ handlers deep fresh 0
      cases refuses.symm.trans ran
      exact ⟨newer, .of_same (by rw [received]; exact List.Subset.refl _) published⟩
    · obtain ⟨_, _, _, _, stops, _⟩ := @publish_of_shallow π σ bus event _ handlers deep fresh
      cases stops.symm.trans ran
  | succ nested ih =>
    intro state answer after fresh ran
    by_cases deep : bus.maxDepth ≤ event.metadata.depth
    · obtain ⟨refused, newer, published, received, refuses⟩ :=
        @publish_of_deep π σ bus event _ handlers deep fresh (nested + 1)
      cases refuses.symm.trans ran
      exact ⟨newer, .of_same (by rw [received]; exact List.Subset.refl _) published⟩
    · obtain ⟨taken, newer, published, received, -, goes⟩ :=
        @publish_of_shallow π σ bus event _ handlers deep fresh
      rw [goes] at ran
      obtain ⟨fresh', later⟩ := keeps_handles ih _ newer ran
      have all := (received_runAll ih newer ran).2
      refine ⟨fresh', ?_, ?_, ?_⟩
      · rw [← received]
        exact later.received
      · refine List.Subset.trans ?_ later.published
        rw [published]
        exact List.subset_append_left _ _
      · intro other here
        rcases later.served other here with before | shown
        · rw [published, mem_append, mem_singleton] at before
          rcases before with before | rfl
          · exact .inl before
          · exact .inr all
        · exact .inr shown

/-- **A publication answers by the depth that it states**, when it ends. -/
theorem publish_answer {nested : ℕ} {answer : Except EventError Unit} {after : BusState π σ}
    (fresh : state.Fresh) (ran : bus.publish handlers nested event state = some (answer, after)) :
    if bus.maxDepth ≤ event.metadata.depth then answer = .error .cycle
    else answer = .ok () ∧ event ∈ after.published := by
  split
  next deep =>
    obtain ⟨_, _, _, _, refuses⟩ := @publish_of_deep π σ bus event _ handlers deep fresh nested
    cases refuses.symm.trans ran
    rfl
  next shallow =>
    obtain ⟨taken, newer, published, -, stops, goes⟩ :=
      @publish_of_shallow π σ bus event _ handlers shallow fresh
    cases nested with
    | zero => cases stops.symm.trans ran
    | succ nested =>
      rw [goes] at ran
      have inner := @keeps_publish π σ bus handlers nested
      refine ⟨(received_runAll inner newer ran).1, ?_⟩
      have kept := (keeps_handles inner _ newer ran).2.published
      exact kept (by simp [published])

/-! ## What ends -/

/-- A handler ends when every event that it may publish does. -/
theorem handling_ends {types : List Text} {received : Metadata}
    (inner : ∀ event, Keeps bus (publish event))
    (ends : ∀ event : BusEvent π, event.type ∈ types → ∀ state : BusState π σ, state.Fresh →
      (publish event state).isSome) {handling : Handling π σ} (within : handling.Within types)
    (fresh : state.Fresh) : (handling.run publish received state).isSome := by
  induction handling generalizing state with
  | done raises finish => rfl
  | publish choose next ih =>
    obtain ⟨first, rest⟩ := within
    obtain ⟨⟨answer, middle⟩, published⟩ := Option.isSome_iff_exists.mp
      (ends ((choose state.store).1.event received) (first state.store)
        { state with store := (choose state.store).2 } fresh)
    rw [Handling.run]
    dsimp only
    rw [published]
    exact ih _ _ (rest _ _)
      (@inner _ { state with store := (choose state.store).2 } _ _ fresh published).1

theorem runAll_ends {runs : List (BusRun π σ)} (keeps : ∀ run ∈ runs, Keeps bus run)
    (ends : ∀ run ∈ runs, ∀ state : BusState π σ, state.Fresh → (run state).isSome)
    (fresh : state.Fresh) : (runAll runs state).isSome := by
  induction runs generalizing state with
  | nil => rfl
  | cons run rest ih =>
    obtain ⟨⟨answer, middle⟩, first⟩ :=
      Option.isSome_iff_exists.mp (ends run mem_cons_self state fresh)
    rw [runAll, first]
    exact ih (fun other later => keeps other (mem_cons_of_mem _ later))
      (fun other later => ends other (mem_cons_of_mem _ later))
      (keeps run mem_cons_self fresh first).1

/-- **A publication ends when the rows of types from its own are short.** -/
theorem publish_ends (conform : EventBus.Conform handlers) {nested : ℕ}
    (short : bus.maxDepth ≤ event.metadata.depth ∨ bus.Short nested event.type)
    (fresh : state.Fresh) : (bus.publish handlers nested event state).isSome := by
  induction nested generalizing event state with
  | zero =>
    have deep := short.resolve_right id
    obtain ⟨_, _, _, _, refuses⟩ := @publish_of_deep π σ bus event _ handlers deep fresh 0
    rw [refuses]
    rfl
  | succ nested ih =>
    by_cases deep : bus.maxDepth ≤ event.metadata.depth
    · obtain ⟨_, _, _, _, refuses⟩ :=
        @publish_of_deep π σ bus event _ handlers deep fresh (nested + 1)
      rw [refuses]
      rfl
    obtain ⟨taken, newer, -, -, -, goes⟩ :=
      @publish_of_shallow π σ bus event _ handlers deep fresh
    have inner := @keeps_publish π σ bus handlers nested
    rw [goes]
    refine @runAll_ends π σ bus _ _ ?_ ?_ newer
    · intro run listed
      obtain ⟨handle, -, rfl⟩ := mem_map.mp listed
      exact fun _ _ _ fresh ran => (keeps_handle inner fresh ran).1
    · intro run listed state' fresh'
      obtain ⟨handle, matching, rfl⟩ := mem_map.mp listed
      refine handling_ends inner (fun next allowed state fresh => ?_)
        (conform handle event _) fresh'
      exact ih (.inr (short.resolve_left deep handle matching next.type allowed)) fresh

/-! ## What does not end -/

/-- The handler publishes an event of each type in turn, with the metadata that it received. -/
def publishAll (payload : π) : List Text → Handling π Unit
  | [] => .done false id
  | type :: types => .publish (fun _ => (⟨type, payload, false⟩, ())) fun _ _ =>
      publishAll payload types

/-- Handlers that publish all that they may. -/
def eager : Handlers π Unit := fun handle event _ => publishAll event.payload handle.publishes

theorem within_publishAll (payload : π) {types allowed : List Text} (among : types ⊆ allowed) :
    (publishAll payload types).Within allowed := by
  induction types with
  | nil => trivial
  | cons type types ih =>
    obtain ⟨first, rest⟩ := cons_subset.mp among
    exact ⟨fun _ => first, fun _ _ => ih rest⟩

theorem conform_eager : EventBus.Conform (@eager π) :=
  fun _ event _ => within_publishAll event.payload (List.Subset.refl _)

theorem publishAll_eq_none {publish : BusEvent π → BusRun π Unit} {received : Metadata}
    {payload : π}
    (inner : ∀ event, Keeps bus (publish event)) {type : Text} {types : List Text}
    (listed : type ∈ types) (stops : ∀ state : BusState π Unit, state.Fresh →
      publish ⟨type, payload, received⟩ state = none) {state : BusState π Unit}
    (fresh : state.Fresh) : (publishAll payload types).run publish received state = none := by
  induction types generalizing state with
  | nil => cases listed
  | cons first types ih =>
    rw [publishAll, Handling.run]
    dsimp only
    cases ran : publish (Publication.event ⟨first, payload, false⟩ received) state with
    | none => rfl
    | some result =>
      rcases mem_cons.mp listed with rfl | later
      · cases (stops state fresh).symm.trans ran
      · exact ih later (inner _ fresh ran).1

theorem runAll_eq_none {runs : List (BusRun π σ)} (keeps : ∀ run ∈ runs, Keeps bus run)
    {run : BusRun π σ} (listed : run ∈ runs)
    (stops : ∀ state : BusState π σ, state.Fresh → run state = none) (fresh : state.Fresh) :
    runAll runs state = none := by
  induction runs generalizing state with
  | nil => cases listed
  | cons first rest ih =>
    rw [runAll]
    cases ran : first state with
    | none => rfl
    | some result =>
      rcases mem_cons.mp listed with rfl | later
      · cases (stops state fresh).symm.trans ran
      · exact ih (fun other there => keeps other (mem_cons_of_mem _ there)) later
          (keeps first mem_cons_self fresh ran).1

/-- **Eager handlers pass every bound** that the rows of types pass. -/
theorem publish_eager {event : BusEvent π} {state : BusState π Unit} {nested : ℕ}
    (shallow : ¬ bus.maxDepth ≤ event.metadata.depth) (long : ¬ bus.Short nested event.type)
    (fresh : state.Fresh) : bus.publish eager nested event state = none := by
  induction nested generalizing event state with
  | zero =>
    obtain ⟨_, _, _, _, stops, _⟩ := @publish_of_shallow π Unit bus event _ eager shallow fresh
    exact stops
  | succ nested ih =>
    obtain ⟨taken, newer, -, -, -, goes⟩ :=
      @publish_of_shallow π Unit bus event _ eager shallow fresh
    have inner := @keeps_publish π Unit bus eager nested
    simp only [EventBus.Short, not_forall] at long
    obtain ⟨handle, matching, next, listed, beyond⟩ := long
    rw [goes]
    refine @runAll_eq_none π Unit bus _ _ ?_ _ (mem_map_of_mem matching) ?_ newer
    · intro run listed
      obtain ⟨other, -, rfl⟩ := mem_map.mp listed
      exact fun _ _ _ fresh ran => (keeps_handle inner fresh ran).1
    · intro state fresh
      exact publishAll_eq_none inner listed (fun _ fresh => ih shallow beyond fresh) fresh

/-! ## Bounded propagation -/

/-- **Propagation is bounded exactly when the subscriptions are.**  A publication that states less
than the bound ends within it, whatever the handlers do within their subscriptions, if and only if
no row of event types from its own, each one published by a subscriber of the one before, is longer
than the bound. -/
theorem propagation_bounded_iff (bus : EventBus) (event : BusEvent π) :
    (∀ (σ : Type) (handlers : Handlers π σ), EventBus.Conform handlers →
      ∀ state : BusState π σ, state.Fresh → bus.PropagationBounded handlers event state) ↔
      bus.maxDepth ≤ event.metadata.depth ∨ bus.Short bus.maxDepth.toNat event.type := by
  constructor
  · intro bounded
    rw [or_iff_not_imp_left]
    intro shallow
    by_contra long
    have fresh : BusState.Fresh (⟨0, [], [], [], ()⟩ : BusState π Unit) := nofun
    obtain ⟨answer, after, ran, -⟩ := bounded Unit eager conform_eager _ fresh
    rw [publish_eager shallow long fresh] at ran
    cases ran
  · intro short σ handlers conform state fresh
    obtain ⟨⟨answer, after⟩, ran⟩ :=
      Option.isSome_iff_exists.mp (publish_ends conform short fresh)
    exact ⟨answer, after, ran, (keeps_publish _ _ fresh ran).2.served, publish_answer fresh ran⟩

/-- The subscribers of `a` pass on to those of `b`, and these to those of `c`. -/
def relayBus : EventBus where
  maxDepth := 3
  correlationTracking := true
  maxCorrelationChains := 4096
  maxEventsPerCorrelation := 1024
  subscriptions := [(['a'], [⟨0, [['b']]⟩]), (['b'], [⟨1, [['c'], ['d']]⟩]),
    (['*', '*'], [⟨2, []⟩])]

/-- The types in turn, with the depth alone, until a publication fails or five were published. -/
def relay : List Text → Handling Unit ℕ
  | [] => .done false (· + 1)
  | type :: types => .publish (fun count => (⟨type, (), true⟩, count + 1)) fun answer count =>
      match answer with
      | .error _ => .done true id
      | .ok _ => if count < 5 then relay types else .done true id

theorem within_relay {types allowed : List Text} (among : types ⊆ allowed) :
    (relay types).Within allowed := by
  induction types with
  | nil => trivial
  | cons type types ih =>
    obtain ⟨first, rest⟩ := cons_subset.mp among
    refine ⟨fun _ => first, fun answer count => ?_⟩
    dsimp only
    split
    · trivial
    · split
      · exact ih rest
      · trivial

/-- Two events of the correlation were published before. -/
theorem propagation_bounded_iff_relay :
    relayBus.PropagationBounded (fun handle _ _ => relay handle.publishes)
      ⟨['a'], (), ⟨some 1, some ['k']⟩⟩ ⟨2, [(['k'], [0, 1])], [], [], 0⟩ := by
  refine (propagation_bounded_iff relayBus ⟨['a'], (), ⟨some 1, some ['k']⟩⟩).mpr
    (.inr (by decide +kernel)) ℕ _ (fun _ _ _ => within_relay (List.Subset.refl _)) _ ?_
  show ∀ chain ∈ [(['k'], [0, 1])], ∀ id ∈ chain.2, id < 2
  decide

/-- A handler that publishes each event again. -/
def echoBus : EventBus where
  maxDepth := 10
  correlationTracking := true
  maxCorrelationChains := 4096
  maxEventsPerCorrelation := 1024
  subscriptions := [(['a'], [⟨0, [['a']]⟩])]

/-- **An echo passes every bound.** -/
theorem propagation_unbounded :
    ¬∀ (bus : EventBus) (handlers : Handlers Unit Unit) event (state : BusState Unit Unit),
      EventBus.Conform handlers → state.Fresh → bus.PropagationBounded handlers event state := by
  intro bounded
  obtain ⟨answer, after, ran, -⟩ := bounded echoBus eager ⟨['a'], (), ⟨none, some ['c']⟩⟩
    ⟨0, [], [], [], ()⟩ conform_eager nofun
  cases ran

end Audiagentic.Events
