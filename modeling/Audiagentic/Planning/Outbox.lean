import Audiagentic.Planning.Durability

/-!
# The outbox of planning events

Every mutation brings an event (`components/planning/events.py`).  `commit_mutation` writes it to
the outbox while its transaction is journaled; `publish_planning_event_intent` then writes it once
more, which does nothing as long as the file is there, and drains the outbox: the files are read
in the order of their names, handed to the subscribers one after another, and unlinked.  The
first failure ends the drain.

Any number of processes work on one outbox.  The transaction journal is under a lock, the drains
are under none.  A crash leaves the files.
-/

namespace Audiagentic.Planning

open Foundations

/-! ## Events -/

/-- `build_planning_event`, with the id it draws.  The subject is a dictionary of its own in the
metadata; here its two keys are paths. -/
def buildPlanningEvent (eventType : String) (payload : List (String × String))
    (subjectKind subjectId eventId : String) : PlanningEvent where
  eventId := eventId
  eventType := eventType
  payload := payload
  metadata := [("source_component", "agent-planning"), ("subject.kind", subjectKind),
    ("subject.id", subjectId)]

def PlanningEvent.subject (event : PlanningEvent) : Option String × Option String :=
  (event.metadata.lookup "subject.kind", event.metadata.lookup "subject.id")

abbrev Outbox := Dict String OutboxRecord

/-- `enqueue_planning_event`: the outbox with the event, or the refusal of an id that has other
content. -/
def enqueuePlanningEvent (outbox : Outbox) (event : PlanningEvent) :
    Except PlanningError Outbox :=
  match outbox.lookup event.eventId with
  | none => .ok (outbox.insert event.eventId event.record)
  | some existing => do
    refuse (existing ≠ event.record) (.eventIdExists event.eventId)
    return outbox

/-- The name of the file of an event, as `sorted` compares it. -/
def outboxFileName (eventId : String) : List Char :=
  (eventId ++ ".json").toList

def OutboxFileLe (first second : String) : Prop :=
  outboxFileName first ≤ outboxFileName second

instance : DecidableRel OutboxFileLe := fun first second =>
  inferInstanceAs (Decidable (outboxFileName first ≤ outboxFileName second))

def Outbox.listing (outbox : Outbox) : List String :=
  outbox.keys.insertionSort OutboxFileLe

/-! ## Processes -/

/-- What comes of a publication: the bus is closed or refuses the event, or every subscriber is
called in turn and succeeds or raises. -/
inductive Delivery where
  | refused
  | dispatched (subscribers : List Bool)

/-- `_dispatch_sync` with `propagate_subscriber_errors`: the first error is raised. -/
def Delivery.succeeds : Delivery → Bool
  | .refused => false
  | .dispatched subscribers => subscribers.all id

inductive PublisherStage where
  | idle
  | journaling (own : Bool)
  /-- The event of the manifest is in the outbox; the transaction directory is still there. -/
  | persisted (own : Bool)
  /-- `commit_mutation` has returned. -/
  | announcing (event : PlanningEvent)
  | draining (names : List String)
  /-- The file has been read, and the bus has its content. -/
  | publishing (name : String) (record : OutboxRecord) (names : List String)
  /-- The bus has returned, and the file is about to be unlinked. -/
  | published (name : String) (record : OutboxRecord) (names : List String)

/-- What an observer of the bus and of the outbox sees. -/
inductive DeliveryNote where
  | started (record : OutboxRecord)
  | succeeded (record : OutboxRecord)
  | acknowledged (record : OutboxRecord)
deriving DecidableEq

structure OutboxSystem (Process : Type) where
  outbox : Outbox
  /-- The event of the one transaction that may be in the journal: `commit_mutation` rolls
  forward whatever is there before it makes another. -/
  journal : Option PlanningEvent
  lock : Option Process
  stage : Process → PublisherStage
  committed : List PlanningEvent
  notes : List DeliveryNote

inductive OutboxAction (Process : Type) where
  /-- `commit_mutation` makes the manifest of a mutation durable. -/
  | prepare (process : Process) (eventType : String) (payload : List (String × String))
      (subjectKind subjectId eventId : String)
  /-- A process takes the journal lock to roll forward what a crash has left. -/
  | reconcile (process : Process)
  /-- `_persist_event_from_manifest`. -/
  | persist (process : Process)
  /-- The transaction directory is removed. -/
  | retire (process : Process)
  /-- The `enqueue_planning_event` of `publish_planning_event`, and the listing of the drain. -/
  | announce (process : Process)
  /-- `drain_planning_outbox` on its own. -/
  | drain (process : Process)
  /-- The drain goes on with the next file. -/
  | take (process : Process)
  | deliver (process : Process) (delivery : Delivery)
  | acknowledge (process : Process)
  | crash (process : Process)

namespace OutboxSystem

variable {Process : Type} [DecidableEq Process]

def empty : OutboxSystem Process where
  outbox := ∅
  journal := none
  lock := none
  stage _ := .idle
  committed := []
  notes := []

def move (system : OutboxSystem Process) (process : Process) (stage : PublisherStage) :
    OutboxSystem Process :=
  { system with stage := Function.update system.stage process stage }

def unlock (system : OutboxSystem Process) (process : Process) : OutboxSystem Process :=
  { system with lock := if system.lock = some process then none else system.lock }

def observe (system : OutboxSystem Process) (note : DeliveryNote) : OutboxSystem Process :=
  { system with notes := system.notes ++ [note] }

def commit (system : OutboxSystem Process) (event : PlanningEvent) : OutboxSystem Process :=
  { system with
    committed :=
      if event ∈ system.committed then system.committed else system.committed ++ [event] }

/-- The effect of a step; a step that is not due changes nothing. -/
def step (system : OutboxSystem Process) : OutboxAction Process → OutboxSystem Process
  | .prepare process eventType payload subjectKind subjectId eventId =>
    match system.stage process, system.lock, system.journal with
    | .idle, none, none =>
      { system with
        journal := some (buildPlanningEvent eventType payload subjectKind subjectId eventId)
        lock := some process }.move process (.journaling true)
    | _, _, _ => system
  | .reconcile process =>
    match system.stage process, system.lock, system.journal with
    | .idle, none, some _ =>
      { system with lock := some process }.move process (.journaling false)
    | _, _, _ => system
  | .persist process =>
    match system.stage process, system.journal with
    | .journaling own, some event =>
      match enqueuePlanningEvent system.outbox event with
      | .ok outbox =>
        (({ system with outbox := outbox } : OutboxSystem Process).commit event).move process
          (.persisted own)
      -- The exception leaves the transaction to the next reconciliation.
      | .error _ => (system.unlock process).move process .idle
    | _, _ => system
  | .retire process =>
    match system.stage process, system.journal with
    | .persisted own, some event =>
      ({ system with journal := none }.unlock process).move process
        (if own then .announcing event else .idle)
    | _, _ => system
  | .announce process =>
    match system.stage process with
    | .announcing event =>
      match enqueuePlanningEvent system.outbox event with
      | .ok outbox => { system with outbox := outbox }.move process (.draining outbox.listing)
      | .error _ => system.move process .idle
    | _ => system
  | .drain process =>
    match system.stage process with
    | .idle => system.move process (.draining system.outbox.listing)
    | _ => system
  | .take process =>
    match system.stage process with
    | .draining [] => system.move process .idle
    | .draining (name :: names) =>
      match system.outbox.lookup name with
      -- Another drain was faster: the reading raises, and this drain ends.
      | none => system.move process .idle
      | some record =>
        (system.observe (.started record)).move process (.publishing name record names)
    | _ => system
  | .deliver process delivery =>
    match system.stage process with
    | .publishing name record names =>
      if delivery.succeeds then
        (system.observe (.succeeded record)).move process (.published name record names)
      else system.move process .idle
    | _ => system
  | .acknowledge process =>
    match system.stage process with
    | .published name record names =>
      ({ system with outbox := system.outbox.erase name }.observe (.acknowledged record)).move
        process (.draining names)
    | _ => system
  | .crash process => (system.unlock process).move process .idle

end OutboxSystem

end Audiagentic.Planning
