import Audiagentic.Events.SpoolOrder

/-!
# A spool over whole runs

A pending record counts the failures of its event as long as no write fails, no crash comes
between a failure and its writing, and no replay resets the count.  With conservation and order
this gives `spool_conserves_and_orders`.
-/

namespace Audiagentic.Events

open Foundations List Option Dict AList

variable {Payload : Type}

/-! ## Attempts -/

/-- A handler call that did not return. -/
def HandlerCall.Failed (id : EventId) (call : HandlerCall) : Bool :=
  call.id = id ∧ call.outcome ≠ .success

namespace Spool

def failures (spool : Spool Payload) (id : EventId) : Nat :=
  spool.calls.countP (HandlerCall.Failed id)

/-- A step without a crash, a replay or a failed write. -/
def Calm (spool : Spool Payload) : SpoolAction Payload → Prop
  | .crash | .replayDeadLetter _ _ => False
  | .proceed fails => fails = true →
      (∀ id record sweep, spool.position ≠ .retrying id record sweep) ∧
        ∀ id sweep, spool.position ≠ .burying id sweep
  | _ => True

/-- The event whose file the consumer is about to rewrite or remove. -/
def settling : Position Payload → Option EventId
  | .retrying id _ _ | .burying id _ | .dropping id _ => some id
  | _ => none

/-- The events that the current sweep works on or may come to. -/
def touched : Position Payload → List EventId
  | .sweeping sweep => sweep.rest
  | .handling id _ sweep | .acknowledging id sweep | .retrying id _ sweep | .burying id sweep
  | .dropping id sweep => id :: sweep.rest
  | _ => []

/-- What the consumer knows of the failures of the event it works on. -/
def Counting (transport : Transport) (spool : Spool Payload) : Position Payload → Prop
  | .handling id record _ => spool.files.lookup (.pending id) = some record
  | .retrying id record _ =>
    spool.failures id = record.attempts ∧ record.attempts ≤ transport.maxAttempts
  | .dropping id _ => spool.files.lookup (.pending id) = none
  | .replaying _ _ _ | .unlinkingSource _ => False
  | _ => True

/-- A pending record counts the failures of its event, and has attempts left. -/
structure Bounded (transport : Transport) (spool : Spool Payload) : Prop where
  counted : ∀ id record, spool.files.lookup (.pending id) = some record →
    settling spool.position ≠ some id →
    spool.failures id = record.attempts ∧ record.attempts < transport.maxAttempts
  bound : ∀ id, spool.failures id ≤ transport.maxAttempts
  published : ∀ id, 0 < spool.failures id ∨ .pending id ∈ spool.files ∨
    id ∈ touched spool.position → id ∈ spool.published.map EventRecord.eventId
  counting : Counting transport spool spool.position

variable {transport : Transport} {spool : Spool Payload}

theorem mem_pendingIds {files : SpoolFiles Payload} {id : EventId} :
    id ∈ files.pendingIds ↔ .pending id ∈ files := by
  rw [SpoolFiles.pendingIds, mem_insertionSort, mem_filterMap, AList.mem_keys]
  constructor
  · rintro ⟨_ | _, member, found⟩
    · cases found
      exact member
    · cases found
  · intro member
    exact ⟨.pending id, member, rfl⟩

theorem Bounded.move (holds : Bounded transport spool) {position : Position Payload}
    {sweepCalls : List HandlerCall} {report : Option Counters}
    (settled : ∀ id record, spool.files.lookup (.pending id) = some record →
      settling position ≠ some id → settling spool.position ≠ some id)
    (within : ∀ id ∈ touched position, .pending id ∈ spool.files ∨ id ∈ touched spool.position)
    (counting : Counting transport spool position) :
    Bounded transport { spool with
      position := position, sweepCalls := sweepCalls, report := report } := by
  refine ⟨?_, holds.bound, ?_, counting⟩
  · intro id record found free
    exact holds.counted id record found (settled id record found free)
  rintro id (failed | member | here)
  · exact holds.published id (.inl failed)
  · exact holds.published id (.inr (.inl member))
  · exact holds.published id (.inr (within id here))

theorem Bounded.publish (holds : Bounded transport spool) (id : EventId) (topic : String)
    (payload metadata : Payload) (publishedAt : String) :
    Bounded transport (spool.publish transport id topic payload metadata publishedAt) := by
  unfold Spool.publish
  dsimp only
  split
  · exact holds
  next accepted =>
    obtain ⟨_, fresh⟩ := not_or.mp accepted
    have untried : spool.failures id = 0 := by
      by_contra tried
      exact fresh (holds.published id (.inl (Nat.pos_of_ne_zero tried)))
    have untouched : ∀ other, other ∈ touched spool.position → other ≠ id :=
      fun other here same => fresh (holds.published id (.inr (.inr (same ▸ here))))
    refine ⟨?_, holds.bound, ?_, ?_⟩
    · intro other record found free
      change (spool.files.insert _ _).lookup _ = some record at found
      rw [lookup_insert_eq] at found
      split at found
      next same =>
        cases found
        cases same
        exact ⟨untried, transport.maxAttempts_pos⟩
      · exact holds.counted other record found free
    · intro other known
      rw [map_append]
      rcases known with failed | member | here
      · exact mem_append_left _ (holds.published other (.inl failed))
      · rcases (AList.mem_insert _).mp member with same | before
        · cases same
          exact mem_append_right _ (mem_singleton.mpr rfl)
        · exact mem_append_left _ (holds.published other (.inr (.inl before)))
      · exact mem_append_left _ (holds.published other (.inr (.inr here)))
    · have counting := holds.counting
      have kept : ∀ other ∈ touched spool.position,
          (spool.files.insert (.pending id)
            ⟨id, topic, payload, metadata, publishedAt, 0⟩).lookup (.pending other) =
            spool.files.lookup (.pending other) := by
        intro other here
        have different : (.pending other : Location) ≠ .pending id := by
          simpa using untouched other here
        rw [lookup_insert_eq, if_neg different]
      cases at_ : spool.position with
      | handling other | dropping other =>
        rw [at_] at counting kept
        exact (kept other mem_cons_self).trans counting
      | retrying | replaying | unlinkingSource =>
        rw [at_] at counting
        exact counting
      | _ => trivial

theorem Bounded.consume (holds : Bounded transport spool) (limit : Option Int) :
    Bounded transport (spool.consume limit) := by
  unfold Spool.consume
  split
  next at_ =>
    refine holds.move ?_ ?_ trivial
    · intro id record _ _
      simp [at_, settling]
    · intro id here
      exact .inl (mem_pendingIds.mp here)
  · exact holds

theorem Bounded.nextPath (holds : Bounded transport spool) {sweep : Sweep}
    (at_ : spool.position = .sweeping sweep) (fails : Bool) :
    Bounded transport (spool.nextPath sweep fails) := by
  have free : ∀ id, settling spool.position ≠ some id := by simp [at_, settling]
  unfold Spool.nextPath
  split
  · exact holds.move (fun id _ _ _ => free id) (by simp [touched]) trivial
  next id rest shape =>
    have within : ∀ other ∈ id :: rest, other ∈ touched spool.position := by
      simp [at_, touched, shape]
    split
    · exact holds.move (fun id _ _ _ => free id) (by simp [touched]) trivial
    split
    · exact holds.move (fun id _ _ _ => free id) (fun other here => .inr (within other here))
        trivial
    next record read =>
      have found : spool.files.readEvent (.pending id) = some record := by
        cases fails <;> simp_all
      exact holds.move (fun id _ _ _ => free id) (fun other here => .inr (within other here))
        (readEvent_some found)

/-- A file is removed, or replaced, and the consumer goes on with its sweep. -/
theorem Bounded.leave (holds : Bounded transport spool) {id : EventId} {sweep sweep' : Sweep}
    {files : SpoolFiles Payload} {acknowledged : List EventId}
    (current : touched spool.position = id :: sweep.rest) (same : sweep'.rest = sweep.rest)
    (free : ∀ other, other ≠ id → settling spool.position ≠ some other)
    (others : ∀ other record, files.lookup (.pending other) = some record →
      spool.files.lookup (.pending other) = some record)
    (here : ∀ record, files.lookup (.pending id) = some record →
      settling spool.position ≠ some id) :
    Bounded transport { spool with
      files := files, acknowledged := acknowledged, position := .sweeping sweep' } := by
  refine ⟨?_, holds.bound, ?_, trivial⟩
  · intro other record found _
    refine holds.counted other record (others other record found) ?_
    by_cases equal : other = id
    · subst equal
      exact here record found
    · exact free other equal
  · rintro other (failed | member | later)
    · exact holds.published other (.inl failed)
    · obtain ⟨record, found⟩ := isSome_iff_exists.mp (lookup_isSome.mpr member)
      exact holds.published other
        (.inr (.inl (mem_files_of_lookup (others other record found))))
    · have later : other ∈ sweep.rest := same ▸ later
      exact holds.published other (.inr (.inr (by simp [current, later])))

theorem Bounded.rewrite (holds : Bounded transport spool) {id : EventId}
    {record : EventRecord Payload} {sweep : Sweep} {next : Spool Payload}
    (at_ : spool.position = .retrying id record sweep)
    (written : next = { spool with
      files := spool.files.insert (.pending id) record
      position := next.position
      report := next.report })
    (within : ∀ other ∈ touched next.position, other ∈ id :: sweep.rest)
    (left : settling next.position ≠ some id → record.attempts < transport.maxAttempts)
    (counting : Counting transport next next.position) : Bounded transport next := by
  have current := holds.counting
  rw [at_] at current
  obtain ⟨attempts, _⟩ := current
  have known : ∀ other ∈ id :: sweep.rest, other ∈ touched spool.position := by
    intro other here
    rw [at_]
    exact here
  rw [written] at counting ⊢
  refine ⟨?_, holds.bound, ?_, counting⟩
  · intro other record' found free
    change (spool.files.insert _ _).lookup _ = some record' at found
    rw [lookup_insert_eq] at found
    split at found
    next same =>
      cases found
      cases same
      exact ⟨attempts, left free⟩
    next different =>
      refine holds.counted other record' found ?_
      rw [at_]
      exact fun same => different (by rw [Option.some.inj same])
  · rintro other (failed | member | here)
    · exact holds.published other (.inl failed)
    · rcases (AList.mem_insert _).mp member with same | before
      · cases same
        exact holds.published id (.inr (.inr (known id mem_cons_self)))
      · exact holds.published other (.inr (.inl before))
    · exact holds.published other (.inr (.inr (known other (within other here))))

theorem Bounded.proceed (holds : Bounded transport spool) {fails : Bool}
    (calm : spool.Calm (.proceed fails)) : Bounded transport (spool.proceed transport fails) := by
  have counting := holds.counting
  unfold Spool.proceed
  cases at_ : spool.position with
  | idle | handling => exact holds
  | sweeping sweep => exact holds.nextPath at_ fails
  | acknowledging id sweep =>
    have free : ∀ other, settling spool.position ≠ some other := by simp [at_, settling]
    cases fails with
    | true =>
      exact holds.leave (by rw [at_]; rfl) rfl (fun other _ => free other)
        (fun _ _ found => found) (fun _ _ => free id)
    | false =>
      refine holds.leave (by rw [at_]; rfl) rfl (fun other _ => free other) ?_
        (fun _ _ => free id)
      intro other record found
      rw [lookup_erase_eq] at found
      split at found
      · cases found
      · exact found
  | retrying id record sweep =>
    rw [at_] at counting
    cases fails with
    | true => exact absurd at_ ((calm rfl).1 id record sweep)
    | false =>
      simp only [Bool.false_eq_true, if_false]
      split
      · exact holds.rewrite at_ rfl (fun other here => here) (fun free => absurd rfl free)
          trivial
      next left =>
        exact holds.rewrite at_ rfl (fun other here => absurd here not_mem_nil)
          (fun _ => Nat.not_le.mp left) trivial
  | burying id sweep =>
    cases fails with
    | true => exact absurd at_ ((calm rfl).2 id sweep)
    | false =>
      have free : ∀ other, other ≠ id → settling spool.position ≠ some other := by
        simp [at_, settling, eq_comm]
      cases found : spool.files.lookup (.pending id) with
      | none =>
        simp only [Bool.false_eq_true, if_false, found]
        refine holds.move ?_ ?_ found
        · intro other record _ free'
          simpa [at_, settling] using free'
        · intro other here
          exact .inr (by rw [at_]; exact here)
      | some record =>
        simp only [Bool.false_eq_true, if_false, found]
        refine holds.leave (by rw [at_]; rfl) rfl free ?_ ?_
        · intro other record' read
          rw [lookup_insert_eq, if_neg (by simp), lookup_erase_eq] at read
          split at read
          · cases read
          · exact read
        · intro record' read
          rw [lookup_insert_eq, if_neg (by simp), lookup_erase_eq, if_pos rfl] at read
          cases read
  | dropping id sweep =>
    rw [at_] at counting
    have absent : spool.files.lookup (.pending id) = none := counting
    have free : ∀ other, other ≠ id → settling spool.position ≠ some other := by
      simp [at_, settling, eq_comm]
    cases fails with
    | true =>
      refine holds.leave (by rw [at_]; rfl) rfl free (fun _ _ found => found) ?_
      simp [absent]
    | false =>
      refine holds.leave (by rw [at_]; rfl) rfl free ?_ ?_
      · intro other record read
        rw [lookup_erase_eq] at read
        split at read
        · cases read
        · exact read
      · intro record read
        rw [lookup_erase_eq, if_pos rfl] at read
        cases read
  | replaying | unlinkingSource =>
    rw [at_] at counting
    exact counting.elim

theorem failures_append (calls : List HandlerCall) (call : HandlerCall) (id : EventId) :
    (calls ++ [call]).countP (HandlerCall.Failed id) =
      calls.countP (HandlerCall.Failed id) + if HandlerCall.Failed id call then 1 else 0 := by
  rw [countP_append, countP_singleton]

theorem Bounded.handled (holds : Bounded transport spool) (outcome : Outcome) :
    Bounded transport (spool.handled outcome) := by
  unfold Spool.handled
  split
  next id record sweep at_ =>
    have counting := holds.counting
    rw [at_] at counting
    obtain ⟨attempts, left⟩ := holds.counted id record counting (by simp [at_, settling])
    have within : ∀ other ∈ id :: sweep.rest, other ∈ spool.published.map EventRecord.eventId := by
      intro other here
      exact holds.published other (.inr (.inr (by rw [at_]; exact here)))
    have others : ∀ other, other ≠ id →
        (spool.calls ++ [HandlerCall.mk id record.attempts outcome]).countP
        (HandlerCall.Failed other) =
          spool.failures other := by
      intro other different
      have quiet : HandlerCall.Failed other ⟨id, record.attempts, outcome⟩ = false := by
        simp [HandlerCall.Failed, Ne.symm different]
      rw [failures_append, quiet]
      rfl
    have here : (spool.calls ++ [HandlerCall.mk id record.attempts outcome]).countP
        (HandlerCall.Failed id) = record.attempts + if outcome = .success then 0 else 1 := by
      rw [failures_append, ← attempts, failures]
      cases outcome <;> simp [HandlerCall.Failed]
    refine ⟨?_, ?_, ?_, ?_⟩
    · intro other record' found free
      by_cases same : other = id
      · subst same
        cases outcome with
        | success =>
          cases Option.some.inj (found.symm.trans counting)
          exact ⟨here, left⟩
        | poison | error => exact absurd rfl free
      · rw [failures, others other same]
        exact holds.counted other record' found (by simp [at_, settling])
    · intro other
      by_cases same : other = id
      · subst same
        rw [failures, here]
        split <;> omega
      · rw [failures, others other same]
        exact holds.bound other
    · intro other known
      by_cases same : other = id
      · exact within other (same ▸ mem_cons_self)
      rcases known with failed | member | later
      · rw [failures, others other same] at failed
        exact holds.published other (.inl failed)
      · exact holds.published other (.inr (.inl member))
      · refine within other ?_
        cases outcome <;> exact later
    · cases outcome with
      | success | poison => trivial
      | error => exact ⟨here, left⟩
  · exact holds

theorem Bounded.step (transport : Transport) (spool : Spool Payload)
    (action : SpoolAction Payload) (holds : Bounded transport spool) (calm : spool.Calm action) :
    Bounded transport (spool.step transport action) := by
  cases action with
  | publish id topic payload metadata publishedAt fails =>
    simp only [Spool.step]
    split
    · exact holds
    · exact holds.publish id topic payload metadata publishedAt
  | consume limit => exact holds.consume limit
  | replayDeadLetter | crash => exact calm.elim
  | proceed fails => exact holds.proceed calm
  | handled outcome => exact holds.handled outcome

/-! ## Whole runs -/

theorem init_conserved : Conserved (init : Spool Payload) := by
  constructor <;> simp [init, Attentive]

theorem init_ordered (transport : Transport) : Ordered transport (init : Spool Payload) := by
  constructor <;> simp [init, Position.upcoming]

theorem init_bounded (transport : Transport) : Bounded transport (init : Spool Payload) := by
  constructor <;> simp [init, failures, touched, Counting]

/-- A published event is in a file of its own, but for the attempts, or was acknowledged after a
call of its handler that returned. -/
def Accounted (spool : Spool Payload) (event : EventRecord Payload) : Prop :=
  (∃ record, record.renewed = event ∧
    (spool.files.lookup (.pending event.eventId) = some record ∨
      spool.files.lookup (.deadLetter event.eventId) = some record)) ∨
  (event.eventId ∈ spool.acknowledged ∧
    ∃ call ∈ spool.calls, call.id = event.eventId ∧ call.outcome = .success)

theorem Conserved.renewed_eq (holds : Conserved spool) {event record : EventRecord Payload}
    (member : event ∈ spool.published) (genuine : spool.Genuine event.eventId record) :
    record.renewed = event :=
  inj_on_of_nodup_map holds.distinct genuine.2 member genuine.1

theorem Conserved.accounted (holds : Conserved spool) {event : EventRecord Payload}
    (member : event ∈ spool.published) : spool.Accounted event := by
  rcases holds.kept event member with file | file | acknowledged
  · obtain ⟨record, found⟩ := isSome_iff_exists.mp (lookup_isSome.mpr file)
    exact .inl ⟨record, holds.renewed_eq member (holds.genuine _ record found), .inl found⟩
  · obtain ⟨record, found⟩ := isSome_iff_exists.mp (lookup_isSome.mpr file)
    exact .inl ⟨record, holds.renewed_eq member (holds.genuine _ record found), .inr found⟩
  · exact .inr ⟨acknowledged, holds.acknowledged _ acknowledged⟩

end Spool

/-- **The spool conserves and orders its events** in every run in which no failed move to the
dead letters is followed by the removal of the pending file, and no replay writes to its own
source. -/
theorem spool_conserves_and_orders (transport : Transport) (actions : List (SpoolAction Payload))
    (run : Admissible (Spool.step transport) (Spool.Allowed transport) .init actions) :
    let spool := exec (Spool.step transport) .init actions
    (∀ event ∈ spool.published, spool.Accounted event) ∧
      spool.sweepCalls.Pairwise (·.id < ·.id) ∧
      (∀ before call after, spool.sweepCalls = before ++ call :: after →
        call.Transient transport → after = []) ∧
      (Admissible (Spool.step transport) Spool.Calm .init actions →
        ∀ id, spool.failures id ≤ transport.maxAttempts) := by
  intro spool
  have conserved : Spool.Conserved spool :=
    run.invariant (Spool.Conserved.step transport) Spool.init_conserved
  have ordered : Spool.Ordered transport spool :=
    exec_invariant (Spool.Ordered.step transport) (Spool.init_ordered transport) actions
  refine ⟨fun event member => conserved.accounted member, ordered.increasing, ?_, ?_⟩
  · intro before call after split transient
    exact (ordered.last before call after split transient).1
  intro calm
  have bounded : Spool.Bounded transport spool :=
    calm.invariant (Spool.Bounded.step transport) (Spool.init_bounded transport)
  exact bounded.bound

/-- A spool for one topic, with two attempts. -/
def smallTransport : Transport where
  root := [['s', 'p', 'o', 'o', 'l']]
  allowedTopics := ["chat"]
  maxAttempts := 2
  topics_ne_nil := by decide
  maxAttempts_pos := by decide

def repeatedId (letter : Char) : EventId := ⟨List.replicate 29 letter, rfl⟩

/-- Two events: the handler fails twice on the first, which becomes a dead letter and is
replayed; the acknowledgement of the second fails. -/
def deliveries : List (SpoolAction Unit) :=
  [.publish (repeatedId '1') "chat" () () "t0" false,
    .publish (repeatedId '2') "chat" () () "t1" false,
    .consume none, .proceed false, .handled .error, .proceed false,
    .consume none, .proceed false, .handled .error, .proceed false, .proceed false,
    .proceed false, .handled .success, .proceed true, .proceed false,
    .replayDeadLetter (repeatedId '1').letters false, .proceed false, .proceed false]

theorem spool_conserves_and_orders_deliveries :
    (exec (Spool.step smallTransport) .init deliveries).calls.length = 3 ∧
      ∀ event ∈ (exec (Spool.step smallTransport) .init deliveries).published,
        (exec (Spool.step smallTransport) .init deliveries).Accounted event := by
  refine ⟨by decide +kernel, (spool_conserves_and_orders smallTransport deliveries ?_).1⟩
  -- No step of the consumer is the removal after a failed move.
  refine ⟨trivial, trivial, trivial, ?_, trivial, ?_, trivial, ?_, trivial, ?_, ?_, ?_, trivial,
    ?_, ?_, ?replay, ?_, ?_, trivial⟩
  case replay => exact fun same => absurd same (by decide +kernel)
  all_goals
    intro id sweep dropping
    cases dropping

def failedMove : List (SpoolAction Unit) :=
  [.publish (repeatedId '1') "chat" () () "t0" false, .consume none, .proceed false,
    .handled .poison, .proceed true, .proceed false]

/-- The event becomes a dead letter and is replayed under an id that leads back to it. -/
def aliasedReplay : List (SpoolAction Unit) :=
  [.publish (repeatedId '1') "chat" () () "t0" false, .consume none, .proceed false,
    .handled .poison, .proceed false, .proceed false,
    .replayDeadLetter ("../dead-letter/".toList ++ (repeatedId '1').letters) false,
    .proceed false, .proceed false]

/-- A failed move and an aliased replay each lose the event. -/
theorem spool_loses_event :
    (∃ event ∈ (exec (Spool.step smallTransport) .init failedMove).published,
      ¬ (exec (Spool.step smallTransport) .init failedMove).Accounted event) ∧
    ∃ event ∈ (exec (Spool.step smallTransport) .init aliasedReplay).published,
      ¬ (exec (Spool.step smallTransport) .init aliasedReplay).Accounted event := by
  have lost : ∀ spool : Spool Unit, spool.files = ∅ → spool.acknowledged = [] →
      ∀ event, ¬ spool.Accounted event := by
    rintro spool empty silent event (⟨record, _, found | found⟩ | ⟨member, _⟩)
    · simp [empty] at found
    · simp [empty] at found
    · simp [silent] at member
  have first : (exec (Spool.step smallTransport) .init failedMove).files = ∅ := rfl
  have second : (exec (Spool.step smallTransport) .init aliasedReplay).files = ∅ := rfl
  exact ⟨⟨⟨repeatedId '1', "chat", (), (), "t0", 0⟩, mem_singleton.mpr rfl,
      lost _ first rfl _⟩,
    ⟨⟨repeatedId '1', "chat", (), (), "t0", 0⟩, mem_singleton.mpr rfl,
      lost _ second rfl _⟩⟩

end Audiagentic.Events
