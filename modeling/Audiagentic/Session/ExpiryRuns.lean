import Mathlib.Data.List.Dedup
import Audiagentic.Gateway.OwnerFencing
import Audiagentic.Session.Expiry

/-!
# Session expiry over whole runs

Calls of expiry, admissions and writers of requests and sessions in any order.  What a call checked
without locks stays true of a request until its revision changes; under the locks the roster is read
again, and from there on no live request is missed as long as none is attached to the session.  A
session that is closing has no transition to expired, which is found out after its requests are
retired.
-/

namespace Audiagentic.Session

open Foundations List OrderedDict Option Function
open Gateway (Doc Hashing Operation Projections Record StoreOp Timestamp Change
  storeStep storeStep_cases)

/-! ## Stored requests -/

variable {requestId : String}

theorem readStored_eq_some_iff {requests : OrderedDict String Record} {record : Record} :
    readStored requests requestId = some record ↔
      ∃ stored, requests.get? requestId = some stored ∧ stored.Valid ∧ record = stored.migrate := by
  unfold readStored
  cases there : requests.get? requestId with
  | none => simp
  | some stored =>
    rw [bind_some]
    cases read : stored.readLocked with
    | error error =>
      constructor
      · nofun
      · rintro ⟨_, ⟨⟩, valid, rfl⟩
        cases read.symm.trans (Record.readLocked_eq_ok.mpr ⟨valid, rfl⟩)
    | ok found =>
      obtain ⟨valid, rfl⟩ := Record.readLocked_eq_ok.mp read
      constructor
      · rintro ⟨⟩
        exact ⟨stored, rfl, valid, rfl⟩
      · rintro ⟨_, ⟨⟩, _, rfl⟩
        rfl

/-- What was read of a record is still there, or the record was written since. -/
def Later (snapshot stored : Record) : Prop :=
  stored.migrate = snapshot ∨ snapshot.revision < stored.revision

theorem Later.storeStep {projections : Projections} {hashing : Hashing}
    {snapshot stored : Record} (later : Later snapshot stored) (op : StoreOp) :
    Later snapshot (storeStep projections hashing stored op) := by
  have revised : snapshot.revision ≤ stored.revision := by
    rcases later with rfl | newer
    · exact le_rfl
    · exact newer.le
  rcases storeStep_cases stored op with
    same | migrated | succeeds
  · rw [same]
    exact later
  · rw [migrated]
    exact later
  · rcases succeeds.change with kept | change
    · rw [kept]
      exact later
    · exact .inr (revised.trans_lt change.revision)

theorem admission_storeStep {projections : Projections} {hashing : Hashing} (stored : Record)
    (op : StoreOp) : (storeStep projections hashing stored op).admission = stored.admission := by
  rcases storeStep_cases stored op with
    same | migrated | succeeds
  · rw [same]
  · rw [migrated]
    rfl
  · rcases succeeds.change with kept | change
    · rw [kept]
      rfl
    · exact change.admission

/-- A request of the session that is not terminal. -/
def LiveRequest (host : ExpiryHost) (requests : OrderedDict String Record) (requestId : String) :
    Prop :=
  ∃ record, readStored requests requestId = some record ∧ isBound host record = true ∧
    record.state.isTerminal = false

variable {host : ExpiryHost}

theorem liveRequest_iff {requests : OrderedDict String Record} :
    LiveRequest host requests requestId ↔
      (readStored requests requestId).any
        (fun record => isBound host record && !record.state.isTerminal) = true := by
  rw [Option.any_eq_true]
  simp [LiveRequest, Bool.and_eq_true]

instance (host : ExpiryHost) (requests : OrderedDict String Record) (requestId : String) :
    Decidable (LiveRequest host requests requestId) :=
  decidable_of_iff _ liveRequest_iff.symm

/-! ## Retiring a request -/

section Retirement

variable {host : ExpiryHost} {stored : Record}

/-- What `merge_diagnostics` makes of a rollup of `classify_error` is within the bounds of the
schema. -/
def BoundedDiagnostics (projections : Projections) : Prop :=
  ∀ previous error phase sideEffectState, (projections.mergeDiagnostics previous
    (projections.classifyError error phase sideEffectState)).schemaValid = true

def retiredRecord (host : ExpiryHost) (record : Record) (reason : String) (now : Timestamp) :
    Record :=
  Gateway.recoveredTerminal host.projections record .interrupted
    (some (retirementError host reason record)) (some false)
    (some "provider-session-expired; reconcile or operator-capture before retry") now

theorem retiredRecord_valid (bounded : BoundedDiagnostics host.projections) (valid : stored.Valid)
    (reason : String) (now : Timestamp) : (retiredRecord host stored reason now).Valid := by
  have diagnostics : (retiredRecord host stored reason now).diagnostics =
      some (host.projections.mergeDiagnostics stored.diagnostics
        (host.projections.classifyError (retirementError host reason stored)
          (some "reconciliation") (some "may-have-started"))) := by
    simp [retiredRecord, Gateway.recoveredTerminal, retirementError]
  rw [Record.valid_iff] at valid ⊢
  refine ⟨valid.1, ?_⟩
  have checks := valid.2
  simp only [Record.schemaChecks, forall_mem_cons] at checks ⊢
  obtain ⟨placement, dispatch, ordinal, warnings, activity, classification, _, evidence,
    provenance, _, none⟩ := checks
  refine ⟨placement, dispatch, ordinal, warnings, activity, classification, ?_, evidence,
    provenance, rfl, none⟩
  rw [diagnostics]
  exact bounded _ _ _ _

/-- **A live request that was not written since it was read is retired.** -/
theorem retirement_ok (bounded : BoundedDiagnostics host.projections) (valid : stored.Valid)
    (named : stored.admission.requestId ≠ "") (live : stored.state.isTerminal = false)
    (reason : String) (now : Timestamp) :
    (((retirement host reason stored.migrate now).operation host.projections host.hashing).run
      stored).2 =
        .ok (retiredRecord host stored.migrate reason now).redactForPersistence := by
  have read : stored.readLocked = .ok stored.migrate :=
    Record.readLocked_eq_ok.mpr ⟨valid, rfl⟩
  have owner : ¬ ∃ expected ∈ stored.migrate.dispatchOwnerEpoch.filter (· ≠ ""),
      stored.migrate.dispatchOwnerEpoch ≠ some expected := by
    rintro ⟨expected, filtered, other⟩
    exact other (filter_eq_some_iff.mp filtered).1
  have allowed : stored.migrate.state.transitionAllowed .interrupted = true := by
    have same : stored.migrate.state = stored.state := rfl
    rw [same]
    revert live
    cases stored.state <;> decide
  have written : stored.migrate.write (retiredRecord host stored.migrate reason now) =
      .ok (retiredRecord host stored.migrate reason now).redactForPersistence :=
    Record.write_eq_ok.mpr
      ⟨named, retiredRecord_valid bounded (Record.valid_migrate_iff.mpr valid) reason now, rfl, rfl⟩
  have body : ((retirement host reason stored.migrate now).operation host.projections
      host.hashing).body stored.migrate =
        .ok (retiredRecord host stored.migrate reason now).redactForPersistence := by
    change (Gateway.transitionRecoveredTerminal host.projections _ _ _ _ _ _ _).body _ = _
    simp only [Gateway.transitionRecoveredTerminal, bind_eq_ok, refuse_eq_ok, exists_const,
      Gateway.ensureTransition_ok, Gateway.checkDiagnosticRevision]
    refine ⟨?_, owner, allowed, written⟩
    rintro ⟨expected, member, other⟩
    cases member
    exact other rfl
  have passed : ((retirement host reason stored.migrate now).operation host.projections
      host.hashing).preflight = .ok () := rfl
  simp only [Operation.run, passed, read, body]

end Retirement

/-! ## What a step does to the requests -/

section Steps

variable {host : ExpiryHost} {state : ExpiryState}

/-- **What a step comes to.**  A step that waits, or that finds nothing to do, leaves the state as
it is. -/
inductive Stepped (host : ExpiryHost) (state : ExpiryState) : ExpiryEvent → ExpiryState → Prop
  | idle {event : ExpiryEvent} (works : ∀ now, event = .work now → state.holder = none)
      (runs : event ≠ .stop) : Stepped host state event state
  | admitted {requestId : String} {record : Record}
      (absent : state.requests.get? requestId = none) :
      Stepped host state (.admitted requestId record)
        { state with requests := state.requests.set requestId record }
  | operated {requestId : String} {op : StoreOp} {stored : Record}
      (free : ∀ held, state.holder = some held → requestId ∉ held.locked)
      (there : state.requests.get? requestId = some stored) :
      Stepped host state (.requestOp requestId op) { state with
        requests := state.requests.set requestId
          (storeStep host.projections host.hashing stored op) }
  | sessionWritten {session : ExpiringSession} (free : state.holder = none)
      (kept : session.state = .expired → state.session.state = .expired) :
      Stepped host state (.sessionWritten session) { state with session }
  | assigned {event : ExpiryEvent} {call : ℕ} {next : ExpiryCall}
      (learned : next = .idle ∨ (∃ now, event = .start call now ∧
          next = .listing state.session state.requests.keys []) ∨
        ∃ clock, event = .advance call clock ∧
          next = advanceCall host state clock (state.calls call))
      (works : ∀ now, event ≠ .work now) (runs : event ≠ .stop) :
      Stepped host state event { state with calls := Function.update state.calls call next }
  | entered {call : ℕ} {now : Timestamp} {check : ExpiryCheck} {reason : String}
      (free : state.holder = none) (waits : state.calls call = .waiting check) :
      Stepped host state (.enter call now) { state with
        calls := Function.update state.calls call .idle
        holder := some (.relisting check reason state.requests.keys []) }
  | worked {now : Timestamp} {held : ExpirySection} (holds : state.holder = some held) :
      Stepped host state (.work now) (workSection host state now held)
  | stopped : Stepped host state .stop { state with holder := none }

theorem stepped (host : ExpiryHost) (state : ExpiryState) (event : ExpiryEvent) :
    Stepped host state event (stepExpiry host state event) := by
  cases event with
  | admitted requestId record =>
    rw [stepExpiry]
    split
    · exact .idle nofun nofun
    next absent =>
      rw [Bool.not_eq_true, OrderedDict.has_eq_false_iff] at absent
      exact .admitted absent
  | requestOp requestId op =>
    rw [stepExpiry]
    split
    · exact .idle nofun nofun
    next free =>
      split
      next stored there =>
        refine .operated (fun held holds locked => free ?_) there
        rw [holds]
        exact decide_eq_true locked
      · exact .idle nofun nofun
  | sessionWritten session =>
    rw [stepExpiry]
    split
    · exact .idle nofun nofun
    next written =>
      simp only [Bool.or_eq_true, Bool.and_eq_true, decide_eq_true_eq, not_or, not_and,
        isSome_iff_ne_none, not_not] at written
      exact .sessionWritten written.1 written.2
  | start call now =>
    rw [stepExpiry]
    split
    · exact .assigned (.inr (.inl ⟨now, rfl, rfl⟩)) nofun nofun
    · exact .idle nofun nofun
  | advance call clock => exact .assigned (.inr (.inr ⟨clock, rfl, rfl⟩)) nofun nofun
  | enter call now =>
    rw [stepExpiry]
    split
    next check free waits =>
      dsimp only
      split
      · exact .entered free waits
      · exact .assigned (.inl rfl) nofun nofun
    · exact .idle nofun nofun
  | work now =>
    cases holds : state.holder with
    | some held =>
      rw [stepExpiry, holds]
      exact .worked holds
    | none =>
      rw [stepExpiry, holds]
      exact .idle (fun _ _ => holds) nofun
  | abandon call => exact .assigned (.inl rfl) nofun nofun
  | stop => exact .stopped

/-- What is done under the locks to the calls, to the check and to the requests. -/
structure SectionStep (host : ExpiryHost) (state : ExpiryState) (held : ExpirySection)
    (after : ExpiryState) : Prop where
  calls : after.calls = state.calls
  check : ∀ next, after.holder = some next → next.check = held.check
  requests : after.requests = state.requests ∨ ∃ requestId op stored,
    state.requests.get? requestId = some stored ∧ after.requests =
      state.requests.set requestId (storeStep host.projections host.hashing stored op)

theorem sectionStep (now : Timestamp) (held : ExpirySection) :
    SectionStep host state held (workSection host state now held) := by
  unfold workSection
  split
  · split <;> exact ⟨rfl, by rintro _ ⟨⟩; rfl, .inl rfl⟩
  · split
    · exact ⟨rfl, by rintro _ ⟨⟩; rfl, .inl rfl⟩
    · exact ⟨rfl, by rintro _ ⟨⟩, .inl rfl⟩
  next check reason other record remaining =>
    split
    next stored there =>
      dsimp only
      split
      · refine ⟨rfl, ?_, .inr ⟨_, retirement host reason record now, _, there, rfl⟩⟩
        rintro _ ⟨⟩
        rfl
      · exact ⟨rfl, by rintro _ ⟨⟩, .inr ⟨_, retirement host reason record now, _, there, rfl⟩⟩
    · exact ⟨rfl, by rintro _ ⟨⟩, .inl rfl⟩
  · split <;> exact ⟨rfl, by rintro _ ⟨⟩, .inl rfl⟩

theorem stored_step (event : ExpiryEvent) {stored : Record}
    (there : state.requests.get? requestId = some stored) :
    ∃ after, (stepExpiry host state event).requests.get? requestId = some after ∧
      (after = stored ∨ ∃ op, after = storeStep host.projections host.hashing stored op) := by
  have operated : ∀ other op stored', state.requests.get? other = some stored' →
      ∃ after, (state.requests.set other
          (storeStep host.projections host.hashing stored' op)).get? requestId = some after ∧
        (after = stored ∨ ∃ op, after = storeStep host.projections host.hashing stored op) := by
    intro other op stored' found
    rw [get?_set]
    split
    next equal =>
      rw [← equal, there] at found
      cases found
      exact ⟨_, rfl, .inr ⟨op, rfl⟩⟩
    · exact ⟨stored, there, .inl rfl⟩
  have moved := stepped host state event
  generalize stepExpiry host state event = after at moved
  cases moved with
  | idle | sessionWritten | assigned | entered | stopped => exact ⟨stored, there, .inl rfl⟩
  | admitted absent =>
    refine ⟨stored, ?_, .inl rfl⟩
    rw [get?_set_of_ne, there]
    rintro rfl
    cases there.symm.trans absent
  | operated _ found => exact operated _ _ _ found
  | worked =>
    rcases (sectionStep _ _).requests with same | ⟨_, op, _, found, written⟩
    · rw [same]
      exact ⟨stored, there, .inl rfl⟩
    · rw [written]
      exact operated _ op _ found

def RecordsKept (requests : OrderedDict String Record) (records : List (String × Record)) : Prop :=
  ∀ entry ∈ records, ∃ stored, requests.get? entry.1 = some stored ∧ Later entry.2 stored

theorem RecordsKept.step {records : List (String × Record)}
    (kept : RecordsKept state.requests records) (event : ExpiryEvent) :
    RecordsKept (stepExpiry host state event).requests records := by
  intro entry member
  obtain ⟨stored, there, later⟩ := kept entry member
  obtain ⟨after, found, rfl | ⟨op, rfl⟩⟩ := stored_step event there
  · exact ⟨_, found, later⟩
  · exact ⟨_, found, later.storeStep op⟩

def Named (requests : OrderedDict String Record) (ids : List String) : Prop :=
  ∀ id ∈ ids, ∃ stored, requests.get? id = some stored ∧ stored.admission.requestId ≠ ""

theorem Named.step {ids : List String} (named : Named state.requests ids) (event : ExpiryEvent) :
    Named (stepExpiry host state event).requests ids := by
  intro id member
  obtain ⟨stored, there, stated⟩ := named id member
  obtain ⟨after, found, rfl | ⟨op, rfl⟩⟩ := stored_step event there
  · exact ⟨_, found, stated⟩
  · refine ⟨_, found, ?_⟩
    rw [admission_storeStep]
    exact stated

end Steps

/-! ## Calls without locks -/

structure Retirable (host : ExpiryHost) (check : ExpiryCheck) (entry : String × Record) : Prop where
  live : entry.2.state.isTerminal = false
  facts : ∃ reference provider, providerFacts check.session = some (reference, provider) ∧
    isRetirable host reference provider (check.clock entry.1) entry.1 entry.2 = true

structure CheckSound (host : ExpiryHost) (requests : OrderedDict String Record)
    (check : ExpiryCheck) : Prop where
  kept : RecordsKept requests check.eligible
  nodup : (check.eligible.map Prod.fst).Nodup
  retirable : ∀ entry ∈ check.eligible, Retirable host check entry

/-- The invariant of a call that holds no lock. -/
def CallSound (host : ExpiryHost) (requests : OrderedDict String Record) : ExpiryCall → Prop
  | .idle => True
  | .listing _ _ _ => True
  | .reading _ _ remaining records =>
    RecordsKept requests records ∧ (records.map Prod.fst ++ remaining).Nodup
  | .waiting check => CheckSound host requests check

theorem rosterIds_nodup (listed bound : List String) : (rosterIds listed bound).Nodup :=
  (perm_insertionSort (· ≤ ·) _).nodup_iff.mpr (nodup_dedup _)

variable {session : ExpiringSession} {clock : String → Timestamp}

theorem eligibleRequests_eq_some {requestIds : List String}
    {records eligible : List (String × Record)}
    (found : eligibleRequests host session clock records = some eligible) :
    eligible.Sublist records ∧
      ∀ entry ∈ eligible, Retirable host { session, requestIds, clock, eligible } entry := by
  unfold eligibleRequests at found
  simp only at found
  split at found
  · cases found
    exact ⟨nil_sublist _, fun _ member => absurd member not_mem_nil⟩
  split at found
  next reference provider facts =>
    split at found
    next retirable =>
      cases found
      refine ⟨filter_sublist, fun entry member => ?_⟩
      have live := (mem_filter.mp member).2
      rw [Bool.not_eq_true'] at live
      exact ⟨live, reference, provider, facts, List.all_eq_true.mp retirable entry member⟩
    · cases found
  · cases found

variable {state : ExpiryState} {call : ExpiryCall}

theorem CallSound.advance (sound : CallSound host state.requests call)
    (clock : String → Timestamp) :
    CallSound host state.requests (advanceCall host state clock call) := by
  cases call with
  | idle => trivial
  | waiting check => exact sound
  | listing session remaining bound =>
    cases remaining with
    | nil =>
      refine ⟨fun _ member => absurd member not_mem_nil, ?_⟩
      rw [map_nil, nil_append]
      exact rosterIds_nodup _ _
    | cons requestId remaining =>
      rw [advanceCall]
      split <;> trivial
  | reading session requestIds remaining records =>
    obtain ⟨kept, nodup⟩ := sound
    cases remaining with
    | cons requestId remaining =>
      rw [advanceCall]
      split
      next record read =>
        obtain ⟨stored, there, _, rfl⟩ := readStored_eq_some_iff.mp read
        refine ⟨forall_mem_snoc kept ⟨stored, there, .inl rfl⟩, ?_⟩
        · rw [map_append, append_assoc]
          exact nodup
      · trivial
    | nil =>
      rw [advanceCall]
      split
      next eligible found =>
        obtain ⟨sublist, retirable⟩ :=
          eligibleRequests_eq_some found
        rw [append_nil] at nodup
        exact ⟨fun entry member => kept entry (sublist.subset member),
          nodup.sublist (sublist.map _), retirable⟩
      · trivial

variable {check : ExpiryCheck}

theorem CheckSound.step (sound : CheckSound host state.requests check) (event : ExpiryEvent) :
    CheckSound host (stepExpiry host state event).requests check :=
  ⟨sound.kept.step event, sound.nodup, sound.retirable⟩

theorem CallSound.step (sound : CallSound host state.requests call) (event : ExpiryEvent) :
    CallSound host (stepExpiry host state event).requests call := by
  cases call with
  | idle | listing => trivial
  | reading session requestIds remaining records => exact ⟨sound.1.step event, sound.2⟩
  | waiting check => exact CheckSound.step sound event

/-! ## The call that holds the locks -/

structure Held (requests : OrderedDict String Record) (entry : String × Record)
    (stored : Record) : Prop where
  there : requests.get? entry.1 = some stored
  valid : stored.Valid
  same : stored.migrate = entry.2
  named : stored.admission.requestId ≠ ""

/-- The invariant of the call that holds the locks. -/
inductive SectionSound (host : ExpiryHost) (state : ExpiryState) : ExpirySection → Prop
  | relisting (check : ExpiryCheck) (reason : String) (remaining : List String)
      (found : List (String × Record)) (sound : CheckSound host state.requests check)
      (named : Named state.requests (found.map Prod.fst))
      (listed : ∀ id, LiveRequest host state.requests id →
        id ∈ remaining ∨ ∃ record, (id, record) ∈ found ∧ record.state.isTerminal = false) :
      SectionSound host state (.relisting check reason remaining found)
  | retiring (check : ExpiryCheck) (reason : String) (remaining : List (String × Record))
      (active : remaining ≠ check.eligible → state.session.state = .active)
      (suffix : remaining <:+ check.eligible)
      (retirable : ∀ entry ∈ remaining, Retirable host check entry)
      (nodup : (remaining.map Prod.fst).Nodup)
      (held : ∀ entry ∈ remaining, ∃ stored, Held state.requests entry stored)
      (listed : ∀ id, LiveRequest host state.requests id → id ∈ remaining.map Prod.fst) :
      SectionSound host state (.retiring check reason remaining)

def ExpirySection.toRead : ExpirySection → List String
  | relisting _ _ remaining _ => remaining
  | retiring _ _ _ => []

/-- The step attaches no live request to the session that the second reading of the roster has
passed. -/
def AttachesNothing (host : ExpiryHost) (state after : ExpiryState) : Prop :=
  ∀ held, state.holder = some held → ∀ id, LiveRequest host after.requests id →
    LiveRequest host state.requests id ∨ id ∈ held.toRead

/-- A request of the session has been retired, and the session is still to follow. -/
def Retiring (state : ExpiryState) : Prop :=
  ∃ check reason remaining, state.holder = some (.retiring check reason remaining) ∧
    remaining ≠ check.eligible

/-- No live request is attached behind the second reading of the roster, no request is retired
while the session is closing, and no failure stops the retirement half way. -/
def Undisturbed (host : ExpiryHost) (state : ExpiryState) : ExpiryEvent → Prop
  | .admitted requestId record =>
    AttachesNothing host state (stepExpiry host state (.admitted requestId record))
  | .requestOp requestId op =>
    AttachesNothing host state (stepExpiry host state (.requestOp requestId op))
  | .work _ => ∀ check reason entry remaining,
      state.holder = some (.retiring check reason (entry :: remaining)) →
        state.session.state = .active
  | .stop => ¬ Retiring state
  | _ => True

variable {held : ExpirySection} {event : ExpiryEvent} {after : ExpiryState} {reason : String}

section Steps

variable {host : ExpiryHost} {state : ExpiryState}

/-- What other steps leave to the call that holds the locks. -/
structure Protected (host : ExpiryHost) (state after : ExpiryState) (held : ExpirySection) :
    Prop where
  holder : after.holder = some held
  session : after.session = state.session
  locked : ∀ id ∈ held.locked, ∀ stored, state.requests.get? id = some stored →
    after.requests.get? id = some stored
  live : ∀ id, LiveRequest host after.requests id →
    LiveRequest host state.requests id ∨ id ∈ held.toRead

theorem Protected.of_same (holds : after.holder = some held)
    (session : after.session = state.session) (requests : after.requests = state.requests) :
    Protected host state after held := by
  refine ⟨holds, session, fun id _ stored there => ?_, fun id live => ?_⟩
  · rw [requests]
    exact there
  · rw [requests] at live
    exact .inl live

/-- **Other steps respect the locks.** -/
theorem protected_step (holds : state.holder = some held)
    (undisturbed : Undisturbed host state event) (other : ∀ now, event ≠ .work now)
    (runs : event ≠ .stop) : Protected host state (stepExpiry host state event) held := by
  have moved := stepped host state event
  generalize same : stepExpiry host state event = after at moved
  cases moved with
  | idle | assigned => exact .of_same holds rfl rfl
  | admitted absent =>
    have live := undisturbed held holds
    rw [same] at live
    refine ⟨holds, rfl, fun id _ stored there => ?_, live⟩
    rw [get?_set_of_ne, there]
    rintro rfl
    cases there.symm.trans absent
  | operated free _ =>
    have live := undisturbed held holds
    rw [same] at live
    refine ⟨holds, rfl, fun id locked stored there => ?_, live⟩
    rw [get?_set_of_ne, there]
    rintro rfl
    exact free held holds locked
  | sessionWritten free | entered free => cases holds.symm.trans free
  | @worked now => exact absurd rfl (other now)
  | stopped => exact absurd rfl runs

theorem mem_locked_of_eligible {remaining : List (String × Record)} {entry : String × Record}
    (eligible : entry ∈ check.eligible) :
    entry.1 ∈ (ExpirySection.retiring check reason remaining).locked :=
  List.mem_map_of_mem eligible

theorem SectionSound.other (holds : state.holder = some held) (sound : SectionSound host state held)
    (undisturbed : Undisturbed host state event) (other : ∀ now, event ≠ .work now)
    (runs : event ≠ .stop) : SectionSound host (stepExpiry host state event) held := by
  have kept := protected_step holds undisturbed other runs
  cases sound with
  | relisting check reason remaining found sound named listed =>
    refine .relisting check reason remaining found (sound.step event) (named.step event)
      fun id live => ?_
    rcases kept.live id live with before | unread
    · exact listed id before
    · exact .inl unread
  | retiring check reason remaining active suffix retirable nodup stored listed =>
    refine .retiring check reason remaining ?_ suffix retirable nodup (fun entry member => ?_)
      fun id live => ?_
    · rw [kept.session]
      exact active
    · obtain ⟨record, holds⟩ := stored entry member
      have there := kept.locked entry.1 (mem_locked_of_eligible (suffix.subset member)) record
        holds.there
      exact ⟨record, there, holds.valid, holds.same, holds.named⟩
    · exact listed id ((kept.live id live).resolve_right not_mem_nil)

end Steps

/-! ## Steps under the locks -/

section Work

variable {host : ExpiryHost} {state : ExpiryState}

theorem relisting_next {remaining : List String} {found : List (String × Record)}
    (sound : SectionSound host state (.relisting check reason (requestId :: remaining) found))
    (now : Timestamp) :
    ∃ found', workSection host state now (.relisting check reason (requestId :: remaining) found) =
        { state with holder := some (.relisting check reason remaining found') } ∧
      SectionSound host { state with holder := some (.relisting check reason remaining found') }
        (.relisting check reason remaining found') := by
  cases sound with
  | relisting _ _ _ _ sound named listed =>
    cases read : readStored state.requests requestId with
    | none =>
      refine ⟨found, by rw [workSection, read], .relisting check reason remaining found sound named
        fun id live => (listed id live).imp_left fun member => ?_⟩
      rcases mem_cons.mp member with rfl | member
      · obtain ⟨record, there, _⟩ := live
        cases read.symm.trans there
      · exact member
    | some record =>
      refine ⟨if isBound host record then found ++ [(requestId, record)] else found,
        by rw [workSection, read], .relisting check reason remaining _ sound ?_ fun id live => ?_⟩
      · obtain ⟨stored, there, _, rfl⟩ := readStored_eq_some_iff.mp read
        split
        next bound =>
          rw [isBound, Bool.and_eq_true, decide_eq_true_eq] at bound
          rw [map_append]
          exact forall_mem_snoc named ⟨stored, there, of_decide_eq_true bound.2⟩
        · exact named
      · rcases listed id live with member | ⟨record, member, open'⟩
        · rcases mem_cons.mp member with rfl | member
          · obtain ⟨record, here, bound, open'⟩ := live
            cases read.symm.trans here
            right
            rw [if_pos bound]
            exact ⟨_, mem_append_right _ mem_cons_self, open'⟩
          · exact .inl member
        · right
          refine ⟨record, ?_, open'⟩
          split
          · exact mem_append_left _ member
          · exact member

theorem mem_of_sameMembers {first second : List String} (same : sameMembers first second = true)
    {id : String} : id ∈ first ↔ id ∈ second := by
  rw [sameMembers, Bool.and_eq_true, List.all_eq_true, List.all_eq_true] at same
  exact ⟨fun member => of_decide_eq_true (same.1 id member),
    fun member => of_decide_eq_true (same.2 id member)⟩

/-- **The roster holds**: what is left to do is to retire the eligible requests. -/
theorem retiring_of_roster {found : List (String × Record)}
    (sound : SectionSound host state (.relisting check reason [] found))
    (roster : rosterHolds state.session check found = true)
    (unchanged : unchangedSince state.requests check = true) :
    SectionSound host { state with holder := some (.retiring check reason check.eligible) }
      (.retiring check reason check.eligible) := by
  cases sound with
  | relisting _ _ _ _ sound named listed =>
    rw [rosterHolds, Bool.and_eq_true] at roster
    have members := fun id => @mem_of_sameMembers _ _ roster.2 id
    refine .retiring check reason check.eligible (fun begun => absurd rfl begun)
      suffix_rfl sound.retirable sound.nodup (fun entry member => ?_) fun id live => ?_
    · obtain ⟨stored, there, later⟩ := sound.kept entry member
      have here := List.all_eq_true.mp unchanged entry member
      have inFound := (members entry.1).mpr (List.mem_map_of_mem member)
      obtain ⟨listedEntry, memberFound, sameId⟩ := List.mem_map.mp inFound
      obtain ⟨stored', there', stated⟩ := named entry.1
        (List.mem_map.mpr ⟨listedEntry, mem_of_mem_filter memberFound, sameId⟩)
      cases there.symm.trans there'
      split at here
      next current read =>
        obtain ⟨stored'', there'', valid, rfl⟩ := readStored_eq_some_iff.mp read
        cases there.symm.trans there''
        rw [Bool.and_eq_true, decide_eq_true_eq] at here
        have revision : stored.revision = entry.2.revision := here.2
        refine ⟨stored, there, valid, later.resolve_right ?_, stated⟩
        rw [revision]
        exact lt_irrefl _
      · cases here
    · rcases listed id live with impossible | ⟨record, member, open'⟩
      · exact absurd impossible not_mem_nil
      · refine (members id).mp (List.mem_map.mpr ⟨(id, record), ?_, rfl⟩)
        rw [mem_filter]
        exact ⟨member, by rw [open']; rfl⟩

/-- **One request is retired.** -/
theorem retiring_next (bounded : BoundedDiagnostics host.projections) {entry : String × Record}
    {remaining : List (String × Record)}
    (sound : SectionSound host state (.retiring check reason (entry :: remaining)))
    (active : state.session.state = .active) (now : Timestamp) :
    ∃ requests, workSection host state now (.retiring check reason (entry :: remaining)) =
        { state with requests, holder := some (.retiring check reason remaining) } ∧
      (∀ id, id ≠ entry.1 → requests.get? id = state.requests.get? id) ∧
      SectionSound host { state with requests, holder := some (.retiring check reason remaining) }
        (.retiring check reason remaining) := by
  obtain ⟨requestId, record⟩ := entry
  cases sound with
  | retiring _ _ _ _ suffix retirable nodup held listed =>
    obtain ⟨stored, holds⟩ := held (requestId, record) mem_cons_self
    obtain ⟨there, valid, same, named⟩ := holds
    simp only at there same
    have live : stored.state.isTerminal = false := by
      have open' := (retirable (requestId, record) mem_cons_self).live
      rw [← same] at open'
      exact open'
    have retired := retirement_ok bounded valid named live reason now
    rw [same] at retired
    obtain ⟨outcome, ran⟩ : ∃ outcome, ((retirement host reason record now).operation
        host.projections host.hashing).run stored = (outcome, .ok
          (retiredRecord host record reason now).redactForPersistence) := by
      exact ⟨_, Prod.ext rfl retired⟩
    have wrote : outcome = (retiredRecord host record reason now).redactForPersistence := by
      rcases Operation.run_cases ((retirement host reason record now).operation
          host.projections host.hashing) stored with
        ⟨error, refused⟩ | ⟨error, failed⟩ | ⟨updated, _, _, _, run⟩
      · cases ran.symm.trans refused
      · cases ran.symm.trans failed
      · have both := ran.symm.trans run
        have first : outcome = updated := congrArg Prod.fst both
        have second := Except.ok.inj (congrArg Prod.snd both)
        rw [first, second]
    refine ⟨state.requests.set requestId outcome, ?_, fun id other => get?_set_of_ne _ other _, ?_⟩
    · rw [workSection]
      simp only [there, ran]
    rw [map_cons, nodup_cons] at nodup
    refine .retiring check reason remaining (fun _ => active)
      ((suffix_cons _ _).trans suffix)
      (fun entry member => retirable entry (mem_cons_of_mem _ member)) nodup.2
      (fun entry member => ?_) fun id live => ?_
    · obtain ⟨stored', holds'⟩ := held entry (mem_cons_of_mem _ member)
      have apart : entry.1 ≠ requestId := by
        intro equal
        rw [← equal] at nodup
        exact nodup.1 (List.mem_map.mpr ⟨entry, member, rfl⟩)
      exact ⟨stored', (get?_set_of_ne _ apart _).trans holds'.there, holds'.valid,
        holds'.same, holds'.named⟩
    · obtain ⟨current, read, bound, open'⟩ := live
      by_cases equal : id = requestId
      · obtain ⟨stored', there', _, rfl⟩ := readStored_eq_some_iff.mp read
        rw [equal, get?_set_self] at there'
        cases there'
        rw [wrote] at open'
        have terminal : (retiredRecord host record reason
            now).redactForPersistence.migrate.state.isTerminal = true := rfl
        rw [terminal] at open'
        cases open'
      · have before : LiveRequest host state.requests id := by
          refine ⟨current, ?_, bound, open'⟩
          rw [readStored, get?_set_of_ne _ equal] at read
          exact read
        rcases mem_cons.mp (listed id before) with here | later
        · exact absurd here equal
        · exact later

end Work

/-! ## Runs -/

structure ExpirySound (host : ExpiryHost) (state : ExpiryState) : Prop where
  calls : ∀ call, CallSound host state.requests (state.calls call)
  holder : ∀ held, state.holder = some held → SectionSound host state held

section Run

variable {host : ExpiryHost} {state : ExpiryState}

theorem calls_sound (calls : ∀ call, CallSound host state.requests (state.calls call))
    (event : ExpiryEvent) (call : ℕ) :
    CallSound host (stepExpiry host state event).requests
      ((stepExpiry host state event).calls call) := by
  have kept : (stepExpiry host state event).calls call = state.calls call →
      CallSound host (stepExpiry host state event).requests
        ((stepExpiry host state event).calls call) := by
    intro same
    rw [same]
    exact (calls call).step event
  have updated : ∀ other next, (stepExpiry host state event).calls =
      Function.update state.calls other next →
      CallSound host (stepExpiry host state event).requests next →
      CallSound host (stepExpiry host state event).requests
        ((stepExpiry host state event).calls call) := by
    intro other next same sound
    by_cases equal : call = other
    · rw [same, equal, update_self]
      exact sound
    · refine kept ?_
      rw [same, update_of_ne equal]
  have moved := stepped host state event
  generalize same : stepExpiry host state event = after at moved kept updated ⊢
  cases moved with
  | idle | admitted | operated | sessionWritten | stopped => exact kept rfl
  | worked => exact kept (congrFun (sectionStep _ _).calls call)
  | @assigned event other next learned =>
    refine updated other next rfl ?_
    rcases learned with rfl | ⟨_, rfl, rfl⟩ | ⟨clock, rfl, rfl⟩
    · trivial
    · trivial
    · exact (calls other).advance clock
  | @entered other => exact updated other .idle rfl trivial

theorem entering (sound : ExpirySound host state) {call : ℕ}
    (waits : state.calls call = .waiting check) (reason : String)
    (requests : after.requests = state.requests) :
    SectionSound host after (.relisting check reason state.requests.keys []) := by
  have checked := sound.calls call
  rw [waits, ← requests] at checked
  refine .relisting check reason _ [] checked (fun _ member => absurd member not_mem_nil)
    fun id live => .inl ?_
  obtain ⟨record, read, _⟩ := live
  obtain ⟨stored, there, _⟩ := readStored_eq_some_iff.mp read
  rw [requests] at there
  exact OrderedDict.mem_keys_iff.mpr ⟨stored, there⟩

/-- What one step of the call that holds the locks comes to. -/
inductive Worked (host : ExpiryHost) (state after : ExpiryState) : ExpirySection → Prop
  | relisting {check : ExpiryCheck} {reason : String} {remaining : List String}
      {found : List (String × Record)} (session : after.session = state.session)
      (requests : after.requests = state.requests)
      (sound : ∀ held, after.holder = some held → SectionSound host after held) :
      Worked host state after (.relisting check reason remaining found)
  | retired {check : ExpiryCheck} {reason : String} {entry : String × Record}
      {remaining : List (String × Record)} (session : after.session = state.session)
      (others : ∀ id, id ≠ entry.1 → after.requests.get? id = state.requests.get? id)
      (next : after.holder = some (.retiring check reason remaining))
      (sound : SectionSound host after (.retiring check reason remaining)) :
      Worked host state after (.retiring check reason (entry :: remaining))
  | expired {check : ExpiryCheck} {reason : String} (requests : after.requests = state.requests)
      (ended : after.session.state = .expired) (done : after.holder = none) :
      Worked host state after (.retiring check reason [])
  | refused {check : ExpiryCheck} {reason : String} (none' : check.eligible = [])
      (session : after.session = state.session) (requests : after.requests = state.requests)
      (done : after.holder = none) : Worked host state after (.retiring check reason [])

theorem worked (bounded : BoundedDiagnostics host.projections)
    (sound : SectionSound host state held)
    (active : ∀ check reason entry remaining, held = .retiring check reason (entry :: remaining) →
      state.session.state = .active) (now : Timestamp) :
    Worked host state (workSection host state now held) held := by
  cases held with
  | relisting check reason remaining found =>
    cases remaining with
    | cons requestId remaining =>
      obtain ⟨found', step, next⟩ := relisting_next sound now
      rw [step]
      refine .relisting rfl rfl fun held holds => ?_
      cases holds
      exact next
    | nil =>
      cases holds : rosterHolds state.session check found &&
          unchangedSince state.requests check with
      | true =>
        have step : workSection host state now (.relisting check reason [] found) =
            { state with holder := some (.retiring check reason check.eligible) } := by
          rw [workSection, holds]
          rfl
        rw [Bool.and_eq_true] at holds
        rw [step]
        refine .relisting rfl rfl fun held holds' => ?_
        cases holds'
        exact retiring_of_roster sound holds.1 holds.2
      | false =>
        have step : workSection host state now (.relisting check reason [] found) =
            { state with holder := none } := by
          rw [workSection, holds]
          rfl
        rw [step]
        refine .relisting rfl rfl fun held none => ?_
        cases none
  | retiring check reason remaining =>
    cases remaining with
    | cons entry remaining =>
      obtain ⟨requests, step, others, next⟩ :=
        retiring_next bounded sound (active check reason entry remaining rfl) now
      rw [step]
      exact .retired rfl others rfl next
    | nil =>
      cases sound with
      | retiring _ _ _ active _ _ _ _ _ =>
        by_cases begun : [] ≠ check.eligible
        · have allowed : SessionState.expired ∈ state.session.state.targets := by
            rw [active begun]
            decide
          rw [workSection, if_pos allowed]
          exact .expired rfl rfl rfl
        · rw [workSection]
          split
          · exact .expired rfl rfl rfl
          · exact .refused (not_not.mp begun).symm rfl rfl rfl

theorem working {now : Timestamp} (undisturbed : Undisturbed host state (.work now))
    (holds : state.holder = some held) (check : ExpiryCheck) (reason : String)
    (entry : String × Record) (remaining : List (String × Record))
    (retires : held = .retiring check reason (entry :: remaining)) :
    state.session.state = .active :=
  undisturbed check reason entry remaining (retires ▸ holds)

/-- **Every step keeps the invariant.** -/
theorem ExpirySound.step (bounded : BoundedDiagnostics host.projections)
    (sound : ExpirySound host state) (undisturbed : Undisturbed host state event) :
    ExpirySound host (stepExpiry host state event) := by
  refine ⟨calls_sound sound.calls event, fun held holds => ?_⟩
  -- The holder of the locks is as it was when the step is one of another.
  have others : state.holder = some held → (∀ now, event ≠ .work now) → event ≠ .stop →
      SectionSound host (stepExpiry host state event) held :=
    fun before other runs => SectionSound.other before (sound.holder held before) undisturbed
      other runs
  have moved := stepped host state event
  generalize stepExpiry host state event = after at moved holds others ⊢
  cases moved with
  | idle works runs =>
    exact others holds (fun now same => nomatch holds.symm.trans (works now same)) runs
  | admitted | operated => exact others holds nofun nofun
  | sessionWritten free => cases holds.symm.trans free
  | assigned _ works runs => exact others holds works runs
  | entered free waits =>
    cases holds
    exact entering sound waits _ rfl
  | @worked now earlier before =>
    cases worked bounded (sound.holder earlier before) (working undisturbed before) now with
    | relisting session requests next => exact next held holds
    | retired session others next soundNext =>
      rw [next] at holds
      cases holds
      exact soundNext
    | expired _ _ done | refused _ _ _ done => cases holds.symm.trans done
  | stopped => cases holds

theorem expirySound_run (bounded : BoundedDiagnostics host.projections) {start : ExpiryState}
    (sound : ExpirySound host start) (events : List ExpiryEvent)
    (undisturbed : Admissible (stepExpiry host) (Undisturbed host) start events) :
    ExpirySound host (exec (stepExpiry host) start events) :=
  undisturbed.invariant (fun _ _ sound allowed => sound.step bounded allowed) sound

end Run

/-! ## Where a check comes from -/

section Checks

variable {host : ExpiryHost} {state : ExpiryState}

def ExpiryCall.session? : ExpiryCall → Option ExpiringSession
  | idle => none
  | listing session _ _ => some session
  | reading session _ _ _ => some session
  | waiting check => some check.session

def ExpiryCall.check? : ExpiryCall → Option ExpiryCheck
  | waiting check => some check
  | _ => none

def KnownTo {α : Type} (state : ExpiryState) (inHand : ExpiryCall → Option α)
    (inCheck : ExpiryCheck → α) (value : α) : Prop :=
  (∃ call, inHand (state.calls call) = some value) ∨
    ∃ held, state.holder = some held ∧ inCheck held.check = value

theorem advanceCall_session (read : (advanceCall host state clock call).session? = some session) :
    call.session? = some session := by
  unfold advanceCall at read
  split at read
  · exact read
  · split at read <;> exact read
  · exact read
  · split at read
    · exact read
    · cases read
  · split at read
    · exact read
    · cases read
  · exact read

theorem advanceCall_check (made : (advanceCall host state clock call).check? = some check) :
    call.check? = some check ∨ check.clock = clock := by
  unfold advanceCall at made
  split at made
  · exact .inl made
  · split at made <;> cases made
  · cases made
  · split at made <;> cases made
  · split at made
    · cases made
      exact .inr rfl
    · cases made
  · exact .inl made

theorem knownTo_step {α : Type} {inHand : ExpiryCall → Option α} {inCheck : ExpiryCheck → α}
    {value : α} (known : KnownTo (stepExpiry host state event) inHand inCheck value)
    (idle : inHand .idle = none)
    (waiting : ∀ check, inHand (.waiting check) = some (inCheck check)) :
    KnownTo state inHand inCheck value ∨
      (∃ call now, event = .start call now ∧
        inHand (.listing state.session state.requests.keys []) = some value) ∨
      ∃ call clock, event = .advance call clock ∧
        inHand (advanceCall host state clock (state.calls call)) = some value := by
  have same : (stepExpiry host state event).calls = state.calls →
      (stepExpiry host state event).holder = state.holder →
      KnownTo state inHand inCheck value := by
    intro calls holder
    rw [KnownTo, calls, holder] at known
    exact known
  have updated : ∀ other next, (stepExpiry host state event).calls =
      Function.update state.calls other next →
      (stepExpiry host state event).holder = state.holder →
      KnownTo state inHand inCheck value ∨ inHand next = some value := by
    intro other next calls holder
    rcases known with ⟨call, here⟩ | held
    · rw [calls] at here
      by_cases equal : call = other
      · rw [equal, update_self] at here
        exact .inr here
      · rw [update_of_ne equal] at here
        exact .inl (.inl ⟨call, here⟩)
    · rw [holder] at held
      exact .inl (.inr held)
  have moved := stepped host state event
  generalize stepExpiry host state event = after at moved known same updated
  cases moved with
  | idle | admitted | operated | sessionWritten => exact .inl (same rfl rfl)
  | @assigned event other next learned =>
    rcases updated other next rfl rfl with before | here
    · exact .inl before
    rcases learned with rfl | ⟨now, rfl, rfl⟩ | ⟨clock, rfl, rfl⟩
    · cases idle.symm.trans here
    · exact .inr (.inl ⟨other, now, rfl, here⟩)
    · exact .inr (.inr ⟨other, clock, rfl, here⟩)
  | @entered other now check reason free waits =>
    left
    rcases known with ⟨call, here⟩ | ⟨held, entered, here⟩
    · by_cases equal : call = other
      · simp only [equal, update_self, idle] at here
        cases here
      · simp only [update_of_ne equal] at here
        exact .inl ⟨call, here⟩
    · cases entered
      exact .inl ⟨other, by rw [waits, waiting, ← here]; rfl⟩
  | @worked now held holds =>
    left
    rcases known with ⟨call, here⟩ | ⟨next, left, here⟩
    · rw [(sectionStep _ _).calls] at here
      exact .inl ⟨call, here⟩
    · rw [(sectionStep _ _).check next left] at here
      exact .inr ⟨held, holds, here⟩
  | stopped =>
    rcases known with ⟨call, here⟩ | ⟨held, impossible, _⟩
    · exact .inl (.inl ⟨call, here⟩)
    · cases impossible

structure Quiet (state : ExpiryState) : Prop where
  calls : ∀ call, state.calls call = .idle
  holder : state.holder = none

theorem Quiet.knows_nothing {α : Type} {inHand : ExpiryCall → Option α}
    {inCheck : ExpiryCheck → α} (quiet : Quiet state) (idle : inHand .idle = none) (value : α) :
    ¬ KnownTo state inHand inCheck value := by
  rintro (⟨call, here⟩ | ⟨held, holds, _⟩)
  · rw [quiet.calls, idle] at here
    cases here
  · cases quiet.holder.symm.trans holds

variable {start : ExpiryState}

/-- **A session that a call has read** was the session at an earlier moment. -/
theorem session_was_read (quiet : Quiet start) (events : List ExpiryEvent)
    (known : KnownTo (exec (stepExpiry host) start events) ExpiryCall.session?
      ExpiryCheck.session session) :
    ∃ earlier later, events = earlier ++ later ∧
      (exec (stepExpiry host) start earlier).session = session := by
  have begins : ∀ (state : ExpiryState) (event : ExpiryEvent), True →
      KnownTo (stepExpiry host state event) ExpiryCall.session? ExpiryCheck.session session →
        KnownTo state ExpiryCall.session? ExpiryCheck.session session ∨
          state.session = session := by
    intro state event _ known
    rcases knownTo_step known rfl (fun _ => rfl) with
      earlier | ⟨_, _, _, read⟩ | ⟨call, clock, _, read⟩
    · exact .inl earlier
    · exact .inr (Option.some.inj read)
    · exact .inl (.inl ⟨call, advanceCall_session read⟩)
  obtain ⟨earlier, event, later, split, here, -⟩ :=
    exec_since (P := fun state => KnownTo state _ _ session) (fun _ _ _ => trivial) begins trivial
      (quiet.knows_nothing rfl session) events known
  exact ⟨earlier, event :: later, split, here⟩

/-- **A check was made** at the time of an earlier step of a call. -/
theorem check_was_made (quiet : Quiet start) (events : List ExpiryEvent)
    (known : KnownTo (exec (stepExpiry host) start events) ExpiryCall.check? id check) :
    ∃ call, ExpiryEvent.advance call check.clock ∈ events := by
  have begins : ∀ (state : ExpiryState) (event : ExpiryEvent), True →
      KnownTo (stepExpiry host state event) ExpiryCall.check? id check →
        KnownTo state ExpiryCall.check? id check ∨ ∃ call, .advance call check.clock = event := by
    intro state event _ known
    rcases knownTo_step known rfl (fun _ => rfl) with
      earlier | ⟨_, _, _, made⟩ | ⟨call, clock, same, made⟩
    · exact .inl earlier
    · cases made
    · rcases advanceCall_check made with earlier | now
      · exact .inl (.inl ⟨call, earlier⟩)
      · exact .inr ⟨call, by rw [same, now]⟩
  obtain ⟨earlier, event, later, rfl, ⟨call, rfl⟩, -⟩ :=
    exec_since (P := fun state => KnownTo state _ id check) (fun _ _ _ => trivial) begins trivial
      (quiet.knows_nothing rfl check) events known
  exact ⟨call, mem_append_right _ mem_cons_self⟩

end Checks

/-! ## Every run -/

def ExpiryEvent.isExpiry : ExpiryEvent → Bool
  | start _ _ | advance _ _ | enter _ _ | work _ | abandon _ | stop => true
  | admitted _ _ | requestOp _ _ | sessionWritten _ => false

/-- The request has the provider session that the session had when a call read it, and its provider
lease did not run when that call checked it. -/
def RetiredSafely (host : ExpiryHost) (start : ExpiryState) (before : List ExpiryEvent)
    (requestId : String) : Prop :=
  ∃ record earlier later call clock reference,
    readStored (exec (stepExpiry host) start before).requests requestId = some record ∧
      before = earlier ++ later ∧
      (exec (stepExpiry host) start earlier).session.providerSessionId = some reference ∧
      requestProviderSession host record = some reference ∧
      ExpiryEvent.advance call clock ∈ before ∧ leaseRuns record (clock requestId) = false

/-- What is promised of a step, after the events before it. -/
structure ExpirySafe (host : ExpiryHost) (start : ExpiryState) (before : List ExpiryEvent)
    (event : ExpiryEvent) (state after : ExpiryState) : Prop where
  expired : state.session.state ≠ .expired → after.session.state = .expired →
    ∀ requestId, ¬ LiveRequest host after.requests requestId
  retired : ∀ now requestId, event = .work now →
    after.requests.get? requestId ≠ state.requests.get? requestId →
      RetiredSafely host start before requestId
  completes : Retiring state → ¬ Retiring after → after.session.state = .expired
  unchanged : event.isExpiry = true → ¬ Retiring after →
    after.requests = state.requests ∧
      (after.session = state.session ∨ after.session.state = .expired)

section Safe

variable {host : ExpiryHost} {state start : ExpiryState}

theorem works_of_expired (open' : state.session.state ≠ .expired)
    (ended : (stepExpiry host state event).session.state = .expired) :
    ∃ now held, event = .work now ∧ state.holder = some held := by
  have moved := stepped host state event
  generalize stepExpiry host state event = after at moved ended
  cases moved with
  | idle | admitted | operated | assigned | entered | stopped => exact absurd ended open'
  | sessionWritten _ kept => exact absurd (kept ended) open'
  | worked holds => exact ⟨_, _, rfl, holds⟩

theorem providerFacts_eq_some {reference provider : String}
    (facts : providerFacts session = some (reference, provider)) :
    session.providerSessionId = some reference := by
  unfold providerFacts at facts
  split at facts
  next stated _ =>
    split at facts
    · cases facts
      exact stated
    · cases facts
  · cases facts

theorem stepExpiry_work (holds : state.holder = some held) (now : Timestamp) :
    stepExpiry host state (.work now) = workSection host state now held := by
  rw [stepExpiry, holds]

theorem retiredSafely (bounded : BoundedDiagnostics host.projections) (quiet : Quiet start)
    {before : List ExpiryEvent} (sound : ExpirySound host (exec (stepExpiry host) start before))
    {now : Timestamp} (undisturbed : Undisturbed host (exec (stepExpiry host) start before)
      (.work now))
    (changed : (stepExpiry host (exec (stepExpiry host) start before) (.work now)).requests.get?
      requestId ≠ (exec (stepExpiry host) start before).requests.get? requestId) :
    RetiredSafely host start before requestId := by
  cases holds : (exec (stepExpiry host) start before).holder with
  | none =>
    refine absurd ?_ changed
    rw [stepExpiry, holds]
  | some held =>
    have heldSound := sound.holder held holds
    have done := worked bounded heldSound (working undisturbed holds) now
    rw [stepExpiry_work holds now] at changed
    generalize after : workSection host (exec (stepExpiry host) start before) now held = next at *
    cases done with
    | relisting _ requests | expired requests | refused _ _ requests =>
      rw [requests] at changed
      exact absurd rfl changed
    | @retired check reason entry remaining session others next nextSound =>
      have same : requestId = entry.1 := by
        by_contra other
        exact changed (others requestId other)
      cases heldSound with
      | retiring _ _ _ active suffix retirable nodup stored listed =>
        obtain ⟨record, kept⟩ := stored entry mem_cons_self
        obtain ⟨_, reference, provider, facts, retirable⟩ :=
          retirable entry mem_cons_self
        simp only [isRetirable, Bool.and_eq_true, decide_eq_true_eq, Bool.not_eq_true',
          and_assoc] at retirable
        obtain ⟨earlier, later, split, read⟩ := session_was_read quiet before
          (.inr ⟨_, holds, rfl⟩)
        obtain ⟨call, made⟩ := check_was_made quiet before (.inr ⟨_, holds, rfl⟩)
        refine ⟨entry.2, earlier, later, call, check.clock, reference, ?_, split, ?_,
          retirable.2.1, made, ?_⟩
        · rw [same]
          exact readStored_eq_some_iff.mpr ⟨record, kept.there, kept.valid, kept.same.symm⟩
        · rw [read]
          exact providerFacts_eq_some facts
        · rw [same]
          exact retirable.2.2.2

theorem tail_ne_of_suffix {α : Type} {entry : α} {remaining whole : List α}
    (suffix : entry :: remaining <:+ whole) : remaining ≠ whole := by
  rintro rfl
  have shorter := suffix.length_le
  rw [length_cons] at shorter
  omega

/-- What the call that holds the locks comes to, in the terms of the claim. -/
theorem Worked.outcome (done : Worked host state after held) (holds : state.holder = some held)
    (sound : SectionSound host state held) :
    (Retiring state → ¬ Retiring after → after.session.state = .expired) ∧
      (¬ Retiring after → after.requests = state.requests ∧
        (after.session = state.session ∨ after.session.state = .expired)) := by
  cases done with
  | relisting session requests next =>
    refine ⟨?_, fun _ => ⟨requests, .inl session⟩⟩
    rintro ⟨_, _, _, retiring, _⟩
    cases holds.symm.trans retiring
  | @retired check reason entry remaining session others next nextSound =>
    have begun : Retiring after := by
      cases sound with
      | retiring _ _ _ _ suffix _ _ _ _ =>
        exact ⟨check, reason, remaining, next, tail_ne_of_suffix suffix⟩
    exact ⟨fun _ still => absurd begun still, fun still => absurd begun still⟩
  | expired requests ended done => exact ⟨fun _ _ => ended, fun _ => ⟨requests, .inr ended⟩⟩
  | refused empty session requests done =>
    refine ⟨?_, fun _ => ⟨requests, .inl session⟩⟩
    rintro ⟨_, _, _, retiring, begun⟩
    cases holds.symm.trans retiring
    exact absurd empty.symm begun

/-- **One step of a run.** -/
theorem expirySafe_step (bounded : BoundedDiagnostics host.projections) (quiet : Quiet start)
    {before : List ExpiryEvent} (sound : ExpirySound host (exec (stepExpiry host) start before))
    (undisturbed : Undisturbed host (exec (stepExpiry host) start before) event) :
    ExpirySafe host start before event (exec (stepExpiry host) start before)
      (stepExpiry host (exec (stepExpiry host) start before) event) := by
  refine ⟨fun open' ended requestId live => ?_, ?_, fun begun still => ?_, fun expiry still => ?_⟩
  · obtain ⟨now, held, rfl, holds⟩ := works_of_expired open' ended
    have heldSound := sound.holder held holds
    rw [stepExpiry_work holds now] at ended live
    have done := worked bounded heldSound (working undisturbed holds) now
    generalize workSection host (exec (stepExpiry host) start before) now held = next at *
    cases done with
    | relisting session | retired session | refused _ session =>
      rw [session] at ended
      exact open' ended
    | expired requests ended done =>
      rw [requests] at live
      cases heldSound with
      | retiring _ _ _ active suffix retirable nodup stored listed =>
        exact absurd (listed requestId live) not_mem_nil
  · rintro now requestId rfl changed
    exact retiredSafely bounded quiet sound undisturbed changed
  · obtain ⟨check, reason, remaining, holds, part⟩ := begun
    by_cases works : ∃ now, event = .work now
    · obtain ⟨now, rfl⟩ := works
      rw [stepExpiry_work holds now] at still ⊢
      have heldSound := sound.holder _ holds
      exact ((worked bounded heldSound (working undisturbed holds) now).outcome holds heldSound).1
        ⟨check, reason, remaining, holds, part⟩ still
    · have other : ∀ now, event ≠ .work now := fun now same => works ⟨now, same⟩
      by_cases stops : event = .stop
      · rw [stops] at undisturbed
        exact absurd ⟨check, reason, remaining, holds, part⟩ undisturbed
      · have kept := protected_step holds undisturbed other stops
        exact absurd ⟨check, reason, remaining, kept.holder, part⟩ still
  · have moved := stepped host (exec (stepExpiry host) start before) event
    generalize stepExpiry host (exec (stepExpiry host) start before) event = after at moved still ⊢
    cases moved with
    | idle | assigned | entered | stopped => exact ⟨rfl, .inl rfl⟩
    | admitted | operated | sessionWritten => cases expiry
    | @worked now held holds =>
      have heldSound := sound.holder held holds
      exact ((worked bounded heldSound (working undisturbed holds) now).outcome holds
        heldSound).2 still

end Safe

/-- **Expiry leaves no live request behind, over every run** whose steps are undisturbed: when the
session becomes expired its requests are terminal, a request is retired only with the provider
session of its session and without a running provider lease, and a call that gives up has changed
nothing. -/
theorem expiry_leaves_no_live_request (host : ExpiryHost)
    (bounded : BoundedDiagnostics host.projections) {start : ExpiryState} (quiet : Quiet start)
    {events : List ExpiryEvent}
    (undisturbed : Admissible (stepExpiry host) (Undisturbed host) start events) :
    ∀ before event later, events = before ++ event :: later →
      ExpirySafe host start before event (exec (stepExpiry host) start before)
        (stepExpiry host (exec (stepExpiry host) start before) event) := by
  rintro before event later rfl
  obtain ⟨first, here, _⟩ := admissible_append.mp undisturbed
  have initially : ExpirySound host start := by
    refine ⟨fun call => ?_, fun held holds => ?_⟩
    · rw [quiet.calls]
      trivial
    · cases quiet.holder.symm.trans holds
  exact expirySafe_step bounded quiet (expirySound_run bounded initially before first) here

/-! ## An idle session -/

/-- A session of one provider conversation, without activity since time 3. -/
def idleSession (state : SessionState) : ExpiringSession where
  state
  requestIds := []
  providerId := some "gpt-auto"
  providerSessionId := some "conversation"
  boundProviderId := some "gpt-auto"
  boundSessionRef := some "conversation"
  createdAt := some 0
  lastActivityAt := some 3
  idleTimeoutSeconds := some 60
  maxLifetimeSeconds := none
  closeReason := none
  closedAt := none

def idleHost : ExpiryHost where
  sessionId := "sess_1"
  resolvedProviderId := fun _ => some "gpt-auto"
  providerSessionId := some
  details := fun reason _ => reason
  projections := .plain
  hashing := .constant

/-- A request that runs in the provider conversation. -/
def runningSample : Record :=
  exec (storeStep .plain .constant) (Gateway.buildRecord Gateway.sampleAdmission "" [] none)
    [.claimDispatch "g1" 0 none 1,
      .bindAndStartOwnedAttempt (some "g1") (some "w1") 1
        ⟨some "gpt-auto", some "gpt", none, none⟩ 2,
      .updateOwnedRunningSession ⟨some "g1", some "w1", 1⟩
        ⟨"sess_1", some "conversation", none, none, []⟩ false 3]

def idleState (state : SessionState) : ExpiryState where
  session := idleSession state
  requests := (∅ : OrderedDict String Record).set "req_sample_1" runningSample
  calls := fun _ => .idle
  holder := none

def reachesLocks : List ExpiryEvent :=
  [.start 0 100, .advance 0 fun _ => 100, .advance 0 fun _ => 100, .advance 0 fun _ => 100,
    .advance 0 fun _ => 100, .enter 0 100]

/-- The roster is read again, the request is retired and the session expires. -/
def holdsLocks : List ExpiryEvent := [.work 100, .work 100, .work 100, .work 100]

theorem idleRun_undisturbed :
    Admissible (stepExpiry idleHost) (Undisturbed idleHost) (idleState .active)
      (reachesLocks ++ holdsLocks) := by
  refine ⟨trivial, trivial, trivial, trivial, trivial, trivial, ?_, ?_, ?_, ?_, trivial⟩
  all_goals
    intro _ _ _ _ _
    decide +kernel

theorem boundedDiagnostics_plain : BoundedDiagnostics Projections.plain := fun _ _ _ _ => rfl

theorem quiet_idleState (state : SessionState) : Quiet (idleState state) := ⟨fun _ => rfl, rfl⟩

/-- The idle session expires with its request. -/
theorem idle_session_expires :
    let state := exec (stepExpiry idleHost) (idleState .active) (reachesLocks ++ holdsLocks)
    state.session.state = .expired ∧
      ∀ requestId, ¬ LiveRequest idleHost state.requests requestId := by
  have ended : (exec (stepExpiry idleHost) (idleState .active)
      (reachesLocks ++ holdsLocks)).session.state = .expired := by decide +kernel
  refine ⟨ended, ?_⟩
  have safe := expiry_leaves_no_live_request idleHost boundedDiagnostics_plain
    (quiet_idleState .active) idleRun_undisturbed
    (reachesLocks ++ [.work 100, .work 100, .work 100]) (.work 100) [] rfl
  exact safe.expired (by decide +kernel) ended

/-- A request that is admitted for the session between the second roster and the expiry. -/
def lateRequest : Record := Gateway.buildRecord
  { Gateway.sampleAdmission with requestId := "req_sample_2" } "" [] (some "sess_1")

/-- Expiry of the idle session, with an admission while the locks are held. -/
def disturbedRun : List ExpiryEvent :=
  reachesLocks ++ [.work 100, .work 100, .admitted "req_sample_2" lateRequest, .work 100, .work 100]

/-- **Expiry leaves a closing session half done and misses a late request.**  The request of a
session that is closing is interrupted and the session stays closing; and a request that is admitted
under the locks stays queued in a session that expires. -/
theorem expiry_leaves_request_behind :
    (((exec (stepExpiry idleHost) (idleState .closing) (reachesLocks ++ holdsLocks)).requests.get?
        "req_sample_1").map (·.state) = some .interrupted ∧
      (exec (stepExpiry idleHost) (idleState .closing) (reachesLocks ++ holdsLocks)).session.state =
        .closing) ∧
      ((exec (stepExpiry idleHost) (idleState .active) disturbedRun).session.state = .expired ∧
        LiveRequest idleHost (exec (stepExpiry idleHost) (idleState .active) disturbedRun).requests
          "req_sample_2") ∧
      ¬ ∀ start events, Quiet start → ∀ before event later, events = before ++ event :: later →
        ExpirySafe idleHost start before event (exec (stepExpiry idleHost) start before)
          (stepExpiry idleHost (exec (stepExpiry idleHost) start before) event) := by
  have live : LiveRequest idleHost
      (exec (stepExpiry idleHost) (idleState .active) disturbedRun).requests "req_sample_2" := by
    decide +kernel
  have ended : (exec (stepExpiry idleHost) (idleState .active) disturbedRun).session.state =
      .expired := by decide +kernel
  refine ⟨⟨by decide +kernel, by decide +kernel⟩, ⟨ended, live⟩, fun safe => ?_⟩
  have step := safe (idleState .active) disturbedRun (quiet_idleState .active)
    (reachesLocks ++ [.work 100, .work 100, .admitted "req_sample_2" lateRequest, .work 100])
    (.work 100) [] rfl
  exact step.expired (by decide +kernel) ended "req_sample_2" live

end Audiagentic.Session
