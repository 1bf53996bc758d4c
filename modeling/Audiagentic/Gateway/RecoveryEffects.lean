import Audiagentic.Gateway.StoreOps
import Audiagentic.Gateway.Recovery

/-!
# What the recovery of one request does

The recovery of a request writes its record and its two markers and nothing else, and a
takeover that returns leaves the request terminal or with the live owner.
-/

namespace Audiagentic.Gateway

open Foundations Option Dict
open Script (check_bind_eq_ok moves_attempt moves_bind moves_bind_pure moves_check moves_check_bind
  moves_pure moves_read_bind run_read_bind)

/-! ## What one request's recovery can touch -/

@[simp] theorem Service.records_apply_marker (service : Service) (name : String)
    (file : Option MarkerFile) : (service.apply (.marker name file)).records = service.records := by
  cases file <;> rfl

theorem Service.lookup_apply_record (service : Service) (projectRoot requestId : String)
    (record : Record) (key : String × String) :
    (service.apply (.record projectRoot requestId record)).records.lookup key =
      if key = (projectRoot, requestId) then some record else service.records.lookup key :=
  lookup_insert_eq _ _ _ _

theorem Service.lookup_apply_marker (service : Service) (name other : String)
    (file : Option MarkerFile) :
    (service.apply (.marker name file)).markers.lookup other =
      if other = name then file else service.markers.lookup other := by
  cases file with
  | none => exact lookup_erase_eq _ _ _
  | some file => exact lookup_insert_eq _ _ _ _

/-- **Only the record and the two markers of one request change**, and a marker that is new or
changed names the same request as before, or this one. -/
structure Confined (digests : MarkerDigests) (key : String × String) (before after : Service) :
    Prop where
  records : ∀ other, other ≠ key → after.records.lookup other = before.records.lookup other
  markers : ∀ name, name ≠ key.2 → name ≠ activeWorkName digests key.2 →
    after.markers.lookup name = before.markers.lookup name
  origin : ∀ name file, after.markers.lookup name = some file →
    (∃ old, before.markers.lookup name = some old ∧ readEntry old = readEntry file) ∨
      (name = activeWorkName digests key.2 ∧ readEntry file = some key)

namespace Confined

variable {digests : MarkerDigests} {key : String × String}

theorem refl (service : Service) : Confined digests key service service :=
  ⟨fun _ _ => rfl, fun _ _ _ => rfl, fun _ file found => .inl ⟨file, found, rfl⟩⟩

theorem trans {first second third : Service} (left : Confined digests key first second)
    (right : Confined digests key second third) : Confined digests key first third where
  records := fun other different =>
    (right.records other different).trans (left.records other different)
  markers := fun name entry active =>
    (right.markers name entry active).trans (left.markers name entry active)
  origin := by
    intro name file found
    rcases right.origin name file found with ⟨middle, foundMiddle, same⟩ | own
    · rcases left.origin name middle foundMiddle with ⟨old, foundOld, sameOld⟩ | ⟨active, own⟩
      · exact .inl ⟨old, foundOld, sameOld.trans same⟩
      · exact .inr ⟨active, same ▸ own⟩
    · exact .inr own

theorem record (service : Service) (record : Record) :
    Confined digests key service (service.apply (.record key.1 key.2 record)) where
  records := fun other different =>
    (service.lookup_apply_record key.1 key.2 record other).trans (if_neg different)
  markers := fun _ _ _ => rfl
  origin := fun _ file found => .inl ⟨file, found, rfl⟩

theorem removal (service : Service) {name : String}
    (own : name = key.2 ∨ name = activeWorkName digests key.2) :
    Confined digests key service (service.apply (.marker name none)) where
  records := fun other _ => by rw [Service.records_apply_marker]
  markers := by
    intro other entry active
    rw [service.lookup_apply_marker, if_neg]
    rintro rfl
    rcases own with same | same
    · exact entry same
    · exact active same
  origin := by
    intro other file found
    rw [service.lookup_apply_marker] at found
    split at found
    · cases found
    · exact .inl ⟨file, found, rfl⟩

theorem marker (service : Service) {name : String} {file : MarkerFile}
    (own : name = key.2 ∨ name = activeWorkName digests key.2)
    (named : (∃ old, service.markers.lookup name = some old ∧ readEntry old = readEntry file) ∨
      (name = activeWorkName digests key.2 ∧ readEntry file = some key)) :
    Confined digests key service (service.apply (.marker name (some file))) where
  records := fun other _ => by rw [Service.records_apply_marker]
  markers := by
    intro other entry active
    rw [service.lookup_apply_marker, if_neg]
    rintro rfl
    rcases own with same | same
    · exact entry same
    · exact active same
  origin := by
    intro other content found
    rw [service.lookup_apply_marker] at found
    split at found
    next same =>
      cases found
      rw [same]
      exact named
    next => exact .inl ⟨content, found, rfl⟩

end Confined

/-! ## The writes of one request's recovery -/

/-- A preorder on tapes that every write of one request's recovery moves along. -/
structure WritesOf (digests : MarkerDigests) (projectRoot requestId : String)
    (R : Tape ServiceWrite Service → Tape ServiceWrite Service → Prop) : Prop where
  refl : ∀ tape, R tape tape
  trans : ∀ first second third, R first second → R second third → R first third
  record : ∀ tape record, R tape (tape.record Service.apply (.record projectRoot requestId record))
  removal : ∀ tape name, name = requestId ∨ name = activeWorkName digests requestId →
    R tape (tape.record Service.apply (.marker name none))
  active : ∀ tape ownerEpoch, R tape
    (tape.record Service.apply (activeWorkMarker digests projectRoot requestId ownerEpoch))
  takeover : ∀ tape expectedOwnerEpoch newOwnerEpoch found updated,
    takeoverOwner digests tape.store.markers requestId expectedOwnerEpoch newOwnerEpoch =
      .ok (found, updated) →
    R tape (tape.record Service.apply (.marker requestId (updated.lookup requestId)))

section Moves

variable {digests : MarkerDigests} {projectRoot requestId : String}
  {R : Tape ServiceWrite Service → Tape ServiceWrite Service → Prop}

namespace WritesOf

section

variable (writes : WritesOf digests projectRoot requestId R)
include writes

theorem callStore (operation : Operation) (tape : Tape ServiceWrite Service) :
    (callStore operation projectRoot requestId).Moves R tape := by
  refine moves_check_bind writes.refl (fun _ _ => moves_read_bind ?_)
  split
  · exact moves_check writes.refl _ _
  refine moves_check_bind writes.refl (fun record _ => ?_)
  refine moves_bind writes.trans (writes.record tape record) (fun _ middle _ => ?_)
  refine moves_check_bind writes.refl (fun updated _ => ?_)
  exact moves_bind_pure writes.refl writes.trans (writes.record middle updated)

theorem clearMarkers (tape : Tape ServiceWrite Service) :
    (clearMarkers digests requestId).Moves R tape := by
  refine moves_bind writes.trans (writes.removal tape _ (.inr rfl)) ?_
  exact fun _ middle _ => writes.removal middle _ (.inl rfl)

theorem clearTerminalMarkers (tape : Tape ServiceWrite Service) :
    (clearTerminalMarkers digests requestId).Moves R tape := by
  refine moves_bind writes.trans (writes.removal tape _ (.inl rfl)) ?_
  exact fun _ middle _ => writes.removal middle _ (.inr rfl)

theorem writeTakeover (expectedOwnerEpoch : Option String) (newOwnerEpoch : String)
    (tape : Tape ServiceWrite Service) :
    (writeTakeover digests requestId expectedOwnerEpoch newOwnerEpoch).Moves R tape := by
  refine moves_read_bind ?_
  split
  · exact moves_check writes.refl _ _
  next found updated success => exact writes.takeover tape _ _ found updated success

theorem takeoverIndexEntry (expectedOwnerEpoch : Option String) (newOwnerEpoch : String)
    (tape : Tape ServiceWrite Service) :
    (takeoverIndexEntry digests requestId expectedOwnerEpoch newOwnerEpoch).Moves R tape := by
  refine moves_bind writes.trans ?_ ?_
  · exact moves_attempt (writes.writeTakeover expectedOwnerEpoch newOwnerEpoch tape)
  intro moved middle _
  cases moved with
  | ok => exact moves_pure writes.refl _ _
  | error error =>
    dsimp only
    split
    · exact moves_check writes.refl _ _
    · exact writes.writeTakeover none newOwnerEpoch middle

end

variable {gateway : RecoveringService} {pass : RecoveryPass}

theorem cancelStaleRequest (writes : WritesOf gateway.digests projectRoot requestId R)
    (record : Record) (recordEpoch : Option String) (tape : Tape ServiceWrite Service) :
    (cancelStaleRequest gateway pass projectRoot requestId record recordEpoch).Moves R tape := by
  refine moves_bind writes.trans (writes.callStore _ tape) (fun _ middle _ => ?_)
  refine moves_bind writes.trans (writes.callStore _ middle) (fun _ last _ => ?_)
  exact moves_bind_pure writes.refl writes.trans (writes.clearTerminalMarkers last)

theorem interruptStaleRequest (writes : WritesOf gateway.digests projectRoot requestId R)
    (record : Record) (recordEpoch : Option String) (tape : Tape ServiceWrite Service) :
    (interruptStaleRequest gateway pass projectRoot requestId record recordEpoch).Moves R
      tape := by
  refine moves_bind writes.trans (writes.callStore _ tape) (fun _ middle _ => ?_)
  refine moves_bind writes.trans (writes.callStore _ middle) (fun _ last _ => ?_)
  split
  · exact moves_bind_pure writes.refl writes.trans (writes.clearTerminalMarkers last)
  · exact moves_pure writes.refl _ _

theorem adoptRecord (writes : WritesOf digests projectRoot requestId R) (record : Record)
    (recordEpoch workerId : Option String) (tape : Tape ServiceWrite Service) :
    (adoptRecord pass projectRoot requestId record recordEpoch workerId).Moves R tape := by
  refine moves_bind writes.trans (moves_attempt (writes.callStore _ tape)) ?_
  intro claimed middle _
  cases claimed with
  | ok updated => exact moves_pure writes.refl _ _
  | error error =>
    dsimp only
    split
    · exact moves_check writes.refl _ _
    · refine moves_read_bind (moves_check_bind writes.refl (fun current _ => ?_))
      refine moves_check_bind writes.refl (fun _ _ => ?_)
      exact moves_pure writes.refl _ _

theorem adoptStaleRequest (writes : WritesOf gateway.digests projectRoot requestId R)
    (record : Record) (recordEpoch : Option String) (tape : Tape ServiceWrite Service) :
    (adoptStaleRequest gateway pass projectRoot requestId record recordEpoch).Moves R tape := by
  refine moves_bind writes.trans (writes.adoptRecord record recordEpoch _ tape) ?_
  intro updated middle _
  refine moves_bind writes.trans (writes.takeoverIndexEntry recordEpoch _ middle) ?_
  intro _ last _
  exact moves_bind_pure writes.refl writes.trans (writes.active last _)

theorem takeoverStaleRequest (writes : WritesOf gateway.digests projectRoot requestId R)
    (recordEpoch : Option String) (tape : Tape ServiceWrite Service) :
    (takeoverStaleRequest gateway pass projectRoot requestId recordEpoch).Moves R tape := by
  refine moves_read_bind ?_
  split
  · exact moves_pure writes.refl _ _
  next record _ =>
    split
    · exact moves_bind_pure writes.refl writes.trans (writes.clearMarkers tape)
    split
    · exact writes.cancelStaleRequest record recordEpoch tape
    · split
      · exact writes.interruptStaleRequest record recordEpoch tape
      · exact writes.adoptStaleRequest record recordEpoch tape

end WritesOf

end Moves

theorem parseEntry_object {digests : MarkerDigests} {file : MarkerFile} {raw : MarkerObject}
    {entry : WorkIndexEntry} (parsed : parseEntry digests file = .ok (raw, entry)) :
    file = .object raw := by
  simp only [parseEntry, bind_eq_ok] at parsed
  obtain ⟨content, read, other, _, same⟩ := parsed
  cases same
  cases file with
  | unreadable | notObject => cases read
  | object inner =>
    simp only [readRawEntry] at read
    split at read
    · cases read
      rfl
    · cases read

/-- What a takeover leaves under the name of the entry is the entry that was there, with
another owner. -/
theorem takeoverOwner_lookup {digests : MarkerDigests} {markers updated : Markers}
    {requestId newOwnerEpoch : String} {expectedOwnerEpoch : Option String} {found : Bool}
    {file : MarkerFile}
    (success : takeoverOwner digests markers requestId expectedOwnerEpoch newOwnerEpoch =
      .ok (found, updated)) (there : updated.lookup requestId = some file) :
    ∃ raw, markers.lookup requestId = some (.object raw) ∧
      file = .object { raw with ownerEpoch := newOwnerEpoch } ∧
      ∃ pair, parseEntry digests (.object raw) = .ok pair := by
  rw [takeoverOwner] at success
  rcases eq_none_or_eq_some (markers.lookup requestId) with missing | ⟨old, present⟩
  · rw [missing] at success
    cases success
    rw [missing] at there
    cases there
  · rw [present] at success
    dsimp only at success
    cases parsed : parseEntry digests old with
    | error reason =>
      rw [parsed] at success
      cases success
      rw [lookup_erase_eq, if_pos rfl] at there
      cases there
    | ok pair =>
      obtain ⟨raw, entry⟩ := pair
      rw [parsed] at success
      simp only [refuse_bind_eq_ok] at success
      cases success.2
      rw [lookup_insert_eq, if_pos rfl] at there
      cases there
      have object := parseEntry_object parsed
      subst object
      exact ⟨raw, present, rfl, _, parsed⟩

/-- **The recovery of a request is confined to it.** -/
theorem confined_writesOf (digests : MarkerDigests) {projectRoot requestId : String}
    (root : projectRoot ≠ "") (named : requestId ≠ "") :
    WritesOf digests projectRoot requestId (fun before after =>
      Confined digests (projectRoot, requestId) before.store after.store) where
  refl := fun tape => Confined.refl tape.store
  trans := fun _ _ _ left right => left.trans right
  record := fun tape record => Confined.record tape.store record
  removal := fun tape _ own => Confined.removal tape.store own
  active := by
    intro tape ownerEpoch
    refine Confined.marker tape.store (.inr rfl) (.inr ⟨rfl, ?_⟩)
    simp [readEntry, present, root, named]
  takeover := by
    intro tape expectedOwnerEpoch newOwnerEpoch found updated success
    rcases eq_none_or_eq_some (updated.lookup requestId) with missing | ⟨file, there⟩
    · rw [missing]
      exact Confined.removal tape.store (.inl rfl)
    · rw [there]
      obtain ⟨raw, old, rfl, _⟩ := takeoverOwner_lookup success there
      exact Confined.marker tape.store (.inl rfl) (.inl ⟨.object raw, old, rfl⟩)

/-! ## What a takeover achieves -/

section Achieved

variable {gateway : RecoveringService} {pass : RecoveryPass} {projectRoot requestId : String}

variable {record : Record}

theorem readRecord_ok {service : Service} :
    service.readRecord projectRoot requestId = .ok record ↔
      service.records.lookup (projectRoot, requestId) = some record ∧ record.Valid := by
  rw [Service.readRecord]
  rcases eq_none_or_eq_some (service.records.lookup (projectRoot, requestId)) with
    missing | ⟨stored, found⟩
  · rw [missing]
    simp
  · rw [found]
    simp only [bind_eq_ok, Record.validate_eq_ok, exists_const, Option.some.injEq]
    constructor
    · rintro ⟨valid, same⟩
      cases same
      exact ⟨rfl, valid⟩
    · rintro ⟨rfl, valid⟩
      exact ⟨valid, rfl⟩

variable {tape after : Tape ServiceWrite Service} {updated : Record}

theorem callStore_ok {operation : Operation}
    (returned : (callStore operation projectRoot requestId).run tape = (.ok updated, after)) :
    ∃ stored, tape.store.records.lookup (projectRoot, requestId) = some stored ∧
      operation.body stored.migrate = .ok updated ∧
      after.store.records.lookup (projectRoot, requestId) = some updated := by
  simp only [callStore, check_bind_eq_ok] at returned
  obtain ⟨_, _, returned⟩ := returned
  rw [run_read_bind] at returned
  rcases eq_none_or_eq_some (tape.store.records.lookup (projectRoot, requestId)) with
    missing | ⟨stored, found⟩
  · rw [missing] at returned
    cases returned
  · rw [found] at returned
    obtain ⟨record, read, returned⟩ := check_bind_eq_ok.mp returned
    obtain ⟨_, rfl⟩ := Record.readLocked_eq_ok.mp read
    obtain ⟨_, middle, _, returned⟩ := Script.bind_eq_ok.mp returned
    obtain ⟨result, body, returned⟩ := check_bind_eq_ok.mp returned
    obtain ⟨_, last, wrote, returned⟩ := Script.bind_eq_ok.mp returned
    cases returned
    cases wrote
    refine ⟨stored, found, body, ?_⟩
    exact (Service.lookup_apply_record _ _ _ _ _).trans (if_pos rfl)

theorem callStore_failed {operation : Operation} {error : GatewayError} {current : Record}
    (raised : (callStore operation projectRoot requestId).run tape = (.error error, after))
    (there : after.store.records.lookup (projectRoot, requestId) = some current) :
    ∃ stored, tape.store.records.lookup (projectRoot, requestId) = some stored ∧
      current.state = stored.state := by
  cases passed : operation.preflight with
  | error failure =>
    simp only [callStore, passed, Script.run_check_error_bind] at raised
    cases raised
    exact ⟨current, there, rfl⟩
  | ok done =>
    simp only [callStore, passed, Script.run_check_ok_bind, run_read_bind] at raised
    rcases eq_none_or_eq_some (tape.store.records.lookup (projectRoot, requestId)) with
      missing | ⟨stored, found⟩
    · rw [missing] at raised
      cases raised
      exact ⟨current, there, rfl⟩
    · refine ⟨stored, found, ?_⟩
      rw [found] at raised
      dsimp only at raised
      cases read : stored.readLocked with
      | error failure =>
        rw [read, Script.run_check_error_bind] at raised
        cases raised
        rw [found] at there
        cases there
        rfl
      | ok record =>
        obtain ⟨_, rfl⟩ := Record.readLocked_eq_ok.mp read
        rw [read, Script.run_check_ok_bind] at raised
        cases body : operation.body stored.migrate with
        | error failure =>
          rw [body] at raised
          cases raised
          change (tape.store.apply (.record projectRoot requestId
            stored.migrate)).records.lookup _ = _ at there
          rw [Service.lookup_apply_record, if_pos rfl] at there
          cases there
          rfl
        | ok updated =>
          rw [body] at raised
          cases raised

variable {recordEpoch : Option String}

/-- A takeover of an open record makes the live epoch its owner and keeps its state. -/
theorem staleTakeover_ok {stored : Record} {workerId : Option String}
    (open_ : stored.state.isTerminal = false)
    (taken : (staleTakeover pass record recordEpoch workerId).body stored.migrate = .ok updated) :
    updated.dispatchOwnerEpoch = some pass.liveOwnerEpoch ∧ updated.state = stored.state := by
  simp only [staleTakeover, takeoverNonterminalOwner] at taken
  split at taken
  next other =>
    have terminal : stored.state.isTerminal = true := by
      have states : stored.state ≠ .queued ∧ stored.state ≠ .running := other
      cases state : stored.state <;> simp_all [RequestState.isTerminal]
    rw [open_] at terminal
    cases terminal
  next =>
    simp only [refuse_bind_eq_ok] at taken
    obtain ⟨_, taken⟩ := taken
    split at taken
    next owned =>
      cases taken
      exact ⟨owned, rfl⟩
    next =>
      rw [Record.write_eq_redact taken]
      exact ⟨rfl, rfl⟩

theorem transitionOwnedTerminal_state {projections : Projections} {newState : RequestState}
    {identity : OwnedIdentity} {updates : List Update} {expectedRevision : Option Int}
    {now : Timestamp}
    (written : (transitionOwnedTerminal projections requestId newState identity updates
      expectedRevision now).body record = .ok updated) : updated.state = newState := by
  simp only [transitionOwnedTerminal, transitionRecord, bind_eq_ok] at written
  obtain ⟨_, _, _, _, written⟩ := written
  rw [Record.write_eq_redact written]
  exact (transitioned_sameFence projections record newState _ now).state

def SameRecords (before after : Tape ServiceWrite Service) : Prop :=
  after.store.records = before.store.records

theorem sameRecords_trans (first second third : Tape ServiceWrite Service)
    (left : SameRecords first second) (right : SameRecords second third) :
    SameRecords first third :=
  Eq.trans right left

theorem putWrite_marker_sameRecords (name : String) (file : Option MarkerFile)
    (tape : Tape ServiceWrite Service) :
    (putWrite (.marker name file)).Moves SameRecords tape :=
  Service.records_apply_marker tape.store name file

theorem clearTerminalMarkers_sameRecords (digests : MarkerDigests)
    (tape : Tape ServiceWrite Service) :
    (clearTerminalMarkers digests requestId).Moves SameRecords tape :=
  moves_bind sameRecords_trans (putWrite_marker_sameRecords _ _ tape)
    (fun _ middle _ => putWrite_marker_sameRecords _ _ middle)

theorem writeTakeover_sameRecords (digests : MarkerDigests) (expectedOwnerEpoch : Option String)
    (newOwnerEpoch : String) (tape : Tape ServiceWrite Service) :
    (writeTakeover digests requestId expectedOwnerEpoch newOwnerEpoch).Moves SameRecords tape := by
  refine moves_read_bind ?_
  split
  · exact moves_check (R := SameRecords) (fun _ => rfl) _ _
  · exact putWrite_marker_sameRecords _ _ tape

theorem takeoverIndexEntry_sameRecords (digests : MarkerDigests)
    (expectedOwnerEpoch : Option String) (newOwnerEpoch : String)
    (tape : Tape ServiceWrite Service) :
    (takeoverIndexEntry digests requestId expectedOwnerEpoch newOwnerEpoch).Moves SameRecords
      tape := by
  refine moves_bind sameRecords_trans (moves_attempt
    (writeTakeover_sameRecords digests expectedOwnerEpoch newOwnerEpoch tape)) ?_
  intro moved middle _
  cases moved with
  | ok => exact moves_pure (R := SameRecords) (fun _ => rfl) _ _
  | error error =>
    dsimp only
    split
    · exact moves_check (R := SameRecords) (fun _ => rfl) _ _
    · exact writeTakeover_sameRecords digests none newOwnerEpoch middle

theorem lookup_of_sameRecords {α : Type} {script : ServiceScript α} {result : Except GatewayError α}
    (same : script.Moves SameRecords tape) (returned : script.run tape = (result, after))
    (key : String × String) : after.store.records.lookup key = tape.store.records.lookup key := by
  exact congrArg (fun records => AList.lookup key records) (same.of_run returned)

def Recovered (pass : RecoveryPass) (state : Option RequestState) (written : Record) : Prop :=
  written.state.isTerminal = true ∨
    (written.dispatchOwnerEpoch = some pass.liveOwnerEpoch ∧ state = some written.state ∧
      written.state.isTerminal = false)

variable {state : Option RequestState}

theorem cancelStaleRequest_ok
    (returned : (cancelStaleRequest gateway pass projectRoot requestId record recordEpoch).run
      tape = (.ok state, after)) :
    ∃ written, after.store.records.lookup (projectRoot, requestId) = some written ∧
      Recovered pass state written := by
  obtain ⟨updated, middle, _, returned⟩ := Script.bind_eq_ok.mp returned
  obtain ⟨cancelled, last, wrote, returned⟩ := Script.bind_eq_ok.mp returned
  obtain ⟨_, final, cleared, returned⟩ := Script.bind_eq_ok.mp returned
  cases returned
  obtain ⟨stored, _, body, found⟩ := callStore_ok wrote
  refine ⟨cancelled, ?_, .inl ?_⟩
  · rw [lookup_of_sameRecords (clearTerminalMarkers_sameRecords _ last) cleared]
    exact found
  · rw [transitionOwnedTerminal_state body]
    rfl

theorem interruptStaleRequest_ok
    (returned : (interruptStaleRequest gateway pass projectRoot requestId record recordEpoch).run
      tape = (.ok state, after)) :
    ∃ written, after.store.records.lookup (projectRoot, requestId) = some written ∧
      Recovered pass state written := by
  obtain ⟨updated, middle, _, returned⟩ := Script.bind_eq_ok.mp returned
  obtain ⟨interrupted, last, wrote, returned⟩ := Script.bind_eq_ok.mp returned
  obtain ⟨stored, _, body, found⟩ := callStore_ok wrote
  have terminal : interrupted.state.isTerminal = true := by
    rw [transitionOwnedTerminal_state body]
    rfl
  split at returned
  · obtain ⟨_, final, cleared, returned⟩ := Script.bind_eq_ok.mp returned
    cases returned
    refine ⟨interrupted, ?_, .inl terminal⟩
    rw [lookup_of_sameRecords (clearTerminalMarkers_sameRecords _ last) cleared]
    exact found
  · cases returned
    exact ⟨interrupted, found, .inl terminal⟩

theorem adoptRecord_ok {workerId : Option String}
    (open_ : ∀ stored, tape.store.records.lookup (projectRoot, requestId) = some stored →
      stored.state.isTerminal = false)
    (returned : (adoptRecord pass projectRoot requestId record recordEpoch workerId).run tape =
      (.ok updated, after)) :
    after.store.records.lookup (projectRoot, requestId) = some updated ∧
      updated.dispatchOwnerEpoch = some pass.liveOwnerEpoch ∧
      updated.state.isTerminal = false := by
  obtain ⟨claimed, middle, attempted, returned⟩ := Script.bind_eq_ok.mp returned
  cases claimed with
  | ok taken =>
    cases returned
    obtain ⟨stored, found, body, wrote⟩ := callStore_ok (Script.attempt_eq.mp attempted)
    obtain ⟨owner, state⟩ := staleTakeover_ok (open_ stored found) body
    exact ⟨wrote, owner, state ▸ open_ stored found⟩
  | error error =>
    dsimp only at returned
    split at returned
    · cases returned
    rw [run_read_bind] at returned
    obtain ⟨current, read, returned⟩ := check_bind_eq_ok.mp returned
    obtain ⟨owned, returned⟩ := Script.refuse_bind_eq_ok.mp returned
    cases returned
    obtain ⟨there, _⟩ := readRecord_ok.mp read
    obtain ⟨stored, found, state⟩ := callStore_failed (Script.attempt_eq.mp attempted) there
    exact ⟨there, not_not.mp owned, state ▸ open_ stored found⟩

theorem adoptStaleRequest_ok
    (open_ : ∀ stored, tape.store.records.lookup (projectRoot, requestId) = some stored →
      stored.state.isTerminal = false)
    (returned : (adoptStaleRequest gateway pass projectRoot requestId record recordEpoch).run
      tape = (.ok state, after)) :
    ∃ written, after.store.records.lookup (projectRoot, requestId) = some written ∧
      Recovered pass state written := by
  obtain ⟨updated, middle, adopted, returned⟩ := Script.bind_eq_ok.mp returned
  obtain ⟨_, last, moved, returned⟩ := Script.bind_eq_ok.mp returned
  obtain ⟨_, final, marked, returned⟩ := Script.bind_eq_ok.mp returned
  cases returned
  obtain ⟨found, owner, isOpen⟩ := adoptRecord_ok open_ adopted
  refine ⟨updated, ?_, .inr ⟨owner, rfl, isOpen⟩⟩
  rw [lookup_of_sameRecords (putWrite_marker_sameRecords _ _ last) marked,
    lookup_of_sameRecords (takeoverIndexEntry_sameRecords _ _ _ middle) moved]
  exact found

/-- **What a returning takeover achieves** for a readable open request. -/
theorem takeoverStaleRequest_ok (read : tape.store.readRecord projectRoot requestId = .ok record)
    (open_ : record.state.isTerminal = false)
    (returned : (takeoverStaleRequest gateway pass projectRoot requestId recordEpoch).run tape =
      (.ok state, after)) :
    ∃ written, after.store.records.lookup (projectRoot, requestId) = some written ∧
      Recovered pass state written := by
  rw [takeoverStaleRequest, run_read_bind, read] at returned
  dsimp only at returned
  rw [if_neg (by rw [open_]; exact Bool.false_ne_true)] at returned
  split at returned
  · exact cancelStaleRequest_ok returned
  split at returned
  · exact interruptStaleRequest_ok returned
  refine adoptStaleRequest_ok (fun stored found => ?_) returned
  rw [(readRecord_ok.mp read).1] at found
  cases found
  exact open_

end Achieved

end Audiagentic.Gateway
