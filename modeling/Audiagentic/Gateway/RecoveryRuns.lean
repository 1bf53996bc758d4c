import Audiagentic.Gateway.Admission
import Audiagentic.Gateway.FencedCalls
import Audiagentic.Gateway.RecoveryProgress

/-!
# Recovery after any run of a service

A service runs through admissions, claims, starts, store operations, takeovers, terminal writes
and recovery passes, each of which can stop after any of its durable writes.  After every such
run the markers fit their names, so a pass that returns settles every open request that had a
marker, if the pass can find it.
-/

namespace Audiagentic.Gateway

open Foundations List Option
open Script (keeps_refl keeps_trans moves_bind moves_bind_pure moves_check_bind moves_dropped
  moves_pure moves_read_bind)

/-! ## Calls -/

structure RequestKey where
  projectRoot : String
  requestId : String
  root : projectRoot ≠ ""
  named : requestId ≠ ""

section Calls

variable (gateway : RecoveringService) (request : RequestKey)

/-- `admit_record` of a fresh request, from the candidate with its key digest and its ordinal:
the record, and then the entry. -/
def admitFresh (candidate : Record) (now : Timestamp) : ServiceScript Record := do
  let payload :=
    { candidate with admission := { candidate.admission with requestId := request.requestId } }
  Script.check (checkNodeTarget payload.admission)
  Script.check (payload.validate "VAL-AGW-002")
  let tape ← Script.read
  Script.check (refuse (∃ previous ∈
      tape.store.records.lookup (request.projectRoot, request.requestId),
      previous.admission.nodeAdmission ≠ payload.admission.nodeAdmission)
    (agentsError "VAL-AGW-098" "Node admission descriptor is immutable after record creation"))
  putWrite (.record request.projectRoot request.requestId payload.redactForPersistence)
  putWrite (.marker request.requestId (some (.object
    (newEntry gateway.digests request.projectRoot request.requestId .admitted none none now))))
  return payload

/-- `update_work_index_phase`, as a write. -/
def writePhase (requestId : String) (fromPhase toPhase : Phase) (ownerEpoch : Option String)
    (now : Timestamp) : ServiceScript Bool := do
  let tape ← Script.read
  match updateWorkIndexPhase gateway.digests tape.store.markers requestId fromPhase toPhase
      ownerEpoch now with
  | .error error => Script.check (.error error)
  | .ok (found, markers) => do
    putWrite (.marker requestId (markers.lookup requestId))
    return found

def writeClaimMarkers (ownerEpoch : String) (now : Timestamp) (wrote : Bool) :
    ServiceScript Unit := do
  putWrite (activeWorkMarker gateway.digests request.projectRoot request.requestId ownerEpoch)
  if wrote = false then return ()
  else do
    let found ← writePhase gateway request.requestId .admitted .claimed (some ownerEpoch) now
    if found = true then return ()
    else putWrite (.marker request.requestId (some (.object (newEntry gateway.digests
      request.projectRoot request.requestId .claimed (some ownerEpoch) none now))))

def writeStartPhase (record : Record) (wrote : Bool) (ownerEpoch : Option String)
    (now : Timestamp) : ServiceScript Unit := do
  if wrote = true ∧ record.dispatchServiceRoot = some gateway.serviceRoot then
    (writePhase gateway request.requestId .claimed .running ownerEpoch now).dropped
  else return ()

def writeFencedMarkers (record : Record) (wrote : Bool) : FencedRequest → ServiceScript Unit
  | .claimDispatch ownerEpoch _ serviceRoot now =>
    if serviceRoot = some gateway.serviceRoot then
      writeClaimMarkers gateway request ownerEpoch now wrote
    else return ()
  | .startOwnedAttempt ownerEpoch _ _ now =>
    writeStartPhase gateway request record wrote ownerEpoch now
  | .startOwnedSessionAttempt identity now =>
    writeStartPhase gateway request record wrote identity.ownerEpoch now

/-- `claim_dispatch`, `start_owned_attempt` or `start_owned_session_attempt`. -/
def callFenced (fenced : FencedRequest) : ServiceScript Record := do
  let call := fenced.call gateway.digests request.projectRoot {}
  Script.check call.preflight
  let tape ← Script.read
  match tape.store.records.lookup (request.projectRoot, request.requestId) with
  | none => Script.check (.error (Service.requestNotFound request.requestId))
  | some stored => do
    let record ← Script.check stored.readLocked
    putWrite (.record request.projectRoot request.requestId record)
    let (wrote, updated) ← Script.check (call.body record)
    putWrite (.record request.projectRoot request.requestId updated)
    writeFencedMarkers gateway request record wrote fenced
    return updated

/-- `transition_owned_terminal`.  The cleanup goes to the service root of the call, or else to
the one that the record names. -/
def finishOwned (newState : RequestState) (identity : OwnedIdentity) (updates : List Update)
    (expectedRevision : Option Int) (serviceRoot : Option String) (now : Timestamp) :
    ServiceScript Record := do
  let updated ← callStore (transitionOwnedTerminal gateway.projections request.requestId newState
    identity updates expectedRevision now) request.projectRoot request.requestId
  if serviceRoot.or updated.dispatchServiceRoot = some gateway.serviceRoot then do
    clearTerminalMarkers gateway.digests request.requestId
    return updated
  else return updated

end Calls

inductive ServiceCall where
  | admission (request : RequestKey) (candidate : Record) (now : Timestamp)
  | fenced (request : RequestKey) (call : FencedRequest)
  | finish (request : RequestKey) (newState : RequestState) (identity : OwnedIdentity)
      (updates : List Update) (expectedRevision : Option Int) (serviceRoot : Option String)
      (now : Timestamp)
  /-- A store operation that leaves the markers of this service root alone. -/
  | store (request : RequestKey) (op : StoreOp)
  | takeover (request : RequestKey) (recordEpoch : Option String) (pass : RecoveryPass)
  | recover (pass : RecoveryPass)

/-- A call, and the number of durable writes after which the process stops. -/
structure ServiceEvent where
  call : ServiceCall
  made : Nat

section Steps

variable (gateway : RecoveringService) (hashing : Hashing)

def ServiceCall.script : ServiceCall → ServiceScript Unit
  | .admission request candidate now => (admitFresh gateway request candidate now).dropped
  | .fenced request call => (callFenced gateway request call).dropped
  | .finish request newState identity updates expectedRevision serviceRoot now =>
    (finishOwned gateway request newState identity updates expectedRevision serviceRoot now).dropped
  | .store request op =>
    (callStore (op.operation gateway.projections hashing) request.projectRoot
      request.requestId).dropped
  | .takeover request recordEpoch pass =>
    (takeoverStaleRequest gateway pass request.projectRoot request.requestId recordEpoch).dropped
  | .recover pass => (recoverGatewayRequests gateway pass).dropped

def serviceStep (service : Service) (event : ServiceEvent) : Service :=
  (event.call.script gateway hashing).crash Service.apply service event.made

end Steps

/-! ## The markers of a run -/

def ServiceWrite.Fits (digests : MarkerDigests) : ServiceWrite → Prop
  | .marker name (some file) => MarkerFits digests name file
  | _ => True

variable {digests : MarkerDigests}

theorem sound_apply (entry : ServiceWrite) (service : Service) (fits : entry.Fits digests)
    (sound : service.Sound digests) : (service.apply entry).Sound digests := by
  cases entry with
  | record projectRoot requestId record => exact sound
  | marker written content =>
    intro name file found
    rw [service.lookup_apply_marker] at found
    split at found
    next same =>
      subst found
      rw [same]
      exact fits
    next => exact sound name file found

theorem parseEntry_valid {raw : MarkerObject} :
    (∃ pair, parseEntry digests (.object raw) = .ok pair) ↔
      (present raw.requestId = true ∧ present raw.projectRoot = true ∧
        present raw.phase = true) ∧ (Phase.ofText? (raw.phase.getD "")).isSome = true ∧
        ¬ (present raw.projectRootDigest = true ∧
          raw.projectRootDigest ≠ some (digests.projectRoot (raw.projectRoot.getD ""))) := by
  constructor
  · rintro ⟨pair, parsed⟩
    simp only [parseEntry, bind_eq_ok] at parsed
    obtain ⟨content, read, entry, valid, _⟩ := parsed
    simp only [readRawEntry] at read
    split at read
    next fields =>
      cases read
      simp only [validateWorkIndexEntry, refuse_bind_eq_ok] at valid
      obtain ⟨_, _, valid⟩ := valid
      split at valid
      next => cases valid
      next phase known =>
        refine ⟨fields, ?_, (refuse_bind_eq_ok.mp valid).1⟩
        rw [known]
        rfl
    next => cases read
  · rintro ⟨fields, known, digest⟩
    obtain ⟨phase, known⟩ := isSome_iff_exists.mp known
    have valid : ∃ entry, validateWorkIndexEntry digests raw = .ok entry := by
      simp only [validateWorkIndexEntry, refuse_bind_eq_ok, known]
      exact ⟨_, by simp [fields.1], by simp [fields.2.1], digest, rfl⟩
    obtain ⟨entry, valid⟩ := valid
    exact ⟨(raw, entry), bind_eq_ok.mpr ⟨raw, if_pos fields, bind_eq_ok.mpr ⟨entry, valid, rfl⟩⟩⟩

theorem ofText?_text {phase : Phase} (listed : phase ≠ .terminalCleanup) :
    Phase.ofText? phase.text = some phase := by
  cases phase with
  | admitted => rfl
  | claimed => rfl
  | running => rfl
  | terminalCleanup => exact absurd rfl listed

theorem present_text (phase : Phase) : present (some phase.text) = true := by
  cases phase <;> rfl

/-- An entry keeps fitting its name when it stays valid and about the same request. -/
theorem MarkerFits.rewritten {name : String} {raw updated : MarkerObject}
    (fits : MarkerFits digests name (.object raw))
    (same : readEntry (.object updated) = readEntry (.object raw))
    (valid : ∃ pair, parseEntry digests (.object updated) = .ok pair) :
    MarkerFits digests name (.object updated) := by
  obtain ⟨key, names, place⟩ := fits
  exact ⟨key, same.trans names, place.imp_right fun entry => ⟨entry.1, valid⟩⟩

theorem newEntry_fits (digests : MarkerDigests) (request : RequestKey) {phase : Phase}
    (listed : phase ≠ .terminalCleanup) (ownerEpoch laneKey : Option String) (now : Timestamp) :
    MarkerFits digests request.requestId (.object (newEntry digests request.projectRoot
      request.requestId phase ownerEpoch laneKey now)) := by
  have root : present (some request.projectRoot) = true := by simp [present, request.root]
  have named : present (some request.requestId) = true := by simp [present, request.named]
  refine ⟨(request.projectRoot, request.requestId), if_pos ⟨named, root⟩, .inr ⟨rfl, ?_⟩⟩
  refine parseEntry_valid.mpr ⟨⟨named, root, present_text phase⟩, ?_, fun mismatch =>
    mismatch.2 rfl⟩
  change (Phase.ofText? phase.text).isSome = true
  rw [ofText?_text listed]
  rfl

variable {requestId : String}

theorem takeoverOwner_fits {service : Service} {updated : Markers} {newOwnerEpoch : String}
    {expectedOwnerEpoch : Option String} {found : Bool} (sound : service.Sound digests)
    (success : takeoverOwner digests service.markers requestId expectedOwnerEpoch newOwnerEpoch =
      .ok (found, updated)) :
    (ServiceWrite.marker requestId (updated.lookup requestId)).Fits digests := by
  rcases eq_none_or_eq_some (updated.lookup requestId) with missing | ⟨file, there⟩
  · rw [missing]
    trivial
  rw [there]
  obtain ⟨raw, old, rfl, valid⟩ := takeoverOwner_lookup success there
  have fields := parseEntry_valid.mp valid
  exact (sound _ _ old).rewritten rfl (parseEntry_valid.mpr fields)

theorem updateWorkIndexPhase_fits {service : Service} {updated : Markers}
    {fromPhase toPhase : Phase} {ownerEpoch : Option String} {now : Timestamp} {found : Bool}
    (listed : toPhase ≠ .terminalCleanup) (sound : service.Sound digests)
    (success : updateWorkIndexPhase digests service.markers requestId fromPhase toPhase ownerEpoch
      now = .ok (found, updated)) :
    (ServiceWrite.marker requestId (updated.lookup requestId)).Fits digests := by
  rw [updateWorkIndexPhase] at success
  rcases eq_none_or_eq_some (service.markers.lookup requestId) with missing | ⟨old, there⟩
  · rw [missing] at success
    cases success
    rw [missing]
    trivial
  · rw [there] at success
    dsimp only at success
    cases parsed : parseEntry digests old with
    | error reason =>
      rw [parsed] at success
      cases success
      rw [Dict.lookup_erase_eq, if_pos rfl]
      trivial
    | ok pair =>
      obtain ⟨raw, entry⟩ := pair
      rw [parsed] at success
      obtain ⟨_, _, success⟩ := bind_eq_ok.mp success
      cases success
      rw [Dict.lookup_insert_eq, if_pos rfl]
      have object := parseEntry_object parsed
      subst object
      obtain ⟨fields, _, digest⟩ := parseEntry_valid.mp ⟨_, parsed⟩
      have known : (Phase.ofText? toPhase.text).isSome = true := by
        rw [ofText?_text listed]
        rfl
      have valid : ∃ pair, parseEntry digests
          (.object (phaseUpdated raw toPhase ownerEpoch now)) = .ok pair := by
        rw [phaseUpdated]
        split
        all_goals
          exact parseEntry_valid.mpr ⟨⟨fields.1, fields.2.1, present_text toPhase⟩, known, digest⟩
      refine (sound _ _ there).rewritten ?_ valid
      rw [phaseUpdated]
      split <;> rfl

/-! ## Every call keeps the markers fitting -/

/-- Only fitting markers are written. -/
abbrev KeepsSound (digests : MarkerDigests) :
    Tape ServiceWrite Service → Tape ServiceWrite Service → Prop :=
  Script.Keeps (ServiceWrite.Fits digests) (Service.Sound digests)

section Sound

variable {gateway : RecoveringService} {pass : RecoveryPass}

theorem putWrite_keeps {entry : ServiceWrite} {tape : Tape ServiceWrite Service}
    (fits : tape.store.Sound digests → entry.Fits digests) :
    (putWrite entry).Moves (KeepsSound digests) tape :=
  Script.moves_put_keeps sound_apply fits

/-- **The recovery of a request keeps the markers fitting.** -/
theorem keeps_writesOf (digests : MarkerDigests) {projectRoot : String} (root : projectRoot ≠ "")
    (named : requestId ≠ "") : WritesOf digests projectRoot requestId (KeepsSound digests) where
  refl := keeps_refl
  trans := keeps_trans
  record := fun _ _ => putWrite_keeps fun _ => trivial
  removal := fun _ _ _ => putWrite_keeps fun _ => trivial
  active := by
    intro tape ownerEpoch
    refine putWrite_keeps fun _ => ⟨(projectRoot, requestId), ?_, .inl rfl⟩
    simp [readEntry, present, root, named]
  takeover := fun tape _ _ _ _ success =>
    putWrite_keeps fun sound => takeoverOwner_fits sound success

theorem writePhase_keeps {fromPhase toPhase : Phase} (listed : toPhase ≠ .terminalCleanup)
    (ownerEpoch : Option String) (now : Timestamp) (tape : Tape ServiceWrite Service) :
    (writePhase gateway requestId fromPhase toPhase ownerEpoch now).Moves
      (KeepsSound gateway.digests) tape := by
  refine moves_read_bind ?_
  split
  · exact Script.moves_check keeps_refl _ _
  next found markers success =>
    refine moves_bind keeps_trans ?_ (fun _ _ _ => ?_)
    · exact putWrite_keeps fun sound => updateWorkIndexPhase_fits listed sound success
    · exact moves_pure keeps_refl _ _

section Calls

variable {request : RequestKey}

theorem admitFresh_keeps (candidate : Record) (now : Timestamp)
    (tape : Tape ServiceWrite Service) :
    (admitFresh gateway request candidate now).Moves (KeepsSound gateway.digests) tape := by
  refine moves_check_bind keeps_refl (fun _ _ => ?_)
  refine moves_check_bind keeps_refl (fun _ _ => moves_read_bind ?_)
  refine moves_check_bind keeps_refl (fun _ _ => ?_)
  refine moves_bind keeps_trans (putWrite_keeps fun _ => trivial) ?_
  intro _ middle _
  refine moves_bind keeps_trans (putWrite_keeps fun _ => ?_) (fun _ _ _ => ?_)
  · exact newEntry_fits gateway.digests request (by decide) none none now
  · exact moves_pure keeps_refl _ _

theorem writeClaimMarkers_keeps (ownerEpoch : String) (now : Timestamp) (wrote : Bool)
    (tape : Tape ServiceWrite Service) :
    (writeClaimMarkers gateway request ownerEpoch now wrote).Moves (KeepsSound gateway.digests)
      tape := by
  have writes := keeps_writesOf gateway.digests request.root request.named
  refine moves_bind keeps_trans (writes.active tape ownerEpoch) ?_
  intro _ middle _
  split
  · exact moves_pure keeps_refl _ _
  refine moves_bind keeps_trans (writePhase_keeps (by decide) _ _ middle) ?_
  intro found last _
  split
  · exact moves_pure keeps_refl _ _
  · exact putWrite_keeps fun _ => newEntry_fits gateway.digests request (by decide) _ none now

theorem writeStartPhase_keeps (record : Record) (wrote : Bool) (ownerEpoch : Option String)
    (now : Timestamp) (tape : Tape ServiceWrite Service) :
    (writeStartPhase gateway request record wrote ownerEpoch now).Moves
      (KeepsSound gateway.digests) tape := by
  rw [writeStartPhase]
  split
  · exact moves_dropped keeps_refl keeps_trans
      (writePhase_keeps (by decide) ownerEpoch now tape)
  · exact moves_pure keeps_refl _ _

theorem writeFencedMarkers_keeps (record : Record) (wrote : Bool) (call : FencedRequest)
    (tape : Tape ServiceWrite Service) :
    (writeFencedMarkers gateway request record wrote call).Moves (KeepsSound gateway.digests)
      tape := by
  cases call with
  | claimDispatch ownerEpoch expectedRevision serviceRoot now =>
    rw [writeFencedMarkers]
    split
    · exact writeClaimMarkers_keeps ownerEpoch now wrote tape
    · exact moves_pure keeps_refl _ _
  | startOwnedAttempt ownerEpoch workerId expectedRevision now =>
    exact writeStartPhase_keeps record wrote ownerEpoch now tape
  | startOwnedSessionAttempt identity now =>
    exact writeStartPhase_keeps record wrote identity.ownerEpoch now tape

theorem callFenced_keeps (call : FencedRequest) (tape : Tape ServiceWrite Service) :
    (callFenced gateway request call).Moves (KeepsSound gateway.digests) tape := by
  refine moves_check_bind keeps_refl (fun _ _ => moves_read_bind ?_)
  split
  · exact Script.moves_check keeps_refl _ _
  refine moves_check_bind keeps_refl (fun record _ => ?_)
  refine moves_bind keeps_trans (putWrite_keeps fun _ => trivial) ?_
  intro _ middle _
  refine moves_check_bind keeps_refl (fun outcome _ => ?_)
  refine moves_bind keeps_trans (putWrite_keeps fun _ => trivial) ?_
  intro _ last _
  refine moves_bind keeps_trans
    (writeFencedMarkers_keeps record outcome.1 call last) (fun _ _ _ => ?_)
  exact moves_pure keeps_refl _ _

theorem finishOwned_keeps (newState : RequestState) (identity : OwnedIdentity)
    (updates : List Update) (expectedRevision : Option Int) (serviceRoot : Option String)
    (now : Timestamp) (tape : Tape ServiceWrite Service) :
    (finishOwned gateway request newState identity updates expectedRevision serviceRoot
      now).Moves (KeepsSound gateway.digests) tape := by
  have writes := keeps_writesOf gateway.digests request.root request.named
  refine moves_bind keeps_trans (writes.callStore _ tape) ?_
  intro updated middle _
  split
  · exact moves_bind_pure keeps_refl keeps_trans
      (writes.clearTerminalMarkers middle)
  · exact moves_pure keeps_refl _ _

end Calls

theorem activeRound_keeps (name : String) (found : Discovery)
    (tape : Tape ServiceWrite Service) :
    (activeRound gateway pass name found).Moves (KeepsSound gateway.digests) tape := by
  have quarantines : ∀ next : Discovery, (putWrite (.marker name none) >>= fun _ =>
      (pure next : ServiceScript Discovery)).Moves (KeepsSound gateway.digests) tape := by
    intro next
    exact moves_bind_pure keeps_refl keeps_trans
      (putWrite_keeps fun _ => trivial)
  refine moves_read_bind ?_
  split
  next => exact quarantines _
  next => exact quarantines _
  next projectRoot requestId looked =>
    obtain ⟨file, _, names⟩ := map_eq_some_iff.mp looked
    obtain ⟨root, named⟩ := readEntry_present names
    have writes := keeps_writesOf gateway.digests root named
    have clears : ∀ next : Discovery, (clearMarkers gateway.digests requestId >>= fun _ =>
        (pure next : ServiceScript Discovery)).Moves (KeepsSound gateway.digests) tape := by
      intro next
      exact moves_bind_pure keeps_refl keeps_trans (writes.clearMarkers tape)
    dsimp only
    split
    · exact moves_pure keeps_refl _ _
    split
    · exact clears _
    split
    · exact moves_pure keeps_refl _ _
    split
    · exact clears _
    · exact moves_bind_pure keeps_refl keeps_trans
        (writes.takeoverStaleRequest _ tape)

theorem activeRounds_keeps (names : List String) (found : Discovery)
    (tape : Tape ServiceWrite Service) :
    (activeRounds gateway pass names found).Moves (KeepsSound gateway.digests) tape := by
  induction names generalizing found tape with
  | nil => exact moves_pure keeps_refl _ _
  | cons name names ih =>
    refine moves_bind keeps_trans (activeRound_keeps name found tape) ?_
    exact fun next middle _ => ih next middle

theorem recoverWorkIndexEntries_keeps (names : List String) (tape : Tape ServiceWrite Service) :
    (recoverWorkIndexEntries gateway names).Moves (KeepsSound gateway.digests) tape := by
  induction names generalizing tape with
  | nil => exact moves_pure keeps_refl _ _
  | cons name names ih =>
    refine moves_read_bind ?_
    split
    · exact moves_bind_pure keeps_refl keeps_trans (ih tape)
    refine moves_bind keeps_trans (putWrite_keeps fun _ => trivial) ?_
    intro _ middle _
    exact moves_bind_pure keeps_refl keeps_trans
      (ih middle)

theorem recoverWorkIndexEntries_named {names : List String} {entries : List WorkIndexEntry}
    {quarantined : Nat} {tape after : Tape ServiceWrite Service}
    (returned : (recoverWorkIndexEntries gateway names).run tape =
      (.ok (entries, quarantined), after)) :
    ∀ entry ∈ entries, entry.projectRoot ≠ "" ∧ entry.requestId ≠ "" := by
  induction names generalizing entries quarantined tape with
  | nil =>
    cases returned
    exact fun _ member => absurd member not_mem_nil
  | cons name names ih =>
    rw [recoverWorkIndexEntries, Script.run_read_bind] at returned
    split at returned
    next raw entry looked =>
      obtain ⟨⟨rest, count⟩, middle, ran, done⟩ := Script.bind_eq_ok.mp returned
      cases done
      obtain ⟨file, _, parsed⟩ := map_eq_some_iff.mp looked
      exact forall_mem_cons.mpr
        ⟨readEntry_present (readEntry_of_parseEntry parsed), ih ran⟩
    next =>
      obtain ⟨_, dropped, _, returned⟩ := Script.bind_eq_ok.mp returned
      obtain ⟨⟨rest, count⟩, middle, ran, done⟩ := Script.bind_eq_ok.mp returned
      cases done
      exact ih ran

theorem indexRound_keeps (processed : List String) {entry : WorkIndexEntry}
    (names : entry.projectRoot ≠ "" ∧ entry.requestId ≠ "") (report : RecoveryReport)
    (tape : Tape ServiceWrite Service) :
    (indexRound gateway pass processed entry report).Moves (KeepsSound gateway.digests) tape := by
  have writes := keeps_writesOf gateway.digests names.1 names.2
  have removes : ∀ next : RecoveryReport, (putWrite (.marker entry.requestId none) >>= fun _ =>
      (pure next : ServiceScript RecoveryReport)).Moves (KeepsSound gateway.digests) tape := by
    intro next
    exact moves_bind_pure keeps_refl keeps_trans
      (putWrite_keeps fun _ => trivial)
  rw [indexRound]
  split
  · exact moves_pure keeps_refl _ _
  refine moves_read_bind ?_
  dsimp only
  split
  · exact removes _
  next current _ =>
    split
    · exact removes _
    generalize (if present entry.ownerEpoch = true then entry.ownerEpoch
      else current.dispatchOwnerEpoch) = recordEpoch
    split
    · exact moves_pure keeps_refl _ _
    · exact moves_bind_pure keeps_refl keeps_trans
        (writes.takeoverStaleRequest _ tape)

theorem indexRounds_keeps (processed : List String) {entries : List WorkIndexEntry}
    (names : ∀ entry ∈ entries, entry.projectRoot ≠ "" ∧ entry.requestId ≠ "")
    (report : RecoveryReport) (tape : Tape ServiceWrite Service) :
    (indexRounds gateway pass processed entries report).Moves (KeepsSound gateway.digests)
      tape := by
  induction entries generalizing report tape with
  | nil => exact moves_pure keeps_refl _ _
  | cons entry entries ih =>
    obtain ⟨here, later⟩ := forall_mem_cons.mp names
    refine moves_bind keeps_trans (indexRound_keeps processed here report tape) ?_
    exact fun next middle _ => ih later next middle

theorem recoverGatewayRequests_keeps (tape : Tape ServiceWrite Service) :
    (recoverGatewayRequests gateway pass).Moves (KeepsSound gateway.digests) tape := by
  refine moves_read_bind ?_
  refine moves_bind keeps_trans (activeRounds_keeps _ _ tape) ?_
  intro found middle _
  refine moves_read_bind ?_
  refine moves_bind keeps_trans (recoverWorkIndexEntries_keeps _ middle) ?_
  rintro ⟨entries, quarantined⟩ last ran
  exact indexRounds_keeps found.processed (recoverWorkIndexEntries_named ran) _ last

variable {hashing : Hashing}

theorem script_keeps (call : ServiceCall) (tape : Tape ServiceWrite Service) :
    (call.script gateway hashing).Moves (KeepsSound gateway.digests) tape := by
  cases call with
  | admission request candidate now =>
    exact moves_dropped keeps_refl keeps_trans
      (admitFresh_keeps candidate now tape)
  | fenced request call =>
    exact moves_dropped keeps_refl keeps_trans (callFenced_keeps call tape)
  | finish request newState identity updates expectedRevision serviceRoot now =>
    exact moves_dropped keeps_refl keeps_trans
      (finishOwned_keeps newState identity updates expectedRevision serviceRoot now tape)
  | store request op =>
    exact moves_dropped keeps_refl keeps_trans
      ((keeps_writesOf gateway.digests request.root request.named).callStore _ tape)
  | takeover request recordEpoch pass =>
    exact moves_dropped keeps_refl keeps_trans
      ((keeps_writesOf gateway.digests request.root request.named).takeoverStaleRequest
        recordEpoch tape)
  | recover pass =>
    exact moves_dropped keeps_refl keeps_trans
      (recoverGatewayRequests_keeps tape)

/-- **The markers of every run fit**, whatever crashes it has gone through. -/
theorem sound_run (events : List ServiceEvent) :
    (exec (serviceStep gateway hashing) {} events).Sound gateway.digests := by
  refine exec_invariant (fun service event sound => ?_) ?_ events
  · exact Script.crash_invariant sound_apply (script_keeps event.call ⟨[], service⟩) sound
      event.made
  · intro name file found
    cases found

end Sound

/-! ## The pass after a run -/

theorem isIndexName_digest {text : String} (digest : isSha256Hex text = true) :
    isIndexName text = false := by
  rw [isSha256Hex, Bool.and_eq_true, List.all_eq_true] at digest
  by_contra index
  have named : "req_".toList <+: text.toList :=
    isPrefixOf_iff_prefix.mp (eq_true_of_ne_false index)
  obtain ⟨rest, split⟩ := named
  have letter : (114 : UInt8) ∈ String.utf8EncodeChar 'r' := by decide
  have first : (114 : UInt8) ∈ utf8Bytes text := by
    rw [utf8Bytes, ← String.utf8Encode_toList, ← split]
    simp [List.utf8Encode, letter]
  exact absurd (digest.2 _ first) (by decide)

/-- **Recovery loses nothing that it can find.**  After any run of the service, with a crash
after any durable write of any call, a pass that returns leaves every open request that had a
marker terminal, or with the live owner and listed unless it had that owner before. -/
theorem recovery_loses_nothing (gateway : RecoveringService) (hashing : Hashing)
    (hexDigests : ∀ requestId, isSha256Hex (gateway.digests.requestId requestId) = true)
    (events : List ServiceEvent) (pass : RecoveryPass) (report : RecoveryReport)
    (after : Tape ServiceWrite Service)
    (coverable : Coverable gateway.digests pass.liveOwnerEpoch
      (exec (serviceStep gateway hashing) {} events))
    (returned : (recoverGatewayRequests gateway pass).run
      ⟨[], exec (serviceStep gateway hashing) {} events⟩ = (.ok report, after))
    (key : String × String) (record : Record)
    (marked : (exec (serviceStep gateway hashing) {} events).Marked key)
    (open_ : (exec (serviceStep gateway hashing) {} events).OpenAt key record) :
    ∃ written, after.store.records.lookup key = some written ∧
      (written.state.isTerminal = true ∨ (written.dispatchOwnerEpoch = some pass.liveOwnerEpoch ∧
          (record.dispatchOwnerEpoch = some pass.liveOwnerEpoch ∨ key ∈ report.queued ∨
            key ∈ report.running))) := by
  have apart : ∀ requestId, isIndexName (activeWorkName gateway.digests requestId) = false :=
    fun requestId => isIndexName_digest (hexDigests requestId)
  exact recoverGatewayRequests_settles (sound_run events) apart coverable returned marked record
    open_

/-! ## An admitted request -/

def recoverySample (digest : String) : RecoveringService where
  projections := .plain
  digests := ⟨fun _ => digest, sampleDigests.projectRoot⟩
  serviceRoot := "/srv/gateway"
  interruptionDetails := fun _ => ""

def generatedGateway : RecoveringService :=
  recoverySample "f0c32b437b092d94ee8a7a9a781d72ae6cd3203b588de992e8107f0738649689"

def chosenGateway : RecoveringService :=
  recoverySample "026ab639c21df8aa80e5789370a9db1b8b524b776fd8a0c2ba71efb377ecc7d9"

def samplePass : RecoveryPass := ⟨"g9", fun _ _ => "worker", 5⟩

def admitSample (requestId : String) (named : requestId ≠ "") : List ServiceEvent :=
  [⟨.admission ⟨"/srv/project", requestId, by decide, named⟩
    (buildRecord sampleAdmission "" [] none) 0, 2⟩]

def generatedSample : Service :=
  exec (serviceStep generatedGateway .constant) {} (admitSample "req_sample_1" (by decide))

theorem generatedSample_marker {name : String} {file : MarkerFile}
    (found : generatedSample.markers.lookup name = some file) :
    name = "req_sample_1" ∧ file = .object (newEntry generatedGateway.digests "/srv/project"
      "req_sample_1" .admitted none none 0) := by
  have markers : generatedSample.markers = (∅ : Markers).insert "req_sample_1"
      (.object (newEntry generatedGateway.digests "/srv/project" "req_sample_1" .admitted none
        none 0)) := rfl
  rw [markers, Dict.lookup_insert_eq] at found
  split at found
  next same => exact ⟨same, (Option.some.inj found).symm⟩
  next => cases found

theorem generatedSample_marked {key : String × String} (marked : generatedSample.Marked key) :
    key = ("/srv/project", "req_sample_1") := by
  obtain ⟨name, file, found, names⟩ := marked
  obtain ⟨rfl, rfl⟩ := generatedSample_marker found
  exact (Option.some.inj names).symm

theorem coverable_generatedSample :
    Coverable generatedGateway.digests samplePass.liveOwnerEpoch generatedSample where
  owned := by
    rintro key record ⟨name, file, _, active, found, _⟩ _
    obtain ⟨rfl, _⟩ := generatedSample_marker found
    exact absurd active (by decide)
  current := by
    intro name file raw entry record _ _ found parsed _ _ owned _
    obtain ⟨rfl, rfl⟩ := generatedSample_marker found
    cases parsed
    cases owned
  found := by
    rintro key record ⟨name, file, found, names⟩ _
    obtain ⟨rfl, _⟩ := generatedSample_marker found
    exact ⟨_, file, by decide, found, names⟩
  apart := by
    intro key record other marked _ otherMarked different
    rw [generatedSample_marked marked, generatedSample_marked otherMarked] at different
    exact absurd rfl different

/-- An admitted request with a generated id is recovered. -/
theorem admitted_request_recovered :
    ∃ report after, (recoverGatewayRequests generatedGateway samplePass).run
        ⟨[], generatedSample⟩ = (.ok report, after) ∧
      ∃ written, after.store.records.lookup ("/srv/project", "req_sample_1") = some written ∧
        (written.state.isTerminal = true ∨ (written.dispatchOwnerEpoch = some "g9" ∧
          (("/srv/project", "req_sample_1") ∈ report.queued ∨
            ("/srv/project", "req_sample_1") ∈ report.running))) := by
  have returns : ((recoverGatewayRequests generatedGateway samplePass).run
      ⟨[], generatedSample⟩).1.toOption.isSome = true := by decide +kernel
  rcases returned : (recoverGatewayRequests generatedGateway samplePass).run
    ⟨[], generatedSample⟩ with ⟨failure | report, after⟩
  · rw [returned] at returns
    cases returns
  · have record : generatedSample.readRecord "/srv/project" "req_sample_1" =
        .ok (buildRecord sampleAdmission "" [] none) := rfl
    have hexadecimal : isSha256Hex
        "f0c32b437b092d94ee8a7a9a781d72ae6cd3203b588de992e8107f0738649689" = true := by
      decide +kernel
    have marked : generatedSample.Marked ("/srv/project", "req_sample_1") :=
      ⟨"req_sample_1", .object (newEntry generatedGateway.digests "/srv/project" "req_sample_1"
        .admitted none none 0), rfl, rfl⟩
    obtain ⟨written, found, reached⟩ := recovery_loses_nothing generatedGateway .constant
      (fun _ => hexadecimal) (admitSample "req_sample_1" (by decide)) samplePass report after
      coverable_generatedSample returned ("/srv/project", "req_sample_1") _ marked
      ⟨record, rfl⟩
    refine ⟨report, after, rfl, written, found, reached.imp_right ?_⟩
    rintro ⟨owner, before | listed⟩
    · cases before
    · exact ⟨owner, listed⟩

/-- The service root after an admission under an id that a caller chose. -/
def chosenSample : Service :=
  exec (serviceStep chosenGateway .constant) {} (admitSample "job-1" (by decide))

/-- **An admitted request that recovery takes for abandoned.**  The entry of an id that does not
begin with `req_` is read as an active-work marker; the record has no owner yet, so both markers
go and the request stays queued, unlisted and without an owner. -/
theorem recovery_clears_admitted_request :
    let passed := (recoverGatewayRequests chosenGateway samplePass).run ⟨[], chosenSample⟩
    (∃ record, chosenSample.Marked ("/srv/project", "job-1") ∧
      chosenSample.OpenAt ("/srv/project", "job-1") record) ∧
      ∃ report written, passed.1 = .ok report ∧
        passed.2.store.records.lookup ("/srv/project", "job-1") = some written ∧
        written.state = .queued ∧ written.dispatchOwnerEpoch = none ∧
        ("/srv/project", "job-1") ∉ report.queued ∧ ("/srv/project", "job-1") ∉ report.running ∧
        passed.2.store.markers = ∅ := by
  have record : chosenSample.readRecord "/srv/project" "job-1" =
      .ok (buildRecord { sampleAdmission with requestId := "job-1" } "" [] none) := rfl
  have marked : chosenSample.Marked ("/srv/project", "job-1") :=
    ⟨"job-1", .object (newEntry chosenGateway.digests "/srv/project" "job-1" .admitted none none
      0), rfl, rfl⟩
  have reported : ((recoverGatewayRequests chosenGateway samplePass).run
      ⟨[], chosenSample⟩).1.toOption.map (fun report => (report.queued, report.running)) =
        some ([], []) := by
    decide +kernel
  intro passed
  refine ⟨⟨_, marked, record, rfl⟩, ?_⟩
  change passed.1.toOption.map _ = _ at reported
  rcases outcome : passed.1 with failure | report
  · rw [outcome] at reported
    cases reported
  rw [outcome] at reported
  obtain ⟨queued, running⟩ := Prod.mk.inj (Option.some.inj reported)
  refine ⟨report, buildRecord { sampleAdmission with requestId := "job-1" } "" [] none, rfl,
    rfl, rfl, rfl, ?_, ?_, rfl⟩
  · rw [queued]
    exact not_mem_nil
  · rw [running]
    exact not_mem_nil

end Audiagentic.Gateway
