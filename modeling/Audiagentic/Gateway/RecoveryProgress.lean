import Audiagentic.Gateway.RecoveryEffects

/-!
# What one pass of recovery achieves

A pass goes through the markers that a service had when it began.  `PassProgress` compares the
service in the middle of the pass with that one: an open request that is not yet handled still
has its record and its markers, and a handled one is settled.
-/

namespace Audiagentic.Gateway

open Foundations List Option

/-! ## Markers and requests -/

def MarkerFits (digests : MarkerDigests) (name : String) (file : MarkerFile) : Prop :=
  ∃ key, readEntry file = some key ∧ (name = activeWorkName digests key.2 ∨
    (name = key.2 ∧ ∃ pair, parseEntry digests file = .ok pair))

namespace Service

def Sound (digests : MarkerDigests) (service : Service) : Prop :=
  ∀ name file, service.markers.lookup name = some file → MarkerFits digests name file

def Marked (service : Service) (key : String × String) : Prop :=
  ∃ name file, service.markers.lookup name = some file ∧ readEntry file = some key

/-- The request has a marker that the first path of a pass looks at. -/
def ActiveMarked (service : Service) (key : String × String) : Prop :=
  ∃ name file, inDirectory name = true ∧ isIndexName name = false ∧
    service.markers.lookup name = some file ∧ readEntry file = some key

/-- The record of the request is readable and not terminal. -/
def OpenAt (service : Service) (key : String × String) (record : Record) : Prop :=
  service.readRecord key.1 key.2 = .ok record ∧ record.state.isTerminal = false

end Service

/-- **The pass finds every open request and takes none for abandoned.**

* `owned`: an open request with a marker whose name is not one of the work index has an owner;
* `current`: an index entry that names the live owner is that of a record of the live owner,
  unless the request is found by its active-work marker;
* `found`: an open request has a marker in the directory itself;
* `apart`: no other request has a marker under a name of its. -/
structure Coverable (digests : MarkerDigests) (liveOwnerEpoch : String) (service : Service) :
    Prop where
  owned : ∀ key record, service.ActiveMarked key → service.OpenAt key record →
    present record.dispatchOwnerEpoch = true
  current : ∀ name file raw entry record, inDirectory name = true → isIndexName name = true →
    service.markers.lookup name = some file → parseEntry digests file = .ok (raw, entry) →
    service.OpenAt (entry.projectRoot, entry.requestId) record →
    ¬ service.ActiveMarked (entry.projectRoot, entry.requestId) →
    present entry.ownerEpoch = true → entry.ownerEpoch = some liveOwnerEpoch →
      record.dispatchOwnerEpoch = some liveOwnerEpoch
  found : ∀ key record, service.Marked key → service.OpenAt key record →
    ∃ name file, inDirectory name = true ∧ service.markers.lookup name = some file ∧
      readEntry file = some key
  apart : ∀ key record other, service.Marked key → service.OpenAt key record →
    service.Marked other → key ≠ other →
      key.2 ≠ other.2 ∧ key.2 ≠ activeWorkName digests other.2 ∧
        activeWorkName digests key.2 ≠ other.2 ∧
        activeWorkName digests key.2 ≠ activeWorkName digests other.2

variable {file : MarkerFile} {entry : WorkIndexEntry}

theorem readEntry_of_parseEntry {digests : MarkerDigests} {raw : MarkerObject}
    (parsed : parseEntry digests file = .ok (raw, entry)) :
    readEntry file = some (entry.projectRoot, entry.requestId) := by
  have object := parseEntry_object parsed
  subst object
  simp only [parseEntry, bind_eq_ok] at parsed
  obtain ⟨content, read, other, valid, same⟩ := parsed
  cases same
  simp only [readRawEntry] at read
  split at read
  next fields =>
    simp only [validateWorkIndexEntry, refuse_bind_eq_ok] at valid
    obtain ⟨_, _, valid⟩ := valid
    split at valid
    · cases valid
    · obtain ⟨_, valid⟩ := refuse_bind_eq_ok.mp valid
      cases valid
      exact if_pos ⟨fields.1, fields.2.1⟩
  next => cases read

variable {key : String × String}

theorem readEntry_present (names : readEntry file = some key) : key.1 ≠ "" ∧ key.2 ≠ "" := by
  cases file with
  | unreadable | notObject => cases names
  | object content =>
    simp only [readEntry] at names
    split at names
    next fields =>
      cases names
      have texts : ∀ value : Option String, present value = true → value.getD "" ≠ "" := by
        intro value there
        cases value with
        | none => cases there
        | some text => simpa [present] using there
      exact ⟨texts _ fields.2, texts _ fields.1⟩
    next => cases names

variable {name : String}

theorem mem_directoryNames {markers : Markers} :
    name ∈ directoryNames markers ↔
      inDirectory name = true ∧ ∃ file, markers.lookup name = some file := by
  rw [directoryNames, mem_insertionSort, mem_filter, ← AList.mem_keys,
    ← AList.lookup_isSome, isSome_iff_exists, and_comm]

/-! ## Progress -/

def RecoveryReport.Lists (report : RecoveryReport) (key : String × String) : Prop :=
  key ∈ report.queued ∨ key ∈ report.running

variable {report : RecoveryReport}

theorem RecoveryReport.Lists.noted (listed : report.Lists key) (projectRoot requestId : String)
    (state : Option RequestState) : (report.noted projectRoot requestId state).Lists key := by
  have queued : ∀ items : List (String × String), key ∈ report.queued →
      key ∈ report.queued ++ items := fun items member => mem_append_left items member
  have running : ∀ items : List (String × String), key ∈ report.running →
      key ∈ report.running ++ items := fun items member => mem_append_left items member
  cases state with
  | none => exact listed
  | some state =>
    cases state with
    | queued => exact listed.imp (queued _) id
    | running => exact listed.imp id (running _)
    | _ => exact listed

theorem RecoveryReport.lists_noted (report : RecoveryReport) (projectRoot requestId : String)
    {state : RequestState} (open_ : state.isTerminal = false) :
    (report.noted projectRoot requestId (some state)).Lists (projectRoot, requestId) := by
  cases state with
  | queued => exact .inl (mem_append_right _ (mem_singleton_self _))
  | running => exact .inr (mem_append_right _ (mem_singleton_self _))
  | _ => cases open_

/-- **What a pass owes an open request**: it is terminal now, or it has the live owner and had
it before or is listed. -/
def Settled (liveOwnerEpoch : String) (start service : Service) (report : RecoveryReport)
    (key : String × String) : Prop :=
  ∀ record, start.OpenAt key record →
    ∃ written, service.records.lookup key = some written ∧ (written.state.isTerminal = true ∨
      (written.dispatchOwnerEpoch = some liveOwnerEpoch ∧
        (record.dispatchOwnerEpoch = some liveOwnerEpoch ∨ report.Lists key)))

/-- The service in the middle of a pass that began with `start`. -/
structure PassProgress (liveOwnerEpoch : String) (start : Service)
    (handled : List (String × String)) (service : Service) (report : RecoveryReport) : Prop where
  marked : ∀ key ∈ handled, start.Marked key
  records : ∀ key record, start.OpenAt key record → key ∉ handled →
    service.records.lookup key = start.records.lookup key
  markers : ∀ key record, start.OpenAt key record → key ∉ handled → ∀ name file,
    start.markers.lookup name = some file → readEntry file = some key →
      service.markers.lookup name = some file
  origin : ∀ name file key, service.markers.lookup name = some file →
    readEntry file = some key → start.Marked key ∧ ∀ record, start.OpenAt key record →
      key ∉ handled → start.markers.lookup name = some file
  settled : ∀ key ∈ handled, Settled liveOwnerEpoch start service report key

variable {projectRoot : String}

namespace PassProgress

variable {digests : MarkerDigests} {liveOwnerEpoch : String} {start service : Service}
  {handled : List (String × String)} {report : RecoveryReport}

theorem initial (liveOwnerEpoch : String) (start : Service) (report : RecoveryReport) :
    PassProgress liveOwnerEpoch start [] start report where
  marked := fun _ member => absurd member not_mem_nil
  records := fun _ _ _ _ => rfl
  markers := fun _ _ _ _ _ _ found _ => found
  origin := fun name file _ found names => ⟨⟨name, file, found, names⟩, fun _ _ _ => found⟩
  settled := fun _ member => absurd member not_mem_nil

theorem readRecord (progress : PassProgress liveOwnerEpoch start handled service report)
    {record : Record} (open_ : start.OpenAt key record) (unhandled : key ∉ handled) :
    service.readRecord key.1 key.2 = .ok record := by
  obtain ⟨found, valid⟩ := readRecord_ok.mp open_.1
  refine readRecord_ok.mpr ⟨?_, valid⟩
  exact (progress.records key record open_ unhandled).trans found

/-- A request that is still to be settled is as it was, or it is settled already. -/
theorem cases (progress : PassProgress liveOwnerEpoch start handled service report)
    {record : Record} (open_ : start.OpenAt key record) :
    key ∉ handled ∧ service.readRecord key.1 key.2 = .ok record ∨
      ∃ written, service.records.lookup key = some written ∧ (written.state.isTerminal = true ∨
        (written.dispatchOwnerEpoch = some liveOwnerEpoch ∧
          (record.dispatchOwnerEpoch = some liveOwnerEpoch ∨ report.Lists key))) := by
  by_cases member : key ∈ handled
  · exact .inr (progress.settled key member record open_)
  · exact .inl ⟨member, progress.readRecord open_ member⟩

/-- The markers of an open request lie under its own names, which no other request uses. -/
theorem name_apart (sound : start.Sound digests)
    (coverable : Coverable digests liveOwnerEpoch start) {other : String × String} {record : Record}
    (open_ : start.OpenAt key record) (marked : start.Marked other) (different : key ≠ other)
    (found : start.markers.lookup name = some file) (names : readEntry file = some key) :
    name ≠ other.2 ∧ name ≠ activeWorkName digests other.2 := by
  obtain ⟨same, read, place⟩ := sound name file found
  rw [names] at read
  cases read
  obtain ⟨entries, entryActive, activeEntry, actives⟩ :=
    coverable.apart key record other ⟨name, file, found, names⟩ open_ marked different
  rcases place with active | ⟨entry, _⟩
  · rw [active]
    exact ⟨activeEntry, actives⟩
  · rw [entry]
    exact ⟨entries, entryActive⟩

variable {updated : RecoveryReport}

section

variable (progress : PassProgress liveOwnerEpoch start handled service report)
include progress

/-- **One round.**  Writes that are confined to a marked request and settle it are progress. -/
theorem handle (sound : start.Sound digests) (coverable : Coverable digests liveOwnerEpoch start)
    (marked : start.Marked key) {after : Service} (confined : Confined digests key service after)
    (lists : ∀ other, report.Lists other → updated.Lists other)
    (settled : Settled liveOwnerEpoch start after updated key) :
    PassProgress liveOwnerEpoch start (key :: handled) after updated where
  marked := forall_mem_cons.mpr ⟨marked, progress.marked⟩
  records := by
    intro other record open_ unhandled
    obtain ⟨different, unhandled⟩ := ne_and_not_mem_of_not_mem_cons unhandled
    exact (confined.records other different).trans (progress.records other record open_ unhandled)
  markers := by
    intro other record open_ unhandled name file found names
    obtain ⟨different, unhandled⟩ := ne_and_not_mem_of_not_mem_cons unhandled
    obtain ⟨entry, active⟩ := name_apart sound coverable open_ marked different found names
    exact (confined.markers name entry active).trans
      (progress.markers other record open_ unhandled name file found names)
  origin := by
    intro name file other found names
    rcases confined.origin name file found with ⟨old, foundOld, same⟩ | ⟨_, own⟩
    · obtain ⟨otherMarked, first⟩ :=
        progress.origin name old other foundOld (same.trans names)
      refine ⟨otherMarked, fun record open_ unhandled => ?_⟩
      obtain ⟨different, unhandled⟩ := ne_and_not_mem_of_not_mem_cons unhandled
      have there := first record open_ unhandled
      obtain ⟨entry, active⟩ :=
        name_apart sound coverable open_ marked different there (same.trans names)
      rw [confined.markers name entry active, foundOld] at found
      rw [← Option.some.inj found]
      exact there
    · rw [names] at own
      cases own
      exact ⟨marked, fun _ _ unhandled => absurd mem_cons_self unhandled⟩
  settled := by
    intro other member record open_
    by_cases same : other = key
    · subst same
      exact settled record open_
    have old := (mem_cons.mp member).resolve_left same
    obtain ⟨written, found, reached⟩ := progress.settled other old record open_
    refine ⟨written, (confined.records other same).trans found, reached.imp_right ?_⟩
    exact fun owned => ⟨owned.1, owned.2.imp_right (lists other)⟩

theorem relist (lists : ∀ key, report.Lists key → updated.Lists key) :
    PassProgress liveOwnerEpoch start handled service updated where
  marked := progress.marked
  records := progress.records
  markers := progress.markers
  origin := progress.origin
  settled := by
    intro key member record open_
    obtain ⟨written, found, reached⟩ := progress.settled key member record open_
    exact ⟨written, found, reached.imp_right fun owned =>
      ⟨owned.1, owned.2.imp_right (lists key)⟩⟩

theorem drop
    (stray : ∀ file key record, service.markers.lookup name = some file → readEntry file = some key
      → start.OpenAt key record → key ∈ handled) :
    PassProgress liveOwnerEpoch start handled (service.apply (.marker name none)) report where
  marked := progress.marked
  records := by
    rw [Service.records_apply_marker]
    exact progress.records
  markers := by
    intro key record open_ unhandled other file found names
    have there := progress.markers key record open_ unhandled other file found names
    rw [service.lookup_apply_marker, if_neg]
    · exact there
    · rintro rfl
      exact unhandled (stray file key record there names open_)
  origin := by
    intro other file key found names
    rw [service.lookup_apply_marker] at found
    split at found
    · cases found
    · exact progress.origin other file key found names
  settled := by
    intro key member record open_
    rw [Service.records_apply_marker]
    exact progress.settled key member record open_

theorem settled_of_unreadable {error : GatewayError}
    (unreadable : service.readRecord key.1 key.2 = .error error) :
    Settled liveOwnerEpoch start service report key := by
  intro record open_
  rcases progress.cases open_ with ⟨_, read⟩ | settled
  · rw [read] at unreadable
    cases unreadable
  · exact settled

end

theorem settled_of_terminal {after : Service} {current : Record}
    (read : service.readRecord key.1 key.2 = .ok current)
    (terminal : current.state.isTerminal = true)
    (same : after.records.lookup key = service.records.lookup key) :
    Settled liveOwnerEpoch start after updated key := by
  intro record open_
  exact ⟨current, same.trans (readRecord_ok.mp read).1, .inl terminal⟩

theorem settled_of_live (progress : PassProgress liveOwnerEpoch start handled service report)
    {current : Record} (read : service.readRecord key.1 key.2 = .ok current)
    (had : ∀ record, start.OpenAt key record → key ∉ handled → record = current →
      record.dispatchOwnerEpoch = some liveOwnerEpoch) :
    Settled liveOwnerEpoch start service report key := by
  intro record open_
  rcases progress.cases open_ with ⟨unhandled, same⟩ | settled
  · rw [read] at same
    cases same
    have owner := had current open_ unhandled rfl
    exact ⟨current, (readRecord_ok.mp read).1, .inr ⟨owner, .inl owner⟩⟩
  · exact settled

theorem settled_of_recovered {pass : RecoveryPass} {after : Service} {requestId : String}
    {state : Option RequestState} {written : Record} (report : RecoveryReport)
    (found : after.records.lookup (projectRoot, requestId) = some written)
    (recovered : Recovered pass state written) :
    Settled pass.liveOwnerEpoch start after (report.noted projectRoot requestId state)
      (projectRoot, requestId) := by
  intro record open_
  refine ⟨written, found, recovered.imp_right ?_⟩
  rintro ⟨owner, rfl, isOpen⟩
  exact ⟨owner, .inr (report.lists_noted projectRoot requestId isOpen)⟩

end PassProgress

/-! ## The first path -/

/-- The first path has handled exactly the requests whose ids it has seen. -/
structure Discovered (liveOwnerEpoch : String) (start : Service)
    (handled : List (String × String)) (service : Service) (found : Discovery) : Prop where
  progress : PassProgress liveOwnerEpoch start handled service found.report
  processed : ∀ requestId, requestId ∈ found.processed ↔ ∃ key ∈ handled, key.2 = requestId

section Rounds

variable {gateway : RecoveringService} {pass : RecoveryPass} {start : Service}
  {handled : List (String × String)}

variable {found : Discovery}

/-- A marked request is handled by a round that is confined to it and settles it. -/
theorem Discovered.handle {service after : Service}
    (discovered : Discovered pass.liveOwnerEpoch start handled service found)
    (sound : start.Sound gateway.digests)
    (coverable : Coverable gateway.digests pass.liveOwnerEpoch start) {requestId : String}
    (marked : start.Marked (projectRoot, requestId))
    (confined : Confined gateway.digests (projectRoot, requestId) service after)
    (lists : ∀ other, found.report.Lists other → report.Lists other)
    (settled : Settled pass.liveOwnerEpoch start after report (projectRoot, requestId)) :
    Discovered pass.liveOwnerEpoch start ((projectRoot, requestId) :: handled) after
      { processed := requestId :: found.processed, report := report } where
  progress := discovered.progress.handle sound coverable marked confined lists settled
  processed := by
    intro other
    rw [mem_cons, exists_mem_cons_iff, discovered.processed]
    exact or_congr_left eq_comm

variable {after tape : Tape ServiceWrite Service}

section

variable (discovered : Discovered pass.liveOwnerEpoch start handled tape.store found)
include discovered

theorem activeRound_named {requestId : String} {next : Discovery}
    (sound : start.Sound gateway.digests)
    (coverable : Coverable gateway.digests pass.liveOwnerEpoch start)
    (inside : inDirectory name = true) (active : isIndexName name = false)
    (there : tape.store.markers.lookup name = some file)
    (names : readEntry file = some (projectRoot, requestId))
    (returned : (activeRound gateway pass name found).run tape = (.ok next, after)) :
    Discovered pass.liveOwnerEpoch start ((projectRoot, requestId) :: handled) after.store
      next := by
  have progress := discovered.progress
  obtain ⟨root, named⟩ := readEntry_present names
  obtain ⟨marked, origin⟩ := progress.origin name file _ there names
  have writes := confined_writesOf gateway.digests root named
  have cleared : ∀ {final : Tape ServiceWrite Service} {result : Except GatewayError Unit},
      (clearMarkers gateway.digests requestId).run tape = (result, final) →
      Confined gateway.digests (projectRoot, requestId) tape.store final.store ∧
        final.store.records = tape.store.records := by
    intro final result ran
    refine ⟨(writes.clearMarkers tape).of_run ran, ?_⟩
    cases ran
    exact (Service.records_apply_marker _ _ _).trans (Service.records_apply_marker _ _ _)
  rw [activeRound, Script.run_read_bind, there, map_some, names] at returned
  dsimp only at returned
  split at returned
  next error unreadable =>
    cases returned
    exact discovered.handle sound coverable marked (.refl _) (fun _ => id)
      (progress.settled_of_unreadable unreadable)
  next current read =>
    split at returned
    next terminal =>
      obtain ⟨_, final, ran, done⟩ := Script.bind_eq_ok.mp returned
      cases done
      obtain ⟨confined, same⟩ := cleared ran
      refine discovered.handle sound coverable marked confined (fun _ => id) ?_
      exact PassProgress.settled_of_terminal read terminal
        (congrArg (fun records => AList.lookup _ records) same)
    next isOpen =>
      split at returned
      next live =>
        cases returned
        refine discovered.handle sound coverable marked (.refl _) (fun _ => id) ?_
        exact progress.settled_of_live read (fun record _ _ same => same ▸ live)
      next foreign =>
        split at returned
        next unowned =>
          obtain ⟨_, final, ran, done⟩ := Script.bind_eq_ok.mp returned
          cases done
          obtain ⟨confined, same⟩ := cleared ran
          refine discovered.handle sound coverable marked confined (fun _ => id) ?_
          -- The marker of an open request is taken for abandoned only if it was so at the
          -- start, or was settled since: neither can be.
          intro record open_
          exfalso
          rcases progress.cases open_ with ⟨unhandled, same⟩ | ⟨written, found, reached⟩
          · rw [read] at same
            cases same
            have first := origin current open_ unhandled
            have owned := coverable.owned _ current ⟨name, file, inside, active, first, names⟩ open_
            rw [unowned] at owned
            cases owned
          · rw [(readRecord_ok.mp read).1] at found
            cases found
            rcases reached with terminal | ⟨owner, _⟩
            · exact isOpen terminal
            · exact foreign owner
        next owned =>
          obtain ⟨state, final, ran, done⟩ := Script.bind_eq_ok.mp returned
          cases done
          obtain ⟨written, wrote, recovered⟩ :=
            takeoverStaleRequest_ok read (eq_false_of_ne_true isOpen) ran
          have lists : ∀ other, found.report.Lists other →
              ({ found.report with examined := found.report.examined + 1 } :
                RecoveryReport).Lists other := fun _ => id
          refine discovered.handle sound coverable marked
            ((writes.takeoverStaleRequest _ tape).of_run ran)
            (fun other listed => (lists other listed).noted projectRoot requestId state) ?_
          exact PassProgress.settled_of_recovered _ wrote recovered

theorem activeRound_stray {next : Discovery}
    (stray : ∀ file key, tape.store.markers.lookup name = some file → readEntry file ≠ some key)
    (returned : (activeRound gateway pass name found).run tape = (.ok next, after)) :
    Discovered pass.liveOwnerEpoch start handled after.store next := by
  have dropped := discovered.progress.drop (fun file key _ there names _ =>
    absurd names (stray file key there))
  have looked : (tape.store.markers.lookup name).map readEntry = none ∨
      (tape.store.markers.lookup name).map readEntry = some none := by
    rcases eq_none_or_eq_some (tape.store.markers.lookup name) with missing | ⟨file, there⟩
    · exact .inl (by rw [missing]; rfl)
    · rcases eq_none_or_eq_some (readEntry file) with nothing | ⟨key, names⟩
      · exact .inr (by rw [there, map_some, nothing])
      · exact absurd names (stray file key there)
  rcases looked with looked | looked
  all_goals
    rw [activeRound, Script.run_read_bind, looked] at returned
    cases returned
    exact ⟨dropped.relist (fun _ => id), discovered.processed⟩

/-- **One round of the first path.** -/
theorem activeRound_discovered {next : Discovery} (sound : start.Sound gateway.digests)
    (coverable : Coverable gateway.digests pass.liveOwnerEpoch start)
    (inside : inDirectory name = true) (active : isIndexName name = false)
    (returned : (activeRound gateway pass name found).run tape = (.ok next, after)) :
    ∃ more, (∀ key ∈ handled, key ∈ more) ∧
      Discovered pass.liveOwnerEpoch start more after.store next ∧
      ∀ file key record, start.markers.lookup name = some file → readEntry file = some key →
        start.OpenAt key record → key ∈ more := by
  -- The marker of an open request that is not handled yet is still there.
  have still : ∀ file key record, start.markers.lookup name = some file →
      readEntry file = some key → start.OpenAt key record → key ∉ handled →
      tape.store.markers.lookup name = some file :=
      fun file key record found names open_ unhandled =>
    discovered.progress.markers key record open_ unhandled name file found names
  by_cases named : ∃ file key, tape.store.markers.lookup name = some file ∧
      readEntry file = some key
  · obtain ⟨file, ⟨projectRoot, requestId⟩, there, names⟩ := named
    refine ⟨_, fun key => mem_cons_of_mem _, activeRound_named discovered sound coverable
      inside active there names returned, ?_⟩
    intro first key record found firstNames open_
    by_cases member : key ∈ handled
    · exact mem_cons_of_mem _ member
    have same := (still first key record found firstNames open_ member).symm.trans there
    rw [Option.some.inj same, names] at firstNames
    cases firstNames
    exact mem_cons_self
  · refine ⟨handled, fun _ => id, activeRound_stray discovered (fun file key there names =>
      named ⟨file, key, there, names⟩) returned, ?_⟩
    intro first key record found firstNames open_
    by_contra unhandled
    exact named ⟨first, key, still first key record found firstNames open_ unhandled, firstNames⟩

/-- **The first path** handles every open request with a marker it looks at. -/
theorem activeRounds_discovered {names : List String} {final : Discovery}
    (sound : start.Sound gateway.digests)
    (coverable : Coverable gateway.digests pass.liveOwnerEpoch start)
    (listed : ∀ name ∈ names, inDirectory name = true ∧ isIndexName name = false)
    (returned : (activeRounds gateway pass names found).run tape = (.ok final, after)) :
    ∃ more, (∀ key ∈ handled, key ∈ more) ∧
      Discovered pass.liveOwnerEpoch start more after.store final ∧
      ∀ name ∈ names, ∀ file key record, start.markers.lookup name = some file →
        readEntry file = some key → start.OpenAt key record → key ∈ more := by
  induction names generalizing handled found tape with
  | nil =>
    cases returned
    exact ⟨handled, fun _ => id, discovered, fun _ member => absurd member not_mem_nil⟩
  | cons name names ih =>
    obtain ⟨⟨inside, active⟩, later⟩ := forall_mem_cons.mp listed
    obtain ⟨next, middle, first, rest⟩ := Script.bind_eq_ok.mp returned
    obtain ⟨some_, grown, here, covered⟩ :=
      activeRound_discovered discovered sound coverable inside active first
    obtain ⟨more, grownMore, done, coveredMore⟩ := ih here later rest
    refine ⟨more, fun key member => grownMore key (grown key member), done, ?_⟩
    intro other member file key record found names open_
    rcases mem_cons.mp member with rfl | inTail
    · exact grownMore key (covered file key record found names open_)
    · exact coveredMore other inTail file key record found names open_

end

/-! ## The second path -/

/-- The entry was read from a marker, which is the one from the start of the pass if its request
is open and not handled yet. -/
def Entered (digests : MarkerDigests) (start : Service) (handled : List (String × String))
    (entry : WorkIndexEntry) : Prop :=
  ∃ name file raw, inDirectory name = true ∧ isIndexName name = true ∧
    parseEntry digests file = .ok (raw, entry) ∧
    start.Marked (entry.projectRoot, entry.requestId) ∧
    ∀ record, start.OpenAt (entry.projectRoot, entry.requestId) record →
      (entry.projectRoot, entry.requestId) ∉ handled → start.markers.lookup name = some file

/-- **The work index is read completely**: every open request that is not handled yet and has a
marker in it has an entry. -/
theorem recoverWorkIndexEntries_entered {names : List String} {entries : List WorkIndexEntry}
    {quarantined : Nat}
    (progress : PassProgress pass.liveOwnerEpoch start handled tape.store report)
    (sound : start.Sound gateway.digests)
    (hex : ∀ requestId, isIndexName (activeWorkName gateway.digests requestId) = false)
    (listed : ∀ name ∈ names, inDirectory name = true ∧ isIndexName name = true)
    (returned : (recoverWorkIndexEntries gateway names).run tape =
      (.ok (entries, quarantined), after)) :
    PassProgress pass.liveOwnerEpoch start handled after.store report ∧
      (∀ entry ∈ entries, Entered gateway.digests start handled entry) ∧
      ∀ name ∈ names, ∀ file key record, start.markers.lookup name = some file →
        readEntry file = some key → start.OpenAt key record → key ∉ handled →
        ∃ entry ∈ entries, (entry.projectRoot, entry.requestId) = key := by
  induction names generalizing entries quarantined tape with
  | nil =>
    cases returned
    exact ⟨progress, fun _ member => absurd member not_mem_nil,
      fun _ member => absurd member not_mem_nil⟩
  | cons name names ih =>
    obtain ⟨⟨inside, index⟩, later⟩ := forall_mem_cons.mp listed
    -- A marker from the start of the pass under this name is a valid entry.
    have valid : ∀ file key, start.markers.lookup name = some file →
        readEntry file = some key → ∃ pair, parseEntry gateway.digests file = .ok pair := by
      intro file key found _
      obtain ⟨other, _, active | ⟨_, parsed⟩⟩ := sound name file found
      · rw [active, hex] at index
        cases index
      · exact parsed
    rw [recoverWorkIndexEntries, Script.run_read_bind] at returned
    split at returned
    next raw entry looked =>
      obtain ⟨⟨rest, count⟩, middle, ran, done⟩ := Script.bind_eq_ok.mp returned
      cases done
      obtain ⟨kept, entered, complete⟩ := ih progress later ran
      obtain ⟨file, there, parsed⟩ := map_eq_some_iff.mp looked
      have names := readEntry_of_parseEntry parsed
      obtain ⟨marked, origin⟩ := progress.origin name file _ there names
      refine ⟨kept, forall_mem_cons.mpr
        ⟨⟨name, file, raw, inside, index, parsed, marked, origin⟩, entered⟩, ?_⟩
      intro other member first key record found firstNames open_ unhandled
      rcases mem_cons.mp member with rfl | inTail
      · have still := progress.markers key record open_ unhandled other first found firstNames
        rw [there] at still
        cases still
        rw [names] at firstNames
        exact ⟨entry, mem_cons_self, Option.some.inj firstNames⟩
      · obtain ⟨found, member, same⟩ :=
          complete other inTail first key record found firstNames open_ unhandled
        exact ⟨found, mem_cons_of_mem _ member, same⟩
    next invalid =>
      obtain ⟨_, dropped, drops, returned⟩ := Script.bind_eq_ok.mp returned
      cases drops
      obtain ⟨⟨rest, count⟩, middle, ran, done⟩ := Script.bind_eq_ok.mp returned
      cases done
      have unhandled : ∀ file key record, tape.store.markers.lookup name = some file →
          readEntry file = some key → start.OpenAt key record → key ∈ handled := by
        intro file key record there names open_
        by_contra unhandled
        have found := (progress.origin name file key there names).2 record open_ unhandled
        obtain ⟨⟨raw, entry⟩, parsed⟩ := valid file key found names
        exact invalid raw entry (by rw [there, map_some, parsed])
      obtain ⟨kept, entered, complete⟩ := ih (progress.drop unhandled) later ran
      refine ⟨kept, entered, ?_⟩
      intro other member first key record found firstNames open_ new
      rcases mem_cons.mp member with rfl | inTail
      · have still := progress.markers key record open_ new other first found firstNames
        exact absurd (unhandled first key record still firstNames open_) new
      · exact complete other inTail first key record found firstNames open_ new

/-- The requests that the first path has handled are those whose ids it has seen, and every open
request with a marker that it looks at is among them. -/
structure FirstPath (start : Service) (first : List (String × String)) (processed : List String) :
    Prop where
  processed : ∀ requestId ∈ processed, ∃ key ∈ first, key.2 = requestId
  covered : ∀ key record, start.ActiveMarked key → start.OpenAt key record → key ∈ first

variable {processed : List String} {first : List (String × String)}

section

variable (progress : PassProgress pass.liveOwnerEpoch start handled tape.store report)
include progress

/-- A round on an entry whose id the first path has not seen handles its request. -/
theorem indexRound_fresh {next : RecoveryReport} (sound : start.Sound gateway.digests)
    (coverable : Coverable gateway.digests pass.liveOwnerEpoch start)
    (path : FirstPath start first processed) (grown : ∀ key ∈ first, key ∈ handled)
    (entered : Entered gateway.digests start first entry) (fresh : entry.requestId ∉ processed)
    (returned : (indexRound gateway pass processed entry report).run tape = (.ok next, after)) :
    PassProgress pass.liveOwnerEpoch start ((entry.projectRoot, entry.requestId) :: handled)
      after.store next := by
  obtain ⟨name, file, raw, inside, index, parsed, marked, origin⟩ := entered
  obtain ⟨root, named⟩ := readEntry_present (readEntry_of_parseEntry parsed)
  have writes := confined_writesOf gateway.digests root named
  have removed : Confined gateway.digests (entry.projectRoot, entry.requestId) tape.store
      (tape.store.apply (.marker entry.requestId none)) := Confined.removal tape.store (.inl rfl)
  have lists : ∀ other, report.Lists other →
      ({ report with examined := report.examined + 1 } : RecoveryReport).Lists other := fun _ => id
  rw [indexRound, if_neg fresh, Script.run_read_bind] at returned
  dsimp only at returned
  split at returned
  next error unreadable =>
    cases returned
    refine progress.handle sound coverable marked removed (fun _ => id) ?_
    have settled : Settled pass.liveOwnerEpoch start tape.store report
        (entry.projectRoot, entry.requestId) := progress.settled_of_unreadable unreadable
    intro record open_
    obtain ⟨written, found, reached⟩ := settled record open_
    refine ⟨written, Eq.trans ?_ found, reached⟩
    exact congrArg (fun records => AList.lookup _ records) (Service.records_apply_marker _ _ _)
  next current read =>
    split at returned
    next terminal =>
      cases returned
      refine progress.handle sound coverable marked removed (fun _ => id) ?_
      exact PassProgress.settled_of_terminal read terminal
        (congrArg (fun records => AList.lookup _ records) (Service.records_apply_marker _ _ _))
    next isOpen =>
      generalize epoch : (if present entry.ownerEpoch = true then entry.ownerEpoch
        else current.dispatchOwnerEpoch) = recordEpoch at returned
      split at returned
      next live =>
        cases returned
        refine progress.handle sound coverable marked (.refl _) (fun _ => id) ?_
        refine progress.settled_of_live read (fun record open_ unhandled same => ?_)
        subst same
        rw [← epoch] at live
        by_cases owned : present entry.ownerEpoch = true
        · rw [if_pos owned] at live
          have before : (entry.projectRoot, entry.requestId) ∉ first :=
            fun member => unhandled (grown _ member)
          exact coverable.current name file raw entry record inside index
            (origin record open_ before) parsed open_
            (fun active => before (path.covered _ record active open_)) owned live.2
        · rw [if_neg owned] at live
          exact live.2
      next foreign =>
        obtain ⟨state, final, ran, done⟩ := Script.bind_eq_ok.mp returned
        cases done
        obtain ⟨written, wrote, recovered⟩ :=
          takeoverStaleRequest_ok read (eq_false_of_ne_true isOpen) ran
        refine progress.handle sound coverable marked
          ((writes.takeoverStaleRequest _ tape).of_run ran)
          (fun other listed => (lists other listed).noted _ _ state) ?_
        exact PassProgress.settled_of_recovered _ wrote recovered

/-- **One round of the second path.** -/
theorem indexRound_progress {next : RecoveryReport} (sound : start.Sound gateway.digests)
    (coverable : Coverable gateway.digests pass.liveOwnerEpoch start)
    (path : FirstPath start first processed) (grown : ∀ key ∈ first, key ∈ handled)
    (entered : Entered gateway.digests start first entry)
    (returned : (indexRound gateway pass processed entry report).run tape = (.ok next, after)) :
    ∃ more, (∀ key ∈ handled, key ∈ more) ∧
      PassProgress pass.liveOwnerEpoch start more after.store next ∧
      ∀ record, start.OpenAt (entry.projectRoot, entry.requestId) record →
        (entry.projectRoot, entry.requestId) ∈ more := by
  by_cases seen : entry.requestId ∈ processed
  · rw [indexRound, if_pos seen] at returned
    cases returned
    refine ⟨handled, fun _ => id, progress, fun record open_ => ?_⟩
    obtain ⟨_, _, _, _, _, _, marked, _⟩ := entered
    obtain ⟨key, member, same⟩ := path.processed entry.requestId seen
    -- Two different marked requests do not have the same id.
    by_cases equal : (entry.projectRoot, entry.requestId) = key
    · rw [equal]
      exact grown key member
    · have apart := coverable.apart _ record key marked open_
        (progress.marked key (grown key member)) equal
      exact absurd same.symm apart.1
  · exact ⟨_, fun key => mem_cons_of_mem _, indexRound_fresh progress sound coverable path
      grown entered seen returned, fun _ _ => mem_cons_self⟩

/-- **The second path** handles the open request of every entry. -/
theorem indexRounds_progress {entries : List WorkIndexEntry} {final : RecoveryReport}
    (sound : start.Sound gateway.digests)
    (coverable : Coverable gateway.digests pass.liveOwnerEpoch start)
    (path : FirstPath start first processed) (grown : ∀ key ∈ first, key ∈ handled)
    (entered : ∀ entry ∈ entries, Entered gateway.digests start first entry)
    (returned : (indexRounds gateway pass processed entries report).run tape = (.ok final, after)) :
    ∃ more, (∀ key ∈ handled, key ∈ more) ∧
      PassProgress pass.liveOwnerEpoch start more after.store final ∧
      ∀ entry ∈ entries, ∀ record, start.OpenAt (entry.projectRoot, entry.requestId) record →
        (entry.projectRoot, entry.requestId) ∈ more := by
  induction entries generalizing handled report tape with
  | nil =>
    cases returned
    exact ⟨handled, fun _ => id, progress, fun _ member => absurd member not_mem_nil⟩
  | cons entry entries ih =>
    obtain ⟨here, later⟩ := forall_mem_cons.mp entered
    obtain ⟨next, middle, ran, rest⟩ := Script.bind_eq_ok.mp returned
    obtain ⟨some_, more, moved, covered⟩ :=
      indexRound_progress progress sound coverable path grown here ran
    obtain ⟨all, moreAll, done, coveredAll⟩ :=
      ih moved (fun key member => more key (grown key member)) later rest
    refine ⟨all, fun key member => moreAll key (more key member), done, ?_⟩
    intro other member record open_
    rcases mem_cons.mp member with rfl | inTail
    · exact moreAll _ (covered record open_)
    · exact coveredAll other inTail record open_

end

/-- **A pass that returns settles every open request that had a marker.** -/
theorem recoverGatewayRequests_settles (sound : start.Sound gateway.digests)
    (hex : ∀ requestId, isIndexName (activeWorkName gateway.digests requestId) = false)
    (coverable : Coverable gateway.digests pass.liveOwnerEpoch start)
    (returned : (recoverGatewayRequests gateway pass).run ⟨[], start⟩ = (.ok report, after))
    (marked : start.Marked key) : Settled pass.liveOwnerEpoch start after.store report key := by
  intro record open_
  rw [recoverGatewayRequests, Script.run_read_bind] at returned
  obtain ⟨found, middle, firstRan, returned⟩ := Script.bind_eq_ok.mp returned
  rw [Script.run_read_bind] at returned
  obtain ⟨⟨entries, quarantined⟩, last, indexRan, secondRan⟩ := Script.bind_eq_ok.mp returned
  have begun : Discovered pass.liveOwnerEpoch start [] start {} :=
    ⟨PassProgress.initial _ _ _, fun _ => by simp⟩
  obtain ⟨first, _, discovered, firstCovered⟩ := activeRounds_discovered begun sound coverable
    (fun name member => by
      obtain ⟨member, active⟩ := mem_filter.mp member
      exact ⟨(mem_directoryNames.mp member).1, by simpa using active⟩) firstRan
  have path : FirstPath start first found.processed := by
    refine ⟨fun requestId => (discovered.processed requestId).mp, ?_⟩
    rintro other current ⟨name, file, inside, active, there, names⟩ isOpen
    refine firstCovered name ?_ file other current there names isOpen
    exact mem_filter.mpr ⟨mem_directoryNames.mpr ⟨inside, file, there⟩, by simp [active]⟩
  obtain ⟨kept, entered, complete⟩ := recoverWorkIndexEntries_entered discovered.progress sound hex
    (fun name member => by
      obtain ⟨member, index⟩ := mem_filter.mp member
      exact ⟨(mem_directoryNames.mp member).1, index⟩) indexRan
  have between : PassProgress pass.liveOwnerEpoch start first last.store
      { found.report with quarantined := found.report.quarantined + quarantined } :=
    kept.relist (fun _ => id)
  obtain ⟨all, grown, done, secondCovered⟩ :=
    indexRounds_progress between sound coverable path (fun _ => id) entered secondRan
  refine done.settled key ?_ record open_
  by_cases handled : key ∈ first
  · exact grown key handled
  -- Only the work index is left as the place where the request is found.
  obtain ⟨name, file, inside, there, names⟩ := coverable.found key record marked open_
  have index : isIndexName name = true := by
    by_contra active
    exact handled (path.covered key record
      ⟨name, file, inside, eq_false_of_ne_true active, there, names⟩ open_)
  have still := discovered.progress.markers key record open_ handled name file there names
  obtain ⟨entry, member, same⟩ := complete name (mem_filter.mpr
    ⟨mem_directoryNames.mpr ⟨inside, file, still⟩, index⟩) file key record there names open_
    handled
  rw [← same]
  exact secondCovered entry member record (same ▸ open_)

end Rounds

end Audiagentic.Gateway
