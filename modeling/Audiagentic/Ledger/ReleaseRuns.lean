import Audiagentic.Foundations.Runs
import Audiagentic.Ledger.Sources

/-!
# Releases over whole runs

What one call does to the files of the ledger is said once: either it writes event files only
(`Migrated`), or it also appends the pending events to the historical ledger under one release id
(`Releases`).  Everything about runs follows from these two.
-/

namespace Audiagentic.Ledger

open Foundations List OrderedDict Function

/-! ## Event files are write-once -/

def FilesKept (earlier later : OrderedDict Text Content) : Prop :=
  ∀ name content, earlier.get? name = some content → later.get? name = some content

theorem FilesKept.refl (files : OrderedDict Text Content) : FilesKept files files :=
  fun _ _ found => found

theorem FilesKept.trans {first second third : OrderedDict Text Content}
    (earlier : FilesKept first second) (later : FilesKept second third) : FilesKept first third :=
  fun name content found => later name content (earlier name content found)

variable {files : OrderedDict Text Content}

theorem FilesKept.set {name : Text} (absent : files.get? name = none) (content : Content) :
    FilesKept files (files.set name content) := by
  intro other kept found
  rw [get?_set_of_ne]
  · exact found
  · rintro rfl
    rw [absent] at found
    cases found

variable {host : LedgerHost} {event : Event}

theorem writeEvent_eq_ok {after : OrderedDict Text Content} {created : Bool}
    (valid : validChangeEvent event = true) (fits : fitsRole event .current = true)
    (written : writeEvent host files event = .ok (after, created)) :
    FilesKept files after ∧ ∃ content stored,
      after.get? (host.eventFileName (eventId event)) = some content ∧
        parseEventFile host (host.eventFileName (eventId event)) content = .ok stored ∧
        eventId stored = eventId event ∧ SameContent stored event := by
  unfold writeEvent at written
  simp only at written
  cases found : files.get? (host.eventFileName (eventId event)) with
  | none =>
    rw [found] at written
    cases written
    refine ⟨.set found _, _, event, get?_set_self _ _ _, ?_, rfl, .refl event⟩
    exact parseEventFile_eq_ok_iff.mpr ⟨rfl, valid, fits, rfl⟩
  | some content =>
    rw [found] at written
    obtain ⟨existing, parsed, written⟩ := bind_eq_ok.mp written
    obtain ⟨same, ended⟩ := refuse_bind_eq_ok.mp written
    cases ended
    have alike : sameIdentity existing event = true := Bool.not_eq_false _ |>.mp same
    have valid := (parseEventFile_eq_ok_iff.mp parsed).2.1
    exact ⟨.refl files, content, existing, found, parsed, eventId_of_sameIdentity valid alike,
      .inr alike⟩

theorem migrateEvent_kept {released : ById} {after : OrderedDict Text Content}
    (migrated : migrateEvent host released files event = .ok after) : FilesKept files after := by
  obtain ⟨read, validated, migrated⟩ := bind_eq_ok.mp migrated
  obtain ⟨_, valid, fits⟩ := validatePersistedEvent_eq_ok_iff.mp validated
  cases found : released.get? (eventId read) with
  | some prior =>
    rw [found] at migrated
    obtain ⟨_, ended⟩ := refuse_bind_eq_ok.mp migrated
    cases ended
    exact .refl files
  | none =>
    rw [found] at migrated
    obtain ⟨⟨written, created⟩, wrote, ended⟩ := bind_eq_ok.mp migrated
    cases ended
    exact (writeEvent_eq_ok valid fits wrote).1

theorem migrateFile_kept (host : LedgerHost) (released : ById)
    (state : OrderedDict Text Content × List RetainedFile) (file : RetainedFile) :
    FilesKept state.1 (migrateFile host released state file).1 := by
  unfold migrateFile
  split
  · exact .refl state.1
  · split
    · next migrated => exact migrateEvent_kept migrated
    · exact .refl state.1

theorem foldl_migrateFile_kept (host : LedgerHost) (released : ById) (files : List RetainedFile)
    (state : OrderedDict Text Content × List RetainedFile) :
    FilesKept state.1 (files.foldl (migrateFile host released) state).1 := by
  induction files generalizing state with
  | nil => exact .refl state.1
  | cons file files ih =>
    exact (migrateFile_kept host released state file).trans (ih _)

theorem mergeFiles_kept (theirs : List (Text × Content)) (files : OrderedDict Text Content) :
    FilesKept files (mergeFiles files theirs) := by
  unfold mergeFiles
  induction theirs generalizing files with
  | nil => exact .refl files
  | cons file theirs ih =>
    rw [foldl_cons]
    refine FilesKept.trans ?_ (ih _)
    by_cases present : files.has file.1 = true
    · rw [if_pos present]
      exact .refl files
    rw [if_neg present]
    refine .set ?_ _
    rwa [Bool.not_eq_true, OrderedDict.has, Option.isSome_eq_false_iff,
      Option.isNone_iff_eq_none] at present

/-! ## What one call does -/

structure Migrated (ledger after : LedgerFiles) : Prop where
  baseline : after.baseline = ledger.baseline
  files : FilesKept ledger.files after.files
  historical : after.historical = ledger.historical

theorem Migrated.refl (ledger : LedgerFiles) : Migrated ledger ledger :=
  ⟨rfl, .refl ledger.files, rfl⟩

variable {ledger after : LedgerFiles}

theorem Migrated.historicalEvents (migrated : Migrated ledger after) :
    historicalEvents after = historicalEvents ledger := by
  rw [Ledger.historicalEvents, migrated.historical, Ledger.historicalEvents]

theorem Migrated.pending_iff (migrated : Migrated ledger after) (identifier : Text) :
    Pending after identifier ↔ Pending ledger identifier := by
  rw [Pending, migrated.historicalEvents, Pending]

theorem SoundHistory.migrated (sound : SoundHistory ledger) (migrated : Migrated ledger after) :
    SoundHistory after where
  loads := migrated.historical ▸ sound.loads
  distinct := migrated.historicalEvents ▸ sound.distinct

structure Releases (host : LedgerHost) (ledger after : LedgerFiles) (releaseId : Text)
    (pending : List Event) : Prop where
  baseline : after.baseline = ledger.baseline
  files : FilesKept ledger.files after.files
  historical : after.historical =
    ledger.historical ++ pending.map fun event => some (.map (releaseEvent releaseId event))
  unused : eventsOfRelease releaseId (historicalEvents ledger) = []
  distinct : (pending.map eventId).Nodup
  stored : ∀ event ∈ pending, Stored host after event ∧ Pending ledger (eventId event)
  complete : ∀ event, Stored host after event → Pending ledger (eventId event) →
    ∃ kept ∈ pending, eventId kept = eventId event ∧ SameContent kept event
  valid : ∀ event ∈ pending,
    historicalEvent (some (.map (releaseEvent releaseId event))) =
      .ok (releaseEvent releaseId event)

variable {releaseId : Text}

theorem Releases.historicalEvents {pending : List Event}
    (releases : Releases host ledger after releaseId pending) :
    historicalEvents after =
      historicalEvents ledger ++ pending.map (releaseEvent releaseId) := by
  rw [Ledger.historicalEvents, releases.historical, filterMap_append, filterMap_map,
    ← Ledger.historicalEvents]
  have valid := releases.valid
  congr 1
  clear releases
  induction pending with
  | nil => rfl
  | cons event rest ih =>
    obtain ⟨here, later⟩ := forall_mem_cons.mp valid
    rw [filterMap_cons_some (b := releaseEvent releaseId event)
      (by rw [comp_apply, here]; rfl), ih later, map_cons]

theorem sortedIds_eq_nil_iff {events : List Event} : sortedIds events = [] ↔ events = [] := by
  rw [sortedIds, ← length_eq_zero_iff, length_insertionSort, length_map, length_eq_zero_iff]

theorem SoundHistory.planned {plan : ArchivePlan} (sound : SoundHistory ledger)
    (planned : planArchive host ledger releaseId = .ok plan) :
    ∃ pending, PendingRead host ledger pending ∧
      ((plan = ⟨sortedIds (eventsOfRelease releaseId (historicalEvents ledger)), none⟩ ∧
          (eventsOfRelease releaseId (historicalEvents ledger) ≠ [] ∨ pending = [])) ∨
        (eventsOfRelease releaseId (historicalEvents ledger) = [] ∧
          (∀ event ∈ pending, historicalEvent (some (.map (releaseEvent releaseId event))) =
            .ok (releaseEvent releaseId event)) ∧
          plan = ⟨sortedIds (pending.map (releaseEvent releaseId)),
            some (historicalEvents ledger ++ pending.map (releaseEvent releaseId))⟩)) := by
  obtain ⟨loaded, load, planned⟩ := bind_eq_ok.mp planned
  cases sound.load.symm.trans load
  obtain ⟨historical, merged, planned⟩ := bind_eq_ok.mp planned
  cases sound.merged.symm.trans merged
  obtain ⟨pending, read, planned⟩ := bind_eq_ok.mp planned
  have reading := sound.pending read
  refine ⟨pending, reading, ?_⟩
  simp only [ne_eq, sortedIds_eq_nil_iff] at planned
  split at planned
  next quiet =>
    cases planned
    exact .inl ⟨rfl, quiet⟩
  next loud =>
    rw [not_or, not_not] at loud
    obtain ⟨validated, checked, planned⟩ := bind_eq_ok.mp planned
    obtain ⟨all, merged, ended⟩ := bind_eq_ok.mp planned
    cases ended
    have each : ∀ event ∈ pending, historicalEvent (some (.map (releaseEvent releaseId event))) =
        .ok (releaseEvent releaseId event) := by
      intro event member
      obtain ⟨read, _, same⟩ := exists_of_mapM checked (List.mem_map_of_mem member)
      obtain ⟨alike, both⟩ := validatePersistedEvent_eq_ok_iff.mp same
      cases alike
      exact historicalEvent_eq_ok_iff.mpr ⟨rfl, both⟩
    have ids : ((historicalEvents ledger ++ pending.map (releaseEvent releaseId)).map
        eventId).Nodup := by
      rw [map_append, List.map_map]
      refine nodup_append'.mpr ⟨sound.distinct, ?_, ?_⟩
      · simpa [comp_def] using reading.distinct
      intro identifier old new
      obtain ⟨event, member, rfl⟩ := List.mem_map.mp new
      rw [comp_apply, eventId_releaseEvent] at old
      exact (reading.stored event member).2 old
    have named : ∀ event ∈ historicalEvents ledger ++ pending.map (releaseEvent releaseId),
        eventId event ≠ [] := by
      intro event member
      rcases mem_append.mp member with old | new
      · exact eventId_ne_nil (historical_valid old).1
      · obtain ⟨source, inside, rfl⟩ := List.mem_map.mp new
        exact eventId_ne_nil (historicalEvent_eq_ok_iff.mp (each source inside)).2.1
    cases (mergeHistoricalEvents_of_distinct named ids).symm.trans merged
    exact .inr ⟨loud.1, each, rfl⟩

/-- What `archive_current_ledger` may come to. -/
inductive ArchiveOutcome (host : LedgerHost) (ledger : LedgerFiles) (releaseId : Text) :
    Except LedgerError LedgerAnswer × LedgerFiles → Prop
  | raised (error : LedgerError) {after : LedgerFiles} (migrated : Migrated ledger after) :
      ArchiveOutcome host ledger releaseId (.error error, after)
  | crashed {after : LedgerFiles} (migrated : Migrated ledger after)
      (unused : eventsOfRelease releaseId (historicalEvents ledger) = []) :
      ArchiveOutcome host ledger releaseId (.ok .crashed, after)
  | quiet {after : LedgerFiles} (migrated : Migrated ledger after)
      (nothing : eventsOfRelease releaseId (historicalEvents ledger) ≠ [] ∨
        ∀ event, Stored host after event → ¬ Pending ledger (eventId event)) :
      ArchiveOutcome host ledger releaseId
        (.ok (.archived releaseId (sortedIds (eventsOfRelease releaseId
          (historicalEvents ledger)))),
          after)
  | releases {after : LedgerFiles} {pending : List Event}
      (releases : Releases host ledger after releaseId pending) :
      ArchiveOutcome host ledger releaseId
        (.ok (.archived releaseId (sortedIds (pending.map (releaseEvent releaseId)))), after)

theorem SoundHistory.migratedRuntime {migrated : LedgerFiles}
    (done : migrateLegacyRuntime host ledger = .ok migrated) : Migrated ledger migrated := by
  obtain ⟨released, _, done⟩ := bind_eq_ok.mp done
  cases done
  exact ⟨rfl, foldl_migrateFile_kept host released ledger.retained (ledger.files, []), rfl⟩

/-- **Every archive is one of these.** -/
theorem SoundHistory.archiveOutcome (host : LedgerHost) (sound : SoundHistory ledger)
    (releaseId : Text) (lockHeld crash : Bool) :
    ArchiveOutcome host ledger releaseId
      (archiveCurrentLedger host ledger releaseId lockHeld crash) := by
  unfold archiveCurrentLedger
  split
  · exact .raised _ (.refl ledger)
  next after done =>
    obtain ⟨_, _, done⟩ := bind_eq_ok.mp done
    obtain ⟨_, done⟩ := refuse_bind_eq_ok.mp done
    have migrated := SoundHistory.migratedRuntime done
    split
    · exact .raised _ migrated
    split
    · exact .raised _ migrated
    next plan planned =>
      obtain ⟨pending, reading, outcome⟩ := (sound.migrated migrated).planned planned
      rw [migrated.historicalEvents] at outcome
      rcases outcome with ⟨rfl, nothing⟩ | ⟨unused, valid, rfl⟩
      · refine .quiet migrated (nothing.imp_right ?_)
        rintro rfl event stored fresh
        obtain ⟨kept, impossible, _⟩ :=
          reading.complete event stored ((migrated.pending_iff _).mpr fresh)
        cases impossible
      · cases crash with
        | true => exact .crashed ⟨migrated.baseline, migrated.files, migrated.historical⟩ unused
        | false =>
          refine .releases ⟨migrated.baseline, migrated.files, ?_, unused,
            reading.distinct, fun event member => ?_, fun event stored fresh => ?_, valid⟩
          · rw [sound.lines, commitArchive]
            simp only [map_append, List.map_map]
            rfl
          · obtain ⟨stored, fresh⟩ := reading.stored event member
            exact ⟨stored, (migrated.pending_iff _).mp fresh⟩
          · exact reading.complete event stored ((migrated.pending_iff _).mpr fresh)

structure Recording (host : LedgerHost) (ledger : LedgerFiles) (event : Event) (identifier : Text)
    (files : OrderedDict Text Content) : Prop where
  identifier_eq : identifier = eventId event
  kept : FilesKept ledger.files files
  written : ∃ content stored, files.get? (host.eventFileName (eventId event)) = some content ∧
    parseEventFile host (host.eventFileName (eventId event)) content = .ok stored ∧
    eventId stored = eventId event ∧ SameContent stored event
  released : ∀ known, releasedEvents ledger = .ok known → checkReleased known event = .ok ()

theorem recordChangeEvent_eq_ok {now freshId : Text} {identifier : Text} {created : Bool}
    (done : recordChangeEvent host ledger now freshId event = .ok (files, identifier, created)) :
    Recording host ledger (completed now freshId event) identifier files := by
  unfold recordChangeEvent at done
  generalize completed now freshId event = asked at done ⊢
  obtain ⟨read, validated, done⟩ := bind_eq_ok.mp done
  obtain ⟨same, valid, fits⟩ := validatePersistedEvent_eq_ok_iff.mp validated
  cases same
  obtain ⟨known, loaded, done⟩ := bind_eq_ok.mp done
  obtain ⟨_, checked, done⟩ := bind_eq_ok.mp done
  obtain ⟨⟨after, was⟩, wrote, done⟩ := bind_eq_ok.mp done
  cases done
  obtain ⟨kept, written⟩ := writeEvent_eq_ok valid fits wrote
  exact ⟨rfl, kept, written, fun other same => by cases loaded.symm.trans same; exact checked⟩

theorem answer_archive (host : LedgerHost) (ledger : LedgerFiles) (releaseId : Text)
    (lockHeld crash : Bool) : answer host ledger (.archive releaseId lockHeld crash) =
      archiveCurrentLedger host ledger releaseId lockHeld crash := rfl

/-- **Every call adds event files at most, or releases what is pending.** -/
theorem SoundHistory.migrated_or_releases (host : LedgerHost) (sound : SoundHistory ledger)
    (call : LedgerCall) :
    Migrated ledger (callLedger host ledger call) ∨
      ∃ releaseId lockHeld crash pending, call = .archive releaseId lockHeld crash ∧
        (answer host ledger call).1 =
          .ok (.archived releaseId (sortedIds (pending.map (releaseEvent releaseId)))) ∧
        Releases host ledger (callLedger host ledger call) releaseId pending := by
  cases call with
  | record now freshId event =>
    left
    unfold callLedger answer
    simp only
    split
    · exact .refl ledger
    next files identifier created done =>
      exact ⟨rfl, (recordChangeEvent_eq_ok done).kept, rfl⟩
  | archive releaseId lockHeld crash =>
    have outcome := sound.archiveOutcome host releaseId lockHeld crash
    rw [callLedger, answer_archive]
    generalize archiveCurrentLedger host ledger releaseId lockHeld crash = result
      at outcome ⊢
    cases outcome with
    | raised _ migrated | crashed migrated | quiet migrated => exact .inl migrated
    | releases releases => exact .inr ⟨releaseId, lockHeld, crash, _, rfl, rfl, releases⟩
  | merge files => exact .inl ⟨rfl, mergeFiles_kept files ledger.files, rfl⟩

/-! ## Runs -/

theorem SoundHistory.after_releases {pending : List Event} (sound : SoundHistory ledger)
    (releases : Releases host ledger after releaseId pending) : SoundHistory after where
  loads := by
    intro content member
    rw [releases.historical] at member
    rcases mem_append.mp member with old | new
    · exact sound.loads content old
    · obtain ⟨event, inside, rfl⟩ := List.mem_map.mp new
      exact ⟨_, releases.valid event inside⟩
  distinct := by
    rw [releases.historicalEvents, map_append, List.map_map]
    refine nodup_append'.mpr ⟨sound.distinct, ?_, ?_⟩
    · simpa [comp_def] using releases.distinct
    intro identifier old new
    obtain ⟨event, member, rfl⟩ := List.mem_map.mp new
    rw [comp_apply, eventId_releaseEvent] at old
    exact (releases.stored event member).2 old

theorem SoundHistory.call (host : LedgerHost) (sound : SoundHistory ledger) (call : LedgerCall) :
    SoundHistory (callLedger host ledger call) := by
  rcases sound.migrated_or_releases host call with migrated | ⟨_, _, _, _, _, _, releases⟩
  · exact sound.migrated migrated
  · exact sound.after_releases releases

def ledgerAfter (host : LedgerHost) (start : LedgerFiles) (calls : List LedgerCall) :
    LedgerFiles :=
  exec (callLedger host) start calls

theorem ledgerAfter_append (host : LedgerHost) (start : LedgerFiles)
    (first second : List LedgerCall) : ledgerAfter host start (first ++ second) =
      ledgerAfter host (ledgerAfter host start first) second :=
  exec_append (callLedger host) start first second

theorem ledgerAfter_cons (host : LedgerHost) (start : LedgerFiles) (call : LedgerCall)
    (calls : List LedgerCall) : ledgerAfter host start (call :: calls) =
      ledgerAfter host (callLedger host start call) calls := rfl

theorem SoundHistory.run (host : LedgerHost) {start : LedgerFiles} (sound : SoundHistory start)
    (calls : List LedgerCall) : SoundHistory (ledgerAfter host start calls) :=
  exec_invariant (fun _ call sound => sound.call host call) sound calls

/-- Nothing was edited or taken away, and the historical ledger was only extended. -/
structure Extended (earlier later : LedgerFiles) : Prop where
  baseline : later.baseline = earlier.baseline
  files : FilesKept earlier.files later.files
  historical : earlier.historical <+: later.historical

theorem Extended.refl (ledger : LedgerFiles) : Extended ledger ledger :=
  ⟨rfl, .refl ledger.files, prefix_rfl⟩

theorem Extended.trans {first second third : LedgerFiles} (earlier : Extended first second)
    (later : Extended second third) : Extended first third where
  baseline := later.baseline.trans earlier.baseline
  files := earlier.files.trans later.files
  historical := earlier.historical.trans later.historical

theorem SoundHistory.extended_call (host : LedgerHost) (sound : SoundHistory ledger)
    (call : LedgerCall) : Extended ledger (callLedger host ledger call) := by
  rcases sound.migrated_or_releases host call with migrated | ⟨_, _, _, _, _, _, releases⟩
  · exact ⟨migrated.baseline, migrated.files, migrated.historical ▸ prefix_rfl⟩
  · exact ⟨releases.baseline, releases.files, releases.historical ▸ prefix_append _ _⟩

theorem SoundHistory.extended_run (host : LedgerHost) {start : LedgerFiles}
    (sound : SoundHistory start) (calls : List LedgerCall) :
    Extended start (ledgerAfter host start calls) :=
  exec_relates .refl (fun _ _ _ => .trans) (fun _ call sound => sound.call host call)
    (fun _ call sound => sound.extended_call host call) sound calls

/-! ## The partition -/

def ReleasedUnder (ledger : LedgerFiles) (identifier releaseId : Text) : Prop :=
  ∃ entry ∈ historicalEvents ledger, eventId entry = identifier ∧
    textField releaseIdKey entry = some releaseId

/-- Every stored event is pending or released, not both, and under one release id. -/
structure Partitioned (host : LedgerHost) (ledger : LedgerFiles) : Prop where
  split : ∀ event, Stored host ledger event → Pending ledger (eventId event) ∨
    ∃ releaseId, releaseId ≠ [] ∧ ReleasedUnder ledger (eventId event) releaseId
  exclusive : ∀ identifier releaseId, ReleasedUnder ledger identifier releaseId →
    ¬ Pending ledger identifier
  unique : ∀ identifier first second, ReleasedUnder ledger identifier first →
    ReleasedUnder ledger identifier second → first = second
  once : ((historicalEvents ledger).map eventId).Nodup
  listed : ∀ pending, pendingEvents host ledger = .ok pending →
    (pending.map eventId).Nodup ∧ ∀ identifier, identifier ∈ pending.map eventId ↔
      Pending ledger identifier ∧ ∃ event, Stored host ledger event ∧ eventId event = identifier

theorem exists_releaseId {entry : Event} (member : entry ∈ historicalEvents ledger) :
    ∃ releaseId, releaseId ≠ [] ∧ textField releaseIdKey entry = some releaseId := by
  have fits := (historical_valid member).2
  rw [fitsRole, Bool.and_eq_true] at fits
  cases found : textField releaseIdKey entry with
  | none =>
    rw [found] at fits
    cases fits.2
  | some releaseId =>
    rw [found] at fits
    exact ⟨releaseId, by simpa using fits.2, rfl⟩

theorem SoundHistory.partitioned (host : LedgerHost) (sound : SoundHistory ledger) :
    Partitioned host ledger where
  split := by
    intro event _
    by_cases pending : Pending ledger (eventId event)
    · exact .inl pending
    · obtain ⟨entry, member, named⟩ := List.mem_map.mp (not_not.mp pending)
      obtain ⟨releaseId, nonempty, found⟩ := exists_releaseId member
      exact .inr ⟨releaseId, nonempty, entry, member, named, found⟩
  exclusive := by
    rintro identifier releaseId ⟨entry, member, rfl, _⟩ pending
    exact pending (List.mem_map_of_mem member)
  unique := by
    rintro identifier first second ⟨entry, member, named, found⟩ ⟨other, inside, alike, read⟩
    cases inj_on_of_nodup_map sound.distinct member inside (named.trans alike.symm)
    exact Option.some.inj (found.symm.trans read)
  once := sound.distinct
  listed := by
    intro pending read
    have reading := sound.pending read
    refine ⟨reading.distinct, fun identifier => ⟨fun member => ?_, ?_⟩⟩
    · obtain ⟨event, inside, rfl⟩ := List.mem_map.mp member
      obtain ⟨stored, fresh⟩ := reading.stored event inside
      exact ⟨fresh, event, stored, rfl⟩
    · rintro ⟨fresh, event, stored, rfl⟩
      obtain ⟨kept, inside, named, _⟩ := reading.complete event stored fresh
      exact List.mem_map.mpr ⟨kept, inside, named⟩

/-! ## Recorded events -/

def KeptRecord (host : LedgerHost) (ledger : LedgerFiles) (event : Event) : Prop :=
  ∃ content stored, ledger.files.get? (host.eventFileName (eventId event)) = some content ∧
    parseEventFile host (host.eventFileName (eventId event)) content = .ok stored ∧
    eventId stored = eventId event ∧ SameContent stored event ∧
    ∀ entry ∈ historicalEvents ledger, eventId entry = eventId event →
      SameContent entry stored ∨ SameContent entry event

theorem SoundHistory.kept_recording {identifier : Text} (sound : SoundHistory ledger)
    (recording : Recording host ledger event identifier files) :
    KeptRecord host { ledger with files := files } event := by
  obtain ⟨content, stored, found, parsed, named, same⟩ := recording.written
  refine ⟨content, stored, found, parsed, named, same, fun entry member alike => ?_⟩
  obtain ⟨known, released, entries⟩ := sound.released
  have checked := recording.released known released
  have here : known.get? (eventId event) = some entry := by
    rw [← OrderedDict.mem_entries_iff, entries, ← alike]
    exact List.mem_map.mpr ⟨entry, member, rfl⟩
  rw [checkReleased, here] at checked
  exact .inr (.inr (Bool.not_eq_false _ |>.mp (refuse_eq_ok.mp checked)))

/-- **A recorded event stays recorded.** -/
theorem SoundHistory.kept_call (host : LedgerHost) (sound : SoundHistory ledger)
    (kept : KeptRecord host ledger event) (call : LedgerCall) :
    KeptRecord host (callLedger host ledger call) event := by
  obtain ⟨content, stored, found, parsed, named, same, alike⟩ := kept
  rcases sound.migrated_or_releases host call with migrated | ⟨releaseId, _, _, pending, _, _,
    releases⟩
  · refine ⟨content, stored, migrated.files _ _ found, parsed, named, same, ?_⟩
    rwa [migrated.historicalEvents]
  · have still := releases.files _ _ found
    refine ⟨content, stored, still, parsed, named, same, fun entry member same => ?_⟩
    rw [releases.historicalEvents] at member
    rcases mem_append.mp member with old | new
    · exact alike entry old same
    obtain ⟨event, inside, rfl⟩ := List.mem_map.mp new
    rw [eventId_releaseEvent] at same
    have fresh := (releases.stored event inside).2
    rw [same, ← named] at fresh
    obtain ⟨other, member, title, content⟩ :=
      releases.complete stored (.inr ⟨_, _, still, parsed⟩) fresh
    cases inj_on_of_nodup_map releases.distinct inside member
      (same.trans (named.symm.trans title.symm))
    left
    rwa [SameContent, sameIdentity, eventIdentity_releaseEvent]

theorem SoundHistory.kept_run (host : LedgerHost) (sound : SoundHistory ledger)
    (kept : KeptRecord host ledger event) (calls : List LedgerCall) :
    KeptRecord host (ledgerAfter host ledger calls) event := by
  have each : ∀ (ledger : LedgerFiles) (call : LedgerCall),
      SoundHistory ledger ∧ KeptRecord host ledger event →
        SoundHistory (callLedger host ledger call) ∧
          KeptRecord host (callLedger host ledger call) event :=
    fun _ call holds => ⟨holds.1.call host call, holds.1.kept_call host holds.2 call⟩
  exact (exec_invariant each ⟨sound, kept⟩ calls).2

/-! ## Archiving -/

theorem eventsOfRelease_releaseEvent (releaseId : Text) (events : List Event) :
    eventsOfRelease releaseId (events.map (releaseEvent releaseId)) =
      events.map (releaseEvent releaseId) := by
  refine filter_eq_self.mpr fun entry member => ?_
  obtain ⟨event, _, rfl⟩ := List.mem_map.mp member
  exact decide_eq_true (releaseId_releaseEvent releaseId event)

theorem eventsOfRelease_releaseEvent_of_ne {other : Text} (different : other ≠ releaseId)
    (events : List Event) : eventsOfRelease releaseId (events.map (releaseEvent other)) = [] := by
  refine filter_eq_nil_iff.mpr fun entry member => ?_
  obtain ⟨event, _, rfl⟩ := List.mem_map.mp member
  rw [releaseId_releaseEvent]
  simpa using different

theorem eventsOfRelease_append (releaseId : Text) (first second : List Event) :
    eventsOfRelease releaseId (first ++ second) =
      eventsOfRelease releaseId first ++ eventsOfRelease releaseId second :=
  filter_append ..

theorem Releases.nothing_pending {pending : List Event}
    (releases : Releases host ledger after releaseId pending) (stored : Stored host after event) :
    ¬ Pending after (eventId event) := by
  intro fresh
  rw [Pending, releases.historicalEvents, map_append, mem_append, not_or] at fresh
  obtain ⟨kept, inside, named, _⟩ := releases.complete event stored fresh.1
  refine fresh.2 (List.mem_map.mpr ⟨releaseEvent releaseId kept, List.mem_map_of_mem inside, ?_⟩)
  rw [eventId_releaseEvent, named]

structure Reported (host : LedgerHost) (ledger after : LedgerFiles) (releaseId : Text)
    (ids : List Text) : Prop where
  ids_eq : ids = sortedIds (eventsOfRelease releaseId (historicalEvents after))
  nothing_left : eventsOfRelease releaseId (historicalEvents ledger) = [] →
    ∀ event, Stored host after event → ¬ Pending after (eventId event)

/-- **An archive reports the events of its release.** -/
theorem SoundHistory.reported (host : LedgerHost) (sound : SoundHistory ledger) {got : Text}
    {lockHeld crash : Bool} {ids : List Text}
    (answered : (answer host ledger (.archive releaseId lockHeld crash)).1 =
      .ok (.archived got ids)) :
    got = releaseId ∧ Reported host ledger
      (callLedger host ledger (.archive releaseId lockHeld crash)) releaseId ids := by
  have outcome := sound.archiveOutcome host releaseId lockHeld crash
  rw [answer_archive] at answered
  rw [callLedger, answer_archive]
  generalize archiveCurrentLedger host ledger releaseId lockHeld crash = result
    at outcome answered ⊢
  cases outcome with
  | raised | crashed => cases answered
  | quiet migrated nothing =>
    cases answered
    refine ⟨rfl, by rw [migrated.historicalEvents], fun unused event stored fresh => ?_⟩
    rcases nothing with used | nothing
    · exact used unused
    · exact nothing event stored ((migrated.pending_iff _).mp fresh)
  | releases releases =>
    cases answered
    refine ⟨rfl, ?_, fun _ event stored => releases.nothing_pending stored⟩
    rw [releases.historicalEvents, eventsOfRelease_append, releases.unused,
      eventsOfRelease_releaseEvent, nil_append]

/-- **A release that has events is closed.** -/
theorem SoundHistory.eventsOfRelease_call (host : LedgerHost) (sound : SoundHistory ledger)
    (used : eventsOfRelease releaseId (historicalEvents ledger) ≠ []) (call : LedgerCall) :
    eventsOfRelease releaseId (historicalEvents (callLedger host ledger call)) =
      eventsOfRelease releaseId (historicalEvents ledger) := by
  rcases sound.migrated_or_releases host call with migrated | ⟨other, _, _, _, _, _, releases⟩
  · rw [migrated.historicalEvents]
  have different : other ≠ releaseId := by
    rintro rfl
    exact used releases.unused
  rw [releases.historicalEvents, eventsOfRelease_append,
    eventsOfRelease_releaseEvent_of_ne different, append_nil]

theorem SoundHistory.eventsOfRelease_run (host : LedgerHost) (sound : SoundHistory ledger)
    (used : eventsOfRelease releaseId (historicalEvents ledger) ≠ []) (calls : List LedgerCall) :
    eventsOfRelease releaseId (historicalEvents (ledgerAfter host ledger calls)) =
      eventsOfRelease releaseId (historicalEvents ledger) := by
  induction calls generalizing ledger with
  | nil => rfl
  | cons call calls ih =>
    have here := sound.eventsOfRelease_call host used call
    rw [ledgerAfter_cons, ih (sound.call host call) (here ▸ used), here]

/-- **Archiving a closed release reports it again and writes nothing.** -/
theorem SoundHistory.retried (host : LedgerHost) (sound : SoundHistory ledger)
    {lockHeld crash : Bool} {result : LedgerAnswer}
    (used : eventsOfRelease releaseId (historicalEvents ledger) ≠ [])
    (answered : (answer host ledger (.archive releaseId lockHeld crash)).1 = .ok result) :
    result = .archived releaseId
        (sortedIds (eventsOfRelease releaseId (historicalEvents ledger))) ∧
      (callLedger host ledger (.archive releaseId lockHeld crash)).historical =
        ledger.historical := by
  have outcome := sound.archiveOutcome host releaseId lockHeld crash
  rw [answer_archive] at answered
  rw [callLedger, answer_archive]
  generalize archiveCurrentLedger host ledger releaseId lockHeld crash = outcomes
    at outcome answered ⊢
  cases outcome with
  | raised error migrated => cases answered
  | crashed migrated unused => exact absurd unused used
  | quiet migrated nothing =>
    cases answered
    exact ⟨rfl, migrated.historical⟩
  | releases releases => exact absurd releases.unused used

/-! ## What releases promise -/

structure CallKept (host : LedgerHost) (ledger : LedgerFiles) (call : LedgerCall) : Prop where
  raised : ∀ error, (answer host ledger call).1 = .error error →
    (callLedger host ledger call).historical = ledger.historical
  crashed : (answer host ledger call).1 = .ok .crashed →
    (callLedger host ledger call).historical = ledger.historical
  appended : ∀ entry ∈ historicalEvents (callLedger host ledger call),
    entry ∈ historicalEvents ledger ∨ ∃ releaseId lockHeld crash event,
      call = .archive releaseId lockHeld crash ∧ entry = releaseEvent releaseId event ∧
        eventIdentity entry = eventIdentity event ∧
        Stored host (callLedger host ledger call) event ∧ Pending ledger (eventId event)
  archived : ∀ releaseId lockHeld crash got ids, call = .archive releaseId lockHeld crash →
    (answer host ledger call).1 = .ok (.archived got ids) →
      got = releaseId ∧ Reported host ledger (callLedger host ledger call) releaseId ids

theorem SoundHistory.callKept (host : LedgerHost) (sound : SoundHistory ledger)
    (call : LedgerCall) :
    CallKept host ledger call where
  raised := by
    intro error failed
    rcases sound.migrated_or_releases host call with migrated | ⟨_, _, _, _, _, answered, _⟩
    · exact migrated.historical
    · cases failed.symm.trans answered
  crashed := by
    intro failed
    rcases sound.migrated_or_releases host call with migrated | ⟨_, _, _, _, _, answered, _⟩
    · exact migrated.historical
    · cases failed.symm.trans answered
  appended := by
    intro entry member
    rcases sound.migrated_or_releases host call with
      migrated | ⟨releaseId, lockHeld, crash, pending, rfl, _, releases⟩
    · exact .inl (migrated.historicalEvents ▸ member)
    · rw [releases.historicalEvents] at member
      rcases mem_append.mp member with old | new
      · exact .inl old
      obtain ⟨event, inside, rfl⟩ := List.mem_map.mp new
      obtain ⟨stored, fresh⟩ := releases.stored event inside
      exact .inr ⟨releaseId, lockHeld, crash, event, rfl, rfl,
        eventIdentity_releaseEvent releaseId event, stored, fresh⟩
  archived := by
    rintro releaseId lockHeld crash got ids rfl answered
    exact sound.reported host answered

/-- **Releases partition the events, over every run.** -/
theorem releases_partition_the_events (host : LedgerHost) {start : LedgerFiles}
    (sound : SoundHistory start) (calls : List LedgerCall) :
    Partitioned host (ledgerAfter host start calls) ∧
      (∀ later, Extended (ledgerAfter host start calls) (ledgerAfter host start (calls ++ later))) ∧
      (∀ call, CallKept host (ledgerAfter host start calls) call) ∧
      (∀ now freshId event identifier created later,
        (answer host (ledgerAfter host start calls) (.record now freshId event)).1 =
            .ok (.recorded identifier created) →
          identifier = eventId (completed now freshId event) ∧
            KeptRecord host
              (ledgerAfter host start (calls ++ .record now freshId event :: later))
              (completed now freshId event)) ∧
      ∀ releaseId lockHeld crash ids later,
        (answer host (ledgerAfter host start calls) (.archive releaseId lockHeld crash)).1 =
            .ok (.archived releaseId ids) →
          ids ≠ [] → ∀ lockHeld' crash' result,
            let reached := ledgerAfter host start
              (calls ++ .archive releaseId lockHeld crash :: later)
            (answer host reached (.archive releaseId lockHeld' crash')).1 = .ok result →
              result = .archived releaseId ids ∧
                (callLedger host reached (.archive releaseId lockHeld' crash')).historical =
                  reached.historical := by
  have here := sound.run host calls
  refine ⟨here.partitioned host, fun later => ?_, here.callKept host,
    fun now freshId event identifier created later answered => ?_,
    fun releaseId lockHeld crash ids later answered some lockHeld' crash' result => ?_⟩
  · rw [ledgerAfter_append]
    exact here.extended_run host later
  · rw [ledgerAfter_append, ledgerAfter_cons]
    have next := here.call host (.record now freshId event)
    have kept : identifier = eventId (completed now freshId event) ∧
        KeptRecord host (callLedger host (ledgerAfter host start calls)
          (.record now freshId event)) (completed now freshId event) := by
      unfold callLedger
      unfold answer at answered ⊢
      simp only at answered ⊢
      split at answered
      · cases answered
      next files name was done =>
        cases answered
        have recording := recordChangeEvent_eq_ok done
        exact ⟨recording.identifier_eq, here.kept_recording recording⟩
    exact ⟨kept.1, next.kept_run host kept.2 later⟩
  · intro reached again
    have report := (here.reported host answered).2
    have next := here.call host (.archive releaseId lockHeld crash)
    have used : eventsOfRelease releaseId (historicalEvents (callLedger host
        (ledgerAfter host start calls) (.archive releaseId lockHeld crash))) ≠ [] :=
      fun nothing => some (report.ids_eq.trans (sortedIds_eq_nil_iff.mpr nothing))
    have same : reached = ledgerAfter host (callLedger host (ledgerAfter host start calls)
        (.archive releaseId lockHeld crash)) later := by
      rw [← ledgerAfter_cons, ← ledgerAfter_append]
    have closed := next.eventsOfRelease_run host used later
    rw [← same] at closed
    have soundLater : SoundHistory reached := same ▸ next.run host later
    obtain ⟨reported, kept⟩ := soundLater.retried host (closed.symm ▸ used) again
    exact ⟨by rw [reported, closed, ← report.ids_eq], kept⟩

/-! ### A ledger that has nothing yet -/

/-- A host that knows the file name of one event id. -/
def firstHost : LedgerHost where
  eventFileName identifier :=
    if identifier = "chg_1".toList then
      "fe0eed348c18390616bd9ef9df26e39579b14994a13fba68c7e54c74d86e9404.json".toList
    else identifier ++ ".json".toList
  lineDigest _ := []
  str _ := []

def noLedger : LedgerFiles where
  baseline := []
  files := ∅
  historical := []
  summaryReset := false
  retained := []

def firstEvent : Event :=
  [(eventIdKey, .scalar (.str "chg_1".toList)),
    ("change-class".toList, .scalar (.str "docs".toList)),
    ("files".toList, .list [.scalar (.str "README.md".toList)]),
    ("technical-summary".toList, .scalar (.str "A first text.".toList)),
    ("user-summary-candidate".toList, .scalar (.str "A first text.".toList)),
    (statusKey, .scalar (.str unreleased)),
    (timestampKey, .scalar (.str "2025-01-01T00:00:00Z".toList))]

theorem noLedger_sound : SoundHistory noLedger where
  loads := by
    intro content member
    cases member
  distinct := nodup_nil

/-- The first recorded event is released once and its release is closed. -/
theorem releases_partition_the_events_first :
    Partitioned firstHost (ledgerAfter firstHost noLedger
        [.record [] [] firstEvent, .archive "v1".toList false false]) ∧
      (answer firstHost (ledgerAfter firstHost noLedger
        [.record [] [] firstEvent, .archive "v1".toList false false])
          (.archive "v1".toList false false)).1 =
        .ok (.archived "v1".toList ["chg_1".toList]) := by
  obtain ⟨partitioned, _⟩ := releases_partition_the_events firstHost noLedger_sound
    [.record [] [] firstEvent, .archive "v1".toList false false]
  exact ⟨partitioned, rfl⟩

/-- **An empty release is not closed.**  Archiving it again takes the event recorded since. -/
theorem empty_release_takes_later_event :
    (answer firstHost noLedger (.archive "v1".toList false false)).1 =
        .ok (.archived "v1".toList []) ∧
      (answer firstHost (ledgerAfter firstHost noLedger
          [.archive "v1".toList false false, .record [] [] firstEvent])
          (.archive "v1".toList false false)).1 =
        .ok (.archived "v1".toList ["chg_1".toList]) :=
  ⟨rfl, rfl⟩

end Audiagentic.Ledger
