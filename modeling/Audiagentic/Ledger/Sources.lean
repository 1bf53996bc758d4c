import Audiagentic.Ledger.Archive

/-!
# What the sources of the ledger come to

What reading the three sources gives: the events of a sound historical ledger are read back in
order, the events of the baseline and of the event files are merged without losing an id, and the
pending events are those of the merged ones that the historical ledger does not have.
-/

namespace Audiagentic.Ledger

open Foundations List Bool Json

/-! ## The fields of a released event -/

theorem textField_set (key other text : Text) (event : Event) :
    textField other (OrderedDict.setEntries key (.scalar (.str text)) event) =
      if other = key then some text else textField other event := by
  unfold textField
  rw [lookup_set]
  by_cases same : other = key
  · rw [if_pos same, if_pos same]
  · rw [if_neg same, if_neg same]

@[simp] theorem eventId_releaseEvent (releaseId : Text) (event : Event) :
    eventId (releaseEvent releaseId event) = eventId event := by
  rw [eventId, releaseEvent, textField_set, if_neg (by decide), textField_set,
    if_neg (by decide), eventId]

@[simp] theorem releaseId_releaseEvent (releaseId : Text) (event : Event) :
    textField releaseIdKey (releaseEvent releaseId event) = some releaseId := by
  rw [releaseEvent, textField_set, if_pos rfl]

/-- **Releasing an event changes annotations only.** -/
@[simp] theorem eventIdentity_releaseEvent (releaseId : Text) (event : Event) :
    eventIdentity (releaseEvent releaseId event) = eventIdentity event := by
  have status : statusKey ∈ annotations := by decide
  have release : releaseIdKey ∈ annotations := by decide
  rw [eventIdentity, releaseEvent, OrderedDict.filter_setEntries (fun _ => by simp [release]),
    OrderedDict.filter_setEntries (fun _ => by simp [status]), eventIdentity]

def SameContent (first second : Event) : Prop :=
  eventIdentity first = eventIdentity second ∨ sameIdentity first second = true

theorem SameContent.refl (event : Event) : SameContent event event := .inl rfl

variable {event : Event}

theorem textField_eq_some_iff {key text : Text} :
    textField key event = some text ↔ Json.lookup key event = some (.scalar (.str text)) := by
  unfold textField
  split
  · next found => simp [found]
  next other =>
    constructor
    · intro impossible
      cases impossible
    · intro found
      exact absurd found (other text)

theorem lookup_eventIdentity {key : Text} (content : key ∉ annotations) (event : Event) :
    Json.lookup key (eventIdentity event) = Json.lookup key event := by
  unfold eventIdentity
  induction event with
  | nil => rfl
  | cons entry rest ih =>
    obtain ⟨other, value⟩ := entry
    by_cases same : other = key
    · subst same
      rw [filter_cons_of_pos (by simpa using content), Json.lookup_cons_self, Json.lookup_cons_self]
    rw [lookup_cons_of_ne same, ← ih, filter_cons]
    split
    · rw [lookup_cons_of_ne same]
    · rfl

theorem textField_of_sameIdentity {first second : Event}
    (same : sameIdentity first second = true) {key text : Text} (content : key ∉ annotations)
    (found : textField key first = some text) : textField key second = some text := by
  rw [textField_eq_some_iff, ← lookup_eventIdentity content] at found ⊢
  have entries : Json.sameEntries Scalar.equal (eventIdentity first) (eventIdentity second) =
      true := by
    rw [sameIdentity, equalValues, Json.sameBy, and_eq_true] at same
    exact same.2
  obtain ⟨value, there, equal⟩ := lookup_of_sameEntries entries found
  rw [there]
  cases value with
  | null | list | map => cases equal
  | scalar scalar =>
    rw [Json.sameBy] at equal
    cases scalar with
    | str other =>
      rw [Scalar.equal, Scalar.number?] at equal
      cases eq_of_beq equal
      rfl
    | bool | int | float => cases equal

/-! ## Validated events -/

theorem validatePersistedEvent_eq_ok_iff {role : Role} {value : Json Scalar} :
    validatePersistedEvent role value = .ok event ↔
      value = .map event ∧ validChangeEvent event = true ∧ fitsRole event role = true := by
  cases value with
  | null | scalar | list => constructor <;> simp [validatePersistedEvent]
  | map entries =>
    rw [validatePersistedEvent, refuse_bind_eq_ok, refuse_bind_eq_ok, not_eq_false, not_eq_false]
    constructor
    · rintro ⟨valid, fits, same⟩
      cases same
      exact ⟨rfl, valid, fits⟩
    · rintro ⟨same, valid, fits⟩
      cases same
      exact ⟨valid, fits, rfl⟩

theorem exists_eventId (valid : validChangeEvent event = true) :
    ∃ text, textField eventIdKey event = some text ∧ text ≠ [] := by
  have named : isNameField "._'(),-".toList eventIdKey event = true := by
    unfold validChangeEvent at valid
    simp only [and_eq_true] at valid
    exact valid.1.1.1.1.1.1.1.1.1
  unfold isNameField at named
  cases found : textField eventIdKey event with
  | none =>
    rw [found] at named
    cases named
  | some text =>
    rw [found] at named
    simp only [and_eq_true, decide_eq_true_eq] at named
    exact ⟨text, rfl, length_pos_iff.mp named.1.1⟩

theorem eventId_ne_nil (valid : validChangeEvent event = true) : eventId event ≠ [] := by
  obtain ⟨text, found, named⟩ := exists_eventId valid
  rwa [eventId, found]

theorem eventId_of_sameIdentity {first second : Event}
    (valid : validChangeEvent first = true) (same : sameIdentity first second = true) :
    eventId first = eventId second := by
  obtain ⟨text, found, _⟩ := exists_eventId valid
  rw [eventId, found, eventId, textField_of_sameIdentity same (by decide) found]

theorem historicalEvent_eq_ok_iff {content : Content} :
    historicalEvent content = .ok event ↔ content = some (.map event) ∧
      validChangeEvent event = true ∧ fitsRole event .historical = true := by
  cases content with
  | none => constructor <;> simp [historicalEvent]
  | some value => rw [historicalEvent, validatePersistedEvent_eq_ok_iff, Option.some.injEq]

variable {host : LedgerHost}

theorem parseEventFile_eq_ok_iff {name : Text} {content : Content} :
    parseEventFile host name content = .ok event ↔ content = some (.map event) ∧
      validChangeEvent event = true ∧ fitsRole event .current = true ∧
      host.eventFileName (eventId event) = name := by
  cases content with
  | none => constructor <;> simp [parseEventFile]
  | some value =>
    rw [parseEventFile, bind_eq_ok]
    constructor
    · rintro ⟨read, valid, rest⟩
      obtain ⟨named, same⟩ := refuse_bind_eq_ok.mp rest
      cases same
      obtain ⟨rfl, valid, fits⟩ := validatePersistedEvent_eq_ok_iff.mp valid
      exact ⟨rfl, valid, fits, not_not.mp named⟩
    · rintro ⟨same, valid, fits, named⟩
      cases same
      exact ⟨event, validatePersistedEvent_eq_ok_iff.mpr ⟨rfl, valid, fits⟩,
        refuse_bind_eq_ok.mpr ⟨not_not.mpr named, rfl⟩⟩

/-! ## Events by id -/

def Keyed (known : ById) : Prop := ∀ entry ∈ known.entries, eventId entry.2 = entry.1

theorem keyed_empty : Keyed ∅ := by
  intro entry member
  cases member

variable {known : ById}

theorem Keyed.set (keyed : Keyed known) (event : Event) :
    Keyed (known.set (eventId event) event) := by
  rintro ⟨key, value⟩ member
  rw [OrderedDict.mem_entries_iff, OrderedDict.get?_set] at member
  split at member
  next same =>
    cases member
    exact same.symm
  · exact keyed _ (OrderedDict.mem_entries_iff.mpr member)

theorem Keyed.ids (keyed : Keyed known) :
    (known.entries.map Prod.snd).map eventId = known.keys := by
  rw [List.map_map]
  exact map_congr_left keyed

/-- **Events with new ids are added in order.** -/
theorem foldlM_fresh {round : ById → Event → Except LedgerError ById} {events : List Event}
    (adds : ∀ (known : ById), ∀ event ∈ events, known.get? (eventId event) = none →
      round known event = .ok (known.set (eventId event) event))
    {known : ById} (fresh : ∀ event ∈ events, known.get? (eventId event) = none)
    (distinct : (events.map eventId).Nodup) :
    ∃ final, events.foldlM round known = .ok final ∧
      final.entries = known.entries ++ events.map fun event => (eventId event, event) := by
  induction events generalizing known with
  | nil => exact ⟨known, rfl, (append_nil _).symm⟩
  | cons event events ih =>
    obtain ⟨different, distinct⟩ := nodup_cons.mp distinct
    obtain ⟨here, later⟩ := forall_mem_cons.mp fresh
    have still : ∀ other ∈ events,
        (known.set (eventId event) event).get? (eventId other) = none := by
      intro other member
      rw [OrderedDict.get?_set_of_ne]
      · exact later other member
      · intro same
        exact different (same ▸ List.mem_map_of_mem member)
    obtain ⟨final, ended, entries⟩ := ih
      (fun known other member => adds known other (mem_cons_of_mem _ member)) still distinct
    refine ⟨final, ?_, ?_⟩
    · rw [foldlM_cons, adds known event mem_cons_self here]
      exact ended
    · rw [entries, OrderedDict.entries_set_of_not_mem here, map_cons, append_assoc]
      rfl

theorem addHistorical_fresh (named : eventId event ≠ [])
    (fresh : known.get? (eventId event) = none) :
    addHistorical known event = .ok (known.set (eventId event) event) := by
  rw [addHistorical, refuse_of_not (by simpa using named), fresh]
  rfl

theorem addReleased_fresh (fresh : known.get? (eventId event) = none) :
    addReleased known event = .ok (known.set (eventId event) event) := by
  rw [addReleased, fresh]

/-- **Historical events of distinct ids are merged by appending.** -/
theorem mergeHistoricalEvents_of_distinct {historical incoming : List Event}
    (named : ∀ event ∈ historical ++ incoming, eventId event ≠ [])
    (distinct : ((historical ++ incoming).map eventId).Nodup) :
    mergeHistoricalEvents historical incoming = .ok (historical ++ incoming) := by
  obtain ⟨final, ended, entries⟩ := @foldlM_fresh addHistorical _
    (fun _ event member fresh => addHistorical_fresh (named event member) fresh) ∅
    (fun _ _ => rfl) distinct
  have values : final.entries.map Prod.snd = historical ++ incoming := by
    rw [entries, map_append, List.map_map]
    exact List.map_id _
  rw [mergeHistoricalEvents, ended]
  exact congrArg Except.ok values

/-! ## The historical ledger -/

def historicalEvents (ledger : LedgerFiles) : List Event :=
  ledger.historical.filterMap fun content => (historicalEvent content).toOption

structure SoundHistory (ledger : LedgerFiles) : Prop where
  loads : ∀ content ∈ ledger.historical, ∃ event, historicalEvent content = .ok event
  distinct : ((historicalEvents ledger).map eventId).Nodup

variable {ledger : LedgerFiles}

theorem loadHistorical_of_loads
    (loads : ∀ content ∈ ledger.historical, ∃ event, historicalEvent content = .ok event) :
    loadHistorical ledger = .ok (historicalEvents ledger) := by
  rw [loadHistorical, mapM_eq_ok_iff, historicalEvents]
  generalize ledger.historical = contents at loads ⊢
  induction contents with
  | nil => exact .nil
  | cons content rest ih =>
    obtain ⟨⟨event, here⟩, later⟩ := forall_mem_cons.mp loads
    rw [filterMap_cons_some (by rw [here]; rfl)]
    exact .cons here (ih later)

theorem SoundHistory.load (sound : SoundHistory ledger) :
    loadHistorical ledger = .ok (historicalEvents ledger) :=
  loadHistorical_of_loads sound.loads

theorem mem_historicalEvents :
    event ∈ historicalEvents ledger ↔
      ∃ content ∈ ledger.historical, historicalEvent content = .ok event := by
  rw [historicalEvents, mem_filterMap]
  constructor
  · rintro ⟨content, member, read⟩
    refine ⟨content, member, ?_⟩
    cases found : historicalEvent content with
    | error error =>
      rw [found] at read
      cases read
    | ok other =>
      rw [found] at read
      cases read
      rfl
  · rintro ⟨content, member, read⟩
    exact ⟨content, member, by rw [read]; rfl⟩

theorem historical_valid (member : event ∈ historicalEvents ledger) :
    validChangeEvent event = true ∧ fitsRole event .historical = true := by
  obtain ⟨content, _, read⟩ := mem_historicalEvents.mp member
  exact (historicalEvent_eq_ok_iff.mp read).2

theorem SoundHistory.lines (sound : SoundHistory ledger) :
    ledger.historical = (historicalEvents ledger).map fun event => some (.map event) := by
  have each := mapM_eq_ok_iff.mp sound.load
  rw [← forall₂_eq_eq_eq, forall₂_map_right_iff]
  exact each.imp fun content event read => (historicalEvent_eq_ok_iff.mp read).1

/-- **The historical ledger by id.** -/
theorem SoundHistory.released (sound : SoundHistory ledger) :
    ∃ known, releasedEvents ledger = .ok known ∧
      known.entries = (historicalEvents ledger).map fun event => (eventId event, event) := by
  obtain ⟨known, ended, entries⟩ := @foldlM_fresh addReleased _
    (fun _ _ _ fresh => addReleased_fresh fresh) ∅ (fun _ _ => rfl) sound.distinct
  refine ⟨known, ?_, entries⟩
  rw [releasedEvents, sound.load]
  exact ended

theorem SoundHistory.merged (sound : SoundHistory ledger) :
    mergeHistoricalEvents (historicalEvents ledger) [] = .ok (historicalEvents ledger) := by
  have named : ∀ event ∈ historicalEvents ledger, eventId event ≠ [] :=
    fun event member => eventId_ne_nil (historical_valid member).1
  have kept := @mergeHistoricalEvents_of_distinct (historicalEvents ledger) []
    (by rwa [append_nil]) (by rw [append_nil]; exact sound.distinct)
  rwa [append_nil] at kept

/-- The id is not in the historical ledger. -/
def Pending (ledger : LedgerFiles) (identifier : Text) : Prop :=
  identifier ∉ (historicalEvents ledger).map eventId

theorem has_eq_false_iff
    (entries : known.entries = (historicalEvents ledger).map fun event => (eventId event, event))
    (identifier : Text) : known.has identifier = false ↔ Pending ledger identifier := by
  have keys : known.keys = (historicalEvents ledger).map eventId := by
    rw [OrderedDict.keys, entries, List.map_map]
    rfl
  rw [OrderedDict.has, Option.isSome_eq_false_iff, Option.isNone_iff_eq_none,
    OrderedDict.get?_eq_none_iff, keys, Pending]

/-! ## Stored events -/

def InBaseline (host : LedgerHost) (ledger : LedgerFiles) (event : Event) : Prop :=
  ∃ rows, legacyRows host 1 ledger.baseline = .ok rows ∧ event ∈ rows

def InFile (host : LedgerHost) (ledger : LedgerFiles) (event : Event) : Prop :=
  ∃ name content, ledger.files.get? name = some content ∧
    parseEventFile host name content = .ok event

def Stored (host : LedgerHost) (ledger : LedgerFiles) (event : Event) : Prop :=
  InBaseline host ledger event ∨ InFile host ledger event

theorem mem_recordedEvents {recorded : List Event}
    (read : recordedEvents host ledger = .ok recorded) :
    event ∈ recorded ↔ InFile host ledger event := by
  have files : ∀ file, file ∈ eventFiles ledger ↔ ledger.files.get? file.1 = some file.2 := by
    rintro ⟨name, content⟩
    rw [eventFiles, mem_insertionSort, OrderedDict.mem_entries_iff]
  constructor
  · intro member
    obtain ⟨file, inside, parsed⟩ := exists_of_mem_mapM read member
    exact ⟨file.1, file.2, (files file).mp inside, parsed⟩
  rintro ⟨name, content, found, parsed⟩
  obtain ⟨other, inside, same⟩ := exists_of_mapM read ((files (name, content)).mpr found)
  cases parsed.symm.trans same
  exact inside

theorem addEvent_eq_ok {next : ById} (passed : addEvent known event = .ok next) :
    (known.get? (eventId event) = none ∧ next = known.set (eventId event) event) ∨
      ∃ other, known.get? (eventId event) = some other ∧ sameIdentity other event = true ∧
        next = known := by
  unfold addEvent at passed
  cases found : known.get? (eventId event) with
  | none =>
    rw [found] at passed
    cases passed
    exact .inl ⟨rfl, rfl⟩
  | some other =>
    rw [found] at passed
    obtain ⟨same, ended⟩ := refuse_bind_eq_ok.mp passed
    cases ended
    exact .inr ⟨other, rfl, not_eq_false _ |>.mp same, rfl⟩

/-- What `_merge` makes of events that are added to known ones. -/
structure Merged (known : ById) (events : List Event) (final : ById) : Prop where
  origin : ∀ identifier event, final.get? identifier = some event →
    known.get? identifier = some event ∨ event ∈ events
  kept : ∀ identifier event, known.get? identifier = some event →
    final.get? identifier = some event
  complete : ∀ event ∈ events, ∃ kept, final.get? (eventId event) = some kept ∧
    SameContent kept event

theorem merged_addEvent {next : ById} (passed : addEvent known event = .ok next) :
    Merged known [event] next := by
  rcases addEvent_eq_ok passed with ⟨fresh, rfl⟩ | ⟨other, found, same, rfl⟩
  · refine ⟨fun identifier kept here => ?_, fun identifier kept here => ?_, fun other member => ?_⟩
    · rw [OrderedDict.get?_set] at here
      split at here
      · cases here
        exact .inr mem_cons_self
      · exact .inl here
    · rw [OrderedDict.get?_set_of_ne]
      · exact here
      · rintro rfl
        rw [fresh] at here
        cases here
    · cases mem_singleton.mp member
      exact ⟨event, OrderedDict.get?_set_self _ _ _, .refl event⟩
  · refine ⟨fun _ _ here => .inl here, fun _ _ here => here, fun third member => ?_⟩
    cases mem_singleton.mp member
    exact ⟨other, found, .inr same⟩

/-- **The merge of sources loses no id and makes up no event.** -/
theorem merged_foldlM {events : List Event} {final : ById}
    (ended : events.foldlM addEvent known = .ok final) : Merged known events final := by
  induction events generalizing known with
  | nil =>
    cases ended
    exact ⟨fun _ _ here => .inl here, fun _ _ here => here, fun _ member => by cases member⟩
  | cons event events ih =>
    rw [foldlM_cons, bind_eq_ok] at ended
    obtain ⟨next, passed, later⟩ := ended
    have first := merged_addEvent passed
    have rest := ih later
    refine ⟨fun identifier kept here => ?_, fun identifier kept here => ?_, fun other member => ?_⟩
    · rcases rest.origin identifier kept here with found | member
      · rcases first.origin identifier kept found with found | member
        · exact .inl found
        · exact .inr (mem_singleton.mp member ▸ mem_cons_self)
      · exact .inr (mem_cons_of_mem _ member)
    · exact rest.kept identifier kept (first.kept identifier kept here)
    · rcases mem_cons.mp member with rfl | member
      · obtain ⟨kept, found, same⟩ := first.complete other mem_cons_self
        exact ⟨kept, rest.kept _ _ found, same⟩
      · exact rest.complete other member

theorem keyed_foldlM {events : List Event} {final : ById}
    (ended : events.foldlM addEvent ∅ = .ok final) : Keyed final := by
  refine foldlM_invariant (fun known event _ next keyed passed => ?_) ended keyed_empty
  rcases addEvent_eq_ok passed with ⟨_, rfl⟩ | ⟨_, _, _, rfl⟩
  · exact keyed.set event
  · exact keyed

/-- What `iter_events` gives. -/
structure Iterated (host : LedgerHost) (ledger : LedgerFiles) (events : List Event) : Prop where
  distinct : (events.map eventId).Nodup
  stored : ∀ event ∈ events, Stored host ledger event
  complete : ∀ event, Stored host ledger event →
    ∃ kept ∈ events, eventId kept = eventId event ∧ SameContent kept event

/-- **The events of all sources, each id once.** -/
theorem iterated_of_iterEvents {events : List Event} (read : iterEvents host ledger = .ok events) :
    Iterated host ledger events := by
  obtain ⟨baseline, rows, read⟩ := bind_eq_ok.mp read
  obtain ⟨recorded, files, read⟩ := bind_eq_ok.mp read
  obtain ⟨final, ended, same⟩ := bind_eq_ok.mp read
  cases same
  have keyed := keyed_foldlM ended
  have merged := merged_foldlM ended
  have sources : ∀ event, event ∈ baseline ++ recorded.insertionSort (recordedBefore host) ↔
      Stored host ledger event := by
    intro event
    rw [mem_append, mem_insertionSort, mem_recordedEvents files, Stored, InBaseline, rows]
    simp
  have members : ∀ event, event ∈ final.entries.map Prod.snd ↔
      final.get? (eventId event) = some event := by
    intro event
    rw [← OrderedDict.mem_entries_iff]
    constructor
    · intro member
      obtain ⟨⟨identifier, value⟩, here, rfl⟩ := List.mem_map.mp member
      exact keyed _ here ▸ here
    · exact fun here => List.mem_map.mpr ⟨_, here, rfl⟩
  refine ⟨keyed.ids ▸ final.nodup, fun event member => ?_, fun event stored => ?_⟩
  · rcases merged.origin _ _ ((members event).mp member) with impossible | member
    · cases impossible
    · exact (sources event).mp member
  obtain ⟨kept, found, same⟩ := merged.complete event ((sources event).mpr stored)
  have named : eventId kept = eventId event :=
    keyed _ (OrderedDict.mem_entries_iff.mpr found)
  exact ⟨kept, (members kept).mpr (named ▸ found), named, same⟩

/-! ## Pending events -/

/-- What `pending_events` gives. -/
structure PendingRead (host : LedgerHost) (ledger : LedgerFiles) (pending : List Event) :
    Prop where
  distinct : (pending.map eventId).Nodup
  stored : ∀ event ∈ pending, Stored host ledger event ∧ Pending ledger (eventId event)
  complete : ∀ event, Stored host ledger event → Pending ledger (eventId event) →
    ∃ kept ∈ pending, eventId kept = eventId event ∧ SameContent kept event

/-- **The pending events are the stored ones that the historical ledger does not have.** -/
theorem SoundHistory.pending {pending : List Event} (sound : SoundHistory ledger)
    (read : pendingEvents host ledger = .ok pending) : PendingRead host ledger pending := by
  obtain ⟨known, released, entries⟩ := sound.released
  obtain ⟨⟨events, others⟩, reconciled, same⟩ := bind_eq_ok.mp read
  cases same
  obtain ⟨found, read, reconciled⟩ := bind_eq_ok.mp reconciled
  cases released.symm.trans read
  obtain ⟨merged, iterated, reconciled⟩ := bind_eq_ok.mp reconciled
  obtain ⟨_, _, same⟩ := bind_eq_ok.mp reconciled
  cases same
  have all := iterated_of_iterEvents iterated
  have members : ∀ event, event ∈ events.filter (fun event => !known.has (eventId event)) ↔
      event ∈ events ∧ Pending ledger (eventId event) := by
    intro event
    rw [mem_filter, not_eq_true', has_eq_false_iff entries]
  refine ⟨all.distinct.sublist (filter_sublist.map eventId), fun event member => ?_,
    fun event stored pending => ?_⟩
  · obtain ⟨member, pending⟩ := (members event).mp member
    exact ⟨all.stored event member, pending⟩
  · obtain ⟨kept, member, named, same⟩ := all.complete event stored
    exact ⟨kept, (members kept).mpr ⟨member, named ▸ pending⟩, named, same⟩

end Audiagentic.Ledger
