import Audiagentic.Gateway.Admission
import Audiagentic.Gateway.DispatchRuns

/-!
# Runs of admission

Any number of callers admit requests to one project.  A caller prepares its call
without the admission lock and enters later; it may stop after any of its durable
writes, the index files may hold anything at any time, and the store's other
operations rewrite records in between.  `Sound` is what holds in every state that
such a run reaches.
-/

namespace Audiagentic.Gateway

open Foundations
open List (forall_mem_append prefix_refl)

/-! ## What a call writes -/

/-- The write touches an index file only. -/
def AdmissionWrite.indexOnly : AdmissionWrite → Bool
  | .unlinkIndex _ | .writeIndex _ _ _ => true
  | .writeSequence _ | .writeRecord _ => false

structure SameFiles (before after : Project) : Prop where
  records : after.records = before.records
  sequence : after.sequence = before.sequence

variable {after : Project}

theorem SameFiles.apply {before : Project} (same : SameFiles before after) {entry : AdmissionWrite}
    (indexOnly : entry.indexOnly = true) : SameFiles before (after.apply entry) := by
  cases entry with
  | unlinkIndex | writeIndex => exact ⟨same.records, same.sequence⟩
  | writeSequence | writeRecord => cases indexOnly

/-- Index writes, all of them or some, leave the records and the sequence file. -/
theorem sameFiles_exec (project : Project) {entries : List AdmissionWrite}
    (indexOnly : ∀ entry ∈ entries, entry.indexOnly = true) :
    SameFiles project (exec Project.apply project entries) := by
  have run : Admissible Project.apply (fun _ entry => entry.indexOnly = true) project entries :=
    admissible_of_mem indexOnly project
  exact run.invariant (fun _ _ same here => same.apply here) ⟨rfl, rfl⟩

section Calls

variable {digests : AdmissionDigests} {prepared : PreparedAdmission}
  {outside : String → Except GatewayError Record} {beforeWrite : Except GatewayError Unit}
  {project : Project}

theorem indexedRecord_indexOnly :
    ∀ entry ∈ (indexedRecord digests prepared outside project).writes,
      entry.indexOnly = true := by
  unfold indexedRecord
  split
  · simp
  · simp
  · split
    · simp [AdmissionWrite.indexOnly]
    split
    · unfold refuse
      split <;> simp [AdmissionWrite.indexOnly]
    split
    · simp [AdmissionWrite.indexOnly]
    · unfold refuse
      dsimp only
      split <;> split <;> simp [AdmissionWrite.indexOnly]

def creationWrites (digests : AdmissionDigests) (prepared : PreparedAdmission)
    (candidate : Record) : List AdmissionWrite :=
  [.writeRecord candidate.redactForPersistence,
    .writeIndex prepared.keyDigest (prepared.intentDigest digests) candidate.admission.requestId]

theorem writeRecord_cases (candidate : Record) :
    (∃ failure, writeRecord project candidate = ⟨[], .error failure⟩) ∨
      writeRecord project candidate =
        ⟨[.writeRecord candidate.redactForPersistence], .ok ()⟩ := by
  unfold writeRecord
  rcases refuse (candidate.admission.requestId = "") (agentsError "VAL-AGW-003"
      "gateway request record missing request-id") with failure | _
  · exact .inl ⟨failure, rfl⟩
  · rcases candidate.validate "VAL-AGW-004" with failure | _
    · exact .inl ⟨failure, rfl⟩
    rcases refuse (∃ previous ∈ project.record? candidate.admission.requestId,
        previous.admission.nodeAdmission ≠ candidate.admission.nodeAdmission)
        (agentsError "VAL-AGW-098"
          "Node admission descriptor is immutable after record creation") with failure | _
    · exact .inl ⟨failure, rfl⟩
    · exact .inr rfl

theorem writeCandidate_written (candidate : Record) :
    (writeRecord project candidate >>= fun _ => (Journal.write (.writeIndex prepared.keyDigest
        (prepared.intentDigest digests) candidate.admission.requestId) >>= fun _ =>
          pure (candidate, true) : AdmissionJournal (Record × Bool))).writes <+:
      creationWrites digests prepared candidate := by
  rcases writeRecord_cases candidate with ⟨failure, raised⟩ | written
  · rw [raised]
    exact List.nil_prefix
  · rw [written]
    exact prefix_refl _

/-- What a creation writes: at most the record and the index, after the counter when the
request takes part in the enqueue order. -/
theorem createRecord_writes :
    (createRecord digests prepared beforeWrite project).writes = [] ∨
      (prepared.candidate.isSession = false ∧
        (createRecord digests prepared beforeWrite project).writes <+:
          creationWrites digests prepared prepared.candidate) ∨
      (prepared.candidate.isSession = true ∧ ∃ previous,
        previousOrdinal prepared project = .ok previous ∧
        (createRecord digests prepared beforeWrite project).writes <+:
          .writeSequence (previous + 1) ::
            creationWrites digests prepared (prepared.candidate.withOrdinal (previous + 1))) := by
  unfold createRecord numberCandidate
  rcases beforeWrite with failure | _
  · exact .inl rfl
  by_cases session : prepared.candidate.isSession = true
  · rw [if_pos session]
    rcases counted : previousOrdinal prepared project with failure | previous
    · exact .inl rfl
    · refine .inr (.inr ⟨session, previous, rfl, ?_⟩)
      exact (List.prefix_cons_inj _).mpr (writeCandidate_written _)
  · rw [if_neg session]
    exact .inr (.inl ⟨Bool.not_eq_true _ ▸ session, writeCandidate_written _⟩)

/-- **What a call leaves behind**, whether it returns, raises or stops after any of its
writes. -/
inductive Advance (prepared : PreparedAdmission) (project after : Project) : Prop where
  /-- No record and no counter was written. -/
  | kept (same : SameFiles project after)
  /-- The counter was written, the record was not. -/
  | counted (previous : Nat) (session : prepared.candidate.isSession = true)
      (found : previousOrdinal prepared project = .ok previous)
      (records : after.records = project.records)
      (sequence : after.sequence = .counter (previous + 1))
  /-- The record was created, without an ordinal. -/
  | created (unused : ∀ record ∈ listRecords project,
        record.admission.idempotencyKey ≠ some prepared.keyDigest)
      (session : prepared.candidate.isSession = false)
      (records : after.records =
        (project.putRecord prepared.candidate.redactForPersistence).records)
      (sequence : after.sequence = project.sequence)
  | enqueued (unused : ∀ record ∈ listRecords project,
        record.admission.idempotencyKey ≠ some prepared.keyDigest)
      (previous : Nat) (session : prepared.candidate.isSession = true)
      (found : previousOrdinal prepared project = .ok previous)
      (records : after.records = (project.putRecord
        (prepared.candidate.withOrdinal (previous + 1)).redactForPersistence).records)
      (sequence : after.sequence = .counter (previous + 1))

theorem putRecord_records {before after : Project} (same : after.records = before.records)
    (record : Record) : (after.putRecord record).records = (before.putRecord record).records := by
  unfold Project.putRecord Project.record?
  rw [same]
  split <;> rfl

theorem putRecord_sequence (record : Record) :
    (project.putRecord record).sequence = project.sequence := by
  unfold Project.putRecord
  split <;> rfl

theorem exec_creationWrites (middle : Project) {candidate : Record} {made : List AdmissionWrite}
    (inside : made <+: creationWrites digests prepared candidate) :
    SameFiles middle (exec Project.apply middle made) ∨
      SameFiles (middle.putRecord candidate.redactForPersistence)
        (exec Project.apply middle made) := by
  rcases List.prefix_cons_iff.mp inside with rfl | ⟨rest, rfl, indexed⟩
  · exact .inl ⟨rfl, rfl⟩
  refine .inr (sameFiles_exec (middle.putRecord candidate.redactForPersistence) ?_)
  intro entry member
  have last := indexed.subset member
  rw [List.mem_singleton] at last
  rw [last]
  rfl

/-- The writes of a creation, cut anywhere, on a project that differs in its index only. -/
theorem advance_of_creation {middle : Project} (same : SameFiles project middle)
    (unused : ∀ record ∈ listRecords project,
      record.admission.idempotencyKey ≠ some prepared.keyDigest)
    {made : List AdmissionWrite}
    (inside : made <+: (createRecord digests prepared beforeWrite project).writes) :
    Advance prepared project (exec Project.apply middle made) := by
  rcases createRecord_writes with none | ⟨session, full⟩ | ⟨session, previous, found, full⟩
  · rw [none, List.prefix_nil] at inside
    rw [inside]
    exact .kept same
  · rcases exec_creationWrites middle (inside.trans full) with kept | written
    · exact .kept ⟨kept.records.trans same.records, kept.sequence.trans same.sequence⟩
    · refine .created unused session (written.records.trans (putRecord_records same.records _)) ?_
      rw [written.sequence, putRecord_sequence, same.sequence]
  · rcases List.prefix_cons_iff.mp (inside.trans full) with rfl | ⟨rest, rfl, after⟩
    · exact .kept same
    let bumped : Project := { middle with sequence := .counter (previous + 1) }
    rcases exec_creationWrites bumped after with kept | written
    · exact .counted previous session found (kept.records.trans same.records) kept.sequence
    refine .enqueued unused previous session found ?_ ?_
    · exact written.records.trans (@putRecord_records project bumped same.records _)
    · rw [show exec Project.apply middle (_ :: rest) = exec Project.apply bumped rest from rfl,
        written.sequence, putRecord_sequence]

/-- `_matching_persisted_record` finds nothing exactly when no listed record has the key. -/
theorem unused_of_matching
    (nothing : matchingPersistedRecord digests prepared project = .ok none) :
    ∀ record ∈ listRecords project,
      record.admission.idempotencyKey ≠ some prepared.keyDigest := by
  unfold matchingPersistedRecord at nothing
  split at nothing
  next empty =>
    intro record member same
    have found : record ∈ (listRecords project).filter fun record =>
        decide (record.admission.idempotencyKey = some prepared.keyDigest) :=
      List.mem_filter.mpr ⟨member, decide_eq_true same⟩
    rw [empty] at found
    cases found
  next =>
    split at nothing <;> cases nothing
  next => cases nothing

theorem advance_of_indexOnly {α : Type} {journal : AdmissionJournal α}
    (indexOnly : ∀ entry ∈ journal.writes, entry.indexOnly = true) (made : Nat) :
    Advance prepared project (journal.crash Project.apply project made) :=
  .kept (sameFiles_exec project fun entry member =>
    indexOnly entry (List.mem_of_mem_take member))

/-- **Every call advances the project**, wherever it stops. -/
theorem admitRecord_advance (made : Nat) :
    Advance prepared project
      ((admitRecord digests prepared outside beforeWrite project).crash Project.apply project
        made) := by
  have indexOnly := @indexedRecord_indexOnly digests prepared outside project
  unfold admitRecord
  rcases looked : (indexedRecord digests prepared outside project).result with
    failure | _ | original
  · rw [Journal.bind_of_error looked]
    exact advance_of_indexOnly indexOnly made
  · rcases matched : matchingPersistedRecord digests prepared project with
      failure | _ | recovered
    · refine advance_of_indexOnly ?_ made
      rw [Journal.writes_bind_of_ok looked]
      intro entry member
      exact indexOnly entry (by simpa using member)
    · unfold Journal.crash
      rw [Journal.writes_bind_of_ok looked, List.take_append, exec_append]
      refine advance_of_creation ?_ (unused_of_matching matched)
        (List.take_prefix (made - (indexedRecord digests prepared outside project).writes.length) _)
      exact sameFiles_exec project fun entry member =>
        indexOnly entry (List.mem_of_mem_take member)
    · refine advance_of_indexOnly ?_ made
      rw [Journal.writes_bind_of_ok looked]
      exact forall_mem_snoc indexOnly rfl
  · refine advance_of_indexOnly ?_ made
    rw [Journal.writes_bind_of_ok looked]
    intro entry member
    exact indexOnly entry (by simpa using member)

end Calls

/-! ## Sound projects -/

/-- The immutable parts of the records, in the order of creation. -/
def Project.admissions (project : Project) : List Admission :=
  project.records.map Record.admission

def Precedes (first second : Admission) : Prop :=
  ∃ earlier later, first.enqueueOrdinal = some earlier ∧ second.enqueueOrdinal = some later ∧
    earlier < later

/-- **What holds of a project between two calls.** -/
structure Sound (project : Project) : Prop where
  listed : ∀ admission ∈ project.admissions, isListedName admission.requestId = true
  named : (project.admissions.map Admission.requestId).Nodup
  keyed : (project.admissions.map Admission.idempotencyKey).Nodup
  ordered : (project.admissions.filter Admission.isSession).Pairwise Precedes
  counted : ∀ admission ∈ project.admissions, admission.isSession = true →
    ∃ ordinal counter, admission.enqueueOrdinal = some ordinal ∧
      project.sequence = .counter counter ∧ ordinal ≤ counter

theorem sound_empty : Sound .empty := by
  constructor <;> simp [Project.empty, Project.admissions]

variable {project : Project}

theorem Sound.transport (sound : Sound project) (admissions : after.admissions = project.admissions)
    (sequence : after.sequence = project.sequence) : Sound after where
  listed := by rw [admissions]; exact sound.listed
  named := by rw [admissions]; exact sound.named
  keyed := by rw [admissions]; exact sound.keyed
  ordered := by rw [admissions]; exact sound.ordered
  counted := by rw [admissions, sequence]; exact sound.counted

theorem Project.mem_admissions {record : Record} (member : record ∈ project.records) :
    record.admission ∈ project.admissions :=
  List.mem_map_of_mem member

theorem admissions_putRecord {record : Record}
    (fresh : project.record? record.admission.requestId = none) :
    (project.putRecord record).admissions = project.admissions ++ [record.admission] := by
  unfold Project.putRecord
  rw [fresh]
  simp [Project.admissions]

theorem requestId_ne_of_fresh {requestId : String} (fresh : project.record? requestId = none) :
    ∀ admission ∈ project.admissions, admission.requestId ≠ requestId := by
  intro admission member same
  obtain ⟨record, present, rfl⟩ := List.mem_map.mp member
  have absent := List.find?_eq_none.mp fresh record present
  exact absent (decide_eq_true same)

theorem Sound.listRecords_perm (sound : Sound project) :
    (listRecords project).Perm project.records := by
  unfold listRecords
  refine (List.perm_insertionSort _ _).trans ?_
  rw [List.filter_eq_self.mpr]
  intro record member
  exact sound.listed _ (Project.mem_admissions member)

variable {prepared : PreparedAdmission}

theorem Sound.ordinal_le (sound : Sound project) {previous : Nat}
    (found : previousOrdinal prepared project = .ok previous) :
    ∀ admission ∈ project.admissions, admission.isSession = true →
      ∃ ordinal, admission.enqueueOrdinal = some ordinal ∧ ordinal ≤ previous := by
  intro admission member session
  obtain ⟨ordinal, counter, numbered, sequence, bounded⟩ := sound.counted admission member session
  -- A record with an ordinal means that the counter is there: the scan is not used.
  rw [previousOrdinal, sequence] at found
  cases found
  exact ⟨ordinal, numbered, bounded⟩

theorem Sound.count (sound : Sound project) {previous : Nat}
    (bounded : ∀ admission ∈ project.admissions, admission.isSession = true →
      ∃ ordinal, admission.enqueueOrdinal = some ordinal ∧ ordinal ≤ previous)
    (admissions : after.admissions = project.admissions)
    (sequence : after.sequence = .counter (previous + 1)) : Sound after where
  listed := by rw [admissions]; exact sound.listed
  named := by rw [admissions]; exact sound.named
  keyed := by rw [admissions]; exact sound.keyed
  ordered := by rw [admissions]; exact sound.ordered
  counted := by
    rw [admissions]
    intro admission member session
    obtain ⟨ordinal, numbered, below⟩ := bounded admission member session
    exact ⟨ordinal, previous + 1, numbered, sequence, Nat.le_succ_of_le below⟩

section Append

variable {project after : Project} (sound : Sound project) {last : Admission}
  (admissions : after.admissions = project.admissions ++ [last])
  (listed : isListedName last.requestId = true)
  (newName : ∀ admission ∈ project.admissions, admission.requestId ≠ last.requestId)
  (newKey : ∀ admission ∈ project.admissions, admission.idempotencyKey ≠ last.idempotencyKey)
include sound admissions listed newName newKey

theorem Sound.append (session : last.isSession = false)
    (sequence : after.sequence = project.sequence) : Sound after where
  listed := by
    rw [admissions, forall_mem_append]
    exact ⟨sound.listed, List.forall_mem_singleton.mpr listed⟩
  named := by
    rw [admissions]
    exact nodup_map_snoc sound.named newName
  keyed := by
    rw [admissions]
    exact nodup_map_snoc sound.keyed newKey
  ordered := by
    rw [admissions, List.filter_append]
    simpa [session] using sound.ordered
  counted := by
    rw [admissions, sequence, forall_mem_append]
    refine ⟨sound.counted, List.forall_mem_singleton.mpr ?_⟩
    intro impossible
    rw [session] at impossible
    cases impossible

theorem Sound.enqueue {previous : Nat}
    (bounded : ∀ admission ∈ project.admissions, admission.isSession = true →
      ∃ ordinal, admission.enqueueOrdinal = some ordinal ∧ ordinal ≤ previous)
    (ordinal : last.enqueueOrdinal = some (previous + 1))
    (sequence : after.sequence = .counter (previous + 1)) : Sound after where
  listed := by
    rw [admissions, forall_mem_append]
    exact ⟨sound.listed, List.forall_mem_singleton.mpr listed⟩
  named := by
    rw [admissions]
    exact nodup_map_snoc sound.named newName
  keyed := by
    rw [admissions]
    exact nodup_map_snoc sound.keyed newKey
  ordered := by
    rw [admissions, List.filter_append, List.pairwise_append]
    refine ⟨sound.ordered, List.Pairwise.sublist List.filter_sublist (List.pairwise_singleton _ _),
      ?_⟩
    intro admission member other otherMember
    obtain ⟨present, session⟩ := List.mem_filter.mp member
    obtain ⟨earlier, numbered, below⟩ := bounded admission present session
    rw [List.mem_singleton.mp (List.mem_of_mem_filter otherMember)]
    exact ⟨earlier, previous + 1, numbered, ordinal, Nat.lt_succ_of_le below⟩
  counted := by
    rw [admissions, forall_mem_append]
    constructor
    · intro admission member session
      obtain ⟨earlier, numbered, below⟩ := bounded admission member session
      exact ⟨earlier, previous + 1, numbered, sequence, Nat.le_succ_of_le below⟩
    · rw [List.forall_mem_singleton]
      exact fun _ => ⟨previous + 1, previous + 1, ordinal, sequence, Nat.le_refl _⟩

end Append

/-- **A call keeps the project sound** when the id of its candidate is listed and new, and
removes or replaces no record. -/
theorem Sound.advance (sound : Sound project)
    (keyed : prepared.candidate.admission.idempotencyKey = some prepared.keyDigest)
    (listed : isListedName prepared.candidate.admission.requestId = true)
    (fresh : project.record? prepared.candidate.admission.requestId = none)
    (advance : Advance prepared project after) :
    Sound after ∧ project.admissions <+: after.admissions := by
  have newName := requestId_ne_of_fresh fresh
  have newKey : (∀ record ∈ listRecords project,
      record.admission.idempotencyKey ≠ some prepared.keyDigest) →
      ∀ admission ∈ project.admissions,
        admission.idempotencyKey ≠ prepared.candidate.admission.idempotencyKey := by
    intro unused admission member
    obtain ⟨record, present, rfl⟩ := List.mem_map.mp member
    rw [keyed]
    exact unused record (sound.listRecords_perm.mem_iff.mpr present)
  cases advance with
  | kept same =>
    have admissions : after.admissions = project.admissions := by
      rw [Project.admissions, same.records, Project.admissions]
    rw [admissions]
    exact ⟨sound.transport admissions same.sequence, prefix_refl _⟩
  | counted previous session found records sequence =>
    have admissions : after.admissions = project.admissions := by
      rw [Project.admissions, records, Project.admissions]
    rw [admissions]
    exact ⟨sound.count (sound.ordinal_le found) admissions sequence, prefix_refl _⟩
  | created unused session records sequence =>
    have admissions : after.admissions =
        project.admissions ++ [prepared.candidate.admission] := by
      rw [Project.admissions, records]
      exact admissions_putRecord fresh
    refine ⟨sound.append admissions listed newName (newKey unused) session sequence, ?_⟩
    rw [admissions]
    exact List.prefix_append _ _
  | enqueued unused previous session found records sequence =>
    have admissions : after.admissions = project.admissions ++
        [(prepared.candidate.withOrdinal (previous + 1)).admission] := by
      rw [Project.admissions, records]
      exact admissions_putRecord fresh
    refine ⟨sound.enqueue admissions listed newName (newKey unused) (sound.ordinal_le found) rfl
      sequence, ?_⟩
    rw [admissions]
    exact List.prefix_append _ _

/-! ## Replays -/

theorem Sound.recordKeys (sound : Sound project) :
    (project.records.map fun record => record.admission.idempotencyKey).Nodup := by
  have keyed := sound.keyed
  rwa [Project.admissions, List.map_map] at keyed

theorem readRecord_of_entry {outside : String → Except GatewayError Record} {name : String}
    (entry : isEntryName name = true) :
    readRecord outside project name =
      (project.record? name).elim (.error (recordNotFound name)) .ok := by
  simp only [isEntryName, Bool.and_eq_true, Bool.not_eq_true', decide_eq_true_eq] at entry
  obtain ⟨⟨noNul, noSlash⟩, notParent⟩ := entry
  unfold readRecord
  rw [if_neg (by simp [noNul]), if_neg (by simp [noSlash, notParent])]
  cases project.record? name <;> rfl

section Replay

variable {digests : AdmissionDigests} {prepared : PreparedAdmission}
  {outside : String → Except GatewayError Record} {beforeWrite : Except GatewayError Unit}
  {project : Project} (sound : Sound project) {record : Record}
  (member : record ∈ project.records)
  (key : record.admission.idempotencyKey = some prepared.keyDigest)
include sound member key

theorem Sound.eq_of_key {other : Record} (present : other ∈ project.records)
    (otherKey : other.admission.idempotencyKey = some prepared.keyDigest) : other = record :=
  List.inj_on_of_nodup_map sound.recordKeys present member (otherKey.trans key.symm)

theorem Sound.matching :
    matchingPersistedRecord digests prepared project =
      if digests.intentDigest record.admission.intent = prepared.intentDigest digests then
        .ok (some record)
      else .error keyConflict := by
  have distinct : (listRecords project).Nodup :=
    sound.listRecords_perm.nodup_iff.mpr (List.Nodup.of_map _ sound.recordKeys)
  have only : (listRecords project).filter (fun other =>
      decide (other.admission.idempotencyKey = some prepared.keyDigest)) = [record] := by
    refine List.perm_singleton.mp ((List.perm_ext_iff_of_nodup (distinct.filter _)
      (List.nodup_singleton record)).mpr ?_)
    intro other
    rw [List.mem_filter, List.mem_singleton, sound.listRecords_perm.mem_iff, decide_eq_true_eq]
    constructor
    · rintro ⟨present, otherKey⟩
      exact sound.eq_of_key member key present otherKey
    · rintro rfl
      exact ⟨member, key⟩
  unfold matchingPersistedRecord
  rw [only]

theorem Sound.indexed
    (names : ∀ intent name, project.index prepared.keyDigest =
      .entry prepared.keyDigest intent name → isEntryName name = true) :
    (indexedRecord digests prepared outside project).result = .ok none ∨
      (indexedRecord digests prepared outside project).result =
        if digests.intentDigest record.admission.intent = prepared.intentDigest digests then
          .ok (some record)
        else .error keyConflict := by
  unfold indexedRecord
  split
  next => exact .inl rfl
  next => exact .inl rfl
  next keyDigest intentDigest requestId found =>
    split
    next => exact .inl rfl
    next same =>
      rw [not_not] at same
      subst same
      rw [readRecord_of_entry (names intentDigest requestId found)]
      cases looked : project.record? requestId with
      | none => exact .inl rfl
      | some original =>
        dsimp only [Option.elim]
        split
        next => exact .inl rfl
        next sameKey =>
          rw [not_not] at sameKey
          have original_eq : original = record := sound.eq_of_key member key
            (List.mem_of_find?_eq_some looked) sameKey
          subst original_eq
          refine .inr ?_
          by_cases agrees : digests.intentDigest original.admission.intent =
              prepared.intentDigest digests
          · simp only [agrees, refuse, ne_eq, not_true_eq_false, if_true, if_false]
            split <;> rfl
          · simp only [agrees, refuse, ne_eq, not_false_eq_true, if_true, if_false]
            split <;> rfl

/-- **A replay.**  A call whose key has a record answers from that record and writes at most
index files. -/
theorem Sound.replay
    (names : ∀ intent name, project.index prepared.keyDigest =
      .entry prepared.keyDigest intent name → isEntryName name = true) :
    (admitRecord digests prepared outside beforeWrite project).result =
        (if digests.intentDigest record.admission.intent = prepared.intentDigest digests then
          .ok (record, false)
        else .error keyConflict) ∧
      ∀ made, ((admitRecord digests prepared outside beforeWrite project).crash Project.apply
        project made).records = project.records := by
  have used : ¬ ∀ other ∈ listRecords project,
      other.admission.idempotencyKey ≠ some prepared.keyDigest :=
    fun unused => unused record (sound.listRecords_perm.mem_iff.mpr member) key
  constructor
  · have scanned := @Sound.matching digests prepared project sound record member key
    unfold admitRecord
    by_cases agrees : digests.intentDigest record.admission.intent = prepared.intentDigest digests
    · rw [if_pos agrees] at scanned ⊢
      rcases sound.indexed member key names with silent | answered
      · rw [Journal.result_bind_of_ok silent, scanned]
        rfl
      · rw [if_pos agrees] at answered
        rw [Journal.result_bind_of_ok answered]
        rfl
    · rw [if_neg agrees] at scanned ⊢
      rcases sound.indexed member key names with silent | answered
      · rw [Journal.result_bind_of_ok silent, scanned]
        rfl
      · rw [if_neg agrees] at answered
        rw [Journal.bind_of_error answered]
  · intro made
    have advance := @admitRecord_advance digests prepared outside beforeWrite project made
    cases advance with
    | kept same => exact same.records
    | counted _ _ _ records _ => exact records
    | created unused | enqueued unused => exact absurd unused used

end Replay

/-! ## Generated ids are listed -/

theorem not_slash_of_slug {byte : UInt8} (slug : isSlugByte byte = true) :
    isBetween '/' '/' byte = false := by
  simp only [isSlugByte, isBetween, Bool.or_eq_true, Bool.and_eq_true, decide_eq_true_eq,
    Bool.and_eq_false_iff, decide_eq_false_iff_not] at slug ⊢
  have letters : 'a'.toNat = 97 ∧ 'z'.toNat = 122 ∧ '0'.toNat = 48 ∧ '9'.toNat = 57 ∧
    '-'.toNat = 45 ∧ '/'.toNat = 47 := by decide
  omega

theorem slug_of_lowerHex {byte : UInt8} (hex : isLowerHex byte = true) :
    isSlugByte byte = true := by
  simp only [isSlugByte, isLowerHex, isBetween, Bool.or_eq_true, Bool.and_eq_true,
    decide_eq_true_eq] at hex ⊢
  have letters : 'a'.toNat = 97 ∧ 'f'.toNat = 102 ∧ 'z'.toNat = 122 := by decide
  omega

theorem isListedName_of_generated {requestId : String}
    (generated : isGeneratedRequestId requestId = true) : isListedName requestId = true := by
  have notReserved : ∀ reserved ∈ ["", ".", "..", "idempotency", "sessions"],
      isGeneratedRequestId reserved = false := by decide
  simp only [isListedName, Bool.and_eq_true, Bool.not_eq_true']
  constructor
  · rw [List.contains_eq_mem, decide_eq_false_iff_not]
    intro reserved
    rw [notReserved requestId reserved] at generated
    cases generated
  · simp only [isGeneratedRequestId, Bool.and_eq_true, decide_eq_true_eq,
      List.all_eq_true] at generated
    obtain ⟨⟨⟨⟨⟨start, _⟩, slug⟩, separator⟩, _⟩, suffix⟩ := generated
    have plain : ∀ byte ∈ utf8Bytes "req_", isBetween '/' '/' byte = false := by
      decide +kernel
    -- The four parts of the id, from left to right.
    have inParts : ∀ (count : Nat) (bytes : List UInt8),
        (∀ byte ∈ bytes.take count, isBetween '/' '/' byte = false) →
        (∀ byte ∈ bytes.drop count, isBetween '/' '/' byte = false) →
        ∀ byte ∈ bytes, isBetween '/' '/' byte = false := by
      intro count bytes front back
      rw [← List.take_append_drop count bytes, forall_mem_append]
      exact ⟨front, back⟩
    rw [hasByte, List.any_eq_false]
    simp only [Bool.not_eq_true]
    refine inParts 4 _ (by rw [start]; exact plain) ?_
    refine inParts _ _ (fun byte member => not_slash_of_slug (slug byte member)) ?_
    refine inParts 1 _ (by rw [separator]; decide +kernel) ?_
    exact fun byte member => not_slash_of_slug (slug_of_lowerHex (suffix byte member))

/-! ## Callers -/

/-- The project, and the callers that prepared and wait for the admission lock. -/
structure AdmissionState where
  project : Project
  waiting : List PreparedAdmission

def AdmissionState.initial : AdmissionState where
  project := .empty
  waiting := []

inductive AdmissionAction where
  /-- A caller prepares, without the lock. -/
  | prepare (call : AdmissionCall)
  /-- A waiting caller takes the lock; `made` of its writes go through. -/
  | enter (caller : Nat) (outside : String → Except GatewayError Record)
      (beforeWrite : Except GatewayError Unit) (made : Nat)
  | disturbIndex (keyDigest : String) (file : IndexFile)
  | storeCall (requestId : String) (op : StoreOp)

section Step

variable (digests : AdmissionDigests) (projections : Projections) (hashing : Hashing)

def admissionStep (state : AdmissionState) : AdmissionAction → AdmissionState
  | .prepare call =>
    match prepareAdmission digests state.project call with
    | .ok prepared => { state with waiting := state.waiting ++ [prepared] }
    | .error _ => state
  | .enter caller outside beforeWrite made =>
    match state.waiting[caller]? with
    | some prepared => {
        project := (admitRecord digests prepared outside beforeWrite state.project).crash
          Project.apply state.project made
        waiting := state.waiting.eraseIdx caller }
    | none => state
  | .disturbIndex keyDigest file =>
    { state with project := state.project.putIndex keyDigest file }
  | .storeCall requestId op =>
    { state with project := { state.project with
        records := state.project.records.map fun record =>
          if record.admission.requestId = requestId then storeStep projections hashing record op
          else record } }

/-- The ids that callers bring are generated, and the random suffix makes them new. -/
def FreshIds (state : AdmissionState) : AdmissionAction → Prop
  | .enter caller _ _ _ => ∀ prepared ∈ state.waiting[caller]?,
      isGeneratedRequestId prepared.candidate.admission.requestId = true ∧
      state.project.record? prepared.candidate.admission.requestId = none
  | _ => True

end Step

variable {digests : AdmissionDigests} {projections : Projections} {hashing : Hashing}

theorem prepareAdmission_ok {call : AdmissionCall}
    (success : prepareAdmission digests project call = .ok prepared) :
    prepared.candidate = call.candidate digests ∧
      prepared.keyDigest = digests.hashIdempotencyKey call.idempotencyKey := by
  simp only [prepareAdmission, bind_eq_ok] at success
  obtain ⟨_, _, _, _, returned⟩ := success
  cases returned
  exact ⟨rfl, rfl⟩

theorem storeStep_admission (stored : Record) (op : StoreOp) :
    (storeStep projections hashing stored op).admission = stored.admission := by
  rcases storeStep_cases stored op with kept | normalised | succeeds
  · rw [kept]
  · rw [normalised]
    rfl
  · rcases succeeds.change with same | change
    · rw [same]
      rfl
    · exact change.admission

/-- The project is sound and every waiting candidate carries its key digest. -/
structure AdmissionInvariant (state : AdmissionState) : Prop where
  sound : Sound state.project
  keyed : ∀ prepared ∈ state.waiting,
    prepared.candidate.admission.idempotencyKey = some prepared.keyDigest

theorem initial_admissionInvariant : AdmissionInvariant .initial where
  sound := sound_empty
  keyed := by
    intro prepared member
    cases member

/-- **One step** keeps the invariant and every record. -/
theorem AdmissionInvariant.step {state : AdmissionState} (invariant : AdmissionInvariant state)
    (action : AdmissionAction) (allowed : FreshIds state action) :
    AdmissionInvariant (admissionStep digests projections hashing state action) ∧
      state.project.admissions <+:
        (admissionStep digests projections hashing state action).project.admissions := by
  cases action with
  | prepare call =>
    simp only [admissionStep]
    split
    next prepared success =>
      refine ⟨⟨invariant.sound, ?_⟩, prefix_refl _⟩
      rw [forall_mem_append, List.forall_mem_singleton]
      obtain ⟨candidate, key⟩ := prepareAdmission_ok success
      rw [candidate, key]
      exact ⟨invariant.keyed, rfl⟩
    next => exact ⟨invariant, prefix_refl _⟩
  | enter caller outside beforeWrite made =>
    simp only [admissionStep]
    split
    next prepared found =>
      obtain ⟨generated, fresh⟩ := allowed prepared found
      obtain ⟨sound, grown⟩ := invariant.sound.advance
        (invariant.keyed prepared (List.mem_of_getElem? found))
        (isListedName_of_generated generated) fresh
        (@admitRecord_advance digests prepared outside beforeWrite state.project made)
      refine ⟨⟨sound, ?_⟩, grown⟩
      exact fun other member => invariant.keyed other (List.mem_of_mem_eraseIdx member)
    next => exact ⟨invariant, prefix_refl _⟩
  | disturbIndex keyDigest file =>
    exact ⟨⟨invariant.sound.transport rfl rfl, invariant.keyed⟩, prefix_refl _⟩
  | storeCall requestId op =>
    have same : (admissionStep digests projections hashing state
        (.storeCall requestId op)).project.admissions = state.project.admissions := by
      simp only [admissionStep, Project.admissions, List.map_map]
      refine List.map_congr_left ?_
      intro record _
      by_cases addressed : record.admission.requestId = requestId
      · simp [addressed, storeStep_admission]
      · simp [addressed]
    rw [same]
    exact ⟨⟨invariant.sound.transport same rfl, invariant.keyed⟩, prefix_refl _⟩

/-- **Idempotent admission.**  In every run of callers with generated ids, whatever happens to
the index files and wherever a caller stops: no record is removed or replaced, at most one record
carries a key digest, and the ordinals of provider-session records increase in the order of
creation; and a call whose key has a record returns that record when the execution intents are
equal, raises `CON-AGW-081` when they differ (and their digests do not collide), and in neither
case writes a record, as long as the name in its index file stays inside the gateway root. -/
theorem idempotent_admission (digests : AdmissionDigests) (projections : Projections)
    (hashing : Hashing) (earlier later : List AdmissionAction)
    (run : Admissible (admissionStep digests projections hashing) FreshIds .initial
      (earlier ++ later)) :
    let middle := exec (admissionStep digests projections hashing) .initial earlier
    let final := exec (admissionStep digests projections hashing) .initial (earlier ++ later)
    middle.project.admissions <+: final.project.admissions ∧
      (∀ keyDigest, final.project.records.countP (fun record =>
        decide (record.admission.idempotencyKey = some keyDigest)) ≤ 1) ∧
      (final.project.admissions.filter Admission.isSession).Pairwise Precedes ∧
      ∀ seen call prepared record outside beforeWrite,
        prepareAdmission digests seen call = .ok prepared →
        record ∈ final.project.records →
        record.admission.idempotencyKey = some (digests.hashIdempotencyKey call.idempotencyKey) →
        (∀ intent name, final.project.index prepared.keyDigest =
          .entry prepared.keyDigest intent name → isEntryName name = true) →
        (digests.intentDigest call.payload.admission.intent =
            digests.intentDigest record.admission.intent →
          call.payload.admission.intent = record.admission.intent) →
        let journal := admitRecord digests prepared outside beforeWrite final.project
        (call.payload.admission.intent = record.admission.intent →
            journal.result = .ok (record, false)) ∧
          (call.payload.admission.intent ≠ record.admission.intent →
            journal.result = .error keyConflict) ∧
          ∀ made, (journal.crash Project.apply final.project made).records =
            final.project.records := by
  intro middle final
  obtain ⟨runEarlier, runLater⟩ := admissible_append.mp run
  have preserved : ∀ state action, AdmissionInvariant state → FreshIds state action →
      AdmissionInvariant (admissionStep digests projections hashing state action) :=
    fun state action holds allowed => (holds.step action allowed).1
  have reached : AdmissionInvariant middle :=
    runEarlier.invariant preserved initial_admissionInvariant
  have continued : final = exec (admissionStep digests projections hashing) middle later :=
    exec_append _ _ earlier later
  have ended : AdmissionInvariant final := by
    rw [continued]
    exact runLater.invariant preserved reached
  refine ⟨?_, ?_, ended.sound.ordered, ?_⟩
  · rw [continued]
    exact Admissible.relates (R := fun before after : AdmissionState =>
        before.project.admissions <+: after.project.admissions)
      (fun _ => prefix_refl _) (fun _ _ _ left right => left.trans right) preserved
      (fun state action holds allowed => (holds.step action allowed).2) runLater reached
  · intro keyDigest
    have once := List.nodup_iff_count_le_one.mp ended.sound.recordKeys (some keyDigest)
    rw [List.count_eq_countP, List.countP_map] at once
    simpa [Function.comp_def, beq_eq_decide] using once
  · intro seen call prepared record outside beforeWrite success member key names noCollision
      journal
    obtain ⟨candidate, digest⟩ := prepareAdmission_ok success
    have intent : prepared.candidate.admission.intent = call.payload.admission.intent := by
      rw [candidate]
      rfl
    rw [← digest] at key
    obtain ⟨answer, unwritten⟩ :=
      @Sound.replay digests prepared outside beforeWrite _ ended.sound record member key names
    refine ⟨?_, ?_, unwritten⟩
    · intro same
      have agrees : digests.intentDigest record.admission.intent =
          prepared.intentDigest digests := by
        rw [PreparedAdmission.intentDigest, intent, same]
      rw [if_pos agrees] at answer
      exact answer
    · intro different
      have disagrees : digests.intentDigest record.admission.intent ≠
          prepared.intentDigest digests := by
        intro agrees
        rw [PreparedAdmission.intentDigest, intent] at agrees
        exact different (noCollision agrees.symm)
      rw [if_neg disagrees] at answer
      exact answer

/-! ## A damaged index -/

def sampleSession : Admission where
  requestId := "req_project_0123456789ab"
  executionProfileId := "profile"
  mode := .async
  contextFingerprint := none
  promptDigest := none
  continuationSessionId := none
  providerTransportKind := .providerSession
  sessionKeepAlive := none
  sessionIdleTimeoutSeconds := none
  sessionMaxLifetimeSeconds := none
  nodePlacement := none
  nodeAdmission := none
  idempotencyKey := none
  enqueueOrdinal := none
  watchdogPolicy := none
  createdAt := 0

def sampleCall : AdmissionCall where
  payload := buildRecord sampleSession "" [] none
  idempotencyKey := "key"

def AdmissionDigests.sample : AdmissionDigests where
  hashIdempotencyKey key :=
    if key = "key" then "2c70e12b7a0646f92279f427c7b38e7334d8e5389cff167a1dc30e73f826b683"
    else emptyDigest
  intentDigest intent :=
    if intent = sampleSession.intent then
      "1116c4e626acf16fa9c5046745aef83b7a1db49b62ccfe3627b283469586ab1c"
    else emptyDigest

def admittedRun : List AdmissionAction :=
  [.prepare sampleCall, .enter 0 (fun name => .error (recordNotFound name)) (.ok ()) 3]

theorem admittedRun_freshIds :
    Admissible (admissionStep .sample .plain .constant) FreshIds .initial admittedRun := by
  refine ⟨trivial, ?_, trivial⟩
  intro prepared member
  cases member
  exact ⟨by decide, rfl⟩

def admittedProject : Project :=
  (exec (admissionStep .sample .plain .constant) .initial admittedRun).project

def admittedSample : Record :=
  ((sampleCall.candidate .sample).withOrdinal 1).redactForPersistence

def replayedSample : PreparedAdmission where
  candidate := sampleCall.candidate .sample
  keyDigest := AdmissionDigests.sample.hashIdempotencyKey "key"
  fallbackOrdinal := none

/-- The replay of the sample returns its record. -/
theorem admitted_sample_replays :
    admittedSample ∈ admittedProject.records ∧
      prepareAdmission .sample admittedProject sampleCall = .ok replayedSample ∧
      (admitRecord .sample replayedSample (fun name => .error (recordNotFound name)) (.ok ())
        admittedProject).result = .ok (admittedSample, false) := by
  have run : Admissible (admissionStep .sample .plain .constant) FreshIds .initial
      (admittedRun ++ []) := admittedRun_freshIds
  have present : admittedSample ∈ admittedProject.records := List.mem_cons_self
  have prepared : prepareAdmission .sample admittedProject sampleCall = .ok replayedSample := rfl
  have inside : ∀ intent name, admittedProject.index replayedSample.keyDigest =
      .entry replayedSample.keyDigest intent name → isEntryName name = true := by
    intro intent name found
    cases found
    decide
  refine ⟨present, prepared, ?_⟩
  exact ((idempotent_admission .sample .plain .constant admittedRun [] run).2.2.2
    admittedProject sampleCall replayedSample admittedSample _ (.ok ()) prepared present rfl inside
    (fun _ => rfl)).1 rfl

/-- The sample's index file is damaged: it names a request that cannot exist. -/
def disturbedRun : List AdmissionAction :=
  admittedRun ++
    [.disturbIndex (AdmissionDigests.sample.hashIdempotencyKey "key")
      (.entry (AdmissionDigests.sample.hashIdempotencyKey "key") "" "\x00")]

/-- **A name that is no path refuses the replay.**  The key has a record of the same intent and
the index names an absent request, and the call raises `IO-AGW-001`. -/
theorem damaged_index_refuses_replay :
    Admissible (admissionStep .sample .plain .constant) FreshIds .initial disturbedRun ∧
      ∃ prepared record,
        prepareAdmission .sample (exec (admissionStep .sample .plain .constant) .initial
          disturbedRun).project sampleCall = .ok prepared ∧
        record ∈ (exec (admissionStep .sample .plain .constant) .initial
          disturbedRun).project.records ∧
        record.admission.idempotencyKey =
          some (AdmissionDigests.sample.hashIdempotencyKey sampleCall.idempotencyKey) ∧
        record.admission.intent = sampleCall.payload.admission.intent ∧
        (admitRecord .sample prepared (fun name => .error (recordNotFound name)) (.ok ())
          (exec (admissionStep .sample .plain .constant) .initial disturbedRun).project).result =
            .error (recordUnreadable "\x00") := by
  refine ⟨admissible_append.mpr ⟨admittedRun_freshIds, trivial, trivial⟩, _, _, rfl,
    List.mem_cons_self, ?_, ?_, ?_⟩
  · rfl
  · rfl
  · rfl

end Audiagentic.Gateway
