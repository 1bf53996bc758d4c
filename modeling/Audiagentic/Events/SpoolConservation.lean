import Audiagentic.Foundations.Runs
import Audiagentic.Events.DurableSpool

/-!
# No event of a spool is lost

Publishers and one consumer work on a spool; file operations fail and the consumer crashes at
any point.  Two steps lose an event: when the move to the dead letters fails,
`_move_to_dead_letter` removes the pending file, and a replay of an id that leads out of the
dead letters and back, such as `../dead-letter/<id>`, writes its source and removes it.
-/

namespace Audiagentic.Events

open Foundations List Dict

variable {Payload : Type}

/-! ## Names and paths -/

theorem append_lt_append_iff {first second : List Char} (same : first.length = second.length)
    (tail : List Char) : first ++ tail < second ++ tail ↔ first < second := by
  induction first generalizing second with
  | nil =>
    cases second with
    | nil => simp
    | cons letter letters => simp at same
  | cons letter letters ih =>
    cases second with
    | nil => simp at same
    | cons other others =>
      have lengths : letters.length = others.length := by simpa using same
      simp [cons_lt_cons_iff, ih lengths]

namespace EventId

theorem fileName_injective {first second : EventId} (same : first.fileName = second.fileName) :
    first = second := by
  obtain ⟨letters, _⟩ := first
  obtain ⟨letters', _⟩ := second
  rw [fileName, fileName, append_left_inj] at same
  simpa using same

/-- Names have one length, so the order of the files is the order of the ids. -/
theorem fileName_lt_iff {first second : EventId} :
    first.fileName < second.fileName ↔ first < second :=
  append_lt_append_iff (first.length_eq.trans second.length_eq.symm) jsonSuffix

theorem ofFileName?_fileName (id : EventId) : ofFileName? id.fileName = some id := by
  obtain ⟨letters, length⟩ := id
  have front : (letters ++ jsonSuffix).take 29 = letters := by
    rw [← length, take_left]
  have back : (letters ++ jsonSuffix).drop 29 = jsonSuffix := by
    rw [← length, drop_left]
  simp [ofFileName?, fileName, front, back, length]

end EventId

variable {transport : Transport}

namespace Transport

/-- Resolved from two directories of one parent, a path stays below both or leaves both. -/
theorem resolve_siblings (root : List (List Char)) (first second : List Char)
    (parts : List (List Char)) {base base' : List (List Char)}
    (start : base = base' ∨ ∃ rest, base = root ++ first :: rest ∧ base' = root ++ second :: rest) :
    resolve base parts = resolve base' parts ∨
      ∃ rest, resolve base parts = root ++ first :: rest ∧
        resolve base' parts = root ++ second :: rest := by
  induction parts generalizing base base' with
  | nil => exact start
  | cons part parts ih =>
    apply ih
    rcases start with rfl | ⟨rest, rfl, rfl⟩
    · exact .inl rfl
    by_cases up : part = ['.', '.']
    · rcases rest.eq_nil_or_concat with rfl | ⟨init, last, rfl⟩
      · exact .inl (by simp [enter, up])
      have leaves : ∀ directory : List Char,
          enter (root ++ directory :: init.concat last) part = root ++ directory :: init := by
        intro directory
        rw [enter, if_pos up, concat_eq_append, ← cons_append, ← append_assoc, dropLast_concat]
      exact .inr ⟨init, leaves first, leaves second⟩
    · by_cases skipped : part = [] ∨ part = ['.']
      · exact .inr ⟨rest, by simp [enter, up, skipped], by simp [enter, up, skipped]⟩
      · exact .inr ⟨rest ++ [part], by simp [enter, up, skipped], by simp [enter, up, skipped]⟩

theorem eventPath_siblings (transport : Transport) (first second eventId : List Char) :
    transport.eventPath first eventId = transport.eventPath second eventId ∨
      ∃ rest, transport.eventPath first eventId = transport.root ++ first :: rest ∧
        transport.eventPath second eventId = transport.root ++ second :: rest := by
  by_cases absolute : eventId.head? = some '/'
  · left
    simp only [eventPath, if_pos absolute]
  · simp only [eventPath, if_neg absolute]
    exact resolve_siblings transport.root first second _ (.inr ⟨[], rfl, rfl⟩)

/-- A replay that finds an event of the spool at its source, and would not write there, goes
from the dead letters to the pending events. -/
theorem replay_locations {eventId : List Char} {source : Location}
    (apart : transport.replaySource eventId ≠ transport.replayTarget eventId)
    (located : transport.locate (transport.replaySource eventId) = some source) :
    ∃ id, source = .deadLetter id ∧
      transport.locate (transport.replayTarget eventId) = some (.pending id) := by
  obtain ⟨rest, atSource, atTarget⟩ :=
    (transport.eventPath_siblings deadLetterName pendingName eventId).resolve_left apart
  rw [replaySource, atSource] at located
  unfold locate at located
  split at located
  · cases located
  next id _ =>
    split at located
    next same =>
      have names := (List.cons.inj (append_cancel_left same)).1
      exact absurd names (by decide)
    · split at located
      next same =>
        have rest_eq : rest = [id.fileName] := by
          simpa using append_cancel_left same
        refine ⟨id, (Option.some.inj located).symm, ?_⟩
        rw [replayTarget, atTarget, rest_eq]
        simp [locate, EventId.ofFileName?_fileName]
      · cases located

end Transport

/-! ## The invariants -/

def Spool.Genuine (spool : Spool Payload) (id : EventId) (record : EventRecord Payload) : Prop :=
  record.eventId = id ∧ record.renewed ∈ spool.published

/-- What the consumer knows of the record or the files it works on. -/
def Spool.Attentive (spool : Spool Payload) : Position Payload → Prop
  | .handling id record _ | .retrying id record _ => spool.Genuine id record
  | .acknowledging id _ => ∃ call ∈ spool.calls, call.id = id ∧ call.outcome = .success
  | .replaying source target record => ∃ id, source = .deadLetter id ∧
      target = some (.pending id) ∧ spool.Genuine id record
  | .unlinkingSource source => ∃ id, source = .deadLetter id ∧ .pending id ∈ spool.files
  | _ => True

def Spool.Kept (spool : Spool Payload) (id : EventId) : Prop :=
  .pending id ∈ spool.files ∨ .deadLetter id ∈ spool.files ∨ id ∈ spool.acknowledged

structure Spool.Conserved (spool : Spool Payload) : Prop where
  distinct : (spool.published.map EventRecord.eventId).Nodup
  genuine : ∀ location record, spool.files.lookup location = some record →
    spool.Genuine location.id record
  kept : ∀ record ∈ spool.published, spool.Kept record.eventId
  acknowledged : ∀ id ∈ spool.acknowledged,
    ∃ call ∈ spool.calls, call.id = id ∧ call.outcome = .success
  attentive : spool.Attentive spool.position

/-- A step that does not lose an event: a failed move to the dead letters is not followed by the
removal of the file, and a replay does not write to its own source. -/
def Spool.Allowed (transport : Transport) (spool : Spool Payload) : SpoolAction Payload → Prop
  | .proceed fails => ∀ id sweep, spool.position = .dropping id sweep → fails = false →
      .pending id ∉ spool.files
  | .replayDeadLetter eventId _ =>
    transport.replaySource eventId ≠ transport.replayTarget eventId
  | _ => True

/-! ## Nothing is lost -/

namespace Spool

variable {record : EventRecord Payload}

theorem mem_files_of_lookup {files : SpoolFiles Payload} {location : Location}
    (found : files.lookup location = some record) : location ∈ files := by
  rw [← AList.lookup_isSome, found]
  rfl

theorem readEvent_some {files : SpoolFiles Payload} {location : Location}
    (read : files.readEvent location = some record) : files.lookup location = some record :=
  (Option.filter_eq_some_iff.mp read).1

variable {spool : Spool Payload}

variable {position : Position Payload}

theorem Conserved.move (holds : Conserved spool) (attentive : spool.Attentive position) :
    Conserved { spool with position := position } :=
  ⟨holds.distinct, holds.genuine, holds.kept, holds.acknowledged, attentive⟩

theorem Conserved.write (holds : Conserved spool) (location : Location)
    (genuine : spool.Genuine location.id record)
    (attentive : Attentive { spool with files := spool.files.insert location record } position) :
    Conserved { spool with files := spool.files.insert location record, position := position } := by
  refine ⟨holds.distinct, ?_, ?_, holds.acknowledged, attentive⟩
  · intro other found read
    change (spool.files.insert location record).lookup other = some found at read
    rw [lookup_insert_eq] at read
    split at read
    next same =>
      cases read
      exact same ▸ genuine
    · exact holds.genuine other found read
  · intro published member
    have kept := holds.kept published member
    simp only [Kept, AList.mem_insert] at kept ⊢
    tauto

theorem Conserved.unlink (holds : Conserved spool) (location : Location)
    {acknowledged : List EventId} (successful : ∀ id ∈ acknowledged,
      ∃ call ∈ spool.calls, call.id = id ∧ call.outcome = .success) (kept : ∀ id, spool.Kept id →
      Kept { spool with files := spool.files.erase location, acknowledged := acknowledged } id)
    (attentive : Attentive { spool with files := spool.files.erase location } position) :
    Conserved { spool with
      files := spool.files.erase location
      acknowledged := acknowledged
      position := position } := by
  refine ⟨holds.distinct, ?_, ?_, successful, attentive⟩
  · intro other found read
    change (spool.files.erase location).lookup other = some found at read
    rw [lookup_erase_eq] at read
    split at read
    · cases read
    · exact holds.genuine other found read
  · intro published member
    exact kept _ (holds.kept published member)

theorem Conserved.publish (holds : Conserved spool) (transport : Transport) (id : EventId)
    (topic : String) (payload metadata : Payload) (publishedAt : String) :
    Conserved (spool.publish transport id topic payload metadata publishedAt) := by
  unfold Spool.publish
  dsimp only
  split
  · exact holds
  next accepted =>
    obtain ⟨_, fresh⟩ := not_or.mp accepted
    -- What was genuine before stays so with one published record more.
    have genuine : ∀ {id' : EventId} {record : EventRecord Payload}, spool.Genuine id' record →
        Genuine { spool with published := spool.published ++
          [⟨id, topic, payload, metadata, publishedAt, 0⟩] } id' record :=
      fun ⟨named, member⟩ => ⟨named, mem_append_left _ member⟩
    refine ⟨?_, ?_, ?_, holds.acknowledged, ?_⟩
    · simpa [nodup_append, holds.distinct] using fresh
    · intro location record read
      change (spool.files.insert _ _).lookup location = some record at read
      rw [lookup_insert_eq] at read
      split at read
      next same =>
        cases read
        exact ⟨same ▸ rfl, by simp [EventRecord.renewed]⟩
      · exact genuine (holds.genuine location record read)
    · intro record member
      rcases mem_append.mp member with before | new
      · have kept := holds.kept record before
        simp only [Kept, AList.mem_insert] at kept ⊢
        tauto
      · rw [mem_singleton.mp new]
        exact .inl ((AList.mem_insert _).mpr (.inl rfl))
    · have attentive := holds.attentive
      cases at_ : spool.position with
      | handling | retrying =>
        rw [at_] at attentive
        exact genuine attentive
      | replaying source target record =>
        rw [at_] at attentive
        obtain ⟨id, rfl, rfl, held⟩ := attentive
        exact ⟨id, rfl, rfl, genuine held⟩
      | unlinkingSource source =>
        rw [at_] at attentive
        obtain ⟨id, rfl, held⟩ := attentive
        exact ⟨id, rfl, (AList.mem_insert _).mpr (.inr held)⟩
      | acknowledging id sweep =>
        rw [at_] at attentive
        exact attentive
      | _ => trivial

theorem Conserved.consume (holds : Conserved spool) (limit : Option Int) :
    Conserved (spool.consume limit) := by
  unfold Spool.consume
  split
  · exact ⟨holds.distinct, holds.genuine, holds.kept, holds.acknowledged, trivial⟩
  · exact holds

theorem Conserved.replayDeadLetter (holds : Conserved spool) {eventId : List Char}
    (apart : transport.replaySource eventId ≠ transport.replayTarget eventId) :
    Conserved (spool.replayDeadLetter transport eventId) := by
  unfold Spool.replayDeadLetter
  split
  next source _ located =>
    obtain ⟨id, rfl, target⟩ := Transport.replay_locations apart located
    split
    · exact holds
    next record read =>
      have genuine := holds.genuine _ record (readEvent_some read)
      exact holds.move ⟨id, rfl, target, genuine.1, genuine.2⟩
  · exact holds

theorem Conserved.handled (holds : Conserved spool) (outcome : Outcome) :
    Conserved (spool.handled outcome) := by
  unfold Spool.handled
  split
  next id record sweep at_ =>
    have genuine : spool.Genuine id record := by simpa [at_, Attentive] using holds.attentive
    refine ⟨holds.distinct, holds.genuine, holds.kept, ?_, ?_⟩
    · intro other member
      obtain ⟨call, called, success⟩ := holds.acknowledged other member
      exact ⟨call, mem_append_left _ called, success⟩
    cases outcome with
    | success => exact ⟨_, mem_append_right _ (mem_singleton.mpr rfl), rfl, rfl⟩
    | poison => trivial
    | error => exact genuine
  · exact holds

theorem Conserved.finish (holds : Conserved spool) (sweep : Sweep) :
    Conserved (spool.finish sweep) :=
  ⟨holds.distinct, holds.genuine, holds.kept, holds.acknowledged, trivial⟩

theorem Conserved.nextPath (holds : Conserved spool) (sweep : Sweep) (fails : Bool) :
    Conserved (spool.nextPath sweep fails) := by
  unfold Spool.nextPath
  cases sweep.rest with
  | nil => exact holds.finish sweep
  | cons id rest =>
    dsimp only
    split
    · exact holds.finish sweep
    split
    · exact holds.move trivial
    next record read =>
      have found : spool.files.readEvent (.pending id) = some record := by
        cases fails <;> simp_all
      exact holds.move (holds.genuine _ record (readEvent_some found))

theorem Conserved.bury (holds : Conserved spool) {id : EventId}
    (found : spool.files.lookup (.pending id) = some record) (sweep : Sweep) :
    Conserved { spool with
      files := (spool.files.erase (.pending id)).insert (.deadLetter id) record
      position := .sweeping sweep } := by
  refine ⟨holds.distinct, ?_, ?_, holds.acknowledged, trivial⟩
  · intro location other read
    change ((spool.files.erase _).insert _ _).lookup location = some other at read
    rw [lookup_insert_eq, lookup_erase_eq] at read
    split at read
    next same =>
      cases read
      subst same
      exact holds.genuine (.pending id) record found
    · split at read
      · cases read
      · exact holds.genuine location other read
  · intro published member
    have kept := holds.kept published member
    simp only [Kept, AList.mem_insert, AList.mem_erase] at kept ⊢
    by_cases same : published.eventId = id
    · simp [same]
    · simpa [same] using kept

theorem Conserved.proceed (holds : Conserved spool) {fails : Bool}
    (allowed : spool.Allowed transport (.proceed fails)) :
    Conserved (spool.proceed transport fails) := by
  have attentive := holds.attentive
  unfold Spool.proceed
  cases at_ : spool.position with
  | idle | handling => exact holds
  | sweeping sweep => exact holds.nextPath sweep fails
  | acknowledging id sweep =>
    rw [at_] at attentive
    cases fails with
    | true => exact holds.move trivial
    | false =>
      refine holds.unlink (.pending id) ?_ ?_ trivial
      · exact forall_mem_snoc holds.acknowledged attentive
      intro other kept
      by_cases same : other = id
      · exact .inr (.inr (by simp [same]))
      · simp only [Kept, AList.mem_erase, mem_append] at kept ⊢
        have different : (.pending other : Location) ≠ .pending id := by simpa using same
        tauto
  | retrying id record sweep =>
    rw [at_] at attentive
    dsimp only
    split
    · exact holds.move trivial
    split
    · exact holds.write (.pending id) attentive trivial
    have written : Conserved { spool with
        files := spool.files.insert (.pending id) record, position := .idle } :=
      holds.write (.pending id) attentive trivial
    exact written.finish sweep.failed
  | burying id sweep =>
    dsimp only
    split
    · exact holds.move trivial
    next record found =>
      have read : spool.files.lookup (.pending id) = some record := by
        cases fails <;> simp_all
      exact holds.bury read sweep.deadLettered
  | dropping id sweep =>
    cases fails with
    | true => exact holds.move trivial
    | false =>
      have absent := allowed id sweep at_ rfl
      refine holds.unlink (.pending id) holds.acknowledged ?_ trivial
      intro other kept
      by_cases same : other = id
      · subst same
        simpa [Kept, AList.mem_erase, absent] using kept
      · simpa [Kept, AList.mem_erase, same] using kept
  | replaying source target record =>
    rw [at_] at attentive
    obtain ⟨id, rfl, rfl, genuine⟩ := attentive
    cases fails with
    | true => exact holds.move trivial
    | false =>
      exact holds.write (.pending id) genuine ⟨id, rfl, (AList.mem_insert _).mpr (.inl rfl)⟩
  | unlinkingSource source =>
    rw [at_] at attentive
    obtain ⟨id, rfl, pending⟩ := attentive
    cases fails with
    | true => exact holds.move trivial
    | false =>
      refine holds.unlink (.deadLetter id) holds.acknowledged ?_ trivial
      intro other kept
      simp only [Kept, AList.mem_erase] at kept ⊢
      by_cases same : other = id
      · left
        simpa [same] using pending
      · simpa [same] using kept

theorem Conserved.step (transport : Transport) (spool : Spool Payload)
    (action : SpoolAction Payload) (holds : Conserved spool)
    (allowed : spool.Allowed transport action) : Conserved (spool.step transport action) := by
  cases action with
  | publish id topic payload metadata publishedAt fails =>
    simp only [Spool.step]
    split
    · exact holds
    · exact holds.publish transport id topic payload metadata publishedAt
  | consume limit => exact holds.consume limit
  | replayDeadLetter eventId fails =>
    simp only [Spool.step]
    split
    · exact holds
    · exact holds.replayDeadLetter allowed
  | proceed fails => exact holds.proceed allowed
  | handled outcome => exact holds.handled outcome
  | crash => exact holds.move trivial

end Spool

end Audiagentic.Events
