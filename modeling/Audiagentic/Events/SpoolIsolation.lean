import Audiagentic.Events.SpoolContents
import Audiagentic.Foundations.Checks

/-!
# Poison isolation

What `consume` needs of the contents of a spool: every file decodes, is a JSON value or refused as
one by the decoder, and counts its attempts in something that has an integer.  Then no file stops
the sweep, and every malformed one that it gets to is a dead letter.  Otherwise some handler makes
`consume` raise, and the file stays where it is.
-/

namespace Audiagentic.Events

open Foundations List OrderedDict

/-! ## Harmless files -/

/-- The attempts of a record have an integer, and the record can be written back with one more. -/
def Retryable (host : JsonHost) (fields : EventFields) : Prop :=
  let value := (Json.lookup attemptsKey fields).getD (.scalar (.int 0))
  (value.text?.getD []).countP (fun char => (host.digit char).isSome) ≤ 4300 ∧
    ∃ attempts, integerOf host.digit value = .value attempts ∧
      host.dumps (.map (OrderedDict.setEntries attemptsKey (.scalar (.int (attempts + 1)))
        fields)) = true

/-- The bytes are UTF-8, `json.loads` returns or raises a `JSONDecodeError`, and an event can be
retried. -/
def Harmless (host : JsonHost) (bytes : Bytes) : Prop :=
  ∃ text, decodeUtf8 bytes = some text ∧
    ∃ value, host.loads (Text.universalNewlines text) = .ok value ∧
      ∀ fields, value = some (.map fields) → hasTrue fields eventIdKey = true →
        hasTrue fields topicKey = true → Retryable host fields

theorem retried_iff {host : JsonHost} {fields : EventFields} :
    (∃ written, retried host fields = .ok written) ↔ Retryable host fields := by
  unfold retried nextAttempts Retryable
  dsimp only
  split
  next long =>
    constructor
    · rintro ⟨_, impossible⟩
      cases impossible
    · rintro ⟨short, _⟩
      exact absurd long (Nat.not_lt.mpr short)
  next short =>
    cases integerOf host.digit ((Json.lookup attemptsKey fields).getD (.scalar (.int 0))) with
    | value attempts =>
      constructor
      · rintro ⟨written, returned⟩
        obtain ⟨next, same, returned⟩ := bind_eq_ok.mp returned
        cases same
        refine ⟨Nat.not_lt.mp short, attempts, rfl, ?_⟩
        by_contra refused
        rw [if_neg refused] at returned
        cases returned
      · rintro ⟨_, _, same, accepted⟩
        cases same
        exact ⟨_, if_pos accepted⟩
    | invalid | overflow => simp [bind, Except.bind]

theorem harmless_iff {host : JsonHost} {bytes : Bytes} :
    Harmless host bytes ↔ ∃ event, readContents host bytes = .ok event ∧
      ∀ fields, event = some fields → Retryable host fields := by
  unfold Harmless readContents
  cases decodeUtf8 bytes with
  | none => simp
  | some text =>
    simp only [Option.some.injEq, exists_eq_left']
    cases loaded : host.loads (Text.universalNewlines text) with
    | error error => simp [bind, Except.bind]
    | ok value =>
      simp only [Except.ok.injEq, exists_eq_left', bind, Except.bind]
      split
      next fields =>
        split_ifs with event
        · constructor
          · intro retryable
            refine ⟨some fields, rfl, ?_⟩
            rintro _ ⟨⟩
            exact retryable fields rfl event.1 event.2
          · rintro ⟨_, ⟨⟩, retryable⟩ _ ⟨⟩ _ _
            exact retryable fields rfl
        · constructor
          · intro _
            exact ⟨none, rfl, nofun⟩
          · rintro _ _ ⟨⟩ identified named
            exact absurd ⟨identified, named⟩ event
      next other =>
        constructor
        · intro _
          exact ⟨none, rfl, nofun⟩
        · rintro _ fields rfl
          exact absurd rfl (other fields)

/-! ## The sweep -/

section Sweep

variable {M : Type} {host : JsonHost} {maxAttempts : ℕ}
  {handler : M → EventFields → Outcome × M} {limit : Option ℤ}

def Untouched (files : OrderedDict Text Bytes) (names : List Text) (sweep : ContentsSweep M) :
    Prop :=
  ∀ name ∈ names, sweep.pending.get? name = (files.get? name).map .bytes

def OnlyFile (name : Text) (before after : ContentsSweep M) : Prop :=
  ∀ other, other ≠ name → after.pending.get? other = before.pending.get? other ∧
    after.deadLetter.get? other = before.deadLetter.get? other

theorem onlyFile_moveToDeadLetter (sweep : ContentsSweep M) (name : Text) :
    OnlyFile name sweep (sweep.moveToDeadLetter name) := by
  intro other different
  unfold ContentsSweep.moveToDeadLetter
  refine ⟨?_, ?_⟩
  · rw [get?_pop, if_neg different]
  dsimp only
  split
  next => rfl
  next => exact get?_set_of_ne _ different _

theorem onlyFile_acknowledge (sweep : ContentsSweep M) (name : Text) :
    OnlyFile name sweep (sweep.acknowledge name) := by
  intro other different
  refine ⟨?_, rfl⟩
  rw [ContentsSweep.acknowledge, get?_pop, if_neg different]

theorem onlyFile_writeBack (sweep : ContentsSweep M) (name : Text) (fields : EventFields) :
    OnlyFile name sweep (sweep.writeBack name fields) :=
  fun _ different => ⟨get?_set_of_ne _ different _, rfl⟩

theorem OnlyFile.trans {name : Text} {first second third : ContentsSweep M}
    (earlier : OnlyFile name first second) (later : OnlyFile name second third) :
    OnlyFile name first third := by
  intro other different
  exact ⟨(later other different).1.trans (earlier other different).1,
    (later other different).2.trans (earlier other different).2⟩

structure Turned (name : Text) (event : Option EventFields) (failed : ℕ)
    (before after : ContentsSweep M) : Prop where
  onlyFile : OnlyFile name before after
  calls : after.calls = before.calls ++ event.toList
  failed : after.counters.failed = before.counters.failed + failed
  malformed : event = none → ∀ contents, before.pending.get? name = some contents →
    after.deadLetter.get? name = some contents

/-- **The outcomes of a turn.** -/
inductive TurnOutcome (host : JsonHost) (name : Text) (sweep : ContentsSweep M) :
    Turn M → Prop where
  | unread (error : String) (read : readPending host (sweep.pending.get? name) = .error error) :
      TurnOutcome host name sweep (.raised error sweep)
  | uncounted (error : String) (fields : EventFields) (memory : M)
      (read : readPending host (sweep.pending.get? name) = .ok (some fields))
      (uncounted : ¬ Retryable host fields) :
      TurnOutcome host name sweep (.raised error (sweep.called fields memory))
  | stopped (fields : EventFields) (after : ContentsSweep M)
      (read : readPending host (sweep.pending.get? name) = .ok (some fields))
      (turned : Turned name (some fields) 1 sweep after) :
      TurnOutcome host name sweep (.stopped after)
  | next (event : Option EventFields) (after : ContentsSweep M)
      (read : readPending host (sweep.pending.get? name) = .ok event)
      (turned : Turned name event 0 sweep after) :
      TurnOutcome host name sweep (.next after)

theorem sweepTurn_outcome (host : JsonHost) (maxAttempts : ℕ)
    (handler : M → EventFields → Outcome × M) (name : Text) (sweep : ContentsSweep M) :
    TurnOutcome host name sweep (sweepTurn host maxAttempts handler name sweep) := by
  unfold sweepTurn
  split
  next error read => exact .unread error read
  next read =>
    refine .next none _ read ⟨onlyFile_moveToDeadLetter sweep name, ?_, rfl, ?_⟩
    · exact (append_nil _).symm
    intro _ contents found
    unfold ContentsSweep.moveToDeadLetter
    rw [found]
    exact get?_set_self _ _ _
  next fields read =>
    have present : (some fields : Option EventFields) ≠ none := nofun
    dsimp only
    split
    next =>
      exact .next (some fields) _ read ⟨onlyFile_acknowledge (sweep.called fields _) name, rfl, rfl,
        fun absent => absurd absent present⟩
    next =>
      exact .next (some fields) _ read ⟨onlyFile_moveToDeadLetter (sweep.called fields _) name, rfl,
        rfl, fun absent => absurd absent present⟩
    next =>
      split
      next error raised =>
        refine .uncounted error fields _ read ?_
        rw [← retried_iff, raised]
        rintro ⟨_, ⟨⟩⟩
      next attempts written _ =>
        have rewritten := onlyFile_writeBack
          (sweep.called fields (handler sweep.memory fields).2) name written
        split
        next =>
          exact .next (some fields) _ read ⟨rewritten.trans (onlyFile_moveToDeadLetter _ name), rfl,
            rfl, fun absent => absurd absent present⟩
        next =>
          exact .stopped fields _ read ⟨rewritten, rfl, rfl, fun absent => absurd absent present⟩

theorem untouched_next {files : OrderedDict Text Bytes} {name : Text} {names : List Text}
    {sweep after : ContentsSweep M} (fresh : name ∉ names)
    (untouched : Untouched files (name :: names) sweep) (kept : OnlyFile name sweep after) :
    Untouched files names after := by
  intro other member
  have different : other ≠ name := by
    rintro rfl
    exact fresh member
  rw [(kept other different).1]
  exact untouched other (mem_cons_of_mem _ member)

def eventOf (host : JsonHost) (files : OrderedDict Text Bytes) (name : Text) :
    Except String (Option EventFields) :=
  match files.get? name with
  | none => .ok none
  | some bytes => readContents host bytes

theorem readPending_untouched {files : OrderedDict Text Bytes} {name : Text} {names : List Text}
    {sweep : ContentsSweep M} (untouched : Untouched files (name :: names) sweep) :
    readPending host (sweep.pending.get? name) = eventOf host files name := by
  unfold eventOf
  rw [untouched name mem_cons_self]
  cases files.get? name <;> rfl

theorem eventOf_harmless {files : OrderedDict Text Bytes}
    (harmless : ∀ name bytes, files.get? name = some bytes → Harmless host bytes) (name : Text) :
    ∃ event, eventOf host files name = .ok event ∧
      ∀ fields, event = some fields → Retryable host fields := by
  unfold eventOf
  split
  next => exact ⟨none, rfl, nofun⟩
  next bytes found => exact harmless_iff.mp (harmless name bytes found)

def recordsOf (host : JsonHost) (files : OrderedDict Text Bytes) (names : List Text) :
    List EventFields :=
  names.filterMap fun name => (eventOf host files name).toOption.join

/-- **A sweep over harmless files.**  It returns, and has gone through the names up to its limit or
to an event that failed: it has called the handler with every event among them, in order, and every
malformed file among them is a dead letter. -/
theorem sweepContents_harmless {files : OrderedDict Text Bytes}
    (harmless : ∀ name bytes, files.get? name = some bytes → Harmless host bytes)
    {names : List Text} (distinct : names.Nodup) {sweep : ContentsSweep M}
    (untouched : Untouched files names sweep) :
    let ended := sweepContents host maxAttempts handler limit names sweep
    ended.1 = none ∧ (∀ name ∉ names, ended.2.deadLetter.get? name = sweep.deadLetter.get? name) ∧
      ∃ done left, names = done ++ left ∧
        (left = [] ∨ ended.2.limitReached limit = true ∨
          ended.2.counters.failed = sweep.counters.failed + 1) ∧
        ended.2.calls = sweep.calls ++ recordsOf host files done ∧
        ∀ name ∈ done, ∀ bytes, files.get? name = some bytes →
          readContents host bytes = .ok none →
          ended.2.deadLetter.get? name = some (.bytes bytes) := by
  induction names generalizing sweep with
  | nil =>
    refine ⟨rfl, fun _ _ => rfl, [], [], rfl, .inl rfl, (append_nil _).symm, ?_⟩
    rintro _ ⟨⟩
  | cons name rest ih =>
    obtain ⟨fresh, distinct⟩ := nodup_cons.mp distinct
    have read : readPending host (sweep.pending.get? name) = eventOf host files name :=
      readPending_untouched untouched
    have outcome := sweepTurn_outcome host maxAttempts handler name sweep
    unfold sweepContents
    by_cases reached : sweep.limitReached limit = true
    · rw [if_pos reached]
      refine ⟨rfl, fun _ _ => rfl, [], name :: rest, rfl, .inr (.inl reached),
        (append_nil _).symm, ?_⟩
      rintro _ ⟨⟩
    rw [if_neg reached]
    obtain ⟨event, known, retryable⟩ := eventOf_harmless harmless name
    rw [known] at read
    have records : recordsOf host files [name] = event.toList := by
      unfold recordsOf
      rw [filterMap_cons, filterMap_nil, known]
      cases event <;> rfl
    -- A malformed file that the turn has moved stays a dead letter.
    have buried : ∀ {after : ContentsSweep M} {failed : ℕ}, Turned name event failed sweep after →
        ∀ bytes, files.get? name = some bytes → readContents host bytes = .ok none →
        after.deadLetter.get? name = some (.bytes bytes) := by
      intro after failed turned bytes found malformed
      unfold eventOf at known
      rw [found] at known
      cases known.symm.trans malformed
      refine turned.malformed rfl _ ?_
      rw [untouched name mem_cons_self, found]
      rfl
    generalize sweepTurn host maxAttempts handler name sweep = turn at outcome
    cases outcome with
    | unread error raised =>
      rw [read] at raised
      cases raised
    | uncounted error fields memory found uncounted =>
      rw [read] at found
      cases found
      exact absurd (retryable fields rfl) uncounted
    | stopped fields after found turned =>
      rw [read] at found
      cases found
      refine ⟨rfl, ?_, [name], rest, rfl, .inr (.inr turned.failed), ?_, ?_⟩
      · intro other absent
        exact (turned.onlyFile other (ne_of_not_mem_cons absent)).2
      · rw [records]
        exact turned.calls
      · intro other member
        cases mem_singleton.mp member
        exact buried turned
    | next event' after found turned =>
      rw [read] at found
      cases found
      obtain ⟨returned, frame, done, left, split, whole, calls, letters⟩ :=
        ih distinct (untouched_next fresh untouched turned.onlyFile)
      refine ⟨returned, ?_, name :: done, left, by rw [split]; rfl, ?_, ?_, ?_⟩
      · intro other absent
        rw [frame other (not_mem_of_not_mem_cons absent)]
        exact (turned.onlyFile other (ne_of_not_mem_cons absent)).2
      · rw [turned.failed, Nat.add_zero] at whole
        exact whole
      · rw [calls, turned.calls, append_assoc, ← records]
        exact congrArg (sweep.calls ++ ·) filterMap_append.symm
      · intro other member bytes here malformed
        rcases mem_cons.mp member with rfl | later
        · rw [frame other fresh]
          exact buried turned bytes here malformed
        · exact letters other later bytes here malformed

def testingHandler (host : JsonHost) (_ : Unit) (fields : EventFields) : Outcome × Unit :=
  (match retried host fields with
  | .ok _ => .success
  | .error _ => .error, ())

/-- A turn under the testing handler raises, or has read a file that can be retried. -/
theorem testing_turn (host : JsonHost) (maxAttempts : ℕ) (name : Text)
    (sweep : ContentsSweep Unit) :
    (∃ error after, sweepTurn host maxAttempts (testingHandler host) name sweep =
        .raised error after) ∨
      ∃ event after, readPending host (sweep.pending.get? name) = .ok event ∧
        (∀ fields, event = some fields → Retryable host fields) ∧ OnlyFile name sweep after ∧
        sweepTurn host maxAttempts (testingHandler host) name sweep = .next after := by
  unfold sweepTurn
  split
  next error _ => exact .inl ⟨error, sweep, rfl⟩
  next read => exact .inr ⟨none, _, read, nofun, onlyFile_moveToDeadLetter sweep name, rfl⟩
  next fields read =>
    unfold testingHandler
    cases tested : retried host fields with
    | error error => exact .inl ⟨error, _, rfl⟩
    | ok written =>
      refine .inr ⟨some fields, _, read, ?_, onlyFile_acknowledge (sweep.called fields ()) name,
        rfl⟩
      rintro _ ⟨⟩
      exact retried_iff.mp ⟨written, tested⟩

/-- **A sweep that returns under the testing handler has found harmless files only.** -/
theorem harmless_of_sweepContents {files : OrderedDict Text Bytes} {names : List Text}
    (distinct : names.Nodup) {sweep : ContentsSweep Unit} (untouched : Untouched files names sweep)
    (returned : (sweepContents host maxAttempts (testingHandler host) none names sweep).1 = none) :
    ∀ name ∈ names, ∀ bytes, files.get? name = some bytes → Harmless host bytes := by
  induction names generalizing sweep with
  | nil => rintro _ ⟨⟩
  | cons name rest ih =>
    obtain ⟨fresh, distinct⟩ := nodup_cons.mp distinct
    have read : readPending host (sweep.pending.get? name) = eventOf host files name :=
      readPending_untouched untouched
    unfold sweepContents at returned
    rw [if_neg (by exact nofun)] at returned
    rcases testing_turn host maxAttempts name sweep with
      ⟨error, after, raised⟩ | ⟨event, after, found, retryable, onlyFile, went⟩
    · rw [raised] at returned
      cases returned
    · rw [went] at returned
      rw [found] at read
      intro other member bytes present
      rcases mem_cons.mp member with rfl | later
      · unfold eventOf at read
        rw [present] at read
        exact harmless_iff.mpr ⟨event, read.symm, retryable⟩
      · exact ih distinct (untouched_next fresh untouched onlyFile) returned other
          later bytes present

end Sweep

/-! ## Isolation -/

/-- `consume` returns whatever the handler does, has gone through the files in order up to its limit
or to an event that failed, has called the handler with every event among them, and has made every
malformed file among them a dead letter. -/
def PoisonIsolated (host : JsonHost) (maxAttempts : ℕ) (files : OrderedDict Text Bytes) : Prop :=
  ∀ (M : Type) (handler : M → EventFields → Outcome × M) (limit : Option ℤ)
    (deadLetter : OrderedDict Text SpoolContents) (memory : M),
    let ended := consumeContents host maxAttempts handler limit files deadLetter memory
    ended.1 = none ∧ ∃ done left, sortedNames files = done ++ left ∧
      (left = [] ∨ ended.2.limitReached limit = true ∨ ended.2.counters.failed = 1) ∧
      ended.2.calls = recordsOf host files done ∧
      ∀ name ∈ done, ∀ bytes, files.get? name = some bytes →
        readContents host bytes = .ok none → ended.2.deadLetter.get? name = some (.bytes bytes)

theorem mem_sortedNames {files : OrderedDict Text Bytes} {name : Text} :
    name ∈ sortedNames files ↔ ∃ bytes, files.get? name = some bytes := by
  unfold sortedNames
  rw [mem_insertionSort, OrderedDict.mem_keys_iff]

theorem sortedNames_nodup (files : OrderedDict Text Bytes) : (sortedNames files).Nodup :=
  (perm_insertionSort _ _).nodup_iff.mpr files.nodup

theorem get?_pendingFiles (files : OrderedDict Text Bytes) (name : Text) :
    (pendingFiles files).get? name = (files.get? name).map .bytes := by
  unfold OrderedDict.get? pendingFiles
  rw [find?_map, Option.map_map, Option.map_map]
  rfl

/-- **When the spool isolates poison.**  `consume` does so for every handler, limit and dead-letter
directory exactly when every pending file is harmless. -/
theorem poisonIsolated_iff (host : JsonHost) (maxAttempts : ℕ) (files : OrderedDict Text Bytes) :
    PoisonIsolated host maxAttempts files ↔
      ∀ name bytes, files.get? name = some bytes → Harmless host bytes := by
  constructor
  · intro isolated name bytes found
    obtain ⟨returned, _⟩ := isolated Unit (testingHandler host) none OrderedDict.empty ()
    exact harmless_of_sweepContents (sortedNames_nodup files)
      (fun other _ => get?_pendingFiles files other) returned name
      (mem_sortedNames.mpr ⟨bytes, found⟩) bytes found
  · intro harmless M handler limit deadLetter memory
    obtain ⟨returned, _, done, left, split, whole, calls, letters⟩ :=
      @sweepContents_harmless M host maxAttempts handler limit files harmless _
        (sortedNames_nodup files) ⟨pendingFiles files, deadLetter, ⟨0, 0, 0⟩, memory, []⟩
        (fun other _ => get?_pendingFiles files other)
    exact ⟨returned, done, left, split, whole, calls, letters⟩

/-! ## A file that is no text -/

def sampleEventText : Text := "\x7b\"event-id\": \"2\", \"topic\": \"trigger\"\x7d".toList

/-- The decoder on that text, which refuses every other one. -/
def sampleJsonHost : JsonHost where
  loads text :=
    if text = sampleEventText then
      .ok (some (.map [(eventIdKey, .scalar (.str ['2'])),
        (topicKey, .scalar (.str "trigger".toList))]))
    else .ok none
  dumps _ := true
  digit char := if char.isDigit = true then some (char.toNat - 48) else none

/-- A byte that is no UTF-8, and a well-formed event after it. -/
def poisonedFiles : OrderedDict Text Bytes where
  entries := [("1.json".toList, [0xFF]),
    ("2.json".toList, sampleEventText.map fun char => UInt8.ofNat char.toNat)]
  nodup := by decide

/-- **A file that is no text blocks the queue.**  The sweep raises with the file still at the head
of the queue, and the event after it is not delivered. -/
theorem undecodable_file_blocks :
    (consumeContents sampleJsonHost 5 (fun (_ : Unit) _ => (.success, ())) none poisonedFiles
        OrderedDict.empty ()).1 = some "UnicodeDecodeError" ∧
      (consumeContents sampleJsonHost 5 (fun (_ : Unit) _ => (.success, ())) none poisonedFiles
        OrderedDict.empty ()).2.calls.length = 0 ∧
      (consumeContents sampleJsonHost 5 (fun (_ : Unit) _ => (.success, ())) none poisonedFiles
        OrderedDict.empty ()).2.pending.keys = poisonedFiles.keys ∧
      ¬ PoisonIsolated sampleJsonHost 5 poisonedFiles := by
  have raised : (consumeContents sampleJsonHost 5 (fun (_ : Unit) _ => (.success, ())) none
      poisonedFiles OrderedDict.empty ()).1 = some "UnicodeDecodeError" := by
    decide +kernel
  refine ⟨raised, by decide +kernel, by decide +kernel, ?_⟩
  intro isolated
  obtain ⟨returned, _⟩ := isolated Unit (fun _ _ => (.success, ())) none OrderedDict.empty ()
  rw [raised] at returned
  cases returned

end Audiagentic.Events
