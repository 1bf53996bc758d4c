import Mathlib.Algebra.GroupWithZero.Nat
import Mathlib.Data.List.DropRight
import Mathlib.Data.List.Sort
import Mathlib.Data.Prod.Lex
import Mathlib.Data.String.Basic
import Audiagentic.Foundations.Dictionaries

/-!
# Segmented journals

A journal is a head file that rows are appended to, a directory of closed segments and a
small file of rotation metadata.  `prepareAppend` closes the head when the day changes or
the head would grow too large; a compressed segment stands beside its plain file for a while.

`Archives` says which rotations the directory holds.  Read in the order of `segmentPaths`,
the directory gives back their rows (`Archives.closedRows`).
-/

namespace Audiagentic.Observability

open Foundations List Option Dict AList

/-! ## Files -/

abbrev Day := Int

structure Row where
  /-- The integer under `event_seq`. -/
  snakeSeq : Option Int
  /-- The integer under `event-seq`. -/
  kebabSeq : Option Int
  body : String
  bytes : Nat
  nonempty : 0 < bytes

def Row.eventSeqs (row : Row) : List Int :=
  row.snakeSeq.toList ++ row.kebabSeq.toList

/-- The name of a segment: `day.sequence.token.ndjson`, or the same with `.gz`. -/
structure SegmentName where
  day : Day
  sequence : Nat
  token : String
  compressed : Bool
deriving DecidableEq

variable {name : SegmentName}

namespace SegmentName

/-- The name without `.gz`. -/
def plain (name : SegmentName) : SegmentName := { name with compressed := false }

/-- The name with `.gz`. -/
def gz (name : SegmentName) : SegmentName := { name with compressed := true }

/-- The sort key of `segment_paths`: the sequence number, then the name.  Days are written
with a fixed width, so that names compare as their parts do. -/
def key (name : SegmentName) : ℕ ×ₗ ℤ ×ₗ String ×ₗ Bool :=
  toLex (name.sequence, toLex (name.day, toLex (name.token, name.compressed)))

@[simp] theorem plain_sequence (name : SegmentName) : name.plain.sequence = name.sequence := rfl

@[simp] theorem plain_gz (name : SegmentName) : name.gz.plain = name.plain := rfl

@[simp] theorem gz_plain (name : SegmentName) : name.plain.gz = name.gz := rfl

theorem plain_eq_self (uncompressed : name.compressed = false) : name.plain = name := by
  cases name
  cases uncompressed
  rfl

theorem gz_eq_self (compressed : name.compressed = true) : name.gz = name := by
  cases name
  cases compressed
  rfl

theorem sequence_le_of_key_le {left right : SegmentName} (before : left.key ≤ right.key) :
    left.sequence ≤ right.sequence :=
  Prod.Lex.monotone_fst _ _ before

end SegmentName

/-- The rotation metadata, `path.rotation.json`. -/
structure Rotation where
  utcDay : Day
  segmentSequence : Nat
  lastEventSequence : Int

/-- The files of a journal.  A missing head and an empty one are alike. -/
structure Files where
  segments : Dict SegmentName (List Row)
  head : List Row
  /-- The day of the head's `mtime`. -/
  headDay : Day
  rotation : Option Rotation

namespace Files

/-! ## Reading -/

/-- `segment_paths`.  A plain file with a published compressed one is passed over. -/
def segmentPaths (files : Files) : List SegmentName :=
  (files.segments.keys.filter fun name =>
    ¬ (name.compressed = false ∧ name.gz ∈ files.segments.keys)).insertionSort
    fun left right => left.key ≤ right.key

/-- The rows of one source; a plain file that is gone was compressed meanwhile. -/
def openSource (files : Files) (source : SegmentName) : List Row :=
  ((files.segments.lookup source).or (files.segments.lookup source.gz)).getD []

def journalSequenceWatermark (files : Files) : Int :=
  files.rotation.elim 0 Rotation.lastEventSequence

def tailSegmentRows (files : Files) (limit : Nat) : List Row :=
  files.segmentPaths.reverse.foldl
    (fun result source =>
      if limit ≤ result.length then result
      else (files.openSource source).rtake (limit - result.length) ++ result)
    (files.head.rtake limit)

def headSize (files : Files) : Nat :=
  (files.head.map Row.bytes).sum

end Files

/-- What `iter_segment_rows` takes under the lock. -/
structure Snapshot where
  sources : List SegmentName
  head : List Row

/-- The locked part of `iter_segment_rows`. -/
def Files.snapshot (files : Files) : Snapshot :=
  ⟨files.segmentPaths, files.head⟩

/-- The rest of `iter_segment_rows`, with the files as they are when each source is opened. -/
def Snapshot.iterSegmentRows (snapshot : Snapshot) (whenOpened : SegmentName → Files) : List Row :=
  snapshot.sources.flatMap (fun source => (whenOpened source).openSource source) ++ snapshot.head

/-! ## Appending -/

/-- The arguments of `prepare_append`, with the clock and the token it draws. -/
structure AppendCall where
  maxBytes : Int
  incomingBytes : Nat
  day : Day
  token : String

/-- The file-system steps of `prepare_append`. -/
inductive Write where
  /-- `os.replace(path, destination)`. -/
  | replaceHead (destination : SegmentName)
  /-- `atomic_write_json(metadata, …)`. -/
  | writeRotation (rotation : Rotation)

def Write.apply (files : Files) : Write → Files
  | .replaceHead destination =>
    { files with segments := files.segments.insert destination files.head, head := [] }
  | .writeRotation rotation => { files with rotation := some rotation }

def raise (watermark : Int) : Option Row → Int
  | none => watermark
  | some row => row.eventSeqs.foldl max watermark

namespace Files

/-- The day the head was opened; a head without metadata is adopted by its `mtime`. -/
def openedDay (files : Files) (call : AppendCall) : Day :=
  match files.rotation with
  | some rotation => rotation.utcDay
  | none => if files.headSize ≠ 0 then files.headDay else call.day

def rotated (files : Files) (call : AppendCall) : Bool :=
  files.headSize ≠ 0 ∧ (files.openedDay call ≠ call.day ∨
    call.maxBytes < (files.headSize + call.incomingBytes : Nat))

def openedSequence (files : Files) : Nat :=
  files.rotation.elim 0 Rotation.segmentSequence

def lastSequence (files : Files) : Nat :=
  (files.segmentPaths.map SegmentName.sequence).foldl max files.openedSequence

/-- `prepare_append`: the steps it will make. -/
def prepareAppend (files : Files) (call : AppendCall) : Except String (List Write) :=
  if files.rotated call then
    if 10 ^ 20 ≤ files.lastSequence + 1 then .error "journal segment sequence exhausted"
    else
      .ok [.replaceHead ⟨files.openedDay call, files.lastSequence + 1, call.token, false⟩,
        .writeRotation ⟨call.day, files.lastSequence + 1,
          raise files.journalSequenceWatermark (files.head.rtake 1).getLast?⟩]
  else if files.headSize = 0 then
    -- Also the repair of an interruption after the head was renamed.
    .ok [.writeRotation ⟨call.day, files.lastSequence,
      raise files.journalSequenceWatermark (files.tailSegmentRows 1).getLast?⟩]
  else if files.rotation = none ∨ files.openedDay call ≠ call.day then
    .ok [.writeRotation ⟨call.day, files.openedSequence, files.journalSequenceWatermark⟩]
  else .ok []

def append (files : Files) (row : Row) (day : Day) : Files :=
  { files with head := files.head ++ [row], headDay := day }

end Files

/-! ## What the directory holds -/

theorem le_foldl_max {α : Type} [LinearOrder α] (start : α) (items : List α) :
    ∀ item ∈ start :: items, item ≤ items.foldl max start :=
  (max?_eq_some_iff.mp max?_cons').2

abbrev Closed := SegmentName × List Row

/-- **The directory holds these rotations.**  Each is there as a plain file, as a compressed
one, or as both, and nothing else is there. -/
structure Archives (segments : Dict SegmentName (List Row)) (rotations : List Closed) : Prop where
  increasing : (rotations.map Prod.fst).Pairwise fun earlier later =>
    earlier.sequence < later.sequence
  known : ∀ name rows, segments.lookup name = some rows → (name.plain, rows) ∈ rotations
  kept : ∀ entry ∈ rotations, entry.1.compressed = false ∧
    (segments.lookup entry.1 = some entry.2 ∨ segments.lookup entry.1.gz = some entry.2)

namespace Archives

variable {files : Files} {rotations : List Closed}

theorem empty : Archives ∅ [] where
  increasing := List.Pairwise.nil
  known := by
    intro name rows found
    rw [lookup_empty] at found
    cases found
  kept := by
    intro entry member
    cases member

theorem eq_of_sequence (archives : Archives files.segments rotations) {first second : Closed}
    (firstMember : first ∈ rotations) (secondMember : second ∈ rotations)
    (same : first.1.sequence = second.1.sequence) : first = second := by
  have distinct : (rotations.map fun entry => entry.1.sequence).Nodup := by
    have increasing := archives.increasing
    rw [pairwise_map] at increasing
    rw [List.Nodup, pairwise_map]
    exact increasing.imp Nat.ne_of_lt
  exact inj_on_of_nodup_map distinct firstMember secondMember same

theorem mem_segmentPaths :
    name ∈ files.segmentPaths ↔ name ∈ files.segments.keys ∧
      ¬ (name.compressed = false ∧ name.gz ∈ files.segments.keys) := by
  rw [Files.segmentPaths, mem_insertionSort, mem_filter, decide_eq_true_iff]

theorem eq_of_plain {first second : SegmentName} (firstMember : first ∈ files.segmentPaths)
    (secondMember : second ∈ files.segmentPaths) (samePlain : first.plain = second.plain) :
    first = second := by
  obtain ⟨firstThere, firstListed⟩ := mem_segmentPaths.mp firstMember
  obtain ⟨secondThere, secondListed⟩ := mem_segmentPaths.mp secondMember
  have sameGz : first.gz = second.gz := by
    rw [← SegmentName.gz_plain, samePlain, SegmentName.gz_plain]
  cases firstVariant : first.compressed with
  | false =>
    cases secondVariant : second.compressed with
    | false =>
      rw [← SegmentName.plain_eq_self firstVariant, samePlain,
        SegmentName.plain_eq_self secondVariant]
    | true =>
      rw [← SegmentName.gz_eq_self secondVariant, ← sameGz] at secondThere
      exact absurd ⟨firstVariant, secondThere⟩ firstListed
  | true =>
    cases secondVariant : second.compressed with
    | false =>
      rw [← SegmentName.gz_eq_self firstVariant, sameGz] at firstThere
      exact absurd ⟨secondVariant, firstThere⟩ secondListed
    | true =>
      rw [← SegmentName.gz_eq_self firstVariant, sameGz, SegmentName.gz_eq_self secondVariant]

theorem exists_of_mem_segmentPaths (archives : Archives files.segments rotations)
    (member : name ∈ files.segmentPaths) :
    ∃ rows, files.segments.lookup name = some rows ∧ (name.plain, rows) ∈ rotations := by
  obtain ⟨rows, found⟩ := isSome_iff_exists.mp
    (lookup_isSome.mpr (mem_segmentPaths.mp member).1)
  exact ⟨rows, found, archives.known name rows found⟩

theorem exists_listed (there : name ∈ files.segments.keys) :
    ∃ listed ∈ files.segmentPaths, listed.plain = name.plain := by
  by_cases passedOver : name.compressed = false ∧ name.gz ∈ files.segments.keys
  · refine ⟨name.gz, mem_segmentPaths.mpr ⟨passedOver.2, ?_⟩, rfl⟩
    rintro ⟨plain, -⟩
    cases plain
  · exact ⟨name, mem_segmentPaths.mpr ⟨there, passedOver⟩, rfl⟩

section

variable (archives : Archives files.segments rotations)
include archives

theorem segmentPaths_increasing :
    files.segmentPaths.Pairwise fun earlier later => earlier.sequence < later.sequence := by
  have sorted : files.segmentPaths.Pairwise fun left right => left.key ≤ right.key :=
    pairwise_insertionSort _ _
  have distinct : files.segmentPaths.Nodup := by
    rw [Files.segmentPaths, (perm_insertionSort _ _).nodup_iff]
    exact files.segments.keys_nodup.filter _
  refine (sorted.and distinct).imp_of_mem ?_
  rintro earlier later earlierMember laterMember ⟨inOrder, different⟩
  refine lt_of_le_of_ne (SegmentName.sequence_le_of_key_le inOrder) ?_
  intro same
  obtain ⟨_, -, earlierKnown⟩ := archives.exists_of_mem_segmentPaths earlierMember
  obtain ⟨_, -, laterKnown⟩ := archives.exists_of_mem_segmentPaths laterMember
  have samePlain := congrArg Prod.fst (archives.eq_of_sequence earlierKnown laterKnown same)
  exact different (eq_of_plain earlierMember laterMember samePlain)

/-- The segments in the directory, in the order of `segment_paths`, are the rotations. -/
theorem segmentPaths_plain :
    files.segmentPaths.map SegmentName.plain = rotations.map Prod.fst := by
  refine List.Pairwise.eq_of_mem_iff (r := fun earlier later : SegmentName =>
    earlier.sequence < later.sequence) ?_ archives.increasing ?_
  · rw [pairwise_map]
    exact archives.segmentPaths_increasing
  · intro name
    rw [List.mem_map, List.mem_map]
    constructor
    · rintro ⟨listed, member, rfl⟩
      obtain ⟨rows, -, known⟩ := archives.exists_of_mem_segmentPaths member
      exact ⟨_, known, rfl⟩
    rintro ⟨entry, member, rfl⟩
    obtain ⟨plain, found⟩ := archives.kept entry member
    rw [← SegmentName.plain_eq_self plain]
    rcases found with found | found
    · exact exists_listed (lookup_isSome.mp (isSome_of_eq_some found))
    · have there := lookup_isSome.mp (isSome_of_eq_some found)
      simpa only [SegmentName.plain_gz] using exists_listed there

/-- **A source still has its rows when it is opened**, whatever variant it was listed under. -/
theorem openSource_eq {source : SegmentName} {rows : List Row}
    (member : (source.plain, rows) ∈ rotations)
    (published : source.compressed = true → source ∈ files.segments.keys) :
    files.openSource source = rows := by
  have own : ∀ {name others}, files.segments.lookup name = some others →
      name.plain = source.plain → others = rows := by
    intro name others found samePlain
    have known := archives.known name others found
    rw [samePlain] at known
    exact congrArg Prod.snd (archives.eq_of_sequence known member rfl)
  rw [Files.openSource]
  rcases eq_none_or_eq_some (files.segments.lookup source) with missing | ⟨others, found⟩
  · -- A compressed source is still there, so this one was plain, and it was compressed.
    have plain : source.compressed = false := by
      rw [← Bool.not_eq_true]
      intro compressed
      exact lookup_eq_none.mp missing (published compressed)
    obtain ⟨-, found | found⟩ := archives.kept _ member
    · rw [SegmentName.plain_eq_self plain, missing] at found
      cases found
    · rw [missing, none_or]
      rw [SegmentName.gz_plain] at found
      rw [found, getD_some]
  · rw [found, some_or, getD_some]
    exact own found rfl

end

/-- Sources that stand for the rotations in order, each read as it was closed, give their
rows. -/
theorem flatMap_sources {sources : List SegmentName} {read : SegmentName → List Row}
    (names : sources.map SegmentName.plain = rotations.map Prod.fst)
    (reads : ∀ source ∈ sources, ∀ rows, (source.plain, rows) ∈ rotations → read source = rows) :
    sources.flatMap read = rotations.flatMap Prod.snd := by
  induction sources generalizing rotations with
  | nil =>
    rw [map_nil] at names
    rw [map_eq_nil_iff.mp names.symm]
    rfl
  | cons source sources ih =>
    cases rotations with
    | nil => cases names
    | cons entry rotations =>
      obtain ⟨name, rows⟩ := entry
      obtain ⟨own, names⟩ := List.cons.inj names
      have first : read source = rows := by
        refine reads source mem_cons_self rows ?_
        rw [own]
        exact mem_cons_self
      have rest := ih names fun other member others known =>
        reads other (mem_cons_of_mem _ member) others (mem_cons_of_mem _ known)
      rw [flatMap_cons, flatMap_cons, first, rest]

section

variable (archives : Archives files.segments rotations)
include archives

/-- **The rows of the directory** are those of the rotations, in their order. -/
theorem closedRows :
    files.segmentPaths.flatMap files.openSource = rotations.flatMap Prod.snd := by
  refine flatMap_sources archives.segmentPaths_plain ?_
  intro source member rows known
  exact archives.openSource_eq known fun _ => (mem_segmentPaths.mp member).1

theorem sequence_le_lastSequence {entry : Closed} (member : entry ∈ rotations) :
    entry.1.sequence ≤ files.lastSequence := by
  have listed : entry.1 ∈ files.segmentPaths.map SegmentName.plain := by
    rw [archives.segmentPaths_plain]
    exact List.mem_map_of_mem member
  obtain ⟨name, there, plain⟩ := List.mem_map.mp listed
  rw [← plain, SegmentName.plain_sequence]
  exact le_foldl_max _ _ _ (mem_cons_of_mem _ (List.mem_map_of_mem there))

/-! ### Changes of the directory -/

/-- **A rotation is added at the end.** -/
theorem rotate (plain : name.compressed = false)
    (fresh : ∀ entry ∈ rotations, entry.1.sequence < name.sequence) (rows : List Row) :
    Archives (files.segments.insert name rows) (rotations ++ [(name, rows)]) where
  increasing := by
    rw [map_append, pairwise_append]
    refine ⟨archives.increasing, pairwise_singleton _ _, ?_⟩
    intro earlier member later here
    obtain ⟨entry, known, rfl⟩ := List.mem_map.mp member
    rw [map_singleton, mem_singleton] at here
    rw [here]
    exact fresh entry known
  known := by
    intro other others found
    rw [lookup_insert_eq] at found
    split at found
    next same =>
      rw [same, SegmentName.plain_eq_self plain, ← Option.some.inj found]
      exact mem_append_right _ (mem_singleton.mpr rfl)
    next => exact mem_append_left _ (archives.known other others found)
  kept := by
    intro entry member
    rcases mem_append.mp member with member | here
    · obtain ⟨uncompressed, found⟩ := archives.kept entry member
      have older := fresh entry member
      have notPlain : entry.1 ≠ name := fun same => by rw [same] at older; exact lt_irrefl _ older
      have notGz : entry.1.gz ≠ name := fun same => by
        rw [← same] at plain
        cases plain
      refine ⟨uncompressed, ?_⟩
      rw [lookup_insert_eq, lookup_insert_eq, if_neg notPlain, if_neg notGz]
      exact found
    · rw [mem_singleton.mp here]
      refine ⟨plain, .inl ?_⟩
      rw [lookup_insert_eq, if_pos rfl]

/-- **Publishing a compressed copy** beside its plain file changes nothing. -/
theorem publish {rows : List Row} (member : (name, rows) ∈ rotations) :
    Archives (files.segments.insert name.gz rows) rotations where
  increasing := archives.increasing
  known := by
    intro other others found
    rw [lookup_insert_eq] at found
    split at found
    next same =>
      rw [same, SegmentName.plain_gz, SegmentName.plain_eq_self (archives.kept _ member).1,
        ← Option.some.inj found]
      exact member
    next => exact archives.known other others found
  kept := by
    intro entry known
    obtain ⟨uncompressed, found⟩ := archives.kept entry known
    refine ⟨uncompressed, ?_⟩
    rw [lookup_insert_eq, lookup_insert_eq]
    by_cases same : entry.1.gz = name.gz
    · have sameRows : entry = (name, rows) :=
        archives.eq_of_sequence known member (congrArg (fun gz => gz.sequence) same)
      right
      rw [if_pos same, sameRows]
    · have different : entry.1 ≠ name.gz := by
        intro equal
        rw [equal] at uncompressed
        cases uncompressed
      rw [if_neg same, if_neg different]
      exact found

/-- **Removing a plain file** whose compressed copy is published loses nothing. -/
theorem unlink (published : name.gz ∈ files.segments.keys) :
    Archives (files.segments.erase name.plain) rotations where
  increasing := archives.increasing
  known := by
    intro other others found
    rw [lookup_erase_eq] at found
    split at found
    next => cases found
    next => exact archives.known other others found
  kept := by
    intro entry known
    obtain ⟨uncompressed, found⟩ := archives.kept entry known
    have notGz : entry.1.gz ≠ name.plain := fun same => by
      have variant := congrArg SegmentName.compressed same
      cases variant
    refine ⟨uncompressed, ?_⟩
    rw [lookup_erase_eq, lookup_erase_eq, if_neg notGz]
    by_cases same : entry.1 = name.plain
    · -- The published copy holds the rows of this rotation.
      obtain ⟨rows, copy⟩ := isSome_iff_exists.mp (lookup_isSome.mpr published)
      have own := archives.known _ _ copy
      rw [SegmentName.plain_gz, ← same] at own
      have sameRows : (entry.1, rows) = entry := archives.eq_of_sequence own known rfl
      right
      rw [same, SegmentName.gz_plain, copy, ← congrArg Prod.snd sameRows]
    · rw [if_neg same]
      exact found

end

end Archives

/-! ## Rows from the end -/

theorem rtake_append {α : Type} (count : Nat) (front back : List α) :
    (front ++ back).rtake count = front.rtake (count - back.length) ++ back.rtake count := by
  rw [List.rtake, List.rtake, List.rtake, drop_append, length_append]
  rcases Nat.le_total count back.length with inBack | overBack
  · have all : front.length ≤ front.length + back.length - count := by omega
    have none : count - back.length = 0 := by omega
    have skipped : front.length + back.length - count - front.length = back.length - count := by
      omega
    rw [none, Nat.sub_zero, drop_eq_nil_of_le all, drop_length, skipped]
  · have whole : front.length + back.length - count - front.length = back.length - count := by
      omega
    have part : front.length + back.length - count = front.length - (count - back.length) := by
      omega
    rw [whole, part]

/-- **`tail_segment_rows` reads the last rows**, whatever segments they are in. -/
theorem Files.tailSegmentRows_eq (files : Files) (limit : Nat) :
    files.tailSegmentRows limit =
      (files.segmentPaths.flatMap files.openSource ++ files.head).rtake limit := by
  rw [tailSegmentRows, foldl_reverse]
  generalize files.segmentPaths = sources
  induction sources with
  | nil => rfl
  | cons source sources ih =>
    rw [foldr_cons, ih, flatMap_cons, append_assoc]
    generalize sources.flatMap files.openSource ++ files.head = rest
    rw [rtake_append]
    have length : (rest.rtake limit).length = min limit rest.length := by
      rw [List.rtake, length_drop]
      omega
    split
    next full =>
      have enough : limit - rest.length = 0 := by omega
      rw [enough, rtake_zero, nil_append]
    next short =>
      have missing : limit - (rest.rtake limit).length = limit - rest.length := by omega
      rw [missing]

end Audiagentic.Observability
