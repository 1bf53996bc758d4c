import Audiagentic.Foundations.Runs
import Audiagentic.Observability.JournalSegments

/-!
# A journal over whole runs

A writer, a compressor and readers share a journal, and a crash may come between any two
file-system steps of the first two.  The writer's lock keeps the steps of one append together,
but nothing here needs it to keep the compressor out.
-/

namespace Audiagentic.Observability

open Foundations List

/-! ## The parties -/

inductive Writer where
  | outside
  /-- It holds the lock, and `prepare_append` has these steps left. -/
  | inside (writes : List Write)

/-- Where `_maintain_segments` is. -/
inductive Maintenance where
  | idle
  | between (sources : List SegmentName)
  /-- It has compressed a source into a temporary file. -/
  | copied (source : SegmentName) (copy : List Row) (sources : List SegmentName)
  | published (source : SegmentName) (sources : List SegmentName)

/-- A journal, with the rows appended and the rotations made so far. -/
structure Journal where
  files : Files
  writer : Writer
  maintenance : Maintenance
  appended : List Row
  rotations : List Closed

inductive JournalEvent where
  /-- A writer takes the lock and `prepare_append` reads the files. -/
  | prepareAppend (call : AppendCall)
  /-- The next step of `prepare_append`. -/
  | write
  | appendRow (row : Row) (day : Day)
  /-- The writer leaves without a line. -/
  | leave
  /-- `_maintain_segments` lists its sources. -/
  | maintain
  /-- It looks at the next source; `held` when a reader keeps the plain file from being
  removed. -/
  | nextSource (held : Bool)
  | publish
  | unlinkPlain (held : Bool)
  /-- It has made its number of operations. -/
  | stop
  | crash

namespace Journal

def init (adopted : List Row) (day : Day) : Journal where
  files := ⟨∅, adopted, day, none⟩
  writer := .outside
  maintenance := .idle
  appended := adopted
  rotations := []

def rotationOf (files : Files) : Write → List Closed
  | .replaceHead destination => [(destination, files.head)]
  | .writeRotation _ => []

/-- The files without a plain segment, unless it is held. -/
def dropPlain (files : Files) (source : SegmentName) (held : Bool) : Files :=
  if held then files else { files with segments := files.segments.erase source.plain }

def writerStep (run : Journal) : JournalEvent → Journal
  | .prepareAppend call =>
    match run.writer, run.files.prepareAppend call with
    | .outside, .ok writes => { run with writer := .inside writes }
    | _, _ => run
  | .write =>
    match run.writer with
    | .inside (write :: writes) =>
      { run with
        files := write.apply run.files
        writer := .inside writes
        rotations := run.rotations ++ rotationOf run.files write }
    | _ => run
  | .appendRow row day =>
    match run.writer with
    | .inside [] =>
      { run with
        files := run.files.append row day
        writer := .outside
        appended := run.appended ++ [row] }
    | _ => run
  | .leave =>
    match run.writer with
    | .inside [] => { run with writer := .outside }
    | _ => run
  | _ => run

/-- The steps of `_maintain_segments`. -/
def maintenanceStep (run : Journal) : JournalEvent → Journal
  | .maintain =>
    match run.maintenance with
    | .idle => { run with maintenance := .between run.files.segmentPaths }
    | _ => run
  | .nextSource held =>
    match run.maintenance with
    | .between (source :: sources) =>
      if source ∉ run.files.segments.keys then { run with maintenance := .between sources }
      else if source.compressed then
        { run with
          files := dropPlain run.files source held
          maintenance := .between sources }
      else
        { run with maintenance := .copied source (run.files.openSource source) sources }
    | _ => run
  | .publish =>
    match run.maintenance with
    | .copied source copy sources =>
      if source ∈ run.files.segments.keys then
        { run with
          files := { run.files with segments := run.files.segments.insert source.gz copy }
          maintenance := .published source sources }
      else { run with maintenance := .between sources }
    | _ => run
  | .unlinkPlain held =>
    match run.maintenance with
    | .published source sources =>
      { run with
        files := dropPlain run.files source held
        maintenance := .between sources }
    | _ => run
  | .stop => { run with maintenance := .idle }
  | _ => run

def step (run : Journal) (event : JournalEvent) : Journal :=
  match event with
  | .crash => { run with writer := .outside, maintenance := .idle }
  | .prepareAppend _ | .write | .appendRow .. | .leave => run.writerStep event
  | .maintain | .nextSource _ | .publish | .unlinkPlain _ | .stop => run.maintenanceStep event

end Journal

/-! ## The rows -/

/-- What a plan of `prepare_append` may rename the head to. -/
def Planned (rotations : List Closed) : List Write → Prop
  | [] => True
  | [.writeRotation _] => True
  | [.replaceHead destination, .writeRotation _] => destination.compressed = false ∧
      ∀ entry ∈ rotations, entry.1.sequence < destination.sequence
  | _ => False

def Writer.Fits (rotations : List Closed) : Writer → Prop
  | .outside => True
  | .inside writes => Planned rotations writes

def AllPublished (files : Files) (sources : List SegmentName) : Prop :=
  ∀ source ∈ sources, source.compressed = true → source ∈ files.segments.keys

def Maintenance.Fits (files : Files) (rotations : List Closed) : Maintenance → Prop
  | .idle => True
  | .between sources => AllPublished files sources
  | .copied source copy sources => (source, copy) ∈ rotations ∧ AllPublished files sources
  | .published source sources => source.gz ∈ files.segments.keys ∧ AllPublished files sources

namespace Journal

/-- **The invariant of the rows.** -/
structure Sound (run : Journal) : Prop where
  archives : Archives run.files.segments run.rotations
  rows : run.appended = run.rotations.flatMap Prod.snd ++ run.files.head
  writer : run.writer.Fits run.rotations
  maintenance : run.maintenance.Fits run.files run.rotations

/-- What a step keeps: published files stay, and rotations and rows are only added. -/
structure Extends (before after : Journal) : Prop where
  published : ∀ name : SegmentName, name.compressed = true →
    name ∈ before.files.segments.keys → name ∈ after.files.segments.keys
  rotations : before.rotations <+: after.rotations
  appended : before.appended <+: after.appended

theorem Extends.of_same {before after : Journal}
    (segments : after.files.segments = before.files.segments)
    (rotations : after.rotations = before.rotations)
    (appended : before.appended <+: after.appended) : before.Extends after where
  published := by
    intro name _ there
    rw [segments]
    exact there
  rotations := rotations ▸ prefix_rfl
  appended := appended

theorem Extends.refl (run : Journal) : run.Extends run :=
  Extends.of_same rfl rfl prefix_rfl

theorem Extends.trans {first second third : Journal} (left : first.Extends second)
    (right : second.Extends third) : first.Extends third :=
  ⟨fun name compressed there =>
    right.published name compressed (left.published name compressed there),
    left.rotations.trans right.rotations, left.appended.trans right.appended⟩

theorem Extends.fits {before after : Journal} (extension : before.Extends after)
    {maintenance : Maintenance} (fits : maintenance.Fits before.files before.rotations) :
    maintenance.Fits after.files after.rotations := by
  have published : ∀ {sources}, AllPublished before.files sources →
      AllPublished after.files sources := by
    intro sources all source member compressed
    exact extension.published source compressed (all source member compressed)
  cases maintenance with
  | idle => trivial
  | between sources => exact published fits
  | copied source copy sources =>
    exact ⟨extension.rotations.subset fits.1, published fits.2⟩
  | published source sources =>
    exact ⟨extension.published _ rfl fits.1, published fits.2⟩

variable {run : Journal}

theorem sound_init (adopted : List Row) (day : Day) : (init adopted day).Sound where
  archives := Archives.empty
  rows := rfl
  writer := trivial
  maintenance := trivial

section

variable (sound : run.Sound)
include sound

theorem Sound.planned {call : AppendCall} {writes : List Write}
    (prepared : run.files.prepareAppend call = .ok writes) : Planned run.rotations writes := by
  rw [Files.prepareAppend] at prepared
  split at prepared
  · split at prepared
    · cases prepared
    cases prepared
    refine ⟨rfl, ?_⟩
    intro entry member
    exact Nat.lt_succ_of_le (sound.archives.sequence_le_lastSequence member)
  · split at prepared
    · cases prepared
      trivial
    split at prepared
    all_goals
      cases prepared
      trivial

/-- **A step of `prepare_append`.** -/
theorem Sound.write {write : Write} {writes : List Write}
    (inside : run.writer = .inside (write :: writes)) :
    (run.step .write).Sound ∧ run.Extends (run.step .write) := by
  have planned := sound.writer
  rw [inside] at planned
  have stepped : run.step .write = { run with
      files := write.apply run.files
      writer := .inside writes
      rotations := run.rotations ++ rotationOf run.files write } := by
    simp only [step, writerStep, inside]
  rw [stepped]
  cases write with
  | writeRotation rotation =>
    have unchanged : run.Extends { run with
        files := Write.apply run.files (.writeRotation rotation)
        writer := .inside writes
        rotations := run.rotations ++ rotationOf run.files (.writeRotation rotation) } :=
      ⟨fun _ _ there => there, prefix_append _ _, prefix_rfl⟩
    cases writes with
    | nil =>
      refine ⟨⟨?_, ?_, trivial, unchanged.fits sound.maintenance⟩, unchanged⟩
      · simpa only [rotationOf, Write.apply, append_nil] using sound.archives
      · simpa only [rotationOf, Write.apply, append_nil] using sound.rows
    | cons next rest => exact planned.elim
  | replaceHead destination =>
    have rotated : run.Extends { run with
        files := Write.apply run.files (.replaceHead destination)
        writer := .inside writes
        rotations := run.rotations ++ rotationOf run.files (.replaceHead destination) } := by
      refine ⟨?_, prefix_append _ _, prefix_rfl⟩
      intro name _ there
      exact AList.mem_keys.mp (AList.mem_insert _ |>.mpr (.inr (AList.mem_keys.mpr there)))
    rcases writes with _ | ⟨_ | _, _ | _⟩
    case cons.writeRotation.nil =>
      obtain ⟨plain, fresh⟩ := planned
      refine ⟨⟨?_, ?_, trivial, rotated.fits sound.maintenance⟩, rotated⟩
      · exact sound.archives.rotate plain fresh run.files.head
      · simp only [rotationOf, Write.apply, flatMap_append, flatMap_singleton, append_nil]
        exact sound.rows
    all_goals exact planned.elim

/-- **The steps of the writer** keep the rows. -/
theorem Sound.writerStep (event : JournalEvent) :
    (run.writerStep event).Sound ∧ run.Extends (run.writerStep event) := by
  cases event with
  | prepareAppend call =>
    rw [Journal.writerStep]
    split
    next writes outside prepared =>
      exact ⟨⟨sound.archives, sound.rows, sound.planned prepared, sound.maintenance⟩,
        Extends.of_same rfl rfl prefix_rfl⟩
    next => exact ⟨sound, Extends.refl run⟩
  | write =>
    cases inside : run.writer with
    | outside =>
      simp only [Journal.writerStep, inside]
      exact ⟨sound, Extends.refl run⟩
    | inside writes =>
      cases writes with
      | nil =>
        simp only [Journal.writerStep, inside]
        exact ⟨sound, Extends.refl run⟩
      | cons write writes => exact sound.write inside
  | appendRow row day =>
    rw [Journal.writerStep]
    split
    · refine ⟨⟨sound.archives, ?_, trivial, sound.maintenance⟩,
        Extends.of_same rfl rfl (prefix_append _ _)⟩
      simp only [Files.append, sound.rows, append_assoc]
    · exact ⟨sound, Extends.refl run⟩
  | leave =>
    rw [Journal.writerStep]
    split
    · exact ⟨⟨sound.archives, sound.rows, trivial, sound.maintenance⟩, Extends.of_same rfl rfl
        prefix_rfl⟩
    · exact ⟨sound, Extends.refl run⟩
  | _ => exact ⟨sound, Extends.refl run⟩

theorem Sound.dropPlain {source : SegmentName} (held : Bool)
    (published : source.gz ∈ run.files.segments.keys) {maintenance : Maintenance}
    (fits : maintenance.Fits run.files run.rotations) :
    ({ run with files := dropPlain run.files source held, maintenance := maintenance } :
        Journal).Sound ∧
      run.Extends { run with
        files := Journal.dropPlain run.files source held, maintenance := maintenance } := by
  cases held with
  | true =>
    exact ⟨⟨sound.archives, sound.rows, sound.writer, fits⟩, Extends.of_same rfl rfl prefix_rfl⟩
  | false =>
    have extension : run.Extends { run with
        files := Journal.dropPlain run.files source false, maintenance := maintenance } := by
      refine ⟨?_, prefix_rfl, prefix_rfl⟩
      intro name compressed there
      have different : name ≠ source.plain := by
        intro same
        rw [same] at compressed
        cases compressed
      exact AList.mem_keys.mp (AList.mem_erase.mpr ⟨different, AList.mem_keys.mpr there⟩)
    exact ⟨⟨sound.archives.unlink published, sound.rows, sound.writer, extension.fits fits⟩,
      extension⟩

/-- **The steps of the compressor** keep the rows. -/
theorem Sound.maintenanceStep (event : JournalEvent) :
    (run.maintenanceStep event).Sound ∧ run.Extends (run.maintenanceStep event) := by
  have waiting : ∀ {maintenance : Maintenance}, maintenance.Fits run.files run.rotations →
      ({ run with maintenance := maintenance } : Journal).Sound ∧
        run.Extends { run with maintenance := maintenance } :=
    fun fits => ⟨⟨sound.archives, sound.rows, sound.writer, fits⟩, Extends.of_same rfl rfl
      prefix_rfl⟩
  have fits := sound.maintenance
  cases event with
  | maintain =>
    rw [Journal.maintenanceStep]
    split
    · refine waiting ?_
      intro source member _
      exact (Archives.mem_segmentPaths.mp member).1
    · exact ⟨sound, Extends.refl run⟩
  | nextSource held =>
    rw [Journal.maintenanceStep]
    split
    next source sources state =>
      rw [state] at fits
      have rest : AllPublished run.files sources := fun other member =>
        fits other (mem_cons_of_mem _ member)
      split
      next => exact waiting rest
      next there =>
        have there : source ∈ run.files.segments.keys := not_not.mp there
        split
        next compressed =>
          have published : source.gz ∈ run.files.segments.keys := by
            rw [SegmentName.gz_eq_self compressed]
            exact there
          exact sound.dropPlain held published rest
        next uncompressed =>
          have plain : source.plain = source :=
            SegmentName.plain_eq_self (Bool.not_eq_true _ ▸ uncompressed)
          obtain ⟨rows, found⟩ := Option.isSome_iff_exists.mp (AList.lookup_isSome.mpr there)
          have known := sound.archives.known source rows found
          have copied := sound.archives.openSource_eq known fun _ => there
          rw [plain, ← copied] at known
          exact waiting ⟨known, rest⟩
    next => exact ⟨sound, Extends.refl run⟩
  | publish =>
    rw [Journal.maintenanceStep]
    split
    next source copy sources state =>
      rw [state] at fits
      split
      next =>
        have extension : run.Extends { run with
            files := { run.files with segments := run.files.segments.insert source.gz copy }
            maintenance := .published source sources } := by
          refine ⟨?_, prefix_rfl, prefix_rfl⟩
          intro name _ there
          exact AList.mem_keys.mp ((AList.mem_insert _).mpr (.inr (AList.mem_keys.mpr there)))
        have published : source.gz ∈ (run.files.segments.insert source.gz copy).keys :=
          AList.mem_keys.mp ((AList.mem_insert _).mpr (.inl rfl))
        have rest : Maintenance.Fits _ _ (.between sources) := extension.fits fits.2
        exact ⟨⟨sound.archives.publish fits.1, sound.rows, sound.writer, published, rest⟩,
          extension⟩
      next => exact waiting fits.2
    next => exact ⟨sound, Extends.refl run⟩
  | unlinkPlain held =>
    rw [Journal.maintenanceStep]
    split
    next source sources state =>
      rw [state] at fits
      exact sound.dropPlain held fits.1 fits.2
    next => exact ⟨sound, Extends.refl run⟩
  | stop => exact waiting trivial
  | _ => exact ⟨sound, Extends.refl run⟩

/-- **Every step keeps the rows.** -/
theorem Sound.step (event : JournalEvent) :
    (run.step event).Sound ∧ run.Extends (run.step event) := by
  cases event with
  | crash =>
    exact ⟨⟨sound.archives, sound.rows, trivial, trivial⟩, Extends.of_same rfl rfl prefix_rfl⟩
  | prepareAppend call => exact sound.writerStep (.prepareAppend call)
  | write => exact sound.writerStep .write
  | appendRow row day => exact sound.writerStep (.appendRow row day)
  | leave => exact sound.writerStep .leave
  | maintain => exact sound.maintenanceStep .maintain
  | nextSource held => exact sound.maintenanceStep (.nextSource held)
  | publish => exact sound.maintenanceStep .publish
  | unlinkPlain held => exact sound.maintenanceStep (.unlinkPlain held)
  | stop => exact sound.maintenanceStep .stop

/-- **A reader gets the rows of its snapshot**, whatever happens before it opens a source. -/
theorem Sound.iterSegmentRows (later : SegmentName → List JournalEvent) :
    run.files.snapshot.iterSegmentRows
      (fun source => (exec Journal.step run (later source)).files) = run.appended := by
  rw [Snapshot.iterSegmentRows, Files.snapshot, sound.rows]
  congr 1
  refine Archives.flatMap_sources sound.archives.segmentPaths_plain ?_
  intro source member rows known
  have stays : ∀ run event, Sound run → Sound (run.step event) :=
    fun _ event holds => (holds.step event).1
  have soundLater := exec_invariant stays sound (later source)
  have extension : run.Extends (exec Journal.step run (later source)) :=
    exec_relates Extends.refl (fun _ _ _ => Extends.trans) stays
      (fun _ event holds => (holds.step event).2) sound (later source)
  refine soundLater.archives.openSource_eq (extension.rotations.subset known) ?_
  intro compressed
  exact extension.published source compressed (Archives.mem_segmentPaths.mp member).1

end

end Journal

/-! ## The watermark -/

/-- The rows carry event sequence numbers that do not decrease. -/
structure Numbered (value : Row → Int) (rows : List Row) : Prop where
  carried : ∀ row ∈ rows, value row ∈ row.eventSeqs
  inOrder : rows.Pairwise fun earlier later => value earlier ≤ value later

def Covered (value : Row → Int) (rotations : List Closed) (mark : Int) : Prop :=
  ∀ row ∈ rotations.flatMap Prod.snd, value row ≤ mark

variable {value : Row → Int}

theorem Numbered.front {first second : List Row} (numbered : Numbered value (first ++ second)) :
    Numbered value first :=
  ⟨fun row member => numbered.carried row (mem_append_left _ member),
    (pairwise_append.mp numbered.inOrder).1⟩

theorem Numbered.back {first second : List Row} (numbered : Numbered value (first ++ second)) :
    Numbered value second :=
  ⟨fun row member => numbered.carried row (mem_append_right _ member),
    (pairwise_append.mp numbered.inOrder).2.1⟩

theorem le_raise (mark : Int) (row : Option Row) : mark ≤ raise mark row := by
  cases row with
  | none => exact le_refl mark
  | some row => exact le_foldl_max mark row.eventSeqs mark mem_cons_self

/-- **The last row raises the watermark over all rows.** -/
theorem Numbered.le_raise_last {rows : List Row} (numbered : Numbered value rows) (mark : Int) :
    ∀ row ∈ rows, value row ≤ raise mark (rows.rtake 1).getLast? := by
  rcases eq_nil_or_concat' rows with rfl | ⟨front, last, rfl⟩
  · intro row member
    cases member
  have tail : ((front ++ [last]).rtake 1).getLast? = some last := by
    rw [rtake_concat_succ, rtake_zero]
    rfl
  have lastCarried : value last ∈ last.eventSeqs :=
    numbered.carried last (mem_append_right _ (mem_singleton.mpr rfl))
  have lastCovered : value last ≤ raise mark (some last) :=
    le_foldl_max mark last.eventSeqs _ (mem_cons_of_mem _ lastCarried)
  intro row member
  rw [tail]
  rcases mem_append.mp member with inFront | here
  · have before : value row ≤ value last :=
      (pairwise_append.mp numbered.inOrder).2.2 row inFront last
        (mem_singleton.mpr rfl)
    exact le_trans before lastCovered
  · rw [mem_singleton.mp here]
    exact lastCovered

theorem Files.headSize_eq_zero {files : Files} : files.headSize = 0 ↔ files.head = [] := by
  constructor
  · intro empty
    cases head : files.head with
    | nil => rfl
    | cons row rows =>
      rw [headSize, head, map_cons, sum_cons] at empty
      have := row.nonempty
      omega
  · intro empty
    rw [headSize, empty]
    rfl

def PlanCovers (value : Row → Int) (rotations : List Closed) (appended : List Row) (mark : Int) :
    List Write → Prop
  | [] => Covered value rotations mark
  | [.writeRotation rotation] => Covered value rotations rotation.lastEventSequence
  | [.replaceHead _, .writeRotation rotation] =>
    ∀ row ∈ appended, value row ≤ rotation.lastEventSequence
  | _ => True

/-- **The invariant of the watermark.**  An empty head may be the trace of a crash, and the
metadata is repaired before the next line. -/
structure Marked (value : Row → Int) (run : Journal) : Prop where
  settled : run.files.head ≠ [] →
    Covered value run.rotations run.files.journalSequenceWatermark
  planned : ∀ writes, run.writer = .inside writes →
    PlanCovers value run.rotations run.appended run.files.journalSequenceWatermark writes

namespace Journal

variable {run : Journal}

/-- **What `prepare_append` will write covers the closed rows.** -/
theorem Sound.planCovers (sound : run.Sound) (numbered : Numbered value run.appended)
    (marked : Marked value run) {call : AppendCall} {writes : List Write}
    (prepared : run.files.prepareAppend call = .ok writes) :
    PlanCovers value run.rotations run.appended run.files.journalSequenceWatermark writes := by
  have rows : run.files.segmentPaths.flatMap run.files.openSource ++ run.files.head =
      run.appended := by
    rw [sound.archives.closedRows, sound.rows]
  rw [Files.prepareAppend] at prepared
  split at prepared
  next rotated =>
    split at prepared
    next => cases prepared
    next =>
      cases prepared
      have filled : run.files.head ≠ [] := by
        rw [Files.rotated, decide_eq_true_iff, Ne, Files.headSize_eq_zero] at rotated
        exact rotated.1
      intro row member
      rw [sound.rows] at member
      rcases mem_append.mp member with closed | inHead
      · exact le_trans (marked.settled filled row closed) (le_raise _ _)
      · rw [sound.rows] at numbered
        exact numbered.back.le_raise_last _ row inHead
  next =>
    split at prepared
    next empty =>
      cases prepared
      intro row member
      rw [Files.tailSegmentRows_eq, rows]
      refine numbered.le_raise_last _ row ?_
      rw [sound.rows]
      exact mem_append_left _ member
    next filled =>
      have settled := marked.settled (fun empty => filled (Files.headSize_eq_zero.mpr empty))
      split at prepared
      next =>
        cases prepared
        exact settled
      next =>
        cases prepared
        exact settled

theorem dropPlain_frame (files : Files) (source : SegmentName) (held : Bool) :
    (dropPlain files source held).head = files.head ∧
      (dropPlain files source held).rotation = files.rotation := by
  cases held with
  | true | false => exact ⟨rfl, rfl⟩

end Journal

namespace Marked

variable {run : Journal}

theorem of_same {before after : Journal} (marked : Marked value before)
    (head : after.files.head = before.files.head)
    (rotation : after.files.rotation = before.files.rotation)
    (rotations : after.rotations = before.rotations) (writer : after.writer = before.writer)
    (appended : after.appended = before.appended) : Marked value after := by
  have watermark : after.files.journalSequenceWatermark =
      before.files.journalSequenceWatermark := by
    rw [Files.journalSequenceWatermark, rotation]
    rfl
  constructor
  · intro filled
    rw [watermark, rotations]
    exact marked.settled (head ▸ filled)
  · intro writes inside
    rw [watermark, rotations, appended]
    exact marked.planned writes (writer ▸ inside)

theorem maintenanceStep (marked : Marked value run) (event : JournalEvent) :
    Marked value (run.maintenanceStep event) := by
  have dropped : ∀ source held maintenance, Marked value { run with
      files := Journal.dropPlain run.files source held, maintenance := maintenance } := by
    intro source held maintenance
    have frame := Journal.dropPlain_frame run.files source held
    exact marked.of_same frame.1 frame.2 rfl rfl rfl
  cases event with
  | maintain =>
    rw [Journal.maintenanceStep]
    split
    · exact marked.of_same rfl rfl rfl rfl rfl
    · exact marked
  | nextSource held =>
    rw [Journal.maintenanceStep]
    split
    · split
      · exact marked.of_same rfl rfl rfl rfl rfl
      · split
        · exact dropped _ _ _
        · exact marked.of_same rfl rfl rfl rfl rfl
    · exact marked
  | publish =>
    rw [Journal.maintenanceStep]
    split
    · split <;> exact marked.of_same rfl rfl rfl rfl rfl
    · exact marked
  | unlinkPlain held =>
    rw [Journal.maintenanceStep]
    split
    · exact dropped _ _ _
    · exact marked
  | stop => exact marked.of_same rfl rfl rfl rfl rfl
  | _ => exact marked

/-- **The steps of `prepare_append` keep the watermark.** -/
theorem write (marked : Marked value run) (sound : run.Sound) {write : Write}
    {writes : List Write} (inside : run.writer = .inside (write :: writes)) :
    Marked value (run.step .write) := by
  have plan := sound.writer
  have covers := marked.planned _ inside
  rw [inside] at plan
  have stepped : run.step .write = { run with
      files := write.apply run.files
      writer := .inside writes
      rotations := run.rotations ++ Journal.rotationOf run.files write } := by
    simp only [Journal.step, Journal.writerStep, inside]
  rw [stepped]
  match write, writes, plan, covers with
  | .writeRotation rotation, [], _, covers =>
    have covered : Covered value (run.rotations ++ []) rotation.lastEventSequence := by
      rw [append_nil]
      exact covers
    refine ⟨fun _ => covered, ?_⟩
    intro rest left
    cases left
    exact covered
  | .replaceHead destination, [.writeRotation rotation], _, covers =>
    constructor
    · intro filled
      exact absurd rfl filled
    intro rest left
    cases left
    intro row member
    refine covers row ?_
    rw [sound.rows]
    rw [flatMap_append] at member
    simpa only [Journal.rotationOf, flatMap_singleton] using member

/-- **Every step keeps the watermark.** -/
theorem step (marked : Marked value run) (sound : run.Sound)
    (numbered : Numbered value run.appended) (event : JournalEvent) :
    Marked value (run.step event) := by
  cases event with
  | prepareAppend call =>
    simp only [Journal.step, Journal.writerStep]
    split
    next writes outside prepared =>
      refine ⟨marked.settled, ?_⟩
      intro planned inside
      cases inside
      exact sound.planCovers numbered marked prepared
    next => exact marked
  | write =>
    cases inside : run.writer with
    | outside =>
      simp only [Journal.step, Journal.writerStep, inside]
      exact marked
    | inside writes =>
      cases writes with
      | nil =>
        simp only [Journal.step, Journal.writerStep, inside]
        exact marked
      | cons write writes => exact marked.write sound inside
  | appendRow row day =>
    simp only [Journal.step, Journal.writerStep]
    split
    next inside =>
      refine ⟨fun _ => marked.planned [] inside, ?_⟩
      intro writes outside
      cases outside
    next => exact marked
  | leave =>
    simp only [Journal.step, Journal.writerStep]
    split
    next =>
      refine ⟨marked.settled, ?_⟩
      intro writes outside
      cases outside
    next => exact marked
  | crash =>
    refine ⟨marked.settled, ?_⟩
    intro writes outside
    cases outside
  | maintain => exact marked.maintenanceStep .maintain
  | nextSource held => exact marked.maintenanceStep (.nextSource held)
  | publish => exact marked.maintenanceStep .publish
  | unlinkPlain held => exact marked.maintenanceStep (.unlinkPlain held)
  | stop => exact marked.maintenanceStep .stop

end Marked

/-! ## Every run -/

namespace Journal

variable {run : Journal}

/-- **The invariants of every run**; the watermark's needs rows that are numbered in order. -/
theorem sound_exec (adopted : List Row) (day : Day) (events : List JournalEvent) :
    (exec step (init adopted day) events).Sound ∧
      (Numbered value (exec step (init adopted day) events).appended →
        Marked value (exec step (init adopted day) events)) := by
  have stays : ∀ run event, Sound run ∧ (Numbered value run.appended → Marked value run) →
      Sound (run.step event) ∧
        (Numbered value (run.step event).appended → Marked value (run.step event)) := by
    rintro run event ⟨sound, marked⟩
    obtain ⟨soundNext, extension⟩ := sound.step event
    refine ⟨soundNext, ?_⟩
    intro numberedNext
    obtain ⟨more, added⟩ := extension.appended
    have numbered : Numbered value run.appended := by
      rw [← added] at numberedNext
      exact numberedNext.front
    exact (marked numbered).step sound numbered event
  refine exec_invariant stays ⟨sound_init adopted day, ?_⟩ events
  intro _
  constructor
  · intro _ row member
    cases member
  · intro writes inside
    cases inside

end Journal

/-- **Each appended row is read once and in order.**  In every run of appends, compressions and
crashes, from an empty journal or an adopted head: a reader gets the appended rows, also when
each source is opened only after further steps; the segments were numbered in the order of their
rotation; and when the rows carry event sequence numbers that do not decrease, the watermark is
at least the number of each closed row whenever `prepare_append` has returned. -/
theorem journal_exactly_once (adopted : List Row) (day : Day) (events : List JournalEvent) :
    let run := exec Journal.step (Journal.init adopted day) events
    (∀ later : SegmentName → List JournalEvent,
      run.files.snapshot.iterSegmentRows
        (fun source => (exec Journal.step run (later source)).files) = run.appended) ∧
    (run.rotations.Pairwise fun earlier later => earlier.1.sequence < later.1.sequence) ∧
    ∀ value : Row → Int, Numbered value run.appended → run.writer = .inside [] →
      ∀ name rows, run.files.segments.lookup name = some rows →
        ∀ row ∈ rows, value row ≤ run.files.journalSequenceWatermark := by
  intro run
  have sound : run.Sound := (@Journal.sound_exec (fun _ => 0) adopted day events).1
  refine ⟨sound.iterSegmentRows, ?_, ?_⟩
  · have increasing := sound.archives.increasing
    rwa [pairwise_map] at increasing
  intro value numbered returned name rows found row member
  have marked := (Journal.sound_exec adopted day events).2 numbered
  refine marked.planned [] returned row ?_
  exact mem_flatMap.mpr ⟨_, sound.archives.known name rows found, member⟩

def sampleRow (number : Int) : Row := ⟨none, some number, "event", 40, by decide⟩

/-- A row, a rotation on the next day that a crash cuts short, and the append that repairs it. -/
def interruptedRotation : List JournalEvent :=
  [.prepareAppend ⟨1000, 40, 1, "a"⟩, .write, .appendRow (sampleRow 7) 1,
    .prepareAppend ⟨1000, 40, 2, "b"⟩, .write, .crash,
    .prepareAppend ⟨1000, 40, 2, "c"⟩, .write]

/-- After the repair the row is read once and the watermark covers it. -/
theorem interrupted_rotation_repaired :
    let run := exec Journal.step (Journal.init [] 0) interruptedRotation
    run.files.snapshot.iterSegmentRows (fun _ => run.files) = [sampleRow 7] ∧
      7 ≤ run.files.journalSequenceWatermark := by
  intro run
  have numbered : Numbered (fun row => row.kebabSeq.getD 0) run.appended :=
    ⟨by decide, by decide⟩
  have result := journal_exactly_once [] 0 interruptedRotation
  exact ⟨result.1 fun _ => [], result.2.2 _ numbered rfl ⟨1, 1, "b", false⟩ [sampleRow 7] rfl
    (sampleRow 7) (mem_singleton.mpr rfl)⟩

end Audiagentic.Observability
