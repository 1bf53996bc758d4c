import Mathlib.Data.List.Sort
import Audiagentic.Observability.Compaction

/-!
# What a compaction keeps

A compaction that writes leaves some of the old rows in their old order, and an index that is exact
for them.  The last row is always kept, and every preserved row is kept when the preserved rows and
the last one fit in `max_bytes`.

When they do not fit, the newest preserved row is kept only where it is the last row.
-/

namespace Audiagentic.Observability

open Foundations List

variable {json : JsonLines}

/-! ## What is written -/

def lineBytes (line : Text) : Utf8.Bytes := Utf8.encode (line ++ ['\n'])

def Written (json : JsonLines) : ℕ → List RowFields → List Text → List Text → Prop
  | _, [], [], [] => True
  | start, row :: rows, line :: lines, entry :: entries =>
    json.dumps row = .ok line ∧
      json.dumps (indexEntry row start (lineBytes line).length) = .ok entry ∧
      Written json (start + (lineBytes line).length) rows lines entries
  | _, _, _, _ => False

variable {row : RowFields}

theorem rowLine_eq_ok {bytes : Utf8.Bytes} :
    rowLine json row = .ok bytes ↔ ∃ line, json.dumps row = .ok line ∧ bytes = lineBytes line := by
  rw [rowLine, bind_eq_ok]
  constructor
  · rintro ⟨line, dumped, same⟩
    cases same
    exact ⟨line, dumped, rfl⟩
  · rintro ⟨line, dumped, rfl⟩
    exact ⟨line, dumped, rfl⟩

theorem encode_lineText_cons (line : Text) (lines : List Text) :
    Utf8.encode (lineText (line :: lines)) = lineBytes line ++ Utf8.encode (lineText lines) := by
  have split : lineText (line :: lines) = (line ++ ['\n']) ++ lineText lines := rfl
  rw [split, Utf8.encode_append]
  rfl

variable {rows : List RowFields} {content : Utf8.Bytes × Utf8.Bytes}

theorem foldlM_addRow {after : Utf8.Bytes × Utf8.Bytes}
    (written : rows.foldlM (addRow json) content = .ok after) :
    ∃ lines entries, Written json content.1.length rows lines entries ∧
      after.1 = content.1 ++ Utf8.encode (lineText lines) ∧
      after.2 = content.2 ++ Utf8.encode (lineText entries) := by
  induction rows generalizing content with
  | nil =>
    cases written
    exact ⟨[], [], trivial, (append_nil _).symm, (append_nil _).symm⟩
  | cons row rows ih =>
    rw [foldlM_cons, bind_eq_ok] at written
    obtain ⟨next, added, written⟩ := written
    simp only [addRow, bind_eq_ok, rowLine_eq_ok] at added
    obtain ⟨_, ⟨line, dumped, rfl⟩, _, ⟨entry, described, rfl⟩, same⟩ := added
    cases same
    obtain ⟨lines, entries, later, journal, index⟩ := ih written
    rw [length_append] at later
    refine ⟨line :: lines, entry :: entries, ⟨dumped, described, later⟩, ?_, ?_⟩
    · rw [journal, encode_lineText_cons, append_assoc]
    · rw [index, encode_lineText_cons, append_assoc]

/-! ## What is read back -/

theorem JsonLines.RoundTrips.notBlank (roundTrips : json.RoundTrips) {line : Text}
    (dumped : json.dumps row = .ok line) : Text.isBlank (line ++ ['\n']) = false := by
  obtain ⟨rest, rfl⟩ := head?_eq_some_iff.mp (roundTrips.braced row line dumped)
  rfl

theorem JsonLines.RoundTrips.objectRows_cons (roundTrips : json.RoundTrips) {line : Text}
    (dumped : json.dumps row = .ok line) {lines : List Text}
    (later : objectRows json lines = .ok rows) :
    ∃ read, ReadsAs row read ∧ json.loads (line ++ ['\n']) = .ok (.map read) ∧
      objectRows json ((line ++ ['\n']) :: lines) = .ok (read :: rows) := by
  obtain ⟨read, loaded, same⟩ := roundTrips.reads row line dumped
  refine ⟨read, same, loaded, ?_⟩
  rw [objectRows, if_neg (by rw [roundTrips.notBlank dumped]; exact nofun)]
  simp only [loaded, later]
  rfl

theorem lookup_of_readsAs {read : RowFields} {offset length : ℕ}
    (same : ReadsAs (indexEntry row offset length) read) :
    Json.lookup offsetKey read = some (.scalar (.int offset)) ∧
      Json.lookup lengthKey read = some (.scalar (.int length)) := by
  have integer : ∀ {key : Text} {number : ℤ},
      Json.lookup key (indexEntry row offset length) = some (.scalar (.int number)) →
        Json.lookup key read = some (.scalar (.int number)) := by
    intro key number found
    rw [ReadsAs, identicalValues, Json.sameBy, Bool.and_eq_true] at same
    obtain ⟨value, there, equal⟩ := Json.lookup_of_sameEntries same.2 found
    cases value with
    | scalar value =>
      simp only [Json.sameBy, beq_iff_eq] at equal
      rw [there, ← equal]
    | null | list | map => cases equal
  exact ⟨integer rfl, integer rfl⟩

theorem rowAt_between (before after : Utf8.Bytes) (line : Text) :
    rowAt json (before ++ lineBytes line ++ after) before.length (lineBytes line).length =
      json.loads (line ++ ['\n']) := by
  rw [rowAt, append_assoc, drop_left, take_left, lineBytes, Utf8.decode_encode]

/-- **Written rows are read back, and their index locates them.** -/
theorem written_reads (roundTrips : json.RoundTrips) {lines entries : List Text}
    (before : Utf8.Bytes) (written : Written json before.length rows lines entries) :
    ∃ newRows newEntries,
      objectRows json (lines.map fun line => line ++ ['\n']) = .ok newRows ∧
      objectRows json (entries.map fun line => line ++ ['\n']) = .ok newEntries ∧
      List.Forall₂ ReadsAs rows newRows ∧
      Located json (before ++ Utf8.encode (lineText lines)) before.length newRows newEntries := by
  induction rows generalizing lines entries before with
  | nil =>
    match lines, entries, written with
    | [], [], _ =>
      refine ⟨[], [], rfl, rfl, .nil, ?_⟩
      rw [lineText_nil, Utf8.encode_nil, append_nil]
      rfl
  | cons row rows ih =>
    match lines, entries, written with
    | line :: lines, entry :: entries, ⟨dumped, described, later⟩ =>
      rw [← length_append] at later
      obtain ⟨newRows, newEntries, rowsRead, entriesRead, same, located⟩ :=
        ih (before ++ lineBytes line) later
      obtain ⟨read, readsRow, loaded, rowsRead⟩ := roundTrips.objectRows_cons dumped rowsRead
      obtain ⟨readEntry, readsEntry, -, entriesRead⟩ :=
        roundTrips.objectRows_cons described entriesRead
      obtain ⟨offset, length⟩ := lookup_of_readsAs readsEntry
      refine ⟨read :: newRows, readEntry :: newEntries, rowsRead, entriesRead,
        .cons readsRow same, (lineBytes line).length, offset, length, ?_, ?_⟩
      · rw [encode_lineText_cons, ← append_assoc, rowAt_between, loaded]
      · rw [encode_lineText_cons, ← append_assoc, ← length_append]
        exact located

theorem written_oneLine (roundTrips : json.RoundTrips) {start : ℕ} {lines entries : List Text}
    (written : Written json start rows lines entries) :
    (∀ line ∈ lines, '\n' ∉ line ∧ '\r' ∉ line) ∧
      ∀ entry ∈ entries, '\n' ∉ entry ∧ '\r' ∉ entry := by
  induction rows generalizing start lines entries with
  | nil =>
    match lines, entries, written with
    | [], [], _ => exact ⟨fun _ => nofun, fun _ => nofun⟩
  | cons row rows ih =>
    match lines, entries, written with
    | line :: lines, entry :: entries, ⟨dumped, described, later⟩ =>
      obtain ⟨ofLines, ofEntries⟩ := ih later
      exact ⟨forall_mem_cons.mpr ⟨roundTrips.oneLine row line dumped, ofLines⟩,
        forall_mem_cons.mpr ⟨roundTrips.oneLine _ entry described, ofEntries⟩⟩

variable {journal : Utf8.Bytes}

/-- **A written journal gives back its rows, and a written index is exact.** -/
theorem journalContent_reads (roundTrips : json.RoundTrips) {index : Utf8.Bytes}
    (written : journalContent json rows = .ok (journal, index)) :
    ∃ newRows newEntries, iterNdjson json (some journal) = .ok newRows ∧
      iterNdjson json (some index) = .ok newEntries ∧ List.Forall₂ ReadsAs rows newRows ∧
      Located json journal 0 newRows newEntries := by
  obtain ⟨lines, entries, here, rfl, rfl⟩ := foldlM_addRow written
  obtain ⟨singleLines, singleEntries⟩ := written_oneLine roundTrips here
  obtain ⟨newRows, newEntries, rowsRead, entriesRead, same, located⟩ :=
    written_reads roundTrips [] here
  refine ⟨newRows, newEntries, ?_, ?_, same, located⟩
  · rw [nil_append, iterNdjson_lineText json singleLines, rowsRead]
  · rw [nil_append, iterNdjson_lineText json singleEntries, entriesRead]

/-! ## What is selected -/

section Select

variable {preserve : RowFields → Bool} {maxBytes : ℤ} {rows : List RowFields}
  {encoded : List Utf8.Bytes}

theorem last_mem_mustKeep : rows.length - 1 ∈ mustKeep preserve rows :=
  Finset.mem_insert_self _ _

theorem mem_mustKeep {index : ℕ} (here : rows[index]? = some row) (required : preserve row = true) :
    index ∈ mustKeep preserve rows := by
  obtain ⟨inside, -⟩ := List.getElem?_eq_some_iff.mp here
  refine Finset.mem_insert_of_mem (Finset.mem_filter.mpr ⟨Finset.mem_range.mpr inside, ?_⟩)
  rw [here]
  exact required

theorem subset_addHeadroom (targetBytes : ℤ) (indices : List ℕ) (selected : Finset ℕ)
    (selectedBytes : ℕ) :
    selected ⊆ addHeadroom encoded targetBytes indices selected selectedBytes := by
  induction indices generalizing selected selectedBytes with
  | nil => exact Finset.Subset.refl _
  | cons index rest ih =>
    rw [addHeadroom]
    split
    next => exact ih selected selectedBytes
    next =>
      split
      next => exact Finset.Subset.refl _
      next => exact (Finset.subset_insert index selected).trans (ih _ _)

theorem mustKeep_subset_selectRows
    (fits : (requiredBytes preserve rows encoded : ℤ) ≤ maxBytes) :
    mustKeep preserve rows ⊆ selectRows preserve maxBytes rows encoded := by
  rw [selectRows, if_pos fits]
  exact subset_addHeadroom _ _ _ _

theorem selectRows_of_not_fits
    (tooLarge : ¬ (requiredBytes preserve rows encoded : ℤ) ≤ maxBytes) :
    selectRows preserve maxBytes rows encoded = {rows.length - 1} := by
  rw [selectRows, if_neg tooLarge]

/-- **The last row is always selected.** -/
theorem last_mem_selectRows : rows.length - 1 ∈ selectRows preserve maxBytes rows encoded := by
  by_cases fits : (requiredBytes preserve rows encoded : ℤ) ≤ maxBytes
  · exact mustKeep_subset_selectRows fits last_mem_mustKeep
  · rw [selectRows_of_not_fits fits]
    exact Finset.mem_singleton_self _

theorem mem_sortedPositions {selected : Finset ℕ} {index : ℕ} :
    index ∈ sortedPositions rows selected ↔ index < rows.length ∧ index ∈ selected := by
  rw [sortedPositions, mem_filter, mem_range, decide_eq_true_iff]

theorem sortedPositions_increasing (selected : Finset ℕ) :
    (sortedPositions rows selected).Pairwise (· < ·) :=
  pairwise_lt_range.filter _

theorem sortedPositions_last (present : rows ≠ []) :
    sortedPositions rows {rows.length - 1} = [rows.length - 1] := by
  have inside : rows.length - 1 < rows.length :=
    Nat.sub_lt (length_pos_iff.mpr present) Nat.one_pos
  refine List.Pairwise.eq_of_mem_iff (sortedPositions_increasing _) (pairwise_singleton _ _)
    fun index => ?_
  rw [mem_sortedPositions, Finset.mem_singleton, mem_singleton]
  exact ⟨fun here => here.2, fun same => ⟨same ▸ inside, same⟩⟩

theorem rowsAt_positions {positions : List ℕ} (inside : ∀ index ∈ positions, index < rows.length) :
    List.Forall₂ (fun index row => rows[index]? = some row) positions
      (positions.filterMap fun index => rows[index]?) := by
  induction positions with
  | nil => exact .nil
  | cons index rest ih =>
    obtain ⟨here, later⟩ := forall_mem_cons.mp inside
    have found := getElem?_eq_getElem here
    rw [filterMap_cons_some found]
    exact .cons found (ih later)

end Select

/-! ## What is kept -/

section Keeps

variable (json) (preserve : RowFields → Bool) (maxBytes : ℤ)

def IsNewestPreserved (rows : List RowFields) (index : ℕ) : Prop :=
  (∃ row, rows[index]? = some row ∧ preserve row = true) ∧
    ∀ later row, rows[later]? = some row → preserve row = true → later ≤ index

/-- **Files that keep what they must** of a journal of these rows.  The new rows are those at the
kept positions, and each entry of the index is one of theirs. -/
structure KeepsEvidence (rows : List RowFields) (encoded : List Utf8.Bytes)
    (after : IndexedJournal) (kept : List ℕ) (newRows entries : List RowFields) : Prop where
  journalRead : iterNdjson json after.journal = .ok newRows
  indexRead : iterNdjson json after.index = .ok entries
  increasing : kept.Pairwise (· < ·)
  same : List.Forall₂ (fun index read => ∃ row, rows[index]? = some row ∧ ReadsAs row read)
    kept newRows
  located : ∃ journal ∈ after.journal, Located json journal 0 newRows entries
  last : rows.length - 1 ∈ kept
  preserved : (requiredBytes preserve rows encoded : ℤ) ≤ maxBytes →
    ∀ index row, rows[index]? = some row → preserve row = true → index ∈ kept
  newest : ¬ (requiredBytes preserve rows encoded : ℤ) ≤ maxBytes →
    ∀ index, IsNewestPreserved preserve rows index → index ∈ kept

def CompactsWell (files after : IndexedJournal) : Prop :=
  after = files ∨ ∃ rows encoded kept newRows entries, iterNdjson json files.journal = .ok rows ∧
    rows.mapM (rowLine json) = .ok encoded ∧
    KeepsEvidence json preserve maxBytes rows encoded after kept newRows entries

/-- The rows that must be kept fit, or no row is preserved, or the last one is. -/
def EvidenceFits (rows : List RowFields) (encoded : List Utf8.Bytes) : Prop :=
  (requiredBytes preserve rows encoded : ℤ) ≤ maxBytes ∨ (∀ row ∈ rows, preserve row = false) ∨
    ∃ row, rows.getLast? = some row ∧ preserve row = true

def OversizedEvidenceFits (files : IndexedJournal) : Prop :=
  ∀ journal rows encoded last content, files.journal = some journal →
    maxBytes < (journal.length : ℤ) → iterNdjson json (some journal) = .ok rows →
    rows.mapM (rowLine json) = .ok encoded → rows.getLast? = some last →
    journalContent json [last] = .ok content → EvidenceFits preserve maxBytes rows encoded

end Keeps

variable {preserve : RowFields → Bool} {maxBytes : ℤ}

theorem forall₂_comp {α β γ : Type} {first : α → β → Prop} {second : β → γ → Prop} {left : List α}
    {middle : List β} {right : List γ} (one : List.Forall₂ first left middle)
    (two : List.Forall₂ second middle right) :
    List.Forall₂ (fun item result => ∃ between, first item between ∧ second between result)
      left right := by
  induction one generalizing right with
  | nil =>
    cases two
    exact .nil
  | cons here _ ih =>
    cases two with
    | cons there later => exact .cons ⟨_, here, there⟩ (ih later)

theorem exists_newestPreserved (member : row ∈ rows) (required : preserve row = true) :
    ∃ index, IsNewestPreserved preserve rows index := by
  let isPreserved : ℕ → Prop := fun index => (rows[index]?).any preserve = true
  obtain ⟨index, inside, here⟩ := mem_iff_getElem.mp member
  have found : rows[index]? = some row := by rw [getElem?_eq_getElem inside, here]
  have spec : isPreserved (Nat.findGreatest isPreserved rows.length) :=
    Nat.findGreatest_spec (Nat.le_of_lt inside) (by simp only [isPreserved, found]; exact required)
  refine ⟨Nat.findGreatest isPreserved rows.length, (Option.any_eq_true _ _).mp spec, ?_⟩
  intro later other there preserved
  obtain ⟨within, -⟩ := List.getElem?_eq_some_iff.mp there
  exact Nat.le_findGreatest (Nat.le_of_lt within)
    (by simp only [isPreserved, there]; exact preserved)

/-- **What a compaction writes.** -/
theorem compactedContent_keeps (roundTrips : json.RoundTrips) {index : Utf8.Bytes}
    (written : compactedContent json preserve maxBytes rows = .ok (journal, index)) :
    ∃ encoded newRows entries, rows.mapM (rowLine json) = .ok encoded ∧
      journalContent json ((sortedPositions rows
        (selectRows preserve maxBytes rows encoded)).filterMap fun index => rows[index]?) =
          .ok (journal, index) ∧
      iterNdjson json (some journal) = .ok newRows ∧
      iterNdjson json (some index) = .ok entries ∧
      List.Forall₂ (fun index read => ∃ row, rows[index]? = some row ∧ ReadsAs row read)
        (sortedPositions rows (selectRows preserve maxBytes rows encoded)) newRows ∧
      Located json journal 0 newRows entries := by
  rw [compactedContent, bind_eq_ok] at written
  obtain ⟨encoded, lines, written⟩ := written
  obtain ⟨newRows, entries, journalRead, indexRead, same, located⟩ :=
    journalContent_reads roundTrips written
  have inside : ∀ index ∈ sortedPositions rows (selectRows preserve maxBytes rows encoded),
      index < rows.length := fun index member => (mem_sortedPositions.mp member).1
  exact ⟨encoded, newRows, entries, lines, written, journalRead, indexRead,
    forall₂_comp (rowsAt_positions inside) same, located⟩

theorem compactedContent_of_not_fits {encoded : List Utf8.Bytes} {last : RowFields}
    (isLast : rows.getLast? = some last) (lines : rows.mapM (rowLine json) = .ok encoded)
    (tooLarge : ¬ (requiredBytes preserve rows encoded : ℤ) ≤ maxBytes) :
    compactedContent json preserve maxBytes rows = journalContent json [last] := by
  have present : rows ≠ [] := by
    rintro rfl
    cases isLast
  have here : rows[rows.length - 1]? = some last := by
    rw [← getLast?_eq_getElem?, isLast]
  rw [compactedContent, lines]
  show journalContent json ((sortedPositions rows
    (selectRows preserve maxBytes rows encoded)).filterMap fun index => rows[index]?) = _
  rw [selectRows_of_not_fits tooLarge, sortedPositions_last present,
    filterMap_cons_some here, filterMap_nil]

/-- **Everything but the newest preserved row is kept, and that one where the evidence fits.** -/
theorem keepsEvidence_of_fits (roundTrips : json.RoundTrips) {index : Utf8.Bytes}
    (present : rows ≠ [])
    (written : compactedContent json preserve maxBytes rows = .ok (journal, index))
    (fits : ∀ encoded, rows.mapM (rowLine json) = .ok encoded →
      EvidenceFits preserve maxBytes rows encoded) :
    ∃ encoded kept newRows entries, rows.mapM (rowLine json) = .ok encoded ∧
      KeepsEvidence json preserve maxBytes rows encoded ⟨some journal, some index⟩ kept newRows
        entries := by
  obtain ⟨encoded, newRows, entries, lines, -, journalRead, indexRead, same, located⟩ :=
    compactedContent_keeps roundTrips written
  have inside : rows.length - 1 < rows.length :=
    Nat.sub_lt (length_pos_iff.mpr present) Nat.one_pos
  have last : rows.length - 1 ∈
      sortedPositions rows (selectRows preserve maxBytes rows encoded) :=
    mem_sortedPositions.mpr ⟨inside, last_mem_selectRows⟩
  refine ⟨encoded, _, newRows, entries, lines, journalRead, indexRead,
    sortedPositions_increasing _, same, ⟨journal, rfl, located⟩, last, ?_, ?_⟩
  · intro allFit index row here required
    obtain ⟨within, -⟩ := List.getElem?_eq_some_iff.mp here
    exact mem_sortedPositions.mpr
      ⟨within, mustKeep_subset_selectRows allFit (mem_mustKeep here required)⟩
  · rintro tooLarge index ⟨⟨row, here, required⟩, newest⟩
    obtain ⟨within, found⟩ := List.getElem?_eq_some_iff.mp here
    rcases fits encoded lines with allFit | none | ⟨lastRow, isLast, lastRequired⟩
    · exact absurd allFit tooLarge
    · rw [none row (found ▸ getElem_mem within)] at required
      cases required
    · -- The newest preserved row is the last row.
      rw [getLast?_eq_getElem?] at isLast
      have notEarlier := newest _ lastRow isLast lastRequired
      have same : index = rows.length - 1 := by omega
      rw [same]
      exact last

/-! ## The exact condition -/

theorem compaction_of_oversized {files : IndexedJournal} (opened : files.journal = some journal)
    (oversized : maxBytes < (journal.length : ℤ))
    (rowsRead : iterNdjson json (some journal) = .ok rows) (present : rows ≠ [])
    (written : compactedContent json preserve maxBytes rows = .ok content) :
    (compactIndexedNdjson json preserve maxBytes files).2 =
      ⟨some content.1, some content.2⟩ := by
  obtain ⟨row, rest, rfl⟩ := exists_cons_of_ne_nil present
  simp only [compactIndexedNdjson, opened, if_neg (not_le.mpr oversized), rowsRead, written]

/-- A compaction leaves the files as they are, or it writes an oversized journal anew. -/
theorem compaction_cases (json : JsonLines) (preserve : RowFields → Bool) (maxBytes : ℤ)
    (files : IndexedJournal) :
    (compactIndexedNdjson json preserve maxBytes files).2 = files ∨
      ∃ journal rows content, files.journal = some journal ∧ maxBytes < (journal.length : ℤ) ∧
        iterNdjson json (some journal) = .ok rows ∧ rows ≠ [] ∧
        compactedContent json preserve maxBytes rows = .ok content ∧
        (compactIndexedNdjson json preserve maxBytes files).2 =
          ⟨some content.1, some content.2⟩ := by
  cases opened : files.journal with
  | none =>
    left
    simp only [compactIndexedNdjson, opened]
  | some journal =>
    by_cases small : (journal.length : ℤ) ≤ maxBytes
    · left
      simp only [compactIndexedNdjson, opened, if_pos small]
    cases rowsRead : iterNdjson json (some journal) with
    | error error =>
      left
      cases error <;> simp only [compactIndexedNdjson, opened, if_neg small, rowsRead]
    | ok rows =>
      match rows with
      | [] =>
        left
        simp only [compactIndexedNdjson, opened, if_neg small, rowsRead]
      | row :: rest =>
        cases written : compactedContent json preserve maxBytes (row :: rest) with
        | error error =>
          left
          simp only [compactIndexedNdjson, opened, if_neg small, rowsRead, written]
        | ok content =>
          right
          exact ⟨journal, row :: rest, content, rfl, not_le.mp small, rowsRead,
            cons_ne_nil _ _, written, compaction_of_oversized opened
              (not_le.mp small) rowsRead (cons_ne_nil _ _) written⟩

theorem evidenceFits_of_compactsWell (roundTrips : json.RoundTrips) {files : IndexedJournal}
    {encoded : List Utf8.Bytes} {last : RowFields} (opened : files.journal = some journal)
    (oversized : maxBytes < (journal.length : ℤ))
    (rowsRead : iterNdjson json (some journal) = .ok rows)
    (lines : rows.mapM (rowLine json) = .ok encoded) (isLast : rows.getLast? = some last)
    (writable : journalContent json [last] = .ok content)
    (well : CompactsWell json preserve maxBytes files
      (compactIndexedNdjson json preserve maxBytes files).2) :
    EvidenceFits preserve maxBytes rows encoded := by
  by_contra notFits
  obtain ⟨tooLarge, othersNot⟩ := not_or.mp notFits
  obtain ⟨someNot, lastNot⟩ := not_or.mp othersNot
  have present : rows ≠ [] := by
    rintro rfl
    cases isLast
  obtain ⟨newest, isNewest⟩ : ∃ index, IsNewestPreserved preserve rows index := by
    by_contra none
    refine someNot fun row member => ?_
    rw [← Bool.not_eq_true]
    exact fun required => none (exists_newestPreserved member required)
  -- The newest preserved row is not the last one.
  have notLast : newest ≠ rows.length - 1 := by
    rintro rfl
    obtain ⟨row, here, required⟩ := isNewest.1
    rw [← getLast?_eq_getElem?] at here
    exact lastNot ⟨row, here, required⟩
  obtain ⟨newJournal, newIndex⟩ := content
  obtain ⟨newRows, -, newRead, -, oneRow, -⟩ := journalContent_reads roundTrips writable
  have single : newRows.length = 1 := oneRow.length_eq.symm
  have written := (compactedContent_of_not_fits isLast lines tooLarge).trans writable
  rw [compaction_of_oversized opened oversized rowsRead present written] at well
  rcases well with unchanged | ⟨_, _, kept, _, _, rowsRead', lines', keeps⟩
  · -- The new journal has one row, and the old one at least two.
    rw [← unchanged] at opened
    cases opened
    rw [newRead] at rowsRead
    cases rowsRead
    obtain ⟨row, here, -⟩ := isNewest.1
    obtain ⟨inside, -⟩ := List.getElem?_eq_some_iff.mp here
    omega
  · rw [opened, rowsRead] at rowsRead'
    cases rowsRead'
    rw [lines] at lines'
    cases lines'
    have journalRead := keeps.journalRead
    rw [newRead] at journalRead
    cases journalRead
    have one : kept.length = 1 := keeps.same.length_eq.trans single
    obtain ⟨only, rfl⟩ := length_eq_one_iff.mp one
    have last := mem_singleton.mp keeps.last
    have kept := mem_singleton.mp (keeps.newest tooLarge newest isNewest)
    exact notLast (kept.trans last.symm)

/-- **A compaction changes nothing or keeps the evidence, exactly where the evidence fits**: the
preserved rows and the last one fit in `max_bytes`, or no row is preserved, or the last one is. -/
theorem compaction_keeps_evidence_iff (roundTrips : json.RoundTrips) (files : IndexedJournal) :
    CompactsWell json preserve maxBytes files
        (compactIndexedNdjson json preserve maxBytes files).2 ↔
      OversizedEvidenceFits json preserve maxBytes files := by
  constructor
  · intro well journal rows encoded last content opened oversized rowsRead lines isLast writable
    exact evidenceFits_of_compactsWell roundTrips opened oversized rowsRead lines isLast writable
      well
  intro fits
  rcases compaction_cases json preserve maxBytes files with
    unchanged | ⟨journal, rows, content, opened, oversized, rowsRead, present, written, changed⟩
  · exact .inl unchanged
  · obtain ⟨newJournal, newIndex⟩ := content
    obtain ⟨last, isLast⟩ := Option.isSome_iff_exists.mp
      (getLast?_isSome.mpr present)
    rw [changed]
    obtain ⟨encoded, kept, newRows, entries, lines, keeps⟩ :=
      keepsEvidence_of_fits roundTrips present written fun encoded lines => by
        by_cases allFit : (requiredBytes preserve rows encoded : ℤ) ≤ maxBytes
        · exact .inl allFit
        · rw [compactedContent_of_not_fits isLast lines allFit] at written
          exact fits journal rows encoded last _ opened oversized rowsRead lines isLast written
    refine .inr ⟨rows, encoded, kept, newRows, entries, ?_, lines, keeps⟩
    rw [opened, rowsRead]

/-! ## A journal whose evidence is lost -/

/-- What `json` does with the objects of a table. -/
def tableJson (table : List (RowFields × Text)) : JsonLines where
  loads line :=
    match table.find? fun entry => entry.2 ++ ['\n'] = line with
    | some entry => .ok (.map entry.1)
    | none => .error .malformed
  dumps row :=
    match table.find? fun entry => identicalValues (.map row) (.map entry.1) with
    | some entry => .ok entry.2
    | none => .error .value

theorem tableJson_roundTrips {table : List (RowFields × Text)}
    (distinct : (table.map Prod.snd).Nodup)
    (written : ∀ entry ∈ table, '\n' ∉ entry.2 ∧ '\r' ∉ entry.2 ∧
      entry.2.head? = some '\x7b') : (tableJson table).RoundTrips := by
  have listed : ∀ {row text}, (tableJson table).dumps row = .ok text →
      ∃ entry ∈ table, entry.2 = text ∧ identicalValues (.map row) (.map entry.1) = true := by
    intro row text dumped
    simp only [tableJson] at dumped
    split at dumped
    next entry found =>
      cases dumped
      exact ⟨entry, mem_of_find?_eq_some found, rfl, by simpa using find?_some found⟩
    next => cases dumped
  constructor
  · intro row text dumped
    obtain ⟨entry, member, rfl, -⟩ := listed dumped
    exact ⟨(written entry member).1, (written entry member).2.1⟩
  · intro row text dumped
    obtain ⟨entry, member, rfl, -⟩ := listed dumped
    exact (written entry member).2.2
  · intro row text dumped
    obtain ⟨entry, member, rfl, same⟩ := listed dumped
    refine ⟨entry.1, ?_, same⟩
    have first :
        table.find? (fun other => other.2 ++ ['\n'] = entry.2 ++ ['\n']) = some entry := by
      cases found : table.find? fun other => other.2 ++ ['\n'] = entry.2 ++ ['\n'] with
      | none => exact absurd (decide_eq_true rfl) (find?_eq_none.mp found entry member)
      | some other =>
        have text : other.2 ++ ['\n'] = entry.2 ++ ['\n'] := by
          simpa using find?_some found
        rw [inj_on_of_nodup_map distinct (mem_of_find?_eq_some found) member
          (append_cancel_right text)]
    simp only [tableJson, first]

def stateKey : Text := "state".toList

def failedRow : RowFields := [(stateKey, .scalar (.str "failed".toList))]

def numberRow (number : ℤ) : RowFields := [("n".toList, .scalar (.int number))]

def sampleTable : List (RowFields × Text) :=
  [(failedRow, "\x7b\"state\":\"failed\"\x7d".toList), (numberRow 1, "\x7b\"n\":1\x7d".toList),
    (numberRow 2, "\x7b\"n\":2\x7d".toList),
    (indexEntry failedRow 0 19, "\x7b\"length\":19,\"offset\":0\x7d".toList),
    (indexEntry (numberRow 2) 19 8, "\x7b\"length\":8,\"offset\":19\x7d".toList),
    (indexEntry (numberRow 2) 0 8, "\x7b\"length\":8,\"offset\":0\x7d".toList)]

def sampleJson : JsonLines := tableJson sampleTable

theorem sampleJson_roundTrips : sampleJson.RoundTrips :=
  tableJson_roundTrips (by decide +kernel) (by decide +kernel)

def sampleJournal : IndexedJournal where
  journal := some (Utf8.encode (lineText ((sampleTable.take 3).map Prod.snd)))
  index := none

def isTerminalRow (row : RowFields) : Bool :=
  (Json.lookup stateKey row).any fun value => value.text? = some "failed".toList

theorem sampleJournal_rows :
    iterNdjson sampleJson sampleJournal.journal = .ok [failedRow, numberRow 1, numberRow 2] := by
  rw [sampleJournal, iterNdjson_lineText sampleJson (by decide +kernel)]
  rfl

def sampleLines : List Utf8.Bytes := (sampleTable.take 3).map fun entry => lineBytes entry.2

theorem sampleJournal_lines :
    [failedRow, numberRow 1, numberRow 2].mapM (rowLine sampleJson) = .ok sampleLines := rfl

/-- The terminal row and the last row fit in thirty bytes. -/
theorem sampleJournal_compacts :
    CompactsWell sampleJson isTerminalRow 30 sampleJournal
      (compactIndexedNdjson sampleJson isTerminalRow 30 sampleJournal).2 :=
  (compaction_keeps_evidence_iff sampleJson_roundTrips sampleJournal).mpr <| by
    intro journal rows encoded last content opened oversized rowsRead lines isLast writable
    rw [← opened, sampleJournal_rows] at rowsRead
    cases rowsRead
    rw [sampleJournal_lines] at lines
    cases lines
    exact .inl (by decide +kernel)

/-- **In twenty bytes the terminal row is lost**: only the last row stays. -/
theorem compaction_loses_evidence :
    sampleJson.RoundTrips ∧ ¬ CompactsWell sampleJson isTerminalRow 20 sampleJournal
      (compactIndexedNdjson sampleJson isTerminalRow 20 sampleJournal).2 := by
  refine ⟨sampleJson_roundTrips, fun well => ?_⟩
  have fits := evidenceFits_of_compactsWell sampleJson_roundTrips rfl (by decide +kernel)
    sampleJournal_rows sampleJournal_lines rfl rfl well
  rcases fits with small | none | ⟨row, isLast, required⟩
  · exact absurd small (by decide +kernel)
  · exact absurd (none failedRow mem_cons_self) (by decide)
  · cases isLast
    exact absurd required (by decide)

end Audiagentic.Observability
