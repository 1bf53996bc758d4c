import Audiagentic.Planning.Durability

/-!
# Rolling a transaction forward

What a prepared manifest does to a disk on which part of it was done already.  Each planning
file is as it was before the mutation or as it is after it, and repeating `_apply_manifest`
takes every file to the latter, unless one of them cannot be put in place.  Hashes are compared,
never assumed to be injective: a file whose hash is that of the new contents is left alone by the
first application as by every other.
-/

namespace Audiagentic.Planning

open Foundations List Script Option Dict AList

section

variable (volume : Volume) (sha256 : Bytes → String) (before : PlanningDisk) (mutation : Mutation)

/-- The contents of a file after a write to it. -/
def settled (old : Option Bytes) (data : Bytes) : Bytes :=
  match old with
  | none => data
  | some current => if sha256 current = sha256 data then current else data

/-- The contents of a planning file after the mutation. -/
def target (path : String) : Option Bytes :=
  match mutation.writes.find? (·.1 = some path) with
  | some (_, data) => some (settled sha256 (before.files.lookup path) data)
  | none => if some path ∈ mutation.deletes then none else before.files.lookup path

/-- No planning file is named twice. -/
structure Mutation.Distinct (mutation : Mutation) : Prop where
  writes : (mutation.writes.filterMap (·.1)).Nodup
  deletes : ∀ path data, (some path, data) ∈ mutation.writes → some path ∉ mutation.deletes

def Mutation.Writes (mutation : Mutation) (path : String) : Prop :=
  ∃ data, (some path, data) ∈ mutation.writes

/-- The files of a mutation can be put in place: none is to lie below a path that the mutation
writes or deletes, and each that is not there already fits. -/
structure Placeable : Prop where
  apart : ∀ path, mutation.Writes path ∨ some path ∈ mutation.deletes →
    ∀ other, mutation.Writes other → isBelow path other = false
  fits : ∀ path data, (some path, data) ∈ mutation.writes →
    (∃ current, before.files.lookup path = some current ∧ sha256 current = sha256 data) ∨
      before.fits volume path = true

structure Prepared (manifest : Manifest) : Prop where
  version : manifest.version = 1
  event : manifest.planningEvent = mutation.planningEvent
  previous : ∀ intent ∈ manifest.writes,
    intent.previousSha256 = (before.files.lookup intent.relativePath).map sha256
  written : ∀ path data, (some path, data) ∈ mutation.writes →
    ∃ intent ∈ manifest.writes, intent.relativePath = path ∧ intent.sha256 = sha256 data
  deletes : ∀ intent ∈ manifest.deletes, some intent.relativePath ∈ mutation.deletes ∧
    intent.sha256 = (before.files.lookup intent.relativePath).map sha256
  deleted : ∀ path, some path ∈ mutation.deletes →
    ∃ intent ∈ manifest.deletes, intent.relativePath = path
  apart : (manifest.writes.map (·.relativePath)).Nodup
  reached : ∀ intent ∈ manifest.writes, before.reaches volume intent.relativePath = true
  reachedDeletes : ∀ intent ∈ manifest.deletes,
    before.reaches volume intent.relativePath = true

def Right (intent : WriteIntent) (data : Bytes) : Prop :=
  (some intent.relativePath, data) ∈ mutation.writes ∧ intent.sha256 = sha256 data

def Between (now : PlanningDisk) : Prop :=
  ∀ path, now.files.lookup path = before.files.lookup path ∨
    now.files.lookup path = target sha256 before mutation path

def OutboxBetween (now : PlanningDisk) : Prop :=
  now.outbox = before.outbox ∨ ∃ event, mutation.planningEvent = some event ∧
    before.outbox.lookup event.eventId = none ∧
    now.outbox = before.outbox.insert event.eventId event.record

structure Finished (now : PlanningDisk) : Prop where
  files : ∀ path, now.files.lookup path = target sha256 before mutation path
  event : ∀ event, mutation.planningEvent = some event →
    now.outbox.lookup event.eventId = some event.record

def Full (name : String) (manifest : Manifest) (now : PlanningDisk) : Prop :=
  ∃ dir, now.txns.lookup name = some dir ∧ dir.manifest ≠ none ∧
    ∀ intent ∈ manifest.writes, dir.payloads.lookup intent.payload ≠ none

/-- A disk on which the manifest was durable: what is left of the directory is genuine, and it
is complete unless everything is in place. -/
structure Late (name : String) (manifest : Manifest) (now : PlanningDisk) : Prop where
  only : ∀ other, other ≠ name → now.txns.lookup other = none
  genuine : ∀ dir found, now.txns.lookup name = some dir → dir.manifest = some found →
    found = { manifest with phase := found.phase }
  stock : ∀ dir, now.txns.lookup name = some dir → ∀ intent ∈ manifest.writes, ∀ data,
    dir.payloads.lookup intent.payload = some data → Right sha256 mutation intent data
  files : Between sha256 before mutation now
  outbox : OutboxBetween before mutation now
  complete : Full name manifest now ∨ Finished sha256 before mutation now

end

section

variable {volume : Volume} {sha256 : Bytes → String} {before : PlanningDisk} {mutation : Mutation}

/-! ## Where a file ends -/

theorem sha256_settled (sha256 : Bytes → String) (old : Option Bytes) (data : Bytes) :
    sha256 (settled sha256 old data) = sha256 data := by
  cases old with
  | none => rfl
  | some current =>
    rw [settled]
    split
    · next same => exact same
    · rfl

theorem target_of_write (distinct : mutation.Distinct) {path : String} {data : Bytes}
    (member : (some path, data) ∈ mutation.writes) :
    target sha256 before mutation path =
      some (settled sha256 (before.files.lookup path) data) := by
  have found : ∀ writes : List (Option String × Bytes), (writes.filterMap (·.1)).Nodup →
      (some path, data) ∈ writes → writes.find? (·.1 = some path) = some (some path, data) := by
    intro writes
    induction writes with
    | nil => simp
    | cons first rest ih =>
      intro nodup member
      obtain ⟨key, value⟩ := first
      rcases mem_cons.mp member with same | later
      · rw [← same]
        simp
      have different : key ≠ some path := by
        rintro rfl
        have fresh := (nodup_cons.mp nodup).1
        exact fresh (mem_filterMap.mpr ⟨(some path, data), later, rfl⟩)
      rw [find?_cons_of_neg (by simpa using different)]
      refine ih ?_ later
      exact nodup.sublist ((sublist_cons_self _ _).filterMap _)
  rw [target, found mutation.writes distinct.writes member]

theorem target_of_delete (distinct : mutation.Distinct) {path : String}
    (member : some path ∈ mutation.deletes) : target sha256 before mutation path = none := by
  have unwritten : mutation.writes.find? (·.1 = some path) = none := by
    rw [find?_eq_none]
    rintro ⟨key, data⟩ here same
    have key_eq : key = some path := by simpa using same
    exact distinct.deletes path data (key_eq ▸ here) member
  rw [target, unwritten]
  exact if_pos member

theorem target_of_untouched {path : String}
    (unwritten : ∀ data, (some path, data) ∉ mutation.writes)
    (undeleted : some path ∉ mutation.deletes) :
    target sha256 before mutation path = before.files.lookup path := by
  have none : mutation.writes.find? (·.1 = some path) = none := by
    rw [find?_eq_none]
    rintro ⟨key, data⟩ here same
    have key_eq : key = some path := by simpa using same
    exact unwritten data (key_eq ▸ here)
  rw [target, none]
  exact if_neg undeleted

theorem stored_of_target {path : String} (stored : target sha256 before mutation path ≠ none) :
    before.files.lookup path ≠ none ∨ mutation.Writes path := by
  rw [target] at stored
  cases found : mutation.writes.find? (·.1 = some path) with
  | some write =>
    obtain ⟨key, data⟩ := write
    have same : key = some path := by simpa using find?_some found
    exact .inr ⟨data, same ▸ mem_of_find?_eq_some found⟩
  | none =>
    rw [found] at stored
    dsimp only at stored
    split at stored
    · exact absurd rfl stored
    · exact .inl stored

theorem mem_keys_iff {now : PlanningDisk} {path : String} :
    path ∈ now.files.keys ↔ now.files.lookup path ≠ none := by
  rw [← AList.mem_keys, ← lookup_isSome, isSome_iff_ne_none]

theorem reaches_iff {now : PlanningDisk} {path : String} :
    now.reaches volume path = true ↔ volume.visible path = true ∧
      ∀ other, now.files.lookup other ≠ none → isBelow path other = false := by
  simp [PlanningDisk.reaches, mem_keys_iff]

theorem fits_iff {now : PlanningDisk} {path : String} :
    now.fits volume path = true ↔ volume.accepts path = true ∧
      ∀ other, now.files.lookup other ≠ none → isBelow other path = false := by
  simp [PlanningDisk.fits, mem_keys_iff]

theorem Late.stored {name : String} {manifest : Manifest} {now : PlanningDisk}
    (late : Late sha256 before mutation name manifest now) {path : String}
    (stored : now.files.lookup path ≠ none) :
    before.files.lookup path ≠ none ∨ mutation.Writes path := by
  rcases late.files path with same | ended
  · exact .inl (same ▸ stored)
  · exact stored_of_target (ended ▸ stored)

/-- What the mutation names stays within reach on its way. -/
theorem Placeable.reaches (placeable : Placeable volume sha256 before mutation) {name : String}
    {manifest : Manifest} {now : PlanningDisk}
    (late : Late sha256 before mutation name manifest now) {path : String}
    (named : mutation.Writes path ∨ some path ∈ mutation.deletes)
    (reached : before.reaches volume path = true) : now.reaches volume path = true := by
  obtain ⟨visible, clear⟩ := reaches_iff.mp reached
  refine reaches_iff.mpr ⟨visible, fun other stored => ?_⟩
  rcases late.stored stored with old | written
  · exact clear other old
  · exact placeable.apart path named other written

theorem Placeable.fits_late (placeable : Placeable volume sha256 before mutation) {name : String}
    {manifest : Manifest} {now : PlanningDisk}
    (late : Late sha256 before mutation name manifest now) {path : String}
    (written : mutation.Writes path) (fits : before.fits volume path = true) :
    now.fits volume path = true := by
  obtain ⟨accepted, clear⟩ := fits_iff.mp fits
  refine fits_iff.mpr ⟨accepted, fun other stored => ?_⟩
  rcases late.stored stored with old | new
  · exact clear other old
  · exact placeable.apart other (.inl new) path written

theorem Late.place {name : String} {manifest : Manifest} {now : PlanningDisk}
    (late : Late sha256 before mutation name manifest now) (full : Full name manifest now)
    {files : Dict String Bytes}
    (moved : ∀ path, files.lookup path = now.files.lookup path ∨
      files.lookup path = target sha256 before mutation path) :
    Late sha256 before mutation name manifest { now with files := files } := by
  refine ⟨late.only, late.genuine, late.stock, ?_, late.outbox, .inl full⟩
  intro path
  rcases moved path with same | ended
  · rcases late.files path with old | new
    · exact .inl (same.trans old)
    · exact .inr (same.trans new)
  · exact .inr ended

theorem Finished.between {now : PlanningDisk} (finished : Finished sha256 before mutation now) :
    Between sha256 before mutation now :=
  fun path => .inr (finished.files path)

end

/-! ## Applying the intents -/

section

variable {volume : Volume} {sha256 : Bytes → String} {before : PlanningDisk} {mutation : Mutation}
  {name : String} {manifest : Manifest} {Crash Ghost : Tape PlanningWrite PlanningDisk → Prop}

/-- The manifest is being applied: the directory is complete, the outbox untouched, and some
files are where they end. -/
structure Applying (sha256 : Bytes → String) (before : PlanningDisk) (mutation : Mutation)
    (name : String) (manifest : Manifest) (Ghost : Tape PlanningWrite PlanningDisk → Prop)
    (outbox : Dict String OutboxRecord) (done : String → Prop)
    (tape : Tape PlanningWrite PlanningDisk) : Prop where
  ghost : Ghost tape
  late : Late sha256 before mutation name manifest tape.store
  full : Full name manifest tape.store
  outbox : tape.store.outbox = outbox
  done : ∀ path, done path → tape.store.files.lookup path = target sha256 before mutation path

/-- What the triples need of the condition on crashes: it holds on every late disk, under a
condition on the tape that writes keep. -/
structure Covers (sha256 : Bytes → String) (before : PlanningDisk) (mutation : Mutation)
    (name : String) (manifest : Manifest) (Crash Ghost : Tape PlanningWrite PlanningDisk → Prop) :
    Prop where
  kept : ∀ tape entry, Ghost tape → Ghost (tape.record PlanningDisk.apply entry)
  enough : ∀ tape, Ghost tape → Late sha256 before mutation name manifest tape.store → Crash tape

variable {outbox : Dict String OutboxRecord} {done : String → Prop}
  {tape : Tape PlanningWrite PlanningDisk}

theorem Applying.place (covers : Covers sha256 before mutation name manifest Crash Ghost)
    (applying : Applying sha256 before mutation name manifest Ghost outbox done tape)
    (entry : PlanningWrite) (path : String) {files : Dict String Bytes}
    (effect : tape.store.apply entry = { tape.store with files := files })
    (here : files.lookup path = target sha256 before mutation path)
    (elsewhere : ∀ other, other ≠ path → files.lookup other = tape.store.files.lookup other) :
    Applying sha256 before mutation name manifest Ghost outbox
      (fun other => done other ∨ other = path) (tape.record PlanningDisk.apply entry) := by
  have store : (tape.record PlanningDisk.apply entry).store = { tape.store with files := files } :=
    effect
  have moved : ∀ other, files.lookup other = tape.store.files.lookup other ∨
      files.lookup other = target sha256 before mutation other := by
    intro other
    by_cases same : other = path
    · exact .inr (same ▸ here)
    · exact .inl (elsewhere other same)
  refine ⟨covers.kept tape entry applying.ghost, ?_, ?_, ?_, ?_⟩
  · rw [store]
    exact applying.late.place applying.full moved
  · rw [store]
    exact applying.full
  · rw [store]
    exact applying.outbox
  · intro other finished
    rw [store]
    by_cases same : other = path
    · exact same ▸ here
    · rcases finished with earlier | equal
      · exact (elsewhere other same).trans (applying.done other earlier)
      · exact absurd equal same

theorem Applying.skip
    (applying : Applying sha256 before mutation name manifest Ghost outbox done tape)
    {path : String} (here : tape.store.files.lookup path = target sha256 before mutation path) :
    Applying sha256 before mutation name manifest Ghost outbox
      (fun other => done other ∨ other = path) tape := by
  refine ⟨applying.ghost, applying.late, applying.full, applying.outbox, ?_⟩
  rintro other (earlier | rfl)
  · exact applying.done other earlier
  · exact here

theorem Applying.crash (covers : Covers sha256 before mutation name manifest Crash Ghost)
    (applying : Applying sha256 before mutation name manifest Ghost outbox done tape) :
    Crash tape :=
  covers.enough tape applying.ghost applying.late

theorem run_inspect {path : String} (reached : tape.store.reaches volume path = true) :
    (inspect volume path).run tape = (.ok (tape.store.files.lookup path), tape) := by
  simp only [inspect, run_disk_bind, reached, refuse, Bool.true_eq_false, if_false,
    run_check_ok_bind]
  rfl

theorem run_inspect_refused {path : String}
    (refused : tape.store.reaches volume path = false) :
    (inspect volume path).run tape = (.error (.unreadable path), tape) := by
  simp only [inspect, run_disk_bind, refused, refuse, if_true, run_check_error_bind]

theorem run_atomicWriteBytes {path : String} (data : Bytes)
    (fits : tape.store.fits volume path = true) : (atomicWriteBytes volume path data).run tape =
      (.ok (), tape.record PlanningDisk.apply (.writeTarget path data)) := by
  simp only [atomicWriteBytes, run_disk_bind, fits, refuse, Bool.true_eq_false, if_false,
    run_check_ok_bind]
  rfl

theorem run_atomicWriteBytes_refused {path : String} (data : Bytes)
    (refused : tape.store.fits volume path = false) :
    (atomicWriteBytes volume path data).run tape = (.error (.unwritable path), tape) := by
  simp only [atomicWriteBytes, run_disk_bind, refused, refuse, if_true, run_check_error_bind]

/-- What `_apply_write` does on a late disk: nothing, when the file is where it ends, or the
write that takes it there, or it raises for a file that cannot be put in place. -/
theorem applyWrite_run (distinct : mutation.Distinct)
    (prepared : Prepared volume sha256 before mutation manifest)
    (applying : Applying sha256 before mutation name manifest Ghost outbox done tape)
    {intent : WriteIntent} (member : intent ∈ manifest.writes) :
    (applyWrite volume sha256 name intent).run tape = (.ok (), tape) ∧
        tape.store.files.lookup intent.relativePath =
          target sha256 before mutation intent.relativePath ∨
      (∃ data, (applyWrite volume sha256 name intent).run tape =
          (.ok (), tape.record PlanningDisk.apply (.writeTarget intent.relativePath data)) ∧
        some data = target sha256 before mutation intent.relativePath) ∨
      ¬ Placeable volume sha256 before mutation ∧
        ∃ failure, (applyWrite volume sha256 name intent).run tape = (.error failure, tape) := by
  obtain ⟨dir, found, _, stocked⟩ := applying.full
  obtain ⟨data, payload⟩ := ne_none_iff_exists'.mp (stocked intent member)
  obtain ⟨wanted, hash⟩ := applying.late.stock dir found intent member data payload
  have ends : target sha256 before mutation intent.relativePath =
      some (settled sha256 (before.files.lookup intent.relativePath) data) :=
    target_of_write distinct wanted
  have staged : (tape.store.txns.lookup name).bind (·.payloads.lookup intent.payload) =
      some data := by
    rw [found]
    exact payload
  have passed : (refuse (sha256 data ≠ intent.sha256)
      (.payloadHashMismatch intent.relativePath) : Except PlanningError Unit) = .ok () :=
    refuse_eq_ok.mpr (not_not_intro hash.symm)
  unfold applyWrite
  simp only [run_disk_bind, staged, passed, run_check_ok_bind]
  cases reached : tape.store.reaches volume intent.relativePath with
  | false =>
    refine .inr (.inr ⟨fun placeable => ?_, _, run_bind_of_error (run_inspect_refused reached)⟩)
    rw [placeable.reaches applying.late (.inl ⟨data, wanted⟩) (prepared.reached intent member)]
      at reached
    cases reached
  | true =>
  rw [run_bind_of_ok (run_inspect reached)]
  cases current : tape.store.files.lookup intent.relativePath with
  | none =>
    have old : before.files.lookup intent.relativePath = none := by
      rcases applying.late.files intent.relativePath with same | ended
      · exact same.symm.trans current
      · rw [current, ends] at ended
        cases ended
    cases fits : tape.store.fits volume intent.relativePath with
    | true => exact .inr (.inl ⟨data, run_atomicWriteBytes data fits, by rw [ends, old]; rfl⟩)
    | false =>
      refine .inr (.inr ⟨fun placeable => ?_, _, run_atomicWriteBytes_refused data fits⟩)
      rcases placeable.fits _ _ wanted with ⟨_, here, _⟩ | free
      · rw [old] at here
        cases here
      · rw [placeable.fits_late applying.late ⟨data, wanted⟩ free] at fits
        cases fits
  | some bytes =>
    dsimp only
    by_cases settled_already : sha256 bytes = intent.sha256
    · left
      refine ⟨by rw [if_pos settled_already]; rfl, ?_⟩
      rcases applying.late.files intent.relativePath with same | ended
      · have old : before.files.lookup intent.relativePath = some bytes :=
          same.symm.trans current
        rw [ends, old, settled, if_pos (settled_already.trans hash)]
      · exact current.symm.trans ended
    · -- Only the contents from before the mutation have another hash.
      have old : before.files.lookup intent.relativePath = some bytes := by
        rcases applying.late.files intent.relativePath with same | ended
        · exact same.symm.trans current
        · rw [current, ends] at ended
          refine absurd ?_ settled_already
          rw [Option.some.inj ended, sha256_settled sha256, hash]
      have previous : intent.previousSha256 = some (sha256 bytes) := by
        rw [prepared.previous intent member, old]
        rfl
      rw [if_neg settled_already, if_pos previous]
      cases fits : tape.store.fits volume intent.relativePath with
      | true =>
        refine .inr (.inl ⟨data, run_atomicWriteBytes data fits, ?_⟩)
        rw [ends, old, settled, if_neg (fun same => settled_already (same.trans hash.symm))]
      | false =>
        refine .inr (.inr ⟨fun placeable => ?_, _, run_atomicWriteBytes_refused data fits⟩)
        rcases placeable.fits _ _ wanted with ⟨_, here, same⟩ | free
        · cases Option.some.inj (old.symm.trans here)
          exact settled_already (same.trans hash.symm)
        · rw [placeable.fits_late applying.late ⟨data, wanted⟩ free] at fits
          cases fits

theorem applyWrite_triple (distinct : mutation.Distinct)
    (prepared : Prepared volume sha256 before mutation manifest)
    (covers : Covers sha256 before mutation name manifest Crash Ghost)
    {intent : WriteIntent} (member : intent ∈ manifest.writes)
    {Raised : Tape PlanningWrite PlanningDisk → Prop}
    (blocked : ∀ tape, ¬ Placeable volume sha256 before mutation → Raised tape) :
    Script.Triple PlanningDisk.apply Crash
      (Applying sha256 before mutation name manifest Ghost outbox done)
      (applyWrite volume sha256 name intent)
      (fun _ => Applying sha256 before mutation name manifest Ghost outbox
        (fun other => done other ∨ other = intent.relativePath)) Raised := by
  intro tape applying
  rcases applyWrite_run distinct prepared applying member with
    ⟨run, here⟩ | ⟨data, run, ends⟩ | ⟨unplaceable, failure, run⟩
  · rw [run]
    exact ⟨.refl (applying.crash covers), applying.skip here⟩
  rotate_left
  · rw [run]
    exact ⟨.refl (applying.crash covers), blocked tape unplaceable⟩
  have placed := applying.place covers (.writeTarget intent.relativePath data)
    intent.relativePath rfl (by rw [lookup_insert, ends])
    (fun other different => lookup_insert_ne different)
  rw [run]
  exact ⟨.write _ (.refl (applying.crash covers)) (placed.crash covers), placed⟩

theorem applyDelete_triple (distinct : mutation.Distinct)
    (prepared : Prepared volume sha256 before mutation manifest)
    (covers : Covers sha256 before mutation name manifest Crash Ghost)
    {intent : DeleteIntent} (member : intent ∈ manifest.deletes)
    {Raised : Tape PlanningWrite PlanningDisk → Prop}
    (blocked : ∀ tape, ¬ Placeable volume sha256 before mutation → Raised tape) :
    Script.Triple PlanningDisk.apply Crash
      (Applying sha256 before mutation name manifest Ghost outbox done)
      (applyDelete volume sha256 intent)
      (fun _ => Applying sha256 before mutation name manifest Ghost outbox
        (fun other => done other ∨ other = intent.relativePath)) Raised := by
  intro tape applying
  obtain ⟨wanted, hash⟩ := prepared.deletes intent member
  have ends : target sha256 before mutation intent.relativePath = none :=
    target_of_delete distinct wanted
  unfold applyDelete
  cases reached : tape.store.reaches volume intent.relativePath with
  | false =>
    rw [run_bind_of_error (run_inspect_refused reached)]
    refine ⟨.refl (applying.crash covers), blocked tape fun placeable => ?_⟩
    rw [placeable.reaches applying.late (.inr wanted) (prepared.reachedDeletes intent member)]
      at reached
    cases reached
  | true =>
  rw [run_bind_of_ok (run_inspect reached)]
  cases current : tape.store.files.lookup intent.relativePath with
  | none => exact ⟨.refl (applying.crash covers), applying.skip (current.trans ends.symm)⟩
  | some bytes =>
    have old : before.files.lookup intent.relativePath = some bytes := by
      rcases applying.late.files intent.relativePath with same | ended
      · exact same.symm.trans current
      · rw [current, ends] at ended
        cases ended
    have passed : (refuse
        (∃ expected, intent.sha256 = some expected ∧ sha256 bytes ≠ expected)
        (.unexpectedDeleteTarget intent.relativePath) : Except PlanningError Unit) = .ok () := by
      rw [refuse_eq_ok, hash, old]
      rintro ⟨expected, same, different⟩
      exact different (Option.some.inj same)
    have placed := applying.place covers (.unlinkTarget intent.relativePath)
      intent.relativePath rfl (by rw [lookup_erase, ends])
      (fun other different => lookup_erase_ne different)
    simp only [passed, run_check_ok_bind]
    exact ⟨.write _ (.refl (applying.crash covers)) (placed.crash covers), placed⟩

theorem Applying.weaken
    (applying : Applying sha256 before mutation name manifest Ghost outbox done tape)
    {fewer : String → Prop} (less : ∀ path, fewer path → done path) :
    Applying sha256 before mutation name manifest Ghost outbox fewer tape :=
  ⟨applying.ghost, applying.late, applying.full, applying.outbox,
    fun path here => applying.done path (less path here)⟩

theorem forEach_triple (covers : Covers sha256 before mutation name manifest Crash Ghost)
    {ι : Type} {body : ι → PlanningScript Unit} {items : List ι} (path : ι → String)
    {Raised : Tape PlanningWrite PlanningDisk → Prop}
    (round : ∀ item ∈ items, ∀ done, Script.Triple PlanningDisk.apply Crash
      (Applying sha256 before mutation name manifest Ghost outbox done) (body item)
      (fun _ => Applying sha256 before mutation name manifest Ghost outbox
        (fun other => done other ∨ other = path item)) Raised) :
    Script.Triple PlanningDisk.apply Crash
      (Applying sha256 before mutation name manifest Ghost outbox done)
      (Script.forEach body items)
      (fun _ => Applying sha256 before mutation name manifest Ghost outbox
        (fun other => done other ∨ ∃ item ∈ items, path item = other)) Raised := by
  refine Script.Triple.weaken (triple_forEach
    (fun finished => Applying sha256 before mutation name manifest Ghost outbox
      (fun other => done other ∨ ∃ item ∈ finished, path item = other))
    (fun _ _ applying => applying.crash covers) ?_) ?_ (fun _ _ applying => applying)
    (fun _ raised => raised)
  · intro finished item member
    refine (round item member _).weaken (fun _ applying => applying) ?_ (fun _ raised => raised)
    intro _ tape applying
    refine applying.weaken ?_
    rintro other (earlier | ⟨later, here, rfl⟩)
    · exact .inl (.inl earlier)
    · rcases mem_append.mp here with old | new
      · exact .inl (.inr ⟨later, old, rfl⟩)
      · exact .inr (congrArg path (mem_singleton.mp new))
  · intro tape applying
    refine applying.weaken ?_
    rintro other (earlier | ⟨_, impossible, _⟩)
    · exact earlier
    · cases impossible

theorem applyManifest_triple (distinct : mutation.Distinct)
    (prepared : Prepared volume sha256 before mutation manifest)
    (covers : Covers sha256 before mutation name manifest Crash Ghost)
    {Raised : Tape PlanningWrite PlanningDisk → Prop}
    (blocked : ∀ tape, ¬ Placeable volume sha256 before mutation → Raised tape) :
    Script.Triple PlanningDisk.apply Crash
      (Applying sha256 before mutation name manifest Ghost outbox (fun _ => False))
      (applyManifest volume sha256 name manifest)
      (fun _ => Applying sha256 before mutation name manifest Ghost outbox (fun _ => True))
      Raised := by
  have passed : (refuse (manifest.version ≠ 1) .unsupportedVersion : Except PlanningError Unit) =
      .ok () := refuse_eq_ok.mpr (not_not_intro prepared.version)
  unfold applyManifest
  rw [passed]
  change Script.Triple PlanningDisk.apply Crash _ (Script.forEach (applyWrite volume sha256 name)
    manifest.writes >>= fun _ => Script.forEach (applyDelete volume sha256) manifest.deletes)
      _ Raised
  refine triple_bind (forEach_triple covers WriteIntent.relativePath fun intent member _ =>
    applyWrite_triple distinct prepared covers member blocked) fun _ => ?_
  refine (forEach_triple covers DeleteIntent.relativePath fun intent member _ =>
    applyDelete_triple distinct prepared covers member blocked).weaken
      (fun _ applying => applying) ?_
    (fun _ raised => raised)
  intro _ tape applying
  refine ⟨applying.ghost, applying.late, applying.full, applying.outbox, fun path _ => ?_⟩
  by_cases written : ∃ data, (some path, data) ∈ mutation.writes
  · obtain ⟨data, member⟩ := written
    obtain ⟨intent, here, named, _⟩ := prepared.written path data member
    exact applying.done path (.inl (.inr ⟨intent, here, named⟩))
  by_cases deleted : some path ∈ mutation.deletes
  · exact applying.done path (.inr (prepared.deleted path deleted))
  have still : target sha256 before mutation path = before.files.lookup path :=
    target_of_untouched (fun data member => written ⟨data, member⟩) deleted
  rcases applying.late.files path with same | ended
  · exact same.trans still.symm
  · exact ended

end

/-! ## The event, the mark and the removal -/

section

variable {volume : Volume} {sha256 : Bytes → String} {before : PlanningDisk} {mutation : Mutation}
  {name : String} {manifest : Manifest} {Crash Ghost : Tape PlanningWrite PlanningDisk → Prop}
  {outbox : Dict String OutboxRecord} {tape : Tape PlanningWrite PlanningDisk}

/-- The outbox holds something else under the id of the event. -/
def Clash (mutation : Mutation) (outbox : Dict String OutboxRecord) : Prop :=
  ∃ event existing, mutation.planningEvent = some event ∧
    outbox.lookup event.eventId = some existing ∧ existing ≠ event.record

/-- Everything is in place, and the directory may be going. -/
structure Finishing (sha256 : Bytes → String) (before : PlanningDisk) (mutation : Mutation)
    (name : String) (manifest : Manifest) (Ghost : Tape PlanningWrite PlanningDisk → Prop)
    (tape : Tape PlanningWrite PlanningDisk) : Prop where
  ghost : Ghost tape
  late : Late sha256 before mutation name manifest tape.store
  finished : Finished sha256 before mutation tape.store

theorem persistEvent_triple (prepared : Prepared volume sha256 before mutation manifest)
    (covers : Covers sha256 before mutation name manifest Crash Ghost) :
    Script.Triple PlanningDisk.apply Crash
      (Applying sha256 before mutation name manifest Ghost outbox (fun _ => True))
      (persistEvent manifest)
      (fun _ => Finishing sha256 before mutation name manifest Ghost)
      (fun _ => Clash mutation outbox) := by
  intro tape applying
  unfold persistEvent
  rw [prepared.event]
  cases intended : mutation.planningEvent with
  | none =>
    refine ⟨.refl (applying.crash covers), applying.ghost, applying.late, ?_⟩
    exact ⟨fun path => applying.done path trivial, by simp [intended]⟩
  | some event =>
    simp only [run_disk_bind]
    cases held : tape.store.outbox.lookup event.eventId with
    | none =>
      have fresh : tape.store.outbox = before.outbox := by
        rcases applying.late.outbox with same | ⟨other, is, _, inserted⟩
        · exact same
        · cases Option.some.inj (intended.symm.trans is)
          rw [inserted, lookup_insert] at held
          cases held
      have late : Late sha256 before mutation name manifest
          (tape.record PlanningDisk.apply (.writeOutbox event.record)).store := by
        refine ⟨applying.late.only, applying.late.genuine, applying.late.stock,
          applying.late.files, .inr ⟨event, intended, fresh ▸ held, ?_⟩, .inl applying.full⟩
        rw [← fresh]
        rfl
      have ghost := covers.kept tape (.writeOutbox event.record) applying.ghost
      refine ⟨.write _ (.refl (applying.crash covers)) (covers.enough _ ghost late), ghost, late,
        fun path => applying.done path trivial, ?_⟩
      intro other is
      cases Option.some.inj (intended.symm.trans is)
      exact lookup_insert _
    | some existing =>
      by_cases same : existing = event.record
      · have passed : (refuse (existing ≠ event.record) (.eventIdExists event.eventId) :
            Except PlanningError Unit) = .ok () := refuse_eq_ok.mpr (not_not_intro same)
        simp only [passed, run_check]
        refine ⟨.refl (applying.crash covers), applying.ghost, applying.late,
          fun path => applying.done path trivial, ?_⟩
        intro other is
        cases Option.some.inj (intended.symm.trans is)
        rw [held, same]
      · have failed : (refuse (existing ≠ event.record) (.eventIdExists event.eventId) :
            Except PlanningError Unit) = .error (.eventIdExists event.eventId) :=
          refuse_eq_error.mpr ⟨same, rfl⟩
        simp only [failed, run_check]
        exact ⟨.refl (applying.crash covers), event, existing, intended,
          applying.outbox ▸ held, same⟩

@[simp] theorem changeDir_files (now : PlanningDisk) (name : String)
    (change : TransactionDir → TransactionDir) : (now.changeDir name change).files = now.files := by
  unfold PlanningDisk.changeDir
  split <;> rfl

@[simp] theorem changeDir_outbox (now : PlanningDisk) (name : String)
    (change : TransactionDir → TransactionDir) :
    (now.changeDir name change).outbox = now.outbox := by
  unfold PlanningDisk.changeDir
  split <;> rfl

theorem changeDir_lookup (now : PlanningDisk) (name other : String)
    (change : TransactionDir → TransactionDir) :
    (now.changeDir name change).txns.lookup other =
      if other = name then (now.txns.lookup name).map change else now.txns.lookup other := by
  unfold PlanningDisk.changeDir
  cases found : now.txns.lookup name with
  | none =>
    by_cases same : other = name
    · rw [if_pos same, same, found]
      rfl
    · rw [if_neg same]
  | some dir => exact lookup_insert_eq now.txns name other (change dir)

/-- The directory changes when everything is in place: what is left of it stays genuine. -/
theorem Late.change {now : PlanningDisk} (late : Late sha256 before mutation name manifest now)
    (finished : Finished sha256 before mutation now) (change : TransactionDir → TransactionDir)
    (marks : ∀ dir found, (change dir).manifest = some found →
      dir.manifest = some found ∨ found = { manifest with phase := found.phase })
    (keeps : ∀ dir number data, (change dir).payloads.lookup number = some data →
      dir.payloads.lookup number = some data) :
    Late sha256 before mutation name manifest (now.changeDir name change) ∧
      Finished sha256 before mutation (now.changeDir name change) := by
  have ended : Finished sha256 before mutation (now.changeDir name change) := by
    refine ⟨?_, ?_⟩
    · rw [changeDir_files]
      exact finished.files
    · rw [changeDir_outbox]
      exact finished.event
  refine ⟨⟨?_, ?_, ?_, ended.between, ?_, .inr ended⟩, ended⟩
  · intro other different
    rw [changeDir_lookup, if_neg different]
    exact late.only other different
  · intro dir found here marked
    rw [changeDir_lookup, if_pos rfl, map_eq_some_iff] at here
    obtain ⟨old, there, rfl⟩ := here
    rcases marks old found marked with same | new
    · exact late.genuine old found there same
    · exact new
  · intro dir here intent member data payload
    rw [changeDir_lookup, if_pos rfl, map_eq_some_iff] at here
    obtain ⟨old, there, rfl⟩ := here
    exact late.stock old there intent member data (keeps old _ data payload)
  · rw [OutboxBetween, changeDir_outbox]
    exact late.outbox

theorem without_manifest {dir : TransactionDir} {entry : TransactionFile} {found : Manifest}
    (marked : (dir.without entry).manifest = some found) : dir.manifest = some found := by
  cases entry with
  | manifest => cases marked
  | payload number => exact marked

theorem without_payload {dir : TransactionDir} {entry : TransactionFile} {number : Nat}
    {data : Bytes} (payload : (dir.without entry).payloads.lookup number = some data) :
    dir.payloads.lookup number = some data := by
  cases entry with
  | manifest => exact payload
  | payload removed =>
    change (dir.payloads.erase removed).lookup number = some data at payload
    rw [lookup_erase_eq] at payload
    split at payload
    · cases payload
    · exact payload

theorem removeTree_triple {order : ScanOrder} {Raised : Tape PlanningWrite PlanningDisk → Prop}
    (Inv After : Tape PlanningWrite PlanningDisk → Prop) (crash : ∀ tape, Inv tape → Crash tape)
    (kept : ∀ tape entry, Inv tape →
      Inv (tape.record PlanningDisk.apply (.unlinkEntry name entry)))
    (gone : ∀ tape, Inv tape →
      Crash (tape.record PlanningDisk.apply (.removeDir name)) ∧
        After (tape.record PlanningDisk.apply (.removeDir name))) :
    Script.Triple PlanningDisk.apply Crash Inv (removeTree order name) (fun _ => After)
      Raised := by
  intro tape inv
  unfold removeTree
  simp only [run_disk_bind]
  refine (triple_bind (triple_forEach (fun _ => Inv) (fun _ => crash) ?_)
    fun _ => ?_) tape inv
  · intro _ entry _
    exact triple_put _ fun tape inv =>
      ⟨crash tape inv, crash _ (kept tape entry inv), kept tape entry inv⟩
  · exact triple_put _ fun tape inv =>
      ⟨crash tape inv, (gone tape inv).1, (gone tape inv).2⟩

/-- The planning files and the outbox are as after the mutation, and the journal is empty. -/
structure Done (sha256 : Bytes → String) (before : PlanningDisk) (mutation : Mutation)
    (tape : Tape PlanningWrite PlanningDisk) : Prop where
  finished : Finished sha256 before mutation tape.store
  outbox : OutboxBetween before mutation tape.store
  clean : tape.store.txns = ∅

theorem Finishing.crash (covers : Covers sha256 before mutation name manifest Crash Ghost)
    (finishing : Finishing sha256 before mutation name manifest Ghost tape) : Crash tape :=
  covers.enough tape finishing.ghost finishing.late

theorem removeTree_finishing (covers : Covers sha256 before mutation name manifest Crash Ghost)
    (order : ScanOrder) {Raised : Tape PlanningWrite PlanningDisk → Prop} :
    Script.Triple PlanningDisk.apply Crash
      (Finishing sha256 before mutation name manifest Ghost) (removeTree order name)
      (fun _ => Done sha256 before mutation) Raised := by
  refine removeTree_triple (Finishing sha256 before mutation name manifest Ghost)
    (Done sha256 before mutation) (fun _ finishing => finishing.crash covers) ?_ ?_
  · intro tape entry finishing
    have changed := finishing.late.change finishing.finished (·.without entry)
      (fun dir found marked => .inl (without_manifest marked))
      (fun dir number data payload => without_payload payload)
    exact ⟨covers.kept tape _ finishing.ghost, changed.1, changed.2⟩
  · intro tape finishing
    have empty : tape.store.txns.erase name = ∅ := by
      rw [eq_empty_iff]
      intro other
      rw [lookup_erase_eq]
      split
      · rfl
      · next different => exact finishing.late.only other different
    have finished : Finished sha256 before mutation
        (tape.record PlanningDisk.apply (.removeDir name)).store :=
      ⟨finishing.finished.files, finishing.finished.event⟩
    have late : Late sha256 before mutation name manifest
        (tape.record PlanningDisk.apply (.removeDir name)).store := by
      have nothing : ∀ other,
          (tape.record PlanningDisk.apply (.removeDir name)).store.txns.lookup other = none :=
        eq_empty_iff.mp empty
      refine ⟨fun other _ => nothing other, ?_, ?_, finished.between, finishing.late.outbox,
        .inr finished⟩
      · intro dir found here
        rw [nothing name] at here
        cases here
      · intro dir here
        rw [nothing name] at here
        cases here
    exact ⟨covers.enough _ (covers.kept tape _ finishing.ghost) late, finished,
      finishing.late.outbox, empty⟩

/-- **From a durable manifest with all its payloads, everything is completed**, unless a file
cannot be put in place or the outbox holds something else under the id of the event. -/
theorem rollForward_triple (distinct : mutation.Distinct)
    (prepared : Prepared volume sha256 before mutation manifest)
    (covers : Covers sha256 before mutation name manifest Crash Ghost) (order : ScanOrder) :
    Script.Triple PlanningDisk.apply Crash
      (Applying sha256 before mutation name manifest Ghost outbox (fun _ => False))
      (rollForward volume sha256 order name manifest) (fun _ => Done sha256 before mutation)
      (fun _ => ¬ Placeable volume sha256 before mutation ∨ Clash mutation outbox) := by
  -- The mark is a manifest that differs in its phase only.
  have mark : Script.Triple PlanningDisk.apply Crash
      (Finishing sha256 before mutation name manifest Ghost)
      (perform (.writeManifest name { manifest with phase := .committed }))
      (fun _ => Finishing sha256 before mutation name manifest Ghost)
      (fun _ => ¬ Placeable volume sha256 before mutation ∨ Clash mutation outbox) := by
    refine triple_put _ fun tape finishing => ?_
    have changed := finishing.late.change finishing.finished
      (fun dir => { dir with manifest := some { manifest with phase := .committed } })
      (fun dir found marked => .inr (by cases marked; rfl)) (fun _ _ _ same => same)
    have next : Finishing sha256 before mutation name manifest Ghost (tape.record
        PlanningDisk.apply (.writeManifest name { manifest with phase := .committed })) :=
      ⟨covers.kept tape _ finishing.ghost, changed.1, changed.2⟩
    exact ⟨finishing.crash covers, next.crash covers, next⟩
  unfold rollForward
  refine triple_bind (applyManifest_triple distinct prepared covers fun _ => .inl) fun _ => ?_
  refine triple_bind ((persistEvent_triple prepared covers).weaken (fun _ applying => applying)
    (fun _ _ finishing => finishing) (fun _ clash => .inr clash)) fun _ => ?_
  refine triple_bind mark fun _ => ?_
  exact removeTree_finishing covers order

end

/-! ## What a return shows -/

section

variable {volume : Volume} {sha256 : Bytes → String} {before : PlanningDisk} {mutation : Mutation}
  {name : String} {manifest : Manifest} {order : ScanOrder}
  {tape done : Tape PlanningWrite PlanningDisk}

theorem isBelow_self (path : String) : isBelow path path = false := by
  rw [isBelow, Bool.eq_false_iff, Ne, isPrefixOf_iff_prefix]
  intro leads
  have longer := leads.length_le
  simp only [String.toList_append, length_append] at longer
  have slash : "/".toList.length = 1 := rfl
  omega

theorem inspect_returned {path : String} {there : Option Bytes}
    (returned : (inspect volume path).run tape = (.ok there, done)) :
    tape.store.reaches volume path = true ∧ there = tape.store.files.lookup path ∧ done = tape := by
  cases reached : tape.store.reaches volume path with
  | false =>
    rw [run_inspect_refused reached] at returned
    cases returned
  | true =>
    rw [run_inspect reached] at returned
    cases returned
    exact ⟨rfl, rfl, rfl⟩

theorem atomicWriteBytes_returned {path : String} {data : Bytes}
    (returned : (atomicWriteBytes volume path data).run tape = (.ok (), done)) :
    tape.store.fits volume path = true ∧
      done = tape.record PlanningDisk.apply (.writeTarget path data) := by
  cases fits : tape.store.fits volume path with
  | false =>
    rw [run_atomicWriteBytes_refused data fits] at returned
    cases returned
  | true =>
    rw [run_atomicWriteBytes data fits] at returned
    cases returned
    exact ⟨rfl, rfl⟩

/-- The intent can be applied to a disk. -/
def Ready (volume : Volume) (sha256 : Bytes → String) (now : PlanningDisk) (intent : WriteIntent) :
    Prop :=
  now.reaches volume intent.relativePath = true ∧
    ((∃ current, now.files.lookup intent.relativePath = some current ∧
        sha256 current = intent.sha256) ∨
      now.fits volume intent.relativePath = true)

/-- An intent that can be applied could be when there were fewer files. -/
theorem Ready.earlier {first second : PlanningDisk} {intent : WriteIntent}
    (ready : Ready volume sha256 second intent)
    (grown : ∀ path, first.files.lookup path ≠ none → second.files.lookup path ≠ none)
    (same : second.files.lookup intent.relativePath = first.files.lookup intent.relativePath) :
    Ready volume sha256 first intent := by
  obtain ⟨reached, there | fits⟩ := ready
  all_goals
    obtain ⟨visible, clear⟩ := reaches_iff.mp reached
    refine ⟨reaches_iff.mpr ⟨visible, fun other stored => clear other (grown other stored)⟩, ?_⟩
  · exact .inl (same ▸ there)
  · obtain ⟨accepted, free⟩ := fits_iff.mp fits
    exact .inr (fits_iff.mpr ⟨accepted, fun other stored => free other (grown other stored)⟩)

theorem applyWrite_returned {intent : WriteIntent}
    (returned : (applyWrite volume sha256 name intent).run tape = (.ok (), done)) :
    Ready volume sha256 tape.store intent ∧
      done.store.files.lookup intent.relativePath ≠ none ∧
      ∀ other, other ≠ intent.relativePath →
        done.store.files.lookup other = tape.store.files.lookup other := by
  unfold applyWrite at returned
  rw [run_disk_bind] at returned
  split at returned
  · cases returned
  next data _ =>
  obtain ⟨_, inspected⟩ := Script.refuse_bind_eq_ok.mp returned
  obtain ⟨there, middle, looked, rest⟩ := Script.bind_eq_ok.mp inspected
  obtain ⟨reached, rfl, rfl⟩ := inspect_returned looked
  have placed : (atomicWriteBytes volume intent.relativePath data).run middle = (.ok (), done) →
      Ready volume sha256 middle.store intent ∧
        done.store.files.lookup intent.relativePath ≠ none ∧
        ∀ other, other ≠ intent.relativePath →
          done.store.files.lookup other = middle.store.files.lookup other := by
    intro wrote
    obtain ⟨fits, rfl⟩ := atomicWriteBytes_returned wrote
    refine ⟨⟨reached, .inr fits⟩, ?_, fun other different => lookup_insert_ne different⟩
    change (middle.store.files.insert intent.relativePath data).lookup intent.relativePath ≠ none
    simp
  split at rest
  · exact placed rest
  next current held =>
  split at rest
  next same =>
    cases rest
    exact ⟨⟨reached, .inl ⟨current, held, same⟩⟩, by simp [held], fun _ _ => rfl⟩
  next =>
    split at rest
    · exact placed rest
    · cases rest

/-- **The writes of a manifest return** only when each can be made, and none is to lie below
another. -/
theorem applyWrites_returned {intents : List WriteIntent}
    (apart : (intents.map (·.relativePath)).Nodup)
    (returned : (Script.forEach (applyWrite volume sha256 name) intents).run tape =
      (.ok (), done)) :
    (∀ intent ∈ intents, Ready volume sha256 tape.store intent) ∧
      (∀ first ∈ intents, ∀ second ∈ intents,
        isBelow first.relativePath second.relativePath = false) ∧
      (∀ intent ∈ intents, done.store.files.lookup intent.relativePath ≠ none) ∧
      ∀ path, tape.store.files.lookup path ≠ none → done.store.files.lookup path ≠ none := by
  induction intents generalizing tape with
  | nil =>
    cases returned
    simp
  | cons first rest ih =>
    obtain ⟨_, middle, applied, others⟩ := Script.bind_eq_ok.mp returned
    obtain ⟨ready, stored, frame⟩ := applyWrite_returned applied
    obtain ⟨fresh, apart⟩ := nodup_cons.mp apart
    have different : ∀ intent ∈ rest, intent.relativePath ≠ first.relativePath :=
      fun intent member same => fresh (mem_map.mpr ⟨intent, member, same⟩)
    have grown : ∀ path, tape.store.files.lookup path ≠ none →
        middle.store.files.lookup path ≠ none := by
      intro path held
      by_cases same : path = first.relativePath
      · exact same ▸ stored
      · rwa [frame path same]
    obtain ⟨readies, separate, kept, grows⟩ := ih apart others
    have earlier : ∀ intent ∈ rest, Ready volume sha256 tape.store intent := fun intent member =>
      (readies intent member).earlier grown (frame _ (different intent member))
    have below : ∀ intent ∈ rest,
        isBelow first.relativePath intent.relativePath = false ∧
          isBelow intent.relativePath first.relativePath = false := by
      intro intent member
      obtain ⟨reached, way⟩ := readies intent member
      refine ⟨?_, (reaches_iff.mp reached).2 _ stored⟩
      rcases way with ⟨current, held, _⟩ | fits
      · refine (reaches_iff.mp ready.1).2 _ ?_
        rw [← frame _ (different intent member), held]
        exact Option.some_ne_none _
      · exact (fits_iff.mp fits).2 _ stored
    refine ⟨?_, ?_, ?_, fun path held => grows path (grown path held)⟩
    · intro intent member
      rcases mem_cons.mp member with rfl | later
      · exact ready
      · exact earlier intent later
    · intro intent member other member'
      rcases mem_cons.mp member with rfl | later
      · rcases mem_cons.mp member' with rfl | later'
        · exact isBelow_self _
        · exact (below other later').1
      · rcases mem_cons.mp member' with rfl | later'
        · exact (below intent later).2
        · exact separate intent later other later'
    · intro intent member
      rcases mem_cons.mp member with rfl | later
      · exact grows _ stored
      · exact kept intent later

theorem applyDelete_returned {intent : DeleteIntent}
    (returned : (applyDelete volume sha256 intent).run tape = (.ok (), done)) :
    tape.store.reaches volume intent.relativePath = true ∧
      ∀ other, other ≠ intent.relativePath →
        done.store.files.lookup other = tape.store.files.lookup other := by
  obtain ⟨there, middle, looked, rest⟩ := Script.bind_eq_ok.mp returned
  obtain ⟨reached, rfl, rfl⟩ := inspect_returned looked
  refine ⟨reached, ?_⟩
  split at rest
  · cases rest
    exact fun _ _ => rfl
  · obtain ⟨_, unlinked⟩ := Script.refuse_bind_eq_ok.mp rest
    cases unlinked
    exact fun other different => lookup_erase_ne different

theorem applyDeletes_returned {intents : List DeleteIntent} {other : String}
    (returned : (Script.forEach (applyDelete volume sha256) intents).run tape = (.ok (), done))
    (held : tape.store.files.lookup other ≠ none)
    (kept : ∀ intent ∈ intents, other ≠ intent.relativePath) :
    ∀ intent ∈ intents, isBelow intent.relativePath other = false := by
  induction intents generalizing tape with
  | nil => simp
  | cons first rest ih =>
    obtain ⟨_, middle, applied, others⟩ := Script.bind_eq_ok.mp returned
    obtain ⟨reached, frame⟩ := applyDelete_returned applied
    obtain ⟨here, later⟩ := forall_mem_cons.mp kept
    exact forall_mem_cons.mpr ⟨(reaches_iff.mp reached).2 other held,
      ih others (frame other here ▸ held) later⟩

/-- **A manifest that was rolled forward from the disk it was made on** is of a mutation whose
files can be put in place. -/
theorem placeable_of_rollForward (distinct : mutation.Distinct)
    (prepared : Prepared volume sha256 before mutation manifest)
    (untouched : tape.store.files = before.files)
    (returned : (rollForward volume sha256 order name manifest).run tape = (.ok (), done)) :
    Placeable volume sha256 before mutation := by
  obtain ⟨_, _, applied, _⟩ := Script.bind_eq_ok.mp returned
  obtain ⟨_, loops⟩ := Script.refuse_bind_eq_ok.mp applied
  obtain ⟨_, written, writesDone, deletesDone⟩ := Script.bind_eq_ok.mp loops
  obtain ⟨ready, separate, stored, _⟩ := applyWrites_returned prepared.apart writesDone
  constructor
  · rintro path named other ⟨data, wanted⟩
    obtain ⟨intent, member, rfl, _⟩ := prepared.written other data wanted
    rcases named with ⟨data', wanted'⟩ | deleted
    · obtain ⟨intent', member', rfl, _⟩ := prepared.written path data' wanted'
      exact separate intent' member' intent member
    · obtain ⟨intent', member', rfl⟩ := prepared.deleted path deleted
      refine applyDeletes_returned deletesDone (stored intent member) ?_ intent' member'
      intro gone listed same
      exact distinct.deletes _ data wanted (same ▸ (prepared.deletes gone listed).1)
  · intro path data wanted
    obtain ⟨intent, member, rfl, hash⟩ := prepared.written path data wanted
    obtain ⟨_, ⟨current, held, same⟩ | fits⟩ := ready intent member
    · exact .inl ⟨current, untouched ▸ held, same.trans hash⟩
    · refine .inr ?_
      rwa [PlanningDisk.fits, untouched] at fits

end

end Audiagentic.Planning
