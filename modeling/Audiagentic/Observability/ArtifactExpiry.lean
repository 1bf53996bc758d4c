import Audiagentic.Foundations.Runs
import Audiagentic.Foundations.Checks
import Mathlib.Data.Int.Order.Basic

/-!
# The expiry of observation artifacts

A captured value is written to a file under the digest of its bytes, and a row of the manifest
says until when it is kept.  Two captures of the same bytes share the file and have a row each.  A
purge looks at one row at a time: it removes the file of each row that has expired, and that row.

A run is a list of captures and purges, each with its own readings of the clock.
-/

namespace Audiagentic.Observability

open Foundations List

abbrev FileBytes := List UInt8

abbrev Digest := List UInt8

/-- What a capture calls: the projection to redacted JSON, the compression and the digest. -/
structure ArtifactHost (ν : Type) where
  encode : ν → FileBytes
  compress : FileBytes → FileBytes
  sha256 : FileBytes → Digest

structure ManifestRow where
  artifactId : Digest
  compressedBytes : ℕ
  decompressedBytes : ℕ
  expiresAtEpoch : ℤ
deriving DecidableEq

/-- The files, and the rows of `manifest.ndjson`. -/
structure ArtifactDir where
  files : Digest → Option FileBytes
  rows : List ManifestRow

namespace ArtifactDir

def empty : ArtifactDir := ⟨fun _ => none, []⟩

def HasExpired (dir : ArtifactDir) (now : ℤ) (artifactId : Digest) : Prop :=
  ∃ row ∈ dir.rows, row.artifactId = artifactId ∧ row.expiresAtEpoch ≤ now

instance (dir : ArtifactDir) (now : ℤ) (artifactId : Digest) :
    Decidable (dir.HasExpired now artifactId) :=
  inferInstanceAs (Decidable (∃ row ∈ dir.rows, _))

/-- `_purge_expired_observation_artifacts_locked`. -/
def purgeExpired (dir : ArtifactDir) (now : ℤ) : ArtifactDir where
  files artifactId := if dir.HasExpired now artifactId then none else dir.files artifactId
  rows := dir.rows.filter fun row => now < row.expiresAtEpoch

end ArtifactDir

def maxDomDecompressed : ℤ := 256 * 1024
def maxDomCompressed : ℤ := 64 * 1024

structure CaptureCall (ν : Type) where
  value : ν
  ttlSeconds : ℤ
  maxCompressedBytes : ℤ
  maxDecompressedBytes : ℤ
  purgedAt : ℤ
  writtenAt : ℤ

variable {ν : Type}

/-- `capture_redacted_artifact`: the row that it returns, and what it leaves. -/
def captureRedactedArtifact (host : ArtifactHost ν) (call : CaptureCall ν) (dir : ArtifactDir) :
    Except String (ManifestRow × ArtifactDir) := do
  let raw := host.encode call.value
  refuse (min call.maxDecompressedBytes maxDomDecompressed < raw.length)
    "observation artifact exceeds decompressed size cap"
  let compressed := host.compress raw
  refuse (min call.maxCompressedBytes maxDomCompressed < compressed.length)
    "observation artifact exceeds compressed size cap"
  let digest := host.sha256 compressed
  let purged := dir.purgeExpired call.purgedAt
  let metadata : ManifestRow :=
    { artifactId := digest
      compressedBytes := compressed.length
      decompressedBytes := raw.length
      expiresAtEpoch := call.writtenAt + min 86400 (max 1 call.ttlSeconds) }
  .ok (metadata,
    { files := fun artifactId =>
        if artifactId = digest then some ((purged.files digest).getD compressed)
        else purged.files artifactId
      rows := purged.rows ++ [metadata] })

inductive ArtifactAction (ν : Type) where
  | capture (call : CaptureCall ν)
  | purge (now : ℤ)
  /-- `purge_observation_artifacts`, which removes the directory. -/
  | purgeAll

def artifactStep (host : ArtifactHost ν) (dir : ArtifactDir) : ArtifactAction ν → ArtifactDir
  | .capture call =>
    match captureRedactedArtifact host call dir with
    | .ok (_, written) => written
    | .error _ => dir
  | .purge now => dir.purgeExpired now
  | .purgeAll => .empty

/-! ## Captures and purges -/

def CaptureCall.id (host : ArtifactHost ν) (call : CaptureCall ν) : Digest :=
  host.sha256 (host.compress (host.encode call.value))

/-- The value is within the caps. -/
def CaptureCall.Fits (host : ArtifactHost ν) (call : CaptureCall ν) : Prop :=
  (host.encode call.value).length ≤ min call.maxDecompressedBytes maxDomDecompressed ∧
    (host.compress (host.encode call.value)).length ≤ min call.maxCompressedBytes maxDomCompressed

/-- Where the value fits, its row is the last, and its file is there. -/
inductive Captured (host : ArtifactHost ν) (call : CaptureCall ν) (dir : ArtifactDir) :
    ArtifactDir → Prop
  | refused (large : ¬call.Fits host) : Captured host call dir dir
  | written {row : ManifestRow} {after : ArtifactDir} (fits : call.Fits host)
      (names : row.artifactId = call.id host)
      (rows : after.rows = (dir.purgeExpired call.purgedAt).rows ++ [row])
      (file : after.files (call.id host) = some
        (((dir.purgeExpired call.purgedAt).files (call.id host)).getD
          (host.compress (host.encode call.value))))
      (others : ∀ artifactId, artifactId ≠ call.id host →
        after.files artifactId = (dir.purgeExpired call.purgedAt).files artifactId) :
      Captured host call dir after

theorem captured (host : ArtifactHost ν) (call : CaptureCall ν) (dir : ArtifactDir) :
    Captured host call dir (artifactStep host dir (.capture call)) := by
  change Captured host call dir (match captureRedactedArtifact host call dir with
    | .ok (_, written) => written
    | .error _ => dir)
  split
  · rename_i returned
    obtain ⟨small, light, same⟩ : _ ∧ _ ∧ _ := by
      simpa only [captureRedactedArtifact, refuse_bind_eq_ok] using returned
    cases same
    exact .written ⟨not_lt.mp small, not_lt.mp light⟩ rfl rfl (if_pos rfl) fun _ other =>
      if_neg other
  · rename_i refused
    refine .refused fun fits => ?_
    simp only [captureRedactedArtifact, refuse_of_not (not_lt.mpr fits.1),
      refuse_of_not (not_lt.mpr fits.2)] at refused
    cases refused

theorem mem_rows_purgeExpired {dir : ArtifactDir} {now : ℤ} {row : ManifestRow} :
    row ∈ (dir.purgeExpired now).rows ↔ row ∈ dir.rows ∧ now < row.expiresAtEpoch := by
  rw [ArtifactDir.purgeExpired, mem_filter, decide_eq_true_iff]

theorem files_purgeExpired {dir : ArtifactDir} {now : ℤ} {artifactId : Digest}
    {bytes : FileBytes} : (dir.purgeExpired now).files artifactId = some bytes ↔
      ¬dir.HasExpired now artifactId ∧ dir.files artifactId = some bytes := by
  change (if dir.HasExpired now artifactId then none else dir.files artifactId) = some bytes ↔ _
  split <;> simp [*]

/-! ## What a directory keeps -/

/-- The file of a row that has not expired, by any reading of the clock, holds the bytes captured
under its name. -/
def ArtifactDir.Held (host : ArtifactHost ν) (dir : ArtifactDir) : Prop :=
  ∀ now, ∀ row ∈ dir.rows, now < row.expiresAtEpoch → ∀ bytes,
    host.sha256 bytes = row.artifactId → dir.files row.artifactId = some bytes

/-- A purge leaves neither a file nor a row of an artifact all of whose rows have expired. -/
def ArtifactDir.Cleared (dir : ArtifactDir) : Prop :=
  ∀ now artifactId,
    (∀ row ∈ dir.rows, row.artifactId = artifactId → row.expiresAtEpoch ≤ now) →
      (dir.purgeExpired now).files artifactId = none ∧
        ∀ row ∈ (dir.purgeExpired now).rows, row.artifactId ≠ artifactId

/-- A file holds what its name is the digest of, and has a row; a row names a digest. -/
structure ArtifactDir.Sound (host : ArtifactHost ν) (dir : ArtifactDir) : Prop where
  content : ∀ artifactId bytes, dir.files artifactId = some bytes → host.sha256 bytes = artifactId
  listed : ∀ artifactId bytes, dir.files artifactId = some bytes →
    ∃ row ∈ dir.rows, row.artifactId = artifactId
  digests : ∀ row ∈ dir.rows, ∃ bytes, host.sha256 bytes = row.artifactId

/-- No purge of the step finds one artifact with a row that has expired and one that has not.  The
artifact that is captured is written again. -/
def Unshared (host : ArtifactHost ν) (dir : ArtifactDir) : ArtifactAction ν → Prop
  | .capture call => call.Fits host → ∀ row ∈ dir.rows, call.purgedAt < row.expiresAtEpoch →
      row.artifactId ≠ call.id host → ¬dir.HasExpired call.purgedAt row.artifactId
  | .purge now => ∀ row ∈ dir.rows, now < row.expiresAtEpoch → ¬dir.HasExpired now row.artifactId
  | .purgeAll => True

namespace ArtifactDir

variable {host : ArtifactHost ν} {dir : ArtifactDir}

theorem sound_empty : (empty : ArtifactDir).Sound host :=
  ⟨fun _ _ none => (nomatch none), fun _ _ none => (nomatch none), fun _ none => (nomatch none)⟩

theorem Sound.purgeExpired (sound : dir.Sound host) (now : ℤ) :
    (dir.purgeExpired now).Sound host := by
  refine ⟨?_, ?_, fun row listed => sound.digests row (mem_rows_purgeExpired.mp listed).1⟩
  · exact fun id bytes held => sound.content id bytes (files_purgeExpired.mp held).2
  intro id bytes held
  obtain ⟨fresh, before⟩ := files_purgeExpired.mp held
  obtain ⟨row, listed, named⟩ := sound.listed id bytes before
  refine ⟨row, mem_rows_purgeExpired.mpr ⟨listed, ?_⟩, named⟩
  by_contra expired
  exact fresh ⟨row, listed, named, not_lt.mp expired⟩

theorem Sound.step (sound : dir.Sound host) (action : ArtifactAction ν) :
    (artifactStep host dir action).Sound host := by
  cases action with
  | purge now => exact sound.purgeExpired now
  | purgeAll => exact sound_empty
  | capture call =>
    have purged := sound.purgeExpired call.purgedAt
    have outcome := captured host call dir
    generalize artifactStep host dir (.capture call) = after at outcome ⊢
    cases outcome with
    | refused _ => exact sound
    | @written row after _ names rows file others =>
      refine ⟨?_, ?_, ?_⟩
      · intro id bytes held
        by_cases same : id = call.id host
        · subst same
          rw [file] at held
          cases before : (dir.purgeExpired call.purgedAt).files (call.id host) with
          | none =>
            rw [before] at held
            cases held
            rfl
          | some kept =>
            rw [before] at held
            cases held
            exact purged.content _ _ before
        · exact purged.content id bytes (others id same ▸ held)
      · intro id bytes held
        rw [rows]
        by_cases same : id = call.id host
        · exact ⟨row, mem_append_right _ (mem_singleton_self row), names.trans same.symm⟩
        · obtain ⟨other, listed, named⟩ := purged.listed id bytes (others id same ▸ held)
          exact ⟨other, mem_append_left _ listed, named⟩
      · intro other listed
        rw [rows, mem_append, mem_singleton] at listed
        rcases listed with before | rfl
        · exact purged.digests other before
        · exact ⟨_, names.symm⟩

theorem Sound.cleared (sound : dir.Sound host) : dir.Cleared := by
  intro now id expired
  constructor
  · cases held : (dir.purgeExpired now).files id with
    | none => rfl
    | some bytes =>
      obtain ⟨row, listed, named⟩ := (sound.purgeExpired now).listed id bytes held
      obtain ⟨before, fresh⟩ := mem_rows_purgeExpired.mp listed
      exact absurd fresh (not_lt.mpr (expired row before named))
  · intro row listed named
    obtain ⟨before, fresh⟩ := mem_rows_purgeExpired.mp listed
    exact absurd fresh (not_lt.mpr (expired row before named))

/-- A directory keeps its files exactly as long as each row has its file. -/
theorem held_iff (collisionFree : Function.Injective host.sha256) (sound : dir.Sound host) :
    dir.Held host ↔ ∀ row ∈ dir.rows, ∃ bytes, dir.files row.artifactId = some bytes := by
  constructor
  · intro held row listed
    obtain ⟨bytes, same⟩ := sound.digests row listed
    exact ⟨bytes, held (row.expiresAtEpoch - 1) row listed (by omega) bytes same⟩
  · intro present now row listed _ bytes same
    obtain ⟨kept, held⟩ := present row listed
    rw [held, collisionFree (same.trans (sound.content _ _ held).symm)]

end ArtifactDir

open ArtifactDir

section Steps

variable {host : ArtifactHost ν} (collisionFree : Function.Injective host.sha256)
  {dir : ArtifactDir} (sound : dir.Sound host) (held : dir.Held host)
include collisionFree sound held

/-- Of the rows that a purge leaves, those keep their file whose artifact has none that expired. -/
theorem present_purgeExpired {now : ℤ} {row : ManifestRow} (listed : row ∈ dir.rows) :
    (∃ bytes, (dir.purgeExpired now).files row.artifactId = some bytes) ↔
      ¬dir.HasExpired now row.artifactId := by
  obtain ⟨bytes, present⟩ := (held_iff collisionFree sound).mp held row listed
  constructor
  · exact fun ⟨_, kept⟩ => (files_purgeExpired.mp kept).1
  · exact fun fresh => ⟨bytes, files_purgeExpired.mpr ⟨fresh, present⟩⟩

/-- **A step keeps the files of the rows exactly when it is unshared.** -/
theorem held_step_iff (action : ArtifactAction ν) :
    (artifactStep host dir action).Held host ↔ Unshared host dir action := by
  have stepped := sound.step action
  cases action with
  | purgeAll => exact ⟨fun _ => trivial, fun _ _ _ impossible => nomatch impossible⟩
  | purge now =>
    rw [held_iff collisionFree stepped]
    constructor
    · intro present row listed fresh
      exact (present_purgeExpired collisionFree sound held listed).mp
        (present row (mem_rows_purgeExpired.mpr ⟨listed, fresh⟩))
    · intro unshared row listed
      obtain ⟨before, fresh⟩ := mem_rows_purgeExpired.mp listed
      exact (present_purgeExpired collisionFree sound held before).mpr (unshared row before fresh)
  | capture call =>
    have outcome := captured host call dir
    generalize artifactStep host dir (.capture call) = after at outcome stepped ⊢
    cases outcome with
    | refused large => exact ⟨fun _ fits => absurd fits large, fun _ => held⟩
    | @written row _ fits names rows file others =>
      rw [held_iff collisionFree stepped, rows]
      constructor
      · intro present _ other listed fresh different
        have kept := present other
          (mem_append_left _ (mem_rows_purgeExpired.mpr ⟨listed, fresh⟩))
        rw [others _ different] at kept
        exact (present_purgeExpired collisionFree sound held listed).mp kept
      · intro unshared other listed
        by_cases same : other.artifactId = call.id host
        · exact ⟨_, same ▸ file⟩
        rw [others _ same]
        rcases mem_append.mp listed with kept | last
        · obtain ⟨before, fresh⟩ := mem_rows_purgeExpired.mp kept
          exact (present_purgeExpired collisionFree sound held before).mpr
            (unshared fits other before fresh same)
        · exact absurd (mem_singleton.mp last ▸ names) same

end Steps

/-- **The life of artifacts, exactly.**  In a run from the empty directory the artifacts live until
their last expiry, and no longer, exactly when no purge finds one artifact with a row that has
expired and one that has not. -/
theorem lives_iff (host : ArtifactHost ν) (collisionFree : Function.Injective host.sha256)
    (actions : List (ArtifactAction ν)) :
    (∀ first later, actions = first ++ later →
      (exec (artifactStep host) .empty first).Held host ∧
        (exec (artifactStep host) .empty first).Cleared) ↔
      Admissible (artifactStep host) (Unshared host) .empty actions := by
  have sounds : ∀ dir : ArtifactDir, ∀ action, dir.Sound host →
      (artifactStep host dir action).Sound host := fun _ action sound => sound.step action
  rw [← admissible_iff_forall_prefix sounds
    (fun dir action sound held => held_step_iff collisionFree sound held action) sound_empty
    (fun _ _ impossible => nomatch impossible) actions]
  refine forall_congr' fun first => forall_congr' fun later => imp_congr_right fun _ => ?_
  exact and_iff_left (exec_invariant sounds sound_empty first).cleared

/-- **No file outlives its rows.**  In every run, whatever is captured again and when, a file holds
what its name is the digest of, has a row, and goes with its last one. -/
theorem files_follow_rows (host : ArtifactHost ν) (actions : List (ArtifactAction ν)) :
    (exec (artifactStep host) .empty actions).Sound host ∧
      (exec (artifactStep host) .empty actions).Cleared := by
  have sound : (exec (artifactStep host) .empty actions).Sound host :=
    exec_invariant (fun _ action holds => holds.step action) sound_empty actions
  exact ⟨sound, sound.cleared⟩

def byteHost : ArtifactHost UInt8 := ⟨fun value => [value], id, id⟩

def captureFor (ttlSeconds now : ℤ) : ArtifactAction UInt8 :=
  .capture ⟨7, ttlSeconds, 100, 100, now, now⟩

theorem captured_value_lives :
    (exec (artifactStep byteHost) .empty [captureFor 10 0]).Held byteHost ∧
      (exec (artifactStep byteHost) .empty [captureFor 10 0, .purge 20]).Cleared := by
  have lives := (lives_iff byteHost Function.injective_id [captureFor 10 0, .purge 20]).mpr
    ⟨fun _ _ impossible => (nomatch impossible), fun row listed fresh => ?_, trivial⟩
  · exact ⟨(lives [_] [_] rfl).1, (lives _ [] rfl).2⟩
  · rw [mem_singleton.mp listed] at fresh
    exact absurd fresh (by decide)

/-- The value is captured for ten seconds and then for a hundred; the purge between the two
expiries removes the file. -/
theorem recaptured_value_is_lost : ¬∀ first later,
    [captureFor 10 0, captureFor 100 5, .purge 20] = first ++ later →
      (exec (artifactStep byteHost) .empty first).Held byteHost ∧
        (exec (artifactStep byteHost) .empty first).Cleared := by
  intro lives
  have held := (lives _ [] (append_nil _).symm).1 20 ⟨[7], 1, 1, 105⟩ (by decide) (by decide)
    [7] rfl
  revert held
  decide

end Audiagentic.Observability
