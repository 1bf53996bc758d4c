import Audiagentic.Planning.RollForward

/-!
# Crashes of a planning transaction

A crash may leave `commit_mutation` after any of its file-system operations, also in the midst
of the removal of the transaction directory, whose files go in no particular order.  The next
`reconcile_pending_mutations` completes a transaction whose manifest is there, and drops what
was staged for one without a manifest.

It does not look at the phase of the manifest.  A crash in the removal that took a payload and
left the manifest makes every later reconciliation raise, although everything is in place.
-/

namespace Audiagentic.Planning

open Foundations List Script Function Dict AList

/-! ## What is to be shown -/

section

variable (volume : Volume) (sha256 : Bytes → String)

def stagingName (txId : String) : String := ".staging-" ++ txId

structure SameContents (first second : PlanningDisk) : Prop where
  files : ∀ path, first.files.lookup path = second.files.lookup path
  outbox : ∀ eventId, first.outbox.lookup eventId = second.outbox.lookup eventId

/-- The manifest of a transaction was written. -/
def Durable (name : String) (writes : List PlanningWrite) : Prop :=
  ∃ manifest, .writeManifest name manifest ∈ writes

/-- **Recovery from a crash** that let `made` operations of the call through.  The next
reconciliation returns, the planning files and the outbox are as after the completed call, which
returns, when the manifest was durable and as before it otherwise, no transaction directory is
left, and another reconciliation does nothing. -/
def Recovers (order later : ScanOrder) (before : PlanningDisk) (txId : String)
    (mutation : Mutation) (made : Nat) : Prop :=
  let call := commitMutation volume sha256 order txId mutation
  let completed := call.run ⟨[], before⟩
  ∃ count recovered, (reconcilePendingMutations volume sha256 later).run
      ⟨[], call.crash PlanningDisk.apply before made⟩ = (.ok count, recovered) ∧
    recovered.store.txns = ∅ ∧
    (reconcilePendingMutations volume sha256 later).run ⟨[], recovered.store⟩ =
      (.ok 0, ⟨[], recovered.store⟩) ∧
    (Durable (stagingName txId) (completed.2.writes.take made) →
      completed.1 = .ok txId ∧ SameContents recovered.store completed.2.store ∧
        ∀ event, mutation.planningEvent = some event →
          recovered.store.outbox.lookup event.eventId = some event.record) ∧
    (¬ Durable (stagingName txId) (completed.2.writes.take made) →
      SameContents recovered.store before)

/-- A disk on which every transaction directory with a manifest has the payloads of its writes,
and the outbox holds nothing else under the id of its event. -/
def Recoverable (now : PlanningDisk) : Prop :=
  ∀ name dir manifest, now.txns.lookup name = some dir → dir.manifest = some manifest →
    (∀ intent ∈ manifest.writes, dir.payloads.lookup intent.payload ≠ none) ∧
      ∀ event existing, manifest.planningEvent = some event →
        now.outbox.lookup event.eventId = some existing → existing = event.record

end

variable {volume : Volume} {sha256 : Bytes → String} {before : PlanningDisk} {mutation : Mutation}
  {name : String} {manifest : Manifest}

/-! ## Staging -/

/-- A disk that has nothing of the mutation but a directory without a manifest. -/
structure Early (before : PlanningDisk) (name : String) (now : PlanningDisk) : Prop where
  files : now.files = before.files
  outbox : now.outbox = before.outbox
  only : ∀ other, other ≠ name → now.txns.lookup other = none
  unmarked : ∀ dir, now.txns.lookup name = some dir → dir.manifest = none

def Crashed (volume : Volume) (sha256 : Bytes → String) (before : PlanningDisk)
    (mutation : Mutation)
    (name : String) (tape : Tape PlanningWrite PlanningDisk) : Prop :=
  (¬ Durable name tape.writes ∧ Early before name tape.store) ∨
    (Durable name tape.writes ∧ ∃ manifest, Prepared volume sha256 before mutation manifest ∧
      Late sha256 before mutation name manifest tape.store)

variable {tape : Tape PlanningWrite PlanningDisk}

theorem durable_record {entry : PlanningWrite} (durable : Durable name tape.writes) :
    Durable name (tape.record PlanningDisk.apply entry).writes := by
  obtain ⟨manifest, member⟩ := durable
  exact ⟨manifest, mem_append_left _ member⟩

theorem not_durable_record {entry : PlanningWrite} (fresh : ¬ Durable name tape.writes)
    (other : ∀ manifest, entry ≠ .writeManifest name manifest) :
    ¬ Durable name (tape.record PlanningDisk.apply entry).writes := by
  rintro ⟨manifest, member⟩
  rcases mem_append.mp member with old | new
  · exact fresh ⟨manifest, old⟩
  · exact other manifest (mem_singleton.mp new).symm

structure Staging (before : PlanningDisk) (name : String) (dir : TransactionDir)
    (tape : Tape PlanningWrite PlanningDisk) : Prop where
  fresh : ¬ Durable name tape.writes
  early : Early before name tape.store
  here : tape.store.txns.lookup name = some dir

variable {dir : TransactionDir}

theorem Staging.crashed (staging : Staging before name dir tape) :
    Crashed volume sha256 before mutation name tape :=
  .inl ⟨staging.fresh, staging.early⟩

theorem Staging.payload (staging : Staging before name dir tape) (number : Nat) (data : Bytes) :
    Staging before name { dir with payloads := dir.payloads.insert number data }
      (tape.record PlanningDisk.apply (.writePayload name number data)) := by
  have store : (tape.record PlanningDisk.apply (.writePayload name number data)).store =
      tape.store.changeDir name
        (fun dir => { dir with payloads := dir.payloads.insert number data }) := rfl
  refine ⟨not_durable_record staging.fresh (by simp), ⟨?_, ?_, ?_, ?_⟩, ?_⟩
  · rw [store, changeDir_files]
    exact staging.early.files
  · rw [store, changeDir_outbox]
    exact staging.early.outbox
  · intro other different
    rw [store, changeDir_lookup, if_neg different]
    exact staging.early.only other different
  · intro found here
    rw [store, changeDir_lookup, if_pos rfl, staging.here] at here
    cases here
    exact staging.early.unmarked dir staging.here
  · rw [store, changeDir_lookup, if_pos rfl, staging.here]
    rfl

structure Staged (volume : Volume) (sha256 : Bytes → String) (before : PlanningDisk)
    (dir : TransactionDir)
    (writes : List (Option String × Bytes)) (intents : List WriteIntent) : Prop where
  paths : intents.map (·.relativePath) = writes.filterMap (·.1)
  right : ∀ intent ∈ intents,
    intent.previousSha256 = (before.files.lookup intent.relativePath).map sha256 ∧
      before.reaches volume intent.relativePath = true ∧
      ∃ data, (some intent.relativePath, data) ∈ writes ∧ intent.sha256 = sha256 data ∧
        dir.payloads.lookup intent.payload = some data
  covered : ∀ path data, (some path, data) ∈ writes →
    ∃ intent ∈ intents, intent.relativePath = path ∧ intent.sha256 = sha256 data

/-- What is raised before the manifest is written, for a file that cannot be put in place, or
for an event id that is taken. -/
def Refused (volume : Volume) (sha256 : Bytes → String) (before : PlanningDisk)
    (mutation : Mutation) (name : String) (tape : Tape PlanningWrite PlanningDisk) : Prop :=
  ¬ Durable name tape.writes ∨ ¬ Placeable volume sha256 before mutation ∨
    Clash mutation before.outbox

/-- Contents are being staged, and the payloads below a number are known. -/
def StagingWith (before : PlanningDisk) (name : String) (number : Nat)
    (kept : Nat → Option Bytes) (tape : Tape PlanningWrite PlanningDisk) : Prop :=
  ∃ dir, Staging before name dir tape ∧
    ∀ other, other < number → dir.payloads.lookup other = kept other

def StagedWith (volume : Volume) (sha256 : Bytes → String) (before : PlanningDisk) (name : String)
    (number : Nat)
    (kept : Nat → Option Bytes) (writes : List (Option String × Bytes))
    (intents : List WriteIntent) (tape : Tape PlanningWrite PlanningDisk) : Prop :=
  ∃ dir, Staging before name dir tape ∧
    (∀ other, other < number → dir.payloads.lookup other = kept other) ∧
    Staged volume sha256 before dir writes intents

theorem resolved_some_bind {β : Type} (path : String) (next : String → PlanningScript β) :
    (resolved (some path) >>= next) = next path := rfl

theorem triple_inspect_bind {β : Type} {path : String}
    {Crash Before Raised : Tape PlanningWrite PlanningDisk → Prop}
    {next : Option Bytes → PlanningScript β} {After : β → Tape PlanningWrite PlanningDisk → Prop}
    (refused : ∀ tape, Before tape → Crash tape ∧ Raised tape)
    (files : ∀ tape, Before tape → tape.store.files = before.files)
    (rest : before.reaches volume path = true → Script.Triple PlanningDisk.apply Crash Before
      (next (before.files.lookup path)) After Raised) :
    Script.Triple PlanningDisk.apply Crash Before (inspect volume path >>= next) After Raised := by
  intro tape holds
  cases reached : tape.store.reaches volume path with
  | false =>
    rw [run_bind_of_error (run_inspect_refused reached)]
    obtain ⟨crash, raised⟩ := refused tape holds
    exact ⟨.refl crash, raised⟩
  | true =>
    rw [run_bind_of_ok (run_inspect reached), files tape holds]
    rw [PlanningDisk.reaches, files tape holds] at reached
    exact rest reached tape holds

theorem writePayload_triple (number : Nat) (kept : Nat → Option Bytes) (data : Bytes) :
    Script.Triple PlanningDisk.apply (Crashed volume sha256 before mutation name)
      (StagingWith before name number kept) (perform (.writePayload name number data))
      (fun _ => StagingWith before name (number + 1) (Function.update kept number (some data)))
      (Refused volume sha256 before mutation name) := by
  refine triple_put _ ?_
  rintro tape ⟨dir, staging, same⟩
  refine ⟨staging.crashed, (staging.payload number data).crashed, _,
    staging.payload number data, fun other below => ?_⟩
  rw [lookup_insert_eq, update_apply]
  split
  · rfl
  · next different => exact same other (by omega)

theorem stageWrites_triple (writes : List (Option String × Bytes)) (number : Nat)
    (kept : Nat → Option Bytes) :
    Script.Triple PlanningDisk.apply (Crashed volume sha256 before mutation name)
      (StagingWith before name number kept) (stageWrites volume sha256 name number writes)
      (StagedWith volume sha256 before name number kept writes)
      (Refused volume sha256 before mutation name) := by
  induction writes generalizing number kept with
  | nil =>
    refine triple_pure [] ?_
    rintro tape ⟨dir, staging, same⟩
    exact ⟨staging.crashed, dir, staging, same, by constructor <;> simp⟩
  | cons write writes ih =>
    obtain ⟨path, data⟩ := write
    refine triple_bind (writePayload_triple number kept data) fun _ => ?_
    cases path with
    | none =>
      rintro tape ⟨dir, staging, _⟩
      exact ⟨.refl staging.crashed, .inl staging.fresh⟩
    | some path =>
      rw [resolved_some_bind]
      have same : ∀ tape,
        StagingWith before name (number + 1) (update kept number (some data)) tape →
          tape.store.files = before.files := by
        rintro tape ⟨dir, staging, _⟩
        exact staging.early.files
      refine triple_inspect_bind ?_ same fun reached => ?_
      · rintro tape ⟨dir, staging, _⟩
        exact ⟨staging.crashed, .inl staging.fresh⟩
      refine triple_bind (ih (number + 1) _) fun intents => triple_pure _ ?_
      rintro tape ⟨dir, staging, same, paths, right, covered⟩
      refine ⟨staging.crashed, dir, staging, ?_, congrArg (path :: ·) paths, ?_, ?_⟩
      · intro other below
        rw [same other (by omega), update_of_ne (by omega)]
      · intro intent member
        rcases mem_cons.mp member with rfl | later
        · refine ⟨rfl, reached, data, mem_cons_self, rfl, ?_⟩
          rw [same number (by omega), update_self]
        · obtain ⟨previous, reached', data', here, rest⟩ := right intent later
          exact ⟨previous, reached', data', mem_cons_of_mem _ here, rest⟩
      · intro other data' member
        rcases mem_cons.mp member with same | later
        · cases same
          exact ⟨_, mem_cons_self, rfl, rfl⟩
        · obtain ⟨intent, here, named⟩ := covered other data' later
          exact ⟨intent, mem_cons_of_mem _ here, named⟩

theorem stageDeletes_triple {Inv : Tape PlanningWrite PlanningDisk → Prop}
    (crash : ∀ tape, Inv tape → Crashed volume sha256 before mutation name tape)
    (fresh : ∀ tape, Inv tape → ¬ Durable name tape.writes)
    (files : ∀ tape, Inv tape → tape.store.files = before.files) (deletes : List (Option String)) :
    Script.Triple PlanningDisk.apply (Crashed volume sha256 before mutation name) Inv
      (stageDeletes volume sha256 deletes)
      (fun intents tape => Inv tape ∧
        (∀ intent ∈ intents, some intent.relativePath ∈ deletes ∧
          intent.sha256 = (before.files.lookup intent.relativePath).map sha256 ∧
          before.reaches volume intent.relativePath = true) ∧
        ∀ path, some path ∈ deletes → ∃ intent ∈ intents, intent.relativePath = path)
      (Refused volume sha256 before mutation name) := by
  induction deletes with
  | nil =>
    refine triple_pure [] fun tape inv => ⟨crash tape inv, inv, ?_, ?_⟩
    · simp
    · simp
  | cons path deletes ih =>
    cases path with
    | none =>
      intro tape inv
      exact ⟨.refl (crash tape inv), .inl (fresh tape inv)⟩
    | some path =>
      change Script.Triple _ _ _ (resolved (some path) >>= _) _ _
      rw [resolved_some_bind]
      refine triple_inspect_bind (fun tape inv => ⟨crash tape inv, .inl (fresh tape inv)⟩) files
        fun reached => ?_
      refine triple_bind ih fun intents => triple_pure _ ?_
      rintro tape' ⟨inv', right, covered⟩
      refine ⟨crash tape' inv', inv', ?_, ?_⟩
      · intro intent member
        rcases mem_cons.mp member with rfl | later
        · exact ⟨mem_cons_self, rfl, reached⟩
        · exact ⟨mem_cons_of_mem _ (right intent later).1, (right intent later).2⟩
      · intro other member
        rcases mem_cons.mp member with same | later
        · cases same
          exact ⟨_, mem_cons_self, rfl⟩
        · obtain ⟨intent, here, named⟩ := covered other later
          exact ⟨intent, mem_cons_of_mem _ here, named⟩

/-! ## The call -/

theorem reconcile_run_of_clean (order : ScanOrder) (clean : tape.store.txns = ∅) :
    (reconcilePendingMutations volume sha256 order).run tape = (.ok 0, tape) := by
  unfold reconcilePendingMutations
  rw [run_disk_bind, clean]
  rfl

theorem durable_covers (prepared : Prepared volume sha256 before mutation manifest) :
    Covers sha256 before mutation name manifest (Crashed volume sha256 before mutation name)
      (fun tape => Durable name tape.writes) where
  kept _ _ durable := durable_record durable
  enough _ durable late := .inr ⟨durable, manifest, prepared, late⟩

/-- What was staged makes a prepared manifest, and a late disk once it is written. -/
theorem StagedWith.prepared (txId operation : String) {number : Nat} {kept : Nat → Option Bytes}
    {writes : List WriteIntent} {deletes : List DeleteIntent} (distinct : mutation.Distinct)
    (staged : StagedWith volume sha256 before name number kept mutation.writes writes tape)
    (right : ∀ intent ∈ deletes, some intent.relativePath ∈ mutation.deletes ∧
      intent.sha256 = (before.files.lookup intent.relativePath).map sha256 ∧
      before.reaches volume intent.relativePath = true)
    (covered : ∀ path, some path ∈ mutation.deletes →
      ∃ intent ∈ deletes, intent.relativePath = path) : let manifest : Manifest :=
      ⟨1, txId, operation, .prepared, writes, deletes, mutation.planningEvent⟩
    Prepared volume sha256 before mutation manifest ∧
      Applying sha256 before mutation name manifest (fun tape => Durable name tape.writes)
        before.outbox (fun _ => False)
        (tape.record PlanningDisk.apply (.writeManifest name manifest)) := by
  intro manifest
  obtain ⟨dir, staging, _, stocked⟩ := staged
  have prepared : Prepared volume sha256 before mutation manifest :=
    ⟨rfl, rfl, fun intent member => (stocked.right intent member).1, stocked.covered,
      fun intent member => ⟨(right intent member).1, (right intent member).2.1⟩, covered,
      stocked.paths ▸ distinct.writes, fun intent member => (stocked.right intent member).2.1,
      fun intent member => (right intent member).2.2⟩
  have store : (tape.record PlanningDisk.apply (.writeManifest name manifest)).store =
      tape.store.changeDir name (fun dir => { dir with manifest := some manifest }) := rfl
  have here : (tape.record PlanningDisk.apply (.writeManifest name manifest)).store.txns.lookup
      name = some { dir with manifest := some manifest } := by
    rw [store, changeDir_lookup, if_pos rfl, staging.here]
    rfl
  have full : Full name manifest
      (tape.record PlanningDisk.apply (.writeManifest name manifest)).store := by
    refine ⟨_, here, by simp, ?_⟩
    intro intent member
    obtain ⟨_, _, data, _, _, payload⟩ := stocked.right intent member
    simp [payload]
  have outbox : (tape.record PlanningDisk.apply (.writeManifest name manifest)).store.outbox =
      before.outbox := by
    rw [store, changeDir_outbox]
    exact staging.early.outbox
  refine ⟨prepared, ⟨manifest, mem_append_right _ (mem_singleton.mpr rfl)⟩, ?_, full,
    outbox, fun _ impossible => impossible.elim⟩
  refine ⟨?_, ?_, ?_, ?_, .inl outbox, .inl full⟩
  · intro other different
    rw [store, changeDir_lookup, if_neg different]
    exact staging.early.only other different
  · intro dir' found there marked
    cases Option.some.inj (here.symm.trans there)
    cases marked
    rfl
  · intro dir' there intent member data payload
    cases Option.some.inj (here.symm.trans there)
    obtain ⟨_, _, data', wanted, hash, payload'⟩ := stocked.right intent member
    cases Option.some.inj (payload'.symm.trans payload)
    exact ⟨wanted, hash⟩
  · intro path
    left
    rw [store, changeDir_files, staging.early.files]

/-- **The call**: it completes, or raises without a durable manifest, for a file that cannot be
put in place or for a taken event id, and a crash of it is `Crashed`. -/
theorem commitMutation_triple (distinct : mutation.Distinct) (clean : before.txns = ∅)
    (order : ScanOrder) (txId : String) :
    Script.Triple PlanningDisk.apply (Crashed volume sha256 before mutation (stagingName txId))
      (fun tape => tape = ⟨[], before⟩) (commitMutation volume sha256 order txId mutation)
      (fun result tape => (result = txId ∧ Done sha256 before mutation tape) ∧
        Placeable volume sha256 before mutation)
      (Refused volume sha256 before mutation (stagingName txId)) := by
  have nowhere : ∀ other, before.txns.lookup other = none := eq_empty_iff.mp clean
  have early : Early before (stagingName txId) before := by
    refine ⟨rfl, rfl, fun other _ => nowhere other, ?_⟩
    intro dir here
    rw [nowhere] at here
    cases here
  have fresh : ¬ Durable (stagingName txId) [] := by
    rintro ⟨_, member⟩
    cases member
  -- The journal is clean, so the call begins with the directory.
  have start : Script.Triple PlanningDisk.apply
    (Crashed volume sha256 before mutation (stagingName txId))
      (fun tape => tape = ⟨[], before⟩) (reconcilePendingMutations volume sha256 order)
      (fun _ tape => tape = ⟨[], before⟩)
      (Refused volume sha256 before mutation (stagingName txId)) := by
    rintro tape rfl
    rw [reconcile_run_of_clean order clean]
    exact ⟨.refl (.inl ⟨fresh, early⟩), rfl⟩
  have make : Script.Triple PlanningDisk.apply
    (Crashed volume sha256 before mutation (stagingName txId))
      (fun tape => tape = ⟨[], before⟩) (perform (.makeDir (stagingName txId)))
      (fun _ => StagingWith before (stagingName txId) 0 (fun _ => none))
      (Refused volume sha256 before mutation (stagingName txId)) := by
    refine triple_put _ ?_
    rintro tape rfl
    have staging : Staging before (stagingName txId) ⟨none, ∅⟩
        (Tape.record PlanningDisk.apply ⟨[], before⟩ (.makeDir (stagingName txId))) := by
      refine ⟨not_durable_record fresh (by simp), ⟨rfl, rfl, ?_, ?_⟩, lookup_insert _⟩
      · intro other different
        exact (lookup_insert_ne different).trans (nowhere other)
      · intro dir here
        cases Option.some.inj ((lookup_insert _).symm.trans here)
        rfl
    exact ⟨.inl ⟨fresh, early⟩, staging.crashed, _, staging, by simp⟩
  unfold commitMutation
  refine triple_bind start fun _ => ?_
  refine triple_bind make fun _ => ?_
  refine triple_bind (stageWrites_triple mutation.writes 0 _) fun writes => ?_
  refine triple_bind (stageDeletes_triple ?_ ?_ ?_ mutation.deletes) fun deletes => ?_
  · rintro tape ⟨dir, staging, _⟩
    exact staging.crashed
  · rintro tape ⟨dir, staging, _⟩
    exact staging.fresh
  · rintro tape ⟨dir, staging, _⟩
    exact staging.early.files
  · refine triple_of_fact (Prepared volume sha256 before mutation
      ⟨1, txId, mutation.operation, .prepared, writes, deletes, mutation.planningEvent⟩) ?_
      fun prepared => ?_
    · rintro tape ⟨staged, right, covered⟩
      exact (staged.prepared txId mutation.operation distinct right covered).1
    have roll : Script.Triple PlanningDisk.apply
        (Crashed volume sha256 before mutation (stagingName txId)) _
        (rollForward volume sha256 order (stagingName txId)
          ⟨1, txId, mutation.operation, .prepared, writes,
          deletes, mutation.planningEvent⟩ >>= fun _ => pure txId)
        (fun result tape => (result = txId ∧ Done sha256 before mutation tape) ∧
          Placeable volume sha256 before mutation)
        (Refused volume sha256 before mutation (stagingName txId)) :=
      triple_bind_pure (((rollForward_triple distinct prepared (durable_covers prepared)
        order).weaken (fun _ (applying : _ ∧ _) => applying.1) (fun _ _ done => done)
        (fun _ raised => .inr raised)).returned fun _ _ _ applying rolled =>
          placeable_of_rollForward distinct prepared applying.2 rolled)
        fun _ _ done => ⟨⟨rfl, done.1⟩, done.2⟩
    refine triple_bind (triple_put _ ?_) fun _ => roll
    rintro tape ⟨staged, right, covered⟩
    have applying := (staged.prepared txId mutation.operation distinct right covered).2
    obtain ⟨dir, staging, _⟩ := staged
    refine ⟨staging.crashed, applying.crash (durable_covers prepared), applying, ?_⟩
    exact (changeDir_files ..).trans staging.early.files

/-! ## The next reconciliation -/

variable {now : PlanningDisk}

theorem keys_eq_of_only (only : ∀ other, other ≠ name → now.txns.lookup other = none)
    (here : now.txns.lookup name = some dir) : now.txns.keys = [name] := by
  have member : name ∈ now.txns.keys := by
    rw [← AList.mem_keys, ← lookup_isSome, here]
    rfl
  have all : ∀ other ∈ now.txns.keys, other = name := by
    intro other there
    by_contra different
    have absent := lookup_eq_none.mp (only other different)
    exact absent (AList.mem_keys.mpr there)
  have distinct := now.txns.keys_nodup
  rcases keys : now.txns.keys with _ | ⟨first, _ | ⟨second, rest⟩⟩
  · simp [keys] at member
  · rw [all first (by simp [keys])]
  · rw [keys] at distinct
    have same : first = second :=
      (all first (by simp [keys])).trans (all second (by simp [keys])).symm
    exact absurd (same ▸ mem_cons_self) (nodup_cons.mp distinct).1

theorem isStagingName_stagingName (txId : String) : isStagingName (stagingName txId) = true := by
  simp [isStagingName, stagingName]

theorem reconcile_run_single (order : ScanOrder)
    (only : ∀ other, other ≠ name → tape.store.txns.lookup other = none)
    (here : tape.store.txns.lookup name = some dir) :
    (reconcilePendingMutations volume sha256 order).run tape =
      (reconcileDirs volume sha256 order [name]).run tape := by
  unfold reconcilePendingMutations
  rw [run_disk_bind, keys_eq_of_only only here]
  rfl

variable {order : ScanOrder} {done : Tape PlanningWrite PlanningDisk}

/-- A directory without a manifest is removed, for a condition that this keeps. -/
theorem reconcileDir_unmarked (here : tape.store.txns.lookup name = some dir)
    (unmarked : dir.manifest = none) (staging : isStagingName name = true)
    (removed : (removeTree order name).run tape = (.ok (), done)) :
    (reconcileDirs volume sha256 order [name]).run tape = (.ok 0, done) := by
  have round : (reconcileDir volume sha256 order name).run tape = (.ok false, done) := by
    unfold reconcileDir
    have absent : (tape.store.txns.lookup name).bind (·.manifest) = none := by
      rw [here]
      exact unmarked
    rw [run_disk_bind, absent]
    simp only [staging, if_true]
    rw [run_bind_of_ok removed]
    rfl
  unfold reconcileDirs
  rw [run_bind_of_ok round]
  rfl

theorem run_of_triple {α : Type} {script : PlanningScript α}
    {Crash Before : Tape PlanningWrite PlanningDisk → Prop}
    {After : α → Tape PlanningWrite PlanningDisk → Prop} {raised : Prop}
    (triple : Script.Triple PlanningDisk.apply Crash Before script After (fun _ => raised))
    (tape : Tape PlanningWrite PlanningDisk) (before : Before tape) (quiet : ¬ raised) :
    ∃ value done, script.run tape = (.ok value, done) ∧ After value done := by
  obtain ⟨_, outcome⟩ := triple tape before
  rcases ended : script.run tape with ⟨failure | value, done⟩
  · rw [ended] at outcome
    exact absurd outcome quiet
  · rw [ended] at outcome
    exact ⟨value, done, rfl, outcome⟩

theorem reconcile_early (order : ScanOrder) (early : Early before name now)
    (staging : isStagingName name = true) :
    ∃ count recovered, (reconcilePendingMutations volume sha256 order).run ⟨[], now⟩ =
        (.ok count, recovered) ∧ recovered.store.txns = ∅ ∧
      recovered.store.files = before.files ∧ recovered.store.outbox = before.outbox := by
  cases here : now.txns.lookup name with
  | none =>
    have clean : now.txns = ∅ := by
      rw [eq_empty_iff]
      intro other
      by_cases same : other = name
      · rw [same, here]
      · exact early.only other same
    exact ⟨0, ⟨[], now⟩, reconcile_run_of_clean order clean, clean, early.files, early.outbox⟩
  | some dir =>
    have removal : Script.Triple PlanningDisk.apply (fun _ => True)
        (fun tape => Early before name tape.store) (removeTree order name)
        (fun _ tape => tape.store.txns = ∅ ∧ tape.store.files = before.files ∧
          tape.store.outbox = before.outbox) (fun _ => False) := by
      refine removeTree_triple (fun tape => Early before name tape.store)
        (fun tape => tape.store.txns = ∅ ∧ tape.store.files = before.files ∧
          tape.store.outbox = before.outbox) (fun _ _ => trivial) ?_ ?_
      · intro tape entry early
        have store : (tape.record PlanningDisk.apply (.unlinkEntry name entry)).store =
            tape.store.changeDir name (·.without entry) := rfl
        refine ⟨?_, ?_, ?_, ?_⟩
        · rw [store, changeDir_files]
          exact early.files
        · rw [store, changeDir_outbox]
          exact early.outbox
        · intro other different
          rw [store, changeDir_lookup, if_neg different]
          exact early.only other different
        · intro dir there
          rw [store, changeDir_lookup, if_pos rfl, Option.map_eq_some_iff] at there
          obtain ⟨old, found, rfl⟩ := there
          cases marked : (old.without entry).manifest with
          | none => rfl
          | some manifest =>
            have impossible := (without_manifest marked).symm.trans (early.unmarked old found)
            cases impossible
      · intro tape early
        refine ⟨trivial, ?_, early.files, early.outbox⟩
        change tape.store.txns.erase name = ∅
        rw [eq_empty_iff]
        intro other
        rw [lookup_erase_eq]
        split
        · rfl
        · next different => exact early.only other different
    obtain ⟨_, done, removed, contents⟩ := run_of_triple removal ⟨[], now⟩ early id
    exact ⟨0, done, (reconcile_run_single order early.only here).trans
      (reconcileDir_unmarked here (early.unmarked dir here) staging removed), contents⟩

theorem Prepared.phase (prepared : Prepared volume sha256 before mutation manifest)
    (phase : TransactionPhase) :
    Prepared volume sha256 before mutation { manifest with phase := phase } :=
  ⟨prepared.version, prepared.event, prepared.previous, prepared.written, prepared.deletes,
    prepared.deleted, prepared.apart, prepared.reached, prepared.reachedDeletes⟩

theorem Late.phase (late : Late sha256 before mutation name manifest now)
    (phase : TransactionPhase) :
    Late sha256 before mutation name { manifest with phase := phase } now :=
  ⟨late.only, late.genuine, late.stock, late.files, late.outbox, late.complete⟩

theorem covers_anything : Covers sha256 before mutation name manifest (fun _ => True)
    (fun _ => True) :=
  ⟨fun _ _ _ => trivial, fun _ _ _ => trivial⟩

theorem reconcileDir_marked {found : Manifest} (here : tape.store.txns.lookup name = some dir)
    (marked : dir.manifest = some found)
    (rolled : (rollForward volume sha256 order name found).run tape = (.ok (), done)) :
    (reconcileDirs volume sha256 order [name]).run tape = (.ok 1, done) := by
  have round : (reconcileDir volume sha256 order name).run tape = (.ok true, done) := by
    unfold reconcileDir
    have there : (tape.store.txns.lookup name).bind (·.manifest) = some found := by
      rw [here]
      exact marked
    rw [run_disk_bind, there]
    dsimp only
    rw [run_bind_of_ok rolled]
    rfl
  unfold reconcileDirs
  rw [run_bind_of_ok round]
  rfl

theorem reconcile_late (order : ScanOrder) (distinct : mutation.Distinct)
    (prepared : Prepared volume sha256 before mutation manifest)
    (placeable : Placeable volume sha256 before mutation)
    (late : Late sha256 before mutation name manifest now) (staging : isStagingName name = true)
    (recoverable : Recoverable now) :
    ∃ count recovered, (reconcilePendingMutations volume sha256 order).run ⟨[], now⟩ =
      (.ok count, recovered) ∧ Done sha256 before mutation recovered := by
  cases here : now.txns.lookup name with
  | none =>
    have clean : now.txns = ∅ := by
      rw [eq_empty_iff]
      intro other
      by_cases same : other = name
      · rw [same, here]
      · exact late.only other same
    have finished : Finished sha256 before mutation now := by
      rcases late.complete with ⟨dir, there, _⟩ | finished
      · rw [here] at there
        cases there
      · exact finished
    exact ⟨0, ⟨[], now⟩, reconcile_run_of_clean order clean, finished, late.outbox, clean⟩
  | some dir =>
    cases marked : dir.manifest with
    | none =>
      have finished : Finished sha256 before mutation now := by
        rcases late.complete with ⟨dir', there, durable, _⟩ | finished
        · cases Option.some.inj (here.symm.trans there)
          exact absurd marked durable
        · exact finished
      have removal : Script.Triple PlanningDisk.apply (fun _ => True)
          (Finishing sha256 before mutation name manifest (fun _ => True))
          (removeTree order name) (fun _ => Done sha256 before mutation) (fun _ => False) :=
        removeTree_finishing covers_anything order
      obtain ⟨_, done, removed, contents⟩ :=
        run_of_triple removal ⟨[], now⟩ ⟨trivial, late, finished⟩ id
      exact ⟨0, done, (reconcile_run_single order late.only here).trans
        (reconcileDir_unmarked here marked staging removed), contents⟩
    | some found =>
      obtain ⟨stocked, free⟩ := recoverable name dir found here marked
      have same := late.genuine dir found here marked
      rw [same] at marked stocked free
      have full : Full name { manifest with phase := found.phase } now :=
        ⟨dir, here, by simp [marked], stocked⟩
      have quiet : ¬ Clash mutation now.outbox := by
        rintro ⟨event, existing, intended, held, different⟩
        exact different (free event existing (prepared.event.trans intended) held)
      obtain ⟨_, done, rolled, contents⟩ := run_of_triple
        (rollForward_triple distinct (prepared.phase found.phase) covers_anything order)
        ⟨[], now⟩ ⟨trivial, late.phase found.phase, full, rfl, fun _ no => no.elim⟩
        (not_or.mpr ⟨not_not_intro placeable, quiet⟩)
      exact ⟨1, done, (reconcile_run_single order late.only here).trans
        (reconcileDir_marked here marked rolled), contents⟩

/-! ## What a reconciliation needs -/

def SameJournal (first second : Tape PlanningWrite PlanningDisk) : Prop :=
  second.store.txns = first.store.txns ∧ second.store.outbox = first.store.outbox

theorem sameJournal_refl (tape : Tape PlanningWrite PlanningDisk) : SameJournal tape tape :=
  ⟨rfl, rfl⟩

theorem sameJournal_trans (first second third : Tape PlanningWrite PlanningDisk)
    (left : SameJournal first second) (right : SameJournal second third) :
    SameJournal first third :=
  ⟨right.1.trans left.1, right.2.trans left.2⟩

theorem moves_disk_bind {β : Type} {next : PlanningDisk → PlanningScript β}
    (moves : (next tape.store).Moves SameJournal tape) :
    (disk >>= next : PlanningScript β).Moves SameJournal tape :=
  moves

theorem inspect_moves (path : String) (tape : Tape PlanningWrite PlanningDisk) :
    (inspect volume path).Moves SameJournal tape :=
  moves_disk_bind (moves_check_bind sameJournal_refl fun _ _ => sameJournal_refl tape)

theorem atomicWriteBytes_moves (path : String) (data : Bytes)
    (tape : Tape PlanningWrite PlanningDisk) :
    (atomicWriteBytes volume path data).Moves SameJournal tape :=
  moves_disk_bind (moves_check_bind sameJournal_refl fun _ _ => ⟨rfl, rfl⟩)

theorem applyWrite_moves (intent : WriteIntent) (tape : Tape PlanningWrite PlanningDisk) :
    (applyWrite volume sha256 name intent).Moves SameJournal tape := by
  unfold applyWrite
  refine moves_disk_bind ?_
  split
  · exact moves_check sameJournal_refl _ tape
  refine moves_check_bind sameJournal_refl fun _ _ => ?_
  refine moves_bind sameJournal_trans (inspect_moves _ tape) fun there middle _ => ?_
  split
  · exact atomicWriteBytes_moves _ _ middle
  split
  · exact sameJournal_refl middle
  · split
    · exact atomicWriteBytes_moves _ _ middle
    · exact moves_check sameJournal_refl _ middle

theorem applyDelete_moves (intent : DeleteIntent) (tape : Tape PlanningWrite PlanningDisk) :
    (applyDelete volume sha256 intent).Moves SameJournal tape := by
  refine moves_bind sameJournal_trans (inspect_moves _ tape) fun there middle _ => ?_
  split
  · exact sameJournal_refl middle
  · exact moves_check_bind sameJournal_refl fun _ _ => ⟨rfl, rfl⟩

theorem forEach_moves {ι : Type} {body : ι → PlanningScript Unit}
    (round : ∀ item tape, (body item).Moves SameJournal tape) (items : List ι)
    (tape : Tape PlanningWrite PlanningDisk) :
    (Script.forEach body items).Moves SameJournal tape := by
  induction items generalizing tape with
  | nil => exact sameJournal_refl tape
  | cons item items ih =>
    exact moves_bind sameJournal_trans (round item tape)
      fun _ middle _ => ih middle

theorem payloads_of_applyWrites {intents : List WriteIntent}
    (here : tape.store.txns.lookup name = some dir)
    (returned : (Script.forEach (applyWrite volume sha256 name) intents).run tape =
      (.ok (), done)) :
    ∀ intent ∈ intents, dir.payloads.lookup intent.payload ≠ none := by
  induction intents generalizing tape with
  | nil => simp
  | cons first intents ih =>
    obtain ⟨_, middle, applied, rest⟩ := Script.bind_eq_ok.mp returned
    have journal := Script.Moves.of_run (applyWrite_moves first tape) applied
    intro intent member
    rcases mem_cons.mp member with rfl | later
    · intro missing
      have absent : (tape.store.txns.lookup name).bind (·.payloads.lookup intent.payload) =
          none := by
        rw [here]
        exact missing
      unfold applyWrite at applied
      rw [run_disk_bind, absent] at applied
      cases applied
    · exact ih (by rw [journal.1, here]) rest intent later

theorem rollForward_returned (here : tape.store.txns.lookup name = some dir)
    (returned : (rollForward volume sha256 order name manifest).run tape = (.ok (), done)) :
    (∀ intent ∈ manifest.writes, dir.payloads.lookup intent.payload ≠ none) ∧
      ∀ event existing, manifest.planningEvent = some event →
        tape.store.outbox.lookup event.eventId = some existing → existing = event.record := by
  obtain ⟨_, applied, manifestApplied, rest⟩ := Script.bind_eq_ok.mp returned
  obtain ⟨_, persisted, eventPersisted, _⟩ := Script.bind_eq_ok.mp rest
  obtain ⟨_, loops⟩ := Script.refuse_bind_eq_ok.mp manifestApplied
  obtain ⟨_, written, writesDone, deletesDone⟩ := Script.bind_eq_ok.mp loops
  refine ⟨payloads_of_applyWrites here writesDone, ?_⟩
  intro event existing intended held
  have first := (forEach_moves applyWrite_moves manifest.writes tape).of_run writesDone
  have second := (forEach_moves applyDelete_moves manifest.deletes written).of_run deletesDone
  have outbox : applied.store.outbox = tape.store.outbox := second.2.trans first.2
  unfold persistEvent at eventPersisted
  rw [intended] at eventPersisted
  dsimp only at eventPersisted
  rw [run_disk_bind, outbox, held] at eventPersisted
  have passed := (Prod.ext_iff.mp eventPersisted).1
  exact not_not.mp (refuse_eq_ok.mp passed)

/-- **A disk that a reconciliation can handle** is recoverable. -/
theorem recoverable_of_reconcile {count : Nat} {recovered : Tape PlanningWrite PlanningDisk}
    (only : ∀ other, other ≠ name → now.txns.lookup other = none)
    (returned : (reconcilePendingMutations volume sha256 order).run ⟨[], now⟩ =
      (.ok count, recovered)) : Recoverable now := by
  intro name' dir manifest here marked
  have same : name' = name := by
    by_contra different
    rw [only name' different] at here
    cases here
  subst same
  rw [reconcile_run_single order only here] at returned
  obtain ⟨_, middle, round, _⟩ := Script.bind_eq_ok.mp returned
  unfold reconcileDir at round
  have there : (now.txns.lookup name').bind (·.manifest) = some manifest := by
    rw [here]
    exact marked
  rw [run_disk_bind, there] at round
  obtain ⟨_, rolled, rolledForward, _⟩ := Script.bind_eq_ok.mp round
  exact rollForward_returned here rolledForward

/-! ## The theorem -/

theorem Done.no_clash (done : Done sha256 before mutation tape) :
    ¬ Clash mutation before.outbox := by
  rintro ⟨event, existing, intended, held, different⟩
  have here := done.finished.event event intended
  rcases done.outbox with same | ⟨other, is, free, _⟩
  · rw [same, held] at here
    exact different (Option.some.inj here)
  · cases Option.some.inj (intended.symm.trans is)
    rw [free] at held
    cases held

theorem Done.outbox_lookup {first second : Tape PlanningWrite PlanningDisk}
    (left : Done sha256 before mutation first) (right : Done sha256 before mutation second)
    (eventId : String) :
    first.store.outbox.lookup eventId = second.store.outbox.lookup eventId := by
  have lookup : ∀ tape : Tape PlanningWrite PlanningDisk, Done sha256 before mutation tape →
      (∀ event, mutation.planningEvent = some event → event.eventId ≠ eventId) →
      tape.store.outbox.lookup eventId = before.outbox.lookup eventId := by
    intro tape done other
    rcases done.outbox with same | ⟨event, is, _, inserted⟩
    · rw [same]
    · rw [inserted, lookup_insert_ne (other event is).symm]
  by_cases about : ∃ event, mutation.planningEvent = some event ∧ event.eventId = eventId
  · obtain ⟨event, is, rfl⟩ := about
    rw [left.finished.event event is, right.finished.event event is]
  · have other : ∀ event, mutation.planningEvent = some event → event.eventId ≠ eventId :=
      fun event is same => about ⟨event, is, same⟩
    rw [lookup first left other, lookup second right other]

/-- **Planning transactions recover from a crash** exactly when the crash leaves a recoverable
disk, and its files can be put in place if the manifest was durable.  Not recoverable is a disk
with a manifest some of whose payloads the removal of the directory took already, and one whose
outbox holds something else under the id of the event. -/
theorem transaction_recovers_iff (volume : Volume) (sha256 : Bytes → String)
    (order later : ScanOrder)
    (before : PlanningDisk) (txId : String) (mutation : Mutation) (made : Nat)
    (clean : before.txns = ∅) (distinct : mutation.Distinct) :
    Recovers volume sha256 order later before txId mutation made ↔
      Recoverable ((commitMutation volume sha256 order txId mutation).crash PlanningDisk.apply
        before made) ∧
      (Durable (stagingName txId) (((commitMutation volume sha256 order txId mutation).run
        ⟨[], before⟩).2.writes.take made) → Placeable volume sha256 before mutation) := by
  have triple := @commitMutation_triple volume sha256 before mutation distinct clean order txId
  have crashed := triple.crash rfl made
  have only : ∀ other, other ≠ stagingName txId →
      ((commitMutation volume sha256 order txId mutation).crash PlanningDisk.apply before
        made).txns.lookup
        other = none := by
    rcases crashed with ⟨_, early⟩ | ⟨_, manifest, _, late⟩
    · exact early.only
    · exact late.only
  constructor
  · rintro ⟨count, recovered, returned, _, _, complete, _⟩
    refine ⟨recoverable_of_reconcile only returned, fun durable => ?_⟩
    have outcome := (triple ⟨[], before⟩ rfl).2
    rw [(complete durable).1] at outcome
    exact outcome.2
  rintro ⟨recoverable, placeable⟩
  have staging := isStagingName_stagingName txId
  rcases crashed with ⟨fresh, early⟩ | ⟨durable, manifest, prepared, late⟩
  · obtain ⟨count, recovered, returned, empty, files, outbox⟩ :=
      @reconcile_early volume sha256 before _ _ later early staging
    refine ⟨count, recovered, returned, empty, reconcile_run_of_clean later empty,
      fun durable => absurd durable fresh, fun _ => ⟨?_, ?_⟩⟩
    · intro path
      rw [files]
    · intro eventId
      rw [outbox]
  · obtain ⟨count, recovered, returned, done⟩ :=
      reconcile_late later distinct prepared (placeable durable) late staging recoverable
    refine ⟨count, recovered, returned, done.clean, reconcile_run_of_clean later done.clean,
      fun _ => ?_, fun fresh => absurd durable fresh⟩
    have outcome := (triple ⟨[], before⟩ rfl).2
    have placed := placeable durable
    rcases ended : (commitMutation volume sha256 order txId mutation).run ⟨[], before⟩ with
      ⟨failure | result, completed⟩
    · -- The call can only have raised for a taken id, which the recovery shows to be free.
      rw [ended] at outcome durable
      rcases outcome with fresh | unplaceable | clash
      · obtain ⟨found, member⟩ := durable
        exact absurd ⟨found, mem_of_mem_take member⟩ fresh
      · exact absurd placed unplaceable
      · exact absurd clash done.no_clash
    · rw [ended] at outcome
      obtain ⟨⟨rfl, complete⟩, _⟩ := outcome
      exact ⟨rfl, ⟨fun path => (done.finished.files path).trans
        (complete.finished.files path).symm, done.outbox_lookup complete⟩, done.finished.event⟩

def plainDigest (data : Bytes) : String :=
  ",".intercalate (data.map fun byte => toString byte.toNat)

def components (path : String) : List (List Char) := path.toList.splitOn '/'

/-- `Path.stem` of a file with a suffix. -/
def stem (name : List Char) : List Char := (name.reverse.dropWhile (· ≠ '.')).tail.reverse

/-- A file system with names of up to 255 characters.  The name of a temporary file is the stem
with 13 more. -/
def ordinaryVolume : Volume where
  visible path := (components path).all (·.length ≤ 255)
  accepts path := (components path).all (·.length ≤ 255) &&
    (stem ((components path).getLast?.getD [])).length + 13 ≤ 255

/-- A directory whose files are removed in the order of their listing. -/
def listingOrder : ScanOrder := ⟨id, fun _ => .refl _⟩

/-- A directory whose payloads are removed before its manifest. -/
def payloadsFirst : ScanOrder := ⟨List.reverse, reverse_perm⟩

def blankDisk : PlanningDisk := ⟨∅, ∅, ∅⟩

def newItem : Mutation where
  writes := [(some "active/a.md", [35, 32, 65])]
  deletes := []
  operation := "create"
  planningEvent := some ⟨"e-1", "planning.item.created", [], []⟩

/-- A crash after the planning file was written. -/
theorem transaction_recovers_newItem :
    Recovers ordinaryVolume plainDigest listingOrder listingOrder blankDisk "t-1" newItem 4 := by
  refine (transaction_recovers_iff ordinaryVolume plainDigest listingOrder listingOrder blankDisk
    "t-1" newItem 4 rfl ⟨by decide, by simp [newItem]⟩).mpr ⟨?_, fun _ => ?_⟩
  rotate_left
  · refine ⟨?_, fun path data wanted => .inr ?_⟩
    · rintro path (⟨data, wanted⟩ | deleted) other ⟨data', wanted'⟩
      · cases mem_singleton.mp wanted
        cases mem_singleton.mp wanted'
        exact isBelow_self _
      · cases deleted
    · cases mem_singleton.mp wanted
      decide
  have journal : ((commitMutation ordinaryVolume plainDigest listingOrder "t-1" newItem).crash
    PlanningDisk.apply
      blankDisk 4).txns = (((∅ : Dict String TransactionDir).insert ".staging-t-1"
        ⟨none, ∅⟩).insert ".staging-t-1" ⟨none, (∅ : Dict Nat Bytes).insert 0 [35, 32, 65]⟩).insert
      ".staging-t-1" ⟨some ⟨1, "t-1", "create", .prepared,
        [⟨"active/a.md", 0, plainDigest [35, 32, 65], none⟩], [], newItem.planningEvent⟩,
        (∅ : Dict Nat Bytes).insert 0 [35, 32, 65]⟩ := rfl
  have outbox : ((commitMutation ordinaryVolume plainDigest listingOrder "t-1" newItem).crash
    PlanningDisk.apply
      blankDisk 4).outbox = ∅ := rfl
  intro name dir manifest here marked
  rw [journal] at here
  simp only [lookup_insert_eq] at here
  split at here
  · cases here
    cases marked
    refine ⟨?_, ?_⟩
    · intro intent member
      cases mem_singleton.mp member
      rw [lookup_insert]
      exact Option.some_ne_none _
    · intro event existing _ held
      rw [outbox] at held
      cases held
  · simp at here

/-- A crash after a payload was removed and before the manifest was: every later reconciliation
raises. -/
theorem removal_crash_never_recovers :
    ¬ Recovers ordinaryVolume plainDigest payloadsFirst listingOrder blankDisk "t-1" newItem 7 := by
  rintro ⟨count, recovered, returned, _⟩
  have raises : ((reconcilePendingMutations ordinaryVolume plainDigest listingOrder).run
      ⟨[], (commitMutation ordinaryVolume plainDigest payloadsFirst "t-1" newItem).crash
        PlanningDisk.apply
        blankDisk 7⟩).1 = .error (.payloadMissing 0) := rfl
  rw [returned] at raises
  cases raises

end Audiagentic.Planning
