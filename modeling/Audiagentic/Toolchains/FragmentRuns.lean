import Audiagentic.Toolchains.FragmentReconciles

/-!
# Runs of reconciliations

The document is edited and reconciled in any order, with a crash after any write.  `Reconciles` says
what a reconciliation has to do from one state; `Manageable` is the condition under which it does:
either the store refuses the first write that is needed, or the loops do not undo what they did
and a crash does not leave a name that is recorded for nobody.
-/

namespace Audiagentic.Toolchains

open Foundations List OrderedDict

variable {ν : Type} [DecidableEq ν]

/-! ## Steps -/

/-- What may happen to a document: the user edits it, or it is reconciled, up to a crash. -/
inductive FragmentAction (ν : Type) [DecidableEq ν] where
  | edit (target : OrderedDict Text ν)
  | reconcile (call : ReconcileCall ν) (cut : Option ℕ)

def fragmentStep (host : FragmentHost ν) (disk : FragmentDisk ν) :
    FragmentAction ν → FragmentDisk ν
  | .edit target => { disk with target }
  | .reconcile call none => ((reconcileFragments host call).run ⟨[], disk⟩).2.store
  | .reconcile call (some made) =>
    (reconcileFragments host call).crash (FragmentDisk.apply host) disk made

def Owned (host : FragmentHost ν) (disk : FragmentDisk ν) (scope name : Text) : Prop :=
  ∃ owners, host.registry.load disk.registry = .ok owners ∧
    ∃ managedId, ((owners.get? scope).getD ∅).get? managedId = some name

/-- Two states that are told apart by the order of the entries at most. -/
structure SameDisk (first second : FragmentDisk ν) : Prop where
  registry : first.registry = second.registry
  target : ∀ name, first.target.get? name = second.target.get? name

structure Converged (host : FragmentHost ν) (call : ReconcileCall ν) (owners : Owners)
    (tape : FragmentTape ν) (after : Owners) : Prop where
  readable : host.registry.load tape.store.registry = .ok after
  payloads : ∀ entry ∈ call.wanted, tape.store.target.get? entry.2.1 = some entry.2.2
  listed : ∀ entry ∈ call.wanted, (call.rows after).get? entry.1 = some entry.2.1
  forgotten : ∀ managedId, call.touches managedId = true → call.desired.has managedId = false →
    (call.rows after).get? managedId = none
  released : ∀ name, call.Left (call.rows owners) call.wanted name →
    (∀ entry ∈ call.wanted, entry.2.1 ≠ name) → tape.store.target.get? name = none
  untouched : ∀ managedId, call.touches managedId = false →
    (call.rows after).get? managedId = (call.rows owners).get? managedId
  others : ∀ scope, scope ≠ call.scope → after.get? scope = owners.get? scope
  repeats : (reconcileFragments host call).run tape = (.ok ⟨true, false, [], [], []⟩, tape)

structure Reconciles (host : FragmentHost ν) (disk : FragmentDisk ν) (call : ReconcileCall ν)
    (cut : Option ℕ) : Prop where
  foreign : ∀ name value, disk.target.get? name = some value → ¬ Owned host disk call.scope name →
    (fragmentStep host disk (.reconcile call cut)).target.get? name = some value
  refuses : (∀ result, ((reconcileFragments host call).run ⟨[], disk⟩).1 = .ok result →
    result.ok = false) → ((reconcileFragments host call).run ⟨[], disk⟩).2 = ⟨[], disk⟩
  converges : ∀ result tape, (reconcileFragments host call).run ⟨[], disk⟩ = (.ok result, tape) →
    result.ok = true → ∃ owners after, host.registry.load disk.registry = .ok owners ∧
      Converged host call owners tape after
  recovers : SameDisk
    (fragmentStep host (fragmentStep host disk (.reconcile call cut)) (.reconcile call none))
    (fragmentStep host disk (.reconcile call none))

/-- A crash before the rows are recorded does not come after a write under a name that is not
recorded for the managed id. -/
def Recoverable (host : FragmentHost ν) (owners : Owners) (call : ReconcileCall ν)
    (disk : FragmentDisk ν) (made : ℕ) : Prop :=
  let written := ((reconcileFragments host call).run ⟨[], disk⟩).2.writes.take made
  (∀ saved, FragmentEffect.save saved ∉ written) →
    ∀ entry ∈ call.wanted, FragmentEffect.write entry.2.1 entry.2.2 ∈ written →
      incumbent owners call entry.2.1 = some (call.scope, entry.1)

def Manageable (host : FragmentHost ν) (disk : FragmentDisk ν) : FragmentAction ν → Prop
  | .edit _ => True
  | .reconcile call cut => ∀ owners, host.registry.load disk.registry = .ok owners →
      collisionsOf owners call disk.target [] call.wanted = [] →
      (∃ done entry rest, call.wanted = done ++ entry :: rest ∧
        RefusedFirst host owners call disk.target done entry) ∨
      (Settles host owners call disk.target ∧
        ∀ made, cut = some made → Recoverable host owners call disk made)

section Steps

variable {host : FragmentHost ν} {call : ReconcileCall ν} {owners : Owners}
  {disk : FragmentDisk ν}

/-- **A reconciliation that does nothing** keeps everything. -/
theorem Reconciles.of_unchanged {cut : Option ℕ}
    (unchanged : ((reconcileFragments host call).run ⟨[], disk⟩).2 = ⟨[], disk⟩)
    (refused : ∀ result, ((reconcileFragments host call).run ⟨[], disk⟩).1 = .ok result →
      result.ok = false) : Reconciles host disk call cut := by
  have same : fragmentStep host disk (.reconcile call cut) = disk := by
    cases cut with
    | none => exact congrArg Tape.store unchanged
    | some made =>
      simp only [fragmentStep, Script.crash, unchanged, take_nil, exec_nil]
  refine ⟨fun name value there _ => ?_, fun _ => unchanged, fun result tape run ok => ?_, ?_⟩
  · rw [same]
    exact there
  · rw [refused result (congrArg Prod.fst run)] at ok
    cases ok
  · rw [same]
    exact ⟨rfl, fun _ => rfl⟩

theorem Settles.left_of_left (settles : Settles host owners call disk.target)
    {done rest : List (Text × Text × ν)} {entry : Text × Text × ν}
    (split : call.wanted = done ++ entry :: rest)
    (left : call.Left (call.rows owners) call.wanted entry.2.1) :
    call.Left (call.rows owners) done entry.2.1 := by
  rcases left with stale | ⟨giver, member, given, stated, different⟩
  · exact .inl stale
  rw [split] at member
  rcases mem_append.mp member with early | late
  · exact .inr ⟨giver, early, given, stated, different⟩
  rcases mem_cons.mp late with rfl | late
  · exact absurd rfl different
  obtain ⟨before, after, parts⟩ := append_of_mem late
  have whole : call.wanted = (done ++ entry :: before) ++ giver :: after := by
    rw [split, parts, append_assoc, cons_append]
  exact absurd rfl (settles.apart _ giver after whole entry.2.1 given stated different entry
    (mem_append_right _ mem_cons_self))

variable {tape : FragmentTape ν}

/-- **A document on the way settles too.** -/
theorem Settles.of_onTheWay (settles : Settles host owners call disk.target)
    (names : (call.wanted.map fun entry => entry.2.1).Nodup)
    (way : OnTheWay call (call.rows owners) disk tape) :
    Settles host owners call tape.store.target where
  found := settles.found
  apart := settles.apart
  shown done entry rest split null := by
    obtain ⟨has, stays⟩ := settles.shown done entry rest split null
    refine ⟨?_, stays⟩
    rcases way.names entry.2.1 with same | ⟨left, -⟩ | ⟨other, -, -, there, -⟩
    · rw [OrderedDict.has, same]
      exact has
    · exact absurd (settles.left_of_left split left) stays
    · exact has_iff.mpr ⟨_, there⟩
  writes done entry rest split refused := by
    obtain ⟨has, stays⟩ := settles.writes done entry rest split refused
    refine ⟨?_, stays⟩
    rcases way.names entry.2.1 with same | ⟨left, -⟩ | ⟨other, member, named, there, -⟩
    · rw [same]
      exact has
    · exact absurd (settles.left_of_left split left) stays
    · obtain rfl := inj_on_of_nodup_map names member (ReconcileCall.mem_of_split split) named
      exact there

theorem free_of_onTheWay (free : collisionsOf owners call disk.target [] call.wanted = [])
    (way : OnTheWay call (call.rows owners) disk tape)
    (recorded : ∀ entry ∈ call.wanted, FragmentEffect.write entry.2.1 entry.2.2 ∈ tape.writes →
      incumbent owners call entry.2.1 = some (call.scope, entry.1)) :
    collisionsOf owners call tape.store.target [] call.wanted = [] := by
  refine collisionsOf_eq_nil.mpr fun before entry after split => ?_
  have takes := collisionsOf_eq_nil.mp free before entry after split
  have member := ReconcileCall.mem_of_split split
  refine ⟨takes.fresh, fun has => ?_⟩
  rcases way.names entry.2.1 with same | ⟨-, gone⟩ | ⟨other, wanted, named, -, written⟩
  · rw [OrderedDict.has, same] at has
    exact takes.mine has
  · rw [OrderedDict.has, gone] at has
    cases has
  · obtain rfl := inj_on_of_nodup_map (ReconcileCall.names_nodup free) wanted member named
    exact recorded other member written

/-- **After a reconciliation that settles** the state has converged. -/
theorem Settles.converged (settles : Settles host owners call disk.target)
    (free : collisionsOf owners call disk.target [] call.wanted = [])
    {tape : FragmentTape ν}
    (readable : host.registry.load tape.store.registry = .ok (call.ownersAfter owners))
    (placed : call.Placed (call.rows owners) disk.target call.wanted tape.store.target) :
    Converged host call owners tape (call.ownersAfter owners) := by
  have names := ReconcileCall.names_nodup free
  have listed : ∀ entry ∈ call.wanted,
      (call.rows (call.ownersAfter owners)).get? entry.1 = some entry.2.1 := by
    intro entry member
    rw [ReconcileCall.rows_ownersAfter]
    exact call.get?_rowsPlaced owners member
  have forgotten : ∀ managedId, call.touches managedId = true →
      call.desired.has managedId = false →
      (call.rows (call.ownersAfter owners)).get? managedId = none := by
    intro managedId touched undesired
    rw [ReconcileCall.rows_ownersAfter]
    cases there : (call.rowsPlaced owners).get? managedId with
    | none => rfl
    | some name =>
      obtain ⟨payload, wanted⟩ := ReconcileCall.wanted_of_rowsAfter there touched
      rw [ReconcileCall.desired_of_wanted wanted] at undesired
      cases undesired
  refine ⟨readable, placed.there, listed, forgotten, fun name left outside =>
    placed.gone name outside left, fun managedId untouched => ?_,
    fun scope other => ReconcileCall.get?_ownersAfter other, ?_⟩
  · rw [ReconcileCall.rows_ownersAfter, call.get?_rowsPlaced_of_untouched owners untouched]
  · refine run_reconcileFragments_of_settled readable names placed.there listed ?_
      fun entry member => settles.found_after names member
    refine eq_nil_iff_forall_not_mem.mpr fun row member => ?_
    obtain ⟨there, touched, undesired⟩ := ReconcileCall.mem_stale.mp member
    rw [forgotten row.1 touched undesired] at there
    cases there

/-- **A crash** leaves a document on the way, or comes too late. -/
theorem crash_recordRows
    (passes : Passes (FragmentDisk.apply host) (OnTheWay call (call.rows owners) disk)
      ⟨[], disk⟩ tape) (made : ℕ) :
    OnTheWay call (call.rows owners) disk
        ⟨(recordRows host call owners tape).writes.take made, exec (FragmentDisk.apply host) disk
          ((recordRows host call owners tape).writes.take made)⟩ ∨
      exec (FragmentDisk.apply host) disk ((recordRows host call owners tape).writes.take made) =
        (recordRows host call owners tape).store := by
  obtain ⟨written, writes, store, crashes⟩ := passes.crashes
  rw [nil_append] at writes
  unfold recordRows
  split
  next changed =>
    simp only [Tape.record, writes, store]
    rcases Nat.lt_or_ge written.length made with all | some
    · right
      rw [take_of_length_le, exec_append]
      · rfl
      · rw [length_append, length_singleton]
        exact all
    · left
      rw [take_append_of_le_length some]
      exact crashes made
  · left
    rw [writes]
    exact crashes made

/-- **From a document on the way** a reconciliation comes to the same state. -/
theorem Settles.same_of_onTheWay (settles : Settles host owners call disk.target)
    (readable : host.registry.load disk.registry = .ok owners)
    (free : collisionsOf owners call disk.target [] call.wanted = [])
    (way : OnTheWay call (call.rows owners) disk tape)
    (recorded : ∀ entry ∈ call.wanted, FragmentEffect.write entry.2.1 entry.2.2 ∈ tape.writes →
      incumbent owners call entry.2.1 = some (call.scope, entry.1)) :
    SameDisk (fragmentStep host tape.store (.reconcile call none))
      (fragmentStep host disk (.reconcile call none)) := by
  have names := ReconcileCall.names_nodup free
  have settles' := settles.of_onTheWay names way
  have readable' : host.registry.load tape.store.registry = .ok owners := by
    rw [way.registry]
    exact readable
  obtain ⟨_, first, run, -, passes, placed⟩ := settles.reconciles readable free
  obtain ⟨_, second, run', -, passes', placed'⟩ :=
    settles'.reconciles readable' (free_of_onTheWay free way recorded)
  constructor
  · simp only [fragmentStep, run, run']
    unfold recordRows
    split
    · rfl
    · rw [passes.last.registry, passes'.last.registry, way.registry]
  · intro name
    simp only [fragmentStep, run, run', target_recordRows]
    by_cases wanted : ∃ entry ∈ call.wanted, entry.2.1 = name
    · obtain ⟨entry, member, rfl⟩ := wanted
      rw [placed.there entry member, placed'.there entry member]
    have outside : ∀ entry ∈ call.wanted, entry.2.1 ≠ name :=
      fun entry member same => wanted ⟨entry, member, same⟩
    by_cases left : call.Left (call.rows owners) call.wanted name
    · rw [placed.gone name outside left, placed'.gone name outside left]
    rw [placed.kept name outside left, placed'.kept name outside left]
    rcases way.names name with same | ⟨gone, -⟩ | ⟨entry, member, named, -⟩
    · exact same
    · exact absurd gone left
    · exact absurd named (outside entry member)

theorem OnTheWay.foreign (free : collisionsOf owners call disk.target [] call.wanted = [])
    (way : OnTheWay call (call.rows owners) disk tape) {name : Text} {value : ν}
    (there : disk.target.get? name = some value)
    (foreign : ∀ managedId, (call.rows owners).get? managedId ≠ some name) :
    tape.store.target.get? name = some value := by
  rcases way.names name with same | ⟨⟨_, stale⟩ | ⟨giver, -, given, -⟩, -⟩ | ⟨entry, member, rfl, -⟩
  · rw [same, there]
  · exact absurd (ReconcileCall.mem_stale.mp stale).1 (foreign _)
  · exact absurd given (foreign _)
  · obtain ⟨before, after, split⟩ := append_of_mem member
    have mine := (collisionsOf_eq_nil.mp free before entry after split).mine
      (has_iff.mpr ⟨value, there⟩)
    exact absurd (get?_of_ownerByName (ownerByName_of_incumbent mine)) (foreign _)

/-- **A reconciliation that settles** does what it has to. -/
theorem Settles.step (settles : Settles host owners call disk.target)
    (readable : host.registry.load disk.registry = .ok owners)
    (free : collisionsOf owners call disk.target [] call.wanted = []) {cut : Option ℕ}
    (recoverable : ∀ made, cut = some made → Recoverable host owners call disk made) :
    Reconciles host disk call cut := by
  obtain ⟨result, tape, run, ok, passes, placed⟩ := settles.reconciles readable free
  have converged : Converged host call owners (recordRows host call owners tape)
      (call.ownersAfter owners) := by
    refine settles.converged free (registry_recordRows tape ?_) ?_
    · rw [passes.last.registry]
      exact readable
    · rw [target_recordRows]
      exact placed
  have whole : fragmentStep host disk (.reconcile call none) =
      (recordRows host call owners tape).store := by
    simp only [fragmentStep, run]
  have cases : (∃ made, cut = some made ∧
      OnTheWay call (call.rows owners) disk
        ⟨(recordRows host call owners tape).writes.take made,
          fragmentStep host disk (.reconcile call cut)⟩) ∨
      fragmentStep host disk (.reconcile call cut) = (recordRows host call owners tape).store := by
    cases cut with
    | none => exact .inr whole
    | some made =>
      simp only [fragmentStep, Script.crash, run]
      exact (crash_recordRows passes made).imp_left fun way => ⟨made, rfl, way⟩
  refine ⟨?_, ?_, ?_, ?_⟩
  · intro name value there foreign
    have foreign : ∀ managedId, (call.rows owners).get? managedId ≠ some name :=
      fun managedId owned => foreign ⟨owners, readable, managedId, owned⟩
    rcases cases with ⟨made, rfl, way⟩ | ended
    · exact way.foreign free there foreign
    · rw [ended, target_recordRows]
      exact passes.last.foreign free there foreign
  · intro refused
    rw [refused result (congrArg Prod.fst run)] at ok
    cases ok
  · intro other tape' run' _
    rw [run] at run'
    cases run'
    exact ⟨owners, _, readable, converged⟩
  · rcases cases with ⟨made, rfl, way⟩ | ended
    · by_cases unsaved : ∀ saved, FragmentEffect.save saved ∉
          (recordRows host call owners tape).writes.take made
      · have recorded := recoverable made rfl
        simp only [Recoverable, run] at recorded
        exact settles.same_of_onTheWay readable free way (recorded unsaved)
      · exact absurd way.unsaved unsaved
    · rw [ended, whole]
      have again := @Settles.converged ν _ host call owners disk settles free
        ⟨[], (recordRows host call owners tape).store⟩ converged.readable
        (by rw [target_recordRows]; exact placed)
      simp only [fragmentStep, again.repeats]
      exact ⟨rfl, fun _ => rfl⟩

/-- **A reconciliation that meets the condition** does what it has to. -/
theorem reconciles_of_manageable {cut : Option ℕ}
    (manageable : Manageable host disk (.reconcile call cut)) : Reconciles host disk call cut := by
  cases readable : host.registry.load disk.registry with
  | error failure =>
    have run := @run_reconcileFragments_of_unreadable ν _ host call ⟨[], disk⟩ failure readable
    refine .of_unchanged (congrArg Prod.snd run) fun result returned => ?_
    rw [run] at returned
    cases returned
  | ok owners =>
    cases collide : collisionsOf owners call disk.target [] call.wanted with
    | cons collision more =>
      have run := @run_reconcileFragments_of_collisions ν _ host call owners ⟨[], disk⟩
        readable collision more collide
      refine .of_unchanged (congrArg Prod.snd run) fun result returned => ?_
      rw [run] at returned
      cases returned
      rfl
    | nil =>
      rcases manageable owners readable collide with
        ⟨done, entry, rest, split, refused⟩ | ⟨settles, recoverable⟩
      · have run := @run_reconcileFragments_of_refused ν _ host call owners ⟨[], disk⟩
          readable collide done rest entry split refused
        refine .of_unchanged (congrArg Prod.snd run) fun result returned => ?_
        rw [run] at returned
        cases returned
      · exact settles.step readable collide recoverable

end Steps

/-! ## Runs -/

/-- **Managed fragments leave foreign entries alone and converge** all along a run whose steps meet
the condition. -/
theorem managed_fragments_converge (host : FragmentHost ν) (start : FragmentDisk ν)
    (actions : List (FragmentAction ν))
    (manageable : Admissible (fragmentStep host) (Manageable host) start actions) :
    ∀ before call cut after, actions = before ++ .reconcile call cut :: after →
      Reconciles host (exec (fragmentStep host) start before) call cut := by
  rintro before call cut after rfl
  exact reconciles_of_manageable ((admissible_append.mp manageable).2.1)

section Sample

private def sampleHost : FragmentHost (Option ℕ) where
  registry := ⟨"owners".toList, "v1".toList, by decide⟩
  null := none
  accepts _ _ := true

private def sampleCall (desired : List (Text × Text × Option ℕ)) : ReconcileCall (Option ℕ) :=
  ⟨"codex".toList, OrderedDict.ofList desired, none, none⟩

private def freshDisk : FragmentDisk (Option ℕ) := ⟨∅, .absent⟩

/-! An entry is placed; then it gets another payload, and a crash comes before the registry. -/

private def placeOne (payload : ℕ) : ReconcileCall (Option ℕ) :=
  sampleCall [("a".toList, "x".toList, some payload)]

private theorem wanted_placeOne (payload : ℕ) :
    (placeOne payload).wanted = [("a".toList, "x".toList, some payload)] := rfl

private theorem settles_placeOne {owners : Owners} {payload : ℕ}
    {target : OrderedDict Text (Option ℕ)}
    (found : incumbent (owners.set "codex".toList
      (((placeOne payload).beside ((placeOne payload).rows owners) "a".toList).set "a".toList
        "x".toList)) (placeOne payload) "x".toList = some ("codex".toList, "a".toList)) :
    Settles sampleHost owners (placeOne payload) target where
  found entry member := by
    rw [wanted_placeOne, mem_singleton] at member
    subst member
    exact found
  apart done entry rest split old _ _ _ other early := by
    rw [wanted_placeOne] at split
    cases done with
    | nil => cases early
    | cons first done => cases done <;> cases split
  shown done entry rest split null := by
    have member := ReconcileCall.mem_of_split split
    rw [wanted_placeOne, mem_singleton] at member
    subst member
    cases null
  writes _ _ _ _ refused := by cases refused

private def recordedOwners : Owners :=
  OrderedDict.ofList [("codex".toList, OrderedDict.ofList [("a".toList, "x".toList)])]

private def sampleActions : List (FragmentAction (Option ℕ)) :=
  [.reconcile (placeOne 1) none, .reconcile (placeOne 2) (some 1)]

theorem managed_fragments_converge_first :
    Reconciles sampleHost (exec (fragmentStep sampleHost) freshDisk
      [.reconcile (placeOne 1) none]) (placeOne 2) (some 1) := by
  refine managed_fragments_converge sampleHost freshDisk sampleActions ?_
    [.reconcile (placeOne 1) none] (placeOne 2) (some 1) [] rfl
  have first : Manageable sampleHost freshDisk (.reconcile (placeOne 1) none) := by
    intro owners readable _
    obtain rfl : ∅ = owners := Except.ok.inj readable
    exact .inr ⟨settles_placeOne (by decide +kernel), fun _ impossible => by cases impossible⟩
  refine ⟨first, ?_, trivial⟩
  intro owners readable _
  have loaded : (sampleHost.registry.load (fragmentStep sampleHost freshDisk
      (.reconcile (placeOne 1) none)).registry).toOption = some recordedOwners := by
    decide +kernel
  rw [readable] at loaded
  obtain rfl := Option.some.inj loaded
  refine .inr ⟨settles_placeOne (by decide +kernel), fun _ _ _ entry member _ => ?_⟩
  rw [wanted_placeOne, mem_singleton] at member
  subst member
  decide +kernel

/-! An entry is placed, the user deletes it, and its name is given to another one while it gets a
new name. -/

private def renameActions : List (FragmentAction (Option ℕ)) :=
  [.reconcile (placeOne 1) none, .edit ∅]

private def renameCall : ReconcileCall (Option ℕ) :=
  sampleCall [("b".toList, "x".toList, some 1), ("a".toList, "z".toList, some 2)]

/-- **A name that was just taken is given up as a former name.** -/
theorem taken_name_is_given_up :
    ¬ ∀ (host : FragmentHost (Option ℕ)) (start : FragmentDisk (Option ℕ))
      (actions : List (FragmentAction (Option ℕ))),
      ∀ before call cut after, actions = before ++ .reconcile call cut :: after →
        Reconciles host (exec (fragmentStep host) start before) call cut := by
  intro claimed
  have step := claimed sampleHost freshDisk (renameActions ++ [.reconcile renameCall none])
    renameActions renameCall none [] rfl
  have succeeds : ((reconcileFragments sampleHost renameCall).run
      ⟨[], exec (fragmentStep sampleHost) freshDisk renameActions⟩).1.toOption.map
        ReconcileResult.ok = some true := by
    decide +kernel
  have lost : ((reconcileFragments sampleHost renameCall).run
      ⟨[], exec (fragmentStep sampleHost) freshDisk renameActions⟩).2.store.target.get?
        "x".toList = none := by
    decide +kernel
  rcases run : (reconcileFragments sampleHost renameCall).run
    ⟨[], exec (fragmentStep sampleHost) freshDisk renameActions⟩ with ⟨failure | result, tape⟩
  · rw [run] at succeeds
    cases succeeds
  · rw [run] at succeeds lost
    obtain ⟨owners, after, -, converged⟩ :=
      step.converges result tape run (Option.some.inj succeeds)
    have there := converged.payloads ("b".toList, "x".toList, some 1) mem_cons_self
    rw [lost] at there
    cases there

end Sample

end Audiagentic.Toolchains
