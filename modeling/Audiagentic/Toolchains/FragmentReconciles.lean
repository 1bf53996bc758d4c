import Audiagentic.Toolchains.FragmentLoops

/-!
# A whole reconciliation

A reconciliation that cannot read the registry or meets a collision does nothing.  One that settles
brings the document to its payloads and records the rows, and a repetition finds nothing to do.
-/

namespace Audiagentic.Toolchains

open Foundations List OrderedDict Script

variable {ν : Type} [DecidableEq ν]

section Reconciles

variable {host : FragmentHost ν} {call : ReconcileCall ν} {owners : Owners}
  {disk : FragmentDisk ν} {tape : FragmentTape ν}

theorem run_reconcileFragments_of_unreadable {failure : String}
    (unreadable : host.registry.load tape.store.registry = .error failure) :
    (reconcileFragments host call).run tape = (.error failure, tape) := by
  rw [reconcileFragments, run_read_bind, unreadable, run_check_error_bind]

theorem run_reconcileFragments_of_collisions
    (readable : host.registry.load tape.store.registry = .ok owners)
    {collision : FragmentCollision} {more : List FragmentCollision}
    (collide : collisionsOf owners call tape.store.target [] call.wanted = collision :: more) :
    (reconcileFragments host call).run tape =
      (.ok ⟨false, false, [], [], collision :: more⟩, tape) := by
  rw [reconcileFragments, run_read_bind, readable, run_check_ok_bind, collide]
  rfl

theorem run_reconcileFragments_of_free
    (readable : host.registry.load tape.store.registry = .ok owners)
    (free : collisionsOf owners call tape.store.target [] call.wanted = []) :
    (reconcileFragments host call).run tape =
      (reconcileOwned host call owners tape.store.target).run tape := by
  rw [reconcileFragments, run_read_bind, readable, run_check_ok_bind, free]

theorem reconcileOwned_eq (target : OrderedDict Text ν) :
    reconcileOwned host call owners target =
      (removeStale host call ((call.rows owners).entries.filter fun row => call.touches row.1)
          { current := target, rows := call.rows owners } >>= fun state =>
        placeDesired host call.wanted state >>= fun state =>
          saveRows host owners call.scope (call.rows owners) state.rows >>= fun _ =>
            pure state.result) :=
  rfl

/-! ## The registry after a reconciliation -/

def ReconcileCall.rowsPlaced (call : ReconcileCall ν) (owners : Owners) : OrderedDict Text Text :=
  call.rowsAfter (call.rows owners) call.wanted

def ReconcileCall.ownersAfter (call : ReconcileCall ν) (owners : Owners) : Owners :=
  if sameRows (call.rows owners) (call.rowsPlaced owners) = false then
    owners.set call.scope (call.rowsPlaced owners)
  else owners

def recordRows (host : FragmentHost ν) (call : ReconcileCall ν) (owners : Owners)
    (tape : FragmentTape ν) : FragmentTape ν :=
  if sameRows (call.rows owners) (call.rowsPlaced owners) = false then
    tape.record (FragmentDisk.apply host) (.save (owners.set call.scope (call.rowsPlaced owners)))
  else tape

theorem run_saveRows (tape : FragmentTape ν) :
    (saveRows host owners call.scope (call.rows owners) (call.rowsPlaced owners)).run tape =
      (.ok (), recordRows host call owners tape) := by
  unfold saveRows recordRows
  split <;> rfl

theorem target_recordRows (tape : FragmentTape ν) :
    (recordRows host call owners tape).store.target = tape.store.target := by
  unfold recordRows
  split <;> rfl

theorem registry_recordRows (tape : FragmentTape ν)
    (readable : host.registry.load tape.store.registry = .ok owners) :
    host.registry.load (recordRows host call owners tape).store.registry =
      .ok (call.ownersAfter owners) := by
  unfold recordRows ReconcileCall.ownersAfter
  split
  · exact host.registry.load_saved _
  · exact readable

omit [DecidableEq ν] in
theorem placeRows_of_there {rows : OrderedDict Text Text} (done : List (Text × Text × ν))
    (there : ∀ entry ∈ done, rows.get? entry.1 = some entry.2.1) : placeRows rows done = rows := by
  induction done with
  | nil => rfl
  | cons entry rest ih =>
    obtain ⟨here, later⟩ := forall_mem_cons.mp there
    change placeRows (rows.set entry.1 entry.2.1) rest = rows
    rw [set_of_get? here, ih later]

theorem sameRows_self (rows : OrderedDict Text Text) : sameRows rows rows = true := by
  simp [sameRows]

theorem get?_of_sameRows {first second : OrderedDict Text Text}
    (same : sameRows first second = true) (managedId : Text) :
    first.get? managedId = second.get? managedId := by
  rw [sameRows, Bool.and_eq_true, List.all_eq_true, List.all_eq_true] at same
  by_cases here : managedId ∈ first.keys
  · exact of_decide_eq_true (same.1 managedId here)
  · by_cases there : managedId ∈ second.keys
    · exact of_decide_eq_true (same.2 managedId there)
    · rw [get?_eq_none_iff.mpr here, get?_eq_none_iff.mpr there]

omit [DecidableEq ν] in
/-- **Touched rows after the call** are those of the desired entries. -/
theorem ReconcileCall.get?_rowsPlaced (call : ReconcileCall ν) (owners : Owners)
    {entry : Text × Text × ν} (member : entry ∈ call.wanted) :
    (call.rowsPlaced owners).get? entry.1 = some entry.2.1 :=
  get?_placeRows_of_mem call.ids_nodup member

omit [DecidableEq ν] in
theorem ReconcileCall.get?_rowsPlaced_of_untouched (call : ReconcileCall ν) (owners : Owners)
    {managedId : Text} (untouched : call.touches managedId = false) :
    (call.rowsPlaced owners).get? managedId = (call.rows owners).get? managedId := by
  have fresh : managedId ∉ call.wanted.map Prod.fst := by
    intro member
    obtain ⟨entry, there, rfl⟩ := List.mem_map.mp member
    rw [(mem_wanted.mp there).2] at untouched
    cases untouched
  have kept : managedId ∉ (call.stale (call.rows owners)).map Prod.fst := by
    intro member
    rw [(mem_stale_ids.mp member).2.1] at untouched
    cases untouched
  rw [rowsPlaced, rowsAfter, get?_placeRows_of_not_mem fresh, get?_popAll, if_neg kept]

omit [DecidableEq ν] in
theorem ReconcileCall.rowsPlaced_of_same
    (same : sameRows (call.rows owners) (call.rowsPlaced owners) = true) :
    call.rowsPlaced owners = call.rows owners := by
  have none : call.stale (call.rows owners) = [] := by
    refine eq_nil_iff_forall_not_mem.mpr fun row member => ?_
    obtain ⟨there, touched, undesired⟩ := mem_stale.mp member
    rw [get?_of_sameRows same] at there
    obtain ⟨payload, wanted⟩ := wanted_of_rowsAfter there touched
    rw [desired_of_wanted wanted] at undesired
    cases undesired
  have there : ∀ entry ∈ call.wanted, (call.rows owners).get? entry.1 = some entry.2.1 := by
    intro entry member
    rw [get?_of_sameRows same, call.get?_rowsPlaced owners member]
  rw [rowsPlaced, rowsAfter, none]
  exact placeRows_of_there call.wanted there

omit [DecidableEq ν] in
theorem ReconcileCall.rows_ownersAfter :
    call.rows (call.ownersAfter owners) = call.rowsPlaced owners := by
  unfold ownersAfter
  split
  · rw [rows, get?_set_self]
    rfl
  next same => rw [rowsPlaced_of_same (Bool.not_eq_false _ ▸ same)]

omit [DecidableEq ν] in
theorem ReconcileCall.get?_ownersAfter {scope : Text} (other : scope ≠ call.scope) :
    (call.ownersAfter owners).get? scope = owners.get? scope := by
  unfold ownersAfter
  split
  · exact get?_set_of_ne _ other _
  · rfl

/-- **A name that was placed is found** to be its own. -/
theorem Settles.found_after (settles : Settles host owners call disk.target)
    (names : (call.wanted.map fun entry => entry.2.1).Nodup) {entry : Text × Text × ν}
    (member : entry ∈ call.wanted) :
    incumbent (call.ownersAfter owners) call entry.2.1 = some (call.scope, entry.1) := by
  have placed : incumbent (owners.set call.scope (call.rowsPlaced owners)) call entry.2.1 =
      some (call.scope, entry.1) := by
    rw [← settles.found entry member]
    exact incumbent_set (ReconcileCall.ownerByName_rowsAfter names member)
  unfold ReconcileCall.ownersAfter
  split
  · exact placed
  next same =>
    have equal := ReconcileCall.rowsPlaced_of_same (Bool.not_eq_false _ ▸ same)
    have there := call.get?_rowsPlaced owners member
    have recorded : owners.get? call.scope = some (call.rowsPlaced owners) := by
      rw [equal] at there ⊢
      unfold ReconcileCall.rows at there ⊢
      cases found : owners.get? call.scope with
      | some rows => rfl
      | none =>
        rw [found] at there
        cases there
    rwa [set_of_get? recorded] at placed

/-! ## A reconciliation that settles -/

omit [DecidableEq ν] in
theorem undesired_source (rows : OrderedDict Text Text) :
    undesired call (rows.entries.filter fun row => call.touches row.1) = call.stale rows := by
  rw [undesired, List.filter_filter, ReconcileCall.stale]
  exact filter_congr fun row _ => Bool.and_comm _ _

/-- **A reconciliation that settles** places what is desired and records the rows. -/
theorem Settles.reconciles (settles : Settles host owners call disk.target)
    (readable : host.registry.load disk.registry = .ok owners)
    (free : collisionsOf owners call disk.target [] call.wanted = []) :
    ∃ result tape, (reconcileFragments host call).run ⟨[], disk⟩ =
        (.ok result, recordRows host call owners tape) ∧ result.ok = true ∧
      Passes (FragmentDisk.apply host) (OnTheWay call (call.rows owners) disk) ⟨[], disk⟩ tape ∧
      call.Placed (call.rows owners) disk.target call.wanted tape.store.target := by
  have way : OnTheWay call (call.rows owners) disk ⟨[], disk⟩ :=
    ⟨rfl, fun _ => not_mem_nil, fun _ => .inl rfl⟩
  obtain ⟨cleared, middle, removed, aligned, first, recorded, collisions, lookups⟩ :=
    @run_removeStale ν _ host call (call.rows owners) disk
      ((call.rows owners).entries.filter fun row => call.touches row.1)
      { current := disk.target, rows := call.rows owners } ⟨[], disk⟩ rfl way
      (fun row member => .inl ⟨row.1, undesired_source (call.rows owners) ▸ member⟩)
  rw [undesired_source] at recorded lookups
  have stale : ∀ name, name ∈ (call.stale (call.rows owners)).map Prod.snd ↔
      call.Left (call.rows owners) ([] : List (Text × Text × ν)) name := by
    intro name
    rw [List.mem_map]
    constructor
    · rintro ⟨⟨managedId, _⟩, member, rfl⟩
      exact .inl ⟨managedId, member⟩
    · rintro (⟨managedId, member⟩ | ⟨_, impossible, _⟩)
      · exact ⟨(managedId, name), member, rfl⟩
      · cases impossible
  have start : Placing host call (call.rows owners) disk [] cleared middle := by
    refine ⟨recorded, aligned, ⟨fun _ impossible => ?_, fun name _ left => ?_,
      fun name _ stays => ?_⟩, first.last, collisions⟩
    · cases impossible
    · rw [lookups, if_pos ((stale name).mpr left)]
    · rw [lookups, if_neg fun member => stays ((stale name).mp member)]
  obtain ⟨placed, last, run, second, placing⟩ :=
    run_placeDesired settles free call.wanted [] rfl cleared middle start
  refine ⟨placed.result, last, ?_, ?_, first.trans second, ?_⟩
  rotate_left
  · exact congrArg List.isEmpty placing.collisions
  · rw [placing.aligned]
    exact placing.placed
  · rw [run_reconcileFragments_of_free readable free, reconcileOwned_eq]
    rw [run_bind_of_ok removed, run_bind_of_ok run]
    have saved := @run_saveRows ν _ host call owners last
    have rows_eq : placed.rows = call.rowsPlaced owners := placing.recorded
    rw [← rows_eq] at saved
    rw [run_bind_of_ok saved]
    rfl

/-- **A repetition finds nothing to do.** -/
theorem run_reconcileFragments_of_settled
    (readable : host.registry.load tape.store.registry = .ok owners)
    (names : (call.wanted.map fun entry => entry.2.1).Nodup)
    (there : ∀ entry ∈ call.wanted, tape.store.target.get? entry.2.1 = some entry.2.2)
    (recorded : ∀ entry ∈ call.wanted, (call.rows owners).get? entry.1 = some entry.2.1)
    (forgotten : call.stale (call.rows owners) = [])
    (found : ∀ entry ∈ call.wanted, incumbent owners call entry.2.1 = some (call.scope, entry.1)) :
    (reconcileFragments host call).run tape = (.ok ⟨true, false, [], [], []⟩, tape) := by
  have free : collisionsOf owners call tape.store.target [] call.wanted = [] := by
    refine collisionsOf_eq_nil.mpr fun before entry after split => ⟨?_, fun _ => ?_⟩
    · rw [split, map_append, map_cons, nodup_append] at names
      exact fun member => names.2.2 entry.2.1 member entry.2.1 mem_cons_self rfl
    · exact found entry (ReconcileCall.mem_of_split split)
  have noneStale : undesired call
      ((call.rows owners).entries.filter fun row => call.touches row.1) = [] :=
    (undesired_source _).trans forgotten
  have cleared : (removeStale host call
      ((call.rows owners).entries.filter fun row => call.touches row.1)
      { current := tape.store.target, rows := call.rows owners }).run tape =
        (.ok { current := tape.store.target, rows := call.rows owners }, tape) := by
    rw [run_removeStale_of_absent, noneStale]
    · rfl
    · intro row member
      rw [noneStale] at member
      cases member
  have placed := @run_placeDesired_of_quiet ν _ host call.wanted []
    { current := tape.store.target, rows := call.rows owners } tape
    (fun before entry after split => by
      have member := ReconcileCall.mem_of_split split
      have after_eq : placeRows (call.rows owners) before =
          call.rowsAfter (call.rows owners) before := by
        rw [ReconcileCall.rowsAfter, forgotten]
        rfl
      refine ⟨?_, ?_, ?_⟩
      · exact free_of_takes split (collisionsOf_eq_nil.mp free before entry after split) after_eq id
      · refine not_not.mpr ?_
        change (tape.store.target.get? entry.2.1).getD host.null = entry.2.2
        rw [there entry member]
        rfl
      · intro old given _ different
        change (placeRows (call.rows owners) before).get? entry.1 = some old at given
        rw [after_eq, ReconcileCall.get?_rowsAfter split, recorded entry member] at given
        exact absurd (Option.some.inj given).symm different)
  rw [append_nil, placeRows_of_there call.wanted recorded] at placed
  rw [run_reconcileFragments_of_free readable free, reconcileOwned_eq]
  rw [run_bind_of_ok cleared, run_bind_of_ok placed]
  rw [saveRows, if_neg (by rw [sameRows_self]; decide)]
  rfl

/-! ## A reconciliation that is refused -/

structure RefusedFirst (host : FragmentHost ν) (owners : Owners) (call : ReconcileCall ν)
    (target : OrderedDict Text ν) (done : List (Text × Text × ν)) (entry : Text × Text × ν) :
    Prop where
  cleared : ∀ row ∈ call.stale (call.rows owners), target.has row.2 = false
  placed : ∀ other ∈ done, (target.get? other.2.1).getD host.null = other.2.2
  moved : ∀ other ∈ done, ∀ old, (call.rows owners).get? other.1 = some old → old ≠ [] →
    old ≠ other.2.1 → target.has old = false
  differs : (target.get? entry.2.1).getD host.null ≠ entry.2.2
  refused : host.accepts entry.2.1 entry.2.2 = false

/-- **A reconciliation whose first write is refused** does nothing. -/
theorem run_reconcileFragments_of_refused
    (readable : host.registry.load tape.store.registry = .ok owners)
    (free : collisionsOf owners call tape.store.target [] call.wanted = [])
    {done rest : List (Text × Text × ν)} {entry : Text × Text × ν}
    (split : call.wanted = done ++ entry :: rest)
    (refused : RefusedFirst host owners call tape.store.target done entry) :
    (reconcileFragments host call).run tape = (.error "store.write", tape) := by
  obtain ⟨managedId, name, payload⟩ := entry
  have takes := fun before other after (parts : call.wanted = before ++ other :: after) =>
    collisionsOf_eq_nil.mp free before other after parts
  have cleared := @run_removeStale_of_absent ν _ host call
    ((call.rows owners).entries.filter fun row => call.touches row.1)
    { current := tape.store.target, rows := call.rows owners } tape
    (fun row member => refused.cleared row (undesired_source (call.rows owners) ▸ member))
  rw [undesired_source] at cleared
  let start : Reconciling ν :=
    { current := tape.store.target
      rows := (call.rows owners).popAll ((call.stale (call.rows owners)).map Prod.fst) }
  have placed := @run_placeDesired_of_quiet ν _ host done ((managedId, name, payload) :: rest)
    start tape
    (fun before other after parts => by
      have whole : call.wanted =
        before ++ other :: (after ++ (managedId, name, payload) :: rest) := by
        rw [split, parts, append_assoc, cons_append]
      have member : other ∈ done := parts ▸ mem_append_right _ mem_cons_self
      refine ⟨free_of_takes whole (takes before other _ whole) rfl id,
        not_not.mpr (refused.placed other member), fun old given stated different => ?_⟩
      change (call.rowsAfter (call.rows owners) before).get? other.1 = some old at given
      rw [ReconcileCall.get?_rowsAfter whole] at given
      exact refused.moved other member old given stated different)
  have nobodys : ({ start with rows := placeRows start.rows done } : Reconciling ν).free
      managedId name :=
    free_of_takes split (takes done _ rest split) rfl id
  have write := @run_writeDesired_of_refused ν _ host
    { start with rows := placeRows start.rows done } tape name payload refused.differs
    refused.refused
  rw [run_reconcileFragments_of_free readable free, reconcileOwned_eq]
  rw [run_bind_of_ok cleared]
  refine run_bind_of_error ?_
  rw [split, placed, run_placeDesired_cons rest nobodys]
  exact run_bind_of_error write

end Reconciles

end Audiagentic.Toolchains
