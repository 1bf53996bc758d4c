import Audiagentic.Toolchains.FragmentSettling

/-!
# The loops of a reconciliation

The loop over stale entries and the loop over desired ones, each from a round to the whole loop.
Where there is nothing to do they do nothing; where the request settles, they bring the document
and the rows to what they settle on, and are on the way there all along.
-/

namespace Audiagentic.Toolchains

open Foundations List OrderedDict Script

variable {ν : Type} [DecidableEq ν]

section Loops

variable {host : FragmentHost ν} {call : ReconcileCall ν} {owners : Owners}
  {rows : OrderedDict Text Text} {disk : FragmentDisk ν}

/-! ## Stale entries -/

/-- The rows of a source that are stale. -/
def undesired (call : ReconcileCall ν) (source : List (Text × Text)) : List (Text × Text) :=
  source.filter fun row => !call.desired.has row.1

omit [DecidableEq ν] in
theorem undesired_cons_of_desired {row : Text × Text} {rest : List (Text × Text)}
    (desired : call.desired.has row.1 = true) :
    undesired call (row :: rest) = undesired call rest :=
  filter_cons_of_neg (by rw [desired]; decide)

omit [DecidableEq ν] in
theorem undesired_cons {row : Text × Text} {rest : List (Text × Text)}
    (stale : call.desired.has row.1 = false) :
    undesired call (row :: rest) = row :: undesired call rest :=
  filter_cons_of_pos (by rw [stale]; rfl)

theorem run_removeStale_of_absent (source : List (Text × Text)) (state : Reconciling ν)
    (tape : FragmentTape ν)
    (absent : ∀ row ∈ undesired call source, state.current.has row.2 = false) :
    (removeStale host call source state).run tape =
      (.ok { state with
        rows := state.rows.popAll ((undesired call source).map Prod.fst) }, tape) := by
  induction source generalizing state with
  | nil => rfl
  | cons row rest ih =>
    obtain ⟨managedId, oldName⟩ := row
    cases desired : call.desired.has managedId with
    | true =>
      rw [undesired_cons_of_desired desired] at absent ⊢
      rw [run_removeStale_of_desired desired, ih state absent]
    | false =>
      rw [undesired_cons desired] at absent ⊢
      obtain ⟨gone, absent⟩ := forall_mem_cons.mp absent
      rw [run_removeStale_of_gone desired gone, ih]
      · simp only [Reconciling.cleared, gone, Bool.false_or, Bool.false_eq_true, if_false]
        rfl
      · intro other member
        simp only [Reconciling.cleared, gone, Bool.false_eq_true, if_false]
        exact absent other member

/-- **The loop over stale entries.** -/
theorem run_removeStale (source : List (Text × Text)) (state : Reconciling ν)
    (tape : FragmentTape ν) (aligned : Aligned state tape) (way : OnTheWay call rows disk tape)
    (left : ∀ row ∈ undesired call source, call.Left rows call.wanted row.2) :
    ∃ state' tape', (removeStale host call source state).run tape = (.ok state', tape') ∧
      Aligned state' tape' ∧
      Passes (FragmentDisk.apply host) (OnTheWay call rows disk) tape tape' ∧
      state'.rows = state.rows.popAll ((undesired call source).map Prod.fst) ∧
      state'.collisions = state.collisions ∧
      ∀ name, state'.current.get? name =
        if name ∈ (undesired call source).map Prod.snd then none else state.current.get? name := by
  induction source generalizing state tape with
  | nil =>
    exact ⟨state, tape, rfl, aligned, .refl way, rfl, rfl, fun name => (if_neg not_mem_nil).symm⟩
  | cons row rest ih =>
    obtain ⟨managedId, oldName⟩ := row
    cases desired : call.desired.has managedId with
    | true =>
      rw [undesired_cons_of_desired desired] at left ⊢
      rw [run_removeStale_of_desired desired]
      exact ih state tape aligned way left
    | false =>
      rw [undesired_cons desired] at left ⊢
      obtain ⟨here, left⟩ := forall_mem_cons.mp left
      have lookups : ∀ name, (state.cleared managedId oldName).current.get? name =
          if name = oldName then none else state.current.get? name := by
        intro name
        cases there : state.current.has oldName with
        | true =>
          simp only [Reconciling.cleared, there, if_true]
          exact get?_pop _ _ _
        | false =>
          simp only [Reconciling.cleared, there, Bool.false_eq_true, if_false]
          split
          · next same => rw [same, OrderedDict.has_eq_false_iff.mp there]
          · rfl
      have whole : ∀ (current : OrderedDict Text ν), (∀ name, current.get? name =
            if name ∈ (undesired call rest).map Prod.snd then none
            else (state.cleared managedId oldName).current.get? name) →
          ∀ name, current.get? name =
            if name ∈ ((managedId, oldName) :: undesired call rest).map Prod.snd then none
            else state.current.get? name := by
        intro current after name
        rw [after, lookups]
        by_cases same : name = oldName
        · simp [same]
        · rw [if_neg same, map_cons]
          simp only [mem_cons, same, false_or]
      cases there : state.current.has oldName with
      | true =>
        have removed := way.remove host here
        obtain ⟨state', tape', run, aligned', passes, rows_eq, collisions, after⟩ :=
          ih (state.cleared managedId oldName)
            (tape.record (FragmentDisk.apply host) (.remove oldName))
            (by
              simp only [Aligned, Reconciling.cleared, there, if_true]
              exact congrArg (fun target => target.pop oldName) aligned)
            removed left
        refine ⟨state', tape', ?_, aligned', ?_, rows_eq, collisions, whole _ after⟩
        · rw [run_removeStale_of_there desired aligned there, run]
        · exact Passes.trans (.write _ (.refl way) removed) passes
      | false =>
        obtain ⟨state', tape', run, aligned', passes, rows_eq, collisions, after⟩ :=
          ih (state.cleared managedId oldName) tape
            (by
              simp only [Aligned, Reconciling.cleared, there, Bool.false_eq_true, if_false]
              exact aligned)
            way left
        refine ⟨state', tape', ?_, aligned', passes, rows_eq, collisions, whole _ after⟩
        rw [run_removeStale_of_gone desired there, run]

/-! ## Desired entries -/

/-- There is nothing to do for a desired entry. -/
structure Quiet (host : FragmentHost ν) (state : Reconciling ν) (entry : Text × Text × ν) :
    Prop where
  free : state.free entry.1 entry.2.1
  same : ¬ state.differs host entry.2.1 entry.2.2
  kept : ∀ old, state.rows.get? entry.1 = some old → old ≠ [] → old ≠ entry.2.1 →
    state.current.has old = false

theorem run_placeDesired_of_quiet (done rest : List (Text × Text × ν)) (state : Reconciling ν)
    (tape : FragmentTape ν)
    (quiet : ∀ before entry after, done = before ++ entry :: after →
      Quiet host { state with rows := placeRows state.rows before } entry) :
    (placeDesired host (done ++ rest) state).run tape =
      (placeDesired host rest { state with rows := placeRows state.rows done }).run tape := by
  induction done generalizing state with
  | nil => rfl
  | cons entry done ih =>
    obtain ⟨managedId, name, payload⟩ := entry
    have here : Quiet host state (managedId, name, payload) :=
      quiet [] (managedId, name, payload) done rfl
    have kept := @run_dropOldName_of_kept ν _ host
      { state with rows := state.rows.set managedId name } tape _ name here.kept
    rw [cons_append, run_placeDesired_cons _ here.free,
      run_bind_of_ok (run_writeDesired_of_same here.same), run_bind_of_ok kept,
      ih]
    · rfl
    · intro before entry after split
      exact quiet ((managedId, name, payload) :: before) entry after (by rw [split]; rfl)

/-- Where the loop over desired entries is. -/
structure Placing (host : FragmentHost ν) (call : ReconcileCall ν) (rows : OrderedDict Text Text)
    (disk : FragmentDisk ν) (done : List (Text × Text × ν)) (state : Reconciling ν)
    (tape : FragmentTape ν) : Prop where
  recorded : state.rows = call.rowsAfter rows done
  aligned : Aligned state tape
  placed : call.Placed rows disk.target done state.current
  way : OnTheWay call rows disk tape
  collisions : state.collisions = []

theorem run_writeDesired {state : Reconciling ν} {tape : FragmentTape ν}
    {entry : Text × Text × ν} (member : entry ∈ call.wanted) (aligned : Aligned state tape)
    (way : OnTheWay call rows disk tape)
    (shown : entry.2.2 = host.null → state.current.has entry.2.1 = true)
    (writes : host.accepts entry.2.1 entry.2.2 = false →
      state.current.get? entry.2.1 = some entry.2.2) :
    ∃ state' tape', (writeDesired host entry.2.1 entry.2.2 state).run tape = (.ok state', tape') ∧
      Aligned state' tape' ∧
      Passes (FragmentDisk.apply host) (OnTheWay call rows disk) tape tape' ∧
      state'.rows = state.rows ∧ state'.collisions = state.collisions ∧
      ∀ name, state'.current.get? name =
        if name = entry.2.1 then some entry.2.2 else state.current.get? name := by
  by_cases differs : state.differs host entry.2.1 entry.2.2
  · have accepted : host.accepts entry.2.1 entry.2.2 = true := by
      rw [← Bool.not_eq_false]
      intro refused
      refine differs ?_
      rw [writes refused]
      rfl
    have written := way.write host member
    refine ⟨_, _, run_writeDesired_of_differs differs accepted, ?_, .write _ (.refl way) written,
      rfl, rfl, fun name => get?_set _ _ name _⟩
    exact congrArg (fun target => target.set entry.2.1 entry.2.2) aligned
  · refine ⟨state, tape, run_writeDesired_of_same differs, aligned, .refl way, rfl, rfl, ?_⟩
    intro name
    split
    next same =>
      have equal : (state.current.get? entry.2.1).getD host.null = entry.2.2 :=
        not_not.mp differs
      rw [same]
      cases there : state.current.get? entry.2.1 with
      | some payload =>
        rw [there] at equal
        exact congrArg some equal
      | none =>
        rw [there] at equal
        have has := shown equal.symm
        rw [OrderedDict.has, there] at has
        cases has
    · rfl

theorem run_dropOldName {state : Reconciling ν} {tape : FragmentTape ν} {oldName : Option Text}
    {name : Text} (aligned : Aligned state tape) (way : OnTheWay call rows disk tape)
    (left : ∀ old, oldName = some old → old ≠ [] → old ≠ name → call.Left rows call.wanted old) :
    ∃ state' tape', (dropOldName host oldName name state).run tape = (.ok state', tape') ∧
      Aligned state' tape' ∧
      Passes (FragmentDisk.apply host) (OnTheWay call rows disk) tape tape' ∧
      state'.rows = state.rows ∧ state'.collisions = state.collisions ∧
      ∀ other, state'.current.get? other =
        if oldName = some other ∧ other ≠ [] ∧ other ≠ name then none
        else state.current.get? other := by
  by_cases kept : ∀ old, oldName = some old → old ≠ [] → old ≠ name →
      state.current.has old = false
  · refine ⟨state, tape, run_dropOldName_of_kept kept, aligned, .refl way, rfl, rfl, ?_⟩
    intro other
    split
    next former =>
      exact OrderedDict.has_eq_false_iff.mp (kept other former.1 former.2.1 former.2.2)
    · rfl
  · push Not at kept
    obtain ⟨old, rfl, stated, different, there⟩ := kept
    have there : state.current.has old = true := Bool.not_eq_false _ ▸ there
    have removed := way.remove host (left old rfl stated different)
    refine ⟨_, _, run_dropOldName_of_there stated different aligned there, ?_,
      .write _ (.refl way) removed, rfl, rfl, ?_⟩
    · exact congrArg (fun target => target.pop old) aligned
    · intro other
      change (state.current.pop old).get? other = _
      rw [get?_pop]
      by_cases same : other = old
      · rw [if_pos same, if_pos ⟨congrArg some same.symm, same ▸ stated, same ▸ different⟩]
      · rw [if_neg same, if_neg fun former => same (Option.some.inj former.1).symm]

/-- **One round of the loop over desired entries.** -/
theorem Placing.step (settles : Settles host owners call disk.target)
    {done rest : List (Text × Text × ν)} {entry : Text × Text × ν}
    (split : call.wanted = done ++ entry :: rest) (fresh : ∀ other ∈ done, other.2.1 ≠ entry.2.1)
    {state : Reconciling ν} {tape : FragmentTape ν}
    (placing : Placing host call (call.rows owners) disk done state tape) :
    ∃ state' tape', (writeDesired host entry.2.1 entry.2.2 state >>= fun state' =>
        dropOldName host (state.rows.get? entry.1) entry.2.1
          { state' with rows := state'.rows.set entry.1 entry.2.1 }).run tape =
            (.ok state', tape') ∧
      Passes (FragmentDisk.apply host) (OnTheWay call (call.rows owners) disk) tape tape' ∧
      Placing host call (call.rows owners) disk (done ++ [entry]) state' tape' := by
  have member := ReconcileCall.mem_of_split split
  have former : state.rows.get? entry.1 = (call.rows owners).get? entry.1 := by
    rw [placing.recorded, ReconcileCall.get?_rowsAfter split]
  obtain ⟨written, middle, write, aligned, first, recorded, collisions, afterWrite⟩ :=
    @run_writeDesired ν _ host call (call.rows owners) disk state tape entry member placing.aligned
      placing.way
      (fun null => by
        obtain ⟨has, stays⟩ := settles.shown done entry rest split null
        rw [OrderedDict.has, placing.placed.kept entry.2.1 fresh stays]
        exact has)
      (fun refused => by
        obtain ⟨has, stays⟩ := settles.writes done entry rest split refused
        rw [placing.placed.kept entry.2.1 fresh stays]
        exact has)
  obtain ⟨state', tape', drop, aligned', second, recorded', collisions', afterDrop⟩ :=
    @run_dropOldName ν _ host call (call.rows owners) disk
      { written with rows := written.rows.set entry.1 entry.2.1 } middle
      (state.rows.get? entry.1) entry.2.1 aligned first.last
      (fun old given stated different =>
        .inr ⟨entry, member, former.symm.trans given, stated, different⟩)
  have notFormer : ∀ other ∈ done,
      ¬ (state.rows.get? entry.1 = some other.2.1 ∧ other.2.1 ≠ [] ∧ other.2.1 ≠ entry.2.1) := by
    rintro other early ⟨given, stated, different⟩
    exact settles.apart done entry rest split other.2.1 (former.symm.trans given) stated different
      other early rfl
  refine ⟨state', tape', ?_, first.trans second, ?_, aligned', ⟨?_, ?_, ?_⟩, second.last, ?_⟩
  · rw [run_bind_of_ok write, drop]
  · rw [recorded']
    change written.rows.set entry.1 entry.2.1 = _
    rw [recorded, placing.recorded, ReconcileCall.rowsAfter, ReconcileCall.rowsAfter, placeRows,
      placeRows, foldl_append]
    rfl
  · intro other there
    rw [afterDrop]
    change (if _ then none else written.current.get? other.2.1) = _
    rw [afterWrite]
    rcases mem_append.mp there with early | now
    · rw [if_neg (notFormer other early), if_neg (fresh other early)]
      exact placing.placed.there other early
    · rw [mem_singleton.mp now, if_neg fun given => given.2.2 rfl, if_pos rfl]
  · intro name outside left
    rw [afterDrop]
    change (if _ then none else written.current.get? name) = _
    split
    · rfl
    next kept =>
      have other : name ≠ entry.2.1 := fun same =>
        outside entry (mem_append_right _ (mem_singleton_self _)) same.symm
      rw [afterWrite, if_neg other]
      refine placing.placed.gone name
        (fun early there => outside early (mem_append_left _ there)) ?_
      rcases left with stale | ⟨giver, there, given, stated, different⟩
      · exact .inl stale
      rcases mem_append.mp there with early | now
      · exact .inr ⟨giver, early, given, stated, different⟩
      · obtain rfl := mem_singleton.mp now
        exact absurd ⟨former.trans given, stated, different⟩ kept
  · intro name outside stays
    have other : name ≠ entry.2.1 := fun same =>
      outside entry (mem_append_right _ (mem_singleton_self _)) same.symm
    have kept : ¬ (state.rows.get? entry.1 = some name ∧ name ≠ [] ∧ name ≠ entry.2.1) := by
      rintro ⟨given, stated, different⟩
      exact stays (.inr ⟨entry, mem_append_right _ (mem_singleton_self _),
        former.symm.trans given, stated, different⟩)
    rw [afterDrop, if_neg kept]
    change written.current.get? name = _
    rw [afterWrite, if_neg other]
    exact placing.placed.kept name
      (fun early there => outside early (mem_append_left _ there))
      (fun left => stays (left.mono fun _ => mem_append_left _))
  · exact collisions'.trans (collisions.trans placing.collisions)

/-- **The loop over desired entries.** -/
theorem run_placeDesired (settles : Settles host owners call disk.target)
    (free : collisionsOf owners call disk.target [] call.wanted = [])
    (rest done : List (Text × Text × ν)) (split : call.wanted = done ++ rest)
    (state : Reconciling ν) (tape : FragmentTape ν)
    (placing : Placing host call (call.rows owners) disk done state tape) :
    ∃ state' tape', (placeDesired host rest state).run tape = (.ok state', tape') ∧
      Passes (FragmentDisk.apply host) (OnTheWay call (call.rows owners) disk) tape tape' ∧
      Placing host call (call.rows owners) disk call.wanted state' tape' := by
  induction rest generalizing done state tape with
  | nil =>
    rw [append_nil] at split
    exact ⟨state, tape, rfl, .refl placing.way, split ▸ placing⟩
  | cons entry rest ih =>
    obtain ⟨managedId, name, payload⟩ := entry
    have takes := collisionsOf_eq_nil.mp free done _ rest split
    have fresh : ∀ other ∈ done, other.2.1 ≠ name :=
      fun other early same => takes.fresh (List.mem_map.mpr ⟨other, early, same⟩)
    have free : state.free managedId name := by
      refine free_of_takes split takes placing.recorded fun has => ?_
      by_cases left : call.Left (call.rows owners) done name
      · rw [OrderedDict.has, placing.placed.gone name fresh left] at has
        cases has
      · rw [OrderedDict.has, placing.placed.kept name fresh left] at has
        exact has
    obtain ⟨next, middle, run, first, placed⟩ := placing.step settles split fresh
    obtain ⟨state', tape', later, second, all⟩ := ih (done ++ [_])
      (by rw [split, append_assoc, singleton_append]) next middle placed
    refine ⟨state', tape', ?_, first.trans second, all⟩
    rw [run_placeDesired_cons rest free, ← later,
      ← @run_bind_of_ok _ _ _ _ _ (placeDesired host rest) _ _ _ run,
      ← run_bind_assoc]

end Loops

end Audiagentic.Toolchains
