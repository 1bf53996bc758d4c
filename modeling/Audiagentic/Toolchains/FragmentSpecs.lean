import Audiagentic.Toolchains.Fragments

/-!
# One round of a reconciliation

What a stale entry and a desired entry do to the document, while the local copy of it is what the
store has.  Owners of names are looked up in the rows of the scope, of which the last one counts;
rows of other names and other managed ids do not change it.
-/

namespace Audiagentic.Toolchains

open Foundations Script Option

variable {ν : Type} [DecidableEq ν]

/-! ## Collisions -/

/-- Names that collide with nothing. -/
structure Takes (owners : Owners) (call : ReconcileCall ν) (target : OrderedDict Text ν)
    (before : List (Text × Text × ν)) (entry : Text × Text × ν) : Prop where
  fresh : entry.2.1 ∉ before.map fun other => other.2.1
  mine : target.has entry.2.1 = true →
    incumbent owners call entry.2.1 = some (call.scope, entry.1)

omit [DecidableEq ν] in
/-- **A request without collisions** takes only names that are its own or nobody's. -/
theorem collisionsOf_eq_nil {owners : Owners} {call : ReconcileCall ν}
    {target : OrderedDict Text ν} {entries : List (Text × Text × ν)} :
    collisionsOf owners call target [] entries = [] ↔
      ∀ before entry after, entries = before ++ entry :: after →
        Takes owners call target before entry := by
  have each : ∀ (rest done : List (Text × Text × ν)),
      collisionsOf owners call target (done.reverse.map fun other => other.2.1) rest = [] ↔
        ∀ before entry after, rest = before ++ entry :: after →
          Takes owners call target (done ++ before) entry := by
    intro rest
    induction rest with
    | nil =>
      intro done
      refine iff_of_true rfl fun before entry after split => ?_
      cases before <;> cases split
    | cons entry rest ih =>
      intro done
      have later := ih (done ++ [entry])
      rw [List.reverse_append, List.map_append] at later
      have here : ((done.reverse.map fun other => other.2.1).contains entry.2.1 ||
          (target.has entry.2.1 &&
            incumbent owners call entry.2.1 ≠ some (call.scope, entry.1))) = false ↔
          Takes owners call target done entry := by
        rw [Bool.or_eq_false_iff, Bool.and_eq_false_imp, Bool.eq_false_iff]
        simp only [ne_eq, List.contains_iff_mem, List.mem_map, List.mem_reverse,
          decide_not, Bool.not_eq_false', decide_eq_true_eq]
        exact ⟨fun both => ⟨by simpa using both.1, both.2⟩,
          fun takes => ⟨by simpa using takes.fresh, takes.mine⟩⟩
      constructor
      · intro none before other after split
        unfold collisionsOf at none
        simp only at none
        split at none
        · cases none
        next free =>
          cases before with
          | nil =>
            cases split
            rw [List.append_nil]
            exact here.mp (Bool.eq_false_iff.mpr free)
          | cons _ before =>
            obtain ⟨rfl, rest_eq⟩ := List.cons_eq_cons.mp split
            rw [← List.singleton_append, ← List.append_assoc]
            exact later.mp none before other after rest_eq
      · intro all
        have free := here.mpr (by
          have := all [] entry rest rfl
          rwa [List.append_nil] at this)
        unfold collisionsOf
        simp only
        rw [if_neg (by rw [free]; decide)]
        refine later.mpr fun before other after split => ?_
        rw [List.append_assoc]
        exact all (entry :: before) other after (by rw [split]; rfl)
  exact each entries []

/-! ## Owners of names -/

def rowsNamed (rows : OrderedDict Text Text) (name : Text) : List (Text × Text) :=
  rows.entries.filter fun row => row.2 = name

theorem ownerByName_eq (rows : OrderedDict Text Text) (name : Text) :
    ownerByName rows name = (rowsNamed rows name).getLast?.map Prod.fst := by
  rw [ownerByName, rowsNamed, ← List.head?_reverse, ← List.filter_reverse, ← List.head?_filter]

variable {managedId name : Text} {rows : OrderedDict Text Text}

theorem rowsNamed_set {value : Text} (different : value ≠ name) :
    rowsNamed (rows.set managedId value) name =
      (rowsNamed rows name).filter fun row => row.1 ≠ managedId := by
  have each : ∀ entries : List (Text × Text), (entries.map Prod.fst).Nodup →
      (OrderedDict.setEntries managedId value entries).filter (fun row => row.2 = name) =
        (entries.filter fun row => row.2 = name).filter fun row => row.1 ≠ managedId := by
    intro entries
    induction entries with
    | nil =>
      intro _
      simp [OrderedDict.setEntries, different]
    | cons entry rest ih =>
      intro nodup
      obtain ⟨key, old⟩ := entry
      obtain ⟨fresh, nodup⟩ := List.nodup_cons.mp nodup
      rw [OrderedDict.setEntries]
      by_cases same : key = managedId
      · subst same
        have untouched : (rest.filter fun row => row.2 = name).filter (fun row => row.1 ≠ key) =
            rest.filter fun row => row.2 = name := by
          refine List.filter_eq_self.mpr fun row member => ?_
          refine decide_eq_true fun equal => fresh ?_
          exact List.mem_map.mpr ⟨row, List.mem_of_mem_filter member, equal⟩
        rw [if_pos rfl, List.filter_cons_of_neg (by simpa using different)]
        by_cases named : old = name
        · rw [List.filter_cons_of_pos (by simpa using named),
            List.filter_cons_of_neg (by simp), untouched]
        · rw [List.filter_cons_of_neg (by simpa using named), untouched]
      · rw [if_neg same]
        by_cases named : old = name
        · rw [List.filter_cons_of_pos (by simpa using named),
            List.filter_cons_of_pos (by simpa using named),
            List.filter_cons_of_pos (by simpa using same), ih nodup]
        · rw [List.filter_cons_of_neg (by simpa using named),
            List.filter_cons_of_neg (by simpa using named), ih nodup]
  exact each rows.entries rows.nodup

theorem rowsNamed_pop (rows : OrderedDict Text Text) (managedId name : Text) :
    rowsNamed (rows.pop managedId) name =
      (rowsNamed rows name).filter fun row => row.1 ≠ managedId := by
  rw [rowsNamed, rowsNamed, OrderedDict.pop, List.filter_comm]

theorem getLast?_filter {α : Type} {items : List α} {last : α} {keeps : α → Bool}
    (ends : items.getLast? = some last) (kept : keeps last = true) :
    (items.filter keeps).getLast? = some last := by
  obtain ⟨before, rfl⟩ := List.getLast?_eq_some_iff.mp ends
  rw [List.filter_append, List.filter_cons_of_pos kept]
  exact List.getLast?_concat

theorem ownerByName_of_filter {first second : OrderedDict Text Text} {other : Text}
    (rows : rowsNamed second name = (rowsNamed first name).filter fun row => row.1 ≠ other)
    (different : managedId ≠ other) (owner : ownerByName first name = some managedId) :
    ownerByName second name = some managedId := by
  rw [ownerByName_eq] at owner ⊢
  obtain ⟨row, last, same⟩ := map_eq_some_iff.mp owner
  rw [rows, getLast?_filter last (by rw [same]; exact decide_eq_true different), map_some, same]

theorem ownerByName_set {other value : Text} (different : value ≠ name) (apart : managedId ≠ other)
    (owner : ownerByName rows name = some managedId) :
    ownerByName (rows.set other value) name = some managedId :=
  ownerByName_of_filter (rowsNamed_set different) apart owner

theorem ownerByName_pop {other : Text} (apart : managedId ≠ other)
    (owner : ownerByName rows name = some managedId) :
    ownerByName (rows.pop other) name = some managedId :=
  ownerByName_of_filter (rowsNamed_pop rows other name) apart owner

theorem get?_of_ownerByName (owner : ownerByName rows name = some managedId) :
    rows.get? managedId = some name := by
  obtain ⟨row, found, same⟩ := map_eq_some_iff.mp owner
  have named : row.2 = name := by simpa using List.find?_some found
  have member : row ∈ rows.entries := List.mem_reverse.mp (List.mem_of_find?_eq_some found)
  rw [← same, ← named]
  exact OrderedDict.mem_entries_iff.mp member

/-! ## One round -/

section Rounds

variable (host : FragmentHost ν) (call : ReconcileCall ν)

/-- The local copy of the document is what the store has. -/
def Aligned (state : Reconciling ν) (tape : FragmentTape ν) : Prop :=
  tape.store.target = state.current

def Reconciling.cleared (state : Reconciling ν) (managedId oldName : Text) : Reconciling ν :=
  { state with
    rows := state.rows.pop managedId
    removed := if state.current.has oldName then state.removed ++ [oldName] else state.removed
    changed := state.current.has oldName || state.changed
    current := if state.current.has oldName then state.current.pop oldName else state.current }

def Reconciling.differs (state : Reconciling ν) (name : Text) (payload : ν) : Prop :=
  (state.current.get? name).getD host.null ≠ payload

def Reconciling.wrote (state : Reconciling ν) (name : Text) (payload : ν) : Reconciling ν :=
  { state with
    current := state.current.set name payload
    updated := if state.updated.contains name then state.updated else state.updated ++ [name]
    changed := true }

def Reconciling.dropped (state : Reconciling ν) (old : Text) : Reconciling ν :=
  { state with
    removed := state.removed ++ [old]
    current := state.current.pop old }

variable {host call} {state : Reconciling ν} {tape : FragmentTape ν}

theorem run_removeFragment {name : Text} (there : tape.store.target.has name = true) :
    (removeFragment host name).run tape =
      (.ok true, tape.record (FragmentDisk.apply host) (.remove name)) := by
  change (if tape.store.target.has name then do
      Script.put (FragmentDisk.apply host) (.remove name)
      return true
    else return false : FragmentScript ν Bool).run tape = _
  rw [if_pos there]
  rfl

variable {rest : List (Text × Text)}

theorem run_removeStale_of_desired {oldName : Text} (desired : call.desired.has managedId = true) :
    (removeStale host call ((managedId, oldName) :: rest) state).run tape =
      (removeStale host call rest state).run tape := by
  rw [removeStale, if_pos desired]

theorem run_removeStale_of_there {oldName : Text} (undesired : call.desired.has managedId = false)
    (aligned : Aligned state tape) (there : state.current.has oldName = true) :
    (removeStale host call ((managedId, oldName) :: rest) state).run tape =
      (removeStale host call rest (state.cleared managedId oldName)).run
        (tape.record (FragmentDisk.apply host) (.remove oldName)) := by
  rw [removeStale, if_neg (by rw [undesired]; decide), if_pos there,
    run_bind_of_ok (run_removeFragment (by rw [aligned]; exact there))]
  simp only [Reconciling.cleared, there, if_true, Bool.true_or]

theorem run_removeStale_of_gone {oldName : Text} (undesired : call.desired.has managedId = false)
    (gone : state.current.has oldName = false) :
    (removeStale host call ((managedId, oldName) :: rest) state).run tape =
      (removeStale host call rest (state.cleared managedId oldName)).run tape := by
  rw [removeStale, if_neg (by rw [undesired]; decide), if_neg (by rw [gone]; decide)]
  simp only [Reconciling.cleared, gone, if_false, Bool.false_or, Bool.false_eq_true]
  rfl

theorem run_writeDesired_of_differs {payload : ν} (differs : state.differs host name payload)
    (accepted : host.accepts name payload = true) :
    (writeDesired host name payload state).run tape =
      (.ok (state.wrote name payload),
        tape.record (FragmentDisk.apply host) (.write name payload)) := by
  have write : (writeFragment host name payload).run tape =
      (.ok (), tape.record (FragmentDisk.apply host) (.write name payload)) := by
    rw [writeFragment, if_pos accepted]
    rfl
  have other : (state.current.get? name).getD host.null ≠ payload := differs
  rw [writeDesired, if_pos other, run_bind_of_ok write]
  rfl

theorem run_writeDesired_of_refused {name : Text} {payload : ν}
    (differs : state.differs host name payload) (refused : host.accepts name payload = false) :
    (writeDesired host name payload state).run tape = (.error "store.write", tape) := by
  have other : (state.current.get? name).getD host.null ≠ payload := differs
  rw [writeDesired, if_pos other]
  refine run_bind_of_error ?_
  rw [writeFragment, if_neg (by rw [refused]; decide)]
  rfl

theorem run_writeDesired_of_same {payload : ν} (same : ¬ state.differs host name payload) :
    (writeDesired host name payload state).run tape = (.ok state, tape) := by
  have equal : ¬ (state.current.get? name).getD host.null ≠ payload := same
  rw [writeDesired, if_neg equal]
  rfl

theorem run_dropOldName_of_there {old : Text} (stated : old ≠ []) (other : old ≠ name)
    (aligned : Aligned state tape) (there : state.current.has old = true) :
    (dropOldName host (some old) name state).run tape =
      (.ok (state.dropped old), tape.record (FragmentDisk.apply host) (.remove old)) := by
  have remove := @run_removeFragment ν _ host tape old (by rw [aligned]; exact there)
  rw [dropOldName, if_pos ⟨stated, other, there⟩, run_bind_of_ok remove]
  rfl

theorem run_dropOldName_of_kept {oldName : Option Text} {name : Text}
    (kept : ∀ old, oldName = some old → old ≠ [] → old ≠ name → state.current.has old = false) :
    (dropOldName host oldName name state).run tape = (.ok state, tape) := by
  cases oldName with
  | none => rfl
  | some old =>
    rw [dropOldName, if_neg]
    · rfl
    · rintro ⟨stated, other, there⟩
      rw [kept old rfl stated other] at there
      cases there

def Reconciling.free (state : Reconciling ν) (managedId name : Text) : Prop :=
  state.current.has name = true → ownerByName state.rows name = some managedId

theorem run_placeDesired_cons {payload : ν} (rest : List (Text × Text × ν))
    (free : state.free managedId name) (tape : FragmentTape ν) :
    (placeDesired host ((managedId, name, payload) :: rest) state).run tape =
      (writeDesired host name payload state >>= fun state' =>
        dropOldName host (state.rows.get? managedId) name
          { state' with rows := state'.rows.set managedId name } >>= fun state' =>
            placeDesired host rest state').run tape := by
  have passes : ¬ (state.current.has name = true ∧ ownerByName state.rows name ≠ none ∧
      ownerByName state.rows name ≠ some managedId) := by
    rintro ⟨has, -, other⟩
    exact other (free has)
  rw [placeDesired, if_neg passes]

end Rounds

end Audiagentic.Toolchains
