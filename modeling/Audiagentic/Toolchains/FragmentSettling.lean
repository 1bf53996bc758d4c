import Audiagentic.Toolchains.FragmentSpecs

/-!
# What a reconciliation settles on

Rows and names are followed through the two loops of a reconciliation.  The rows lose those of stale
entries and get those of the desired ones; the document loses stale and former names and gets the
payloads.  Where the loops do not undo what they did, the outcome depends on the document only at
names that are nobody's business, so that a document on the way leads to the same outcome.
-/

namespace Audiagentic.Toolchains

open Foundations List OrderedDict

variable {ν : Type} [DecidableEq ν]

/-! ## Rows -/

def ReconcileCall.rows (call : ReconcileCall ν) (owners : Owners) : OrderedDict Text Text :=
  (owners.get? call.scope).getD ∅

/-- The owned entries that the call touches and that are no longer desired. -/
def ReconcileCall.stale (call : ReconcileCall ν) (rows : OrderedDict Text Text) :
    List (Text × Text) :=
  rows.entries.filter fun row => call.touches row.1 && !call.desired.has row.1

def placeRows (rows : OrderedDict Text Text) (done : List (Text × Text × ν)) :
    OrderedDict Text Text :=
  done.foldl (fun rows entry => rows.set entry.1 entry.2.1) rows

/-- Rows without the stale ones, and with those of entries that were placed. -/
def ReconcileCall.rowsAfter (call : ReconcileCall ν) (rows : OrderedDict Text Text)
    (done : List (Text × Text × ν)) : OrderedDict Text Text :=
  placeRows (rows.popAll ((call.stale rows).map Prod.fst)) done

variable {entry : Text × Text × ν} {managedId name : Text} {rest : List (Text × Text × ν)}

section Rows

omit [DecidableEq ν]

variable {call : ReconcileCall ν} {rows : OrderedDict Text Text} {done : List (Text × Text × ν)}

theorem get?_placeRows_of_not_mem (fresh : managedId ∉ done.map Prod.fst) :
    (placeRows rows done).get? managedId = rows.get? managedId := by
  unfold placeRows
  induction done generalizing rows with
  | nil => rfl
  | cons entry rest ih =>
    rw [map_cons, mem_cons, not_or] at fresh
    rw [foldl_cons, ih fresh.2, get?_set_of_ne _ fresh.1]

theorem get?_placeRows_of_mem (ids : (done.map Prod.fst).Nodup) (member : entry ∈ done) :
    (placeRows rows done).get? entry.1 = some entry.2.1 := by
  induction done generalizing rows with
  | nil => cases member
  | cons first rest ih =>
    obtain ⟨fresh, ids⟩ := nodup_cons.mp ids
    change (placeRows (rows.set first.1 first.2.1) rest).get? entry.1 = _
    rcases mem_cons.mp member with rfl | later
    · rw [get?_placeRows_of_not_mem fresh, get?_set_self]
    · exact ih ids later

theorem ownerByName_placeRows (fresh : managedId ∉ done.map Prod.fst)
    (apart : name ∉ done.map fun other => other.2.1)
    (owner : ownerByName rows name = some managedId) :
    ownerByName (placeRows rows done) name = some managedId := by
  unfold placeRows
  induction done generalizing rows with
  | nil => exact owner
  | cons entry rest ih =>
    rw [map_cons, mem_cons, not_or] at fresh apart
    rw [foldl_cons]
    exact ih fresh.2 apart.2
      (ownerByName_set (fun same => apart.1 same.symm) fresh.1 owner)

theorem ownerByName_popAll {keys : List Text} (fresh : managedId ∉ keys)
    (owner : ownerByName rows name = some managedId) :
    ownerByName (rows.popAll keys) name = some managedId := by
  unfold OrderedDict.popAll
  induction keys generalizing rows with
  | nil => exact owner
  | cons key keys ih =>
    rw [mem_cons, not_or] at fresh
    exact ih fresh.2 (ownerByName_pop fresh.1 owner)

theorem ReconcileCall.mem_stale :
    (managedId, name) ∈ call.stale rows ↔ rows.get? managedId = some name ∧
      call.touches managedId = true ∧ call.desired.has managedId = false := by
  rw [stale, mem_filter, OrderedDict.mem_entries_iff, Bool.and_eq_true, Bool.not_eq_true']

theorem ReconcileCall.mem_stale_ids :
    managedId ∈ (call.stale rows).map Prod.fst ↔ rows.has managedId = true ∧
      call.touches managedId = true ∧ call.desired.has managedId = false := by
  rw [List.mem_map, has_iff]
  constructor
  · rintro ⟨⟨_, name⟩, member, rfl⟩
    obtain ⟨there, touched, undesired⟩ := mem_stale.mp member
    exact ⟨⟨name, there⟩, touched, undesired⟩
  · rintro ⟨⟨name, there⟩, touched, undesired⟩
    exact ⟨(managedId, name), mem_stale.mpr ⟨there, touched, undesired⟩, rfl⟩

/-! ## Desired entries -/

theorem ReconcileCall.mem_wanted {payload : ν} :
    (managedId, name, payload) ∈ call.wanted ↔
      call.desired.get? managedId = some (name, payload) ∧ call.touches managedId = true := by
  rw [wanted, mem_filter, OrderedDict.mem_entries_iff]

theorem ReconcileCall.desired_of_wanted (member : entry ∈ call.wanted) :
    call.desired.has entry.1 = true :=
  has_iff.mpr ⟨entry.2, (mem_wanted.mp member).1⟩

theorem ReconcileCall.ids_nodup : (call.wanted.map Prod.fst).Nodup :=
  call.desired.nodup.sublist (List.Sublist.map Prod.fst filter_sublist)

theorem ReconcileCall.mem_of_split (split : call.wanted = done ++ entry :: rest) :
    entry ∈ call.wanted := by
  rw [split]
  exact mem_append_right _ mem_cons_self

theorem ReconcileCall.fresh_of_split (split : call.wanted = done ++ entry :: rest) :
    entry.1 ∉ done.map Prod.fst := by
  have ids := call.ids_nodup
  rw [split, map_append, map_cons, nodup_append] at ids
  exact fun member => ids.2.2 entry.1 member entry.1 mem_cons_self rfl

theorem ReconcileCall.not_stale (member : entry ∈ call.wanted) :
    entry.1 ∉ (call.stale rows).map Prod.fst := by
  intro stale
  have undesired := (mem_stale_ids.mp stale).2.2
  rw [desired_of_wanted member] at undesired
  cases undesired

/-- **In a request without collisions no name is wanted twice.** -/
theorem ReconcileCall.names_nodup {owners : Owners} {target : OrderedDict Text ν}
    (free : collisionsOf owners call target [] call.wanted = []) :
    (call.wanted.map fun entry => entry.2.1).Nodup := by
  have each : ∀ entries : List (Text × Text × ν),
      (∀ before entry after, entries = before ++ entry :: after →
        Takes owners call target before entry) → (entries.map fun entry => entry.2.1).Nodup := by
    intro entries takes
    induction entries using List.reverseRecOn with
    | nil => exact nodup_nil
    | append_singleton before last ih =>
      rw [map_append, map_singleton, ← concat_eq_append]
      refine List.Nodup.concat (takes before last [] rfl).fresh (ih ?_)
      intro first entry after split
      refine takes first entry (after ++ [last]) ?_
      rw [split, append_assoc, cons_append]
  exact each _ (collisionsOf_eq_nil.mp free)

/-! ## Owners after the loops -/

/-- The managed id is one that the call does not touch, or a given one. -/
def ReconcileCall.spares (call : ReconcileCall ν) (managedId other : Text) : Bool :=
  !call.touches other || other = managedId

/-- The rows of managed ids that the call does not touch, and of a given one. -/
def ReconcileCall.beside (call : ReconcileCall ν) (rows : OrderedDict Text Text)
    (managedId : Text) : OrderedDict Text Text :=
  rows.restrict (call.spares managedId)

theorem ReconcileCall.spares_self (managedId : Text) : call.spares managedId managedId = true := by
  simp [spares]

theorem ReconcileCall.spares_of_touched {other : Text} (touched : call.touches other = true)
    (different : other ≠ managedId) : call.spares managedId other = false := by
  rw [spares, touched, decide_eq_false different]
  rfl

theorem ReconcileCall.wanted_of_rowsAfter
    (there : (call.rowsAfter rows call.wanted).get? managedId = some name)
    (touched : call.touches managedId = true) :
    ∃ payload, (managedId, name, payload) ∈ call.wanted := by
  by_cases placed : managedId ∈ call.wanted.map Prod.fst
  · obtain ⟨⟨_, other, payload⟩, member, rfl⟩ := List.mem_map.mp placed
    have named : (call.rowsAfter rows call.wanted).get? _ = some other :=
      get?_placeRows_of_mem call.ids_nodup member
    obtain rfl : other = name := Option.some.inj (named.symm.trans there)
    exact ⟨payload, member⟩
  · have undesired : call.desired.has managedId = false := by
      refine OrderedDict.has_eq_false_iff.mpr ?_
      cases found : call.desired.get? managedId with
      | none => rfl
      | some value =>
        exact absurd (List.mem_map.mpr ⟨(managedId, value), mem_wanted.mpr ⟨found, touched⟩, rfl⟩)
          placed
    rw [rowsAfter, get?_placeRows_of_not_mem placed, get?_popAll] at there
    split at there
    · cases there
    next kept => exact absurd (mem_stale_ids.mpr
        ⟨has_iff.mpr ⟨name, there⟩, touched, undesired⟩) kept

theorem ReconcileCall.restrict_rowsAfter (member : entry ∈ call.wanted) :
    (call.rowsAfter rows call.wanted).restrict (call.spares entry.1) =
      (call.beside rows entry.1).set entry.1 entry.2.1 := by
  have placed : ∀ (done : List (Text × Text × ν)) (rows : OrderedDict Text Text),
      (∀ other ∈ done, call.touches other.1 = true ∧ other.1 ≠ entry.1) →
      (placeRows rows done).restrict (call.spares entry.1) =
        rows.restrict (call.spares entry.1) := by
    intro done
    induction done with
    | nil => exact fun _ _ => rfl
    | cons other rest ih =>
      intro rows apart
      obtain ⟨here, later⟩ := forall_mem_cons.mp apart
      change (placeRows (rows.set other.1 other.2.1) rest).restrict _ = _
      rw [ih _ later, restrict_set_of_dropped (spares_of_touched here.1 here.2)]
  obtain ⟨before, after, split⟩ := append_of_mem member
  have ids := call.ids_nodup
  have touched : ∀ other ∈ call.wanted, call.touches other.1 = true :=
    fun other there => (mem_wanted.mp there).2
  rw [split, map_append, map_cons, nodup_append] at ids
  rw [split] at touched
  have fresh := (nodup_cons.mp ids.2.1).1
  have early : ∀ other ∈ before, call.touches other.1 = true ∧ other.1 ≠ entry.1 := by
    intro other there
    exact ⟨touched other (mem_append_left _ there),
      ids.2.2 other.1 (List.mem_map.mpr ⟨other, there, rfl⟩) entry.1 mem_cons_self⟩
  have late : ∀ other ∈ after, call.touches other.1 = true ∧ other.1 ≠ entry.1 := by
    intro other there
    refine ⟨touched other (mem_append_right _ (mem_cons_of_mem _ there)), fun same => ?_⟩
    exact fresh (List.mem_map.mpr ⟨other, there, same⟩)
  have stale : ∀ other ∈ (call.stale rows).map Prod.fst,
      call.spares entry.1 other = false := by
    intro other there
    refine spares_of_touched (mem_stale_ids.mp there).2.1 ?_
    rintro rfl
    exact not_stale member there
  rw [rowsAfter, split, placeRows, foldl_append, foldl_cons]
  change (placeRows ((placeRows _ before).set entry.1 entry.2.1) after).restrict _ = _
  rw [placed after _ late, restrict_set_of_kept (spares_self entry.1), placed before _ early,
    restrict_popAll_of_dropped stale]
  rfl

/-- **The owner of a name that was placed** is looked up among its own row and those of managed ids
that the call does not touch. -/
theorem ReconcileCall.ownerByName_rowsAfter (names : (call.wanted.map fun entry => entry.2.1).Nodup)
    (member : entry ∈ call.wanted) :
    ownerByName (call.rowsAfter rows call.wanted) entry.2.1 =
      ownerByName ((call.beside rows entry.1).set entry.1 entry.2.1) entry.2.1 := by
  rw [ownerByName_eq, ownerByName_eq, ← restrict_rowsAfter member]
  congr 2
  change _ = List.filter _ (List.filter _ _)
  rw [List.filter_filter]
  refine filter_congr fun row there => ?_
  by_cases named : row.2 = entry.2.1
  · have found := OrderedDict.mem_entries_iff.mp there
    by_cases touched : call.touches row.1 = true
    · obtain ⟨payload, other⟩ := wanted_of_rowsAfter found touched
      have same := inj_on_of_nodup_map names other member named
      rw [← same, spares_self, Bool.and_true]
    · rw [spares, Bool.eq_false_iff.mpr touched, Bool.not_false, Bool.true_or, Bool.and_true]
  · rw [decide_eq_false named, Bool.false_and]

end Rows

/-! ## Incumbents -/

section Incumbents

omit [DecidableEq ν]

variable {call : ReconcileCall ν}

theorem findSome?_filter {α β : Type} (keeps : α → Bool) (find : α → Option β) (items : List α) :
    (items.filter keeps).findSome? find =
      items.findSome? fun item => if keeps item then find item else none := by
  induction items with
  | nil => rfl
  | cons item rest ih =>
    rw [filter_cons, findSome?_cons]
    split
    · rw [findSome?_cons, ih]
    · exact ih

theorem ownerByName_of_incumbent {owners : Owners}
    (found : incumbent owners call name = some (call.scope, managedId)) :
    ownerByName (call.rows owners) name = some managedId := by
  obtain ⟨⟨scope, rows⟩, member, owner⟩ := exists_of_findSome?_eq_some found
  obtain ⟨other, owns, same⟩ := Option.map_eq_some_iff.mp owner
  obtain ⟨rfl, rfl⟩ := Prod.mk.inj same
  have there := OrderedDict.mem_entries_iff.mp
    (mem_of_mem_filter (mem_reverse.mp member))
  rw [ReconcileCall.rows, there]
  exact owns

/-- The incumbent of a name depends on the rows of a scope by their owner of the name only. -/
theorem incumbent_set {owners : Owners} {scope : Text} {first second : OrderedDict Text Text}
    (same : ownerByName first name = ownerByName second name) :
    incumbent (owners.set scope first) call name =
    incumbent (owners.set scope second) call name := by
  let lookup := fun rows : Text × OrderedDict Text Text =>
    if call.sharedScopes.contains rows.1 then
      (ownerByName rows.2 name).map fun managedId => (rows.1, managedId)
    else none
  have each : ∀ entries : List (Text × OrderedDict Text Text),
      (OrderedDict.setEntries scope first entries).map lookup =
        (OrderedDict.setEntries scope second entries).map lookup := by
    have here : lookup (scope, first) = lookup (scope, second) := by
      simp only [lookup, same]
    intro entries
    induction entries with
    | nil => rw [OrderedDict.setEntries, OrderedDict.setEntries, map_singleton, here]; rfl
    | cons entry rest ih =>
      rw [OrderedDict.setEntries, OrderedDict.setEntries]
      split
      · rw [map_cons, map_cons, here]
      · rw [map_cons, map_cons, ih]
  have looked : ∀ rows : OrderedDict Text (OrderedDict Text Text),
      incumbent rows call name = (rows.entries.map lookup).reverse.findSome? id := by
    intro rows
    rw [incumbent, ← map_reverse, findSome?_map, ← filter_reverse, findSome?_filter]
    rfl
  rw [looked, looked]
  exact congrArg (fun found => found.reverse.findSome? id) (each owners.entries)

end Incumbents

/-! ## Names -/

/-- Names that are given up while entries are placed: stale ones and former ones. -/
def ReconcileCall.Left (call : ReconcileCall ν) (rows : OrderedDict Text Text)
    (done : List (Text × Text × ν)) (name : Text) : Prop :=
  (∃ managedId, (managedId, name) ∈ call.stale rows) ∨
    ∃ entry ∈ done, rows.get? entry.1 = some name ∧ name ≠ [] ∧ name ≠ entry.2.1

structure ReconcileCall.Placed (call : ReconcileCall ν) (rows : OrderedDict Text Text)
    (target : OrderedDict Text ν) (done : List (Text × Text × ν)) (current : OrderedDict Text ν) :
    Prop where
  there : ∀ entry ∈ done, current.get? entry.2.1 = some entry.2.2
  gone : ∀ name, (∀ entry ∈ done, entry.2.1 ≠ name) → call.Left rows done name →
    current.get? name = none
  kept : ∀ name, (∀ entry ∈ done, entry.2.1 ≠ name) → ¬ call.Left rows done name →
    current.get? name = target.get? name

structure OnTheWay (call : ReconcileCall ν) (rows : OrderedDict Text Text) (disk : FragmentDisk ν)
    (tape : FragmentTape ν) : Prop where
  registry : tape.store.registry = disk.registry
  unsaved : ∀ owners, FragmentEffect.save owners ∉ tape.writes
  names : ∀ name, tape.store.target.get? name = disk.target.get? name ∨
    (call.Left rows call.wanted name ∧ tape.store.target.get? name = none) ∨
    ∃ entry ∈ call.wanted, entry.2.1 = name ∧ tape.store.target.get? name = some entry.2.2 ∧
      FragmentEffect.write name entry.2.2 ∈ tape.writes

/-- The loops do not undo what they did, and what is done can be found and done again. -/
structure Settles (host : FragmentHost ν) (owners : Owners) (call : ReconcileCall ν)
    (target : OrderedDict Text ν) : Prop where
  found : ∀ entry ∈ call.wanted,
    incumbent (owners.set call.scope
      ((call.beside (call.rows owners) entry.1).set entry.1 entry.2.1)) call entry.2.1 =
        some (call.scope, entry.1)
  /-- The name that is given up was not taken by an entry placed before. -/
  apart : ∀ done entry rest, call.wanted = done ++ entry :: rest →
    ∀ old, (call.rows owners).get? entry.1 = some old → old ≠ [] → old ≠ entry.2.1 →
      ∀ other ∈ done, other.2.1 ≠ old
  /-- The payload `None` is there already. -/
  shown : ∀ done entry rest, call.wanted = done ++ entry :: rest → entry.2.2 = host.null →
    target.has entry.2.1 = true ∧ ¬ call.Left (call.rows owners) done entry.2.1
  /-- A payload that the store refuses is there already. -/
  writes : ∀ done entry rest, call.wanted = done ++ entry :: rest →
    host.accepts entry.2.1 entry.2.2 = false →
    target.get? entry.2.1 = some entry.2.2 ∧ ¬ call.Left (call.rows owners) done entry.2.1

section Names

variable {call : ReconcileCall ν} {owners : Owners}
  {rows : OrderedDict Text Text} {disk : FragmentDisk ν} {tape : FragmentTape ν}

variable {done : List (Text × Text × ν)}

omit [DecidableEq ν] in
theorem ReconcileCall.Left.mono {more : List (Text × Text × ν)} (left : call.Left rows done name)
    (among : ∀ entry ∈ done, entry ∈ more) : call.Left rows more name :=
  left.imp_right fun ⟨entry, member, former⟩ => ⟨entry, among entry member, former⟩

theorem OnTheWay.write (host : FragmentHost ν) (way : OnTheWay call rows disk tape)
    (member : entry ∈ call.wanted) :
    OnTheWay call rows disk
      (tape.record (FragmentDisk.apply host) (.write entry.2.1 entry.2.2)) where
  registry := way.registry
  unsaved saved member := by
    rcases mem_append.mp member with before | now
    · exact way.unsaved saved before
    · cases mem_singleton.mp now
  names name := by
    change (tape.store.target.set entry.2.1 entry.2.2).get? name = _ ∨
      (_ ∧ (tape.store.target.set entry.2.1 entry.2.2).get? name = _) ∨
      ∃ other ∈ call.wanted, other.2.1 = name ∧
        (tape.store.target.set entry.2.1 entry.2.2).get? name = _ ∧
          _ ∈ tape.writes ++ [FragmentEffect.write entry.2.1 entry.2.2]
    by_cases same : name = entry.2.1
    · subst same
      exact .inr (.inr ⟨entry, member, rfl, get?_set_self _ _ _,
        mem_append_right _ (mem_singleton_self _)⟩)
    rw [get?_set_of_ne _ same]
    refine (way.names name).imp_right (Or.imp_right ?_)
    rintro ⟨other, wanted, named, there, written⟩
    exact ⟨other, wanted, named, there, mem_append_left _ written⟩

theorem OnTheWay.remove (host : FragmentHost ν) (way : OnTheWay call rows disk tape) {old : Text}
    (left : call.Left rows call.wanted old) :
    OnTheWay call rows disk (tape.record (FragmentDisk.apply host) (.remove old)) where
  registry := way.registry
  unsaved saved member := by
    rcases mem_append.mp member with before | now
    · exact way.unsaved saved before
    · cases mem_singleton.mp now
  names name := by
    change (tape.store.target.pop old).get? name = _ ∨
      (_ ∧ (tape.store.target.pop old).get? name = _) ∨
      ∃ other ∈ call.wanted, other.2.1 = name ∧
        (tape.store.target.pop old).get? name = _ ∧ _ ∈ tape.writes ++ [FragmentEffect.remove old]
    rw [get?_pop]
    by_cases same : name = old
    · subst same
      rw [if_pos rfl]
      exact .inr (.inl ⟨left, rfl⟩)
    rw [if_neg same]
    refine (way.names name).imp_right (Or.imp_right ?_)
    rintro ⟨other, wanted, named, there, written⟩
    exact ⟨other, wanted, named, there, mem_append_left _ written⟩

theorem free_of_takes {state : Reconciling ν} (split : call.wanted = done ++ entry :: rest)
    (takes : Takes owners call disk.target done entry)
    (rows_eq : state.rows = call.rowsAfter (call.rows owners) done)
    (there : state.current.has entry.2.1 = true → disk.target.has entry.2.1 = true) :
    state.free entry.1 entry.2.1 := by
  intro has
  rw [rows_eq]
  exact ownerByName_placeRows (ReconcileCall.fresh_of_split split) takes.fresh
    (ownerByName_popAll (ReconcileCall.not_stale (ReconcileCall.mem_of_split split))
      (ownerByName_of_incumbent (takes.mine (there has))))

omit [DecidableEq ν] in
theorem ReconcileCall.get?_rowsAfter (split : call.wanted = done ++ entry :: rest) :
    (call.rowsAfter rows done).get? entry.1 = rows.get? entry.1 := by
  rw [rowsAfter, get?_placeRows_of_not_mem (fresh_of_split split), get?_popAll,
    if_neg (not_stale (mem_of_split split))]

end Names

end Audiagentic.Toolchains
