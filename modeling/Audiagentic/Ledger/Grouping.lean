import Audiagentic.Foundations.UnionFind
import Audiagentic.Ledger.Events
import Mathlib.Data.List.Dedup
import Mathlib.Data.List.Pairwise

/-!
# Pending events in groups

Pending events that share plan items or files are shown together.  The groups are the components
of the graph in which two events are next to each other when their key sets intersect.
-/

namespace Audiagentic.Ledger

open Foundations List OrderedDict Option

section Clustering

variable {κ : Type} [DecidableEq κ]

/-- The first index of every key, and the parents of the indices. -/
structure Clustering (κ : Type) where
  firstWithKey : OrderedDict κ ℕ
  parent : ℕ → ℕ

def seeKey (fuel : ℕ) (clustering : Clustering κ) (seen : ℕ × κ) : Option (Clustering κ) :=
  match clustering.firstWithKey.get? seen.2 with
  | some first => do
    let parent ← UnionFind.union fuel clustering.parent seen.1 first
    return { clustering with parent := parent }
  | none =>
    some { clustering with firstWithKey := clustering.firstWithKey.set seen.2 seen.1 }

def rounds (keys : List (List κ)) : List (ℕ × κ) :=
  keys.zipIdx.flatMap fun event => event.1.map (event.2, ·)

/-- `groups.setdefault(find(i), []).append(i)`. -/
def collect (fuel : ℕ) (state : (ℕ → ℕ) × OrderedDict ℕ (List ℕ)) (index : ℕ) :
    Option ((ℕ → ℕ) × OrderedDict ℕ (List ℕ)) := do
  let (root, parent) ← UnionFind.find fuel state.1 index
  return (parent, state.2.set root ((state.2.get? root).getD [] ++ [index]))

/-- `_union_find_cluster`, with the keys of an index in the order of its set. -/
def unionFindCluster (fuel : ℕ) (keys : List (List κ)) : Option (List (List ℕ)) := do
  let clustering ← (rounds keys).foldlM (seeKey fuel) ⟨∅, id⟩
  let (_, groups) ← (List.range keys.length).foldlM (collect fuel) (clustering.parent, ∅)
  return groups.entries.map fun group => group.2.insertionSort (· ≤ ·)

/-- Two indices whose key sets intersect. -/
def Overlap (keys : List (List κ)) (first second : ℕ) : Prop :=
  ∃ firstKeys secondKeys key, keys[first]? = some firstKeys ∧ keys[second]? = some secondKeys ∧
    key ∈ firstKeys ∧ key ∈ secondKeys

def Shares (seen : List (ℕ × κ)) (first second : ℕ) : Prop :=
  ∃ key, (first, key) ∈ seen ∧ (second, key) ∈ seen

omit [DecidableEq κ] in
theorem mem_rounds {keys : List (List κ)} {index : ℕ} {key : κ} :
    (index, key) ∈ rounds keys ↔ ∃ eventKeys, keys[index]? = some eventKeys ∧ key ∈ eventKeys := by
  simp only [rounds, mem_flatMap, List.mem_map, Prod.mk.injEq]
  constructor
  · rintro ⟨⟨eventKeys, index⟩, member, _, inside, rfl, rfl⟩
    exact ⟨eventKeys, mem_zipIdx_iff_getElem?.mp member, inside⟩
  · rintro ⟨eventKeys, found, inside⟩
    exact ⟨(eventKeys, index), mem_zipIdx_iff_getElem?.mpr found, key, inside, rfl, rfl⟩

omit [DecidableEq κ] in
theorem shares_rounds (keys : List (List κ)) : Shares (rounds keys) = Overlap keys := by
  funext first second
  refine propext ⟨?_, ?_⟩
  · rintro ⟨key, left, right⟩
    obtain ⟨firstKeys, firstFound, inFirst⟩ := mem_rounds.mp left
    obtain ⟨secondKeys, secondFound, inSecond⟩ := mem_rounds.mp right
    exact ⟨firstKeys, secondKeys, key, firstFound, secondFound, inFirst, inSecond⟩
  · rintro ⟨firstKeys, secondKeys, key, firstFound, secondFound, inFirst, inSecond⟩
    exact ⟨key, mem_rounds.mpr ⟨firstKeys, firstFound, inFirst⟩,
      mem_rounds.mpr ⟨secondKeys, secondFound, inSecond⟩⟩

structure Clusters (seen : List (ℕ × κ)) (clustering : Clustering κ) (root : ℕ → ℕ) : Prop where
  rooted : UnionFind.Rooted clustering.parent seen.length root
  first_seen : ∀ key first, clustering.firstWithKey.get? key = some first → (first, key) ∈ seen
  together : ∀ index key, (index, key) ∈ seen →
    ∃ first, clustering.firstWithKey.get? key = some first ∧ root index = root first
  connected : ∀ index, Relation.ReflTransGen (Shares seen) index (root index)

variable {seen : List (ℕ × κ)} {clustering : Clustering κ} {root : ℕ → ℕ}

omit [DecidableEq κ] in
theorem Shares.append {first second : ℕ} (shares : Shares seen first second)
    (more : List (ℕ × κ)) : Shares (seen ++ more) first second :=
  shares.imp fun _ both => ⟨mem_append_left _ both.1, mem_append_left _ both.2⟩

omit [DecidableEq κ] in
theorem connected_symm {first second : ℕ}
    (connected : Relation.ReflTransGen (Shares seen) first second) :
    Relation.ReflTransGen (Shares seen) second first :=
  have : Std.Symm (Shares seen) := ⟨fun _ _ shares => shares.imp fun _ both => both.symm⟩
  Relation.ReflTransGen.stdSymm.symm _ _ connected

/-- **One round of the first loop.** -/
theorem Clusters.seeKey (clusters : Clusters seen clustering root) (round : ℕ × κ) :
    ∃ after root', (∀ fuel, seen.length < fuel → seeKey fuel clustering round = some after) ∧
      Clusters (seen ++ [round]) after root' := by
  obtain ⟨index, key⟩ := round
  have last : (index, key) ∈ seen ++ [(index, key)] := by simp
  have before : ∀ other,
    Relation.ReflTransGen (Shares (seen ++ [(index, key)])) other (root other) :=
    fun other => Relation.ReflTransGen.mono
    (fun _ _ (shares : Shares seen _ _) => shares.append _) _ _
      (clusters.connected other)
  cases known : clustering.firstWithKey.get? key with
  | none =>
    refine ⟨_, root, fun fuel _ => by rw [Ledger.seeKey, known], ?_, ?_, ?_, before⟩
    · intro other
      rw [length_append]
      exact (clusters.rooted other).succ
    · intro other first found
      rw [get?_set] at found
      split at found
      next same =>
        cases found
        rwa [same]
      next => exact mem_append_left _ (clusters.first_seen other first found)
    · intro other otherKey member
      rw [get?_set]
      obtain member | member := mem_append.mp member
      · obtain ⟨first, found, same⟩ := clusters.together other otherKey member
        have different : otherKey ≠ key := by
          rintro rfl
          rw [known] at found
          cases found
        exact ⟨first, by rw [if_neg different, found], same⟩
      · cases mem_singleton.mp member
        exact ⟨index, by rw [if_pos rfl], rfl⟩
  | some first =>
    obtain ⟨parent, joined, rooted⟩ := UnionFind.union_eq clusters.rooted index first
    have firstSeen := clusters.first_seen key first known
    refine ⟨{ clustering with parent := parent }, UnionFind.joinRoots root index first,
      fun fuel enough => ?_, ?_, ?_, ?_, ?_⟩
    · rw [Ledger.seeKey, known]
      change (do let joined ← UnionFind.union fuel clustering.parent index first; _) = _
      rw [joined fuel enough]
      rfl
    · rwa [length_append]
    · intro other otherFirst found
      exact mem_append_left _ (clusters.first_seen other otherFirst found)
    · intro other otherKey member
      obtain member | member := mem_append.mp member
      · obtain ⟨otherFirst, found, same⟩ := clusters.together other otherKey member
        exact ⟨otherFirst, found, by rw [UnionFind.joinRoots, UnionFind.joinRoots, same]⟩
      cases mem_singleton.mp member
      refine ⟨first, known, ?_⟩
      rw [UnionFind.joinRoots, UnionFind.joinRoots, if_pos rfl]
      split <;> rfl
    · intro other
      rw [UnionFind.joinRoots]
      split
      next same =>
        have link : Shares (seen ++ [(index, key)]) index first :=
          ⟨key, last, mem_append_left _ firstSeen⟩
        have up : Relation.ReflTransGen (Shares (seen ++ [(index, key)])) other (root index) :=
          same ▸ before other
        exact (up.trans (connected_symm (before index))).trans ((before first).head link)
      next => exact before other

/-- **The first loop ends**, and the roots it leaves are those of the components. -/
theorem exists_clusters (more : List (ℕ × κ)) (clusters : Clusters seen clustering root) :
    ∃ after root', (∀ fuel, (seen ++ more).length < fuel →
        more.foldlM (seeKey fuel) clustering = some after) ∧
      Clusters (seen ++ more) after root' := by
  induction more generalizing seen clustering root with
  | nil => exact ⟨clustering, root, fun _ _ => rfl, by rwa [append_nil]⟩
  | cons round more ih =>
    obtain ⟨next, root₁, step, clusters⟩ := clusters.seeKey round
    obtain ⟨after, root₂, rest, clusters⟩ := ih clusters
    rw [append_assoc, singleton_append] at rest clusters
    refine ⟨after, root₂, fun fuel enough => ?_, clusters⟩
    rw [length_append, length_cons] at enough
    rw [foldlM_cons, step fuel (by omega)]
    exact rest fuel (by rwa [length_append, length_cons])

/-- Two indices have one root exactly when a chain of shared keys connects them. -/
theorem Clusters.root_eq_iff (clusters : Clusters seen clustering root) {first second : ℕ} :
    root first = root second ↔ Relation.ReflTransGen (Shares seen) first second := by
  constructor
  · intro same
    exact (same ▸ clusters.connected first).trans (connected_symm (clusters.connected second))
  intro connected
  induction connected with
  | refl => rfl
  | tail _ shares ih =>
    obtain ⟨key, left, right⟩ := shares
    obtain ⟨leftFirst, leftKnown, leftSame⟩ := clusters.together _ key left
    obtain ⟨rightFirst, rightKnown, rightSame⟩ := clusters.together _ key right
    cases leftKnown.symm.trans rightKnown
    rw [ih, leftSame, rightSame]

structure Collected (seen : List ℕ) (root : ℕ → ℕ) (groups : OrderedDict ℕ (List ℕ)) : Prop where
  group : ∀ top, (groups.get? top).getD [] = seen.filter (root · = top)
  nonempty : ∀ top group, groups.get? top = some group → group ≠ []

omit [DecidableEq κ] in
/-- **The second loop ends** with the indices by their roots. -/
theorem exists_collected (more : List ℕ) {done : List ℕ} {parent : ℕ → ℕ} {height : ℕ}
    {groups : OrderedDict ℕ (List ℕ)} (rooted : UnionFind.Rooted parent height root)
    (collected : Collected done root groups) :
    ∃ after groups', (∀ fuel, height < fuel →
        more.foldlM (collect fuel) (parent, groups) = some (after, groups')) ∧
      Collected (done ++ more) root groups' := by
  induction more generalizing done parent groups with
  | nil => exact ⟨parent, groups, fun _ _ => rfl, by rwa [append_nil]⟩
  | cons index more ih =>
    obtain ⟨next, found, kept⟩ := UnionFind.find_eq (rooted index)
    have step : Collected (done ++ [index]) root (groups.set (root index)
        ((groups.get? (root index)).getD [] ++ [index])) := by
      refine ⟨fun top => ?_, fun top group stored => ?_⟩
      · rw [get?_set, filter_append]
        split
        next same =>
          rw [same, getD_some, collected.group, filter_singleton]
          simp
        next different =>
          rw [collected.group, filter_singleton, decide_eq_false (Ne.symm different)]
          exact (append_nil _).symm
      · rw [get?_set] at stored
        split at stored
        · cases stored
          simp
        · exact collected.nonempty top group stored
    obtain ⟨after, groups', rest, collected⟩ := ih (fun other => kept (rooted other)) step
    rw [append_assoc, singleton_append] at collected
    refine ⟨after, groups', fun fuel enough => ?_, collected⟩
    rw [foldlM_cons, collect, found fuel enough]
    exact rest fuel enough

structure Components (keys : List (List κ)) (groups : List (List ℕ)) : Prop where
  partition : groups.flatten.Perm (List.range keys.length)
  nonempty : ∀ group ∈ groups, group ≠ []
  connected : ∀ first second, first < keys.length → second < keys.length →
    ((∃ group ∈ groups, first ∈ group ∧ second ∈ group) ↔
      Relation.ReflTransGen (Overlap keys) first second)

omit [DecidableEq κ] in
theorem Collected.components {keys : List (List κ)} {groups : OrderedDict ℕ (List ℕ)}
    (collected : Collected (List.range keys.length) root groups)
    (same : ∀ first second, root first = root second ↔
      Relation.ReflTransGen (Overlap keys) first second) :
    Components keys (groups.entries.map Prod.snd) := by
  have group_eq : ∀ entry ∈ groups.entries,
      entry.2 = (List.range keys.length).filter (root · = entry.1) := by
    intro entry member
    have stored := OrderedDict.mem_entries_iff.mp member
    rw [← collected.group, stored, getD_some]
  have inGroup : ∀ index < keys.length, ∃ entry ∈ groups.entries, index ∈ entry.2 := by
    intro index inside
    have member : index ∈ (groups.get? (root index)).getD [] := by
      rw [collected.group]
      simpa using inside
    cases stored : groups.get? (root index) with
    | none =>
      rw [stored] at member
      cases member
    | some group =>
      rw [stored] at member
      exact ⟨(root index, group), OrderedDict.mem_entries_iff.mpr stored, member⟩
  have under : ∀ entry ∈ groups.entries, ∀ index ∈ entry.2,
      index < keys.length ∧ root index = entry.1 := by
    intro entry member index inside
    rw [group_eq entry member] at inside
    simpa using inside
  refine ⟨?_, ?_, ?_⟩
  · refine (perm_ext_iff_of_nodup ?_ nodup_range).mpr fun index => ?_
    · refine nodup_flatten.mpr ⟨?_, ?_⟩
      · rintro _ listed
        obtain ⟨entry, member, rfl⟩ := List.mem_map.mp listed
        rw [group_eq entry member]
        exact nodup_range.filter _
      · refine pairwise_map.mpr ?_
        have apart := pairwise_map.mp groups.nodup
        refine apart.imp_of_mem fun {first second} firstIn secondIn different index left right => ?_
        exact different ((under first firstIn index left).2.symm.trans
          (under second secondIn index right).2)
    · rw [mem_flatten, mem_range]
      constructor
      · rintro ⟨_, listed, inside⟩
        obtain ⟨entry, member, rfl⟩ := List.mem_map.mp listed
        exact (under entry member index inside).1
      · intro inside
        obtain ⟨entry, member, inside⟩ := inGroup index inside
        exact ⟨entry.2, List.mem_map.mpr ⟨entry, member, rfl⟩, inside⟩
  · rintro _ listed
    obtain ⟨entry, member, rfl⟩ := List.mem_map.mp listed
    exact collected.nonempty _ _ (OrderedDict.mem_entries_iff.mp member)
  · intro first second firstIn secondIn
    rw [← same]
    constructor
    · rintro ⟨_, listed, left, right⟩
      obtain ⟨entry, member, rfl⟩ := List.mem_map.mp listed
      rw [(under entry member first left).2, (under entry member second right).2]
    intro equal
    obtain ⟨entry, member, inside⟩ := inGroup first firstIn
    refine ⟨entry.2, List.mem_map.mpr ⟨entry, member, rfl⟩, inside, ?_⟩
    rw [group_eq entry member, mem_filter, mem_range]
    exact ⟨secondIn, decide_eq_true (equal ▸ (under entry member first inside).2)⟩

/-- **The groups are the connected components**, with fuel for every round. -/
theorem exists_components (keys : List (List κ)) :
    ∃ groups, (∀ fuel, (rounds keys).length < fuel → unionFindCluster fuel keys = some groups) ∧
      Components keys groups := by
  have start : Clusters [] (⟨∅, id⟩ : Clustering κ) id :=
    ⟨UnionFind.rooted_id, nofun, nofun, fun _ => .refl⟩
  obtain ⟨clustering, root, first, clusters⟩ := exists_clusters (rounds keys) start
  have empty : Collected [] root ∅ := ⟨fun _ => rfl, nofun⟩
  obtain ⟨parent, groups, second, collected⟩ :=
    exists_collected (List.range keys.length) clusters.rooted empty
  rw [nil_append] at first collected
  have same : ∀ one other, root one = root other ↔ Relation.ReflTransGen (Overlap keys) one other :=
    fun one other => by rw [clusters.root_eq_iff, nil_append, shares_rounds]
  have components := collected.components same
  refine ⟨_, fun fuel enough => ?_, components⟩
  rw [unionFindCluster, first fuel enough]
  change (do let found ← List.foldlM (collect fuel) (clustering.parent, ∅) _; _) = _
  rw [second fuel enough]
  change some _ = some _
  refine congrArg some (map_congr_left fun entry member => ?_)
  have stored := OrderedDict.mem_entries_iff.mp member
  have group_eq := collected.group entry.1
  rw [stored, getD_some] at group_eq
  refine List.Pairwise.insertionSort_eq ?_
  rw [group_eq]
  exact (pairwise_le_range).filter _

end Clustering

/-! ## Pending events -/

/-- An element of a set: numbers by their value. -/
inductive HashKey where
  | null
  | number (value : Double)
  | text (value : Text)
deriving DecidableEq

def hashKey : Json Scalar → Option HashKey
  | .null => some .null
  | .scalar (.str text) => some (.text text)
  | .scalar scalar => scalar.number?.map .number
  | _ => none

/-- `event.get(key) or []`. -/
def listField (key : Text) (event : Event) : Json Scalar :=
  ((Json.lookup key event).getD .null).orElse (.list [])

/-- The elements of `frozenset(value)`; nothing where it raises. -/
def keySet : Json Scalar → Option (List HashKey)
  | .list items => items.mapM hashKey
  | .scalar (.str text) => some (text.map fun char => .text [char])
  | .map entries => some (entries.map fun entry => .text entry.1)
  | _ => none

/-- `sorted` of a set; nothing where its elements cannot be compared. -/
def sortedKeys (keys : List HashKey) : Option (List HashKey) :=
  let texts := keys.filterMap fun | .text text => some text | _ => none
  let numbers := keys.filterMap fun | .number number => some number | _ => none
  if texts.length = keys.length then some ((texts.insertionSort before).map .text)
  else if numbers.length = keys.length then
    some ((numbers.insertionSort fun one other => ¬ other.less one).map .number)
  else if keys.length ≤ 1 then some keys
  else none

def planItemIdsKey : Text := "plan-item-ids".toList

def filesKey : Text := "files".toList

/-- `event.get(key, "")`. -/
def textOr (key : Text) (event : Event) : Text × Json Scalar :=
  (key, (Json.lookup key event).getD (.scalar (.str [])))

def summary (event : Event) : Event :=
  [textOr eventIdKey event, textOr "change-class".toList event,
    textOr "user-summary-candidate".toList event, (planItemIdsKey, listField planItemIdsKey event)]

def compactEvent (event : Event) : Event :=
  summary event ++ [(filesKey, listField filesKey event)]

def ungroupedEntry (event : Event) : Event :=
  [textOr eventIdKey event, textOr "change-class".toList event,
    (filesKey, listField filesKey event), textOr "user-summary-candidate".toList event]

structure EventGroup where
  eventCount : ℕ
  files : List HashKey
  summaries : List Event

/-- What `get_pending_events` returns. -/
inductive PendingView where
  | flat (events : List Event)
  | grouped (groups : List EventGroup) (ungrouped : List Event)

inductive PendingError where
  | ledger (error : LedgerError)
  | typeError
  | unfinished

def eventGroup (events : List Event) : Except PendingError EventGroup := do
  let some files := events.mapM fun event => keySet (listField filesKey event)
    | .error .typeError
  let some files := sortedKeys files.flatten.dedup | .error .typeError
  return ⟨events.length, files, events.map summary⟩

def addCluster (pending : List Event) (view : List EventGroup × List Event)
    (indices : List ℕ) : Except PendingError (List EventGroup × List Event) :=
  match indices.map (pending.getD · []) with
  | [event] => .ok (view.1, view.2 ++ [ungroupedEntry event])
  | events => do return (view.1 ++ [← eventGroup events], view.2)

/-- The field that `group_by` names. -/
def groupField (groupBy : String) : Text :=
  if groupBy = "plan-items" then planItemIdsKey else filesKey

def getPendingEvents (fuel : ℕ) (host : LedgerHost) (ledger : LedgerFiles) (groupBy : String) :
    Except PendingError PendingView := do
  let pending ← (pendingEvents host ledger).mapError .ledger
  if groupBy = "flat" then return .flat (pending.map compactEvent)
  if pending.isEmpty then return .grouped [] []
  let some keySets := pending.mapM fun event => keySet (listField (groupField groupBy) event)
    | .error .typeError
  let some clusters := unionFindCluster fuel keySets | .error .unfinished
  let (groups, ungrouped) ← clusters.foldlM (addCluster pending) ([], [])
  return .grouped groups ungrouped

def HasTextLists (event : Event) : Prop :=
  ∀ key ∈ [planItemIdsKey, filesKey],
    Json.lookup key event = none ∨ (textListField key event).isSome

structure Lists (pending : List Event) (keys : List (List HashKey)) (groups : List EventGroup)
    (ungrouped : List Event) (grouped : List (List ℕ)) (alone : List ℕ) : Prop where
  once : (grouped.flatten ++ alone).Perm (List.range pending.length)
  inGroups : groups.map EventGroup.summaries =
    grouped.map fun indices => (indices.map (pending.getD · [])).map summary
  inUngrouped : ungrouped = (alone.map (pending.getD · [])).map ungroupedEntry
  apart : ∀ index ∈ alone, ∀ other, other ≠ index → ¬ Overlap keys index other

/-- With fuel for every round, the groups and the ungrouped events list every pending event once,
an ungrouped event shares no key with another one, and the call returns where the fields hold
lists of strings. -/
def ListsPending (host : LedgerHost) (ledger : LedgerFiles) (groupBy : String) : Prop :=
  ∀ pending keys, pendingEvents host ledger = .ok pending →
    pending.mapM (fun event => keySet (listField (groupField groupBy) event)) = some keys →
    ∀ fuel, (rounds keys).length < fuel →
      (∀ groups ungrouped,
        getPendingEvents fuel host ledger groupBy = .ok (.grouped groups ungrouped) →
          ∃ grouped alone, Lists pending keys groups ungrouped grouped alone) ∧
      (groupBy ≠ "flat" → (∀ event ∈ pending, HasTextLists event) → ∃ groups ungrouped,
        getPendingEvents fuel host ledger groupBy = .ok (.grouped groups ungrouped))

theorem eventGroup_summaries {events : List Event} {group : EventGroup}
    (made : eventGroup events = .ok group) : group.summaries = events.map summary := by
  rw [eventGroup] at made
  cases files : events.mapM fun event => keySet (listField filesKey event) with
  | none =>
    rw [files] at made
    cases made
  | some files' =>
    rw [files] at made
    change (match sortedKeys files'.flatten.dedup with | some files => _ | _ => _) = _ at made
    cases sorted : sortedKeys files'.flatten.dedup with
    | none =>
      rw [sorted] at made
      cases made
    | some files'' =>
      rw [sorted] at made
      cases made
      rfl

/-- **The loop over the clusters** lists every index of theirs once. -/
theorem addClusters_eq_ok {pending : List Event} {clusters : List (List ℕ)}
    {view after : List EventGroup × List Event}
    (added : clusters.foldlM (addCluster pending) view = .ok after) :
    ∃ (grouped : List (List ℕ)) (alone : List ℕ), (grouped.flatten ++ alone).Perm clusters.flatten ∧
      after.1.map EventGroup.summaries = view.1.map EventGroup.summaries ++
        grouped.map (fun indices => (indices.map (pending.getD · [])).map summary) ∧
      after.2 = view.2 ++ (alone.map (pending.getD · [])).map ungroupedEntry ∧
      ∀ index ∈ alone, [index] ∈ clusters := by
  induction clusters generalizing view with
  | nil =>
    cases added
    exact ⟨[], [], .refl _, by simp, by simp, by simp⟩
  | cons indices clusters ih =>
    rw [foldlM_cons] at added
    obtain ⟨next, step, rest⟩ := bind_eq_ok.mp added
    obtain ⟨grouped, alone, once, groups, ungrouped, single⟩ := ih rest
    rw [addCluster] at step
    split at step
    next event one =>
      cases step
      obtain ⟨index, rfl, rfl⟩ := map_eq_singleton_iff.mp one
      refine ⟨grouped, index :: alone, ?_, groups, by simpa using ungrouped, ?_⟩
      · exact perm_middle.trans (once.cons index)
      intro other member
      obtain rfl | member := mem_cons.mp member
      · exact mem_cons_self
      · exact mem_cons_of_mem _ (single other member)
    next =>
      obtain ⟨group, made, step⟩ := bind_eq_ok.mp step
      cases step
      refine ⟨indices :: grouped, alone, ?_, ?_, ungrouped, fun index member =>
        mem_cons_of_mem _ (single index member)⟩
      · rw [flatten_cons, flatten_cons, append_assoc]
        exact once.append_left indices
      · rw [groups, map_append, append_assoc, map_singleton, eventGroup_summaries made]
        rfl

theorem Components.apart {κ : Type} {keys : List (List κ)} {groups : List (List ℕ)}
    (components : Components keys groups) {index other : ℕ} (alone : [index] ∈ groups)
    (different : other ≠ index) : ¬ Overlap keys index other := by
  intro overlap
  have ⟨_, _, _, firstFound, secondFound, _, _⟩ := overlap
  obtain ⟨group, listed, here, there⟩ := (components.connected index other
    (List.getElem?_eq_some_iff.mp firstFound).1 (List.getElem?_eq_some_iff.mp secondFound).1).mpr
      (.single overlap)
  have disjoint := (nodup_flatten.mp (components.partition.nodup_iff.mpr
    nodup_range)).2
  have same : group = [index] := by
    by_contra unequal
    have : Std.Symm (@List.Disjoint ℕ) := ⟨fun _ _ apart => List.Disjoint.symm apart⟩
    exact disjoint.forall listed alone unequal here
      (mem_singleton_self index)
  rw [same] at there
  exact different (mem_singleton.mp there)

theorem keySet_of_texts {event : Event} (texts : HasTextLists event) {key : Text}
    (field : key ∈ [planItemIdsKey, filesKey]) :
    ∃ texts : List Text, keySet (listField key event) = some (texts.map HashKey.text) := by
  have items_eq : ∀ (items : List (Json Scalar)) {texts}, textItems items = some texts →
      items.mapM hashKey = some (texts.map HashKey.text) := by
    intro items
    induction items with
    | nil =>
      intro texts read
      cases read
      rfl
    | cons item items ih =>
      intro texts read
      match item, read with
      | .scalar (.str text), read =>
        obtain ⟨rest, tail, rfl⟩ := map_eq_some_iff.mp read
        rw [mapM_cons, ih tail]
        rfl
  obtain absent | present := texts key field
  · exact ⟨[], by rw [listField, absent]; rfl⟩
  rw [textListField] at present
  split at present
  next items stored =>
    obtain ⟨texts, read⟩ := isSome_iff_exists.mp present
    cases items with
    | nil => exact ⟨[], by rw [listField, stored]; rfl⟩
    | cons item items =>
      refine ⟨texts, ?_⟩
      rw [listField, stored]
      exact items_eq _ read
  next => cases present

theorem sortedKeys_of_texts {keys : List HashKey}
    (texts : ∀ key ∈ keys, ∃ text, key = .text text) :
    (sortedKeys keys).isSome := by
  have all : (keys.filterMap fun | .text text => some text | _ => none).length = keys.length := by
    induction keys with
    | nil => rfl
    | cons key keys ih =>
      obtain ⟨⟨text, rfl⟩, rest⟩ := forall_mem_cons.mp texts
      exact congrArg (· + 1) (ih rest)
  rw [sortedKeys, if_pos all]
  rfl

theorem eventGroup_of_texts {events : List Event} (texts : ∀ event ∈ events, HasTextLists event) :
    ∃ group, eventGroup events = .ok group := by
  have sets : ∃ sets, events.mapM (fun event => keySet (listField filesKey event)) = some sets ∧
      ∀ key ∈ sets.flatten, ∃ text, key = .text text := by
    induction events with
    | nil => exact ⟨[], rfl, nofun⟩
    | cons event events ih =>
      obtain ⟨here, rest⟩ := forall_mem_cons.mp texts
      obtain ⟨names, read⟩ := keySet_of_texts here (by simp : filesKey ∈ [_, filesKey])
      obtain ⟨sets, others, each⟩ := ih rest
      refine ⟨names.map .text :: sets, by rw [mapM_cons, read, others]; rfl, ?_⟩
      intro key member
      obtain member | member := mem_append.mp member
      · obtain ⟨text, _, rfl⟩ := List.mem_map.mp member
        exact ⟨text, rfl⟩
      · exact each key member
  obtain ⟨sets, read, each⟩ := sets
  have comparable : (sortedKeys sets.flatten.dedup).isSome :=
    sortedKeys_of_texts fun key member => each key (mem_dedup.mp member)
  obtain ⟨files, sorted⟩ := isSome_iff_exists.mp comparable
  refine ⟨⟨events.length, files, events.map summary⟩, ?_⟩
  rw [eventGroup, read]
  change (match sortedKeys sets.flatten.dedup with | some files => _ | _ => _) = _
  rw [sorted]
  rfl

theorem addClusters_of_texts {pending : List Event}
    (texts : ∀ event ∈ pending, HasTextLists event) (clusters : List (List ℕ))
    (view : List EventGroup × List Event) :
    ∃ after, clusters.foldlM (addCluster pending) view = .ok after := by
  induction clusters generalizing view with
  | nil => exact ⟨view, rfl⟩
  | cons indices clusters ih =>
    rw [foldlM_cons, addCluster]
    split
    · exact ih _
    have all : ∀ event ∈ indices.map (pending.getD · []), HasTextLists event := by
      intro event member
      obtain ⟨index, _, rfl⟩ := List.mem_map.mp member
      cases found : pending[index]? with
      | none =>
        rw [getD_eq_getElem?_getD, found]
        exact fun _ _ => .inl rfl
      | some event =>
        rw [getD_eq_getElem?_getD, found]
        exact texts event (mem_of_getElem? found)
    obtain ⟨group, made⟩ := eventGroup_of_texts all
    rw [made]
    exact ih _

theorem length_of_mapM {α β : Type} {read : α → Option β} {items : List α} {values : List β}
    (each : items.mapM read = some values) : values.length = items.length := by
  induction items generalizing values with
  | nil =>
    cases each
    rfl
  | cons item items ih =>
    rw [mapM_cons] at each
    obtain ⟨value, _, each⟩ := bind_eq_some_iff.mp each
    obtain ⟨rest, others, each⟩ := bind_eq_some_iff.mp each
    cases each
    rw [length_cons, length_cons, ih others]

theorem listsPending (host : LedgerHost) (ledger : LedgerFiles) (groupBy : String) :
    ListsPending host ledger groupBy := by
  intro pending keys read sets fuel enough
  obtain ⟨clusters, clustered, components⟩ := exists_components keys
  have unfolded : groupBy ≠ "flat" → pending ≠ [] →
      getPendingEvents fuel host ledger groupBy = (do
        let (groups, ungrouped) ← clusters.foldlM (addCluster pending) ([], [])
        return .grouped groups ungrouped) := by
    intro grouping some'
    rw [getPendingEvents, read]
    change (if groupBy = "flat" then _ else _) = _
    rw [if_neg grouping, if_neg (by simpa using some')]
    rw [sets]
    dsimp only
    rw [clustered fuel enough]
  have nothing : groupBy ≠ "flat" → pending = [] →
      getPendingEvents fuel host ledger groupBy = .ok (.grouped [] []) := by
    intro grouping none'
    rw [getPendingEvents, read, none']
    change (if groupBy = "flat" then _ else _) = _
    rw [if_neg grouping]
    rfl
  constructor
  · intro groups ungrouped returned
    have grouping : groupBy ≠ "flat" := by
      intro flat
      rw [getPendingEvents, read] at returned
      change (if groupBy = "flat" then _ else _) = _ at returned
      rw [if_pos flat] at returned
      cases returned
    by_cases none' : pending = []
    · rw [nothing grouping none'] at returned
      cases returned
      exact ⟨[], [], by rw [none']; exact .refl _, rfl, rfl, nofun⟩
    rw [unfolded grouping none'] at returned
    obtain ⟨view, added, returned⟩ := bind_eq_ok.mp returned
    cases returned
    obtain ⟨grouped, alone, once, inGroups, inUngrouped, single⟩ := addClusters_eq_ok added
    refine ⟨grouped, alone, ?_, inGroups, inUngrouped, fun index member other =>
      components.apart (single index member)⟩
    rw [← length_of_mapM sets]
    exact once.trans components.partition
  · intro grouping texts
    by_cases none' : pending = []
    · exact ⟨[], [], nothing grouping none'⟩
    obtain ⟨view, added⟩ := addClusters_of_texts texts clusters ([], [])
    refine ⟨view.1, view.2, ?_⟩
    rw [unfolded grouping none', added]
    rfl

/-- **Commit grouping.**  Clustering ends with the connected components of the key sets, and the
pending events are listed by them. -/
theorem commit_grouping :
    (∀ {κ : Type} [DecidableEq κ] (keys : List (List κ)), ∃ groups,
      (∀ fuel, (rounds keys).length < fuel → unionFindCluster fuel keys = some groups) ∧
        Components keys groups) ∧
      ∀ host ledger groupBy, ListsPending host ledger groupBy :=
  ⟨exists_components, listsPending⟩

end Audiagentic.Ledger
