import Audiagentic.Foundations.Checks
import Audiagentic.Workflow.Items

/-!
# Parents and children

`find_parents` and `linked_child_ids` of `foundation/workflow/propagation/parents.py`.  The first
takes the references of the child, where it has any, and the second collects those of the parent
and of the children.
-/

namespace Audiagentic.Workflow

open Foundations List

namespace ItemView

/-- `getattr(view, "kind", None) or view.data.get("kind")`. -/
def kindOf (item : ItemView) : Option String :=
  if item.kind ≠ "" then some item.kind
  else match item.get "kind" with
    | .text kind => some kind
    | _ => none

def refs (item : ItemView) (field : String) : List String := extractRefIds (item.get field)

end ItemView

namespace ItemStore

/-- `_find_reverse_parents`; an id that is no string is taken for a missing one. -/
def findReverseParents (store : ItemStore) (itemId parentKind parentField : String) :
    Except WorkflowError (List (String × String)) :=
  (store.items.filter fun view =>
      view.kind = parentKind ∧ itemId ∈ view.refs parentField).mapM fun view =>
    match view.id? with
    | some id => .ok (id, parentKind)
    | none => .error (.keyError "id")

/-- `find_parents`; a kind or field that is missing is an empty one. -/
def findParents (store : ItemStore) (itemId parentKind parentField : String) :
    Except WorkflowError (List (String × String)) :=
  if parentKind = "" ∨ parentField = "" then .ok []
  else match store.find? itemId with
    | none => .ok []
    | some view =>
      let direct := (view.refs parentField).map (·, parentKind)
      if direct ≠ [] then .ok direct
      else store.findReverseParents itemId parentKind parentField

def hasKind (store : ItemStore) (kind id : String) : Bool :=
  match store.find? id with
  | none => false
  | some view => view.kindOf = some kind

/-- Append an id that was not seen. -/
def addUnseen (out : List String) (id : String) : List String :=
  if id ∈ out then out else out ++ [id]

def linkedChildIds (store : ItemStore) (parentId childKind parentField : String) : List String :=
  let named := match store.find? parentId with
    | none => []
    | some view => (view.refs parentField).filter (store.hasKind childKind)
  let naming := (store.items.filter fun view =>
    view.kindOf = some childKind ∧ view.id? ≠ some "" ∧ parentId ∈ view.refs parentField).filterMap
      ItemView.id?
  (named ++ naming).foldl addUnseen []

theorem mem_foldl_addUnseen {ids out : List String} {id : String} :
    id ∈ ids.foldl addUnseen out ↔ id ∈ out ∨ id ∈ ids := by
  induction ids generalizing out with
  | nil => simp
  | cons first ids ih =>
    rw [foldl_cons, ih, addUnseen]
    split
    next seen =>
      rw [mem_cons]
      refine ⟨Or.imp_right .inr, ?_⟩
      rintro (old | rfl | new)
      · exact .inl old
      · exact .inl seen
      · exact .inr new
    next => rw [mem_append, mem_singleton, mem_cons, or_assoc]

end ItemStore

structure ItemGraph extends ItemStore where
  identified : ∀ item ∈ items, ∃ id, item.id? = some id ∧ id ≠ ""
  distinctIds : (items.map ItemView.id?).Nodup

namespace ItemGraph

variable (graph : ItemGraph) {item : ItemView} {id : String}

theorem find?_eq_some_iff :
    graph.find? id = some item ↔ item ∈ graph.items ∧ item.id? = some id := by
  constructor
  · intro found
    exact ⟨mem_of_find?_eq_some found, by simpa using find?_some found⟩
  rintro ⟨member, named⟩
  obtain ⟨other, found⟩ : ∃ other, graph.find? id = some other :=
    Option.isSome_iff_exists.mp (find?_isSome.mpr ⟨item, member, by simpa using named⟩)
  have same : other.id? = some id := by simpa using find?_some found
  rw [found, inj_on_of_nodup_map graph.distinctIds (mem_of_find?_eq_some found) member
    (same.trans named.symm)]

theorem mem_findReverseParents (childId parentKind parentField : String) :
    ∃ parents, graph.findReverseParents childId parentKind parentField = .ok parents ∧
      ∀ pair, pair ∈ parents ↔ pair.2 = parentKind ∧ ∃ parent, graph.find? pair.1 = some parent ∧
        parent.kind = parentKind ∧ childId ∈ parent.refs parentField := by
  obtain ⟨parents, found⟩ : ∃ parents,
      graph.findReverseParents childId parentKind parentField = .ok parents := by
    refine ⟨List.map (fun view => (view.id?.getD "", parentKind)) _, mapM_eq_ok_iff.mpr
      (forall₂_map_right_iff.mpr (forall₂_same.mpr ?_))⟩
    intro view listed
    obtain ⟨id, named, _⟩ := graph.identified view (mem_of_mem_filter listed)
    rw [named]
    rfl
  refine ⟨parents, found, fun pair => ?_⟩
  constructor
  · intro member
    obtain ⟨view, listed, here⟩ := exists_of_mem_mapM found member
    obtain ⟨inside, kind, names⟩ := by simpa using listed
    obtain ⟨id, named, _⟩ := graph.identified view inside
    rw [named] at here
    cases here
    exact ⟨rfl, view, graph.find?_eq_some_iff.mpr ⟨inside, named⟩, kind, names⟩
  · obtain ⟨parentId, kind⟩ := pair
    rintro ⟨rfl, view, viewFound, kindOf, names⟩
    obtain ⟨inside, named⟩ := graph.find?_eq_some_iff.mp viewFound
    obtain ⟨value, member, here⟩ := exists_of_mapM found
      (mem_filter.mpr ⟨inside, decide_eq_true ⟨kindOf, names⟩⟩)
    rw [named] at here
    cases here
    exact member

variable {child parent : ItemView} {childId parentId childKind parentKind parentField : String}

theorem mem_linkedChildIds (childIn : child ∈ graph.items) (childNamed : child.id? = some childId)
    (childKindOf : child.kindOf = some childKind) (parentIn : parent ∈ graph.items)
    (parentNamed : parent.id? = some parentId) :
    childId ∈ graph.linkedChildIds parentId childKind parentField ↔
      childId ∈ parent.refs parentField ∨ parentId ∈ child.refs parentField := by
  have childFound := graph.find?_eq_some_iff.mpr ⟨childIn, childNamed⟩
  rw [ItemStore.linkedChildIds, graph.find?_eq_some_iff.mpr ⟨parentIn, parentNamed⟩,
    ItemStore.mem_foldl_addUnseen, or_iff_right not_mem_nil, mem_append,
    mem_filter, ItemStore.hasKind, childFound, mem_filterMap]
  refine or_congr (and_iff_left (decide_eq_true childKindOf)) ⟨?_, fun names => ?_⟩
  · rintro ⟨view, listed, named⟩
    obtain ⟨inside, _, _, names⟩ := by simpa using listed
    have same := graph.find?_eq_some_iff.mpr ⟨inside, named⟩
    rw [childFound] at same
    cases same
    exact names
  · obtain ⟨id, named, nonempty⟩ := graph.identified child childIn
    refine ⟨child, mem_filter.mpr ⟨childIn, decide_eq_true ⟨childKindOf, ?_, names⟩⟩, childNamed⟩
    rw [named]
    simpa using nonempty

/-- The references of the child come first; without any, the parents are those that refer to it. -/
theorem mem_findParents (childFound : graph.find? childId = some child)
    (configured : parentKind ≠ "" ∧ parentField ≠ "") :
    ∃ parents, graph.findParents childId parentKind parentField = .ok parents ∧
      ∀ pair, pair ∈ parents ↔ pair.2 = parentKind ∧ (pair.1 ∈ child.refs parentField ∨
        child.refs parentField = [] ∧ ∃ parent, graph.find? pair.1 = some parent ∧
          parent.kind = parentKind ∧ childId ∈ parent.refs parentField) := by
  rw [ItemStore.findParents, if_neg (by simpa using configured), childFound]
  dsimp only
  by_cases direct : child.refs parentField = []
  · rw [direct, if_neg (by simp)]
    obtain ⟨parents, found, member⟩ := graph.mem_findReverseParents childId parentKind parentField
    exact ⟨parents, found, by simpa using member⟩
  · rw [if_pos (by simpa using direct)]
    refine ⟨_, rfl, fun pair => ?_⟩
    simp [direct, Prod.ext_iff, and_comm, eq_comm]

/-- **Parents and children agree but for precedence.**  An item is among the parents of another
exactly when this counts as its child and names either no parent or this one. -/
theorem mem_findParents_iff (childIn : child ∈ graph.items) (childNamed : child.id? = some childId)
    (childKindOf : child.kindOf = some childKind) (parentIn : parent ∈ graph.items)
    (parentNamed : parent.id? = some parentId) (parentKindOf : parent.kind = parentKind)
    (configured : parentKind ≠ "" ∧ parentField ≠ "") :
    ∃ parents, graph.findParents childId parentKind parentField = .ok parents ∧
      ((parentId, parentKind) ∈ parents ↔
        childId ∈ graph.linkedChildIds parentId childKind parentField ∧
          (child.refs parentField = [] ∨ parentId ∈ child.refs parentField)) := by
  obtain ⟨parents, found, member⟩ :=
    graph.mem_findParents (graph.find?_eq_some_iff.mpr ⟨childIn, childNamed⟩) configured
  refine ⟨parents, found, (member _).trans ?_⟩
  rw [graph.mem_linkedChildIds childIn childNamed childKindOf parentIn parentNamed,
    graph.find?_eq_some_iff.mpr ⟨parentIn, parentNamed⟩]
  simp only [true_and, Option.some.injEq, exists_eq_left', parentKindOf]
  tauto

/-! ## A parent that is overruled -/

/-- An item whose field `parent` refers to other items. -/
def sampleItem (kind id : String) (names : List String) : ItemView :=
  ⟨kind, id, (AList.insert "id" (.text id) ∅).insert "parent" (.list (names.map .text))⟩

/-- A task that names the first of two plans, the second of which names the task. -/
def overruled : ItemGraph where
  items := [sampleItem "task" "t" ["p1"], sampleItem "plan" "p1" [], sampleItem "plan" "p2" ["t"]]
  distinct := by decide
  identified := by
    intro item member
    simp only [mem_cons, not_mem_nil, or_false] at member
    obtain rfl | rfl | rfl := member
    · exact ⟨"t", rfl, by decide⟩
    · exact ⟨"p1", rfl, by decide⟩
    · exact ⟨"p2", rfl, by decide⟩
  distinctIds := by decide

/-- The second plan counts the task, which has the first one as its only parent. -/
theorem counted_child_has_other_parent :
    ¬ ∃ parents, overruled.findParents "t" "plan" "parent" = .ok parents ∧
      (("p2", "plan") ∈ parents ↔ "t" ∈ overruled.linkedChildIds "p2" "task" "parent") := by
  rintro ⟨parents, found, agree⟩
  obtain rfl : [("p1", "plan")] = parents := Except.ok.inj found
  revert agree
  decide +kernel

theorem mem_findParents_iff_overruled :
    ∃ parents, overruled.findParents "t" "plan" "parent" = .ok parents ∧
      (("p1", "plan") ∈ parents ↔ "t" ∈ overruled.linkedChildIds "p1" "task" "parent" ∧
        ((sampleItem "task" "t" ["p1"]).refs "parent" = [] ∨
          "p1" ∈ (sampleItem "task" "t" ["p1"]).refs "parent")) :=
  have planIn : sampleItem "plan" "p1" [] ∈ overruled.items := by simp [overruled]
  overruled.mem_findParents_iff (by simp [overruled]) rfl rfl planIn rfl rfl (by decide)

end ItemGraph

end Audiagentic.Workflow
