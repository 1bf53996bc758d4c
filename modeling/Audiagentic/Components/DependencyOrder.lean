import Audiagentic.Foundations.DepthFirst
import Audiagentic.Foundations.OrderedDicts

/-!
# The order of component dependencies

The dependencies of a component name those they require.  They are sorted so that a requirement
stands before its dependents, and the workflow over them has one step for each in that order: the
installing one and the uninstalling one.  What a step does depends on its probe and on what ran
before, so it is left to an environment.
-/

namespace Audiagentic.Components

open Foundations List

/-! ## The sort -/

/-- The declared dependencies, with the names that each lists under `requires`. -/
abbrev DepCfgs := OrderedDict String (List String)

inductive DependencyError where
  | circular (dependency : String)
  | recursion
deriving DecidableEq

/-- `visit`: the names `visited` are those made, the names `visiting` are on the path.  A
requirement that is not declared is returned from at once, so it is left out of the needs. -/
def visitWalk (depCfgs : DepCfgs) : Walk String Unit DependencyError where
  needs name := ((depCfgs.get? name).getD []).filter depCfgs.has
  make _ _ _ := .ok ()
  cyclic cycle := .circular (cycle.getLastD "")
  exhausted := .recursion

def topoSort (depCfgs : DepCfgs) : Except DependencyError (List String) :=
  ((visitWalk depCfgs).visitAll (depCfgs.keys.length + 1) depCfgs.keys).map Walk.names

/-! ## The workflow -/

inductive Action where
  | install
  | uninstall
deriving DecidableEq

/-- `build_dependency_workflow`: the steps, each under the name of its dependency. -/
def buildDependencyWorkflow (depCfgs : DepCfgs) (action : Action) :
    Except DependencyError (List (String × Action)) := do
  let ordered ← topoSort depCfgs
  .ok (ordered.map fun depId => (depId, action))

inductive StepAnswer where
  | skipped
  | acted
  | raised

abbrev Environment := List String → String × Action → StepAnswer

/-- The dependencies acted on, in order.  A step that fails is followed by the next one; one that
raises is the last. -/
def runSteps (environment : Environment) : List String → List (String × Action) → List String
  | acted, [] => acted
  | acted, step :: rest =>
    match environment acted step with
    | .skipped => runSteps environment acted rest
    | .acted => runSteps environment (acted ++ [step.1]) rest
    | .raised => acted

theorem runSteps_sublist (environment : Environment) (acted : List String)
    (steps : List (String × Action)) :
    ∃ more, runSteps environment acted steps = acted ++ more ∧
    more.Sublist (steps.map Prod.fst) := by
  induction steps generalizing acted with
  | nil => exact ⟨[], (append_nil _).symm, .slnil⟩
  | cons step rest ih =>
    rw [runSteps]
    split
    · obtain ⟨more, same, sub⟩ := ih acted
      exact ⟨more, same, sub.cons _⟩
    · obtain ⟨more, same, sub⟩ := ih (acted ++ [step.1])
      exact ⟨step.1 :: more, by rw [same, append_assoc]; rfl, sub.cons_cons _⟩
    · exact ⟨[], (append_nil _).symm, nil_sublist _⟩

theorem runSteps_all (acted : List String) (steps : List (String × Action)) :
    runSteps (fun _ _ => .acted) acted steps = acted ++ steps.map Prod.fst := by
  induction steps generalizing acted with
  | nil => exact (append_nil _).symm
  | cons step rest ih =>
    exact (ih (acted ++ [step.1])).trans (append_assoc _ _ _)

/-! ## Orders -/

def DepCfgs.Requires (depCfgs : DepCfgs) (dependent requirement : String) : Prop :=
  ∃ requires, depCfgs.get? dependent = some requires ∧ requirement ∈ requires

def DepCfgs.Cyclic (depCfgs : DepCfgs) : Prop :=
  ∃ name, Relation.TransGen depCfgs.Requires name name

/-- The sort and the two workflows are in order. -/
structure DepCfgs.Ordered (depCfgs : DepCfgs) : Prop where
  lists : ∀ order, topoSort depCfgs = .ok order →
    order.Nodup ∧ ∀ name, name ∈ order ↔ depCfgs.has name
  sorts : ∀ order, topoSort depCfgs = .ok order → ∀ dependent requirement,
    depCfgs.Requires dependent requirement → depCfgs.has requirement →
      [requirement, dependent].Sublist order
  raises : (∃ failure, topoSort depCfgs = .error failure) ↔ depCfgs.Cyclic
  installs : ∀ steps, buildDependencyWorkflow depCfgs .install = .ok steps → ∀ environment,
    ∃ order, topoSort depCfgs = .ok order ∧ (runSteps environment [] steps).Sublist order
  uninstalls : ∀ steps, buildDependencyWorkflow depCfgs .uninstall = .ok steps →
    ∀ environment dependent requirement, depCfgs.Requires dependent requirement →
      dependent ∈ runSteps environment [] steps → requirement ∈ runSteps environment [] steps →
        [dependent, requirement].Sublist (runSteps environment [] steps)

theorem not_sublist_swap {first second : String} {order : List String} (nodup : order.Nodup)
    (sub : [first, second].Sublist order) : ¬[second, first].Sublist order := by
  intro swapped
  induction order with
  | nil => cases sub
  | cons name rest ih =>
    obtain ⟨fresh, nodup⟩ := nodup_cons.mp nodup
    cases sub with
    | cons _ sub =>
      cases swapped with
      | cons _ swapped => exact ih nodup sub swapped
      | cons_cons _ _ => exact fresh (sub.subset (mem_cons_of_mem _ mem_cons_self))
    | cons_cons _ later =>
      cases swapped with
      | cons _ swapped => exact fresh (swapped.subset (mem_cons_of_mem _ mem_cons_self))
      | cons_cons _ _ => exact fresh (later.subset mem_cons_self)

section Order

variable {depCfgs : DepCfgs}

theorem edge_iff {dependent requirement : String} :
    (visitWalk depCfgs).Edge dependent requirement ↔
      depCfgs.Requires dependent requirement ∧ depCfgs.has requirement := by
  change requirement ∈ ((depCfgs.get? dependent).getD []).filter depCfgs.has ↔ _
  rw [mem_filter, DepCfgs.Requires]
  cases depCfgs.get? dependent with
  | none => simp
  | some requires => simp

theorem DepCfgs.Requires.has {dependent requirement : String}
    (requires : depCfgs.Requires dependent requirement) : depCfgs.has dependent := by
  obtain ⟨_, found, _⟩ := requires
  rw [OrderedDict.has, found]
  rfl

theorem mem_keys_iff_has {name : String} : name ∈ depCfgs.keys ↔ depCfgs.has name := by
  rw [OrderedDict.mem_keys_iff, OrderedDict.has_iff]

theorem transGen_edge {first last : String} (declared : depCfgs.has last)
    (walked : Relation.TransGen depCfgs.Requires first last) :
    Relation.TransGen (visitWalk depCfgs).Edge first last := by
  induction walked using Relation.TransGen.head_induction_on with
  | single requires => exact .single (edge_iff.mpr ⟨requires, declared⟩)
  | head requires later ih =>
    obtain ⟨_, next, _⟩ := Relation.TransGen.head'_iff.mp later
    exact .head (edge_iff.mpr ⟨requires, next.has⟩) ih

theorem topoSort_ok {order : List String} (sorted : topoSort depCfgs = .ok order) :
    ∃ done, (visitWalk depCfgs).visitAll (depCfgs.keys.length + 1) depCfgs.keys = .ok done ∧
      order = Walk.names done := by
  rw [topoSort] at sorted
  cases outcome : (visitWalk depCfgs).visitAll (depCfgs.keys.length + 1) depCfgs.keys with
  | error failure =>
    rw [outcome] at sorted
    cases sorted
  | ok done =>
    rw [outcome] at sorted
    cases sorted
    exact ⟨done, rfl, rfl⟩

/-- **The sort raises exactly when the requirements contain a cycle.** -/
theorem topoSort_error_iff :
    (∃ failure, topoSort depCfgs = .error failure) ↔ depCfgs.Cyclic := by
  have all : ∀ name, (visitWalk depCfgs).needs name ≠ [] → name ∈ depCfgs.keys := by
    intro name some
    obtain ⟨need, listed⟩ := exists_mem_of_ne_nil _ some
    exact mem_keys_iff_has.mpr (edge_iff.mp listed).1.has
  have makes : ∀ parent done name, (visitWalk depCfgs).Built done →
      (visitWalk depCfgs).needs name ⊆ Walk.names done →
        ((∃ value, (visitWalk depCfgs).make parent done name = .ok value) ↔ True) :=
    fun _ _ _ _ _ => iff_true_intro ⟨(), rfl⟩
  have returns : (∃ done, (visitWalk depCfgs).visitAll _ depCfgs.keys = .ok done) ↔ _ :=
    Walk.visitAll_ok_iff all (Nat.lt_succ_self _) makes
  constructor
  · rintro ⟨failure, raised⟩
    by_contra acyclic
    obtain ⟨done, returned⟩ := returns.mpr fun _ _ name _ =>
      ⟨trivial, fun cycle =>
        acyclic ⟨name, cycle.lift id fun _ _ edge => (edge_iff.mp edge).1⟩⟩
    rw [topoSort, returned] at raised
    cases raised
  · rintro ⟨name, cycle⟩
    obtain ⟨_, next, _⟩ := Relation.TransGen.head'_iff.mp cycle
    cases outcome : topoSort depCfgs with
    | error failure => exact ⟨failure, rfl⟩
    | ok order =>
      obtain ⟨done, returned, _⟩ := topoSort_ok outcome
      exact absurd (transGen_edge next.has cycle)
        (returns.mp ⟨done, returned⟩ name (mem_keys_iff_has.mpr next.has) name .refl).2

variable {order : List String} (sorted : topoSort depCfgs = .ok order)
include sorted

/-- **The sort lists the declared dependencies once each.** -/
theorem topoSort_lists : order.Nodup ∧ ∀ name, name ∈ order ↔ depCfgs.has name := by
  obtain ⟨done, returned, rfl⟩ := topoSort_ok sorted
  obtain ⟨built, exactly⟩ := Walk.visitAll_ok returned
  refine ⟨built.nodup, fun name => (exactly name).trans ⟨?_, ?_⟩⟩
  · rintro ⟨root, listed, reached⟩
    rcases Relation.ReflTransGen.cases_tail reached with rfl | ⟨_, _, edge⟩
    · exact mem_keys_iff_has.mp listed
    · exact (edge_iff.mp edge).2
  · exact fun declared => ⟨name, mem_keys_iff_has.mpr declared, .refl⟩

/-- **A requirement stands before its dependents.** -/
theorem topoSort_sorts {dependent requirement : String}
    (requires : depCfgs.Requires dependent requirement) (declared : depCfgs.has requirement) :
    [requirement, dependent].Sublist order := by
  have listed := ((topoSort_lists sorted).2 dependent).mpr requires.has
  obtain ⟨done, returned, rfl⟩ := topoSort_ok sorted
  exact (Walk.visitAll_ok returned).1.sublist listed (edge_iff.mpr ⟨requires, declared⟩)

theorem buildDependencyWorkflow_ok (action : Action) :
    buildDependencyWorkflow depCfgs action = .ok (order.map fun depId => (depId, action)) := by
  rw [buildDependencyWorkflow, sorted]
  rfl

omit sorted in
theorem runSteps_sublist_order (environment : Environment) (action : Action) :
    (runSteps environment [] (order.map fun depId => (depId, action))).Sublist order := by
  obtain ⟨more, same, sub⟩ :=
    runSteps_sublist environment [] (order.map fun depId => (depId, action))
  rw [List.map_map] at sub
  rw [same]
  exact sub.trans (by rw [Function.comp_def, List.map_id'])

end Order

/-- **The order of the dependencies, exactly.**  Uninstalling takes the order of installing, so it
is right only where no requirement is declared or nothing is sorted. -/
theorem DepCfgs.ordered_iff (depCfgs : DepCfgs) :
    depCfgs.Ordered ↔ depCfgs.Cyclic ∨ ∀ dependent requirement,
      depCfgs.Requires dependent requirement → ¬depCfgs.has requirement := by
  constructor
  · intro ordered
    by_contra neither
    obtain ⟨acyclic, needed⟩ := not_or.mp neither
    obtain ⟨dependent, needs⟩ := not_forall.mp needed
    obtain ⟨requirement, needs⟩ := not_forall.mp needs
    obtain ⟨requires, declared⟩ := Classical.not_imp.mp needs
    rw [not_not] at declared
    cases outcome : topoSort depCfgs with
    | error failure => exact acyclic (topoSort_error_iff.mp ⟨failure, outcome⟩)
    | ok order =>
      obtain ⟨nodup, lists⟩ := topoSort_lists outcome
      have everything : runSteps (fun _ _ => .acted) []
          (order.map fun depId => (depId, Action.uninstall)) = order := by
        rw [runSteps_all, nil_append, List.map_map, Function.comp_def, List.map_id']
      have swapped := ordered.uninstalls _ (buildDependencyWorkflow_ok outcome .uninstall)
        (fun _ _ => .acted) dependent requirement requires
      rw [everything, lists, lists] at swapped
      exact not_sublist_swap nodup (topoSort_sorts outcome requires declared)
        (swapped requires.has declared)
  · intro condition
    refine ⟨fun order => topoSort_lists, fun order sorted _ _ => topoSort_sorts sorted,
      topoSort_error_iff, ?_, ?_⟩
    · intro steps built environment
      obtain ⟨order, sorted, same⟩ := bind_eq_ok.mp built
      cases same
      exact ⟨order, sorted, runSteps_sublist_order environment .install⟩
    · intro steps built environment dependent requirement requires _ removed
      obtain ⟨order, sorted, same⟩ := bind_eq_ok.mp built
      cases same
      have listed := (runSteps_sublist_order environment .uninstall).subset removed
      rcases condition with cyclic | apart
      · obtain ⟨failure, raised⟩ := topoSort_error_iff.mpr cyclic
        rw [sorted] at raised
        cases raised
      · exact absurd (((topoSort_lists sorted).2 requirement).mp listed)
          (apart dependent requirement requires)

/-- An application and the library that it requires. -/
def appAndLib : DepCfgs := ⟨[("app", ["lib"]), ("lib", [])], by decide⟩

/-- The library is removed before the application that requires it. -/
theorem uninstalls_requirement_first : ¬appAndLib.Ordered := by
  intro ordered
  have swapped := ordered.uninstalls [("lib", .uninstall), ("app", .uninstall)]
    (by decide +kernel) (fun _ _ => .acted) "app" "lib" ⟨["lib"], by decide, by decide⟩
    (by decide) (by decide)
  revert swapped
  decide

end Audiagentic.Components
