import Mathlib.Order.Basic

/-!
# Union-find

Parents over any type, with path halving.  `Rooted` gives every element its root, within so many
steps.  Finding keeps all roots, and a union changes the roots of one tree and adds one step.
-/

namespace Audiagentic.Foundations.UnionFind

open Function

universe u

variable {ι : Type u} [DecidableEq ι] {parent : ι → ι} {height : ℕ} {element root : ι}

def halve (parent : ι → ι) (element : ι) : ι → ι :=
  Function.update parent element (parent (parent element))

/-- The root of an element, and the parents after every other step up to it was halved. -/
def find : ℕ → (ι → ι) → ι → Option (ι × (ι → ι))
  | 0, _, _ => none
  | fuel + 1, parent, element =>
    if parent element = element then some (element, parent)
    else find fuel (halve parent element) (halve parent element element)

def union (fuel : ℕ) (parent : ι → ι) (first second : ι) : Option (ι → ι) := do
  let (firstRoot, parent) ← find fuel parent first
  let (secondRoot, parent) ← find fuel parent second
  return if firstRoot ≠ secondRoot then Function.update parent firstRoot secondRoot else parent

/-- The root of an element is at most so many steps up. -/
inductive Climbs (parent : ι → ι) : ℕ → ι → ι → Prop
  | root {height : ℕ} {element : ι} : parent element = element →
      Climbs parent height element element
  | step {height : ℕ} {element root : ι} : Climbs parent height (parent element) root →
      Climbs parent (height + 1) element root

omit [DecidableEq ι] in
theorem Climbs.succ (climbs : Climbs parent height element root) :
    Climbs parent (height + 1) element root := by
  induction climbs with
  | root top => exact .root top
  | step _ ih => exact .step ih

omit [DecidableEq ι] in
theorem Climbs.up (climbs : Climbs parent height element root) :
    Climbs parent height (parent element) root := by
  cases climbs with
  | root top =>
    rw [top]
    exact .root top
  | step climbs => exact climbs.succ

omit [DecidableEq ι] in
theorem Climbs.isRoot (climbs : Climbs parent height element root) : parent root = root := by
  induction climbs with
  | root top | step _ top => exact top

omit [DecidableEq ι] in
theorem Climbs.eq_of_root (climbs : Climbs parent height element root)
    (top : parent element = element) : root = element := by
  induction climbs with
  | root _ => rfl
  | step _ ih => exact (ih (by rw [top, top])).trans top

section

variable (climbs : Climbs parent height element root)
include climbs

theorem Climbs.halve (other : ι) :
    Climbs (halve parent other) height element root := by
  induction climbs with
  | @root height element top =>
    refine .root ?_
    by_cases here : element = other
    · rw [← here, UnionFind.halve, update_self, top, top]
    · rw [UnionFind.halve, update_of_ne here, top]
  | @step height element root climbs ih =>
    refine .step ?_
    by_cases here : element = other
    · subst here
      have grandparent : UnionFind.halve parent element element = parent (parent element) :=
        update_self ..
      rw [grandparent]
      by_cases top : parent element = element
      · rwa [top]
      · have next := ih.up
        rwa [UnionFind.halve, update_of_ne top] at next
    · rwa [UnionFind.halve, update_of_ne here]

/-- **Finding ends** at the root, and every other element keeps its own. -/
theorem find_eq :
    ∃ after, (∀ fuel, height < fuel → find fuel parent element = some (root, after)) ∧
      ∀ {steps : ℕ} {other top : ι}, Climbs parent steps other top →
        Climbs after steps other top := by
  induction height generalizing parent element with
  | zero =>
    cases climbs with
    | root top =>
      refine ⟨parent, fun fuel enough => ?_, id⟩
      obtain ⟨fuel, rfl⟩ := Nat.exists_eq_add_of_lt enough
      rw [Nat.zero_add, find, if_pos top]
  | succ height ih =>
    by_cases top : parent element = element
    · rw [climbs.eq_of_root top]
      refine ⟨parent, fun fuel enough => ?_, id⟩
      obtain ⟨fuel, rfl⟩ := Nat.exists_eq_add_of_lt enough
      rw [find, if_pos top]
    · have up : Climbs (halve parent element) height (halve parent element element) root := by
        cases climbs with
        | root same => exact absurd same top
        | step climbs =>
          rw [halve, update_self]
          exact climbs.up.halve element
      obtain ⟨after, found, kept⟩ := ih up
      refine ⟨after, fun fuel enough => ?_, fun climbs => kept (climbs.halve element)⟩
      obtain ⟨fuel, rfl⟩ := Nat.exists_eq_add_of_lt enough
      rw [find, if_neg top]
      exact found _ (by omega)

theorem Climbs.link {joined onto : ι} (joinedRoot : parent joined = joined)
    (ontoRoot : parent onto = onto) (different : joined ≠ onto) :
    Climbs (Function.update parent joined onto) (height + 1) element
      (if root = joined then onto else root) := by
  induction climbs with
  | @root height element top =>
    by_cases here : element = joined
    · rw [if_pos here, here]
      refine .step ?_
      rw [update_self]
      exact .root (by rw [update_of_ne different.symm, ontoRoot])
    · rw [if_neg here]
      exact .root (by rw [update_of_ne here, top])
  | @step height element root climbs ih =>
    by_cases here : element = joined
    · subst here
      rw [joinedRoot] at ih
      exact ih.succ
    · refine .step ?_
      rwa [update_of_ne here]

end

def Rooted (parent : ι → ι) (height : ℕ) (root : ι → ι) : Prop :=
  ∀ element, Climbs parent height element (root element)

omit [DecidableEq ι] in
theorem rooted_id : Rooted (id : ι → ι) 0 id := fun _ => .root rfl

def joinRoots (root : ι → ι) (first second element : ι) : ι :=
  if root element = root first then root second else root element

/-- **A union joins two trees** and leaves every other one. -/
theorem union_eq {root : ι → ι} (rooted : Rooted parent height root) (first second : ι) :
    ∃ after, (∀ fuel, height < fuel → union fuel parent first second = some after) ∧
      Rooted after (height + 1) (joinRoots root first second) := by
  obtain ⟨parent₁, found₁, kept₁⟩ := find_eq (rooted first)
  obtain ⟨parent₂, found₂, kept₂⟩ := find_eq (kept₁ (rooted second))
  have rooted₂ : Rooted parent₂ height root := fun element => kept₂ (kept₁ (rooted element))
  refine ⟨if root first ≠ root second then
      Function.update parent₂ (root first) (root second) else parent₂,
    fun fuel enough => ?_, fun element => ?_⟩
  · rw [union, found₁ fuel enough]
    change (do let found ← find fuel parent₁ second; _) = _
    rw [found₂ fuel enough]
    rfl
  · by_cases same : root first = root second
    · rw [if_neg (not_not.mpr same), joinRoots, same]
      have unmoved : (if root element = root second then root second else root element) =
          root element := by
        split
        · exact (by assumption : root element = root second).symm
        · rfl
      rw [unmoved]
      exact (rooted₂ element).succ
    · rw [if_pos same]
      exact (rooted₂ element).link (rooted₂ first).isRoot (rooted₂ second).isRoot same

end Audiagentic.Foundations.UnionFind
