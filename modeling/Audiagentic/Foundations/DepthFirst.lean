import Audiagentic.Foundations.Checks
import Mathlib.Data.List.Chain
import Mathlib.Data.List.Infix
import Mathlib.Data.List.Nodup
import Mathlib.Data.List.Perm.Subperm

/-!
# Depth-first construction

A walk goes down from a name to the names that it needs, and makes something of each name after
those below it.  What was made stands in the order in which it was made, and a name that stands
there is not made again.  A walk that comes back to a name it is still below reports the cycle.
-/

namespace Audiagentic.Foundations

open List

universe u

/-- `make` is given the name that asks, and what was made before.  It may fail. -/
structure Walk (α ι ε : Type u) where
  needs : α → List α
  make : Option α → List (α × ι) → α → Except ε ι
  cyclic : List α → ε
  exhausted : ε

namespace Walk

variable {α ι ε : Type u}

def names (done : List (α × ι)) : List α := done.map Prod.fst

/-- The path holds the names that the walk is below, from the root down. -/
def visit [DecidableEq α] (walk : Walk α ι ε) :
    ℕ → List α → List (α × ι) → α → Except ε (List (α × ι))
  | 0, _, _, _ => .error walk.exhausted
  | fuel + 1, path, done, name =>
    if name ∈ names done then .ok done
    else if name ∈ path then .error (walk.cyclic (path.drop (path.idxOf name) ++ [name]))
    else do
      let below ← (walk.needs name).foldlM (walk.visit fuel (path ++ [name])) done
      let value ← walk.make path.getLast? below name
      .ok (below ++ [(name, value)])

def visitAll [DecidableEq α] (walk : Walk α ι ε) (fuel : ℕ) (roots : List α) :
    Except ε (List (α × ι)) :=
  roots.foldlM (walk.visit fuel []) []

/-! ## The graph -/

section Graph

variable (walk : Walk α ι ε)

def Edge (name need : α) : Prop := need ∈ walk.needs name

def Reaches : α → α → Prop := Relation.ReflTransGen walk.Edge

def IsCycle (name : α) (cycle : List α) : Prop :=
  ∃ between, cycle = name :: (between ++ [name]) ∧ cycle.IsChain walk.Edge

/-- What a walk may have made. -/
inductive Built : List (α × ι) → Prop
  | nil : Built []
  | snoc {done : List (α × ι)} {name : α} {value : ι} (parent : Option α) (below : Built done)
      (fresh : name ∉ names done) (ready : walk.needs name ⊆ names done)
      (made : walk.make parent done name = .ok value) : Built (done ++ [(name, value)])

/-- What a walk from a name may report. -/
inductive Fault (root : α) : ε → Prop
  | cycle {name : α} {cycle : List α} (reached : walk.Reaches root name)
      (real : walk.IsCycle name cycle) : Fault root (walk.cyclic cycle)
  | make {name : α} {parent : Option α} {done : List (α × ι)} {failure : ε}
      (reached : walk.Reaches root name) (below : walk.Built done)
      (ready : walk.needs name ⊆ names done)
      (failed : walk.make parent done name = .error failure) : Fault root failure

end Graph

variable {walk : Walk α ι ε}

theorem IsCycle.transGen {name : α} {cycle : List α} (real : walk.IsCycle name cycle) :
    Relation.TransGen walk.Edge name name := by
  obtain ⟨between, rfl, chain⟩ := real
  have walked : ∀ (start : α) (middle : List α), (start :: (middle ++ [name])).IsChain walk.Edge →
      Relation.TransGen walk.Edge start name := by
    intro start middle
    induction middle generalizing start with
    | nil =>
      intro chain
      exact .single (isChain_cons_cons.mp chain).1
    | cons next rest ih =>
      intro chain
      obtain ⟨edge, later⟩ := isChain_cons_cons.mp chain
      exact .head edge (ih next later)
  exact walked name between chain

theorem isCycle_of_path [DecidableEq α] {path : List α} {name : α}
    (chain : (path ++ [name]).IsChain walk.Edge) (back : name ∈ path) :
    walk.IsCycle name (path.drop (path.idxOf name) ++ [name]) := by
  have inside : path.idxOf name < path.length := idxOf_lt_length_of_mem back
  refine ⟨path.drop (path.idxOf name + 1), ?_, ?_⟩
  · rw [drop_eq_getElem_cons inside, getElem_idxOf inside, cons_append]
  · rw [← drop_append_of_le_length inside.le]
    exact chain.drop _

theorem Fault.of_edge {name need : α} {failure : ε} (edge : walk.Edge name need)
    (fault : walk.Fault need failure) : walk.Fault name failure := by
  cases fault with
  | cycle reached real => exact .cycle (.head edge reached) real
  | make reached below ready failed => exact .make (.head edge reached) below ready failed

/-! ## What was made -/

theorem names_append (first second : List (α × ι)) :
    names (first ++ second) = names first ++ names second :=
  map_append

theorem names_subset_append (first second : List (α × ι)) :
    names first ⊆ names (first ++ second) := by
  rw [names_append]
  exact subset_append_left _ _

namespace Built

variable {done : List (α × ι)}

theorem nodup (built : walk.Built done) : (names done).Nodup := by
  induction built with
  | nil => exact nodup_nil
  | snoc _ _ fresh _ _ ih =>
    rw [names_append]
    exact ih.append (nodup_singleton _) (disjoint_singleton.mpr fresh)

/-- **What a name needs stands before it.** -/
theorem before (built : walk.Built done) {first later : List (α × ι)} {entry : α × ι}
    (split : done = first ++ entry :: later) :
    walk.Built first ∧ walk.needs entry.1 ⊆ names first ∧
      ∃ parent, walk.make parent first entry.1 = .ok entry.2 := by
  induction built generalizing later with
  | nil => simp at split
  | snoc parent below _ ready made ih =>
    rcases eq_nil_or_concat later with rfl | ⟨rest, last, rfl⟩
    · obtain ⟨rfl, same⟩ := append_inj' split rfl
      obtain rfl := head_eq_of_cons_eq same
      exact ⟨below, ready, parent, made⟩
    · rw [concat_eq_append, ← cons_append, ← append_assoc] at split
      exact ih (append_inj' split rfl).1

theorem closed (built : walk.Built done) {name other : α} (made : name ∈ names done)
    (reached : walk.Reaches name other) : other ∈ names done := by
  induction reached with
  | refl => exact made
  | tail _ edge ih =>
    obtain ⟨entry, listed, rfl⟩ := List.mem_map.mp ih
    obtain ⟨first, later, rfl⟩ := append_of_mem listed
    exact names_subset_append _ _ ((built.before rfl).2.1 edge)

theorem sublist (built : walk.Built done) {name need : α} (made : name ∈ names done)
    (edge : walk.Edge name need) : [need, name].Sublist (names done) := by
  obtain ⟨entry, member, rfl⟩ := List.mem_map.mp made
  obtain ⟨first, later, rfl⟩ := append_of_mem member
  rw [names_append]
  exact (singleton_sublist.mpr ((built.before rfl).2.1 edge)).append
    (singleton_sublist.mpr mem_cons_self)

/-- **What was made has no cycle.** -/
theorem acyclic (built : walk.Built done) {name : α} (made : name ∈ names done) :
    ¬Relation.TransGen walk.Edge name name := by
  induction built generalizing name with
  | nil => cases made
  | snoc _ below fresh ready _ ih =>
    intro cycle
    rw [names_append, mem_append] at made
    rcases made with earlier | latest
    · exact ih earlier cycle
    · rw [mem_singleton.mp latest] at cycle
      obtain ⟨need, edge, reached⟩ := Relation.TransGen.head'_iff.mp cycle
      exact fresh (below.closed (ready edge) reached)

end Built

/-! ## Walks that return -/

structure Extends (walk : Walk α ι ε) (roots : List α) (done final : List (α × ι)) : Prop where
  built : walk.Built final
  kept : names done ⊆ names final
  reached : ∀ name ∈ names final, name ∈ names done ∨ ∃ root ∈ roots, walk.Reaches root name
  complete : roots ⊆ names final

theorem extends_foldlM {step : List (α × ι) → α → Except ε (List (α × ι))}
    (one : ∀ {done final : List (α × ι)} {name : α}, walk.Built done →
      step done name = .ok final → walk.Extends [name] done final)
    {roots : List α} {done final : List (α × ι)} (built : walk.Built done)
    (returned : roots.foldlM step done = .ok final) : walk.Extends roots done final := by
  induction roots generalizing done with
  | nil =>
    cases returned
    exact ⟨built, List.Subset.refl _, fun _ => .inl, nil_subset _⟩
  | cons root rest ih =>
    rw [foldlM_cons] at returned
    obtain ⟨middle, here, later⟩ := bind_eq_ok.mp returned
    have first := one built here
    have second := ih first.built later
    refine ⟨second.built, fun _ made => second.kept (first.kept made), ?_, ?_⟩
    · intro name made
      rcases second.reached name made with before | ⟨other, listed, reached⟩
      · refine (first.reached name before).imp_right ?_
        rintro ⟨other, listed, reached⟩
        exact ⟨other, mem_cons.mpr (.inl (mem_singleton.mp listed)), reached⟩
      · exact .inr ⟨other, mem_cons_of_mem _ listed, reached⟩
    · exact cons_subset.mpr ⟨second.kept (first.complete (mem_singleton_self root)),
        second.complete⟩

variable [DecidableEq α]

theorem extends_visit (fuel : ℕ) {path : List α} {done final : List (α × ι)} {name : α}
    (built : walk.Built done) (returned : walk.visit fuel path done name = .ok final) :
    walk.Extends [name] done final := by
  induction fuel generalizing path done final name with
  | zero => cases returned
  | succ fuel ih =>
    rw [visit] at returned
    split at returned
    · cases returned
      exact ⟨built, List.Subset.refl _, fun _ => .inl, cons_subset.mpr ⟨‹_›, nil_subset _⟩⟩
    rename_i fresh
    split at returned
    · cases returned
    obtain ⟨below, walked, rest⟩ := bind_eq_ok.mp returned
    obtain ⟨value, made, same⟩ := bind_eq_ok.mp rest
    cases same
    have extended := extends_foldlM (fun built returned => ih built returned) built walked
    refine ⟨.snoc _ extended.built ?_ extended.complete made,
      fun _ made => names_subset_append _ _ (extended.kept made), ?_, ?_⟩
    · -- Otherwise the name was made below itself, and what was made has no cycle.
      intro again
      rcases extended.reached name again with before | ⟨need, edge, reached⟩
      · exact fresh before
      · exact extended.built.acyclic again (.head' edge reached)
    · intro other listed
      rw [names_append, mem_append] at listed
      rcases listed with before | last
      · refine (extended.reached other before).imp_right ?_
        rintro ⟨need, edge, reached⟩
        exact ⟨name, mem_singleton_self name, .head edge reached⟩
      · rw [mem_singleton.mp last]
        exact .inr ⟨name, mem_singleton_self name, .refl⟩
    · rw [names_append]
      exact subset_append_right _ _

/-- **A walk that returns has made what its roots reach, each name after those it needs.** -/
theorem visitAll_ok {fuel : ℕ} {roots : List α} {final : List (α × ι)}
    (returned : walk.visitAll fuel roots = .ok final) :
    walk.Built final ∧
      ∀ name, name ∈ names final ↔ ∃ root ∈ roots, walk.Reaches root name := by
  have extended := extends_foldlM (fun built => extends_visit fuel built) .nil returned
  refine ⟨extended.built, fun name => ⟨fun made => ?_, ?_⟩⟩
  · exact (extended.reached name made).resolve_left not_mem_nil
  · rintro ⟨root, listed, reached⟩
    exact extended.built.closed (extended.complete listed) reached

/-! ## Walks that fail -/

omit [DecidableEq α] in
theorem foldlM_error {step : List (α × ι) → α → Except ε (List (α × ι))}
    (kept : ∀ {done final : List (α × ι)} {name : α}, walk.Built done →
      step done name = .ok final → walk.Built final)
    {roots : List α} {done : List (α × ι)} {failure : ε} (built : walk.Built done)
    (failed : roots.foldlM step done = .error failure) :
    ∃ root ∈ roots, ∃ before, walk.Built before ∧ step before root = .error failure := by
  induction roots generalizing done with
  | nil => cases failed
  | cons root rest ih =>
    rw [foldlM_cons] at failed
    rcases bind_eq_error.mp failed with here | ⟨middle, returned, later⟩
    · exact ⟨root, mem_cons_self, done, built, here⟩
    · obtain ⟨other, listed, before⟩ := ih (kept built returned) later
      exact ⟨other, mem_cons_of_mem _ listed, before⟩

/-- A walk that is below a path of the graph, with fuel for the names that it can be below
besides, reports what is there. -/
theorem fault_visit (fuel : ℕ) {inner path : List α} {done : List (α × ι)} {name : α}
    {failure : ε} (all : ∀ name, walk.needs name ≠ [] → name ∈ inner)
    (enough : inner.length < fuel + path.length) (inside : path ⊆ inner) (nodup : path.Nodup)
    (chain : (path ++ [name]).IsChain walk.Edge) (built : walk.Built done)
    (failed : walk.visit fuel path done name = .error failure) : walk.Fault name failure := by
  induction fuel generalizing path done name with
  | zero =>
    have long := (nodup.subperm inside).length_le
    omega
  | succ fuel ih =>
    rw [visit] at failed
    split at failed
    · cases failed
    split at failed
    · cases failed
      exact .cycle .refl (isCycle_of_path chain ‹_›)
    rename_i new
    rcases bind_eq_error.mp failed with below | ⟨more, walked, rest⟩
    · obtain ⟨need, edge, before, standing, refused⟩ :=
        foldlM_error (fun built returned => (extends_visit fuel built returned).built) built below
      refine .of_edge edge (ih ?_ ?_ ?_ ?_ standing refused)
      · rw [length_append, length_singleton]
        omega
      · have within := all name (ne_nil_of_mem edge)
        exact append_subset.mpr ⟨inside, cons_subset.mpr ⟨within, nil_subset _⟩⟩
      · exact nodup.append (nodup_singleton name) (disjoint_singleton.mpr new)
      · refine chain.append (isChain_singleton need) ?_
        intro last final first head
        rw [getLast?_concat, Option.mem_some_iff] at final
        rw [head?_cons, Option.mem_some_iff] at head
        rw [← final, ← head]
        exact edge
    · have extended := extends_foldlM (fun built => extends_visit fuel built) built walked
      rcases bind_eq_error.mp rest with refused | ⟨_, _, impossible⟩
      · exact .make .refl extended.built extended.complete refused
      · cases impossible

section Fuel

variable {fuel : ℕ} {roots inner : List α} (all : ∀ name, walk.needs name ≠ [] → name ∈ inner)
  (enough : inner.length < fuel)
include all enough

/-- **What a walk reports is there**, with more fuel than there are names that need others. -/
theorem visitAll_error {failure : ε} (failed : walk.visitAll fuel roots = .error failure) :
    ∃ root ∈ roots, walk.Fault root failure := by
  obtain ⟨root, listed, before, built, refused⟩ :=
    foldlM_error (fun built returned => (extends_visit fuel built returned).built) .nil failed
  exact ⟨root, listed, fault_visit fuel all (by simpa using enough) (nil_subset _) nodup_nil
    (isChain_singleton root) built refused⟩

/-- **The walks that succeed.**  Nothing that the roots reach is on a cycle, and each name that is
reached can be made when what it needs is there. -/
theorem visitAll_ok_iff {sound : α → Prop}
    (makes : ∀ parent done name, walk.Built done → walk.needs name ⊆ names done →
      ((∃ value, walk.make parent done name = .ok value) ↔ sound name)) :
    (∃ final, walk.visitAll fuel roots = .ok final) ↔
      ∀ root ∈ roots, ∀ name, walk.Reaches root name →
        sound name ∧ ¬Relation.TransGen walk.Edge name name := by
  constructor
  · rintro ⟨final, returned⟩ root listed name reached
    obtain ⟨built, exactly⟩ := visitAll_ok returned
    have made := (exactly name).mpr ⟨root, listed, reached⟩
    refine ⟨?_, built.acyclic made⟩
    obtain ⟨entry, member, rfl⟩ := List.mem_map.mp made
    obtain ⟨first, later, split⟩ := append_of_mem member
    obtain ⟨below, ready, parent, made⟩ := built.before split
    exact (makes parent first entry.1 below ready).mp ⟨entry.2, made⟩
  · intro fine
    cases outcome : walk.visitAll fuel roots with
    | ok final => exact ⟨final, rfl⟩
    | error failure =>
      obtain ⟨root, listed, fault⟩ := visitAll_error all enough outcome
      cases fault with
      | cycle reached real => exact absurd real.transGen (fine root listed _ reached).2
      | make reached built ready failed =>
        obtain ⟨value, made⟩ := (makes _ _ _ built ready).mpr (fine root listed _ reached).1
        rw [made] at failed
        cases failed

end Fuel

end Walk

end Audiagentic.Foundations
