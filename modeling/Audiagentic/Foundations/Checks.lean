import Mathlib.Data.List.Forall2

/-!
# Guarded computations

Checked operations of a store are `Except` programs: a list of refusals, then
one result.  `refuse` is the only guard used, and `bind_eq_ok` together with
`refuse_bind_eq_ok` turns the success of such a program into the conjunction of
its guards and the equation for its result.  No proof about a guarded operation
needs to unfold `Except.bind`.
-/

namespace Audiagentic.Foundations

open List

universe u v w

variable {ε : Type u} {α : Type v} {β : Type v}

/-- Fail with `error` exactly when `bad` holds. -/
def refuse (bad : Prop) [Decidable bad] (error : ε) : Except ε PUnit.{v + 1} :=
  if bad then .error error else .ok ⟨⟩

/-- **A sequence succeeds when both parts do.** -/
theorem bind_eq_ok {action : Except ε α} {next : α → Except ε β} {result : β} :
    (action >>= next) = .ok result ↔
      ∃ value, action = .ok value ∧ next value = .ok result := by
  cases action with
  | error failure =>
    constructor
    · intro impossible
      cases impossible
    · rintro ⟨value, impossible, _⟩
      cases impossible
  | ok value =>
    constructor
    · intro success
      exact ⟨value, rfl, success⟩
    · rintro ⟨other, same, success⟩
      cases same
      exact success

/-- **A sequence fails when one of its parts does.** -/
theorem bind_eq_error {action : Except ε α} {next : α → Except ε β} {failure : ε} :
    (action >>= next) = .error failure ↔
      action = .error failure ∨ ∃ value, action = .ok value ∧ next value = .error failure := by
  cases action with
  | error other =>
    constructor
    · intro same
      exact .inl (congrArg Except.error (Except.error.inj same))
    · rintro (same | ⟨value, impossible, _⟩)
      · exact congrArg Except.error (Except.error.inj same)
      · cases impossible
  | ok value =>
    constructor
    · intro failed
      exact .inr ⟨value, rfl, failed⟩
    rintro (impossible | ⟨other, same, failed⟩)
    · cases impossible
    · cases same
      exact failed

theorem refuse_eq_error {bad : Prop} [Decidable bad] {error failure : ε} :
    (refuse bad error : Except ε PUnit.{v + 1}) = .error failure ↔ bad ∧ error = failure := by
  unfold refuse
  by_cases holds : bad <;> simp [holds]

theorem refuse_eq_ok {bad : Prop} [Decidable bad] {error : ε} {passed : PUnit.{v + 1}} :
    refuse bad error = .ok passed ↔ ¬ bad := by
  unfold refuse
  by_cases holds : bad <;> simp [holds]

@[simp] theorem refuse_bind_eq_ok {bad : Prop} [Decidable bad] {error : ε}
    {next : PUnit.{v + 1} → Except ε β} {result : β} :
    (refuse bad error >>= next) = .ok result ↔ ¬ bad ∧ next ⟨⟩ = .ok result := by
  rw [bind_eq_ok]
  constructor
  · rintro ⟨⟨⟩, passed, success⟩
    exact ⟨refuse_eq_ok.mp passed, success⟩
  · rintro ⟨passed, success⟩
    exact ⟨⟨⟩, refuse_eq_ok.mpr passed, success⟩

theorem refuse_of_not {bad : Prop} [Decidable bad] {error : ε} (passed : ¬ bad) :
    (refuse bad error : Except ε PUnit.{v + 1}) = .ok ⟨⟩ :=
  if_neg passed

theorem refuse_of {bad : Prop} [Decidable bad] {error : ε} (fires : bad) :
    (refuse bad error : Except ε PUnit.{v + 1}) = .error error :=
  if_pos fires

/-- A check that is made only on a condition. -/
def checkIf (condition : Prop) [Decidable condition] (check : Except ε PUnit.{v + 1}) :
    Except ε PUnit.{v + 1} :=
  if condition then check else .ok ⟨⟩

theorem checkIf_bind_eq_ok {condition : Prop} [Decidable condition]
    {check : Except ε PUnit.{v + 1}} {next : PUnit.{v + 1} → Except ε β} {result : β} :
    (checkIf condition check >>= next) = .ok result ↔
      (condition → check = .ok ⟨⟩) ∧ next ⟨⟩ = .ok result := by
  unfold checkIf
  by_cases holds : condition
  · rw [if_pos holds, bind_eq_ok]
    constructor
    · rintro ⟨⟨⟩, passed, success⟩
      exact ⟨fun _ => passed, success⟩
    · rintro ⟨passed, success⟩
      exact ⟨⟨⟩, passed holds, success⟩
  · rw [if_neg holds]
    constructor
    · intro success
      exact ⟨fun demanded => absurd demanded holds, success⟩
    · rintro ⟨_, success⟩
      exact success

/-! ## Loops -/

section Loops

variable {ι : Type w}

/-- Take in turn what each item gives.  The first failure ends the loop. -/
def collect (visit : ι → Except ε (Option α)) : List ι → Except ε (List α)
  | [] => .ok []
  | item :: items => do
    let found ← visit item
    let rest ← collect visit items
    return found.toList ++ rest

variable {items : List ι}

/-- **A loop none of whose rounds fails.** -/
theorem collect_eq_ok {visit : ι → Except ε (Option α)} {given : ι → Option α}
    (each : ∀ item ∈ items, visit item = .ok (given item)) :
    collect visit items = .ok (items.filterMap given) := by
  induction items with
  | nil => rfl
  | cons item items ih =>
    obtain ⟨here, later⟩ := forall_mem_cons.mp each
    rw [collect, here, ih later]
    cases found : given item with
    | none => rw [filterMap_cons_none found]; rfl
    | some value => rw [filterMap_cons_some found]; rfl

theorem exists_collect {visit : ι → Except ε (Option α)}
    (each : ∀ item ∈ items, ∃ found, visit item = .ok found) :
    ∃ values, collect visit items = .ok values := by
  induction items with
  | nil => exact ⟨[], rfl⟩
  | cons item items ih =>
    obtain ⟨⟨found, here⟩, later⟩ := forall_mem_cons.mp each
    obtain ⟨values, rest⟩ := ih later
    exact ⟨found.toList ++ values, by rw [collect, here, rest]; rfl⟩

theorem exists_of_collect {visit : ι → Except ε (Option α)} {values : List α}
    (success : collect visit items = .ok values) :
    ∀ item ∈ items, ∃ found, visit item = .ok found := by
  induction items generalizing values with
  | nil => exact nofun
  | cons item items ih =>
    obtain ⟨found, here, success⟩ := bind_eq_ok.mp success
    obtain ⟨rest, later, _⟩ := bind_eq_ok.mp success
    exact forall_mem_cons.mpr ⟨⟨found, here⟩, ih later⟩

variable {visit : ι → Except ε α}

/-- **A list of results is one of results of its items.** -/
theorem mapM_eq_ok_iff {values : List α} :
    items.mapM visit = .ok values ↔
      List.Forall₂ (fun item value => visit item = .ok value) items values := by
  induction items generalizing values with
  | nil =>
    rw [mapM_nil, forall₂_nil_left_iff]
    constructor
    · intro same
      cases same
      rfl
    · rintro rfl
      rfl
  | cons item items ih =>
    rw [mapM_cons, forall₂_cons_left_iff, bind_eq_ok]
    constructor
    · rintro ⟨value, here, later⟩
      obtain ⟨rest, found, same⟩ := bind_eq_ok.mp later
      cases same
      exact ⟨value, rest, here, ih.mp found, rfl⟩
    · rintro ⟨value, rest, here, found, rfl⟩
      exact ⟨value, here, bind_eq_ok.mpr ⟨rest, ih.mpr found, rfl⟩⟩

theorem exists_of_mapM {values : List α} (visited : items.mapM visit = .ok values) {item : ι}
    (member : item ∈ items) : ∃ value ∈ values, visit item = .ok value := by
  rw [mapM_eq_ok_iff] at visited
  induction visited with
  | nil => cases member
  | @cons other value items values here _ ih =>
    rcases mem_cons.mp member with rfl | member
    · exact ⟨value, mem_cons_self, here⟩
    · obtain ⟨found, inside, same⟩ := ih member
      exact ⟨found, mem_cons_of_mem _ inside, same⟩

theorem exists_of_mem_mapM {values : List α} (visited : items.mapM visit = .ok values) {value : α}
    (member : value ∈ values) : ∃ item ∈ items, visit item = .ok value := by
  rw [mapM_eq_ok_iff] at visited
  induction visited with
  | nil => cases member
  | @cons item other items values here _ ih =>
    rcases mem_cons.mp member with rfl | member
    · exact ⟨item, mem_cons_self, here⟩
    · obtain ⟨found, inside, same⟩ := ih member
      exact ⟨found, mem_cons_of_mem _ inside, same⟩

/-- **The invariant rule for loops.**  What every successful round keeps holds after the loop. -/
theorem foldlM_invariant {round : β → ι → Except ε β} {Inv : β → Prop}
    (kept : ∀ state, ∀ item ∈ items, ∀ next, Inv state → round state item = .ok next → Inv next)
    {start final : β} (ended : items.foldlM round start = .ok final) (initially : Inv start) :
    Inv final := by
  induction items generalizing start with
  | nil =>
    cases ended
    exact initially
  | cons item items ih =>
    rw [foldlM_cons, bind_eq_ok] at ended
    obtain ⟨next, passed, later⟩ := ended
    exact ih
      (fun state other member => kept state other (mem_cons_of_mem _ member)) later
      (kept start item mem_cons_self next initially passed)

end Loops

end Audiagentic.Foundations
