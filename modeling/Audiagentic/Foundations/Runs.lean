import Mathlib.Data.List.Induction
import Mathlib.Data.List.Nodup
import Mathlib.Logic.Relation

/-!
# Runs of a deterministic machine

A machine is a step function on states and actions.  All nondeterminism (which
party acts, with which arguments, when a crash falls) is in the list of actions,
so a run is a fold and "every interleaving" is "every list".

The rules used by the developments built on it:

* `exec_invariant` — an invariant of one step is an invariant of every run;
* `exec_relates` — a preorder that one step respects relates the first state
  of a run to its last;
* `Admissible` — runs all of whose steps meet a condition on the state and the
  action, with the same two rules;
* `admissible_congr` — two conditions that agree under an invariant have the same runs;
* `admissible_iff_forall_prefix` — the runs that keep an invariant all the way;
* `Admissible.answers_countP_le_one` — an answer that can be given only once per run;
* `guarded_append_singleton` — a history each of whose entries is justified by those before it;
* `exec_since` — what holds at the end of a run has held since the action that began it.
-/

namespace Audiagentic.Foundations

open List

universe u v w

variable {σ : Type u} {α : Type v}

def exec (step : σ → α → σ) (start : σ) (actions : List α) : σ :=
  actions.foldl step start

@[simp] theorem exec_nil (step : σ → α → σ) (start : σ) : exec step start [] = start := rfl

@[simp] theorem exec_cons (step : σ → α → σ) (start : σ) (action : α) (actions : List α) :
    exec step start (action :: actions) = exec step (step start action) actions := rfl

theorem exec_append (step : σ → α → σ) (start : σ) (first second : List α) :
    exec step start (first ++ second) = exec step (exec step start first) second :=
  foldl_append

/-! ## One entry more -/

theorem forall_mem_snoc {property : α → Prop} {entries : List α} {last : α}
    (before : ∀ entry ∈ entries, property entry) (now : property last) :
    ∀ entry ∈ entries ++ [last], property entry :=
  forall_mem_append.mpr ⟨before, forall_mem_singleton.mpr now⟩

theorem nodup_map_snoc {β : Type w} {f : α → β} {entries : List α} {last : α}
    (distinct : (entries.map f).Nodup) (new : ∀ entry ∈ entries, f entry ≠ f last) :
    ((entries ++ [last]).map f).Nodup := by
  rw [map_append, map_singleton, ← concat_eq_append]
  exact List.Nodup.concat (fun known => (exists_of_mem_map known).elim
    fun entry here => new entry here.1 here.2) distinct

theorem nodup_snoc {entries : List α} {last : α} (distinct : entries.Nodup)
    (new : last ∉ entries) : (entries ++ [last]).Nodup := by
  rw [← concat_eq_append]
  exact List.Nodup.concat new distinct

/-! ## Conditional runs -/

/-- Every action of the list meets `allowed` in the state in which it is taken. -/
def Admissible (step : σ → α → σ) (allowed : σ → α → Prop) : σ → List α → Prop
  | _, [] => True
  | state, action :: actions =>
    allowed state action ∧ Admissible step allowed (step state action) actions

/-- A condition that can be tested can be tested along a run. -/
instance Admissible.decidable {step : σ → α → σ} {allowed : σ → α → Prop}
    [tested : ∀ state action, Decidable (allowed state action)] :
    ∀ (start : σ) (actions : List α), Decidable (Admissible step allowed start actions)
  | _, [] => .isTrue trivial
  | start, action :: actions =>
    @instDecidableAnd _ _ (tested start action)
      (Admissible.decidable (step start action) actions)

variable {step : σ → α → σ}

theorem admissible_append {allowed : σ → α → Prop} {start : σ} {first second : List α} :
    Admissible step allowed start (first ++ second) ↔
      Admissible step allowed start first ∧
        Admissible step allowed (exec step start first) second := by
  induction first generalizing start with
  | nil => simp [Admissible]
  | cons action actions ih =>
    simp only [cons_append, Admissible, exec_cons, ih, and_assoc]

theorem admissible_of_forall {allowed : σ → α → Prop}
    (always : ∀ state action, allowed state action) (start : σ) (actions : List α) :
    Admissible step allowed start actions := by
  induction actions generalizing start with
  | nil => trivial
  | cons action actions ih =>
    exact ⟨always start action, ih (step start action)⟩

/-- A run is admissible for a condition on its actions that all of them meet. -/
theorem admissible_of_mem {allowed : α → Prop} {actions : List α}
    (met : ∀ action ∈ actions, allowed action) (start : σ) :
    Admissible step (fun _ => allowed) start actions := by
  induction actions generalizing start with
  | nil => trivial
  | cons action actions ih =>
    obtain ⟨here, later⟩ := forall_mem_cons.mp met
    exact ⟨here, ih later (step start action)⟩

/-- A run that is admissible for two conditions is admissible for both together. -/
theorem Admissible.and {allowed permitted : σ → α → Prop} {start : σ} {actions : List α}
    (first : Admissible step allowed start actions)
    (second : Admissible step permitted start actions) :
    Admissible step (fun state action => allowed state action ∧ permitted state action) start
      actions := by
  induction actions generalizing start with
  | nil => trivial
  | cons action actions ih =>
    exact ⟨⟨first.1, second.1⟩, ih first.2 second.2⟩

/-- **The invariant rule for conditional runs.** -/
theorem Admissible.invariant {step : σ → α → σ} {allowed : σ → α → Prop} {Inv : σ → Prop}
    (preserved : ∀ state action, Inv state → allowed state action → Inv (step state action))
    {start : σ} {actions : List α} (run : Admissible step allowed start actions)
    (initially : Inv start) : Inv (exec step start actions) := by
  induction actions generalizing start with
  | nil => exact initially
  | cons action actions ih =>
    exact ih run.2 (preserved start action initially run.1)

/-- **Two conditions that agree under an invariant.**  A run meets the one all the way exactly when
it meets the other. -/
theorem admissible_congr {step : σ → α → σ} {allowed permitted : σ → α → Prop} {Inv : σ → Prop}
    (preserved : ∀ state action, Inv state → allowed state action → Inv (step state action))
    (same : ∀ state action, Inv state → (allowed state action ↔ permitted state action))
    {start : σ} (initially : Inv start) (actions : List α) :
    Admissible step allowed start actions ↔ Admissible step permitted start actions := by
  induction actions generalizing start with
  | nil => exact Iff.rfl
  | cons action actions ih =>
    have here := same start action initially
    constructor
    · rintro ⟨met, later⟩
      exact ⟨here.mp met, (ih (preserved start action initially met)).mp later⟩
    · rintro ⟨met, later⟩
      have kept := preserved start action initially (here.mpr met)
      exact ⟨here.mpr met, (ih kept).mpr later⟩

/-- **The history rule for conditional runs.**  A reflexive and transitive
relation that every allowed step respects, under an invariant, relates the first
state of a run to its last. -/
theorem Admissible.relates {allowed : σ → α → Prop} {Inv : σ → Prop} {R : σ → σ → Prop}
    (reflexive : ∀ state, R state state)
    (transitive : ∀ first second third, R first second → R second third → R first third)
    (preserved : ∀ state action, Inv state → allowed state action → Inv (step state action))
    (respects : ∀ state action, Inv state → allowed state action → R state (step state action))
    {start : σ} {actions : List α} (run : Admissible step allowed start actions)
    (initially : Inv start) : R start (exec step start actions) := by
  induction actions generalizing start with
  | nil => exact reflexive start
  | cons action actions ih =>
    exact transitive _ _ _ (respects start action initially run.1)
      (ih run.2 (preserved start action initially run.1))

/-- **The exactness rule for conditional runs.**  When the allowed steps are those that keep an
invariant, an admissible run is one that satisfies it all the way. -/
theorem admissible_iff_forall_prefix {allowed : σ → α → Prop} {Base Inv : σ → Prop}
    (preserved : ∀ state action, Base state → Base (step state action))
    (exact : ∀ state action, Base state → Inv state →
      (Inv (step state action) ↔ allowed state action)) {start : σ} (based : Base start)
    (initially : Inv start) (actions : List α) :
    (∀ first later, actions = first ++ later → Inv (exec step start first)) ↔
      Admissible step allowed start actions := by
  induction actions generalizing start with
  | nil =>
    constructor
    · intro _
      trivial
    · intro _ first later split
      rw [(append_eq_nil_iff.mp split.symm).1]
      exact initially
  | cons action actions ih =>
    constructor
    · intro always
      have kept : Inv (step start action) := always [action] actions rfl
      refine ⟨(exact start action based initially).mp kept, ?_⟩
      rw [← ih (preserved start action based) kept]
      intro first later split
      exact always (action :: first) later (by rw [split, cons_append])
    · rintro ⟨here, run⟩ first later split
      have kept : Inv (step start action) := (exact start action based initially).mpr here
      cases first with
      | nil => exact initially
      | cons _ first =>
        obtain ⟨rfl, rest⟩ := cons_eq_cons.mp split
        exact (ih (preserved start action based) kept).mpr run first later rest

/-! ## Unconditional runs -/

/-- **The invariant rule.** -/
theorem exec_invariant {step : σ → α → σ} {Inv : σ → Prop}
    (preserved : ∀ state action, Inv state → Inv (step state action))
    {start : σ} (initially : Inv start) (actions : List α) :
    Inv (exec step start actions) := by
  have run : Admissible step (fun _ _ => True) start actions :=
    admissible_of_forall (fun _ _ => trivial) start actions
  exact run.invariant (fun state action holds _ => preserved state action holds) initially

/-- **The history rule.** -/
theorem exec_relates {step : σ → α → σ} {Inv : σ → Prop} {R : σ → σ → Prop}
    (reflexive : ∀ state, R state state)
    (transitive : ∀ first second third, R first second → R second third → R first third)
    (preserved : ∀ state action, Inv state → Inv (step state action))
    (respects : ∀ state action, Inv state → R state (step state action))
    {start : σ} (initially : Inv start) (actions : List α) :
    R start (exec step start actions) := by
  have run : Admissible step (fun _ _ => True) start actions :=
    admissible_of_forall (fun _ _ => trivial) start actions
  exact run.relates reflexive transitive
    (fun state action holds _ => preserved state action holds)
    (fun state action holds _ => respects state action holds) initially

/-! ## Histories -/

def Guarded (justified : List α → α → Prop) (history : List α) : Prop :=
  ∀ before entry after, history = before ++ entry :: after → justified before entry

theorem guarded_nil {justified : List α → α → Prop} : Guarded justified [] := by
  intro before entry after split
  cases before <;> cases split

/-- **The history grows.** -/
theorem guarded_append_singleton {justified : List α → α → Prop} {history : List α}
    {latest : α} :
    Guarded justified (history ++ [latest]) ↔
      Guarded justified history ∧ justified history latest := by
  constructor
  · intro guarded
    refine ⟨?_, guarded history latest [] rfl⟩
    intro before entry after split
    refine guarded before entry (after ++ [latest]) ?_
    rw [split, append_assoc, cons_append]
  · rintro ⟨guarded, justifies⟩ before entry after split
    rcases eq_nil_or_concat after with rfl | ⟨earlier, last, rfl⟩
    · obtain ⟨rfl, same⟩ := append_inj' split rfl
      cases same
      exact justifies
    · rw [concat_eq_append, ← cons_append, ← append_assoc] at split
      obtain ⟨rfl, -⟩ := append_inj' split rfl
      exact guarded before entry earlier rfl

/-! ## Since when -/

/-- **The since rule.**  What does not hold at first and can only begin with some actions holds at
the end of a run because of an action that began it, and has held ever since. -/
theorem exec_since {Inv P : σ → Prop} {Begins : σ → α → Prop}
    (preserved : ∀ state action, Inv state → Inv (step state action))
    (begins : ∀ state action, Inv state → P (step state action) → P state ∨ Begins state action)
    {start : σ} (initially : Inv start) (absent : ¬ P start) (run : List α)
    (present : P (exec step start run)) :
    ∃ before action after, run = before ++ action :: after ∧
      Begins (exec step start before) action ∧
      ∀ first rest, after = first ++ rest → P (exec step start (before ++ action :: first)) := by
  induction run using List.reverseRecOn with
  | nil => exact absurd present absent
  | append_singleton run latest ih =>
    have last := present
    rw [exec_append] at last
    rcases begins _ latest (exec_invariant preserved initially run) last with held | began
    · obtain ⟨before, action, after, rfl, began, since⟩ := ih held
      refine ⟨before, action, after ++ [latest], by simp, began, ?_⟩
      intro first rest split
      rcases eq_nil_or_concat rest with rfl | ⟨earlier, final, rfl⟩
      · rw [append_nil] at split
        rw [← split, ← cons_append, ← append_assoc]
        exact present
      · rw [concat_eq_append, ← append_assoc] at split
        exact since first earlier (append_inj' split rfl).1
    · refine ⟨run, latest, [], rfl, began, ?_⟩
      intro first rest split
      rw [(append_eq_nil_iff.mp split.symm).1]
      exact present

/-! ## Runs that answer -/

variable {β : Type w}

def answers (step : σ → α → β × σ) : σ → List α → List β
  | _, [] => []
  | state, action :: actions =>
    (step state action).1 :: answers step (step state action).2 actions

/-- **The at-most-once rule.**  An answer that needs a fresh state and spends it is given at
most once in a conditional run when a spent state stays spent. -/
theorem Admissible.answers_countP_le_one {step : σ → α → β × σ} {allowed : σ → α → Prop}
    {Inv Spent : σ → Prop} {event : β → Bool}
    (preserved : ∀ state action, Inv state → allowed state action → Inv (step state action).2)
    (fresh : ∀ state action, Inv state → allowed state action →
      event (step state action).1 = true → ¬ Spent state)
    (spends : ∀ state action, Inv state → allowed state action →
      event (step state action).1 = true → Spent (step state action).2)
    (stays : ∀ state action, Inv state → allowed state action → Spent state →
      Spent (step state action).2)
    {start : σ} {actions : List α}
    (run : Admissible (fun state action => (step state action).2) allowed start actions)
    (initially : Inv start) : (answers step start actions).countP event ≤ 1 := by
  -- Once spent, nothing counts any more; before that, the first count spends.
  have none_after : ∀ (actions : List α) (state : σ),
      Admissible (fun state action => (step state action).2) allowed state actions → Inv state →
      Spent state → (answers step state actions).countP event = 0 := by
    intro actions
    induction actions with
    | nil =>
      intro state _ _ _
      rfl
    | cons action actions ih =>
      intro state run holds spent
      have quiet : ¬ event (step state action).1 = true :=
        fun occurs => fresh state action holds run.1 occurs spent
      rw [answers, countP_cons_of_neg quiet]
      exact ih _ run.2 (preserved state action holds run.1)
        (stays state action holds run.1 spent)
  induction actions generalizing start with
  | nil => exact Nat.zero_le 1
  | cons action actions ih =>
    rw [answers]
    by_cases occurs : event (step start action).1 = true
    · have rest : (answers step (step start action).2 actions).countP event = 0 :=
        none_after actions _ run.2 (preserved start action initially run.1)
          (spends start action initially run.1 occurs)
      rw [countP_cons_of_pos occurs]
      omega
    · rw [countP_cons_of_neg occurs]
      exact ih run.2 (preserved start action initially run.1)

theorem answers_countP_le_one {step : σ → α → β × σ} {event : β → Bool} {Spent : σ → Prop}
    (fresh : ∀ state action, event (step state action).1 = true → ¬ Spent state)
    (spends : ∀ state action, event (step state action).1 = true → Spent (step state action).2)
    (stays : ∀ state action, Spent state → Spent (step state action).2)
    (start : σ) (actions : List α) : (answers step start actions).countP event ≤ 1 := by
  have run : Admissible (fun state action => (step state action).2) (fun _ _ => True) start
      actions := admissible_of_forall (fun _ _ => trivial) start actions
  exact @Admissible.answers_countP_le_one σ α β step (fun _ _ => True) (fun _ => True) Spent event
    (fun _ _ _ _ => trivial) (fun state action _ _ => fresh state action)
    (fun state action _ _ => spends state action) (fun state action _ _ => stays state action)
    start actions run trivial

end Audiagentic.Foundations
