import Audiagentic.Foundations.Checks

/-!
# Scripts and transactions

A script works on a store: it reads it, writes it and may raise.  What it wrote
before it raised stays written.  A transaction is a script that is rolled back
when it raises.

The rules used by the developments built on it:

* `Script.bind_eq_ok`, with one rule for each primitive — the success of a
  script is the chain of the successes of its statements;
* `transaction_eq_ok` — a transaction that returns did what its script does;
* `CommitsAs` — a transaction whose resources are released after it commits
  nothing, or what it commits when the release succeeds, whatever is raised: kept
  by checks before and by returns after one.
-/

namespace Audiagentic.Foundations

/-- A program over a store `σ` that may raise `ε`. -/
def Script (ε σ α : Type) : Type :=
  σ → Except ε α × σ

namespace Script

variable {ε σ α β : Type}

def run (script : Script ε σ α) (store : σ) : Except ε α × σ :=
  script store

instance : Monad (Script ε σ) where
  pure value := fun store => (.ok value, store)
  bind script next := fun store =>
    match script store with
    | (.ok value, written) => next value written
    | (.error failure, written) => (.error failure, written)

def read : Script ε σ σ :=
  fun store => (.ok store, store)

def write (change : σ → σ) : Script ε σ Unit :=
  fun store => (.ok ⟨⟩, change store)

/-- A check or a computation that does not touch the store. -/
def check (result : Except ε α) : Script ε σ α :=
  fun store => (result, store)

@[simp] theorem run_pure (value : α) (store : σ) :
    (pure value : Script ε σ α).run store = (.ok value, store) := rfl

@[simp] theorem run_read_bind (next : σ → Script ε σ β) (store : σ) :
    (read >>= next : Script ε σ β).run store = (next store).run store := rfl

@[simp] theorem run_write (change : σ → σ) (store : σ) :
    (write change : Script ε σ Unit).run store = (.ok ⟨⟩, change store) := rfl

@[simp] theorem run_write_bind (change : σ → σ) (next : Unit → Script ε σ β) (store : σ) :
    (write change >>= next : Script ε σ β).run store = (next ⟨⟩).run (change store) := rfl

@[simp] theorem run_check (result : Except ε α) (store : σ) :
    (check result : Script ε σ α).run store = (result, store) := rfl

@[simp] theorem run_check_ok_bind (value : α) (next : α → Script ε σ β) (store : σ) :
    (check (.ok value) >>= next : Script ε σ β).run store = (next value).run store := rfl

@[simp] theorem run_check_error_bind (failure : ε) (next : α → Script ε σ β) (store : σ) :
    (check (.error failure) >>= next : Script ε σ β).run store = (.error failure, store) := rfl

theorem run_bind_of_ok {script : Script ε σ α} {next : α → Script ε σ β} {store written : σ}
    {value : α} (returned : script.run store = (.ok value, written)) :
    (script >>= next).run store = (next value).run written := by
  change (match script store with
    | (.ok value, written) => next value written
    | (.error failure, written) => (.error failure, written)) = next value written
  rw [show script store = _ from returned]

variable {script : Script ε σ α} {store written : σ} {next : α → Script ε σ β}

theorem run_bind_of_error {failure : ε} (raised : script.run store = (.error failure, written)) :
    (script >>= next).run store = (.error failure, written) := by
  change (match script store with
    | (.ok value, written) => next value written
    | (.error failure, written) => (.error failure, written)) = _
  rw [show script store = _ from raised]

theorem run_bind_assoc {γ : Type} (script : Script ε σ α) (next : α → Script ε σ β)
    (last : β → Script ε σ γ) (store : σ) :
    (script >>= fun value => next value >>= last).run store =
      (script >>= next >>= last).run store := by
  rcases ended : script.run store with ⟨failure | value, middle⟩
  · rw [run_bind_of_error ended, run_bind_of_error (run_bind_of_error ended)]
  rw [run_bind_of_ok ended]
  rcases later : (next value).run middle with ⟨failure | found, written⟩
  · rw [run_bind_of_error later, run_bind_of_error ((run_bind_of_ok ended).trans later)]
  · rw [run_bind_of_ok later, run_bind_of_ok ((run_bind_of_ok ended).trans later)]

/-- **A sequence of scripts returns when both return, the second from where the first ends.** -/
theorem bind_eq_ok {result : β} :
    (script >>= next).run store = (.ok result, written) ↔
      ∃ value middle, script.run store = (.ok value, middle) ∧
        (next value).run middle = (.ok result, written) := by
  change (match script store with
    | (.ok value, middle) => next value middle
    | (.error failure, middle) => (.error failure, middle)) = _ ↔ _
  rcases outcome : script store with ⟨_ | value, middle⟩
  · constructor
    · intro impossible
      cases impossible
    · rintro ⟨value, _, impossible, _⟩
      cases outcome.symm.trans impossible
  · constructor
    · intro success
      exact ⟨value, middle, outcome, success⟩
    · rintro ⟨other, _, same, success⟩
      cases outcome.symm.trans same
      exact success

theorem bind_pure_eq_ok {value : α → β} {result : β}
    (success : (script >>= fun found => pure (value found)).run store = (.ok result, written)) :
    ∃ found, script.run store = (.ok found, written) ∧ result = value found := by
  obtain ⟨found, middle, called, returned⟩ := bind_eq_ok.mp success
  cases returned
  exact ⟨found, called, rfl⟩

@[simp] theorem check_bind_eq_ok {checked : Except ε α} {result : β} :
    (check checked >>= next : Script ε σ β).run store = (.ok result, written) ↔
      ∃ value, checked = .ok value ∧ (next value).run store = (.ok result, written) := by
  rw [bind_eq_ok]
  constructor
  · rintro ⟨value, _, passed, success⟩
    cases passed
    exact ⟨value, rfl, success⟩
  · rintro ⟨value, rfl, success⟩
    exact ⟨value, store, rfl, success⟩

@[simp] theorem refuse_bind_eq_ok {bad : Prop} [Decidable bad] {error : ε}
    {next : Unit → Script ε σ β} {result : β} :
    (check (refuse bad error) >>= next : Script ε σ β).run store = (.ok result, written) ↔
      ¬ bad ∧ (next ⟨⟩).run store = (.ok result, written) := by
  rw [check_bind_eq_ok]
  constructor
  · rintro ⟨⟨⟩, passed, success⟩
    exact ⟨refuse_eq_ok.mp passed, success⟩
  · rintro ⟨passed, success⟩
    exact ⟨⟨⟩, refuse_eq_ok.mpr passed, success⟩

/-- A continuation that does not write leaves the store of the script before it. -/
theorem run_bind_of_reads (reads : ∀ value store, ((next value).run store).2 = store) (store : σ) :
    ((script >>= next).run store).2 = (script.run store).2 := by
  change (match script store with
    | (.ok value, written) => next value written
    | (.error failure, written) => (.error failure, written)).2 = (script store).2
  rcases script store with ⟨failure | value, written⟩
  · rfl
  · exact reads value written

/-- **A transaction**: the script, rolled back when it raises. -/
def transaction (script : Script ε σ α) : Script ε σ α :=
  fun store =>
    match script.run store with
    | (.ok value, written) => (.ok value, written)
    | (.error failure, _) => (.error failure, store)

theorem transaction_eq_ok {result : α} :
    script.transaction.run store = (.ok result, written) ↔
      script.run store = (.ok result, written) := by
  simp only [transaction, run]
  rcases script store with ⟨_ | value, middle⟩
  · constructor
    all_goals
      intro impossible
      cases impossible
  · exact Iff.rfl

/-- A script whose resources are released when it ends.  A failure of the release is raised in place
of the script's own result; what the script wrote stays. -/
def releasing (release : Except ε Unit) (script : Script ε σ α) : Script ε σ α :=
  fun store => (release >>= fun _ => (script.run store).1, (script.run store).2)

theorem releasing_eq_ok {release : Except ε Unit} {result : α} :
    (releasing release script).run store = (.ok result, written) ↔
      release = .ok ⟨⟩ ∧ script.run store = (.ok result, written) := by
  simp only [releasing, run]
  cases release with
  | error failure =>
    constructor
    · intro impossible
      cases impossible
    · rintro ⟨impossible, -⟩
      cases impossible
  | ok =>
    constructor
    · intro same
      exact ⟨rfl, same⟩
    · rintro ⟨-, same⟩
      exact same

/-- **What a script commits**: nothing, or what `settled` leaves when it returns. -/
def CommitsAs (script settled : Script ε σ α) : Prop :=
  ∀ store, (script.run store).2 = store ∨
    ∃ value, settled.run store = (.ok value, (script.run store).2)

/-- A transaction whose release fails has committed, or is rolled back. -/
theorem commitsAs_releasing (release : Except ε Unit) (script : Script ε σ α) :
    (releasing release script.transaction).CommitsAs (releasing (.ok ⟨⟩) script.transaction) := by
  intro store
  rcases outcome : script.run store with ⟨failure | value, written⟩
  · left
    simp only [releasing, run, transaction] at outcome ⊢
    rw [outcome]
  · have committed := transaction_eq_ok.mpr outcome
    refine .inr ⟨value, releasing_eq_ok.mpr ⟨rfl, ?_⟩⟩
    show script.transaction.run store = (.ok value, (script.transaction.run store).2)
    rw [committed]

theorem commitsAs_check_bind {checked : Except ε α} {settled : α → Script ε σ β}
    (commits : ∀ value, (next value).CommitsAs (settled value)) :
    (check checked >>= next : Script ε σ β).CommitsAs (check checked >>= settled) := by
  intro store
  cases checked with
  | error failure => exact .inl rfl
  | ok value => exact commits value store

theorem commitsAs_bind_pure {settled : Script ε σ α} {value : α → β}
    (commits : script.CommitsAs settled) :
    (script >>= fun result => pure (value result) : Script ε σ β).CommitsAs
      (settled >>= fun result => pure (value result)) := by
  intro store
  rw [run_bind_of_reads fun _ _ => rfl]
  rcases commits store with kept | ⟨found, returned⟩
  · exact .inl kept
  · exact .inr ⟨value found, run_bind_of_ok returned⟩

end Script

end Audiagentic.Foundations
