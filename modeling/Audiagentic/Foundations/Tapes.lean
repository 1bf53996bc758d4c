import Audiagentic.Foundations.Runs
import Audiagentic.Foundations.Transactions

/-!
# Scripts whose writes are on a tape

A script that reads between its durable writes cannot be given as a list of writes.  It runs
on a tape instead: the writes it has made, in order, and the store they led to.  A process that
stops after any of its writes leaves a store on which a prefix of the tape was made.
-/

namespace Audiagentic.Foundations

variable {ε σ ω α β : Type}

/-- The writes made so far, and the store they led to. -/
structure Tape (ω σ : Type) where
  writes : List ω
  store : σ

def Tape.record (apply : σ → ω → σ) (tape : Tape ω σ) (entry : ω) : Tape ω σ :=
  ⟨tape.writes ++ [entry], apply tape.store entry⟩

namespace Script

def put (apply : σ → ω → σ) (entry : ω) : Script ε (Tape ω σ) Unit :=
  Script.write fun tape => tape.record apply entry

def attempt (script : Script ε σ α) : Script ε σ (Except ε α) :=
  fun store => (.ok (script.run store).1, (script.run store).2)

def dropped (script : Script ε σ α) : Script ε σ Unit := do
  let _ ← script
  return ()

variable {store : σ} {script : Script ε σ α}

theorem attempt_eq {written : σ} {result : Except ε α} :
    script.attempt.run store = (.ok result, written) ↔ script.run store = (result, written) := by
  change (Except.ok (script.run store).1, (script.run store).2) = _ ↔ _
  rcases script.run store with ⟨outcome, left⟩
  simp

/-! ## Moves -/

def Moves (R : σ → σ → Prop) (script : Script ε σ α) (store : σ) : Prop :=
  R store (script.run store).2

section Moves

variable {R : σ → σ → Prop}

theorem Moves.of_run {written : σ} {result : Except ε α} (moves : script.Moves R store)
    (ended : script.run store = (result, written)) : R store written := by
  rw [Moves, ended] at moves
  exact moves

theorem moves_pure (reflexive : ∀ store, R store store) (value : α) (store : σ) :
    (pure value : Script ε σ α).Moves R store :=
  reflexive store

theorem moves_check (reflexive : ∀ store, R store store) (result : Except ε α) (store : σ) :
    (check result : Script ε σ α).Moves R store :=
  reflexive store

theorem moves_read_bind {next : σ → Script ε σ β} (moves : (next store).Moves R store) :
    (read >>= next : Script ε σ β).Moves R store :=
  moves

theorem moves_attempt (moves : script.Moves R store) : script.attempt.Moves R store :=
  moves

/-- **The sequence rule.** -/
theorem moves_bind (transitive : ∀ first second third, R first second → R second third →
    R first third) {next : α → Script ε σ β} (first : script.Moves R store)
    (second : ∀ value middle, script.run store = (.ok value, middle) →
      (next value).Moves R middle) : (script >>= next).Moves R store := by
  rcases outcome : script.run store with ⟨failure | value, middle⟩
  · rw [Moves, run_bind_of_error outcome]
    rw [Moves, outcome] at first
    exact first
  · rw [Moves, run_bind_of_ok outcome]
    rw [Moves, outcome] at first
    exact transitive _ _ _ first (second value middle outcome)

theorem moves_check_bind (reflexive : ∀ store, R store store) {result : Except ε α}
    {next : α → Script ε σ β} (second : ∀ value, result = .ok value → (next value).Moves R store) :
    (check result >>= next : Script ε σ β).Moves R store := by
  cases result with
  | error failure => exact reflexive store
  | ok value => exact second value rfl

theorem moves_bind_pure (reflexive : ∀ store, R store store)
    (transitive : ∀ first second third, R first second → R second third → R first third)
    {value : α → β} (moves : script.Moves R store) :
    (script >>= fun result => pure (value result)).Moves R store :=
  moves_bind transitive moves (fun _ middle _ => moves_pure reflexive _ middle)

theorem moves_dropped (reflexive : ∀ store, R store store)
    (transitive : ∀ first second third, R first second → R second third → R first third)
    (moves : script.Moves R store) : script.dropped.Moves R store :=
  moves_bind_pure reflexive transitive moves

end Moves

/-! ## Crashes -/

/-- The store after a crash that let the first `made` writes through. -/
def crash (apply : σ → ω → σ) (script : Script ε (Tape ω σ) α) (store : σ) (made : Nat) : σ :=
  exec apply store ((script.run ⟨[], store⟩).2.writes.take made)

/-- The tape holds good writes only, and the invariant holds at its end. -/
structure Kept (Good : ω → Prop) (Inv : σ → Prop) (tape : Tape ω σ) : Prop where
  writes : ∀ entry ∈ tape.writes, Good entry
  store : Inv tape.store

def Keeps (Good : ω → Prop) (Inv : σ → Prop) (before after : Tape ω σ) : Prop :=
  Kept Good Inv before → Kept Good Inv after

section Keeps

variable {apply : σ → ω → σ} {Good : ω → Prop} {Inv : σ → Prop}

theorem keeps_refl (tape : Tape ω σ) : Keeps Good Inv tape tape := id

theorem keeps_trans (first second third : Tape ω σ) (left : Keeps Good Inv first second)
    (right : Keeps Good Inv second third) : Keeps Good Inv first third := right ∘ left

theorem moves_put_keeps (kept : ∀ entry store, Good entry → Inv store → Inv (apply store entry))
    {entry : ω} {tape : Tape ω σ} (good : Inv tape.store → Good entry) :
    (put apply entry : Script ε (Tape ω σ) Unit).Moves (Keeps Good Inv) tape := by
  intro holds
  exact ⟨forall_mem_snoc holds.writes (good holds.store),
    kept entry tape.store (good holds.store) holds.store⟩

/-- **The crash rule.**  Good writes keep the invariant, so it holds after every crash. -/
theorem crash_invariant (kept : ∀ entry store, Good entry → Inv store → Inv (apply store entry))
    {script : Script ε (Tape ω σ) α} (moves : script.Moves (Keeps Good Inv) ⟨[], store⟩)
    (initially : Inv store) (made : Nat) : Inv (script.crash apply store made) := by
  have tape : Kept Good Inv (script.run ⟨[], store⟩).2 :=
    moves ⟨fun _ member => absurd member (List.not_mem_nil), initially⟩
  have run : Admissible apply (fun _ => Good) store
      ((script.run ⟨[], store⟩).2.writes.take made) :=
    admissible_of_mem (fun entry member => tape.writes entry (List.mem_of_mem_take member)) store
  exact run.invariant (fun state entry holds good => kept entry state good holds) initially

end Keeps

end Script

end Audiagentic.Foundations
