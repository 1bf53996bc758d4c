import Audiagentic.Foundations.Tapes

/-!
# Pre- and postconditions with crashes

A triple for a script on a tape speaks of three things: what holds when it returns, what holds
when it raises, and what holds on every tape it goes through, which is where a crash may leave
it.  There is one rule for each way to build a script, and `Triple.crash` turns a triple into a
statement about every crash.
-/

namespace Audiagentic.Foundations

open List

variable {ε σ ω α β ι : Type}

inductive Passes (apply : σ → ω → σ) (Crash : Tape ω σ → Prop) : Tape ω σ → Tape ω σ → Prop
  | refl {tape : Tape ω σ} (holds : Crash tape) : Passes apply Crash tape tape
  | write {first last : Tape ω σ} (entry : ω) (passes : Passes apply Crash first last)
      (holds : Crash (last.record apply entry)) :
      Passes apply Crash first (last.record apply entry)

namespace Passes

variable {apply : σ → ω → σ} {Crash : Tape ω σ → Prop} {first second third : Tape ω σ}

theorem trans (left : Passes apply Crash first second) (right : Passes apply Crash second third) :
    Passes apply Crash first third := by
  induction right with
  | refl _ => exact left
  | write entry _ holds ih => exact .write entry ih holds

theorem last (passes : Passes apply Crash first second) : Crash second := by
  cases passes with
  | refl holds | write _ _ holds => exact holds

theorem crashes (passes : Passes apply Crash first second) :
    ∃ written, second.writes = first.writes ++ written ∧
      second.store = exec apply first.store written ∧
      ∀ made, Crash
      ⟨first.writes ++ written.take made, exec apply first.store (written.take made)⟩ := by
  induction passes with
  | refl holds =>
    refine ⟨[], (append_nil _).symm, rfl, fun made => ?_⟩
    rw [take_nil, append_nil]
    exact holds
  | @write last entry passes holds ih =>
    obtain ⟨written, writes, store, crash⟩ := ih
    refine ⟨written ++ [entry], ?_, ?_, fun made => ?_⟩
    · change last.writes ++ [entry] = _
      rw [writes, append_assoc]
    · change apply last.store entry = _
      rw [store, exec_append]
      rfl
    · rcases Nat.lt_or_ge written.length made with all | some
      · have whole : (written ++ [entry]).take made = written ++ [entry] := by
          apply take_of_length_le
          rw [length_append, length_singleton]
          exact all
        rw [whole, ← append_assoc, ← writes, exec_append, ← store]
        exact holds
      · rw [take_append_of_le_length some]
        exact crash made

end Passes

namespace Script

variable {apply : σ → ω → σ} {Crash Before : Tape ω σ → Prop} {Raised : Tape ω σ → Prop}

/-- From a tape that meets `Before`, the script returns with `After` or raises with `Raised`, and
meets `Crash` all along. -/
def Triple (apply : σ → ω → σ) (Crash : Tape ω σ → Prop) (Before : Tape ω σ → Prop)
    (script : Script ε (Tape ω σ) α) (After : α → Tape ω σ → Prop) (Raised : Tape ω σ → Prop) :
    Prop :=
  ∀ tape, Before tape → Passes apply Crash tape (script.run tape).2 ∧
    match (script.run tape).1 with
    | .ok value => After value (script.run tape).2
    | .error _ => Raised (script.run tape).2

theorem triple_pure {After : α → Tape ω σ → Prop} (value : α)
    (holds : ∀ tape, Before tape → Crash tape ∧ After value tape) :
    Triple apply Crash Before (pure value : Script ε (Tape ω σ) α) After Raised := by
  intro tape before
  exact ⟨.refl (holds tape before).1, (holds tape before).2⟩

theorem triple_put {After : Unit → Tape ω σ → Prop} (entry : ω)
    (holds : ∀ tape, Before tape → Crash tape ∧ Crash (tape.record apply entry) ∧
      After () (tape.record apply entry)) :
    Triple apply Crash Before (put apply entry : Script ε (Tape ω σ) Unit) After Raised := by
  intro tape before
  obtain ⟨here, there, after⟩ := holds tape before
  exact ⟨.write entry (.refl here) there, after⟩

/-- **The sequence rule.** -/
theorem triple_bind {script : Script ε (Tape ω σ) α} {next : α → Script ε (Tape ω σ) β}
    {Middle : α → Tape ω σ → Prop} {After : β → Tape ω σ → Prop}
    (first : Triple apply Crash Before script Middle Raised)
    (second : ∀ value, Triple apply Crash (Middle value) (next value) After Raised) :
    Triple apply Crash Before (script >>= next) After Raised := by
  intro tape before
  obtain ⟨passes, outcome⟩ := first tape before
  rcases ended : script.run tape with ⟨failure | value, middle⟩
  · rw [ended] at passes outcome
    rw [run_bind_of_error ended]
    exact ⟨passes, outcome⟩
  rw [ended] at passes outcome
  rw [run_bind_of_ok ended]
  obtain ⟨more, result⟩ := second value middle outcome
  exact ⟨passes.trans more, result⟩

theorem triple_bind_pure {script : Script ε (Tape ω σ) α} {value : α → β}
    {Middle : α → Tape ω σ → Prop} {After : β → Tape ω σ → Prop}
    (first : Triple apply Crash Before script Middle Raised)
    (passed : ∀ found tape, Middle found tape → After (value found) tape) :
    Triple apply Crash Before (script >>= fun found => pure (value found)) After Raised := by
  intro tape before
  obtain ⟨passes, outcome⟩ := first tape before
  rcases ended : script.run tape with ⟨failure | found, middle⟩
  · rw [ended] at passes outcome
    rw [run_bind_of_error ended]
    exact ⟨passes, outcome⟩
  · rw [ended] at passes outcome
    rw [run_bind_of_ok ended]
    exact ⟨passes, passed found middle outcome⟩

/-- **The consequence rule.** -/
theorem Triple.weaken {script : Script ε (Tape ω σ) α} {After After' : α → Tape ω σ → Prop}
    {Before' Raised' : Tape ω σ → Prop}
    (triple : Triple apply Crash Before script After Raised)
    (before : ∀ tape, Before' tape → Before tape)
    (after : ∀ value tape, After value tape → After' value tape)
    (raised : ∀ tape, Raised tape → Raised' tape) :
    Triple apply Crash Before' script After' Raised' := by
  intro tape holds
  obtain ⟨passes, outcome⟩ := triple tape (before tape holds)
  refine ⟨passes, ?_⟩
  revert outcome
  cases (script.run tape).1 with
  | ok value => exact after value _
  | error failure => exact raised _

/-- What a return says by itself can be added to what holds then. -/
theorem Triple.returned {script : Script ε (Tape ω σ) α} {After : α → Tape ω σ → Prop}
    {Fact : α → Prop} (triple : Triple apply Crash Before script After Raised)
    (fact : ∀ tape value done, Before tape → script.run tape = (.ok value, done) → Fact value) :
    Triple apply Crash Before script (fun value tape => After value tape ∧ Fact value) Raised := by
  intro tape before
  obtain ⟨passes, outcome⟩ := triple tape before
  refine ⟨passes, ?_⟩
  rcases ended : script.run tape with ⟨failure | value, done⟩
  · rw [ended] at outcome
    exact outcome
  · rw [ended] at outcome
    exact ⟨outcome, fact tape value done before ended⟩

theorem triple_of_fact {script : Script ε (Tape ω σ) α} {After : α → Tape ω σ → Prop}
    (fact : Prop) (given : ∀ tape, Before tape → fact)
    (triple : fact → Triple apply Crash Before script After Raised) :
    Triple apply Crash Before script After Raised :=
  fun tape holds => triple (given tape holds) tape holds

def forEach (body : ι → Script ε σ Unit) : List ι → Script ε σ Unit
  | [] => pure ()
  | item :: items => do
    body item
    forEach body items

/-- **The loop rule.**  The invariant speaks of the items done. -/
theorem triple_forEach {body : ι → Script ε (Tape ω σ) Unit} (Inv : List ι → Tape ω σ → Prop)
    {items : List ι} (holds : ∀ done tape, Inv done tape → Crash tape)
    (round : ∀ done, ∀ item ∈ items, Triple apply Crash (Inv done) (body item)
      (fun _ => Inv (done ++ [item])) Raised) :
    Triple apply Crash (Inv []) (forEach body items) (fun _ => Inv items) Raised := by
  have rest : ∀ left done, (∀ item ∈ left, item ∈ items) →
      Triple apply Crash (Inv done) (forEach body left) (fun _ => Inv (done ++ left)) Raised := by
    intro left
    induction left with
    | nil =>
      intro done _
      rw [append_nil]
      exact triple_pure () fun tape inv => ⟨holds done tape inv, inv⟩
    | cons item left ih =>
      intro done members
      obtain ⟨here, later⟩ := forall_mem_cons.mp members
      refine triple_bind (round done item here) fun _ => ?_
      have next := ih (done ++ [item]) later
      rw [append_assoc, singleton_append] at next
      exact next
  exact rest items [] fun _ member => member

/-- **The crash rule.** -/
theorem Triple.crash {script : Script ε (Tape ω σ) α} {After : α → Tape ω σ → Prop} {store : σ}
    (triple : Triple apply Crash Before script After Raised) (before : Before ⟨[], store⟩)
    (made : Nat) :
    Crash ⟨(script.run ⟨[], store⟩).2.writes.take made, script.crash apply store made⟩ := by
  obtain ⟨written, writes, _, crashes⟩ := (triple ⟨[], store⟩ before).1.crashes
  rw [nil_append] at writes
  rw [Script.crash, writes]
  exact crashes made

end Script

end Audiagentic.Foundations
