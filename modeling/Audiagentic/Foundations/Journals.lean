import Audiagentic.Foundations.Checks
import Audiagentic.Foundations.Runs

/-!
# Journals of durable writes

A journal is a program that has read what it needs: its durable writes, in the
order in which it makes them, and its result.  A process that stops after any of
its writes leaves a store on which a prefix of them was made, so a property of
every crash is a property of every prefix.
-/

namespace Audiagentic.Foundations

/-- A program that makes the writes and then returns or raises. -/
structure Journal (ε ω α : Type) where
  writes : List ω
  result : Except ε α

namespace Journal

variable {ε ω α β σ : Type}

instance : Monad (Journal ε ω) where
  pure value := ⟨[], .ok value⟩
  bind journal next :=
    match journal.result with
    | .ok value => ⟨journal.writes ++ (next value).writes, (next value).result⟩
    | .error failure => ⟨journal.writes, .error failure⟩

def write (entry : ω) : Journal ε ω Unit :=
  ⟨[entry], .ok ⟨⟩⟩

def check (result : Except ε α) : Journal ε ω α :=
  ⟨[], result⟩

@[simp] theorem writes_pure (value : α) : (pure value : Journal ε ω α).writes = [] := rfl

@[simp] theorem result_pure (value : α) : (pure value : Journal ε ω α).result = .ok value := rfl

@[simp] theorem writes_check (result : Except ε α) :
    (check result : Journal ε ω α).writes = [] := rfl

variable {journal : Journal ε ω α} {next : α → Journal ε ω β}

theorem writes_bind_of_ok {value : α} (returned : journal.result = .ok value) :
    (journal >>= next).writes = journal.writes ++ (next value).writes := by
  change (match journal.result with
    | .ok value => Journal.mk (journal.writes ++ (next value).writes) (next value).result
    | .error failure => ⟨journal.writes, .error failure⟩).writes = _
  rw [returned]

theorem result_bind_of_ok {value : α} (returned : journal.result = .ok value) :
    (journal >>= next).result = (next value).result := by
  change (match journal.result with
    | .ok value => Journal.mk (journal.writes ++ (next value).writes) (next value).result
    | .error failure => ⟨journal.writes, .error failure⟩).result = _
  rw [returned]

theorem bind_of_error {failure : ε} (raised : journal.result = .error failure) :
    journal >>= next = ⟨journal.writes, .error failure⟩ := by
  change (match journal.result with
    | .ok value => Journal.mk (journal.writes ++ (next value).writes) (next value).result
    | .error failure => ⟨journal.writes, .error failure⟩) = _
  rw [raised]

@[simp] theorem write_bind (entry : ω) (next : Unit → Journal ε ω β) :
    write entry >>= next = ⟨entry :: (next ⟨⟩).writes, (next ⟨⟩).result⟩ := rfl

@[simp] theorem check_ok_bind (value : α) (next : α → Journal ε ω β) :
    check (.ok value) >>= next = next value := rfl

@[simp] theorem check_error_bind (failure : ε) (next : α → Journal ε ω β) :
    check (.error failure) >>= next = ⟨[], .error failure⟩ := rfl

/-! ## Crashes -/

/-- The store after a crash that let the first `made` writes through. -/
def crash (apply : σ → ω → σ) (store : σ) (journal : Journal ε ω α) (made : Nat) : σ :=
  exec apply store (journal.writes.take made)

end Journal

end Audiagentic.Foundations
