import Audiagentic.Foundations.JsonTrees

/-!
# What an observer sees of a JSON tree

An observer reads a tree through a view of its keys: it does not see the value of a hidden key, sees
the value of a verbatim key as it is, and looks into the value of any other key in the same way.
Two trees agree under a view when the observer cannot tell them apart; a function is noninterfering
when it gives the same for all trees that agree.
-/

namespace Audiagentic.Foundations

universe u v

inductive KeyView where
  | hidden
  | verbatim
  | inspected
deriving DecidableEq

namespace Json

variable {α : Type u} {β : Type v} (view : Text → KeyView)

/-! ## Agreement -/

mutual
/-- The trees differ only in what the view hides. -/
def agree : Json α → Json α → Prop
  | null, null => True
  | scalar first, scalar second => first = second
  | list items, list items' => agreeItems items items'
  | map entries, map entries' => agreeEntries entries entries'
  | _, _ => False

def agreeItems : List (Json α) → List (Json α) → Prop
  | [], [] => True
  | item :: rest, item' :: rest' => agree item item' ∧ agreeItems rest rest'
  | _, _ => False

def agreeEntries : Entries α → Entries α → Prop
  | [], [] => True
  | (key, value) :: rest, (key', value') :: rest' =>
    key = key' ∧
      (match view key with
      | .hidden => True
      | .verbatim => value = value'
      | .inspected => agree value value') ∧ agreeEntries rest rest'
  | _, _ => False
end

def Noninterfering (function : Json α → β) : Prop :=
  ∀ first second, agree view first second → function first = function second

variable {view}

theorem length_agreeItems : ∀ {first second : List (Json α)}, agreeItems view first second →
    first.length = second.length
  | [], [], _ => rfl
  | _ :: _, _ :: _, ⟨_, later⟩ => congrArg Nat.succ (length_agreeItems later)

theorem length_agreeEntries : ∀ {first second : Entries α}, agreeEntries view first second →
    first.length = second.length
  | [], [], _ => rfl
  | (_, _) :: _, (_, _) :: _, ⟨_, _, later⟩ => congrArg Nat.succ (length_agreeEntries later)

theorem lookup_agreeEntries (key : Text) : ∀ {first second : Entries α},
    agreeEntries view first second →
      (lookup key first = none ∧ lookup key second = none) ∨
        ∃ value value', lookup key first = some value ∧ lookup key second = some value' ∧
          match view key with
          | .hidden => True
          | .verbatim => value = value'
          | .inspected => agree view value value'
  | [], [], _ => .inl ⟨rfl, rfl⟩
  | (other, value) :: _, (_, value') :: _, ⟨rfl, here, later⟩ => by
    by_cases same : other = key
    · subst same
      exact .inr ⟨value, value', lookup_cons_self _ _ _, lookup_cons_self _ _ _, here⟩
    · rw [lookup_cons_of_ne same, lookup_cons_of_ne same]
      exact lookup_agreeEntries key later

/-! ## Keys inside a tree -/

/-- The key stands in a mapping this many levels below the root. -/
inductive HasKey (key : Text) : ℕ → Json α → Prop
  | here {value : Json α} {entries : Entries α} (member : (key, value) ∈ entries) :
      HasKey key 0 (map entries)
  | inMap {depth : ℕ} {other : Text} {value : Json α} {entries : Entries α}
      (member : (other, value) ∈ entries) (inside : HasKey key depth value) :
      HasKey key (depth + 1) (map entries)
  | inList {depth : ℕ} {item : Json α} {items : List (Json α)} (member : item ∈ items)
      (inside : HasKey key depth item) : HasKey key (depth + 1) (list items)

end Json

end Audiagentic.Foundations
