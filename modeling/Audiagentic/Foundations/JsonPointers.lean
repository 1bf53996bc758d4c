import Audiagentic.Foundations.Texts
import Mathlib.Data.List.Flatten

/-!
# JSON pointers

A pointer names a place in a tree by the segments that lead to it, written after one another
with a slash before each.  A tilde and a slash inside a segment are escaped.
-/

namespace Audiagentic.Foundations

open List

def indexText (index : Nat) : Text := Nat.toDigits 10 index

theorem indexText_injective {first second : Nat} (same : indexText first = indexText second) :
    first = second := by
  have read := congrArg (fun digits => Nat.ofDigitChars 10 digits 0) same
  simpa only [indexText, Nat.ofDigitChars_ten_toDigits] using read

namespace JsonPointer

/-- `text.replace(char, new)`. -/
def replaceChar (char : Char) (new text : Text) : Text :=
  text.flatMap fun other => if other = char then new else [other]

def escape (segment : Text) : Text :=
  replaceChar '/' ['~', '1'] (replaceChar '~' ['~', '0'] segment)

def pointer (path : List Text) : Text := path.flatMap fun segment => '/' :: escape segment

def under (pointer text : Text) : Bool := text == pointer || (pointer ++ ['/']).isPrefixOf text

/-! ## Segments -/

def escapeChar (char : Char) : Text :=
  if char = '~' then ['~', '0'] else if char = '/' then ['~', '1'] else [char]

theorem escape_eq (segment : Text) : escape segment = segment.flatMap escapeChar := by
  simp only [escape, replaceChar, flatMap_assoc]
  refine flatMap_congr fun char _ => ?_
  rw [escapeChar]
  split
  · rfl
  · simp

theorem escape_cons (char : Char) (rest : Text) :
    escape (char :: rest) = escapeChar char ++ escape rest := by
  rw [escape_eq, escape_eq, flatMap_cons]

theorem slash_not_mem_escape (segment : Text) : '/' ∉ escape segment := by
  rw [escape_eq]
  intro member
  obtain ⟨char, -, inside⟩ := mem_flatMap.mp member
  rw [escapeChar] at inside
  split at inside
  · simp at inside
  · split at inside
    · simp at inside
    · next other => exact other (mem_singleton.mp inside).symm

/-- An escape is never empty, and tells the character it is of from what follows. -/
theorem escapeChar_append_inj {first second : Char} {rest rest' : Text}
    (same : escapeChar first ++ rest = escapeChar second ++ rest') :
    first = second ∧ rest = rest' := by
  unfold escapeChar at same
  by_cases tilde : first = '~'
  · by_cases tilde' : second = '~'
    · simp_all
    · by_cases slash' : second = '/'
      · simp_all
      · simp_all [eq_comm]
  · by_cases slash : first = '/'
    · by_cases tilde' : second = '~'
      · simp_all
      · by_cases slash' : second = '/'
        · simp_all
        · simp_all [eq_comm]
    · by_cases tilde' : second = '~'
      · simp_all
      · by_cases slash' : second = '/' <;> simp_all

theorem escape_cons_ne_nil (char : Char) (rest : Text) : escape (char :: rest) ≠ [] := by
  rw [escape_cons, escapeChar]
  split
  · simp
  · split <;> simp

theorem escape_injective {first second : Text} (same : escape first = escape second) :
    first = second := by
  induction first generalizing second with
  | nil =>
    cases second with
    | nil => rfl
    | cons char rest => exact absurd same.symm (escape_cons_ne_nil char rest)
  | cons char rest ih =>
    cases second with
    | nil => exact absurd same (escape_cons_ne_nil char rest)
    | cons other rest' =>
      rw [escape_cons, escape_cons] at same
      obtain ⟨char_eq, rest_eq⟩ := escapeChar_append_inj same
      rw [char_eq, ih rest_eq]

/-! ## Places -/

@[simp] theorem pointer_nil : pointer [] = [] := rfl

theorem pointer_cons (segment : Text) (path : List Text) :
    pointer (segment :: path) = '/' :: (escape segment ++ pointer path) := rfl

theorem pointer_append (path path' : List Text) :
    pointer (path ++ path') = pointer path ++ pointer path' :=
  flatMap_append

/-- Two texts without slashes, each followed by nothing or a slash, end at the same place. -/
theorem append_inj_of_slash {first second rest rest' : Text} (plain : '/' ∉ first)
    (plain' : '/' ∉ second) (starts : ∀ char ∈ rest.head?, char = '/')
    (starts' : ∀ char ∈ rest'.head?, char = '/') (same : first ++ rest = second ++ rest') :
    first = second ∧ rest = rest' := by
  induction first generalizing second with
  | nil =>
    cases second with
    | nil => exact ⟨rfl, same⟩
    | cons char more =>
      rw [nil_append, cons_append] at same
      have slash := starts char (by rw [same]; rfl)
      exact absurd (slash ▸ mem_cons_self) plain'
  | cons char more ih =>
    cases second with
    | nil =>
      rw [nil_append, cons_append] at same
      have slash := starts' char (by rw [← same]; rfl)
      exact absurd (slash ▸ mem_cons_self) plain
    | cons other more' =>
      rw [cons_append, cons_append, List.cons.injEq] at same
      obtain ⟨rfl, same⟩ := same
      obtain ⟨rfl, rest⟩ := ih (fun inside => plain (mem_cons_of_mem _ inside))
        (fun inside => plain' (mem_cons_of_mem _ inside)) same
      exact ⟨rfl, rest⟩

theorem pointer_starts (path : List Text) : ∀ char ∈ (pointer path).head?, char = '/' := by
  cases path with
  | nil => simp
  | cons segment rest =>
    intro char first
    rw [pointer_cons, head?_cons] at first
    exact (Option.some.inj first).symm

/-- **Different places have different pointers.** -/
theorem pointer_injective {path path' : List Text} (same : pointer path = pointer path') :
    path = path' := by
  induction path generalizing path' with
  | nil =>
    cases path' with
    | nil => rfl
    | cons segment rest => cases same
  | cons segment rest ih =>
    cases path' with
    | nil => cases same
    | cons segment' rest' =>
      rw [pointer_cons, pointer_cons, List.cons.injEq] at same
      obtain ⟨escaped, rest⟩ := append_inj_of_slash (slash_not_mem_escape _)
        (slash_not_mem_escape _) (pointer_starts _) (pointer_starts _) same.2
      rw [escape_injective escaped, ih rest]

/-- A pointer that goes on after another with a slash is to a place below it. -/
theorem isPrefix_of_pointer_eq {path path' : List Text} {rest : Text}
    (goesOn : pointer path' = pointer path ++ '/' :: rest) : path <+: path' := by
  induction path generalizing path' with
  | nil => exact nil_prefix
  | cons segment more ih =>
    cases path' with
    | nil => cases goesOn
    | cons segment' more' =>
      rw [pointer_cons, pointer_cons, cons_append, List.cons.injEq, append_assoc] at goesOn
      have starts : ∀ char ∈ (pointer more ++ '/' :: rest).head?, char = '/' := by
        cases more with
        | nil => simp
        | cons next later => simp [pointer_cons]
      obtain ⟨escaped, later⟩ := append_inj_of_slash (slash_not_mem_escape _)
        (slash_not_mem_escape _) (pointer_starts _) starts goesOn.2
      rw [escape_injective escaped]
      exact (prefix_cons_inj segment).mpr (ih later)

/-- **The texts under a pointer are the pointers to the places at and below it.** -/
theorem under_pointer_iff {path path' : List Text} :
    under (pointer path) (pointer path') = true ↔ path <+: path' := by
  rw [under, Bool.or_eq_true, beq_iff_eq, isPrefixOf_iff_prefix]
  constructor
  · rintro (same | ⟨rest, goesOn⟩)
    · rw [pointer_injective same]
    · rw [append_assoc] at goesOn
      exact isPrefix_of_pointer_eq goesOn.symm
  · rintro ⟨rest, rfl⟩
    cases rest with
    | nil => exact Or.inl (by rw [append_nil])
    | cons segment more =>
      refine Or.inr ⟨escape segment ++ pointer more, ?_⟩
      rw [pointer_append, pointer_cons, append_assoc]
      rfl

end JsonPointer

end Audiagentic.Foundations
