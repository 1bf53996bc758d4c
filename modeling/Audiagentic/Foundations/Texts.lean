import Mathlib.Data.Char
import Mathlib.Data.List.DropRight
import Mathlib.Data.List.Infix
import Mathlib.Data.List.Lex

/-!
# Texts

A text is a list of characters.  The operations are those of Python strings: stripping,
splitting into lines in two ways, and searching for a part.

`lines` and `joinLines` split and join at line feeds; `splitlines` also splits at the other
line boundaries of Unicode and gives no empty last line.
-/

namespace Audiagentic.Foundations

open List

abbrev Text := List Char

instance : LawfulBEq Text := inferInstance

instance : LawfulBEq (Option Text) := inferInstance

namespace Text

/-! ## Characters -/

/-- `str.isspace` of one character. -/
def isSpace (char : Char) : Bool :=
  char.toNat ∈ [0x9, 0xA, 0xB, 0xC, 0xD, 0x1C, 0x1D, 0x1E, 0x1F, 0x20, 0x85, 0xA0, 0x1680, 0x2000,
    0x2001, 0x2002, 0x2003, 0x2004, 0x2005, 0x2006, 0x2007, 0x2008, 0x2009, 0x200A, 0x2028, 0x2029,
    0x202F, 0x205F, 0x3000]

/-- A line boundary of `str.splitlines`. -/
def isLineBreak (char : Char) : Bool :=
  char.toNat ∈ [0xA, 0xB, 0xC, 0xD, 0x1C, 0x1D, 0x1E, 0x85, 0x2028, 0x2029]

/-! ## Stripping -/

/-- `str.lstrip()`. -/
def lstrip (text : Text) : Text := text.dropWhile isSpace

/-- `str.rstrip()`. -/
def rstrip (text : Text) : Text := text.rdropWhile isSpace

/-- `str.strip()`. -/
def strip (text : Text) : Text := rstrip (lstrip text)

/-- There is nothing but white space in the text: `not text.strip()`. -/
def isBlank (text : Text) : Bool := text.all isSpace

/-! ## Lines -/

/-- `text.split("\n")`. -/
def lines (text : Text) : List Text := text.splitOn '\n'

/-- `"\n".join(lines)`. -/
def joinLines (lines : List Text) : Text := List.intercalate ['\n'] lines

/-- `str.splitlines()`. -/
def splitlines : Text → List Text
  | [] => []
  | '\r' :: '\n' :: rest => [] :: splitlines rest
  | char :: rest =>
    if isLineBreak char then [] :: splitlines rest
    else
      match splitlines rest with
      | [] => [[char]]
      | line :: lines => (char :: line) :: lines

/-- What reading a text file gives for the line ends in it. -/
def universalNewlines : Text → Text
  | [] => []
  | '\r' :: '\n' :: rest => '\n' :: universalNewlines rest
  | char :: rest => (if char = '\r' then '\n' else char) :: universalNewlines rest

theorem separator_notMem {separator : Char} {text part : Text}
    (member : part ∈ text.splitOn separator) : separator ∉ part := by
  induction text generalizing part with
  | nil =>
    rw [splitOn_nil, mem_singleton] at member
    rw [member]
    exact not_mem_nil
  | cons char rest ih =>
    rw [splitOn_cons_eq_if_modifyHead] at member
    split at member
    next =>
      rcases mem_cons.mp member with rfl | later
      · exact not_mem_nil
      · exact ih later
    next different =>
      obtain ⟨head, tail, parts⟩ := exists_cons_of_ne_nil
        (splitOn_ne_nil separator rest)
      rw [parts, modifyHead_cons] at member
      rcases mem_cons.mp member with rfl | later
      · have others := ih (parts ▸ mem_cons_self)
        rw [mem_cons, not_or]
        refine ⟨?_, others⟩
        rintro rfl
        exact different (beq_self_eq_true _)
      · exact ih (parts ▸ mem_cons_of_mem head later)

theorem mem_intercalate {separator char : Char} {parts : List Text}
    (member : char ∈ List.intercalate [separator] parts) :
    char = separator ∨ ∃ part ∈ parts, char ∈ part := by
  match parts with
  | [] => cases member
  | [part] =>
    rw [intercalate_singleton] at member
    exact Or.inr ⟨part, mem_singleton_self _, member⟩
  | part :: next :: rest =>
    rw [intercalate_cons_cons, mem_append, mem_append] at member
    rcases member with (here | here) | later
    · exact Or.inr ⟨part, mem_cons_self, here⟩
    · exact Or.inl (mem_singleton.mp here)
    · rcases mem_intercalate later with same | ⟨other, listed, here⟩
      · exact Or.inl same
      · exact Or.inr ⟨other, mem_cons_of_mem _ listed, here⟩

/-! ## Searching -/

/-- `text.find(part)`. -/
def find (part text : Text) : Option Nat :=
  (List.range (text.length + 1)).find? fun index => part.isPrefixOf (text.drop index)

/-- `text.rfind(part)`. -/
def rfind (part text : Text) : Option Nat :=
  (List.range (text.length + 1)).reverse.find? fun index => part.isPrefixOf (text.drop index)

/-- `part in text`. -/
def contains (part text : Text) : Bool := (find part text).isSome

end Text

end Audiagentic.Foundations
