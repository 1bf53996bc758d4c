import Audiagentic.Foundations.Texts
import Mathlib.Algebra.BigOperators.Group.List.Basic
import Mathlib.Algebra.GroupWithZero.Nat

/-!
# Positions in the encoding of the server

A position counts code units of the encoding that the server chose among those the client offers.
The operations of a session send the column that they are given; the conversion is in
`lsp_lifecycle._encode_position`, which nothing calls.
-/

namespace Audiagentic.CodingLsp

open Foundations

/-- The encodings that `_client_capabilities` offers. -/
inductive PositionEncoding where
  | utf8
  | utf16

def PositionEncoding.units : PositionEncoding → Char → ℕ
  | utf8, char => char.utf8Size
  | utf16, char => if 0xFFFF < char.toNat then 2 else 1

/-- The characters below it take one unit. -/
def PositionEncoding.bound : PositionEncoding → ℕ
  | utf8 => 0x80
  | utf16 => 0x10000

structure Position where
  line : ℕ
  character : ℕ
deriving DecidableEq

/-- The loop of `_encode_position` over the characters of the line. -/
def countUnits (character : ℕ) : (index units : ℕ) → Text → ℕ
  | _, units, [] => units
  | index, units, char :: rest =>
    if character ≤ index then units
    else countUnits character (index + 1) (units + if 0xFFFF < char.toNat then 2 else 1) rest

def encodePosition (text : Text) (line character : ℕ) (encoding : PositionEncoding) : Position :=
  match encoding, text.lines[line]? with
  | .utf16, some content => ⟨line, countUnits character 0 0 content⟩
  | _, _ => ⟨line, character⟩

/-! ## Sessions -/

structure LspProtocolOps where
  positionEncoding : PositionEncoding

def LspProtocolOps.encodePosition (ops : LspProtocolOps) (line character : ℕ) : Position :=
  match ops.positionEncoding with
  | .utf8 => ⟨line, character⟩
  | .utf16 => ⟨line, character⟩

structure LspSession where
  capabilities : String → Bool
  positionEncoding : PositionEncoding
  protocolOps : LspProtocolOps

/-- `LspSession.__init__`. -/
def LspSession.new : LspSession where
  capabilities := fun _ => false
  positionEncoding := .utf16
  protocolOps := ⟨.utf16⟩

/-- `initialize`: the server answers with what it can do, and may choose an encoding. -/
def LspSession.initializeWith (session : LspSession) (capabilities : String → Bool)
    (positionEncoding : Option PositionEncoding) : LspSession :=
  { session with capabilities, positionEncoding := positionEncoding.getD .utf16 }

/-- The operations with a position. -/
inductive PositionCall where
  | definition
  | hover
  | references
  | rename
  | typeDefinition
  | implementation
  | callHierarchyIncoming
  | callHierarchyOutgoing
  | typeHierarchySupertypes
  | typeHierarchySubtypes

def PositionCall.method : PositionCall → String
  | definition => "textDocument/definition"
  | hover => "textDocument/hover"
  | references => "textDocument/references"
  | rename => "textDocument/rename"
  | typeDefinition => "textDocument/typeDefinition"
  | implementation => "textDocument/implementation"
  | callHierarchyIncoming | callHierarchyOutgoing => "textDocument/prepareCallHierarchy"
  | typeHierarchySupertypes | typeHierarchySubtypes => "textDocument/prepareTypeHierarchy"

/-- The capability without which nothing is sent. -/
def PositionCall.capability? : PositionCall → Option String
  | typeDefinition => some "textDocument/typeDefinition"
  | implementation => some "textDocument/implementation"
  | callHierarchyIncoming | callHierarchyOutgoing => some "textDocument/callHierarchy"
  | typeHierarchySupertypes | typeHierarchySubtypes => some "textDocument/typeHierarchy"
  | _ => none

structure PositionRequest where
  method : String
  uri : Text
  position : Position

def LspSession.request (session : LspSession) (call : PositionCall) (uri : Text)
    (line character : ℕ) : Option PositionRequest :=
  if call.capability?.all session.capabilities then
    some ⟨call.method, uri, session.protocolOps.encodePosition line character⟩
  else none

/-! ## What is sent -/

theorem units_eq_one_iff (encoding : PositionEncoding) (char : Char) :
    encoding.units char = 1 ↔ char.toNat < encoding.bound := by
  cases encoding with
  | utf8 =>
    rw [PositionEncoding.units, Char.utf8Size_eq_one_iff, UInt32.le_iff_toNat_le]
    exact Nat.lt_succ_iff.symm
  | utf16 =>
    simp only [PositionEncoding.units, PositionEncoding.bound]
    split <;> omega

theorem one_le_units (encoding : PositionEncoding) (char : Char) : 1 ≤ encoding.units char := by
  cases encoding with
  | utf8 => exact char.utf8Size_pos
  | utf16 =>
    simp only [PositionEncoding.units]
    split <;> omega

/-- A text has as many units as characters when each takes one. -/
theorem sum_units_eq_length_iff (encoding : PositionEncoding) (text : Text) :
    (text.map encoding.units).sum = text.length ↔
      ∀ char ∈ text, char.toNat < encoding.bound := by
  induction text with
  | nil => simp
  | cons char rest ih =>
    have here := one_le_units encoding char
    have later : rest.length ≤ (rest.map encoding.units).sum := by
      simpa using List.length_le_sum_of_one_le (rest.map encoding.units) (by simp [one_le_units])
    rw [List.forall_mem_cons, ← ih, ← units_eq_one_iff, List.map_cons, List.sum_cons,
      List.length_cons]
    omega

/-- Where a column stands in the encoding that the server chose. -/
def LspSession.encoded (session : LspSession) (text : Text) (line column : ℕ) : Option Position :=
  text.lines[line]?.map fun content =>
    ⟨line, ((content.take column).map session.positionEncoding.units).sum⟩

/-- **The loop counts the units before the column.** -/
theorem countUnits_eq (character index units : ℕ) (content : Text) :
    countUnits character index units content =
      units + ((content.take (character - index)).map PositionEncoding.utf16.units).sum := by
  induction content generalizing index units with
  | nil => simp [countUnits]
  | cons char rest ih =>
    rw [countUnits]
    split
    next past => simp [Nat.sub_eq_zero_of_le past]
    next before =>
      have more : character - index = character - (index + 1) + 1 := by omega
      rw [ih, more, List.take_succ_cons, List.map_cons, List.sum_cons, Nat.add_assoc]
      rfl

theorem encodePosition_utf16 {text content : Text} {line : ℕ}
    (there : text.lines[line]? = some content) (column : ℕ) :
    encodePosition text line column .utf16 =
      ⟨line, ((content.take column).map PositionEncoding.utf16.units).sum⟩ := by
  simp [encodePosition, there, countUnits_eq]

/-- A column further on has more units before it. -/
theorem sum_units_lt (encoding : PositionEncoding) {content : Text} {earlier column : ℕ}
    (before : earlier < column) (within : column ≤ content.length) :
    ((content.take earlier).map encoding.units).sum <
      ((content.take column).map encoding.units).sum := by
  have split : content.take column = content.take earlier ++
      (content.take column).drop earlier := by
    conv_lhs => rw [← List.take_append_drop earlier (content.take column)]
    rw [List.take_take, Nat.min_eq_left before.le]
  have more : 0 < ((content.take column).drop earlier).length := by
    rw [List.length_drop, List.length_take_of_le within]
    omega
  rw [split, List.map_append, List.sum_append]
  generalize (content.take column).drop earlier = between at more
  have least := List.length_le_sum_of_one_le (between.map encoding.units) (by simp [one_le_units])
  rw [List.length_map] at least
  omega

/-- **The conversion that is not called** is right in UTF-16, and in UTF-8 after ASCII only.  In
UTF-16 it keeps the order of columns. -/
theorem encodePosition_right_iff {session : LspSession} {text content : Text} {line column : ℕ}
    (there : text.lines[line]? = some content) (within : column ≤ content.length) :
    (session.encoded text line column =
        some (encodePosition text line column session.positionEncoding) ↔
      session.positionEncoding = .utf16 ∨ ∀ char ∈ content.take column, char.toNat < 0x80) ∧
    ∀ earlier < column, (encodePosition text line earlier .utf16).character <
      (encodePosition text line column .utf16).character := by
  constructor
  · rw [LspSession.encoded, there]
    cases session.positionEncoding with
    | utf16 => simp [encodePosition_utf16 there]
    | utf8 =>
      have ascii := sum_units_eq_length_iff .utf8 (content.take column)
      rw [List.length_take_of_le within] at ascii
      simpa [encodePosition, PositionEncoding.bound] using ascii
  · intro earlier before
    rw [encodePosition_utf16 there, encodePosition_utf16 there]
    exact sum_units_lt .utf16 before within

/-- After an accent in UTF-8 the position is not the right one. -/
theorem encodePosition_right_accent :
    LspSession.encoded ⟨fun _ => false, .utf8, ⟨.utf16⟩⟩ ['é', '😀', 'x'] 0 2 ≠
        some (encodePosition ['é', '😀', 'x'] 0 2 .utf8) ∧
      (encodePosition ['é', '😀', 'x'] 0 1 .utf16).character <
        (encodePosition ['é', '😀', 'x'] 0 2 .utf16).character := by
  have right := @encodePosition_right_iff ⟨fun _ => false, .utf8, ⟨.utf16⟩⟩ ['é', '😀', 'x']
    ['é', '😀', 'x'] 0 2 (by decide) (by decide)
  refine ⟨fun same => ?_, right.2 1 (by decide)⟩
  rcases right.1.mp same with wide | ascii
  · cases wide
  · exact absurd (ascii 'é' (by decide)) (by decide)

/-- **A position is right when each character before it takes one unit.** -/
theorem position_encoded_iff {session : LspSession} {call : PositionCall} {uri text content : Text}
    {line column : ℕ} {request : PositionRequest} (there : text.lines[line]? = some content)
    (within : column ≤ content.length)
    (sent : session.request call uri line column = some request) :
    session.encoded text line column = some request.position ↔
      ∀ char ∈ content.take column, char.toNat < session.positionEncoding.bound := by
  have same : request.position = ⟨line, column⟩ := by
    rw [LspSession.request] at sent
    split at sent
    · cases sent
      simp only [LspProtocolOps.encodePosition]
      split <;> rfl
    · cases sent
  rw [LspSession.encoded, there, same, ← sum_units_eq_length_iff, List.length_take_of_le within]
  simp

theorem position_encoded_iff_accent :
    LspSession.new.encoded ['a', 'é'] 0 1 = some ⟨0, 1⟩ ↔
      ∀ char ∈ ['a'], char.toNat < 0x10000 :=
  @position_encoded_iff .new .rename [] ['a', 'é'] ['a', 'é'] 0 1
    ⟨"textDocument/rename", [], ⟨0, 1⟩⟩ (by decide) (by decide) rfl

/-- **After an emoji a rename is sent to the column before the right one.** -/
theorem position_not_encoded :
    ¬∀ (session : LspSession) (call : PositionCall) (uri text content : Text) (line column : ℕ)
      (request : PositionRequest), text.lines[line]? = some content → column ≤ content.length →
      session.request call uri line column = some request →
      session.encoded text line column = some request.position := fun right =>
  absurd (right (.initializeWith .new (fun _ => true) none) .rename [] ['😀', 'x'] ['😀', 'x'] 0
    1 ⟨"textDocument/rename", [], ⟨0, 1⟩⟩ (by decide) (by decide) rfl) (by decide)

end Audiagentic.CodingLsp
