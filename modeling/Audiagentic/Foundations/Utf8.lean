import Audiagentic.Foundations.Texts

/-!
# UTF-8

A text as bytes.  Every character of the ASCII range is one byte, which is part of no other
character, so that bytes can be cut at such a byte before they are decoded.
-/

namespace Audiagentic.Foundations.Utf8

abbrev Bytes := List UInt8

/-- `text.encode("utf-8")`. -/
def encode (text : Text) : Bytes := text.flatMap String.utf8EncodeChar

/-- `bytes.decode("utf-8")`. -/
def decode (bytes : Bytes) : Option Text := (ByteArray.utf8Decode? ⟨⟨bytes⟩⟩).map Array.toList

@[simp] theorem encode_nil : encode [] = [] := rfl

theorem encode_append (first second : Text) :
    encode (first ++ second) = encode first ++ encode second :=
  List.flatMap_append

theorem toByteArray_eq (bytes : Bytes) : bytes.toByteArray = ⟨⟨bytes⟩⟩ := by
  apply ByteArray.ext
  simp

theorem decode_encode (text : Text) : decode (encode text) = some text := by
  have decoded : ByteArray.utf8Decode? text.utf8Encode = some text.toArray :=
    List.utf8Decode?_utf8Encode
  rw [List.utf8Encode, toByteArray_eq] at decoded
  rw [decode, encode, decoded]
  rfl

end Audiagentic.Foundations.Utf8
