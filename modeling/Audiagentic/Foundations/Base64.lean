import Audiagentic.Foundations.Texts

/-!
# Base64

Three bytes are four letters of an alphabet of sixty-four; one or two bytes at the end are filled up
with equals signs.  Decoding is strict: nothing outside the alphabet is passed over, and nothing
follows the padding.  Bits of the last letter that carry no byte are dropped, so that a text may be
decoded that is no encoding.
-/

namespace Audiagentic.Foundations.Base64

open Option

/-- The letters for the values below sixty-four, in order. -/
def alphabet : Text :=
  "ABCDEFGHIJKLMNOPQRSTUVWXYZabcdefghijklmnopqrstuvwxyz0123456789+/".toList

def letter (value : Nat) : Char := alphabet.getD value '='

def value? (char : Char) : Option Nat := alphabet.findIdx? fun other => other = char

/-- `base64.b64encode(data)`. -/
def encode : List UInt8 → Text
  | [] => []
  | [a] => [letter (a.toNat / 4), letter (a.toNat % 4 * 16), '=', '=']
  | [a, b] =>
    [letter (a.toNat / 4), letter (a.toNat % 4 * 16 + b.toNat / 16), letter (b.toNat % 16 * 4),
      '=']
  | a :: b :: c :: rest =>
    letter (a.toNat / 4) :: letter (a.toNat % 4 * 16 + b.toNat / 16) ::
      letter (b.toNat % 16 * 4 + c.toNat / 64) :: letter (c.toNat % 64) :: encode rest

def firstByte (w x : Nat) : UInt8 := UInt8.ofNat (w * 4 + x / 16)

def secondByte (x y : Nat) : UInt8 := UInt8.ofNat (x % 16 * 16 + y / 4)

def thirdByte (y z : Nat) : UInt8 := UInt8.ofNat (y % 4 * 64 + z)

/-- `base64.b64decode(text, validate=True)`. -/
def decode : Text → Option (List UInt8)
  | [] => some []
  | w :: x :: y :: z :: rest =>
    if z = '=' then
      if rest ≠ [] then none
      else if y = '=' then do
        let w ← value? w
        let x ← value? x
        return [firstByte w x]
      else do
        let w ← value? w
        let x ← value? x
        let y ← value? y
        return [firstByte w x, secondByte x y]
    else do
      let w ← value? w
      let x ← value? x
      let y ← value? y
      let z ← value? z
      let rest ← decode rest
      return firstByte w x :: secondByte x y :: thirdByte y z :: rest
  | _ => none

/-! ## Letters -/

theorem value?_letter {value : Nat} (small : value < 64) : value? (letter value) = some value := by
  have every : ∀ value : Fin 64, value? (letter value) = some value.val := by decide +kernel
  exact every ⟨value, small⟩

theorem letter_ne_padding {value : Nat} (small : value < 64) : letter value ≠ '=' := by
  have every : ∀ value : Fin 64, letter value ≠ '=' := by decide +kernel
  exact every ⟨value, small⟩

/-! ## Bytes -/

theorem firstByte_eq (a : UInt8) {low : Nat} (small : low < 16) :
    firstByte (a.toNat / 4) (a.toNat % 4 * 16 + low) = a := by
  have parts : a.toNat / 4 * 4 + (a.toNat % 4 * 16 + low) / 16 = a.toNat := by omega
  rw [firstByte, parts, UInt8.ofNat_toNat]

theorem secondByte_eq (b : UInt8) {high low : Nat} (small : low < 4) :
    secondByte (high * 16 + b.toNat / 16) (b.toNat % 16 * 4 + low) = b := by
  have bound := b.toNat_lt
  have parts : (high * 16 + b.toNat / 16) % 16 * 16 + (b.toNat % 16 * 4 + low) / 4 = b.toNat := by
    omega
  rw [secondByte, parts, UInt8.ofNat_toNat]

theorem thirdByte_eq (c : UInt8) {high : Nat} :
    thirdByte (high * 4 + c.toNat / 64) (c.toNat % 64) = c := by
  have bound := c.toNat_lt
  have parts : (high * 4 + c.toNat / 64) % 4 * 64 + c.toNat % 64 = c.toNat := by omega
  rw [thirdByte, parts, UInt8.ofNat_toNat]

/-! ## The round trip -/

/-- **What was encoded is decoded.** -/
theorem decode_encode (data : List UInt8) : decode (encode data) = some data := by
  induction data using encode.induct with
  | case1 => rfl
  | case2 a =>
    have bound := a.toNat_lt
    have high : a.toNat / 4 < 64 := by omega
    have low : a.toNat % 4 * 16 < 64 := by omega
    have first : firstByte (a.toNat / 4) (a.toNat % 4 * 16) = a :=
      @firstByte_eq a 0 (by decide)
    simp only [encode, decode, value?_letter high, value?_letter low]
    exact congrArg (fun byte => some [byte]) first
  | case3 a b =>
    have boundA := a.toNat_lt
    have boundB := b.toNat_lt
    have high : a.toNat / 4 < 64 := by omega
    have middle : a.toNat % 4 * 16 + b.toNat / 16 < 64 := by omega
    have low : b.toNat % 16 * 4 < 64 := by omega
    have first := @firstByte_eq a (b.toNat / 16) (by omega)
    have second : secondByte (a.toNat % 4 * 16 + b.toNat / 16) (b.toNat % 16 * 4) = b :=
      @secondByte_eq b (a.toNat % 4) 0 (by decide)
    simp only [encode, decode, value?_letter high, value?_letter middle, value?_letter low]
    rw [if_pos trivial, if_neg (not_not.mpr rfl), if_neg (letter_ne_padding low)]
    simp only [bind_eq_bind, bind_some, first, second]
    rfl
  | case4 a b c rest ih =>
    have boundA := a.toNat_lt
    have boundB := b.toNat_lt
    have boundC := c.toNat_lt
    have first : a.toNat / 4 < 64 := by omega
    have second : a.toNat % 4 * 16 + b.toNat / 16 < 64 := by omega
    have third : b.toNat % 16 * 4 + c.toNat / 64 < 64 := by omega
    have fourth : c.toNat % 64 < 64 := by omega
    simp only [encode, decode, value?_letter first, value?_letter second, value?_letter third,
      value?_letter fourth, ih]
    rw [if_neg (letter_ne_padding fourth)]
    simp only [bind_eq_bind, bind_some, @firstByte_eq a (b.toNat / 16) (by omega),
      @secondByte_eq b (a.toNat % 4) (c.toNat / 64) (by omega), thirdByte_eq]
    rfl

theorem length_encode (data : List UInt8) : (encode data).length = 4 * ((data.length + 2) / 3) := by
  induction data using encode.induct with
  | case1 => rfl
  | case2 | case3 => simp [encode]
  | case4 a b c rest ih =>
    simp only [encode, List.length_cons, ih]
    omega

end Audiagentic.Foundations.Base64
