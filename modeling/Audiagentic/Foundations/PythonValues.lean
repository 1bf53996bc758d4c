import Audiagentic.Foundations.JsonTrees
import Mathlib.Data.Rat.Floor

/-!
# Values of JSON documents

The scalars of a JSON document and two equalities of documents: that of the operator `==`, which
compares numbers and booleans by value, and that of JSON, which tells them apart.  Then what a
program asks of such a value: its truth, its type, the larger of two, and its integer.
-/

namespace Audiagentic.Foundations

/-- A floating point number, by its value. -/
inductive Double where
  | finite (value : ℚ)
  | infinite (negative : Bool)
deriving DecidableEq

inductive Scalar where
  | bool (value : Bool)
  | int (value : ℤ)
  | float (value : Double)
  | str (value : Text)
deriving DecidableEq

namespace Scalar

/-- The number a boolean, an integer or a float stands for in comparisons. -/
def number? : Scalar → Option Double
  | bool value => some (.finite (if value then 1 else 0))
  | int value => some (.finite value)
  | float value => some value
  | str _ => none

/-- `==` of scalars: numbers and booleans by value, whatever their types. -/
def equal (first second : Scalar) : Bool :=
  match first.number?, second.number? with
  | some value, some value' => value == value'
  | _, _ => first == second

end Scalar

/-- `==` of documents. -/
def equalValues (first second : Json Scalar) : Bool := first.sameBy Scalar.equal second

def identicalValues (first second : Json Scalar) : Bool :=
  first.sameBy (fun scalar scalar' => scalar == scalar') second

/-! ## Reading values -/

abbrev Fields := OrderedDict Text (Json Scalar)

/-- `dict.get(key)`: `None` where the key is absent. -/
def Fields.read (fields : Fields) (key : Text) : Json Scalar := (fields.get? key).getD .null

namespace Json

def isTrue : Json Scalar → Bool
  | scalar (.bool true) => true
  | _ => false

def isFalse : Json Scalar → Bool
  | scalar (.bool false) => true
  | _ => false

def text? : Json Scalar → Option Text
  | scalar (.str text) => some text
  | _ => none

def isName (value : Json Scalar) : Bool :=
  match value.text? with
  | some text => !text.isEmpty
  | none => false

/-- An integer that is not a boolean. -/
def integer? : Json Scalar → Option ℤ
  | scalar (.int value) => some value
  | _ => none

/-- A value that `set` and `dict` refuse as a key. -/
def isUnhashable : Json Scalar → Bool
  | list _ => true
  | map _ => true
  | _ => false

/-- `bool(value)`. -/
def truthy : Json Scalar → Bool
  | null => false
  | scalar (.bool value) => value
  | scalar (.int value) => value ≠ 0
  | scalar (.float value) => value ≠ .finite 0
  | scalar (.str text) => !text.isEmpty
  | list items => !items.isEmpty
  | map entries => !entries.isEmpty

/-- `first or second`. -/
def orElse (first second : Json Scalar) : Json Scalar := if first.truthy then first else second

end Json

/-! ## The larger of two values -/

def Double.less : Double → Double → Bool
  | .finite first, .finite second => first < second
  | .finite _, .infinite negative => !negative
  | .infinite negative, .finite _ => negative
  | .infinite first, .infinite second => first && !second

/-- `first > second` of scalars; nothing where they cannot be compared. -/
def Scalar.greater (first second : Scalar) : Option Bool :=
  match first.number?, second.number? with
  | some value, some value' => some (value'.less value)
  | none, none =>
    match first, second with
    | .str text, .str text' => some (decide (text'.map Char.toNat < text.map Char.toNat))
    | _, _ => none
  | _, _ => none

mutual
/-- `first > second`; nothing where they cannot be compared. -/
def greater : Json Scalar → Json Scalar → Option Bool
  | .scalar first, .scalar second => first.greater second
  | .list items, .list items' => greaterItems items items'
  | _, _ => none

def greaterItems : List (Json Scalar) → List (Json Scalar) → Option Bool
  | [], _ => some false
  | _ :: _, [] => some true
  | item :: rest, item' :: rest' =>
    if equalValues item item' then greaterItems rest rest' else greater item item'
end

/-- `max(first, second)`; nothing where they cannot be compared. -/
def larger (first second : Json Scalar) : Option (Json Scalar) :=
  (greater second first).map fun second_is_larger => if second_is_larger then second else first

/-! ## The integer of a value -/

/-- What `int(value)` comes to: the integer, a `TypeError` or a `ValueError`, or an
`OverflowError`. -/
inductive IntegerOf where
  | value (integer : ℤ)
  | invalid
  | overflow

def digitsNumber (digit : Char → Option ℕ) : ℕ → Bool → Text → Option ℕ
  | total, true, [] => some total
  | _, false, [] => none
  | total, afterDigit, char :: rest =>
    if char = '_' then (if afterDigit then digitsNumber digit total false rest else none)
    else
      match digit char with
      | some value => digitsNumber digit (total * 10 + value) true rest
      | none => none

/-- `int(text)`, with the decimal digits of the character set. -/
def integerOfText (digit : Char → Option ℕ) (text : Text) : IntegerOf :=
  let number (digits : Text) (sign : ℤ) : IntegerOf :=
    match digitsNumber digit 0 false digits with
    | some value => .value (sign * value)
    | none => .invalid
  match Text.strip text with
  | '-' :: digits => number digits (-1)
  | '+' :: digits => number digits 1
  | digits => number digits 1

/-- `int(value)`. -/
def integerOf (digit : Char → Option ℕ) : Json Scalar → IntegerOf
  | .scalar (.bool value) => .value (if value then 1 else 0)
  | .scalar (.int value) => .value value
  | .scalar (.float (.finite value)) => .value (if 0 ≤ value then ⌊value⌋ else ⌈value⌉)
  | .scalar (.float (.infinite _)) => .overflow
  | .scalar (.str text) => integerOfText digit text
  | _ => .invalid

end Audiagentic.Foundations
