import Audiagentic.Foundations.Checks
import Audiagentic.Foundations.PythonValues
import Mathlib.Data.Int.Log

/-!
# Strict loading of settings files

The loader builds a document from the events of a YAML parser, with the scalars of the YAML 1.2
core schema that JSON has.  Anchors, aliases, tags, duplicate or non-string keys and further
documents are refused.

The parser itself is not part of the repository: it is a function from texts to events.  The
positions of events are left out, as they appear in messages only.
-/

namespace Audiagentic.Config

open Foundations List

abbrev Value := Json Scalar

/-! ## Plain scalars -/

/-- The nearest double, ties to even. -/
def nearestDouble (number : ℚ) : Double :=
  if number = 0 then .finite 0
  else
    let exponent := max (Int.log 2 |number|) (-1022) - 52
    let unit : ℚ := 2 ^ exponent
    let scaled := number / unit
    let below := ⌊scaled⌋
    let rounded :=
      if scaled - below < 1 / 2 then below
      else if 1 / 2 < scaled - below then below + 1
      else if below % 2 = 0 then below else below + 1
    let value := rounded * unit
    if 2 ^ 1024 ≤ |value| then .infinite (value < 0) else .finite value

def splitSign : Text → Bool × Text
  | '-' :: rest => (true, rest)
  | '+' :: rest => (false, rest)
  | rest => (false, rest)

def isOctalDigit (char : Char) : Bool := '0' ≤ char && char ≤ '7'

def isHexDigit (char : Char) : Bool :=
  char.isDigit || ('a' ≤ char && char ≤ 'f') || ('A' ≤ char && char ≤ 'F')

def digitValue (char : Char) : Nat :=
  if char.isDigit then char.toNat - '0'.toNat
  else if 'a' ≤ char then char.toNat - 'a'.toNat + 10 else char.toNat - 'A'.toNat + 10

/-- `int(digits, base)`. -/
def ofDigits (base : Nat) (digits : Text) : Nat :=
  digits.foldl (fun number digit => number * base + digitValue digit) 0

def maxDecimalDigits : Nat := 4300

/-- `_FLOAT`, and the number it matches. -/
def decimal? (text : Text) : Option ℚ :=
  let (negative, unsigned) := splitSign text
  let (whole, afterWhole) := unsigned.span Char.isDigit
  let (fraction, afterFraction) :=
    match afterWhole with
    | '.' :: rest => rest.span Char.isDigit
    | rest => ([], rest)
  let point := afterWhole.head? = some '.'
  let mantissa : ℚ := ofDigits 10 (whole ++ fraction) / 10 ^ fraction.length
  let signed := if negative then -mantissa else mantissa
  if whole.isEmpty && (!point || fraction.isEmpty) then none
  else
    match afterFraction with
    | [] => some signed
    | marker :: rest =>
      let (down, digits) := splitSign rest
      if (marker = 'e' || marker = 'E') && !digits.isEmpty && digits.all Char.isDigit then
        let power := ofDigits 10 digits
        some (if down then signed / 10 ^ power else signed * 10 ^ power)
      else none

/-- `_NON_JSON_FLOAT`. -/
def isNonJsonFloat (text : Text) : Bool :=
  text ∈ [".nan".toList, ".NaN".toList, ".NAN".toList] ||
    (splitSign text).2 ∈ [".inf".toList, ".Inf".toList, ".INF".toList]

/-- `resolve_plain_scalar`, of which no scalar is a null; nothing where it raises. -/
def resolvePlainScalar (text : Text) : Option (Option Scalar) :=
  let (negative, unsigned) := splitSign text
  if text ∈ [[], "~".toList, "null".toList, "Null".toList, "NULL".toList] then some none
  else if text ∈ ["true".toList, "True".toList, "TRUE".toList] then some (some (.bool true))
  else if text ∈ ["false".toList, "False".toList, "FALSE".toList] then
    some (some (.bool false))
  else if !unsigned.isEmpty && unsigned.all Char.isDigit then
    if maxDecimalDigits < unsigned.length then none
    else
      let magnitude : ℤ := ofDigits 10 unsigned
      some (some (.int (if negative then -magnitude else magnitude)))
  else
    match text with
    | '0' :: 'o' :: digit :: digits =>
      if (digit :: digits).all isOctalDigit then
        some (some (.int (ofDigits 8 (digit :: digits))))
      else some (some (.str text))
    | '0' :: 'x' :: digit :: digits =>
      if (digit :: digits).all isHexDigit then
        some (some (.int (ofDigits 16 (digit :: digits))))
      else some (some (.str text))
    | _ =>
      match decimal? text with
      | some number => some (some (.float (nearestDouble number)))
      | none => if isNonJsonFloat text then none else some (some (.str text))

/-! ## Events -/

/-- An event of the parser.  A scalar is plain, or quoted or in a block. -/
inductive Event where
  | streamStart
  | streamEnd
  | documentStart
  | documentEnd
  | alias
  | scalar (text : Text) (plain anchored tagged : Bool)
  | sequenceStart (anchored tagged : Bool)
  | sequenceEnd
  | mappingStart (anchored tagged : Bool)
  | mappingEnd
deriving DecidableEq

inductive LoadError where
  | notUtf8
  | syntaxError
  | aliased
  | tooDeep
  | anchored
  | tagged
  | invalidScalar
  | keyNotString
  | duplicateKey (key : Text)
  | unexpected
  | severalDocuments
  | notMapping
deriving DecidableEq

def maxDepth : Nat := 64

def Event.isAnchored : Event → Bool
  | scalar _ _ anchored _ => anchored
  | sequenceStart anchored _ => anchored
  | mappingStart anchored _ => anchored
  | _ => false

def Event.isTagged : Event → Bool
  | scalar _ _ _ tagged => tagged
  | sequenceStart _ tagged => tagged
  | mappingStart _ tagged => tagged
  | _ => false

def checkNode (event : Event) (depth : Nat) : Except LoadError Unit := do
  refuse (event = .alias) .aliased
  refuse (maxDepth < depth) .tooDeep
  refuse (event.isAnchored = true) .anchored
  refuse (event.isTagged = true) .tagged

def leaf : Option Scalar → Value
  | none => .null
  | some scalar => .scalar scalar

/-- `_scalar`. -/
def scalarOf (text : Text) (plain : Bool) : Except LoadError (Option Scalar) :=
  if plain then
    match resolvePlainScalar text with
    | some value => .ok value
    | none => .error .invalidScalar
  else .ok (some (.str text))

def keyOf (event : Event) : Except LoadError Text :=
  match event with
  | .scalar text plain _ _ => do
    match ← scalarOf text plain with
    | some (.str []) => .error .keyNotString
    | some (.str key) => .ok key
    | _ => .error .keyNotString
  | _ => .error .keyNotString

mutual
/-- `_node`, with as many nodes left to read as there are events: the node and the events after
it. -/
def node : Nat → Nat → List Event → Except LoadError (Value × List Event)
  | 0, _, _ => .error .unexpected
  | _ + 1, _, [] => .error .unexpected
  | fuel + 1, depth, event :: events => do
    checkNode event depth
    match event with
    | .scalar text plain _ _ => do
      let value ← scalarOf text plain
      .ok (leaf value, events)
    | .sequenceStart _ _ => do
      let (items, rest) ← sequenceItems fuel (depth + 1) events
      .ok (.list items, rest)
    | .mappingStart _ _ => do
      let (entries, rest) ← mappingEntries fuel (depth + 1) [] events
      .ok (.map entries, rest)
    | _ => .error .unexpected

/-- The loop of `_node` over the items of a sequence. -/
def sequenceItems : Nat → Nat → List Event → Except LoadError (List Value × List Event)
  | 0, _, _ => .error .unexpected
  | _ + 1, _, .sequenceEnd :: events => .ok ([], events)
  | fuel + 1, depth, events => do
    let (item, events) ← node fuel depth events
    let (items, rest) ← sequenceItems fuel depth events
    .ok (item :: items, rest)

/-- The loop of `_node` over the entries of a mapping, after those it has. -/
def mappingEntries : Nat → Nat → Json.Entries Scalar → List Event →
    Except LoadError (Json.Entries Scalar × List Event)
  | 0, _, _, _ => .error .unexpected
  | _ + 1, _, mapping, .mappingEnd :: events => .ok (mapping, events)
  | _ + 1, _, _, [] => .error .unexpected
  | fuel + 1, depth, mapping, event :: events => do
    checkNode event depth
    let key ← keyOf event
    refuse (key ∈ mapping.map Prod.fst) (.duplicateKey key)
    let (value, events) ← node fuel depth events
    mappingEntries fuel depth (mapping ++ [(key, value)]) events
end

def document (events : List Event) : Except LoadError Value :=
  match events with
  | [] => .error .unexpected
  | [_] => .error .unexpected
  | _ :: .streamEnd :: _ => .ok (.map [])
  | _ :: _ :: events => do
    let (data, rest) ← node (events.length + 1) 0 events
    refuse (rest.tail.head? = some .documentStart) .severalDocuments
    match data with
    | .null => .ok (.map [])
    | .map entries => .ok (.map entries)
    | _ => .error .notMapping

/-- `yaml.parse`. -/
abbrev Parser := Text → Except LoadError (List Event)

def loadSettingsText (parse : Parser) (text : Text) : Except LoadError Value := do
  let events ← parse text
  document events

/-! ## What is loaded -/

theorem loadSettingsText_congr {parse : Parser} {text text' : Text}
    (same : parse text = parse text') :
    loadSettingsText parse text = loadSettingsText parse text' := by
  rw [loadSettingsText, loadSettingsText, same]

/-- What `node` and its loops give holds no key twice. -/
structure Distinct (fuel : Nat) : Prop where
  node : ∀ depth events value rest, node fuel depth events = .ok (value, rest) →
    value.distinct = true
  items : ∀ depth events items rest, sequenceItems fuel depth events = .ok (items, rest) →
    ∀ item ∈ items, item.distinct = true
  entries : ∀ depth events mapping entries rest,
    mappingEntries fuel depth mapping events = .ok (entries, rest) →
      (Json.map mapping).distinct = true → (Json.map entries).distinct = true

theorem distinct_leaf (value : Option Scalar) : (leaf value).distinct = true := by
  cases value with
  | none => rfl
  | some scalar => rfl

theorem distinct_append {mapping : Json.Entries Scalar} {key : Text} {value : Value}
    (distinct : (Json.map mapping).distinct = true) (fresh : key ∉ mapping.map Prod.fst)
    (inside : value.distinct = true) : (Json.map (mapping ++ [(key, value)])).distinct = true := by
  obtain ⟨unique, all⟩ := Json.distinct_map.mp distinct
  refine Json.distinct_map.mpr ⟨?_, ?_⟩
  · rw [map_append, map_singleton, ← concat_eq_append]
    exact List.Nodup.concat fresh unique
  intro entry member
  rcases mem_append.mp member with before | here
  · exact all entry before
  · rw [mem_singleton.mp here]
    exact inside

/-- **The loader gives documents without duplicate keys.** -/
theorem distinct_of_fuel (fuel : Nat) : Distinct fuel := by
  induction fuel with
  | zero => exact ⟨nofun, nofun, nofun⟩
  | succ fuel ih =>
    refine ⟨?_, ?_, ?_⟩
    · intro depth events value rest read
      generalize next : fuel + 1 = more at read
      unfold node at read
      split at read
      · cases read
      · cases read
      · cases next
        obtain ⟨_, _, read⟩ := bind_eq_ok.mp read
        split at read
        · obtain ⟨other, scalar, same⟩ := bind_eq_ok.mp read
          cases same
          exact distinct_leaf other
        · obtain ⟨⟨items, after⟩, listed, same⟩ := bind_eq_ok.mp read
          cases same
          exact Json.distinct_list.mpr (ih.items _ _ _ _ listed)
        · obtain ⟨⟨entries, after⟩, listed, same⟩ := bind_eq_ok.mp read
          cases same
          exact ih.entries _ _ _ _ _ listed rfl
        · cases read
    · intro depth events items rest read
      generalize next : fuel + 1 = more at read
      unfold sequenceItems at read
      split at read
      · cases read
      · cases read
        exact forall_mem_nil _
      · cases next
        obtain ⟨⟨item, events'⟩, first, read⟩ := bind_eq_ok.mp read
        obtain ⟨⟨more, after⟩, later, same⟩ := bind_eq_ok.mp read
        cases same
        exact forall_mem_cons.mpr ⟨ih.node _ _ _ _ first, ih.items _ _ _ _ later⟩
    · intro depth events mapping entries rest read distinct
      generalize next : fuel + 1 = more at read
      unfold mappingEntries at read
      split at read
      · cases read
      · cases read
        exact distinct
      · cases read
      · cases next
        obtain ⟨_, _, read⟩ := bind_eq_ok.mp read
        obtain ⟨key, _, read⟩ := bind_eq_ok.mp read
        obtain ⟨fresh, read⟩ := refuse_bind_eq_ok.mp read
        obtain ⟨⟨value, events'⟩, first, read⟩ := bind_eq_ok.mp read
        exact ih.entries _ _ _ _ _ read
          (distinct_append distinct fresh (ih.node _ _ _ _ first))

theorem isMap_and_distinct_of_loaded {parse : Parser} {text : Text} {data : Value}
    (loaded : loadSettingsText parse text = .ok data) :
    data.isMap = true ∧ data.distinct = true := by
  obtain ⟨events, _, loaded⟩ := bind_eq_ok.mp loaded
  match events with
  | [] => cases loaded
  | [_] => cases loaded
  | first :: second :: rest =>
    by_cases ends : second = .streamEnd
    · subst ends
      rw [document] at loaded
      cases loaded
      exact ⟨rfl, rfl⟩
    · rw [document] at loaded
      · obtain ⟨⟨value, after⟩, read, loaded⟩ := bind_eq_ok.mp loaded
        obtain ⟨_, loaded⟩ := refuse_bind_eq_ok.mp loaded
        have distinct := (distinct_of_fuel _).node _ _ _ _ read
        cases value with
        | null =>
          cases loaded
          exact ⟨rfl, rfl⟩
        | map entries =>
          cases loaded
          exact ⟨rfl, distinct⟩
        | _ => cases loaded
      · exact ends

end Audiagentic.Config
