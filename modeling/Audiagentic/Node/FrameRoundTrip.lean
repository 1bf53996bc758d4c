import Audiagentic.Node.FrameCodec

/-!
# Round trips of node frames

The invariant of the codec is `Acceptable`: every node of a document stands within the bound,
counted from a given depth, and is permitted.  It is what freezing gives
(`acceptable_of_freeze`), and freezing changes nothing that has it (`freeze_ofJson`).  A payload
that is acceptable below the frame is acceptable by itself, so that what was written is read
back, with its keys in order.
-/

namespace Audiagentic.Node.Codec

open Foundations Gateway List OrderedDict
open Foundations.Utf8 (Bytes)

/-! ## Acceptable documents -/

/-- What the codec lets pass at one node. -/
def Permitted : Json Scalar → Prop
  | .map entries =>
    (entries.map Prod.fst).Nodup ∧ ∀ name ∈ entries.map Prod.fst, name ∉ privateKeys
  | .scalar value => isFinite value = true
  | _ => True

/-- Every node of a document is permitted and stands within the bound. -/
def Acceptable (depth : ℕ) (document : Json Scalar) : Prop :=
  document.Everywhere fun level node => depth + level ≤ maxDepth ∧ Permitted node

variable {depth : ℕ} {document : Json Scalar}

theorem acceptable_next :
    (document.Everywhere fun level node => depth + (level + 1) ≤ maxDepth ∧ Permitted node) ↔
      Acceptable (depth + 1) document := by
  constructor <;>
    exact fun all => Json.Everywhere.mono all fun level node here => ⟨by omega, here.2⟩

theorem acceptable_null : Acceptable depth .null ↔ depth ≤ maxDepth := by
  rw [Acceptable, Json.everywhere_null]
  exact and_iff_left trivial

theorem acceptable_scalar {value : Scalar} :
    Acceptable depth (.scalar value) ↔ depth ≤ maxDepth ∧ isFinite value = true := by
  rw [Acceptable, Json.everywhere_scalar]
  rfl

theorem acceptable_list {items : List (Json Scalar)} :
    Acceptable depth (.list items) ↔
      depth ≤ maxDepth ∧ ∀ item ∈ items, Acceptable (depth + 1) item := by
  rw [Acceptable, Json.everywhere_list]
  simp only [acceptable_next]
  exact and_congr_left' (and_iff_left trivial)

variable {entries : Json.Entries Scalar}

theorem acceptable_map :
    Acceptable depth (.map entries) ↔
      (depth ≤ maxDepth ∧ Permitted (.map entries)) ∧
        ∀ entry ∈ entries, Acceptable (depth + 1) entry.2 := by
  rw [Acceptable, Json.everywhere_map]
  simp only [acceptable_next]
  rfl

theorem Acceptable.distinct (acceptable : Acceptable depth document) :
    document.distinct = true := by
  refine Json.distinct_of_everywhere (Json.Everywhere.mono acceptable fun _ node here => ?_)
  cases node with
  | map entries => exact here.2.1
  | _ => exact nodup_nil

theorem Acceptable.finite (acceptable : Acceptable depth document) : Finite document := by
  refine Json.Everywhere.mono acceptable fun _ node here value same => ?_
  subst same
  exact here.2

theorem Acceptable.sortKeys (acceptable : Acceptable depth document) :
    Acceptable depth document.sortKeys := by
  intro level node inside
  obtain ⟨old, within, rfl⟩ := Json.exists_of_nodeAt_sortKeys inside
  obtain ⟨bound, permitted⟩ := acceptable level old within
  refine ⟨bound, ?_⟩
  cases old with
  | null | scalar | list => exact permitted
  | map entries =>
    have keys := Json.keys_sorted_perm entries
    exact ⟨keys.nodup_iff.mpr permitted.1,
      fun name member => permitted.2 name (keys.mem_iff.mp member)⟩

/-! ## Freezing -/

theorem Given.ofEntries_eq (entries : Json.Entries Scalar) :
    ofEntries entries = entries.map fun entry => (some entry.1, ofJson entry.2) := by
  induction entries with
  | nil => rfl
  | cons entry rest ih =>
    rw [ofEntries, ih, map_cons]

mutual
/-- **What freezing gives is acceptable.** -/
theorem acceptable_of_freeze : ∀ {depth : ℕ} {value : Given} {document : Json Scalar},
    freeze depth value = .ok document → Acceptable depth document
  | depth, .null, _, frozen => by
    rw [freeze, refuse_bind_eq_ok, not_lt] at frozen
    obtain ⟨bound, same⟩ := frozen
    cases same
    exact acceptable_null.mpr bound
  | depth, .scalar value, _, frozen => by
    rw [freeze, refuse_bind_eq_ok, refuse_bind_eq_ok, not_lt, Bool.not_eq_false] at frozen
    obtain ⟨bound, finite, same⟩ := frozen
    cases same
    exact acceptable_scalar.mpr ⟨bound, finite⟩
  | _, .nan, _, frozen | _, .foreign, _, frozen => by
    rw [freeze, refuse_bind_eq_ok] at frozen
    cases frozen.2
  | depth, .sequence items, _, frozen => by
    rw [freeze, refuse_bind_eq_ok, not_lt, bind_eq_ok] at frozen
    obtain ⟨bound, documents, inside, same⟩ := frozen
    cases same
    exact acceptable_list.mpr ⟨bound, acceptable_of_freezeItems inside⟩
  | depth, .mapping entries, _, frozen => by
    rw [freeze, refuse_bind_eq_ok, not_lt, refuse_bind_eq_ok, Bool.not_eq_true,
      bind_eq_ok] at frozen
    obtain ⟨bound, keys, documents, inside, same⟩ := frozen
    cases same
    have given := acceptable_of_freezeEntries inside
    have kept : ∀ entry ∈ (OrderedDict.ofList documents).entries,
        Acceptable (depth + 1) entry.2 ∧ ∃ value, (some entry.1, value) ∈ entries :=
      fun entry member => given entry (mem_of_mem_ofList member)
    refine acceptable_map.mpr ⟨⟨bound, (OrderedDict.ofList documents).nodup, ?_⟩,
      fun entry member => (kept entry member).1⟩
    intro name member
    obtain ⟨entry, listed, rfl⟩ := List.mem_map.mp member
    obtain ⟨value, source⟩ := (kept entry listed).2
    simpa [refusedKey] using List.any_eq_false.mp keys _ source

theorem acceptable_of_freezeItems : ∀ {depth : ℕ} {items : List Given}
    {documents : List (Json Scalar)}, freezeItems depth items = .ok documents →
      ∀ document ∈ documents, Acceptable depth document
  | _, [], _, frozen => by
    cases frozen
    exact forall_mem_nil _
  | _, item :: rest, _, frozen => by
    rw [freezeItems, bind_eq_ok] at frozen
    obtain ⟨document, here, frozen⟩ := frozen
    obtain ⟨others, later, same⟩ := bind_eq_ok.mp frozen
    cases same
    exact forall_mem_cons.mpr
      ⟨acceptable_of_freeze here, acceptable_of_freezeItems later⟩

theorem acceptable_of_freezeEntries : ∀ {depth : ℕ} {entries : List (Option Text × Given)}
    {documents : Json.Entries Scalar}, freezeEntries depth entries = .ok documents →
      ∀ entry ∈ documents, Acceptable depth entry.2 ∧ ∃ value, (some entry.1, value) ∈ entries
  | _, [], _, frozen => by
    cases frozen
    exact forall_mem_nil _
  | _, (none, value) :: rest, _, frozen => by cases frozen
  | _, (some name, value) :: rest, _, frozen => by
    rw [freezeEntries, bind_eq_ok] at frozen
    obtain ⟨document, here, frozen⟩ := frozen
    obtain ⟨others, later, same⟩ := bind_eq_ok.mp frozen
    cases same
    refine forall_mem_cons.mpr
      ⟨⟨acceptable_of_freeze here, value, mem_cons_self⟩, fun entry member => ?_⟩
    obtain ⟨acceptable, old, listed⟩ := acceptable_of_freezeEntries later entry member
    exact ⟨acceptable, old, mem_cons_of_mem _ listed⟩
end

mutual
/-- **Freezing changes nothing that is acceptable.** -/
theorem freeze_ofJson : ∀ {depth : ℕ} {document : Json Scalar}, Acceptable depth document →
    freeze depth (.ofJson document) = .ok document
  | depth, .null, acceptable => by
    rw [Given.ofJson, freeze, refuse_of_not (not_lt.mpr (acceptable_null.mp acceptable))]
    rfl
  | depth, .scalar value, acceptable => by
    obtain ⟨bound, finite⟩ := acceptable_scalar.mp acceptable
    rw [Given.ofJson, freeze, refuse_of_not (not_lt.mpr bound),
      refuse_of_not (by rw [finite]; simp)]
    rfl
  | depth, .list items, acceptable => by
    obtain ⟨bound, below⟩ := acceptable_list.mp acceptable
    rw [Given.ofJson, freeze, refuse_of_not (not_lt.mpr bound), freezeItems_ofItems below]
    rfl
  | depth, .map entries, acceptable => by
    obtain ⟨⟨bound, keys, permitted⟩, below⟩ := acceptable_map.mp acceptable
    have allowed : ¬ (Given.ofEntries entries).any (fun entry => refusedKey entry.1) = true := by
      rw [Given.ofEntries_eq, List.any_map, List.any_eq_true]
      rintro ⟨entry, member, refused⟩
      exact permitted entry.1 (List.mem_map_of_mem member) (of_decide_eq_true refused)
    have kept : (OrderedDict.ofList entries).entries = entries :=
      congrArg OrderedDict.entries (ofList_entries ⟨entries, keys⟩)
    rw [Given.ofJson, freeze, refuse_of_not (not_lt.mpr bound), refuse_of_not allowed,
      freezeEntries_ofEntries below]
    exact congrArg (fun kept => Except.ok (Json.map kept)) kept

theorem freezeItems_ofItems : ∀ {depth : ℕ} {items : List (Json Scalar)},
    (∀ item ∈ items, Acceptable depth item) →
      freezeItems depth (Given.ofItems items) = .ok items
  | _, [], _ => rfl
  | _, item :: rest, acceptable => by
    obtain ⟨here, later⟩ := forall_mem_cons.mp acceptable
    rw [Given.ofItems, freezeItems, freeze_ofJson here, freezeItems_ofItems later]
    rfl

theorem freezeEntries_ofEntries : ∀ {depth : ℕ} {entries : Json.Entries Scalar},
    (∀ entry ∈ entries, Acceptable depth entry.2) →
      freezeEntries depth (Given.ofEntries entries) = .ok entries
  | _, [], _ => rfl
  | _, (name, value) :: rest, acceptable => by
    obtain ⟨here, later⟩ := forall_mem_cons.mp acceptable
    rw [Given.ofEntries, freezeEntries, freeze_ofJson here, freezeEntries_ofEntries later]
    rfl
end

mutual
theorem eq_of_freeze : ∀ {depth : ℕ} {document frozen : Json Scalar},
    document.distinct = true → freeze depth (.ofJson document) = .ok frozen → frozen = document
  | _, .null, _, _, ended => by
    rw [Given.ofJson, freeze, refuse_bind_eq_ok] at ended
    cases ended.2
    rfl
  | _, .scalar value, _, _, ended => by
    rw [Given.ofJson, freeze, refuse_bind_eq_ok, refuse_bind_eq_ok] at ended
    cases ended.2.2
    rfl
  | _, .list items, _, unique, ended => by
    rw [Given.ofJson, freeze, refuse_bind_eq_ok, bind_eq_ok] at ended
    obtain ⟨_, documents, inside, same⟩ := ended
    cases same
    rw [eq_of_freezeItems (Json.distinct_list.mp unique) inside]
  | _, .map entries, _, unique, ended => by
    obtain ⟨keys, below⟩ := Json.distinct_map.mp unique
    rw [Given.ofJson, freeze, refuse_bind_eq_ok, refuse_bind_eq_ok, bind_eq_ok] at ended
    obtain ⟨_, _, documents, inside, same⟩ := ended
    cases same
    rw [eq_of_freezeEntries below inside]
    exact congrArg (fun dict => Json.map (OrderedDict.entries dict))
      (ofList_entries ⟨entries, keys⟩)

theorem eq_of_freezeItems : ∀ {depth : ℕ} {items frozen : List (Json Scalar)},
    (∀ item ∈ items, item.distinct = true) →
      freezeItems depth (Given.ofItems items) = .ok frozen → frozen = items
  | _, [], _, _, ended => by
    cases ended
    rfl
  | _, item :: rest, _, unique, ended => by
    obtain ⟨first, unique⟩ := forall_mem_cons.mp unique
    rw [Given.ofItems, freezeItems, bind_eq_ok] at ended
    obtain ⟨document, here, ended⟩ := ended
    obtain ⟨others, later, same⟩ := bind_eq_ok.mp ended
    cases same
    rw [eq_of_freeze first here, eq_of_freezeItems unique later]

theorem eq_of_freezeEntries : ∀ {depth : ℕ} {entries frozen : Json.Entries Scalar},
    (∀ entry ∈ entries, entry.2.distinct = true) →
      freezeEntries depth (Given.ofEntries entries) = .ok frozen → frozen = entries
  | _, [], _, _, ended => by
    cases ended
    rfl
  | _, (name, value) :: rest, _, unique, ended => by
    obtain ⟨first, unique⟩ := forall_mem_cons.mp unique
    rw [Given.ofEntries, freezeEntries, bind_eq_ok] at ended
    obtain ⟨document, here, ended⟩ := ended
    obtain ⟨others, later, same⟩ := bind_eq_ok.mp ended
    cases same
    rw [eq_of_freeze first here, eq_of_freezeEntries unique later]
end

/-! ## Reading -/

theorem keys_toRaw (entries : Json.Entries Scalar) :
    (Json.mapEntries RawScalar.value entries).map Prod.fst = entries.map Prod.fst :=
  Json.keys_mapEntries _ entries

mutual
theorem load_toRaw : ∀ {document : Json Scalar}, document.distinct = true →
    load (toRaw document) = .ok document
  | .null, _ => rfl
  | .scalar _, _ => rfl
  | .list items, unique => by
    rw [toRaw, Json.mapScalars, load, loadItems_toRaw (Json.distinct_list.mp unique)]
    rfl
  | .map entries, unique => by
    obtain ⟨keys, below⟩ := Json.distinct_map.mp unique
    rw [toRaw, Json.mapScalars, load, loadEntries_toRaw below, keys_toRaw]
    have passed : hook (.pairs (entries.map Prod.fst)) = .ok () := refuse_of_not (not_not.mpr keys)
    exact congrArg (fun outcome => outcome >>= fun _ => pure (Json.map entries)) passed

theorem loadItems_toRaw : ∀ {items : List (Json Scalar)}, (∀ item ∈ items, item.distinct = true) →
    loadItems (Json.mapItems .value items) = .ok items
  | [], _ => rfl
  | item :: rest, unique => by
    obtain ⟨here, later⟩ := forall_mem_cons.mp unique
    rw [Json.mapItems, loadItems, ← toRaw, load_toRaw here, loadItems_toRaw later]
    rfl

theorem loadEntries_toRaw : ∀ {entries : Json.Entries Scalar},
    (∀ entry ∈ entries, entry.2.distinct = true) →
      loadEntries (Json.mapEntries .value entries) = .ok entries
  | [], _ => rfl
  | (name, value) :: rest, unique => by
    obtain ⟨here, later⟩ := forall_mem_cons.mp unique
    rw [Json.mapEntries, loadEntries, ← toRaw, load_toRaw here, loadEntries_toRaw later]
    rfl
end

mutual
/-- **What the hooks let pass has distinct keys and no constant.** -/
theorem eq_toRaw_of_load : ∀ {raw : Json RawScalar} {document : Json Scalar},
    load raw = .ok document → raw = toRaw document ∧ document.distinct = true
  | .null, _, loaded | .scalar (.value _), _, loaded => by
    cases loaded
    exact ⟨rfl, rfl⟩
  | .scalar (.constant name), _, loaded => by cases loaded
  | .list items, _, loaded => by
    rw [load, bind_eq_ok] at loaded
    obtain ⟨documents, inside, same⟩ := loaded
    cases same
    obtain ⟨rfl, unique⟩ := eq_toRaw_of_loadItems inside
    exact ⟨rfl, Json.distinct_list.mpr unique⟩
  | .map entries, _, loaded => by
    rw [load, bind_eq_ok] at loaded
    obtain ⟨documents, inside, loaded⟩ := loaded
    obtain ⟨passed, hooked, same⟩ := bind_eq_ok.mp loaded
    cases same
    obtain ⟨rfl, unique⟩ := eq_toRaw_of_loadEntries inside
    rw [hook, refuse_eq_ok, not_not, keys_toRaw] at hooked
    exact ⟨rfl, Json.distinct_map.mpr ⟨hooked, unique⟩⟩

theorem eq_toRaw_of_loadItems : ∀ {items : List (Json RawScalar)}
    {documents : List (Json Scalar)}, loadItems items = .ok documents →
      items = Json.mapItems .value documents ∧ ∀ item ∈ documents, item.distinct = true
  | [], _, loaded => by
    cases loaded
    exact ⟨rfl, forall_mem_nil _⟩
  | item :: rest, _, loaded => by
    rw [loadItems, bind_eq_ok] at loaded
    obtain ⟨document, here, loaded⟩ := loaded
    obtain ⟨others, later, same⟩ := bind_eq_ok.mp loaded
    cases same
    obtain ⟨first, unique⟩ := eq_toRaw_of_load here
    obtain ⟨second, uniques⟩ := eq_toRaw_of_loadItems later
    rw [first, second]
    exact ⟨rfl, forall_mem_cons.mpr ⟨unique, uniques⟩⟩

theorem eq_toRaw_of_loadEntries : ∀ {entries : Json.Entries RawScalar}
    {documents : Json.Entries Scalar}, loadEntries entries = .ok documents →
      entries = Json.mapEntries .value documents ∧ ∀ entry ∈ documents, entry.2.distinct = true
  | [], _, loaded => by
    cases loaded
    exact ⟨rfl, forall_mem_nil _⟩
  | (name, value) :: rest, _, loaded => by
    rw [loadEntries, bind_eq_ok] at loaded
    obtain ⟨document, here, loaded⟩ := loaded
    obtain ⟨others, later, same⟩ := bind_eq_ok.mp loaded
    cases same
    obtain ⟨first, unique⟩ := eq_toRaw_of_load here
    obtain ⟨second, uniques⟩ := eq_toRaw_of_loadEntries later
    rw [first, second]
    exact ⟨rfl, forall_mem_cons.mpr ⟨unique, uniques⟩⟩
end

/-! ## Canonical bytes -/

section Canonical

variable {json : FrameJson}

/-- **The canonical bytes of a document.** -/
theorem canonicalJson_ok {bytes : Bytes} (unique : document.distinct = true)
    (written : canonicalJson json (.ofJson document) = .ok bytes) :
    Acceptable 0 document ∧
      ∃ text, json.dumps document.sortKeys = some text ∧ bytes = Utf8.encode text := by
  rw [canonicalJson, bind_eq_ok] at written
  obtain ⟨frozen, passed, written⟩ := written
  have acceptable := acceptable_of_freeze passed
  obtain rfl := eq_of_freeze unique passed
  refine ⟨acceptable, ?_⟩
  cases dumped : json.dumps frozen.sortKeys with
  | none =>
    rw [dumped] at written
    cases written
  | some text =>
    rw [dumped] at written
    cases written
    exact ⟨text, rfl, rfl⟩

theorem canonicalJson_of_dumps {text : Text} (acceptable : Acceptable 0 document)
    (dumped : json.dumps document.sortKeys = some text) :
    canonicalJson json (.ofJson document) = .ok (Utf8.encode text) := by
  refine bind_eq_ok.mpr ⟨document, freeze_ofJson acceptable, ?_⟩
  simp only [dumped]
  rfl

/-- **Canonical bytes are read back as the document with its keys in order.** -/
theorem decodeJson_canonicalJson (sound : json.RoundTrips) {bytes : Bytes}
    (unique : document.distinct = true)
    (written : canonicalJson json (.ofJson document) = .ok bytes) :
    decodeJson json bytes = .ok document.sortKeys := by
  obtain ⟨acceptable, text, dumped, rfl⟩ := canonicalJson_ok unique written
  have sorted := acceptable.sortKeys
  have parsed := sound _ text sorted.distinct sorted.finite dumped
  rw [decodeJson, Utf8.decode_encode]
  simp only [parsed]
  exact load_toRaw sorted.distinct

theorem decodeJson_ok {raw : Bytes} (decoded : decodeJson json raw = .ok document) :
    ∃ text, Utf8.decode raw = some text ∧ json.parse text = .ok (toRaw document) ∧
      document.distinct = true := by
  rw [decodeJson] at decoded
  split at decoded
  · cases decoded
  next text found =>
    split at decoded
    next tree parsed =>
      obtain ⟨rfl, unique⟩ := eq_toRaw_of_load decoded
      exact ⟨text, found, parsed, unique⟩
    next calls parsed =>
      obtain ⟨_, _, impossible⟩ := bind_eq_ok.mp decoded
      cases impossible

end Canonical

/-! ## Fields by name -/

theorem item?_ofEntries (entries : Json.Entries Scalar) (name : Text) :
    Given.item? (Given.ofEntries entries) (some name) =
      (Json.lookup name entries).map Given.ofJson := by
  have first : (Given.ofEntries entries).find? (fun entry => entry.1 = some name) =
      (entries.find? fun entry => entry.1 = name).map
        fun entry => (some entry.1, Given.ofJson entry.2) := by
    rw [Given.ofEntries_eq, find?_map]
    congr 2
    funext entry
    simp
  rw [Given.item?, first, Json.lookup, Option.map_map, Option.map_map]
  rfl

theorem valueAt_ofEntries {name : Text} {value : Json Scalar}
    (found : Json.lookup name entries = some value) :
    Given.valueAt (Given.ofEntries entries) name = .ofJson value := by
  rw [Given.valueAt, item?_ofEntries, found]
  rfl

theorem fields?_ofJson {names : List Text} {read : Text → Given} :
    (Given.ofJson (.map entries)).fields? names = some read ↔
      ((∀ entry ∈ entries, entry.1 ∈ names) ∧ ∀ name ∈ names, name ∈ entries.map Prod.fst) ∧
        read = Given.valueAt (Given.ofEntries entries) := by
  have keys : (∀ entry ∈ Given.ofEntries entries, ∃ name ∈ names, entry.1 = some name) ↔
      ∀ entry ∈ entries, entry.1 ∈ names := by
    rw [Given.ofEntries_eq, List.forall_mem_map]
    simp
  have listed : (∀ name ∈ names, some name ∈ (Given.ofEntries entries).map Prod.fst) ↔
      ∀ name ∈ names, name ∈ entries.map Prod.fst := by
    rw [Given.ofEntries_eq, List.map_map]
    simp
  rw [Given.ofJson, Given.fields?]
  simp only [keys, listed]
  split
  next both =>
    rw [Option.some.injEq, and_iff_right both]
    exact eq_comm
  next other =>
    simp only [reduceCtorEq, false_iff, not_and]
    exact fun both => absurd both other

/-! ## Contract values -/

variable {given : Given}

theorem identifier_eq_ok {name : String} :
    identifier given = .ok name ↔ given = .text name ∧ isIdentifier name = true := by
  constructor
  · intro read
    rw [identifier.eq_def] at read
    split at read
    next value =>
      rw [refuse_bind_eq_ok, Bool.not_eq_false] at read
      obtain ⟨shaped, same⟩ := read
      cases same
      exact ⟨by rw [Given.text, String.toList_ofList], shaped⟩
    · cases read
  · rintro ⟨rfl, shaped⟩
    rw [Given.text, identifier, String.ofList_toList]
    exact refuse_bind_eq_ok.mpr ⟨by rw [shaped]; simp, rfl⟩

theorem payloadDigest_eq_ok {name : String} :
    payloadDigest given = .ok name ↔ given = .text name ∧ isSha256Hex name = true := by
  constructor
  · intro read
    rw [payloadDigest.eq_def] at read
    split at read
    next value =>
      rw [refuse_bind_eq_ok, Bool.not_eq_false] at read
      obtain ⟨shaped, same⟩ := read
      cases same
      exact ⟨by rw [Given.text, String.toList_ofList], shaped⟩
    · cases read
  · rintro ⟨rfl, shaped⟩
    rw [Given.text, payloadDigest, String.ofList_toList]
    exact refuse_bind_eq_ok.mpr ⟨by rw [shaped]; simp, rfl⟩

theorem integer_eq_ok {value : ℕ} :
    integer given = .ok value ↔ given = .number value ∧ isContractInteger value = true := by
  rw [isContractInteger_iff]
  constructor
  · intro read
    rw [integer.eq_def] at read
    split at read
    next read' =>
      rw [refuse_bind_eq_ok, not_not] at read
      obtain ⟨bounds, same⟩ := read
      cases same
      refine ⟨?_, by omega⟩
      rw [Given.number, Int.toNat_of_nonneg (by omega)]
    · cases read
  · rintro ⟨rfl, bounds⟩
    rw [Given.number, integer]
    exact refuse_bind_eq_ok.mpr ⟨by omega, by rw [Int.toNat_natCast]; rfl⟩

theorem find_typeName (type : FrameType) :
    frameTypes.find? (fun other => (typeName other).toList = (typeName type).toList) =
      some type := by
  cases type <;> rfl

theorem frameType_eq_ok {type : FrameType} :
    frameType given = .ok type ↔ given = .text (typeName type) := by
  constructor
  · intro read
    rw [frameType.eq_def] at read
    split at read
    next value =>
      split at read
      next other found =>
        cases read
        have named : (typeName type).toList = value := by simpa using find?_some found
        rw [Given.text, named]
      · cases read
    · cases read
  · rintro rfl
    rw [Given.text, frameType, find_typeName]

variable {payload : Json Scalar}

theorem freezePayload_ok (frozen : freezePayload given = .ok payload) :
    payload.isMap = true ∧ Acceptable 0 payload ∧ freeze 0 given = .ok payload := by
  rw [freezePayload.eq_def] at frozen
  split at frozen
  next entries =>
    have acceptable := acceptable_of_freeze frozen
    refine ⟨?_, acceptable, frozen⟩
    rw [freeze, refuse_bind_eq_ok, refuse_bind_eq_ok, bind_eq_ok] at frozen
    obtain ⟨_, _, documents, _, same⟩ := frozen
    cases same
    rfl
  · cases frozen

theorem freezePayload_ofJson (mapping : payload.isMap = true) (acceptable : Acceptable 0 payload) :
    freezePayload (.ofJson payload) = .ok payload := by
  cases payload with
  | map entries => exact freeze_ofJson acceptable
  | null | scalar | list => cases mapping

/-! ## Frames -/

variable (json : FrameJson)

/-- A frame as `construct` leaves it, with its bytes. -/
structure Constructed (frame : Frame) (bytes : Bytes) : Prop where
  version : frame.version = 1
  messageId : isIdentifier frame.messageId = true
  nodeId : isIdentifier frame.nodeId = true
  nodeEpoch : isIdentifier frame.nodeEpoch = true
  gatewayOwnerEpoch : isIdentifier frame.gatewayOwnerEpoch = true
  sequence : isContractInteger frame.sequence = true
  mapping : frame.payload.isMap = true
  acceptable : Acceptable 0 frame.payload
  written : frame.toBytes json = .ok bytes
  bounded : bytes.length ≤ maxFrameBytes

structure Stands (arguments : FrameArguments) (frame : Frame) : Prop where
  version : arguments.version = .number 1
  type : arguments.type = .text (typeName frame.type)
  messageId : arguments.messageId = .text frame.messageId
  nodeId : arguments.nodeId = .text frame.nodeId
  nodeEpoch : arguments.nodeEpoch = .text frame.nodeEpoch
  gatewayOwnerEpoch : arguments.gatewayOwnerEpoch = .text frame.gatewayOwnerEpoch
  sequence : arguments.sequence = .number frame.sequence
  payload : freezePayload arguments.payload = .ok frame.payload

variable {json}

variable {frame : Frame}

/-- **A frame is constructed from the arguments that stand for it.** -/
theorem construct_eq_ok {arguments : FrameArguments} :
    construct json arguments = .ok frame ↔
      Stands arguments frame ∧ ∃ bytes, Constructed json frame bytes := by
  constructor
  · intro made
    rw [construct.eq_def] at made
    split at made
    next version =>
      simp only [bind_eq_ok, refuse_eq_ok, not_lt] at made
      obtain ⟨type, typed, messageId, message, nodeId, node, nodeEpoch, epoch, owner, owned,
        sequence, numbered, payload, frozen, bytes, written, passed, bounded, same⟩ := made
      cases same
      obtain ⟨message, messageShape⟩ := identifier_eq_ok.mp message
      obtain ⟨node, nodeShape⟩ := identifier_eq_ok.mp node
      obtain ⟨epoch, epochShape⟩ := identifier_eq_ok.mp epoch
      obtain ⟨owned, ownerShape⟩ := identifier_eq_ok.mp owned
      obtain ⟨numbered, bounds⟩ := integer_eq_ok.mp numbered
      obtain ⟨mapping, acceptable, _⟩ := freezePayload_ok frozen
      exact ⟨⟨version, frameType_eq_ok.mp typed, message, node, epoch, owned, numbered, frozen⟩,
        bytes, rfl, messageShape, nodeShape, epochShape, ownerShape, bounds, mapping,
        acceptable, written, bounded⟩
    · cases made
  · rintro ⟨stands, bytes, constructed⟩
    have same : frame = { frame with version := 1 } := by
      rw [← constructed.version]
    rw [construct, stands.version]
    simp only [Given.number, Nat.cast_one, bind_eq_ok, refuse_eq_ok, not_lt]
    exact ⟨_, frameType_eq_ok.mpr stands.type,
      _, identifier_eq_ok.mpr ⟨stands.messageId, constructed.messageId⟩,
      _, identifier_eq_ok.mpr ⟨stands.nodeId, constructed.nodeId⟩,
      _, identifier_eq_ok.mpr ⟨stands.nodeEpoch, constructed.nodeEpoch⟩,
      _, identifier_eq_ok.mpr ⟨stands.gatewayOwnerEpoch, constructed.gatewayOwnerEpoch⟩,
      _, integer_eq_ok.mpr ⟨stands.sequence, constructed.sequence⟩,
      _, stands.payload, bytes, same ▸ constructed.written, ⟨⟩, constructed.bounded,
      congrArg Except.ok same.symm⟩

def Frame.canonical (frame : Frame) : Frame := { frame with payload := frame.payload.sortKeys }

theorem nodup_frameNames : frameNames.Nodup := by decide

theorem header_scalar {entry : Text × Json Scalar} (member : entry ∈ frame.header) :
    ∃ value, entry.2 = .scalar value := by
  have each : ∀ entry ∈ frame.header, ∃ value, entry.2 = .scalar value := by simp [Frame.header]
  exact each entry member

theorem distinct_entries (unique : frame.payload.distinct = true) :
    (Json.map frame.entries).distinct = true := by
  refine Json.distinct_map.mpr ⟨nodup_frameNames, fun entry member => ?_⟩
  rcases mem_append.mp member with header | payload
  · obtain ⟨value, same⟩ := header_scalar header
    rw [same]
    rfl
  · rw [mem_singleton.mp payload]
    exact unique

theorem sortKeys_canonical (frame : Frame) :
    (Json.map frame.canonical.entries).sortKeys = (Json.map frame.entries).sortKeys := by
  have values : Json.sortValues frame.canonical.entries = Json.sortValues frame.entries := by
    rw [Json.sortValues_eq, Json.sortValues_eq, Frame.entries, Frame.entries, map_append,
      map_append]
    simp only [Frame.canonical, map_cons, map_nil, Json.sortKeys_sortKeys]
    rfl
  rw [Json.sortKeys, Json.sortKeys, values]

theorem acceptable_canonical (acceptable : Acceptable 0 (.map frame.entries)) :
    Acceptable 0 (.map frame.canonical.entries) := by
  obtain ⟨here, below⟩ := acceptable_map.mp acceptable
  refine acceptable_map.mpr ⟨here, fun entry member => ?_⟩
  rcases mem_append.mp member with header | payload
  · exact below entry (mem_append_left _ header)
  · rw [mem_singleton.mp payload]
    exact (below _ (mem_append_right _ mem_cons_self)).sortKeys

theorem isMap_sortKeys (mapping : payload.isMap = true) : payload.sortKeys.isMap = true := by
  cases payload with
  | map entries => rfl
  | null | scalar | list => cases mapping

/-- **The canonical form of a frame has the same bytes.** -/
theorem Constructed.canonical {bytes : Bytes} (made : Constructed json frame bytes) :
    Constructed json frame.canonical bytes := by
  obtain ⟨acceptable, text, dumped, rfl⟩ :=
    canonicalJson_ok (distinct_entries made.acceptable.distinct) made.written
  refine ⟨made.version, made.messageId, made.nodeId, made.nodeEpoch, made.gatewayOwnerEpoch,
    made.sequence, isMap_sortKeys made.mapping, made.acceptable.sortKeys, ?_, made.bounded⟩
  refine canonicalJson_of_dumps (acceptable_canonical acceptable) ?_
  rw [sortKeys_canonical]
  exact dumped

theorem valueAt_sorted {name : Text} {value : Json Scalar}
    (member : (name, value) ∈ frame.entries) :
    Given.valueAt (Given.ofEntries (Json.byKey (Json.sortValues frame.entries))) name =
      .ofJson value.sortKeys := by
  have keys : (frame.entries.map Prod.fst).Nodup := nodup_frameNames
  refine valueAt_ofEntries ?_
  rw [Json.lookup_sorted keys, Json.lookup_of_mem keys member]
  rfl

/-- **The arguments stand for a frame when each name gives its field.** -/
theorem stands_argumentsOf {read : Text → Given} (version : frame.version = 1) :
    Stands (argumentsOf read) frame ↔
      (∀ entry ∈ frame.header, read entry.1 = .ofJson entry.2) ∧
        freezePayload (read "payload".toList) = .ok frame.payload := by
  have header : (∀ entry ∈ frame.header, read entry.1 = .ofJson entry.2) ↔
      read "version".toList = .number 1 ∧
        read "type".toList = .text (typeName frame.type) ∧
        read "message-id".toList = .text frame.messageId ∧
        read "node-id".toList = .text frame.nodeId ∧
        read "node-epoch".toList = .text frame.nodeEpoch ∧
        read "gateway-owner-epoch".toList = .text frame.gatewayOwnerEpoch ∧
        read "sequence".toList = .number frame.sequence := by
    simp only [Frame.header, forall_mem_cons, not_mem_nil, false_implies, implies_true,
      and_true, version]
    rfl
  rw [header]
  constructor
  · rintro ⟨version, type, messageId, nodeId, nodeEpoch, gatewayOwnerEpoch, sequence, payload⟩
    exact ⟨⟨version, type, messageId, nodeId, nodeEpoch, gatewayOwnerEpoch, sequence⟩, payload⟩
  · rintro ⟨⟨version, type, messageId, nodeId, nodeEpoch, gatewayOwnerEpoch, sequence⟩, payload⟩
    exact ⟨version, type, messageId, nodeId, nodeEpoch, gatewayOwnerEpoch, sequence, payload⟩

/-- **What was written is read back, with its keys in order.** -/
theorem fromBytes_of_constructed (sound : json.RoundTrips) {bytes : Bytes}
    (made : Constructed json frame bytes) : fromBytes json bytes = .ok frame.canonical := by
  have decoded := decodeJson_canonicalJson sound (distinct_entries made.acceptable.distinct)
    made.written
  have keys := Json.keys_sorted_perm frame.entries
  have read : (Given.ofJson (Json.map frame.entries).sortKeys).fields? frameNames =
      some (Given.valueAt (Given.ofEntries (Json.byKey (Json.sortValues frame.entries)))) := by
    refine fields?_ofJson.mpr ⟨⟨fun entry member => ?_, fun name member => ?_⟩, rfl⟩
    · exact keys.mem_iff.mp (List.mem_map_of_mem member)
    · exact keys.mem_iff.mpr member
  refine refuse_bind_eq_ok.mpr ⟨not_lt.mpr made.bounded, bind_eq_ok.mpr ⟨_, decoded, ?_⟩⟩
  simp only [read]
  refine construct_eq_ok.mpr ⟨(stands_argumentsOf made.canonical.version).mpr ⟨?_, ?_⟩, bytes,
    made.canonical⟩
  · intro entry member
    have listed : (entry.1, entry.2) ∈ frame.entries := mem_append_left _ member
    obtain ⟨value, same⟩ := header_scalar member
    rw [valueAt_sorted listed, same]
    rfl
  · rw [valueAt_sorted (mem_append_right _ mem_cons_self)]
    exact freezePayload_ofJson (isMap_sortKeys made.mapping) made.acceptable.sortKeys

/-! ## What is accepted -/

/-- **What from_bytes accepts.** -/
theorem fromBytes_ok {raw : Bytes} (accepted : fromBytes json raw = .ok frame) :
    (∃ text document, Utf8.decode raw = some text ∧ json.parse text = .ok (toRaw document) ∧
        Acceptable 0 document) ∧
      ∃ bytes, Constructed json frame bytes := by
  rw [fromBytes, refuse_bind_eq_ok, bind_eq_ok] at accepted
  obtain ⟨_, document, decoded, accepted⟩ := accepted
  obtain ⟨text, found, parsed, unique⟩ := decodeJson_ok decoded
  split at accepted
  next read named =>
    obtain ⟨stands, bytes, made⟩ := construct_eq_ok.mp accepted
    refine ⟨⟨text, document, found, parsed, ?_⟩, bytes, made⟩
    obtain ⟨whole, _⟩ :=
      canonicalJson_ok (distinct_entries made.acceptable.distinct) made.written
    have inside := (acceptable_map.mp whole).2
    cases document with
    | null | scalar | list => cases named
    | map entries =>
      obtain ⟨⟨names, _⟩, rfl⟩ := fields?_ofJson.mp named
      obtain ⟨keys, below⟩ := Json.distinct_map.mp unique
      obtain ⟨header, payload⟩ := (stands_argumentsOf made.version).mp stands
      have notPrivate : ∀ name ∈ frameNames, name ∉ privateKeys := by decide
      refine acceptable_map.mpr ⟨⟨Nat.zero_le _, keys, ?_⟩, fun entry member => ?_⟩
      · intro name listed
        obtain ⟨entry, member, rfl⟩ := List.mem_map.mp listed
        exact notPrivate _ (names entry member)
      have held := valueAt_ofEntries (Json.lookup_of_mem keys member)
      have field : entry.1 ∈ frame.entries.map Prod.fst := names entry member
      obtain ⟨old, listed, same⟩ := List.mem_map.mp field
      have frozen : freeze 1 (Given.ofJson entry.2) = .ok old.2 ∨
          freeze 0 (Given.ofJson entry.2) = .ok old.2 := by
        rcases mem_append.mp listed with listed' | last
        · rw [← held, ← same, header old listed']
          exact .inl (freeze_ofJson (inside old listed))
        · cases mem_singleton.mp last
          rw [← held, ← same]
          exact .inr (freezePayload_ok payload).2.2
      have equal : old.2 = entry.2 := by
        rcases frozen with frozen | frozen <;> exact eq_of_freeze (below entry member) frozen
      rw [← equal]
      exact inside old listed
  · cases accepted

end Audiagentic.Node.Codec
