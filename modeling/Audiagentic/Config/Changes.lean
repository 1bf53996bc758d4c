import Audiagentic.Config.StrictYaml
import Mathlib.Data.List.Sort

/-!
# Changes that a merge makes

`_changed_keys` reads an absent key as a null and compares the rest with `==`.  So it overlooks a
patch that does nothing but remove nulls and exchange values for equal ones.
-/

namespace Audiagentic.Config

open Foundations List Json

/-! ## Changed keys -/

/-- `a dict or None`, and not both empty: what `_changed_keys` goes into. -/
def descends (old new : Value) : Bool :=
  (old.isMap || old.isNull) && (new.isMap || new.isNull) &&
    (!old.entries.isEmpty || !new.entries.isEmpty)

def inOrder (found : List (Text × List Text)) : List Text :=
  (found.insertionSort fun first second =>
    first.1.map Char.toNat ≤ second.1.map Char.toNat).flatMap Prod.snd

/-- `leading.rstrip(".")`. -/
def stripDots (leading : Text) : Text := leading.rdropWhile (· = '.')

mutual
/-- `_changed_keys(None, new)`. -/
def addedKeys (leading : Text) : Value → List Text
  | .map [] => [stripDots leading]
  | .map (entry :: entries) => inOrder (addedBelow leading (entry :: entries))
  | .null => []
  | _ => [stripDots leading]

def addedBelow (leading : Text) : Json.Entries Scalar → List (Text × List Text)
  | [] => []
  | (name, value) :: rest =>
    (name, addedKeys (leading ++ name ++ ['.']) value) :: addedBelow leading rest
end

mutual
def changedKeys (leading : Text) : Value → Value → List Text
  | .map entries, new =>
    if descends (.map entries) new then
      inOrder (changedBelow leading new.entries entries ++
        addedBelow leading (new.entries.filter fun entry => entry.1 ∉ entries.map Prod.fst))
    else if equalValues (.map entries) new then [] else [stripDots leading]
  | .null, new => addedKeys leading new
  | old, new => if equalValues old new then [] else [stripDots leading]

def changedBelow (leading : Text) (new : Json.Entries Scalar) :
    Json.Entries Scalar → List (Text × List Text)
  | [] => []
  | (name, value) :: rest =>
    (name, changedKeys (leading ++ name ++ ['.']) value ((Json.lookup name new).getD .null)) ::
      changedBelow leading new rest
end

/-! ## What a patch keeps -/

theorem equal_self (scalar : Scalar) : scalar.equal scalar = true := by
  rw [Scalar.equal]
  split
  next one => simp_all
  next => simp

theorem equalValues_refl {value : Value} (distinct : value.distinct = true) :
    equalValues value value = true := sameBy_refl equal_self value distinct

mutual
/-- A null, or a mapping that holds nothing else. -/
def blank : Value → Bool
  | .null => true
  | .map (entry :: entries) => blankEntries (entry :: entries)
  | _ => false

def blankEntries : Json.Entries Scalar → Bool
  | [] => true
  | (_, value) :: rest => blank value && blankEntries rest
end

mutual
/-- Under every key of the patch the old document has the same already; the keys that the patch
deletes are absent, or blank if these may be dropped. -/
def keeps (same : Value → Value → Bool) (drops : Bool) (old : Value) : Value → Bool
  | .map patch => old.isMap && keepsEntries same drops old.entries patch
  | patch => same old patch

def keepsEntries (same : Value → Value → Bool) (drops : Bool) (old : Json.Entries Scalar) :
    Json.Entries Scalar → Bool
  | [] => true
  | (name, value) :: rest =>
    (match Json.lookup name old with
      | none => value.isNull
      | some stored =>
        if value.isNull then drops && blank stored else keeps same drops stored value) &&
      keepsEntries same drops old rest
end

/-- The patch changes what is there, but `_changed_keys` sees no change. -/
def Overlooked (same : Value → Value → Bool) (old patch : Value) : Prop :=
  keeps equalValues true old patch = true ∧ keeps same false old patch = false

instance (same : Value → Value → Bool) (old patch : Value) :
    Decidable (Overlooked same old patch) := inferInstanceAs (Decidable (_ ∧ _))

section Keeps

variable {same : Value → Value → Bool} {drops : Bool} {old : Json.Entries Scalar}

theorem keepsEntries_iff {patch : Json.Entries Scalar} (unique : (patch.map Prod.fst).Nodup) :
    keepsEntries same drops old patch = true ↔
      ∀ name value, Json.lookup name patch = some value →
        (match Json.lookup name old with
          | none => value.isNull
          | some stored =>
            if value.isNull then drops && blank stored else keeps same drops stored value) =
          true := by
  induction patch with
  | nil => exact iff_of_true rfl nofun
  | cons entry rest ih =>
    obtain ⟨key, value⟩ := entry
    obtain ⟨fresh, unique⟩ := nodup_cons.mp unique
    rw [keepsEntries, Bool.and_eq_true, ih unique]
    constructor
    · rintro ⟨here, later⟩ name value' found
      rw [lookup_cons] at found
      split at found
      next named =>
        cases found
        rw [← named]
        exact here
      · exact later name value' found
    · intro all
      refine ⟨all key value (lookup_cons_self ..), fun name value' found => all name value' ?_⟩
      rw [lookup_cons_of_ne, found]
      rintro rfl
      rw [lookup_eq_none_iff.mpr fresh] at found
      cases found

theorem keeps_of_not_map {old patch : Value} (other : patch.isMap = false) :
    keeps same drops old patch = same old patch := by
  cases patch with
  | map => cases other
  | _ => rw [keeps]; simp

/-- **A merge leaves the same document exactly when its patch keeps what is there.** -/
theorem sameBy_merge {equal : Scalar → Scalar → Bool}
    (reflexive : ∀ scalar, equal scalar scalar = true) {patch : Value}
    (distinct : patch.distinct = true) {old : Value} (distinctOld : old.distinct = true) :
    old.sameBy equal (old.merge patch) = true ↔
    keeps (Json.sameBy equal) false old patch = true := by
  induction patch using Json.induction generalizing old with
  | null | scalar | list => rw [merge_of_not_map _ rfl, keeps_of_not_map rfl]
  | map entries ih =>
    obtain ⟨unique, each⟩ := distinct_map.mp distinct
    rw [merge_map]
    cases old with
    | map stored =>
      obtain ⟨uniqueOld, eachOld⟩ := distinct_map.mp distinctOld
      rw [Json.entries, sameBy_map_iff uniqueOld (nodup_mergeEntries uniqueOld _), keeps,
        Json.isMap, Bool.true_and, Json.entries, keepsEntries_iff unique]
      refine forall_congr' fun name => ?_
      rw [lookup_mergeEntries unique]
      cases patched : Json.lookup name entries with
      | none =>
        refine iff_of_true ?_ (by rintro _ ⟨⟩)
        cases found : Json.lookup name stored with
        | none => trivial
        | some value => exact sameBy_refl reflexive value (eachOld _ (mem_of_lookup found))
      | some value =>
        have member := mem_of_lookup patched
        cases found : Json.lookup name stored with
        | none => cases null : value.isNull <;> simp [null]
        | some value' =>
          have below := ih _ member (each _ member) (eachOld _ (mem_of_lookup found))
          cases null : value.isNull <;> simp [null, below]
    | _ => simp [keeps, Json.sameBy, Json.isMap]

end Keeps

/-! ## What is overlooked -/

theorem inOrder_eq_nil {found : List (Text × List Text)} :
    inOrder found = [] ↔ ∀ entry ∈ found, entry.2 = [] := by
  rw [inOrder, flatMap_eq_nil_iff]
  exact forall_congr' fun entry => by rw [mem_insertionSort]

theorem blankEntries_iff {entries : Json.Entries Scalar} :
    blankEntries entries = true ↔ ∀ entry ∈ entries, blank entry.2 = true := by
  induction entries with
  | nil => exact iff_of_true rfl nofun
  | cons entry rest ih => rw [blankEntries, Bool.and_eq_true, ih, forall_mem_cons]

theorem blank_map {entries : Json.Entries Scalar} :
    blank (.map entries) = true ↔ entries ≠ [] ∧ ∀ entry ∈ entries, blank entry.2 = true := by
  cases entries with
  | nil => simp [blank]
  | cons entry rest => rw [blank, blankEntries_iff]; simp

theorem forall_addedBelow {leading : Text} {entries : Json.Entries Scalar} :
    (∀ entry ∈ addedBelow leading entries, entry.2 = []) ↔
      ∀ entry ∈ entries, addedKeys (leading ++ entry.1 ++ ['.']) entry.2 = [] := by
  induction entries with
  | nil => exact iff_of_true nofun nofun
  | cons entry rest ih => rw [addedBelow, forall_mem_cons, ih, forall_mem_cons]

theorem forall_changedBelow {leading : Text} {new entries : Json.Entries Scalar} :
    (∀ entry ∈ changedBelow leading new entries, entry.2 = []) ↔
      ∀ entry ∈ entries, changedKeys (leading ++ entry.1 ++ ['.']) entry.2
        ((Json.lookup entry.1 new).getD .null) = [] := by
  induction entries with
  | nil => exact iff_of_true nofun nofun
  | cons entry rest ih => rw [changedBelow, forall_mem_cons, ih, forall_mem_cons]

theorem addedKeys_eq_nil {value : Value} {leading : Text} :
    addedKeys leading value = [] ↔ blank value = true := by
  induction value using Json.induction generalizing leading with
  | null => exact iff_of_true rfl rfl
  | scalar | list => simp [addedKeys, blank]
  | map entries ih =>
    rw [blank_map]
    cases entries with
    | nil => simp [addedKeys]
    | cons entry rest =>
      rw [addedKeys, inOrder_eq_nil, forall_addedBelow]
      constructor
      · intro none
        exact ⟨cons_ne_nil _ _, fun other member => (ih other member).mp (none other member)⟩
      · rintro ⟨-, blanks⟩ other member
        exact (ih other member).mpr (blanks other member)

/-- **Two mappings without a changed key.** -/
theorem changedKeys_map {leading : Text} {entries new : Json.Entries Scalar} :
    changedKeys leading (.map entries) (.map new) = [] ↔
      (∀ entry ∈ entries, changedKeys (leading ++ entry.1 ++ ['.']) entry.2
        ((Json.lookup entry.1 new).getD .null) = []) ∧
      ∀ entry ∈ new, entry.1 ∉ entries.map Prod.fst → blank entry.2 = true := by
  by_cases empty : entries = [] ∧ new = []
  · obtain ⟨rfl, rfl⟩ := empty
    exact iff_of_true rfl ⟨nofun, nofun⟩
  · have goes : descends (.map entries) (.map new) = true := by
      cases entries <;> cases new <;> simp_all [descends, Json.isMap, Json.entries]
    rw [changedKeys, if_pos goes, Json.entries, inOrder_eq_nil, forall_mem_append,
      forall_changedBelow, forall_addedBelow]
    simp only [addedKeys_eq_nil, mem_filter, decide_eq_true_eq, and_imp]

theorem changedKeys_null {value : Value} {leading : Text} :
    changedKeys leading value .null = [] ↔ blank value = true := by
  induction value using Json.induction generalizing leading with
  | null => exact iff_of_true rfl rfl
  | scalar | list => simp [changedKeys, blank, equalValues, Json.sameBy]
  | map entries ih =>
    rw [blank_map]
    cases entries with
    | nil => simp [changedKeys, descends, Json.entries, equalValues, Json.sameBy]
    | cons entry rest =>
      have goes : descends (.map (entry :: rest)) .null = true := rfl
      rw [changedKeys, if_pos goes, inOrder_eq_nil, forall_mem_append, forall_changedBelow]
      constructor
      · rintro ⟨none, -⟩
        exact ⟨cons_ne_nil _ _, fun other member => (ih other member).mp (none other member)⟩
      · rintro ⟨-, blanks⟩
        refine ⟨fun other member => (ih other member).mpr (blanks other member), ?_⟩
        rintro _ ⟨⟩

theorem changedKeys_self {value : Value} (distinct : value.distinct = true) {leading : Text} :
    changedKeys leading value value = [] := by
  induction value using Json.induction generalizing leading with
  | null => rfl
  | scalar | list => rw [changedKeys, if_pos (equalValues_refl distinct)] <;> nofun
  | map entries ih =>
    obtain ⟨unique, each⟩ := distinct_map.mp distinct
    refine changedKeys_map.mpr ⟨?_, fun entry member absent => ?_⟩
    · intro entry member
      rw [lookup_of_mem unique member]
      exact ih entry member (each entry member)
    · exact absurd (List.mem_map.mpr ⟨entry, member, rfl⟩) absent

/-- What a patch sets where nothing was is not blank. -/
theorem not_blank_merge_null {patch : Value} (distinct : patch.distinct = true)
    (present : patch.isNull = false) : blank (Json.null.merge patch) = false := by
  induction patch using Json.induction with
  | null => cases present
  | scalar | list => rw [merge_of_not_map _ rfl]; rfl
  | map entries ih =>
    obtain ⟨unique, each⟩ := distinct_map.mp distinct
    rw [merge_map, Bool.eq_false_iff, Ne, blank_map]
    rintro ⟨nonempty, blanks⟩
    obtain ⟨⟨name, value⟩, member⟩ := exists_mem_of_ne_nil _ nonempty
    have found := lookup_of_mem (@nodup_mergeEntries _ [] nodup_nil entries) member
    rw [lookup_mergeEntries unique] at found
    cases patched : Json.lookup name entries with
    | none =>
      rw [patched] at found
      cases found
    | some value' =>
      rw [patched] at found
      have inside := mem_of_lookup patched
      cases null : value'.isNull with
      | true => simp [null] at found
      | false =>
        have below := ih _ inside (each _ inside) null
        have same : Json.null.merge value' = value := by simpa [null] using found
        rw [same, blanks _ member] at below
        cases below

/-- **A merge whose changes are overlooked.** -/
theorem changedKeys_merge {patch : Value} (distinct : patch.distinct = true)
    (present : patch.isNull = false) {old : Value} (distinctOld : old.distinct = true)
    {leading : Text} :
    changedKeys leading old (old.merge patch) = [] ↔ keeps equalValues true old patch = true := by
  induction patch using Json.induction generalizing old leading with
  | null => cases present
  | scalar | list =>
    rw [merge_of_not_map _ rfl, keeps_of_not_map rfl]
    cases old with
    | map entries =>
      simp [changedKeys, descends, Json.isMap, Json.isNull, equalValues, Json.sameBy]
    | null => simp [changedKeys, addedKeys, equalValues, Json.sameBy]
    | _ => simp [changedKeys]
  | map entries ih =>
    obtain ⟨unique, each⟩ := distinct_map.mp distinct
    cases old with
    | null =>
      rw [changedKeys, addedKeys_eq_nil, not_blank_merge_null distinct rfl]
      simp [keeps, Json.isMap]
    | scalar | list => rw [merge_map]; simp [changedKeys, keeps, equalValues, Json.sameBy,
      Json.isMap]
    | map stored =>
      obtain ⟨uniqueOld, eachOld⟩ := distinct_map.mp distinctOld
      have merged := lookup_mergeEntries unique stored
      rw [merge_map, changedKeys_map, keeps, Json.isMap, Bool.true_and, Json.entries,
        keepsEntries_iff unique]
      constructor
      · rintro ⟨unchanged, added⟩ name value patched
        have inside := mem_of_lookup patched
        cases found : Json.lookup name stored with
        | none =>
          dsimp only
          by_contra null
          have null : value.isNull = false := by simpa using null
          have there : Json.lookup name (mergeEntries stored entries) =
              some (Json.null.merge value) := by
            rw [merged, patched]
            simp [null, found]
          have blank := added _ (mem_of_lookup there) (lookup_eq_none_iff.mp found)
          rw [not_blank_merge_null (each _ inside) null] at blank
          cases blank
        | some value' =>
          have before := mem_of_lookup found
          have here := unchanged _ before
          rw [merged, patched, found] at here
          cases null : value.isNull with
          | true => simpa [null, changedKeys_null] using here
          | false =>
            have below := @ih _ inside (each _ inside) null _ (eachOld _ before)
              (leading ++ name ++ ['.'])
            simpa [null] using below.mp (by simpa [null] using here)
      · intro kept
        refine ⟨fun entry member => ?_, fun entry member absent => ?_⟩
        · have found := lookup_of_mem uniqueOld member
          rw [merged]
          cases patched : Json.lookup entry.1 entries with
          | none =>
            rw [found]
            exact changedKeys_self (eachOld _ member)
          | some value =>
            have inside := mem_of_lookup patched
            have here := kept _ _ patched
            rw [found] at here
            cases null : value.isNull with
            | true => simpa [null, changedKeys_null] using here
            | false =>
              have below := (@ih _ inside (each _ inside) null _ (eachOld _ member)
                (leading ++ entry.1 ++ ['.'])).mpr (by simpa [null] using here)
              simpa [null, found] using below
        · have there := lookup_of_mem (nodup_mergeEntries uniqueOld _) member
          have fresh := lookup_eq_none_iff.mpr absent
          rw [merged] at there
          cases patched : Json.lookup entry.1 entries with
          | none =>
            rw [patched, fresh] at there
            cases there
          | some value =>
            have null := kept _ _ patched
            rw [fresh] at null
            rw [patched] at there
            simp [show value.isNull = true from null] at there

end Audiagentic.Config
