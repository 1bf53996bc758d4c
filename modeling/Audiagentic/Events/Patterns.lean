import Mathlib.Data.List.Forall2
import Audiagentic.Foundations.Texts

/-!
# Event type patterns

`pattern_matches` of `foundation/event/patterns.py` decides which subscribers get an event.  The
documented grammar says what a segment of the pattern may take of the event: `*` one segment, `**`
any number of them, and every other segment itself.

The code has one algorithm for patterns without `**` and another for the rest.  The second takes
the first `**` as a wildcard and every other segment literally.
-/

namespace Audiagentic.Events

open Foundations List

/-! ## The grammar -/

/-- `*`. -/
def oneSegment : Text := ['*']

/-- `**`. -/
def anySegments : Text := ['*', '*']

/-- A segment of a pattern takes these segments of an event. -/
def Takes (part : Text) (group : List Text) : Prop :=
  if part = oneSegment then group.length = 1
  else if part = anySegments then True
  else group = [part]

/-- The segments of the event can be split among those of the pattern. -/
def Covers (parts segments : List Text) : Prop :=
  ∃ groups : List (List Text), segments = groups.flatten ∧ List.Forall₂ Takes parts groups

theorem takes_self (part : Text) : Takes part [part] := by
  unfold Takes
  split_ifs <;> simp

theorem takes_anySegments (group : List Text) : Takes anySegments group := by
  unfold Takes
  rw [if_neg (by decide), if_pos rfl]
  trivial

theorem takes_literal {part : Text} (one : part ≠ oneSegment) (any : part ≠ anySegments)
    {group : List Text} : Takes part group ↔ group = [part] := by
  unfold Takes
  rw [if_neg one, if_neg any]

variable {segments : List Text}

theorem covers_nil : Covers [] segments ↔ segments = [] := by
  constructor
  · rintro ⟨groups, rfl, taken⟩
    cases taken
    rfl
  · rintro rfl
    exact ⟨[], rfl, .nil⟩

variable {parts : List Text}

theorem covers_cons {part : Text} :
    Covers (part :: parts) segments ↔
      ∃ group rest, segments = group ++ rest ∧ Takes part group ∧ Covers parts rest := by
  constructor
  · rintro ⟨groups, rfl, taken⟩
    obtain ⟨group, others, first, rest, rfl⟩ := forall₂_cons_left_iff.mp taken
    exact ⟨group, others.flatten, rfl, first, others, rfl, rest⟩
  · rintro ⟨group, _, rfl, first, others, rfl, rest⟩
    exact ⟨group :: others, rfl, .cons first rest⟩

/-- **A pattern is covered part by part.** -/
theorem covers_append {first second : List Text} :
    Covers (first ++ second) segments ↔
      ∃ before after, segments = before ++ after ∧ Covers first before ∧ Covers second after := by
  induction first generalizing segments with
  | nil =>
    constructor
    · intro covered
      exact ⟨[], segments, rfl, covers_nil.mpr rfl, covered⟩
    · rintro ⟨before, after, rfl, empty, covered⟩
      rw [covers_nil.mp empty]
      exact covered
  | cons part parts ih =>
    rw [cons_append, covers_cons]
    constructor
    · rintro ⟨group, rest, rfl, taken, covered⟩
      obtain ⟨before, after, rfl, left, right⟩ := ih.mp covered
      exact ⟨group ++ before, after, (append_assoc ..).symm,
        covers_cons.mpr ⟨group, before, rfl, taken, left⟩, right⟩
    · rintro ⟨before, after, rfl, left, right⟩
      obtain ⟨group, rest, rfl, taken, covered⟩ := covers_cons.mp left
      exact ⟨group, rest ++ after, append_assoc .., taken,
        ih.mpr ⟨rest, after, rfl, covered, right⟩⟩

theorem covers_self (parts : List Text) : Covers parts parts := by
  induction parts with
  | nil => exact covers_nil.mpr rfl
  | cons part parts ih =>
    exact covers_cons.mpr ⟨[part], parts, rfl, takes_self part, ih⟩

theorem covers_literal (one : oneSegment ∉ parts) (any : anySegments ∉ parts) :
    Covers parts segments ↔ segments = parts := by
  constructor
  · intro covered
    induction parts generalizing segments with
    | nil => exact covers_nil.mp covered
    | cons part parts ih =>
      rw [mem_cons, not_or] at one any
      obtain ⟨group, rest, rfl, taken, covered⟩ := covers_cons.mp covered
      rw [takes_literal (Ne.symm one.1) (Ne.symm any.1)] at taken
      rw [taken, ih one.2 any.2 covered]
      rfl
  · rintro rfl
    exact covers_self segments

def fillWildcards (parts : List Text) : List Text :=
  parts.map fun part => if part = oneSegment ∨ part = anySegments then ['x'] else part

theorem covers_fillWildcards (parts : List Text) : Covers parts (fillWildcards parts) := by
  induction parts with
  | nil => exact covers_nil.mpr rfl
  | cons part parts ih =>
    refine covers_cons.mpr ⟨[_], fillWildcards parts, rfl, ?_, ih⟩
    dsimp only
    split
    next wildcard =>
      rcases wildcard with rfl | rfl
      · rfl
      · exact takes_anySegments _
    next literal => exact takes_self part

theorem fillWildcards_ne {part : Text} (member : part ∈ parts)
    (wildcard : part = oneSegment ∨ part = anySegments) : fillWildcards parts ≠ parts := by
  intro same
  rw [fillWildcards, map_eq_iff] at same
  obtain ⟨place, found⟩ := mem_iff_getElem?.mp member
  have filled := same place
  rw [found, Option.map_some, if_pos wildcard, Option.some.injEq] at filled
  rcases wildcard with rfl | rfl <;> exact absurd filled (by decide)

theorem fillWildcards_dotless (dotless : ∀ part ∈ parts, '.' ∉ part) {segment : Text}
    (member : segment ∈ fillWildcards parts) : '.' ∉ segment := by
  obtain ⟨part, listed, rfl⟩ := List.mem_map.mp member
  split
  next => decide
  next => exact dotless part listed

/-! ## The code -/

def segmentsOf (text : Text) : List Text := text.splitOn '.'

def patternMatches (pattern eventType : Text) : Bool :=
  let parts := segmentsOf pattern
  let eventParts := segmentsOf eventType
  if anySegments ∈ parts then
    let wildcardIdx := parts.idxOf anySegments
    let before := parts.take wildcardIdx
    let after := parts.drop (wildcardIdx + 1)
    if eventParts.length < before.length + after.length then false
    else if eventParts.take before.length ≠ before then false
    else if after ≠ [] ∧ eventParts.drop (eventParts.length - after.length) ≠ after then false
    else true
  else if parts.length ≠ eventParts.length then false
  else (parts.zip eventParts).all fun pair =>
    decide (¬ (pair.1 ≠ oneSegment ∧ pair.1 ≠ pair.2))

/-- A pattern without `**` is compared segment by segment. -/
theorem covers_zip (any : anySegments ∉ parts) :
    Covers parts segments ↔ parts.length = segments.length ∧
      ∀ pair ∈ parts.zip segments, pair.1 = oneSegment ∨ pair.1 = pair.2 := by
  induction parts generalizing segments with
  | nil =>
    rw [covers_nil]
    cases segments <;> simp
  | cons part parts ih =>
    rw [mem_cons, not_or] at any
    have single : ∀ group, Takes part group ↔
        ∃ segment, group = [segment] ∧ (part = oneSegment ∨ part = segment) := by
      intro group
      by_cases one : part = oneSegment
      · subst one
        constructor
        · intro taken
          obtain ⟨segment, rfl⟩ := length_eq_one_iff.mp taken
          exact ⟨segment, rfl, .inl rfl⟩
        · rintro ⟨segment, rfl, _⟩
          rfl
      · rw [takes_literal one (Ne.symm any.1)]
        simp [one]
    rw [covers_cons]
    cases segments with
    | nil => simp [single]
    | cons segment segments =>
      rw [length_cons, length_cons, Nat.add_right_cancel_iff, zip_cons_cons, forall_mem_cons]
      constructor
      · rintro ⟨group, rest, split, taken, covered⟩
        obtain ⟨found, rfl, same⟩ := (single group).mp taken
        obtain ⟨rfl, rfl⟩ := cons_eq_cons.mp split
        obtain ⟨length, pairs⟩ := (ih any.2).mp covered
        exact ⟨length, same, pairs⟩
      · rintro ⟨length, same, pairs⟩
        exact ⟨[segment], segments, rfl, (single _).mpr ⟨segment, rfl, same⟩,
          (ih any.2).mpr ⟨length, pairs⟩⟩

def textOf (segments : List Text) : Text := List.intercalate ['.'] segments

theorem segmentsOf_textOf (nonempty : segments ≠ [])
    (dotless : ∀ segment ∈ segments, '.' ∉ segment) :
    segmentsOf (textOf segments) = segments :=
  splitOn_intercalate '.' dotless nonempty

variable {pattern : Text}

/-- **Without `**` the code follows the grammar.** -/
theorem patternMatches_plain (any : anySegments ∉ segmentsOf pattern) (eventType : Text) :
    patternMatches pattern eventType = true ↔
      Covers (segmentsOf pattern) (segmentsOf eventType) := by
  rw [covers_zip any]
  unfold patternMatches
  dsimp only
  rw [if_neg any]
  by_cases length : (segmentsOf pattern).length = (segmentsOf eventType).length
  · rw [if_neg (not_not.mpr length), List.all_eq_true]
    simp only [decide_eq_true_eq, not_and_or, not_not, ne_eq]
    exact ⟨fun pairs => ⟨length, pairs⟩, fun both => both.2⟩
  · rw [if_pos length]
    simp [length]

/-- **With `**` the code compares the segments before the first one and those after it
literally.** -/
theorem patternMatches_wildcard {before after : List Text}
    (parts : segmentsOf pattern = before ++ anySegments :: after) (first : anySegments ∉ before)
    (eventType : Text) :
    patternMatches pattern eventType = true ↔
      ∃ middle, segmentsOf eventType = before ++ middle ++ after := by
  have place : (before ++ anySegments :: after).idxOf anySegments = before.length := by
    rw [idxOf_append_of_notMem first, idxOf_cons_self, Nat.add_zero]
  have dropped : (before ++ anySegments :: after).drop (before.length + 1) = after := by
    rw [drop_append, drop_eq_nil_of_le (Nat.le_succ _)]
    simp
  unfold patternMatches
  dsimp only
  rw [parts, if_pos (by simp), place, dropped, take_left']
  · generalize segmentsOf eventType = segments
    constructor
    · intro matched
      split_ifs at matched with short prefixed suffixed
      rw [not_lt] at short
      rw [ne_eq, not_not] at prefixed
      refine ⟨(segments.drop before.length).take
        (segments.length - before.length - after.length), ?_⟩
      have ends : segments.drop (segments.length - after.length) = after := by
        by_contra different
        refine suffixed ⟨?_, different⟩
        rintro rfl
        exact different (by simp)
      have start : before.length + (segments.length - before.length - after.length) =
          segments.length - after.length := by omega
      calc segments
          = segments.take before.length ++ segments.drop before.length :=
            (take_append_drop _ _).symm
        _ = before ++ ((segments.drop before.length).take
              (segments.length - before.length - after.length) ++
              (segments.drop before.length).drop
                (segments.length - before.length - after.length)) := by
            rw [prefixed, take_append_drop]
        _ = _ := by rw [drop_drop, start, ends, append_assoc]
    · rintro ⟨middle, rfl⟩
      have ends : (before ++ middle ++ after).length - after.length =
        (before ++ middle).length := by
        rw [@length_append _ (before ++ middle) after]
        omega
      rw [if_neg, if_neg, if_neg]
      · rintro ⟨_, different⟩
        rw [ends, drop_left] at different
        exact different rfl
      · rw [not_not, append_assoc, take_left]
      · simp only [length_append]
        omega
  · rfl

/-! ## Where the code follows the grammar -/

/-- The pattern has no `**`, or it is its only wildcard. -/
def Unmixed (pattern : Text) : Prop :=
  anySegments ∉ segmentsOf pattern ∨
    ((segmentsOf pattern).count anySegments = 1 ∧ oneSegment ∉ segmentsOf pattern)

instance (pattern : Text) : Decidable (Unmixed pattern) := by
  unfold Unmixed
  infer_instance

theorem covers_of_patternMatches {eventType : Text}
    (matched : patternMatches pattern eventType = true) :
    Covers (segmentsOf pattern) (segmentsOf eventType) := by
  by_cases any : anySegments ∈ segmentsOf pattern
  · obtain ⟨before, after, parts, first⟩ := eq_append_cons_of_mem any
    obtain ⟨middle, split⟩ := (patternMatches_wildcard parts first eventType).mp matched
    rw [parts, split, append_assoc, covers_append]
    refine ⟨before, middle ++ after, rfl, covers_self before, ?_⟩
    exact covers_cons.mpr ⟨middle, after, rfl, takes_anySegments middle, covers_self after⟩
  · exact (patternMatches_plain any eventType).mp matched

/-- The parts of an unmixed pattern around its `**` are literal. -/
theorem unmixed_around {before after : List Text}
    (parts : segmentsOf pattern = before ++ anySegments :: after) :
    Unmixed pattern ↔ (oneSegment ∉ before ∧ anySegments ∉ before) ∧
      oneSegment ∉ after ∧ anySegments ∉ after := by
  have different : oneSegment ≠ anySegments := by decide
  unfold Unmixed
  rw [parts, count_append, count_cons_self]
  simp only [mem_append, mem_cons, true_or, or_true, not_true_eq_false, false_or, not_or, different]
  constructor
  · rintro ⟨count, oneBefore, oneAfter⟩
    exact ⟨⟨oneBefore, count_eq_zero.mp (by omega)⟩, oneAfter, count_eq_zero.mp (by omega)⟩
  · rintro ⟨⟨oneBefore, anyBefore⟩, oneAfter, anyAfter⟩
    rw [count_eq_zero.mpr anyBefore, count_eq_zero.mpr anyAfter]
    exact ⟨rfl, oneBefore, oneAfter⟩

/-- **The grammar is followed exactly for the unmixed patterns.**  What is matched is always
covered; and whether an event type matches a pattern is what the grammar says, for every event type,
exactly when the pattern has no `**` or no other wildcard. -/
theorem patternMatches_iff_covers (pattern : Text) :
    (∀ eventType, patternMatches pattern eventType = true →
        Covers (segmentsOf pattern) (segmentsOf eventType)) ∧
      ((∀ eventType, patternMatches pattern eventType = true ↔
        Covers (segmentsOf pattern) (segmentsOf eventType)) ↔ Unmixed pattern) := by
  refine ⟨fun _ => covers_of_patternMatches, ?_⟩
  by_cases any : anySegments ∈ segmentsOf pattern
  · obtain ⟨before, after, parts, first⟩ := eq_append_cons_of_mem any
    rw [unmixed_around parts]
    constructor
    · intro follows
      by_contra mixed
      -- The segments around the `**`, with every wildcard among them filled in.
      have filled : fillWildcards before ≠ before ∨ fillWildcards after ≠ after := by
        by_contra same
        rw [not_or, not_not, not_not] at same
        refine mixed ⟨⟨?_, first⟩, ?_, ?_⟩
        · exact fun member => fillWildcards_ne member (.inl rfl) same.1
        · exact fun member => fillWildcards_ne member (.inl rfl) same.2
        · exact fun member => fillWildcards_ne member (.inr rfl) same.2
      have segments : segmentsOf (textOf (fillWildcards before ++ fillWildcards after)) =
          fillWildcards before ++ fillWildcards after := by
        refine segmentsOf_textOf ?_ ?_
        · intro empty
          obtain ⟨left, right⟩ := append_eq_nil_iff.mp empty
          rw [fillWildcards, map_eq_nil_iff] at left right
          subst left right
          exact filled.elim (· rfl) (· rfl)
        · intro segment member
          have dotless : ∀ part ∈ before ++ anySegments :: after, '.' ∉ part := by
            rw [← parts]
            exact fun part listed => Text.separator_notMem listed
          rcases mem_append.mp member with here | here
          · refine fillWildcards_dotless ?_ here
            exact fun part listed => dotless part (mem_append_left _ listed)
          · refine fillWildcards_dotless ?_ here
            exact fun part listed =>
              dotless part (mem_append_right _ (mem_cons_of_mem _ listed))
      have covered : Covers (segmentsOf pattern)
          (segmentsOf (textOf (fillWildcards before ++ fillWildcards after))) := by
        rw [segments, parts, covers_append]
        refine ⟨_, _, rfl, covers_fillWildcards before, ?_⟩
        exact covers_cons.mpr ⟨[], _, rfl, takes_anySegments [], covers_fillWildcards after⟩
      obtain ⟨middle, split⟩ :=
        (patternMatches_wildcard parts first _).mp ((follows _).mpr covered)
      rw [segments, append_assoc] at split
      obtain ⟨left, right⟩ := append_inj split (length_map _)
      have length := congrArg List.length right
      rw [fillWildcards, length_map, length_append] at length
      have empty : middle = [] := length_eq_zero_iff.mp (by omega)
      rw [empty, nil_append] at right
      exact filled.elim (· left) (· right)
    · rintro ⟨⟨oneBefore, anyBefore⟩, oneAfter, anyAfter⟩ eventType
      refine ⟨covers_of_patternMatches, ?_⟩
      intro covered
      rw [parts, covers_append] at covered
      obtain ⟨start, rest, split, left, right⟩ := covered
      obtain ⟨middle, last, rfl, _, right⟩ := covers_cons.mp right
      rw [(covers_literal oneBefore anyBefore).mp left,
        (covers_literal oneAfter anyAfter).mp right] at split
      exact (patternMatches_wildcard parts first eventType).mpr
        ⟨middle, split.trans (append_assoc ..).symm⟩
  · exact iff_of_true (patternMatches_plain any) (.inl any)

/-- `*.**` matches no event type with two segments. -/
theorem mixed_pattern_unmatched :
    Covers (segmentsOf "*.**".toList) (segmentsOf "task.done".toList) ∧
      patternMatches "*.**".toList "task.done".toList = false := by
  refine ⟨?_, by decide⟩
  exact ⟨[["task".toList], ["done".toList]], by decide,
    .cons rfl (.cons (takes_anySegments _) .nil)⟩

end Audiagentic.Events
