import Mathlib.Data.List.Basic

/-!
# Undoing the rounds of a loop

A loop runs rounds, each under a number of its own, and a round leaves marks.  Some rounds are
committed: their marks are undone after the loop, the last round first.  Any other round undoes its
own marks while it runs.  The rounds are undone in the reverse order of their marks exactly when
each is, and nothing leaves marks after a round that has undone its own.
-/

namespace Audiagentic.Foundations

open List

universe u v

structure UndoRound (ι : Type u) (α : Type v) where
  number : ι
  /-- The marks of the round are undone after the loop. -/
  committed : Bool
  left : List α
  /-- What the round undid while it ran, in order. -/
  own : List α
  whole : List α

namespace UndoRound

variable {ι : Type u} {α : Type v} {β : Type*}

def under (round : UndoRound ι α) (marks : List α) : List (ι × α) :=
  marks.map fun mark => (round.number, mark)

def lefts (rounds : List (UndoRound ι α)) : List (ι × α) :=
  rounds.flatMap fun round => round.under round.left

def owns (rounds : List (UndoRound ι α)) : List (ι × α) :=
  rounds.flatMap fun round => round.under round.own

def wholes (rounds : List (UndoRound ι α)) : List (ι × α) :=
  (rounds.filter UndoRound.committed).reverse.flatMap fun round => round.under round.whole

/-! ## Lists that share no number -/

section Separated

variable {here : β → Prop} [DecidablePred here] {first first' second second' : List β}

variable (ours : ∀ entry ∈ first, here entry) (ours' : ∀ entry ∈ first', here entry)
  (others : ∀ entry ∈ second, ¬ here entry) (others' : ∀ entry ∈ second', ¬ here entry)

include ours others

theorem filter_append_of_separated {whole : List β}
    (parts : whole = first ++ second ∨ whole = second ++ first) :
    whole.filter (fun entry => here entry) = first ∧
      whole.filter (fun entry => ¬ here entry) = second := by
  have mine : first.filter (fun entry => here entry) = first ∧
      first.filter (fun entry => ¬ here entry) = [] :=
    ⟨filter_eq_self.mpr (by simpa using ours), filter_eq_nil_iff.mpr (by simpa using ours)⟩
  have rest : second.filter (fun entry => here entry) = [] ∧
      second.filter (fun entry => ¬ here entry) = second :=
    ⟨filter_eq_nil_iff.mpr (by simpa using others), filter_eq_self.mpr (by simpa using others)⟩
  rcases parts with rfl | rfl
  all_goals
    simp only [filter_append, mine, rest, append_nil, nil_append, and_self]

include ours' others'

/-- Two ways to cut a list into the entries with a property and the others agree. -/
theorem append_eq_append_iff_of_separated :
    second ++ first = second' ++ first' ↔ second = second' ∧ first = first' := by
  constructor
  · intro same
    obtain ⟨pick, drop⟩ := filter_append_of_separated ours others (.inr same.symm)
    obtain ⟨pick', drop'⟩ := filter_append_of_separated ours' others' (.inr rfl)
    exact ⟨drop.symm.trans drop', pick.symm.trans pick'⟩
  · rintro ⟨rfl, rfl⟩
    rfl

/-- Two lists that share no entry can change places only when one of them is empty. -/
theorem append_comm_iff_of_separated :
    first ++ second = second' ++ first' ↔
      first = first' ∧ second = second' ∧ (first = [] ∨ second = []) := by
  constructor
  · intro same
    obtain ⟨pick, drop⟩ := filter_append_of_separated ours others (.inl same.symm)
    obtain ⟨pick', drop'⟩ := filter_append_of_separated ours' others' (.inr rfl)
    obtain rfl : first = first' := pick.symm.trans pick'
    obtain rfl : second = second' := drop.symm.trans drop'
    refine ⟨rfl, rfl, ?_⟩
    cases first with
    | nil => exact .inl rfl
    | cons mine rest =>
      cases second with
      | nil => exact .inr rfl
      | cons other more =>
        obtain rfl : mine = other := by simpa using congrArg List.head? same
        exact absurd (ours mine mem_cons_self) (others mine mem_cons_self)
  · rintro ⟨rfl, rfl, rfl | rfl⟩
    · simp
    · simp

end Separated

/-! ## The rounds -/

theorem under_injective (round : UndoRound ι α) : Function.Injective round.under :=
  map_injective_iff.mpr fun _ _ same => (Prod.mk.inj same).2

theorem under_eq_nil {round : UndoRound ι α} {marks : List α} :
    round.under marks = [] ↔ marks = [] := map_eq_nil_iff

theorem under_reverse (round : UndoRound ι α) (marks : List α) :
    (round.under marks).reverse = round.under marks.reverse := map_reverse.symm

theorem mem_under {round : UndoRound ι α} {marks : List α} {entry : ι × α}
    (member : entry ∈ round.under marks) : entry.1 = round.number := by
  obtain ⟨_, _, rfl⟩ := List.mem_map.mp member
  rfl

variable {rounds : List (UndoRound ι α)}

theorem mem_flatMap_under {marks : UndoRound ι α → List α} {entry : ι × α}
    (member : entry ∈ rounds.flatMap fun round => round.under (marks round)) :
    ∃ round ∈ rounds, entry.1 = round.number := by
  obtain ⟨round, within, here⟩ := mem_flatMap.mp member
  exact ⟨round, within, mem_under here⟩

theorem lefts_eq_nil : lefts rounds = [] ↔ ∀ round ∈ rounds, round.left = [] := by
  rw [lefts, flatMap_eq_nil_iff]
  exact forall₂_congr fun _ _ => under_eq_nil

/-- **The rounds of a loop are undone in the reverse order of their marks** exactly when each round
is, and no round leaves marks after an uncommitted one that did. -/
theorem undone_eq_reverse_iff [DecidableEq ι] (numbered : (rounds.map UndoRound.number).Nodup)
    (later : ∀ round ∈ rounds, round.committed = true → round.own = []) :
    owns rounds ++ wholes rounds = (lefts rounds).reverse ↔
      (∀ round ∈ rounds, (if round.committed then round.whole else round.own) =
        round.left.reverse) ∧
      rounds.Pairwise fun round other => round.committed = false →
        round.left = [] ∨ other.left = [] := by
  induction rounds with
  | nil => simp [owns, wholes, lefts]
  | cons round rest ih =>
    obtain ⟨fresh, numbered⟩ := nodup_cons.mp numbered
    have ih := ih numbered fun other member => later other (mem_cons_of_mem _ member)
    have ours : ∀ marks, ∀ entry ∈ round.under marks, entry.1 = round.number :=
      fun _ _ member => mem_under member
    have others : ∀ (items : List (UndoRound ι α)) (marks : UndoRound ι α → List α),
        (∀ other ∈ items, other ∈ rest) →
        ∀ entry ∈ items.flatMap fun other => other.under (marks other),
          ¬ entry.1 = round.number := by
      intro items marks within entry member same
      obtain ⟨other, here, number⟩ := mem_flatMap_under member
      exact fresh (List.mem_map.mpr ⟨other, within other here, number.symm.trans same⟩)
    have separate : ∀ entry ∈ owns rest ++ wholes rest, ¬ entry.1 = round.number := by
      intro entry member
      rcases mem_append.mp member with own | whole
      · exact others rest _ (fun _ member => member) entry own
      · refine others _ _ (fun other member => ?_) entry whole
        exact mem_of_mem_filter (mem_reverse.mp member)
    have separate' : ∀ entry ∈ (lefts rest).reverse, ¬ entry.1 = round.number :=
      fun entry member => others rest _ (fun _ member => member) entry (mem_reverse.mp member)
    have tail : (lefts (round :: rest)).reverse =
        (lefts rest).reverse ++ round.under round.left.reverse := by
      rw [lefts, flatMap_cons, reverse_append, under_reverse]
      rfl
    have pairs : (round :: rest).Pairwise (fun round other => round.committed = false →
        round.left = [] ∨ other.left = []) ↔
          (round.committed = false → round.left = [] ∨ lefts rest = []) ∧
            rest.Pairwise fun round other => round.committed = false →
              round.left = [] ∨ other.left = [] := by
      rw [pairwise_cons, lefts_eq_nil]
      refine and_congr_left fun _ =>
        ⟨fun each uncommitted => ?_, fun all other member uncommitted => ?_⟩
      · by_cases silent : round.left = []
        · exact .inl silent
        · exact .inr fun other member => (each other member uncommitted).resolve_left silent
      · exact (all uncommitted).imp id fun rests => rests other member
    rw [tail, pairs, forall_mem_cons]
    cases committed : round.committed with
    | true =>
      have own : owns (round :: rest) = owns rest := by
        rw [owns, flatMap_cons, later round mem_cons_self committed]
        rfl
      have whole : wholes (round :: rest) = wholes rest ++ round.under round.whole := by
        rw [wholes, filter_cons_of_pos committed, reverse_cons, flatMap_append]
        simp [wholes]
      rw [own, whole, ← append_assoc,
        @append_eq_append_iff_of_separated _ (fun entry => entry.1 = round.number) _ _ _ _ _
          (ours _) (ours _) separate separate', ih, (under_injective round).eq_iff]
      simp only [if_true, reduceCtorEq, false_imp_iff, true_and]
      tauto
    | false =>
      have own : owns (round :: rest) = round.under round.own ++ owns rest := by
        rw [owns, flatMap_cons]
        rfl
      have whole : wholes (round :: rest) = wholes rest := by
        rw [wholes, filter_cons_of_neg (by simp [committed])]
        rfl
      rw [own, whole, append_assoc,
        @append_comm_iff_of_separated _ (fun entry => entry.1 = round.number) _ _ _ _ _
          (ours _) (ours _) separate separate', (under_injective round).eq_iff]
      simp only [Bool.false_eq_true, if_false, true_imp_iff]
      constructor
      · rintro ⟨mine, same, one⟩
        obtain ⟨each, pairwise⟩ := ih.mp same
        rw [under_eq_nil, mine, reverse_eq_nil_iff, same, reverse_eq_nil_iff] at one
        exact ⟨⟨mine, each⟩, one, pairwise⟩
      · rintro ⟨⟨mine, each⟩, one, pairwise⟩
        have same := ih.mpr ⟨each, pairwise⟩
        refine ⟨mine, same, ?_⟩
        rw [under_eq_nil, mine, reverse_eq_nil_iff, same, reverse_eq_nil_iff]
        exact one

end UndoRound

end Audiagentic.Foundations
