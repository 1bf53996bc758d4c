import Mathlib.Data.List.Nodup
import Audiagentic.Workflow.IdGen

/-!
# Identifiers over whole runs

The lock excludes as long as nobody removes the lock file of a process that is still in its
critical section.  `_clear_if_stale` does remove such files: one whose creator has not written
its pid yet reads as stale, and one that replaced the stale file between the reading of a pid
and the removal is removed in its place.  The counter is safe as long as nobody leaves it
truncated.
-/

namespace Audiagentic.Workflow

open Foundations List

theorem Stage.inode?_ne_none_of_target? {stage : Stage} {value : Int}
    (targeted : stage.target? = some value) : stage.inode? ≠ none := by
  cases stage <;> simp_all [Stage.inode?, Stage.target?]

namespace IdSystem

/-! ## The condition -/

/-- Nobody in its critical section owns the file at the path of the lock. -/
def Unowned (system : IdSystem) : Prop :=
  ∀ pid inode, (system.stage pid).inode? = some inode → system.lock ≠ some inode

/-- A step that neither removes a live lock nor loses the counter: a stale lock is broken only
when nobody owns it, a process that has truncated the counter writes it, and the reading of a
number does not fail. -/
def Allowed (system : IdSystem) : IdAction → Prop
  | .proceed pid => system.stage pid = .breaking → system.Unowned
  | .fault pid =>
    (∀ inode value, system.stage pid ≠ .truncated inode value) ∧
      ∀ inode, system.stage pid = .holding inode → system.counter.number? = none
  | .die pid => ∀ inode value, system.stage pid ≠ .truncated inode value
  | _ => True

/-! ## Invariants -/

/-- At most one process is in its critical section, and the lock is its own. -/
structure Exclusive (system : IdSystem) : Prop where
  owned : ∀ pid inode, (system.stage pid).inode? = some inode → system.lock = some inode
  unique : ∀ first second, (system.stage first).inode? ≠ none →
    (system.stage second).inode? ≠ none → first = second
  emptied : ∀ pid inode value, system.stage pid = .truncated inode value →
    system.counter = .empty

/-- The counter is at or above a number, or about to be written above it. -/
structure Floor (bound : Int) (system : IdSystem) : Prop where
  held : ∀ value, system.counter.number? = some value → bound ≤ value
  lost : system.counter.number? = none → ∃ pid inode value,
    system.stage pid = .truncated inode value
  target : ∀ pid value, (system.stage pid).target? = some value → bound < value

def numbers (system : IdSystem) : List Int := system.returned.map Prod.snd

/-- The numbers written and not returned, and those returned, are all different; the counter is
at or above them, and below what is going to be written. -/
structure Claimed (system : IdSystem) : Prop where
  nodup : system.numbers.Nodup
  apart : ∀ pid value, (system.stage pid).claim? = some value → value ∉ system.numbers
  distinct : ∀ first second value, (system.stage first).claim? = some value →
    (system.stage second).claim? = some value → first = second
  ahead : ∀ pid value current, (system.stage pid).target? = some value →
    system.counter.number? = some current → current < value
  floor : ∀ value, (value ∈ system.numbers ∨ ∃ pid, (system.stage pid).claim? = some value) →
    Floor value system

/-- No number is negative: neither the one in the file nor one that a process has made of it. -/
structure Natural (system : IdSystem) : Prop where
  held : ∀ value, system.counter.number? = some value → 0 ≤ value
  target : ∀ pid value, (system.stage pid).target? = some value → 0 ≤ value
  claim : ∀ pid value, (system.stage pid).claim? = some value → 0 ≤ value
  returned : ∀ value ∈ system.numbers, 0 ≤ value

/-! ## What a step does -/

/-- The process goes to the stage, and no other one moves. -/
def Moved (system : IdSystem) (pid : Pid) (stage : Stage) (next : IdSystem) : Prop :=
  ∀ other, next.stage other = if other = pid then stage else system.stage other

variable {system next : IdSystem} {pid : Pid}

theorem moved_update {stage : Stage}
    (stages : next.stage = Function.update system.stage pid stage) :
    Moved system pid stage next := by
  intro other
  rw [stages, Function.update_apply]

inductive Effect (system : IdSystem) (pid : Pid) (next : IdSystem) : Prop
  | none (same : next = system)
  | move (stage : Stage) (stages : Moved system pid stage next)
      (lock : next.lock = system.lock) (counter : next.counter = system.counter)
      (returned : next.returned = system.returned)
      (inode : stage.inode? = Option.none ∨ stage.inode? = (system.stage pid).inode?)
      (untruncated : ∀ inode value, system.stage pid ≠ .truncated inode value)
      (intact : ∀ inode value, stage ≠ .truncated inode value)
      (unclaimed : stage.claim? = Option.none)
      (target : ∀ value, stage.target? = some value → stage.inode? ≠ Option.none ∧
          (∀ current, system.counter.number? = some current → current < value) ∧
            ((∀ current, system.counter.number? = some current → 0 ≤ current) → 0 ≤ value))
  | create (inode : Nat) (was : system.stage pid = .acquiring) (free : system.lock = Option.none)
      (stages : Moved system pid (.created inode) next)
      (lock : next.lock = some inode) (counter : next.counter = system.counter)
      (returned : next.returned = system.returned)
  | truncate (inode : Nat) (value : Int) (was : system.stage pid = .counted inode value)
      (stages : Moved system pid (.truncated inode value) next)
      (lock : next.lock = system.lock) (counter : next.counter = .empty)
      (returned : next.returned = system.returned)
  | write (inode : Nat) (value : Int) (was : system.stage pid = .truncated inode value)
      (stages : Moved system pid (.written inode value) next)
      (lock : next.lock = system.lock) (counter : next.counter = system.counter.write value)
      (returned : next.returned = system.returned)
  /-- The lock is removed, by its owner or when it has none. -/
  | unlink (stage : Stage) (stages : Moved system pid stage next)
      (lock : next.lock = Option.none) (counter : next.counter = system.counter)
      (returned : next.returned = system.returned)
      (outside : stage.inode? = Option.none) (idle : stage.target? = Option.none)
      (untruncated : ∀ inode value, system.stage pid ≠ .truncated inode value)
      (claim : stage.claim? = (system.stage pid).claim?)
      (allowed : (system.stage pid).inode? ≠ Option.none ∨ system.Unowned)
  | answer (value : Int) (was : system.stage pid = .released value)
      (stages : Moved system pid .idle next)
      (lock : next.lock = system.lock) (counter : next.counter = system.counter)
      (returned : next.returned = system.returned ++ [(system.idPrefix pid, value)])

theorem Effect.outside (stage : Stage) (stages : Moved system pid stage next)
    (lock : next.lock = system.lock) (counter : next.counter = system.counter)
    (returned : next.returned = system.returned)
    (untruncated : ∀ inode value, system.stage pid ≠ .truncated inode value)
    (inode : stage.inode? = Option.none) (unclaimed : stage.claim? = Option.none)
    (idle : stage.target? = Option.none) : Effect system pid next := by
  refine .move stage stages lock counter returned (.inl inode) untruncated ?_ unclaimed ?_
  · rintro inode' value rfl
    simp [Stage.inode?] at inode
  · intro value targeted
    simp [idle] at targeted

theorem proceed_effect (allowed : system.Allowed (.proceed pid)) :
    Effect system pid (system.proceed pid) := by
  unfold proceed
  cases at_ : system.stage pid with
  | dead | idle => exact .none rfl
  | acquiring =>
    cases lock : system.lock with
    | none => exact .create system.nextInode at_ lock (moved_update rfl) rfl rfl rfl
    | some _ => exact .outside .contended (moved_update rfl) rfl rfl rfl (by simp [at_]) rfl rfl rfl
  | created inode =>
    exact .move (.holding inode) (moved_update rfl) rfl rfl rfl (.inr (by simp [at_, Stage.inode?]))
      (by simp [at_]) (by simp) rfl (by simp [Stage.target?])
  | contended =>
    dsimp only
    split
    · exact .outside .breaking (moved_update rfl) rfl rfl rfl (by simp [at_]) rfl rfl rfl
    · exact .outside (.holderRead _) (moved_update rfl) rfl rfl rfl (by simp [at_]) rfl rfl rfl
  | holderRead holder =>
    dsimp only
    split
    · exact .outside .acquiring (moved_update rfl) rfl rfl rfl (by simp [at_]) rfl rfl rfl
    · exact .outside .breaking (moved_update rfl) rfl rfl rfl (by simp [at_]) rfl rfl rfl
  | breaking =>
    exact .unlink .acquiring (moved_update rfl) rfl rfl rfl rfl rfl (by simp [at_])
      (by simp [at_, Stage.claim?])
      (.inr (allowed at_))
  | holding inode =>
    have counts : ∀ value, (∀ current, system.counter.number? = some current →
        current < value) → ((∀ current, system.counter.number? = some current → 0 ≤ current) →
          0 ≤ value) → Effect system pid (system.move pid (.counted inode value)) := by
      intro value above natural
      refine .move (.counted inode value) (moved_update rfl) rfl rfl rfl
        (.inr (by simp [at_, Stage.inode?]))
        (by simp [at_]) (by simp) rfl ?_
      rintro value' ⟨⟩
      exact ⟨by simp [Stage.inode?], above, natural⟩
    dsimp only
    split
    · next counter => exact counts 1 (by simp [counter, CounterFile.number?]) (by simp)
    · next counter => exact counts 1 (by simp [counter, CounterFile.number?]) (by simp)
    · next value counter =>
      refine counts _ (fun current here => ?_) fun natural => ?_
      · rw [counter] at here
        cases here
        omega
      have := natural value (by rw [counter]; rfl)
      omega
    · exact .move (.failing inode) (moved_update rfl) rfl rfl rfl
        (.inr (by simp [at_, Stage.inode?]))
        (by simp [at_]) (by simp) rfl (by simp [Stage.target?])
  | counted inode value => exact .truncate inode value at_ (moved_update rfl) rfl rfl rfl
  | truncated inode value => exact .write inode value at_ (moved_update rfl) rfl rfl rfl
  | written inode value =>
    exact .unlink (.released value) (moved_update rfl) rfl rfl rfl rfl rfl (by simp [at_])
      (by simp [at_, Stage.claim?]) (.inl (by simp [at_, Stage.inode?]))
  | failing inode =>
    exact .unlink .idle (moved_update rfl) rfl rfl rfl rfl rfl (by simp [at_])
      (by simp [at_, Stage.claim?])
      (.inl (by simp [at_, Stage.inode?]))
  | released value => exact .answer value at_ (moved_update rfl) rfl rfl rfl

theorem fault_effect (allowed : system.Allowed (.fault pid)) :
    Effect system pid (system.fault pid) := by
  obtain ⟨untruncated, unread⟩ := allowed
  unfold fault
  cases at_ : system.stage pid with
  | dead | idle | holderRead | released => exact .none rfl
  | acquiring | created | breaking | written | failing =>
    exact .outside .idle (moved_update rfl) rfl rfl rfl untruncated rfl rfl rfl
  | contended => exact .outside .breaking (moved_update rfl) rfl rfl rfl untruncated rfl rfl rfl
  | holding inode =>
    refine .move (.counted inode 1) (moved_update rfl) rfl rfl rfl
      (.inr (by simp [at_, Stage.inode?]))
      untruncated (by simp) rfl ?_
    rintro value ⟨⟩
    exact ⟨by simp [Stage.inode?], by simp [unread inode at_], by simp⟩
  | counted inode value =>
    exact .move (.failing inode) (moved_update rfl) rfl rfl rfl (.inr (by simp [at_, Stage.inode?]))
      untruncated (by simp) rfl (by simp [Stage.target?])
  | truncated inode value => exact absurd at_ (untruncated inode value)

/-- **What an allowed step can do.** -/
theorem step_effect {action : IdAction} (allowed : system.Allowed action) :
    ∃ pid, Effect system pid (system.step action) := by
  cases action with
  | call pid idPrefix =>
    refine ⟨pid, ?_⟩
    simp only [step, call]
    cases at_ : system.stage pid with
    | idle =>
      dsimp only
      split
      · exact .none rfl
      · exact .outside .acquiring (moved_update rfl) rfl rfl rfl (by simp [at_]) rfl rfl rfl
    | _ => exact .none rfl
  | proceed pid => exact ⟨pid, proceed_effect allowed⟩
  | fault pid => exact ⟨pid, fault_effect allowed⟩
  | giveUp pid =>
    refine ⟨pid, ?_⟩
    simp only [step, giveUp]
    cases at_ : system.stage pid with
    | acquiring => exact .outside .idle (moved_update rfl) rfl rfl rfl (by simp [at_]) rfl rfl rfl
    | _ => exact .none rfl
  | die pid => exact ⟨pid, .outside .dead (moved_update rfl) rfl rfl rfl allowed rfl rfl rfl⟩
  | spawn pid =>
    refine ⟨pid, ?_⟩
    simp only [step, spawn]
    cases at_ : system.stage pid with
    | dead => exact .outside .idle (moved_update rfl) rfl rfl rfl (by simp [at_]) rfl rfl rfl
    | _ => exact .none rfl

/-! ## Steps keep the invariants -/

section

variable (holds : Exclusive system)
include holds

theorem Exclusive.outside (unowned : system.Unowned) (pid : Pid) :
    (system.stage pid).inode? = none := by
  by_contra inside
  obtain ⟨inode, own⟩ := Option.ne_none_iff_exists'.mp inside
  exact unowned pid inode own (holds.owned pid inode own)

theorem Effect.exclusive (effect : Effect system pid next) :
    Exclusive next := by
  have owned := holds.owned
  have unique := holds.unique
  have emptied := holds.emptied
  cases effect with
  | none same => exact same ▸ ⟨owned, unique, emptied⟩
  | move stage stages lock counter returned inode untruncated intact =>
    constructor <;> grind [Moved]
  | create inode was free stages lock counter returned =>
    have nobody := holds.outside (fun pid inode _ taken => by simp [free] at taken)
    constructor <;> grind [Moved, Stage.inode?]
  | truncate | answer =>
    constructor <;> grind [Moved, Stage.inode?]
  | write inode value was stages lock counter returned =>
    have alone := unique pid
    constructor <;> grind [Moved, Stage.inode?]
  | unlink stage stages lock counter returned outside idle untruncated claim allowed =>
    -- Once the lock is gone nobody may own it.
    have others : ∀ other, other ≠ pid → (system.stage other).inode? = Option.none := by
      intro other distinct
      rcases allowed with owner | unowned
      · by_contra inside
        exact distinct (unique other pid inside owner)
      · exact holds.outside unowned other
    constructor <;> grind [Moved, Stage.target?]

theorem Exclusive.number?_written {inode : Nat} {value : Int}
    (was : system.stage pid = .truncated inode value)
    (counter : next.counter = system.counter.write value) : next.counter.number? = some value := by
  rw [counter, holds.emptied pid inode value was, CounterFile.number?_write_empty]

/-- **The counter stays above a floor.** -/
theorem Effect.floor {bound : Int} (floor : Floor bound system) (effect : Effect system pid next) :
    Floor bound next := by
  have unique := holds.unique
  obtain ⟨held, lost, target⟩ := floor
  cases effect with
  | none same => exact same ▸ ⟨held, lost, target⟩
  | move stage stages lock counter returned inode untruncated intact unclaimed above =>
    -- A number is only read while nobody else has the counter truncated.
    have reading : ∀ value, stage.target? = some value → bound < value := by
      intro value targeted
      obtain ⟨inside, current, -⟩ := above value targeted
      cases reads : system.counter.number? with
      | some number => exact Int.lt_of_le_of_lt (held number reads) (current number reads)
      | none =>
        obtain ⟨other, _, _, truncated⟩ := lost reads
        have owner : (system.stage pid).inode? ≠ Option.none := by grind
        have same := unique pid other owner (by simp [truncated, Stage.inode?])
        exact absurd (same ▸ truncated) (untruncated _ _)
    constructor <;> grind [Moved]
  | create | answer =>
    constructor <;> grind [Moved, Stage.target?]
  | truncate inode value was stages lock counter returned =>
    constructor <;> grind [Moved, Stage.target?, CounterFile.number?_empty]
  | write inode value was stages lock counter returned =>
    have reads := holds.number?_written was counter
    constructor <;> grind [Moved, Stage.target?]
  | unlink stage stages lock counter returned outside idle untruncated claim allowed =>
    constructor <;> grind [Moved]

theorem Effect.floor_written {inode : Nat} {value : Int}
    (was : system.stage pid = .truncated inode value)
    (stages : Moved system pid (.written inode value) next)
    (counter : next.counter = system.counter.write value) : Floor value next := by
  have reads := holds.number?_written was counter
  refine ⟨?_, ?_, ?_⟩
  · intro current held
    rw [reads] at held
    exact Int.le_of_eq (Option.some.inj held)
  · simp [reads]
  · intro other target targeted
    have only : other = pid := by
      by_contra distinct
      have there : (system.stage other).target? = some target := by
        simpa [stages other, distinct] using targeted
      exact distinct (holds.unique other pid (Stage.inode?_ne_none_of_target? there)
        (by simp [was, Stage.inode?]))
    rw [stages other, if_pos only] at targeted
    simp [Stage.target?] at targeted

theorem Effect.claimed (claimed : Claimed system) (effect : Effect system pid next) :
    Claimed next := by
  have floors : ∀ value, Floor value system → Floor value next :=
    fun value floor => effect.floor holds floor
  obtain ⟨nodup, apart, distinct, ahead, floor⟩ := claimed
  cases effect with
  | none same => exact same ▸ ⟨nodup, apart, distinct, ahead, floor⟩
  | move _ _ _ _ returned | unlink _ _ _ _ returned =>
    have numbers : next.numbers = system.numbers := by rw [IdSystem.numbers, returned]; rfl
    constructor <;> grind [Moved]
  | create inode was free stages lock counter returned =>
    have numbers : next.numbers = system.numbers := by rw [IdSystem.numbers, returned]; rfl
    constructor <;> grind [Moved, Stage.claim?, Stage.target?]
  | truncate inode value was stages lock counter returned =>
    have numbers : next.numbers = system.numbers := by rw [IdSystem.numbers, returned]; rfl
    constructor <;> grind [Moved, Stage.claim?, CounterFile.number?_empty]
  | write inode value was stages lock counter returned =>
    have numbers : next.numbers = system.numbers := by rw [IdSystem.numbers, returned]; rfl
    have written := Effect.floor_written holds was stages counter
    -- What is claimed already is below what this process was going to write.
    have below : ∀ claim, (claim ∈ system.numbers ∨
        ∃ other, (system.stage other).claim? = some claim) → claim < value := by
      intro claim made
      exact (floor claim made).target pid value (by rw [was]; rfl)
    have reads := holds.number?_written was counter
    have beyond := written.target
    constructor <;> grind [Moved, Stage.claim?]
  | answer value was stages lock counter returned =>
    have numbers : next.numbers = system.numbers ++ [value] := by
      rw [IdSystem.numbers, returned, map_append]; rfl
    have claim : (system.stage pid).claim? = some value := by rw [was]; rfl
    constructor <;> grind [Moved, Stage.claim?, Stage.target?]

/-- **No number becomes negative.** -/
theorem Effect.natural (natural : Natural system) (effect : Effect system pid next) :
    Natural next := by
  obtain ⟨held, target, claim, returned⟩ := natural
  cases effect with
  | none same => exact same ▸ ⟨held, target, claim, returned⟩
  | move _ _ _ _ kept | unlink _ _ _ _ kept =>
    have numbers : next.numbers = system.numbers := by rw [IdSystem.numbers, kept]; rfl
    constructor <;> grind [Moved]
  | create _ _ _ _ _ _ kept | truncate _ _ _ _ _ _ kept =>
    have numbers : next.numbers = system.numbers := by rw [IdSystem.numbers, kept]; rfl
    constructor <;> grind [Moved, Stage.claim?, Stage.target?, CounterFile.number?_empty]
  | write inode value was stages lock counter kept =>
    have numbers : next.numbers = system.numbers := by rw [IdSystem.numbers, kept]; rfl
    have reads := holds.number?_written was counter
    have natural := target pid value (by rw [was]; rfl)
    constructor <;> grind [Moved, Stage.claim?, Stage.target?]
  | answer value was stages lock counter kept =>
    have numbers : next.numbers = system.numbers ++ [value] := by
      rw [IdSystem.numbers, kept, map_append]; rfl
    have natural := claim pid value (by rw [was]; rfl)
    constructor <;> grind [Moved, Stage.claim?, Stage.target?]

end

theorem step_sound (system : IdSystem) (action : IdAction)
    (holds : Exclusive system ∧ Claimed system) (allowed : system.Allowed action) :
    Exclusive (system.step action) ∧ Claimed (system.step action) := by
  obtain ⟨pid, effect⟩ := step_effect allowed
  exact ⟨effect.exclusive holds.1, effect.claimed holds.1 holds.2⟩

theorem init_sound (counter : CounterFile) :
    Exclusive (init counter) ∧ Claimed (init counter) := by
  constructor
  · constructor <;> simp [init, Stage.inode?]
  · constructor <;> simp [init, numbers, Stage.claim?, Stage.target?]

theorem Claimed.floor_number (claimed : Claimed system) {value : Int}
    (reads : system.counter.number? = some value) : Floor value system := by
  refine ⟨?_, ?_, ?_⟩
  · intro current held
    exact Int.le_of_eq (Option.some.inj (reads.symm.trans held))
  · simp [reads]
  · intro pid target targeted
    exact claimed.ahead pid target value targeted reads

end IdSystem

/-! ## Identifiers -/

theorem hyphen_not_mem_toString (value : Nat) : '-' ∉ (toString value).toList := by
  intro member
  rw [Nat.toString_eq_repr, Nat.toList_repr] at member
  have digit := Nat.isDigit_of_mem_toDigits (by decide) (by decide) member
  exact absurd digit (by decide)

theorem eq_of_append_hyphen_eq {first second tail tail' : List Char}
    (free : '-' ∉ tail) (free' : '-' ∉ tail')
    (same : first ++ '-' :: tail = second ++ '-' :: tail') : tail = tail' := by
  have ends : ∀ {start rest : List Char}, '-' ∉ rest →
      (start ++ '-' :: rest).reverse.takeWhile (· ≠ '-') = rest.reverse := by
    intro start rest absent
    have plain : ∀ letter ∈ rest.reverse, (letter ≠ '-' : Bool) = true := by
      intro letter member
      exact decide_eq_true fun equal => absent (equal ▸ mem_reverse.mp member)
    rw [reverse_append, reverse_cons, append_assoc, takeWhile_append_of_pos plain]
    simp
  have reversed := congrArg (fun letters => letters.reverse.takeWhile (· ≠ '-')) same
  simp only [ends free, ends free'] at reversed
  exact reverse_injective reversed

/-- Identifiers with different natural numbers are different, whatever their prefixes. -/
theorem formatId_number {first second : String × Int} (natural : 0 ≤ first.2)
    (natural' : 0 ≤ second.2)
    (same : formatId first = formatId second) : first.2 = second.2 := by
  obtain ⟨idPrefix, number⟩ := first
  obtain ⟨idPrefix', number'⟩ := second
  obtain ⟨number, rfl⟩ := Int.eq_ofNat_of_zero_le natural
  obtain ⟨number', rfl⟩ := Int.eq_ofNat_of_zero_le natural'
  have lists : idPrefix.toList ++ '-' :: (toString number).toList =
      idPrefix'.toList ++ '-' :: (toString number').toList := by
    have lists := congrArg String.toList same
    simp only [formatId, String.toList_append, append_assoc] at lists
    exact lists
  have tails := eq_of_append_hyphen_eq (hyphen_not_mem_toString number)
    (hyphen_not_mem_toString number') lists
  rw [Nat.toString_eq_repr, Nat.toString_eq_repr, Nat.toList_repr, Nat.toList_repr] at tails
  have values := congrArg (Nat.ofDigitChars 10 · 0) tails
  exact congrArg Int.ofNat (by simpa using values)

/-! ## Whole runs -/

namespace IdSystem

theorem run_sound {counter : CounterFile} {actions : List IdAction}
    (run : Admissible step Allowed (init counter) actions) :
    Exclusive (exec step (init counter) actions) ∧ Claimed (exec step (init counter) actions) :=
  run.invariant step_sound (init_sound counter)

theorem run_floor {bound : Int} {start : IdSystem} {actions : List IdAction}
    (holds : Exclusive start ∧ Claimed start) (floor : Floor bound start)
    (run : Admissible step Allowed start actions) : Floor bound (exec step start actions) := by
  have preserved : ∀ system action,
      (Exclusive system ∧ Claimed system) ∧ Floor bound system → Allowed system action →
      (Exclusive (step system action) ∧ Claimed (step system action)) ∧
        Floor bound (step system action) := by
    rintro system action ⟨sound, above⟩ allowed
    obtain ⟨pid, effect⟩ := step_effect allowed
    exact ⟨step_sound system action sound allowed, effect.floor sound.1 above⟩
  exact (run.invariant preserved ⟨holds, floor⟩).2

theorem run_natural {counter : CounterFile} {actions : List IdAction}
    (natural : ∀ value, counter.number? = some value → 0 ≤ value)
    (run : Admissible step Allowed (init counter) actions) :
    Natural (exec step (init counter) actions) := by
  have preserved : ∀ system action,
      (Exclusive system ∧ Claimed system) ∧ Natural system → Allowed system action →
      (Exclusive (step system action) ∧ Claimed (step system action)) ∧
        Natural (step system action) := by
    rintro system action ⟨sound, natural⟩ allowed
    obtain ⟨pid, effect⟩ := step_effect allowed
    exact ⟨step_sound system action sound allowed, effect.natural sound.1 natural⟩
  have starts : Natural (init counter) := by
    constructor <;> simp_all [init, numbers, Stage.claim?, Stage.target?]
  exact (run.invariant preserved ⟨init_sound counter, starts⟩).2

end IdSystem

/-- **Sequential ids are unique** in every run from a counter that is not negative in which no
stale-lock break removes the lock of a live process and nobody leaves the counter truncated, and the
counter never decreases. -/
theorem sequential_ids_unique (counter : CounterFile) (actions : List IdAction)
    (natural : ∀ value, counter.number? = some value → 0 ≤ value)
    (run : Admissible IdSystem.step IdSystem.Allowed (.init counter) actions) :
    ((exec IdSystem.step (.init counter) actions).returned.map formatId).Nodup ∧
      ∀ earlier later, actions = earlier ++ later → ∀ before after,
        (exec IdSystem.step (.init counter) earlier).counter.number? = some before →
        (exec IdSystem.step (.init counter) actions).counter.number? = some after →
        before ≤ after := by
  constructor
  · have nodup := (IdSystem.run_sound run).2.nodup
    have positive := (IdSystem.run_natural natural run).returned
    rw [IdSystem.numbers, nodup_iff_pairwise_ne, pairwise_map] at nodup
    rw [nodup_iff_pairwise_ne, pairwise_map]
    refine nodup.imp_of_mem fun here there different same => different ?_
    exact formatId_number (positive _ (mem_map_of_mem here))
      (positive _ (mem_map_of_mem there)) same
  · rintro earlier later rfl before after reads reads'
    obtain ⟨first, second⟩ := admissible_append.mp run
    rw [exec_append] at reads'
    have sound := IdSystem.run_sound first
    have floor := sound.2.floor_number reads
    exact (IdSystem.run_floor sound floor second).held after reads'

/-- A process dies with the lock, another breaks it and returns the first identifier, and a new
process with the pid of the dead one waits for the lock and returns the second. -/
def handedOver : List IdAction :=
  [.call 1 "task", .proceed 1, .proceed 1, .die 1,
    .call 2 "task", .proceed 2, .proceed 2, .proceed 2, .proceed 2, .proceed 2, .proceed 2,
    .spawn 1, .call 1 "task", .proceed 1, .proceed 1, .proceed 1,
    .proceed 2, .proceed 2, .proceed 2, .proceed 2, .proceed 2,
    .proceed 1, .proceed 1, .proceed 1, .proceed 1, .proceed 1, .proceed 1, .proceed 1]

theorem sequential_ids_unique_handedOver :
    (exec IdSystem.step (.init .missing) handedOver).returned.map formatId = ["task-1", "task-2"] ∧
      ((exec IdSystem.step (.init .missing) handedOver).returned.map formatId).Nodup := by
  refine ⟨by decide +kernel, (sequential_ids_unique .missing handedOver nofun ?_).1⟩
  -- Only the third step of the second process breaks a lock, and its owner is dead.
  refine ⟨trivial, ?_, ?_, ?_, trivial, ?_, ?_, ?_, ?_, ?_, ?_, trivial, trivial, ?_, ?_, ?_,
    ?_, ?_, ?_, ?_, ?_, ?_, ?_, ?_, ?_, ?_, ?_, ?_, trivial⟩
  case refine_3 => rintro _ _ ⟨⟩
  case refine_7 =>
    intro _ pid inode own
    rcases pid with _ | _ | _ | _ <;> cases own
  all_goals
    intro breaking
    cases breaking

/-- A process finds a lock without a pid and breaks it while its creator is alive. -/
def brokenLive : List IdAction :=
  [.call 1 "task", .call 2 "task", .proceed 1,
    .proceed 2, .proceed 2, .proceed 2, .proceed 2, .proceed 2, .proceed 1,
    .proceed 1, .proceed 2,
    .proceed 1, .proceed 1, .proceed 1, .proceed 1,
    .proceed 2, .proceed 2, .proceed 2, .proceed 2]

/-- A process dies between the truncation and the writing of the counter. -/
def truncatedDeath : List IdAction :=
  [.call 1 "task", .proceed 1, .proceed 1, .proceed 1, .proceed 1, .die 1,
    .call 2 "task", .proceed 2, .proceed 2, .proceed 2, .proceed 2, .proceed 2, .proceed 2,
    .proceed 2, .proceed 2, .proceed 2, .proceed 2, .proceed 2]

/-- Two live processes return the same identifier, and a death lets the counter fall from 5
to 1. -/
theorem ids_repeat_and_counter_falls :
    (exec IdSystem.step (.init .missing) brokenLive).returned.map formatId = ["task-1", "task-1"] ∧
      ((IdSystem.init (.text 18 (.number 5))).counter.number? = some 5 ∧
        (exec IdSystem.step (.init (.text 18 (.number 5))) truncatedDeath).counter.number? =
          some 1) := by
  decide +kernel

end Audiagentic.Workflow
