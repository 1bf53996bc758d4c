import Audiagentic.Foundations.Runs
import Audiagentic.Session.ExternalRegistry

/-!
# Writer fencing of the registry of external sessions

Calls of any number of gateways and owner epochs in any order.  The binding generation only grows,
and it grows with every supersession and every takeover, so what was fenced out once never passes
the check before an effect again.

Owner epochs are compared for equality only.  A claim is given to whoever presents the current
generation, so an owner whose claim was taken over is kept out as long as it does not present the
generation of its successor.
-/

namespace Audiagentic.Session

open Foundations Option

/-! ## What a call does -/

/-- The binding generation; nothing is bound where there is no record. -/
def bindingGeneration (stored : Option Registration) : ℕ :=
  (stored.map Registration.generation).getD 0

def succeeds (refKey : Text) (stored : Option Registration) (call : RegistryCall × Text) : Bool :=
  (call.1.answer refKey stored call.2).isOk

/-- The call registers another locator or basis for the session. -/
def supersedes (refKey : Text) (stored : Option Registration) (call : RegistryCall × Text) : Bool :=
  match call.1, stored with
  | .register _ _ nodeLocator basis, some record =>
    (record.nodeLocator ≠ nodeLocator || joinBasis? basis ≠ some record.basis) &&
      succeeds refKey stored call
  | _, _ => false

/-- The owner epoch whose claim the call takes over. -/
def takeoverOf (refKey : Text) (stored : Option Registration) (call : RegistryCall × Text) :
    Option Text :=
  match call.1, stored.bind Registration.writer with
  | .claimWriter _ ownerEpoch _, some holder =>
    if holder.ownerEpoch ≠ ownerEpoch && succeeds refKey stored call then
      some holder.ownerEpoch
    else none
  | _, _ => none

def obtains (refKey : Text) (stored : Option Registration) (call : RegistryCall × Text)
    (epoch : Text) : Bool :=
  match call.1 with
  | .claimWriter _ ownerEpoch _ => ownerEpoch = epoch && succeeds refKey stored call
  | _ => false

structure WriterToken where
  writerId : Text
  ownerEpoch : Text
  generation : ℤ

def WriterToken.passes (refKey : Text) (stored : Option Registration) (token : WriterToken) :
    Bool :=
  (assertWriter refKey stored token.writerId token.ownerEpoch token.generation).isOk

inductive RegistryChange : RegistryCall → Option Registration → Registration → Prop
  | registered {providerId surfaceId nodeLocator : Text} {basis : OrderedDict Text Text}
      {record : Registration} (locator : record.nodeLocator = nodeLocator)
      (facts : joinBasis? basis = some record.basis) :
      RegistryChange (.register providerId surfaceId nodeLocator basis) (some record) record
  | created {providerId surfaceId nodeLocator : Text} {basis : OrderedDict Text Text}
      {record : Registration} (free : record.writer = none) :
      RegistryChange (.register providerId surfaceId nodeLocator basis) none record
  | superseded {providerId surfaceId nodeLocator : Text} {basis : OrderedDict Text Text}
      {record next : Registration}
      (other : record.nodeLocator ≠ nodeLocator ∨ joinBasis? basis ≠ some record.basis)
      (moved : next.generation = record.generation + 1) (free : next.writer = none) :
      RegistryChange (.register providerId surfaceId nodeLocator basis) (some record) next
  | reclaimed {writerId ownerEpoch : Text} {generation : ℤ} {record : Registration}
      (holder : WriterClaim) (was : record.writer = some holder)
      (same : holder.ownerEpoch = ownerEpoch) :
      RegistryChange (.claimWriter writerId ownerEpoch generation) (some record) record
  | claimed {writerId ownerEpoch : Text} {generation : ℤ} {record next : Registration}
      (claim : WriterClaim) (was : record.writer = none) (holds : next.writer = some claim)
      (epoch : claim.ownerEpoch = ownerEpoch) (same : next.generation = record.generation) :
      RegistryChange (.claimWriter writerId ownerEpoch generation) (some record) next
  | takenOver {writerId ownerEpoch : Text} {generation : ℤ} {record next : Registration}
      (holder claim : WriterClaim) (was : record.writer = some holder)
      (other : holder.ownerEpoch ≠ ownerEpoch) (holds : next.writer = some claim)
      (epoch : claim.ownerEpoch = ownerEpoch) (moved : next.generation = record.generation + 1) :
      RegistryChange (.claimWriter writerId ownerEpoch generation) (some record) next
  | unheld {writerId : Text} {generation : ℤ} {record : Registration}
      (free : record.writer = none) :
      RegistryChange (.releaseWriter writerId generation) (some record) record
  | asserted {writerId ownerEpoch : Text} {generation : ℤ} {record : Registration} :
      RegistryChange (.assertWriter writerId ownerEpoch generation) (some record) record
  | released {writerId : Text} {generation : ℤ} {record next : Registration}
      (free : next.writer = none) (same : next.generation = record.generation) :
      RegistryChange (.releaseWriter writerId generation) (some record) next

/-! ## Reading and writing -/

variable {record next : Registration}

theorem validate_eq_ok : record.validate = .ok next ↔ record.isValid = true ∧ next = record := by
  unfold Registration.validate
  rw [refuse_bind_eq_ok, Bool.not_eq_false]
  exact and_congr_right fun _ => ⟨fun same => (Except.ok.inj same).symm, fun same => by rw [same]⟩

variable {refKey : Text} {stored : Option Registration}

theorem loadRegistration_eq_ok {loaded : Option Registration} :
    loadRegistration refKey stored = .ok loaded ↔
      loaded = stored ∧ ∀ record ∈ stored, record.isValid = true ∧ record.refKey = refKey := by
  cases stored with
  | none =>
    constructor
    · rintro ⟨⟩
      exact ⟨rfl, nofun⟩
    · rintro ⟨rfl, _⟩
      rfl
  | some record =>
    rw [loadRegistration, bind_eq_ok]
    constructor
    · rintro ⟨_, valid, rest⟩
      obtain ⟨valid, rfl⟩ := validate_eq_ok.mp valid
      obtain ⟨key, same⟩ := refuse_bind_eq_ok.mp rest
      refine ⟨(Except.ok.inj same).symm, ?_⟩
      rintro _ ⟨⟩
      exact ⟨valid, not_not.mp key⟩
    · rintro ⟨rfl, holds⟩
      obtain ⟨valid, key⟩ := holds record rfl
      exact ⟨record, validate_eq_ok.mpr ⟨valid, rfl⟩, refuse_bind_eq_ok.mpr ⟨not_not.mpr key, rfl⟩⟩

theorem requireRegistration_eq_ok :
    requireRegistration refKey stored = .ok record ↔
      stored = some record ∧ record.isValid = true ∧ record.refKey = refKey := by
  unfold requireRegistration
  rw [bind_eq_ok]
  constructor
  · rintro ⟨loaded, load, given⟩
    obtain ⟨rfl, holds⟩ := loadRegistration_eq_ok.mp load
    cases loaded with
    | none => cases given
    | some found =>
      cases given
      exact ⟨rfl, holds record rfl⟩
  · rintro ⟨rfl, holds⟩
    refine ⟨some record, loadRegistration_eq_ok.mpr ⟨rfl, ?_⟩, rfl⟩
    rintro _ ⟨⟩
    exact holds

theorem storeRegistration_eq_ok {now : Text} :
    storeRegistration record now = .ok next ↔
      { record with updatedAt := now }.isValid = true ∧ next = { record with updatedAt := now } :=
  validate_eq_ok

/-- **What a successful claim was.** -/
theorem claimWriter_eq_ok {refKey now writerId ownerEpoch : Text} {generation : ℤ}
    {stored : Option Registration} {next : Registration} :
    claimWriter refKey stored now writerId ownerEpoch generation = .ok next ↔
      isLowerHexText 64 refKey = true ∧
        ∃ record, stored = some record ∧ record.isValid = true ∧ record.refKey = refKey ∧
          (record.generation : ℤ) = generation ∧
          match record.writer with
          | none =>
            storeRegistration { record with writer := some ⟨writerId, ownerEpoch, now⟩ } now =
              .ok next
          | some holder =>
            if holder.ownerEpoch = ownerEpoch then holder.writerId = writerId ∧ next = record
            else
              storeRegistration
                { record with
                  generation := record.generation + 1
                  writer := some ⟨writerId, ownerEpoch, now⟩ } now = .ok next := by
  unfold claimWriter checkRefKey
  rw [refuse_bind_eq_ok, Bool.not_eq_false, bind_eq_ok]
  refine and_congr_right fun _ => exists_congr fun record => ?_
  rw [requireRegistration_eq_ok, and_assoc, and_assoc, refuse_bind_eq_ok, not_not]
  refine and_congr_right fun _ => and_congr_right fun _ => and_congr_right fun _ =>
    and_congr_right fun _ => ?_
  cases record.writer with
  | none => exact Iff.rfl
  | some holder =>
    by_cases same : holder.ownerEpoch = ownerEpoch
    · by_cases writer : holder.writerId = writerId
      · simp [same, writer, eq_comm]
      · simp [same, writer]
    · simp only [same, if_false]

variable {writerId : Text} {generation : ℤ}

theorem assertWriter_eq_ok {ownerEpoch : Text} :
    assertWriter refKey stored writerId ownerEpoch generation = .ok next ↔
      isLowerHexText 64 refKey = true ∧ stored = some next ∧ next.isValid = true ∧
        next.refKey = refKey ∧ (next.generation : ℤ) = generation ∧
          ∃ holder, next.writer = some holder ∧ holder.writerId = writerId ∧
            holder.ownerEpoch = ownerEpoch := by
  unfold assertWriter checkRefKey
  rw [refuse_bind_eq_ok, Bool.not_eq_false, bind_eq_ok]
  refine and_congr_right fun _ => ?_
  constructor
  · rintro ⟨record, required, rest⟩
    obtain ⟨there, valid, key⟩ := requireRegistration_eq_ok.mp required
    obtain ⟨generation, rest⟩ := refuse_bind_eq_ok.mp rest
    cases held : record.writer with
    | none =>
      rw [held] at rest
      cases rest
    | some holder =>
      rw [held] at rest
      obtain ⟨writer, rest⟩ := refuse_bind_eq_ok.mp rest
      obtain ⟨epoch, same⟩ := refuse_bind_eq_ok.mp rest
      cases same
      exact ⟨there, valid, key, not_not.mp generation, holder, held, not_not.mp writer,
        not_not.mp epoch⟩
  · rintro ⟨there, valid, key, generation, holder, held, writer, epoch⟩
    refine ⟨next, requireRegistration_eq_ok.mpr ⟨there, valid, key⟩,
      refuse_bind_eq_ok.mpr ⟨not_not.mpr generation, ?_⟩⟩
    rw [held]
    exact refuse_bind_eq_ok.mpr ⟨not_not.mpr writer, refuse_bind_eq_ok.mpr ⟨not_not.mpr epoch, rfl⟩⟩

/-! ## Changes -/

section Changes

variable {refKey now : Text} {stored : Option Registration} {next : Registration}

theorem register_change {providerId surfaceId nodeLocator : Text} {basis : OrderedDict Text Text}
    (done : register refKey stored now providerId surfaceId nodeLocator basis = .ok next) :
    RegistryChange (.register providerId surfaceId nodeLocator basis) stored next ∧
      next.isValid = true ∧ next.refKey = refKey := by
  unfold register at done
  cases proven : joinBasis? basis with
  | none =>
    rw [proven] at done
    cases done
  | some facts =>
    rw [proven] at done
    obtain ⟨⟨⟩, -, read⟩ := bind_eq_ok.mp done
    obtain ⟨loaded, load, rest⟩ := bind_eq_ok.mp read
    clear done read
    obtain ⟨rfl, holds⟩ := loadRegistration_eq_ok.mp load
    cases loaded with
    | none =>
      obtain ⟨valid, rfl⟩ := storeRegistration_eq_ok.mp rest
      exact ⟨.created rfl, valid, rfl⟩
    | some current =>
      obtain ⟨-, rest⟩ := refuse_bind_eq_ok.mp rest
      by_cases same : current.nodeLocator = nodeLocator ∧ current.basis = facts
      · rw [if_pos same] at rest
        cases rest
        exact ⟨.registered same.1 (proven.trans (congrArg some same.2.symm)), holds _ rfl⟩
      rw [if_neg same] at rest
      obtain ⟨valid, rfl⟩ := storeRegistration_eq_ok.mp rest
      refine ⟨.superseded ?_ rfl rfl, valid, rfl⟩
      rw [proven, ne_eq, ne_eq, Option.some.injEq, eq_comm (a := facts)]
      exact not_and_or.mp same

theorem claimWriter_change {ownerEpoch : Text}
    (done : claimWriter refKey stored now writerId ownerEpoch generation = .ok next) :
    RegistryChange (.claimWriter writerId ownerEpoch generation) stored next ∧
      next.isValid = true ∧ next.refKey = refKey := by
  obtain ⟨-, record, rfl, valid, key, -, rest⟩ := claimWriter_eq_ok.mp done
  cases held : record.writer with
  | none =>
    rw [held] at rest
    obtain ⟨valid, rfl⟩ := storeRegistration_eq_ok.mp rest
    exact ⟨.claimed _ held rfl rfl rfl, valid, key⟩
  | some holder =>
    simp only [held] at rest
    by_cases same : holder.ownerEpoch = ownerEpoch
    · rw [if_pos same] at rest
      obtain ⟨-, rfl⟩ := rest
      exact ⟨.reclaimed holder held same, valid, key⟩
    · rw [if_neg same] at rest
      obtain ⟨valid, rfl⟩ := storeRegistration_eq_ok.mp rest
      exact ⟨.takenOver holder _ held same rfl rfl rfl, valid, key⟩

theorem releaseWriter_change
    (done : releaseWriter refKey stored now writerId generation = .ok next) :
    RegistryChange (.releaseWriter writerId generation) stored next ∧
      next.isValid = true ∧ next.refKey = refKey := by
  unfold releaseWriter at done
  obtain ⟨⟨⟩, -, read⟩ := bind_eq_ok.mp done
  obtain ⟨record, required, rest⟩ := bind_eq_ok.mp read
  clear done read
  obtain ⟨rfl, valid, key⟩ := requireRegistration_eq_ok.mp required
  cases held : record.writer with
  | none =>
    rw [held] at rest
    cases rest
    exact ⟨.unheld held, valid, key⟩
  | some holder =>
    rw [held] at rest
    obtain ⟨-, rest⟩ := refuse_bind_eq_ok.mp rest
    obtain ⟨valid, rfl⟩ := storeRegistration_eq_ok.mp rest
    exact ⟨.released rfl rfl, valid, key⟩

/-- **Everything a successful call does.**  The record it leaves is well formed. -/
theorem answer_change {call : RegistryCall} (done : call.answer refKey stored now = .ok next) :
    RegistryChange call stored next ∧ next.isValid = true ∧ next.refKey = refKey := by
  cases call with
  | register => exact register_change done
  | claimWriter => exact claimWriter_change done
  | releaseWriter => exact releaseWriter_change done
  | assertWriter =>
    obtain ⟨-, rfl, valid, key, -⟩ := assertWriter_eq_ok.mp done
    exact ⟨.asserted, valid, key⟩

end Changes

theorem registryStep_cases (refKey : Text) (stored : Option Registration)
    (call : RegistryCall × Text) :
    (succeeds refKey stored call = false ∧ registryStep refKey stored call = stored) ∨
      ∃ next, succeeds refKey stored call = true ∧ registryStep refKey stored call = some next ∧
        RegistryChange call.1 stored next ∧ next.isValid = true ∧ next.refKey = refKey := by
  unfold succeeds registryStep
  cases answer : call.1.answer refKey stored call.2 with
  | error => exact .inl ⟨rfl, rfl⟩
  | ok next => exact .inr ⟨next, rfl, rfl, answer_change answer⟩

variable {call : RegistryCall × Text}

theorem succeeds_iff :
    succeeds refKey stored call = true ↔ ∃ next, call.1.answer refKey stored call.2 = .ok next := by
  unfold succeeds
  cases call.1.answer refKey stored call.2 with
  | error error =>
    constructor
    · nofun
    · rintro ⟨_, ⟨⟩⟩
  | ok next => exact ⟨fun _ => ⟨next, rfl⟩, fun _ => rfl⟩

/-! ## Generations -/

theorem RegistryChange.generation_le {call : RegistryCall}
    (change : RegistryChange call stored next) : bindingGeneration stored ≤ next.generation := by
  cases change with
  | registered | reclaimed | unheld | asserted => exact le_rfl
  | created => exact Nat.zero_le _
  | superseded _ moved | takenOver _ _ _ _ _ _ moved => rw [moved]; exact Nat.le_succ _
  | claimed _ _ _ _ same | released _ same => exact same.ge

theorem bindingGeneration_registryStep (refKey : Text) (stored : Option Registration)
    (call : RegistryCall × Text) :
    bindingGeneration stored ≤ bindingGeneration (registryStep refKey stored call) := by
  rcases registryStep_cases refKey stored call with ⟨_, same⟩ | ⟨next, _, after, change, _⟩
  · rw [same]
  · rw [after]
    exact change.generation_le

/-- **The generation of a binding never decreases.** -/
theorem bindingGeneration_exec (refKey : Text) (stored : Option Registration)
    (calls : List (RegistryCall × Text)) :
    bindingGeneration stored ≤ bindingGeneration (exec (registryStep refKey) stored calls) := by
  have kept : ∀ (_ : Option Registration) (_ : RegistryCall × Text), True → True :=
    fun _ _ => id
  exact exec_relates (R := fun first second => bindingGeneration first ≤ bindingGeneration second)
    (fun _ => le_rfl) (fun _ _ _ => le_trans) kept
    (fun stored call _ => bindingGeneration_registryStep refKey stored call) trivial calls

theorem generation_lt_of_supersedes (superseded : supersedes refKey stored call = true) :
    bindingGeneration stored < bindingGeneration (registryStep refKey stored call) := by
  obtain ⟨action, now⟩ := call
  rcases registryStep_cases refKey stored (action, now) with
    ⟨failed, _⟩ | ⟨next, succeeded, after, change, _⟩
  · simp only [supersedes, failed, Bool.and_false] at superseded
    split at superseded <;> cases superseded
  · rw [after]
    cases change with
    | registered locator facts => simp [supersedes, locator, facts] at superseded
    | superseded _ moved => exact Nat.lt_of_lt_of_eq (Nat.lt_succ_self _) moved.symm
    | created | reclaimed | claimed | takenOver | unheld | released | asserted => cases superseded

/-- A takeover ends the claim of one owner epoch and begins that of another. -/
theorem takeoverOf_eq_some {epoch : Text} (taken : takeoverOf refKey stored call = some epoch) :
    ∃ record next holder claim, stored = some record ∧ record.writer = some holder ∧
      holder.ownerEpoch = epoch ∧ registryStep refKey stored call = some next ∧
      next.writer = some claim ∧ claim.ownerEpoch ≠ epoch ∧
      next.generation = record.generation + 1 ∧ next.isValid = true ∧ next.refKey = refKey := by
  obtain ⟨action, now⟩ := call
  rcases registryStep_cases refKey stored (action, now) with
    ⟨failed, _⟩ | ⟨next, succeeded, after, change, valid, key⟩
  · simp only [takeoverOf, failed, Bool.and_false] at taken
    split at taken <;> cases taken
  · cases change with
    | registered | created | superseded | unheld | released | asserted => cases taken
    | reclaimed holder was same => simp [takeoverOf, was, same] at taken
    | claimed _ was => simp [takeoverOf, was] at taken
    | takenOver holder claim was other holds renewed moved =>
      simp only [takeoverOf, bind_some, was, succeeded, Bool.and_true, ne_eq, other,
        not_false_eq_true, decide_true, if_true, Option.some.injEq] at taken
      exact ⟨_, next, holder, claim, rfl, was, taken, after, holds,
        fun same => other (taken.trans (same.symm.trans renewed)), moved, valid, key⟩

theorem generation_lt_of_takeoverOf (taken : (takeoverOf refKey stored call).isSome = true) :
    bindingGeneration stored < bindingGeneration (registryStep refKey stored call) := by
  obtain ⟨epoch, taken⟩ := isSome_iff_exists.mp taken
  obtain ⟨record, next, _, _, rfl, _, _, after, _, _, moved, _⟩ := takeoverOf_eq_some taken
  rw [after]
  exact Nat.lt_of_lt_of_eq (Nat.lt_succ_self _) moved.symm

/-! ## Passing the check -/

theorem passes_iff {token : WriterToken} :
    token.passes refKey stored = true ↔
      isLowerHexText 64 refKey = true ∧ ∃ record holder, stored = some record ∧
        record.isValid = true ∧ record.refKey = refKey ∧ record.writer = some holder ∧
        token = ⟨holder.writerId, holder.ownerEpoch, record.generation⟩ := by
  unfold WriterToken.passes
  constructor
  · intro passed
    cases asserted : assertWriter refKey stored token.writerId token.ownerEpoch
        token.generation with
    | error =>
      rw [asserted] at passed
      cases passed
    | ok record =>
      obtain ⟨safe, there, valid, key, generation, holder, held, writer, epoch⟩ :=
        assertWriter_eq_ok.mp asserted
      refine ⟨safe, record, holder, there, valid, key, held, ?_⟩
      rw [writer, epoch, generation]
  · rintro ⟨safe, record, holder, there, valid, key, held, rfl⟩
    have asserted : assertWriter refKey stored holder.writerId holder.ownerEpoch
        record.generation = .ok record :=
      assertWriter_eq_ok.mpr ⟨safe, there, valid, key, rfl, holder, held, rfl, rfl⟩
    rw [asserted]
    rfl

/-- **At most one token passes.** -/
theorem passes_unique {first second : WriterToken} (left : first.passes refKey stored = true)
    (right : second.passes refKey stored = true) : first = second := by
  obtain ⟨_, record, holder, rfl, _, _, held, rfl⟩ := passes_iff.mp left
  obtain ⟨_, _, _, ⟨⟩, _, _, again, rfl⟩ := passes_iff.mp right
  cases held.symm.trans again
  rfl

theorem generation_of_passes {token : WriterToken} (passed : token.passes refKey stored = true) :
    token.generation = bindingGeneration stored := by
  obtain ⟨_, record, holder, rfl, _, _, _, rfl⟩ := passes_iff.mp passed
  rfl

/-- **A token that was fenced out never passes again.** -/
theorem not_passes_of_generation_lt {before fenced : Option Registration} {token : WriterToken}
    (passed : token.passes refKey before = true)
    (moved : bindingGeneration before < bindingGeneration fenced)
    (later : List (RegistryCall × Text)) :
    token.passes refKey (exec (registryStep refKey) fenced later) = false := by
  rw [← Bool.not_eq_true]
  intro again
  have grown := bindingGeneration_exec refKey fenced later
  have old := generation_of_passes passed
  have new := generation_of_passes again
  omega

/-! ## Retired owner epochs -/

def presentsCurrent (stored : Option Registration) (call : RegistryCall × Text) (epoch : Text) :
    Bool :=
  match call.1, stored with
  | .claimWriter writerId ownerEpoch generation, some record =>
    ownerEpoch = epoch && (record.generation : ℤ) = generation &&
      matchesBoundedName "._:-".toList 127 writerId
  | _, _ => false

/-- The record is well formed and the epoch, which can be stored, does not hold its claim. -/
structure KeptOut (refKey epoch : Text) (stored : Option Registration) : Prop where
  safe : isLowerHexText 64 refKey = true
  sized : isSized 128 epoch = true
  record : ∃ record, stored = some record ∧ record.isValid = true ∧ record.refKey = refKey ∧
    ∀ holder ∈ record.writer, holder.ownerEpoch ≠ epoch

theorem isValid_claim (valid : record.isValid = true) {generation : ℕ} (positive : 1 ≤ generation)
    (claim : WriterClaim) (now : Text) :
    ({ record with
        generation
        writer := some claim
        updatedAt := now } : Registration).isValid = claim.isValid := by
  simp only [Registration.isValid, Bool.and_eq_true, decide_eq_true_eq] at valid
  simp only [Registration.isValid, valid, positive, decide_true, Bool.true_and, all_some]

namespace KeptOut

variable {refKey epoch : Text} {stored : Option Registration} {call : RegistryCall × Text}

/-- **A takeover keeps out the epoch whose claim it ends.** -/
theorem of_takeoverOf (taken : takeoverOf refKey stored call = some epoch) :
    KeptOut refKey epoch (registryStep refKey stored call) := by
  obtain ⟨record, next, holder, claim, rfl, held, rfl, after, holds, other, _, valid, key⟩ :=
    takeoverOf_eq_some taken
  obtain ⟨action, now⟩ := call
  cases action with
  | register | releaseWriter | assertWriter => cases taken
  | claimWriter writerId ownerEpoch generation =>
    cases answer : claimWriter refKey (some record) now writerId ownerEpoch generation with
    | error =>
      simp [takeoverOf, succeeds, RegistryCall.answer, answer, held, Except.isOk,
        Except.toBool] at taken
    | ok claimed =>
      obtain ⟨safe, _, ⟨⟩, before, _⟩ := claimWriter_eq_ok.mp answer
      refine ⟨safe, ?_, next, after, valid, key, ?_⟩
      · simp only [Registration.isValid, held, all_some, WriterClaim.isValid,
          Bool.and_eq_true] at before
        exact before.2.2
      rintro _ found
      rw [mem_def, holds] at found
      cases found
      exact other

theorem step (out : KeptOut refKey epoch stored)
    (refused : obtains refKey stored call epoch = false) :
    KeptOut refKey epoch (registryStep refKey stored call) := by
  obtain ⟨action, now⟩ := call
  rcases registryStep_cases refKey stored (action, now) with
    ⟨_, same⟩ | ⟨next, succeeded, after, change, valid, key⟩
  · rw [same]
    exact out
  · refine ⟨out.safe, out.sized, next, after, valid, key, ?_⟩
    obtain ⟨record, rfl, _, _, others⟩ := out.record
    cases change with
    | registered | reclaimed | unheld | asserted => exact others
    | superseded _ _ free | released free => rw [free]; nofun
    | claimed claim _ holds renewed _ | takenOver _ claim _ _ holds renewed _ =>
      rw [holds]
      rintro _ ⟨⟩
      simp only [obtains, succeeded, Bool.and_true, decide_eq_false_iff_not] at refused
      exact renewed ▸ refused

theorem claims_iff (out : KeptOut refKey epoch stored) (valid : record.isValid = true)
    (key : record.refKey = refKey) (others : ∀ holder ∈ record.writer, holder.ownerEpoch ≠ epoch)
    {now : Text} :
    (∃ next, claimWriter refKey (some record) now writerId epoch generation = .ok next) ↔
      (record.generation : ℤ) = generation ∧
        matchesBoundedName "._:-".toList 127 writerId = true := by
  have positive : 1 ≤ record.generation := by
    simp only [Registration.isValid, Bool.and_eq_true, decide_eq_true_eq] at valid
    exact valid.1.1.2
  have storable : ∀ moved, 1 ≤ moved → ((∃ next, storeRegistration
      { record with
        generation := moved
        writer := some ⟨writerId, epoch, now⟩ } now = .ok next) ↔
          matchesBoundedName "._:-".toList 127 writerId = true) := by
    intro moved positive
    simp only [storeRegistration_eq_ok, exists_and_left, exists_eq, and_true]
    rw [isValid_claim valid positive, WriterClaim.isValid, out.sized, Bool.and_true]
  simp only [claimWriter_eq_ok, out.safe, true_and, Option.some.injEq]
  constructor
  · rintro ⟨next, _, rfl, _, _, generation, rest⟩
    refine ⟨generation, ?_⟩
    cases held : record.writer with
    | none =>
      rw [held] at rest
      exact (storable record.generation positive).mp ⟨next, rest⟩
    | some holder =>
      simp only [held, others holder held, if_false] at rest
      exact (storable _ (Nat.succ_pos _)).mp ⟨next, rest⟩
  · rintro ⟨generation, named⟩
    cases held : record.writer with
    | none =>
      obtain ⟨next, done⟩ := (storable record.generation positive).mpr named
      refine ⟨next, record, rfl, valid, key, generation, ?_⟩
      rw [held]
      exact done
    | some holder =>
      obtain ⟨next, done⟩ := (storable _ (Nat.succ_pos record.generation)).mpr named
      refine ⟨next, record, rfl, valid, key, generation, ?_⟩
      simp only [held, others holder held, if_false]
      exact done

/-- **An epoch that is kept out obtains the claim exactly by presenting the generation.** -/
theorem obtains_eq (out : KeptOut refKey epoch stored) (call : RegistryCall × Text) :
    obtains refKey stored call epoch = presentsCurrent stored call epoch := by
  obtain ⟨action, now⟩ := call
  obtain ⟨record, rfl, valid, key, others⟩ := out.record
  cases action with
  | register | releaseWriter | assertWriter => rfl
  | claimWriter writerId ownerEpoch generation =>
    by_cases same : ownerEpoch = epoch
    · subst same
      have claimed : succeeds refKey (some record) (.claimWriter writerId ownerEpoch generation,
          now) = true ↔ (record.generation : ℤ) = generation ∧
            matchesBoundedName "._:-".toList 127 writerId = true := by
        rw [succeeds_iff]
        exact out.claims_iff valid key others
      rw [Bool.eq_iff_iff]
      simp only [obtains, presentsCurrent, decide_true, Bool.true_and, Bool.and_eq_true,
        decide_eq_true_eq]
      exact claimed
    · simp [obtains, presentsCurrent, same]

end KeptOut

/-! ## Whole runs -/

/-- After the claim of an epoch was taken over, every call of the run meets the condition for that
epoch. -/
def AfterTakeovers (refKey : Text) (start : Option Registration)
    (calls : List (RegistryCall × Text))
    (condition : Option Registration → RegistryCall × Text → Text → Prop) : Prop :=
  ∀ before takeover later epoch, calls = before ++ takeover :: later →
    takeoverOf refKey (exec (registryStep refKey) start before) takeover = some epoch →
      Admissible (registryStep refKey) (fun stored call => condition stored call epoch)
        (exec (registryStep refKey) start (before ++ [takeover])) later

/-- **Writer fencing.**  In every run the generation never decreases and grows with every
supersession and takeover, at most one token passes the check, and a token that passed before a
supersession or takeover never passes again.  A retired epoch never obtains the claim again exactly
in the runs in which it never presents the generation of the binding. -/
theorem writer_fencing (refKey : Text) (start : Option Registration)
    (calls : List (RegistryCall × Text)) :
    bindingGeneration start ≤ bindingGeneration (exec (registryStep refKey) start calls) ∧
    (∀ before call later, calls = before ++ call :: later →
      let stored := exec (registryStep refKey) start before
      supersedes refKey stored call = true ∨ (takeoverOf refKey stored call).isSome = true →
        bindingGeneration stored < bindingGeneration (registryStep refKey stored call) ∧
        ∀ token : WriterToken, token.passes refKey stored = true →
          token.passes refKey (exec (registryStep refKey) start calls) = false) ∧
    (∀ first second : WriterToken,
      first.passes refKey (exec (registryStep refKey) start calls) = true →
      second.passes refKey (exec (registryStep refKey) start calls) = true → first = second) ∧
    (AfterTakeovers refKey start calls
        (fun stored call epoch => obtains refKey stored call epoch = false) ↔
      AfterTakeovers refKey start calls
        (fun stored call epoch => presentsCurrent stored call epoch = false)) := by
  refine ⟨bindingGeneration_exec refKey start calls, ?_, fun _ _ => passes_unique, ?_⟩
  · rintro before call later rfl stored fenced
    have moved : bindingGeneration stored < bindingGeneration (registryStep refKey stored call) :=
      fenced.elim generation_lt_of_supersedes generation_lt_of_takeoverOf
    refine ⟨moved, fun token passed => ?_⟩
    rw [exec_append, exec_cons]
    exact not_passes_of_generation_lt passed moved later
  · refine forall₄_congr fun before takeover later epoch => ?_
    refine forall₂_congr fun _ taken => ?_
    rw [exec_append, exec_cons, exec_nil]
    refine admissible_congr (fun stored call out => out.step) (fun stored call out => ?_)
      (KeptOut.of_takeoverOf taken) later
    have same := out.obtains_eq call
    exact ⟨fun refused => same.symm.trans refused, fun stale => same.trans stale⟩

/-! A retired owner that presents the generation of its successor takes the claim back. -/

section Retired

private def sampleKey : Text := List.replicate 64 'a'

private def sampleBasis : OrderedDict Text Text :=
  .ofList [("evidence-id".toList, "qe_".toList ++ List.replicate 24 'a'),
    ("executable-digest".toList, "sha256:".toList ++ List.replicate 64 'a'),
    ("executable-version".toList, "0.165.0".toList), ("instance-generation".toList, "g1".toList)]

private def sampleTime : Text := "2026-10-29T00:00:00Z".toList

/-- Registered, claimed under `e1`, taken over under `e2` and taken back under `e1`. -/
private def sampleCalls : List (RegistryCall × Text) :=
  [(.register "codex".toList "codex-app-server".toList "loc-1".toList sampleBasis, sampleTime),
    (.claimWriter "gw".toList "e1".toList 1, sampleTime),
    (.claimWriter "gw".toList "e2".toList 1, sampleTime),
    (.claimWriter "gw".toList "e1".toList 2, sampleTime)]

theorem retired_epoch_claims_again :
    ¬ ∀ (refKey : Text) (start : Option Registration) (calls : List (RegistryCall × Text)),
      AfterTakeovers refKey start calls
        (fun stored call epoch => obtains refKey stored call epoch = false) := by
  intro claimed
  have later := claimed sampleKey none sampleCalls (sampleCalls.take 2)
    (.claimWriter "gw".toList "e2".toList 1, sampleTime) (sampleCalls.drop 3) "e1".toList rfl
    (by decide +kernel)
  revert later
  decide +kernel

end Retired

end Audiagentic.Session
