import Audiagentic.Events.SpoolConservation

/-!
# The order of a sweep

`consume` goes through the sorted listing of the pending files.  Their names have one length, so
this is the order of the event ids.  A failure that leaves the event to be tried again is the
last call of its sweep.
-/

namespace Audiagentic.Events

open Foundations List

variable {Payload : Type}

def HandlerCall.Transient (transport : Transport) (call : HandlerCall) : Prop :=
  call.outcome = .error ∧ call.attempts + 1 < transport.maxAttempts

namespace Position

/-- The events that the current sweep may still hand to the handler. -/
def upcoming : Position Payload → List EventId
  | sweeping sweep | acknowledging _ sweep | retrying _ _ sweep | burying _ sweep
  | dropping _ sweep => sweep.rest
  | handling id _ sweep => id :: sweep.rest
  | _ => []

def Ending (transport : Transport) : Position Payload → Prop
  | retrying _ record _ => record.attempts < transport.maxAttempts
  | idle | replaying _ _ _ | unlinkingSource _ => True
  | _ => False

end Position

/-- The calls of a sweep go by event id, what is left comes after them, and a transient failure
is the last of them. -/
structure Spool.Ordered (transport : Transport) (spool : Spool Payload) : Prop where
  increasing : spool.sweepCalls.Pairwise (·.id < ·.id)
  sorted : spool.position.upcoming.Pairwise (· < ·)
  ahead : ∀ call ∈ spool.sweepCalls, ∀ id ∈ spool.position.upcoming, call.id < id
  last : ∀ before call after, spool.sweepCalls = before ++ call :: after →
    call.Transient transport → after = [] ∧ spool.position.Ending transport

namespace Spool

instance : IsTrans EventId EventId.PathLe where
  trans _ _ _ := le_trans

instance : Std.Total EventId.PathLe where
  total _ _ := le_total _ _

theorem pendingIds_sorted (files : SpoolFiles Payload) : files.pendingIds.Pairwise (· < ·) := by
  have sorted : files.pendingIds.Pairwise EventId.PathLe := pairwise_insertionSort _ _
  have distinct : files.pendingIds.Nodup := by
    refine (perm_insertionSort _ _).nodup_iff.mpr ?_
    refine List.Nodup.filterMap ?_ files.keys_nodup
    rintro (first | first) (second | second) id here there <;> simp_all
  refine (sorted.and distinct).imp ?_
  rintro first second ⟨le, different⟩
  rw [← EventId.fileName_lt_iff]
  exact lt_of_le_of_ne le fun same => different (EventId.fileName_injective same)

variable {transport : Transport} {spool : Spool Payload}

section

variable (holds : Ordered transport spool)
include holds

/-- The consumer moves on without a call, and with nothing more to hand over. -/
theorem Ordered.move {next : Spool Payload} (calls : next.sweepCalls = spool.sweepCalls)
    (upcoming : next.position.upcoming.Sublist spool.position.upcoming)
    (ending : spool.position.Ending transport → next.position.Ending transport) :
    Ordered transport next := by
  refine ⟨calls ▸ holds.increasing, holds.sorted.sublist upcoming, ?_, ?_⟩
  · intro call member id later
    exact holds.ahead call (calls ▸ member) id (upcoming.subset later)
  · intro before call after split transient
    obtain ⟨nothing, ends⟩ := holds.last before call after (calls ▸ split) transient
    exact ⟨nothing, ending ends⟩

theorem Ordered.consume (limit : Option Int) :
    Ordered transport (spool.consume limit) := by
  unfold Spool.consume
  split
  · refine ⟨List.Pairwise.nil, pendingIds_sorted spool.files, ?_, ?_⟩
    · intro call member
      cases member
    · intro before call after split
      cases before <;> cases split
  · exact holds

theorem Ordered.replayDeadLetter (eventId : List Char) :
    Ordered transport (spool.replayDeadLetter transport eventId) := by
  unfold Spool.replayDeadLetter
  split
  · split
    · exact holds
    · exact holds.move rfl (nil_sublist _) (fun _ => trivial)
  · exact holds

/-- The handler is called for the next event; only a call that is not transient lets the sweep
go on. -/
theorem Ordered.handled (outcome : Outcome) :
    Ordered transport (spool.handled outcome) := by
  unfold Spool.handled
  split
  next id record sweep at_ =>
    have upcoming : spool.position.upcoming = id :: sweep.rest := by rw [at_]; rfl
    have sorted := holds.sorted
    have ahead := holds.ahead
    rw [upcoming, pairwise_cons] at sorted
    rw [upcoming] at ahead
    have none_transient : ∀ call ∈ spool.sweepCalls, ¬ call.Transient transport := by
      intro call member transient
      obtain ⟨before, after, split⟩ := append_of_mem member
      have ends := (holds.last before call after split transient).2
      rw [at_] at ends
      exact ends
    refine ⟨?_, ?_, ?_, ?_⟩
    · rw [pairwise_append]
      refine ⟨holds.increasing, pairwise_singleton _ _, ?_⟩
      intro call member new newMember
      rw [mem_singleton.mp newMember]
      exact ahead call member id mem_cons_self
    · cases outcome <;> exact sorted.2
    · have later : ∀ call ∈ spool.sweepCalls ++ [⟨id, record.attempts, outcome⟩],
          ∀ other ∈ sweep.rest, call.id < other :=
        forall_mem_snoc (fun call before other rest =>
          ahead call before other (mem_cons_of_mem _ rest)) sorted.1
      cases outcome <;> exact later
    · intro before call after split transient
      rcases after.eq_nil_or_concat with rfl | ⟨init, newest, rfl⟩
      · have new := singleton_inj.mp (append_inj' split rfl).2
        subst new
        obtain ⟨rfl, below⟩ := transient
        exact ⟨rfl, below⟩
      · -- Another call follows, so this one was there before.
        rw [concat_eq_append, ← cons_append, ← append_assoc] at split
        have earlier := (append_inj' split rfl).1
        exact absurd transient (none_transient call (by simp [earlier]))
  · exact holds

theorem Ordered.nextPath {sweep : Sweep} (at_ : spool.position = .sweeping sweep) (fails : Bool) :
    Ordered transport (spool.nextPath sweep fails) := by
  have upcoming : spool.position.upcoming = sweep.rest := by rw [at_]; rfl
  have running : ¬ spool.position.Ending transport := by rw [at_]; exact id
  unfold Spool.nextPath
  split
  · exact holds.move rfl (nil_sublist _) (fun _ => trivial)
  next id rest shape =>
    rw [shape] at upcoming
    split
    · exact holds.move rfl (nil_sublist _) (fun _ => trivial)
    split
    · refine holds.move rfl ?_ fun ends => absurd ends running
      rw [upcoming]
      exact sublist_cons_self id rest
    · refine holds.move rfl ?_ fun ends => absurd ends running
      rw [upcoming]
      exact List.Sublist.refl _

theorem Ordered.proceed (fails : Bool) :
    Ordered transport (spool.proceed transport fails) := by
  unfold Spool.proceed
  cases at_ : spool.position with
  | idle | handling => exact holds
  | sweeping sweep => exact holds.nextPath at_ fails
  | acknowledging | burying | dropping =>
    dsimp only
    split <;> exact holds.move rfl (by rw [at_]; exact List.Sublist.refl _)
        (by simp [at_, Position.Ending])
  | retrying id record sweep =>
    dsimp only
    split
    · exact holds.move rfl (nil_sublist _) (fun _ => trivial)
    split
    next exhausted =>
      refine holds.move rfl (by rw [at_]; exact List.Sublist.refl _) ?_
      intro ends
      rw [at_] at ends
      exact absurd exhausted (Nat.not_le.mpr ends)
    · exact holds.move rfl (nil_sublist _) (fun _ => trivial)
  | replaying source target record =>
    dsimp only
    split
    · exact holds.move rfl (nil_sublist _) (fun _ => trivial)
    · split <;> exact holds.move rfl (nil_sublist _) (fun _ => trivial)
  | unlinkingSource source =>
    dsimp only
    split <;> exact holds.move rfl (nil_sublist _) (fun _ => trivial)

end

theorem Ordered.step (transport : Transport) (spool : Spool Payload)
    (action : SpoolAction Payload) (holds : Ordered transport spool) :
    Ordered transport (spool.step transport action) := by
  cases action with
  | publish id topic payload metadata publishedAt fails =>
    simp only [Spool.step, Spool.publish]
    split
    · exact holds
    · split
      · exact holds
      · exact holds.move rfl (List.Sublist.refl _) (fun ends => ends)
  | consume limit => exact holds.consume limit
  | replayDeadLetter eventId fails =>
    simp only [Spool.step]
    split
    · exact holds
    · exact holds.replayDeadLetter eventId
  | proceed fails => exact holds.proceed fails
  | handled outcome => exact holds.handled outcome
  | crash => exact holds.move rfl (nil_sublist _) (fun _ => trivial)

end Spool

end Audiagentic.Events
