import Audiagentic.Management.OperationRuns

/-!
# What the history of management operations shows

Every record of an operation has a later revision than the one before, so that a claim is known by
its revision; an execution follows its claim at once, so that no claim is executed twice; and an
operation that ended is never written again.
-/

namespace Audiagentic.Management

open Foundations List

variable {host : OperationHost}

/-! ## Successive records -/

structure Operation.Follows (operation held : Operation) : Prop where
  isOpen : held.state.isTerminal = false
  revision : operation.revision = held.revision + 1
  intent : operation.intent = held.intent
  intentDigest : operation.intentDigest = held.intentDigest
  /-- Nothing but the end of the operation has a result or an error. -/
  outcome : operation.state.isTerminal = false →
    operation.result = held.result ∧ operation.error = held.error

variable {operation : Operation} {before : List OperationEffect} {effect : OperationEffect}

/-- A record is the first one of its operation, or follows on the one in the directory. -/
theorem Justified.written (justified : Justified host before effect)
    (written : effect.written? = some operation) :
    ((replay before).get? operation.operationId = some none ∧
        operation = newOperation host operation.operationId operation.intent) ∨
      ∃ held, (replay before).get? operation.operationId = some (some held) ∧
        operation.Follows held := by
  cases effect with
  | lock | execute => cases written
  | accept accepted =>
    cases written
    exact .inl justified
  | claim ownerEpoch claimed =>
    cases written
    obtain ⟨held, there, accepted, same⟩ := justified
    refine .inr ⟨held, there, by rw [accepted]; rfl, ?_, ?_, ?_, fun _ => ⟨?_, ?_⟩⟩ <;>
      · rw [same]
        rfl
  | finish ownerEpoch finished =>
    cases written
    obtain ⟨held, outcome, there, running, -, same⟩ := justified
    have ended : operation.state.isTerminal = true := by
      rw [same]
      cases outcome <;> rfl
    refine .inr ⟨held, there, by rw [running]; rfl, ?_, ?_, ?_, fun isOpen => ?_⟩
    · rw [same]
      rfl
    · rw [same]
      rfl
    · rw [same]
      rfl
    · rw [ended] at isOpen
      cases isOpen
  | requeue ownerEpoch requeued =>
    cases written
    obtain ⟨held, there, running, -, same⟩ := justified
    refine .inr ⟨held, there, by rw [running]; rfl, ?_, ?_, ?_, fun _ => ⟨?_, ?_⟩⟩ <;>
      · rw [same]
        rfl

variable {operationId : OperationId}

theorem Justified.stays (justified : Justified host before effect)
    (there : (replay before).get? operationId = some (some operation))
    (elsewhere : ∀ record, effect.written? = some record → record.operationId ≠ operationId) :
    ((replay before).apply effect).get? operationId = some (some operation) := by
  cases record : effect.written? with
  | some latest =>
    rw [OperationStore.get?_apply_written record]
    exact (if_neg fun same => elsewhere latest record same.symm).trans there
  | none =>
    cases effect with
    | lock other =>
      have absent : (replay before).get? other = none := justified
      have different : operationId ≠ other := by
        rintro rfl
        rw [absent] at there
        cases there
      exact (OrderedDict.get?_set_of_ne _ different _).trans there
    | execute _ _ => exact there
    | accept | claim | finish | requeue => cases record

variable {effects : List OperationEffect}

theorem revision_le (guarded : Guarded (Justified host) effects) (made : effect ∈ effects)
    (written : effect.written? = some operation) :
    ∃ held, (replay effects).get? operation.operationId = some (some held) ∧
      operation.revision ≤ held.revision := by
  induction effects using List.reverseRecOn with
  | nil => cases made
  | append_singleton effects last ih =>
    obtain ⟨earlier, justified⟩ := guarded_append_singleton.mp guarded
    rw [replay_concat]
    rcases mem_append.mp made with old | new
    · obtain ⟨held, there, before⟩ := ih earlier old
      by_cases rewritten :
          ∃ record, last.written? = some record ∧ record.operationId = operation.operationId
      · obtain ⟨latest, record, same⟩ := rewritten
        rw [OperationStore.get?_apply_written record, if_pos same.symm]
        refine ⟨latest, rfl, ?_⟩
        obtain ⟨bare, -⟩ | ⟨other, found, follows⟩ := justified.written record
        · rw [same, there] at bare
          cases bare
        rw [same, there] at found
        cases found
        rw [follows.revision]
        exact before.trans (Nat.le_succ _)
      · refine ⟨held, justified.stays there fun record latest same => ?_, before⟩
        exact rewritten ⟨record, latest, same⟩
    · cases mem_singleton.mp new
      rw [OperationStore.get?_apply_written written, if_pos rfl]
      exact ⟨operation, rfl, le_refl _⟩

/-! ## Claims and executions -/

def claims (effects : List OperationEffect) : List (OperationId × String × ℕ) :=
  effects.filterMap fun
    | .claim ownerEpoch operation => some (operation.operationId, ownerEpoch, operation.revision)
    | _ => none

def executions (effects : List OperationEffect) : List (OperationId × String × ℕ) :=
  effects.filterMap fun
    | .execute ownerEpoch operation => some (operation.operationId, ownerEpoch, operation.revision)
    | _ => none

theorem claims_nodup (guarded : Guarded (Justified host) effects) : (claims effects).Nodup := by
  induction effects using List.reverseRecOn with
  | nil => exact nodup_nil
  | append_singleton effects last ih =>
    obtain ⟨earlier, justified⟩ := guarded_append_singleton.mp guarded
    have nodup := ih earlier
    rw [claims, filterMap_append]
    cases last with
    | claim ownerEpoch operation =>
      refine nodup_snoc nodup fun listed => ?_
      obtain ⟨effect, made, same⟩ := mem_filterMap.mp listed
      cases effect with
      | claim epoch claimed =>
        obtain ⟨id, -, revision⟩ : claimed.operationId = operation.operationId ∧
            epoch = ownerEpoch ∧ claimed.revision = operation.revision := by
          simpa using same
        obtain ⟨held, there, before⟩ := revision_le earlier made rfl
        obtain ⟨bare, -⟩ | ⟨other, found, follows⟩ := justified.written rfl
        · rw [← id, there] at bare
          cases bare
        rw [← id, there] at found
        cases found
        have later := follows.revision
        omega
      | _ => cases same
    | lock | accept | execute | finish | requeue =>
      exact (append_nil (claims effects)).symm ▸ nodup

/-- **Every execution is for a claim of its own.** -/
theorem executions_sublist_claims (guarded : Guarded (Justified host) effects) :
    (executions effects).Sublist (claims effects) := by
  -- an execution is paired with the effect before it, so that the induction needs both
  have both : (executions effects).Sublist (claims effects) ∧
      (executions effects.dropLast).Sublist (claims effects.dropLast) := by
    induction effects using List.reverseRecOn with
    | nil => exact ⟨List.Sublist.slnil, List.Sublist.slnil⟩
    | append_singleton effects last ih =>
      obtain ⟨earlier, justified⟩ := guarded_append_singleton.mp guarded
      obtain ⟨whole, without⟩ := ih earlier
      rw [dropLast_concat]
      refine ⟨?_, whole⟩
      rw [executions, claims, filterMap_append, filterMap_append]
      cases last with
      | execute ownerEpoch operation =>
        have claimed : effects.getLast? = some (.claim ownerEpoch operation) := justified
        obtain ⟨others, rfl⟩ := getLast?_eq_some_iff.mp claimed
        rw [dropLast_concat] at without
        rw [filterMap_append, filterMap_append]
        have ends := without.append (List.Sublist.refl
          [(operation.operationId, ownerEpoch, operation.revision)])
        simpa [executions, claims] using ends
      | claim | lock | accept | finish | requeue =>
        exact whole.append (nil_sublist _)
  exact both.1

/-! ## Operations that ended -/

theorem Justified.ne_of_terminal {ended : Operation} (justified : Justified host before effect)
    (there : (replay before).get? operationId = some (some ended))
    (terminal : ended.state.isTerminal = true) (written : effect.written? = some operation) :
    operation.operationId ≠ operationId := by
  rintro rfl
  obtain ⟨bare, -⟩ | ⟨held, found, follows⟩ := justified.written written
  · rw [there] at bare
    cases bare
  · cases there.symm.trans found
    rw [follows.isOpen] at terminal
    cases terminal

/-- **An operation that ended never changes.** -/
theorem terminal_stays {after : List OperationEffect}
    (guarded : Guarded (Justified host) (before ++ after))
    (there : (replay before).get? operationId = some (some operation))
    (terminal : operation.state.isTerminal = true) :
    (replay (before ++ after)).get? operationId = some (some operation) ∧
      ∀ effect ∈ after, ∀ record, effect.written? = some record →
        record.operationId ≠ operationId := by
  induction after using List.reverseRecOn with
  | nil =>
    rw [append_nil]
    exact ⟨there, fun _ none => by cases none⟩
  | append_singleton after last ih =>
    rw [← append_assoc] at guarded ⊢
    obtain ⟨earlier, justified⟩ := guarded_append_singleton.mp guarded
    obtain ⟨stayed, elsewhere⟩ := ih earlier
    have here : ∀ record, last.written? = some record → record.operationId ≠ operationId :=
      fun _ written => justified.ne_of_terminal stayed terminal written
    rw [replay_concat]
    refine ⟨justified.stays stayed here, ?_⟩
    exact forall_mem_snoc elsewhere here

/-! ## Records in the store -/

/-- What holds of a record in the store. -/
structure Operation.Consistent (host : OperationHost) (effects : List OperationEffect)
    (operation : Operation) : Prop where
  intentDigest : operation.intentDigest = host.intentDigest operation.intent
  outcome : operation.state.isTerminal = false → operation.result = none ∧ operation.error = none
  ended : operation.state.isTerminal = true → ∃ ownerEpoch, .finish ownerEpoch operation ∈ effects

theorem consistent_of_replay (guarded : Guarded (Justified host) effects)
    (there : (replay effects).get? operationId = some (some operation)) :
    operation.Consistent host effects := by
  induction effects using List.reverseRecOn generalizing operationId operation with
  | nil => cases there
  | append_singleton effects last ih =>
    obtain ⟨earlier, justified⟩ := guarded_append_singleton.mp guarded
    have old : (replay effects).get? operationId = some (some operation) →
        operation.Consistent host (effects ++ [last]) := by
      intro before
      have consistent := ih earlier before
      refine ⟨consistent.intentDigest, consistent.outcome, fun terminal => ?_⟩
      obtain ⟨ownerEpoch, made⟩ := consistent.ended terminal
      exact ⟨ownerEpoch, mem_append_left _ made⟩
    rw [replay_concat] at there
    cases written : last.written? with
    | none => exact old (OperationStore.get?_apply_unwritten written there)
    | some record =>
      rw [OperationStore.get?_apply_written written] at there
      split at there
      next =>
        cases there
        refine ⟨?_, ?_, ?_⟩
        · obtain ⟨-, same⟩ | ⟨held, found, follows⟩ := justified.written written
          · rw [same]
            rfl
          · rw [follows.intentDigest, follows.intent]
            exact (ih earlier found).intentDigest
        · intro isOpen
          obtain ⟨-, same⟩ | ⟨held, found, follows⟩ := justified.written written
          · rw [same]
            exact ⟨rfl, rfl⟩
          · obtain ⟨result, error⟩ := follows.outcome isOpen
            rw [result, error]
            exact (ih earlier found).outcome follows.isOpen
        · intro terminal
          cases last with
          | lock | execute => cases written
          | accept _ =>
            cases written
            rw [justified.2] at terminal
            cases terminal
          | claim _ _ =>
            cases written
            obtain ⟨held, -, -, same⟩ := justified
            rw [same] at terminal
            cases terminal
          | finish ownerEpoch _ =>
            cases written
            exact ⟨ownerEpoch, mem_append_right _ (mem_singleton.mpr rfl)⟩
          | requeue _ _ =>
            cases written
            obtain ⟨held, -, -, -, same⟩ := justified
            rw [same] at terminal
            cases terminal
      next => exact old there

/-- **What every run keeps**, also one that leaves a directory without a record. -/
theorem operations_of_every_run (host : OperationHost) (calls : List (ManagementCall × Option ℕ)) :
    let tape := exec (managementStep host) ⟨[], ∅⟩ calls
    (claims tape.writes).Nodup ∧ (executions tape.writes).Sublist (claims tape.writes) ∧
      (∀ before after, tape.writes = before ++ after → ∀ operationId operation,
        (replay before).get? operationId = some (some operation) →
          operation.state.isTerminal = true →
            tape.store.get? operationId = some (some operation)) ∧
      ∀ operationId operation, tape.store.get? operationId = some (some operation) →
        operation.Consistent host tape.writes := by
  intro tape
  have sound : Sound host tape := exec_invariant (fun _ call holds => holds.step call) sound_empty
    calls
  refine ⟨claims_nodup sound.justified, executions_sublist_claims sound.justified, ?_, ?_⟩
  · intro before after split operationId operation there ended
    have guarded := sound.justified
    rw [split] at guarded
    rw [sound.store, split]
    exact (terminal_stays guarded there ended).1
  · exact fun _ _ there => consistent_of_replay sound.justified (sound.held there).1

end Audiagentic.Management
