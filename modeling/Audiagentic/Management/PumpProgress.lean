import Audiagentic.Management.OperationHistory

/-!
# What the pump reaches

`run_once` takes back the claims of other owners, and then claims, executes and ends the first
operations that are accepted.  The sweep stops at a directory without a record, while the listing
passes over it; so that the pump reaches its operations exactly when every directory has a record.
-/

namespace Audiagentic.Management

open Foundations List OrderedDict Script Option

/-! ## Stores of records -/

/-- No directory is without a record. -/
def Recorded (store : OperationStore) : Prop := ∀ operationId, store.get? operationId ≠ some none

def Keyed (store : OperationStore) : Prop :=
  ∀ operationId operation, store.get? operationId = some (some operation) →
    operation.operationId = operationId

structure Orderly (store : OperationStore) : Prop where
  recorded : Recorded store
  keyed : Keyed store

variable {tape : OperationTape}

theorem Sound.orderly {host : OperationHost} (sound : Sound host tape)
    (recorded : Recorded tape.store) : Orderly tape.store :=
  ⟨recorded, fun _ _ there => (sound.held there).2⟩

variable {store : OperationStore} {operationId : OperationId}

theorem Orderly.exists_operation (orderly : Orderly store) {held : Option Operation}
    (there : store.get? operationId = some held) :
    ∃ operation, store.get? operationId = some (some operation) ∧
      operation.operationId = operationId := by
  cases held with
  | none => exact absurd there (orderly.recorded operationId)
  | some operation => exact ⟨operation, there, orderly.keyed operationId operation there⟩

theorem Orderly.set (orderly : Orderly store) (operation : Operation) :
    Orderly (store.set operation.operationId (some operation)) where
  recorded operationId bare := by
    rw [get?_set] at bare
    split at bare
    · cases bare
    · exact orderly.recorded operationId bare
  keyed operationId other there := by
    rw [get?_set] at there
    split at there
    next same =>
      cases there
      exact same.symm
    next => exact orderly.keyed operationId other there

theorem keys_set_of_has {held : Option Operation} (there : store.get? operationId = some held)
    (record : Option Operation) : (store.set operationId record).keys = store.keys := by
  have listed : operationId ∈ store.keys := OrderedDict.mem_keys_iff.mpr ⟨held, there⟩
  exact (keys_setEntries operationId record store.entries).trans (if_pos listed)

theorem mem_sortedIds : operationId ∈ sortedIds store ↔ (store.get? operationId).isSome = true := by
  rw [sortedIds, mem_insertionSort, OrderedDict.mem_keys_iff, isSome_iff_exists]

theorem nodup_sortedIds (store : OperationStore) : (sortedIds store).Nodup :=
  (perm_insertionSort _ _).nodup_iff.mpr store.nodup

/-- From one tape to another, through stores of records only. -/
abbrev PassesOrderly (first second : OperationTape) : Prop :=
  Passes OperationStore.apply (fun tape => Orderly tape.store) first second

/-! ## Taking back -/

variable {ownerEpoch : String}

section Sweep

variable (host : OperationHost)

def Operation.isStale (ownerEpoch : String) (operation : Operation) : Bool :=
  decide (operation.state = .running ∧ operation.ownerEpoch ≠ some ownerEpoch)

def Operation.swept (ownerEpoch : String) (operation : Operation) : Operation :=
  if operation.isStale ownerEpoch then operation.requeued host else operation

theorem run_requeue_of_recorded (orderly : Orderly tape.store) (ownerEpoch : String)
    {operation : Operation} (there : tape.store.get? operationId = some (some operation)) :
    ∃ after, (requeue host ownerEpoch operationId).run tape = (.ok (), after) ∧
      PassesOrderly tape after ∧ after.store.keys = tape.store.keys ∧
      ∀ other, after.store.get? other =
        if other = operationId then some (some (operation.swept host ownerEpoch))
        else tape.store.get? other := by
  have run := run_requeue host ownerEpoch operationId tape
  rw [there] at run
  have named := orderly.keyed operationId operation there
  by_cases stale : operation.state = .running ∧ operation.ownerEpoch ≠ some ownerEpoch
  · simp only [if_pos stale] at run
    have swept : operation.swept host ownerEpoch = operation.requeued host :=
      if_pos (decide_eq_true stale)
    refine ⟨_, run, .write _ (.refl orderly) (orderly.set (operation.requeued host)), ?_, ?_⟩
    · change (tape.store.set operation.operationId _).keys = _
      rw [named]
      exact keys_set_of_has there _
    · intro other
      change (tape.store.set operation.operationId _).get? other = _
      rw [get?_set, swept, named]
  · simp only [if_neg stale] at run
    have kept : operation.swept host ownerEpoch = operation :=
      if_neg (by rw [Operation.isStale, decide_eq_true_eq]; exact stale)
    refine ⟨_, run, .refl orderly, rfl, ?_⟩
    intro other
    rw [kept]
    split
    next same => rw [same, there]
    next => rfl

/-- **The sweep** takes back the claims of other owners in the directories it goes through. -/
theorem run_sweep (orderly : Orderly tape.store) (ownerEpoch : String) {ids : List OperationId}
    (listed : ∀ operationId ∈ ids,
      (tape.store.get? operationId).isSome = true) (nodup : ids.Nodup) :
    ∃ after, (Script.forEach (requeue host ownerEpoch) ids).run tape = (.ok (), after) ∧
      PassesOrderly tape after ∧ after.store.keys = tape.store.keys ∧
      ∀ other, after.store.get? other =
        if other ∈ ids then
          (tape.store.get? other).map (Option.map fun operation => operation.swept host ownerEpoch)
        else tape.store.get? other := by
  induction ids generalizing tape with
  | nil => exact ⟨tape, rfl, .refl orderly, rfl, fun _ => rfl⟩
  | cons operationId ids ih =>
    obtain ⟨here, later⟩ := forall_mem_cons.mp listed
    obtain ⟨fresh, nodup⟩ := nodup_cons.mp nodup
    obtain ⟨held, found⟩ := isSome_iff_exists.mp here
    obtain ⟨operation, there, -⟩ := orderly.exists_operation found
    obtain ⟨middle, first, passes, keys, store⟩ :=
      run_requeue_of_recorded host orderly ownerEpoch there
    have still : ∀ other ∈ ids, (middle.store.get? other).isSome = true := by
      intro other member
      have different : other ≠ operationId := by
        rintro rfl
        exact fresh member
      rw [store, if_neg different]
      exact later other member
    obtain ⟨after, rest, more, kept, swept⟩ := ih passes.last still nodup
    refine ⟨after, (run_bind_of_ok first).trans rest, passes.trans more, kept.trans keys, ?_⟩
    intro other
    rw [swept, store]
    by_cases same : other = operationId
    · rw [same, if_neg fresh, if_pos rfl, if_pos (mem_cons_self), there]
      rfl
    rw [if_neg same]
    by_cases member : other ∈ ids
    · rw [if_pos member, if_pos (mem_cons_of_mem _ member)]
    · rw [if_neg member, if_neg (fun listed => (mem_cons.mp listed).elim same member)]

theorem recorded_of_run_sweep {after : OperationTape} (sound : Sound host tape)
    {ids : List OperationId}
    (swept : (Script.forEach (requeue host ownerEpoch) ids).run tape = (.ok (), after)) :
    ∀ operationId ∈ ids, tape.store.get? operationId ≠ some none := by
  induction ids generalizing tape with
  | nil => exact fun _ none => by cases none
  | cons operationId ids ih =>
    obtain ⟨⟨⟩, middle, first, rest⟩ := Script.bind_eq_ok.mp swept
    have soundly := (walks_requeue ownerEpoch operationId tape sound).1.last
    rw [first] at soundly
    have later := ih soundly rest
    rw [run_requeue] at first
    refine forall_mem_cons.mpr ⟨?_, ?_⟩
    · intro bare
      rw [bare] at first
      cases first
    intro other member bare
    refine later other member ?_
    split at first
    next operation there =>
      split at first
      · cases first
        have different : other ≠ operation.operationId := by
          rintro rfl
          rw [(sound.held there).2, there] at bare
          cases bare
        exact (get?_set_of_ne _ different _).trans bare
      · cases first
        exact bare
    · cases first
    · cases first

end Sweep

/-! ## Dispatching -/

section Dispatch

variable (host : OperationHost)

theorem finishOutcome_fail (code : Text) (stated : code ≠ []) :
    finishOutcome .none [(some "code".toList, .scalar (.str code))] =
      .ok (.inr ⟨code, stated⟩) := by
  have valid : "code".toList = "code".toList ∧ code ≠ [] := ⟨rfl, stated⟩
  change (validateError [(some "code".toList, .scalar (.str code))]).map Sum.inr = _
  rw [validateError, dif_pos valid]
  rfl

theorem run_outcome (tape : OperationTape) {held : Operation}
    (there : tape.store.get? operationId = some (some held)) (running : held.state = .running)
    (mine : held.ownerEpoch = some ownerEpoch) (outcome : Option PyData) :
    ∃ stored, (match outcome with
      | some result => do
        let finished ← (finish host operationId.1 ownerEpoch result []).attempt
        match finished with
        | .ok _ => return ()
        | .error _ => (fail host operationId.1 ownerEpoch "INT-AGM-001".toList).dropped
      | none => (fail host operationId.1 ownerEpoch "INT-AGM-001".toList).dropped :
        OperationScript Unit).run tape =
      (.ok (), tape.record OperationStore.apply
        (.finish ownerEpoch (held.finished host operationId stored))) := by
  have ends : ∀ {result error stored}, finishOutcome result error = .ok stored →
      (finish host operationId.1 ownerEpoch result error).run tape =
        (.ok (held.finished host operationId stored), tape.record OperationStore.apply
          (.finish ownerEpoch (held.finished host operationId stored))) := by
    intro result error stored found
    rw [run_finish, there]
    dsimp only
    rw [if_pos ⟨running, mine⟩, found]
  have fails : ∃ stored,
      ((fail host operationId.1 ownerEpoch "INT-AGM-001".toList).dropped).run tape =
        (.ok (), tape.record OperationStore.apply
          (.finish ownerEpoch (held.finished host operationId stored))) := by
    exact ⟨_, run_bind_of_ok (ends (finishOutcome_fail _ (by decide)))⟩
  cases outcome with
  | none => exact fails
  | some result =>
    cases found : finishOutcome result [] with
    | ok stored => exact ⟨stored, run_bind_of_ok (attempt_eq.mpr (ends found))⟩
    | error code =>
      have run : (finish host operationId.1 ownerEpoch result []).run tape =
        (.error code, tape) := by
        rw [run_finish, there]
        dsimp only
        rw [if_pos ⟨running, mine⟩, found]
      obtain ⟨stored, failed⟩ := fails
      exact ⟨stored, (run_bind_of_ok (attempt_eq.mpr run)).trans failed⟩

structure Ended (ownerEpoch : String) (operationId : OperationId) (effects : List OperationEffect)
    (store : OperationStore) : Prop where
  executed : ∃ operation, .execute ownerEpoch operation ∈ effects ∧
    operation.operationId = operationId
  ended : ∃ operation, store.get? operationId = some (some operation) ∧
    operation.state.isTerminal = true

/-- **A candidate that is accepted is claimed, executed and ended.** -/
theorem run_dispatch (orderly : Orderly tape.store) (executor : Executor) (stated : ownerEpoch ≠ "")
    {candidate : Operation} (there : tape.store.get? candidate.operationId = some (some candidate))
    (accepted : candidate.state = .accepted) :
    ∃ after effects, (dispatch host executor ownerEpoch candidate).run tape = (.ok (), after) ∧
      PassesOrderly tape after ∧ after.writes = tape.writes ++ effects ∧
      after.store.keys = tape.store.keys ∧
      (∀ other ≠ candidate.operationId, after.store.get? other = tape.store.get? other) ∧
      Ended ownerEpoch candidate.operationId effects after.store := by
  have claims := run_claim host stated candidate.operationId tape
  rw [there] at claims
  simp only [if_pos accepted] at claims
  generalize granted : candidate.claimed host candidate.operationId ownerEpoch = claimed at claims
  have named : claimed.operationId = candidate.operationId := by
    rw [← granted]
    rfl
  have held : (tape.store.set claimed.operationId (some claimed)).get? claimed.operationId =
      some (some claimed) := get?_set_self _ _ _
  have running : claimed.state = .running := by
    rw [← granted]
    rfl
  have mine : claimed.ownerEpoch = some ownerEpoch := by
    rw [← granted]
    rfl
  obtain ⟨stored, ends⟩ := run_outcome host
    ((tape.record OperationStore.apply (.claim ownerEpoch claimed)).record OperationStore.apply
      (.execute ownerEpoch claimed)) held running mine (executor claimed)
  generalize ended : claimed.finished host claimed.operationId stored = final at ends
  have last : final.operationId = candidate.operationId := by
    rw [← ended, ← named]
    rfl
  have first := orderly.set claimed
  refine ⟨_, [.claim ownerEpoch claimed, .execute ownerEpoch claimed, .finish ownerEpoch final],
    (run_bind_of_ok claims).trans ends,
    .write _ (.write _ (.write _ (.refl orderly) first) first) (first.set final), ?_, ?_, ?_, ?_⟩
  · change ((tape.writes ++ _) ++ _) ++ _ = _
    rw [append_assoc, append_assoc]
    rfl
  · change ((tape.store.set claimed.operationId (some claimed)).set final.operationId
      (some final)).keys = _
    rw [last, named] at *
    rw [keys_set_of_has held, keys_set_of_has there]
  · intro other different
    change ((tape.store.set claimed.operationId (some claimed)).set final.operationId
      (some final)).get? other = _
    rw [last, named, get?_set_of_ne _ different, get?_set_of_ne _ different]
  · refine ⟨⟨claimed, by simp, named⟩, final, ?_, ?_⟩
    · change ((tape.store.set claimed.operationId (some claimed)).set final.operationId
        (some final)).get? _ = _
      rw [last]
      exact get?_set_self _ _ _
    · rw [← ended]
      cases stored <;> rfl

/-- **All candidates end.** -/
theorem run_dispatch_forEach (orderly : Orderly tape.store) (executor : Executor)
    (stated : ownerEpoch ≠ "") {candidates : List Operation} (there : ∀ candidate ∈ candidates,
      tape.store.get? candidate.operationId = some (some candidate) ∧ candidate.state = .accepted)
    (nodup : (candidates.map Operation.operationId).Nodup) :
    ∃ after effects,
      (Script.forEach (dispatch host executor ownerEpoch) candidates).run tape = (.ok (), after) ∧
      PassesOrderly tape after ∧ after.writes = tape.writes ++ effects ∧
      after.store.keys = tape.store.keys ∧
      (∀ other ∉ candidates.map Operation.operationId,
        after.store.get? other = tape.store.get? other) ∧
      ∀ operationId ∈ candidates.map Operation.operationId,
        Ended ownerEpoch operationId effects after.store := by
  induction candidates generalizing tape with
  | nil =>
    exact ⟨tape, [], rfl, .refl orderly, (append_nil _).symm, rfl, fun _ _ => rfl,
      fun _ none => by cases none⟩
  | cons candidate candidates ih =>
    obtain ⟨⟨here, accepted⟩, later⟩ := forall_mem_cons.mp there
    obtain ⟨fresh, nodup⟩ := nodup_cons.mp nodup
    obtain ⟨middle, effects, first, passes, writes, keys, frame, ended⟩ :=
      run_dispatch host orderly executor stated here accepted
    have still : ∀ other ∈ candidates,
        middle.store.get? other.operationId = some (some other) ∧ other.state = .accepted := by
      intro other member
      have different : other.operationId ≠ candidate.operationId := by
        intro same
        exact fresh (List.mem_map.mpr ⟨other, member, same⟩)
      rw [frame _ different]
      exact later other member
    obtain ⟨after, more, rest, further, written, kept, untouched, endings⟩ :=
      ih passes.last still nodup
    refine ⟨after, effects ++ more, (run_bind_of_ok first).trans rest,
      passes.trans further, ?_, kept.trans keys, ?_, ?_⟩
    · rw [written, writes, append_assoc]
    · intro other absent
      rw [map_cons, mem_cons, not_or] at absent
      rw [untouched other absent.2, frame other absent.1]
    · intro operationId member
      rcases mem_cons.mp member with rfl | member
      · obtain ⟨⟨executed, made, named⟩, last, found, terminal⟩ := ended
        refine ⟨⟨executed, mem_append_left _ made, named⟩, last, ?_, terminal⟩
        rw [untouched _ fresh]
        exact found
      · obtain ⟨⟨executed, made, named⟩, found⟩ := endings operationId member
        exact ⟨⟨executed, mem_append_right _ made, named⟩, found⟩

end Dispatch

/-! ## Pending operations -/

def isPending (ownerEpoch : String) (store : OperationStore) (operationId : OperationId) : Bool :=
  match store.get? operationId with
  | some (some operation) => decide (operation.state = .accepted) || operation.isStale ownerEpoch
  | _ => false

def pending (ownerEpoch : String) (store : OperationStore) : List OperationId :=
  (sortedIds store).filter (isPending ownerEpoch store)

theorem filter_not_mem_take {α : Type} [DecidableEq α] {items : List α} (nodup : items.Nodup)
    (count : ℕ) : items.filter (fun item => item ∉ items.take count) = items.drop count := by
  have split := take_append_drop count items
  rw [← split] at nodup
  obtain ⟨-, -, apart⟩ := nodup_append.mp nodup
  generalize taken : items.take count = first at *
  generalize left : items.drop count = second at *
  rw [← split, filter_append]
  have none : first.filter (fun item => item ∉ first) = [] := by
    rw [filter_eq_nil_iff]
    intro item member
    simpa using member
  have all : second.filter (fun item => item ∉ first) = second := by
    rw [filter_eq_self]
    intro item member
    simpa using fun listed => apart item listed item member rfl
  rw [none, all, nil_append]

section Pump

variable (host : OperationHost)

theorem Operation.isStale_swept (operation : Operation) (ownerEpoch : String) :
    (operation.swept host ownerEpoch).isStale ownerEpoch = false := by
  unfold swept
  by_cases stale : operation.isStale ownerEpoch = true
  · rw [if_pos stale]
    rfl
  · rw [if_neg stale]
    exact Bool.eq_false_iff.mpr stale

theorem Operation.accepted_swept (operation : Operation) (ownerEpoch : String) :
    decide ((operation.swept host ownerEpoch).state = .accepted) =
      (decide (operation.state = .accepted) || operation.isStale ownerEpoch) := by
  unfold swept
  by_cases stale : operation.isStale ownerEpoch = true
  · rw [if_pos stale, stale, Bool.or_true]
    rfl
  · rw [if_neg stale, Bool.eq_false_iff.mpr stale, Bool.or_false]

theorem isPending_swept {swept : OperationStore}
    (same : swept.get? operationId = (store.get? operationId).map
      (Option.map fun operation => operation.swept host ownerEpoch)) :
    isPending ownerEpoch swept operationId = isPending ownerEpoch store operationId := by
  unfold isPending
  rw [same]
  rcases store.get? operationId with _ | _ | operation
  · rfl
  · rfl
  · change (decide ((operation.swept host ownerEpoch).state = .accepted) ||
      (operation.swept host ownerEpoch).isStale ownerEpoch) = _
    rw [operation.accepted_swept, operation.isStale_swept, Bool.or_false]

theorem candidates_swept {swept : OperationStore} (orderly : Orderly swept)
    (keys : swept.keys = store.keys)
    (same : ∀ operationId, swept.get? operationId = (store.get? operationId).map
      (Option.map fun operation => operation.swept host ownerEpoch)) :
    ((sortedIds swept).filterMap (dispatchable? swept)).map Operation.operationId =
      pending ownerEpoch store := by
  have ids : sortedIds swept = sortedIds store := by
    unfold sortedIds
    rw [keys]
  rw [map_filterMap, ids, pending, ← filterMap_eq_filter]
  refine filterMap_congr fun operationId _ => ?_
  rw [Option.guard, ← isPending_swept host (same operationId)]
  unfold dispatchable? isPending
  rcases there : swept.get? operationId with _ | _ | operation
  · rfl
  · rfl
  · have named := orderly.keyed operationId operation there
    have fresh : operation.isStale ownerEpoch = false := by
      rw [same operationId] at there
      obtain ⟨_ | old, found, kept⟩ := map_eq_some_iff.mp there
      · cases kept
      · cases kept
        exact old.isStale_swept host ownerEpoch
    have dispatches : operation.state.isDispatchable =
        (decide (operation.state = .accepted) || operation.isStale ownerEpoch) := by
      rw [fresh, Bool.or_false]
      rfl
    change (if operation.state.isDispatchable then some operation else none).map _ =
      if (decide (operation.state = .accepted) || operation.isStale ownerEpoch) = true
        then some operationId else none
    rw [← dispatches]
    cases operation.state.isDispatchable with
    | false => rfl
    | true => exact congrArg some named

/-- `run_once` returns, has executed and ended the first operations that were pending, and leaves
the others pending. -/
structure Reached (executor : Executor) (ownerEpoch : String) (limit : ℕ)
    (tape after : OperationTape) : Prop where
  returns : (runOnce host executor ownerEpoch limit).run tape = (.ok (), after)
  ended : ∀ operationId ∈ (pending ownerEpoch tape.store).take limit,
    Ended ownerEpoch operationId (after.writes.drop tape.writes.length) after.store
  left : pending ownerEpoch after.store = (pending ownerEpoch tape.store).drop limit

theorem run_recoverPriorOwnerClaims (stated : ownerEpoch ≠ "") :
    (recoverPriorOwnerClaims host ownerEpoch).run tape =
      (Script.forEach (requeue host ownerEpoch) (sortedIds tape.store)).run tape := by
  change (if ownerEpoch = "" then return ()
    else Script.forEach (requeue host ownerEpoch) (sortedIds tape.store) :
      OperationScript Unit).run tape = _
  rw [if_neg stated]

/-- **The pump reaches its operations** where every directory has a record. -/
theorem runOnce_reaches (orderly : Orderly tape.store) (executor : Executor)
    (stated : ownerEpoch ≠ "") {limit : ℕ} (positive : 0 < limit) :
    ∃ after, Reached host executor ownerEpoch limit tape after ∧ PassesOrderly tape after := by
  obtain ⟨swept, first, passes, keys, store⟩ := run_sweep host orderly ownerEpoch
    (fun operationId member => mem_sortedIds.mp member) (nodup_sortedIds tape.store)
  have same : ∀ operationId, swept.store.get? operationId = (tape.store.get? operationId).map
      (Option.map fun operation => operation.swept host ownerEpoch) := by
    intro operationId
    rw [store]
    split
    · rfl
    next absent =>
      rw [mem_sortedIds, Bool.not_eq_true, isSome_eq_false_iff, isNone_iff_eq_none]
        at absent
      rw [absent]
      rfl
  have found := candidates_swept host passes.last keys same
  generalize listed : (sortedIds swept.store).filterMap (dispatchable? swept.store) = candidates
    at found
  have there : ∀ candidate ∈ candidates.take limit,
      swept.store.get? candidate.operationId = some (some candidate) ∧
        candidate.state = .accepted := by
    intro candidate member
    have member := mem_of_mem_take member
    rw [← listed] at member
    obtain ⟨operationId, -, finds⟩ := mem_filterMap.mp member
    unfold dispatchable? at finds
    split at finds
    next operation here =>
      split at finds
      next dispatchable =>
        cases finds
        rw [passes.last.keyed operationId candidate here]
        exact ⟨here, of_decide_eq_true dispatchable⟩
      next => cases finds
    next => cases finds
  have nodup : (pending ownerEpoch tape.store).Nodup :=
    (nodup_sortedIds tape.store).sublist filter_sublist
  have ids : (candidates.take limit).map Operation.operationId =
      (pending ownerEpoch tape.store).take limit := by
    rw [map_take, found]
  obtain ⟨after, effects, run, further, writes, kept, untouched, ended⟩ :=
    run_dispatch_forEach host passes.last executor stated there
      (by rw [ids]; exact nodup.sublist (take_sublist _ _))
  rw [ids] at untouched ended
  obtain ⟨swept_effects, swept_writes, -, -⟩ := passes.crashes
  have made : after.writes.drop tape.writes.length = swept_effects ++ effects := by
    rw [writes, swept_writes, append_assoc, drop_left]
  refine ⟨after, ⟨?_, ?_, ?_⟩, passes.trans further⟩
  · have recovers : (recoverPriorOwnerClaims host ownerEpoch).run tape = (.ok (), swept) :=
      (run_recoverPriorOwnerClaims host stated).trans first
    have lists : (listDispatchable limit).run swept = (.ok (candidates.take limit), swept) := by
      rw [run_listDispatchable, if_neg positive.ne', listed]
    exact (run_bind_of_ok recovers).trans ((run_bind_of_ok lists).trans run)
  · intro operationId member
    obtain ⟨⟨executed, here, named⟩, terminal⟩ := ended operationId member
    rw [made]
    exact ⟨⟨executed, mem_append_right _ here, named⟩, terminal⟩
  · have order : sortedIds after.store = sortedIds tape.store := by
      unfold sortedIds
      rw [kept, keys]
    rw [← filter_not_mem_take nodup limit]
    generalize (pending ownerEpoch tape.store).take limit = taken at untouched ended
    rw [pending, order, pending, List.filter_filter]
    refine filter_congr fun operationId _ => ?_
    by_cases member : operationId ∈ taken
    · obtain ⟨-, operation, here, terminal⟩ := ended operationId member
      have settled : operation.state ≠ .accepted ∧ operation.state ≠ .running := by
        constructor
        all_goals
          intro state
          rw [state] at terminal
          cases terminal
      have spent : isPending ownerEpoch after.store operationId = false := by
        unfold isPending
        rw [here]
        simp [Operation.isStale, settled.1, settled.2]
      simp [spent, member]
    · have unchanged : isPending ownerEpoch after.store operationId =
          isPending ownerEpoch tape.store operationId := by
        rw [← isPending_swept host (same operationId)]
        unfold isPending
        rw [untouched operationId member]
      simp [unchanged, member]

end Pump

end Audiagentic.Management
