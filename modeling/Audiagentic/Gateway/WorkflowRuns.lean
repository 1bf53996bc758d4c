import Audiagentic.Gateway.Marks

/-!
# Request states over whole runs

Every operation that writes the state of a request either asks the workflow or carries its own list
of source states.  `WorkflowStep` says what a call does to the state and the revision; the lists
agree with the workflow except for an operator's capture, which may also complete a request that is
queued, failed or cancelled.
-/

namespace Audiagentic.Gateway

open Foundations

variable {projections : Projections} {hashing : Hashing}

/-- The `values` of the request workflow. -/
def declaredStates : List String :=
  ["queued", "running", "completed", "failed", "cancelled", "rejected", "interrupted"]

/-- The states that the workflow does not lead to `completed` and an operator's capture does. -/
def capturedStates : List RequestState := [.queued, .failed, .cancelled]

theorem RequestState.text_mem_declaredStates (state : RequestState) :
    state.text ∈ declaredStates := by
  cases state <;> decide

/-- A request that is neither completed nor rejected is completed along the workflow, or its state
is one of those that only a capture completes. -/
theorem RequestState.completes_or_captured {state : RequestState} (opened : state ≠ .completed)
    (completable : state ≠ .rejected) :
    state.transitionAllowed .completed = true ∨ state ∈ capturedStates := by
  cases state with
  | running | interrupted => exact .inl (by decide)
  | queued | failed | cancelled => exact .inr (by decide)
  | completed => exact absurd rfl opened
  | rejected => exact absurd rfl completable

/-- **What a call does to the state and the revision.**  It follows the workflow or completes a
captured request; it leaves the record, gives it its normal form or raises the revision. -/
structure WorkflowStep (op : StoreOp) (before after : Record) : Prop where
  state : after.state = before.state ∨ before.state.transitionAllowed after.state = true ∨
    (op.completesFromOutside = true ∧ before.state ∈ capturedStates ∧ after.state = .completed)
  revision : after = before ∨ after = before.migrate ∨ before.revision < after.revision

theorem StoreOp.Succeeds.workflowStep {op : StoreOp} {record updated : Record}
    (succeeds : op.Succeeds projections hashing record updated) :
    WorkflowStep op record updated := by
  rcases succeeds.change with kept | change
  · exact ⟨.inl (congrArg Record.state kept), .inl kept⟩
  refine ⟨?_, .inr (.inr change.revision)⟩
  rcases change.state with same | allowed | ⟨outside, completed⟩
  · exact .inl same
  · exact .inr (.inl allowed)
  · cases op with
    | transitionOperatorTerminal capture now =>
      rcases transitionOperatorTerminal_ok succeeds.success with
        ⟨_, kept⟩ | ⟨opened, completable, _⟩
      · exact .inl (congrArg Record.state kept)
      · rcases RequestState.completes_or_captured opened completable with
          allowed | captured
        · exact .inr (.inl (completed ▸ allowed))
        · exact .inr (.inr ⟨rfl, captured, completed⟩)
    | _ => cases outside

/-- **One call.** -/
theorem storeStep_workflowStep (stored : Record) (op : StoreOp) :
    WorkflowStep op stored (storeStep projections hashing stored op) := by
  rcases @storeStep_cases projections hashing stored op with kept | normal | succeeds
  · rw [kept]
    exact ⟨.inl rfl, .inl rfl⟩
  · rw [normal]
    exact ⟨.inl rfl, .inr (.inl rfl)⟩
  · have step := succeeds.workflowStep
    refine ⟨step.state, ?_⟩
    rcases step.revision with same | same | newer
    · exact .inr (.inl same)
    · exact .inr (.inl same)
    · exact .inr (.inr newer)

/-- **The two writes of a capture.**  The completed record raises the revision by one, and so does
the record that retires a finished cleanup. -/
theorem operator_writes {capture : OperatorCapture} {now : Timestamp} {record updated : Record}
    (success : (transitionOperatorTerminal capture now).body record = .ok updated)
    (opened : record.state ≠ .completed) :
    ∃ written, record.write (operatorCompleted record capture now) = .ok written ∧
      written.state = .completed ∧ written.revision = record.revision + 1 ∧
      (updated = written ∨
        updated.state = .completed ∧ updated.revision = written.revision + 1) := by
  simp only [transitionOperatorTerminal, bind_eq_ok, if_neg opened, refuse_eq_ok,
    exists_const] at success
  obtain ⟨_, _, _, _, _, _, written, write, success⟩ := success
  obtain ⟨_, _, _, rfl⟩ := Record.write_eq_ok.mp write
  have first := operatorCompleted_fence record capture now
  refine ⟨_, write, first.state, first.revision, ?_⟩
  split at success
  · split at success
    · obtain ⟨_, _, _, rfl⟩ := Record.write_eq_ok.mp success
      refine .inr ⟨first.state, ?_⟩
      show record.revision + 2 = (operatorCompleted record capture now).revision + 1
      rw [first.revision]
    · cases success
      exact .inl rfl
  · cases success
    exact .inl rfl

/-- **Request states follow the workflow**, apart from an operator's capture, in every run of store
operations on a new record; every state is a declared one, and every operation that writes more
than the normal form of what it read raises the revision, with each of its writes. -/
theorem request_states_follow_workflow (projections : Projections) (hashing : Hashing)
    (admission : Admission) (metadata : Doc) (warnings : List Doc) (sessionId : Option String)
    (ops : List StoreOp) :
    let after := exec (storeStep projections hashing)
      (buildRecord admission metadata warnings sessionId)
    (after ops).state.text ∈ declaredStates ∧
    (∀ before op later, ops = before ++ op :: later →
      WorkflowStep op (after before) (after (before ++ [op]))) ∧
    ∀ capture now updated,
      let read := (after ops).migrate
      (transitionOperatorTerminal capture now).body read = .ok updated → read.state ≠ .completed →
        ∃ written, read.write (operatorCompleted read capture now) = .ok written ∧
          written.state = .completed ∧ written.revision = read.revision + 1 ∧
          (updated = written ∨
            updated.state = .completed ∧ updated.revision = written.revision + 1) := by
  intro after
  refine ⟨RequestState.text_mem_declaredStates _, ?_, fun _ _ _ => operator_writes⟩
  rintro before op later -
  show WorkflowStep op _ (exec _ _ (before ++ [op]))
  rw [exec_append, exec_cons, exec_nil]
  exact storeStep_workflowStep _ op

def failedRun : List StoreOp :=
  [.claimDispatch "g1" 0 none 1, .startOwnedAttempt (some "g1") (some "w1") 1 2,
    .transitionOwnedTerminal "req_sample_1" .failed ⟨some "g1", some "w1", 1⟩ [] none 3]

/-- **A failed request is completed**: the workflow has no edge from `failed`, and an operator's
capture completes the request. -/
theorem capture_leaves_workflow :
    ¬ ∀ (projections : Projections) (hashing : Hashing) (admission : Admission) (metadata : Doc)
      (warnings : List Doc) (sessionId : Option String) (before : List StoreOp) (op : StoreOp),
      let after := exec (storeStep projections hashing)
        (buildRecord admission metadata warnings sessionId)
      ((after (before ++ [op])).state = (after before).state ∨
        (after before).state.transitionAllowed (after (before ++ [op])).state = true) := by
  intro claimed
  have step := claimed .plain .constant sampleAdmission "" [] none failedRun
    (.transitionOperatorTerminal ⟨3, [], true, none, none, true, true, false⟩ 4)
  revert step
  decide +kernel

/-! ## Revisions -/

/-- The record is the same in normal form, which keeps the revision, or the revision was raised. -/
def Revised (before after : Record) : Prop :=
  after.migrate = before.migrate ∨ before.revision < after.revision

theorem Revised.trans {first second third : Record} (left : Revised first second)
    (right : Revised second third) : Revised first third := by
  rcases right with same | newer
  · have revision : second.migrate.revision = third.migrate.revision := by rw [same]
    exact left.imp same.trans fun newer => Nat.lt_of_lt_of_eq newer revision
  · rcases left with same | older
    · have revision : first.migrate.revision = second.migrate.revision := by rw [same]
      exact .inr (Nat.lt_of_le_of_lt (Nat.le_of_eq revision) newer)
    · exact .inr (Nat.lt_trans older newer)

/-- **A revision has one content.**  In every run of store operations on any record the revision
never decreases, and a record that is found under the same revision again has not changed. -/
theorem revision_has_one_content (projections : Projections) (hashing : Hashing) (record : Record)
    (ops : List StoreOp) : Revised record (exec (storeStep projections hashing) record ops) := by
  refine @exec_relates _ _ _ (fun _ => True) Revised (fun _ => .inl rfl) (fun _ _ _ => .trans)
    (fun _ _ _ => trivial) ?_ _ trivial ops
  intro stored op _
  rcases (storeStep_workflowStep stored op).revision with same | normal | newer
  · exact .inl (by rw [same])
  · exact .inl (by rw [normal]; rfl)
  · exact .inr newer

end Audiagentic.Gateway
