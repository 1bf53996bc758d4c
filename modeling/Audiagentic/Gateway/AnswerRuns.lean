import Audiagentic.Gateway.Answers
import Audiagentic.Gateway.OwnerFencing

/-!
# Answers over whole runs

Workers, current and superseded, persist answers and end the request with the artifacts they got;
operators capture answers; the request changes hands in between.  A completed request keeps its
record and its file, so an answer is readable from then on exactly when the file held the winner's
text at the terminal transition.  A capture writes the file and the record under one lock; a worker
does not, and what another call writes in between is not found out.
-/

namespace Audiagentic.Gateway

open Foundations List

/-! ## The artifact in the record -/

def ResultUpdate.setsAnswer : ResultUpdate → Bool
  | .responseArtifact _ => true
  | _ => false

section Artifact

variable (projections : Projections)

theorem ResultUpdate.applyTransition_keeps {update : ResultUpdate}
    (keeps : update.setsAnswer = false) (record : Record) :
    (update.applyTransition projections record).results.responseArtifact =
      record.results.responseArtifact := by
  cases update <;> first | rfl | cases keeps

theorem foldl_applyTransition_keeps {updates : List ResultUpdate}
    (keep : ∀ update ∈ updates, update.setsAnswer = false) (record : Record) :
    (updates.foldl (fun current update => update.applyTransition projections current)
        record).results.responseArtifact = record.results.responseArtifact := by
  induction updates generalizing record with
  | nil => rfl
  | cons update updates ih =>
    obtain ⟨here, later⟩ := forall_mem_cons.mp keep
    rw [foldl_cons, ih later, update.applyTransition_keeps projections here]

theorem applyUpdates_responseArtifact (record : Record) (before : List ResultUpdate)
    (artifact : Option Doc) {after : List ResultUpdate}
    (keep : ∀ update ∈ after, update.setsAnswer = false) :
    (applyUpdates projections record
      (before ++ .responseArtifact artifact :: after)).results.responseArtifact = artifact := by
  show (List.foldl _ record (before ++ _)).results.responseArtifact = artifact
  rw [foldl_append, foldl_cons, foldl_applyTransition_keeps projections keep]
  rfl

theorem transitioned_responseArtifact (record : Record) (newState : RequestState)
    (updates : List Update) (artifact : Option Doc) (now : Timestamp) :
    (transitioned projections record newState
      ((terminalUpdates (updates ++ [.result (.responseArtifact artifact)])).filterMap
        Update.result?) now).results.responseArtifact = artifact := by
  obtain ⟨after, keep, same⟩ : ∃ after : List ResultUpdate,
      (∀ update ∈ after, update.setsAnswer = false) ∧
        (terminalUpdates (updates ++ [.result (.responseArtifact artifact)])).filterMap
          Update.result? =
            updates.filterMap Update.result? ++ .responseArtifact artifact :: after := by
    unfold terminalUpdates
    generalize ((errorOf _).bind _ : Option TerminalClassification) = classification
    refine ⟨(classification.toList.map fun value => .terminalClassification (some value)) ++
      [.watchdogState (some .notStarted), .watchdogReason none, .recoveryRequired false], ?_, ?_⟩
    · cases classification <;> simp [ResultUpdate.setsAnswer]
    · cases classification <;> simp [Update.result?]
  have last := applyUpdates_responseArtifact projections
    { record with state := newState, updatedAt := now, revision := record.revision + 1 }
    (updates.filterMap Update.result?) artifact keep
  rw [same]
  unfold transitioned
  split <;> exact last

end Artifact

/-! ## Calls -/

variable {host : AnswerHost} {projections : Projections} {hashing : Hashing}

/-- **A call that fails keeps what an answer is read by**, and a call that succeeds leaves what its
body gives. -/
theorem passes_cases (record : Record) (op : StoreOp) :
    (op.passes projections hashing record = false ∧
      (storeStep projections hashing record op).state = record.state ∧
      (storeStep projections hashing record op).results.responseArtifact =
        record.results.responseArtifact) ∨
    ∃ updated, op.passes projections hashing record = true ∧ record.Valid ∧
      (op.operation projections hashing).preflight = .ok () ∧
      (op.operation projections hashing).body record.migrate = .ok updated ∧
      storeStep projections hashing record op = updated := by
  unfold StoreOp.passes storeStep
  rcases Operation.run_cases (op.operation projections hashing) record with
    ⟨error, refused⟩ | ⟨error, failed⟩ | ⟨updated, admitted, valid, success, run⟩
  · rw [refused]
    exact .inl ⟨rfl, rfl, rfl⟩
  · rw [failed]
    exact .inl ⟨rfl, rfl, rfl⟩
  · rw [run]
    exact .inr ⟨updated, rfl, valid, admitted, success, rfl⟩

/-- **The terminal transition of a worker.** -/
theorem finish_passes {record : Record} {answer : WorkerAnswer} {newState : RequestState}
    {identity : OwnedIdentity} {updates : List Update} {expectedRevision : Option Int}
    {now : Timestamp}
    (passes : (finishOp host record answer newState identity updates expectedRevision now).passes
      projections hashing record = true) :
    record.state.transitionAllowed newState = true ∧
      (storeStep projections hashing record
        (finishOp host record answer newState identity updates expectedRevision now)).state =
          newState ∧
      (storeStep projections hashing record
        (finishOp host record answer newState identity updates expectedRevision
          now)).results.responseArtifact = some (host.document answer.artifact) := by
  rcases passes_cases record
      (finishOp host record answer newState identity updates expectedRevision now) with
    ⟨failed, _⟩ | ⟨updated, _, _, _, success, after⟩
  · cases failed.symm.trans passes
  · rw [after]
    simp only [finishOp, StoreOp.operation, transitionOwnedTerminal, transitionRecord, bind_eq_ok,
      ensureTransition_ok, exists_const] at success
    obtain ⟨_, _, allowed, written⟩ := success
    obtain ⟨_, _, _, rfl⟩ := Record.write_eq_ok.mp written
    refine ⟨allowed, (transitioned_sameFence projections record.migrate newState _ now).state, ?_⟩
    exact transitioned_responseArtifact projections record.migrate newState updates _ now

/-- **The completion by an operator.**  It leaves a completed request alone, or writes the file
and the artifact. -/
theorem capture_passes {record : Record} {text : String} {capture : OperatorCapture}
    {now : Timestamp}
    (passes : (captureOp host record text capture now).passes projections hashing record = true)
    (opened : record.state ≠ .completed) :
    capture.writesFile record = true ∧
      (storeStep projections hashing record
        (captureOp host record text capture now)).results.responseArtifact =
          some (host.document (capturedArtifact host record text)) := by
  rcases passes_cases record (captureOp host record text capture now) with
    ⟨failed, _⟩ | ⟨updated, _, valid, admitted, success, after⟩
  · cases failed.symm.trans passes
  · rw [after]
    simp only [captureOp, StoreOp.operation, transitionOperatorTerminal, refuse_eq_ok,
      Bool.not_eq_false] at admitted
    simp only [captureOp, StoreOp.operation, transitionOperatorTerminal, bind_eq_ok] at success
    obtain ⟨_, expected, success⟩ := success
    have artifact : ∀ record : Record, (operatorCompleted record
        { capture with updates := capture.updates ++ [.responseArtifact (some
          (host.document (capturedArtifact host record text)))] } now).results.responseArtifact =
        some (host.document (capturedArtifact host record text)) := by
      intro record
      simp only [operatorCompleted, assignAll, foldl_append]
      rfl
    split at success
    next completed => exact absurd completed opened
    next =>
      simp only [bind_eq_ok, refuse_eq_ok, exists_const, not_not, Bool.not_eq_false] at success
      obtain ⟨completable, noFailure, _, _, written, write, success⟩ := success
      obtain ⟨_, _, _, rfl⟩ := Record.write_eq_ok.mp write
      constructor
      · have read : record.readLocked.isOk = true := by
          rw [Record.readLocked_eq_ok.mpr ⟨valid, rfl⟩]
          rfl
        have identity : (checkExpectedIdentity record (some capture.expectedRevision) none none
            none).isOk = true := congrArg Except.isOk expected
        have rejected : record.state ≠ .rejected := completable
        simp [OperatorCapture.writesFile, admitted, read, identity, opened, rejected, noFailure]
      · split at success
        · split at success
          · obtain ⟨_, _, _, rfl⟩ := Record.write_eq_ok.mp success
            exact artifact record.migrate
          · cases success
            exact artifact record.migrate
        · cases success
          exact artifact record.migrate

/-- **Moving the owner** completes nothing and keeps the artifact of a completed request. -/
theorem move_completed {record : Record} {op : StoreOp} (moves : op.movesOwner = true)
    (completed : (storeStep projections hashing record op).state = .completed) :
    record.state = .completed ∧ (storeStep projections hashing record op).results.responseArtifact =
      record.results.responseArtifact := by
  rcases passes_cases record op with ⟨_, state, artifact⟩ | ⟨updated, _, _, _, success, after⟩
  · exact ⟨state.symm.trans completed, artifact⟩
  rw [after] at completed ⊢
  cases op with
  | claimDispatch ownerEpoch expectedRevision serviceRoot now =>
    simp only [StoreOp.operation, claimDispatch, bind_eq_ok] at success
    obtain ⟨⟨outcome, written⟩, claim, same⟩ := success
    cases same
    rcases claimDispatchBody_ok claim with
      ⟨_, rfl, _⟩ | ⟨_, rfl, _⟩ | ⟨_, _, _, _, write⟩
    · exact ⟨completed, rfl⟩
    · exact ⟨completed, rfl⟩
    · obtain ⟨_, _, _, rfl⟩ := Record.write_eq_ok.mp write
      exact ⟨completed, rfl⟩
  | releaseStaleClaim =>
    simp only [StoreOp.operation, releaseStaleClaim, refuse_bind_eq_ok] at success
    obtain ⟨_, _, written⟩ := success
    obtain ⟨_, _, _, rfl⟩ := Record.write_eq_ok.mp written
    exact ⟨completed, rfl⟩
  | startOwnedAttempt =>
    simp only [StoreOp.operation, startOwnedAttempt, bind_eq_ok] at success
    obtain ⟨_, _, _, _, written⟩ := success
    obtain ⟨_, _, _, rfl⟩ := Record.write_eq_ok.mp written
    cases completed
  | takeoverNonterminalOwner =>
    simp only [StoreOp.operation, takeoverNonterminalOwner] at success
    split at success
    · cases success
      exact ⟨completed, rfl⟩
    simp only [refuse_bind_eq_ok] at success
    obtain ⟨_, success⟩ := success
    split at success
    · cases success
      exact ⟨completed, rfl⟩
    · obtain ⟨_, _, _, rfl⟩ := Record.write_eq_ok.mp success
      exact ⟨completed, rfl⟩
  | _ => cases moves

/-! ## Reading back -/

theorem readFinalResponse_eq_ok {file : Option String} {artifact : Doc} {text : String} :
    readFinalResponse host file artifact = .ok text ↔
      file = some text ∧ host.bytes artifact = some (utf8Bytes text).length ∧
        host.digest artifact = some (host.sha256 (utf8Bytes text)) := by
  cases file with
  | none =>
    constructor
    · nofun
    · rintro ⟨⟨⟩, _⟩
  | some stored =>
    simp only [readFinalResponse, refuse_bind_eq_ok, not_or, not_not, Except.ok.injEq,
      Option.some.injEq]
    constructor
    · rintro ⟨⟨length, digest⟩, rfl⟩
      exact ⟨rfl, length.symm, digest.symm⟩
    · rintro ⟨rfl, length, digest⟩
      exact ⟨⟨length.symm, digest.symm⟩, rfl⟩

variable (host) in
def Describes (artifact : AnswerArtifact) (text : String) : Prop :=
  artifact.bytes = (utf8Bytes text).length ∧ artifact.sha256 = host.sha256 (utf8Bytes text)

theorem read_of_describes {artifact : AnswerArtifact} {text : String}
    (describes : Describes host artifact text) (file : Option String) :
    readFinalResponse host file (host.document artifact) = .ok text ↔ file = some text := by
  rw [readFinalResponse_eq_ok, host.bytes_document, host.digest_document, describes.1, describes.2]
  exact and_iff_left ⟨rfl, rfl⟩

variable (host) in
/-- **The answer is readable**: a completed request with an artifact gives the text of the writer
whose terminal transition won. -/
def AnswersReadBack (store : AnswerStore) : Prop :=
  store.record.state = .completed →
    ∀ artifact, store.record.results.responseArtifact = some artifact →
      ∃ text, store.winner = some text ∧ readFinalResponse host store.file artifact = .ok text

variable (host) in
/-- The artifacts that workers hold are those of their texts. -/
def Described (store : AnswerStore) : Prop :=
  ∀ answer ∈ store.returned, Describes host answer.artifact answer.text

variable (host projections hashing) in
/-- **A worker completes the request while the file holds its answer**: when its transition to
`completed` passes, the text it persisted is the one that was last written. -/
def Undisturbed (store : AnswerStore) : AnswerAction → Prop
  | .finish answer newState identity updates expectedRevision now =>
    newState = .completed → ∀ returned, store.returned[answer]? = some returned →
      (finishOp host store.record returned newState identity updates expectedRevision now).passes
        projections hashing store.record = true → store.file = some returned.text
  | _ => True

theorem persistFinalResponse_eq_ok {record : Record} {file written : Option String}
    {text mediaType : String} {allowTerminal : Bool} {answer : PersistedAnswer}
    (done : persistFinalResponse host record file text mediaType allowTerminal =
      .ok (answer, written)) :
    Describes host answer.artifact text ∧
      written = if allowTerminal = false ∧ record.state.isTerminal = true then file
        else some text := by
  unfold persistFinalResponse finalResponseArtifact at done
  obtain ⟨made, artifact, rest⟩ := bind_eq_ok.mp done
  obtain ⟨_, same⟩ := refuse_bind_eq_ok.mp artifact
  cases same
  split at rest
  next ended =>
    cases rest
    exact ⟨⟨rfl, rfl⟩, (if_pos ended).symm⟩
  next running =>
    cases rest
    exact ⟨⟨rfl, rfl⟩, (if_neg running).symm⟩

theorem answerStep_described {store : AnswerStore} (action : AnswerAction)
    (described : Described host store) :
    Described host (answerStep host projections hashing store action) := by
  cases action with
  | persist text mediaType =>
    simp only [answerStep]
    split
    · exact described
    · next persisted =>
      exact forall_mem_snoc described (persistFinalResponse_eq_ok persisted).1
  | finish =>
    simp only [answerStep]
    split <;> exact described
  | capture | move => exact described

theorem capture_of_completed {record : Record} (completed : record.state = .completed)
    (text : String) (capture : OperatorCapture) (now : Timestamp) :
    (storeStep projections hashing record (captureOp host record text capture
        now)).results.responseArtifact = record.results.responseArtifact ∧
      capture.writesFile record = false := by
  constructor
  · rcases passes_cases record (captureOp host record text capture now) with
      ⟨_, _, artifact⟩ | ⟨updated, _, _, _, success, after⟩
    · exact artifact
    · rw [after]
      rcases transitionOperatorTerminal_ok success with ⟨_, rfl⟩ | ⟨opened, _⟩
      · rfl
      · exact absurd completed opened
  · simp [OperatorCapture.writesFile, completed]

/-- **One action keeps the answer readable exactly when it is undisturbed.** -/
theorem readsBack_answerStep_iff {store : AnswerStore} {action : AnswerAction}
    (described : Described host store) (reads : AnswersReadBack host store) :
    AnswersReadBack host (answerStep host projections hashing store action) ↔
      Undisturbed host projections hashing store action := by
  cases action with
  | persist text mediaType =>
    refine iff_of_true ?_ trivial
    simp only [answerStep]
    split
    · exact reads
    next persisted =>
    intro completed artifact stored
    have ended : store.record.state.isTerminal = true := congrArg RequestState.isTerminal completed
    have same := (persistFinalResponse_eq_ok persisted).2
    rw [if_pos ⟨rfl, ended⟩] at same
    rw [same]
    exact reads completed artifact stored
  | finish answer newState identity updates expectedRevision now =>
    cases there : store.returned[answer]? with
    | none =>
      simp only [answerStep, Undisturbed, there]
      exact iff_of_true reads (fun _ _ => nofun)
    | some returned =>
      cases passes : (finishOp host store.record returned newState identity updates
          expectedRevision now).passes projections hashing store.record with
      | false =>
        simp only [answerStep, Undisturbed, there, passes, Bool.false_eq_true, if_false]
        refine iff_of_true ?_ ?_
        · rcases @passes_cases projections hashing store.record (finishOp host store.record
            returned newState identity updates expectedRevision now) with
            ⟨_, state, kept⟩ | ⟨_, passed, _⟩
          · intro completed artifact stored
            exact reads (state.symm.trans completed) artifact (kept.symm.trans stored)
          · cases passed.symm.trans passes
        · rintro _ _ ⟨⟩ passed
          cases passed.symm.trans passes
      | true =>
        simp only [answerStep, Undisturbed, there, passes, if_true]
        obtain ⟨-, state, artifact⟩ := finish_passes passes
        have exactly := read_of_describes
          (described returned (mem_of_getElem? there)) store.file
        constructor
        · rintro readsAfter completed _ ⟨⟩ _
          obtain ⟨text, won, read⟩ := readsAfter (state.trans completed) _ artifact
          cases won
          exact exactly.mp read
        · intro undisturbed completed stored same
          rw [artifact, Option.some.injEq] at same
          subst same
          exact ⟨returned.text, rfl, exactly.mpr
            (undisturbed (state.symm.trans completed) returned rfl passes)⟩
  | capture text capture now =>
    refine iff_of_true ?_ trivial
    by_cases before : store.record.state = .completed
    · obtain ⟨kept, untouched⟩ :=
        @capture_of_completed host projections hashing store.record before text capture now
      intro _ artifact stored
      simp only [answerStep, untouched, before, ne_eq, not_true, decide_false, Bool.and_false,
        Bool.false_eq_true, if_false] at stored ⊢
      exact reads before artifact (kept.symm.trans stored)
    · intro completed artifact stored
      cases passes : (captureOp host store.record text capture now).passes projections hashing
          store.record with
      | false =>
        rcases @passes_cases projections hashing store.record
            (captureOp host store.record text capture now) with
          ⟨_, state, _⟩ | ⟨_, passed, _⟩
        · exact absurd (state.symm.trans completed) before
        · cases passed.symm.trans passes
      | true =>
        obtain ⟨written, same⟩ := capture_passes passes before
        simp only [answerStep, passes, written, before, ne_eq, not_false_eq_true, decide_true,
          Bool.and_true, if_true] at stored ⊢
        rw [same, Option.some.injEq] at stored
        subst stored
        exact ⟨text, rfl, (read_of_describes ⟨rfl, rfl⟩ _).mpr rfl⟩
  | move op =>
    refine iff_of_true ?_ trivial
    intro completed artifact stored
    obtain ⟨before, kept⟩ := move_completed op.2 completed
    exact reads before artifact (kept.symm.trans stored)

/-! ## Whole runs -/

/-- A request that is not completed yet. -/
structure OpenRequest where
  record : Record
  isOpen : record.state ≠ .completed

/-- A request before any worker has persisted an answer; what the file holds does not matter. -/
def OpenRequest.store (request : OpenRequest) (file : Option String) : AnswerStore where
  record := request.record
  file := file
  returned := []
  winner := none

/-- **Answers are readable exactly in the undisturbed runs.**  In every run of persists, terminal
transitions, captures and takeovers, every state reached in which the request is completed with an
artifact gives the winner's text, if and only if no worker completes the request while the file
holds another text than the one it persisted. -/
theorem answer_is_readable (host : AnswerHost) (projections : Projections) (hashing : Hashing)
    (request : OpenRequest) (file : Option String) (actions : List AnswerAction) :
    (∀ first later, actions = first ++ later →
      AnswersReadBack host (exec (answerStep host projections hashing) (request.store file) first))
        ↔
      Admissible (answerStep host projections hashing) (Undisturbed host projections hashing)
        (request.store file) actions := by
  have described : Described host (request.store file) := nofun
  have reads : AnswersReadBack host (request.store file) :=
    fun completed => absurd completed request.isOpen
  exact admissible_iff_forall_prefix (fun _ action => answerStep_described action)
    (fun _ _ => readsBack_answerStep_iff) described reads actions

/-! A worker that lost the request writes between the winner's two writes. -/

section Late

/-- An artifact as its length in unary, then its digest. -/
private def sampleHost : AnswerHost where
  sha256 bytes := if bytes.length = 3 then emptyDigest else ""
  document artifact := String.ofList (List.replicate artifact.bytes '1' ++ ':' ::
    artifact.sha256.toList)
  bytes document := some (document.toList.takeWhile (· = '1')).length
  digest document := some (String.ofList ((document.toList.dropWhile (· = '1')).drop 1))
  bytes_document artifact := by
    rw [String.toList_ofList, takeWhile_append_of_pos (by simp)]
    simp
  digest_document artifact := by
    rw [String.toList_ofList, dropWhile_append_of_pos (by simp)]
    simp

private def sampleRequest : OpenRequest where
  record := buildRecord sampleAdmission "" [] none
  isOpen := by decide

/-- Started under `g1`, taken over by `g2`, whose worker persists its answer; the worker of `g1`
persists too, and the worker of `g2` completes the request. -/
private def lateActions : List AnswerAction :=
  [.move ⟨.claimDispatch "g1" 0 none 1, rfl⟩,
    .move ⟨.startOwnedAttempt (some "g1") (some "w1") 1 2, rfl⟩,
    .move ⟨.takeoverNonterminalOwner (some "g1") "g2" (some "w2") none 3, rfl⟩,
    .persist "new" "text/plain; charset=utf-8", .persist "stale" "text/plain; charset=utf-8",
    .finish 0 .completed ⟨some "g2", some "w2", 1⟩ [] none 4]

/-- **A superseded worker spoils the winner's answer.** -/
theorem superseded_worker_spoils_answer :
    ¬ ∀ (host : AnswerHost) (projections : Projections) (hashing : Hashing)
      (request : OpenRequest) (file : Option String) (actions : List AnswerAction),
      AnswersReadBack host
      (exec (answerStep host projections hashing) (request.store file) actions) := by
  intro claimed
  have reads := claimed sampleHost .plain .constant sampleRequest none lateActions
  have completed : (exec (answerStep sampleHost .plain .constant) (sampleRequest.store none)
      lateActions).record.state = .completed := by decide +kernel
  obtain ⟨artifact, stored⟩ : ∃ artifact, (exec (answerStep sampleHost .plain .constant)
      (sampleRequest.store none) lateActions).record.results.responseArtifact = some artifact :=
    Option.isSome_iff_exists.mp (by decide +kernel)
  obtain ⟨text, won, read⟩ := reads completed artifact stored
  have winner : (exec (answerStep sampleHost .plain .constant) (sampleRequest.store none)
      lateActions).winner = some "new" := by decide +kernel
  have file : (exec (answerStep sampleHost .plain .constant) (sampleRequest.store none)
      lateActions).file = some "stale" := by decide +kernel
  cases winner.symm.trans won
  have same : some "stale" = some "new" := file.symm.trans (readFinalResponse_eq_ok.mp read).1
  exact absurd same (by decide)

end Late

end Audiagentic.Gateway
