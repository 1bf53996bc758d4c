import Audiagentic.CodingLsp.JsonRpcSteps

/-!
# Replies over whole runs

In runs of careful steps the handling of a reply is framed by the call whose request it answers, and
when the reader stops on an exception every call that waits goes on to fail.  At the end of the
output it stops without a word to them.
-/

namespace Audiagentic.CodingLsp

open Foundations Function

variable {rpc after : LspJsonRpc} {caller other : ℕ} {outside : Outside}

/-! ## Replies -/

def HandlesReply (rpc : LspJsonRpc) (place : ℕ) : RpcAction → Prop
  | .read (.reply answers _) => rpc.reader = .reading ∧ answers = place
  | .reader => ∃ id response, rpc.reader = .recording id response ∧ response.answers = some place
  | _ => False

/-- A step changes nothing for the other calls: what is stored for them stays as it is, each goes on
where it is, and the reader goes on. -/
structure Spares (caller : ℕ) (rpc after : LspJsonRpc) : Prop where
  frame : Frame caller rpc after
  calls : after.calls = rpc.calls
  reader : after.reader = .reading ∨ ∃ id response, after.reader = .recording id response

/-- **A reply is for its request only.** -/
theorem Sound.spares (sound : Sound rpc) {action : RpcAction} (careful : CarefulRpc rpc action)
    {place sender : ℕ} (handles : HandlesReply rpc place action)
    (sent : SentBy rpc sender place) : Spares sender rpc (rpcStep rpc action) := by
  cases action with
  | call | step => exact handles.elim
  | read input =>
    cases input with
    | handled | fails | ends => exact handles.elim
    | reply answers reply =>
      obtain ⟨reading, rfl⟩ := handles
      rw [rpcStep, reading]
      simp only [LspJsonRpc.readMessage]
      split
      · split_ifs
        · exact ⟨.of_same rfl rfl rfl rfl, rfl, .inl reading⟩
        · exact ⟨.of_same rfl rfl rfl rfl, rfl, .inr ⟨_, _, rfl⟩⟩
        · exact ⟨.of_same rfl rfl rfl rfl, rfl, .inl reading⟩
      · exact ⟨.of_same rfl rfl rfl rfl, rfl, .inl reading⟩
  | reader =>
    obtain ⟨id, response, stage, answers⟩ := handles
    obtain ⟨⟨caller, number⟩, there⟩ := careful.recording stage
    -- The request that is registered under the id is the one that was answered.
    obtain rfl : sender = caller := by
      rcases sound.recording id response stage with
        ⟨other, owner, method, params, same, written⟩ | ⟨rfl, -⟩
      · rw [answers] at same
        cases same
        obtain ⟨_, _, _, named⟩ := sent
        rw [written] at named
        cases named
        obtain ⟨attempt, registered, rfl⟩ := sound.owned id _ there
        exact (sound.calls caller).mine attempt registered _ method params
          (List.mem_of_getElem? written)
      · cases answers
    rw [rpcStep, LspJsonRpc.stepReader, stage]
    simp only [there]
    refine ⟨⟨fun _ _ _ _ before => before, ?_, ?_, [], by simp, by simp⟩, rfl, .inl rfl⟩
    · intro other owner attempt apart before
      refine OrderedDict.get?_set_of_ne _ ?_ _
      rintro rfl
      rw [there] at before
      cases before
      exact apart rfl
    · intro owner attempt apart
      exact update_of_ne (fun same => apart (Prod.mk.inj same).1) _ _

/-! ## The end of the output -/

def Waits (rpc : LspJsonRpc) (caller : ℕ) : Prop :=
  ∃ attempt, (rpc.calls caller = .writing attempt ∨ rpc.calls caller = .waiting attempt) ∧
    rpc.signalled (caller, attempt.attempt) = false

/-- The failure of a call whose server is gone. -/
def ServerGone : Outcome → Prop
  | .failed .notRunning | .failed .lostConnection => True
  | outcome => serverCrashed.reply.outcome? 1 = some outcome

inductive Fails (rpc : LspJsonRpc) (caller : ℕ) : Prop where
  | signalled (attempt : Attempt) (awaits : (rpc.calls caller).awaits? = some attempt)
      (set : rpc.signalled (caller, attempt.attempt) = true)
      (crashed : rpc.responses.get? attempt.reqId = some serverCrashed)
  | leaving (attempt : Attempt) (response : Option Response) (outcome : Outcome)
      (leaves : rpc.calls caller = .leaving attempt response (some outcome))
      (gone : ServerGone outcome)
  | ended (response : Option Response) (outcome : Outcome)
      (ends : rpc.calls caller = .ended response outcome) (gone : ServerGone outcome)

/-- When the reader stops, every call that waits fails, unless the output has ended. -/
theorem Sound.fails_of_stops (sound : Sound rpc) {action : RpcAction}
    (careful : CarefulRpc rpc action) (runs : rpc.reader ≠ .stopped)
    (stops : (rpcStep rpc action).reader = .stopped) (goes : action ≠ .read .ends)
    (waits : Waits rpc caller) : Fails (rpcStep rpc action) caller := by
  obtain ⟨attempt, stage, unset⟩ := waits
  have awaits : (rpc.calls caller).awaits? = some attempt := by
    rcases stage with stage | stage <;> rw [stage] <;> rfl
  cases action with
  | call other request =>
    rw [rpcStep] at stops
    split at stops <;> exact absurd stops runs
  | step other outside =>
    exact absurd ((callStep outside (rpc.calls other)).reader.symm.trans stops) runs
  | read input =>
    cases reading : rpc.reader with
    | reading =>
      rw [rpcStep, reading] at stops
      cases input with
      | ends => exact absurd rfl goes
      | handled => exact absurd stops runs
      | fails => cases stops
      | reply answers reply =>
        simp only [LspJsonRpc.readMessage] at stops
        split at stops
        · split_ifs at stops <;> exact absurd stops runs
        · exact absurd stops runs
    | recording | failing | stopped =>
      rw [rpcStep, reading] at stops
      exact absurd stops runs
  | reader =>
    cases stage' : rpc.reader with
    | reading | stopped =>
      rw [rpcStep, LspJsonRpc.stepReader, stage'] at stops
      exact absurd stops runs
    | recording id response =>
      obtain ⟨event, there⟩ := careful.recording stage'
      rw [rpcStep, LspJsonRpc.stepReader, stage'] at stops
      simp only [there] at stops
      cases stops
    | failing =>
      have own := (sound.calls caller).own attempt (Call.registered_of_awaits awaits)
      rw [rpcStep, LspJsonRpc.stepReader, stage']
      exact .signalled attempt awaits (signalled_failAllPending own) (get?_failAllPending own)

/-- **The end of the output fails nobody.** -/
theorem not_fails_of_ends (waits : Waits rpc caller) :
    ¬Fails (rpcStep rpc (.read .ends)) caller := by
  obtain ⟨attempt, stage, unset⟩ := waits
  have calls : (rpcStep rpc (.read .ends)).calls = rpc.calls := by
    rw [rpcStep]
    split <;> rfl
  have signalled : (rpcStep rpc (.read .ends)).signalled = rpc.signalled := by
    rw [rpcStep]
    split <;> rfl
  intro fails
  cases fails with
  | signalled other awaits set _ =>
    rw [calls] at awaits
    rw [signalled] at set
    have same : attempt = other := by
      rcases stage with stage | stage <;> rw [stage] at awaits <;> exact Option.some.inj awaits
    rw [← same, unset] at set
    cases set
  | leaving _ _ _ leaves _ | ended _ _ leaves _ =>
    rw [calls] at leaves
    rcases stage with stage | stage <;> rw [stage] at leaves <;> cases leaves

theorem stopped_step (stopped : rpc.reader = .stopped) (action : RpcAction) :
    (rpcStep rpc action).reader = .stopped := by
  cases action with
  | call other request =>
    rw [rpcStep]
    split <;> exact stopped
  | step other outside => exact (callStep outside (rpc.calls other)).reader.trans stopped
  | read input =>
    rw [rpcStep, stopped]
    exact stopped
  | reader =>
    rw [rpcStep, LspJsonRpc.stepReader, stopped]
    exact stopped

theorem outcome?_serverCrashed (attempt : ℕ) : serverCrashed.reply.outcome? attempt =
    some (.failed (.server (-1) "server crashed".toList .null)) := by
  have final : ∀ attempt, ReplyError.shouldRetry
      ⟨some (-1), some "server crashed".toList, .null⟩ attempt = false := by
    intro attempt
    simp [ReplyError.shouldRetry]
  show (if _ = true then none else some _) = _
  rw [if_neg (by rw [final]; exact Bool.false_ne_true)]
  rfl

theorem serverGone_crashed {outcome : Outcome} {attempt : ℕ}
    (same : serverCrashed.reply.outcome? attempt = some outcome) : ServerGone outcome := by
  rw [outcome?_serverCrashed] at same
  cases same
  exact outcome?_serverCrashed 1

/-- A call whose event is set and that finds the crash leaves with a failure. -/
theorem fails_stepCall {call : Call} {attempt : Attempt} (awaits : call.awaits? = some attempt)
    (set : rpc.signalled (caller, attempt.attempt) = true)
    (crashed : rpc.responses.get? attempt.reqId = some serverCrashed) :
    ((rpc.stepCall caller outside call).2.awaits? = some attempt ∧
      (rpc.stepCall caller outside call).1.signalled (caller, attempt.attempt) = true ∧
      (rpc.stepCall caller outside call).1.responses.get? attempt.reqId = some serverCrashed) ∨
    ∃ response outcome, (rpc.stepCall caller outside call).2 =
      .leaving attempt response (some outcome) ∧ ServerGone outcome := by
  cases call with
  | idle | drawing | registering | cancelling | leaving | ended => cases awaits
  | writing attempt =>
    cases awaits
    rw [LspJsonRpc.stepCall, LspJsonRpc.writeRequest]
    split_ifs
    · exact .inr ⟨none, _, rfl, trivial⟩
    · exact .inr ⟨none, _, rfl, trivial⟩
    · exact .inl ⟨rfl, set, crashed⟩
  | waiting attempt =>
    cases awaits
    rw [LspJsonRpc.stepCall, if_pos set]
    exact .inl ⟨rfl, set, crashed⟩
  | taking attempt =>
    cases awaits
    rw [LspJsonRpc.stepCall, LspJsonRpc.takeResponse, crashed]
    have same := outcome?_serverCrashed attempt.attempt
    refine .inr ⟨some serverCrashed, _, ?_, serverGone_crashed same⟩
    show Call.leaving attempt _ (serverCrashed.reply.outcome? attempt.attempt) = _
    rw [same]

theorem Fails.step (fails : Fails rpc caller) (sound : Sound rpc) {action : RpcAction}
    (careful : CarefulRpc rpc action) (stopped : rpc.reader = .stopped) :
    Fails (rpcStep rpc action) caller := by
  cases action with
  | read input =>
    rw [rpcStep, stopped]
    exact fails
  | reader =>
    rw [rpcStep, LspJsonRpc.stepReader, stopped]
    exact fails
  | call other request =>
    rw [rpcStep]
    split
    next idle =>
      have same : rpc.calls caller ≠ .idle →
          Function.update rpc.calls other (.drawing request) caller = rpc.calls caller := by
        intro busy
        rw [update_of_ne]
        rintro rfl
        exact busy idle
      cases fails with
      | signalled attempt awaits set crashed =>
        refine .signalled attempt ((congrArg Call.awaits? (same ?_)).trans awaits) set crashed
        intro idle
        rw [idle] at awaits
        cases awaits
      | leaving attempt response outcome leaves gone =>
        exact .leaving attempt response outcome ((same (by simp [leaves])).trans leaves) gone
      | ended response outcome ends gone =>
        exact .ended response outcome ((same (by simp [ends])).trans ends) gone
    · exact fails
  | step other outside =>
    by_cases here : caller = other
    · subst here
      have after : (rpcStep rpc (.step caller outside)).calls caller =
          (rpc.stepCall caller outside (rpc.calls caller)).2 := update_self _ _ _
      cases fails with
      | signalled attempt awaits set crashed =>
        rcases fails_stepCall awaits set crashed with
          ⟨goes, stays, there⟩ | ⟨response, outcome, leaves, gone⟩
        · exact .signalled attempt ((congrArg Call.awaits? after).trans goes) stays there
        · exact .leaving attempt response outcome (after.trans leaves) gone
      | leaving _ response outcome leaves gone | ended response outcome leaves gone =>
        rw [leaves] at after
        exact .ended response outcome after gone
    · have frame := (callStep outside (rpc.calls other)).frame sound careful
      have same : (rpcStep rpc (.step other outside)).calls caller = rpc.calls caller :=
        update_of_ne here _ _
      cases fails with
      | signalled attempt awaits set crashed =>
        have own := (sound.calls caller).own attempt (Call.registered_of_awaits awaits)
        exact .signalled attempt ((congrArg Call.awaits? same).trans awaits)
          ((frame.signalled _ _ here).trans set)
          ((frame.responses _ _ _ here own).trans crashed)
      | leaving attempt response outcome leaves gone =>
        exact .leaving attempt response outcome (same.trans leaves) gone
      | ended response outcome ends gone =>
        exact .ended response outcome (same.trans ends) gone

/-! ## Runs -/

theorem sound_launched : Sound launched where
  counted := by
    refine ⟨le_refl _, nofun, nofun, fun _ _ _ => ⟨rfl, nofun⟩, ?_⟩
    rintro _ _ (⟨⟨⟩⟩ | ⟨⟨⟩⟩)
  calls _ := .of_unregistered rfl fun _ _ same => nomatch same
  owned _ _ there := nomatch there
  stored _ _ there := nomatch there
  recording _ _ same := nomatch same

theorem Sound.run {start : LspJsonRpc} (sound : Sound start) {actions : List RpcAction}
    (careful : Admissible rpcStep CarefulRpc start actions) :
    Sound (exec rpcStep start actions) :=
  careful.invariant (fun _ _ sound careful => sound.step careful) sound

theorem Fails.run {start : LspJsonRpc} (fails : Fails start caller) (sound : Sound start)
    (stopped : start.reader = .stopped) {actions : List RpcAction}
    (careful : Admissible rpcStep CarefulRpc start actions) :
    Fails (exec rpcStep start actions) caller := by
  induction actions generalizing start with
  | nil => exact fails
  | cons action actions ih =>
    exact ih (fails.step sound careful.1 stopped) (sound.step careful.1)
      (stopped_step stopped action) careful.2

/-- What holds in every state of a run: no two registered requests have the same id, and a call ends
with the reply to a request of its own, or for want of one. -/
structure Correlated (rpc : LspJsonRpc) : Prop where
  apart : ∀ caller other attempt request, caller ≠ other →
    (rpc.calls caller).registered? = some attempt → (rpc.calls other).registered? = some request →
      attempt.reqId ≠ request.reqId
  ends : ∀ caller response outcome, rpc.calls caller = .ended response outcome →
    Ends rpc caller response outcome

theorem Sound.correlated (sound : Sound rpc) : Correlated rpc where
  apart caller other attempt request different first second same := by
    have here := (sound.calls caller).own attempt first
    rw [same, (sound.calls other).own request second] at here
    exact different (Prod.mk.inj (Option.some.inj here)).1.symm
  ends caller := (sound.calls caller).ended

/-- **Replies reach their request.**  In every run in which the ids of retries and those that come
with a request keep clear of the counter and the reader stores replies to registered requests only,
the requests in flight have different ids, calls end with the reply to a request of their own, and
the handling of a reply changes nothing for other calls.  When the reader stops, all calls that wait
fail without their timeout exactly when it does not stop at the end of the output or none waits. -/
theorem replies_reach_their_request {actions : List RpcAction}
    (careful : Admissible rpcStep CarefulRpc launched actions) :
    ∀ before later, actions = before ++ later →
      Correlated (exec rpcStep launched before) ∧
      ∀ action rest, later = action :: rest →
        (∀ place sender, HandlesReply (exec rpcStep launched before) place action →
          SentBy (exec rpcStep launched before) sender place →
          Spares sender (exec rpcStep launched before)
            (exec rpcStep launched (before ++ [action]))) ∧
        ((exec rpcStep launched before).reader ≠ .stopped →
          (exec rpcStep launched (before ++ [action])).reader = .stopped →
          ((∀ caller, Waits (exec rpcStep launched before) caller → ∀ next, next <+: rest →
              Fails (exec rpcStep launched (before ++ [action] ++ next)) caller) ↔
            (action = .read .ends → ∀ caller, ¬Waits (exec rpcStep launched before) caller))) := by
  rintro before later rfl
  obtain ⟨earlier, run⟩ := admissible_append.mp careful
  have sound : Sound (exec rpcStep launched before) := sound_launched.run earlier
  refine ⟨sound.correlated, ?_⟩
  rintro action rest rfl
  have last : exec rpcStep launched (before ++ [action]) =
      rpcStep (exec rpcStep launched before) action := by
    rw [exec_append, exec_cons, exec_nil]
  constructor
  · intro place sender handles sent
    rw [last]
    exact sound.spares run.1 handles sent
  intro runs stops
  constructor
  · rintro fail rfl caller waits
    have now := fail caller waits [] (List.nil_prefix)
    rw [List.append_nil, last] at now
    exact not_fails_of_ends waits now
  · rintro silent caller waits next ⟨remaining, rfl⟩
    have goes : action ≠ .read .ends := fun ends => silent ends caller waits
    rw [exec_append, last]
    rw [last] at stops
    exact (sound.fails_of_stops run.1 runs stops goes waits).run (sound.step run.1) stops
      (admissible_append.mp run.2).1

/-! ## Two calls -/

def hover : LspRequest where
  method := "textDocument/hover".toList
  params := .null

def sends (caller : ℕ) : List RpcAction :=
  [.call caller hover, .step caller {}, .step caller {}, .step caller {}]

def takes (caller answers : ℕ) (reply : Reply) : List RpcAction :=
  [.read (.reply answers reply), .reader, .step caller {}, .step caller {}, .step caller {}]

def contentModified : Reply :=
  .error { code := some (-32801), message := some "content modified".toList, data := .null }

/-- The second of two calls in flight is asked to try again; then the first one is answered, and the
second one by the reply to its retry. -/
def answered : List RpcAction :=
  sends 0 ++ sends 1 ++ takes 1 1 contentModified ++ [.step 1 {}, .step 1 {}] ++
    takes 0 0 (.result (.scalar (.bool true))) ++ takes 1 2 (.result .null) ++
    [.step 0 {}, .step 1 {}]

theorem replies_reach_their_request_answered :
    Correlated (exec rpcStep launched answered) ∧
      (exec rpcStep launched answered).calls 0 =
        .ended (some ⟨some 0, .result (.scalar (.bool true))⟩) (.value (.scalar (.bool true))) ∧
      (exec rpcStep launched answered).calls 1 =
        .ended (some ⟨some 2, .result .null⟩) (.value .null) :=
  ⟨(replies_reach_their_request (by decide +kernel) answered [] (List.append_nil _).symm).1,
    rfl, rfl⟩

/-- The first call is asked to try again, with the id that the second one draws. -/
def collides : List RpcAction :=
  sends 0 ++ takes 0 0 contentModified ++
    [.step 0 {}, .call 1 hover, .step 1 {}, .step 1 {}, .step 0 {},
      .read (.reply 1 (.result .null)), .reader, .step 1 {}, .step 1 {}, .step 1 {}, .step 1 {}]

/-- The second call ends with the reply to the request of the first. -/
theorem retry_takes_reply_of_other :
    ¬ ∀ actions, Correlated (exec rpcStep launched actions) := by
  intro correlated
  have ended : (exec rpcStep launched collides).calls 1 =
      .ended (some { answers := some 1, reply := .result .null }) (.value .null) := rfl
  obtain ⟨-, ⟨crash, -⟩ | ⟨place, answers, id, method, params, sent⟩⟩ :=
    (correlated collides).ends 1 _ _ ended
  · cases crash
  · cases answers
    cases sent

end Audiagentic.CodingLsp
