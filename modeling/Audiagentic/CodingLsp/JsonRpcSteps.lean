import Audiagentic.CodingLsp.JsonRpc

/-!
# Steps of the bridge

The counter gives every request an id of its own as long as the ids of retries, and those that
requests came with, keep clear of it.  Then a step of a call is framed by the call: what is stored
for the others stays as it is.
-/

namespace Audiagentic.CodingLsp

open Foundations List OrderedDict Function

variable {rpc after : LspJsonRpc} {caller other : ℕ} {outside : Outside}

/-! ## All pending requests fail -/

theorem get?_foldl_crashed (entries : List (ℤ × Event)) (responses : OrderedDict ℤ Response)
    (id : ℤ) :
    (entries.foldl (fun responses entry => responses.set entry.1 serverCrashed)
      responses).get? id =
      if id ∈ entries.map Prod.fst then some serverCrashed else responses.get? id := by
  induction entries generalizing responses with
  | nil => rfl
  | cons entry entries ih =>
    rw [foldl_cons, ih, get?_set, map_cons]
    by_cases here : id = entry.1
    · rw [if_pos here, if_pos (mem_cons.mpr (.inl here)), ite_self]
    · simp only [mem_cons, here, false_or, if_false]

theorem get?_failAllPending {id : ℤ} {event : Event} (there : rpc.pending.get? id = some event) :
    rpc.failAllPending.responses.get? id = some serverCrashed := by
  unfold LspJsonRpc.failAllPending
  rw [get?_foldl_crashed, if_pos]
  exact OrderedDict.mem_keys_iff.mpr ⟨event, there⟩

theorem get?_failAllPending_cases {id : ℤ} {response : Response}
    (there : rpc.failAllPending.responses.get? id = some response) :
    response = serverCrashed ∨ rpc.responses.get? id = some response := by
  unfold LspJsonRpc.failAllPending at there
  rw [get?_foldl_crashed] at there
  split at there
  · exact .inl (Option.some.inj there).symm
  · exact .inr there

theorem signalled_failAllPending {id : ℤ} {event : Event}
    (there : rpc.pending.get? id = some event) :
    rpc.failAllPending.signalled event = true := by
  unfold LspJsonRpc.failAllPending
  simp only [Bool.or_eq_true, decide_eq_true_eq]
  exact .inr (List.mem_map.mpr ⟨(id, event), OrderedDict.mem_entries_iff.mpr there, rfl⟩)

/-! ## Frames -/

/-- What is stored for the calls other than one stays as it is, and that one alone may have sent
something, under an id for which it is registered. -/
structure Frame (caller : ℕ) (rpc after : LspJsonRpc) : Prop where
  pending : ∀ id other attempt, other ≠ caller → rpc.pending.get? id = some (other, attempt) →
    after.pending.get? id = some (other, attempt)
  responses : ∀ id other attempt, other ≠ caller → rpc.pending.get? id = some (other, attempt) →
    after.responses.get? id = rpc.responses.get? id
  signalled : ∀ other attempt, other ≠ caller →
    after.signalled (other, attempt) = rpc.signalled (other, attempt)
  written : ∃ sent, after.written = rpc.written ++ sent ∧
    ∀ sender id method params, Message.request sender id method params ∈ sent →
      sender = caller ∧ ∃ attempt, rpc.pending.get? id = some (caller, attempt)

theorem Frame.of_same (pending : after.pending = rpc.pending)
    (responses : after.responses = rpc.responses) (signalled : after.signalled = rpc.signalled)
    (written : after.written = rpc.written) : Frame caller rpc after where
  pending _ _ _ _ there := by rw [pending, there]
  responses _ _ _ _ _ := by rw [responses]
  signalled _ _ _ := by rw [signalled]
  written := ⟨[], by simp [written], by simp⟩

/-! ## The counter -/

/-- The counter has given the id to a request. -/
def HandedOut (rpc : LspJsonRpc) (id : ℤ) : Prop := 1 ≤ id ∧ id ≤ rpc.nextId

instance (rpc : LspJsonRpc) (id : ℤ) : Decidable (HandedOut rpc id) :=
  inferInstanceAs (Decidable (_ ∧ _))

def Call.KeepsClear (rpc : LspJsonRpc) : Call → Prop
  | .drawing request => request.id = none → rpc.nextId + 1 ∉ rpc.strays
  | .registering attempt =>
    ¬attempt.Drawn → attempt.reqId ∉ rpc.strays ∧ ¬HandedOut rpc attempt.reqId
  | _ => True

instance : ∀ call : Call, Decidable (call.KeepsClear rpc)
  | .drawing _ => inferInstanceAs (Decidable (_ → _))
  | .registering _ => inferInstanceAs (Decidable (_ → _))
  | .idle | .writing _ | .waiting _ | .cancelling _ | .taking _ | .leaving _ _ _ | .ended _ _ =>
    .isTrue trivial

def Reader.IsAwaited (rpc : LspJsonRpc) : Reader → Prop
  | .recording id _ => (rpc.pending.get? id).isSome = true
  | _ => True

instance : ∀ reader : Reader, Decidable (reader.IsAwaited rpc)
  | .recording _ _ => inferInstanceAs (Decidable (_ = true))
  | .reading | .failing | .stopped => .isTrue trivial

/-- The ids of retries, and those that requests came with, keep clear of the counter and of one
another; and the reader stores a reply while its request is still registered. -/
def CarefulRpc (rpc : LspJsonRpc) : RpcAction → Prop
  | .step caller _ => (rpc.calls caller).KeepsClear rpc
  | .reader => rpc.reader.IsAwaited rpc
  | _ => True

instance : ∀ action : RpcAction, Decidable (CarefulRpc rpc action)
  | .step caller _ => inferInstanceAs (Decidable ((rpc.calls caller).KeepsClear rpc))
  | .reader => inferInstanceAs (Decidable (rpc.reader.IsAwaited rpc))
  | .call _ _ | .read _ => .isTrue trivial

theorem CarefulRpc.recording (careful : CarefulRpc rpc .reader) {id : ℤ} {response : Response}
    (stage : rpc.reader = .recording id response) : ∃ event, rpc.pending.get? id = some event := by
  have awaited : rpc.reader.IsAwaited rpc := careful
  rw [stage] at awaited
  exact Option.isSome_iff_exists.mp awaited

def Call.registered? : Call → Option Attempt
  | .writing attempt | .waiting attempt | .cancelling attempt | .taking attempt => some attempt
  | .leaving attempt _ _ => some attempt
  | _ => none

/-- No registered request has the id, and none was sent with it. -/
def Unused (rpc : LspJsonRpc) (id : ℤ) : Prop :=
  rpc.pending.get? id = none ∧
    ∀ sender method params, Message.request sender id method params ∉ rpc.written

/-- What the counter gives is unused until it is registered, by one call only. -/
structure Counted (rpc : LspJsonRpc) : Prop where
  started : 0 ≤ rpc.nextId
  drawn : ∀ caller attempt, rpc.calls caller = .registering attempt → attempt.Drawn →
    HandedOut rpc attempt.reqId ∧ Unused rpc attempt.reqId
  apart : ∀ caller other attempt request, caller ≠ other →
    rpc.calls caller = .registering attempt → rpc.calls other = .registering request →
    attempt.Drawn → request.Drawn → attempt.reqId ≠ request.reqId
  unused : ∀ id, ¬HandedOut rpc id → id ∉ rpc.strays → Unused rpc id
  counts : ∀ caller attempt, rpc.calls caller = .registering attempt ∨
    (rpc.calls caller).registered? = some attempt → 1 ≤ attempt.attempt

/-- **A request is registered under an unused id.** -/
theorem Counted.registering (counted : Counted rpc)
    (careful : CarefulRpc rpc (.step caller outside)) {attempt : Attempt}
    (stage : rpc.calls caller = .registering attempt) : Unused rpc attempt.reqId := by
  by_cases drawn : attempt.Drawn
  · exact (counted.drawn caller attempt stage drawn).2
  · have clear : (rpc.calls caller).KeepsClear rpc := careful
    rw [stage] at clear
    obtain ⟨unstrayed, unhanded⟩ := clear drawn
    exact counted.unused _ unhanded unstrayed

/-- A step after which one call is not about to register a drawn id. -/
theorem Counted.moves (counted : Counted rpc) {next : Call} (nextId : after.nextId = rpc.nextId)
    (strays : after.strays = rpc.strays) (unused : ∀ id, Unused rpc id → Unused after id)
    (calls : after.calls = update rpc.calls caller next)
    (undrawn : ∀ attempt, next = .registering attempt → ¬attempt.Drawn)
    (counts : ∀ attempt, next = .registering attempt ∨ next.registered? = some attempt →
      1 ≤ attempt.attempt) : Counted after := by
  have handed : ∀ id, HandedOut after id ↔ HandedOut rpc id := by
    intro id
    rw [HandedOut, HandedOut, nextId]
  have before : ∀ other attempt, after.calls other = .registering attempt → attempt.Drawn →
      rpc.calls other = .registering attempt := by
    intro other attempt stage drawn
    rw [calls] at stage
    by_cases here : other = caller
    · rw [here, update_self] at stage
      exact absurd drawn (undrawn attempt stage)
    · rwa [update_of_ne here] at stage
  constructor
  · rw [nextId]
    exact counted.started
  · intro other attempt stage drawn
    obtain ⟨given, free⟩ := counted.drawn other attempt (before other attempt stage drawn) drawn
    exact ⟨(handed _).mpr given, unused _ free⟩
  · intro first second attempt request different here there drawn drawn'
    exact counted.apart first second attempt request different (before first attempt here drawn)
      (before second request there drawn') drawn drawn'
  · intro id unhanded unstrayed
    rw [handed] at unhanded
    rw [strays] at unstrayed
    exact unused id (counted.unused id unhanded unstrayed)
  · intro other attempt stage
    rw [calls] at stage
    by_cases here : other = caller
    · rw [here, update_self] at stage
      exact counts attempt stage
    · rw [update_of_ne here] at stage
      exact counted.counts other attempt stage

/-- A step that neither registers nor sends anything. -/
theorem Counted.of_same (counted : Counted rpc) (nextId : after.nextId = rpc.nextId)
    (strays : after.strays = rpc.strays) (pending : after.pending = rpc.pending)
    (written : after.written = rpc.written) (calls : after.calls = rpc.calls) : Counted after := by
  obtain ⟨started, drawn, apart, unused, counts⟩ := counted
  constructor <;> simp only [HandedOut, Unused, nextId, strays, pending, written, calls] <;>
    assumption

/-! ## The invariant -/

/-- The request of a call that is going to look at its event or its response. -/
def Call.awaits? : Call → Option Attempt
  | .writing attempt | .waiting attempt | .taking attempt => some attempt
  | _ => none

theorem Call.registered_of_awaits {call : Call} {attempt : Attempt}
    (awaits : call.awaits? = some attempt) : call.registered? = some attempt := by
  cases call with
  | writing | waiting | taking => exact awaits
  | _ => cases awaits

def SentBy (rpc : LspJsonRpc) (caller place : ℕ) : Prop :=
  ∃ id method params, rpc.written[place]? = some (.request caller id method params)

/-- How a call may end: with what the reply to one of its own requests says, with the crash when the
output is no longer read, or for want of a reply. -/
def Ends (rpc : LspJsonRpc) (caller : ℕ) : Option Response → Outcome → Prop
  | some response, outcome =>
    (∃ attempt, response.reply.outcome? attempt = some outcome) ∧
      (response = serverCrashed ∧ rpc.reader = .stopped ∨
        ∃ place, response.answers = some place ∧ SentBy rpc caller place)
  | none, .failed (.timedOut _ _) | none, .failed .notRunning
  | none, .failed .lostConnection => True
  | none, _ => False

structure SoundCall (rpc : LspJsonRpc) (caller : ℕ) (call : Call) : Prop where
  own : ∀ attempt, call.registered? = some attempt →
    rpc.pending.get? attempt.reqId = some (caller, attempt.attempt)
  mine : ∀ attempt, call.registered? = some attempt → ∀ sender method params,
    Message.request sender attempt.reqId method params ∈ rpc.written → sender = caller
  ready : ∀ attempt, call.awaits? = some attempt →
    rpc.signalled (caller, attempt.attempt) = true →
      ∃ response, rpc.responses.get? attempt.reqId = some response
  taking : ∀ attempt, call = .taking attempt →
    rpc.signalled (caller, attempt.attempt) = true
  leaving : ∀ attempt response outcome, call = .leaving attempt response (some outcome) →
    Ends rpc caller response outcome
  ended : ∀ response outcome, call = .ended response outcome → Ends rpc caller response outcome

/-- The response stands under the id of the request that it answers; without one it is the crash,
which is stored when the reader stops. -/
def Stored (rpc : LspJsonRpc) (id : ℤ) (response : Response) : Prop :=
  (∃ place sender method params, response.answers = some place ∧
    rpc.written[place]? = some (.request sender id method params)) ∨
  (response = serverCrashed ∧ rpc.reader = .stopped)

structure Sound (rpc : LspJsonRpc) : Prop where
  counted : Counted rpc
  calls : ∀ caller, SoundCall rpc caller (rpc.calls caller)
  owned : ∀ id event, rpc.pending.get? id = some event →
    ∃ attempt, (rpc.calls event.1).registered? = some attempt ∧ attempt.reqId = id
  stored : ∀ id response, rpc.responses.get? id = some response → Stored rpc id response
  recording : ∀ id response, rpc.reader = .recording id response → Stored rpc id response

theorem Ends.later {response : Option Response} {outcome : Outcome}
    (ends : Ends rpc caller response outcome) (reader : rpc.reader = .stopped →
      after.reader = .stopped) (written : ∃ sent, after.written = rpc.written ++ sent) :
    Ends after caller response outcome := by
  obtain ⟨sent, written⟩ := written
  cases response with
  | none =>
    cases outcome with
    | value value => exact ends
    | failed failure =>
      cases failure with
      | server | notRunning | timedOut | noResponse | lostConnection => exact ends
  | some response =>
    refine ⟨ends.1, ends.2.imp (fun crashed => ⟨crashed.1, reader crashed.2⟩) ?_⟩
    rintro ⟨place, answers, id, method, params, there⟩
    refine ⟨place, answers, id, method, params, ?_⟩
    rw [written]
    exact getElem?_append_left (List.getElem?_eq_some_iff.mp there).1 ▸ there

theorem Stored.later {id : ℤ} {response : Response} (stored : Stored rpc id response)
    (reader : rpc.reader = .stopped → after.reader = .stopped)
    (written : ∃ sent, after.written = rpc.written ++ sent) : Stored after id response := by
  obtain ⟨sent, written⟩ := written
  refine stored.imp ?_ fun crashed => ⟨crashed.1, reader crashed.2⟩
  rintro ⟨place, sender, method, params, answers, there⟩
  refine ⟨place, sender, method, params, answers, ?_⟩
  rw [written]
  exact getElem?_append_left (List.getElem?_eq_some_iff.mp there).1 ▸ there

/-- **The frame rule.**  What holds of a call holds after a step for another one. -/
theorem SoundCall.frame {call : Call} (sound : SoundCall rpc other call)
    (frame : Frame caller rpc after) (apart : other ≠ caller)
    (reader : rpc.reader = .stopped → after.reader = .stopped) :
    SoundCall after other call where
  own attempt registered := frame.pending _ _ _ apart (sound.own attempt registered)
  mine attempt registered sender method params member := by
    obtain ⟨sent, written, owners⟩ := frame.written
    rw [written] at member
    rcases mem_append.mp member with before | now
    · exact sound.mine attempt registered sender method params before
    obtain ⟨-, _, there⟩ := owners _ _ _ _ now
    rw [sound.own attempt registered] at there
    cases there
    exact absurd rfl apart
  ready attempt awaits signalled := by
    have registered := Call.registered_of_awaits awaits
    rw [frame.responses _ _ _ apart (sound.own attempt registered)]
    exact sound.ready attempt awaits (frame.signalled _ _ apart ▸ signalled)
  taking attempt takes := by
    rw [frame.signalled _ _ apart]
    exact sound.taking attempt takes
  leaving attempt response outcome leaves :=
    (sound.leaving attempt response outcome leaves).later reader
      (frame.written.imp fun _ written => written.1)
  ended response outcome ends :=
    (sound.ended response outcome ends).later reader
      (frame.written.imp fun _ written => written.1)

/-! ## Steps of a call -/

inductive CallStep (rpc : LspJsonRpc) (caller : ℕ) : Call → LspJsonRpc → Call → Prop
  | stays {call : Call} : CallStep rpc caller call rpc call
  | draws {request : LspRequest} (drawn : request.id = none) :
    CallStep rpc caller (.drawing request) { rpc with nextId := rpc.nextId + 1 }
      (.registering { request := request, id := rpc.nextId + 1 })
  | brings {request : LspRequest} {id : ℤ} (brought : request.id = some id) :
    CallStep rpc caller (.drawing request) rpc (.registering { request := request, id := id })
  | registers {attempt : Attempt} :
    CallStep rpc caller (.registering attempt)
      { rpc with
        pending := rpc.pending.set attempt.reqId (caller, attempt.attempt)
        signalled := Function.update rpc.signalled (caller, attempt.attempt) false
        strays := if attempt.Drawn then rpc.strays else attempt.reqId :: rpc.strays }
      (.writing attempt)
  | writes {attempt : Attempt} :
    CallStep rpc caller (.writing attempt)
      { rpc with
        written := rpc.written ++ [.request caller attempt.reqId attempt.request.method
          attempt.request.params] }
      (.waiting attempt)
  | takes {attempt : Attempt} (signalled : rpc.signalled (caller, attempt.attempt) = true) :
    CallStep rpc caller (.waiting attempt) rpc (.taking attempt)
  | elapses {attempt : Attempt} : CallStep rpc caller (.waiting attempt) rpc (.cancelling attempt)
  | cancels {attempt : Attempt} {outcome : Outcome} (ends : ∀ rpc, Ends rpc caller none outcome) :
    CallStep rpc caller (.cancelling attempt)
      { rpc with written := rpc.written ++ [.cancel attempt.reqId] }
      (.leaving attempt none (some outcome))
  | fails {call : Call} {attempt : Attempt} {outcome : Outcome}
    (registered : call.registered? = some attempt) (ends : ∀ rpc, Ends rpc caller none outcome) :
    CallStep rpc caller call rpc (.leaving attempt none (some outcome))
  | misses {attempt : Attempt} {outcome : Option Outcome}
    (absent : rpc.responses.get? attempt.reqId = none) :
    CallStep rpc caller (.taking attempt) rpc (.leaving attempt none outcome)
  | reads {attempt : Attempt} {response : Response}
    (there : rpc.responses.get? attempt.reqId = some response) :
    CallStep rpc caller (.taking attempt)
      { rpc with responses := rpc.responses.pop attempt.reqId }
      (.leaving attempt (some response) (response.reply.outcome? attempt.attempt))
  | retries {attempt : Attempt} {response : Option Response} :
    CallStep rpc caller (.leaving attempt response none)
      { rpc with pending := rpc.pending.pop attempt.reqId }
      (.registering { attempt with attempt := attempt.attempt + 1 })
  | leaves {attempt : Attempt} {response : Option Response} {outcome : Outcome} :
    CallStep rpc caller (.leaving attempt response (some outcome))
      { rpc with pending := rpc.pending.pop attempt.reqId } (.ended response outcome)

theorem callStep (outside : Outside) (call : Call) :
    CallStep rpc caller call (rpc.stepCall caller outside call).1
      (rpc.stepCall caller outside call).2 := by
  cases call with
  | idle | ended => exact .stays
  | drawing request =>
    rw [LspJsonRpc.stepCall]
    split
    · next brought => exact .brings brought
    · next drawn => exact .draws drawn
  | registering attempt => exact .registers
  | writing attempt =>
    rw [LspJsonRpc.stepCall, LspJsonRpc.writeRequest]
    split_ifs
    · exact .fails rfl fun _ => trivial
    · exact .fails rfl fun _ => trivial
    · exact .writes
  | waiting attempt =>
    rw [LspJsonRpc.stepCall]
    split_ifs with signalled
    · exact .takes signalled
    · exact .elapses
    · exact .stays
  | cancelling attempt =>
    rw [LspJsonRpc.stepCall, LspJsonRpc.sendCancel]
    split_ifs
    · exact .cancels fun _ => trivial
    · exact .fails rfl fun _ => trivial
  | taking attempt =>
    rw [LspJsonRpc.stepCall, LspJsonRpc.takeResponse]
    split
    · next absent => exact .misses absent
    · next there => exact .reads there
  | leaving attempt response outcome =>
    cases outcome with
    | none => exact .retries
    | some outcome => exact .leaves

namespace CallStep

variable {call next : Call}

section

variable (step : CallStep rpc caller call after next)
include step

theorem reader : after.reader = rpc.reader := by
  cases step <;> rfl

theorem written :
    ∃ sent, after.written = rpc.written ++ sent := by
  cases step with
  | writes | cancels => exact ⟨_, rfl⟩
  | _ => exact ⟨[], (append_nil _).symm⟩

theorem responses {id : ℤ} {response : Response} (there : after.responses.get? id = some response) :
    rpc.responses.get? id = some response := by
  cases step with
  | reads =>
    rw [get?_pop] at there
    split at there
    · cases there
    · exact there
  | _ => exact there

end

/-- **A step of a call is framed by it.** -/
theorem frame (sound : Sound rpc) (careful : CarefulRpc rpc (.step caller outside))
    (step : CallStep rpc caller (rpc.calls caller) after next) : Frame caller rpc after := by
  have own := (sound.calls caller).own
  -- An id of another call is none for which this one is registered.
  have elsewhere : ∀ attempt, (rpc.calls caller).registered? = some attempt →
      ∀ id other number, other ≠ caller → rpc.pending.get? id = some (other, number) →
        id ≠ attempt.reqId := by
    rintro attempt registered id other number apart there rfl
    rw [own attempt registered] at there
    cases there
    exact apart rfl
  generalize stage : rpc.calls caller = call at step own elsewhere
  cases step with
  | @registers attempt =>
    obtain ⟨free, -⟩ := sound.counted.registering careful stage
    refine ⟨?_, fun _ _ _ _ _ => rfl, ?_, [], by simp, by simp⟩
    · intro id other number apart there
      have different : id ≠ attempt.reqId := by
        rintro rfl
        rw [free] at there
        cases there
      exact (get?_set_of_ne _ different _).trans there
    · intro other number apart
      exact update_of_ne (fun same => apart (Prod.mk.inj same).1) _ _
  | @writes attempt =>
    refine ⟨fun _ _ _ _ there => there, fun _ _ _ _ _ => rfl, fun _ _ _ => rfl, _, rfl, ?_⟩
    intro sender id method params member
    cases mem_singleton.mp member
    exact ⟨rfl, _, own attempt rfl⟩
  | cancels =>
    refine ⟨fun _ _ _ _ there => there, fun _ _ _ _ _ => rfl, fun _ _ _ => rfl, _, rfl, ?_⟩
    intro sender id method params member
    cases mem_singleton.mp member
  | @reads attempt =>
    refine ⟨fun _ _ _ _ there => there, ?_, fun _ _ _ => rfl, [], by simp, by simp⟩
    intro id other number apart there
    exact (get?_pop _ _ _).trans
      (if_neg (elsewhere attempt rfl id other number apart there))
  | @leaves attempt | @retries attempt =>
    refine ⟨?_, fun _ _ _ _ _ => rfl, fun _ _ _ => rfl, [], by simp, by simp⟩
    intro id other number apart there
    refine (get?_pop _ _ _).trans ?_
    rw [if_neg (elsewhere attempt rfl id other number apart there), there]
  | _ => exact .of_same rfl rfl rfl rfl

end CallStep

theorem SoundCall.of_unregistered {call : Call} (unregistered : call.registered? = none)
    (ended : ∀ response outcome, call = .ended response outcome →
      Ends rpc caller response outcome) : SoundCall rpc caller call where
  own attempt registered := by
    rw [unregistered] at registered
    cases registered
  mine attempt registered := by
    rw [unregistered] at registered
    cases registered
  ready attempt awaits := by
    cases call with
    | writing | waiting | taking => cases unregistered
    | _ => cases awaits
  taking attempt takes := by
    rw [takes] at unregistered
    cases unregistered
  leaving attempt response outcome leaves := by
    rw [leaves] at unregistered
    cases unregistered
  ended := ended

theorem SoundCall.leave {call : Call} (sound : SoundCall rpc caller call) {attempt : Attempt}
    (registered : call.registered? = some attempt) {response : Option Response}
    {outcome : Option Outcome} (pending : after.pending = rpc.pending)
    (written : ∀ message ∈ after.written, message ∈ rpc.written ∨ message = .cancel attempt.reqId)
    (ends : ∀ result, outcome = some result → Ends after caller response result) :
    SoundCall after caller (.leaving attempt response outcome) where
  own other same := by
    cases same
    rw [pending]
    exact sound.own attempt registered
  mine other same sender method params member := by
    cases same
    exact sound.mine attempt registered sender method params
      ((written _ member).resolve_right Message.noConfusion)
  ready other awaits := by cases awaits
  taking other takes := by cases takes
  leaving other taken result leaves := by
    cases leaves
    exact ends result rfl
  ended taken result ended := by cases ended

/-- **A step of a call keeps what holds of it.** -/
theorem CallStep.sound {next : Call} (sound : Sound rpc)
    (careful : CarefulRpc rpc (.step caller outside))
    (step : CallStep rpc caller (rpc.calls caller) after next) : SoundCall after caller next := by
  have here := sound.calls caller
  generalize stage : rpc.calls caller = call at step here
  cases step with
  | stays => exact here
  | draws | brings | retries => exact .of_unregistered rfl fun _ _ same => nomatch same
  | @registers attempt =>
    obtain ⟨-, unsent⟩ := sound.counted.registering careful stage
    constructor
    · rintro _ ⟨⟩
      exact get?_set_self _ _ _
    · rintro _ ⟨⟩ sender method params member
      exact absurd member (unsent sender method params)
    · rintro _ ⟨⟩ signalled
      have unset : Function.update rpc.signalled (caller, attempt.attempt) false
          (caller, attempt.attempt) = true := signalled
      rw [update_self] at unset
      cases unset
    · rintro _ ⟨⟩
    · rintro _ _ _ ⟨⟩
    · rintro _ _ ⟨⟩
  | @writes attempt =>
    refine ⟨here.own, ?_, here.ready, ?_, ?_, ?_⟩
    · rintro _ ⟨⟩ sender method params member
      rcases mem_append.mp member with before | now
      · exact here.mine attempt rfl sender method params before
      · cases mem_singleton.mp now
        rfl
    · rintro _ ⟨⟩
    · rintro _ _ _ ⟨⟩
    · rintro _ _ ⟨⟩
  | takes signalled =>
    refine ⟨here.own, here.mine, here.ready, ?_, ?_, ?_⟩
    · rintro _ ⟨⟩
      exact signalled
    · rintro _ _ _ ⟨⟩
    · rintro _ _ ⟨⟩
  | elapses =>
    refine ⟨here.own, here.mine, ?_, ?_, ?_, ?_⟩
    · rintro _ ⟨⟩
    · rintro _ ⟨⟩
    · rintro _ _ _ ⟨⟩
    · rintro _ _ ⟨⟩
  | cancels ends =>
    refine here.leave rfl rfl ?_ (by rintro _ ⟨⟩; exact ends _)
    intro message member
    exact (mem_append.mp member).imp id mem_singleton.mp
  | fails registered ends =>
    exact here.leave registered rfl (fun _ member => .inl member) (by rintro _ ⟨⟩; exact ends _)
  | @misses attempt _ absent =>
    obtain ⟨response, there⟩ := here.ready attempt rfl (here.taking attempt rfl)
    cases absent.symm.trans there
  | @reads attempt response there =>
    refine here.leave rfl rfl (fun _ member => .inl member) ?_
    intro outcome ends
    refine ⟨⟨attempt.attempt, ends⟩, ?_⟩
    rcases sound.stored _ _ there with ⟨place, sender, method, params, answers, sent⟩ | crashed
    · obtain rfl := here.mine attempt rfl sender method params (mem_of_getElem? sent)
      exact .inr ⟨place, answers, _, method, params, sent⟩
    · exact .inl crashed
  | @leaves attempt =>
    refine .of_unregistered rfl ?_
    rintro _ _ ⟨⟩
    exact (here.leaving attempt _ _ rfl).later id ⟨[], (append_nil _).symm⟩

theorem update_cases (calls : ℕ → Call) (caller : ℕ) (next : Call) (other : ℕ) :
    other = caller ∧ update calls caller next other = next ∨
      other ≠ caller ∧ update calls caller next other = calls other := by
  by_cases here : other = caller
  · exact .inl ⟨here, here ▸ update_self _ _ _⟩
  · exact .inr ⟨here, update_of_ne here _ _⟩

/-- The counter goes on, and a call is about to register what it gave. -/
theorem Counted.draws (counted : Counted rpc) {request : LspRequest}
    (clear : rpc.nextId + 1 ∉ rpc.strays) :
    Counted { rpc with
      nextId := rpc.nextId + 1
      calls := update rpc.calls caller
        (.registering { request := request, id := rpc.nextId + 1 }) } := by
  have started := counted.started
  have above : ¬HandedOut rpc (rpc.nextId + 1) := fun given => by
    have := given.2
    omega
  have handed : ∀ id, HandedOut rpc id → 1 ≤ id ∧ id ≤ rpc.nextId + 1 := by
    rintro id ⟨low, high⟩
    omega
  have reqId : Attempt.reqId { request := request, id := rpc.nextId + 1 } = rpc.nextId + 1 := by
    simp [Attempt.reqId]
  -- A drawn id is the new one or was drawn before, and is then another.
  have before : ∀ other attempt, update rpc.calls caller
      (.registering { request := request, id := rpc.nextId + 1 }) other = .registering attempt →
      other = caller ∧ attempt.reqId = rpc.nextId + 1 ∧ 1 ≤ attempt.attempt ∨
        other ≠ caller ∧ rpc.calls other = .registering attempt := by
    intro other attempt stage
    rcases update_cases rpc.calls caller _ other with ⟨here, same⟩ | ⟨here, same⟩
    · cases same.symm.trans stage
      exact .inl ⟨here, reqId, le_refl 1⟩
    · exact .inr ⟨here, same.symm.trans stage⟩
  have other : ∀ other attempt, rpc.calls other = .registering attempt → attempt.Drawn →
      attempt.reqId ≠ rpc.nextId + 1 := by
    intro other attempt stage drawn same
    exact above (same ▸ (counted.drawn other attempt stage drawn).1)
  constructor
  · show 0 ≤ rpc.nextId + 1
    omega
  · intro other attempt stage drawn
    rcases before other attempt stage with ⟨-, same, -⟩ | ⟨-, stage⟩
    · rw [same]
      exact ⟨⟨by omega, le_refl _⟩, counted.unused _ above clear⟩
    · obtain ⟨given, free⟩ := counted.drawn other attempt stage drawn
      exact ⟨handed _ given, free⟩
  · intro first second attempt request' different here there drawn drawn'
    rcases before first attempt here with ⟨mine, same, -⟩ | ⟨-, here⟩ <;>
      rcases before second request' there with ⟨yours, same', -⟩ | ⟨-, there⟩
    · exact absurd (mine.trans yours.symm) different
    · exact same ▸ (other second request' there drawn').symm
    · exact same' ▸ other first attempt here drawn
    · exact counted.apart first second attempt request' different here there drawn drawn'
  · intro id unhanded unstrayed
    exact counted.unused id (fun given => unhanded (handed id given)) unstrayed
  · rintro other attempt (stage | registered)
    · rcases before other attempt stage with ⟨-, -, first⟩ | ⟨-, stage⟩
      · exact first
      · exact counted.counts other attempt (.inl stage)
    · rcases update_cases rpc.calls caller _ other with ⟨-, same⟩ | ⟨-, same⟩
      · cases (congrArg Call.registered? same).symm.trans registered
      · exact counted.counts other attempt
          (.inr ((congrArg Call.registered? same).symm.trans registered))

/-- A call registers its request. -/
theorem Counted.registers (counted : Counted rpc) {attempt : Attempt}
    (stage : rpc.calls caller = .registering attempt)
    (clear : ¬attempt.Drawn → attempt.reqId ∉ rpc.strays ∧ ¬HandedOut rpc attempt.reqId) :
    Counted { rpc with
      pending := rpc.pending.set attempt.reqId (caller, attempt.attempt)
      signalled := update rpc.signalled (caller, attempt.attempt) false
      strays := if attempt.Drawn then rpc.strays else attempt.reqId :: rpc.strays
      calls := update rpc.calls caller (.writing attempt) } := by
  have stays : ∀ other request, update rpc.calls caller (.writing attempt) other =
      .registering request → other ≠ caller ∧ rpc.calls other = .registering request := by
    intro other request there
    rcases update_cases rpc.calls caller (.writing attempt) other with ⟨-, same⟩ | ⟨here, same⟩
    · cases same.symm.trans there
    · exact ⟨here, same.symm.trans there⟩
  refine ⟨counted.started, ?_, ?_, ?_, ?_⟩
  · intro other request there drawn
    obtain ⟨here, there⟩ := stays other request there
    obtain ⟨given, free, unsent⟩ := counted.drawn other request there drawn
    -- The other drawn ids are not the one that is registered.
    have apart : request.reqId ≠ attempt.reqId := by
      intro same
      by_cases mine : attempt.Drawn
      · exact counted.apart other caller request attempt here there stage drawn mine same
      · exact (clear mine).2 (same ▸ given)
    exact ⟨given, (get?_set_of_ne _ apart _).trans free, unsent⟩
  · intro first second request request' different here there drawn drawn'
    exact counted.apart first second request request' different (stays first request here).2
      (stays second request' there).2 drawn drawn'
  · intro id unhanded unstrayed
    replace unstrayed : id ∉ if attempt.Drawn then rpc.strays
      else attempt.reqId :: rpc.strays := unstrayed
    split_ifs at unstrayed with drawn
    · obtain ⟨free, unsent⟩ := counted.unused id unhanded unstrayed
      refine ⟨(get?_set_of_ne _ ?_ _).trans free, unsent⟩
      rintro rfl
      exact unhanded (counted.drawn caller attempt stage drawn).1
    · obtain ⟨elsewhere, unstrayed⟩ := not_or.mp (mem_cons.not.mp unstrayed)
      obtain ⟨free, unsent⟩ := counted.unused id unhanded unstrayed
      exact ⟨(get?_set_of_ne _ elsewhere _).trans free, unsent⟩
  · intro other request there
    replace there : update rpc.calls caller (.writing attempt) other = .registering request ∨
      (update rpc.calls caller (.writing attempt) other).registered? = some request := there
    rcases update_cases rpc.calls caller (.writing attempt) other with ⟨-, same⟩ | ⟨-, same⟩ <;>
      rw [same] at there
    · rcases there with ⟨⟨⟩⟩ | ⟨⟨⟩⟩
      exact counted.counts caller _ (.inl stage)
    · exact counted.counts other request there

/-- **A step of a call keeps what is counted.** -/
theorem CallStep.counted {next : Call} (sound : Sound rpc)
    (careful : CarefulRpc rpc (.step caller outside))
    (step : CallStep rpc caller (rpc.calls caller) after next) :
    Counted { after with calls := update rpc.calls caller next } := by
  have counted := sound.counted
  have own := (sound.calls caller).own
  have counts := counted.counts caller
  have clear : (rpc.calls caller).KeepsClear rpc := careful
  generalize stage : rpc.calls caller = call at step own counts clear
  cases step with
  | stays =>
    rw [← stage, update_eq_self]
    exact counted
  | draws drawn => exact counted.draws (clear drawn)
  | registers => exact counted.registers stage clear
  | @brings request id brought =>
    refine counted.moves rfl rfl (fun _ free => free) rfl ?_ ?_
    · rintro _ ⟨⟩ ⟨drawn, -⟩
      cases brought.symm.trans drawn
    · rintro _ (⟨⟨⟩⟩ | ⟨⟨⟩⟩)
      exact le_refl 1
  | @writes attempt =>
    refine counted.moves rfl rfl ?_ rfl nofun ?_
    · rintro id ⟨free, unsent⟩
      refine ⟨free, fun sender method params member => ?_⟩
      rcases mem_append.mp member with before | now
      · exact unsent sender method params before
      · cases mem_singleton.mp now
        rw [own attempt rfl] at free
        cases free
    · rintro _ (⟨⟨⟩⟩ | ⟨⟨⟩⟩)
      exact counts _ (.inr rfl)
  | @cancels attempt =>
    refine counted.moves rfl rfl ?_ rfl nofun ?_
    · rintro id ⟨free, unsent⟩
      refine ⟨free, fun sender method params member => ?_⟩
      exact unsent sender method params
        ((mem_append.mp member).resolve_right fun now => nomatch mem_singleton.mp now)
    · rintro _ (⟨⟨⟩⟩ | ⟨⟨⟩⟩)
      exact counts _ (.inr rfl)
  | @retries attempt =>
    refine counted.moves rfl rfl ?_ rfl ?_ ?_
    · rintro id ⟨free, unsent⟩
      exact ⟨(get?_pop _ _ _).trans (by rw [free, ite_self]), unsent⟩
    · rintro _ ⟨⟩ ⟨-, first⟩
      have : attempt.attempt + 1 = 1 := first
      have := counts attempt (.inr rfl)
      omega
    · rintro _ (⟨⟨⟩⟩ | ⟨⟨⟩⟩)
      exact Nat.le_add_left _ _
  | @leaves attempt =>
    refine counted.moves rfl rfl ?_ rfl nofun ?_
    · rintro id ⟨free, unsent⟩
      exact ⟨(get?_pop _ _ _).trans (by rw [free, ite_self]), unsent⟩
    · rintro _ (⟨⟨⟩⟩ | ⟨⟨⟩⟩)
  | fails registered =>
    refine counted.moves rfl rfl (fun _ free => free) rfl nofun ?_
    rintro _ (⟨⟨⟩⟩ | ⟨⟨⟩⟩)
    exact counts _ (.inr registered)
  | takes | elapses | misses | reads =>
    refine counted.moves rfl rfl (fun _ free => free) rfl nofun ?_
    rintro _ (⟨⟨⟩⟩ | ⟨⟨⟩⟩)
    exact counts _ (.inr rfl)

theorem CallStep.pending {next : Call} (sound : Sound rpc) {id : ℤ} {event : Event}
    (step : CallStep rpc caller (rpc.calls caller) after next)
    (there : after.pending.get? id = some event) :
    event.1 = caller ∧ (∃ attempt, next.registered? = some attempt ∧ attempt.reqId = id) ∨
      event.1 ≠ caller ∧ rpc.pending.get? id = some event := by
  have owned : rpc.pending.get? id = some event → event.1 = caller →
      ∃ attempt, (rpc.calls caller).registered? = some attempt ∧ attempt.reqId = id := by
    rintro before rfl
    exact sound.owned id event before
  generalize rpc.calls caller = call at step owned
  -- Nothing is registered or removed: the registered request stays the registered one.
  have same (before : rpc.pending.get? id = some event)
      (registered : ∀ attempt, call.registered? = some attempt → next.registered? = some attempt) :
      event.1 = caller ∧ (∃ attempt, next.registered? = some attempt ∧ attempt.reqId = id) ∨
        event.1 ≠ caller ∧ rpc.pending.get? id = some event := by
    by_cases here : event.1 = caller
    · obtain ⟨attempt, owner, names⟩ := owned before here
      exact .inl ⟨here, attempt, registered attempt owner, names⟩
    · exact .inr ⟨here, before⟩
  cases step with
  | draws | brings => exact same there fun _ registered => nomatch registered
  | @registers attempt =>
    rw [get?_set] at there
    split at there
    next here =>
      cases there
      exact .inl ⟨rfl, attempt, rfl, here.symm⟩
    · exact same there fun _ registered => nomatch registered
  | fails registered => exact same there fun _ owner => registered.symm.trans owner
  | @leaves attempt | @retries attempt =>
    rw [get?_pop] at there
    split at there
    · cases there
    next elsewhere =>
      refine .inr ⟨fun here => ?_, there⟩
      obtain ⟨other, owner, names⟩ := owned there here
      cases owner
      exact elsewhere names.symm
  | _ => exact same there fun _ registered => registered

theorem Sound.stepCall (sound : Sound rpc) (careful : CarefulRpc rpc (.step caller outside)) :
    Sound (rpcStep rpc (.step caller outside)) := by
  have step : CallStep rpc caller (rpc.calls caller) _ _ := callStep outside (rpc.calls caller)
  have mine := step.sound sound careful
  have reader : (rpcStep rpc (.step caller outside)).reader = rpc.reader := step.reader
  refine ⟨step.counted sound careful, ?_, ?_, ?_, ?_⟩
  · intro other
    by_cases here : other = caller
    · subst here
      show SoundCall _ other (Function.update rpc.calls other _ other)
      rw [update_self]
      exact ⟨mine.own, mine.mine, mine.ready, mine.taking, mine.leaving, mine.ended⟩
    · show SoundCall _ other (Function.update rpc.calls caller _ other)
      rw [update_of_ne here]
      have kept := (sound.calls other).frame (step.frame sound careful) here fun stopped =>
        step.reader.trans stopped
      exact ⟨kept.own, kept.mine, kept.ready, kept.taking, kept.leaving, kept.ended⟩
  · intro id event there
    show ∃ attempt, (Function.update rpc.calls caller _ event.1).registered? = some attempt ∧ _
    rcases step.pending sound there with ⟨here, registered⟩ | ⟨elsewhere, before⟩
    · rw [here, update_self]
      exact registered
    · rw [update_of_ne elsewhere]
      exact sound.owned id event before
  · intro id response there
    exact (sound.stored id response (step.responses there)).later
      (fun stopped => reader.trans stopped) step.written
  · intro id response records
    exact (sound.recording id response (reader ▸ records)).later
      (fun stopped => reader.trans stopped) step.written

/-! ## Steps of the reader -/

/-- What is shared keeps its requests, and an event that is set has a response. -/
theorem SoundCall.shared {call : Call} (sound : SoundCall rpc caller call)
    (pending : after.pending = rpc.pending) (written : after.written = rpc.written)
    (reader : rpc.reader = .stopped → after.reader = .stopped)
    (signalled : ∀ event, rpc.signalled event = true → after.signalled event = true)
    (ready : ∀ attempt, call.awaits? = some attempt →
      after.signalled (caller, attempt.attempt) = true →
        ∃ response, after.responses.get? attempt.reqId = some response) :
    SoundCall after caller call where
  own attempt registered := by
    rw [pending]
    exact sound.own attempt registered
  mine attempt registered sender method params member := by
    rw [written] at member
    exact sound.mine attempt registered sender method params member
  ready := ready
  taking attempt takes := signalled _ (sound.taking attempt takes)
  leaving attempt response outcome leaves :=
    (sound.leaving attempt response outcome leaves).later reader ⟨[], by simp [written]⟩
  ended response outcome ends :=
    (sound.ended response outcome ends).later reader ⟨[], by simp [written]⟩

theorem Sound.reqId_of_event (sound : Sound rpc) {id : ℤ} {number : ℕ}
    (there : rpc.pending.get? id = some (caller, number)) {attempt : Attempt}
    (registered : (rpc.calls caller).registered? = some attempt) : attempt.reqId = id := by
  obtain ⟨other, owner, names⟩ := sound.owned id _ there
  rw [registered] at owner
  cases owner
  exact names

theorem Sound.reading (sound : Sound rpc) (reading : rpc.reader = .reading) (reader : Reader)
    (answered : List ℤ) (records : ∀ id response, reader = .recording id response →
      Stored rpc id response) :
    Sound { rpc with
      answered := answered
      reader := reader } where
  counted := sound.counted.of_same rfl rfl rfl rfl rfl
  calls caller :=
    (sound.calls caller).shared rfl rfl (fun stopped => nomatch reading.symm.trans stopped)
      (fun _ set => set) (sound.calls caller).ready
  owned := sound.owned
  stored id response there :=
    (sound.stored id response there).later (fun stopped => nomatch reading.symm.trans stopped)
      ⟨[], by simp⟩
  recording id response records' :=
    (records id response records').later (fun stopped => nomatch reading.symm.trans stopped)
      ⟨[], by simp⟩

theorem Sound.read (sound : Sound rpc) (input : Input) : Sound (rpcStep rpc (.read input)) := by
  rw [rpcStep]
  split
  next reading =>
    cases input with
    | handled => exact sound
    | fails => exact sound.reading reading .failing rpc.answered fun _ _ same => nomatch same
    | ends => exact sound.reading reading .stopped rpc.answered fun _ _ same => nomatch same
    | reply answers reply =>
      rw [LspJsonRpc.readMessage]
      split
      next sender id method params there =>
        split_ifs
        · exact sound
        · refine sound.reading reading _ _ ?_
          rintro _ _ ⟨⟩
          exact .inl ⟨answers, sender, method, params, rfl, there⟩
        · refine sound.reading reading rpc.reader _ ?_
          rintro _ _ records
          rw [reading] at records
          cases records
      · exact sound
  · exact sound

theorem Sound.reader (sound : Sound rpc) (careful : CarefulRpc rpc .reader) :
    Sound (rpcStep rpc .reader) := by
  rw [rpcStep, LspJsonRpc.stepReader]
  cases stage : rpc.reader with
  | reading | stopped => exact sound
  | recording id response =>
    obtain ⟨event, there⟩ := careful.recording stage
    have running : rpc.reader = .stopped → Reader.reading = .stopped := by
      rw [stage]
      exact Reader.noConfusion
    simp only [there]
    refine ⟨sound.counted.of_same rfl rfl rfl rfl rfl, ?_, ?_, ?_, ?_⟩
    · intro caller
      have sets : ∀ other, rpc.signalled other = true →
          Function.update rpc.signalled event true other = true := by
        intro other set
        by_cases same : other = event
        · rw [same, update_self]
        · rw [update_of_ne same, set]
      refine (sound.calls caller).shared rfl rfl running sets ?_
      intro attempt awaits signalled
      have registered := Call.registered_of_awaits awaits
      show ∃ response', (rpc.responses.set id response).get? attempt.reqId = some response'
      rw [get?_set]
      split
      · exact ⟨response, rfl⟩
      next elsewhere =>
        -- The event that is set is that of another request.
        have apart : (caller, attempt.attempt) ≠ event := by
          rintro rfl
          exact elsewhere (sound.reqId_of_event there registered)
        have before : Function.update rpc.signalled event true (caller, attempt.attempt) =
            true := signalled
        rw [update_of_ne apart] at before
        exact (sound.calls caller).ready attempt awaits before
    · exact sound.owned
    · intro other stored found
      have set : (rpc.responses.set id response).get? other = some stored := found
      rw [get?_set] at set
      split at set
      next here =>
        cases set
        subst here
        exact (sound.recording _ _ stage).later running ⟨[], by simp⟩
      · exact (sound.stored _ _ set).later running ⟨[], by simp⟩
    · rintro _ _ ⟨⟩
  | failing =>
    refine ⟨sound.counted.of_same rfl rfl rfl rfl rfl, ?_, ?_, ?_, ?_⟩
    · intro caller
      refine (sound.calls caller).shared rfl rfl (fun _ => rfl) ?_ ?_
      · intro event set
        exact Bool.or_eq_true_iff.mpr (.inl set)
      · intro attempt awaits _
        exact ⟨_, get?_failAllPending ((sound.calls caller).own attempt
          (Call.registered_of_awaits awaits))⟩
    · exact sound.owned
    · intro id response there
      rcases get?_failAllPending_cases there with rfl | before
      · exact .inr ⟨rfl, rfl⟩
      · exact (sound.stored _ _ before).later (fun _ => rfl)
          ⟨[], by simp [LspJsonRpc.failAllPending]⟩
    · rintro _ _ ⟨⟩

/-- **A careful step.** -/
theorem Sound.step (sound : Sound rpc) {action : RpcAction} (careful : CarefulRpc rpc action) :
    Sound (rpcStep rpc action) := by
  cases action with
  | call caller request =>
    rw [rpcStep]
    split
    next idle =>
      refine ⟨?_, ?_, ?_, sound.stored, sound.recording⟩
      · refine sound.counted.moves rfl rfl (fun _ free => free) rfl nofun ?_
        rintro _ (⟨⟨⟩⟩ | ⟨⟨⟩⟩)
      · intro other
        show SoundCall _ other (Function.update rpc.calls caller (.drawing request) other)
        by_cases here : other = caller
        · rw [here, update_self]
          exact .of_unregistered rfl fun _ _ same => nomatch same
        · rw [update_of_ne here]
          exact (sound.calls other).shared rfl rfl id (fun _ set => set)
            (sound.calls other).ready
      · intro id event there
        obtain ⟨attempt, owner, names⟩ := sound.owned id event there
        refine ⟨attempt, ?_, names⟩
        show (Function.update rpc.calls caller (.drawing request) event.1).registered? = _
        rw [update_of_ne, owner]
        intro here
        rw [here, idle] at owner
        cases owner
    · exact sound
  | step caller outside => exact sound.stepCall careful
  | read input => exact sound.read input
  | reader => exact sound.reader careful

end Audiagentic.CodingLsp
