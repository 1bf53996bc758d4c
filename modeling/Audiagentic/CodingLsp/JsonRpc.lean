import Audiagentic.Foundations.PythonValues
import Audiagentic.Foundations.Runs

/-!
# Requests to a language server

Any number of threads send requests over one bridge, and a reader thread hands the replies to them.
A request is registered under its id before it is written; its thread waits on an event, which the
reader sets after it has stored the reply under the id.  Every section under the lock of the bridge,
every message that is written and every test that is made outside the lock is one step.  The server
answers what it has received, each id once at most, whenever it likes.
-/

namespace Audiagentic.CodingLsp

open Foundations

/-! ## Messages -/

/-- The `error` of a reply. -/
structure ReplyError where
  code : Option ℤ
  message : Option Text
  data : Json Scalar

inductive Reply where
  | result (value : Json Scalar)
  | error (error : ReplyError)

/-- A stored response: the reply, and the place among the written messages of the request that it
answers. -/
structure Response where
  answers : Option ℕ
  reply : Reply

/-- The response that `_fail_all_pending` stores. -/
def serverCrashed : Response where
  answers := none
  reply := .error { code := some (-1), message := some "server crashed".toList, data := .null }

structure LspRequest where
  method : Text
  params : Json Scalar
  id : Option ℤ := none

inductive Message where
  | request (sender : ℕ) (id : ℤ) (method : Text) (params : Json Scalar)
  | cancel (id : ℤ)

inductive LspFailure where
  /-- `EXT-LSP-001`. -/
  | server (code : ℤ) (message : Text) (data : Json Scalar)
  /-- `EXT-LSP-002`. -/
  | notRunning
  /-- `EXT-LSP-003`. -/
  | timedOut (method : Text) (requestId : ℤ)
  /-- `EXT-LSP-008`. -/
  | noResponse (requestId : ℤ)
  /-- `EXT-LSP-009`. -/
  | lostConnection

inductive Outcome where
  | value (value : Json Scalar)
  | failed (failure : LspFailure)

def maxRetries : ℕ := 3

/-- `text in message`. -/
def mentions (text : String) (message : Text) : Bool := decide (text.toList <:+: message)

def ReplyError.shouldRetry (error : ReplyError) (attempt : ℕ) : Bool :=
  let code := error.code.getD (-1)
  let message := error.message.getD "unknown".toList
  decide (attempt ≤ maxRetries) &&
    (decide (code = -32801) && mentions "cargo metadata" message ||
      decide (code = -32801) && mentions "content modified" message ||
      decide (code = -32602) && mentions "No references found" message)

def Reply.outcome? (attempt : ℕ) : Reply → Option Outcome
  | .result value => some (.value value)
  | .error failure =>
    if failure.shouldRetry attempt then none
    else some (.failed (.server (failure.code.getD (-1))
      (failure.message.getD "unknown".toList) failure.data))

/-! ## Calls and the reader -/

/-- One pass through the loop of `send_request`. -/
structure Attempt where
  request : LspRequest
  id : ℤ
  attempt : ℕ := 1

/-- `id + attempt - 1`. -/
def Attempt.reqId (attempt : Attempt) : ℤ := attempt.id + attempt.attempt - 1

/-- The first attempt under an id that the bridge drew. -/
def Attempt.Drawn (attempt : Attempt) : Prop := attempt.request.id = none ∧ attempt.attempt = 1

instance (attempt : Attempt) : Decidable attempt.Drawn := inferInstanceAs (Decidable (_ ∧ _))

abbrev Event := ℕ × ℕ

/-- A call of `send_request`, by what it is about to do. -/
inductive Call where
  | idle
  | drawing (request : LspRequest)
  | registering (attempt : Attempt)
  | writing (attempt : Attempt)
  | waiting (attempt : Attempt)
  | cancelling (attempt : Attempt)
  | taking (attempt : Attempt)
  /-- In `finally`, with the response that the attempt took; without an outcome it is retried. -/
  | leaving (attempt : Attempt) (response : Option Response) (outcome : Option Outcome)
  | ended (response : Option Response) (outcome : Outcome)

inductive Reader where
  | reading
  /-- The id of the reply was found among the pending ones. -/
  | recording (id : ℤ) (response : Response)
  /-- In `except`. -/
  | failing
  | stopped

/-- The bridge, what was written to the server and which ids it has answered, and the threads. -/
structure LspJsonRpc where
  nextId : ℤ
  /-- The ids under which retries and requests that came with an id were registered. -/
  strays : List ℤ
  pending : OrderedDict ℤ Event
  responses : OrderedDict ℤ Response
  signalled : Event → Bool
  written : List Message
  answered : List ℤ
  reader : Reader
  calls : ℕ → Call

/-- `LspJsonRpc()`, with its reader started. -/
def launched : LspJsonRpc where
  nextId := 0
  strays := []
  pending := .empty
  responses := .empty
  signalled _ := false
  written := []
  answered := []
  reader := .reading
  calls _ := .idle

/-- What a step gets from outside: whether the process runs and reads what it is sent, and whether
the timeout of a call has elapsed. -/
structure Outside where
  running : Bool := true
  connected : Bool := true
  elapsed : Bool := false

inductive Input where
  | reply (answers : ℕ) (reply : Reply)
  | handled
  /-- A message that cannot be decoded or whose handling raises. -/
  | fails
  /-- The end of the output, or a header without a length. -/
  | ends

namespace LspJsonRpc

variable (rpc : LspJsonRpc)

/-- `_write_message`, of a request of a call. -/
def writeRequest (caller : ℕ) (attempt : Attempt) (outside : Outside) : LspJsonRpc × Call :=
  if outside.running = false then
    (rpc, .leaving attempt none (some (.failed .notRunning)))
  else if outside.connected = false then
    (rpc, .leaving attempt none (some (.failed .lostConnection)))
  else
    ({ rpc with
        written := rpc.written ++ [.request caller attempt.reqId attempt.request.method
          attempt.request.params] }, .waiting attempt)

/-- `_send_cancel`, and the error of the timeout. -/
def sendCancel (attempt : Attempt) (outside : Outside) : LspJsonRpc × Call :=
  let timedOut := Call.leaving attempt none
    (some (.failed (.timedOut attempt.request.method attempt.id)))
  if outside.running = true ∧ outside.connected = true then
    ({ rpc with written := rpc.written ++ [.cancel attempt.reqId] }, timedOut)
  else (rpc, timedOut)

def takeResponse (attempt : Attempt) : LspJsonRpc × Call :=
  match rpc.responses.get? attempt.reqId with
  | none => (rpc, .leaving attempt none (some (.failed (.noResponse attempt.id))))
  | some response =>
    ({ rpc with responses := rpc.responses.pop attempt.reqId },
      .leaving attempt (some response) (response.reply.outcome? attempt.attempt))

def stepCall (caller : ℕ) (outside : Outside) : Call → LspJsonRpc × Call
  | .idle => (rpc, .idle)
  | .drawing request =>
    match request.id with
    | some id => (rpc, .registering { request := request, id := id })
    | none =>
      ({ rpc with nextId := rpc.nextId + 1 },
        .registering { request := request, id := rpc.nextId + 1 })
  | .registering attempt =>
    ({ rpc with
        pending := rpc.pending.set attempt.reqId (caller, attempt.attempt)
        signalled := Function.update rpc.signalled (caller, attempt.attempt) false
        strays := if attempt.Drawn then rpc.strays else attempt.reqId :: rpc.strays },
      .writing attempt)
  | .writing attempt => rpc.writeRequest caller attempt outside
  | .waiting attempt =>
    if rpc.signalled (caller, attempt.attempt) then (rpc, .taking attempt)
    else if outside.elapsed then (rpc, .cancelling attempt)
    else (rpc, .waiting attempt)
  | .cancelling attempt => rpc.sendCancel attempt outside
  | .taking attempt => rpc.takeResponse attempt
  | .leaving attempt response outcome =>
    ({ rpc with pending := rpc.pending.pop attempt.reqId },
      match outcome with
      | some outcome => .ended response outcome
      | none => .registering { attempt with attempt := attempt.attempt + 1 })
  | .ended response outcome => (rpc, .ended response outcome)

def failAllPending : LspJsonRpc :=
  { rpc with
    responses := rpc.pending.entries.foldl (fun responses entry =>
      responses.set entry.1 serverCrashed) rpc.responses
    signalled := fun event =>
      rpc.signalled event || decide (event ∈ rpc.pending.entries.map Prod.snd) }

def readMessage : Input → LspJsonRpc
  | .reply answers reply =>
    match rpc.written[answers]? with
    | some (.request _ id _ _) =>
      -- A server that answers an id once only.
      if id ∈ rpc.answered then rpc
      else if rpc.pending.has id then
        { rpc with
          answered := id :: rpc.answered
          reader := .recording id { answers := some answers, reply := reply } }
      else { rpc with answered := id :: rpc.answered }
    | _ => rpc
  | .handled => rpc
  | .fails => { rpc with reader := .failing }
  | .ends => { rpc with reader := .stopped }

/-- The reader stores a response under the lock, or leaves its loop. -/
def stepReader : LspJsonRpc :=
  match rpc.reader with
  | .recording id response =>
    let stored := { rpc with responses := rpc.responses.set id response }
    match rpc.pending.get? id with
    | some event =>
      { stored with
        signalled := Function.update rpc.signalled event true
        reader := .reading }
    -- `KeyError`.
    | none => { stored with reader := .failing }
  | .failing => { rpc.failAllPending with reader := .stopped }
  | .reading | .stopped => rpc

end LspJsonRpc

inductive RpcAction where
  /-- A call that was not made before is made. -/
  | call (caller : ℕ) (request : LspRequest)
  | step (caller : ℕ) (outside : Outside)
  | read (input : Input)
  | reader

def rpcStep (rpc : LspJsonRpc) : RpcAction → LspJsonRpc
  | .call caller request =>
    match rpc.calls caller with
    | .idle => { rpc with calls := Function.update rpc.calls caller (.drawing request) }
    | _ => rpc
  | .step caller outside =>
    let stepped := rpc.stepCall caller outside (rpc.calls caller)
    { stepped.1 with calls := Function.update rpc.calls caller stepped.2 }
  | .read input =>
    match rpc.reader with
    | .reading => rpc.readMessage input
    | _ => rpc
  | .reader => rpc.stepReader

end Audiagentic.CodingLsp
