import Audiagentic.Gateway.NodeProtocol

/-!
# The answer of a request

The text of an answer is written to one file of the request, under the request lock and before the
record says that the request is completed.  What is written is described by an artifact: the length
and the digest of its bytes.  The artifact is what a terminal transition puts into the record, and
what the file is checked against when the answer is read.
-/

namespace Audiagentic.Gateway

open Foundations

/-! ## Artifacts -/

def finalResponseMediaTypes : List String :=
  ["text/plain; charset=utf-8", "text/markdown; charset=utf-8"]

/-- The keys of the artifact that a record keeps; its `artifact-id` is always `final-response`. -/
structure AnswerArtifact where
  requestId : String
  mediaType : String
  bytes : ℕ
  sha256 : String

/-- The digest of a text and the form of an artifact in a record. -/
structure AnswerHost where
  sha256 : List UInt8 → String
  document : AnswerArtifact → Doc
  /-- `artifact.get("bytes")`. -/
  bytes : Doc → Option ℕ
  /-- `artifact.get("sha256")`. -/
  digest : Doc → Option String
  bytes_document : ∀ artifact, bytes (document artifact) = some artifact.bytes
  digest_document : ∀ artifact, digest (document artifact) = some artifact.sha256

def finalResponsePreviewBytes : ℕ := 4096

def wholeCharacters : ℕ → List Char → List Char
  | _, [] => []
  | limit, char :: rest =>
    if char.utf8Size ≤ limit then char :: wholeCharacters (limit - char.utf8Size) rest else []

/-- `_utf8_preview`. -/
def utf8Preview (text : String) : String × Bool :=
  let marker := "\n…[truncated]"
  if (utf8Bytes text).length ≤ finalResponsePreviewBytes then (text, false)
  else
    let body := wholeCharacters (finalResponsePreviewBytes - (utf8Bytes marker).length) text.toList
    (String.ofList (wholeCharacters finalResponsePreviewBytes (body ++ marker.toList)), true)

structure PersistedAnswer where
  artifact : AnswerArtifact
  preview : String × Bool

section Persisting

variable (host : AnswerHost)

def finalResponseArtifact (text requestId mediaType : String) :
    Except GatewayError PersistedAnswer := do
  refuse (mediaType ∉ finalResponseMediaTypes)
    (agentsErrorWith "VAL-AGW-149" "gateway final response media type is unsupported"
      [("media-type", .text (clip 128 mediaType))])
  .ok
    { artifact :=
        { requestId
          mediaType
          bytes := (utf8Bytes text).length
          sha256 := host.sha256 (utf8Bytes text) }
      preview := utf8Preview text }

/-- `persist_final_response`, with the text that is in the answer file afterwards.  A request that
has ended keeps its file, unless the caller may write then too. -/
def persistFinalResponse (record : Record) (file : Option String) (text mediaType : String)
    (allowTerminal : Bool) : Except GatewayError (PersistedAnswer × Option String) := do
  let answer ← finalResponseArtifact host text record.admission.requestId mediaType
  if allowTerminal = false ∧ record.state.isTerminal = true then .ok (answer, file)
  else .ok (answer, some text)

def readFinalResponse (file : Option String) (artifact : Doc) : Except GatewayError String :=
  match file with
  | none => .error (agentsError "FileNotFoundError" "No such file or directory")
  | some text => do
    refuse (some (utf8Bytes text).length ≠ host.bytes artifact ∨
        some (host.sha256 (utf8Bytes text)) ≠ host.digest artifact)
      (agentsError "CON-AGW-140" "gateway response artifact integrity check failed")
    .ok text

end Persisting

/-! ## Workers and operators -/

structure WorkerAnswer where
  text : String
  artifact : AnswerArtifact

/-- A request with its answer file, the answers that calls of workers have returned so far, and the
text of the writer whose terminal transition was the last to be written. -/
structure AnswerStore where
  record : Record
  file : Option String
  returned : List WorkerAnswer
  winner : Option String

/-- The operations that change who works on a request and do not end it. -/
def StoreOp.movesOwner : StoreOp → Bool
  | .claimDispatch .. | .releaseStaleClaim .. | .startOwnedAttempt ..
  | .takeoverNonterminalOwner .. => true
  | _ => false

inductive AnswerAction where
  | persist (text mediaType : String)
  /-- A worker ends the request, with the artifact that this call to persist returned. -/
  | finish (answer : ℕ) (newState : RequestState) (identity : OwnedIdentity)
      (updates : List Update) (expectedRevision : Option Int) (now : Timestamp)
  | capture (text : String) (capture : OperatorCapture) (now : Timestamp)
  | move (op : {op : StoreOp // op.movesOwner = true})

section Actions

variable (host : AnswerHost) (projections : Projections) (hashing : Hashing)

def artifactUpdate (artifact : AnswerArtifact) : ResultUpdate :=
  .responseArtifact (some (host.document artifact))

def finishOp (record : Record) (answer : WorkerAnswer) (newState : RequestState)
    (identity : OwnedIdentity) (updates : List Update) (expectedRevision : Option Int)
    (now : Timestamp) : StoreOp :=
  .transitionOwnedTerminal record.admission.requestId newState identity
    (updates ++ [.result (artifactUpdate host answer.artifact)]) expectedRevision now

def capturedArtifact (record : Record) (text : String) : AnswerArtifact where
  requestId := record.admission.requestId
  mediaType := "text/plain; charset=utf-8"
  bytes := (utf8Bytes text).length
  sha256 := host.sha256 (utf8Bytes text)

def captureOp (record : Record) (text : String) (capture : OperatorCapture) (now : Timestamp) :
    StoreOp :=
  .transitionOperatorTerminal
    { capture with
      updates := capture.updates ++ [artifactUpdate host (capturedArtifact host record text)] } now

def OperatorCapture.writesFile (capture : OperatorCapture) (record : Record) : Bool :=
  capture.claimHeldAtEntry && record.readLocked.isOk &&
    (checkExpectedIdentity record (some capture.expectedRevision) none none none).isOk &&
    record.state ≠ .completed && record.state ≠ .rejected && capture.artifactFailure.isNone

/-- The call of the operation succeeds. -/
def StoreOp.passes (record : Record) (op : StoreOp) : Bool :=
  ((op.operation projections hashing).run record).2.isOk

def answerStep (store : AnswerStore) : AnswerAction → AnswerStore
  | .persist text mediaType =>
    match persistFinalResponse host store.record store.file text mediaType false with
    | .error _ => store
    | .ok (answer, file) =>
      { store with
        file
        returned := store.returned ++ [⟨text, answer.artifact⟩] }
  | .finish answer newState identity updates expectedRevision now =>
    match store.returned[answer]? with
    | none => store
    | some returned =>
      let op := finishOp host store.record returned newState identity updates expectedRevision
        now
      { store with
        record := storeStep projections hashing store.record op
        winner :=
          if op.passes projections hashing store.record then some returned.text
          else store.winner }
  | .capture text capture now =>
    let op := captureOp host store.record text capture now
    { store with
      record := storeStep projections hashing store.record op
      file := if capture.writesFile store.record then some text else store.file
      winner :=
        if op.passes projections hashing store.record && store.record.state ≠ .completed then
          some text
        else store.winner }
  | .move op => { store with record := storeStep projections hashing store.record op.1 }

end Actions

end Audiagentic.Gateway
