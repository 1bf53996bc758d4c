import Mathlib.Data.Set.Subsingleton
import Audiagentic.Gateway.DispatchRuns
import Audiagentic.Node.ExecutionOwner

/-!
# Effect agreement between a node and its gateway

The gateway authorizes an effect in the canonical record and then replies; the
node commits an effect intent only with such a reply in hand, and calls the
provider worker only after it committed one.  Replies are never removed from the
channel, so they may be late or repeated; fences, takeovers, reconnects and
restarts fall anywhere between.
-/

namespace Audiagentic.Node

open Foundations Gateway List Option

/-! ## The gateway's reply -/

/-- What `_effect_reply` reads besides the record. -/
structure EffectGates where
  /-- `owner_guard`. -/
  guarded : Except GatewayError Unit
  /-- `read_prepared_evidence`. -/
  evidence : Except GatewayError Attestation
  /-- The admission snapshot, the configured project and the active slot. -/
  admitted : Except GatewayError Unit
  /-- `NodeGrantAuthority.authorize_effect` and the occupancy check, up to its callback. -/
  granted : Except GatewayError Unit

variable (hashing : Hashing)

def replyAuthorizationId (dispatch : NodeDispatch) (freshId : String) : String :=
  match dispatch.authorizationId with
  | some recorded => if recorded = "" then freshId else recorded
  | none => freshId

/-- The checks of `_effect_reply` before the authorization, on the record it read. -/
def effectReplyChecks (ownerEpoch : String) (command : CommandIdentity) (gates : EffectGates)
    (seen : Record) : Except GatewayError (NodeDispatch × Attestation) := do
  gates.guarded
  match seen.nodeDispatch with
  | none => .error (conflict "Effect does not match the original current-owned command")
  | some dispatch => do
    refuse (dispatch.identity ≠ command ∨ seen.dispatchOwnerEpoch ≠ some ownerEpoch ∨
        command.gatewayOwnerEpoch ≠ ownerEpoch)
      (conflict "Effect does not match the original current-owned command")
    let evidence ← gates.evidence
    gates.admitted
    gates.granted
    return (dispatch, evidence)

def effectDenied (connection : ConnectionIdentity) (messageId : String) : Frame :=
  connection.frame .effectDenied messageId .other

/-- `_effect_reply`: the record after it and the frame it sends.  `seen` is the record as it
was read, `stored` the one the authorization finds. -/
def effectReply (ownerEpoch : String) (connection : ConnectionIdentity) (frame : Frame)
    (gates : EffectGates) (freshId messageId : String) (now : Timestamp) (seen stored : Record) :
    Record × Frame :=
  match frame.payload with
  | .effectAuthorize command =>
    match effectReplyChecks ownerEpoch command gates seen with
    | .error _ => (stored, effectDenied connection messageId)
    | .ok (dispatch, evidence) =>
      let authorizationId := replyAuthorizationId dispatch freshId
      let call := (authorizeOwnedNodeEffect hashing command authorizationId evidence
        connection.scope.nodeEpoch connection.connectionGeneration
        ⟨some ownerEpoch, seen.workerId, seen.attemptEpoch, seen.revision⟩ now).run stored
      match call.2 with
      | .error _ => (call.1, effectDenied connection messageId)
      | .ok _ => (call.1, connection.frame .effectAuthorized messageId
          (.effectAuthorized command frame.messageId authorizationId true))
  | _ => (stored, effectDenied connection messageId)

/-! ## The system -/

/-- The canonical records, the frames sent so far, and the node. -/
structure EffectState where
  records : String → Option Record
  frames : List Frame
  database : Database
  owner : ExecutionOwner
  invoked : List CommandIdentity

/-- No record, no frame, and a node whose store is new. -/
def EffectState.initial (scope : OwnerScope) (logIncarnationId nodeEpoch : String) :
    EffectState where
  records := fun _ => none
  frames := []
  database := .initial scope logIncarnationId
  owner := .openOwner scope.nodeId nodeEpoch (.initial scope logIncarnationId)
  invoked := []

inductive EffectAction where
  | admitRequest (requestId : String) (admission : Admission) (metadata : Doc)
      (warnings : List Doc) (sessionId : Option String)
  | storeCall (requestId : String) (op : StoreOp)
  /-- The node asks for an authorization. -/
  | request (frame : Frame) (command : CommandIdentity)
  /-- The gateway answers a request that was sent. -/
  | effectReply (message : Nat) (ownerEpoch : String) (connection : ConnectionIdentity)
      (gates : EffectGates) (freshId messageId : String) (now : Timestamp) (seen : Record)
  | observeConnection (connection : ConnectionIdentity) (active : Bool)
  | connectionLost (connection : ConnectionIdentity)
  | handoff (storage : Storage) (reopened : Except GatewayError Unit)
  /-- `run_one` up to the worker, with a reply that was sent. -/
  | beginRun (identity : CommandIdentity) (reply : Nat)
    (prepared workspace : Except GatewayError Unit)
      (payload : List UInt8) (request : Frame) (preparing intending : Storage)
  | finishRun (proof : Option WorkerProof) (storage : Storage)
  | restart (nodeEpoch : String)

def EffectState.putRecord (state : EffectState) (requestId : String) (record : Record) :
    EffectState :=
  { state with
    records := fun other => if other = requestId then some record else state.records other }

/-- Whether a run has just called the worker. -/
def newlyRunning (before after : ExecutionOwner) : List CommandIdentity :=
  if before.running = none then after.running.toList else []

section Step

variable (sha256 : List UInt8 → String) (projections : Projections)

def effectStep (state : EffectState) : EffectAction → EffectState
  | .admitRequest requestId admission metadata warnings sessionId =>
    match state.records requestId with
    | some _ => state
    | none => state.putRecord requestId
        (buildRecord { admission with requestId } metadata warnings sessionId)
  | .storeCall requestId op =>
    match state.records requestId with
    | some stored => state.putRecord requestId (storeStep projections hashing stored op)
    | none => state
  | .request frame command =>
    { state with
      frames := state.frames ++
        [{ frame with type := .effectAuthorize, payload := .effectAuthorize command }] }
  | .effectReply message ownerEpoch connection gates freshId messageId now seen =>
    match state.frames[message]? with
    | none => state
    | some frame =>
      match frame.payload with
      | .effectAuthorize command =>
        match state.records command.requestId with
        | none => { state with frames := state.frames ++ [effectDenied connection messageId] }
        | some stored =>
          let answer := Node.effectReply hashing ownerEpoch connection frame gates freshId
            messageId now seen stored
          { state.putRecord command.requestId answer.1 with
            frames := state.frames ++ [answer.2] }
      | _ => state
  | .observeConnection connection active =>
    match state.owner.observeConnection connection active with
    | .ok owner => { state with owner }
    | .error _ => state
  | .connectionLost connection => { state with owner := state.owner.connectionLost connection }
  | .handoff storage reopened =>
    let moved := handoffIfQuiescent sha256 hashing state.owner state.database storage reopened
    { state with owner := moved.1, database := moved.2 }
  | .beginRun identity reply prepared workspace payload request preparing intending =>
    match state.frames[reply]? with
    | none => state
    | some reply =>
      let moved := Node.beginRun sha256 hashing state.owner state.database identity
        ⟨prepared, workspace, payload, request, reply⟩ preparing intending
      { state with
        owner := moved.1
        database := moved.2
        invoked := state.invoked ++ newlyRunning state.owner moved.1 }
  | .finishRun proof storage =>
    let moved := Node.finishRun sha256 hashing state.owner state.database proof storage
    { state with owner := moved.1, database := moved.2 }
  | .restart nodeEpoch =>
    { state with owner := .openOwner state.owner.nodeId nodeEpoch state.database }

end Step

/-! ## Backed intents -/

variable {sha256 : List UInt8 → String} {projections : Projections} {hashing}

def Backed (P : CommandIdentity → Prop) (db : Database) : Prop :=
  ∀ command row, db.command? command = some row → row.state ≠ .prepared → P row.identity

theorem Backed.of_effect {P : CommandIdentity → Prop} {call : ReceiptCall}
    {db written : Database} (backed : Backed P db) (effect : Effect hashing call db written)
    (grants : ∀ identity request reply connectionGeneration authorizationId,
      call = .effectIntent identity request reply connectionGeneration →
      validateEffectAuthorization identity request reply connectionGeneration =
        .ok authorizationId → P identity) : Backed P written := by
  cases effect with
  | kept | handedOver | acknowledged => exact backed
  | prepared identity payload fresh =>
    intro command row found left
    rw [Database.command?_append] at found
    obtain ⟨before, lookup, rfl⟩ := map_eq_some_iff.mp found
    by_cases same : command = identity.commandId
    · rw [if_pos ((Database.mem_of_command? lookup).2.trans same)] at left
      exact absurd rfl left
    rw [Database.command?_insertCommand_of_ne same] at lookup
    have other : before.command ≠ identity.commandId := by
      rw [(Database.mem_of_command? lookup).2]
      exact same
    rw [if_neg other] at left ⊢
    exact backed command before lookup left
  | advanced identity target set stage outputDigest targetFound sameIdentity marks later origin =>
    intro command row found left
    rw [Database.command?_append, Database.command?_updateCommand marks.command] at found
    simp only [map_eq_some_iff] at found
    obtain ⟨_, ⟨before, lookup, rfl⟩, rfl⟩ := found
    have addressed := (Database.mem_of_command? lookup).2
    by_cases same : before.command = identity.commandId
    · have target_eq : before = target := by
        rw [← addressed, same, targetFound] at lookup
        exact (Option.some.inj lookup).symm
      subst target_eq
      have identity_eq : ∀ advanced : CommandRow, advanced.identity = before.identity →
          P before.identity → P advanced.identity := by
        intro advanced same holds
        rw [same]
        exact holds
      have holds : P before.identity := by
        by_cases prepared : before.state = .prepared
        · obtain ⟨request, reply, connectionGeneration, authorizationId, called, authorized⟩ :=
            origin prepared
          rw [sameIdentity]
          exact grants _ _ _ _ _ called authorized
        · exact backed command before lookup prepared
      refine identity_eq _ ?_ holds
      simp [same, marks.command, marks.identity]
    · rw [if_neg same, if_neg same] at left ⊢
      exact backed command before lookup left

/-! ## Authorizations -/

def Authorized (records : String → Option Record) (identity : CommandIdentity)
    (authorizationId : String) : Prop :=
  ∃ record dispatch, records identity.requestId = some record ∧
    record.nodeDispatch = some dispatch ∧ dispatch.identity = identity ∧
    dispatch.authorizationId = some authorizationId

def RecordsProgress (before after : String → Option Record) : Prop :=
  ∀ requestId record, before requestId = some record →
    ∃ next, after requestId = some next ∧ DispatchProgress record.nodeDispatch next.nodeDispatch

theorem RecordsProgress.refl (records : String → Option Record) :
    RecordsProgress records records := by
  intro requestId record found
  exact ⟨record, found, fun dispatch member => ⟨dispatch, member, .refl dispatch⟩⟩

theorem RecordsProgress.trans {first second third : String → Option Record}
    (left : RecordsProgress first second) (right : RecordsProgress second third) :
    RecordsProgress first third := by
  intro requestId record found
  obtain ⟨middle, middleFound, toMiddle⟩ := left requestId record found
  obtain ⟨last, lastFound, fromMiddle⟩ := right requestId middle middleFound
  refine ⟨last, lastFound, ?_⟩
  intro dispatch member
  obtain ⟨between, betweenMember, progress⟩ := toMiddle dispatch member
  obtain ⟨final, finalMember, further⟩ := fromMiddle between betweenMember
  exact ⟨final, finalMember, progress.trans further⟩

variable {requestId : String}

theorem EffectState.putRecord_progress {state : EffectState} {record : Record}
    (progress : ∀ stored, state.records requestId = some stored →
      DispatchProgress stored.nodeDispatch record.nodeDispatch) :
    RecordsProgress state.records (state.putRecord requestId record).records := by
  intro other stored found
  by_cases here : other = requestId
  · rw [here] at found
    exact ⟨record, by simp [EffectState.putRecord, here], progress stored found⟩
  · exact ⟨stored, by simp [EffectState.putRecord, here, found],
      fun dispatch member => ⟨dispatch, member, .refl dispatch⟩⟩

variable {identity : CommandIdentity} {authorizationId : String}

theorem Authorized.mono {before after : String → Option Record}
    (authorized : Authorized before identity authorizationId)
    (progress : RecordsProgress before after) : Authorized after identity authorizationId := by
  obtain ⟨record, dispatch, found, bound, same, granted⟩ := authorized
  obtain ⟨later, laterFound, moved⟩ := progress identity.requestId record found
  obtain ⟨next, nextMember, further⟩ := moved dispatch bound
  exact ⟨later, next, laterFound, nextMember, further.identity.trans same,
    further.authorization authorizationId granted⟩

variable {stored : Record}

theorem authorize_run_ok {command : CommandIdentity} {evidence : Attestation} {nodeEpoch : String}
    {connectionGeneration : Int} {fence : NodeFence} {now : Timestamp} {updated : Record}
    (success : ((authorizeOwnedNodeEffect hashing command authorizationId evidence nodeEpoch
      connectionGeneration fence now).run stored).2 = .ok updated) :
    ∃ dispatch, ((authorizeOwnedNodeEffect hashing command authorizationId evidence nodeEpoch
        connectionGeneration fence now).run stored).1.nodeDispatch = some dispatch ∧
      dispatch.identity = command ∧ dispatch.authorizationId = some authorizationId := by
  rcases Operation.run_cases (authorizeOwnedNodeEffect hashing command authorizationId evidence
      nodeEpoch connectionGeneration fence now) stored with
    ⟨error, refused⟩ | ⟨error, failed⟩ | ⟨written, _, _, body, ran⟩
  · rw [refused] at success
    cases success
  · rw [failed] at success
    cases success
  · rw [ran]
    exact authorizeOwnedNodeEffect_ok hashing body

variable (hashing) in
/-- A reply is a store call on the record, and a positive one names its authorization. -/
theorem effectReply_cases (projections : Projections) (ownerEpoch : String)
    (connection : ConnectionIdentity) (frame : Frame) (gates : EffectGates)
    (freshId messageId : String) (now : Timestamp) (seen stored : Record) :
    let answer := effectReply hashing ownerEpoch connection frame gates freshId messageId now seen
      stored
    (answer.1 = stored ∨ ∃ op, answer.1 = storeStep projections hashing stored op) ∧
      ∀ identity requestId authorizationId,
        answer.2.payload = .effectAuthorized identity requestId authorizationId true →
        frame.payload = .effectAuthorize identity ∧
        ∃ dispatch, answer.1.nodeDispatch = some dispatch ∧ dispatch.identity = identity ∧
          dispatch.authorizationId = some authorizationId := by
  unfold effectReply
  split
  next command asked =>
    split
    next =>
      refine ⟨.inl rfl, ?_⟩
      intro identity requestId authorizationId positive
      cases positive
    next dispatch evidence _ =>
      refine ⟨.inr ⟨.authorizeOwnedNodeEffect command (replyAuthorizationId dispatch freshId)
        evidence connection.scope.nodeEpoch connection.connectionGeneration
        ⟨some ownerEpoch, seen.workerId, seen.attemptEpoch, seen.revision⟩ now, ?_⟩, ?_⟩
      · dsimp only
        split <;> rfl
      · intro identity requestId authorizationId positive
        dsimp only at positive ⊢
        split at positive
        next => cases positive
        next updated success =>
          cases positive
          exact ⟨asked, authorize_run_ok success⟩
  next =>
    refine ⟨.inl rfl, ?_⟩
    intro identity requestId authorizationId positive
    cases positive

/-! ## The invariant -/

/-- **The agreement invariant.**  A positive reply, and a command that left the prepared stage,
stand for an authorization in the canonical record; the worker was called once for a command,
and only after it left that stage. -/
structure EffectInvariant (hashing : Hashing) (state : EffectState) : Prop where
  records : ∀ requestId record, state.records requestId = some record →
    DispatchInvariant hashing record
  replies : ∀ frame ∈ state.frames, ∀ identity requestId authorizationId,
    frame.payload = .effectAuthorized identity requestId authorizationId true →
    Authorized state.records identity authorizationId
  tables : Consistent state.database
  backed : Backed (fun identity => ∃ authorizationId,
    Authorized state.records identity authorizationId) state.database
  spent : ∀ identity ∈ state.invoked, Spent identity.commandId state.database
  authorized : ∀ identity ∈ state.invoked,
    ∃ authorizationId, Authorized state.records identity authorizationId
  once : (state.invoked.map CommandIdentity.commandId).Nodup

theorem initial_effectInvariant (scope : OwnerScope) (logIncarnationId nodeEpoch : String) :
    EffectInvariant hashing (.initial scope logIncarnationId nodeEpoch) where
  records := by
    intro requestId record found
    cases found
  replies := by
    intro frame member
    cases member
  tables := initial_consistent scope logIncarnationId
  backed := by
    intro command row found
    cases found
  spent := by
    intro identity member
    cases member
  authorized := by
    intro identity member
    cases member
  once := nodup_nil

namespace EffectInvariant

variable {state : EffectState} (invariant : EffectInvariant hashing state)
include invariant

theorem putRecord {record : Record} (holds : DispatchInvariant hashing record)
    (progress : RecordsProgress state.records (state.putRecord requestId record).records) :
    EffectInvariant hashing (state.putRecord requestId record) := by
  refine { invariant with records := ?_, replies := ?_, backed := ?_, authorized := ?_ }
  · intro other written lookup
    by_cases here : other = requestId
    · simp only [EffectState.putRecord, if_pos here, Option.some.injEq] at lookup
      rw [← lookup]
      exact holds
    · simp only [EffectState.putRecord, if_neg here] at lookup
      exact invariant.records other written lookup
  · intro frame member identity reply authorizationId positive
    exact (invariant.replies frame member identity reply authorizationId positive).mono progress
  · intro command row lookup left
    obtain ⟨authorizationId, authorized⟩ := invariant.backed command row lookup left
    exact ⟨authorizationId, authorized.mono progress⟩
  · intro identity member
    exact (invariant.authorized identity member).imp fun _ authorized => authorized.mono progress

theorem storeCall_progress (op : StoreOp) (found : state.records requestId = some stored) :
    RecordsProgress state.records
      (state.putRecord requestId (storeStep projections hashing stored op)).records := by
  refine EffectState.putRecord_progress ?_
  intro record lookup
  rw [found] at lookup
  cases lookup
  exact storeStep_dispatchProgress stored op (invariant.records requestId stored found)

theorem storeCall (op : StoreOp) (found : state.records requestId = some stored) :
    EffectInvariant hashing
      (state.putRecord requestId (storeStep projections hashing stored op)) :=
  invariant.putRecord
    (storeStep_dispatchInvariant stored op (invariant.records requestId stored found))
    (invariant.storeCall_progress op found)

theorem putFrame {frame : Frame}
    (stands : ∀ identity requestId authorizationId,
      frame.payload = .effectAuthorized identity requestId authorizationId true →
      Authorized state.records identity authorizationId) :
    EffectInvariant hashing { state with frames := state.frames ++ [frame] } := by
  refine { invariant with replies := ?_ }
  exact forall_mem_snoc invariant.replies stands

/-- The gateway's reply: the authorization is in the record before the frame is sent. -/
theorem effectReply {command : CommandIdentity} (ownerEpoch : String)
    (connection : ConnectionIdentity) {frame : Frame} (gates : EffectGates)
    (freshId messageId : String) (now : Timestamp) (seen : Record)
    (asked : frame.payload = .effectAuthorize command)
    (found : state.records command.requestId = some stored) :
    let answer := Node.effectReply hashing ownerEpoch connection frame gates freshId messageId now
      seen stored
    EffectInvariant hashing { state.putRecord command.requestId answer.1 with
        frames := state.frames ++ [answer.2] } ∧
      RecordsProgress state.records (state.putRecord command.requestId answer.1).records := by
  intro answer
  obtain ⟨moved, positive⟩ := effectReply_cases hashing Projections.plain ownerEpoch
    connection frame gates freshId messageId now seen stored
  have written : EffectInvariant hashing (state.putRecord command.requestId answer.1) ∧
      RecordsProgress state.records (state.putRecord command.requestId answer.1).records := by
    rcases moved with kept | ⟨op, call⟩
    · have progress : RecordsProgress state.records
          (state.putRecord command.requestId stored).records := by
        refine EffectState.putRecord_progress ?_
        intro record lookup
        rw [found] at lookup
        cases lookup
        exact fun dispatch member => ⟨dispatch, member, .refl dispatch⟩
      rw [show answer.1 = stored from kept]
      exact ⟨invariant.putRecord (invariant.records _ _ found) progress, progress⟩
    · rw [show answer.1 = _ from call]
      exact ⟨invariant.storeCall op found, invariant.storeCall_progress op found⟩
  refine ⟨written.1.putFrame ?_, written.2⟩
  intro identity requestId authorizationId granted
  obtain ⟨same, dispatch, bound, identified, authorized⟩ :=
    positive identity requestId authorizationId granted
  rw [asked] at same
  cases same
  exact ⟨answer.1, dispatch, by simp [EffectState.putRecord], bound, identified, authorized⟩

/-- A call of the node's receipt store, whose intents carry replies that were sent. -/
theorem receiptCall (issued : IssuedCall)
    (delivered : ∀ identity request reply connectionGeneration,
      issued.call = .effectIntent identity request reply connectionGeneration →
      reply ∈ state.frames) :
    EffectInvariant hashing
      { state with database := receiptStep sha256 hashing state.database issued } := by
  have effect := @receiptStep_effect sha256 hashing state.database issued
  refine { invariant with tables := ?_, backed := ?_, spent := ?_ }
  · exact invariant.tables.of_effect effect
  · refine invariant.backed.of_effect effect ?_
    intro identity request reply connectionGeneration authorizationId called authorized
    obtain ⟨_, positive⟩ := validateEffectAuthorization_ok authorized
    exact ⟨authorizationId, invariant.replies reply
      (delivered identity request reply connectionGeneration called) _ _ _ positive⟩
  · intro identity member
    exact (invariant.spent identity member).of_effect effect

/-- The worker may be called once more for a command it was not called for. -/
theorem invoke (fresh : identity.commandId ∉ state.invoked.map CommandIdentity.commandId)
    (spent : Spent identity.commandId state.database)
    (authorized : ∃ authorizationId, Authorized state.records identity authorizationId) :
    EffectInvariant hashing { state with invoked := state.invoked ++ [identity] } := by
  refine { invariant with spent := ?_, authorized := ?_, once := ?_ }
  · exact forall_mem_snoc invariant.spent spent
  · exact forall_mem_snoc invariant.authorized authorized
  rw [map_append, nodup_append]
  refine ⟨invariant.once, nodup_singleton _, ?_⟩
  intro command member other otherMember same
  rw [map_singleton, mem_singleton] at otherMember
  exact fresh (otherMember ▸ same ▸ member)

end EffectInvariant

/-! ## The node's steps -/

theorem handoffIfQuiescent_database (owner : ExecutionOwner) (db : Database) (storage : Storage)
    (reopened : Except GatewayError Unit) :
    (handoffIfQuiescent sha256 hashing owner db storage reopened).2 = db ∨
      ∃ issued nodeEpoch gatewayOwnerEpoch,
        issued.call = .advanceEpoch nodeEpoch gatewayOwnerEpoch ∧
        (handoffIfQuiescent sha256 hashing owner db storage reopened).2 =
          receiptStep sha256 hashing db issued := by
  unfold handoffIfQuiescent
  split
  next control _ _ =>
    split
    next => exact .inl rfl
    next =>
      refine .inr ⟨⟨owner.store, storage, .advanceEpoch control.scope.nodeEpoch
        control.scope.gatewayOwnerEpoch⟩, _, _, rfl, ?_⟩
      dsimp only
      split <;> rfl
  next => exact .inl rfl

theorem finishRun_database (owner : ExecutionOwner) (db : Database) (found : Option WorkerProof)
    (storage : Storage) :
    (finishRun sha256 hashing owner db found storage).2 = db ∨
      ∃ issued identity proof, issued.call = .terminalFromWorkerResult identity proof ∧
        (finishRun sha256 hashing owner db found storage).2 =
          receiptStep sha256 hashing db issued := by
  unfold finishRun
  split
  next identity proof _ =>
    refine .inr ⟨⟨owner.store, storage, .terminalFromWorkerResult identity proof⟩, identity,
      proof, rfl, ?_⟩
    dsimp only
    split <;> rfl
  next => exact .inl rfl

theorem newlyRunning_of_same {before after : ExecutionOwner}
    (same : after.running = before.running) : newlyRunning before after = [] := by
  unfold newlyRunning
  split
  next idle => rw [same, idle, toList_none]
  next => rfl

/-- The calls a run makes before the worker: nothing, a preparation, or a preparation and an
intent; the worker is called only after the intent was granted. -/
theorem beginRun_cases (owner : ExecutionOwner) (db : Database) (identity : CommandIdentity)
    (inputs : RunInputs) (preparing intending : Storage) :
    let moved := beginRun sha256 hashing owner db identity inputs preparing intending
    let middle := receiptStep sha256 hashing db
      ⟨owner.store, preparing, .prepare identity inputs.payload⟩
    (moved.1.running = owner.running ∧ (moved.2 = db ∨ moved.2 = middle)) ∨
      ∃ issued generation,
        issued.call = .effectIntent identity inputs.request inputs.reply generation ∧
        moved.2 = receiptStep sha256 hashing middle issued ∧
        (moved.1.running = owner.running ∨ moved.1.running = some identity ∧
          grantsIntent identity.commandId (receiptAnswer sha256 hashing middle issued).1 =
            true) := by
  intro moved middle
  unfold moved beginRun
  dsimp only
  split
  next => exact .inl ⟨rfl, .inl rfl⟩
  next live _ =>
    split
    next => exact .inl ⟨rfl, .inr rfl⟩
    next receipt _ =>
      split
      next => exact .inl ⟨rfl, .inr rfl⟩
      next =>
        refine .inr ⟨⟨owner.store, intending, .effectIntent identity inputs.request inputs.reply
          live.connectionGeneration⟩, _, rfl, ?_⟩
        split
        next granted =>
          exact ⟨rfl, .inr ⟨rfl, grantsIntent_of_ok rfl granted⟩⟩
        next => exact ⟨rfl, .inl rfl⟩
    next => exact .inl ⟨rfl, .inr rfl⟩

namespace EffectInvariant

variable {state : EffectState} (invariant : EffectInvariant hashing state)
include invariant

theorem withOwner (owner : ExecutionOwner) : EffectInvariant hashing { state with owner } :=
  { invariant with }

theorem handoff (storage : Storage) (reopened : Except GatewayError Unit) :
    let moved := handoffIfQuiescent sha256 hashing state.owner state.database storage reopened
    EffectInvariant hashing { state with owner := moved.1, database := moved.2 } := by
  intro moved
  have advanced : EffectInvariant hashing { state with database := moved.2 } := by
    rcases handoffIfQuiescent_database state.owner
        state.database storage reopened with kept | ⟨issued, _, _, called, stepped⟩
    · rw [show moved.2 = _ from kept]
      exact { invariant with }
    · rw [show moved.2 = _ from stepped]
      refine invariant.receiptCall issued ?_
      intro identity request reply connectionGeneration intent
      rw [called] at intent
      cases intent
  exact advanced.withOwner moved.1

theorem finishRun (found : Option WorkerProof) (storage : Storage) :
    let moved := Node.finishRun sha256 hashing state.owner state.database found storage
    EffectInvariant hashing { state with owner := moved.1, database := moved.2 } := by
  intro moved
  have finished : EffectInvariant hashing { state with database := moved.2 } := by
    rcases finishRun_database state.owner state.database found storage with
      kept | ⟨issued, _, _, called, stepped⟩
    · rw [show moved.2 = _ from kept]
      exact { invariant with }
    · rw [show moved.2 = _ from stepped]
      refine invariant.receiptCall issued ?_
      intro identity request reply connectionGeneration intent
      rw [called] at intent
      cases intent
  exact finished.withOwner moved.1

/-- A run commits an intent with the reply it was given, and then calls the worker. -/
theorem beginRun (identity : CommandIdentity) (inputs : RunInputs) (preparing intending : Storage)
    (delivered : inputs.reply ∈ state.frames) :
    let moved := Node.beginRun sha256 hashing state.owner state.database identity inputs preparing
      intending
    EffectInvariant hashing { state with
      owner := moved.1
      database := moved.2
      invoked := state.invoked ++ newlyRunning state.owner moved.1 } := by
  intro moved
  let preparation : IssuedCall :=
    ⟨state.owner.store, preparing, .prepare identity inputs.payload⟩
  have prepared : EffectInvariant hashing
      { state with database := receiptStep sha256 hashing state.database preparation } := by
    refine invariant.receiptCall preparation ?_
    intro _ _ _ _ intent
    cases intent
  rcases beginRun_cases state.owner state.database identity inputs preparing intending with
    ⟨idle, stored⟩ | ⟨issued, generation, called, stored, ran⟩
  · rw [newlyRunning_of_same idle, append_nil]
    rcases stored with kept | stepped
    · rw [show moved.2 = _ from kept]
      exact { invariant with }
    · rw [show moved.2 = _ from stepped]
      exact { prepared with }
  · have intended : EffectInvariant hashing { state with database := moved.2 } := by
      rw [show moved.2 = _ from stored]
      refine prepared.receiptCall issued ?_
      intro _ _ reply _ intent
      rw [called] at intent
      cases intent
      exact delivered
    rcases ran with idle | ⟨running, granted⟩
    · rw [newlyRunning_of_same idle, append_nil]
      exact { intended with }
    by_cases free : state.owner.running = none
    · have calls : newlyRunning state.owner moved.1 = [identity] := by
        rw [newlyRunning, if_pos free, show moved.1.running = _ from running, toList_some]
      have fresh : identity.commandId ∉ state.invoked.map CommandIdentity.commandId := by
        intro member
        obtain ⟨other, invoked, same⟩ := List.mem_map.mp member
        have spent := prepared.spent other invoked
        rw [same] at spent
        exact grantsIntent_fresh granted spent
      have spent : Spent identity.commandId moved.2 := by
        rw [show moved.2 = _ from stored]
        exact grantsIntent_spends granted
      have authorized : ∃ authorizationId, Authorized state.records identity authorizationId := by
        obtain ⟨authorizationId, validated⟩ := grantsIntent_authorized granted called
        exact ⟨authorizationId, invariant.replies _ delivered _ _ _
          (validateEffectAuthorization_ok validated).2⟩
      rw [calls]
      exact (intended.invoke fresh spent authorized).withOwner moved.1
    · rw [newlyRunning, if_neg free, append_nil]
      exact { intended with }

/-- **Every step keeps the agreement**, and no authorization or fence is taken back. -/
theorem step (action : EffectAction) :
    EffectInvariant hashing (effectStep hashing sha256 projections state action) ∧
      RecordsProgress state.records
        (effectStep hashing sha256 projections state action).records := by
  have kept := RecordsProgress.refl state.records
  cases action with
  | admitRequest requestId admission metadata warnings sessionId =>
    simp only [effectStep]
    split
    next => exact ⟨invariant, kept⟩
    next absent =>
      have progress : RecordsProgress state.records (state.putRecord requestId
          (buildRecord { admission with requestId } metadata warnings sessionId)).records := by
        refine EffectState.putRecord_progress ?_
        intro stored found
        rw [absent] at found
        cases found
      exact ⟨invariant.putRecord (buildRecord_dispatchInvariant _ _ _ _) progress, progress⟩
  | storeCall requestId op =>
    simp only [effectStep]
    split
    next stored found =>
      exact ⟨invariant.storeCall op found, invariant.storeCall_progress op found⟩
    next => exact ⟨invariant, kept⟩
  | request frame command =>
    refine ⟨invariant.putFrame ?_, kept⟩
    intro _ _ _ positive
    cases positive
  | effectReply message ownerEpoch connection gates freshId messageId now seen =>
    simp only [effectStep]
    split
    next => exact ⟨invariant, kept⟩
    next frame _ =>
      split
      next command asked =>
        split
        next =>
          refine ⟨invariant.putFrame ?_, kept⟩
          intro _ _ _ positive
          cases positive
        next stored found =>
          exact invariant.effectReply ownerEpoch connection gates freshId messageId now seen
            asked found
      next => exact ⟨invariant, kept⟩
  | observeConnection connection active =>
    simp only [effectStep]
    split
    next => exact ⟨invariant.withOwner _, kept⟩
    next => exact ⟨invariant, kept⟩
  | connectionLost | restart => exact ⟨invariant.withOwner _, kept⟩
  | handoff storage reopened => exact ⟨invariant.handoff storage reopened, kept⟩
  | beginRun identity reply prepared workspace payload request preparing intending =>
    simp only [effectStep]
    split
    next => exact ⟨invariant, kept⟩
    next delivered found =>
      exact ⟨invariant.beginRun identity ⟨prepared, workspace, payload, request, delivered⟩
        preparing intending (mem_of_getElem? found), kept⟩
  | finishRun found storage => exact ⟨invariant.finishRun found storage, kept⟩

end EffectInvariant

/-! ## Agreement -/

theorem exec_effectInvariant {start : EffectState} (initially : EffectInvariant hashing start)
    (actions : List EffectAction) :
    EffectInvariant hashing (exec (effectStep hashing sha256 projections) start actions) :=
  exec_invariant (fun state action (holds : EffectInvariant hashing state) => (holds.step action).1)
    initially actions

theorem exec_recordsProgress {start : EffectState} (initially : EffectInvariant hashing start)
    (actions : List EffectAction) :
    RecordsProgress start.records
      (exec (effectStep hashing sha256 projections) start actions).records := by
  refine exec_relates (R := fun before after : EffectState =>
    RecordsProgress before.records after.records) ?_ ?_
    (fun state action (holds : EffectInvariant hashing state) => (holds.step action).1)
    (fun state action holds => (holds.step action).2) initially actions
  · exact fun state => .refl state.records
  · exact fun _ _ _ left right => left.trans right

def HasIntent (db : Database) (identity : CommandIdentity) : Prop :=
  ∃ entry ∈ db.outbox, entry.state = .effectIntent ∧
    ∃ row ∈ db.commands, row.command = entry.command ∧ row.identity = identity

theorem EffectInvariant.authorized_of_hasIntent {state : EffectState}
    (invariant : EffectInvariant hashing state) (intent : HasIntent state.database identity) :
    ∃ authorizationId, Authorized state.records identity authorizationId := by
  obtain ⟨entry, stored, stage, row, present, addressed, rfl⟩ := intent
  have reached : entry.state.rank ≤ row.state.rank := by
    refine invariant.tables.rank_le_of_mem present (mem_filter.mpr ⟨stored, ?_⟩)
    exact decide_eq_true addressed.symm
  have left : row.state ≠ .prepared := by
    intro prepared
    rw [stage, prepared] at reached
    exact absurd reached (by decide)
  exact invariant.backed row.command row (invariant.tables.command?_of_mem present) left

theorem EffectInvariant.not_noEffect {state : EffectState}
    (invariant : EffectInvariant hashing state)
    (authorized : Authorized state.records identity authorizationId) :
    ∃ record dispatch, state.records identity.requestId = some record ∧
      record.nodeDispatch = some dispatch ∧ dispatch.identity = identity ∧
      dispatch.authorizationId ≠ none ∧ dispatch.authorizationState ≠ .noEffect := by
  obtain ⟨record, dispatch, found, bound, same, granted⟩ := authorized
  have present : dispatch.authorizationId ≠ none := by
    rw [granted]
    exact some_ne_none _
  refine ⟨record, dispatch, found, bound, same, present, ?_⟩
  intro fenced
  have allowed := (invariant.records _ record found dispatch bound).granted.mpr present
  rw [fenced] at allowed
  cases allowed

/-- **Effect agreement.**  In every run from a new node and an empty store: once the node has
committed an effect intent for a command, the canonical record of the command's request is bound
to that command, carries its authorization and is not fenced, then and ever after; a command
whose binding was ever fenced has no intent; and the worker is called at most once for a command
id. -/
theorem effect_agreement (sha256 : List UInt8 → String) (projections : Projections)
    (hashing : Hashing) (scope : OwnerScope) (logIncarnationId nodeEpoch : String)
    (earlier later : List EffectAction) :
    let start := EffectState.initial scope logIncarnationId nodeEpoch
    let middle := exec (effectStep hashing sha256 projections) start earlier
    let final := exec (effectStep hashing sha256 projections) start (earlier ++ later)
    (∀ identity, HasIntent middle.database identity →
        ∃ record dispatch, final.records identity.requestId = some record ∧
          record.nodeDispatch = some dispatch ∧ dispatch.identity = identity ∧
          dispatch.authorizationId ≠ none ∧ dispatch.authorizationState ≠ .noEffect) ∧
      (∀ record dispatch, middle.records dispatch.identity.requestId = some record →
        record.nodeDispatch = some dispatch → dispatch.authorizationState = .noEffect →
        ¬ HasIntent final.database dispatch.identity) ∧
      (final.invoked.map CommandIdentity.commandId).Nodup := by
  intro start middle final
  have reached : EffectInvariant hashing middle :=
    exec_effectInvariant (initial_effectInvariant scope logIncarnationId nodeEpoch) earlier
  have continued : final = exec (effectStep hashing sha256 projections) middle later :=
    exec_append _ start earlier later
  have progress : RecordsProgress middle.records final.records := by
    rw [continued]
    exact exec_recordsProgress reached later
  have ended : EffectInvariant hashing final := by
    rw [continued]
    exact exec_effectInvariant reached later
  refine ⟨?_, ?_, ended.once⟩
  · intro identity intent
    obtain ⟨authorizationId, authorized⟩ := reached.authorized_of_hasIntent intent
    exact ended.not_noEffect (authorized.mono progress)
  intro record dispatch found bound fenced intent
  obtain ⟨authorizationId, authorized⟩ := ended.authorized_of_hasIntent intent
  obtain ⟨last, held, lastFound, heldBound, _, _, free⟩ := ended.not_noEffect authorized
  obtain ⟨next, nextFound, moved⟩ := progress _ record found
  obtain ⟨kept, keptBound, further⟩ := moved dispatch bound
  rw [lastFound] at nextFound
  cases nextFound
  rw [heldBound] at keptBound
  cases keptBound
  exact free (further.noEffect fenced)

/-- **No effect without the gateway.**  In every run all authorizations sent for a command carry one
id, and the worker is given only commands that are authorized on the record of their request. -/
theorem effects_are_authorized (scope : OwnerScope) (logIncarnationId nodeEpoch : String)
    (actions : List EffectAction) :
    let state := exec (effectStep hashing sha256 projections)
      (.initial scope logIncarnationId nodeEpoch) actions
    (∀ identity, Set.Subsingleton {authorizationId | ∃ frame ∈ state.frames, ∃ requestId,
      frame.payload = .effectAuthorized identity requestId authorizationId true}) ∧
    ∀ invoked ∈ state.invoked, ∃ authorizationId,
      Authorized state.records invoked authorizationId := by
  intro state
  have invariant : EffectInvariant hashing state :=
    exec_effectInvariant (initial_effectInvariant scope logIncarnationId nodeEpoch) actions
  refine ⟨?_, invariant.authorized⟩
  · rintro identity first ⟨frame, sent, requestId, granted⟩ second ⟨other, resent, reply, again⟩
    obtain ⟨record, dispatch, found, bound, -, one⟩ :=
      invariant.replies frame sent identity requestId first granted
    obtain ⟨_, _, found', bound', -, two⟩ :=
      invariant.replies other resent identity reply second again
    cases found.symm.trans found'
    cases bound.symm.trans bound'
    exact Option.some_inj.mp (one.symm.trans two)

end Audiagentic.Node
