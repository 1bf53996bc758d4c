import Mathlib.Data.List.Dedup
import Audiagentic.Gateway.DispatchRuns
import Audiagentic.Gateway.Handover
import Audiagentic.Node.Checkpoints

/-!
# Receipt ingress at the gateway

`NodeReceiptRuntime` finds the one canonical request a receipt belongs to and hands it
to the stream owner, which applies the receipt and advances the node's cursor.  The
cursor is strictly sequential: a receipt that is refused stands in the way of every
later receipt of the node.
-/

namespace Audiagentic.Node

open Foundations Gateway List Option

/-! ## The state -/

structure IngressConfig where
  /-- `config.projects`: the root of each server project. -/
  projects : List (String × String)
  /-- `service.root`. -/
  serviceRoot : String

/-- `dict.fromkeys(config.projects.values())`. -/
def IngressConfig.roots (config : IngressConfig) : List String :=
  (config.projects.map Prod.snd).reverse.dedup.reverse

theorem IngressConfig.nodup_roots (config : IngressConfig) : config.roots.Nodup :=
  nodup_reverse.mpr (nodup_dedup _)

/-- What a project root has under a request id. -/
inductive RecordFile where
  | absent
  /-- A file that is not JSON. -/
  | damaged
  | stored (record : Record)

/-- `read_record`. -/
def RecordFile.read (requestId : String) : RecordFile → Except GatewayError Record
  | .absent => .error (agentsErrorWith "RES-AGW-001" "gateway request not found"
      [("request-id", .text requestId)])
  | .damaged => .error (agentsErrorWith "IO-AGW-001" "failed to read gateway request record"
      [("request-id", .text requestId)])
  | .stored record => record.readLocked

structure IngressState where
  ownerEpoch : String
  /-- The canonical request files, by project root and request id. -/
  files : String → String → RecordFile
  cursor : Option Cursor

def IngressState.put (state : IngressState) (root requestId : String) (file : RecordFile) :
    IngressState :=
  { state with files := fun otherRoot otherId =>
      if otherRoot = root ∧ otherId = requestId then file else state.files otherRoot otherId }

@[simp] theorem IngressState.put_files_self (state : IngressState) (root requestId : String)
    (file : RecordFile) : (state.put root requestId file).files root requestId = file :=
  if_pos ⟨rfl, rfl⟩

theorem IngressState.put_files_of_ne {state : IngressState} {root requestId otherRoot
    otherId : String} {file : RecordFile} (different : ¬ (otherRoot = root ∧ otherId = requestId)) :
    (state.put root requestId file).files otherRoot otherId = state.files otherRoot otherId :=
  if_neg different

theorem IngressState.put_files (state : IngressState) (root requestId : String) :
    state.put root requestId (state.files root requestId) = state := by
  simp only [put]
  congr 1
  funext otherRoot otherId
  split
  next here =>
    rw [here.1, here.2]
  next => rfl

def IngressState.call (root requestId : String) (operation : Operation) :
    Script GatewayError IngressState Record := do
  let state ← Script.read
  match state.files root requestId with
  | .stored record => do
    Script.write fun state => state.put root requestId (.stored (operation.run record).1)
    Script.check (operation.run record).2
  | file => Script.check (file.read requestId)

/-! ## The target of a receipt -/

section Ingress

variable (resolve : String → String) (config : IngressConfig)

/-- The loop of `_target`: the records under the request id, root by root.  Only a missing
record is passed over. -/
def originals (files : String → String → RecordFile) (requestId : String) :
    List String → Except GatewayError (List (String × Record))
  | [] => .ok []
  | root :: roots =>
    match (files root requestId).read requestId with
    | .ok record => do
      let others ← originals files requestId roots
      return (root, record) :: others
    | .error error => do
      refuse (error.code ≠ "RES-AGW-001") error
      originals files requestId roots

/-- `Path(record["dispatch-service-root"]).resolve() == self.service.root.resolve()`, on a
root that is set. -/
def servedHere (record : Record) : Bool :=
  present record.dispatchServiceRoot &&
    decide (record.dispatchServiceRoot.map resolve = some (resolve config.serviceRoot))

/-- The last check of `_target`: the record is the original of the receipt, and it is owned. -/
def differsFromOriginal (ownerEpoch root : String) (record : Record)
    (identity : CommandIdentity) : Prop :=
  record.nodeDispatch.map NodeDispatch.identity ≠ some identity ∨
    record.admission.nodePlacement.map NodePlacement.nodeId ≠ some identity.nodeId ∨
    record.admission.nodePlacement.map NodePlacement.workspaceId ≠ some identity.workspaceId ∨
    record.admission.nodePlacement.map NodePlacement.grantRevision ≠
      some identity.grantRevision ∨
    (record.admission.nodePlacement.bind fun placement =>
      config.projects.lookup placement.serverProjectId) ≠ some root ∨
    record.dispatchOwnerEpoch ≠ some ownerEpoch ∨
    record.admission.executionProfileId ≠ identity.executionProfileId ∨
    servedHere resolve config record = false

instance (ownerEpoch root : String) (record : Record) (identity : CommandIdentity) :
    Decidable (differsFromOriginal resolve config ownerEpoch root record identity) :=
  inferInstanceAs (Decidable (_ ∨ _))

def target (state : IngressState) (identity : CommandIdentity) :
    Except GatewayError (String × Record) := do
  let found ← originals state.files identity.requestId config.roots
  match found with
  | [(root, record)] => do
    refuse (differsFromOriginal resolve config state.ownerEpoch root record identity)
      (conflictBecause "receipt-target-mismatch" "Receipt differs from its original owned request")
    return (root, record)
  | _ => .error (conflictBecause "receipt-target-mismatch"
      "Receipt requires one original canonical request")

/-- What surrounds one call of `_accept`. -/
structure IngressAccess where
  /-- `authority.serialize(_current(connection, stream=True))`. -/
  current : Except GatewayError Unit
  custody : CustodyAccess
  /-- The stream owner saw a failed cursor write. -/
  poisoned : Bool

/-- The fence that `_accept` reads off the record. -/
def receiptFence (ownerEpoch : String) (record : Record) : NodeFence where
  ownerEpoch := some ownerEpoch
  workerId := record.workerId
  attemptEpoch := record.attemptEpoch
  expectedRevision := record.revision

variable (hashing : Hashing) (owner : Checkpoints)

/-- `_accept`, with `NodeReceiptCheckpoints.accept`: the acknowledged cursor. -/
def accept (access : IngressAccess) (receipt : PublicReceipt) (logIncarnationId : String)
    (now : Timestamp) : Script GatewayError IngressState Cursor := do
  Script.check access.current
  let state ← Script.read
  let plan ← Script.check
    (owner.plan hashing access.custody access.poisoned state.cursor receipt logIncarnationId)
  match plan with
  | .repeatAck cursor => return { cursor with gatewayOwnerEpoch := state.ownerEpoch }
  | .applyNext => do
    let original ← Script.check (target resolve config state receipt.identity)
    let _ ← IngressState.call original.1 receipt.identity.requestId
      (applyOwnedNodeReceipt hashing receipt (receiptFence state.ownerEpoch original.2) now)
    let committed := owner.committed hashing receipt logIncarnationId state.ownerEpoch
    Script.write fun state => { state with cursor := some committed }
    return committed

end Ingress

/-! ## Finding the original -/

section Target

variable {files : String → String → RecordFile} {requestId : String} {roots : List String}

theorem readLocked_error {record : Record} {error : GatewayError}
    (failed : record.readLocked = .error error) : error.code = "VAL-AGW-005" := by
  simp only [Record.readLocked, Record.validate] at failed
  by_cases consistent : record.migrate.admissionConsistent = false
  · rw [refuse_of consistent] at failed
    cases failed
    rfl
  rw [refuse_of_not consistent] at failed
  change (refuse (record.migrate.schemaIssues ≠ []) _ >>= _) = _ at failed
  by_cases issues : record.migrate.schemaIssues ≠ []
  · rw [refuse_of issues] at failed
    cases failed
    rfl
  · rw [refuse_of_not issues] at failed
    cases failed

theorem RecordFile.read_notFound {file : RecordFile} {error : GatewayError}
    (failed : file.read requestId = .error error) (notFound : error.code = "RES-AGW-001") :
    file = .absent := by
  cases file with
  | absent => rfl
  | damaged =>
    cases failed
    exact absurd notFound (by simp [agentsErrorWith])
  | stored record =>
    rw [readLocked_error failed] at notFound
    exact absurd notFound (by decide)

theorem originals_covers {found : List (String × Record)}
    (success : originals files requestId roots = .ok found) :
    ∀ root ∈ roots, files root requestId = .absent ∨
      ∃ record, (files root requestId).read requestId = .ok record ∧ (root, record) ∈ found := by
  induction roots generalizing found with
  | nil =>
    intro root member
    cases member
  | cons first rest ih =>
    simp only [originals] at success
    intro root member
    cases read : (files first requestId).read requestId with
    | ok record =>
      simp only [read, bind_eq_ok] at success
      obtain ⟨others, later, same⟩ := success
      cases same
      rcases mem_cons.mp member with rfl | member
      · exact .inr ⟨record, read, mem_cons_self⟩
      · rcases ih later root member with absent | ⟨other, readOther, listed⟩
        · exact .inl absent
        · exact .inr ⟨other, readOther, mem_cons_of_mem _ listed⟩
    | error error =>
      simp only [read, refuse_bind_eq_ok, not_not] at success
      rcases mem_cons.mp member with rfl | member
      · exact .inl (RecordFile.read_notFound read success.1)
      · exact ih success.2 root member

theorem originals_of_absent (absent : ∀ root ∈ roots, files root requestId = .absent) :
    originals files requestId roots = .ok [] := by
  induction roots with
  | nil => rfl
  | cons first rest ih =>
    have none_first := absent first mem_cons_self
    simp only [originals, none_first, RecordFile.read]
    exact ih fun root member => absent root (mem_cons_of_mem _ member)

theorem originals_of_only {root : String} {record : Record} (distinct : roots.Nodup)
    (member : root ∈ roots) (read : (files root requestId).read requestId = .ok record)
    (only : ∀ other ∈ roots, other ≠ root → files other requestId = .absent) :
    originals files requestId roots = .ok [(root, record)] := by
  induction roots with
  | nil => cases member
  | cons first rest ih =>
    obtain ⟨fresh, distinct⟩ := nodup_cons.mp distinct
    rcases mem_cons.mp member with rfl | member
    · have later := @originals_of_absent files requestId rest
        fun other listed => only other (mem_cons_of_mem _ listed) fun same =>
          fresh (same ▸ listed)
      simp only [originals, read, later]
      rfl
    · have different : first ≠ root := fun same => fresh (same ▸ member)
      have none_first := only first mem_cons_self different
      simp only [originals, none_first, RecordFile.read]
      exact ih distinct member fun other listed =>
        only other (mem_cons_of_mem _ listed)

end Target

/-! ## Recording the next receipt -/

section Record

variable {hashing : Hashing}

variable (hashing) in
def Takes (dispatch : NodeDispatch) (receipt : PublicReceipt) : Prop :=
  (dispatch.receiptSequence = receipt.receiptSequence ∧
      dispatch.receiptSha256 = some (hashing.receipt receipt)) ∨
    (dispatch.receiptSequence < receipt.receiptSequence ∧
      (∀ previous ∈ dispatch.receiptStage, previous.blocks receipt.state = false) ∧
      (receipt.state ≠ .prepared → dispatch.authorizationId ≠ none))

theorem received_schemaValid {dispatch : NodeDispatch} {receipt : PublicReceipt}
    (valid : dispatch.schemaValid = true) (parsed : receipt.wellFormed = true) :
    (dispatch.received hashing receipt).schemaValid = true := by
  have digest := hashing.receipt_isSha256 receipt
  have bounded : receipt.receiptSequence ≤ maxInteger := by
    simp only [PublicReceipt.wellFormed, isContractInteger, Bool.and_eq_true,
      decide_eq_true_eq] at parsed
    exact parsed.1.2
  have output : whenPresent matchesSha256 receipt.outputSha256 = true := by
    simp only [PublicReceipt.wellFormed, Bool.and_eq_true] at parsed
    cases digest : receipt.outputSha256 with
    | none => rfl
    | some value =>
      have shape := parsed.2
      rw [digest] at shape
      cases stage : receipt.state <;> simp [stage, whenPresent, matchesSha256] at shape ⊢
      exact .inl shape
  simp only [NodeDispatch.schemaValid, NodeDispatch.received, Bool.and_eq_true,
    decide_eq_true_eq] at valid ⊢
  obtain ⟨⟨⟨⟨⟨identity, attestation⟩, authorization⟩, _⟩, _⟩, _⟩ := valid
  exact ⟨⟨⟨⟨⟨identity, attestation⟩, authorization⟩, decide_eq_true bounded⟩, by
    simp only [whenPresent, matchesSha256, digest, Bool.true_or]⟩, output⟩

theorem writeNodeDispatch_of_valid {record : Record} {dispatch : NodeDispatch} {now : Timestamp}
    (valid : record.Valid) (named : record.admission.requestId ≠ "")
    (accepted : dispatch.schemaValid = true) :
    ∃ updated, writeNodeDispatch record dispatch false now = .ok updated := by
  refine ⟨_, Record.write_of_valid ?_ named rfl⟩
  rw [Record.valid_iff] at valid ⊢
  refine ⟨valid.1, ?_⟩
  have checks := valid.2
  simp only [Record.schemaChecks, forall_mem_cons] at checks ⊢
  obtain ⟨placement, _, rest⟩ := checks
  exact ⟨placement, accepted, rest⟩

/-- **A held record takes the receipt.** -/
theorem applyOwnedNodeReceipt_of_held {stored : Record} {dispatch : NodeDispatch}
    {receipt : PublicReceipt} {ownerEpoch : String} {now : Timestamp} (valid : stored.Valid)
    (bound : BoundDispatch hashing stored dispatch) (named : stored.admission.requestId ≠ "")
    (dispatched : stored.nodeDispatch = some dispatch)
    (identity : dispatch.identity = receipt.identity)
    (identified : receipt.identity.wellFormed = true) (parsed : receipt.wellFormed = true)
    (takes : Takes hashing dispatch receipt) (epoch : ownerEpoch ≠ "")
    (owned : stored.dispatchOwnerEpoch = some ownerEpoch)
    (worker : present stored.workerId = true) :
    ∃ updated, (applyOwnedNodeReceipt hashing receipt (receiptFence ownerEpoch stored.migrate)
      now).run stored = (updated, .ok updated) := by
  have schema : dispatch.schemaValid = true := by
    have checks := (Record.valid_iff.mp valid).2
    simp only [Record.schemaChecks, forall_mem_cons] at checks
    simpa only [dispatched, whenPresent] using checks.2.1
  have fence : (receiptFence ownerEpoch stored.migrate).require = .ok () := by
    refine NodeFence.require_ok.mpr ⟨by simpa [receiptFence, present] using epoch, worker, ?_, ?_⟩
    · have attempted := bound.attempted
      simp only [receiptFence, Record.migrate]
      omega
    · simp only [receiptFence]
      omega
  have held : (receiptFence ownerEpoch stored.migrate).check stored.migrate = .ok () := by
    refine NodeFence.check_ok.mpr ⟨?_, ?_, ?_, ?_⟩
    · rintro _ ⟨⟩
      rfl
    · rintro _ ⟨⟩
      exact owned
    · intro expected member
      exact member
    · rintro _ ⟨⟩
      rfl
  have matching : nodeMatchesRecord stored.migrate receipt.identity = .ok () := by
    refine nodeMatchesRecord_ok.mpr ?_
    rw [← identity]
    exact bound.isMatch
  have admitted : (applyOwnedNodeReceipt hashing receipt (receiptFence ownerEpoch stored.migrate)
      now).preflight = .ok () := by
    simp only [applyOwnedNodeReceipt, bind_eq_ok, CommandIdentity.validate_eq_ok, refuse_eq_ok,
      exists_const]
    exact ⟨_, ⟨identified, rfl⟩, by simp [parsed], fence⟩
  have body : ∃ updated, (applyOwnedNodeReceipt hashing receipt
      (receiptFence ownerEpoch stored.migrate) now).body stored.migrate = .ok updated := by
    have kept : stored.migrate.nodeDispatch = some dispatch := dispatched
    simp only [applyOwnedNodeReceipt, kept]
    rcases takes with ⟨same, digest⟩ | ⟨newer, follows, backed⟩
    · refine ⟨stored.migrate, bind_eq_ok.mpr ⟨_, held, bind_eq_ok.mpr ⟨_, matching, ?_⟩⟩⟩
      rw [if_pos same.symm, refuse_bind_eq_ok, refuse_bind_eq_ok]
      exact ⟨not_not_intro identity, not_not_intro digest.symm, rfl⟩
    obtain ⟨updated, written⟩ := @writeNodeDispatch_of_valid stored.migrate
      (dispatch.received hashing receipt) now (Record.valid_migrate_iff.mpr valid) named
      (received_schemaValid schema parsed)
    refine ⟨updated, bind_eq_ok.mpr ⟨_, held, bind_eq_ok.mpr ⟨_, matching, ?_⟩⟩⟩
    rw [if_neg (by omega), refuse_bind_eq_ok, refuse_bind_eq_ok, refuse_bind_eq_ok,
      refuse_bind_eq_ok]
    refine ⟨not_not_intro identity, by omega, ?_, ?_, written⟩
    · rintro ⟨previous, member, blocked⟩
      rw [follows previous member] at blocked
      cases blocked
    · rintro ⟨effect, absent⟩
      exact backed effect absent
  obtain ⟨updated, written⟩ := body
  refine ⟨updated, ?_⟩
  have read : stored.readLocked = .ok stored.migrate :=
    Record.readLocked_eq_ok.mpr ⟨valid, rfl⟩
  simp only [Operation.run, admitted, read, written]

end Record

/-! ## Acceptance -/

section Acceptance

variable {resolve : String → String} {config : IngressConfig} {hashing : Hashing}
  {owner : Checkpoints} {access : IngressAccess} {state : IngressState}
  {receipt : PublicReceipt} {logIncarnationId : String} {now : Timestamp} {root : String}
  {record : Record}

variable (config hashing) in
structure SoundRecord (root requestId : String) (record : Record) : Prop where
  valid : record.Valid
  named : record.admission.requestId = requestId
  nonempty : requestId ≠ ""
  dispatch : DispatchInvariant hashing record
  started : record.nodeDispatch ≠ none → record.state ≠ .queued
  /-- A node request is admitted into the root of the project it names. -/
  placed : ∀ placement ∈ record.admission.nodePlacement,
    config.projects.lookup placement.serverProjectId = some root

variable (config hashing owner) in
/-- **The invariant of the ingress.** -/
structure IngressInvariant (state : IngressState) : Prop where
  epoch : isIdentifier state.ownerEpoch = true
  records : ∀ root requestId record, state.files root requestId = .stored record →
    SoundRecord config hashing root requestId record
  cursor : ∀ cursor ∈ state.cursor, owner.readCursor cursor = .ok ()

variable (config hashing owner access state receipt logIncarnationId root record) in
/-- The node's next receipt, on a current channel, with the record that is bound to its
identity and may take it. -/
structure NextReceipt : Prop where
  current : access.current = .ok ()
  guarded : access.custody.guarded = .ok ()
  readable : access.custody.readable = .ok ()
  healthy : access.poisoned = false
  identified : receipt.identity.wellFormed = true
  parsed : receipt.wellFormed = true
  log : isLogId logIncarnationId = true
  sameLog : ∀ cursor ∈ state.cursor, cursor.logIncarnationId = logIncarnationId
  node : receipt.identity.nodeId = owner.nodeId
  next : receipt.receiptSequence = cursorSequence state.cursor + 1
  configured : root ∈ config.roots
  stored : state.files root receipt.identity.requestId = .stored record
  bound : ∃ dispatch, record.nodeDispatch = some dispatch ∧
    dispatch.identity = receipt.identity ∧ Takes hashing dispatch receipt

variable (resolve config hashing owner access state receipt logIncarnationId now) in
/-- The receipt is acknowledged and the cursor stands on it. -/
def Advances : Prop :=
  ∃ acknowledged written,
    (accept resolve config hashing owner access receipt logIncarnationId now).run state =
      (.ok acknowledged, written) ∧
    acknowledged.sequence = receipt.receiptSequence ∧
    cursorSequence written.cursor = receipt.receiptSequence

variable (resolve config record) in
structure HeldBy (ownerEpoch : String) : Prop where
  owned : record.dispatchOwnerEpoch = some ownerEpoch
  worker : present record.workerId = true
  served : servedHere resolve config record = true

variable (resolve config state root record) in
/-- **The live gateway holds the record**: it names the live owner, a worker and this service,
and no other project has a record of its id. -/
structure Held : Prop extends HeldBy resolve config record state.ownerEpoch where
  only : ∀ other ∈ config.roots, other ≠ root →
    state.files other record.admission.requestId = .absent

theorem ne_empty_of_isIdentifier {value : String} (identifier : isIdentifier value = true) :
    value ≠ "" := by
  rintro rfl
  exact absurd identifier (by decide +kernel)

section

variable (next : NextReceipt config hashing owner access state receipt logIncarnationId root record)
include next

section

variable (invariant : IngressInvariant config hashing owner state)
include invariant

theorem NextReceipt.plan :
    owner.plan hashing access.custody access.poisoned state.cursor receipt logIncarnationId =
      .ok .applyNext := by
  have arguments : acceptArguments owner receipt logIncarnationId = .ok () := by
    have parsed := next.parsed
    simp only [PublicReceipt.wellFormed, Bool.and_eq_true] at parsed
    simp only [acceptArguments, refuse_bind_eq_ok, next.log, parsed.1, next.node]
    refine ⟨by decide, by decide, not_not_intro rfl, ?_⟩
    have shape := parsed.2
    cases stage : receipt.state with
    | terminal =>
      refine refuse_of_not ?_
      rw [stage] at shape
      cases digest : receipt.outputSha256 with
      | none => simp [digest] at shape
      | some value =>
        rw [digest] at shape
        simpa using shape
    | prepared | effectIntent | nativeAccepted =>
      refine refuse_of_not ?_
      rw [stage] at shape
      exact not_not_intro (isNone_iff_eq_none.mp shape)
  have opened : owner.openStream access.custody access.poisoned state.cursor logIncarnationId =
      .ok state.cursor := by
    have read : owner.read access.custody.readable state.cursor = .ok state.cursor := by
      simp only [Checkpoints.read, next.readable]
      cases file : state.cursor with
      | none => rfl
      | some cursor =>
        have readable := invariant.cursor cursor file
        simp only [bind_eq_ok]
        exact ⟨⟨⟩, trivial, _, readable, rfl⟩
    simp only [Checkpoints.openStream, bind_eq_ok, next.guarded, next.healthy]
    refine ⟨⟨⟩, trivial, _, refuse_of_not (by decide), _, read, _, refuse_of_not ?_, rfl⟩
    rintro ⟨cursor, member, differs⟩
    exact differs (next.sameLog cursor member)
  simp only [Checkpoints.plan, bind_eq_ok]
  refine ⟨_, arguments, _, opened, ?_⟩
  have following := next.next
  cases file : state.cursor with
  | none =>
    rw [file] at following
    rw [refuse_bind_eq_ok]
    exact ⟨not_not_intro following, rfl⟩
  | some cursor =>
    rw [file] at following
    have beyond : receipt.receiptSequence = cursor.sequence + 1 := following
    simp only
    rw [if_neg (by omega), refuse_bind_eq_ok]
    exact ⟨not_not_intro beyond, rfl⟩

theorem target_of_held (held : Held resolve config state root record) :
    target resolve config state receipt.identity = .ok (root, record.migrate) := by
  have sound := invariant.records root _ record next.stored
  obtain ⟨dispatch, dispatched, identity, _⟩ := next.bound
  have bound := sound.dispatch dispatch dispatched
  obtain ⟨placement, placedAt, agrees⟩ := bound.isMatch.placement
  rw [identity] at agrees
  simp only [NodePlacement.agrees, Bool.and_eq_true, decide_eq_true_eq] at agrees
  have found : originals state.files receipt.identity.requestId config.roots =
      .ok [(root, record.migrate)] := by
    refine originals_of_only config.nodup_roots next.configured ?_ ?_
    · rw [next.stored]
      exact Record.readLocked_eq_ok.mpr ⟨sound.valid, rfl⟩
    · intro other member different
      rw [← sound.named]
      exact held.only other member different
  simp only [target, bind_eq_ok]
  refine ⟨_, found, ?_⟩
  rw [refuse_bind_eq_ok]
  refine ⟨?_, rfl⟩
  have profile := bound.isMatch.profile
  have project := sound.placed placement placedAt
  have owned := held.owned
  have served := held.served
  rw [identity] at profile
  simp only [differsFromOriginal, not_or, not_not, Record.migrate, dispatched, placedAt,
    map_some, bind_some, identity, agrees, profile, project, owned]
  exact ⟨trivial, trivial, trivial, trivial, trivial, trivial, trivial,
    by simpa [servedHere] using served⟩

/-- The target of a receipt whose record is known is that record, and it is the only one. -/
theorem held_of_target {found : String × Record}
    (success : target resolve config state receipt.identity = .ok found) :
    found = (root, record.migrate) ∧
      (∀ other ∈ config.roots, other ≠ root →
        state.files other record.admission.requestId = .absent) ∧
      record.dispatchOwnerEpoch = some state.ownerEpoch ∧
      servedHere resolve config record = true := by
  have sound := invariant.records root _ record next.stored
  have read : (state.files root receipt.identity.requestId).read receipt.identity.requestId =
      .ok record.migrate := by
    rw [next.stored]
    exact Record.readLocked_eq_ok.mpr ⟨sound.valid, rfl⟩
  simp only [target, bind_eq_ok] at success
  obtain ⟨list, search, success⟩ := success
  have covers := originals_covers search
  split at success
  next foundRoot foundRecord =>
    rw [refuse_bind_eq_ok] at success
    obtain ⟨original, same⟩ := success
    cases same
    have here : (foundRoot, foundRecord) = (root, record.migrate) := by
      rcases covers root next.configured with absent | ⟨other, readOther, member⟩
      · rw [next.stored] at absent
        cases absent
      · rw [read] at readOther
        cases readOther
        exact (mem_singleton.mp member).symm
    cases here
    simp only [differsFromOriginal, not_or, not_not] at original
    refine ⟨rfl, ?_, original.2.2.2.2.2.1, ?_⟩
    · intro other member different
      rw [sound.named]
      rcases covers other member with absent | ⟨_, _, listed⟩
      · exact absent
      · cases mem_singleton.mp listed
        exact absurd rfl different
    · exact eq_true_of_ne_false original.2.2.2.2.2.2.2
  next => cases success

end

end

/-- **Acceptance is holding.**  For the next receipt of a node, with a record that is bound to
it and may take it, the ingress accepts it exactly when the live gateway holds the record. -/
theorem accept_iff_held
    (invariant : IngressInvariant config hashing owner state)
    (next : NextReceipt config hashing owner access state receipt logIncarnationId root record) :
    Advances resolve config hashing owner access state receipt logIncarnationId now ↔
      Held resolve config state root record := by
  have planned := next.plan invariant
  have sound := invariant.records root _ record next.stored
  obtain ⟨dispatch, dispatched, identity, takes⟩ := next.bound
  constructor
  · rintro ⟨acknowledged, written, success, _, _⟩
    simp only [accept, next.current, planned, Script.run_check_ok_bind, Script.run_read_bind,
      Script.check_bind_eq_ok] at success
    obtain ⟨original, resolved, success⟩ := success
    obtain ⟨rfl, only, owned, served⟩ := held_of_target next invariant resolved
    refine ⟨⟨owned, ?_, served⟩, only⟩
    simp only [Script.bind_eq_ok, IngressState.call, Script.run_read_bind, next.stored,
      Script.run_write_bind, Script.run_check] at success
    obtain ⟨applied, _, outcome, _⟩ := success
    have returned : ((applyOwnedNodeReceipt hashing receipt
        (receiptFence state.ownerEpoch record.migrate) now).run record).2 = .ok applied :=
      congrArg Prod.fst outcome
    rcases Operation.run_cases (applyOwnedNodeReceipt hashing receipt
        (receiptFence state.ownerEpoch record.migrate) now) record with
      ⟨error, refused⟩ | ⟨error, failed⟩ | ⟨_, admitted, _⟩
    · rw [refused] at returned
      cases returned
    · rw [failed] at returned
      cases returned
    · simp only [applyOwnedNodeReceipt, bind_eq_ok, NodeFence.require_ok] at admitted
      obtain ⟨_, _, _, _, _, worker, _⟩ := admitted
      exact worker
  · intro held
    have resolved := target_of_held next invariant held
    have epoch := ne_empty_of_isIdentifier invariant.epoch
    have named : record.admission.requestId ≠ "" := by
      rw [sound.named]
      exact sound.nonempty
    obtain ⟨updated, applied⟩ := @applyOwnedNodeReceipt_of_held hashing record dispatch receipt
      state.ownerEpoch now sound.valid (sound.dispatch dispatch dispatched) named dispatched
      identity next.identified next.parsed takes epoch held.owned held.worker
    refine ⟨owner.committed hashing receipt logIncarnationId state.ownerEpoch,
      { state.put root receipt.identity.requestId (.stored updated) with
      cursor := some (owner.committed hashing receipt logIncarnationId state.ownerEpoch) }, ?_,
      rfl, rfl⟩
    simp only [accept, next.current, planned, resolved, Script.run_check_ok_bind,
      Script.run_read_bind]
    have called : (IngressState.call root receipt.identity.requestId
        (applyOwnedNodeReceipt hashing receipt
          (receiptFence state.ownerEpoch record.migrate) now)).run state =
        (.ok updated, state.put root receipt.identity.requestId (.stored updated)) := by
      simp only [IngressState.call, Script.run_read_bind, next.stored, Script.run_write_bind,
        Script.run_check, applied]
    rw [Script.run_bind_of_ok called]
    rfl

end Acceptance

end Audiagentic.Node
