import Mathlib.Data.List.Nodup
import Audiagentic.Foundations.Runs
import Audiagentic.Node.ReceiptEffects

/-!
# Runs of the receipt store

Any number of store instances, bound to any epochs, call the methods of one
receipt database in any order.  `Consistent` is what holds of the database in
every state such a run reaches: the outbox is numbered without gaps, every
command row repeats its last receipt, and the receipts of a command climb its
stages.
-/

namespace Audiagentic.Node

open Foundations Gateway List Script Option

/-! ## Calls -/

inductive ReceiptReply where
  | receipt (receipt : PublicReceipt)
  | intent (granted : Bool)
  | advanced
  | checkpoint (checkpoint : Checkpoint)

/-- A call by the instance that is bound to `scope`, on the storage as it is then. -/
structure IssuedCall where
  scope : OwnerScope
  storage : Storage
  call : ReceiptCall

variable (sha256 : List UInt8 → String) (hashing : Hashing)

def IssuedCall.statement (issued : IssuedCall) : Statement ReceiptReply :=
  match issued.call with
  | .prepare identity payload => do
    let receipt ← Node.prepare sha256 issued.scope issued.storage identity payload
    return .receipt receipt
  | .effectIntent identity request reply connectionGeneration => do
    let granted ← Node.effectIntent issued.scope issued.storage identity request reply
      connectionGeneration
    return .intent granted
  | .nativeAccepted identity nativeRef => do
    let receipt ← Node.nativeAccepted sha256 issued.scope issued.storage identity nativeRef
    return .receipt receipt
  | .terminal identity text => do
    let receipt ← Node.terminal sha256 issued.scope issued.storage identity text
    return .receipt receipt
  | .terminalFromWorkerResult identity proof => do
    let receipt ← Node.terminalFromWorkerResult sha256 issued.scope issued.storage identity proof
    return .receipt receipt
  | .advanceEpoch nodeEpoch gatewayOwnerEpoch => do
    Node.advanceEpoch issued.scope issued.storage nodeEpoch gatewayOwnerEpoch
    return .advanced
  | .acknowledge frame expectedServerId connection => do
    let checkpoint ← Node.acknowledge hashing issued.scope issued.storage frame expectedServerId
      connection
    return .checkpoint checkpoint

def receiptAnswer (db : Database) (issued : IssuedCall) :
    (IssuedCall × Except GatewayError ReceiptReply) × Database :=
  let outcome := (issued.statement sha256 hashing).run db
  ((issued, outcome.1), outcome.2)

def receiptStep (db : Database) (issued : IssuedCall) : Database :=
  (receiptAnswer sha256 hashing db issued).2

/-- `effect_intent` returned True for this command. -/
def grantsIntent (command : String) : IssuedCall × Except GatewayError ReceiptReply → Bool
  | (issued, result) =>
    match issued.call, result with
    | .effectIntent identity _ _ _, .ok (.intent true) => decide (identity.commandId = command)
    | _, _ => false

/-! ## What a call does -/

variable {sha256 hashing}

/-- The call, with nothing failing after `COMMIT`. -/
def IssuedCall.closed (issued : IssuedCall) : IssuedCall :=
  { issued with storage := issued.storage.closed }

/-- **What a call commits**, whether it returns or raises. -/
theorem IssuedCall.statement_commits (issued : IssuedCall) :
    (issued.statement sha256 hashing).CommitsAs (issued.closed.statement sha256 hashing) := by
  obtain ⟨scope, storage, call⟩ := issued
  cases call with
  | prepare | advanceEpoch =>
    exact commitsAs_bind_pure (commitsAs_check_bind fun _ =>
      commitsAs_check_bind fun _ => Storage.transaction_commits _)
  | effectIntent | nativeAccepted | acknowledge =>
    exact commitsAs_bind_pure (commitsAs_check_bind fun _ => Storage.transaction_commits _)
  | terminal | terminalFromWorkerResult =>
    exact commitsAs_bind_pure (Storage.transaction_commits _)

variable {db written : Database} {identity : CommandIdentity}

theorem effectIntent_effect {scope : OwnerScope} {storage : Storage} {request reply : Frame}
    {connectionGeneration : Nat} {granted : Bool}
    (success : (effectIntent scope storage identity request reply connectionGeneration).run db =
      (.ok granted, written)) :
    Effect hashing (.effectIntent identity request reply connectionGeneration) db
        written := by
  obtain ⟨_, _, authorizationId, row, authorized, found, same,
    ⟨_, kept⟩ | ⟨_, prepared, advanced⟩⟩ := effectIntent_ok success
  · rw [kept]
    exact .kept
  · rw [advanced]
    refine .advanced identity row _ .effectIntent none found same
      ⟨fun _ => rfl, fun _ => rfl, fun _ => rfl, fun _ => rfl, fun _ => rfl⟩ ?_
      (fun _ => ⟨request, reply, connectionGeneration, authorizationId, rfl, authorized⟩)
    rw [prepared]
    decide

variable {issued : IssuedCall}

/-- **Inversion.**  A call that returns is made by the current owner and has one of the
effects. -/
theorem IssuedCall.statement_ok {reply : ReceiptReply}
    (success : (issued.statement sha256 hashing).run db = (.ok reply, written)) :
    db.owner.scope = issued.scope ∧ Effect hashing issued.call db written := by
  obtain ⟨scope, storage, call⟩ := issued
  cases call with
  | prepare identity payload =>
    obtain ⟨_, called, _⟩ := bind_pure_eq_ok success
    exact prepare_ok called
  | effectIntent identity request reply connectionGeneration =>
    obtain ⟨_, called, _⟩ := bind_pure_eq_ok success
    exact ⟨(effectIntent_ok called).1, effectIntent_effect called⟩
  | nativeAccepted identity nativeRef =>
    obtain ⟨_, called, _⟩ := bind_pure_eq_ok success
    exact nativeAccepted_ok called
  | terminal identity text =>
    obtain ⟨_, called, _⟩ := bind_pure_eq_ok success
    exact terminal_ok called
  | terminalFromWorkerResult identity proof =>
    obtain ⟨_, called, _⟩ := bind_pure_eq_ok success
    exact terminalFromWorkerResult_ok called
  | advanceEpoch nodeEpoch gatewayOwnerEpoch =>
    obtain ⟨_, called, _⟩ := bind_pure_eq_ok success
    obtain ⟨current, handed⟩ := advanceEpoch_ok called
    rw [handed]
    exact ⟨current, .handedOver nodeEpoch gatewayOwnerEpoch rfl⟩
  | acknowledge frame expectedServerId connection =>
    obtain ⟨_, called, _⟩ := bind_pure_eq_ok success
    exact acknowledge_ok called

theorem receiptStep_effect (db : Database) (issued : IssuedCall) :
    Effect hashing issued.call db (receiptStep sha256 hashing db issued) := by
  rcases issued.statement_commits db with kept | ⟨reply, returned⟩
  · rw [show receiptStep sha256 hashing db issued = db from kept]
    exact .kept
  · exact (IssuedCall.statement_ok returned).2

theorem receiptStep_of_stale (stale : db.owner.scope ≠ issued.scope) :
    receiptStep sha256 hashing db issued = db := by
  rcases issued.statement_commits db with kept | ⟨reply, returned⟩
  · exact kept
  · exact absurd (IssuedCall.statement_ok returned).1 stale

/-- The call hands the store over to the epochs of this scope. -/
def ReceiptCall.handsOverTo (scope : OwnerScope) : ReceiptCall → Prop
  | .advanceEpoch nodeEpoch gatewayOwnerEpoch =>
    nodeEpoch = scope.nodeEpoch ∧ gatewayOwnerEpoch = scope.gatewayOwnerEpoch
  | _ => False

/-- A superseded scope becomes current again only when it is handed over to. -/
theorem receiptStep_stale {scope : OwnerScope} (stale : db.owner.scope ≠ scope)
    (away : ¬ issued.call.handsOverTo scope) :
    (receiptStep sha256 hashing db issued).owner.scope ≠ scope := by
  have effect := @receiptStep_effect sha256 hashing db issued
  generalize receiptStep sha256 hashing db issued = written at effect
  cases effect with
  | kept | prepared | advanced | acknowledged => exact stale
  | handedOver nodeEpoch gatewayOwnerEpoch hands =>
    rintro rfl
    rw [hands] at away
    exact away ⟨rfl, rfl⟩

theorem exec_stale {scope : OwnerScope} (stale : db.owner.scope ≠ scope) {calls : List IssuedCall}
    (away : ∀ issued ∈ calls, ¬ issued.call.handsOverTo scope) :
    (exec (receiptStep sha256 hashing) db calls).owner.scope ≠ scope := by
  induction calls generalizing db with
  | nil => exact stale
  | cons issued calls ih =>
    rw [forall_mem_cons] at away
    exact ih (receiptStep_stale stale away.1) away.2

/-- A call that raises has changed nothing, or has committed before the release failed. -/
theorem receiptStep_of_raised {error : GatewayError}
    (raised : (receiptAnswer sha256 hashing db issued).1.2 = .error error) :
    receiptStep sha256 hashing db issued = db ∨
      (∃ failure, issued.storage.released = .error failure) ∧
        ∃ reply, receiptAnswer sha256 hashing db issued.closed =
          ((issued.closed, .ok reply), receiptStep sha256 hashing db issued) := by
  rcases issued.statement_commits db with kept | ⟨reply, returned⟩
  · exact .inl kept
  refine .inr ⟨?_, reply, by rw [receiptAnswer, returned]; rfl⟩
  cases release : issued.storage.released with
  | error failure => exact ⟨failure, rfl⟩
  | ok =>
    have same : issued.closed = issued := by
      obtain ⟨scope, ⟨opened, committed, released, outputs⟩, call⟩ := issued
      cases release
      rfl
    rw [same] at returned
    cases raised.symm.trans (congrArg Prod.fst returned)

/-! ## Consistency -/

/-- What holds of the tables between two calls. -/
structure Consistent (db : Database) : Prop where
  numbered : db.outbox.map OutboxRow.sequence = List.range' 1 db.outbox.length
  counter : db.lastRowid = db.outbox.length
  keys : (db.commands.map CommandRow.command).Nodup
  owned : ∀ row ∈ db.commands, row.identity.commandId = row.command
  referenced : ∀ entry ∈ db.outbox, ∃ row ∈ db.commands, row.command = entry.command
  latest : ∀ row ∈ db.commands, (db.entries row.command).getLast? =
    some ⟨row.sequence, row.command, row.state, row.outputDigest⟩
  climbing : ∀ command, ((db.entries command).map fun entry => entry.state.rank).Pairwise (· < ·)

/-- The tables in the middle of a transaction, when `command` is about to reach `stage`:
consistent but for the row of the command itself. -/
structure Appendable (db : Database) (command : String) (stage : ReceiptStage) : Prop where
  numbered : db.outbox.map OutboxRow.sequence = List.range' 1 db.outbox.length
  counter : db.lastRowid = db.outbox.length
  keys : (db.commands.map CommandRow.command).Nodup
  owned : ∀ row ∈ db.commands, row.identity.commandId = row.command
  referenced : ∀ entry ∈ db.outbox, ∃ row ∈ db.commands, row.command = entry.command
  latest : ∀ row ∈ db.commands, row.command ≠ command → (db.entries row.command).getLast? =
    some ⟨row.sequence, row.command, row.state, row.outputDigest⟩
  climbing : ∀ command, ((db.entries command).map fun entry => entry.state.rank).Pairwise (· < ·)
  known : ∃ row ∈ db.commands, row.command = command
  next : ∀ entry ∈ db.entries command, entry.state.rank < stage.rank

variable {set : CommandRow → CommandRow} {row : CommandRow}

namespace Database

variable {db : Database} {command : String} {stage : ReceiptStage} {outputDigest : Option String}

theorem mem_of_command? (found : db.command? command = some row) :
    row ∈ db.commands ∧ row.command = command := by
  unfold command? at found
  have selected := find?_some found
  exact ⟨mem_of_find?_eq_some found, of_decide_eq_true selected⟩

theorem entries_append_self :
    (db.append command stage outputDigest).entries command =
      db.entries command ++ [⟨db.lastRowid + 1, command, stage, outputDigest⟩] := by
  simp [entries, append, insertOutbox, updateCommand, filter_append]

theorem entries_append_of_ne {other : String} (different : other ≠ command) :
    (db.append command stage outputDigest).entries other = db.entries other := by
  simp [entries, append, insertOutbox, updateCommand, filter_append, different.symm]

theorem command?_updateCommand {key : String} (keeps : ∀ row, (set row).command = row.command) :
    (db.updateCommand command set).command? key =
      (db.command? key).map fun row => if row.command = command then set row else row := by
  unfold command? updateCommand
  rw [find?_map]
  congr 2
  funext row
  by_cases addressed : row.command = command
  · simp [addressed, keeps]
  · simp [addressed]

theorem command?_append {key : String} :
    (db.append command stage outputDigest).command? key = (db.command? key).map fun row =>
      if row.command = command then
        { row with state := stage, sequence := db.lastRowid + 1, outputDigest }
      else row :=
  command?_updateCommand fun _ => rfl

theorem command?_insertCommand_of_ne {payload : List UInt8} {key : String}
    (different : key ≠ identity.commandId) :
    (db.insertCommand identity payload).command? key = db.command? key := by
  unfold command? insertCommand
  rw [find?_append]
  simp [different.symm]

theorem map_command_updateCommand (keeps : ∀ row, (set row).command = row.command) :
    (db.updateCommand command set).commands.map CommandRow.command =
      db.commands.map CommandRow.command := by
  unfold updateCommand
  rw [List.map_map]
  refine map_congr_left ?_
  intro row _
  by_cases addressed : row.command = command
  · simp [addressed, keeps]
  · simp [addressed]

theorem mem_updateCommand {updated : CommandRow}
    (member : updated ∈ (db.updateCommand command set).commands) :
    ∃ row ∈ db.commands, (row.command = command ∧ updated = set row) ∨
      (row.command ≠ command ∧ updated = row) := by
  obtain ⟨row, present, rfl⟩ := List.mem_map.mp member
  refine ⟨row, present, ?_⟩
  by_cases addressed : row.command = command
  · exact .inl ⟨addressed, if_pos addressed⟩
  · exact .inr ⟨addressed, if_neg addressed⟩

theorem known_updateCommand {key : String} (keeps : ∀ row, (set row).command = row.command)
    (known : ∃ row ∈ db.commands, row.command = key) :
    ∃ row ∈ (db.updateCommand command set).commands, row.command = key := by
  have keys : key ∈ (db.updateCommand command set).commands.map CommandRow.command := by
    rw [map_command_updateCommand keeps]
    exact List.mem_map.mpr known
  exact List.mem_map.mp keys

end Database

variable {command : String} {stage : ReceiptStage}

/-- **The append rule.**  An append that advances the command restores consistency. -/
theorem Appendable.consistent (ready : Appendable db command stage) (outputDigest : Option String) :
    Consistent (db.append command stage outputDigest) where
  numbered := by
    change (db.outbox ++ [_]).map OutboxRow.sequence = List.range' 1 (db.outbox ++ [_]).length
    rw [map_append, ready.numbered, length_append, length_singleton, range'_1_concat, ready.counter]
    simp [Nat.add_comm]
  counter := by
    change db.lastRowid + 1 = (db.outbox ++ [_]).length
    rw [length_append, length_singleton, ready.counter]
  keys := by
    unfold Database.append
    rw [Database.map_command_updateCommand]
    · exact ready.keys
    · exact fun _ => rfl
  owned := by
    intro updated member
    obtain ⟨row, present, ⟨_, rfl⟩ | ⟨_, rfl⟩⟩ := Database.mem_updateCommand member
    · exact ready.owned row present
    · exact ready.owned _ present
  referenced := by
    intro entry member
    exact Database.known_updateCommand (fun _ => rfl)
      (forall_mem_snoc ready.referenced ready.known entry member)
  latest := by
    intro updated member
    obtain ⟨row, present, ⟨rfl, rfl⟩ | ⟨other, rfl⟩⟩ := Database.mem_updateCommand member
    · change ((db.append row.command stage outputDigest).entries row.command).getLast? = _
      rw [Database.entries_append_self, getLast?_concat]
    · rw [Database.entries_append_of_ne other]
      exact ready.latest _ present other
  climbing := by
    intro other
    by_cases same : other = command
    · subst same
      rw [Database.entries_append_self, map_append, pairwise_append]
      refine ⟨ready.climbing other, pairwise_singleton _ _, ?_⟩
      intro rank member last lastMember
      obtain ⟨entry, present, rfl⟩ := List.mem_map.mp member
      rw [mem_singleton.mp lastMember]
      exact ready.next entry present
    · rw [Database.entries_append_of_ne same]
      exact ready.climbing other

namespace Consistent

variable {db : Database} (consistent : Consistent db)
include consistent

theorem rank_le_of_mem (present : row ∈ db.commands) {entry : OutboxRow}
    (member : entry ∈ db.entries row.command) : entry.state.rank ≤ row.state.rank := by
  obtain ⟨before, split⟩ := getLast?_eq_some_iff.mp (consistent.latest row present)
  have climbing := consistent.climbing row.command
  rw [split] at member climbing
  rw [map_append, pairwise_append] at climbing
  rcases mem_append.mp member with earlier | last
  · exact Nat.le_of_lt (climbing.2.2 _ (List.mem_map_of_mem earlier) _ (mem_singleton_self _))
  · exact Nat.le_of_eq (by rw [mem_singleton.mp last])

theorem command?_of_mem (present : row ∈ db.commands) : db.command? row.command = some row := by
  cases lookup : db.command? row.command with
  | none =>
    have absent := find?_eq_none.mp lookup row present
    exact absurd (decide_eq_true rfl) absent
  | some other =>
    obtain ⟨stored, same⟩ := Database.mem_of_command? lookup
    rw [inj_on_of_nodup_map consistent.keys stored present same]

theorem appendable_inserted (payload : List UInt8) (fresh : db.command? identity.commandId = none) :
    Appendable (db.insertCommand identity payload) identity.commandId .prepared := by
  have unknown : ∀ row ∈ db.commands, row.command ≠ identity.commandId := by
    intro row present same
    have found := find?_eq_none.mp fresh row present
    exact found (decide_eq_true same)
  refine ⟨consistent.numbered, consistent.counter, ?_, ?_, ?_, ?_, consistent.climbing, ?_, ?_⟩
  · change ((db.commands ++ [_]).map CommandRow.command).Nodup
    exact nodup_map_snoc consistent.keys unknown
  · exact forall_mem_snoc consistent.owned rfl
  · intro entry member
    obtain ⟨row, present, same⟩ := consistent.referenced entry member
    exact ⟨row, mem_append_left _ present, same⟩
  · exact forall_mem_snoc (fun row old _ => consistent.latest row old) (absurd rfl)
  · exact ⟨_, mem_append_right _ (mem_singleton_self _), rfl⟩
  · intro entry member
    obtain ⟨stored, addressed⟩ := mem_filter.mp member
    obtain ⟨row, present, same⟩ := consistent.referenced entry stored
    exact absurd (same.trans (of_decide_eq_true addressed)) (unknown row present)

theorem appendable_marked (found : db.command? identity.commandId = some row) (marks : Marks set)
    (later : row.state.rank < stage.rank) :
    Appendable (db.updateCommand identity.commandId set) identity.commandId stage := by
  obtain ⟨present, addressed⟩ := Database.mem_of_command? found
  have known : ∃ row ∈ db.commands, row.command = identity.commandId := ⟨row, present, addressed⟩
  refine ⟨consistent.numbered, consistent.counter, ?_, ?_, ?_, ?_, consistent.climbing,
    Database.known_updateCommand marks.command known, ?_⟩
  · rw [Database.map_command_updateCommand marks.command]
    exact consistent.keys
  · intro updated member
    obtain ⟨before, stored, ⟨_, rfl⟩ | ⟨_, rfl⟩⟩ := Database.mem_updateCommand member
    · rw [marks.identity, marks.command]
      exact consistent.owned before stored
    · exact consistent.owned _ stored
  · intro entry member
    exact Database.known_updateCommand marks.command (consistent.referenced entry member)
  · intro updated member different
    obtain ⟨before, stored, ⟨same, rfl⟩ | ⟨_, rfl⟩⟩ := Database.mem_updateCommand member
    · exact absurd ((marks.command before).trans same) different
    · exact consistent.latest _ stored
  · intro entry member
    have reached : entry.state.rank ≤ row.state.rank :=
      consistent.rank_le_of_mem present (by rw [addressed]; exact member)
    exact Nat.lt_of_le_of_lt reached later

/-- **Every effect keeps the tables consistent.** -/
theorem of_effect {call : ReceiptCall} (effect : Effect hashing call db written) :
    Consistent written := by
  cases effect with
  | kept => exact consistent
  | prepared identity payload fresh =>
    exact (consistent.appendable_inserted payload fresh).consistent none
  | advanced identity row set stage outputDigest found _ marks later _ =>
    exact (consistent.appendable_marked found marks later).consistent outputDigest
  | handedOver | acknowledged =>
    exact ⟨consistent.numbered, consistent.counter, consistent.keys, consistent.owned,
      consistent.referenced, consistent.latest, consistent.climbing⟩

end Consistent

theorem initial_consistent (scope : OwnerScope) (logIncarnationId : String) :
    Consistent (Database.initial scope logIncarnationId) := by
  constructor <;> simp [Database.initial, Database.entries]

theorem exec_consistent {start : Database} (initially : Consistent start)
    (calls : List IssuedCall) :
    Consistent (exec (receiptStep sha256 hashing) start calls) :=
  exec_invariant
    (fun state issued (holds : Consistent state) => holds.of_effect
      (receiptStep_effect state issued))
    initially calls

/-! ## At most one intent -/

def Spent (command : String) (db : Database) : Prop :=
  ∃ row, db.command? command = some row ∧ row.state ≠ .prepared

theorem ne_prepared_of_rank_lt {earlier : ReceiptStage} (later : earlier.rank < stage.rank) :
    stage ≠ .prepared := by
  intro prepared
  rw [prepared] at later
  exact Nat.not_lt_zero _ later

theorem spent_advanced (outputDigest : Option String) (found : db.command? command = some row)
    (marks : Marks set) (later : row.state.rank < stage.rank) :
    Spent command ((db.updateCommand command set).append command stage outputDigest) := by
  obtain ⟨_, addressed⟩ := Database.mem_of_command? found
  unfold Spent
  rw [Database.command?_append, Database.command?_updateCommand marks.command, found]
  simp only [map_some, Option.some.injEq, exists_eq_left', marks.command, addressed, if_true]
  exact ne_prepared_of_rank_lt later

theorem Spent.of_effect {call : ReceiptCall} (spent : Spent command db)
    (effect : Effect hashing call db written) : Spent command written := by
  obtain ⟨row, found, left⟩ := spent
  cases effect with
  | kept | handedOver | acknowledged => exact ⟨row, found, left⟩
  | prepared identity payload fresh =>
    have different : command ≠ identity.commandId := by
      intro same
      rw [← same, found] at fresh
      cases fresh
    have other : row.command ≠ identity.commandId := by
      rw [(Database.mem_of_command? found).2]
      exact different
    refine ⟨row, ?_, left⟩
    rw [Database.command?_append, Database.command?_insertCommand_of_ne different, found,
      map_some, if_neg other]
  | advanced identity target set stage outputDigest targetFound _ marks later _ =>
    by_cases same : command = identity.commandId
    · subst same
      exact spent_advanced outputDigest targetFound marks later
    have other : row.command ≠ identity.commandId := by
      rw [(Database.mem_of_command? found).2]
      exact same
    refine ⟨row, ?_, left⟩
    rw [Database.command?_append, Database.command?_updateCommand marks.command, found,
      map_some, map_some, if_neg other, if_neg other]

/-- A granted intent is a call of `effect_intent` on a command that was only prepared. -/
theorem grantsIntent_inv
    (granted : grantsIntent command (receiptAnswer sha256 hashing db issued).1 = true) :
    ∃ identity request reply connectionGeneration,
      issued.call = .effectIntent identity request reply connectionGeneration ∧
      identity.commandId = command ∧
      (effectIntent issued.scope issued.storage identity request reply connectionGeneration).run
        db = (.ok true, receiptStep sha256 hashing db issued) := by
  unfold grantsIntent receiptAnswer at granted
  simp only at granted
  split at granted
  next identity request reply connectionGeneration called returned =>
    refine ⟨identity, request, reply, connectionGeneration, called, of_decide_eq_true granted, ?_⟩
    unfold receiptStep receiptAnswer
    have success : (issued.statement sha256 hashing).run db =
        (.ok (.intent true), ((issued.statement sha256 hashing).run db).2) :=
      Prod.ext returned rfl
    obtain ⟨scope, storage, call⟩ := issued
    cases called
    obtain ⟨value, body, same⟩ := bind_pure_eq_ok success
    cases same
    rw [success]
    exact body
  next => cases granted

theorem grantsIntent_of_ok {request reply : Frame} {connectionGeneration : Nat}
    (called : issued.call = .effectIntent identity request reply connectionGeneration)
    (granted : (receiptAnswer sha256 hashing db issued).1.2 = .ok (.intent true)) :
    grantsIntent identity.commandId (receiptAnswer sha256 hashing db issued).1 = true := by
  change grantsIntent identity.commandId (issued, (receiptAnswer sha256 hashing db issued).1.2) =
    true
  rw [granted]
  simp [grantsIntent, called]

theorem grantsIntent_authorized {request reply : Frame} {connectionGeneration : Nat}
    (granted : grantsIntent command (receiptAnswer sha256 hashing db issued).1 = true)
    (called : issued.call = .effectIntent identity request reply connectionGeneration) :
    ∃ authorizationId, validateEffectAuthorization identity request reply connectionGeneration =
      .ok authorizationId := by
  obtain ⟨_, _, _, _, called', _, body⟩ := grantsIntent_inv granted
  cases called.symm.trans called'
  obtain ⟨_, _, authorizationId, _, authorized, _⟩ := effectIntent_ok body
  exact ⟨authorizationId, authorized⟩

theorem grantsIntent_fresh
    (granted : grantsIntent command (receiptAnswer sha256 hashing db issued).1 = true) :
    ¬ Spent command db := by
  rintro ⟨row, found, left⟩
  obtain ⟨identity, _, _, _, _, rfl, body⟩ := grantsIntent_inv granted
  obtain ⟨_, _, _, other, _, otherFound, _, ⟨impossible, _⟩ | ⟨_, prepared, _⟩⟩ :=
    effectIntent_ok body
  · cases impossible
  · rw [found] at otherFound
    cases otherFound
    exact left prepared

theorem grantsIntent_spends
    (granted : grantsIntent command (receiptAnswer sha256 hashing db issued).1 = true) :
    Spent command (receiptStep sha256 hashing db issued) := by
  obtain ⟨identity, _, _, _, _, rfl, body⟩ := grantsIntent_inv granted
  obtain ⟨_, _, _, row, _, found, _, ⟨impossible, _⟩ | ⟨_, prepared, written⟩⟩ :=
    effectIntent_ok body
  · cases impossible
  · rw [written]
    refine spent_advanced none found
      ⟨fun _ => rfl, fun _ => rfl, fun _ => rfl, fun _ => rfl, fun _ => rfl⟩ ?_
    rw [prepared]
    decide

/-- **An effect intent is granted at most once for a command**, in any run from any database. -/
theorem grantsIntent_countP_le_one (command : String) (start : Database)
    (calls : List IssuedCall) :
    (answers (receiptAnswer sha256 hashing) start calls).countP (grantsIntent command) ≤ 1 := by
  have fresh : ∀ db issued,
      grantsIntent command (receiptAnswer sha256 hashing db issued).1 = true →
        ¬ Spent command db := fun _ _ => grantsIntent_fresh
  have spends : ∀ db issued,
      grantsIntent command (receiptAnswer sha256 hashing db issued).1 = true →
        Spent command (receiptAnswer sha256 hashing db issued).2 := fun _ _ => grantsIntent_spends
  have stays : ∀ db issued, Spent command db →
      Spent command (receiptAnswer sha256 hashing db issued).2 :=
    fun db issued spent => spent.of_effect (receiptStep_effect db issued)
  exact answers_countP_le_one fresh spends stays start calls

/-! ## The store over whole runs -/

theorem Consistent.nothing_after_terminal (consistent : Consistent db)
    {before after : List OutboxRow} {entry : OutboxRow}
    (split : db.entries command = before ++ entry :: after) (terminal : entry.state = .terminal) :
    after = [] := by
  have climbing := consistent.climbing command
  rw [split, map_append, pairwise_append, map_cons, pairwise_cons] at climbing
  cases after with
  | nil => rfl
  | cons next rest =>
    have beyond := climbing.2.1.1 next.state.rank mem_cons_self
    rw [terminal] at beyond
    cases state : next.state <;> rw [state] at beyond <;> exact absurd beyond (by decide)

/-- **The receipt store over whole runs.**  From a new store, whatever instances call whatever
methods: the outbox is numbered `1 … n`, every command row repeats its last receipt, the
receipts of a command climb the stages and end with a terminal one, an intent is granted at
most once for a command.  An instance that is superseded changes nothing as long as the store is not
handed over to its epochs again, and a call that raises changes nothing unless it had committed when
the release of the connection or of the lock failed. -/
theorem receipt_store_runs (sha256 : List UInt8 → String) (hashing : Hashing) (scope : OwnerScope)
    (logIncarnationId : String) (calls : List IssuedCall) :
    let start := Database.initial scope logIncarnationId
    let db := exec (receiptStep sha256 hashing) start calls
    (∀ command, (answers (receiptAnswer sha256 hashing) start calls).countP
        (grantsIntent command) ≤ 1) ∧
      db.outbox.map OutboxRow.sequence = List.range' 1 db.outbox.length ∧
      (∀ row ∈ db.commands, (db.entries row.command).getLast? =
        some ⟨row.sequence, row.command, row.state, row.outputDigest⟩) ∧
      (∀ command,
        ((db.entries command).map fun entry => entry.state.rank).Pairwise (· < ·)) ∧
      (∀ command before entry after, db.entries command = before ++ entry :: after →
        entry.state = .terminal → after = []) ∧
      (∀ issued later, db.owner.scope ≠ issued.scope →
        (∀ other ∈ later, ¬ other.call.handsOverTo issued.scope) →
        let after := exec (receiptStep sha256 hashing) db later
        receiptStep sha256 hashing after issued = after) ∧
      (∀ issued error, (receiptAnswer sha256 hashing db issued).1.2 = .error error →
        receiptStep sha256 hashing db issued = db ∨
          (∃ failure, issued.storage.released = .error failure) ∧
            ∃ reply, receiptAnswer sha256 hashing db issued.closed =
              ((issued.closed, .ok reply), receiptStep sha256 hashing db issued)) := by
  intro start db
  have consistent : Consistent db := exec_consistent (initial_consistent scope logIncarnationId)
    calls
  refine ⟨fun command => grantsIntent_countP_le_one command start calls, consistent.numbered,
    consistent.latest, consistent.climbing, ?_, ?_, fun _ _ => receiptStep_of_raised⟩
  · intro command before entry after split terminal
    exact consistent.nothing_after_terminal split terminal
  · intro issued later stale away
    exact receiptStep_of_stale (exec_stale stale away)

/-! ## A release that fails, and epochs that return -/

/-- The outputs of a node that has none. -/
def noOutputs : OutputDirectory where
  usable := .ok ⟨⟩
  contains _ := false
  bytes _ := .error persistenceFailed
  written := .ok ⟨⟩

/-- The instance of epoch `nodeEpoch` hands the store over to another epoch of the node. -/
def handsOver (nodeEpoch next : String) (released : Except GatewayError Unit) : IssuedCall where
  scope := ⟨"n", nodeEpoch, "g"⟩
  storage := {
    opened := .ok ⟨⟩
    committed := .ok ⟨⟩
    released := released
    outputs := noOutputs }
  call := .advanceEpoch next "g"

/-- The first call raises and the owner row is changed; and after the epochs have come back, the
instance that was superseded hands the store over once more. -/
theorem raised_call_commits :
    let sha256 := fun _ : List UInt8 => emptyDigest
    let start := Database.initial ⟨"n", "e1", "g"⟩ "log"
    let raises := handsOver "e1" "e2" (.error persistenceFailed)
    let returned := exec (receiptStep sha256 .constant) start
      [handsOver "e1" "e2" (.ok ⟨⟩), handsOver "e2" "e1" (.ok ⟨⟩)]
    ((∃ error, (receiptAnswer sha256 .constant start raises).1.2 = .error error) ∧
        receiptStep sha256 .constant start raises ≠ start) ∧
      receiptStep sha256 .constant returned (handsOver "e1" "e3" (.ok ⟨⟩)) ≠ returned := by
  intro sha256 start raises returned
  have epochs : (receiptStep sha256 .constant start raises).owner.scope.nodeEpoch = "e2" ∧
      returned.owner.scope.nodeEpoch = "e1" ∧ (receiptStep sha256 .constant returned
        (handsOver "e1" "e3" (.ok ⟨⟩))).owner.scope.nodeEpoch = "e3" := by
    decide +kernel
  obtain ⟨committed, back, again⟩ := epochs
  refine ⟨⟨⟨persistenceFailed, rfl⟩, fun kept => ?_⟩, fun kept => ?_⟩
  · rw [kept] at committed
    exact absurd committed (by decide)
  · rw [kept, back] at again
    exact absurd again (by decide)

end Audiagentic.Node
