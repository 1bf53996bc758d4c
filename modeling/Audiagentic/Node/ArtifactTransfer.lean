import Audiagentic.Node.ArtifactChunks
import Audiagentic.Node.Checkpoints

/-!
# Fetching an artifact

`_fetch_bytes` asks for one chunk after another until it has a whole artifact.  What the other side
answers is a parameter: a turn may be answered by any chunk at all, or the exchange may fail.

Whatever the answers, the loop ends, and what it returns has the requested digest.  When the node
answers from a stored worker result, the loop returns that result after as many requests as the
result has chunks.
-/

namespace Audiagentic.Node

open Foundations Gateway List

/-! ## The reconciler -/

/-- The bounds of a `NodeTerminalReconciler`. -/
structure TerminalReconciler where
  maxBytes : Nat
  chunkBytes : Nat
  readBudget : Nat

def defaultReadBudget (maxArtifactBytes chunkBytes : Nat) : Nat :=
  maxArtifactBytes * ((maxArtifactBytes + chunkBytes - 1) / chunkBytes)

/-- `NodeTerminalReconciler.__init__`, as far as the bounds go. -/
def TerminalReconciler.init (maxArtifactBytes chunkBytes : Nat)
    (maxReadBudgetBytes : Option Nat) : Except GatewayError TerminalReconciler := do
  refuse (isContractInteger maxArtifactBytes = false) invalidInteger
  refuse (isContractInteger chunkBytes = false) invalidInteger
  refuse (maxChunkBytes < chunkBytes) (invalid "Artifact chunk bound exceeds the wire contract")
  let readBudget := maxReadBudgetBytes.getD (defaultReadBudget maxArtifactBytes chunkBytes)
  refuse (isContractInteger readBudget = false) invalidInteger
  refuse (readBudget < maxArtifactBytes)
    (invalid "Artifact read budget must cover the first trusted full-file bound")
  return ⟨maxArtifactBytes, chunkBytes, readBudget⟩

theorem TerminalReconciler.init_ok {maxArtifactBytes chunkBytes : Nat}
    {reconciler : TerminalReconciler}
    (configured : init maxArtifactBytes chunkBytes none = .ok reconciler) :
    isContractInteger maxArtifactBytes = true ∧ 1 ≤ chunkBytes ∧ chunkBytes ≤ maxChunkBytes ∧
      reconciler = ⟨maxArtifactBytes, chunkBytes,
        defaultReadBudget maxArtifactBytes chunkBytes⟩ := by
  simp only [init, refuse_bind_eq_ok, Bool.not_eq_false, Nat.not_lt] at configured
  obtain ⟨bounded, chunk, limited, _, _, same⟩ := configured
  cases same
  exact ⟨bounded, (isContractInteger_iff.mp chunk).1, limited, rfl⟩

/-! ## The loop -/

/-- The payload of an `artifact-get` request. -/
structure ArtifactGet where
  identity : CommandIdentity
  artifactSha256 : String
  offset : Nat
  limit : Nat

/-- What `request_work` returns; the reply may be of another type. -/
structure Exchange where
  sentMessageId : String
  frameMessageId : String
  reply : Option ArtifactChunk

/-- How each turn of the loop is answered: the check of the channel, the deadline and the exchange
may raise. -/
abbrev Peer := Nat → ArtifactGet → Except GatewayError Exchange

structure Transfer where
  data : List UInt8
  total : Option Int
  charged : Int

def Transfer.start : Transfer := ⟨[], none, 0⟩

inductive FetchStep where
  | done (raw : List UInt8)
  | more (transfer : Transfer)

section Fetch

variable (sha256 : List UInt8 → String) (reconciler : TerminalReconciler)
  (identity : CommandIdentity) (digest : String) (peer : Peer)

/-- The reply does not continue the transfer. -/
def replyMismatch (transfer : Transfer) (exchange : Exchange) (reply : ArtifactChunk) : Prop :=
  reply.inReplyTo ≠ exchange.sentMessageId ∨ reply.messageId ≠ exchange.frameMessageId ∨
    reply.identity ≠ identity ∨ reply.artifactSha256 ≠ digest ∨
    reply.offset ≠ transfer.data.length ∨
    ¬ (0 ≤ reply.totalBytes ∧ reply.totalBytes ≤ reconciler.maxBytes) ∨
    reconciler.chunkBytes < reply.data.length ∨
    (∃ total ∈ transfer.total, reply.totalBytes ≠ total) ∨
    (0 < reply.totalBytes ∧ reply.data = []) ∨
    reply.totalBytes < (transfer.data.length + reply.data.length : Nat) ∨
    reply.eof ≠ decide (((transfer.data.length + reply.data.length : Nat) : Int) = reply.totalBytes)

instance (transfer : Transfer) (exchange : Exchange) (reply : ArtifactChunk) :
    Decidable (replyMismatch reconciler identity digest transfer exchange reply) := by
  unfold replyMismatch
  infer_instance

def budgetExhausted : GatewayError :=
  conflictBecause "artifact-read-budget-exhausted" "Artifact read budget exhausted"

def transferMismatch (message : String) : GatewayError :=
  conflictBecause "artifact-transfer-mismatch" message

def kindUnsupported : GatewayError :=
  conflictBecause "artifact-kind-unsupported" "Artifact kind cannot establish worker output"

/-- One turn of the loop of `_fetch_bytes`. -/
def fetchTurn (turn : Nat) (transfer : Transfer) : Except GatewayError FetchStep := do
  refuse ((reconciler.readBudget : Int) <
    transfer.charged + transfer.total.getD reconciler.maxBytes) budgetExhausted
  let exchange ← peer turn ⟨identity, digest, transfer.data.length, reconciler.chunkBytes⟩
  match exchange.reply with
  | none => .error (transferMismatch "Artifact transfer metadata changed")
  | some reply => do
    refuse (replyMismatch reconciler identity digest transfer exchange reply)
      (transferMismatch "Artifact transfer metadata changed")
    refuse (reply.artifactKind ≠ some .workerTerminalResult) kindUnsupported
    -- The other side reads and hashes the whole artifact for every chunk.
    let charged := transfer.charged + reply.totalBytes
    refuse ((reconciler.readBudget : Int) < charged) budgetExhausted
    let data := transfer.data ++ reply.data
    if reply.eof = true then do
      refuse (sha256 data ≠ digest) (transferMismatch "Artifact bytes differ from custody")
      return .done data
    else return .more ⟨data, some reply.totalBytes, charged⟩

/-- The loop of `_fetch_bytes`, with the number of turns it took; nothing while it is running. -/
def fetchBytes : Nat → Nat → Transfer → Option (Nat × Except GatewayError (List UInt8))
  | 0, _, _ => none
  | fuel + 1, turn, transfer =>
    match fetchTurn sha256 reconciler identity digest peer turn transfer with
    | .error error => some (turn + 1, .error error)
    | .ok (.done raw) => some (turn + 1, .ok raw)
    | .ok (.more next) => fetchBytes fuel (turn + 1) next

end Fetch

/-! ## Any answers -/

section Any

variable {sha256 : List UInt8 → String} {reconciler : TerminalReconciler}
  {identity : CommandIdentity} {digest : String} {peer : Peer}

/-- **What a turn that did not raise has checked**, and how it ends. -/
theorem fetchTurn_eq_ok {turn : Nat} {transfer : Transfer} {step : FetchStep} :
    fetchTurn sha256 reconciler identity digest peer turn transfer = .ok step ↔
      ¬ ((reconciler.readBudget : Int) <
        transfer.charged + transfer.total.getD reconciler.maxBytes) ∧
      ∃ exchange reply, peer turn ⟨identity, digest, transfer.data.length,
          reconciler.chunkBytes⟩ = .ok exchange ∧ exchange.reply = some reply ∧
        ¬ replyMismatch reconciler identity digest transfer exchange reply ∧
        reply.artifactKind = some .workerTerminalResult ∧
        ¬ ((reconciler.readBudget : Int) < transfer.charged + reply.totalBytes) ∧
        (reply.eof = true ∧ sha256 (transfer.data ++ reply.data) = digest ∧
            step = .done (transfer.data ++ reply.data) ∨
          reply.eof = false ∧ step = .more ⟨transfer.data ++ reply.data, some reply.totalBytes,
            transfer.charged + reply.totalBytes⟩) := by
  rw [fetchTurn, refuse_bind_eq_ok, bind_eq_ok]
  refine and_congr_right fun _ => exists_congr fun exchange => ?_
  cases replied : exchange.reply with
  | none =>
    constructor
    · rintro ⟨_, ⟨⟩⟩
    · rintro ⟨_, _, ⟨⟩, _⟩
  | some reply =>
    simp only [refuse_bind_eq_ok, not_not]
    cases ended : reply.eof with
    | true =>
      simp only [if_true, refuse_bind_eq_ok, not_not]
      constructor
      · rintro ⟨answered, fits, kind, budget, verified, same⟩
        cases same
        exact ⟨reply, answered, rfl, fits, kind, budget, .inl ⟨ended, verified, rfl⟩⟩
      rintro ⟨_, answered, ⟨⟩, fits, kind, budget, ⟨_, verified, rfl⟩ | ⟨unended, _⟩⟩
      · exact ⟨answered, fits, kind, budget, verified, rfl⟩
      · rw [ended] at unended
        cases unended
    | false =>
      constructor
      · rintro ⟨answered, fits, kind, budget, same⟩
        cases same
        exact ⟨reply, answered, rfl, fits, kind, budget, .inr ⟨ended, rfl⟩⟩
      rintro ⟨_, answered, ⟨⟩, fits, kind, budget, ⟨finished, _⟩ | ⟨_, rfl⟩⟩
      · rw [ended] at finished
        cases finished
      · exact ⟨answered, fits, kind, budget, rfl⟩

theorem fetchTurn_done {turn : Nat} {transfer : Transfer} {raw : List UInt8}
    (finished : fetchTurn sha256 reconciler identity digest peer turn transfer =
      .ok (.done raw)) : sha256 raw = digest := by
  obtain ⟨_, _, _, _, _, _, _, _, ⟨_, verified, same⟩ | ⟨_, impossible⟩⟩ :=
    fetchTurn_eq_ok.mp finished
  · cases same
    exact verified
  · cases impossible

/-- A transfer that has not reached this total, which the bound allows. -/
structure Underway (reconciler : TerminalReconciler) (transfer : Transfer) (total : Nat) :
    Prop where
  known : transfer.total = some (total : Int)
  unfinished : transfer.data.length < total
  bounded : total ≤ reconciler.maxBytes

/-- **A turn that goes on made progress**, towards a total that does not change. -/
theorem fetchTurn_more {turn : Nat} {transfer next : Transfer}
    (more : fetchTurn sha256 reconciler identity digest peer turn transfer = .ok (.more next)) :
    transfer.data.length < next.data.length ∧ ∃ total, Underway reconciler next total ∧
      ∀ known ∈ transfer.total, known = (total : Int) := by
  obtain ⟨_, exchange, reply, _, _, fits, _, _, ⟨_, _, impossible⟩ | ⟨unended, same⟩⟩ :=
    fetchTurn_eq_ok.mp more
  · cases impossible
  · cases same
    simp only [replyMismatch, not_or] at fits
    obtain ⟨_, _, _, _, _, inBounds, _, unchanged, progress, within, ending⟩ := fits
    obtain ⟨nonnegative, bounded⟩ := not_not.mp inBounds
    obtain ⟨total, same⟩ := Int.eq_ofNat_of_zero_le nonnegative
    have ending := not_not.mp ending
    have short : ¬ ((transfer.data.length + reply.data.length : Nat) : Int) = reply.totalBytes := by
      rw [ending] at unended
      exact of_decide_eq_false unended
    have growing : 0 < reply.data.length :=
      length_pos_iff.mpr fun none => progress ⟨by omega, none⟩
    simp only [length_append]
    refine ⟨by omega, total, ⟨congrArg some same, ?_, by omega⟩, ?_⟩
    · simp only [length_append]
      omega
    · intro known there
      rw [← same]
      exact (not_not.mp fun different => unchanged ⟨known, there, different⟩).symm

theorem fetchBytes_underway {fuel : Nat} :
    ∀ {turn : Nat} {transfer : Transfer} {total : Nat}, Underway reconciler transfer total →
      total - transfer.data.length ≤ fuel →
      ∃ turns outcome, fetchBytes sha256 reconciler identity digest peer fuel turn transfer =
          some (turns, outcome) ∧ turns ≤ turn + (total - transfer.data.length) ∧
        ∀ raw, outcome = .ok raw → sha256 raw = digest := by
  induction fuel with
  | zero =>
    intro turn transfer total underway enough
    have unfinished := underway.unfinished
    omega
  | succ fuel ih =>
    intro turn transfer total underway enough
    have unfinished := underway.unfinished
    rw [fetchBytes]
    cases ended : fetchTurn sha256 reconciler identity digest peer turn transfer with
    | error error => exact ⟨turn + 1, .error error, rfl, by omega, fun _ => nofun⟩
    | ok step =>
      cases step with
      | done raw =>
        refine ⟨turn + 1, .ok raw, rfl, by omega, ?_⟩
        rintro _ ⟨⟩
        exact fetchTurn_done ended
      | more next =>
        obtain ⟨growing, newTotal, later, unchanged⟩ := fetchTurn_more ended
        have same := unchanged total underway.known
        have sameTotal : total = newTotal := by exact_mod_cast same
        subst sameTotal
        obtain ⟨turns, outcome, returned, bounded, verified⟩ :=
          @ih (turn + 1) next total later (by omega)
        exact ⟨turns, outcome, returned, by omega, verified⟩

/-- **Whatever is answered, the loop ends**, after at most as many turns as the bound has bytes, and
what it returns has the requested digest. -/
theorem fetchBytes_ends {fuel : Nat} (enough : max 1 reconciler.maxBytes ≤ fuel) :
    ∃ turns outcome, fetchBytes sha256 reconciler identity digest peer fuel 0 Transfer.start =
        some (turns, outcome) ∧ turns ≤ max 1 reconciler.maxBytes ∧
      ∀ raw, outcome = .ok raw → sha256 raw = digest := by
  obtain ⟨fuel, rfl⟩ := Nat.exists_eq_add_of_le' (le_of_max_le_left enough)
  rw [fetchBytes]
  cases ended : fetchTurn sha256 reconciler identity digest peer 0 Transfer.start with
  | error error => exact ⟨1, .error error, rfl, by omega, fun _ => nofun⟩
  | ok step =>
    cases step with
    | done raw =>
      refine ⟨1, .ok raw, rfl, by omega, ?_⟩
      rintro _ ⟨⟩
      exact fetchTurn_done ended
    | more next =>
      obtain ⟨growing, total, underway, _⟩ := fetchTurn_more ended
      have bounded := underway.bounded
      have unfinished := underway.unfinished
      obtain ⟨turns, outcome, returned, few, verified⟩ :=
        @fetchBytes_underway sha256 reconciler identity digest peer fuel 1 next total underway
          (by omega)
      exact ⟨turns, outcome, returned, by omega, verified⟩

end Any

/-! ## The answers of a node -/

/-- A node that answers every request from its store.  Each call may find the storage and the
database in another state. -/
structure AnsweringNode where
  nodeId : String
  /-- The bound of both sides. -/
  maxBytes : Nat
  storage : Nat → Storage
  db : Nat → Database
  requestId : Nat → String
  replyId : Nat → String

/-- The answer: `read_artifact_chunk` at the node, `_parse_artifact_chunk` at the gateway. -/
def AnsweringNode.peer (node : AnsweringNode) (sha256 : List UInt8 → String) : Peer :=
  fun turn request => do
    let chunk ← ((readArtifactChunk sha256 (some (node.storage turn)) request.identity
      request.artifactSha256 request.offset request.limit node.maxBytes).run (node.db turn)).1
    let reply ← parseArtifactChunk node.nodeId node.maxBytes (node.replyId turn)
      (chunk.payload (node.requestId turn) request.identity)
    return ⟨node.requestId turn, node.replyId turn, some reply⟩

structure Serves (sha256 : List UInt8 → String) (node : AnsweringNode) (identity : CommandIdentity)
    (digest : String) (kind : Option ArtifactKind) (raw : List UInt8) : Prop where
  holds : ∀ turn, HoldsArtifact sha256 (node.storage turn) (node.db turn) identity digest kind raw
  identifier : ∀ turn, isIdentifier (node.requestId turn) = true
  valid : identity.wellFormed = true
  sameNode : identity.nodeId = node.nodeId

def servedChunk (node : AnsweringNode) (identity : CommandIdentity) (digest : String)
    (kind : Option ArtifactKind) (raw : List UInt8) (turn offset limit : Nat) : ArtifactChunk :=
  ⟨node.replyId turn, node.requestId turn, identity, digest, kind, offset, raw.length,
    (raw.drop offset).take limit,
    decide (offset + ((raw.drop offset).take limit).length = raw.length)⟩

section Serving

variable {sha256 : List UInt8 → String} {node : AnsweringNode} {identity : CommandIdentity}
  {digest : String} {kind : Option ArtifactKind} {raw : List UInt8}

/-- **Every chunk the node produces is parsed.** -/
theorem peer_eq_ok (serves : Serves sha256 node identity digest kind raw)
    (bounded : isContractInteger node.maxBytes = true) (within : raw.length ≤ node.maxBytes)
    {turn offset limit : Nat} (positive : 1 ≤ limit) (limited : limit ≤ maxChunkBytes)
    (inside : offset ≤ raw.length) (progress : 0 < raw.length → offset < raw.length) :
    node.peer sha256 turn ⟨identity, digest, offset, limit⟩ =
      .ok ⟨node.requestId turn, node.replyId turn,
        some (servedChunk node identity digest kind raw turn offset limit)⟩ := by
  have holds := serves.holds turn
  have read := readArtifactChunk_holds holds bounded within positive limited inside progress
  have cut : ChunkOf sha256 raw digest offset limit node.maxBytes
      ⟨kind, raw.length, (raw.drop offset).take limit,
        decide (offset + ((raw.drop offset).take limit).length = raw.length), digest, offset⟩ :=
    ⟨holds.isDigest, (isContractInteger_iff.mp bounded).2, limited, positive, within,
      holds.verified, inside, progress, rfl⟩
  have parsed := @parseArtifactChunk_payload sha256 raw digest offset limit node.maxBytes _ cut
    node.nodeId (node.replyId turn) (node.requestId turn) identity (serves.identifier turn)
    serves.valid serves.sameNode
  simp only [AnsweringNode.peer, read, bind_eq_ok]
  exact ⟨_, rfl, _, parsed, rfl⟩

/-! ## The number of requests -/

def chunkCount (length chunkBytes : Nat) : Nat :=
  max 1 ((length + chunkBytes - 1) / chunkBytes)

theorem lt_chunkCount {length chunkBytes sent : Nat} (positive : 1 ≤ chunkBytes)
    (unfinished : sent * chunkBytes < length) : sent < chunkCount length chunkBytes := by
  have enough : sent + 1 ≤ (length + chunkBytes - 1) / chunkBytes := by
    rw [Nat.le_div_iff_mul_le positive, Nat.succ_mul]
    omega
  exact lt_of_lt_of_le enough (le_max_right _ _)

theorem chunkCount_le {length chunkBytes sent : Nat} (positive : 1 ≤ chunkBytes)
    (finished : length ≤ (sent + 1) * chunkBytes) : chunkCount length chunkBytes ≤ sent + 1 := by
  refine max_le (by omega) ?_
  rw [← Nat.lt_succ_iff, Nat.div_lt_iff_lt_mul positive, Nat.succ_mul]
  omega

/-! ## Answers from a stored artifact -/

def fetched (raw : List UInt8) (chunkBytes sent : Nat) : Transfer where
  data := raw.take (sent * chunkBytes)
  total := if sent = 0 then none else some (raw.length : Int)
  charged := (sent * raw.length : Nat)

theorem budget_suffices {maxBytes chunkBytes length sent : Nat} (positive : 1 ≤ chunkBytes)
    (nonzero : 1 ≤ maxBytes) (within : length ≤ maxBytes)
    (pending : sent = 0 ∨ sent * chunkBytes < length) :
    (sent + 1) * length ≤ defaultReadBudget maxBytes chunkBytes ∧
      sent * length + (if sent = 0 then maxBytes else length) ≤
        defaultReadBudget maxBytes chunkBytes := by
  have chunks : sent + 1 ≤ (maxBytes + chunkBytes - 1) / chunkBytes := by
    rw [Nat.le_div_iff_mul_le positive, Nat.succ_mul]
    rcases pending with rfl | unfinished <;> omega
  have covers : (sent + 1) * length ≤ defaultReadBudget maxBytes chunkBytes := by
    rw [defaultReadBudget, Nat.mul_comm maxBytes]
    exact Nat.mul_le_mul chunks within
  refine ⟨covers, ?_⟩
  split
  next first =>
    subst first
    rw [Nat.zero_mul, Nat.zero_add, defaultReadBudget]
    exact Nat.le_mul_of_pos_right _ chunks
  next => exact (Nat.succ_mul _ _).symm.trans_le covers

variable {maxBytes chunkBytes : Nat} {reconciler : TerminalReconciler}

/-- **One turn fetches the next chunk**, and the last one ends the transfer. -/
theorem fetchTurn_served
    (serves : Serves sha256 node identity digest (some .workerTerminalResult) raw)
    (configured : TerminalReconciler.init node.maxBytes chunkBytes none = .ok reconciler)
    (within : raw.length ≤ node.maxBytes) {turn sent : Nat}
    (pending : sent = 0 ∨ sent * chunkBytes < raw.length) :
    fetchTurn sha256 reconciler identity digest (node.peer sha256) turn
        (fetched raw chunkBytes sent) =
      .ok (if raw.length ≤ (sent + 1) * chunkBytes then .done raw
        else .more (fetched raw chunkBytes (sent + 1))) := by
  obtain ⟨bounded, positive, limited, rfl⟩ := TerminalReconciler.init_ok configured
  obtain ⟨covers, affords⟩ :=
    budget_suffices positive (isContractInteger_iff.mp bounded).1 within pending
  have inside : sent * chunkBytes ≤ raw.length := by
    rcases pending with rfl | unfinished
    · omega
    · exact unfinished.le
  have progress : 0 < raw.length → sent * chunkBytes < raw.length := by
    rcases pending with rfl | unfinished
    · omega
    · exact fun _ => unfinished
  have length : (fetched raw chunkBytes sent).data.length = sent * chunkBytes := by
    rw [fetched, length_take]
    omega
  have size : ((raw.drop (sent * chunkBytes)).take chunkBytes).length =
      min chunkBytes (raw.length - sent * chunkBytes) := by
    rw [length_take, length_drop]
  have next : (fetched raw chunkBytes sent).data ++
      (raw.drop (sent * chunkBytes)).take chunkBytes = raw.take ((sent + 1) * chunkBytes) := by
    rw [fetched, Nat.succ_mul, take_add]
  rw [fetchTurn_eq_ok, length]
  refine ⟨?_, _, _, peer_eq_ok serves bounded within positive limited inside progress, rfl, ?_,
    rfl, ?_, ?_⟩
  · rw [not_lt]
    by_cases first : sent = 0
    · rw [if_pos first] at affords
      simp only [fetched, if_pos first, Option.getD_none]
      exact_mod_cast affords
    · rw [if_neg first] at affords
      simp only [fetched, if_neg first, Option.getD_some]
      exact_mod_cast affords
  · simp only [replyMismatch, servedChunk, not_or, length, size]
    refine ⟨not_not.mpr rfl, not_not.mpr rfl, not_not.mpr rfl, not_not.mpr rfl, not_not.mpr rfl,
      not_not.mpr ⟨by omega, by exact_mod_cast within⟩, by omega, ?_, ?_, by omega,
      not_not.mpr ?_⟩
    · rintro ⟨total, known, different⟩
      simp only [fetched] at known
      split at known
      next => cases known
      next =>
        cases known
        exact different rfl
    · rintro ⟨nonempty, none⟩
      rw [none, length_nil] at size
      have before := progress (by exact_mod_cast nonempty)
      omega
    · exact decide_eq_decide.mpr (by omega)
  · rw [not_lt]
    simp only [fetched, servedChunk]
    rw [Nat.succ_mul] at covers
    exact_mod_cast covers
  · simp only [servedChunk, next, size]
    by_cases finished : raw.length ≤ (sent + 1) * chunkBytes
    · left
      rw [if_pos finished, take_of_length_le finished]
      rw [Nat.succ_mul] at finished
      exact ⟨decide_eq_true (by omega), (serves.holds turn).verified, rfl⟩
    · right
      rw [if_neg finished]
      rw [Nat.succ_mul] at finished
      refine ⟨decide_eq_false (by omega), ?_⟩
      simp only [fetched, if_neg (Nat.succ_ne_zero sent)]
      rw [Nat.succ_mul, Nat.succ_mul]
      push_cast
      rfl

theorem fetchBytes_served
    (serves : Serves sha256 node identity digest (some .workerTerminalResult) raw)
    (configured : TerminalReconciler.init node.maxBytes chunkBytes none = .ok reconciler)
    (within : raw.length ≤ node.maxBytes) {fuel : Nat} :
    ∀ {turn sent : Nat}, (sent = 0 ∨ sent * chunkBytes < raw.length) →
      chunkCount raw.length chunkBytes ≤ sent + fuel →
      fetchBytes sha256 reconciler identity digest (node.peer sha256) fuel turn
          (fetched raw chunkBytes sent) =
        some (turn + (chunkCount raw.length chunkBytes - sent), .ok raw) := by
  obtain ⟨_, positive, _, _⟩ := TerminalReconciler.init_ok configured
  have started : ∀ {sent : Nat}, (sent = 0 ∨ sent * chunkBytes < raw.length) →
      sent < chunkCount raw.length chunkBytes := by
    rintro sent (rfl | unfinished)
    · exact lt_of_lt_of_le Nat.one_pos (le_max_left _ _)
    · exact lt_chunkCount positive unfinished
  induction fuel with
  | zero =>
    intro turn sent pending enough
    have more := started pending
    omega
  | succ fuel ih =>
    intro turn sent pending enough
    have more := started pending
    rw [fetchBytes, fetchTurn_served serves configured within pending]
    by_cases finished : raw.length ≤ (sent + 1) * chunkBytes
    · have last := chunkCount_le positive finished
      rw [if_pos finished]
      have one : chunkCount raw.length chunkBytes - sent = 1 := by omega
      rw [one]
    · rw [if_neg finished]
      show fetchBytes _ _ _ _ _ _ _ _ = _
      rw [ih (.inr (not_le.mp finished)) (by omega)]
      have later : turn + 1 + (chunkCount raw.length chunkBytes - (sent + 1)) =
          turn + (chunkCount raw.length chunkBytes - sent) := by
        have next := started (.inr (not_le.mp finished))
        omega
      rw [later]

end Serving

/-- **The transfer of an artifact is complete.**  A stored worker result within the bound is
returned whole, after one request for each of its chunks, every one of which is accepted.  Whatever
is answered, the loop ends, and bytes that it returns have the requested digest. -/
theorem artifact_transfer_complete (sha256 : List UInt8 → String) :
    (∀ (node : AnsweringNode) (identity : CommandIdentity) (digest : String) (raw : List UInt8)
        (chunkBytes : Nat) (reconciler : TerminalReconciler),
      Serves sha256 node identity digest (some .workerTerminalResult) raw →
      TerminalReconciler.init node.maxBytes chunkBytes none = .ok reconciler →
      raw.length ≤ node.maxBytes →
      (∀ turn offset, offset ≤ raw.length → (0 < raw.length → offset < raw.length) →
        node.peer sha256 turn ⟨identity, digest, offset, chunkBytes⟩ =
          .ok ⟨node.requestId turn, node.replyId turn, some (servedChunk node identity digest
            (some .workerTerminalResult) raw turn offset chunkBytes)⟩) ∧
      ∀ fuel, chunkCount raw.length chunkBytes ≤ fuel →
        fetchBytes sha256 reconciler identity digest (node.peer sha256) fuel 0 Transfer.start =
          some (chunkCount raw.length chunkBytes, .ok raw)) ∧
    ∀ (reconciler : TerminalReconciler) (identity : CommandIdentity) (digest : String)
        (peer : Peer) (fuel : Nat), max 1 reconciler.maxBytes ≤ fuel →
      ∃ turns outcome, fetchBytes sha256 reconciler identity digest peer fuel 0 Transfer.start =
          some (turns, outcome) ∧ turns ≤ max 1 reconciler.maxBytes ∧
        ∀ raw, outcome = .ok raw → sha256 raw = digest := by
  refine ⟨?_, fun reconciler identity digest peer fuel enough => fetchBytes_ends enough⟩
  intro node identity digest raw chunkBytes reconciler serves configured within
  obtain ⟨bounded, positive, limited, _⟩ := TerminalReconciler.init_ok configured
  refine ⟨fun turn offset inside progress =>
    peer_eq_ok serves bounded within positive limited inside progress, ?_⟩
  intro fuel enough
  have empty : fetched raw chunkBytes 0 = Transfer.start := by
    simp [fetched, Transfer.start]
  have served := @fetchBytes_served sha256 node identity digest raw chunkBytes reconciler serves
    configured within fuel 0 0 (.inl rfl) (by omega)
  rw [empty, Nat.zero_add, Nat.sub_zero] at served
  exact served

/-! ## A short artifact -/

/-- The artifact `abc`. -/
def sampleArtifact : List UInt8 := [97, 98, 99]

def sampleDigest : String := "ba7816bf8f01cfea414140de5dae2223b00361a396177a9cb410ff61f20015ad"

def sampleStorage : Storage where
  opened := .ok ⟨⟩
  committed := .ok ⟨⟩
  released := .ok ⟨⟩
  outputs :=
    { usable := .ok ⟨⟩
      contains := fun digest => digest = sampleDigest
      bytes := fun digest =>
        if digest = sampleDigest then .ok sampleArtifact else .error persistenceFailed
      written := .ok ⟨⟩ }

def sampleDatabase (kind : ArtifactKind) : Database :=
  let opened := Database.initial (commandScope sampleIdentity) "log"
  (opened.insertCommand sampleIdentity []).updateCommand sampleIdentity.commandId fun row =>
    { row with state := .terminal, outputDigest := some sampleDigest, artifactKind := some kind }

def sampleNode (kind : ArtifactKind) : AnsweringNode where
  nodeId := sampleIdentity.nodeId
  maxBytes := 1024
  storage := fun _ => sampleStorage
  db := fun _ => sampleDatabase kind
  requestId := fun _ => "request"
  replyId := fun _ => "reply"

theorem sampleNode_serves (kind : ArtifactKind) :
    Serves (fun _ => sampleDigest) (sampleNode kind) sampleIdentity sampleDigest (some kind)
      sampleArtifact where
  holds := fun _ =>
    { opened := rfl
      committed := rfl
      released := rfl
      row := ⟨_, rfl, rfl, rfl, rfl, rfl⟩
      bytes := rfl
      isDigest := by decide +kernel
      verified := rfl }
  identifier := fun _ => show isIdentifier "request" = true by decide +kernel
  valid := by decide +kernel
  sameNode := rfl

/-- A transfer in chunks of two bytes. -/
def sampleReconciler : TerminalReconciler := ⟨1024, 2, defaultReadBudget 1024 2⟩

/-- A worker result of three bytes arrives in two chunks. -/
theorem sampleArtifact_fetched :
    fetchBytes (fun _ => sampleDigest) sampleReconciler sampleIdentity sampleDigest
        ((sampleNode .workerTerminalResult).peer fun _ => sampleDigest) 2 0 Transfer.start =
      some (2, .ok sampleArtifact) :=
  ((artifact_transfer_complete fun _ => sampleDigest).1 (sampleNode .workerTerminalResult)
    sampleIdentity sampleDigest sampleArtifact 2 sampleReconciler (sampleNode_serves _) rfl
    (by decide)).2 2 (by decide)

/-- **Stored plain text is served, and refused**: its kind cannot establish worker output. -/
theorem plaintext_artifact_refused :
    Serves (fun _ => sampleDigest) (sampleNode .nativePlaintext) sampleIdentity sampleDigest
        (some .nativePlaintext) sampleArtifact ∧
      TerminalReconciler.init (sampleNode .nativePlaintext).maxBytes 2 none =
        .ok sampleReconciler ∧
      sampleArtifact.length ≤ (sampleNode .nativePlaintext).maxBytes ∧
      fetchBytes (fun _ => sampleDigest) sampleReconciler sampleIdentity sampleDigest
          ((sampleNode .nativePlaintext).peer fun _ => sampleDigest) 2 0 Transfer.start =
        some (1, .error kindUnsupported) :=
  ⟨sampleNode_serves _, rfl, by decide, rfl⟩

end Audiagentic.Node
