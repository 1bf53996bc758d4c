import Mathlib.Data.List.Sort
import Audiagentic.Gateway.NodeProtocol
import Audiagentic.Session.Records

/-!
# Session expiry

`expire_session_if_policy_exceeded` as the steps of concurrent calls.  A call first reads the
session, the roster of its requests and each request without a lock; it then takes the locks of the
requests it would retire, the retention lock and the session lock, reads the roster again, retires
the requests one by one and moves the session to expired.

Every other writer of a request takes the lock of that request; admission writes a new request and
takes no lock that expiry holds.  A request is stored under its own id.
-/

namespace Audiagentic.Session

open Foundations
open Gateway (Doc ErrorValue Hashing Projections Record StoreOp Timestamp
  storeStep transitionRecoveredTerminal)

/-! ## Records -/

/-- What expiry reads and writes of a session record.  A time stamp that is missing or cannot be
read is `none`. -/
structure ExpiringSession where
  state : SessionState
  requestIds : List String
  providerId : Option String
  /-- `provider.metadata["provider-session-id"]`. -/
  providerSessionId : Option String
  /-- `binding["provider-id"]`. -/
  boundProviderId : Option String
  /-- `binding["provider-session-ref"]`. -/
  boundSessionRef : Option String
  createdAt : Option Timestamp
  lastActivityAt : Option Timestamp
  idleTimeoutSeconds : Option ℚ
  maxLifetimeSeconds : Option ℚ
  closeReason : Option String
  closedAt : Option Timestamp

/-- What expiry is run with: the session id, what it reads of a request beside the stored record
(`resolved-provider-id`, fixed at admission), the JSON texts it reads and writes, and the store. -/
structure ExpiryHost where
  sessionId : String
  resolvedProviderId : String → Option String
  /-- `provider-metadata["provider-session-id"]`. -/
  providerSessionId : Doc → Option String
  /-- The details of the error of a request that is retired, from the close reason and the
  side-effect state. -/
  details : String → String → Doc
  projections : Projections
  hashing : Hashing

def readStored (requests : OrderedDict String Record) (requestId : String) : Option Record :=
  (requests.get? requestId).bind fun stored => stored.readLocked.toOption

/-! ## Policy -/

/-- `session_lifetime_expired`. -/
def lifetimeExpired (session : ExpiringSession) (now : Timestamp) : Bool :=
  let cap := session.maxLifetimeSeconds.getD 0
  match session.createdAt with
  | some created => decide (0 < cap) && decide ((created : ℚ) + cap < now)
  | none => false

def idleCap (session : ExpiringSession) : ℚ :=
  match session.idleTimeoutSeconds with
  | some cap => cap
  | none => if (session.providerId.getD "").startsWith "gpt-auto" then 1800 else 0

/-- `session_idle_expired`. -/
def idleExpired (session : ExpiringSession) (now : Timestamp) : Bool :=
  match session.lastActivityAt with
  | some activity =>
    decide (0 < idleCap session) && decide (idleCap session < (now : ℚ) - activity)
  | none => false

def expiryReason (session : ExpiringSession) (now : Timestamp) : Option String :=
  if session.state.isTerminal then none
  else if lifetimeExpired session now then some "max-lifetime"
  else if idleExpired session now then some "idle-timeout"
  else none

/-! ## Requests of the session -/

def isStated (value : String) : Bool := !Text.isBlank value.toList

section Requests

variable (host : ExpiryHost)

def isBound (record : Record) : Bool :=
  record.results.sessionId = some host.sessionId && record.admission.requestId ≠ ""

def providerFacts (session : ExpiringSession) : Option (String × String) :=
  match session.providerSessionId, session.providerId with
  | some reference, some provider =>
    if isStated reference && isStated provider &&
        session.boundProviderId = some provider && session.boundSessionRef = some reference then
      some (reference, provider)
    else none
  | _, _ => none

/-- `provider-metadata["provider-session-id"]` of a request. -/
def requestProviderSession (record : Record) : Option String :=
  record.results.providerMetadata.bind host.providerSessionId

def leaseRuns (record : Record) (now : Timestamp) : Bool :=
  match record.activity.provider.leaseExpiresAt with
  | some lease => decide (now < lease)
  | none => false

def isRetirable (reference provider : String) (now : Timestamp) (requestId : String)
    (record : Record) : Bool :=
  isStated reference && requestProviderSession host record = some reference &&
    host.resolvedProviderId requestId = some provider && !leaseRuns record now

/-- The requests that expiry would retire; `none` where it gives up. -/
def eligibleRequests (session : ExpiringSession) (clock : String → Timestamp)
    (records : List (String × Record)) : Option (List (String × Record)) :=
  let nonterminal := records.filter fun entry => !entry.2.state.isTerminal
  if nonterminal.isEmpty then some []
  else
    match providerFacts session with
    | some (reference, provider) =>
      if nonterminal.all fun entry =>
          isRetirable host reference provider (clock entry.1) entry.1 entry.2 then
        some nonterminal
      else none
    | none => none

def retirementError (reason : String) (record : Record) : ErrorValue where
  isMapping := true
  code := some "CON-AGW-084"
  kind := some "agents"
  message := some "provider session expired before the request reached a terminal state"
  details :=
    let stated := (record.diagnostics.map (·.sideEffectState)).getD ""
    some (host.details reason (if stated = "" then "may-have-started" else stated))
  watchdogClassification := some .expiredProviderSession
  text := ""

def retirement (reason : String) (record : Record) (now : Timestamp) : StoreOp :=
  let owner := record.dispatchOwnerEpoch.filter (· ≠ "")
  .transitionRecoveredTerminal .interrupted (some (retirementError host reason record)) owner
    (some record.revision) (some false)
    (some "provider-session-expired; reconcile or operator-capture before retry") now

end Requests

/-! ## Calls -/

/-- What a call found out before it takes its locks. -/
structure ExpiryCheck where
  session : ExpiringSession
  requestIds : List String
  clock : String → Timestamp
  eligible : List (String × Record)

inductive ExpiryCall where
  | idle
  | listing (session : ExpiringSession) (remaining bound : List String)
  | reading (session : ExpiringSession) (requestIds remaining : List String)
      (records : List (String × Record))
  | waiting (check : ExpiryCheck)

inductive ExpirySection where
  | relisting (check : ExpiryCheck) (reason : String) (remaining : List String)
      (found : List (String × Record))
  | retiring (check : ExpiryCheck) (reason : String) (remaining : List (String × Record))

/-- The session, the requests and the calls. -/
structure ExpiryState where
  session : ExpiringSession
  requests : OrderedDict String Record
  calls : ℕ → ExpiryCall
  holder : Option ExpirySection

def ExpirySection.check : ExpirySection → ExpiryCheck
  | relisting check _ _ _ => check
  | retiring check _ _ => check

/-- The requests whose locks are held. -/
def ExpirySection.locked (held : ExpirySection) : List String := held.check.eligible.map Prod.fst

def rosterIds (listed bound : List String) : List String :=
  (listed ++ bound).dedup.insertionSort (· ≤ ·)

def sameMembers (first second : List String) : Bool :=
  first.all (fun id => id ∈ second) && second.all (fun id => id ∈ first)

section Steps

variable (host : ExpiryHost)

/-- The next step of a call that holds no lock. -/
def advanceCall (state : ExpiryState) (clock : String → Timestamp) : ExpiryCall → ExpiryCall
  | .idle => .idle
  | .listing session (requestId :: remaining) bound =>
    if (readStored state.requests requestId).any (isBound host) then
      .listing session remaining (bound ++ [requestId])
    else .listing session remaining bound
  | .listing session [] bound =>
    let requestIds := rosterIds session.requestIds bound
    .reading session requestIds requestIds []
  | .reading session requestIds (requestId :: remaining) records =>
    match readStored state.requests requestId with
    | some record => .reading session requestIds remaining (records ++ [(requestId, record)])
    | none => .idle
  | .reading session requestIds [] records =>
    match eligibleRequests host session clock records with
    | some eligible => .waiting { session, requestIds, clock, eligible }
    | none => .idle
  | .waiting check => .waiting check

def rosterHolds (session : ExpiringSession) (check : ExpiryCheck)
    (found : List (String × Record)) : Bool :=
  sameMembers (session.requestIds ++ found.map Prod.fst) check.requestIds &&
    sameMembers ((found.filter fun entry => !entry.2.state.isTerminal).map Prod.fst)
      (check.eligible.map Prod.fst)

/-- No eligible request was written since it was checked. -/
def unchangedSince (requests : OrderedDict String Record) (check : ExpiryCheck) : Bool :=
  check.eligible.all fun entry =>
    match readStored requests entry.1 with
    | some current => !current.state.isTerminal && current.revision = entry.2.revision
    | none => false

/-- The next step of the call that holds the locks. -/
def workSection (state : ExpiryState) (now : Timestamp) : ExpirySection → ExpiryState
  | .relisting check reason (requestId :: remaining) found =>
    match readStored state.requests requestId with
    | some record =>
      let found := if isBound host record then found ++ [(requestId, record)] else found
      { state with holder := some (.relisting check reason remaining found) }
    | none => { state with holder := some (.relisting check reason remaining found) }
  | .relisting check reason [] found =>
    if rosterHolds state.session check found && unchangedSince state.requests check then
      { state with holder := some (.retiring check reason check.eligible) }
    else { state with holder := none }
  | .retiring check reason ((requestId, record) :: remaining) =>
    match state.requests.get? requestId with
    | some stored =>
      let operation := (retirement host reason record now).operation host.projections
        host.hashing
      let requests := state.requests.set requestId (operation.run stored).1
      match (operation.run stored).2 with
      | .ok _ => { state with requests, holder := some (.retiring check reason remaining) }
      | .error _ => { state with requests, holder := none }
    | none => { state with holder := none }
  | .retiring _ reason [] =>
    if .expired ∈ state.session.state.targets then
      { state with
        session := { state.session with
          state := .expired, closeReason := some reason, closedAt := some now }
        holder := none }
    else { state with holder := none }

inductive ExpiryEvent where
  | admitted (requestId : String) (record : Record)
  | requestOp (requestId : String) (op : StoreOp)
  | sessionWritten (session : ExpiringSession)
  | start (call : ℕ) (now : Timestamp)
  | advance (call : ℕ) (clock : String → Timestamp)
  | enter (call : ℕ) (now : Timestamp)
  | work (now : Timestamp)
  | abandon (call : ℕ)
  | stop

/-- One step.  A writer that needs a lock that is held waits, so its step is none; a call or the
holder of the locks may fail at any moment, and gives its locks back. -/
def stepExpiry (state : ExpiryState) : ExpiryEvent → ExpiryState
  | .admitted requestId record =>
    if state.requests.has requestId then state
    else { state with requests := state.requests.set requestId record }
  | .requestOp requestId op =>
    if (state.holder.any fun held => requestId ∈ held.locked) then state
    else
      match state.requests.get? requestId with
      | some stored =>
        let written := storeStep host.projections host.hashing stored op
        { state with requests := state.requests.set requestId written }
      | none => state
  | .sessionWritten session =>
    if state.holder.isSome || (session.state = .expired && state.session.state ≠ .expired) then
      state
    else { state with session }
  | .start call now =>
    match expiryReason state.session now with
    | some _ =>
      { state with calls :=
          Function.update state.calls call (.listing state.session state.requests.keys []) }
    | none => state
  | .advance call clock =>
    { state with calls :=
        Function.update state.calls call (advanceCall host state clock (state.calls call)) }
  | .enter call now =>
    match state.holder, state.calls call with
    | none, .waiting check =>
      let calls := Function.update state.calls call .idle
      match expiryReason state.session now with
      | some reason =>
        { state with
          calls, holder := some (.relisting check reason state.requests.keys []) }
      | none => { state with calls }
    | _, _ => state
  | .work now =>
    match state.holder with
    | some held => workSection host state now held
    | none => state
  | .abandon call => { state with calls := Function.update state.calls call .idle }
  | .stop => { state with holder := none }

end Steps

end Audiagentic.Session
