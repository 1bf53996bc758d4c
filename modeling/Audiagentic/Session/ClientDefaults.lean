import Audiagentic.Foundations.PythonValues

/-!
# Default sessions of clients

A client has one default session in each scope: a project, an agent and a provider surface.  The
binding of a scope is one file, which four functions write: the commit of a selection, `remember`,
`replace_failed_default` and nothing else; `redirect_if_replaced` only reads it.  A selection holds
the lock of its scope from the reading of the binding to its commit.

The file of a scope is named after a digest of the scope; here it is the scope itself.
-/

namespace Audiagentic.Session

open Foundations Option

/-! ## Bindings -/

/-- What `scope_key` is a digest of, beside the schema generation. -/
structure ClientScope where
  client : Text
  project : Text
  agent : Text
  surface : Text
deriving DecidableEq

def scopeSchemaGeneration : ℕ := 2

structure DefaultBinding where
  sessionId : Option Text
  schemaGeneration : Option ℕ := none
  clientId : Option Text := none
  surface : Option Text := none
  chatUrl : Option Text := none

abbrev Bindings := OrderedDict ClientScope DefaultBinding

/-- A value that is there and not empty. -/
def stated? (value : Option Text) : Option Text := value.filter fun text => !text.isEmpty

namespace DefaultBinding

def isCanonical (binding : DefaultBinding) (scope : ClientScope) : Bool :=
  binding.schemaGeneration = some scopeSchemaGeneration && binding.clientId = some scope.client &&
    binding.surface = some scope.surface

def claimsFromOutside (binding : DefaultBinding) (sessionId : Text) (scope : ClientScope) : Bool :=
  binding.schemaGeneration = some scopeSchemaGeneration && binding.surface = some scope.surface &&
    binding.sessionId = some sessionId &&
      match stated? binding.clientId with
      | some client => client ≠ scope.client
      | none => false

end DefaultBinding

def claimedByOtherClient (bindings : Bindings) (scope : ClientScope) (sessionId : Text) : Bool :=
  bindings.entries.any fun entry =>
    entry.1 ≠ scope && entry.2.claimsFromOutside sessionId scope

/-! ## Sessions -/

inductive SessionReading where
  | unreadable (code : Text)
  | found (state : Option Text) (metadata : Fields)

abbrev SessionReadings := Text → Text → SessionReading

/-- `session_state_is_reusable`. -/
def isReusable (state : Text) : Bool := state = "active".toList

def SessionReading.isActive : SessionReading → Bool
  | .found (some state) _ => isReusable state
  | _ => false

/-! ## Selections -/

structure DefaultWarning where
  code : Text
  message : Text
  sessionId : Option Text := none

/-- `warning`. -/
def defaultWarning (code message : Text) (sessionId : Option Text) : DefaultWarning where
  code := code.take 80
  message := message.take 240
  sessionId := stated? sessionId

/-- The arguments of `select`; `serviceRoot` says whether a service root is given. -/
structure SelectRequest where
  serviceRoot : Bool
  clientId : Option Text
  agentId : Option Text
  project : Text
  providerId : Text
  sessionId : Option Text
  chatUrl : Option Text
  newSession : Bool

def SelectRequest.scope? (request : SelectRequest) : Option ClientScope :=
  match stated? request.clientId, stated? request.agentId with
  | some client, some agent =>
    if request.serviceRoot && "gpt-auto".toList.isPrefixOf request.providerId then
      some { client, project := request.project, agent, surface := request.providerId }
    else none
  | _, _ => none

/-- `not (session_id or provider_chat_url or new_session)`. -/
def SelectRequest.isAutomatic (request : SelectRequest) : Bool :=
  (stated? request.sessionId).isNone && (stated? request.chatUrl).isNone && !request.newSession

/-- `Selection`, of a scope. -/
structure Selection where
  sessionId : Option Text
  chatUrl : Option Text
  binding : Option DefaultBinding
  automatic : Bool
  warnings : List DefaultWarning := []

section Selecting

variable (chatUrlOf : Fields → Option Text)

/-- The binding that a selection goes by: nothing where it does not carry the scope's identity. -/
def effectiveBinding (bindings : Bindings) (scope : ClientScope) : Option DefaultBinding :=
  (bindings.get? scope).filter fun binding => binding.isCanonical scope

/-- The selection of a default that no other client claims. -/
def selectSession (reading : SessionReading) (binding : DefaultBinding) (sessionId : Text) :
    Selection :=
  match reading with
  | .unreadable code =>
    { sessionId := none
      chatUrl := binding.chatUrl
      binding := some binding
      automatic := true
      warnings := [defaultWarning code
        ("Default gateway session unavailable; restoring its chat when possible, " ++
          "otherwise creating a replacement.").toList (some sessionId)] }
  | .found state metadata =>
    let recovered := stated? (chatUrlOf metadata)
    let binding := { binding with chatUrl := recovered.or binding.chatUrl }
    match state with
    | some state =>
      if isReusable state then
        { sessionId := some sessionId, chatUrl := none, binding := some binding,
          automatic := true }
      else
        { sessionId := none
          chatUrl := recovered.or binding.chatUrl
          binding := some binding
          automatic := true
          warnings := [defaultWarning "RES-AGW-003".toList
            ("Default gateway session is not reusable; " ++
              "creating a replacement while retaining its chat when possible.").toList
            (some sessionId)] }
    | none =>
      { sessionId := some sessionId, chatUrl := none, binding := some binding,
        automatic := true }

/-- What `select` yields for a scope. -/
def selectDefault (bindings : Bindings) (sessions : SessionReadings) (scope : ClientScope)
    (request : SelectRequest) : Selection :=
  let binding := effectiveBinding bindings scope
  let given : Selection :=
    { sessionId := request.sessionId
      chatUrl := request.chatUrl
      binding
      automatic := request.isAutomatic }
  match binding, binding.bind fun binding => stated? binding.sessionId with
  | some binding, some sessionId =>
    if request.isAutomatic = false then given
    else if claimedByOtherClient bindings scope sessionId then
      { sessionId := none
        chatUrl := none
        binding := none
        automatic := true
        warnings := [defaultWarning "CON-AGW-123".toList
          "Client default session ownership conflict; creating a separate session.".toList none] }
    else selectSession chatUrlOf (sessions scope.project sessionId) binding sessionId
  | _, _ => given

/-- `Selection.commit`: the binding that is written for the session of the admitted request. -/
def Selection.commit (selection : Selection) (scope : ClientScope) (sessionId : Text) :
    Option DefaultBinding :=
  if selection.binding.isNone || selection.automatic then
    some
      { sessionId := some sessionId
        schemaGeneration := some scopeSchemaGeneration
        clientId := some scope.client
        surface := some scope.surface
        chatUrl := (stated? selection.chatUrl).or (selection.binding.bind DefaultBinding.chatUrl) }
  else none

/-! ## Later writers -/

/-- What the other functions read of a request: the scope that its `client-default-session` names,
whether the selection was automatic, and its sessions. -/
structure DefaultRequest where
  scope : ClientScope
  automatic : Bool
  sessionId : Text
  continuationSessionId : Option Text
  metadata : Fields

/-- The scope's binding has the session of the request, or its continuation's; without a binding
that is no session. -/
def DefaultRequest.isDefault (request : DefaultRequest) (bindings : Bindings) : Prop :=
  let current := (bindings.get? request.scope).bind DefaultBinding.sessionId
  current = some request.sessionId ∨ current = request.continuationSessionId

instance (request : DefaultRequest) (bindings : Bindings) :
    Decidable (request.isDefault bindings) := by
  unfold DefaultRequest.isDefault
  infer_instance

/-- `remember`: the binding that is written. -/
def remember (bindings : Bindings) (sessions : SessionReadings) (request : DefaultRequest) :
    Option DefaultBinding :=
  let binding := (bindings.get? request.scope).getD { sessionId := none }
  if request.isDefault bindings then
    let metadata := match sessions request.scope.project request.sessionId with
      | .unreadable _ => request.metadata
      | .found _ stored => stored.update request.metadata
    some
      { binding with
        sessionId := some request.sessionId
        chatUrl := (stated? (chatUrlOf metadata)).or binding.chatUrl }
  else none

def DefaultRequest.otherDefault? (request : DefaultRequest) (bindings : Bindings) : Option Text :=
  ((bindings.get? request.scope).bind fun binding => stated? binding.sessionId).filter
    (· ≠ request.sessionId)

/-- The arguments of `replace_failed_default`: whether the error proves that nothing was submitted,
the id of the session that would be made, and which of its writes to the request succeed. -/
structure ReplaceCall where
  presubmitFailure : Bool
  recoverUrl : Bool
  targetId : Text
  attemptAppended : Bool
  attached : Bool

/-- `replace_failed_default`: the binding that is written.  The session is made, and the request
attached to it, before. -/
def replaceFailedDefault (bindings : Bindings) (sessions : SessionReadings)
    (request : DefaultRequest) (call : ReplaceCall) : Option DefaultBinding :=
  if call.presubmitFailure || !request.automatic || !call.attemptAppended then none
  else
    match request.otherDefault? bindings with
    | some _ => none
    | none =>
      if call.attached then
        let kept :=
          if call.recoverUrl then (bindings.get? request.scope).bind DefaultBinding.chatUrl
          else none
        let url := match sessions request.scope.project request.sessionId with
          | .unreadable _ => kept
          | .found _ metadata =>
            if call.recoverUrl then (stated? (chatUrlOf metadata)).or kept else kept
        some { sessionId := some call.targetId, chatUrl := stated? url }
      else none

/-- The call makes the record of a session, whether or not the request is then attached to it. -/
def ReplaceCall.makesSession (call : ReplaceCall) (bindings : Bindings)
    (request : DefaultRequest) : Bool :=
  !call.presubmitFailure && request.automatic && call.attemptAppended &&
    (request.otherDefault? bindings).isNone

/-! ## What the writers and readers do -/

@[simp] theorem stated?_some {text : Text} (stated : text ≠ []) :
    stated? (some text) = some text := by
  simp [stated?, stated]

variable {binding : DefaultBinding} {sessions : SessionReadings}

section Default

variable {bindings : Bindings} {scope : ClientScope}

/-- The default of a scope whose binding carries its identity. -/
structure IsDefault (bindings : Bindings) (scope : ClientScope) (binding : DefaultBinding)
    (sessionId : Text) : Prop where
  effective : effectiveBinding bindings scope = some binding
  named : stated? binding.sessionId = some sessionId

theorem IsDefault.sessionId {sessionId : Text}
    (default : IsDefault bindings scope binding sessionId) :
    bindings.get? scope = some binding ∧ binding.sessionId = some sessionId ∧ sessionId ≠ [] := by
  obtain ⟨found, -⟩ := filter_eq_some_iff.mp default.effective
  obtain ⟨same, stated⟩ := filter_eq_some_iff.mp default.named
  refine ⟨found, same, ?_⟩
  rintro rfl
  cases stated

theorem isDefault_or_none (bindings : Bindings) (scope : ClientScope) :
    (∃ binding sessionId, IsDefault bindings scope binding sessionId) ∨
      (effectiveBinding bindings scope).bind (fun binding => stated? binding.sessionId) = none := by
  cases effective : effectiveBinding bindings scope with
  | none => exact .inr rfl
  | some binding =>
    cases named : stated? binding.sessionId with
    | none => exact .inr named
    | some sessionId => exact .inl ⟨binding, sessionId, effective, named⟩

theorem selectDefault_of_none (sessions : SessionReadings) (request : SelectRequest)
    (nothing : (effectiveBinding bindings scope).bind (fun binding => stated? binding.sessionId) =
      none) :
    selectDefault chatUrlOf bindings sessions scope request =
      { sessionId := request.sessionId
        chatUrl := request.chatUrl
        binding := effectiveBinding bindings scope
        automatic := request.isAutomatic } := by
  simp only [selectDefault, nothing]
  cases effectiveBinding bindings scope <;> rfl

theorem IsDefault.select {sessionId : Text} (default : IsDefault bindings scope binding sessionId)
    (sessions : SessionReadings) (request : SelectRequest) :
    selectDefault chatUrlOf bindings sessions scope request =
      if request.isAutomatic = false then
        { sessionId := request.sessionId
          chatUrl := request.chatUrl
          binding := some binding
          automatic := request.isAutomatic }
      else if claimedByOtherClient bindings scope sessionId then
        { sessionId := none
          chatUrl := none
          binding := none
          automatic := true
          warnings := [defaultWarning "CON-AGW-123".toList
            "Client default session ownership conflict; creating a separate session.".toList none] }
      else selectSession chatUrlOf (sessions scope.project sessionId) binding sessionId := by
  simp only [selectDefault, default.effective, bind_some, default.named]

theorem selectSession_automatic (reading : SessionReading) (binding : DefaultBinding)
    (sessionId : Text) : (selectSession chatUrlOf reading binding sessionId).automatic = true := by
  unfold selectSession
  split
  · rfl
  · split
    · split <;> rfl
    · rfl

theorem selectSession_sessionId {reading : SessionReading} {sessionId returned : Text}
    (returns : (selectSession chatUrlOf reading binding sessionId).sessionId = some returned) :
    returned = sessionId := by
  unfold selectSession at returns
  split at returns
  · cases returns
  split at returns
  · split at returns
    · exact (Option.some.inj returns).symm
    · cases returns
  · exact (Option.some.inj returns).symm

theorem selectDefault_automatic (sessions : SessionReadings) (request : SelectRequest) :
    (selectDefault chatUrlOf bindings sessions scope request).automatic =
      request.isAutomatic := by
  obtain ⟨binding, sessionId, default⟩ | nothing := isDefault_or_none bindings scope
  · rw [default.select chatUrlOf]
    split
    · rfl
    next asked =>
      have automatic : request.isAutomatic = true := by simpa using asked
      rw [automatic]
      split
      · rfl
      · exact selectSession_automatic chatUrlOf _ _ _
  · rw [selectDefault_of_none chatUrlOf sessions request nothing]

variable {request : SelectRequest}

theorem selectDefault_binding (sessions : SessionReadings) (asked : request.isAutomatic = false) :
    (selectDefault chatUrlOf bindings sessions scope request).binding =
      effectiveBinding bindings scope := by
  obtain ⟨binding, sessionId, default⟩ | nothing := isDefault_or_none bindings scope
  · rw [default.select chatUrlOf, if_pos asked, default.effective]
  · rw [selectDefault_of_none chatUrlOf sessions request nothing]

theorem selectDefault_sessionId {returned : Text} (automatic : request.isAutomatic = true)
    (returns : stated? (selectDefault chatUrlOf bindings sessions scope request).sessionId =
      some returned) :
    ∃ binding, bindings.get? scope = some binding ∧ binding.sessionId = some returned := by
  obtain ⟨binding, sessionId, default⟩ | nothing := isDefault_or_none bindings scope
  · obtain ⟨found, same, -⟩ := default.sessionId
    obtain ⟨selected, -⟩ := filter_eq_some_iff.mp returns
    rw [default.select chatUrlOf, if_neg (by rw [automatic]; decide)] at selected
    split at selected
    · cases selected
    · rw [selectSession_sessionId chatUrlOf selected]
      exact ⟨binding, found, same⟩
  · rw [selectDefault_of_none chatUrlOf sessions request nothing] at returns
    simp only [SelectRequest.isAutomatic, Bool.and_eq_true, isNone_iff_eq_none] at automatic
    rw [automatic.1.1] at returns
    cases returns

/-- A default that no other client claims is returned while its session is active. -/
theorem IsDefault.select_of_active {sessionId : Text}
    (default : IsDefault bindings scope binding sessionId) (automatic : request.isAutomatic = true)
    (unclaimed : claimedByOtherClient bindings scope sessionId = false)
    (active : (sessions scope.project sessionId).isActive = true) :
    (selectDefault chatUrlOf bindings sessions scope request).sessionId = some sessionId := by
  rw [default.select chatUrlOf, if_neg (by rw [automatic]; decide),
    if_neg (by rw [unclaimed]; decide)]
  unfold SessionReading.isActive at active
  split at active
  next state metadata reading =>
    rw [reading]
    simp only [selectSession, active, if_true]
  next => cases active

/-- Selections agree where the scope has the same binding, and the same claims on it. -/
theorem selectDefault_congr {others : Bindings} (sessions : SessionReadings)
    (request : SelectRequest) (same : bindings.get? scope = others.get? scope)
    (claims : ∀ binding sessionId, IsDefault bindings scope binding sessionId →
      claimedByOtherClient bindings scope sessionId = claimedByOtherClient others scope sessionId) :
    selectDefault chatUrlOf bindings sessions scope request =
      selectDefault chatUrlOf others sessions scope request := by
  have effective : effectiveBinding others scope = effectiveBinding bindings scope := by
    unfold effectiveBinding
    rw [same]
  obtain ⟨binding, sessionId, default⟩ | nothing := isDefault_or_none bindings scope
  · have there : IsDefault others scope binding sessionId :=
      ⟨effective.trans default.effective, default.named⟩
    rw [default.select chatUrlOf, there.select chatUrlOf, claims binding sessionId default]
  · rw [selectDefault_of_none chatUrlOf sessions request nothing,
      selectDefault_of_none chatUrlOf sessions request (by rw [effective]; exact nothing),
      effective]

end Default

theorem claimedByOtherClient_eq_true {bindings : Bindings} {scope : ClientScope}
    {sessionId : Text} (claimed : claimedByOtherClient bindings scope sessionId = true) :
    ∃ other binding, bindings.get? other = some binding ∧ binding.sessionId = some sessionId ∧
      ∃ client, binding.clientId = some client ∧ client ≠ scope.client := by
  obtain ⟨⟨other, binding⟩, listed, claims⟩ := List.any_eq_true.mp claimed
  simp only [DefaultBinding.claimsFromOutside, Bool.and_eq_true, decide_eq_true_eq] at claims
  obtain ⟨-, ⟨-, session⟩, client⟩ := claims
  refine ⟨other, binding, OrderedDict.mem_entries_iff.mp listed, session, ?_⟩
  split at client
  next name stated => exact ⟨name, (filter_eq_some_iff.mp stated).1, by simpa using client⟩
  next => cases client

theorem Selection.commit_eq_some {selection : Selection} {scope : ClientScope} {sessionId : Text}
    (written : selection.commit scope sessionId = some binding) :
    (selection.binding.isNone || selection.automatic) = true ∧
      binding.isCanonical scope = true ∧ binding.sessionId = some sessionId := by
  unfold Selection.commit at written
  split at written
  next writes =>
    cases written
    exact ⟨writes, by simp [DefaultBinding.isCanonical], rfl⟩
  next => cases written

/-- What `remember` writes is the binding there was, with the session of the request. -/
theorem remember_eq_some {bindings : Bindings} {request : DefaultRequest}
    (written : remember chatUrlOf bindings sessions request = some binding) :
    request.isDefault bindings ∧
      ∃ url, binding =
        { (bindings.get? request.scope).getD { sessionId := none } with
          sessionId := some request.sessionId
          chatUrl := url } := by
  unfold remember at written
  split at written
  next follows =>
    cases written
    exact ⟨follows, _, rfl⟩
  next => cases written

/-- A replacement is written only when a session was made for it and the request was attached. -/
theorem replaceFailedDefault_eq_none {bindings : Bindings} (sessions : SessionReadings)
    {request : DefaultRequest} {call : ReplaceCall}
    (unwritten : ¬ (call.makesSession bindings request = true ∧ call.attached = true)) :
    replaceFailedDefault chatUrlOf bindings sessions request call = none := by
  unfold replaceFailedDefault
  by_cases stopped : (call.presubmitFailure || !request.automatic || !call.attemptAppended) = true
  · exact if_pos stopped
  rw [if_neg stopped]
  cases other : request.otherDefault? bindings with
  | some _ => rfl
  | none =>
    refine if_neg fun attached => unwritten ⟨?_, attached⟩
    simpa [ReplaceCall.makesSession, other, and_assoc] using stopped

end Selecting

end Audiagentic.Session
