import Audiagentic.Foundations.Runs
import Audiagentic.Session.ClientDefaults

/-!
# Default sessions over whole runs

Selections and the later writers of bindings, of any clients, projects and agents.  A selection
locks its scope until it is committed or given up; other scopes go on in between, and the session
records change as they like.

A replacement of a failed default is written without the identity of its scope, and a first default
is taken over from an explicit selection whoever uses that session.  As long as neither happens, the
binding of a scope is the session last established for it.
-/

namespace Audiagentic.Session

open Foundations OrderedDict Option Function

/-! ## Runs -/

/-- The bindings, the session records and the selections under way, with the history of the run:
the session last established for each scope, and those that implicit selections returned to each
client. -/
structure DefaultsState where
  bindings : Bindings
  sessions : SessionReadings
  selecting : ClientScope → Option Selection
  latest : ClientScope → Option Text
  answered : List (Text × Text)

def DefaultsState.initial (sessions : SessionReadings) : DefaultsState where
  bindings := ∅
  sessions := sessions
  selecting _ := none
  latest _ := none
  answered := []

inductive DefaultsAction where
  | select (request : SelectRequest)
  | commit (scope : ClientScope) (sessionId : Text)
  /-- The admission fails. -/
  | giveUp (scope : ClientScope)
  | remember (request : DefaultRequest)
  | redirect (request : DefaultRequest)
  | replace (request : DefaultRequest) (call : ReplaceCall)
  | sessions (readings : SessionReadings)

namespace DefaultsState

variable (chatUrlOf : Fields → Option Text)

def establish (state : DefaultsState) (scope : ClientScope) (binding : DefaultBinding)
    (sessionId : Text) : DefaultsState :=
  { state with
    bindings := state.bindings.set scope binding
    latest := Function.update state.latest scope (some sessionId) }

def note (state : DefaultsState) (scope : ClientScope) (selection : Selection) : DefaultsState :=
  { state with
    selecting := Function.update state.selecting scope (some selection)
    answered :=
      if selection.automatic then
        ((stated? selection.sessionId).map fun sessionId => (scope.client, sessionId)).toList ++
          state.answered
      else state.answered }

/-- One action.  A scope whose selection is under way is locked for the others. -/
def step (state : DefaultsState) : DefaultsAction → DefaultsState
  | .select request =>
    match request.scope? with
    | none => state
    | some scope =>
      if (state.selecting scope).isSome then state
      else state.note scope
        (selectDefault chatUrlOf state.bindings state.sessions scope request)
  | .commit scope sessionId =>
    match state.selecting scope with
    | none => state
    | some selection =>
      let released := { state with selecting := Function.update state.selecting scope none }
      match selection.commit scope sessionId with
      | some binding => released.establish scope binding sessionId
      | none => released
  | .giveUp scope => { state with selecting := Function.update state.selecting scope none }
  | .remember request =>
    if (state.selecting request.scope).isSome then state
    else
      match Session.remember chatUrlOf state.bindings state.sessions request with
      | some binding => state.establish request.scope binding request.sessionId
      | none => state
  | .redirect _ => state
  | .replace request call =>
    if (state.selecting request.scope).isSome then state
    else
      let made :=
        if call.makesSession state.bindings request then
          { state with
            sessions := Function.update state.sessions request.scope.project
              (Function.update (state.sessions request.scope.project) call.targetId
                (.found (some "active".toList) ∅)) }
        else state
      match replaceFailedDefault chatUrlOf state.bindings state.sessions request call with
      | some binding => made.establish request.scope binding call.targetId
      | none => made
  | .sessions readings => { state with sessions := readings }

/-! ## The property -/

def implicitRequest (scope : ClientScope) : SelectRequest where
  serviceRoot := true
  clientId := some scope.client
  agentId := some scope.agent
  project := scope.project
  providerId := scope.surface
  sessionId := none
  chatUrl := none
  newSession := false

def implicitSession (state : DefaultsState) (scope : ClientScope) : Option Text :=
  (selectDefault chatUrlOf state.bindings state.sessions scope (implicitRequest scope)).sessionId

def isForeign (state : DefaultsState) (scope : ClientScope) (sessionId : Text) : Prop :=
  ∃ other : ClientScope, other.client ≠ scope.client ∧ state.latest other = some sessionId

/-- The session is no other client's default, and was returned to no other client. -/
def isOwn (state : DefaultsState) (scope : ClientScope) (sessionId : Text) : Prop :=
  ¬ state.isForeign scope sessionId ∧
    ∀ client, (client, sessionId) ∈ state.answered → client = scope.client

/-- **The condition on an action.**  A session that is committed or remembered for a client is its
own; `remember` goes by a default of the scope; and no replacement is written. -/
def Unmixed (state : DefaultsState) : DefaultsAction → Prop
  | .commit scope sessionId =>
    ∀ selection ∈ state.selecting scope,
      (selection.binding.isNone || selection.automatic) = true → state.isOwn scope sessionId
  | .remember request =>
    (state.selecting request.scope).isNone = true → request.isDefault state.bindings →
      (state.bindings.get? request.scope).isSome = true ∧
        state.isOwn request.scope request.sessionId
  | .replace request call =>
    (state.selecting request.scope).isNone = true →
      ¬ (call.makesSession state.bindings request = true ∧ call.attached = true)
  | _ => True

/-- **Defaults are kept apart.** -/
structure KeptApart (state : DefaultsState) : Prop where
  /-- An implicit selection returns the session last established for its scope, while that is
  active and no other client's default. -/
  returned : ∀ scope sessionId, state.latest scope = some sessionId → sessionId ≠ [] →
    (state.sessions scope.project sessionId).isActive = true → ¬ state.isForeign scope sessionId →
      state.implicitSession chatUrlOf scope = some sessionId
  /-- A selection that is not automatic leaves a default as it is. -/
  explicitKeeps : ∀ scope selection sessionId, state.selecting scope = some selection →
    selection.automatic = false → (state.latest scope).isSome = true →
      (state.step chatUrlOf (.commit scope sessionId)).bindings = state.bindings
  /-- A selection that is not automatic changes no implicit selection of another client. -/
  othersKeep : ∀ scope selection sessionId, state.selecting scope = some selection →
    selection.automatic = false → state.Unmixed (.commit scope sessionId) →
      ∀ other : ClientScope, other.client ≠ scope.client →
        (state.step chatUrlOf (.commit scope sessionId)).implicitSession chatUrlOf other =
          state.implicitSession chatUrlOf other
  exclusive : ∀ first second sessionId, (first, sessionId) ∈ state.answered →
    (second, sessionId) ∈ state.answered → first = second

/-! ## The invariant -/

variable {chatUrlOf}

/-- The binding of a scope is the session last established for it, under the scope's identity; it
was established for one client, and returned to no other; a selection that is not automatic has
seen whether there is a binding. -/
structure Settled (state : DefaultsState) : Prop where
  unbound : ∀ scope, state.latest scope = none → state.bindings.get? scope = none
  bound : ∀ scope sessionId, state.latest scope = some sessionId →
    ∃ binding, state.bindings.get? scope = some binding ∧ binding.isCanonical scope = true ∧
      binding.sessionId = some sessionId
  apart : ∀ first second sessionId, state.latest first = some sessionId →
    state.latest second = some sessionId → first.client = second.client
  owned : ∀ scope client sessionId, state.latest scope = some sessionId →
    (client, sessionId) ∈ state.answered → client = scope.client
  exclusive : ∀ first second sessionId, (first, sessionId) ∈ state.answered →
    (second, sessionId) ∈ state.answered → first = second
  pending : ∀ scope selection, state.selecting scope = some selection →
    selection.automatic = false → (state.latest scope).isSome = true →
      selection.binding.isSome = true

theorem settled_initial (sessions : SessionReadings) : (initial sessions).Settled where
  unbound _ _ := rfl
  bound _ _ none := by cases none
  apart _ _ _ none := by cases none
  owned _ _ _ none := by cases none
  exclusive _ _ _ none := by cases none
  pending _ _ none := by cases none

namespace Settled

variable {state : DefaultsState}

variable {scope : ClientScope}

/-- A binding of a scope is the one of the session last established for it. -/
theorem latest_of_bound (settled : state.Settled) {binding : DefaultBinding}
    (found : state.bindings.get? scope = some binding) :
    ∃ sessionId, state.latest scope = some sessionId ∧ binding.isCanonical scope = true ∧
      binding.sessionId = some sessionId := by
  cases latest : state.latest scope with
  | none =>
    rw [settled.unbound scope latest] at found
    cases found
  | some sessionId =>
    obtain ⟨there, bound, canonical, same⟩ := settled.bound scope sessionId latest
    cases found.symm.trans bound
    exact ⟨sessionId, rfl, canonical, same⟩

variable {sessionId : Text}

section

variable (settled : state.Settled)
include settled

theorem unclaimed (latest : state.latest scope = some sessionId) :
    claimedByOtherClient state.bindings scope sessionId = false := by
  refine Bool.eq_false_iff.mpr fun claimed => ?_
  obtain ⟨other, binding, found, named, client, carried, foreign⟩ :=
    claimedByOtherClient_eq_true claimed
  obtain ⟨last, theirs, canonical, same⟩ := settled.latest_of_bound found
  cases named.symm.trans same
  simp only [DefaultBinding.isCanonical, Bool.and_eq_true, decide_eq_true_eq] at canonical
  cases carried.symm.trans canonical.1.2
  exact foreign (settled.apart other scope sessionId theirs latest)

/-- The binding of the session last established is the default that selections go by. -/
theorem isDefault (latest : state.latest scope = some sessionId) (stated : sessionId ≠ []) :
    ∃ binding, IsDefault state.bindings scope binding sessionId := by
  obtain ⟨binding, found, canonical, named⟩ := settled.bound scope sessionId latest
  refine ⟨binding, ?_, ?_⟩
  · rw [effectiveBinding, found]
    exact filter_eq_some_iff.mpr ⟨rfl, canonical⟩
  · rw [named, stated?_some stated]

/-- An automatic selection returns the session last established for the scope, or none. -/
theorem latest_of_returned {request : SelectRequest} (automatic : request.isAutomatic = true)
    (returned : stated? (selectDefault chatUrlOf state.bindings state.sessions scope
      request).sessionId = some sessionId) : state.latest scope = some sessionId := by
  obtain ⟨binding, found, named⟩ := selectDefault_sessionId chatUrlOf automatic returned
  obtain ⟨last, latest, -, same⟩ := settled.latest_of_bound found
  cases named.symm.trans same
  exact latest

/-! ### What the operations keep -/

/-- A session that is its client's own is established under the identity of the scope. -/
theorem establish {binding : DefaultBinding} (canonical : binding.isCanonical scope = true)
    (named : binding.sessionId = some sessionId) (own : state.isOwn scope sessionId)
    (free : state.selecting scope = none) :
    (state.establish scope binding sessionId).Settled where
  unbound other none := by
    have different : other ≠ scope := by
      rintro rfl
      simp [DefaultsState.establish] at none
    simp only [DefaultsState.establish, update_of_ne different] at none
    exact (get?_set_of_ne _ different _).trans (settled.unbound other none)
  bound other last latest := by
    by_cases same : other = scope
    · subst same
      simp only [DefaultsState.establish, update_self, Option.some.injEq] at latest
      exact ⟨binding, get?_set_self _ _ _, canonical, latest ▸ named⟩
    · simp only [DefaultsState.establish, update_of_ne same] at latest
      obtain ⟨there, found, rest⟩ := settled.bound other last latest
      exact ⟨there, (get?_set_of_ne _ same _).trans found, rest⟩
  apart first second last one two := by
    have foreign : ∀ other, state.latest other = some sessionId → other.client = scope.client := by
      intro other theirs
      by_contra different
      exact own.1 ⟨other, different, theirs⟩
    simp only [DefaultsState.establish, update_apply] at one two
    split at one
    next here =>
      cases one
      split at two
      next there => rw [here, there]
      next => rw [here, foreign second two]
    next =>
      split at two
      next there =>
        cases two
        rw [there, foreign first one]
      next => exact settled.apart first second last one two
  owned other client last latest answered := by
    simp only [DefaultsState.establish, update_apply] at latest
    split at latest
    next here =>
      cases latest
      rw [here]
      exact own.2 client answered
    next => exact settled.owned other client last latest answered
  exclusive := settled.exclusive
  pending other selection selecting asked established := by
    have different : other ≠ scope := by
      rintro rfl
      cases free.symm.trans selecting
    simp only [DefaultsState.establish, update_of_ne different] at established
    exact settled.pending other selection selecting asked established

theorem release (scope : ClientScope) :
    DefaultsState.Settled
      { state with selecting := Function.update state.selecting scope none } where
  unbound := settled.unbound
  bound := settled.bound
  apart := settled.apart
  owned := settled.owned
  exclusive := settled.exclusive
  pending other selection selecting := by
    by_cases same : other = scope
    · rw [same] at selecting
      cases (update_self _ _ _).symm.trans selecting
    · exact settled.pending other selection ((update_of_ne same _ _).symm.trans selecting)

theorem sessions (readings : SessionReadings) :
    DefaultsState.Settled { state with sessions := readings } :=
  ⟨settled.unbound, settled.bound, settled.apart, settled.owned, settled.exclusive, settled.pending⟩

theorem note (scope : ClientScope) (request : SelectRequest) :
    (state.note scope
      (selectDefault chatUrlOf state.bindings state.sessions scope request)).Settled := by
  have answered : ∀ client sessionId, (client, sessionId) ∈ (state.note scope
      (selectDefault chatUrlOf state.bindings state.sessions scope request)).answered →
        (client, sessionId) ∈ state.answered ∨
          client = scope.client ∧ state.latest scope = some sessionId := by
    intro client sessionId listed
    simp only [DefaultsState.note, selectDefault_automatic] at listed
    split at listed
    next automatic =>
      rcases List.mem_append.mp listed with new | old
      · obtain ⟨returned, returns, same⟩ := map_eq_some_iff.mp (mem_toList.mp new)
        cases same
        exact .inr ⟨rfl, settled.latest_of_returned automatic returns⟩
      · exact .inl old
    next => exact .inl listed
  refine ⟨settled.unbound, settled.bound, settled.apart, ?_, ?_, ?_⟩
  · intro other client sessionId latest listed
    rcases answered client sessionId listed with old | ⟨rfl, here⟩
    · exact settled.owned other client sessionId latest old
    · exact settled.apart scope other sessionId here latest
  · intro first second sessionId one two
    rcases answered first sessionId one with old | ⟨rfl, here⟩
    · rcases answered second sessionId two with older | ⟨rfl, here⟩
      · exact settled.exclusive first second sessionId old older
      · exact settled.owned scope first sessionId here old
    · rcases answered second sessionId two with old | ⟨rfl, -⟩
      · exact (settled.owned scope second sessionId here old).symm
      · rfl
  · intro other selection selecting asked established
    simp only [DefaultsState.note, update_apply] at selecting
    split at selecting
    next here =>
      cases selecting
      obtain ⟨sessionId, latest⟩ := isSome_iff_exists.mp established
      obtain ⟨binding, found, canonical, -⟩ := settled.bound other sessionId latest
      rw [selectDefault_automatic] at asked
      rw [selectDefault_binding chatUrlOf _ asked, ← here, effectiveBinding, found]
      simp [canonical]
    next => exact settled.pending other selection selecting asked established

/-- **The step lemma.** -/
theorem step (action : DefaultsAction) (unmixed : state.Unmixed action) :
    (state.step chatUrlOf action).Settled := by
  cases action with
  | select request =>
    simp only [DefaultsState.step]
    split
    · exact settled
    next scope _ =>
      split
      · exact settled
      · exact settled.note scope request
  | commit scope sessionId =>
    simp only [DefaultsState.step]
    split
    · exact settled
    next selection selecting =>
      have released := settled.release scope
      cases written : selection.commit scope sessionId with
      | none => exact released
      | some binding =>
        obtain ⟨writes, canonical, named⟩ := Selection.commit_eq_some written
        have own : state.isOwn scope sessionId := unmixed selection selecting writes
        exact released.establish canonical named own (update_self _ _ _)
  | giveUp scope => exact settled.release scope
  | remember request =>
    simp only [DefaultsState.step]
    split
    · exact settled
    next free =>
      have free : state.selecting request.scope = none := by simpa using free
      cases written : Session.remember chatUrlOf state.bindings state.sessions request with
      | none => exact settled
      | some binding =>
        obtain ⟨follows, url, rfl⟩ := remember_eq_some chatUrlOf written
        obtain ⟨bound, own⟩ := unmixed (by rw [free]; rfl) follows
        obtain ⟨there, found⟩ := isSome_iff_exists.mp bound
        obtain ⟨-, -, canonical, -⟩ := settled.latest_of_bound found
        rw [found, getD_some]
        exact settled.establish canonical rfl own free
  | redirect request => exact settled
  | replace request call =>
    simp only [DefaultsState.step]
    split
    · exact settled
    next free =>
      have free : (state.selecting request.scope).isNone = true := by simpa using free
      simp only [replaceFailedDefault_eq_none chatUrlOf state.sessions (unmixed free)]
      split
      · exact settled.sessions _
      · exact settled
  | sessions readings => exact settled.sessions readings

/-! ### What it gives -/

theorem implicitSession_congr {other : DefaultsState} (also : other.Settled)
    (bindings : state.bindings.get? scope = other.bindings.get? scope)
    (sessions : state.sessions = other.sessions) :
    state.implicitSession chatUrlOf scope = other.implicitSession chatUrlOf scope := by
  unfold implicitSession
  rw [sessions]
  refine congrArg Selection.sessionId (selectDefault_congr chatUrlOf _ _ bindings ?_)
  intro binding sessionId default
  obtain ⟨found, named, -⟩ := default.sessionId
  obtain ⟨last, latest, -, same⟩ := settled.latest_of_bound found
  obtain ⟨there, theirs, -, equal⟩ := also.latest_of_bound (bindings.symm.trans found)
  cases named.symm.trans same
  cases named.symm.trans equal
  rw [settled.unclaimed latest, also.unclaimed theirs]

theorem keptApart : state.KeptApart chatUrlOf where
  returned scope sessionId latest stated active _ := by
    obtain ⟨binding, default⟩ := settled.isDefault latest stated
    exact default.select_of_active chatUrlOf rfl (settled.unclaimed latest) active
  explicitKeeps scope selection sessionId selecting asked established := by
    have kept := settled.pending scope selection selecting asked established
    have unwritten : selection.commit scope sessionId = none := by
      refine if_neg ?_
      rw [asked, Bool.or_false, isNone_iff_eq_none]
      rintro none
      rw [none] at kept
      cases kept
    simp only [DefaultsState.step, selecting, unwritten]
  othersKeep scope selection sessionId selecting asked unmixed other different := by
    have elsewhere : other ≠ scope := fun same => different (congrArg ClientScope.client same)
    refine implicitSession_congr (settled.step (.commit scope sessionId) unmixed) settled ?_ ?_
    · simp only [DefaultsState.step, selecting]
      split
      · exact get?_set_of_ne _ elsewhere _
      · rfl
    · simp only [DefaultsState.step, selecting]
      split <;> rfl
  exclusive := settled.exclusive

end

end Settled

/-! ## Other scopes -/

def scopeOf : DefaultsAction → Option ClientScope
  | .select request => request.scope?
  | .commit scope _ => some scope
  | .giveUp scope => some scope
  | .remember request => some request.scope
  | .redirect request => some request.scope
  | .replace request _ => some request.scope
  | .sessions _ => none

theorem step_latest (state : DefaultsState) {action : DefaultsAction} {other : ClientScope}
    (elsewhere : scopeOf action ≠ some other) :
    (state.step chatUrlOf action).latest other = state.latest other := by
  have establish : ∀ (changed : DefaultsState) (scope : ClientScope) (binding : DefaultBinding)
      (sessionId : Text), some scope ≠ some other →
        (changed.establish scope binding sessionId).latest other = changed.latest other :=
    fun changed scope binding sessionId different =>
      update_of_ne (fun same => different (congrArg some same.symm)) _ _
  cases action with
  | select request =>
    simp only [DefaultsState.step]
    split
    · rfl
    · split <;> rfl
  | commit | remember =>
    simp only [DefaultsState.step]
    split
    · rfl
    · split
      · exact establish _ _ _ _ elsewhere
      · rfl
  | giveUp scope => rfl
  | redirect request => rfl
  | replace request call =>
    simp only [DefaultsState.step]
    split
    · rfl
    split
    · rw [establish _ _ _ _ elsewhere]
      split <;> rfl
    · split <;> rfl
  | sessions readings => rfl

theorem exec_latest (state : DefaultsState) {actions : List DefaultsAction} {other : ClientScope}
    (elsewhere : ∀ action ∈ actions, scopeOf action ≠ some other) :
    (exec (DefaultsState.step chatUrlOf) state actions).latest other = state.latest other := by
  have run : Admissible (DefaultsState.step chatUrlOf)
      (fun _ action => scopeOf action ≠ some other) state actions := admissible_of_mem elsewhere
      state
  have each : ∀ (before : DefaultsState) (action : DefaultsAction),
      before.latest other = state.latest other → scopeOf action ≠ some other →
        (before.step chatUrlOf action).latest other = state.latest other :=
    fun before action kept different => (before.step_latest different).trans kept
  exact run.invariant each rfl

/-! ## Whole runs -/

/-- **Defaults are kept apart** in every run that mixes no sessions and writes no replacement. -/
theorem defaults_kept_apart (chatUrlOf : Fields → Option Text) (sessions : SessionReadings)
    (actions : List DefaultsAction)
    (run : Admissible (DefaultsState.step chatUrlOf) DefaultsState.Unmixed (initial sessions)
      actions) :
    (exec (DefaultsState.step chatUrlOf) (initial sessions) actions).KeptApart chatUrlOf :=
  (run.invariant (fun _ action settled unmixed => settled.step action unmixed)
    (settled_initial sessions)).keptApart

/-! A client has a default, then a replacement of it, and selects explicitly. -/

section Replaced

private def sampleScope : ClientScope where
  client := "web".toList
  project := "/work/shop".toList
  agent := "coder".toList
  surface := "gpt-auto".toList

private def sampleSessions : SessionReadings :=
  fun _ _ => .found (some "active".toList) ∅

private def sampleRequest (sessionId : Text) : DefaultRequest where
  scope := sampleScope
  automatic := true
  sessionId
  continuationSessionId := none
  metadata := ∅

private def deskScope : ClientScope := { sampleScope with client := "desk".toList }

/-- Two clients select implicitly, and their requests are admitted with new sessions.  Then the
first one selects the session of the other explicitly. -/
private def firstActions : List DefaultsAction :=
  [.select (implicitRequest sampleScope), .commit sampleScope "ses_1".toList,
    .select (implicitRequest deskScope), .commit deskScope "ses_2".toList,
    .select { implicitRequest sampleScope with sessionId := some "ses_2".toList },
    .commit sampleScope "ses_2".toList]

/-- A session is a client's own where no client has it as its default yet. -/
private theorem isOwn_of_new {scope : ClientScope} {sessionId : Text}
    {actions : List DefaultsAction}
    (scopes : ∀ action ∈ actions, scopeOf action = some sampleScope ∨ scopeOf action = some scope)
    (first : (exec (DefaultsState.step fun _ => none) (initial sampleSessions) actions).latest
      sampleScope ≠ some sessionId)
    (answered : (exec (DefaultsState.step fun _ => none) (initial sampleSessions)
      actions).answered = []) :
    (exec (DefaultsState.step fun _ => none) (initial sampleSessions) actions).isOwn scope
      sessionId := by
  refine ⟨?_, fun client listed => ?_⟩
  · rintro ⟨other, different, latest⟩
    by_cases same : other = sampleScope
    · exact first (same ▸ latest)
    rw [exec_latest] at latest
    · cases latest
    · intro action listed found
      rcases scopes action listed with here | here
      · exact same (Option.some.inj (found.symm.trans here))
      · exact different (congrArg ClientScope.client (Option.some.inj (found.symm.trans here)))
  · rw [answered] at listed
    cases listed

theorem defaults_kept_apart_first :
    (exec (DefaultsState.step fun _ => none) (initial sampleSessions) firstActions).KeptApart
      fun _ => none := by
  refine defaults_kept_apart _ _ _ ⟨trivial, ?_, trivial, ?_, trivial, ?_, trivial⟩
  · intro selection _ _
    exact @isOwn_of_new _ _ (firstActions.take 1) (by decide +kernel) (by decide +kernel)
      (by decide +kernel)
  · intro selection _ _
    exact @isOwn_of_new _ _ (firstActions.take 3) (by decide +kernel) (by decide +kernel)
      (by decide +kernel)
  · intro selection selecting writes
    have kept : ((exec (DefaultsState.step fun _ => none) (initial sampleSessions)
        (firstActions.take 5)).selecting sampleScope).all (fun selection =>
          !(selection.binding.isNone || selection.automatic)) = true := by decide +kernel
    rw [show (exec (DefaultsState.step fun _ => none) (initial sampleSessions)
      (firstActions.take 5)).selecting sampleScope = some selection from selecting] at kept
    rw [Option.all_some, writes] at kept
    cases kept

private def replacedActions : List DefaultsAction :=
  [.select (implicitRequest sampleScope), .commit sampleScope "ses_1".toList,
    .replace (sampleRequest "ses_1".toList)
      { presubmitFailure := false
        recoverUrl := true
        targetId := "ses_2".toList
        attemptAppended := true
        attached := true }]

/-- **A replacement is not returned.** -/
theorem replacement_is_lost :
    ¬ ∀ (chatUrlOf : Fields → Option Text) (sessions : SessionReadings)
      (actions : List DefaultsAction),
      (exec (DefaultsState.step chatUrlOf) (initial sessions) actions).KeptApart chatUrlOf := by
  intro claimed
  have kept := (claimed (fun _ => none) sampleSessions replacedActions).returned sampleScope
    "ses_2".toList (by decide +kernel) (by decide)
  have lost : (exec (DefaultsState.step fun _ => none) (initial sampleSessions)
      replacedActions).implicitSession (fun _ => none) sampleScope = none := by decide +kernel
  have alone : ¬ (exec (DefaultsState.step fun _ => none) (initial sampleSessions)
      replacedActions).isForeign sampleScope "ses_2".toList := by
    rintro ⟨other, different, latest⟩
    have elsewhere : ∀ action ∈ replacedActions, scopeOf action ≠ some other := by
      have all : ∀ action ∈ replacedActions, scopeOf action = some sampleScope := by decide +kernel
      intro action listed same
      exact different (congrArg ClientScope.client
        (Option.some.inj ((all action listed).symm.trans same)).symm)
    rw [exec_latest _ elsewhere] at latest
    cases latest
  exact absurd (lost.symm.trans (kept (by decide +kernel) alone)) nofun

end Replaced

end DefaultsState

end Audiagentic.Session
