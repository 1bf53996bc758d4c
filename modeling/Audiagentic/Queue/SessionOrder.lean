import Audiagentic.Foundations.Dictionaries
import Audiagentic.Foundations.Runs

/-!
# The dispatch order of a session

`SessionDispatchOrder` keeps one queue of request ids for each key, a project and a session.
Its queues stand for the registered requests in the order of their registration
(`Represents`), so requests under one key are dispatched one at a time and in order.

The queue manager registers a request under the resolved path of its project when it is
admitted, and under the identity of the project when it is enqueued or recovered.
-/

namespace Audiagentic.Queue

open Foundations List Option Dict

/-! ## The order -/

structure SessionDispatchOrder where
  queues : Dict (String × String) (List String)
  keys : Dict String (String × String)

namespace SessionDispatchOrder

/-- `__init__`. -/
def empty : SessionDispatchOrder := ⟨∅, ∅⟩

/-- `register`.  A request that is registered keeps its position. -/
def register (order : SessionDispatchOrder) (requestId project : String)
    (session : Option String) : SessionDispatchOrder :=
  match session with
  | none => order
  | some session =>
    if (order.keys.lookup requestId).isSome then order
    else
      { keys := order.keys.insert requestId (project, session)
        queues := order.queues.insert (project, session)
          (order.queues.bucket (project, session) ++ [requestId]) }

def isHead (order : SessionDispatchOrder) (requestId : String) (required : Bool) : Bool :=
  match order.keys.lookup requestId with
  | none => !required
  | some key => decide ((order.queues.bucket key).head? = some requestId)

def complete (order : SessionDispatchOrder) (requestId : String) : SessionDispatchOrder :=
  match order.keys.lookup requestId with
  | none => order
  | some key =>
    { keys := order.keys.erase requestId
      queues :=
        if (order.queues.bucket key).erase requestId = [] then order.queues.erase key
        else order.queues.insert key ((order.queues.bucket key).erase requestId) }

end SessionDispatchOrder

/-! ### The registered requests -/

/-- The two ways a request is registered. -/
inductive Entrance where
  /-- `reserve_session_admission`. -/
  | admission
  /-- `enqueue` and the two recovery entrances. -/
  | queue
deriving Repr

structure Registered where
  requestId : String
  root : String
  session : String
  entrance : Entrance
  key : String × String

def stillRegistered (live : List Registered) (requestId : String) : List Registered :=
  live.filter fun entry => entry.requestId ≠ requestId

/-- **The order stands for the registered requests**, in the order of registration. -/
structure SessionDispatchOrder.Represents (order : SessionDispatchOrder)
    (live : List Registered) : Prop where
  ids : (live.map Registered.requestId).Nodup
  keys : ∀ requestId, order.keys.lookup requestId =
    (live.find? fun entry => entry.requestId = requestId).map Registered.key
  queues : ∀ key, order.queues.bucket key =
    (live.filter fun entry => entry.key = key).map Registered.requestId
  tidy : Dict.Tidy order.queues

namespace SessionDispatchOrder

theorem represents_empty : empty.Represents [] where
  ids := nodup_nil
  keys := fun requestId => AList.lookup_empty requestId
  queues := fun key => bucket_empty key
  tidy := tidy_empty

variable {order : SessionDispatchOrder} {live : List Registered}

section

variable (represents : order.Represents live)
include represents

theorem Represents.registered_iff {requestId : String} :
    (order.keys.lookup requestId).isSome = true ↔ requestId ∈ live.map Registered.requestId := by
  rw [represents.keys, isSome_map, find?_isSome, List.mem_map]
  simp only [decide_eq_true_iff]

/-- **A registration is added at the end of its queue.** -/
theorem Represents.register {entry : Registered}
    (fresh : entry.requestId ∉ live.map Registered.requestId) {project session : String}
    (key : entry.key = (project, session)) :
    (order.register entry.requestId project (some session)).Represents (live ++ [entry]) := by
  have unregistered : ¬ (order.keys.lookup entry.requestId).isSome = true :=
    fun registered => fresh (represents.registered_iff.mp registered)
  simp only [SessionDispatchOrder.register, unregistered]
  constructor
  case ids =>
    exact nodup_map_snoc represents.ids fun other member same =>
      fresh (same ▸ List.mem_map_of_mem member)
  case keys =>
    intro requestId
    change (order.keys.insert _ _).lookup _ = _
    rw [lookup_insert_eq, find?_append]
    by_cases same : requestId = entry.requestId
    · have missing : live.find? (fun entry => entry.requestId = requestId) = none := by
        rw [find?_eq_none]
        intro other member equal
        refine fresh (List.mem_map.mpr ⟨other, member, ?_⟩)
        rw [← same]
        simpa using equal
      rw [if_pos same, missing, none_or, find?_cons_of_pos (by simpa using same.symm),
        map_some, key]
    · have other : [entry].find? (fun entry => entry.requestId = requestId) = none := by
        rw [find?_eq_none]
        intro found here
        rw [mem_singleton.mp here]
        simpa using fun equal => same equal.symm
      rw [if_neg same, other, or_none]
      exact represents.keys requestId
  case queues =>
    intro other
    change Dict.bucket (order.queues.insert _ _) other = _
    rw [bucket_insert, filter_append, map_append, ← represents.queues]
    by_cases same : other = (project, session)
    · rw [if_pos same, same, filter_cons_of_pos (by simpa using key), filter_nil, map_singleton]
    · have different : entry.key ≠ other := fun equal => same (equal.symm.trans key)
      rw [if_neg same, filter_cons_of_neg (by simpa using different), filter_nil,
        map_nil, append_nil]
  case tidy =>
    exact represents.tidy.insert _
      (append_ne_nil_of_right_ne_nil _ (cons_ne_nil _ _))

/-- **A completion removes the request from its queue.** -/
theorem Represents.complete (requestId : String) :
    (order.complete requestId).Represents (stillRegistered live requestId) := by
  have ids : ((stillRegistered live requestId).map Registered.requestId).Nodup :=
    represents.ids.sublist (filter_sublist.map _)
  have keysAfter : ∀ other, (if other = requestId then none else order.keys.lookup other) =
      ((stillRegistered live requestId).find? fun entry => entry.requestId = other).map
        Registered.key := by
    intro other
    rw [represents.keys, stillRegistered,
      find?_filter_key_ne Registered.requestId live requestId other]
    split <;> rfl
  cases found : live.find? (fun entry => entry.requestId = requestId) with
  | none =>
    have unknown : order.keys.lookup requestId = none := by
      rw [represents.keys, found]
      rfl
    have unchanged : stillRegistered live requestId = live := by
      rw [stillRegistered, filter_eq_self]
      intro entry member
      simpa using find?_eq_none.mp found entry member
    rw [unchanged]
    simpa only [SessionDispatchOrder.complete, unknown] using represents
  | some entry =>
    have member : entry ∈ live := mem_of_find?_eq_some found
    have named : entry.requestId = requestId := by simpa using find?_some found
    have known : order.keys.lookup requestId = some entry.key := by
      rw [represents.keys, found]
      rfl
    have ownQueue : (order.queues.bucket entry.key).erase requestId =
        ((stillRegistered live requestId).filter fun other => other.key = entry.key).map
          Registered.requestId := by
      have distinct : ((live.filter fun other => other.key = entry.key).map
          Registered.requestId).Nodup :=
        represents.ids.sublist (filter_sublist.map _)
      rw [represents.queues, distinct.erase_eq_filter, stillRegistered, filter_comm,
        List.filter_map]
      congr 1
      refine filter_congr fun other _ => ?_
      by_cases same : other.requestId = requestId
      · simp [same]
      · simp [same, bne_iff_ne.mpr same]
    have otherQueues : ∀ key, key ≠ entry.key → order.queues.bucket key =
        ((stillRegistered live requestId).filter fun other => other.key = key).map
          Registered.requestId := by
      intro key different
      rw [represents.queues, stillRegistered, filter_comm]
      congr 1
      refine (filter_eq_self.mpr fun other here => ?_).symm
      obtain ⟨here, hasKey⟩ := mem_filter.mp here
      have notThis : other.requestId ≠ requestId := by
        intro same
        have equal := inj_on_of_nodup_map represents.ids here member (same.trans named.symm)
        rw [equal] at hasKey
        exact different (of_decide_eq_true hasKey).symm
      simpa using notThis
    simp only [SessionDispatchOrder.complete, known]
    refine ⟨ids, ?_, ?_, ?_⟩
    · intro other
      change (order.keys.erase requestId).lookup other = _
      rw [lookup_erase_eq]
      exact keysAfter other
    · intro key
      by_cases last : (order.queues.bucket entry.key).erase requestId = []
      · simp only [last, if_true]
        rw [bucket_erase]
        split
        next same => rw [same, ← ownQueue, last]
        next different => exact otherQueues key different
      · simp only [last, if_false]
        rw [bucket_insert]
        split
        next same => rw [same, ownQueue]
        next different => exact otherQueues key different
    · dsimp only
      split
      · exact represents.tidy.erase _
      next left => exact represents.tidy.insert _ left

theorem Represents.isHead_iff {entry : Registered} (member : entry ∈ live) :
    order.isHead entry.requestId true = true ↔
      (live.find? fun other => other.key = entry.key) = some entry := by
  have known : order.keys.lookup entry.requestId = some entry.key := by
    rw [represents.keys, find?_eq_some_of_nodup represents.ids member]
    rfl
  simp only [isHead, known, decide_eq_true_iff, represents.queues]
  rw [head?_map, ← head?_filter]
  cases first : (live.filter fun other => other.key = entry.key).head? with
  | none => simp
  | some head =>
    have headMember := mem_of_mem_head? first
    rw [map_some, some_inj, some_inj]
    constructor
    · intro same
      exact inj_on_of_nodup_map represents.ids (mem_filter.mp headMember).1 member same
    · rintro rfl
      rfl

end

/-- A request with an earlier one under its key is not the first under that key. -/
theorem find?_ne_later (ids : (live.map Registered.requestId).Nodup) {earlier later : Registered}
    (inOrder : List.Sublist [earlier, later] live) (sameKey : earlier.key = later.key) :
    (live.find? fun entry => entry.key = later.key) ≠ some later := by
  induction live with
  | nil => cases inOrder
  | cons entry live ih =>
    have tail : (live.map Registered.requestId).Nodup := (nodup_cons.mp ids).2
    have notAgain : entry ∉ live := fun member =>
      (nodup_cons.mp ids).1 (List.mem_map_of_mem member)
    rw [find?_cons]
    cases inOrder with
    | cons _ inTail =>
      split
      · intro same
        rw [Option.some.inj same] at notAgain
        exact notAgain (inTail.subset (mem_cons_of_mem _ mem_cons_self))
      · exact ih tail inTail
    | cons_cons _ inTail =>
      rw [decide_eq_true sameKey]
      intro same
      rw [Option.some.inj same] at notAgain
      exact notAgain (inTail.subset mem_cons_self)

end SessionDispatchOrder

/-! ## The queue manager -/

/-- The two names of a project root: `str(project_root.resolve())`, and the first part of
`project_id(project_root)`. -/
structure ProjectNames where
  resolve : String → String
  projectId : String → String

structure SessionRequest where
  requestId : String
  root : String
  /-- `provider-transport-kind` is `provider-session`. -/
  providerSession : Bool
  sessionId : Option String

/-- `str(record.get("session-id")) if record.get("session-id") else None`. -/
def SessionRequest.sessionKey (request : SessionRequest) : Option String :=
  request.sessionId.filter fun session => session ≠ ""

def ProjectNames.project (names : ProjectNames) (root : String) : Entrance → String
  | .admission => names.resolve root
  | .queue => names.projectId root

/-- The calls of the queue manager that touch the order. -/
inductive SessionEvent where
  | reserveSessionAdmission (request : SessionRequest)
  /-- `enqueue`, with whether the queue of the profile is full. -/
  | enqueue (request : SessionRequest) (queueFull : Bool)
  /-- `enqueue_recovered_queued`, with whether the record is still to be inserted. -/
  | enqueueRecoveredQueued (request : SessionRequest) (insertable : Bool)
  | enqueueRecoveredRunning (request : SessionRequest)
  /-- `cancel`, with whether it made the record terminal. -/
  | cancel (requestId : String) (cancelled : Bool)
  | complete (requestId : String)

def SessionEvent.registers : SessionEvent → Option (SessionRequest × Entrance × String)
  | .reserveSessionAdmission request =>
    if request.providerSession then
      request.sessionId.map fun session => (request, .admission, session)
    else none
  | .enqueue request queueFull =>
    if request.providerSession ∧ queueFull = false then
      request.sessionKey.map fun session => (request, .queue, session)
    else none
  | .enqueueRecoveredQueued request insertable =>
    if request.providerSession ∧ insertable = true then
      request.sessionKey.map fun session => (request, .queue, session)
    else none
  | .enqueueRecoveredRunning request =>
    if request.providerSession then
      request.sessionKey.map fun session => (request, .queue, session)
    else none
  | .cancel .. | .complete _ => none

def SessionEvent.completes : SessionEvent → Option String
  | .cancel requestId cancelled => if cancelled then some requestId else none
  | .complete requestId => some requestId
  | _ => none

/-- The order with the requests that are registered in it. -/
structure SessionRun where
  order : SessionDispatchOrder
  live : List Registered

namespace SessionRun

def init : SessionRun := ⟨.empty, []⟩

def entry (names : ProjectNames) (request : SessionRequest) (entrance : Entrance)
    (session : String) : Registered :=
  ⟨request.requestId, request.root, session, entrance,
    (names.project request.root entrance, session)⟩

def step (names : ProjectNames) (run : SessionRun) (event : SessionEvent) : SessionRun :=
  match event.registers with
  | some (request, entrance, session) =>
    { order := run.order.register request.requestId (names.project request.root entrance)
        (some session)
      live := if request.requestId ∈ run.live.map Registered.requestId then run.live
        else run.live ++ [entry names request entrance session] }
  | none =>
    match event.completes with
    | some requestId => ⟨run.order.complete requestId, stillRegistered run.live requestId⟩
    | none => run

/-- The call does not mix entrances: a new registration meets, among the registered requests of
its root and session, only ones of its own entrance, or the two names of the root agree. -/
def allows (names : ProjectNames) (run : SessionRun) (event : SessionEvent) : Prop :=
  ∀ request entrance session, event.registers = some (request, entrance, session) →
    request.requestId ∉ run.live.map Registered.requestId →
    ∀ other ∈ run.live, other.root = request.root → other.session = session →
      other.entrance = entrance ∨ names.resolve request.root = names.projectId request.root

structure Sound (names : ProjectNames) (run : SessionRun) : Prop where
  represents : run.order.Represents run.live
  keyed : ∀ entry ∈ run.live, entry.key = (names.project entry.root entry.entrance, entry.session)
  agree : ∀ first ∈ run.live, ∀ second ∈ run.live, first.root = second.root →
    first.session = second.session → first.key = second.key

variable {names : ProjectNames} {run : SessionRun}

theorem sound_init : init.Sound names where
  represents := SessionDispatchOrder.represents_empty
  keyed := by
    intro entry member
    cases member
  agree := by
    intro first member
    cases member

theorem project_eq {root : String} {first second : Entrance}
    (alike : first = second ∨ names.resolve root = names.projectId root) :
    names.project root first = names.project root second := by
  rcases alike with rfl | same
  · rfl
  · cases first <;> cases second <;> simp [ProjectNames.project, same]

theorem Sound.step (sound : run.Sound names) {event : SessionEvent}
    (allowed : run.allows names event) : (run.step names event).Sound names := by
  rw [SessionRun.step]
  cases registers : event.registers with
  | some registration =>
    obtain ⟨request, entrance, session⟩ := registration
    by_cases known : request.requestId ∈ run.live.map Registered.requestId
    · have ignored : run.order.register request.requestId
          (names.project request.root entrance) (some session) = run.order := by
        simp only [SessionDispatchOrder.register, sound.represents.registered_iff.mpr known,
          if_true]
      simp only [ignored, known, if_true]
      exact sound
    · simp only [known, if_false]
      have own : ∀ other ∈ run.live, other.root = request.root → other.session = session →
          other.key = (entry names request entrance session).key := by
        intro other member sameRoot sameSession
        have alike := allowed request entrance session registers known other member sameRoot
          sameSession
        rw [sound.keyed other member, sameRoot, sameSession, project_eq alike]
        rfl
      constructor
      case represents =>
        exact @SessionDispatchOrder.Represents.register run.order run.live sound.represents
          (entry names request entrance session) known _ _ rfl
      case keyed =>
        exact forall_mem_snoc sound.keyed rfl
      case agree =>
        refine forall_mem_snoc ?_ (forall_mem_snoc ?_ fun _ _ => rfl)
        · exact fun first member => forall_mem_snoc (sound.agree first member) (own first member)
        · intro second member sameRoot sameSession
          exact (own second member sameRoot.symm sameSession.symm).symm
  | none =>
    cases completes : event.completes with
    | none => exact sound
    | some requestId =>
      have kept : ∀ entry ∈ stillRegistered run.live requestId, entry ∈ run.live :=
        fun entry member => (mem_filter.mp member).1
      exact ⟨sound.represents.complete requestId,
        fun entry member => sound.keyed entry (kept entry member),
        fun first firstMember second secondMember =>
          sound.agree first (kept first firstMember) second (kept second secondMember)⟩

end SessionRun

/-- **One FIFO per durable session**, in every run that does not mix the two entrances for one
session of a project root with two names: among the registered requests of one root and one
session, only the first registered is a head, so no two are heads at once and each becomes a
head when those registered before it are gone. -/
theorem session_fifo (names : ProjectNames) (events : List SessionEvent)
    (admissible : Admissible (SessionRun.step names) (SessionRun.allows names) .init events) :
    let run := exec (SessionRun.step names) .init events
    (run.live.Pairwise fun earlier later => earlier.root = later.root →
      earlier.session = later.session → run.order.isHead later.requestId true = false) ∧
    (∀ first ∈ run.live, ∀ second ∈ run.live, first.root = second.root →
      first.session = second.session → run.order.isHead first.requestId true = true →
      run.order.isHead second.requestId true = true → first = second) := by
  intro run
  have sound : run.Sound names :=
    admissible.invariant (fun _ _ holds allowed => holds.step allowed) SessionRun.sound_init
  constructor
  · -- The earlier entry has the same key, so it, or one before it, is the head.
    rw [pairwise_iff_forall_sublist]
    intro earlier later order sameRoot sameSession
    have earlierMember : earlier ∈ run.live := order.subset mem_cons_self
    have laterMember : later ∈ run.live := order.subset (mem_cons_of_mem _ mem_cons_self)
    have sameKey := sound.agree earlier earlierMember later laterMember sameRoot sameSession
    rw [← Bool.not_eq_true, sound.represents.isHead_iff laterMember]
    exact SessionDispatchOrder.find?_ne_later sound.represents.ids order sameKey
  · intro first firstMember second secondMember sameRoot sameSession firstHead secondHead
    have sameKey := sound.agree first firstMember second secondMember sameRoot sameSession
    rw [sound.represents.isHead_iff firstMember, sameKey] at firstHead
    rw [sound.represents.isHead_iff secondMember] at secondHead
    exact Option.some.inj (firstHead.symm.trans secondHead)

/-- A project whose path is not its identity. -/
def sampleNames : ProjectNames := ⟨fun _ => "/srv/shop", fun _ => "shop"⟩

def sampleRequest (requestId : String) : SessionRequest :=
  ⟨requestId, "/srv/shop", true, some "chat"⟩

/-- Two admissions of one session, and the end of the first: the second becomes the head. -/
theorem admissions_take_turns :
    let first := [SessionEvent.reserveSessionAdmission (sampleRequest "a"),
      .reserveSessionAdmission (sampleRequest "b")]
    let run := exec (SessionRun.step sampleNames) .init first
    (run.order.isHead "a" true = true ∧ run.order.isHead "b" true = false ∧
      (run.order.complete "a").isHead "b" true = true) ∧
    ∀ one ∈ run.live, ∀ other ∈ run.live, one.root = other.root → one.session = other.session →
      run.order.isHead one.requestId true = true → run.order.isHead other.requestId true = true →
      one = other := by
  intro first run
  have unmixed : Admissible (SessionRun.step sampleNames) (SessionRun.allows sampleNames) .init
      first := by
    refine ⟨?_, ?_, trivial⟩
    · intro request entrance session _ _ other member
      cases member
    rintro request entrance session registers _ other member - -
    cases registers
    rw [mem_singleton.mp member]
    exact .inl rfl
  exact ⟨by decide, (session_fifo sampleNames first unmixed).2⟩

/-- **A recovered request and an admitted one of the same session are both heads.** -/
theorem mixed_entrances_make_two_heads :
    let run := exec (SessionRun.step sampleNames) .init
      [.enqueueRecoveredQueued (sampleRequest "a") true,
        .reserveSessionAdmission (sampleRequest "b")]
    (∃ first ∈ run.live, ∃ second ∈ run.live, first.requestId = "a" ∧ second.requestId = "b" ∧
      first.root = second.root ∧ first.session = second.session) ∧
    run.order.isHead "a" true = true ∧ run.order.isHead "b" true = true := by
  decide

end Audiagentic.Queue
