import Audiagentic.Planning.Outbox

/-!
# Planning events over whole runs

An event leaves the outbox only through a drain whose publication of it succeeded, so none is
lost.  The order is another matter: a drain goes by the names of the files, which are random, so
a backlog of two events of one item can be published the later one first.
-/

namespace Audiagentic.Planning

open Foundations List Function

variable {outbox : Outbox} {event : PlanningEvent}

theorem lookup_enqueuePlanningEvent {next : Outbox}
    (enqueued : enqueuePlanningEvent outbox event = .ok next) (name : String) :
    next.lookup name = if name = event.eventId then some event.record else outbox.lookup name := by
  unfold enqueuePlanningEvent at enqueued
  split at enqueued
  · cases enqueued
    exact Dict.lookup_insert_eq outbox event.eventId name event.record
  next existing found =>
    obtain ⟨same, unchanged⟩ := refuse_bind_eq_ok.mp enqueued
    cases unchanged
    split
    · next here => rw [here, found, not_not.mp same]
    · rfl

variable {name : String}

theorem Outbox.mem_listing :
    name ∈ outbox.listing ↔ ∃ record, outbox.lookup name = some record := by
  rw [Outbox.listing, mem_insertionSort, ← AList.mem_keys, ← AList.lookup_isSome,
    Option.isSome_iff_exists]

theorem outboxFileName_injective :
    Function.Injective outboxFileName := by
  intro first second same
  have equal : first.toList ++ ".json".toList = second.toList ++ ".json".toList := by
    simpa only [outboxFileName, String.toList_append] using same
  exact String.toList_inj.mp (append_cancel_right equal)

instance : IsTrans String OutboxFileLe where
  trans _ _ _ := le_trans

instance : Std.Total OutboxFileLe where
  total _ _ := le_total _ _

theorem Outbox.pairwise_listing (outbox : Outbox) :
    outbox.listing.Pairwise (outboxFileName · < outboxFileName ·) := by
  have sorted : outbox.listing.Pairwise OutboxFileLe := pairwise_insertionSort _ _
  have distinct : outbox.listing.Nodup :=
    (perm_insertionSort _ _).nodup_iff.mpr outbox.keys_nodup
  refine (sorted.and distinct).imp ?_
  rintro first second ⟨le, different⟩
  exact lt_of_le_of_ne le fun same => different (outboxFileName_injective same)

namespace OutboxSystem

variable {Process : Type} [DecidableEq Process]

/-! ## What a step can do -/

inductive Took (system : OutboxSystem Process) :
    OutboxAction Process → OutboxSystem Process → Prop
  | nothing (action : OutboxAction Process) : Took system action system
  | prepare {process : Process} {eventType : String} {payload : List (String × String)}
      {subjectKind subjectId eventId : String} (free : system.lock = none) :
      Took system (.prepare process eventType payload subjectKind subjectId eventId)
        ({ system with
            journal := some (buildPlanningEvent eventType payload subjectKind subjectId eventId)
            lock := some process }.move process (.journaling true))
  | reconcile {process : Process} (free : system.lock = none) :
      Took system (.reconcile process)
        ({ system with lock := some process }.move process (.journaling false))
  | persist {process : Process} {own : Bool} {event : PlanningEvent} {outbox : Outbox}
      (at_ : system.stage process = .journaling own) (journaled : system.journal = some event)
      (enqueued : enqueuePlanningEvent system.outbox event = .ok outbox) :
      Took system (.persist process)
        ((({ system with outbox := outbox } : OutboxSystem Process).commit event).move process
          (.persisted own))
  | retire {process : Process} {own : Bool} {event : PlanningEvent}
      (at_ : system.stage process = .persisted own) (journaled : system.journal = some event) :
      Took system (.retire process)
        (({ system with journal := none }.unlock process).move process
          (if own then .announcing event else .idle))
  | announce {process : Process} {event : PlanningEvent} {outbox : Outbox}
      (at_ : system.stage process = .announcing event)
      (enqueued : enqueuePlanningEvent system.outbox event = .ok outbox) :
      Took system (.announce process)
        ({ system with outbox := outbox }.move process (.draining outbox.listing))
  | drain {process : Process} :
      Took system (.drain process) (system.move process (.draining system.outbox.listing))
  | take {process : Process} {name : String} {names : List String} {record : OutboxRecord}
      (at_ : system.stage process = .draining (name :: names))
      (found : system.outbox.lookup name = some record) :
      Took system (.take process)
        ((system.observe (.started record)).move process (.publishing name record names))
  | deliver {process : Process} {delivery : Delivery} {name : String} {names : List String}
      {record : OutboxRecord} (at_ : system.stage process = .publishing name record names) :
      Took system (.deliver process delivery)
        ((system.observe (.succeeded record)).move process (.published name record names))
  | acknowledge {process : Process} {name : String} {names : List String}
      {record : OutboxRecord} (at_ : system.stage process = .published name record names) :
      Took system (.acknowledge process)
        (({ system with outbox := system.outbox.erase name }.observe
          (.acknowledged record)).move process (.draining names))
  | stop {action : OutboxAction Process} (process : Process) :
      Took system action (system.move process .idle)
  | leave {action : OutboxAction Process} (process : Process) :
      Took system action ((system.unlock process).move process .idle)

theorem took_step (system : OutboxSystem Process) (action : OutboxAction Process) :
    Took system action (system.step action) := by
  cases action with
  | prepare process eventType payload subjectKind subjectId eventId =>
    dsimp only [step]
    split
    · next free clear => exact .prepare free
    · exact .nothing _
  | reconcile process =>
    dsimp only [step]
    split
    · next free left => exact .reconcile free
    · exact .nothing _
  | persist process =>
    dsimp only [step]
    split
    next own event at_ journaled =>
      split
      · next outbox enqueued => exact .persist at_ journaled enqueued
      · exact .leave process
    · exact .nothing _
  | retire process =>
    dsimp only [step]
    split
    · next own event at_ journaled => exact .retire at_ journaled
    · exact .nothing _
  | announce process =>
    dsimp only [step]
    split
    next event at_ =>
      split
      · next outbox enqueued => exact .announce at_ enqueued
      · exact .stop process
    · exact .nothing _
  | drain process =>
    dsimp only [step]
    split
    · exact .drain
    · exact .nothing _
  | take process =>
    dsimp only [step]
    split
    · exact .stop process
    next name names at_ =>
      split
      · exact .stop process
      · next record found => exact .take at_ found
    · exact .nothing _
  | deliver process delivery =>
    dsimp only [step]
    split
    next name record names at_ =>
      split
      · exact .deliver at_
      · exact .stop process
    · exact .nothing _
  | acknowledge process =>
    dsimp only [step]
    split
    · next name record names at_ => exact .acknowledge at_
    · exact .nothing _
  | crash process => exact .leave process

/-! ## No event is lost -/

/-- The step draws an id that no other event has (`uuid.uuid4`). -/
def DrawsFresh (system : OutboxSystem Process) : OutboxAction Process → Prop
  | .prepare _ _ _ _ _ eventId => ∀ event ∈ system.committed, event.eventId ≠ eventId
  | _ => True

instance DrawsFresh.decidable (system : OutboxSystem Process) :
    ∀ action, Decidable (system.DrawsFresh action)
  | .prepare _ _ _ _ _ eventId =>
    inferInstanceAs (Decidable (∀ event ∈ system.committed, event.eventId ≠ eventId))
  | .reconcile _ | .persist _ | .retire _ | .announce _ | .drain _ | .take _ | .deliver _ _
  | .acknowledge _ | .crash _ => .isTrue trivial

def Names (system : OutboxSystem Process) (names : List String) : Prop :=
  ∀ name ∈ names, ∃ event ∈ system.committed, event.eventId = name

def Records (system : OutboxSystem Process) (name : String) (record : OutboxRecord) : Prop :=
  ∃ event ∈ system.committed, event.eventId = name ∧ event.record = record

def Standing (system : OutboxSystem Process) : PublisherStage → Prop
  | .persisted _ => ∀ event, system.journal = some event → event ∈ system.committed
  | .announcing event => event ∈ system.committed
  | .draining names => system.Names names
  | .publishing name record names => system.Records name record ∧ system.Names names
  | .published name record names =>
    system.Records name record ∧ system.Names names ∧ .succeeded record ∈ system.notes
  | _ => True

def InJournal : PublisherStage → Prop
  | .journaling _ | .persisted _ => True
  | _ => False

/-- A file is unlinked after a publication of its content. -/
def Acknowledged (before : List DeliveryNote) : DeliveryNote → Prop
  | .acknowledged record => .succeeded record ∈ before
  | _ => True

/-- What is in the outbox, and why what is not there any more is gone. -/
structure Kept (system : OutboxSystem Process) : Prop where
  distinct : (system.committed.map (·.eventId)).Nodup
  fresh : ∀ event, system.journal = some event → event ∉ system.committed →
    ∀ other ∈ system.committed, other.eventId ≠ event.eventId
  locked : ∀ process, InJournal (system.stage process) → system.lock = some process
  standing : ∀ process, system.Standing (system.stage process)
  known : ∀ name record, system.outbox.lookup name = some record → system.Records name record
  started : ∀ record, .started record ∈ system.notes → ∃ name, system.Records name record
  conserved : ∀ event ∈ system.committed,
    system.outbox.lookup event.eventId = some event.record ∨
      .succeeded event.record ∈ system.notes
  acknowledged : Guarded Acknowledged system.notes

omit [DecidableEq Process] in
theorem Standing.mono {system next : OutboxSystem Process}
    (committed : system.committed ⊆ next.committed) (notes : system.notes ⊆ next.notes)
    {stage : PublisherStage} (journal : InJournal stage → next.journal = system.journal)
    (standing : system.Standing stage) : next.Standing stage := by
  have names : ∀ {names : List String}, system.Names names → next.Names names := by
    intro names known name member
    obtain ⟨event, inside, same⟩ := known name member
    exact ⟨event, committed inside, same⟩
  have records : ∀ {name : String} {record : OutboxRecord}, system.Records name record →
      next.Records name record := by
    rintro name record ⟨event, inside, same⟩
    exact ⟨event, committed inside, same⟩
  cases stage with
  | idle | journaling => trivial
  | persisted own =>
    intro event journaled
    rw [journal trivial] at journaled
    exact committed (standing event journaled)
  | announcing event => exact committed standing
  | draining remaining => exact names standing
  | publishing name record remaining => exact ⟨records standing.1, names standing.2⟩
  | published name record remaining =>
    exact ⟨records standing.1, names standing.2.1, notes standing.2.2⟩

variable {system : OutboxSystem Process}

variable {process : Process}

omit [DecidableEq Process] in
/-- Nobody else is in the journal with the holder of its lock, or while it is free. -/
theorem Kept.not_inJournal (holds : system.Kept) {other : Process}
    (held : system.lock = none ∨ system.lock = some process) (different : other ≠ process) :
    ¬ InJournal (system.stage other) := by
  intro inside
  rcases held with free | held
  · rw [holds.locked other inside] at free
    cases free
  · rw [holds.locked other inside] at held
    exact different (Option.some.inj held)

theorem Kept.standing_move (holds : system.Kept) (next : OutboxSystem Process)
    (process : Process) (stage : PublisherStage) (stages : next.stage = system.stage)
    (committed : system.committed ⊆ next.committed) (notes : system.notes ⊆ next.notes)
    (journal : ∀ other ≠ process, InJournal (system.stage other) → next.journal = system.journal)
    (here : next.Standing stage) (other : Process) :
    (next.move process stage).Standing ((next.move process stage).stage other) := by
  have there : (next.move process stage).stage other =
      if other = process then stage else system.stage other := by
    rw [← stages]
    exact update_apply _ _ _ _
  have same : next.Standing = (next.move process stage).Standing := rfl
  rw [there, ← same]
  by_cases moves : other = process
  · rw [if_pos moves]
    exact here
  · rw [if_neg moves]
    exact (holds.standing other).mono committed notes (journal other moves)

/-- A process that enters the journal finds it free, and one outside of it changes nothing. -/
theorem Kept.locked_move (holds : system.Kept) (next : OutboxSystem Process)
    (process : Process) (stage : PublisherStage) (stages : next.stage = system.stage)
    (lock : ∀ other ≠ process, system.lock = some other → next.lock = some other)
    (here : InJournal stage → next.lock = some process) (other : Process)
    (inside : InJournal ((next.move process stage).stage other)) :
    (next.move process stage).lock = some other := by
  have there : (next.move process stage).stage other =
      if other = process then stage else system.stage other := by
    rw [← stages]
    exact update_apply _ _ _ _
  rw [there] at inside
  by_cases moves : other = process
  · rw [if_pos moves] at inside
    rw [moves]
    exact here inside
  · rw [if_neg moves] at inside
    exact lock other moves (holds.locked other inside)

theorem Kept.relocate (holds : system.Kept) {next : OutboxSystem Process} {stage : PublisherStage}
    (stages : next.stage = system.stage) (outbox : next.outbox = system.outbox)
    (committed : next.committed = system.committed) (notes : next.notes = system.notes)
    (fresh : ∀ event, next.journal = some event → event ∉ system.committed →
      ∀ other ∈ system.committed, other.eventId ≠ event.eventId)
    (journal : ∀ other ≠ process, InJournal (system.stage other) → next.journal = system.journal)
    (lock : ∀ other ≠ process, system.lock = some other → next.lock = some other)
    (locks : InJournal stage → next.lock = some process) (here : next.Standing stage) :
    (next.move process stage).Kept where
  distinct := by
    rw [show (next.move process stage).committed = system.committed from committed]
    exact holds.distinct
  fresh := by
    rw [show (next.move process stage).committed = system.committed from committed]
    exact fresh
  locked := holds.locked_move next process stage stages lock locks
  standing := holds.standing_move next process stage stages (committed ▸ List.Subset.refl _)
    (notes ▸ List.Subset.refl _) journal here
  known := by
    intro name record found
    rw [show (next.move process stage).outbox = system.outbox from outbox] at found
    obtain ⟨event, inside, same⟩ := holds.known name record found
    exact ⟨event, committed ▸ inside, same⟩
  started := by
    intro record begun
    rw [show (next.move process stage).notes = system.notes from notes] at begun
    obtain ⟨name, event, inside, same⟩ := holds.started record begun
    exact ⟨name, event, committed ▸ inside, same⟩
  conserved := by
    rw [show (next.move process stage).committed = system.committed from committed,
      show (next.move process stage).notes = system.notes from notes,
      show (next.move process stage).outbox = system.outbox from outbox]
    exact holds.conserved
  acknowledged := by
    rw [show (next.move process stage).notes = system.notes from notes]
    exact holds.acknowledged

omit [DecidableEq Process] in
theorem Kept.unique (holds : system.Kept) {first second : PlanningEvent}
    (left : first ∈ system.committed) (right : second ∈ system.committed)
    (same : first.eventId = second.eventId) : first = second :=
  inj_on_of_nodup_map holds.distinct left right same

variable {names : List String} {record : OutboxRecord}

theorem Kept.take (holds : system.Kept) (at_ : system.stage process = .draining (name :: names))
    (found : system.outbox.lookup name = some record) :
    ((system.observe (.started record)).move process (.publishing name record names)).Kept where
  distinct := holds.distinct
  fresh := holds.fresh
  locked := holds.locked_move (system.observe (.started record)) process _ rfl
    (fun _ _ held => held) False.elim
  standing := by
    have standing : system.Standing (.draining (name :: names)) := at_ ▸ holds.standing process
    have records : system.Records name record := holds.known name record found
    refine holds.standing_move (system.observe (.started record)) process _ rfl
      (List.Subset.refl _) (subset_append_left _ _) (fun _ _ _ => rfl) ?_
    exact ⟨records, fun other member => standing other (mem_cons_of_mem name member)⟩
  known := holds.known
  started := by
    intro other begun
    rcases mem_append.mp begun with earlier | latest
    · exact holds.started other earlier
    · cases mem_singleton.mp latest
      exact ⟨name, holds.known name record found⟩
  conserved := by
    intro event inside
    exact (holds.conserved event inside).imp_right (mem_append_left _)
  acknowledged := guarded_append_singleton.mpr ⟨holds.acknowledged, trivial⟩

theorem Kept.deliver (holds : system.Kept)
    (at_ : system.stage process = .publishing name record names) :
    ((system.observe (.succeeded record)).move process (.published name record names)).Kept where
  distinct := holds.distinct
  fresh := holds.fresh
  locked := holds.locked_move (system.observe (.succeeded record)) process _ rfl
    (fun _ _ held => held) False.elim
  standing := by
    have standing : system.Standing (.publishing name record names) :=
      at_ ▸ holds.standing process
    refine holds.standing_move (system.observe (.succeeded record)) process _ rfl
      (List.Subset.refl _) (subset_append_left _ _) (fun _ _ _ => rfl) ?_
    exact ⟨standing.1, standing.2, mem_append_right _ (mem_singleton_self _)⟩
  known := holds.known
  started := by
    intro other begun
    refine holds.started other ?_
    simpa [observe, move] using begun
  conserved := by
    intro event inside
    exact (holds.conserved event inside).imp_right (mem_append_left _)
  acknowledged := guarded_append_singleton.mpr ⟨holds.acknowledged, trivial⟩

theorem Kept.acknowledge (holds : system.Kept)
    (at_ : system.stage process = .published name record names) :
    (({ system with outbox := system.outbox.erase name }.observe (.acknowledged record)).move
      process (.draining names)).Kept := by
  have standing : system.Standing (.published name record names) := at_ ▸ holds.standing process
  obtain ⟨⟨published, inside, named, recorded⟩, remaining, succeeded⟩ := standing
  refine ⟨holds.distinct, holds.fresh, ?_, ?_, ?_, ?_, ?_, ?_⟩
  · exact holds.locked_move _ process (.draining names) rfl (fun _ _ held => held) False.elim
  · exact holds.standing_move _ process (.draining names) rfl (List.Subset.refl _)
      (subset_append_left _ _) (fun _ _ _ => rfl) remaining
  · intro other content found
    have found : (system.outbox.erase name).lookup other = some content := found
    rw [Dict.lookup_erase_eq] at found
    split at found
    · cases found
    · exact holds.known other content found
  · intro other begun
    refine holds.started other ?_
    simpa [observe, move] using begun
  · intro event member
    rcases holds.conserved event member with waiting | done
    · by_cases erased : event.eventId = name
      · have same : event = published := holds.unique member inside (erased.trans named.symm)
        refine .inr (mem_append_left _ ?_)
        rw [same, recorded]
        exact succeeded
      · refine .inl ?_
        exact (Dict.lookup_erase_eq _ _ _).trans ((if_neg erased).trans waiting)
    · exact .inr (mem_append_left _ done)
  · exact guarded_append_singleton.mpr ⟨holds.acknowledged, succeeded⟩

omit [DecidableEq Process] in
theorem mem_commit {other : PlanningEvent} :
    other ∈ (system.commit event).committed ↔ other ∈ system.committed ∨ other = event := by
  unfold commit
  dsimp only
  split
  next inside =>
    refine ⟨.inl, ?_⟩
    rintro (member | rfl)
    · exact member
    · exact inside
  · rw [mem_append, mem_singleton]

omit [DecidableEq Process] in
/-- A committed event that is enqueued is in the outbox, and every other one is where it was. -/
theorem Kept.conserved_enqueue (holds : system.Kept)
    (fresh : event ∉ system.committed → ∀ other ∈ system.committed, other.eventId ≠ event.eventId)
    (enqueued : enqueuePlanningEvent system.outbox event = .ok outbox) {other : PlanningEvent}
    (inside : other ∈ system.committed ∨ other = event) :
    outbox.lookup other.eventId = some other.record ∨ .succeeded other.record ∈ system.notes := by
  rw [lookup_enqueuePlanningEvent enqueued]
  by_cases same : other = event
  · rw [same, if_pos rfl]
    exact .inl rfl
  have member : other ∈ system.committed := inside.resolve_right same
  have apart : other.eventId ≠ event.eventId := by
    by_cases known : event ∈ system.committed
    · exact fun equal => same (holds.unique member known equal)
    · exact fresh known other member
  rw [if_neg apart]
  exact holds.conserved other member

theorem Kept.announce (holds : system.Kept) (at_ : system.stage process = .announcing event)
    (enqueued : enqueuePlanningEvent system.outbox event = .ok outbox) :
    ({ system with outbox := outbox }.move process (.draining outbox.listing)).Kept := by
  have inside : event ∈ system.committed := by
    have standing := holds.standing process
    rw [at_] at standing
    exact standing
  have known : ∀ name record, outbox.lookup name = some record → system.Records name record := by
    intro name record found
    rw [lookup_enqueuePlanningEvent enqueued] at found
    split at found
    next here =>
      cases found
      exact ⟨event, inside, here.symm, rfl⟩
    · exact holds.known name record found
  refine ⟨holds.distinct, holds.fresh, ?_, ?_, known, holds.started, ?_, holds.acknowledged⟩
  · exact holds.locked_move _ process _ rfl (fun _ _ held => held) False.elim
  · refine holds.standing_move _ process (.draining outbox.listing) rfl (List.Subset.refl _)
      (List.Subset.refl _) (fun _ _ _ => rfl) ?_
    intro name member
    obtain ⟨record, found⟩ := Outbox.mem_listing.mp member
    obtain ⟨other, there, named, -⟩ := known name record found
    exact ⟨other, there, named⟩
  · intro other member
    exact holds.conserved_enqueue (fun missing => absurd inside missing) enqueued (.inl member)

theorem Kept.persist (holds : system.Kept) {own : Bool}
    (at_ : system.stage process = .journaling own) (journaled : system.journal = some event)
    (enqueued : enqueuePlanningEvent system.outbox event = .ok outbox) :
    ((({ system with outbox := outbox } : OutboxSystem Process).commit event).move process
      (.persisted own)).Kept := by
  have fresh := holds.fresh event journaled
  have held : system.lock = some process := holds.locked process (at_ ▸ trivial)
  have grows : system.committed ⊆
      (({ system with outbox := outbox } : OutboxSystem Process).commit event).committed :=
    fun other member => mem_commit.mpr (.inl member)
  refine ⟨?_, ?_, ?_, ?_, ?_, ?_, ?_, holds.acknowledged⟩
  · by_cases known : event ∈ system.committed
    · simp only [move, commit, if_pos known]
      exact holds.distinct
    simp only [move, commit, if_neg known, map_append, map_cons, map_nil]
    refine nodup_snoc holds.distinct fun listed => ?_
    obtain ⟨other, member, same⟩ := List.mem_map.mp listed
    exact fresh known other member same
  · intro other there missing
    have same : other = event := Option.some.inj (there.symm.trans journaled)
    exact absurd (mem_commit.mpr (.inr same)) missing
  · exact holds.locked_move _ process (.persisted own) rfl (fun _ _ held => held) fun _ => held
  · refine holds.standing_move _ process (.persisted own) rfl grows (List.Subset.refl _)
      (fun _ _ _ => rfl) ?_
    intro other there
    exact mem_commit.mpr (.inr (Option.some.inj (there.symm.trans journaled)))
  · intro name record found
    have found : outbox.lookup name = some record := found
    rw [lookup_enqueuePlanningEvent enqueued] at found
    split at found
    next here =>
      cases found
      exact ⟨event, mem_commit.mpr (.inr rfl), here.symm, rfl⟩
    · obtain ⟨other, member, same⟩ := holds.known name record found
      exact ⟨other, grows member, same⟩
  · intro record begun
    obtain ⟨name, other, member, same⟩ := holds.started record begun
    exact ⟨name, other, grows member, same⟩
  · intro other member
    exact holds.conserved_enqueue fresh enqueued (mem_commit.mp member)

/-- **No step loses an event.** -/
theorem Kept.step (holds : system.Kept) {action : OutboxAction Process}
    (draws : system.DrawsFresh action) : (system.step action).Kept := by
  generalize next_eq : system.step action = next
  have took : system.Took action next := next_eq ▸ took_step system action
  clear next_eq
  cases took with
  | nothing => exact holds
  | @prepare process eventType payload subjectKind subjectId eventId free =>
    refine holds.relocate rfl rfl rfl rfl ?_ ?_ ?_ (fun _ => rfl) trivial
    · intro event journaled _ other member
      cases journaled
      exact draws other member
    · intro other different inside
      exact absurd inside (holds.not_inJournal (.inl free) different)
    · intro other _ held
      rw [free] at held
      cases held
  | reconcile free =>
    refine holds.relocate rfl rfl rfl rfl holds.fresh (fun _ _ _ => rfl) ?_ (fun _ => rfl) trivial
    intro other _ held
    rw [free] at held
    cases held
  | persist at_ journaled enqueued => exact holds.persist at_ journaled enqueued
  | @retire process own event at_ journaled =>
    have held : system.lock = some process := holds.locked process (at_ ▸ trivial)
    have inside : event ∈ system.committed := by
      have standing := holds.standing process
      rw [at_] at standing
      exact standing event journaled
    refine holds.relocate rfl rfl rfl rfl ?_ ?_ ?_ ?_ ?_
    · intro other impossible
      cases impossible
    · intro other different there
      exact absurd there (holds.not_inJournal (.inr held) different)
    · intro other different there
      exact absurd (Option.some.inj (there.symm.trans held)) different
    · cases own <;> exact False.elim
    · cases own
      · trivial
      · exact inside
  | announce at_ enqueued => exact holds.announce at_ enqueued
  | drain =>
    refine holds.relocate rfl rfl rfl rfl holds.fresh (fun _ _ _ => rfl) (fun _ _ held => held)
      False.elim ?_
    intro name member
    obtain ⟨record, found⟩ := Outbox.mem_listing.mp member
    obtain ⟨other, there, named, -⟩ := holds.known name record found
    exact ⟨other, there, named⟩
  | take at_ found => exact holds.take at_ found
  | deliver at_ => exact holds.deliver at_
  | acknowledge at_ => exact holds.acknowledge at_
  | stop process =>
    exact holds.relocate rfl rfl rfl rfl holds.fresh (fun _ _ _ => rfl) (fun _ _ held => held)
      False.elim trivial
  | leave process =>
    refine holds.relocate rfl rfl rfl rfl holds.fresh (fun _ _ _ => rfl) ?_ False.elim trivial
    intro other different held
    have apart : system.lock ≠ some process :=
      fun same => different (Option.some.inj (held.symm.trans same))
    exact (if_neg apart).trans held

omit [DecidableEq Process] in
theorem kept_empty : (empty : OutboxSystem Process).Kept where
  distinct := nodup_nil
  fresh _ impossible := by cases impossible
  locked _ impossible := impossible.elim
  standing _ := trivial
  known name record found := by
    rw [show (empty : OutboxSystem Process).outbox = ∅ from rfl, AList.lookup_empty] at found
    cases found
  started _ impossible := by cases impossible
  conserved _ impossible := by cases impossible
  acknowledged := guarded_nil

/-! ## The order of the events of a subject -/

/-- The step does not commit an event whose file sorts before that of an earlier event of its
subject that still has to be published. -/
def Ascending (system : OutboxSystem Process) : OutboxAction Process → Prop
  | .persist process => ∀ own event, system.stage process = .journaling own →
      system.journal = some event → event ∉ system.committed →
      ∀ waiting ∈ system.committed, waiting.subject = event.subject →
        .succeeded waiting.record ∉ system.notes →
        outboxFileName waiting.eventId < outboxFileName event.eventId
  | _ => True

/-- The files that a process may still come to in its drain. -/
def upcoming : PublisherStage → List String
  | .draining names | .published _ _ names => names
  | .publishing name _ names => name :: names
  | _ => []

def StartsAfter (earlier later : PlanningEvent) (before : List DeliveryNote)
    (note : DeliveryNote) : Prop :=
  note = .started later.record → .succeeded earlier.record ∈ before

/-- The earlier of two events comes first in every drain, until it is published. -/
structure Precedes (system : OutboxSystem Process) (earlier later : PlanningEvent) : Prop where
  named : .succeeded earlier.record ∉ system.notes →
    outboxFileName earlier.eventId < outboxFileName later.eventId
  ahead : .succeeded earlier.record ∉ system.notes → ∀ process,
    later.eventId ∈ upcoming (system.stage process) →
      earlier.eventId ∈ upcoming (system.stage process)
  first : Guarded (StartsAfter earlier later) system.notes

/-- The drains are sorted, and the events of a subject precede each other. -/
structure Sequenced (system : OutboxSystem Process) : Prop where
  sorted : ∀ process, (upcoming (system.stage process)).Pairwise
    (outboxFileName · < outboxFileName ·)
  precedes : system.committed.Pairwise fun earlier later =>
    earlier.subject = later.subject → system.Precedes earlier later

section

variable (holds : system.Sequenced)
include holds

theorem Sequenced.pass (next : OutboxSystem Process) (process : Process) (stage : PublisherStage)
    (stages : next.stage = system.stage) (committed : next.committed = system.committed)
    (notes : system.notes ⊆ next.notes)
    (sorted : (upcoming stage).Pairwise (outboxFileName · < outboxFileName ·))
    (here : ∀ earlier ∈ system.committed, ∀ later ∈ system.committed, system.Precedes earlier later
      → (.succeeded earlier.record ∉ next.notes → later.eventId ∈ upcoming stage → earlier.eventId ∈
      upcoming stage) ∧ Guarded (StartsAfter earlier later) next.notes) :
    (next.move process stage).Sequenced := by
  have there : ∀ other, (next.move process stage).stage other =
      if other = process then stage else system.stage other := by
    intro other
    rw [← stages]
    exact update_apply _ _ _ _
  constructor
  · intro other
    rw [there]
    split
    · exact sorted
    · exact holds.sorted other
  · rw [show (next.move process stage).committed = system.committed from committed]
    refine List.Pairwise.imp_of_mem ?_ holds.precedes
    intro earlier later left right precedes same
    have precedes := precedes same
    obtain ⟨ahead, first⟩ := here earlier left later right precedes
    have pending : .succeeded earlier.record ∉ next.notes →
        .succeeded earlier.record ∉ system.notes := fun missing done => missing (notes done)
    refine ⟨fun missing => precedes.named (pending missing), ?_, first⟩
    intro missing other
    rw [there]
    split
    · exact ahead missing
    · exact precedes.ahead (pending missing) other

theorem Sequenced.quiet (next : OutboxSystem Process) (process : Process) (stage : PublisherStage)
    (stages : next.stage = system.stage) (committed : next.committed = system.committed)
    (notes : next.notes = system.notes) (done : upcoming stage = []) :
    (next.move process stage).Sequenced := by
  refine holds.pass next process stage stages committed (notes ▸ List.Subset.refl _) ?_ ?_
  · rw [done]
    exact List.Pairwise.nil
  intro earlier _ later _ precedes
  refine ⟨?_, notes ▸ precedes.first⟩
  intro _ member
  rw [done] at member
  cases member

/-- A listing has the earlier event when it has the later one, unless it is published. -/
theorem Sequenced.list (next : OutboxSystem Process) (process : Process)
    (stages : next.stage = system.stage) (committed : next.committed = system.committed)
    (notes : next.notes = system.notes)
    (conserved : ∀ event ∈ system.committed, next.outbox.lookup event.eventId = some event.record ∨
      .succeeded event.record ∈ next.notes) :
    (next.move process (.draining next.outbox.listing)).Sequenced := by
  refine holds.pass next process _ stages committed (notes ▸ List.Subset.refl _)
    next.outbox.pairwise_listing ?_
  intro earlier left later _ precedes
  refine ⟨?_, notes ▸ precedes.first⟩
  intro missing _
  exact Outbox.mem_listing.mpr ⟨_, (conserved earlier left).resolve_right missing⟩

/-- What is read next is not ahead of an earlier event that still has to be published. -/
theorem Sequenced.take (kept : system.Kept) (at_ : system.stage process = .draining (name :: names))
    (found : system.outbox.lookup name = some record) :
    ((system.observe (.started record)).move process
      (.publishing name record names)).Sequenced := by
  have listed : upcoming (system.stage process) = name :: names := by
    rw [at_]
    rfl
  have sorted := holds.sorted process
  rw [listed] at sorted
  refine holds.pass (system.observe (.started record)) process _ rfl rfl
    (subset_append_left _ _) sorted ?_
  intro earlier left later right precedes
  have pending : .succeeded earlier.record ∉ (system.observe (.started record)).notes →
      .succeeded earlier.record ∉ system.notes :=
    fun missing done => missing (mem_append_left _ done)
  constructor
  · intro missing member
    have ahead := precedes.ahead (pending missing) process
    rw [listed] at ahead
    exact ahead member
  · refine guarded_append_singleton.mpr ⟨precedes.first, ?_⟩
    intro begins
    by_contra missing
    obtain ⟨event, inside, named, recorded⟩ := kept.known name record found
    have next : later.eventId = name := by
      rw [← named]
      have same : event.record = later.record := recorded.trans (DeliveryNote.started.inj begins)
      exact (congrArg OutboxRecord.planningEventId same).symm
    have ahead := precedes.ahead missing process
    rw [listed, next] at ahead
    have lower := precedes.named missing
    rw [next] at lower
    rcases mem_cons.mp (ahead mem_cons_self) with here | later
    · rw [here] at lower
      exact lt_irrefl _ lower
    · exact lt_asymm lower ((pairwise_cons.mp sorted).1 _ later)

theorem Sequenced.deliver (kept : system.Kept)
    (at_ : system.stage process = .publishing name record names) :
    ((system.observe (.succeeded record)).move process
      (.published name record names)).Sequenced := by
  have listed : upcoming (system.stage process) = name :: names := by
    rw [at_]
    rfl
  have sorted := holds.sorted process
  rw [listed] at sorted
  refine holds.pass (system.observe (.succeeded record)) process _ rfl rfl
    (subset_append_left _ _) (pairwise_cons.mp sorted).2 ?_
  intro earlier left later right precedes
  constructor
  · intro missing member
    have ahead := precedes.ahead (fun done => missing (mem_append_left _ done)) process
    rw [listed] at ahead
    rcases mem_cons.mp (ahead (mem_cons_of_mem name member)) with here | there
    · obtain ⟨event, inside, named, recorded⟩ : system.Records name record := by
        have standing := kept.standing process
        rw [at_] at standing
        exact standing.1
      have same : earlier = event := kept.unique left inside (here.trans named.symm)
      rw [same, recorded] at missing
      exact absurd (mem_append_right _ (mem_singleton_self _)) missing
    · exact there
  · refine guarded_append_singleton.mpr ⟨precedes.first, ?_⟩
    intro impossible
    cases impossible

end

omit [DecidableEq Process] in
theorem Kept.names_upcoming (kept : system.Kept) (process : Process) :
    system.Names (upcoming (system.stage process)) := by
  have standing := kept.standing process
  intro name member
  cases at_ : system.stage process with
  | idle | journaling | persisted | announcing =>
    rw [at_] at member
    cases member
  | draining names =>
    rw [at_] at standing member
    exact standing name member
  | publishing current record names =>
    rw [at_] at standing member
    rcases mem_cons.mp member with rfl | later
    · obtain ⟨event, inside, named, -⟩ := standing.1
      exact ⟨event, inside, named⟩
    · exact standing.2 name later
  | published current record names =>
    rw [at_] at standing member
    exact standing.2.1 name member

theorem Sequenced.persist (holds : system.Sequenced) (kept : system.Kept) {own : Bool}
    (at_ : system.stage process = .journaling own) (journaled : system.journal = some event)
    (ascending : system.Ascending (.persist process)) :
    ((({ system with outbox := outbox } : OutboxSystem Process).commit event).move process
      (.persisted own)).Sequenced := by
  by_cases known : event ∈ system.committed
  · refine holds.quiet _ process (.persisted own) rfl ?_ rfl rfl
    exact if_pos known
  have fresh := kept.fresh event journaled known
  -- The event is committed without a step of any process, and then the process moves.
  have added : ({ system with committed := system.committed ++ [event] } :
      OutboxSystem Process).Sequenced := by
    refine ⟨holds.sorted, ?_⟩
    refine pairwise_append.mpr ⟨?_, pairwise_singleton _ _, ?_⟩
    · refine holds.precedes.imp ?_
      intro earlier later precedes same
      exact ⟨(precedes same).named, (precedes same).ahead, (precedes same).first⟩
    intro earlier left later right same
    cases mem_singleton.mp right
    refine ⟨?_, ?_, ?_⟩
    · intro missing
      exact ascending own event at_ journaled known earlier left same missing
    · intro _ other member
      obtain ⟨known, inside, named⟩ := kept.names_upcoming other _ member
      exact absurd named (fresh known inside)
    · intro before note after split begins
      have begun : .started event.record ∈ system.notes := by
        rw [show system.notes = before ++ note :: after from split, begins]
        exact mem_append_right _ mem_cons_self
      obtain ⟨name, known, inside, -, recorded⟩ := kept.started event.record begun
      have named : known.eventId = event.eventId :=
        congrArg OutboxRecord.planningEventId recorded
      exact absurd named (fresh known inside)
  refine added.quiet _ process (.persisted own) rfl ?_ rfl rfl
  exact if_neg known

/-- **A step with ascending ids keeps the order.** -/
theorem Sequenced.step (holds : system.Sequenced) (kept : system.Kept)
    {action : OutboxAction Process} (ascending : system.Ascending action)
    (after : (system.step action).Kept) : (system.step action).Sequenced := by
  have took : system.Took action (system.step action) := took_step system action
  generalize system.step action = next at took after
  cases took with
  | nothing => exact holds
  | prepare | reconcile | stop | leave => exact holds.quiet _ _ _ rfl rfl rfl rfl
  | persist at_ journaled enqueued => exact holds.persist kept at_ journaled ascending
  | @retire process own event at_ journaled =>
    refine holds.quiet _ _ _ rfl rfl rfl ?_
    cases own <;> rfl
  | @announce process event outbox at_ enqueued =>
    exact holds.list { system with outbox := outbox } process rfl rfl rfl after.conserved
  | drain => exact holds.list system _ rfl rfl rfl kept.conserved
  | take at_ found => exact holds.take kept at_ found
  | deliver at_ => exact holds.deliver kept at_
  | @acknowledge process name names record at_ =>
    have listed : upcoming (system.stage process) = names := by
      rw [at_]
      rfl
    refine holds.pass _ process _ rfl rfl (subset_append_left _ _)
      (listed ▸ holds.sorted process) ?_
    intro earlier left later right precedes
    constructor
    · intro missing
      have ahead := precedes.ahead (fun done => missing (mem_append_left _ done)) process
      rw [listed] at ahead
      exact ahead
    · refine guarded_append_singleton.mpr ⟨precedes.first, ?_⟩
      intro impossible
      cases impossible

omit [DecidableEq Process] in
theorem sequenced_empty : (empty : OutboxSystem Process).Sequenced :=
  ⟨fun _ => List.Pairwise.nil, List.Pairwise.nil⟩

end OutboxSystem

/-! ## Runs -/

section Runs

variable {Process : Type} [DecidableEq Process]

open OutboxSystem

/-- **Planning events are delivered at least once, and in order if their ids are.**  In every
run of any processes, with failing subscribers and crashes anywhere, the event of a committed
mutation is in the outbox or was published, and it is acknowledged after that.  When moreover
no event is committed whose id sorts before that of an unpublished event of the same subject,
the events of a subject are published in the order of their commits. -/
theorem planning_events_delivered (actions : List (OutboxAction Process))
    (fresh : Admissible OutboxSystem.step DrawsFresh empty actions) :
    (∀ event ∈ (exec OutboxSystem.step empty actions).committed,
        (exec OutboxSystem.step empty actions).outbox.lookup event.eventId = some event.record ∨
          .succeeded event.record ∈ (exec OutboxSystem.step empty actions).notes) ∧
      Guarded Acknowledged (exec OutboxSystem.step empty actions).notes ∧
      (Admissible OutboxSystem.step Ascending empty actions →
        (exec OutboxSystem.step empty actions).committed.Pairwise fun earlier later =>
          earlier.subject = later.subject →
            Guarded (StartsAfter earlier later)
              (exec OutboxSystem.step empty actions).notes) := by
  have kept : (exec OutboxSystem.step empty actions).Kept :=
    fresh.invariant (fun _ _ holds draws => holds.step draws) kept_empty
  refine ⟨kept.conserved, kept.acknowledged, ?_⟩
  intro ascending
  have sequenced : (exec OutboxSystem.step empty actions).Kept ∧
      (exec OutboxSystem.step empty actions).Sequenced := by
    have preserved : ∀ (system : OutboxSystem Process) (action : OutboxAction Process),
        system.Kept ∧ system.Sequenced → system.DrawsFresh action ∧ system.Ascending action →
        (system.step action).Kept ∧ (system.step action).Sequenced := by
      rintro system action ⟨holds, sequenced⟩ ⟨draws, ascends⟩
      exact ⟨holds.step draws, sequenced.step holds ascends (holds.step draws)⟩
    exact (fresh.and ascending).invariant preserved ⟨kept_empty, sequenced_empty⟩
  refine sequenced.2.precedes.imp ?_
  intro earlier later precedes same
  exact (precedes same).first

/-- One process creates an item, its subscriber raises, and it updates the item; the two events
have the given ids. -/
def backlogRun (created updated : String) : List (OutboxAction Unit) :=
  [.prepare () "planning.item.created" [] "planning-item" "TST01" created,
    .persist (), .retire (), .announce (), .take (), .deliver () (.dispatched [false]),
    .prepare () "planning.item.updated" [] "planning-item" "TST01" updated,
    .persist (), .retire (), .announce (), .take (), .deliver () (.dispatched [true])]

/-- Two ids as `uuid.uuid4` draws them. -/
def lowerId : String := "0b7c0a52-5d0e-4f43-9a0e-6f1d2f7c5a11"

def upperId : String := "e41d8f6c-2b7a-4c0d-8f55-93c1a6b0d7e2"

theorem backlogRun_ascending :
    Admissible OutboxSystem.step Ascending empty (backlogRun lowerId upperId) := by
  refine ⟨trivial, ?_, trivial, trivial, trivial, trivial, trivial, ?_, trivial, trivial, trivial,
    trivial, trivial⟩
  · intro own event _ _ _ waiting inside
    cases inside
  · intro own event _ journaled _ waiting inside _ _
    cases journaled
    cases mem_singleton.mp inside
    decide +kernel

theorem planning_events_delivered_backlog :
    Admissible OutboxSystem.step DrawsFresh empty (backlogRun lowerId upperId) ∧
      (exec OutboxSystem.step empty (backlogRun lowerId upperId)).committed.Pairwise
        fun earlier later => earlier.subject = later.subject →
          Guarded (StartsAfter earlier later)
            (exec OutboxSystem.step empty (backlogRun lowerId upperId)).notes := by
  have fresh : Admissible OutboxSystem.step DrawsFresh empty (backlogRun lowerId upperId) := by
    decide +kernel
  exact ⟨fresh, (planning_events_delivered _ fresh).2.2 backlogRun_ascending⟩

/-- **A backlog is published in the order of its names.**  The id of the update sorts before
that of the creation, whose publication failed: the drain after the update publishes the update,
and the creation is still waiting. -/
theorem planning_events_out_of_order :
    Admissible OutboxSystem.step DrawsFresh empty (backlogRun upperId lowerId) ∧
      ¬ (exec OutboxSystem.step empty (backlogRun upperId lowerId)).committed.Pairwise
        fun earlier later => earlier.subject = later.subject →
          Guarded (StartsAfter earlier later)
            (exec OutboxSystem.step empty (backlogRun upperId lowerId)).notes := by
  constructor
  · decide +kernel
  intro ordered
  let created := buildPlanningEvent "planning.item.created" [] "planning-item" "TST01" upperId
  let updated := buildPlanningEvent "planning.item.updated" [] "planning-item" "TST01" lowerId
  have committed : (exec OutboxSystem.step empty (backlogRun upperId lowerId)).committed =
      [created, updated] := by
    decide +kernel
  have notes : (exec OutboxSystem.step empty (backlogRun upperId lowerId)).notes =
      [.started created.record, .started updated.record, .succeeded updated.record] := by
    decide +kernel
  rw [committed, notes, pairwise_cons] at ordered
  have published : .succeeded created.record ∈ [DeliveryNote.started created.record] :=
    ordered.1 updated (mem_singleton_self _) rfl _ _ [.succeeded updated.record] rfl rfl
  cases mem_singleton.mp published

end Runs

end Audiagentic.Planning
