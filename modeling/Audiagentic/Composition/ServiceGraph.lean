import Audiagentic.Foundations.DepthFirst
import Audiagentic.Foundations.OrderedDicts

/-!
# The graph of services

Services are constructed from the roots of a configuration down, each after those that it requires,
with the implementation to which the configuration binds it.  An override stands for a service and
for everything below it.  The built graph keeps the finalizers, and runs them once.
-/

namespace Audiagentic.Composition

open Foundations List Option

variable {ι : Type}

/-! ## Contributions and bindings -/

structure ServiceContribution (ι : Type) where
  serviceId : String
  implementationId : String
  factory : List (String × ι) → Except String ι
  requires : OrderedDict String String
  hasFinalizer : Bool

def ServiceContribution.key (contribution : ServiceContribution ι) : String × String :=
  (contribution.serviceId, contribution.implementationId)

structure CompositionConfig where
  roots : List String
  bindings : OrderedDict String String

/-- What the validations raise. -/
inductive InvalidComposition where
  | duplicate (serviceId implementationId : String)
  | unknownService (serviceId : String)
  | unknownImplementation (serviceId implementationId : String)

inductive CompositionError where
  | invalid (error : InvalidComposition)
  | unbound (serviceId : String) (requiredBy : Option String)
  | cycle (cycle : List String)
  /-- The exception of a factory. -/
  | raised (message : String)
  | recursion

/-- One round of `_index_contributions`; the index is looked up by the two ids. -/
def indexContribution (index : List (ServiceContribution ι))
    (contribution : ServiceContribution ι) :
    Except InvalidComposition (List (ServiceContribution ι)) := do
  refuse (contribution.key ∈ index.map ServiceContribution.key)
    (.duplicate contribution.serviceId contribution.implementationId)
  .ok (index ++ [contribution])

def indexContributions (contributions : List (ServiceContribution ι)) :
    Except InvalidComposition (List (ServiceContribution ι)) :=
  contributions.foldlM indexContribution []

/-- One round of `_validate_bindings`. -/
def validateBinding (index : List (ServiceContribution ι)) (binding : String × String) :
    Except InvalidComposition Unit := do
  refuse (binding.1 ∉ index.map ServiceContribution.serviceId) (.unknownService binding.1)
  refuse (binding ∉ index.map ServiceContribution.key)
    (.unknownImplementation binding.1 binding.2)

def validateBindings (config : CompositionConfig) (index : List (ServiceContribution ι)) :
    Except InvalidComposition Unit :=
  forM config.bindings.entries (validateBinding index)

/-- The arguments of `build_graph`. -/
structure BuildArguments (ι : Type) where
  contributions : List (ServiceContribution ι)
  config : CompositionConfig
  overrides : OrderedDict String ι

/-- `_select`; the validation has proved that an implementation that is bound is there. -/
def select (given : BuildArguments ι) (serviceId : String) : Option (ServiceContribution ι) :=
  (given.config.bindings.get? serviceId).bind fun implementationId =>
    given.contributions.find? fun contribution =>
      contribution.key = (serviceId, implementationId)

/-! ## Construction -/

/-- A service with the keywords of the call of its factory, which an override has not. -/
structure Constructed (ι : Type) where
  inst : ι
  call : Option (List (String × ι))
  hasFinalizer : Bool

def instanceOf (made : List (String × Constructed ι)) (serviceId : String) : Option ι :=
  (made.find? fun entry => entry.1 = serviceId).map fun entry => entry.2.inst

def keywords (contribution : ServiceContribution ι) (made : List (String × Constructed ι)) :
    List (String × ι) :=
  contribution.requires.entries.filterMap fun entry =>
    (instanceOf made entry.2).map fun inst => (entry.1, inst)

/-- `construct`: the instances are those made, `in_progress` is the path. -/
def serviceWalk (given : BuildArguments ι) : Walk String (Constructed ι) CompositionError where
  needs serviceId :=
    match given.overrides.get? serviceId, select given serviceId with
    | none, some contribution => contribution.requires.entries.map Prod.snd
    | _, _ => []
  make requestedBy made serviceId :=
    match given.overrides.get? serviceId, select given serviceId with
    | some inst, _ => .ok ⟨inst, none, false⟩
    | none, none => .error (.unbound serviceId requestedBy)
    | none, some contribution => do
      let kwargs := keywords contribution made
      let inst ← (contribution.factory kwargs).mapError .raised
      .ok ⟨inst, some kwargs, contribution.hasFinalizer⟩
  cyclic := .cycle
  exhausted := .recursion

/-- The services that `build_graph` constructs, in order. -/
def constructAll (given : BuildArguments ι) :
    Except CompositionError (List (String × Constructed ι)) := do
  let index ← (indexContributions given.contributions).mapError .invalid
  (validateBindings given.config index).mapError .invalid
  (serviceWalk { given with contributions := index }).visitAll
    (given.config.bindings.keys.length + 1) given.config.roots

structure BuiltGraph (ι : Type) where
  roots : OrderedDict String ι
  constructionOrder : List String
  finalizers : List (String × ι)
  shutDown : Bool

def graphOf (roots : List String) (made : List (String × Constructed ι)) : BuiltGraph ι where
  roots := .ofList (roots.filterMap fun root =>
    (instanceOf made root).map fun inst => (root, inst))
  constructionOrder := Walk.names made
  finalizers := (made.filter fun entry => entry.2.hasFinalizer).map fun entry =>
    (entry.1, entry.2.inst)
  shutDown := false

def buildGraph (given : BuildArguments ι) : Except CompositionError (BuiltGraph ι) :=
  (constructAll given).map (graphOf given.config.roots)

/-! ## Shutdown -/

/-- The finalizers that run, each with whether its failure is logged. -/
def BuiltGraph.shutdown (fails : String × ι → Bool) (graph : BuiltGraph ι) :
    List ((String × ι) × Bool) × BuiltGraph ι :=
  if graph.shutDown then ([], graph)
  else (graph.finalizers.reverse.map fun entry => (entry, fails entry),
    { graph with shutDown := true })

/-- The finalizers that run in one call after another. -/
def shutdowns : List (String × ι → Bool) → BuiltGraph ι → List (String × ι)
  | [], _ => []
  | fails :: later, graph =>
    (graph.shutdown fails).1.map Prod.fst ++ shutdowns later (graph.shutdown fails).2

theorem shutdowns_of_shutDown {graph : BuiltGraph ι} (done : graph.shutDown = true)
    (calls : List (String × ι → Bool)) : shutdowns calls graph = [] := by
  induction calls with
  | nil => rfl
  | cons fails later ih => rw [shutdowns, BuiltGraph.shutdown, if_pos done, ih, map_nil]; rfl

/-- **The first shutdown runs the finalizers, the last one first, and later ones do nothing.** -/
theorem shutdowns_cons {graph : BuiltGraph ι} (fresh : graph.shutDown = false)
    (fails : String × ι → Bool) (later : List (String × ι → Bool)) :
    shutdowns (fails :: later) graph = graph.finalizers.reverse := by
  rw [shutdowns, BuiltGraph.shutdown, if_neg (by simp [fresh]), shutdowns_of_shutDown rfl]
  simp [Function.comp_def]

/-! ## What is built -/

/-- The one call of the factory of a service, with the services that it requires; a service that is
overridden has none. -/
def CalledOnce (given : BuildArguments ι) (made : List (String × Constructed ι))
    (entry : String × Constructed ι) : Prop :=
  given.overrides.get? entry.1 = some entry.2.inst ∧ entry.2.call = none ∧
      entry.2.hasFinalizer = false ∨
    ∃ contribution, given.overrides.get? entry.1 = none ∧
      select given entry.1 = some contribution ∧
      contribution.requires.entries.map Prod.snd ⊆ Walk.names made ∧
      entry.2.call = some (keywords contribution made) ∧
      contribution.factory (keywords contribution made) = .ok entry.2.inst ∧
      entry.2.hasFinalizer = contribution.hasFinalizer

/-- A service is reached from the roots, without passing through one that is overridden. -/
def Reached (given : BuildArguments ι) (serviceId : String) : Prop :=
  ∃ root ∈ given.config.roots, (serviceWalk given).Reaches root serviceId

def ValidBindings (given : BuildArguments ι) : Prop :=
  given.config.bindings.entries ⊆ given.contributions.map ServiceContribution.key

/-- The bindings are valid, and what is reached is bound or overridden and on no cycle. -/
def Constructible (given : BuildArguments ι) : Prop :=
  ValidBindings given ∧ ∀ serviceId, Reached given serviceId →
    ((given.overrides.get? serviceId).isSome ∨ (select given serviceId).isSome) ∧
      ¬Relation.TransGen (serviceWalk given).Edge serviceId serviceId

structure Ordered (given : BuildArguments ι) (made : List (String × Constructed ι)) : Prop where
  distinct : (Walk.names made).Nodup
  exactly : ∀ serviceId, serviceId ∈ Walk.names made ↔ Reached given serviceId
  sorted : ∀ serviceId ∈ Walk.names made, ∀ dependency,
    (serviceWalk given).Edge serviceId dependency →
      [dependency, serviceId].Sublist (Walk.names made)
  called : ∀ entry ∈ made, CalledOnce given made entry

structure GraphExact (given : BuildArguments ι) : Prop where
  succeeds : (∀ contribution ∈ given.contributions, ∀ kwargs, ∃ inst,
      contribution.factory kwargs = .ok inst) →
    ((∃ graph, buildGraph given = .ok graph) ↔
      (given.contributions.map ServiceContribution.key).Nodup ∧ Constructible given)
  built : ∀ graph, buildGraph given = .ok graph →
    ∃ made, graph = graphOf given.config.roots made ∧ Ordered given made
  cycle : ∀ cycle, buildGraph given = .error (.cycle cycle) →
    ∃ serviceId, Reached given serviceId ∧ (serviceWalk given).IsCycle serviceId cycle
  shutdown : ∀ graph, buildGraph given = .ok graph → ∀ fails later,
    shutdowns (fails :: later) graph = graph.finalizers.reverse

/-! ## The validations -/

section MapError

variable {ε ε' α : Type} {f : ε → ε'} {action : Except ε α}

theorem mapError_eq_ok {value : α} : action.mapError f = .ok value ↔ action = .ok value := by
  cases action <;> simp [Except.mapError]

theorem mapError_eq_error {failure : ε'} :
    action.mapError f = .error failure ↔ ∃ error, action = .error error ∧ f error = failure := by
  cases action <;> simp [Except.mapError]

end MapError

theorem indexContributions_eq_ok {contributions index : List (ServiceContribution ι)} :
    indexContributions contributions = .ok index ↔
      (contributions.map ServiceContribution.key).Nodup ∧ index = contributions := by
  induction contributions using List.reverseRecOn generalizing index with
  | nil => simp [indexContributions, pure, Except.pure, eq_comm]
  | append_singleton contributions last ih =>
    rw [indexContributions, foldlM_append, bind_eq_ok, map_append, map_singleton, nodup_append]
    simp only [foldlM_cons, foldlM_nil, bind_pure, indexContribution]
    constructor
    · rintro ⟨before, indexed, added⟩
      obtain ⟨distinct, rfl⟩ := ih.mp indexed
      obtain ⟨fresh, added⟩ := refuse_bind_eq_ok.mp added
      cases added
      exact ⟨⟨distinct, nodup_singleton _, by simpa using fresh⟩, rfl⟩
    · rintro ⟨⟨distinct, _, apart⟩, rfl⟩
      exact ⟨contributions, ih.mpr ⟨distinct, rfl⟩,
        refuse_bind_eq_ok.mpr ⟨by simpa using apart, rfl⟩⟩

theorem validateBindings_eq_ok {given : BuildArguments ι} {passed : Unit} :
    validateBindings given.config given.contributions = .ok passed ↔ ValidBindings given := by
  rw [validateBindings, ValidBindings]
  induction given.config.bindings.entries with
  | nil => simp [pure, Except.pure]
  | cons binding rest ih =>
    rw [forM_cons, bind_eq_ok, cons_subset, ← ih, validateBinding]
    simp only [refuse_bind_eq_ok, refuse_eq_ok, not_not, exists_const, and_congr_left_iff,
      and_iff_right_iff_imp]
    rintro - bound
    obtain ⟨contribution, listed, rfl⟩ := List.mem_map.mp bound
    exact List.mem_map_of_mem listed

/-! ## The walk -/

variable {given : BuildArguments ι} {made : List (String × Constructed ι)}

theorem instanceOf_append {first : List (String × Constructed ι)} {serviceId : String}
    (there : serviceId ∈ Walk.names first) (later : List (String × Constructed ι)) :
    instanceOf (first ++ later) serviceId = instanceOf first serviceId := by
  obtain ⟨entry, listed, rfl⟩ := List.mem_map.mp there
  have found : (first.find? fun other => other.1 = entry.1).isSome :=
    find?_isSome.mpr ⟨entry, listed, decide_eq_true rfl⟩
  rw [instanceOf, instanceOf, find?_append, or_of_isSome found]

theorem calledOnce (built : (serviceWalk given).Built made) {entry : String × Constructed ι}
    (listed : entry ∈ made) : CalledOnce given made entry := by
  obtain ⟨serviceId, value⟩ := entry
  obtain ⟨first, later, rfl⟩ := append_of_mem listed
  obtain ⟨-, ready, requestedBy, constructed⟩ := built.before rfl
  simp only [serviceWalk] at ready constructed
  split at constructed
  · next inst overridden =>
      cases constructed
      exact .inl ⟨overridden, rfl, rfl⟩
  · cases constructed
  · next contribution free selected =>
      obtain ⟨inst, called, same⟩ := bind_eq_ok.mp constructed
      cases same
      rw [free, selected] at ready
      have stable : ∀ rest, keywords contribution (first ++ rest) = keywords contribution first :=
        fun rest => filterMap_congr fun required declared => by
          rw [instanceOf_append (ready (List.mem_map_of_mem declared))]
      refine .inr ⟨contribution, free, selected, fun _ required =>
        Walk.names_subset_append _ _ (ready required), ?_, ?_, rfl⟩
      · rw [stable]
      · rw [stable]
        exact mapError_eq_ok.mp called

theorem constructAll_eq_ok : constructAll given = .ok made ↔
    (given.contributions.map ServiceContribution.key).Nodup ∧ ValidBindings given ∧
      (serviceWalk given).visitAll (given.config.bindings.keys.length + 1) given.config.roots =
        .ok made := by
  rw [constructAll, bind_eq_ok]
  constructor
  · rintro ⟨_, indexed, rest⟩
    obtain ⟨distinct, rfl⟩ := indexContributions_eq_ok.mp (mapError_eq_ok.mp indexed)
    obtain ⟨_, valid, walked⟩ := bind_eq_ok.mp rest
    exact ⟨distinct, validateBindings_eq_ok.mp (mapError_eq_ok.mp valid), walked⟩
  · rintro ⟨distinct, valid, walked⟩
    exact ⟨_, mapError_eq_ok.mpr (indexContributions_eq_ok.mpr ⟨distinct, rfl⟩),
      bind_eq_ok.mpr ⟨⟨⟩, mapError_eq_ok.mpr (validateBindings_eq_ok.mpr valid), walked⟩⟩

theorem buildGraph_eq_ok {graph : BuiltGraph ι} : buildGraph given = .ok graph ↔
    ∃ made, constructAll given = .ok made ∧ graph = graphOf given.config.roots made := by
  rw [buildGraph]
  cases constructAll given <;> simp [Except.map, eq_comm]

theorem buildGraph_eq_error {failure : CompositionError} :
    buildGraph given = .error failure ↔ constructAll given = .error failure := by
  rw [buildGraph]
  cases constructAll given <;> simp [Except.map]

theorem ordered_of_constructAll (constructed : constructAll given = .ok made) :
    Ordered given made := by
  obtain ⟨built, exactly⟩ := Walk.visitAll_ok (constructAll_eq_ok.mp constructed).2.2
  exact ⟨built.nodup, exactly, fun _ listed _ edge => built.sublist listed edge,
    fun _ => calledOnce built⟩

theorem mem_keys_of_needs {serviceId : String} (needs : (serviceWalk given).needs serviceId ≠ []) :
    serviceId ∈ given.config.bindings.keys := by
  simp only [serviceWalk] at needs
  split at needs
  · next selected =>
      obtain ⟨implementationId, bound, -⟩ := bind_eq_some_iff.mp selected
      exact OrderedDict.mem_keys_iff.mpr ⟨_, bound⟩
  · exact absurd rfl needs

/-- **A cycle that is reported is a cycle of the graph.** -/
theorem cycle_of_constructAll {cycle : List String}
    (failed : constructAll given = .error (.cycle cycle)) :
    ∃ serviceId, Reached given serviceId ∧ (serviceWalk given).IsCycle serviceId cycle := by
  rcases bind_eq_error.mp failed with indexing | ⟨index, indexed, rest⟩
  · obtain ⟨_, _, ⟨⟩⟩ := mapError_eq_error.mp indexing
  obtain ⟨-, rfl⟩ := indexContributions_eq_ok.mp (mapError_eq_ok.mp indexed)
  rcases bind_eq_error.mp rest with validating | ⟨_, _, walking⟩
  · obtain ⟨_, _, ⟨⟩⟩ := mapError_eq_error.mp validating
  obtain ⟨root, listed, fault⟩ :=
    Walk.visitAll_error (fun _ => mem_keys_of_needs) (Nat.lt_succ_self _) walking
  generalize same : CompositionError.cycle cycle = failure at fault
  cases fault with
  | cycle reached real =>
    cases same
    exact ⟨_, ⟨root, listed, reached⟩, real⟩
  | make _ _ _ failed =>
    simp only [serviceWalk] at failed
    split at failed
    · cases failed
    · cases failed
      cases same
    · rcases bind_eq_error.mp failed with called | ⟨_, _, ⟨⟩⟩
      obtain ⟨_, _, rfl⟩ := mapError_eq_error.mp called
      cases same

section Returns

variable (returns : ∀ contribution ∈ given.contributions, ∀ kwargs, ∃ inst,
  contribution.factory kwargs = .ok inst)
include returns

theorem makes_iff (requestedBy : Option String) (made : List (String × Constructed ι))
    (serviceId : String) :
    (∃ value, (serviceWalk given).make requestedBy made serviceId = .ok value) ↔
      (given.overrides.get? serviceId).isSome ∨ (select given serviceId).isSome := by
  simp only [serviceWalk]
  cases given.overrides.get? serviceId with
  | some inst => simp
  | none =>
    cases selected : select given serviceId with
    | none => simp
    | some contribution =>
      obtain ⟨implementationId, -, found⟩ := bind_eq_some_iff.mp selected
      obtain ⟨inst, called⟩ := returns contribution (mem_of_find?_eq_some found)
        (keywords contribution made)
      simp [called, Except.mapError, bind, Except.bind]

theorem buildGraph_succeeds : (∃ graph, buildGraph given = .ok graph) ↔
    (given.contributions.map ServiceContribution.key).Nodup ∧ Constructible given := by
  have walks := @Walk.visitAll_ok_iff _ _ _ (serviceWalk given) _ _ given.config.roots _
    (fun _ => mem_keys_of_needs) (Nat.lt_succ_self _) _ fun requestedBy made serviceId _ _ =>
      makes_iff returns requestedBy made serviceId
  constructor
  · rintro ⟨graph, built⟩
    obtain ⟨made, constructed, -⟩ := buildGraph_eq_ok.mp built
    obtain ⟨distinct, valid, walked⟩ := constructAll_eq_ok.mp constructed
    exact ⟨distinct, valid, fun serviceId ⟨root, listed, reached⟩ =>
      walks.mp ⟨made, walked⟩ root listed serviceId reached⟩
  · rintro ⟨distinct, valid, fine⟩
    obtain ⟨made, walked⟩ := walks.mpr fun root listed serviceId reached =>
      fine serviceId ⟨root, listed, reached⟩
    exact ⟨_, buildGraph_eq_ok.mpr ⟨made, constructAll_eq_ok.mpr ⟨distinct, valid, walked⟩, rfl⟩⟩

end Returns

theorem graphExact (given : BuildArguments ι) : GraphExact given where
  succeeds := buildGraph_succeeds
  built := by
    intro graph built
    obtain ⟨made, constructed, rfl⟩ := buildGraph_eq_ok.mp built
    exact ⟨made, rfl, ordered_of_constructAll constructed⟩
  cycle := fun _ failed => cycle_of_constructAll (buildGraph_eq_error.mp failed)
  shutdown := by
    intro graph built
    obtain ⟨made, -, rfl⟩ := buildGraph_eq_ok.mp built
    exact shutdowns_cons rfl

/-- Two contributions of one implementation, and no roots. -/
def contributedTwice : BuildArguments Unit where
  contributions := List.replicate 2 ⟨"host", "default", fun _ => .ok (), ∅, false⟩
  config := ⟨[], ∅⟩
  overrides := ∅

def raisingFactory : BuildArguments Unit where
  contributions := [⟨"host", "default", fun _ => .error "failed", ∅, false⟩]
  config := ⟨["host"], ⟨[("host", "default")], by decide⟩⟩
  overrides := ∅

/-- **A build may also fail on a duplicate that is not bound, and in a factory.** -/
theorem constructible_is_not_enough :
    (Constructible contributedTwice ∧ ¬∃ graph, buildGraph contributedTwice = .ok graph) ∧
      Constructible raisingFactory ∧ ¬∃ graph, buildGraph raisingFactory = .ok graph := by
  refine ⟨⟨⟨nil_subset _, ?_⟩, ?_⟩, ⟨List.Subset.refl _, ?_⟩, ?_⟩
  · rintro serviceId ⟨root, listed, -⟩
    cases listed
  · rintro ⟨graph, built⟩
    cases built
  · rintro serviceId ⟨root, listed, reached⟩
    obtain rfl := mem_singleton.mp listed
    have leaf : ∀ other, ¬(serviceWalk raisingFactory).Edge "host" other := fun _ => nofun
    rcases Relation.ReflTransGen.cases_head reached with rfl | ⟨_, edge, _⟩
    · refine ⟨.inr rfl, fun cycle => ?_⟩
      obtain ⟨_, edge, _⟩ := Relation.TransGen.head'_iff.mp cycle
      exact leaf _ edge
    · exact absurd edge (leaf _)
  · rintro ⟨graph, built⟩
    cases built

end Audiagentic.Composition
