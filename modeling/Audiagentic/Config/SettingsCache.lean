import Audiagentic.Config.Merge
import Audiagentic.Foundations.Checks

/-!
# Cached settings

`resolve_settings_cached` finds the project root, stamps the files of the scopes and looks the
stamps up.  When it finds nothing it resolves the settings anew, from the root that it found and
without the working directory that it was given.  A root of none makes the resolution look for a
checkout again, and then around the process.

The environment, the working directory and the files may change between two calls; a file whose
stamp is the same has the same content.
-/

namespace Audiagentic.Config

open Foundations List

variable {α : Type}

/-! ## The world of a call -/

/-- Times of the last changes, size and inode. -/
abbrev FileStamp := ℕ × ℕ × ℕ × ℕ

/-- What a call finds.  Directories and paths are taken as expanded; a path is a text. -/
structure SettingsWorld where
  /-- `AUDIAGENTIC_PROJECT` and `AUDIAGENTIC_CONFIG`, where they are set and not empty. -/
  environProject : Option Text
  environConfig : Option Text
  processCwd : Text
  isDir : Text → Bool
  isFile : Text → Bool
  resolvePath : Text → Text
  discoverCheckoutRoot : Text → Option Text
  vendorPath : Text
  userPath : Text
  projectPath : Text → Text
  userProjectPath : Text → Text
  stat : Text → Option FileStamp
  isDir_resolvePath : ∀ path, isDir path → isDir (resolvePath path) ∧
    resolvePath (resolvePath path) = resolvePath path
  isDir_checkoutRoot : ∀ path root, discoverCheckoutRoot path = some root →
    isDir root ∧ resolvePath root = root

inductive ResolutionError where
  | noProject (project : Text)
  | noExplicitFile (file : Text)
  | settings (error : SettingsError)
deriving DecidableEq

def SettingsWorld.discoverProjectRoot (world : SettingsWorld) (project cwd : Option Text) :
    Except ResolutionError (Option Text) :=
  match project <|> world.environProject with
  | some explicit =>
    if world.isDir explicit then .ok (some (world.resolvePath explicit))
    else .error (.noProject explicit)
  | none => .ok (world.discoverCheckoutRoot (cwd.getD world.processCwd))

/-- The paths of `scope_sources`, in the order of `scopesOf`. -/
def SettingsWorld.scopeSources (world : SettingsWorld) (root : Option Text) :
    Except ResolutionError (List (Option Text)) :=
  let paths := [some world.vendorPath, some world.userPath, root.map world.projectPath] ++
    root.toList.map fun root => some (world.userProjectPath root)
  match world.environConfig with
  | none => .ok paths
  | some explicit =>
    if world.isFile explicit then .ok (paths ++ [some (world.resolvePath explicit)])
    else .error (.noExplicitFile explicit)

/-- The scopes of the sources, and which of them are required. -/
def scopesOf (root : Option Text) : List (Text × Bool) :=
  [("vendor".toList, true), ("user".toList, false), ("project".toList, false)] ++
    root.toList.map (fun _ => ("user-project".toList, false)) ++ [("explicit".toList, true)]

/-- The path of a source, and its stamp where it has one. -/
abbrev SourceStamp := Option Text × Option FileStamp

def SettingsWorld.stamp (world : SettingsWorld) (path : Option Text) : SourceStamp :=
  (path, path.bind world.stat)

/-- The schema, and the file of a path with a stamp: no regular file, one that cannot be loaded, or
the document in it. -/
structure SettingsFiles (α : Type) where
  validate : Json α → List SchemaError
  load : Text → FileStamp → Option (Option (LoadedDocument α))

/-! ## Resolution -/

variable (files : SettingsFiles α)

def sourceOf (scope : Text × Bool) (stamp : SourceStamp) : ScopeSource α where
  scope := scope.1
  path := stamp.1.getD "None".toList
  required := scope.2
  loaded := stamp.1.bind fun path => stamp.2.bind (files.load path)

/-- The settings of the sources with these stamps. -/
def resolveStamped (root : Option Text) (stamps : List SourceStamp) :
    Except ResolutionError (ResolvedSettings α) :=
  (resolveSettings files.validate false ((scopesOf root).zipWith (sourceOf files) stamps)
    []).mapError
    .settings

/-- The arguments of a call, and the world that it finds. -/
structure SettingsCall where
  world : SettingsWorld
  project : Option Text
  cwd : Option Text
  machineOnly : Bool

def SettingsCall.root (call : SettingsCall) : Except ResolutionError (Option Text) :=
  if call.machineOnly then .ok none else call.world.discoverProjectRoot call.project call.cwd

/-- `resolve_settings`. -/
def resolveUncached (call : SettingsCall) : Except ResolutionError (ResolvedSettings α) := do
  let root ← call.root
  let sources ← call.world.scopeSources root
  resolveStamped files root (sources.map call.world.stamp)

/-- The arguments of `_resolve_for_stamp`. -/
structure CacheKey where
  root : Option Text
  stamps : List SourceStamp
  machineOnly : Bool
deriving DecidableEq

/-- What `lru_cache` holds, the entry that was used last at the head. -/
abbrev SettingsCache (α : Type) := List (CacheKey × ResolvedSettings α)

/-- `_resolve_for_stamp`; an error is not kept. -/
def resolveForStamp (world : SettingsWorld) (key : CacheKey) (cache : SettingsCache α) :
    Except ResolutionError (ResolvedSettings α) × SettingsCache α :=
  match cache.find? fun entry => entry.1 = key with
  | some entry => (.ok entry.2, entry :: cache.filter fun other => other.1 ≠ key)
  | none =>
    match resolveUncached files ⟨world, key.root, none, key.machineOnly⟩ with
    | .ok resolved => (.ok resolved, ((key, resolved) :: cache).take 16)
    | .error error => (.error error, cache)

def resolveSettingsCached (cache : SettingsCache α) (call : SettingsCall) :
    Except ResolutionError (ResolvedSettings α) × SettingsCache α :=
  match (do let root ← call.root; return (root, ← call.world.scopeSources root)) with
  | .error error => (.error error, cache)
  | .ok (root, sources) =>
    resolveForStamp files call.world ⟨root, sources.map call.world.stamp, call.machineOnly⟩ cache

/-! ## Agreement -/

/-- A call that finds no project finds none around the process either. -/
def SettingsCall.FindsAgain (call : SettingsCall) : Prop :=
  call.machineOnly = true ∨ call.root ≠ .ok none ∨
    call.world.discoverCheckoutRoot call.world.processCwd = none

/-- Every entry holds the settings of its stamps. -/
def FreshCache (cache : SettingsCache α) : Prop :=
  ∀ entry ∈ cache, resolveStamped files entry.1.root entry.1.stamps = .ok entry.2

variable {files}

/-- The root of a call is a resolved directory. -/
theorem isDir_of_root {call : SettingsCall} {root : Text} (found : call.root = .ok (some root)) :
    call.world.isDir root ∧ call.world.resolvePath root = root := by
  unfold SettingsCall.root SettingsWorld.discoverProjectRoot at found
  split at found
  · cases found
  split at found
  · split at found
    · cases found
      exact call.world.isDir_resolvePath _ ‹_›
    · cases found
  · exact call.world.isDir_checkoutRoot _ _ (Except.ok.inj found)

/-- A root that was found is found again. -/
theorem root_again {call : SettingsCall} {root : Option Text} (found : call.root = .ok root)
    (again : call.FindsAgain) :
    (⟨call.world, root, none, call.machineOnly⟩ : SettingsCall).root = .ok root := by
  by_cases machine : call.machineOnly = true
  · rw [SettingsCall.root, if_pos machine] at found ⊢
    exact found
  rw [SettingsCall.root, if_neg machine, SettingsWorld.discoverProjectRoot]
  cases root with
  | some root =>
    obtain ⟨isDir, resolved⟩ := isDir_of_root found
    change (if call.world.isDir root then _ else _) = _
    rw [if_pos isDir, resolved]
  | none =>
    have nowhere := (again.resolve_left machine).resolve_left (not_not.mpr found)
    rw [SettingsCall.root, if_neg machine, SettingsWorld.discoverProjectRoot] at found
    split at found
    · split at found <;> cases found
    rename_i unset
    have silent : call.world.environProject = none := by
      cases given : call.project with
      | none => rwa [given] at unset
      | some path =>
        rw [given] at unset
        cases unset
    rw [silent]
    exact congrArg Except.ok nowhere

theorem resolveUncached_eq {call : SettingsCall} {root : Option Text}
    {sources : List (Option Text)} (found : call.root = .ok root)
    (listed : call.world.scopeSources root = .ok sources) : resolveUncached files call =
      resolveStamped files root (sources.map call.world.stamp) := by
  rw [resolveUncached, found]
  change (call.world.scopeSources root >>= _) = _
  rw [listed]
  rfl

theorem resolveForStamp_eq {cache : SettingsCache α} {world : SettingsWorld} {key : CacheKey}
    (fresh : FreshCache files cache)
    (anew : resolveUncached files ⟨world, key.root, none, key.machineOnly⟩ =
      resolveStamped files key.root key.stamps) :
    (resolveForStamp files world key cache).1 = resolveStamped files key.root key.stamps ∧
      FreshCache files (resolveForStamp files world key cache).2 := by
  rw [resolveForStamp]
  cases hit : cache.find? fun entry => entry.1 = key with
  | some entry =>
    have held := fresh entry (mem_of_find?_eq_some hit)
    rw [show entry.1 = key by simpa using find?_some hit] at held
    refine ⟨held.symm, fun other listed => ?_⟩
    rcases mem_cons.mp listed with rfl | kept
    · exact fresh _ (mem_of_find?_eq_some hit)
    · exact fresh other (mem_of_mem_filter kept)
  | none =>
    dsimp only
    rw [anew]
    cases outcome : resolveStamped files key.root key.stamps with
    | error error => exact ⟨rfl, fresh⟩
    | ok resolved =>
      refine ⟨rfl, fun other listed => ?_⟩
      rcases mem_cons.mp (mem_of_mem_take listed) with rfl | kept
      · exact outcome
      · exact fresh other kept

/-- **A call with a fresh cache returns what the resolution returns**, and leaves it fresh. -/
theorem resolveSettingsCached_eq {cache : SettingsCache α} {call : SettingsCall}
    (fresh : FreshCache files cache) (again : call.FindsAgain) :
    (resolveSettingsCached files cache call).1 = resolveUncached files call ∧
      FreshCache files (resolveSettingsCached files cache call).2 := by
  rw [resolveSettingsCached]
  cases found : call.root with
  | error error =>
    rw [resolveUncached, found]
    exact ⟨rfl, fresh⟩
  | ok root =>
    cases listed : call.world.scopeSources root with
    | error error =>
      have raised : resolveUncached files call = .error error := by
        rw [resolveUncached, found]
        exact bind_eq_error.mpr (.inr ⟨root, rfl, bind_eq_error.mpr (.inl listed)⟩)
      rw [raised]
      simp only [bind, Except.bind, listed]
      exact ⟨trivial, fresh⟩
    | ok sources =>
      rw [resolveUncached_eq found listed]
      simp only [bind, Except.bind, listed, pure, Except.pure]
      exact resolveForStamp_eq fresh (resolveUncached_eq (root_again found again) listed)

def cacheStep (files : SettingsFiles α) (cache : SettingsCache α) (call : SettingsCall) :
    SettingsCache α :=
  (resolveSettingsCached files cache call).2

/-- **Cached settings are the settings where the root is found again.**  In every sequence of calls
in which a call that finds no project finds none around the process either, each call returns or
raises what the resolution does. -/
theorem cached_settings_agree (files : SettingsFiles α) (calls : List SettingsCall)
    (again : ∀ call ∈ calls, call.FindsAgain) {first later : List SettingsCall}
    {call : SettingsCall} (split : calls = first ++ call :: later) :
    (resolveSettingsCached files (exec (cacheStep files) [] first) call).1 =
      resolveUncached files call := by
  subst split
  have run : Admissible (cacheStep files) (fun _ call => call.FindsAgain) [] first :=
    admissible_of_mem (fun call listed => again call (mem_append_left _ listed)) []
  have kept : ∀ cache call, FreshCache files cache → call.FindsAgain →
      FreshCache files (cacheStep files cache call) :=
    fun _ _ fresh again => (resolveSettingsCached_eq fresh again).2
  have fresh := run.invariant kept (fun _ none => nomatch none)
  exact (resolveSettingsCached_eq fresh (again call (mem_append_right _ mem_cons_self))).1

/-! ## A working directory outside of the checkout -/

def checkoutPath : Text := "/checkout".toList

/-- The process runs in a checkout. -/
def inCheckout : SettingsWorld where
  environProject := none
  environConfig := none
  processCwd := checkoutPath
  isDir _ := true
  isFile _ := true
  resolvePath := id
  discoverCheckoutRoot path := if path = checkoutPath then some path else none
  vendorPath := "/vendor.yaml".toList
  userPath := "/user.yaml".toList
  projectPath root := root ++ "/project.yaml".toList
  userProjectPath root := root ++ "/user-project.yaml".toList
  stat _ := some (0, 0, 0, 0)
  isDir_resolvePath _ _ := ⟨rfl, rfl⟩
  isDir_checkoutRoot _ _ _ := ⟨rfl, rfl⟩

/-- Each file sets its own path. -/
def ownPaths : SettingsFiles ℕ where
  validate _ := []
  load path _ := some (some ⟨path, .map [(path, .scalar 0)], ∅, by
    simp [Json.distinct, Json.distinctEntries]⟩)

def callFrom (cwd : Text) : SettingsCall := ⟨inCheckout, none, some cwd, false⟩

theorem calls_in_checkout_agree :
    (resolveSettingsCached ownPaths (exec (cacheStep ownPaths) [] [callFrom checkoutPath])
      (callFrom checkoutPath)).1 = resolveUncached ownPaths (callFrom checkoutPath) := by
  have found : (callFrom checkoutPath).FindsAgain := .inr (.inl (by decide))
  exact cached_settings_agree ownPaths [callFrom checkoutPath, callFrom checkoutPath]
    (forall_mem_cons.mpr ⟨found, forall_mem_singleton.mpr found⟩) rfl

/-- A call for a directory outside of the checkout is given the settings of the checkout. -/
theorem cached_settings_differ : (resolveSettingsCached ownPaths [] (callFrom [])).1 ≠
    resolveUncached ownPaths (callFrom []) := by
  intro same
  have shown := congrArg (fun result =>
    result.toOption.map fun settings => settings.values.entries.length) same
  revert shown
  decide +kernel

end Audiagentic.Config
