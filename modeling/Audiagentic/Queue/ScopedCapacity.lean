import Mathlib.Order.MinMax
import Audiagentic.Foundations.Dictionaries
import Audiagentic.Foundations.Runs

/-!
# Overlay capacity

`ScopedCapacityAuthority` counts the leases on each policy dimension and keeps the
limits they carry; the strictest limit of the outstanding leases bounds a dimension.
Its three dictionaries stand for one thing, the list of the outstanding leases
(`Represents`); every call keeps them in step with it.
-/

namespace Audiagentic.Queue

open Foundations List Option Dict AList

/-! ## The authority -/

structure OverlayReservation where
  token : String
  scopeKeys : List String
deriving DecidableEq

/-- `ScopedCapacityAuthority`. -/
structure ScopedCapacity where
  usage : Dict String Nat
  limits : Dict String (Dict String Int)
  leases : Dict String (List String)

namespace ScopedCapacity

/-- `__init__`. -/
def empty : ScopedCapacity := ⟨∅, ∅, ∅⟩

/-- `self._usage.get(key, 0)`. -/
def used (authority : ScopedCapacity) (key : String) : Nat :=
  (authority.usage.lookup key).getD 0

/-- `min((*active_limits.values(), limit))`. -/
def effectiveLimit (authority : ScopedCapacity) (key : String) (limit : Int) : Int :=
  (((authority.limits.lookup key).getD ∅).entries.map Sigma.snd).foldl min limit

/-- One round of the admission loop passes. -/
def hasRoom (authority : ScopedCapacity) (scope : String × Int) : Bool :=
  decide ((authority.used scope.1 : Int) < authority.effectiveLimit scope.1 scope.2)

/-- One round of the loop that takes the reservation. -/
def occupy (token : String) (authority : ScopedCapacity) (scope : String × Int) :
    ScopedCapacity :=
  { authority with
    usage := authority.usage.insert scope.1 (authority.used scope.1 + 1)
    limits := authority.limits.insert scope.1
      (((authority.limits.lookup scope.1).getD ∅).insert token scope.2) }

/-- `try_reserve`, with the token that `uuid4` gives. -/
def tryReserve (authority : ScopedCapacity) (scopes : List (String × Int)) (token : String) :
    Option OverlayReservation × ScopedCapacity :=
  if scopes.all authority.hasRoom then
    let occupied := scopes.foldl (occupy token) authority
    let scopeKeys := scopes.map Prod.fst
    (some ⟨token, scopeKeys⟩, { occupied with leases := occupied.leases.insert token scopeKeys })
  else (none, authority)

def vacate (token : String) (authority : ScopedCapacity) (key : String) : ScopedCapacity :=
  { authority with
    usage :=
      if authority.used key ≤ 1 then authority.usage.erase key
      else authority.usage.insert key (authority.used key - 1)
    limits :=
      match authority.limits.lookup key with
      | none => authority.limits
      | some active =>
        let remaining := active.erase token
        if remaining.entries.isEmpty then authority.limits.erase key
        else authority.limits.insert key remaining }

def release (authority : ScopedCapacity) : Option OverlayReservation → ScopedCapacity
  | none => authority
  | some reservation =>
    match authority.leases.lookup reservation.token with
    | none => authority
    | some scopeKeys =>
      scopeKeys.foldl (vacate reservation.token)
        { authority with leases := authority.leases.erase reservation.token }

end ScopedCapacity

/-! ## The outstanding leases -/

structure Lease where
  token : String
  scopes : List (String × Int)

def Lease.limit? (lease : Lease) (key : String) : Option Int :=
  (lease.scopes.find? fun scope => scope.1 = key).map Prod.snd

def Lease.contains (lease : Lease) (key : String) : Bool :=
  (lease.limit? key).isSome

def load (leases : List Lease) (key : String) : Nat :=
  leases.countP fun lease => lease.contains key

def lease? (leases : List Lease) (token : String) : Option Lease :=
  leases.find? fun lease => lease.token = token

def limitOf? (leases : List Lease) (key token : String) : Option Int :=
  (lease? leases token).bind fun lease => lease.limit? key

/-- **The dictionaries stand for the outstanding leases.** -/
structure Represents (authority : ScopedCapacity) (held : List Lease) : Prop where
  tokens : (held.map Lease.token).Nodup
  keys : ∀ lease ∈ held, (lease.scopes.map Prod.fst).Nodup
  leases : ∀ token, authority.leases.lookup token =
    (lease? held token).map fun lease => lease.scopes.map Prod.fst
  usage : ∀ key, authority.usage.lookup key =
    if load held key = 0 then none else some (load held key)
  limits : ∀ key token, ((authority.limits.lookup key).getD ∅).lookup token =
    limitOf? held key token
  /-- A key without limits is not kept. -/
  inhabited : ∀ key, authority.limits.lookup key ≠ some ∅
  bounded : ∀ lease ∈ held, ∀ key limit, lease.limit? key = some limit →
    (load held key : Int) ≤ limit

theorem represents_empty : Represents .empty [] where
  tokens := nodup_nil
  keys := by
    intro lease member
    cases member
  leases := fun token => lookup_empty token
  usage := fun key => lookup_empty key
  limits := by
    intro key token
    rw [ScopedCapacity.empty, lookup_empty]
    exact lookup_empty token
  inhabited := by
    intro key
    rw [ScopedCapacity.empty, lookup_empty]
    exact (some_ne_none _).symm
  bounded := by
    intro lease member
    cases member

variable {leases : List Lease} {authority : ScopedCapacity}

theorem Represents.used (represents : Represents authority leases) (key : String) :
    authority.used key = load leases key := by
  rw [ScopedCapacity.used, represents.usage]
  split
  next free => rw [free]; rfl
  next => rfl

/-! ### Room -/

theorem lt_foldl_min {bound first : Int} {rest : List Int} :
    bound < rest.foldl min first ↔ bound < first ∧ ∀ other ∈ rest, bound < other := by
  induction rest generalizing first with
  | nil => simp
  | cons next rest ih =>
    rw [foldl_cons, ih, lt_min_iff, forall_mem_cons, and_assoc]

/-- There is room when the load is below the new limit and below every limit in force. -/
theorem Represents.hasRoom_iff (represents : Represents authority leases) (scope : String × Int) :
    authority.hasRoom scope = true ↔ (load leases scope.1 : Int) < scope.2 ∧
      ∀ lease ∈ leases, ∀ limit, lease.limit? scope.1 = some limit →
        (load leases scope.1 : Int) < limit := by
  rw [ScopedCapacity.hasRoom, decide_eq_true_iff, ScopedCapacity.effectiveLimit, lt_foldl_min,
    represents.used]
  refine and_congr_right fun _ => ?_
  have values : ∀ limit,
      limit ∈ ((authority.limits.lookup scope.1).getD ∅).entries.map Sigma.snd ↔
        ∃ lease ∈ leases, lease.limit? scope.1 = some limit := by
    intro limit
    rw [List.mem_map]
    constructor
    · rintro ⟨⟨token, found⟩, member, rfl⟩
      rw [Dict.mem_entries_iff, represents.limits, limitOf?, bind_eq_some_iff] at member
      obtain ⟨lease, held, carried⟩ := member
      exact ⟨lease, mem_of_find?_eq_some held, carried⟩
    · rintro ⟨lease, member, carried⟩
      refine ⟨⟨lease.token, limit⟩, ?_, rfl⟩
      rw [Dict.mem_entries_iff, represents.limits, limitOf?, bind_eq_some_iff]
      refine ⟨lease, ?_, carried⟩
      exact find?_eq_some_of_nodup represents.tokens member
  constructor
  · intro below lease member limit carried
    exact below limit ((values limit).mpr ⟨lease, member, carried⟩)
  · intro below limit member
    obtain ⟨lease, held, carried⟩ := (values limit).mp member
    exact below lease held limit carried

/-! ### A reservation -/

def ScopedCapacity.shows (authority : ScopedCapacity) (key : String) :
    Option Nat × Option (Dict String Int) :=
  (authority.usage.lookup key, authority.limits.lookup key)

theorem occupy_shows (token : String) (authority : ScopedCapacity) (scope : String × Int)
    (key : String) :
    (authority.occupy token scope).shows key =
      if key = scope.1 then
        (some (((authority.shows key).1).getD 0 + 1),
          some ((((authority.shows key).2).getD ∅).insert token scope.2))
      else authority.shows key := by
  by_cases same : key = scope.1
  · subst same
    simp [ScopedCapacity.shows, ScopedCapacity.occupy, ScopedCapacity.used]
  · simp [ScopedCapacity.shows, ScopedCapacity.occupy, same, lookup_insert_ne]

theorem foldl_occupy_leases (token : String) (authority : ScopedCapacity)
    (scopes : List (String × Int)) :
    (scopes.foldl (ScopedCapacity.occupy token) authority).leases = authority.leases := by
  induction scopes generalizing authority with
  | nil => rfl
  | cons scope scopes ih =>
    rw [foldl_cons, ih]
    rfl

theorem load_cons (lease : Lease) (leases : List Lease) (key : String) :
    load (lease :: leases) key = load leases key + if lease.contains key then 1 else 0 :=
  countP_cons

theorem lease?_cons (lease : Lease) (leases : List Lease) (token : String) :
    lease? (lease :: leases) token =
      if token = lease.token then some lease else lease? leases token := by
  by_cases same : token = lease.token
  · rw [if_pos same, lease?, find?_cons_of_pos (by simpa using same.symm)]
  · rw [if_neg same, lease?, find?_cons_of_neg (by simpa using fun equal => same equal.symm)]
    rfl

variable {token : String}

theorem lease?_eq_none_of_fresh (fresh : token ∉ leases.map Lease.token) :
    lease? leases token = none := by
  rw [lease?, find?_eq_none]
  intro lease member
  have different : lease.token ≠ token := by
    intro same
    exact fresh (List.mem_map.mpr ⟨lease, member, same⟩)
  simpa using different

theorem reserved_shows {authority : ScopedCapacity} {scopes : List (String × Int)}
    (distinct : (scopes.map Prod.fst).Nodup) (token key : String) :
    (scopes.foldl (ScopedCapacity.occupy token) authority).shows key =
      match (Lease.mk token scopes).limit? key with
      | some limit => (some (authority.used key + 1),
          some (((authority.limits.lookup key).getD ∅).insert token limit))
      | none => authority.shows key := by
  have loop := @read_foldl ScopedCapacity (String × Int) String _ _
    (ScopedCapacity.occupy token) Prod.fst ScopedCapacity.shows
    (fun scope shown => (some (shown.1.getD 0 + 1), some ((shown.2.getD ∅).insert token scope.2)))
    (occupy_shows token) scopes distinct authority key
  rw [loop, Lease.limit?]
  cases scopes.find? (fun scope => scope.1 = key) with
  | none => rfl
  | some scope => rfl

/-- **A reservation adds its lease.**  It is made when every key has room. -/
theorem represents_tryReserve {scopes : List (String × Int)}
    (represents : Represents authority leases) (distinct : (scopes.map Prod.fst).Nodup)
    (fresh : token ∉ leases.map Lease.token) (room : scopes.all authority.hasRoom = true) :
    Represents (authority.tryReserve scopes token).2 (⟨token, scopes⟩ :: leases) := by
  have unknown := lease?_eq_none_of_fresh fresh
  have shown := fun key => @reserved_shows authority scopes distinct token key
  have result : (authority.tryReserve scopes token).2 =
      { scopes.foldl (ScopedCapacity.occupy token) authority with
        leases := authority.leases.insert token (scopes.map Prod.fst) } := by
    simp only [ScopedCapacity.tryReserve, room, if_true, foldl_occupy_leases]
  rw [result]
  constructor
  case tokens => exact nodup_cons.mpr ⟨fresh, represents.tokens⟩
  case keys => exact forall_mem_cons.mpr ⟨distinct, represents.keys⟩
  case leases =>
    intro other
    rw [lease?_cons]
    change (authority.leases.insert token (scopes.map Prod.fst)).lookup other = _
    rw [lookup_insert_eq]
    by_cases same : other = token
    · simp only [if_pos same, map_some]
    · simp only [if_neg same]
      exact represents.leases other
  case usage =>
    intro key
    change ((scopes.foldl (ScopedCapacity.occupy token) authority).shows key).1 = _
    rw [shown, load_cons, Lease.contains]
    cases (Lease.mk token scopes).limit? key with
    | none => simpa [ScopedCapacity.shows] using represents.usage key
    | some limit => simp [represents.used]
  case limits =>
    intro key other
    change ((((scopes.foldl (ScopedCapacity.occupy token) authority).shows key).2).getD
      ∅).lookup other = _
    rw [shown, limitOf?, lease?_cons]
    cases carried : (Lease.mk token scopes).limit? key with
    | none =>
      by_cases same : other = token
      · subst same
        rw [if_pos rfl, bind_some, carried]
        exact (represents.limits key other).trans (by rw [limitOf?, unknown]; rfl)
      · rw [if_neg same]
        exact represents.limits key other
    | some limit =>
      simp only [getD_some]
      rw [lookup_insert_eq]
      by_cases same : other = token
      · subst same
        rw [if_pos rfl, if_pos rfl, bind_some, carried]
      · rw [if_neg same, if_neg same]
        exact represents.limits key other
  case inhabited =>
    intro key impossible
    change ((scopes.foldl (ScopedCapacity.occupy token) authority).shows key).2 = _ at impossible
    rw [shown] at impossible
    cases carried : (Lease.mk token scopes).limit? key with
    | none =>
      rw [carried] at impossible
      exact represents.inhabited key impossible
    | some limit =>
      rw [carried] at impossible
      have found := @lookup_insert _ _ _ token limit
        ((authority.limits.lookup key).getD ∅)
      rw [Option.some.inj impossible, lookup_empty] at found
      cases found
  case bounded =>
    intro lease member key limit carried
    rw [load_cons, Lease.contains]
    cases taken : (Lease.mk token scopes).limit? key with
    | none =>
      rcases mem_cons.mp member with rfl | member
      · rw [taken] at carried
        cases carried
      · simpa using represents.bounded lease member key limit carried
    | some newLimit =>
      -- The key is among the scopes, so it had room.
      obtain ⟨scope, found, rfl⟩ := map_eq_some_iff.mp taken
      have sameKey : scope.1 = key := by simpa using find?_some found
      subst sameKey
      have below := (represents.hasRoom_iff scope).mp
        (List.all_eq_true.mp room scope (mem_of_find?_eq_some found))
      rcases mem_cons.mp member with rfl | member
      · rw [taken] at carried
        cases carried
        have strict := below.1
        simp only [isSome_some, if_true]
        omega
      · have strict := below.2 lease member limit carried
        simp only [isSome_some, if_true]
        omega

/-! ### A release -/

def without (leases : List Lease) (token : String) : List Lease :=
  leases.filter fun lease => lease.token ≠ token

theorem mem_without {lease : Lease} :
    lease ∈ without leases token ↔ lease ∈ leases ∧ lease.token ≠ token := by
  rw [without, mem_filter, decide_eq_true_iff]

theorem without_eq_self (fresh : token ∉ leases.map Lease.token) :
    without leases token = leases := by
  rw [without, filter_eq_self]
  intro lease member
  have different : lease.token ≠ token := by
    intro same
    exact fresh (List.mem_map.mpr ⟨lease, member, same⟩)
  simpa using different

theorem lease?_without (leases : List Lease) (token other : String) :
    lease? (without leases token) other =
      if other = token then none else lease? leases other :=
  find?_filter_key_ne Lease.token leases token other

theorem load_without {lease : Lease} (distinct : (leases.map Lease.token).Nodup)
    (held : lease? leases token = some lease) (key : String) :
    load leases key =
      load (without leases token) key + if lease.contains key then 1 else 0 := by
  induction leases with
  | nil => cases held
  | cons first rest ih =>
    obtain ⟨fresh, distinct⟩ := nodup_cons.mp distinct
    rw [lease?_cons] at held
    by_cases here : token = first.token
    · rw [if_pos here] at held
      cases held
      have shorter : without (lease :: rest) token = without rest token :=
        filter_cons_of_neg (by simpa using here.symm)
      rw [shorter, without_eq_self (here ▸ fresh), load_cons]
    · rw [if_neg here] at held
      have kept : without (first :: rest) token = first :: without rest token :=
        filter_cons_of_pos (by simpa using fun equal => here equal.symm)
      rw [kept, load_cons, load_cons, ih distinct held]
      omega

/-- One round of the release loop on the usage of a key. -/
def lowered : Option Nat → Option Nat
  | none => none
  | some used => if used ≤ 1 then none else some (used - 1)

/-- One round of the release loop on the limits of a key. -/
def lifted (token : String) : Option (Dict String Int) → Option (Dict String Int)
  | none => none
  | some active => if (active.erase token).entries.isEmpty then none else some (active.erase token)

theorem lifted_lookup (token other : String) (limits : Option (Dict String Int)) :
    ((lifted token limits).getD ∅).lookup other =
      if other = token then none else (limits.getD ∅).lookup other := by
  cases limits with
  | none => simp [lifted]
  | some active =>
    rw [getD_some, ← lookup_erase_eq, lifted]
    split
    next last =>
      have nothing : active.erase token = ∅ := AList.ext (List.isEmpty_iff.mp last)
      rw [nothing]
      rfl
    next => rfl

theorem lifted_ne_empty (token : String) (limits : Option (Dict String Int)) :
    lifted token limits ≠ some ∅ := by
  cases limits with
  | none => simp [lifted]
  | some active =>
    intro emptied
    rw [lifted] at emptied
    split at emptied
    next => cases emptied
    next kept =>
      rw [Option.some.inj emptied] at kept
      exact kept rfl

theorem vacate_shows (token : String) (authority : ScopedCapacity) (key other : String) :
    (authority.vacate token key).shows other =
      if other = key then
        (lowered (authority.shows other).1, lifted token (authority.shows other).2)
      else authority.shows other := by
  by_cases same : other = key
  · subst same
    rw [if_pos rfl]
    refine Prod.ext ?_ ?_
    · simp only [ScopedCapacity.shows, ScopedCapacity.vacate]
      rcases eq_none_or_eq_some (authority.usage.lookup other) with found | ⟨used, found⟩
      · have value : authority.used other = 0 := by simp [ScopedCapacity.used, found]
        simp [value, found, lowered]
      · have value : authority.used other = used := by simp [ScopedCapacity.used, found]
        by_cases last : used ≤ 1 <;> simp [value, found, lowered, last]
    · simp only [ScopedCapacity.shows, ScopedCapacity.vacate]
      cases found : authority.limits.lookup other with
      | none => simpa [lifted] using found
      | some active =>
        by_cases last : (active.erase token).entries.isEmpty = true <;> simp [lifted, last]
  · rw [if_neg same]
    refine Prod.ext ?_ ?_
    · simp only [ScopedCapacity.shows, ScopedCapacity.vacate]
      split
      · rw [lookup_erase_eq, if_neg same]
      · rw [lookup_insert_eq, if_neg same]
    · simp only [ScopedCapacity.shows, ScopedCapacity.vacate]
      split
      · rfl
      · split
        · rw [lookup_erase_eq, if_neg same]
        · rw [lookup_insert_eq, if_neg same]

theorem foldl_vacate_leases (token : String) (authority : ScopedCapacity) (keys : List String) :
    (keys.foldl (ScopedCapacity.vacate token) authority).leases = authority.leases := by
  induction keys generalizing authority with
  | nil => rfl
  | cons key keys ih =>
    rw [foldl_cons, ih]
    rfl

theorem mem_keys_iff (lease : Lease) (key : String) :
    key ∈ lease.scopes.map Prod.fst ↔ lease.contains key = true := by
  rw [Lease.contains, Lease.limit?, isSome_map, find?_isSome, List.mem_map]
  simp only [decide_eq_true_iff]

theorem released_shows {lease : Lease} (distinct : (lease.scopes.map Prod.fst).Nodup)
    (token key : String) :
    ((lease.scopes.map Prod.fst).foldl (ScopedCapacity.vacate token) authority).shows key =
      if lease.contains key then
        (lowered (authority.shows key).1, lifted token (authority.shows key).2)
      else authority.shows key := by
  have loop := @read_foldl ScopedCapacity String String _ _
    (ScopedCapacity.vacate token) id ScopedCapacity.shows
    (fun _ shown => (lowered shown.1, lifted token shown.2))
    (vacate_shows token) (lease.scopes.map Prod.fst) (by rwa [List.map_id]) authority key
  rw [loop]
  by_cases contained : lease.contains key = true
  · have found : ((lease.scopes.map Prod.fst).find? fun item => id item = key).isSome := by
      rw [find?_isSome]
      exact ⟨key, (mem_keys_iff lease key).mpr contained, by simp⟩
    rw [if_pos contained]
    obtain ⟨item, found⟩ := isSome_iff_exists.mp found
    rw [found]
  · have missing : ((lease.scopes.map Prod.fst).find? fun item => id item = key) = none := by
      rw [find?_eq_none]
      intro item member same
      have equal : item = key := by simpa using same
      exact contained ((mem_keys_iff lease key).mp (equal ▸ member))
    rw [if_neg contained, missing]

/-- **A release removes its lease.** -/
theorem represents_release (represents : Represents authority leases)
    (reservation : OverlayReservation) :
    Represents (authority.release (some reservation)) (without leases reservation.token) := by
  cases held : lease? leases reservation.token with
  | none =>
    -- An unknown token: nothing is removed on either side.
    have unknown : authority.leases.lookup reservation.token = none := by
      rw [represents.leases, held]
      rfl
    have fresh : reservation.token ∉ leases.map Lease.token := by
      intro member
      obtain ⟨lease, member, same⟩ := List.mem_map.mp member
      have absent := find?_eq_none.mp held lease member
      exact absent (by simpa using same)
    rw [without_eq_self fresh]
    simpa only [ScopedCapacity.release, unknown] using represents
  | some lease =>
    have member : lease ∈ leases := mem_of_find?_eq_some held
    have known : authority.leases.lookup reservation.token =
        some (lease.scopes.map Prod.fst) := by
      rw [represents.leases, held]
      rfl
    have distinct := represents.keys lease member
    have counts := fun key => load_without represents.tokens held key
    have result : authority.release (some reservation) =
        (lease.scopes.map Prod.fst).foldl (ScopedCapacity.vacate reservation.token)
          { authority with leases := authority.leases.erase reservation.token } := by
      simp only [ScopedCapacity.release, known]
    have shown : ∀ key, (authority.release (some reservation)).shows key =
        if lease.contains key then
          (lowered (authority.shows key).1, lifted reservation.token (authority.shows key).2)
        else authority.shows key := by
      intro key
      rw [result, released_shows distinct]
      rfl
    constructor
    case tokens => exact represents.tokens.sublist (filter_sublist.map _)
    case keys =>
      intro other kept
      exact represents.keys other (mem_without.mp kept).1
    case leases =>
      intro other
      rw [result, foldl_vacate_leases, lookup_erase_eq, lease?_without]
      by_cases same : other = reservation.token
      · rw [if_pos same, if_pos same]
        rfl
      · rw [if_neg same, if_neg same]
        exact represents.leases other
    case usage =>
      intro key
      change ((authority.release (some reservation)).shows key).1 = _
      rw [shown]
      have before := represents.usage key
      rw [counts key] at before
      by_cases contained : lease.contains key = true
      · rw [if_pos contained] at before ⊢
        simp only [ScopedCapacity.shows, before, lowered]
        by_cases last : load (without leases reservation.token) key = 0 <;> simp [last]
      · rw [if_neg contained] at before ⊢
        exact before
    case limits =>
      intro key other
      change ((((authority.release (some reservation)).shows key).2).getD ∅).lookup other = _
      rw [shown, limitOf?, lease?_without]
      have before := represents.limits key other
      by_cases contained : lease.contains key = true
      · rw [if_pos contained, lifted_lookup]
        by_cases same : other = reservation.token
        · rw [if_pos same, if_pos same]
          rfl
        · rw [if_neg same, if_neg same]
          exact before
      · rw [if_neg contained]
        by_cases same : other = reservation.token
        · have silent : lease.limit? key = none := by simpa [Lease.contains] using contained
          rw [if_pos same]
          rw [limitOf?, same, held, bind_some, silent] at before
          rw [same]
          exact before
        · rw [if_neg same]
          exact before
    case inhabited =>
      intro key impossible
      change ((authority.release (some reservation)).shows key).2 = _ at impossible
      rw [shown] at impossible
      by_cases contained : lease.contains key = true
      · rw [if_pos contained] at impossible
        exact lifted_ne_empty _ _ impossible
      · rw [if_neg contained] at impossible
        exact represents.inhabited key impossible
    case bounded =>
      intro other kept key limit carried
      have before := represents.bounded other (mem_without.mp kept).1 key limit carried
      have fewer := counts key
      omega

/-! ## Runs -/

/-- The authority with what its callers have seen of it. -/
structure OverlayRun where
  authority : ScopedCapacity
  /-- The leases that were granted and are not released. -/
  held : List Lease
  /-- Every token that was granted. -/
  issued : List String

namespace OverlayRun

def init : OverlayRun := ⟨.empty, [], []⟩

end OverlayRun

inductive OverlayCall where
  /-- `try_reserve`, with the next `uuid4`. -/
  | tryReserve (scopes : List (String × Int)) (token : String)
  | release (reservation : Option OverlayReservation)

def OverlayRun.step (run : OverlayRun) : OverlayCall → OverlayRun
  | .tryReserve scopes token =>
    match run.authority.tryReserve scopes token with
    | (none, authority) => { run with authority := authority }
    | (some _, authority) => ⟨authority, ⟨token, scopes⟩ :: run.held, token :: run.issued⟩
  | .release none => { run with authority := run.authority.release none }
  | .release (some reservation) =>
    { run with
      authority := run.authority.release (some reservation)
      held := without run.held reservation.token }

/-- What the callers promise: the keys of one reservation are distinct, and `uuid4` does not
repeat a token. -/
def OverlayRun.allows (run : OverlayRun) : OverlayCall → Prop
  | .tryReserve scopes token => (scopes.map Prod.fst).Nodup ∧ token ∉ run.issued
  | .release _ => True

structure OverlayRun.Sound (run : OverlayRun) : Prop where
  represents : Represents run.authority run.held
  granted : ∀ token ∈ run.held.map Lease.token, token ∈ run.issued

theorem tryReserve_fst (authority : ScopedCapacity) (scopes : List (String × Int))
    (token : String) :
    (authority.tryReserve scopes token).1 =
      if scopes.all authority.hasRoom then some ⟨token, scopes.map Prod.fst⟩ else none := by
  rw [ScopedCapacity.tryReserve]
  split <;> rfl

theorem tryReserve_refused {scopes : List (String × Int)}
    (refused : (authority.tryReserve scopes token).1 = none) :
    (authority.tryReserve scopes token).2 = authority := by
  rw [tryReserve_fst] at refused
  split at refused
  next => cases refused
  next full => rw [ScopedCapacity.tryReserve, if_neg full]

theorem OverlayRun.step_reserve (run : OverlayRun) (scopes : List (String × Int))
    (token : String) :
    run.step (.tryReserve scopes token) =
      if scopes.all run.authority.hasRoom then
        ⟨(run.authority.tryReserve scopes token).2, ⟨token, scopes⟩ :: run.held,
          token :: run.issued⟩
      else run := by
  rw [step, ScopedCapacity.tryReserve]
  by_cases room : scopes.all run.authority.hasRoom = true
  · simp only [room, if_true]
  · simp only [room]
    rfl

theorem OverlayRun.Sound.step {run : OverlayRun} (sound : run.Sound) {call : OverlayCall}
    (allowed : run.allows call) : (run.step call).Sound := by
  match call, allowed with
  | .tryReserve scopes token, ⟨distinct, fresh⟩ =>
    rw [step_reserve]
    split
    next room =>
      have unknown : token ∉ run.held.map Lease.token :=
        fun member => fresh (sound.granted token member)
      refine ⟨represents_tryReserve sound.represents distinct unknown room, ?_⟩
      intro other member
      rcases mem_cons.mp member with rfl | member
      · exact mem_cons_self
      · exact mem_cons_of_mem token (sound.granted other member)
    next => exact sound
  | .release none, _ => exact sound
  | .release (some reservation), _ =>
    refine ⟨represents_release sound.represents reservation, ?_⟩
    intro token member
    obtain ⟨lease, kept, rfl⟩ := List.mem_map.mp member
    exact sound.granted _ (List.mem_map_of_mem (mem_without.mp kept).1)

theorem OverlayRun.sound_init : init.Sound :=
  ⟨represents_empty, fun _ member => member⟩

theorem Represents.eq_empty (represents : Represents authority []) : authority = .empty := by
  obtain ⟨usage, limits, leases⟩ := authority
  have noUsage : usage = ∅ := eq_empty_iff.mpr represents.usage
  have noLeases : leases = ∅ := eq_empty_iff.mpr represents.leases
  have noLimits : limits = ∅ := by
    refine eq_empty_iff.mpr fun key => ?_
    rcases eq_none_or_eq_some (limits.lookup key) with missing | ⟨active, found⟩
    · exact missing
    -- The limits of the key would be empty, and such a key is not kept.
    have silent : ∀ token, active.lookup token = none := by
      intro token
      have shown := represents.limits key token
      simp only [found, getD_some] at shown
      exact shown
    have nothing : active = ∅ := eq_empty_iff.mpr silent
    exact absurd (found.trans (congrArg some nothing)) (represents.inhabited key)
  rw [noUsage, noLimits, noLeases]
  rfl

theorem Represents.release_eq_self (represents : Represents authority leases)
    {reservation : OverlayReservation} (ended : reservation.token ∉ leases.map Lease.token) :
    authority.release (some reservation) = authority := by
  have unknown : authority.leases.lookup reservation.token = none := by
    rw [represents.leases, lease?_eq_none_of_fresh ended]
    rfl
  simp only [ScopedCapacity.release, unknown]

theorem OverlayRun.ended_step {run : OverlayRun} {call : OverlayCall} (allowed : run.allows call)
    (ended : token ∈ run.issued ∧ token ∉ run.held.map Lease.token) :
    token ∈ (run.step call).issued ∧ token ∉ (run.step call).held.map Lease.token := by
  match call, allowed with
  | .tryReserve scopes other, ⟨_, fresh⟩ =>
    rw [step_reserve]
    split
    next =>
      refine ⟨mem_cons_of_mem other ended.1, ?_⟩
      intro member
      rcases mem_cons.mp member with same | member
      · have repeated : token = other := same
        exact fresh (repeated ▸ ended.1)
      · exact ended.2 member
    next => exact ended
  | .release none, _ => exact ended
  | .release (some reservation), _ =>
    refine ⟨ended.1, fun member => ended.2 ?_⟩
    obtain ⟨lease, kept, rfl⟩ := List.mem_map.mp member
    exact List.mem_map_of_mem (mem_without.mp kept).1

/-- **Overlay capacity.**  After every sequence of calls: the usage of a key is the number of
outstanding leases that contain it, and at most every limit that an outstanding lease carries
on it; a refused reservation changes nothing; a second release of a lease changes nothing,
whatever was called between the two; and without outstanding leases the authority is empty. -/
theorem overlay_capacity (calls : List OverlayCall)
    (admissible : Admissible OverlayRun.step OverlayRun.allows .init calls) :
    (∀ key, (exec OverlayRun.step .init calls).authority.used key =
        load (exec OverlayRun.step .init calls).held key) ∧
      (∀ key, ∀ lease ∈ (exec OverlayRun.step .init calls).held, ∀ limit,
        lease.limit? key = some limit →
          ((exec OverlayRun.step .init calls).authority.used key : Int) ≤ limit) ∧
      (∀ scopes token,
        ((exec OverlayRun.step .init calls).authority.tryReserve scopes token).1 = none →
          ((exec OverlayRun.step .init calls).authority.tryReserve scopes token).2 =
            (exec OverlayRun.step .init calls).authority) ∧
      (∀ reservation : OverlayReservation, ∀ later : List OverlayCall,
        later = [] ∨ reservation.token ∈ (exec OverlayRun.step .init calls).issued →
        Admissible OverlayRun.step OverlayRun.allows
          ((exec OverlayRun.step .init calls).step (.release (some reservation))) later →
        (exec OverlayRun.step ((exec OverlayRun.step .init calls).step
            (.release (some reservation))) later).authority.release (some reservation) =
          (exec OverlayRun.step ((exec OverlayRun.step .init calls).step
            (.release (some reservation))) later).authority) ∧
      ((exec OverlayRun.step .init calls).held = [] →
        (exec OverlayRun.step .init calls).authority = .empty) := by
  have steps : ∀ (run : OverlayRun) (call : OverlayCall), run.Sound → run.allows call →
      (run.step call).Sound := fun run call sound allowed => sound.step allowed
  have sound := admissible.invariant steps OverlayRun.sound_init
  refine ⟨sound.represents.used, ?_, ?_, ?_, ?_⟩
  · intro key lease member limit carried
    rw [sound.represents.used]
    exact sound.represents.bounded lease member key limit carried
  · intro scopes token
    exact tryReserve_refused
  · intro reservation later known continued
    have released : ((exec OverlayRun.step .init calls).step
        (.release (some reservation))).Sound := sound.step trivial
    have gone : reservation.token ∉
        ((exec OverlayRun.step .init calls).step (.release (some reservation))).held.map
          Lease.token := by
      intro member
      obtain ⟨lease, member, same⟩ := List.mem_map.mp member
      exact (mem_without.mp member).2 same
    rcases known with rfl | issued
    · exact released.represents.release_eq_self gone
    have stays : ∀ (run : OverlayRun) (call : OverlayCall),
        (run.Sound ∧ reservation.token ∈ run.issued ∧
          reservation.token ∉ run.held.map Lease.token) → run.allows call →
        (run.step call).Sound ∧ reservation.token ∈ (run.step call).issued ∧
          reservation.token ∉ (run.step call).held.map Lease.token :=
      fun run call holds allowed => ⟨holds.1.step allowed, OverlayRun.ended_step allowed holds.2⟩
    have after := continued.invariant stays ⟨released, issued, gone⟩
    exact after.1.represents.release_eq_self after.2.2
  · intro nothing
    exact (nothing ▸ sound.represents).eq_empty

/-- Two reservations, a stricter one that is refused, and a release. -/
def overlaySample : List OverlayCall :=
  [.tryReserve [("global", 2), ("project:p", 3)] "a", .tryReserve [("global", 4)] "b",
    .tryReserve [("global", 2)] "c", .release (some ⟨"a", ["global", "project:p"]⟩)]

theorem overlay_sample_capacity :
    (exec OverlayRun.step .init overlaySample).authority.used "global" = 1 ∧
      (exec OverlayRun.step .init overlaySample).authority.used "project:p" = 0 := by
  have admissible : Admissible OverlayRun.step OverlayRun.allows .init overlaySample := by
    refine ⟨⟨by decide, by decide⟩, ⟨by decide, by decide⟩, ⟨by decide, by decide⟩, trivial,
      trivial⟩
  have counts := (overlay_capacity overlaySample admissible).1
  exact ⟨(counts "global").trans (by decide), (counts "project:p").trans (by decide)⟩

/-! ### The scopes of the queue -/

/-- The limits that `_scope_keys` reads. -/
structure CapacityLimits where
  global : Option Int
  globalExplicit : Bool
  project : Option Int
deriving DecidableEq

/-- The keys of `_scope_keys`; `projectScope` is the encoded profile and project. -/
def scopeKeys (limits : CapacityLimits) (projectScope : String) : List (String × Int) :=
  (if limits.globalExplicit then limits.global.toList.map fun limit => ("global", limit) else []) ++
    limits.project.toList.map fun limit => ("project:" ++ projectScope, limit)

end Audiagentic.Queue
