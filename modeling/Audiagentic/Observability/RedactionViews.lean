import Audiagentic.Observability.Redaction

/-!
# What redaction lets through

Two values that differ only under classified keys have the same summary and the same safe metadata.
Error details that differ only under secret keys are redacted to the same details as long as the
secret keys are not below a bulk key, whose value is kept as it is unless it is a text.  The search
for a key that must not be logged looks sixteen levels deep.
-/

namespace Audiagentic.Observability

open Foundations List Option Json

/-! ## Views -/

def classifiedView (key : Text) : KeyView := if isDenylisted key then .hidden else .inspected

def secretView (key : Text) : KeyView := if isSensitiveKey key then .hidden else .inspected

/-- The values under secret keys are hidden, except below a bulk key. -/
def errorView (key : Text) : KeyView :=
  if isSensitiveKey key then .hidden else if isBulkKey key then .verbatim else .inspected

theorem errorView_eq_hidden {key : Text} (hidden : errorView key = .hidden) :
    isSensitiveKey key = true := by
  unfold errorView at hidden
  split at hidden
  · assumption
  · split at hidden <;> cases hidden

theorem errorView_eq_inspected {key : Text} (inspected : errorView key = .inspected) :
    isSensitiveKey key = false ∧ isBulkKey key = false := by
  unfold errorView at inspected
  cases secret : isSensitiveKey key with
  | true =>
    rw [secret] at inspected
    cases inspected
  | false =>
    cases bulk : isBulkKey key with
    | true =>
      rw [secret, bulk] at inspected
      cases inspected
    | false => exact ⟨rfl, rfl⟩

/-! ## The summary -/

section Summary

variable (redactText : Text → Text)

mutual
/-- **The summary does not depend on what is classified.** -/
theorem summarizeValue_agree : ∀ {first second : Json Scalar} (depth : ℕ),
    Json.agree classifiedView first second →
      summarizeValue redactText depth first = summarizeValue redactText depth second
  | .null, .null, _, _ => rfl
  | .scalar _, .scalar _, _, same => by rw [show _ = _ from same]
  | .list items, .list items', depth, same => by
    simp only [summarizeValue, summarizeItems_agree depth maxStructEntries same,
      length_agreeItems same]
  | .map entries, .map entries', depth, same => by
    simp only [summarizeValue, summarizeEntries_agree depth maxStructEntries same,
      length_agreeEntries same]

theorem summarizeItems_agree : ∀ {first second : List (Json Scalar)} (depth left : ℕ),
    Json.agreeItems classifiedView first second →
      summarizeItems redactText depth left first = summarizeItems redactText depth left second
  | [], [], _, _, _ => rfl
  | _ :: _, _ :: _, _, 0, _ => rfl
  | _ :: _, _ :: _, depth, left + 1, ⟨here, later⟩ => by
    rw [summarizeItems, summarizeItems, summarizeValue_agree (depth + 1) here,
      summarizeItems_agree depth left later]

theorem summarizeEntries_agree : ∀ {first second : Json.Entries Scalar} (depth left : ℕ),
    Json.agreeEntries classifiedView first second →
      summarizeEntries redactText depth left first = summarizeEntries redactText depth left second
  | [], [], _, _, _ => rfl
  | (_, _) :: _, (_, _) :: _, _, 0, _ => rfl
  | (key, _) :: _, (_, _) :: _, depth, left + 1, ⟨rfl, here, later⟩ => by
    rw [summarizeEntries, summarizeEntries, summarizeEntries_agree depth left later]
    cases denied : isDenylisted key with
    | true => rfl
    | false =>
      rw [classifiedView, denied] at here
      rw [if_neg Bool.false_ne_true, if_neg Bool.false_ne_true,
        summarizeValue_agree (depth + 1) here]
end

theorem safeMetadataKeys_plain : ∀ key ∈ safeMetadataKeys, classifiedView key = .inspected := by
  decide

theorem safeMetadata_agree {first second : Json Scalar}
    (same : Json.agree classifiedView first second) :
    safeMetadata redactText first = safeMetadata redactText second := by
  have entries : Json.agreeEntries classifiedView first.entries second.entries := by
    cases first <;> cases second <;> trivial
  refine filterMap_congr fun key safe => ?_
  rcases lookup_agreeEntries key entries with
    ⟨here, there⟩ | ⟨_, _, here, there, seen⟩
  · rw [here, there]
  · rw [safeMetadataKeys_plain key safe] at seen
    rw [here, there, map_some, map_some, summarizeValue_agree redactText 0 seen]

end Summary

/-! ## Error details -/

section Errors

variable (redactText : Text → Text) (secretShaped : Text → Bool)

mutual
theorem redactErrorValue_agree : ∀ {first second : Json Scalar} {key : Text},
    errorView key = .inspected → Json.agree errorView first second →
      redactErrorValue redactText key first = redactErrorValue redactText key second
  | .null, .null, _, _, _ => rfl
  | .scalar _, .scalar _, _, _, same => by rw [show _ = _ from same]
  | .list items, .list items', key, plain, same => by
    obtain ⟨notSecret, notBulk⟩ := errorView_eq_inspected plain
    simp only [redactErrorValue, notSecret, notBulk, Bool.false_eq_true, if_false,
      redactErrorItems_agree plain same]
  | .map entries, .map entries', key, plain, same => by
    obtain ⟨notSecret, notBulk⟩ := errorView_eq_inspected plain
    simp only [redactErrorValue, notSecret, notBulk, Bool.false_eq_true, if_false,
      redactErrorEntries_agree same]

theorem redactErrorItems_agree : ∀ {first second : List (Json Scalar)} {key : Text},
    errorView key = .inspected → Json.agreeItems errorView first second →
      redactErrorItems redactText key first = redactErrorItems redactText key second
  | [], [], _, _, _ => rfl
  | _ :: _, _ :: _, _, plain, ⟨here, later⟩ => by
    rw [redactErrorItems, redactErrorItems, redactErrorValue_agree plain here,
      redactErrorItems_agree plain later]

/-- **Redacted details do not depend on what is secret.** -/
theorem redactErrorEntries_agree : ∀ {first second : Json.Entries Scalar},
    Json.agreeEntries errorView first second →
      redactErrorEntries redactText first = redactErrorEntries redactText second
  | [], [], _ => rfl
  | (key, _) :: _, (_, _) :: _, ⟨rfl, here, later⟩ => by
    rw [redactErrorEntries, redactErrorEntries, redactErrorEntries_agree later]
    cases seen : errorView key with
    | hidden =>
      have secret := errorView_eq_hidden seen
      unfold redactErrorValue
      rw [secret, if_pos rfl, if_pos rfl]
    | verbatim =>
      rw [seen] at here
      rw [show _ = _ from here]
    | inspected =>
      rw [seen] at here
      rw [redactErrorValue_agree seen here]
end

mutual
theorem redactDetailValue_agree : ∀ {first second : Json Scalar} (key : Text),
    Json.agree errorView first second →
      Json.agree errorView (redactDetailValue secretShaped key first)
        (redactDetailValue secretShaped key second)
  | .null, .null, _, _ => trivial
  | .scalar (.str _), .scalar _, _, same => by
    cases same
    exact rfl
  | .scalar (.bool _), .scalar _, _, same | .scalar (.int _), .scalar _, _, same
  | .scalar (.float _), .scalar _, _, same => by
    cases same
    exact rfl
  | .list _, .list _, key, same => redactDetailItems_agree key same
  | .map _, .map _, _, same => redactDetails_agree same

theorem redactDetailItems_agree : ∀ {first second : List (Json Scalar)} (key : Text),
    Json.agreeItems errorView first second →
      Json.agreeItems errorView (redactDetailItems secretShaped key first)
        (redactDetailItems secretShaped key second)
  | [], [], _, _ => trivial
  | _ :: _, _ :: _, key, ⟨here, later⟩ =>
    ⟨redactDetailValue_agree key here, redactDetailItems_agree key later⟩

theorem redactDetails_agree : ∀ {first second : Json.Entries Scalar},
    Json.agreeEntries errorView first second →
      Json.agreeEntries errorView (redactDetails secretShaped first)
        (redactDetails secretShaped second)
  | [], [], _ => trivial
  | (key, _) :: _, (_, _) :: _, ⟨rfl, here, later⟩ => by
    refine ⟨rfl, ?_, redactDetails_agree later⟩
    cases seen : errorView key with
    | hidden => trivial
    | verbatim =>
      rw [seen] at here
      exact congrArg (redactDetailValue secretShaped key) here
    | inspected =>
      rw [seen] at here
      exact redactDetailValue_agree key here
end

theorem setEntries_setEntries (key : Text) (first second : Json Scalar)
    (entries : Json.Entries Scalar) :
    OrderedDict.setEntries key first (OrderedDict.setEntries key second entries) =
      OrderedDict.setEntries key first entries := by
  induction entries with
  | nil => simp [OrderedDict.setEntries]
  | cons entry rest ih =>
    by_cases same : entry.1 = key
    · simp [OrderedDict.setEntries, same]
    · simp [OrderedDict.setEntries, same, ih]

theorem redactErrorEnvelope_set (envelope details : Json.Entries Scalar) :
    redactErrorEnvelope redactText (OrderedDict.setEntries detailsKey (.map details) envelope) =
      OrderedDict.setEntries detailsKey (.map (redactErrorEntries redactText details))
      envelope := by
  unfold redactErrorEnvelope
  rw [lookup_set, if_pos rfl]
  exact setEntries_setEntries detailsKey _ _ envelope

end Errors

/-! ## The search -/

mutual
theorem findDenylistedKey_sound : ∀ {value : Json Scalar} {depth : ℕ} {key : Text},
    findDenylistedKey depth value = some key → isDenylisted key = true ∧
      ∃ below, depth + below ≤ 16 ∧ Json.HasKey key below value
  | .null, depth, _, found | .scalar _, depth, _, found => by
    unfold findDenylistedKey at found
    split at found <;> cases found
  | .list items, depth, key, found => by
    rw [findDenylistedKey] at found
    split at found
    · cases found
    · obtain ⟨denied, below, item, member, near, inside⟩ := findInItems_sound found
      exact ⟨denied, below + 1, by omega, .inList member inside⟩
  | .map entries, depth, key, found => by
    rw [findDenylistedKey] at found
    split at found
    · cases found
    next shallow =>
    obtain ⟨denied, ⟨value, member⟩ | ⟨below, other, value, member, near, inside⟩⟩ :=
      findInEntries_sound found
    · exact ⟨denied, 0, by omega, .here member⟩
    · exact ⟨denied, below + 1, by omega, .inMap member inside⟩

theorem findInItems_sound : ∀ {items : List (Json Scalar)} {depth : ℕ} {key : Text},
    findInItems depth items = some key → isDenylisted key = true ∧
      ∃ below, ∃ item ∈ items, depth + 1 + below ≤ 16 ∧ Json.HasKey key below item
  | [], _, _, found => by cases found
  | item :: rest, depth, key, found => by
    rw [findInItems, or_eq_some_iff] at found
    rcases found with here | ⟨_, later⟩
    · obtain ⟨denied, below, near, inside⟩ := findDenylistedKey_sound here
      exact ⟨denied, below, item, mem_cons_self, near, inside⟩
    · obtain ⟨denied, below, other, member, near, inside⟩ := findInItems_sound later
      exact ⟨denied, below, other, mem_cons_of_mem _ member, near, inside⟩

theorem findInEntries_sound : ∀ {entries : Json.Entries Scalar} {depth : ℕ} {key : Text},
    findInEntries depth entries = some key → isDenylisted key = true ∧
      ((∃ value, (key, value) ∈ entries) ∨
        ∃ below other value, (other, value) ∈ entries ∧ depth + 1 + below ≤ 16 ∧
          Json.HasKey key below value)
  | [], _, _, found => by cases found
  | (other, value) :: rest, depth, key, found => by
    rw [findInEntries] at found
    split at found
    · next denied =>
      cases found
      exact ⟨denied, .inl ⟨value, mem_cons_self⟩⟩
    rw [or_eq_some_iff] at found
    rcases found with here | ⟨_, later⟩
    · obtain ⟨denied, below, near, inside⟩ := findDenylistedKey_sound here
      exact ⟨denied, .inr ⟨below, other, value, mem_cons_self, near, inside⟩⟩
    obtain ⟨denied, ⟨value, member⟩ | ⟨below, other, value, member, near, inside⟩⟩ :=
      findInEntries_sound later
    · exact ⟨denied, .inl ⟨value, mem_cons_of_mem _ member⟩⟩
    · exact ⟨denied, .inr ⟨below, other, value, mem_cons_of_mem _ member, near, inside⟩⟩
end

theorem isSome_findInItems {depth : ℕ} {items : List (Json Scalar)} :
    (findInItems depth items).isSome = true ↔
      ∃ item ∈ items, (findDenylistedKey (depth + 1) item).isSome = true := by
  induction items with
  | nil => simp [findInItems]
  | cons item rest ih =>
    simp [findInItems, ih]

theorem isSome_findInEntries {depth : ℕ} {entries : Json.Entries Scalar} :
    (findInEntries depth entries).isSome = true ↔
      ∃ entry ∈ entries, isDenylisted entry.1 = true ∨
        (findDenylistedKey (depth + 1) entry.2).isSome = true := by
  induction entries with
  | nil => simp [findInEntries]
  | cons entry rest ih =>
    obtain ⟨key, value⟩ := entry
    cases denied : isDenylisted key with
    | true => simp [findInEntries, denied]
    | false => simp [findInEntries, denied, ih]

/-- **The search finds a key** that stands at most sixteen levels below. -/
theorem isSome_findDenylistedKey {key : Text} (denied : isDenylisted key = true) {below : ℕ}
    {value : Json Scalar} (inside : Json.HasKey key below value) {depth : ℕ}
    (near : depth + below ≤ 16) : (findDenylistedKey depth value).isSome = true := by
  have shallow : ¬ depth > 16 := by omega
  induction inside generalizing depth with
  | here member =>
    rw [findDenylistedKey, if_neg shallow, isSome_findInEntries]
    exact ⟨_, member, .inl denied⟩
  | inMap member _ ih =>
    rw [findDenylistedKey, if_neg shallow, isSome_findInEntries]
    exact ⟨_, member, .inr (ih (by omega) (by omega))⟩
  | inList member _ ih =>
    rw [findDenylistedKey, if_neg shallow, isSome_findInItems]
    exact ⟨_, member, ih (by omega) (by omega)⟩

/-! ## Noninterference -/

/-- **Redaction is noninterfering**, whatever is done to a single text and however values are
written: for the summary and the safe metadata in what is classified, for error details in what is
secret and not below a bulk key.  The search finds exactly the values with a classified key at most
sixteen levels deep. -/
theorem redaction_noninterfering (redactText : Text → Text) (dumps : Json Scalar → Option Text)
    (secretShaped : Text → Bool) (resolution : Text → Option Text) :
    (∀ maxLen, Json.Noninterfering classifiedView (summarizeStructure redactText dumps maxLen)) ∧
    Json.Noninterfering classifiedView (safeMetadata redactText) ∧
    (∀ envelope details details' : Json.Entries Scalar,
      Json.agreeEntries errorView details details' →
        redactErrorEnvelope redactText
            (OrderedDict.setEntries detailsKey (.map details) envelope) =
          redactErrorEnvelope redactText
            (OrderedDict.setEntries detailsKey (.map details') envelope)) ∧
    (∀ (error : RaisedError) (details details' : Json.Entries Scalar),
      Json.agreeEntries errorView details details' →
        redactErrorEnvelope redactText
            (toErrorEnvelope secretShaped resolution { error with details := some details }) =
          redactErrorEnvelope redactText
            (toErrorEnvelope secretShaped resolution { error with details := some details' })) ∧
    ∀ value : Json Scalar,
      (∀ key, findDenylistedKey 0 value = some key →
        isDenylisted key = true ∧ ∃ below ≤ 16, Json.HasKey key below value) ∧
      ∀ key below, isDenylisted key = true → Json.HasKey key below value → below ≤ 16 →
        (findDenylistedKey 0 value).isSome = true := by
  have enveloped : ∀ envelope details details' : Json.Entries Scalar,
      Json.agreeEntries errorView details details' →
        redactErrorEnvelope redactText
            (OrderedDict.setEntries detailsKey (.map details) envelope) =
          redactErrorEnvelope redactText
            (OrderedDict.setEntries detailsKey (.map details') envelope) := by
    intro envelope details details' same
    rw [redactErrorEnvelope_set, redactErrorEnvelope_set, redactErrorEntries_agree redactText same]
  refine ⟨?_, fun _ _ => safeMetadata_agree redactText, enveloped, ?_, ?_⟩
  · intro maxLen first second same
    rw [summarizeStructure, summarizeStructure, summarizeValue_agree redactText 0 same]
  · intro error details details' same
    have twice := redactDetails_agree secretShaped (redactDetails_agree secretShaped same)
    exact enveloped (toErrorEnvelope secretShaped resolution { error with details := none }) _ _
      twice
  · intro value
    refine ⟨fun key found => ?_, fun key below denied inside near => ?_⟩
    · obtain ⟨denied, below, near, inside⟩ := findDenylistedKey_sound found
      exact ⟨denied, below, by omega, inside⟩
    · exact isSome_findDenylistedKey denied inside (by omega)

/-! A secret below a bulk key stays in the details, and a key seventeen lists deep is not found. -/

section Deep

private def bulkDetails (secret : Text) : Json.Entries Scalar :=
  [("output".toList, .map [("token".toList, text secret)])]

/-- A mapping with a secret key inside as many lists. -/
private def nestedToken : ℕ → Json Scalar
  | 0 => .map [("token".toList, .null)]
  | depth + 1 => .list [nestedToken depth]

private theorem hasKey_nestedToken (depth : ℕ) :
    Json.HasKey "token".toList depth (nestedToken depth) := by
  induction depth with
  | zero => exact .here (mem_singleton_self _)
  | succ depth ih => exact .inList (mem_singleton_self _) ih

theorem redaction_interferes :
    (¬ ∀ (redactText : Text → Text) (envelope details details' : Json.Entries Scalar),
      Json.agreeEntries secretView details details' →
        redactErrorEnvelope redactText
            (OrderedDict.setEntries detailsKey (.map details) envelope) =
          redactErrorEnvelope redactText
            (OrderedDict.setEntries detailsKey (.map details') envelope)) ∧
    ¬ ∀ (value : Json Scalar) (key : Text) (below : ℕ), isDenylisted key = true →
      Json.HasKey key below value → (findDenylistedKey 0 value).isSome = true := by
  constructor
  · intro claimed
    have same := claimed id [] (bulkDetails "a".toList) (bulkDetails "b".toList)
      ⟨rfl, ⟨rfl, trivial, trivial⟩, trivial⟩
    have leaked := congrArg (fun envelope => envelope.map fun entry => entry.2.entries.map
      fun inner => inner.2.entries.map fun leaf => leaf.2.text?) same
    revert leaked
    decide +kernel
  · intro claimed
    have found := claimed (nestedToken 17) "token".toList 17 (by decide +kernel)
      (hasKey_nestedToken 17)
    revert found
    decide +kernel

end Deep

end Audiagentic.Observability
