import Mathlib.Data.String.Basic
import PrdAgent.Library.JsonAgreement
import PrdAgent.Library.Latest
import PrdAgent.Agent.UnitModels

/-!
# Scope hashes on both sides

The control plane and the worker hash the JSON text of a scope, each with its own encoder. The worker
hashes the scope as it sees it (`seenScope`), and the texts agree exactly for the scopes of
`ScopePortable`.
-/

namespace PrdAgent.Agent

open GoText
open Runcontrol

attribute [local instance] Latest.intOrder

/-- What is assumed of Go's `encoding/json`: `canonicalJSON` decodes numbers as floats, and writes an
integer that a float holds exactly as it is. -/
structure DocumentedJson (rt : Runtime) (floatInt : Int → Int) : Prop where
  canonical : ∀ value, rt.canonicalJSON value = (value.mapInts floatInt).canonical.render
  exact : ∀ n, -2 ^ 53 ≤ n → n ≤ 2 ^ 53 → floatInt n = n
  monotone : Monotone floatInt

section

variable {rt : Runtime} {py : Python} {floatInt : Int → Int}

/-! ## Payloads -/

theorem toPyItems_eq (items : List Json) : Json.toPyItems items = items.map Json.toPy := by
  induction items with
  | nil => rfl
  | cons item rest ih =>
    rw [Json.toPyItems, ih]
    rfl

theorem toPy_strings (values : List String) : (Json.arr (values.map .str)).toPy = strings values := by
  rw [Json.toPy, toPyItems_eq, List.map_map]
  rfl

/-- The scope as the worker hashes it. -/
def seenScope (scope : UnitScope) : UnitScope :=
  { scope with
    outlineHash := bareHash scope.outlineHash
    confirmedContext := (scope.confirmedContext.insertionSort
      fun left right => left.unitKey ≤ right.unitKey).map fun item =>
        { item with contentHash := bareHash item.contentHash }
    reopenedUnitKeys := scope.reopenedUnitKeys.insertionSort (· ≤ ·)
    immutableUnitKeys := scope.immutableUnitKeys.insertionSort (· ≤ ·)
    requirementHash := bareHash scope.requirementHash
    baseUnitHash := bareHash scope.baseUnitHash
    userFeedback := strip scope.userFeedback }

theorem scopePayload_eq (scope : UnitScope) :
    scopePayload scope = (unitScopeHashPayload (seenScope scope)).toPy := by
  unfold scopePayload unitScopeHashPayload seenScope
  simp only [Json.toPy, Json.toPyFields, ← toPy_strings, toPyItems_eq, List.map_map, PyValue.dict.injEq,
    List.cons.injEq, Prod.mk.injEq, true_and, and_true, PyValue.list.injEq]
  refine List.map_congr_left fun item _ => ?_
  rfl

theorem hashJson_scope (scope : UnitScope) : py.hashJson (scopePayload scope) =
      .ok (py.sha256 (unitScopeHashPayload (seenScope scope)).pyText) := by
  unfold Python.hashJson
  rw [scopePayload_eq, Json.dumps_toPy]

/-- The scope with the numbers that Go writes. -/
def writtenScope (floatInt : Int → Int) (scope : UnitScope) : UnitScope :=
  { scope with
    outlineVersion := floatInt scope.outlineVersion
    currentUnitOrdinal := floatInt scope.currentUnitOrdinal
    confirmedContext := scope.confirmedContext.map fun item =>
      { item with unitVersion := floatInt item.unitVersion } }

theorem mapInts_scope (f : Int → Int) (scope : UnitScope) :
    (unitScopeHashPayload scope).mapInts f = unitScopeHashPayload (writtenScope f scope) := by
  unfold unitScopeHashPayload writtenScope
  simp only [Json.mapInts, Json.mapIntsFields, Json.mapIntsItems_eq, List.map_map]
  rfl

theorem map_inj {α β : Type} {f : α → β} (inj : ∀ a b, f a = f b → a = b) {list list' : List α}
    (same : list.map f = list'.map f) : list = list' :=
  List.map_injective_iff.mpr (fun a b => inj a b) same

theorem canonical_strings_inj {values values' : List String}
    (same : values.map (Json.canonical ∘ Json.str) = values'.map (Json.canonical ∘ Json.str)) :
    values = values' :=
  map_inj (fun _ _ is => Json.str.inj is) same

def confirmedMembers (item : ConfirmedUnitContext) : List (String × Json) := [
  ("unit_key", .str item.unitKey), ("unit_version", .int item.unitVersion),
  ("content_hash", .str item.contentHash), ("summary", .str item.summary),
  ("working_draft_ref", .str item.workingDraftRef), ("markdown", .str item.markdown)]

theorem confirmedMembers_names (item : ConfirmedUnitContext) : (confirmedMembers item).map Prod.fst =
    ["unit_key", "unit_version", "content_hash", "summary", "working_draft_ref", "markdown"] := rfl

theorem canonical_confirmed {item item' : ConfirmedUnitContext}
    (same : (Json.obj (confirmedMembers item)).canonical =
      (Json.obj (confirmedMembers item')).canonical) : item = item' := by
  have values := Json.canonical_members confirmedMembers_names (by decide) same
  simp only [confirmedMembers, List.map_cons, List.map_nil, Json.canonical, List.cons.injEq,
    Json.str.injEq, Json.int.injEq, and_true] at values
  obtain ⟨key, version, hash, summary, draft, markdown⟩ := values
  cases item
  cases item'
  simp_all

def scopeMembers (scope : UnitScope) : List (String × Json) := [
  ("schema_version", .str scope.schemaVersion), ("purpose", .str scope.purpose.text),
  ("outline_id", .str scope.outlineID), ("outline_version", .int scope.outlineVersion),
  ("outline_hash", .str scope.outlineHash), ("current_unit_key", .str scope.currentUnitKey),
  ("current_unit_title", .str scope.currentUnitTitle),
  ("current_unit_ordinal", .int scope.currentUnitOrdinal),
  ("section_node_keys", .arr (scope.sectionNodeKeys.map .str)),
  ("dependency_unit_keys", .arr (scope.dependencyUnitKeys.map .str)),
  ("confirmed_context", .arr (scope.confirmedContext.map fun item => .obj (confirmedMembers item))),
  ("reopened_unit_keys", .arr (scope.reopenedUnitKeys.map .str)),
  ("immutable_unit_keys", .arr (scope.immutableUnitKeys.map .str)),
  ("requirement_brief_ref", .str scope.requirementRef),
  ("requirement_brief_hash", .str scope.requirementHash),
  ("base_unit_hash", .str scope.baseUnitHash), ("user_feedback", .str scope.userFeedback)]

theorem scopeMembers_names (scope : UnitScope) : (scopeMembers scope).map Prod.fst = [
  "schema_version", "purpose", "outline_id", "outline_version", "outline_hash", "current_unit_key",
  "current_unit_title", "current_unit_ordinal", "section_node_keys", "dependency_unit_keys",
  "confirmed_context", "reopened_unit_keys", "immutable_unit_keys", "requirement_brief_ref",
  "requirement_brief_hash", "base_unit_hash", "user_feedback"] := rfl

variable {scope : UnitScope}

theorem canonical_scope {scope' : UnitScope} (purpose : scope.purpose = scope'.purpose)
    (same : (unitScopeHashPayload scope).canonical = (unitScopeHashPayload scope').canonical) :
    { scope with scopeHash := "" } = { scope' with scopeHash := "" } := by
  have values := Json.canonical_members scopeMembers_names (by decide) same
  simp only [scopeMembers, List.map_cons, List.map_nil, Json.canonical, Json.canonicalItems_eq,
    List.map_map, List.cons.injEq, Json.str.injEq, Json.int.injEq, Json.arr.injEq, and_true] at values
  obtain ⟨schema, -, outline, version, outlineHash, unitKey, title, ordinal, sections, dependencies,
    confirmed, reopened, immutable, brief, briefHash, base, feedback⟩ := values
  have sections := canonical_strings_inj sections
  have dependencies := canonical_strings_inj dependencies
  have confirmed := map_inj (fun _ _ is => canonical_confirmed is) confirmed
  have reopened := canonical_strings_inj reopened
  have immutable := canonical_strings_inj immutable
  cases scope
  cases scope'
  simp_all

/-! ## Scopes that both sides hash alike -/

def confirmedTexts (item : ConfirmedUnitContext) : List String :=
  [item.unitKey, item.contentHash, item.summary, item.workingDraftRef, item.markdown]

def scopeTexts (scope : UnitScope) : List String :=
  [scope.schemaVersion, scope.purpose.text, scope.outlineID, scope.outlineHash, scope.currentUnitKey,
    scope.currentUnitTitle] ++ scope.sectionNodeKeys ++ scope.dependencyUnitKeys ++
    scope.confirmedContext.flatMap confirmedTexts ++ scope.reopenedUnitKeys ++
    scope.immutableUnitKeys ++
    [scope.requirementRef, scope.requirementHash, scope.baseUnitHash, scope.userFeedback]

/-- The conditions under which an accepted scope has one hash on both sides. -/
structure ScopePortable (floatInt : Int → Int) (scope : UnitScope) : Prop where
  plain : ∀ text ∈ scopeTexts scope, Json.Plain text
  /-- The feedback does not start or end with a separator that only Python strips. -/
  feedback : strip scope.userFeedback = scope.userFeedback
  /-- No hash carries its prefix twice: one is gone in an accepted scope. -/
  outlineHash : bareHash scope.outlineHash = scope.outlineHash
  requirementHash : bareHash scope.requirementHash = scope.requirementHash
  baseUnitHash : bareHash scope.baseUnitHash = scope.baseUnitHash
  contentHash : ∀ item ∈ scope.confirmedContext, bareHash item.contentHash = item.contentHash
  /-- The ordinal has 32 bits. -/
  ordinal : -2 ^ 31 ≤ scope.currentUnitOrdinal ∧ scope.currentUnitOrdinal < 2 ^ 31
  /-- The versions are written by Go as they are, which holds up to `2 ^ 53`. -/
  outlineVersion : floatInt scope.outlineVersion = scope.outlineVersion
  unitVersion : ∀ item ∈ scope.confirmedContext, floatInt item.unitVersion = item.unitVersion

theorem allPlain_confirmed {item : ConfirmedUnitContext} :
    (Json.obj (confirmedMembers item)).AllPlain ↔ ∀ text ∈ confirmedTexts item, Json.Plain text := by
  rw [Json.allPlain_members confirmedMembers_names (by decide +kernel)]
  simp [confirmedMembers, confirmedTexts]

theorem allPlain_payload :
    (unitScopeHashPayload scope).AllPlain ↔ ∀ text ∈ scopeTexts scope, Json.Plain text := by
  change (Json.obj (scopeMembers scope)).AllPlain ↔ _
  rw [Json.allPlain_members scopeMembers_names (by decide +kernel)]
  simp only [scopeMembers, scopeTexts, List.forall_mem_cons, List.forall_mem_append,
    List.forall_mem_flatMap]
  simp [allPlain_confirmed, and_assoc]

theorem insertionSort_uniqueStrings (values : List String) :
    (uniqueStrings values true).insertionSort (· ≤ ·) = uniqueStrings values true := by
  unfold uniqueStrings
  rw [if_pos rfl]
  exact (List.pairwise_insertionSort _ _).insertionSort_eq

theorem insertionSort_confirmed (scope : UnitScope) :
    (scope.normalized.confirmedContext.insertionSort fun left right => left.unitKey ≤ right.unitKey) =
      scope.normalized.confirmedContext := by
  exact (SortedBy.pairwise ConfirmedUnitContext.unitKey (fun _ _ => Iff.rfl) _).insertionSort_eq

def receivedScope (scope : UnitScope) : UnitScope :=
  { scope with currentUnitOrdinal := scope.currentUnitOrdinal.bmod (2 ^ 32) }

theorem ordinal_iff (documented : DocumentedJson rt floatInt) (n : Int) :
    floatInt n = n.bmod (2 ^ 32) ↔ -2 ^ 31 ≤ n ∧ n < 2 ^ 31 := by
  have low : -2 ^ 31 ≤ n.bmod (2 ^ 32) := Int.le_bmod (by decide)
  have high : n.bmod (2 ^ 32) < 2 ^ 31 := Int.bmod_lt (by decide)
  constructor
  · intro same
    constructor
    · by_contra below
      have upper : floatInt n ≤ floatInt (-2 ^ 31 - 1) := documented.monotone (by omega)
      rw [documented.exact (-2 ^ 31 - 1) (by decide) (by decide)] at upper
      omega
    · by_contra above
      have lower : floatInt (2 ^ 31) ≤ floatInt n := documented.monotone (by omega)
      rw [documented.exact (2 ^ 31) (by decide) (by decide)] at lower
      omega
  · rintro ⟨least, most⟩
    rw [documented.exact n (by omega) (by omega)]
    exact (Int.bmod_eq_of_le least most).symm

/-- The texts that the two sides hash for a scope agree exactly if the scope is portable. -/
theorem scopeTexts_agree (documented : DocumentedJson rt floatInt) (scope : UnitScope) :
    rt.canonicalJSON (unitScopeHashPayload scope.normalized) =
        (unitScopeHashPayload (seenScope (receivedScope scope.normalized))).pyText ↔
      ScopePortable floatInt scope.normalized := by
  have confirmed := insertionSort_confirmed scope
  have reopened : scope.normalized.reopenedUnitKeys.insertionSort (· ≤ ·) =
      scope.normalized.reopenedUnitKeys := insertionSort_uniqueStrings _
  have immutable : scope.normalized.immutableUnitKeys.insertionSort (· ≤ ·) =
      scope.normalized.immutableUnitKeys := insertionSort_uniqueStrings _
  rw [documented.canonical, Json.render_eq_pyText_iff, mapInts_scope, allPlain_payload]
  generalize scope.normalized = sent at confirmed reopened immutable
  have ordinal := ordinal_iff documented sent.currentUnitOrdinal
  constructor
  · rintro ⟨same, plain⟩
    have purpose : (writtenScope floatInt sent).purpose = (seenScope (receivedScope sent)).purpose := rfl
    have fields := canonical_scope purpose same
    simp only [writtenScope, seenScope, receivedScope, confirmed, reopened, immutable,
      UnitScope.mk.injEq, true_and, and_true] at fields
    obtain ⟨version, outline, written, items, brief, base, feedback⟩ := fields
    have each (item : ConfirmedUnitContext) (mem : item ∈ sent.confirmedContext) :
        floatInt item.unitVersion = item.unitVersion ∧ item.contentHash = bareHash item.contentHash := by
      have is := List.map_inj_left.mp items item mem
      exact ⟨congrArg (·.unitVersion) is, congrArg (·.contentHash) is⟩
    exact ⟨plain, feedback.symm, outline.symm, brief.symm, base.symm,
      fun item mem => (each item mem).2.symm, ordinal.mp written, version,
      fun item mem => (each item mem).1⟩
  · intro portable
    refine ⟨congrArg (fun scope => (unitScopeHashPayload scope).canonical) ?_, portable.plain⟩
    simp only [writtenScope, seenScope, receivedScope, confirmed, reopened, immutable,
      UnitScope.mk.injEq, true_and, and_true]
    refine ⟨portable.outlineVersion, portable.outlineHash.symm, ordinal.mpr portable.ordinal, ?_,
      portable.requirementHash.symm, portable.baseUnitHash.symm, portable.feedback.symm⟩
    refine List.map_congr_left fun item mem => ?_
    rw [portable.unitVersion item mem, portable.contentHash item mem]

/-! ## The worker's checks -/

private theorem lowerHex : ∀ n : Fin 128, isHexDigit (Char.ofNat n.val) = true →
    "0123456789abcdef".toList.contains (Char.ofNat n.val).toLower = true := by
  decide +kernel

theorem isHash_of_valid {value : String} (valid : validSHA256 value = true) : isHash value = true := by
  unfold validSHA256 at valid
  unfold isHash
  simp only [Bool.and_eq_true, List.all_eq_true] at valid ⊢
  refine ⟨valid.1, fun ch mem => ?_⟩
  have digit := valid.2 ch mem
  have small : ch.toNat < 128 := by
    unfold isHexDigit at digit
    simp only [Bool.or_eq_true, Bool.and_eq_true, decide_eq_true_eq] at digit
    rcases digit with (⟨-, most⟩ | ⟨-, most⟩) | ⟨-, most⟩
    all_goals
      have bound := Char.le_def.mp most
      have : ch.val.toNat ≤ _ := bound
      change ch.val.toNat < 128
      exact Nat.lt_of_le_of_lt this (by decide)
  have known := lowerHex ⟨ch.toNat, small⟩
  dsimp only at known
  rw [Char.ofNat_toNat] at known
  exact known digit

theorem checkConfirmed_of_valid (hashes : py.sha256Hex = rt.sha256Hex)
    {items : List ConfirmedUnitContext} (valid : ∀ item ∈ items, item.Valid rt) :
    checkConfirmed py items = .ok () := by
  induction items with
  | nil => rfl
  | cons item rest ih =>
    obtain ⟨⟨named, numbered, digest, hashed⟩, others⟩ := List.forall_mem_cons.mp valid
    have good : checkConfirmedUnit py item = .ok () := by
      unfold checkConfirmedUnit
      rw [if_neg, if_neg]
      · rintro ⟨some, differs⟩
        apply differs
        change py.sha256Hex _ = bareSHA256 _
        rw [hashes, ← hashed some]
        exact (rt.bareSHA256_sha256Hex _).symm
      · rw [isHash_of_valid digest]
        simp [named, numbered]
    rw [checkConfirmed, good]
    exact ih others

theorem checkScope_of_valid (hashes : py.sha256Hex = rt.sha256Hex)
    (valid : scope.validate rt = .ok ()) (feedback : strip scope.userFeedback = scope.userFeedback) :
    knownPurpose scope.purpose = true ∧ checkConfirmed py scope.confirmedContext = .ok () ∧
      checkScope (receivedScope scope) = .ok () := by
  revert valid
  fun_cases UnitScope.validate rt scope <;> intro valid <;> cases valid
  next schema outline current foreign revision disjoint confirmed dependencies =>
  obtain ⟨distinct, each⟩ := validateConfirmedContext_ok_iff.mp confirmed
  have checked := checkConfirmed_of_valid hashes fun item mem => (each item mem).2
  simp only [not_or, Bool.not_eq_false, not_not] at schema
  have blank {text : String} (is : text = "") : trimSpace text = "" := by
    rw [is]
    rfl
  refine ⟨?_, checked, ?_⟩
  · cases is : scope.purpose with
    | other raw =>
      rw [is] at schema
      exact absurd schema.2 (by simp [RunPurpose.valid])
    | planOutline | generateUnit | reviseUnit | fullReview => rfl
  · unfold checkScope receivedScope
    dsimp only
    rw [if_neg (not_not.mpr schema.1), if_neg, if_neg, if_neg foreign, if_neg, if_neg disjoint,
      if_neg (not_not.mpr distinct), if_neg dependencies]
    · rintro ⟨revise, absent | empty | bad⟩
      · exact revision ⟨revise, .inl absent⟩
      · exact revision ⟨revise, .inr (.inl (feedback ▸ empty))⟩
      · refine revision ⟨revise, .inr (.inr ?_)⟩
        by_contra valid
        rw [isHash_of_valid (by simpa using valid)] at bad
        cases bad
    · rintro ⟨writes, empty | empty | empty⟩
      · exact current ⟨writes, .inl (blank empty)⟩
      · exact current ⟨writes, .inr (.inl (blank empty))⟩
      · exact current ⟨writes, .inr (.inr empty)⟩
    · rintro ⟨other, empty | low | bad⟩
      · exact outline ⟨other, .inl (blank empty)⟩
      · exact outline ⟨other, .inr (.inl low)⟩
      · refine outline ⟨other, .inr (.inr ?_)⟩
        by_contra valid
        rw [isHash_of_valid (by simpa using valid)] at bad
        cases bad

/-! ## Acceptance -/

theorem ScopePortable.with_hash {hash : String} :
    ScopePortable floatInt { scope with scopeHash := hash } ↔ ScopePortable floatInt scope :=
  ⟨fun is => ⟨is.plain, is.feedback, is.outlineHash, is.requirementHash, is.baseUnitHash,
      is.contentHash, is.ordinal, is.outlineVersion, is.unitVersion⟩,
    fun is => ⟨is.plain, is.feedback, is.outlineHash, is.requirementHash, is.baseUnitHash,
      is.contentHash, is.ordinal, is.outlineVersion, is.unitVersion⟩⟩

variable {built : UnitScope}

theorem buildUnitScope_ok (accepted : buildUnitScope rt scope = .ok built) :
    scope.normalized.validate rt = .ok () ∧ built = { scope.normalized with
      scopeHash := rt.hashText (rt.canonicalJSON (unitScopeHashPayload scope.normalized)) } := by
  unfold buildUnitScope at accepted
  split at accepted
  · cases accepted
  · next valid => exact ⟨valid, (Except.ok.inj accepted).symm⟩

/-- The worker accepts the scope that the control plane sends, with its hash. -/
def ScopeAccepted (py : Python) (built : UnitScope) : Prop :=
  ∃ decoded, decodeUnitScope py built.purpose (unitScopeToProto built) = .ok decoded ∧
    decoded.scopeHash = built.scopeHash

def ScopeCollisionFree (rt : Runtime) (built : UnitScope) : Prop :=
  ∀ text, (scopePayload (receivedScope built)).dumps = some text →
    rt.hashText (rt.canonicalJSON (unitScopeHashPayload built)) = rt.hashText text →
      rt.canonicalJSON (unitScopeHashPayload built) = text

theorem scopeAccepted_of_portable (documented : DocumentedJson rt floatInt)
    (hashes : py.sha256Hex = rt.sha256Hex)
    (accepted : buildUnitScope rt scope = .ok built) (portable : ScopePortable floatInt built) :
    ScopeAccepted py built := by
  obtain ⟨valid, rfl⟩ := buildUnitScope_ok accepted
  have portable := ScopePortable.with_hash.mp portable
  obtain ⟨known, confirmed, checked⟩ := checkScope_of_valid hashes valid portable.feedback
  have texts := (scopeTexts_agree documented scope).mpr portable
  have bare := rt.bareSHA256_sha256Hex
    (rt.canonicalJSON (unitScopeHashPayload scope.normalized)).toUTF8
  have length := rt.sha256Hex_length
    (rt.canonicalJSON (unitScopeHashPayload scope.normalized)).toUTF8
  refine ⟨{ receivedScope scope.normalized with
    scopeHash := rt.hashText (rt.canonicalJSON (unitScopeHashPayload scope.normalized)) }, ?_, rfl⟩
  unfold decodeUnitScope unitScopeToProto
  dsimp only
  rw [if_neg (by rw [known]; decide), confirmed]
  dsimp only
  have hashed := @hashJson_scope py (receivedScope scope.normalized)
  rw [← texts] at hashed
  simp only [receivedScope, UnitScope.normalized] at checked hashed ⊢
  rw [checked, hashed]
  dsimp only
  rw [Python.sha256, hashes]
  refine (if_neg ?_).trans rfl
  rintro (empty | differs)
  · have empty : rt.sha256Hex (rt.canonicalJSON (unitScopeHashPayload scope.normalized)).toUTF8 = "" :=
      bare.symm.trans empty
    rw [empty] at length
    cases length
  · exact differs bare

theorem portable_of_scopeAccepted (documented : DocumentedJson rt floatInt)
    (hashes : py.sha256Hex = rt.sha256Hex)
    (accepted : buildUnitScope rt scope = .ok built) (free : ScopeCollisionFree rt built)
    (decodes : ScopeAccepted py built) : ScopePortable floatInt built := by
  obtain ⟨-, rfl⟩ := buildUnitScope_ok accepted
  obtain ⟨decoded, is, same⟩ := decodes
  refine ScopePortable.with_hash.mpr ((scopeTexts_agree documented scope).mp ?_)
  -- the hash that the worker computes is the one it was sent
  have hashed : rt.hashText (rt.canonicalJSON (unitScopeHashPayload scope.normalized)) =
      rt.hashText (unitScopeHashPayload (seenScope (receivedScope scope.normalized))).pyText := by
    unfold decodeUnitScope unitScopeToProto at is
    dsimp only at is
    iterate 4
      split at is
      · cases is
    next hash computed =>
    split at is
    · cases is
    cases is
    have computed := (hashJson_scope (receivedScope scope.normalized)).symm.trans computed
    rw [Python.sha256, hashes] at computed
    exact same.symm.trans (Except.ok.inj computed).symm
  refine free _ ?_ hashed
  have payload : scopePayload (receivedScope { scope.normalized with
      scopeHash := rt.hashText (rt.canonicalJSON (unitScopeHashPayload scope.normalized)) }) =
      scopePayload (receivedScope scope.normalized) := rfl
  rw [payload, scopePayload_eq, Json.dumps_toPy]

end

end PrdAgent.Agent
