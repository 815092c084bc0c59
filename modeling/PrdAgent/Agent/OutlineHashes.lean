import PrdAgent.Agent.ScopeHashes
import PrdAgent.Runcontrol.OutlineShape
import PrdAgent.Runcontrol.ReviewAtomicity

/-!
# Outline hashes on both sides

An outline goes the other way: the worker checks and hashes a candidate, and sends it as JSON to the
control plane, which decodes it, checks it again and hashes it with its own encoder. The candidate is
accepted with its hash exactly if it is `OutlinePortable`.
-/

namespace PrdAgent.Agent

open GoText AssocMap
open Runcontrol

section

variable {rt : Runtime} {py : Python} {floatInt : Int → Int}

/-! ## Payloads -/

def nodeMembers (node : OutlineNode) : List (String × Json) := [
  ("node_key", .str node.nodeKey), ("parent_key", .str node.parentKey),
  ("ordinal", .int node.ordinal), ("title", .str node.title),
  ("questions", .arr (node.questions.map .str)),
  ("required_content", .arr (node.requiredContent.map .str)), ("unit_key", .str node.unitKey)]

def unitMembers (unit : OutlineUnit) : List (String × Json) := [
  ("unit_key", .str unit.unitKey), ("title", .str unit.title), ("ordinal", .int unit.ordinal),
  ("node_keys", .arr (unit.nodeKeys.map .str)), ("depends_on", .arr (unit.dependsOn.map .str))]

def outlineMembers (candidate : OutlineCandidate) : List (String × Json) := [
  ("schema_version", .str candidate.schemaVersion), ("title", .str candidate.title),
  ("requirement_size", .str candidate.requirementSize),
  ("nodes", .arr (candidate.nodes.map fun node => .obj (nodeMembers node))),
  ("units", .arr (candidate.units.map fun unit => .obj (unitMembers unit)))]

theorem nodeMembers_names (node : OutlineNode) : (nodeMembers node).map Prod.fst =
    ["node_key", "parent_key", "ordinal", "title", "questions", "required_content", "unit_key"] := rfl

theorem unitMembers_names (unit : OutlineUnit) : (unitMembers unit).map Prod.fst =
    ["unit_key", "title", "ordinal", "node_keys", "depends_on"] := rfl

theorem outlineMembers_names (candidate : OutlineCandidate) : (outlineMembers candidate).map Prod.fst =
    ["schema_version", "title", "requirement_size", "nodes", "units"] := rfl

theorem toPy_node (node : OutlineNode) : (Json.obj (nodeMembers node)).toPy = outlineNodeDict node := by
  unfold nodeMembers outlineNodeDict
  simp only [← toPy_strings]
  rfl

theorem toPy_unit (unit : OutlineUnit) : (Json.obj (unitMembers unit)).toPy = outlineUnitDict unit := by
  unfold unitMembers outlineUnitDict
  simp only [← toPy_strings]
  rfl

theorem toPyFields_outline (candidate : OutlineCandidate) :
    Json.toPyFields (outlineMembers candidate) = outlineFields candidate := by
  unfold outlineMembers outlineFields
  simp only [Json.toPyFields, Json.toPy, toPyItems_eq, List.map_map]
  have nodes : Json.toPy ∘ (fun node => Json.obj (nodeMembers node)) = outlineNodeDict :=
    funext toPy_node
  have units : Json.toPy ∘ (fun unit => Json.obj (unitMembers unit)) = outlineUnitDict :=
    funext toPy_unit
  rw [nodes, units]

theorem dumps_outline (candidate : OutlineCandidate) :
    (outlinePayload candidate).dumps = some (outlineHashPayload candidate).pyText := by
  have payload : outlinePayload candidate = (outlineHashPayload candidate).toPy :=
    (congrArg PyValue.dict (toPyFields_outline candidate)).symm
  rw [payload, Json.dumps_toPy]

theorem hashJson_outline (candidate : OutlineCandidate) :
    py.hashJson (outlinePayload candidate) = .ok (py.sha256 (outlineHashPayload candidate).pyText) := by
  rw [Python.hashJson, dumps_outline]

/-- The outline with the numbers that Go writes. -/
def writtenOutline (floatInt : Int → Int) (candidate : OutlineCandidate) : OutlineCandidate :=
  { candidate with
    nodes := candidate.nodes.map fun node => { node with ordinal := floatInt node.ordinal }
    units := candidate.units.map fun unit => { unit with ordinal := floatInt unit.ordinal } }

theorem mapInts_outline (f : Int → Int) (candidate : OutlineCandidate) :
    (outlineHashPayload candidate).mapInts f = outlineHashPayload (writtenOutline f candidate) := by
  have nodes : Json.mapInts f ∘ (fun node => Json.obj (nodeMembers node)) =
      fun node => Json.obj (nodeMembers { node with ordinal := f node.ordinal }) := by
    funext node
    simp only [Function.comp, nodeMembers, Json.mapInts, Json.mapIntsFields, Json.mapIntsItems_eq,
      List.map_map]
    rfl
  have units : Json.mapInts f ∘ (fun unit => Json.obj (unitMembers unit)) =
      fun unit => Json.obj (unitMembers { unit with ordinal := f unit.ordinal }) := by
    funext unit
    simp only [Function.comp, unitMembers, Json.mapInts, Json.mapIntsFields, Json.mapIntsItems_eq,
      List.map_map]
    rfl
  change (Json.obj (outlineMembers candidate)).mapInts f =
    .obj (outlineMembers (writtenOutline f candidate))
  simp only [outlineMembers, writtenOutline, Json.mapInts, Json.mapIntsFields, Json.mapIntsItems_eq,
    List.map_map, nodes, units]
  rfl

theorem canonical_node {node node' : OutlineNode}
    (same : (Json.obj (nodeMembers node)).canonical = (Json.obj (nodeMembers node')).canonical) :
    node = node' := by
  have values := Json.canonical_members nodeMembers_names (by decide) same
  simp only [nodeMembers, List.map_cons, List.map_nil, Json.canonical, Json.canonicalItems_eq,
    List.map_map, List.cons.injEq, Json.str.injEq, Json.int.injEq, Json.arr.injEq, and_true] at values
  obtain ⟨key, parent, ordinal, title, questions, content, unitKey⟩ := values
  have questions := canonical_strings_inj questions
  have content := canonical_strings_inj content
  cases node
  cases node'
  simp_all

theorem canonical_unit {unit unit' : OutlineUnit}
    (same : (Json.obj (unitMembers unit)).canonical = (Json.obj (unitMembers unit')).canonical) :
    unit = unit' := by
  have values := Json.canonical_members unitMembers_names (by decide) same
  simp only [unitMembers, List.map_cons, List.map_nil, Json.canonical, Json.canonicalItems_eq,
    List.map_map, List.cons.injEq, Json.str.injEq, Json.int.injEq, Json.arr.injEq, and_true] at values
  obtain ⟨key, title, ordinal, nodeKeys, dependsOn⟩ := values
  have nodeKeys := canonical_strings_inj nodeKeys
  have dependsOn := canonical_strings_inj dependsOn
  cases unit
  cases unit'
  simp_all

variable {candidate accepted : OutlineCandidate} {nodes : GoMap OutlineNode}
  {list : List OutlineUnit} {units : GoMap OutlineUnit}

/-! ## Outlines that both sides hash alike -/

def nodeTexts (node : OutlineNode) : List String :=
  [node.nodeKey, node.parentKey, node.title] ++ node.questions ++ node.requiredContent ++ [node.unitKey]

def unitTexts (unit : OutlineUnit) : List String :=
  [unit.unitKey, unit.title] ++ unit.nodeKeys ++ unit.dependsOn

def outlineTexts (candidate : OutlineCandidate) : List String :=
  [candidate.schemaVersion, candidate.title, candidate.requirementSize] ++
    candidate.nodes.flatMap nodeTexts ++ candidate.units.flatMap unitTexts

def outlineOrdinals (candidate : OutlineCandidate) : List Int :=
  candidate.nodes.map (·.ordinal) ++ candidate.units.map (·.ordinal)

/-- The conditions under which an outline of the worker is accepted by the control plane with its hash. -/
structure OutlinePortable (floatInt : Int → Int) (candidate : OutlineCandidate) : Prop where
  /-- No text has a character that only Go escapes. -/
  plain : ∀ text ∈ outlineTexts candidate, Json.Plain text
  /-- Title and size are more than blanks. -/
  title : trimSpace candidate.title ≠ ""
  size : trimSpace candidate.requirementSize ≠ ""
  /-- The ordinals have 64 bits and are written by Go as they are, which holds up to `2 ^ 53`. -/
  ordinals : ∀ n ∈ outlineOrdinals candidate, n < 2 ^ 63 ∧ floatInt n = n

theorem allPlain_outline :
    (outlineHashPayload candidate).AllPlain ↔ ∀ text ∈ outlineTexts candidate, Json.Plain text := by
  have nodes (node : OutlineNode) : (Json.obj (nodeMembers node)).AllPlain ↔
      ∀ text ∈ nodeTexts node, Json.Plain text := by
    rw [Json.allPlain_members nodeMembers_names (by decide +kernel)]
    simp only [nodeMembers, nodeTexts, List.forall_mem_cons, List.forall_mem_append]
    simp [and_assoc]
  have units (unit : OutlineUnit) : (Json.obj (unitMembers unit)).AllPlain ↔
      ∀ text ∈ unitTexts unit, Json.Plain text := by
    rw [Json.allPlain_members unitMembers_names (by decide +kernel)]
    simp only [unitMembers, unitTexts, List.forall_mem_cons, List.forall_mem_append]
    simp [and_assoc]
  change (Json.obj (outlineMembers candidate)).AllPlain ↔ _
  rw [Json.allPlain_members outlineMembers_names (by decide +kernel)]
  simp only [outlineMembers, outlineTexts, List.forall_mem_cons, List.forall_mem_append,
    List.forall_mem_flatMap]
  simp [nodes, units, and_assoc]

theorem map_eq_self_iff {α : Type} {f : α → α} {list : List α} :
    list.map f = list ↔ ∀ a ∈ list, f a = a := by
  have each := @List.map_inj_left α α list f id
  rwa [List.map_id] at each

theorem writtenOutline_iff :
    (writtenOutline floatInt candidate).nodes = candidate.nodes ∧
      (writtenOutline floatInt candidate).units = candidate.units ↔
        ∀ n ∈ outlineOrdinals candidate, floatInt n = n := by
  have node (node : OutlineNode) : { node with ordinal := floatInt node.ordinal } = node ↔
      floatInt node.ordinal = node.ordinal := by
    cases node
    simp
  have unit (unit : OutlineUnit) : { unit with ordinal := floatInt unit.ordinal } = unit ↔
      floatInt unit.ordinal = unit.ordinal := by
    cases unit
    simp
  unfold writtenOutline outlineOrdinals
  simp only [map_eq_self_iff, node, unit, List.forall_mem_append, List.forall_mem_map]

/-- The texts that the two sides hash for an outline agree exactly if it is plain and its ordinals are
written as they are. -/
theorem outlineTexts_agree (documented : DocumentedJson rt floatInt) (candidate : OutlineCandidate) :
    rt.canonicalJSON (outlineHashPayload candidate) = (outlineHashPayload candidate).pyText ↔
      (∀ text ∈ outlineTexts candidate, Json.Plain text) ∧
        ∀ n ∈ outlineOrdinals candidate, floatInt n = n := by
  rw [documented.canonical, Json.render_eq_pyText_iff, mapInts_outline, allPlain_outline, and_comm,
    ← writtenOutline_iff]
  refine and_congr_right fun _ => ⟨fun same => ?_, fun ⟨nodes, units⟩ => ?_⟩
  · have values := Json.canonical_members outlineMembers_names (by decide) same
    simp only [outlineMembers, List.map_cons, List.map_nil, Json.canonical, Json.canonicalItems_eq,
      List.map_map, List.cons.injEq, Json.str.injEq, Json.arr.injEq, and_true] at values
    obtain ⟨-, -, -, nodes, units⟩ := values
    exact ⟨map_inj (fun _ _ is => canonical_node is) nodes,
      map_inj (fun _ _ is => canonical_unit is) units⟩
  · have same : writtenOutline floatInt candidate = candidate := by
      cases candidate
      simp_all [writtenOutline]
    rw [same]

/-! ## The checks of both sides -/

theorem parentChainValid_of_check {remaining : Nat} {seen : List String}
    {parent : String} (checked : checkParents nodes remaining seen parent = .ok ()) :
    parentChainValid nodes remaining seen parent = true := by
  fun_induction checkParents nodes remaining seen parent with
  | case1 remaining => cases remaining <;> simp [parentChainValid]
  | _ => simp_all [parentChainValid]

theorem validateNodes_of_check
    {list : List OutlineNode} (checked : checkNodes nodes units list = .ok ()) :
    validateNodes nodes units list = .ok () ∧ ∀ node ∈ list, node.title ≠ "" ∧ 0 ≤ node.ordinal := by
  fun_induction checkNodes nodes units list <;> simp_all [validateNodes, parentChainValid_of_check]

theorem assignNodes_of_check {unitKey : String} {list assigned assigned' : List String}
    (checked : checkAssignment nodes unitKey assigned list = .ok assigned') :
    assignNodes nodes unitKey assigned list = .ok assigned' := by
  fun_induction checkAssignment nodes unitKey assigned list <;> simp_all [assignNodes]

theorem validateUnits_of_check {assigned assigned' : List String}
    (checked : checkUnits nodes units assigned list = .ok assigned') :
    validateUnits nodes units assigned list = .ok assigned' ∧
      ∀ unit ∈ list, unit.title ≠ "" ∧ 0 ≤ unit.ordinal ∧ unit.nodeKeys ≠ [] := by
  fun_induction checkUnits nodes units assigned list <;> simp_all [validateUnits, assignNodes_of_check]

theorem validateOutline_of_check
    (checked : checkOutline candidate = .ok ()) (title : trimSpace candidate.title ≠ "")
    (size : trimSpace candidate.requirementSize ≠ "") :
    validateOutlineCandidate candidate = .ok () := by
  revert checked
  fun_cases checkOutline candidate <;> intro checked <;> cases checked
  next schema some few nodeKeys unitKeys nodesChecked assigned unitsChecked exhaustive order acyclic =>
  simp only [not_or, not_not] at nodeKeys unitKeys some few schema exhaustive
  obtain ⟨nodesPass, nodesValid⟩ := validateNodes_of_check nodesChecked
  obtain ⟨unitsPass, unitsValid⟩ := validateUnits_of_check unitsChecked
  obtain ⟨each, once, lists⟩ := (validateUnits_ok_iff .nil).mp unitsPass
  have distinctNodes := nodup_of_length_addAll nodeKeys.1
  have distinctUnits := nodup_of_length_addAll unitKeys.1
  have foundUnit {key : String} {unit : OutlineUnit} :=
    @get_addAll_id _ _ _ key unit _ _ distinctUnits
  have indexedUnits : indexUnits ∅ candidate.units = .ok (byKey (·.unitKey) candidate.units) := by
    refine indexUnits_ok_iff.mpr ⟨fun unit mem => ⟨fun empty => unitKeys.2 ?_, unitsValid unit mem⟩,
      distinctUnits, rfl⟩
    exact Option.isSome_iff_exists.mpr ⟨unit, foundUnit.mpr ⟨mem, empty⟩⟩
  have indexedNodes : indexNodes ∅ candidate.nodes = .ok (byKey (·.nodeKey) candidate.nodes) := by
    refine indexNodes_ok_iff.mpr ⟨fun node mem => ⟨fun empty => nodeKeys.2 ?_, nodesValid node mem⟩,
      distinctNodes, rfl⟩
    exact Option.isSome_iff_exists.mpr ⟨node, (get_addAll_id distinctNodes).mpr ⟨mem, empty⟩⟩
  have assignedOnce : assigned.length = (byKey (·.nodeKey) candidate.nodes).keys.length :=
    ((List.perm_ext_iff_of_nodup (lists ▸ once) (keys_nodup _)).mpr fun key =>
      ⟨fun mem => exhaustive.1 mem, fun mem => exhaustive.2 mem⟩).length_eq
  -- both searches meet a cycle exactly if there is one
  have known (unit : OutlineUnit) (mem : unit ∈ candidate.units) (dependency : String)
      (needs : dependency ∈ unit.dependsOn) :
      ∃ other ∈ candidate.units, other.unitKey = dependency := by
    obtain ⟨other, found⟩ := Option.isSome_iff_exists.mp ((each unit mem).2 dependency needs).1
    exact ⟨other, foundUnit.mp found⟩
  have needed := mem_unitDependencies foundUnit
  obtain ⟨order', passes⟩ := (searched_iff needed known (fun _ => List.mem_map) (Nat.lt_succ_self _)).mpr
    ((searched_iff (fun key dependency => List.mem_dedup.trans (needed key dependency)) known
      (fun _ => List.mem_map) (Nat.lt_succ_self _)).mp ⟨order, acyclic⟩)
  exact validateOutlineCandidate_ok_iff.mpr ⟨⟨schema, title, size, some.2.2, few.1, by omega⟩, _, _, _, _,
    indexedUnits, indexedNodes, nodesPass, unitsPass, assignedOnce, passes⟩

/-! ## Acceptance -/

/-- What Go decodes from the JSON of an outline: every field as it is, if the ordinals have 64 bits. -/
def decodedOutline (accepted : OutlineCandidate) : Option OutlineCandidate :=
  if ∀ n ∈ outlineOrdinals accepted, n < 2 ^ 63 then some accepted else none

def OutlineAccepted (rt : Runtime) (accepted : OutlineCandidate) (text : String) : Prop :=
  ∃ parsed, parseOutlineCandidate rt text.toUTF8 = .ok parsed ∧
    parsed.contentHash = accepted.contentHash

/-- The texts that the two sides hash for the outline do not have the same hash without being the
same. -/
def OutlineCollisionFree (rt : Runtime) (accepted : OutlineCandidate) : Prop :=
  ∀ text, (outlinePayload accepted).dumps = some text →
    rt.hashText (rt.canonicalJSON (outlineHashPayload accepted)) = rt.hashText text →
      rt.canonicalJSON (outlineHashPayload accepted) = text

theorem newOutline_ok (hashes : py.sha256Hex = rt.sha256Hex)
    (built : newOutline py candidate = .ok accepted) :
    checkOutline accepted = .ok () ∧
      accepted.contentHash = rt.hashText (outlineHashPayload accepted).pyText := by
  unfold newOutline at built
  split at built
  · cases built
  next checked =>
  rw [hashJson_outline, Python.sha256, hashes] at built
  cases built
  exact ⟨checked, rfl⟩

theorem portable_of_outlineAccepted (documented : DocumentedJson rt floatInt) {text : String}
    (hashed : accepted.contentHash = rt.hashText (outlineHashPayload accepted).pyText)
    (reads : rt.unmarshalOutline text.toUTF8 = decodedOutline accepted)
    (free : OutlineCollisionFree rt accepted) (parses : OutlineAccepted rt accepted text) :
    OutlinePortable floatInt accepted := by
  obtain ⟨parsed, is, same⟩ := parses
  unfold parseOutlineCandidate at is
  split at is
  · cases is
  next decoded found =>
  rw [reads, decodedOutline] at found
  split at found
  · next fits =>
      cases found
      split at is
      · cases is
      next valid =>
      dsimp only at is
      split at is
      · cases is
      cases is
      have texts := free _ (dumps_outline accepted) (same.trans hashed)
      obtain ⟨plain, written⟩ := (outlineTexts_agree documented accepted).mp texts
      unfold validateOutlineCandidate at valid
      split at valid
      · cases valid
      next identity =>
      simp only [not_or] at identity
      exact ⟨plain, identity.2.1, identity.2.2.1, fun n mem => ⟨fits n mem, written n mem⟩⟩
  · cases found

/-- A scope that the control plane builds is accepted by the worker with the same hash if it is
portable, and an outline that the worker accepts is accepted by the control plane with the same hash if
it is. Where the hashes of the two texts do not collide, these are the only ones. -/
theorem canonical_hashes_agree (documented : DocumentedJson rt floatInt)
    (hashes : py.sha256Hex = rt.sha256Hex) :
    (∀ scope built, buildUnitScope rt scope = .ok built →
      (ScopePortable floatInt built → ScopeAccepted py built) ∧
      (ScopeCollisionFree rt built → ScopeAccepted py built → ScopePortable floatInt built)) ∧
    (∀ candidate accepted text, newOutline py candidate = .ok accepted →
      (outlineDict accepted).dumps = some text →
      rt.unmarshalOutline text.toUTF8 = decodedOutline accepted →
      (OutlinePortable floatInt accepted → OutlineAccepted rt accepted text) ∧
      (OutlineCollisionFree rt accepted → OutlineAccepted rt accepted text →
        OutlinePortable floatInt accepted)) := by
  refine ⟨fun scope built accepted => ⟨scopeAccepted_of_portable documented hashes accepted,
    portable_of_scopeAccepted documented hashes accepted⟩, fun candidate accepted text built _ reads => ?_⟩
  obtain ⟨checked, hashed⟩ := newOutline_ok hashes built
  refine ⟨fun portable => ?_, portable_of_outlineAccepted documented hashed reads⟩
  have texts := (outlineTexts_agree documented accepted).mpr
    ⟨portable.plain, fun n mem => (portable.ordinals n mem).2⟩
  rw [decodedOutline, if_pos fun n mem => (portable.ordinals n mem).1] at reads
  refine ⟨{ accepted with contentHash := accepted.contentHash }, ?_, rfl⟩
  unfold parseOutlineCandidate
  rw [reads]
  dsimp only
  rw [validateOutline_of_check checked portable.title portable.size, texts, ← hashed]
  refine if_neg fun ⟨_, differs⟩ => differs ?_
  rw [hashed]
  exact rt.bareSHA256_sha256Hex _

end

/-! ### A scope and an outline that pass, and feedback with an angle bracket -/

def hashingPython : Python := .knowing []

def plannedOutline : OutlineCandidate :=
  { pairOutline with
    title := "Größe \"S\""
    nodes := pairOutline.nodes.map fun node => { node with questions := ["Wofür?"] } }

def sentOutline : OutlineCandidate :=
  { plannedOutline with
    contentHash := Sha256.hex (outlineHashPayload plannedOutline).pyText.toUTF8 }

def sentText : String := (outlineDict sentOutline).dumps.getD ""

def readingRuntime : Runtime := .ofKnown { outlines := [(sentText.toUTF8, sentOutline)] }

theorem documented_readingRuntime : DocumentedJson readingRuntime id where
  canonical value := by
    rw [Json.mapInts_id]
    rfl
  exact _ _ _ := rfl
  monotone := monotone_id

def planningScope (feedback : String) : UnitScope :=
  { purpose := .planOutline, userFeedback := feedback }

def digestOfX : String := "2d711642b726b04401627ca9fbac32f5c8530fb1903cc4db02258717921a4881"

/-- The scope of a revision of the second unit, after the first is confirmed. -/
def revisingScope : UnitScope := {
  purpose := .reviseUnit, outlineID := "outline", outlineVersion := 1
  outlineHash := digestOfX, currentUnitKey := "b", currentUnitTitle := "B"
  currentUnitOrdinal := 1, sectionNodeKeys := ["m"], dependencyUnitKeys := ["a"]
  confirmedContext := [{
    unitKey := "a", unitVersion := 2, contentHash := digestOfX, summary := "A", markdown := "x" }]
  reopenedUnitKeys := ["b"], immutableUnitKeys := ["a"], requirementRef := "brief"
  requirementHash := digestOfX, baseUnitHash := digestOfX, userFeedback := "kürzer, \"bitte\"" }

theorem canonical_hashes_agree_plain :
    (∃ built, buildUnitScope readingRuntime revisingScope = .ok built ∧
      ScopeAccepted hashingPython built) ∧
    newOutline hashingPython plannedOutline = .ok sentOutline ∧
      OutlineAccepted readingRuntime sentOutline sentText := by
  obtain ⟨scopes, outlines⟩ := @canonical_hashes_agree _ hashingPython _ documented_readingRuntime rfl
  have outline : newOutline hashingPython plannedOutline = .ok sentOutline := by
    unfold newOutline
    rw [hashJson_outline, show checkOutline plannedOutline = .ok () by decide +kernel]
    rfl
  have valid : (buildUnitScope readingRuntime revisingScope).isOk = true := by decide +kernel
  refine ⟨?_, outline, (outlines _ _ _ outline ?_ ?_).1 ?_⟩
  · cases scope : buildUnitScope readingRuntime revisingScope with
    | error err => simp [scope, Except.isOk, Except.toBool] at valid
    | ok built =>
      refine ⟨built, rfl, (scopes _ _ scope).1 ?_⟩
      obtain ⟨-, rfl⟩ := buildUnitScope_ok scope
      refine ScopePortable.with_hash.mpr ⟨?_, ?_, ?_, ?_, ?_, ?_, ?_, rfl, ?_⟩ <;> decide +kernel
  · have written : (outlineDict sentOutline).dumps.isSome := by decide +kernel
    obtain ⟨text, is⟩ := Option.isSome_iff_exists.mp written
    rw [sentText, is]
    rfl
  · have fits : decodedOutline sentOutline = some sentOutline := if_pos (by decide +kernel)
    rw [fits, readingRuntime]
    simp [Runtime.ofKnown, Runtime.KnownTexts.lookup]
  · refine ⟨?_, ?_, ?_, ?_⟩ <;> decide +kernel

theorem decode_error_of_map {result : Except Fault UnitScope} {fault : Fault}
    (is : result.map (·.scopeHash) = .error fault) : result = .error fault := by
  cases result with
  | error other => exact congrArg Except.error (Except.error.inj is)
  | ok _ => cases is

/-- The two encoders write an angle bracket differently, so the worker refuses the scope. -/
theorem angle_bracket_refused : ∃ built,
    buildUnitScope (.ofKnown {}) (planningScope "a < b") = .ok built ∧
      decodeUnitScope hashingPython built.purpose (unitScopeToProto built) =
        .error (.valueError "unit scope hash mismatch") :=
  ⟨_, rfl, decode_error_of_map (by decide +kernel)⟩

end PrdAgent.Agent
