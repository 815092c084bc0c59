import PrdAgent.Library.Topological
import PrdAgent.Runcontrol.Runtime

/-!
# Unit scopes, outlines and run outputs

The pure functions of `unit_scope.go` and `confirmation.go`: checking an outline candidate,
building the frozen scope of a review run, checking what a worker submits against that scope,
choosing the next unit whose dependencies are confirmed, and decoding the units of a working draft.
-/

namespace PrdAgent.Runcontrol

open GoText

/-- `fmt.Errorf("%w: detail", ErrInvalidPayload)`. -/
def invalidPayload (detail : String) : StoreError := ⟨.invalidPayload, detail⟩

/-! ## String lists -/

/-- The loop of `uniqueStrings`, with the values kept so far. -/
def uniqueStringsFrom : List String → List String → List String
  | kept, [] => kept
  | kept, value :: rest =>
    let trimmed := trimSpace value
    if trimmed = "" ∨ trimmed ∈ kept then uniqueStringsFrom kept rest
    else uniqueStringsFrom (kept ++ [trimmed]) rest

def uniqueStrings (values : List String) (sorted : Bool) : List String :=
  let result := uniqueStringsFrom [] values
  if sorted then result.insertionSort (· ≤ ·) else result

/-! ## Outline candidates -/

/-- The payload whose canonical encoding is the outline's content hash. -/
def outlineHashPayload (candidate : OutlineCandidate) : Json :=
  .obj [
    ("schema_version", .str candidate.schemaVersion), ("title", .str candidate.title),
    ("requirement_size", .str candidate.requirementSize),
    ("nodes", .arr (candidate.nodes.map fun node => .obj [
      ("node_key", .str node.nodeKey), ("parent_key", .str node.parentKey),
      ("ordinal", .int node.ordinal), ("title", .str node.title),
      ("questions", .arr (node.questions.map .str)),
      ("required_content", .arr (node.requiredContent.map .str)),
      ("unit_key", .str node.unitKey)])),
    ("units", .arr (candidate.units.map fun unit => .obj [
      ("unit_key", .str unit.unitKey), ("title", .str unit.title), ("ordinal", .int unit.ordinal),
      ("node_keys", .arr (unit.nodeKeys.map .str)),
      ("depends_on", .arr (unit.dependsOn.map .str))]))]

/-- The first loop of `validateOutlineCandidate`: index the units by key. -/
def indexUnits : GoMap OutlineUnit → List OutlineUnit → Except StoreError (GoMap OutlineUnit)
  | units, [] => .ok units
  | units, unit :: rest =>
    if unit.unitKey = "" ∨ unit.title = "" ∨ unit.ordinal < 0 ∨ unit.nodeKeys = [] then
      .error (invalidPayload "invalid outline unit")
    else if (units.get unit.unitKey).isSome then
      .error (invalidPayload "duplicate outline unit")
    else indexUnits (units.set unit.unitKey unit) rest

/-- The second loop: index the nodes by key. -/
def indexNodes : GoMap OutlineNode → List OutlineNode → Except StoreError (GoMap OutlineNode)
  | nodes, [] => .ok nodes
  | nodes, node :: rest =>
    if node.nodeKey = "" ∨ node.title = "" ∨ node.ordinal < 0 then
      .error (invalidPayload "invalid outline node")
    else if (nodes.get node.nodeKey).isSome then
      .error (invalidPayload "duplicate outline node")
    else indexNodes (nodes.set node.nodeKey node) rest

/-- The walk from a node to the root, with how many more parents the depth limit allows. -/
def parentChainValid (nodes : GoMap OutlineNode) : Nat → List String → String → Bool
  | 0, _, parent => parent == ""
  | remaining + 1, seen, parent =>
    if parent = "" then true
    else match nodes.get parent with
      | none => false
      | some parentNode =>
        if parent ∈ seen then false
        else parentChainValid nodes remaining (parent :: seen) parentNode.parentKey

/-- The third loop: every node names a unit and has at most two proper ancestors. -/
def validateNodes (nodes : GoMap OutlineNode) (units : GoMap OutlineUnit) :
    List OutlineNode → Except StoreError Unit
  | [] => .ok ()
  | node :: rest =>
    if (units.get node.unitKey).isNone then
      .error (invalidPayload "outline node has missing unit")
    else if !parentChainValid nodes 2 [node.nodeKey] node.parentKey then
      .error (invalidPayload "outline parent is missing, cyclic, or too deep")
    else validateNodes nodes units rest

/-- Assign the nodes a unit lists to it, each node once. -/
def assignNodes (nodes : GoMap OutlineNode) (unitKey : String) :
    List String → List String → Except StoreError (List String)
  | assigned, [] => .ok assigned
  | assigned, key :: rest =>
    match nodes.get key with
    | none => .error (invalidPayload "invalid outline node assignment")
    | some node =>
      if node.unitKey ≠ unitKey ∨ key ∈ assigned then
        .error (invalidPayload "invalid outline node assignment")
      else assignNodes nodes unitKey (key :: assigned) rest

/-- The fourth loop: node assignment and dependencies of each unit. -/
def validateUnits (nodes : GoMap OutlineNode) (units : GoMap OutlineUnit) :
    List String → List OutlineUnit → Except StoreError (List String)
  | assigned, [] => .ok assigned
  | assigned, unit :: rest =>
    match assignNodes nodes unit.unitKey assigned unit.nodeKeys with
    | .error err => .error err
    | .ok assigned' =>
      if unit.dependsOn.any fun dependency =>
          (units.get dependency).isNone || dependency == unit.unitKey then
        .error (invalidPayload "invalid outline dependency")
      else validateUnits nodes units assigned' rest

def unitDependencies (units : GoMap OutlineUnit) (key : String) : List String :=
  ((units.get key).map (·.dependsOn)).getD []

def validateOutlineCandidate (candidate : OutlineCandidate) : Except StoreError Unit :=
  if candidate.schemaVersion ≠ "outline-candidate.v1" ∨ trimSpace candidate.title = "" ∨
      trimSpace candidate.requirementSize = "" ∨ candidate.nodes = [] ∨ candidate.units = [] ∨
      candidate.units.length > 15 then
    .error (invalidPayload "invalid outline identity or size")
  else match indexUnits ∅ candidate.units with
    | .error err => .error err
    | .ok units => match indexNodes ∅ candidate.nodes with
      | .error err => .error err
      | .ok nodes => match validateNodes nodes units candidate.nodes with
        | .error err => .error err
        | .ok () => match validateUnits nodes units [] candidate.units with
          | .error err => .error err
          | .ok assigned =>
            if assigned.length ≠ nodes.keys.length then
              .error (invalidPayload "every outline node must be assigned once")
            else match Topological.visitAll (unitDependencies units)
                (candidate.units.length + 1) (candidate.units.map (·.unitKey)) with
              | none => .error (invalidPayload "outline dependency cycle")
              | some _ => .ok ()

def parseOutlineCandidate (rt : Runtime) (payload : ByteArray) :
    Except StoreError OutlineCandidate :=
  match rt.unmarshalOutline payload with
  | none => .error (invalidPayload "invalid outline candidate")
  | some candidate => match validateOutlineCandidate candidate with
    | .error err => .error err
    | .ok () =>
      let computed := rt.hashText (rt.canonicalJSON (outlineHashPayload candidate))
      if candidate.contentHash ≠ "" ∧ bareSHA256 candidate.contentHash ≠ computed then
        .error (invalidPayload "outline candidate content hash mismatch")
      else .ok { candidate with contentHash := computed }

/-! ## Unit scopes -/

/-- The payload whose canonical encoding is the scope hash. -/
def unitScopeHashPayload (scope : UnitScope) : Json :=
  .obj [
    ("schema_version", .str scope.schemaVersion), ("purpose", .str scope.purpose.text),
    ("outline_id", .str scope.outlineID), ("outline_version", .int scope.outlineVersion),
    ("outline_hash", .str scope.outlineHash), ("current_unit_key", .str scope.currentUnitKey),
    ("current_unit_title", .str scope.currentUnitTitle),
    ("current_unit_ordinal", .int scope.currentUnitOrdinal),
    ("section_node_keys", .arr (scope.sectionNodeKeys.map .str)),
    ("dependency_unit_keys", .arr (scope.dependencyUnitKeys.map .str)),
    ("confirmed_context", .arr (scope.confirmedContext.map fun item => .obj [
      ("unit_key", .str item.unitKey), ("unit_version", .int item.unitVersion),
      ("content_hash", .str item.contentHash), ("summary", .str item.summary),
      ("working_draft_ref", .str item.workingDraftRef), ("markdown", .str item.markdown)])),
    ("reopened_unit_keys", .arr (scope.reopenedUnitKeys.map .str)),
    ("immutable_unit_keys", .arr (scope.immutableUnitKeys.map .str)),
    ("requirement_brief_ref", .str scope.requirementRef),
    ("requirement_brief_hash", .str scope.requirementHash),
    ("base_unit_hash", .str scope.baseUnitHash), ("user_feedback", .str scope.userFeedback)]

/-- The loop of `UnitScope.validate` over the confirmed context, with the keys met so far. -/
def validateConfirmedContext (rt : Runtime) :
    List String → List ConfirmedUnitContext → Except StoreError Unit
  | _, [] => .ok ()
  | seen, item :: rest =>
    if item.unitKey = "" ∨ item.unitVersion < 1 ∨ validSHA256 item.contentHash = false then
      .error (invalidPayload "invalid confirmed unit context")
    else if item.unitKey ∈ seen then
      .error (invalidPayload "duplicate confirmed unit context")
    else if item.markdown ≠ "" ∧ rt.hashText item.markdown ≠ item.contentHash then
      .error (invalidPayload "confirmed unit markdown hash mismatch")
    else validateConfirmedContext rt (item.unitKey :: seen) rest

/-- What `UnitScope.validate` asks of one unit of the confirmed context. -/
structure ConfirmedUnitContext.Valid (rt : Runtime) (item : ConfirmedUnitContext) : Prop where
  named : item.unitKey ≠ ""
  numbered : 1 ≤ item.unitVersion
  digest : validSHA256 item.contentHash = true
  hashed : item.markdown ≠ "" → rt.hashText item.markdown = item.contentHash

theorem validateConfirmedContext_ok_iff {rt : Runtime} {seen : List String}
    {context : List ConfirmedUnitContext} :
    validateConfirmedContext rt seen context = .ok () ↔
      (context.map (·.unitKey)).Nodup ∧
        ∀ item ∈ context, item.unitKey ∉ seen ∧ item.Valid rt := by
  induction context generalizing seen with
  | nil => exact ⟨fun _ => ⟨.nil, nofun⟩, fun _ => rfl⟩
  | cons item rest ih =>
    have first : validateConfirmedContext rt seen (item :: rest) = .ok () ↔
        (item.unitKey ∉ seen ∧ item.Valid rt) ∧
          validateConfirmedContext rt (item.unitKey :: seen) rest = .ok () := by
      rw [validateConfirmedContext]
      constructor
      · intro ok
        refine ⟨⟨?_, ?_, ?_, ?_, ?_⟩, ?_⟩ <;> grind
      · rintro ⟨⟨unseen, named, numbered, digest, hashed⟩, others⟩
        grind
    rw [first, ih]
    simp only [List.map_cons, List.nodup_cons, List.mem_cons, List.mem_map]
    grind

def UnitScope.validate (rt : Runtime) (scope : UnitScope) : Except StoreError Unit :=
  let writesUnit := scope.purpose = .generateUnit ∨ scope.purpose = .reviseUnit
  if scope.schemaVersion ≠ "unit-scope.v1" ∨ scope.purpose.valid = false then
    .error (invalidPayload "invalid unit scope schema or purpose")
  else if scope.purpose ≠ .planOutline ∧ (trimSpace scope.outlineID = "" ∨
      scope.outlineVersion < 1 ∨ validSHA256 scope.outlineHash = false) then
    .error (invalidPayload "unit scope requires a locked outline")
  else if writesUnit ∧ (trimSpace scope.currentUnitKey = "" ∨
      trimSpace scope.currentUnitTitle = "" ∨ scope.sectionNodeKeys = []) then
    .error (invalidPayload "generation scope requires a current unit")
  else if ¬ writesUnit ∧ scope.currentUnitKey ≠ "" then
    .error (invalidPayload "purpose cannot write a current unit")
  else if scope.purpose = .reviseUnit ∧ (scope.currentUnitKey ∉ scope.reopenedUnitKeys ∨
      scope.userFeedback = "" ∨ validSHA256 scope.baseUnitHash = false) then
    .error (invalidPayload "revision scope requires reopened current unit, base hash and feedback")
  else if scope.reopenedUnitKeys.any fun key => decide (key ∈ scope.immutableUnitKeys) then
    .error (invalidPayload "reopened and immutable unit sets overlap")
  else match validateConfirmedContext rt [] scope.confirmedContext with
    | .error err => .error err
    | .ok () =>
      if scope.dependencyUnitKeys.any fun dependency =>
          decide (dependency ∉ scope.confirmedContext.map (·.unitKey)) then
        .error (invalidPayload "dependency is not confirmed")
      else .ok ()

/-- The normalisation at the start of `BuildUnitScope`. -/
def UnitScope.normalized (scope : UnitScope) : UnitScope :=
  { scope with
    schemaVersion := if scope.schemaVersion = "" then "unit-scope.v1" else scope.schemaVersion
    outlineHash := bareSHA256 scope.outlineHash
    requirementHash := bareSHA256 scope.requirementHash
    baseUnitHash := bareSHA256 scope.baseUnitHash
    userFeedback := trimSpace scope.userFeedback
    sectionNodeKeys := uniqueStrings scope.sectionNodeKeys false
    dependencyUnitKeys := uniqueStrings scope.dependencyUnitKeys false
    reopenedUnitKeys := uniqueStrings scope.reopenedUnitKeys true
    immutableUnitKeys := uniqueStrings scope.immutableUnitKeys true
    confirmedContext :=
      (scope.confirmedContext.map fun item =>
        { item with contentHash := bareSHA256 item.contentHash }).insertionSort
          (fun left right => left.unitKey ≤ right.unitKey)
    scopeHash := "" }

def buildUnitScope (rt : Runtime) (scope : UnitScope) : Except StoreError UnitScope :=
  match scope.normalized.validate rt with
  | .error err => .error err
  | .ok () => .ok { scope.normalized with
      scopeHash := rt.hashText (rt.canonicalJSON (unitScopeHashPayload scope.normalized)) }

/-! ## Run outputs -/

def maxRunOutputBytes : Nat := 2 * 1024 * 1024

def validateUnitCandidatePayload (rt : Runtime) (scope : UnitScope) (payload : ByteArray) :
    Except StoreError Unit :=
  match rt.unmarshalUnitCandidate payload with
  | none => .error (invalidPayload "invalid unit candidate")
  | some candidate =>
    if candidate.schemaVersion ≠ "unit-candidate.v1" ∨
        candidate.unitKey ≠ scope.currentUnitKey ∨ candidate.title ≠ scope.currentUnitTitle ∨
        candidate.ordinal ≠ scope.currentUnitOrdinal then
      .error (invalidPayload "unit candidate escaped locked scope")
    else if candidate.nodeKeys ≠ scope.sectionNodeKeys ∨ trimSpace candidate.markdown = "" ∨
        rt.hashText (trimSpace candidate.markdown) ≠ bareSHA256 candidate.contentHash then
      .error (invalidPayload "invalid unit candidate content")
    else .ok ()

def validateUnitPatchPayload (rt : Runtime) (scope : UnitScope) (payload : ByteArray) :
    Except StoreError Unit :=
  match rt.unmarshalUnitPatch payload with
  | none => .error (invalidPayload "invalid unit patch")
  | some patch =>
    if patch.schemaVersion ≠ "unit-patch.v1" ∨ patch.unitKey ≠ scope.currentUnitKey ∨
        bareSHA256 patch.baseContentHash ≠ scope.baseUnitHash ∨
        trimSpace patch.replacementMarkdown = "" then
      .error (invalidPayload "unit patch escaped locked scope or has stale base")
    else .ok ()

def validateFullReviewPayload (rt : Runtime) (scope : UnitScope) (payload : ByteArray) :
    Except StoreError Unit :=
  match rt.unmarshalFullReview payload with
  | none => .error (invalidPayload "invalid full review report")
  | some report =>
    if report.schemaVersion ≠ "full-review-report.v1" ∨
        bareSHA256 report.outlineHash ≠ scope.outlineHash then
      .error (invalidPayload "invalid full review report")
    else if report.unitHashes.keys.length ≠ scope.confirmedContext.length then
      .error (invalidPayload "full review unit hash set mismatch")
    else if scope.confirmedContext.any fun item =>
        decide (bareSHA256 ((report.unitHashes.get item.unitKey).getD "") ≠ item.contentHash) then
      .error (invalidPayload "full review unit hash mismatch")
    else match rt.unmarshalRawKeys payload with
      | none => .error (invalidPayload "invalid full review report")
      | some raw =>
        if "replacement_markdown" ∈ raw then
          .error (invalidPayload "full review cannot modify confirmed content")
        else .ok ()

def validateRunOutput (rt : Runtime) (scope : UnitScope) (output : RunOutput)
    (expectedTaskVersion : Int) : Except StoreError Unit :=
  if output.schemaVersion ≠ "run-output.v1" ∨ output.outputKey = "" then
    .error (invalidPayload "invalid run output identity")
  else if output.runPurpose ≠ scope.purpose ∨
      output.outputKind ≠ outputKindForPurpose scope.purpose then
    .error (invalidPayload "run output kind does not match purpose")
  else if output.expectedTaskVersion ≠ expectedTaskVersion then
    .error ⟨.taskVersionConflict, ""⟩
  else if bareSHA256 output.scopeHash ≠ bareSHA256 scope.scopeHash then
    .error (invalidPayload "run output scope hash mismatch")
  else if output.payload.size = 0 ∨ output.payload.size > maxRunOutputBytes then
    .error ⟨.payloadTooLarge, ""⟩
  else if validSHA256 output.contentHash = false ∨
      rt.hashBytesHex output.payload ≠ bareSHA256 output.contentHash then
    .error (invalidPayload "run output content hash mismatch")
  else match output.outputKind with
    | .unitCandidate => validateUnitCandidatePayload rt scope output.payload
    | .unitPatch => validateUnitPatchPayload rt scope output.payload
    | .fullReviewReport => validateFullReviewPayload rt scope output.payload
    | .outlineCandidate => match parseOutlineCandidate rt output.payload with
      | .error err => .error err
      | .ok _ => .ok ()
    | .other _ => .error (invalidPayload "unsupported run output kind")

/-! ## The next dependency-ready unit -/

structure PlannedConfirmationUnit where
  unitKey : String
  ordinal : Int
  dependsOn : List String
  confirmationStatus : UnitStatus

/-- Index the planned units' statuses, refusing blank and repeated keys. -/
def plannedStatuses : GoMap UnitStatus → List PlannedConfirmationUnit →
    Except StoreError (GoMap UnitStatus)
  | status, [] => .ok status
  | status, unit :: rest =>
    if unit.unitKey = "" then .error (invalidPayload "unit key is required")
    else if (status.get unit.unitKey).isSome then .error (invalidPayload "duplicate unit key")
    else plannedStatuses (status.set unit.unitKey unit.confirmationStatus) rest

def readyUnits (status : GoMap UnitStatus) : List PlannedConfirmationUnit →
    Except StoreError (List PlannedConfirmationUnit)
  | [] => .ok []
  | unit :: rest =>
    if unit.confirmationStatus ≠ .pending ∧ unit.confirmationStatus ≠ .reopened then
      readyUnits status rest
    else if unit.dependsOn.any fun dependency => (status.get dependency).isNone then
      .error (invalidPayload "missing unit dependency")
    else match readyUnits status rest with
      | .error err => .error err
      | .ok ready =>
        if unit.dependsOn.all fun dependency => status.get dependency == some .confirmed then
          .ok (unit :: ready)
        else .ok ready

def plannedBefore (left right : PlannedConfirmationUnit) : Bool :=
  if left.ordinal = right.ordinal then left.unitKey ≤ right.unitKey
  else left.ordinal ≤ right.ordinal

def nextDependencyReadyUnit (units : List PlannedConfirmationUnit) :
    Except StoreError (Option PlannedConfirmationUnit) :=
  match plannedStatuses ∅ units with
  | .error err => .error err
  | .ok status => match readyUnits status units with
    | .error err => .error err
    | .ok ready => .ok (ready.insertionSort fun left right => plannedBefore left right).head?

/-! ## Working drafts -/

/-- The first loop of `ParseConfirmationCandidates`, with the keys seen so far. -/
def normalizeCandidates (rt : Runtime) : List String → List ConfirmationCandidate →
    Except StoreError (List ConfirmationCandidate)
  | _, [] => .ok []
  | seen, item :: rest =>
    let unitKey := trimSpace item.unitKey
    let title := trimSpace item.title
    let markdown := trimSpace item.markdown
    let actual := rt.hashText markdown
    if unitKey = "" ∨ title = "" ∨ markdown = "" ∨ item.ordinal < 0 ∨ unitKey ∈ seen then
      .error (invalidPayload "invalid confirmation unit")
    else if item.contentHash ≠ actual ∧ item.contentHash ≠ "sha256:" ++ actual then
      .error (invalidPayload "confirmation unit hash mismatch")
    else match normalizeCandidates rt (unitKey :: seen) rest with
      | .error err => .error err
      | .ok items => .ok ({ item with
          unitKey := unitKey, title := title, markdown := markdown, contentHash := actual } ::
            items)

/-- `ParseConfirmationCandidates`: a draft without a schema has no confirmation units. -/
def parseConfirmationCandidates (rt : Runtime) (patch : ByteArray) (taskID runID : String) :
    Except StoreError (List ConfirmationCandidate) :=
  match rt.unmarshalWorkingDraft patch with
  | none => .ok []
  | some document =>
    if document.schemaVersion = "" then .ok []
    else if document.schemaVersion ≠ "working-draft.v2" then
      .error (invalidPayload "unsupported working draft schema")
    else if document.taskID ≠ taskID ∨ document.runID ≠ runID ∨
        document.confirmationUnits = [] then
      .error (invalidPayload "v2 draft requires task, run and confirmation units")
    else match normalizeCandidates rt [] document.confirmationUnits with
      | .error err => .error err
      | .ok items =>
        if items.any fun item => item.dependsOn.any fun dependency =>
            decide (dependency ∉ items.map (·.unitKey)) then
          .error (invalidPayload "confirmation dependency is missing")
        else .ok items

end PrdAgent.Runcontrol
