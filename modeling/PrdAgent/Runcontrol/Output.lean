import PrdAgent.Runcontrol.Review

/-!
# Submitted outputs and drafts

`SubmitRunOutput` materialises a worker's output as an outline, a unit version or a full-review
report, and `SubmitDraft` stores a working draft with its confirmation units, as in
`memory_store.go`. An output is recorded before the checks that depend on the state of the review;
when one of those checks fails, the record stays.
-/

namespace PrdAgent.Runcontrol

open GoText

/-- What the payload of a checked output decodes to. -/
inductive DecodedOutput
  | outline (candidate : OutlineCandidate)
  | unit (candidate : UnitCandidate) (refs : UnitCandidateRefs)
  | patch (patch : UnitPatch) (refs : UnitPatchRefs)
  | review (report : FullReviewCandidate) (outcome : String)

def decodeOutput (rt : Runtime) (output : RunOutput) : Except StoreError DecodedOutput :=
  match output.runPurpose with
  | .planOutline => match parseOutlineCandidate rt output.payload with
    | .error err => .error err
    | .ok candidate => .ok (.outline candidate)
  | .generateUnit =>
    match rt.unmarshalUnitCandidate output.payload,
        rt.unmarshalUnitCandidateRefs output.payload with
    | some candidate, some refs => .ok (.unit candidate refs)
    | _, _ => .error ⟨.invalidPayload, ""⟩
  | .fullReview =>
    match rt.unmarshalFullReview output.payload, rt.unmarshalOutcome output.payload with
    | some report, some outcome =>
      if outcome = "PASSED" ∨ outcome = "NEEDS_REVISION" then .ok (.review report outcome)
      else .error ⟨.invalidPayload, ""⟩
    | _, _ => .error ⟨.invalidPayload, ""⟩
  | .reviseUnit =>
    match rt.unmarshalUnitPatch output.payload, rt.unmarshalUnitPatchRefs output.payload with
    | some patch, some refs =>
      if refs.contentHash ≠ "" ∧ bareSHA256 refs.contentHash ≠
          rt.hashText (trimSpace patch.replacementMarkdown) then
        .error ⟨.invalidPayload, ""⟩
      else .ok (.patch patch refs)
    | _, _ => .error ⟨.invalidPayload, ""⟩
  | .other _ => .error ⟨.invalidPayload, ""⟩

namespace MemoryStore

variable (rt : Runtime) (call : Call)

/-- The state a submitted output is checked against and materialised in. -/
structure OutputTarget where
  run : AgentRun
  task : Task
  scope : UnitScope
  /-- The key the output is recorded under. -/
  identity : String

def OutputTarget.advanced (target : OutputTarget) (status : TaskStatus) : Task :=
  target.task.advanced status call.now

def commitOutput (s : MemoryStore) (task : Task) (eventType : String) (payload : Json) :
    MemoryStore :=
  { s with
    tasks := s.tasks.set task.taskID task
    events := s.appendTaskEventLocked call task.tenantID task.ownerID task.taskID eventType
      (rt.marshalBytes payload) }

/-- The draft outline that a submitted candidate becomes. -/
def draftOutline (target : OutputTarget) (candidate : OutlineCandidate) : ReviewOutlineVersion := {
  outlineID := "outline-" ++ rt.stableHash target.task.taskID
  outlineVersionID := "outline-version-" ++ rt.stableHash target.identity
  taskID := target.task.taskID, version := 1, status := .draft, candidate := candidate
  contentHash := candidate.contentHash, sourceRunID := target.run.runID, createdAt := call.now }

/-- A submitted outline becomes the task's draft outline. -/
def materializeOutline (target : OutputTarget) (candidate : OutlineCandidate) (s : MemoryStore) :
    MemoryStore :=
  let outline := draftOutline rt call target candidate
  let task := target.advanced call .outlineReview
  commitOutput rt call
    { s with reviewOutlines := s.reviewOutlines.set target.task.taskID outline }
    task "review.outline_materialized"
    (.obj [("outline_version_id", .str outline.outlineVersionID),
      ("task_version", .int task.version)])

/-- A locked outline of the task, and the unit the run's scope is about. -/
def lockedUnit (s : MemoryStore) (target : OutputTarget) (expected : UnitStatus) :
    Except StoreError (ReviewOutlineVersion × ReviewUnit) :=
  match s.reviewOutlines.get target.task.taskID,
      (s.unitsOf target.task.taskID).get target.scope.currentUnitKey with
  | some outline, some unit =>
    if outline.status ≠ .locked ∨ unit.status ≠ expected then .error ⟨.invalidRunStatus, ""⟩
    else .ok (outline, unit)
  | _, _ => .error ⟨.invalidRunStatus, ""⟩

/-- The version identifier of a unit output. -/
def unitVersionIDFor (identity : String) : String :=
  "review-unit-version-" ++ rt.stableHash identity

/-- Store a new version of a unit and put the unit under review. -/
def storeUnitVersion (s : MemoryStore) (target : OutputTarget) (unit : ReviewUnit)
    (value : ConfirmationUnitVersion) : MemoryStore :=
  { s with
    confirmationVersions := s.confirmationVersions.set value.unitVersionID
      { taskID := target.task.taskID, taskVersion := target.task.version + 1, value := value }
    reviewUnits := s.reviewUnits.set target.task.taskID
      ((s.unitsOf target.task.taskID).set unit.unitKey { unit with status := .reviewing }) }

def generatedVersion (target : OutputTarget) (outline : ReviewOutlineVersion) (unit : ReviewUnit)
    (candidate : UnitCandidate) (refs : UnitCandidateRefs) : ConfirmationUnitVersion := {
  unitID := unit.unitID, unitVersionID := unitVersionIDFor rt target.identity
  outlineVersionID := outline.outlineVersionID, sourceRunID := target.run.runID
  unitVersionNo := 1, unitKey := unit.unitKey, title := unit.title, ordinal := unit.ordinal
  markdown := candidate.markdown, contentHash := bareSHA256 candidate.contentHash
  claimIDs := refs.claimIDs, unknownIDs := refs.unknownIDs, dependsOn := unit.dependsOn
  confirmationStatus := .reviewing, createdAt := call.now }

/-- A generated unit becomes the first version of its unit. -/
def materializeUnit (target : OutputTarget) (candidate : UnitCandidate)
    (refs : UnitCandidateRefs) (s : MemoryStore) : Except StoreError MemoryStore :=
  match s.lockedUnit target .pending with
  | .error err => .error err
  | .ok (outline, unit) =>
    let value := generatedVersion rt call target outline unit candidate refs
    let task := target.advanced call .unitReview
    .ok (commitOutput rt call (s.storeUnitVersion target unit value) task
      "review.unit_materialized"
      (.obj [("task_version", .int task.version), ("unit_key", .str unit.unitKey),
        ("unit_version_id", .str value.unitVersionID)]))

def baseVersion (s : MemoryStore) (taskID unitKey : String) : ConfirmationUnitVersion :=
  ((s.visitedVersions call).filter fun item =>
    item.taskID == taskID && item.value.unitKey == unitKey).foldl
      (fun (base : ConfirmationUnitVersion) item =>
        if base.unitVersionNo < item.value.unitVersionNo then item.value else base) {}

/-- The version that a patch of a base version becomes. -/
def revisedVersion (target : OutputTarget) (outline : ReviewOutlineVersion) (unit : ReviewUnit)
    (base : ConfirmationUnitVersion) (patch : UnitPatch) (refs : UnitPatchRefs) :
    ConfirmationUnitVersion := {
  unitID := unit.unitID, unitVersionID := unitVersionIDFor rt target.identity
  outlineVersionID := outline.outlineVersionID, sourceRunID := target.run.runID
  unitVersionNo := base.unitVersionNo + 1, unitKey := unit.unitKey, title := unit.title
  ordinal := unit.ordinal, markdown := trimSpace patch.replacementMarkdown
  contentHash := rt.hashText (trimSpace patch.replacementMarkdown)
  unknownIDs := refs.preservedUnknownIDs, dependsOn := unit.dependsOn
  confirmationStatus := .reviewing, createdAt := call.now }

/-- A patch becomes the next version of its reopened unit. -/
def materializePatch (target : OutputTarget) (patch : UnitPatch) (refs : UnitPatchRefs)
    (s : MemoryStore) : Except StoreError MemoryStore :=
  match s.lockedUnit target .reopened with
  | .error err => .error err
  | .ok (outline, unit) =>
    let base := s.baseVersion call target.task.taskID unit.unitKey
    if base.unitVersionNo < 1 ∨
        bareSHA256 base.contentHash ≠ bareSHA256 patch.baseContentHash then
      .error ⟨.taskVersionConflict, ""⟩
    else
      let value := revisedVersion rt call target outline unit base patch refs
      let task := target.advanced call .unitReview
      .ok (commitOutput rt call (s.storeUnitVersion target unit value) task
        "review.unit_revision_materialized"
        (.obj [("task_version", .int task.version), ("unit_key", .str unit.unitKey),
          ("unit_version_id", .str value.unitVersionID),
          ("unit_version_no", .int value.unitVersionNo)]))

def unitHashesJson (unitHashes : GoMap String) : Json :=
  .obj ((unitHashes.range id).map fun entry => (entry.1, .str entry.2))

def reviewReport (target : OutputTarget) (outline : ReviewOutlineVersion) (output : RunOutput)
    (report : FullReviewCandidate) (outcome : String) : FullReviewReport := {
  reportID := "full-review-" ++ rt.stableHash target.identity
  taskID := target.task.taskID, outlineVersionID := outline.outlineVersionID
  sourceRunID := target.run.runID, contentHash := bareSHA256 output.contentHash
  disposition := outcome, unitHashes := report.unitHashes
  unitHashSetHash := rt.hashText (rt.canonicalJSON (unitHashesJson report.unitHashes))
  payload := output.payload, createdAt := call.now }

/-- The status of a task whose full review came out so. -/
def reviewedStatus (outcome : String) : TaskStatus :=
  if outcome = "PASSED" then .reviewable else .fullReview

/-- A full-review report is stored for the task. -/
def materializeReview (target : OutputTarget) (output : RunOutput) (report : FullReviewCandidate)
    (outcome : String) (s : MemoryStore) : Except StoreError MemoryStore :=
  match s.reviewOutlines.get target.task.taskID with
  | none => .error ⟨.invalidRunStatus, ""⟩
  | some outline =>
    if outline.status ≠ .locked ∨ target.task.status ≠ .fullReviewRunning then
      .error ⟨.invalidRunStatus, ""⟩
    else if sameConfirmedHashSet (s.confirmedUnitContextLocked call target.task.taskID)
        target.scope.confirmedContext = false then
      .error ⟨.taskVersionConflict, "full review scope is stale"⟩
    else
      let stored := reviewReport rt call target outline output report outcome
      let task := target.advanced call (reviewedStatus outcome)
      .ok (commitOutput rt call
        { s with fullReviewReports := s.fullReviewReports.set target.task.taskID stored }
        task "review.full_review_materialized"
        (.obj [("disposition", .str outcome), ("report_id", .str stored.reportID),
          ("task_version", .int task.version)]))

/-- Materialise a decoded output, or fail on a check of the review state. -/
def materialize (target : OutputTarget) (output : RunOutput) (s : MemoryStore) :
    DecodedOutput → Except StoreError MemoryStore
  | .outline candidate => .ok (materializeOutline rt call target candidate s)
  | .unit candidate refs => materializeUnit rt call target candidate refs s
  | .patch patch refs => materializePatch rt call target patch refs s
  | .review report outcome => materializeReview rt call target output report outcome s

def submitRunOutput (lease : LeaseContext) (output : RunOutput) (s : MemoryStore) :
    Outcome RunOutputReceipt :=
  match s.validateLeaseLocked lease call.now with
  | .error err => (s, .error err)
  | .ok run =>
  match s.unitScopes.get lease.runID with
  | none => fail s .invalidPayload
  | some scope =>
  let task := (s.tasks.get run.taskID).getD {}
  let identity := joinKey lease.runID output.outputKey
  match s.runOutputs.get identity with
  | some existing =>
    if bareSHA256 existing.contentHash ≠ bareSHA256 output.contentHash then
      fail s .invalidIdempotency
    else (s, .ok ((s.runOutputReceipts.get identity).getD {}))
  | none =>
  match validateRunOutput rt scope output task.version with
  | .error err => (s, .error err)
  | .ok () =>
  match decodeOutput rt output with
  | .error err => (s, .error err)
  | .ok decoded =>
  let recorded := { s with
    runOutputs := s.runOutputs.set identity
      { output with contentHash := bareSHA256 output.contentHash } }
  match materialize rt call { run, task, scope, identity } output recorded decoded with
  -- the record of the output stays although nothing was materialised
  | .error err => (recorded, .error err)
  | .ok done =>
    let receipt : RunOutputReceipt := {
      outputKey := output.outputKey, contentHash := bareSHA256 output.contentHash
      taskVersion := task.version + 1 }
    ({ done with runOutputReceipts := s.runOutputReceipts.set identity receipt }, .ok receipt)

/-! ## Working drafts -/

def maxDraftPatchBytes : Nat := 2 * 1024 * 1024

/-- The status of a draft's unit: an immutable unit of a revision stays confirmed when an earlier
version with the same content was. -/
def draftUnitStatus (scope : RevisionScope) (candidate : ConfirmationCandidate)
    (versions : GoMap MemoryConfirmationVersion) : UnitStatus :=
  if candidate.unitKey ∈ scope.immutableUnitKeys ∧
      (versions.values.any fun prior =>
        prior.value.draftID == scope.baseDraftID && prior.value.unitKey == candidate.unitKey &&
          prior.value.contentHash == candidate.contentHash &&
          prior.value.confirmationStatus == .confirmed) then
    .confirmed
  else .pending

/-- The loop of `SubmitDraft` over the draft's confirmation units. -/
def storeDraftUnits (task : Task) (draftID : String) (scope : RevisionScope) :
    List ConfirmationCandidate → GoMap MemoryConfirmationVersion →
      GoMap MemoryConfirmationVersion
  | [], versions => versions
  | candidate :: rest, versions =>
    let unitID := "unit-" ++ rt.stableHash (joinKey task.taskID candidate.unitKey)
    let versionID := "unit-version-" ++ rt.stableHash (joinKey draftID unitID)
    storeDraftUnits task draftID scope rest (versions.set versionID {
      taskID := task.taskID, taskVersion := task.version
      value := {
        unitID := unitID, unitVersionID := versionID, draftID := draftID
        unitKey := candidate.unitKey, title := candidate.title, ordinal := candidate.ordinal
        markdown := candidate.markdown, contentHash := candidate.contentHash
        claimIDs := candidate.claimIDs, unknownIDs := candidate.unknownIDs
        dependsOn := candidate.dependsOn
        confirmationStatus := draftUnitStatus scope candidate versions
        createdAt := call.now } })

def submitDraft (lease : LeaseContext) (draftKey : String) (expectedTaskVersion : Int)
    (patch : ByteArray) (s : MemoryStore) : Outcome DraftReceipt :=
  match s.validateLeaseLocked lease call.now with
  | .error err => (s, .error err)
  | .ok run =>
  let task := (s.tasks.get run.taskID).getD {}
  let patchHash := rt.hashBytesHex patch
  let draftIdentity := joinKey task.taskID draftKey
  if draftKey = "" ∨ patch.size > maxDraftPatchBytes then fail s .invalidPayload
  else match s.drafts.get draftIdentity with
  | some existing =>
    if existing.patchHash ≠ patchHash then fail s .invalidIdempotency
    else (s, .ok { taskVersion := existing.taskVersion })
  | none =>
  if task.version ≠ expectedTaskVersion then fail s .taskVersionConflict
  else match parseConfirmationCandidates rt patch task.taskID lease.runID with
  | .error err => (s, .error err)
  | .ok candidates =>
    let draftID := "draft-" ++ rt.stableHash draftIdentity
    let updated := task.advanced task.status call.now
    let scope := (s.revisionScopes.get lease.runID).getD {}
    ({ s with
        tasks := s.tasks.set task.taskID updated
        drafts := s.drafts.set draftIdentity {
          draftID := draftID, runID := lease.runID, draftKey := draftKey, patchHash := patchHash
          patch := patch, taskVersion := updated.version, createdAt := call.now }
        confirmationVersions := storeDraftUnits rt call updated draftID scope candidates
          s.confirmationVersions },
      .ok { taskVersion := updated.version })

end MemoryStore

end PrdAgent.Runcontrol
