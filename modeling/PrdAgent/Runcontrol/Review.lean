import PrdAgent.Runcontrol.Runs

/-!
# The review workflow

Locking an outline, confirming and reopening units, and creating the review runs that follow, from
`review_workflow.go` and `confirmation_memory.go`. The V4 commands write outline, unit and version
records before they create the next run, and creating a run can fail; a failed command then returns
the partly written state.
-/

namespace PrdAgent.Runcontrol

open GoText

/-- The latest version of each unit key among the given versions; the first visited of equals. -/
def latestByKey (versions : List ConfirmationUnitVersion) : GoMap ConfirmationUnitVersion :=
  versions.foldl (fun latest version =>
    match latest.get version.unitKey with
    | none => latest.set version.unitKey version
    | some current =>
      if current.unitVersionNo < version.unitVersionNo then latest.set version.unitKey version
      else latest) ∅

def ConfirmationUnitVersion.asContext (version : ConfirmationUnitVersion) : ConfirmedUnitContext := {
  unitKey := version.unitKey, unitVersion := version.unitVersionNo
  contentHash := version.contentHash, summary := version.title, markdown := version.markdown }

/-- Order confirmed context by the ordinal of the unit, then by key. -/
def contextBefore (units : GoMap ReviewUnit) (left right : ConfirmedUnitContext) : Bool :=
  let leftOrdinal : Int := ((units.get left.unitKey).map (·.ordinal)).getD 0
  let rightOrdinal : Int := ((units.get right.unitKey).map (·.ordinal)).getD 0
  if leftOrdinal = rightOrdinal then left.unitKey ≤ right.unitKey
  else leftOrdinal ≤ rightOrdinal

def confirmedUnitKeys (items : List ConfirmedUnitContext) : List String := items.map (·.unitKey)

/-- The bare hash of each item, under its key. -/
def contextHashes (items : List ConfirmedUnitContext) : GoMap String :=
  items.foldl (fun hashes item => hashes.set item.unitKey (bareSHA256 item.contentHash)) ∅

def sameConfirmedHashSet (left right : List ConfirmedUnitContext) : Bool :=
  left.length == right.length &&
    right.all fun item =>
      ((contextHashes left).get item.unitKey).getD "" == bareSHA256 item.contentHash

/-- The outline as `BuildExecutionInputReference` marshals it. -/
def outlineCandidateJson (candidate : OutlineCandidate) : Json :=
  match outlineHashPayload candidate with
  | .obj fields =>
    .obj (if candidate.contentHash = "" then fields
      else fields ++ [("content_hash", .str candidate.contentHash)])
  | other => other

def buildExecutionInputReference (rt : Runtime) (requirement : String) (required : List String)
    (outline : OutlineCandidate) : String :=
  "execution-input-json:" ++ rt.jsonMarshal (.obj [
    ("locked_outline", outlineCandidateJson outline),
    ("requirement_brief", .obj [
      ("required_content", .arr (required.map .str)), ("text", .str requirement)])])

/-- What the outline requires of a unit's nodes. -/
def requiredContent (outline : ReviewOutlineVersion) (unit : ReviewUnit) : List String :=
  (outline.candidate.nodes.filter fun node => decide (node.nodeKey ∈ unit.nodeKeys)).flatMap
    (·.requiredContent)

def ReviewOutlineVersion.lock (outline : ReviewOutlineVersion) (now : Time) :
    ReviewOutlineVersion :=
  { outline with status := .locked, lockedAt := some now }

def plannedReviewUnits (rt : Runtime) (taskID : String) (outline : ReviewOutlineVersion) :
    GoMap ReviewUnit :=
  outline.candidate.units.foldl (fun units planned => units.set planned.unitKey {
    unitID := "review-unit-" ++ rt.stableHash (joinKey taskID planned.unitKey), taskID := taskID
    outlineVersionID := outline.outlineVersionID, unitKey := planned.unitKey
    title := planned.title, ordinal := planned.ordinal, nodeKeys := planned.nodeKeys
    dependsOn := planned.dependsOn, status := .pending }) ∅

/-- `nextReviewUnit`. The map is keyed by unit key, so the last lookup succeeds. -/
def nextReviewUnit (units : GoMap ReviewUnit) : Except StoreError (Option ReviewUnit) :=
  match nextDependencyReadyUnit (units.values.map fun unit => {
      unitKey := unit.unitKey, ordinal := unit.ordinal, dependsOn := unit.dependsOn
      confirmationStatus := unit.status }) with
  | .error err => .error err
  | .ok none => .ok none
  | .ok (some next) => .ok (units.get next.unitKey)

/-- A review run of a task, as the three run-creation helpers build it. -/
def newReviewRun (call : Call) (task : Task) (status : RunStatus) : AgentRun :=
  newRun call task.taskID task.tenantID task.ownerID .v4 .v1 status

namespace MemoryStore

variable (rt : Runtime) (call : Call)

def unitsOf (s : MemoryStore) (taskID : String) : GoMap ReviewUnit :=
  (s.reviewUnits.get taskID).getD ∅

def visitedVersions (s : MemoryStore) : List MemoryConfirmationVersion :=
  (s.confirmationVersions.range call.order).map Prod.snd

def confirmedUnitContextLocked (s : MemoryStore) (taskID : String) : List ConfirmedUnitContext :=
  let confirmed := (s.visitedVersions call).filter fun item =>
    item.taskID == taskID && item.value.confirmationStatus == .confirmed
  let items := (latestByKey (confirmed.map (·.value))).values.map (·.asContext)
  items.insertionSort fun left right => contextBefore (s.unitsOf taskID) left right

/-! ## Creating review runs -/

/-- The writes shared by the three run-creation helpers. -/
def insertReviewRunLocked (s : MemoryStore) (run : AgentRun) (scope : UnitScope)
    (reason : String) : MemoryStore :=
  { s with
    runs := s.runs.set run.runID run
    unitScopes := s.unitScopes.set run.runID scope
    rolloutAssignments := s.inheritAssignmentLocked call run.taskID run.runID
    budgets := s.initializeBudgetLocked s.policy.defaultRunBudget run call.now
    lastScheduled := s.noteScheduledLocked run call.now
    outbox := s.requestDispatchLocked run reason call.now }

/-- Create a review run with the given scope: admission first, then the scope, then the writes.
The three helpers of the source differ in the scope and in the dispatch reason. -/
def createScopedRunLocked (task : Task) (scope : UnitScope) (reason : String) (s : MemoryStore) :
    Except StoreError (MemoryStore × AgentRun) :=
  match s.admitLocked task.tenantID task.ownerID with
  | .error err => .error err
  | .ok status => match buildUnitScope rt scope with
    | .error err => .error err
    | .ok built =>
      let run := newReviewRun call task status
      .ok (s.insertReviewRunLocked call run built reason, run)

/-- The scope of a run that generates or revises a unit, before the parts that depend on which. -/
def unitRunScope (task : Task) (outline : ReviewOutlineVersion) (unit : ReviewUnit)
    (purpose : RunPurpose) (confirmed : List ConfirmedUnitContext) : UnitScope := {
  purpose := purpose, outlineID := outline.outlineID, outlineVersion := outline.version
  outlineHash := outline.contentHash, currentUnitKey := unit.unitKey
  currentUnitTitle := unit.title, currentUnitOrdinal := unit.ordinal
  sectionNodeKeys := unit.nodeKeys, dependencyUnitKeys := unit.dependsOn
  confirmedContext := confirmed
  requirementRef := buildExecutionInputReference rt task.message
    (uniqueStrings (requiredContent outline unit) false) outline.candidate
  requirementHash := rt.hashText task.message }

/-- The scope of a run that generates a unit, or revises one without feedback. -/
def reviewRunScope (task : Task) (outline : ReviewOutlineVersion) (unit : ReviewUnit)
    (purpose : RunPurpose) (s : MemoryStore) : UnitScope :=
  let confirmed := s.confirmedUnitContextLocked call task.taskID
  { unitRunScope rt task outline unit purpose confirmed with
    immutableUnitKeys := confirmedUnitKeys confirmed }

def createReviewRunLocked (task : Task) (outline : ReviewOutlineVersion) (unit : ReviewUnit)
    (purpose : RunPurpose) (s : MemoryStore) : Except StoreError (MemoryStore × AgentRun) :=
  createScopedRunLocked rt call task (reviewRunScope rt call task outline unit purpose s)
    "REVIEW_TRANSITION" s

def fullReviewScope (task : Task) (outline : ReviewOutlineVersion) (s : MemoryStore) :
    UnitScope :=
  let confirmed := s.confirmedUnitContextLocked call task.taskID
  { purpose := .fullReview, outlineID := outline.outlineID, outlineVersion := outline.version
    outlineHash := outline.contentHash, confirmedContext := confirmed
    immutableUnitKeys := confirmedUnitKeys confirmed
    requirementRef := buildExecutionInputReference rt task.message [] outline.candidate
    requirementHash := rt.hashText task.message }

def createFullReviewRunLocked (task : Task) (outline : ReviewOutlineVersion) (s : MemoryStore) :
    Except StoreError (MemoryStore × AgentRun) :=
  createScopedRunLocked rt call task (fullReviewScope rt call task outline s)
    "FULL_REVIEW_READY" s

/-- The scope of a run that revises a reopened unit. -/
def revisionScope (task : Task) (outline : ReviewOutlineVersion) (unit : ReviewUnit)
    (base : ConfirmationUnitVersion) (feedback : String) (s : MemoryStore) : UnitScope :=
  let confirmed := (s.confirmedUnitContextLocked call task.taskID ++ [base.asContext]).insertionSort
    fun left right => left.unitKey ≤ right.unitKey
  { unitRunScope rt task outline unit .reviseUnit confirmed with
    reopenedUnitKeys := [unit.unitKey]
    immutableUnitKeys := (confirmedUnitKeys confirmed).filter (· ≠ unit.unitKey)
    baseUnitHash := base.contentHash, userFeedback := feedback }

def createRevisionReviewRunLocked (task : Task) (outline : ReviewOutlineVersion)
    (unit : ReviewUnit) (base : ConfirmationUnitVersion) (feedback : String) (s : MemoryStore) :
    Except StoreError (MemoryStore × AgentRun) :=
  createScopedRunLocked rt call task (revisionScope rt call task outline unit base feedback s)
    "UNIT_REOPENED" s

/-! ## Locking an outline -/

/-- The checks of `ConfirmOutline` that come before its first write. -/
def outlineToLock (command : ConfirmOutlineCommand) (s : MemoryStore) :
    Except StoreError (Task × ReviewOutlineVersion) :=
  match s.tasks.get command.taskID with
  | none => .error ⟨.notFound, ""⟩
  | some task =>
  if task.tenantID ≠ command.tenantID ∨ task.ownerID ≠ command.ownerID then .error ⟨.notFound, ""⟩
  else if command.idempotencyKey = "" ∨ task.version ≠ command.expectedTaskVersion then
    .error ⟨.taskVersionConflict, ""⟩
  else match s.reviewOutlines.get command.taskID with
  | none => .error ⟨.notFound, ""⟩
  | some outline =>
  if outline.outlineVersionID ≠ command.outlineVersionID then .error ⟨.notFound, ""⟩
  else if outline.status ≠ .draft ∨ task.status ≠ .outlineReview then
    .error ⟨.invalidRunStatus, ""⟩
  else if s.hasActiveRunLocked task.taskID then .error ⟨.invalidRunStatus, ""⟩
  else .ok (task, outline)

/-- The first writes of `ConfirmOutline`: the locked outline and its units. -/
def storeLockedOutline (task : Task) (locked : ReviewOutlineVersion) (s : MemoryStore) :
    MemoryStore :=
  { s with
    reviewOutlines := s.reviewOutlines.set task.taskID locked
    reviewUnits := s.reviewUnits.set task.taskID (plannedReviewUnits rt task.taskID locked) }

/-- Create the run of the first ready unit of an outline that was just locked. -/
def createFirstRunLocked (task : Task) (locked : ReviewOutlineVersion) (s : MemoryStore) :
    Except StoreError (MemoryStore × AgentRun) :=
  match nextReviewUnit (plannedReviewUnits rt task.taskID locked) with
  | .error err => .error err
  | .ok none => .error (invalidPayload "locked outline has no dependency-ready unit")
  | .ok (some next) => createReviewRunLocked rt call task locked next .generateUnit s

def lockOutline (identity requestHash : String) (task : Task) (outline : ReviewOutlineVersion)
    (s : MemoryStore) : Outcome ReviewTransition :=
  let locked := outline.lock call.now
  let lockedStore := s.storeLockedOutline rt task locked
  let updated := task.advanced .unitGenerating call.now
  match createFirstRunLocked rt call updated locked lockedStore with
  -- the outline stays locked although the command failed
  | .error err => (lockedStore, .error err)
  | .ok (created, run) =>
  let payload := rt.marshalBytes (.obj [("outline_version_id", .str locked.outlineVersionID),
    ("run_id", .str run.runID), ("task_version", .int updated.version)])
  let transition : ReviewTransition := {
    taskVersion := updated.version, taskStatus := updated.status
    materializedKind := "LOCKED_OUTLINE", materializedID := locked.outlineVersionID
    createdRun := some run, eventSequence := s.nextEventSequenceLocked task.taskID }
  ({ created with
      tasks := s.tasks.set task.taskID updated
      events := s.appendTaskEventLocked call task.tenantID task.ownerID task.taskID
        "review.outline_confirmed" payload
      reviewTransitions := s.reviewTransitions.set identity
        { requestHash := requestHash, transition := transition } },
    .ok transition)

def confirmOutline (command : ConfirmOutlineCommand) (s : MemoryStore) :
    Outcome ReviewTransition :=
  let identity := idempotencyIdentity command.tenantID command.ownerID command.idempotencyKey
  let requestHash := rt.stableHash (joinNul ["CONFIRM_OUTLINE", command.taskID,
    command.outlineVersionID, itoa command.expectedTaskVersion])
  match s.reviewTransitions.get identity with
  | some replay =>
    if replay.requestHash ≠ requestHash then fail s .invalidIdempotency
    else (s, .ok replay.transition)
  | none => match s.outlineToLock command with
    | .error err => (s, .error err)
    | .ok (task, outline) => lockOutline rt call identity requestHash task outline s

/-! ## Confirming and reopening units of a V4 task -/

/-- The identity of a decision about a unit version, as the caller states it. -/
structure UnitDecision where
  tenantID : String
  ownerID : String
  taskID : String
  unitVersionID : String
  idempotencyKey : String
  expectedTaskVersion : Int

/-- The task, version and unit a decision is about, with the unit and the version both in the
status that the decision needs: the checks that confirming and reopening share. -/
def unitToDecide (decision : UnitDecision) (needed : UnitStatus) (s : MemoryStore) :
    Except StoreError (Task × MemoryConfirmationVersion × ReviewUnit) :=
  match s.tasks.get decision.taskID with
  | none => .error ⟨.notFound, ""⟩
  | some task =>
  if task.tenantID ≠ decision.tenantID ∨ task.ownerID ≠ decision.ownerID then
    .error ⟨.notFound, ""⟩
  else if task.version ≠ decision.expectedTaskVersion then .error ⟨.taskVersionConflict, ""⟩
  else match s.confirmationVersions.get decision.unitVersionID with
  | none => .error ⟨.notFound, ""⟩
  | some version =>
  if version.taskID ≠ decision.taskID ∨ version.value.outlineVersionID = "" then
    .error ⟨.notFound, ""⟩
  else match (s.unitsOf decision.taskID).get version.value.unitKey with
  | none => .error ⟨.invalidRunStatus, ""⟩
  | some unit =>
  if unit.status ≠ needed ∨ version.value.confirmationStatus ≠ needed then
    .error ⟨.invalidRunStatus, ""⟩
  else .ok (task, version, unit)

/-- The checks of `confirmReviewUnitLocked` that come before its first write. -/
def unitToConfirm (decision : UnitDecision) (s : MemoryStore) :
    Except StoreError (Task × MemoryConfirmationVersion × ReviewUnit) :=
  match s.unitToDecide decision .reviewing with
  | .error err => .error err
  | .ok (task, version, unit) =>
  if unit.dependsOn.any fun dependency =>
      ((s.unitsOf decision.taskID).get dependency).map (·.status) != some .confirmed then
    .error ⟨.invalidRunStatus, ""⟩
  else if s.hasActiveRunLocked decision.taskID then .error ⟨.invalidRunStatus, ""⟩
  else .ok (task, version, unit)

/-- The checks of `reopenReviewUnitLocked` that come before its first write. -/
def unitToReopen (decision : UnitDecision) (s : MemoryStore) :
    Except StoreError (Task × MemoryConfirmationVersion × ReviewUnit) :=
  match s.unitToDecide decision .confirmed with
  | .error err => .error err
  | .ok (task, version, unit) =>
  if (s.unitsOf decision.taskID).values.any fun candidate =>
      candidate.status == .confirmed && decide (unit.unitKey ∈ candidate.dependsOn) then
    .error ⟨.invalidRunStatus, ""⟩
  else if s.hasActiveRunLocked decision.taskID then .error ⟨.invalidRunStatus, ""⟩
  else .ok (task, version, unit)

/-- Give a version and its unit a new status: the first writes of both commands. -/
def storeUnitStatus (decision : UnitDecision) (version : MemoryConfirmationVersion)
    (unit : ReviewUnit) (status : UnitStatus) (s : MemoryStore) : MemoryStore :=
  { s with
    confirmationVersions := s.confirmationVersions.set decision.unitVersionID
      { version with value := { version.value with confirmationStatus := status } }
    reviewUnits := s.reviewUnits.set decision.taskID
      ((s.unitsOf decision.taskID).set unit.unitKey { unit with status := status }) }

def decisionPayload (decisionID unitVersionID decision runField runID : String)
    (taskVersion : Int) : ByteArray :=
  rt.marshalBytes (.obj [("decision", .str decision), ("decision_id", .str decisionID),
    (runField, .str runID), ("task_version", .int taskVersion),
    ("unit_version_id", .str unitVersionID)])

def recordDecision (decision : UnitDecision) (requestHash name runField eventType : String)
    (task : Task) (value : ConfirmationUnitVersion) (run : AgentRun) (before : MemoryStore)
    (created : MemoryStore) : Outcome ConfirmationMutationResult :=
  let decisionID := call.newID "decision"
  let result : ConfirmationMutationResult := {
    decisionID := decisionID, taskVersion := task.version, unit := value, run := some run }
  ({ created with
      tasks := before.tasks.set decision.taskID task
      confirmationDecisions := before.confirmationDecisions.set
        (idempotencyIdentity decision.tenantID decision.ownerID decision.idempotencyKey)
        { requestHash := requestHash, result := result, decision := name }
      events := before.appendTaskEventLocked call decision.tenantID decision.ownerID
        decision.taskID eventType
        (decisionPayload rt decisionID decision.unitVersionID name runField run.runID
          task.version) },
    .ok result)

/-- Create the run that follows the confirmation of a unit: the next ready unit's, or, when every
unit is confirmed, the full review. -/
def createNextRunLocked (taskID : String) (task : Task) (outline : ReviewOutlineVersion)
    (s : MemoryStore) : Except StoreError (MemoryStore × AgentRun × TaskStatus) :=
  match nextReviewUnit (s.unitsOf taskID) with
  | .error err => .error err
  | .ok (some next) => match createReviewRunLocked rt call task outline next .generateUnit s with
    | .error err => .error err
    | .ok (created, run) => .ok (created, run, .unitGenerating)
  | .ok none =>
    if (s.unitsOf taskID).values.any fun unit => unit.status != .confirmed then
      .error ⟨.invalidRunStatus, "no dependency-ready unit while review remains incomplete"⟩
    else match createFullReviewRunLocked rt call task outline s with
      | .error err => .error err
      | .ok (created, run) => .ok (created, run, .fullReviewRunning)

def confirmReviewUnitLocked (decision : UnitDecision) (requestHash : String)
    (outline : ReviewOutlineVersion) (s : MemoryStore) : Outcome ConfirmationMutationResult :=
  match s.unitToConfirm decision with
  | .error err => (s, .error err)
  | .ok (task, version, unit) =>
  let confirmedStore := s.storeUnitStatus decision version unit .confirmed
  let updated := { task with version := task.version + 1 }
  match createNextRunLocked rt call decision.taskID updated outline confirmedStore with
  -- the unit stays confirmed although the command failed
  | .error err => (confirmedStore, .error err)
  | .ok (created, run, status) =>
    recordDecision rt call decision requestHash "CONFIRMED" "next_run_id" "review.unit_confirmed"
      (task.advanced status call.now)
      { version.value with confirmationStatus := .confirmed } run s created

def reopenReviewUnitLocked (decision : UnitDecision) (feedback requestHash : String)
    (outline : ReviewOutlineVersion) (s : MemoryStore) : Outcome ConfirmationMutationResult :=
  match s.unitToReopen decision with
  | .error err => (s, .error err)
  | .ok (task, version, unit) =>
  let written := s.storeUnitStatus decision version unit .reopened
  let reopenedStore := { written with fullReviewReports := s.fullReviewReports.del decision.taskID }
  let updated := task.advanced .unitGenerating call.now
  let reopenedVersion := { version.value with confirmationStatus := .reopened }
  match createRevisionReviewRunLocked rt call updated outline { unit with status := .reopened }
      reopenedVersion feedback reopenedStore with
  -- the unit stays reopened although the command failed
  | .error err => (reopenedStore, .error err)
  | .ok (created, run) =>
    recordDecision rt call decision requestHash "REOPENED" "run_id" "review.unit_reopened" updated
      reopenedVersion run s created

/-! ## Confirming and reopening units of a draft -/

def visitedDrafts (s : MemoryStore) (taskID : String) : List MemoryDraft :=
  ((s.drafts.range call.order).filter fun entry => hasPrefix entry.1 (taskID ++ "\x00")).map
    Prod.snd

def latestDraftIDLocked (s : MemoryStore) (taskID : String) : String :=
  ((s.visitedDrafts call taskID).foldl (fun (latest : MemoryDraft) draft =>
    if latest.taskVersion < draft.taskVersion then draft else latest) {}).draftID

def draftByIDLocked (s : MemoryStore) (draftID : String) : MemoryDraft :=
  (((s.drafts.range call.order).map Prod.snd).find? (·.draftID == draftID)).getD {}

def currentConfirmationByKeyLocked (s : MemoryStore) (taskID draftID unitKey : String) :
    Option MemoryConfirmationVersion :=
  (s.visitedVersions call).find? fun version => version.taskID == taskID &&
    version.value.draftID == draftID && version.value.unitKey == unitKey

def allCurrentUnitsConfirmedLocked (s : MemoryStore) (taskID draftID : String) : Bool :=
  let current := s.confirmationVersions.values.filter fun version =>
    version.taskID == taskID && version.value.draftID == draftID
  !current.isEmpty && current.all fun version => version.value.confirmationStatus == .confirmed

def validateConfirmationMutationLocked (s : MemoryStore) (tenantID ownerID taskID
    unitVersionID : String) (expectedTaskVersion : Int) :
    Except StoreError (Task × MemoryConfirmationVersion) :=
  match s.tasks.get taskID with
  | none => .error ⟨.notFound, ""⟩
  | some task =>
    if task.tenantID ≠ tenantID ∨ task.ownerID ≠ ownerID then .error ⟨.notFound, ""⟩
    else if task.version ≠ expectedTaskVersion then .error ⟨.taskVersionConflict, ""⟩
    else match s.confirmationVersions.get unitVersionID with
      | none => .error ⟨.notFound, ""⟩
      | some version =>
        if version.taskID ≠ taskID ∨ version.value.draftID ≠ s.latestDraftIDLocked call taskID then
          .error ⟨.notFound, ""⟩
        else .ok (task, version)

/-- The part of `ConfirmConfirmationUnit` for tasks without a review outline. -/
def confirmDraftUnitLocked (tenantID ownerID taskID unitVersionID idempotencyKey
    requestHash : String) (expectedTaskVersion : Int) (s : MemoryStore) :
    Outcome ConfirmationMutationResult :=
  match s.validateConfirmationMutationLocked call tenantID ownerID taskID unitVersionID
      expectedTaskVersion with
  | .error err => (s, .error err)
  | .ok (task, version) =>
  if version.value.dependsOn.any fun dependency =>
      (s.currentConfirmationByKeyLocked call taskID version.value.draftID dependency).map
        (·.value.confirmationStatus) != some .confirmed then
    fail s .invalidRunStatus
  else
  let confirmedVersion := { version.value with confirmationStatus := .confirmed }
  let confirmedStore := { s with
    confirmationVersions := s.confirmationVersions.set unitVersionID
      { version with value := confirmedVersion } }
  let status :=
    if confirmedStore.allCurrentUnitsConfirmedLocked taskID version.value.draftID then .reviewable
    else task.status
  let updated := task.advanced status call.now
  let decisionID := call.newID "decision"
  let result : ConfirmationMutationResult := {
    decisionID := decisionID, taskVersion := updated.version, unit := confirmedVersion }
  let payload := rt.marshalBytes (.obj [("decision", .str "CONFIRMED"),
    ("decision_id", .str decisionID), ("task_version", .int updated.version),
    ("unit_version_id", .str unitVersionID)])
  ({ confirmedStore with
      tasks := s.tasks.set taskID updated
      confirmationDecisions := s.confirmationDecisions.set
        (idempotencyIdentity tenantID ownerID idempotencyKey)
        { requestHash := requestHash, result := result, decision := "CONFIRMED" }
      events := s.appendTaskEventLocked call tenantID ownerID taskID
        "confirmation_unit.confirmed" payload },
    .ok result)

/-- The part of `ReopenConfirmationUnit` for tasks without a review outline. -/
def reopenDraftUnitLocked (tenantID ownerID taskID unitVersionID feedback idempotencyKey
    requestHash : String) (expectedTaskVersion : Int) (s : MemoryStore) :
    Outcome ConfirmationMutationResult :=
  match s.validateConfirmationMutationLocked call tenantID ownerID taskID unitVersionID
      expectedTaskVersion with
  | .error err => (s, .error err)
  | .ok (task, version) =>
  if version.value.confirmationStatus ≠ .confirmed then fail s .invalidRunStatus
  else if s.confirmationVersions.values.any fun candidate =>
      candidate.value.draftID == version.value.draftID &&
        candidate.value.confirmationStatus == .confirmed &&
        decide (version.value.unitKey ∈ candidate.value.dependsOn) then
    fail s .invalidRunStatus
  else if s.hasActiveRunLocked taskID then fail s .invalidRunStatus
  else match s.admitLocked tenantID ownerID with
  | .error err => (s, .error err)
  | .ok status =>
  let runID := call.newID "run"
  let decisionID := call.newID "decision"
  let updated := task.advanced .draft call.now
  let reopenedVersion := { version.value with confirmationStatus := .reopened }
  let versions := s.confirmationVersions.set unitVersionID
    { version with value := reopenedVersion }
  let inherited := s.inheritedRolloutAssignmentLocked call taskID
  let workflowVersion :=
    (inherited.map (·.authoritativeWorkflowVersion)).getD s.policy.defaultWorkflowVersion
  let run := newRun call taskID tenantID ownerID workflowVersion (ledgerVersionForPolicy s.policy)
    status
  let immutable := ((versions.values.filter fun candidate =>
    candidate.value.draftID == version.value.draftID &&
      candidate.value.confirmationStatus == .confirmed).map (·.value.unitKey)).insertionSort (· ≤ ·)
  let scope : RevisionScope := {
    baseDraftID := version.value.draftID
    baseDraftHash := (s.draftByIDLocked call version.value.draftID).patchHash
    reopenedUnitKeys := [version.value.unitKey], immutableUnitKeys := immutable
    userFeedback := feedback }
  let result : ConfirmationMutationResult := {
    decisionID := decisionID, taskVersion := updated.version, unit := reopenedVersion
    run := some run }
  ({ s with
      tasks := s.tasks.set taskID updated
      confirmationVersions := versions
      runs := s.runs.set runID run
      rolloutAssignments := s.inheritAssignmentLocked call taskID runID
      budgets := s.initializeBudgetLocked s.policy.defaultRunBudget run call.now
      revisionScopes := s.revisionScopes.set runID scope
      lastScheduled := s.noteScheduledLocked run call.now
      outbox := s.requestDispatchLocked run "CONFIRMATION_REOPENED" call.now
      confirmationDecisions := s.confirmationDecisions.set
        (idempotencyIdentity tenantID ownerID idempotencyKey)
        { requestHash := requestHash, result := result, decision := "REOPENED" }
      events := s.appendTaskEventLocked call tenantID ownerID taskID "confirmation_unit.reopened"
        (decisionPayload rt decisionID unitVersionID "REOPENED" "run_id" runID updated.version) },
    .ok result)

/-! ## The two public commands -/

def confirmConfirmationUnit (tenantID ownerID taskID unitVersionID idempotencyKey : String)
    (expectedTaskVersion : Int) (s : MemoryStore) : Outcome ConfirmationMutationResult :=
  let requestHash := rt.stableHash (joinNul
    ["CONFIRM", taskID, unitVersionID, itoa expectedTaskVersion])
  match s.confirmationDecisions.get (idempotencyIdentity tenantID ownerID idempotencyKey) with
  | some replay =>
    if replay.requestHash ≠ requestHash then fail s .invalidIdempotency
    else (s, .ok replay.result)
  | none => match s.reviewOutlines.get taskID with
    | some outline => confirmReviewUnitLocked rt call
        ⟨tenantID, ownerID, taskID, unitVersionID, idempotencyKey, expectedTaskVersion⟩ requestHash
        outline s
    | none => confirmDraftUnitLocked rt call tenantID ownerID taskID unitVersionID idempotencyKey
        requestHash expectedTaskVersion s

def reopenConfirmationUnit (tenantID ownerID taskID unitVersionID feedback
    idempotencyKey : String) (expectedTaskVersion : Int) (s : MemoryStore) :
    Outcome ConfirmationMutationResult :=
  let trimmed := trimSpace feedback
  if trimmed = "" then fail s .invalidPayload
  else
  let requestHash := rt.stableHash (joinNul
    ["REOPEN", taskID, unitVersionID, trimmed, itoa expectedTaskVersion])
  match s.confirmationDecisions.get (idempotencyIdentity tenantID ownerID idempotencyKey) with
  | some replay =>
    if replay.requestHash ≠ requestHash then fail s .invalidIdempotency
    else (s, .ok replay.result)
  | none => match s.reviewOutlines.get taskID with
    | some outline => reopenReviewUnitLocked rt call
        ⟨tenantID, ownerID, taskID, unitVersionID, idempotencyKey, expectedTaskVersion⟩ trimmed
        requestHash outline s
    | none => reopenDraftUnitLocked rt call tenantID ownerID taskID unitVersionID trimmed
        idempotencyKey requestHash expectedTaskVersion s

end MemoryStore

end PrdAgent.Runcontrol
