import PrdAgent.Library.AssocMap
import PrdAgent.Library.JsonText

/-!
# Data of run control

The records of `internal/runcontrol`: tasks, agent runs and their leases, queue policy, the budget
ledger, review outlines, units and unit versions, full-review reports, publishes, and the outputs a
worker submits. A structure's default field values are Go's zero values, so `{}` is what a lookup
of a missing key yields there. String constants are enumerations; where the code keeps a text a
caller supplied, the enumeration has an `other` case.

Timestamps are integers (nanoseconds), with `0` for `time.Time{}`. Versions, fencing tokens, epochs,
sequences and counters are unbounded integers where the code has `int64` and only ever adds one to them;
budget amounts keep `int64`.
-/

namespace PrdAgent.Runcontrol

/-- A point in time; `0` is the zero `time.Time`. -/
abbrev Time := Int

/-- A `time.Duration`. -/
abbrev Duration := Int

def second : Duration := 1000000000

def minute : Duration := 60 * second

/-- A Go `map[string]α`. -/
abbrev GoMap (α : Type) := AssocMap String α

/-! ## Errors -/

/-- The sentinel errors of run control, and those of the database driver. -/
inductive ErrorKind
  | notFound | invalidIdempotency | leaseHeld | leaseLost | invalidRunStatus | invalidPayload
  | payloadTooLarge | checkpointConflict | taskVersionConflict | sensitivePayload
  | capacityExhausted | budgetExhausted | ledgerConflict | outcomeUnknown | noRemoteEffects | database
deriving DecidableEq

/-- An error: the sentinel it wraps and the text `fmt.Errorf` adds after it. -/
structure StoreError where
  kind : ErrorKind
  detail : String := ""
deriving DecidableEq

/-! ## Versions and assignments -/

inductive WorkflowVersion
  | v1 | v4 | other (raw : String)
deriving DecidableEq

def WorkflowVersion.text : WorkflowVersion → String
  | .v1 => "agent-runtime.v1"
  | .v4 => "agent-runtime.v4"
  | .other raw => raw

def WorkflowVersion.supported (version : WorkflowVersion) : Bool :=
  version == .v1 || version == .v4

/-- `DefaultWorkflowVersion`: an unsupported version falls back to the first one. -/
def defaultWorkflowVersion (version : WorkflowVersion) : WorkflowVersion :=
  if version.supported then version else .v1

inductive ExecutionLedgerVersion
  | unset | v1 | other (raw : String)
deriving DecidableEq

inductive EvaluationMode
  | off | shadow | enforce | other (raw : String)
deriving DecidableEq

def EvaluationMode.text : EvaluationMode → String
  | .off => "OFF"
  | .shadow => "SHADOW"
  | .enforce => "ENFORCE"
  | .other raw => raw

inductive RolloutCohort
  | control | internal | canary | default | other (raw : String)
deriving DecidableEq

def RolloutCohort.text : RolloutCohort → String
  | .control => "CONTROL"
  | .internal => "INTERNAL"
  | .canary => "CANARY"
  | .default => "DEFAULT"
  | .other raw => raw

structure RolloutAssignment where
  authoritativeWorkflowVersion : WorkflowVersion
  evaluationMode : EvaluationMode
  shadowWorkflowVersion : WorkflowVersion := .other ""
  cohort : RolloutCohort
  policyVersion : String
  assignmentReason : String
  assignmentHash : String := ""
deriving DecidableEq

structure AssignmentRequest where
  tenantID : String
  ownerID : String
  taskID : String

structure RolloutPolicy where
  policyVersion : String
  defaultWorkflow : WorkflowVersion
  canaryBasisPoints : Int
  shadow : Bool
  emergencyDeny : GoMap Bool
  explicitV4Tasks : GoMap Bool
  internalOwners : GoMap Bool

/-! ## Tasks, runs and leases -/

/-- The task statuses the code writes; `unset` is the empty string of a zero `Task`. -/
inductive TaskStatus
  | unset | draft | outlineReview | unitGenerating | unitReview | fullReviewRunning | fullReview
  | reviewable | publishing | published
deriving DecidableEq

structure Task where
  taskID : String := ""
  tenantID : String := ""
  ownerID : String := ""
  message : String := ""
  status : TaskStatus := .unset
  version : Int := 0
  createdAt : Time := 0
  updatedAt : Time := 0

inductive RunStatus
  | waitingCapacity | queued | running | waitingUser | succeeded | failed | stopping | stopped
deriving DecidableEq

def RunStatus.terminal (status : RunStatus) : Bool :=
  status == .succeeded || status == .failed || status == .stopped

structure AgentRun where
  runID : String
  taskID : String
  tenantID : String
  ownerID : String
  workflowVersion : WorkflowVersion
  executionLedgerVersion : ExecutionLedgerVersion
  status : RunStatus
  queueSlotAcquired : Bool
  attemptCount : Int := 0
  leaseID : String := ""
  workerID : String := ""
  fencingToken : Int := 0
  leaseExpiresAt : Time := 0
  createdAt : Time
  updatedAt : Time

structure LeaseContext where
  runID : String
  leaseID : String
  workerID : String
  fencingToken : Int
  expiresAt : Time

structure TaskWithRun where
  task : Task
  run : AgentRun

structure OutboxMessage where
  messageID : String
  aggregateID : String
  eventType : String
  payload : String
  availableAt : Time
  attempts : Int := 0

structure TaskEvent where
  eventID : String
  taskID : String
  tenantID : String
  ownerID : String
  sequence : Int
  eventType : String
  payload : ByteArray
  occurredAt : Time

inductive DispatchStatus
  | started | running | succeeded | failed | unknown | quarantined | other (raw : String)
deriving DecidableEq

structure AgentDispatch where
  dispatchID : String
  runID : String
  tenantID : String
  ownerID : String
  workerID : String
  attemptNo : Int
  requestHash : String
  status : DispatchStatus
  lastError : String
  startedAt : Time
  finishedAt : Option Time

/-! ## Budgets and the execution ledger -/

/-- The nine budgeted quantities. -/
inductive BudgetField
  | modelAttempts | toolCalls | iterations | replans | supplements | qualityRepairs
  | inputTokens | outputTokens | elapsedMS
deriving DecidableEq

structure RunBudget where
  maxModelAttempts : Int64 := 0
  maxToolCalls : Int64 := 0
  maxIterations : Int64 := 0
  maxReplans : Int64 := 0
  maxSupplements : Int64 := 0
  maxQualityRepairs : Int64 := 0
  maxInputTokens : Int64 := 0
  maxOutputTokens : Int64 := 0
  maxElapsedMS : Int64 := 0
deriving DecidableEq

structure BudgetDelta where
  modelAttempts : Int64 := 0
  toolCalls : Int64 := 0
  iterations : Int64 := 0
  replans : Int64 := 0
  supplements : Int64 := 0
  qualityRepairs : Int64 := 0
  inputTokens : Int64 := 0
  outputTokens : Int64 := 0
  elapsedMS : Int64 := 0
deriving DecidableEq

def RunBudget.limit (budget : RunBudget) : BudgetField → Int64
  | .modelAttempts => budget.maxModelAttempts
  | .toolCalls => budget.maxToolCalls
  | .iterations => budget.maxIterations
  | .replans => budget.maxReplans
  | .supplements => budget.maxSupplements
  | .qualityRepairs => budget.maxQualityRepairs
  | .inputTokens => budget.maxInputTokens
  | .outputTokens => budget.maxOutputTokens
  | .elapsedMS => budget.maxElapsedMS

def BudgetDelta.amount (delta : BudgetDelta) : BudgetField → Int64
  | .modelAttempts => delta.modelAttempts
  | .toolCalls => delta.toolCalls
  | .iterations => delta.iterations
  | .replans => delta.replans
  | .supplements => delta.supplements
  | .qualityRepairs => delta.qualityRepairs
  | .inputTokens => delta.inputTokens
  | .outputTokens => delta.outputTokens
  | .elapsedMS => delta.elapsedMS

inductive LedgerEntryKind
  | model | capability | localTransition | localDerivation | other (raw : String)
deriving DecidableEq

inductive LedgerStatus
  | reserved | callStarted | succeeded | failed | outcomeUnknown | other (raw : String)
deriving DecidableEq

structure LedgerEntry where
  entryID : String := ""
  runID : String := ""
  operationKey : String
  entryKind : LedgerEntryKind
  operation : String
  requestHash : String
  status : LedgerStatus := .other ""
  reservation : BudgetDelta := {}
  consumption : BudgetDelta := {}
  outputArtifactKey : String := ""
  outputArtifactHash : String := ""
  evidenceRefs : List String := []
  errorCategory : String := ""
  retryable : Bool := false
  createdAt : Time := 0
  callStartedAt : Option Time := none
  completedAt : Option Time := none
  updatedAt : Time := 0

structure LedgerFinish where
  operationKey : String
  requestHash : String
  status : LedgerStatus
  consumption : BudgetDelta := {}
  outputArtifactKey : String := ""
  outputArtifactHash : String := ""
  evidenceRefs : List String := []
  errorCategory : String := ""
  retryable : Bool := false

structure ModelAttempt where
  attemptKey : String
  operation : String
  promptVersion : String
  provider : String
  requestHash : String
  status : String
  responseMetadataJSON : String
  tokenUsageJSON : String
  errorCategory : String

structure EvidenceItem where
  sourceType : String
  sourceID : String
  locator : String
  excerptHash : String
  excerpt : String

structure EvidenceRecord where
  evidenceID : String
  runID : String
  sourceType : String
  sourceID : String
  locator : String
  excerptHash : String
  excerpt : String
  createdAt : Time

structure RunArtifact where
  artifactKey : String
  artifactType : String
  generation : Int
  requestHash : String
  contentHash : String
  content : ByteArray

structure RunArtifactReceipt where
  artifactKey : String
  contentHash : String

structure CheckpointReceipt where
  sequence : Int
  contentHash : String

structure DraftReceipt where
  taskVersion : Int

structure QueuePolicy where
  maxGlobalRunnable : Int
  maxRunnablePerOwner : Int
  maxWaitingRuns : Int := 0
  confirmationSecret : String := ""
  defaultWorkflowVersion : WorkflowVersion := .other ""
  defaultExecutionLedgerVersion : ExecutionLedgerVersion := .unset
  defaultRunBudget : RunBudget := {}
  rolloutPolicy : Option RolloutPolicy := none

/-! ## Outlines, unit scopes and run outputs -/

inductive RunPurpose
  | planOutline | generateUnit | reviseUnit | fullReview | other (raw : String)
deriving DecidableEq

def RunPurpose.text : RunPurpose → String
  | .planOutline => "PLAN_OUTLINE"
  | .generateUnit => "GENERATE_UNIT"
  | .reviseUnit => "REVISE_UNIT"
  | .fullReview => "FULL_REVIEW"
  | .other raw => raw

def RunPurpose.valid (purpose : RunPurpose) : Bool :=
  purpose == .planOutline || purpose == .generateUnit || purpose == .reviseUnit ||
    purpose == .fullReview

inductive RunOutputKind
  | outlineCandidate | unitCandidate | unitPatch | fullReviewReport | other (raw : String)
deriving DecidableEq

def outputKindForPurpose : RunPurpose → RunOutputKind
  | .planOutline => .outlineCandidate
  | .generateUnit => .unitCandidate
  | .reviseUnit => .unitPatch
  | .fullReview => .fullReviewReport
  | .other _ => .other ""

structure OutlineNode where
  nodeKey : String
  parentKey : String
  ordinal : Int
  title : String
  questions : List String
  requiredContent : List String
  unitKey : String

structure OutlineUnit where
  unitKey : String
  title : String
  ordinal : Int
  nodeKeys : List String
  dependsOn : List String

structure OutlineCandidate where
  schemaVersion : String
  title : String
  requirementSize : String
  nodes : List OutlineNode
  units : List OutlineUnit
  contentHash : String := ""

structure ConfirmedUnitContext where
  unitKey : String
  unitVersion : Int
  contentHash : String
  summary : String := ""
  workingDraftRef : String := ""
  markdown : String := ""

structure UnitScope where
  schemaVersion : String := ""
  purpose : RunPurpose
  outlineID : String := ""
  outlineVersion : Int := 0
  outlineHash : String := ""
  currentUnitKey : String := ""
  currentUnitTitle : String := ""
  currentUnitOrdinal : Int := 0
  sectionNodeKeys : List String := []
  dependencyUnitKeys : List String := []
  confirmedContext : List ConfirmedUnitContext := []
  reopenedUnitKeys : List String := []
  immutableUnitKeys : List String := []
  requirementRef : String := ""
  requirementHash : String := ""
  baseUnitHash : String := ""
  userFeedback : String := ""
  scopeHash : String := ""

structure RunOutput where
  schemaVersion : String
  outputKey : String
  outputKind : RunOutputKind
  runPurpose : RunPurpose
  scopeHash : String
  expectedTaskVersion : Int
  contentHash : String
  payload : ByteArray

structure RunOutputReceipt where
  outputKey : String := ""
  contentHash : String := ""
  taskVersion : Int := 0
deriving DecidableEq

/-- What `validateUnitCandidatePayload` and the materialisation of a unit decode. -/
structure UnitCandidate where
  schemaVersion : String
  unitKey : String
  title : String
  ordinal : Int
  nodeKeys : List String
  markdown : String
  contentHash : String

/-- The claim and unknown identifiers decoded beside a unit candidate. -/
structure UnitCandidateRefs where
  claimIDs : List String
  unknownIDs : List String

structure UnitPatch where
  schemaVersion : String
  unitKey : String
  baseContentHash : String
  replacementMarkdown : String

/-- The fields of a unit patch decoded only when it is materialised. -/
structure UnitPatchRefs where
  contentHash : String
  preservedUnknownIDs : List String
  usedFactIDs : List String

structure FullReviewCandidate where
  schemaVersion : String
  outlineHash : String
  unitHashes : GoMap String

structure ConfirmationCandidate where
  unitKey : String
  title : String
  ordinal : Int
  markdown : String
  contentHash : String
  claimIDs : List String
  unknownIDs : List String
  dependsOn : List String

/-- A submitted working draft, as `ParseConfirmationCandidates` decodes it. -/
structure WorkingDraftDocument where
  schemaVersion : String
  taskID : String
  runID : String
  confirmationUnits : List ConfirmationCandidate

/-! ## Review state -/

inductive OutlineStatus
  | draft | locked
deriving DecidableEq

structure ReviewOutlineVersion where
  outlineID : String
  outlineVersionID : String
  taskID : String
  version : Int
  status : OutlineStatus
  candidate : OutlineCandidate
  contentHash : String
  sourceRunID : String
  createdAt : Time
  lockedAt : Option Time := none

/-- Statuses of review units and of unit versions. -/
inductive UnitStatus
  | pending | reviewing | confirmed | reopened
deriving DecidableEq

structure ReviewUnit where
  unitID : String
  taskID : String
  outlineVersionID : String
  unitKey : String
  title : String
  ordinal : Int
  nodeKeys : List String
  dependsOn : List String
  status : UnitStatus

structure FullReviewReport where
  reportID : String
  taskID : String
  outlineVersionID : String
  sourceRunID : String
  contentHash : String
  disposition : String
  unitHashes : GoMap String
  unitHashSetHash : String
  payload : ByteArray
  createdAt : Time

structure ConfirmationUnitVersion where
  unitID : String := ""
  unitVersionID : String := ""
  draftID : String := ""
  outlineVersionID : String := ""
  sourceRunID : String := ""
  unitVersionNo : Int := 0
  unitKey : String := ""
  title : String := ""
  ordinal : Int := 0
  markdown : String := ""
  contentHash : String := ""
  claimIDs : List String := []
  unknownIDs : List String := []
  dependsOn : List String := []
  confirmationStatus : UnitStatus := .pending
  createdAt : Time := 0

structure ConfirmationMutationResult where
  decisionID : String
  taskVersion : Int
  unit : ConfirmationUnitVersion
  run : Option AgentRun := none

structure ReviewTransition where
  taskVersion : Int
  taskStatus : TaskStatus
  materializedKind : String
  materializedID : String
  createdRun : Option AgentRun
  eventSequence : Int

structure ConfirmOutlineCommand where
  tenantID : String
  ownerID : String
  taskID : String
  outlineVersionID : String
  idempotencyKey : String
  expectedTaskVersion : Int

structure RevisionScope where
  baseDraftID : String := ""
  baseDraftHash : String := ""
  reopenedUnitKeys : List String := []
  immutableUnitKeys : List String := []
  userFeedback : String := ""

/-! ## Publishing -/

inductive PublishStatus
  | preview | pending | running | succeeded | retryable | reconciling | manualReview
  | other (raw : String)
deriving DecidableEq

def PublishStatus.text : PublishStatus → String
  | .preview => "PREVIEW"
  | .pending => "PENDING"
  | .running => "RUNNING"
  | .succeeded => "SUCCEEDED"
  | .retryable => "FAILED_RETRYABLE"
  | .reconciling => "RECONCILING"
  | .manualReview => "MANUAL_REVIEW"
  | .other raw => raw

structure PublishRecord where
  publishID : String := ""
  taskID : String := ""
  status : PublishStatus := .other ""
  taskVersion : Int := 0
  draftVersion : Int := 0
  contentHash : String := ""
  safeURL : String := ""
  providerRevision : String := ""
  errorCode : String := ""
  retryable : Bool := false
  createdAt : Time := 0
  updatedAt : Time := 0

structure PublishPreviewResult where
  publishID : String
  confirmationToken : String
  taskVersion : Int
  draftVersion : Int
  contentHash : String
  target : String
  expiresAt : Time

structure PublishJob where
  record : PublishRecord
  tenantID : String
  ownerID : String
  content : ByteArray
  reconcileOnly : Bool

structure PublishResult where
  status : PublishStatus
  safeURL : String
  providerRevision : String
  errorCode : String
  retryable : Bool

structure PublishPayloadLease where
  publishID : String
  contentHash : String
  workerID : String
  expiresAt : Time

structure PublishDocument where
  workflowVersion : WorkflowVersion
  sourceVersionID : String
  content : ByteArray
  contentHash : String
  taskVersion : Int

/-! ## Shadow evaluation and project memory -/

structure ShadowEvaluationArtifact where
  schemaVersion : String
  authoritativeTraceHash : String
  authoritativeTrace : Json
  candidatePolicyVersion : String
  assignmentHash : String
  extraModelPhysicalCalls : Int
  extraCapabilityPhysicalCalls : Int
  extraDraftWrites : Int
  extraUnitWrites : Int
  extraPublishWrites : Int

structure AuthoritativeTrace where
  runID : String
  taskID : String
  authoritativeWorkflowVersion : String
  runPurpose : Int
  checkpointSequence : Int
  outputKey : String
  outputKind : Int
  outputContentHash : String
  draftKey : String
  draftContentHash : String
  submissionDisposition : String

structure PersistedAuthoritativeResult where
  runID : String
  taskID : String
  outputKey : String := ""
  outputKind : RunOutputKind := .other ""
  outputContentHash : String := ""
  draftKey : String := ""
  draftContentHash : String := ""

structure MemorySpace where
  spaceID : String
  tenantID : String
  ownerID : String
  projectKey : String
  displayName : String
  status : String
  memoryEpoch : Int := 0
  policyVersion : String
  createdAt : Time
  updatedAt : Time

structure RunMemoryAssignment where
  runID : String
  spaceID : String
  memoryWatermark : Int
  policyVersion : String
  accessScopeHash : String
  assignmentHash : String
  createdAt : Time

end PrdAgent.Runcontrol
