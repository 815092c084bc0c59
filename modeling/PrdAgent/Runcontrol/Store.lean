import PrdAgent.Runcontrol.Rollout

/-!
# The memory store: state and shared helpers

`MemoryStore` is the state behind the mutex of `memory_store.go`, one field for each map that a
modelled operation reads or writes. An operation returns the new state also when it fails, because some
operations fail after their first write. The helpers here are the `…Locked` functions the operations
share; one that writes one map returns that map, so that each operation's effect is one record update.
-/

namespace PrdAgent.Runcontrol

open GoText

/-! ## State -/

structure MemoryIdempotency where
  requestHash : String
  value : TaskWithRun

structure MemoryOutbox where
  message : OutboxMessage
  claimed : Bool := false
  published : Bool := false

structure MemoryCheckpoint where
  sequence : Int := 0
  payload : ByteArray := ByteArray.empty
  contentHash : String := ""

structure MemoryDraft where
  draftID : String := ""
  runID : String := ""
  draftKey : String := ""
  patchHash : String := ""
  patch : ByteArray := ByteArray.empty
  taskVersion : Int := 0
  createdAt : Time := 0

structure MemoryAttempt where
  attemptID : String
  runID : String
  value : ModelAttempt
  createdAt : Time

structure MemoryBudgetState where
  policy : RunBudget := {}
  reserved : BudgetDelta := {}
  consumed : BudgetDelta := {}
  overage : BudgetDelta := {}
  startedAt : Time := 0

structure MemoryRetryIdempotency where
  requestHash : String
  run : AgentRun

structure MemoryPublish where
  record : PublishRecord := {}
  tenantID : String := ""
  ownerID : String := ""
  draftKey : String := ""
  content : ByteArray := ByteArray.empty
  expiresAt : Time := 0
  availableAt : Time := 0
  claimWorker : String := ""
  claimExpires : Time := 0
  retentionWorker : String := ""
  retentionExpires : Time := 0
  payloadPurgedAt : Time := 0

structure MemoryConfirmationVersion where
  taskID : String
  taskVersion : Int
  value : ConfirmationUnitVersion

structure MemoryConfirmationDecision where
  requestHash : String
  result : ConfirmationMutationResult
  decision : String

structure MemoryReviewTransition where
  requestHash : String
  transition : ReviewTransition

structure MemoryStore where
  policy : QueuePolicy
  tasks : GoMap Task := ∅
  runs : GoMap AgentRun := ∅
  idempotency : GoMap MemoryIdempotency := ∅
  outbox : GoMap MemoryOutbox := ∅
  checkpoints : GoMap MemoryCheckpoint := ∅
  attempts : GoMap MemoryAttempt := ∅
  evidence : GoMap EvidenceRecord := ∅
  artifacts : GoMap RunArtifact := ∅
  drafts : GoMap MemoryDraft := ∅
  events : GoMap (List TaskEvent) := ∅
  dispatches : GoMap AgentDispatch := ∅
  lastScheduled : GoMap Time := ∅
  retryIdempotency : GoMap MemoryRetryIdempotency := ∅
  publishes : GoMap MemoryPublish := ∅
  publishPreviewIdempotency : GoMap String := ∅
  publishConfirmIdempotency : GoMap String := ∅
  confirmationVersions : GoMap MemoryConfirmationVersion := ∅
  confirmationDecisions : GoMap MemoryConfirmationDecision := ∅
  revisionScopes : GoMap RevisionScope := ∅
  budgets : GoMap MemoryBudgetState := ∅
  ledgerEntries : GoMap LedgerEntry := ∅
  unitScopes : GoMap UnitScope := ∅
  runOutputs : GoMap RunOutput := ∅
  runOutputReceipts : GoMap RunOutputReceipt := ∅
  reviewOutlines : GoMap ReviewOutlineVersion := ∅
  reviewUnits : GoMap (GoMap ReviewUnit) := ∅
  reviewTransitions : GoMap MemoryReviewTransition := ∅
  fullReviewReports : GoMap FullReviewReport := ∅
  rolloutAssignments : GoMap RolloutAssignment := ∅
  memorySpaces : GoMap MemorySpace := ∅
  taskMemorySpaces : GoMap String := ∅
  runMemoryAssignments : GoMap RunMemoryAssignment := ∅

/-- What an operation returns: the state it leaves and its result. -/
abbrev Outcome (α : Type) := MemoryStore × Except StoreError α

/-- Fail without having written anything. -/
def fail {α : Type} (s : MemoryStore) (kind : ErrorKind) (detail : String := "") : Outcome α :=
  (s, .error ⟨kind, detail⟩)

/-! ## Policy -/

def defaultV4RunBudget : RunBudget := {
  maxModelAttempts := 8, maxToolCalls := 8, maxIterations := 12, maxReplans := 2
  maxSupplements := 2, maxQualityRepairs := 2, maxInputTokens := 120000, maxOutputTokens := 32000
  maxElapsedMS := 1800000 }

def ledgerVersionForPolicy (policy : QueuePolicy) : ExecutionLedgerVersion :=
  if policy.defaultWorkflowVersion = .v4 then policy.defaultExecutionLedgerVersion else .unset

/-- The policy defaults that `NewMemoryStore` fills in, in its order. -/
def QueuePolicy.normalized (policy : QueuePolicy) : QueuePolicy :=
  let workflow := Runcontrol.defaultWorkflowVersion policy.defaultWorkflowVersion
  let ledger : ExecutionLedgerVersion :=
    if workflow = .v4 ∧ policy.defaultExecutionLedgerVersion = .unset then .v1
    else if policy.defaultExecutionLedgerVersion = .v1 then .v1
    else .unset
  { policy with
    maxGlobalRunnable := if policy.maxGlobalRunnable < 1 then 30 else policy.maxGlobalRunnable
    maxRunnablePerOwner := if policy.maxRunnablePerOwner < 1 then 1 else policy.maxRunnablePerOwner
    maxWaitingRuns := if policy.maxWaitingRuns < 1 then 100 else policy.maxWaitingRuns
    confirmationSecret :=
      if policy.confirmationSecret = "" then "local-publish-confirmation-secret"
      else policy.confirmationSecret
    defaultWorkflowVersion := workflow
    defaultExecutionLedgerVersion := ledger
    defaultRunBudget :=
      if ledger = .v1 ∧ policy.defaultRunBudget = ({} : RunBudget) then defaultV4RunBudget
      else policy.defaultRunBudget }

def newMemoryStore (policy : QueuePolicy) : MemoryStore := { policy := policy.normalized }

/-! ## Leases -/

def validLease (run : AgentRun) (lease : LeaseContext) (now : Time) : Bool :=
  (run.status == .running || run.status == .stopping) && run.leaseID == lease.leaseID &&
    run.workerID == lease.workerID && run.fencingToken == lease.fencingToken &&
    decide (now < run.leaseExpiresAt)

def leaseFromRun (run : AgentRun) : LeaseContext := {
  runID := run.runID, leaseID := run.leaseID, workerID := run.workerID
  fencingToken := run.fencingToken, expiresAt := run.leaseExpiresAt }

namespace MemoryStore

variable (s : MemoryStore)

/-- The run a lease is valid for, or the error of `validateLeaseLocked`. -/
def validateLeaseLocked (lease : LeaseContext) (now : Time) : Except StoreError AgentRun :=
  match s.runs.get lease.runID with
  | none => .error ⟨.notFound, ""⟩
  | some run => if validLease run lease now then .ok run else .error ⟨.leaseLost, ""⟩

/-! ## The queue -/

end MemoryStore

/-- The run holds a slot and is queued or running. -/
def AgentRun.runnable (run : AgentRun) : Bool :=
  run.queueSlotAcquired && (run.status == .queued || run.status == .running)

def AgentRun.ownedBy (run : AgentRun) (tenantID ownerID : String) : Bool :=
  run.tenantID == tenantID && run.ownerID == ownerID

/-- The run belongs to the task and has not ended. -/
def AgentRun.activeFor (run : AgentRun) (taskID : String) : Bool :=
  run.taskID == taskID && !run.status.terminal

/-- A run as every operation that creates one builds it: it holds a slot iff it is queued. -/
def newRun (call : Call) (taskID tenantID ownerID : String) (workflowVersion : WorkflowVersion)
    (executionLedgerVersion : ExecutionLedgerVersion) (status : RunStatus) : AgentRun := {
  runID := call.newID "run", taskID := taskID, tenantID := tenantID, ownerID := ownerID
  workflowVersion := workflowVersion, executionLedgerVersion := executionLedgerVersion
  status := status, queueSlotAcquired := status == .queued, createdAt := call.now
  updatedAt := call.now }

/-- The task with the next version and a new status. -/
def Task.advanced (task : Task) (status : TaskStatus) (now : Time) : Task :=
  { task with version := task.version + 1, status := status, updatedAt := now }

def scheduleOwnerKey (tenantID ownerID : String) : String := joinKey tenantID ownerID

namespace MemoryStore

variable (s : MemoryStore)

def runnableCountLocked : Int := s.runs.count AgentRun.runnable

def ownerRunnableCountLocked (tenantID ownerID : String) : Int :=
  s.runs.count fun run => run.ownedBy tenantID ownerID && run.runnable

def waitingCountLocked : Int := s.runs.count fun run => run.status == .waitingCapacity

def hasActiveRunLocked (taskID : String) : Bool :=
  s.runs.values.any fun run => run.activeFor taskID

/-- The running and owner limits leave no room for another runnable run. -/
def atCapacityLocked (tenantID ownerID : String) : Bool :=
  decide (s.runnableCountLocked ≥ s.policy.maxGlobalRunnable) ||
    decide (s.ownerRunnableCountLocked tenantID ownerID ≥ s.policy.maxRunnablePerOwner)

/-- The admission decision made wherever a run is created: queue it, let it wait for capacity,
or refuse it because the waiting queue is full. -/
def admitLocked (tenantID ownerID : String) : Except StoreError RunStatus :=
  if s.atCapacityLocked tenantID ownerID then
    if s.waitingCountLocked ≥ s.policy.maxWaitingRuns then .error ⟨.capacityExhausted, ""⟩
    else .ok .waitingCapacity
  else .ok .queued

/-- The outbox after `addRunRequestOutboxLocked`. -/
def addRunRequestOutboxLocked (run : AgentRun) (reason : String) (now : Time) :
    GoMap MemoryOutbox :=
  let messageID := "outbox-" ++ run.runID
  let message : OutboxMessage := {
    messageID := messageID, aggregateID := run.runID, eventType := "agent.run.requested"
    payload := "\x7b\"run_id\":\"" ++ run.runID ++ "\",\"task_id\":\"" ++ run.taskID ++
      "\",\"reason\":\"" ++ reason ++ "\"\x7d"
    availableAt := now }
  s.outbox.set messageID { message := message }

/-- The outbox after the creation of a run: a run that got a slot asks for a dispatch. -/
def requestDispatchLocked (run : AgentRun) (reason : String) (now : Time) : GoMap MemoryOutbox :=
  if run.status = .queued then s.addRunRequestOutboxLocked run reason now else s.outbox

/-- The owners' turns after the creation of a run: a run that got a slot takes its owner's turn. -/
def noteScheduledLocked (run : AgentRun) (now : Time) : GoMap Time :=
  if run.status = .queued then
    s.lastScheduled.set (scheduleOwnerKey run.tenantID run.ownerID) now
  else s.lastScheduled

/-- The budgets after `initializeBudgetLocked`, for a run under the given default budget. -/
def initializeBudgetLocked (default : RunBudget) (run : AgentRun) (now : Time) :
    GoMap MemoryBudgetState :=
  if run.executionLedgerVersion = .v1 then
    s.budgets.set run.runID { policy := default, startedAt := now }
  else s.budgets

/-! ## Events -/

def nextEventSequenceLocked (taskID : String) : Int := ((s.events.get taskID).getD []).length + 1

def nextTaskEventLocked (call : Call) (tenantID ownerID taskID eventType : String)
    (payload : ByteArray) : TaskEvent := {
  eventID := "evt-" ++ taskID ++ "-" ++ itoa (s.nextEventSequenceLocked taskID), taskID := taskID
  tenantID := tenantID, ownerID := ownerID, sequence := s.nextEventSequenceLocked taskID
  eventType := eventType, payload := payload, occurredAt := call.now }

/-- The events after `appendTaskEventLocked`. -/
def appendTaskEventLocked (call : Call) (tenantID ownerID taskID eventType : String)
    (payload : ByteArray) : GoMap (List TaskEvent) :=
  s.events.set taskID (((s.events.get taskID).getD []) ++
    [s.nextTaskEventLocked call tenantID ownerID taskID eventType payload])

/-! ## What a new run inherits -/

/-- The loop of `inheritedUnitScopeLocked` and `inheritedRolloutAssignmentLocked`: among the values
stored for runs of the task, the one whose run was created last; the first visited of equals. -/
def latestForTask {α : Type} (taskID : String) (visited : List (String × α)) : Option α :=
  (visited.foldl (fun (selected : Option (α × Time)) entry =>
    match s.runs.get entry.1 with
    | none => selected
    | some run =>
      if run.taskID ≠ taskID then selected
      else match selected with
        | none => some (entry.2, run.createdAt)
        | some (_, selectedAt) =>
          if selectedAt < run.createdAt then some (entry.2, run.createdAt) else selected)
    none).map Prod.fst

def inheritedUnitScopeLocked (call : Call) (taskID : String) : Option UnitScope :=
  s.latestForTask taskID (s.unitScopes.range call.order)

def inheritedRolloutAssignmentLocked (call : Call) (taskID : String) : Option RolloutAssignment :=
  s.latestForTask taskID (s.rolloutAssignments.range call.order)

/-- The rollout assignments after a run was given the one its task already has. -/
def inheritAssignmentLocked (call : Call) (taskID runID : String) : GoMap RolloutAssignment :=
  match s.inheritedRolloutAssignmentLocked call taskID with
  | some assignment => s.rolloutAssignments.set runID assignment
  | none => s.rolloutAssignments

/-! ## Memory spaces of tasks and runs -/

end MemoryStore

def defaultMemorySpaceID (rt : Runtime) (tenantID ownerID : String) : String :=
  "memory-space-" ++ String.ofList
    ((rt.stableHash (joinNul [tenantID, ownerID, "default"])).toList.take 24)

def buildRunMemoryAssignment (rt : Runtime) (runID : String) (space : MemorySpace) (now : Time) :
    RunMemoryAssignment :=
  let accessHash := rt.stableHash (joinNul [space.tenantID, space.ownerID, space.spaceID])
  { runID := runID, spaceID := space.spaceID, memoryWatermark := space.memoryEpoch
    policyVersion := space.policyVersion, accessScopeHash := accessHash
    assignmentHash := rt.stableHash (joinNul
      [runID, space.spaceID, itoa space.memoryEpoch, space.policyVersion, accessHash])
    createdAt := now }

namespace MemoryStore

variable (s : MemoryStore)

/-- The owner's default space, and the spaces once it exists. -/
def ensureDefaultMemorySpaceLocked (rt : Runtime) (tenantID ownerID : String) (now : Time) :
    MemorySpace × GoMap MemorySpace :=
  let spaceID := defaultMemorySpaceID rt tenantID ownerID
  match s.memorySpaces.get spaceID with
  | some existing => (existing, s.memorySpaces)
  | none =>
    let space : MemorySpace := {
      spaceID := spaceID, tenantID := tenantID, ownerID := ownerID, projectKey := "default"
      displayName := "Default project memory", status := "ACTIVE"
      policyVersion := "project-memory-policy.v1", createdAt := now, updatedAt := now }
    (space, s.memorySpaces.set spaceID space)

end MemoryStore

end PrdAgent.Runcontrol
