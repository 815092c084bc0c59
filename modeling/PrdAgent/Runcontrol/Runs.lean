import PrdAgent.Runcontrol.Store

/-!
# Operations on tasks, runs and the queue

Creating and retrying tasks, leasing, completing and stopping runs, promoting waiting runs, task
events, dispatch records, the outbox and rollout assignments of `memory_store.go` and
`rollout_memory.go`.
-/

namespace PrdAgent.Runcontrol

open GoText

def idempotencyIdentity (tenantID ownerID idempotencyKey : String) : String :=
  joinNul [tenantID, ownerID, idempotencyKey]

def startTaskRequestHash (rt : Runtime) (tenantID ownerID message : String) : String :=
  rt.stableHash (joinNul [tenantID, ownerID, message])

def retryTaskRequestHash (rt : Runtime) (tenantID ownerID taskID : String)
    (expectedTaskVersion : Int) : String :=
  rt.stableHash (joinNul [tenantID, ownerID, taskID, itoa expectedTaskVersion])

namespace MemoryStore

variable (rt : Runtime) (call : Call)

/-! ## Tasks -/

/-- The workflow version and rollout assignment of a new task. -/
def assignWorkflow (policy : QueuePolicy) (tenantID ownerID taskID : String) :
    Except StoreError (WorkflowVersion × Option RolloutAssignment) :=
  match policy.rolloutPolicy with
  | none => .ok (policy.defaultWorkflowVersion, none)
  | some rollout => match rollout.assign rt { tenantID, ownerID, taskID } with
    | .error err => .error err
    | .ok assignment => .ok (assignment.authoritativeWorkflowVersion, some assignment)

def createTaskWithRun (tenantID ownerID message idempotencyKey : String) (s : MemoryStore) :
    Outcome TaskWithRun :=
  let key := idempotencyIdentity tenantID ownerID idempotencyKey
  let requestHash := startTaskRequestHash rt tenantID ownerID message
  match s.idempotency.get key with
  | some replay =>
    if replay.requestHash ≠ requestHash then fail s .invalidIdempotency else (s, .ok replay.value)
  | none =>
  let taskID := call.newID "task"
  let runID := call.newID "run"
  match s.admitLocked tenantID ownerID with
  | .error err => (s, .error err)
  | .ok status =>
  match assignWorkflow rt s.policy tenantID ownerID taskID with
  | .error err => (s, .error err)
  | .ok (workflowVersion, rolloutAssignment) =>
  let task : Task := {
    taskID := taskID, tenantID := tenantID, ownerID := ownerID, message := message
    status := .draft, version := 1, createdAt := call.now, updatedAt := call.now }
  let ledgerVersion :=
    if workflowVersion = .v4 ∧ ledgerVersionForPolicy s.policy = .unset then .v1
    else ledgerVersionForPolicy s.policy
  let runBudget :=
    if workflowVersion = .v4 ∧ s.policy.defaultRunBudget = ({} : RunBudget) then defaultV4RunBudget
    else s.policy.defaultRunBudget
  let run := newRun call taskID tenantID ownerID workflowVersion ledgerVersion status
  let space := s.ensureDefaultMemorySpaceLocked rt tenantID ownerID call.now
  let created : MemoryStore := { s with
    policy := { s.policy with defaultRunBudget := runBudget }
    tasks := s.tasks.set taskID task
    runs := s.runs.set runID run
    memorySpaces := space.2
    taskMemorySpaces := s.taskMemorySpaces.set taskID space.1.spaceID
    runMemoryAssignments :=
      s.runMemoryAssignments.set runID (buildRunMemoryAssignment rt runID space.1 call.now) }
  -- only a V4 run gets a planning scope; building it is the one step after the first write
  match (if workflowVersion = .v4 then
      (buildUnitScope rt { purpose := .planOutline }).map some else .ok none) with
  | .error err => (created, .error err)
  | .ok outlineScope =>
  let value : TaskWithRun := { task := task, run := run }
  ({ created with
      unitScopes := outlineScope.elim s.unitScopes (s.unitScopes.set runID)
      rolloutAssignments := rolloutAssignment.elim s.rolloutAssignments
        (s.rolloutAssignments.set runID)
      budgets := s.initializeBudgetLocked runBudget run call.now
      events := s.events.set taskID [{
        eventID := "evt-" ++ taskID ++ "-1", taskID := taskID, tenantID := tenantID
        ownerID := ownerID, sequence := 1, eventType := "task.created"
        payload := ("\x7b\"task_id\":\"" ++ taskID ++ "\",\"run_id\":\"" ++ runID ++
          "\",\"status\":\"DRAFT\"\x7d").toUTF8
        occurredAt := call.now }]
      lastScheduled := s.noteScheduledLocked run call.now
      outbox := s.requestDispatchLocked run "START_OR_RESUME" call.now
      idempotency := s.idempotency.set key { requestHash := requestHash, value := value } },
    .ok value)

def retryTask (tenantID ownerID taskID idempotencyKey : String) (expectedTaskVersion : Int)
    (s : MemoryStore) : Outcome AgentRun :=
  match s.tasks.get taskID with
  | none => fail s .notFound
  | some task =>
  if task.tenantID ≠ tenantID ∨ task.ownerID ≠ ownerID then fail s .notFound
  else if expectedTaskVersion < 1 ∨ task.version ≠ expectedTaskVersion then
    fail s .taskVersionConflict
  else
  let requestHash := retryTaskRequestHash rt tenantID ownerID taskID expectedTaskVersion
  let identity := idempotencyIdentity tenantID ownerID idempotencyKey
  match s.retryIdempotency.get identity with
  | some existing =>
    if existing.requestHash ≠ requestHash then fail s .invalidIdempotency
    else (s, .ok existing.run)
  | none =>
  if s.hasActiveRunLocked taskID then fail s .invalidRunStatus
  else match s.admitLocked tenantID ownerID with
  | .error err => (s, .error err)
  | .ok status =>
  let runID := call.newID "run"
  let inherited := s.inheritedRolloutAssignmentLocked call taskID
  let workflowVersion :=
    (inherited.map (·.authoritativeWorkflowVersion)).getD s.policy.defaultWorkflowVersion
  let run := newRun call taskID tenantID ownerID workflowVersion (ledgerVersionForPolicy s.policy)
    status
  let space := (s.taskMemorySpaces.get taskID).bind fun spaceID =>
    if spaceID = "" then none else s.memorySpaces.get spaceID
  ({ s with
      runs := s.runs.set runID run
      runMemoryAssignments := space.elim s.runMemoryAssignments fun space =>
        s.runMemoryAssignments.set runID (buildRunMemoryAssignment rt runID space call.now)
      unitScopes := (s.inheritedUnitScopeLocked call taskID).elim s.unitScopes
        (s.unitScopes.set runID)
      rolloutAssignments := s.inheritAssignmentLocked call taskID runID
      budgets := s.initializeBudgetLocked s.policy.defaultRunBudget run call.now
      lastScheduled := s.noteScheduledLocked run call.now
      outbox := s.requestDispatchLocked run "USER_RETRY" call.now
      retryIdempotency := s.retryIdempotency.set identity
        { requestHash := requestHash, run := run } },
    .ok run)

def maxEventPayloadBytes : Nat := 256 * 1024

def appendTaskEvent (tenantID ownerID taskID eventType : String) (payload : ByteArray)
    (s : MemoryStore) : Outcome TaskEvent :=
  match s.tasks.get taskID with
  | none => fail s .notFound
  | some task =>
  if task.tenantID ≠ tenantID ∨ task.ownerID ≠ ownerID then fail s .notFound
  else if eventType = "" ∨ payload.size = 0 ∨ payload.size > maxEventPayloadBytes ∨
      rt.jsonValid payload = false then
    fail s .invalidPayload
  else
    ({ s with events := s.appendTaskEventLocked call tenantID ownerID taskID eventType payload },
      .ok (s.nextTaskEventLocked call tenantID ownerID taskID eventType payload))

def defaultEventPageSize : Int := 100

def maxEventPageSize : Int := 1000

/-- The loop of `ListTaskEvents`, which stops once the page is full. -/
def collectEvents (afterSequence : Int) (limit : Nat) : List TaskEvent → List TaskEvent →
    List TaskEvent
  | [], items => items
  | event :: rest, items =>
    if event.sequence ≤ afterSequence then collectEvents afterSequence limit rest items
    else
      let extended := items ++ [event]
      if extended.length = limit then extended
      else collectEvents afterSequence limit rest extended

def eventPageSize (limit : Int) : Nat :=
  (min (if limit ≤ 0 then defaultEventPageSize else limit) maxEventPageSize).toNat

def listTaskEvents (tenantID ownerID taskID : String) (afterSequence limit : Int)
    (s : MemoryStore) : Except StoreError (List TaskEvent) :=
  match s.tasks.get taskID with
  | none => .error ⟨.notFound, ""⟩
  | some task =>
  if task.tenantID ≠ tenantID ∨ task.ownerID ≠ ownerID then .error ⟨.notFound, ""⟩
  else if afterSequence < 0 then .error ⟨.invalidPayload, ""⟩
  else .ok (collectEvents afterSequence (eventPageSize limit) ((s.events.get taskID).getD []) [])

/-! ## Leases -/

def stopRun (tenantID ownerID taskID runID : String) (s : MemoryStore) : Outcome AgentRun :=
  match s.runs.get runID with
  | none => fail s .notFound
  | some run =>
  if run.taskID ≠ taskID ∨ run.tenantID ≠ tenantID ∨ run.ownerID ≠ ownerID then fail s .notFound
  else if run.status.terminal then (s, .ok run)
  else
    let stopping := { run with status := .stopping, updatedAt := call.now }
    ({ s with runs := s.runs.set runID stopping }, .ok stopping)

/-- The lease duration, with the default for a non-positive one. -/
def leaseTTL (ttl : Duration) : Duration := if ttl ≤ 0 then 30 * second else ttl

def acquireRun (runID workerID : String) (now : Time) (ttl : Duration) (s : MemoryStore) :
    Outcome AgentRun :=
  match s.runs.get runID with
  | none => fail s .notFound
  | some run =>
  if run.status = .queued ∨ (run.status = .running ∧ run.leaseExpiresAt ≤ now) then
    let acquired := { run with
      status := .running, workerID := workerID, leaseID := call.newID "lease"
      fencingToken := run.fencingToken + 1, leaseExpiresAt := now + leaseTTL ttl
      attemptCount := run.attemptCount + 1, updatedAt := now }
    ({ s with runs := s.runs.set runID acquired }, .ok acquired)
  else if run.status = .running then fail s .leaseHeld
  else fail s .invalidRunStatus

def heartbeat (lease : LeaseContext) (now : Time) (ttl : Duration) (s : MemoryStore) :
    Outcome LeaseContext :=
  match s.validateLeaseLocked lease now with
  | .error err => (s, .error err)
  | .ok run =>
    let renewed := { run with leaseExpiresAt := now + leaseTTL ttl, updatedAt := now }
    ({ s with runs := s.runs.set lease.runID renewed }, .ok (leaseFromRun renewed))

def completeRun (lease : LeaseContext) (status : RunStatus) (now : Time) (s : MemoryStore) :
    Outcome AgentRun :=
  match s.validateLeaseLocked lease now with
  | .error err => (s, .error err)
  | .ok run =>
    if status.terminal = false then fail s .invalidRunStatus
    else
      let completed := { run with
        status := status, queueSlotAcquired := false, leaseID := "", workerID := ""
        leaseExpiresAt := 0, updatedAt := now }
      ({ s with runs := s.runs.set lease.runID completed }, .ok completed)

/-! ## Promotion of waiting runs -/

/-- The order in which waiting runs are considered: the owner served longest ago first, then the
oldest run, then by identifier. -/
def waitingBefore (s : MemoryStore) (left right : AgentRun) : Bool :=
  let leftTurn := (s.lastScheduled.get (scheduleOwnerKey left.tenantID left.ownerID)).getD 0
  let rightTurn := (s.lastScheduled.get (scheduleOwnerKey right.tenantID right.ownerID)).getD 0
  if leftTurn ≠ rightTurn then leftTurn < rightTurn
  else if left.createdAt ≠ right.createdAt then left.createdAt < right.createdAt
  else left.runID ≤ right.runID

/-- One round of the loop of `PromoteWaiting`. -/
def promoteOne (now : Time) (candidate : AgentRun) (s : MemoryStore) (promoted : List AgentRun) :
    MemoryStore × List AgentRun :=
  if s.atCapacityLocked candidate.tenantID candidate.ownerID then (s, promoted)
  else
    match s.runs.get candidate.runID with
    | none => (s, promoted)
    | some run =>
      let queued := { run with status := .queued, queueSlotAcquired := true, updatedAt := now }
      ({ s with
          runs := s.runs.set run.runID queued
          lastScheduled := s.lastScheduled.set (scheduleOwnerKey run.tenantID run.ownerID) now
          outbox := s.addRunRequestOutboxLocked queued "CAPACITY_AVAILABLE" now },
        promoted ++ [queued])

/-- The loop of `PromoteWaiting`. -/
def promoteAll (now : Time) : List AgentRun → MemoryStore → List AgentRun →
    MemoryStore × List AgentRun
  | [], s, promoted => (s, promoted)
  | candidate :: rest, s, promoted =>
    let next := promoteOne now candidate s promoted
    promoteAll now rest next.1 next.2

def promoteWaiting (now : Time) (s : MemoryStore) : Outcome (List AgentRun) :=
  let waiting := ((s.runs.range call.order).map Prod.snd).filter (·.status == .waitingCapacity)
  let ordered := waiting.insertionSort fun left right => waitingBefore s left right
  let result := promoteAll now ordered s []
  (result.1, .ok result.2)

/-! ## Dispatch records -/

def createDispatch (dispatch : AgentDispatch) (s : MemoryStore) : Outcome AgentDispatch :=
  if dispatch.dispatchID = "" ∨ dispatch.runID = "" ∨ dispatch.workerID = "" ∨
      dispatch.attemptNo < 1 ∨ dispatch.requestHash = "" then
    fail s .invalidPayload
  else match s.runs.get dispatch.runID with
  | none => fail s .notFound
  | some run =>
  if run.tenantID ≠ dispatch.tenantID ∨ run.ownerID ≠ dispatch.ownerID then fail s .notFound
  else match ((s.dispatches.range call.order).map Prod.snd).find? fun existing =>
      existing.runID == dispatch.runID && existing.attemptNo == dispatch.attemptNo with
  | some existing =>
    if existing.requestHash ≠ dispatch.requestHash then fail s .invalidIdempotency
    else (s, .ok existing)
  | none =>
    let created := { dispatch with
      status := if dispatch.status = .other "" then .started else dispatch.status
      startedAt := if dispatch.startedAt = 0 then call.now else dispatch.startedAt }
    ({ s with dispatches := s.dispatches.set dispatch.dispatchID created }, .ok created)

def updateDispatch (dispatchID : String) (status : DispatchStatus) (lastError : String)
    (finishedAt : Option Time) (s : MemoryStore) : Outcome Unit :=
  match s.dispatches.get dispatchID with
  | none => fail s .notFound
  | some dispatch =>
    let updated := { dispatch with
      status := status, lastError := lastError
      finishedAt := finishedAt.or dispatch.finishedAt }
    ({ s with dispatches := s.dispatches.set dispatchID updated }, .ok ())

/-! ## The outbox -/

/-- The loop of `ClaimOutbox` over the entries in visiting order. -/
def claimEntries (limit : Int) (now : Time) : List (String × MemoryOutbox) →
    GoMap MemoryOutbox → List OutboxMessage → GoMap MemoryOutbox × List OutboxMessage
  | [], outbox, items => (outbox, items)
  | (key, entry) :: rest, outbox, items =>
    if items.length ≥ limit ∨ entry.published ∨ entry.claimed ∨ now < entry.message.availableAt then
      claimEntries limit now rest outbox items
    else
      let message := { entry.message with attempts := entry.message.attempts + 1 }
      claimEntries limit now rest
        (outbox.set key { entry with message := message, claimed := true }) (items ++ [message])

def claimOutbox (limit : Int) (now : Time) (s : MemoryStore) : Outcome (List OutboxMessage) :=
  let claimed := claimEntries (if limit ≤ 0 then 100 else limit) now (s.outbox.range call.order)
    s.outbox []
  ({ s with outbox := claimed.1 },
    .ok (claimed.2.insertionSort fun left right => left.availableAt ≤ right.availableAt))

def markOutboxPublished (messageID : String) (s : MemoryStore) : Outcome Unit :=
  match s.outbox.get messageID with
  | none => fail s .notFound
  | some entry =>
    ({ s with outbox := s.outbox.set messageID { entry with published := true, claimed := false } },
      .ok ())

def markOutboxFailed (messageID : String) (nextAttemptAt : Time) (s : MemoryStore) :
    Outcome Unit :=
  match s.outbox.get messageID with
  | none => fail s .notFound
  | some entry =>
    let message := { entry.message with availableAt := nextAttemptAt }
    ({ s with outbox := s.outbox.set messageID { entry with claimed := false, message := message } },
      .ok ())

/-! ## Rollout assignments -/

def saveRolloutAssignment (runID : String) (assignment : RolloutAssignment) (s : MemoryStore) :
    Outcome Unit :=
  let hashed := assignment.withHash rt
  match s.runs.get runID with
  | none => fail s .notFound
  | some run =>
  if hashed.policyVersion = "" ∨ hashed.authoritativeWorkflowVersion.supported = false then
    fail s .invalidPayload
  else match s.rolloutAssignments.get runID with
  | some existing => if existing ≠ hashed then fail s .invalidIdempotency else (s, .ok ())
  | none =>
    if run.workflowVersion ≠ hashed.authoritativeWorkflowVersion then fail s .invalidPayload
    else ({ s with rolloutAssignments := s.rolloutAssignments.set runID hashed }, .ok ())

end MemoryStore

end PrdAgent.Runcontrol
