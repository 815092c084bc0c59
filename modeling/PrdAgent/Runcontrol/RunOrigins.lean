import PrdAgent.Runcontrol.ReviewSteps

/-!
# Where runs come from

Six paths of the store create runs. `Origin` lists them, each with checks that it has passed and with
what it stores for the run (`Provision`): the run, its unit scope, its memory assignment and its budget.
`apply_creation` says that an operation creates a run in one of these ways or none at all.
-/

namespace PrdAgent.Runcontrol

open GoText

def Op.creates : Op → Bool
  | .createTaskWithRun .. | .retryTask .. | .confirmOutline .. | .confirmConfirmationUnit .. |
    .reopenConfirmationUnit .. => true
  | _ => false

/-- What is stored for a new run. -/
structure Provision where
  run : AgentRun
  scope : Option UnitScope
  assignment : Option RunMemoryAssignment
  budget : RunBudget

namespace MemoryStore

/-- What one operation can do to the events. -/
inductive EventStep (call : Call) (s : MemoryStore) : GoMap (List TaskEvent) → Prop
  | kept : EventStep call s s.events
  | appended (tenantID ownerID taskID eventType : String) (payload : ByteArray) :
      EventStep call s (s.appendTaskEventLocked call tenantID ownerID taskID eventType payload)
  | started {event : TaskEvent} (first : event.sequence = 1) :
      EventStep call s (s.events.set (call.newID "task") [event])

variable (rt : Runtime) (call : Call)

/-- The run is stored with its provision. -/
structure Provides (s t : MemoryStore) (provision : Provision) : Prop where
  runs : t.runs = s.runs.set (call.newID "run") provision.run
  scopes : t.unitScopes =
    provision.scope.elim s.unitScopes (s.unitScopes.set (call.newID "run"))
  assignments : t.runMemoryAssignments =
    provision.assignment.elim s.runMemoryAssignments (s.runMemoryAssignments.set (call.newID "run"))
  budgets : t.budgets = s.initializeBudgetLocked provision.budget provision.run call.now
  policy : t.policy.defaultRunBudget = provision.budget
  outbox : ∃ reason, t.outbox = s.requestDispatchLocked provision.run reason call.now
  events : EventStep call s t.events

/-- The ledger version of the first run of a task. -/
def firstLedgerVersion (policy : QueuePolicy) (workflow : WorkflowVersion) :
    ExecutionLedgerVersion :=
  if workflow = .v4 ∧ ledgerVersionForPolicy policy = .unset then .v1
  else ledgerVersionForPolicy policy

def firstRunBudget (policy : QueuePolicy) (workflow : WorkflowVersion) : RunBudget :=
  if workflow = .v4 ∧ policy.defaultRunBudget = ({} : RunBudget) then defaultV4RunBudget
  else policy.defaultRunBudget

/-- The workflow version of a run that inherits its task's rollout assignment. -/
def inheritedWorkflow (s : MemoryStore) (taskID : String) : WorkflowVersion :=
  ((s.inheritedRolloutAssignmentLocked call taskID).map (·.authoritativeWorkflowVersion)).getD
    s.policy.defaultWorkflowVersion

def taskSpace (s : MemoryStore) (taskID : String) : Option MemorySpace :=
  (s.taskMemorySpaces.get taskID).bind fun spaceID =>
    if spaceID = "" then none else s.memorySpaces.get spaceID

def reviewProvision (s : MemoryStore) (task : Task) (status : RunStatus) (scope : UnitScope) :
    Provision :=
  ⟨newReviewRun call task status, some scope, none, s.policy.defaultRunBudget⟩

/-- The ways a run is created. Not every check is listed: those of the dependencies and of active runs are
left out for units of an outline, and for a unit of a draft also those of the version, the unit, its
status and the feedback. -/
inductive Origin (s : MemoryStore) : Op → Provision → Prop
  | started {tenantID ownerID message key : String} {status : RunStatus}
      {workflow : WorkflowVersion} {rollout : Option RolloutAssignment} {scope : Option UnitScope}
      (admitted : s.admitLocked tenantID ownerID = .ok status)
      (assigned : assignWorkflow rt s.policy tenantID ownerID (call.newID "task") =
        .ok (workflow, rollout))
      (planned : (if workflow = .v4 then
        (buildUnitScope rt { purpose := .planOutline }).map some else .ok none) = .ok scope) :
      Origin s (.createTaskWithRun tenantID ownerID message key)
        ⟨newRun call (call.newID "task") tenantID ownerID workflow
            (firstLedgerVersion s.policy workflow) status,
          scope,
          some (buildRunMemoryAssignment rt (call.newID "run")
            (s.ensureDefaultMemorySpaceLocked rt tenantID ownerID call.now).1 call.now),
          firstRunBudget s.policy workflow⟩
  | retried {tenantID ownerID taskID key : String} {expected : Int} {status : RunStatus}
      {task : Task} (taskStored : s.tasks.get taskID = some task)
      (owner : task.tenantID = tenantID ∧ task.ownerID = ownerID)
      (version : task.version = expected)
      (unused : s.retryIdempotency.get (idempotencyIdentity tenantID ownerID key) = none)
      (idle : s.hasActiveRunLocked taskID = false)
      (admitted : s.admitLocked tenantID ownerID = .ok status) :
      Origin s (.retryTask tenantID ownerID taskID key expected)
        ⟨newRun call taskID tenantID ownerID (s.inheritedWorkflow call taskID)
            (ledgerVersionForPolicy s.policy) status,
          s.inheritedUnitScopeLocked call taskID,
          (s.taskSpace taskID).map fun space =>
            buildRunMemoryAssignment rt (call.newID "run") space call.now,
          s.policy.defaultRunBudget⟩
  | outlineLocked {command : ConfirmOutlineCommand} {task : Task} {outline : ReviewOutlineVersion}
      {next : ReviewUnit} {status : RunStatus} {scope : UnitScope}
      (lockable : Lockable s command task outline)
      (ready : nextReviewUnit (plannedReviewUnits rt task.taskID (outline.lock call.now)) =
        .ok (some next))
      (admitted : s.admitLocked task.tenantID task.ownerID = .ok status)
      (built : buildUnitScope rt (reviewRunScope rt call
        (task.advanced .unitGenerating call.now) (outline.lock call.now) next .generateUnit
        (s.storeLockedOutline rt task (outline.lock call.now))) = .ok scope) :
      Origin s (.confirmOutline command) (s.reviewProvision call task status scope)
  | nextUnit {decision : UnitDecision} {task : Task} {version : MemoryConfirmationVersion}
      {unit next : ReviewUnit} {outline : ReviewOutlineVersion} {status : RunStatus}
      {scope : UnitScope} (decides : Decides s decision .reviewing task version unit)
      (outlineStored : s.reviewOutlines.get decision.taskID = some outline)
      (ready : nextReviewUnit ((s.storeUnitStatus decision version unit .confirmed).unitsOf
        decision.taskID) = .ok (some next))
      (admitted : s.admitLocked task.tenantID task.ownerID = .ok status)
      (built : buildUnitScope rt (reviewRunScope rt call
        { task with version := task.version + 1 } outline next .generateUnit
        (s.storeUnitStatus decision version unit .confirmed)) = .ok scope) :
      Origin s (.confirmConfirmationUnit decision.tenantID decision.ownerID decision.taskID
        decision.unitVersionID decision.idempotencyKey decision.expectedTaskVersion)
        (s.reviewProvision call task status scope)
  | fullReview {decision : UnitDecision} {task : Task} {version : MemoryConfirmationVersion}
      {unit : ReviewUnit} {outline : ReviewOutlineVersion} {status : RunStatus}
      {scope : UnitScope} (decides : Decides s decision .reviewing task version unit)
      (outlineStored : s.reviewOutlines.get decision.taskID = some outline)
      (all : ∀ key found, ((s.storeUnitStatus decision version unit .confirmed).unitsOf
        decision.taskID).get key = some found → found.status = .confirmed)
      (admitted : s.admitLocked task.tenantID task.ownerID = .ok status)
      (built : buildUnitScope rt (fullReviewScope rt call
        { task with version := task.version + 1 } outline
        (s.storeUnitStatus decision version unit .confirmed)) = .ok scope) :
      Origin s (.confirmConfirmationUnit decision.tenantID decision.ownerID decision.taskID
        decision.unitVersionID decision.idempotencyKey decision.expectedTaskVersion)
        (s.reviewProvision call task status scope)
  | revision {decision : UnitDecision} {feedback : String} {task : Task}
      {version : MemoryConfirmationVersion} {unit : ReviewUnit} {outline : ReviewOutlineVersion}
      {status : RunStatus} {scope : UnitScope}
      (decides : Decides s decision .confirmed task version unit)
      (outlineStored : s.reviewOutlines.get decision.taskID = some outline)
      (admitted : s.admitLocked task.tenantID task.ownerID = .ok status)
      (built : buildUnitScope rt (revisionScope rt call (task.advanced .unitGenerating call.now)
        outline { unit with status := .reopened }
        { version.value with confirmationStatus := .reopened } (trimSpace feedback)
        { (s.storeUnitStatus decision version unit .reopened) with
          fullReviewReports := s.fullReviewReports.del decision.taskID }) = .ok scope) :
      Origin s (.reopenConfirmationUnit decision.tenantID decision.ownerID decision.taskID
        decision.unitVersionID feedback decision.idempotencyKey decision.expectedTaskVersion)
        (s.reviewProvision call task status scope)
  | draftReopened {tenantID ownerID taskID unitVersionID feedback key : String} {expected : Int}
      {status : RunStatus} {task : Task} (noOutline : s.reviewOutlines.get taskID = none)
      (taskStored : s.tasks.get taskID = some task)
      (owner : task.tenantID = tenantID ∧ task.ownerID = ownerID)
      (idle : s.hasActiveRunLocked taskID = false)
      (admitted : s.admitLocked tenantID ownerID = .ok status) :
      Origin s (.reopenConfirmationUnit tenantID ownerID taskID unitVersionID feedback key expected)
        ⟨newRun call taskID tenantID ownerID (s.inheritedWorkflow call taskID)
            (ledgerVersionForPolicy s.policy) status,
          none, none, s.policy.defaultRunBudget⟩

theorem Origin.newRun {s : MemoryStore} {op : Op} {provision : Provision}
    (origin : Origin rt call s op provision) :
    ∃ taskID tenantID ownerID workflow ledger status,
      provision.run = Runcontrol.newRun call taskID tenantID ownerID workflow ledger status ∧
      s.admitLocked tenantID ownerID = .ok status := by
  cases origin
  all_goals exact ⟨_, _, _, _, _, _, rfl, ‹_›⟩

/-- An operation that may create runs created none, or one of known origin. -/
inductive Creation (s : MemoryStore) (op : Op) (t : MemoryStore) : Prop
  | none (runs : t.runs = s.runs) (scopes : t.unitScopes = s.unitScopes)
      (assignments : t.runMemoryAssignments = s.runMemoryAssignments)
      (budgets : t.budgets = s.budgets) (outbox : t.outbox = s.outbox)
      (events : EventStep call s t.events)
  | one {provision : Provision} (origin : Origin rt call s op provision)
      (provides : Provides call s t provision)

variable {rt call} {s t : MemoryStore}

theorem Creation.refl (op : Op) : Creation rt call s op s := .none rfl rfl rfl rfl rfl .kept

theorem Creation.events {op : Op} (creation : Creation rt call s op t) : EventStep call s t.events := by
  cases creation with
  | none _ _ _ _ _ events => exact events
  | one _ provides => exact provides.events

theorem Provides.changes {provision : Provision} (provides : Provides call s t provision)
    (unused : s.runs.get (call.newID "run") = none) : t ≠ s := by
  rintro rfl
  have there : t.runs.get (call.newID "run") = some provision.run := by
    rw [provides.runs]
    exact AssocMap.get_set_self ..
  cases unused.symm.trans there

section

variable (rt call s) in
/-- What the operation creates. -/
abbrev Creates (op : Op) : Prop := Creation rt call s op (apply rt ⟨call, op⟩ s).1

variable {tenantID ownerID taskID unitVersionID feedback message key : String} {version : Int}

theorem createTaskWithRun_creation :
    Creates rt call s (.createTaskWithRun tenantID ownerID message key) := by
  dsimp only [Creates, apply, replying]
  unfold createTaskWithRun fail
  dsimp only
  split
  · split <;> exact .refl _
  split
  · exact .refl _
  next admitted =>
  split
  · exact .refl _
  next assigned =>
  split
  · next failed => exact absurd failed (firstScope_ne_error rt)
  · next planned =>
    exact .one (.started admitted assigned planned)
      ⟨rfl, rfl, rfl, rfl, rfl, ⟨_, rfl⟩, .started rfl⟩

theorem createTaskWithRun_stored (rt : Runtime) (call : Call) (s : MemoryStore)
    (tenantID ownerID message key : String) :
    let t := (createTaskWithRun rt call tenantID ownerID message key s).1
    t = s ∨ ∃ task : Task, task.tenantID = tenantID ∧ task.ownerID = ownerID ∧ task.version = 1 ∧
      t.tasks = s.tasks.set (call.newID "task") task ∧
      t.memorySpaces = (s.ensureDefaultMemorySpaceLocked rt tenantID ownerID call.now).2 ∧
      t.taskMemorySpaces = s.taskMemorySpaces.set (call.newID "task")
        (s.ensureDefaultMemorySpaceLocked rt tenantID ownerID call.now).1.spaceID := by
  unfold createTaskWithRun fail
  dsimp only
  split
  · split <;> exact .inl rfl
  split
  · exact .inl rfl
  split
  · exact .inl rfl
  split <;> exact .inr ⟨_, rfl, rfl, rfl, rfl, rfl, rfl⟩

theorem retryTask_creation : Creates rt call s (.retryTask tenantID ownerID taskID key version) := by
  dsimp only [Creates, apply, replying, retryTask, fail]
  repeat' split
  all_goals try exact .refl _
  next taskStored owner current _ unused idle _ _ admitted =>
  simp only [not_or, ne_eq, not_not, Bool.not_eq_true] at owner current idle
  refine .one (.retried taskStored owner current.2 unused idle admitted)
    ⟨rfl, rfl, ?_, rfl, rfl, ⟨_, rfl⟩, .kept⟩
  change ((s.taskSpace taskID).elim _ _) = ((s.taskSpace taskID).map _).elim _ _
  cases s.taskSpace taskID <;> rfl

theorem confirmOutline_creation {command : ConfirmOutlineCommand} :
    Creates rt call s (.confirmOutline command) := by
  dsimp only [Creates, apply, replying]
  unfold confirmOutline lockOutline fail
  dsimp only
  split
  · split <;> exact .refl _
  split
  · exact .refl _
  next accepted =>
  have lockable := outlineToLock_ok_iff.mp accepted
  split
  · exact .none rfl rfl rfl rfl rfl .kept
  · next made =>
    obtain ⟨next, ready, made⟩ := createFirstRunLocked_ok rt call made
    obtain ⟨status, scope, admitted, built, rfl, rfl⟩ := createScopedRunLocked_ok rt call made
    exact .one (.outlineLocked lockable ready admitted built)
      ⟨rfl, rfl, rfl, rfl, rfl, ⟨_, rfl⟩, .appended ..⟩

theorem confirmConfirmationUnit_creation : Creates rt call s
    (.confirmConfirmationUnit tenantID ownerID taskID unitVersionID key version) := by
  dsimp only [Creates, apply, replying]
  unfold confirmConfirmationUnit confirmReviewUnitLocked confirmDraftUnitLocked fail
  dsimp only
  split
  · split <;> exact .refl _
  split
  · next outlineStored =>
    split
    · exact .refl _
    next accepted =>
    obtain ⟨decides, dependencies, idle⟩ := unitToConfirm_ok_iff.mp accepted
    split
    · exact .none rfl rfl rfl rfl rfl .kept
    next continued =>
    rcases createNextRunLocked_ok rt call continued with ⟨next, ready, rfl, made⟩ | ⟨all, rfl, made⟩
    · obtain ⟨status, scope, admitted, built, rfl, rfl⟩ := createScopedRunLocked_ok rt call made
      exact .one (.nextUnit decides outlineStored ready admitted built)
        ⟨rfl, rfl, rfl, rfl, rfl, ⟨_, rfl⟩, .appended ..⟩
    · obtain ⟨status, scope, admitted, built, rfl, rfl⟩ := createScopedRunLocked_ok rt call made
      exact .one (.fullReview decides outlineStored all admitted built)
        ⟨rfl, rfl, rfl, rfl, rfl, ⟨_, rfl⟩, .appended ..⟩
  · split
    · exact .refl _
    split
    · exact .refl _
    · exact .none rfl rfl rfl rfl rfl (.appended ..)

theorem reopenConfirmationUnit_creation : Creates rt call s
    (.reopenConfirmationUnit tenantID ownerID taskID unitVersionID feedback key version) := by
  dsimp only [Creates, apply, replying]
  unfold reopenConfirmationUnit reopenReviewUnitLocked reopenDraftUnitLocked fail
  dsimp only
  split
  · exact .refl _
  split
  · split <;> exact .refl _
  split
  · next outlineStored =>
    split
    · exact .refl _
    next accepted =>
    obtain ⟨decides, independent, idle⟩ := unitToReopen_ok_iff.mp accepted
    split
    · exact .none rfl rfl rfl rfl rfl .kept
    next made =>
    obtain ⟨status, scope, admitted, built, rfl, rfl⟩ := createScopedRunLocked_ok rt call made
    exact .one (.revision decides outlineStored admitted built)
      ⟨rfl, rfl, rfl, rfl, rfl, ⟨_, rfl⟩, .appended ..⟩
  · next noOutline =>
    split
    · exact .refl _
    next valid =>
    obtain ⟨taskStored, owner, -⟩ := validateConfirmationMutationLocked_ok valid
    iterate 3
      split
      · exact .refl _
    next idle =>
    split
    · exact .refl _
    · next admitted =>
      exact .one (.draftReopened noOutline taskStored owner ((Bool.not_eq_true _).mp idle) admitted)
        ⟨rfl, rfl, rfl, rfl, rfl, ⟨_, rfl⟩, .appended ..⟩

end

theorem apply_creation (rt : Runtime) (input : Input) (s : MemoryStore)
    (creates : input.op.creates = true) :
    Creation rt input.call s input.op (apply rt input s).1 := by
  obtain ⟨call, op⟩ := input
  cases op
  case createTaskWithRun => exact createTaskWithRun_creation
  case retryTask => exact retryTask_creation
  case confirmOutline => exact confirmOutline_creation
  case confirmConfirmationUnit => exact confirmConfirmationUnit_creation
  case reopenConfirmationUnit => exact reopenConfirmationUnit_creation
  all_goals cases creates

end MemoryStore

end PrdAgent.Runcontrol
