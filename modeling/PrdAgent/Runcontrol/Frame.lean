import PrdAgent.Runcontrol.Machine

/-!
# What each operation writes

`Op.writes` lists, for each operation, the parts of the store it may change; `apply_frame` says
that it changes no other part, on success and on failure alike. Every invariant of a part is then
argued only for the operations that write it.
-/

namespace PrdAgent.Runcontrol

/-- The parts of the store, one for each of its fields. -/
inductive Part
  | policy | tasks | runs | idempotency | outbox | checkpoints | attempts | evidence | artifacts
  | drafts | events | dispatches | lastScheduled | retryIdempotency | publishes
  | publishPreviewIdempotency | publishConfirmIdempotency | confirmationVersions
  | confirmationDecisions | revisionScopes | budgets | ledgerEntries | unitScopes | runOutputs
  | runOutputReceipts | reviewOutlines | reviewUnits | reviewTransitions | fullReviewReports
  | rolloutAssignments | memorySpaces | taskMemorySpaces | runMemoryAssignments
  deriving DecidableEq

def Part.Value : Part → Type
  | .policy => QueuePolicy
  | .tasks => GoMap Task
  | .runs => GoMap AgentRun
  | .idempotency => GoMap MemoryIdempotency
  | .outbox => GoMap MemoryOutbox
  | .checkpoints => GoMap MemoryCheckpoint
  | .attempts => GoMap MemoryAttempt
  | .evidence => GoMap EvidenceRecord
  | .artifacts => GoMap RunArtifact
  | .drafts => GoMap MemoryDraft
  | .events => GoMap (List TaskEvent)
  | .dispatches => GoMap AgentDispatch
  | .lastScheduled => GoMap Time
  | .retryIdempotency => GoMap MemoryRetryIdempotency
  | .publishes => GoMap MemoryPublish
  | .publishPreviewIdempotency => GoMap String
  | .publishConfirmIdempotency => GoMap String
  | .confirmationVersions => GoMap MemoryConfirmationVersion
  | .confirmationDecisions => GoMap MemoryConfirmationDecision
  | .revisionScopes => GoMap RevisionScope
  | .budgets => GoMap MemoryBudgetState
  | .ledgerEntries => GoMap LedgerEntry
  | .unitScopes => GoMap UnitScope
  | .runOutputs => GoMap RunOutput
  | .runOutputReceipts => GoMap RunOutputReceipt
  | .reviewOutlines => GoMap ReviewOutlineVersion
  | .reviewUnits => GoMap (GoMap ReviewUnit)
  | .reviewTransitions => GoMap MemoryReviewTransition
  | .fullReviewReports => GoMap FullReviewReport
  | .rolloutAssignments => GoMap RolloutAssignment
  | .memorySpaces => GoMap MemorySpace
  | .taskMemorySpaces => GoMap String
  | .runMemoryAssignments => GoMap RunMemoryAssignment

def MemoryStore.part (s : MemoryStore) : (part : Part) → part.Value
  | .policy => s.policy
  | .tasks => s.tasks
  | .runs => s.runs
  | .idempotency => s.idempotency
  | .outbox => s.outbox
  | .checkpoints => s.checkpoints
  | .attempts => s.attempts
  | .evidence => s.evidence
  | .artifacts => s.artifacts
  | .drafts => s.drafts
  | .events => s.events
  | .dispatches => s.dispatches
  | .lastScheduled => s.lastScheduled
  | .retryIdempotency => s.retryIdempotency
  | .publishes => s.publishes
  | .publishPreviewIdempotency => s.publishPreviewIdempotency
  | .publishConfirmIdempotency => s.publishConfirmIdempotency
  | .confirmationVersions => s.confirmationVersions
  | .confirmationDecisions => s.confirmationDecisions
  | .revisionScopes => s.revisionScopes
  | .budgets => s.budgets
  | .ledgerEntries => s.ledgerEntries
  | .unitScopes => s.unitScopes
  | .runOutputs => s.runOutputs
  | .runOutputReceipts => s.runOutputReceipts
  | .reviewOutlines => s.reviewOutlines
  | .reviewUnits => s.reviewUnits
  | .reviewTransitions => s.reviewTransitions
  | .fullReviewReports => s.fullReviewReports
  | .rolloutAssignments => s.rolloutAssignments
  | .memorySpaces => s.memorySpaces
  | .taskMemorySpaces => s.taskMemorySpaces
  | .runMemoryAssignments => s.runMemoryAssignments

/-- The state `s` with the parts in `written` taken from `t`. -/
def MemoryStore.overlay (written : List Part) (s t : MemoryStore) : MemoryStore :=
  let pick (part : Part) : part.Value := bif written.elem part then t.part part else s.part part
  {
    policy := pick .policy
    tasks := pick .tasks
    runs := pick .runs
    idempotency := pick .idempotency
    outbox := pick .outbox
    checkpoints := pick .checkpoints
    attempts := pick .attempts
    evidence := pick .evidence
    artifacts := pick .artifacts
    drafts := pick .drafts
    events := pick .events
    dispatches := pick .dispatches
    lastScheduled := pick .lastScheduled
    retryIdempotency := pick .retryIdempotency
    publishes := pick .publishes
    publishPreviewIdempotency := pick .publishPreviewIdempotency
    publishConfirmIdempotency := pick .publishConfirmIdempotency
    confirmationVersions := pick .confirmationVersions
    confirmationDecisions := pick .confirmationDecisions
    revisionScopes := pick .revisionScopes
    budgets := pick .budgets
    ledgerEntries := pick .ledgerEntries
    unitScopes := pick .unitScopes
    runOutputs := pick .runOutputs
    runOutputReceipts := pick .runOutputReceipts
    reviewOutlines := pick .reviewOutlines
    reviewUnits := pick .reviewUnits
    reviewTransitions := pick .reviewTransitions
    fullReviewReports := pick .fullReviewReports
    rolloutAssignments := pick .rolloutAssignments
    memorySpaces := pick .memorySpaces
    taskMemorySpaces := pick .taskMemorySpaces
    runMemoryAssignments := pick .runMemoryAssignments }

/-- The parts outside `written` are the same in both states. -/
def Frame (written : List Part) (s t : MemoryStore) : Prop :=
  ∀ part, part ∉ written → t.part part = s.part part

namespace Frame

variable {written written' : List Part} {s t u : MemoryStore}

theorem refl (written : List Part) (s : MemoryStore) : Frame written s s := fun _ _ => rfl

theorem trans (first : Frame written s t) (second : Frame written t u) : Frame written s u :=
  fun part outside => (second part outside).trans (first part outside)

theorem mono (frame : Frame written s t) (sub : written ⊆ written') : Frame written' s t :=
  fun part outside => frame part fun inside => outside (sub inside)

/-- The rule for record updates: for a concrete `written`, the premise holds by computation. -/
theorem of_overlay (same : t = s.overlay written t) : Frame written s t := by
  intro part outside
  have kept : ∀ {β : Type} (old new : β), (bif written.elem part then new else old) = old := by
    simp [outside]
  rw [same]
  cases part <;> exact kept _ _

theorem ite {α : Type} {condition : Prop} {_ : Decidable condition} {left right : Outcome α}
    (first : Frame written s left.1) (second : Frame written s right.1) :
    Frame written s (if condition then left else right).1 := by
  split
  · exact first
  · exact second

end Frame

@[simp]
def reviewRunParts : List Part :=
  [.runs, .outbox, .lastScheduled, .budgets, .unitScopes, .rolloutAssignments]

@[simp]
def lockParts : List Part :=
  .tasks :: .events :: .reviewOutlines :: .reviewUnits :: .reviewTransitions :: reviewRunParts

@[simp]
def decisionParts : List Part :=
  .tasks :: .events :: .confirmationVersions :: .confirmationDecisions :: .reviewUnits ::
    reviewRunParts

@[simp]
def outputParts : List Part :=
  [.tasks, .events, .confirmationVersions, .reviewOutlines, .reviewUnits, .fullReviewReports]

/-- The parts an operation may change. -/
@[simp]
def Op.writes : Op → List Part
  | .createTaskWithRun .. => [.policy, .tasks, .runs, .idempotency, .outbox, .events,
      .lastScheduled, .budgets, .unitScopes, .rolloutAssignments, .memorySpaces,
      .taskMemorySpaces, .runMemoryAssignments]
  | .retryTask .. => [.runs, .outbox, .lastScheduled, .retryIdempotency, .budgets, .unitScopes,
      .rolloutAssignments, .runMemoryAssignments]
  | .appendTaskEvent .. => [.events]
  | .stopRun .. | .acquireRun .. | .heartbeat .. | .completeRun .. => [.runs]
  | .promoteWaiting .. => [.runs, .outbox, .lastScheduled]
  | .createDispatch .. | .updateDispatch .. => [.dispatches]
  | .claimOutbox .. | .markOutboxPublished .. | .markOutboxFailed .. => [.outbox]
  | .saveRolloutAssignment .. => [.rolloutAssignments]
  | .recordModelAttempt .. => [.attempts]
  | .appendEvidence .. => [.evidence]
  | .saveRunArtifact .. => [.artifacts]
  | .saveCheckpoint .. => [.checkpoints]
  | .setRunUnitScope .. => [.unitScopes]
  | .reserveLedgerEntry .. | .finishLedgerEntry .. | .consumeLocalLedgerEntry .. =>
    [.budgets, .ledgerEntries]
  | .markLedgerCallStarted .. => [.ledgerEntries]
  | .submitRunOutput .. => .runOutputs :: .runOutputReceipts :: outputParts
  | .submitDraft .. => [.tasks, .drafts, .confirmationVersions]
  | .confirmOutline .. => lockParts
  | .confirmConfirmationUnit .. => decisionParts
  | .reopenConfirmationUnit .. => .fullReviewReports :: .revisionScopes :: decisionParts
  | .createPublishPreview .. => [.events, .publishes, .publishPreviewIdempotency]
  | .confirmPublish .. => [.tasks, .events, .publishes, .publishConfirmIdempotency]
  | .completePublish .. => [.tasks, .events, .publishes]
  | .claimPendingPublishes .. | .claimExpiredPublishPayloads .. | .purgePublishPayload .. =>
    [.publishes]
  | .projectMemory .. => [.memorySpaces]

namespace MemoryStore

variable (rt : Runtime) (call : Call)

/-! ## Helpers that return a whole store -/

theorem promoteAll_frame (now : Time) (ordered : List AgentRun) (s : MemoryStore)
    (promoted : List AgentRun) :
    Frame [.runs, .outbox, .lastScheduled] s (promoteAll now ordered s promoted).1 := by
  induction ordered generalizing s promoted with
  | nil => exact Frame.refl _ s
  | cons candidate rest ih =>
    refine Frame.trans ?_ (ih _ _)
    unfold promoteOne
    repeat' split
    · exact Frame.refl _ s
    · exact Frame.refl _ s
    · exact Frame.of_overlay rfl

variable {s t : MemoryStore} {task : Task} {run : AgentRun}

theorem createScopedRunLocked_ok {scope : UnitScope} {reason : String}
    (created : createScopedRunLocked rt call task scope reason s = .ok (t, run)) :
    ∃ status built, s.admitLocked task.tenantID task.ownerID = .ok status ∧
      buildUnitScope rt scope = .ok built ∧ run = newReviewRun call task status ∧
      t = s.insertReviewRunLocked call run built reason := by
  unfold createScopedRunLocked at created
  repeat' split at created
  all_goals cases created
  next status admitted _ built valid => exact ⟨status, built, admitted, valid, rfl, rfl⟩

theorem createFirstRunLocked_ok {locked : ReviewOutlineVersion}
    (created : createFirstRunLocked rt call task locked s = .ok (t, run)) :
    ∃ next, nextReviewUnit (plannedReviewUnits rt task.taskID locked) = .ok (some next) ∧
      createReviewRunLocked rt call task locked next .generateUnit s = .ok (t, run) := by
  revert created
  fun_cases createFirstRunLocked rt call task locked s <;> intro created
  · cases created
  · cases created
  · next next ready => exact ⟨next, ready, created⟩

theorem createNextRunLocked_ok {taskID : String} {outline : ReviewOutlineVersion}
    {status : TaskStatus}
    (created : createNextRunLocked rt call taskID task outline s = .ok (t, run, status)) :
    (∃ next, nextReviewUnit (s.unitsOf taskID) = .ok (some next) ∧ status = .unitGenerating ∧
      createReviewRunLocked rt call task outline next .generateUnit s = .ok (t, run)) ∨
    ((∀ key unit, (s.unitsOf taskID).get key = some unit → unit.status = .confirmed) ∧
      status = .fullReviewRunning ∧
      createFullReviewRunLocked rt call task outline s = .ok (t, run)) := by
  revert created
  fun_cases createNextRunLocked rt call taskID task outline s <;> intro created <;> cases created
  · next next ready made => exact .inl ⟨next, ready, rfl, made⟩
  · next complete made =>
    refine .inr ⟨fun key unit stored => ?_, rfl, made⟩
    rw [Bool.not_eq_true, AssocMap.any_values_eq_false] at complete
    simpa using complete key unit stored

theorem materialize_frame {target : OutputTarget} {output : RunOutput}
    {decoded : DecodedOutput} (done : materialize rt call target output s decoded = .ok t) :
    Frame outputParts s t := by
  cases decoded <;>
    simp only [materialize, materializeUnit, materializePatch, materializeReview] at done
  all_goals repeat' split at done
  all_goals cases done
  all_goals exact Frame.of_overlay rfl

theorem submitRunOutput_frame (lease : LeaseContext) (output : RunOutput) (s : MemoryStore) :
    Frame (.runOutputs :: .runOutputReceipts :: outputParts) s
      (submitRunOutput rt call lease output s).1 := by
  have recorded (outputs : GoMap RunOutput) :
      Frame (.runOutputs :: .runOutputReceipts :: outputParts) s
        { s with runOutputs := outputs } := Frame.of_overlay rfl
  unfold submitRunOutput fail
  dsimp only
  repeat' first | with_reducible apply Frame.ite | split
  all_goals try exact Frame.refl _ s
  · exact recorded _
  · next done materialized =>
    have written := (materialize_frame rt call materialized).mono
      (List.subset_cons_of_subset .runOutputs (List.subset_cons_self .runOutputReceipts _))
    exact ((recorded _).trans written).trans (Frame.of_overlay rfl)

/-! ## Every operation -/

section

variable (s) in
/-- The operation changes no part outside those it is listed to write. -/
abbrev Framed (op : Op) : Prop := Frame op.writes s (apply rt ⟨call, op⟩ s).1

variable {tenantID ownerID taskID unitVersionID feedback key : String} {version : Int}

theorem confirmOutline_frame {command : ConfirmOutlineCommand} :
    Framed rt call s (.confirmOutline command) := by
  dsimp only [Framed, apply, replying, Op.writes, confirmOutline, lockOutline, fail]
  repeat' first | with_reducible apply Frame.ite | split
  all_goals try exact Frame.of_overlay rfl
  next made =>
  obtain ⟨next, -, made⟩ := createFirstRunLocked_ok rt call made
  obtain ⟨status, built, -, -, -, rfl⟩ := createScopedRunLocked_ok rt call made
  exact Frame.of_overlay rfl

theorem confirmConfirmationUnit_frame : Framed rt call s
    (.confirmConfirmationUnit tenantID ownerID taskID unitVersionID key version) := by
  dsimp only [Framed, apply, replying, Op.writes, confirmConfirmationUnit, confirmReviewUnitLocked,
    confirmDraftUnitLocked, fail]
  repeat' first | with_reducible apply Frame.ite | split
  all_goals try exact Frame.of_overlay rfl
  next made =>
  rcases createNextRunLocked_ok rt call made with ⟨next, -, -, made⟩ | ⟨-, -, made⟩
  all_goals
    obtain ⟨status, built, -, -, -, rfl⟩ := createScopedRunLocked_ok rt call made
    exact Frame.of_overlay rfl

theorem reopenConfirmationUnit_frame : Framed rt call s
    (.reopenConfirmationUnit tenantID ownerID taskID unitVersionID feedback key version) := by
  dsimp only [Framed, apply, replying, Op.writes, reopenConfirmationUnit, reopenReviewUnitLocked,
    reopenDraftUnitLocked, fail]
  repeat' first | with_reducible apply Frame.ite | split
  all_goals try exact Frame.of_overlay rfl
  next made =>
  obtain ⟨status, built, -, -, -, rfl⟩ := createScopedRunLocked_ok rt call made
  exact Frame.of_overlay rfl

end

/-- An operation changes no part outside those it is listed to write. -/
theorem apply_frame (input : Input) (s : MemoryStore) :
    Frame input.op.writes s (apply rt input s).1 := by
  obtain ⟨call, op⟩ := input
  cases op <;> dsimp only [apply, replying, Op.writes]
  case promoteWaiting now => exact promoteAll_frame now _ s []
  case projectMemory => exact Frame.of_overlay rfl
  case submitRunOutput lease output => exact submitRunOutput_frame rt call lease output s
  case confirmOutline => exact confirmOutline_frame rt call
  case confirmConfirmationUnit => exact confirmConfirmationUnit_frame rt call
  case reopenConfirmationUnit => exact reopenConfirmationUnit_frame rt call
  all_goals
    dsimp only [fail, createTaskWithRun, retryTask, appendTaskEvent,
      stopRun, acquireRun, heartbeat, completeRun, createDispatch, updateDispatch, claimOutbox,
      markOutboxPublished, markOutboxFailed, saveRolloutAssignment, recordModelAttempt,
      appendEvidence, saveRunArtifact, saveCheckpoint, setRunUnitScope, reserveLedgerEntry,
      markLedgerCallStarted, finishLedgerEntry, consumeLocalLedgerEntry, submitDraft,
      createPublishPreview, confirmPublish, claimPendingPublishes, completePublish,
      claimExpiredPublishPayloads, purgePublishPayload]
    repeat' first | with_reducible apply Frame.ite | split
    all_goals exact Frame.of_overlay rfl

end MemoryStore

end PrdAgent.Runcontrol
