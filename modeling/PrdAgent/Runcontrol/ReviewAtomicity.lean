import PrdAgent.Runcontrol.ReviewSteps

/-!
# Review commands that fail half-way

`ConfirmOutline`, and confirming or reopening a unit of a V4 task, write the outline, the units and
the unit version first and create the next run last. Creating the run can fail: the queue may be
full, no unit may be ready, and the scope of the run may be invalid. The command then returns an
error and keeps its first writes.
-/

namespace PrdAgent.Runcontrol

open GoText

def Op.isReviewCommand : Op → Bool
  | .confirmOutline .. | .confirmConfirmationUnit .. | .reopenConfirmationUnit .. => true
  | _ => false

namespace MemoryStore

variable (rt : Runtime) (call : Call)

/-! ## The run that follows a command -/

/-- A run of the task can be created with the scope that was chosen for it: it is admitted, and the
scope is valid. -/
structure CanCreate (s : MemoryStore) (task : Task) (scope : Except StoreError UnitScope) :
    Prop where
  room : ∃ status, s.admitLocked task.tenantID task.ownerID = .ok status
  valid : ∃ chosen built, scope = .ok chosen ∧ buildUnitScope rt chosen = .ok built

/-- The scope of the first run of a locked outline. -/
def firstRunScope (task : Task) (outline : ReviewOutlineVersion) (written : MemoryStore) :
    Except StoreError UnitScope :=
  match nextReviewUnit (plannedReviewUnits rt task.taskID outline) with
  | .error err => .error err
  | .ok none => .error (invalidPayload "locked outline has no dependency-ready unit")
  | .ok (some next) => .ok (reviewRunScope rt call task outline next .generateUnit written)

/-- The scope of the run that follows the confirmation of a unit. -/
def nextRunScope (taskID : String) (task : Task) (outline : ReviewOutlineVersion)
    (written : MemoryStore) : Except StoreError UnitScope :=
  match nextReviewUnit (written.unitsOf taskID) with
  | .error err => .error err
  | .ok (some next) => .ok (reviewRunScope rt call task outline next .generateUnit written)
  | .ok none =>
    if (written.unitsOf taskID).values.any fun unit => unit.status != .confirmed then
      .error ⟨.invalidRunStatus, "no dependency-ready unit while review remains incomplete"⟩
    else .ok (fullReviewScope rt call task outline written)

variable {rt call} {s : MemoryStore}

variable {task : Task} {t : MemoryStore} {α : Type} {outline : ReviewOutlineVersion}
  {decision : UnitDecision} {version : MemoryConfirmationVersion} {unit : ReviewUnit}

theorem createScopedRunLocked_ok_iff (call : Call) {scope : UnitScope} (reason : String) :
    (∃ result, createScopedRunLocked rt call task scope reason s = .ok result) ↔
      CanCreate rt s task (.ok scope) := by
  unfold createScopedRunLocked
  constructor
  · rintro ⟨result, created⟩
    split at created
    · cases created
    next status admitted =>
    split at created
    · cases created
    · next built valid => exact ⟨⟨status, admitted⟩, scope, built, rfl, valid⟩
  · rintro ⟨⟨status, admitted⟩, chosen, built, same, valid⟩
    cases same
    rw [admitted]
    dsimp only
    rw [valid]
    exact ⟨_, rfl⟩

theorem not_canCreate_error {err : StoreError} :
    ¬ CanCreate rt s task (.error err) := by
  rintro ⟨-, chosen, built, chosenIs, -⟩
  cases chosenIs

theorem createFirstRunLocked_ok_iff :
    (∃ result, createFirstRunLocked rt call task outline s = .ok result) ↔
      CanCreate rt s task (firstRunScope rt call task outline s) := by
  unfold createFirstRunLocked firstRunScope
  cases nextReviewUnit (plannedReviewUnits rt task.taskID outline) with
  | error err => exact iff_of_false (by simp) not_canCreate_error
  | ok chosen =>
    cases chosen with
    | none => exact iff_of_false (by simp) not_canCreate_error
    | some next => exact createScopedRunLocked_ok_iff call _

theorem createNextRunLocked_ok_iff {taskID : String} :
    (∃ result, createNextRunLocked rt call taskID task outline s = .ok result) ↔
      CanCreate rt s task (nextRunScope rt call taskID task outline s) := by
  unfold createNextRunLocked nextRunScope
  cases nextReviewUnit (s.unitsOf taskID) with
  | error err => exact iff_of_false (by simp) not_canCreate_error
  | ok chosen =>
    cases chosen with
    | some next =>
      rw [← createScopedRunLocked_ok_iff call "REVIEW_TRANSITION"]
      unfold createReviewRunLocked
      dsimp only
      cases createScopedRunLocked rt call task _ "REVIEW_TRANSITION" s with
      | error err => simp
      | ok made => simp
    | none =>
      dsimp only
      split
      · exact iff_of_false (by simp) not_canCreate_error
      · rw [← createScopedRunLocked_ok_iff call "FULL_REVIEW_READY"]
        unfold createFullReviewRunLocked
        cases createScopedRunLocked rt call task _ "FULL_REVIEW_READY" s with
        | error err => simp
        | ok made => simp

theorem CanCreate.congr {s : MemoryStore} {task' : Task} {scope : Except StoreError UnitScope}
    (policy : t.policy = s.policy) (runs : t.runs = s.runs)
    (owner : task'.tenantID = task.tenantID ∧ task'.ownerID = task.ownerID) :
    CanCreate rt t task' scope ↔ CanCreate rt s task scope := by
  -- admission looks at the policy and the runs only
  have admits : t.admitLocked task'.tenantID task'.ownerID =
      s.admitLocked task.tenantID task.ownerID := by
    unfold admitLocked atCapacityLocked runnableCountLocked ownerRunnableCountLocked
      waitingCountLocked
    rw [policy, runs, owner.1, owner.2]
  exact ⟨fun ⟨admitted, valid⟩ => ⟨admits ▸ admitted, valid⟩,
    fun ⟨admitted, valid⟩ => ⟨admits ▸ admitted, valid⟩⟩

/-! ## Failed commands -/

/-- An outcome that returns an error leaves the store as it was. -/
def Atomic {α : Type} (s : MemoryStore) (outcome : Outcome α) : Prop :=
  (∃ err, outcome.2 = .error err) → outcome.1 = s

theorem atomic_refused (err : StoreError) :
    Atomic s ((s, .error err) : Outcome α) := fun _ => rfl

theorem atomic_ok (value : α) :
    Atomic s ((t, .ok value) : Outcome α) := by
  rintro ⟨err, failed⟩
  cases failed

theorem not_atomic_of_changed {written : MemoryStore} (err : StoreError) (changed : written ≠ s) :
    ¬ Atomic s ((written, .error err) : Outcome α) :=
  fun atomic => changed (atomic ⟨err, rfl⟩)

theorem atomic_answered {hash : Prop} [Decidable hash] (err : StoreError) (value : α) :
    Atomic s (if hash then (s, .error err) else (s, .ok value) : Outcome α) := by
  split
  · exact atomic_refused err
  · exact atomic_ok value

theorem atomic_iff_of_failed {β : Type} {made : Except StoreError β} {can : Prop} {err : StoreError}
    (failed : made = .error err) (changed : t ≠ s) (follows : (∃ result, made = .ok result) ↔ can) :
    Atomic s ((t, .error err) : Outcome α) ↔ can := by
  refine iff_of_false (not_atomic_of_changed err changed) ?_
  rw [← follows, failed]
  simp

theorem atomic_iff_of_made {β : Type} {made : Except StoreError β} {can : Prop} {result : β}
    (ok : made = .ok result) (value : α) (follows : (∃ result, made = .ok result) ↔ can) :
    Atomic s ((t, .ok value) : Outcome α) ↔ can :=
  iff_of_true (atomic_ok value) (follows.mp ⟨result, ok⟩)

theorem lockOutline_atomic_iff {command : ConfirmOutlineCommand} (keyed : s.tasks.Keyed Task.taskID)
    (lockable : Lockable s command task outline) (identity requestHash : String) :
    Atomic s (lockOutline rt call identity requestHash task outline s) ↔
      CanCreate rt s task
        (firstRunScope rt call task outline (s.storeLockedOutline rt task outline)) := by
  have changed : s.storeLockedOutline rt task (outline.lock call.now) ≠ s := by
    intro same
    have stored := lockable.outlineStored
    rw [← keyed _ _ lockable.taskStored, ← same] at stored
    have written := (AssocMap.get_set_self _ _ _).symm.trans stored
    have draft := lockable.draft
    rw [← Option.some.inj written] at draft
    cases draft
  unfold lockOutline
  dsimp only
  split
  · next failed =>
    exact atomic_iff_of_failed failed changed
      (createFirstRunLocked_ok_iff.trans (CanCreate.congr rfl rfl ⟨rfl, rfl⟩))
  · next made =>
    exact atomic_iff_of_made made _
      (createFirstRunLocked_ok_iff.trans (CanCreate.congr rfl rfl ⟨rfl, rfl⟩))

theorem storeUnitStatus_ne {needed status : UnitStatus}
    (decides : Decides s decision needed task version unit) (other : status ≠ needed)
    (versions : t.confirmationVersions =
      (s.storeUnitStatus decision version unit status).confirmationVersions) : t ≠ s := by
  intro same
  have stored := decides.versionStored
  rw [← same, versions] at stored
  have written := (AssocMap.get_set_self _ _ _).symm.trans stored
  have is := decides.versionStatus
  rw [← Option.some.inj written] at is
  exact other is

theorem confirmReviewUnitLocked_atomic_iff
    (accepted : s.unitToConfirm decision = .ok (task, version, unit)) (requestHash : String)
    (outline : ReviewOutlineVersion) :
    Atomic s (confirmReviewUnitLocked rt call decision requestHash outline s) ↔
      CanCreate rt s task (nextRunScope rt call decision.taskID task outline
        (s.storeUnitStatus decision version unit .confirmed)) := by
  have changed : s.storeUnitStatus decision version unit .confirmed ≠ s :=
    storeUnitStatus_ne (unitToConfirm_ok_iff.mp accepted).1 (by decide) rfl
  unfold confirmReviewUnitLocked
  rw [accepted]
  dsimp only
  split
  · next failed =>
    exact atomic_iff_of_failed failed changed
      (createNextRunLocked_ok_iff.trans (CanCreate.congr rfl rfl ⟨rfl, rfl⟩))
  · next made =>
    exact atomic_iff_of_made made _
      (createNextRunLocked_ok_iff.trans (CanCreate.congr rfl rfl ⟨rfl, rfl⟩))

theorem reopenReviewUnitLocked_atomic_iff
    (accepted : s.unitToReopen decision = .ok (task, version, unit)) (feedback requestHash : String)
    (outline : ReviewOutlineVersion) :
    Atomic s (reopenReviewUnitLocked rt call decision feedback requestHash outline s) ↔
      CanCreate rt s task (.ok (revisionScope rt call task outline { unit with status := .reopened }
        { version.value with confirmationStatus := .reopened } feedback
        (s.storeUnitStatus decision version unit .reopened))) := by
  have changed : { s.storeUnitStatus decision version unit .reopened with
      fullReviewReports := s.fullReviewReports.del decision.taskID } ≠ s :=
    storeUnitStatus_ne (unitToReopen_ok_iff.mp accepted).1 (by decide) rfl
  unfold reopenReviewUnitLocked createRevisionReviewRunLocked
  rw [accepted]
  dsimp only
  split
  · next failed =>
    exact atomic_iff_of_failed failed changed
      ((createScopedRunLocked_ok_iff call _).trans (CanCreate.congr rfl rfl ⟨rfl, rfl⟩))
  · next made =>
    exact atomic_iff_of_made made _
      ((createScopedRunLocked_ok_iff call _).trans (CanCreate.congr rfl rfl ⟨rfl, rfl⟩))

/-! ## All three commands -/

/-- If the checks of a review command accept it, then the run that follows it can be created. -/
def FollowUpReady (rt : Runtime) (s : MemoryStore) (input : Input) : Prop :=
  match input.op with
  | .confirmOutline command =>
    s.reviewTransitions.get (idempotencyIdentity command.tenantID command.ownerID
      command.idempotencyKey) = none →
    ∀ task outline, s.outlineToLock command = .ok (task, outline) →
      CanCreate rt s task (firstRunScope rt input.call task outline
        (s.storeLockedOutline rt task outline))
  | .confirmConfirmationUnit tenantID ownerID taskID unitVersionID key expected =>
    s.confirmationDecisions.get (idempotencyIdentity tenantID ownerID key) = none →
    ∀ outline, s.reviewOutlines.get taskID = some outline →
    ∀ task version unit,
      s.unitToConfirm ⟨tenantID, ownerID, taskID, unitVersionID, key, expected⟩ =
        .ok (task, version, unit) →
      CanCreate rt s task (nextRunScope rt input.call taskID task outline (s.storeUnitStatus
        ⟨tenantID, ownerID, taskID, unitVersionID, key, expected⟩ version unit .confirmed))
  | .reopenConfirmationUnit tenantID ownerID taskID unitVersionID feedback key expected =>
    trimSpace feedback ≠ "" →
    s.confirmationDecisions.get (idempotencyIdentity tenantID ownerID key) = none →
    ∀ outline, s.reviewOutlines.get taskID = some outline →
    ∀ task version unit,
      s.unitToReopen ⟨tenantID, ownerID, taskID, unitVersionID, key, expected⟩ =
        .ok (task, version, unit) →
      CanCreate rt s task (.ok (revisionScope rt input.call task outline
        { unit with status := .reopened }
        { version.value with confirmationStatus := .reopened } (trimSpace feedback)
        (s.storeUnitStatus ⟨tenantID, ownerID, taskID, unitVersionID, key, expected⟩ version unit
          .reopened)))
  | _ => True

theorem Atomic.replying_iff {wrap : α → Reply} {outcome : Outcome α} :
    Atomic s (replying wrap outcome) ↔ Atomic s outcome := by
  obtain ⟨t, result⟩ := outcome
  cases result with
  | error err => exact ⟨fun atomic _ => atomic ⟨err, rfl⟩, fun atomic _ => atomic ⟨err, rfl⟩⟩
  | ok value => exact iff_of_true (atomic_ok _) (atomic_ok _)

theorem confirmOutline_atomic_iff (keyed : s.tasks.Keyed Task.taskID)
    (command : ConfirmOutlineCommand) :
    Atomic s (confirmOutline rt call command s) ↔
      FollowUpReady rt s ⟨call, .confirmOutline command⟩ := by
  unfold confirmOutline FollowUpReady fail
  dsimp only
  cases recorded : s.reviewTransitions.get (idempotencyIdentity command.tenantID command.ownerID
      command.idempotencyKey) with
  | some replay => exact iff_of_true (atomic_answered _ _) (by simp)
  | none =>
    dsimp only
    cases accepted : s.outlineToLock command with
    | error err => exact iff_of_true (atomic_refused _) (by simp)
    | ok found =>
      obtain ⟨task, outline⟩ := found
      have lockable := outlineToLock_ok_iff.mp accepted
      rw [lockOutline_atomic_iff keyed lockable]
      simp

theorem confirmConfirmationUnit_atomic_iff (tenantID ownerID taskID unitVersionID key : String)
    (expected : Int) :
    Atomic s (confirmConfirmationUnit rt call tenantID ownerID taskID unitVersionID key expected
        s) ↔
      FollowUpReady rt s
        ⟨call, .confirmConfirmationUnit tenantID ownerID taskID unitVersionID key expected⟩ := by
  unfold confirmConfirmationUnit FollowUpReady fail
  dsimp only
  cases recorded : s.confirmationDecisions.get (idempotencyIdentity tenantID ownerID key) with
  | some replay => exact iff_of_true (atomic_answered _ _) (by simp)
  | none =>
    dsimp only
    cases found : s.reviewOutlines.get taskID with
    | none =>
      refine iff_of_true ?_ (by simp)
      dsimp only [confirmDraftUnitLocked, fail]
      split
      · exact atomic_refused _
      split
      · exact atomic_refused _
      · exact atomic_ok _
    | some outline =>
      dsimp only
      cases accepted : s.unitToConfirm
          ⟨tenantID, ownerID, taskID, unitVersionID, key, expected⟩ with
      | error err =>
        refine iff_of_true ?_ (by simp)
        unfold confirmReviewUnitLocked
        rw [accepted]
        exact atomic_refused _
      | ok decided =>
        obtain ⟨task, version, unit⟩ := decided
        rw [confirmReviewUnitLocked_atomic_iff accepted]
        simp

theorem reopenConfirmationUnit_atomic_iff (tenantID ownerID taskID unitVersionID feedback
    key : String) (expected : Int) :
    Atomic s (reopenConfirmationUnit rt call tenantID ownerID taskID unitVersionID feedback key
        expected s) ↔
      FollowUpReady rt s ⟨call,
        .reopenConfirmationUnit tenantID ownerID taskID unitVersionID feedback key expected⟩ := by
  unfold reopenConfirmationUnit FollowUpReady fail
  dsimp only
  by_cases blank : trimSpace feedback = ""
  · rw [if_pos blank]
    exact iff_of_true (atomic_refused _) (by simp [blank])
  rw [if_neg blank]
  cases recorded : s.confirmationDecisions.get (idempotencyIdentity tenantID ownerID key) with
  | some replay => exact iff_of_true (atomic_answered _ _) (by simp)
  | none =>
    dsimp only
    cases found : s.reviewOutlines.get taskID with
    | none =>
      refine iff_of_true ?_ (by simp)
      dsimp only [reopenDraftUnitLocked, fail]
      iterate 5
        split
        · exact atomic_refused _
      · exact atomic_ok _
    | some outline =>
      dsimp only
      cases accepted : s.unitToReopen
          ⟨tenantID, ownerID, taskID, unitVersionID, key, expected⟩ with
      | error err =>
        refine iff_of_true ?_ (by simp)
        unfold reopenReviewUnitLocked
        rw [accepted]
        exact atomic_refused _
      | ok decided =>
        obtain ⟨task, version, unit⟩ := decided
        rw [reopenReviewUnitLocked_atomic_iff accepted]
        simp [blank]

theorem apply_atomic_iff (keyed : s.tasks.Keyed Task.taskID) (input : Input)
    (review : input.op.isReviewCommand = true) :
    Atomic s (apply rt input s) ↔ FollowUpReady rt s input := by
  obtain ⟨call, op⟩ := input
  cases op
  case confirmOutline command =>
    exact Atomic.replying_iff.trans (confirmOutline_atomic_iff keyed command)
  case confirmConfirmationUnit tenantID ownerID taskID unitVersionID key expected =>
    exact Atomic.replying_iff.trans
      (confirmConfirmationUnit_atomic_iff tenantID ownerID taskID unitVersionID key expected)
  case reopenConfirmationUnit tenantID ownerID taskID unitVersionID feedback key expected =>
    exact Atomic.replying_iff.trans (reopenConfirmationUnit_atomic_iff tenantID ownerID taskID
      unitVersionID feedback key expected)
  all_goals cases review

/-- A review command that fails leaves the store as it was exactly when the run that would follow
it can be created: the queue has room for it, a unit is ready (or all are confirmed), and its scope
is valid. -/
theorem review_commands_atomic_iff {policy : QueuePolicy} (reach : Reachable rt policy s)
    (input : Input) (review : input.op.isReviewCommand = true) :
    ((∃ err, (apply rt input s).2 = .error err) → (apply rt input s).1 = s) ↔
      FollowUpReady rt s input := by
  obtain ⟨events, history⟩ := reach
  refine apply_atomic_iff ?_ input review
  exact history.invariant (I := fun s => s.tasks.Keyed Task.taskID)
    (fun _ input _ keyed => apply_tasksKeyed rt input keyed) (.empty _)

/-! ## Reviews change only when a call succeeds -/

theorem FollowUpReady.of_succeeds (keyed : s.tasks.Keyed Task.taskID) {input : Input}
    (succeeds : Succeeds rt s input) : FollowUpReady rt s input := by
  by_cases review : input.op.isReviewCommand = true
  · obtain ⟨reply, ok⟩ := succeeds.ok
    refine (apply_atomic_iff keyed input review).mp fun ⟨err, failed⟩ => ?_
    cases ok.symm.trans failed
  · obtain ⟨call, op⟩ := input
    cases op
    case confirmOutline | confirmConfirmationUnit | reopenConfirmationUnit =>
      exact absurd rfl review
    all_goals trivial

theorem createTaskWithRun_atomic (tenantID ownerID message key : String) :
    Atomic s (createTaskWithRun rt call tenantID ownerID message key s) := by
  unfold createTaskWithRun fail
  dsimp only
  split
  · repeat' split
    all_goals first | exact atomic_refused _ | exact atomic_ok _
  split
  · exact atomic_refused _
  split
  · exact atomic_refused _
  split
  · next failed => exact absurd failed (firstScope_ne_error rt)
  · exact atomic_ok _

theorem apply_review_of_error (keyed : s.tasks.Keyed Task.taskID) {input : Input} {err : StoreError}
    (ready : FollowUpReady rt s input) (failed : (apply rt input s).2 = .error err) :
    (apply rt input s).1.reviewData = s.reviewData := by
  by_cases review : input.op.isReviewCommand = true
  · rw [(apply_atomic_iff keyed input review).mpr ready ⟨err, failed⟩]
  obtain ⟨call, op⟩ := input
  have atomic {α : Type} {wrap : α → Reply} {outcome : Outcome α} (atomic : Atomic s outcome)
      (failed : (replying wrap outcome).2 = .error err) :
      (replying wrap outcome).1.reviewData = s.reviewData :=
    congrArg reviewData (Atomic.replying_iff.mpr atomic ⟨err, failed⟩)
  cases op
  case confirmOutline | confirmConfirmationUnit | reopenConfirmationUnit =>
    exact absurd rfl review
  case createTaskWithRun tenantID ownerID message key =>
    exact atomic (createTaskWithRun_atomic tenantID ownerID message key) failed
  case submitRunOutput lease output =>
    have outcome := submitRunOutput_outcome rt call lease output s
    dsimp only [apply, replying] at failed ⊢
    generalize submitRunOutput rt call lease output s = result at outcome failed ⊢
    cases outcome with
    | refused err => rfl
    | repeated stored recorded same | materialized submits made => cases failed
    | rejected submits rejected => rfl
  case submitDraft | confirmPublish | completePublish =>
    refine atomic ?_ failed
    dsimp only [submitDraft, confirmPublish, completePublish, fail]
    repeat' split
    all_goals first | exact atomic_refused _ | exact atomic_ok _
  all_goals exact apply_reviewData _ (by simp [LeavesReviews])

/-! ## A full queue -/

def oneUnitOutline : OutlineCandidate := {
  schemaVersion := "outline-candidate.v1", title := "T", requirementSize := "S"
  nodes := [{
    nodeKey := "n", parentKey := "", ordinal := 0, title := "N", questions := []
    requiredContent := [], unitKey := "u" }]
  units := [{ unitKey := "u", title := "U", ordinal := 0, nodeKeys := ["n"], dependsOn := [] }] }

def jsonText (value : Json) : ByteArray := value.render.toUTF8

def outlineOutput (rt : Runtime) (candidate : OutlineCandidate) : RunOutput :=
  let payload := jsonText (outlineHashPayload candidate)
  { schemaVersion := "run-output.v1", outputKey := "outline", outputKind := .outlineCandidate
    runPurpose := .planOutline, expectedTaskVersion := 1
    scopeHash := rt.hashText (rt.canonicalJSON (unitScopeHashPayload
      { purpose := .planOutline, schemaVersion := "unit-scope.v1" }))
    payload := payload, contentHash := rt.hashBytesHex payload }

def planningLease : LeaseContext := ⟨"run-a1", "lease-b1", "worker", 1, 52⟩

def outlineSubmitted (rt : Runtime) (candidate : OutlineCandidate) : List Input := [
  ⟨.at 1 "a1", .createTaskWithRun "tenant" "ann" "m" "start"⟩,
  ⟨.at 2 "b1", .acquireRun "run-a1" "worker" 2 50⟩,
  ⟨.at 3 "b2", .submitRunOutput planningLease (outlineOutput rt candidate)⟩,
  ⟨.at 4 "b3", .completeRun planningLease .succeeded 4⟩]

def outlineConfirmed (now : Time) (digits : String) : Input := ⟨.at now digits, .confirmOutline {
  tenantID := "tenant", ownerID := "ann", taskID := "task-a1"
  -- the digest of the planning run's identifier and its output key
  outlineVersionID :=
    "outline-version-6cc20778331935d355f3ab8670e321d7303c9d0147ee2f1cc6c3f9c1a44412c9"
  idempotencyKey := "lock", expectedTaskVersion := 2 }⟩

def smallQueue : QueuePolicy := { oneSlot with defaultWorkflowVersion := .v4, maxWaitingRuns := 1 }

def oneUnitTexts : Runtime := .ofKnown {
  outlines := [(jsonText (outlineHashPayload oneUnitOutline), oneUnitOutline)] }

def queueFilled : List Input :=
  outlineSubmitted oneUnitTexts oneUnitOutline ++ [
    ⟨.at 5 "c1", .createTaskWithRun "tenant" "bob" "m" "start"⟩,
    ⟨.at 6 "d1", .createTaskWithRun "tenant" "cat" "m" "start"⟩]

theorem outlineConfirmed_in_full_queue :
    let s := stateAfter oneUnitTexts smallQueue queueFilled
    let after := apply oneUnitTexts (outlineConfirmed 7 "e1") s
    Accepts oneUnitTexts (fun _ _ => True) smallQueue queueFilled ∧
      Reply.error? after.2 = some ⟨.capacityExhausted, ""⟩ ∧
      (s.reviewOutlines.get "task-a1").map (·.status) = some .draft ∧
      (after.1.reviewOutlines.get "task-a1").map (·.status) = some .locked := by
  decide +kernel

/-- The command returns an error, and the outline is locked. -/
theorem failed_command_locks_outline : ∃ s err, Reachable oneUnitTexts smallQueue s ∧
    (apply oneUnitTexts (outlineConfirmed 7 "e1") s).2 = .error err ∧
    (apply oneUnitTexts (outlineConfirmed 7 "e1") s).1 ≠ s ∧
    (s.reviewOutlines.get "task-a1").map (·.status) = some .draft ∧
    ((apply oneUnitTexts (outlineConfirmed 7 "e1") s).1.reviewOutlines.get "task-a1").map
      (·.status) = some .locked := by
  obtain ⟨allowed, failed, draft, locked⟩ := outlineConfirmed_in_full_queue
  refine ⟨_, _, ⟨_, allowed.history⟩, Reply.error?_eq_some.mp failed, ?_, draft, locked⟩
  intro same
  rw [same, draft] at locked
  cases locked

theorem review_commands_atomic_iff_full_queue : ∃ s, Reachable oneUnitTexts smallQueue s ∧
    ¬ FollowUpReady oneUnitTexts s (outlineConfirmed 7 "e1") := by
  obtain ⟨allowed, failed, draft, locked⟩ := outlineConfirmed_in_full_queue
  have reach : Reachable oneUnitTexts smallQueue _ := ⟨_, allowed.history⟩
  refine ⟨_, reach, fun ready => ?_⟩
  have same := (review_commands_atomic_iff reach (outlineConfirmed 7 "e1") rfl).mpr ready
    ⟨_, Reply.error?_eq_some.mp failed⟩
  rw [same, draft] at locked
  cases locked

end MemoryStore

end PrdAgent.Runcontrol
