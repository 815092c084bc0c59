import PrdAgent.Runcontrol.Frame

/-!
# What can happen to a review

The review of a task is what the store holds in its tasks, outlines, units, unit versions and
full-review reports (`ReviewData`). `apply_review` says what one operation can do to them, with what
it checked before (`ReviewStep`). Three commands may fail after their first writes; their steps say
what a failed command leaves behind.
-/

namespace PrdAgent.Runcontrol

open GoText

/-- The task and the version that a command under optimistic concurrency control is for. -/
def Op.expects (s : MemoryStore) : Op → Option (String × Int)
  | .confirmOutline command => some (command.taskID, command.expectedTaskVersion)
  | .confirmConfirmationUnit _ _ taskID _ _ expected => some (taskID, expected)
  | .reopenConfirmationUnit _ _ taskID _ _ _ expected => some (taskID, expected)
  | .submitDraft lease _ expected _ => (s.runs.get lease.runID).map fun run => (run.taskID, expected)
  | .submitRunOutput lease output =>
    (s.runs.get lease.runID).map fun run => (run.taskID, output.expectedTaskVersion)
  | _ => none

/-- The store has a record that such a command is answered from. -/
def Op.replayed (s : MemoryStore) : Op → Bool
  | .confirmOutline command => (s.reviewTransitions.get
      (idempotencyIdentity command.tenantID command.ownerID command.idempotencyKey)).isSome
  | .confirmConfirmationUnit tenantID ownerID _ _ key _ =>
    (s.confirmationDecisions.get (idempotencyIdentity tenantID ownerID key)).isSome
  | .reopenConfirmationUnit tenantID ownerID _ _ _ key _ =>
    (s.confirmationDecisions.get (idempotencyIdentity tenantID ownerID key)).isSome
  | .submitDraft lease draftKey _ _ => (s.runs.get lease.runID).any fun run =>
    (s.drafts.get (joinKey ((s.tasks.get run.taskID).getD {}).taskID draftKey)).isSome
  | .submitRunOutput lease output =>
    (s.runOutputs.get (joinKey lease.runID output.outputKey)).isSome
  | _ => false

/-! ## What submitted outputs were checked for

A submitted output is read by its purpose (`Decodes`) and checked against the scope of its run
(`validateRunOutput_ok`). -/

/-- What the payload of an output was read as, by its purpose. -/
inductive Decodes (rt : Runtime) (output : RunOutput) : DecodedOutput → Prop
  | outline {candidate : OutlineCandidate} (purpose : output.runPurpose = .planOutline)
      (parsed : parseOutlineCandidate rt output.payload = .ok candidate) :
      Decodes rt output (.outline candidate)
  | unit {candidate : UnitCandidate} (refs : UnitCandidateRefs)
      (purpose : output.runPurpose = .generateUnit)
      (read : rt.unmarshalUnitCandidate output.payload = some candidate) :
      Decodes rt output (.unit candidate refs)
  | patch {patch : UnitPatch} (refs : UnitPatchRefs) (purpose : output.runPurpose = .reviseUnit)
      (read : rt.unmarshalUnitPatch output.payload = some patch) :
      Decodes rt output (.patch patch refs)
  | review {report : FullReviewCandidate} (outcome : String)
      (purpose : output.runPurpose = .fullReview)
      (read : rt.unmarshalFullReview output.payload = some report) :
      Decodes rt output (.review report outcome)

theorem decodeOutput_ok {rt : Runtime} {output : RunOutput} {decoded : DecodedOutput}
    (decodes : decodeOutput rt output = .ok decoded) : Decodes rt output decoded := by
  unfold decodeOutput at decodes
  repeat' split at decodes
  all_goals cases decodes
  · next purpose _ _ parsed => exact .outline purpose parsed
  · next purpose _ _ _ _ read _ => exact .unit _ purpose read
  · next purpose _ _ _ _ read _ _ => exact .review _ purpose read
  · next purpose _ _ _ _ read _ _ => exact .patch _ purpose read

theorem validateRunOutput_ok {rt : Runtime} {scope : UnitScope} {output : RunOutput}
    {version : Int} (valid : validateRunOutput rt scope output version = .ok ()) :
    output.expectedTaskVersion = version ∧
    rt.hashBytesHex output.payload = bareSHA256 output.contentHash ∧
    output.runPurpose = scope.purpose ∧
      match scope.purpose with
      | .generateUnit => validateUnitCandidatePayload rt scope output.payload = .ok ()
      | .reviseUnit => validateUnitPatchPayload rt scope output.payload = .ok ()
      | .fullReview => validateFullReviewPayload rt scope output.payload = .ok ()
      | _ => True := by
  unfold validateRunOutput at valid
  repeat
    split at valid
    · cases valid
  next kind current _ _ hashed =>
  rw [not_or, not_not, not_not] at kind
  rw [not_or, not_not] at hashed
  refine ⟨not_not.mp current, hashed.2, kind.1, ?_⟩
  rw [kind.2] at valid
  cases purpose : scope.purpose with
  | planOutline | other => trivial
  | generateUnit | reviseUnit | fullReview =>
    rw [purpose] at valid
    exact valid

namespace MemoryStore

/-! ## The checks before the first write -/

variable {s : MemoryStore} {task : Task} {unit : ReviewUnit} {version : MemoryConfirmationVersion}
  {decision : UnitDecision}

theorem validateLeaseLocked_ok {lease : LeaseContext} {now : Time}
    {run : AgentRun} (valid : s.validateLeaseLocked lease now = .ok run) :
    s.runs.get lease.runID = some run ∧ validLease run lease now = true := by
  unfold validateLeaseLocked at valid
  split at valid
  · cases valid
  · next stored =>
    split at valid
    · next holds =>
      cases valid
      exact ⟨stored, holds⟩
    · cases valid

theorem firstScope_ne_error (rt : Runtime) {workflow : WorkflowVersion} {err : StoreError} :
    (if workflow = .v4 then (buildUnitScope rt { purpose := .planOutline }).map some
      else .ok none) ≠ .error err := by
  have valid : ({ purpose := .planOutline } : UnitScope).normalized.validate rt = .ok () := rfl
  unfold buildUnitScope
  rw [valid]
  split <;> exact nofun

structure Lockable (s : MemoryStore) (command : ConfirmOutlineCommand) (task : Task)
    (outline : ReviewOutlineVersion) : Prop where
  taskStored : s.tasks.get command.taskID = some task
  owner : task.tenantID = command.tenantID ∧ task.ownerID = command.ownerID
  key : command.idempotencyKey ≠ ""
  version : task.version = command.expectedTaskVersion
  outlineStored : s.reviewOutlines.get command.taskID = some outline
  outlineVersion : outline.outlineVersionID = command.outlineVersionID
  draft : outline.status = .draft
  status : task.status = .outlineReview
  idle : s.hasActiveRunLocked task.taskID = false

theorem outlineToLock_ok_iff {command : ConfirmOutlineCommand} {outline : ReviewOutlineVersion} :
    s.outlineToLock command = .ok (task, outline) ↔ Lockable s command task outline := by
  constructor
  · fun_cases outlineToLock command s <;> intro accepted <;> cases accepted
    next stored owner version idle found named draft =>
    simp only [not_or, ne_eq, not_not, Bool.not_eq_true] at owner version named draft idle
    exact ⟨stored, owner, version.1, version.2, found, named, draft.1, draft.2, idle⟩
  · intro lockable
    obtain ⟨stored, owner, key, version, found, named, draft, status, idle⟩ := lockable
    unfold outlineToLock
    simp [stored, owner, key, version, found, named, draft, status, idle]

/-- A decision names a version of a unit of its task, and both are in the status it needs. -/
structure Decides (s : MemoryStore) (decision : UnitDecision) (needed : UnitStatus) (task : Task)
    (version : MemoryConfirmationVersion) (unit : ReviewUnit) : Prop where
  taskStored : s.tasks.get decision.taskID = some task
  owner : task.tenantID = decision.tenantID ∧ task.ownerID = decision.ownerID
  taskVersion : task.version = decision.expectedTaskVersion
  versionStored : s.confirmationVersions.get decision.unitVersionID = some version
  versionTask : version.taskID = decision.taskID
  ofOutline : version.value.outlineVersionID ≠ ""
  unitStored : (s.unitsOf decision.taskID).get version.value.unitKey = some unit
  unitStatus : unit.status = needed
  versionStatus : version.value.confirmationStatus = needed

theorem unitToDecide_ok_iff {needed : UnitStatus} :
    s.unitToDecide decision needed = .ok (task, version, unit) ↔
      Decides s decision needed task version unit := by
  constructor
  · fun_cases unitToDecide decision needed s <;> intro accepted <;> cases accepted
    next stored owner taskVersion found named present status =>
    simp only [not_or, ne_eq, not_not] at owner taskVersion named status
    exact ⟨stored, owner, taskVersion, found, named.1, named.2, present, status.1, status.2⟩
  · intro decides
    obtain ⟨stored, owner, taskVersion, found, ofTask, ofOutline, present, status, status'⟩ := decides
    unfold unitToDecide
    simp [stored, owner, taskVersion, found, ofTask, ofOutline, present, status, status']

def DependenciesConfirmed (units : GoMap ReviewUnit) (unit : ReviewUnit) : Prop :=
  ∀ dependency ∈ unit.dependsOn, ∃ found, units.get dependency = some found ∧
    found.status = .confirmed

def NoConfirmedDependent (units : GoMap ReviewUnit) (unitKey : String) : Prop :=
  ∀ key candidate, units.get key = some candidate → candidate.status = .confirmed →
    unitKey ∉ candidate.dependsOn

/-- Both decisions are checked in the same way: the unit must be decided about, nothing of the review
may stand in the way, and no run may be active. -/
theorem checked_ok_iff {decided : Except StoreError (Task × MemoryConfirmationVersion × ReviewUnit)}
    {blocked : ReviewUnit → Bool} {active : Bool} {blockedErr activeErr : StoreError} :
    (match decided with
      | .error err => .error err
      | .ok (task, version, unit) =>
        if blocked unit = true then .error blockedErr
        else if active = true then .error activeErr
        else .ok (task, version, unit)) = (.ok (task, version, unit) : Except StoreError _) ↔
      decided = .ok (task, version, unit) ∧ blocked unit = false ∧ active = false := by
  rcases decided with err | ⟨task', version', unit'⟩
  · simp
  dsimp only
  constructor
  · intro accepted
    split at accepted
    · cases accepted
    next clear =>
    split at accepted
    · cases accepted
    next idle =>
    cases accepted
    exact ⟨rfl, (Bool.not_eq_true _).mp clear, (Bool.not_eq_true _).mp idle⟩
  · rintro ⟨same, clear, idle⟩
    cases same
    simp [clear, idle]

theorem unitToConfirm_ok_iff : s.unitToConfirm decision = .ok (task, version, unit) ↔
      Decides s decision .reviewing task version unit ∧
      DependenciesConfirmed (s.unitsOf decision.taskID) unit ∧
      s.hasActiveRunLocked decision.taskID = false := by
  rw [← unitToDecide_ok_iff]
  refine checked_ok_iff.trans (and_congr_right fun _ => and_congr_left fun _ => ?_)
  unfold DependenciesConfirmed
  simp only [List.any_eq_false, bne_iff_ne, ne_eq, not_not, Option.map_eq_some_iff]

theorem unitToReopen_ok_iff : s.unitToReopen decision = .ok (task, version, unit) ↔
      Decides s decision .confirmed task version unit ∧
      NoConfirmedDependent (s.unitsOf decision.taskID) unit.unitKey ∧
      s.hasActiveRunLocked decision.taskID = false := by
  rw [← unitToDecide_ok_iff]
  refine checked_ok_iff.trans (and_congr_right fun _ => and_congr_left fun _ => ?_)
  unfold NoConfirmedDependent
  rw [AssocMap.any_values_eq_false]
  simp only [Bool.and_eq_false_iff, beq_eq_false_iff_ne, decide_eq_false_iff_not, ne_eq,
    ← imp_iff_not_or]

/-- The outline and unit that `lockedUnit` finds. -/
structure LockedUnit (s : MemoryStore) (target : OutputTarget) (expected : UnitStatus)
    (outline : ReviewOutlineVersion) (unit : ReviewUnit) : Prop where
  outlineStored : s.reviewOutlines.get target.task.taskID = some outline
  unitStored : (s.unitsOf target.task.taskID).get target.scope.currentUnitKey = some unit
  locked : outline.status = .locked
  unitStatus : unit.status = expected

theorem lockedUnit_ok {target : OutputTarget} {expected : UnitStatus}
    {outline : ReviewOutlineVersion} (found : s.lockedUnit target expected = .ok (outline, unit)) :
    LockedUnit s target expected outline unit := by
  unfold lockedUnit at found
  split at found
  · next outlineStored unitStored =>
    split at found
    · cases found
    · next ready =>
      cases found
      rw [not_or, not_not, not_not] at ready
      exact ⟨outlineStored, unitStored, ready.1, ready.2⟩
  · cases found

/-! ## Submitted outputs -/

/-- A submitted output passed the checks before the first write: of the lease, of the output against
the run's scope, and of its payload. -/
structure Submits (rt : Runtime) (call : Call) (s : MemoryStore) (lease : LeaseContext)
    (output : RunOutput) (target : OutputTarget) (decoded : DecodedOutput) : Prop where
  run : s.runs.get lease.runID = some target.run
  leased : validLease target.run lease call.now = true
  scope : s.unitScopes.get lease.runID = some target.scope
  task : target.task = (s.tasks.get target.run.taskID).getD {}
  identity : target.identity = joinKey lease.runID output.outputKey
  unused : s.runOutputs.get target.identity = none
  valid : validateRunOutput rt target.scope output target.task.version = .ok ()
  decodes : decodeOutput rt output = .ok decoded

def recordOutput (s : MemoryStore) (identity : String) (output : RunOutput) : MemoryStore :=
  { s with
    runOutputs := s.runOutputs.set identity
      { output with contentHash := bareSHA256 output.contentHash } }

def receiptFor (target : OutputTarget) (output : RunOutput) : RunOutputReceipt := {
  outputKey := output.outputKey, contentHash := bareSHA256 output.contentHash
  taskVersion := target.task.version + 1 }

/-- A submission is refused, repeats a recorded output, is rejected after it was recorded, or is
materialised. -/
inductive SubmitOutcome (rt : Runtime) (call : Call) (s : MemoryStore) (lease : LeaseContext)
    (output : RunOutput) : Outcome RunOutputReceipt → Prop
  | refused (err : StoreError) : SubmitOutcome rt call s lease output (s, .error err)
  | repeated {run : AgentRun} {existing : RunOutput}
      (stored : s.runs.get lease.runID = some run)
      (recorded : s.runOutputs.get (joinKey lease.runID output.outputKey) = some existing)
      (same : bareSHA256 existing.contentHash = bareSHA256 output.contentHash) :
      SubmitOutcome rt call s lease output
        (s, .ok ((s.runOutputReceipts.get (joinKey lease.runID output.outputKey)).getD {}))
  | rejected {target : OutputTarget} {decoded : DecodedOutput} {err : StoreError}
      (submits : Submits rt call s lease output target decoded)
      (failed : materialize rt call target output (s.recordOutput target.identity output) decoded =
        .error err) :
      SubmitOutcome rt call s lease output (s.recordOutput target.identity output, .error err)
  | materialized {target : OutputTarget} {decoded : DecodedOutput} {done : MemoryStore}
      (submits : Submits rt call s lease output target decoded)
      (made : materialize rt call target output (s.recordOutput target.identity output) decoded =
        .ok done) :
      SubmitOutcome rt call s lease output
        ({ done with runOutputReceipts :=
            s.runOutputReceipts.set target.identity (receiptFor target output) },
          .ok (receiptFor target output))

theorem submitRunOutput_outcome (rt : Runtime) (call : Call) (lease : LeaseContext)
    (output : RunOutput) (s : MemoryStore) :
    SubmitOutcome rt call s lease output (submitRunOutput rt call lease output s) := by
  unfold submitRunOutput fail
  split
  · exact .refused _
  next run leased =>
  obtain ⟨stored, valid⟩ := validateLeaseLocked_ok leased
  split
  · exact .refused _
  next scope hasScope =>
  dsimp only
  split
  · next existing recorded =>
    split
    · exact .refused _
    · next same => exact .repeated stored recorded (not_not.mp same)
  next unused =>
  split
  · exact .refused _
  next checked =>
  split
  · exact .refused _
  next decoded decodes =>
  have submits : Submits rt call s lease output
      ⟨run, (s.tasks.get run.taskID).getD {}, scope, joinKey lease.runID output.outputKey⟩
      decoded :=
    ⟨stored, valid, hasScope, rfl, rfl, unused, checked, decodes⟩
  split
  · next failed => exact .rejected submits failed
  · next made => exact .materialized submits made

end MemoryStore

/-! ## The steps of a review -/

/-- What the store holds about reviews. -/
structure ReviewData where
  tasks : GoMap Task
  outlines : GoMap ReviewOutlineVersion
  units : GoMap (GoMap ReviewUnit)
  versions : GoMap MemoryConfirmationVersion
  reports : GoMap FullReviewReport

def ReviewData.unitsOf (data : ReviewData) (taskID : String) : GoMap ReviewUnit :=
  (data.units.get taskID).getD ∅

/-- A command that fails after its first writes leaves the task as it was; one that succeeds
advances it. -/
inductive TaskOutcome (tasks : GoMap Task) (taskID : String) (advanced : Task → Prop) :
    Except StoreError Reply → GoMap Task → Prop
  | failed (err : StoreError) : TaskOutcome tasks taskID advanced (.error err) tasks
  | succeeded (reply : Reply) {task : Task} (is : advanced task) :
      TaskOutcome tasks taskID advanced (.ok reply) (tasks.set taskID task)

theorem TaskOutcome.keyed {tasks tasks' : GoMap Task} {taskID : String} {advanced : Task → Prop}
    {reply : Except StoreError Reply} (outcome : TaskOutcome tasks taskID advanced reply tasks')
    (keyed : tasks.Keyed Task.taskID) (same : ∀ task, advanced task → task.taskID = taskID) :
    tasks'.Keyed Task.taskID := by
  cases outcome with
  | failed err => exact keyed
  | succeeded reply is => exact keyed.set (same _ is)

/-- The status of a task after a unit was confirmed: the full review runs once all units are. -/
inductive NextStatus (units : GoMap ReviewUnit) : TaskStatus → Prop
  | generating : NextStatus units .unitGenerating
  | reviewing (all : ∀ key unit, units.get key = some unit → unit.status = .confirmed) :
      NextStatus units .fullReviewRunning

namespace MemoryStore

def reviewData (s : MemoryStore) : ReviewData :=
  ⟨s.tasks, s.reviewOutlines, s.reviewUnits, s.confirmationVersions, s.fullReviewReports⟩

variable (rt : Runtime) (call : Call)

def decidedTask : Op → Option String
  | .confirmConfirmationUnit _ _ taskID .. | .reopenConfirmationUnit _ _ taskID .. => some taskID
  | _ => none

/-- What one operation can do to the reviews. -/
inductive ReviewStep (s : MemoryStore) : Op → Except StoreError Reply → ReviewData → Prop
  | kept {op : Op} {reply : Except StoreError Reply}
      (silent : ∀ value, reply = .ok value → op.expects s = none ∨ op.replayed s = true) :
      ReviewStep s op reply s.reviewData
  | created {tenantID ownerID message key : String} {task : Task} (value : TaskWithRun)
      (named : task.taskID = call.newID "task") (status : task.status = .draft) :
      ReviewStep s (.createTaskWithRun tenantID ownerID message key) (.ok (.taskWithRun value))
        { s.reviewData with tasks := s.tasks.set (call.newID "task") task }
  | outlineDrafted {lease : LeaseContext} {output : RunOutput} {target : OutputTarget}
      {candidate : OutlineCandidate} (reply : Reply)
      (submits : Submits rt call s lease output target (.outline candidate)) :
      ReviewStep s (.submitRunOutput lease output) (.ok reply) { s.reviewData with
        tasks := s.tasks.set target.task.taskID (target.advanced call .outlineReview)
        outlines := s.reviewOutlines.set target.task.taskID
          (draftOutline rt call target candidate) }
  | unitGenerated {lease : LeaseContext} {output : RunOutput} {target : OutputTarget}
      {candidate : UnitCandidate} {refs : UnitCandidateRefs} {outline : ReviewOutlineVersion}
      {unit : ReviewUnit} (reply : Reply)
      (submits : Submits rt call s lease output target (.unit candidate refs))
      (pending : s.lockedUnit target .pending = .ok (outline, unit)) :
      ReviewStep s (.submitRunOutput lease output) (.ok reply)
        { (s.storeUnitVersion target unit
            (generatedVersion rt call target outline unit candidate refs)).reviewData with
          tasks := s.tasks.set target.task.taskID (target.advanced call .unitReview) }
  | unitRevised {lease : LeaseContext} {output : RunOutput} {target : OutputTarget}
      {patch : UnitPatch} {refs : UnitPatchRefs} {outline : ReviewOutlineVersion}
      {unit : ReviewUnit} (reply : Reply)
      (submits : Submits rt call s lease output target (.patch patch refs))
      (reopened : s.lockedUnit target .reopened = .ok (outline, unit))
      (based : 1 ≤ (s.baseVersion call target.task.taskID unit.unitKey).unitVersionNo) :
      ReviewStep s (.submitRunOutput lease output) (.ok reply)
        { (s.storeUnitVersion target unit (revisedVersion rt call target outline unit
            (s.baseVersion call target.task.taskID unit.unitKey) patch refs)).reviewData with
          tasks := s.tasks.set target.task.taskID (target.advanced call .unitReview) }
  | reviewed {lease : LeaseContext} {output : RunOutput} {target : OutputTarget}
      {report : FullReviewCandidate} {outcome : String} {outline : ReviewOutlineVersion}
      (reply : Reply) (submits : Submits rt call s lease output target (.review report outcome))
      (stored : s.reviewOutlines.get target.task.taskID = some outline)
      (locked : outline.status = .locked) (status : target.task.status = .fullReviewRunning)
      (current : sameConfirmedHashSet (s.confirmedUnitContextLocked call target.task.taskID)
        target.scope.confirmedContext = true) :
      ReviewStep s (.submitRunOutput lease output) (.ok reply) { s.reviewData with
        tasks := s.tasks.set target.task.taskID (target.advanced call (reviewedStatus outcome))
        reports := s.fullReviewReports.set target.task.taskID
          (reviewReport rt call target outline output report outcome) }
  | outlineLocked {command : ConfirmOutlineCommand} {task : Task} {outline : ReviewOutlineVersion}
      {reply : Except StoreError Reply} {tasks : GoMap Task}
      (lockable : Lockable s command task outline)
      (outcome : TaskOutcome s.tasks task.taskID (· = task.advanced .unitGenerating call.now)
        reply tasks) :
      ReviewStep s (.confirmOutline command) reply
        { (s.storeLockedOutline rt task (outline.lock call.now)).reviewData with tasks := tasks }
  | unitConfirmed {decision : UnitDecision} {task : Task} {version : MemoryConfirmationVersion}
      {unit : ReviewUnit} {reply : Except StoreError Reply} {tasks : GoMap Task}
      (decides : Decides s decision .reviewing task version unit)
      (dependencies : DependenciesConfirmed (s.unitsOf decision.taskID) unit)
      (idle : s.hasActiveRunLocked decision.taskID = false)
      (outcome : TaskOutcome s.tasks decision.taskID (fun task' => ∃ status, NextStatus
        ((s.unitsOf decision.taskID).set unit.unitKey { unit with status := .confirmed }) status ∧
        task' = task.advanced status call.now) reply tasks) :
      ReviewStep s (.confirmConfirmationUnit decision.tenantID decision.ownerID decision.taskID
          decision.unitVersionID decision.idempotencyKey decision.expectedTaskVersion) reply
        { (s.storeUnitStatus decision version unit .confirmed).reviewData with tasks := tasks }
  | unitReopened {decision : UnitDecision} {feedback : String} {task : Task}
      {version : MemoryConfirmationVersion} {unit : ReviewUnit} {reply : Except StoreError Reply} {tasks : GoMap Task}
      (decides : Decides s decision .confirmed task version unit)
      (independent : NoConfirmedDependent (s.unitsOf decision.taskID) unit.unitKey)
      (idle : s.hasActiveRunLocked decision.taskID = false)
      (outcome : TaskOutcome s.tasks decision.taskID (· = task.advanced .unitGenerating call.now)
        reply tasks) :
      ReviewStep s (.reopenConfirmationUnit decision.tenantID decision.ownerID decision.taskID
          decision.unitVersionID feedback decision.idempotencyKey decision.expectedTaskVersion) reply
        { (s.storeUnitStatus decision version unit .reopened).reviewData with
          tasks := tasks, reports := s.fullReviewReports.del decision.taskID }
  | draftSubmitted {lease : LeaseContext} {draftKey : String} {expected : Int}
      {patch : ByteArray} {task : Task} (reply : Reply) (draftID : String) (scope : RevisionScope)
      (candidates : List ConfirmationCandidate) {run : AgentRun}
      (stored : s.runs.get lease.runID = some run)
      (taskStored : task = (s.tasks.get run.taskID).getD {}) (current : task.version = expected) :
      ReviewStep s (.submitDraft lease draftKey expected patch) (.ok reply) { s.reviewData with
        tasks := s.tasks.set task.taskID (task.advanced task.status call.now)
        versions := storeDraftUnits rt call (task.advanced task.status call.now) draftID scope
          candidates s.confirmationVersions }
  | draftDecided {op : Op} {taskID unitVersionID : String} {task : Task}
      {version : MemoryConfirmationVersion} (reply : Reply) (status : UnitStatus)
      (taskStatus : TaskStatus) (noOutline : s.reviewOutlines.get taskID = none)
      (taskStored : s.tasks.get taskID = some task)
      (stored : s.confirmationVersions.get unitVersionID = some version)
      (versionTask : version.taskID = taskID) (decision : decidedTask op = some taskID)
      (expects : op.expects s = some (taskID, task.version)) :
      ReviewStep s op (.ok reply) { s.reviewData with
        tasks := s.tasks.set taskID (task.advanced taskStatus call.now)
        versions := s.confirmationVersions.set unitVersionID
          { version with value := { version.value with confirmationStatus := status } } }
  | publishConfirmed {tenantID ownerID taskID publishID token key : String} {expected : Int}
      {task : Task} {value : MemoryPublish} (reply : Reply) (now : Time)
      (taskStored : s.tasks.get taskID = some task)
      (stored : s.publishes.get publishID = some value) (ofTask : value.record.taskID = taskID)
      (version : value.record.taskVersion = task.version)
      (status : value.record.status = .preview) :
      ReviewStep s (.confirmPublish tenantID ownerID taskID publishID token key expected now)
        (.ok reply) { s.reviewData with
        tasks := s.tasks.set taskID { task with status := .publishing, updatedAt := now } }
  | publishCompleted {workerID publishID : String} {result : PublishResult}
      {task completed : Task} {value : MemoryPublish} (reply : Reply) (now : Time)
      (stored : s.publishes.get publishID = some value) (running : value.record.status = .running)
      (taskStored : task = (s.tasks.get value.record.taskID).getD {})
      (ended : completedTask task result.status now = some completed) :
      ReviewStep s (.completePublish workerID publishID result now) (.ok reply)
        { s.reviewData with tasks := s.tasks.set task.taskID completed }

variable {rt call} {s t : MemoryStore}

variable {op : Op}

theorem ReviewStep.refused (err : StoreError) : ReviewStep rt call s op (.error err) s.reviewData :=
  .kept fun _ is => nomatch is

variable {reply : Except StoreError Reply}

theorem ReviewStep.other (none : op.expects s = none) :
    ReviewStep rt call s op reply s.reviewData :=
  .kept fun _ _ => .inl none

theorem ReviewStep.recorded
    (replayed : op.replayed s = true) : ReviewStep rt call s op reply s.reviewData :=
  .kept fun _ _ => .inr replayed

theorem materialize_review {lease : LeaseContext} {output : RunOutput} {target : OutputTarget}
    {decoded : DecodedOutput} {done : MemoryStore} (reply : Reply)
    (submits : Submits rt call s lease output target decoded)
    (made : materialize rt call target output (s.recordOutput target.identity output) decoded =
      .ok done) :
    ReviewStep rt call s (.submitRunOutput lease output) (.ok reply) done.reviewData := by
  cases decoded with
  | outline candidate =>
    cases made
    exact .outlineDrafted reply submits
  | unit candidate refs =>
    dsimp only [materialize, materializeUnit] at made
    split at made
    · cases made
    · next pending =>
      cases made
      exact .unitGenerated reply submits pending
  | patch patch refs =>
    dsimp only [materialize, materializePatch] at made
    repeat' split at made
    all_goals cases made
    next reopened based =>
    exact .unitRevised reply submits reopened (not_lt.mp (not_or.mp based).1)
  | review report outcome =>
    dsimp only [materialize, materializeReview] at made
    repeat' split at made
    all_goals cases made
    next stored ready current =>
    simp only [not_or, ne_eq, not_not] at ready
    exact .reviewed reply submits stored ready.1 ready.2 ((Bool.not_eq_false _).mp current)

section

variable (rt call s) in
/-- What the operation does to the review data. -/
abbrev Reviews (op : Op) : Prop :=
  ReviewStep rt call s op (apply rt ⟨call, op⟩ s).2 (apply rt ⟨call, op⟩ s).1.reviewData

variable {tenantID ownerID taskID unitVersionID publishID workerID feedback message token key : String}
  {version : Int} {now : Time} {lease : LeaseContext} {output : RunOutput}

theorem submitRunOutput_review : Reviews rt call s (.submitRunOutput lease output) := by
  dsimp only [Reviews, apply, replying]
  have outcome := submitRunOutput_outcome rt call lease output s
  generalize submitRunOutput rt call lease output s = result at outcome ⊢
  cases outcome with
  | refused err | rejected submits failed => exact .refused _
  | repeated stored recorded same => exact .recorded (congrArg Option.isSome recorded)
  | @materialized target _ _ submits made =>
    have step := materialize_review (.output (receiptFor target output)) submits made
    exact step

theorem submitDraft_review {patch : ByteArray} :
    Reviews rt call s (.submitDraft lease key version patch) := by
  dsimp only [Reviews, apply, replying]
  unfold submitDraft fail
  split
  · exact .refused _
  next leased =>
  dsimp only
  split
  · exact .refused _
  split
  · next found =>
    have replayed : (Op.submitDraft lease key version patch).replayed s = true := by
      dsimp only [Op.replayed]
      rw [(validateLeaseLocked_ok leased).1]
      exact congrArg Option.isSome found
    split <;> exact .recorded replayed
  split
  · exact .refused _
  next current =>
  split
  · exact .refused _
  · next candidates _ =>
    exact .draftSubmitted _ _ _ candidates (validateLeaseLocked_ok leased).1 rfl (not_not.mp current)

theorem confirmOutline_review {command : ConfirmOutlineCommand} :
    Reviews rt call s (.confirmOutline command) := by
  dsimp only [Reviews, apply, replying]
  unfold confirmOutline lockOutline fail
  dsimp only
  split
  · next stored => split <;> exact .recorded (congrArg Option.isSome stored)
  split
  · exact .refused _
  next accepted =>
  have lockable := outlineToLock_ok_iff.mp accepted
  split
  · exact .outlineLocked lockable (.failed _)
  · next made =>
    obtain ⟨next, -, made⟩ := createFirstRunLocked_ok rt call made
    obtain ⟨status, built, -, -, rfl, rfl⟩ := createScopedRunLocked_ok rt call made
    exact .outlineLocked lockable (.succeeded _ rfl)

theorem validateConfirmationMutationLocked_ok {tenantID ownerID taskID unitVersionID : String}
    {expected : Int} {task : Task} {version : MemoryConfirmationVersion}
    (valid : s.validateConfirmationMutationLocked call tenantID ownerID taskID unitVersionID
      expected = .ok (task, version)) :
    s.tasks.get taskID = some task ∧ (task.tenantID = tenantID ∧ task.ownerID = ownerID) ∧
      task.version = expected ∧ s.confirmationVersions.get unitVersionID = some version ∧
      version.taskID = taskID ∧ version.value.draftID = s.latestDraftIDLocked call taskID := by
  revert valid
  fun_cases validateConfirmationMutationLocked <;> intro valid <;> cases valid
  next stored owner current found ofTask =>
  simp only [not_or, ne_eq, not_not] at owner current ofTask
  exact ⟨stored, owner, current, found, ofTask⟩

theorem confirmConfirmationUnit_review : Reviews rt call s
    (.confirmConfirmationUnit tenantID ownerID taskID unitVersionID key version) := by
  dsimp only [Reviews, apply, replying]
  unfold confirmConfirmationUnit confirmReviewUnitLocked confirmDraftUnitLocked fail
  dsimp only
  split
  · next stored => split <;> exact .recorded (congrArg Option.isSome stored)
  split
  · split
    · exact .refused _
    next accepted =>
    obtain ⟨decides, dependencies, idle⟩ := unitToConfirm_ok_iff.mp accepted
    split
    · exact .unitConfirmed decides dependencies idle (.failed _)
    next continued =>
    rcases createNextRunLocked_ok rt call continued with ⟨next, -, rfl, made⟩ | ⟨all, rfl, made⟩
    · obtain ⟨status, built, -, -, rfl, rfl⟩ := createScopedRunLocked_ok rt call made
      exact .unitConfirmed decides dependencies idle (.succeeded _ ⟨_, .generating, rfl⟩)
    · obtain ⟨status, built, -, -, rfl, rfl⟩ := createScopedRunLocked_ok rt call made
      unfold storeUnitStatus unitsOf at all
      dsimp only at all
      rw [AssocMap.get_set_self] at all
      exact .unitConfirmed decides dependencies idle (.succeeded _ ⟨_, .reviewing all, rfl⟩)
  next noOutline =>
  split
  · exact .refused _
  next valid =>
  obtain ⟨taskStored, -, current, stored, ofTask, -⟩ := validateConfirmationMutationLocked_ok valid
  split
  · exact .refused _
  · exact .draftDecided _ .confirmed _ noOutline taskStored stored ofTask rfl (current ▸ rfl)

theorem reopenConfirmationUnit_review : Reviews rt call s
    (.reopenConfirmationUnit tenantID ownerID taskID unitVersionID feedback key version) := by
  dsimp only [Reviews, apply, replying]
  unfold reopenConfirmationUnit reopenReviewUnitLocked reopenDraftUnitLocked fail
  dsimp only
  split
  · exact .refused _
  split
  · next stored => split <;> exact .recorded (congrArg Option.isSome stored)
  split
  · split
    · exact .refused _
    next accepted =>
    obtain ⟨decides, independent, idle⟩ := unitToReopen_ok_iff.mp accepted
    split
    · exact .unitReopened decides independent idle (.failed _)
    · next made =>
      obtain ⟨status, built, -, -, rfl, rfl⟩ := createScopedRunLocked_ok rt call made
      exact .unitReopened decides independent idle (.succeeded _ rfl)
  next noOutline =>
  split
  · exact .refused _
  next valid =>
  obtain ⟨taskStored, -, current, stored, ofTask, -⟩ := validateConfirmationMutationLocked_ok valid
  iterate 4
    split
    · exact .refused _
  · exact .draftDecided _ .reopened .draft noOutline taskStored stored ofTask rfl (current ▸ rfl)

theorem confirmPublish_review : Reviews rt call s
    (.confirmPublish tenantID ownerID taskID publishID token key version now) := by
  dsimp only [Reviews, apply, replying, confirmPublish, fail]
  repeat' split
  all_goals try exact .other rfl
  next taskStored stored owner versions status _ =>
  simp only [not_or, ne_eq, not_not] at owner versions status
  exact .publishConfirmed _ now taskStored stored owner.2.2.2.2
    (versions.2.trans versions.1.symm) status.1

theorem completePublish_review {result : PublishResult} :
    Reviews rt call s (.completePublish workerID publishID result now) := by
  dsimp only [Reviews, apply, replying]
  unfold completePublish fail
  dsimp only
  split
  · exact .other rfl
  next stored =>
  split
  · exact .other rfl
  next held =>
  simp only [not_or, ne_eq, not_not] at held
  cases ended : completedTask _ result.status now with
  | none => exact .other rfl
  | some completed => exact .publishCompleted _ now stored held.2.2 rfl ended

theorem createTaskWithRun_review :
    Reviews rt call s (.createTaskWithRun tenantID ownerID message key) := by
  dsimp only [Reviews, apply, replying]
  unfold createTaskWithRun fail
  dsimp only
  split
  · split <;> exact .other rfl
  split
  · exact .other rfl
  split
  · exact .other rfl
  split
  · next failed => exact absurd failed (firstScope_ne_error rt)
  · exact .created _ rfl rfl

end

def LeavesReviews (op : Op) : Prop :=
  .tasks ∉ op.writes ∧ .reviewOutlines ∉ op.writes ∧ .reviewUnits ∉ op.writes ∧
    .confirmationVersions ∉ op.writes ∧ .fullReviewReports ∉ op.writes

theorem apply_reviewData (input : Input) (leaves : LeavesReviews input.op) :
    (apply rt input s).1.reviewData = s.reviewData := by
  obtain ⟨tasks, outlines, units, versions, reports⟩ := leaves
  have frame := apply_frame rt input s
  unfold reviewData
  rw [show (apply rt input s).1.tasks = s.tasks from frame .tasks tasks,
    show (apply rt input s).1.reviewOutlines = _ from frame .reviewOutlines outlines,
    show (apply rt input s).1.reviewUnits = _ from frame .reviewUnits units,
    show (apply rt input s).1.confirmationVersions = _ from frame .confirmationVersions versions,
    show (apply rt input s).1.fullReviewReports = _ from frame .fullReviewReports reports]
  rfl

theorem apply_review (rt : Runtime) (input : Input) (s : MemoryStore) :
    ReviewStep rt input.call s input.op (apply rt input s).2 (apply rt input s).1.reviewData := by
  obtain ⟨call, op⟩ := input
  have kept (op : Op) (leaves : LeavesReviews op) (none : op.expects s = none) :
      Reviews rt call s op := by
    rw [Reviews, apply_reviewData ⟨call, op⟩ leaves]
    exact .other none
  cases op
  case createTaskWithRun => exact createTaskWithRun_review
  case submitRunOutput => exact submitRunOutput_review
  case submitDraft => exact submitDraft_review
  case confirmOutline => exact confirmOutline_review
  case confirmConfirmationUnit => exact confirmConfirmationUnit_review
  case reopenConfirmationUnit => exact reopenConfirmationUnit_review
  case confirmPublish => exact confirmPublish_review
  case completePublish => exact completePublish_review
  all_goals exact kept _ (by simp [LeavesReviews]) rfl

/-! ## Tasks are stored under their identifiers -/

theorem ReviewStep.tasks_keyed
    {data : ReviewData} (step : ReviewStep rt call s op reply data) (keyed : s.tasks.Keyed Task.taskID) :
    data.tasks.Keyed Task.taskID := by
  cases step with
  | kept => exact keyed
  | created value named => exact keyed.set named
  | outlineDrafted reply submits | unitGenerated reply submits pending
  | unitRevised reply submits reopened based
  | reviewed reply submits stored locked status current
  | draftSubmitted reply draftID scope candidates stored taskStored => exact keyed.set rfl
  | outlineLocked lockable outcome =>
    refine outcome.keyed keyed fun task' is => ?_
    rw [is]
    rfl
  | unitConfirmed decides dependencies idle outcome =>
    have same := keyed _ _ decides.taskStored
    refine outcome.keyed keyed fun task' is => ?_
    obtain ⟨status, -, rfl⟩ := is
    exact same
  | unitReopened decides independent idle outcome =>
    have same := keyed _ _ decides.taskStored
    refine outcome.keyed keyed fun task' is => ?_
    rw [is]
    exact same
  | draftDecided reply status taskStatus noOutline taskStored stored versionTask
  | publishConfirmed reply now taskStored stored ofTask version status =>
    have same := keyed _ _ taskStored
    exact keyed.set same
  | publishCompleted reply now stored running taskStored ended =>
    unfold completedTask at ended
    repeat' split at ended
    all_goals cases ended
    all_goals exact keyed.set rfl

theorem apply_tasksKeyed (rt : Runtime) (input : Input) (keyed : s.tasks.Keyed Task.taskID) :
    (apply rt input s).1.tasks.Keyed Task.taskID :=
  (apply_review rt input s).tasks_keyed keyed

end MemoryStore

end PrdAgent.Runcontrol
