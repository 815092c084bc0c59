import PrdAgent.Library.Transition
import PrdAgent.Runcontrol.Execution
import PrdAgent.Runcontrol.Ledger
import PrdAgent.Runcontrol.Output
import PrdAgent.Runcontrol.Publish

/-!
# The store as a machine

`Op` lists every operation of the store that writes, with its arguments. The mutex serialises
calls, so a history of the store is a sequence of operations, each with what its call draws from
the surroundings; `apply` performs one. The rollout-control commands, which write only maps that no
operation here reads, are not listed. Of the project-memory commands, only what they do to the memory
spaces is visible here, and `projectMemory` lets them put any spaces there.

The one assumption about the surroundings is `Fresh`: identifiers drawn for new tasks, runs and
publishes are not in use yet.
-/

namespace PrdAgent.Runcontrol

open Transition

/-- An operation of the store with its arguments. -/
inductive Op
  | createTaskWithRun (tenantID ownerID message idempotencyKey : String)
  | retryTask (tenantID ownerID taskID idempotencyKey : String) (expectedTaskVersion : Int)
  | appendTaskEvent (tenantID ownerID taskID eventType : String) (payload : ByteArray)
  | stopRun (tenantID ownerID taskID runID : String)
  | acquireRun (runID workerID : String) (now : Time) (ttl : Duration)
  | heartbeat (lease : LeaseContext) (now : Time) (ttl : Duration)
  | completeRun (lease : LeaseContext) (status : RunStatus) (now : Time)
  | promoteWaiting (now : Time)
  | createDispatch (dispatch : AgentDispatch)
  | updateDispatch (dispatchID : String) (status : DispatchStatus) (lastError : String)
      (finishedAt : Option Time)
  | claimOutbox (limit : Int) (now : Time)
  | markOutboxPublished (messageID : String)
  | markOutboxFailed (messageID : String) (nextAttemptAt : Time)
  | saveRolloutAssignment (runID : String) (assignment : RolloutAssignment)
  | recordModelAttempt (lease : LeaseContext) (attempt : ModelAttempt)
  | appendEvidence (lease : LeaseContext) (items : List EvidenceItem)
  | saveRunArtifact (lease : LeaseContext) (artifact : RunArtifact)
  | saveCheckpoint (lease : LeaseContext) (sequence : Int) (checkpoint : ByteArray)
  | setRunUnitScope (tenantID ownerID runID : String) (expectedTaskVersion : Int)
      (scope : UnitScope)
  | reserveLedgerEntry (lease : LeaseContext) (entry : LedgerEntry)
  | markLedgerCallStarted (lease : LeaseContext) (operationKey requestHash : String)
  | finishLedgerEntry (lease : LeaseContext) (result : LedgerFinish)
  | consumeLocalLedgerEntry (lease : LeaseContext) (entry : LedgerEntry)
  | submitRunOutput (lease : LeaseContext) (output : RunOutput)
  | submitDraft (lease : LeaseContext) (draftKey : String) (expectedTaskVersion : Int)
      (patch : ByteArray)
  | confirmOutline (command : ConfirmOutlineCommand)
  | confirmConfirmationUnit (tenantID ownerID taskID unitVersionID idempotencyKey : String)
      (expectedTaskVersion : Int)
  | reopenConfirmationUnit (tenantID ownerID taskID unitVersionID feedback
      idempotencyKey : String) (expectedTaskVersion : Int)
  | createPublishPreview (tenantID ownerID taskID idempotencyKey : String)
      (expectedTaskVersion : Int) (now : Time)
  | confirmPublish (tenantID ownerID taskID publishID confirmationToken idempotencyKey : String)
      (expectedTaskVersion : Int) (now : Time)
  | claimPendingPublishes (workerID : String) (limit : Int) (now : Time) (ttl : Duration)
  | completePublish (workerID publishID : String) (result : PublishResult) (now : Time)
  | claimExpiredPublishPayloads (workerID : String) (now : Time) (limit : Int) (ttl : Duration)
  | purgePublishPayload (lease : PublishPayloadLease) (now : Time)
  | projectMemory (spaces : GoMap MemorySpace)

/-- What an operation returns on success. -/
inductive Reply
  | done
  | taskWithRun (value : TaskWithRun)
  | run (value : AgentRun)
  | runs (value : List AgentRun)
  | lease (value : LeaseContext)
  | event (value : TaskEvent)
  | dispatch (value : AgentDispatch)
  | messages (value : List OutboxMessage)
  | attempt (attemptID : String)
  | accepted (count : Nat)
  | artifact (value : RunArtifactReceipt)
  | checkpoint (value : CheckpointReceipt)
  | entry (value : LedgerEntry)
  | output (value : RunOutputReceipt)
  | draft (value : DraftReceipt)
  | transition (value : ReviewTransition)
  | decision (value : ConfirmationMutationResult)
  | preview (value : PublishPreviewResult)
  | publish (value : PublishRecord)
  | jobs (value : List PublishJob)
  | payloads (value : List PublishPayloadLease)

def Reply.run? : Except StoreError Reply → Option AgentRun
  | .ok (.run value) => some value
  | _ => none

variable {result : Except StoreError Reply}

theorem Reply.run?_eq_some {value : AgentRun} :
    Reply.run? result = some value ↔ result = .ok (.run value) := by
  constructor
  · intro found
    unfold Reply.run? at found
    split at found
    · cases found
      rfl
    · cases found
  · intro same
    rw [same]
    rfl

def Reply.error? : Except StoreError Reply → Option StoreError
  | .error err => some err
  | .ok _ => none

theorem Reply.error?_eq_some {err : StoreError} :
    Reply.error? result = some err ↔ result = .error err := by
  cases result with
  | error other | ok value => simp [Reply.error?]

def Reply.output? : Except StoreError Reply → Option RunOutputReceipt
  | .ok (.output receipt) => some receipt
  | _ => none

theorem Reply.output?_eq_some {receipt : RunOutputReceipt} :
    Reply.output? result = some receipt ↔ result = .ok (.output receipt) := by
  constructor
  · intro found
    unfold Reply.output? at found
    split at found
    · cases found
      rfl
    · cases found
  · intro same
    rw [same]
    rfl

/-- One call: what it draws from the surroundings, and the operation. -/
structure Input where
  call : Call
  op : Op

namespace MemoryStore

def replying {α : Type} (wrap : α → Reply) (outcome : Outcome α) : Outcome Reply :=
  (outcome.1, outcome.2.map wrap)

def apply (rt : Runtime) (input : Input) (s : MemoryStore) : Outcome Reply :=
  let call := input.call
  match input.op with
  | .createTaskWithRun tenantID ownerID message key =>
    replying .taskWithRun (createTaskWithRun rt call tenantID ownerID message key s)
  | .retryTask tenantID ownerID taskID key version =>
    replying .run (retryTask rt call tenantID ownerID taskID key version s)
  | .appendTaskEvent tenantID ownerID taskID eventType payload =>
    replying .event (appendTaskEvent rt call tenantID ownerID taskID eventType payload s)
  | .stopRun tenantID ownerID taskID runID =>
    replying .run (stopRun call tenantID ownerID taskID runID s)
  | .acquireRun runID workerID now ttl => replying .run (acquireRun call runID workerID now ttl s)
  | .heartbeat lease now ttl => replying .lease (heartbeat lease now ttl s)
  | .completeRun lease status now => replying .run (completeRun lease status now s)
  | .promoteWaiting now => replying .runs (promoteWaiting call now s)
  | .createDispatch dispatch => replying .dispatch (createDispatch call dispatch s)
  | .updateDispatch dispatchID status lastError finishedAt =>
    replying (fun _ => .done) (updateDispatch dispatchID status lastError finishedAt s)
  | .claimOutbox limit now => replying .messages (claimOutbox call limit now s)
  | .markOutboxPublished messageID => replying (fun _ => .done) (markOutboxPublished messageID s)
  | .markOutboxFailed messageID nextAttemptAt =>
    replying (fun _ => .done) (markOutboxFailed messageID nextAttemptAt s)
  | .saveRolloutAssignment runID assignment =>
    replying (fun _ => .done) (saveRolloutAssignment rt runID assignment s)
  | .recordModelAttempt lease attempt =>
    replying .attempt (recordModelAttempt rt call lease attempt s)
  | .appendEvidence lease items => replying .accepted (appendEvidence rt call lease items s)
  | .saveRunArtifact lease artifact => replying .artifact (saveRunArtifact rt call lease artifact s)
  | .saveCheckpoint lease sequence checkpoint =>
    replying .checkpoint (saveCheckpoint rt call lease sequence checkpoint s)
  | .setRunUnitScope tenantID ownerID runID version scope =>
    replying (fun _ => .done) (setRunUnitScope rt tenantID ownerID runID version scope s)
  | .reserveLedgerEntry lease entry => replying .entry (reserveLedgerEntry rt call lease entry s)
  | .markLedgerCallStarted lease operationKey requestHash =>
    replying .entry (markLedgerCallStarted call lease operationKey requestHash s)
  | .finishLedgerEntry lease result => replying .entry (finishLedgerEntry rt call lease result s)
  | .consumeLocalLedgerEntry lease entry =>
    replying .entry (consumeLocalLedgerEntry rt call lease entry s)
  | .submitRunOutput lease output => replying .output (submitRunOutput rt call lease output s)
  | .submitDraft lease draftKey version patch =>
    replying .draft (submitDraft rt call lease draftKey version patch s)
  | .confirmOutline command => replying .transition (confirmOutline rt call command s)
  | .confirmConfirmationUnit tenantID ownerID taskID unitVersionID key version =>
    replying .decision
      (confirmConfirmationUnit rt call tenantID ownerID taskID unitVersionID key version s)
  | .reopenConfirmationUnit tenantID ownerID taskID unitVersionID feedback key version =>
    replying .decision
      (reopenConfirmationUnit rt call tenantID ownerID taskID unitVersionID feedback key version s)
  | .createPublishPreview tenantID ownerID taskID key version now =>
    replying .preview (createPublishPreview rt call tenantID ownerID taskID key version now s)
  | .confirmPublish tenantID ownerID taskID publishID token key version now =>
    replying .publish
      (confirmPublish rt call tenantID ownerID taskID publishID token key version now s)
  | .claimPendingPublishes workerID limit now ttl =>
    replying .jobs (claimPendingPublishes call workerID limit now ttl s)
  | .completePublish workerID publishID result now =>
    replying (fun _ => .done) (completePublish rt call workerID publishID result now s)
  | .claimExpiredPublishPayloads workerID now limit ttl =>
    replying .payloads (claimExpiredPublishPayloads call workerID now limit ttl s)
  | .purgePublishPayload lease now => replying (fun _ => .done) (purgePublishPayload lease now s)
  | .projectMemory spaces => ({ s with memorySpaces := spaces }, .ok .done)

variable {s : MemoryStore} {rt : Runtime} {input : Input}

/-- The identifiers the call may give to a new task, run or publish are not in use. -/
def Fresh (s : MemoryStore) (input : Input) : Prop :=
  s.tasks.get (input.call.newID "task") = none ∧ s.runs.get (input.call.newID "run") = none ∧
    s.publishes.get (input.call.newID "publish") = none

instance (s : MemoryStore) (input : Input) : Decidable (Fresh s input) :=
  inferInstanceAs (Decidable (_ = none ∧ _ = none ∧ _ = none))

def Succeeds (rt : Runtime) (s : MemoryStore) (input : Input) : Prop :=
  Reply.error? (apply rt input s).2 = none

instance (rt : Runtime) (s : MemoryStore) (input : Input) : Decidable (Succeeds rt s input) :=
  inferInstanceAs (Decidable (_ = none))

theorem Succeeds.of_ok {reply : Reply}
    (ok : (apply rt input s).2 = .ok reply) : Succeeds rt s input := by
  unfold Succeeds
  rw [ok]
  rfl

theorem Succeeds.ok
    (succeeds : Succeeds rt s input) : ∃ reply, (apply rt input s).2 = .ok reply := by
  unfold Succeeds at succeeds
  cases returned : (apply rt input s).2 with
  | ok reply => exact ⟨reply, rfl⟩
  | error err =>
    rw [returned] at succeeds
    cases succeeds

/-- One call in a history, with the states around it and its result. -/
abbrev StoreEvent := Event MemoryStore Input (Except StoreError Reply)

/-- Histories of the store whose calls meet a condition beside drawing fresh identifiers. -/
abbrev History (rt : Runtime) (condition : MemoryStore → Input → Prop) :
    MemoryStore → List StoreEvent → MemoryStore → Prop :=
  Run (apply rt) fun s input => Fresh s input ∧ condition s input

theorem History.ofInputs {condition : MemoryStore → Input → Prop} {inputs : List Input}
    (allowed : AllowedFrom (apply rt) (fun s input => Fresh s input ∧ condition s input) inputs s) :
    History rt condition s (eventsFrom (apply rt) inputs s) (stateFrom (apply rt) inputs s) :=
  Run.ofInputs allowed

/-- A new store takes the inputs one after the other, each fresh and meeting the condition. -/
abbrev Accepts (rt : Runtime) (condition : MemoryStore → Input → Prop) (policy : QueuePolicy)
    (inputs : List Input) : Prop :=
  AllowedFrom (apply rt) (fun s input => Fresh s input ∧ condition s input) inputs
    (newMemoryStore policy)

/-- The state of a new store after the inputs. -/
def stateAfter (rt : Runtime) (policy : QueuePolicy) (inputs : List Input) : MemoryStore :=
  stateFrom (apply rt) inputs (newMemoryStore policy)

theorem Accepts.history {condition : MemoryStore → Input → Prop}
    {policy : QueuePolicy} {inputs : List Input} (accepts : Accepts rt condition policy inputs) :
    History rt condition (newMemoryStore policy)
      (eventsFrom (apply rt) inputs (newMemoryStore policy)) (stateAfter rt policy inputs) :=
  .ofInputs accepts

/-- The states a new store reaches by calls that meet a condition. -/
def ReachableBy (rt : Runtime) (condition : MemoryStore → Input → Prop) (policy : QueuePolicy)
    (s : MemoryStore) : Prop :=
  ∃ events, History rt condition (newMemoryStore policy) events s

/-- The states a new store reaches by any calls. -/
abbrev Reachable (rt : Runtime) : QueuePolicy → MemoryStore → Prop :=
  ReachableBy rt fun _ _ => True

theorem exists_reachable {condition : MemoryStore → Input → Prop} {policy : QueuePolicy}
    {P : MemoryStore → Prop} (inputs : List Input)
    (evaluated : Accepts rt condition policy inputs ∧ P (stateAfter rt policy inputs)) :
    ∃ s, ReachableBy rt condition policy s ∧ P s :=
  ⟨_, ⟨_, evaluated.1.history⟩, evaluated.2⟩

def oneSlot : QueuePolicy := { maxGlobalRunnable := 1, maxRunnablePerOwner := 1 }

def firstLease : LeaseContext := ⟨"run-a1", "lease-b1", "worker", 1, 52⟩

end MemoryStore

end PrdAgent.Runcontrol
