import PrdAgent.Runcontrol.Store

/-!
# Records a worker writes during a run

Model attempts, evidence, artifacts, checkpoints and the unit scope of a run, as `memory_store.go`
stores them. Each operation first checks the worker's lease, except `setRunUnitScope`, which the
control plane calls.
-/

namespace PrdAgent.Runcontrol

open GoText

namespace MemoryStore

variable (rt : Runtime) (call : Call)

def secretMarkers : List String := ["authorization", "api_key", "access_token", "jwt"]

def recordModelAttempt (lease : LeaseContext) (attempt : ModelAttempt) (s : MemoryStore) :
    Outcome String :=
  match s.validateLeaseLocked lease call.now with
  | .error err => (s, .error err)
  | .ok _ =>
  let metadata := rt.toLower (joinKey attempt.responseMetadataJSON attempt.tokenUsageJSON)
  let key := joinKey lease.runID attempt.attemptKey
  if attempt.attemptKey = "" ∨ attempt.operation = "" ∨ attempt.requestHash = "" then
    fail s .invalidPayload "attempt_key, operation and request_hash are required"
  else if secretMarkers.any fun marker => contains metadata marker then fail s .sensitivePayload
  else match s.attempts.get key with
  | some existing =>
    if existing.value.requestHash ≠ attempt.requestHash then fail s .invalidIdempotency
    else if existing.value.status ≠ "PLANNED" ∧ attempt.status ≠ existing.value.status then
      if attempt.status = "PLANNED" then (s, .ok existing.attemptID)
      else fail s .invalidIdempotency
    else
      ({ s with attempts := s.attempts.set key { existing with value := attempt } },
        .ok existing.attemptID)
  | none =>
    let attemptID := "attempt-" ++ rt.stableHash key
    let created : MemoryAttempt := {
      attemptID := attemptID, runID := lease.runID, value := attempt, createdAt := call.now }
    ({ s with attempts := s.attempts.set key created }, .ok attemptID)

/-- The loop of `AppendEvidence`: items before an invalid one stay stored. -/
def appendItems (runID : String) : List EvidenceItem → GoMap EvidenceRecord → Nat →
    GoMap EvidenceRecord × Except StoreError Nat
  | [], evidence, accepted => (evidence, .ok accepted)
  | item :: rest, evidence, accepted =>
    if item.sourceType = "" ∨ item.sourceID = "" ∨ item.locator = "" ∨
        item.excerptHash = "" then
      (evidence, .error ⟨.invalidPayload, ""⟩)
    else
      let key := joinNul [runID, item.sourceType, item.sourceID, item.locator, item.excerptHash]
      if (evidence.get key).isSome then appendItems runID rest evidence accepted
      else appendItems runID rest (evidence.set key {
        evidenceID := "evidence-" ++ rt.stableHash key, runID := runID
        sourceType := item.sourceType, sourceID := item.sourceID, locator := item.locator
        excerptHash := item.excerptHash, excerpt := item.excerpt
        createdAt := call.now }) (accepted + 1)

def appendEvidence (lease : LeaseContext) (items : List EvidenceItem) (s : MemoryStore) :
    Outcome Nat :=
  match s.validateLeaseLocked lease call.now with
  | .error err => (s, .error err)
  | .ok _ =>
    let result := appendItems rt call lease.runID items s.evidence 0
    ({ s with evidence := result.1 }, result.2)

def maxRunArtifactBytes : Nat := 1024 * 1024

/-- The check of a shadow-evaluation artifact against the results the store holds for the run. -/
def validateShadowArtifact (s : MemoryStore) (run : AgentRun) (lease : LeaseContext)
    (artifact : RunArtifact) : Except StoreError Unit :=
  match s.rolloutAssignments.get lease.runID with
  | none => .error ⟨.invalidPayload, ""⟩
  | some assignment => match parseShadowEvaluationArtifact rt lease.runID artifact assignment with
    | .error err => .error err
    | .ok trace =>
      let persisted : PersistedAuthoritativeResult := { runID := lease.runID, taskID := run.taskID }
      if trace.outputKey ≠ "" then
        match s.runOutputs.get (joinKey lease.runID trace.outputKey) with
        | none => .error (invalidPayload "shadow output was not persisted")
        | some output => validatePersistedAuthoritativeTrace trace { persisted with
            outputKey := output.outputKey, outputKind := output.outputKind
            outputContentHash := output.contentHash }
      else
        match ((s.drafts.range call.order).map Prod.snd).find? fun draft =>
            draft.runID == lease.runID && draft.draftKey == trace.draftKey with
        | none => validatePersistedAuthoritativeTrace trace persisted
        | some draft => validatePersistedAuthoritativeTrace trace { persisted with
            draftKey := draft.draftKey, draftContentHash := draft.patchHash }

def saveRunArtifact (lease : LeaseContext) (artifact : RunArtifact) (s : MemoryStore) :
    Outcome RunArtifactReceipt :=
  match s.validateLeaseLocked lease call.now with
  | .error err => (s, .error err)
  | .ok run =>
  let hash := rt.hashBytesHex artifact.content
  let key := joinKey lease.runID artifact.artifactKey
  if artifact.artifactKey = "" ∨ artifact.artifactType = "" ∨ artifact.generation < 0 ∨
      artifact.requestHash = "" ∨ artifact.content.size = 0 then
    fail s .invalidPayload
  else if artifact.content.size > maxRunArtifactBytes then fail s .payloadTooLarge
  else if artifact.contentHash ≠ "" ∧ artifact.contentHash ≠ hash then fail s .invalidPayload
  else match (if artifact.artifactType = "SHADOW_EVALUATION" then
      s.validateShadowArtifact rt call run lease artifact else .ok ()) with
  | .error err => (s, .error err)
  | .ok () =>
  match s.artifacts.get key with
  | some existing =>
    if existing.requestHash ≠ artifact.requestHash ∨ existing.contentHash ≠ hash then
      fail s .invalidIdempotency
    else (s, .ok { artifactKey := existing.artifactKey, contentHash := existing.contentHash })
  | none =>
    ({ s with artifacts := s.artifacts.set key { artifact with contentHash := hash } },
      .ok { artifactKey := artifact.artifactKey, contentHash := hash })

def maxCheckpointBytes : Nat := 1024 * 1024

def saveCheckpoint (lease : LeaseContext) (sequence : Int) (checkpoint : ByteArray)
    (s : MemoryStore) : Outcome CheckpointReceipt :=
  match s.validateLeaseLocked lease call.now with
  | .error err => (s, .error err)
  | .ok _ =>
  let current := (s.checkpoints.get lease.runID).getD {}
  let contentHash := rt.hashBytesHex checkpoint
  if checkpoint.size > maxCheckpointBytes then fail s .payloadTooLarge
  else if sequence < current.sequence then fail s .checkpointConflict
  else if sequence = current.sequence ∧ current.sequence ≠ 0 then
    if current.contentHash ≠ contentHash then fail s .checkpointConflict
    else (s, .ok { sequence := sequence, contentHash := contentHash })
  else
    let saved : MemoryCheckpoint := {
      sequence := sequence, payload := checkpoint, contentHash := contentHash }
    ({ s with checkpoints := s.checkpoints.set lease.runID saved },
      .ok { sequence := sequence, contentHash := contentHash })

def setRunUnitScope (tenantID ownerID runID : String) (expectedTaskVersion : Int)
    (scope : UnitScope) (s : MemoryStore) : Outcome Unit :=
  match s.runs.get runID with
  | none => fail s .notFound
  | some run =>
  if run.tenantID ≠ tenantID ∨ run.ownerID ≠ ownerID then fail s .notFound
  else if ((s.tasks.get run.taskID).getD {}).version ≠ expectedTaskVersion then
    fail s .taskVersionConflict
  else if run.workflowVersion ≠ .v4 then fail s .invalidPayload
  else match buildUnitScope rt scope with
  | .error err => (s, .error err)
  | .ok built =>
  match s.unitScopes.get runID with
  | some existing =>
    if existing.scopeHash ≠ built.scopeHash then fail s .invalidIdempotency else (s, .ok ())
  | none => ({ s with unitScopes := s.unitScopes.set runID built }, .ok ())

end MemoryStore

end PrdAgent.Runcontrol
