import PrdAgent.Runcontrol.Machine

/-!
# Rollout control

The operator side of a rollout (`rollout_readiness.go`, `rollout_lifecycle.go` and the in-memory
implementation): gate decisions over an evaluation report, the stage of the rollout with its four
mutating entry points, readiness records, and the drain of legacy runs. The state stands beside the
store, whose runs, dispatches, outbox, ledger and checkpoints the legacy inventory counts.
-/

namespace PrdAgent.Runcontrol

open GoText

/-! ## Gates -/

/-- A `float64`. Only finite ones are compared. -/
inductive Metric
  | finite (value : Rat)
  | nan
  | inf (negative : Bool)
deriving DecidableEq

def Metric.isFinite : Metric → Bool
  | .finite _ => true
  | _ => false

/-- `left < right` for finite values. -/
def Metric.below : Metric → Metric → Bool
  | .finite left, .finite right => decide (left < right)
  | _, _ => false

structure GateThreshold where
  metric : String
  minimum : Option Metric := none
  maximum : Option Metric := none
  hardRequired : Bool := false

structure GateManifest where
  schemaVersion : String
  candidateVersion : WorkflowVersion
  baselineVersion : WorkflowVersion
  datasetHash : String
  minimumRepetitions : Int
  thresholds : List GateThreshold := []
  blockingCases : List String := []

structure GateReport where
  datasetHash : String
  repetitions : Int
  metrics : GoMap Metric := ∅
  failedCases : List String := []
  reportHash : String
  configHash : String
  candidate : WorkflowVersion
  baseline : WorkflowVersion

structure GateDecision where
  passed : Bool
  failedGateCodes : List String

def GateThreshold.invalid (threshold : GateThreshold) : Bool :=
  threshold.metric == "" || (threshold.minimum.isNone && threshold.maximum.isNone) ||
    threshold.minimum.any (!·.isFinite) || threshold.maximum.any (!·.isFinite) ||
    threshold.minimum.any fun low => threshold.maximum.any (·.below low)

/-- The codes one threshold adds to the failed ones. -/
def GateThreshold.failures (report : GateReport) (threshold : GateThreshold) : List String :=
  if threshold.invalid then ["INVALID_THRESHOLD:" ++ threshold.metric]
  else match report.metrics.get threshold.metric with
    | none => if threshold.hardRequired then ["MISSING_METRIC:" ++ threshold.metric] else []
    | some value =>
      if value.isFinite = false then ["NON_FINITE_METRIC:" ++ threshold.metric]
      else
        (if threshold.minimum.any (value.below ·) then ["MINIMUM:" ++ threshold.metric] else []) ++
          if threshold.maximum.any (·.below value) then ["MAXIMUM:" ++ threshold.metric] else []

def evaluateRolloutGate (manifest : GateManifest) (report : GateReport) : GateDecision :=
  let failed :=
    (if manifest.schemaVersion ≠ "agent-runtime-gate.v1" ∨ manifest.datasetHash = "" ∨
        report.datasetHash ≠ manifest.datasetHash then ["DATASET_HASH_MISMATCH"] else []) ++
    (if report.candidate ≠ manifest.candidateVersion ∨ report.baseline ≠ manifest.baselineVersion ∨
        report.reportHash = "" ∨ report.configHash = "" then ["REPORT_IDENTITY_MISMATCH"] else []) ++
    (if report.repetitions < manifest.minimumRepetitions ∨ report.repetitions < 1 then
      ["INSUFFICIENT_REPETITIONS"] else []) ++
    ((manifest.blockingCases.filter (report.failedCases.contains ·)).map ("BLOCKING_CASE:" ++ ·)) ++
    manifest.thresholds.flatMap (GateThreshold.failures report)
  { passed := failed.isEmpty, failedGateCodes := failed.insertionSort (· ≤ ·) }

structure GateDecisionRecord where
  decisionID : String
  candidate : WorkflowVersion
  baseline : WorkflowVersion
  datasetHash : String
  configHash : String
  reportHash : String
  manifestHash : String
  evidenceHash : String
  decision : GateDecision
  createdAt : Time

/-! ## Stages and commands -/

inductive RolloutStage
  | localOnly | locallyVerified | stagingShadow | stagingEnforce | productionCanary
  | productionDefault | legacyDrain | legacyRetired | other (raw : String)
deriving DecidableEq

def RolloutStage.text : RolloutStage → String
  | .localOnly => "LOCAL_ONLY"
  | .locallyVerified => "LOCALLY_VERIFIED"
  | .stagingShadow => "STAGING_SHADOW"
  | .stagingEnforce => "STAGING_ENFORCE"
  | .productionCanary => "PRODUCTION_CANARY"
  | .productionDefault => "PRODUCTION_DEFAULT"
  | .legacyDrain => "LEGACY_DRAIN"
  | .legacyRetired => "LEGACY_RETIRED"
  | .other raw => raw

/-- The table in `ValidRolloutTransition`; a missing key yields the empty stage. -/
def RolloutStage.next : RolloutStage → RolloutStage
  | .localOnly => .locallyVerified
  | .locallyVerified => .stagingShadow
  | .stagingShadow => .stagingEnforce
  | .stagingEnforce => .productionCanary
  | .productionCanary => .productionDefault
  | .productionDefault => .legacyDrain
  | .legacyDrain => .legacyRetired
  | .legacyRetired => .other ""
  | .other _ => .other ""

def validRolloutTransition (current target : RolloutStage) : Bool := current.next == target

structure RolloutStageState where
  stage : RolloutStage
  policyVersion : String := ""
  lastGateDecisionID : String := ""
  evidenceHash : String := ""
  paused : Bool := false
  pauseReasonCode : String := ""
  rollbackPolicyVersion : String := ""
  version : Int
  updatedAt : Time := 0

structure RecordGateDecisionCommand where
  manifest : GateManifest
  report : GateReport
  manifestHash : String
  evidenceHash : String
  now : Time := 0

structure RolloutTransitionCommand where
  target : RolloutStage
  gateDecisionID : String
  policyVersion : String
  evidenceHash : String
  expectedVersion : Int

inductive RolloutOperatorCommandKind
  | pause | resume | rollback | recordGate | transition | recordReadiness | other (raw : String)
deriving DecidableEq

def RolloutOperatorCommandKind.text : RolloutOperatorCommandKind → String
  | .pause => "PAUSE"
  | .resume => "RESUME"
  | .rollback => "ROLLBACK_NEW_ASSIGNMENTS"
  | .recordGate => "RECORD_GATE"
  | .transition => "TRANSITION_STAGE"
  | .recordReadiness => "RECORD_READINESS"
  | .other raw => raw

structure RolloutOperatorCommand where
  commandID : String
  kind : RolloutOperatorCommandKind
  expectedVersion : Int
  reasonCode : String := ""
  policyVersion : String := ""
  gateDecisionID : String := ""
  evidenceHash : String
  actorRef : String
  apply : Bool
  now : Time := 0

structure RolloutOperatorResult where
  commandID : String
  requestHash : String
  applied : Bool
  replayed : Bool := false
  state : RolloutStageState

structure RolloutGateOperatorCommand where
  commandID : String
  expectedVersion : Int
  manifest : GateManifest
  report : GateReport
  manifestHash : String
  evidenceHash : String
  actorRef : String
  apply : Bool
  now : Time := 0

structure RolloutGateOperatorResult where
  commandID : String
  requestHash : String
  applied : Bool
  replayed : Bool := false
  record : GateDecisionRecord
  state : RolloutStageState

structure RolloutStageOperatorCommand where
  commandID : String
  expectedVersion : Int
  target : RolloutStage
  gateDecisionID : String
  policyVersion : String
  evidenceHash : String
  drainID : String := ""
  removalInventoryHash : String := ""
  readerObservationHash : String := ""
  actorRef : String
  apply : Bool
  now : Time := 0

structure RolloutStageOperatorResult where
  commandID : String
  requestHash : String
  applied : Bool
  replayed : Bool := false
  state : RolloutStageState

inductive ReadinessStatus
  | blocked | stagingReady
deriving DecidableEq

def ReadinessStatus.text : ReadinessStatus → String
  | .blocked => "BLOCKED"
  | .stagingReady => "STAGING_READY"

structure ReadinessInput where
  commitHash : String := ""
  migrationSetHash : String := ""
  migrationHead : String := ""
  contractReportHash : String := ""
  postgresReportHash : String := ""
  evalManifestHash : String := ""
  shadowPolicyHash : String := ""
  gateDecisionID : String := ""

structure ReadinessRecord where
  readinessID : String
  schemaVersion : String
  candidate : WorkflowVersion
  baseline : WorkflowVersion
  input : ReadinessInput
  rolloutStateVersion : Int
  blockingGateCodes : List String
  recordHash : String := ""
  status : ReadinessStatus
  createdAt : Time

structure ReadinessOperatorCommand where
  commandID : String
  expectedVersion : Int
  input : ReadinessInput
  actorRef : String
  apply : Bool
  now : Time := 0

structure ReadinessOperatorResult where
  commandID : String
  requestHash : String
  applied : Bool
  replayed : Bool := false
  record : ReadinessRecord

/-! ## Request hashes -/

section RequestHash

variable (rt : Runtime)

/-- `"sha256:"` and the digest of the canonical JSON of an object. -/
def canonicalHash (fields : List (String × Json)) : String :=
  "sha256:" ++ rt.hashText (rt.canonicalJSON (.obj fields))

/-- The fields a command of its kind must have. -/
def RolloutOperatorCommand.kindValid (command : RolloutOperatorCommand) : Bool :=
  match command.kind with
  | .pause => command.reasonCode != ""
  | .resume => command.gateDecisionID != ""
  | .rollback => command.policyVersion != "" && command.reasonCode != ""
  | _ => false

def RolloutOperatorCommand.requestHash (command : RolloutOperatorCommand) :
    Except StoreError String :=
  if command.commandID = "" ∨ command.expectedVersion < 1 ∨ command.evidenceHash = "" ∨
      command.actorRef = "" then
    .error ⟨.invalidPayload, ""⟩
  else if command.kindValid = false then .error ⟨.invalidPayload, ""⟩
  else .ok (canonicalHash rt [
    ("command_id", .str command.commandID), ("command_kind", .str command.kind.text),
    ("expected_state_version", .int command.expectedVersion),
    ("reason_code", .str command.reasonCode), ("policy_version", .str command.policyVersion),
    ("gate_decision_id", .str command.gateDecisionID),
    ("evidence_hash", .str command.evidenceHash), ("actor_ref", .str command.actorRef)])

def RolloutGateOperatorCommand.requestHash (command : RolloutGateOperatorCommand) :
    Except StoreError String :=
  if command.commandID = "" ∨ command.expectedVersion < 1 ∨ command.manifestHash = "" ∨
      command.evidenceHash = "" ∨ command.actorRef = "" ∨ command.report.reportHash = "" ∨
      command.report.configHash = "" then
    .error ⟨.invalidPayload, ""⟩
  else .ok (canonicalHash rt [
    ("command_id", .str command.commandID),
    ("command_kind", .str RolloutOperatorCommandKind.recordGate.text),
    ("expected_state_version", .int command.expectedVersion),
    ("manifest_hash", .str command.manifestHash), ("evidence_hash", .str command.evidenceHash),
    ("actor_ref", .str command.actorRef),
    ("candidate_version", .str command.report.candidate.text),
    ("baseline_version", .str command.report.baseline.text),
    ("dataset_hash", .str command.report.datasetHash),
    ("config_hash", .str command.report.configHash),
    ("report_hash", .str command.report.reportHash)])

def RolloutStageOperatorCommand.requestHash (command : RolloutStageOperatorCommand) :
    Except StoreError String :=
  if command.commandID = "" ∨ command.expectedVersion < 1 ∨ command.target = .other "" ∨
      command.gateDecisionID = "" ∨ command.policyVersion = "" ∨ command.evidenceHash = "" ∨
      command.actorRef = "" then
    .error ⟨.invalidPayload, ""⟩
  else if command.target = .legacyRetired ∧ (command.drainID = "" ∨
      command.removalInventoryHash = "" ∨ command.readerObservationHash = "") then
    .error ⟨.invalidPayload, ""⟩
  else .ok (canonicalHash rt [
    ("command_id", .str command.commandID),
    ("command_kind", .str RolloutOperatorCommandKind.transition.text),
    ("expected_state_version", .int command.expectedVersion),
    ("target_stage", .str command.target.text),
    ("gate_decision_id", .str command.gateDecisionID),
    ("policy_version", .str command.policyVersion),
    ("evidence_hash", .str command.evidenceHash), ("actor_ref", .str command.actorRef),
    ("drain_id", .str command.drainID),
    ("removal_inventory_hash", .str command.removalInventoryHash),
    ("reader_observation_hash", .str command.readerObservationHash)])

def ReadinessInput.json (input : ReadinessInput) : Json := .obj [
  ("commit_hash", .str input.commitHash), ("migration_set_hash", .str input.migrationSetHash),
  ("migration_head", .str input.migrationHead),
  ("contract_report_hash", .str input.contractReportHash),
  ("postgres_report_hash", .str input.postgresReportHash),
  ("eval_manifest_hash", .str input.evalManifestHash),
  ("shadow_policy_hash", .str input.shadowPolicyHash),
  ("gate_decision_id", .str input.gateDecisionID)]

def ReadinessOperatorCommand.requestHash (command : ReadinessOperatorCommand) :
    Except StoreError String :=
  if command.commandID = "" ∨ command.expectedVersion < 1 ∨ command.actorRef = "" then
    .error ⟨.invalidPayload, ""⟩
  else .ok (canonicalHash rt [
    ("command_id", .str command.commandID),
    ("command_kind", .str RolloutOperatorCommandKind.recordReadiness.text),
    ("expected_state_version", .int command.expectedVersion),
    ("actor_ref", .str command.actorRef), ("input", command.input.json)])

def readinessRecordHash (record : ReadinessRecord) : String :=
  canonicalHash rt [
    ("schema_version", .str record.schemaVersion),
    ("candidate_version", .str record.candidate.text),
    ("baseline_version", .str record.baseline.text),
    ("commit_hash", .str record.input.commitHash),
    ("migration_set_hash", .str record.input.migrationSetHash),
    ("migration_head", .str record.input.migrationHead),
    ("contract_report_hash", .str record.input.contractReportHash),
    ("postgres_report_hash", .str record.input.postgresReportHash),
    ("eval_manifest_hash", .str record.input.evalManifestHash),
    ("shadow_policy_hash", .str record.input.shadowPolicyHash),
    ("gate_decision_id", .str record.input.gateDecisionID),
    ("rollout_state_version", .int record.rolloutStateVersion),
    ("blocking_gate_codes", .arr (record.blockingGateCodes.map .str)),
    ("status", .str record.status.text)]

end RequestHash

/-! ## The legacy inventory -/

structure LegacyInventory where
  workflowVersion : WorkflowVersion := .other ""
  activeRunCount : Nat := 0
  activeDispatchCount : Nat := 0
  unpublishedOutboxCount : Nat := 0
  nonTerminalLedgerCount : Nat := 0
  snapshotCount : Nat := 0
  readerHitCount : Nat := 0
  inventoryHash : String := ""
  observedAt : Time := 0

def LegacyInventory.empty (value : LegacyInventory) : Bool :=
  value.activeRunCount == 0 && value.activeDispatchCount == 0 &&
    value.unpublishedOutboxCount == 0 && value.nonTerminalLedgerCount == 0 &&
    value.snapshotCount == 0 && value.readerHitCount == 0

inductive DrainStatus
  | blocked | completed
deriving DecidableEq

structure DrainRecord where
  drainID : String
  workflowVersion : WorkflowVersion
  status : DrainStatus
  evidenceHash : String
  inventory : LegacyInventory
  startedAt : Time
  completedAt : Option Time

structure BeginDrainCommand where
  workflowVersion : WorkflowVersion
  evidenceHash : String
  now : Time := 0

namespace MemoryStore

/-- The set `runIDs` of `inspectLegacyLocked`: some run of the workflow has the identifier. -/
def runOfWorkflow (s : MemoryStore) (workflow : WorkflowVersion) (runID : String) : Bool :=
  s.runs.values.any fun run => run.workflowVersion == workflow && run.runID == runID

def inspectLegacyLocked (rt : Runtime) (workflow : WorkflowVersion) (now : Time)
    (s : MemoryStore) : Except StoreError LegacyInventory :=
  if workflow ≠ .v1 then .error ⟨.invalidPayload, ""⟩
  else
    let value : LegacyInventory := {
      workflowVersion := workflow, observedAt := now
      activeRunCount := s.runs.count fun run =>
        run.workflowVersion == workflow && !run.status.terminal
      activeDispatchCount := s.dispatches.count fun dispatch =>
        s.runOfWorkflow workflow dispatch.runID &&
          (dispatch.status == .started || dispatch.status == .running)
      unpublishedOutboxCount := s.outbox.count fun entry =>
        s.runOfWorkflow workflow entry.message.aggregateID && !entry.published
      nonTerminalLedgerCount := s.ledgerEntries.count fun entry =>
        s.runOfWorkflow workflow entry.runID && (entry.status == .reserved ||
          entry.status == .callStarted || entry.status == .outcomeUnknown)
      snapshotCount := s.checkpoints.total fun runID checkpoint =>
        if s.runOfWorkflow workflow runID && decide (0 < checkpoint.sequence) then 1 else 0 }
    .ok { value with inventoryHash := rt.hashText (rt.canonicalJSON (.obj [
      ("workflow_version", .str value.workflowVersion.text),
      ("active_run_count", .int value.activeRunCount),
      ("active_dispatch_count", .int value.activeDispatchCount),
      ("unpublished_outbox_count", .int value.unpublishedOutboxCount),
      ("non_terminal_ledger_count", .int value.nonTerminalLedgerCount),
      ("snapshot_count", .int value.snapshotCount),
      ("reader_hit_count", .int value.readerHitCount)])) }

end MemoryStore

/-! ## The operations -/

/-- The part of the in-memory store that rollout control keeps for itself. -/
structure RolloutControl where
  rolloutStageState : RolloutStageState := { stage := .localOnly, version := 1 }
  gateDecisionRecords : GoMap GateDecisionRecord := ∅
  rolloutOperatorResults : GoMap RolloutOperatorResult := ∅
  rolloutGateResults : GoMap RolloutGateOperatorResult := ∅
  rolloutStageResults : GoMap RolloutStageOperatorResult := ∅
  rolloutCommandHashes : GoMap String := ∅
  readinessRecords : GoMap ReadinessRecord := ∅
  readinessResults : GoMap ReadinessOperatorResult := ∅
  drainRecords : GoMap DrainRecord := ∅

/-- The store with its rollout control. -/
structure RolloutStore where
  store : MemoryStore
  control : RolloutControl := {}

def newRolloutStore (policy : QueuePolicy) : RolloutStore := { store := newMemoryStore policy }

namespace RolloutStore

variable (rt : Runtime) (call : Call)

abbrev Result (α : Type) := RolloutStore × Except StoreError α

def refuse {α : Type} (s : RolloutStore) (kind : ErrorKind) (detail : String := "") : Result α :=
  (s, .error ⟨kind, detail⟩)

/-- The stage state with the version of the active policy where none is recorded. -/
def currentState (s : RolloutStore) : RolloutStageState :=
  let state := s.control.rolloutStageState
  match s.store.policy.rolloutPolicy with
  | some policy =>
    if state.policyVersion = "" then { state with policyVersion := policy.policyVersion } else state
  | none => state

def activePolicyIs (s : RolloutStore) (version : String) : Bool :=
  match s.store.policy.rolloutPolicy with
  | some policy => policy.policyVersion == version
  | none => false

/-- The answer for a command identifier that was used before. -/
def replay {α : Type} (hashes : GoMap String) (results : GoMap α) (mark : α → α)
    (commandID requestHash : String) : Option (Except StoreError α) :=
  match hashes.get commandID with
  | none => none
  | some existingHash =>
    if existingHash ≠ requestHash then some (.error ⟨.invalidIdempotency, ""⟩)
    else match results.get commandID with
      | none => some (.error ⟨.invalidIdempotency, ""⟩)
      | some existing => some (.ok (mark existing))

def timeOr (now : Time) : Time := if now = 0 then call.now else now

def gateRecord (manifest : GateManifest) (report : GateReport) (manifestHash evidenceHash : String)
    (now : Time) : GateDecisionRecord := {
  decisionID := call.newID "rollout-gate", candidate := report.candidate
  baseline := report.baseline, datasetHash := report.datasetHash, configHash := report.configHash
  reportHash := report.reportHash, manifestHash := manifestHash, evidenceHash := evidenceHash
  decision := evaluateRolloutGate manifest report, createdAt := timeOr call now }

def recordGateDecision (command : RecordGateDecisionCommand) (s : RolloutStore) :
    Result GateDecisionRecord :=
  if command.manifestHash = "" ∨ command.evidenceHash = "" ∨ command.report.reportHash = "" ∨
      command.report.configHash = "" then
    s.refuse .invalidPayload
  else
    let record := gateRecord call command.manifest command.report command.manifestHash
      command.evidenceHash command.now
    ({ s with control := { s.control with
        gateDecisionRecords := s.control.gateDecisionRecords.set record.decisionID record } },
      .ok record)

def authorizeRolloutTransition (command : RolloutTransitionCommand) (s : RolloutStore) :
    Result RolloutStageState :=
  let current := s.control.rolloutStageState
  if command.expectedVersion < 1 ∨ current.version ≠ command.expectedVersion then
    s.refuse .taskVersionConflict
  else match s.control.gateDecisionRecords.get command.gateDecisionID with
  | none => s.refuse .notFound
  | some decision =>
  if decision.decision.passed = false ∨ decision.evidenceHash ≠ command.evidenceHash ∨
      current.paused then
    s.refuse .invalidRunStatus
  else if validRolloutTransition current.stage command.target = false then
    s.refuse .invalidRunStatus ("rollout stage transition " ++ current.stage.text ++ " -> " ++
      command.target.text)
  else if command.policyVersion = "" then s.refuse .invalidPayload
  else
    let next := { current with
      stage := command.target, policyVersion := command.policyVersion
      lastGateDecisionID := decision.decisionID, evidenceHash := command.evidenceHash
      version := current.version + 1, updatedAt := call.now }
    ({ s with control := { s.control with rolloutStageState := next } }, .ok next)

/-- The state a pause, resume or rollback leads to, before the fields all of them set. -/
def operatorState (command : RolloutOperatorCommand) (current : RolloutStageState)
    (s : RolloutStore) : Except StoreError RolloutStageState :=
  match command.kind with
  | .pause =>
    if current.paused then .error ⟨.invalidRunStatus, ""⟩
    else .ok { current with paused := true, pauseReasonCode := command.reasonCode }
  | .resume =>
    match s.control.gateDecisionRecords.get command.gateDecisionID with
    | none => .error ⟨.invalidRunStatus, ""⟩
    | some decision =>
      if current.paused = false ∨ decision.decision.passed = false ∨
          decision.evidenceHash ≠ command.evidenceHash then .error ⟨.invalidRunStatus, ""⟩
      else .ok { current with
        paused := false, pauseReasonCode := "", lastGateDecisionID := command.gateDecisionID }
  | .rollback =>
    if s.activePolicyIs command.policyVersion = false then .error ⟨.notFound, ""⟩
    else .ok { current with
      rollbackPolicyVersion := current.policyVersion, policyVersion := command.policyVersion
      paused := true, pauseReasonCode := command.reasonCode }
  | _ => .ok current

def applyRolloutCommand (command : RolloutOperatorCommand) (s : RolloutStore) :
    Result RolloutOperatorResult :=
  let mark := fun result : RolloutOperatorResult => { result with replayed := true }
  match command.requestHash rt with
  | .error err => (s, .error err)
  | .ok requestHash =>
  match replay s.control.rolloutCommandHashes s.control.rolloutOperatorResults mark
      command.commandID requestHash with
  | some answer => (s, answer)
  | none =>
  -- a result without a request hash is looked at as well
  match s.control.rolloutOperatorResults.get command.commandID with
  | some existing =>
    if existing.requestHash ≠ requestHash then s.refuse .invalidIdempotency
    else (s, .ok (mark existing))
  | none =>
  let current := s.currentState
  if current.version ≠ command.expectedVersion then s.refuse .taskVersionConflict
  else match operatorState command current s with
  | .error err => (s, .error err)
  | .ok changed =>
    let next := { changed with
      evidenceHash := command.evidenceHash, version := changed.version + 1
      updatedAt := timeOr call command.now }
    let result : RolloutOperatorResult := {
      commandID := command.commandID, requestHash := requestHash, applied := command.apply
      state := next }
    if command.apply then
      ({ s with control := { s.control with
          rolloutStageState := next
          rolloutOperatorResults := s.control.rolloutOperatorResults.set command.commandID result
          rolloutCommandHashes :=
            s.control.rolloutCommandHashes.set command.commandID requestHash } }, .ok result)
    else (s, .ok result)

def applyGateCommand (command : RolloutGateOperatorCommand) (s : RolloutStore) :
    Result RolloutGateOperatorResult :=
  match command.requestHash rt with
  | .error err => (s, .error err)
  | .ok requestHash =>
  match replay s.control.rolloutCommandHashes s.control.rolloutGateResults
      (fun result => { result with replayed := true }) command.commandID requestHash with
  | some answer => (s, answer)
  | none =>
  let state := s.currentState
  if state.version ≠ command.expectedVersion then s.refuse .taskVersionConflict
  else
    let record := gateRecord call command.manifest command.report command.manifestHash
      command.evidenceHash command.now
    let result : RolloutGateOperatorResult := {
      commandID := command.commandID, requestHash := requestHash, applied := command.apply
      record := record, state := state }
    if command.apply then
      ({ s with control := { s.control with
          gateDecisionRecords := s.control.gateDecisionRecords.set record.decisionID record
          rolloutCommandHashes :=
            s.control.rolloutCommandHashes.set command.commandID requestHash
          rolloutGateResults := s.control.rolloutGateResults.set command.commandID result } },
        .ok result)
    else (s, .ok result)

/-- Retiring the legacy workflow needs a completed drain that found nothing. -/
def drainAllows (command : RolloutStageOperatorCommand) (s : RolloutStore) :
    Except StoreError Unit :=
  if command.target = .legacyRetired then
    match s.control.drainRecords.get command.drainID with
    | none => .error ⟨.notFound, ""⟩
    | some drain =>
      if drain.status ≠ .completed ∨ drain.inventory.empty = false then
        .error ⟨.invalidRunStatus, ""⟩
      else .ok ()
  else .ok ()

def applyStageCommand (command : RolloutStageOperatorCommand) (s : RolloutStore) :
    Result RolloutStageOperatorResult :=
  match command.requestHash rt with
  | .error err => (s, .error err)
  | .ok requestHash =>
  match replay s.control.rolloutCommandHashes s.control.rolloutStageResults
      (fun result => { result with replayed := true }) command.commandID requestHash with
  | some answer => (s, answer)
  | none =>
  let current := s.currentState
  if current.version ≠ command.expectedVersion then s.refuse .taskVersionConflict
  else match s.control.gateDecisionRecords.get command.gateDecisionID with
  | none => s.refuse .notFound
  | some decision =>
  if current.paused ∨ decision.decision.passed = false ∨
      decision.evidenceHash ≠ command.evidenceHash ∨
      validRolloutTransition current.stage command.target = false then
    s.refuse .invalidRunStatus
  else if s.activePolicyIs command.policyVersion = false then s.refuse .notFound
  else match drainAllows command s with
  | .error err => (s, .error err)
  | .ok () =>
    let next := { current with
      stage := command.target, policyVersion := command.policyVersion
      lastGateDecisionID := command.gateDecisionID, evidenceHash := command.evidenceHash
      version := current.version + 1, updatedAt := timeOr call command.now }
    let result : RolloutStageOperatorResult := {
      commandID := command.commandID, requestHash := requestHash, applied := command.apply
      state := next }
    if command.apply then
      ({ s with control := { s.control with
          rolloutStageState := next
          rolloutCommandHashes :=
            s.control.rolloutCommandHashes.set command.commandID requestHash
          rolloutStageResults := s.control.rolloutStageResults.set command.commandID result } },
        .ok result)
    else (s, .ok result)

def readinessBlockers (input : ReadinessInput) (state : RolloutStageState) (activePolicy : String)
    (gate : Option GateDecisionRecord) : List String :=
  let required : List (String × String) := [
    (input.commitHash, "MISSING_COMMIT_HASH"),
    (input.migrationSetHash, "MISSING_MIGRATION_SET_HASH"),
    (input.contractReportHash, "MISSING_CONTRACT_REPORT_HASH"),
    (input.postgresReportHash, "MISSING_POSTGRES_REPORT_HASH"),
    (input.evalManifestHash, "MISSING_EVAL_MANIFEST_HASH"),
    (input.shadowPolicyHash, "MISSING_SHADOW_POLICY_HASH"),
    (input.gateDecisionID, "MISSING_GATE_DECISION")]
  let bound := gate.any fun gate => gate.decision.passed &&
    gate.decisionID == input.gateDecisionID && state.lastGateDecisionID == input.gateDecisionID
  ((required.filter (·.1 == "")).map Prod.snd ++
    (if input.migrationHead ≠ "0023" then ["MIGRATION_HEAD_NOT_0023"] else []) ++
    (if state.paused then ["ROLLOUT_PAUSED"] else []) ++
    (if state.stage ≠ .locallyVerified then ["STAGE_NOT_LOCALLY_VERIFIED"] else []) ++
    (if state.policyVersion = "" ∨ activePolicy ≠ state.policyVersion then
      ["ACTIVE_POLICY_STATE_MISMATCH"] else []) ++
    (if bound = false then ["GATE_DECISION_NOT_BOUND"]
      else if gate.any (·.manifestHash != input.evalManifestHash) then
        ["GATE_MANIFEST_HASH_MISMATCH"] else [])).insertionSort (· ≤ ·)

def buildReadinessRecord (input : ReadinessInput) (state : RolloutStageState)
    (activePolicy : String) (gate : Option GateDecisionRecord) (now : Time) : ReadinessRecord :=
  let blockers := readinessBlockers input state activePolicy gate
  let record : ReadinessRecord := {
    readinessID := call.newID "rollout-readiness", schemaVersion := "agent-runtime-readiness.v1"
    candidate := .v4, baseline := .v1, input := input, rolloutStateVersion := state.version
    blockingGateCodes := blockers
    status := if blockers.isEmpty then .stagingReady else .blocked
    createdAt := timeOr call now }
  { record with recordHash := readinessRecordHash rt record }

def applyReadinessCommand (command : ReadinessOperatorCommand) (s : RolloutStore) :
    Result ReadinessOperatorResult :=
  match command.requestHash rt with
  | .error err => (s, .error err)
  | .ok requestHash =>
  match replay s.control.rolloutCommandHashes s.control.readinessResults
      (fun result => { result with replayed := true }) command.commandID requestHash with
  | some answer => (s, answer)
  | none =>
  let state := s.currentState
  if state.version ≠ command.expectedVersion then s.refuse .taskVersionConflict
  else
    let activePolicy := (s.store.policy.rolloutPolicy.map (·.policyVersion)).getD ""
    let record := buildReadinessRecord rt call command.input state activePolicy
      (s.control.gateDecisionRecords.get command.input.gateDecisionID) command.now
    let result : ReadinessOperatorResult := {
      commandID := command.commandID, requestHash := requestHash, applied := command.apply
      record := record }
    if command.apply then
      ({ s with control := { s.control with
          readinessRecords := s.control.readinessRecords.set record.readinessID record
          rolloutCommandHashes :=
            s.control.rolloutCommandHashes.set command.commandID requestHash
          readinessResults := s.control.readinessResults.set command.commandID result } },
        .ok result)
    else (s, .ok result)

def beginDrain (command : BeginDrainCommand) (s : RolloutStore) : Result DrainRecord :=
  if command.workflowVersion ≠ .v1 ∨ command.evidenceHash = "" then s.refuse .invalidPayload
  else
    let now := timeOr call command.now
    match s.store.inspectLegacyLocked rt command.workflowVersion now with
    | .error err => (s, .error err)
    | .ok inventory =>
      let record : DrainRecord := {
        drainID := call.newID "rollout-drain", workflowVersion := command.workflowVersion
        status := if inventory.empty then .completed else .blocked
        evidenceHash := command.evidenceHash, inventory := inventory, startedAt := now
        completedAt := if inventory.empty then some now else none }
      ({ s with control := { s.control with
          drainRecords := s.control.drainRecords.set record.drainID record } }, .ok record)

def refreshDrain (drainID : String) (now : Time) (s : RolloutStore) : Result DrainRecord :=
  let now := timeOr call now
  match s.control.drainRecords.get drainID with
  | none => s.refuse .notFound
  | some record =>
  if record.status = .completed then (s, .ok record)
  else match s.store.inspectLegacyLocked rt record.workflowVersion now with
  | .error err => (s, .error err)
  | .ok inventory =>
    let refreshed := { record with
      inventory := inventory
      status := if inventory.empty then .completed else .blocked
      completedAt := if inventory.empty then some now else record.completedAt }
    ({ s with control := { s.control with
        drainRecords := s.control.drainRecords.set drainID refreshed } }, .ok refreshed)

end RolloutStore

/-! ## The machine -/

/-- The calls of rollout control, and those of the store beside it. -/
inductive RolloutOp
  | store (op : Op)
  | recordGateDecision (command : RecordGateDecisionCommand)
  | authorizeRolloutTransition (command : RolloutTransitionCommand)
  | applyRolloutCommand (command : RolloutOperatorCommand)
  | applyGateCommand (command : RolloutGateOperatorCommand)
  | applyStageCommand (command : RolloutStageOperatorCommand)
  | applyReadinessCommand (command : ReadinessOperatorCommand)
  | beginDrain (command : BeginDrainCommand)
  | refreshDrain (drainID : String) (now : Time)

inductive RolloutReply
  | store (reply : Reply)
  | gateDecision (record : GateDecisionRecord)
  | stageState (state : RolloutStageState)
  | operator (result : RolloutOperatorResult)
  | gate (result : RolloutGateOperatorResult)
  | stage (result : RolloutStageOperatorResult)
  | readiness (result : ReadinessOperatorResult)
  | drain (record : DrainRecord)

structure RolloutInput where
  call : Call
  op : RolloutOp

namespace RolloutStore

def replying {α : Type} (wrap : α → RolloutReply) (result : Result α) : Result RolloutReply :=
  (result.1, result.2.map wrap)

/-- Perform one call. -/
def apply (rt : Runtime) (input : RolloutInput) (s : RolloutStore) : Result RolloutReply :=
  let call := input.call
  match input.op with
  | .store op =>
    let outcome := MemoryStore.apply rt ⟨call, op⟩ s.store
    ({ s with store := outcome.1 }, outcome.2.map .store)
  | .recordGateDecision command => replying .gateDecision (recordGateDecision call command s)
  | .authorizeRolloutTransition command =>
    replying .stageState (authorizeRolloutTransition call command s)
  | .applyRolloutCommand command => replying .operator (applyRolloutCommand rt call command s)
  | .applyGateCommand command => replying .gate (applyGateCommand rt call command s)
  | .applyStageCommand command => replying .stage (applyStageCommand rt call command s)
  | .applyReadinessCommand command =>
    replying .readiness (applyReadinessCommand rt call command s)
  | .beginDrain command => replying .drain (beginDrain rt call command s)
  | .refreshDrain drainID now => replying .drain (refreshDrain rt call drainID now s)

abbrev RolloutEvent := Transition.Event RolloutStore RolloutInput (Except StoreError RolloutReply)

/-- The identifiers the call may give to a new task, run or publish are not in use. -/
def Fresh (s : RolloutStore) (input : RolloutInput) : Prop :=
  match input.op with
  | .store op => MemoryStore.Fresh s.store ⟨input.call, op⟩
  | _ => True

instance (s : RolloutStore) : (input : RolloutInput) → Decidable (Fresh s input)
  | ⟨call, .store op⟩ => inferInstanceAs (Decidable (MemoryStore.Fresh s.store ⟨call, op⟩))
  | ⟨_, .recordGateDecision _⟩ | ⟨_, .authorizeRolloutTransition _⟩ | ⟨_, .applyRolloutCommand _⟩
  | ⟨_, .applyGateCommand _⟩ | ⟨_, .applyStageCommand _⟩ | ⟨_, .applyReadinessCommand _⟩
  | ⟨_, .beginDrain _⟩ | ⟨_, .refreshDrain _ _⟩ => .isTrue trivial

/-- Histories of the store with its rollout control. -/
abbrev RolloutHistory (rt : Runtime) (condition : RolloutStore → RolloutInput → Prop) :
    RolloutStore → List RolloutEvent → RolloutStore → Prop :=
  Transition.Run (apply rt) fun s input => Fresh s input ∧ condition s input

end RolloutStore

end PrdAgent.Runcontrol
