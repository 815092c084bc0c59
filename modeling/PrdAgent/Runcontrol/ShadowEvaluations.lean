import PrdAgent.Runcontrol.ReviewSteps

/-!
# What a shadow evaluation refers to

A shadow evaluation is saved if its trace agrees with the stored result it names. The lookup leaves an empty
record where nothing is found, and an empty record agrees with a trace that gives no key. Stored outputs and
drafts have keys (`KeysGiven`), so such a trace names neither.
-/

namespace PrdAgent.Runcontrol.MemoryStore

open GoText AssocMap

variable {rt : Runtime} {call : Call} {s : MemoryStore} {lease : LeaseContext} {artifact : RunArtifact}
  {trace : AuthoritativeTrace}

/-- The trace names a stored output of the run by its key, kind and content hash, or a stored draft of
the run by its key and content hash. -/
def NamesStored (s : MemoryStore) (runID : String) (trace : AuthoritativeTrace) : Prop :=
  (∃ output, s.runOutputs.get (joinKey runID trace.outputKey) = some output ∧
      trace.outputKey = output.outputKey ∧
      runOutputKindFromTrace trace.outputKind = output.outputKind ∧
      bareSHA256 trace.outputContentHash = bareSHA256 output.contentHash) ∨
    ∃ identity draft, s.drafts.get identity = some draft ∧ draft.runID = runID ∧
      trace.draftKey = draft.draftKey ∧
      bareSHA256 trace.draftContentHash = bareSHA256 draft.patchHash

/-- Stored outputs and drafts have a key. -/
structure KeysGiven (s : MemoryStore) : Prop where
  outputs : ∀ identity output, s.runOutputs.get identity = some output → output.outputKey ≠ ""
  drafts : ∀ identity draft, s.drafts.get identity = some draft → draft.draftKey ≠ ""

theorem submitRunOutput_keysGiven (rt : Runtime) (call : Call) (lease : LeaseContext) (output : RunOutput)
    (given : KeysGiven s) (identity : String) (stored : RunOutput)
    (found : (submitRunOutput rt call lease output s).1.runOutputs.get identity = some stored) :
    stored.outputKey ≠ "" := by
  have recorded {target decoded} (submits : Submits rt call s lease output target decoded)
      (found : (s.recordOutput target.identity output).runOutputs.get identity = some stored) :
      stored.outputKey ≠ "" := by
    refine forall_set (P := fun _ output => output.outputKey ≠ "") (fun empty => ?_) given.outputs _ _ found
    have valid := submits.valid
    simp [validateRunOutput, show output.outputKey = "" from empty] at valid
  have outcome := submitRunOutput_outcome rt call lease output s
  generalize submitRunOutput rt call lease output s = result at outcome found
  cases outcome with
  | refused err | repeated => exact given.outputs _ _ found
  | rejected submits failed => exact recorded submits found
  | materialized submits made =>
    have outputs := materialize_frame rt call made .runOutputs (by decide)
    exact recorded submits ((congrArg (AssocMap.get · identity) outputs).symm.trans found)

theorem apply_keysGiven (rt : Runtime) (input : Input) (given : KeysGiven s) :
    KeysGiven (apply rt input s).1 := by
  have outputs : .runOutputs ∉ input.op.writes → (apply rt input s).1.runOutputs = s.runOutputs :=
    apply_frame rt input s .runOutputs
  have drafts : .drafts ∉ input.op.writes → (apply rt input s).1.drafts = s.drafts :=
    apply_frame rt input s .drafts
  obtain ⟨call, op⟩ := input
  cases op
  case submitRunOutput lease output =>
    exact ⟨submitRunOutput_keysGiven rt call lease output given, drafts (by simp) ▸ given.drafts⟩
  case submitDraft lease draftKey expected patch =>
    refine ⟨outputs (by simp) ▸ given.outputs, ?_⟩
    dsimp only [apply, replying, submitDraft, fail]
    repeat' split
    all_goals try exact given.drafts
    next allowed _ _ _ _ _ _ => exact forall_set (fun empty => allowed (.inl empty)) given.drafts
  all_goals exact ⟨outputs (by simp) ▸ given.outputs, drafts (by simp) ▸ given.drafts⟩

theorem keysGiven_of_reachable {policy : QueuePolicy} (reached : Reachable rt policy s) : KeysGiven s := by
  obtain ⟨events, history⟩ := reached
  exact history.invariant (fun _ input _ => apply_keysGiven rt input) ⟨nofun, nofun⟩

theorem NamesStored.gives_key {runID : String} (names : NamesStored s runID trace)
    (given : KeysGiven s) : trace.outputKey ≠ "" ∨ trace.draftKey ≠ "" := by
  obtain ⟨output, stored, key, -⟩ | ⟨identity, draft, stored, -, key, -⟩ := names
  · exact .inl (key ▸ given.outputs _ _ stored)
  · exact .inr (key ▸ given.drafts _ _ stored)

theorem validatePersistedAuthoritativeTrace_ok {persisted : PersistedAuthoritativeResult}
    (passed : validatePersistedAuthoritativeTrace trace persisted = .ok ()) :
    (trace.draftKey = "" ∧ trace.outputKey = persisted.outputKey ∧
        runOutputKindFromTrace trace.outputKind = persisted.outputKind ∧
        bareSHA256 trace.outputContentHash = bareSHA256 persisted.outputContentHash) ∨
      (trace.outputKey = "" ∧ trace.draftKey = persisted.draftKey ∧
        bareSHA256 trace.draftContentHash = bareSHA256 persisted.draftContentHash) := by
  unfold validatePersistedAuthoritativeTrace at passed
  grind

/-- The trace of a saved shadow evaluation names a stored result exactly if it gives a key. -/
theorem shadow_trace_stored_iff {policy : QueuePolicy} (reached : Reachable rt policy s)
    {assignment : RolloutAssignment} (assigned : s.rolloutAssignments.get lease.runID = some assignment)
    (parsed : parseShadowEvaluationArtifact rt lease.runID artifact assignment = .ok trace)
    (shadow : artifact.artifactType = "SHADOW_EVALUATION")
    (saved : (saveRunArtifact rt call lease artifact s).2.isOk) :
    NamesStored s lease.runID trace ↔ trace.outputKey ≠ "" ∨ trace.draftKey ≠ "" := by
  refine ⟨fun names => names.gives_key (keysGiven_of_reachable reached), fun gives => ?_⟩
  obtain ⟨run, valid⟩ : ∃ run, s.validateShadowArtifact rt call run lease artifact = .ok () := by
    simp only [saveRunArtifact, fail, if_pos shadow] at saved
    repeat' split at saved
    all_goals cases saved
    all_goals exact ⟨_, ‹_›⟩
  simp only [validateShadowArtifact, assigned, parsed] at valid
  split at valid
  · next given =>
    split at valid
    · cases valid
    · next output stored =>
      rcases validatePersistedAuthoritativeTrace_ok valid with ⟨-, key, kind, hash⟩ | ⟨none, -⟩
      · exact .inl ⟨output, stored, key, kind, hash⟩
      · exact absurd none given
  · next none =>
    have gives : trace.draftKey ≠ "" := gives.resolve_left none
    split at valid
    · rcases validatePersistedAuthoritativeTrace_ok valid with ⟨none, -⟩ | ⟨-, none, -⟩
      all_goals exact absurd none gives
    · next draft found =>
      rcases validatePersistedAuthoritativeTrace_ok valid with ⟨none, -⟩ | ⟨-, key, hash⟩
      · exact absurd none gives
      obtain ⟨⟨identity, draft⟩, mem, rfl⟩ := List.mem_map.mp (List.mem_of_find?_eq_some found)
      have ofRun := List.find?_some found
      simp only [Bool.and_eq_true, beq_iff_eq] at ofRun
      exact .inr ⟨identity, draft, (mem_range (call.order_perm _)).mp mem, ofRun.1, key, hash⟩

/-! ### A trace without a key -/

deriving instance DecidableEq for AuthoritativeTrace

def shadowAssignment : RolloutAssignment := .withHash (.ofKnown {}) {
  authoritativeWorkflowVersion := .v1, evaluationMode := .shadow, cohort := .control
  policyVersion := "p", assignmentReason := "shadow" }

/-- A trace that gives only the kind of an output, one that no output has. -/
def keylessTrace : AuthoritativeTrace where
  runID := "run-a1"
  taskID := "task-a1"
  authoritativeWorkflowVersion := WorkflowVersion.v1.text
  runPurpose := 0
  checkpointSequence := 0
  outputKey := ""
  outputKind := 5
  outputContentHash := ""
  draftKey := ""
  draftContentHash := ""
  submissionDisposition := ""

def draftTrace : AuthoritativeTrace :=
  { keylessTrace with outputKind := 0, draftKey := "d", draftContentHash := Sha256.hex .empty }

def traceJson (trace : AuthoritativeTrace) : Json :=
  .obj [("run_id", .str trace.runID), ("task_id", .str trace.taskID),
    ("authoritative_workflow_version", .str trace.authoritativeWorkflowVersion),
    ("output_kind", .int trace.outputKind), ("draft_key", .str trace.draftKey),
    ("draft_content_hash", .str trace.draftContentHash)]

def shadowEvaluation (trace : AuthoritativeTrace) : ShadowEvaluationArtifact where
  schemaVersion := "shadow-evaluation.v1"
  authoritativeTraceHash := "sha256:" ++ Sha256.hex (traceJson trace).canonical.render.toUTF8
  authoritativeTrace := traceJson trace
  candidatePolicyVersion := "p"
  assignmentHash := shadowAssignment.assignmentHash
  extraModelPhysicalCalls := 0
  extraCapabilityPhysicalCalls := 0
  extraDraftWrites := 0
  extraUnitWrites := 0
  extraPublishWrites := 0

def evaluationJson (value : ShadowEvaluationArtifact) : Json :=
  .obj [("schema_version", .str value.schemaVersion),
    ("authoritative_trace_hash", .str value.authoritativeTraceHash),
    ("authoritative_trace", value.authoritativeTrace),
    ("candidate_policy_version", .str value.candidatePolicyVersion),
    ("assignment_hash", .str value.assignmentHash)]

def shadowArtifact (trace : AuthoritativeTrace) : RunArtifact where
  artifactKey := "run-a1:shadow-evaluation:1"
  artifactType := "SHADOW_EVALUATION"
  generation := 1
  requestHash := "sha256:" ++ Sha256.hex (joinNul
    [(shadowEvaluation trace).authoritativeTraceHash, "p", shadowAssignment.assignmentHash]).toUTF8
  contentHash := ""
  content := (evaluationJson (shadowEvaluation trace)).render.toUTF8

def shadowRuntime (trace : AuthoritativeTrace) : Runtime := .ofKnown {
  evaluations := [((shadowArtifact trace).content, shadowEvaluation trace)]
  traces := [((traceJson trace).canonical.render, trace)] }

def shadowed : List Input :=
  [⟨.at 1 "a1", .createTaskWithRun "tenant" "ann" "m" "start"⟩,
    ⟨.at 2 "b1", .acquireRun "run-a1" "worker" 2 50⟩,
    ⟨.at 3 "c1", .saveRolloutAssignment "run-a1" shadowAssignment⟩,
    ⟨.at 4 "d1", .submitDraft firstLease "d" 1 .empty⟩]

abbrev SavesShadow (trace : AuthoritativeTrace) (s : MemoryStore) : Prop :=
  s.rolloutAssignments.get firstLease.runID = some shadowAssignment ∧
    parseShadowEvaluationArtifact (shadowRuntime trace) firstLease.runID (shadowArtifact trace)
      shadowAssignment = .ok trace ∧
    (saveRunArtifact (shadowRuntime trace) (.at 5 "e1") firstLease (shadowArtifact trace)
      s).2.isOk

theorem draft_trace_saved : ∃ s, Reachable (shadowRuntime draftTrace) oneSlot s ∧
    SavesShadow draftTrace s ∧ NamesStored s firstLease.runID draftTrace := by
  obtain ⟨s, reached, saves⟩ : ∃ s, Reachable (shadowRuntime draftTrace) oneSlot s ∧
      SavesShadow draftTrace s := exists_reachable shadowed (by decide +kernel)
  have ⟨assigned, parsed, saved⟩ := saves
  exact ⟨s, reached, saves,
    (shadow_trace_stored_iff reached assigned parsed rfl saved).mpr (.inr (by decide))⟩

theorem keyless_trace_saved : ∃ s, Reachable (shadowRuntime keylessTrace) oneSlot s ∧
    SavesShadow keylessTrace s ∧ ¬ NamesStored s firstLease.runID keylessTrace := by
  obtain ⟨s, reached, saves⟩ : ∃ s, Reachable (shadowRuntime keylessTrace) oneSlot s ∧
      SavesShadow keylessTrace s := exists_reachable shadowed (by decide +kernel)
  refine ⟨s, reached, saves, fun names => ?_⟩
  simpa [keylessTrace] using names.gives_key (keysGiven_of_reachable reached)

end PrdAgent.Runcontrol.MemoryStore
