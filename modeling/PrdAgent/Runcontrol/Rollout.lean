import PrdAgent.Runcontrol.UnitScope

/-!
# Rollout assignment and shadow evaluation

The parts of `rollout.go` the store calls: assigning a workflow version to a task under a rollout
policy, and binding a shadow-evaluation artifact to a result the store has persisted.
-/

namespace PrdAgent.Runcontrol

open GoText

/-- `RolloutAssignment.WithHash`. -/
def RolloutAssignment.withHash (rt : Runtime) (assignment : RolloutAssignment) :
    RolloutAssignment :=
  { assignment with assignmentHash := "sha256:" ++ rt.stableHash (joinNul [
      assignment.authoritativeWorkflowVersion.text, assignment.evaluationMode.text,
      assignment.shadowWorkflowVersion.text, assignment.cohort.text, assignment.policyVersion,
      assignment.assignmentReason]) }

/-- The first eight bytes of the digest as a big-endian number, modulo ten thousand. -/
def rolloutBucket (rt : Runtime) (request : AssignmentRequest) (policyVersion : String) : Int :=
  let digest := rt.stableHash (joinNul
    [request.tenantID, request.ownerID, request.taskID, policyVersion])
  (hexValue (String.ofList (digest.toList.take 16)) % 10000 : Nat)

/-- Membership in a Go `map[string]bool`. -/
def flagged (flags : GoMap Bool) (key : String) : Bool := (flags.get key).getD false

def RolloutPolicy.assign (rt : Runtime) (policy : RolloutPolicy) (request : AssignmentRequest) :
    Except StoreError RolloutAssignment :=
  let identity := request.tenantID ++ ":" ++ request.ownerID
  let assignment : RolloutAssignment := {
    authoritativeWorkflowVersion := policy.defaultWorkflow, evaluationMode := .enforce
    cohort := .default, policyVersion := policy.policyVersion, assignmentReason := "default" }
  if request.tenantID = "" ∨ request.ownerID = "" ∨ request.taskID = "" ∨
      policy.policyVersion = "" then
    .error (invalidPayload "rollout assignment requires identities and policy version")
  else if policy.defaultWorkflow.supported = false ∨ policy.canaryBasisPoints < 0 ∨
      policy.canaryBasisPoints > 10000 then
    .error (invalidPayload "invalid rollout policy")
  else if flagged policy.emergencyDeny identity then
    .ok (RolloutAssignment.withHash rt { assignment with
      authoritativeWorkflowVersion := .v1, evaluationMode := .off, cohort := .control
      assignmentReason := "emergency_deny" })
  else if flagged policy.explicitV4Tasks request.taskID then
    .ok (RolloutAssignment.withHash rt { assignment with
      authoritativeWorkflowVersion := .v4, evaluationMode := .enforce, cohort := .internal
      assignmentReason := "explicit_task" })
  else if flagged policy.internalOwners identity then
    .ok (RolloutAssignment.withHash rt { assignment with
      authoritativeWorkflowVersion := .v4, evaluationMode := .enforce, cohort := .internal
      assignmentReason := "owner_allowlist" })
  else if rolloutBucket rt request policy.policyVersion < policy.canaryBasisPoints then
    .ok (RolloutAssignment.withHash rt { assignment with
      authoritativeWorkflowVersion := .v4, evaluationMode := .enforce, cohort := .canary
      assignmentReason := "percentage" })
  else if policy.shadow ∧ policy.defaultWorkflow = .v1 then
    .ok (RolloutAssignment.withHash rt { assignment with
      evaluationMode := .shadow, shadowWorkflowVersion := .v4, cohort := .control
      assignmentReason := "shadow" })
  else .ok (RolloutAssignment.withHash rt assignment)

/-- `ValidateShadowEffects` against a baseline without remote effects. -/
def ShadowEvaluationArtifact.effectFree (value : ShadowEvaluationArtifact) : Bool :=
  value.extraModelPhysicalCalls == 0 && value.extraCapabilityPhysicalCalls == 0 &&
    value.extraDraftWrites == 0 && value.extraUnitWrites == 0 && value.extraPublishWrites == 0

def parseShadowEvaluationArtifact (rt : Runtime) (runID : String) (artifact : RunArtifact)
    (assignment : RolloutAssignment) : Except StoreError AuthoritativeTrace :=
  if assignment.evaluationMode ≠ .shadow ∨ artifact.artifactType ≠ "SHADOW_EVALUATION" ∨
      artifact.artifactKey ≠ runID ++ ":shadow-evaluation:1" ∨ artifact.generation ≠ 1 then
    .error (invalidPayload "invalid shadow artifact identity")
  else match rt.unmarshalShadowEvaluation artifact.content with
    | none => .error (invalidPayload "invalid shadow artifact payload")
    | some value =>
      let tracePayload := rt.canonicalJSON value.authoritativeTrace
      if value.schemaVersion ≠ "shadow-evaluation.v1" ∨ value.authoritativeTraceHash = "" ∨
          value.candidatePolicyVersion ≠ assignment.policyVersion ∨
          value.assignmentHash ≠ assignment.assignmentHash then
        .error (invalidPayload "shadow artifact assignment drift")
      else match rt.unmarshalAuthoritativeTrace tracePayload with
        | none => .error (invalidPayload "shadow authoritative trace identity drift")
        | some trace =>
          if trace.runID ≠ runID ∨ trace.authoritativeWorkflowVersion ≠
              assignment.authoritativeWorkflowVersion.text then
            .error (invalidPayload "shadow authoritative trace identity drift")
          else if value.authoritativeTraceHash ≠ "sha256:" ++ rt.stableHash tracePayload then
            .error (invalidPayload "shadow authoritative trace hash drift")
          else if value.effectFree = false then
            .error ⟨.noRemoteEffects, "SHADOW_REMOTE_EFFECT_FORBIDDEN"⟩
          else if artifact.requestHash ≠ "sha256:" ++ rt.stableHash (joinNul
              [value.authoritativeTraceHash, value.candidatePolicyVersion,
                value.assignmentHash]) then
            .error (invalidPayload "shadow artifact request hash drift")
          else .ok trace

def runOutputKindFromTrace : Int → RunOutputKind
  | 1 => .outlineCandidate
  | 2 => .unitCandidate
  | 3 => .unitPatch
  | 4 => .fullReviewReport
  | _ => .other ""

def validatePersistedAuthoritativeTrace (trace : AuthoritativeTrace)
    (persisted : PersistedAuthoritativeResult) : Except StoreError Unit :=
  let hasOutput := trace.outputKey ≠ "" ∨ trace.outputContentHash ≠ "" ∨ trace.outputKind ≠ 0
  let hasDraft := trace.draftKey ≠ "" ∨ trace.draftContentHash ≠ ""
  if trace.runID ≠ persisted.runID ∨ trace.taskID = "" ∨ trace.taskID ≠ persisted.taskID then
    .error (invalidPayload "shadow persisted trace identity drift")
  else if hasOutput ↔ hasDraft then
    .error (invalidPayload "shadow trace must bind exactly one persisted result")
  else if hasOutput then
    if trace.outputKey ≠ persisted.outputKey ∨
        runOutputKindFromTrace trace.outputKind ≠ persisted.outputKind ∨
        bareSHA256 trace.outputContentHash ≠ bareSHA256 persisted.outputContentHash then
      .error (invalidPayload "shadow output trace drift")
    else .ok ()
  else if trace.draftKey ≠ persisted.draftKey ∨
      bareSHA256 trace.draftContentHash ≠ bareSHA256 persisted.draftContentHash then
    .error (invalidPayload "shadow draft trace drift")
  else .ok ()

end PrdAgent.Runcontrol
