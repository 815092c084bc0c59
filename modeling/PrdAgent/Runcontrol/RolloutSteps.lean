import PrdAgent.Runcontrol.RolloutControl

/-!
# What one call does to the rollout

`apply_effect` says what a call of rollout control does to the state, with what it checked before
(`RolloutEffect`): it leaves everything as it is, or it makes one of seven changes. Whether a
command is executed shows in its reply: it succeeded, was to be applied, and is not a replay.
-/

namespace PrdAgent.Runcontrol

open GoText

/-- The `Apply` field of a command; `AuthorizeRolloutTransition` has none and always applies. -/
def RolloutOp.applies : RolloutOp → Option Bool
  | .authorizeRolloutTransition _ => some true
  | .applyRolloutCommand command => some command.apply
  | .applyGateCommand command => some command.apply
  | .applyStageCommand command => some command.apply
  | .applyReadinessCommand command => some command.apply
  | _ => none

def RolloutOp.operates : RolloutOp → Bool
  | .store _ => false
  | _ => true

def RolloutReply.replayed : RolloutReply → Bool
  | .operator result => result.replayed
  | .gate result => result.replayed
  | .stage result => result.replayed
  | .readiness result => result.replayed
  | _ => false

structure Executed (op : RolloutOp) (reply : Except StoreError RolloutReply) : Prop where
  applies : op.applies = some true
  first : ∃ result, reply = .ok result ∧ result.replayed = false

namespace RolloutStore

variable (rt : Runtime) (call : Call)

def stagedState (command : RolloutStageOperatorCommand) (s : RolloutStore) : RolloutStageState :=
  { s.currentState with
    stage := command.target, policyVersion := command.policyVersion
    lastGateDecisionID := command.gateDecisionID, evidenceHash := command.evidenceHash
    version := s.currentState.version + 1, updatedAt := timeOr call command.now }

def commandedState (command : RolloutOperatorCommand) (changed : RolloutStageState) :
    RolloutStageState :=
  { changed with
    evidenceHash := command.evidenceHash, version := changed.version + 1
    updatedAt := timeOr call command.now }

/-- The rollout may go on to the target with this decision. -/
structure MayAdvance (s : RolloutStore) (target : RolloutStage)
    (gateDecisionID evidenceHash : String) (decision : GateDecisionRecord) : Prop where
  stored : s.control.gateDecisionRecords.get gateDecisionID = some decision
  passed : decision.decision.passed = true
  evidence : decision.evidenceHash = evidenceHash
  unpaused : s.control.rolloutStageState.paused = false
  valid : s.control.rolloutStageState.stage.next = target

/-- What one call can do. -/
inductive RolloutEffect (s : RolloutStore) :
    RolloutOp → RolloutStore → Except StoreError RolloutReply → Prop
  | stored (op : Op) : RolloutEffect s (.store op)
      { s with store := (MemoryStore.apply rt ⟨call, op⟩ s.store).1 }
      ((MemoryStore.apply rt ⟨call, op⟩ s.store).2.map .store)
  | unchanged {op : RolloutOp} {reply : Except StoreError RolloutReply}
      (operates : op.operates = true) (quiet : ¬ Executed op reply) : RolloutEffect s op s reply
  | gateRecorded (command : RecordGateDecisionCommand) (record : GateDecisionRecord) :
      RolloutEffect s (.recordGateDecision command)
        { s with control := { s.control with
          gateDecisionRecords := s.control.gateDecisionRecords.set record.decisionID record } }
        (.ok (.gateDecision record))
  | authorized {command : RolloutTransitionCommand} {decision : GateDecisionRecord}
      (may : MayAdvance s command.target command.gateDecisionID command.evidenceHash decision)
      {next : RolloutStageState} (stage : next.stage = command.target)
      (version : next.version = s.control.rolloutStageState.version + 1)
      (unpaused : next.paused = false) :
      RolloutEffect s (.authorizeRolloutTransition command)
        { s with control := { s.control with rolloutStageState := next } } (.ok (.stageState next))
  | commanded {command : RolloutOperatorCommand} {requestHash : String}
      {changed : RolloutStageState} (applies : command.apply = true)
      (hash : command.requestHash rt = .ok requestHash)
      (unused : s.control.rolloutCommandHashes.get command.commandID = none)
      (allowed : operatorState command s.currentState s = .ok changed)
      {result : RolloutOperatorResult} (first : result.replayed = false) :
      RolloutEffect s (.applyRolloutCommand command)
        { s with control := { s.control with
          rolloutStageState := commandedState call command changed
          rolloutOperatorResults := s.control.rolloutOperatorResults.set command.commandID result
          rolloutCommandHashes :=
            s.control.rolloutCommandHashes.set command.commandID requestHash } }
        (.ok (.operator result))
  | gateApplied {command : RolloutGateOperatorCommand} {requestHash : String}
      (applies : command.apply = true) (hash : command.requestHash rt = .ok requestHash)
      (unused : s.control.rolloutCommandHashes.get command.commandID = none)
      (record : GateDecisionRecord) {result : RolloutGateOperatorResult}
      (first : result.replayed = false) :
      RolloutEffect s (.applyGateCommand command)
        { s with control := { s.control with
          gateDecisionRecords := s.control.gateDecisionRecords.set record.decisionID record
          rolloutCommandHashes :=
            s.control.rolloutCommandHashes.set command.commandID requestHash
          rolloutGateResults := s.control.rolloutGateResults.set command.commandID result } }
        (.ok (.gate result))
  | staged {command : RolloutStageOperatorCommand} {requestHash : String}
      {decision : GateDecisionRecord} (applies : command.apply = true)
      (hash : command.requestHash rt = .ok requestHash)
      (unused : s.control.rolloutCommandHashes.get command.commandID = none)
      (may : MayAdvance s command.target command.gateDecisionID command.evidenceHash decision)
      (drained : drainAllows command s = .ok ())
      {result : RolloutStageOperatorResult} (first : result.replayed = false) :
      RolloutEffect s (.applyStageCommand command)
        { s with control := { s.control with
          rolloutStageState := stagedState call command s
          rolloutCommandHashes :=
            s.control.rolloutCommandHashes.set command.commandID requestHash
          rolloutStageResults := s.control.rolloutStageResults.set command.commandID result } }
        (.ok (.stage result))
  | readinessApplied {command : ReadinessOperatorCommand} {requestHash : String}
      (applies : command.apply = true) (hash : command.requestHash rt = .ok requestHash)
      (unused : s.control.rolloutCommandHashes.get command.commandID = none)
      (record : ReadinessRecord) {result : ReadinessOperatorResult}
      (first : result.replayed = false) :
      RolloutEffect s (.applyReadinessCommand command)
        { s with control := { s.control with
          readinessRecords := s.control.readinessRecords.set record.readinessID record
          rolloutCommandHashes :=
            s.control.rolloutCommandHashes.set command.commandID requestHash
          readinessResults := s.control.readinessResults.set command.commandID result } }
        (.ok (.readiness result))
  | drained {op : RolloutOp} (is : op.operates = true ∧ op.applies = none) {drainID : String}
      {record : DrainRecord} {workflow : WorkflowVersion} {now : Time}
      {inventory : LegacyInventory}
      (inspected : s.store.inspectLegacyLocked rt workflow now = .ok inventory)
      (completed : record.status = .completed → inventory.empty = true) :
      RolloutEffect s op
        { s with control := { s.control with
          drainRecords := s.control.drainRecords.set drainID record } } (.ok (.drain record))

/-! ## Replays -/

variable {α : Type} {hashes : GoMap String} {results : GoMap α} {mark : α → α}
  {commandID requestHash : String}

theorem replay_none (first : replay hashes results mark commandID requestHash = none) :
    hashes.get commandID = none := by
  unfold replay at first
  split at first
  · assumption
  · split at first
    · cases first
    · split at first <;> cases first

variable {rt call} {s : RolloutStore} {op : RolloutOp} {reply : Except StoreError RolloutReply}

namespace RolloutEffect

theorem refused (operates : op.operates = true) {err : StoreError} :
    RolloutEffect rt call s op s (.error err) :=
  .unchanged operates fun executed => by
    obtain ⟨result, is, -⟩ := executed.first
    cases is

theorem marked {result : RolloutReply} (operates : op.operates = true)
    (replayed : result.replayed = true) : RolloutEffect rt call s op s (.ok result) :=
  .unchanged operates fun executed => by
    obtain ⟨same, is, first⟩ := executed.first
    cases is
    rw [replayed] at first
    cases first

theorem dry {apply : Bool} (is : op.operates = true ∧ op.applies = some apply)
    (dry : ¬ apply = true) : RolloutEffect rt call s op s reply :=
  .unchanged is.1 fun executed => dry (Option.some.inj (is.2.symm.trans executed.applies))

theorem answered {answer : Except StoreError α} {wrap : α → RolloutReply}
    (operates : op.operates = true)
    (found : replay hashes results mark commandID requestHash = some answer)
    (marks : ∀ existing, (wrap (mark existing)).replayed = true) :
    RolloutEffect rt call s op s (answer.map wrap) := by
  unfold replay at found
  repeat' split at found
  all_goals cases found
  · exact refused operates
  · exact refused operates
  · exact marked operates (marks _)

end RolloutEffect

/-- What a call does, when its result goes into the reply. -/
abbrev Effects (rt : Runtime) (call : Call) (s : RolloutStore) (op : RolloutOp) {α : Type}
    (wrap : α → RolloutReply) (outcome : RolloutStore × Except StoreError α) : Prop :=
  RolloutEffect rt call s op outcome.1 (outcome.2.map wrap)

@[simp] theorem currentState_stage : s.currentState.stage = s.control.rolloutStageState.stage := by
  unfold currentState
  dsimp only
  repeat' split
  all_goals rfl

@[simp] theorem currentState_version :
    s.currentState.version = s.control.rolloutStageState.version := by
  unfold currentState
  dsimp only
  repeat' split
  all_goals rfl

@[simp] theorem currentState_paused :
    s.currentState.paused = s.control.rolloutStageState.paused := by
  unfold currentState
  dsimp only
  repeat' split
  all_goals rfl

/-! ## Every call -/

theorem authorizeRolloutTransition_effect (command : RolloutTransitionCommand) :
    Effects rt call s (.authorizeRolloutTransition command) .stageState
      (authorizeRolloutTransition call command s) := by
  fun_cases authorizeRolloutTransition call command s <;> try exact .refused rfl
  next decision stored may valid _ _ =>
  simp only [not_or, Bool.not_eq_false, not_not, Bool.not_eq_true] at may valid
  exact .authorized ⟨stored, may.1, may.2.1, may.2.2, beq_iff_eq.mp valid⟩ rfl rfl may.2.2

theorem applyRolloutCommand_effect (command : RolloutOperatorCommand) :
    Effects rt call s (.applyRolloutCommand command) .operator
      (applyRolloutCommand rt call command s) := by
  fun_cases applyRolloutCommand rt call command s <;> try exact .refused rfl
  · next found => exact .answered rfl found fun _ => rfl
  · exact .marked rfl rfl
  · next hash first _ _ _ _ allowed _ _ applies =>
    exact .commanded applies hash (replay_none first) allowed rfl
  · next dry => exact .dry ⟨rfl, rfl⟩ dry

theorem applyGateCommand_effect (command : RolloutGateOperatorCommand) :
    Effects rt call s (.applyGateCommand command) .gate (applyGateCommand rt call command s) := by
  fun_cases applyGateCommand rt call command s <;> try exact .refused rfl
  · next found => exact .answered rfl found fun _ => rfl
  · next hash first _ _ _ _ applies => exact .gateApplied applies hash (replay_none first) _ rfl
  · next dry => exact .dry ⟨rfl, rfl⟩ dry

theorem applyStageCommand_effect (command : RolloutStageOperatorCommand) :
    Effects rt call s (.applyStageCommand command) .stage
      (applyStageCommand rt call command s) := by
  fun_cases applyStageCommand rt call command s <;> try exact .refused rfl
  · next found => exact .answered rfl found fun _ => rfl
  · next hash first current _ decision stored may _ drained _ _ applies =>
    simp only [not_or, Bool.not_eq_false, not_not, Bool.not_eq_true, current,
      currentState_paused, currentState_stage] at may
    exact .staged applies hash (replay_none first)
      ⟨stored, may.2.1, may.2.2.1, may.1, beq_iff_eq.mp may.2.2.2⟩ drained rfl
  · next dry => exact .dry ⟨rfl, rfl⟩ dry

theorem applyReadinessCommand_effect (command : ReadinessOperatorCommand) :
    Effects rt call s (.applyReadinessCommand command) .readiness
      (applyReadinessCommand rt call command s) := by
  fun_cases applyReadinessCommand rt call command s <;> try exact .refused rfl
  · next found => exact .answered rfl found fun _ => rfl
  · next hash first _ _ _ _ _ applies => exact .readinessApplied applies hash (replay_none first) _ rfl
  · next dry => exact .dry ⟨rfl, rfl⟩ dry

theorem beginDrain_effect (command : BeginDrainCommand) :
    Effects rt call s (.beginDrain command) .drain (beginDrain rt call command s) := by
  fun_cases beginDrain rt call command s <;> try exact .refused rfl
  next inspected record =>
  refine .drained ⟨rfl, rfl⟩ inspected fun completed => ?_
  dsimp only [record] at completed
  split at completed
  · assumption
  · cases completed

theorem refreshDrain_effect (drainID : String) (now : Time) :
    Effects rt call s (.refreshDrain drainID now) .drain (refreshDrain rt call drainID now s) := by
  fun_cases refreshDrain rt call drainID now s <;> try exact .refused rfl
  · exact .unchanged rfl fun executed => by cases executed.applies
  next inspected record =>
  refine .drained ⟨rfl, rfl⟩ inspected fun completed => ?_
  dsimp only [record] at completed
  split at completed
  · assumption
  · cases completed

theorem apply_effect (rt : Runtime) (input : RolloutInput) (s : RolloutStore) :
    RolloutEffect rt input.call s input.op (apply rt input s).1 (apply rt input s).2 := by
  obtain ⟨call, op⟩ := input
  cases op with
  | store op => exact .stored op
  | recordGateDecision command =>
    change Effects rt call s _ .gateDecision (recordGateDecision call command s)
    fun_cases recordGateDecision call command s
    · exact .refused rfl
    · exact .gateRecorded command _
  | authorizeRolloutTransition command => exact authorizeRolloutTransition_effect command
  | applyRolloutCommand command => exact applyRolloutCommand_effect command
  | applyGateCommand command => exact applyGateCommand_effect command
  | applyStageCommand command => exact applyStageCommand_effect command
  | applyReadinessCommand command => exact applyReadinessCommand_effect command
  | beginDrain command => exact beginDrain_effect command
  | refreshDrain drainID now => exact refreshDrain_effect drainID now

end RolloutStore

end PrdAgent.Runcontrol
