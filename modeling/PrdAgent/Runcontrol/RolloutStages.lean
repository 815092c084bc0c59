import Mathlib.Data.List.Destutter
import PrdAgent.Runcontrol.RolloutSteps

/-!
# Stages advance one gate at a time

Four entry points write the stage of a rollout; `rollout_stages_gated` says how. `ValidRolloutTransition`
looks a stage up in a map, and the last stage is not in it, so the empty target is a valid transition
from `LEGACY_RETIRED`. `ApplyStageCommand` refuses an empty target before; `AuthorizeRolloutTransition`
does not (`retired_to_empty_stage`).
-/

namespace PrdAgent.Runcontrol

open GoText AssocMap Transition

def stageChain : List RolloutStage := [.localOnly, .locallyVerified, .stagingShadow,
  .stagingEnforce, .productionCanary, .productionDefault, .legacyDrain, .legacyRetired]

def RolloutStage.onward (stage : RolloutStage) : List RolloutStage :=
  stageChain.dropWhile (· != stage)

theorem RolloutStage.onward_next {stage : RolloutStage} (mem : stage ∈ stageChain)
    (named : stage.next ≠ .other "") :
    stage.onward = stage :: stage.next.onward ∧ stage.next ∈ stageChain ∧ stage.next ≠ stage := by
  cases stage
  case other raw => simp [stageChain] at mem
  case legacyRetired => exact absurd rfl named
  all_goals decide

theorem RolloutStage.onward_eq_cons {stage : RolloutStage} (mem : stage ∈ stageChain) :
    ∃ rest, stage.onward = stage :: rest := by
  cases stage
  case other raw => simp [stageChain] at mem
  all_goals exact ⟨_, rfl⟩

/-- What a call that may advance the stage presents: target, gate decision and evidence. -/
def RolloutOp.presents : RolloutOp → Option (RolloutStage × String × String)
  | .authorizeRolloutTransition command =>
    some (command.target, command.gateDecisionID, command.evidenceHash)
  | .applyStageCommand command =>
    some (command.target, command.gateDecisionID, command.evidenceHash)
  | _ => none

/-- The command has an identifier under which its result is kept. -/
def RolloutOp.identified : RolloutOp → Bool
  | .applyRolloutCommand _ | .applyGateCommand _ | .applyStageCommand _
  | .applyReadinessCommand _ => true
  | _ => false

def RolloutOp.hasKind (kind : RolloutOperatorCommandKind) : RolloutOp → Bool
  | .applyRolloutCommand command => command.kind == kind
  | _ => false

def RolloutOp.moves : RolloutOp → Bool
  | .applyRolloutCommand _ | .applyStageCommand _ | .authorizeRolloutTransition _ => true
  | _ => false

def RolloutReply.marked : RolloutReply → RolloutReply
  | .operator result => .operator { result with replayed := true }
  | .gate result => .gate { result with replayed := true }
  | .stage result => .stage { result with replayed := true }
  | .readiness result => .readiness { result with replayed := true }
  | reply => reply

namespace RolloutStore

variable {rt : Runtime} {call : Call} {s t : RolloutStore} {op : RolloutOp}
  {reply : Except StoreError RolloutReply} {events : List RolloutEvent}

abbrev stage (s : RolloutStore) : RolloutStage := s.control.rolloutStageState.stage

abbrev paused (s : RolloutStore) : Bool := s.control.rolloutStageState.paused

abbrev version (s : RolloutStore) : Int := s.control.rolloutStageState.version

/-- `AuthorizeRolloutTransition` is called with a target. -/
def NamesTarget (_ : RolloutStore) (input : RolloutInput) : Prop :=
  match input.op with
  | .authorizeRolloutTransition command => command.target ≠ .other ""
  | _ => True

instance (s : RolloutStore) : (input : RolloutInput) → Decidable (NamesTarget s input)
  | ⟨_, .authorizeRolloutTransition command⟩ =>
    inferInstanceAs (Decidable (command.target ≠ .other ""))
  | ⟨_, .store _⟩ | ⟨_, .recordGateDecision _⟩ | ⟨_, .applyRolloutCommand _⟩
  | ⟨_, .applyGateCommand _⟩ | ⟨_, .applyStageCommand _⟩ | ⟨_, .applyReadinessCommand _⟩
  | ⟨_, .beginDrain _⟩ | ⟨_, .refreshDrain _ _⟩ => .isTrue trivial

/-! ## The stage state -/

/-- The rollout advances to the target of the call. -/
inductive Advances (s : RolloutStore) : RolloutOp → RolloutStage → Prop
  | authorized {command : RolloutTransitionCommand} {decision : GateDecisionRecord}
      (may : MayAdvance s command.target command.gateDecisionID command.evidenceHash decision) :
      Advances s (.authorizeRolloutTransition command) command.target
  | staged {command : RolloutStageOperatorCommand} {decision : GateDecisionRecord}
      (may : MayAdvance s command.target command.gateDecisionID command.evidenceHash decision)
      (named : command.target ≠ .other "") (drained : drainAllows command s = .ok ()) :
      Advances s (.applyStageCommand command) command.target

theorem Advances.may {target : RolloutStage} (advances : Advances s op target) :
    ∃ gateDecisionID evidenceHash decision,
      op.presents = some (target, gateDecisionID, evidenceHash) ∧
        MayAdvance s target gateDecisionID evidenceHash decision := by
  cases advances with
  | authorized may | staged may named drained => exact ⟨_, _, _, rfl, may⟩

theorem operatorState_stage {command : RolloutOperatorCommand} {current changed : RolloutStageState}
    (allowed : operatorState command current s = .ok changed) :
    changed.stage = current.stage ∧ changed.version = current.version := by
  unfold operatorState at allowed
  repeat' split at allowed
  all_goals cases allowed
  all_goals exact ⟨rfl, rfl⟩

theorem RolloutEffect.stage_cases (effect : RolloutEffect rt call s op t reply) :
    t.stage = s.stage ∨ Advances s op t.stage ∧ Executed op reply := by
  cases effect with
  | authorized may stage version unpaused =>
    have advances := Advances.authorized may
    rw [← stage] at advances
    exact .inr ⟨advances, rfl, _, rfl, rfl⟩
  | staged applies hash unused may drained first =>
    refine .inr ⟨.staged may (fun is => ?_) drained, congrArg some applies, _, rfl, first⟩
    unfold RolloutStageOperatorCommand.requestHash at hash
    rw [if_pos (.inr (.inr (.inl is)))] at hash
    cases hash
  | commanded applies hash unused allowed first =>
    exact .inl ((operatorState_stage allowed).1.trans currentState_stage)
  | _ => exact .inl rfl

theorem RolloutEffect.version_cases (effect : RolloutEffect rt call s op t reply) :
    (Executed op reply ∧ op.moves = true → t.version = s.version + 1) ∧
      (¬ (Executed op reply ∧ op.moves = true) →
        t.control.rolloutStageState = s.control.rolloutStageState) := by
  cases effect with
  | unchanged operates quiet => exact ⟨fun both => absurd both.1 quiet, fun _ => rfl⟩
  | authorized may stage version unpaused =>
    exact ⟨fun _ => version, fun not => absurd ⟨⟨rfl, _, rfl, rfl⟩, rfl⟩ not⟩
  | staged applies hash unused may drained first =>
    refine ⟨fun _ => ?_, fun not => absurd ⟨⟨congrArg some applies, _, rfl, first⟩, rfl⟩ not⟩
    exact congrArg (· + 1) currentState_version
  | commanded applies hash unused allowed first =>
    refine ⟨fun _ => ?_, fun not => absurd ⟨⟨congrArg some applies, _, rfl, first⟩, rfl⟩ not⟩
    exact congrArg (· + 1) ((operatorState_stage allowed).2.trans currentState_version)
  | drained is inspected completed =>
    refine ⟨fun both => ?_, fun _ => rfl⟩
    have applies := both.1.applies
    rw [is.2] at applies
    cases applies
  | _ => exact ⟨fun both => (by cases both.2), fun _ => rfl⟩

theorem operatorState_paused {command : RolloutOperatorCommand} {current changed : RolloutStageState}
    (allowed : operatorState command current s = .ok changed) :
    (command.kind = .pause ∨ command.kind = .rollback → changed.paused = true) ∧
      (command.kind ≠ .resume → current.paused = true → changed.paused = true) := by
  unfold operatorState at allowed
  cases kind : command.kind
  case pause | rollback =>
    rw [kind] at allowed
    dsimp only at allowed
    split at allowed
    · cases allowed
    · cases allowed
      exact ⟨fun _ => rfl, fun _ _ => rfl⟩
  case resume => exact ⟨fun is => by simp at is, fun ne => absurd rfl ne⟩
  all_goals
    rw [kind] at allowed
    cases allowed
    exact ⟨fun is => by simp at is, fun _ paused => paused⟩

section

variable (effect : RolloutEffect rt call s op t reply)

include effect

theorem RolloutEffect.paused_kept
    (paused : s.paused = true) (not : ¬ (Executed op reply ∧ op.hasKind .resume = true)) :
    t.paused = true := by
  cases effect with
  | authorized may stage version unpaused | staged applies hash unused may drained first =>
    exact absurd (may.unpaused.symm.trans paused) (by decide)
  | commanded applies hash unused allowed first =>
    refine (operatorState_paused allowed).2 (fun resume => not ?_)
      (currentState_paused.trans paused)
    exact ⟨⟨congrArg some applies, _, rfl, first⟩, beq_iff_eq.mpr resume⟩
  | _ => exact paused

theorem RolloutEffect.pauses
    (executed : Executed op reply) (kind : op.hasKind .pause = true ∨ op.hasKind .rollback = true) :
    t.paused = true := by
  cases effect with
  | unchanged operates quiet => exact absurd executed quiet
  | commanded applies hash unused allowed first =>
    exact (operatorState_paused allowed).1 (kind.imp beq_iff_eq.mp beq_iff_eq.mp)
  | drained is inspected completed =>
    have applies := executed.applies
    rw [is.2] at applies
    cases applies
  | _ => simp [RolloutOp.hasKind] at kind

theorem RolloutEffect.unchanged_of
    (operates : op.operates = true)
    (idle : (∃ err, reply = .error err) ∨ op.applies = some false) : t = s := by
  cases effect with
  | stored op => cases operates
  | unchanged operates quiet => rfl
  | drained is inspected completed =>
    rcases idle with ⟨err, is'⟩ | dry
    · cases is'
    · rw [is.2] at dry
      cases dry
  | gateRecorded | authorized =>
    rcases idle with ⟨err, is⟩ | dry
    · cases is
    · cases dry
  | commanded applies | gateApplied applies | staged applies | readinessApplied applies =>
    rcases idle with ⟨err, is⟩ | dry
    · cases is
    · cases applies.symm.trans (Option.some.inj dry)

end

/-! ## The chain of stages -/

def stages (s : RolloutStore) (events : List RolloutEvent) : List RolloutStage :=
  (s.stage :: events.map fun event => event.after.stage).destutter (· ≠ ·)

theorem apply_stage (rt : Runtime) (input : RolloutInput) (names : NamesTarget s input) :
    (apply rt input s).1.stage = s.stage ∨
      (apply rt input s).1.stage = s.stage.next ∧ s.stage.next ≠ .other "" := by
  rcases (apply_effect rt input s).stage_cases with same | ⟨advances, -⟩
  · exact .inl same
  obtain ⟨_, _, _, -, may⟩ := advances.may
  refine .inr ⟨may.valid.symm, may.valid ▸ ?_⟩
  obtain ⟨call, op⟩ := input
  generalize (apply rt ⟨call, op⟩ s).1.stage = target at advances ⊢
  cases advances with
  | authorized may => exact names
  | staged may named drained => exact named

theorem stages_onward (history : RolloutHistory rt NamesTarget s events t)
    (mem : s.stage ∈ stageChain) : stages s events <+: s.stage.onward := by
  unfold stages
  rw [List.destutter_cons']
  induction history with
  | nil s =>
    obtain ⟨rest, is⟩ := RolloutStage.onward_eq_cons mem
    rw [is]
    exact ⟨rest, rfl⟩
  | @cons s _ later input allowed _ ih =>
    rw [List.map_cons]
    rcases apply_stage rt input allowed.2 with same | ⟨next, named⟩
    · have kept := ih (same ▸ mem)
      rw [List.destutter'_cons_neg _ (not_not.mpr same.symm)]
      rw [same] at kept
      exact kept
    · obtain ⟨onward, mem', ne⟩ := RolloutStage.onward_next mem named
      have moved := ih (next ▸ mem')
      rw [List.destutter'_cons_pos _ (show s.stage ≠ _ from next ▸ ne.symm), onward]
      rw [next] at moved
      refine List.cons_prefix_cons.mpr ⟨rfl, ?_⟩
      change List.destutter' _ (apply rt input s).1.stage _ <+: _
      rw [next]
      exact moved

/-! ## A paused rollout -/

def Pauses (event : RolloutEvent) : Prop :=
  Executed event.input.op event.reply ∧
    (event.input.op.hasKind .pause = true ∨ event.input.op.hasKind .rollback = true)

def Resumes (event : RolloutEvent) : Prop :=
  Executed event.input.op event.reply ∧ event.input.op.hasKind .resume = true

/-- No call before an executed resume changes the stage of a paused rollout. -/
theorem stage_kept_while_paused {condition : RolloutStore → RolloutInput → Prop}
    (history : RolloutHistory rt condition s events t) (paused : s.paused = true)
    (held : ∀ event ∈ events, ¬ Resumes event) :
    ∀ event ∈ events, event.after.stage = event.before.stage := by
  induction history with
  | nil s => exact fun event mem => absurd mem List.not_mem_nil
  | @cons s _ _ input allowed _ ih =>
    have effect := apply_effect rt input s
    intro event mem
    rcases List.mem_cons.mp mem with rfl | mem
    · rcases effect.stage_cases with same | ⟨advances, -⟩
      · exact same
      · obtain ⟨_, _, _, -, may⟩ := advances.may
        exact absurd (may.unpaused.symm.trans paused) (by decide)
    · exact ih (effect.paused_kept paused (held _ (.head _)))
        (fun event mem => held event (.tail _ mem)) event mem

/-! ## Repeated commands -/

def recordedIn {α : Type} (hashes : GoMap String) (results : GoMap α)
    (commandID requestHash : String) : Option α :=
  if hashes.get commandID = some requestHash then results.get commandID else none

section Recorded

variable {α : Type} {hashes : GoMap String} {results : GoMap α}
  {commandID requestHash : String} {existing : α}

theorem recordedIn_eq_some : recordedIn hashes results commandID requestHash = some existing ↔
    hashes.get commandID = some requestHash ∧ results.get commandID = some existing := by
  unfold recordedIn
  split
  · next hash => simp [hash]
  · next hash => simp [hash]

theorem replay_of_recordedIn (mark : α → α)
    (recorded : recordedIn hashes results commandID requestHash = some existing) :
    replay hashes results mark commandID requestHash = some (.ok (mark existing)) := by
  obtain ⟨hash, result⟩ := recordedIn_eq_some.mp recorded
  unfold replay
  rw [hash]
  dsimp only
  rw [if_neg (not_not.mpr rfl), result]

end Recorded

def recordedFor {α : Type} (hashes : GoMap String) (results : GoMap α) (wrap : α → RolloutReply)
    (commandID : String) (requestHash : Except StoreError String) : Option RolloutReply :=
  requestHash.toOption.bind fun requestHash =>
    (recordedIn hashes results commandID requestHash).map wrap

theorem recordedFor_eq_some {α : Type} {hashes : GoMap String} {results : GoMap α}
    {wrap : α → RolloutReply} {commandID : String} {requestHash : Except StoreError String}
    {result : RolloutReply} :
    recordedFor hashes results wrap commandID requestHash = some result ↔
      ∃ hash existing, requestHash = .ok hash ∧
        recordedIn hashes results commandID hash = some existing ∧ wrap existing = result := by
  unfold recordedFor
  cases requestHash with
  | error err | ok hash => simp [Except.toOption]

/-- The result of the first application of a command. -/
def recorded (rt : Runtime) (control : RolloutControl) : RolloutOp → Option RolloutReply
  | .applyRolloutCommand command =>
    recordedFor control.rolloutCommandHashes control.rolloutOperatorResults .operator
      command.commandID (command.requestHash rt)
  | .applyGateCommand command =>
    recordedFor control.rolloutCommandHashes control.rolloutGateResults .gate
      command.commandID (command.requestHash rt)
  | .applyStageCommand command =>
    recordedFor control.rolloutCommandHashes control.rolloutStageResults .stage
      command.commandID (command.requestHash rt)
  | .applyReadinessCommand command =>
    recordedFor control.rolloutCommandHashes control.readinessResults .readiness
      command.commandID (command.requestHash rt)
  | _ => none

theorem apply_of_recorded (call : Call) {result : RolloutReply}
    (found : recorded rt s.control op = some result) :
    apply rt ⟨call, op⟩ s = (s, .ok result.marked) := by
  cases op
  case applyRolloutCommand | applyGateCommand | applyStageCommand | applyReadinessCommand =>
    obtain ⟨hash, existing, is, kept, rfl⟩ := recordedFor_eq_some.mp found
    simp only [apply, applyRolloutCommand, applyGateCommand, applyStageCommand,
      applyReadinessCommand, is, replay_of_recordedIn _ kept]
    rfl
  all_goals cases found

theorem RolloutEffect.records (effect : RolloutEffect rt call s op t reply)
    (executed : Executed op reply) (identified : op.identified = true) :
    ∃ result, reply = .ok result ∧ recorded rt t.control op = some result := by
  cases effect with
  | unchanged operates quiet => exact absurd executed quiet
  | drained is inspected completed =>
    have applies := executed.applies
    rw [is.2] at applies
    cases applies
  | commanded applies hash unused allowed first | gateApplied applies hash unused record first
  | staged applies hash unused may drained first
  | readinessApplied applies hash unused record first =>
    exact ⟨_, rfl, recordedFor_eq_some.mpr ⟨_, _, hash,
      recordedIn_eq_some.mpr ⟨get_set_self .., get_set_self ..⟩, rfl⟩⟩
  | _ => cases identified

theorem recordedFor_set {α : Type} {hashes : GoMap String} {results results' : GoMap α}
    {wrap : α → RolloutReply} {commandID otherID otherHash : String}
    {requestHash : Except StoreError String} {result : RolloutReply}
    (unused : hashes.get otherID = none)
    (kept : results' = results ∨ ∃ other, results' = results.set otherID other)
    (found : recordedFor hashes results wrap commandID requestHash = some result) :
    recordedFor (hashes.set otherID otherHash) results' wrap commandID requestHash =
      some result := by
  simp only [recordedFor_eq_some, recordedIn_eq_some] at found ⊢
  obtain ⟨hash, existing, is, ⟨hashed, stored⟩, wrapped⟩ := found
  have apart := ne_of_get unused hashed
  refine ⟨hash, existing, is, ⟨(get_set_ne _ _ apart).trans hashed, ?_⟩, wrapped⟩
  rcases kept with rfl | ⟨other, rfl⟩
  · exact stored
  · exact (get_set_ne _ _ apart).trans stored

theorem RolloutEffect.recorded_kept (effect : RolloutEffect rt call s op t reply)
    {command : RolloutOp} {result : RolloutReply}
    (found : recorded rt s.control command = some result) :
    recorded rt t.control command = some result := by
  cases effect with
  | commanded applies hash unused | gateApplied applies hash unused
  | staged applies hash unused | readinessApplied applies hash unused =>
    cases command
    case applyRolloutCommand | applyGateCommand | applyStageCommand | applyReadinessCommand =>
      first
        | exact recordedFor_set unused (.inl rfl) found
        | exact recordedFor_set unused (.inr ⟨_, rfl⟩) found
    all_goals cases found
  | _ => exact found

/-! ## Every history -/

/-- What holds of one call. -/
structure Orderly (event : RolloutEvent) : Prop where
  /-- The stage changes only while the rollout is not paused, with a stored gate decision that
  passed and has the evidence the call presents. -/
  gated : event.after.stage ≠ event.before.stage →
    event.before.paused = false ∧ ∃ gateDecisionID evidenceHash decision,
      event.input.op.presents = some (event.after.stage, gateDecisionID, evidenceHash) ∧
      event.before.control.gateDecisionRecords.get gateDecisionID = some decision ∧
      decision.decision.passed = true ∧ decision.evidenceHash = evidenceHash
  /-- An executed transition, pause, resume or rollback counts the version up by one. -/
  counted : Executed event.input.op event.reply → event.input.op.moves = true →
    event.after.version = event.before.version + 1
  /-- All other calls, gate commands among them, leave the stage state as it is. -/
  kept : ¬ (Executed event.input.op event.reply ∧ event.input.op.moves = true) →
    event.after.control.rolloutStageState = event.before.control.rolloutStageState
  /-- A failed call, or a command that is not to be applied, changes nothing. -/
  quiet : event.input.op.operates = true →
    (∃ err, event.reply = .error err) ∨ event.input.op.applies = some false →
      event.after = event.before

/-- In every history in which `AuthorizeRolloutTransition` names a target, the stages are those of
the chain in their order, every call is orderly, no stage is left between a pause or rollback and
the next resume, and a repeated command returns its first result and changes nothing. -/
theorem rollout_stages_gated {policy : QueuePolicy}
    (history : RolloutHistory rt NamesTarget (newRolloutStore policy) events t) :
    stages (newRolloutStore policy) events <+: stageChain ∧
    (∀ event ∈ events, Orderly event) ∧
    (∀ early event between late, events = early ++ event :: (between ++ late) → Pauses event →
      (∀ later ∈ between, ¬ Resumes later) →
        ∀ later ∈ between, later.after.stage = later.before.stage) ∧
    ∀ event ∈ events, Executed event.input.op event.reply → event.input.op.identified = true →
      ∃ result, event.reply = .ok result ∧
        ∀ call, apply rt ⟨call, event.input.op⟩ t = (t, .ok result.marked) := by
  refine ⟨stages_onward history (show RolloutStage.localOnly ∈ stageChain by decide),
    fun event mem => ?_, ?_, fun event mem executed identified => ?_⟩
  · obtain ⟨early, late, is, -, -, -⟩ := history.of_mem mem
    rw [is]
    have effect := apply_effect rt event.input event.before
    refine ⟨fun moved => ?_, fun executed moves => effect.version_cases.1 ⟨executed, moves⟩,
      effect.version_cases.2, effect.unchanged_of⟩
    rcases effect.stage_cases with same | ⟨advances, -⟩
    · exact absurd same moved
    · obtain ⟨gateDecisionID, evidenceHash, decision, presents, may⟩ := advances.may
      exact ⟨may.unpaused, gateDecisionID, evidenceHash, decision, presents, may.stored, may.passed,
        may.evidence⟩
  · intro early event between late split pauses held
    rw [split] at history
    obtain ⟨u, -, rest⟩ := history.split
    obtain ⟨is, -, after⟩ := rest.uncons
    obtain ⟨v, middle, -⟩ := after.split
    have effect := apply_effect rt event.input u
    refine stage_kept_while_paused middle ?_ held
    rw [is] at pauses ⊢
    exact effect.pauses pauses.1 pauses.2
  · obtain ⟨early, late, is, -, -, after⟩ := history.of_mem mem
    have effect := apply_effect rt event.input event.before
    have reply : event.reply = (apply rt event.input event.before).2 := congrArg (·.reply) is
    have next : event.after = (apply rt event.input event.before).1 := congrArg (·.after) is
    rw [reply] at executed
    obtain ⟨result, returned, kept⟩ := effect.records executed identified
    refine ⟨result, reply.trans returned, fun call => apply_of_recorded call ?_⟩
    -- its result is kept up to the later state
    rw [← next] at kept
    exact after.invariant (I := fun s => recorded rt s.control event.input.op = some result)
      (fun s input _ kept => (apply_effect rt input s).recorded_kept kept) kept

/-! ## After the last stage -/

def gatePassed : RolloutInput := ⟨.at 1 "a1", .applyGateCommand {
  commandID := "gate", expectedVersion := 1, manifestHash := "manifest", evidenceHash := "evidence"
  actorRef := "operator", apply := true
  manifest := {
    schemaVersion := "agent-runtime-gate.v1", candidateVersion := .v4, baselineVersion := .v1
    datasetHash := "dataset", minimumRepetitions := 1 }
  report := {
    datasetHash := "dataset", repetitions := 1, reportHash := "report", configHash := "config"
    candidate := .v4, baseline := .v1 } }⟩

def authorizedTo (expectedVersion : Int) (target : RolloutStage) : RolloutInput :=
  ⟨.at 2 "b1", .authorizeRolloutTransition {
    target := target, gateDecisionID := "rollout-gate-a1", policyVersion := "policy"
    evidenceHash := "evidence", expectedVersion := expectedVersion }⟩

def toRetirement : List RolloutInput := [gatePassed, authorizedTo 1 .locallyVerified,
  authorizedTo 2 .stagingShadow, authorizedTo 3 .stagingEnforce, authorizedTo 4 .productionCanary,
  authorizedTo 5 .productionDefault, authorizedTo 6 .legacyDrain, authorizedTo 7 .legacyRetired]

/-- From `LEGACY_RETIRED` the rollout goes on to the empty stage. -/
theorem retired_to_empty_stage : ∃ events t,
    RolloutHistory (.ofKnown {}) (fun _ _ => True) (newRolloutStore MemoryStore.oneSlot) events t ∧
    stages (newRolloutStore MemoryStore.oneSlot) events = stageChain ++ [.other ""] ∧
    ¬ stages (newRolloutStore MemoryStore.oneSlot) events <+: stageChain :=
  exists_run (toRetirement ++ [authorizedTo 8 (.other "")]) (by decide +kernel)

theorem rollout_stages_gated_to_retirement : ∃ events t,
    RolloutHistory (.ofKnown {}) NamesTarget (newRolloutStore MemoryStore.oneSlot) events t ∧
    t.stage = .legacyRetired ∧ stages (newRolloutStore MemoryStore.oneSlot) events = stageChain := by
  obtain ⟨events, t, history, retired, long⟩ : ∃ events t,
      RolloutHistory (.ofKnown {}) NamesTarget (newRolloutStore MemoryStore.oneSlot) events t ∧
      t.stage = .legacyRetired ∧
      8 ≤ (stages (newRolloutStore MemoryStore.oneSlot) events).length :=
    exists_run toRetirement (by decide +kernel)
  exact ⟨events, t, history, retired, (rollout_stages_gated history).1.eq_of_length_le long⟩

end RolloutStore

end PrdAgent.Runcontrol
