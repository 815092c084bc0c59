import PrdAgent.Runcontrol.RunProvision
import PrdAgent.Runcontrol.RolloutStages

/-!
# Retiring the legacy workflow

`ApplyStageCommand` enters `LEGACY_RETIRED` only with a completed drain. The drain looked at the
legacy inventory when it completed, not when the stage changes, and `AuthorizeRolloutTransition`
asks for no drain at all. A drained store stays so (`apply_drained`) as long as no call starts a run of
the legacy workflow or puts a dispatch of one under way: every other entry of the inventory is
written under the lease of a run that has not ended.
-/

namespace PrdAgent.Runcontrol

open AssocMap

def DispatchStatus.active (status : DispatchStatus) : Bool :=
  status == .started || status == .running

def LedgerStatus.pending (status : LedgerStatus) : Bool :=
  status == .reserved || status == .callStarted || status == .outcomeUnknown

namespace MemoryStore

variable {rt : Runtime} {call : Call} {s t : MemoryStore} {input : Input}

/-! ## The legacy inventory -/

/-- The run is stored and belongs to the legacy workflow. -/
def Legacy (s : MemoryStore) (runID : String) : Prop :=
  ∃ run, s.runs.get runID = some run ∧ run.workflowVersion = .v1

variable {runID : String}

theorem runOfWorkflow_iff (keyed : s.runs.Keyed AgentRun.runID) :
    s.runOfWorkflow .v1 runID = true ↔ s.Legacy runID := by
  unfold runOfWorkflow
  rw [any_values]
  simp only [Bool.and_eq_true, beq_iff_eq]
  constructor
  · rintro ⟨key, run, stored, legacy, rfl⟩
    exact ⟨run, (keyed key run stored).symm ▸ stored, legacy⟩
  · rintro ⟨run, stored, legacy⟩
    exact ⟨runID, run, stored, legacy, keyed runID run stored⟩

/-- Nothing of the legacy workflow is under way. -/
structure Drained (s : MemoryStore) : Prop where
  runs : ∀ runID run, s.runs.get runID = some run → run.workflowVersion = .v1 →
    run.status.terminal = true
  dispatches : ∀ dispatchID dispatch, s.dispatches.get dispatchID = some dispatch →
    s.Legacy dispatch.runID → dispatch.status.active = false
  outbox : ∀ messageID entry, s.outbox.get messageID = some entry →
    s.Legacy entry.message.aggregateID → entry.published = true
  ledger : ∀ key entry, s.ledgerEntries.get key = some entry → s.Legacy entry.runID →
    entry.status.pending = false
  snapshots : ∀ runID checkpoint, s.checkpoints.get runID = some checkpoint → s.Legacy runID →
    checkpoint.sequence ≤ 0

variable {now : Time}

/-- The inventory is empty just when nothing is under way. -/
theorem inspectLegacyLocked_empty_iff (keyed : s.runs.Keyed AgentRun.runID)
    {inventory : LegacyInventory} (inspected : s.inspectLegacyLocked rt .v1 now = .ok inventory) :
    inventory.empty = true ↔ Drained s := by
  unfold inspectLegacyLocked at inspected
  rw [if_neg (not_not.mpr rfl)] at inspected
  cases inspected
  have snapshots (runID : String) (checkpoint : MemoryCheckpoint) :
      (if s.runOfWorkflow .v1 runID && decide (0 < checkpoint.sequence) then 1 else 0) = 0 ↔
        (s.Legacy runID → checkpoint.sequence ≤ 0) := by
    rw [← runOfWorkflow_iff keyed]
    cases s.runOfWorkflow .v1 runID <;> simp
  simp only [LegacyInventory.empty, Bool.and_eq_true, beq_iff_eq, count_eq_zero_iff,
    total_eq_zero_iff, Bool.and_eq_false_imp, Bool.not_eq_false', and_true,
    runOfWorkflow_iff keyed, snapshots]
  constructor
  · rintro ⟨⟨⟨⟨runs, dispatches⟩, outbox⟩, ledger⟩, snapshots⟩
    exact ⟨runs, dispatches, outbox, ledger, snapshots⟩
  · intro drained
    exact ⟨⟨⟨⟨drained.runs, drained.dispatches⟩, drained.outbox⟩, drained.ledger⟩, drained.snapshots⟩

theorem Drained.inspected (drained : Drained s) (keyed : s.runs.Keyed AgentRun.runID)
    (rt : Runtime) (now : Time) : ∃ inventory, s.inspectLegacyLocked rt .v1 now = .ok inventory ∧
      inventory.empty = true :=
  ⟨_, rfl, (inspectLegacyLocked_empty_iff keyed rfl).mpr drained⟩

/-! ## New messages -/

/-- A message is a later state of an earlier one, or it is about a queued run. -/
def Requests (s t : MemoryStore) : Prop :=
  ∀ messageID entry, t.outbox.get messageID = some entry →
    (∃ before, s.outbox.get messageID = some before ∧
      entry.message.aggregateID = before.message.aggregateID ∧
      (before.published = true → entry.published = true)) ∨
    ∃ run, t.runs.get entry.message.aggregateID = some run ∧ run.status = .queued

theorem Requests.of_eq (outbox : t.outbox = s.outbox) : Requests s t := by
  intro messageID entry stored
  rw [outbox] at stored
  exact .inl ⟨entry, stored, rfl, id⟩

variable {run : AgentRun}

theorem Requests.dispatch {reason : String}
    (outbox : t.outbox = s.requestDispatchLocked run reason now)
    (stored : t.runs.get run.runID = some run) : Requests s t := by
  unfold requestDispatchLocked addRunRequestOutboxLocked at outbox
  split at outbox
  · next queued =>
    intro messageID entry found
    rw [outbox] at found
    rcases get_set_eq_some found with ⟨-, rfl⟩ | ⟨-, kept⟩
    · exact .inr ⟨run, stored, queued⟩
    · exact .inl ⟨entry, kept, rfl, id⟩
  · exact .of_eq outbox

theorem Creation.requests {op : Op} (creation : Creation rt call s op t) : Requests s t := by
  cases creation with
  | none _ _ _ _ outbox => exact .of_eq outbox
  | one origin provides =>
    obtain ⟨reason, outbox⟩ := provides.outbox
    refine .dispatch outbox ?_
    rw [provides.runs, origin.freshID]
    exact get_set_self ..

theorem promoteAll_requests (now : Time) (ordered : List AgentRun) (s : MemoryStore)
    (promoted : List AgentRun) (keyed : s.runs.Keyed AgentRun.runID) :
    Requests s (promoteAll now ordered s promoted).1 ∧
      ∀ runID run, s.runs.get runID = some run → run.status = .queued →
        ∃ run', (promoteAll now ordered s promoted).1.runs.get runID = some run' ∧
          run'.status = .queued := by
  induction ordered generalizing s promoted with
  | nil => exact ⟨.of_eq rfl, fun runID run stored queued => ⟨run, stored, queued⟩⟩
  | cons candidate rest ih =>
    unfold promoteAll promoteOne
    dsimp only
    split
    · exact ih s promoted keyed
    split
    · exact ih s promoted keyed
    next run stored =>
    obtain ⟨requests, stay⟩ := ih { s with
        runs := s.runs.set run.runID
          { run with status := .queued, queueSlotAcquired := true, updatedAt := now }
        lastScheduled := s.lastScheduled.set (scheduleOwnerKey run.tenantID run.ownerID) now
        outbox := s.addRunRequestOutboxLocked
          { run with status := .queued, queueSlotAcquired := true, updatedAt := now }
          "CAPACITY_AVAILABLE" now } (promoted ++ [_]) (keyed.set rfl)
    refine ⟨fun messageID entry found => ?_, fun runID other kept queued => ?_⟩
    · rcases requests messageID entry found with ⟨before, held, about, published⟩ | late
      · rcases get_set_eq_some held with ⟨-, rfl⟩ | ⟨-, held⟩
        · refine .inr ?_
          rw [about]
          exact stay run.runID _ (get_set_self _ _ _) rfl
        · exact .inl ⟨before, held, about, published⟩
      · exact .inr late
    · by_cases here : runID = run.runID
      · rw [here]
        exact stay run.runID _ (get_set_self _ _ _) rfl
      · exact stay runID other ((get_set_ne _ _ here).trans kept) queued

theorem claimEntries_requests {limit : Int} {visited : List (String × MemoryOutbox)}
    {items : List OutboxMessage} {outbox : GoMap MemoryOutbox}
    (stored : ∀ item ∈ visited, s.outbox.get item.1 = some item.2)
    (requests : Requests s { s with outbox := outbox }) :
    Requests s { s with outbox := (claimEntries limit now visited outbox items).1 } := by
  induction visited generalizing items outbox with
  | nil => exact requests
  | cons item rest ih =>
    obtain ⟨key, entry⟩ := item
    have here : s.outbox.get key = some entry := stored _ (.head _)
    have later := fun item mem => stored item (.tail _ mem)
    unfold claimEntries
    split
    · exact ih later requests
    · refine ih later fun messageID after found => ?_
      rcases get_set_eq_some found with ⟨rfl, rfl⟩ | ⟨-, kept⟩
      · exact .inl ⟨entry, here, rfl, id⟩
      · exact requests messageID after kept

theorem apply_requests (rt : Runtime) (input : Input) (keyed : s.runs.Keyed AgentRun.runID) :
    Requests s (apply rt input s).1 := by
  obtain ⟨call, op⟩ := input
  cases op
  case createTaskWithRun | retryTask | confirmOutline | confirmConfirmationUnit |
      reopenConfirmationUnit =>
    exact (apply_creation rt ⟨call, _⟩ s rfl).requests
  case promoteWaiting now => exact (promoteAll_requests now _ s [] keyed).1
  case claimOutbox limit now =>
    refine claimEntries_requests (fun item mem => ?_) (.of_eq rfl)
    exact (mem_range (call.order_perm _)).mp mem
  case markOutboxPublished | markOutboxFailed =>
    dsimp only [apply, replying, markOutboxPublished, markOutboxFailed, fail]
    split
    · exact .of_eq rfl
    · next stored =>
      intro other entry found
      rcases get_set_eq_some found with ⟨rfl, rfl⟩ | ⟨-, kept⟩
      · exact .inl ⟨_, stored, rfl, by simp⟩
      · exact .inl ⟨entry, kept, rfl, id⟩
  all_goals exact .of_eq (apply_frame rt ⟨call, _⟩ s .outbox (by simp))

/-! ## A drained store stays drained -/

/-- The call would start a run of the legacy workflow, or put a dispatch of one under way. -/
def startsLegacy (rt : Runtime) (input : Input) (s : MemoryStore) : Bool :=
  match input.op with
  | .createTaskWithRun tenantID ownerID _ _ =>
    match assignWorkflow rt s.policy tenantID ownerID (input.call.newID "task") with
    | .ok (workflow, _) => workflow == .v1
    | .error _ => false
  | .retryTask _ _ taskID _ _ => s.inheritedWorkflow input.call taskID == .v1
  | .reopenConfirmationUnit _ _ taskID _ _ _ _ =>
    (s.reviewOutlines.get taskID).isNone && s.inheritedWorkflow input.call taskID == .v1
  | .createDispatch dispatch =>
    s.runOfWorkflow .v1 dispatch.runID &&
      (dispatch.status.active || dispatch.status == .other "")
  | .updateDispatch dispatchID status _ _ =>
    status.active && (s.dispatches.get dispatchID).any fun dispatch =>
      s.runOfWorkflow .v1 dispatch.runID
  | _ => false

theorem Drained.legacyRun (drained : Drained s) (keyed : s.runs.Keyed AgentRun.runID)
    (fresh : Fresh s input) (quiet : startsLegacy rt input s = false)
    (stored : (apply rt input s).1.runs.get runID = some run)
    (legacy : run.workflowVersion = .v1) : s.Legacy runID ∧ run.status.terminal = true := by
  rcases apply_run_cases fresh keyed stored with ⟨before, found, descends, -⟩ | created
  · have old : before.workflowVersion = .v1 := descends.workflowVersion.symm.trans legacy
    refine ⟨⟨before, found, old⟩, ?_⟩
    have ended := drained.runs runID before found old
    cases live : run.status.terminal with
    | true => rfl
    | false => cases ended.symm.trans (descends.live live)
  · obtain ⟨provision, origin, -, -, rfl⟩ := created
    obtain ⟨call, op⟩ := input
    cases origin with
    | started admitted assigned planned =>
      simp only [startsLegacy, assigned, beq_eq_false_iff_ne] at quiet
      exact absurd legacy quiet
    | retried | draftReopened =>
      have inherited : s.inheritedWorkflow call _ = .v1 := legacy
      simp [startsLegacy, *] at quiet
    | outlineLocked | nextUnit | fullReview | revision => cases legacy

theorem Drained.leased (drained : Drained s) {lease : LeaseContext}
    (stored : s.runs.get lease.runID = some run) (valid : validLease run lease now = true) :
    ¬ s.Legacy lease.runID := by
  rintro ⟨same, found, legacy⟩
  cases stored.symm.trans found
  have ended := drained.runs _ _ stored legacy
  rcases validLease_held valid with status | status <;> rw [status] at ended <;> cases ended

theorem Drained.dispatch (drained : Drained s) (keyed : s.runs.Keyed AgentRun.runID)
    (quiet : startsLegacy rt input s = false) {dispatchID : String} {dispatch : AgentDispatch}
    (stored : (apply rt input s).1.dispatches.get dispatchID = some dispatch)
    (legacy : s.Legacy dispatch.runID) : dispatch.status.active = false := by
  obtain ⟨call, op⟩ := input
  have workflow := (runOfWorkflow_iff keyed).mpr legacy
  have old (kept : s.dispatches.get dispatchID = some dispatch) :=
    drained.dispatches dispatchID dispatch kept legacy
  have kept (same : (apply rt ⟨call, op⟩ s).1.dispatches = s.dispatches) := old (same ▸ stored)
  cases op
  case createDispatch created =>
    dsimp only [apply, replying] at stored
    unfold createDispatch fail at stored
    dsimp only at stored
    iterate 3
      split at stored
      · exact old stored
    split at stored
    · split at stored <;> exact old stored
    rcases get_set_eq_some stored with ⟨-, rfl⟩ | ⟨-, stored⟩
    · -- a dispatch without a status would be started
      have settled : created.status.active = false ∧ created.status ≠ .other "" := by
        simpa [startsLegacy, workflow] using quiet
      dsimp only
      rw [if_neg settled.2]
      exact settled.1
    · exact old stored
  case updateDispatch changedID status lastError finishedAt =>
    dsimp only [apply, replying] at stored
    unfold updateDispatch fail at stored
    dsimp only at stored
    split at stored
    · exact old stored
    next before found =>
    rcases get_set_eq_some stored with ⟨-, rfl⟩ | ⟨-, stored⟩
    · have run : s.runOfWorkflow .v1 before.runID = true := workflow
      simpa [startsLegacy, found, run] using quiet
    · exact old stored
  all_goals exact kept (apply_frame rt ⟨call, _⟩ s .dispatches (by simp))

theorem Drained.entry (drained : Drained s) {key : String} {entry : LedgerEntry}
    (stored : (apply rt input s).1.ledgerEntries.get key = some entry)
    (legacy : s.Legacy entry.runID) : entry.status.pending = false := by
  have effect := apply_ledger rt input s
  generalize (apply rt input s).1 = t at effect stored
  have old (found : s.ledgerEntries.get key = some entry) := drained.ledger key entry found legacy
  cases effect with
  | kept _ entries | opened _ _ entries => exact old (entries ▸ stored)
  | stepped step =>
    obtain ⟨call, op⟩ := input
    cases step with
    | reserved leased unused kind allowed =>
      obtain ⟨run, found, valid⟩ := leased
      rcases get_set_eq_some stored with ⟨-, rfl⟩ | ⟨-, stored⟩
      · exact absurd legacy (drained.leased found valid)
      · exact old stored
    | started found status | finished leased found status ended =>
      rcases get_set_eq_some stored with ⟨-, rfl⟩ | ⟨-, stored⟩
      · have settled := drained.ledger _ _ found legacy
        rw [status] at settled
        cases settled
      · exact old stored
    | consumed leased unused kind allowed =>
      rcases get_set_eq_some stored with ⟨-, rfl⟩ | ⟨-, stored⟩
      · rfl
      · exact old stored

theorem Drained.snapshot (drained : Drained s) {checkpoint : MemoryCheckpoint}
    (stored : (apply rt input s).1.checkpoints.get runID = some checkpoint)
    (legacy : s.Legacy runID) : checkpoint.sequence ≤ 0 := by
  obtain ⟨call, op⟩ := input
  have old (kept : s.checkpoints.get runID = some checkpoint) :=
    drained.snapshots runID checkpoint kept legacy
  have kept (same : (apply rt ⟨call, op⟩ s).1.checkpoints = s.checkpoints) := old (same ▸ stored)
  cases op
  case saveCheckpoint lease sequence content =>
    dsimp only [apply, replying] at stored
    unfold saveCheckpoint fail at stored
    dsimp only at stored
    split at stored
    · exact old stored
    next run leased =>
    obtain ⟨found, valid⟩ := validateLeaseLocked_ok leased
    split at stored
    · exact old stored
    split at stored
    · exact old stored
    split at stored
    · split at stored <;> exact old stored
    rcases get_set_eq_some stored with ⟨rfl, -⟩ | ⟨-, stored⟩
    · exact absurd legacy (drained.leased found valid)
    · exact old stored
  all_goals exact kept (apply_frame rt ⟨call, _⟩ s .checkpoints (by simp))

theorem apply_drained (keyed : s.runs.Keyed AgentRun.runID) (fresh : Fresh s input)
    (quiet : startsLegacy rt input s = false) (drained : Drained s) :
    Drained (apply rt input s).1 := by
  have before {runID : String} (legacy : (apply rt input s).1.Legacy runID) : s.Legacy runID := by
    obtain ⟨run, stored, old⟩ := legacy
    exact (drained.legacyRun keyed fresh quiet stored old).1
  refine ⟨fun runID run stored legacy => (drained.legacyRun keyed fresh quiet stored legacy).2,
    fun _ _ stored legacy => drained.dispatch keyed quiet stored (before legacy),
    fun messageID entry stored legacy => ?_,
    fun _ _ stored legacy => drained.entry stored (before legacy),
    fun _ _ stored legacy => drained.snapshot stored (before legacy)⟩
  rcases apply_requests rt input keyed messageID entry stored with
    ⟨earlier, found, about, published⟩ | ⟨run, queuedRun, queued⟩
  · exact published (drained.outbox messageID earlier found (about ▸ before legacy))
  · -- a queued run has not ended
    obtain ⟨same, found, old⟩ := legacy
    cases queuedRun.symm.trans found
    have ended := (drained.legacyRun keyed fresh quiet found old).2
    rw [queued] at ended
    cases ended

end MemoryStore

namespace RolloutStore

variable {rt : Runtime} {call : Call} {s t : RolloutStore} {input : RolloutInput}

/-! ## The stage `LEGACY_RETIRED` -/

def drainCompleted (s : RolloutStore) : Bool :=
  s.control.drainRecords.values.any (·.status == .completed)

/-- Once a drain is completed, no call starts legacy work again, and `LEGACY_RETIRED` is entered
only by `ApplyStageCommand`, which asks for the drain. -/
def LegacySettled (rt : Runtime) (s : RolloutStore) (input : RolloutInput) : Prop :=
  match input.op with
  | .store op => s.drainCompleted = true → s.store.startsLegacy rt ⟨input.call, op⟩ = false
  | .authorizeRolloutTransition command => command.target ≠ .legacyRetired
  | _ => True

instance (rt : Runtime) (s : RolloutStore) :
    (input : RolloutInput) → Decidable (LegacySettled rt s input)
  | ⟨call, .store op⟩ => inferInstanceAs (Decidable (s.drainCompleted = true →
      s.store.startsLegacy rt ⟨call, op⟩ = false))
  | ⟨_, .authorizeRolloutTransition command⟩ =>
    inferInstanceAs (Decidable (command.target ≠ .legacyRetired))
  | ⟨_, .recordGateDecision _⟩ | ⟨_, .applyRolloutCommand _⟩ | ⟨_, .applyGateCommand _⟩
  | ⟨_, .applyStageCommand _⟩ | ⟨_, .applyReadinessCommand _⟩ | ⟨_, .beginDrain _⟩
  | ⟨_, .refreshDrain _ _⟩ => .isTrue trivial

/-- Runs are stored under their identifiers, and a completed drain is one of a drained store. -/
structure DrainSound (s : RolloutStore) : Prop where
  keyed : s.store.runs.Keyed AgentRun.runID
  drained : s.drainCompleted = true → s.store.Drained

theorem DrainSound.initial (policy : QueuePolicy) : DrainSound (newRolloutStore policy) :=
  ⟨.empty _, nofun⟩

theorem drainCompleted_iff : s.drainCompleted = true ↔
    ∃ drainID drain, s.control.drainRecords.get drainID = some drain ∧
      drain.status = .completed := by
  unfold drainCompleted
  rw [any_values]
  simp only [beq_iff_eq]

theorem DrainSound.step (sound : DrainSound s) (fresh : Fresh s input)
    (settled : LegacySettled rt s input) : DrainSound (apply rt input s).1 := by
  obtain ⟨call, op⟩ := input
  have effect := apply_effect rt ⟨call, op⟩ s
  generalize apply rt ⟨call, op⟩ s = outcome at effect ⊢
  obtain ⟨t, reply⟩ := outcome
  dsimp only at effect ⊢
  cases effect with
  | stored op =>
    exact ⟨MemoryStore.apply_keyed rt fresh sound.keyed, fun completed =>
      MemoryStore.apply_drained sound.keyed fresh (settled completed) (sound.drained completed)⟩
  | drained is inspected completed =>
    refine ⟨sound.keyed, fun found => ?_⟩
    obtain ⟨drainID, drain, stored, status⟩ := drainCompleted_iff.mp found
    rcases get_set_eq_some stored with ⟨-, rfl⟩ | ⟨-, stored⟩
    · -- this drain has just found nothing
      have legacy := inspected
      unfold MemoryStore.inspectLegacyLocked at legacy
      split at legacy
      · cases legacy
      · next v1 =>
        rw [not_not.mp v1] at inspected
        exact (MemoryStore.inspectLegacyLocked_empty_iff sound.keyed inspected).mp (completed status)
    · exact sound.drained (drainCompleted_iff.mpr ⟨drainID, drain, stored, status⟩)
  | _ => exact ⟨sound.keyed, sound.drained⟩

theorem RolloutEffect.retires {op : RolloutOp} {reply : Except StoreError RolloutReply}
    (effect : RolloutEffect rt call s op t reply) (settled : LegacySettled rt s ⟨call, op⟩)
    (before : s.stage ≠ .legacyRetired) (after : t.stage = .legacyRetired) :
    t.drainCompleted = true := by
  cases effect with
  | authorized may stage version unpaused => exact absurd (stage.symm.trans after) settled
  | staged applies hash unused may drained first =>
    unfold drainAllows at drained
    split at drained
    case isFalse other => exact absurd after other
    split at drained
    · cases drained
    next drain stored =>
    split at drained
    · cases drained
    next found =>
    simp only [not_or, ne_eq, not_not] at found
    exact drainCompleted_iff.mpr ⟨_, drain, stored, found.1⟩
  | commanded applies hash unused allowed first =>
    have same := (operatorState_stage allowed).1.trans currentState_stage
    exact absurd (same.symm.trans after) before
  | _ => exact absurd after before

/-- When the rollout enters `LEGACY_RETIRED`, a drain is completed and nothing of the legacy
workflow is left. -/
theorem legacy_retired_drained {policy : QueuePolicy} {events : List RolloutEvent}
    (history : RolloutHistory rt (LegacySettled rt) (newRolloutStore policy) events t) :
    ∀ event ∈ events, event.before.stage ≠ .legacyRetired → event.after.stage = .legacyRetired →
      (∃ drainID drain, event.after.control.drainRecords.get drainID = some drain ∧
        drain.status = .completed) ∧
      ∀ now, ∃ inventory, event.after.store.inspectLegacyLocked rt .v1 now = .ok inventory ∧
        inventory.activeRunCount = 0 ∧ inventory.activeDispatchCount = 0 ∧
        inventory.snapshotCount = 0 ∧ inventory.nonTerminalLedgerCount = 0 ∧
        inventory.unpublishedOutboxCount = 0 := by
  intro event mem before after
  obtain ⟨early, late, is, allowed, earlier, -⟩ := history.of_mem mem
  have sound : DrainSound event.before := earlier.invariant
    (fun _ _ allowed sound => sound.step allowed.1 allowed.2) (.initial policy)
  have next : event.after = (apply rt event.input event.before).1 := congrArg (·.after) is
  rw [next] at after ⊢
  have completed := (apply_effect rt event.input event.before).retires allowed.2 before after
  have drained := sound.step allowed.1 allowed.2
  refine ⟨drainCompleted_iff.mp completed, fun now => ?_⟩
  obtain ⟨inventory, inspected, empty⟩ :=
    (drained.drained completed).inspected drained.keyed rt now
  simp only [LegacyInventory.empty, Bool.and_eq_true, beq_iff_eq] at empty
  obtain ⟨⟨⟨⟨⟨runs, dispatches⟩, outbox⟩, ledger⟩, snapshots⟩, -⟩ := empty
  exact ⟨inventory, inspected, runs, dispatches, snapshots, ledger, outbox⟩

/-! ## Legacy work after the drain -/

def legacyDefault : QueuePolicy := { MemoryStore.oneSlot with
  rolloutPolicy := some {
    policyVersion := "policy", defaultWorkflow := .v1, canaryBasisPoints := 0, shadow := false
    emergencyDeny := ∅, explicitV4Tasks := ∅, internalOwners := ∅ } }

def toDrain : List RolloutInput := [gatePassed, authorizedTo 1 .locallyVerified,
  authorizedTo 2 .stagingShadow, authorizedTo 3 .stagingEnforce, authorizedTo 4 .productionCanary,
  authorizedTo 5 .productionDefault, authorizedTo 6 .legacyDrain]

def legacyStarted : RolloutInput :=
  ⟨.at 1 "a1", .store (.createTaskWithRun "tenant" "owner" "message" "key")⟩

def legacyEnded : List RolloutInput := [
  ⟨.at 2 "b1", .store (.acquireRun "run-a1" "worker" 2 50)⟩,
  ⟨.at 3 "b2", .store (.markOutboxPublished "outbox-run-a1")⟩,
  ⟨.at 4 "b3", .store (.completeRun MemoryStore.firstLease .succeeded 4)⟩]

def drainBegun : RolloutInput :=
  ⟨.at 5 "d1", .beginDrain { workflowVersion := .v1, evidenceHash := "evidence" }⟩

def legacyRetired : RolloutInput := ⟨.at 6 "e1", .applyStageCommand {
  commandID := "retire", expectedVersion := 7, target := .legacyRetired
  gateDecisionID := "rollout-gate-a1", policyVersion := "policy", evidenceHash := "evidence"
  drainID := "rollout-drain-d1", removalInventoryHash := "removal", readerObservationHash := "reader"
  actorRef := "operator", apply := true }⟩

def startedAfterDrain : List RolloutInput := toDrain ++ [drainBegun, legacyStarted]

def endedBeforeDrain : List RolloutInput := toDrain ++ legacyStarted :: legacyEnded ++ [drainBegun]

/-- A legacy run started after the drain is under way when the workflow is retired. -/
theorem legacy_run_after_drain : ∃ events event t,
    RolloutHistory (.ofKnown {}) (fun _ _ => True) (newRolloutStore legacyDefault)
      (events ++ [event]) t ∧
    event.before.stage = .legacyDrain ∧ event.after.stage = .legacyRetired ∧
    ∃ inventory, event.after.store.inspectLegacyLocked (.ofKnown {}) .v1 0 = .ok inventory ∧
      inventory.activeRunCount = 1 ∧ inventory.unpublishedOutboxCount = 1 := by
  obtain ⟨events, event, history, facts⟩ : ∃ events event,
      RolloutHistory (.ofKnown {}) (fun _ _ => True) (newRolloutStore legacyDefault)
        (events ++ [event]) event.after ∧
      event.before.stage = .legacyDrain ∧ event.after.stage = .legacyRetired ∧
      ∃ inventory, event.after.store.inspectLegacyLocked (.ofKnown {}) .v1 0 = .ok inventory ∧
        inventory.activeRunCount = 1 ∧ inventory.unpublishedOutboxCount = 1 :=
    Transition.exists_run_concat startedAfterDrain legacyRetired (by decide +kernel)
  exact ⟨events, event, _, history, facts⟩

theorem legacy_retired_drained_ended : ∃ events event t,
    RolloutHistory (.ofKnown {}) (LegacySettled (.ofKnown {})) (newRolloutStore legacyDefault)
      (events ++ [event]) t ∧
    event.before.stage = .legacyDrain ∧ event.after.stage = .legacyRetired ∧
    ∃ drainID drain, event.after.control.drainRecords.get drainID = some drain ∧
      drain.status = .completed := by
  obtain ⟨events, event, history, before, after⟩ : ∃ events event,
      RolloutHistory (.ofKnown {}) (LegacySettled (.ofKnown {})) (newRolloutStore legacyDefault)
        (events ++ [event]) event.after ∧
      event.before.stage = .legacyDrain ∧ event.after.stage = .legacyRetired :=
    Transition.exists_run_concat endedBeforeDrain legacyRetired (by decide +kernel)
  have retired := legacy_retired_drained history _ (List.mem_append_right _ (.head _))
    (fun same => absurd (before.symm.trans same) (by decide)) after
  exact ⟨events, event, _, history, before, after, retired.1⟩

end RolloutStore

end PrdAgent.Runcontrol
