import PrdAgent.Runcontrol.RunProvision

/-!
# What the store holds goes on

Whatever calls follow, the store takes nothing back. Tasks, runs, publishes and ledger entries move on,
each in its own direction, and a run keeps what it was provided with (`store_continues`). The records
that workers make stay (`records_stay`).
-/

namespace PrdAgent.Runcontrol

open AssocMap Transition

/-! ## Objects -/

/-- The steps between the statuses of a run. -/
inductive RunStatus.Step : RunStatus → RunStatus → Prop
  | promoted : Step .waitingCapacity .queued
  | acquired : Step .queued .running
  | stopped {status : RunStatus} (live : status.terminal = false) : Step status .stopping
  | ended {status status' : RunStatus} (held : status = .running ∨ status = .stopping)
      (ended : status'.terminal = true) : Step status status'

/-- The steps between the statuses of a publish; a completion sets the status it is given. -/
inductive PublishStatus.Step : PublishStatus → PublishStatus → Prop
  | confirmed : Step .preview .pending
  | claimed {status : PublishStatus}
      (waits : status = .pending ∨ status = .retryable ∨ status = .reconciling) : Step status .running
  | completed (status : PublishStatus) : Step .running status

structure AgentRun.Goes (run run' : AgentRun) : Prop where
  same : run.Descends run'
  status : Relation.ReflTransGen RunStatus.Step run.status run'.status

theorem AgentRun.Goes.refl (run : AgentRun) : run.Goes run := ⟨.refl run, .refl⟩

theorem AgentRun.Goes.trans {run run' run'' : AgentRun} (first : run.Goes run')
    (second : run'.Goes run'') : run.Goes run'' :=
  ⟨first.same.trans second.same, first.status.trans second.status⟩

structure MemoryPublish.Goes (value value' : MemoryPublish) : Prop where
  same : value.Descends value'
  status : Relation.ReflTransGen PublishStatus.Step value.record.status value'.record.status

theorem MemoryPublish.Goes.refl (value : MemoryPublish) : value.Goes value := ⟨.refl value, .refl⟩

theorem MemoryPublish.Goes.trans {value value' value'' : MemoryPublish} (first : value.Goes value')
    (second : value'.Goes value'') : value.Goes value'' :=
  ⟨first.same.trans second.same, first.status.trans second.status⟩

section Runs

variable {runs runs' : GoMap AgentRun}

theorem LeaseStep.goes (step : LeaseStep runs runs') : Into AgentRun.Goes runs runs' := by
  cases step with
  | stopped now stored live =>
    exact .replace .refl stored
      ⟨⟨rfl, rfl, rfl, rfl, rfl, rfl, rfl, fun _ => live⟩, .single (.stopped live)⟩
  | acquired workerID leaseID now expires stored free =>
    -- from the queue, or again once the lease has expired
    refine .replace .refl stored ⟨⟨rfl, rfl, rfl, rfl, rfl, rfl, rfl, fun _ => ?_⟩, ?_⟩
    all_goals rcases free with status | ⟨status, -⟩ <;> rw [status]
    · rfl
    · rfl
    · exact .single .acquired
  | renewed now expires stored held =>
    exact .replace .refl stored ⟨⟨rfl, rfl, rfl, rfl, rfl, rfl, rfl, id⟩, .refl⟩
  | completed status now stored held ended =>
    exact .replace .refl stored ⟨⟨rfl, rfl, rfl, rfl, rfl, rfl, rfl,
      fun live => (nomatch ended.symm.trans live)⟩, .single (.ended held ended)⟩

theorem GrantStep.goes {policy : QueuePolicy} (step : GrantStep policy runs runs') :
    Into AgentRun.Goes runs runs' := by
  cases step with
  | created call taskID tenantID ownerID workflow ledger unused admitted => exact .insert .refl unused _
  | promoted now stored waiting room =>
    exact .replace .refl stored ⟨⟨rfl, rfl, rfl, rfl, rfl, rfl, rfl, fun _ => waiting ▸ rfl⟩,
      waiting ▸ .single .promoted⟩

end Runs

def LedgerEntry.Moves (entry entry' : LedgerEntry) : Prop :=
  ∃ call, EntryMove call (some entry) (some entry')

namespace MemoryStore

/-- The second store holds for a run what the first does; of its budget, the policy stays. -/
structure Pinned (s t : MemoryStore) (runID : String) : Prop where
  scope : ∀ scope, s.unitScopes.get runID = some scope → t.unitScopes.get runID = some scope
  assignment : ∀ assignment, s.runMemoryAssignments.get runID = some assignment →
    t.runMemoryAssignments.get runID = some assignment
  budget : ∀ budget, s.budgets.get runID = some budget →
    ∃ budget', t.budgets.get runID = some budget' ∧ budget'.policy = budget.policy

/-- Nothing that the first store holds is gone in the second, where it is in a later state. -/
structure Continues (s t : MemoryStore) : Prop where
  tasks : Into Task.Continues s.tasks t.tasks
  runs : Into AgentRun.Goes s.runs t.runs
  publishes : Into MemoryPublish.Goes s.publishes t.publishes
  entries : Into (Relation.ReflTransGen LedgerEntry.Moves) s.ledgerEntries t.ledgerEntries
  pinned : ∀ runID run, s.runs.get runID = some run → Pinned s t runID

variable {rt : Runtime} {s t u : MemoryStore} {input : Input}

theorem Continues.refl (s : MemoryStore) : Continues s s :=
  ⟨.refl .refl _, .refl .refl _, .refl .refl _, .refl (fun _ => .refl) _,
    fun _ _ _ => ⟨fun _ => id, fun _ => id, fun budget stored => ⟨budget, stored, rfl⟩⟩⟩

theorem Continues.trans (first : Continues s t) (second : Continues t u) : Continues s u where
  tasks := first.tasks.trans .trans second.tasks
  runs := first.runs.trans .trans second.runs
  publishes := first.publishes.trans .trans second.publishes
  entries := first.entries.trans .trans second.entries
  pinned runID run stored := by
    obtain ⟨run', stored', -⟩ := first.runs runID run stored
    have before := first.pinned runID run stored
    have after := second.pinned runID run' stored'
    refine ⟨fun _ held => after.scope _ (before.scope _ held),
      fun _ held => after.assignment _ (before.assignment _ held), fun budget held => ?_⟩
    obtain ⟨budget', held', same⟩ := before.budget budget held
    obtain ⟨budget'', held'', same'⟩ := after.budget budget' held'
    exact ⟨budget'', held'', same'.trans same⟩

theorem PublishMove.goes {op : Op} {publishID : String} {value value' : MemoryPublish}
    (move : PublishMove op publishID value value') : value.Goes value' := by
  refine ⟨move.descends, ?_⟩
  cases move with
  | claimed ttl' can =>
    simp only [claimable, Bool.and_eq_true, Bool.or_eq_true, beq_iff_eq] at can
    exact .single (.claimed (or_assoc.mp can.1.1))
  | completed available held unexpired running => exact running ▸ .single (.completed _)
  | payloadClaimed | purged => exact .refl

theorem apply_publishes_go (fresh : Fresh s input) :
    Into MemoryPublish.Goes s.publishes (apply rt input s).1.publishes := by
  rcases apply_publishes_follows (R := MemoryPublish.Goes) .refl .trans
    (fun _ preview _ => ⟨⟨rfl, rfl, rfl, rfl, rfl, rfl⟩, preview ▸ .single .confirmed⟩)
    PublishMove.goes rt s with same | ⟨_, _, _, _, _, _, _, _, -, -, -, -, publishes⟩
  · exact same.went
  · rw [publishes]
    exact .insert .refl fresh.2.2 _

theorem apply_continues (fresh : Fresh s input) (anchored : Anchored s) :
    Continues s (apply rt input s).1 where
  tasks := apply_tasksContinue anchored fresh
  runs := (apply_runs rt anchored.runsKeyed fresh).keeps (P := Into AgentRun.Goes s.runs)
    (fun step before => before.trans .trans step.goes) (fun step before => before.trans .trans step.goes)
    (.refl .refl _)
  publishes := apply_publishes_go fresh
  entries key entry stored := by
    have moved := apply_entryMove rt input s key
    rw [stored] at moved
    obtain ⟨entry', stored', -⟩ : ∃ entry', _ = some entry' ∧ LedgerCallKind.reserve.Past entry' :=
      moved.past trivial
    rw [stored'] at moved
    exact ⟨entry', stored', .single ⟨_, moved⟩⟩
  pinned runID run stored := by
    have ne : runID ≠ input.call.newID "run" := by
      rintro rfl
      cases fresh.2.1.symm.trans stored
    obtain ⟨scope, assignment⟩ := apply_given_kept (s := s) rt input ne
    exact ⟨scope, assignment, fun _ held => apply_budget_kept rt input held ne⟩

/-- Whatever happens to a store after a history of its own, it goes on with all it holds. -/
theorem store_continues {policy : QueuePolicy} {condition condition' : MemoryStore → Input → Prop}
    {events later : List StoreEvent} (history : History rt condition (newMemoryStore policy) events s)
    (onward : History rt condition' s later t) : Continues s t := by
  have anchored : Anchored s :=
    history.invariant (fun _ _ allowed => apply_anchored allowed.1) (.initial policy)
  exact onward.relates .refl .trans (fun _ _ allowed => apply_anchored allowed.1)
    (fun _ _ allowed => apply_continues allowed.1) anchored

theorem retried_task_continues : ∃ s t, (s.runs.get "run-a1").map (·.status) = some .running ∧
    (t.runs.get "run-a1").map (·.status) = some .failed ∧ Continues s t := by
  obtain ⟨_, s, history, _, t, onward, running, failed⟩ : ∃ events s,
      History oneUnitTexts (fun _ _ => True) (newMemoryStore smallQueue) events s ∧ ∃ later t,
      History oneUnitTexts (fun _ _ => True) s later t ∧
      (s.runs.get "run-a1").map (·.status) = some .running ∧
      (t.runs.get "run-a1").map (·.status) = some .failed :=
    exists_runs (planningRetried.take 2) (planningRetried.drop 2) (by decide +kernel)
  exact ⟨s, t, running, failed, store_continues history onward⟩

end MemoryStore

/-! ## Records -/

/-- A model attempt keeps what was asked, and its outcome once it has one. -/
structure MemoryAttempt.Follows (attempt attempt' : MemoryAttempt) : Prop where
  attemptID : attempt'.attemptID = attempt.attemptID
  runID : attempt'.runID = attempt.runID
  requestHash : attempt'.value.requestHash = attempt.value.requestHash
  status : attempt.value.status ≠ "PLANNED" → attempt'.value.status = attempt.value.status

/-- A checkpoint is replaced only by one with a higher sequence, except the one with sequence 0. -/
def MemoryCheckpoint.Follows (saved saved' : MemoryCheckpoint) : Prop :=
  saved' = saved ∨ saved.sequence < saved'.sequence ∨ saved.sequence = 0 ∧ saved'.sequence = 0

theorem MemoryAttempt.Follows.refl (attempt : MemoryAttempt) : attempt.Follows attempt :=
  ⟨rfl, rfl, rfl, fun _ => rfl⟩

theorem MemoryAttempt.Follows.trans {attempt attempt' attempt'' : MemoryAttempt}
    (first : attempt.Follows attempt') (second : attempt'.Follows attempt'') :
    attempt.Follows attempt'' where
  attemptID := second.attemptID.trans first.attemptID
  runID := second.runID.trans first.runID
  requestHash := second.requestHash.trans first.requestHash
  status ended := by
    have same := first.status ended
    exact (second.status (same ▸ ended)).trans same

theorem MemoryCheckpoint.Follows.refl (saved : MemoryCheckpoint) : saved.Follows saved := .inl rfl

theorem MemoryCheckpoint.Follows.trans {saved saved' saved'' : MemoryCheckpoint}
    (first : saved.Follows saved') (second : saved'.Follows saved'') : saved.Follows saved'' := by
  rcases first with rfl | first
  · exact second
  rcases second with rfl | second
  · exact .inr first
  · right
    omega

namespace MemoryStore

/-- What workers have recorded in the first store is in the second. -/
structure RecordsStay (s t : MemoryStore) : Prop where
  artifacts : Into Eq s.artifacts t.artifacts
  evidence : Into Eq s.evidence t.evidence
  drafts : Into Eq s.drafts t.drafts
  outputs : Into Eq s.runOutputs t.runOutputs
  attempts : Into MemoryAttempt.Follows s.attempts t.attempts
  checkpoints : Into MemoryCheckpoint.Follows s.checkpoints t.checkpoints

variable {s t u : MemoryStore}

theorem RecordsStay.refl (s : MemoryStore) : RecordsStay s s := by
  refine ⟨?_, ?_, ?_, ?_, .refl .refl _, .refl .refl _⟩
  all_goals exact .refl Eq.refl _

theorem RecordsStay.trans (first : RecordsStay s t) (second : RecordsStay t u) : RecordsStay s u where
  artifacts := first.artifacts.trans Eq.trans second.artifacts
  evidence := first.evidence.trans Eq.trans second.evidence
  drafts := first.drafts.trans Eq.trans second.drafts
  outputs := first.outputs.trans Eq.trans second.outputs
  attempts := first.attempts.trans .trans second.attempts
  checkpoints := first.checkpoints.trans .trans second.checkpoints

theorem appendItems_into (rt : Runtime) (call : Call) (runID : String) (items : List EvidenceItem)
    (evidence : GoMap EvidenceRecord) (accepted : Nat) :
    Into Eq evidence (appendItems rt call runID items evidence accepted).1 := by
  fun_induction appendItems rt call runID items evidence accepted with
  | case1 | case2 => exact .refl Eq.refl _
  | case3 _ _ _ _ _ _ _ ih => exact ih
  | case4 _ _ _ _ _ _ unused ih =>
    exact (Into.insert Eq.refl (Option.not_isSome_iff_eq_none.mp unused) _).trans Eq.trans ih

theorem apply_recordsStay (rt : Runtime) (input : Input) (s : MemoryStore) :
    RecordsStay s (apply rt input s).1 := by
  have frame := apply_frame rt input s
  have same := RecordsStay.refl s
  obtain ⟨call, op⟩ := input
  -- an operation writes at most one of the tables
  cases op
  case saveRunArtifact lease artifact =>
    dsimp only [apply, replying, saveRunArtifact, fail]
    repeat' split
    all_goals try exact same
    next unused => exact { same with artifacts := .insert Eq.refl unused _ }
  case appendEvidence lease items =>
    dsimp only [apply, replying, appendEvidence]
    split
    · exact same
    · exact { same with evidence := appendItems_into rt call lease.runID items s.evidence 0 }
  case submitDraft lease draftKey expected patch =>
    dsimp only [apply, replying, submitDraft, fail]
    repeat' split
    all_goals try exact same
    next unused _ _ _ _ => exact { same with drafts := .insert Eq.refl unused _ }
  case submitRunOutput lease output =>
    refine ⟨.of_eq Eq.refl (frame .artifacts (by simp)), .of_eq Eq.refl (frame .evidence (by simp)),
      .of_eq Eq.refl (frame .drafts (by simp)), ?_, .of_eq .refl (frame .attempts (by simp)),
      .of_eq .refl (frame .checkpoints (by simp))⟩
    have outcome := submitRunOutput_outcome rt call lease output s
    change Into Eq s.runOutputs (submitRunOutput rt call lease output s).1.runOutputs
    generalize submitRunOutput rt call lease output s = result at outcome
    cases outcome with
    | refused err | repeated => exact same.outputs
    | rejected submits failed => exact .insert Eq.refl submits.unused _
    | materialized submits made =>
      have outputs := materialize_frame rt call made .runOutputs (by decide)
      dsimp only [part] at outputs ⊢
      rw [outputs]
      exact .insert Eq.refl submits.unused _
  case recordModelAttempt lease attempt =>
    dsimp only [apply, replying, recordModelAttempt, fail]
    repeat' split
    all_goals try exact same
    · next existing stored asked planned =>
      refine { same with
        attempts := .replace .refl stored ⟨rfl, rfl, (not_not.mp asked).symm, fun ended => ?_⟩ }
      by_contra differs
      exact planned ⟨ended, differs⟩
    · next unused => exact { same with attempts := .insert .refl unused _ }
  case saveCheckpoint lease sequence checkpoint =>
    dsimp only [apply, replying, saveCheckpoint, fail]
    repeat' split
    all_goals try exact same
    next behind again =>
      refine { same with checkpoints := .set .refl fun found is => .inr ?_ }
      rw [is] at behind again
      dsimp only [Option.getD_some] at behind again ⊢
      omega
  all_goals exact ⟨.of_eq Eq.refl (frame .artifacts (by simp)),
    .of_eq Eq.refl (frame .evidence (by simp)), .of_eq Eq.refl (frame .drafts (by simp)),
    .of_eq Eq.refl (frame .runOutputs (by simp)),
    .of_eq .refl (frame .attempts (by simp)), .of_eq .refl (frame .checkpoints (by simp))⟩

/-- Whatever the calls and the state they start in, the records of that state stay. -/
theorem records_stay (rt : Runtime) (inputs : List Input) (s : MemoryStore) :
    RecordsStay s (stateFrom (apply rt) inputs s) := by
  induction inputs generalizing s with
  | nil => exact .refl s
  | cons input rest ih => exact (apply_recordsStay rt input s).trans (ih _)

end MemoryStore

end PrdAgent.Runcontrol
