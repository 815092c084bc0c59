import PrdAgent.Runcontrol.RunOrigins

/-!
# What can happen to the runs

The runs change in two ways. A `LeaseStep` updates one stored run: it is stopped, acquired, renewed
or completed. A `GrantStep` lets a run into the queue: a new run is created, or a waiting run is
promoted, under the admission checks of the policy. `apply_runs` says that an operation leaves the
runs alone, makes one lease step, or makes grant steps.
-/

namespace PrdAgent.Runcontrol

open AssocMap

/-- The limits leave room for one more runnable run of the owner. -/
structure HasRoom (policy : QueuePolicy) (runs : GoMap AgentRun) (tenantID ownerID : String) :
    Prop where
  overall : (runs.count AgentRun.runnable : Int) < policy.maxGlobalRunnable
  owner : ((runs.count fun run => run.ownedBy tenantID ownerID && run.runnable : Nat) : Int) <
    policy.maxRunnablePerOwner

/-- One stored run is stopped, acquired, renewed or completed. -/
inductive LeaseStep (runs : GoMap AgentRun) : GoMap AgentRun → Prop
  | stopped {runID : String} {run : AgentRun} (now : Time) (stored : runs.get runID = some run)
      (live : run.status.terminal = false) :
      LeaseStep runs (runs.set runID { run with status := .stopping, updatedAt := now })
  | acquired {runID : String} {run : AgentRun} (workerID leaseID : String) (now expires : Time)
      (stored : runs.get runID = some run)
      (free : run.status = .queued ∨ (run.status = .running ∧ run.leaseExpiresAt ≤ now)) :
      LeaseStep runs (runs.set runID { run with
        status := .running, workerID := workerID, leaseID := leaseID
        fencingToken := run.fencingToken + 1, leaseExpiresAt := expires
        attemptCount := run.attemptCount + 1, updatedAt := now })
  | renewed {runID : String} {run : AgentRun} (now expires : Time)
      (stored : runs.get runID = some run)
      (held : run.status = .running ∨ run.status = .stopping) :
      LeaseStep runs (runs.set runID { run with leaseExpiresAt := expires, updatedAt := now })
  | completed {runID : String} {run : AgentRun} (status : RunStatus) (now : Time)
      (stored : runs.get runID = some run)
      (held : run.status = .running ∨ run.status = .stopping) (ended : status.terminal = true) :
      LeaseStep runs (runs.set runID { run with
        status := status, queueSlotAcquired := false, leaseID := "", workerID := ""
        leaseExpiresAt := 0, updatedAt := now })

/-- A run is created or a waiting one is promoted. -/
inductive GrantStep (policy : QueuePolicy) (runs : GoMap AgentRun) : GoMap AgentRun → Prop
  | created (call : Call) (taskID tenantID ownerID : String) (workflow : WorkflowVersion)
      (ledger : ExecutionLedgerVersion) {status : RunStatus}
      (unused : runs.get (call.newID "run") = none)
      (admitted : (status = .queued ∧ HasRoom policy runs tenantID ownerID) ∨
        status = .waitingCapacity) :
      GrantStep policy runs (runs.set (call.newID "run")
        (newRun call taskID tenantID ownerID workflow ledger status))
  | promoted {run : AgentRun} (now : Time) (stored : runs.get run.runID = some run)
      (waiting : run.status = .waitingCapacity)
      (room : HasRoom policy runs run.tenantID run.ownerID) :
      GrantStep policy runs (runs.set run.runID
        { run with status := .queued, queueSlotAcquired := true, updatedAt := now })

variable {runs runs' : GoMap AgentRun} {policy : QueuePolicy}

/-- A later state of the same run. A run that has ended stays so. -/
structure AgentRun.Descends (run run' : AgentRun) : Prop where
  runID : run'.runID = run.runID
  taskID : run'.taskID = run.taskID
  tenantID : run'.tenantID = run.tenantID
  ownerID : run'.ownerID = run.ownerID
  workflowVersion : run'.workflowVersion = run.workflowVersion
  executionLedgerVersion : run'.executionLedgerVersion = run.executionLedgerVersion
  createdAt : run'.createdAt = run.createdAt
  live : run'.status.terminal = false → run.status.terminal = false

theorem AgentRun.Descends.refl (run : AgentRun) : run.Descends run :=
  ⟨rfl, rfl, rfl, rfl, rfl, rfl, rfl, id⟩

theorem AgentRun.Descends.trans {run run' run'' : AgentRun} (first : run.Descends run')
    (second : run'.Descends run'') : run.Descends run'' :=
  ⟨second.runID.trans first.runID, second.taskID.trans first.taskID,
    second.tenantID.trans first.tenantID, second.ownerID.trans first.ownerID,
    second.workflowVersion.trans first.workflowVersion,
    second.executionLedgerVersion.trans first.executionLedgerVersion,
    second.createdAt.trans first.createdAt, first.live ∘ second.live⟩

/-- What an operation can do to the runs. -/
inductive RunsEffect (policy : QueuePolicy) (runs : GoMap AgentRun) : GoMap AgentRun → Prop
  | kept : RunsEffect policy runs runs
  | leased {runs' : GoMap AgentRun} (step : LeaseStep runs runs') : RunsEffect policy runs runs'
  | granted {runs' : GoMap AgentRun}
      (steps : Relation.ReflTransGen (GrantStep policy) runs runs') : RunsEffect policy runs runs'

theorem RunsEffect.of_eq (same : runs' = runs) : RunsEffect policy runs runs' :=
  same ▸ .kept

variable {op : Op} {input : Input}

namespace MemoryStore

variable (rt : Runtime) (call : Call)

/-! ## Lease steps -/

theorem validLease_held {run : AgentRun} {lease : LeaseContext} {now : Time}
    (valid : validLease run lease now = true) : run.status = .running ∨ run.status = .stopping := by
  unfold validLease at valid
  simp only [Bool.and_eq_true, Bool.or_eq_true, beq_iff_eq] at valid
  exact valid.1.1.1.1

variable {s : MemoryStore}

section

variable (s) in
/-- The operation takes at most one lease step. -/
abbrev Leases (op : Op) : Prop :=
  let runs := (apply rt ⟨call, op⟩ s).1.runs; runs = s.runs ∨ LeaseStep s.runs runs

variable {tenantID ownerID taskID runID workerID : String} {now : Time} {ttl : Duration}
  {lease : LeaseContext}

theorem stopRun_runs : Leases rt call s (.stopRun tenantID ownerID taskID runID) := by
  dsimp only [Leases, apply, replying]
  unfold stopRun fail
  split
  · exact .inl rfl
  · next stored =>
    split
    · exact .inl rfl
    · split
      · exact .inl rfl
      · next live => exact .inr (.stopped call.now stored (by simpa using live))

theorem acquireRun_runs : Leases rt call s (.acquireRun runID workerID now ttl) := by
  dsimp only [Leases, apply, replying]
  unfold acquireRun fail
  split
  · exact .inl rfl
  · next stored =>
    split
    · next free => exact .inr (.acquired workerID _ now _ stored free)
    · split <;> exact .inl rfl

theorem heartbeat_runs : Leases rt call s (.heartbeat lease now ttl) := by
  dsimp only [Leases, apply, replying]
  unfold heartbeat
  split
  · exact .inl rfl
  · next valid =>
    obtain ⟨stored, holds⟩ := validateLeaseLocked_ok valid
    exact .inr (.renewed now _ stored (validLease_held holds))

theorem completeRun_runs {status : RunStatus} : Leases rt call s (.completeRun lease status now) := by
  dsimp only [Leases, apply, replying]
  unfold completeRun fail
  split
  · exact .inl rfl
  · next valid =>
    obtain ⟨stored, holds⟩ := validateLeaseLocked_ok valid
    split
    · exact .inl rfl
    · next ended =>
      exact .inr (.completed status now stored (validLease_held holds) (by simpa using ended))

end

/-! ## Grant steps -/

theorem atCapacityLocked_eq_false {tenantID ownerID : String}
    (room : s.atCapacityLocked tenantID ownerID = false) :
    HasRoom s.policy s.runs tenantID ownerID := by
  unfold atCapacityLocked at room
  simp only [ge_iff_le, Bool.or_eq_false_iff, decide_eq_false_iff_not, not_le] at room
  exact ⟨room.1, room.2⟩

variable {call}

theorem grant_of_creation {rt : Runtime} {t : MemoryStore}
    (creation : Creation rt call s op t) (unused : s.runs.get (call.newID "run") = none) :
    t.runs = s.runs ∨ GrantStep s.policy s.runs t.runs := by
  cases creation with
  | none runs => exact .inl runs
  | one origin provides =>
    obtain ⟨taskID, tenantID, ownerID, workflow, ledger, status, is, admitted⟩ := origin.newRun
    rw [provides.runs, is]
    refine .inr (.created call taskID tenantID ownerID workflow ledger unused ?_)
    unfold admitLocked at admitted
    repeat' split at admitted
    all_goals cases admitted
    · exact .inr rfl
    · next room => exact .inl ⟨rfl, atCapacityLocked_eq_false (by simpa using room)⟩

/-! ## Promotion -/

theorem promoteOne_policy (now : Time) (candidate : AgentRun) (s : MemoryStore)
    (promoted : List AgentRun) : (promoteOne now candidate s promoted).1.policy = s.policy :=
  (promoteAll_frame now [candidate] s promoted) .policy (by decide)

variable (s) in
/-- Some waiting runs are promoted, which leaves later states of the same runs. -/
abbrev Promotes (runs' : GoMap AgentRun) : Prop :=
  Relation.ReflTransGen (fun a b => GrantStep s.policy a b ∧ From AgentRun.Descends a b) s.runs runs'

/-- The loop over distinct waiting candidates promotes some of them. The candidates still to come
stay as stored, because a round writes no identifier but its own. -/
theorem promoteAll_promotes (now : Time) (ordered : List AgentRun) (s : MemoryStore)
    (promoted : List AgentRun) (distinct : (ordered.map (·.runID)).Nodup)
    (waiting : ∀ candidate ∈ ordered, s.runs.get candidate.runID = some candidate ∧
      candidate.status = .waitingCapacity) : Promotes s (promoteAll now ordered s promoted).1.runs := by
  induction ordered generalizing s promoted with
  | nil => exact .refl
  | cons candidate rest ih =>
    obtain ⟨stored, waits⟩ := waiting candidate (.head _)
    rw [List.map_cons, List.nodup_cons] at distinct
    have policy := promoteOne_policy now candidate s promoted
    have tail := ih (promoteOne now candidate s promoted).1 (promoteOne now candidate s promoted).2
      distinct.2
    unfold Promotes at tail ⊢
    rw [policy] at tail
    unfold promoteAll
    generalize outcome : promoteOne now candidate s promoted = next at tail ⊢
    unfold promoteOne at outcome
    split at outcome
    · subst outcome
      exact tail fun other mem => waiting other (.tail _ mem)
    · next room =>
      rw [stored] at outcome
      subst outcome
      refine .head ⟨.promoted now stored waits (atCapacityLocked_eq_false (by simpa using room)),
        .set .refl stored ⟨rfl, rfl, rfl, rfl, rfl, rfl, rfl, fun _ => waits ▸ rfl⟩⟩
        (tail fun other mem => ?_)
      obtain ⟨kept, status⟩ := waiting other (.tail _ mem)
      have ne : other.runID ≠ candidate.runID := by
        intro same
        exact distinct.1 (same ▸ List.mem_map_of_mem mem)
      rw [get_set_ne _ _ ne]
      exact ⟨kept, status⟩

theorem promoteWaiting_promotes (keyed : s.runs.Keyed AgentRun.runID) (now : Time) :
    Promotes s (promoteWaiting call now s).1.runs := by
  refine promoteAll_promotes now _ s [] ?_ ?_
  · refine ((List.perm_insertionSort _ _).map _).nodup_iff.mpr ?_
    exact (keyed.range_nodup (call.order_perm _)).sublist (List.filter_sublist.map _)
  · intro candidate mem
    rw [List.mem_insertionSort, List.mem_filter, List.mem_map] at mem
    obtain ⟨⟨⟨runID, run⟩, entry, rfl⟩, status⟩ := mem
    have stored := (mem_range (call.order_perm _)).mp entry
    refine ⟨?_, by simpa using status⟩
    rw [keyed runID run stored]
    exact stored

/-! ## Every operation -/

theorem apply_runs (keyed : s.runs.Keyed AgentRun.runID) (fresh : Fresh s input) :
    RunsEffect s.policy s.runs (apply rt input s).1.runs := by
  obtain ⟨call, op⟩ := input
  have unused : s.runs.get (call.newID "run") = none := fresh.2.1
  by_cases creates : op.creates = true
  · rcases grant_of_creation (apply_creation rt ⟨call, op⟩ s creates) unused with kept | granted
    · exact .of_eq kept
    · exact .granted (.single granted)
  have leased {runs' : GoMap AgentRun} (effect : runs' = s.runs ∨ LeaseStep s.runs runs') :
      RunsEffect s.policy s.runs runs' := effect.elim .of_eq .leased
  cases op
  case stopRun => exact leased (stopRun_runs rt call)
  case acquireRun => exact leased (acquireRun_runs rt call)
  case heartbeat => exact leased (heartbeat_runs rt call)
  case completeRun => exact leased (completeRun_runs rt call)
  case promoteWaiting now =>
    exact .granted (Relation.ReflTransGen.mono (fun _ _ => And.left) _ _
      (promoteWaiting_promotes keyed now))
  all_goals try exact absurd rfl creates
  all_goals exact .of_eq (apply_frame rt ⟨call, _⟩ s .runs (by simp))

end MemoryStore

/-! ## Runs are stored under their identifiers -/

theorem LeaseStep.eq_set (step : LeaseStep runs runs') :
    ∃ runID run run', runs.get runID = some run ∧ runs' = runs.set runID run' ∧
      run.Descends run' := by
  cases step with
  | stopped now stored live =>
    exact ⟨_, _, _, stored, rfl, rfl, rfl, rfl, rfl, rfl, rfl, rfl, fun _ => live⟩
  | acquired workerID leaseID now expires stored free =>
    refine ⟨_, _, _, stored, rfl, rfl, rfl, rfl, rfl, rfl, rfl, rfl, fun _ => ?_⟩
    rcases free with status | ⟨status, -⟩
    all_goals
      rw [status]
      rfl
  | renewed now expires stored held =>
    exact ⟨_, _, _, stored, rfl, rfl, rfl, rfl, rfl, rfl, rfl, rfl, id⟩
  | completed status now stored held ended =>
    refine ⟨_, _, _, stored, rfl, rfl, rfl, rfl, rfl, rfl, rfl, rfl, fun live => ?_⟩
    cases ended.symm.trans live

theorem LeaseStep.keyed (step : LeaseStep runs runs') (keyed : runs.Keyed AgentRun.runID) :
    runs'.Keyed AgentRun.runID := by
  obtain ⟨runID, run, run', stored, rfl, descends⟩ := step.eq_set
  exact keyed.set (descends.runID.trans (keyed runID run stored))

theorem GrantStep.keyed (step : GrantStep policy runs runs') (keyed : runs.Keyed AgentRun.runID) :
    runs'.Keyed AgentRun.runID := by
  cases step with
  | created call taskID tenantID ownerID workflow ledger unused admitted
  | promoted now stored waiting room => exact keyed.set rfl

theorem RunsEffect.keeps {policy : QueuePolicy} {runs runs' : GoMap AgentRun}
    {P : GoMap AgentRun → Prop} (effect : RunsEffect policy runs runs')
    (leases : ∀ {a b}, LeaseStep a b → P a → P b)
    (grants : ∀ {a b}, GrantStep policy a b → P a → P b) (holds : P runs) : P runs' := by
  cases effect with
  | kept => exact holds
  | leased step => exact leases step holds
  | granted steps =>
    induction steps with
    | refl => exact holds
    | tail _ step ih => exact grants step ih

variable {s : MemoryStore}

namespace MemoryStore

theorem apply_keyed (rt : Runtime) (fresh : Fresh s input) (keyed : s.runs.Keyed AgentRun.runID) :
    (apply rt input s).1.runs.Keyed AgentRun.runID :=
  (apply_runs rt keyed fresh).keeps LeaseStep.keyed GrantStep.keyed keyed

end MemoryStore

/-! ## Run identifiers -/

theorem GrantStep.eq_set (step : GrantStep policy runs runs') :
    ∃ runID updated, runs' = runs.set runID updated ∧
      ((∃ run, runs.get runID = some run) ∨ ∃ call : Call, runID = call.newID "run") := by
  cases step with
  | created call taskID tenantID ownerID workflow ledger unused admitted =>
    exact ⟨_, _, rfl, .inr ⟨call, rfl⟩⟩
  | promoted now stored waiting room => exact ⟨_, _, rfl, .inl ⟨_, stored⟩⟩

/-- Identifiers of runs have no NUL character. -/
def NulFreeRuns (runs : GoMap AgentRun) : Prop :=
  ∀ runID run, runs.get runID = some run → GoText.NulFree runID

theorem NulFreeRuns.set {runs : GoMap AgentRun} (nulFree : NulFreeRuns runs) {runID : String}
    (free : GoText.NulFree runID) (run : AgentRun) : NulFreeRuns (runs.set runID run) := by
  intro other found stored
  rcases get_set_eq_some stored with ⟨rfl, -⟩ | ⟨-, stored⟩
  · exact free
  · exact nulFree other found stored

theorem LeaseStep.nulFree (step : LeaseStep runs runs') (nulFree : NulFreeRuns runs) :
    NulFreeRuns runs' := by
  obtain ⟨runID, run, run', stored, rfl, -⟩ := step.eq_set
  exact nulFree.set (nulFree runID run stored) run'

theorem GrantStep.nulFree (step : GrantStep policy runs runs') (nulFree : NulFreeRuns runs) :
    NulFreeRuns runs' := by
  obtain ⟨runID, updated, rfl, ⟨run, stored⟩ | ⟨call, rfl⟩⟩ := step.eq_set
  · exact nulFree.set (nulFree runID run stored) updated
  · exact nulFree.set (call.newID_nulFree (by decide)) updated

namespace MemoryStore

theorem apply_nulFreeRuns (rt : Runtime)
    (keyed : s.runs.Keyed AgentRun.runID) (fresh : Fresh s input) (nulFree : NulFreeRuns s.runs) :
    NulFreeRuns (apply rt input s).1.runs :=
  (apply_runs rt keyed fresh).keeps LeaseStep.nulFree GrantStep.nulFree nulFree

end MemoryStore

/-! ## Runs keep their identity -/

namespace MemoryStore

variable {rt : Runtime} {call : Call} {s t : MemoryStore}

theorem apply_descendants (keyed : s.runs.Keyed AgentRun.runID)
    (creates : input.op.creates = false) : From AgentRun.Descends s.runs (apply rt input s).1.runs := by
  obtain ⟨call, op⟩ := input
  have leased {runs' : GoMap AgentRun} (effect : runs' = s.runs ∨ LeaseStep s.runs runs') :
      From AgentRun.Descends s.runs runs' := by
    rcases effect with rfl | step
    · exact .refl .refl _
    · obtain ⟨runID, run, run', stored, rfl, descends⟩ := step.eq_set
      exact .set .refl stored descends
  cases op
  case stopRun => exact leased (stopRun_runs rt call)
  case acquireRun => exact leased (acquireRun_runs rt call)
  case heartbeat => exact leased (heartbeat_runs rt call)
  case completeRun => exact leased (completeRun_runs rt call)
  case promoteWaiting now =>
    have steps : Promotes s (promoteWaiting call now s).1.runs := promoteWaiting_promotes keyed now
    dsimp only [apply, replying]
    generalize (promoteWaiting call now s).1.runs = runs' at steps ⊢
    induction steps with
    | refl => exact .refl .refl _
    | tail _ last ih => exact ih.trans .trans last.2
  all_goals first
    | cases creates; done
    | exact leased (.inl (apply_frame rt ⟨call, _⟩ s .runs (by simp)))

end MemoryStore

end PrdAgent.Runcontrol
