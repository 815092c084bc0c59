import PrdAgent.Runcontrol.RunSteps

/-!
# Queue slots

A queue slot is a capacity reservation that an admitted run holds until it ends. Admission counts
the queued and running runs only, and stopping a run leaves it its slot, so a stopping run holds a
slot that admission does not see. As long as no call lets a run into the queue while a stopping run
holds a slot, the slots stay within the limits of the policy.
-/

namespace PrdAgent.Runcontrol

open AssocMap

/-- The run has not ended and holds a queue slot. -/
def AgentRun.holdsSlot (run : AgentRun) : Bool := run.queueSlotAcquired && !run.status.terminal

/-- Queued and running runs hold a slot, and waiting runs hold none. -/
def SlotsMatchStatus (runs : GoMap AgentRun) : Prop :=
  ∀ runID run, runs.get runID = some run →
    (run.status = .queued ∨ run.status = .running → run.queueSlotAcquired = true) ∧
    (run.status = .waitingCapacity → run.queueSlotAcquired = false) ∧
    (run.queueSlotAcquired = true → run.status ≠ .waitingUser)

def NoStoppingSlot (runs : GoMap AgentRun) : Prop :=
  ∀ runID run, runs.get runID = some run → run.status = .stopping → run.queueSlotAcquired = false

instance (runs : GoMap AgentRun) : Decidable (NoStoppingSlot runs) :=
  decidable_of_iff (runs.values.all fun run =>
    run.status != .stopping || run.queueSlotAcquired == false) <| by
    rw [all_values]
    simp only [Bool.or_eq_true, bne_iff_ne, beq_iff_eq, ne_eq, ← imp_iff_not_or]
    rfl

/-- A run is queued in `runs'` that was not in `runs`. -/
def admitted (runs runs' : GoMap AgentRun) : Bool :=
  runs'.keys.any fun runID =>
    (runs'.get runID).any (·.status == .queued) && (runs.get runID).all (·.status != .queued)

/-! ## Slots match the status of their runs -/

variable {runs : GoMap AgentRun}

theorem SlotsMatchStatus.set (slots : SlotsMatchStatus runs) (runID : String) {run : AgentRun}
    (held : run.status = .queued ∨ run.status = .running → run.queueSlotAcquired = true)
    (waiting : run.status = .waitingCapacity → run.queueSlotAcquired = false)
    (user : run.queueSlotAcquired = true → run.status ≠ .waitingUser) :
    SlotsMatchStatus (runs.set runID run) := by
  intro other found stored
  rcases get_set_eq_some stored with ⟨-, rfl⟩ | ⟨-, stored⟩
  · exact ⟨held, waiting, user⟩
  · exact slots other found stored

variable {runs' : GoMap AgentRun}

theorem LeaseStep.slotsMatchStatus (step : LeaseStep runs runs')
    (slots : SlotsMatchStatus runs) : SlotsMatchStatus runs' := by
  cases step with
  | stopped now stored live => exact slots.set _ (by simp) (by simp) (by simp)
  | acquired workerID leaseID now expires stored free =>
    obtain ⟨held, -, -⟩ := slots _ _ stored
    refine slots.set _ (fun _ => ?_) (by simp) (by simp)
    rcases free with queued | ⟨running, -⟩
    · exact held (.inl queued)
    · exact held (.inr running)
  | renewed now expires stored held =>
    obtain ⟨kept, waiting, user⟩ := slots _ _ stored
    exact slots.set _ kept waiting user
  | completed status now stored held ended =>
    refine slots.set _ ?_ (by simp) (by simp)
    rintro (rfl | rfl) <;> cases ended

variable {policy : QueuePolicy}

theorem GrantStep.slotsMatchStatus
    (step : GrantStep policy runs runs') (slots : SlotsMatchStatus runs) :
    SlotsMatchStatus runs' := by
  cases step with
  | created call taskID tenantID ownerID workflow ledger unused admitted =>
    rcases admitted with ⟨rfl, -⟩ | rfl
    · exact slots.set _ (by simp [newRun]) (by simp [newRun]) (by simp [newRun])
    · exact slots.set _ (by simp [newRun]) (by simp [newRun]) (by simp [newRun])
  | promoted now stored waiting room => exact slots.set _ (by simp) (by simp) (by simp)

/-! ## The number of slots, overall or of one owner -/

section Scope

/-- The runs of the owners in `scope` that hold a slot. -/
def slotsIn (scope : String → String → Bool) (runs : GoMap AgentRun) : Nat :=
  runs.count fun run => scope run.tenantID run.ownerID && run.holdsSlot

/-- The runs of the owners in `scope` that admission counts. -/
def runnableIn (scope : String → String → Bool) (runs : GoMap AgentRun) : Nat :=
  runs.count fun run => scope run.tenantID run.ownerID && run.runnable

variable {scope : String → String → Bool} {limit : Int} {runs runs' : GoMap AgentRun}

theorem slotsIn_update_le {runID : String} {run updated : AgentRun}
    (stored : runs.get runID = some run)
    (owner : updated.tenantID = run.tenantID ∧ updated.ownerID = run.ownerID)
    (kept : updated.holdsSlot = true → run.holdsSlot = true) :
    slotsIn scope (runs.set runID updated) ≤ slotsIn scope runs := by
  refine count_update_le runs stored fun after => ?_
  rw [Bool.and_eq_true, owner.1, owner.2] at after
  rw [Bool.and_eq_true]
  exact ⟨after.1, kept after.2⟩

theorem LeaseStep.slotsIn_le (step : LeaseStep runs runs') :
    slotsIn scope runs' ≤ slotsIn scope runs := by
  cases step with
  | stopped now stored live =>
    refine slotsIn_update_le stored ⟨rfl, rfl⟩ fun holds => ?_
    simp only [AgentRun.holdsSlot, Bool.and_eq_true] at holds ⊢
    exact ⟨holds.1, by simp [live]⟩
  | acquired workerID leaseID now expires stored free =>
    refine slotsIn_update_le stored ⟨rfl, rfl⟩ fun holds => ?_
    simp only [AgentRun.holdsSlot, Bool.and_eq_true] at holds ⊢
    refine ⟨holds.1, ?_⟩
    rcases free with queued | ⟨running, -⟩
    · rw [queued]
      rfl
    · rw [running]
      rfl
  | renewed now expires stored held => exact slotsIn_update_le stored ⟨rfl, rfl⟩ id
  | completed status now stored held ended =>
    exact slotsIn_update_le stored ⟨rfl, rfl⟩ fun holds => by simp [AgentRun.holdsSlot] at holds

theorem GrantStep.slotsIn_le (step : GrantStep policy runs runs')
    (bounded : (slotsIn scope runs : Int) ≤ limit) (slots : SlotsMatchStatus runs)
    (settled : NoStoppingSlot runs)
    (respects : ∀ {tenantID ownerID}, scope tenantID ownerID = true →
      HasRoom policy runs tenantID ownerID → (runnableIn scope runs : Int) < limit) :
    (slotsIn scope runs' : Int) ≤ limit := by
  have counted : slotsIn scope runs ≤ runnableIn scope runs := by
    refine count_mono runs fun runID run stored holds => ?_
    obtain ⟨-, waiting, user⟩ := slots runID run stored
    have stopping := settled runID run stored
    simp only [AgentRun.holdsSlot, AgentRun.runnable, Bool.and_eq_true] at holds ⊢
    obtain ⟨inScope, slot, live⟩ := holds
    refine ⟨inScope, slot, ?_⟩
    cases status : run.status with
    | waitingCapacity => simp [waiting status] at slot
    | waitingUser => exact absurd status (user slot)
    | stopping => simp [stopping status] at slot
    | queued => rfl
    | running => rfl
    | succeeded | failed | stopped => simp [status, RunStatus.terminal] at live
  -- a run that is queued in the scope was admitted with room; any other adds no slot
  have granted (runID : String) (run : AgentRun)
      (room : run.holdsSlot = true → HasRoom policy runs run.tenantID run.ownerID) :
      (slotsIn scope (runs.set runID run) : Int) ≤ limit := by
    have added : slotsIn scope (runs.set runID run) ≤ slotsIn scope runs + _ :=
      count_set_le_add runs _ runID run
    by_cases takes : (scope run.tenantID run.ownerID && run.holdsSlot) = true
    · rw [if_pos takes] at added
      rw [Bool.and_eq_true] at takes
      have free := respects takes.1 (room takes.2)
      omega
    · rw [if_neg takes] at added
      omega
  cases step with
  | created call taskID tenantID ownerID workflow ledger unused admitted =>
    refine granted _ _ fun holds => ?_
    rcases admitted with ⟨-, room⟩ | rfl
    · exact room
    · simp [AgentRun.holdsSlot, newRun] at holds
  | promoted now stored waiting room => exact granted _ _ fun _ => room

theorem GrantStep.queued_stays {runID : String} {run : AgentRun} (step : GrantStep policy runs runs')
    (stored : runs.get runID = some run) (queued : run.status = .queued) :
    runs'.get runID = some run := by
  cases step with
  | created call taskID tenantID ownerID workflow ledger unused admitted =>
    exact get_set_of_unused unused stored
  | promoted now held waiting room =>
    refine (get_set_ne _ _ ?_).trans stored
    rintro rfl
    cases held.symm.trans stored
    cases waiting.symm.trans queued

theorem GrantStep.noStoppingSlot (step : GrantStep policy runs runs') (settled : NoStoppingSlot runs) :
    NoStoppingSlot runs' := by
  intro runID run stored stopping
  cases step with
  | created call taskID tenantID ownerID workflow ledger unused admitted =>
    rcases get_set_eq_some stored with ⟨-, rfl⟩ | ⟨-, stored⟩
    · rcases admitted with ⟨rfl, -⟩ | rfl <;> cases stopping
    · exact settled runID run stored stopping
  | promoted now held waiting room =>
    rcases get_set_eq_some stored with ⟨-, rfl⟩ | ⟨-, stored⟩
    · cases stopping
    · exact settled runID run stored stopping

theorem admitted_iff : admitted runs runs' = true ↔ ∃ runID run, runs'.get runID = some run ∧
    run.status = .queued ∧ ∀ before, runs.get runID = some before → before.status ≠ .queued := by
  refine List.any_eq_true.trans (exists_congr fun runID => ?_)
  rw [mem_keys]
  cases stored : runs'.get runID <;> simp [Option.all_eq_true]

theorem GrantStep.slotsIn_le_or_admitted (step : GrantStep policy runs runs') :
    slotsIn scope runs' ≤ slotsIn scope runs ∨ admitted runs runs' = true := by
  rw [admitted_iff]
  cases step with
  | created call taskID tenantID ownerID workflow ledger unused admitted =>
    rcases admitted with ⟨rfl, -⟩ | rfl
    · exact .inr ⟨_, _, get_set_self _ _ _, rfl, fun before stored => nomatch unused.symm.trans stored⟩
    · exact .inl ((count_set_le_add _ _ _ _).trans (by simp [slotsIn, AgentRun.holdsSlot, newRun]))
  | promoted now held waiting room =>
    refine .inr ⟨_, _, get_set_self _ _ _, rfl, fun before stored queued => ?_⟩
    cases held.symm.trans stored
    cases waiting.symm.trans queued

theorem slotsIn_le_or_admitted (steps : Relation.ReflTransGen (GrantStep policy) runs runs') :
    slotsIn scope runs' ≤ slotsIn scope runs ∨ admitted runs runs' = true := by
  -- runs that were queued at the start stay so, hence a run that a step puts into the queue was not
  suffices chain : (∀ runID run, runs.get runID = some run → run.status = .queued →
      runs'.get runID = some run) ∧
      (slotsIn scope runs' ≤ slotsIn scope runs ∨ admitted runs runs' = true) from chain.2
  induction steps with
  | refl => exact ⟨fun _ _ stored _ => stored, .inl le_rfl⟩
  | @tail mid runs' _ step ih =>
    obtain ⟨stays, fewer | admits⟩ := ih
    all_goals
      refine ⟨fun runID run stored queued => step.queued_stays (stays runID run stored queued) queued, ?_⟩
    · have last : slotsIn scope runs' ≤ slotsIn scope mid ∨ admitted mid runs' = true :=
        step.slotsIn_le_or_admitted
      refine last.imp (·.trans fewer) fun admits => ?_
      obtain ⟨runID, run, stored, queued, new⟩ := admitted_iff.mp admits
      exact admitted_iff.mpr ⟨runID, run, stored, queued,
        fun before there waits => new before (stays runID before there waits) waits⟩
    · obtain ⟨runID, run, stored, queued, new⟩ := admitted_iff.mp admits
      exact .inr (admitted_iff.mpr ⟨runID, run, step.queued_stays stored queued, queued, new⟩)

end Scope

namespace MemoryStore

variable {rt : Runtime} {s : MemoryStore} {input : Input} {policy : QueuePolicy}
  {events : List StoreEvent}

theorem apply_limits (rt : Runtime) (input : Input) (s : MemoryStore) :
    (apply rt input s).1.policy.maxGlobalRunnable = s.policy.maxGlobalRunnable ∧
      (apply rt input s).1.policy.maxRunnablePerOwner = s.policy.maxRunnablePerOwner := by
  have kept : .policy ∉ input.op.writes → (apply rt input s).1.policy = s.policy :=
    apply_frame rt input s .policy
  obtain ⟨call, op⟩ := input
  cases op
  case createTaskWithRun tenantID ownerID message key =>
    dsimp only [apply, replying, createTaskWithRun, fail]
    repeat' split
    all_goals exact ⟨rfl, rfl⟩
  all_goals exact kept (by simp) ▸ ⟨rfl, rfl⟩

/-- The slots are within the limits of the policy, and match the status of their runs. -/
structure SlotsBounded (s : MemoryStore) : Prop where
  keyed : s.runs.Keyed AgentRun.runID
  status : SlotsMatchStatus s.runs
  overall : (slotsIn (fun _ _ => true) s.runs : Int) ≤ s.policy.maxGlobalRunnable
  owner : ∀ tenantID ownerID,
    (slotsIn (fun tenant owner => tenant == tenantID && owner == ownerID) s.runs : Int) ≤
      s.policy.maxRunnablePerOwner

/-- A call lets a run into the queue, new or promoted, only while no stopping run holds a slot. Replays,
refused calls, new runs that wait and promotions that find nothing are free. -/
def AdmitsSettled (rt : Runtime) (s : MemoryStore) (input : Input) : Prop :=
  admitted s.runs (apply rt input s).1.runs = true → NoStoppingSlot s.runs

instance (rt : Runtime) (s : MemoryStore) (input : Input) : Decidable (AdmitsSettled rt s input) :=
  inferInstanceAs (Decidable (_ → _))

theorem apply_slotsIn {scope : String → String → Bool} {limit : Int}
    (keyed : s.runs.Keyed AgentRun.runID) (status : SlotsMatchStatus s.runs)
    (fresh : Fresh s input) (settled : AdmitsSettled rt s input)
    (respects : ∀ {runs tenantID ownerID}, scope tenantID ownerID = true →
      HasRoom s.policy runs tenantID ownerID → (runnableIn scope runs : Int) < limit)
    (bounded : (slotsIn scope s.runs : Int) ≤ limit) :
    (slotsIn scope (apply rt input s).1.runs : Int) ≤ limit := by
  have effect := apply_runs rt keyed fresh
  unfold AdmitsSettled at settled
  generalize (apply rt input s).1.runs = runs' at effect settled ⊢
  cases effect with
  | kept => exact bounded
  | leased step =>
    have fewer : slotsIn scope runs' ≤ slotsIn scope s.runs := step.slotsIn_le
    omega
  | granted steps =>
    have grows : slotsIn scope runs' ≤ slotsIn scope s.runs ∨ admitted s.runs runs' = true :=
      slotsIn_le_or_admitted steps
    rcases grows with fewer | admits
    · omega
    replace settled := settled admits
    clear admits
    have chain : SlotsMatchStatus runs' ∧ NoStoppingSlot runs' ∧
        (slotsIn scope runs' : Int) ≤ limit := by
      induction steps with
      | refl => exact ⟨status, settled, bounded⟩
      | tail _ step ih =>
        obtain ⟨status, settled, bounded⟩ := ih
        exact ⟨step.slotsMatchStatus status, step.noStoppingSlot settled,
          step.slotsIn_le bounded status settled fun inScope room => respects inScope room⟩
    exact chain.2.2

theorem apply_slotsBounded (fresh : Fresh s input) (settled : AdmitsSettled rt s input)
    (bounded : SlotsBounded s) : SlotsBounded (apply rt input s).1 := by
  obtain ⟨keyed, status, overall, owner⟩ := bounded
  obtain ⟨globalLimit, ownerLimit⟩ := apply_limits rt input s
  refine ⟨apply_keyed rt fresh keyed, ?_, ?_, fun tenantID ownerID => ?_⟩
  · exact (apply_runs rt keyed fresh).keeps LeaseStep.slotsMatchStatus
      GrantStep.slotsMatchStatus status
  · rw [globalLimit]
    refine apply_slotsIn keyed status fresh settled (fun _ room => ?_) overall
    simpa [runnableIn] using room.overall
  · rw [ownerLimit]
    refine apply_slotsIn keyed status fresh settled (fun inScope room => ?_) (owner tenantID ownerID)
    simp only [Bool.and_eq_true, beq_iff_eq] at inScope
    obtain ⟨rfl, rfl⟩ := inScope
    exact room.owner

theorem newMemoryStore_slotsBounded (policy : QueuePolicy) :
    SlotsBounded (newMemoryStore policy) := by
  refine ⟨.empty _, ?_, ?_, fun _ _ => ?_⟩
  · intro runID run stored
    cases stored
  · dsimp only [newMemoryStore, QueuePolicy.normalized, slotsIn]
    rw [count_empty]
    split <;> omega
  · dsimp only [newMemoryStore, QueuePolicy.normalized, slotsIn]
    rw [count_empty]
    split <;> omega

/-- Queue slots are within the limits, overall and of each owner, after every history in which no
run is let into the queue while a stopping run holds a slot; and queued and running runs hold one. -/
theorem queue_slots_bounded (history : History rt (AdmitsSettled rt) (newMemoryStore policy) events s)
    (globalLimit : 0 < policy.maxGlobalRunnable) (ownerLimit : 0 < policy.maxRunnablePerOwner) :
    (s.runs.count AgentRun.holdsSlot : Int) ≤ policy.maxGlobalRunnable ∧ (∀ tenantID ownerID,
      ((s.runs.count fun run => run.ownedBy tenantID ownerID && run.holdsSlot : Nat) : Int) ≤
        policy.maxRunnablePerOwner) ∧
    (∀ runID run, s.runs.get runID = some run → run.status = .queued ∨ run.status = .running →
      run.queueSlotAcquired = true) := by
  have bounded : SlotsBounded s := history.invariant (I := SlotsBounded)
    (fun _ _ allowed bounded => apply_slotsBounded allowed.1 allowed.2 bounded)
    (newMemoryStore_slotsBounded policy)
  obtain ⟨globalSame, ownerSame⟩ :
      s.policy.maxGlobalRunnable = policy.maxGlobalRunnable ∧
        s.policy.maxRunnablePerOwner = policy.maxRunnablePerOwner := by
    refine history.invariant (I := fun s =>
      s.policy.maxGlobalRunnable = policy.maxGlobalRunnable ∧
        s.policy.maxRunnablePerOwner = policy.maxRunnablePerOwner) ?_ ?_
    · intro s input _ same
      obtain ⟨globalSame, ownerSame⟩ := apply_limits rt input s
      exact ⟨globalSame.trans same.1, ownerSame.trans same.2⟩
    · dsimp only [newMemoryStore, QueuePolicy.normalized]
      rw [if_neg (by omega), if_neg (by omega)]
      exact ⟨rfl, rfl⟩
  have overall := bounded.overall
  have owner := bounded.owner
  rw [globalSame] at overall
  rw [ownerSame] at owner
  exact ⟨by simpa [slotsIn] using overall, owner,
    fun runID run stored => (bounded.status runID run stored).1⟩

def stopThenStart : List Input := [
  ⟨.at 1 "a1", .createTaskWithRun "tenant" "ann" "write a PRD" "start"⟩,
  ⟨.at 2 "b1", .stopRun "tenant" "ann" "task-a1" "run-a1"⟩,
  ⟨.at 3 "c1", .createTaskWithRun "tenant" "bob" "write another" "start"⟩]

/-- The stopped run and the new one both hold a slot, under a limit of one. -/
theorem stopped_run_overbooks_queue : ∃ s, Reachable (.ofKnown {}) oneSlot s ∧
    (s.runs.count AgentRun.holdsSlot : Int) > oneSlot.maxGlobalRunnable := by
  exact ⟨stateAfter (.ofKnown {}) oneSlot stopThenStart, ⟨_, Accepts.history (by decide +kernel)⟩,
    by decide +kernel⟩

/-- The same two owners: the first run is acquired and stopped, nothing waits to be promoted while it is
stopping, and the second task starts when it has ended. -/
def finishThenStart : List Input := [
  ⟨.at 1 "a1", .createTaskWithRun "tenant" "ann" "write a PRD" "start"⟩,
  ⟨.at 2 "b1", .acquireRun "run-a1" "worker" 2 5⟩,
  ⟨.at 3 "b2", .stopRun "tenant" "ann" "task-a1" "run-a1"⟩,
  ⟨.at 4 "b3", .promoteWaiting 4⟩,
  ⟨.at 5 "b4", .completeRun ⟨"run-a1", "lease-b1", "worker", 1, 7⟩ .stopped 5⟩,
  ⟨.at 6 "c1", .createTaskWithRun "tenant" "bob" "write another" "start"⟩]

theorem queue_slots_bounded_finish : ∃ events s, History (.ofKnown {}) (AdmitsSettled (.ofKnown {}))
      (newMemoryStore oneSlot) events s ∧ ∃ later t, History (.ofKnown {}) (AdmitsSettled (.ofKnown {}))
      s later t ∧ ¬ NoStoppingSlot s.runs ∧ t.runs.count AgentRun.holdsSlot = 1 ∧
    (t.runs.count AgentRun.holdsSlot : Int) ≤ oneSlot.maxGlobalRunnable := by
  obtain ⟨events, s, history, later, t, onward, stopping, one⟩ : ∃ events s, History (.ofKnown {})
      (AdmitsSettled (.ofKnown {})) (newMemoryStore oneSlot) events s ∧ ∃ later t,
      History (.ofKnown {}) (AdmitsSettled (.ofKnown {})) s later t ∧ ¬ NoStoppingSlot s.runs ∧
      t.runs.count AgentRun.holdsSlot = 1 :=
    Transition.exists_runs (finishThenStart.take 4) (finishThenStart.drop 4) (by decide +kernel)
  exact ⟨events, s, history, later, t, onward, stopping, one,
    (queue_slots_bounded (history.append onward) (by decide) (by decide)).1⟩

end MemoryStore

end PrdAgent.Runcontrol
