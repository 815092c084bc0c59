import PrdAgent.Runcontrol.RunSteps

/-!
# Fencing of run leases

A worker acts on a run under a lease, which names the run's fencing token. Acquiring a run raises
its token, and nothing lowers it, so a worker that lost its run to another one holds a token below
the current one. All of this holds whatever the clocks read.
-/

namespace PrdAgent.Runcontrol

open AssocMap Transition

/-- The lease that a lease-protected operation carries. -/
def Op.lease? : Op → Option LeaseContext
  | .heartbeat lease .. | .completeRun lease .. | .recordModelAttempt lease .. |
    .appendEvidence lease .. | .saveRunArtifact lease .. | .saveCheckpoint lease .. |
    .reserveLedgerEntry lease .. | .markLedgerCallStarted lease .. |
    .finishLedgerEntry lease .. | .consumeLocalLedgerEntry lease .. |
    .submitRunOutput lease .. | .submitDraft lease .. => some lease
  | _ => none

/-- Every run is still there, its token is no lower, and it kept its status if it had ended. -/
def Advances (runs runs' : GoMap AgentRun) : Prop :=
  ∀ runID run, runs.get runID = some run → ∃ run', runs'.get runID = some run' ∧
    run.fencingToken ≤ run'.fencingToken ∧
    (run.status.terminal = true → run'.status = run.status)

variable {runID : String}

namespace Advances

variable {runs runs' runs'' : GoMap AgentRun}

theorem refl (runs : GoMap AgentRun) : Advances runs runs :=
  fun _ run stored => ⟨run, stored, le_refl _, fun _ => rfl⟩

theorem trans (first : Advances runs runs') (second : Advances runs' runs'') :
    Advances runs runs'' := by
  intro runID run stored
  obtain ⟨run', stored', token, status⟩ := first runID run stored
  obtain ⟨run'', stored'', token', status'⟩ := second runID run' stored'
  refine ⟨run'', stored'', le_trans token token', fun ended => ?_⟩
  have same := status ended
  rw [← same]
  exact status' (same ▸ ended)

theorem update {run updated : AgentRun} (stored : runs.get runID = some run)
    (live : run.status.terminal = false) (token : run.fencingToken ≤ updated.fencingToken) :
    Advances runs (runs.set runID updated) := by
  intro other found present
  rw [get_set]
  split
  · next same =>
    subst same
    cases stored.symm.trans present
    refine ⟨updated, rfl, token, fun ended => ?_⟩
    rw [live] at ended
    cases ended
  · exact ⟨found, present, le_refl _, fun _ => rfl⟩

theorem insert (run : AgentRun) (unused : runs.get runID = none) :
    Advances runs (runs.set runID run) := by
  intro other found present
  have ne : other ≠ runID := by
    intro same
    rw [same, unused] at present
    cases present
  exact ⟨found, by rw [get_set_ne _ _ ne, present], le_refl _, fun _ => rfl⟩

end Advances

theorem held_not_terminal {status : RunStatus} (held : status = .running ∨ status = .stopping) :
    status.terminal = false := by
  rcases held with rfl | rfl <;> rfl

theorem LeaseStep.advances {runs runs' : GoMap AgentRun} (step : LeaseStep runs runs') :
    Advances runs runs' := by
  cases step with
  | stopped now stored live => exact Advances.update stored live (le_refl _)
  | acquired workerID leaseID now expires stored free =>
    refine Advances.update stored ?_ (Int.le_add_one (le_refl _))
    rcases free with queued | ⟨running, -⟩
    · rw [queued]
      rfl
    · rw [running]
      rfl
  | renewed now expires stored held | completed status now stored held ended =>
    exact Advances.update stored (held_not_terminal held) (le_refl _)

theorem GrantStep.advances {policy : QueuePolicy} {runs runs' : GoMap AgentRun}
    (step : GrantStep policy runs runs') : Advances runs runs' := by
  cases step with
  | created call taskID tenantID ownerID workflow ledger unused admitted =>
    exact Advances.insert _ unused
  | promoted now stored waiting room =>
    refine Advances.update stored ?_ (le_refl _)
    rw [waiting]
    rfl

namespace MemoryStore

variable {rt : Runtime} {condition : MemoryStore → Input → Prop} {s t : MemoryStore}
  {events : List StoreEvent}

variable {input : Input}

theorem apply_advances (keyed : s.runs.Keyed AgentRun.runID)
    (fresh : Fresh s input) : Advances s.runs (apply rt input s).1.runs :=
  (apply_runs rt keyed fresh).keeps (P := Advances s.runs)
    (fun step before => before.trans step.advances)
    (fun step before => before.trans step.advances) (Advances.refl _)

theorem History.advances (history : History rt condition s events t)
    (keyed : s.runs.Keyed AgentRun.runID) : Advances s.runs t.runs := by
  refine history.relates (I := fun s => s.runs.Keyed AgentRun.runID)
    (R := fun s t => Advances s.runs t.runs) (fun s => Advances.refl s.runs) ?_ ?_ ?_ keyed
  · intro _ _ _ first second
    exact first.trans second
  · intro _ _ allowed keyed
    exact apply_keyed rt allowed.1 keyed
  · intro _ _ allowed keyed
    exact apply_advances keyed allowed.1

/-! ## Stale leases -/

/-- A lease-protected operation whose lease is not valid at any time is refused without effect. -/
theorem apply_of_invalid_lease {lease : LeaseContext} (carries : input.op.lease? = some lease)
    (invalid : ∀ now, ∃ err, s.validateLeaseLocked lease now = .error err) :
    (∃ err, (apply rt input s).2 = .error err) ∧ (apply rt input s).1 = s := by
  obtain ⟨call, op⟩ := input
  cases op
  case heartbeat carried now ttl =>
    cases carries
    obtain ⟨err, refused⟩ := invalid now
    simp [apply, replying, heartbeat, refused, Except.map]
  case completeRun carried status now =>
    cases carries
    obtain ⟨err, refused⟩ := invalid now
    simp [apply, replying, completeRun, refused, Except.map]
  all_goals cases carries
  all_goals
    obtain ⟨err, refused⟩ := invalid call.now
    simp [apply, replying, recordModelAttempt, appendEvidence, saveRunArtifact, saveCheckpoint,
      reserveLedgerEntry, markLedgerCallStarted, finishLedgerEntry, consumeLocalLedgerEntry,
      submitRunOutput, submitDraft, validateLedgerMutationLocked, refused, Except.map]

variable {run : AgentRun}

/-! ## Acquisitions -/

def Acquires (event : StoreEvent) (runID : String) (run : AgentRun) : Prop :=
  (∃ workerID now ttl, event.input.op = .acquireRun runID workerID now ttl) ∧
    event.reply = .ok (.run run)

theorem Acquires.of_step (acquires : Acquires (.of (apply rt) s input) runID run) :
    ∃ before, s.runs.get runID = some before ∧ run.fencingToken = before.fencingToken + 1 ∧
      (apply rt input s).1.runs.get runID = some run := by
  obtain ⟨call, op⟩ := input
  obtain ⟨⟨workerID, now, ttl, rfl⟩, replied⟩ := acquires
  have acquired : (acquireRun call runID workerID now ttl s).2 = .ok run := by
    dsimp only [Event.of, apply, replying] at replied
    cases result : (acquireRun call runID workerID now ttl s).2 with
    | error err =>
      rw [result] at replied
      cases replied
    | ok value =>
      rw [result] at replied
      cases replied
      rfl
  change ∃ before, _ ∧ _ ∧ (acquireRun call runID workerID now ttl s).1.runs.get runID = some run
  unfold acquireRun fail at acquired ⊢
  cases stored : s.runs.get runID with
  | none =>
    rw [stored] at acquired
    cases acquired
  | some before =>
    rw [stored] at acquired
    dsimp only at acquired ⊢
    split at acquired
    · next free =>
      cases acquired
      rw [if_pos free]
      exact ⟨before, rfl, rfl, get_set_self _ _ _⟩
    · split at acquired <;> cases acquired

theorem token_since_acquired {earlier between later : List StoreEvent}
    {first second : StoreEvent} (keyed : s.runs.Keyed AgentRun.runID)
    (history : History rt condition s (earlier ++ first :: between ++ second :: later) t)
    (acquires : Acquires first runID run) :
    ∃ u current, second = .of (apply rt) u second.input ∧ u.runs.get runID = some current ∧
      run.fencingToken ≤ current.fencingToken := by
  rw [List.append_assoc] at history
  obtain ⟨a, toFirst, fromFirst⟩ := history.split
  have keyedFirst : a.runs.Keyed AgentRun.runID := toFirst.invariant
    (I := fun s => s.runs.Keyed AgentRun.runID)
    (fun _ _ allowed keyed => apply_keyed rt allowed.1 keyed) keyed
  obtain ⟨firstStep, allowed, rest⟩ := fromFirst.uncons
  rw [firstStep] at acquires
  obtain ⟨before, -, -, stored⟩ := acquires.of_step
  obtain ⟨u, toSecond, fromSecond⟩ := rest.split
  have after : first.after = (apply rt first.input a).1 := congrArg (·.after) firstStep
  rw [after] at toSecond
  have keyedAfter := apply_keyed rt allowed.1 keyedFirst
  obtain ⟨current, kept, token, -⟩ := History.advances toSecond keyedAfter runID run stored
  exact ⟨u, current, fromSecond.uncons.1, kept, token⟩

/-- Fencing safety of run leases, over every history and for every run: later acquisitions return
higher tokens; at most one lease triple is valid; once a token was given out, calls under lower
tokens are refused and change nothing; and a run that ended keeps its status. -/
theorem leases_fenced {policy : QueuePolicy}
    (history : History rt (fun _ _ => True) (newMemoryStore policy) events s) (runID : String) :
    (∀ (earlier between later : List StoreEvent) (first second : StoreEvent) (run run' : AgentRun),
      events = earlier ++ first :: between ++ second :: later →
      Acquires first runID run → Acquires second runID run' →
      run.fencingToken < run'.fencingToken) ∧
    (∀ (run : AgentRun) (lease lease' : LeaseContext) (now now' : Time), s.runs.get runID = some run →
      validLease run lease now = true → validLease run lease' now' = true →
      lease.leaseID = lease'.leaseID ∧ lease.workerID = lease'.workerID ∧
        lease.fencingToken = lease'.fencingToken) ∧
    (∀ (earlier between later : List StoreEvent) (first stale : StoreEvent) (run : AgentRun)
        (lease : LeaseContext), events = earlier ++ first :: between ++ stale :: later →
      Acquires first runID run → stale.input.op.lease? = some lease → lease.runID = runID →
      lease.fencingToken < run.fencingToken →
      (∃ err, stale.reply = .error err) ∧ stale.after = stale.before) ∧
    (∀ (earlier later : List StoreEvent) (event : StoreEvent) (run : AgentRun),
      events = earlier ++ event :: later →
      event.before.runs.get runID = some run → run.status.terminal = true →
      ∃ run', s.runs.get runID = some run' ∧ run'.status = run.status) := by
  have keyed : (newMemoryStore policy).runs.Keyed AgentRun.runID := .empty _
  refine ⟨?_, ?_, ?_, ?_⟩
  · intro earlier between later first second run run' split acquires acquires'
    subst split
    obtain ⟨u, current, step, stored, token⟩ := token_since_acquired keyed history acquires
    rw [step] at acquires'
    obtain ⟨before, found, raised, -⟩ := acquires'.of_step
    cases stored.symm.trans found
    omega
  · intro run lease lease' now now' _ valid valid'
    unfold validLease at valid valid'
    simp only [Bool.and_eq_true, beq_iff_eq] at valid valid'
    obtain ⟨⟨⟨⟨-, leaseID⟩, workerID⟩, token⟩, -⟩ := valid
    obtain ⟨⟨⟨⟨-, leaseID'⟩, workerID'⟩, token'⟩, -⟩ := valid'
    exact ⟨leaseID.symm.trans leaseID', workerID.symm.trans workerID', token.symm.trans token'⟩
  · intro earlier between later first stale run lease split acquires carries ofRun lower
    subst split
    obtain ⟨u, current, step, stored, token⟩ := token_since_acquired keyed history acquires
    have refused : ∀ now, ∃ err, u.validateLeaseLocked lease now = .error err := by
      intro now
      have differ : (current.fencingToken == lease.fencingToken) = false := by
        rw [beq_eq_false_iff_ne]
        omega
      exact ⟨⟨.leaseLost, ""⟩, by simp [validateLeaseLocked, ofRun ▸ stored, validLease, differ]⟩
    rw [step]
    exact apply_of_invalid_lease carries refused
  · intro earlier later event run split stored ended
    subst split
    obtain ⟨u, toEvent, fromEvent⟩ := Run.split history
    have keyedEvent := toEvent.invariant (I := fun s => s.runs.Keyed AgentRun.runID)
      (fun _ _ allowed keyed => apply_keyed rt allowed.1 keyed) keyed
    have before : event.before = u := congrArg (·.before) fromEvent.uncons.1
    rw [before] at stored
    obtain ⟨run', kept, -, status⟩ := History.advances fromEvent keyedEvent runID run stored
    exact ⟨run', kept, status ended⟩

/-- A task is started, a worker acquires its run, another worker takes the run over once the lease
ran out, and the first worker still sends a heartbeat. -/
def takeover : List Input := [
  ⟨.at 1 "a1", .createTaskWithRun "tenant" "owner" "write a PRD" "start"⟩,
  ⟨.at 2 "b1", .acquireRun "run-a1" "worker-1" 2 5⟩,
  ⟨.at 8 "c1", .acquireRun "run-a1" "worker-2" 8 5⟩,
  ⟨.at 9 "d1", .heartbeat ⟨"run-a1", "lease-b1", "worker-1", 1, 7⟩ 9 5⟩]

theorem leases_fenced_takeover : ∃ created first second stale run run',
      eventsFrom (apply (.ofKnown {})) takeover (newMemoryStore oneSlot) =
        [created, first, second, stale] ∧
      Acquires first "run-a1" run ∧ Acquires second "run-a1" run' ∧
      run.fencingToken < run'.fencingToken ∧
      (∃ err, stale.reply = .error err) ∧ stale.after = stale.before := by
  have history : History (.ofKnown {}) (fun _ _ => True) (newMemoryStore oneSlot)
      (eventsFrom (apply (.ofKnown {})) takeover (newMemoryStore oneSlot)) _ :=
    .ofInputs (by decide +kernel)
  have replies : (eventsFrom (apply (.ofKnown {})) takeover (newMemoryStore oneSlot)).map
      (fun event => (Reply.run? event.reply).map (·.fencingToken)) =
        [none, some 1, some 2, none] := by decide +kernel
  simp only [takeover, eventsFrom, List.map_cons, List.cons.injEq,
    Option.map_eq_some_iff] at replies
  obtain ⟨-, ⟨run, found, -⟩, ⟨run', found', token⟩, -⟩ := replies
  have acquires := Reply.run?_eq_some.mp found
  have acquires' := Reply.run?_eq_some.mp found'
  obtain ⟨increasing, -, fenced, -⟩ := leases_fenced history "run-a1"
  refine ⟨_, _, _, _, run, run', rfl, ⟨⟨_, _, _, rfl⟩, acquires⟩,
    ⟨⟨_, _, _, rfl⟩, acquires'⟩, ?_, ?_⟩
  · exact increasing [_] [] [_] _ _ run run' rfl ⟨⟨_, _, _, rfl⟩, acquires⟩
      ⟨⟨_, _, _, rfl⟩, acquires'⟩
  · refine fenced [_, _] [] [] _ _ run' _ rfl ⟨⟨_, _, _, rfl⟩, acquires'⟩ rfl rfl ?_
    rw [token]
    decide

end MemoryStore

end PrdAgent.Runcontrol
