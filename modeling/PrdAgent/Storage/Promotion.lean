import Mathlib.Algebra.Order.Ring.Int
import Mathlib.Data.Nat.Cast.Order.Ring
import Mathlib.Order.WithBot
import PrdAgent.Library.FairQueue
import PrdAgent.Runcontrol.RunSteps
import PrdAgent.Storage.Admission

/-!
# Promotion of waiting runs in the two stores

The in-memory `PromoteWaiting` sorts the waiting runs once and promotes each that finds room under
both limits. The PostgreSQL one repeats a `SELECT … LIMIT 1` for a waiting run whose owner has no
runnable run, so it never looks at the owner limit and gives an owner one place at most. Both are
passes over one queue: `promoteAll_admits` with the owner limit of the policy, `promoteRounds_admits`
with owner limit one.
-/

namespace PrdAgent.Storage

open Runcontrol FairQueue AssocMap
open MemoryStore (waitingBefore)

def ownerOf (run : AgentRun) : String × String := (run.tenantID, run.ownerID)

def queuedRun (now : Time) (run : AgentRun) : AgentRun :=
  { run with status := .queued, queueSlotAcquired := true, updatedAt := now }

/-! ## The PostgreSQL store -/

/-- An order of texts that `ORDER BY` uses. -/
structure Collation where
  le : String → String → Bool
  total : ∀ left right, le left right = true ∨ le right left = true
  trans : ∀ left middle right, le left middle = true → le middle right = true →
    le left right = true

inductive SlotState
  | acquired | released
deriving DecidableEq

/-- A row of `go_queue_slots`. -/
structure SlotRow where
  slotID : String
  runID : String
  tenantID : String
  ownerID : String
  state : SlotState
  acquiredAt : Time
  releasedAt : Option Time

/-- The object `jsonb_build_object` makes for a requested run. -/
structure RunRequest where
  runID : String
  taskID : String
  reason : String

/-- A row of `go_outbox_messages`. -/
structure OutboxRow where
  messageID : String
  aggregateID : String
  eventType : String
  payload : RunRequest
  availableAt : Time
  publishedAt : Option Time := none
  attempts : Int := 0
  claimedAt : Option Time := none

/-- The tables `PromoteWaiting` works on: `go_agent_runs`, `go_queue_slots` by run,
`go_outbox_messages` and `go_user_schedule_cursor` by tenant and owner. -/
structure QueueTables where
  runs : GoMap RunRow := ∅
  slots : GoMap SlotRow := ∅
  outbox : GoMap OutboxRow := ∅
  cursors : AssocMap (String × String) Time := ∅

/-- `cursor.last_dispatched_at` of the left join; a missing cursor comes before all times. -/
def lastDispatched (cursors : AssocMap (String × String) Time) (row : RunRow) : WithBot Time :=
  cursors.get (ownerOf row.run)

/-- `ORDER BY cursor.last_dispatched_at NULLS FIRST, r.created_at, r.run_id`. -/
def dispatchedBefore (collation : Collation) (cursors : AssocMap (String × String) Time)
    (left right : RunRow) : Bool :=
  precedes (lastDispatched cursors) (fun row => row.run.createdAt)
    (fun left right => collation.le left.run.runID right.run.runID) left right

namespace QueueTables

variable (t : QueueTables)

/-- The `WHERE` clause: the run waits and no run of its owner is runnable. -/
def eligible (row : RunRow) : Bool :=
  row.run.status == .waitingCapacity && activeOwner t.runs row.run.tenantID row.run.ownerID == 0

/-- The `SELECT` of the loop, whose row locks nobody else holds. -/
def selectWaiting (collation : Collation) : Option RunRow :=
  ((t.runs.values.filter t.eligible).insertionSort
    fun left right => dispatchedBefore collation t.cursors left right).head?

/-- `INSERT INTO go_queue_slots … ON CONFLICT (run_id) DO UPDATE`. -/
def acquireSlot (run : AgentRun) (now : Time) : GoMap SlotRow :=
  match t.slots.get run.runID with
  | some slot =>
    t.slots.set run.runID { slot with state := .acquired, acquiredAt := now, releasedAt := none }
  | none => t.slots.set run.runID {
      slotID := "slot-" ++ run.runID, runID := run.runID, tenantID := run.tenantID
      ownerID := run.ownerID, state := .acquired, acquiredAt := now, releasedAt := none }

/-- `INSERT INTO go_outbox_messages … ON CONFLICT (message_id) DO NOTHING`. -/
def requestRun (run : AgentRun) (now : Time) : GoMap OutboxRow :=
  let messageID := "outbox-" ++ run.runID
  match t.outbox.get messageID with
  | some _ => t.outbox
  | none => t.outbox.set messageID {
      messageID := messageID, aggregateID := run.runID, eventType := "agent.run.requested"
      payload := ⟨run.runID, run.taskID, "CAPACITY_AVAILABLE"⟩, availableAt := now }

/-- The four statements that follow the `SELECT`. -/
def promote (row : RunRow) (now : Time) : QueueTables where
  runs := t.runs.set row.run.runID (Database.promotedRow row now)
  slots := t.acquireSlot row.run now
  outbox := t.requestRun row.run now
  cursors := t.cursors.set (ownerOf row.run) now

/-- The run the loop returns. The `SELECT` does not read the versions of the run. -/
def returnedRun (row : RunRow) (now : Time) : AgentRun :=
  { queuedRun now row.run with workflowVersion := .other "", executionLedgerVersion := .unset }

/-- The loop of `PromoteWaiting`, with the number of rounds the global limit still allows. -/
def promoteRounds (collation : Collation) (now : Time) :
    Nat → QueueTables → List AgentRun → QueueTables × List AgentRun
  | 0, t, promoted => (t, promoted)
  | rounds + 1, t, promoted =>
    match t.selectWaiting collation with
    | none => (t, promoted)
    | some row =>
      promoteRounds collation now rounds (t.promote row now) (promoted ++ [returnedRun row now])

def promoteWaiting (limits : Limits) (collation : Collation) (now : Time) :
    QueueTables × List AgentRun :=
  promoteRounds collation now (limits.maxGlobalRunnable - activeGlobal t.runs).toNat t []

end QueueTables

/-! ## Runs with a place -/

section Places

variable {ρ : Type} (run : ρ → AgentRun)

/-- The runnable runs, altogether and of each owner. -/
def runLoad (runs : GoMap ρ) : Load (String × String) where
  total := runs.count fun value => (run value).runnable
  held := fun owner => runs.count fun value =>
    (run value).ownedBy owner.1 owner.2 && (run value).runnable

def placed (grant : ρ → ρ) (runs : GoMap ρ) (admitted : List ρ) : GoMap ρ :=
  admitted.foldl (fun runs value => runs.set (run value).runID (grant value)) runs

/-- The runs are stored, wait, and no two have one identifier. -/
structure Queued (runs : GoMap ρ) (queue : List ρ) : Prop where
  distinct : (queue.map fun value => (run value).runID).Nodup
  stored : ∀ value ∈ queue, runs.get (run value).runID = some value
  waiting : ∀ value ∈ queue, (run value).status = .waitingCapacity

variable {run} {runs : GoMap ρ} {queue : List ρ} {grant : ρ → ρ} {value : ρ} {now : Time}

theorem Queued.sublist {queue' : List ρ} (queued : Queued run runs queue)
    (sub : queue'.Sublist queue) : Queued run runs queue' :=
  ⟨queued.distinct.sublist (sub.map _), fun other mem => queued.stored other (sub.subset mem),
    fun other mem => queued.waiting other (sub.subset mem)⟩

theorem Queued.next (queued : Queued run runs (value :: queue)) (after : ρ) :
    Queued run (runs.set (run value).runID after) queue := by
  have distinct := List.nodup_cons.mp queued.distinct
  refine ⟨distinct.2, fun other mem => ?_, fun other mem => queued.waiting other (.tail _ mem)⟩
  have ne : (run other).runID ≠ (run value).runID := fun same =>
    distinct.1 (List.mem_map.mpr ⟨other, mem, same⟩)
  rw [get_set_ne _ _ ne]
  exact queued.stored other (.tail _ mem)

theorem runLoad_set (queued : Queued run runs (value :: queue)) {after : ρ}
    (granted : run after = queuedRun now (run value)) :
    runLoad run (runs.set (run value).runID after) =
      (runLoad run runs).add (ownerOf (run value)) := by
  have stored := queued.stored value (.head _)
  have before : (run value).runnable = false := by
    unfold AgentRun.runnable
    rw [queued.waiting value (.head _)]
    exact Bool.and_false _
  have placed : (run after).runnable = true := by
    rw [granted]
    rfl
  have counted (p : ρ → Bool) := count_set_of_get runs p _ after value stored
  unfold runLoad Load.add
  congr 1
  · have total := counted fun value => (run value).runnable
    rw [if_neg (by simp [before]), if_pos placed] at total
    exact total
  · funext owner
    have held := counted fun value => (run value).ownedBy owner.1 owner.2 && (run value).runnable
    rw [before, Bool.and_false, placed, Bool.and_true, granted] at held
    have owned : (queuedRun now (run value)).ownedBy owner.1 owner.2 = true ↔
        owner = ownerOf (run value) := by
      unfold AgentRun.ownedBy
      rw [Bool.and_eq_true, beq_iff_eq, beq_iff_eq, Prod.ext_iff]
      exact and_congr eq_comm eq_comm
    rw [if_neg Bool.false_ne_true] at held
    simp only [owned] at held
    rw [Function.update_apply]
    split
    · next same =>
      subst same
      rwa [if_pos rfl] at held
    · next other => rwa [if_neg other] at held

theorem runLoad_placed (queued : Queued run runs queue)
    (granted : ∀ value, run (grant value) = queuedRun now (run value)) :
    runLoad run (placed run grant runs queue) =
      (runLoad run runs).addAll (fun value => ownerOf (run value)) queue := by
  induction queue generalizing runs with
  | nil => rfl
  | cons value rest ih =>
    have tail := ih (queued.next (grant value))
    rw [runLoad_set queued (granted value)] at tail
    exact tail

/-- After a pass over all waiting runs, a run that still waits finds one of the limits reached. -/
theorem full_of_waiting {totalLimit heldLimit : Int} {admitted : List ρ}
    (queued : Queued run runs queue)
    (complete : ∀ runID value, runs.get runID = some value →
      (run value).status = .waitingCapacity → value ∈ queue)
    (keyed : runs.Keyed fun value => (run value).runID)
    (granted : ∀ value, run (grant value) = queuedRun now (run value))
    (is : admitted = admitAll (fun value => ownerOf (run value)) totalLimit heldLimit queue
      (runLoad run runs))
    {runID : String} (stored : (placed run grant runs admitted).get runID = some value)
    (waits : (run value).status = .waitingCapacity) :
    (runLoad run (placed run grant runs admitted)).Full totalLimit heldLimit
      (ownerOf (run value)) := by
  have sub : admitted.Sublist queue := is ▸ admitAll_sublist _ _ _ queue _
  have among := queued.sublist sub
  -- a run with a place does not wait
  have out : runID ∉ admitted.map fun value => (run value).runID := by
    intro listed
    obtain ⟨other, mem, rfl⟩ := List.mem_map.mp listed
    cases (get_addAll_of_mem among.distinct mem).symm.trans stored
    rw [granted] at waits
    cases waits
  have stored := (get_addAll_of_not_mem out).symm.trans stored
  rw [runLoad_placed among granted, is]
  refine full_of_not_mem_admitAll (complete runID value stored waits) fun mem => out ?_
  rw [← is] at mem
  exact List.mem_map.mpr ⟨value, mem, keyed runID value stored⟩

end Places

/-! ## The in-memory pass -/

theorem atCapacityLocked_iff {s : MemoryStore} {run : AgentRun} :
    s.atCapacityLocked run.tenantID run.ownerID = true ↔
      (runLoad id s.runs).Full s.policy.maxGlobalRunnable s.policy.maxRunnablePerOwner
        (ownerOf run) := by
  unfold MemoryStore.atCapacityLocked
  rw [Bool.or_eq_true, decide_eq_true_eq, decide_eq_true_eq]
  rfl

/-- The loop of the in-memory store is one pass under the limits of the policy. -/
theorem promoteAll_admits (now : Time) {ordered : List AgentRun} {s : MemoryStore}
    (promoted : List AgentRun) (queued : Queued id s.runs ordered) :
    let admitted := admitAll ownerOf s.policy.maxGlobalRunnable s.policy.maxRunnablePerOwner ordered
      (runLoad id s.runs)
    (MemoryStore.promoteAll now ordered s promoted).2 = promoted ++ admitted.map (queuedRun now) ∧
      (MemoryStore.promoteAll now ordered s promoted).1.runs =
        placed id (queuedRun now) s.runs admitted := by
  induction ordered generalizing s promoted with
  | nil => exact ⟨(List.append_nil promoted).symm, rfl⟩
  | cons run rest ih =>
    intro admitted
    have policy := MemoryStore.promoteOne_policy now run s promoted
    have stored : s.runs.get run.runID = some run := queued.stored run (.head _)
    unfold MemoryStore.promoteAll
    by_cases full : s.atCapacityLocked run.tenantID run.ownerID = true
    · have skipped : MemoryStore.promoteOne now run s promoted = (s, promoted) := by
        unfold MemoryStore.promoteOne
        rw [if_pos full]
      have pass : admitted = _ := admitAll_cons_of_full (atCapacityLocked_iff.mp full)
      rw [skipped, pass]
      exact ih promoted (queued.sublist (List.sublist_cons_self _ _))
    · have taken : (MemoryStore.promoteOne now run s promoted).1.runs =
          s.runs.set run.runID (queuedRun now run) ∧
          (MemoryStore.promoteOne now run s promoted).2 = promoted ++ [queuedRun now run] := by
        unfold MemoryStore.promoteOne
        rw [if_neg full, stored]
        exact ⟨rfl, rfl⟩
      have pass : admitted = _ :=
        admitAll_cons_of_room fun room => full (atCapacityLocked_iff.mpr room)
      have load : runLoad id (s.runs.set run.runID (queuedRun now run)) =
          (runLoad id s.runs).add (ownerOf run) := runLoad_set queued rfl
      have tail := ih (MemoryStore.promoteOne now run s promoted).2
        (taken.1 ▸ queued.next (queuedRun now run))
      rw [taken.1, taken.2, policy, load] at tail
      dsimp only
      rw [pass, taken.2]
      refine ⟨tail.1.trans ?_, tail.2⟩
      rw [List.append_assoc]
      rfl

/-! ## The rounds of the PostgreSQL store -/

section Rounds

variable {collation : Collation} {cursors : AssocMap (String × String) Time} {t : QueueTables}
  {queue : List RunRow} {row : RunRow} {now : Time}

/-- The `SELECT` finds the row that comes before all other eligible ones. -/
theorem selectWaiting_eq (stored : row ∈ t.runs.values) (eligible : t.eligible row = true)
    (first : ∀ other ∈ t.runs.values, t.eligible other = true → other ≠ row →
      dispatchedBefore collation t.cursors row other = true ∧
        row.run.createdAt ≠ other.run.createdAt) :
    t.selectWaiting collation = some row := by
  have sorted : ((t.runs.values.filter t.eligible).insertionSort
      fun left right => dispatchedBefore collation t.cursors left right).Pairwise
      fun left right => dispatchedBefore collation t.cursors left right = true :=
    precedes_pairwise (fun left right => collation.total left.run.runID right.run.runID)
      (fun left middle right => collation.trans left.run.runID middle.run.runID right.run.runID) _
  have mem (other : RunRow) : other ∈ (t.runs.values.filter t.eligible).insertionSort
      (fun left right => dispatchedBefore collation t.cursors left right) ↔
      other ∈ t.runs.values ∧ t.eligible other = true := by
    rw [List.mem_insertionSort, List.mem_filter]
  unfold QueueTables.selectWaiting
  generalize (t.runs.values.filter t.eligible).insertionSort
    (fun left right => dispatchedBefore collation t.cursors left right) = rows at sorted mem
  have here := (mem row).mpr ⟨stored, eligible⟩
  cases rows with
  | nil => cases here
  | cons least rest =>
    by_cases is : least = row
    · rw [is]
      rfl
    have least' := (mem least).mp (.head _)
    obtain ⟨before, older⟩ := first least least'.1 least'.2 is
    have after := (List.pairwise_cons.mp sorted).1 row
      ((List.mem_cons.mp here).resolve_left (Ne.symm is))
    exact absurd (age_eq_of_precedes before after) older

/-- What is left of the queue while the rounds go on. The turns of owners without a runnable run are
still those of the beginning. -/
structure Remaining (collation : Collation) (cursors : AssocMap (String × String) Time)
    (t : QueueTables) (queue : List RunRow) : Prop where
  queued : Queued RunRow.run t.runs queue
  complete : ∀ row ∈ t.runs.values, t.eligible row = true → row ∈ queue
  ordered : queue.Pairwise fun left right =>
    dispatchedBefore collation cursors left right = true ∧
      left.run.createdAt ≠ right.run.createdAt
  turns : ∀ owner, (runLoad RunRow.run t.runs).held owner = 0 →
    t.cursors.get owner = cursors.get owner

theorem eligible_iff : t.eligible row = true ↔ row.run.status = .waitingCapacity ∧
    (runLoad RunRow.run t.runs).held (ownerOf row.run) = 0 := by
  unfold QueueTables.eligible
  rw [Bool.and_eq_true, beq_iff_eq, beq_iff_eq]
  rfl

section

variable (remaining : Remaining collation cursors t (row :: queue))

include remaining

theorem Remaining.skip
    (busy : (runLoad RunRow.run t.runs).held (ownerOf row.run) ≠ 0) :
    Remaining collation cursors t queue where
  queued := remaining.queued.sublist (List.sublist_cons_self _ _)
  complete := by
    intro other stored eligible
    rcases List.mem_cons.mp (remaining.complete other stored eligible) with rfl | mem
    · exact absurd (eligible_iff.mp eligible).2 busy
    · exact mem
  ordered := (List.pairwise_cons.mp remaining.ordered).2
  turns := remaining.turns

theorem Remaining.selects
    (idle : (runLoad RunRow.run t.runs).held (ownerOf row.run) = 0) :
    t.selectWaiting collation = some row := by
  have stored := mem_values.mpr ⟨_, remaining.queued.stored row (.head _)⟩
  refine selectWaiting_eq stored
    (eligible_iff.mpr ⟨remaining.queued.waiting row (.head _), idle⟩)
    fun other there eligible ne => ?_
  have mem := (List.mem_cons.mp (remaining.complete other there eligible)).resolve_left ne
  obtain ⟨before, older⟩ := (List.pairwise_cons.mp remaining.ordered).1 other mem
  refine ⟨?_, older⟩
  -- both owners have no runnable run, so their turns have not changed
  unfold dispatchedBefore precedes lastDispatched at before ⊢
  rw [remaining.turns _ idle, remaining.turns _ (eligible_iff.mp eligible).2]
  exact before

theorem Remaining.load :
    runLoad RunRow.run (t.promote row now).runs =
      (runLoad RunRow.run t.runs).add (ownerOf row.run) :=
  runLoad_set remaining.queued rfl

theorem Remaining.promote :
    Remaining collation cursors (t.promote row now) queue where
  queued := remaining.queued.next _
  complete := by
    intro other stored eligible
    obtain ⟨runID, there⟩ := mem_values.mp stored
    obtain ⟨waits, idle⟩ := eligible_iff.mp eligible
    rcases get_set_eq_some there with ⟨rfl, rfl⟩ | ⟨ne, before⟩
    · cases waits
    rw [remaining.load] at idle
    have idle' : (runLoad RunRow.run t.runs).held (ownerOf other.run) = 0 :=
      Nat.eq_zero_of_le_zero ((Load.le_held_add _ _ _).trans idle.le)
    have mem := remaining.complete other (mem_values.mpr ⟨runID, before⟩)
      (eligible_iff.mpr ⟨waits, idle'⟩)
    refine (List.mem_cons.mp mem).resolve_left ?_
    rintro rfl
    rw [Load.held_add, if_pos rfl] at idle
    cases idle
  ordered := (List.pairwise_cons.mp remaining.ordered).2
  turns := by
    intro owner idle
    rw [remaining.load, Load.held_add] at idle
    split at idle
    · cases idle
    · next ne => exact (get_set_ne _ _ ne).trans (remaining.turns owner idle)

end

/-- The rounds are one pass over the queue with owner limit one. -/
theorem promoteRounds_admits {limit : Int} {rounds : Nat} (promoted : List AgentRun)
    (remaining : Remaining collation cursors t queue)
    (left : rounds = (limit - (runLoad RunRow.run t.runs).total).toNat) :
    let admitted := admitAll (fun row => ownerOf row.run) limit 1 queue (runLoad RunRow.run t.runs)
    (QueueTables.promoteRounds collation now rounds t promoted).2 =
        promoted ++ admitted.map (QueueTables.returnedRun · now) ∧
      (QueueTables.promoteRounds collation now rounds t promoted).1.runs =
        placed RunRow.run (Database.promotedRow · now) t.runs admitted := by
  induction queue generalizing t rounds promoted with
  | nil =>
    have none : t.selectWaiting collation = none := by
      unfold QueueTables.selectWaiting
      rw [List.filter_eq_nil_iff.mpr fun row stored eligible =>
        absurd (remaining.complete row stored eligible) List.not_mem_nil]
      rfl
    cases rounds with
    | zero => exact ⟨(List.append_nil promoted).symm, rfl⟩
    | succ rounds =>
      unfold QueueTables.promoteRounds
      rw [none]
      exact ⟨(List.append_nil promoted).symm, rfl⟩
  | cons row rest ih =>
    intro admitted
    by_cases busy : (runLoad RunRow.run t.runs).held (ownerOf row.run) = 0
    · cases rounds with
      | zero =>
        have none : admitted = [] := admitAll_eq_nil (by omega)
        rw [none]
        exact ⟨(List.append_nil promoted).symm, rfl⟩
      | succ rounds =>
        have pass : admitted = row :: _ := admitAll_cons_of_room (by
          rintro (total | held)
          · omega
          · rw [busy] at held
            cases held)
        have next : Remaining collation cursors (t.promote row now) rest := remaining.promote
        have fewer : rounds =
            (limit - (runLoad RunRow.run (t.promote row now).runs).total).toNat := by
          rw [remaining.load]
          change rounds = (limit - ((_ + 1 : Nat) : Int)).toNat
          omega
        have tail := ih (promoted ++ [QueueTables.returnedRun row now]) next fewer
        rw [remaining.load] at tail
        unfold QueueTables.promoteRounds
        rw [remaining.selects busy, pass]
        refine ⟨tail.1.trans ?_, tail.2⟩
        rw [List.append_assoc]
        rfl
    · have pass : admitted = _ := admitAll_cons_of_full (.inr (by omega))
      rw [pass]
      exact ih promoted (remaining.skip busy) left

end Rounds

/-! ## One queue in two stores -/

/-- The two stores hold the same runs and last turns of the owners. A turn lies after the zero time,
and no two waiting runs were created at the same time. -/
structure SameQueue (s : MemoryStore) (t : QueueTables) : Prop where
  keyed : s.runs.Keyed AgentRun.runID
  runs : ∀ runID, s.runs.get runID = (t.runs.get runID).map RunRow.run
  turns : ∀ tenantID ownerID,
    s.lastScheduled.get (scheduleOwnerKey tenantID ownerID) = t.cursors.get (tenantID, ownerID)
  recorded : ∀ owner time, t.cursors.get owner = some time → 0 < time
  distinct : ∀ runID run otherID other, s.runs.get runID = some run →
    s.runs.get otherID = some other → run.status = .waitingCapacity →
    other.status = .waitingCapacity → run.createdAt = other.createdAt → run = other

def waitingQueue (call : Call) (s : MemoryStore) : List AgentRun :=
  (((s.runs.range call.order).map Prod.snd).filter (·.status == .waitingCapacity)).insertionSort
    fun left right => waitingBefore s left right

def lastScheduledTurn (s : MemoryStore) (run : AgentRun) : Time :=
  (s.lastScheduled.get (scheduleOwnerKey run.tenantID run.ownerID)).getD 0

theorem waitingBefore_eq (s : MemoryStore) (left right : AgentRun) :
    waitingBefore s left right = precedes (lastScheduledTurn s) (·.createdAt)
      (fun left right => decide (left.runID ≤ right.runID)) left right := by
  unfold waitingBefore precedes lastScheduledTurn
  rfl

theorem waitingQueue_pairwise (call : Call) (s : MemoryStore) :
    (waitingQueue call s).Pairwise fun left right =>
      waitingBefore s left right = true := by
  unfold waitingQueue
  simp only [waitingBefore_eq]
  refine precedes_pairwise (fun left right => ?_) (fun _ _ _ first second => ?_) _
  · simpa using String.le_total left.runID right.runID
  · rw [decide_eq_true_eq] at first second ⊢
    exact String.le_trans first second

section Same

variable {s : MemoryStore} {t : QueueTables} {call : Call} {run other : AgentRun}

theorem mem_waitingQueue (call : Call) (keyed : s.runs.Keyed AgentRun.runID) :
    run ∈ waitingQueue call s ↔
      s.runs.get run.runID = some run ∧ run.status = .waitingCapacity := by
  unfold waitingQueue
  rw [List.mem_insertionSort, List.mem_filter, List.mem_map, beq_iff_eq]
  refine and_congr_left fun _ => ⟨?_, fun stored => ?_⟩
  · rintro ⟨⟨runID, found⟩, mem, rfl⟩
    have stored := (mem_range (call.order_perm s.runs.keys)).mp mem
    rw [keyed runID found stored]
    exact stored
  · exact ⟨(run.runID, run), (mem_range (call.order_perm s.runs.keys)).mpr stored, rfl⟩

theorem mem_waitingQueue_of_get (call : Call) (keyed : s.runs.Keyed AgentRun.runID) {runID : String}
    (stored : s.runs.get runID = some run) (waits : run.status = .waitingCapacity) :
    run ∈ waitingQueue call s :=
  (mem_waitingQueue call keyed).mpr ⟨keyed runID run stored ▸ stored, waits⟩

theorem queued_waitingQueue (call : Call) (keyed : s.runs.Keyed AgentRun.runID) :
    Queued id s.runs (waitingQueue call s) where
  distinct := by
    refine ((List.perm_insertionSort _ _).map _).nodup_iff.mpr ?_
    exact (keyed.range_nodup (call.order_perm _)).sublist (List.filter_sublist.map _)
  stored := fun run mem => ((mem_waitingQueue call keyed).mp mem).1
  waiting := fun run mem => ((mem_waitingQueue call keyed).mp mem).2

theorem SameQueue.dispatchedBefore (same : SameQueue s t) (collation : Collation)
    {left right : RunRow} (before : waitingBefore s left.run right.run = true)
    (differ : left.run.createdAt ≠ right.run.createdAt) :
    Storage.dispatchedBefore collation t.cursors left right = true := by
  have turn (row : RunRow) : lastScheduledTurn s row.run =
      (t.cursors.get (ownerOf row.run)).getD 0 := by
    unfold lastScheduledTurn
    rw [same.turns]
    rfl
  rw [waitingBefore_eq, precedes_iff, turn, turn] at before
  have before := before.imp_right fun ⟨tied, tie⟩ =>
    And.intro tied (tie.resolve_right fun both => differ both.1)
  unfold Storage.dispatchedBefore
  rw [precedes_iff]
  unfold lastDispatched
  have positive := same.recorded (ownerOf left.run)
  have positive' := same.recorded (ownerOf right.run)
  generalize t.cursors.get (ownerOf left.run) = turnLeft at before positive ⊢
  generalize t.cursors.get (ownerOf right.run) = turnRight at before positive' ⊢
  match turnLeft, turnRight with
  | none, none => exact .inr ⟨rfl, .inl (before.resolve_left (lt_irrefl _)).2⟩
  | none, some time => exact .inl (WithBot.bot_lt_coe time)
  | some time, none =>
    have after := positive time rfl
    exact (before.elim after.not_gt fun tied => after.ne' tied.1).elim
  | some time, some time' =>
    exact before.imp WithBot.coe_lt_coe.mpr fun ⟨tied, older⟩ => ⟨congrArg some tied, .inl older⟩

def waitingRows (call : Call) (s : MemoryStore) (t : QueueTables) : List RunRow :=
  (waitingQueue call s).filterMap fun run => t.runs.get run.runID

section

variable (same : SameQueue s t)

include same

theorem SameQueue.row_of_mem (mem : run ∈ waitingQueue call s) :
    ∃ row, t.runs.get run.runID = some row ∧ row.run = run := by
  have stored := ((mem_waitingQueue call same.keyed).mp mem).1
  rw [same.runs] at stored
  exact Option.map_eq_some_iff.mp stored

theorem SameQueue.map_waitingRows :
    (waitingRows call s t).map RunRow.run = waitingQueue call s := by
  unfold waitingRows
  rw [List.map_filterMap]
  have some : ∀ run ∈ waitingQueue call s, (t.runs.get run.runID).map RunRow.run = some run := by
    intro run mem
    obtain ⟨row, stored, rfl⟩ := same.row_of_mem mem
    rw [stored]
    rfl
  generalize waitingQueue call s = queue at some
  induction queue with
  | nil => rfl
  | cons run rest ih =>
    rw [List.filterMap_cons, some run (.head _), ih fun other mem => some other (.tail _ mem)]

theorem SameQueue.rows_keyed :
    t.runs.Keyed fun row => row.run.runID := by
  intro runID row stored
  exact same.keyed runID row.run (by rw [same.runs, stored]; rfl)

theorem SameQueue.mem_waitingRows {row : RunRow} :
    row ∈ waitingRows call s t ↔
      t.runs.get row.run.runID = some row ∧ row.run.status = .waitingCapacity := by
  unfold waitingRows
  rw [List.mem_filterMap]
  constructor
  · rintro ⟨run, mem, stored⟩
    obtain ⟨found, there, rfl⟩ := same.row_of_mem mem
    cases there.symm.trans stored
    exact ⟨stored, ((mem_waitingQueue call same.keyed).mp mem).2⟩
  · rintro ⟨stored, waits⟩
    refine ⟨row.run, (mem_waitingQueue call same.keyed).mpr ⟨?_, waits⟩, stored⟩
    rw [same.runs, stored]
    rfl

theorem SameQueue.remaining (collation : Collation) :
    Remaining collation t.cursors t (waitingRows call s t) where
  queued := by
    refine ⟨?_, fun row mem => (same.mem_waitingRows.mp mem).1,
      fun row mem => (same.mem_waitingRows.mp mem).2⟩
    have distinct := (queued_waitingQueue call same.keyed).distinct
    rw [← same.map_waitingRows, List.map_map] at distinct
    exact distinct
  complete := by
    intro row stored eligible
    obtain ⟨runID, stored⟩ := mem_values.mp stored
    have keyed : row.run.runID = runID := same.rows_keyed runID row stored
    exact same.mem_waitingRows.mpr ⟨keyed ▸ stored, (eligible_iff.mp eligible).1⟩
  ordered := by
    have apart := (waitingQueue_pairwise call s).and
      (queued_waitingQueue call same.keyed).distinct.of_map
    rw [← same.map_waitingRows, List.pairwise_map] at apart
    refine apart.imp_of_mem fun {left right} mem mem' ⟨before, ne⟩ => ?_
    have differ : left.run.createdAt ≠ right.run.createdAt := fun tied => ne (by
      have stored := same.mem_waitingRows.mp mem
      have stored' := same.mem_waitingRows.mp mem'
      exact same.distinct _ _ _ _ (by rw [same.runs, stored.1]; rfl)
        (by rw [same.runs, stored'.1]; rfl) stored.2 stored'.2 tied)
    exact ⟨same.dispatchedBefore collation before differ, differ⟩
  turns := fun _ _ => rfl

end

/-! ## When the stores agree -/

/-- The owners without a runnable run who have a waiting run before the given one. -/
def ownersAhead (s : MemoryStore) (run : AgentRun) : Finset (String × String) :=
  ((s.runs.values.filter fun other => other.status == .waitingCapacity &&
    other.runID != run.runID && waitingBefore s other run &&
    s.ownerRunnableCountLocked other.tenantID other.ownerID == 0).map ownerOf).toFinset

/-- Every waiting run whose owner has a runnable run or an older waiting run finds a limit reached:
the runnable runs and one run of each owner ahead without a runnable run fill the global limit, or
the owner limit is one or is reached already. -/
def LaterRunsWait (limits : Limits) (s : MemoryStore) : Prop :=
  ∀ runID run, s.runs.get runID = some run → run.status = .waitingCapacity →
    (s.ownerRunnableCountLocked run.tenantID run.ownerID ≠ 0 ∨
      ∃ otherID other, s.runs.get otherID = some other ∧ other.status = .waitingCapacity ∧
        ownerOf other = ownerOf run ∧ other.createdAt < run.createdAt) →
    limits.maxGlobalRunnable ≤ s.runnableCountLocked + (ownersAhead s run).card ∨
      limits.maxRunnablePerOwner ≤ max (s.ownerRunnableCountLocked run.tenantID run.ownerID) 1

theorem mem_ownersAhead {owner : String × String} : owner ∈ ownersAhead s run ↔
    ∃ otherID other, s.runs.get otherID = some other ∧ other.status = .waitingCapacity ∧
      other.runID ≠ run.runID ∧ waitingBefore s other run = true ∧
      (runLoad id s.runs).held owner = 0 ∧ ownerOf other = owner := by
  unfold ownersAhead
  rw [List.mem_toFinset, List.mem_map]
  simp only [List.mem_filter, mem_values, Bool.and_eq_true, beq_iff_eq, bne_iff_ne]
  constructor
  · rintro ⟨other, ⟨⟨otherID, stored⟩, ⟨⟨waits, ne⟩, before⟩, idle⟩, rfl⟩
    exact ⟨otherID, other, stored, waits, ne, before, Int.ofNat_eq_zero.mp idle, rfl⟩
  · rintro ⟨otherID, other, stored, waits, ne, before, idle, rfl⟩
    exact ⟨other, ⟨⟨otherID, stored⟩, ⟨⟨waits, ne⟩, before⟩, Int.ofNat_eq_zero.mpr idle⟩, rfl⟩

theorem waitingBefore_iff_of_owner (owner : ownerOf other = ownerOf run)
    (differ : other.createdAt ≠ run.createdAt) :
    waitingBefore s other run = true ↔ other.createdAt < run.createdAt := by
  have turn : lastScheduledTurn s other = lastScheduledTurn s run := by
    have tenant : other.tenantID = run.tenantID := congrArg Prod.fst owner
    have person : other.ownerID = run.ownerID := congrArg Prod.snd owner
    unfold lastScheduledTurn
    rw [tenant, person]
  rw [waitingBefore_eq, precedes_iff, turn]
  simp [differ]

section

variable (same : SameQueue s t) {front back : List AgentRun}
  (split : waitingQueue call s = front ++ run :: back)

include same split

theorem SameQueue.mem_front :
    other ∈ front ↔ other ∈ waitingQueue call s ∧ other.runID ≠ run.runID ∧
      waitingBefore s other run = true := by
  have sorted := waitingQueue_pairwise call s
  have distinct := (queued_waitingQueue call same.keyed).distinct
  constructor
  · intro mem
    have there : other ∈ waitingQueue call s := by
      rw [split]
      exact List.mem_append_left _ mem
    rw [split] at sorted distinct
    refine ⟨there, fun is => ?_, (List.pairwise_append.mp sorted).2.2 other mem run (.head _)⟩
    rw [List.map_append, List.map_cons] at distinct
    exact (List.nodup_append.mp distinct).2.2 _ (List.mem_map_of_mem mem) _ (.head _) is
  · rintro ⟨there, ne, before⟩
    have place := there
    rw [split, List.mem_append, List.mem_cons] at place
    rcases place with mem | rfl | mem
    · exact mem
    · exact absurd rfl ne
    · rw [split] at sorted
      have after := (List.pairwise_cons.mp (List.pairwise_append.mp sorted).2.1).1 other mem
      have here : run ∈ waitingQueue call s := by simp [split]
      rw [mem_waitingQueue call same.keyed] at there here
      rw [waitingBefore_eq] at before after
      exact absurd (congrArg AgentRun.runID (same.distinct _ _ _ _ there.1 here.1 there.2 here.2
        (age_eq_of_precedes before after))) ne

theorem SameQueue.idleOwners_front :
    idleOwners ownerOf (runLoad id s.runs) front = ownersAhead s run := by
  ext owner
  rw [mem_idleOwners, mem_ownersAhead]
  constructor
  · rintro ⟨⟨other, mem, rfl⟩, idle⟩
    obtain ⟨there, ne, before⟩ := (same.mem_front split).mp mem
    obtain ⟨stored, waits⟩ := (mem_waitingQueue call same.keyed).mp there
    exact ⟨_, other, stored, waits, ne, before, idle, rfl⟩
  · rintro ⟨otherID, other, stored, waits, ne, before, idle, rfl⟩
    have there := mem_waitingQueue_of_get call same.keyed stored waits
    exact ⟨⟨other, (same.mem_front split).mpr ⟨there, ne, before⟩, rfl⟩, idle⟩

theorem SameQueue.owner_front_iff :
    (∃ other ∈ front, ownerOf other = ownerOf run) ↔
      ∃ otherID other, s.runs.get otherID = some other ∧ other.status = .waitingCapacity ∧
        ownerOf other = ownerOf run ∧ other.createdAt < run.createdAt := by
  obtain ⟨stored, waits⟩ := (mem_waitingQueue call same.keyed).mp (by simp [split] : run ∈ _)
  constructor
  · rintro ⟨other, mem, owner⟩
    obtain ⟨there, ne, before⟩ := (same.mem_front split).mp mem
    obtain ⟨stored', waits'⟩ := (mem_waitingQueue call same.keyed).mp there
    have differ : other.createdAt ≠ run.createdAt := fun tied =>
      ne (congrArg AgentRun.runID (same.distinct _ _ _ _ stored' stored waits' waits tied))
    exact ⟨_, other, stored', waits', owner, (waitingBefore_iff_of_owner owner differ).mp before⟩
  · rintro ⟨otherID, other, stored', waits', owner, older⟩
    have there := mem_waitingQueue_of_get call same.keyed stored' waits'
    have ne : other.runID ≠ run.runID := by
      intro is
      rw [← same.keyed otherID other stored', is] at stored'
      cases stored.symm.trans stored'
      exact older.false
    exact ⟨other, (same.mem_front split).mpr
      ⟨there, ne, (waitingBefore_iff_of_owner owner older.ne).mpr older⟩, owner⟩

end

theorem SameQueue.laterFull_iff (same : SameQueue s t) (limits : Limits) (call : Call) :
    LaterFull ownerOf limits.maxGlobalRunnable limits.maxRunnablePerOwner (waitingQueue call s)
      (runLoad id s.runs) ↔ LaterRunsWait limits s := by
  constructor
  · intro later runID run stored waits blocked
    have here := mem_waitingQueue_of_get call same.keyed stored waits
    obtain ⟨front, back, split⟩ := List.append_of_mem here
    have found := later front run back split
      (blocked.imp (fun busy idle => busy (Int.ofNat_eq_zero.mpr idle))
        (same.owner_front_iff split).mpr)
    rw [same.idleOwners_front split, Nat.cast_max] at found
    exact found
  · intro later front run back split blocked
    obtain ⟨stored, waits⟩ := (mem_waitingQueue call same.keyed).mp (by simp [split] : run ∈ _)
    rw [same.idleOwners_front split, Nat.cast_max]
    exact later run.runID run stored waits
      (blocked.imp (fun busy idle => busy (Int.ofNat_eq_zero.mp idle))
        (same.owner_front_iff split).mp)

def Promoted (outcome : Outcome (List AgentRun)) (runID : String) : Prop :=
  ∃ runs, outcome.2 = .ok runs ∧ runID ∈ runs.map AgentRun.runID

/-- No run waits while both limits leave room for it. -/
def NoneLeft {ρ : Type} (run : ρ → AgentRun) (limits : Limits) (runs : GoMap ρ) : Prop :=
  ∀ runID value, runs.get runID = some value → (run value).status = .waitingCapacity →
    (runLoad run runs).Full limits.maxGlobalRunnable limits.maxRunnablePerOwner
      (ownerOf (run value))

theorem SameQueue.load (same : SameQueue s t) :
    runLoad RunRow.run t.runs = runLoad id s.runs := by
  unfold runLoad
  congr 1
  · exact (count_map same.runs AgentRun.runnable).symm
  · funext owner
    exact (count_map same.runs fun run =>
      run.ownedBy owner.1 owner.2 && run.runnable).symm

theorem SameQueue.map_admitAll (same : SameQueue s t) (call : Call) (limits : Limits) :
    (admitAll (fun row => ownerOf row.run) limits.maxGlobalRunnable 1 (waitingRows call s t)
        (runLoad RunRow.run t.runs)).map RunRow.run =
      admitAll ownerOf limits.maxGlobalRunnable 1 (waitingQueue call s) (runLoad id s.runs) := by
  rw [← same.map_waitingRows, same.load]
  exact FairQueue.map_admitAll RunRow.run _ _

/-- The two stores promote the same runs, and leave no run waiting that has room, exactly if later
runs of an owner have no room anyway. -/
theorem same_promotion_iff {limits : Limits} (same : SameQueue s t)
    (global : s.policy.maxGlobalRunnable = limits.maxGlobalRunnable)
    (owner : s.policy.maxRunnablePerOwner = limits.maxRunnablePerOwner)
    (call : Call) (collation : Collation) (now : Time) :
    ((∀ runID, Promoted (MemoryStore.promoteWaiting call now s) runID ↔
          runID ∈ (t.promoteWaiting limits collation now).2.map AgentRun.runID) ∧
        NoneLeft id limits (MemoryStore.promoteWaiting call now s).1.runs ∧
        NoneLeft RunRow.run limits (t.promoteWaiting limits collation now).1.runs) ↔
      LaterRunsWait limits s := by
  have queued := queued_waitingQueue call same.keyed
  have remaining : Remaining collation t.cursors t (waitingRows call s t) :=
    same.remaining collation
  have distinct : (waitingQueue call s).Nodup := queued.distinct.of_map
  obtain ⟨listed, runs⟩ := promoteAll_admits now [] queued
  obtain ⟨selected, rows⟩ : _ ∧ (t.promoteWaiting limits collation now).1.runs = _ :=
    promoteRounds_admits [] remaining rfl
  rw [global, owner] at listed runs
  -- the identifiers of both results, from passes over one queue
  let admitted (limit : Int) : List AgentRun :=
    admitAll ownerOf limits.maxGlobalRunnable limit (waitingQueue call s) (runLoad id s.runs)
  have memory (runID : String) : Promoted (MemoryStore.promoteWaiting call now s) runID ↔
      runID ∈ (admitted limits.maxRunnablePerOwner).map AgentRun.runID := by
    have ids : (MemoryStore.promoteAll now (waitingQueue call s) s []).2.map AgentRun.runID =
        (admitted limits.maxRunnablePerOwner).map AgentRun.runID := by
      rw [listed, List.nil_append, List.map_map]
      rfl
    rw [← ids]
    exact ⟨fun ⟨_, is, mem⟩ => Except.ok.inj is ▸ mem, fun mem => ⟨_, rfl, mem⟩⟩
  have tables : (t.promoteWaiting limits collation now).2.map AgentRun.runID =
      (admitted 1).map AgentRun.runID := by
    refine (congrArg (List.map AgentRun.runID) selected).trans ?_
    rw [List.nil_append, show admitted 1 = _ from (same.map_admitAll call limits).symm, List.map_map,
      List.map_map]
    rfl
  rw [tables, ← same.laterFull_iff limits call, ← admitAll_one_iff distinct limits.owner_pos]
  simp only [memory]
  constructor
  · rintro ⟨ids, -, -⟩
    refine admitAll_eq_of_mem_iff distinct fun run => ?_
    -- a run of the queue is known by its identifier
    have known (limit : Int) (here : run ∈ waitingQueue call s) :
        run ∈ admitted limit ↔ run.runID ∈ (admitted limit).map AgentRun.runID := by
      refine ⟨List.mem_map_of_mem, fun mem => ?_⟩
      obtain ⟨other, admitted, is⟩ := List.mem_map.mp mem
      have there := (admitAll_sublist _ _ _ _ _).subset admitted
      exact List.inj_on_of_nodup_map queued.distinct there here is ▸ admitted
    by_cases here : run ∈ waitingQueue call s
    · exact (known _ here).trans ((ids run.runID).trans (known _ here).symm)
    · exact iff_of_false (fun mem => here ((admitAll_sublist _ _ _ _ _).subset mem))
        fun mem => here ((admitAll_sublist _ _ _ _ _).subset mem)
  · intro agree
    refine ⟨fun runID => by rw [show admitted _ = admitted 1 from agree],
      fun runID run stored waits => ?_,
      fun runID row stored waits => ?_⟩
    · have after : (MemoryStore.promoteWaiting call now s).1.runs = _ := runs
      rw [after] at stored ⊢
      exact full_of_waiting queued (fun _ _ => mem_waitingQueue_of_get call same.keyed) same.keyed
        (fun _ => rfl) rfl stored waits
    · rw [rows] at stored ⊢
      refine full_of_waiting remaining.queued (fun runID row stored waits => ?_) same.rows_keyed
        (fun _ => rfl) ?_ stored waits
      · have keyed : row.run.runID = runID := same.rows_keyed runID row stored
        exact same.mem_waitingRows.mpr ⟨keyed ▸ stored, waits⟩
      · have later := (admitAll_one_iff distinct limits.owner_pos).mp agree
        rw [← same.map_waitingRows, ← same.load] at later
        exact ((admitAll_one_iff remaining.queued.distinct.of_map limits.owner_pos).mpr
          later.of_map).symm

end Same

/-! ## Two waiting runs of one owner -/

def storeOf (policy : QueuePolicy) (runs : List AgentRun) : MemoryStore :=
  { newMemoryStore policy with runs := runs.foldl (fun stored run => stored.set run.runID run) ∅ }

def tablesOf (runs : List AgentRun) : QueueTables :=
  { runs := runs.foldl (fun stored run => stored.set run.runID { run := run }) ∅ }

theorem foldl_set_same (runs : List AgentRun) (stored : GoMap AgentRun) (rows : GoMap RunRow)
    (same : ∀ runID, stored.get runID = (rows.get runID).map RunRow.run) (runID : String) :
    (runs.foldl (fun stored run => stored.set run.runID run) stored).get runID =
      ((runs.foldl (fun rows run => rows.set run.runID { run := run }) rows).get runID).map
        RunRow.run := by
  induction runs generalizing stored rows with
  | nil => exact same runID
  | cons first rest ih =>
    refine ih (stored.set first.runID first) (rows.set first.runID { run := first }) fun runID => ?_
    rw [get_set, get_set, same runID]
    split <;> rfl

theorem storeOf_runs (policy : QueuePolicy) (runs : List AgentRun) :
    (storeOf policy runs).runs = addAll AgentRun.runID id runs ∅ := rfl

theorem mem_of_storeOf {policy : QueuePolicy} {runs : List AgentRun} : ∀ runID run,
    (storeOf policy runs).runs.get runID = some run → run ∈ runs := by
  rw [storeOf_runs]
  exact forall_addAll fun _ mem => mem

theorem sameQueue_of_list (policy : QueuePolicy) {runs : List AgentRun}
    (distinct : (runs.map AgentRun.createdAt).Nodup) :
    SameQueue (storeOf policy runs) (tablesOf runs) where
  keyed := by
    rw [storeOf_runs]
    exact forall_addAll fun _ _ => rfl
  runs := foldl_set_same runs ∅ ∅ fun _ => rfl
  turns := fun _ _ => rfl
  recorded := fun _ _ none => by cases none
  distinct := fun _ _ _ _ stored stored' _ _ tied =>
    List.inj_on_of_nodup_map distinct (mem_of_storeOf _ _ stored)
      (mem_of_storeOf _ _ stored') tied

def waitingRun (runID ownerID : String) (createdAt : Time) : AgentRun := {
  runID := runID, taskID := "task-" ++ runID, tenantID := "tenant", ownerID := ownerID
  workflowVersion := .v1, executionLedgerVersion := .unset, status := .waitingCapacity
  queueSlotAcquired := false, createdAt := createdAt, updatedAt := createdAt }

def twoPlaces : Limits := ⟨2, 2, 10, by decide, by decide⟩

def twoPlacesPolicy : QueuePolicy := { maxGlobalRunnable := 2, maxRunnablePerOwner := 2 }

def codePoints : Collation where
  le := fun left right => decide (left ≤ right)
  total := fun left right => by simpa using String.le_total left right
  trans := fun _ _ _ first second => by
    rw [decide_eq_true_eq] at first second ⊢
    exact String.le_trans first second

/-- The in-memory store promotes both runs of an owner. The PostgreSQL store promotes one and
leaves the other one waiting, with room under both limits. -/
theorem second_run_left_waiting : ∃ s t, SameQueue s t ∧
    s.policy.maxGlobalRunnable = twoPlaces.maxGlobalRunnable ∧
    s.policy.maxRunnablePerOwner = twoPlaces.maxRunnablePerOwner ∧
    Promoted (MemoryStore.promoteWaiting (.at 9 "a") 9 s) "run-2" ∧
    "run-2" ∉ (t.promoteWaiting twoPlaces codePoints 9).2.map AgentRun.runID ∧
    ¬ NoneLeft RunRow.run twoPlaces (t.promoteWaiting twoPlaces codePoints 9).1.runs := by
  let runs := [waitingRun "run-1" "ann" 1, waitingRun "run-2" "ann" 2]
  refine ⟨storeOf twoPlacesPolicy runs, tablesOf runs, sameQueue_of_list _ (by decide), rfl, rfl,
    ⟨_, rfl, by decide +kernel⟩, by decide +kernel, fun none => ?_⟩
  have full := none "run-2" { run := waitingRun "run-2" "ann" 2 } (by rfl) rfl
  exact absurd full (by decide +kernel)

def threeRuns : List AgentRun :=
  [waitingRun "run-1" "ann" 1, waitingRun "run-2" "bob" 2, waitingRun "run-3" "ann" 3]

theorem same_promotion_three_runs :
    ((tablesOf threeRuns).promoteWaiting twoPlaces codePoints 9).2.map AgentRun.runID =
        ["run-1", "run-2"] ∧
      ∀ runID, Promoted
          (MemoryStore.promoteWaiting (.at 9 "a") 9 (storeOf twoPlacesPolicy threeRuns)) runID ↔
        runID ∈ ((tablesOf threeRuns).promoteWaiting twoPlaces codePoints 9).2.map
          AgentRun.runID := by
  have later : ∀ run ∈ threeRuns,
      ((storeOf twoPlacesPolicy threeRuns).ownerRunnableCountLocked run.tenantID run.ownerID ≠ 0 ∨
        ∃ other ∈ threeRuns, ownerOf other = ownerOf run ∧ other.createdAt < run.createdAt) →
      twoPlaces.maxGlobalRunnable ≤ (storeOf twoPlacesPolicy threeRuns).runnableCountLocked +
        (ownersAhead (storeOf twoPlacesPolicy threeRuns) run).card := by
    decide +kernel
  refine ⟨by decide +kernel, ((same_promotion_iff (sameQueue_of_list twoPlacesPolicy (by decide))
    rfl rfl (.at 9 "a") codePoints 9).mpr fun runID run stored waits blocked => ?_).1⟩
  exact .inl (later run (mem_of_storeOf _ _ stored) (blocked.imp_right
    fun ⟨_, other, there, _, owner, older⟩ => ⟨other, mem_of_storeOf _ _ there, owner, older⟩))

end PrdAgent.Storage
