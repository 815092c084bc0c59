import PrdAgent.Library.Transition
import PrdAgent.Storage.RunRows

/-!
# Admission under concurrent transactions

Five transactions of the PostgreSQL store put runs into the queue: they count the runs that hold a
slot, decide, and insert a run or promote waiting ones. Isolation is read committed, so each count
sees what is committed when it is read, and the written rows become visible at the commit.
`CreateTaskWithRun`, `RetryTask` and `PromoteWaiting` take one advisory lock and hold it to their end;
`createReviewRunTx` and `createRevisionRun` take none, and may overlap (`two_reviews_overbook`).
-/

namespace PrdAgent.Storage

open Runcontrol AssocMap Transition

def positiveOrDefault (value fallback : Int) : Int := if value < 1 then fallback else value

theorem le_positiveOrDefault (value : Int) {fallback : Int} (positive : 1 ≤ fallback) :
    1 ≤ positiveOrDefault value fallback := by
  unfold positiveOrDefault
  split <;> omega

structure Limits where
  maxGlobalRunnable : Int
  maxRunnablePerOwner : Int
  maxWaitingRuns : Int
  global_pos : 1 ≤ maxGlobalRunnable
  owner_pos : 1 ≤ maxRunnablePerOwner

/-- The limits `NewPostgresStore` takes from its configuration. -/
def Limits.ofConfig (maxGlobalRunnable maxRunnablePerOwner maxWaitingRuns : Int) : Limits where
  maxGlobalRunnable := positiveOrDefault maxGlobalRunnable 30
  maxRunnablePerOwner := positiveOrDefault maxRunnablePerOwner 1
  maxWaitingRuns := positiveOrDefault maxWaitingRuns 100
  global_pos := le_positiveOrDefault _ (by decide)
  owner_pos := le_positiveOrDefault _ (by decide)

/-! ## Transactions -/

/-- The transactions that insert a run. -/
inductive Insertion
  | createTaskWithRun | retryTask | createReviewRunTx | createRevisionRun
deriving DecidableEq

/-- A transaction that inserts a run of a task with the given versions, or promotes waiting runs. -/
inductive AdmissionCommand
  | insert (insertion : Insertion) (tenantID ownerID taskID : String) (workflow : WorkflowVersion)
      (ledger : ExecutionLedgerVersion)
  | promoteWaiting

/-- The transaction begins with `pg_advisory_xact_lock`. -/
def AdmissionCommand.takesLock : AdmissionCommand → Bool
  | .insert .createTaskWithRun .. => true
  | .insert .retryTask .. => true
  | .insert .createReviewRunTx .. => false
  | .insert .createRevisionRun .. => false
  | .promoteWaiting => true

/-- The task that must have no run at work: a new task has none, and the callers of
`createReviewRunTx` check it before. -/
def AdmissionCommand.checkedTask : AdmissionCommand → Option String
  | .insert .createTaskWithRun .. => none
  | .insert _ _ _ taskID _ _ => some taskID
  | .promoteWaiting => none

/-- How far a transaction has come. -/
inductive Phase
  | begun
  | ready
  | globalCounted (activeGlobal : Nat)
  | ownerCounted (activeGlobal activeOwner : Nat)
  | inserted (run : AgentRun)
  | promoting (activeGlobal : Nat) (promoted : List RunRow)

structure AdmissionTx where
  command : AdmissionCommand
  phase : Phase

/-- The transaction is between its first count and its end. -/
def AdmissionTx.counting (tx : AdmissionTx) : Bool :=
  match tx.phase with
  | .begun | .ready => false
  | _ => true

/-- The committed runs, the admission lock and the transactions at work. -/
structure Database where
  runs : GoMap RunRow := ∅
  admissionLock : Option Nat := none
  transactions : AssocMap Nat AdmissionTx := ∅

/-- `SELECT COUNT(*) … WHERE queue_slot_acquired AND status IN ('QUEUED','RUNNING')`. -/
def activeGlobal (runs : GoMap RunRow) : Nat := runs.count fun row => row.run.runnable

def activeOwner (runs : GoMap RunRow) (tenantID ownerID : String) : Nat :=
  runs.count fun row => row.run.ownedBy tenantID ownerID && row.run.runnable

def waiting (runs : GoMap RunRow) : Nat :=
  runs.count fun row => row.run.status == .waitingCapacity

/-- The statements that work on one run under its row lock. -/
inductive LeaseStatement
  | stop (now : Time)
  | acquire (workerID leaseID : String) (now : Time) (ttl : Duration)
  | heartbeat (lease : LeaseContext) (now : Time) (ttl : Duration)
  | complete (lease : LeaseContext) (status : RunStatus) (now : Time)

def LeaseStatement.update (row : RunRow) : LeaseStatement → Except StoreError RunRow
  | .stop now => .ok (row.stop now)
  | .acquire workerID leaseID now ttl => row.acquire workerID leaseID now ttl
  | .heartbeat lease now ttl => row.heartbeat lease now ttl
  | .complete lease status now => row.complete lease status now

inductive DatabaseInput
  | start (id : Nat) (command : AdmissionCommand)
  | next (id : Nat) (call : Call) (found : String)
  | rollback (id : Nat)
  | lease (runID : String) (statement : LeaseStatement)

inductive DatabaseReply
  | went
  | blocked
  | refused (err : StoreError)
  | committed

namespace Database

variable (db : Database)

def finish (id : Nat) : Database :=
  { db with
    admissionLock := if db.admissionLock = some id then none else db.admissionLock
    transactions := db.transactions.del id }

def goOn (id : Nat) (tx : AdmissionTx) (phase : Phase) : Database :=
  { db with transactions := db.transactions.set id { tx with phase := phase } }

def rowLocked (runID : String) : Bool :=
  db.transactions.values.any fun tx =>
    match tx.phase with
    | .promoting _ promoted => promoted.any fun row => row.run.runID == runID
    | _ => false

/-- The run an insertion builds once its counts are known. -/
def admittedRun (limits : Limits) (call : Call) (tenantID ownerID taskID : String)
    (workflow : WorkflowVersion) (ledger : ExecutionLedgerVersion) (global owner : Nat) :
    Except StoreError AgentRun :=
  if (global : Int) ≥ limits.maxGlobalRunnable ∨ (owner : Int) ≥ limits.maxRunnablePerOwner then
    if (waiting db.runs : Int) ≥ limits.maxWaitingRuns then .error ⟨.capacityExhausted, ""⟩
    else .ok (newRun call taskID tenantID ownerID workflow ledger .waitingCapacity)
  else .ok (newRun call taskID tenantID ownerID workflow ledger .queued)

/-- The row waits, and no run of its owner holds a slot, promoted ones included. -/
def promotable (promoted : List RunRow) (row : RunRow) : Bool :=
  row.run.status == .waitingCapacity &&
    activeOwner db.runs row.run.tenantID row.run.ownerID == 0 &&
    !(promoted.any fun other => other.run.ownedBy row.run.tenantID row.run.ownerID)

def promotedRow (row : RunRow) (now : Time) : RunRow :=
  { row with run := { row.run with status := .queued, queueSlotAcquired := true, updatedAt := now } }

def withPromoted (runs : GoMap RunRow) : List RunRow → GoMap RunRow
  | [] => runs
  | row :: rest => withPromoted (runs.set row.run.runID row) rest

/-- The next statement of a transaction. -/
def next (limits : Limits) (id : Nat) (call : Call) (found : String) : Database × DatabaseReply :=
  match db.transactions.get id with
  | none => (db, .blocked)
  | some tx =>
  match tx.phase with
  | .begun =>
    if tx.command.takesLock then
      if db.admissionLock.isSome then (db, .blocked)
      else ({ db.goOn id tx .ready with admissionLock := some id }, .went)
    else (db.goOn id tx .ready, .went)
  | .ready =>
    if tx.command.checkedTask.any fun taskID =>
        db.runs.values.any fun row => row.run.activeFor taskID then
      (db.finish id, .refused ⟨.invalidRunStatus, ""⟩)
    else match tx.command with
      | .promoteWaiting => (db.goOn id tx (.promoting (activeGlobal db.runs) []), .went)
      | .insert .. => (db.goOn id tx (.globalCounted (activeGlobal db.runs)), .went)
  | .globalCounted global =>
    match tx.command with
    | .insert _ tenantID ownerID _ _ _ =>
      (db.goOn id tx (.ownerCounted global (activeOwner db.runs tenantID ownerID)), .went)
    | .promoteWaiting => (db, .blocked)
  | .ownerCounted global owner =>
    match tx.command with
    | .insert _ tenantID ownerID taskID workflow ledger =>
      match db.admittedRun limits call tenantID ownerID taskID workflow ledger global owner with
      | .error err => (db.finish id, .refused err)
      | .ok run => (db.goOn id tx (.inserted run), .went)
    | .promoteWaiting => (db, .blocked)
  | .inserted run =>
    -- the primary key is checked against what is committed in the meantime
    match db.runs.get run.runID with
    | some _ => (db.finish id, .refused ⟨.database, "duplicate key"⟩)
    | none =>
      ({ db.finish id with runs := db.runs.set run.runID { run := run } }, .committed)
  | .promoting global promoted =>
    match db.runs.get found with
    | some row =>
      if (global : Int) < limits.maxGlobalRunnable ∧ db.promotable promoted row ∧
          row.run.runID = found then
        (db.goOn id tx (.promoting (global + 1) (promotedRow row call.now :: promoted)), .went)
      else ({ db.finish id with runs := withPromoted db.runs promoted }, .committed)
    | none => ({ db.finish id with runs := withPromoted db.runs promoted }, .committed)

/-- One step of the database. -/
def step (limits : Limits) (input : DatabaseInput) (db : Database) : Database × DatabaseReply :=
  match input with
  | .start id command =>
    match db.transactions.get id with
    | some _ => (db, .blocked)
    | none => ({ db with transactions := db.transactions.set id ⟨command, .begun⟩ }, .went)
  | .next id call found => db.next limits id call found
  | .rollback id => (db.finish id, .went)
  | .lease runID statement =>
    if db.rowLocked runID then (db, .blocked)
    else match db.runs.get runID with
      | none => (db, .refused ⟨.notFound, ""⟩)
      | some row =>
        match statement.update row with
        | .error err => (db, .refused err)
        | .ok row' => ({ db with runs := db.runs.set runID row' }, .committed)

end Database

/-! ## What each statement does to the counts -/

/-- No count of runs on a slot is higher in `runs'`. -/
structure NoMoreActive (runs runs' : GoMap RunRow) : Prop where
  global : activeGlobal runs' ≤ activeGlobal runs
  owner : ∀ tenantID ownerID, activeOwner runs' tenantID ownerID ≤ activeOwner runs tenantID ownerID

variable {row : RunRow}

theorem LeaseStatement.update_runnable {statement : LeaseStatement} {row' : RunRow}
    (updated : statement.update row = .ok row') :
    row'.run.tenantID = row.run.tenantID ∧ row'.run.ownerID = row.run.ownerID ∧
      (row'.run.runnable = true → row.run.runnable = true) := by
  cases statement with
  | stop now =>
    cases updated
    refine ⟨rfl, rfl, fun runnable => ?_⟩
    unfold RunRow.stop AgentRun.runnable at runnable
    dsimp only at runnable
    split at runnable
    · exact runnable
    · simp at runnable
  | acquire workerID leaseID now ttl =>
    unfold LeaseStatement.update RunRow.acquire at updated
    dsimp only at updated
    split at updated
    · cases updated
    split at updated
    · cases updated
    · next free =>
      cases updated
      refine ⟨rfl, rfl, fun runnable => ?_⟩
      unfold AgentRun.runnable at runnable ⊢
      rw [Bool.and_eq_true] at runnable ⊢
      refine ⟨runnable.1, ?_⟩
      rw [Bool.or_eq_true, beq_iff_eq, beq_iff_eq]
      by_contra neither
      rw [not_or] at neither
      exact free ⟨neither.1, fun running => neither.2 running.1⟩
  | heartbeat lease now ttl =>
    unfold LeaseStatement.update RunRow.heartbeat at updated
    dsimp only at updated
    split at updated
    · cases updated
      exact ⟨rfl, rfl, id⟩
    · cases updated
  | complete lease status now =>
    unfold LeaseStatement.update RunRow.complete at updated
    dsimp only at updated
    split at updated
    · cases updated
    split at updated
    · cases updated
      exact ⟨rfl, rfl, fun runnable => by simp [AgentRun.runnable] at runnable⟩
    · cases updated

variable {runs : GoMap RunRow}

theorem NoMoreActive.update {runID : String} {row' : RunRow}
    {statement : LeaseStatement} (stored : runs.get runID = some row)
    (updated : statement.update row = .ok row') : NoMoreActive runs (runs.set runID row') := by
  obtain ⟨tenant, owner, runnable⟩ := LeaseStatement.update_runnable updated
  refine ⟨count_update_le runs stored runnable, fun tenantID ownerID =>
    count_update_le runs stored fun holds => ?_⟩
  rw [Bool.and_eq_true, AgentRun.ownedBy, tenant, owner] at holds
  rw [Bool.and_eq_true]
  exact ⟨holds.1, runnable holds.2⟩

structure Bounded (limits : Limits) (runs : GoMap RunRow) : Prop where
  global : (activeGlobal runs : Int) ≤ limits.maxGlobalRunnable
  owner : ∀ tenantID ownerID,
    (activeOwner runs tenantID ownerID : Int) ≤ limits.maxRunnablePerOwner

theorem Bounded.mono {limits : Limits} {runs' : GoMap RunRow} (bounded : Bounded limits runs)
    (fewer : NoMoreActive runs runs') : Bounded limits runs' := by
  refine ⟨?_, fun tenantID ownerID => ?_⟩
  · have := fewer.global
    have := bounded.global
    omega
  · have := fewer.owner tenantID ownerID
    have := bounded.owner tenantID ownerID
    omega

theorem Bounded.set {limits : Limits} (bounded : Bounded limits runs)
    (runID : String) (row : RunRow)
    (room : row.run.runnable = true → (activeGlobal runs : Int) < limits.maxGlobalRunnable ∧
      (activeOwner runs row.run.tenantID row.run.ownerID : Int) < limits.maxRunnablePerOwner) :
    Bounded limits (runs.set runID row) := by
  refine ⟨?_, fun tenantID ownerID => ?_⟩
  · have added := count_set_le_add runs (fun row : RunRow => row.run.runnable) runID row
    have before := bounded.global
    unfold activeGlobal at before ⊢
    split at added
    · next runnable =>
      have free := (room runnable).1
      unfold activeGlobal at free
      omega
    · omega
  · have added := count_set_le_add runs
      (fun row : RunRow => row.run.ownedBy tenantID ownerID && row.run.runnable) runID row
    have before := bounded.owner tenantID ownerID
    unfold activeOwner at before ⊢
    split at added
    · next takes =>
      rw [Bool.and_eq_true, AgentRun.ownedBy, Bool.and_eq_true, beq_iff_eq, beq_iff_eq] at takes
      obtain ⟨⟨rfl, rfl⟩, runnable⟩ := takes
      have free := (room runnable).2
      unfold activeOwner at free
      omega
    · omega

namespace Database

variable {limits : Limits} {db : Database}

variable {runs : GoMap RunRow} {tx : AdmissionTx} {call : Call}

/-- Promoted rows of different owners without a run on a slot fit, when the global count leaves room
for them all. -/
theorem withPromoted_bounded {promoted : List RunRow} (bounded : Bounded limits runs)
    (fits : (activeGlobal runs + promoted.length : Int) ≤ limits.maxGlobalRunnable)
    (apart : promoted.Pairwise fun row other =>
      other.run.ownedBy row.run.tenantID row.run.ownerID = false)
    (idle : ∀ row ∈ promoted, activeOwner runs row.run.tenantID row.run.ownerID = 0) :
    Bounded limits (withPromoted runs promoted) := by
  induction promoted generalizing runs with
  | nil => exact bounded
  | cons row rest ih =>
    rw [List.length_cons] at fits
    obtain ⟨first, others⟩ := List.pairwise_cons.mp apart
    have ownIdle := idle row (.head _)
    have positive := limits.owner_pos
    refine ih (bounded.set _ row fun _ => ⟨by omega, by omega⟩) ?_ others fun other mem => ?_
    · have added := count_set_le runs (fun row : RunRow => row.run.runnable)
        row.run.runID row
      unfold activeGlobal at fits ⊢
      omega
    · have added := count_set_le_add runs (fun found : RunRow =>
        found.run.ownedBy other.run.tenantID other.run.ownerID && found.run.runnable)
        row.run.runID row
      have otherIdle := idle other (.tail _ mem)
      have different : row.run.ownedBy other.run.tenantID other.run.ownerID = false := by
        have := first other mem
        unfold AgentRun.ownedBy at this ⊢
        rw [Bool.and_eq_false_iff, beq_eq_false_iff_ne, beq_eq_false_iff_ne] at this ⊢
        exact this.imp Ne.symm Ne.symm
      unfold activeOwner at otherIdle ⊢
      rw [different, Bool.false_and] at added
      simpa [otherIdle] using added

/-- What a transaction knows of the committed runs. -/
def Room (limits : Limits) (runs : GoMap RunRow) (tx : AdmissionTx) : Prop :=
  match tx.phase with
  | .begun | .ready => True
  | .globalCounted global => activeGlobal runs ≤ global
  | .ownerCounted global owner => activeGlobal runs ≤ global ∧
      ∀ insertion tenantID ownerID taskID workflow ledger,
        tx.command = .insert insertion tenantID ownerID taskID workflow ledger →
        activeOwner runs tenantID ownerID ≤ owner
  | .inserted run => run.runnable = true →
      (activeGlobal runs : Int) < limits.maxGlobalRunnable ∧
        (activeOwner runs run.tenantID run.ownerID : Int) < limits.maxRunnablePerOwner
  | .promoting global promoted => activeGlobal runs + promoted.length ≤ global ∧
      (global : Int) ≤ limits.maxGlobalRunnable ∧
      (promoted.Pairwise fun row other =>
        other.run.ownedBy row.run.tenantID row.run.ownerID = false) ∧
      ∀ row ∈ promoted, activeOwner runs row.run.tenantID row.run.ownerID = 0

theorem Room.of_not_counting (idle : tx.counting = false) : Room limits runs tx := by
  unfold AdmissionTx.counting at idle
  unfold Room
  split at idle
  · next phase => rw [phase]; trivial
  · next phase => rw [phase]; trivial
  · cases idle

theorem Room.mono {runs' : GoMap RunRow} (room : Room limits runs tx)
    (fewer : NoMoreActive runs runs') : Room limits runs' tx := by
  have global := fewer.global
  have owner := fewer.owner
  unfold Room at room ⊢
  split at room
  · trivial
  · trivial
  · exact global.trans room
  · refine ⟨global.trans room.1, fun _ _ _ _ _ _ command => (owner _ _).trans ?_⟩
    exact room.2 _ _ _ _ _ _ command
  · next run _ =>
    intro runnable
    have := owner run.tenantID run.ownerID
    have := room runnable
    omega
  · refine ⟨by omega, room.2.1, room.2.2.1, fun row mem => ?_⟩
    have := owner row.run.tenantID row.run.ownerID
    have := room.2.2.2 row mem
    omega

/-- The limits hold, the lock is with the transaction that took it, at most one transaction is
between its counts and its end, and what each knows is true. -/
structure Sound (limits : Limits) (db : Database) : Prop where
  bounded : Bounded limits db.runs
  locked : ∀ id tx, db.transactions.get id = some tx → tx.command.takesLock = true →
    tx.phase ≠ .begun → db.admissionLock = some id
  alone : ∀ id id' tx tx', db.transactions.get id = some tx → db.transactions.get id' = some tx' →
    tx.counting = true → tx'.counting = true → id = id'
  room : ∀ id tx, db.transactions.get id = some tx → Room limits db.runs tx

theorem counting_not_begun (counting : tx.counting = true) : tx.phase ≠ .begun := by
  intro begun
  unfold AdmissionTx.counting at counting
  rw [begun] at counting
  cases counting

variable {id : Nat}

namespace Sound

theorem finish (sound : Sound limits db) (id : Nat) (bounded : Bounded limits runs)
    (others : ∀ id' tx, id' ≠ id → db.transactions.get id' = some tx → Room limits runs tx) :
    Sound limits { db.finish id with runs := runs } := by
  have stays {id' : Nat} {tx : AdmissionTx} (stored : (db.finish id).transactions.get id' = some tx) :
      id' ≠ id ∧ db.transactions.get id' = some tx :=
    get_del_eq_some stored
  refine ⟨bounded, fun id' tx stored takes phase => ?_, fun a b tx tx' storedA storedB => ?_,
    fun id' tx stored => others id' tx (stays stored).1 (stays stored).2⟩
  · have held := sound.locked id' tx (stays stored).2 takes phase
    change (if db.admissionLock = some id then none else db.admissionLock) = some id'
    rw [if_neg, held]
    rw [held]
    exact fun same => (stays stored).1 (Option.some.inj same)
  · exact sound.alone a b tx tx' (stays storedA).2 (stays storedB).2

theorem abandon (sound : Sound limits db) (id : Nat) : Sound limits (db.finish id) :=
  sound.finish id sound.bounded fun id' tx _ stored => sound.room id' tx stored

variable {tx : AdmissionTx}

theorem commit (sound : Sound limits db)
    (stored : db.transactions.get id = some tx) (counting : tx.counting = true)
    (bounded : Bounded limits runs) :
    Sound limits { db.finish id with runs := runs } := by
  refine sound.finish id bounded fun id' tx' ne stored' => .of_not_counting ?_
  by_contra busy
  exact ne (sound.alone id' id tx' tx stored' stored (by simpa using busy) counting)

theorem goOn (sound : Sound limits db) {phase : Phase}
    (stored : db.transactions.get id = some tx) (begun : tx.phase ≠ .begun)
    (alone : ∀ id' tx', db.transactions.get id' = some tx' → tx'.counting = true → id' = id)
    (room : Room limits db.runs { tx with phase := phase }) :
    Sound limits (db.goOn id tx phase) := by
  refine ⟨sound.bounded, forall_set (fun takes _ => sound.locked id tx stored takes begun) sound.locked,
    fun a b txA txB foundA foundB busyA busyB => ?_, forall_set room sound.room⟩
  rcases get_set_eq_some foundA with ⟨rfl, rfl⟩ | ⟨neA, beforeA⟩
  · rcases get_set_eq_some foundB with ⟨rfl, rfl⟩ | ⟨neB, beforeB⟩
    · rfl
    · exact (alone b txB beforeB busyB).symm
  · exact absurd (alone a txA beforeA busyA) neA

theorem getReady (sound : Sound limits db) {lock : Option Nat}
    (stored : db.transactions.get id = some tx)
    (taken : tx.command.takesLock = true → lock = some id)
    (kept : ∀ id', id' ≠ id → db.admissionLock = some id' → lock = some id') :
    Sound limits { db.goOn id tx .ready with admissionLock := lock } := by
  have before {id' : Nat} {tx' : AdmissionTx}
      (found : (db.goOn id tx .ready).transactions.get id' = some tx') (busy : tx'.counting = true) :
      id' ≠ id ∧ db.transactions.get id' = some tx' := by
    rcases get_set_eq_some found with ⟨rfl, rfl⟩ | before
    · cases busy
    · exact before
  refine ⟨sound.bounded, fun id' tx' found takes ready => ?_, fun a b txA txB foundA foundB busyA busyB =>
    sound.alone a b txA txB (before foundA busyA).2 (before foundB busyB).2 busyA busyB,
    forall_set trivial sound.room⟩
  rcases get_set_eq_some found with ⟨rfl, rfl⟩ | ⟨ne, before⟩
  · exact taken takes
  · exact kept id' ne (sound.locked id' tx' before takes ready)

end Sound

/-- A transaction reads its counts only while every other one between its counts and its end is kept
out by the lock. -/
def CountsAlone (db : Database) : DatabaseInput → Prop
  | .next id _ _ => ∀ tx, db.transactions.get id = some tx → tx.phase = .ready →
      ∀ id' tx', id' ≠ id → db.transactions.get id' = some tx' → tx'.counting = true →
        tx.command.takesLock = true ∧ tx'.command.takesLock = true
  | _ => True

theorem Room.countGlobal (tx : AdmissionTx) :
    Room limits runs { tx with phase := .globalCounted (activeGlobal runs) } := by
  change activeGlobal runs ≤ activeGlobal runs
  exact le_refl _

theorem Room.startPromoting (tx : AdmissionTx) (bounded : Bounded limits runs) :
    Room limits runs { tx with phase := .promoting (activeGlobal runs) [] } := by
  refine ⟨?_, bounded.global, .nil, fun row mem => ?_⟩
  · rw [List.length_nil, Nat.add_zero]
  · cases mem

theorem Room.promote {global : Nat} {promoted : List RunRow}
    {now : Time} (phase : tx.phase = .promoting global promoted) (room : Room limits db.runs tx)
    (free : (global : Int) < limits.maxGlobalRunnable)
    (promotable : db.promotable promoted row = true) : Room limits db.runs
      { tx with phase := .promoting (global + 1) (promotedRow row now :: promoted) } := by
  unfold Room at room
  rw [phase] at room
  obtain ⟨counted, below, apart, idle⟩ := room
  unfold Database.promotable at promotable
  rw [Bool.and_eq_true, Bool.and_eq_true, beq_iff_eq, Bool.not_eq_true'] at promotable
  obtain ⟨⟨waits, ownIdle⟩, unpromoted⟩ := promotable
  refine ⟨?_, by omega, List.pairwise_cons.mpr ⟨fun other mem => ?_, apart⟩, fun other mem => ?_⟩
  · rw [List.length_cons]
    omega
  · by_contra same
    rw [Bool.not_eq_false] at same
    exact Bool.eq_false_iff.mp unpromoted (List.any_eq_true.mpr ⟨other, mem, same⟩)
  · rcases List.mem_cons.mp mem with rfl | mem
    · exact beq_iff_eq.mp ownIdle
    · exact idle other mem

theorem next_sound {found : String} (sound : Sound limits db)
    (counts : CountsAlone db (.next id call found)) :
    Sound limits (db.next limits id call found).1 := by
  unfold Database.next
  split
  · exact sound
  next tx stored =>
  -- a transaction past its counts is the only one
  have alone (busy : tx.counting = true) (id' : Nat) (tx' : AdmissionTx)
      (stored' : db.transactions.get id' = some tx') (busy' : tx'.counting = true) : id' = id :=
    sound.alone id' id tx' tx stored' stored busy' busy
  have known := sound.room id tx stored
  split
  · next phase =>
    split
    · split
      · exact sound
      · next free =>
        refine sound.getReady stored (fun _ => rfl) fun id' _ held => ?_
        rw [held] at free
        exact absurd rfl free
    · next lockless =>
      exact sound.getReady stored (fun takes => absurd takes lockless) fun _ _ held => held
  · next phase =>
    have begun : tx.phase ≠ .begun := by rw [phase]; exact nofun
    have entering (id' : Nat) (tx' : AdmissionTx) (stored' : db.transactions.get id' = some tx')
        (busy' : tx'.counting = true) : id' = id := by
      by_contra ne
      obtain ⟨takes, takes'⟩ := counts tx stored phase id' tx' ne stored' busy'
      have held := sound.locked id tx stored takes begun
      have held' := sound.locked id' tx' stored' takes' (counting_not_begun busy')
      exact ne (Option.some.inj (held'.symm.trans held))
    split
    · exact sound.abandon id
    split
    · exact sound.goOn stored begun entering (.startPromoting tx sound.bounded)
    · exact sound.goOn stored begun entering (.countGlobal tx)
  · next global phase =>
    have begun : tx.phase ≠ .begun := by rw [phase]; exact nofun
    have busy : tx.counting = true := by unfold AdmissionTx.counting; rw [phase]
    unfold Room at known
    rw [phase] at known
    split
    · next command =>
      refine sound.goOn stored begun (alone busy) ⟨known, fun _ _ _ _ _ _ same => ?_⟩
      cases command.symm.trans same
      exact le_refl _
    · exact sound
  · next global owner phase =>
    have begun : tx.phase ≠ .begun := by rw [phase]; exact nofun
    have busy : tx.counting = true := by unfold AdmissionTx.counting; rw [phase]
    unfold Room at known
    rw [phase] at known
    split
    · next command =>
      split
      · exact sound.abandon id
      · next run admitted =>
        refine sound.goOn stored begun (alone busy) fun runnable => ?_
        have := known.1
        have := known.2 _ _ _ _ _ _ command
        -- the run is on a slot only if both counts leave room
        unfold admittedRun at admitted
        repeat' split at admitted
        all_goals cases admitted
        · simp [newRun, AgentRun.runnable] at runnable
        · dsimp only [newRun]
          omega
    · exact sound
  · next run phase =>
    have busy : tx.counting = true := by unfold AdmissionTx.counting; rw [phase]
    unfold Room at known
    rw [phase] at known
    split
    · exact sound.abandon id
    · exact sound.commit stored busy (sound.bounded.set _ _ known)
  · next global promoted phase =>
    have begun : tx.phase ≠ .begun := by rw [phase]; exact nofun
    have busy : tx.counting = true := by unfold AdmissionTx.counting; rw [phase]
    have committed : Sound limits { db.finish id with runs := withPromoted db.runs promoted } := by
      unfold Room at known
      rw [phase] at known
      obtain ⟨counted, below, apart, idle⟩ := known
      refine sound.commit stored busy (withPromoted_bounded sound.bounded ?_ apart idle)
      omega
    split
    · split
      · next promotes =>
        exact sound.goOn stored begun (alone busy)
          (known.promote phase promotes.1 promotes.2.1)
      · exact committed
    · exact committed

theorem step_sound {input : DatabaseInput} (counts : CountsAlone db input)
    (sound : Sound limits db) : Sound limits (step limits input db).1 := by
  cases input with
  | start id command =>
    unfold step
    dsimp only
    split
    · exact sound
    · next unused =>
      refine ⟨sound.bounded, forall_set (fun _ ready => absurd rfl ready) sound.locked,
        fun a b txA txB foundA foundB busyA busyB => ?_, forall_set trivial sound.room⟩
      rcases get_set_eq_some foundA with ⟨-, rfl⟩ | ⟨-, beforeA⟩
      · cases busyA
      rcases get_set_eq_some foundB with ⟨-, rfl⟩ | ⟨-, beforeB⟩
      · cases busyB
      exact sound.alone a b txA txB beforeA beforeB busyA busyB
  | next id call found => exact next_sound sound counts
  | rollback id => exact sound.abandon id
  | lease runID statement =>
    unfold step
    dsimp only
    split
    · exact sound
    split
    · exact sound
    next row stored =>
    split
    · exact sound
    · next row' updated =>
      have fewer : NoMoreActive db.runs (db.runs.set runID row') := .update stored updated
      exact ⟨sound.bounded.mono fewer, sound.locked, sound.alone,
        fun id tx found => (sound.room id tx found).mono fewer⟩

theorem Sound.empty (limits : Limits) : Sound limits {} := by
  have none {id : Nat} {tx : AdmissionTx}
      (stored : (∅ : AssocMap Nat AdmissionTx).get id = some tx) : False := by
    cases stored
  have global := limits.global_pos
  have owner := limits.owner_pos
  refine ⟨⟨?_, fun _ _ => ?_⟩, fun _ _ stored => (none stored).elim,
    fun _ _ _ _ stored => (none stored).elim, fun _ _ stored => (none stored).elim⟩
  · change (0 : Int) ≤ _
    omega
  · change (0 : Int) ≤ _
    omega

/-- In every interleaving in which no transaction reads its counts while another one, one of the two
without the lock, is between its counts and its end, the limits hold in every committed state. -/
theorem admission_bounded {events : List (Event Database DatabaseInput DatabaseReply)}
    (history : Run (step limits) CountsAlone {} events db) :
    (activeGlobal db.runs : Int) ≤ limits.maxGlobalRunnable ∧ ∀ tenantID ownerID,
        (activeOwner db.runs tenantID ownerID : Int) ≤ limits.maxRunnablePerOwner := by
  have sound : Sound limits db :=
    history.invariant (fun _ _ counts sound => step_sound counts sound) (.empty limits)
  exact ⟨sound.bounded.global, sound.bounded.owner⟩

/-! ## Transactions that overlap -/

instance (db : Database) : (input : DatabaseInput) → Decidable (CountsAlone db input)
  | .next id _ _ => decidable_of_iff (∀ tx ∈ db.transactions.get id, tx.phase matches .ready →
      ∀ other ∈ db.transactions.keys, other ≠ id → ∀ tx' ∈ db.transactions.get other,
        tx'.counting = true → tx.command.takesLock = true ∧ tx'.command.takesLock = true) <| by
    constructor
    · intro alone tx stored ready id' tx' ne stored' busy
      exact alone tx stored (by rw [ready]) id' (mem_keys.mpr ⟨tx', stored'⟩) ne tx' stored' busy
    · intro alone tx stored ready id' _ ne tx' stored' busy
      refine alone tx stored ?_ id' tx' ne stored' busy
      cases phase : tx.phase <;> simp [phase] at ready ⊢
  | .start .. | .rollback _ | .lease .. => isTrue trivial

/-- Two tasks are started while an outline is locked. The second start waits for the lock of the first,
and the review counts when the first has committed and the second has not yet counted. -/
def startsOverlap : List DatabaseInput :=
  [.start 1 (.insert .createTaskWithRun "tenant" "ann" "task-a1" .v4 .v1),
    .start 2 (.insert .createTaskWithRun "tenant" "bob" "task-b1" .v4 .v1),
    .start 3 (.insert .createReviewRunTx "tenant" "cid" "task-c1" .v4 .v1)] ++
  [1, 2, 1, 3, 1, 2, 1, 1, 2, 3, 3, 3, 3, 2, 2, 2, 2].map fun id => .next id (.at 1 s!"{id}") ""

theorem admission_bounded_starts_overlap : ∃ events db,
    Run (step (.ofConfig 2 1 1)) CountsAlone {} events db ∧
      (events.any fun event => event.reply matches .blocked) = true ∧ db.runs.keys.length = 3 ∧
      activeGlobal db.runs = 2 ∧ (activeGlobal db.runs : Int) ≤ 2 := by
  obtain ⟨events, db, history, blocked, three, two⟩ : ∃ events db,
      Run (step (.ofConfig 2 1 1)) CountsAlone {} events db ∧
        (events.any fun event => event.reply matches .blocked) = true ∧ db.runs.keys.length = 3 ∧
        activeGlobal db.runs = 2 := exists_run startsOverlap (by decide +kernel)
  exact ⟨events, db, history, blocked, three, two, (admission_bounded history).1⟩

def oneSlotLimits : Limits := .ofConfig 1 1 1

def reviewsOverlap : List DatabaseInput := [
  .start 1 (.insert .createReviewRunTx "tenant" "ann" "task-a1" .v4 .v1),
  .start 2 (.insert .createReviewRunTx "tenant" "bob" "task-b1" .v4 .v1),
  .next 1 (.at 1 "a2") "", .next 2 (.at 1 "b2") "", .next 1 (.at 1 "a2") "",
  .next 2 (.at 1 "b2") "", .next 1 (.at 1 "a2") "", .next 2 (.at 1 "b2") "",
  .next 1 (.at 1 "a2") "", .next 2 (.at 1 "b2") "", .next 1 (.at 1 "a2") "",
  .next 2 (.at 1 "b2") ""]

theorem two_reviews_overbook : ∃ events db,
    Run (step oneSlotLimits) (fun _ _ => True) {} events db ∧
      activeGlobal db.runs = 2 ∧ oneSlotLimits.maxGlobalRunnable = 1 := by
  have allowed : AllowedFrom (step oneSlotLimits) (fun _ _ => True) reviewsOverlap {} :=
    ⟨trivial, trivial, trivial, trivial, trivial, trivial, trivial, trivial, trivial, trivial,
      trivial, trivial, trivial⟩
  exact ⟨_, _, .ofInputs allowed, by decide +kernel, rfl⟩

end Database

end PrdAgent.Storage
