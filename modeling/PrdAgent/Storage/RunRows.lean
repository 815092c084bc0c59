import PrdAgent.Runcontrol.Runs

/-!
# Rows of `go_agent_runs`

The lease statements of the PostgreSQL store (`postgres.go`, `agent_execution.go`), each as a function
on the row its `WHERE` clause selects. The three lease columns are set together and cleared together,
so one flag says whether they are `NULL`; a `NULL` column is read as an empty string or the epoch and
equals no parameter.
-/

namespace PrdAgent.Storage

open Runcontrol

/-- A row of `go_agent_runs`, as a `SELECT` with its `COALESCE`s reads it. -/
structure RunRow where
  run : AgentRun
  /-- `lease_id`, `worker_id` and `lease_expires_at` are not `NULL`. -/
  leased : Bool := false

namespace RunRow

variable (row : RunRow)

/-- `lease_id=$2 AND worker_id=$3 AND fencing_token=$4 AND lease_expires_at>$5`. -/
def matchesLease (lease : LeaseContext) (now : Time) : Bool :=
  row.leased && row.run.leaseID == lease.leaseID && row.run.workerID == lease.workerID &&
    row.run.fencingToken == lease.fencingToken && decide (now < row.run.leaseExpiresAt)

/-- The condition of `assertLease`. -/
def runningUnder (lease : LeaseContext) (now : Time) : Bool :=
  row.run.status == .running && row.matchesLease lease now

/-- The condition of the updates of `Heartbeat` and `CompleteRun`. -/
def heldUnder (lease : LeaseContext) (now : Time) : Bool :=
  (row.run.status == .running || row.run.status == .stopping) && row.matchesLease lease now

/-- The update of `StopRun`. -/
def stop (now : Time) : RunRow :=
  { row with run := { row.run with
    status := if row.run.status.terminal then row.run.status else .stopping
    updatedAt := now } }

/-- The checks and the update of `AcquireRun`. -/
def acquire (workerID leaseID : String) (now : Time) (ttl : Duration) : Except StoreError RunRow :=
  if row.run.status = .running ∧ now < row.run.leaseExpiresAt then .error ⟨.leaseHeld, ""⟩
  else if row.run.status ≠ .queued ∧
      ¬ (row.run.status = .running ∧ ¬ now < row.run.leaseExpiresAt) then
    .error ⟨.invalidRunStatus, ""⟩
  else .ok {
    run := { row.run with
      status := .running, workerID := workerID, leaseID := leaseID
      fencingToken := row.run.fencingToken + 1, leaseExpiresAt := now + MemoryStore.leaseTTL ttl
      attemptCount := row.run.attemptCount + 1, updatedAt := now }
    leased := true }

/-- The update of `Heartbeat`. -/
def heartbeat (lease : LeaseContext) (now : Time) (ttl : Duration) : Except StoreError RunRow :=
  if row.heldUnder lease now then
    .ok { row with run := { row.run with
      leaseExpiresAt := now + MemoryStore.leaseTTL ttl, updatedAt := now } }
  else .error ⟨.leaseLost, ""⟩

/-- The check and the update of `CompleteRun`. -/
def complete (lease : LeaseContext) (status : RunStatus) (now : Time) : Except StoreError RunRow :=
  if status.terminal = false then .error ⟨.invalidRunStatus, ""⟩
  else if row.heldUnder lease now then
    .ok {
      run := { row.run with
        status := status, queueSlotAcquired := false, leaseID := "", workerID := ""
        leaseExpiresAt := 0, updatedAt := now }
      leased := false }
  else .error ⟨.leaseLost, ""⟩

end RunRow

end PrdAgent.Storage
