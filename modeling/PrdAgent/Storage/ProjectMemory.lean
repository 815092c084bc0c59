import PrdAgent.Runcontrol.ControlPlane

/-!
# Project memory in the PostgreSQL store

`ConfirmProjectMemoryCandidate` and `RevokeProjectMemory` of `storage/project_memory.go`, as
transactions on the tables of `0023_project_memory.sql`: a command that returns an error leaves the
tables as they were. A record is read together with its current version, so `records` holds the join
of the two tables; columns give back what was written to them. The event rows, which nothing reads,
are left out.
-/

namespace PrdAgent.Storage

open Runcontrol

/-- What the statements leave to the database. -/
structure PostgresRuntime extends MemoryRuntime where
  /-- `jsonb` equality of marshalled values. -/
  jsonbEqual : Json → Json → Bool
  /-- The order of texts that `ORDER BY` uses. -/
  collates : String → String → Bool

instance : Coe PostgresRuntime MemoryRuntime := ⟨PostgresRuntime.toMemoryRuntime⟩

/-- A row of `go_command_idempotency`. -/
structure MemoryCommandRow where
  requestHash : String
  resourceID : String

/-- The tables of project memory. Commands are stored by tenant, owner, operation and idempotency
key. -/
structure MemoryRows where
  spaces : GoMap MemorySpace := ∅
  candidates : GoMap ProjectMemoryCandidate := ∅
  records : GoMap ProjectMemoryRecord := ∅
  conflicts : GoMap ProjectMemoryConflict := ∅
  commands : AssocMap (String × String × String × String) MemoryCommandRow := ∅

namespace MemoryRows

abbrev Result (α : Type) := MemoryRows × Except StoreError α

def rollback {α : Type} (rows : MemoryRows) (kind : ErrorKind) : Result α :=
  (rows, .error ⟨kind, ""⟩)

/-- The row with a key if it meets the rest of the `WHERE` clause; `mapNotFound` names the error of
an empty result. -/
def selectRow {α : Type} (row : Option α) (condition : α → Bool) : Except StoreError α :=
  match row with
  | none => .error ⟨.notFound, ""⟩
  | some row => if condition row then .ok row else .error ⟨.notFound, ""⟩

/-- `WHERE space_id=$1 AND tenant_id=$2 AND owner_id=$3`. -/
def loadMemorySpace (rows : MemoryRows) (tenantID ownerID spaceID : String) :
    Except StoreError MemorySpace :=
  selectRow (rows.spaces.get spaceID) fun space =>
    space.tenantID == tenantID && space.ownerID == ownerID

/-- `WHERE candidate_id=$1 AND space_id=$2`. -/
def loadMemoryCandidate (rows : MemoryRows) (spaceID candidateID : String) :
    Except StoreError ProjectMemoryCandidate :=
  selectRow (rows.candidates.get candidateID) (·.spaceID == spaceID)

/-- `WHERE r.space_id=$1 AND r.memory_id=$2`. -/
def loadMemoryRecord (rows : MemoryRows) (spaceID memoryID : String) :
    Except StoreError ProjectMemoryRecord :=
  selectRow (rows.records.get memoryID) (·.spaceID == spaceID)

def memoryCommandReplay (rows : MemoryRows) (tenantID ownerID operation key requestHash : String) :
    Except StoreError (Option String) :=
  match rows.commands.get (tenantID, ownerID, operation, key) with
  | none => .ok none
  | some row =>
    if row.requestHash ≠ requestHash then .error ⟨.invalidIdempotency, ""⟩
    else .ok (some row.resourceID)

def insertMemoryCommand (rows : MemoryRows)
    (tenantID ownerID operation key requestHash resourceID : String) : MemoryRows :=
  { rows with commands :=
      rows.commands.set (tenantID, ownerID, operation, key) ⟨requestHash, resourceID⟩ }

section Commands

variable (rt : PostgresRuntime) (call : Call)

/-- `ORDER BY memory_id`. -/
def orderByID (memoryIDs : List String) : List String :=
  memoryIDs.insertionSort fun left right => rt.collates left right = true

def activeSemanticMemoryIDs (rows : MemoryRows) (spaceID semanticKey : String) : List String :=
  orderByID rt
    ((rows.records.values.filter (·.activeFor spaceID semanticKey)).map (·.memoryID))

/-- The `SELECT … LIMIT 1` of an active record that says what the candidate says. -/
def duplicateID (rows : MemoryRows) (spaceID semanticKey : String)
    (candidate : ProjectMemoryCandidate) : Option String :=
  (orderByID rt ((rows.records.values.filter fun existing =>
    existing.activeFor spaceID semanticKey &&
      (rt.jsonbEqual existing.current.value candidate.value &&
        existing.current.statement == candidate.statement)).map (·.memoryID))).head?

def markMemoryCandidateReviewed (rows : MemoryRows) (command : ReviewMemoryCandidateCommand)
    (candidate : ProjectMemoryCandidate) (status : MemoryCandidateStatus) : MemoryRows :=
  { rows with
    candidates := rows.candidates.set candidate.candidateID
      (ProjectMemory.reviewed call command candidate status) }

/-- `INSERT INTO go_project_memory_conflicts … ON CONFLICT (conflict_id) DO NOTHING`, if more than
one record is active. -/
def openConflict (rows : MemoryRows) (version : ProjectMemoryVersion) (conflictIDs : List String)
    (now : Time) : GoMap ProjectMemoryConflict :=
  if conflictIDs.length > 1 then
    let conflictID := memoryConflictID rt.toMemoryRuntime conflictIDs
    match rows.conflicts.get conflictID with
    | some _ => rows.conflicts
    | none => rows.conflicts.set conflictID {
        conflictID := conflictID, spaceID := version.spaceID, subject := version.subject
        predicate := version.predicate, memoryIDs := conflictIDs, status := .opened
        committedEpoch := version.committedEpoch, createdAt := now }
  else rows.conflicts

def confirmProjectMemoryCandidate (command : ReviewMemoryCandidateCommand) (rows : MemoryRows) :
    Result ProjectMemoryRecord :=
  if command.expectedHash = "" ∨ command.actorRef = "" ∨ command.idempotencyKey = "" then
    rows.rollback .invalidPayload
  else
  let requestHash := ProjectMemory.reviewHash rt.toMemoryRuntime command
  match rows.loadMemorySpace command.tenantID command.ownerID command.spaceID with
  | .error err => (rows, .error err)
  | .ok space =>
  match rows.memoryCommandReplay command.tenantID command.ownerID "MEMORY_CONFIRM"
      command.idempotencyKey requestHash with
  | .error err => (rows, .error err)
  | .ok (some resourceID) => (rows, rows.loadMemoryRecord command.spaceID resourceID)
  | .ok none =>
  match rows.loadMemoryCandidate command.spaceID command.candidateID with
  | .error err => (rows, .error err)
  | .ok candidate =>
  if candidate.requestHash ≠ command.expectedHash ∨ candidate.status ≠ .pending then
    rows.rollback .taskVersionConflict
  else
  let now := commandTime call command.now
  let semanticKey := memorySemanticKey rt.toMemoryRuntime space.spaceID candidate.memoryType
    candidate.subject candidate.predicate
  let marked := rows.markMemoryCandidateReviewed call command candidate .confirmed
  match rows.duplicateID rt space.spaceID semanticKey candidate with
  | some duplicateID =>
    match marked.loadMemoryRecord space.spaceID duplicateID with
    | .error err => (rows, .error err)
    | .ok record =>
      (marked.insertMemoryCommand command.tenantID command.ownerID "MEMORY_CONFIRM"
        command.idempotencyKey requestHash duplicateID, .ok record)
  | none =>
  -- the copy of no tags is `nil`, which is written as NULL to a column that is NOT NULL
  if candidate.tags = [] then rows.rollback .database
  else
    let advanced := space.committed now
    let version := ProjectMemory.firstVersion rt.toMemoryRuntime call command candidate
      space.spaceID advanced.memoryEpoch
    let confirmed : ProjectMemoryRecord := {
      memoryID := version.memoryID, spaceID := space.spaceID, semanticKey := semanticKey
      currentStatus := .active, current := version, createdAt := now, updatedAt := now }
    let written := { marked with
      spaces := rows.spaces.set space.spaceID advanced
      records := rows.records.set version.memoryID confirmed }
    -- `sort.Strings` orders by bytes what the query ordered by its collation
    let conflictIDs :=
      (written.activeSemanticMemoryIDs rt space.spaceID semanticKey).insertionSort (· ≤ ·)
    let opened := { written with conflicts := written.openConflict rt version conflictIDs now }
    (opened.insertMemoryCommand command.tenantID command.ownerID "MEMORY_CONFIRM"
      command.idempotencyKey requestHash version.memoryID, .ok confirmed)

/-- `UPDATE go_project_memory_conflicts SET status='RESOLVED' … WHERE space_id=$1 AND status='OPEN'
AND $5=ANY(memory_ids)`, on one row. -/
def resolveConflict (spaceID memoryID resolutionID : String) (now : Time) (epoch : Int)
    (conflict : ProjectMemoryConflict) : ProjectMemoryConflict :=
  if conflict.spaceID = spaceID ∧ conflict.status = .opened ∧ memoryID ∈ conflict.memoryIDs then
    { conflict with
      status := .resolved, resolutionMemoryID := resolutionID, resolvedAt := some now
      resolvedEpoch := some epoch }
  else conflict

/-- The conflicts after a record was revoked: those of the record are resolved once at most one
record with its semantic key is active. -/
def resolveConflicts (rows : MemoryRows) (spaceID : String) (record : ProjectMemoryRecord)
    (now : Time) (epoch : Int) : GoMap ProjectMemoryConflict :=
  let survivors := rows.activeSemanticMemoryIDs rt spaceID record.semanticKey
  if survivors.length ≤ 1 then
    (rows.conflicts.range id).foldl (fun conflicts entry => conflicts.set entry.1
      (resolveConflict spaceID record.memoryID (survivors.headD "") now epoch entry.2))
      rows.conflicts
  else rows.conflicts

def revokeProjectMemory (command : RevokeMemoryCommand) (rows : MemoryRows) :
    Result ProjectMemoryRecord :=
  if command.expectedVersion < 1 ∨ command.actorRef = "" ∨ command.idempotencyKey = "" then
    rows.rollback .invalidPayload
  else
  let requestHash := rt.stableHash (GoText.joinNul
    [command.memoryID, GoText.itoa command.expectedVersion, command.actorRef])
  match rows.loadMemorySpace command.tenantID command.ownerID command.spaceID with
  | .error err => (rows, .error err)
  | .ok space =>
  match rows.memoryCommandReplay command.tenantID command.ownerID "MEMORY_REVOKE"
      command.idempotencyKey requestHash with
  | .error err => (rows, .error err)
  | .ok (some resourceID) => (rows, rows.loadMemoryRecord command.spaceID resourceID)
  | .ok none =>
  match rows.loadMemoryRecord command.spaceID command.memoryID with
  | .error err => (rows, .error err)
  | .ok record =>
  if record.current.version ≠ command.expectedVersion ∨ record.currentStatus ≠ .active then
    rows.rollback .taskVersionConflict
  else
    let now := commandTime call command.now
    let advanced := space.committed now
    let version := ProjectMemory.revokedVersion rt.toMemoryRuntime call command record.current
      advanced.memoryEpoch
    let revoked := { record with
      currentStatus := .revoked, current := version, updatedAt := now }
    let written := { rows with
      spaces := rows.spaces.set space.spaceID advanced
      records := rows.records.set record.memoryID revoked }
    let resolved := { written with
      conflicts := written.resolveConflicts rt space.spaceID record now advanced.memoryEpoch }
    (resolved.insertMemoryCommand command.tenantID command.ownerID "MEMORY_REVOKE"
      command.idempotencyKey requestHash record.memoryID, .ok revoked)

end Commands

end MemoryRows

end PrdAgent.Storage
