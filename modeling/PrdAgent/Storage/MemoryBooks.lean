import PrdAgent.Runcontrol.MemoryConflicts
import PrdAgent.Storage.ProjectMemory

/-!
# What both stores of project memory do alike

The two stores check a confirmation or a revocation in different orders and answer with different
errors, but they carry out the same ones (`confirmable`, `revocable`), and write spaces, candidates and
records in the same way (`confirmed`, `revoked`). Each store is a refinement of `MemoryBooks`; its
conflicts are its own.
-/

namespace PrdAgent.Storage

open Runcontrol Runcontrol.ProjectMemory GoText AssocMap

/-- The spaces, candidates and records, which both stores write in the same way. -/
structure MemoryBooks where
  spaces : GoMap MemorySpace
  candidates : GoMap ProjectMemoryCandidate
  records : GoMap ProjectMemoryRecord

namespace MemoryBooks

variable (rt : MemoryRuntime) (call : Call) (books : MemoryBooks)

/-- The space and the candidate of a confirmation that is carried out. -/
def confirmable (recorded : Bool) (command : ReviewMemoryCandidateCommand) :
    Option (MemorySpace × ProjectMemoryCandidate) :=
  (books.spaces.get command.spaceID).bind fun space =>
  (books.candidates.get command.candidateID).bind fun candidate =>
    if (space.tenantID = command.tenantID ∧ space.ownerID = command.ownerID) ∧
        candidate.spaceID = command.spaceID ∧
        (command.expectedHash ≠ "" ∧ command.actorRef ≠ "" ∧ command.idempotencyKey ≠ "") ∧
        candidate.requestHash = command.expectedHash ∧ candidate.status = .pending ∧
        recorded = false then
      some (space, candidate)
    else none

/-- An active record says what the candidate says. -/
def knows (equal : Json → Json → Bool) (space : MemorySpace) (candidate : ProjectMemoryCandidate) :
    Bool :=
  books.records.values.any fun existing =>
    existing.activeFor space.spaceID (ProjectMemory.candidateKey rt space.spaceID candidate) &&
      (equal existing.current.value candidate.value &&
        existing.current.statement == candidate.statement)

def confirmed (command : ReviewMemoryCandidateCommand) (space : MemorySpace)
    (candidate : ProjectMemoryCandidate) (known : Bool) : MemoryBooks :=
  let candidates := books.candidates.set candidate.candidateID
    (ProjectMemory.reviewed call command candidate .confirmed)
  if known then { books with candidates := candidates }
  else {
    spaces := books.spaces.set space.spaceID (space.committed (commandTime call command.now))
    candidates := candidates
    records := books.records.set (call.newID "memory")
      (ProjectMemory.confirmedRecord rt call command space candidate) }

/-- The space and the record of a revocation that is carried out. -/
def revocable (recorded : Bool) (command : RevokeMemoryCommand) :
    Option (MemorySpace × ProjectMemoryRecord) :=
  (books.spaces.get command.spaceID).bind fun space =>
  (books.records.get command.memoryID).bind fun record =>
    if (space.tenantID = command.tenantID ∧ space.ownerID = command.ownerID) ∧
        record.spaceID = command.spaceID ∧
        (1 ≤ command.expectedVersion ∧ command.actorRef ≠ "" ∧ command.idempotencyKey ≠ "") ∧
        record.current.version = command.expectedVersion ∧ record.currentStatus = .active ∧
        recorded = false then
      some (space, record)
    else none

def revoked (command : RevokeMemoryCommand) (space : MemorySpace)
    (record : ProjectMemoryRecord) : MemoryBooks :=
  { books with
    spaces := books.spaces.set space.spaceID (space.committed (commandTime call command.now))
    records := books.records.set record.memoryID
      (ProjectMemory.revokedRecord rt call command space record) }

variable {books}

theorem confirmable_eq_some {recorded : Bool} {command : ReviewMemoryCandidateCommand}
    {space : MemorySpace} {candidate : ProjectMemoryCandidate} :
    books.confirmable recorded command = some (space, candidate) ↔
      books.spaces.get command.spaceID = some space ∧
      books.candidates.get command.candidateID = some candidate ∧
      (space.tenantID = command.tenantID ∧ space.ownerID = command.ownerID) ∧
      candidate.spaceID = command.spaceID ∧
      (command.expectedHash ≠ "" ∧ command.actorRef ≠ "" ∧ command.idempotencyKey ≠ "") ∧
      candidate.requestHash = command.expectedHash ∧ candidate.status = .pending ∧
      recorded = false := by
  simp only [confirmable, Option.bind_eq_some_iff, Option.ite_none_right_eq_some,
    Option.some.injEq, Prod.mk.injEq]
  constructor
  · rintro ⟨_, stored, _, proposed, accepted, rfl, rfl⟩
    exact ⟨stored, proposed, accepted⟩
  · rintro ⟨stored, proposed, accepted⟩
    exact ⟨space, stored, candidate, proposed, accepted, rfl, rfl⟩

theorem revocable_eq_some {recorded : Bool} {command : RevokeMemoryCommand}
    {space : MemorySpace} {record : ProjectMemoryRecord} :
    books.revocable recorded command = some (space, record) ↔
      books.spaces.get command.spaceID = some space ∧
      books.records.get command.memoryID = some record ∧
      (space.tenantID = command.tenantID ∧ space.ownerID = command.ownerID) ∧
      record.spaceID = command.spaceID ∧
      (1 ≤ command.expectedVersion ∧ command.actorRef ≠ "" ∧ command.idempotencyKey ≠ "") ∧
      record.current.version = command.expectedVersion ∧ record.currentStatus = .active ∧
      recorded = false := by
  simp only [revocable, Option.bind_eq_some_iff, Option.ite_none_right_eq_some,
    Option.some.injEq, Prod.mk.injEq]
  constructor
  · rintro ⟨_, stored, _, held, accepted, rfl, rfl⟩
    exact ⟨stored, held, accepted⟩
  · rintro ⟨stored, held, accepted⟩
    exact ⟨space, stored, record, held, accepted, rfl, rfl⟩

end MemoryBooks

open MemoryBooks

/-! ## The in-memory store -/

section Memory

variable {rt : MemoryRuntime} {call : Call} {m : ProjectMemory}

def booksOf (m : ProjectMemory) : MemoryBooks :=
  ⟨m.memorySpaces, m.projectMemoryCandidates, m.projectMemoryRecords⟩

def recordedIn (m : ProjectMemory) (tenantID ownerID operation key : String) : Bool :=
  (m.projectMemoryCommandResources.get
    (memoryCommandKey tenantID ownerID operation key)).isSome

theorem replay_eq_none {commandKey requestHash : String} :
    m.replay commandKey requestHash = none ↔
      (m.projectMemoryCommandResources.get commandKey).isSome = false := by
  unfold ProjectMemory.replay
  cases m.projectMemoryCommandResources.get commandKey with
  | none => simp
  | some resourceID =>
    dsimp only
    split <;> simp

theorem duplicate_isSome (call : Call) (space : MemorySpace) (candidate : ProjectMemoryCandidate) :
    (m.duplicate rt call space.spaceID (candidateKey rt space.spaceID candidate)
      candidate).isSome = (booksOf m).knows rt (memoryJSONEqual rt) space candidate := by
  unfold ProjectMemory.duplicate MemoryBooks.knows booksOf
  rw [Bool.eq_iff_iff, List.find?_isSome, List.any_eq_true]
  refine exists_congr fun existing => and_congr_left fun _ => ?_
  rw [mem_values, List.mem_map]
  constructor
  · rintro ⟨entry, mem, rfl⟩
    exact ⟨entry.1, (mem_range (call.order_perm _)).mp mem⟩
  · rintro ⟨memoryID, stored⟩
    exact ⟨(memoryID, existing), (mem_range (call.order_perm _)).mpr stored, rfl⟩

variable {space : MemorySpace} {command : ReviewMemoryCandidateCommand}

abbrev confirmableIn (m : ProjectMemory) (command : ReviewMemoryCandidateCommand) :
    Option (MemorySpace × ProjectMemoryCandidate) :=
  (booksOf m).confirmable
    (recordedIn m command.tenantID command.ownerID "CONFIRM" command.idempotencyKey) command

abbrev revocableIn (m : ProjectMemory) (command : RevokeMemoryCommand) :
    Option (MemorySpace × ProjectMemoryRecord) :=
  (booksOf m).revocable
    (recordedIn m command.tenantID command.ownerID "REVOKE" command.idempotencyKey) command

theorem confirm_memory_refused (refused : confirmableIn m command = none) :
    (m.confirmProjectMemoryCandidate rt call command).1 = m := by
  unfold confirmProjectMemoryCandidate ProjectMemory.refuse
  dsimp only
  split
  · rfl
  next space candidate found =>
  split
  · rfl
  · rfl
  next new =>
  split
  · rfl
  next pending =>
  obtain ⟨⟨lives, tenant, owner⟩, stored, inSpace, named, expected⟩ :=
    reviewCandidateLocked_ok_iff.mp found
  cases refused.symm.trans (confirmable_eq_some.mpr ⟨lives, stored, ⟨tenant, owner⟩, inSpace,
    named, expected, not_not.mp pending, replay_eq_none.mp new⟩)

theorem confirm_memory_accepted (rt : MemoryRuntime) (call : Call)
    {candidate : ProjectMemoryCandidate}
    (accepted : confirmableIn m command = some (space, candidate)) :
    let m' := (m.confirmProjectMemoryCandidate rt call command).1
    let known := (booksOf m).knows rt (memoryJSONEqual rt) space candidate
    booksOf m' = (booksOf m).confirmed rt call command space candidate known ∧
      (∃ resourceID, m'.projectMemoryCommandResources = m.projectMemoryCommandResources.set
        (memoryCommandKey command.tenantID command.ownerID "CONFIRM" command.idempotencyKey)
        resourceID) ∧
      m'.projectMemoryConflicts = if known then m.projectMemoryConflicts
        else m.openConflict rt space.spaceID
          (confirmedRecord rt call command space candidate).current
          (m.confirmedMembers rt call command space candidate) (commandTime call command.now) := by
  intro m' known
  obtain ⟨stored, proposed, owned, inSpace, named, expected, pending, new⟩ :=
    confirmable_eq_some.mp accepted
  have found : m.reviewCandidateLocked command = .ok (space, candidate) :=
    reviewCandidateLocked_ok_iff.mpr
      ⟨⟨stored, owned.1, owned.2⟩, proposed, inSpace, named, expected⟩
  have known_eq : (m.duplicate rt call space.spaceID (memorySemanticKey rt space.spaceID
      candidate.memoryType candidate.subject candidate.predicate) candidate).isSome = known :=
    duplicate_isSome call space candidate
  dsimp only [m', confirmProjectMemoryCandidate]
  rw [found, replay_eq_none.mpr new]
  dsimp only
  rw [if_neg (not_not.mpr pending), ← known_eq]
  cases m.duplicate rt call space.spaceID (memorySemanticKey rt space.spaceID candidate.memoryType
    candidate.subject candidate.predicate) candidate <;> exact ⟨rfl, ⟨_, rfl⟩, rfl⟩

theorem revoke_memory_refused {command : RevokeMemoryCommand}
    (refused : revocableIn m command = none) : (m.revokeProjectMemory rt call command).1 = m := by
  dsimp only [revokeProjectMemory, ProjectMemory.refuse]
  repeat' split
  all_goals try rfl
  next owned _ _ stored inSpace _ new allowed =>
  simp only [not_or, ne_eq, not_not, not_lt] at inSpace allowed
  obtain ⟨version, current, active, actor, key⟩ := allowed
  obtain ⟨lives, tenant, owner⟩ := ownedSpace_ok_iff.mp owned
  cases refused.symm.trans (revocable_eq_some.mpr ⟨lives, stored, ⟨tenant, owner⟩, inSpace,
    ⟨version, actor, key⟩, current, active, replay_eq_none.mp new⟩)

theorem revoke_memory_accepted (rt : MemoryRuntime) (call : Call) {command : RevokeMemoryCommand}
    {record : ProjectMemoryRecord} (accepted : revocableIn m command = some (space, record)) :
    let m' := (m.revokeProjectMemory rt call command).1
    booksOf m' = (booksOf m).revoked rt call command space record ∧
      (∃ resourceID, m'.projectMemoryCommandResources = m.projectMemoryCommandResources.set
        (memoryCommandKey command.tenantID command.ownerID "REVOKE" command.idempotencyKey)
        resourceID) ∧
      ∀ conflictID, m'.projectMemoryConflicts.get conflictID =
        (m.projectMemoryConflicts.get conflictID).map (m'.resolveConflict record.memoryID
          (commandTime call command.now) (space.memoryEpoch + 1)) := by
  intro m'
  obtain ⟨stored, held, owned, inSpace, ⟨version, actor, key⟩, current, active, new⟩ :=
    revocable_eq_some.mp accepted
  have found : m.ownedSpace command.tenantID command.ownerID command.spaceID = .ok space :=
    ownedSpace_ok_iff.mpr ⟨stored, owned.1, owned.2⟩
  have allowed : ¬ (command.expectedVersion < 1 ∨ record.current.version ≠ command.expectedVersion ∨
      record.currentStatus ≠ .active ∨ command.actorRef = "" ∨ command.idempotencyKey = "") := by
    simp only [not_or, ne_eq, not_not, not_lt]
    exact ⟨version, current, active, actor, key⟩
  dsimp only [m', revokeProjectMemory]
  rw [found, show m.projectMemoryRecords.get command.memoryID = some record from held]
  dsimp only
  rw [if_neg (not_not.mpr inSpace), replay_eq_none.mpr new]
  dsimp only
  rw [if_neg allowed]
  exact ⟨rfl, ⟨_, rfl⟩, fun conflictID => get_foldl_range (call.order_perm _) _ conflictID⟩

end Memory

/-! ## The tables -/

section Rows

variable {rt : PostgresRuntime} {call : Call} {rows : MemoryRows}

namespace MemoryRows

def books (rows : MemoryRows) : MemoryBooks := ⟨rows.spaces, rows.candidates, rows.records⟩

def recorded (rows : MemoryRows) (tenantID ownerID operation key : String) : Bool :=
  (rows.commands.get (tenantID, ownerID, operation, key)).isSome

theorem selectRow_eq_ok {α : Type} {row : Option α} {condition : α → Bool} {found : α} :
    selectRow row condition = .ok found ↔ row = some found ∧ condition found = true := by
  unfold selectRow
  cases row with
  | none => simp
  | some row =>
    dsimp only
    split
    · next holds =>
      simp only [Except.ok.injEq, Option.some.injEq]
      refine ⟨fun same => ⟨same, same ▸ holds⟩, And.left⟩
    · next fails =>
      simp only [reduceCtorEq, Option.some.injEq, false_iff]
      rintro ⟨rfl, holds⟩
      exact fails holds

variable {spaceID : String} {space : MemorySpace}

theorem loadMemorySpace_eq_ok {tenantID ownerID : String} :
    rows.loadMemorySpace tenantID ownerID spaceID = .ok space ↔
      rows.spaces.get spaceID = some space ∧ space.tenantID = tenantID ∧
        space.ownerID = ownerID := by
  rw [loadMemorySpace, selectRow_eq_ok, Bool.and_eq_true, beq_iff_eq, beq_iff_eq]

theorem loadMemoryCandidate_eq_ok {candidateID : String} {candidate : ProjectMemoryCandidate} :
    rows.loadMemoryCandidate spaceID candidateID = .ok candidate ↔
      rows.candidates.get candidateID = some candidate ∧ candidate.spaceID = spaceID := by
  rw [loadMemoryCandidate, selectRow_eq_ok, beq_iff_eq]

theorem loadMemoryRecord_eq_ok {memoryID : String} {record : ProjectMemoryRecord} :
    rows.loadMemoryRecord spaceID memoryID = .ok record ↔
      rows.records.get memoryID = some record ∧ record.spaceID = spaceID := by
  rw [loadMemoryRecord, selectRow_eq_ok, beq_iff_eq]

theorem memoryCommandReplay_eq_none {tenantID ownerID operation key requestHash : String} :
    rows.memoryCommandReplay tenantID ownerID operation key requestHash = .ok none ↔
      rows.recorded tenantID ownerID operation key = false := by
  unfold memoryCommandReplay recorded
  cases rows.commands.get (tenantID, ownerID, operation, key) with
  | none => simp
  | some row =>
    dsimp only
    split <;> simp

theorem orderByID_perm (rt : PostgresRuntime) (memoryIDs : List String) :
    (orderByID rt memoryIDs).Perm memoryIDs :=
  List.perm_insertionSort _ _

/-- A duplicate is found just when an active record says what the candidate says, and it is one of
the space. -/
theorem duplicateID_cases (rt : PostgresRuntime) (keyed : rows.records.Keyed (·.memoryID))
    (space : MemorySpace) (candidate : ProjectMemoryCandidate) :
    let found := rows.duplicateID rt space.spaceID
      (candidateKey rt space.spaceID candidate) candidate
    let known := rows.books.knows rt rt.jsonbEqual space candidate
    (known = false ∧ found = none) ∨ (known = true ∧ ∃ memoryID record, found = some memoryID ∧
      rows.loadMemoryRecord space.spaceID memoryID = .ok record) := by
  intro found known
  have perm := orderByID_perm rt ((rows.records.values.filter fun existing =>
    existing.activeFor space.spaceID
        (candidateKey rt space.spaceID candidate) &&
      (rt.jsonbEqual existing.current.value candidate.value &&
        existing.current.statement == candidate.statement)).map (·.memoryID))
  cases decided : found with
  | none =>
    rw [List.head?_eq_none_iff.mp decided] at perm
    have nobody := List.filter_eq_nil_iff.mp (List.map_eq_nil_iff.mp perm.symm.eq_nil)
    exact .inl ⟨List.any_eq_false.mpr nobody, rfl⟩
  | some memoryID =>
    obtain ⟨record, listed, rfl⟩ := List.mem_map.mp (perm.mem_iff.mp (List.mem_of_head? decided))
    obtain ⟨mem, same⟩ := List.mem_filter.mp listed
    obtain ⟨memoryID, stored⟩ := mem_values.mp mem
    have active := activeFor_iff.mp (Bool.and_eq_true _ _ ▸ same).1
    have id : record.memoryID = memoryID := keyed memoryID record stored
    refine .inr ⟨List.any_eq_true.mpr ⟨record, mem, same⟩, _, record, rfl, ?_⟩
    exact loadMemoryRecord_eq_ok.mpr ⟨id ▸ stored, active.1⟩

/-- The members of the conflict that a confirmation opens in the tables. -/
def confirmedMembers (rt : PostgresRuntime) (call : Call) (rows : MemoryRows)
    (command : ReviewMemoryCandidateCommand) (space : MemorySpace)
    (candidate : ProjectMemoryCandidate) : List String :=
  let record := confirmedRecord rt call command space candidate
  ({ rows with records := rows.records.set record.memoryID record }.activeSemanticMemoryIDs rt
    space.spaceID record.semanticKey).insertionSort (· ≤ ·)

abbrev confirmable (rows : MemoryRows) (command : ReviewMemoryCandidateCommand) :
    Option (MemorySpace × ProjectMemoryCandidate) :=
  rows.books.confirmable (rows.recorded command.tenantID command.ownerID "MEMORY_CONFIRM"
    command.idempotencyKey) command

abbrev revocable (rows : MemoryRows) (command : RevokeMemoryCommand) :
    Option (MemorySpace × ProjectMemoryRecord) :=
  rows.books.revocable (rows.recorded command.tenantID command.ownerID "MEMORY_REVOKE"
    command.idempotencyKey) command

theorem confirm_refused {command : ReviewMemoryCandidateCommand}
    (refused : rows.confirmable command = none) :
    (rows.confirmProjectMemoryCandidate rt call command).1 = rows := by
  dsimp only [confirmProjectMemoryCandidate, rollback]
  split
  · rfl
  next named =>
  split
  · rfl
  next space found =>
  split
  · rfl
  · rfl
  next new =>
  split
  · rfl
  next candidate proposed =>
  split
  · rfl
  next fit =>
  simp only [not_or, ne_eq, not_not] at named fit
  obtain ⟨lives, owned⟩ := loadMemorySpace_eq_ok.mp found
  obtain ⟨stored, inSpace⟩ := loadMemoryCandidate_eq_ok.mp proposed
  cases refused.symm.trans (confirmable_eq_some.mpr ⟨lives, stored, owned, inSpace,
    named, fit.1, fit.2, memoryCommandReplay_eq_none.mp new⟩)

theorem confirm_accepted (rt : PostgresRuntime) (call : Call)
    (keyed : rows.records.Keyed (·.memoryID)) {command : ReviewMemoryCandidateCommand}
    {candidate : ProjectMemoryCandidate} (tagged : candidate.tags ≠ [])
    (accepted : rows.confirmable command = some (space, candidate)) :
    let rows' := (rows.confirmProjectMemoryCandidate rt call command).1
    let known := rows.books.knows rt rt.jsonbEqual space candidate
    rows'.books = rows.books.confirmed rt call command space candidate known ∧
      (∃ row, rows'.commands = rows.commands.set (command.tenantID, command.ownerID,
        "MEMORY_CONFIRM", command.idempotencyKey) row) ∧
      rows'.conflicts = if known then rows.conflicts
        else rows.openConflict rt
          (confirmedRecord rt call command space candidate).current
          (rows.confirmedMembers rt call command space candidate)
          (commandTime call command.now) := by
  intro rows' known
  obtain ⟨stored, proposed, owned, inSpace, named, expected, pending, new⟩ :=
    confirmable_eq_some.mp accepted
  have found := loadMemorySpace_eq_ok.mpr ⟨stored, owned⟩
  have present := loadMemoryCandidate_eq_ok.mpr ⟨proposed, inSpace⟩
  dsimp only [rows', confirmProjectMemoryCandidate]
  rw [if_neg (by simp [named]), found, memoryCommandReplay_eq_none.mpr new, present]
  dsimp only
  rw [if_neg (by simp [expected, pending])]
  rcases duplicateID_cases rt keyed space candidate with
    ⟨known_eq, new⟩ | ⟨known_eq, memoryID, record, repeated, loaded⟩
  · unfold candidateKey at new
    rw [new, show known = false from known_eq]
    dsimp only
    rw [if_neg tagged]
    exact ⟨rfl, ⟨_, rfl⟩, rfl⟩
  · unfold candidateKey at repeated
    rw [repeated, show known = true from known_eq]
    dsimp only
    rw [show (rows.markMemoryCandidateReviewed call command candidate .confirmed).loadMemoryRecord
      space.spaceID memoryID = .ok record from loaded]
    exact ⟨rfl, ⟨_, rfl⟩, rfl⟩

theorem revoke_refused {command : RevokeMemoryCommand}
    (refused : rows.revocable command = none) :
    (rows.revokeProjectMemory rt call command).1 = rows := by
  dsimp only [revokeProjectMemory, rollback]
  repeat' split
  all_goals try rfl
  next named _ space found _ new _ record present fit =>
  simp only [not_or, ne_eq, not_not, not_lt] at named fit
  obtain ⟨lives, owned⟩ := loadMemorySpace_eq_ok.mp found
  obtain ⟨stored, inSpace⟩ := loadMemoryRecord_eq_ok.mp present
  cases refused.symm.trans (revocable_eq_some.mpr ⟨lives, stored, owned, inSpace,
    named, fit.1, fit.2, memoryCommandReplay_eq_none.mp new⟩)

theorem get_resolveConflicts (rt : PostgresRuntime) (rows : MemoryRows) (spaceID : String)
    (record : ProjectMemoryRecord) (now : Time) (epoch : Int) :
    ∃ resolutionID, ∀ conflictID,
      (rows.resolveConflicts rt spaceID record now epoch).get conflictID =
        (rows.conflicts.get conflictID).map fun conflict =>
          if (rows.activeSemanticMemoryIDs rt spaceID record.semanticKey).length ≤ 1 then
            resolveConflict spaceID record.memoryID resolutionID now epoch conflict
          else conflict := by
  refine ⟨(rows.activeSemanticMemoryIDs rt spaceID record.semanticKey).headD "",
    fun conflictID => ?_⟩
  unfold resolveConflicts
  dsimp only
  split
  · exact get_foldl_range (List.Perm.refl _) _ conflictID
  · exact Option.map_id'.symm

theorem revoke_accepted (rt : PostgresRuntime) (call : Call) {command : RevokeMemoryCommand}
    {record : ProjectMemoryRecord}
    (accepted : rows.revocable command = some (space, record)) :
    let rows' := (rows.revokeProjectMemory rt call command).1
    rows'.books = rows.books.revoked rt call command space record ∧
      (∃ row, rows'.commands = rows.commands.set (command.tenantID, command.ownerID,
        "MEMORY_REVOKE", command.idempotencyKey) row) ∧
      ∃ resolutionID, ∀ conflictID, rows'.conflicts.get conflictID =
        (rows.conflicts.get conflictID).map fun conflict =>
          if (rows'.activeSemanticMemoryIDs rt space.spaceID record.semanticKey).length ≤ 1 then
            resolveConflict space.spaceID record.memoryID resolutionID
              (commandTime call command.now) (space.memoryEpoch + 1) conflict
          else conflict := by
  intro rows'
  obtain ⟨stored, held, owned, inSpace, named, current, active, new⟩ :=
    revocable_eq_some.mp accepted
  have found := loadMemorySpace_eq_ok.mpr ⟨stored, owned⟩
  have present := loadMemoryRecord_eq_ok.mpr ⟨held, inSpace⟩
  have state : rows' = (rows.revokeProjectMemory rt call command).1 := rfl
  dsimp only [revokeProjectMemory] at state
  rw [if_neg (by simp [named]), found, memoryCommandReplay_eq_none.mpr new, present] at state
  dsimp only at state
  rw [if_neg (by simp [current, active])] at state
  rw [state]
  exact ⟨rfl, ⟨_, rfl⟩, get_resolveConflicts rt _ space.spaceID record _ _⟩

end MemoryRows

end Rows

end PrdAgent.Storage
