import PrdAgent.Storage.MemoryBooks

/-!
# Open conflicts in the two stores

The in-memory store puts a new record in conflict with the active records of its semantic key that
have another value, and resolves a conflict when it has at most one active member left. The
PostgreSQL store puts it in conflict with all active records of the key, and resolves the conflicts
of a revoked record when the key has at most one active record left.

`MemoryStores` performs the same commands on both. They hold the same spaces, candidates and records
throughout (`Alike`), and the same open conflicts as long as the commands are `Paired`.
-/

namespace PrdAgent.Storage

open Runcontrol Runcontrol.ProjectMemory MemoryBooks GoText AssocMap Transition

inductive ReviewOp
  | confirm (command : ReviewMemoryCandidateCommand)
  | revoke (command : RevokeMemoryCommand)

/-- The command with the identifiers and the clock that both stores draw. -/
structure ReviewInput where
  call : Call
  op : ReviewOp

structure MemoryStores where
  memory : ProjectMemory
  rows : MemoryRows

/-- The answers of the two stores. -/
abbrev ReviewAnswers := Except StoreError ProjectMemoryRecord × Except StoreError ProjectMemoryRecord

abbrev ReviewEvent := Event MemoryStores ReviewInput ReviewAnswers

/-- Perform the command on both stores. -/
def MemoryStores.apply (rt : PostgresRuntime) (input : ReviewInput) (s : MemoryStores) :
    MemoryStores × ReviewAnswers :=
  match input.op with
  | .confirm command =>
    let held := s.memory.confirmProjectMemoryCandidate rt.toMemoryRuntime input.call command
    let stored := s.rows.confirmProjectMemoryCandidate rt input.call command
    (⟨held.1, stored.1⟩, held.2, stored.2)
  | .revoke command =>
    let held := s.memory.revokeProjectMemory rt.toMemoryRuntime input.call command
    let stored := s.rows.revokeProjectMemory rt input.call command
    (⟨held.1, stored.1⟩, held.2, stored.2)

def openSets (conflicts : GoMap ProjectMemoryConflict) : Set (Set String) :=
  { members | ∃ conflictID conflict, conflicts.get conflictID = some conflict ∧
      conflict.status = .opened ∧ members = { memoryID | memoryID ∈ conflict.memoryIDs } }

/-- The command is one of the space, its new identifier is unused, the hashes of different member
lists differ, and the database compares values as the in-memory store does. -/
def MemoryStores.Corresponding (rt : PostgresRuntime) (spaceID : String) (s : MemoryStores)
    (input : ReviewInput) : Prop :=
  match input.op with
  | .confirm command =>
    command.spaceID = spaceID ∧
    s.memory.projectMemoryRecords.get (input.call.newID "memory") = none ∧
    ProjectMemory.IdentifiersApart rt.toMemoryRuntime input.call s.memory
      (.confirmProjectMemoryCandidate command) ∧
    (∀ space ∈ s.rows.spaces.get command.spaceID,
      ∀ candidate ∈ s.rows.candidates.get command.candidateID,
        ∀ conflict ∈ s.rows.conflicts.get (memoryConflictID rt.toMemoryRuntime
          (s.rows.confirmedMembers rt input.call command space candidate)),
          conflict.memoryIDs = s.rows.confirmedMembers rt input.call command space candidate) ∧
    ∀ candidate ∈ s.memory.projectMemoryCandidates.get command.candidateID,
      ∀ record ∈ s.memory.projectMemoryRecords.values,
        rt.jsonbEqual record.current.value candidate.value =
          memoryJSONEqual rt.toMemoryRuntime record.current.value candidate.value
  | .revoke command => command.spaceID = spaceID

instance (rt : PostgresRuntime) (spaceID : String) (s : MemoryStores) :
    (input : ReviewInput) → Decidable (s.Corresponding rt spaceID input)
  | ⟨_, .confirm _⟩ => inferInstanceAs (Decidable (_ = _ ∧ _ = none ∧
      ProjectMemory.IdentifiersApart _ _ _ _ ∧
      (∀ space ∈ _, ∀ candidate ∈ _, ∀ conflict ∈ _, _ = _) ∧ ∀ candidate ∈ _, ∀ record ∈ _, _ = _))
  | ⟨_, .revoke _⟩ => inferInstanceAs (Decidable (_ = _))

/-- A confirmed candidate has tags, and not the value of an active record with another statement. A
revoked record is in no open conflict of at most two active members while its semantic key has more
active records. -/
def Paired (rt : MemoryRuntime) (m : ProjectMemory) : ReviewOp → Prop
  | .confirm command => m.StatedOnce rt (.confirmProjectMemoryCandidate command) ∧
      ∀ candidate ∈ m.projectMemoryCandidates.get command.candidateID, candidate.tags ≠ []
  | .revoke command => ∀ record ∈ m.projectMemoryRecords.get command.memoryID,
      ∀ conflict ∈ m.projectMemoryConflicts.values, conflict.status = .opened →
        command.memoryID ∈ conflict.memoryIDs → (m.activeMembers conflict).length ≤ 2 →
        m.projectMemoryRecords.count (·.activeFor record.spaceID record.semanticKey) ≤ 2

instance (rt : MemoryRuntime) (m : ProjectMemory) : (op : ReviewOp) → Decidable (Paired rt m op)
  | .confirm command => inferInstanceAs (Decidable
      (m.StatedOnce rt (.confirmProjectMemoryCandidate command) ∧ ∀ candidate ∈ _, _ ≠ []))
  | .revoke _ => inferInstanceAs
      (Decidable (∀ record ∈ _, ∀ conflict ∈ _, _ → _ → _ → _ ≤ 2))

/-- Histories of commands in one space. -/
abbrev ReviewHistory (rt : PostgresRuntime) (spaceID : String)
    (condition : MemoryStores → ReviewInput → Prop) :
    MemoryStores → List ReviewEvent → MemoryStores → Prop :=
  Run (MemoryStores.apply rt) fun s input =>
    s.Corresponding rt spaceID input ∧ condition s input

/-! ## Member sets -/

section OpenSets

variable {conflicts conflicts' : GoMap ProjectMemoryConflict}

theorem openSets_insert {conflictID : String} {conflict : ProjectMemoryConflict}
    (unused : conflicts.get conflictID = none) (opened : conflict.status = .opened) :
    openSets (conflicts.set conflictID conflict) =
      insert { memoryID | memoryID ∈ conflict.memoryIDs } (openSets conflicts) := by
  ext members
  constructor
  · rintro ⟨otherID, other, stored, isOpen, rfl⟩
    rcases get_set_eq_some stored with ⟨rfl, rfl⟩ | ⟨-, stored⟩
    · exact .inl rfl
    · exact .inr ⟨otherID, other, stored, isOpen, rfl⟩
  · rintro (rfl | ⟨otherID, other, stored, isOpen, rfl⟩)
    · exact ⟨conflictID, conflict, get_set_self _ _ _, opened, rfl⟩
    · exact ⟨otherID, other, get_set_of_unused unused stored, isOpen, rfl⟩

theorem mem_openSets_resolved {resolve : ProjectMemoryConflict → ProjectMemoryConflict}
    (ends : ProjectMemoryConflict → Prop)
    (stored : ∀ conflictID, conflicts'.get conflictID = (conflicts.get conflictID).map resolve)
    (resolved : ∀ conflict, ends conflict → (resolve conflict).status = .resolved)
    (kept : ∀ conflict, ¬ ends conflict → resolve conflict = conflict) (members : Set String) :
    members ∈ openSets conflicts' ↔ ∃ conflictID conflict,
      conflicts.get conflictID = some conflict ∧ conflict.status = .opened ∧ ¬ ends conflict ∧
      members = { memoryID | memoryID ∈ conflict.memoryIDs } := by
  constructor
  · rintro ⟨conflictID, _, held, opened, rfl⟩
    rw [stored] at held
    obtain ⟨conflict, found, rfl⟩ := Option.map_eq_some_iff.mp held
    by_cases ended : ends conflict
    · cases (resolved conflict ended).symm.trans opened
    · rw [kept conflict ended] at opened ⊢
      exact ⟨conflictID, conflict, found, opened, ended, rfl⟩
  · rintro ⟨conflictID, conflict, found, opened, stays, rfl⟩
    refine ⟨conflictID, conflict, ?_, opened, rfl⟩
    rw [stored, found, Option.map_some, kept conflict stays]

end OpenSets

/-! ## The stores side by side -/

/-- The stores know the same commands of the space's owner under the names of an operation. -/
def SameCommands (s : MemoryStores) (space : MemorySpace) (operation stored : String) : Prop :=
  ∀ key, s.rows.recorded space.tenantID space.ownerID stored key =
    recordedIn s.memory space.tenantID space.ownerID operation key

/-- The stores hold the same spaces, candidates and records, and know the same commands. -/
structure Alike (spaceID : String) (s : MemoryStores) : Prop where
  books : s.rows.books = booksOf s.memory
  confirms : ∀ space, s.memory.memorySpaces.get spaceID = some space →
    SameCommands s space "CONFIRM" "MEMORY_CONFIRM"
  revokes : ∀ space, s.memory.memorySpaces.get spaceID = some space →
    SameCommands s space "REVOKE" "MEMORY_REVOKE"

def RowMembers (rows : MemoryRows) : Prop :=
  ∀ conflictID conflict, rows.conflicts.get conflictID = some conflict →
    ∀ memoryID ∈ conflict.memoryIDs, ∃ record, rows.records.get memoryID = some record ∧
      record.spaceID = conflict.spaceID

/-- What holds of the two stores throughout. -/
structure InStep (rt : PostgresRuntime) (spaceID : String) (s : MemoryStores) : Prop where
  alike : Alike spaceID s
  tracked : s.memory.Tracked rt
  members : RowMembers s.rows
  agree : openSets s.rows.conflicts = openSets s.memory.projectMemoryConflicts

variable {key ownerID tenantID : String}

theorem confirm_key_ne_revoke {key' : String} : memoryCommandKey tenantID ownerID "CONFIRM" key ≠
      memoryCommandKey tenantID ownerID "REVOKE" key' := by
  intro same
  have same := congrArg String.toList same
  simp [memoryCommandKey, joinNul] at same

variable {m : ProjectMemory}

section Steps

variable {rt : PostgresRuntime} {call : Call} {spaceID : String} {s t : MemoryStores}

variable {space : MemorySpace}

theorem SameCommands.record {operation stored written writtenStored : String}
    {space' : MemorySpace} (same : SameCommands s space operation stored)
    (tenant : space.tenantID = tenantID) (owner : space.ownerID = ownerID)
    (tenant' : space'.tenantID = tenantID) (owner' : space'.ownerID = ownerID)
    (rows : ∃ row, t.rows.commands =
      s.rows.commands.set (tenantID, ownerID, writtenStored, key) row)
    (memory : ∃ resourceID, t.memory.projectMemoryCommandResources =
      s.memory.projectMemoryCommandResources.set (memoryCommandKey tenantID ownerID written key)
        resourceID) (names : operation = written ∧ stored = writtenStored ∨ stored ≠ writtenStored ∧
      ∀ other, memoryCommandKey tenantID ownerID operation other ≠
        memoryCommandKey tenantID ownerID written key) :
    SameCommands t space' operation stored := by
  obtain ⟨row, rows⟩ := rows
  obtain ⟨resourceID, memory⟩ := memory
  intro other
  have before := same other
  unfold MemoryRows.recorded recordedIn at before ⊢
  rw [tenant, owner] at before
  rw [tenant', owner', rows, memory]
  rcases names with ⟨rfl, rfl⟩ | ⟨ne, apart⟩
  · by_cases again : other = key
    · rw [again, get_set_self, get_set_self]
      rfl
    · rw [get_set_ne _ _ fun eq => again (by simpa using eq),
        get_set_ne _ _ fun eq => again (by simpa [memoryCommandKey, joinNul] using eq), before]
  · rw [get_set_ne _ _ (apart other), get_set_ne _ _ fun eq => ne ?_, before]
    exact (Prod.ext_iff.mp (Prod.ext_iff.mp (Prod.ext_iff.mp eq).2).2).1

section

variable (alike : Alike spaceID s)

include alike

/-- A command of the space's owner that both stores carry out in the same way keeps them alike. -/
theorem Alike.next {written writtenStored : String}
    (stored : s.memory.memorySpaces.get spaceID = some space)
    (owned : space.tenantID = tenantID ∧ space.ownerID = ownerID)
    (grown : Into MemorySpace.Grown s.memory.memorySpaces t.memory.memorySpaces)
    (books : t.rows.books = booksOf t.memory) (rows : ∃ row, t.rows.commands =
      s.rows.commands.set (tenantID, ownerID, writtenStored, key) row)
    (memory : ∃ resourceID, t.memory.projectMemoryCommandResources =
      s.memory.projectMemoryCommandResources.set (memoryCommandKey tenantID ownerID written key)
        resourceID) (names : written = "CONFIRM" ∧ writtenStored = "MEMORY_CONFIRM" ∨
      written = "REVOKE" ∧ writtenStored = "MEMORY_REVOKE") : Alike spaceID t := by
  have kept {space' : MemorySpace} (after : t.memory.memorySpaces.get spaceID = some space') :
      space'.tenantID = tenantID ∧ space'.ownerID = ownerID := by
    obtain ⟨_, after', grown⟩ := grown spaceID space stored
    cases after.symm.trans after'
    exact ⟨grown.tenant.trans owned.1, grown.owner.trans owned.2⟩
  refine ⟨books, fun space' after => ?_, fun space' after => ?_⟩
  · refine (alike.confirms space stored).record owned.1 owned.2 (kept after).1 (kept after).2 rows
      memory ?_
    rcases names with ⟨rfl, rfl⟩ | ⟨rfl, rfl⟩
    · exact .inl ⟨rfl, rfl⟩
    · exact .inr ⟨by decide, fun _ => confirm_key_ne_revoke⟩
  · refine (alike.revokes space stored).record owned.1 owned.2 (kept after).1 (kept after).2 rows
      memory ?_
    rcases names with ⟨rfl, rfl⟩ | ⟨rfl, rfl⟩
    · exact .inr ⟨by decide, fun _ => confirm_key_ne_revoke.symm⟩
    · exact .inl ⟨rfl, rfl⟩

theorem Alike.confirmable {command : ReviewMemoryCandidateCommand}
    (here : command.spaceID = spaceID) :
    s.rows.confirmable command = confirmableIn s.memory command := by
  refine Option.ext fun ⟨space, candidate⟩ => ?_
  rw [confirmable_eq_some, confirmable_eq_some, alike.books]
  refine and_congr_right fun stored => and_congr_right fun _ => and_congr_right fun owned => ?_
  have same := alike.confirms space (here ▸ stored) command.idempotencyKey
  rw [owned.1, owned.2] at same
  rw [same]

theorem Alike.revocable {command : RevokeMemoryCommand}
    (here : command.spaceID = spaceID) :
    s.rows.revocable command = revocableIn s.memory command := by
  refine Option.ext fun ⟨space, record⟩ => ?_
  rw [revocable_eq_some, revocable_eq_some, alike.books]
  refine and_congr_right fun stored => and_congr_right fun _ => and_congr_right fun owned => ?_
  have same := alike.revokes space (here ▸ stored) command.idempotencyKey
  rw [owned.1, owned.2] at same
  rw [same]

theorem Alike.records :
    s.rows.records = s.memory.projectMemoryRecords :=
  congrArg MemoryBooks.records alike.books

end

/-! ### Active records of a semantic key -/

variable {rows : MemoryRows}

theorem mem_activeSemanticMemoryIDs
    (keyed : rows.records.Keyed (·.memoryID)) {semanticKey memoryID : String} :
    memoryID ∈ rows.activeSemanticMemoryIDs rt spaceID semanticKey ↔
      ∃ record, rows.records.get memoryID = some record ∧
        record.activeFor spaceID semanticKey = true := by
  unfold MemoryRows.activeSemanticMemoryIDs
  rw [(MemoryRows.orderByID_perm rt _).mem_iff, List.mem_map]
  constructor
  · rintro ⟨record, listed, rfl⟩
    obtain ⟨mem, active⟩ := List.mem_filter.mp listed
    obtain ⟨memoryID, stored⟩ := mem_values.mp mem
    have id : record.memoryID = memoryID := keyed memoryID record stored
    exact ⟨record, id ▸ stored, active⟩
  · rintro ⟨record, stored, active⟩
    exact ⟨record, List.mem_filter.mpr ⟨mem_values.mpr ⟨memoryID, stored⟩, active⟩,
      keyed memoryID record stored⟩

theorem activeSemanticMemoryIDs_nodup (keyed : rows.records.Keyed (·.memoryID))
    (semanticKey : String) : (rows.activeSemanticMemoryIDs rt spaceID semanticKey).Nodup := by
  unfold MemoryRows.activeSemanticMemoryIDs
  refine (MemoryRows.orderByID_perm rt _).nodup_iff.mpr ?_
  have distinct := rows.records.keys_nodup
  rw [← keyed.map_values] at distinct
  exact distinct.sublist (List.filter_sublist.map _)

/-! ### Confirmations -/

variable {now : Time}

section Confirm

variable {rows : MemoryRows} {command : ReviewMemoryCandidateCommand} {space : MemorySpace}
  {candidate : ProjectMemoryCandidate}

theorem mem_rowMembers (keyed : rows.records.Keyed (·.memoryID))
    (unused : rows.records.get (call.newID "memory") = none) {memoryID : String} :
    memoryID ∈ rows.confirmedMembers rt call command space candidate ↔
      memoryID = call.newID "memory" ∨
        ∃ record, rows.records.get memoryID = some record ∧ record.activeFor space.spaceID
          (candidateKey rt space.spaceID candidate) = true := by
  unfold MemoryRows.confirmedMembers
  rw [List.mem_insertionSort, mem_activeSemanticMemoryIDs (keyed.set rfl)]
  constructor
  · rintro ⟨record, stored, active⟩
    rcases get_set_eq_some stored with ⟨rfl, -⟩ | ⟨-, stored⟩
    · exact .inl rfl
    · exact .inr ⟨record, stored, active⟩
  · rintro (rfl | ⟨record, stored, active⟩)
    · exact ⟨_, get_set_self _ _ _, activeFor_iff.mpr ⟨rfl, rfl, rfl⟩⟩
    · exact ⟨record, get_set_of_unused unused stored, active⟩

theorem members_perm (command : ReviewMemoryCandidateCommand) (sound : s.memory.Sound)
    (records : s.rows.records = s.memory.projectMemoryRecords)
    (unused : s.memory.projectMemoryRecords.get (call.newID "memory") = none)
    (differ : ∀ memoryID record, s.memory.projectMemoryRecords.get memoryID = some record →
      record.activeFor space.spaceID
        (candidateKey rt space.spaceID candidate) = true →
      memoryJSONEqual rt record.current.value candidate.value = false) :
    (s.rows.confirmedMembers rt call command space candidate).Perm
      (s.memory.confirmedMembers rt call command space candidate) := by
  have keyed : s.rows.records.Keyed (·.memoryID) := records ▸ sound.records
  have distinct : (s.rows.confirmedMembers rt call command space candidate).Nodup := by
    unfold MemoryRows.confirmedMembers
    refine (List.perm_insertionSort _ _).nodup_iff.mpr (activeSemanticMemoryIDs_nodup ?_ _)
    exact keyed.set rfl
  refine (List.perm_ext_iff_of_nodup distinct
    (confirmedMembers_nodup sound _ _ _ _ _)).mpr fun memoryID => ?_
  rw [mem_rowMembers keyed (records ▸ unused),
    mem_confirmedMembers sound.records unused, records]
  refine or_congr Iff.rfl (exists_congr fun record => and_congr_right fun stored => ?_)
  exact ⟨fun active => ⟨active, differ memoryID record stored active⟩, And.left⟩

theorem RowMembers.confirmed {rows' : MemoryRows} {known : Bool}
    (members : RowMembers rows) (keyed : rows.records.Keyed (·.memoryID))
    (unused : rows.records.get (call.newID "memory") = none)
    (books : rows'.books = rows.books.confirmed rt call command space candidate known)
    (conflicts : rows'.conflicts = if known then rows.conflicts else rows.openConflict rt
      (confirmedRecord rt call command space candidate).current
      (rows.confirmedMembers rt call command space candidate) (commandTime call command.now)) :
    RowMembers rows' := by
  have records : rows'.records = (rows.books.confirmed rt call command space
      candidate known).records := congrArg records books
  intro conflictID conflict stored memoryID mem
  rw [records]
  rw [conflicts] at stored
  cases known with
  | true => exact members conflictID conflict stored memoryID mem
  | false =>
    have kept (held : rows.conflicts.get conflictID = some conflict) :
        ∃ record, (rows.records.set (call.newID "memory") (confirmedRecord
          rt call command space candidate)).get memoryID = some record ∧
          record.spaceID = conflict.spaceID := by
      obtain ⟨record, present, home⟩ := members conflictID conflict held memoryID mem
      exact ⟨record, get_set_of_unused unused present, home⟩
    change (rows.openConflict rt _ _ _).get conflictID = some conflict at stored
    unfold MemoryRows.openConflict at stored
    split at stored
    · dsimp only at stored
      split at stored
      · exact kept stored
      · rcases get_set_eq_some stored with ⟨rfl, rfl⟩ | ⟨-, stored⟩
        · rcases (mem_rowMembers keyed unused).mp mem with rfl | ⟨record, held, active⟩
          · exact ⟨_, get_set_self _ _ _, rfl⟩
          · exact ⟨record, get_set_of_unused unused held, (activeFor_iff.mp active).1⟩
        · exact kept stored
    · exact kept stored

/-- A new record opens the same conflict in both stores if no active record has its value. -/
theorem InStep.opened (inv : InStep rt spaceID s)
    (confirms : ProjectMemory.Confirms rt call s.memory command space candidate)
    (corresponding : s.Corresponding rt spaceID ⟨call, .confirm command⟩)
    (paired : Paired rt s.memory (.confirm command)) : let version :=
      (confirmedRecord rt call command space candidate).current
    let now := commandTime call command.now
    openSets (s.rows.openConflict rt version
        (s.rows.confirmedMembers rt call command space candidate) now) =
      openSets (s.memory.openConflict rt space.spaceID version
        (s.memory.confirmedMembers rt call command space candidate) now) := by
  intro version now
  obtain ⟨-, fresh, apart, rowsApart, -⟩ := corresponding
  have records := inv.alike.records
  have perm := members_perm command inv.tracked.sound records fresh fun memoryID record held active => by
    refine Bool.eq_false_of_not_eq_true fun value => ?_
    obtain ⟨home, key, status⟩ := activeFor_iff.mp active
    refine confirms.not_duplicate ⟨held, status⟩ ⟨home, key⟩ value ?_
    exact paired.1 space confirms.owned.stored candidate confirms.stored record
      (mem_values.mpr ⟨memoryID, held⟩) active value
  have unused : s.rows.conflicts.get
      (memoryConflictID rt (s.rows.confirmedMembers rt call command space candidate)) = none := by
    have free : s.rows.records.get (call.newID "memory") = none := records ▸ fresh
    rw [Option.eq_none_iff_forall_ne_some]
    intro conflict stored
    have same := rowsApart space (by
      rw [show s.rows.spaces = _ from congrArg spaces inv.alike.books]
      exact confirms.owned.stored) candidate (by
      rw [show s.rows.candidates = _ from congrArg candidates inv.alike.books]
      exact confirms.stored) conflict stored
    have mem : call.newID "memory" ∈ conflict.memoryIDs := by
      rw [same]
      exact (mem_rowMembers (records ▸ inv.tracked.sound.records) free).mpr (.inl rfl)
    obtain ⟨record, found, -⟩ := inv.members _ conflict stored _ mem
    cases free.symm.trans found
  have members : { memoryID | memoryID ∈ s.rows.confirmedMembers rt call command space candidate } =
      { memoryID | memoryID ∈
        s.memory.confirmedMembers rt call command space candidate } :=
    Set.ext fun _ => perm.mem_iff
  dsimp only [MemoryRows.openConflict, openConflict]
  rw [unused, perm.length_eq]
  split
  · rw [openSets_insert unused rfl, openSets_insert (confirms.unused inv.tracked.sound apart) rfl,
      members, inv.agree]
  · exact inv.agree

/-- A confirmation of a candidate whose value no active record has keeps the stores in step. -/
theorem InStep.confirm (inv : InStep rt spaceID s)
    (corresponding : s.Corresponding rt spaceID ⟨call, .confirm command⟩)
    (paired : Paired rt s.memory (.confirm command)) :
    InStep rt spaceID (s.apply rt ⟨call, .confirm command⟩).1 := by
  have ⟨here, fresh, apart, _, equal⟩ := corresponding
  have records := inv.alike.records
  have keyed : s.rows.records.Keyed (·.memoryID) := records ▸ inv.tracked.sound.records
  have same := inv.alike.confirmable here
  cases decided : confirmableIn s.memory command with
  | none =>
    have unchanged : (s.apply rt ⟨call, .confirm command⟩).1 = s := by
      unfold MemoryStores.apply
      dsimp only
      rw [confirm_memory_refused decided, MemoryRows.confirm_refused (same.trans decided)]
    rw [unchanged]
    exact inv
  | some found =>
    obtain ⟨space, candidate⟩ := found
    obtain ⟨stored, proposed, owned, inSpace, -, -, pending, -⟩ :=
      confirmable_eq_some.mp decided
    obtain ⟨books, resources, conflicts⟩ :=
      confirm_memory_accepted rt call decided
    obtain ⟨rowBooks, commands, rowConflicts⟩ :=
      MemoryRows.confirm_accepted rt call keyed (paired.2 candidate proposed) (same.trans decided)
    -- the database finds a duplicate when the in-memory store does
    have knows : s.rows.books.knows rt rt.jsonbEqual space candidate =
        (booksOf s.memory).knows rt (memoryJSONEqual rt) space candidate := by
      rw [inv.alike.books]
      unfold MemoryBooks.knows
      rw [Bool.eq_iff_iff, List.any_eq_true, List.any_eq_true]
      refine exists_congr fun record => and_congr_right fun mem => ?_
      rw [equal candidate proposed record mem]
    rw [knows] at rowBooks rowConflicts
    have effect : ProjectMemory.MemoryEffect rt call s.memory
        (.confirmProjectMemoryCandidate command) (s.apply rt ⟨call, .confirm command⟩).1.memory :=
      confirmProjectMemoryCandidate_effect command fresh
    refine ⟨inv.alike.next (here ▸ stored) owned (effect.grown inv.tracked.sound apart)
      (rowBooks.trans (inv.alike.books ▸ books.symm)) commands resources (.inl ⟨rfl, rfl⟩),
      inv.tracked.next effect apart,
      inv.members.confirmed keyed (records ▸ fresh) rowBooks rowConflicts, ?_⟩
    change openSets (s.rows.confirmProjectMemoryCandidate rt call command).1.conflicts =
      openSets (s.memory.confirmProjectMemoryCandidate rt call
        command).1.projectMemoryConflicts
    rw [conflicts, rowConflicts]
    cases known : (booksOf s.memory).knows rt (memoryJSONEqual rt)
      space candidate with
    | true => exact inv.agree
    | false =>
      have unique : s.memory.duplicate rt call space.spaceID
          (candidateKey rt space.spaceID candidate) candidate =
            none := by
        rw [← Option.not_isSome_iff_eq_none, duplicate_isSome, known]
        exact Bool.false_ne_true
      exact inv.opened ⟨⟨stored, owned.1, owned.2⟩, proposed, inSpace, pending, fresh, unique⟩
        corresponding paired

end Confirm

/-! ### Revocations -/

section Revoke

variable {rows : MemoryRows} {command : RevokeMemoryCommand} {space : MemorySpace}
  {record : ProjectMemoryRecord}

theorem RowMembers.revoked {rows' : MemoryRows}
    {resolve : ProjectMemoryConflict → ProjectMemoryConflict}
    (members : RowMembers rows) (held : rows.records.get record.memoryID = some record)
    (books : rows'.books = rows.books.revoked rt call command space record)
    (conflicts : ∀ conflictID, rows'.conflicts.get conflictID =
      (rows.conflicts.get conflictID).map resolve)
    (kept : ∀ conflict, (resolve conflict).memoryIDs = conflict.memoryIDs ∧
      (resolve conflict).spaceID = conflict.spaceID) : RowMembers rows' := by
  have records : rows'.records = rows.records.set record.memoryID
      (revokedRecord rt call command space record) :=
    congrArg records books
  intro conflictID _ stored memoryID mem
  rw [conflicts] at stored
  obtain ⟨conflict, found, rfl⟩ := Option.map_eq_some_iff.mp stored
  rw [(kept conflict).1] at mem
  rw [records, (kept conflict).2]
  obtain ⟨other, present, home⟩ := members conflictID conflict found memoryID mem
  by_cases same : memoryID = record.memoryID
  · subst same
    cases held.symm.trans present
    exact ⟨_, get_set_self _ _ _, home⟩
  · exact ⟨other, (get_set_ne _ _ same).trans present, home⟩

theorem count_revoked {records : GoMap ProjectMemoryRecord}
    (held : records.get record.memoryID = some record) (active : record.currentStatus = .active) :
    (records.set record.memoryID
        (revokedRecord rt call command space record)).count
        (·.activeFor record.spaceID record.semanticKey) + 1 =
      records.count (·.activeFor record.spaceID record.semanticKey) := by
  have moved := records.count_set_of_get (·.activeFor record.spaceID record.semanticKey) _
    (revokedRecord rt call command space record) record held
  have before : record.activeFor record.spaceID record.semanticKey = true :=
    activeFor_iff.mpr ⟨rfl, rfl, active⟩
  have after : (revokedRecord rt call command space record).activeFor
      record.spaceID record.semanticKey = false := by
    simp [revokedRecord, ProjectMemoryRecord.activeFor]
  simpa only [before, after, if_true, Bool.false_eq_true, if_false, Nat.add_zero] using moved

/-- A conflict of the record is left with at most one active member just when its semantic key is
left with at most one active record. -/
theorem survivors_le_one {m' : ProjectMemory} {conflictID : String}
    {conflict : ProjectMemoryConflict} (tracked : m.Tracked rt)
    (held : m.projectMemoryRecords.get record.memoryID = some record)
    (active : record.currentStatus = .active)
    (records : m'.projectMemoryRecords = m.projectMemoryRecords.set record.memoryID
      (revokedRecord rt call command space record))
    (stored : m.projectMemoryConflicts.get conflictID = some conflict)
    (mem : record.memoryID ∈ conflict.memoryIDs) (few : (m.activeMembers conflict).length ≤ 2 →
      m.projectMemoryRecords.count (·.activeFor record.spaceID record.semanticKey) ≤ 2) :
    (m'.activeMembers conflict).length ≤ 1 ↔
      m'.projectMemoryRecords.count (·.activeFor record.spaceID record.semanticKey) ≤ 1 := by
  have distinct := tracked.distinct conflictID conflict stored
  constructor
  · intro one
    -- the record itself is the only active member that is lost
    have two : (m.activeMembers conflict).length ≤
        (record.memoryID :: m'.activeMembers conflict).length := by
      refine (List.subperm_of_subset (distinct.filter _) fun memoryID listed => ?_).length_le
      obtain ⟨member, other, stillActive⟩ := mem_activeMembers.mp listed
      by_cases same : memoryID = record.memoryID
      · exact List.mem_cons.mpr (.inl same)
      · refine List.mem_cons.mpr (.inr (mem_activeMembers.mpr
          ⟨member, other, ?_, stillActive.active⟩))
        rw [records, get_set_ne _ _ same]
        exact stillActive.stored
    have counted := few (two.trans (Nat.succ_le_succ one))
    rw [← count_revoked held active, ← records] at counted
    exact Nat.le_of_succ_le_succ counted
  · intro one
    rw [← length_filter_values, ← List.length_map (·.memoryID)] at one
    refine (List.subperm_of_subset (distinct.filter _) fun memoryID listed => ?_).length_le.trans one
    obtain ⟨member, other, still⟩ := mem_activeMembers.mp listed
    have earlier : m.projectMemoryRecords.get memoryID = some other := by
      have found := still.stored
      rw [records] at found
      rcases get_set_eq_some found with ⟨rfl, rfl⟩ | ⟨-, found⟩
      · cases still.active
      · exact found
    have key := tracked.sameKey conflictID conflict stored memoryID member record.memoryID mem other
      record earlier held
    refine List.mem_map.mpr ⟨other, List.mem_filter.mpr ⟨mem_values.mpr
      ⟨memoryID, still.stored⟩, ?_⟩, tracked.sound.records memoryID other earlier⟩
    exact activeFor_iff.mpr ⟨key.1, key.2, still.active⟩

theorem InStep.resolved (inv : InStep rt spaceID s) {m' : ProjectMemory}
    {conflicts : GoMap ProjectMemoryConflict} {resolutionID : String} {epoch : Int}
    (held : s.memory.projectMemoryRecords.get record.memoryID = some record)
    (active : record.currentStatus = .active)
    (id : record.memoryID = command.memoryID) (paired : Paired rt s.memory (.revoke command))
    (records : m'.projectMemoryRecords = s.memory.projectMemoryRecords.set record.memoryID
      (revokedRecord rt call command space record))
    (inMemory : ∀ conflictID, m'.projectMemoryConflicts.get conflictID =
      (s.memory.projectMemoryConflicts.get conflictID).map
        (m'.resolveConflict record.memoryID now epoch))
    (inTables : ∀ conflictID, conflicts.get conflictID =
      (s.rows.conflicts.get conflictID).map fun conflict =>
        if m'.projectMemoryRecords.count (·.activeFor record.spaceID record.semanticKey) ≤ 1 then
          MemoryRows.resolveConflict record.spaceID record.memoryID resolutionID now epoch conflict
        else conflict) : openSets conflicts = openSets m'.projectMemoryConflicts := by
  let survivors := m'.projectMemoryRecords.count (·.activeFor record.spaceID record.semanticKey)
  have sameRecords := inv.alike.records
  -- which conflicts end in each store
  have memoryEnds := mem_openSets_resolved
    (fun conflict => record.memoryID ∈ conflict.memoryIDs ∧ conflict.status = .opened ∧
      (m'.activeMembers conflict).length ≤ 1) inMemory
    (fun conflict ended => by simp only [resolveConflict, if_pos ended])
    (fun conflict stays => by simp only [resolveConflict, if_neg stays])
  have tableEnds := mem_openSets_resolved
    (fun conflict => survivors ≤ 1 ∧ conflict.spaceID = record.spaceID ∧
      conflict.status = .opened ∧ record.memoryID ∈ conflict.memoryIDs) inTables
    (fun conflict ended => by rw [if_pos ended.1, MemoryRows.resolveConflict, if_pos ended.2])
    (fun conflict stays => by
      simp only [MemoryRows.resolveConflict]
      split
      · next one => exact if_neg fun ended => stays ⟨one, ended⟩
      · rfl)
  have decides {conflictID : String} {conflict : ProjectMemoryConflict}
      (stored : s.memory.projectMemoryConflicts.get conflictID = some conflict)
      (opened : conflict.status = .opened) (mem : record.memoryID ∈ conflict.memoryIDs) :
      (m'.activeMembers conflict).length ≤ 1 ↔ survivors ≤ 1 :=
    survivors_le_one inv.tracked held active records stored mem
      (paired record (id ▸ held) conflict (mem_values.mpr ⟨conflictID, stored⟩) opened (id ▸ mem))
  ext members
  rw [memoryEnds, tableEnds]
  constructor
  · rintro ⟨rowID, row, stored, opened, stays, rfl⟩
    have listed : { memoryID | memoryID ∈ row.memoryIDs } ∈
        openSets s.memory.projectMemoryConflicts := inv.agree ▸ ⟨rowID, row, stored, opened, rfl⟩
    obtain ⟨conflictID, conflict, found, isOpen, same⟩ := listed
    refine ⟨conflictID, conflict, found, isOpen, fun ended => stays ?_, same⟩
    have mem : record.memoryID ∈ row.memoryIDs := by
      have mem : record.memoryID ∈ { memoryID | memoryID ∈ conflict.memoryIDs } := ended.1
      rwa [← same] at mem
    obtain ⟨other, present, lives⟩ := inv.members rowID row stored _ mem
    rw [sameRecords, held] at present
    cases present
    exact ⟨(decides found isOpen ended.1).mp ended.2.2, lives.symm, opened, mem⟩
  · rintro ⟨conflictID, conflict, stored, opened, stays, rfl⟩
    have listed : { memoryID | memoryID ∈ conflict.memoryIDs } ∈ openSets s.rows.conflicts :=
      inv.agree ▸ ⟨conflictID, conflict, stored, opened, rfl⟩
    obtain ⟨rowID, row, found, isOpen, same⟩ := listed
    refine ⟨rowID, row, found, isOpen, fun ended => stays ?_, same⟩
    have mem : record.memoryID ∈ conflict.memoryIDs := by
      have mem : record.memoryID ∈ { memoryID | memoryID ∈ row.memoryIDs } := ended.2.2.2
      rwa [← same] at mem
    exact ⟨mem, opened, (decides stored opened mem).mpr ended.1⟩

/-- A revocation resolves the same conflicts in both stores, unless a conflict of two active members
is resolved while the semantic key has more active records. -/
theorem InStep.revoke (inv : InStep rt spaceID s) (here : command.spaceID = spaceID)
    (paired : Paired rt s.memory (.revoke command)) :
    InStep rt spaceID (s.apply rt ⟨call, .revoke command⟩).1 := by
  have records := inv.alike.records
  have same := inv.alike.revocable here
  cases decided : revocableIn s.memory command with
  | none =>
    have unchanged : (s.apply rt ⟨call, .revoke command⟩).1 = s := by
      unfold MemoryStores.apply
      dsimp only
      rw [revoke_memory_refused decided, MemoryRows.revoke_refused (same.trans decided)]
    rw [unchanged]
    exact inv
  | some found =>
    obtain ⟨space, record⟩ := found
    obtain ⟨stored, held, owned, inSpace, -, -, active, -⟩ :=
      revocable_eq_some.mp decided
    obtain ⟨books, resources, conflicts⟩ :=
      revoke_memory_accepted rt call decided
    obtain ⟨rowBooks, commands, resolutionID, rowConflicts⟩ :=
      MemoryRows.revoke_accepted rt call (same.trans decided)
    have effect : ProjectMemory.MemoryEffect rt call s.memory
        (.revokeProjectMemory command) (s.apply rt ⟨call, .revoke command⟩).1.memory :=
      revokeProjectMemory_effect command
    have id : record.memoryID = command.memoryID := inv.tracked.sound.records _ record held
    have home : record.spaceID = space.spaceID :=
      inSpace.trans (inv.tracked.sound.spaces _ space stored).symm
    have alike : (s.apply rt ⟨call, .revoke command⟩).1.rows.books =
        booksOf (s.apply rt ⟨call, .revoke command⟩).1.memory :=
      rowBooks.trans (inv.alike.books ▸ books.symm)
    refine ⟨inv.alike.next (here ▸ stored) owned (effect.grown inv.tracked.sound trivial) alike
      commands resources (.inr ⟨rfl, rfl⟩),
      inv.tracked.next effect trivial,
      inv.members.revoked (records ▸ id ▸ held) rowBooks rowConflicts fun conflict => ?_, ?_⟩
    · unfold MemoryRows.resolveConflict
      split
      · split <;> exact ⟨rfl, rfl⟩
      · exact ⟨rfl, rfl⟩
    · have records : (s.rows.revokeProjectMemory rt call command).1.records =
          (s.memory.revokeProjectMemory rt call command).1.projectMemoryRecords :=
        congrArg MemoryBooks.records alike
      rw [MemoryRows.activeSemanticMemoryIDs, (MemoryRows.orderByID_perm rt _).length_eq,
        List.length_map, length_filter_values, ← home, records] at rowConflicts
      exact inv.resolved (id ▸ held) active id paired (congrArg MemoryBooks.records books) conflicts
        rowConflicts

end Revoke

/-- The stores hold the same spaces and candidates, there are no records and conflicts, and the
space's owner confirmed and revoked nothing. -/
structure SameStart (spaceID : String) (s : MemoryStores) : Prop where
  books : s.rows.books = booksOf s.memory
  conflicts : s.rows.conflicts = s.memory.projectMemoryConflicts
  keyed : s.memory.memorySpaces.Keyed MemorySpace.spaceID
  noRecords : ∀ memoryID, s.memory.projectMemoryRecords.get memoryID = none
  noVersions : ∀ memoryID, s.memory.projectMemoryVersions.get memoryID = none
  noConflicts : ∀ conflictID, s.memory.projectMemoryConflicts.get conflictID = none
  noConfirms : ∀ space, s.memory.memorySpaces.get spaceID = some space → ∀ key,
    recordedIn s.memory space.tenantID space.ownerID "CONFIRM" key = false ∧
    s.rows.recorded space.tenantID space.ownerID "MEMORY_CONFIRM" key = false
  noRevokes : ∀ space, s.memory.memorySpaces.get spaceID = some space → ∀ key,
    recordedIn s.memory space.tenantID space.ownerID "REVOKE" key = false ∧
    s.rows.recorded space.tenantID space.ownerID "MEMORY_REVOKE" key = false

theorem SameStart.inStep (start : SameStart spaceID s) (rt : PostgresRuntime) :
    InStep rt spaceID s where
  alike := {
    books := start.books
    confirms := fun space stored key =>
      (start.noConfirms space stored key).2.trans (start.noConfirms space stored key).1.symm
    revokes := fun space stored key =>
      (start.noRevokes space stored key).2.trans (start.noRevokes space stored key).1.symm }
  tracked := .of_spaces start.keyed start.noRecords start.noVersions start.noConflicts
  members conflictID conflict stored := by simp [start.conflicts, start.noConflicts] at stored
  agree := by rw [start.conflicts]

/-- Both stores have the same open conflicts after every command, if no candidate is confirmed without
tags or with the value of an active record and another statement, and no record is revoked that is in an
open conflict of at most two active members while its semantic key has more active records. -/
theorem open_conflicts_agree {events : List ReviewEvent} (start : SameStart spaceID s)
    (history : ReviewHistory rt spaceID
      (fun s input => Paired rt.toMemoryRuntime s.memory input.op) s events t) :
    openSets t.rows.conflicts = openSets t.memory.projectMemoryConflicts ∧
      ∀ event ∈ events, openSets event.after.rows.conflicts =
        openSets event.after.memory.projectMemoryConflicts := by
  have step : ∀ s input, s.Corresponding rt spaceID input ∧
      Paired rt.toMemoryRuntime s.memory input.op → InStep rt spaceID s →
      InStep rt spaceID (s.apply rt input).1 := by
    rintro s ⟨call, op⟩ ⟨corresponding, paired⟩ inv
    cases op with
    | confirm command => exact inv.confirm corresponding paired
    | revoke command => exact inv.revoke corresponding paired
  have first := start.inStep rt
  refine ⟨(history.invariant step first).agree, fun event mem => ?_⟩
  obtain ⟨_, _, is, allowed, before, -⟩ := history.of_mem mem
  have next : event.after = (event.before.apply rt event.input).1 := congrArg (·.after) is
  rw [next]
  exact (step _ _ allowed (before.invariant step first)).agree

end Steps

/-! ## Sample commands -/

section Samples

open ControlPlane

def plainPostgres : PostgresRuntime :=
  { plainMemory with
    jsonbEqual := memoryJSONEqual plainMemory, collates := fun left right => decide (left ≤ right) }

def sampleProposals : List ControlInput := spaceCreated ::
  [("a1", (1 : Int), "one"), ("a2", 1, "two"), ("a3", 2, "three")].map
    fun (digits, value, statement) =>
      ⟨.at 2 digits, .proposeProjectMemory (sampleProposal digits value statement)⟩

def sampleMemory : ProjectMemory :=
  (stateFrom (ControlPlane.apply plainMemory) sampleProposals
    (newControlPlane MemoryStore.oneSlot)).memory

def memoryTables (m : ProjectMemory) : MemoryRows := {
  spaces := m.memorySpaces, candidates := m.projectMemoryCandidates
  records := m.projectMemoryRecords, conflicts := m.projectMemoryConflicts }

def sampleStores : MemoryStores := ⟨sampleMemory, memoryTables sampleMemory⟩

def sampleConfirmed (digits : String) (value : Int) (statement : String) : ReviewInput :=
  ⟨.at 3 digits, .confirm {
    tenantID := "tenant", ownerID := "owner", spaceID := sampleSpaceID
    candidateID := "memory-candidate-" ++ digits
    expectedHash := memoryCandidateRequestHash plainMemory (sampleProposal digits value statement)
    actorRef := "actor", idempotencyKey := digits }⟩

def sampleRevoked (digits : String) : ReviewInput := ⟨.at 4 digits, .revoke {
  tenantID := "tenant", ownerID := "owner", spaceID := sampleSpaceID
  memoryID := "memory-" ++ digits, expectedVersion := 1, actorRef := "actor"
  idempotencyKey := digits }⟩

theorem sampleStores_start : SameStart sampleSpaceID sampleStores := by
  have evaluated : sampleMemory.projectMemoryRecords.keys = [] ∧
      sampleMemory.projectMemoryVersions.keys = [] ∧
      sampleMemory.projectMemoryConflicts.keys = [] ∧
      (∀ space ∈ sampleMemory.memorySpaces.get sampleSpaceID,
        space.tenantID = "tenant" ∧ space.ownerID = "owner") ∧
      (∀ entry ∈ sampleMemory.memorySpaces.range id, entry.2.spaceID = entry.1) ∧
      sampleMemory.projectMemoryCommandResources.keys = [
        memoryCommandKey "tenant" "owner" "PROPOSE" "a3",
        memoryCommandKey "tenant" "owner" "PROPOSE" "a2",
        memoryCommandKey "tenant" "owner" "PROPOSE" "a1",
        memoryCommandKey "tenant" "owner" "CREATE_SPACE" "space"] := by
    decide +kernel
  obtain ⟨records, versions, conflicts, owned, keyed, commands⟩ := evaluated
  have empty {α : Type} {map : GoMap α} (nothing : map.keys = []) (key : String) :
      map.get key = none := by
    rw [Option.eq_none_iff_forall_ne_some]
    intro value stored
    have mem := mem_keys.mpr ⟨value, stored⟩
    simp [nothing] at mem
  have unused (operation key : String) (other : operation = "CONFIRM" ∨ operation = "REVOKE") :
      recordedIn sampleMemory "tenant" "owner" operation key = false := by
    unfold recordedIn
    rw [Option.isSome_eq_false_iff, Option.isNone_iff_eq_none, Option.eq_none_iff_forall_ne_some]
    intro resourceID stored
    have mem := mem_keys.mpr ⟨resourceID, stored⟩
    rw [commands] at mem
    rcases other with rfl | rfl <;> simp [memoryCommandKey, joinNul, String.ext_iff] at mem
  have books (m : ProjectMemory) : (memoryTables m).books = booksOf m := rfl
  have opened (m : ProjectMemory) : (memoryTables m).conflicts = m.projectMemoryConflicts := rfl
  refine ⟨books _, opened _, fun spaceID space stored => ?_, empty records, empty versions, empty conflicts,
    fun space held key => ⟨?_, rfl⟩, fun space held key => ⟨?_, rfl⟩⟩
  · exact keyed (spaceID, space) ((mem_range (List.Perm.refl _)).mpr stored)
  all_goals rw [(owned space held).1, (owned space held).2]
  · exact unused "CONFIRM" key (.inl rfl)
  · exact unused "REVOKE" key (.inr rfl)

/-- Two records with one value and different statements are in conflict in the tables only. -/
theorem restated_value_disagrees : ∃ events t, SameStart sampleSpaceID sampleStores ∧
    ReviewHistory plainPostgres sampleSpaceID (fun _ _ => True) sampleStores events t ∧
    openSets t.rows.conflicts ≠ openSets t.memory.projectMemoryConflicts := by
  obtain ⟨events, t, history, ⟨conflict, listed, opened⟩, nothing⟩ : ∃ events t,
      ReviewHistory plainPostgres sampleSpaceID (fun _ _ => True) sampleStores events t ∧
      (∃ conflict ∈ t.rows.conflicts.values, conflict.status = .opened) ∧
      t.memory.projectMemoryConflicts.values.length = 0 :=
    exists_run [sampleConfirmed "a1" 1 "one", sampleConfirmed "a2" 1 "two"]
      (by decide +kernel)
  obtain ⟨conflictID, stored⟩ := mem_values.mp listed
  refine ⟨events, t, sampleStores_start, history, fun same => ?_⟩
  obtain ⟨otherID, other, held, -⟩ := same.le ⟨conflictID, conflict, stored, opened, rfl⟩
  have listed := mem_values.mpr ⟨otherID, held⟩
  rw [List.length_eq_zero_iff.mp nothing] at listed
  cases listed

theorem open_conflicts_agree_two : ∃ events t, ReviewHistory plainPostgres sampleSpaceID
      (fun s input => Paired plainPostgres.toMemoryRuntime s.memory input.op) sampleStores events t ∧
    events.length = 3 ∧ ∀ event ∈ events, openSets event.after.rows.conflicts =
      openSets event.after.memory.projectMemoryConflicts := by
  obtain ⟨events, t, history, three⟩ : ∃ events t,
      ReviewHistory plainPostgres sampleSpaceID
        (fun s input => Paired plainPostgres.toMemoryRuntime s.memory input.op) sampleStores events
        t ∧ events.length = 3 :=
    exists_run [sampleConfirmed "a1" 1 "one", sampleConfirmed "a3" 2 "three",
      sampleRevoked "a1"] (by decide +kernel)
  exact ⟨events, t, history, three, (open_conflicts_agree sampleStores_start history).2⟩

end Samples

end PrdAgent.Storage
