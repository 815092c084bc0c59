import PrdAgent.Runcontrol.MemoryRecords

/-!
# Conflicts between records

A confirmation opens a conflict between the new record and the active records of its semantic key
with other values; a revocation resolves the conflicts of the record that have at most one active
member left. So active records with different values are together in an open conflict, and an open
conflict has two active members (`Tracked`). They need not differ: a record with the value of another
and another statement is no duplicate. `StatedOnce` says of a call that it confirms no such record.
-/

namespace PrdAgent.Runcontrol

open GoText AssocMap

namespace ProjectMemory

section Definitions

variable (rt : MemoryRuntime) (m : ProjectMemory)

structure Active (memoryID : String) (record : ProjectMemoryRecord) : Prop where
  stored : m.projectMemoryRecords.get memoryID = some record
  active : record.currentStatus = .active

def SameKey (left right : ProjectMemoryRecord) : Prop :=
  left.spaceID = right.spaceID ∧ left.semanticKey = right.semanticKey

def SameValue (left right : ProjectMemoryRecord) : Prop :=
  memoryJSONEqual rt left.current.value right.current.value = true

def VersionIn (spaceID memoryID : String) (version : ProjectMemoryVersion) : Prop :=
  ∃ versions, m.projectMemoryVersions.get memoryID = some versions ∧ version ∈ versions ∧
    version.spaceID = spaceID

/-- What holds of the conflicts in every state. -/
structure Tracked : Prop where
  sound : Sound m
  distinct : ∀ conflictID conflict, m.projectMemoryConflicts.get conflictID = some conflict →
    conflict.memoryIDs.Nodup
  sameKey : ∀ conflictID conflict, m.projectMemoryConflicts.get conflictID = some conflict →
    ∀ left ∈ conflict.memoryIDs, ∀ right ∈ conflict.memoryIDs, ∀ first second,
      m.projectMemoryRecords.get left = some first →
      m.projectMemoryRecords.get right = some second → SameKey first second
  alive : ∀ conflictID conflict, m.projectMemoryConflicts.get conflictID = some conflict →
    conflict.status = .opened → 2 ≤ (m.activeMembers conflict).length
  together : ∀ left right first second, m.Active left first → m.Active right second →
    SameKey first second → ¬ SameValue rt first second →
    ∃ conflictID conflict, m.projectMemoryConflicts.get conflictID = some conflict ∧
      conflict.status = .opened ∧ left ∈ conflict.memoryIDs ∧ right ∈ conflict.memoryIDs
  unique : ∀ left right first second, m.Active left first → m.Active right second →
    SameKey first second → SameValue rt first second →
    first.current.statement = second.current.statement → left = right
  epochs : ∀ spaceID left right first second, m.VersionIn spaceID left first →
    m.VersionIn spaceID right second → first.committedEpoch = second.committedEpoch →
    left = right ∧ first = second

/-- Active records about the same thing have different values. -/
def ValuesDiffer : Prop :=
  ∀ left right first second, m.Active left first → m.Active right second →
    SameKey first second → SameValue rt first second → left = right

/-- The call confirms no candidate that has the value of an active record about the same thing with
another statement. -/
def StatedOnce : ControlOp → Prop
  | .confirmProjectMemoryCandidate command =>
    ∀ space ∈ m.memorySpaces.get command.spaceID,
      ∀ candidate ∈ m.projectMemoryCandidates.get command.candidateID,
        ∀ record ∈ m.projectMemoryRecords.values,
          record.activeFor space.spaceID (candidateKey rt space.spaceID candidate) = true →
          memoryJSONEqual rt record.current.value candidate.value = true →
          record.current.statement = candidate.statement
  | _ => True

instance : (op : ControlOp) → Decidable (StatedOnce rt m op)
  | .confirmProjectMemoryCandidate _ =>
    inferInstanceAs (Decidable (∀ space ∈ _, ∀ candidate ∈ _, ∀ record ∈ _, _ → _ → _))
  | .rollout _ | .createMemorySpace _ | .proposeProjectMemory _
  | .rejectProjectMemoryCandidate _ | .revokeProjectMemory _ => .isTrue trivial

end Definitions

variable {rt : MemoryRuntime} {call : Call} {m m' : ProjectMemory} {op : ControlOp}

theorem SameValue.refl (record : ProjectMemoryRecord) : SameValue rt record record := by
  simp [SameValue, memoryJSONEqual]

theorem SameValue.symm {left right : ProjectMemoryRecord} (same : SameValue rt left right) :
    SameValue rt right left := by
  unfold SameValue memoryJSONEqual at *
  rw [beq_iff_eq] at *
  exact same.symm

variable {conflict : ProjectMemoryConflict} {memoryID spaceID left right conflictID : String}
  {space : MemorySpace}

variable {record : ProjectMemoryRecord}

theorem activeFor_iff {semanticKey : String} :
    record.activeFor spaceID semanticKey = true ↔ record.spaceID = spaceID ∧
      record.semanticKey = semanticKey ∧ record.currentStatus = .active := by
  simp [ProjectMemoryRecord.activeFor, and_assoc]

/-! ## Active records -/

structure Adds (rt : MemoryRuntime) (call : Call) (m : ProjectMemory) (op : ControlOp)
    (m' : ProjectMemory) (command : ReviewMemoryCandidateCommand) (space : MemorySpace)
    (candidate : ProjectMemoryCandidate) : Prop where
  op : op = .confirmProjectMemoryCandidate command
  confirms : Confirms rt call m command space candidate
  records : m'.projectMemoryRecords = m.projectMemoryRecords.set (call.newID "memory")
    (confirmedRecord rt call command space candidate)
  conflicts : m'.projectMemoryConflicts = m.openConflict rt space.spaceID
    (confirmedRecord rt call command space candidate).current
    (m.confirmedMembers rt call command space candidate) (commandTime call command.now)

theorem MemoryEffect.active (effect : MemoryEffect rt call m op m') {memoryID : String}
    (active : m'.Active memoryID record) :
    m.Active memoryID record ∨
      ∃ command space candidate, Adds rt call m op m' command space candidate ∧
        memoryID = call.newID "memory" ∧
        record = confirmedRecord rt call command space candidate := by
  obtain ⟨stored, active⟩ := active
  cases effect with
  | kept same => exact .inl ⟨same.records ▸ stored, active⟩
  | opened _ _ records => exact .inl ⟨records ▸ stored, active⟩
  | @confirmed command _ space candidate confirms _ records _ conflicts =>
    rw [records] at stored
    rcases get_set_eq_some stored with ⟨rfl, rfl⟩ | ⟨-, stored⟩
    · exact .inr ⟨command, space, candidate, ⟨rfl, confirms, records, conflicts⟩, rfl, rfl⟩
    · exact .inl ⟨stored, active⟩
  | revoked _ _ records =>
    rw [records] at stored
    rcases get_set_eq_some stored with ⟨rfl, rfl⟩ | ⟨-, stored⟩
    · cases active
    · exact .inl ⟨stored, active⟩

variable {command : ReviewMemoryCandidateCommand} {candidate : ProjectMemoryCandidate}

theorem Confirms.not_duplicate (confirms : Confirms rt call m command space candidate)
    (active : m.Active memoryID record)
    (key : SameKey record (confirmedRecord rt call command space candidate))
    (value : SameValue rt record (confirmedRecord rt call command space candidate)) :
    record.current.statement ≠ candidate.statement := by
  intro statement
  have none := List.find?_eq_none.mp confirms.unique record
    (List.mem_map.mpr ⟨(memoryID, record), (mem_range (call.order_perm _)).mpr
      active.stored, rfl⟩)
  rw [Bool.and_eq_true, Bool.and_eq_true, activeFor_iff, beq_iff_eq] at none
  exact none ⟨⟨key.1, key.2, active.active⟩, value, statement⟩

theorem Tracked.unique_next (tracked : Tracked rt m) (effect : MemoryEffect rt call m op m')
    {first second : ProjectMemoryRecord} (one : m'.Active left first)
    (two : m'.Active right second) (key : SameKey first second) (value : SameValue rt first second)
    (statement : first.current.statement = second.current.statement) : left = right := by
  rcases effect.active one with one | ⟨command, space, candidate, adds, rfl, rfl⟩
  · rcases effect.active two with two | ⟨command, space, candidate, adds, rfl, rfl⟩
    · exact tracked.unique left right first second one two key value statement
    · exact absurd statement (adds.confirms.not_duplicate one key value)
  · rcases effect.active two with two | ⟨command', space', candidate', -, rfl, -⟩
    · exact absurd statement.symm
        (adds.confirms.not_duplicate two ⟨key.1.symm, key.2.symm⟩ value.symm)
    · rfl

/-- Active records about the same thing still have different values after a call that confirms no
candidate with the value of an active record. -/
theorem ValuesDiffer.next (differ : ValuesDiffer rt m) (effect : MemoryEffect rt call m op m')
    (once : StatedOnce rt m op) : ValuesDiffer rt m' := by
  -- the confirmed record has a value of its own
  have fresh {command : ReviewMemoryCandidateCommand} {space : MemorySpace}
      {candidate : ProjectMemoryCandidate} (adds : Adds rt call m op m' command space candidate)
      {memoryID : String} {record : ProjectMemoryRecord} (active : m.Active memoryID record)
      (key : SameKey record (confirmedRecord rt call command space candidate)) :
      ¬ SameValue rt record (confirmedRecord rt call command space candidate) := by
    intro value
    obtain ⟨rfl, confirms, -, -⟩ := adds
    refine confirms.not_duplicate active key value ?_
    exact once space confirms.owned.stored candidate confirms.stored record
      (mem_values.mpr ⟨memoryID, active.stored⟩)
      (activeFor_iff.mpr ⟨key.1, key.2, active.active⟩) value
  intro left right first second one two key value
  rcases effect.active one with one | ⟨command, space, candidate, adds, rfl, rfl⟩
  · rcases effect.active two with two | ⟨command, space, candidate, adds, rfl, rfl⟩
    · exact differ left right first second one two key value
    · exact absurd value (fresh adds one key)
  · rcases effect.active two with two | ⟨command', space', candidate', -, rfl, -⟩
    · exact absurd value.symm (fresh adds two ⟨key.1.symm, key.2.symm⟩)
    · rfl

/-! ## Members of conflicts -/

theorem mem_activeMembers : memoryID ∈ m.activeMembers conflict ↔ memoryID ∈ conflict.memoryIDs ∧
      ∃ record, m.Active memoryID record := by
  unfold activeMembers
  rw [List.mem_filter]
  refine and_congr_right fun _ => ?_
  cases stored : m.projectMemoryRecords.get memoryID with
  | none =>
    refine ⟨nofun, fun ⟨record, held, _⟩ => ?_⟩
    cases stored.symm.trans held
  | some record =>
    rw [Option.any_some, beq_iff_eq]
    refine ⟨fun active => ⟨record, stored, active⟩, fun ⟨other, held, active⟩ => ?_⟩
    cases stored.symm.trans held
    exact active

theorem two_le_length_of_ne {α : Type} {list : List α} {a b : α} (memA : a ∈ list)
    (memB : b ∈ list) (ne : a ≠ b) : 2 ≤ list.length := by
  match list with
  | [] => cases memA
  | [x] => exact absurd ((List.mem_singleton.mp memA).trans (List.mem_singleton.mp memB).symm) ne
  | _ :: _ :: _ => exact Nat.le_add_left 2 _

theorem activeMembers_congr (same : ∀ memoryID ∈ conflict.memoryIDs,
      m'.projectMemoryRecords.get memoryID = m.projectMemoryRecords.get memoryID) :
    m'.activeMembers conflict = m.activeMembers conflict :=
  List.filter_congr fun memoryID mem => by rw [same memoryID mem]

theorem confirmedMembers_nodup (sound : Sound m) (rt : MemoryRuntime) (call : Call)
    (command : ReviewMemoryCandidateCommand) (space : MemorySpace)
    (candidate : ProjectMemoryCandidate) :
    (m.confirmedMembers rt call command space candidate).Nodup := by
  unfold confirmedMembers conflictMembers
  refine (List.perm_insertionSort _ _).nodup_iff.mpr (List.nodup_cons.mpr ⟨?_, ?_⟩)
  · intro mem
    obtain ⟨record, kept, same⟩ := List.mem_map.mp mem
    have other := (List.mem_filter.mp kept).2
    rw [Bool.and_eq_true, Bool.and_eq_true, bne_iff_ne] at other
    exact other.1.1 same
  · generalize stored : m.projectMemoryRecords.set _ _ = records
    have keyed : records.Keyed ProjectMemoryRecord.memoryID := stored ▸ sound.records.set rfl
    exact (keyed.range_nodup (call.order_perm _)).sublist (List.filter_sublist.map _)

/-- What a conflict is after a call: as before and with the same active members or more than one, or
resolved by the call, or opened by it. -/
theorem MemoryEffect.conflict_cases (effect : MemoryEffect rt call m op m') (sound : Sound m)
    (stored : m'.projectMemoryConflicts.get conflictID = some conflict) :
    (m.projectMemoryConflicts.get conflictID = some conflict ∧ (conflict.status = .opened →
        m'.activeMembers conflict = m.activeMembers conflict ∨
          2 ≤ (m'.activeMembers conflict).length)) ∨ (conflict.status = .resolved ∧ ∃ earlier,
        m.projectMemoryConflicts.get conflictID = some earlier ∧
        conflict.memoryIDs = earlier.memoryIDs) ∨
      ∃ command space candidate, Adds rt call m op m' command space candidate ∧
        conflict.memoryIDs = m.confirmedMembers rt call command space candidate ∧
        1 < conflict.memoryIDs.length := by
  cases effect with
  | kept same =>
    refine .inl ⟨same.conflicts ▸ stored, fun _ => .inl (activeMembers_congr fun _ _ => ?_)⟩
    rw [same.records]
  | opened _ _ records _ conflicts =>
    refine .inl ⟨conflicts ▸ stored, fun _ => .inl (activeMembers_congr fun _ _ => ?_)⟩
    rw [records]
  | @confirmed command _ space candidate confirms _ records _ conflicts =>
    rw [conflicts] at stored
    rcases openConflict_cases stored with stored | new
    · refine .inl ⟨stored, fun _ => .inl (activeMembers_congr fun memoryID mem => ?_)⟩
      obtain ⟨record, present, -⟩ := sound.members _ conflict stored memoryID mem
      rw [records, get_set_ne _ _ (ne_of_get confirms.fresh present)]
    · exact .inr (.inr ⟨command, space, candidate, ⟨rfl, confirms, records, conflicts⟩,
        new.members, new.several⟩)
  | @revoked command _ space record revokes _ records _ conflicts =>
    rw [conflicts] at stored
    obtain ⟨earlier, held, rfl⟩ := Option.map_eq_some_iff.mp stored
    unfold resolveConflict
    dsimp only
    split
    · exact .inr (.inl ⟨rfl, earlier, held, rfl⟩)
    · next stays =>
      refine .inl ⟨held, fun opened => ?_⟩
      by_cases mem : record.memoryID ∈ earlier.memoryIDs
      · exact .inr (by
          by_contra few
          exact stays ⟨mem, opened, by omega⟩)
      · refine .inl (activeMembers_congr fun memoryID member => ?_)
        rw [records, get_set_ne]
        rintro rfl
        exact mem member

theorem Adds.members_active (adds : Adds rt call m op m' command space candidate)
    (sound : Sound m) (mem : memoryID ∈ m.confirmedMembers rt call command space candidate) :
    ∃ record, m'.Active memoryID record ∧ record.spaceID = space.spaceID ∧
      record.semanticKey = candidateKey rt space.spaceID candidate := by
  obtain ⟨-, confirms, records, -⟩ := adds
  rcases (mem_confirmedMembers sound.records confirms.fresh).mp mem with
    rfl | ⟨record, stored, active, -⟩
  · exact ⟨_, ⟨records ▸ get_set_self _ _ _, rfl⟩, rfl, rfl⟩
  · obtain ⟨home, key, active⟩ := activeFor_iff.mp active
    exact ⟨record, ⟨records ▸ get_set_of_unused confirms.fresh stored, active⟩, home, key⟩

theorem Adds.opens {space : MemorySpace} (adds : Adds rt call m op m' command space candidate)
    (sound : Sound m) {memoryID : String} (active : m.Active memoryID record)
    (key : SameKey record (confirmedRecord rt call command space candidate))
    (differ : ¬ SameValue rt record (confirmedRecord rt call command space candidate)) :
    ∃ conflictID conflict, m'.projectMemoryConflicts.get conflictID = some conflict ∧
      conflict.status = .opened ∧ call.newID "memory" ∈ conflict.memoryIDs ∧
      memoryID ∈ conflict.memoryIDs := by
  obtain ⟨-, confirms, -, conflicts⟩ := adds
  have ne : call.newID "memory" ≠ memoryID := (ne_of_get confirms.fresh active.stored).symm
  have new : call.newID "memory" ∈ m.confirmedMembers rt call command space candidate :=
    (mem_confirmedMembers sound.records confirms.fresh).mpr (.inl rfl)
  have old : memoryID ∈ m.confirmedMembers rt call command space candidate :=
    (mem_confirmedMembers sound.records confirms.fresh).mpr (.inr ⟨record, active.stored,
      activeFor_iff.mpr ⟨key.1, key.2, active.active⟩, Bool.eq_false_of_not_eq_true differ⟩)
  have several : (m.confirmedMembers rt call command space candidate).length > 1 :=
    two_le_length_of_ne new old ne
  rw [conflicts]
  unfold openConflict
  rw [if_pos several]
  exact ⟨_, _, get_set_self _ _ _, rfl, new, old⟩

theorem MemoryEffect.conflict_kept (effect : MemoryEffect rt call m op m') (sound : Sound m)
    (apart : IdentifiersApart rt call m op)
    (stored : m.projectMemoryConflicts.get conflictID = some conflict)
    (alive : 2 ≤ (m'.activeMembers conflict).length) :
    m'.projectMemoryConflicts.get conflictID = some conflict := by
  cases effect with
  | kept same => exact same.conflicts ▸ stored
  | opened _ _ _ _ conflicts => exact conflicts ▸ stored
  | confirmed confirms _ _ _ conflicts =>
    rw [conflicts]
    unfold openConflict
    split
    · exact get_set_of_unused (confirms.unused sound apart) stored
    · exact stored
  | revoked _ _ _ _ conflicts =>
    rw [conflicts, stored]
    refine congrArg some ?_
    unfold resolveConflict
    exact if_neg fun ends => by omega

theorem Tracked.together_next (tracked : Tracked rt m) (effect : MemoryEffect rt call m op m')
    (apart : IdentifiersApart rt call m op)
    {first second : ProjectMemoryRecord} (one : m'.Active left first)
    (two : m'.Active right second) (key : SameKey first second)
    (differ : ¬ SameValue rt first second) :
    ∃ conflictID conflict, m'.projectMemoryConflicts.get conflictID = some conflict ∧
      conflict.status = .opened ∧ left ∈ conflict.memoryIDs ∧ right ∈ conflict.memoryIDs := by
  have ne : left ≠ right := by
    rintro rfl
    cases one.stored.symm.trans two.stored
    exact differ (.refl first)
  rcases effect.active one with one' | ⟨command, space, candidate, adds, rfl, rfl⟩
  · rcases effect.active two with two' | ⟨command, space, candidate, adds, rfl, rfl⟩
    · obtain ⟨conflictID, conflict, stored, opened, memLeft, memRight⟩ :=
        tracked.together left right first second one' two' key differ
      refine ⟨conflictID, conflict, effect.conflict_kept tracked.sound apart stored ?_, opened,
        memLeft, memRight⟩
      exact two_le_length_of_ne (mem_activeMembers.mpr ⟨memLeft, first, one⟩)
        (mem_activeMembers.mpr ⟨memRight, second, two⟩) ne
    · obtain ⟨conflictID, conflict, stored, opened, new, old⟩ := adds.opens tracked.sound one' key differ
      exact ⟨conflictID, conflict, stored, opened, old, new⟩
  · rcases effect.active two with two' | ⟨command', space', candidate', -, same, -⟩
    · exact adds.opens tracked.sound two' ⟨key.1.symm, key.2.symm⟩ fun same => differ same.symm
    · exact absurd same.symm ne

/-! ## Epochs -/

theorem Sound.versionIn_upTo (sound : Sound m)
    {version : ProjectMemoryVersion} (held : m.VersionIn spaceID memoryID version)
    (stored : m.memorySpaces.get spaceID = some space) :
    version.committedEpoch ≤ space.memoryEpoch := by
  obtain ⟨versions, found, mem, home⟩ := held
  obtain ⟨record, present⟩ := sound.recorded memoryID versions found
  obtain ⟨versions', space', found', lives, history⟩ := sound.history memoryID record present
  cases found.symm.trans found'
  rw [← (history.own version mem).2, home, stored] at lives
  cases lives
  exact history.upTo version mem

/-- A call adds at most one version, with the next epoch of its space. -/
theorem MemoryEffect.versions_cases (effect : MemoryEffect rt call m op m') (sound : Sound m) :
    (∀ spaceID memoryID version, m'.VersionIn spaceID memoryID version →
      m.VersionIn spaceID memoryID version) ∨
    ∃ written added space, m.memorySpaces.get added.spaceID = some space ∧
      added.committedEpoch = space.memoryEpoch + 1 ∧
      ∀ spaceID memoryID version, m'.VersionIn spaceID memoryID version →
        m.VersionIn spaceID memoryID version ∨
          memoryID = written ∧ version = added ∧ added.spaceID = spaceID := by
  cases effect with
  | kept same =>
    refine .inl fun spaceID memoryID version held => ?_
    unfold VersionIn at held
    rw [same.versions] at held
    exact held
  | opened _ _ _ versions =>
    refine .inl fun spaceID memoryID version held => ?_
    unfold VersionIn at held
    rw [versions] at held
    exact held
  | @confirmed command _ space candidate confirms _ _ versions =>
    refine .inr ⟨call.newID "memory",
      (confirmedRecord rt call command space candidate).current, space,
      confirms.owned.stored_own sound, rfl, fun spaceID memoryID version held => ?_⟩
    obtain ⟨list, stored, mem, home⟩ := held
    rw [versions] at stored
    rcases get_set_eq_some stored with ⟨rfl, rfl⟩ | ⟨-, stored⟩
    · cases List.mem_singleton.mp mem
      exact .inr ⟨rfl, rfl, home⟩
    · exact .inl ⟨list, stored, mem, home⟩
  | @revoked command _ space record revokes _ _ versions =>
    have id : record.memoryID = command.memoryID := sound.records _ record revokes.stored
    obtain ⟨earlier, place, held, lives, history⟩ := sound.history _ record revokes.stored
    have current := (history.own _ history.current_mem).2
    rw [revokes.inSpace, revokes.owned.stored] at lives
    cases lives
    refine .inr ⟨command.memoryID, (revokedRecord rt call command space record).current, space,
      ?_, rfl, fun spaceID memoryID version found => ?_⟩
    · exact (current.trans revokes.inSpace) ▸ revokes.owned.stored
    · obtain ⟨list, stored, mem, home⟩ := found
      rw [versions, id] at stored
      rcases get_set_eq_some stored with ⟨rfl, rfl⟩ | ⟨-, stored⟩
      · rw [held] at mem
        rcases List.mem_append.mp mem with mem | mem
        · exact .inl ⟨earlier, held, mem, home⟩
        · cases List.mem_singleton.mp mem
          exact .inr ⟨rfl, rfl, home⟩
      · exact .inl ⟨list, stored, mem, home⟩

theorem Tracked.epochs_next (tracked : Tracked rt m) (effect : MemoryEffect rt call m op m')
    {first second : ProjectMemoryVersion}
    (one : m'.VersionIn spaceID left first) (two : m'.VersionIn spaceID right second)
    (same : first.committedEpoch = second.committedEpoch) : left = right ∧ first = second := by
  rcases effect.versions_cases tracked.sound with kept | ⟨written, added, space, stored, next, cases⟩
  · exact tracked.epochs spaceID left right first second (kept _ _ _ one) (kept _ _ _ two) same
  · have beyond {memoryID : String} {version : ProjectMemoryVersion} (home : added.spaceID = spaceID)
        (held : m.VersionIn spaceID memoryID version) :
        version.committedEpoch < added.committedEpoch := by
      rw [next]
      exact Int.lt_add_one_of_le (tracked.sound.versionIn_upTo held (home ▸ stored))
    rcases cases _ _ _ one with one | ⟨rfl, rfl, home⟩
    · rcases cases _ _ _ two with two | ⟨rfl, rfl, home⟩
      · exact tracked.epochs spaceID left right first second one two same
      · exact absurd same (beyond home one).ne
    · rcases cases _ _ _ two with two | ⟨rfl, rfl, -⟩
      · exact absurd same.symm (beyond home two).ne
      · exact ⟨rfl, rfl⟩

/-! ## Runs -/

theorem Tracked.of_spaces (spaces : m.memorySpaces.Keyed MemorySpace.spaceID)
    (noRecords : ∀ memoryID, m.projectMemoryRecords.get memoryID = none)
    (noVersions : ∀ memoryID, m.projectMemoryVersions.get memoryID = none)
    (noConflicts : ∀ conflictID, m.projectMemoryConflicts.get conflictID = none) : Tracked rt m where
  sound := by
    refine ⟨spaces, ?_, ?_, ?_, ?_, ?_, ?_⟩ <;> simp [Keyed, noRecords, noVersions, noConflicts]
  distinct conflictID conflict stored := by simp [noConflicts] at stored
  sameKey conflictID conflict stored := by simp [noConflicts] at stored
  alive conflictID conflict stored := by simp [noConflicts] at stored
  together left right first second one := by simpa [noRecords] using one.stored
  unique left right first second one := by simpa [noRecords] using one.stored
  epochs spaceID left right first second one := by
    obtain ⟨versions, stored, -⟩ := one
    simp [noVersions] at stored

theorem ValuesDiffer.empty : ValuesDiffer rt {} := by
  intro left right first second one
  simpa using one.stored

theorem Tracked.next (tracked : Tracked rt m) (effect : MemoryEffect rt call m op m')
    (apart : IdentifiersApart rt call m op) : Tracked rt m' where
  sound := effect.sound tracked.sound apart
  distinct conflictID conflict stored := by
    rcases effect.conflict_cases tracked.sound stored with
      ⟨held, -⟩ | ⟨-, earlier, held, same⟩ | ⟨command, space, candidate, -, members, -⟩
    · exact tracked.distinct conflictID conflict held
    · exact same ▸ tracked.distinct conflictID earlier held
    · exact members ▸ confirmedMembers_nodup tracked.sound rt call command space candidate
  sameKey conflictID conflict stored left memLeft right memRight first second one two := by
    -- members that were there before the call
    have old {earlier : ProjectMemoryConflict}
        (held : m.projectMemoryConflicts.get conflictID = some earlier)
        (same : conflict.memoryIDs = earlier.memoryIDs) : SameKey first second := by
      rw [same] at memLeft memRight
      obtain ⟨before, foundLeft, -⟩ := tracked.sound.members _ earlier held left memLeft
      obtain ⟨before', foundRight, -⟩ := tracked.sound.members _ earlier held right memRight
      obtain ⟨_, one', follow⟩ := effect.follows tracked.sound left before foundLeft
      obtain ⟨_, two', follow'⟩ := effect.follows tracked.sound right before' foundRight
      cases one.symm.trans one'
      cases two.symm.trans two'
      have key := tracked.sameKey conflictID earlier held left memLeft right memRight before before'
        foundLeft foundRight
      exact ⟨follow.space.trans (key.1.trans follow'.space.symm),
        follow.key.trans (key.2.trans follow'.key.symm)⟩
    rcases effect.conflict_cases tracked.sound stored with
      ⟨held, -⟩ | ⟨-, earlier, held, same⟩ | ⟨command, space, candidate, adds, members, -⟩
    · exact old held rfl
    · exact old held same
    · rw [members] at memLeft memRight
      obtain ⟨_, active, home, key⟩ := adds.members_active tracked.sound memLeft
      obtain ⟨_, active', home', key'⟩ := adds.members_active tracked.sound memRight
      cases one.symm.trans active.stored
      cases two.symm.trans active'.stored
      exact ⟨home.trans home'.symm, key.trans key'.symm⟩
  alive conflictID conflict stored opened := by
    rcases effect.conflict_cases tracked.sound stored with
      ⟨held, alive⟩ | ⟨resolved, -⟩ | ⟨command, space, candidate, adds, members, several⟩
    · rcases alive opened with same | several
      · rw [same]
        exact tracked.alive conflictID conflict held opened
      · exact several
    · cases resolved.symm.trans opened
    · have all : m'.activeMembers conflict = conflict.memoryIDs := by
        refine List.filter_eq_self.mpr fun memoryID mem => ?_
        obtain ⟨record, active, -⟩ := adds.members_active tracked.sound (members ▸ mem)
        rw [active.stored, Option.any_some, active.active]
        rfl
      rw [all]
      exact several
  together _ _ _ _ one two key differ := tracked.together_next effect apart one two key differ
  unique _ _ _ _ one two key value statement :=
    tracked.unique_next effect one two key value statement
  epochs _ _ _ _ _ one two same := tracked.epochs_next effect one two same

/-- Conflicts are complete and current, and versions are in the order of their commits. -/
structure BooksKept (rt : MemoryRuntime) (m : ProjectMemory) : Prop where
  together : ∀ left right first second, m.Active left first → m.Active right second →
    SameKey first second → ¬ SameValue rt first second →
    ∃ conflictID conflict, m.projectMemoryConflicts.get conflictID = some conflict ∧
      conflict.spaceID = first.spaceID ∧ conflict.status = .opened ∧ left ∈ conflict.memoryIDs ∧
      right ∈ conflict.memoryIDs
  disputed : ∀ conflictID conflict, m.projectMemoryConflicts.get conflictID = some conflict →
    conflict.status = .opened →
    ∃ left ∈ conflict.memoryIDs, ∃ right ∈ conflict.memoryIDs, ∃ first second,
      m.Active left first ∧ m.Active right second ∧ ¬ SameValue rt first second
  unique : ∀ left right first second, m.Active left first → m.Active right second →
    SameKey first second → SameValue rt first second →
    first.current.statement = second.current.statement → left = right
  epochs : ∀ spaceID left right first second, m.VersionIn spaceID left first →
    m.VersionIn spaceID right second → first.committedEpoch = second.committedEpoch →
    left = right ∧ first = second
  ordered : ∀ memoryID versions, m.projectMemoryVersions.get memoryID = some versions →
    versions.Pairwise fun earlier later => earlier.committedEpoch < later.committedEpoch
  current : ∀ memoryID record, m.projectMemoryRecords.get memoryID = some record →
    ∃ earlier, m.projectMemoryVersions.get memoryID = some (earlier ++ [record.current])

theorem Tracked.booksKept (tracked : Tracked rt m) (differ : ValuesDiffer rt m) :
    BooksKept rt m where
  together left right first second one two key values := by
    obtain ⟨conflictID, conflict, stored, opened, memLeft, memRight⟩ :=
      tracked.together left right first second one two key values
    obtain ⟨record, found, home⟩ := tracked.sound.members _ conflict stored left memLeft
    cases one.stored.symm.trans found
    exact ⟨conflictID, conflict, stored, home.symm, opened, memLeft, memRight⟩
  disputed conflictID conflict stored opened := by
    have alive := tracked.alive conflictID conflict stored opened
    have distinct : (m.activeMembers conflict).Nodup :=
      (tracked.distinct conflictID conflict stored).filter _
    match listed : m.activeMembers conflict with
    | [] | [_] =>
      rw [listed] at alive
      simp at alive
    | left :: right :: rest =>
      rw [listed] at distinct
      have memLeft : left ∈ m.activeMembers conflict := by simp [listed]
      have memRight : right ∈ m.activeMembers conflict := by simp [listed]
      obtain ⟨memLeft, first, one⟩ := mem_activeMembers.mp memLeft
      obtain ⟨memRight, second, two⟩ := mem_activeMembers.mp memRight
      refine ⟨left, memLeft, right, memRight, first, second, one, two, fun same => ?_⟩
      have key := tracked.sameKey conflictID conflict stored left memLeft right memRight first second
        one.stored two.stored
      have same := differ left right first second one two key same
      simp [same] at distinct
  unique := tracked.unique
  epochs := tracked.epochs
  ordered memoryID versions stored := by
    obtain ⟨record, present⟩ := tracked.sound.recorded memoryID versions stored
    obtain ⟨_, _, held, -, history⟩ := tracked.sound.history memoryID record present
    cases stored.symm.trans held
    exact history.increasing
  current memoryID record stored := by
    obtain ⟨_, _, held, -, history⟩ := tracked.sound.history memoryID record stored
    obtain ⟨earlier, rfl⟩ := history.last
    exact ⟨earlier, held⟩

end ProjectMemory

namespace ControlPlane

open ProjectMemory

variable {rt : MemoryRuntime} {s t : ControlPlane} {events : List ControlEvent}

/-- Hashed identifiers are apart and values are stated once. -/
abbrev Unambiguous (rt : MemoryRuntime) (s : ControlPlane) (input : ControlInput) : Prop :=
  Apart rt s input ∧ StatedOnce rt s.memory input.op

/-- Active records with different values are together in an open conflict, open conflicts have
active members with different values, no two active records say the same, every commit has an epoch
of its own that exceeds the earlier ones of its space, and the current version of a record is its
last. -/
theorem books_kept {policy : QueuePolicy}
    (history : ControlHistory rt (Unambiguous rt) (newControlPlane policy) events s) :
    BooksKept rt s.memory ∧ ∀ event ∈ events, ∀ spaceID memoryID version,
      event.after.memory.VersionIn spaceID memoryID version →
      ¬ event.before.memory.VersionIn spaceID memoryID version →
      ∀ other earlier, event.before.memory.VersionIn spaceID other earlier →
        earlier.committedEpoch < version.committedEpoch := by
  constructor
  · have kept : Tracked rt s.memory ∧ ValuesDiffer rt s.memory := by
      refine history.invariant (I := fun s => Tracked rt s.memory ∧ ValuesDiffer rt s.memory) ?_
        ⟨.of_spaces (.empty _) (fun _ => rfl) (fun _ => rfl) (fun _ => rfl), .empty⟩
      rintro s input ⟨fresh, apart, once⟩ ⟨tracked, differ⟩
      exact ⟨tracked.next (apply_memory fresh) apart, differ.next (apply_memory fresh) once⟩
    exact kept.1.booksKept kept.2
  · intro event mem spaceID memoryID version after before other earlier held
    obtain ⟨_, _, is, allowed, first, -⟩ := history.of_mem mem
    have sound := sound_of_run (first.mono fun _ _ allowed => ⟨allowed.1, allowed.2.1⟩)
      (newControlPlane_sound policy)
    have next : event.after = (apply rt event.input event.before).1 := congrArg (·.after) is
    rw [next] at after
    rcases (apply_memory allowed.1).versions_cases sound with
      kept | ⟨written, added, space, stored, epoch, cases⟩
    · exact absurd (kept _ _ _ after) before
    · rcases cases _ _ _ after with old | ⟨rfl, rfl, home⟩
      · exact absurd old before
      · rw [epoch]
        exact Int.lt_add_one_of_le (sound.versionIn_upTo held (home ▸ stored))

def twoStatements : List ControlInput := spaceCreated :: remembered "a1" 1 "one" ++
  remembered "a2" 1 "two" ++ remembered "a3" 2 "three" ++ [forgotten "a3"]

/-- The conflict between the three records stays open, with two active members of one value. -/
theorem settled_conflict_open : ∃ events s conflictID conflict,
    ControlHistory plainMemory (Apart plainMemory) (newControlPlane MemoryStore.oneSlot) events s ∧
    s.memory.projectMemoryConflicts.get conflictID = some conflict ∧ conflict.status = .opened ∧
    ∀ left ∈ conflict.memoryIDs, ∀ right ∈ conflict.memoryIDs, ∀ first second,
      s.memory.Active left first → s.memory.Active right second →
      SameValue plainMemory first second := by
  obtain ⟨events, s, history, conflict, stored, opened, values⟩ : ∃ events s,
      ControlHistory plainMemory (Apart plainMemory) (newControlPlane MemoryStore.oneSlot) events s ∧
      ∃ conflict ∈ s.memory.projectMemoryConflicts.values, conflict.status = .opened ∧
        ∀ memoryID ∈ conflict.memoryIDs, ∀ record ∈ s.memory.projectMemoryRecords.get memoryID,
          record.currentStatus = .active →
          plainMemory.jsonMarshal record.current.value = "1" :=
    Transition.exists_run twoStatements (by decide +kernel)
  obtain ⟨conflictID, stored⟩ := mem_values.mp stored
  refine ⟨events, s, conflictID, conflict, history, stored, opened, ?_⟩
  intro left memLeft right memRight first second one two
  have valueLeft := values left memLeft first one.stored one.active
  have valueRight := values right memRight second two.stored two.active
  exact beq_iff_eq.mpr (valueLeft.trans valueRight.symm)

def twoValues : List ControlInput :=
  spaceCreated :: remembered "a1" 1 "one" ++ remembered "a2" 2 "two"

theorem books_kept_two : ∃ events s left right first second,
    ControlHistory plainMemory (Unambiguous plainMemory) (newControlPlane MemoryStore.oneSlot)
      events s ∧ s.memory.Active left first ∧ s.memory.Active right second ∧
    ∃ conflictID conflict, s.memory.projectMemoryConflicts.get conflictID = some conflict ∧
      conflict.status = .opened ∧ left ∈ conflict.memoryIDs ∧ right ∈ conflict.memoryIDs := by
  obtain ⟨events, s, history, first, one, second, two, active, active', key, values⟩ : ∃ events s,
      ControlHistory plainMemory (Unambiguous plainMemory) (newControlPlane MemoryStore.oneSlot)
        events s ∧
      ∃ first ∈ s.memory.projectMemoryRecords.get "memory-a1",
        ∃ second ∈ s.memory.projectMemoryRecords.get "memory-a2",
          first.currentStatus = .active ∧ second.currentStatus = .active ∧
          (first.spaceID = second.spaceID ∧ first.semanticKey = second.semanticKey) ∧
          ¬ memoryJSONEqual plainMemory first.current.value second.current.value = true :=
    Transition.exists_run twoValues (by decide +kernel)
  obtain ⟨conflictID, conflict, stored, -, opened, left, right⟩ :=
    (books_kept history).1.together "memory-a1" "memory-a2" first second ⟨one, active⟩
      ⟨two, active'⟩ key values
  exact ⟨events, s, _, _, first, second, history, ⟨one, active⟩, ⟨two, active'⟩, conflictID,
    conflict, stored, opened, left, right⟩

end ControlPlane

end PrdAgent.Runcontrol
