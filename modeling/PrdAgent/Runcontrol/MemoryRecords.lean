import PrdAgent.Runcontrol.ControlPlane

/-!
# What project memory keeps in order

Spaces only grow: their owner and project stay and their epoch does not fall (`Grown`). Every record
has its versions in the order of their epochs, none beyond the epoch of the space, and its current
version is the last of them. A conflict is noted at an epoch of its space, and the epoch of its
resolution is stored just when it is resolved (`Sound`). Spaces and conflicts are stored under hashes,
which are taken to be apart (`IdentifiersApart`).
-/

namespace PrdAgent.Runcontrol

open GoText AssocMap

structure MemorySpace.Grown (space space' : MemorySpace) : Prop where
  id : space'.spaceID = space.spaceID
  tenant : space'.tenantID = space.tenantID
  owner : space'.ownerID = space.ownerID
  epoch : space.memoryEpoch ≤ space'.memoryEpoch

theorem MemorySpace.Grown.refl (space : MemorySpace) : space.Grown space :=
  ⟨rfl, rfl, rfl, le_rfl⟩

theorem MemorySpace.Grown.trans {a b c : MemorySpace} (first : a.Grown b) (second : b.Grown c) :
    a.Grown c :=
  ⟨second.id.trans first.id, second.tenant.trans first.tenant, second.owner.trans first.owner,
    first.epoch.trans second.epoch⟩

theorem MemorySpace.Grown.committed (space : MemorySpace) (now : Time) :
    space.Grown (space.committed now) :=
  ⟨rfl, rfl, rfl, by simp [MemorySpace.committed]⟩

structure ProjectMemoryRecord.Follows (record record' : ProjectMemoryRecord) : Prop where
  id : record'.memoryID = record.memoryID
  space : record'.spaceID = record.spaceID
  key : record'.semanticKey = record.semanticKey
  value : record'.current.value = record.current.value
  statement : record'.current.statement = record.current.statement

theorem ProjectMemoryRecord.Follows.refl (record : ProjectMemoryRecord) : record.Follows record :=
  ⟨rfl, rfl, rfl, rfl, rfl⟩

theorem ProjectMemoryRecord.Follows.trans {a b c : ProjectMemoryRecord} (first : a.Follows b)
    (second : b.Follows c) : a.Follows c :=
  ⟨second.id.trans first.id, second.space.trans first.space, second.key.trans first.key,
    second.value.trans first.value, second.statement.trans first.statement⟩

/-- The versions of a record, in a space of the given epoch. -/
structure ProjectMemoryRecord.History (record : ProjectMemoryRecord)
    (versions : List ProjectMemoryVersion) (epoch : Int) : Prop where
  last : ∃ earlier, versions = earlier ++ [record.current]
  status : record.currentStatus = record.current.status
  own : ∀ version ∈ versions, version.memoryID = record.memoryID ∧ version.spaceID = record.spaceID
  upTo : ∀ version ∈ versions, version.committedEpoch ≤ epoch
  increasing : versions.Pairwise fun earlier later => earlier.committedEpoch < later.committedEpoch

variable {epoch : Int}

theorem ProjectMemoryRecord.History.current_mem {record : ProjectMemoryRecord}
    {versions : List ProjectMemoryVersion} (history : record.History versions epoch) :
    record.current ∈ versions := by
  obtain ⟨earlier, rfl⟩ := history.last
  simp

/-- The interval of epochs in which the conflict was open, in a space of the given epoch. -/
structure ProjectMemoryConflict.Dated (conflict : ProjectMemoryConflict) (epoch : Int) : Prop where
  committed : conflict.committedEpoch ≤ epoch
  unresolved : conflict.resolvedEpoch = none → conflict.status = .opened ∧
    conflict.resolutionMemoryID = "" ∧ conflict.resolvedAt = none
  resolved : ∀ resolvedEpoch, conflict.resolvedEpoch = some resolvedEpoch →
    conflict.status = .resolved ∧ conflict.committedEpoch < resolvedEpoch ∧ resolvedEpoch ≤ epoch

variable {conflict : ProjectMemoryConflict}

theorem ProjectMemoryConflict.Dated.opened_iff
    (dated : conflict.Dated epoch) : conflict.status = .opened ↔ conflict.resolvedEpoch = none := by
  cases stored : conflict.resolvedEpoch with
  | none => simp [(dated.unresolved stored).1]
  | some resolvedEpoch => simp [(dated.resolved resolvedEpoch stored).1]

namespace ProjectMemory

section Conditions

variable (rt : MemoryRuntime) (call : Call)

/-- Spaces and conflicts that are stored under the identifiers the call derives are those it is
about: the hashes of different texts differ. -/
def IdentifiersApart (m : ProjectMemory) : ControlOp → Prop
  | .createMemorySpace command =>
    ∀ space ∈ m.memorySpaces.get
      (memorySpaceID rt command.tenantID command.ownerID (trimSpace command.projectKey)),
      space.tenantID = command.tenantID ∧ space.ownerID = command.ownerID ∧
        space.projectKey = trimSpace command.projectKey
  | .confirmProjectMemoryCandidate command =>
    ∀ space ∈ m.memorySpaces.get command.spaceID,
      ∀ candidate ∈ m.projectMemoryCandidates.get command.candidateID,
        ∀ conflict ∈ m.projectMemoryConflicts.get
          (memoryConflictID rt (m.confirmedMembers rt call command space candidate)),
          conflict.memoryIDs = m.confirmedMembers rt call command space candidate
  | _ => True

instance (m : ProjectMemory) : (op : ControlOp) → Decidable (IdentifiersApart rt call m op)
  | .createMemorySpace _ => inferInstanceAs (Decidable (∀ space ∈ _, _ ∧ _ ∧ _))
  | .confirmProjectMemoryCandidate _ =>
    inferInstanceAs (Decidable (∀ space ∈ _, ∀ candidate ∈ _, ∀ conflict ∈ _, _ = _))
  | .rollout _ | .proposeProjectMemory _ | .rejectProjectMemoryCandidate _
  | .revokeProjectMemory _ => .isTrue trivial

structure Sound (m : ProjectMemory) : Prop where
  spaces : m.memorySpaces.Keyed MemorySpace.spaceID
  records : m.projectMemoryRecords.Keyed ProjectMemoryRecord.memoryID
  conflicts : m.projectMemoryConflicts.Keyed ProjectMemoryConflict.conflictID
  recorded : ∀ memoryID versions, m.projectMemoryVersions.get memoryID = some versions →
    ∃ record, m.projectMemoryRecords.get memoryID = some record
  history : ∀ memoryID record, m.projectMemoryRecords.get memoryID = some record →
    ∃ versions space, m.projectMemoryVersions.get memoryID = some versions ∧
      m.memorySpaces.get record.spaceID = some space ∧ record.History versions space.memoryEpoch
  dated : ∀ conflictID conflict, m.projectMemoryConflicts.get conflictID = some conflict →
    ∃ space, m.memorySpaces.get conflict.spaceID = some space ∧ conflict.Dated space.memoryEpoch
  members : ∀ conflictID conflict, m.projectMemoryConflicts.get conflictID = some conflict →
    ∀ memoryID ∈ conflict.memoryIDs, ∃ record, m.projectMemoryRecords.get memoryID = some record ∧
      record.spaceID = conflict.spaceID

end Conditions

variable {rt : MemoryRuntime} {call : Call} {m m' : ProjectMemory} {op : ControlOp}

theorem Sound.empty : Sound {} where
  spaces := .empty _
  records := .empty _
  conflicts := .empty _
  recorded memoryID versions stored := by simp at stored
  history memoryID record stored := by simp at stored
  dated conflictID conflict stored := by simp at stored
  members conflictID conflict stored := by simp at stored

variable {space : MemorySpace}

theorem OwnsSpace.stored_own {tenantID ownerID spaceID : String}
    (sound : Sound m) (owned : OwnsSpace m tenantID ownerID spaceID space) :
    m.memorySpaces.get space.spaceID = some space := by
  rw [sound.spaces _ _ owned.stored]
  exact owned.stored

variable {command : ReviewMemoryCandidateCommand} {candidate : ProjectMemoryCandidate}

/-- Members of the conflict that a confirmation opens: the new record, and the active records of its
semantic key with other values. -/
theorem mem_confirmedMembers (keyed : m.projectMemoryRecords.Keyed (·.memoryID))
    (unused : m.projectMemoryRecords.get (call.newID "memory") = none) {memoryID : String} :
    memoryID ∈ m.confirmedMembers rt call command space candidate ↔ memoryID = call.newID "memory" ∨
        ∃ record, m.projectMemoryRecords.get memoryID = some record ∧
          record.activeFor space.spaceID (candidateKey rt space.spaceID candidate) = true ∧
          memoryJSONEqual rt record.current.value candidate.value = false := by
  unfold confirmedMembers conflictMembers
  rw [List.mem_insertionSort, List.mem_cons]
  refine or_congr Iff.rfl ?_
  simp only [List.mem_map, List.mem_filter, Bool.and_eq_true, bne_iff_ne, Bool.not_eq_true',
    Prod.exists, exists_eq_right, mem_range (call.order_perm _)]
  constructor
  · rintro ⟨record, ⟨⟨key, stored⟩, ⟨other, active⟩, differs⟩, rfl⟩
    rcases get_set_eq_some stored with ⟨-, rfl⟩ | ⟨-, stored⟩
    · exact absurd rfl other
    · have id : record.memoryID = key := keyed key record stored
      rw [id]
      exact ⟨record, stored, active, differs⟩
  · rintro ⟨record, stored, active, differs⟩
    have id : record.memoryID = memoryID := keyed memoryID record stored
    refine ⟨record, ⟨⟨memoryID, get_set_of_unused unused stored⟩, ⟨?_, active⟩, differs⟩, id⟩
    rw [id]
    exact ne_of_get unused stored

theorem Confirms.unused {space : MemorySpace} (sound : Sound m)
    (confirms : Confirms rt call m command space candidate)
    (apart : IdentifiersApart rt call m (.confirmProjectMemoryCandidate command)) :
    m.projectMemoryConflicts.get
      (memoryConflictID rt (m.confirmedMembers rt call command space candidate)) = none := by
  rw [Option.eq_none_iff_forall_ne_some]
  intro conflict stored
  have same := apart space confirms.owned.stored candidate confirms.stored conflict stored
  have mem : call.newID "memory" ∈ conflict.memoryIDs := by
    rw [same]
    exact (mem_confirmedMembers sound.records confirms.fresh).mpr (.inl rfl)
  obtain ⟨record, found, -⟩ := sound.members _ conflict stored _ mem
  cases confirms.fresh.symm.trans found

/-! ## A call keeps the invariant -/

theorem MemoryEffect.grown (effect : MemoryEffect rt call m op m') (sound : Sound m)
    (apart : IdentifiersApart rt call m op) :
    Into MemorySpace.Grown m.memorySpaces m'.memorySpaces := by
  have commits {space : MemorySpace} {tenantID ownerID spaceID : String}
      (owned : OwnsSpace m tenantID ownerID spaceID space) (now : Time) :
      Into MemorySpace.Grown m.memorySpaces
        (m.memorySpaces.set space.spaceID (space.committed now)) := by
    refine .set .refl fun stored found => ?_
    cases (owned.stored_own sound).symm.trans found
    exact .committed space now
  cases effect with
  | kept same =>
    rw [same.spaces]
    exact .refl .refl _
  | opened opens spaces =>
    rw [spaces]
    refine .insert .refl ?_ _
    rcases opens.absent with absent | ⟨command, rfl, tenant, owner, project, new⟩
    · exact absent
    · rw [Option.eq_none_iff_forall_ne_some]
      intro existing stored
      refine new _ existing stored (apart existing ?_)
      rw [Option.mem_def, ← stored, opens.identity, tenant, owner, project]
  | confirmed confirms spaces =>
    rw [spaces]
    exact commits confirms.owned _
  | revoked revokes spaces =>
    rw [spaces]
    exact commits revokes.owned _

/-- Records stay, with their space, their semantic key and what they say. -/
theorem MemoryEffect.follows (effect : MemoryEffect rt call m op m') (sound : Sound m) :
    Into ProjectMemoryRecord.Follows m.projectMemoryRecords m'.projectMemoryRecords := by
  cases effect with
  | kept same =>
    rw [same.records]
    exact .refl .refl _
  | opened _ _ records =>
    rw [records]
    exact .refl .refl _
  | confirmed confirms _ records =>
    rw [records]
    exact .insert .refl confirms.fresh _
  | @revoked command _ space record revokes _ records =>
    rw [records]
    refine .set .refl fun stored found => ?_
    rw [sound.records _ record revokes.stored, revokes.stored] at found
    cases found
    exact ⟨rfl, rfl, rfl, rfl, rfl⟩

/-- The conflict is the one that the confirmation opens. -/
structure Opened (rt : MemoryRuntime) (call : Call) (m : ProjectMemory)
    (command : ReviewMemoryCandidateCommand) (space : MemorySpace)
    (candidate : ProjectMemoryCandidate) (conflictID : String) (conflict : ProjectMemoryConflict) :
    Prop where
  key : conflictID = memoryConflictID rt (m.confirmedMembers rt call command space candidate)
  id : conflict.conflictID = conflictID
  home : conflict.spaceID = space.spaceID
  members : conflict.memoryIDs = m.confirmedMembers rt call command space candidate
  several : 1 < conflict.memoryIDs.length
  epoch : conflict.committedEpoch = space.memoryEpoch + 1
  dated : conflict.Dated (space.memoryEpoch + 1)

variable {conflictID : String}

theorem openConflict_cases (stored : (m.openConflict rt space.spaceID
      (confirmedRecord rt call command space candidate).current
      (m.confirmedMembers rt call command space candidate)
      (commandTime call command.now)).get conflictID = some conflict) :
    m.projectMemoryConflicts.get conflictID = some conflict ∨
      Opened rt call m command space candidate conflictID conflict := by
  unfold openConflict at stored
  split at stored
  · next several =>
    rcases get_set_eq_some stored with ⟨rfl, rfl⟩ | ⟨-, stored⟩
    · refine .inr ⟨rfl, rfl, rfl, rfl, several, rfl, le_rfl, fun _ => ⟨rfl, rfl, rfl⟩, ?_⟩
      intro resolvedEpoch resolved
      cases resolved
    · exact .inl stored
  · exact .inl stored

section Keeps

variable (sound : Sound m)

include sound

variable {record : ProjectMemoryRecord} {memoryID : String} {space : MemorySpace}

theorem Sound.history_into (grown : Into MemorySpace.Grown m.memorySpaces m'.memorySpaces)
    (stored : m.projectMemoryRecords.get memoryID = some record) :
    ∃ versions space, m.projectMemoryVersions.get memoryID = some versions ∧
      m'.memorySpaces.get record.spaceID = some space ∧
      record.History versions space.memoryEpoch := by
  obtain ⟨versions, space, held, home, history⟩ := sound.history memoryID record stored
  obtain ⟨space', home', grown⟩ := grown _ space home
  exact ⟨versions, space', held, home', { history with
    upTo := fun version mem => (history.upTo version mem).trans grown.epoch }⟩

theorem Sound.dated_into (grown : Into MemorySpace.Grown m.memorySpaces m'.memorySpaces)
    (stored : m.projectMemoryConflicts.get conflictID = some conflict) :
    ∃ space, m'.memorySpaces.get conflict.spaceID = some space ∧
      conflict.Dated space.memoryEpoch := by
  obtain ⟨space, home, dated⟩ := sound.dated conflictID conflict stored
  obtain ⟨space', home', grown⟩ := grown _ space home
  refine ⟨space', home', dated.committed.trans grown.epoch, dated.unresolved, fun epoch stored => ?_⟩
  obtain ⟨status, after, upTo⟩ := dated.resolved epoch stored
  exact ⟨status, after, upTo.trans grown.epoch⟩

theorem Sound.recorded_set (follows : Into ProjectMemoryRecord.Follows m.projectMemoryRecords
      m'.projectMemoryRecords) {written : String} {held : List ProjectMemoryVersion}
    (versions : m'.projectMemoryVersions = m.projectMemoryVersions.set written held)
    (present : m'.projectMemoryRecords.get written = some record)
    {found : List ProjectMemoryVersion}
    (stored : m'.projectMemoryVersions.get memoryID = some found) :
    ∃ record, m'.projectMemoryRecords.get memoryID = some record := by
  rw [versions] at stored
  rcases get_set_eq_some stored with ⟨rfl, -⟩ | ⟨-, stored⟩
  · exact ⟨record, present⟩
  · obtain ⟨earlier, present⟩ := sound.recorded memoryID found stored
    obtain ⟨later, present, -⟩ := follows memoryID earlier present
    exact ⟨later, present⟩

theorem Sound.of_grown (grown : Into MemorySpace.Grown m.memorySpaces m'.memorySpaces)
    (spaces : m'.memorySpaces.Keyed MemorySpace.spaceID)
    (records : m'.projectMemoryRecords = m.projectMemoryRecords)
    (versions : m'.projectMemoryVersions = m.projectMemoryVersions)
    (conflicts : m'.projectMemoryConflicts = m.projectMemoryConflicts) : Sound m' where
  spaces := spaces
  records := records ▸ sound.records
  conflicts := conflicts ▸ sound.conflicts
  recorded := by
    rw [records, versions]
    exact sound.recorded
  history memoryID record stored := by
    rw [records] at stored
    rw [versions]
    exact sound.history_into grown stored
  dated conflictID conflict stored := by
    rw [conflicts] at stored
    exact sound.dated_into grown stored
  members := by
    rw [records, conflicts]
    exact sound.members

theorem Sound.confirmed_history (grown : Into MemorySpace.Grown m.memorySpaces m'.memorySpaces)
    (spaces : m'.memorySpaces = m.memorySpaces.set space.spaceID
      (space.committed (commandTime call command.now)))
    (versions : m'.projectMemoryVersions = m.projectMemoryVersions.set (call.newID "memory")
      [(confirmedRecord rt call command space candidate).current])
    (stored : (m.projectMemoryRecords.set (call.newID "memory")
      (confirmedRecord rt call command space candidate)).get memoryID = some record) :
    ∃ versions space, m'.projectMemoryVersions.get memoryID = some versions ∧
      m'.memorySpaces.get record.spaceID = some space ∧
      record.History versions space.memoryEpoch := by
  rw [versions]
  rcases get_set_eq_some stored with ⟨rfl, rfl⟩ | ⟨other, stored⟩
  · refine ⟨_, space.committed (commandTime call command.now), get_set_self _ _ _, ?_, ?_⟩
    · rw [spaces]
      exact get_set_self _ _ _
    · refine ⟨⟨[], rfl⟩, rfl, ?_, ?_, List.pairwise_singleton _ _⟩
      · rintro version mem
        cases List.mem_singleton.mp mem
        exact ⟨rfl, rfl⟩
      · rintro version mem
        cases List.mem_singleton.mp mem
        exact le_rfl
  · rw [get_set_ne _ _ other]
    exact sound.history_into grown stored

theorem Sound.revoked_history {command : RevokeMemoryCommand}
    (revokes : Revokes m command space record)
    (grown : Into MemorySpace.Grown m.memorySpaces m'.memorySpaces)
    (spaces : m'.memorySpaces = m.memorySpaces.set space.spaceID
      (space.committed (commandTime call command.now)))
    (versions : m'.projectMemoryVersions = m.projectMemoryVersions.set record.memoryID
      ((m.projectMemoryVersions.get record.memoryID).getD [] ++
        [(revokedRecord rt call command space record).current])) {after : ProjectMemoryRecord}
    (stored : (m.projectMemoryRecords.set record.memoryID
      (revokedRecord rt call command space record)).get memoryID = some after) :
    ∃ versions space, m'.projectMemoryVersions.get memoryID = some versions ∧
      m'.memorySpaces.get after.spaceID = some space ∧
      after.History versions space.memoryEpoch := by
  rw [versions]
  rcases get_set_eq_some stored with ⟨rfl, rfl⟩ | ⟨other, stored⟩
  · have id : record.memoryID = command.memoryID := sound.records _ record revokes.stored
    obtain ⟨earlier, home, held, lives, history⟩ := sound.history _ record revokes.stored
    rw [revokes.inSpace, revokes.owned.stored] at lives
    cases lives
    rw [id, held]
    refine ⟨_, space.committed (commandTime call command.now), get_set_self _ _ _, ?_, ?_⟩
    · have here : record.spaceID = space.spaceID :=
        revokes.inSpace.trans (sound.spaces _ space revokes.owned.stored).symm
      rw [spaces]
      exact here ▸ get_set_self _ _ _
    · have current := history.own _ history.current_mem
      refine ⟨⟨earlier, rfl⟩, rfl, ?_, ?_, ?_⟩
      · intro version mem
        rcases List.mem_append.mp mem with mem | mem
        · exact history.own version mem
        · cases List.mem_singleton.mp mem
          exact current
      · intro version mem
        rcases List.mem_append.mp mem with mem | mem
        · exact (history.upTo version mem).trans (MemorySpace.Grown.committed space _).epoch
        · cases List.mem_singleton.mp mem
          exact le_rfl
      · refine List.pairwise_append.mpr ⟨history.increasing, List.pairwise_singleton _ _, ?_⟩
        intro version mem last isLast
        cases List.mem_singleton.mp isLast
        exact Int.lt_add_one_of_le (history.upTo version mem)
  · rw [get_set_ne _ _ other]
    exact sound.history_into grown stored

theorem Sound.revoked_conflict {command : RevokeMemoryCommand}
    (revokes : Revokes m command space record)
    (conflicts : ∀ conflictID, m'.projectMemoryConflicts.get conflictID =
      (m.projectMemoryConflicts.get conflictID).map (m'.resolveConflict record.memoryID
        (commandTime call command.now) (space.memoryEpoch + 1)))
    (stored : m'.projectMemoryConflicts.get conflictID = some conflict) :
    ∃ earlier, m.projectMemoryConflicts.get conflictID = some earlier ∧
      (conflict = earlier ∨ earlier.spaceID = space.spaceID ∧ record.memoryID ∈ earlier.memoryIDs ∧
        earlier.status = .opened ∧ (m'.activeMembers earlier).length ≤ 1 ∧ conflict = { earlier with
          status := .resolved, resolvedAt := some (commandTime call command.now)
          resolvedEpoch := some (space.memoryEpoch + 1)
          resolutionMemoryID := (m'.activeMembers earlier).headD earlier.resolutionMemoryID }) := by
  rw [conflicts] at stored
  obtain ⟨earlier, held, rfl⟩ := Option.map_eq_some_iff.mp stored
  refine ⟨earlier, held, ?_⟩
  dsimp only [resolveConflict]
  split
  · next ends =>
    obtain ⟨mem, opened, few⟩ := ends
    refine .inr ⟨?_, mem, opened, few, rfl⟩
    obtain ⟨member, present, inSpace⟩ := sound.members _ earlier held _ mem
    rw [sound.records _ record revokes.stored, revokes.stored] at present
    cases present
    exact (inSpace.symm.trans revokes.inSpace).trans
      (sound.spaces _ space revokes.owned.stored).symm
  · exact .inl rfl

end Keeps

theorem MemoryEffect.sound (effect : MemoryEffect rt call m op m') (sound : Sound m)
    (apart : IdentifiersApart rt call m op) : Sound m' := by
  have grown := effect.grown sound apart
  have follows := effect.follows sound
  cases effect with
  | kept same =>
    exact sound.of_grown grown (same.spaces ▸ sound.spaces) same.records same.versions
      same.conflicts
  | opened opens spaces records versions conflicts =>
    exact sound.of_grown grown (spaces ▸ sound.spaces.set rfl) records versions conflicts
  | @confirmed command _ space candidate confirms spaces records versions conflicts =>
    exact {
      spaces := spaces ▸ sound.spaces.set rfl
      records := records ▸ sound.records.set rfl
      conflicts := by
        intro conflictID conflict stored
        rw [conflicts] at stored
        rcases openConflict_cases stored with stored | new
        · exact sound.conflicts _ conflict stored
        · exact new.id
      recorded := fun memoryID held stored =>
        sound.recorded_set follows versions (records ▸ get_set_self _ _ _) stored
      history := fun memoryID record stored =>
        sound.confirmed_history grown spaces versions (records ▸ stored)
      dated := by
        intro conflictID conflict stored
        rw [conflicts] at stored
        rcases openConflict_cases stored with stored | new
        · exact sound.dated_into grown stored
        · refine ⟨space.committed (commandTime call command.now), ?_, new.dated⟩
          rw [spaces, new.home]
          exact get_set_self _ _ _
      members := by
        intro conflictID conflict stored memoryID mem
        rw [conflicts] at stored
        rcases openConflict_cases stored with stored | new
        · obtain ⟨record, present, same⟩ := sound.members _ conflict stored memoryID mem
          obtain ⟨later, present, follow⟩ := follows memoryID record present
          exact ⟨later, present, follow.space.trans same⟩
        · rw [new.members, mem_confirmedMembers sound.records confirms.fresh] at mem
          rcases mem with rfl | ⟨record, present, active, -⟩
          · exact ⟨_, records ▸ get_set_self _ _ _, new.home.symm⟩
          · obtain ⟨later, present, follow⟩ := follows memoryID record present
            simp only [ProjectMemoryRecord.activeFor, Bool.and_eq_true, beq_iff_eq] at active
            exact ⟨later, present, (follow.space.trans active.1.1).trans new.home.symm⟩ }
  | @revoked command _ space record revokes spaces records versions conflicts =>
    exact {
      spaces := spaces ▸ sound.spaces.set rfl
      records := records ▸ sound.records.set rfl
      conflicts := by
        intro conflictID conflict stored
        obtain ⟨earlier, held, same⟩ := sound.revoked_conflict revokes conflicts stored
        rcases same with rfl | ⟨-, -, -, -, rfl⟩
        · exact sound.conflicts _ _ held
        · exact sound.conflicts _ earlier held
      recorded := fun memoryID held stored =>
        sound.recorded_set follows versions (records ▸ get_set_self _ _ _) stored
      history := fun memoryID record stored =>
        sound.revoked_history revokes grown spaces versions (records ▸ stored)
      dated := by
        intro conflictID conflict stored
        obtain ⟨earlier, held, same⟩ := sound.revoked_conflict revokes conflicts stored
        rcases same with rfl | ⟨home, -, -, -, rfl⟩
        · exact sound.dated_into grown held
        · obtain ⟨old, lives, dated⟩ := sound.dated _ earlier held
          rw [home, revokes.owned.stored_own sound] at lives
          cases lives
          have upTo := Int.lt_add_one_of_le dated.committed
          refine ⟨space.committed (commandTime call command.now), ?_, upTo.le, ?_, ?_⟩
          · rw [spaces, home]
            exact get_set_self _ _ _
          · intro opened
            cases opened
          · intro resolvedEpoch resolved
            cases resolved
            exact ⟨rfl, upTo, le_rfl⟩
      members := by
        intro conflictID conflict stored memoryID mem
        obtain ⟨earlier, held, same⟩ := sound.revoked_conflict revokes conflicts stored
        have kept : conflict.memoryIDs = earlier.memoryIDs ∧ conflict.spaceID = earlier.spaceID := by
          rcases same with rfl | ⟨-, -, -, -, rfl⟩ <;> exact ⟨rfl, rfl⟩
        rw [kept.1] at mem
        obtain ⟨member, present, inSpace⟩ := sound.members _ earlier held memoryID mem
        obtain ⟨later, present, follow⟩ := follows memoryID member present
        exact ⟨later, present, (follow.space.trans inSpace).trans kept.2.symm⟩ }

end ProjectMemory

namespace ControlPlane

open ProjectMemory

variable {rt : MemoryRuntime} {s t : ControlPlane} {input : ControlInput}
  {events : List ControlEvent}

/-- Hashed identifiers of the call are apart. -/
abbrev Apart (rt : MemoryRuntime) (s : ControlPlane) (input : ControlInput) : Prop :=
  IdentifiersApart rt input.call s.memory input.op

theorem apply_sound (fresh : Fresh s input) (apart : Apart rt s input) (sound : Sound s.memory) :
    Sound (apply rt input s).1.memory :=
  (apply_memory fresh).sound sound apart

/-- A command of project memory does to the store what the store's stand-in for it does, and the spaces
stay with their owners. -/
theorem apply_standsIn (fresh : Fresh s input) (apart : Apart rt s input) (sound : Sound s.memory)
    (command : ∀ op, input.op ≠ .rollout op) :
    let stand : Op := .projectMemory (apply rt input s).1.memory.memorySpaces
    (apply rt input s).1.rollout = { s.rollout with
        store := (MemoryStore.apply rt.toRuntime ⟨input.call, stand⟩ s.rollout.store).1 } ∧
      MemoryStore.SpacesApart rt.toRuntime s.rollout.store stand := by
  refine ⟨?_, (apply_sound fresh apart sound).spaces, fun spaceID space stored => ?_⟩
  · obtain ⟨call, op⟩ := input
    cases op
    case rollout op => cases command op rfl
    all_goals rfl
  · obtain ⟨space', stored', grown⟩ := (apply_memory fresh).grown sound apart spaceID space stored
    exact ⟨space', stored', grown.tenant, grown.owner⟩

theorem newControlPlane_sound (policy : QueuePolicy) : Sound (newControlPlane policy).memory :=
  .empty

section

variable (run : ControlHistory rt (Apart rt) s events t) (sound : Sound s.memory)

include run sound

theorem sound_of_run : Sound t.memory :=
  run.invariant (I := fun s => Sound s.memory)
    (fun _ _ allowed sound => apply_sound allowed.1 allowed.2 sound) sound

theorem around_of_mem {event : ControlEvent} (mem : event ∈ events) : ∃ early late,
    ControlHistory rt (Apart rt) s early event.before ∧
      ControlHistory rt (Apart rt) event.after late t ∧ Sound event.after.memory := by
  obtain ⟨early, late, is, allowed, first, second⟩ := run.of_mem mem
  refine ⟨early, late, first, second, ?_⟩
  have after : event.after = (apply rt event.input event.before).1 := congrArg (·.after) is
  rw [after]
  exact apply_sound allowed.1 allowed.2 (sound_of_run first sound)

theorem follows_of_run :
    Into ProjectMemoryRecord.Follows s.memory.projectMemoryRecords t.memory.projectMemoryRecords :=
  run.relates (I := fun s => Sound s.memory)
    (R := fun s t => Into ProjectMemoryRecord.Follows s.memory.projectMemoryRecords
      t.memory.projectMemoryRecords)
    (fun _ => .refl .refl _) (fun first second => by exact .trans .trans first second)
    (fun _ _ allowed sound => apply_sound allowed.1 allowed.2 sound)
    (fun _ _ allowed sound => (apply_memory allowed.1).follows sound) sound

end

end ControlPlane

end PrdAgent.Runcontrol
