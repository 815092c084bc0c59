import PrdAgent.Library.AtomicGroups
import PrdAgent.Runcontrol.MemoryConflicts

/-!
# Conflicts as groups of a search

A search returns the records of an open conflict together or not at all: what it selected of a
conflict only in part it takes out again. Taking out one conflict may split another one that shares
a record with it. If no call opens a conflict with a record of an open one (`OpensApart`), conflicts
that were open at one watermark have no records in common (`GroupsApart`).
-/

namespace PrdAgent.Runcontrol

open GoText AssocMap

/-- The conflict was resolved before the other was opened. -/
def ProjectMemoryConflict.Before (conflict other : ProjectMemoryConflict) : Prop :=
  ∃ resolvedEpoch, conflict.resolvedEpoch = some resolvedEpoch ∧
    resolvedEpoch ≤ other.committedEpoch

namespace ProjectMemory

section Definitions

variable (rt : MemoryRuntime) (m : ProjectMemory)

/-- The call opens no conflict with a record of an open one. -/
def OpensApart : ControlOp → Prop
  | .confirmProjectMemoryCandidate command =>
    ∀ space ∈ m.memorySpaces.get command.spaceID,
      ∀ candidate ∈ m.projectMemoryCandidates.get command.candidateID,
        ∀ record ∈ m.projectMemoryRecords.values,
          record.activeFor space.spaceID (candidateKey rt space.spaceID candidate) = true →
          memoryJSONEqual rt record.current.value candidate.value = false →
          ∀ conflict ∈ m.projectMemoryConflicts.values, conflict.status = .opened →
            record.memoryID ∉ conflict.memoryIDs
  | _ => True

instance : (op : ControlOp) → Decidable (OpensApart rt m op)
  | .confirmProjectMemoryCandidate _ => inferInstanceAs (Decidable
      (∀ space ∈ _, ∀ candidate ∈ _, ∀ record ∈ _, _ → _ → ∀ conflict ∈ _, _ → _))
  | .rollout _ | .createMemorySpace _ | .proposeProjectMemory _
  | .rejectProjectMemoryCandidate _ | .revokeProjectMemory _ => .isTrue trivial

/-- Conflicts with a record in common were not open at the same time. -/
def GroupsApart : Prop :=
  ∀ conflictID conflict otherID other,
    m.projectMemoryConflicts.get conflictID = some conflict →
    m.projectMemoryConflicts.get otherID = some other → conflictID ≠ otherID →
    conflict.memoryIDs.Disjoint other.memoryIDs ∨ conflict.Before other ∨ other.Before conflict

/-- The version of the record at the watermark is active. -/
def ActiveAt (watermark : Int) (memoryID : String) : Prop :=
  ∃ versions version, m.projectMemoryVersions.get memoryID = some versions ∧
    visibleAt watermark versions = some version ∧ version.status = .active

/-- No contradiction is shown one-sided: with a record, all active members of its open conflicts are
returned, and all members of the conflicts that are shown. -/
structure Balanced (spaceID : String) (watermark : Int) (returned : List String)
    (shown : List (List String)) : Prop where
  whole : ∀ memoryID ∈ returned, ∀ conflictID conflict,
    m.projectMemoryConflicts.get conflictID = some conflict →
    conflict.openAt spaceID watermark = true → memoryID ∈ conflict.memoryIDs →
    ∀ member ∈ conflict.memoryIDs, m.ActiveAt watermark member → member ∈ returned
  shown : ∀ members ∈ shown, ∀ member ∈ members, member ∈ returned

end Definitions

variable {rt : MemoryRuntime} {call : Call} {m m' : ProjectMemory} {op : ControlOp}

/-! ## Conflicts that are open together have no records in common -/

theorem GroupsApart.empty : GroupsApart {} := by
  intro conflictID conflict otherID other stored
  simp at stored

variable {conflict : ProjectMemoryConflict}

theorem Opened.apart {command : ReviewMemoryCandidateCommand} {space : MemorySpace}
    {candidate : ProjectMemoryCandidate} {conflictID otherID : String}
    {other : ProjectMemoryConflict} (sound : Sound m)
    (confirms : Confirms rt call m command space candidate)
    (opensApart : OpensApart rt m (.confirmProjectMemoryCandidate command))
    (new : Opened rt call m command space candidate conflictID conflict)
    (old : m.projectMemoryConflicts.get otherID = some other) :
    conflict.memoryIDs.Disjoint other.memoryIDs ∨ other.Before conflict := by
  by_cases disjoint : conflict.memoryIDs.Disjoint other.memoryIDs
  · exact .inl disjoint
  refine .inr ?_
  obtain ⟨memoryID, mem, shared⟩ : ∃ memoryID, memoryID ∈ conflict.memoryIDs ∧
      memoryID ∈ other.memoryIDs := by
    by_contra none
    exact disjoint fun memoryID mem shared => none ⟨memoryID, mem, shared⟩
  obtain ⟨record, stored, home⟩ := sound.members _ other old memoryID shared
  rw [new.members, mem_confirmedMembers sound.records confirms.fresh] at mem
  rcases mem with rfl | ⟨record', stored', active, differs⟩
  · cases confirms.fresh.symm.trans stored
  cases stored.symm.trans stored'
  have closed : other.status ≠ .opened := by
    intro opened
    refine opensApart space confirms.owned.stored candidate confirms.stored record
      (mem_values.mpr ⟨memoryID, stored⟩) active differs other
      (mem_values.mpr ⟨otherID, old⟩) opened ?_
    rw [sound.records _ record stored]
    exact shared
  obtain ⟨lives, found, dated⟩ := sound.dated _ other old
  rw [← home, (activeFor_iff.mp active).1, confirms.owned.stored_own sound] at found
  cases found
  cases resolved : other.resolvedEpoch with
  | none => exact absurd (dated.opened_iff.mpr resolved) closed
  | some resolvedEpoch =>
    refine ⟨resolvedEpoch, resolved, ?_⟩
    rw [new.epoch]
    exact ((dated.resolved _ resolved).2.2).trans (Int.le.intro 1 rfl)

theorem Sound.revoked_same (sound : Sound m) {command : RevokeMemoryCommand} {space : MemorySpace}
    {record : ProjectMemoryRecord} (revokes : Revokes m command space record)
    (conflicts : ∀ conflictID, m'.projectMemoryConflicts.get conflictID =
      (m.projectMemoryConflicts.get conflictID).map (m'.resolveConflict record.memoryID
        (commandTime call command.now) (space.memoryEpoch + 1))) {conflictID : String}
    (stored : m'.projectMemoryConflicts.get conflictID = some conflict) :
    ∃ earlier, m.projectMemoryConflicts.get conflictID = some earlier ∧
      conflict.memoryIDs = earlier.memoryIDs ∧ conflict.committedEpoch = earlier.committedEpoch ∧
      ∀ resolvedEpoch, earlier.resolvedEpoch = some resolvedEpoch →
        conflict.resolvedEpoch = some resolvedEpoch := by
  obtain ⟨earlier, held, same⟩ := sound.revoked_conflict revokes conflicts stored
  refine ⟨earlier, held, ?_⟩
  rcases same with rfl | ⟨-, -, opened, -, rfl⟩
  · exact ⟨rfl, rfl, fun _ resolved => resolved⟩
  · refine ⟨rfl, rfl, fun resolvedEpoch resolved => ?_⟩
    obtain ⟨_, _, dated⟩ := sound.dated _ earlier held
    cases (dated.opened_iff.mp opened).symm.trans resolved

theorem GroupsApart.next (apart : GroupsApart m) (sound : Sound m)
    (effect : MemoryEffect rt call m op m') (opensApart : OpensApart rt m op) : GroupsApart m' := by
  cases effect with
  | kept same =>
    unfold GroupsApart
    rw [same.conflicts]
    exact apart
  | opened _ _ _ _ conflicts =>
    unfold GroupsApart
    rw [conflicts]
    exact apart
  | confirmed confirms _ _ _ conflicts =>
    intro conflictID conflict otherID other stored stored' ne
    rw [conflicts] at stored stored'
    rcases openConflict_cases stored with old | new
    · rcases openConflict_cases stored' with old' | new'
      · exact apart conflictID conflict otherID other old old' ne
      · exact (new'.apart sound confirms opensApart old).imp
          (fun disjoint _ mem mem' => disjoint mem' mem) .inl
    · rcases openConflict_cases stored' with old' | new'
      · exact (new.apart sound confirms opensApart old').imp id .inr
      · exact absurd (new.key.trans new'.key.symm) ne
  | revoked revokes _ _ _ conflicts =>
    intro conflictID conflict otherID other stored stored' ne
    obtain ⟨earlier, held, members, epoch, resolved⟩ :=
      sound.revoked_same revokes conflicts stored
    obtain ⟨earlier', held', members', epoch', resolved'⟩ :=
      sound.revoked_same revokes conflicts stored'
    rw [members, members']
    refine (apart conflictID earlier otherID earlier' held held' ne).imp id (Or.imp ?_ ?_)
    · rintro ⟨resolvedEpoch, was, before⟩
      exact ⟨resolvedEpoch, resolved _ was, epoch' ▸ before⟩
    · rintro ⟨resolvedEpoch, was, before⟩
      exact ⟨resolvedEpoch, resolved' _ was, epoch ▸ before⟩

/-! ## A search returns conflicts whole -/

section Search

variable {request : ProjectMemorySearchRequest}

theorem not_openAt_of_before {other : ProjectMemoryConflict} {spaceID : String}
    {watermark : Int} (before : conflict.Before other)
    (shown : other.openAt spaceID watermark = true) : ¬ conflict.openAt spaceID watermark = true := by
  obtain ⟨resolvedEpoch, resolved, upTo⟩ := before
  simp only [ProjectMemoryConflict.openAt, Bool.and_eq_true, decide_eq_true_eq] at shown
  have reached : resolvedEpoch ≤ watermark := upTo.trans shown.1.2
  simp [ProjectMemoryConflict.openAt, resolved, reached]

theorem mem_openConflicts : conflict ∈ m.openConflicts call request ↔
      ∃ conflictID, m.projectMemoryConflicts.get conflictID = some conflict ∧
        conflict.openAt request.spaceID request.watermark = true := by
  simp only [openConflicts, List.mem_filter, List.mem_map, Prod.exists, exists_eq_right,
    mem_range (call.order_perm _), exists_and_right]

theorem GroupsApart.openConflicts (apart : GroupsApart m) :
    AtomicGroups.Apart ((m.openConflicts call request).map (·.memoryIDs)) := by
  intro group mem other mem' ne
  obtain ⟨conflict, listed, rfl⟩ := List.mem_map.mp mem
  obtain ⟨conflict', listed', rfl⟩ := List.mem_map.mp mem'
  obtain ⟨conflictID, stored, shown⟩ := mem_openConflicts.mp listed
  obtain ⟨otherID, stored', shown'⟩ := mem_openConflicts.mp listed'
  have different : conflictID ≠ otherID := by
    rintro rfl
    cases stored.symm.trans stored'
    exact ne rfl
  rcases apart conflictID conflict otherID conflict' stored stored' different with
    disjoint | before | after
  · exact disjoint
  · exact absurd shown (not_openAt_of_before before shown')
  · exact absurd shown' (not_openAt_of_before after shown)

/-- What is left of the selected versions are those in no conflict that was selected in part. -/
theorem returned_eq_prune (selected : List ProjectMemoryVersion)
    (conflicts : List ProjectMemoryConflict) : (selected.filter fun version => decide
        (version.memoryID ∉ removedIDs (selected.map (·.memoryID)) conflicts)).map (·.memoryID) =
      AtomicGroups.prune (conflicts.map (·.memoryIDs)) (selected.map (·.memoryID)) := by
  unfold AtomicGroups.prune AtomicGroups.without
  rw [List.filter_map]
  refine congrArg (List.map _) (List.filter_congr fun version mem => ?_)
  have listed : version.memoryID ∈ selected.map (·.memoryID) := List.mem_map_of_mem mem
  rw [Function.comp_apply, decide_eq_decide, not_iff_not]
  simp only [removedIDs, List.mem_flatMap, List.mem_filter, List.mem_flatten, List.mem_map]
  constructor
  · rintro ⟨conflict, ⟨mem, split⟩, member, -⟩
    exact ⟨conflict.memoryIDs, ⟨⟨conflict, mem, rfl⟩, split⟩, member⟩
  · rintro ⟨_, ⟨⟨conflict, mem, rfl⟩, split⟩, member⟩
    exact ⟨conflict, ⟨mem, split⟩, member, decide_eq_true (List.mem_map.mp listed)⟩

/-- The records of a search contain each conflict that was open at the watermark whole or not at
all. -/
theorem GroupsApart.intact (apart : GroupsApart m) (mem : conflict ∈ m.openConflicts call request) :
    AtomicGroups.Intact ((m.searchResult rt call request).records.map (·.memoryID))
      conflict.memoryIDs := by
  unfold searchResult
  dsimp only
  rw [returned_eq_prune]
  exact AtomicGroups.intact_prune apart.openConflicts (List.mem_map_of_mem mem)

theorem GroupsApart.returned (apart : GroupsApart m)
    (mem : conflict ∈ (m.searchResult rt call request).conflicts) :
    (∃ listed ∈ m.openConflicts call request, listed.memoryIDs = conflict.memoryIDs) ∧
      ∀ member ∈ conflict.memoryIDs,
        member ∈ (m.searchResult rt call request).records.map (·.memoryID) := by
  unfold searchResult at mem ⊢
  dsimp only at mem ⊢
  rw [returned_eq_prune]
  unfold wholeConflicts at mem
  rw [List.mem_insertionSort, List.mem_map] at mem
  obtain ⟨listed, kept, rfl⟩ := mem
  obtain ⟨listed_mem, whole⟩ := List.mem_filter.mp kept
  rw [ProjectMemoryConflict.seenAt_memoryIDs]
  refine ⟨⟨listed, listed_mem, rfl⟩, fun member belongs => ?_⟩
  simp only [ProjectMemoryConflict.whollyIn, Bool.and_eq_true, beq_iff_eq] at whole
  have all := AtomicGroups.present_eq_length.mp whole.2
  exact (AtomicGroups.mem_prune_of_intact apart.openConflicts (List.mem_map_of_mem listed_mem)
    (.inl all) belongs).mpr (all member belongs)

theorem seenAt_mem_conflicts {memoryID : String}
    (mem : conflict ∈ m.openConflicts call request) (member : memoryID ∈ conflict.memoryIDs)
    (all : ∀ member ∈ conflict.memoryIDs,
      member ∈ (m.searchResult rt call request).records.map (·.memoryID)) :
    conflict.seenAt request.watermark ∈ (m.searchResult rt call request).conflicts := by
  unfold searchResult at all ⊢
  dsimp only at all ⊢
  rw [returned_eq_prune] at all
  unfold wholeConflicts
  rw [List.mem_insertionSort]
  refine List.mem_map_of_mem (List.mem_filter.mpr ⟨mem, ?_⟩)
  have selected := fun member belongs => (AtomicGroups.mem_prune.mp (all member belongs)).1
  have whole := AtomicGroups.present_eq_length.mpr selected
  simp only [ProjectMemoryConflict.whollyIn, Bool.and_eq_true, beq_iff_eq, bne_iff_ne]
  refine ⟨fun none => ?_, whole⟩
  exact AtomicGroups.present_eq_zero.mp none memoryID member (selected memoryID member)

end Search

end ProjectMemory

namespace ControlPlane

open ProjectMemory

variable {rt : MemoryRuntime} {s : ControlPlane} {events : List ControlEvent}

/-- Hashed identifiers are apart, and no conflict is opened with a record of an open one. -/
abbrev Separate (rt : MemoryRuntime) (s : ControlPlane) (input : ControlInput) : Prop :=
  Apart rt s input ∧ OpensApart rt s.memory input.op

theorem groupsApart_of_run {policy : QueuePolicy}
    (history : ControlHistory rt (Separate rt) (newControlPlane policy) events s) :
    GroupsApart s.memory := by
  have kept : Sound s.memory ∧ GroupsApart s.memory := by
    refine history.invariant (I := fun s => Sound s.memory ∧ GroupsApart s.memory) ?_
      ⟨newControlPlane_sound policy, .empty⟩
    rintro s input ⟨fresh, apart, opensApart⟩ ⟨sound, groups⟩
    exact ⟨apply_sound fresh apart sound, groups.next sound (apply_memory fresh) opensApart⟩
  exact kept.2

end ControlPlane

end PrdAgent.Runcontrol
