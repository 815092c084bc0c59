import Mathlib.Data.List.Induction
import Mathlib.Data.Prod.Lex
import Mathlib.Data.String.Basic
import PrdAgent.Library.Latest
import PrdAgent.Runcontrol.MemoryRecords

/-!
# Searching at a watermark

A search sees of a record the version at the watermark (`viewAt`), and of a conflict that was open
there the state it had (`conflictAt`). Calls that come later commit beyond the watermark, so they
change neither (`SameUpTo`); but a record that is confirmed later counts as one without a visible
version.
-/

namespace PrdAgent.Runcontrol

open GoText AssocMap Transition

/-! ## What a search sees -/

/-- What a search sees of a conflict, if it was open at the watermark. -/
def ProjectMemoryConflict.shownAt (conflict : ProjectMemoryConflict) (spaceID : String)
    (watermark : Int) : Option ProjectMemoryConflict :=
  if conflict.openAt spaceID watermark then some (conflict.seenAt watermark) else none

namespace ProjectMemoryConflict

variable {conflict : ProjectMemoryConflict} {spaceID : String} {watermark : Int}

theorem shownAt_of_other (other : conflict.spaceID ≠ spaceID) :
    conflict.shownAt spaceID watermark = none := by
  simp [shownAt, openAt, other]

theorem shownAt_of_beyond (beyond : watermark < conflict.committedEpoch) :
    conflict.shownAt spaceID watermark = none := by
  simp [shownAt, openAt, not_le_of_gt beyond]

end ProjectMemoryConflict

namespace ProjectMemory

/-- What a search sees of a record: nothing if it is not one of the space, and its version at the
watermark otherwise. -/
def viewAt (spaceID : String) (watermark : Int) (m : ProjectMemory) (memoryID : String) :
    Option (Option ProjectMemoryVersion) :=
  (m.projectMemoryRecords.get memoryID).bind fun record =>
    if record.spaceID = spaceID then
      some (visibleAt watermark ((m.projectMemoryVersions.get memoryID).getD []))
    else none

def conflictAt (spaceID : String) (watermark : Int) (m : ProjectMemory) (conflictID : String) :
    Option ProjectMemoryConflict :=
  (m.projectMemoryConflicts.get conflictID).bind (·.shownAt spaceID watermark)

/-- A search at the watermark sees the same, but for records that have no version there. -/
structure SameUpTo (spaceID : String) (watermark : Int) (m m' : ProjectMemory) : Prop where
  records : ∀ memoryID, m'.viewAt spaceID watermark memoryID = m.viewAt spaceID watermark memoryID ∨
    m.viewAt spaceID watermark memoryID = none ∧ m'.viewAt spaceID watermark memoryID = some none
  conflicts : ∀ conflictID,
    m'.conflictAt spaceID watermark conflictID = m.conflictAt spaceID watermark conflictID

variable {rt : MemoryRuntime} {call call' : Call} {m m' m'' : ProjectMemory} {op : ControlOp}
  {spaceID : String} {watermark : Int}

theorem SameUpTo.refl (m : ProjectMemory) : SameUpTo spaceID watermark m m :=
  ⟨fun _ => .inl rfl, fun _ => rfl⟩

theorem SameUpTo.trans (first : SameUpTo spaceID watermark m m')
    (second : SameUpTo spaceID watermark m' m'') : SameUpTo spaceID watermark m m'' where
  records memoryID := by
    rcases first.records memoryID with same | ⟨absent, hidden⟩
    · rw [← same]
      exact second.records memoryID
    · rcases second.records memoryID with same | ⟨absent', -⟩
      · exact .inr ⟨absent, same.trans hidden⟩
      · cases hidden.symm.trans absent'
  conflicts conflictID := (second.conflicts conflictID).trans (first.conflicts conflictID)

/-! ## A call commits beyond the watermark -/

theorem visibleAt_append {later : List ProjectMemoryVersion} (versions : List ProjectMemoryVersion)
    (beyond : ∀ version ∈ later, watermark < version.committedEpoch) :
    visibleAt watermark (versions ++ later) = visibleAt watermark versions := by
  unfold visibleAt
  rw [List.foldl_append]
  generalize versions.foldl _ none = visible
  induction later with
  | nil => rfl
  | cons version rest ih =>
    have hidden := not_le_of_gt (beyond version (.head _))
    rw [List.foldl_cons, if_neg fun shown => hidden shown.1]
    exact ih fun version mem => beyond version (.tail _ mem)

theorem mem_of_visibleAt {versions : List ProjectMemoryVersion} {visible : ProjectMemoryVersion}
    (shown : visibleAt watermark versions = some visible) : visible ∈ versions := by
  induction versions using List.reverseRecOn with
  | nil => cases shown
  | append_singleton earlier version ih =>
    unfold visibleAt at shown
    rw [List.foldl_concat] at shown
    split at shown
    · cases shown
      exact List.mem_concat_self
    · exact List.mem_append_left _ (ih shown)

variable {memoryID : String}

theorem viewAt_eq_some_iff {visible : Option ProjectMemoryVersion} :
    m.viewAt spaceID watermark memoryID = some visible ↔
      ∃ record, m.projectMemoryRecords.get memoryID = some record ∧ record.spaceID = spaceID ∧
        visibleAt watermark ((m.projectMemoryVersions.get memoryID).getD []) = visible := by
  unfold viewAt
  rw [Option.bind_eq_some_iff]
  refine exists_congr fun record => and_congr_right fun _ => ?_
  split <;> simp [*]

theorem viewAt_congr
    (records : m'.projectMemoryRecords.get memoryID = m.projectMemoryRecords.get memoryID)
    (versions : m'.projectMemoryVersions.get memoryID = m.projectMemoryVersions.get memoryID) :
    m'.viewAt spaceID watermark memoryID = m.viewAt spaceID watermark memoryID := by
  unfold viewAt
  rw [records, versions]

variable {space : MemorySpace}

theorem viewAt_set {record : ProjectMemoryRecord} {version : ProjectMemoryVersion} {setID : String}
    (written : List ProjectMemoryVersion)
    (is : (m.projectMemoryVersions.get setID).getD [] = written)
    (records : m'.projectMemoryRecords = m.projectMemoryRecords.set setID record)
    (versions : m'.projectMemoryVersions =
      m.projectMemoryVersions.set setID (written ++ [version]))
    (beyond : record.spaceID = spaceID → watermark < version.committedEpoch)
    (before : m.projectMemoryRecords.get setID = none ∧ written = [] ∨
      ∃ earlier, m.projectMemoryRecords.get setID = some earlier ∧ earlier.spaceID = record.spaceID)
    (memoryID : String) :
    m'.viewAt spaceID watermark memoryID = m.viewAt spaceID watermark memoryID ∨
      m.viewAt spaceID watermark memoryID = none ∧
        m'.viewAt spaceID watermark memoryID = some none := by
  by_cases this : memoryID = setID
  · subst this
    have after : m'.viewAt spaceID watermark memoryID = if record.spaceID = spaceID then
        some (visibleAt watermark written) else none := by
      unfold viewAt
      rw [records, versions, get_set_self, get_set_self]
      refine ite_congr rfl (fun here => ?_) fun _ => rfl
      exact congrArg some (visibleAt_append _ (List.forall_mem_singleton.mpr (beyond here)))
    rcases before with ⟨absent, rfl⟩ | ⟨earlier, stored, home⟩
    · have before : m.viewAt spaceID watermark memoryID = none := by
        unfold viewAt
        rw [absent]
        rfl
      by_cases here : record.spaceID = spaceID
      · exact .inr ⟨before, after.trans (if_pos here)⟩
      · exact .inl ((after.trans (if_neg here)).trans before.symm)
    · refine .inl (after.trans ?_)
      unfold viewAt
      rw [stored, ← home, is]
      rfl
  · refine .inl (viewAt_congr ?_ ?_)
    · rw [records, get_set_ne _ _ this]
    · rw [versions, get_set_ne _ _ this]

theorem Confirms.sameConflicts {command : ReviewMemoryCandidateCommand}
    {candidate : ProjectMemoryCandidate} (confirms : Confirms rt call m command space candidate)
    (sound : Sound m) (apart : IdentifiersApart rt call m (.confirmProjectMemoryCandidate command))
    (within : space.spaceID = spaceID → watermark ≤ space.memoryEpoch)
    (conflicts : m'.projectMemoryConflicts = m.openConflict rt space.spaceID
      (confirmedRecord rt call command space candidate).current
      (m.confirmedMembers rt call command space candidate) (commandTime call command.now))
    (conflictID : String) :
    m'.conflictAt spaceID watermark conflictID = m.conflictAt spaceID watermark conflictID := by
  have unused := confirms.unused sound apart
  unfold conflictAt
  rw [conflicts]
  unfold openConflict
  split
  · by_cases new : conflictID =
        memoryConflictID rt (m.confirmedMembers rt call command space candidate)
    · rw [new, get_set_self, unused]
      by_cases here : space.spaceID = spaceID
      · exact ProjectMemoryConflict.shownAt_of_beyond (Int.lt_add_one_of_le (within here))
      · exact ProjectMemoryConflict.shownAt_of_other here
    · rw [get_set_ne _ _ new]
  · rfl

theorem Revokes.sameConflicts {command : RevokeMemoryCommand}
    {record : ProjectMemoryRecord} (revokes : Revokes m command space record) (sound : Sound m)
    (within : space.spaceID = spaceID → watermark ≤ space.memoryEpoch)
    (conflicts : ∀ conflictID, m'.projectMemoryConflicts.get conflictID =
      (m.projectMemoryConflicts.get conflictID).map (m'.resolveConflict record.memoryID
        (commandTime call command.now) (space.memoryEpoch + 1))) (conflictID : String) :
    m'.conflictAt spaceID watermark conflictID = m.conflictAt spaceID watermark conflictID := by
  unfold conflictAt
  cases stored : m'.projectMemoryConflicts.get conflictID with
  | none =>
    rw [conflicts, Option.map_eq_none_iff] at stored
    rw [stored]
  | some conflict =>
    obtain ⟨earlier, held, same⟩ := sound.revoked_conflict revokes conflicts stored
    rw [held]
    rcases same with rfl | ⟨home, -, opened, -, rfl⟩
    · rfl
    obtain ⟨_, _, dated⟩ := sound.dated _ earlier held
    by_cases here : space.spaceID = spaceID
    · -- one that is resolved beyond the watermark is shown as it was
      have beyond := Int.lt_add_one_iff.mpr (within here)
      generalize space.memoryEpoch + 1 = epoch at beyond ⊢
      have unresolved := dated.opened_iff.mp opened
      have blank := dated.unresolved unresolved
      obtain ⟨id, space, subject, predicate, memoryIDs, status, committed, resolution', createdAt,
        resolvedAt, resolvedEpoch⟩ := earlier
      dsimp only at unresolved blank
      obtain ⟨rfl, rfl, rfl⟩ := blank
      subst unresolved
      simp [ProjectMemoryConflict.shownAt, ProjectMemoryConflict.openAt, ProjectMemoryConflict.seenAt,
        beyond]
    · have other : earlier.spaceID ≠ spaceID := fun same => here (home.symm.trans same)
      have hidden : earlier.shownAt spaceID watermark = none :=
        ProjectMemoryConflict.shownAt_of_other other
      exact (ProjectMemoryConflict.shownAt_of_other (by exact other)).trans hidden.symm

/-- A call changes nothing up to a watermark within the epoch of the space. -/
theorem MemoryEffect.sameUpTo (effect : MemoryEffect rt call m op m') (sound : Sound m)
    (apart : IdentifiersApart rt call m op)
    (within : ∃ space, m.memorySpaces.get spaceID = some space ∧ watermark ≤ space.memoryEpoch) :
    SameUpTo spaceID watermark m m' := by
  obtain ⟨home, stored, within⟩ := within
  have reaches {space : MemorySpace} {tenantID ownerID id : String}
      (owned : OwnsSpace m tenantID ownerID id space) (here : space.spaceID = spaceID) :
      watermark ≤ space.memoryEpoch := by
    have found := owned.stored_own sound
    rw [here, stored] at found
    cases found
    exact within
  have untouched (records : m'.projectMemoryRecords = m.projectMemoryRecords)
      (versions : m'.projectMemoryVersions = m.projectMemoryVersions)
      (conflicts : m'.projectMemoryConflicts = m.projectMemoryConflicts) :
      SameUpTo spaceID watermark m m' :=
    ⟨fun _ => .inl (viewAt_congr (by rw [records]) (by rw [versions])), fun conflictID => by
      unfold conflictAt
      rw [conflicts]⟩
  cases effect with
  | kept same => exact untouched same.records same.versions same.conflicts
  | opened _ _ records versions conflicts => exact untouched records versions conflicts
  | confirmed confirms _ records versions conflicts =>
    have unwritten : m.projectMemoryVersions.get (call.newID "memory") = none := by
      rw [Option.eq_none_iff_forall_ne_some]
      intro versions written
      obtain ⟨record, stored⟩ := sound.recorded _ versions written
      cases confirms.fresh.symm.trans stored
    exact ⟨viewAt_set [] (by rw [unwritten]; rfl) records versions
        (fun here => Int.lt_add_one_of_le (reaches confirms.owned here))
        (.inl ⟨confirms.fresh, rfl⟩),
      confirms.sameConflicts sound apart (reaches confirms.owned) conflicts⟩
  | @revoked _ _ _ record revokes _ records versions conflicts =>
    have stored : m.projectMemoryRecords.get record.memoryID = some record := by
      rw [sound.records _ record revokes.stored]
      exact revokes.stored
    have home : record.spaceID = _ :=
      revokes.inSpace.trans (sound.spaces _ _ revokes.owned.stored).symm
    exact ⟨viewAt_set _ rfl records versions
        (fun here => Int.lt_add_one_of_le (reaches revokes.owned (home.symm.trans here)))
        (.inr ⟨record, stored, rfl⟩),
      revokes.sameConflicts sound (reaches revokes.owned) conflicts⟩

/-! ## The search depends on what it sees -/

section Search

variable (rt call)

def searchedIDs (spaceID : String) (m : ProjectMemory) : List String :=
  ((m.projectMemoryVersions.range call.order).filter fun entry =>
    ((m.projectMemoryRecords.get entry.1).map (·.spaceID)).getD "" == spaceID).map Prod.fst

variable {rt call} {request : ProjectMemorySearchRequest} {asOf : Time}

theorem searchedIDs_nodup (spaceID : String) (m : ProjectMemory) :
    (m.searchedIDs call spaceID).Nodup :=
  (range_keys_nodup (call.order_perm _)).sublist (List.filter_sublist.map _)

theorem Sound.viewAt_of_mem (sound : Sound m) {versions : List ProjectMemoryVersion}
    (stored : m.projectMemoryVersions.get memoryID = some versions)
    (here : ((m.projectMemoryRecords.get memoryID).map (·.spaceID)).getD "" = spaceID) :
    m.viewAt spaceID watermark memoryID = some (visibleAt watermark versions) := by
  obtain ⟨record, present⟩ := sound.recorded memoryID versions stored
  rw [present] at here
  unfold viewAt
  rw [present, stored]
  exact if_pos here

theorem Sound.mem_searchedIDs (sound : Sound m) (call : Call) (watermark : Int) :
    memoryID ∈ m.searchedIDs call spaceID ↔ ∃ visible, m.viewAt spaceID watermark memoryID =
      some visible := by
  simp only [searchedIDs, List.mem_map, List.mem_filter, beq_iff_eq, Prod.exists,
    mem_range (call.order_perm _)]
  constructor
  · rintro ⟨_, versions, ⟨stored, here⟩, rfl⟩
    exact ⟨_, sound.viewAt_of_mem stored here⟩
  · rintro ⟨visible, seen⟩
    obtain ⟨record, present, here, -⟩ := viewAt_eq_some_iff.mp seen
    obtain ⟨versions, -, stored, -⟩ := sound.history memoryID record present
    refine ⟨memoryID, versions, ⟨stored, ?_⟩, rfl⟩
    rw [present]
    exact here

theorem Sound.verdicts_eq (sound : Sound m) :
    m.verdicts rt call request asOf = (m.searchedIDs call request.spaceID).map fun memoryID =>
      judgeVisible rt request asOf (normalizedMemoryTerms rt (fields request.query ++ request.tags))
        (m.viewAt request.spaceID request.watermark memoryID).join := by
  unfold verdicts searchedIDs
  rw [List.map_map]
  refine List.map_congr_left fun entry mem => ?_
  obtain ⟨stored, here⟩ := List.mem_filter.mp mem
  rw [Function.comp_apply, sound.viewAt_of_mem ((mem_range (call.order_perm _)).mp stored)
    (beq_iff_eq.mp here)]
  rfl

theorem Sound.memoryID_of_viewAt (sound : Sound m) {visible : ProjectMemoryVersion}
    (seen : m.viewAt spaceID watermark memoryID = some (some visible)) :
    visible.memoryID = memoryID := by
  obtain ⟨record, present, -, shown⟩ := viewAt_eq_some_iff.mp seen
  obtain ⟨versions, _, stored, _, history⟩ := sound.history memoryID record present
  rw [stored] at shown
  rw [(history.own visible (mem_of_visibleAt shown)).1]
  exact sound.records memoryID record present

theorem Sound.ranked_unique (sound : Sound m) {left right : ProjectMemoryVersion × Int}
    (memLeft : left ∈ (m.verdicts rt call request asOf).filterMap Verdict.ranked?)
    (memRight : right ∈ (m.verdicts rt call request asOf).filterMap Verdict.ranked?)
    (same : left.1.memoryID = right.1.memoryID) : left = right := by
  have seen {pair : ProjectMemoryVersion × Int}
      (mem : pair ∈ (m.verdicts rt call request asOf).filterMap Verdict.ranked?) :
      (judgeVisible rt request asOf
        (normalizedMemoryTerms rt (fields request.query ++ request.tags))
        (m.viewAt request.spaceID request.watermark pair.1.memoryID).join).ranked? = some pair := by
    rw [sound.verdicts_eq, List.filterMap_map] at mem
    obtain ⟨memoryID, -, ranked⟩ := List.mem_filterMap.mp mem
    -- what is ranked is the visible version
    have shown : (m.viewAt request.spaceID request.watermark memoryID).join = some pair.1 := by
      dsimp only [Function.comp_apply] at ranked
      revert ranked
      cases (m.viewAt request.spaceID request.watermark memoryID).join with
      | none => nofun
      | some version =>
        simp only [judgeVisible]
        repeat' split
        all_goals intro ranked
        all_goals cases ranked
        all_goals rfl
    have id : pair.1.memoryID = memoryID := sound.memoryID_of_viewAt (Option.join_eq_some_iff.mp shown)
    rw [id]
    exact ranked
  exact Option.some.inj ((seen memLeft).symm.trans (same ▸ seen memRight))

/-! ### Conflicts -/

theorem mem_seenConflicts {conflict : ProjectMemoryConflict} :
    conflict ∈ (m.openConflicts call request).map (·.seenAt request.watermark) ↔
      ∃ conflictID, m.conflictAt request.spaceID request.watermark conflictID = some conflict := by
  simp only [openConflicts, List.mem_map, List.mem_filter, Prod.exists, exists_eq_right,
    mem_range (call.order_perm _), conflictAt, Option.bind_eq_some_iff,
    ProjectMemoryConflict.shownAt]
  constructor
  · rintro ⟨stored, ⟨⟨conflictID, held⟩, shown⟩, rfl⟩
    exact ⟨conflictID, stored, held, if_pos shown⟩
  · rintro ⟨conflictID, stored, held, shown⟩
    split at shown
    · next opened => exact ⟨stored, ⟨⟨conflictID, held⟩, opened⟩, Option.some.inj shown⟩
    · cases shown

theorem Sound.seenConflicts_nodup (sound : Sound m) (call : Call)
    (request : ProjectMemorySearchRequest) :
    (((m.openConflicts call request).map (·.seenAt request.watermark)).map
      (·.conflictID)).Nodup := by
  have ids : ((m.openConflicts call request).map (·.seenAt request.watermark)).map (·.conflictID) =
      (m.openConflicts call request).map (·.conflictID) := by
    rw [List.map_map]
    refine List.map_congr_left fun conflict _ => ?_
    dsimp only [Function.comp, ProjectMemoryConflict.seenAt]
    split <;> rfl
  rw [ids]
  exact (sound.conflicts.range_nodup (call.order_perm _)).sublist (List.filter_sublist.map _)

theorem mem_removedIDs_map_seenAt (selectedIDs : List String) (watermark : Int)
    (conflicts : List ProjectMemoryConflict) :
    memoryID ∈ removedIDs selectedIDs (conflicts.map (·.seenAt watermark)) ↔
      memoryID ∈ removedIDs selectedIDs conflicts := by
  simp [removedIDs, ProjectMemoryConflict.partlyIn, ProjectMemoryConflict.presentIn]

theorem wholeConflicts_eq (selectedIDs : List String) (watermark : Int)
    (conflicts : List ProjectMemoryConflict) : wholeConflicts selectedIDs watermark conflicts =
      ((conflicts.map (·.seenAt watermark)).filter (·.whollyIn selectedIDs)).insertionSort
        fun left right => left.conflictID ≤ right.conflictID := by
  unfold wholeConflicts
  rw [List.filter_map]
  refine congrArg (fun kept => (List.map _ kept).insertionSort _) ?_
  refine List.filter_congr fun conflict _ => ?_
  simp [ProjectMemoryConflict.whollyIn, ProjectMemoryConflict.presentIn]

theorem wholeConflicts_of_perm {selectedIDs : List String}
    {conflicts conflicts' : List ProjectMemoryConflict}
    (perm : (conflicts'.map (·.seenAt watermark)).Perm (conflicts.map (·.seenAt watermark)))
    (distinct : ((conflicts.map (·.seenAt watermark)).map (·.conflictID)).Nodup) :
    wholeConflicts selectedIDs watermark conflicts' =
      wholeConflicts selectedIDs watermark conflicts := by
  rw [wholeConflicts_eq, wholeConflicts_eq]
  generalize conflicts.map (·.seenAt watermark) = shown at perm distinct
  generalize conflicts'.map (·.seenAt watermark) = shown' at perm
  exact SortedBy.eq_of_perm ProjectMemoryConflict.conflictID (fun _ _ => Iff.rfl) (perm.filter _)
    fun left memLeft right memRight => List.inj_on_of_nodup_map distinct
      (List.mem_filter.mp memLeft).1 (List.mem_filter.mp memRight).1

/-! ### The same search later -/

section

variable (same : SameUpTo request.spaceID request.watermark m m') (sound : Sound m)
  (sound' : Sound m') (rt : MemoryRuntime) (call call' : Call)

include same sound sound'

/-- The verdicts later on: the same, and one exclusion for each record that is new. -/
theorem SameUpTo.verdicts_perm (asOf : Time) : ∃ added, (m'.searchedIDs call' request.spaceID).Perm
        (m.searchedIDs call request.spaceID ++ added) ∧ (m'.verdicts rt call' request asOf).Perm
        (m.verdicts rt call request asOf ++ List.replicate added.length .excluded) := by
  refine ⟨(m'.searchedIDs call' request.spaceID).filter
    (· ∉ m.searchedIDs call request.spaceID), ?_⟩
  generalize listed : (m'.searchedIDs call' request.spaceID).filter
    (· ∉ m.searchedIDs call request.spaceID) = added
  have mem_added {memoryID : String} : memoryID ∈ added ↔
      memoryID ∈ m'.searchedIDs call' request.spaceID ∧
        memoryID ∉ m.searchedIDs call request.spaceID := by
    rw [← listed, List.mem_filter, decide_eq_true_iff]
  have perm : (m'.searchedIDs call' request.spaceID).Perm
      (m.searchedIDs call request.spaceID ++ added) := by
    refine (List.perm_ext_iff_of_nodup (searchedIDs_nodup _ m') ?_).mpr fun memoryID => ?_
    · refine (searchedIDs_nodup _ m).append ?_ fun memoryID old new => (mem_added.mp new).2 old
      exact listed ▸ (searchedIDs_nodup _ m').filter _
    · rw [List.mem_append, mem_added, sound.mem_searchedIDs call request.watermark,
        sound'.mem_searchedIDs call' request.watermark]
      rcases same.records memoryID with same | ⟨absent, hidden⟩
      · rw [same]
        tauto
      · rw [absent, hidden]
        simp
  refine ⟨perm, ?_⟩
  rw [sound.verdicts_eq, sound'.verdicts_eq, ← List.map_const]
  refine (perm.map _).trans (List.Perm.of_eq ?_)
  rw [List.map_append]
  refine congrArg₂ _ (List.map_congr_left fun memoryID mem => ?_)
    (List.map_congr_left fun memoryID mem => ?_)
  · rcases same.records memoryID with same | ⟨absent, -⟩
    · rw [same]
    · obtain ⟨visible, seen⟩ := (sound.mem_searchedIDs call request.watermark).mp mem
      cases absent.symm.trans seen
  · obtain ⟨now, before⟩ := mem_added.mp mem
    rcases same.records memoryID with same | ⟨-, hidden⟩
    · rw [sound'.mem_searchedIDs call' request.watermark, same,
        ← sound.mem_searchedIDs call request.watermark] at now
      exact absurd now before
    · rw [hidden]
      rfl

theorem SameUpTo.selection_eq (asOf : Time) :
    selection request (m'.verdicts rt call' request asOf) =
      selection request (m.verdicts rt call request asOf) := by
  obtain ⟨added, -, perm⟩ := same.verdicts_perm sound sound' rt call call' asOf
  have ranked : ((m'.verdicts rt call' request asOf).filterMap Verdict.ranked?).Perm
      ((m.verdicts rt call request asOf).filterMap Verdict.ranked?) := by
    refine (perm.filterMap _).trans (List.Perm.of_eq ?_)
    rw [List.filterMap_append, List.filterMap_replicate]
    exact List.append_nil _
  unfold selection
  refine congrArg (fun sorted => (List.take _ sorted).map Prod.fst) ?_
  -- the ranking is by score, highest first, and then by identifier
  refine SortedBy.eq_of_perm (fun pair => toLex (OrderDual.toDual pair.2, pair.1.memoryID))
    (fun left right => ?_) ranked fun left memLeft right memRight same =>
      sound.ranked_unique memLeft memRight (congrArg Prod.snd (toLex_inj.mp same))
  unfold rankedBefore
  rw [Prod.Lex.toLex_le_toLex]
  split
  · next same => simp [same]
  · next ne => simp [ne]

theorem SameUpTo.seenConflicts_perm :
    ((m'.openConflicts call' request).map (·.seenAt request.watermark)).Perm
      ((m.openConflicts call request).map (·.seenAt request.watermark)) := by
  refine (List.perm_ext_iff_of_nodup (.of_map _ (sound'.seenConflicts_nodup call' request))
    (.of_map _ (sound.seenConflicts_nodup call request))).mpr fun conflict => ?_
  rw [mem_seenConflicts, mem_seenConflicts]
  exact exists_congr fun conflictID => by rw [same.conflicts]

/-- The result of a search later on: the same, but each record that is new counts as excluded. -/
theorem SameUpTo.searchResult_eq (timed : request.asOf ≠ 0) : ∃ added, (m'.searchedIDs call' request.spaceID).Perm
        (m.searchedIDs call request.spaceID ++ added) ∧ m'.searchResult rt call' request =
        { m.searchResult rt call request with
          excludedCount := (m.searchResult rt call request).excludedCount + added.length } := by
  have time (call : Call) : commandTime call request.asOf = request.asOf := if_neg timed
  obtain ⟨added, ids, perm⟩ := same.verdicts_perm sound sound' rt call call' request.asOf
  have selected := same.selection_eq sound sound' rt call call' request.asOf
  have seen := same.seenConflicts_perm sound sound' call call'
  refine ⟨added, ids, ?_⟩
  unfold searchResult
  dsimp only
  rw [time, time, selected]
  generalize selection request (m.verdicts rt call request request.asOf) = versions
  have kept : (versions.filter fun version => decide (version.memoryID ∉
      removedIDs (versions.map (·.memoryID)) (m'.openConflicts call' request))) =
      versions.filter fun version => decide (version.memoryID ∉
        removedIDs (versions.map (·.memoryID)) (m.openConflicts call request)) := by
    refine List.filter_congr fun version _ => ?_
    rw [decide_eq_decide, ← mem_removedIDs_map_seenAt _ request.watermark (m'.openConflicts _ _),
      ← mem_removedIDs_map_seenAt _ request.watermark (m.openConflicts _ _)]
    exact not_congr ((seen.filter _).flatMap_right _).mem_iff
  have excluded : (m'.verdicts rt call' request request.asOf).countP Verdict.isExcluded =
      (m.verdicts rt call request request.asOf).countP Verdict.isExcluded + added.length := by
    rw [perm.countP_eq, List.countP_append, List.countP_replicate]
    rfl
  rw [kept, wholeConflicts_of_perm seen (sound.seenConflicts_nodup call request), excluded]
  rw [Nat.add_right_comm]

end

/-- Why a request is refused when its watermark is within the epoch of the space. -/
def refusal (request : ProjectMemorySearchRequest) (tenantID ownerID : String) :
    Option StoreError :=
  if tenantID ≠ request.tenantID ∨ ownerID ≠ request.ownerID then some ⟨.notFound, ""⟩
  else if request.watermark < 0 ∨ request.memoryTypes.any (!·.valid) then
    some ⟨.invalidPayload, ""⟩
  else none

theorem searchProjectMemory_of_within (stored : m.memorySpaces.get request.spaceID = some space)
    (within : request.watermark ≤ space.memoryEpoch) : m.searchProjectMemory rt call request =
      match refusal request space.tenantID space.ownerID with
      | some err => .error err
      | none => .ok (m.searchResult rt call request) := by
  unfold searchProjectMemory ownedSpace refusal
  rw [stored]
  by_cases other : space.tenantID ≠ request.tenantID ∨ space.ownerID ≠ request.ownerID
  · simp only [if_pos other]
  · simp only [if_neg other, not_lt_of_ge within, or_false]
    by_cases negative : request.watermark < 0
    · simp only [negative, true_or, if_true]
    · simp only [negative, false_or, if_false]
      split <;> rfl

end Search

end ProjectMemory

/-! ## Later searches -/

namespace ControlPlane

open ProjectMemory

variable {rt : MemoryRuntime} {s t : ControlPlane} {events : List ControlEvent}
  {request : ProjectMemorySearchRequest} {spaceID : String} {watermark : Int}

def CreatesRecord (spaceID : String) (event : ControlEvent) : Prop :=
  ∃ memoryID record, event.before.memory.projectMemoryRecords.get memoryID = none ∧
    event.after.memory.projectMemoryRecords.get memoryID = some record ∧ record.spaceID = spaceID

/-- The watermark is within the epoch of the space. -/
def Within (spaceID : String) (watermark : Int) (s : ControlPlane) : Prop :=
  ∃ space ∈ s.memory.memorySpaces.get spaceID, watermark ≤ space.memoryEpoch

instance (spaceID : String) (watermark : Int) (s : ControlPlane) :
    Decidable (Within spaceID watermark s) :=
  inferInstanceAs (Decidable (∃ space ∈ _, _))

section

variable (run : ControlHistory rt (Apart rt) s events t)

include run

theorem grown_of_run (sound : Sound s.memory) :
    Into MemorySpace.Grown s.memory.memorySpaces t.memory.memorySpaces :=
  run.relates (I := fun s => Sound s.memory)
    (R := fun s t => Into MemorySpace.Grown s.memory.memorySpaces t.memory.memorySpaces)
    (fun _ => .refl .refl _) (fun first second => by exact .trans .trans first second)
    (fun _ _ allowed sound => apply_sound allowed.1 allowed.2 sound)
    (fun _ _ allowed sound => (apply_memory allowed.1).grown sound allowed.2) sound

/-- A run changes nothing up to a watermark within the epoch of the space. -/
theorem sameUpTo_of_run (sound : Sound s.memory)
    (within : Within spaceID watermark s) : SameUpTo spaceID watermark s.memory t.memory := by
  refine run.relates (I := fun s => Sound s.memory ∧ Within spaceID watermark s)
    (R := fun s t => SameUpTo spaceID watermark s.memory t.memory) (fun s => .refl s.memory)
    (fun first second => first.trans second) ?_ ?_ ⟨sound, within⟩
  · rintro s input ⟨fresh, apart⟩ ⟨sound, space, stored, within⟩
    obtain ⟨later, stored', grown⟩ := (apply_memory fresh).grown sound apart _ space stored
    exact ⟨apply_sound fresh apart sound, later, stored', within.trans grown.epoch⟩
  · rintro s input ⟨fresh, apart⟩ ⟨sound, within⟩
    exact (apply_memory fresh).sameUpTo sound apart within

theorem exists_new_iff (sound : Sound s.memory) :
    (∃ memoryID record, s.memory.projectMemoryRecords.get memoryID = none ∧
      t.memory.projectMemoryRecords.get memoryID = some record ∧ record.spaceID = spaceID) ↔
      ∃ event ∈ events, CreatesRecord spaceID event := by
  constructor
  · rintro ⟨memoryID, record, absent, stored, here⟩
    obtain ⟨event, mem, before, after⟩ := run.exists_change
      (P := fun s => s.memory.projectMemoryRecords.get memoryID ≠ none) (not_not.mpr absent)
      (by rw [stored]; nofun)
    obtain ⟨_, _, -, second, sound'⟩ := around_of_mem run sound mem
    obtain ⟨created, present⟩ := Option.ne_none_iff_exists'.mp after
    refine ⟨event, mem, memoryID, created, not_not.mp before, present, ?_⟩
    obtain ⟨later, found, follow⟩ := follows_of_run second sound' memoryID created present
    rw [stored] at found
    cases found
    exact follow.space.symm.trans here
  · rintro ⟨event, mem, memoryID, record, absent, stored, here⟩
    obtain ⟨_, _, first, second, sound'⟩ := around_of_mem run sound mem
    obtain ⟨later, found, follow⟩ := follows_of_run second sound' memoryID record stored
    refine ⟨memoryID, later, ?_, found, follow.space.trans here⟩
    rw [Option.eq_none_iff_forall_ne_some]
    intro earlier present
    obtain ⟨kept, found, -⟩ := follows_of_run first sound memoryID earlier present
    cases absent.symm.trans found

theorem added_eq_nil_iff (sound : Sound s.memory)
    (call call' : Call) {added : List String} (perm : (t.memory.searchedIDs call' spaceID).Perm
      (s.memory.searchedIDs call spaceID ++ added)) :
    added = [] ↔ ∀ event ∈ events, ¬ CreatesRecord spaceID event := by
  have sound' := sound_of_run run sound
  have listed {s : ControlPlane} (sound : Sound s.memory) (call : Call) {memoryID : String} :
      memoryID ∈ s.memory.searchedIDs call spaceID ↔ ∃ record,
        s.memory.projectMemoryRecords.get memoryID = some record ∧ record.spaceID = spaceID := by
    rw [sound.mem_searchedIDs call 0]
    simp only [viewAt_eq_some_iff]
    constructor
    · rintro ⟨_, record, stored, here, -⟩
      exact ⟨record, stored, here⟩
    · rintro ⟨record, stored, here⟩
      exact ⟨_, record, stored, here, rfl⟩
  have disjoint := (List.nodup_append'.mp (perm.nodup_iff.mp (searchedIDs_nodup spaceID _))).2.2
  have quiet : (∀ event ∈ events, ¬ CreatesRecord spaceID event) ↔
      ¬ ∃ event ∈ events, CreatesRecord spaceID event := by simp
  rw [quiet, ← exists_new_iff run sound]
  constructor
  · rintro rfl ⟨memoryID, record, absent, stored, here⟩
    have mem := perm.mem_iff.mp ((listed sound' call').mpr ⟨record, stored, here⟩)
    rw [List.append_nil, listed sound] at mem
    obtain ⟨earlier, present, -⟩ := mem
    cases absent.symm.trans present
  · intro none
    refine List.eq_nil_iff_forall_not_mem.mpr fun memoryID mem => none ?_
    obtain ⟨record, stored, here⟩ :=
      (listed sound' call').mp (perm.mem_iff.mpr (List.mem_append_right _ mem))
    refine ⟨memoryID, record, ?_, stored, here⟩
    rw [Option.eq_none_iff_forall_ne_some]
    intro earlier present
    obtain ⟨later, found, follow⟩ := follows_of_run run sound memoryID earlier present
    rw [stored] at found
    cases found
    exact disjoint ((listed sound call).mpr ⟨earlier, present, follow.space.symm.trans here⟩) mem

end

/-- A search at a watermark that was reached gives the same records, conflicts and hash after any
further calls, or the same error. The number of excluded records is the same just when no record of
the space was created in between. -/
theorem search_repeated {policy : QueuePolicy} {early late : List ControlEvent}
    (before : ControlHistory rt (Apart rt) (newControlPlane policy) early s)
    (after : ControlHistory rt (Apart rt) s late t) (timed : request.asOf ≠ 0)
    (within : Within request.spaceID request.watermark s) (call call' : Call) :
    (∀ result, s.memory.searchProjectMemory rt call request = .ok result →
      ∃ result', t.memory.searchProjectMemory rt call' request = .ok result' ∧
        result'.records = result.records ∧ result'.conflicts = result.conflicts ∧
        result'.sourceSetHash = result.sourceSetHash ∧
        (result' = result ↔ ∀ event ∈ late, ¬ CreatesRecord request.spaceID event)) ∧
    ∀ err, s.memory.searchProjectMemory rt call request = .error err →
      t.memory.searchProjectMemory rt call' request = .error err := by
  have sound := sound_of_run before (newControlPlane_sound policy)
  have sound' := sound_of_run after sound
  obtain ⟨added, perm, same⟩ :=
    (sameUpTo_of_run after sound within).searchResult_eq sound sound' rt call call' timed
  obtain ⟨space, stored, within⟩ := within
  obtain ⟨space', stored', grown⟩ := grown_of_run after sound _ space stored
  rw [searchProjectMemory_of_within stored within,
    searchProjectMemory_of_within stored' (within.trans grown.epoch), grown.tenant, grown.owner]
  cases refusal request space.tenantID space.ownerID with
  | some err => exact ⟨nofun, fun _ failed => failed⟩
  | none =>
    refine ⟨?_, nofun⟩
    rintro _ ⟨⟩
    refine ⟨_, rfl, ?_⟩
    rw [same]
    refine ⟨rfl, rfl, rfl, ?_⟩
    rw [← added_eq_nil_iff after sound call call' perm, ← List.length_eq_zero_iff]
    constructor
    · intro equal
      have counts := congrArg ProjectMemorySearchResult.excludedCount equal
      dsimp only at counts
      omega
    · intro none
      rw [none]
      rfl

def sampleSearch : ProjectMemorySearchRequest := {
  tenantID := "tenant", ownerID := "owner", spaceID := sampleSpaceID, watermark := 1, asOf := 9 }

def oneRemembered : List ControlInput := spaceCreated :: remembered "a1" 1 "one"

/-- A record that is confirmed later counts as excluded in a search at the earlier watermark. -/
theorem later_record_excluded : ∃ early s late t,
    ControlHistory plainMemory (Apart plainMemory) (newControlPlane MemoryStore.oneSlot) early s ∧
    ControlHistory plainMemory (Apart plainMemory) s late t ∧ sampleSearch.asOf ≠ 0 ∧
    Within sampleSearch.spaceID sampleSearch.watermark s ∧
    ((s.memory.searchProjectMemory plainMemory (.at 9 "a9") sampleSearch).toOption.map
      (·.excludedCount)) = some 0 ∧
    ((t.memory.searchProjectMemory plainMemory (.at 9 "a9") sampleSearch).toOption.map
      (·.excludedCount)) = some 1 := by
  simp only [exists_and_left]
  exact exists_runs oneRemembered (remembered "a2" 2 "two") (by decide +kernel)

/-- After its record was revoked, a search at the earlier watermark still finds it. -/
theorem search_repeated_revoked : ∃ early s late t result result',
    ControlHistory plainMemory (Apart plainMemory) (newControlPlane MemoryStore.oneSlot) early s ∧
    ControlHistory plainMemory (Apart plainMemory) s late t ∧
    s.memory.searchProjectMemory plainMemory (.at 9 "a9") sampleSearch = .ok result ∧
    t.memory.searchProjectMemory plainMemory (.at 9 "a8") sampleSearch = .ok result' ∧
    result.records.length = 1 ∧ result'.records = result.records ∧
    result'.sourceSetHash = result.sourceSetHash := by
  obtain ⟨early, s, before, late, within, result, ok, one⟩ : ∃ early s,
      ControlHistory plainMemory (Apart plainMemory) (newControlPlane MemoryStore.oneSlot) early s ∧
      AllowedFrom (apply plainMemory)
        (fun s input => Fresh s input ∧ Apart plainMemory s input) [forgotten "a1"] s ∧
      Within sampleSearch.spaceID sampleSearch.watermark s ∧
      ∃ result, s.memory.searchProjectMemory plainMemory (.at 9 "a9") sampleSearch = .ok result ∧
        result.records.length = 1 :=
    exists_run oneRemembered (by decide +kernel)
  have after : ControlHistory plainMemory (Apart plainMemory) _ _ _ := .ofInputs late
  obtain ⟨result', ok', records, -, hash, -⟩ := (search_repeated before after (by decide) within
    (.at 9 "a9") (.at 9 "a8")).1 result ok
  exact ⟨early, s, _, _, result, result', before, after, ok, ok', one, records, hash⟩

end ControlPlane

end PrdAgent.Runcontrol
