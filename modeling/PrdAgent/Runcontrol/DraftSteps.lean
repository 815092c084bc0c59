import PrdAgent.Runcontrol.UnitVersions

/-!
# What can happen to a draft

Tasks without an outline are reviewed by their drafts. `SubmitDraft` reads the confirmation units of a
draft (`ParsedUnits`) and stores one version for each of them; the owner then confirms and reopens
versions of the latest draft (`DraftOutcome`, `DraftDecided`).
-/

namespace PrdAgent.Runcontrol

open GoText AssocMap

/-! ## The units of a draft -/

/-- What `ParseConfirmationCandidates` makes sure of. -/
structure ParsedUnits (rt : Runtime) (candidates : List ConfirmationCandidate) : Prop where
  nodup : (candidates.map (·.unitKey)).Nodup
  named : ∀ candidate ∈ candidates, candidate.unitKey ≠ ""
  hashed : ∀ candidate ∈ candidates, candidate.contentHash = rt.hashText candidate.markdown
  dependencies : ∀ candidate ∈ candidates, ∀ dependency ∈ candidate.dependsOn,
    ∃ found ∈ candidates, found.unitKey = dependency

theorem normalizeCandidates_ok {rt : Runtime} {seen : List String}
    {given items : List ConfirmationCandidate} (ok : normalizeCandidates rt seen given = .ok items) :
    (items.map (·.unitKey)).Nodup ∧ ∀ item ∈ items, item.unitKey ∉ seen ∧ item.unitKey ≠ "" ∧
      item.contentHash = rt.hashText item.markdown := by
  induction given generalizing seen items with
  | nil =>
    cases ok
    exact ⟨.nil, nofun⟩
  | cons item rest ih =>
    dsimp only [normalizeCandidates] at ok
    repeat' split at ok
    all_goals cases ok
    next valid _ _ others normalized =>
    obtain ⟨nodup, each⟩ := ih normalized
    simp only [not_or] at valid
    refine ⟨List.nodup_cons.mpr ⟨fun mem => ?_, nodup⟩, fun other mem => ?_⟩
    · obtain ⟨other, mem, same⟩ := List.mem_map.mp mem
      exact (each other mem).1 (same ▸ (.head _))
    · rcases List.mem_cons.mp mem with rfl | mem
      · exact ⟨valid.2.2.2.2, valid.1, rfl⟩
      · obtain ⟨unseen, rest⟩ := each other mem
        exact ⟨fun seen => unseen (.tail _ seen), rest⟩

theorem parseConfirmationCandidates_ok {rt : Runtime} {patch : ByteArray} {taskID runID : String}
    {candidates : List ConfirmationCandidate}
    (ok : parseConfirmationCandidates rt patch taskID runID = .ok candidates) :
    ParsedUnits rt candidates := by
  have empty : ParsedUnits rt [] := ⟨.nil, nofun, nofun, nofun⟩
  unfold parseConfirmationCandidates at ok
  split at ok
  · cases ok
    exact empty
  split at ok
  · cases ok
    exact empty
  iterate 3
    split at ok
    · cases ok
  next items normalized =>
  split at ok
  · cases ok
  next present =>
  cases ok
  obtain ⟨nodup, each⟩ := normalizeCandidates_ok normalized
  refine ⟨nodup, fun item mem => (each item mem).2.1, fun item mem => (each item mem).2.2,
    fun item mem dependency needed => ?_⟩
  simp only [List.any_eq_true, decide_eq_true_eq, not_exists, not_and, not_not] at present
  exact List.mem_map.mp (present item mem dependency needed)

namespace MemoryStore

variable (rt : Runtime) (call : Call)

def draftVersionID (taskID draftID : String) (candidate : ConfirmationCandidate) : String :=
  "unit-version-" ++ rt.stableHash (joinKey draftID
    ("unit-" ++ rt.stableHash (joinKey taskID candidate.unitKey)))

def draftVersion (task : Task) (draftID : String) (scope : RevisionScope)
    (versions : GoMap MemoryConfirmationVersion) (candidate : ConfirmationCandidate) :
    MemoryConfirmationVersion := {
  taskID := task.taskID, taskVersion := task.version
  value := {
    unitID := "unit-" ++ rt.stableHash (joinKey task.taskID candidate.unitKey)
    unitVersionID := draftVersionID rt task.taskID draftID candidate, draftID := draftID
    unitKey := candidate.unitKey, title := candidate.title, ordinal := candidate.ordinal
    markdown := candidate.markdown, contentHash := candidate.contentHash
    claimIDs := candidate.claimIDs, unknownIDs := candidate.unknownIDs
    dependsOn := candidate.dependsOn
    confirmationStatus := draftUnitStatus scope candidate versions, createdAt := call.now } }

variable {rt call} {s : MemoryStore} {task : Task} {draftID : String} {scope : RevisionScope}
  {candidates : List ConfirmationCandidate} {versions : GoMap MemoryConfirmationVersion}

variable {version : MemoryConfirmationVersion} {key taskID : String}

theorem storeDraftUnits_get_of
    (stored : (storeDraftUnits rt call task draftID scope candidates versions).get key =
      some version) :
    versions.get key = some version ∨
      ∃ candidate ∈ candidates, ∃ seen, key = draftVersionID rt task.taskID draftID candidate ∧
        version = draftVersion rt call task draftID scope seen candidate := by
  induction candidates generalizing versions with
  | nil => exact .inl stored
  | cons candidate rest ih =>
    rcases ih stored with stored | ⟨candidate', mem, made⟩
    · rcases get_set_eq_some stored with ⟨rfl, rfl⟩ | ⟨-, stored⟩
      · exact .inr ⟨candidate, .head _, versions, rfl, rfl⟩
      · exact .inl stored
    · exact .inr ⟨candidate', .tail _ mem, made⟩

theorem draftUnitStatus_set
    (unused : versions.get key = none) (other : version.value.draftID ≠ scope.baseDraftID)
    (candidate : ConfirmationCandidate) :
    draftUnitStatus scope candidate (versions.set key version) =
      draftUnitStatus scope candidate versions := by
  unfold draftUnitStatus
  have same : ((versions.set key version).values.any fun prior =>
      prior.value.draftID == scope.baseDraftID && prior.value.unitKey == candidate.unitKey &&
        prior.value.contentHash == candidate.contentHash &&
        prior.value.confirmationStatus == .confirmed) =
      versions.values.any fun prior =>
        prior.value.draftID == scope.baseDraftID && prior.value.unitKey == candidate.unitKey &&
          prior.value.contentHash == candidate.contentHash &&
          prior.value.confirmationStatus == .confirmed := by
    rw [Bool.eq_iff_iff, any_values, any_values]
    constructor
    · rintro ⟨key', prior, stored, is⟩
      rcases get_set_eq_some stored with ⟨-, rfl⟩ | ⟨-, stored⟩
      · simp [other] at is
      · exact ⟨key', prior, stored, is⟩
    · rintro ⟨key', prior, stored, is⟩
      exact ⟨key', prior, get_set_of_unused unused stored, is⟩
  rw [same]

/-- When the identifiers of a draft's units are new and apart, the versions stored with the draft are
added to those there were. -/
theorem storeDraftUnits_get_iff_of_unclaimed (unused : ∀ candidate ∈ candidates,
      versions.get (draftVersionID rt task.taskID draftID candidate) = none)
    (apart : (candidates.map (draftVersionID rt task.taskID draftID)).Nodup)
    (base : draftID ≠ scope.baseDraftID) :
    (storeDraftUnits rt call task draftID scope candidates versions).get key = some version ↔
      versions.get key = some version ∨ ∃ candidate ∈ candidates,
        key = draftVersionID rt task.taskID draftID candidate ∧
        version = draftVersion rt call task draftID scope versions candidate := by
  induction candidates generalizing versions with
  | nil => simp [storeDraftUnits]
  | cons candidate rest ih =>
    have free := unused candidate (.head _)
    obtain ⟨first, others⟩ := List.nodup_cons.mp apart
    have away {other : ConfirmationCandidate} (mem : other ∈ rest) :
        draftVersionID rt task.taskID draftID other ≠
          draftVersionID rt task.taskID draftID candidate :=
      fun same => first (same ▸ List.mem_map_of_mem mem)
    have later : (storeDraftUnits rt call task draftID scope (candidate :: rest) versions) =
        storeDraftUnits rt call task draftID scope rest
          (versions.set (draftVersionID rt task.taskID draftID candidate)
            (draftVersion rt call task draftID scope versions candidate)) := rfl
    have status (other : ConfirmationCandidate) :
        draftVersion rt call task draftID scope (versions.set
          (draftVersionID rt task.taskID draftID candidate)
          (draftVersion rt call task draftID scope versions candidate)) other =
        draftVersion rt call task draftID scope versions other := by
      unfold draftVersion
      rw [draftUnitStatus_set free base]
    rw [later, ih (fun other mem => (get_set_ne _ _ (away mem)).trans
      (unused other (.tail _ mem))) others]
    simp only [status]
    constructor
    · rintro (stored | ⟨other, mem, is⟩)
      · rcases get_set_eq_some stored with ⟨rfl, rfl⟩ | ⟨-, stored⟩
        · exact .inr ⟨candidate, .head _, rfl, rfl⟩
        · exact .inl stored
      · exact .inr ⟨other, .tail _ mem, is⟩
    · rintro (stored | ⟨other, mem, rfl, rfl⟩)
      · exact .inl (get_set_of_unused free stored)
      · rcases List.mem_cons.mp mem with rfl | mem
        · exact .inl (get_set_self _ _ _)
        · exact .inr ⟨other, mem, rfl, rfl⟩

/-! ## Submitting a draft -/

/-- A draft passed the checks of `SubmitDraft`. -/
structure SubmitsDraft (rt : Runtime) (call : Call) (s : MemoryStore) (lease : LeaseContext)
    (draftKey : String) (expected : Int) (patch : ByteArray) (run : AgentRun) (task : Task)
    (candidates : List ConfirmationCandidate) : Prop where
  runStored : s.runs.get lease.runID = some run
  taskIs : task = (s.tasks.get run.taskID).getD {}
  unused : s.drafts.get (joinKey task.taskID draftKey) = none
  version : task.version = expected
  parsed : parseConfirmationCandidates rt patch task.taskID lease.runID = .ok candidates

def storeDraft (rt : Runtime) (call : Call) (s : MemoryStore) (lease : LeaseContext)
    (draftKey : String) (patch : ByteArray) (task : Task)
    (candidates : List ConfirmationCandidate) : MemoryStore :=
  let identity := joinKey task.taskID draftKey
  let updated := task.advanced task.status call.now
  { s with
    tasks := s.tasks.set task.taskID updated
    drafts := s.drafts.set identity {
      draftID := "draft-" ++ rt.stableHash identity, runID := lease.runID, draftKey := draftKey
      patchHash := rt.hashBytesHex patch, patch := patch, taskVersion := updated.version
      createdAt := call.now }
    confirmationVersions := storeDraftUnits rt call updated ("draft-" ++ rt.stableHash identity)
      ((s.revisionScopes.get lease.runID).getD {}) candidates s.confirmationVersions }

/-- A draft is refused or repeated without a write, or stored. -/
inductive DraftOutcome (rt : Runtime) (call : Call) (s : MemoryStore) (lease : LeaseContext)
    (draftKey : String) (expected : Int) (patch : ByteArray) : MemoryStore → Prop
  | kept : DraftOutcome rt call s lease draftKey expected patch s
  | stored {run : AgentRun} {task : Task} {candidates : List ConfirmationCandidate}
      (submits : SubmitsDraft rt call s lease draftKey expected patch run task candidates) :
      DraftOutcome rt call s lease draftKey expected patch
        (s.storeDraft rt call lease draftKey patch task candidates)

theorem submitDraft_outcome (lease : LeaseContext) (draftKey : String) (expected : Int)
    (patch : ByteArray) (s : MemoryStore) :
    DraftOutcome rt call s lease draftKey expected patch
      (submitDraft rt call lease draftKey expected patch s).1 := by
  dsimp only [submitDraft, fail]
  repeat' split
  all_goals try exact .kept
  next leased _ _ unused version _ _ parsed =>
  exact .stored ⟨(validateLeaseLocked_ok leased).1, rfl, unused, not_not.mp version, parsed⟩

/-! ## Deciding about a unit of a draft -/

/-- A decision names a version of the latest draft of its task. -/
structure DraftTarget (call : Call) (s : MemoryStore) (taskID unitVersionID : String) (task : Task)
    (version : MemoryConfirmationVersion) : Prop where
  taskStored : s.tasks.get taskID = some task
  stored : s.confirmationVersions.get unitVersionID = some version
  ofTask : version.taskID = taskID
  latest : version.value.draftID = s.latestDraftIDLocked call taskID

theorem validateConfirmationMutationLocked_target {tenantID ownerID unitVersionID : String}
    {expected : Int} {task : Task}
    (valid : s.validateConfirmationMutationLocked call tenantID ownerID taskID unitVersionID
      expected = .ok (task, version)) : DraftTarget call s taskID unitVersionID task version := by
  obtain ⟨taskStored, -, -, stored, ofTask, latest⟩ := validateConfirmationMutationLocked_ok valid
  exact ⟨taskStored, stored, ofTask, latest⟩

def OfDraft (taskID draftID : String) (version : MemoryConfirmationVersion) : Prop :=
  version.taskID = taskID ∧ version.value.draftID = draftID

def DraftConfirmed (versions : GoMap MemoryConfirmationVersion) (taskID draftID : String) : Prop :=
  ∀ key version, versions.get key = some version → OfDraft taskID draftID version →
    version.value.confirmationStatus = .confirmed

def ConfirmedKey (versions : GoMap MemoryConfirmationVersion) (taskID draftID unitKey : String) :
    Prop :=
  ∃ key version, versions.get key = some version ∧ OfDraft taskID draftID version ∧
    version.value.unitKey = unitKey ∧ version.value.confirmationStatus = .confirmed

def decided (version : MemoryConfirmationVersion) (status : UnitStatus) :
    MemoryConfirmationVersion :=
  { version with value := { version.value with confirmationStatus := status } }

/-- A decision about a unit of a draft is refused or repeated without a write, or carried out. -/
inductive DraftDecided (call : Call) (s : MemoryStore) (taskID : String) (t : MemoryStore) :
    UnitStatus → Prop
  | kept {status : UnitStatus} (same : t = s) : DraftDecided call s taskID t status
  | confirmed {unitVersionID : String} {task : Task} {version : MemoryConfirmationVersion}
      {status : TaskStatus} (target : DraftTarget call s taskID unitVersionID task version)
      (dependencies : ∀ dependency ∈ version.value.dependsOn,
        ConfirmedKey s.confirmationVersions taskID version.value.draftID dependency)
      (next : status = task.status ∨
        DraftConfirmed t.confirmationVersions taskID version.value.draftID)
      (tasks : t.tasks = s.tasks.set taskID (task.advanced status call.now))
      (versions : t.confirmationVersions =
        s.confirmationVersions.set unitVersionID (decided version .confirmed)) :
      DraftDecided call s taskID t .confirmed
  | reopened {unitVersionID : String} {task : Task} {version : MemoryConfirmationVersion}
      (target : DraftTarget call s taskID unitVersionID task version)
      (independent : ∀ key found, s.confirmationVersions.get key = some found →
        found.value.draftID = version.value.draftID → found.value.confirmationStatus = .confirmed →
        version.value.unitKey ∉ found.value.dependsOn)
      (tasks : t.tasks = s.tasks.set taskID (task.advanced .draft call.now))
      (versions : t.confirmationVersions =
        s.confirmationVersions.set unitVersionID (decided version .reopened)) :
      DraftDecided call s taskID t .reopened

theorem currentConfirmationByKeyLocked_some {draftID unitKey : String}
    (found : s.currentConfirmationByKeyLocked call taskID draftID unitKey = some version) :
    ∃ key, s.confirmationVersions.get key = some version ∧ OfDraft taskID draftID version ∧
      version.value.unitKey = unitKey := by
  unfold currentConfirmationByKeyLocked at found
  have mem := List.mem_of_find?_eq_some found
  have is := List.find?_some found
  simp only [Bool.and_eq_true, beq_iff_eq] at is
  obtain ⟨key, stored⟩ := mem_visitedVersions.mp mem
  exact ⟨key, stored, is.1, is.2⟩

theorem allCurrentUnitsConfirmedLocked_confirmed {draftID : String}
    (all : s.allCurrentUnitsConfirmedLocked taskID draftID = true) :
    DraftConfirmed s.confirmationVersions taskID draftID := by
  unfold allCurrentUnitsConfirmedLocked at all
  rw [Bool.and_eq_true, List.all_eq_true] at all
  intro key version stored ofDraft
  have mem : version ∈ s.confirmationVersions.values.filter fun version =>
      version.taskID == taskID && version.value.draftID == draftID := by
    rw [List.mem_filter, ofDraft.1, ofDraft.2]
    exact ⟨mem_values.mpr ⟨key, stored⟩, by simp⟩
  exact beq_iff_eq.mp (all.2 version mem)

theorem confirmConfirmationUnit_draft (tenantID ownerID taskID unitVersionID key : String)
    (expected : Int) (noOutline : s.reviewOutlines.get taskID = none) :
    DraftDecided call s taskID
      (confirmConfirmationUnit rt call tenantID ownerID taskID unitVersionID key expected s).1
      .confirmed := by
  dsimp only [confirmConfirmationUnit, confirmDraftUnitLocked, fail]
  split
  · split <;> exact .kept rfl
  rw [noOutline]
  dsimp only
  split
  · exact .kept rfl
  next task version valid =>
  split
  · exact .kept rfl
  next clear =>
  refine .confirmed (validateConfirmationMutationLocked_target valid) (fun dependency needed => ?_)
    ?_ rfl rfl
  · simp only [List.any_eq_true, bne_iff_ne, ne_eq, not_exists, not_and, not_not] at clear
    obtain ⟨found, is, confirmed⟩ := Option.map_eq_some_iff.mp (clear dependency needed)
    obtain ⟨key, stored, ofDraft, named⟩ := currentConfirmationByKeyLocked_some is
    exact ⟨key, found, stored, ofDraft, named, confirmed⟩
  · dsimp only
    split
    · next all => exact .inr (allCurrentUnitsConfirmedLocked_confirmed all)
    · exact .inl rfl

theorem reopenConfirmationUnit_draft
    (tenantID ownerID taskID unitVersionID feedback key : String) (expected : Int)
    (noOutline : s.reviewOutlines.get taskID = none) :
    DraftDecided call s taskID (reopenConfirmationUnit rt call tenantID ownerID taskID unitVersionID
      feedback key expected s).1 .reopened := by
  dsimp only [reopenConfirmationUnit, reopenDraftUnitLocked, fail]
  rw [noOutline]
  dsimp only
  repeat' split
  all_goals try exact .kept rfl
  next valid _ independent _ _ _ _ =>
  refine .reopened (validateConfirmationMutationLocked_target valid)
    (fun key found stored ofDraft confirmed => ?_) rfl rfl
  rw [Bool.not_eq_true, any_values_eq_false] at independent
  have free := independent key found stored
  rw [ofDraft, confirmed] at free
  simpa using free

end MemoryStore

end PrdAgent.Runcontrol
