import PrdAgent.Runcontrol.RecallGroups

/-!
# The capability gateway's search of project memory

`Server.SearchProjectMemory` of the capability gateway asks the store on behalf of a run, checks the
sources of what comes back against the repository, and then goes through the returned conflicts: a
conflict that lost a member loses all of them.

The run that `authorizeRun` finds for the capability is a parameter, and so is what the repository
returns for a file.
-/

namespace PrdAgent.Capability

open GoText Runcontrol ProjectMemory AssocMap

/-- The codes of `google.golang.org/grpc/codes` that a search returns. -/
inductive Code
  | invalidArgument | unauthenticated | permissionDenied | failedPrecondition | internal
  | unavailable
deriving DecidableEq

structure Status where
  code : Code
  message : String
deriving DecidableEq

structure AgentRunInput where
  tenantID : String
  ownerID : String
  repositoryRevision : String := ""
  memorySpaceID : String
  memoryWatermark : Int
  memoryAssignmentHash : String
  memoryPolicyVersion : String
  memoryAccessScopeHash : String

structure Server where
  bindingID : String
  /-- `RepositoryManager.Read`: the content hash of the file at a revision and path. -/
  read : String → String → Option String

structure SearchProjectMemoryRequest where
  query : String
  operation : String
  memoryTypes : List ProjectMemoryType := []
  tags : List String := []
  limit : Int := 0

structure ProjectMemoryItem where
  memoryID : String
  version : Int
  memoryType : String
  subject : String
  predicate : String
  valueJSON : String
  statement : String
  authorityClass : String
  tags : List String
  sensitivity : String
  committedEpoch : Int
  contentHash : String
  sourceRefs : List MemorySourceRef

structure ConflictItem where
  conflictID : String
  subject : String
  predicate : String
  memoryIDs : List String

structure SearchProjectMemoryResponse where
  spaceID : String
  memoryWatermark : Int
  excludedCount : Nat
  records : List ProjectMemoryItem
  conflicts : List ConflictItem
  sourceSetHash : String

section Server

variable (rt : MemoryRuntime) (server : Server)

/-- The path of a source: its identifier, or else what the locator names before a `#`. -/
def sourcePath (ref : MemorySourceRef) : String :=
  let path := trimSpace ref.sourceID
  if path = "" then ofChars ((chars (trimSpace ref.locator)).takeWhile (· != '#')) else path

/-- The body of the loop of `revalidateProjectMemory`. -/
def revalidateSource (input : AgentRunInput) (ref : MemorySourceRef) : Bool :=
  if ref.accessScopeHash ≠ "" ∧ ref.accessScopeHash ≠ input.memoryAccessScopeHash then false
  else if rt.toUpper (trimSpace ref.sourceKind) ∈
      ["GITHUB", "GITHUB_REPOSITORY", "REPOSITORY_FILE"] then
    if ref.bindingID ≠ server.bindingID ∨ ref.sourceVersion ≠ input.repositoryRevision ∨
        ref.sourceVersion = "" then false
    else (server.read ref.sourceVersion (sourcePath ref)).any fun contentHash =>
      trimPrefix contentHash "sha256:" == trimPrefix ref.contentHash "sha256:"
  else false

def revalidateProjectMemory (input : AgentRunInput) (item : ProjectMemoryVersion) : Bool :=
  if item.authorityClass ≠ .sourceVerified then true
  else !item.sourceRefs.isEmpty && item.sourceRefs.all (revalidateSource rt server input)

def projectMemoryItem (item : ProjectMemoryVersion) : ProjectMemoryItem where
  memoryID := item.memoryID
  version := item.version
  memoryType := item.memoryType.text
  subject := item.subject
  predicate := item.predicate
  valueJSON := rt.jsonMarshal item.value
  statement := item.statement
  authorityClass := item.authorityClass.text
  tags := item.tags
  sensitivity := item.sensitivity
  committedEpoch := item.committedEpoch
  contentHash := item.contentHash
  sourceRefs := item.sourceRefs

/-- What the loop over the conflicts changes. -/
structure Recall where
  recordsByID : GoMap ProjectMemoryItem
  excludedCount : Nat
  conflicts : List ConflictItem := []

def Recall.delete (recalled : Recall) (memoryID : String) : Recall :=
  if (recalled.recordsByID.get memoryID).isSome then
    { recalled with
      recordsByID := recalled.recordsByID.del memoryID, excludedCount := recalled.excludedCount + 1 }
  else recalled

def Recall.visit (recalled : Recall) (item : ProjectMemoryConflict) : Recall :=
  let present := item.memoryIDs.countP fun memoryID => (recalled.recordsByID.get memoryID).isSome
  if present = 0 then recalled
  else if present ≠ item.memoryIDs.length then item.memoryIDs.foldl Recall.delete recalled
  else { recalled with conflicts := recalled.conflicts ++ [{
    conflictID := item.conflictID, subject := item.subject, predicate := item.predicate
    memoryIDs := item.memoryIDs }] }

/-- What `SourceSetHash` is the hash of. -/
def itemIdentity (record : ProjectMemoryItem) : String :=
  record.memoryID ++ "@" ++ itoa record.version ++ ":" ++ record.contentHash

def respond (input : AgentRunInput) (result : ProjectMemorySearchResult) :
    SearchProjectMemoryResponse :=
  let valid := result.records.filter (revalidateProjectMemory rt server input)
  let recordOrder := valid.map (·.memoryID)
  let recalled := result.conflicts.foldl Recall.visit {
    recordsByID := valid.foldl (fun records item =>
      records.set item.memoryID (projectMemoryItem rt item)) ∅
    excludedCount := result.excludedCount + (result.records.length - valid.length) }
  let records := recordOrder.filterMap recalled.recordsByID.get
  { spaceID := result.spaceID, memoryWatermark := result.memoryWatermark
    excludedCount := recalled.excludedCount, records := records, conflicts := recalled.conflicts
    sourceSetHash := "sha256:" ++ rt.sha256Hex (joinNul (records.map itemIdentity)).toUTF8 }

def storeRequest (input : AgentRunInput) (request : SearchProjectMemoryRequest) :
    ProjectMemorySearchRequest := {
  tenantID := input.tenantID, ownerID := input.ownerID, spaceID := input.memorySpaceID
  watermark := input.memoryWatermark, accessScopeHash := input.memoryAccessScopeHash
  query := request.query, memoryTypes := request.memoryTypes, tags := request.tags
  limit := request.limit }

def invalidPayloadText (err : StoreError) : String :=
  "invalid agent payload" ++ (if err.detail = "" then "" else ": " ++ err.detail)

def searchProjectMemory (call : Call) (authorized : Except Status AgentRunInput)
    (request : SearchProjectMemoryRequest) (store : ProjectMemory) :
    Except Status SearchProjectMemoryResponse :=
  if trimSpace request.query = "" ∨ trimSpace request.operation = "" then
    .error ⟨.invalidArgument, "memory query and operation are required"⟩
  else if request.limit < 0 ∨ 50 < request.limit then
    .error ⟨.invalidArgument, "memory search limit is invalid"⟩
  else
  match authorized with
  | .error status => .error status
  | .ok input =>
  if input.memorySpaceID = "" ∨ input.memoryAssignmentHash = "" ∨
      input.memoryPolicyVersion = "" ∨ input.memoryAccessScopeHash = "" ∨
      input.memoryWatermark < 0 then
    .error ⟨.failedPrecondition, "Agent Run has no memory assignment"⟩
  else if request.memoryTypes.any (!·.valid) then
    .error ⟨.invalidArgument, "unknown project memory type"⟩
  else
  match store.searchProjectMemory rt call (storeRequest input request) with
  | .error err =>
    if err.kind = .invalidPayload then .error ⟨.invalidArgument, invalidPayloadText err⟩
    else if err.kind = .notFound then
      .error ⟨.permissionDenied, "project memory space is not available to this run"⟩
    else .error ⟨.internal, "search project memory"⟩
  | .ok result => .ok (respond rt server input result)

end Server

/-! ## The pass over the conflicts -/

variable {rt : MemoryRuntime} {server : Server} {recalled : Recall} {kept : List String}

structure Recall.Holds (recalled : Recall) (kept : List String) : Prop where
  present : ∀ memoryID, (recalled.recordsByID.get memoryID).isSome = true ↔ memoryID ∈ kept
  keyed : recalled.recordsByID.Keyed ProjectMemoryItem.memoryID

namespace Recall.Holds

section

variable (holds : recalled.Holds kept)

include holds

theorem delete (memoryID : String) :
    (recalled.delete memoryID).Holds (AtomicGroups.without kept [memoryID]) := by
  unfold Recall.delete
  split
  · refine ⟨fun other => ?_, fun key record stored => ?_⟩
    · rw [AtomicGroups.mem_without, List.mem_singleton, ← holds.present, get_del]
      by_cases same : other = memoryID <;> simp [same]
    · exact holds.keyed key record (get_del_eq_some stored).2
  · next absent =>
    refine ⟨fun other => ?_, holds.keyed⟩
    rw [holds.present, AtomicGroups.mem_without, List.mem_singleton]
    refine (and_iff_left_of_imp fun mem same => absent ?_).symm
    exact (holds.present memoryID).mpr (same ▸ mem)

theorem foldl_delete (dropped : List String) :
    (dropped.foldl Recall.delete recalled).Holds (AtomicGroups.without kept dropped) := by
  induction dropped generalizing recalled kept with
  | nil =>
    refine ⟨fun memoryID => ?_, holds.keyed⟩
    rw [AtomicGroups.mem_without, List.foldl_nil, holds.present]
    simp
  | cons first rest ih =>
    obtain ⟨present, keyed⟩ := ih (holds.delete first)
    refine ⟨fun memoryID => ?_, keyed⟩
    rw [List.foldl_cons, present]
    simp only [AtomicGroups.mem_without, List.mem_cons, List.not_mem_nil, or_false, not_or,
      and_assoc]

theorem countP_eq (group : List String) :
    group.countP (fun memoryID => (recalled.recordsByID.get memoryID).isSome) =
      AtomicGroups.present kept group := by
  refine List.countP_congr fun memoryID _ => ?_
  rw [holds.present, decide_eq_true_iff]

theorem visit (item : ProjectMemoryConflict) :
    (recalled.visit item).Holds (if AtomicGroups.isSplit kept item.memoryIDs then
      AtomicGroups.without kept item.memoryIDs else kept) := by
  unfold Recall.visit AtomicGroups.isSplit
  rw [holds.countP_eq]
  dsimp only
  split
  · next none =>
    rw [none]
    exact holds
  next some =>
  split
  · next part =>
    rw [if_pos (by simp [some, part])]
    exact holds.foldl_delete item.memoryIDs
  · next whole =>
    rw [if_neg (by simp [not_not.mp whole])]
    exact ⟨holds.present, holds.keyed⟩

theorem foldl_visit (conflicts : List ProjectMemoryConflict) :
    (conflicts.foldl Recall.visit recalled).Holds
      (AtomicGroups.sweep (conflicts.map (·.memoryIDs)) kept) := by
  unfold AtomicGroups.sweep
  rw [List.foldl_map]
  induction conflicts generalizing recalled kept with
  | nil => exact holds
  | cons first rest ih => exact ih (holds.visit first)

end

theorem foldl_delete_conflicts (recalled : Recall) (dropped : List String) :
    (dropped.foldl Recall.delete recalled).conflicts = recalled.conflicts := by
  induction dropped generalizing recalled with
  | nil => rfl
  | cons first rest ih =>
    rw [List.foldl_cons, ih]
    unfold Recall.delete
    split <;> rfl

theorem visit_conflicts (holds : recalled.Holds kept) {item : ProjectMemoryConflict}
    {shown : ConflictItem} (mem : shown ∈ (recalled.visit item).conflicts) :
    shown ∈ recalled.conflicts ∨ shown.memoryIDs = item.memoryIDs ∧
      ∀ member ∈ item.memoryIDs, member ∈ kept := by
  unfold Recall.visit at mem
  rw [holds.countP_eq] at mem
  dsimp only at mem
  split at mem
  · exact .inl mem
  split at mem
  · rw [foldl_delete_conflicts] at mem
    exact .inl mem
  · next whole =>
    rcases List.mem_append.mp mem with mem | mem
    · exact .inl mem
    · cases List.mem_singleton.mp mem
      exact .inr ⟨rfl, AtomicGroups.present_eq_length.mp (not_not.mp whole)⟩

theorem mem_conflicts (holds : recalled.Holds kept) {conflicts : List ProjectMemoryConflict}
    (apart : AtomicGroups.Apart (conflicts.map (·.memoryIDs))) {shown : ConflictItem}
    (mem : shown ∈ (conflicts.foldl Recall.visit recalled).conflicts) :
    shown ∈ recalled.conflicts ∨
      ∀ member ∈ shown.memoryIDs,
        member ∈ AtomicGroups.sweep (conflicts.map (·.memoryIDs)) kept := by
  induction conflicts generalizing recalled kept with
  | nil => exact .inl mem
  | cons first rest ih =>
    have apart' : AtomicGroups.Apart (rest.map (·.memoryIDs)) :=
      apart.of_subset fun group mem => .tail _ mem
    rcases ih (holds.visit first) apart' mem with added | all
    · refine (holds.visit_conflicts added).imp id fun ⟨same, all⟩ member belongs => ?_
      rw [same] at belongs
      have intact : AtomicGroups.Intact kept first.memoryIDs := .inl all
      have others := fun other mem => apart first.memoryIDs (.head _) other
        (.tail _ mem)
      have next := AtomicGroups.mem_sweep_of_intact others intact belongs
      unfold AtomicGroups.sweep at next ⊢
      rw [List.map_cons, List.foldl_cons, AtomicGroups.isSplit_eq_false.mpr intact]
      exact next.mpr (all member belongs)
    · exact .inr all

end Recall.Holds

theorem holds_valid (rt : MemoryRuntime) (valid : List ProjectMemoryVersion) (excludedCount : Nat) :
    Recall.Holds {
      recordsByID := valid.foldl (fun records item =>
        records.set item.memoryID (projectMemoryItem rt item)) ∅
      excludedCount := excludedCount } (valid.map (·.memoryID)) :=
  ⟨fun _ => isSome_addAll.trans (by simp), forall_addAll fun _ _ => rfl⟩

theorem mem_respond_records {input : AgentRunInput} {result : ProjectMemorySearchResult}
    {memoryID : String} :
    memoryID ∈ (respond rt server input result).records.map (·.memoryID) ↔
      memoryID ∈ AtomicGroups.sweep (result.conflicts.map (·.memoryIDs))
        ((result.records.filter (revalidateProjectMemory rt server input)).map (·.memoryID)) := by
  unfold respond
  dsimp only
  generalize result.records.filter (revalidateProjectMemory rt server input) = valid
  obtain ⟨present, keyed⟩ := (holds_valid rt valid
    (result.excludedCount + (result.records.length - valid.length))).foldl_visit result.conflicts
  generalize result.conflicts.foldl Recall.visit _ = recalled at present keyed
  rw [← present]
  simp only [List.mem_map, List.mem_filterMap]
  constructor
  · rintro ⟨record, ⟨_, _, stored⟩, rfl⟩
    rw [keyed _ record stored, stored]
    rfl
  · intro there
    obtain ⟨record, stored⟩ := Option.isSome_iff_exists.mp there
    have listed := AtomicGroups.sweep_subset _ _ ((present memoryID).mp there)
    exact ⟨record, ⟨memoryID, List.mem_map.mp listed, stored⟩, keyed _ record stored⟩

/-- A response shows no contradiction one-sided, whatever the order of the conflicts. -/
theorem respond_balanced {m : ProjectMemory} {call : Call} {request : ProjectMemorySearchRequest}
    (apart : GroupsApart m) (server : Server) (input : AgentRunInput)
    {conflicts : List ProjectMemoryConflict}
    (perm : conflicts.Perm (m.searchResult rt call request).conflicts) :
    m.Balanced request.spaceID request.watermark
      ((respond rt server input { m.searchResult rt call request with
        conflicts := conflicts }).records.map (·.memoryID))
      ((respond rt server input { m.searchResult rt call request with
        conflicts := conflicts }).conflicts.map (·.memoryIDs)) := by
  -- the groups of the pass are conflicts that were open at the watermark
  have groups : AtomicGroups.Apart (conflicts.map (·.memoryIDs)) := by
    have opened : AtomicGroups.Apart ((m.openConflicts call request).map (·.memoryIDs)) :=
      apart.openConflicts
    refine opened.of_subset fun group mem => ?_
    obtain ⟨conflict, listed, rfl⟩ := List.mem_map.mp mem
    obtain ⟨⟨shown, mem, same⟩, -⟩ := apart.returned (perm.mem_iff.mp listed)
    exact List.mem_map.mpr ⟨shown, mem, same⟩
  constructor
  · intro memoryID returned conflictID conflict stored shown belongs member mem _
    rw [mem_respond_records] at returned ⊢
    dsimp only at returned ⊢
    have listed : conflict ∈ m.openConflicts call request :=
      mem_openConflicts.mpr ⟨conflictID, stored, shown⟩
    obtain ⟨version, valid, id⟩ := List.mem_map.mp (AtomicGroups.sweep_subset _ _ returned)
    have found : memoryID ∈ (m.searchResult rt call request).records.map (·.memoryID) :=
      List.mem_map.mpr ⟨version, (List.mem_filter.mp valid).1, id⟩
    rcases apart.intact listed with all | none
    · have kept := perm.mem_iff.mpr (seenAt_mem_conflicts listed belongs all)
      have group : conflict.memoryIDs ∈ conflicts.map (·.memoryIDs) :=
        List.mem_map.mpr ⟨_, kept, conflict.seenAt_memoryIDs _⟩
      rcases AtomicGroups.intact_sweep groups group with all | none
      · exact all member mem
      · exact absurd returned (none memoryID belongs)
    · exact absurd found (none memoryID belongs)
  · intro members mem member belongs
    obtain ⟨shown, listed, rfl⟩ := List.mem_map.mp mem
    rw [mem_respond_records]
    dsimp only
    exact ((holds_valid rt _ _).mem_conflicts groups listed).resolve_left List.not_mem_nil member
      belongs

/-- No search and no response of the gateway shows a contradiction one-sided. -/
theorem recall_balanced {policy : QueuePolicy} {events : List ControlEvent} {s : ControlPlane}
    (history : ControlPlane.ControlHistory rt (ControlPlane.Separate rt) (newControlPlane policy)
      events s) (call : Call) :
    (∀ request result, s.memory.searchProjectMemory rt call request = .ok result →
      s.memory.Balanced request.spaceID request.watermark (result.records.map (·.memoryID))
        (result.conflicts.map (·.memoryIDs)) ∧
      ∀ server input conflicts, conflicts.Perm result.conflicts →
        let response := respond rt server input { result with conflicts := conflicts }
        s.memory.Balanced request.spaceID request.watermark (response.records.map (·.memoryID))
          (response.conflicts.map (·.memoryIDs))) ∧
    ∀ server authorized request response,
      searchProjectMemory rt server call authorized request s.memory = .ok response →
      ∃ input, authorized = .ok input ∧
        s.memory.Balanced input.memorySpaceID input.memoryWatermark
          (response.records.map (·.memoryID)) (response.conflicts.map (·.memoryIDs)) := by
  have apart := ControlPlane.groupsApart_of_run history
  refine ⟨fun request result ok => ?_, fun server authorized request response ok => ?_⟩
  · cases searchProjectMemory_ok ok
    refine ⟨⟨fun memoryID returned conflictID conflict stored shown belongs member mem _ => ?_,
      fun members mem => ?_⟩, fun server input conflicts perm =>
        respond_balanced apart server input perm⟩
    · rcases apart.intact (ProjectMemory.mem_openConflicts.mpr ⟨conflictID, stored, shown⟩) with
        all | none
      · exact all member mem
      · exact absurd returned (none memoryID belongs)
    · obtain ⟨conflict, returned, rfl⟩ := List.mem_map.mp mem
      exact (apart.returned returned).2
  · unfold searchProjectMemory at ok
    repeat' split at ok
    all_goals cases ok
    next input _ _ _ result found =>
    refine ⟨input, rfl, ?_⟩
    cases searchProjectMemory_ok found
    exact respond_balanced apart server input
      (List.Perm.refl (s.memory.searchResult rt call (storeRequest input request)).conflicts)

open ControlPlane in
/-- The first and the third record have one value, the second another: it is in conflict with both,
in two conflicts. -/
def twoConflicts : List ControlInput := spaceCreated :: remembered "a1" 1 "one" ++
  remembered "a2" 2 "two" ++ remembered "a3" 1 "three"

def firstTwo : ProjectMemorySearchRequest := {
  tenantID := "tenant", ownerID := "owner", spaceID := ControlPlane.sampleSpaceID, watermark := 3
  limit := 2, asOf := 9 }

open ControlPlane in
/-- The first record is returned and its conflict with the second is shown, without the second. -/
theorem contradiction_one_sided : ∃ events s result conflictID conflict,
    ControlHistory plainMemory (Apart plainMemory) (newControlPlane MemoryStore.oneSlot) events s ∧
    s.memory.searchProjectMemory plainMemory (.at 9 "a9") firstTwo = .ok result ∧
    s.memory.projectMemoryConflicts.get conflictID = some conflict ∧
    conflict.openAt firstTwo.spaceID firstTwo.watermark = true ∧
    conflict.memoryIDs = ["memory-a1", "memory-a2"] ∧
    result.records.map (·.memoryID) = ["memory-a1"] ∧
    result.conflicts.map (·.memoryIDs) = [["memory-a1", "memory-a2"]] ∧
    s.memory.ActiveAt firstTwo.watermark "memory-a2" := by
  simp only [ActiveAt, exists_and_left]
  exact Transition.exists_run twoConflicts (by decide +kernel)

def sampleInput : AgentRunInput := {
  tenantID := "tenant", ownerID := "owner", memorySpaceID := ControlPlane.sampleSpaceID
  memoryWatermark := 2, memoryAssignmentHash := "assignment", memoryPolicyVersion := "policy"
  memoryAccessScopeHash := "scope" }

open ControlPlane in
theorem recall_balanced_pair : ∃ events s response,
    ControlHistory plainMemory (Separate plainMemory) (newControlPlane MemoryStore.oneSlot)
      events s ∧
    searchProjectMemory plainMemory ⟨"binding", fun _ _ => none⟩ (.at 9 "a9") (.ok sampleInput)
      { query := "subject", operation := "PLAN" } s.memory = .ok response ∧
    response.conflicts.length = 1 ∧
    ∀ shown ∈ response.conflicts, ∀ member ∈ shown.memoryIDs,
      member ∈ response.records.map (·.memoryID) := by
  obtain ⟨events, s, history, response, ok, one⟩ : ∃ events s,
      ControlHistory plainMemory (Separate plainMemory) (newControlPlane MemoryStore.oneSlot)
        events s ∧
      ∃ response, searchProjectMemory plainMemory ⟨"binding", fun _ _ => none⟩ (.at 9 "a9")
        (.ok sampleInput) { query := "subject", operation := "PLAN" } s.memory = .ok response ∧
        response.conflicts.length = 1 :=
    Transition.exists_run twoValues (by decide +kernel)
  obtain ⟨_, _, whole⟩ := (recall_balanced history (.at 9 "a9")).2 _ _ _ response ok
  exact ⟨events, s, response, history, ok, one, fun shown mem =>
    whole.shown _ (List.mem_map_of_mem mem)⟩

end PrdAgent.Capability
