import PrdAgent.Runcontrol.ProjectMemory

/-!
# Searching project memory

`SearchProjectMemory` judges every record of the space by its version at the watermark, ranks what
matches, cuts the list at the limit, and then looks at the conflicts that were open at the
watermark: one whose members were all selected is returned with them, one of which only some were
selected takes its members out of the result.
-/

namespace PrdAgent.Runcontrol

open GoText

def ProjectMemoryConflict.openAt (conflict : ProjectMemoryConflict) (spaceID : String)
    (watermark : Int) : Bool :=
  conflict.spaceID == spaceID && decide (conflict.committedEpoch ≤ watermark) &&
    !conflict.resolvedEpoch.any (fun epoch => decide (epoch ≤ watermark))

def ProjectMemoryConflict.presentIn (conflict : ProjectMemoryConflict)
    (selectedIDs : List String) : Nat :=
  conflict.memoryIDs.countP fun memoryID => decide (memoryID ∈ selectedIDs)

def ProjectMemoryConflict.partlyIn (conflict : ProjectMemoryConflict)
    (selectedIDs : List String) : Bool :=
  conflict.presentIn selectedIDs != 0 && conflict.presentIn selectedIDs != conflict.memoryIDs.length

def ProjectMemoryConflict.whollyIn (conflict : ProjectMemoryConflict)
    (selectedIDs : List String) : Bool :=
  conflict.presentIn selectedIDs != 0 && conflict.presentIn selectedIDs == conflict.memoryIDs.length

/-- The conflict as it was at the watermark. -/
def ProjectMemoryConflict.seenAt (conflict : ProjectMemoryConflict) (watermark : Int) :
    ProjectMemoryConflict :=
  if conflict.resolvedEpoch.any (fun epoch => decide (watermark < epoch)) then
    { conflict with
      status := .opened, resolutionMemoryID := "", resolvedAt := none, resolvedEpoch := none }
  else conflict

namespace ProjectMemoryConflict

@[simp] theorem seenAt_memoryIDs (conflict : ProjectMemoryConflict) (watermark : Int) :
    (conflict.seenAt watermark).memoryIDs = conflict.memoryIDs := by
  unfold seenAt
  split <;> rfl

end ProjectMemoryConflict

namespace ProjectMemory

variable (rt : MemoryRuntime) (call : Call)

/-- The latest version committed up to the watermark. -/
def visibleAt (watermark : Int) (versions : List ProjectMemoryVersion) :
    Option ProjectMemoryVersion :=
  versions.foldl (fun visible candidate =>
    if candidate.committedEpoch ≤ watermark ∧
        visible.all (fun earlier => decide (earlier.committedEpoch < candidate.committedEpoch)) then
      some candidate
    else visible) none

/-- What the search makes of one record: it is excluded and counted as such, it matches no term of
the query, or it is ranked. -/
inductive Verdict
  | excluded
  | unmatched
  | ranked (value : ProjectMemoryVersion) (score : Int)

/-- The score of a version for the terms of a query. -/
def matchScore (queryTerms : List String) (visible : ProjectMemoryVersion) : Int :=
  let haystack := rt.toLower (String.intercalate " "
    ([visible.subject, visible.predicate, visible.statement] ++ visible.tags))
  (queryTerms.map fun term =>
    if rt.equalFold term visible.subject then 100
    else if contains (rt.toLower visible.subject) term then 40
    else if contains haystack term then 20
    else 0).sum

/-- The verdict on the version of a record that is visible at the watermark. -/
def judgeVisible (request : ProjectMemorySearchRequest) (asOf : Time) (queryTerms : List String) :
    Option ProjectMemoryVersion → Verdict
  | none => .excluded
  | some visible =>
    if visible.status ≠ .active ∨ asOf < visible.validFrom ∨
        visible.validUntil.any (fun time => decide (time ≤ asOf)) then .excluded
    else if request.memoryTypes ≠ [] ∧ visible.memoryType ∉ request.memoryTypes then .excluded
    else if visible.sourceRefs.any fun ref =>
        ref.accessScopeHash != "" && request.accessScopeHash != ref.accessScopeHash then .excluded
    else
      let score := matchScore rt queryTerms visible
      if queryTerms ≠ [] ∧ score = 0 then .unmatched
      else .ranked visible (if visible.authorityClass = .userConfirmed ∨
        visible.authorityClass = .workflowConfirmed then score + 10 else score)

/-- The body of the loop over the records of the space. -/
def judge (request : ProjectMemorySearchRequest) (asOf : Time) (queryTerms : List String)
    (versions : List ProjectMemoryVersion) : Verdict :=
  judgeVisible rt request asOf queryTerms (visibleAt request.watermark versions)

def Verdict.isExcluded : Verdict → Bool
  | .excluded => true
  | _ => false

def Verdict.ranked? : Verdict → Option (ProjectMemoryVersion × Int)
  | .ranked value score => some (value, score)
  | _ => none

/-- Higher scores first, then by identifier. -/
def rankedBefore (left right : ProjectMemoryVersion × Int) : Bool :=
  if left.2 = right.2 then decide (left.1.memoryID ≤ right.1.memoryID) else decide (right.2 < left.2)

/-- The limit of a request: 12 if it names none, and 50 at most. -/
def searchLimit (limit : Int) : Nat := (min (if limit ≤ 0 then 12 else limit) 50).toNat

def verdicts (request : ProjectMemorySearchRequest) (asOf : Time) (m : ProjectMemory) :
    List Verdict :=
  let queryTerms := normalizedMemoryTerms rt (fields request.query ++ request.tags)
  ((m.projectMemoryVersions.range call.order).filter fun entry =>
    ((m.projectMemoryRecords.get entry.1).map (·.spaceID)).getD "" == request.spaceID).map
      fun entry => judge rt request asOf queryTerms entry.2

def selection (request : ProjectMemorySearchRequest) (judged : List Verdict) :
    List ProjectMemoryVersion :=
  (((judged.filterMap Verdict.ranked?).insertionSort fun left right =>
    rankedBefore left right).take (searchLimit request.limit)).map Prod.fst

/-- The conflicts of the space that were open at the watermark, in visiting order. -/
def openConflicts (request : ProjectMemorySearchRequest) (m : ProjectMemory) :
    List ProjectMemoryConflict :=
  ((m.projectMemoryConflicts.range call.order).map Prod.snd).filter fun conflict =>
    conflict.openAt request.spaceID request.watermark

/-- The members to take out: the selected ones of conflicts that were not selected whole. -/
def removedIDs (selectedIDs : List String) (conflicts : List ProjectMemoryConflict) :
    List String :=
  (conflicts.filter (·.partlyIn selectedIDs)).flatMap fun conflict =>
    conflict.memoryIDs.filter fun memoryID => decide (memoryID ∈ selectedIDs)

/-- The conflicts to return: those that were selected whole. -/
def wholeConflicts (selectedIDs : List String) (watermark : Int)
    (conflicts : List ProjectMemoryConflict) : List ProjectMemoryConflict :=
  ((conflicts.filter (·.whollyIn selectedIDs)).map (·.seenAt watermark)).insertionSort
    fun left right => left.conflictID ≤ right.conflictID

/-- What `SourceSetHash` is the hash of. -/
def versionIdentity (version : ProjectMemoryVersion) : String :=
  version.memoryID ++ "@" ++ itoa version.version ++ ":" ++ version.contentHash

def searchResult (request : ProjectMemorySearchRequest) (m : ProjectMemory) :
    ProjectMemorySearchResult :=
  let judged := m.verdicts rt call request (commandTime call request.asOf)
  let selected := selection request judged
  let selectedIDs := selected.map (·.memoryID)
  let conflicts := m.openConflicts call request
  let removed := removedIDs selectedIDs conflicts
  let records := selected.filter fun version => decide (version.memoryID ∉ removed)
  { spaceID := request.spaceID, memoryWatermark := request.watermark, records := records
    conflicts := wholeConflicts selectedIDs request.watermark conflicts
    excludedCount := judged.countP Verdict.isExcluded + (selected.length - records.length)
    sourceSetHash := rt.stableHash (joinNul (records.map versionIdentity)) }

def searchProjectMemory (request : ProjectMemorySearchRequest) (m : ProjectMemory) :
    Except StoreError ProjectMemorySearchResult :=
  match m.ownedSpace request.tenantID request.ownerID request.spaceID with
  | .error err => .error err
  | .ok space =>
  if request.watermark < 0 ∨ space.memoryEpoch < request.watermark then
    .error ⟨.invalidPayload, ""⟩
  else if request.memoryTypes.any (!·.valid) then .error ⟨.invalidPayload, ""⟩
  else .ok (m.searchResult rt call request)

variable {rt call} in
theorem searchProjectMemory_ok {request : ProjectMemorySearchRequest} {m : ProjectMemory}
    {result : ProjectMemorySearchResult}
    (ok : m.searchProjectMemory rt call request = .ok result) :
    result = m.searchResult rt call request := by
  unfold searchProjectMemory at ok
  iterate 3
    split at ok
    · cases ok
  · cases ok
    rfl

end ProjectMemory

end PrdAgent.Runcontrol
