import PrdAgent.Runcontrol.Store

/-!
# Project memory

The project memory of `project_memory.go` and `project_memory_memory.go`: candidates are proposed
and reviewed, a confirmed candidate becomes a record with a first version, and a revoked record gets
a last one. Every commit counts the epoch of its space up. Records with one semantic key and
different values are kept together as a conflict.
-/

namespace PrdAgent.Runcontrol

open GoText

/-- The standard-library functions that project memory calls beside those of the store. -/
structure MemoryRuntime extends Runtime where
  /-- `strings.ToUpper`. -/
  toUpper : String → String
  /-- `strings.EqualFold`. -/
  equalFold : String → String → Bool
  /-- `Time.Format` with the layout `time.RFC3339Nano`. -/
  formatNano : Time → String

/-! ## Data -/

inductive ProjectMemoryType
  | domainTerm | projectDecision | projectConstraint | workflowPreference | acceptancePattern
  | sourcePointer | openQuestion | riskNote | other (raw : String)
deriving DecidableEq

def ProjectMemoryType.text : ProjectMemoryType → String
  | .domainTerm => "DOMAIN_TERM"
  | .projectDecision => "PROJECT_DECISION"
  | .projectConstraint => "PROJECT_CONSTRAINT"
  | .workflowPreference => "WORKFLOW_PREFERENCE"
  | .acceptancePattern => "ACCEPTANCE_PATTERN"
  | .sourcePointer => "SOURCE_POINTER"
  | .openQuestion => "OPEN_QUESTION"
  | .riskNote => "RISK_NOTE"
  | .other raw => raw

def ProjectMemoryType.valid : ProjectMemoryType → Bool
  | .other _ => false
  | _ => true

inductive MemoryAuthorityClass
  | userConfirmed | sourceVerified | workflowConfirmed | derivedProposal | other (raw : String)
deriving DecidableEq

def MemoryAuthorityClass.text : MemoryAuthorityClass → String
  | .userConfirmed => "USER_CONFIRMED"
  | .sourceVerified => "SOURCE_VERIFIED"
  | .workflowConfirmed => "WORKFLOW_CONFIRMED"
  | .derivedProposal => "DERIVED_PROPOSAL"
  | .other raw => raw

def MemoryAuthorityClass.valid : MemoryAuthorityClass → Bool
  | .other _ => false
  | _ => true

/-- The statuses of a version; `unset` is the empty string of a zero record. -/
inductive ProjectMemoryStatus
  | unset | active | superseded | revoked | stale
deriving DecidableEq

def ProjectMemoryStatus.text : ProjectMemoryStatus → String
  | .unset => ""
  | .active => "ACTIVE"
  | .superseded => "SUPERSEDED"
  | .revoked => "REVOKED"
  | .stale => "STALE"

/-- The statuses of a candidate; `unset` is the empty string of a zero candidate. -/
inductive MemoryCandidateStatus
  | unset | pending | confirmed | rejected | expired
deriving DecidableEq

/-- The status of a conflict, `OPEN` or `RESOLVED`. -/
inductive ConflictStatus
  | opened | resolved
deriving DecidableEq

structure MemorySourceRef where
  sourceKind : String
  bindingID : String := ""
  sourceID : String
  sourceVersion : String
  locator : String
  contentHash : String
  accessScopeHash : String := ""

structure ProjectMemoryVersion where
  schemaVersion : String := "project-memory-record.v1"
  memoryID : String
  spaceID : String
  version : Int
  memoryType : ProjectMemoryType
  subject : String
  predicate : String
  value : Json
  statement : String
  authorityClass : MemoryAuthorityClass
  status : ProjectMemoryStatus
  tags : List String
  sensitivity : String
  sourceRevisionSetHash : String
  sourceRefs : List MemorySourceRef
  validFrom : Time
  validUntil : Option Time := none
  committedEpoch : Int
  contentHash : String := ""
  createdByKind : String
  createdByRef : String
  createdAt : Time

structure ProjectMemoryRecord where
  memoryID : String
  spaceID : String
  semanticKey : String
  currentStatus : ProjectMemoryStatus
  current : ProjectMemoryVersion
  createdAt : Time
  updatedAt : Time

structure ProjectMemoryCandidate where
  candidateID : String
  spaceID : String
  memoryType : ProjectMemoryType
  subject : String
  predicate : String
  value : Json
  statement : String
  authorityClass : MemoryAuthorityClass
  tags : List String
  sensitivity : String
  sourceRefs : List MemorySourceRef
  reasonCode : String
  proposedByRunID : String
  extractorVersion : String
  requestHash : String
  status : MemoryCandidateStatus
  createdAt : Time
  reviewedAt : Option Time := none
  reviewedBy : String := ""

structure ProjectMemoryConflict where
  conflictID : String
  spaceID : String
  subject : String
  predicate : String
  memoryIDs : List String
  status : ConflictStatus
  committedEpoch : Int
  resolutionMemoryID : String := ""
  createdAt : Time
  resolvedAt : Option Time := none
  resolvedEpoch : Option Int := none

structure CreateMemorySpaceCommand where
  tenantID : String
  ownerID : String
  projectKey : String
  displayName : String
  idempotencyKey : String
  now : Time := 0

structure ProposeMemoryCommand where
  tenantID : String
  ownerID : String
  spaceID : String
  memoryType : ProjectMemoryType
  subject : String
  predicate : String
  value : Json
  statement : String
  authorityClass : MemoryAuthorityClass
  tags : List String := []
  sensitivity : String := ""
  sourceRefs : List MemorySourceRef := []
  reasonCode : String := ""
  proposedByRunID : String := ""
  extractorVersion : String := ""
  idempotencyKey : String
  now : Time := 0

structure ReviewMemoryCandidateCommand where
  tenantID : String
  ownerID : String
  spaceID : String
  candidateID : String
  expectedHash : String
  actorRef : String
  idempotencyKey : String
  now : Time := 0

structure RevokeMemoryCommand where
  tenantID : String
  ownerID : String
  spaceID : String
  memoryID : String
  expectedVersion : Int
  actorRef : String
  idempotencyKey : String
  now : Time := 0

structure ProjectMemorySearchRequest where
  tenantID : String
  ownerID : String
  spaceID : String
  watermark : Int
  accessScopeHash : String := ""
  query : String := ""
  memoryTypes : List ProjectMemoryType := []
  tags : List String := []
  limit : Int := 0
  asOf : Time := 0

structure ProjectMemorySearchResult where
  spaceID : String
  memoryWatermark : Int
  records : List ProjectMemoryVersion
  conflicts : List ProjectMemoryConflict
  excludedCount : Nat
  sourceSetHash : String

/-- The maps of the store that only project memory uses. -/
structure MemoryTables where
  projectMemoryCandidates : GoMap ProjectMemoryCandidate := ∅
  projectMemoryRecords : GoMap ProjectMemoryRecord := ∅
  projectMemoryVersions : GoMap (List ProjectMemoryVersion) := ∅
  projectMemoryConflicts : GoMap ProjectMemoryConflict := ∅
  projectMemoryCommandHashes : GoMap String := ∅
  projectMemoryCommandResources : GoMap String := ∅

/-- The tables with the memory spaces, which the store uses as well. -/
structure ProjectMemory extends MemoryTables where
  memorySpaces : GoMap MemorySpace := ∅

/-! ## Texts and hashes -/

/-- A part of a pattern: a character, at most one character of a class, or any number of them. -/
inductive PatternPart
  | char (ch : Char)
  | optional (allowed : Char → Bool)
  | many (allowed : Char → Bool)

/-- What may be left of the text after the part. -/
def PatternPart.rests : PatternPart → List Char → List (List Char)
  | .char ch, x :: rest => if x = ch then [rest] else []
  | .char _, [] => []
  | .optional allowed, x :: rest => if allowed x then [rest, x :: rest] else [x :: rest]
  | .many allowed, x :: rest =>
    if allowed x then (x :: rest) :: (PatternPart.many allowed).rests rest else [x :: rest]
  | .optional _, [] | .many _, [] => [[]]

def patternOf (text : String) : List PatternPart := text.toList.map .char

/-- The character as a case-insensitive pattern sees it. The long s and the Kelvin sign fold to
ASCII letters. -/
def foldCase (ch : Char) : Char :=
  if 'A' ≤ ch ∧ ch ≤ 'Z' then Char.ofNat (ch.toNat + 32)
  else if ch.toNat = 0x17F then 's' else if ch.toNat = 0x212A then 'k' else ch

def isPatternSpace (ch : Char) : Bool :=
  ch == ' ' || ch == '\t' || ch == '\n' || ch == '\r' || ch == '\x0c'

/-- The alternatives of `memorySensitivePattern`, in lower case. -/
def memorySensitivePattern : List (List PatternPart) :=
  let dash : PatternPart := .optional fun ch => ch == '_' || ch == '-'
  [patternOf "authorization" ++ [.many isPatternSpace, .char ':'],
    patternOf "api" ++ dash :: patternOf "key",
    patternOf "access" ++ dash :: patternOf "token",
    patternOf "refresh" ++ dash :: patternOf "token",
    patternOf "password" ++ [.many isPatternSpace, .char '='],
    patternOf "-----begin " ++
      .many (fun ch => ch == ' ' || ('a' ≤ ch && ch ≤ 'z')) :: patternOf "private key-----"]

/-- `memorySensitivePattern.MatchString`. -/
def memorySensitive (text : String) : Bool :=
  let folded := (chars text).map foldCase
  memorySensitivePattern.any fun parts => folded.tails.any fun tail =>
    !(parts.foldl (fun rests part => rests.flatMap part.rests) [tail]).isEmpty

/-- `strings.Fields`: the parts between white space. -/
def fields (text : String) : List String :=
  ((chars text).splitOnP isSpace |>.filter (!·.isEmpty)).map ofChars

/-- The time of a command, or the clock reading if it names none. -/
def commandTime (call : Call) (now : Time) : Time := if now = 0 then call.now else now

section Hashes

variable (rt : MemoryRuntime)

def normalizedMemoryTerms (values : List String) : List String :=
  ((values.map fun value => rt.toLower (trimSpace value)).filter (· != "")).dedup.insertionSort
    (· ≤ ·)

def memorySemanticKey (spaceID : String) (memoryType : ProjectMemoryType)
    (subject predicate : String) : String :=
  rt.stableHash (joinNul [spaceID, memoryType.text, rt.toLower (trimSpace subject),
    rt.toLower (trimSpace predicate)])

def MemorySourceRef.json (ref : MemorySourceRef) : Json := .obj (
  [("source_kind", .str ref.sourceKind)] ++
  (if ref.bindingID = "" then [] else [("binding_id", .str ref.bindingID)]) ++
  [("source_id", .str ref.sourceID), ("source_version", .str ref.sourceVersion),
    ("locator", .str ref.locator), ("content_hash", .str ref.contentHash)] ++
  (if ref.accessScopeHash = "" then [] else [("access_scope_hash", .str ref.accessScopeHash)]))

def jsonSlice : List Json → Json
  | [] => .null
  | items => .arr items

def memoryCandidateRequestHash (command : ProposeMemoryCommand) : String :=
  rt.stableHash (rt.canonicalJSON (.obj [
    ("space_id", .str command.spaceID), ("memory_type", .str command.memoryType.text),
    ("subject", .str (trimSpace command.subject)),
    ("predicate", .str (trimSpace command.predicate)), ("value", command.value),
    ("statement", .str (trimSpace command.statement)),
    ("authority_class", .str command.authorityClass.text),
    ("tags", .arr ((normalizedMemoryTerms rt command.tags).map .str)),
    ("sensitivity", .str command.sensitivity),
    ("source_refs", jsonSlice (command.sourceRefs.map MemorySourceRef.json)),
    ("reason_code", .str command.reasonCode),
    ("proposed_by_run_id", .str command.proposedByRunID),
    ("extractor_version", .str command.extractorVersion)]))

def memoryVersionContentHash (value : ProjectMemoryVersion) : String :=
  rt.stableHash (rt.canonicalJSON (.obj [
    ("schema_version", .str value.schemaVersion), ("memory_id", .str value.memoryID),
    ("space_id", .str value.spaceID), ("version", .int value.version),
    ("memory_type", .str value.memoryType.text), ("subject", .str value.subject),
    ("predicate", .str value.predicate), ("value", value.value),
    ("statement", .str value.statement), ("authority_class", .str value.authorityClass.text),
    ("status", .str value.status.text), ("tags", jsonSlice (value.tags.map .str)),
    ("sensitivity", .str value.sensitivity),
    ("source_revision_set_hash", .str value.sourceRevisionSetHash),
    ("source_refs", jsonSlice (value.sourceRefs.map MemorySourceRef.json)),
    ("valid_from", .str (rt.formatNano value.validFrom)),
    ("valid_until", value.validUntil.elim .null fun time => .str (rt.formatNano time)),
    ("committed_epoch", .int value.committedEpoch),
    ("created_by_kind", .str value.createdByKind), ("created_by_ref", .str value.createdByRef)]))

def memorySourceSetHash (refs : List MemorySourceRef) : String :=
  rt.stableHash (rt.canonicalJSON (jsonSlice (refs.map MemorySourceRef.json)))

def memoryJSONEqual (left right : Json) : Bool := rt.jsonMarshal left == rt.jsonMarshal right

def memoryCommandKey (tenantID ownerID operation idempotencyKey : String) : String :=
  joinNul [tenantID, ownerID, operation, idempotencyKey]

def shortHash (text : String) : String := String.ofList ((rt.stableHash text).toList.take 24)

def memorySpaceID (tenantID ownerID projectKey : String) : String :=
  "memory-space-" ++ shortHash rt (joinNul [tenantID, ownerID, projectKey])

def memoryConflictID (memoryIDs : List String) : String :=
  "memory-conflict-" ++ shortHash rt (joinNul memoryIDs)

def validateMemoryCandidate (command : ProposeMemoryCommand) : Except StoreError Unit :=
  let subject := trimSpace command.subject
  let predicate := trimSpace command.predicate
  let statement := trimSpace command.statement
  let value := rt.canonicalJSON command.value
  if command.memoryType.valid = false ∨ command.authorityClass.valid = false ∨
      command.spaceID = "" ∨ subject = "" ∨ predicate = "" ∨ statement = "" ∨
      command.idempotencyKey = "" then
    .error (invalidPayload "incomplete project memory candidate")
  else if subject.utf8ByteSize > 240 ∨ predicate.utf8ByteSize > 120 ∨
      statement.utf8ByteSize > 2048 ∨ command.sourceRefs.length > 20 then
    .error ⟨.payloadTooLarge, "project memory candidate exceeds limits"⟩
  else if value.utf8ByteSize > 4096 then
    .error (invalidPayload "invalid project memory value")
  else if memorySensitive statement ∨ memorySensitive value then
    .error ⟨.sensitivePayload, ""⟩
  else if command.authorityClass = .sourceVerified ∧ command.sourceRefs.isEmpty then
    .error (invalidPayload "source-verified memory requires provenance")
  else if command.sourceRefs.any fun ref => ref.sourceKind == "" || ref.sourceID == "" ||
      ref.sourceVersion == "" || ref.locator == "" || !validSHA256 ref.contentHash then
    .error (invalidPayload "invalid project memory source ref")
  else .ok ()

end Hashes

/-! ## The commands -/

/-- The record is an active one of the space with the semantic key. -/
def ProjectMemoryRecord.activeFor (record : ProjectMemoryRecord) (spaceID semanticKey : String) :
    Bool :=
  record.spaceID == spaceID && record.semanticKey == semanticKey && record.currentStatus == .active

def MemorySpace.committed (space : MemorySpace) (now : Time) : MemorySpace :=
  { space with memoryEpoch := space.memoryEpoch + 1, updatedAt := now }

namespace ProjectMemory

variable (rt : MemoryRuntime) (call : Call)

abbrev Result (α : Type) := ProjectMemory × Except StoreError α

def refuse {α : Type} (m : ProjectMemory) (kind : ErrorKind) (detail : String := "") : Result α :=
  (m, .error ⟨kind, detail⟩)

def ownedSpace (m : ProjectMemory) (tenantID ownerID spaceID : String) :
    Except StoreError MemorySpace :=
  match m.memorySpaces.get spaceID with
  | none => .error ⟨.notFound, ""⟩
  | some space =>
    if space.tenantID ≠ tenantID ∨ space.ownerID ≠ ownerID then .error ⟨.notFound, ""⟩
    else .ok space

/-- What an idempotency key was used for: nothing, another request, or this one. -/
def replay (m : ProjectMemory) (commandKey requestHash : String) :
    Option (Except StoreError String) :=
  match m.projectMemoryCommandResources.get commandKey with
  | none => none
  | some resourceID =>
    if (m.projectMemoryCommandHashes.get commandKey).getD "" ≠ requestHash then
      some (.error ⟨.invalidIdempotency, ""⟩)
    else some (.ok resourceID)

def record (m : ProjectMemory) (commandKey requestHash resourceID : String) : ProjectMemory :=
  { m with
    projectMemoryCommandHashes := m.projectMemoryCommandHashes.set commandKey requestHash
    projectMemoryCommandResources := m.projectMemoryCommandResources.set commandKey resourceID }

def createMemorySpace (command : CreateMemorySpaceCommand) (m : ProjectMemory) :
    Result MemorySpace :=
  let projectKey := trimSpace command.projectKey
  let displayName := trimSpace command.displayName
  if command.tenantID = "" ∨ command.ownerID = "" ∨ projectKey = "" ∨ displayName = "" ∨
      command.idempotencyKey = "" ∨ projectKey.utf8ByteSize > 120 ∨
      displayName.utf8ByteSize > 240 then
    m.refuse .invalidPayload
  else
  let now := commandTime call command.now
  let requestHash := rt.stableHash (joinNul
    [command.tenantID, command.ownerID, projectKey, displayName])
  let commandKey := memoryCommandKey command.tenantID command.ownerID "CREATE_SPACE"
    command.idempotencyKey
  match m.replay commandKey requestHash with
  | some (.error err) => (m, .error err)
  | some (.ok resourceID) =>
    -- the zero space if it is not stored
    (m, .ok ((m.memorySpaces.get resourceID).getD {
      spaceID := "", tenantID := "", ownerID := "", projectKey := "", displayName := ""
      status := "", policyVersion := "", createdAt := 0, updatedAt := 0 }))
  | none =>
  if m.memorySpaces.values.any fun existing => existing.tenantID == command.tenantID &&
      existing.ownerID == command.ownerID && existing.projectKey == projectKey then
    m.refuse .invalidPayload "project memory space already exists"
  else
    let spaceID := memorySpaceID rt command.tenantID command.ownerID projectKey
    let space : MemorySpace := {
      spaceID := spaceID, tenantID := command.tenantID, ownerID := command.ownerID
      projectKey := projectKey, displayName := displayName, status := "ACTIVE"
      policyVersion := "project-memory-policy.v1", createdAt := now, updatedAt := now }
    ({ m with memorySpaces := m.memorySpaces.set spaceID space }.record commandKey requestHash
      spaceID, .ok space)

def proposedCandidate (command : ProposeMemoryCommand) : ProjectMemoryCandidate :=
  let sensitivity := rt.toUpper (trimSpace command.sensitivity)
  let extractor := trimSpace command.extractorVersion
  { candidateID := call.newID "memory-candidate", spaceID := command.spaceID
    memoryType := command.memoryType, subject := trimSpace command.subject
    predicate := trimSpace command.predicate, value := command.value
    statement := trimSpace command.statement, authorityClass := command.authorityClass
    tags := normalizedMemoryTerms rt command.tags
    sensitivity := if sensitivity = "" then "INTERNAL" else sensitivity
    sourceRefs := command.sourceRefs, reasonCode := trimSpace command.reasonCode
    proposedByRunID := command.proposedByRunID
    extractorVersion := if extractor = "" then "manual.v1" else extractor
    requestHash := memoryCandidateRequestHash rt command, status := .pending
    createdAt := commandTime call command.now }

def zeroCandidate : ProjectMemoryCandidate := {
  candidateID := "", spaceID := "", memoryType := .other "", subject := "", predicate := ""
  value := .null, statement := "", authorityClass := .other "", tags := [], sensitivity := ""
  sourceRefs := [], reasonCode := "", proposedByRunID := "", extractorVersion := ""
  requestHash := "", status := .unset, createdAt := 0 }

def proposeProjectMemory (command : ProposeMemoryCommand) (m : ProjectMemory) :
    Result ProjectMemoryCandidate :=
  match m.ownedSpace command.tenantID command.ownerID command.spaceID with
  | .error err => (m, .error err)
  | .ok _ =>
  match validateMemoryCandidate rt command with
  | .error err => (m, .error err)
  | .ok () =>
  let requestHash := memoryCandidateRequestHash rt command
  let commandKey := memoryCommandKey command.tenantID command.ownerID "PROPOSE"
    command.idempotencyKey
  match m.replay commandKey requestHash with
  | some (.error err) => (m, .error err)
  | some (.ok resourceID) =>
    (m, .ok ((m.projectMemoryCandidates.get resourceID).getD zeroCandidate))
  | none =>
    let candidate := proposedCandidate rt call command
    ({ m with projectMemoryCandidates :=
        m.projectMemoryCandidates.set candidate.candidateID candidate }.record commandKey
        requestHash candidate.candidateID,
      .ok candidate)

def reviewCandidateLocked (command : ReviewMemoryCandidateCommand) (m : ProjectMemory) :
    Except StoreError (MemorySpace × ProjectMemoryCandidate) :=
  match m.ownedSpace command.tenantID command.ownerID command.spaceID with
  | .error err => .error err
  | .ok space =>
  match m.projectMemoryCandidates.get command.candidateID with
  | none => .error ⟨.notFound, ""⟩
  | some candidate =>
    if candidate.spaceID ≠ command.spaceID then .error ⟨.notFound, ""⟩
    else if command.expectedHash = "" ∨ candidate.requestHash ≠ command.expectedHash ∨
        command.actorRef = "" ∨ command.idempotencyKey = "" then
      .error ⟨.invalidPayload, ""⟩
    else .ok (space, candidate)

def reviewHash (command : ReviewMemoryCandidateCommand) : String :=
  rt.stableHash (joinNul [command.candidateID, command.expectedHash, command.actorRef])

def reviewed (command : ReviewMemoryCandidateCommand) (candidate : ProjectMemoryCandidate)
    (status : MemoryCandidateStatus) : ProjectMemoryCandidate :=
  { candidate with
    status := status, reviewedAt := some (commandTime call command.now)
    reviewedBy := command.actorRef }

/-- An active record that says what the candidate says. -/
def duplicate (m : ProjectMemory) (spaceID semanticKey : String)
    (candidate : ProjectMemoryCandidate) : Option ProjectMemoryRecord :=
  ((m.projectMemoryRecords.range call.order).map Prod.snd).find? fun existing =>
    existing.activeFor spaceID semanticKey &&
      (memoryJSONEqual rt existing.current.value candidate.value &&
        existing.current.statement == candidate.statement)

def firstVersion (command : ReviewMemoryCandidateCommand) (candidate : ProjectMemoryCandidate)
    (spaceID : String) (epoch : Int) : ProjectMemoryVersion :=
  let now := commandTime call command.now
  let version : ProjectMemoryVersion := {
    memoryID := call.newID "memory", spaceID := spaceID, version := 1
    memoryType := candidate.memoryType, subject := candidate.subject
    predicate := candidate.predicate, value := candidate.value, statement := candidate.statement
    authorityClass := if candidate.authorityClass = .derivedProposal then .userConfirmed
      else candidate.authorityClass
    status := .active, tags := candidate.tags, sensitivity := candidate.sensitivity
    sourceRevisionSetHash := memorySourceSetHash rt candidate.sourceRefs
    sourceRefs := candidate.sourceRefs, validFrom := now, committedEpoch := epoch
    createdByKind := "USER_COMMAND", createdByRef := command.actorRef, createdAt := now }
  { version with contentHash := memoryVersionContentHash rt version }

/-- The new record and the active records with its semantic key and other values, in order. -/
def conflictMembers (m : ProjectMemory) (spaceID semanticKey : String)
    (version : ProjectMemoryVersion) : List String :=
  (version.memoryID :: (((m.projectMemoryRecords.range call.order).map Prod.snd).filter
    fun existing => existing.memoryID != version.memoryID &&
      existing.activeFor spaceID semanticKey &&
      !memoryJSONEqual rt existing.current.value version.value).map
        (·.memoryID)).insertionSort (· ≤ ·)

/-- The conflicts with the one that a new record opens. -/
def openConflict (m : ProjectMemory) (spaceID : String) (version : ProjectMemoryVersion)
    (members : List String) (now : Time) : GoMap ProjectMemoryConflict :=
  if members.length > 1 then
    let conflictID := memoryConflictID rt members
    m.projectMemoryConflicts.set conflictID {
      conflictID := conflictID, spaceID := spaceID, subject := version.subject
      predicate := version.predicate, memoryIDs := members, status := .opened
      committedEpoch := version.committedEpoch, createdAt := now }
  else m.projectMemoryConflicts

def zeroRecord : ProjectMemoryRecord := {
  memoryID := "", spaceID := "", semanticKey := "", currentStatus := .unset
  createdAt := 0, updatedAt := 0
  current := {
    schemaVersion := "", memoryID := "", spaceID := "", version := 0, memoryType := .other ""
    subject := "", predicate := "", value := .null, statement := "", authorityClass := .other ""
    status := .unset, tags := [], sensitivity := "", sourceRevisionSetHash := ""
    sourceRefs := [], validFrom := 0, committedEpoch := 0, createdByKind := ""
    createdByRef := "", createdAt := 0 } }

def confirmProjectMemoryCandidate (command : ReviewMemoryCandidateCommand) (m : ProjectMemory) :
    Result ProjectMemoryRecord :=
  match m.reviewCandidateLocked command with
  | .error err => (m, .error err)
  | .ok (space, candidate) =>
  let commandKey := memoryCommandKey command.tenantID command.ownerID "CONFIRM"
    command.idempotencyKey
  let requestHash := reviewHash rt command
  match m.replay commandKey requestHash with
  | some (.error err) => (m, .error err)
  | some (.ok resourceID) => (m, .ok ((m.projectMemoryRecords.get resourceID).getD zeroRecord))
  | none =>
  if candidate.status ≠ .pending then m.refuse .invalidPayload "memory candidate is not pending"
  else
  let now := commandTime call command.now
  let semanticKey := memorySemanticKey rt space.spaceID candidate.memoryType candidate.subject
    candidate.predicate
  let candidates := m.projectMemoryCandidates.set candidate.candidateID
    (reviewed call command candidate .confirmed)
  match m.duplicate rt call space.spaceID semanticKey candidate with
  | some existing =>
    ({ m with projectMemoryCandidates := candidates }.record commandKey requestHash
      existing.memoryID, .ok existing)
  | none =>
    let advanced := space.committed now
    let version := firstVersion rt call command candidate space.spaceID advanced.memoryEpoch
    let confirmed : ProjectMemoryRecord := {
      memoryID := version.memoryID, spaceID := space.spaceID, semanticKey := semanticKey
      currentStatus := .active, current := version, createdAt := now, updatedAt := now }
    let records := m.projectMemoryRecords.set version.memoryID confirmed
    let members := { m with projectMemoryRecords := records }.conflictMembers rt call space.spaceID
      semanticKey version
    ({ m with
        memorySpaces := m.memorySpaces.set space.spaceID advanced
        projectMemoryRecords := records
        projectMemoryVersions := m.projectMemoryVersions.set version.memoryID [version]
        projectMemoryCandidates := candidates
        projectMemoryConflicts := m.openConflict rt space.spaceID version members now }.record
          commandKey requestHash version.memoryID,
      .ok confirmed)

def rejectProjectMemoryCandidate (command : ReviewMemoryCandidateCommand) (m : ProjectMemory) :
    Result ProjectMemoryCandidate :=
  match m.reviewCandidateLocked command with
  | .error err => (m, .error err)
  | .ok (_, candidate) =>
  let commandKey := memoryCommandKey command.tenantID command.ownerID "REJECT"
    command.idempotencyKey
  let requestHash := reviewHash rt command
  match m.replay commandKey requestHash with
  | some (.error err) => (m, .error err)
  | some (.ok resourceID) =>
    (m, .ok ((m.projectMemoryCandidates.get resourceID).getD zeroCandidate))
  | none =>
  if candidate.status ≠ .pending then m.refuse .invalidPayload "memory candidate is not pending"
  else
    let rejected := reviewed call command candidate .rejected
    ({ m with projectMemoryCandidates :=
        m.projectMemoryCandidates.set candidate.candidateID rejected }.record commandKey
        requestHash candidate.candidateID,
      .ok rejected)

def revokedVersion (command : RevokeMemoryCommand) (current : ProjectMemoryVersion) (epoch : Int) :
    ProjectMemoryVersion :=
  let version := { current with
    version := current.version + 1, status := .revoked, committedEpoch := epoch
    createdByKind := "USER_COMMAND", createdByRef := command.actorRef
    createdAt := commandTime call command.now, contentHash := "" }
  { version with contentHash := memoryVersionContentHash rt version }

def activeMembers (m : ProjectMemory) (conflict : ProjectMemoryConflict) : List String :=
  conflict.memoryIDs.filter fun memoryID =>
    (m.projectMemoryRecords.get memoryID).any (·.currentStatus == .active)

/-- The conflict after one of its members was revoked: it is resolved once at most one member is
active. -/
def resolveConflict (m : ProjectMemory) (memoryID : String) (now : Time) (epoch : Int)
    (conflict : ProjectMemoryConflict) : ProjectMemoryConflict :=
  let active := m.activeMembers conflict
  if memoryID ∈ conflict.memoryIDs ∧ conflict.status = .opened ∧ active.length ≤ 1 then
    { conflict with
      status := .resolved, resolvedAt := some now, resolvedEpoch := some epoch
      resolutionMemoryID := active.headD conflict.resolutionMemoryID }
  else conflict

/-- The loop of `RevokeProjectMemory` over the conflicts. -/
def resolveConflicts (m : ProjectMemory) (memoryID : String) (now : Time) (epoch : Int) :
    GoMap ProjectMemoryConflict :=
  (m.projectMemoryConflicts.range call.order).foldl (fun conflicts entry =>
    conflicts.set entry.1 (m.resolveConflict memoryID now epoch entry.2)) m.projectMemoryConflicts

def revokeProjectMemory (command : RevokeMemoryCommand) (m : ProjectMemory) :
    Result ProjectMemoryRecord :=
  match m.ownedSpace command.tenantID command.ownerID command.spaceID with
  | .error err => (m, .error err)
  | .ok space =>
  match m.projectMemoryRecords.get command.memoryID with
  | none => m.refuse .notFound
  | some record =>
  if record.spaceID ≠ command.spaceID then m.refuse .notFound
  else
  let requestHash := rt.stableHash (joinNul
    [command.memoryID, itoa command.expectedVersion, command.actorRef])
  let commandKey := memoryCommandKey command.tenantID command.ownerID "REVOKE"
    command.idempotencyKey
  match m.replay commandKey requestHash with
  | some (.error err) => (m, .error err)
  | some (.ok resourceID) => (m, .ok ((m.projectMemoryRecords.get resourceID).getD zeroRecord))
  | none =>
  if command.expectedVersion < 1 ∨ record.current.version ≠ command.expectedVersion ∨
      record.currentStatus ≠ .active ∨ command.actorRef = "" ∨ command.idempotencyKey = "" then
    m.refuse .taskVersionConflict
  else
    let now := commandTime call command.now
    let advanced := space.committed now
    let version := revokedVersion rt call command record.current advanced.memoryEpoch
    let revoked := { record with
      currentStatus := .revoked, current := version, updatedAt := now }
    let written : ProjectMemory := { m with
      memorySpaces := m.memorySpaces.set space.spaceID advanced
      projectMemoryRecords := m.projectMemoryRecords.set record.memoryID revoked
      projectMemoryVersions := m.projectMemoryVersions.set record.memoryID
        ((m.projectMemoryVersions.get record.memoryID).getD [] ++ [version]) }
    ({ written with projectMemoryConflicts :=
        written.resolveConflicts call record.memoryID now advanced.memoryEpoch }.record commandKey
        requestHash record.memoryID,
      .ok revoked)

end ProjectMemory

end PrdAgent.Runcontrol
