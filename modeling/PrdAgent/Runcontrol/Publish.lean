import PrdAgent.Runcontrol.Review

/-!
# Publishing

Previewing, confirming, claiming and completing a publish, and purging published payloads, from
`memory_store.go`, `review_workflow.go` and `publish_retention.go`.
-/

namespace PrdAgent.Runcontrol

open GoText

def joinParagraphs : List String → String
  | [] => ""
  | [part] => part
  | part :: rest => part ++ "\n\n" ++ joinParagraphs rest

namespace MemoryStore

variable (rt : Runtime) (call : Call)

/-! ## Documents -/

/-- The paragraphs of the planned units, each from its latest confirmed version. -/
def unitParagraphs (report : FullReviewReport) (latest : GoMap ConfirmationUnitVersion) :
    List OutlineUnit → Option (List String)
  | [] => some []
  | planned :: rest => match latest.get planned.unitKey with
    | none => none
    | some unit =>
      if unit.confirmationStatus ≠ .confirmed ∨
          bareSHA256 ((report.unitHashes.get planned.unitKey).getD "") ≠
            bareSHA256 unit.contentHash then none
      else (unitParagraphs report latest rest).map (trimSpace unit.markdown :: ·)

def buildV4PublishDocumentLocked (s : MemoryStore) (task : Task) :
    Except StoreError PublishDocument :=
  if task.status ≠ .reviewable then .error ⟨.invalidRunStatus, ""⟩
  else match s.reviewOutlines.get task.taskID, s.fullReviewReports.get task.taskID with
  | some outline, some report =>
    if outline.status ≠ .locked ∨ report.disposition ≠ "PASSED" ∨
        report.outlineVersionID ≠ outline.outlineVersionID then
      .error ⟨.invalidRunStatus, ""⟩
    else
      let latest := latestByKey (((s.visitedVersions call).filter fun item =>
        item.taskID == task.taskID && item.value.outlineVersionID == outline.outlineVersionID).map
          (·.value))
      match unitParagraphs report latest outline.candidate.units with
      | none => .error ⟨.invalidRunStatus, ""⟩
      | some paragraphs =>
        if latest.keys.length ≠ outline.candidate.units.length ∨
            report.unitHashes.keys.length ≠ latest.keys.length then
          .error ⟨.invalidRunStatus, ""⟩
        else
          let content := (joinParagraphs
            (("# " ++ trimSpace outline.candidate.title) :: paragraphs)).toUTF8
          .ok {
            workflowVersion := .v4
            sourceVersionID := outline.outlineVersionID ++ ":" ++ report.reportID
            content := content, contentHash := rt.hashBytesHex content
            taskVersion := task.version }
  | _, _ => .error ⟨.invalidRunStatus, ""⟩

def latestDraftLocked (s : MemoryStore) (taskID : String) : Option MemoryDraft :=
  (s.visitedDrafts call taskID).foldl (fun latest draft =>
    match latest with
    | none => some draft
    | some current => if current.taskVersion < draft.taskVersion then some draft else latest) none

def publishConfirmationTokenLocked (s : MemoryStore) (value : MemoryPublish) : String :=
  rt.hmacToken s.policy.confirmationSecret (joinNul [
    value.record.publishID, value.record.taskID, itoa value.record.taskVersion,
    itoa value.record.draftVersion, value.record.contentHash, rt.formatTime value.expiresAt])

def publishPreviewResultLocked (s : MemoryStore) (value : MemoryPublish) :
    PublishPreviewResult := {
  publishID := value.record.publishID
  confirmationToken := s.publishConfirmationTokenLocked rt value
  taskVersion := value.record.taskVersion, draftVersion := value.record.draftVersion
  contentHash := value.record.contentHash, target := "FEISHU_FIXED_WIKI_DOCX"
  expiresAt := value.expiresAt }

/-- What a preview publishes. -/
structure PublishSource where
  content : ByteArray
  contentHash : String
  source : String
  version : Int

/-- The document of a V4 task, or the latest draft of another one. -/
def publishSourceLocked (s : MemoryStore) (task : Task) (taskID : String) :
    Except StoreError PublishSource :=
  match s.reviewOutlines.get taskID with
  | some outline => match s.buildV4PublishDocumentLocked rt call task with
    | .error err => .error err
    | .ok document => .ok {
        content := document.content, contentHash := document.contentHash
        source := document.sourceVersionID, version := outline.version }
  | none => match s.latestDraftLocked call taskID with
    | none => .error ⟨.notFound, ""⟩
    | some draft =>
      if s.confirmationVersions.values.any fun version =>
          version.value.draftID == draft.draftID &&
            version.value.confirmationStatus != .confirmed then
        .error ⟨.invalidRunStatus, ""⟩
      else .ok {
        content := draft.patch, contentHash := draft.patchHash, source := draft.draftKey
        version := draft.taskVersion }

/-! ## Preview and confirmation -/

def createPublishPreview (tenantID ownerID taskID idempotencyKey : String)
    (expectedTaskVersion : Int) (now : Time) (s : MemoryStore) : Outcome PublishPreviewResult :=
  match s.tasks.get taskID with
  | none => fail s .notFound
  | some task =>
  if task.tenantID ≠ tenantID ∨ task.ownerID ≠ ownerID then fail s .notFound
  else if expectedTaskVersion < 1 ∨ task.version ≠ expectedTaskVersion then
    fail s .taskVersionConflict
  else
  let requestHash := fun (id : String) (version : Int) => rt.stableHash (joinNul [id, itoa version])
  let identity := idempotencyIdentity tenantID ownerID idempotencyKey
  match s.publishPreviewIdempotency.get identity with
  | some publishID =>
    let value := (s.publishes.get publishID).getD {}
    if requestHash value.record.taskID value.record.taskVersion ≠
        requestHash taskID expectedTaskVersion then
      fail s .invalidIdempotency
    else (s, .ok (s.publishPreviewResultLocked rt value))
  | none =>
  match s.publishSourceLocked rt call task taskID with
  | .error err => (s, .error err)
  | .ok source =>
  if s.publishes.values.any fun existing => existing.record.taskID == taskID &&
      (existing.record.status == .pending || existing.record.status == .running ||
        existing.record.status == .reconciling) then
    fail s .invalidRunStatus
  else
  let publishID := call.newID "publish"
  let value : MemoryPublish := {
    record := {
      publishID := publishID, taskID := taskID, status := .preview, taskVersion := task.version
      draftVersion := source.version, contentHash := source.contentHash, createdAt := now
      updatedAt := now }
    tenantID := tenantID, ownerID := ownerID, draftKey := source.source
    content := source.content, expiresAt := now + 10 * minute, availableAt := now }
  let payload := rt.marshalBytes (.obj [("content_hash", .str source.contentHash),
    ("publish_id", .str publishID)])
  ({ s with
      publishes := s.publishes.set publishID value
      publishPreviewIdempotency := s.publishPreviewIdempotency.set identity publishID
      events := s.appendTaskEventLocked call tenantID ownerID taskID "publish.previewed" payload },
    .ok (s.publishPreviewResultLocked rt value))

def confirmPublish (tenantID ownerID taskID publishID confirmationToken idempotencyKey : String)
    (expectedTaskVersion : Int) (now : Time) (s : MemoryStore) : Outcome PublishRecord :=
  let requestHash := rt.stableHash (joinNul
    [taskID, publishID, confirmationToken, itoa expectedTaskVersion])
  let identity := idempotencyIdentity tenantID ownerID idempotencyKey
  match s.publishConfirmIdempotency.get identity with
  | some existingHash =>
    if existingHash ≠ requestHash then fail s .invalidIdempotency
    else match s.publishes.get publishID with
    | none => fail s .notFound
    | some value =>
      if value.tenantID ≠ tenantID ∨ value.ownerID ≠ ownerID ∨
          value.record.taskID ≠ taskID then
        fail s .notFound
      else (s, .ok value.record)
  | none =>
  match s.tasks.get taskID, s.publishes.get publishID with
  | some task, some value =>
    if task.tenantID ≠ tenantID ∨ task.ownerID ≠ ownerID ∨ value.tenantID ≠ tenantID ∨
        value.ownerID ≠ ownerID ∨ value.record.taskID ≠ taskID then
      fail s .notFound
    else if task.version ≠ expectedTaskVersion ∨
        value.record.taskVersion ≠ expectedTaskVersion then
      fail s .taskVersionConflict
    else if value.record.status ≠ .preview ∨ value.expiresAt ≤ now then fail s .invalidRunStatus
    else if s.publishConfirmationTokenLocked rt value ≠ confirmationToken then
      fail s .invalidPayload
    else
      let pending := { value with
        record := { value.record with status := .pending, updatedAt := now }, availableAt := now }
      let payload := rt.marshalBytes (.obj [("publish_id", .str publishID),
        ("status", .str PublishStatus.pending.text)])
      ({ s with
          publishes := s.publishes.set publishID pending
          publishConfirmIdempotency := s.publishConfirmIdempotency.set identity requestHash
          tasks := s.tasks.set taskID { task with status := .publishing, updatedAt := now }
          events := s.appendTaskEventLocked call tenantID ownerID taskID "publish.pending" payload },
        .ok pending.record)
  | _, _ => fail s .notFound

/-! ## Publisher workers -/

def claimable (value : MemoryPublish) (now : Time) : Bool :=
  (value.record.status == .pending || value.record.status == .retryable ||
      value.record.status == .reconciling) &&
    !decide (now < value.availableAt) &&
    !(value.claimWorker != "" && decide (now < value.claimExpires))

/-- The loop of `ClaimPendingPublishes`, which stops once `limit` jobs are claimed. -/
def claimPublishes (workerID : String) (limit : Int) (now : Time) (ttl : Duration) :
    List (String × MemoryPublish) → GoMap MemoryPublish → List PublishJob →
      GoMap MemoryPublish × List PublishJob
  | [], publishes, items => (publishes, items)
  | (publishID, value) :: rest, publishes, items =>
    if claimable value now = false then
      claimPublishes workerID limit now ttl rest publishes items
    else
      let claimed := { value with
        record := { value.record with status := .running, updatedAt := now }
        claimWorker := workerID, claimExpires := now + ttl }
      let jobs := items ++ [{
        record := claimed.record, tenantID := value.tenantID, ownerID := value.ownerID
        content := value.content, reconcileOnly := value.record.status == .reconciling }]
      if jobs.length ≥ limit then (publishes.set publishID claimed, jobs)
      else claimPublishes workerID limit now ttl rest (publishes.set publishID claimed) jobs

def claimPendingPublishes (workerID : String) (limit : Int) (now : Time) (ttl : Duration)
    (s : MemoryStore) : Outcome (List PublishJob) :=
  let claimed := claimPublishes workerID (if limit < 1 then 1 else limit) now
    (if ttl ≤ 0 then minute else ttl) (s.publishes.range call.order) s.publishes []
  ({ s with publishes := claimed.1 }, .ok claimed.2)

/-- The task after a publish of it was completed with a result. -/
def completedTask (task : Task) (status : PublishStatus) (now : Time) : Option Task :=
  match status with
  | .succeeded => some { task with status := .published, updatedAt := now }
  | .manualReview => some { task with status := .reviewable, updatedAt := now }
  | _ => none

def completePublish (workerID publishID : String) (result : PublishResult) (now : Time)
    (s : MemoryStore) : Outcome Unit :=
  match s.publishes.get publishID with
  | none => fail s .notFound
  | some value =>
  if value.claimWorker ≠ workerID ∨ value.claimExpires ≤ now ∨
      value.record.status ≠ .running then
    fail s .leaseLost
  else
  let completed := { value with
    record := { value.record with
      status := result.status, safeURL := result.safeURL
      providerRevision := result.providerRevision, errorCode := result.errorCode
      retryable := result.retryable, updatedAt := now }
    claimWorker := "", claimExpires := 0
    availableAt :=
      if result.status = .retryable then now + 30 * second
      else if result.status = .reconciling then now + 10 * second
      else value.availableAt }
  let task := (s.tasks.get value.record.taskID).getD {}
  let payload := rt.marshalBytes (.obj [("error_code", .str result.errorCode),
    ("publish_id", .str publishID), ("status", .str result.status.text)])
  ({ s with
      publishes := s.publishes.set publishID completed
      tasks := (completedTask task result.status now).elim s.tasks (s.tasks.set task.taskID)
      events := s.appendTaskEventLocked call value.tenantID value.ownerID value.record.taskID
        ("publish." ++ rt.toLower result.status.text) payload },
    .ok ())

/-! ## Retention of published payloads -/

def publishPayloadRetentionWindow : Duration := 24 * 60 * minute

/-- The payload of a finished publish may be claimed for purging now. -/
def purgeable (value : MemoryPublish) (now : Time) : Bool :=
  (value.record.status == .succeeded || value.record.status == .manualReview) &&
    value.content.size != 0 &&
    !decide (now < value.record.updatedAt + publishPayloadRetentionWindow) &&
    !(value.retentionWorker != "" && decide (now < value.retentionExpires))

/-- The loop of `ClaimExpiredPublishPayloads`, which stops once `limit` payloads are claimed. -/
def claimPayloads (workerID : String) (now : Time) (limit : Int) (ttl : Duration) :
    List (String × MemoryPublish) → GoMap MemoryPublish → List PublishPayloadLease →
      GoMap MemoryPublish × List PublishPayloadLease
  | [], publishes, items => (publishes, items)
  | (publishID, value) :: rest, publishes, items =>
    if purgeable value now = false then
      claimPayloads workerID now limit ttl rest publishes items
    else
      let claimed := { value with retentionWorker := workerID, retentionExpires := now + ttl }
      let leases := items ++ [{
        publishID := publishID, contentHash := value.record.contentHash, workerID := workerID
        expiresAt := claimed.retentionExpires }]
      if leases.length = limit then (publishes.set publishID claimed, leases)
      else claimPayloads workerID now limit ttl rest (publishes.set publishID claimed) leases

def claimExpiredPublishPayloads (workerID : String) (now : Time) (limit : Int) (ttl : Duration)
    (s : MemoryStore) : Outcome (List PublishPayloadLease) :=
  if workerID = "" then fail s .invalidPayload
  else
    let claimed := claimPayloads workerID now (if limit < 1 then 1 else limit)
      (if ttl ≤ 0 then minute else ttl) (s.publishes.range call.order) s.publishes []
    ({ s with publishes := claimed.1 }, .ok claimed.2)

def purgePublishPayload (lease : PublishPayloadLease) (now : Time) (s : MemoryStore) :
    Outcome Unit :=
  match s.publishes.get lease.publishID with
  | none => fail s .notFound
  | some value =>
  if value.content.size = 0 ∧ value.payloadPurgedAt ≠ 0 then (s, .ok ())
  else if value.retentionWorker ≠ lease.workerID ∨ value.retentionExpires ≠ lease.expiresAt ∨
      value.retentionExpires ≤ now ∨ value.record.contentHash ≠ lease.contentHash then
    fail s .leaseLost
  else
    let purged := { value with
      content := ByteArray.empty, payloadPurgedAt := now, retentionWorker := ""
      retentionExpires := 0 }
    ({ s with publishes := s.publishes.set lease.publishID purged }, .ok ())

end MemoryStore

end PrdAgent.Runcontrol
