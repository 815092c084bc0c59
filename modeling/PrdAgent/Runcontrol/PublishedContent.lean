import PrdAgent.Runcontrol.ActivePublish
import PrdAgent.Runcontrol.UnitVersions

/-!
# What is queued for publication was reviewed

A preview stores the document of a task with the version of the task, and confirming it checks the
version only. `ReviewStep.document` says that every call that changes what a document is made from
advances the version of its task; so the stored content is still the document when the preview is
confirmed. A review command that fails after its first writes does not advance the version
(`stale_preview_confirmed`).
-/

namespace PrdAgent.Runcontrol

open GoText AssocMap Transition

/-! ## What a document is made from -/

def SameVersions (versions versions' : GoMap MemoryConfirmationVersion) (taskID : String) : Prop :=
  ∀ key version, version.taskID = taskID → version.value.outlineVersionID ≠ "" →
    (versions'.get key = some version ↔ versions.get key = some version)

theorem SameVersions.refl (versions : GoMap MemoryConfirmationVersion) (taskID : String) :
    SameVersions versions versions taskID := fun _ _ _ _ => Iff.rfl

variable {taskID : String}

theorem SameVersions.set {versions : GoMap MemoryConfirmationVersion} {key : String}
    {version : MemoryConfirmationVersion} (new : version.taskID ≠ taskID)
    (old : ∀ found, versions.get key = some found → found.taskID ≠ taskID) :
    SameVersions versions (versions.set key version) taskID := by
  intro other found ofTask _
  by_cases same : other = key
  · subst same
    rw [get_set_self]
    constructor
    · rintro is
      cases is
      exact absurd ofTask new
    · intro stored
      exact absurd ofTask (old found stored)
  · rw [get_set_ne _ _ same]

/-- What the document of a task is made from is the same in both. -/
structure SameDocument (data data' : ReviewData) (taskID : String) : Prop where
  outline : data'.outlines.get taskID = data.outlines.get taskID
  report : data'.reports.get taskID = data.reports.get taskID
  versions : SameVersions data.versions data'.versions taskID

theorem SameDocument.refl (data : ReviewData) (taskID : String) : SameDocument data data taskID :=
  ⟨rfl, rfl, .refl _ _⟩

theorem unitParagraphs_congr {report : FullReviewReport}
    {latest latest' : GoMap ConfirmationUnitVersion}
    (same : ∀ unitKey, latest'.get unitKey = latest.get unitKey) (units : List OutlineUnit) :
    MemoryStore.unitParagraphs report latest' units =
      MemoryStore.unitParagraphs report latest units := by
  induction units with
  | nil => rfl
  | cons planned rest ih =>
    unfold MemoryStore.unitParagraphs
    rw [same, ih]

variable {task : Task} {now : Time}

namespace MemoryStore

variable {rt : Runtime} {call call' : Call} {s t : MemoryStore}

theorem SameDocument.mem_outlineVersions_iff {outlineVersionID : String}
    (same : SameDocument s.reviewData t.reviewData taskID) (named : outlineVersionID ≠ "")
    (value : ConfirmationUnitVersion) : value ∈ outlineVersions call s taskID outlineVersionID ↔
      value ∈ outlineVersions call' t taskID outlineVersionID := by
  simp only [mem_outlineVersions]
  constructor
  · rintro ⟨key, version, stored, ofTask, ofOutline, is⟩
    exact ⟨key, version, (same.versions key version ofTask (ofOutline ▸ named)).mpr stored, ofTask,
      ofOutline, is⟩
  · rintro ⟨key, version, stored, ofTask, ofOutline, is⟩
    exact ⟨key, version, (same.versions key version ofTask (ofOutline ▸ named)).mp stored, ofTask,
      ofOutline, is⟩

variable {task' : Task}

/-- The document does not depend on the order in which versions are visited, nor on anything but
what it is made from. -/
theorem SameDocument.build_eq (same : SameDocument s.reviewData t.reviewData task.taskID)
    (sound : VersionsSound s.reviewData) (taskID : task'.taskID = task.taskID)
    (status : task'.status = task.status) (version : task'.version = task.version) :
    t.buildV4PublishDocumentLocked rt call' task' = s.buildV4PublishDocumentLocked rt call task := by
  have outline : t.reviewOutlines.get task.taskID = s.reviewOutlines.get task.taskID := same.outline
  have report : t.fullReviewReports.get task.taskID = s.fullReviewReports.get task.taskID :=
    same.report
  unfold buildV4PublishDocumentLocked
  rw [status, taskID, version, outline, report]
  split
  · rfl
  split
  · next outline report stored _ =>
    have named := sound.named task.taskID outline stored
    have latest (unitKey : String) :
        (latestByKey (outlineVersions call' t task.taskID outline.outlineVersionID)).get unitKey =
          (latestByKey (outlineVersions call s task.taskID outline.outlineVersionID)).get unitKey :=
      (latestByKey_congr (SameDocument.mem_outlineVersions_iff same named)
        (VersionsSound.distinctNumbers sound call named) unitKey).symm
    have paragraphs : unitParagraphs report _ outline.candidate.units = _ :=
      unitParagraphs_congr latest outline.candidate.units
    have keys := length_keys_congr latest
    unfold outlineVersions at paragraphs keys
    dsimp only
    rw [paragraphs, keys]
  · rfl

/-! ## Changes advance the version -/

theorem advanced_or_other {tasks : GoMap Task} {ofTask : String} {current : Task}
    {status : TaskStatus} (current_stored : tasks.get ofTask = some current)
    (stored : tasks.get taskID = some task)
    (stored' : (tasks.set ofTask (current.advanced status now)).get taskID = some task') :
    task.version < task'.version ∨ taskID ≠ ofTask := by
  rcases get_set_eq_some stored' with ⟨rfl, rfl⟩ | ⟨ne, -⟩
  · cases current_stored.symm.trans stored
    exact .inl (Int.lt_succ _)
  · exact .inr ne

/-- A call that changes what the document of a task is made from advances the task's version. -/
theorem ReviewStep.document {op : Op} {reply : Except StoreError Reply} {data : ReviewData}
    (step : ReviewStep rt call s op reply data) (anchored : Anchored s)
    (sound : VersionsSound s.reviewData) (unclaimed : OutputUnclaimed rt s ⟨call, op⟩)
    (settled : ∀ err, reply = .error err → data = s.reviewData)
    (stored : s.tasks.get taskID = some task)
    (stored' : data.tasks.get taskID = some task') :
    task.version < task'.version ∨ SameDocument s.reviewData data taskID := by
  cases step with
  | kept | created | publishConfirmed | publishCompleted => exact .inr ⟨rfl, rfl, .refl _ _⟩
  | outlineDrafted reply submits =>
    refine (advanced_or_other (submits.taskStored anchored).1 stored stored').imp_right fun ne => ?_
    exact ⟨get_set_ne _ _ ne, rfl, .refl _ _⟩
  | reviewed reply submits found locked status current =>
    refine (advanced_or_other (submits.taskStored anchored).1 stored stored').imp_right fun ne => ?_
    exact ⟨rfl, get_set_ne _ _ ne, .refl _ _⟩
  | unitGenerated reply submits pending
  | unitRevised reply submits reopened based =>
    refine (advanced_or_other (submits.taskStored anchored).1 stored stored').imp_right fun ne => ?_
    refine ⟨rfl, rfl, .set ne.symm fun found there => ?_⟩
    cases (submits.unclaimed unclaimed).1.symm.trans there
  | outlineLocked lockable outcome =>
    cases outcome with
    | failed err => exact .inr (settled err rfl ▸ .refl _ _)
    | succeeded reply is =>
      subst is
      have key : _ = _ := anchored.tasksKeyed _ _ lockable.taskStored
      refine (advanced_or_other (key ▸ lockable.taskStored) stored stored').imp_right fun ne => ?_
      exact ⟨get_set_ne _ _ ne, rfl, .refl _ _⟩
  | unitConfirmed decides dependencies idle outcome =>
    cases outcome with
    | failed err => exact .inr (settled err rfl ▸ .refl _ _)
    | succeeded reply is =>
      obtain ⟨status, -, rfl⟩ := is
      refine (advanced_or_other decides.taskStored stored stored').imp_right fun ne => ?_
      have other := decides.versionTask.trans_ne ne.symm
      refine ⟨rfl, rfl, .set other fun found there => ?_⟩
      cases decides.versionStored.symm.trans there
      exact other
  | unitReopened decides independent idle outcome =>
    cases outcome with
    | failed err => exact .inr (settled err rfl ▸ .refl _ _)
    | succeeded reply is =>
      subst is
      refine (advanced_or_other decides.taskStored stored stored').imp_right fun ne => ?_
      have other := decides.versionTask.trans_ne ne.symm
      refine ⟨rfl, get_del_ne _ ne, .set other fun found there => ?_⟩
      cases decides.versionStored.symm.trans there
      exact other
  | draftSubmitted reply draftID scope candidates runStored taskStored =>
    obtain ⟨found, key⟩ := anchored.runTask runStored
    rw [← taskStored] at found key
    refine (advanced_or_other (key ▸ found) stored stored').imp_right fun ne => ?_
    refine ⟨rfl, rfl, fun _ _ ofTask outlined => ⟨fun stored => ?_, fun stored => ?_⟩⟩
    · rcases storeDraftUnits_get stored with stored | ⟨other, -⟩
      · exact stored
      · exact absurd (ofTask.symm.trans other) ne
    · obtain ⟨digest, rfl⟩ := sound.filed _ _ stored outlined
      exact (storeDraftUnits_get_other (reviewVersionID_ne digest)).trans stored
  | draftDecided reply status taskStatus noOutline taskStored found versionTask =>
    refine (advanced_or_other taskStored stored stored').imp_right fun ne => ?_
    have other := versionTask.trans_ne ne.symm
    refine ⟨rfl, rfl, .set other fun found' there => ?_⟩
    cases found.symm.trans there
    exact other

end MemoryStore

/-! ## The content of a publish -/

/-- A publish succeeded or was handed to a person. -/
def PublishStatus.ended : PublishStatus → Bool
  | .succeeded | .manualReview => true
  | _ => false

/-- Only the payloads of ended publishes are claimed for purging. -/
def MemoryPublish.Retained (value : MemoryPublish) : Prop :=
  0 < value.retentionExpires → value.record.status.ended = true

/-- A later state of the same publish, with its content if it has not ended. -/
def MemoryPublish.Keeps (value value' : MemoryPublish) : Prop :=
  value.Retained → value'.Retained ∧ value.Descends value' ∧
    (value'.record.status.ended = false →
      value.record.status.ended = false ∧ value'.content = value.content)

theorem MemoryPublish.Keeps.refl (value : MemoryPublish) : value.Keeps value :=
  fun retained => ⟨retained, .refl value, fun going => ⟨going, rfl⟩⟩

variable {value : MemoryPublish}

variable {value' : MemoryPublish}

theorem MemoryPublish.Keeps.trans {value'' : MemoryPublish}
    (first : value.Keeps value') (second : value'.Keeps value'') : value.Keeps value'' := by
  intro retained
  obtain ⟨retained, descends, content⟩ := first retained
  obtain ⟨retained, descends', content'⟩ := second retained
  refine ⟨retained, descends.trans descends', fun going => ?_⟩
  obtain ⟨going, same⟩ := content' going
  exact ⟨(content going).1, same.trans (content going).2⟩

/-- A publish that has not ended moves on without its payload being claimed. -/
theorem MemoryPublish.Keeps.going
    (going : value.record.status.ended = false) (descends : value.Descends value')
    (retention : value'.retentionExpires = value.retentionExpires)
    (content : value'.content = value.content) : value.Keeps value' := by
  intro retained
  refine ⟨fun claimed => ?_, descends, fun _ => ⟨going, content⟩⟩
  rw [retained (retention ▸ claimed)] at going
  cases going

theorem claimable_going (can : MemoryStore.claimable value now = true) :
    value.record.status.ended = false := by
  have active := claimable_active can
  revert active
  cases value.record.status <;> simp [PublishStatus.active, PublishStatus.ended]

namespace MemoryStore

variable {rt : Runtime} {s t : MemoryStore}

/-- Payloads are purged at times after the zero time. -/
def PurgesInTime (input : Input) : Prop :=
  match input.op with
  | .purgePublishPayload _ now => 0 ≤ now
  | _ => True

instance (input : Input) : Decidable (PurgesInTime input) := by
  unfold PurgesInTime
  split <;> infer_instance

variable {input : Input} {publishID : String} {value : MemoryPublish} {task : Task}
  {now : Time}

variable {call : Call}

/-- The payload of a publish is purged only after it has ended. -/
theorem PublishMove.keeps {op : Op}
    (move : PublishMove op publishID value value') (inTime : PurgesInTime ⟨call, op⟩) :
    value.Keeps value' := by
  have descends := move.descends
  cases move with
  | claimed _ can => exact .going (claimable_going can) descends rfl rfl
  | completed _ held unexpired running => exact .going (running ▸ rfl) descends rfl rfl
  | payloadClaimed _ can =>
    refine fun _ => ⟨fun _ => ?_, descends, fun going => ⟨going, rfl⟩⟩
    unfold purgeable at can
    simp only [Bool.and_eq_true, Bool.or_eq_true, beq_iff_eq] at can
    rcases can.1.1.1 with status | status
    all_goals
      rw [status]
      rfl
  | purged held unexpired hash =>
    -- a payload whose claim is still running belongs to a publish that has ended
    refine fun retained => ⟨fun claimed => absurd claimed (lt_irrefl _), descends, fun going => ?_⟩
    have ended := retained (lt_of_le_of_lt inTime unexpired)
    cases ended.symm.trans going

theorem apply_publishes_keep (inTime : PurgesInTime input) (rt : Runtime) (s : MemoryStore) :
    Follows MemoryPublish.Keeps s.publishes (apply rt input s).1.publishes ∨
      Previews rt s input (apply rt input s).1.publishes :=
  apply_publishes_follows .refl .trans
    (fun _ preview _ => .going (preview ▸ rfl) ⟨rfl, rfl, rfl, rfl, rfl, rfl⟩ rfl rfl)
    (fun move => move.keeps inTime) rt s

theorem apply_publishes_went (fresh : Fresh s input) (inTime : PurgesInTime input) :
    Into MemoryPublish.Keeps s.publishes (apply rt input s).1.publishes := by
  rcases apply_publishes_keep inTime rt s with kept | ⟨_, _, _, _, _, _, _, _, -, -, -, -, publishes⟩
  · exact kept.went
  · rw [publishes]
    exact .insert .refl fresh.2.2 _

/-! ## The content is the document of the version -/

/-- A publish has a version its task had, and until it has ended its content is the document of the
task, as long as the task has that version and an outline. -/
structure PublishSound (rt : Runtime) (s : MemoryStore) (value : MemoryPublish) : Prop where
  retained : value.Retained
  versioned : ∀ task, s.tasks.get value.record.taskID = some task →
    value.record.taskVersion ≤ task.version
  current : value.record.status.ended = false → ∀ task outline,
    s.tasks.get value.record.taskID = some task → task.version = value.record.taskVersion →
    s.reviewOutlines.get value.record.taskID = some outline → ∀ call, ∃ document,
      s.buildV4PublishDocumentLocked rt call { task with status := .reviewable } = .ok document ∧
      document.content = value.content ∧ document.contentHash = value.record.contentHash

/-- Everything that a preview's content rests on. -/
structure PublishesSound (rt : Runtime) (s : MemoryStore) : Prop where
  anchored : Anchored s
  closed : AllUnitsClosed s.reviewUnits
  versions : VersionsSound s.reviewData
  publishes : ∀ publishID value, s.publishes.get publishID = some value → PublishSound rt s value

/-- Review commands fail only before their first writes, new outputs draw identifiers of their own,
and the clock of purges has started. -/
structure KeepsDocuments (rt : Runtime) (s : MemoryStore) (input : Input) : Prop where
  ready : FollowUpReady rt s input
  unclaimed : OutputUnclaimed rt s input
  inTime : PurgesInTime input

theorem PublishSound.preview (sound : VersionsSound s.reviewData) {tenantID ownerID : String}
    {source : PublishSource} (stored : s.tasks.get taskID = some task)
    (built : s.publishSourceLocked rt call task taskID = .ok source) :
    PublishSound rt s (previewOf call tenantID ownerID taskID task source now) where
  retained := fun claimed => absurd claimed (lt_irrefl _)
  versioned := by
    intro task' stored'
    cases stored.symm.trans stored'
    exact le_refl _
  current := by
    intro _ task' outline stored' _ outlineStored call'
    cases stored.symm.trans stored'
    unfold publishSourceLocked at built
    rw [show s.reviewOutlines.get taskID = some outline from outlineStored] at built
    dsimp only at built
    split at built
    · cases built
    · next document made =>
      cases built
      have same : s.buildV4PublishDocumentLocked rt call' { task with status := .reviewable } =
          s.buildV4PublishDocumentLocked rt call task := by
        refine SameDocument.build_eq (.refl s.reviewData task.taskID) sound rfl ?_ rfl
        by_contra status
        rw [buildV4PublishDocumentLocked, if_pos (Ne.symm status)] at made
        cases made
      exact ⟨document, same.trans made, rfl, rfl⟩

/-- A publish of before keeps its content, which is the document as long as the version is the
task's. -/
theorem PublishSound.step {input : Input} (anchored : Anchored s)
    (versions : VersionsSound s.reviewData) (fresh : Fresh s input)
    (allowed : KeepsDocuments rt s input) {value : MemoryPublish}
    (taskStored : s.tasks.get value.record.taskID = some task) (keeps : value.Keeps value')
    (sound : PublishSound rt s value) : PublishSound rt (apply rt input s).1 value' := by
  obtain ⟨retained, descends, content⟩ := keeps sound.retained
  have follow : Into Task.Continues s.tasks (apply rt input s).1.tasks :=
    apply_tasksContinue anchored fresh
  obtain ⟨task', taskStored', continues⟩ := follow value.record.taskID task taskStored
  have versioned := sound.versioned task taskStored
  refine ⟨retained, fun found there => ?_, fun going found outline there version outlined call => ?_⟩
  all_goals
    rw [descends.taskID] at there
    cases taskStored'.symm.trans there
    have later := continues.version
    have same := descends.taskVersion
  · omega
  · rw [descends.taskID] at outlined
    obtain ⟨wasGoing, sameContent⟩ := content going
    have document := (apply_review rt input s).document anchored versions allowed.unclaimed
      (fun err failed => apply_review_of_error anchored.tasksKeyed allowed.ready failed) taskStored
      taskStored'
    have unchanged := document.resolve_left (by omega)
    have key : task.taskID = value.record.taskID := anchored.tasksKeyed _ _ taskStored
    obtain ⟨document, built, isContent, isHash⟩ := sound.current wasGoing task outline taskStored
      (by omega) (unchanged.outline.symm.trans outlined) call
    have equal : (apply rt input s).1.buildV4PublishDocumentLocked rt call
          { task' with status := .reviewable } =
        s.buildV4PublishDocumentLocked rt call { task with status := .reviewable } :=
      SameDocument.build_eq (key.symm ▸ unchanged) versions
        (continues.taskID) rfl (by change task'.version = task.version; omega)
    exact ⟨document, equal.trans built, isContent.trans sameContent.symm,
      isHash.trans descends.contentHash.symm⟩

theorem apply_publishesSound (fresh : Fresh s input)
    (allowed : KeepsDocuments rt s input) (sound : PublishesSound rt s) :
    PublishesSound rt (apply rt input s).1 := by
  refine ⟨apply_anchored fresh sound.anchored, apply_unitsClosed rt input sound.closed,
    (apply_review rt input s).versionsSound sound.anchored.tasksKeyed sound.closed allowed.unclaimed
      sound.versions,
    fun publishID value' stored' => ?_⟩
  have step {value value' : MemoryPublish} (stored : s.publishes.get publishID = some value)
      (keeps : value.Keeps value') : PublishSound rt (apply rt input s).1 value' := by
    obtain ⟨task, taskStored, -⟩ := sound.anchored.publishes publishID value stored
    exact .step sound.anchored sound.versions fresh allowed taskStored keeps
      (sound.publishes publishID value stored)
  rcases apply_publishes_keep allowed.inTime rt s with kept | ⟨tenantID, ownerID, taskID, key,
    expected, now, task, source, is, taskStored, -, built, publishes⟩
  · obtain ⟨value, stored, keeps⟩ := kept.came publishID value' stored'
    exact step stored keeps
  · rw [publishes] at stored'
    rcases get_set_eq_some stored' with ⟨-, rfl⟩ | ⟨-, stored⟩
    · exact .step sound.anchored sound.versions fresh allowed taskStored (.refl _)
        (.preview sound.versions taskStored built)
    · exact step stored (.refl value')

theorem History.publishesSound {policy : QueuePolicy} {events : List StoreEvent}
    (history : History rt (KeepsDocuments rt) (newMemoryStore policy) events s) :
    PublishesSound rt s := by
  refine history.invariant (I := PublishesSound rt)
    (fun _ _ allowed sound => apply_publishesSound allowed.1 allowed.2 sound)
    ⟨.initial policy, fun taskID units stored => ?_, VersionsSound.initial policy,
      fun publishID value stored => ?_⟩
  · cases stored
  · cases stored

theorem History.publishesKeep {events : List StoreEvent}
    (history : History rt (KeepsDocuments rt) s events t) :
    Into MemoryPublish.Keeps s.publishes t.publishes :=
  history.relates (I := fun _ => True)
    (R := fun s t : MemoryStore => Into MemoryPublish.Keeps s.publishes t.publishes)
    (fun s => .refl .refl s.publishes) (fun first second => first.trans .trans second)
    (fun _ _ _ _ => trivial)
    (fun _ _ allowed _ => apply_publishes_went allowed.1 allowed.2.inTime) trivial

/-! ## Queued content -/

/-- The content is the title of the outline and the texts of its units in order, each from the
unit's latest version, which is confirmed and has the content that the passed review saw. -/
structure Reviewed (s : MemoryStore) (call : Call) (taskID : String)
    (outline : ReviewOutlineVersion) (report : FullReviewReport)
    (versions : List ConfirmationUnitVersion) (content : ByteArray) : Prop where
  outlineStored : s.reviewOutlines.get taskID = some outline
  locked : outline.status = .locked
  reportStored : s.fullReviewReports.get taskID = some report
  passed : report.disposition = "PASSED"
  ofOutline : report.outlineVersionID = outline.outlineVersionID
  units : List.Forall₂ (fun planned version =>
    IsLatest (outlineVersions call s taskID outline.outlineVersionID) planned.unitKey version ∧
    version.confirmationStatus = .confirmed ∧
    bareSHA256 ((report.unitHashes.get planned.unitKey).getD "") =
      bareSHA256 version.contentHash) outline.candidate.units versions
  content : content = (joinParagraphs (("# " ++ trimSpace outline.candidate.title) ::
    versions.map fun version => trimSpace version.markdown)).toUTF8

theorem unitParagraphs_eq_some {report : FullReviewReport} {all : List ConfirmationUnitVersion}
    {units : List OutlineUnit} {paragraphs : List String}
    (made : unitParagraphs report (latestByKey all) units = some paragraphs) :
    ∃ versions : List ConfirmationUnitVersion, List.Forall₂ (fun planned version =>
        IsLatest all planned.unitKey version ∧ version.confirmationStatus = .confirmed ∧
        bareSHA256 ((report.unitHashes.get planned.unitKey).getD "") =
          bareSHA256 version.contentHash) units versions ∧
      paragraphs = versions.map fun version => trimSpace version.markdown := by
  induction units generalizing paragraphs with
  | nil =>
    cases made
    exact ⟨[], .nil, rfl⟩
  | cons planned rest ih =>
    unfold unitParagraphs at made
    split at made
    · cases made
    next version found =>
    split at made
    · cases made
    next checked =>
    obtain ⟨paragraphs', madeRest, rfl⟩ := Option.map_eq_some_iff.mp made
    obtain ⟨versions, matched, rfl⟩ := ih madeRest
    rw [not_or, not_not, not_not] at checked
    exact ⟨version :: versions, .cons ⟨latestByKey_latest found, checked⟩ matched,
      rfl⟩

theorem buildV4PublishDocumentLocked_reviewed {document : PublishDocument}
    (built : s.buildV4PublishDocumentLocked rt call task = .ok document) :
    ∃ outline report versions,
      Reviewed s call task.taskID outline report versions document.content := by
  dsimp only [buildV4PublishDocumentLocked] at built
  repeat' split at built
  all_goals cases built
  next outline report outlineStored reportStored checked _ paragraphs made _ =>
  simp only [not_or, ne_eq, not_not] at checked
  obtain ⟨versions, matched, rfl⟩ := unitParagraphs_eq_some made
  exact ⟨outline, report, versions, outlineStored, checked.1, reportStored, checked.2.1,
    checked.2.2, matched, rfl⟩

theorem queued_version {preview pending : MemoryPublish}
    (before : s.publishes.get publishID = some preview)
    (previewed : preview.record.status = .preview)
    (after : (apply rt input s).1.publishes.get publishID = some pending)
    (queued : pending.record.status = .pending) :
    ∃ task, (apply rt input s).1.tasks.get preview.record.taskID = some task ∧
      task.version = preview.record.taskVersion := by
  have effect := apply_publishes rt input s
  have step := apply_review rt input s
  obtain ⟨call, op⟩ := input
  change ∃ task, (apply rt ⟨call, op⟩ s).1.reviewData.tasks.get _ = some task ∧ _
  generalize (apply rt ⟨call, op⟩ s).1.publishes = publishes at effect after
  have kept {value : MemoryPublish} (stored : publishes.get publishID = some value)
      (status : value.record.status = .preview) : False := by
    cases stored.symm.trans after
    cases status.symm.trans queued
  cases effect with
  | previewed taskStored owner version built =>
    rcases get_set_eq_some after with ⟨-, rfl⟩ | ⟨ne, -⟩
    · cases queued
    · exact (kept ((get_set_ne _ _ ne).trans before) previewed).elim
  | confirmed confirms =>
    rcases get_set_eq_some after with ⟨rfl, -⟩ | ⟨ne, -⟩
    · cases before.symm.trans confirms.stored
      have version := confirms.taskVersion.trans confirms.version.symm
      rw [confirms.ofTask]
      generalize (apply rt ⟨call, _⟩ s).2 = reply, (apply rt ⟨call, _⟩ s).1.reviewData = data
        at step ⊢
      cases step with
      | kept => exact ⟨_, confirms.taskStored, version⟩
      | draftDecided _ _ _ _ _ _ _ decision => cases decision
      | publishConfirmed reply now taskStored =>
        cases confirms.taskStored.symm.trans taskStored
        exact ⟨_, get_set_self _ _ _, version⟩
    · exact (kept ((get_set_ne _ _ ne).trans before) previewed).elim
  | moved moves =>
    have each {value value' : MemoryPublish} (move : PublishMove op publishID value value')
        (status : value.record.status = .preview) : value'.record.status = .preview := by
      cases move with
      | claimed _ can =>
        have active := claimable_active can
        rw [status] at active
        cases active
      | completed _ held unexpired running => cases status.symm.trans running
      | payloadClaimed | purged => exact status
    obtain ⟨value, stored, still⟩ := moves.forth each (fun _ => id)
      (fun first second => second ∘ first) before
    exact (kept stored (still previewed)).elim

/-- In every history whose review commands fail only before their first writes: when a publish of a
task with an outline goes from preview to pending, its content is the document that would be built
for the task in that state, were it reviewable; and until it has ended neither its content nor the
hash of it changes. -/
theorem queued_content_reviewed {policy : QueuePolicy} {past later : List StoreEvent}
    {event : StoreEvent} {final : MemoryStore}
    (history : History rt (KeepsDocuments rt) (newMemoryStore policy) (past ++ event :: later) final)
    {publishID : String} {preview pending : MemoryPublish} {outline : ReviewOutlineVersion}
    (before : event.before.publishes.get publishID = some preview)
    (previewed : preview.record.status = .preview)
    (after : event.after.publishes.get publishID = some pending)
    (queued : pending.record.status = .pending)
    (outlined : event.after.reviewOutlines.get pending.record.taskID = some outline) :
    (∃ task, event.after.tasks.get pending.record.taskID = some task ∧ ∀ call,
      ∃ document outline report versions,
        event.after.buildV4PublishDocumentLocked rt call { task with status := .reviewable } =
          .ok document ∧
        pending.content = document.content ∧ pending.record.contentHash = document.contentHash ∧
        Reviewed event.after call pending.record.taskID outline report versions pending.content) ∧
    ∀ value, final.publishes.get publishID = some value → value.record.status.ended = false →
      value.content = pending.content ∧ value.record.contentHash = pending.record.contentHash := by
  obtain ⟨reached, past, rest⟩ := history.split
  obtain ⟨is, allowed, rest⟩ := rest.uncons
  generalize event.input = input at is allowed
  subst is
  dsimp only [Event.of] at before after outlined rest ⊢
  have sound := apply_publishesSound allowed.1 allowed.2 (History.publishesSound past)
  have follow : Into MemoryPublish.Descends reached.publishes
      (apply rt input reached).1.publishes := apply_publishes_into allowed.1
  obtain ⟨found, there, descends⟩ := follow publishID preview before
  cases after.symm.trans there
  obtain ⟨task, taskStored, version⟩ := queued_version before previewed after queued
  rw [← descends.taskID] at taskStored
  have pendingSound := sound.publishes publishID pending after
  constructor
  · refine ⟨task, taskStored, fun call => ?_⟩
    obtain ⟨document, built, content, hash⟩ := pendingSound.current (by rw [queued]; rfl) task
      outline taskStored (version.trans descends.taskVersion.symm) outlined call
    obtain ⟨outline, report, versions, reviewed⟩ := buildV4PublishDocumentLocked_reviewed built
    rw [content] at reviewed
    have key : task.taskID = pending.record.taskID := sound.anchored.tasksKeyed _ _ taskStored
    exact ⟨document, outline, report, versions, built, content.symm, hash.symm, key ▸ reviewed⟩
  · intro value stored going
    obtain ⟨latest, there, keeps⟩ := History.publishesKeep rest publishID pending after
    cases stored.symm.trans there
    obtain ⟨-, descends, content⟩ := keeps pendingSound.retained
    exact ⟨(content going).2, descends.contentHash⟩

/-! ## A preview from before a failed command -/

def reviewText : FullReviewCandidate := {
  schemaVersion := "full-review-report.v1"
  -- the digest of the outline
  outlineHash := "56b0bf4b47a32c486f1ff618ea07be160a1fd68b5f6de3e8335538c7d730d02b"
  unitHashes := (∅ : GoMap String).set "u" unitText.contentHash }

def reviewJson : Json := .obj [
  ("schema_version", .str reviewText.schemaVersion), ("outline_hash", .str reviewText.outlineHash),
  ("unit_hashes", unitHashesJson reviewText.unitHashes), ("outcome", .str "PASSED")]

def reviewTexts : Runtime := .ofKnown {
  outlines := [(jsonText (outlineHashPayload oneUnitOutline), oneUnitOutline)]
  units := [(jsonText (unitCandidateJson unitText), unitText)]
  unitRefs := [(jsonText (unitCandidateJson unitText), ⟨[], []⟩)]
  reviews := [(jsonText reviewJson, reviewText)]
  outcomes := [(jsonText reviewJson, "PASSED")]
  rawKeys := [(jsonText reviewJson, ["schema_version", "outline_hash", "unit_hashes", "outcome"])] }

def reviewOutput : RunOutput :=
  let payload := jsonText reviewJson
  { schemaVersion := "run-output.v1", outputKey := "review", outputKind := .fullReviewReport
    runPurpose := .fullReview, expectedTaskVersion := 5
    -- the digest of the scope that the full-review run was given
    scopeHash := "9beec39f52bc44ad09ca64c8b5f4f0aadc669fe9322767451d88e87eb7f4b1e3"
    payload := payload, contentHash := reviewTexts.hashBytesHex payload }

def reviewLease : LeaseContext := ⟨"run-e1", "lease-f1", "worker", 1, 60⟩

def documentPreviewed : List Input := unitSubmitted ++ [
  ⟨.at 8 "d3", .completeRun unitLease .succeeded 8⟩,
  versionConfirmed 9 "e1" "64f18f157792b5e2a1ea5ad352818c95e033b34d447a2bf127d82dbe4114d60c" "cu" 4,
  ⟨.at 10 "f1", .acquireRun "run-e1" "worker" 10 50⟩,
  ⟨.at 11 "f2", .submitRunOutput reviewLease reviewOutput⟩,
  ⟨.at 12 "f3", .completeRun reviewLease .succeeded 12⟩,
  ⟨.at 13 "a2", .createPublishPreview "tenant" "ann" "task-a1" "p" 6 13⟩]

def previewConfirmed : Input := ⟨.at 17 "a6", .confirmPublish "tenant" "ann" "task-a1" "publish-a2"
  "PL_XUNlf7PKLxsGYfAZx9rGkrLLsmR7MncC41AcWQJw" "c" 6 17⟩

def reopenedInFullQueue : List Input := documentPreviewed ++ [
  ⟨.at 14 "a3", .createTaskWithRun "tenant" "bob" "m" "start"⟩,
  ⟨.at 15 "a4", .createTaskWithRun "tenant" "cat" "m" "start"⟩,
  ⟨.at 16 "a5", .reopenConfirmationUnit "tenant" "ann" "task-a1"
    "review-unit-version-64f18f157792b5e2a1ea5ad352818c95e033b34d447a2bf127d82dbe4114d60c" "again"
    "ro" 6⟩]

/-- A preview is confirmed although no document can be built any more: the reopening that failed has
taken the unit back and removed the report, and the task still has its version. -/
theorem stale_preview_confirmed : ∃ past event preview pending task,
    History reviewTexts (fun _ _ => True) (newMemoryStore smallQueue) (past ++ [event]) event.after ∧
      event.before.publishes.get "publish-a2" = some preview ∧ preview.record.status = .preview ∧
      event.after.publishes.get "publish-a2" = some pending ∧ pending.record.status = .pending ∧
      (event.after.reviewOutlines.get "task-a1").isSome = true ∧
      event.after.tasks.get "task-a1" = some task ∧
      ∀ call, event.after.buildV4PublishDocumentLocked reviewTexts call
        { task with status := .reviewable } = .error ⟨.invalidRunStatus, ""⟩ := by
  obtain ⟨past, event, history, preview, before, previewStatus, pending, after, pendingStatus,
      outlined, task, taskStored, taskID, noReport⟩ : ∃ past event,
      History reviewTexts (fun _ _ => True) (newMemoryStore smallQueue) (past ++ [event])
        event.after ∧
      ∃ preview ∈ event.before.publishes.get "publish-a2", preview.record.status = .preview ∧
        ∃ pending ∈ event.after.publishes.get "publish-a2", pending.record.status = .pending ∧
          (event.after.reviewOutlines.get "task-a1").isSome = true ∧
          ∃ task ∈ event.after.tasks.get "task-a1", task.taskID = "task-a1" ∧
            (event.after.fullReviewReports.get "task-a1").isNone = true :=
    exists_run_concat reopenedInFullQueue previewConfirmed (by decide +kernel)
  rw [Option.isNone_iff_eq_none] at noReport
  refine ⟨past, event, preview, pending, task, history, before, previewStatus, after, pendingStatus,
    outlined, taskStored, fun call => ?_⟩
  unfold buildV4PublishDocumentLocked
  rw [if_neg (not_not.mpr rfl), taskID]
  split
  · next stored => cases noReport.symm.trans stored
  · rfl

theorem queued_content_reviewed_one_unit : ∃ (event : StoreEvent) (pending : MemoryPublish),
    event.after.publishes.get "publish-a2" = some pending ∧ pending.record.status = .pending ∧
      ∀ call, ∃ outline report versions,
        Reviewed event.after call pending.record.taskID outline report versions pending.content := by
  obtain ⟨past, event, accepted, preview, before, previewStatus, pending, after, pendingStatus,
      outlined⟩ : ∃ past event,
      History reviewTexts (fun s input => Succeeds reviewTexts s input ∧
        OutputUnclaimed reviewTexts s input ∧ PurgesInTime input) (newMemoryStore smallQueue)
        (past ++ [event]) event.after ∧
      ∃ preview ∈ event.before.publishes.get "publish-a2", preview.record.status = .preview ∧
        ∃ pending ∈ event.after.publishes.get "publish-a2", pending.record.status = .pending ∧
          (event.after.reviewOutlines.get pending.record.taskID).isSome = true :=
    exists_run_concat documentPreviewed previewConfirmed (by decide +kernel)
  have history : History reviewTexts (KeepsDocuments reviewTexts) (newMemoryStore smallQueue) _ _ :=
    accepted.mono_of_invariant
      (I := fun s => s.tasks.Keyed Task.taskID) (fun _ input _ keyed => apply_tasksKeyed _ input keyed)
      (fun s input keyed allowed => ⟨allowed.1, FollowUpReady.of_succeeds keyed allowed.2.1,
        allowed.2.2.1, allowed.2.2.2⟩) (.empty _)
  obtain ⟨outline, outlineStored⟩ := Option.isSome_iff_exists.mp outlined
  obtain ⟨⟨task, -, built⟩, -⟩ := queued_content_reviewed history before previewStatus after
    pendingStatus outlineStored
  refine ⟨event, pending, after, pendingStatus, fun call => ?_⟩
  obtain ⟨-, outline, report, versions, -, -, -, reviewed⟩ := built call
  exact ⟨outline, report, versions, reviewed⟩

end MemoryStore

end PrdAgent.Runcontrol
