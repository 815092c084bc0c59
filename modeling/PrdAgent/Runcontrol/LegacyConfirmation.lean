import PrdAgent.Runcontrol.LatestDrafts
import PrdAgent.Runcontrol.ActivePublish
import PrdAgent.Runcontrol.RunProvision

/-!
# Confirming the units of drafts

A task without an outline is reviewed by the units of its latest draft. `LegacySound` says that a
confirmed unit of that draft has confirmed dependencies, and that all units are confirmed when the task
is `REVIEWABLE`. A new draft takes confirmations over from its base, and a publish that ends in manual
review makes its task `REVIEWABLE` again; so the invariant also says that all units are confirmed while
a publish of the task is open (`OpenPublish`). A step keeps it if the drafts are submitted and units
reopened with some care (`KeepsConfirmations`).
-/

namespace PrdAgent.Runcontrol

open GoText AssocMap

/-! ## Open publishes -/

def MemoryPublish.openAt (value : MemoryPublish) (version : Int) : Prop :=
  value.record.status.active = true ∨
    value.record.status = .preview ∧ value.record.taskVersion = version

def OpenPublish (publishes : GoMap MemoryPublish) (taskID : String) (version : Int) : Prop :=
  ∃ publishID value, publishes.get publishID = some value ∧ value.record.taskID = taskID ∧
    value.openAt version

variable {op : Op}

section

variable {publishes publishes' : GoMap MemoryPublish} {taskID : String} {version : Int}

theorem OpenPublish.of_moves (moves : Moves (MemoryStore.PublishMove op) publishes publishes')
    (after : OpenPublish publishes' taskID version) : OpenPublish publishes taskID version := by
  obtain ⟨publishID, value', stored', ofTask, opened⟩ := after
  have each {value value' : MemoryPublish} (move : MemoryStore.PublishMove op publishID value value') :
      value'.record.taskID = value.record.taskID ∧
        (value'.openAt version → value.openAt version) := by
    refine ⟨move.descends.taskID, fun opened => ?_⟩
    cases move with
    | claimed _ can => exact .inl (claimable_active can)
    | completed _ held unexpired running => exact .inl (running ▸ rfl)
    | payloadClaimed | purged => exact opened
  obtain ⟨value, stored, same, back⟩ := moves.back each (fun _ => ⟨rfl, id⟩)
    (fun first second => ⟨second.1.trans first.1, first.2 ∘ second.2⟩) stored'
  exact ⟨publishID, value, stored, same.symm.trans ofTask, back opened⟩

end

namespace MemoryStore

variable {rt : Runtime} {call : Call} {s t : MemoryStore} {taskID draftID : String} {task task' : Task}
  {draft : MemoryDraft}

def PublishesBounded (s : MemoryStore) : Prop :=
  ∀ publishID value task, s.publishes.get publishID = some value →
    s.tasks.get value.record.taskID = some task → value.record.taskVersion ≤ task.version

variable {input : Input}

theorem apply_publishesBounded (fresh : Fresh s input) (anchored : Anchored s)
    (bounded : PublishesBounded s) : PublishesBounded (apply rt input s).1 := by
  intro publishID value' task' stored' taskStored'
  have follow : Into Task.Continues s.tasks (apply rt input s).1.tasks :=
    apply_tasksContinue anchored fresh
  have later {task : Task} (taskStored : s.tasks.get value'.record.taskID = some task) :
      task.version ≤ task'.version := by
    obtain ⟨after, there, continues⟩ := follow _ _ taskStored
    cases taskStored'.symm.trans there
    exact continues.version
  rcases apply_publish_descends rt input stored' with ⟨value, stored, descends⟩ |
    ⟨_, _, _, _, _, _, task, _, -, taskStored, -, -, -, rfl⟩
  · obtain ⟨task, taskStored, -⟩ := anchored.publishes publishID value stored
    rw [descends.taskVersion]
    exact (bounded publishID value task stored taskStored).trans
      (later (descends.taskID ▸ taskStored))
  · exact later taskStored

/-- A step opens a publish of a task without an outline only by a preview of its latest draft, all of
whose units are confirmed. -/
theorem apply_openPublish (bounded : PublishesBounded s)
    (taskStored : s.tasks.get taskID = some task) (noOutline : s.reviewOutlines.get taskID = none)
    (later : task.version ≤ task'.version)
    (after : OpenPublish (apply rt input s).1.publishes taskID task'.version) :
    OpenPublish s.publishes taskID task.version ∨ ∃ draft, s.LatestDraft taskID draft ∧
        DraftConfirmed s.confirmationVersions taskID draft.draftID := by
  have effect := apply_publishes rt input s
  have back (before : OpenPublish s.publishes taskID task'.version) :
      OpenPublish s.publishes taskID task.version := by
    -- no publish is for a later version than the task has
    obtain ⟨publishID, value, stored, ofTask, active | ⟨preview, same⟩⟩ := before
    · exact ⟨publishID, value, stored, ofTask, .inl active⟩
    · have bound := bounded publishID value task stored (ofTask ▸ taskStored)
      exact ⟨publishID, value, stored, ofTask, .inr ⟨preview, by omega⟩⟩
  obtain ⟨call, op⟩ := input
  generalize (apply rt ⟨call, op⟩ s).1.publishes = publishes at effect after
  cases effect with
  | @previewed _ _ previewed _ _ _ _ _ previewedStored owner version built =>
    obtain ⟨publishID, value, stored, ofTask, opened⟩ := after
    rcases get_set_eq_some stored with ⟨rfl, rfl⟩ | ⟨-, stored⟩
    · cases ofTask
      unfold publishSourceLocked at built
      have noOutline : s.reviewOutlines.get previewed = none := noOutline
      rw [noOutline] at built
      dsimp only at built
      split at built
      · cases built
      next draft found =>
      split at built
      · cases built
      next confirmed =>
      refine .inr ⟨draft, latestDraftLocked_latest found, fun key version stored ofDraft => ?_⟩
      rw [Bool.not_eq_true, any_values_eq_false] at confirmed
      have is := confirmed key version stored
      rw [ofDraft.2] at is
      simpa using is
    · exact .inl (back ⟨publishID, value, stored, ofTask, opened⟩)
  | @confirmed _ _ confirmedTask publishID _ _ _ _ _ value confirms =>
    obtain ⟨other, found, stored, ofTask, opened⟩ := after
    rcases get_set_eq_some stored with ⟨rfl, rfl⟩ | ⟨-, stored⟩
    · refine .inl ⟨other, value, confirms.stored, ofTask, .inr ⟨confirms.preview, ?_⟩⟩
      have same : confirmedTask = taskID := confirms.ofTask.symm.trans ofTask
      subst same
      cases taskStored.symm.trans confirms.taskStored
      exact confirms.version.trans confirms.taskVersion.symm
    · exact .inl (back ⟨other, found, stored, ofTask, opened⟩)
  | moved moves => exact .inl (back (after.of_moves moves))

/-! ## The invariant -/

/-- The confirmed units of a draft have confirmed dependencies. -/
def DraftClosed (versions : GoMap MemoryConfirmationVersion) (taskID draftID : String) : Prop :=
  ∀ key version, versions.get key = some version → OfDraft taskID draftID version →
    version.value.confirmationStatus = .confirmed → ∀ dependency ∈ version.value.dependsOn,
      ConfirmedKey versions taskID draftID dependency

/-- What holds of the units of a draft: they are closed, and all confirmed when the task may be, or
become, `REVIEWABLE`. -/
structure UnitsSound (s : MemoryStore) (taskID draftID : String) (task : Task) : Prop where
  closed : DraftClosed s.confirmationVersions taskID draftID
  confirmed : task.status = .reviewable ∨ OpenPublish s.publishes taskID task.version →
    DraftConfirmed s.confirmationVersions taskID draftID

/-- The units of the latest drafts of tasks without an outline are sound. -/
def LegacySound (s : MemoryStore) : Prop :=
  ∀ taskID task draft, s.tasks.get taskID = some task → s.reviewOutlines.get taskID = none →
    s.LatestDraft taskID draft → UnitsSound s taskID draft.draftID task

/-- The drafts and versions of a task are the same in two stores. -/
structure SameDrafts (s t : MemoryStore) (taskID : String) : Prop where
  drafts : ∀ draft, t.DraftOf taskID draft ↔ s.DraftOf taskID draft
  versions : ∀ key version, version.taskID = taskID →
    (t.confirmationVersions.get key = some version ↔ s.confirmationVersions.get key = some version)

namespace SameDrafts

section

variable (same : SameDrafts s t taskID)

include same

theorem latest (after : t.LatestDraft taskID draft) :
    s.LatestDraft taskID draft :=
  ⟨(same.drafts draft).mp after.ofTask,
    fun other ofTask => after.last other ((same.drafts other).mpr ofTask)⟩

theorem draftConfirmed
    (before : DraftConfirmed s.confirmationVersions taskID draftID) :
    DraftConfirmed t.confirmationVersions taskID draftID :=
  fun key version stored ofDraft =>
    before key version ((same.versions key version ofDraft.1).mp stored) ofDraft

theorem draftClosed
    (before : DraftClosed s.confirmationVersions taskID draftID) :
    DraftClosed t.confirmationVersions taskID draftID := by
  intro key version stored ofDraft confirmed dependency needed
  obtain ⟨key', version', stored', ofDraft', is⟩ := before key version
    ((same.versions key version ofDraft.1).mp stored) ofDraft confirmed dependency needed
  exact ⟨key', version', (same.versions key' version' ofDraft'.1).mpr stored', ofDraft', is⟩

end

end SameDrafts

/-! ## Decisions about the units of the latest draft -/

variable {version : MemoryConfirmationVersion} {versions : GoMap MemoryConfirmationVersion}
  {key : String}

theorem ConfirmedKey.confirm {unitKey : String} (stored : versions.get key = some version)
    (confirmed : ConfirmedKey versions taskID draftID unitKey) :
    ConfirmedKey (versions.set key (decided version .confirmed)) taskID draftID unitKey := by
  obtain ⟨other, found, there, ofDraft, named, is⟩ := confirmed
  by_cases same : other = key
  · subst same
    cases stored.symm.trans there
    exact ⟨other, _, get_set_self _ _ _, ofDraft, named, rfl⟩
  · exact ⟨other, found, (get_set_ne _ _ same).trans there, ofDraft, named, is⟩

theorem DraftClosed.confirm (closed : DraftClosed versions taskID draftID)
    (stored : versions.get key = some version)
    (dependencies : ∀ dependency ∈ version.value.dependsOn,
      ConfirmedKey versions taskID draftID dependency) :
    DraftClosed (versions.set key (decided version .confirmed)) taskID draftID := by
  intro other found there ofDraft confirmed dependency needed
  rcases get_set_eq_some there with ⟨-, rfl⟩ | ⟨-, there⟩
  · exact (dependencies dependency needed).confirm stored
  · exact (closed other found there ofDraft confirmed dependency needed).confirm stored

def ActivePublish (publishes : GoMap MemoryPublish) (taskID : String) : Prop :=
  ∃ publishID value, publishes.get publishID = some value ∧ value.activeFor taskID = true

theorem OpenPublish.active (bounded : PublishesBounded s) (taskStored : s.tasks.get taskID = some task)
    (opened : OpenPublish s.publishes taskID (task.version + 1)) :
    ActivePublish s.publishes taskID := by
  obtain ⟨publishID, value, stored, ofTask, active | ⟨-, same⟩⟩ := opened
  · exact ⟨publishID, value, stored, Bool.and_eq_true_iff.mpr ⟨beq_iff_eq.mpr ofTask, active⟩⟩
  · have bound := bounded publishID value task stored (ofTask ▸ taskStored)
    omega

theorem ActivePublish.opened (active : ActivePublish s.publishes taskID) (version : Int) :
    OpenPublish s.publishes taskID version := by
  obtain ⟨publishID, value, stored, is⟩ := active
  obtain ⟨ofTask, active⟩ := Bool.and_eq_true_iff.mp is
  exact ⟨publishID, value, stored, beq_iff_eq.mp ofTask, .inl active⟩

theorem DraftDecided.unitsSound {status : UnitStatus} (decision : DraftDecided call s taskID t status)
    (filed : DraftsFiled s) (bounded : PublishesBounded s)
    (taskStored : s.tasks.get taskID = some task)
    (taskStored' : t.tasks.get taskID = some task') (latest : s.LatestDraft taskID draft)
    (publishes : t.publishes = s.publishes)
    (alone : status = .reopened → t = s ∨ ¬ ActivePublish s.publishes taskID)
    (sound : UnitsSound s taskID draft.draftID task) : UnitsSound t taskID draft.draftID task' := by
  have unchanged (same : t = s) : UnitsSound t taskID draft.draftID task' := by
    subst same
    cases taskStored.symm.trans taskStored'
    exact sound
  cases decision with
  | kept same => exact unchanged same
  | @confirmed _ _ _ status target dependencies next tasks versions =>
    cases taskStored.symm.trans target.taskStored
    rw [tasks, get_set_self] at taskStored'
    cases taskStored'
    rw [target.latest.trans (latest.latestDraftIDLocked filed taskStored call)]
      at dependencies next
    have kept (all : DraftConfirmed s.confirmationVersions taskID draft.draftID) :
        DraftConfirmed t.confirmationVersions taskID draft.draftID := by
      rw [versions]
      intro other found there ofDraft
      rcases get_set_eq_some there with ⟨-, rfl⟩ | ⟨-, there⟩
      · rfl
      · exact all other found there ofDraft
    refine ⟨?_, fun is => ?_⟩
    · rw [versions]
      exact sound.closed.confirm target.stored dependencies
    rcases is with reviewable | opened
    · rcases next with same | all
      · exact kept (sound.confirmed (.inl (same.symm.trans reviewable)))
      · exact all
    · rw [publishes] at opened
      have active := OpenPublish.active bounded taskStored opened
      exact kept (sound.confirmed (.inr (active.opened task.version)))
  | reopened target independent tasks versions =>
    rcases alone rfl with same | alone
    · exact unchanged same
    cases taskStored.symm.trans target.taskStored
    rw [tasks, get_set_self] at taskStored'
    cases taskStored'
    rw [target.latest.trans (latest.latestDraftIDLocked filed taskStored call)] at independent
    refine ⟨?_, fun is => ?_⟩
    · rw [versions]
      intro other found there ofDraft confirmed dependency needed
      rcases get_set_eq_some there with ⟨-, rfl⟩ | ⟨-, before⟩
      · cases confirmed
      obtain ⟨key', found', there', ofDraft', named, is⟩ :=
        sound.closed other found before ofDraft confirmed dependency needed
      refine ⟨key', found', (get_set_ne _ _ ?_).trans there', ofDraft', named, is⟩
      rintro rfl
      cases target.stored.symm.trans there'
      exact independent other found before ofDraft.2 confirmed (named ▸ needed)
    rcases is with reviewable | opened
    · cases reviewable
    · rw [publishes] at opened
      exact absurd (OpenPublish.active bounded taskStored opened) alone

/-! ## New drafts -/

/-- The units of a draft of the run that take a confirmation over from the run's base draft. -/
def carriedOver (s : MemoryStore) (runID : String) (candidates : List ConfirmationCandidate) :
    List ConfirmationCandidate :=
  candidates.filter fun candidate => draftUnitStatus ((s.revisionScopes.get runID).getD {}) candidate
    s.confirmationVersions == .confirmed

/-- The identifiers of a new draft and of its units are not in use. -/
def draftUnclaimed (rt : Runtime) (s : MemoryStore) (runID draftID : String) (task : Task)
    (candidates : List ConfirmationCandidate) : Bool :=
  draftID != ((s.revisionScopes.get runID).getD {}).baseDraftID &&
    !(s.confirmationVersions.values.any (·.value.draftID == draftID)) &&
    candidates.all (fun candidate =>
      (s.confirmationVersions.get (draftVersionID rt task.taskID draftID candidate)).isNone) &&
    decide (candidates.map (draftVersionID rt task.taskID draftID)).Nodup

/-- The confirmations that a new draft takes over suit it: they are closed under dependencies, and
complete unless the task is neither `REVIEWABLE` nor being published. -/
def confirmationsSuit (s : MemoryStore) (runID : String) (task : Task)
    (candidates : List ConfirmationCandidate) : Bool :=
  let carried := s.carriedOver runID candidates
  (carried.all fun candidate => candidate.dependsOn.all fun dependency =>
    carried.any (·.unitKey == dependency)) &&
  (carried.length == candidates.length ||
    task.status != .reviewable && !(s.publishes.values.any (·.activeFor task.taskID)))

/-- The step leaves the confirmations of drafts in order: a new draft takes over confirmations that
suit it, and no unit of a draft is reopened while a publish of the task is active. Calls that are
answered from a record do nothing. -/
def keepsConfirmations (rt : Runtime) (s : MemoryStore) (input : Input) : Bool :=
  input.op.replayed s || match input.op with
  | .submitDraft lease draftKey _ patch =>
    match s.runs.get lease.runID with
    | none => true
    | some run =>
      let task := (s.tasks.get run.taskID).getD {}
      match parseConfirmationCandidates rt patch task.taskID lease.runID with
      | .error _ => true
      | .ok candidates =>
        draftUnclaimed rt s lease.runID ("draft-" ++ rt.stableHash (joinKey task.taskID draftKey))
          task candidates &&
        ((s.reviewOutlines.get task.taskID).isSome || s.confirmationsSuit lease.runID task candidates)
  | .reopenConfirmationUnit _ _ taskID _ _ _ _ =>
    (s.reviewOutlines.get taskID).isSome || !(s.publishes.values.any (·.activeFor taskID))
  | _ => true

def KeepsConfirmations (rt : Runtime) (s : MemoryStore) (input : Input) : Prop :=
  keepsConfirmations rt s input = true

instance : Decidable (KeepsConfirmations rt s input) := inferInstanceAs (Decidable (_ = true))

theorem activePublish_iff :
    ActivePublish s.publishes taskID ↔ s.publishes.values.any (·.activeFor taskID) = true := by
  rw [any_values]
  rfl

section

variable {lease : LeaseContext} {draftKey : String} {patch : ByteArray}
  {candidates : List ConfirmationCandidate}

theorem draftUnclaimed_first
    (unclaimed : draftUnclaimed rt s runID draftID task candidates = true)
    (stored : s.confirmationVersions.get key = some version) :
    version.value.draftID ≠ draftID := by
  unfold draftUnclaimed at unclaimed
  simp only [Bool.and_eq_true, Bool.not_eq_true', any_values_eq_false, beq_eq_false_iff_ne]
    at unclaimed
  exact unclaimed.1.1.2 key version stored

variable (unclaimed : draftUnclaimed rt s lease.runID
  ("draft-" ++ rt.stableHash (joinKey task.taskID draftKey)) task candidates = true)

include unclaimed

theorem storeDraft_get_iff :
    (s.storeDraft rt call lease draftKey patch task candidates).confirmationVersions.get key =
        some version ↔ s.confirmationVersions.get key = some version ∨ ∃ candidate ∈ candidates,
        key = draftVersionID rt task.taskID
          ("draft-" ++ rt.stableHash (joinKey task.taskID draftKey)) candidate ∧
        version = draftVersion rt call (task.advanced task.status call.now)
          ("draft-" ++ rt.stableHash (joinKey task.taskID draftKey))
          ((s.revisionScopes.get lease.runID).getD {}) s.confirmationVersions candidate := by
  unfold draftUnclaimed at unclaimed
  simp only [Bool.and_eq_true, bne_iff_ne, decide_eq_true_eq, List.all_eq_true,
    Option.isNone_iff_eq_none] at unclaimed
  obtain ⟨⟨⟨base, -⟩, unused⟩, apart⟩ := unclaimed
  have unused : ∀ candidate ∈ candidates, s.confirmationVersions.get (draftVersionID rt
      (task.advanced task.status call.now).taskID _ candidate) = none := unused
  exact storeDraftUnits_get_iff_of_unclaimed unused apart base

theorem storeDraft_unitsSound (bounded : PublishesBounded s)
    (taskStored : s.tasks.get task.taskID = some task) (suit : s.confirmationsSuit lease.runID task candidates = true) :
    UnitsSound (s.storeDraft rt call lease draftKey patch task candidates) task.taskID
      ("draft-" ++ rt.stableHash (joinKey task.taskID draftKey))
      (task.advanced task.status call.now) := by
  have carried {candidate : ConfirmationCandidate} :
      candidate ∈ s.carriedOver lease.runID candidates ↔ candidate ∈ candidates ∧
        draftUnitStatus ((s.revisionScopes.get lease.runID).getD {}) candidate
          s.confirmationVersions = .confirmed := by
    unfold carriedOver
    rw [List.mem_filter, beq_iff_eq]
  unfold confirmationsSuit at suit
  simp only [Bool.and_eq_true, List.all_eq_true, List.any_eq_true, beq_iff_eq, Bool.or_eq_true,
    bne_iff_ne, Bool.not_eq_true'] at suit
  obtain ⟨closed, complete⟩ := suit
  have isNew {key : String} {version : MemoryConfirmationVersion}
      (stored : (s.storeDraft rt call lease draftKey patch task
        candidates).confirmationVersions.get key = some version)
      (ofDraft : OfDraft task.taskID ("draft-" ++ rt.stableHash (joinKey task.taskID draftKey))
        version) :=
    ((storeDraft_get_iff unclaimed).mp stored).resolve_left fun before =>
      draftUnclaimed_first unclaimed before ofDraft.2
  refine ⟨fun key version stored ofDraft confirmed dependency needed => ?_,
    fun is key version stored ofDraft => ?_⟩
  · obtain ⟨candidate, mem, -, rfl⟩ := isNew stored ofDraft
    obtain ⟨other, there, rfl⟩ := closed candidate (carried.mpr ⟨mem, confirmed⟩) dependency needed
    obtain ⟨listed, is⟩ := carried.mp there
    exact ⟨_, _, (storeDraft_get_iff unclaimed).mpr (.inr ⟨other, listed, rfl, rfl⟩), ⟨rfl, rfl⟩,
      rfl, is⟩
  · obtain ⟨candidate, mem, -, rfl⟩ := isNew stored ofDraft
    rcases complete with all | ⟨status, idle⟩
    · have same : s.carriedOver lease.runID candidates = candidates :=
        List.filter_sublist.eq_of_length all
      rw [← same] at mem
      exact (carried.mp mem).2
    · rcases is with reviewable | opened
      · exact absurd reviewable status
      · have active := activePublish_iff.mp (OpenPublish.active bounded taskStored opened)
        rw [idle] at active
        cases active

end

/-! ## Other steps -/

theorem DraftsFiled.ne_of_decides (filed : DraftsFiled s) {decision : UnitDecision}
    {needed : UnitStatus} {unit : ReviewUnit} (noOutline : s.reviewOutlines.get taskID = none)
    (decides : Decides s decision needed task version unit) : decision.taskID ≠ taskID := by
  rcases filed.versions _ _ decides.versionStored with ⟨outline, stored⟩ | withDraft
  · exact decides.versionTask ▸ ne_of_get noOutline stored
  · exact absurd withDraft.noOutline decides.ofOutline

/-- Beside drafts and the decisions about them, no step touches the versions of a task without an
outline. -/
theorem ReviewStep.version_iff {reply : Except StoreError Reply} {data : ReviewData}
    (step : ReviewStep rt call s op reply data) (filed : DraftsFiled s)
    (other : ∀ lease draftKey expected patch, op ≠ .submitDraft lease draftKey expected patch)
    (apart : decidedTask op ≠ some taskID) (noOutline : s.reviewOutlines.get taskID = none)
    (ofTask : version.taskID = taskID) :
    data.versions.get key = some version ↔ s.confirmationVersions.get key = some version := by
  subst ofTask
  have write {key' : String} {version' : MemoryConfirmationVersion}
      (free : ∀ before, s.confirmationVersions.get key' = some before →
        before.taskID ≠ version.taskID) (ne : version'.taskID ≠ version.taskID) :
      (s.confirmationVersions.set key' version').get key = some version ↔
        s.confirmationVersions.get key = some version := by
    rw [get_set]
    split
    · next same =>
      subst same
      constructor
      · intro is
        cases is
        exact absurd rfl ne
      · intro before
        exact absurd rfl (free _ before)
    · rfl
  cases step with
  | kept | created | outlineDrafted | reviewed | outlineLocked | publishConfirmed
  | publishCompleted => rfl
  | unitGenerated reply submits found | unitRevised reply submits found based =>
    refine write (fun before stored same => ?_) (ne_of_get noOutline (lockedUnit_ok found).outlineStored)
    rcases filed.versions _ _ stored with ⟨outline, outlined⟩ | withDraft
    · exact ne_of_get noOutline outlined same
    · obtain ⟨digest, is⟩ := withDraft.filed
      exact reviewVersionID_ne _ _ is
  | unitConfirmed decides dependencies idle outcome
  | unitReopened decides independent idle outcome =>
    have ne := filed.ne_of_decides noOutline decides
    refine write (fun before stored => ?_) (decides.versionTask.trans_ne ne)
    cases decides.versionStored.symm.trans stored
    exact decides.versionTask.trans_ne ne
  | draftDecided reply status taskStatus noOutline taskStored found versionTask decision =>
    have ne : _ ≠ version.taskID := fun same => apart (decision.trans (congrArg some same))
    refine write (fun before stored => ?_) (versionTask.trans_ne ne)
    cases found.symm.trans stored
    exact versionTask.trans_ne ne
  | draftSubmitted => exact absurd rfl (other _ _ _ _)

/-- A task without an outline that is `REVIEWABLE` after a step was so before, or a publish of it was
active, unless a unit of its draft was decided. -/
theorem ReviewStep.reviewable_came {reply : Except StoreError Reply} {data : ReviewData}
    (step : ReviewStep rt call s op reply data) (anchored : Anchored s) (filed : DraftsFiled s)
    (apart : decidedTask op ≠ some taskID) (noOutline : data.outlines.get taskID = none)
    (taskStored : s.tasks.get taskID = some task) (taskStored' : data.tasks.get taskID = some task')
    (reviewable : task'.status = .reviewable) :
    task.status = .reviewable ∨ ActivePublish s.publishes taskID := by
  have unchanged (same : s.tasks.get taskID = some task') :
      task.status = .reviewable ∨ ActivePublish s.publishes taskID := by
    cases taskStored.symm.trans same
    exact .inl reviewable
  have set {taskID' : String} {task'' : Task}
      (stored : (s.tasks.set taskID' task'').get taskID = some task')
      (own : taskID' = taskID → task''.status = .reviewable →
        task.status = .reviewable ∨ ActivePublish s.publishes taskID) :
      task.status = .reviewable ∨ ActivePublish s.publishes taskID := by
    rcases get_set_eq_some stored with ⟨same, rfl⟩ | ⟨-, stored⟩
    · exact own same.symm reviewable
    · exact unchanged stored
  have outcome {taskID' : String} {advanced : Task → Prop} {tasks : GoMap Task}
      (outcome : TaskOutcome s.tasks taskID' advanced reply tasks)
      (stored : tasks.get taskID = some task') (ne : taskID' ≠ taskID) :
      task.status = .reviewable ∨ ActivePublish s.publishes taskID := by
    cases outcome with
    | failed => exact unchanged stored
    | succeeded => exact set stored fun same => absurd same ne
  cases step with
  | kept => exact unchanged taskStored'
  | created value named status =>
    refine set taskStored' fun _ is => ?_
    cases status.symm.trans is
  | outlineDrafted =>
    exact set taskStored' fun same => absurd same (ne_of_get noOutline (get_set_self ..))
  | unitGenerated reply submits found | unitRevised reply submits found based =>
    exact set taskStored' fun same =>
      absurd same (ne_of_get noOutline (lockedUnit_ok found).outlineStored)
  | reviewed reply submits stored =>
    exact set taskStored' fun same => absurd same (ne_of_get noOutline stored)
  | outlineLocked lockable ended =>
    exact outcome ended taskStored' (ne_of_get noOutline (get_set_self ..))
  | unitConfirmed decides dependencies idle ended
  | unitReopened decides independent idle ended =>
    exact outcome ended taskStored' (filed.ne_of_decides noOutline decides)
  | draftSubmitted reply draftID scope candidates stored is =>
    obtain ⟨there, key⟩ := anchored.runTask stored
    rw [← is] at there key
    refine set taskStored' fun same status => ?_
    cases taskStored.symm.trans ((key.symm.trans same) ▸ there)
    exact .inl status
  | draftDecided reply status taskStatus noOutline stored found versionTask decision =>
    exact set taskStored' fun same => absurd (decision.trans (congrArg some same)) apart
  | publishConfirmed reply now stored found ofTask version preview =>
    exact set taskStored' fun _ is => nomatch is
  | @publishCompleted _ publishID _ _ _ value reply now stored running is ended =>
    obtain ⟨owner, there, -⟩ := anchored.publishes _ _ stored
    refine set taskStored' fun same _ => .inr ⟨publishID, value, stored, ?_⟩
    rw [there] at is
    subst is
    have key := anchored.tasksKeyed _ _ there
    unfold MemoryPublish.activeFor
    rw [Bool.and_eq_true, beq_iff_eq, running]
    exact ⟨key.symm.trans same, rfl⟩

/-- What the steps of a history keep. -/
structure ConfirmationsKept (s : MemoryStore) : Prop where
  anchored : Anchored s
  filed : DraftsFiled s
  bounded : PublishesBounded s
  sound : LegacySound s

section

variable (fresh : Fresh s input) (kept : ConfirmationsKept s)

include fresh kept

theorem apply_unitsSound_of_other (same : SameDrafts s (apply rt input s).1 taskID)
    (apart : decidedTask input.op ≠ some taskID)
    (noOutline : (apply rt input s).1.reviewOutlines.get taskID = none)
    (noOutlineBefore : s.reviewOutlines.get taskID = none)
    (taskStored : s.tasks.get taskID = some task)
    (taskStored' : (apply rt input s).1.tasks.get taskID = some task')
    (latest : s.LatestDraft taskID draft) :
    UnitsSound (apply rt input s).1 taskID draft.draftID task' := by
  have before := kept.sound taskID task draft taskStored noOutlineBefore latest
  refine ⟨same.draftClosed before.closed, fun is => same.draftConfirmed ?_⟩
  rcases is with reviewable | opened
  · rcases (apply_review rt input s).reviewable_came kept.anchored kept.filed apart noOutline
      taskStored taskStored' reviewable with reviewable | active
    · exact before.confirmed (.inl reviewable)
    · exact before.confirmed (.inr (active.opened task.version))
  · have follow : Into Task.Continues s.tasks (apply rt input s).1.tasks :=
      apply_tasksContinue kept.anchored fresh
    obtain ⟨after, there, continues⟩ := follow _ _ taskStored
    cases taskStored'.symm.trans there
    rcases apply_openPublish kept.bounded taskStored noOutlineBefore continues.version opened with
      opened | ⟨draft', latest', confirmed⟩
    · exact before.confirmed (.inr opened)
    · cases kept.filed.latest_unique taskStored latest latest'
      exact confirmed

end

/-! ## Every history -/

theorem KeepsConfirmations.suits {lease : LeaseContext} {draftKey : String} {expected : Int}
    {patch : ByteArray} {run : AgentRun} {candidates : List ConfirmationCandidate}
    (keeps : KeepsConfirmations rt s ⟨call, .submitDraft lease draftKey expected patch⟩)
    (submits : SubmitsDraft rt call s lease draftKey expected patch run task candidates) :
    draftUnclaimed rt s lease.runID ("draft-" ++ rt.stableHash (joinKey task.taskID draftKey)) task
        candidates = true ∧ (s.reviewOutlines.get task.taskID = none →
        s.confirmationsSuit lease.runID task candidates = true) := by
  obtain ⟨runStored, taskIs, unused, -, parsed⟩ := submits
  unfold KeepsConfirmations keepsConfirmations Op.replayed at keeps
  dsimp only at keeps
  rw [runStored, Option.any_some, ← taskIs, unused, Option.isSome_none, Bool.false_or] at keeps
  dsimp only at keeps
  rw [← taskIs, parsed] at keeps
  obtain ⟨unclaimed, suits⟩ := Bool.and_eq_true_iff.mp keeps
  refine ⟨unclaimed, fun noOutline => ?_⟩
  rw [noOutline] at suits
  exact suits

theorem submitDraft_legacySound {lease : LeaseContext} {draftKey : String} {expected : Int}
    {patch : ByteArray} (fresh : Fresh s ⟨call, .submitDraft lease draftKey expected patch⟩)
    (kept : ConfirmationsKept s)
    (keeps : KeepsConfirmations rt s ⟨call, .submitDraft lease draftKey expected patch⟩)
    (is : (submitDraft rt call lease draftKey expected patch s).1 = t)
    (noOutline : t.reviewOutlines.get taskID = none)
    (noOutlineBefore : s.reviewOutlines.get taskID = none) (free : NulFree taskID)
    (taskStored' : t.tasks.get taskID = some task') (latest : t.LatestDraft taskID draft) :
    UnitsSound t taskID draft.draftID task' := by
  have other (same : SameDrafts s t taskID) : UnitsSound t taskID draft.draftID task' := by
    have before := same.latest latest
    obtain ⟨task, taskStored, -⟩ := kept.filed.task before.ofTask free
    subst is
    exact apply_unitsSound_of_other fresh kept same nofun noOutline noOutlineBefore taskStored
      taskStored' before
  have outcome : DraftOutcome rt call s lease draftKey expected patch t :=
    is ▸ submitDraft_outcome ..
  cases outcome with
  | kept => exact other ⟨fun _ => Iff.rfl, fun _ _ _ => Iff.rfl⟩
  | @stored run task candidates submits =>
    have taskStored := submits.stored kept.anchored
    obtain ⟨unclaimed, suits⟩ := keeps.suits submits
    by_cases own : taskID = task.taskID
    · subst own
      have new : draft = newDraft rt call lease draftKey patch task := by
        have filed := kept.filed
        have unused := submits.unused
        have free := (filed.nulFree _ _ taskStored).1
        have there : (s.storeDraft rt call lease draftKey patch task candidates).DraftOf task.taskID
            (newDraft rt call lease draftKey patch task) :=
          (draftOf_storeDraft free free unused).mpr (.inr ⟨rfl, rfl⟩)
        rcases (draftOf_storeDraft free free unused).mp latest.ofTask with old | ⟨-, new⟩
        · obtain ⟨owner, known, -, bound, -⟩ := filed.task old free
          cases taskStored.symm.trans known
          have last := latest.last _ there
          dsimp only [newDraft] at last
          omega
        · exact new
      subst new
      cases (get_set_self ..).symm.trans taskStored'
      exact storeDraft_unitsSound unclaimed kept.bounded taskStored (suits noOutlineBefore)
    · refine other ⟨fun draft => ?_, ?_⟩
      · rw [draftOf_storeDraft free (kept.filed.nulFree _ _ taskStored).1 submits.unused]
        exact or_iff_left fun is => own is.1
      · rintro key version rfl
        rw [storeDraft_get_iff unclaimed]
        refine or_iff_left ?_
        rintro ⟨candidate, -, -, rfl⟩
        exact own rfl

theorem apply_legacySound_of_other (fresh : Fresh s input) (kept : ConfirmationsKept s)
    (keeps : KeepsConfirmations rt s input)
    (other : ∀ lease draftKey expected patch, input.op ≠ .submitDraft lease draftKey expected patch)
    (noOutline : (apply rt input s).1.reviewOutlines.get taskID = none)
    (noOutlineBefore : s.reviewOutlines.get taskID = none) (free : NulFree taskID)
    (taskStored' : (apply rt input s).1.tasks.get taskID = some task')
    (latest : (apply rt input s).1.LatestDraft taskID draft) :
    UnitsSound (apply rt input s).1 taskID draft.draftID task' := by
  have drafts : (apply rt input s).1.drafts = s.drafts := apply_drafts input other
  have ofTask (draft : MemoryDraft) :
      (apply rt input s).1.DraftOf taskID draft ↔ s.DraftOf taskID draft := by
    unfold DraftOf
    rw [drafts]
  have latestBefore : s.LatestDraft taskID draft :=
    ⟨(ofTask draft).mp latest.ofTask, fun found there => latest.last found ((ofTask found).mpr there)⟩
  -- a task that is new has no draft
  obtain ⟨task, taskStored, -⟩ := kept.filed.task latestBefore.ofTask free
  have before := kept.sound taskID task draft taskStored noOutlineBefore latestBefore
  by_cases decides : decidedTask input.op = some taskID
  · obtain ⟨call, op⟩ := input
    cases op
    case confirmConfirmationUnit tenantID ownerID taskID' unitVersionID key expected =>
      cases decides
      exact (confirmConfirmationUnit_draft tenantID ownerID taskID unitVersionID key expected
        noOutlineBefore).unitsSound kept.filed kept.bounded taskStored taskStored' latestBefore
        (apply_frame rt ⟨call, .confirmConfirmationUnit tenantID ownerID taskID unitVersionID key
          expected⟩ s .publishes (by simp)) nofun before
    case reopenConfirmationUnit tenantID ownerID taskID' unitVersionID feedback key expected =>
      cases decides
      refine (reopenConfirmationUnit_draft tenantID ownerID taskID unitVersionID feedback key expected
        noOutlineBefore).unitsSound kept.filed kept.bounded taskStored taskStored' latestBefore
        (apply_frame rt ⟨call, .reopenConfirmationUnit tenantID ownerID taskID unitVersionID feedback
          key expected⟩ s .publishes (by simp))
        (fun _ => ?_) before
      unfold KeepsConfirmations keepsConfirmations at keeps
      rcases Bool.or_eq_true_iff.mp keeps with replayed | idle
      · exact .inl (replayed_unchanged rfl replayed)
      · dsimp only at idle
        rw [noOutlineBefore] at idle
        refine .inr fun active => ?_
        rw [activePublish_iff.mp active] at idle
        cases idle
    all_goals cases decides
  · exact apply_unitsSound_of_other fresh kept
      ⟨ofTask, fun key version is =>
        (apply_review rt input s).version_iff kept.filed other decides noOutlineBefore is⟩
      decides noOutline noOutlineBefore taskStored taskStored' latestBefore

theorem apply_legacySound (fresh : Fresh s input) (kept : ConfirmationsKept s)
    (keeps : KeepsConfirmations rt s input) : LegacySound (apply rt input s).1 := by
  intro taskID task' draft taskStored' noOutline latest
  have filed' : DraftsFiled (apply rt input s).1 :=
    apply_draftsFiled fresh kept.anchored kept.filed
  have free := (filed'.nulFree _ _ taskStored').1
  have noOutlineBefore : s.reviewOutlines.get taskID = none := by
    by_contra stored
    obtain ⟨outline, stored⟩ := Option.ne_none_iff_exists'.mp stored
    obtain ⟨after, there⟩ := (apply_review rt input s).outline_stored ⟨outline, stored⟩
    cases noOutline.symm.trans there
  by_cases submits : ∃ lease draftKey expected patch,
      input.op = .submitDraft lease draftKey expected patch
  · obtain ⟨call, op⟩ := input
    obtain ⟨lease, draftKey, expected, patch, rfl⟩ := submits
    exact submitDraft_legacySound fresh kept keeps rfl noOutline noOutlineBefore free taskStored'
      latest
  · exact apply_legacySound_of_other fresh kept keeps
      (fun lease draftKey expected patch is => submits ⟨lease, draftKey, expected, patch, is⟩)
      noOutline noOutlineBefore free taskStored' latest

theorem History.confirmationsKept {policy : QueuePolicy} {events : List StoreEvent}
    (history : History rt (KeepsConfirmations rt) (newMemoryStore policy) events s) :
    ConfirmationsKept s :=
  history.invariant (I := ConfirmationsKept)
    (fun _ _ allowed kept => ⟨apply_anchored allowed.1 kept.anchored,
      apply_draftsFiled allowed.1 kept.anchored kept.filed,
      apply_publishesBounded allowed.1 kept.anchored kept.bounded,
      apply_legacySound allowed.1 kept allowed.2⟩)
    ⟨.initial policy, .initial policy,
      fun _ _ _ stored => (nomatch stored),
      fun _ _ _ stored => (nomatch stored)⟩

/-- In every history whose drafts take over confirmations that suit them and whose units are not
reopened during a publish, the units of the latest draft of a task without an outline are confirmed
after those they depend on, and all of them are confirmed when the task is `REVIEWABLE`. -/
theorem legacy_confirmation_sound {policy : QueuePolicy} {events : List StoreEvent}
    (history : History rt (KeepsConfirmations rt) (newMemoryStore policy) events s) (call : Call)
    (taskStored : s.tasks.get taskID = some task) (noOutline : s.reviewOutlines.get taskID = none) :
    (∀ key version, s.confirmationVersions.get key = some version → version.taskID = taskID →
      version.value.draftID = s.latestDraftIDLocked call taskID →
      version.value.confirmationStatus = .confirmed → ∀ dependency ∈ version.value.dependsOn,
        ConfirmedKey s.confirmationVersions taskID (s.latestDraftIDLocked call taskID) dependency) ∧
    (task.status = .reviewable → ∀ key version, s.confirmationVersions.get key = some version →
      version.taskID = taskID → version.value.draftID = s.latestDraftIDLocked call taskID →
      version.value.confirmationStatus = .confirmed) := by
  obtain ⟨-, filed, -, sound⟩ := History.confirmationsKept history
  cases found : s.latestDraftLocked call taskID with
  | none =>
    -- without a draft the task has no unit
    have none {key : String} {version : MemoryConfirmationVersion}
        (stored : s.confirmationVersions.get key = some version) (ofTask : version.taskID = taskID) :
        False := by
      subst ofTask
      rcases filed.versions key version stored with ⟨outline, outlined⟩ | withDraft
      · cases noOutline.symm.trans outlined
      · obtain ⟨draft, ofTask, -⟩ := withDraft.ofDraft
        exact latestDraftLocked_none found draft ofTask
    exact ⟨fun _ _ stored ofTask => (none stored ofTask).elim,
      fun _ _ _ stored ofTask => (none stored ofTask).elim⟩
  | some draft =>
    have latest := latestDraftLocked_latest found
    rw [latest.latestDraftIDLocked filed taskStored call]
    have units := sound taskID task draft taskStored noOutline latest
    exact ⟨fun key version stored ofTask ofDraft =>
        units.closed key version stored ⟨ofTask, ofDraft⟩,
      fun reviewable key version stored ofTask ofDraft =>
        units.confirmed (.inl reviewable) key version stored ⟨ofTask, ofDraft⟩⟩

/-! ## A draft after the review -/

def draftUnit (unitKey title markdown : String) (ordinal : Int) (dependsOn : List String) :
    ConfirmationCandidate := {
  unitKey := unitKey, title := title, ordinal := ordinal, markdown := markdown
  contentHash := Sha256.hex markdown.toUTF8, claimIDs := [], unknownIDs := [], dependsOn := dependsOn }

def scopeUnit : ConfirmationCandidate := draftUnit "scope" "Scope" "text" 0 []

def flowUnit : ConfirmationCandidate := draftUnit "flow" "Flow" "steps" 1 ["scope"]

def draftPatch : ByteArray := jsonText (.obj [
  ("schema_version", .str "working-draft.v2"), ("task_id", .str "task-a1"),
  ("run_id", .str "run-a1"),
  ("confirmation_units", .arr ([scopeUnit, flowUnit].map fun unit => .obj [
    ("unit_key", .str unit.unitKey), ("title", .str unit.title), ("order", .int unit.ordinal),
    ("markdown", .str unit.markdown), ("content_hash", .str unit.contentHash),
    ("claim_ids", .arr []), ("unknown_ids", .arr []),
    ("depends_on", .arr (unit.dependsOn.map .str))]))])

def draftTexts : Runtime := .ofKnown {
  drafts := [(draftPatch, ⟨"working-draft.v2", "task-a1", "run-a1", [scopeUnit, flowUnit]⟩)] }

def unitOfDraft (draftKey : String) (unit : ConfirmationCandidate) : String :=
  draftVersionID draftTexts "task-a1"
    ("draft-" ++ draftTexts.stableHash (joinKey "task-a1" draftKey)) unit

def draftConfirmed : List Input := [
  ⟨.at 1 "a1", .createTaskWithRun "tenant" "ann" "m" "start"⟩,
  ⟨.at 2 "b1", .acquireRun "run-a1" "worker" 2 50⟩,
  ⟨.at 3 "b2", .submitDraft firstLease "first" 1 draftPatch⟩,
  ⟨.at 4 "b3", .confirmConfirmationUnit "tenant" "ann" "task-a1" (unitOfDraft "first" scopeUnit)
    "scope" 2⟩,
  ⟨.at 5 "b4", .confirmConfirmationUnit "tenant" "ann" "task-a1" (unitOfDraft "first" flowUnit)
    "flow" 3⟩]

def draftSubmittedAgain : Input :=
  ⟨.at 6 "b5", .submitDraft firstLease "second" 4 draftPatch⟩

theorem legacy_confirmation_sound_confirmed : ∃ s version,
    ReachableBy draftTexts (KeepsConfirmations draftTexts) oneSlot s ∧
      s.confirmationVersions.get (unitOfDraft "first" flowUnit) = some version ∧
      version.value.draftID = s.latestDraftIDLocked (.at 6 "b5") "task-a1" ∧
      version.value.confirmationStatus = .confirmed ∧ version.value.dependsOn = ["scope"] ∧
      ConfirmedKey s.confirmationVersions "task-a1" (s.latestDraftIDLocked (.at 6 "b5") "task-a1")
        "scope" := by
  obtain ⟨events, s, history, noOutline, task, taskStored, reviewable, version, stored, ofTask,
      ofDraft, dependsOn⟩ :
      ∃ events s, History draftTexts (KeepsConfirmations draftTexts) (newMemoryStore oneSlot) events
          s ∧
        s.reviewOutlines.get "task-a1" = none ∧
        ∃ task ∈ s.tasks.get "task-a1", task.status = .reviewable ∧
          ∃ version ∈ s.confirmationVersions.get (unitOfDraft "first" flowUnit),
            version.taskID = "task-a1" ∧
            version.value.draftID = s.latestDraftIDLocked (.at 6 "b5") "task-a1" ∧
            version.value.dependsOn = ["scope"] :=
    Transition.exists_run draftConfirmed (by decide +kernel)
  obtain ⟨closed, all⟩ := legacy_confirmation_sound history (.at 6 "b5") taskStored noOutline
  have confirmed := all reviewable _ version stored ofTask ofDraft
  exact ⟨s, version, ⟨events, history⟩, stored, ofDraft, confirmed, dependsOn,
    closed _ version stored ofTask ofDraft confirmed "scope" (dependsOn ▸ .head _)⟩

/-- A run that still has its lease submits a draft after the review of the one before: the unit of the
latest draft is pending, and the task is `REVIEWABLE` all the same. -/
theorem draft_after_review_pending : ∃ s task version, Reachable draftTexts oneSlot s ∧
    s.tasks.get "task-a1" = some task ∧ task.status = .reviewable ∧
      s.reviewOutlines.get "task-a1" = none ∧
      s.confirmationVersions.get (unitOfDraft "second" scopeUnit) = some version ∧
      version.taskID = "task-a1" ∧
      version.value.draftID = s.latestDraftIDLocked (.at 7 "b6") "task-a1" ∧
      version.value.confirmationStatus = .pending := by
  simp only [exists_and_left]
  exact exists_reachable (draftConfirmed ++ [draftSubmittedAgain]) (by decide +kernel)

end MemoryStore

end PrdAgent.Runcontrol
