import PrdAgent.Runcontrol.DraftSteps

/-!
# The latest draft of a task

Drafts are stored under their task and key, and found again by the beginning of the key. As task
identifiers have no NUL character, the drafts found are those of the task (`mem_visitedDrafts`). Each
draft raises the version of its task, so one draft of a task is later than the others (`LatestDraft`),
whatever order they are visited in.
-/

namespace PrdAgent.Runcontrol

open GoText AssocMap

theorem hasPrefix_iff {text lead : String} :
    hasPrefix text lead = true ↔ ∃ rest, text = lead ++ rest := by
  unfold hasPrefix
  rw [chars_eq, chars_eq, List.isPrefixOf_iff_prefix]
  constructor
  · rintro ⟨rest, same⟩
    refine ⟨String.ofList rest, String.toList_inj.mp ?_⟩
    rw [String.toList_append, String.toList_ofList, same]
  · rintro ⟨rest, rfl⟩
    exact ⟨rest.toList, (String.toList_append).symm⟩

namespace MemoryStore

variable {rt : Runtime} {call : Call} {s t : MemoryStore} {taskID : String} {draft : MemoryDraft}

def DraftOf (s : MemoryStore) (taskID : String) (draft : MemoryDraft) : Prop :=
  ∃ draftKey, s.drafts.get (joinKey taskID draftKey) = some draft

/-- The draft of a task that was submitted last. -/
structure LatestDraft (s : MemoryStore) (taskID : String) (draft : MemoryDraft) : Prop where
  ofTask : s.DraftOf taskID draft
  last : ∀ other, s.DraftOf taskID other → other.taskVersion ≤ draft.taskVersion

theorem mem_visitedDrafts :
    draft ∈ s.visitedDrafts call taskID ↔ s.DraftOf taskID draft := by
  unfold visitedDrafts DraftOf
  rw [List.mem_map]
  constructor
  · rintro ⟨⟨key, draft⟩, mem, rfl⟩
    obtain ⟨mem, found⟩ := List.mem_filter.mp mem
    obtain ⟨draftKey, rfl⟩ := hasPrefix_iff.mp found
    exact ⟨draftKey, (mem_range (call.order_perm _)).mp mem⟩
  · rintro ⟨draftKey, stored⟩
    refine ⟨(_, draft), List.mem_filter.mpr ⟨(mem_range (call.order_perm _)).mpr stored, ?_⟩,
      rfl⟩
    exact hasPrefix_iff.mpr ⟨draftKey, rfl⟩

/-! ## How drafts and versions are filed -/

/-- A version was stored with a draft of its task. -/
structure StoredWithDraft (s : MemoryStore) (key : String) (version : MemoryConfirmationVersion) :
    Prop where
  filed : ∃ digest, key = "unit-version-" ++ digest
  noOutline : version.value.outlineVersionID = ""
  ofDraft : ∃ draft, s.DraftOf version.taskID draft ∧ version.value.draftID = draft.draftID

/-- Tasks have NUL-free identifiers and positive versions. Every draft belongs to a stored task and has
a version of its own, which the task had. Every version of a unit belongs to a draft, or its task has
an outline. -/
structure DraftsFiled (s : MemoryStore) : Prop where
  nulFree : ∀ taskID task, s.tasks.get taskID = some task → NulFree taskID ∧ 1 ≤ task.version
  filed : ∀ key draft, s.drafts.get key = some draft → ∃ taskID draftKey task,
    key = joinKey taskID draftKey ∧ s.tasks.get taskID = some task ∧
      1 ≤ draft.taskVersion ∧ draft.taskVersion ≤ task.version ∧ draft.draftID ≠ ""
  apart : ∀ taskID task draft draft', s.tasks.get taskID = some task → s.DraftOf taskID draft →
    s.DraftOf taskID draft' → draft.taskVersion = draft'.taskVersion → draft = draft'
  versions : ∀ key version, s.confirmationVersions.get key = some version →
    (∃ outline, s.reviewOutlines.get version.taskID = some outline) ∨ s.StoredWithDraft key version

namespace DraftsFiled

theorem task (filed : DraftsFiled s) (ofTask : s.DraftOf taskID draft)
    (free : NulFree taskID) : ∃ task, s.tasks.get taskID = some task ∧ 1 ≤ draft.taskVersion ∧
      draft.taskVersion ≤ task.version ∧ draft.draftID ≠ "" := by
  obtain ⟨draftKey, stored⟩ := ofTask
  obtain ⟨owner, draftKey', task, same, taskStored, rest⟩ := filed.filed _ _ stored
  obtain ⟨rfl, -⟩ := joinKey_inj free (filed.nulFree _ _ taskStored).1 same
  exact ⟨task, taskStored, rest⟩

theorem latest_unique (filed : DraftsFiled s) {task : Task} {draft' : MemoryDraft}
    (stored : s.tasks.get taskID = some task) (latest : s.LatestDraft taskID draft)
    (latest' : s.LatestDraft taskID draft') : draft = draft' :=
  filed.apart taskID task draft draft' stored latest.ofTask latest'.ofTask
    (le_antisymm (latest'.last _ latest.ofTask) (latest.last _ latest'.ofTask))

end DraftsFiled

attribute [local instance] Latest.intOrder

/-- The loop over the drafts of a task keeps the latest. -/
theorem latestDraftLocked_eq : s.latestDraftLocked call taskID =
    (s.visitedDrafts call taskID).argmax (·.taskVersion) :=
  Latest.foldl_none (fun _ => rfl) (fun _ _ => rfl) _

theorem latestDraftLocked_latest
    (found : s.latestDraftLocked call taskID = some draft) : s.LatestDraft taskID draft := by
  rw [latestDraftLocked_eq] at found
  exact ⟨mem_visitedDrafts.mp (List.argmax_mem found), fun other ofTask =>
    List.le_of_mem_argmax (mem_visitedDrafts.mpr ofTask) found⟩

theorem latestDraftLocked_none (none : s.latestDraftLocked call taskID = none)
    (draft : MemoryDraft) : ¬ s.DraftOf taskID draft := by
  rw [latestDraftLocked_eq, List.argmax_eq_none] at none
  intro ofTask
  have mem : draft ∈ s.visitedDrafts call taskID := mem_visitedDrafts.mpr ofTask
  rw [none] at mem
  cases mem

theorem LatestDraft.latestDraftIDLocked (latest : s.LatestDraft taskID draft) (filed : DraftsFiled s)
    {task : Task} (stored : s.tasks.get taskID = some task) (call : Call) :
    s.latestDraftIDLocked call taskID = draft.draftID := by
  have best := Latest.foldl_some (f := MemoryDraft.taskVersion) {} (s.visitedDrafts call taskID)
  unfold MemoryStore.latestDraftIDLocked
  generalize (s.visitedDrafts call taskID).foldl _ _ = found at best ⊢
  have above {other : MemoryDraft} (ofTask : s.DraftOf taskID other) :
      other.taskVersion ≤ found.taskVersion :=
    List.le_of_mem_argmax (.tail _ (mem_visitedDrafts.mpr ofTask)) best
  -- the loop starts from a draft with version zero, which none of the task has
  have ofTask : s.DraftOf taskID found := by
    refine mem_visitedDrafts.mp ((List.mem_cons.mp (List.argmax_mem best)).resolve_left ?_)
    rintro rfl
    obtain ⟨_, -, least, -⟩ := filed.task latest.ofTask (filed.nulFree _ _ stored).1
    exact absurd (least.trans (above latest.ofTask)) (by decide)
  rw [filed.latest_unique stored ⟨ofTask, fun _ => above⟩ latest]

/-! ## Drafts stay filed -/

theorem ReviewStep.outline_stored {op : Op} {reply : Except StoreError Reply} {data : ReviewData}
    (step : ReviewStep rt call s op reply data)
    (stored : ∃ outline, s.reviewOutlines.get taskID = some outline) :
    ∃ outline, data.outlines.get taskID = some outline := by
  have kept (key : String) (outline : ReviewOutlineVersion) :
      ∃ found, (s.reviewOutlines.set key outline).get taskID = some found := by
    rw [get_set]
    split
    · exact ⟨outline, rfl⟩
    · exact stored
  cases step with
  | outlineDrafted | outlineLocked => exact kept _ _
  | kept | created | unitGenerated | unitRevised | reviewed | unitConfirmed | unitReopened
  | draftSubmitted | draftDecided | publishConfirmed | publishCompleted => exact stored

theorem ReviewStep.version_came {op : Op} {reply : Except StoreError Reply} {data : ReviewData}
    (step : ReviewStep rt call s op reply data)
    (other : ∀ lease draftKey expected patch, op ≠ .submitDraft lease draftKey expected patch)
    {key : String} {version : MemoryConfirmationVersion}
    (stored : data.versions.get key = some version) :
    (∃ outline, data.outlines.get version.taskID = some outline) ∨
      ∃ before, s.confirmationVersions.get key = some before ∧ version.taskID = before.taskID ∧
        version.value.draftID = before.value.draftID ∧
        version.value.outlineVersionID = before.value.outlineVersionID := by
  cases step with
  | kept | created | outlineDrafted | reviewed | outlineLocked | publishConfirmed
  | publishCompleted => exact .inr ⟨version, stored, rfl, rfl, rfl⟩
  | unitGenerated reply submits found | unitRevised reply submits found based =>
    rcases get_set_eq_some stored with ⟨-, rfl⟩ | ⟨-, stored⟩
    · exact .inl ⟨_, (lockedUnit_ok found).outlineStored⟩
    · exact .inr ⟨version, stored, rfl, rfl, rfl⟩
  | unitConfirmed decides dependencies idle outcome
  | unitReopened decides independent idle outcome =>
    rcases get_set_eq_some stored with ⟨rfl, rfl⟩ | ⟨-, stored⟩
    · exact .inr ⟨_, decides.versionStored, rfl, rfl, rfl⟩
    · exact .inr ⟨version, stored, rfl, rfl, rfl⟩
  | draftDecided reply status taskStatus noOutline taskStored found versionTask =>
    rcases get_set_eq_some stored with ⟨rfl, rfl⟩ | ⟨-, stored⟩
    · exact .inr ⟨_, found, rfl, rfl, rfl⟩
    · exact .inr ⟨version, stored, rfl, rfl, rfl⟩
  | draftSubmitted => exact absurd rfl (other _ _ _ _)

theorem apply_tasks_nulFree {input : Input} (fresh : Fresh s input) (anchored : Anchored s)
    (nulFree : ∀ taskID task, s.tasks.get taskID = some task → NulFree taskID ∧ 1 ≤ task.version)
    {task : Task} (stored : (apply rt input s).1.tasks.get taskID = some task) :
    NulFree taskID ∧ 1 ≤ task.version := by
  rcases apply_sameTasks rt input anchored with same | ⟨tenantID, ownerID, message, key, new, is, tasks⟩
  · obtain ⟨before, known, continues⟩ := same.came taskID task stored
    obtain ⟨free, least⟩ := nulFree taskID before known
    exact ⟨free, least.trans continues.version⟩
  · by_cases same : taskID = input.call.newID "task"
    · subst same
      refine ⟨input.call.newID_nulFree (by decide), ?_⟩
      obtain ⟨call, op⟩ := input
      cases is
      change (createTaskWithRun rt call tenantID ownerID message key s).1.tasks.get _ = _ at stored
      rcases createTaskWithRun_stored rt call s tenantID ownerID message key with
        same | ⟨first, -, -, version, tasks, -⟩
      · cases fresh.1.symm.trans (same ▸ stored)
      · rw [tasks, get_set_self] at stored
        cases stored
        exact le_of_eq version.symm
    · rw [tasks, get_set_ne _ _ same] at stored
      exact nulFree taskID task stored

theorem SubmitsDraft.stored {lease : LeaseContext} {draftKey : String} {expected : Int}
    {patch : ByteArray} {run : AgentRun} {task : Task} {candidates : List ConfirmationCandidate}
    (submits : SubmitsDraft rt call s lease draftKey expected patch run task candidates)
    (anchored : Anchored s) : s.tasks.get task.taskID = some task := by
  obtain ⟨stored, key⟩ := anchored.runTask submits.runStored
  rw [← submits.taskIs] at stored key
  exact key ▸ stored

section Submitted

variable {lease : LeaseContext} {draftKey : String} {expected : Int} {patch : ByteArray}
  {run : AgentRun} {task : Task} {candidates : List ConfirmationCandidate}

def newDraft (rt : Runtime) (call : Call) (lease : LeaseContext) (draftKey : String)
    (patch : ByteArray) (task : Task) : MemoryDraft := {
  draftID := "draft-" ++ rt.stableHash (joinKey task.taskID draftKey), runID := lease.runID
  draftKey := draftKey, patchHash := rt.hashBytesHex patch, patch := patch
  taskVersion := task.version + 1, createdAt := call.now }

theorem draftOf_storeDraft {draft : MemoryDraft} (free : NulFree taskID)
    (taskFree : NulFree task.taskID)
    (unused : s.drafts.get (joinKey task.taskID draftKey) = none) :
    (s.storeDraft rt call lease draftKey patch task candidates).DraftOf taskID draft ↔
      s.DraftOf taskID draft ∨
        taskID = task.taskID ∧ draft = newDraft rt call lease draftKey patch task := by
  constructor
  · rintro ⟨key, stored⟩
    rcases get_set_eq_some stored with ⟨same, rfl⟩ | ⟨-, stored⟩
    · exact .inr ⟨(joinKey_inj free taskFree same).1, rfl⟩
    · exact .inl ⟨key, stored⟩
  · rintro (⟨key, stored⟩ | ⟨rfl, rfl⟩)
    · exact ⟨key, get_set_of_unused unused stored⟩
    · exact ⟨draftKey, get_set_self _ _ _⟩

theorem storeDraft_draftsFiled (anchored : Anchored s) (filed : DraftsFiled s)
    (submits : SubmitsDraft rt call s lease draftKey expected patch run task candidates)
    (nulFree : ∀ taskID task', (s.storeDraft rt call lease draftKey patch task candidates).tasks.get
      taskID = some task' → NulFree taskID ∧ 1 ≤ task'.version) :
    DraftsFiled (s.storeDraft rt call lease draftKey patch task candidates) := by
  have taskStored := submits.stored anchored
  obtain ⟨taskFree, least⟩ := filed.nulFree _ _ taskStored
  have before {draft : MemoryDraft} (old : s.DraftOf task.taskID draft) :
      draft.taskVersion ≤ task.version := by
    obtain ⟨owner, there, -, bound, -⟩ := filed.task old taskFree
    cases taskStored.symm.trans there
    exact bound
  refine ⟨nulFree, fun key draft stored => ?_,
    fun taskID found draft draft' there ofTask ofTask' same => ?_, fun key version stored => ?_⟩
  · rcases get_set_eq_some stored with ⟨rfl, rfl⟩ | ⟨-, stored⟩
    · refine ⟨task.taskID, draftKey, _, rfl, get_set_self _ _ _, ?_, le_refl _, ?_⟩
      · exact least.trans (Int.le_add_one (le_refl _))
      · intro empty
        have first := congrArg (fun text => text.toList.head?) empty
        rw [String.toList_append] at first
        cases first
    · obtain ⟨owner, draftKey', found, rfl, there, low, high, named⟩ := filed.filed key draft stored
      by_cases own : owner = task.taskID
      · subst own
        cases taskStored.symm.trans there
        exact ⟨_, draftKey', _, rfl, get_set_self _ _ _, low,
          high.trans (Int.le_add_one (le_refl _)), named⟩
      · exact ⟨owner, draftKey', found, rfl, (get_set_ne _ _ own).trans there, low, high,
          named⟩
  · have free := (nulFree taskID found there).1
    rw [draftOf_storeDraft free taskFree submits.unused] at ofTask ofTask'
    rcases ofTask with old | ⟨rfl, rfl⟩
    · rcases ofTask' with old' | ⟨rfl, rfl⟩
      · obtain ⟨owner, known, -⟩ := filed.task old free
        exact filed.apart taskID owner draft draft' known old old' same
      · have bound := before old
        rw [same] at bound
        exact absurd bound (not_le.mpr (Int.lt_succ task.version))
    · rcases ofTask' with old' | ⟨-, rfl⟩
      · have bound := before old'
        rw [← same] at bound
        exact absurd bound (not_le.mpr (Int.lt_succ task.version))
      · rfl
  · rcases storeDraftUnits_get_of stored with stored | ⟨candidate, mem, seen, rfl, rfl⟩
    · refine (filed.versions key version stored).imp id fun withDraft => ?_
      obtain ⟨draft, old, same⟩ := withDraft.ofDraft
      obtain ⟨draftKey', there⟩ := old
      exact ⟨withDraft.filed, withDraft.noOutline, draft,
        ⟨draftKey', get_set_of_unused submits.unused there⟩, same⟩
    · exact .inr ⟨⟨_, rfl⟩, rfl, newDraft rt call lease draftKey patch task,
        ⟨draftKey, get_set_self _ _ _⟩, rfl⟩

end Submitted

theorem apply_drafts (input : Input)
    (other : ∀ lease draftKey expected patch,
      input.op ≠ .submitDraft lease draftKey expected patch) :
    (apply rt input s).1.drafts = s.drafts := by
  refine apply_frame rt input s .drafts ?_
  obtain ⟨call, op⟩ := input
  cases op
  case submitDraft => exact absurd rfl (other _ _ _ _)
  all_goals simp

theorem apply_draftsFiled_of_other {input : Input} (fresh : Fresh s input) (anchored : Anchored s)
    (filed : DraftsFiled s)
    (other : ∀ lease draftKey expected patch,
      input.op ≠ .submitDraft lease draftKey expected patch) :
    DraftsFiled (apply rt input s).1 := by
  have drafts : (apply rt input s).1.drafts = s.drafts := apply_drafts input other
  have follow : Into Task.Continues s.tasks (apply rt input s).1.tasks :=
    apply_tasksContinue anchored fresh
  refine ⟨fun _ _ stored => apply_tasks_nulFree fresh anchored filed.nulFree stored,
    fun key draft stored => ?_, fun taskID task draft draft' there ofTask ofTask' same => ?_,
    fun key version stored => ?_⟩
  · rw [drafts] at stored
    obtain ⟨owner, draftKey, task, rfl, there, low, high, named⟩ := filed.filed key draft stored
    obtain ⟨task', there', continues⟩ := follow owner task there
    exact ⟨owner, draftKey, task', rfl, there', low, high.trans continues.version, named⟩
  · have free := (apply_tasks_nulFree fresh anchored filed.nulFree there).1
    unfold DraftOf at ofTask ofTask'
    rw [drafts] at ofTask ofTask'
    obtain ⟨owner, known, -⟩ := filed.task ofTask free
    exact filed.apart taskID owner draft draft' known ofTask ofTask' same
  · have step := apply_review rt input s
    rcases step.version_came other stored with outline | ⟨before, known, task, draft, outline⟩
    · exact .inl outline
    · rcases filed.versions key before known with there | withDraft
      · rw [task]
        exact .inl (step.outline_stored there)
      · refine .inr ⟨withDraft.filed, outline.trans withDraft.noOutline, ?_⟩
        obtain ⟨found, ofTask, same⟩ := withDraft.ofDraft
        unfold DraftOf
        rw [drafts, task]
        exact ⟨found, ofTask, draft.trans same⟩

theorem apply_draftsFiled {input : Input} (fresh : Fresh s input) (anchored : Anchored s)
    (filed : DraftsFiled s) : DraftsFiled (apply rt input s).1 := by
  have nulFree : ∀ taskID task, (apply rt input s).1.tasks.get taskID = some task →
      NulFree taskID ∧ 1 ≤ task.version :=
    fun _ _ stored => apply_tasks_nulFree fresh anchored filed.nulFree stored
  obtain ⟨call, op⟩ := input
  cases op
  case submitDraft lease draftKey expected patch =>
    have outcome : DraftOutcome rt call s lease draftKey expected patch
        (apply rt ⟨call, .submitDraft lease draftKey expected patch⟩ s).1 :=
      submitDraft_outcome lease draftKey expected patch s
    generalize (apply rt ⟨call, .submitDraft lease draftKey expected patch⟩ s).1 = t
      at outcome nulFree
    cases outcome with
    | kept => exact filed
    | stored submits => exact storeDraft_draftsFiled anchored filed submits nulFree
  all_goals exact apply_draftsFiled_of_other fresh anchored filed nofun

theorem DraftsFiled.initial (policy : QueuePolicy) : DraftsFiled (newMemoryStore policy) := by
  constructor
  · intro taskID task stored
    cases stored
  · intro key draft stored
    cases stored
  · intro taskID task draft draft' stored
    cases stored
  · intro key version stored
    cases stored


end MemoryStore

end PrdAgent.Runcontrol
