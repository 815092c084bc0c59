import PrdAgent.Runcontrol.TaskVersions

/-!
# Idempotency keys

Seven commands carry an idempotency key. The first success of a command leaves a record
(`CommandRecorded`), no operation changes or removes a record (`RecordsKept`), and a repeated command is
answered from it. `RetryTask` and `CreatePublishPreview` compare the version of the task before they
look for the record (`preview_repeat_refused`).
-/

namespace PrdAgent.Runcontrol

open GoText AssocMap

/-- What a reply identifies: the task and run, the publish, the decision or the transition. -/
def Reply.identity : Reply → List String
  | .taskWithRun value => [value.task.taskID, value.run.runID]
  | .run value => [value.runID]
  | .preview value => [value.publishID]
  | .publish value => [value.publishID]
  | .transition value => [value.materializedID, (value.createdRun.map (·.runID)).getD ""]
  | .decision value => [value.decisionID]
  | _ => []

/-- The second call repeats the first, a command with an idempotency key. The clock may have moved
on. -/
inductive Op.Repeats : Op → Op → Prop
  | createTaskWithRun (tenantID ownerID message key : String) :
      Repeats (.createTaskWithRun tenantID ownerID message key)
        (.createTaskWithRun tenantID ownerID message key)
  | retryTask (tenantID ownerID taskID key : String) (expected : Int) :
      Repeats (.retryTask tenantID ownerID taskID key expected)
        (.retryTask tenantID ownerID taskID key expected)
  | createPublishPreview (tenantID ownerID taskID key : String) (expected : Int)
      (now now' : Time) :
      Repeats (.createPublishPreview tenantID ownerID taskID key expected now)
        (.createPublishPreview tenantID ownerID taskID key expected now')
  | confirmPublish (tenantID ownerID taskID publishID token key : String) (expected : Int)
      (now now' : Time) :
      Repeats (.confirmPublish tenantID ownerID taskID publishID token key expected now)
        (.confirmPublish tenantID ownerID taskID publishID token key expected now')
  | confirmOutline (command : ConfirmOutlineCommand) :
      Repeats (.confirmOutline command) (.confirmOutline command)
  | confirmConfirmationUnit (tenantID ownerID taskID unitVersionID key : String)
      (expected : Int) :
      Repeats (.confirmConfirmationUnit tenantID ownerID taskID unitVersionID key expected)
        (.confirmConfirmationUnit tenantID ownerID taskID unitVersionID key expected)
  | reopenConfirmationUnit (tenantID ownerID taskID unitVersionID feedback key : String)
      (expected : Int) :
      Repeats (.reopenConfirmationUnit tenantID ownerID taskID unitVersionID feedback key expected)
        (.reopenConfirmationUnit tenantID ownerID taskID unitVersionID feedback key expected)

namespace MemoryStore

variable {rt : Runtime} {call : Call} {s t : MemoryStore}

/-! ## Records stay -/

/-- No record of a command is changed or removed. -/
structure RecordsKept (s t : MemoryStore) : Prop where
  starts : Into Eq s.idempotency t.idempotency
  retries : Into Eq s.retryIdempotency t.retryIdempotency
  previews : Into Eq s.publishPreviewIdempotency t.publishPreviewIdempotency
  confirms : Into Eq s.publishConfirmIdempotency t.publishConfirmIdempotency
  transitions : Into Eq s.reviewTransitions t.reviewTransitions
  decisions : Into Eq s.confirmationDecisions t.confirmationDecisions

theorem RecordsKept.refl (s : MemoryStore) : RecordsKept s s :=
  ⟨.refl Eq.refl _, .refl Eq.refl _, .refl Eq.refl _, .refl Eq.refl _, .refl Eq.refl _,
    .refl Eq.refl _⟩

theorem RecordsKept.trans {u : MemoryStore} (first : RecordsKept s t) (second : RecordsKept t u) :
    RecordsKept s u :=
  ⟨first.starts.trans .trans second.starts, first.retries.trans .trans second.retries,
    first.previews.trans .trans second.previews, first.confirms.trans .trans second.confirms,
    first.transitions.trans .trans second.transitions,
    first.decisions.trans .trans second.decisions⟩

/-! ## What a success leaves behind -/

/-- The record that a command with an idempotency key is answered from. -/
inductive CommandRecorded (rt : Runtime) (t : MemoryStore) : Op → Reply → Prop
  | started {tenantID ownerID message key : String} {value : TaskWithRun}
      (stored : t.idempotency.get (idempotencyIdentity tenantID ownerID key) =
        some ⟨startTaskRequestHash rt tenantID ownerID message, value⟩) :
      CommandRecorded rt t (.createTaskWithRun tenantID ownerID message key) (.taskWithRun value)
  | retried {tenantID ownerID taskID key : String} {expected : Int} {run : AgentRun}
      (owns : Owns t.tasks taskID tenantID ownerID) (positive : 1 ≤ expected)
      (stored : t.retryIdempotency.get (idempotencyIdentity tenantID ownerID key) =
        some ⟨retryTaskRequestHash rt tenantID ownerID taskID expected, run⟩) :
      CommandRecorded rt t (.retryTask tenantID ownerID taskID key expected) (.run run)
  | previewed {tenantID ownerID taskID key publishID : String} {expected : Int} {now : Time}
      {value : MemoryPublish} {result : PublishPreviewResult}
      (owns : Owns t.tasks taskID tenantID ownerID) (positive : 1 ≤ expected)
      (stored : t.publishPreviewIdempotency.get (idempotencyIdentity tenantID ownerID key) =
        some publishID)
      (published : t.publishes.get publishID = some value)
      (request : rt.stableHash (joinNul [value.record.taskID, itoa value.record.taskVersion]) =
        rt.stableHash (joinNul [taskID, itoa expected]))
      (named : result.publishID = value.record.publishID) :
      CommandRecorded rt t (.createPublishPreview tenantID ownerID taskID key expected now)
        (.preview result)
  | confirmed {tenantID ownerID taskID publishID token key : String} {expected : Int} {now : Time}
      {value : MemoryPublish} {record : PublishRecord}
      (stored : t.publishConfirmIdempotency.get (idempotencyIdentity tenantID ownerID key) =
        some (rt.stableHash (joinNul [taskID, publishID, token, itoa expected])))
      (published : t.publishes.get publishID = some value)
      (owner : value.tenantID = tenantID ∧ value.ownerID = ownerID ∧ value.record.taskID = taskID)
      (named : record.publishID = value.record.publishID) :
      CommandRecorded rt t (.confirmPublish tenantID ownerID taskID publishID token key expected now)
        (.publish record)
  | locked {command : ConfirmOutlineCommand} {transition : ReviewTransition}
      (stored : t.reviewTransitions.get
        (idempotencyIdentity command.tenantID command.ownerID command.idempotencyKey) =
        some ⟨rt.stableHash (joinNul ["CONFIRM_OUTLINE", command.taskID, command.outlineVersionID,
          itoa command.expectedTaskVersion]), transition⟩) :
      CommandRecorded rt t (.confirmOutline command) (.transition transition)
  | decided {tenantID ownerID taskID unitVersionID key name : String} {expected : Int}
      {result : ConfirmationMutationResult}
      (stored : t.confirmationDecisions.get (idempotencyIdentity tenantID ownerID key) =
        some ⟨rt.stableHash (joinNul ["CONFIRM", taskID, unitVersionID, itoa expected]), result,
          name⟩) :
      CommandRecorded rt t (.confirmConfirmationUnit tenantID ownerID taskID unitVersionID key expected)
        (.decision result)
  | reopened {tenantID ownerID taskID unitVersionID feedback key name : String} {expected : Int}
      {result : ConfirmationMutationResult} (given : trimSpace feedback ≠ "")
      (stored : t.confirmationDecisions.get (idempotencyIdentity tenantID ownerID key) =
        some ⟨rt.stableHash (joinNul ["REOPEN", taskID, unitVersionID, trimSpace feedback,
          itoa expected]), result, name⟩) :
      CommandRecorded rt t
        (.reopenConfirmationUnit tenantID ownerID taskID unitVersionID feedback key expected)
        (.decision result)

/-- The publishes that the records of previews name are stored. -/
def PreviewsStored (s : MemoryStore) : Prop :=
  ∀ identity publishID, s.publishPreviewIdempotency.get identity = some publishID →
    ∃ value, s.publishes.get publishID = some value

/-- How a command with an idempotency key ends, among whose records this is. -/
inductive Recording {ρ : Type} (rt : Runtime) (s : MemoryStore) (records : MemoryStore → GoMap ρ)
    (identity : String) (op : Op) : Outcome Reply → Prop
  | failed {t : MemoryStore} (error : StoreError) (same : records t = records s) :
      Recording rt s records identity op (t, .error error)
  | replayed {reply : Reply} (is : PreviewsStored s → CommandRecorded rt s op reply) :
      Recording rt s records identity op (s, .ok reply)
  | recorded {t : MemoryStore} {reply : Reply} {record : ρ}
      (unused : (records s).get identity = none)
      (set : records t = (records s).set identity record) (is : CommandRecorded rt t op reply) :
      Recording rt s records identity op (t, .ok reply)

section

variable {ρ : Type} {records : MemoryStore → GoMap ρ} {identity : String} {op : Op}
  {outcome : Outcome Reply} (recording : Recording rt s records identity op outcome)

include recording

theorem Recording.kept : Into Eq (records s) (records outcome.1) := by
  cases recording with
  | failed _ same => exact same ▸ .refl Eq.refl _
  | replayed => exact .refl Eq.refl _
  | recorded unused set => exact set ▸ .insert Eq.refl unused _

theorem Recording.success {reply : Reply} (previews : PreviewsStored s) (ok : outcome.2 = .ok reply) :
    CommandRecorded rt outcome.1 op reply := by
  cases recording with
  | failed => cases ok
  | replayed is =>
    cases ok
    exact is previews
  | recorded _ _ is =>
    cases ok
    exact is

end

section

variable (rt call s) in
abbrev Records {ρ : Type} (records : MemoryStore → GoMap ρ) (identity : String) (op : Op) : Prop :=
  Recording rt s records identity op (apply rt ⟨call, op⟩ s)

variable {tenantID ownerID taskID publishID unitVersionID message token feedback key : String}
  {expected : Int} {now : Time}

theorem createTaskWithRun_recording : Records rt call s (·.idempotency)
    (idempotencyIdentity tenantID ownerID key)
    (.createTaskWithRun tenantID ownerID message key) := by
  dsimp only [Records, apply, replying, createTaskWithRun, fail]
  split
  · next replay stored =>
    obtain ⟨requestHash, recorded⟩ := replay
    split
    · exact .failed _ rfl
    · next same =>
      cases not_not.mp same
      exact .replayed fun _ => .started stored
  next unused =>
  iterate 3
    split
    · exact .failed _ rfl
  exact .recorded unused rfl (.started (get_set_self _ _ _))

theorem retryTask_recording : Records rt call s (·.retryIdempotency)
    (idempotencyIdentity tenantID ownerID key) (.retryTask tenantID ownerID taskID key expected) := by
  dsimp only [Records, apply, replying, retryTask, fail]
  repeat' split
  all_goals try exact .failed _ rfl
  · next task taskStored owner current _ existing stored same =>
    simp only [not_or, ne_eq, not_not, not_lt] at owner current
    obtain ⟨requestHash, recorded⟩ := existing
    cases not_not.mp same
    exact .replayed fun _ => .retried ⟨task, taskStored, owner⟩ current.1 stored
  · next task taskStored owner current _ unused _ _ _ _ =>
    simp only [not_or, ne_eq, not_not, not_lt] at owner current
    exact .recorded unused rfl
      (.retried ⟨task, taskStored, owner⟩ current.1 (get_set_self _ _ _))

theorem createPublishPreview_recording : Records rt call s (·.publishPreviewIdempotency)
    (idempotencyIdentity tenantID ownerID key)
    (.createPublishPreview tenantID ownerID taskID key expected now) := by
  dsimp only [Records, apply, replying, createPublishPreview, fail]
  repeat' split
  all_goals try exact .failed _ rfl
  · next task taskStored owner current _ publishID stored same =>
    simp only [not_or, ne_eq, not_not, not_lt] at owner current
    refine .replayed fun previews => ?_
    obtain ⟨value, published⟩ := previews _ publishID stored
    rw [published, Option.getD_some] at same ⊢
    exact .previewed ⟨task, taskStored, owner⟩ current.1 stored published (not_not.mp same) rfl
  · next task taskStored owner current _ unused _ _ _ _ =>
    simp only [not_or, ne_eq, not_not, not_lt] at owner current
    refine .recorded unused rfl (.previewed ⟨task, taskStored, owner⟩ current.1
      (get_set_self _ _ _) (get_set_self _ _ _) ?_ rfl)
    rw [current.2]

theorem confirmPublish_recording : Records rt call s (·.publishConfirmIdempotency)
    (idempotencyIdentity tenantID ownerID key)
    (.confirmPublish tenantID ownerID taskID publishID token key expected now) := by
  dsimp only [Records, apply, replying, confirmPublish, fail]
  repeat' split
  all_goals try exact .failed _ rfl
  · next stored same _ value published owner =>
    cases not_not.mp same
    simp only [not_or, ne_eq, not_not] at owner
    exact .replayed fun _ => .confirmed stored published owner rfl
  · next unused _ _ _ _ _ _ owner _ _ _ =>
    simp only [not_or, ne_eq, not_not] at owner
    exact .recorded unused rfl
      (.confirmed (get_set_self _ _ _) (get_set_self _ _ _) owner.2.2 rfl)

theorem confirmOutline_recording {command : ConfirmOutlineCommand} : Records rt call s
    (·.reviewTransitions)
    (idempotencyIdentity command.tenantID command.ownerID command.idempotencyKey)
    (.confirmOutline command) := by
  dsimp only [Records, apply, replying, confirmOutline, lockOutline, fail]
  split
  · next replay stored =>
    obtain ⟨requestHash, recorded⟩ := replay
    split
    · exact .failed _ rfl
    · next same =>
      cases not_not.mp same
      exact .replayed fun _ => .locked stored
  next unused =>
  iterate 2
    split
    · exact .failed _ rfl
  exact .recorded unused rfl (.locked (get_set_self _ _ _))

theorem confirmConfirmationUnit_recording : Records rt call s (·.confirmationDecisions)
    (idempotencyIdentity tenantID ownerID key)
    (.confirmConfirmationUnit tenantID ownerID taskID unitVersionID key expected) := by
  dsimp only [Records, apply, replying, confirmConfirmationUnit, confirmReviewUnitLocked,
    confirmDraftUnitLocked, fail]
  split
  · next replay stored =>
    obtain ⟨requestHash, recorded, name⟩ := replay
    split
    · exact .failed _ rfl
    · next same =>
      cases not_not.mp same
      exact .replayed fun _ => .decided stored
  next unused =>
  split
  all_goals
    iterate 2
      split
      · exact .failed _ rfl
    exact .recorded unused rfl (.decided (get_set_self _ _ _))

theorem reopenConfirmationUnit_recording : Records rt call s (·.confirmationDecisions)
    (idempotencyIdentity tenantID ownerID key)
    (.reopenConfirmationUnit tenantID ownerID taskID unitVersionID feedback key expected) := by
  dsimp only [Records, apply, replying, reopenConfirmationUnit, reopenReviewUnitLocked,
    reopenDraftUnitLocked, fail]
  split
  · exact .failed _ rfl
  next given =>
  split
  · next replay stored =>
    obtain ⟨requestHash, recorded, name⟩ := replay
    split
    · exact .failed _ rfl
    · next same =>
      cases not_not.mp same
      exact .replayed fun _ => .reopened given stored
  next unused =>
  split
  · iterate 2
      split
      · exact .failed _ rfl
    exact .recorded unused rfl (.reopened given (get_set_self _ _ _))
  · iterate 5
      split
      · exact .failed _ rfl
    exact .recorded unused rfl (.reopened given (get_set_self _ _ _))

end

theorem apply_recordsKept (rt : Runtime) (input : Input) (s : MemoryStore) :
    RecordsKept s (apply rt input s).1 := by
  obtain ⟨call, op⟩ := input
  have frame := apply_frame rt ⟨call, op⟩ s
  have kept {α : Type} {m m' : GoMap α} (same : m' = m) : Into Eq m m' :=
    same ▸ .refl Eq.refl _
  refine ⟨?_, ?_, ?_, ?_, ?_, ?_⟩
  · cases op
    case createTaskWithRun => exact createTaskWithRun_recording.kept
    all_goals exact kept (frame .idempotency (by simp))
  · cases op
    case retryTask => exact retryTask_recording.kept
    all_goals exact kept (frame .retryIdempotency (by simp))
  · cases op
    case createPublishPreview => exact createPublishPreview_recording.kept
    all_goals exact kept (frame .publishPreviewIdempotency (by simp))
  · cases op
    case confirmPublish => exact confirmPublish_recording.kept
    all_goals exact kept (frame .publishConfirmIdempotency (by simp))
  · cases op
    case confirmOutline => exact confirmOutline_recording.kept
    all_goals exact kept (frame .reviewTransitions (by simp))
  · cases op
    case confirmConfirmationUnit => exact confirmConfirmationUnit_recording.kept
    case reopenConfirmationUnit => exact reopenConfirmationUnit_recording.kept
    all_goals exact kept (frame .confirmationDecisions (by simp))

variable {taskID : String} {expected : Int} {reply : Reply}
  {condition : MemoryStore → Input → Prop} {events : List StoreEvent} {input : Input} {task : Task}

theorem History.recordsKept (history : History rt condition s events t) : RecordsKept s t :=
  history.relates (I := fun _ => True) (R := RecordsKept) .refl .trans (fun _ _ _ _ => trivial)
    (fun s input _ _ => apply_recordsKept rt input s) trivial

theorem CommandRecorded.later {op : Op} {reply : Reply} (recorded : CommandRecorded rt s op reply)
    (records : RecordsKept s t) (tasks : Into Task.Continues s.tasks t.tasks)
    (publishes : Into MemoryPublish.Descends s.publishes t.publishes) :
    CommandRecorded rt t op reply := by
  have still {α : Type} {m m' : GoMap α} (into : Into Eq m m') {key : String} {value : α}
      (stored : m.get key = some value) : m'.get key = some value := by
    obtain ⟨value', stored', rfl⟩ := into key value stored
    exact stored'
  cases recorded with
  | started stored => exact .started (still records.starts stored)
  | retried owns positive stored =>
    exact .retried (owns.mono tasks) positive (still records.retries stored)
  | previewed owns positive stored published request named =>
    obtain ⟨value', published', descends⟩ := publishes _ _ published
    refine .previewed (owns.mono tasks) positive (still records.previews stored) published' ?_ ?_
    · rw [descends.taskID, descends.taskVersion]
      exact request
    · rw [descends.publishID]
      exact named
  | confirmed stored published owner named =>
    obtain ⟨value', published', descends⟩ := publishes _ _ published
    refine .confirmed (still records.confirms stored) published' ?_ ?_
    · rw [descends.tenantID, descends.ownerID, descends.taskID]
      exact owner
    · rw [descends.publishID]
      exact named
  | locked stored => exact .locked (still records.transitions stored)
  | decided stored => exact .decided (still records.decisions stored)
  | reopened given stored => exact .reopened given (still records.decisions stored)

/-! ## Repetition -/

/-- The task of a retry or a preview still has the version the command is for. -/
def VersionStill (t : MemoryStore) : Op → Prop
  | .retryTask _ _ taskID _ expected =>
    ∃ task, t.tasks.get taskID = some task ∧ task.version = expected
  | .createPublishPreview _ _ taskID _ expected _ =>
    ∃ task, t.tasks.get taskID = some task ∧ task.version = expected
  | _ => True

/-- The call succeeds with the identity of an earlier reply and changes nothing. -/
def Answers (rt : Runtime) (t : MemoryStore) (input : Input) (reply : Reply) : Prop :=
  (∃ reply', (apply rt input t).2 = .ok reply' ∧ reply'.identity = reply.identity) ∧
    (apply rt input t).1 = t

theorem Answers.of_ran {α : Type} {wrap : α → Reply} {outcome : Outcome α}
    {value : α} (ran : apply rt input t = replying wrap outcome)
    (same : outcome = (t, .ok value)) (named : (wrap value).identity = reply.identity) :
    Answers rt t input reply := by
  unfold Answers
  rw [ran, same]
  exact ⟨⟨wrap value, rfl, named⟩, rfl⟩

theorem Answers.iff_current {α : Type} {wrap : α → Reply} {outcome : Outcome α} {value : α}
    (ran : apply rt input t = replying wrap outcome)
    (same : outcome = if task.version = expected then (t, .ok value)
      else fail t .taskVersionConflict) (taskStored : t.tasks.get taskID = some task)
    (named : (wrap value).identity = reply.identity) :
    Answers rt t input reply ↔ ∃ task, t.tasks.get taskID = some task ∧ task.version = expected := by
  constructor
  · rintro ⟨⟨reply', ok, -⟩, -⟩
    by_cases current : task.version = expected
    · exact ⟨task, taskStored, current⟩
    · rw [ran, same, if_neg current] at ok
      cases ok
  · rintro ⟨found, stored, current⟩
    cases taskStored.symm.trans stored
    exact .of_ran ran (same.trans (if_pos current)) named

theorem CommandRecorded.answers_iff {op op' : Op} (recorded : CommandRecorded rt t op reply)
    (repeats : op.Repeats op') (call : Call) :
    Answers rt t ⟨call, op'⟩ reply ↔ VersionStill t op' := by
  cases recorded with
  -- a retry and a preview compare the version first, then look for the record
  | @retried tenantID ownerID taskID key expected run owns positive stored =>
    cases repeats
    obtain ⟨task, taskStored, owner⟩ := owns
    have same : retryTask rt call tenantID ownerID taskID key expected t =
        if task.version = expected then (t, .ok run) else fail t .taskVersionConflict := by
      unfold retryTask
      rw [taskStored]
      dsimp only
      rw [if_neg (by simp [owner])]
      split
      · next other => rw [if_neg (other.resolve_left positive.not_gt)]
      · next current =>
        rw [stored, if_pos (not_not.mp (not_or.mp current).2)]
        exact if_neg (not_not.mpr rfl)
    exact Answers.iff_current rfl same taskStored rfl
  | @previewed tenantID ownerID taskID key _ expected _ value _ owns positive stored published
      request named =>
    cases repeats with
    | createPublishPreview _ _ _ _ _ _ now =>
    obtain ⟨task, taskStored, owner⟩ := owns
    have same : createPublishPreview rt call tenantID ownerID taskID key expected now t =
        if task.version = expected then (t, .ok (t.publishPreviewResultLocked rt value))
        else fail t .taskVersionConflict := by
      unfold createPublishPreview
      rw [taskStored]
      dsimp only
      rw [if_neg (by simp [owner])]
      split
      · next other => rw [if_neg (other.resolve_left positive.not_gt)]
      · next current =>
        rw [stored, if_pos (not_not.mp (not_or.mp current).2)]
        dsimp only
        rw [published]
        exact if_neg (not_not.mpr request)
    exact Answers.iff_current rfl same taskStored (congrArg (fun publishID => [publishID]) named.symm)
  | confirmed stored published owner named =>
    cases repeats
    refine iff_of_true (.of_ran rfl ?_ (congrArg (fun publishID => [publishID]) named.symm)) trivial
    unfold confirmPublish
    dsimp only
    rw [stored]
    dsimp only
    rw [if_neg (not_not.mpr rfl), published]
    exact if_neg (by simp [owner])
  | started stored | locked stored | decided stored | reopened given stored =>
    cases repeats
    refine iff_of_true (.of_ran rfl ?_ rfl) trivial
    simp [createTaskWithRun, confirmOutline, confirmConfirmationUnit, reopenConfirmationUnit, *]

/-! ## Whole histories -/

theorem apply_previewsStored (fresh : Fresh s input) (previews : PreviewsStored s) :
    PreviewsStored (apply rt input s).1 := by
  have into : Into MemoryPublish.Descends s.publishes (apply rt input s).1.publishes :=
    apply_publishes_into fresh
  have still {identity publishID : String}
      (stored : s.publishPreviewIdempotency.get identity = some publishID) :
      ∃ value, (apply rt input s).1.publishes.get publishID = some value := by
    obtain ⟨value, published⟩ := previews identity publishID stored
    obtain ⟨value', published', -⟩ := into publishID value published
    exact ⟨value', published'⟩
  obtain ⟨call, op⟩ := input
  intro identity publishID stored
  have kept (outside : .publishPreviewIdempotency ∉ op.writes) :
      (apply rt ⟨call, op⟩ s).1.publishPreviewIdempotency = s.publishPreviewIdempotency :=
    apply_frame rt ⟨call, op⟩ s .publishPreviewIdempotency outside
  cases op
  case createPublishPreview tenantID ownerID taskID key expected now =>
    have recording := @createPublishPreview_recording rt call s tenantID ownerID taskID key expected
      now
    dsimp only [Records] at recording
    generalize apply rt ⟨call, _⟩ s = outcome at recording stored still ⊢
    cases recording with
    | failed _ same => exact still (same ▸ stored)
    | replayed => exact still stored
    | recorded _ set is =>
      cases is with
      | previewed _ _ recorded published =>
        rw [set] at stored recorded
        rcases get_set_eq_some stored with ⟨rfl, rfl⟩ | ⟨-, stored⟩
        · cases (get_set_self _ _ _).symm.trans recorded
          exact ⟨_, published⟩
        · exact still stored
  all_goals
    rw [kept (by simp)] at stored
    exact still stored

theorem History.previewsStored {policy : QueuePolicy}
    (history : History rt condition (newMemoryStore policy) events s) :
    PreviewsStored s := by
  refine history.invariant (I := PreviewsStored)
    (fun _ _ allowed previews => apply_previewsStored allowed.1 previews) ?_
  intro identity publishID stored
  cases stored

/-- After a command with an idempotency key has succeeded and other operations have followed, its
repetition succeeds with the same identity and changes nothing, for `RetryTask` and
`CreatePublishPreview` exactly as long as the task still has the version the command was for. -/
theorem idempotent_commands_replay_iff {policy : QueuePolicy} {op op' : Op} {reply : Reply}
    {events : List StoreEvent} (reach : Reachable rt policy s) (fresh : Fresh s ⟨call, op⟩)
    (ok : (apply rt ⟨call, op⟩ s).2 = .ok reply)
    (later : History rt (fun _ _ => True) (apply rt ⟨call, op⟩ s).1 events t)
    (repeats : op.Repeats op') (call' : Call) :
    Answers rt t ⟨call', op'⟩ reply ↔ VersionStill t op' := by
  obtain ⟨past, reached⟩ := reach
  have anchored : Anchored (apply rt ⟨call, op⟩ s).1 := apply_anchored fresh reached.anchored
  have recorded : CommandRecorded rt (apply rt ⟨call, op⟩ s).1 op reply := by
    have previews := reached.previewsStored
    cases repeats
    case createTaskWithRun => exact createTaskWithRun_recording.success previews ok
    case retryTask => exact retryTask_recording.success previews ok
    case createPublishPreview => exact createPublishPreview_recording.success previews ok
    case confirmPublish => exact confirmPublish_recording.success previews ok
    case confirmOutline => exact confirmOutline_recording.success previews ok
    case confirmConfirmationUnit => exact confirmConfirmationUnit_recording.success previews ok
    case reopenConfirmationUnit => exact reopenConfirmationUnit_recording.success previews ok
  refine (recorded.later later.recordsKept (later.tasksContinue anchored)
    ?_).answers_iff repeats call'
  refine later.relates (I := fun _ => True)
    (R := fun s t => Into MemoryPublish.Descends s.publishes t.publishes)
    (fun s => .refl .refl s.publishes) ?_ (fun _ _ _ _ => trivial)
    (fun _ _ allowed _ => apply_publishes_into allowed.1) trivial
  intro _ _ _ first second
  exact first.trans .trans second

def draftSubmitted : List Input := [
  ⟨.at 1 "a1", .createTaskWithRun "tenant" "ann" "m" "start"⟩,
  ⟨.at 2 "b1", .acquireRun "run-a1" "worker" 2 50⟩,
  ⟨.at 3 "b2", .submitDraft firstLease "draft" 1 "x".toUTF8⟩]

def previewAsked (now : Time) (digits : String) : Input :=
  ⟨.at now digits, .createPublishPreview "tenant" "ann" "task-a1" "p1" 2 now⟩

def draftReplaced : Input := ⟨.at 6 "c2", .submitDraft firstLease "other" 2 "y".toUTF8⟩

def otherStarted : Input := ⟨.at 6 "c2", .createTaskWithRun "tenant" "bob" "m" "start"⟩

theorem previewAsked_twice :
    let rt := Runtime.ofKnown {}
    let s := stateAfter rt oneSlot draftSubmitted
    let t := Transition.stateFrom (apply rt) [previewAsked 5 "c1", draftReplaced] s
    Accepts rt (fun _ _ => True) oneSlot draftSubmitted ∧
      Transition.AllowedFrom (apply rt) (fun s input => Fresh s input ∧ True)
        [previewAsked 5 "c1", draftReplaced] s ∧
      Succeeds rt s (previewAsked 5 "c1") ∧
      Reply.error? (apply rt (previewAsked 7 "c3") t).2 = some ⟨.taskVersionConflict, ""⟩ ∧
      let u := (apply rt (previewAsked 5 "c1") s).1
      Transition.AllowedFrom (apply rt) (fun s input => Fresh s input ∧ True) [otherStarted] u ∧
        ((Transition.stateFrom (apply rt) [otherStarted] u).tasks.get "task-a1").map (·.version) =
          some 2 := by
  decide +kernel

/-- The preview was made, and the same request is refused once another draft is there. -/
theorem preview_repeat_refused : ∃ s reply events t,
    Reachable (.ofKnown {}) oneSlot s ∧
    (apply (.ofKnown {}) (previewAsked 5 "c1") s).2 = .ok reply ∧
    History (.ofKnown {}) (fun _ _ => True) (apply (.ofKnown {}) (previewAsked 5 "c1") s).1 events
      t ∧
    (apply (.ofKnown {}) (previewAsked 7 "c3") t).2 = .error ⟨.taskVersionConflict, ""⟩ := by
  obtain ⟨reached, allowed, succeeds, refused, -⟩ := previewAsked_twice
  obtain ⟨reply, ok⟩ := succeeds.ok
  exact ⟨_, reply, _, _, ⟨_, reached.history⟩, ok, .ofInputs allowed.2,
    Reply.error?_eq_some.mp refused⟩

theorem idempotent_commands_replay_iff_preview : ∃ s reply events t,
    Reachable (.ofKnown {}) oneSlot s ∧
    (apply (.ofKnown {}) (previewAsked 5 "c1") s).2 = .ok reply ∧
    History (.ofKnown {}) (fun _ _ => True) (apply (.ofKnown {}) (previewAsked 5 "c1") s).1 events
      t ∧ events.map (·.input) = [otherStarted] ∧
    Answers (.ofKnown {}) t (previewAsked 7 "c3") reply := by
  obtain ⟨reached, allowed, succeeds, -, next, version⟩ := previewAsked_twice
  obtain ⟨reply, ok⟩ := succeeds.ok
  have reach : Reachable (.ofKnown {}) oneSlot _ := ⟨_, reached.history⟩
  obtain ⟨fresh, -⟩ := allowed.1
  generalize stateAfter (.ofKnown {}) oneSlot draftSubmitted = s at reach ok fresh next version
  obtain ⟨task, stored, is⟩ := Option.map_eq_some_iff.mp version
  have later : History (.ofKnown {}) (fun _ _ => True) _ _ _ := .ofInputs next
  refine ⟨s, reply, _, _, reach, ok, later, rfl, ?_⟩
  exact (idempotent_commands_replay_iff reach fresh ok later
    (.createPublishPreview "tenant" "ann" "task-a1" "p1" 2 5 7) (.at 7 "c3")).mpr ⟨task, stored, is⟩

end MemoryStore

end PrdAgent.Runcontrol
