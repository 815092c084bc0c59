import PrdAgent.Runcontrol.UnitVersions

/-!
# Locked outlines

The outline of a task is stored in one slot per task, and an accepted output of a planning run
writes that slot whatever it holds. `ReviewStep.outlineChange` says what a call does to the slot if
planning outputs are accepted only for tasks without an outline (`PlansOnce`): nothing, the first
outline, or the lock. Without the condition a planning run that is retried after a lock replaces the
locked outline.
-/

namespace PrdAgent.Runcontrol

open GoText Transition

namespace MemoryStore

variable {rt : Runtime} {call : Call} {s t : MemoryStore} {taskID : String}

/-- A planning output that is not recorded yet is submitted only for a task without an outline. -/
def PlansOnce (s : MemoryStore) (input : Input) : Prop :=
  (match input.op with
    | .submitRunOutput lease output =>
      output.runPurpose != .planOutline ||
        (s.runOutputs.get (joinKey lease.runID output.outputKey)).isSome ||
        (s.runs.get lease.runID).all fun run => (s.reviewOutlines.get run.taskID).isNone
    | _ => true) = true

instance (s : MemoryStore) (input : Input) : Decidable (PlansOnce s input) :=
  inferInstanceAs (Decidable (_ = true))

inductive OutlineChange : Option ReviewOutlineVersion → Option ReviewOutlineVersion → Prop
  | kept (outline : Option ReviewOutlineVersion) : OutlineChange outline outline
  | drafted (outline : ReviewOutlineVersion) : OutlineChange none (some outline)
  | locked {outline : ReviewOutlineVersion} (draft : outline.status = .draft) (now : Time) :
      OutlineChange (some outline) (some (outline.lock now))

theorem OutlineChange.set {outlines : GoMap ReviewOutlineVersion} {key : String}
    {outline : ReviewOutlineVersion} (change : OutlineChange (outlines.get key) (some outline)) :
    OutlineChange (outlines.get taskID) ((outlines.set key outline).get taskID) := by
  by_cases same : taskID = key
  · subst same
    rw [AssocMap.get_set_self]
    exact change
  · rw [AssocMap.get_set_ne _ _ same]
    exact .kept _

theorem ReviewStep.outlineChange {op : Op} {reply : Except StoreError Reply} {data : ReviewData}
    (step : ReviewStep rt call s op reply data) (anchored : Anchored s)
    (once : PlansOnce s ⟨call, op⟩) :
    OutlineChange (s.reviewOutlines.get taskID) (data.outlines.get taskID) := by
  cases step with
  | outlineDrafted reply submits =>
    refine OutlineChange.set ?_
    unfold PlansOnce at once
    dsimp only at once
    rw [← submits.identity, submits.unused, submits.run] at once
    cases decodeOutput_ok submits.decodes with
    | outline purpose parsed =>
      simp only [purpose, bne_self_eq_false, Option.isSome_none, Bool.false_or, Option.all_some,
        Option.isNone_iff_eq_none] at once
      rw [(submits.taskStored anchored).2, once]
      exact .drafted _
  | outlineLocked lockable outcome =>
    have key : _ = _ := anchored.tasksKeyed _ _ lockable.taskStored
    refine OutlineChange.set ?_
    rw [key, lockable.outlineStored]
    exact .locked lockable.draft _
  | kept | created | unitGenerated | unitRevised | reviewed | unitConfirmed | unitReopened
  | draftSubmitted | draftDecided | publishConfirmed | publishCompleted => exact .kept _

/-! ## Whole histories -/

/-- A task with an outline keeps one, and a locked outline stays as it is. -/
def OutlineKept (taskID : String) (s t : MemoryStore) : Prop :=
  ∀ outline, s.reviewOutlines.get taskID = some outline →
    ∃ outline', t.reviewOutlines.get taskID = some outline' ∧
      (outline.status = .locked → outline' = outline)

theorem OutlineKept.trans {u : MemoryStore} (first : OutlineKept taskID s t)
    (second : OutlineKept taskID t u) : OutlineKept taskID s u := by
  intro outline stored
  obtain ⟨middle, stored, same⟩ := first outline stored
  obtain ⟨last, stored, same'⟩ := second middle stored
  refine ⟨last, stored, fun locked => ?_⟩
  cases same locked
  exact same' locked

theorem apply_outlineKept {input : Input} (anchored : Anchored s) (once : PlansOnce s input) :
    OutlineKept taskID s (apply rt input s).1 := by
  intro outline stored
  have change : OutlineChange (s.reviewOutlines.get taskID)
      ((apply rt input s).1.reviewOutlines.get taskID) := 
    (apply_review rt input s).outlineChange anchored once
  rw [stored] at change
  generalize (apply rt input s).1.reviewOutlines.get taskID = after at change
  cases change with
  | kept => exact ⟨outline, rfl, fun _ => rfl⟩
  | locked draft now =>
    refine ⟨_, rfl, fun locked => ?_⟩
    rw [draft] at locked
    cases locked

theorem History.outlineKept {events : List StoreEvent}
    (history : History rt PlansOnce s events t) (anchored : Anchored s) :
    OutlineKept taskID s t :=
  Run.relates (I := Anchored) (fun _ outline stored => ⟨outline, stored, fun _ => rfl⟩)
    OutlineKept.trans (fun _ _ allowed => apply_anchored allowed.1)
    (fun _ _ allowed anchored => apply_outlineKept anchored allowed.2) history anchored

/-- The outline version that an event materialises for a task: an accepted planning output that was
not recorded before. -/
def materializedOutline (taskID : String) (event : StoreEvent) : Option ReviewOutlineVersion :=
  match event.input.op, event.reply with
  | .submitRunOutput lease output, .ok _ =>
    if output.runPurpose = .planOutline ∧
        event.before.runOutputs.get (joinKey lease.runID output.outputKey) = none ∧
        (event.before.runs.get lease.runID).map (·.taskID) = some taskID then
      event.after.reviewOutlines.get taskID
    else none
  | _, _ => none

theorem materializedOutline_some {event : StoreEvent} {outline : ReviewOutlineVersion}
    (once : PlansOnce event.before event.input)
    (made : materializedOutline taskID event = some outline) :
    event.before.reviewOutlines.get taskID = none ∧
      event.after.reviewOutlines.get taskID = some outline := by
  obtain ⟨before, ⟨call, op⟩, reply, after⟩ := event
  unfold materializedOutline at made
  unfold PlansOnce at once
  dsimp only at once made ⊢
  split at made
  · split at made
    · next is =>
      obtain ⟨purpose, unused, ofTask⟩ := is
      obtain ⟨run, stored, rfl⟩ := Option.map_eq_some_iff.mp ofTask
      simp only [purpose, unused, stored] at once
      exact ⟨by simpa using once, made⟩
    · cases made
  · cases made

theorem History.materialized_once {policy : QueuePolicy} {events : List StoreEvent}
    (history : History rt PlansOnce (newMemoryStore policy) events t) (taskID : String) :
    (events.filterMap (materializedOutline taskID)).length ≤ 1 := by
  rw [List.length_filterMap_eq_countP]
  refine countP_le_one_of_once fun early event late cut made later mem made' => ?_
  subst cut
  obtain ⟨outline, made⟩ := Option.isSome_iff_exists.mp made
  obtain ⟨outline', made'⟩ := Option.isSome_iff_exists.mp made'
  obtain ⟨before, first, rest⟩ := history.split
  obtain ⟨is, allowed, afterwards⟩ := rest.uncons
  have same : event.before = before := congrArg (·.before) is
  subst same
  have anchored : Anchored event.before := History.anchored first
  have stored := (materializedOutline_some allowed.2 made).2
  obtain ⟨middle, last, is', allowed', between, -⟩ := afterwards.of_mem mem
  have kept : OutlineKept taskID event.after later.before := by
    refine History.outlineKept between ?_
    rw [is]
    exact apply_anchored allowed.1 anchored
  obtain ⟨found, there, -⟩ := kept outline stored
  cases there.symm.trans (materializedOutline_some allowed'.2 made').1

/-- In every history whose planning outputs are for tasks without an outline, a locked outline stays
as it is, and the versions of a task's outlines increase. -/
theorem locked_outline_immutable {policy : QueuePolicy} {early late : List StoreEvent}
    (history : History rt PlansOnce (newMemoryStore policy) early s)
    (later : History rt PlansOnce s late t) (taskID : String) :
    (∀ outline, s.reviewOutlines.get taskID = some outline → outline.status = .locked →
      t.reviewOutlines.get taskID = some outline) ∧
    ((early ++ late).filterMap (materializedOutline taskID)).Pairwise
      fun earlier outline => earlier.version < outline.version := by
  constructor
  · intro outline stored locked
    obtain ⟨outline', stored', same⟩ := later.outlineKept history.anchored outline stored
    rw [stored', same locked]
  · have once := History.materialized_once (history.append later) taskID
    match (early ++ late).filterMap (materializedOutline taskID), once with
    | [], _ => exact .nil
    | [outline], _ => exact List.pairwise_singleton _ _

theorem locked_outline_immutable_acquired : ∃ s t outline,
    s.reviewOutlines.get "task-a1" = some outline ∧ outline.status = .locked ∧
      (∃ events, events ≠ [] ∧ History oneUnitTexts PlansOnce s events t) ∧
      t.reviewOutlines.get "task-a1" = some outline := by
  obtain ⟨early, s, history, late, outline, stored, locked⟩ : ∃ early s,
      History oneUnitTexts PlansOnce (newMemoryStore smallQueue) early s ∧
      AllowedFrom (apply oneUnitTexts) (fun s input => Fresh s input ∧ PlansOnce s input)
        [⟨.at 6 "d1", .acquireRun "run-c1" "worker" 6 50⟩] s ∧
      ∃ outline ∈ s.reviewOutlines.get "task-a1", outline.status = .locked :=
    exists_run (outlineSubmitted oneUnitTexts oneUnitOutline ++ [outlineConfirmed 5 "c1"])
      (by decide +kernel)
  refine ⟨s, _, outline, stored, locked, ⟨_, List.cons_ne_nil _ _, .ofInputs late⟩, ?_⟩
  exact (locked_outline_immutable history (.ofInputs late) "task-a1").1 outline stored locked

/-! ## A planning run after the lock -/

def retriedAfterLock : List Input := [
  ⟨.at 8 "f1", .acquireRun "run-c1" "worker" 8 50⟩,
  ⟨.at 9 "f2", .completeRun ⟨"run-c1", "lease-f1", "worker", 1, 58⟩ .succeeded 9⟩,
  ⟨.at 10 "1a", .retryTask "tenant" "ann" "task-a1" "again" 2⟩,
  ⟨.at 11 "1b", .acquireRun "run-1a" "worker" 11 50⟩,
  ⟨.at 12 "1c", .submitRunOutput ⟨"run-1a", "lease-1b", "worker", 1, 61⟩
    { outlineOutput oneUnitTexts oneUnitOutline with expectedTaskVersion := 2 }⟩]

/-- The locked outline is replaced by a draft with another identifier, which has version 1 again. -/
theorem retried_planning_replaces_locked_outline : ∃ early late s t outline,
    History oneUnitTexts (fun _ _ => True) (newMemoryStore smallQueue) early s ∧
      History oneUnitTexts (fun _ _ => True) s late t ∧
      s.reviewOutlines.get "task-a1" = some outline ∧ outline.status = .locked ∧
      (∃ replaced, t.reviewOutlines.get "task-a1" = some replaced ∧ replaced.status = .draft ∧
        replaced.outlineVersionID ≠ outline.outlineVersionID) ∧
      ¬ ((early ++ late).filterMap (materializedOutline "task-a1")).Pairwise
        fun earlier later => earlier.version < later.version := by
  refine (exists_congr fun _ => exists_comm).mp ?_
  simp only [exists_and_left]
  exact exists_runs (queueFilled ++ [outlineConfirmed 7 "e1"]) retriedAfterLock (by decide +kernel)

end MemoryStore

end PrdAgent.Runcontrol
