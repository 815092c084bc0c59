import PrdAgent.Runcontrol.TaskEvents
import PrdAgent.Runcontrol.ReviewAtomicity

/-!
# Optimistic concurrency of tasks

Five commands name the version of the task they were made for (`Op.expects`). Unless such a command
is answered from a record of an earlier one (`Op.replayed`), it succeeds only at that version and
raises it by one. `task_versions_and_events` puts this together with the numbering of events.
-/

namespace PrdAgent.Runcontrol

open GoText AssocMap Transition

namespace MemoryStore

variable {rt : Runtime} {call : Call} {s t : MemoryStore}

/-- The task was at the expected version, and now it is at the next one. -/
def AdvancesTask (s t : MemoryStore) (now : Time) (taskID : String) (expected : Int) : Prop :=
  ∃ task status, s.tasks.get taskID = some task ∧ task.version = expected ∧
    t.tasks = s.tasks.set taskID (task.advanced status now)

theorem ReviewStep.advances {op : Op} {reply : Reply} {data : ReviewData}
    (step : ReviewStep rt call s op (.ok reply) data) (anchored : Anchored s) {taskID : String}
    {expected : Int} (expects : op.expects s = some (taskID, expected))
    (first : op.replayed s = false) :
    ∃ task status, s.tasks.get taskID = some task ∧ task.version = expected ∧
      data.tasks = s.tasks.set taskID (task.advanced status call.now) := by
  cases step with
  | kept silent =>
    rcases silent reply rfl with none | replayed
    · cases none.symm.trans expects
    · cases first.symm.trans replayed
  | created | publishConfirmed | publishCompleted => cases expects
  | outlineDrafted _ submits
  | unitGenerated _ submits
  | unitRevised _ submits
  | reviewed _ submits =>
    obtain ⟨stored, key⟩ := submits.taskStored anchored
    obtain ⟨run, found, is⟩ := Option.map_eq_some_iff.mp expects
    cases submits.run.symm.trans found
    cases is
    rw [← key]
    exact ⟨_, _, stored, (validateRunOutput_ok submits.valid).1.symm, rfl⟩
  | outlineLocked lockable outcome =>
    cases expects
    cases outcome with
    | succeeded _ is =>
      have key : _ = _ := anchored.tasksKeyed _ _ lockable.taskStored
      exact ⟨_, _, lockable.taskStored, lockable.version, by rw [is, key]⟩
  | unitConfirmed decides _ _ outcome =>
    cases expects
    cases outcome with
    | succeeded _ is =>
      obtain ⟨status, -, rfl⟩ := is
      exact ⟨_, status, decides.taskStored, decides.taskVersion, rfl⟩
  | unitReopened decides _ _ outcome =>
    cases expects
    cases outcome with
    | succeeded _ is => exact ⟨_, _, decides.taskStored, decides.taskVersion, by rw [is]⟩
  | draftSubmitted _ _ _ _ stored taskStored current =>
    obtain ⟨run, found, is⟩ := Option.map_eq_some_iff.mp expects
    cases stored.symm.trans found
    cases is
    obtain ⟨there, key⟩ := anchored.runTask stored
    rw [← taskStored] at there key
    exact ⟨_, _, there, current, by rw [key]⟩
  | draftDecided _ _ _ _ taskStored _ _ _ named =>
    cases named.symm.trans expects
    exact ⟨_, _, taskStored, rfl, rfl⟩

/-- A command that is not answered from a record succeeds only at the version it is for, which it
raises by one. -/
theorem apply_taskAdvanced {input : Input} (anchored : Anchored s) {taskID : String}
    {expected : Int} (expects : input.op.expects s = some (taskID, expected))
    (first : input.op.replayed s = false) (succeeds : Succeeds rt s input) :
    AdvancesTask s (apply rt input s).1 input.call.now taskID expected := by
  obtain ⟨reply, replied⟩ := succeeds.ok
  have step := apply_review rt input s
  rw [replied] at step
  exact step.advances anchored expects first

/-! ## Whole histories -/

theorem History.tasksContinue {condition : MemoryStore → Input → Prop} {events : List StoreEvent}
    (history : History rt condition s events t) (anchored : Anchored s) :
    Into Task.Continues s.tasks t.tasks :=
  history.relates (I := Anchored) (R := fun s t => Into Task.Continues s.tasks t.tasks)
    (fun s => .refl .refl s.tasks) (fun first second => first.trans .trans second)
    (fun _ _ allowed anchored => apply_anchored allowed.1 anchored)
    (fun _ _ allowed anchored => apply_tasksContinue anchored allowed.1) anchored

/-- The event is a command for a version of a task that succeeded and was not answered from a
record. -/
def wins (taskID : String) (expected : Int) (event : StoreEvent) : Bool :=
  decide (event.input.op.expects event.before = some (taskID, expected)) &&
    !event.input.op.replayed event.before && (Reply.error? event.reply).isNone

theorem AdvancesTask.of_wins {taskID : String} {expected : Int} {input : Input}
    (anchored : Anchored s)
    (won : wins taskID expected (Event.of (apply rt) s input) = true) :
    AdvancesTask s (apply rt input s).1 input.call.now taskID expected := by
  unfold wins at won
  simp only [Bool.and_eq_true, decide_eq_true_eq, Bool.not_eq_true', Option.isNone_iff_eq_none]
    at won
  exact apply_taskAdvanced anchored won.1.1 won.1.2 won.2

theorem History.wins_once {condition : MemoryStore → Input → Prop} {policy : QueuePolicy}
    {events : List StoreEvent} (history : History rt condition (newMemoryStore policy) events s)
    (taskID : String) (expected : Int) : events.countP (wins taskID expected) ≤ 1 := by
  refine countP_le_one_of_once fun early event late cut won later mem again => ?_
  obtain ⟨between, rest, rfl⟩ := List.append_of_mem mem
  subst cut
  obtain ⟨first, reached, after⟩ := history.split
  obtain ⟨is, fresh, after⟩ := after.uncons
  obtain ⟨second, between, last⟩ := after.split
  obtain ⟨is', -, -⟩ := last.uncons
  rw [is] at won
  rw [is'] at again
  have reached : History rt condition (newMemoryStore policy) early first := reached
  have between : History rt condition event.after _ second := between
  have anchored : Anchored first := reached.anchored
  have anchored' : Anchored event.after := by
    rw [is]
    exact apply_anchored fresh.1 anchored
  obtain ⟨task, status, stored, version, tasks⟩ := AdvancesTask.of_wins anchored won
  have advanced : event.after.tasks.get taskID =
      some (task.advanced status event.input.call.now) := by
    rw [is]
    exact (congrArg (·.get taskID) tasks).trans (get_set_self _ _ _)
  obtain ⟨later, found, continues⟩ := between.tasksContinue anchored' taskID _ advanced
  obtain ⟨task', status', stored', version', -⟩ :=
    AdvancesTask.of_wins (between.invariant (I := Anchored)
      (fun _ _ allowed anchored => apply_anchored allowed.1 anchored) anchored') again
  cases found.symm.trans stored'
  have raised : task.version + 1 ≤ later.version := continues.version
  omega

/-- Versions never go down; a command that is not answered from a record raises the version it is
for by one when it succeeds, so that of the commands for one version at most one does; events are
numbered from one on; and a reader who passes on the number of the last event received as the next
cursor receives the events in order, none twice, and all of them after as many more pages as there
are events left. -/
theorem task_versions_and_events (rt : Runtime) (policy : QueuePolicy) :
    (∀ s events t, Reachable rt policy s → History rt (fun _ _ => True) s events t →
      Into (fun task task' => task.version ≤ task'.version) s.tasks t.tasks) ∧
    (∀ s input taskID expected, Reachable rt policy s →
      input.op.expects s = some (taskID, expected) → input.op.replayed s = false →
      Succeeds rt s input → ∃ task task', s.tasks.get taskID = some task ∧
        (apply rt input s).1.tasks.get taskID = some task' ∧ task'.version = task.version + 1) ∧
    (∀ events s taskID expected, History rt (fun _ _ => True) (newMemoryStore policy) events s →
      events.countP (wins taskID expected) ≤ 1) ∧
    (∀ s taskID, Reachable rt policy s → (s.eventsOf taskID).map (·.sequence) =
      (List.range' 1 (s.eventsOf taskID).length).map Int.ofNat) ∧
    ∀ tenantID ownerID taskID trace w,
      Session.Runs rt tenantID ownerID taskID { store := newMemoryStore policy } trace w →
      w.received <+: w.store.eventsOf taskID ∧
        ∀ limits : List Int, Owns w.store.tasks taskID tenantID ownerID →
          (w.store.eventsOf taskID).length ≤ w.received.length + limits.length →
          (limits.foldl (fun w limit => Session.read tenantID ownerID taskID limit w) w).received =
            w.store.eventsOf taskID := by
  refine ⟨fun s events t reach history taskID task stored => ?_,
    fun s input taskID expected reach expects first succeeds => ?_,
    fun events s taskID expected history => history.wins_once taskID expected,
    fun s taskID reach => ?_, fun tenantID ownerID taskID trace w run => ?_⟩
  · obtain ⟨past, reached⟩ := reach
    obtain ⟨task', stored', continues⟩ := history.tasksContinue reached.anchored taskID task stored
    exact ⟨task', stored', continues.version⟩
  · obtain ⟨past, reached⟩ := reach
    obtain ⟨task, status, stored, -, tasks⟩ :=
      apply_taskAdvanced reached.anchored expects first succeeds
    refine ⟨task, task.advanced status input.call.now, stored, ?_, rfl⟩
    rw [tasks]
    exact get_set_self _ _ _
  · obtain ⟨past, reached⟩ := reach
    exact reached.numbered taskID
  · exact ⟨run.sound.received, fun limits owns enough => run.sound.reads owns limits enough⟩

def draftsForOneVersion : List Input := [
  ⟨.at 1 "a1", .createTaskWithRun "tenant" "ann" "m" "start"⟩,
  ⟨.at 2 "b1", .acquireRun "run-a1" "worker" 2 50⟩,
  ⟨.at 3 "b2", .submitDraft firstLease "draft" 1 "x".toUTF8⟩,
  ⟨.at 4 "b3", .submitDraft firstLease "other" 1 "y".toUTF8⟩]

def readWhilePreviewed : List SessionAction :=
  (draftsForOneVersion.map .operate) ++ [.read 1,
    .operate ⟨.at 5 "c1", .createPublishPreview "tenant" "ann" "task-a1" "p1" 2 5⟩]

theorem task_versions_and_events_two_drafts : ∃ events s trace w,
    History (.ofKnown {}) (fun _ _ => True) (newMemoryStore oneSlot) events s ∧
    events.countP (wins "task-a1" 1) = 1 ∧
    Session.Runs (.ofKnown {}) "tenant" "ann" "task-a1" { store := newMemoryStore oneSlot } trace
      w ∧
    w.received.length = 1 ∧
    ([1].foldl (fun w limit => Session.read "tenant" "ann" "task-a1" limit w) w).received =
      w.store.eventsOf "task-a1" := by
  obtain ⟨events, s, history, first⟩ : ∃ events s,
      History (.ofKnown {}) (fun _ _ => True) (newMemoryStore oneSlot) events s ∧
      1 ≤ events.countP (wins "task-a1" 1) :=
    exists_run draftsForOneVersion (by decide +kernel)
  obtain ⟨trace, w, run, one, two, task, stored, owner⟩ : ∃ trace w,
      Session.Runs (.ofKnown {}) "tenant" "ann" "task-a1" { store := newMemoryStore oneSlot } trace
        w ∧
      w.received.length = 1 ∧ (w.store.eventsOf "task-a1").length = 2 ∧
      ∃ task ∈ w.store.tasks.get "task-a1", task.tenantID = "tenant" ∧ task.ownerID = "ann" :=
    exists_run readWhilePreviewed (by decide +kernel)
  obtain ⟨-, -, once, -, reads⟩ := task_versions_and_events (.ofKnown {}) oneSlot
  refine ⟨events, s, trace, w, history, le_antisymm (once _ _ _ _ history) first, run, one, ?_⟩
  exact (reads _ _ _ _ w run).2 [1] ⟨task, stored, owner⟩ (by rw [two, one]; decide)

end MemoryStore

end PrdAgent.Runcontrol
