import PrdAgent.Runcontrol.PublishSteps

/-!
# Tasks and their events

Tasks are never removed, keep their owner, and their versions do not go down (`Task.Continues`);
every run and every publish belongs to a stored task (`Anchored`). Every operation appends at most one
event with the next number (`EventStep`). A `Session` is a store with a reader that fetches the events
of a task page by page, passing on the number of the last event it has.
-/

namespace PrdAgent.Runcontrol

open GoText AssocMap Transition

structure Task.Continues (task task' : Task) : Prop where
  taskID : task'.taskID = task.taskID
  tenantID : task'.tenantID = task.tenantID
  ownerID : task'.ownerID = task.ownerID
  message : task'.message = task.message
  version : task.version ≤ task'.version

theorem Task.Continues.refl (task : Task) : task.Continues task := ⟨rfl, rfl, rfl, rfl, le_refl _⟩

variable {task : Task}

theorem Task.Continues.trans {task' task'' : Task} (first : task.Continues task')
    (second : task'.Continues task'') : task.Continues task'' :=
  ⟨second.taskID.trans first.taskID, second.tenantID.trans first.tenantID,
    second.ownerID.trans first.ownerID, second.message.trans first.message,
    first.version.trans second.version⟩

theorem Task.continues_advanced (task : Task) (status : TaskStatus) (now : Time) :
    task.Continues (task.advanced status now) :=
  ⟨rfl, rfl, rfl, rfl, Int.le_add_one (le_refl _)⟩

def Owns (tasks : GoMap Task) (taskID tenantID ownerID : String) : Prop :=
  ∃ task, tasks.get taskID = some task ∧ task.tenantID = tenantID ∧ task.ownerID = ownerID

variable {tasks : GoMap Task} {taskID : String}

theorem Owns.mono {tasks' : GoMap Task} (follow : Into Task.Continues tasks tasks')
    {tenantID ownerID : String} (owns : Owns tasks taskID tenantID ownerID) :
    Owns tasks' taskID tenantID ownerID := by
  obtain ⟨task, stored, tenant, owner⟩ := owns
  obtain ⟨task', stored', continues⟩ := follow taskID task stored
  exact ⟨task', stored', continues.tenantID.trans tenant, continues.ownerID.trans owner⟩

/-- The tasks of two moments without a new one in between. -/
structure SameTasks (tasks tasks' : GoMap Task) : Prop where
  came : From Task.Continues tasks tasks'
  went : Into Task.Continues tasks tasks'

theorem SameTasks.refl (tasks : GoMap Task) : SameTasks tasks tasks :=
  ⟨.refl .refl _, .refl .refl _⟩

theorem SameTasks.set {task' : Task}
    (stored : tasks.get taskID = some task) (next : task.Continues task') :
    SameTasks tasks (tasks.set taskID task') := by
  refine ⟨.set .refl stored next, .set .refl fun found there => ?_⟩
  cases stored.symm.trans there
  exact next

theorem TaskOutcome.sameTasks {tasks' : GoMap Task}
    {advanced : Task → Prop} {reply : Except StoreError Reply}
    (outcome : TaskOutcome tasks taskID advanced reply tasks')
    (stored : tasks.get taskID = some task)
    (next : ∀ task', advanced task' → task.Continues task') : SameTasks tasks tasks' := by
  cases outcome with
  | failed err => exact .refl tasks
  | succeeded reply is => exact .set stored (next _ is)

variable {policy : QueuePolicy} {input : Input}

namespace MemoryStore

/-- Every run and every publish belongs to a stored task of its owner. -/
structure Anchored (s : MemoryStore) : Prop where
  tasksKeyed : s.tasks.Keyed Task.taskID
  runsKeyed : s.runs.Keyed AgentRun.runID
  runs : ∀ runID run, s.runs.get runID = some run →
    Owns s.tasks run.taskID run.tenantID run.ownerID
  publishes : ∀ publishID value, s.publishes.get publishID = some value →
    Owns s.tasks value.record.taskID value.tenantID value.ownerID

variable {rt : Runtime} {call : Call} {s t : MemoryStore}

theorem Anchored.runTask (anchored : Anchored s) {runID : String} {run : AgentRun}
    (stored : s.runs.get runID = some run) :
    s.tasks.get run.taskID = some ((s.tasks.get run.taskID).getD {}) ∧
      ((s.tasks.get run.taskID).getD {}).taskID = run.taskID := by
  obtain ⟨task, taskStored, -⟩ := anchored.runs runID run stored
  have key : task.taskID = run.taskID := anchored.tasksKeyed _ _ taskStored
  rw [taskStored]
  exact ⟨rfl, key⟩

theorem Submits.taskStored {lease : LeaseContext} {output : RunOutput} {target : OutputTarget}
    {decoded : DecodedOutput} (submits : Submits rt call s lease output target decoded)
    (anchored : Anchored s) : s.tasks.get target.task.taskID = some target.task ∧
      target.task.taskID = target.run.taskID := by
  obtain ⟨stored, key⟩ := anchored.runTask submits.run
  rw [← submits.task] at stored key
  exact ⟨key ▸ stored, key⟩

/-! ## Tasks continue -/

theorem ReviewStep.sameTasks {op : Op} {reply : Except StoreError Reply}
    {data : ReviewData} (step : ReviewStep rt call s op reply data) (anchored : Anchored s) :
    SameTasks s.tasks data.tasks ∨ ∃ value task, reply = .ok (.taskWithRun value) ∧
        data.tasks = s.tasks.set (call.newID "task") task := by
  cases step with
  | kept => exact .inl (.refl s.tasks)
  | created value named => exact .inr ⟨value, _, rfl, rfl⟩
  | outlineDrafted reply submits
  | unitGenerated reply submits pending
  | unitRevised reply submits reopened based
  | reviewed reply submits stored locked status current =>
    exact .inl (.set (submits.taskStored anchored).1 (Task.continues_advanced _ _ _))
  | outlineLocked lockable outcome =>
    have key : _ = _ := anchored.tasksKeyed _ _ lockable.taskStored
    refine .inl (outcome.sameTasks (key ▸ lockable.taskStored) fun task' is => ?_)
    rw [is]
    exact Task.continues_advanced _ _ _
  | unitConfirmed decides dependencies idle outcome =>
    refine .inl (outcome.sameTasks decides.taskStored fun task' is => ?_)
    obtain ⟨status, -, rfl⟩ := is
    exact Task.continues_advanced _ _ _
  | unitReopened decides independent idle outcome =>
    refine .inl (outcome.sameTasks decides.taskStored fun task' is => ?_)
    rw [is]
    exact Task.continues_advanced _ _ _
  | draftSubmitted reply draftID scope candidates stored taskStored =>
    obtain ⟨found, key⟩ := anchored.runTask stored
    rw [← taskStored] at found key
    exact .inl (.set (key ▸ found) (Task.continues_advanced _ _ _))
  | draftDecided reply status taskStatus noOutline taskStored stored versionTask =>
    exact .inl (.set taskStored (Task.continues_advanced _ _ _))
  | publishConfirmed reply now taskStored stored ofTask version status =>
    exact .inl (.set taskStored ⟨rfl, rfl, rfl, rfl, le_refl _⟩)
  | publishCompleted reply now stored running taskStored ended =>
    obtain ⟨task, found, -⟩ := anchored.publishes _ _ stored
    have key : task.taskID = _ := anchored.tasksKeyed _ _ found
    rw [found] at taskStored
    subst taskStored
    rw [← key] at found
    unfold completedTask at ended
    repeat' split at ended
    all_goals cases ended
    all_goals exact .inl (.set found ⟨rfl, rfl, rfl, rfl, le_refl _⟩)

theorem apply_sameTasks (rt : Runtime) (input : Input) (anchored : Anchored s) :
    SameTasks s.tasks (apply rt input s).1.tasks ∨ ∃ tenantID ownerID message key task,
        input.op = .createTaskWithRun tenantID ownerID message key ∧
        (apply rt input s).1.tasks = s.tasks.set (input.call.newID "task") task := by
  rcases (apply_review rt input s).sameTasks anchored with same | ⟨value, task, replied, tasks⟩
  · exact .inl same
  · obtain ⟨call, op⟩ := input
    cases op
    case createTaskWithRun => exact .inr ⟨_, _, _, _, task, rfl, tasks⟩
    case projectMemory => cases replied
    all_goals
      dsimp only [apply, replying, Except.map] at replied
      split at replied <;> cases replied

theorem apply_tasksContinue (anchored : Anchored s) (fresh : Fresh s input) :
    Into Task.Continues s.tasks (apply rt input s).1.tasks := by
  rcases apply_sameTasks rt input anchored with same | ⟨_, _, _, _, task, -, tasks⟩
  · exact same.went
  · rw [tasks]
    exact .insert .refl fresh.1 task

theorem Origin.owns {op : Op} {provision : Provision} (origin : Origin rt call s op provision)
    (anchored : Anchored s) :
    (∃ tenantID ownerID message key, op = .createTaskWithRun tenantID ownerID message key ∧
      provision.run.taskID = call.newID "task" ∧ provision.run.tenantID = tenantID ∧
      provision.run.ownerID = ownerID) ∨
    Owns s.tasks provision.run.taskID provision.run.tenantID provision.run.ownerID := by
  have own {taskID : String} {task : Task} (stored : s.tasks.get taskID = some task) :
      Owns s.tasks task.taskID task.tenantID task.ownerID := by
    have key : task.taskID = taskID := anchored.tasksKeyed _ _ stored
    exact ⟨task, key ▸ stored, rfl, rfl⟩
  cases origin with
  | started admitted assigned planned => exact .inl ⟨_, _, _, _, rfl, rfl, rfl, rfl⟩
  | retried taskStored owner version unused idle admitted
  | draftReopened noOutline taskStored owner idle admitted => exact .inr ⟨_, taskStored, owner⟩
  | outlineLocked lockable ready admitted built => exact .inr (own lockable.taskStored)
  | nextUnit decides outlineStored ready admitted built
  | fullReview decides outlineStored all admitted built
  | revision decides outlineStored admitted built => exact .inr (own decides.taskStored)

theorem apply_anchored (fresh : Fresh s input) (anchored : Anchored s) :
    Anchored (apply rt input s).1 := by
  have follow : Into Task.Continues s.tasks (apply rt input s).1.tasks :=
    apply_tasksContinue anchored fresh
  refine ⟨apply_tasksKeyed rt input anchored.tasksKeyed, apply_keyed rt fresh anchored.runsKeyed,
    fun runID run stored => ?_, fun publishID value stored => ?_⟩
  · cases creates : input.op.creates with
    | false =>
      obtain ⟨before, found, descends⟩ := apply_descendants anchored.runsKeyed creates runID run
        stored
      rw [descends.taskID, descends.tenantID, descends.ownerID]
      exact (anchored.runs runID before found).mono follow
    | true =>
      cases apply_creation rt input s creates with
      | none runs => exact (anchored.runs runID run (runs ▸ stored)).mono follow
      | @one provision origin provides =>
        rw [provides.runs] at stored
        rcases get_set_eq_some stored with ⟨rfl, rfl⟩ | ⟨-, stored⟩
        · rcases origin.owns anchored with ⟨tenantID, ownerID, message, key, is, task, tenant,
            owner⟩ | owns
          · obtain ⟨call, op⟩ := input
            dsimp only at is task fresh
            subst is
            rcases createTaskWithRun_stored rt call s tenantID ownerID message key with
              same | ⟨new, ofTenant, ofOwner, -, tasks, -⟩
            · exact absurd same (provides.changes fresh.2.1)
            · rw [task, tenant, owner]
              refine ⟨new, ?_, ofTenant, ofOwner⟩
              exact (congrArg (·.get (call.newID "task")) tasks).trans (get_set_self ..)
          · exact owns.mono follow
        · exact (anchored.runs runID run stored).mono follow
  · rcases apply_publish_descends rt input stored with ⟨before, found, descends⟩ |
      ⟨tenantID, ownerID, taskID, _, _, _, task, _, -, taskStored, owner, -, -, rfl⟩
    · rw [descends.taskID, descends.tenantID, descends.ownerID]
      exact (anchored.publishes publishID before found).mono follow
    · exact Owns.mono follow ⟨task, taskStored, owner⟩

theorem Anchored.initial (policy : QueuePolicy) : Anchored (newMemoryStore policy) := by
  refine ⟨.empty _, .empty _, fun runID run stored => ?_, fun publishID value stored => ?_⟩
  · cases stored
  · cases stored

theorem History.anchored {condition : MemoryStore → Input → Prop}
    {events : List StoreEvent} (history : History rt condition (newMemoryStore policy) events s) :
    Anchored s :=
  history.invariant (I := Anchored) (fun _ _ allowed anchored => apply_anchored allowed.1 anchored)
    (.initial policy)

/-! ## Events -/

def eventsOf (s : MemoryStore) (taskID : String) : List TaskEvent := (s.events.get taskID).getD []

section

variable (rt call s) in
abbrev Logs (op : Op) : Prop := EventStep call s (apply rt ⟨call, op⟩ s).1.events

variable {tenantID ownerID taskID publishID workerID eventType token key : String} {version : Int}
  {now : Time}

theorem appendTaskEvent_events {payload : ByteArray} :
    Logs rt call s (.appendTaskEvent tenantID ownerID taskID eventType payload) := by
  dsimp only [Logs, apply, replying]
  unfold appendTaskEvent fail
  iterate 3
    split
    · exact .kept
  · exact .appended _ _ _ _ _

theorem submitRunOutput_events {lease : LeaseContext} {output : RunOutput} :
    Logs rt call s (.submitRunOutput lease output) := by
  dsimp only [Logs, apply, replying]
  have outcome := submitRunOutput_outcome rt call lease output s
  generalize submitRunOutput rt call lease output s = result at outcome ⊢
  cases outcome with
  | refused err | repeated stored recorded same | rejected submits failed => exact .kept
  | @materialized _ decoded _ submits made =>
    cases decoded with
    | outline candidate =>
      cases made
      exact .appended _ _ _ _ _
    | unit | patch | review =>
      simp only [materialize, materializeUnit, materializePatch, materializeReview] at made
      repeat' split at made
      all_goals cases made
      exact .appended _ _ _ _ _

theorem createPublishPreview_events :
    Logs rt call s (.createPublishPreview tenantID ownerID taskID key version now) := by
  dsimp only [Logs, apply, replying, createPublishPreview, fail]
  repeat' split
  all_goals first | exact .kept | exact .appended _ _ _ _ _

theorem confirmPublish_events :
    Logs rt call s (.confirmPublish tenantID ownerID taskID publishID token key version now) := by
  dsimp only [Logs, apply, replying, confirmPublish, fail]
  repeat' split
  all_goals first | exact .kept | exact .appended _ _ _ _ _

theorem completePublish_events {result : PublishResult} :
    Logs rt call s (.completePublish workerID publishID result now) := by
  dsimp only [Logs, apply, replying]
  unfold completePublish fail
  dsimp only
  split
  · exact .kept
  split
  · exact .kept
  · exact .appended _ _ _ _ _

end

theorem apply_events (rt : Runtime) (input : Input) (s : MemoryStore) :
    EventStep input.call s (apply rt input s).1.events := by
  have kept : .events ∉ input.op.writes → (apply rt input s).1.events = s.events :=
    apply_frame rt input s .events
  obtain ⟨call, op⟩ := input
  cases op
  case appendTaskEvent => exact appendTaskEvent_events
  case submitRunOutput => exact submitRunOutput_events
  case createTaskWithRun | confirmOutline | confirmConfirmationUnit | reopenConfirmationUnit =>
    exact (apply_creation rt ⟨call, _⟩ s rfl).events
  case createPublishPreview => exact createPublishPreview_events
  case confirmPublish => exact confirmPublish_events
  case completePublish => exact completePublish_events
  all_goals exact kept (by simp) ▸ .kept

def Numbered (events : List TaskEvent) : Prop :=
  events.map (·.sequence) = (List.range' 1 events.length).map Int.ofNat

variable {events : List TaskEvent}

theorem Numbered.append (numbered : Numbered events) {event : TaskEvent}
    (next : event.sequence = events.length + 1) : Numbered (events ++ [event]) := by
  unfold Numbered at numbered ⊢
  rw [List.map_append, numbered, List.length_append, List.length_singleton, List.range'_concat,
    List.map_append]
  simp [next]
  omega

theorem EventStep.numbered {events : GoMap (List TaskEvent)} (step : EventStep call s events)
    (numbered : ∀ taskID, Numbered (s.eventsOf taskID)) (taskID : String) :
    Numbered ((events.get taskID).getD []) := by
  cases step with
  | kept => exact numbered taskID
  | appended tenantID ownerID changed eventType payload =>
    unfold appendTaskEventLocked
    rw [get_set]
    split
    · next same =>
      subst same
      exact (numbered taskID).append rfl
    · exact numbered taskID
  | started first =>
    rw [get_set]
    split
    · simp [Numbered, first]
    · exact numbered taskID

theorem History.numbered {condition : MemoryStore → Input → Prop}
    {events : List StoreEvent} (history : History rt condition (newMemoryStore policy) events s)
    (taskID : String) : Numbered (s.eventsOf taskID) := by
  refine history.invariant (I := fun s => ∀ taskID, Numbered (s.eventsOf taskID))
    (fun s input _ numbered taskID => (apply_events rt input s).numbered numbered taskID) ?_ taskID
  intro taskID
  unfold eventsOf
  rw [show (newMemoryStore policy).events.get taskID = none from get_empty taskID]
  rfl

/-! ## Reading events page by page -/

theorem collectEvents_eq (after : Int) (limit : Nat) (events items : List TaskEvent)
    (room : items.length < limit) : collectEvents after limit events items =
      items ++ (events.filter fun event => decide (after < event.sequence)).take
        (limit - items.length) := by
  induction events generalizing items with
  | nil => simp [collectEvents]
  | cons event rest ih =>
    unfold collectEvents
    split
    · next old => rw [ih items room, List.filter_cons_of_neg (by simpa using old)]
    · next new =>
      rw [List.filter_cons_of_pos (by simpa using new)]
      obtain ⟨more, is⟩ : ∃ more, limit - items.length = more + 1 :=
        ⟨limit - items.length - 1, by omega⟩
      dsimp only
      rw [is, List.take_succ_cons, List.length_append, List.length_singleton]
      split
      · have none : more = 0 := by omega
        simp [none]
      · rw [ih _ (by simp; omega), List.length_append, List.length_singleton,
          show limit - (items.length + 1) = more by omega]
        simp

theorem eventPageSize_pos (limit : Int) : 0 < eventPageSize limit := by
  unfold eventPageSize defaultEventPageSize maxEventPageSize
  split <;> omega

theorem filter_after_of_numbered {start : Nat}
    (numbered : events.map (·.sequence) = (List.range' start events.length).map Int.ofNat)
    (count : Nat) : events.filter (fun event => decide ((count : Int) < event.sequence)) =
      events.drop (count + 1 - start) := by
  induction events generalizing start with
  | nil => simp
  | cons event rest ih =>
    rw [List.length_cons, List.range'_succ, List.map_cons, List.map_cons, List.cons.injEq]
      at numbered
    obtain ⟨first, others⟩ := numbered
    have first : event.sequence = start := first
    have behind := ih others
    by_cases old : start ≤ count
    · rw [List.filter_cons_of_neg (by simp [first]; omega), behind,
        show count + 1 - start = (count - start) + 1 by omega, List.drop_succ_cons,
        show count + 1 - (start + 1) = count - start by omega]
    · rw [List.filter_cons_of_pos (by simp [first]; omega), behind,
        show count + 1 - start = 0 by omega, show count + 1 - (start + 1) = 0 by omega]
      rfl

/-- The number of the last event received, to be passed on as the next cursor. -/
def cursorAfter (received : List TaskEvent) : Int := (received.getLast?.map (·.sequence)).getD 0

theorem cursorAfter_take (numbered : Numbered events) {count : Nat}
    (within : count ≤ events.length) : cursorAfter (events.take count) = count := by
  cases count with
  | zero => rfl
  | succ last =>
    have there : last < events.length := within
    have sequence : events[last].sequence = last + 1 := by
      have same := congrArg (·[last]?) numbered
      simp [there] at same
      omega
    unfold cursorAfter
    rw [List.getLast?_take]
    simp [there, sequence]

end MemoryStore

/-- A store, and the events a reader has received from it. -/
structure Session where
  store : MemoryStore
  received : List TaskEvent := []

/-- What happens in a session: an operation of the store, or a read of the next page. -/
inductive SessionAction
  | operate (input : Input)
  | read (limit : Int)

namespace Session

open MemoryStore

section

variable (rt : Runtime) (tenantID ownerID taskID : String)

def read (limit : Int) (w : Session) : Session :=
  match listTaskEvents tenantID ownerID taskID (cursorAfter w.received) limit w.store with
  | .ok page => { w with received := w.received ++ page }
  | .error _ => w

def step (action : SessionAction) (w : Session) : Session × Unit :=
  match action with
  | .operate input => ({ w with store := (apply rt input w.store).1 }, ())
  | .read limit => (read tenantID ownerID taskID limit w, ())

/-- The operations of the store draw fresh identifiers. -/
def Allowed (w : Session) : SessionAction → Prop
  | .operate input => Fresh w.store input
  | .read _ => True

instance (w : Session) : (action : SessionAction) → Decidable (Allowed w action)
  | .operate input => inferInstanceAs (Decidable (Fresh w.store input))
  | .read _ => .isTrue trivial

abbrev Runs : Session → List (Event Session SessionAction Unit) → Session → Prop :=
  Run (step rt tenantID ownerID taskID) Allowed

end

variable {rt : Runtime} {tenantID ownerID taskID : String} {w : Session}

/-- What the reader has received is the beginning of the events. -/
structure Sound (taskID : String) (w : Session) : Prop where
  anchored : Anchored w.store
  numbered : ∀ taskID, Numbered (w.store.eventsOf taskID)
  received : w.received <+: w.store.eventsOf taskID
  stored : w.received ≠ [] → ∃ task, w.store.tasks.get taskID = some task

theorem Sound.read_eq (sound : Sound taskID w)
    (owns : Owns w.store.tasks taskID tenantID ownerID) (limit : Int) :
    (read tenantID ownerID taskID limit w).received =
      (w.store.eventsOf taskID).take (w.received.length + eventPageSize limit) := by
  obtain ⟨task, stored, tenant, owner⟩ := owns
  have already : w.received = (w.store.eventsOf taskID).take w.received.length :=
    List.prefix_iff_eq_take.mp sound.received
  have cursor : cursorAfter w.received = w.received.length := by
    rw [already, cursorAfter_take (sound.numbered taskID) sound.received.length_le,
      ← already]
  have page : listTaskEvents tenantID ownerID taskID (cursorAfter w.received) limit w.store =
      .ok (((w.store.eventsOf taskID).drop w.received.length).take (eventPageSize limit)) := by
    unfold listTaskEvents
    rw [stored]
    dsimp only
    rw [if_neg (by simp [tenant, owner]), cursor, if_neg (by omega),
      collectEvents_eq _ _ _ [] (eventPageSize_pos limit), List.nil_append]
    exact congrArg (fun events => Except.ok (events.take (eventPageSize limit)))
      (filter_after_of_numbered (sound.numbered taskID) w.received.length)
  unfold read
  rw [page]
  dsimp only
  rw [List.take_add, ← already]

theorem read_store (tenantID ownerID taskID : String) (limit : Int) (w : Session) :
    (read tenantID ownerID taskID limit w).store = w.store := by
  unfold read
  split <;> rfl

theorem Sound.read (sound : Sound taskID w) (limit : Int) :
    Sound taskID (read tenantID ownerID taskID limit w) := by
  by_cases owns : Owns w.store.tasks taskID tenantID ownerID
  · have received := sound.read_eq owns limit
    obtain ⟨task, stored, -⟩ := owns
    refine ⟨?_, ?_, ?_, fun _ => ⟨task, ?_⟩⟩
    · rw [read_store]
      exact sound.anchored
    · rw [read_store]
      exact sound.numbered
    · rw [read_store, received]
      exact List.take_prefix _ _
    · rw [read_store]
      exact stored
  · have refused : ∃ err, listTaskEvents tenantID ownerID taskID (cursorAfter w.received) limit
        w.store = .error err := by
      unfold listTaskEvents
      split
      · exact ⟨_, rfl⟩
      next task stored =>
      split
      · exact ⟨_, rfl⟩
      · next owner =>
        rw [not_or, not_not, not_not] at owner
        exact absurd ⟨task, stored, owner⟩ owns
    obtain ⟨err, refused⟩ := refused
    unfold Session.read
    rw [refused]
    exact sound

theorem Sound.operate (sound : Sound taskID w) (fresh : Fresh w.store input) :
    Sound taskID { w with store := (apply rt input w.store).1 } := by
  have events := apply_events rt input w.store
  refine ⟨apply_anchored fresh sound.anchored, events.numbered sound.numbered, ?_, fun some => ?_⟩
  · unfold eventsOf
    dsimp only
    generalize (apply rt input w.store).1.events = after at events ⊢
    cases events with
    | kept => exact sound.received
    | appended tenantID ownerID changed eventType payload =>
      unfold appendTaskEventLocked
      rw [get_set]
      split
      · next same =>
        subst same
        exact sound.received.trans (List.prefix_append _ _)
      · exact sound.received
    | started first =>
      rw [get_set]
      split
      · next same =>
        -- a task that is new has no reader yet
        have none : w.received = [] := by
          by_contra some
          obtain ⟨task, stored⟩ := sound.stored some
          cases (same ▸ fresh.1).symm.trans stored
        rw [none]
        exact List.nil_prefix
      · exact sound.received
  · obtain ⟨task, stored⟩ := sound.stored some
    have follow : Into Task.Continues w.store.tasks (apply rt input w.store).1.tasks :=
      apply_tasksContinue sound.anchored fresh
    obtain ⟨task', stored', -⟩ := follow taskID task stored
    exact ⟨task', stored'⟩

theorem Runs.sound {trace : List (Event Session SessionAction Unit)}
    (run : Runs rt tenantID ownerID taskID { store := newMemoryStore policy } trace w) :
    Sound taskID w := by
  refine run.invariant (I := Sound taskID) (fun w action allowed sound => ?_) ?_
  · cases action with
    | operate input => exact sound.operate allowed
    | read limit => exact sound.read limit
  · have none (taskID : String) : (newMemoryStore policy).eventsOf taskID = [] := by
      unfold eventsOf
      rw [show (newMemoryStore policy).events.get taskID = none from get_empty taskID]
      rfl
    refine ⟨.initial policy, fun taskID => ?_, List.nil_prefix, fun some => absurd rfl some⟩
    rw [none]
    rfl

/-- As many pages as there are events left bring them all, whatever the page limits. -/
theorem Sound.reads (sound : Sound taskID w) (owns : Owns w.store.tasks taskID tenantID ownerID)
    (limits : List Int)
    (enough : (w.store.eventsOf taskID).length ≤ w.received.length + limits.length) :
    (limits.foldl (fun w limit => Session.read tenantID ownerID taskID limit w) w).received =
      w.store.eventsOf taskID := by
  induction limits generalizing w with
  | nil => exact sound.received.eq_of_length_le (by simpa using enough)
  | cons limit rest ih =>
    have store := read_store tenantID ownerID taskID limit w
    have received := sound.read_eq owns limit
    have size := eventPageSize_pos limit
    rw [List.foldl_cons, ← store]
    refine ih (sound.read limit) (by rw [store]; exact owns) ?_
    rw [store, received, List.length_take]
    rw [List.length_cons] at enough
    omega

end Session

end PrdAgent.Runcontrol
