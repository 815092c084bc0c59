import PrdAgent.Feishu.Client
import PrdAgent.Runcontrol.ActivePublish

/-!
# Publisher workers

`worker.go`: a worker claims a publish, executes it with the Feishu client and completes it with the
result. A `World` is a store with any number of worker processes, each with at most one claimed
publish in its hands; a process may die between any two of its steps, and every other operation of
the store may happen in between.
-/

namespace PrdAgent.Integration

open GoText PrdAgent.Runcontrol PrdAgent.Feishu AssocMap Transition
open MemoryStore (claimable claimPublishes oneSlot completePublish clockTexts)

/-! ## One attempt -/

/-- Which function of the client an attempt called. -/
inductive Attempt
  | publish | reconcile
deriving DecidableEq

def callClient (rt : Runtime) (config : Config) (reader : DraftReader) (provider : Provider)
    (job : PublishJob) : Attempt × Exchange Feishu.Result :=
  if job.reconcileOnly then (.reconcile, reconcile rt config provider reader job.content)
  else (.publish, publish rt config provider reader job.content)

def failedResult (status : PublishStatus) (code : String) (retryable : Bool := false) :
    PublishResult := {
  status := status, safeURL := "", providerRevision := "", errorCode := code
  retryable := retryable }

/-- How `execute` maps the outcome of a call to the result of the publish. -/
def publishResult (reconcileOnly : Bool) : Except ClientError Feishu.Result → PublishResult
  | .ok result => {
      status := .succeeded, safeURL := result.safeURL
      providerRevision := result.providerRevision, errorCode := "", retryable := false }
  | .error .other => failedResult .reconciling "RESULT_UNKNOWN"
  | .error (.provider err) =>
    if reconcileOnly then
      if err.resultUnknown ∨ err.retryable then failedResult .reconciling err.code
      else failedResult .manualReview err.code
    else if err.resultUnknown then failedResult .reconciling err.code
    else if err.retryable then failedResult .retryable err.code true
    else failedResult .manualReview err.code

/-! ## The world -/

structure InFlight where
  workerID : String
  job : PublishJob
  result : Option PublishResult := none

structure World where
  store : MemoryStore
  processes : GoMap InFlight := ∅

/-- What the processes and the users of the store do. -/
inductive Action
  | operate (input : Input)
  | claim (process workerID : String) (call : Call) (now : Time)
  | execute (process : String) (provider : Provider)
  | complete (process : String) (call : Call) (now : Time)
  | crash (process : String)

/-- An invocation of the client, with whether it changed the document and whether it succeeded. -/
structure Invocation where
  publishID : String
  attempt : Attempt
  wrote : Bool
  succeeded : Bool
deriving DecidableEq

section World

variable (rt : Runtime) (config : Config) (reader : DraftReader)

/-- `ProcessOnce` up to the loop: claim at most one publish for a minute. -/
def claim (process workerID : String) (call : Call) (now : Time) (w : World) : World :=
  match w.processes.get process with
  | some _ => w
  | none =>
    let claimed := MemoryStore.claimPendingPublishes call workerID 1 now minute w.store
    match claimed.2 with
    | .ok (job :: _) => {
        store := claimed.1
        processes := w.processes.set process { workerID := workerID, job := job } }
    | _ => { w with store := claimed.1 }

/-- The loop's call of `execute`. -/
def execute (process : String) (provider : Provider) (w : World) : World × Option Invocation :=
  match w.processes.get process with
  | some { workerID, job, result := none } =>
    let called := callClient rt config reader provider job
    let result := publishResult job.reconcileOnly called.2.1
    ({ w with processes := w.processes.set process { workerID, job, result := some result } },
      some {
        publishID := job.record.publishID, attempt := called.1
        wrote := called.2.2.any (·.mutates)
        succeeded := match called.2.1 with | .ok _ => true | .error _ => false })
  | _ => (w, none)

def complete (process : String) (call : Call) (now : Time) (w : World) : World :=
  match w.processes.get process with
  | some { workerID, job, result := some result } => {
      store := (completePublish rt call workerID job.record.publishID result now
        w.store).1
      processes := w.processes.del process }
  | _ => w

def step (action : Action) (w : World) : World × Option Invocation :=
  match action with
  | .operate input => ({ w with store := (MemoryStore.apply rt input w.store).1 }, none)
  | .claim process workerID call now => (claim process workerID call now w, none)
  | .execute process provider => execute rt config reader process provider w
  | .complete process call now => (complete rt process call now w, none)
  | .crash process => ({ w with processes := w.processes.del process }, none)

def worksPublishes : Op → Bool
  | .claimPendingPublishes .. | .completePublish .. => true
  | _ => false

def Allowed (w : World) : Action → Prop
  | .operate input => MemoryStore.Fresh w.store input ∧ worksPublishes input.op = false
  | _ => True

instance (w : World) : (action : Action) → Decidable (Allowed w action)
  | .operate input =>
    inferInstanceAs (Decidable (MemoryStore.Fresh w.store input ∧ worksPublishes input.op = false))
  | .claim .. | .execute .. | .complete .. | .crash .. => .isTrue trivial

abbrev Runs : World → List (Event World Action (Option Invocation)) → World → Prop :=
  Run (step rt config reader) Allowed

end World

/-! ## What the store does meanwhile -/

variable {value : MemoryPublish}

section Store

variable {rt : Runtime} {s : MemoryStore}

theorem operate_status {input : Input} (fresh : MemoryStore.Fresh s input)
    (other : worksPublishes input.op = false)
    {publishID : String} (stored : s.publishes.get publishID = some value)
    (confirmed : value.record.status ≠ .preview) :
    ∃ value', (MemoryStore.apply rt input s).1.publishes.get publishID = some value' ∧
      value'.record.status = value.record.status := by
  have effect := MemoryStore.apply_publishes rt input s
  obtain ⟨call, op⟩ := input
  generalize (MemoryStore.apply rt ⟨call, op⟩ s).1 = t at effect ⊢
  generalize t.publishes = publishes at effect ⊢
  cases effect with
  | previewed taskStored owner version built =>
    exact ⟨value, get_set_of_unused fresh.2.2 stored, rfl⟩
  | @confirmed _ _ _ confirmedID _ _ _ _ _ _ confirms =>
    have ne : publishID ≠ confirmedID := by
      rintro rfl
      cases stored.symm.trans confirms.stored
      exact confirmed confirms.preview
    exact ⟨value, (get_set_ne _ _ ne).trans stored, rfl⟩
  | moved moves =>
    have each {value value' : MemoryPublish}
        (move : MemoryStore.PublishMove op publishID value value') :
        value'.record.status = value.record.status := by
      cases move with
      | claimed | completed => cases other
      | payloadClaimed | purged => rfl
    exact moves.forth each (fun _ => rfl) (fun first second => second.trans first) stored

theorem claimPublishes_one (workerID : String) (now : Time) (ttl : Duration)
    (visited : List (String × MemoryPublish)) (publishes : GoMap MemoryPublish) :
    claimPublishes workerID 1 now ttl visited publishes [] = (publishes, []) ∨
      ∃ publishID value, (publishID, value) ∈ visited ∧ claimable value now = true ∧
        claimPublishes workerID 1 now ttl visited publishes [] =
          (publishes.set publishID { value with
              record := { value.record with status := .running, updatedAt := now }
              claimWorker := workerID, claimExpires := now + ttl },
            [{ record := { value.record with status := .running, updatedAt := now }
               tenantID := value.tenantID, ownerID := value.ownerID, content := value.content
               reconcileOnly := value.record.status == .reconciling }]) := by
  induction visited with
  | nil => exact .inl rfl
  | cons entry rest ih =>
    obtain ⟨publishID, value⟩ := entry
    unfold claimPublishes
    split
    · rcases ih with none | ⟨otherID, other, mem, can, claimed⟩
      · exact .inl none
      · exact .inr ⟨otherID, other, .tail _ mem, can, claimed⟩
    · next can =>
      refine .inr ⟨publishID, value, .head _, (Bool.not_eq_false _).mp can, ?_⟩
      dsimp only
      rw [if_pos (by simp)]
      rfl

end Store

/-! ## The invariant -/

/-- A publish in this status may still be executed by `Publish`. -/
def writable : PublishStatus → Bool
  | .preview | .pending | .retryable => true
  | _ => false

/-- An invocation of `Publish` for the publish has changed the document. -/
def Written (past : List (Event World Action (Option Invocation))) (publishID : String) : Prop :=
  ∃ event ∈ past, ∃ succeeded, event.reply = some ⟨publishID, .publish, true, succeeded⟩

/-- No step can lead the publish to another invocation of `Publish`. -/
structure Settled (w : World) (publishID : String) : Prop where
  stored : ∃ value, w.store.publishes.get publishID = some value ∧
    writable value.record.status = false
  unexecuted : ∀ process held, w.processes.get process = some held →
    held.job.record.publishID = publishID → held.result = none → held.job.reconcileOnly = true
  executed : ∀ process held result, w.processes.get process = some held →
    held.job.record.publishID = publishID → held.result = some result →
    writable result.status = false

/-- Every publish in the hands of a process is running and in no other hands, and a written
publish is settled. -/
structure Sound (past : List (Event World Action (Option Invocation))) (w : World) :
    Prop where
  keyed : w.store.publishes.Keyed (·.record.publishID)
  running : ∀ process held, w.processes.get process = some held →
    ∃ value, w.store.publishes.get held.job.record.publishID = some value ∧
      value.record.status = .running
  single : ∀ process process' held held', w.processes.get process = some held →
    w.processes.get process' = some held' →
    held.job.record.publishID = held'.job.record.publishID → process = process'
  written : ∀ publishID, Written past publishID → Settled w publishID

variable {rt : Runtime} {config : Config} {reader : DraftReader} {w : World}
  {past : List (Event World Action (Option Invocation))}

variable {event : Event World Action (Option Invocation)} {publishID : String}
  {invocation : Invocation}

theorem Sound.of_store (sound : Sound past w) {store : MemoryStore}
    (keyed : store.publishes.Keyed (·.record.publishID))
    (kept : ∀ publishID value, w.store.publishes.get publishID = some value →
      value.record.status ≠ .preview → ∃ value', store.publishes.get publishID = some value' ∧
        value'.record.status = value.record.status) : Sound past { w with store := store } := by
  refine ⟨keyed, fun process held holds => ?_, sound.single, fun publishID written => ?_⟩
  · obtain ⟨value, stored, running⟩ := sound.running process held holds
    obtain ⟨value', found, same⟩ := kept _ value stored (by rw [running]; decide)
    exact ⟨value', found, same.trans running⟩
  · obtain ⟨⟨value, stored, other⟩, unexecuted, executed⟩ := sound.written publishID written
    refine ⟨?_, unexecuted, executed⟩
    obtain ⟨value', found, same⟩ := kept _ value stored (by rintro is; rw [is] at other; cases other)
    exact ⟨value', found, by rw [same]; exact other⟩

theorem Sound.drop (sound : Sound past w) (process : String) :
    Sound past { w with processes := w.processes.del process } := by
  refine ⟨sound.keyed, fun other held holds => ?_, fun other other' held held' holds holds' => ?_,
    fun publishID written => ?_⟩
  · exact sound.running other held (get_del_eq_some holds).2
  · exact sound.single other other' held held' (get_del_eq_some holds).2
      (get_del_eq_some holds').2
  · obtain ⟨stored, unexecuted, executed⟩ := sound.written publishID written
    exact ⟨stored, fun other held holds => unexecuted other held (get_del_eq_some holds).2,
      fun other held result holds => executed other held result (get_del_eq_some holds).2⟩

/-! ## The steps of a process -/

theorem claimable_status {now : Time} (can : claimable value now = true) :
    value.record.status ≠ .running ∧
      (writable value.record.status = false → value.record.status = .reconciling) := by
  unfold claimable at can
  simp only [Bool.and_eq_true, Bool.or_eq_true, beq_iff_eq] at can
  rcases can.1.1 with (is | is) | is
  all_goals rw [is]; decide

variable {process workerID : String}

theorem Sound.claim (sound : Sound past w) (process workerID : String) (call : Call) (now : Time) :
    Sound past (claim process workerID call now w) := by
  unfold Integration.claim
  split
  · exact sound
  have perm := call.order_perm w.store.publishes.keys
  dsimp only [MemoryStore.claimPendingPublishes]
  rw [ite_self, ite_self]
  rcases claimPublishes_one workerID now minute (w.store.publishes.range call.order)
    w.store.publishes with none | ⟨publishID, value, mem, can, one⟩
  · rw [none]
    exact sound
  · rw [one]
    have stored := (mem_range perm).mp mem
    have key : value.record.publishID = publishID := sound.keyed _ _ stored
    obtain ⟨idle, settled⟩ := claimable_status can
    -- nobody else holds the publish, because it is not running
    have free : ∀ other held, w.processes.get other = some held →
        held.job.record.publishID ≠ publishID := by
      rintro other held holds rfl
      obtain ⟨found, same, running⟩ := sound.running other held holds
      cases stored.symm.trans same
      exact idle running
    refine ⟨sound.keyed.set key, fun other held holds => ?_,
      fun other other' held held' holds holds' same => ?_, fun written settledID => ?_⟩
    · rcases get_set_eq_some holds with ⟨-, rfl⟩ | ⟨-, holds⟩
      · dsimp only
        rw [key]
        exact ⟨_, get_set_self _ _ _, rfl⟩
      · obtain ⟨found, there, running⟩ := sound.running other held holds
        exact ⟨found, (get_set_ne _ _ (free other held holds)).trans there, running⟩
    · rcases get_set_eq_some holds with ⟨is, rfl⟩ | ⟨-, before⟩
      · rcases get_set_eq_some holds' with ⟨is', -⟩ | ⟨-, before'⟩
        · exact is.trans is'.symm
        · exact absurd (same.symm.trans key) (free other' held' before')
      · rcases get_set_eq_some holds' with ⟨-, rfl⟩ | ⟨-, before'⟩
        · exact absurd (same.trans key) (free other held before)
        · exact sound.single other other' held held' before before' same
    · obtain ⟨⟨before, beforeStored, other⟩, unexecuted, executed⟩ := sound.written written settledID
      refine ⟨?_, forall_set (fun is _ => ?_) unexecuted,
          fun process' held result holds is found => ?_⟩
      · by_cases here : written = publishID
        · exact ⟨_, by rw [here]; exact get_set_self _ _ _, rfl⟩
        · exact ⟨before, (get_set_ne _ _ here).trans beforeStored, other⟩
      · have here : publishID = written := key.symm.trans is
        rw [← here, stored] at beforeStored
        cases beforeStored
        exact beq_iff_eq.mpr (settled other)
      · rcases get_set_eq_some holds with ⟨-, rfl⟩ | ⟨-, holds⟩
        · cases found
        · exact executed process' held result holds is found

theorem publishResult_unsure {exchange : Exchange Feishu.Result} (unsure : exchange.Unsure)
    (reconcileOnly : Bool) : writable (publishResult reconcileOnly exchange.1).status = false := by
  rcases unsure with ⟨value, ok⟩ | ⟨err, failed, unknown⟩
  · rw [ok]
    rfl
  · rw [failed]
    unfold publishResult failedResult
    dsimp only
    rw [unknown]
    split
    · rw [if_pos (.inl rfl)]
      rfl
    · rw [if_pos rfl]
      rfl

variable {job : PublishJob}

section

variable (sound : Sound past w)

include sound

theorem Sound.executed
    (holds : w.processes.get process = some { workerID, job }) {result : PublishResult}
    {invocation : Invocation} {event : Event World Action (Option Invocation)}
    (replied : event.reply = some invocation)
    (invoked : invocation.publishID = job.record.publishID)
    (settles : job.reconcileOnly = true ∨ invocation.wrote = true →
      writable result.status = false) : Sound (past ++ [event])
      { w with processes := w.processes.set process { workerID, job, result := some result } } := by
  -- the process holds the same publish as before
  have earlier : ∀ other held,
      (w.processes.set process { workerID, job, result := some result }).get other = some held →
      ∃ before, w.processes.get other = some before ∧ before.job = held.job :=
    forall_set ⟨_, holds, rfl⟩ fun _ held found => ⟨held, found, rfl⟩
  have held := sound.running process _ holds
  refine ⟨sound.keyed, forall_set held sound.running,
    fun other other' held held' found found' => ?_, fun publishID written => ?_⟩
  · obtain ⟨before, had, same⟩ := earlier other held found
    obtain ⟨before', had', same'⟩ := earlier other' held' found'
    rw [← same, ← same']
    exact sound.single other other' before before' had had'
  · obtain ⟨found, mem, succeeded, is⟩ := written
    rcases List.mem_append.mp mem with mem | mem
    · -- it was written before, so that this was a reconciliation
      obtain ⟨stored, unexecuted, executed⟩ := sound.written publishID ⟨found, mem, succeeded, is⟩
      refine ⟨stored, forall_set nofun unexecuted, fun other held done has same some => ?_⟩
      · rcases get_set_eq_some has with ⟨-, rfl⟩ | ⟨-, had⟩
        · cases some
          exact settles (.inl (unexecuted process _ holds same rfl))
        · exact executed other held done had same some
    · -- it was written just now, by the only process that holds it
      rw [List.mem_singleton.mp mem, replied] at is
      cases is
      have alone {other : String} {held : InFlight} (had : w.processes.get other = some held)
          (same : held.job.record.publishID = publishID) : other = process :=
        sound.single other process held _ had holds (same.trans invoked)
      obtain ⟨value, stored, running⟩ := held
      refine ⟨⟨value, by rw [← stored]; exact congrArg _ invoked, by rw [running]; rfl⟩,
        fun other held has same none => ?_, fun other held done has same some => ?_⟩
      · rcases get_set_eq_some has with ⟨-, rfl⟩ | ⟨ne, had⟩
        · cases none
        · exact absurd (alone had same) ne
      · rcases get_set_eq_some has with ⟨-, rfl⟩ | ⟨ne, had⟩
        · cases some
          exact settles (.inr rfl)
        · exact absurd (alone had same) ne

theorem Sound.quiet (quiet : event.reply = none) :
    Sound (past ++ [event]) w := by
  refine { sound with written := fun publishID written => sound.written publishID ?_ }
  obtain ⟨found, mem, succeeded, is⟩ := written
  rcases List.mem_append.mp mem with mem | mem
  · exact ⟨found, mem, succeeded, is⟩
  · rw [List.mem_singleton.mp mem, quiet] at is
    cases is

theorem Sound.execute (process : String) (provider : Provider) :
    Sound (past ++ [Event.of (step rt config reader) w (.execute process provider)])
      (execute rt config reader process provider w).1 := by
  have replied : (Event.of (step rt config reader) w (.execute process provider)).reply =
      (Integration.execute rt config reader process provider w).2 := rfl
  generalize Event.of (step rt config reader) w (.execute process provider) = event
    at replied ⊢
  unfold Integration.execute at replied ⊢
  cases held : w.processes.get process with
  | none =>
    rw [held] at replied
    exact sound.quiet replied
  | some inFlight =>
    obtain ⟨workerID, job, result⟩ := inFlight
    rw [held] at replied
    cases result with
    | some result => exact sound.quiet replied
    | none =>
      -- what an attempt that has written, or that reconciles, leaves behind
      refine sound.executed held replied rfl fun settles => ?_
      unfold callClient at settles ⊢
      cases only : job.reconcileOnly with
      | true =>
        unfold publishResult failedResult
        split
        · rfl
        · rfl
        · rw [if_pos rfl]
          split <;> rfl
      | false =>
        rw [only] at settles
        exact publishResult_unsure (publish_unknown_of_write reader job.content
          (List.any_eq_true.mp (settles.resolve_left nofun))) false

theorem Sound.stored {result : PublishResult}
    (holds : w.processes.get process = some { workerID, job, result := some result })
    (key : value.record.publishID = job.record.publishID)
    (status : value.record.status = result.status) {store : MemoryStore}
    (publishes : store.publishes = w.store.publishes.set job.record.publishID value) :
    Sound past { store := store, processes := w.processes.del process } := by
  refine ⟨?_, fun other held has => ?_, fun other other' held held' has has' => ?_,
    fun publishID written => ?_⟩
  · rw [publishes]
    exact sound.keyed.set key
  · obtain ⟨ne, had⟩ := get_del_eq_some has
    obtain ⟨found, there, running⟩ := sound.running other held had
    have elsewhere : held.job.record.publishID ≠ job.record.publishID := fun same =>
      ne (sound.single other process held _ had holds same)
    refine ⟨found, ?_, running⟩
    rw [publishes, get_set_ne _ _ elsewhere]
    exact there
  · exact sound.single other other' held held' (get_del_eq_some has).2
      (get_del_eq_some has').2
  · obtain ⟨⟨before, there, settled⟩, unexecuted, executed⟩ := sound.written publishID written
    refine ⟨?_, fun other held has => unexecuted other held (get_del_eq_some has).2,
      fun other held done has => executed other held done (get_del_eq_some has).2⟩
    rw [publishes]
    by_cases here : publishID = job.record.publishID
    · refine ⟨value, by rw [here]; exact get_set_self _ _ _, ?_⟩
      rw [status]
      exact executed process _ result holds here.symm rfl
    · exact ⟨before, (get_set_ne _ _ here).trans there, settled⟩

theorem Sound.complete (process : String) (call : Call) (now : Time) :
    Sound past (complete rt process call now w) := by
  unfold Integration.complete
  cases held : w.processes.get process with
  | none => exact sound
  | some inFlight =>
  obtain ⟨workerID, job, result⟩ := inFlight
  cases result with
  | none => exact sound
  | some result =>
  have outcome := MemoryStore.completePublish_outcome rt call workerID job.record.publishID result now
    w.store
  dsimp only
  generalize (completePublish rt call workerID job.record.publishID result now
    w.store).1 = store at outcome ⊢
  rcases outcome with same | ⟨value, value', stored, move, publishes⟩
  · have moved : Sound past { w with store := store } := by
      refine sound.of_store ?_ fun publishID value stored _ => ?_
      · rw [same]
        exact sound.keyed
      · rw [same]
        exact ⟨value, stored, rfl⟩
    exact moved.drop process
  · have key : _ = job.record.publishID := sound.keyed _ _ stored
    cases move
    exact sound.stored held (by exact key) (by rfl) publishes

end

/-! ## Whole histories -/

theorem Sound.step {action : Action} (allowed : Allowed w action) (sound : Sound past w) :
    Sound (past ++ [Event.of (step rt config reader) w action])
      (step rt config reader action w).1 := by
  cases action with
  | operate input =>
    obtain ⟨fresh, other⟩ := allowed
    refine (sound.of_store (MemoryStore.apply_publishesKeyed rt input sound.keyed)
      fun publishID value stored confirmed => ?_).quiet rfl
    exact operate_status fresh other stored confirmed
  | claim process workerID call now => exact (sound.claim process workerID call now).quiet rfl
  | execute process provider => exact sound.execute process provider
  | complete process call now => exact (sound.complete process call now).quiet rfl
  | crash process => exact (sound.drop process).quiet rfl

theorem Settled.reconciles (settled : Settled w publishID) {action : Action}
    (replied : (step rt config reader action w).2 = some invocation)
    (same : invocation.publishID = publishID) : invocation.attempt = .reconcile := by
  cases action with
  | execute process provider =>
    dsimp only [step, execute] at replied
    split at replied
    · next holds =>
      cases replied
      dsimp only [callClient]
      rw [if_pos (settled.unexecuted process _ holds same rfl)]
    · cases replied
  | operate | claim | complete | crash => cases replied

theorem Sound.initial (policy : QueuePolicy) : Sound [] { store := newMemoryStore policy } := by
  refine ⟨.empty _, fun process held holds => ?_, fun process process' held held' holds => ?_,
    fun publishID written => ?_⟩
  · cases holds
  · cases holds
  · obtain ⟨event, mem, -⟩ := written
    cases mem

/-- After an invocation of `Publish` that changed the document, the publish is only reconciled. -/
theorem Runs.reconciles {policy : QueuePolicy} {evs : List (Event World Action (Option Invocation))}
    (run : Runs rt config reader { store := newMemoryStore policy } evs w)
    {early late : List (Event World Action (Option Invocation))}
    (cut : evs = early ++ event :: late) {succeeded : Bool}
    (wrote : event.reply = some ⟨publishID, .publish, true, succeeded⟩)
    {later : Event World Action (Option Invocation)} (mem : later ∈ late)
    (replied : later.reply = some invocation) (same : invocation.publishID = publishID) :
    invocation.attempt = .reconcile := by
  obtain ⟨between, rest, rfl⟩ := List.append_of_mem mem
  rw [show early ++ event :: (between ++ later :: rest) =
    (early ++ event :: between) ++ later :: rest by simp] at cut
  subst cut
  obtain ⟨u, before, after⟩ := run.split
  have sound : Sound ([] ++ (early ++ event :: between)) u :=
    before.invariant_events (fun _ _ _ allowed sound => sound.step allowed) (.initial policy)
  obtain ⟨is, -, -⟩ := after.uncons
  rw [is] at replied
  exact (sound.written publishID ⟨event, by simp, succeeded, wrote⟩).reconciles replied same

def writes (publishID : String) (event : Event World Action (Option Invocation)) : Bool :=
  match event.reply with
  | some invocation =>
    invocation.publishID == publishID && invocation.attempt == .publish && invocation.wrote
  | none => false

theorem writes_iff : writes publishID event = true ↔
      ∃ succeeded, event.reply = some ⟨publishID, .publish, true, succeeded⟩ := by
  unfold writes
  split
  · next invocation replied =>
    obtain ⟨id, attempt, wrote, succeeded⟩ := invocation
    simp [replied, and_assoc]
  · next quiet => simp [quiet]

/-- At most one invocation of `Publish` changes the document, and after one that did without
success every invocation is a reconciliation. -/
theorem document_write_once {policy : QueuePolicy}
    {evs : List (Event World Action (Option Invocation))}
    (run : Runs rt config reader { store := newMemoryStore policy } evs w)
    (publishID : String) :
    evs.countP (writes publishID) ≤ 1 ∧
      ∀ early event late, evs = early ++ event :: late →
        event.reply = some ⟨publishID, .publish, true, false⟩ →
        ∀ later ∈ late, ∀ invocation, later.reply = some invocation →
          invocation.publishID = publishID → invocation.attempt = .reconcile := by
  refine ⟨?_, fun early event late cut wrote later mem invocation replied same =>
    run.reconciles cut wrote mem replied same⟩
  refine countP_le_one_of_once fun early event late cut wrote later mem again => ?_
  obtain ⟨succeeded, wrote⟩ := writes_iff.mp wrote
  obtain ⟨_, replied⟩ := writes_iff.mp again
  cases run.reconciles cut wrote mem replied rfl

def interrupted : Provider := fun _ request =>
  if request.method = .delete then .transport
  else .response 200 (some [
    ("tenant_access_token", .str "t"),
    ("data", .obj [
      ("node", .obj [("obj_type", .str "docx"), ("obj_token", .str "d")]),
      ("document", .obj [("revision_id", .int 1)]),
      ("items", .arr [.obj []]),
      ("content", .str "x")])])

def fixedDocument : Config := {
  appID := "app", appSecret := "secret", documentHost := "host", wikiNodeToken := "w" }

def plainDrafts : DraftReader := { markdownField := fun _ => none, text := fun _ => "x" }

def executedTwice : List Action :=
  (MemoryStore.previewedTwice ++ [MemoryStore.firstConfirmed]).map .operate ++ [
    .claim "p1" "w1" (.at 8 "e1") 8, .execute "p1" interrupted, .complete "p1" (.at 9 "e2") 9,
    .claim "p2" "w2" (.at 60000000000 "e3") 60000000000, .execute "p2" interrupted]

theorem document_write_once_interrupted : ∃ evs w, Runs clockTexts fixedDocument plainDrafts
      { store := newMemoryStore oneSlot } evs w ∧
    evs.filterMap (·.reply) =
      [⟨"publish-c1", .publish, true, false⟩, ⟨"publish-c1", .reconcile, false, true⟩] ∧
    evs.countP (writes "publish-c1") = 1 := by
  obtain ⟨evs, w, run, replies, one⟩ : ∃ evs w,
      Runs clockTexts fixedDocument plainDrafts
        { store := newMemoryStore oneSlot } evs w ∧
      evs.filterMap (·.reply) =
        [⟨"publish-c1", .publish, true, false⟩, ⟨"publish-c1", .reconcile, false, true⟩] ∧
      1 ≤ evs.countP (writes "publish-c1") :=
    exists_run executedTwice (by decide +kernel)
  exact ⟨evs, w, run, replies, le_antisymm (document_write_once run "publish-c1").1 one⟩

end PrdAgent.Integration
