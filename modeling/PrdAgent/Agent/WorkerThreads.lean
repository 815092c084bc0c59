import Mathlib.Data.List.Count
import PrdAgent.Library.Transition

/-!
# The two threads of a worker run

`worker_server.py`, with acknowledgements enabled: `ExecuteRun` takes a slot, and its generator sends
one event at a time and waits until the control plane has acknowledged it. The agent loop runs in a
thread of its own. Its sink calls (`emit`) put a signal into a queue and wait until the generator has
released it; meanwhile they poll the cancellation token.

The generator releases a signal on every exit, also when its event was never acknowledged, and it gives
the slot back when it ends, whether or not the loop has ended (`unacknowledged_return`).
-/

namespace PrdAgent.Agent

open Transition

/-! ## Signals -/

inductive Signal
  | modelAttempt (attemptKey operation requestHash status : String)
  | evidenceAppended (items : Nat)
  | runArtifactSaved (artifactKey artifactType requestHash contentHash : String) (size : Nat)
  | checkpointSaved (sequence : Int) (size : Nat)
  | ledger (operationKey operation requestHash entryKind : String)
  | other (eventType : String)

structure ResultLimits where
  maxCheckpointBytes : Nat := 256 * 1024
  maxRunArtifactBytes : Nat := 1024 * 1024
  maxEvidenceItems : Nat := 100

/-- The checks of the event loop; the message is that of the `InvalidAgentResult`. -/
def checkSignal (limits : ResultLimits) (latestCheckpoint : Int) : Signal → Except String Unit
  | .modelAttempt attemptKey operation requestHash status =>
    if attemptKey = "" ∨ operation = "" ∨ requestHash = "" ∨ status = "" then
      .error "Model Attempt metadata is incomplete"
    else .ok ()
  | .evidenceAppended items =>
    if items > limits.maxEvidenceItems then .error "Evidence count exceeds limit" else .ok ()
  | .runArtifactSaved artifactKey artifactType requestHash contentHash size =>
    if artifactKey = "" ∨ artifactType = "" ∨ requestHash = "" ∨ contentHash = "" ∨ size = 0 ∨
        size > limits.maxRunArtifactBytes then
      .error "Run Artifact payload is invalid"
    else .ok ()
  | .checkpointSaved sequence size =>
    if sequence ≤ latestCheckpoint ∨ size = 0 ∨ size > limits.maxCheckpointBytes then
      .error "Checkpoint sequence or payload is invalid"
    else .ok ()
  | .ledger operationKey operation requestHash entryKind =>
    if operationKey = "" ∨ operation = "" ∨ requestHash = "" ∨ entryKind = "" then
      .error "Ledger event identity is incomplete"
    else .ok ()
  | .other eventType => .error ("unsupported runtime event: " ++ eventType)

/-! ## Runs -/

inductive Loop
  | unstarted
  | running
  /-- In `emit`, waiting for the release of a signal. -/
  | emitting (id : Nat)
  | done
deriving DecidableEq

def Loop.live : Loop → Bool
  | .running | .emitting _ => true
  | .unstarted | .done => false

/-- The event whose acknowledgement the generator waits for. -/
inductive Sent
  | started
  | signal (id : Nat) (signal : Signal)
  /-- An event after the loop, or the `RUN_FAILED` event, with the number of those that follow. -/
  | closing (left : Nat)

inductive Generator
  /-- In `_yield_acked`; the flag is that of the waiter. -/
  | waiting (sent : Sent) (acknowledged : Bool)
  | polling
  | closed

def Generator.isOpen : Generator → Bool
  | .closed => false
  | .waiting .. | .polling => true

structure WorkerExecution where
  dispatchID : String
  runID : String
  /-- The number of the event that is waited for, or else of the next one. -/
  sequence : Nat
  latestCheckpoint : Int
  generator : Generator
  loop : Loop
  signals : List (Nat × Signal)
  emitted : Nat
  cancelled : Bool
  released : List Nat
  /-- The signals whose events the control plane acknowledged. -/
  acknowledged : List Nat
  /-- The signals whose sink calls returned normally. -/
  returned : List Nat

namespace WorkerExecution

variable (limits : ResultLimits)

def pending (run : WorkerExecution) (dispatchID : String) (sequence : Nat) : Bool :=
  match run.generator with
  | .waiting .. => run.dispatchID == dispatchID && run.sequence == sequence
  | .polling | .closed => false

/-- An event goes out, unless one with its identifier is waited for. -/
def send (taken : Nat → Bool) (sent : Sent) (run : WorkerExecution) : WorkerExecution :=
  { run with generator := if taken run.sequence then .closed else .waiting sent false }

/-- The failure exit of the event loop's body: cancel, release, raise. -/
def release (id : Nat) (run : WorkerExecution) : WorkerExecution :=
  { run with cancelled := true, released := id :: run.released }

/-- `AcknowledgeEvent`. -/
def acknowledge (dispatchID runID : String) (sequence committed : Nat) (run : WorkerExecution) :
    WorkerExecution :=
  if run.pending dispatchID sequence = false ∨ run.runID ≠ runID ∨ committed < sequence then run
  else match run.generator with
    | .waiting (.signal id signal) _ =>
      { run with
        generator := .waiting (.signal id signal) true
        acknowledged := id :: run.acknowledged }
    | .waiting sent _ => { run with generator := .waiting sent true }
    | .polling | .closed => run

def wake (taken : Nat → Bool) (run : WorkerExecution) : WorkerExecution :=
  match run.generator with
  | .waiting .started true =>
    { run with sequence := 2, generator := .polling, loop := .running }
  | .waiting (.signal id signal) true =>
    { run with
      sequence := run.sequence + 1, generator := .polling, released := id :: run.released
      latestCheckpoint := match signal with
        | .checkpointSaved sequence _ => sequence
        | _ => run.latestCheckpoint }
  | .waiting (.closing 0) true => { run with generator := .closed }
  | .waiting (.closing (left + 1)) true =>
    { run with sequence := run.sequence + 1 }.send taken (.closing left)
  | _ => run

/-- The acknowledgement does not come in time, or the stream is closed. -/
def fail (run : WorkerExecution) : WorkerExecution :=
  match run.generator with
  | .waiting (.signal id _) _ => { run.release id with generator := .closed }
  | .waiting _ _ => { run with generator := .closed }
  | .polling | .closed => run

/-- The generator takes the next signal. -/
def poll (taken : Nat → Bool) (run : WorkerExecution) : WorkerExecution :=
  match run.generator, run.signals with
  | .polling, (id, signal) :: rest =>
    match checkSignal limits run.latestCheckpoint signal with
    | .error _ => { run.release id with signals := rest }.send taken (.closing 0)
    | .ok () =>
      if taken run.sequence then { run.release id with signals := rest, generator := .closed }
      else { run with signals := rest, generator := .waiting (.signal id signal) false }
  | _, _ => run

def finish (taken : Nat → Bool) (left : Nat) (run : WorkerExecution) : WorkerExecution :=
  match run.generator, run.signals, run.loop with
  | .polling, [], .done => run.send taken (.closing left)
  | _, _, _ => run

/-- The loop calls the sink. -/
def emit (signal : Signal) (run : WorkerExecution) : WorkerExecution :=
  match run.loop with
  | .running =>
    { run with
      loop := .emitting run.emitted, signals := run.signals ++ [(run.emitted, signal)]
      emitted := run.emitted + 1 }
  | _ => run

/-- The sink call finds its signal released. -/
def return_ (run : WorkerExecution) : WorkerExecution :=
  match run.loop with
  | .emitting id =>
    if id ∈ run.released then { run with loop := .running, returned := id :: run.returned } else run
  | _ => run

/-- The sink call finds the token cancelled and raises. -/
def raise (run : WorkerExecution) : WorkerExecution :=
  match run.loop, run.cancelled with
  | .emitting _, true => { run with loop := .running }
  | _, _ => run

/-- The loop returns or raises. -/
def end_ (run : WorkerExecution) : WorkerExecution :=
  match run.loop with
  | .running => { run with loop := .done }
  | _ => run

end WorkerExecution

/-! ## The worker -/

/-- A step of one of the two threads of a run, or of the environment. -/
inductive ThreadStep
  | wake
  | fail
  | poll
  | finish (left : Nat)
  | emit (signal : Signal)
  | return_
  | raise
  | end_
  | cancel

inductive ServerInput
  | executeRun (dispatchID runID : String) (checkpointSequence : Int)
  | acknowledgeEvent (dispatchID runID : String) (sequence committed : Nat)
  | thread (index : Nat) (step : ThreadStep)

structure WorkerServer where
  slots : Nat
  runs : List WorkerExecution

namespace WorkerServer

variable (limits : ResultLimits)

def newWorkerServer (maxInflight : Nat) : WorkerServer := ⟨maxInflight, []⟩

def taken (s : WorkerServer) (dispatchID : String) (sequence : Nat) : Bool :=
  s.runs.any (·.pending dispatchID sequence)

def threadStep (taken : Nat → Bool) : ThreadStep → WorkerExecution → WorkerExecution
  | .wake, run => run.wake taken
  | .fail, run => run.fail
  | .poll, run => run.poll limits taken
  | .finish left, run => run.finish taken left
  | .emit signal, run => run.emit signal
  | .return_, run => run.return_
  | .raise, run => run.raise
  | .end_, run => run.end_
  | .cancel, run => { run with cancelled := true }

def freed (before after : WorkerExecution) : Nat :=
  if before.generator.isOpen && !after.generator.isOpen then 1 else 0

def step : ServerInput → WorkerServer → WorkerServer × Unit
  | .executeRun dispatchID runID checkpointSequence, s =>
    if s.slots = 0 ∨ s.taken dispatchID 1 = true then (s, ())
    else ({
      slots := s.slots - 1
      runs := s.runs ++ [{
        dispatchID := dispatchID, runID := runID, sequence := 1
        latestCheckpoint := checkpointSequence, generator := .waiting .started false
        loop := .unstarted, signals := [], emitted := 0, cancelled := false, released := []
        acknowledged := [], returned := [] }] }, ())
  | .acknowledgeEvent dispatchID runID sequence committed, s =>
    ({ s with runs := s.runs.map (·.acknowledge dispatchID runID sequence committed) }, ())
  | .thread index action, s =>
    match s.runs[index]? with
    | none => (s, ())
    | some run =>
      -- the generator itself is not waiting when it registers an event
      let next := threadStep limits (s.taken run.dispatchID) action run
      ({ slots := s.slots + freed run next, runs := s.runs.set index next }, ())

/-! ## What holds while no event fails -/

def fails (taken : Nat → Bool) (run : WorkerExecution) : ThreadStep → Bool
  | .fail => match run.generator with
    | .waiting (.signal _ _) _ => true
    | _ => false
  | .poll => match run.generator, run.signals with
    | .polling, (_, signal) :: _ =>
      (checkSignal limits run.latestCheckpoint signal).isOk = false || taken run.sequence
    | _, _ => false
  | _ => false

/-- No event of a loop fails while the loop runs: it is valid, no other event with its identifier is
waited for, and it is acknowledged before the timeout and before the stream is closed. -/
def steady (s : WorkerServer) : ServerInput → Bool
  | .thread index action => match s.runs[index]? with
    | some run => !(run.loop.live && fails limits (s.taken run.dispatchID) run action)
    | none => true
  | _ => true

/-- What holds of a run, as long as no event failed while its loop ran. -/
structure Sound (run : WorkerExecution) : Prop where
  started : ∀ acknowledged, run.generator = .waiting .started acknowledged →
    run.loop = .unstarted ∧ run.released = []
  acknowledged : ∀ id signal, run.generator = .waiting (.signal id signal) true → id ∈ run.acknowledged
  released : run.loop.live = true → ∀ id ∈ run.released, id ∈ run.acknowledged
  returned : ∀ id ∈ run.returned, id ∈ run.acknowledged
  served : run.loop.live = true → run.generator.isOpen = true ∧
    ∀ left acknowledged, run.generator ≠ .waiting (.closing left) acknowledged

variable {limits} {run : WorkerExecution}

theorem Sound.acknowledge (sound : Sound run) (dispatchID runID : String) (sequence committed : Nat) :
    Sound (run.acknowledge dispatchID runID sequence committed) := by
  unfold WorkerExecution.acknowledge
  split
  · exact sound
  split
  · next id signal _ is =>
      refine ⟨nofun, fun other _ same => ?_, fun live other mem => ?_, fun other mem => ?_, fun _ => ⟨rfl, nofun⟩⟩
      · cases same
        exact .head _
      · exact .tail _ (sound.released live other mem)
      · exact .tail _ (sound.returned other mem)
  · next sent _ other is =>
      refine ⟨fun _ same => ?_, fun id signal same => ?_, sound.released, sound.returned, fun live =>
        ⟨rfl, fun left _ same => ?_⟩⟩
      · cases same
        exact sound.started _ is
      · cases same
        exact absurd rfl (other id signal)
      · cases same
        exact (sound.served live).2 _ _ is
  · exact sound
  · exact sound

theorem Sound.dead (returned : ∀ id ∈ run.returned, id ∈ run.acknowledged)
    (dead : run.loop.live = false)
    (started : ∀ acknowledged, run.generator ≠ .waiting .started acknowledged)
    (unset : ∀ id signal, run.generator ≠ .waiting (.signal id signal) true) : Sound run := by
  have never : ¬ run.loop.live = true := by simp [dead]
  exact ⟨fun _ is => absurd is (started _), fun _ _ is => absurd is (unset _ _),
    fun live => absurd live never, returned, fun live => absurd live never⟩

theorem Sound.send_closing (returned : ∀ id ∈ run.returned, id ∈ run.acknowledged)
    (dead : run.loop.live = false) (taken : Nat → Bool) (left : Nat) :
    Sound (run.send taken (.closing left)) := by
  refine .dead returned dead (fun _ is => ?_) fun _ _ is => ?_ <;>
  · simp only [WorkerExecution.send] at is
    split at is <;> cases is

section

variable (sound : Sound run)

include sound

theorem Sound.wake (taken : Nat → Bool) : Sound (run.wake taken) := by
  unfold WorkerExecution.wake
  have ended {left : Nat} {flag : Bool} (is : run.generator = .waiting (.closing left) flag) :
      run.loop.live = false := by
    by_contra live
    exact (sound.served (by simpa using live)).2 _ _ is
  split
  · next is =>
      obtain ⟨-, none⟩ := sound.started _ is
      refine ⟨nofun, nofun, fun _ id mem => ?_, sound.returned, fun _ => ⟨rfl, nofun⟩⟩
      rw [show run.released = [] from none] at mem
      cases mem
  · next id signal is =>
      refine ⟨nofun, nofun, fun live other mem => ?_, sound.returned, fun _ => ⟨rfl, nofun⟩⟩
      rcases List.mem_cons.mp mem with rfl | mem
      · exact sound.acknowledged _ _ is
      · exact sound.released live other mem
  · next is => exact .dead sound.returned (ended is) nofun nofun
  · next left is =>
      refine .send_closing ?_ ?_ taken left
      · exact sound.returned
      · exact ended is
  · exact sound

theorem Sound.fail {taken : Nat → Bool}
    (kept : (run.loop.live && fails limits taken run .fail) = false) : Sound run.fail := by
  unfold WorkerExecution.fail
  split
  · next id signal _ is =>
      have dead : run.loop.live = false := by simpa [fails, is] using kept
      exact .dead sound.returned dead nofun nofun
  · next sent flag other is =>
      refine .dead sound.returned ?_ nofun nofun
      by_contra live
      cases sent with
      | started => simp [(sound.started _ is).1, Loop.live] at live
      | signal id signal => exact other id signal rfl
      | closing left => exact (sound.served (by simpa using live)).2 _ _ is
  · exact sound
  · exact sound

theorem Sound.poll {taken : Nat → Bool}
    (kept : (run.loop.live && fails limits taken run .poll) = false) :
    Sound (run.poll limits taken) := by
  unfold WorkerExecution.poll
  split
  · next id signal rest polling signals =>
      split
      · next invalid =>
          have dead : run.loop.live = false := by
            simpa [fails, polling, signals, invalid, Except.isOk, Except.toBool] using kept
          refine .send_closing ?_ ?_ taken 0
          · exact sound.returned
          · exact dead
      · split
        · next reused =>
            have dead : run.loop.live = false := by simpa [fails, polling, signals, reused] using kept
            exact .dead sound.returned dead nofun nofun
        · exact ⟨nofun, nofun, sound.released, sound.returned, fun _ => ⟨rfl, nofun⟩⟩
  · exact sound

theorem Sound.finish (taken : Nat → Bool) (left : Nat) :
    Sound (run.finish taken left) := by
  unfold WorkerExecution.finish
  split
  · next ended => exact .send_closing sound.returned (by simp [ended, Loop.live]) taken left
  · exact sound

theorem Sound.of_loop {loop : Loop} {signals : List (Nat × Signal)}
    {emitted : Nat} {returned : List Nat} (live : run.loop.live = true)
    (acknowledged : ∀ id ∈ returned, id ∈ run.acknowledged) :
    Sound { run with loop := loop, signals := signals, emitted := emitted, returned := returned } := by
  refine ⟨fun _ is => ?_, sound.acknowledged, fun _ => sound.released live, acknowledged,
    fun _ => sound.served live⟩
  rw [(sound.started _ is).1] at live
  cases live

theorem Sound.threadStep {taken : Nat → Bool} {action : ThreadStep}
    (kept : (run.loop.live && fails limits taken run action) = false) :
    Sound (threadStep limits taken action run) := by
  cases action with
  | wake => exact sound.wake taken
  | fail => exact sound.fail kept
  | poll => exact sound.poll kept
  | finish left => exact sound.finish taken left
  | emit | raise | end_ =>
    simp only [WorkerServer.threadStep, WorkerExecution.emit, WorkerExecution.raise,
      WorkerExecution.end_]
    split
    · exact sound.of_loop (by simp [*, Loop.live]) sound.returned
    · exact sound
  | return_ =>
    change Sound run.return_
    unfold WorkerExecution.return_
    split
    · next id is =>
        split
        · next released =>
            have live : run.loop.live = true := by simp [is, Loop.live]
            refine sound.of_loop live fun other mem => ?_
            rcases List.mem_cons.mp mem with rfl | mem
            · exact sound.released live _ released
            · exact sound.returned other mem
        · exact sound
    · exact sound
  | cancel => exact ⟨sound.started, sound.acknowledged, sound.released, sound.returned, sound.served⟩

end

/-! ## Slots -/

theorem closed_threadStep (taken : Nat → Bool) (action : ThreadStep)
    (closed : run.generator.isOpen = false) :
    (WorkerServer.threadStep limits taken action run).generator.isOpen = false := by
  have is : run.generator = .closed := by
    cases generator : run.generator with
    | closed => rfl
    | waiting | polling =>
      rw [generator] at closed
      cases closed
  cases action with
  | wake | fail | poll | finish =>
    simp [WorkerServer.threadStep, WorkerExecution.wake, WorkerExecution.fail, WorkerExecution.poll,
      WorkerExecution.finish, is, Generator.isOpen]
  | emit | return_ | raise | end_ | cancel =>
    simp only [WorkerServer.threadStep, WorkerExecution.emit, WorkerExecution.return_,
      WorkerExecution.raise, WorkerExecution.end_]
    repeat' split
    all_goals exact closed

theorem isOpen_acknowledge (dispatchID runID : String) (sequence committed : Nat) :
    (run.acknowledge dispatchID runID sequence committed).generator.isOpen = run.generator.isOpen := by
  unfold WorkerExecution.acknowledge
  split
  · rfl
  split
  · next is => rw [is]; rfl
  · next is => rw [is]; rfl
  · rfl
  · rfl

theorem step_slots (input : ServerInput) (s : WorkerServer) :
    (step limits input s).1.slots + (step limits input s).1.runs.countP (·.generator.isOpen) =
      s.slots + s.runs.countP (·.generator.isOpen) := by
  cases input with
  | executeRun dispatchID runID checkpointSequence =>
    dsimp only [step]
    split
    · rfl
    · next admitted =>
        have some : s.slots ≠ 0 := fun none => admitted (.inl none)
        rw [List.countP_append, List.countP_singleton]
        simp only [Generator.isOpen, if_true]
        omega
  | acknowledgeEvent dispatchID runID sequence committed =>
    simp only [step, List.countP_map, Function.comp_def, isOpen_acknowledge]
  | thread index action =>
    dsimp only [step]
    split
    · rfl
    next run stored =>
    obtain ⟨within, is⟩ := List.getElem?_eq_some_iff.mp stored
    have counted (open_ : run.generator.isOpen = true) :
        0 < s.runs.countP (·.generator.isOpen) :=
      List.countP_pos_iff.mpr ⟨run, List.mem_of_getElem? stored, open_⟩
    dsimp only
    rw [List.countP_set within, is, freed]
    cases before : run.generator.isOpen with
    | false => simp [closed_threadStep _ action before]
    | true =>
      have := counted before
      cases (threadStep limits (s.taken run.dispatchID) action run).generator.isOpen
      · simp only [Bool.not_false, Bool.and_true, if_true, Bool.false_eq_true, if_false]
        omega
      · simp only [Bool.not_true, Bool.and_false, if_true, Bool.false_eq_true, if_false]
        omega

theorem step_sound {input : ServerInput} {s : WorkerServer} (kept : steady limits s input = true)
    (sound : ∀ run ∈ s.runs, Sound run) : ∀ run ∈ (step limits input s).1.runs, Sound run := by
  cases input with
  | executeRun dispatchID runID checkpointSequence =>
    dsimp only [step]
    split
    · exact sound
    · intro run mem
      rcases List.mem_append.mp mem with mem | new
      · exact sound run mem
      · cases List.mem_singleton.mp new
        exact ⟨fun _ _ => ⟨rfl, rfl⟩, nofun, nofun, nofun, nofun⟩
  | acknowledgeEvent dispatchID runID sequence committed =>
    intro run mem
    obtain ⟨before, there, rfl⟩ := List.mem_map.mp mem
    exact (sound before there).acknowledge _ _ _ _
  | thread index action =>
    dsimp only [step]
    split
    · exact sound
    next run stored =>
    simp only [steady, stored, Bool.not_eq_true'] at kept
    intro other mem
    rcases List.mem_or_eq_of_mem_set mem with mem | rfl
    · exact sound other mem
    · exact (sound run (List.mem_of_getElem? stored)).threadStep kept

/-- As long as no event of a loop fails while the loop runs, a sink call returns only once its event is
acknowledged, and there are never more live loops than slots. -/
theorem acknowledged_before_return {maxInflight : Nat} {s : WorkerServer}
    {events : List (Event WorkerServer ServerInput Unit)}
    (history : Run (step limits) (fun s input => steady limits s input = true)
      (newWorkerServer maxInflight) events s) :
    (∀ run ∈ s.runs, ∀ id ∈ run.returned, id ∈ run.acknowledged) ∧
      s.runs.countP (·.loop.live) ≤ maxInflight := by
  have sound : ∀ run ∈ s.runs, Sound run :=
    history.invariant (I := fun s => ∀ run ∈ s.runs, Sound run) (fun _ _ kept => step_sound kept) nofun
  have slots : s.slots + s.runs.countP (·.generator.isOpen) = maxInflight :=
    history.invariant (I := fun s => s.slots + s.runs.countP (·.generator.isOpen) = maxInflight)
      (fun s input _ before => (step_slots input s).trans before) rfl
  refine ⟨fun run mem => (sound run mem).returned, ?_⟩
  have served : s.runs.countP (·.loop.live) ≤ s.runs.countP (·.generator.isOpen) :=
    List.countP_mono_left fun run mem live => ((sound run mem).served live).1
  omega

def eventSent (dispatchID runID : String) : List ServerInput := [
  .executeRun dispatchID runID 0, .acknowledgeEvent dispatchID runID 1 1, .thread 0 .wake,
  .thread 0 (.emit (.ledger "plan" "plan" "sha256:a" "MODEL")), .thread 0 .poll]

theorem acknowledged_before_return_sent :
    let inputs := eventSent "d" "run-a" ++
      [.acknowledgeEvent "d" "run-a" 2 2, .thread 0 .wake, .thread 0 .return_]
    let s := stateFrom (step {}) inputs (newWorkerServer 1)
    s.runs.map (·.returned) = [[0]] ∧ (∀ run ∈ s.runs, ∀ id ∈ run.returned, id ∈ run.acknowledged) ∧
      s.runs.countP (·.loop.live) ≤ 1 :=
  ⟨by decide, acknowledged_before_return (.ofInputs (by decide))⟩

/-- The acknowledgement of a started call times out: the sink call returns all the same, the loop goes
on, and a second run takes its slot. -/
theorem unacknowledged_return :
    let inputs := eventSent "d" "run-a" ++ [.thread 0 .fail, .thread 0 .return_,
      .executeRun "e" "run-b" 0, .acknowledgeEvent "e" "run-b" 1 1, .thread 1 .wake]
    let s := stateFrom (step {}) inputs (newWorkerServer 1)
    (∃ run ∈ s.runs, ∃ id ∈ run.returned, id ∉ run.acknowledged) ∧ s.runs.countP (·.loop.live) = 2 := by
  decide

end WorkerServer

end PrdAgent.Agent
