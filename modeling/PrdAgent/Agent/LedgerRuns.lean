import PrdAgent.Library.Transition
import PrdAgent.Agent.Ledger

/-!
# Runs of the worker's ledger over several processes

A run of a worker executes calls, crashes, and builds its ledger again from what its sink has made
durable. `Journal` relates the ledger in memory, the durable entries and the callbacks that were
started, so that a callback is started at most once under an operation key.
-/

namespace PrdAgent.Agent

open Faulty AssocMap
open Runcontrol (BudgetDelta RunBudget LedgerEntryKind LedgerStatus RunArtifact)

/-! ## Durable state and processes -/

/-- What the sink keeps for the next process: the last entry of every operation key, and the artifacts
in the order in which they came. -/
structure Durable where
  entries : AssocMap String RunLedgerEntry := ∅
  artifacts : List RunArtifact := []

def durableSink : Sink Durable where
  ledger _ entry durable :=
    { durable with entries := durable.entries.set entry.operationKey entry }
  artifact item durable := { durable with artifacts := durable.artifacts ++ [item] }
  evidence _ durable := durable

/-- A run of a worker between two calls. Without a ledger there is no process. -/
structure WorkerRun where
  durable : Durable := {}
  ledger : Option RunExecutionLedger := none
  started : List String := []

/-- The calls of a run, with the fates of their writes, and the start of a process, whose run context
gives the budget. -/
inductive WorkerInput
  | execute (call : LedgerCall) (fates : List Fate)
  | consumeTransition (spec : LedgerCallSpec) (fates : List Fate)
  | rebuild (limits : RunBudget) (consumed : BudgetDelta)

inductive WorkerReply
  | executed (outcome : Outcome Fault LedgerOutcome)
  | consumed (outcome : Outcome Fault Unit)
  | rebuilt (result : Except Fault Unit)
  | absent

namespace WorkerRun

def worker (run : WorkerRun) (ledger : RunExecutionLedger) : Worker Durable :=
  ⟨run.durable, ledger, run.started⟩

def perform {α : Type} (program : Step Durable α) (fates : List Fate)
    (reply : Outcome Fault α → WorkerReply) (run : WorkerRun) : WorkerRun × WorkerReply :=
  match run.ledger with
  | none => (run, .absent)
  | some ledger =>
    let final := program.final (run.worker ledger) fates
    let outcome := program.outcome (run.worker ledger) fates
    let ledger := match outcome with
      | .crashed => none
      | _ => some final.ledger
    (⟨final.durable, ledger, final.started⟩, reply outcome)

/-- Start a process: whatever there was before is gone. -/
def rebuild (limits : RunBudget) (consumed : BudgetDelta) (run : WorkerRun) :
    WorkerRun × WorkerReply :=
  match newLedger run.durable.entries.values run.durable.artifacts limits consumed with
  | .error fault => ({ run with ledger := none }, .rebuilt (.error fault))
  | .ok ledger => ({ run with ledger := some ledger }, .rebuilt (.ok ()))

def apply (py : Python) (runID : String) (input : WorkerInput) (run : WorkerRun) :
    WorkerRun × WorkerReply :=
  match input with
  | .execute call fates => run.perform (execute py durableSink runID call) fates .executed
  | .consumeTransition spec fates => run.perform (consumeTransition durableSink spec) fates .consumed
  | .rebuild limits consumed => run.rebuild limits consumed

end WorkerRun

abbrev WorkerEvent := Transition.Event WorkerRun WorkerInput WorkerReply

/-- Runs of a worker from the first process on whose inputs meet a condition. -/
abbrev WorkerHistory (py : Python) (runID : String) (condition : WorkerInput → Prop) :
    WorkerRun → List WorkerEvent → WorkerRun → Prop :=
  Transition.Run (WorkerRun.apply py runID) fun _ input => condition input

variable {py : Python} {runID key : String} {worker : Worker Durable} {entry : RunLedgerEntry}
  {spec : LedgerCallSpec}

/-! ## Entries -/

def calledStatus : LedgerStatus → Bool
  | .reserved | .other _ => false
  | .callStarted | .succeeded | .failed | .outcomeUnknown => true

def RunLedgerEntry.called (entry : RunLedgerEntry) : Bool := calledStatus entry.status

/-- What `_entry` makes. -/
structure Made (spec : LedgerCallSpec) (status : LedgerStatus) (artifact : Option RunArtifact)
    (entry : RunLedgerEntry) : Prop where
  operationKey : entry.operationKey = spec.operationKey
  identity : sameIdentity entry spec = true
  status : entry.status = status
  artifactKey : entry.outputArtifactKey = (artifact.map (·.artifactKey)).getD ""
  artifactHash : entry.outputArtifactHash = (artifact.map (·.contentHash)).getD ""

variable {artifact : Option RunArtifact} {status : LedgerStatus}

variable {α : Type}

theorem makeEntry_triple {P : Worker Durable → Prop}
    {reservation consumption : BudgetVector} {refs : List String}
    {category : String} {next : RunLedgerEntry → Step Durable α}
    {Q : Outcome Fault α → Worker Durable → Prop}
    (failed : ∀ fault worker, P worker → Q (.raised fault) worker)
    (rest : ∀ entry, Made spec status artifact entry → Triple P (next entry) Q) :
    Triple P (Program.ofExcept (makeEntry spec status reservation consumption artifact refs category)
      >>= next) Q := by
  refine Triple.ofExcept_bind (fun fault _ worker is => failed fault worker is)
    fun entry made => rest entry ?_
  unfold makeEntry at made
  split at made
  · cases made
    exact ⟨rfl, by simp [sameIdentity], rfl, rfl, rfl⟩
  · cases made
  · cases made

/-! ## The journal -/

/-- Callbacks are started once. What has been started is recorded as such in memory, and what is so
recorded in memory is so durably. -/
structure Journal (worker : Worker Durable) : Prop where
  once : ∀ key, worker.started.count key ≤ 1
  called : ∀ key ∈ worker.started, ∃ entry, worker.ledger.entries.get key = some entry ∧
    entry.called = true
  ahead : ∀ key entry, worker.ledger.entries.get key = some entry → entry.called = true →
    ∃ entry', worker.durable.entries.get key = some entry' ∧ entry'.called = true
  keyed : worker.durable.entries.Keyed (·.operationKey)

theorem Made.called (made : Made spec status artifact entry) :
    entry.called = calledStatus status := by
  unfold RunLedgerEntry.called
  rw [made.status]

variable {ledger : RunExecutionLedger}

namespace Journal

theorem emit (journal : Journal worker) (event : LedgerEvent)
    (late : entry.called = true ∨ ∀ found, worker.ledger.entries.get entry.operationKey = some found →
      found.called = false) :
    Journal { worker with durable := durableSink.ledger event entry worker.durable } where
  once := journal.once
  called := journal.called
  keyed := journal.keyed.set rfl
  ahead := by
    intro key found stored called
    by_cases own : key = entry.operationKey
    · subst own
      rcases late with late | before
      · exact ⟨entry, get_set_self .., late⟩
      · rw [before found stored] at called
        cases called
    · obtain ⟨durable, there, is⟩ := journal.ahead key found stored called
      exact ⟨durable, (get_set_ne _ _ own).trans there, is⟩

theorem remember (journal : Journal worker)
    (entries : ledger.entries = worker.ledger.entries.set entry.operationKey entry)
    (durable : entry.called = true → ∃ found, worker.durable.entries.get entry.operationKey =
      some found ∧ found.called = true)
    (kept : entry.operationKey ∈ worker.started → entry.called = true) :
    Journal { worker with ledger := ledger } where
  once := journal.once
  keyed := journal.keyed
  called := by
    intro key mem
    rw [entries]
    by_cases own : key = entry.operationKey
    · subst own
      exact ⟨entry, get_set_self .., kept mem⟩
    · obtain ⟨found, there, is⟩ := journal.called key mem
      exact ⟨found, (get_set_ne _ _ own).trans there, is⟩
  ahead := by
    intro key found stored called
    dsimp only at stored
    rw [entries] at stored
    rcases get_set_eq_some stored with ⟨rfl, rfl⟩ | ⟨-, stored⟩
    · exact durable called
    · exact journal.ahead key found stored called

end Journal

structure Unstarted (key : String) (worker : Worker Durable) : Prop where
  journal : Journal worker
  before : ∀ found, worker.ledger.entries.get key = some found → found.called = false

/-- The start of the call is recorded, and its callback is not started. -/
structure Starting (key : String) (worker : Worker Durable) : Prop where
  journal : Journal worker
  memory : ∃ found, worker.ledger.entries.get key = some found ∧ found.called = true
  first : key ∉ worker.started

theorem Unstarted.not_mem (unstarted : Unstarted key worker) : key ∉ worker.started := by
  intro mem
  obtain ⟨found, stored, called⟩ := unstarted.journal.called key mem
  rw [unstarted.before found stored] at called
  cases called

theorem reserveEntry_unstarted (spec : LedgerCallSpec) :
    Keeps (Unstarted spec.operationKey) (reserveEntry durableSink spec) := by
  refine Keeps.get_bind fun _ _ => Keeps.bind .ofExcept fun budget => Keeps.bind (.modify ?_) fun _ =>
    makeEntry_triple (fun _ _ is => is) fun entry made => ?_
  · exact fun worker is => ⟨{ is.journal with }, is.before⟩
  have uncalled : entry.called = false := made.called
  refine Keeps.bind (.write fun worker is => ⟨?_, is.before⟩) fun _ =>
    .modify fun worker is => ⟨?_, fun found stored => ?_⟩
  · exact is.journal.emit .reserved (.inr (made.operationKey ▸ is.before))
  · refine is.journal.remember rfl (fun called => ?_) fun mem => ?_
    · rw [uncalled] at called
      cases called
    · exact absurd (made.operationKey ▸ mem) is.not_mem
  · rw [← made.operationKey] at stored
    cases (get_set_self ..).symm.trans stored
    exact uncalled

section

variable {reservation consumption : BudgetVector} {refs : List String} {category : String}
  {event : LedgerEvent} {settle : RunLedgerEntry → RunExecutionLedger → RunExecutionLedger}
  (late : calledStatus status = true)
  (entries : ∀ entry ledger,
    (settle entry ledger).entries = ledger.entries.set entry.operationKey entry)

include late entries

theorem record_journal (P : List String → Prop) :
    Triple (fun worker => Journal worker ∧ P worker.started) (do
      let entry ← .ofExcept (makeEntry spec status reservation consumption artifact refs category)
      emit (durableSink.ledger event entry)
      updateLedger (settle entry)) fun outcome worker => (Journal worker ∧ P worker.started) ∧
        (outcome = .returned () → ∃ found, worker.ledger.entries.get spec.operationKey = some found ∧
          found.called = true) := by
  refine makeEntry_triple (fun _ _ is => ⟨is, nofun⟩) fun entry made => ?_
  have called : entry.called = true := made.called.trans late
  have written {worker : Worker Durable} (is : Journal worker ∧ P worker.started) :
      Journal { worker with durable := durableSink.ledger event entry worker.durable } ∧
        P worker.started := ⟨is.1.emit event (.inl called), is.2⟩
  refine Triple.bind (R := fun _ worker => (Journal worker ∧ P worker.started) ∧
    worker.durable.entries.get entry.operationKey = some entry) ?_ fun _ => ?_
  · exact Triple.write (fun _ is => ⟨written is, get_set_self ..⟩)
      (fun _ is => ⟨⟨written is, nofun⟩, written is, nofun⟩) fun _ is => ⟨⟨is, nofun⟩, is, nofun⟩
  · refine Triple.modify fun worker is => ⟨⟨?_, is.1.2⟩, fun _ => ⟨entry, ?_, called⟩⟩
    · exact is.1.1.remember (entries entry _) (fun _ => ⟨entry, is.2, called⟩) fun _ => called
    · dsimp only
      rw [entries, ← made.operationKey]
      exact get_set_self ..

theorem finish_journal : Keeps Journal (do
    let entry ← .ofExcept (makeEntry spec status reservation consumption artifact refs category)
    emit (durableSink.ledger event entry)
    updateLedger (settle entry)) :=
  fun worker fates journal =>
    (record_journal late entries (fun _ => True) worker fates ⟨journal, trivial⟩).1.1

end

theorem startEntry_starting (spec : LedgerCallSpec) :
    Triple (Unstarted spec.operationKey) (startEntry durableSink spec)
      (Triple.Then (fun _ => Starting spec.operationKey) fun _ : Outcome Fault LedgerOutcome =>
        Journal) := by
  refine Triple.of_state fun worker is => ((record_journal rfl (fun _ _ => rfl)
    (spec.operationKey ∉ ·)).at_state ⟨is.journal, is.not_mem⟩).mono fun outcome _ after => ?_
  cases outcome with
  | returned => exact ⟨after.1.1, after.2 rfl, after.1.2⟩
  | raised | crashed => exact after.1.1

theorem emitEvidence_keeps {I : Worker Durable → Prop} (py : Python) (call : LedgerCall)
    (value : PyValue) : Keeps I (emitEvidence py durableSink call value) := by
  refine Keeps.bind .ofExcept fun items => ?_
  split
  · exact .pure
  · exact Keeps.bind (.write fun _ is => is) fun _ => .pure

theorem answer_journal (call : LedgerCall) :
    Triple (Starting call.spec.operationKey) (answer call) fun _ => Journal := by
  refine Triple.bind (R := fun _ => Journal) (Triple.call fun worker is => ?_) fun _ => Keeps.ofExcept
  have started : Journal { worker with started := call.spec.operationKey :: worker.started } := by
    refine ⟨fun other => ?_, fun other mem => ?_, is.journal.ahead, is.journal.keyed⟩
    · rw [List.count_cons]
      by_cases own : call.spec.operationKey = other
      · subst own
        rw [List.count_eq_zero_of_not_mem is.first]
        simp
      · simpa [own] using is.journal.once other
    · rcases List.mem_cons.mp mem with rfl | mem
      · exact is.memory
      · exact is.journal.called other mem
  cases call.invoke <;> exact started

theorem performCall_journal (py : Python) (runID : String) (call : LedgerCall) :
    Triple (Unstarted call.spec.operationKey) (performCall py durableSink runID call)
      fun _ => Journal := by
  refine Triple.bind (startEntry_starting call.spec) fun _ => ?_
  refine Triple.bind (R := fun _ => Journal) ?_ fun value => ?_
  · refine Triple.onRaise (R := fun _ => Journal) ?_ fun _ => ?_
    · exact (answer_journal call).mono fun outcome _ is => by cases outcome <;> exact is
    · exact (finish_journal rfl fun _ _ => rfl).mono fun outcome _ is => by cases outcome <;> exact is
  · exact Keeps.bind .ofExcept fun artifact => Keeps.bind (.write fun _ is => { is with }) fun _ =>
      Keeps.bind (.modify fun _ is => { is with }) fun _ =>
      Keeps.bind (emitEvidence_keeps py call value) fun refs => Keeps.bind .ofExcept fun actual =>
      Keeps.bind (finish_journal rfl fun _ _ => rfl) fun _ => .pure

theorem execute_keeps {call : LedgerCall} {I : Worker Durable → Prop} (is : I worker)
    (finishes : ∀ artifact refs actual,
      Keeps I (finishEntry durableSink call.spec artifact refs actual))
    (performs : (∀ found, worker.ledger.entries.get call.spec.operationKey = some found →
      found.called = false) → Triple (· = worker) (performCall py durableSink runID call) fun _ => I)
    (reserves : worker.ledger.entries.get call.spec.operationKey = none → Triple (· = worker)
      (reserveEntry durableSink call.spec >>= fun _ => performCall py durableSink runID call)
      fun _ => I) :
    Triple (· = worker) (execute py durableSink runID call) fun _ => I := by
  have here {m : Step Durable LedgerOutcome} (keeps : Keeps I m) :
      Triple (· = worker) m fun _ => I := keeps.at_state is
  refine Triple.ofExcept_bind (fun _ _ _ same => same ▸ is) fun _ _ => Triple.get_bind_at ?_
  split
  · next entry stored =>
    refine Triple.ofExcept_bind (fun _ _ _ same => same ▸ is) fun _ _ => ?_
    have uncalled (status : entry.called = false) := performs fun found there => by
      cases stored.symm.trans there
      exact status
    unfold resume
    unfold RunLedgerEntry.called at uncalled
    split
    · exact here (Keeps.get_bind fun _ _ => Keeps.bind .ofExcept fun _ => Keeps.bind .ofExcept fun _ =>
        .pure)
    · exact here .raise
    · exact here .raise
    · split
      · exact here .raise
      · exact here (Keeps.get_bind fun _ _ => Keeps.bind .ofExcept fun artifact =>
          Keeps.bind .ofExcept fun value => Keeps.bind (emitEvidence_keeps py call value) fun refs =>
          Keeps.bind (finishes artifact refs _) fun _ => .pure)
    all_goals next status => exact uncalled (by rw [status]; rfl)
  · next unknown => exact reserves unknown

theorem execute_journal (py : Python) (runID : String) (call : LedgerCall) :
    Keeps Journal (execute py durableSink runID call) := by
  refine Triple.of_state fun worker journal => execute_keeps journal
    (fun _ _ _ => finish_journal rfl fun _ _ => rfl)
    (fun uncalled => (performCall_journal py runID call).at_state ⟨journal, uncalled⟩) fun unknown => ?_
  refine (Triple.bind_of_stopped (Triple.then_self (reserveEntry_unstarted call.spec))
    (fun _ _ _ is => is.journal) fun _ => performCall_journal py runID call).at_state
    ⟨journal, fun found there => ?_⟩
  cases unknown.symm.trans there

theorem consumeTransition_journal (spec : LedgerCallSpec) :
    Keeps Journal (consumeTransition durableSink spec) := by
  refine Keeps.bind .ofExcept fun _ => Keeps.get_bind fun worker _ => ?_
  split
  · refine Keeps.bind .ofExcept fun _ => ?_
    split
    · exact .pure
    · exact .raise
  · exact Keeps.bind .ofExcept fun budget => Keeps.bind (.modify fun _ journal => { journal with })
      fun _ => finish_journal rfl fun _ _ => rfl

/-! ## Building the ledger again -/

theorem indexItems_get {key : α → String} {agree : α → α → Bool} {conflict : String}
    {items : List α} {index index' : AssocMap String α}
    (ok : indexItems key agree conflict items index = .ok index') (k : String) :
    index'.get k = (index.get k).or (items.find? fun item => key item == k) := by
  induction items generalizing index with
  | nil =>
    cases ok
    simp
  | cons item rest ih =>
    unfold indexItems at ok
    rw [List.find?_cons]
    split at ok
    · next unused =>
      rw [ih ok, get_set]
      by_cases own : k = key item
      · subst own
        simp [unused]
      · rw [if_neg own, beq_eq_false_iff_ne.mpr (Ne.symm own)]
    · next previous stored =>
      split at ok
      · rw [ih ok]
        by_cases own : k = key item
        · subst own
          simp [stored]
        · rw [beq_eq_false_iff_ne.mpr (Ne.symm own)]
      · cases ok

variable {consumed : BudgetDelta} {limits : RunBudget}

theorem newLedger_entries {entries : AssocMap String RunLedgerEntry} {artifacts : List RunArtifact}
    (keyed : entries.Keyed (·.operationKey))
    (built : newLedger entries.values artifacts limits consumed = .ok ledger) (key : String) :
    ledger.entries.get key = entries.get key := by
  unfold newLedger at built
  split at built
  · next index _ indexed _ =>
    cases built
    exact (indexItems_get indexed key).trans (by simp [keyed.find?_values])
  · cases built
  · cases built

theorem newLedger_artifacts {entries : List RunLedgerEntry} {artifacts : List RunArtifact}
    (built : newLedger entries artifacts limits consumed = .ok ledger) (slot : String) :
    ledger.artifacts.get slot = artifacts.find? (·.artifactKey == slot) := by
  unfold newLedger at built
  split at built
  · next index artifactIndex _ indexed =>
    cases built
    exact (indexItems_get indexed slot).trans (by simp)
  · cases built
  · cases built

structure RunJournal (run : WorkerRun) : Prop where
  once : ∀ key, run.started.count key ≤ 1
  called : ∀ key ∈ run.started, ∃ entry, run.durable.entries.get key = some entry ∧
    entry.called = true
  keyed : run.durable.entries.Keyed (·.operationKey)
  live : ∀ ledger, run.ledger = some ledger → Journal (run.worker ledger)

theorem Journal.run (journal : Journal worker) {ledger : Option RunExecutionLedger}
    (live : ∀ found, ledger = some found → found = worker.ledger) :
    RunJournal ⟨worker.durable, ledger, worker.started⟩ := by
  obtain ⟨durable, memory, started⟩ := worker
  refine ⟨journal.once, fun key mem => ?_, journal.keyed, fun found is => ?_⟩
  · obtain ⟨entry, stored, called⟩ := journal.called key mem
    exact journal.ahead key entry stored called
  · cases live found is
    exact journal

variable {run : WorkerRun}

theorem RunJournal.perform {program : Step Durable α}
    {fates : List Fate} {reply : Outcome Fault α → WorkerReply} (journal : RunJournal run)
    (keeps : Keeps Journal program) : RunJournal (run.perform program fates reply).1 := by
  unfold WorkerRun.perform
  cases live : run.ledger with
  | none => exact journal
  | some ledger =>
    have kept := keeps (run.worker ledger) fates (journal.live ledger live)
    dsimp only
    generalize program.final (run.worker ledger) fates = final at kept ⊢
    cases program.outcome (run.worker ledger) fates with
    | crashed => exact kept.run fun _ is => nomatch is
    | returned value | raised fault => exact kept.run fun _ is => (Option.some.inj is).symm

theorem WorkerRun.apply_journal (input : WorkerInput) (journal : RunJournal run) :
    RunJournal (WorkerRun.apply py runID input run).1 := by
  unfold WorkerRun.apply
  split
  · next call fates => exact RunJournal.perform journal (execute_journal py runID call)
  · next spec fates => exact RunJournal.perform journal (consumeTransition_journal spec)
  · next limits consumed =>
    unfold WorkerRun.rebuild
    cases built : newLedger run.durable.entries.values run.durable.artifacts limits consumed with
    | error fault => exact ⟨journal.once, journal.called, journal.keyed, fun _ is => nomatch is⟩
    | ok ledger =>
      refine ⟨journal.once, journal.called, journal.keyed, fun found is => ?_⟩
      cases Option.some.inj is
      have entries := newLedger_entries journal.keyed built
      refine ⟨journal.once, fun key mem => ?_, fun key entry stored called => ?_, journal.keyed⟩
      · obtain ⟨entry, durable, called⟩ := journal.called key mem
        exact ⟨entry, (entries key).trans durable, called⟩
      · exact ⟨entry, (entries key).symm.trans stored, called⟩

theorem RunJournal.initial : RunJournal {} where
  once := fun _ => Nat.zero_le _
  called := fun _ mem => absurd mem List.not_mem_nil
  keyed := .empty _
  live := fun _ is => nomatch is

theorem WorkerHistory.journal {condition : WorkerInput → Prop} {events : List WorkerEvent}
    (history : WorkerHistory py runID condition {} events run) : RunJournal run :=
  history.invariant (I := RunJournal) (fun _ input _ before => WorkerRun.apply_journal input before)
    RunJournal.initial

end PrdAgent.Agent
