import PrdAgent.Agent.LedgerReplay

/-!
# Remote calls happen at most once

Everything an execution does concerns its own operation key (`performCall_frame`), so what the calls of a key
keep of its view is kept by every run in which no two operation keys share a slot (`Throughout.history`).
There are two phases that a run does not leave: a call that succeeded (`Settled.persists`) and one whose
outcome is lost (`Lost.persists`).
-/

namespace PrdAgent.Agent

open Faulty AssocMap Transition
open Runcontrol (BudgetDelta RunBudget LedgerEntryKind LedgerStatus RunArtifact)

variable {py : Python} {runID key : String} {call : LedgerCall} {spec : LedgerCallSpec} {view : View}
  {entry : RunLedgerEntry} {artifact : RunArtifact} {worker : Worker Durable}

/-! ## Other operation keys -/

theorem record_frame {status : LedgerStatus} {reservation consumption : BudgetVector}
    {output : Option RunArtifact} {refs : List String} {category : String} {event : LedgerEvent}
    {settle : RunLedgerEntry → RunExecutionLedger → RunExecutionLedger}
    (other : spec.operationKey ≠ key) (is : ∀ entry ledger, ∃ budget, settle entry ledger =
      { ledger with budget := budget }.setEntry entry) :
    Keeps (Sees py runID key view) (do
      let entry ← .ofExcept (makeEntry spec status reservation consumption output refs category)
      emit (durableSink.ledger event entry)
      updateLedger (settle entry)) := by
  refine makeEntry_triple (fun _ _ sees => sees) fun entry made => ?_
  have away : key ≠ entry.operationKey := made.operationKey ▸ other.symm
  refine Keeps.bind (.write fun worker sees => ?_) fun _ => .modify fun worker sees => ?_
  · unfold Sees
    rwa [view_emit, if_neg away]
  · obtain ⟨budget, same⟩ := is entry worker.ledger
    unfold Sees
    rwa [same, view_setEntry, if_neg away]

theorem reserveEntry_frame (other : spec.operationKey ≠ key) :
    Keeps (Sees py runID key view) (reserveEntry durableSink spec) :=
  Keeps.get_bind fun _ _ => Keeps.bind .ofExcept fun _ => Keeps.bind (.modify fun _ sees => sees)
    fun _ => record_frame other fun _ ledger => ⟨ledger.budget, rfl⟩

theorem finishEntry_frame {refs : List String} {actual : BudgetVector}
    (other : spec.operationKey ≠ key) :
    Keeps (Sees py runID key view) (finishEntry durableSink spec artifact refs actual) :=
  record_frame other fun _ _ => ⟨_, rfl⟩

theorem performCall_frame (other : call.spec.operationKey ≠ key)
    (apart : py.outcomeArtifactKey runID call.spec.operationKey ≠ py.outcomeArtifactKey runID key) :
    Keeps (Sees py runID key view) (performCall py durableSink runID call) := by
  refine Keeps.bind (record_frame other fun _ ledger => ⟨ledger.budget, rfl⟩) fun _ =>
    Keeps.bind (Keeps.onRaise (Keeps.bind (.call fun _ sees => sees) fun _ => .ofExcept)
      (record_frame other fun _ _ => ⟨_, rfl⟩)) fun value =>
    Triple.ofExcept_bind (fun _ _ _ sees => sees) fun artifact built => ?_
  have away : py.outcomeArtifactKey runID key ≠ artifact.artifactKey :=
    (buildArtifact_ok built).1 ▸ apart.symm
  exact Keeps.bind (.write fun _ sees => (view_emit_artifact.trans (if_neg away)).trans sees) fun _ =>
    Keeps.bind (.modify fun _ sees => (view_setArtifact.trans (if_neg away)).trans sees) fun _ =>
    Keeps.bind (emitEvidence_keeps py call value) fun _ => Keeps.bind .ofExcept fun _ =>
    Keeps.bind (finishEntry_frame other) fun _ => .pure

theorem consumeTransition_frame (other : spec.operationKey ≠ key) :
    Keeps (Sees py runID key view) (consumeTransition durableSink spec) := by
  refine Keeps.bind .ofExcept fun _ => Keeps.get_bind fun worker _ => ?_
  split
  · refine Keeps.bind .ofExcept fun _ => ?_
    split
    · exact .pure
    · exact .raise
  · exact Keeps.bind .ofExcept fun _ => Keeps.bind (.modify fun _ sees => sees) fun _ =>
      record_frame other fun _ ledger => ⟨ledger.budget, rfl⟩

/-! ## Local transitions -/

theorem consumeTransition_found
    (stored : worker.ledger.entries.get spec.operationKey = some entry) :
    Triple (· = worker) (consumeTransition durableSink spec) fun _ worker' => worker' = worker := by
  refine Triple.ofExcept_bind (fun _ _ _ same => same) fun _ _ => ?_
  refine Triple.get_bind_at ?_
  rw [stored]
  refine Triple.ofExcept_bind (fun _ _ _ same => same) fun _ _ => ?_
  split
  · exact Triple.pure fun _ same => same
  · exact Triple.raise fun _ same => same

theorem Made.consumed (made : Made spec .succeeded none entry)
    (kind : spec.entryKind = .localTransition) : entry.Consumed := by
  have identity := made.identity
  unfold sameIdentity at identity
  simp only [Bool.and_eq_true, beq_iff_eq] at identity
  exact ⟨made.status, identity.1.2.trans kind, made.artifactKey⟩

theorem validateSpec_kind {kind : LedgerEntryKind} (valid : validateSpec spec kind = .ok ()) :
    spec.entryKind = kind := by
  unfold validateSpec at valid
  split at valid
  · cases valid
  · split at valid
    · cases valid
    · next is => exact not_not.mp (not_or.mp is).1

theorem InPhase.waiting (phase : InPhase py runID key worker)
    (absent : worker.ledger.entries.get key = none) :
    ∃ durable, Sees py runID key ⟨none, durable, none, []⟩ worker ∧
      ∀ entry, durable = some entry → entry.status = .reserved ∨ entry.Open ∨ entry.Consumed := by
  obtain ⟨view, sees⟩ : ∃ view, Sees py runID key view worker := ⟨_, rfl⟩
  have memory : view.memory = none := (congrArg View.memory sees).symm.trans absent
  unfold InPhase at phase
  rw [sees] at phase
  cases phase with
  | waiting uncalled written =>
    cases memory
    exact ⟨_, sees, written⟩
  | unknown | answered | failed | succeeded | consumed => cases memory

theorem consumeTransition_phase : Triple (InPhase py runID spec.operationKey)
    (consumeTransition durableSink spec) fun _ => InPhase py runID spec.operationKey := by
  refine Triple.of_state fun worker phase => ?_
  cases stored : worker.ledger.entries.get spec.operationKey with
  | some entry =>
    exact (consumeTransition_found stored).mono fun _ _ same => same ▸ phase
  | none =>
  obtain ⟨durable, sees, written⟩ := phase.waiting stored
  refine Triple.ofExcept_bind (fun _ _ _ same => same ▸ phase) fun _ valid => ?_
  have kind := validateSpec_kind valid
  refine Triple.get_bind fun worker same => ?_
  subst same
  rw [stored]
  have before {worker : Worker Durable}
      (sees : Sees py runID spec.operationKey ⟨none, durable, none, []⟩ worker) :
      InPhase py runID spec.operationKey worker :=
    sees.inPhase (.waiting (fun _ is => nomatch is) written)
  refine Triple.at_state ?_ sees
  refine Triple.ofExcept_bind (fun _ _ _ sees => before sees) fun budget _ => ?_
  refine Triple.bind (R := fun _ => Sees py runID spec.operationKey ⟨none, durable, none, []⟩)
    (Triple.modify fun _ sees => sees) fun _ => ?_
  refine Triple.of_then (β := Unit) (record_sees (fun _ ledger => ⟨ledger.budget, rfl⟩)
    (fun _ => before) (fun _ _ made sees => ?_) fun _ _ made sees =>
      sees.inPhase (.consumed (made.consumed kind) (made.consumed kind)))
  exact sees.inPhase (.waiting (fun _ is => nomatch is) fun _ is =>
    .inr (.inr (Option.some.inj is ▸ made.consumed kind)))

/-! ## All operation keys of a run -/

def WorkerInput.within (keys : Set String) : WorkerInput → Prop
  | .execute call _ => call.spec.operationKey ∈ keys
  | .consumeTransition spec _ => spec.operationKey ∈ keys
  | .rebuild _ _ => True

/-- What a process finds of the key that builds its ledger now. -/
def WorkerRun.finds (py : Python) (runID : String) (run : WorkerRun) (key : String) : View where
  memory := run.durable.entries.get key
  durable := run.durable.entries.get key
  recalled := (run.durable.artifacts.filter
    (·.artifactKey == py.outcomeArtifactKey runID key)).head?
  stored := run.durable.artifacts.filter (·.artifactKey == py.outcomeArtifactKey runID key)

section

variable {P : View → Prop} {run : WorkerRun} {keys : Set String}

/-- The view of the key meets a condition: that of the process that is there, and that of the next. -/
structure Throughout (py : Python) (runID key : String) (P : View → Prop) (run : WorkerRun) : Prop where
  next : P (run.finds py runID key)
  live : ∀ ledger, run.ledger = some ledger → P ((run.worker ledger).view py runID key)

theorem Throughout.perform {α : Type} {program : Step Durable α} {fates : List Fate}
    {reply : Outcome Fault α → WorkerReply} (rebuilt : ∀ view, P view → P view.rebuilt)
    (keeps : Keeps (fun worker => P (worker.view py runID key)) program)
    (before : Throughout py runID key P run) :
    Throughout py runID key P (run.perform program fates reply).1 := by
  unfold WorkerRun.perform
  cases live : run.ledger with
  | none => exact before
  | some ledger =>
    have kept := keeps (run.worker ledger) fates (before.live ledger live)
    dsimp only
    generalize program.final (run.worker ledger) fates = final at kept ⊢
    cases program.outcome (run.worker ledger) fates with
    | crashed => exact ⟨rebuilt _ kept, fun _ is => nomatch is⟩
    | returned value | raised fault => exact ⟨rebuilt _ kept, fun _ is => Option.some.inj is ▸ kept⟩

theorem Throughout.rebuild (journal : RunJournal run) (before : Throughout py runID key P run)
    (limits : RunBudget) (consumed : BudgetDelta) :
    Throughout py runID key P (run.rebuild limits consumed).1 := by
  unfold WorkerRun.rebuild
  cases built : newLedger run.durable.entries.values run.durable.artifacts limits consumed with
  | error fault => exact ⟨before.next, fun _ is => nomatch is⟩
  | ok ledger =>
    refine ⟨before.next, fun found is => ?_⟩
    cases Option.some.inj is
    -- a process that builds its ledger sees what is to be found
    have view : (run.worker ledger).view py runID key = run.finds py runID key := by
      unfold Worker.view WorkerRun.finds WorkerRun.worker
      dsimp only
      rw [newLedger_entries journal.keyed built, newLedger_artifacts built, List.head?_filter]
    exact view.symm ▸ before.next

/-- What holds of the view of a key is kept by the calls for that key, and by building the ledger. -/
structure Persists (py : Python) (runID key : String) (P : View → Prop) : Prop where
  executes : ∀ call, call.spec.operationKey = key →
    Keeps (fun worker => P (worker.view py runID key)) (execute py durableSink runID call)
  consumes : ∀ spec, spec.operationKey = key →
    Keeps (fun worker => P (worker.view py runID key)) (consumeTransition durableSink spec)
  rebuilt : ∀ view, P view → P view.rebuilt

variable {events : List WorkerEvent} {later : WorkerRun} {origin : RunLedgerEntry}

section

variable (apart : Set.InjOn (py.outcomeArtifactKey runID) keys) (mem : key ∈ keys)

include apart mem

theorem Throughout.apply (persists : Persists py runID key P) {input : WorkerInput}
    (within : input.within keys) (journal : RunJournal run) (before : Throughout py runID key P run) :
    Throughout py runID key P (WorkerRun.apply py runID input run).1 := by
  -- a call that leaves the view as it is keeps what holds of it
  have framed {α : Type} {program : Step Durable α}
      (frame : ∀ view, Keeps (Sees py runID key view) program) :
      Keeps (fun worker => P (worker.view py runID key)) program := by
    refine Triple.of_state fun worker is => ?_
    exact (Triple.mono (frame (worker.view py runID key)) fun _ after sees =>
      (congrArg P sees).mpr is).at_state rfl
  cases input with
  | execute call fates =>
    refine Throughout.perform persists.rebuilt ?_ before
    by_cases own : call.spec.operationKey = key
    · exact persists.executes call own
    · refine framed fun view => Triple.of_state fun worker sees => ?_
      have apart := fun same => own (apart within mem same)
      refine execute_keeps sees (fun _ _ _ => finishEntry_frame own)
        (fun _ => (performCall_frame own apart).at_state sees) fun _ => ?_
      exact Triple.at_state
        (Keeps.bind (reserveEntry_frame own) fun _ => performCall_frame own apart) sees
  | consumeTransition spec fates =>
    refine Throughout.perform persists.rebuilt ?_ before
    by_cases own : spec.operationKey = key
    · exact persists.consumes spec own
    · exact framed fun _ => consumeTransition_frame own
  | rebuild limits consumed => exact before.rebuild journal limits consumed

theorem Throughout.history (persists : Persists py runID key P)
    (history : WorkerHistory py runID (·.within keys) run events later)
    (journal : RunJournal run) (before : Throughout py runID key P run) :
    Throughout py runID key P later :=
  (history.invariant (I := fun run => RunJournal run ∧ Throughout py runID key P run)
    (fun _ input within is => ⟨WorkerRun.apply_journal input is.1,
      is.2.apply apart mem persists within is.1⟩) ⟨journal, before⟩).2

theorem WorkerHistory.phase (history : WorkerHistory py runID (·.within keys) {} events run) :
    Throughout py runID key (Phase (py.outcomeArtifactKey runID key)) run := by
  refine Throughout.history apart mem ⟨fun call own => ?_, fun spec own => ?_,
    fun _ phase => phase.rebuilt⟩ history RunJournal.initial ⟨?_, fun _ is => nomatch is⟩
  · subst own
    exact execute_phase.mono fun _ _ is => is.phase
  · subst own
    exact consumeTransition_phase
  · exact .waiting (fun _ is => nomatch is) fun _ is => nomatch is

end

theorem consumeTransition_keeps (there : ∀ view, P view → view.memory.isSome)
    (own : spec.operationKey = key) :
    Keeps (fun worker => P (worker.view py runID key)) (consumeTransition durableSink spec) := by
  subst own
  refine Triple.of_state fun worker is => ?_
  obtain ⟨entry, stored⟩ := Option.isSome_iff_exists.mp (there _ is)
  exact (consumeTransition_found stored).mono fun _ _ same => same ▸ is

theorem Settled.rebuilt (settled : Settled py runID key artifact origin view) :
    Settled py runID key artifact origin view.rebuilt := by
  obtain ⟨memory, durable, rfl, phase, backed, same⟩ := settled
  exact ⟨durable, durable, rfl, phase.rebuilt, backed, same⟩

/-- A call that has durably succeeded stays so, with its artifact. -/
theorem Settled.persists : Persists py runID key (Settled py runID key artifact origin) := by
  refine ⟨fun call own => ?_, fun spec => consumeTransition_keeps ?_, fun _ is => is.rebuilt⟩
  · subst own
    exact execute_settled.mono fun _ _ is => is.1
  · rintro _ ⟨memory, durable, rfl, -⟩
    rfl

/-! ## Entries that settle a call -/

/-- The entry is recorded for the key, durably or by the process that is there. -/
def WorkerRun.Records (run : WorkerRun) (key : String) (entry : RunLedgerEntry) : Prop :=
  run.durable.entries.get key = some entry ∨
    ∃ ledger, run.ledger = some ledger ∧ ledger.entries.get key = some entry

variable {slot : String}

theorem Phase.durable_of_memory (phase : Phase slot view)
    (recorded : view.memory = some entry) (ended : entry.status = .succeeded)
    (remote : entry.entryKind ≠ .localTransition) :
    ∃ durable, view.durable = some durable ∧ durable.status = .succeeded ∧
      durable.entryKind ≠ .localTransition ∧ SameCall entry durable := by
  cases phase with
  | waiting uncalled written =>
    have uncalled := uncalled entry recorded
    unfold RunLedgerEntry.called at uncalled
    rw [ended] at uncalled
    cases uncalled
  | unknown started | answered started =>
    cases recorded
    cases started.1.symm.trans ended
  | failed failed =>
    cases recorded
    cases failed.symm.trans ended
  | succeeded _ same _ written =>
    cases recorded
    exact ⟨_, rfl, written.status, same.2.1 ▸ remote, same⟩
  | consumed consumed =>
    cases recorded
    exact absurd consumed.kind remote

theorem Phase.settled (phase : Phase (py.outcomeArtifactKey runID key) view)
    (recorded : view.durable = some entry) (ended : entry.status = .succeeded)
    (remote : entry.entryKind ≠ .localTransition) (same : SameCall origin entry) :
    ∃ artifact, view.stored = [artifact] ∧ Settled py runID key artifact origin view := by
  have whole := phase
  cases phase with
  | waiting _ written =>
    rcases written entry recorded with reserved | started | consumed
    · cases reserved.symm.trans ended
    · cases started.1.symm.trans ended
    · exact absurd consumed.kind remote
  | unknown _ _ written =>
    cases recorded
    rcases written with ⟨failed, -⟩ | ⟨started, -⟩
    · cases failed.symm.trans ended
    · cases started.1.symm.trans ended
  | answered _ _ _ _ written =>
    cases recorded
    rcases written with started | backed
    · cases started.1.symm.trans ended
    · exact ⟨_, rfl, _, _, rfl, whole, backed, same⟩
  | failed _ written =>
    cases recorded
    cases written.symm.trans ended
  | succeeded _ _ _ written =>
    cases recorded
    exact ⟨_, rfl, _, _, rfl, whole, written, same⟩
  | consumed _ written =>
    cases recorded
    exact absurd written.kind remote

/-- An entry that is `SUCCEEDED` and not of a transition settles its operation key. -/
theorem settled_of_records (phase : Throughout py runID key (Phase (py.outcomeArtifactKey runID key)) run)
    (recorded : run.Records key entry) (ended : entry.status = .succeeded)
    (remote : entry.entryKind ≠ .localTransition) :
    ∃ artifact, Throughout py runID key (Settled py runID key artifact entry) run := by
  obtain ⟨durable, there, is, away, same⟩ : ∃ durable, run.durable.entries.get key = some durable ∧
      durable.status = .succeeded ∧ durable.entryKind ≠ .localTransition ∧ SameCall entry durable := by
    rcases recorded with there | ⟨ledger, live, there⟩
    · exact ⟨entry, there, ended, remote, rfl, rfl, rfl⟩
    · exact (phase.live ledger live).durable_of_memory there ended remote
  obtain ⟨artifact, stored, settled⟩ := phase.next.settled there is away same
  refine ⟨artifact, settled, fun ledger live => ?_⟩
  obtain ⟨artifact', stored', settled'⟩ := (phase.live ledger live).settled there is away same
  exact List.singleton_inj.mp (stored'.symm.trans stored) ▸ settled'

theorem settled_of_returned (phase : Throughout py runID call.spec.operationKey
      (Phase (py.outcomeArtifactKey runID call.spec.operationKey)) run)
    {fates : List Fate} {value : LedgerOutcome}
    (reply : (run.apply py runID (.execute call fates)).2 = .executed (.returned value)) :
    (∃ origin, Throughout py runID call.spec.operationKey
      (Settled py runID call.spec.operationKey value.artifact origin)
      (run.apply py runID (.execute call fates)).1) ∧ (value.replayed = false →
      encodeOutcome call.spec.outcomeSchema value.value = some value.artifact.content) := by
  unfold WorkerRun.apply WorkerRun.perform at reply ⊢
  dsimp only at reply ⊢
  cases live : run.ledger with
  | none =>
    rw [live] at reply
    cases reply
  | some ledger =>
    rw [live] at reply
    have performed := execute_phase (run.worker ledger) fates (phase.live ledger live)
    dsimp only at reply ⊢
    generalize (execute py durableSink runID call).final (run.worker ledger) fates = final at performed ⊢
    generalize (execute py durableSink runID call).outcome (run.worker ledger) fates = outcome
      at performed reply ⊢
    cases reply
    obtain ⟨⟨memory, durable, sees, ended, same, named, written⟩, encoded⟩ :=
      performed.returned value rfl
    have settled : Settled py runID call.spec.operationKey value.artifact durable
        (final.view py runID call.spec.operationKey) :=
      ⟨memory, durable, sees, sees ▸ .succeeded ended same named written, written, rfl, rfl, rfl⟩
    exact ⟨⟨durable, settled.rebuilt, fun _ is => Option.some.inj is ▸ settled⟩, encoded⟩

/-! ## What a process does with a settled call -/

/-- Every call of the key is answered from the artifact, without its callback being started. Once its end
is recorded by the process, a call of the same input returns. -/
structure AnsweredFrom (py : Python) (runID key : String) (artifact : RunArtifact)
    (entry : RunLedgerEntry) (worker : Worker Durable) : Prop where
  quiet : ∀ call fates, call.spec.operationKey = key →
    ((execute py durableSink runID call).final worker fates).started = worker.started
  value : ∀ call fates result, call.spec.operationKey = key →
    (execute py durableSink runID call).outcome worker fates = .returned result →
    decodeOutcome py artifact.content call.spec.outcomeSchema call.validate = .ok result.value
  returns : ∀ call fates value found, call.spec.operationKey = key →
    validateSpec call.spec call.kind = .ok () → sameIdentity entry call.spec = true →
    worker.ledger.entries.get key = some found → found.status = .succeeded →
    decodeOutcome py artifact.content call.spec.outcomeSchema call.validate = .ok value →
    ∃ result, (execute py durableSink runID call).outcome worker fates = .returned result ∧
      result.value = value

theorem sameIdentity_congr {left right : RunLedgerEntry} (same : SameCall left right) :
    sameIdentity left spec = sameIdentity right spec := by
  obtain ⟨request, kind, operation⟩ := same
  unfold sameIdentity
  rw [request, kind, operation]

theorem Settled.answered
    (settled : Settled py runID key artifact entry (worker.view py runID key)) :
    AnsweredFrom py runID key artifact entry worker := by
  obtain ⟨memory, durable, sees, phase, backed, same⟩ := id settled
  have stored : worker.ledger.entries.get key = some memory := congrArg View.memory sees
  refine ⟨fun call fates own => ?_, fun call fates result own returned => ?_,
    fun call fates value found own valid identity there ended decoded => ?_⟩
  · subst own
    have called : memory.called = true := by
      rw [sees] at phase
      unfold RunLedgerEntry.called
      cases phase with
      | answered started =>
        rw [started.1]
        rfl
      | succeeded ended =>
        rw [ended.status]
        rfl
    exact execute_quiet stored called worker fates rfl
  · subst own
    exact ((execute_settled worker fates settled).2 result returned).2.2
  · subst own
    cases stored.symm.trans there
    rw [sees] at phase
    cases phase with
    | answered started => cases started.1.symm.trans ended
    | succeeded finished alike named _ =>
      have same : SameCall entry memory := same.trans alike.symm
      have identity : sameIdentity memory call.spec = true := sameIdentity_congr same ▸ identity
      have recalled : worker.ledger.artifacts.get _ = _ := congrArg View.recalled sees
      have found : worker.ledger.artifactFor py runID memory call.spec = .ok artifact := by
        have request : artifact.requestHash = call.spec.requestHash :=
          finished.request.symm.trans (sameIdentity_request identity)
        unfold RunExecutionLedger.artifactFor
        rw [artifactKeyOf_slot (.inr (finished.key.trans named)), recalled]
        dsimp only
        rw [if_neg (not_not.mpr request), if_neg fun is => is.2 finished.hash.symm]
      refine (?_ : Triple (· = worker) (execute py durableSink runID call) fun outcome _ =>
        ∃ result, outcome = .returned result ∧ result.value = value) worker fates rfl
      refine Triple.ofExcept_bind (fun _ is => nomatch valid.symm.trans is) fun _ _ => ?_
      refine Triple.get_bind_at ?_
      rw [stored]
      refine Triple.ofExcept_bind (fun _ is => ?_) fun _ _ => resume_succeeded finished.status ?_
      · unfold assertIdentity at is
        rw [if_pos identity] at is
        cases is
      refine Triple.get_bind_at ?_
      refine Triple.ofExcept_bind (fun _ is => nomatch found.symm.trans is) fun artifact' is => ?_
      cases found.symm.trans is
      refine Triple.ofExcept_bind (fun _ is => nomatch decoded.symm.trans is) fun value' is => ?_
      cases decoded.symm.trans is
      exact Triple.pure fun _ _ => ⟨_, rfl, rfl⟩

theorem decodeOutcome_encoded {schema : String} {value : PyValue} {content : ByteArray}
    {validate : PyValue → Except Fault PyValue} (encoded : encodeOutcome schema value = some content)
    (reads : py.loads content = some (.dict [("schema", .str schema), ("value", value)]))
    (valid : validate value = .ok value) :
    decodeOutcome py content schema validate = .ok value := by
  unfold decodeOutcome encodeOutcome at *
  rw [reads]
  have schemaIs : [("schema", PyValue.str schema), ("value", value)].lookup "schema" =
      some (.str schema) := rfl
  have valueIs : [("schema", PyValue.str schema), ("value", value)].lookup "value" = some value := rfl
  dsimp only
  rw [schemaIs, valueIs]
  dsimp only
  rw [if_neg (not_not.mpr rfl), encoded]
  dsimp only
  rw [if_neg (not_not.mpr rfl)]
  exact valid

/-! ## Calls whose outcome is lost -/

/-- The start of the call is recorded, durably and in memory, and no outcome. -/
def Lost (view : View) : Prop :=
  ∃ memory durable, view = ⟨some memory, some durable, none, []⟩ ∧ memory.Open ∧ durable.Open

theorem Phase.lost (phase : Phase slot view) (stored : view.stored = [])
    {durable : RunLedgerEntry} (recorded : view.memory = some entry)
    (started : entry.status = .callStarted) (written : view.durable = some durable)
    (writtenStarted : durable.status = .callStarted) : Lost view := by
  cases phase with
  | waiting uncalled _ =>
    have uncalled := uncalled entry recorded
    unfold RunLedgerEntry.called at uncalled
    rw [started] at uncalled
    cases uncalled
  | unknown opened _ is =>
    cases recorded
    cases written
    cases stored
    rcases is with ⟨failed, -⟩ | ⟨durableOpen, -⟩
    · cases failed.symm.trans writtenStarted
    · exact ⟨_, _, rfl, opened, durableOpen⟩
  | answered | succeeded => cases stored
  | failed failed =>
    cases recorded
    cases failed.symm.trans started
  | consumed consumed =>
    cases recorded
    cases consumed.status.symm.trans started

/-- Every call of the key raises and leaves everything as it is. -/
def Refuses (py : Python) (runID key : String) (worker : Worker Durable) : Prop :=
  ∀ call fates, call.spec.operationKey = key →
    (∃ fault, (execute py durableSink runID call).outcome worker fates = .raised fault) ∧
      (execute py durableSink runID call).final worker fates = worker

theorem Lost.refuses (lost : Lost (worker.view py runID key)) : Refuses py runID key worker := by
  obtain ⟨memory, durable, sees, started, -⟩ := lost
  rintro call fates rfl
  have unknown : Triple (· = worker) (execute py durableSink runID call)
      fun outcome worker' => (∃ fault, outcome = .raised fault) ∧ worker' = worker := by
    refine execute_found (congrArg View.memory sees) (fun fault => ⟨⟨fault, rfl⟩, rfl⟩) fun _ => ?_
    unfold resume
    rw [started.1]
    dsimp only
    have lost : worker.ledger.artifacts.get _ = none := congrArg View.recalled sees
    rw [artifactKeyOf_slot (.inl started.2), lost]
    exact Triple.raise fun _ same => ⟨⟨_, rfl⟩, same⟩
  exact unknown worker fates rfl

theorem Lost.persists : Persists py runID key Lost := by
  refine ⟨fun call own worker fates is => (is.refuses call fates own).2.symm ▸ is,
    fun spec => consumeTransition_keeps ?_, fun _ => ?_⟩
  · rintro _ ⟨memory, durable, rfl, -⟩
    rfl
  · rintro ⟨memory, durable, rfl, -, started⟩
    exact ⟨durable, durable, rfl, started, started⟩

/-! ## The result -/

/-- In every run of a worker over all its processes, with calls that raise, writes that raise and crashes
anywhere, a callback is started at most once under an operation key.

For operation keys whose slots differ: after a call has succeeded every later call of its key is answered
from its artifact, which holds the value of the first call. If the start of a call is durable without an
artifact, and the process that is there, if any, has recorded the start, every later call of the key
raises. -/
theorem remote_call_at_most_once {events : List WorkerEvent}
    (history : WorkerHistory py runID (fun _ => True) {} events run) :
    (∀ key, run.started.count key ≤ 1) ∧
    ∀ keys, Set.InjOn (py.outcomeArtifactKey runID) keys →
      (∀ event ∈ events, event.input.within keys) → ∀ key ∈ keys,
      (∀ entry, run.Records key entry → entry.status = .succeeded →
        entry.entryKind ≠ .localTransition → ∃ artifact,
        (∀ event ∈ events, ∀ call fates first, event.input = .execute call fates →
          call.spec.operationKey = key → event.reply = .executed (.returned first) →
          first.replayed = false → ∀ validate,
          py.loads artifact.content =
            some (.dict [("schema", .str call.spec.outcomeSchema), ("value", first.value)]) →
          validate first.value = .ok first.value →
          decodeOutcome py artifact.content call.spec.outcomeSchema validate = .ok first.value) ∧
        ∀ later run', WorkerHistory py runID (·.within keys) run later run' →
          ∀ ledger, run'.ledger = some ledger →
            AnsweredFrom py runID key artifact entry (run'.worker ledger)) ∧
      (∀ entry, run.durable.entries.get key = some entry → entry.status = .callStarted →
        (∀ artifact ∈ run.durable.artifacts, artifact.artifactKey ≠ py.outcomeArtifactKey runID key) →
        (∀ ledger, run.ledger = some ledger → ∃ found, ledger.entries.get key = some found ∧
          found.status = .callStarted) →
        ∀ later run', WorkerHistory py runID (·.within keys) run later run' →
          ∀ ledger, run'.ledger = some ledger → Refuses py runID key (run'.worker ledger)) := by
  refine ⟨history.journal.once, fun keys apart within key mem => ?_⟩
  have history : WorkerHistory py runID (·.within keys) {} events run := history.of_events within
  have phase := history.phase apart mem
  refine ⟨fun entry recorded ended remote => ?_, fun entry durable started absent recorded => ?_⟩
  · obtain ⟨artifact, settled⟩ := settled_of_records phase recorded ended remote
    refine ⟨artifact, fun event there call fates first input own reply made validate reads valid => ?_,
      fun later run' after ledger live => ?_⟩
    · subst own
      obtain ⟨early, late, same, -, before, after⟩ := history.of_mem there
      have before : WorkerHistory py runID (·.within keys) {} early event.before := before
      have after : WorkerHistory py runID (·.within keys) event.after late run := after
      rw [same, input] at reply after
      obtain ⟨⟨origin, returned⟩, encoded⟩ := settled_of_returned (before.phase apart mem) reply
      -- what the event settled is still settled at the end, where the slot has one artifact
      have kept := returned.history apart mem Settled.persists after
        (WorkerRun.apply_journal _ before.journal)
      obtain ⟨_, _, sees, -⟩ := settled.next
      obtain ⟨_, _, sees', -⟩ := kept.next
      have artifactIs : first.artifact = artifact :=
        List.singleton_inj.mp (congrArg View.stored (sees'.symm.trans sees))
      exact decodeOutcome_encoded (artifactIs ▸ encoded made) reads valid
    · exact ((settled.history apart mem Settled.persists after history.journal).live ledger
        live).answered
  · intro later run' after ledger live
    have stored : run.durable.artifacts.filter
        (·.artifactKey == py.outcomeArtifactKey runID key) = [] :=
      List.filter_eq_nil_iff.mpr fun artifact there is => absent artifact there (beq_iff_eq.mp is)
    have lost : Throughout py runID key Lost run := by
      refine ⟨phase.next.lost stored durable started durable started, fun ledger live => ?_⟩
      obtain ⟨found, there, is⟩ := recorded ledger live
      exact (phase.live ledger live).lost stored there is durable started
    exact ((lost.history apart mem Lost.persists after history.journal).live ledger live).refuses

/-! ### A call that succeeds, and one whose start is uncertain -/

def plainPython : Python := .knowing [.dict [("schema", .str "plan.v1"), ("value", .str "ready")]]

def planCall : LedgerCall where
  spec := {
    entryKind := .model, operation := "plan", operationKey := "plan:model:one"
    -- the digest of an empty object
    requestHash := "sha256:44136fa355b3678a1146ad16f7e8649e94fb4fc21fe77e8310c060f61caaff8a"
    reservation := { modelAttempts := 1 }, outcomeSchema := "plan.v1" }
  kind := .model
  artifactType := "MODEL_VALIDATED_OUTPUT"
  invoke := .returned (.str "ready")
  validate := .ok

def planCalled : List WorkerInput :=
  [.rebuild { maxModelAttempts := 2 } {}, .execute planCall []]

/-- The process dies when it has the outcome and is about to record the success. A second one goes on. -/
def planCrashed : List WorkerInput := [
  .rebuild { maxModelAttempts := 2 } {},
  .execute planCall [.returned, .returned, .returned, .crashed false],
  .rebuild { maxModelAttempts := 2 } {}, .execute planCall []]

def planUncertain : List WorkerInput :=
  [.rebuild { maxModelAttempts := 2 } {}, .execute planCall [.returned, .raised true]]

def WorkerReply.returned : WorkerReply → Bool
  | .executed (.returned _) => true
  | _ => false

abbrev plainRun (inputs : List WorkerInput) : WorkerRun :=
  stateFrom (WorkerRun.apply plainPython "run-a") inputs {}

theorem plainHistory {inputs : List WorkerInput} {condition : WorkerInput → Prop}
    (allowed : ∀ input ∈ inputs, condition input) :
    WorkerHistory plainPython "run-a" condition {}
      (eventsFrom (WorkerRun.apply plainPython "run-a") inputs {}) (plainRun inputs) := by
  refine .ofInputs ?_
  generalize ({} : WorkerRun) = run
  induction inputs generalizing run with
  | nil => trivial
  | cons input rest ih =>
    obtain ⟨first, rest⟩ := List.forall_mem_cons.mp allowed
    exact ⟨first, ih rest _⟩

theorem remote_call_at_most_once_planned :
    (eventsFrom (WorkerRun.apply plainPython "run-a") planCrashed {}).map (·.reply.returned) =
        [false, false, false, true] ∧
      (plainRun planCrashed).started = ["plan:model:one"] ∧ ∃ artifact entry,
      entry.status = .succeeded ∧ ∀ ledger, (plainRun planCrashed).ledger = some ledger →
        AnsweredFrom plainPython "run-a" "plan:model:one" artifact entry
          ((plainRun planCrashed).worker ledger) := by
  have recorded : (((plainRun planCrashed).durable.entries.get "plan:model:one").map
      fun entry => (entry.status, entry.entryKind)) = some (.succeeded, .model) := by decide +kernel
  obtain ⟨entry, there, is⟩ := Option.map_eq_some_iff.mp recorded
  obtain ⟨ended, kind⟩ := Prod.mk.inj is
  have within : ∀ input ∈ planCrashed, input.within {"plan:model:one"} := by
    simp only [planCrashed, List.forall_mem_cons]
    exact ⟨trivial, rfl, trivial, rfl, List.forall_mem_nil _⟩
  obtain ⟨artifact, -, answered⟩ := ((remote_call_at_most_once
      (plainHistory fun _ _ => trivial)).2 {"plan:model:one"} (Set.injOn_singleton _ _)
    (fun _ mem => have ⟨_, _, _, allowed, _⟩ := (plainHistory within).of_mem mem
      allowed) _ rfl).1 entry (.inl there) ended (by rw [kind]; decide)
  exact ⟨by decide +kernel, by decide +kernel, artifact, entry, ended,
    fun ledger live => answered [] _ (.nil _) ledger live⟩

/-- The same call with another schema for its outcome, which the identity of a call does not name. -/
def newerCall : LedgerCall :=
  { planCall with spec := { planCall.spec with outcomeSchema := "plan.v2" } }

/-- A call that has succeeded is not answered again under another schema. A start that is durable without
an artifact does not keep the process from calling, if the process does not know: the write of the start
raised after it took effect. -/
theorem uncertain_start_called :
    (∃ events run, WorkerHistory plainPython "run-a" (fun _ => True) {} events run ∧
      (∃ entry ∈ run.durable.entries.get "plan:model:one", entry.status = .succeeded ∧
        sameIdentity entry newerCall.spec = true) ∧
      (run.apply plainPython "run-a" (.execute newerCall [])).2.returned = false) ∧
    ∃ events run, WorkerHistory plainPython "run-a" (fun _ => True) {} events run ∧
      (run.durable.entries.get "plan:model:one").map (·.status) = some .callStarted ∧
      run.durable.artifacts.length = 0 ∧
      (run.apply plainPython "run-a" (.execute planCall [])).2.returned = true ∧
      (run.apply plainPython "run-a" (.execute planCall [])).1.started = ["plan:model:one"] :=
  ⟨⟨_, plainRun planCalled, plainHistory fun _ _ => trivial, by decide +kernel, by decide +kernel⟩,
    _, plainRun planUncertain, plainHistory fun _ _ => trivial, by decide +kernel, by decide +kernel,
    by decide +kernel, by decide +kernel⟩

end

end PrdAgent.Agent
