import PrdAgent.Agent.LedgerRuns

/-!
# Replaying the outcomes of the worker's ledger

What concerns one operation key is its entry in memory, its durable entry, and the artifacts in its slot
(`View`). Of the combinations that crashes and uncertain writes leave, only a few can occur (`Phase`);
an execution of the key and building the ledger again lead from phase to phase.

The slot of an operation key is named after the first half of the hash of the key, so two keys can share
one. What is said here is about one key whose slot is its own.
-/

namespace PrdAgent.Agent

open Faulty AssocMap
open Runcontrol (BudgetDelta RunBudget LedgerEntryKind LedgerStatus RunArtifact)

/-! ## What concerns one operation key -/

/-- The entries of an operation key and the artifacts in its slot, in memory and durably. -/
structure View where
  memory : Option RunLedgerEntry
  durable : Option RunLedgerEntry
  recalled : Option RunArtifact
  stored : List RunArtifact

section

variable (py : Python) (runID : String)

def Worker.view (worker : Worker Durable) (key : String) : View where
  memory := worker.ledger.entries.get key
  durable := worker.durable.entries.get key
  recalled := worker.ledger.artifacts.get (py.outcomeArtifactKey runID key)
  stored := worker.durable.artifacts.filter (·.artifactKey == py.outcomeArtifactKey runID key)

variable {py runID} {worker : Worker Durable} {key : String} {entry : RunLedgerEntry}
  {artifact : RunArtifact}

theorem view_emit (event : LedgerEvent) :
    { worker with durable := durableSink.ledger event entry worker.durable }.view py runID key =
      if key = entry.operationKey then { worker.view py runID key with durable := some entry }
      else worker.view py runID key := by
  unfold Worker.view durableSink
  dsimp only
  rw [get_set]
  split <;> rfl

theorem view_setEntry (budget : BudgetState) :
    { worker with ledger := { worker.ledger with budget := budget }.setEntry entry }.view py runID key =
      if key = entry.operationKey then { worker.view py runID key with memory := some entry }
      else worker.view py runID key := by
  unfold Worker.view RunExecutionLedger.setEntry
  dsimp only
  rw [get_set]
  split <;> rfl

theorem view_emit_artifact :
    { worker with durable := durableSink.artifact artifact worker.durable }.view py runID key =
      if py.outcomeArtifactKey runID key = artifact.artifactKey then
        { worker.view py runID key with stored := (worker.view py runID key).stored ++ [artifact] }
      else worker.view py runID key := by
  unfold Worker.view durableSink
  dsimp only
  rw [List.filter_append, List.filter_singleton]
  split
  · next own => rw [own, beq_self_eq_true, cond_true]
  · next other => rw [beq_eq_false_iff_ne.mpr (Ne.symm other), cond_false, List.append_nil]

theorem view_setArtifact :
    { worker with ledger := worker.ledger.setArtifact artifact }.view py runID key =
      if py.outcomeArtifactKey runID key = artifact.artifactKey then
        { worker.view py runID key with recalled := some artifact }
      else worker.view py runID key := by
  unfold Worker.view RunExecutionLedger.setArtifact
  dsimp only
  rw [get_set]
  split <;> rfl

end

/-! ## Phases -/

def SameCall (left right : RunLedgerEntry) : Prop :=
  left.requestHash = right.requestHash ∧ left.entryKind = right.entryKind ∧
    left.operation = right.operation

theorem SameCall.symm {left right : RunLedgerEntry} (same : SameCall left right) :
    SameCall right left := ⟨same.1.symm, same.2.1.symm, same.2.2.symm⟩

theorem SameCall.trans {left middle right : RunLedgerEntry} (first : SameCall left middle)
    (second : SameCall middle right) : SameCall left right :=
  ⟨first.1.trans second.1, first.2.1.trans second.2.1, first.2.2.trans second.2.2⟩

/-- The entry of a call that was started, and of which no more is recorded. -/
def RunLedgerEntry.Open (entry : RunLedgerEntry) : Prop :=
  entry.status = .callStarted ∧ entry.outputArtifactKey = ""

structure RunLedgerEntry.Backed (entry : RunLedgerEntry) (artifact : RunArtifact) : Prop where
  status : entry.status = .succeeded
  key : entry.outputArtifactKey = artifact.artifactKey
  hash : entry.outputArtifactHash = artifact.contentHash
  request : entry.requestHash = artifact.requestHash

structure RunLedgerEntry.Consumed (entry : RunLedgerEntry) : Prop where
  status : entry.status = .succeeded
  kind : entry.entryKind = .localTransition
  bare : entry.outputArtifactKey = ""

/-- The phases of an operation key. -/
inductive Phase (slot : String) : View → Prop
  /-- No process has recorded the start of the call in memory. -/
  | waiting {memory durable : Option RunLedgerEntry}
      (uncalled : ∀ entry, memory = some entry → entry.called = false)
      (written : ∀ entry, durable = some entry →
        entry.status = .reserved ∨ entry.Open ∨ entry.Consumed) :
      Phase slot ⟨memory, durable, none, []⟩
  /-- The call was started and the process does not have its outcome. -/
  | unknown {memory durable : RunLedgerEntry} {stored : List RunArtifact} (started : memory.Open)
      (same : SameCall memory durable)
      (written : durable.status = .failed ∧ stored = [] ∨ durable.Open ∧ (stored = [] ∨
        ∃ artifact, stored = [artifact] ∧ artifact.artifactKey = slot ∧
          artifact.requestHash = memory.requestHash)) :
      Phase slot ⟨some memory, some durable, none, stored⟩
  /-- The process has the outcome and has not recorded the end of the call. -/
  | answered {memory durable : RunLedgerEntry} {artifact : RunArtifact} (started : memory.Open)
      (same : SameCall memory durable) (named : artifact.artifactKey = slot)
      (request : artifact.requestHash = memory.requestHash)
      (written : durable.Open ∨ durable.Backed artifact) :
      Phase slot ⟨some memory, some durable, some artifact, [artifact]⟩
  | failed {memory durable : RunLedgerEntry} (ended : memory.status = .failed)
      (written : durable.status = .failed) :
      Phase slot ⟨some memory, some durable, none, []⟩
  | succeeded {memory durable : RunLedgerEntry} {artifact : RunArtifact}
      (ended : memory.Backed artifact) (same : SameCall memory durable)
      (named : artifact.artifactKey = slot) (written : durable.Backed artifact) :
      Phase slot ⟨some memory, some durable, some artifact, [artifact]⟩
  | consumed {memory durable : RunLedgerEntry} (ended : memory.Consumed)
      (written : durable.Consumed) : Phase slot ⟨some memory, some durable, none, []⟩

/-- What a process finds that builds its ledger now. -/
def View.rebuilt (view : View) : View := ⟨view.durable, view.durable, view.stored.head?, view.stored⟩

theorem Phase.rebuilt {slot : String} {view : View} (phase : Phase slot view) :
    Phase slot view.rebuilt := by
  cases phase with
  | @waiting memory durable uncalled written =>
    cases durable with
    | none => exact .waiting (fun _ is => nomatch is) fun _ is => nomatch is
    | some entry =>
      rcases written entry rfl with reserved | started | consumed
      · refine .waiting (fun found is => ?_) fun found is => ?_
        · cases is
          unfold RunLedgerEntry.called
          rw [reserved]
          rfl
        · cases is
          exact .inl reserved
      · exact .unknown started ⟨rfl, rfl, rfl⟩ (.inr ⟨started, .inl rfl⟩)
      · exact .consumed consumed consumed
  | unknown started same written =>
    rcases written with ⟨failed, rfl⟩ | ⟨open_, rfl | ⟨artifact, rfl, named, request⟩⟩
    · exact .failed failed failed
    · exact .unknown open_ ⟨rfl, rfl, rfl⟩ (.inr ⟨open_, .inl rfl⟩)
    · exact .answered open_ ⟨rfl, rfl, rfl⟩ named (request.trans same.1) (.inl open_)
  | answered started same named request written =>
    rcases written with open_ | backed
    · exact .answered open_ ⟨rfl, rfl, rfl⟩ named (request.trans same.1) (.inl open_)
    · exact .succeeded backed ⟨rfl, rfl, rfl⟩ named backed
  | failed ended written => exact .failed written written
  | succeeded ended same named written => exact .succeeded written ⟨rfl, rfl, rfl⟩ named written
  | consumed ended written => exact .consumed written written

/-! ## An execution of the key -/

section

variable {py : Python} {runID : String} {call : LedgerCall} {spec : LedgerCallSpec}
  {entry : RunLedgerEntry} {artifact : RunArtifact} {view : View}

def InPhase (py : Python) (runID key : String) (worker : Worker Durable) : Prop :=
  Phase (py.outcomeArtifactKey runID key) (worker.view py runID key)

def Sees (py : Python) (runID key : String) (view : View) (worker : Worker Durable) : Prop :=
  worker.view py runID key = view

variable {worker : Worker Durable} {durable memory : RunLedgerEntry} {key : String}
  {outcome : Outcome Fault LedgerOutcome} {ledger : RunExecutionLedger}
  {Q : Outcome Fault LedgerOutcome → Worker Durable → Prop}

theorem Sees.inPhase (sees : Sees py runID key view worker)
    (phase : Phase (py.outcomeArtifactKey runID key) view) : InPhase py runID key worker := by
  unfold InPhase
  rw [sees]
  exact phase

theorem Sees.found (sees : Sees py runID key view worker) :
    worker.ledger.entries.get key = view.memory := congrArg View.memory sees

theorem Sees.recalled (sees : Sees py runID key view worker) :
    worker.ledger.artifacts.get (py.outcomeArtifactKey runID key) = view.recalled :=
  congrArg View.recalled sees

theorem record_sees {β : Type} {I R : Worker Durable → Prop} {status : LedgerStatus}
    {reservation consumption : BudgetVector} {output : Option RunArtifact} {refs : List String}
    {category : String} {event : LedgerEvent}
    {settle : RunLedgerEntry → RunExecutionLedger → RunExecutionLedger}
    (is : ∀ entry ledger, ∃ budget, settle entry ledger =
      { ledger with budget := budget }.setEntry entry)
    (before : ∀ worker, Sees py runID spec.operationKey view worker → I worker)
    (written : ∀ entry worker, Made spec status output entry →
      Sees py runID spec.operationKey { view with durable := some entry } worker → I worker)
    (recorded : ∀ entry worker, Made spec status output entry →
      Sees py runID spec.operationKey { view with memory := some entry, durable := some entry }
        worker → R worker) :
    Triple (Sees py runID spec.operationKey view) (do
      let entry ← .ofExcept (makeEntry spec status reservation consumption output refs category)
      emit (durableSink.ledger event entry)
      updateLedger (settle entry)) (Triple.Then (fun _ => R) fun _ : Outcome Fault β => I) := by
  refine makeEntry_triple (fun _ => before) fun entry made => ?_
  refine Triple.bind (R := fun _ =>
    Sees py runID spec.operationKey { view with durable := some entry }) ?_ fun _ => ?_
  · have after {worker : Worker Durable} (sees : Sees py runID spec.operationKey view worker) :
        Sees py runID spec.operationKey { view with durable := some entry }
          { worker with durable := durableSink.ledger event entry worker.durable } := by
      unfold Sees at sees ⊢
      rw [view_emit, if_pos made.operationKey.symm, sees]
    have late {worker : Worker Durable} (sees : Sees py runID spec.operationKey view worker) :=
      written entry _ made (after sees)
    exact Triple.write (fun _ sees => after sees) (fun _ sees => ⟨late sees, late sees⟩)
      fun worker sees => ⟨before worker sees, before worker sees⟩
  · refine Triple.modify fun worker sees => recorded entry _ made ?_
    obtain ⟨budget, same⟩ := is entry worker.ledger
    unfold Sees at sees ⊢
    rw [same, view_setEntry, if_pos made.operationKey.symm, sees]

theorem Made.open_ (made : Made spec .callStarted none entry) : entry.Open :=
  ⟨made.status, made.artifactKey⟩

theorem startEntry_phase {memory durable : Option RunLedgerEntry}
    (uncalled : ∀ entry, memory = some entry → entry.called = false)
    (written : ∀ entry, durable = some entry →
      entry.status = .reserved ∨ entry.Open ∨ entry.Consumed) :
    Triple (Sees py runID spec.operationKey ⟨memory, durable, none, []⟩) (startEntry durableSink spec)
      (Triple.Then (fun _ worker => ∃ entry, Made spec .callStarted none entry ∧
          Sees py runID spec.operationKey ⟨some entry, some entry, none, []⟩ worker)
        fun _ : Outcome Fault LedgerOutcome => InPhase py runID spec.operationKey) := by
  refine record_sees (fun _ ledger => ⟨ledger.budget, rfl⟩)
    (fun _ sees => sees.inPhase (.waiting uncalled written))
    (fun entry _ made sees => ?_) fun entry _ made sees => ⟨entry, made, sees⟩
  exact sees.inPhase (.waiting uncalled fun _ is => .inr (.inl (Option.some.inj is ▸ made.open_)))

theorem Made.sameCall {status : LedgerStatus} {output : Option RunArtifact} {other : RunLedgerEntry}
    (made : Made spec status output entry) (identity : sameIdentity other spec = true) :
    SameCall other entry := by
  have own := made.identity
  unfold sameIdentity at identity own
  simp only [Bool.and_eq_true, beq_iff_eq] at identity own
  exact ⟨identity.1.1.trans own.1.1.symm, identity.1.2.trans own.1.2.symm,
    identity.2.trans own.2.symm⟩

theorem sameIdentity_request (identity : sameIdentity entry spec = true) :
    entry.requestHash = spec.requestHash := by
  unfold sameIdentity at identity
  simp only [Bool.and_eq_true, beq_iff_eq] at identity
  exact identity.1.1

theorem Made.backed (made : Made spec .succeeded (some artifact) entry)
    (request : artifact.requestHash = spec.requestHash) : entry.Backed artifact := by
  exact ⟨made.status, made.artifactKey, made.artifactHash,
    (sameIdentity_request made.identity).trans request.symm⟩

theorem failEntry_phase (started : Made spec .callStarted none entry) :
    Triple (Sees py runID spec.operationKey ⟨some entry, some entry, none, []⟩)
      (failEntry durableSink spec) fun _ => InPhase py runID spec.operationKey := by
  have same := started.sameCall started.identity
  have before {worker : Worker Durable}
      (sees : Sees py runID spec.operationKey ⟨some entry, some entry, none, []⟩ worker) :
      InPhase py runID spec.operationKey worker :=
    sees.inPhase (.unknown started.open_ same (.inr ⟨started.open_, .inl rfl⟩))
  refine Triple.of_then (β := Unit) (record_sees (fun _ _ => ⟨_, rfl⟩) (fun _ => before)
    (fun _ _ made sees => ?_) fun _ _ made sees => sees.inPhase (.failed made.status made.status))
  exact sees.inPhase (.unknown started.open_ (made.sameCall started.identity)
    (.inl ⟨made.status, rfl⟩))

/-- The process has the outcome of the call. -/
structure Answered (py : Python) (runID : String) (spec : LedgerCallSpec) (artifact : RunArtifact)
    (memory durable : RunLedgerEntry) : Prop where
  started : memory.Open
  identity : sameIdentity memory spec = true
  same : SameCall memory durable
  named : artifact.artifactKey = py.outcomeArtifactKey runID spec.operationKey
  request : artifact.requestHash = spec.requestHash
  written : durable.Open ∨ durable.Backed artifact

def Succeeded (py : Python) (runID key : String) (artifact : RunArtifact) (worker : Worker Durable) :
    Prop :=
  ∃ memory durable, Sees py runID key ⟨some memory, some durable, some artifact, [artifact]⟩ worker ∧
    memory.Backed artifact ∧ SameCall memory durable ∧
    artifact.artifactKey = py.outcomeArtifactKey runID key ∧ durable.Backed artifact

theorem Succeeded.phase (succeeded : Succeeded py runID key artifact worker) :
    InPhase py runID key worker := by
  obtain ⟨memory, durable, sees, ended, same, named, written⟩ := succeeded
  exact sees.inPhase (.succeeded ended same named written)

theorem Answered.phase (answered : Answered py runID spec artifact memory durable) :
    Phase (py.outcomeArtifactKey runID spec.operationKey)
      ⟨some memory, some durable, some artifact, [artifact]⟩ := by
  exact .answered answered.started answered.same answered.named
    (answered.request.trans (sameIdentity_request answered.identity).symm) answered.written

/-- The process has the artifact, and the durable entry is as it was or backed by it. -/
def Holding (py : Python) (runID key : String) (artifact : RunArtifact) (durable : RunLedgerEntry)
    (worker : Worker Durable) : Prop :=
  ∃ memory durable',
    Sees py runID key ⟨some memory, some durable', some artifact, [artifact]⟩ worker ∧
    Phase (py.outcomeArtifactKey runID key) ⟨some memory, some durable', some artifact, [artifact]⟩ ∧
    SameCall durable durable' ∧ (durable' = durable ∨ durable'.Backed artifact)

theorem Sees.holding
    (sees : Sees py runID key ⟨some memory, some durable, some artifact, [artifact]⟩ worker)
    (phase : Phase (py.outcomeArtifactKey runID key)
      ⟨some memory, some durable, some artifact, [artifact]⟩) :
    Holding py runID key artifact durable worker :=
  ⟨memory, durable, sees, phase, ⟨rfl, rfl, rfl⟩, .inl rfl⟩

theorem Holding.phase (holding : Holding py runID key artifact durable worker) :
    InPhase py runID key worker := by
  obtain ⟨memory, durable', sees, phase, -⟩ := holding
  exact sees.inPhase phase

theorem finishEntry_phase {refs : List String} {actual : BudgetVector}
    (answered : Answered py runID spec artifact memory durable) :
    Triple (Sees py runID spec.operationKey ⟨some memory, some durable, some artifact, [artifact]⟩)
      (finishEntry durableSink spec artifact refs actual)
      (Triple.Then (fun _ worker => Succeeded py runID spec.operationKey artifact worker ∧
          Holding py runID spec.operationKey artifact durable worker)
        fun _ : Outcome Fault LedgerOutcome =>
          Holding py runID spec.operationKey artifact durable) := by
  have kept {entry : RunLedgerEntry} (made : Made spec .succeeded (some artifact) entry) :
      SameCall durable entry := answered.same.symm.trans (made.sameCall answered.identity)
  refine record_sees (fun _ _ => ⟨_, rfl⟩) (fun _ sees => sees.holding answered.phase)
    (fun entry _ made sees => ?_) fun entry _ made sees => ?_
  · have backed := made.backed answered.request
    exact ⟨memory, entry, sees, Answered.phase { answered with
      same := made.sameCall answered.identity, written := .inr backed }, kept made, .inr backed⟩
  · have backed := made.backed answered.request
    exact ⟨⟨entry, entry, sees, backed, ⟨rfl, rfl, rfl⟩, answered.named, backed⟩, entry, entry, sees,
      .succeeded backed ⟨rfl, rfl, rfl⟩ answered.named backed, kept made, .inr backed⟩

theorem buildArtifact_ok {artifactType requestHash schema : String} {value : PyValue}
    (built : buildArtifact py key artifactType requestHash schema value = .ok artifact) :
    artifact.artifactKey = key ∧ artifact.requestHash = requestHash ∧
      encodeOutcome schema value = some artifact.content := by
  unfold buildArtifact at built
  split at built
  · cases built
  · next content encoded =>
    cases built
    exact ⟨rfl, rfl, encoded⟩

/-- What an execution leaves: a phase of the key, and when it returns, the artifact of the outcome, which
holds the value if the call was made now. -/
structure Performed (py : Python) (runID : String) (call : LedgerCall)
    (outcome : Outcome Fault LedgerOutcome) (worker : Worker Durable) : Prop where
  phase : InPhase py runID call.spec.operationKey worker
  returned : ∀ value, outcome = .returned value →
    Succeeded py runID call.spec.operationKey value.artifact worker ∧
      (value.replayed = false →
        encodeOutcome call.spec.outcomeSchema value.value = some value.artifact.content)

theorem InPhase.performed (ended : ∀ value, outcome ≠ .returned value)
    (phase : InPhase py runID call.spec.operationKey worker) : Performed py runID call outcome worker :=
  ⟨phase, fun value is => absurd is (ended value)⟩

theorem answer_sees : Keeps (Sees py runID call.spec.operationKey view) (answer call) :=
  Keeps.bind (.call fun _ sees => sees) fun _ => .ofExcept

theorem performCall_phase {memory durable : Option RunLedgerEntry}
    (uncalled : ∀ entry, memory = some entry → entry.called = false)
    (written : ∀ entry, durable = some entry →
      entry.status = .reserved ∨ entry.Open ∨ entry.Consumed) :
    Triple (Sees py runID call.spec.operationKey ⟨memory, durable, none, []⟩)
      (performCall py durableSink runID call) (Performed py runID call) := by
  refine (startEntry_phase uncalled written).bind_of_stopped (fun _ _ => InPhase.performed)
    fun _ => Triple.of_exists fun entry made => ?_
  have same := made.sameCall made.identity
  have request := sameIdentity_request made.identity
  have lost {stored : List RunArtifact} {worker : Worker Durable}
      (sees : Sees py runID call.spec.operationKey ⟨some entry, some entry, none, stored⟩ worker)
      (is : stored = [] ∨ ∃ artifact, stored = [artifact] ∧
        artifact.artifactKey = py.outcomeArtifactKey runID call.spec.operationKey ∧
        artifact.requestHash = entry.requestHash) :
      InPhase py runID call.spec.operationKey worker :=
    sees.inPhase (.unknown made.open_ same (.inr ⟨made.open_, is⟩))
  refine Triple.bind (R := fun _ =>
    Sees py runID call.spec.operationKey ⟨some entry, some entry, none, []⟩) ?_ fun value => ?_
  · refine Triple.onRaise (R := fun _ =>
      Sees py runID call.spec.operationKey ⟨some entry, some entry, none, []⟩) ?_ fun fault => ?_
    · refine answer_sees.mono fun outcome worker sees => ?_
      cases outcome with
      | returned value | raised fault => exact sees
      | crashed => exact (lost sees (.inl rfl)).performed fun _ => nofun
    · refine (failEntry_phase made).mono fun outcome _ phase => ?_
      cases outcome <;> exact phase.performed fun _ => nofun
  refine Triple.ofExcept_bind
    (fun _ _ _ sees => (lost sees (.inl rfl)).performed fun _ => nofun) fun artifact built => ?_
  obtain ⟨named, hash, encoded⟩ := buildArtifact_ok built
  have answered : Answered py runID call.spec artifact entry entry :=
    ⟨made.open_, made.identity, same, named, hash, .inl made.open_⟩
  refine Triple.bind_of_stopped (R := fun _ =>
    Sees py runID call.spec.operationKey ⟨some entry, some entry, none, [artifact]⟩) ?_
    (fun _ _ => InPhase.performed) fun _ => ?_
  · have after {worker : Worker Durable}
        (sees : Sees py runID call.spec.operationKey ⟨some entry, some entry, none, []⟩ worker) :
        Sees py runID call.spec.operationKey ⟨some entry, some entry, none, [artifact]⟩
          { worker with durable := durableSink.artifact artifact worker.durable } := by
      unfold Sees at sees ⊢
      rw [view_emit_artifact, if_pos named.symm, sees]
      rfl
    have written {worker : Worker Durable}
        (sees : Sees py runID call.spec.operationKey ⟨some entry, some entry, none, []⟩ worker) :=
      lost (after sees) (.inr ⟨artifact, rfl, named, hash.trans request.symm⟩)
    exact Triple.write (fun _ sees => after sees) (fun _ sees => ⟨written sees, written sees⟩)
      fun _ sees => ⟨lost sees (.inl rfl), lost sees (.inl rfl)⟩
  refine Triple.bind (R := fun _ => Sees py runID call.spec.operationKey
    ⟨some entry, some entry, some artifact, [artifact]⟩) (Triple.modify fun worker sees => ?_)
    fun _ => ?_
  · change Sees _ _ _ _ _
    unfold Sees at sees ⊢
    rw [view_setArtifact, if_pos named.symm, sees]
  refine Triple.bind_of_stopped (Triple.then_self (emitEvidence_keeps py call value))
    (fun _ _ ended sees => (sees.inPhase answered.phase).performed ended) fun refs => ?_
  refine Triple.ofExcept_bind
    (fun _ _ _ sees => (sees.inPhase answered.phase).performed fun _ => nofun) fun actual _ => ?_
  refine (finishEntry_phase answered).bind_of_stopped
    (fun _ _ ended holding => holding.phase.performed ended) fun _ => ?_
  refine Triple.pure fun worker ⟨succeeded, _⟩ => ⟨succeeded.phase, fun outcome is => ?_⟩
  cases is
  exact ⟨succeeded, fun _ => encoded⟩

theorem reserveEntry_phase {durable : Option RunLedgerEntry}
    (written : ∀ entry, durable = some entry →
      entry.status = .reserved ∨ entry.Open ∨ entry.Consumed) :
    Triple (Sees py runID spec.operationKey ⟨none, durable, none, []⟩) (reserveEntry durableSink spec)
      (Triple.Then (fun _ worker => ∃ entry, Made spec .reserved none entry ∧
          Sees py runID spec.operationKey ⟨some entry, some entry, none, []⟩ worker)
        fun _ : Outcome Fault LedgerOutcome => InPhase py runID spec.operationKey) := by
  have before {worker : Worker Durable}
      (sees : Sees py runID spec.operationKey ⟨none, durable, none, []⟩ worker) :
      InPhase py runID spec.operationKey worker :=
    sees.inPhase (.waiting (fun _ is => nomatch is) written)
  refine Triple.get_bind fun worker sees => Triple.at_state ?_ sees
  refine Triple.ofExcept_bind (fun _ _ _ sees => before sees) fun budget _ => ?_
  refine Triple.bind (R := fun _ => Sees py runID spec.operationKey ⟨none, durable, none, []⟩)
    (Triple.modify fun _ sees => sees) fun _ => ?_
  refine record_sees (fun _ ledger => ⟨ledger.budget, rfl⟩) (fun _ => before)
    (fun entry _ made sees => ?_) fun entry _ made sees => ⟨entry, made, sees⟩
  exact sees.inPhase (.waiting (fun _ is => nomatch is) fun _ is =>
    .inl (Option.some.inj is ▸ made.status))

/-! ## Outcomes from artifacts -/

theorem artifactFor_ok (found : ledger.artifactFor py runID entry spec = .ok artifact) :
    ledger.artifacts.get (RunExecutionLedger.artifactKeyOf py runID entry spec.operationKey) =
      some artifact := by
  unfold RunExecutionLedger.artifactFor at found
  split at found
  · cases found
  · next there =>
    repeat' split at found
    all_goals cases found
    exact there

theorem outcomeArtifactKey_ne (key : String) : py.outcomeArtifactKey runID key ≠ "" := by
  intro empty
  have length := congrArg (fun text => text.toList.length) empty
  unfold Python.outcomeArtifactKey at length
  simp at length

theorem artifactKeyOf_slot (named : entry.outputArtifactKey = "" ∨
      entry.outputArtifactKey = py.outcomeArtifactKey runID key) :
    RunExecutionLedger.artifactKeyOf py runID entry key = py.outcomeArtifactKey runID key := by
  unfold RunExecutionLedger.artifactKeyOf
  rcases named with bare | named
  · rw [if_pos bare]
  · rw [named, if_neg (outcomeArtifactKey_ne key)]

def Replayed (py : Python) (call : LedgerCall) (artifact : RunArtifact)
    (outcome : Outcome Fault LedgerOutcome) : Prop :=
  ∀ value, outcome = .returned value → value.artifact = artifact ∧ value.replayed = true ∧
    decodeOutcome py artifact.content call.spec.outcomeSchema call.validate = .ok value.value

/-- The state and the outcome of a call that is answered from an artifact. -/
structure FromArtifact (py : Python) (runID : String) (call : LedgerCall) (artifact : RunArtifact)
    (durable : RunLedgerEntry) (outcome : Outcome Fault LedgerOutcome) (worker : Worker Durable) :
    Prop where
  holding : Holding py runID call.spec.operationKey artifact durable worker
  replayed : Replayed py call artifact outcome
  succeeded : ∀ value, outcome = .returned value →
    Succeeded py runID call.spec.operationKey artifact worker

theorem FromArtifact.performed (is : FromArtifact py runID call artifact durable outcome worker) :
    Performed py runID call outcome worker := by
  refine ⟨is.holding.phase, fun value returned => ?_⟩
  obtain ⟨same, replayed, -⟩ := is.replayed value returned
  rw [same, replayed]
  exact ⟨is.succeeded value returned, nofun⟩

theorem Holding.fromArtifact
    (ended : ∀ value, outcome ≠ .returned value)
    (holding : Holding py runID call.spec.operationKey artifact durable worker) :
    FromArtifact py runID call artifact durable outcome worker :=
  ⟨holding, fun value is => absurd is (ended value), fun value is => absurd is (ended value)⟩

theorem finishDurableAhead_phase (answered : Answered py runID call.spec artifact memory durable) :
    Triple (Sees py runID call.spec.operationKey
        ⟨some memory, some durable, some artifact, [artifact]⟩)
      (finishDurableAhead py durableSink runID call memory)
      (FromArtifact py runID call artifact durable) := by
  have stopped {outcome : Outcome Fault LedgerOutcome} {worker : Worker Durable}
      (ended : ∀ value, outcome ≠ .returned value) (sees : Sees py runID call.spec.operationKey
        ⟨some memory, some durable, some artifact, [artifact]⟩ worker) :
      FromArtifact py runID call artifact durable outcome worker :=
    (sees.holding answered.phase).fromArtifact ended
  refine Triple.get_bind fun worker sees => Triple.at_state ?_ sees
  refine Triple.ofExcept_bind (fun _ _ _ => stopped fun _ => nofun) fun found is => ?_
  have there := artifactFor_ok is
  rw [artifactKeyOf_slot (.inl answered.started.2), sees.recalled] at there
  cases there
  refine Triple.ofExcept_bind (fun _ _ _ => stopped fun _ => nofun) fun value decoded => ?_
  refine Triple.bind_of_stopped (Triple.then_self (emitEvidence_keeps py call value))
    (fun _ _ => stopped) fun refs => ?_
  refine (finishEntry_phase answered).bind_of_stopped (fun _ _ => Holding.fromArtifact) fun _ => ?_
  refine Triple.pure fun worker ⟨succeeded, holding⟩ =>
    ⟨holding, fun outcome is => ?_, fun _ _ => succeeded⟩
  cases is
  exact ⟨rfl, rfl, decoded⟩

theorem execute_found (stored : worker.ledger.entries.get call.spec.operationKey = some entry)
    (refused : ∀ fault, Q (.raised fault) worker) (resumes : sameIdentity entry call.spec = true →
      Triple (· = worker) (resume py durableSink runID call worker.ledger entry) Q) :
    Triple (· = worker) (execute py durableSink runID call) Q := by
  refine Triple.ofExcept_bind (fun fault _ _ same => same ▸ refused fault) fun _ _ => ?_
  refine Triple.get_bind_at ?_
  rw [stored]
  refine Triple.ofExcept_bind (fun fault _ _ same => same ▸ refused fault) fun _ identity => ?_
  refine resumes ?_
  unfold assertIdentity at identity
  split at identity
  · assumption
  · cases identity

theorem resume_succeeded (ended : entry.status = .succeeded)
    (replays : Triple (· = worker) (replay py runID call entry) Q) :
    Triple (· = worker) (resume py durableSink runID call ledger entry) Q := by
  unfold resume
  rw [ended]
  exact replays

theorem execute_holding (sees : Sees py runID call.spec.operationKey
      ⟨some memory, some durable, some artifact, [artifact]⟩ worker)
    (phase : Phase (py.outcomeArtifactKey runID call.spec.operationKey)
      ⟨some memory, some durable, some artifact, [artifact]⟩) :
    Triple (· = worker) (execute py durableSink runID call)
      (FromArtifact py runID call artifact durable) := by
  refine execute_found sees.found (fun _ => (sees.holding phase).fromArtifact fun _ => nofun)
    fun identity => ?_
  cases phase with
  | answered started same named request written =>
    unfold resume
    rw [started.1]
    dsimp only
    rw [artifactKeyOf_slot (.inl started.2), sees.recalled]
    exact (finishDurableAhead_phase ⟨started, identity, same, named,
      request.trans (sameIdentity_request identity), written⟩).at_state sees
  | succeeded ended same named written =>
    refine resume_succeeded ended.status ?_
    have succeeded : Succeeded py runID call.spec.operationKey artifact worker :=
      ⟨memory, durable, sees, ended, same, named, written⟩
    have holding := sees.holding (.succeeded ended same named written)
    refine Triple.get_bind_at ?_
    refine Triple.ofExcept_bind (fun _ _ _ same => ?_) fun found is => ?_
    · subst same
      exact holding.fromArtifact fun _ => nofun
    have there := artifactFor_ok is
    rw [artifactKeyOf_slot (.inr (ended.key.trans named)), sees.recalled] at there
    cases there
    refine Triple.ofExcept_bind (fun _ _ _ same => ?_) fun value decoded => ?_
    · subst same
      exact holding.fromArtifact fun _ => nofun
    refine Triple.pure fun _ same => ?_
    subst same
    refine ⟨holding, fun outcome is => ?_, fun _ _ => succeeded⟩
    cases is
    exact ⟨rfl, rfl, decoded⟩

theorem execute_phase : Triple (InPhase py runID call.spec.operationKey)
    (execute py durableSink runID call) (Performed py runID call) := by
  refine Triple.of_state fun worker phase => ?_
  have refused (fault : Fault) : Performed py runID call (.raised fault) worker :=
    phase.performed fun _ => nofun
  obtain ⟨view, sees⟩ : ∃ view, Sees py runID call.spec.operationKey view worker := ⟨_, rfl⟩
  have memory := sees.found
  have recalled := sees.recalled
  unfold InPhase at phase
  rw [sees] at phase
  cases id phase with
  | @waiting found durable uncalled written =>
    cases found with
    | none =>
      refine Triple.ofExcept_bind (fun _ _ _ same => same ▸ refused _) fun _ _ => ?_
      refine Triple.get_bind_at ?_
      rw [memory]
      refine ((reserveEntry_phase written).bind_of_stopped (fun _ _ => InPhase.performed)
        fun _ => Triple.of_exists fun entry made => ?_).at_state sees
      exact performCall_phase
        (fun _ is => Option.some.inj is ▸ made.called)
        fun _ is => .inl (Option.some.inj is ▸ made.status)
    | some entry =>
      refine execute_found memory refused fun _ => ?_
      have performs := (performCall_phase uncalled written).at_state sees
      have status := uncalled entry rfl
      unfold RunLedgerEntry.called at status
      unfold resume
      split
      all_goals first
        | exact performs
        | next is => rw [is] at status; cases status
  | unknown started same written =>
    refine execute_found memory refused fun _ => ?_
    unfold resume
    rw [started.1]
    dsimp only
    rw [artifactKeyOf_slot (.inl started.2), recalled]
    exact Triple.raise fun _ same => same ▸ refused _
  | answered | succeeded => exact (execute_holding sees phase).mono fun _ _ is => is.performed
  | failed ended written =>
    refine execute_found memory refused fun _ => ?_
    unfold resume
    rw [ended]
    exact Triple.raise fun _ same => same ▸ refused _
  | consumed ended written =>
    refine execute_found memory refused fun _ => resume_succeeded ended.status ?_
    -- a transition has no artifact, so its key cannot be replayed as a call
    refine Triple.get_bind_at ?_
    refine Triple.ofExcept_bind (fun _ _ _ same => same ▸ refused _) fun found is => ?_
    have there := artifactFor_ok is
    rw [artifactKeyOf_slot (.inl ended.bare), recalled] at there
    cases there

/-! ## What does not call -/

theorem execute_quiet (stored : worker.ledger.entries.get call.spec.operationKey = some entry)
    (called : entry.called = true) :
    Triple (· = worker) (execute py durableSink runID call)
      fun _ worker' => worker'.started = worker.started := by
  refine execute_keeps rfl (fun _ _ _ => ?_) (fun uncalled => ?_) fun absent => ?_
  · exact Keeps.bind .ofExcept fun _ => Keeps.bind (.write fun _ is => is) fun _ =>
      .modify fun _ is => is
  · cases (uncalled entry stored).symm.trans called
  · cases absent.symm.trans stored

/-! ## Calls that succeeded -/

/-- The call of the key has durably succeeded with the artifact. -/
def Settled (py : Python) (runID key : String) (artifact : RunArtifact) (origin : RunLedgerEntry)
    (view : View) : Prop :=
  ∃ memory durable, view = ⟨some memory, some durable, some artifact, [artifact]⟩ ∧
    Phase (py.outcomeArtifactKey runID key) view ∧ durable.Backed artifact ∧ SameCall origin durable

theorem execute_settled {origin : RunLedgerEntry} :
    Triple (fun worker => Settled py runID call.spec.operationKey artifact origin
        (worker.view py runID call.spec.operationKey))
      (execute py durableSink runID call) fun outcome worker =>
        Settled py runID call.spec.operationKey artifact origin
          (worker.view py runID call.spec.operationKey) ∧ Replayed py call artifact outcome := by
  refine Triple.of_state fun worker settled => ?_
  obtain ⟨memory, durable, sees, phase, backed, same⟩ := settled
  refine (execute_holding sees (sees ▸ phase)).mono fun outcome worker is => ?_
  obtain ⟨memory', durable', sees, phase, kept, written⟩ := is.holding
  refine ⟨⟨memory', durable', sees, sees ▸ phase, ?_, same.trans kept⟩, is.replayed⟩
  rcases written with rfl | written
  · exact backed
  · exact written

end

end PrdAgent.Agent
