import PrdAgent.Export.Service
import PrdAgent.Library.PythonJson
import PrdAgent.Library.Sha256

/-!
# What executions do

`Access` lists the accesses of an execution with their guards (`step_access`); every fact about runs of
the service follows from it. `confirmed_content_exported` says what holds when an execution calls the
gateway: the document is the one of an intent whose confirmation was presented.
-/

namespace PrdAgent.Export

open AssocMap GoText Transition

variable {service : Service} {sources : Sources} {now : Int} {id : Nat} {reply : GatewayReply}
  {command : ExecuteCommand} {store store' : ExportStore} {phase phase' : Phase} {world : World}

/-- The identity of an execution's idempotency record. -/
def ExecuteCommand.key (command : ExecuteCommand) : String × String :=
  (command.ownerID, command.idempotencyKey)

section

variable (service : Service) (sources : Sources) (now : Int) (id : Nat) (reply : GatewayReply)
  (command : ExecuteCommand) (store : ExportStore)

/-- The access of an execution in a phase: the store and the phase after it. -/
inductive Access : Phase → ExportStore → Phase → Prop
  | ended {phase : Phase} (result : Result) : Access phase store (.done result)
  | fresh (unused : store.replays.get command.key = none) :
      Access .getReplay store .getIntent
  | confirmed {intent : ExportIntent} (stored : store.intents.get command.intentID = some intent)
      (owner : intent.ownerID = command.ownerID)
      (token : service.confirmationToken intent = command.confirmationToken)
      (unconsumed : intent.consumedAt = none) :
      Access .getIntent store (.checkExpiry intent)
  | unexpired {intent : ExportIntent} (is : now < intent.expiresAt)
      (version : command.expectedTaskVersion = intent.taskVersion) :
      Access (.checkExpiry intent) store (.readSource intent)
  | sourced {intent : ExportIntent} {source : ExportSourceSnapshot}
      (read : sources intent.taskID command.ownerID = .ok source)
      (completed : source.taskStatus = "COMPLETED")
      (version : source.taskVersion = command.expectedTaskVersion)
      (documentID : source.documentID = intent.documentID)
      (documentVersion : source.documentVersion = intent.documentVersion)
      (contentHash : (service.format source).contentHash = intent.contentHash) :
      Access (.readSource intent) store
        (.getBinding { intent := intent, source := source, document := service.format source })
  | suited {checked : Checked} {binding : Option ExternalDocumentBinding}
      (read : store.bindings.get (command.ownerID, checked.intent.taskID) = binding)
      (suits : checkBinding checked.intent.mode binding = .ok ()) :
      Access (.getBinding checked) store (.beginRun { checked with binding := binding })
  | begun {checked : Checked} (unused : store.replays.get command.key = none) :
      Access (.beginRun checked)
        (store.saveReplay command.ownerID command.idempotencyKey (service.hashOf command)
          (newRun id checked.intent command.ownerID))
        (.readClock checked (newRun id checked.intent command.ownerID))
  | timed {checked : Checked} {run : ExportRun} :
      Access (.readClock checked run) store (.claimIntent checked run now)
  | claimed {checked : Checked} {run : ExportRun} {claimNow : Int} {intent : ExportIntent}
      (stored : store.intents.get checked.intent.intentID = some intent)
      (unconsumed : intent.consumedAt = none)
      (free : ∀ claim, store.intentClaims.get checked.intent.intentID = some claim →
        claim.2.1 = run.exportRunID ∨ claim.2.2 ≤ claimNow) :
      Access (.claimIntent checked run claimNow)
        { store with
          intentClaims := store.intentClaims.set checked.intent.intentID
            (command.ownerID, run.exportRunID, claimNow + service.intentTTL) }
        (.callGateway checked run)
  | refused {checked : Checked} {run run' : ExportRun} {claimNow : Int} (result : Result) :
      Access (.claimIntent checked run claimNow) store (.saveReplay run' result)
  | returned {checked : Checked} {run : ExportRun} {result : ProviderDocumentResult}
      (is : reply = .returned result) :
      Access (.callGateway checked run) store
        (.saveBinding checked run (boundTo id command.ownerID checked result))
  | failed {checked : Checked} {run : ExportRun} {error : IntegrationError}
      (is : reply = .raised error) :
      Access (.callGateway checked run) store
        (.settle checked (failedRun service.capability run error))
  | bound {checked : Checked} {run : ExportRun} {binding : ExternalDocumentBinding} :
      Access (.saveBinding checked run binding)
        { store with bindings := store.bindings.set (binding.ownerID, binding.taskID) binding }
        (.settle checked { run with status := .succeeded, bindingID := some binding.bindingID })
  | unbound {checked : Checked} {run : ExportRun} {binding other : ExternalDocumentBinding}
      {error : IntegrationError} (final : error.retryable = false)
      (found : store.bindings.get (binding.ownerID, binding.taskID) = some other) :
      Access (.saveBinding checked run binding) store
        (.settle checked (failedRun service.capability run error))
  | released {checked : Checked} {run : ExportRun} {claims : AssocMap Nat (String × Nat × Int)}
      (failed : run.status = .failed) (retryable : run.retryable = true)
      (is : claims = store.intentClaims ∨
        store.holdsClaim checked.intent.intentID command.ownerID run.exportRunID = true ∧
          claims = store.intentClaims.del checked.intent.intentID) :
      Access (.settle checked run) { store with intentClaims := claims }
        (.saveReplay run (.returned run))
  | consumed {checked : Checked} {run : ExportRun} {intent : ExportIntent}
      (final : ¬ (run.status = .failed ∧ run.retryable = true))
      (stored : store.intents.get checked.intent.intentID = some intent)
      (held : store.holdsClaim checked.intent.intentID command.ownerID run.exportRunID = true) :
      Access (.settle checked run)
        { store with
          intents := store.intents.set checked.intent.intentID { intent with consumedAt := some now }
          intentClaims := store.intentClaims.del checked.intent.intentID }
        (.saveReplay run (.returned run))
  | lost {checked : Checked} {run run' : ExportRun} (result : Result)
      (final : ¬ (run.status = .failed ∧ run.retryable = true))
      (refuses : store.consumeClaimedIntent checked.intent.intentID command.ownerID run.exportRunID
        now = none) :
      Access (.settle checked run) store (.saveReplay run' result)
  | saved {run : ExportRun} {result : Result} :
      Access (.saveReplay run result)
        (store.saveReplay command.ownerID command.idempotencyKey (service.hashOf command) run)
        (.done result)

end

theorem saveBinding_error {binding : ExternalDocumentBinding} {error : IntegrationError}
    (refused : store.saveBinding binding = .error error) : error.retryable = false ∧
      ∃ other, store.bindings.get (binding.ownerID, binding.taskID) = some other := by
  unfold ExportStore.saveBinding at refused
  split at refused
  · next found =>
    cases refused
    obtain ⟨other, stored, -⟩ := (Option.any_eq_true _ _).mp found
    exact ⟨rfl, other, stored⟩
  · cases refused

theorem saveBinding_ok {binding : ExternalDocumentBinding}
    (saved : store.saveBinding binding = .ok store') : store' =
      { store with bindings := store.bindings.set (binding.ownerID, binding.taskID) binding } := by
  unfold ExportStore.saveBinding at saved
  split at saved
  · cases saved
  · cases saved
    rfl

theorem step_access (phase : Phase) : Access service sources now id reply command store phase
    (step service sources now id reply command store phase).1
    (step service sources now id reply command store phase).2 := by
  fun_cases step service sources now id reply command store phase
  case case1 unused => exact .fresh unused
  case case9 intent found _ _ token unconsumed =>
    unfold ExportStore.getIntent at found
    repeat' split at found
    all_goals cases found
    next stored owner =>
    exact .confirmed stored (not_not.mp owner) (not_not.mp token) (by simpa using unconsumed)
  case case12 intent unexpired version => exact .unexpired (not_le.mp unexpired) (not_not.mp version)
  case case15 intent source current document same =>
    unfold currentSource at current
    repeat' split at current
    all_goals cases current
    next read completed version =>
    simp only [not_or, not_not] at same
    exact .sourced read (not_not.mp completed) (not_not.mp version) same.1 same.2.1 same.2.2
  case case17 checked binding suits => exact .suited rfl suits
  case case20 checked run unused => exact .begun unused
  case case21 checked run => exact .timed
  case case22 checked run claimNow store' claim =>
    unfold ExportStore.claimIntent at claim
    repeat' split at claim
    all_goals cases claim
    next intent stored unclaimed free =>
    refine .claimed stored (by simpa using (not_or.mp unclaimed).2) fun claim found => ?_
    rw [found, Option.any_some, decide_eq_true_eq, not_and_or, not_not, not_lt] at free
    exact free
  case case23 checked run claimNow refused => exact .refused _
  case case24 checked run result => exact .returned rfl
  case case25 checked run error => exact .failed rfl
  case case27 checked run binding error refused =>
    obtain ⟨final, other, found⟩ := saveBinding_error refused
    exact .unbound final found
  case case28 checked run binding store' saved =>
    cases saveBinding_ok saved
    exact .bound
  case case29 checked run retry =>
    unfold ExportStore.releaseIntentClaim
    split
    · next held => exact .released retry.1 retry.2 (.inr ⟨held, rfl⟩)
    · exact .released retry.1 retry.2 (.inl rfl)
  case case30 checked run final store' consumes =>
    unfold ExportStore.consumeClaimedIntent at consumes
    repeat' split at consumes
    all_goals cases consumes
    next intent stored held => exact .consumed final stored (by simpa using (not_or.mp held).1)
  case case31 checked run final refuses lost => exact .lost _ final refuses
  case case32 run result => exact .saved
  -- in the other cases the call ends and leaves the store as it is
  all_goals exact .ended _

/-! ## What is exported -/

/-- The condition held before some access of the execution. -/
def AtAccess (past : List ExportEvent) (id : Nat) (P : World → Prop) : Prop :=
  ∃ event ∈ past, (∃ reply, event.input = .access id reply) ∧ P event.before

section

variable (service : Service) (past : List ExportEvent) (id : Nat) (command : ExecuteCommand)

/-- The execution has read the intent, which was not consumed then, and has its confirmation. -/
structure IntentConfirmed (intent : ExportIntent) : Prop where
  read : AtAccess past id fun world => world.store.intents.get command.intentID = some intent
  owner : intent.ownerID = command.ownerID
  token : service.confirmationToken intent = command.confirmationToken
  unconsumed : intent.consumedAt = none

/-- The execution has read the task, and its document is the one of the intent, which was not expired. -/
structure DocumentConfirmed (checked : Checked) : Prop
    extends IntentConfirmed service past id command checked.intent where
  unexpired : AtAccess past id fun world => world.now < checked.intent.expiresAt
  sourceRead : AtAccess past id fun world =>
    world.sources checked.intent.taskID command.ownerID = .ok checked.source
  completed : checked.source.taskStatus = "COMPLETED"
  taskVersion : checked.source.taskVersion = checked.intent.taskVersion
  formatted : checked.document = service.format checked.source
  documentID : checked.source.documentID = checked.intent.documentID
  documentVersion : checked.document.documentVersion = checked.intent.documentVersion
  contentHash : checked.document.contentHash = checked.intent.contentHash

/-- What an execution up to its call of the gateway goes by is confirmed. -/
def Phase.Confirmed : Phase → Prop
  | .checkExpiry intent => IntentConfirmed service past id command intent
  | .readSource intent => IntentConfirmed service past id command intent ∧
      (AtAccess past id fun world => world.now < intent.expiresAt) ∧
      command.expectedTaskVersion = intent.taskVersion
  | .getBinding checked | .beginRun checked | .readClock checked _ | .claimIntent checked _ _
  | .callGateway checked _ => DocumentConfirmed service past id command checked
  | .getReplay | .getIntent | .saveBinding .. | .settle .. | .saveReplay .. | .done _ => True

end

section

variable {past past' : List ExportEvent}

theorem AtAccess.mono {P : World → Prop} (sub : past ⊆ past') (was : AtAccess past id P) :
    AtAccess past' id P := by
  obtain ⟨event, mem, is⟩ := was
  exact ⟨event, sub mem, is⟩

theorem IntentConfirmed.mono {intent : ExportIntent} (sub : past ⊆ past')
    (confirmed : IntentConfirmed service past id command intent) :
    IntentConfirmed service past' id command intent :=
  { confirmed with read := confirmed.read.mono sub }

theorem Phase.Confirmed.mono (sub : past ⊆ past')
    (confirmed : phase.Confirmed service past id command) :
    phase.Confirmed service past' id command := by
  have document {checked : Checked} (confirmed : DocumentConfirmed service past id command checked) :
      DocumentConfirmed service past' id command checked :=
    { confirmed with
      toIntentConfirmed := confirmed.toIntentConfirmed.mono sub
      unexpired := confirmed.unexpired.mono sub
      sourceRead := confirmed.sourceRead.mono sub }
  cases phase with
  | checkExpiry => exact IntentConfirmed.mono sub confirmed
  | readSource => exact ⟨confirmed.1.mono sub, confirmed.2.1.mono sub, confirmed.2.2⟩
  | getBinding | beginRun | readClock | claimIntent | callGateway => exact document confirmed
  | getReplay | getIntent | saveBinding | settle | saveReplay | done => trivial

theorem Access.confirmed_phase
    (access : Access service world.sources world.now id reply command world.store phase store' phase')
    (mem : Event.of (World.apply service) world (.access id reply) ∈ past)
    (before : phase.Confirmed service past id command) :
    phase'.Confirmed service past id command := by
  have here {P : World → Prop} (is : P world) : AtAccess past id P := ⟨_, mem, ⟨reply, rfl⟩, is⟩
  cases access with
  | confirmed stored owner token unconsumed => exact ⟨here stored, owner, token, unconsumed⟩
  | unexpired is version => exact ⟨before, here is, version⟩
  | sourced read completed version documentID documentVersion contentHash =>
    obtain ⟨confirmed, unexpired, same⟩ := before
    exact ⟨confirmed, unexpired, here read, completed, version.trans same, rfl, documentID,
      documentVersion, contentHash⟩
  | suited => exact { (before : DocumentConfirmed ..) with }
  | begun | timed | claimed => exact before
  | ended | fresh | refused | returned | failed | bound | unbound | released | consumed | lost
  | saved => trivial

inductive WorldStep (service : Service) (world : World) : Input → World → Prop
  | quiet {input : Input} {world' : World} (store : world'.store = world.store)
      (executions : world'.executions = world.executions) (next : world.next ≤ world'.next)
      (now : world.now ≤ world'.now) : WorldStep service world input world'
  | previewed {input : Input} {intent : ExportIntent} {replays : AssocMap (String × String) (String × Nat)}
      (named : intent.intentID = world.next)
      (expires : intent.expiresAt = world.now + service.intentTTL) :
      WorldStep service world input { world with
        store := { world.store with
          intents := world.store.intents.set world.next intent, previewReplays := replays }
        next := world.next + 1 }
  | started (command : ExecuteCommand) : WorldStep service world (.execute command) { world with
      executions := world.executions.set world.next ⟨command, .getReplay⟩, next := world.next + 1 }
  | accessed {id : Nat} {reply : GatewayReply} {execution : Execution}
      {next : ExportStore × Phase} (stored : world.executions.get id = some execution)
      (is : step service world.sources world.now id reply execution.command world.store
        execution.phase = next) :
      WorldStep service world (.access id reply) { world with
        store := next.1, executions := world.executions.set id ⟨execution.command, next.2⟩ }

theorem apply_worldStep (service : Service) (world : World) (input : Input) :
    WorldStep service world input (World.apply service input world).1 := by
  cases input with
  | preview command =>
    change WorldStep service world _ { world with store := (preview ..).1, next := _ }
    -- at most one new intent is recorded
    fun_cases preview service world.sources world.now world.next command world.store
    case case5 => exact .previewed rfl rfl
    case case6 =>
      unfold ExportStore.beginPreview
      split
      · split <;> exact .quiet rfl rfl (Nat.le_succ _) le_rfl
      · exact .previewed rfl rfl
    all_goals exact .quiet rfl rfl (Nat.le_succ _) le_rfl
  | execute command => exact .started command
  | access id reply =>
    change WorldStep service world _ (world.access service id reply)
    unfold World.access
    split
    · exact .quiet rfl rfl le_rfl le_rfl
    · next stored => exact .accessed stored rfl
  | wait time => exact .quiet rfl rfl le_rfl (Int.le_add_of_nonneg_right (Int.natCast_nonneg time))
  | change sources => exact .quiet rfl rfl le_rfl le_rfl

theorem Access.replays {key : String × String}
    (access : Access service sources now id reply command store phase store' phase')
    (used : (store.replays.get key).isSome) : (store'.replays.get key).isSome := by
  cases access with
  | begun | saved =>
    unfold ExportStore.saveReplay
    dsimp only
    rw [get_set]
    split
    · rfl
    · exact used
  | _ => exact used

/-- An execution whose idempotency key was in use when it began has ended, or is about to. -/
def Repeats (id : Nat) (command : ExecuteCommand) (world : World) : Prop :=
  (world.store.replays.get command.key).isSome ∧ id < world.next ∧
    ∃ phase, world.executions.get id = some ⟨command, phase⟩ ∧
      (phase = .getReplay ∨ ∃ result, phase = .done result)

theorem apply_repeats (input : Input) (repeats : Repeats id command world) :
    Repeats id command (World.apply service input world).1 := by
  obtain ⟨used, older, phase, stored, is⟩ := repeats
  have effect := apply_worldStep service world input
  generalize (World.apply service input world).1 = world' at effect ⊢
  cases effect with
  | quiet same executions next => exact ⟨same ▸ used, older.trans_le next, phase, executions ▸ stored, is⟩
  | previewed => exact ⟨used, Nat.lt_succ_of_lt older, phase, stored, is⟩
  | started other =>
    exact ⟨used, Nat.lt_succ_of_lt older, phase,
      (get_set_ne _ _ older.ne).trans stored, is⟩
  | @accessed other reply execution _ found same =>
    subst same
    refine ⟨(step_access execution.phase).replays used, older, ?_⟩
    by_cases own : id = other
    · subst own
      cases stored.symm.trans found
      refine ⟨_, get_set_self _ _ _, ?_⟩
      rcases is with rfl | ⟨result, rfl⟩
      · refine .inr ?_
        unfold step
        obtain ⟨⟨hash, runID⟩, found⟩ := Option.isSome_iff_exists.mp used
        rw [show world.store.replays.get (command.ownerID, command.idempotencyKey) = _ from found]
        dsimp only
        split <;> exact ⟨_, rfl⟩
      · exact .inr ⟨result, rfl⟩
    · exact ⟨phase, (get_set_ne _ _ own).trans stored, is⟩

/-- In every run of the service, with tasks that change in any way: when an execution calls the gateway,
the document is the one of an intent of the same owner and task whose confirmation it has presented, the
task was completed at the version of the intent when the execution read it, and the intent was neither
consumed nor expired when the execution checked it. An execution under an idempotency key that was in use
does not call the gateway. -/
theorem confirmed_content_exported {start : World} (empty : start.executions = ∅)
    (history : ExportHistory service (fun _ _ => True) start past world) :
    (∀ id command checked run,
      world.executions.get id = some ⟨command, .callGateway checked run⟩ →
      DocumentConfirmed service past id command checked) ∧
    ∀ event ∈ past, ∀ command, event.input = .execute command →
      (event.before.store.replays.get command.key).isSome → ∀ other checked run,
      world.executions.get event.before.next ≠ some ⟨other, .callGateway checked run⟩ := by
  constructor
  · have confirmed : ∀ id execution, world.executions.get id = some execution →
        execution.phase.Confirmed service past id execution.command := by
      have initial : ∀ id execution, start.executions.get id = some execution →
          execution.phase.Confirmed service [] id execution.command := by
        intro id execution stored
        rw [empty, get_empty] at stored
        cases stored
      refine history.invariant_events (I := fun past world => ∀ id execution,
        world.executions.get id = some execution →
          execution.phase.Confirmed service past id execution.command)
        (fun past world input _ before id execution' stored' => ?_) initial
      have older {id : Nat} {execution : Execution}
          (stored : world.executions.get id = some execution) :=
        (before id execution stored).mono (List.subset_append_left past
          [Event.of (World.apply service) world input])
      have effect := apply_worldStep service world input
      revert older stored'
      generalize (World.apply service input world).1 = world' at effect
      intro stored' older
      cases effect with
      | quiet _ executions => exact older (executions ▸ stored')
      | previewed => exact older stored'
      | started command =>
        rcases get_set_eq_some stored' with ⟨-, rfl⟩ | ⟨-, stored⟩
        · trivial
        · exact older stored
      | accessed found same =>
        rcases get_set_eq_some stored' with ⟨rfl, rfl⟩ | ⟨-, stored⟩
        · exact (same ▸ step_access _).confirmed_phase
            (List.mem_append_right _ (.head _)) (older found)
        · exact older stored
    exact fun id command checked run stored => confirmed id _ stored
  · intro event mem command input used other checked run stored
    obtain ⟨early, late, same, -, -, after⟩ := history.of_mem mem
    have repeats : Repeats event.before.next command event.after := by
      rw [same, input]
      exact ⟨used, Nat.lt_succ_self _, _, get_set_self _ _ _, .inl rfl⟩
    obtain ⟨-, -, phase, there, is⟩ := after.invariant (I := Repeats event.before.next command)
      (fun _ input _ repeats => apply_repeats input repeats) repeats
    cases there.symm.trans stored
    rcases is with is | ⟨_, is⟩ <;> cases is

end

/-! ## A sample export -/

/-- `canonical_json`, in UTF-8. -/
def canonicalBytes (fields : List (String × PyValue)) : ByteArray :=
  ((PyValue.dict fields).dumps.getD "").toUTF8

def sha256Json (fields : List (String × PyValue)) : String :=
  "sha256:" ++ Sha256.hex (canonicalBytes fields)

/-- `datetime.isoformat`, of a time in seconds. -/
def isoformat (time : Int) : String :=
  ofChars (chars (rfc3339Nano (time * 1000000000))).dropLast ++ "+00:00"

def modeText : ExportMode → String
  | .create => "CREATE"
  | .overwriteBound => "OVERWRITE_BOUND"

/-- A service whose formatter leaves the text as it is. -/
def sampleService : Service where
  formatter markdown version _ := ⟨"title", version, [markdown], Sha256.hex markdown.toUTF8⟩
  hmac intentID taskID ownerID mode taskVersion documentVersion contentHash expiresAt :=
    Sha256.hmacHex (bytesOf "confirmation-secret") (canonicalBytes [
      ("intent_id", .str (itoa intentID)), ("task_id", .str taskID), ("owner_id", .str ownerID),
      ("mode", .str (modeText mode)), ("task_version", .int taskVersion),
      ("document_version", .int documentVersion), ("content_hash", .str contentHash),
      ("expires_at", .str (isoformat expiresAt))]).data.toList
  previewHash taskID ownerID mode expectedTaskVersion := sha256Json [
    ("task_id", .str taskID), ("owner_id", .str ownerID), ("mode", .str (modeText mode)),
    ("expected_task_version", .int expectedTaskVersion)]
  executeHash intentID ownerID expectedTaskVersion expectedTaskID := sha256Json [
    ("intent_id", .str (itoa intentID)), ("owner_id", .str ownerID),
    ("expected_task_version", .int expectedTaskVersion),
    ("expected_task_id", expectedTaskID.elim .none .str)]

/-- Every task is completed. -/
def sampleWorld : World where
  sources _ _ := .ok ⟨"COMPLETED", 1, "document", 1, "text", []⟩
  now := 0

def samplePreview : Input :=
  .preview { taskID := "task", ownerID := "owner", mode := .create, expectedTaskVersion := 1 }

def sampleToken : Nat → String
  | 0 => "cfd7b522098b6976b5cc4c100a1b257cffb9fd06dc2490901e4ea7046a9e07ac"
  | _ => "d5c0ac2a0c19f5bb5389b7792aa341d4981a2f0b3bacf9522310d4997e91f5a7"

def sampleExecution (intentID : Nat) (key : String) : Input := .execute {
  intentID := intentID, confirmationToken := sampleToken intentID, ownerID := "owner"
  expectedTaskVersion := 1, idempotencyKey := key }

/-- The accesses of an execution up to its call of the gateway. -/
def upToGateway (id : Nat) : List Input := List.replicate 8 (.access id .crashed)

/-- An execution of a confirmed preview calls the gateway. -/
theorem confirmed_content_exported_preview : ∃ past world command checked run,
    ExportHistory sampleService (fun _ _ => True) sampleWorld past world ∧
    world.executions.get 1 = some ⟨command, .callGateway checked run⟩ ∧
    DocumentConfirmed sampleService past 1 command checked := by
  obtain ⟨past, world, history, ⟨command, phase⟩, stored, calls⟩ : ∃ past world,
      ExportHistory sampleService (fun _ _ => True) sampleWorld past world ∧
        ∃ execution ∈ world.executions.get 1,
          (match execution.phase with | .callGateway _ _ => true | _ => false) = true :=
    exists_run (samplePreview :: sampleExecution 0 "key" :: upToGateway 1) (by decide +kernel)
  cases phase
  case callGateway checked run =>
    exact ⟨past, world, command, checked, run, history, stored,
      (confirmed_content_exported rfl history).1 1 command checked run stored⟩
  all_goals cases calls

end PrdAgent.Export
