import PrdAgent.Library.AssocMap
import PrdAgent.Library.Transition

/-!
# Exporting documents

`ExportApplicationService` over `InMemoryExportStore` (`export/service.py`, `export/store.py`). A preview
records an intent for the document that a task has then; `execute` takes the intent, checks that it is
confirmed and that the document is still the same, claims it, and calls the document gateway.

Every method of the store is atomic, and so are reading the clock and reading the task; between any two
of them an execution may pause while others go on (`Phase`).
-/

namespace PrdAgent.Export

inductive ExportMode
  | create | overwriteBound
deriving DecidableEq

inductive ExportRunStatus
  | running | succeeded | failed | resultUnknown | manualReview
deriving DecidableEq

inductive CreateIdempotencyCapability
  | providerKey | reconcilable | none
deriving DecidableEq

inductive IntegrationErrorCode
  | unauthorized | resourceNotFound | rateLimited | timeout | providerUnavailable
  | invalidProviderResponse | resourceChanged | payloadTooLarge | idempotencyConflict | invalidState
  | confirmationRequired | resultUnknown
deriving DecidableEq

structure IntegrationError where
  code : IntegrationErrorCode
  message : String
  retryable : Bool := false
deriving DecidableEq

structure ExportSourceSnapshot where
  taskStatus : String
  taskVersion : Int
  documentID : String
  documentVersion : Int
  markdown : String
  unresolvedItems : List String := []

structure ExportDocument where
  title : String
  documentVersion : Int
  blocks : List String
  contentHash : String

structure ExportIntent where
  intentID : Nat
  taskID : String
  ownerID : String
  mode : ExportMode
  taskVersion : Int
  documentID : String
  documentVersion : Int
  contentHash : String
  expiresAt : Int
  consumedAt : Option Int := none

structure ProviderDocumentResult where
  externalID : String
  title : String
  providerRevision : Option String

structure ExternalDocumentBinding where
  bindingID : Nat
  taskID : String
  ownerID : String
  externalID : String
  displayTitle : String
  lastExportHash : String
  lastDocumentVersion : Int
  providerRevision : Option String

structure ExportRun where
  exportRunID : Nat
  intentID : Nat
  taskID : String
  ownerID : String
  mode : ExportMode
  taskVersion : Int
  documentVersion : Int
  contentHash : String
  status : ExportRunStatus
  bindingID : Option Nat := none
  errorCode : Option IntegrationErrorCode := none
  retryable : Bool := false

/-! ## The store -/

structure ExportStore where
  intents : AssocMap Nat ExportIntent := ∅
  bindings : AssocMap (String × String) ExternalDocumentBinding := ∅
  runs : AssocMap Nat ExportRun := ∅
  replays : AssocMap (String × String) (String × Nat) := ∅
  previewReplays : AssocMap (String × String) (String × Nat) := ∅
  intentClaims : AssocMap Nat (String × Nat × Int) := ∅

namespace ExportStore

def getIntent (store : ExportStore) (intentID : Nat) (ownerID : String) :
    Except IntegrationError ExportIntent :=
  match store.intents.get intentID with
  | none => .error ⟨.resourceNotFound, "export intent was not found", false⟩
  | some intent =>
    if intent.ownerID ≠ ownerID then
      .error ⟨.resourceNotFound, "export intent was not found", false⟩
    else .ok intent

def saveIntent (store : ExportStore) (intent : ExportIntent) : ExportStore :=
  { store with intents := store.intents.set intent.intentID intent }

def beginPreview (store : ExportStore) (ownerID key hash : String) (intent : ExportIntent) :
    ExportStore × Except IntegrationError ExportIntent :=
  match store.previewReplays.get (ownerID, key) with
  | some (found, intentID) =>
    if found ≠ hash then
      (store, .error ⟨.idempotencyConflict,
        "idempotency key was used with different preview input", false⟩)
    else (store, .ok ((store.intents.get intentID).getD intent))
  | none =>
    ({ store.saveIntent intent with
      previewReplays := store.previewReplays.set (ownerID, key) (hash, intent.intentID) },
      .ok intent)

def saveBinding (store : ExportStore) (binding : ExternalDocumentBinding) :
    Except IntegrationError ExportStore :=
  if (store.bindings.get (binding.ownerID, binding.taskID)).any (·.bindingID ≠ binding.bindingID) then
    .error ⟨.idempotencyConflict, "task already has a different document binding", false⟩
  else .ok { store with
    bindings := store.bindings.set (binding.ownerID, binding.taskID) binding }

def saveReplay (store : ExportStore) (ownerID key hash : String) (run : ExportRun) : ExportStore :=
  { store with
    runs := store.runs.set run.exportRunID run
    replays := store.replays.set (ownerID, key) (hash, run.exportRunID) }

def claimIntent (store : ExportStore) (intentID : Nat) (ownerID : String) (claimID : Nat)
    (now claimExpiresAt : Int) : Option ExportStore :=
  match store.intents.get intentID with
  | none => none
  | some intent =>
    if intent.ownerID ≠ ownerID ∨ intent.consumedAt.isSome then none
    else if (store.intentClaims.get intentID).any fun claim =>
        claim.2.1 ≠ claimID ∧ claim.2.2 > now then none
    else some { store with
      intentClaims := store.intentClaims.set intentID (ownerID, claimID, claimExpiresAt) }

def holdsClaim (store : ExportStore) (intentID : Nat) (ownerID : String) (claimID : Nat) : Bool :=
  (store.intentClaims.get intentID).any fun claim => claim.1 == ownerID && claim.2.1 == claimID

def releaseIntentClaim (store : ExportStore) (intentID : Nat) (ownerID : String) (claimID : Nat) :
    ExportStore :=
  if store.holdsClaim intentID ownerID claimID then
    { store with intentClaims := store.intentClaims.del intentID }
  else store

def consumeClaimedIntent (store : ExportStore) (intentID : Nat) (ownerID : String) (claimID : Nat)
    (consumedAt : Int) : Option ExportStore :=
  match store.intents.get intentID with
  | none => none
  | some intent =>
    if store.holdsClaim intentID ownerID claimID = false ∨ intent.consumedAt.isSome then none
    else some { store with
      intents := store.intents.set intentID { intent with consumedAt := some consumedAt }
      intentClaims := store.intentClaims.del intentID }

end ExportStore

/-! ## The service -/

structure ExecuteCommand where
  intentID : Nat
  confirmationToken : String
  ownerID : String
  expectedTaskVersion : Int
  idempotencyKey : String
  mode : Option ExportMode := none
  expectedTaskID : Option String := none

structure PreviewCommand where
  taskID : String
  ownerID : String
  mode : ExportMode
  expectedTaskVersion : Int
  idempotencyKey : String := ""

/-- What the service is built with. -/
structure Service where
  /-- `FeishuExportFormatter.format`, which takes the version over. -/
  formatter : String → Int → List String → ExportDocument
  /-- The HMAC of the canonical JSON of the fields that a confirmation names. -/
  hmac : (intentID : Nat) → (taskID ownerID : String) → ExportMode → (taskVersion : Int) →
    (documentVersion : Int) → (contentHash : String) → (expiresAt : Int) → String
  /-- `sha256_json` of the input of a preview. -/
  previewHash : (taskID ownerID : String) → ExportMode → (expectedTaskVersion : Int) → String
  /-- `sha256_json` of the input of an execution. -/
  executeHash : (intentID : Nat) → (ownerID : String) → (expectedTaskVersion : Int) →
    (expectedTaskID : Option String) → String
  intentTTL : Int := 600
  capability : CreateIdempotencyCapability := .none

/-- `document_source.get_export_source`, by task and owner. -/
abbrev Sources : Type := String → String → Except IntegrationError ExportSourceSnapshot

namespace Service

variable (service : Service)

def format (source : ExportSourceSnapshot) : ExportDocument :=
  { service.formatter source.markdown source.documentVersion source.unresolvedItems with
    documentVersion := source.documentVersion }

def confirmationToken (intent : ExportIntent) : String :=
  service.hmac intent.intentID intent.taskID intent.ownerID intent.mode intent.taskVersion
    intent.documentVersion intent.contentHash intent.expiresAt

def hashOf (command : ExecuteCommand) : String :=
  service.executeHash command.intentID command.ownerID command.expectedTaskVersion
    command.expectedTaskID

end Service

def currentSource (sources : Sources) (taskID ownerID : String) (expectedTaskVersion : Int) :
    Except IntegrationError ExportSourceSnapshot :=
  match sources taskID ownerID with
  | .error error => .error error
  | .ok source =>
    if source.taskStatus ≠ "COMPLETED" then
      .error ⟨.invalidState, "only completed tasks can be exported", false⟩
    else if source.taskVersion ≠ expectedTaskVersion then
      .error ⟨.resourceChanged, "task version changed", false⟩
    else .ok source

def checkBinding (mode : ExportMode) (binding : Option ExternalDocumentBinding) :
    Except IntegrationError Unit :=
  match mode, binding with
  | .create, some _ => .error ⟨.invalidState, "task already has a bound document", false⟩
  | .overwriteBound, none => .error ⟨.invalidState, "task has no bound document", false⟩
  | _, _ => .ok ()

/-- A preview, which gives the intent that it describes. -/
def preview (service : Service) (sources : Sources) (now : Int) (fresh : Nat)
    (command : PreviewCommand) (store : ExportStore) :
    ExportStore × Except IntegrationError ExportIntent :=
  let hash := service.previewHash command.taskID command.ownerID command.mode
    command.expectedTaskVersion
  match if command.idempotencyKey = "" then none
      else store.previewReplays.get (command.ownerID, command.idempotencyKey) with
  | some (found, intentID) =>
    if found ≠ hash then
      (store, .error ⟨.idempotencyConflict,
        "idempotency key was used with different preview input", false⟩)
    else (store, store.getIntent intentID command.ownerID)
  | none =>
    match currentSource sources command.taskID command.ownerID command.expectedTaskVersion with
    | .error error => (store, .error error)
    | .ok source =>
      let document := service.format source
      match checkBinding command.mode (store.bindings.get (command.ownerID, command.taskID)) with
      | .error error => (store, .error error)
      | .ok () =>
        let intent : ExportIntent := {
          intentID := fresh, taskID := command.taskID, ownerID := command.ownerID
          mode := command.mode, taskVersion := source.taskVersion
          documentID := source.documentID, documentVersion := source.documentVersion
          contentHash := document.contentHash, expiresAt := now + service.intentTTL }
        if command.idempotencyKey = "" then (store.saveIntent intent, .ok intent)
        else store.beginPreview command.ownerID command.idempotencyKey hash intent

/-! ## Executions -/

inductive GatewayReply
  | returned (result : ProviderDocumentResult)
  | raised (error : IntegrationError)
  | crashed

inductive Result
  | returned (run : ExportRun)
  | raised (error : IntegrationError)
  | crashed

/-- What an execution has read when its checks are passed. -/
structure Checked where
  intent : ExportIntent
  source : ExportSourceSnapshot
  document : ExportDocument
  binding : Option ExternalDocumentBinding := none

/-- What an execution does next. -/
inductive Phase
  | getReplay
  | getIntent
  | checkExpiry (intent : ExportIntent)
  | readSource (intent : ExportIntent)
  | getBinding (checked : Checked)
  | beginRun (checked : Checked)
  | readClock (checked : Checked) (run : ExportRun)
  | claimIntent (checked : Checked) (run : ExportRun) (claimNow : Int)
  | callGateway (checked : Checked) (run : ExportRun)
  | saveBinding (checked : Checked) (run : ExportRun) (binding : ExternalDocumentBinding)
  | settle (checked : Checked) (run : ExportRun)
  | saveReplay (run : ExportRun) (result : Result)
  | done (result : Result)

def Phase.raise (code : IntegrationErrorCode) (message : String) : Phase :=
  .done (.raised ⟨code, message, false⟩)

def newRun (id : Nat) (intent : ExportIntent) (ownerID : String) : ExportRun where
  exportRunID := id
  intentID := intent.intentID
  taskID := intent.taskID
  ownerID := ownerID
  mode := intent.mode
  taskVersion := intent.taskVersion
  documentVersion := intent.documentVersion
  contentHash := intent.contentHash
  status := .running

def boundTo (id : Nat) (ownerID : String) (checked : Checked) (result : ProviderDocumentResult) :
    ExternalDocumentBinding where
  bindingID := match checked.intent.mode, checked.binding with
    | .overwriteBound, some binding => binding.bindingID
    | _, _ => id
  taskID := checked.intent.taskID
  ownerID := ownerID
  externalID := match checked.intent.mode, checked.binding with
    | .overwriteBound, some binding => binding.externalID
    | _, _ => result.externalID
  displayTitle := result.title
  lastExportHash := checked.document.contentHash
  lastDocumentVersion := checked.document.documentVersion
  providerRevision := result.providerRevision

def failedRun (capability : CreateIdempotencyCapability) (run : ExportRun) (error : IntegrationError) :
    ExportRun :=
  let status : ExportRunStatus :=
    if error.code = .resultUnknown then
      if capability = .none then .manualReview else .resultUnknown
    else .failed
  { run with
    status := status, errorCode := some error.code
    retryable := error.retryable && status != .manualReview }

/-- The next access of an execution. Runs and bindings get the number of the execution as their
identifier. -/
def step (service : Service) (sources : Sources) (now : Int) (id : Nat) (reply : GatewayReply)
    (command : ExecuteCommand) (store : ExportStore) : Phase → ExportStore × Phase
  | .getReplay =>
    match store.replays.get (command.ownerID, command.idempotencyKey) with
    | none => (store, .getIntent)
    | some (hash, runID) =>
      if hash ≠ service.hashOf command then
        (store, .raise .idempotencyConflict "idempotency key was used with different input")
      else (store, .done (((store.runs.get runID).map .returned).getD .crashed))
  | .getIntent =>
    match store.getIntent command.intentID command.ownerID with
    | .error error => (store, .done (.raised error))
    | .ok intent =>
      if command.expectedTaskID.any (· ≠ intent.taskID) then
        (store, .raise .resourceNotFound "export intent was not found")
      else if command.mode.any (· ≠ intent.mode) then
        (store, .raise .confirmationRequired "export mode does not match the confirmed preview")
      else if service.confirmationToken intent ≠ command.confirmationToken then
        (store, .raise .confirmationRequired "export confirmation is invalid")
      else if intent.consumedAt.isSome then
        (store, .raise .confirmationRequired "export confirmation was already used")
      else (store, .checkExpiry intent)
  | .checkExpiry intent =>
    if intent.expiresAt ≤ now then
      (store, .raise .confirmationRequired "export confirmation expired")
    else if command.expectedTaskVersion ≠ intent.taskVersion then
      (store, .raise .resourceChanged "task version changed after preview")
    else (store, .readSource intent)
  | .readSource intent =>
    match currentSource sources intent.taskID command.ownerID command.expectedTaskVersion with
    | .error error => (store, .done (.raised error))
    | .ok source =>
      let document := service.format source
      if source.documentID ≠ intent.documentID ∨
          source.documentVersion ≠ intent.documentVersion ∨
          document.contentHash ≠ intent.contentHash then
        (store, .raise .resourceChanged "document changed after preview")
      else (store, .getBinding { intent := intent, source := source, document := document })
  | .getBinding checked =>
    let binding := store.bindings.get (command.ownerID, checked.intent.taskID)
    match checkBinding checked.intent.mode binding with
    | .error error => (store, .done (.raised error))
    | .ok () => (store, .beginRun { checked with binding := binding })
  | .beginRun checked =>
    let run := newRun id checked.intent command.ownerID
    match store.replays.get (command.ownerID, command.idempotencyKey) with
    | some (hash, runID) =>
      if hash ≠ service.hashOf command then
        (store, .raise .idempotencyConflict "idempotency key was used with different input")
      else (store, .done (((store.runs.get runID).map .returned).getD .crashed))
    | none =>
      (store.saveReplay command.ownerID command.idempotencyKey (service.hashOf command) run,
        .readClock checked run)
  | .readClock checked run => (store, .claimIntent checked run now)
  | .claimIntent checked run claimNow =>
    match store.claimIntent checked.intent.intentID command.ownerID run.exportRunID claimNow
        (claimNow + service.intentTTL) with
    | some store => (store, .callGateway checked run)
    | none =>
      (store, .saveReplay
        { run with status := .failed, errorCode := some .confirmationRequired }
        (.raised ⟨.confirmationRequired, "export confirmation is already being used", false⟩))
  | .callGateway checked run =>
    match reply with
    | .returned result => (store, .saveBinding checked run (boundTo id command.ownerID checked result))
    | .raised error => (store, .settle checked (failedRun service.capability run error))
    | .crashed => (store, .done .crashed)
  | .saveBinding checked run binding =>
    match store.saveBinding binding with
    | .error error => (store, .settle checked (failedRun service.capability run error))
    | .ok store =>
      (store, .settle checked
        { run with status := .succeeded, bindingID := some binding.bindingID })
  | .settle checked run =>
    if run.status = .failed ∧ run.retryable then
      (store.releaseIntentClaim checked.intent.intentID command.ownerID run.exportRunID,
        .saveReplay run (.returned run))
    else match store.consumeClaimedIntent checked.intent.intentID command.ownerID run.exportRunID
        now with
      | some store => (store, .saveReplay run (.returned run))
      | none =>
        let lost : ExportRun :=
          { run with status := .resultUnknown, errorCode := some .resultUnknown, retryable := false }
        (store, .saveReplay lost (.returned lost))
  | .saveReplay run result =>
    -- the key is recorded with this input since `begin_run`
    (store.saveReplay command.ownerID command.idempotencyKey (service.hashOf command) run,
      .done result)
  | .done result => (store, .done result)

/-! ## All executions -/

structure Execution where
  command : ExecuteCommand
  phase : Phase

structure World where
  store : ExportStore := {}
  sources : Sources
  now : Int
  executions : AssocMap Nat Execution := ∅
  next : Nat := 0

inductive Input
  | preview (command : PreviewCommand)
  | execute (command : ExecuteCommand)
  | access (id : Nat) (reply : GatewayReply)
  | wait (time : Nat)
  | change (sources : Sources)

def World.access (service : Service) (id : Nat) (reply : GatewayReply) (world : World) : World :=
  match world.executions.get id with
  | none => world
  | some execution =>
    let next := step service world.sources world.now id reply execution.command world.store
      execution.phase
    { world with
      store := next.1
      executions := world.executions.set id { execution with phase := next.2 } }

def World.apply (service : Service) : Input → World → World × Unit
  | .preview command, world =>
    ({ world with
      store := (preview service world.sources world.now world.next command world.store).1
      next := world.next + 1 }, ())
  | .execute command, world =>
    ({ world with
      executions := world.executions.set world.next ⟨command, .getReplay⟩
      next := world.next + 1 }, ())
  | .access id reply, world => (world.access service id reply, ())
  | .wait time, world => ({ world with now := world.now + time }, ())
  | .change sources, world => ({ world with sources := sources }, ())

abbrev ExportEvent : Type := Transition.Event World Input Unit

/-- The runs of the service whose inputs meet the condition. -/
abbrev ExportHistory (service : Service) (ok : World → Input → Prop) :
    World → List ExportEvent → World → Prop :=
  Transition.Run (World.apply service) ok

end PrdAgent.Export
