import PrdAgent.Library.FaultyProgram
import PrdAgent.Library.PythonJson
import PrdAgent.Runcontrol.Ledger

/-!
# The worker's execution ledger

`agent/runtime` of the Python worker: identities and outcome artifacts (`idempotency.py`,
`outcomes.py`), the run's budget (`budget.py`), and `RunExecutionLedger` (`ledger.py`), which performs
every call under an operation key, and emits each change to an event sink before it changes its index.

A call of the ledger is a program over the worker's state: what the sink has made durable, the ledger in
memory, and a record of the callbacks that were started, which the code does not have.
-/

namespace PrdAgent.Agent

open GoText Faulty
open Runcontrol (BudgetField BudgetDelta RunBudget LedgerEntryKind LedgerStatus EvidenceItem
  RunArtifact)

/-! ## Identities -/

/-- What the ledger takes from the Python runtime. -/
structure Python where
  /-- `hashlib.sha256(...).hexdigest()`. -/
  sha256Hex : ByteArray → String
  /-- `json.loads`; nothing if it raises. -/
  loads : ByteArray → Option PyValue

/-- What a call of the worker raises. -/
inductive Fault
  | valueError (message : String)
  | typeError
  | attributeError
  | outcomeUnknown (operationKey : String)
  | terminalFailure (category : String) (retryable : Bool)
  | budgetExhausted (reason : String)
  | sink
  | callback (name : String)
deriving DecidableEq

def canonicalJson (value : PyValue) : Option ByteArray := value.dumps.map String.toUTF8

namespace Python

variable (py : Python)

def taggedSha256 (value : ByteArray) : String := "sha256:" ++ py.sha256Hex value

def requestHash (value : PyValue) : Option String := (canonicalJson value).map py.taggedSha256

def outcomeArtifactKey (runID operationKey : String) : String :=
  runID ++ ":ledger:" ++ ofChars ((chars (py.sha256Hex operationKey.toUTF8)).take 32) ++ ":outcome"

/-- The runtime with the real hash, for the texts of some values. -/
def knowing (values : List PyValue) : Python where
  sha256Hex := Sha256.hex
  loads bytes := values.find? fun value =>
    (canonicalJson value).any fun text => text.data.toList == bytes.data.toList

end Python

/-- The characters of an operation key beside the colons. -/
def keyChar (ch : Char) : Bool :=
  ch.isLower || ch.isDigit || ch == '_' || ch == '.' || ch == '-'

/-- `_SAFE_OPERATION_KEY.fullmatch`: three to nine parts between colons, the first of which starts with a
letter. -/
def safeOperationKey (value : String) : Bool :=
  match (chars value).splitOn ':' with
  | [] => false
  | first :: rest =>
    (first.head?.any Char.isLower) && first.all keyChar &&
      rest.all (fun part => !part.isEmpty && part.all keyChar) &&
      decide (2 ≤ rest.length ∧ rest.length ≤ 8)

def validateOperationKey (value : String) : Except Fault Unit :=
  if 240 < (chars value).length ∨ safeOperationKey value = false then
    .error (.valueError "operation_key must be a bounded low-cardinality identity")
  else .ok ()

/-! ## Outcome artifacts -/

def encodeOutcome (schema : String) (value : PyValue) : Option ByteArray :=
  canonicalJson (.dict [("schema", .str schema), ("value", value)])

-- that of core: the whole of Mathlib has another one
local instance decidableEqContent : DecidableEq ByteArray := ByteArray.instDecidableEq

def decodeOutcome (py : Python) (content : ByteArray) (schema : String)
    (validate : PyValue → Except Fault PyValue) : Except Fault PyValue :=
  match py.loads content with
  | none => .error (.valueError "outcome artifact is not canonical JSON")
  | some (.dict items) =>
    match items.lookup "schema", items.lookup "value" with
    | some (.str found), some value =>
      if found ≠ schema then .error (.valueError "outcome artifact schema mismatch")
      else match canonicalJson (.dict items) with
        | none => .error .typeError
        | some text =>
          if text ≠ content then
            .error (.valueError "outcome artifact is not canonically encoded")
          else validate value
    | _, _ => .error (.valueError "outcome artifact schema mismatch")
  | some _ => .error .attributeError

def buildArtifact (py : Python) (key artifactType requestHash schema : String) (value : PyValue) :
    Except Fault RunArtifact :=
  match encodeOutcome schema value with
  | none => .error .typeError
  | some content => .ok {
      artifactKey := key, artifactType := artifactType, generation := 1, requestHash := requestHash
      contentHash := py.sha256Hex content, content := content }

/-! ## Budgets -/

/-- Amounts of the nine budgeted quantities. -/
structure BudgetVector where
  modelAttempts : Int := 0
  toolCalls : Int := 0
  iterations : Int := 0
  replans : Int := 0
  supplements : Int := 0
  qualityRepairs : Int := 0
  inputTokens : Int := 0
  outputTokens : Int := 0
  elapsedMS : Int := 0
deriving DecidableEq

namespace BudgetVector

def amount (vector : BudgetVector) : BudgetField → Int
  | .modelAttempts => vector.modelAttempts
  | .toolCalls => vector.toolCalls
  | .iterations => vector.iterations
  | .replans => vector.replans
  | .supplements => vector.supplements
  | .qualityRepairs => vector.qualityRepairs
  | .inputTokens => vector.inputTokens
  | .outputTokens => vector.outputTokens
  | .elapsedMS => vector.elapsedMS

def ofAmounts (f : BudgetField → Int) : BudgetVector := {
  modelAttempts := f .modelAttempts, toolCalls := f .toolCalls, iterations := f .iterations
  replans := f .replans, supplements := f .supplements, qualityRepairs := f .qualityRepairs
  inputTokens := f .inputTokens, outputTokens := f .outputTokens, elapsedMS := f .elapsedMS }

def fromProto (value : BudgetDelta) : BudgetVector :=
  ofAmounts fun field => (value.amount field).toInt

def add (left right : BudgetVector) : BudgetVector :=
  ofAmounts fun field => left.amount field + right.amount field

def subtractFloor (left right : BudgetVector) : BudgetVector :=
  ofAmounts fun field => max 0 (left.amount field - right.amount field)

/-- A message field holds 64 bits; the assignment of a number outside raises. -/
def asProto (value : BudgetVector) : Except Fault BudgetDelta :=
  if BudgetField.all.all fun field =>
      decide (-2 ^ 63 ≤ value.amount field ∧ value.amount field < 2 ^ 63) then
    .ok {
      modelAttempts := .ofInt value.modelAttempts, toolCalls := .ofInt value.toolCalls
      iterations := .ofInt value.iterations, replans := .ofInt value.replans
      supplements := .ofInt value.supplements, qualityRepairs := .ofInt value.qualityRepairs
      inputTokens := .ofInt value.inputTokens, outputTokens := .ofInt value.outputTokens
      elapsedMS := .ofInt value.elapsedMS }
  else .error (.valueError "Value out of range")

end BudgetVector

/-- The reasons of `_LIMITS`. -/
def exhaustedReason : BudgetField → String
  | .modelAttempts => "MODEL_ATTEMPT_BUDGET_EXHAUSTED"
  | .toolCalls => "TOOL_CALL_BUDGET_EXHAUSTED"
  | .iterations => "ITERATION_BUDGET_EXHAUSTED"
  | .replans => "REPLAN_BUDGET_EXHAUSTED"
  | .supplements => "SUPPLEMENT_BUDGET_EXHAUSTED"
  | .qualityRepairs => "QUALITY_REPAIR_BUDGET_EXHAUSTED"
  | .inputTokens => "INPUT_TOKEN_BUDGET_EXHAUSTED"
  | .outputTokens => "OUTPUT_TOKEN_BUDGET_EXHAUSTED"
  | .elapsedMS => "ELAPSED_TIME_BUDGET_EXHAUSTED"

structure BudgetState where
  limits : RunBudget
  consumed : BudgetVector
  reserved : BudgetVector := {}

namespace BudgetState

/-- The loop of `_check`. -/
def checkFields (limits : RunBudget) (used requested : BudgetVector) :
    List BudgetField → Except Fault Unit
  | [] => .ok ()
  | field :: rest =>
    if requested.amount field < 0 then
      .error (.valueError "budget deltas must be non-negative")
    else if (limits.limit field).toInt < used.amount field + requested.amount field then
      .error (.budgetExhausted (exhaustedReason field))
    else checkFields limits used requested rest

def check (budget : BudgetState) (used requested : BudgetVector) : Except Fault Unit :=
  checkFields budget.limits used requested BudgetField.all

def reserve (budget : BudgetState) (delta : BudgetVector) : Except Fault BudgetState :=
  match budget.check (budget.consumed.add budget.reserved) delta with
  | .error fault => .error fault
  | .ok () => .ok { budget with reserved := budget.reserved.add delta }

def finish (budget : BudgetState) (reservation consumption : BudgetVector) : BudgetState :=
  { budget with
    reserved := budget.reserved.subtractFloor reservation
    consumed := budget.consumed.add consumption }

def consume (budget : BudgetState) (delta : BudgetVector) : Except Fault BudgetState :=
  match budget.check budget.consumed delta with
  | .error fault => .error fault
  | .ok () => .ok { budget with consumed := budget.consumed.add delta }

def remaining (budget : BudgetState) : BudgetVector :=
  .ofAmounts fun field =>
    max 0 ((budget.limits.limit field).toInt - (budget.consumed.add budget.reserved).amount field)

end BudgetState

/-! ## The ledger -/

structure LedgerCallSpec where
  entryKind : LedgerEntryKind
  operation : String
  operationKey : String
  requestHash : String
  reservation : BudgetVector
  outcomeSchema : String

structure RunLedgerEntry where
  operationKey : String
  entryKind : LedgerEntryKind
  operation : String
  requestHash : String
  status : LedgerStatus
  reservation : BudgetDelta := {}
  consumption : BudgetDelta := {}
  outputArtifactKey : String := ""
  outputArtifactHash : String := ""
  evidenceRefs : List String := []
  errorCategory : String := ""
  retryable : Bool := false

structure LedgerOutcome where
  value : PyValue
  artifact : RunArtifact
  replayed : Bool
  consumption : BudgetVector

structure RunExecutionLedger where
  entries : AssocMap String RunLedgerEntry
  artifacts : AssocMap String RunArtifact
  budget : BudgetState

inductive LedgerEvent
  | reserved | callStarted | finished
deriving DecidableEq

/-- What the events that a sink takes do to what is durable. -/
structure Sink (D : Type) where
  ledger : LedgerEvent → RunLedgerEntry → D → D
  artifact : RunArtifact → D → D
  evidence : List EvidenceItem → D → D

/-- The state of a worker: what is durable, the ledger in memory, and the operation keys whose callbacks
were started, over all processes. -/
structure Worker (D : Type) where
  durable : D
  ledger : RunExecutionLedger
  started : List String

abbrev Step (D α : Type) : Type := Program (Worker D) Fault α

/-- One execution: what it is for, and what its callbacks do. -/
structure LedgerCall where
  spec : LedgerCallSpec
  kind : LedgerEntryKind
  artifactType : String
  invoke : Outcome Fault PyValue
  validate : PyValue → Except Fault PyValue
  consumption : Option (PyValue → Except Fault BudgetVector) := none
  evidence : PyValue → Except Fault (List EvidenceItem) := fun _ => .ok []

def LedgerCall.actual (call : LedgerCall) (value : PyValue) : Except Fault BudgetVector :=
  match call.consumption with
  | none => .ok call.spec.reservation
  | some consumption => consumption value

def validateSpec (spec : LedgerCallSpec) (expected : LedgerEntryKind) : Except Fault Unit :=
  match validateOperationKey spec.operationKey with
  | .error fault => .error fault
  | .ok () =>
    if spec.entryKind ≠ expected ∨ spec.operation = "" ∨
        hasPrefix spec.requestHash "sha256:" = false then
      .error (.valueError "invalid ledger call specification")
    else .ok ()

def sameIdentity (entry : RunLedgerEntry) (spec : LedgerCallSpec) : Bool :=
  entry.requestHash == spec.requestHash && entry.entryKind == spec.entryKind &&
    entry.operation == spec.operation

def assertIdentity (entry : RunLedgerEntry) (spec : LedgerCallSpec) : Except Fault Unit :=
  if sameIdentity entry spec then .ok ()
  else .error (.valueError "operation_key was reused with different input")

/-- `_entry`, with the fields of the entries that are not finished. -/
def makeEntry (spec : LedgerCallSpec) (status : LedgerStatus) (reservation consumption : BudgetVector)
    (artifact : Option RunArtifact) (evidenceRefs : List String) (errorCategory : String) :
    Except Fault RunLedgerEntry :=
  match reservation.asProto, consumption.asProto with
  | .ok reservation, .ok consumption => .ok {
      operationKey := spec.operationKey, entryKind := spec.entryKind, operation := spec.operation
      requestHash := spec.requestHash, status := status, reservation := reservation
      consumption := consumption
      outputArtifactKey := (artifact.map (·.artifactKey)).getD ""
      outputArtifactHash := (artifact.map (·.contentHash)).getD ""
      evidenceRefs := evidenceRefs, errorCategory := errorCategory, retryable := false }
  | .error fault, _ | _, .error fault => .error fault

def evidenceRef (py : Python) (item : EvidenceItem) : String :=
  "sha256:" ++ py.sha256Hex
    (joinNul [item.sourceType, item.sourceID, item.locator, item.excerptHash]).toUTF8

namespace RunExecutionLedger

def artifactKeyOf (py : Python) (runID : String) (entry : RunLedgerEntry) (operationKey : String) :
    String :=
  if entry.outputArtifactKey = "" then py.outcomeArtifactKey runID operationKey
  else entry.outputArtifactKey

def artifactFor (py : Python) (runID : String) (ledger : RunExecutionLedger) (entry : RunLedgerEntry)
    (spec : LedgerCallSpec) : Except Fault RunArtifact :=
  match ledger.artifacts.get (artifactKeyOf py runID entry spec.operationKey) with
  | none => .error (.outcomeUnknown spec.operationKey)
  | some artifact =>
    if artifact.requestHash ≠ spec.requestHash then .error (.outcomeUnknown spec.operationKey)
    else if entry.outputArtifactHash ≠ "" ∧ artifact.contentHash ≠ entry.outputArtifactHash then
      .error (.valueError "ledger outcome artifact hash mismatch")
    else .ok artifact

def setEntry (ledger : RunExecutionLedger) (entry : RunLedgerEntry) : RunExecutionLedger :=
  { ledger with entries := ledger.entries.set entry.operationKey entry }

def setArtifact (ledger : RunExecutionLedger) (artifact : RunArtifact) : RunExecutionLedger :=
  { ledger with artifacts := ledger.artifacts.set artifact.artifactKey artifact }

end RunExecutionLedger

section

variable {D : Type} (py : Python) (sink : Sink D) (runID : String)

def updateLedger (f : RunExecutionLedger → RunExecutionLedger) : Step D Unit :=
  .modify fun worker => { worker with ledger := f worker.ledger }

def emit (event : D → D) : Step D Unit :=
  .write (fun worker => { worker with durable := event worker.durable }) .sink

/-- Reserve budget for a call and record the reservation. -/
def reserveEntry (spec : LedgerCallSpec) : Step D Unit := do
  let worker ← Program.get
  let budget ← .ofExcept (worker.ledger.budget.reserve spec.reservation)
  updateLedger fun ledger => { ledger with budget := budget }
  let entry ← .ofExcept (makeEntry spec .reserved spec.reservation {} none [] "")
  emit (sink.ledger .reserved entry)
  updateLedger (·.setEntry entry)

def startEntry (spec : LedgerCallSpec) : Step D Unit := do
  let entry ← .ofExcept (makeEntry spec .callStarted spec.reservation {} none [] "")
  emit (sink.ledger .callStarted entry)
  updateLedger (·.setEntry entry)

def failEntry (spec : LedgerCallSpec) : Step D Unit := do
  let entry ← .ofExcept
    (makeEntry spec .failed spec.reservation spec.reservation none [] "REMOTE_CALL_FAILED")
  emit (sink.ledger .finished entry)
  updateLedger fun ledger =>
    { ledger with budget := ledger.budget.finish spec.reservation spec.reservation }.setEntry entry

def emitEvidence (call : LedgerCall) (value : PyValue) : Step D (List String) := do
  let items ← .ofExcept (call.evidence value)
  if items = [] then pure []
  else do
    emit (sink.evidence items)
    pure (items.map (evidenceRef py))

def finishEntry (spec : LedgerCallSpec) (artifact : RunArtifact) (evidenceRefs : List String)
    (actual : BudgetVector) : Step D Unit := do
  let entry ← .ofExcept
    (makeEntry spec .succeeded spec.reservation actual (some artifact) evidenceRefs "")
  emit (sink.ledger .finished entry)
  updateLedger fun ledger =>
    { ledger with budget := ledger.budget.finish spec.reservation actual }.setEntry entry

def answer (call : LedgerCall) : Step D PyValue := do
  let raw ← .call (fun worker =>
    { worker with started := call.spec.operationKey :: worker.started }) call.invoke
  .ofExcept (call.validate raw)

/-- The part of `_execute` from the start of the call on. -/
def performCall (call : LedgerCall) : Step D LedgerOutcome := do
  startEntry sink call.spec
  let value ← (answer call).onRaise (failEntry sink call.spec)
  let artifact ← .ofExcept (buildArtifact py (py.outcomeArtifactKey runID call.spec.operationKey)
    call.artifactType call.spec.requestHash call.spec.outcomeSchema value)
  emit (sink.artifact artifact)
  updateLedger (·.setArtifact artifact)
  let refs ← emitEvidence py sink call value
  let actual ← .ofExcept (call.actual value)
  finishEntry sink call.spec artifact refs actual
  pure { value := value, artifact := artifact, replayed := false, consumption := actual }

def finishDurableAhead (call : LedgerCall) (entry : RunLedgerEntry) : Step D LedgerOutcome := do
  let worker ← Program.get
  let artifact ← .ofExcept (worker.ledger.artifactFor py runID entry call.spec)
  let value ← .ofExcept (decodeOutcome py artifact.content call.spec.outcomeSchema call.validate)
  let refs ← emitEvidence py sink call value
  let recorded := BudgetVector.fromProto entry.consumption
  let actual := if recorded = {} then call.spec.reservation else recorded
  finishEntry sink call.spec artifact refs actual
  pure { value := value, artifact := artifact, replayed := true, consumption := actual }

def replay (call : LedgerCall) (entry : RunLedgerEntry) : Step D LedgerOutcome := do
  let worker ← Program.get
  let artifact ← .ofExcept (worker.ledger.artifactFor py runID entry call.spec)
  let value ← .ofExcept (decodeOutcome py artifact.content call.spec.outcomeSchema call.validate)
  pure { value := value, artifact := artifact, replayed := true
         consumption := .fromProto entry.consumption }

/-- What `_execute` does with an entry that it finds. -/
def resume (call : LedgerCall) (ledger : RunExecutionLedger) (entry : RunLedgerEntry) :
    Step D LedgerOutcome :=
  match entry.status with
  | .succeeded => replay py runID call entry
  | .failed => .raise (.terminalFailure entry.errorCategory entry.retryable)
  | .outcomeUnknown => .raise (.outcomeUnknown call.spec.operationKey)
  | .callStarted =>
    if (ledger.artifacts.get (RunExecutionLedger.artifactKeyOf py runID entry
        call.spec.operationKey)).isNone then
      .raise (.outcomeUnknown call.spec.operationKey)
    else finishDurableAhead py sink runID call entry
  | .reserved | .other _ => performCall py sink runID call

/-- `_execute`. -/
def execute (call : LedgerCall) : Step D LedgerOutcome := do
  .ofExcept (validateSpec call.spec call.kind)
  let worker ← Program.get
  match worker.ledger.entries.get call.spec.operationKey with
  | some entry => do
      .ofExcept (assertIdentity entry call.spec)
      resume py sink runID call worker.ledger entry
  | none => do
      reserveEntry sink call.spec
      performCall py sink runID call

def executeModel (spec : LedgerCallSpec) (invoke : Outcome Fault PyValue)
    (validate : PyValue → Except Fault PyValue)
    (consumption : Option (PyValue → Except Fault BudgetVector)) : Step D LedgerOutcome :=
  execute py sink runID {
    spec := spec, kind := .model, artifactType := "MODEL_VALIDATED_OUTPUT", invoke := invoke
    validate := validate, consumption := consumption }

def executeCapability (spec : LedgerCallSpec) (invoke : Outcome Fault PyValue)
    (normalize : PyValue → Except Fault PyValue)
    (evidence : PyValue → Except Fault (List EvidenceItem))
    (consumption : Option (PyValue → Except Fault BudgetVector)) : Step D LedgerOutcome :=
  execute py sink runID {
    spec := spec, kind := .capability, artifactType := "CAPABILITY_VALIDATED_OUTPUT"
    invoke := invoke, validate := normalize, consumption := consumption, evidence := evidence }

/-- A derivation is local: its callback is a value at hand. -/
def executeDerivation (spec : LedgerCallSpec) (derive : Outcome Fault PyValue)
    (validate : PyValue → Except Fault PyValue) (artifactType : String)
    (consumption : Option (PyValue → Except Fault BudgetVector)) : Step D LedgerOutcome :=
  if artifactType = "" ∨ 80 < (chars artifactType).length then
    .raise (.valueError "derivation artifact_type must be bounded")
  else execute py sink runID {
    spec := spec, kind := .localDerivation, artifactType := artifactType, invoke := derive
    validate := validate, consumption := consumption }

def consumeTransition (spec : LedgerCallSpec) : Step D Unit := do
  .ofExcept (validateSpec spec .localTransition)
  let worker ← Program.get
  match worker.ledger.entries.get spec.operationKey with
  | some entry => do
      .ofExcept (assertIdentity entry spec)
      if entry.status = .succeeded then pure () else .raise (.outcomeUnknown spec.operationKey)
  | none => do
      let budget ← .ofExcept (worker.ledger.budget.consume spec.reservation)
      updateLedger fun ledger => { ledger with budget := budget }
      let entry ← .ofExcept (makeEntry spec .succeeded {} spec.reservation none [] "")
      emit (sink.ledger .finished entry)
      updateLedger (·.setEntry entry)

end

/-! ## Building a ledger -/

/-- `setdefault` of every item under its key. The first item of a key stays; a later one has to agree
with it. -/
def indexItems {α : Type} (key : α → String) (agree : α → α → Bool) (conflict : String) :
    List α → AssocMap String α → Except Fault (AssocMap String α)
  | [], index => .ok index
  | item :: rest, index =>
    match index.get (key item) with
    | none => indexItems key agree conflict rest (index.set (key item) item)
    | some previous =>
      if agree previous item then indexItems key agree conflict rest index
      else .error (.valueError conflict)

def artifactIndex (items : List RunArtifact) : Except Fault (AssocMap String RunArtifact) :=
  indexItems (·.artifactKey)
    (fun previous item => previous.contentHash == item.contentHash &&
      previous.requestHash == item.requestHash)
    "conflicting durable outcome artifacts" items ∅

def ledgerIndex (items : List RunLedgerEntry) : Except Fault (AssocMap String RunLedgerEntry) :=
  indexItems (·.operationKey)
    (fun previous item => previous.requestHash == item.requestHash &&
      previous.entryKind == item.entryKind && previous.operation == item.operation)
    "conflicting durable ledger identities" items ∅

def reservedOf (items : List RunLedgerEntry) : BudgetVector :=
  items.foldl (fun reserved item =>
    if item.status = .reserved ∨ item.status = .callStarted then
      reserved.add (.fromProto item.reservation)
    else reserved) {}

/-- `RunExecutionLedger.__init__` for a run context of `run-ledger.v1`. -/
def newLedger (entries : List RunLedgerEntry) (artifacts : List RunArtifact) (limits : RunBudget)
    (consumed : BudgetDelta) : Except Fault RunExecutionLedger :=
  match ledgerIndex entries, artifactIndex artifacts with
  | .ok index, .ok artifactIndex => .ok {
      entries := index, artifacts := artifactIndex
      budget := ⟨limits, .fromProto consumed, reservedOf entries⟩ }
  | .error fault, _ | _, .error fault => .error fault

end PrdAgent.Agent
