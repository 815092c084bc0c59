import PrdAgent.Runcontrol.Store

/-!
# The run execution ledger

Budgets and the four ledger operations of `memory_store.go`: reserve an entry, mark its remote call
as started, finish it, and consume budget for a local transition. Budget amounts are `int64` and
wrap on overflow, as in the code.
-/

namespace PrdAgent.Runcontrol

open GoText

/-! ## Budget arithmetic -/

/-- Combine two deltas field by field. -/
def BudgetDelta.map₂ (f : Int64 → Int64 → Int64) (left right : BudgetDelta) : BudgetDelta := {
  modelAttempts := f left.modelAttempts right.modelAttempts
  toolCalls := f left.toolCalls right.toolCalls
  iterations := f left.iterations right.iterations
  replans := f left.replans right.replans
  supplements := f left.supplements right.supplements
  qualityRepairs := f left.qualityRepairs right.qualityRepairs
  inputTokens := f left.inputTokens right.inputTokens
  outputTokens := f left.outputTokens right.outputTokens
  elapsedMS := f left.elapsedMS right.elapsedMS }

def BudgetField.all : List BudgetField :=
  [.modelAttempts, .toolCalls, .iterations, .replans, .supplements, .qualityRepairs,
    .inputTokens, .outputTokens, .elapsedMS]

@[simp] theorem BudgetDelta.amount_map₂ (f : Int64 → Int64 → Int64) (left right : BudgetDelta)
    (field : BudgetField) :
    (map₂ f left right).amount field = f (left.amount field) (right.amount field) := by
  cases field <;> rfl

@[simp] theorem BudgetDelta.amount_empty (field : BudgetField) :
    ({} : BudgetDelta).amount field = 0 := by
  cases field <;> rfl

theorem BudgetField.mem_all (field : BudgetField) : field ∈ BudgetField.all := by
  cases field <;> decide

instance {p : BudgetField → Prop} [DecidablePred p] : Decidable (∀ field, p field) :=
  decidable_of_iff (∀ field ∈ BudgetField.all, p field)
    ⟨fun all field => all field field.mem_all, fun all field _ => all field⟩

def max64 (left right : Int64) : Int64 := if left > right then left else right

def addBudget (left right : BudgetDelta) : BudgetDelta :=
  BudgetDelta.map₂ (fun a b => a + b) left right

def subtractBudgetFloor (left right : BudgetDelta) : BudgetDelta :=
  BudgetDelta.map₂ (fun a b => if a - b < 0 then 0 else a - b) left right

def nonNegativeBudget (value : BudgetDelta) : Bool :=
  BudgetField.all.all fun field => decide (0 ≤ value.amount field)

def budgetAllows (limit : RunBudget) (used requested : BudgetDelta) : Bool :=
  nonNegativeBudget requested &&
    BudgetField.all.all fun field =>
      decide ((addBudget used requested).amount field ≤ limit.limit field)

def RunBudget.asDelta (limit : RunBudget) : BudgetDelta := {
  modelAttempts := limit.maxModelAttempts, toolCalls := limit.maxToolCalls
  iterations := limit.maxIterations, replans := limit.maxReplans
  supplements := limit.maxSupplements, qualityRepairs := limit.maxQualityRepairs
  inputTokens := limit.maxInputTokens, outputTokens := limit.maxOutputTokens
  elapsedMS := limit.maxElapsedMS }

@[simp] theorem RunBudget.amount_asDelta (limit : RunBudget) (field : BudgetField) :
    limit.asDelta.amount field = limit.limit field := by
  cases field <;> rfl

theorem nonNegativeBudget_iff {value : BudgetDelta} :
    nonNegativeBudget value = true ↔ ∀ field, 0 ≤ (value.amount field).toInt := by
  unfold nonNegativeBudget
  simp only [List.all_eq_true, decide_eq_true_eq, Int64.le_iff_toInt_le]
  exact ⟨fun all field => all field field.mem_all, fun all field _ => all field⟩

theorem budgetAllows_iff {limit : RunBudget} {used requested : BudgetDelta} :
    budgetAllows limit used requested = true ↔
      (∀ field, 0 ≤ (requested.amount field).toInt) ∧
      ∀ field, (used.amount field + requested.amount field).toInt ≤
        (limit.limit field).toInt := by
  unfold budgetAllows addBudget
  simp only [Bool.and_eq_true, nonNegativeBudget_iff, List.all_eq_true, decide_eq_true_eq,
    Int64.le_iff_toInt_le, BudgetDelta.amount_map₂]
  exact and_congr_right fun _ => ⟨fun all field => all field field.mem_all,
    fun all field _ => all field⟩

def budgetOverage (limit : RunBudget) (consumed : BudgetDelta) : BudgetDelta :=
  BudgetDelta.map₂ (fun c l => max64 0 (c - l)) consumed limit.asDelta

/-- `now.Sub(start).Milliseconds()`; `Sub` saturates at the range of a duration. -/
def elapsedMilliseconds (now start : Time) : Int :=
  (max (-2 ^ 63) (min (2 ^ 63 - 1) (now - start))).tdiv 1000000

def elapsedBudgetExhausted (budget : MemoryBudgetState) (now : Time) : Bool :=
  decide (elapsedMilliseconds now budget.startedAt > budget.policy.maxElapsedMS.toInt)

/-! ## Entries -/

def ledgerMapKey (runID operationKey : String) : String := joinKey runID operationKey

def validLedgerKind (kind : LedgerEntryKind) : Bool :=
  kind == .model || kind == .capability || kind == .localTransition || kind == .localDerivation

def sameLedgerIdentity (left right : LedgerEntry) : Bool :=
  left.operationKey == right.operationKey && left.entryKind == right.entryKind &&
    left.operation == right.operation && left.requestHash == right.requestHash

def sameLedgerFinish (entry : LedgerEntry) (result : LedgerFinish) : Bool :=
  entry.status == result.status && entry.outputArtifactKey == result.outputArtifactKey &&
    entry.outputArtifactHash == result.outputArtifactHash &&
    entry.errorCategory == result.errorCategory && entry.retryable == result.retryable &&
    entry.consumption == result.consumption &&
    joinNul entry.evidenceRefs == joinNul result.evidenceRefs

def LedgerStatus.terminal (status : LedgerStatus) : Bool :=
  status == .succeeded || status == .failed || status == .outcomeUnknown

def evidenceReference (rt : Runtime) (sourceType sourceID locator excerptHash : String) : String :=
  "sha256:" ++ rt.stableHash (joinNul [sourceType, sourceID, locator, excerptHash])

def LedgerEntry.reserved (rt : Runtime) (call : Call) (runID : String) (entry : LedgerEntry) :
    LedgerEntry :=
  { entry with
    entryID := "ledger-" ++ rt.stableHash (ledgerMapKey runID entry.operationKey), runID := runID
    status := .reserved, consumption := {}, createdAt := call.now, updatedAt := call.now }

def LedgerEntry.started (call : Call) (entry : LedgerEntry) : LedgerEntry :=
  { entry with status := .callStarted, callStartedAt := some call.now, updatedAt := call.now }

def LedgerEntry.finished (call : Call) (entry : LedgerEntry) (result : LedgerFinish) :
    LedgerEntry :=
  { entry with
    status := result.status, consumption := result.consumption
    outputArtifactKey := result.outputArtifactKey, outputArtifactHash := result.outputArtifactHash
    evidenceRefs := result.evidenceRefs, errorCategory := result.errorCategory
    retryable := result.retryable, completedAt := some call.now, updatedAt := call.now }

def LedgerEntry.consumed (rt : Runtime) (call : Call) (runID : String) (entry : LedgerEntry) :
    LedgerEntry :=
  { entry with
    entryID := "ledger-" ++ rt.stableHash (ledgerMapKey runID entry.operationKey), runID := runID
    status := .succeeded, reservation := {}, createdAt := call.now, completedAt := some call.now
    updatedAt := call.now }

def MemoryBudgetState.reserve (budget : MemoryBudgetState) (amount : BudgetDelta) :
    MemoryBudgetState :=
  { budget with reserved := addBudget budget.reserved amount }

/-- The budget with a reservation given back and an amount consumed. -/
def MemoryBudgetState.settle (budget : MemoryBudgetState) (reservation consumption : BudgetDelta) :
    MemoryBudgetState :=
  { budget with
    reserved := subtractBudgetFloor budget.reserved reservation
    consumed := addBudget budget.consumed consumption
    overage := budgetOverage budget.policy (addBudget budget.consumed consumption) }

def MemoryBudgetState.consume (budget : MemoryBudgetState) (amount : BudgetDelta) :
    MemoryBudgetState :=
  { budget with consumed := addBudget budget.consumed amount }

namespace MemoryStore

variable (rt : Runtime) (call : Call)

def budgetOf (s : MemoryStore) (runID : String) : MemoryBudgetState :=
  (s.budgets.get runID).getD {}

def hasEvidenceRefLocked (s : MemoryStore) (runID ref : String) : Bool :=
  s.evidence.values.any fun item => item.runID == runID &&
    evidenceReference rt item.sourceType item.sourceID item.locator item.excerptHash == ref

def validateLedgerMutationLocked (s : MemoryStore) (lease : LeaseContext) (entry : LedgerEntry) :
    Except StoreError AgentRun :=
  match s.validateLeaseLocked lease call.now with
  | .error err => .error err
  | .ok run =>
    if run.executionLedgerVersion ≠ .v1 then
      .error ⟨.ledgerConflict, "run does not use run-ledger.v1"⟩
    else if entry.operationKey = "" ∨ entry.operation = "" ∨ entry.requestHash = "" ∨
        validLedgerKind entry.entryKind = false ∨ nonNegativeBudget entry.reservation = false ∨
        nonNegativeBudget entry.consumption = false then
      .error ⟨.invalidPayload, ""⟩
    else .ok run

/-! ## Operations -/

def isShadowLocked (s : MemoryStore) (runID : String) : Bool :=
  match s.rolloutAssignments.get runID with
  | none => false
  | some assignment => assignment.evaluationMode == .shadow

def reserveLedgerEntry (lease : LeaseContext) (entry : LedgerEntry) (s : MemoryStore) :
    Outcome LedgerEntry :=
  match s.validateLedgerMutationLocked call lease entry with
  | .error err => (s, .error err)
  | .ok _ =>
  if s.isShadowLocked lease.runID ∧ (entry.entryKind = .model ∨ entry.entryKind = .capability) then
    fail s .noRemoteEffects "SHADOW_REMOTE_EFFECT_FORBIDDEN"
  else
  let key := ledgerMapKey lease.runID entry.operationKey
  match s.ledgerEntries.get key with
  | some existing =>
    if sameLedgerIdentity existing entry = false then fail s .invalidIdempotency
    else (s, .ok existing)
  | none =>
  let budget := s.budgetOf lease.runID
  if entry.entryKind = .localTransition then
    fail s .ledgerConflict "local transition must use ConsumeLocalLedgerEntry"
  else if elapsedBudgetExhausted budget call.now then fail s .budgetExhausted
  else if budgetAllows budget.policy (addBudget budget.reserved budget.consumed)
      entry.reservation = false then
    fail s .budgetExhausted
  else
    let reserved := entry.reserved rt call lease.runID
    ({ s with
        budgets := s.budgets.set lease.runID (budget.reserve entry.reservation)
        ledgerEntries := s.ledgerEntries.set key reserved },
      .ok reserved)

def markLedgerCallStarted (lease : LeaseContext) (operationKey requestHash : String)
    (s : MemoryStore) : Outcome LedgerEntry :=
  match s.validateLeaseLocked lease call.now with
  | .error err => (s, .error err)
  | .ok _ =>
  let key := ledgerMapKey lease.runID operationKey
  match s.ledgerEntries.get key with
  | none => fail s .notFound
  | some entry =>
  if entry.requestHash ≠ requestHash then fail s .invalidIdempotency
  else if entry.status = .callStarted then (s, .ok entry)
  else if entry.status ≠ .reserved then fail s .ledgerConflict
  else
    ({ s with ledgerEntries := s.ledgerEntries.set key (entry.started call) },
      .ok (entry.started call))

/-- The outcome artifact a successful finish refers to is stored with the same hashes. -/
def artifactDurableLocked (s : MemoryStore) (runID : String) (result : LedgerFinish) : Bool :=
  match s.artifacts.get (joinKey runID result.outputArtifactKey) with
  | none => false
  | some artifact => artifact.contentHash == result.outputArtifactHash &&
      artifact.requestHash == result.requestHash

def finishLedgerEntry (lease : LeaseContext) (result : LedgerFinish) (s : MemoryStore) :
    Outcome LedgerEntry :=
  match s.validateLeaseLocked lease call.now with
  | .error err => (s, .error err)
  | .ok _ =>
  let key := ledgerMapKey lease.runID result.operationKey
  match s.ledgerEntries.get key with
  | none => fail s .notFound
  | some entry =>
  if entry.requestHash ≠ result.requestHash then fail s .invalidIdempotency
  else if entry.status.terminal then
    if sameLedgerFinish entry result = false then fail s .ledgerConflict else (s, .ok entry)
  else if entry.status ≠ .callStarted ∨ result.status.terminal = false then
    fail s .ledgerConflict
  else if result.status = .succeeded ∧ result.outputArtifactKey = "" then
    fail s .ledgerConflict "successful remote entry requires an outcome artifact"
  else if result.status = .succeeded ∧ s.artifactDurableLocked lease.runID result = false then
    fail s .ledgerConflict "referenced outcome artifact is not durable"
  else if result.status = .succeeded ∧
      (result.evidenceRefs.any fun ref => !s.hasEvidenceRefLocked rt lease.runID ref) then
    fail s .ledgerConflict "referenced evidence is not durable"
  else
    let budget := s.budgetOf lease.runID
    ({ s with
        budgets := s.budgets.set lease.runID (budget.settle entry.reservation result.consumption)
        ledgerEntries := s.ledgerEntries.set key (entry.finished call result) },
      .ok (entry.finished call result))

def consumeLocalLedgerEntry (lease : LeaseContext) (entry : LedgerEntry) (s : MemoryStore) :
    Outcome LedgerEntry :=
  match s.validateLedgerMutationLocked call lease entry with
  | .error err => (s, .error err)
  | .ok _ =>
  if entry.entryKind ≠ .localTransition then fail s .ledgerConflict
  else
  let key := ledgerMapKey lease.runID entry.operationKey
  match s.ledgerEntries.get key with
  | some existing =>
    if sameLedgerIdentity existing entry = false then fail s .invalidIdempotency
    else (s, .ok existing)
  | none =>
  let budget := s.budgetOf lease.runID
  if elapsedBudgetExhausted budget call.now then fail s .budgetExhausted
  -- the check leaves the reserved amounts out, unlike the one of `reserveLedgerEntry`
  else if budgetAllows budget.policy budget.consumed entry.consumption = false then
    fail s .budgetExhausted
  else
    let consumed := entry.consumed rt call lease.runID
    ({ s with
        budgets := s.budgets.set lease.runID (budget.consume entry.consumption)
        ledgerEntries := s.ledgerEntries.set key consumed },
      .ok consumed)

end MemoryStore

end PrdAgent.Runcontrol
