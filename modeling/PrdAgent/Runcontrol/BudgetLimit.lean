import PrdAgent.Runcontrol.LedgerAccounting

/-!
# The budget limit

A reservation is admitted against what is reserved and consumed together, a local transition
against what is consumed only. So a reservation never commits more than the budget, and a local
transition does exactly when it takes units that are already reserved.
-/

namespace PrdAgent.Runcontrol

open GoInt

/-- The run, the operation key and the amount of a call that asks for budget. -/
def Op.budgetRequest? : Op → Option (String × String × BudgetDelta)
  | .reserveLedgerEntry lease entry => some (lease.runID, entry.operationKey, entry.reservation)
  | .consumeLocalLedgerEntry lease entry =>
    some (lease.runID, entry.operationKey, entry.consumption)
  | _ => none

def Op.isLocalTransition : Op → Bool
  | .consumeLocalLedgerEntry .. => true
  | _ => false

def MemoryBudgetState.WithinLimits (budget : MemoryBudgetState) : Prop :=
  ∀ field, (budget.reserved.amount field).toInt + (budget.consumed.amount field).toInt ≤
    (budget.policy.limit field).toInt

/-- The sums of the totals and a requested amount fit in 64 bits. -/
def MemoryBudgetState.FitsWith (budget : MemoryBudgetState) (requested : BudgetDelta) : Prop :=
  ∀ field,
    let reserved := (budget.reserved.amount field).toInt
    let consumed := (budget.consumed.amount field).toInt
    let amount := (requested.amount field).toInt
    Fits (reserved + consumed) ∧ Fits (reserved + consumed + amount) ∧
      Fits (reserved + amount) ∧ Fits (consumed + amount)

instance (budget : MemoryBudgetState) (requested : BudgetDelta) :
    Decidable (budget.FitsWith requested) :=
  inferInstanceAs (Decidable (∀ _, Fits _ ∧ Fits _ ∧ Fits _ ∧ Fits _))

namespace MemoryBudgetState

variable {budget : MemoryBudgetState} {requested : BudgetDelta}

/-- The check that counts reserved and consumed amounts together is exact when the sums fit. -/
theorem budgetAllows_all_iff (fit : budget.FitsWith requested) :
    budgetAllows budget.policy (addBudget budget.reserved budget.consumed) requested = true ↔
      (∀ field, 0 ≤ (requested.amount field).toInt) ∧
      ∀ field, (budget.reserved.amount field).toInt + (budget.consumed.amount field).toInt +
        (requested.amount field).toInt ≤ (budget.policy.limit field).toInt := by
  rw [budgetAllows_iff]
  refine and_congr_right fun _ => forall_congr' fun field => ?_
  obtain ⟨both, all, -, -⟩ := fit field
  have used : ((addBudget budget.reserved budget.consumed).amount field).toInt =
      (budget.reserved.amount field).toInt + (budget.consumed.amount field).toInt := by
    rw [addBudget, BudgetDelta.amount_map₂]
    exact toInt_add both
  rw [toInt_add (by rw [used]; exact all), used]

theorem withinLimits_iff (fit : budget.FitsWith requested) {after : MemoryBudgetState}
    (is : after = budget.reserve requested ∨ after = budget.consume requested) :
    after.WithinLimits ↔
      ∀ field, (budget.reserved.amount field).toInt + (budget.consumed.amount field).toInt +
        (requested.amount field).toInt ≤ (budget.policy.limit field).toInt := by
  rcases is with rfl | rfl <;> refine forall_congr' fun field => ?_
  all_goals
    obtain ⟨-, -, reserved, consumed⟩ := fit field
    simp only [MemoryBudgetState.reserve, MemoryBudgetState.consume, addBudget,
      BudgetDelta.amount_map₂, toInt_add reserved, toInt_add consumed]
    omega

end MemoryBudgetState

namespace MemoryStore

/-- A newly admitted entry leaves its run's totals within the policy, unless it is a local
transition that a reservation of the same amount would have been refused for. -/
theorem budget_within_limits_iff (rt : Runtime) (s : MemoryStore) (input : Input)
    {runID operationKey : String} {requested : BudgetDelta} {budget : MemoryBudgetState}
    (asks : input.op.budgetRequest? = some (runID, operationKey, requested))
    (unused : s.ledgerEntries.get (ledgerMapKey runID operationKey) = none)
    (admitted : ((apply rt input s).1.ledgerEntries.get
      (ledgerMapKey runID operationKey)).isSome = true)
    (fit : (s.budgetOf runID).FitsWith requested)
    (after : (apply rt input s).1.budgets.get runID = some budget) :
    budget.WithinLimits ↔ (input.op.isLocalTransition = true →
      budgetAllows (s.budgetOf runID).policy
        (addBudget (s.budgetOf runID).reserved (s.budgetOf runID).consumed) requested = true) := by
  obtain ⟨call, op⟩ := input
  have effect := apply_ledger rt ⟨call, op⟩ s
  generalize (apply rt ⟨call, op⟩ s).1 = t at effect admitted after
  cases effect with
  | kept _ entries | opened _ _ entries =>
    rw [entries, unused] at admitted
    cases admitted
  | stepped step =>
    cases step with
    | reserved leased unused' kind allowed =>
      cases asks
      cases (AssocMap.get_set_self _ _ _).symm.trans after
      rw [MemoryBudgetState.withinLimits_iff fit (.inl rfl)]
      have within := ((MemoryBudgetState.budgetAllows_all_iff fit).mp allowed).2
      constructor
      · intro _ other
        cases other
      · intro _
        exact within
    | started | finished => cases asks
    | consumed leased unused' kind allowed =>
      cases asks
      cases (AssocMap.get_set_self _ _ _).symm.trans after
      rw [MemoryBudgetState.withinLimits_iff fit (.inr rfl), MemoryBudgetState.budgetAllows_all_iff fit]
      have nonneg := (budgetAllows_iff.mp allowed).1
      exact ⟨fun within _ => ⟨nonneg, within⟩, fun counted => (counted rfl).2⟩

def localAfterReserve : List Input := [
  ⟨.at 1 "a1", .createTaskWithRun "tenant" "ann" "write a PRD" "start"⟩,
  ⟨.at 2 "b1", .acquireRun "run-a1" "worker" 2 50⟩,
  ⟨.at 3 "c1", .reserveLedgerEntry firstLease {
    operationKey := "search", entryKind := .capability, operation := "web.search"
    requestHash := "h", reservation := { toolCalls := 1 } }⟩]

def localTransition : Input :=
  ⟨.at 4 "c2", .consumeLocalLedgerEntry firstLease {
    operationKey := "merge", entryKind := .localTransition, operation := "merge"
    requestHash := "h", consumption := { toolCalls := 1 } }⟩

/-- Under a limit of one tool call, the reservation and the local transition commit two. -/
theorem local_transition_overcommits : ∃ s budget,
    Reachable (.ofKnown {}) (toolBudget 1) s ∧
    s.ledgerEntries.get (ledgerMapKey "run-a1" "merge") = none ∧
    ((apply (.ofKnown {}) localTransition s).1.ledgerEntries.get
      (ledgerMapKey "run-a1" "merge")).isSome = true ∧
    (apply (.ofKnown {}) localTransition s).1.budgets.get "run-a1" = some budget ∧
    (budget.reserved.amount .toolCalls).toInt + (budget.consumed.amount .toolCalls).toInt >
      (budget.policy.limit .toolCalls).toInt := by
  simp only [exists_and_left]
  exact exists_reachable localAfterReserve (by decide +kernel)

theorem budget_within_limits_iff_two_calls :
    ∃ budget : MemoryBudgetState, budget.reserved.toolCalls = 1 ∧ budget.consumed.toolCalls = 1 ∧
      budget.policy.maxToolCalls = 2 ∧ budget.WithinLimits := by
  obtain ⟨budget, stored, reserved, consumed, limit⟩ : ∃ budget ∈ (apply (.ofKnown {}) localTransition
      (stateAfter (.ofKnown {}) (toolBudget 2) localAfterReserve)).1.budgets.get "run-a1",
        budget.reserved.toolCalls = 1 ∧ budget.consumed.toolCalls = 1 ∧
        budget.policy.maxToolCalls = 2 := by
    decide +kernel
  refine ⟨budget, reserved, consumed, limit, ?_⟩
  exact (budget_within_limits_iff (.ofKnown {}) _ localTransition rfl (by decide +kernel)
    (by decide +kernel) (by decide +kernel) stored).mpr fun _ => by decide +kernel

end MemoryStore

end PrdAgent.Runcontrol
