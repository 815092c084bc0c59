import PrdAgent.Runcontrol.BudgetLimit

/-!
# Exact admission and growing consumption

`budgetAllows` compares sums that were computed in 64 bits. A sum of two amounts that does not fit
wraps to a negative number, which is below the limits in use. What a finished call has consumed is
reported by the worker and added without a check of its sign.
-/

namespace PrdAgent.Runcontrol

open GoInt

/-- The sum of two amounts that are not negative, as 64 bits hold it. -/
def wrappedSum (left right : Int64) : Int :=
  let sum := left.toInt + right.toInt
  if sum < 2 ^ 63 then sum else sum - 2 ^ 64

theorem toInt_add_eq_wrappedSum {left right : Int64} (nonneg : 0 ≤ left.toInt)
    (nonneg' : 0 ≤ right.toInt) : (left + right).toInt = wrappedSum left right := by
  have high := Int64.toInt_lt left
  have high' := Int64.toInt_lt right
  unfold wrappedSum
  dsimp only
  split
  · next fits => exact toInt_add (by unfold Fits; omega)
  · next wraps =>
    rw [Int64.toInt_add, Int.bmod_def]
    omega

/-- No sum of a used and a requested amount overflows, or one of the wrapped sums exceeds its
limit. -/
def AdmissionExact (policy : RunBudget) (used requested : BudgetDelta) : Prop :=
  (∀ field, (used.amount field).toInt + (requested.amount field).toInt < 2 ^ 63) ∨
    ∃ field, (policy.limit field).toInt < wrappedSum (used.amount field) (requested.amount field)

def Op.reported : Op → BudgetDelta
  | .finishLedgerEntry _ result => result.consumption
  | _ => {}

namespace MemoryStore

variable {rt : Runtime} {s t : MemoryStore} {input : Input} {policy : QueuePolicy}
  {events : List StoreEvent}

theorem LedgerSound.reserved_nonneg (sound : LedgerSound s) (runID : String)
    (field : BudgetField) : 0 ≤ ((s.budgetOf runID).reserved.amount field).toInt := by
  have balance := sound.reserved runID field
  rw [show ((s.budgetOf runID).reserved.amount field).toInt = _ from balance]
  refine AssocMap.total_nonneg fun key entry stored => ?_
  unfold LedgerAccount.counts
  split
  · split
    · exact sound.entries.amounts key entry stored field
    · exact le_refl _
  · exact le_refl _

/-- Admission is exact as long as no sum overflows, or a wrapped sum still exceeds a limit; and in
every history whose sums fit no reserved total is negative. -/
theorem budget_admission_exact (rt : Runtime) (policy : QueuePolicy) :
    (∀ limits used requested, nonNegativeBudget used = true → nonNegativeBudget requested = true →
      ((budgetAllows limits used requested = true ↔ ∀ field,
        (used.amount field).toInt + (requested.amount field).toInt ≤
          (limits.limit field).toInt) ↔ AdmissionExact limits used requested)) ∧
    ∀ events s, History rt SumsFit (newMemoryStore policy) events s →
      ∀ runID field, 0 ≤ ((s.budgetOf runID).reserved.amount field).toInt := by
  refine ⟨fun limits used requested usable nonneg => ?_,
    fun _ _ history runID field => history.ledgerSound.reserved_nonneg runID field⟩
  rw [nonNegativeBudget_iff] at usable nonneg
  have allows : budgetAllows limits used requested = true ↔ ∀ field,
      wrappedSum (used.amount field) (requested.amount field) ≤ (limits.limit field).toInt := by
    rw [budgetAllows_iff, and_iff_right nonneg]
    exact forall_congr' fun field => by rw [toInt_add_eq_wrappedSum (usable field) (nonneg field)]
  rw [allows]
  constructor
  · intro exact
    by_contra inexact
    unfold AdmissionExact at inexact
    simp only [not_or, not_exists, not_lt] at inexact
    obtain ⟨overflows, below⟩ := inexact
    refine overflows fun field => (exact.mp below field).trans_lt ?_
    exact Int64.toInt_lt (limits.limit field)
  · rintro (fits | ⟨field, above⟩)
    · refine forall_congr' fun field => ?_
      rw [wrappedSum, if_pos (fits field)]
    · have atMost : wrappedSum (used.amount field) (requested.amount field) ≤
          (used.amount field).toInt + (requested.amount field).toInt := by
        unfold wrappedSum
        dsimp only
        split <;> omega
      refine iff_of_false (fun below => ?_) fun below => ?_
      · exact absurd (below field) (not_le.mpr above)
      · exact absurd (atMost.trans (below field)) (not_le.mpr above)

def hugeReservation (toolCalls : Int64) : List Input := localAfterReserve ++ [
  ⟨.at 4 "c2", .reserveLedgerEntry firstLease {
    operationKey := "again", entryKind := .capability, operation := "web.search"
    requestHash := "h", reservation := { toolCalls := toolCalls } }⟩]

/-- Under a limit of two tool calls the largest amount is admitted on top of one. -/
theorem huge_reservation_admitted :
    budgetAllows { maxToolCalls := 2 } { toolCalls := 1 } { toolCalls := 2 ^ 63 - 1 } = true ∧
    ∃ s, Reachable (.ofKnown {}) (toolBudget 2) s ∧
      ((s.budgetOf "run-a1").reserved.amount .toolCalls).toInt < 0 :=
  ⟨by decide +kernel, stateAfter (.ofKnown {}) (toolBudget 2) (hugeReservation (2 ^ 63 - 1)),
    ⟨_, Accepts.history (by decide +kernel)⟩, by decide +kernel⟩

theorem budget_admission_exact_two_calls :
    (budgetAllows { maxToolCalls := 2 } { toolCalls := 1 } { toolCalls := 1 } = true ↔
      ∀ field, (({ toolCalls := 1 } : BudgetDelta).amount field).toInt +
        (({ toolCalls := 1 } : BudgetDelta).amount field).toInt ≤
          (({ maxToolCalls := 2 } : RunBudget).limit field).toInt) ∧
    0 ≤ (((stateAfter (.ofKnown {}) (toolBudget 2) (hugeReservation 1)).budgetOf
      "run-a1").reserved.amount .toolCalls).toInt := by
  obtain ⟨exact, kept⟩ := budget_admission_exact (.ofKnown {}) (toolBudget 2)
  refine ⟨(exact _ _ _ (by decide) (by decide)).mpr (.inl (by decide)), ?_⟩
  exact kept _ _ (Accepts.history (by decide +kernel)) _ _

/-! ## Consumption -/

def ReportsFit (s : MemoryStore) (input : Input) : Prop :=
  SumsFit s input ∧ nonNegativeBudget input.op.reported = true

instance (s : MemoryStore) (input : Input) : Decidable (ReportsFit s input) :=
  inferInstanceAs (Decidable (_ ∧ _))

theorem apply_consumed_le (fresh : Fresh s input) (fit : ReportsFit s input)
    (sound : LedgerSound s) (runID : String) (field : BudgetField) :
    ((s.budgetOf runID).consumed.amount field).toInt ≤
      (((apply rt input s).1.budgetOf runID).consumed.amount field).toInt := by
  have unused := sound.entries.unused fresh
  obtain ⟨call, op⟩ := input
  obtain ⟨sums, reported⟩ := fit
  have effect := apply_ledger rt ⟨call, op⟩ s
  generalize (apply rt ⟨call, op⟩ s).1 = t at effect ⊢
  -- one budget is written, and its consumed amounts do not shrink
  have written {at_ : String} {budget : MemoryBudgetState}
      (budgets : t.budgets = s.budgets.set at_ budget)
      (le : ((s.budgetOf at_).consumed.amount field).toInt ≤
        (budget.consumed.amount field).toInt) :
      ((s.budgetOf runID).consumed.amount field).toInt ≤
        ((t.budgetOf runID).consumed.amount field).toInt := by
    rw [budgetOf_set budgets]
    split
    · next same => exact same ▸ le
    · exact le_refl _
  have added {used amount : BudgetDelta} (nonneg : 0 ≤ (amount.amount field).toInt)
      (fits : Fits ((used.amount field).toInt + (amount.amount field).toInt)) :
      (used.amount field).toInt ≤ ((addBudget used amount).amount field).toInt := by
    rw [addBudget, BudgetDelta.amount_map₂, toInt_add fits]
    omega
  cases effect with
  | kept budgets _ =>
    unfold budgetOf
    rw [budgets]
  | opened policy budgets _ =>
    refine written budgets (le_of_eq ?_)
    refine (sound.consumed _ field).trans (LedgerAccount.sum_unused unused |>.trans ?_)
    rw [BudgetDelta.amount_empty]
    rfl
  | stepped step =>
    cases step with
    | reserved => exact written rfl (le_refl _)
    | started => exact le_refl _
    | finished =>
      exact written rfl (added (nonNegativeBudget_iff.mp reported field) (sums field _ (.head _)))
    | consumed _ _ _ allowed =>
      exact written rfl (added ((budgetAllows_iff.mp allowed).1 field) (sums field _ (.head _)))

theorem History.reported_ledgerSound
    (history : History rt ReportsFit (newMemoryStore policy) events s) : LedgerSound s :=
  History.ledgerSound (history.mono fun _ _ allowed => ⟨allowed.1, allowed.2.1⟩)

/-- In every history without overflow and without negative reports, no call lowers what a run has
consumed, and what it has consumed is never negative. -/
theorem consumed_only_grows (history : History rt ReportsFit (newMemoryStore policy) events s) :
    (∀ event ∈ events, ∀ runID field,
      ((event.before.budgetOf runID).consumed.amount field).toInt ≤
        ((event.after.budgetOf runID).consumed.amount field).toInt) ∧
    ∀ runID field, 0 ≤ ((s.budgetOf runID).consumed.amount field).toInt := by
  constructor
  · intro event mem runID field
    obtain ⟨early, late, step, allowed, before, -⟩ := history.of_mem mem
    rw [step]
    exact apply_consumed_le allowed.1 allowed.2 (History.reported_ledgerSound before) runID field
  · refine (history.invariant (I := fun s => LedgerSound s ∧ ∀ runID field,
      0 ≤ ((s.budgetOf runID).consumed.amount field).toInt) ?_
      ⟨newMemoryStore_ledgerSound policy, fun runID field => ?_⟩).2
    · rintro s input ⟨fresh, fit⟩ ⟨sound, nonneg⟩
      exact ⟨apply_ledgerSound fresh fit.1 sound, fun runID field =>
        (nonneg runID field).trans (apply_consumed_le fresh fit sound runID field)⟩
    · change 0 ≤ (({} : BudgetDelta).amount field).toInt
      rw [BudgetDelta.amount_empty]
      decide

def reportedCall (toolCalls : Int64) : List Input := localAfterReserve ++ [
  ⟨.at 4 "c2", .markLedgerCallStarted firstLease "search" "h"⟩,
  ⟨.at 5 "c3", .finishLedgerEntry firstLease {
    operationKey := "search", requestHash := "h", status := .failed
    consumption := { toolCalls := toolCalls } }⟩]

theorem negative_report_hands_back : ∃ s, Reachable (.ofKnown {}) (toolBudget 2) s ∧
    ((s.budgetOf "run-a1").consumed.amount .toolCalls).toInt = -5 :=
  ⟨stateAfter (.ofKnown {}) (toolBudget 2) (reportedCall (-5)),
    ⟨_, Accepts.history (by decide +kernel)⟩, by decide +kernel⟩

theorem consumed_only_grows_failed_call :
    ((stateAfter (.ofKnown {}) (toolBudget 2) (reportedCall 1)).budgetOf
        "run-a1").consumed.toolCalls = 1 ∧
      ∀ runID field, 0 ≤ (((stateAfter (.ofKnown {}) (toolBudget 2) (reportedCall 1)).budgetOf
        runID).consumed.amount field).toInt := by
  have accepts : Accepts (.ofKnown {}) ReportsFit (toolBudget 2) (reportedCall 1) := by
    decide +kernel
  exact ⟨by decide +kernel, (consumed_only_grows accepts.history).2⟩

end MemoryStore

end PrdAgent.Runcontrol
