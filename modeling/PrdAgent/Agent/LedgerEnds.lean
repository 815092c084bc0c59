import PrdAgent.Agent.AtMostOnce

/-!
# How a started call ends

The steps of `_execute` after a call is answered stand outside its exception handler. With a sink that
takes every event, a started call comes to a final entry and gives its reservation back exactly when
none of these steps raises (`started_call_concluded_iff`).
-/

namespace PrdAgent.Agent

open Faulty AssocMap
open Runcontrol (RunArtifact LedgerStatus)

variable {py : Python} {runID : String} {call : LedgerCall} {worker : Worker Durable}

/-- What the steps after the answer need of its value: it can be encoded, and the callbacks for evidence
and for consumption return, the latter an amount that a message can hold. -/
def LedgerCall.Accounts (call : LedgerCall) (value : PyValue) : Prop :=
  (encodeOutcome call.spec.outcomeSchema value).isSome ∧
  (∃ items, call.evidence value = .ok items) ∧
  ∃ actual, call.actual value = .ok actual ∧ ∃ amounts, actual.asProto = .ok amounts

/-- The call raises, or is answered with a value with which the steps after the answer do not raise. -/
def LedgerCall.Accountable (call : LedgerCall) : Prop :=
  match call.invoke with
  | .returned raw => ∀ value, call.validate raw = .ok value → call.Accounts value
  | _ => True

/-- The entry of the key is final, the call raises only if it failed, and its reservation is taken from
what counted as reserved. -/
def Concluded (spec : LedgerCallSpec) (counted : BudgetVector)
    (outcome : Outcome Fault LedgerOutcome) (worker : Worker Durable) : Prop :=
  (∃ entry, worker.ledger.entries.get spec.operationKey = some entry ∧
    (entry.status = .failed ∨ entry.status = .succeeded ∧ ∀ fault, outcome ≠ .raised fault)) ∧
  worker.ledger.budget.reserved = counted.subtractFloor spec.reservation

theorem asProto_zero : ({} : BudgetVector).asProto = .ok {} := by decide

section

attribute [local simp] bind pure Program.get Program.modify Program.raise Program.ofExcept Program.write
  Program.call Program.onRaise emit updateLedger RunExecutionLedger.setEntry
  RunExecutionLedger.setArtifact BudgetState.finish BudgetState.reserve

theorem performCall_concluded_iff (lives : call.invoke ≠ .crashed)
    (began : ((performCall py durableSink runID call).final worker []).started ≠ worker.started) :
    Concluded call.spec worker.ledger.budget.reserved
      ((performCall py durableSink runID call).outcome worker [])
      ((performCall py durableSink runID call).final worker []) ↔ call.Accountable := by
  unfold Program.outcome Program.final performCall startEntry answer failEntry buildArtifact emitEvidence
    finishEntry makeEntry at *
  cases held : call.spec.reservation.asProto with
  | error fault =>
    rw [held] at began
    exact absurd rfl began
  | ok reserved =>
  clear began
  simp only [asProto_zero]
  unfold Concluded LedgerCall.Accountable LedgerCall.Accounts
  cases invoked : call.invoke with
  | crashed => exact absurd invoked lives
  | raised fault => simp
  | returned raw =>
  cases validated : call.validate raw with
  | error fault => simp [validated]
  | ok value =>
  cases encoded : encodeOutcome call.spec.outcomeSchema value with
  | none => simp [encoded, validated]
  | some content =>
  cases given : call.evidence value with
  | error fault => simp [given, encoded, validated]
  | ok items =>
  by_cases none : items = []
  all_goals
    cases consumed : call.actual value with
    | error fault => simp [none, consumed, given, encoded, validated]
    | ok actual =>
      cases fits : actual.asProto <;> simp [none, fits, consumed, given, encoded, validated]

def countedAtStart (spec : LedgerCallSpec) (ledger : RunExecutionLedger) : BudgetVector :=
  if (ledger.entries.get spec.operationKey).isNone then ledger.budget.reserved.add spec.reservation
  else ledger.budget.reserved

/-- With a sink that takes every event, a call that starts, whose callback returns or raises, ends with a
final entry and without its reservation exactly when its answer does not make a later step raise. -/
theorem started_call_concluded_iff (lives : call.invoke ≠ .crashed)
    (began : ((execute py durableSink runID call).final worker []).started ≠ worker.started) :
    Concluded call.spec (countedAtStart call.spec worker.ledger)
        ((execute py durableSink runID call).outcome worker [])
        ((execute py durableSink runID call).final worker []) ↔ call.Accountable := by
  have quiet (entry : RunLedgerEntry) (stored) (called) :=
    began (@execute_quiet py runID call entry worker stored called worker [] rfl)
  have performs := @performCall_concluded_iff py runID call
  unfold Program.outcome Program.final execute countedAtStart at *
  cases valid : validateSpec call.spec call.kind with
  | error fault => simp [valid] at began
  | ok =>
  cases stored : worker.ledger.entries.get call.spec.operationKey with
  | none =>
    cases checked : worker.ledger.budget.check
        (worker.ledger.budget.consumed.add worker.ledger.budget.reserved) call.spec.reservation with
    | error fault => simp [valid, stored, checked, reserveEntry] at began
    | ok =>
    cases held : call.spec.reservation.asProto with
    | error fault => simp [valid, stored, checked, held, reserveEntry, makeEntry] at began
    | ok reserved =>
      simp [valid, stored, checked, held, reserveEntry, makeEntry, asProto_zero] at began ⊢
      exact performs lives began
  | some entry =>
    cases same : assertIdentity entry call.spec with
    | error fault => simp [valid, stored, same] at began
    | ok =>
    have uncalled := quiet entry stored
    unfold RunLedgerEntry.called at uncalled
    cases status : entry.status
    all_goals
      simp [valid, stored, same, resume, status, calledStatus] at began uncalled ⊢
    all_goals exact performs lives began

end

def plainWorker : Worker Durable := ⟨{}, ⟨∅, ∅, ⟨{ maxModelAttempts := 2 }, {}, {}⟩⟩, []⟩

theorem plan_concluded : Concluded planCall.spec (countedAtStart planCall.spec plainWorker.ledger)
    ((execute plainPython durableSink "run-a" planCall).outcome plainWorker [])
    ((execute plainPython durableSink "run-a" planCall).final plainWorker []) := by
  refine (started_call_concluded_iff (by simp [planCall]) (by decide +kernel)).mpr ?_
  rintro _ ⟨⟩
  exact ⟨by decide +kernel, ⟨[], rfl⟩, _, rfl, _, rfl⟩

/-- The answer reports more output tokens than a message can hold. -/
def heavyCall : LedgerCall :=
  { planCall with consumption := some fun _ => .ok { modelAttempts := 1, outputTokens := 2 ^ 63 } }

theorem heavy_call_not_concluded :
    ((execute plainPython durableSink "run-a" heavyCall).final plainWorker []).started =
      ["plan:model:one"] ∧
    ¬Concluded heavyCall.spec (countedAtStart heavyCall.spec plainWorker.ledger)
      ((execute plainPython durableSink "run-a" heavyCall).outcome plainWorker [])
      ((execute plainPython durableSink "run-a" heavyCall).final plainWorker []) := by
  have started : (((execute plainPython durableSink "run-a" heavyCall).final plainWorker
      []).ledger.entries.get heavyCall.spec.operationKey).map (·.status) = some .callStarted := by
    decide +kernel
  refine ⟨by decide +kernel, fun ⟨⟨entry, stored, ended⟩, _⟩ => ?_⟩
  rw [stored] at started
  simp_all

end PrdAgent.Agent
