import PrdAgent.Runcontrol.RunSteps

/-!
# What can happen to the ledger

Only four operations write ledger entries, and each writes at most one. A `LedgerStep` is a call of
one of them that took effect, with what it checked; every other operation leaves the entries alone, and
opens the budget of the run it creates. An entry is reserved, then its call is started, then it ends;
local transitions are stored as ended (`EntryMove`).
-/

namespace PrdAgent.Runcontrol

open AssocMap

inductive LedgerCallKind
  | reserve | start | finish | consume
deriving DecidableEq

def Op.ledgerCall? : Op → Option (LedgerCallKind × String × String)
  | .reserveLedgerEntry lease entry => some (.reserve, lease.runID, entry.operationKey)
  | .markLedgerCallStarted lease operationKey _ => some (.start, lease.runID, operationKey)
  | .finishLedgerEntry lease result => some (.finish, lease.runID, result.operationKey)
  | .consumeLocalLedgerEntry lease entry => some (.consume, lease.runID, entry.operationKey)
  | _ => none

variable {op : Op}

theorem Op.ledgerEntries_outside (other : op.ledgerCall? = none) : .ledgerEntries ∉ op.writes := by
  cases op
  case reserveLedgerEntry | markLedgerCallStarted | finishLedgerEntry | consumeLocalLedgerEntry =>
    cases other
  all_goals simp

theorem Op.budgets_outside (other : op.ledgerCall? = none)
    (creates : op.creates ≠ true) : .budgets ∉ op.writes := by
  cases op
  case reserveLedgerEntry | markLedgerCallStarted | finishLedgerEntry | consumeLocalLedgerEntry =>
    cases other
  case createTaskWithRun | retryTask | confirmOutline | confirmConfirmationUnit |
      reopenConfirmationUnit => exact absurd rfl creates
  all_goals simp

/-- The entry is past the point to which a call of this kind brings it. -/
def LedgerCallKind.Past : LedgerCallKind → LedgerEntry → Prop
  | .reserve, _ | .consume, _ => True
  | .start, entry => entry.status ≠ .reserved
  | .finish, entry => entry.status.terminal = true

/-- How one call may change what is stored under a key of the ledger. -/
inductive EntryMove (call : Call) : Option LedgerEntry → Option LedgerEntry → Prop
  | kept (entry : Option LedgerEntry) : EntryMove call entry entry
  | reserved {entry : LedgerEntry} (kind : entry.entryKind ≠ .localTransition)
      (status : entry.status = .reserved) : EntryMove call none (some entry)
  | consumed {entry : LedgerEntry} (kind : entry.entryKind = .localTransition)
      (status : entry.status = .succeeded) : EntryMove call none (some entry)
  | started {entry : LedgerEntry} (status : entry.status = .reserved) :
      EntryMove call (some entry) (some (entry.started call))
  | finished {entry : LedgerEntry} (result : LedgerFinish) (status : entry.status = .callStarted)
      (ended : result.status.terminal = true) :
      EntryMove call (some entry) (some (entry.finished call result))

variable {entry : LedgerEntry}

theorem EntryMove.past {call : Call} {kind : LedgerCallKind}
    {after : Option LedgerEntry} (move : EntryMove call (some entry) after)
    (past : kind.Past entry) : ∃ moved, after = some moved ∧ kind.Past moved := by
  cases move with
  | kept => exact ⟨entry, rfl, past⟩
  | started status =>
    refine ⟨_, rfl, ?_⟩
    cases kind with
    | reserve => trivial
    | consume => trivial
    | start => exact absurd status past
    | finish =>
      have ended : entry.status.terminal = true := past
      rw [status] at ended
      cases ended
  | finished result status ended =>
    refine ⟨_, rfl, ?_⟩
    cases kind with
    | reserve => trivial
    | consume => trivial
    | start =>
      intro reserved
      have same : result.status = .reserved := reserved
      rw [same] at ended
      cases ended
    | finish => exact ended

namespace MemoryStore

variable (rt : Runtime) (call : Call)

/-- The run of the lease is stored, and the lease is valid now. -/
def Leased (s : MemoryStore) (lease : LeaseContext) : Prop :=
  ∃ run, s.runs.get lease.runID = some run ∧ validLease run lease call.now = true

/-- A ledger call took effect. -/
inductive LedgerStep (s : MemoryStore) : Op → MemoryStore → Prop
  | reserved {lease : LeaseContext} {entry : LedgerEntry} (leased : Leased call s lease)
      (unused : s.ledgerEntries.get (ledgerMapKey lease.runID entry.operationKey) = none)
      (kind : entry.entryKind ≠ .localTransition)
      (allowed : budgetAllows (s.budgetOf lease.runID).policy
        (addBudget (s.budgetOf lease.runID).reserved (s.budgetOf lease.runID).consumed)
        entry.reservation = true) :
      LedgerStep s (.reserveLedgerEntry lease entry) { s with
        budgets := s.budgets.set lease.runID
          ((s.budgetOf lease.runID).reserve entry.reservation)
        ledgerEntries := s.ledgerEntries.set (ledgerMapKey lease.runID entry.operationKey)
          (entry.reserved rt call lease.runID) }
  | started {lease : LeaseContext} {operationKey requestHash : String} {entry : LedgerEntry}
      (stored : s.ledgerEntries.get (ledgerMapKey lease.runID operationKey) = some entry)
      (status : entry.status = .reserved) :
      LedgerStep s (.markLedgerCallStarted lease operationKey requestHash) { s with
        ledgerEntries := s.ledgerEntries.set (ledgerMapKey lease.runID operationKey)
          (entry.started call) }
  | finished {lease : LeaseContext} {result : LedgerFinish} {entry : LedgerEntry}
      (leased : Leased call s lease)
      (stored : s.ledgerEntries.get (ledgerMapKey lease.runID result.operationKey) = some entry)
      (status : entry.status = .callStarted) (ended : result.status.terminal = true) :
      LedgerStep s (.finishLedgerEntry lease result) { s with
        budgets := s.budgets.set lease.runID
          ((s.budgetOf lease.runID).settle entry.reservation result.consumption)
        ledgerEntries := s.ledgerEntries.set (ledgerMapKey lease.runID result.operationKey)
          (entry.finished call result) }
  | consumed {lease : LeaseContext} {entry : LedgerEntry} (leased : Leased call s lease)
      (unused : s.ledgerEntries.get (ledgerMapKey lease.runID entry.operationKey) = none)
      (kind : entry.entryKind = .localTransition)
      (allowed : budgetAllows (s.budgetOf lease.runID).policy (s.budgetOf lease.runID).consumed
        entry.consumption = true) :
      LedgerStep s (.consumeLocalLedgerEntry lease entry) { s with
        budgets := s.budgets.set lease.runID ((s.budgetOf lease.runID).consume entry.consumption)
        ledgerEntries := s.ledgerEntries.set (ledgerMapKey lease.runID entry.operationKey)
          (entry.consumed rt call lease.runID) }

/-- The entry of a ledger call is stored, and past the point to which the call brings it. -/
def Recorded (s : MemoryStore) (kind : LedgerCallKind) (runID operationKey : String) : Prop :=
  ∃ entry, s.ledgerEntries.get (ledgerMapKey runID operationKey) = some entry ∧ kind.Past entry

/-- A ledger call is refused, or repeats a recorded one, or takes effect. -/
inductive LedgerOutcome (s : MemoryStore) (op : Op) : Outcome Reply → Prop
  | refused (err : StoreError) : LedgerOutcome s op (s, .error err)
  | repeated {kind : LedgerCallKind} {runID operationKey : String}
      (about : op.ledgerCall? = some (kind, runID, operationKey))
      (recorded : Recorded s kind runID operationKey) (reply : Reply) :
      LedgerOutcome s op (s, .ok reply)
  | changed {t : MemoryStore} (step : LedgerStep rt call s op t) (reply : Reply) :
      LedgerOutcome s op (t, .ok reply)

/-- What an operation can do to the budgets and the entries. -/
inductive LedgerEffect (s : MemoryStore) (op : Op) : MemoryStore → Prop
  | kept {t : MemoryStore} (budgets : t.budgets = s.budgets)
      (entries : t.ledgerEntries = s.ledgerEntries) : LedgerEffect s op t
  | opened {t : MemoryStore} (policy : RunBudget)
      (budgets : t.budgets = s.budgets.set (call.newID "run")
        { policy := policy, startedAt := call.now })
      (entries : t.ledgerEntries = s.ledgerEntries) : LedgerEffect s op t
  | stepped {t : MemoryStore} (step : LedgerStep rt call s op t) : LedgerEffect s op t

variable {rt call}

variable {s : MemoryStore} {kind : LedgerCallKind} {runID operationKey : String} {input : Input}

theorem validateLedgerMutationLocked_ok {lease : LeaseContext} {run : AgentRun}
    (valid : s.validateLedgerMutationLocked call lease entry = .ok run) : Leased call s lease := by
  unfold validateLedgerMutationLocked at valid
  split at valid
  · cases valid
  · next held leased => exact ⟨held, validateLeaseLocked_ok leased⟩

section

variable (rt call s) in
abbrev Ends (op : Op) : Prop := LedgerOutcome rt call s op (apply rt ⟨call, op⟩ s)

variable {lease : LeaseContext}

theorem reserveLedgerEntry_outcome : Ends rt call s (.reserveLedgerEntry lease entry) := by
  dsimp only [Ends, apply, replying]
  fun_cases reserveLedgerEntry rt call lease entry s <;> try exact .refused _
  · next existing stored _ =>
    exact .repeated rfl (show Recorded s .reserve _ _ from ⟨existing, stored, trivial⟩) _
  · next valid _ _ unused _ kind _ allowed _ =>
    have leased := validateLedgerMutationLocked_ok valid
    exact .changed (.reserved leased unused kind (by simpa using allowed)) _

theorem markLedgerCallStarted_outcome {requestHash : String} :
    Ends rt call s (.markLedgerCallStarted lease operationKey requestHash) := by
  dsimp only [Ends, apply, replying]
  fun_cases markLedgerCallStarted call lease operationKey requestHash s <;> try exact .refused _
  · next entry stored _ started =>
    have past : LedgerCallKind.start.Past entry := by
      intro reserved
      rw [started] at reserved
      cases reserved
    exact .repeated rfl ⟨entry, stored, past⟩ _
  · next stored _ _ reserved => exact .changed (.started stored (not_not.mp reserved)) _

theorem finishLedgerEntry_outcome {result : LedgerFinish} :
    Ends rt call s (.finishLedgerEntry lease result) := by
  dsimp only [Ends, apply, replying]
  fun_cases finishLedgerEntry rt call lease result s <;> try exact .refused _
  · next entry stored _ ended _ =>
    exact .repeated rfl (show Recorded s .finish _ _ from ⟨entry, stored, ended⟩) _
  · next run leased _ _ stored _ _ started _ _ _ _ =>
    simp only [not_or, ne_eq, not_not, Bool.not_eq_false] at started
    exact .changed (.finished ⟨run, validateLeaseLocked_ok leased⟩ stored started.1 started.2) _

theorem consumeLocalLedgerEntry_outcome : Ends rt call s (.consumeLocalLedgerEntry lease entry) := by
  dsimp only [Ends, apply, replying]
  fun_cases consumeLocalLedgerEntry rt call lease entry s <;> try exact .refused _
  · next existing stored _ =>
    exact .repeated rfl (show Recorded s .consume _ _ from ⟨existing, stored, trivial⟩) _
  · next valid kind _ unused _ _ allowed _ =>
    have leased := validateLedgerMutationLocked_ok valid
    exact .changed (.consumed leased unused (not_not.mp kind) (by simpa using allowed)) _

end

/-! ## Calls as operations of the store -/

theorem apply_ledgerCall (rt : Runtime) (s : MemoryStore)
    (about : input.op.ledgerCall? = some (kind, runID, operationKey)) :
    Ends rt input.call s input.op := by
  obtain ⟨call, op⟩ := input
  cases op
  case reserveLedgerEntry => exact reserveLedgerEntry_outcome
  case markLedgerCallStarted => exact markLedgerCallStarted_outcome
  case finishLedgerEntry => exact finishLedgerEntry_outcome
  case consumeLocalLedgerEntry => exact consumeLocalLedgerEntry_outcome
  all_goals cases about

theorem LedgerStep.not_recorded {t : MemoryStore} (step : LedgerStep rt call s op t)
    (about : op.ledgerCall? = some (kind, runID, operationKey)) :
    ¬ Recorded s kind runID operationKey := by
  rintro ⟨entry, stored, past⟩
  cases step with
  | reserved leased unused | consumed leased unused =>
    cases about
    rw [unused] at stored
    cases stored
  | started found status =>
    cases about
    cases found.symm.trans stored
    exact past status
  | finished leased found status =>
    cases about
    cases found.symm.trans stored
    have ended : entry.status.terminal = true := past
    rw [status] at ended
    cases ended

theorem recorded_of_ok {reply : Reply}
    (about : input.op.ledgerCall? = some (kind, runID, operationKey))
    (succeeded : (apply rt input s).2 = .ok reply) :
    Recorded (apply rt input s).1 kind runID operationKey := by
  have ways := apply_ledgerCall rt s about
  dsimp only [Ends] at ways
  generalize apply rt input s = outcome at succeeded ways ⊢
  obtain ⟨call, op⟩ := input
  cases ways with
  | refused err => cases succeeded
  | repeated about' recorded =>
    cases about.symm.trans about'
    exact recorded
  | changed step =>
    cases step with
    | reserved | consumed =>
      cases about
      exact ⟨_, get_set_self _ _ _, trivial⟩
    | started =>
      cases about
      exact ⟨_, get_set_self _ _ _, by simp [LedgerCallKind.Past, LedgerEntry.started]⟩
    | finished leased found status ended =>
      cases about
      exact ⟨_, get_set_self _ _ _, ended⟩

/-! ## Every operation -/

theorem apply_ledger (rt : Runtime) (input : Input) (s : MemoryStore) :
    LedgerEffect rt input.call s input.op (apply rt input s).1 := by
  cases about : input.op.ledgerCall? with
  | some about' =>
    obtain ⟨kind, runID, operationKey⟩ := about'
    have ways := apply_ledgerCall rt s about
    dsimp only [Ends] at ways
    generalize apply rt input s = outcome at ways ⊢
    cases ways with
    | refused | repeated => exact .kept rfl rfl
    | changed step => exact .stepped step
  | none =>
    have entries := apply_frame rt input s .ledgerEntries (Op.ledgerEntries_outside about)
    by_cases creates : input.op.creates = true
    · cases apply_creation rt input s creates with
      | none _ _ _ budgets => exact .kept budgets entries
      | @one provision origin provides =>
        have budgets := provides.budgets
        obtain ⟨_, _, _, _, _, _, is, -⟩ := origin.newRun
        rw [is, initializeBudgetLocked] at budgets
        split at budgets
        · exact .opened provision.budget budgets entries
        · exact .kept budgets entries
    · exact .kept (apply_frame rt input s .budgets (Op.budgets_outside about creates)) entries

theorem apply_entryMove (rt : Runtime) (input : Input) (s : MemoryStore) (key : String) :
    EntryMove input.call (s.ledgerEntries.get key) ((apply rt input s).1.ledgerEntries.get key) := by
  obtain ⟨call, op⟩ := input
  have effect := apply_ledger rt ⟨call, op⟩ s
  generalize (apply rt ⟨call, op⟩ s).1 = t at effect ⊢
  dsimp only at effect ⊢
  -- a step writes one key, and moves the entry there
  have written {changed : String} {entry : LedgerEntry}
      (moved : EntryMove call (s.ledgerEntries.get changed) (some entry)) :
      EntryMove call (s.ledgerEntries.get key)
        ((s.ledgerEntries.set changed entry).get key) := by
    rw [get_set]
    split
    · next same => exact same ▸ moved
    · exact .kept _
  cases effect with
  | kept _ entries | opened _ _ entries => exact entries ▸ .kept _
  | stepped step =>
    cases step with
    | reserved _ unused kind => exact written (unused ▸ .reserved kind rfl)
    | started stored status => exact written (stored ▸ .started status)
    | finished _ stored status ended => exact written (stored ▸ .finished _ status ended)
    | consumed _ unused kind => exact written (unused ▸ .consumed kind rfl)

theorem Recorded.apply
    (recorded : Recorded s kind runID operationKey) (rt : Runtime) (input : Input) :
    Recorded (MemoryStore.apply rt input s).1 kind runID operationKey := by
  obtain ⟨entry, stored, past⟩ := recorded
  have move := apply_entryMove rt input s (ledgerMapKey runID operationKey)
  rw [stored] at move
  exact move.past past

end MemoryStore

end PrdAgent.Runcontrol
