import PrdAgent.Library.GoInt
import PrdAgent.Runcontrol.LedgerSteps

/-!
# Budget accounting

The store keeps the reserved and the consumed amounts of a run as running totals: reserved is the sum
over the entries whose call has not ended, consumed the sum over those whose call has (`Balanced`).
Giving back a reservation is a subtraction floored at zero, and the floor is never reached because an
entry's reservation is part of the sum.
-/

namespace PrdAgent.Runcontrol

open GoInt GoText AssocMap

def LedgerStatus.outstanding (status : LedgerStatus) : Bool :=
  status == .reserved || status == .callStarted

theorem LedgerStatus.outstanding_of_terminal {status : LedgerStatus}
    (ended : status.terminal = true) : status.outstanding = false := by
  cases status <;> first | rfl | cases ended

/-- One of the totals kept for a run, with the entries and the amounts it is the sum of. -/
structure LedgerAccount where
  total : MemoryBudgetState → BudgetDelta
  counted : LedgerStatus → Bool
  amounts : LedgerEntry → BudgetDelta

def reservedAccount : LedgerAccount :=
  ⟨MemoryBudgetState.reserved, LedgerStatus.outstanding, LedgerEntry.reservation⟩

def consumedAccount : LedgerAccount :=
  ⟨MemoryBudgetState.consumed, LedgerStatus.terminal, LedgerEntry.consumption⟩

variable {budget : MemoryBudgetState} {key runID : String}

namespace LedgerAccount

variable (account : LedgerAccount)

def counts (field : BudgetField) (entry : LedgerEntry) : Int :=
  if account.counted entry.status then ((account.amounts entry).amount field).toInt else 0

def sum (entries : GoMap LedgerEntry) (runID : String) (field : BudgetField) : Int :=
  entries.total fun _ entry => if entry.runID = runID then account.counts field entry else 0

variable {account} {field : BudgetField} {entry : LedgerEntry}

theorem counts_of_counted (counted : account.counted entry.status = true) :
    account.counts field entry = ((account.amounts entry).amount field).toInt :=
  if_pos counted

theorem counts_of_not_counted (not : account.counted entry.status = false) :
    account.counts field entry = 0 :=
  if_neg (by simp [not])

/-- Storing an entry of a run where there was none, or another of the same run, moves the run's
sum by what the entries count for, and no other sum. -/
theorem sum_set {entries : GoMap LedgerEntry} (mine : entry.runID = runID)
    (before : ∀ old, entries.get key = some old → old.runID = runID) (other : String) :
    account.sum (entries.set key entry) other field = account.sum entries other field +
      if other = runID then
        account.counts field entry - (entries.get key).elim 0 (account.counts field) else 0 := by
  have moved := total_set entries
    (fun _ entry => if entry.runID = other then account.counts field entry else 0) key entry
  unfold sum
  rw [mine] at moved
  cases stored : entries.get key with
  | none =>
    rw [stored] at moved
    simp only [Option.elim_none, add_zero, sub_zero, eq_comm] at moved ⊢
    exact moved
  | some old =>
    rw [stored] at moved
    simp only [Option.elim_some, before old stored] at moved ⊢
    by_cases same : other = runID
    · rw [if_pos same.symm, if_pos same.symm] at moved
      rw [if_pos same]
      omega
    · rw [if_neg (Ne.symm same), if_neg (Ne.symm same)] at moved
      rw [if_neg same]
      omega

theorem sum_unused {entries : GoMap LedgerEntry}
    (unused : ∀ key entry, entries.get key = some entry → entry.runID ≠ runID) :
    account.sum entries runID field = 0 :=
  total_eq_zero fun key entry stored => if_neg (unused key entry stored)

/-- The stored totals are the sums over the entries. -/
def Balanced (account : LedgerAccount) (s : MemoryStore) : Prop :=
  ∀ runID field, ((account.total (s.budgetOf runID)).amount field).toInt =
    account.sum s.ledgerEntries runID field

variable {s t : MemoryStore}

theorem Balanced.post (balanced : account.Balanced s)
    (budgets : ∀ other, t.budgetOf other = if other = runID then budget else s.budgetOf other)
    (entries : t.ledgerEntries = s.ledgerEntries.set key entry) (mine : entry.runID = runID)
    (before : ∀ old, s.ledgerEntries.get key = some old → old.runID = runID)
    (moved : ∀ field, ((account.total budget).amount field).toInt =
      ((account.total (s.budgetOf runID)).amount field).toInt +
        (account.counts field entry - (s.ledgerEntries.get key).elim 0 (account.counts field))) :
    account.Balanced t := by
  intro other field
  have balance := balanced other field
  rw [budgets, entries, sum_set mine before, ← balance]
  split
  · next same =>
    subst same
    exact moved field
  · exact (add_zero _).symm

end LedgerAccount

theorem MemoryStore.budgetOf_set {s t : MemoryStore}
    (budgets : t.budgets = s.budgets.set runID budget)
    (other : String) : t.budgetOf other = if other = runID then budget else s.budgetOf other := by
  unfold budgetOf
  rw [budgets, get_set]
  split <;> rfl

theorem MemoryStore.budgetOf_kept {s t : MemoryStore} (budgets : t.budgets = s.budgets)
    (runID other : String) :
    t.budgetOf other = if other = runID then s.budgetOf runID else s.budgetOf other := by
  unfold budgetOf
  rw [budgets]
  split
  · next same => rw [same]
  · rfl

namespace MemoryStore

/-- The stored entries: each is under its own key, belongs to a stored run, and holds no negative
amount. -/
structure EntriesSound (s : MemoryStore) : Prop where
  runs : NulFreeRuns s.runs
  keys : ∀ key entry, s.ledgerEntries.get key = some entry →
    key = ledgerMapKey entry.runID entry.operationKey
  owned : ∀ key entry, s.ledgerEntries.get key = some entry →
    ∃ run, s.runs.get entry.runID = some run
  amounts : ∀ key entry, s.ledgerEntries.get key = some entry → ∀ field,
    0 ≤ (entry.reservation.amount field).toInt

/-- The exact results of the sums and differences that a ledger call computes for a field, the
give-back of a reservation apart. -/
def ledgerSums (s : MemoryStore) (field : BudgetField) : Op → List Int
  | .reserveLedgerEntry lease entry =>
    let budget := s.budgetOf lease.runID
    let reserved := (budget.reserved.amount field).toInt
    let consumed := (budget.consumed.amount field).toInt
    let requested := (entry.reservation.amount field).toInt
    [reserved + consumed, reserved + consumed + requested, reserved + requested]
  | .finishLedgerEntry lease result =>
    let budget := s.budgetOf lease.runID
    let total := (budget.consumed.amount field).toInt + (result.consumption.amount field).toInt
    [total, total - (budget.policy.limit field).toInt]
  | .consumeLocalLedgerEntry lease entry =>
    let budget := s.budgetOf lease.runID
    [(budget.consumed.amount field).toInt + (entry.consumption.amount field).toInt]
  | _ => []

/-- No sum that the call computes overflows. -/
def SumsFit (s : MemoryStore) (input : Input) : Prop :=
  ∀ field, ∀ sum ∈ s.ledgerSums field input.op, Fits sum

instance (s : MemoryStore) (input : Input) : Decidable (SumsFit s input) :=
  inferInstanceAs (Decidable (∀ field, ∀ sum ∈ s.ledgerSums field input.op, Fits sum))

variable {rt : Runtime} {call : Call} {s t : MemoryStore} {input : Input}

/-! ## The entries stay sound -/

variable {entry : LedgerEntry}

theorem EntriesSound.set (sound : EntriesSound s)
    (runs : t.runs = s.runs) (entries : t.ledgerEntries = s.ledgerEntries.set key entry)
    (under : key = ledgerMapKey entry.runID entry.operationKey)
    (owned : ∃ run, s.runs.get entry.runID = some run)
    (amounts : ∀ field, 0 ≤ (entry.reservation.amount field).toInt) : EntriesSound t := by
  have found {other : String} {e : LedgerEntry} (stored : t.ledgerEntries.get other = some e) :
      (other = key ∧ e = entry) ∨ s.ledgerEntries.get other = some e := by
    rw [entries] at stored
    exact (get_set_eq_some stored).imp_right And.right
  refine ⟨runs ▸ sound.runs, ?_, ?_, ?_⟩
  · intro other e stored
    rcases found stored with ⟨rfl, rfl⟩ | stored
    · exact under
    · exact sound.keys other e stored
  · intro other e stored
    rw [runs]
    rcases found stored with ⟨rfl, rfl⟩ | stored
    · exact owned
    · exact sound.owned other e stored
  · intro other e stored
    rcases found stored with ⟨rfl, rfl⟩ | stored
    · exact amounts
    · exact sound.amounts other e stored

theorem LedgerStep.sound {op : Op} (step : LedgerStep rt call s op t) (sound : EntriesSound s) :
    EntriesSound t := by
  cases step with
  | reserved leased unused kind allowed =>
    obtain ⟨run, present, -⟩ := leased
    exact sound.set rfl rfl rfl ⟨run, present⟩ (budgetAllows_iff.mp allowed).1
  | started stored status | finished leased stored status ended =>
    have under := sound.keys _ _ stored
    have owned := sound.owned _ _ stored
    have amounts := sound.amounts _ _ stored
    exact sound.set rfl rfl under owned amounts
  | consumed leased unused kind allowed =>
    obtain ⟨run, present, -⟩ := leased
    refine sound.set rfl rfl rfl ⟨run, present⟩ fun field => ?_
    rw [LedgerEntry.consumed, BudgetDelta.amount_empty]
    exact le_refl _

theorem EntriesSound.unused (sound : EntriesSound s) (fresh : Fresh s input) (key : String)
    (entry : LedgerEntry) (stored : s.ledgerEntries.get key = some entry) :
    entry.runID ≠ input.call.newID "run" := by
  intro same
  obtain ⟨run, present⟩ := sound.owned key entry stored
  rw [same, fresh.2.1] at present
  cases present

theorem apply_entriesSound (keyed : s.runs.Keyed AgentRun.runID) (fresh : Fresh s input)
    (sound : EntriesSound s) : EntriesSound (apply rt input s).1 := by
  have runs := apply_nulFreeRuns rt keyed fresh sound.runs
  have kept {runID : String} (stored : ∃ run, s.runs.get runID = some run) := by
    have kept {runs : GoMap AgentRun} (changed : String) (updated : AgentRun)
        (stored : ∃ run, runs.get runID = some run) :
        ∃ run, (runs.set changed updated).get runID = some run := by
      rw [get_set]
      split
      · exact ⟨updated, rfl⟩
      · exact stored
    refine (apply_runs rt keyed fresh).keeps (P := fun runs => ∃ run, runs.get runID = some run)
      (fun step stored => ?_) (fun step stored => ?_) stored
    · obtain ⟨changed, _, updated, -, rfl, -⟩ := step.eq_set
      exact kept changed updated stored
    · obtain ⟨changed, updated, rfl, -⟩ := step.eq_set
      exact kept changed updated stored
  cases apply_ledger rt input s with
  | kept _ entries | opened _ _ entries =>
    exact ⟨runs, entries ▸ sound.keys,
      fun key entry stored => kept (sound.owned key entry (entries ▸ stored)), entries ▸ sound.amounts⟩
  | stepped step => exact step.sound sound

/-! ## The totals stay balanced -/

theorem LedgerStep.balanced {op : Op} (step : LedgerStep rt call s op t) (sound : EntriesSound s)
    (fit : SumsFit s ⟨call, op⟩) (reserved : reservedAccount.Balanced s)
    (consumed : consumedAccount.Balanced s) :
    reservedAccount.Balanced t ∧ consumedAccount.Balanced t := by
  cases step with
  | @reserved lease entry leased unused kind allowed =>
    refine ⟨reserved.post (budgetOf_set rfl) rfl rfl (by simp [unused]) fun field => ?_,
      consumed.post (budgetOf_set rfl) rfl rfl (by simp [unused]) fun field => ?_⟩
    · have exact := toInt_add (fit field _ (.tail _ (.tail _ (.head _))))
      rw [unused, LedgerAccount.counts_of_counted rfl]
      simpa [reservedAccount, MemoryBudgetState.reserve, addBudget, LedgerEntry.reserved]
        using exact
    · rw [unused, LedgerAccount.counts_of_not_counted rfl]
      simp [consumedAccount, MemoryBudgetState.reserve]
  | @started lease key _ entry stored status =>
    have mine : ∀ old, s.ledgerEntries.get _ = some old → old.runID = entry.runID :=
      fun old present => Option.some.inj (present.symm.trans stored) ▸ rfl
    -- the entry counts for the same before and after
    have same {account : LedgerAccount} {field : BudgetField}
        (counted : account.counted .callStarted = account.counted .reserved)
        (amounts : account.amounts (entry.started call) = account.amounts entry) :
        account.counts field (entry.started call) = account.counts field entry := by
      unfold LedgerAccount.counts
      rw [amounts, status, ← counted]
      rfl
    refine ⟨reserved.post (budgetOf_kept (s := s) rfl entry.runID) rfl rfl mine fun field => ?_,
      consumed.post (budgetOf_kept (s := s) rfl entry.runID) rfl rfl mine fun field => ?_⟩
    all_goals rw [stored, Option.elim_some, same rfl rfl, sub_self, add_zero]
  | @finished lease result entry leased stored status ended =>
    obtain ⟨run, present, -⟩ := leased
    obtain ⟨owner, owned⟩ := sound.owned _ _ stored
    have mine : entry.runID = lease.runID := (joinKey_inj (sound.runs _ _ present)
      (sound.runs _ _ owned) (sound.keys _ _ stored)).1.symm
    have before : ∀ old, s.ledgerEntries.get _ = some old → old.runID = lease.runID :=
      fun old present => Option.some.inj (present.symm.trans stored) ▸ mine
    have outstanding : entry.status.outstanding = true := by rw [status]; rfl
    have unspent : entry.status.terminal = false := by rw [status]; rfl
    refine ⟨reserved.post (budgetOf_set rfl) rfl mine before fun field => ?_,
      consumed.post (budgetOf_set rfl) rfl mine before fun field => ?_⟩
    · -- the floor of the subtraction is not reached
      have part :
          (entry.reservation.amount field).toInt ≤
            ((s.budgetOf entry.runID).reserved.amount field).toInt := by
        have balance := reserved entry.runID field
        have part := le_total (f := fun _ other =>
          if other.runID = entry.runID then reservedAccount.counts field other else 0) stored ?_
        · rw [if_pos rfl, LedgerAccount.counts_of_counted outstanding] at part
          exact part.trans_eq balance.symm
        · intro other e present
          have amount := sound.amounts other e present field
          unfold LedgerAccount.counts
          split
          · split
            · exact amount
            · exact le_refl _
          · exact le_refl _
      rw [mine] at part
      have given := toInt_sub_floor (sound.amounts _ _ stored field) part
      have held : reservedAccount.counts field entry = (entry.reservation.amount field).toInt :=
        LedgerAccount.counts_of_counted outstanding
      have freed : reservedAccount.counts field (entry.finished call result) = 0 :=
        LedgerAccount.counts_of_not_counted (LedgerStatus.outstanding_of_terminal ended)
      rw [stored, Option.elim_some, held, freed, zero_sub]
      simp only [reservedAccount, MemoryBudgetState.settle, subtractBudgetFloor,
        BudgetDelta.amount_map₂, given]
      omega
    · have exact := toInt_add (fit field _ (.head _))
      have before : consumedAccount.counts field entry = 0 :=
        LedgerAccount.counts_of_not_counted unspent
      rw [stored, Option.elim_some, before, LedgerAccount.counts_of_counted ended, sub_zero]
      simpa [consumedAccount, MemoryBudgetState.settle, addBudget, LedgerEntry.finished]
        using exact
  | @consumed lease entry leased unused kind allowed =>
    refine ⟨reserved.post (budgetOf_set rfl) rfl rfl (by simp [unused]) fun field => ?_,
      consumed.post (budgetOf_set rfl) rfl rfl (by simp [unused]) fun field => ?_⟩
    · rw [unused, LedgerAccount.counts_of_not_counted rfl]
      simp [reservedAccount, MemoryBudgetState.consume]
    · have exact := toInt_add (fit field _ (.head _))
      rw [unused, LedgerAccount.counts_of_counted rfl]
      simpa [consumedAccount, MemoryBudgetState.consume, addBudget, LedgerEntry.consumed]
        using exact

/-! ## Histories -/

/-- Everything about the ledger that every call keeps. -/
structure LedgerSound (s : MemoryStore) : Prop where
  keyed : s.runs.Keyed AgentRun.runID
  entries : EntriesSound s
  reserved : reservedAccount.Balanced s
  consumed : consumedAccount.Balanced s

theorem opened_balanced {account : LedgerAccount} (balanced : account.Balanced s)
    (budgets : t.budgets = s.budgets.set runID budget)
    (entries : t.ledgerEntries = s.ledgerEntries) (zero : account.total budget = {})
    (unused : ∀ key entry, s.ledgerEntries.get key = some entry → entry.runID ≠ runID) :
    account.Balanced t := by
  intro other field
  rw [budgetOf_set budgets, entries]
  split
  · next same =>
    subst same
    rw [LedgerAccount.sum_unused unused, zero, BudgetDelta.amount_empty]
    rfl
  · exact balanced other field

theorem apply_ledgerSound (fresh : Fresh s input) (fit : SumsFit s input) (sound : LedgerSound s) :
    LedgerSound (apply rt input s).1 := by
  obtain ⟨keyed, entriesSound, reserved, consumed⟩ := sound
  have keyed' := apply_keyed rt fresh keyed
  have sound' : EntriesSound (apply rt input s).1 := apply_entriesSound keyed fresh entriesSound
  have unused := entriesSound.unused fresh
  cases apply_ledger rt input s with
  | kept budgets entries =>
    have kept {account : LedgerAccount} (balanced : account.Balanced s) :
        account.Balanced (apply rt input s).1 := by
      intro runID field
      unfold budgetOf
      rw [budgets, entries]
      exact balanced runID field
    exact ⟨keyed', sound', kept reserved, kept consumed⟩
  | opened policy budgets entries =>
    exact ⟨keyed', sound', opened_balanced reserved budgets entries rfl unused,
      opened_balanced consumed budgets entries rfl unused⟩
  | stepped step =>
    obtain ⟨reserved, consumed⟩ := step.balanced entriesSound fit reserved consumed
    exact ⟨keyed', sound', reserved, consumed⟩

theorem newMemoryStore_balanced (policy : QueuePolicy) {account : LedgerAccount}
    (zero : account.total {} = {}) : account.Balanced (newMemoryStore policy) := by
  intro runID field
  have empty : (newMemoryStore policy).budgetOf runID = {} := rfl
  rw [empty, zero, BudgetDelta.amount_empty]
  rfl

theorem newMemoryStore_ledgerSound (policy : QueuePolicy) : LedgerSound (newMemoryStore policy) := by
  refine ⟨.empty _, ⟨?_, ?_, ?_, ?_⟩, newMemoryStore_balanced policy rfl,
    newMemoryStore_balanced policy rfl⟩
  all_goals
    intro key value stored
    cases stored

theorem History.ledgerSound {policy : QueuePolicy} {events : List StoreEvent}
    (history : History rt SumsFit (newMemoryStore policy) events s) : LedgerSound s :=
  history.invariant (I := LedgerSound)
    (fun _ _ allowed sound => apply_ledgerSound allowed.1 allowed.2 sound)
    (newMemoryStore_ledgerSound policy)

/-- Budget accounting, over every history whose sums fit in 64 bits. The totals of every budget are
the sums over the run's entries; a finish that changes an entry leaves the overage exact; entries
move only forward, and those whose call has ended never change; and a ledger call that succeeded
changes nothing when it is made again. -/
theorem ledger_accounted {policy : QueuePolicy} {events : List StoreEvent}
    (history : History rt SumsFit (newMemoryStore policy) events s) :
    (∀ runID budget, s.budgets.get runID = some budget → ∀ field,
      (budget.reserved.amount field).toInt = reservedAccount.sum s.ledgerEntries runID field ∧
      (budget.consumed.amount field).toInt = consumedAccount.sum s.ledgerEntries runID field) ∧
    (∀ event ∈ events, ∀ lease result, event.input.op = .finishLedgerEntry lease result →
      event.after.ledgerEntries ≠ event.before.ledgerEntries →
      ∃ budget, event.after.budgets.get lease.runID = some budget ∧ ∀ field,
        (budget.overage.amount field).toInt =
          max 0 ((budget.consumed.amount field).toInt - (budget.policy.limit field).toInt)) ∧
    (∀ event ∈ events, ∀ key, EntryMove event.input.call (event.before.ledgerEntries.get key)
      (event.after.ledgerEntries.get key)) ∧
    (∀ event ∈ events, ∀ key entry, event.before.ledgerEntries.get key = some entry →
      entry.status.terminal = true → s.ledgerEntries.get key = some entry) ∧
    (∀ event ∈ events, ∀ kind runID operationKey reply,
      event.input.op.ledgerCall? = some (kind, runID, operationKey) → event.reply = .ok reply →
      ∀ again : Input, again.op.ledgerCall? = some (kind, runID, operationKey) →
        (apply rt again s).1 = s) := by
  refine ⟨?_, ?_, ?_, ?_, ?_⟩
  · intro runID budget stored field
    have sound := History.ledgerSound history
    have reserved := sound.reserved runID field
    have consumed := sound.consumed runID field
    unfold budgetOf at reserved consumed
    rw [stored] at reserved consumed
    exact ⟨reserved, consumed⟩
  · intro event mem lease result isFinish changed
    obtain ⟨early, late, step, allowed, -, -⟩ := history.of_mem mem
    rw [step] at changed ⊢
    obtain ⟨before, ⟨call, op⟩, reply, after⟩ := event
    cases isFinish
    have effect := apply_ledger rt ⟨call, .finishLedgerEntry lease result⟩ before
    dsimp only [Transition.Event.of] at changed ⊢
    generalize (apply rt ⟨call, .finishLedgerEntry lease result⟩ before).1 = t at effect changed ⊢
    cases effect with
    | kept _ entries | opened _ _ entries => exact absurd entries changed
    | stepped step =>
      cases step with
      | finished leased stored status ended =>
        refine ⟨_, get_set_self _ _ _, fun field => ?_⟩
        have total := toInt_add (allowed.2 field _ (.head _))
        have difference := allowed.2 field _ (.tail _ (.head _))
        simp only [MemoryBudgetState.settle, budgetOverage, addBudget, BudgetDelta.amount_map₂,
          RunBudget.amount_asDelta, max64]
        rw [toInt_max_zero_sub (by rw [total]; exact difference)]
  · intro event mem key
    obtain ⟨early, late, step, -, -, -⟩ := history.of_mem mem
    rw [step]
    exact apply_entryMove rt event.input event.before key
  · intro event mem key entry stored ended
    obtain ⟨early, late, step, -, -, rest⟩ := history.of_mem mem
    have kept : ∀ {a : MemoryStore} (input : Input), a.ledgerEntries.get key = some entry →
        (apply rt input a).1.ledgerEntries.get key = some entry := by
      intro a input present
      have move := apply_entryMove rt input a key
      rw [present] at move
      generalize (apply rt input a).1.ledgerEntries.get key = after at move ⊢
      cases move with
      | kept => rfl
      | started status | finished result status =>
        rw [status] at ended
        cases ended
    have after : event.after.ledgerEntries.get key = some entry := by
      rw [step]
      exact kept event.input stored
    exact rest.invariant (I := fun a => a.ledgerEntries.get key = some entry)
      (fun _ input _ present => kept input present) after
  · intro event mem kind runID operationKey reply about succeeded again repeats
    obtain ⟨early, late, step, -, -, rest⟩ := history.of_mem mem
    have recorded : Recorded event.after kind runID operationKey := by
      rw [step] at succeeded ⊢
      exact recorded_of_ok about succeeded
    have still : Recorded s kind runID operationKey :=
      rest.invariant (I := fun a => Recorded a kind runID operationKey)
        (fun _ input _ recorded => recorded.apply rt input) recorded
    have ways := apply_ledgerCall rt s repeats
    dsimp only [Ends] at ways
    generalize apply rt again s = outcome at ways ⊢
    cases ways with
    | refused | repeated => rfl
    | changed step => exact absurd still (step.not_recorded repeats)

def toolBudget (toolCalls : Int64) : QueuePolicy :=
  { oneSlot with
    defaultWorkflowVersion := .v4, defaultRunBudget := { maxToolCalls := toolCalls } }

/-- A remote call is reserved, started and finished with an unknown outcome that used more than was
reserved, and the finish is sent again. -/
def remoteCall : List Input :=
  let finish : LedgerFinish := {
    operationKey := "search", requestHash := "h", status := .outcomeUnknown
    consumption := { toolCalls := 3 } }
  [⟨.at 1 "a1", .createTaskWithRun "tenant" "ann" "write a PRD" "start"⟩,
    ⟨.at 2 "b1", .acquireRun "run-a1" "worker" 2 50⟩,
    ⟨.at 3 "c1", .reserveLedgerEntry firstLease {
      operationKey := "search", entryKind := .capability, operation := "web.search"
      requestHash := "h", reservation := { toolCalls := 2 } }⟩,
    ⟨.at 4 "c2", .markLedgerCallStarted firstLease "search" "h"⟩,
    ⟨.at 5 "c3", .finishLedgerEntry firstLease finish⟩,
    ⟨.at 6 "c4", .finishLedgerEntry firstLease finish⟩]

theorem ledger_accounted_remote_call :
    ∃ s budget, Reachable (.ofKnown {}) (toolBudget 2) s ∧ s.budgets.get "run-a1" = some budget ∧
      budget.consumed.toolCalls = 3 ∧ budget.overage.toolCalls = 1 ∧
      budget.reserved.toolCalls.toInt = reservedAccount.sum s.ledgerEntries "run-a1" .toolCalls ∧
      budget.consumed.toolCalls.toInt =
        consumedAccount.sum s.ledgerEntries "run-a1" .toolCalls := by
  obtain ⟨events, s, history, budget, stored, used, exceeded⟩ : ∃ events s,
      History (.ofKnown {}) SumsFit (newMemoryStore (toolBudget 2)) events s ∧
      ∃ budget ∈ s.budgets.get "run-a1",
        budget.consumed.toolCalls = 3 ∧ budget.overage.toolCalls = 1 :=
    Transition.exists_run remoteCall (by decide +kernel)
  obtain ⟨reserved, consumed⟩ := (ledger_accounted history).1 "run-a1" budget stored .toolCalls
  exact ⟨s, budget, ⟨events, history.mono fun _ _ allowed => ⟨allowed.1, trivial⟩⟩, stored, used,
    exceeded, reserved, consumed⟩

end MemoryStore

end PrdAgent.Runcontrol
