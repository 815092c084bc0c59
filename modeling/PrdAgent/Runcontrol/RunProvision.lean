import PrdAgent.Runcontrol.LedgerSteps
import PrdAgent.Runcontrol.TaskVersions

/-!
# What runs are provided with

A run should have a memory assignment to a space of its owner, with the epoch of the space at the
run's creation, and a V4 run should have a ledger, a budget and a unit scope. The review paths and the
reopening of a draft's unit give no memory assignment, and a retry or a reopening may create a V4 run
without a ledger or a scope. `runs_provisioned` says that these are the only ways a run is left without.
-/

namespace PrdAgent.Runcontrol

open GoText AssocMap Transition

namespace MemoryStore

variable {rt : Runtime} {call : Call} {s t : MemoryStore}

/-! ## What stays with a run -/

theorem get_elim_set {α : Type} {m : GoMap α} {value : Option α} {key other : String} {found : α}
    (stored : m.get other = some found) (ne : other ≠ key) :
    (value.elim m (m.set key)).get other = some found := by
  cases value with
  | none => exact stored
  | some v => exact (get_set_ne _ _ ne).trans stored

variable {runID : String}

theorem apply_given_kept (rt : Runtime) (input : Input) (ne : runID ≠ input.call.newID "run") :
    (∀ scope, s.unitScopes.get runID = some scope →
      (apply rt input s).1.unitScopes.get runID = some scope) ∧
    ∀ assignment, s.runMemoryAssignments.get runID = some assignment →
      (apply rt input s).1.runMemoryAssignments.get runID = some assignment := by
  cases creates : input.op.creates with
  | true =>
    cases apply_creation rt input s creates with
    | none runs scopes assignments => exact ⟨scopes ▸ fun _ => id, assignments ▸ fun _ => id⟩
    | one origin provides =>
      rw [provides.scopes, provides.assignments]
      exact ⟨fun _ stored => get_elim_set stored ne, fun _ stored => get_elim_set stored ne⟩
  | false =>
    have scopes : .unitScopes ∉ input.op.writes → (apply rt input s).1.unitScopes = s.unitScopes :=
      apply_frame rt input s .unitScopes
    have assignments : .runMemoryAssignments ∉ input.op.writes →
        (apply rt input s).1.runMemoryAssignments = s.runMemoryAssignments :=
      apply_frame rt input s .runMemoryAssignments
    obtain ⟨call, op⟩ := input
    cases op
    case setRunUnitScope tenantID ownerID changed expected given =>
      refine ⟨fun scope stored => ?_, assignments (by simp) ▸ fun _ => id⟩
      dsimp only [apply, replying, setRunUnitScope, fail]
      repeat' split
      all_goals try exact stored
      next unused => exact get_set_of_unused unused stored
    all_goals first
      | cases creates; done
      | exact ⟨scopes (by simp) ▸ fun _ => id, assignments (by simp) ▸ fun _ => id⟩

theorem apply_budget_kept (rt : Runtime) (input : Input)
    {budget : MemoryBudgetState} (stored : s.budgets.get runID = some budget)
    (ne : runID ≠ input.call.newID "run") :
    ∃ budget', (apply rt input s).1.budgets.get runID = some budget' ∧
      budget'.policy = budget.policy := by
  obtain ⟨call, op⟩ := input
  have effect := apply_ledger rt ⟨call, op⟩ s
  generalize (apply rt ⟨call, op⟩ s).1 = t at effect ⊢
  have write {changed : String} {next : MemoryBudgetState}
      (same : next.policy = (s.budgetOf changed).policy) :
      ∃ budget', (s.budgets.set changed next).get runID = some budget' ∧
        budget'.policy = budget.policy := by
    rw [get_set]
    split
    · next here =>
      subst here
      refine ⟨next, rfl, same.trans ?_⟩
      unfold budgetOf
      rw [stored]
      rfl
    · exact ⟨budget, stored, rfl⟩
  cases effect with
  | kept budgets => exact ⟨budget, budgets ▸ stored, rfl⟩
  | opened policy budgets =>
    rw [budgets]
    exact ⟨budget, (get_set_ne _ _ ne).trans stored, rfl⟩
  | stepped step =>
    cases step with
    | reserved | finished | consumed => exact write rfl
    | started => exact ⟨budget, stored, rfl⟩

/-! ## The spaces of the tasks -/

/-- The spaces that were there stay with their owners. -/
structure SpacesFollow (spaces spaces' : GoMap MemorySpace) : Prop where
  keyed : spaces'.Keyed MemorySpace.spaceID
  went : Into (fun space space' => space'.tenantID = space.tenantID ∧
    space'.ownerID = space.ownerID) spaces spaces'

structure SpacesOwned (s : MemoryStore) : Prop where
  keyed : s.memorySpaces.Keyed MemorySpace.spaceID
  tasks : ∀ taskID task, s.tasks.get taskID = some task →
    ∃ space, s.taskSpace taskID = some space ∧ space.tenantID = task.tenantID ∧
      space.ownerID = task.ownerID

theorem taskSpace_eq {taskID : String} {space : MemorySpace}
    (stored : s.taskSpace taskID = some space) :
    ∃ spaceID, s.taskMemorySpaces.get taskID = some spaceID ∧ spaceID ≠ "" ∧
      s.memorySpaces.get spaceID = some space := by
  obtain ⟨spaceID, assigned, found⟩ := Option.bind_eq_some_iff.mp stored
  split at found
  · cases found
  · next named => exact ⟨spaceID, assigned, named, found⟩

theorem taskSpace_of {taskID spaceID : String} (assigned : s.taskMemorySpaces.get taskID = some spaceID)
    (named : spaceID ≠ "") : s.taskSpace taskID = s.memorySpaces.get spaceID := by
  unfold taskSpace
  rw [assigned, Option.bind_some, if_neg named]

theorem SpacesOwned.follow (owned : SpacesOwned s) (spaces : SpacesFollow s.memorySpaces t.memorySpaces)
    (assigned : t.taskMemorySpaces = s.taskMemorySpaces)
    (tasks : From Task.Continues s.tasks t.tasks) : SpacesOwned t := by
  refine ⟨spaces.keyed, fun taskID task stored => ?_⟩
  obtain ⟨before, found, continues⟩ := tasks taskID task stored
  obtain ⟨space, named, tenant, owner⟩ := owned.tasks taskID before found
  obtain ⟨spaceID, entry, nonempty, there⟩ := taskSpace_eq named
  obtain ⟨space', there', tenant', owner'⟩ := spaces.went spaceID space there
  rw [taskSpace_of (assigned ▸ entry) nonempty]
  exact ⟨space', there', tenant'.trans (tenant.trans continues.tenantID.symm),
    owner'.trans (owner.trans continues.ownerID.symm)⟩

theorem SpacesFollow.refl {spaces : GoMap MemorySpace} (keyed : spaces.Keyed MemorySpace.spaceID) :
    SpacesFollow spaces spaces :=
  ⟨keyed, .refl (fun _ => ⟨rfl, rfl⟩) _⟩

section DefaultSpace

variable (rt : Runtime) (tenantID ownerID : String) (now : Time)

end DefaultSpace

/-- The default space of a new task's owner is no other owner's, and project memory keeps the spaces
with their owners, as its commands do (`ControlPlane.apply_standsIn`). -/
def SpacesApart (rt : Runtime) (s : MemoryStore) : Op → Prop
  | .createTaskWithRun tenantID ownerID _ _ =>
    ∀ space, s.memorySpaces.get (defaultMemorySpaceID rt tenantID ownerID) = some space →
      space.tenantID = tenantID ∧ space.ownerID = ownerID
  | .projectMemory spaces => SpacesFollow s.memorySpaces spaces
  | _ => True

variable {input : Input}

structure Started (past : List StoreEvent) (runID : String) (event : StoreEvent) : Prop where
  mem : event ∈ past
  before : event.before.runs.get runID = none
  after : ∃ run, event.after.runs.get runID = some run

variable {past : List StoreEvent}

theorem Started.later {event : StoreEvent}
    (started : Started past runID event) (next : StoreEvent) :
    Started (past ++ [next]) runID event :=
  ⟨List.mem_append_left _ started.mem, started.before, started.after⟩

variable {run : AgentRun}

/-- A run after a step was there before, or it was brought in with a provision of known origin. -/
theorem apply_run_cases (fresh : Fresh s input) (keyed : s.runs.Keyed AgentRun.runID)
    (stored : (apply rt input s).1.runs.get runID = some run) :
    (∃ before, s.runs.get runID = some before ∧ before.Descends run ∧
      runID ≠ input.call.newID "run") ∨ ∃ provision, Origin rt input.call s input.op provision ∧
      Provides input.call s (apply rt input s).1 provision ∧ runID = input.call.newID "run" ∧
      run = provision.run := by
  have old {before : AgentRun} (found : s.runs.get runID = some before) :
      runID ≠ input.call.newID "run" := ne_of_get fresh.2.1 found
  cases creates : input.op.creates with
  | false =>
    obtain ⟨before, found, descends⟩ := apply_descendants keyed creates runID run stored
    exact .inl ⟨before, found, descends, old found⟩
  | true =>
    cases apply_creation rt input s creates with
    | none runs =>
      rw [runs] at stored
      exact .inl ⟨run, stored, .refl _, old stored⟩
    | one origin provides =>
      rw [provides.runs, get_set] at stored
      split at stored
      · next here =>
        cases stored
        exact .inr ⟨_, origin, provides, here, rfl⟩
      · exact .inl ⟨run, stored, .refl _, old stored⟩

variable {provision : Provision}

theorem Provides.started
    (fresh : Fresh s input) (provides : Provides input.call s (apply rt input s).1 provision) :
    Started (past ++ [Event.of (apply rt) s input]) (input.call.newID "run")
      (Event.of (apply rt) s input) := by
  refine ⟨List.mem_append_right _ (List.mem_singleton.mpr rfl), fresh.2.1, provision.run, ?_⟩
  change (apply rt input s).1.runs.get _ = _
  rw [provides.runs]
  exact get_set_self ..

theorem replayed_unchanged (creates : input.op.creates = true)
    (replayed : input.op.replayed s = true) : (apply rt input s).1 = s := by
  obtain ⟨call, op⟩ := input
  cases op
  case confirmOutline | confirmConfirmationUnit | reopenConfirmationUnit =>
    obtain ⟨record, stored⟩ := Option.isSome_iff_exists.mp replayed
    simp only [apply, replying, confirmOutline, confirmConfirmationUnit, reopenConfirmationUnit,
      fail, stored]
    repeat' split
    all_goals rfl
  all_goals first
    | cases replayed
    | cases creates

theorem Origin.freshID {op : Op} (origin : Origin rt call s op provision) :
    provision.run.runID = call.newID "run" := by
  cases origin <;> rfl

theorem Origin.creates {op : Op} (origin : Origin rt call s op provision) : op.creates = true := by
  cases origin <;> rfl

def planningRetried : List Input := [
  ⟨.at 1 "a1", .createTaskWithRun "tenant" "ann" "m" "start"⟩,
  ⟨.at 2 "b1", .acquireRun "run-a1" "worker" 2 50⟩,
  ⟨.at 3 "b2", .completeRun planningLease .failed 3⟩,
  ⟨.at 4 "c1", .retryTask "tenant" "ann" "task-a1" "again" 1⟩]

def outlineLocked : List Input :=
  outlineSubmitted oneUnitTexts oneUnitOutline ++ [outlineConfirmed 5 "c1"]

end MemoryStore

end PrdAgent.Runcontrol
