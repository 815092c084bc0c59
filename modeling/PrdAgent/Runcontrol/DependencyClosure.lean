import PrdAgent.Runcontrol.OutlineShape
import PrdAgent.Runcontrol.OutputReplay

/-!
# Confirmed units have confirmed dependencies

The statuses of a task's units change when its outline is locked, when an output of one of its runs
is materialised, and when the owner confirms or reopens a unit; the last two also when the command
fails after its first writes.
-/

namespace PrdAgent.Runcontrol

open AssocMap

/-- The units of a task: each under its own key, and the dependencies of a confirmed unit
confirmed. -/
structure UnitsClosed (units : GoMap ReviewUnit) : Prop where
  keyed : units.Keyed ReviewUnit.unitKey
  closed : ∀ key unit, units.get key = some unit → unit.status = .confirmed →
    MemoryStore.DependenciesConfirmed units unit

namespace UnitsClosed

variable {units : GoMap ReviewUnit} {unit : ReviewUnit}

theorem empty : UnitsClosed ∅ := by
  refine ⟨.empty _, fun key unit stored => ?_⟩
  rw [get_empty] at stored
  cases stored

theorem withdraw (sound : UnitsClosed units)
    (independent : MemoryStore.NoConfirmedDependent units unit.unitKey) {status : UnitStatus}
    (other : status ≠ .confirmed) :
    UnitsClosed (units.set unit.unitKey { unit with status := status }) := by
  refine ⟨sound.keyed.set rfl, fun key candidate found confirmed dependency depends => ?_⟩
  rcases get_set_eq_some found with ⟨-, rfl⟩ | ⟨-, found⟩
  · exact absurd confirmed other
  · obtain ⟨needed, stored, is⟩ := sound.closed key candidate found confirmed dependency depends
    have ne : dependency ≠ unit.unitKey := by
      rintro rfl
      exact independent key candidate found confirmed depends
    exact ⟨needed, (get_set_ne _ _ ne).trans stored, is⟩

theorem confirm (sound : UnitsClosed units)
    (dependencies : MemoryStore.DependenciesConfirmed units unit) :
    UnitsClosed (units.set unit.unitKey { unit with status := .confirmed }) := by
  have kept {dependency : String}
      (before : ∃ found, units.get dependency = some found ∧ found.status = .confirmed) :
      ∃ found, (units.set unit.unitKey { unit with status := .confirmed }).get dependency =
        some found ∧ found.status = .confirmed := by
    by_cases same : dependency = unit.unitKey
    · exact ⟨_, by rw [same, get_set_self], rfl⟩
    · rw [get_set_ne _ _ same]
      exact before
  exact ⟨sound.keyed.set rfl, forall_set (fun _ dependency depends =>
    kept (dependencies dependency depends)) fun key candidate found confirmed dependency depends =>
    kept (sound.closed key candidate found confirmed dependency depends)⟩

end UnitsClosed

theorem UnitsClosed.planned (rt : Runtime) (taskID : String) (outline : ReviewOutlineVersion) :
    UnitsClosed (plannedReviewUnits rt taskID outline) := by
  have pending : ∀ key unit, (plannedReviewUnits rt taskID outline).get key = some unit →
      unit.status = .pending := forall_addAll fun _ _ => rfl
  refine ⟨forall_addAll fun _ _ => rfl, fun key unit stored confirmed => ?_⟩
  rw [pending key unit stored] at confirmed
  cases confirmed

def AllUnitsClosed (units : GoMap (GoMap ReviewUnit)) : Prop :=
  ∀ taskID ofTask, units.get taskID = some ofTask → UnitsClosed ofTask

namespace MemoryStore

variable {rt : Runtime} {call : Call} {s : MemoryStore}

theorem unitsClosed_unitsOf (all : AllUnitsClosed s.reviewUnits) (taskID : String) :
    UnitsClosed (s.unitsOf taskID) := by
  unfold unitsOf
  cases stored : s.reviewUnits.get taskID with
  | none => exact .empty
  | some ofTask => exact all taskID ofTask stored

theorem UnitsClosed.review {target : OutputTarget} {expected : UnitStatus}
    {outline : ReviewOutlineVersion} {unit : ReviewUnit} (all : AllUnitsClosed s.reviewUnits)
    (found : s.lockedUnit target expected = .ok (outline, unit)) (other : expected ≠ .confirmed) :
    UnitsClosed ((s.unitsOf target.task.taskID).set unit.unitKey
      { unit with status := .reviewing }) := by
  have sound := unitsClosed_unitsOf all target.task.taskID
  have locked := lockedUnit_ok found
  have key := sound.keyed _ _ locked.unitStored
  have stored := locked.unitStored
  rw [← key] at stored
  refine sound.withdraw (fun key candidate found confirmed depends => ?_) (by decide)
  obtain ⟨dependency, same, is⟩ := sound.closed key candidate found confirmed _ depends
  rw [stored] at same
  cases same
  exact other (locked.unitStatus.symm.trans is)

theorem ReviewStep.unitsClosed {op : Op} {reply : Except StoreError Reply}
    {data : ReviewData} (step : ReviewStep rt call s op reply data) (all : AllUnitsClosed s.reviewUnits) :
    AllUnitsClosed data.units := by
  cases step with
  | kept | created | outlineDrafted | reviewed | draftSubmitted | draftDecided | publishConfirmed
  | publishCompleted => exact all
  | unitGenerated reply submits pending =>
    exact forall_set (UnitsClosed.review all pending (by decide)) all
  | unitRevised reply submits reopened based =>
    exact forall_set (UnitsClosed.review all reopened (by decide)) all
  | outlineLocked lockable outcome => exact forall_set (.planned rt _ _) all
  | @unitConfirmed decision task version unit _ _ decides dependencies idle outcome =>
    exact forall_set ((unitsClosed_unitsOf all decision.taskID).confirm dependencies) all
  | @unitReopened decision _ task version unit _ _ decides independent idle outcome =>
    exact forall_set ((unitsClosed_unitsOf all decision.taskID).withdraw independent (by decide)) all

theorem apply_unitsClosed (rt : Runtime) (input : Input) (all : AllUnitsClosed s.reviewUnits) :
    AllUnitsClosed (apply rt input s).1.reviewUnits :=
  (apply_review rt input s).unitsClosed all

/-- In every reachable state, each key a confirmed unit depends on names a confirmed unit of the
same task. -/
theorem dependency_closure {policy : QueuePolicy} (reach : Reachable rt policy s) :
    ∀ taskID units, s.reviewUnits.get taskID = some units →
      ∀ key unit, units.get key = some unit → unit.status = .confirmed →
        ∀ dependency ∈ unit.dependsOn, ∃ needed, units.get dependency = some needed ∧
          needed.status = .confirmed := by
  intro taskID units stored key unit found confirmed
  obtain ⟨events, history⟩ := reach
  have all : AllUnitsClosed s.reviewUnits := by
    refine history.invariant (I := fun s => AllUnitsClosed s.reviewUnits)
      (fun _ input _ all => apply_unitsClosed rt input all) fun taskID ofTask stored => ?_
    cases stored
  exact (all taskID units stored).closed key unit found confirmed

/-! ## Two units, one after the other -/

def firstText : UnitCandidate := { unitText with unitKey := "a", title := "A" }

def secondText : UnitCandidate :=
  { unitText with unitKey := "b", title := "B", ordinal := 1, nodeKeys := ["m"] }

def pairTexts : Runtime := .ofKnown {
  outlines := [(jsonText (outlineHashPayload pairOutline), pairOutline)]
  units := [firstText, secondText].map fun text => (jsonText (unitCandidateJson text), text)
  unitRefs := [firstText, secondText].map fun text => (jsonText (unitCandidateJson text), ⟨[], []⟩) }

def pairOutput (text : UnitCandidate) (scopeHash : String) (version : Int) : RunOutput :=
  let payload := jsonText (unitCandidateJson text)
  { schemaVersion := "run-output.v1", outputKey := "unit", outputKind := .unitCandidate
    runPurpose := .generateUnit, expectedTaskVersion := version, scopeHash := scopeHash
    payload := payload, contentHash := pairTexts.hashBytesHex payload }

def firstUnitLease : LeaseContext := ⟨"run-c1", "lease-d1", "worker", 1, 56⟩

def secondUnitLease : LeaseContext := ⟨"run-e1", "lease-f1", "worker", 1, 60⟩

def versionConfirmed (now : Time) (digits version key : String) (expected : Int) : Input :=
  ⟨.at now digits, .confirmConfirmationUnit "tenant" "ann" "task-a1"
    ("review-unit-version-" ++ version) key expected⟩

def firstSubmitted : List Input := outlineSubmitted pairTexts pairOutline ++ [
  outlineConfirmed 5 "c1",
  ⟨.at 6 "d1", .acquireRun "run-c1" "worker" 6 50⟩,
  ⟨.at 7 "d2", .submitRunOutput firstUnitLease (pairOutput firstText
    "d33938f1327445afa60e32fc8fc8fbbff3eaf6966052f1e5eb5fd518a291fad4" 3)⟩,
  ⟨.at 8 "d3", .completeRun firstUnitLease .succeeded 8⟩]

def secondSubmitted : List Input := firstSubmitted ++ [
  versionConfirmed 9 "e1" "a4c5d38c358f584f879fd3ff9ef321528c1c9fceb7e64735ca186fba1d58bdea" "ca" 4,
  ⟨.at 10 "f1", .acquireRun "run-e1" "worker" 10 50⟩,
  ⟨.at 11 "f2", .submitRunOutput secondUnitLease (pairOutput secondText
    "d7d61f3d869570d8df1551152a32c1e4ce1971d3fd3f123b66e08266ee2086ce" 5)⟩,
  ⟨.at 12 "f3", .completeRun secondUnitLease .succeeded 12⟩]

def bothConfirmed : List Input := secondSubmitted ++ [
  versionConfirmed 13 "g1" "e0ccf5297b606c18594d46af6d2ff9dc5e9f4017955263bf2d7d746f4a807f05" "cb" 6]

theorem bothConfirmed_units :
    Accepts pairTexts (fun _ _ => True) smallQueue bothConfirmed ∧
      ((((stateAfter pairTexts smallQueue bothConfirmed).reviewUnits.get "task-a1").bind
        (·.get "b")).map fun unit => (unit.status, unit.dependsOn)) = some (.confirmed, ["a"]) := by
  decide +kernel

theorem dependency_closure_both_confirmed : ∃ s units unit needed,
    Reachable pairTexts smallQueue s ∧ s.reviewUnits.get "task-a1" = some units ∧
      units.get "b" = some unit ∧ unit.status = .confirmed ∧
      units.get "a" = some needed ∧ needed.status = .confirmed := by
  obtain ⟨allowed, facts⟩ := bothConfirmed_units
  have reach : Reachable pairTexts smallQueue _ := ⟨_, allowed.history⟩
  generalize stateAfter pairTexts smallQueue bothConfirmed = s at facts reach
  obtain ⟨unit, found, is⟩ := Option.map_eq_some_iff.mp facts
  obtain ⟨units, stored, found⟩ := Option.bind_eq_some_iff.mp found
  obtain ⟨confirmed, depends⟩ := Prod.mk.inj is
  obtain ⟨needed, neededStored, neededConfirmed⟩ := dependency_closure reach "task-a1" units stored
    "b" unit found confirmed "a" (by rw [depends]; exact .head _)
  exact ⟨s, units, unit, needed, reach, stored, found, confirmed, neededStored, neededConfirmed⟩

end MemoryStore

end PrdAgent.Runcontrol
