import PrdAgent.Runcontrol.PublishSteps

/-!
# Publishes at work

A publish is active from its confirmation until it is completed for good. A preview is refused
while a publish of its task is pending, running or reconciling, but its confirmation is not
(`two_confirmed_previews`).
-/

namespace PrdAgent.Runcontrol

open GoText AssocMap

def MemoryPublish.activeFor (value : MemoryPublish) (taskID : String) : Bool :=
  value.record.taskID == taskID && value.record.status.active

variable {value : MemoryPublish}

theorem claimable_active {now : Time} (can : MemoryStore.claimable value now = true) :
    value.record.status.active = true := by
  unfold MemoryStore.claimable at can
  simp only [Bool.and_eq_true, Bool.or_eq_true, beq_iff_eq] at can
  rcases can.1.1 with (is | is) | is
  all_goals rw [is]; rfl

theorem activeFor_of_active {value' : MemoryPublish} {taskID : String}
    (after : value'.activeFor taskID = true) (same : value'.record.taskID = value.record.taskID)
    (active : value.record.status.active = true) : value.activeFor taskID = true := by
  unfold MemoryPublish.activeFor at after ⊢
  rw [Bool.and_eq_true] at after ⊢
  exact ⟨same ▸ after.1, active⟩

namespace MemoryStore

variable {rt : Runtime} {s : MemoryStore}

/-- A confirmation that is no replay finds no active publish of its task. -/
def ConfirmsAlone (s : MemoryStore) (input : Input) : Prop :=
  (match input.op with
    | .confirmPublish tenantID ownerID taskID _ _ key _ _ =>
      (s.publishConfirmIdempotency.get (idempotencyIdentity tenantID ownerID key)).isSome ||
        !(s.publishes.values.any (·.activeFor taskID))
    | _ => true) = true

instance (s : MemoryStore) (input : Input) : Decidable (ConfirmsAlone s input) :=
  inferInstanceAs (Decidable (_ = true))

def OneActivePublish (s : MemoryStore) : Prop :=
  ∀ taskID, s.publishes.count (·.activeFor taskID) ≤ 1

theorem PublishMove.activeFor {op : Op} {publishID taskID : String} {value value' : MemoryPublish}
    (move : PublishMove op publishID value value') (after : value'.activeFor taskID = true) :
    value.activeFor taskID = true := by
  cases move with
  | claimed _ can => exact activeFor_of_active after rfl (claimable_active can)
  | completed _ held unexpired running => exact activeFor_of_active after rfl (running ▸ rfl)
  | payloadClaimed | purged => exact after

theorem apply_oneActivePublish {input : Input} (fresh : Fresh s input)
    (alone : ConfirmsAlone s input) (one : OneActivePublish s) :
    OneActivePublish (apply rt input s).1 := by
  intro taskID
  have effect := apply_publishes rt input s
  obtain ⟨call, op⟩ := input
  generalize (apply rt ⟨call, op⟩ s).1 = t at effect ⊢
  generalize t.publishes = publishes at effect ⊢
  cases effect with
  | previewed taskStored owner version built =>
    rw [count_set_of_none _ _ _ _ fresh.2.2, if_neg]
    · exact one taskID
    · exact Bool.eq_false_iff.mp (Bool.and_false _)
  | @confirmed _ _ confirmedID publishID _ _ _ now _ value confirms =>
    by_cases same : confirmedID = taskID
    · subst same
      have none : s.publishes.count (·.activeFor confirmedID) = 0 := by
        unfold ConfirmsAlone at alone
        have inactive : s.publishes.values.any (·.activeFor confirmedID) = false := by
          simpa [confirms.unused] using alone
        exact total_eq_zero fun publishID value stored =>
          if_neg (Bool.eq_false_iff.mp (any_values_eq_false.mp inactive publishID value stored))
      have added := count_set_le s.publishes (·.activeFor confirmedID) publishID
        { value with
          record := { value.record with status := .pending, updatedAt := now }
          availableAt := now }
      omega
    · refine (count_update_le _ confirms.stored fun after => ?_).trans (one taskID)
      unfold MemoryPublish.activeFor at after
      rw [Bool.and_eq_true, beq_iff_eq] at after
      exact absurd (confirms.ofTask.symm.trans after.1) same
  | moved moves => exact (moves.count_le PublishMove.activeFor).trans (one taskID)

/-- In every history whose confirmations find no active publish of their task, no task ever has
two. -/
theorem active_publishes_bounded {policy : QueuePolicy} {events : List StoreEvent}
    (history : History rt ConfirmsAlone (newMemoryStore policy) events s) (taskID : String) :
    s.publishes.count (fun value => value.record.taskID == taskID &&
      value.record.status.active) ≤ 1 :=
  history.invariant (I := OneActivePublish)
    (fun _ _ allowed one => apply_oneActivePublish allowed.1 allowed.2 one)
    (fun _ => Nat.zero_le _) taskID

/-! ## Two previews -/

def clockTexts : Runtime := .ofKnown {}

def previewedTwice : List Input := [
  ⟨.at 1 "a1", .createTaskWithRun "tenant" "ann" "m" "start"⟩,
  ⟨.at 2 "b1", .acquireRun "run-a1" "worker" 2 50⟩,
  ⟨.at 3 "b2", .submitDraft firstLease "draft" 1 "x".toUTF8⟩,
  ⟨.at 5 "c1", .createPublishPreview "tenant" "ann" "task-a1" "p1" 2 5⟩,
  ⟨.at 6 "c2", .createPublishPreview "tenant" "ann" "task-a1" "p2" 2 6⟩]

def firstConfirmed : Input := ⟨.at 7 "d1", .confirmPublish "tenant" "ann" "task-a1" "publish-c1"
  "cdUFsDfMEYfKKfbbUaAJdrpeLpBykELHYCHtv9QQFBY" "c1" 2 7⟩

def secondConfirmed : Input := ⟨.at 8 "d2", .confirmPublish "tenant" "ann" "task-a1" "publish-c2"
  "63EUDrIpYlJD16d4JXvfHVZ6vECcsPFEYQJ65F2DdtQ" "c2" 2 8⟩

theorem two_confirmed_previews : ∃ s, Reachable clockTexts oneSlot s ∧
    s.publishes.count (fun value => value.record.taskID == "task-a1" &&
      value.record.status.active) = 2 :=
  exists_reachable (previewedTwice ++ [firstConfirmed, secondConfirmed]) (by decide +kernel)

theorem active_publishes_bounded_first_confirmed : ∃ events s,
    History clockTexts ConfirmsAlone (newMemoryStore oneSlot) events s ∧
    s.publishes.count (fun value => value.record.taskID == "task-a1" &&
      value.record.status.active) = 1 := by
  obtain ⟨events, s, history, one⟩ : ∃ events s,
      History clockTexts ConfirmsAlone (newMemoryStore oneSlot) events s ∧
      1 ≤ s.publishes.count (fun value => value.record.taskID == "task-a1" &&
        value.record.status.active) :=
    Transition.exists_run (previewedTwice ++ [firstConfirmed]) (by decide +kernel)
  exact ⟨events, s, history, le_antisymm (active_publishes_bounded history "task-a1") one⟩

end MemoryStore

end PrdAgent.Runcontrol
