import PrdAgent.Runcontrol.ActivePublish

/-!
# Which publishes a worker can still get

`ClaimPendingPublishes` hands out pending, retryable and reconciling publishes that are due and not
held by another worker. A publish that a worker has claimed is `RUNNING`, and the claim never looks at
those again: only `CompletePublish` takes the publish out of this status.
-/

namespace PrdAgent.Runcontrol

open GoText AssocMap

def Returned (outcome : Outcome (List PublishJob)) (publishID : String) (reconcileOnly : Bool) :
    Prop :=
  ∃ jobs, outcome.2 = .ok jobs ∧
    ∃ job ∈ jobs, job.record.publishID = publishID ∧ job.reconcileOnly = reconcileOnly

def Op.completes (publishID : String) : Op → Prop
  | .completePublish _ completedID _ _ => completedID = publishID
  | _ => False

/-- A publish that is waiting for a worker is due once its delay and the last claim are over. -/
def MemoryPublish.dueAt (value : MemoryPublish) : Time := max value.availableAt value.claimExpires

namespace MemoryStore

variable {value : MemoryPublish} {now : Time}

theorem claimable_of_due
    (active : value.record.status.active = true) (free : value.record.status ≠ .running)
    (due : value.dueAt ≤ now) : claimable value now = true := by
  obtain ⟨available, expired⟩ := max_le_iff.mp due
  have waiting : (value.record.status == .pending || value.record.status == .retryable ||
      value.record.status == .reconciling) = true := by
    revert active free
    cases value.record.status <;> simp [PublishStatus.active]
  unfold claimable
  rw [waiting, decide_eq_false (not_lt.mpr available), decide_eq_false (not_lt.mpr expired),
    Bool.and_false]
  rfl

theorem status_ne_running_of_claimable
    (can : claimable value now = true) : value.record.status ≠ .running := by
  intro running
  unfold claimable at can
  rw [running] at can
  cases can

/-! ## What the loop returns -/

section Loop

variable {workerID : String} {limit : Int} {now : Time} {ttl : Duration}
  {visited : List (String × MemoryPublish)} {publishes : GoMap MemoryPublish}
  {items : List PublishJob}

theorem claimPublishes_mem {job : PublishJob}
    (mem : job ∈ (claimPublishes workerID limit now ttl visited publishes items).2) :
    job ∈ items ∨ ∃ publishID value, (publishID, value) ∈ visited ∧ claimable value now = true ∧
      job.record.publishID = value.record.publishID := by
  induction visited generalizing publishes items with
  | nil => exact .inl mem
  | cons entry rest ih =>
    obtain ⟨publishID, value⟩ := entry
    have later (found : ∃ publishID value, (publishID, value) ∈ rest ∧
        claimable value now = true ∧ job.record.publishID = value.record.publishID) :
        ∃ found claimed, (found, claimed) ∈ (publishID, value) :: rest ∧
          claimable claimed now = true ∧ job.record.publishID = claimed.record.publishID := by
      obtain ⟨found, claimed, there, rest⟩ := found
      exact ⟨found, claimed, .tail _ there, rest⟩
    unfold claimPublishes at mem
    split at mem
    · exact (ih mem).imp_right later
    next can =>
    have here {claimed : PublishJob} (named : claimed.record.publishID = value.record.publishID)
        (last : job ∈ [claimed]) :
        ∃ found claimed, (found, claimed) ∈ (publishID, value) :: rest ∧
          claimable claimed now = true ∧ job.record.publishID = claimed.record.publishID :=
      ⟨publishID, value, .head _, (Bool.not_eq_false _).mp can,
        (congrArg (·.record.publishID) (List.mem_singleton.mp last)).trans named⟩
    dsimp only at mem
    split at mem
    · exact (List.mem_append.mp mem).imp_right (here rfl)
    · rcases ih mem with collected | found
      · exact (List.mem_append.mp collected).imp_right (here rfl)
      · exact .inr (later found)

theorem mem_claimPublishes {job : PublishJob} (mem : job ∈ items) :
    job ∈ (claimPublishes workerID limit now ttl visited publishes items).2 := by
  induction visited generalizing publishes items with
  | nil => exact mem
  | cons entry rest ih =>
    unfold claimPublishes
    split
    · exact ih mem
    · dsimp only
      split
      · exact List.mem_append_left _ mem
      · exact ih (List.mem_append_left _ mem)

/-- A limit above the number of publishes never stops the walk, which then returns every claimable
publish it comes to. -/
theorem claimPublishes_returns {publishID : String}
    (there : (publishID, value) ∈ visited) (can : claimable value now = true)
    (room : ((items.length + visited.length : Nat) : Int) < limit) :
    ∃ job ∈ (claimPublishes workerID limit now ttl visited publishes items).2,
      job.record.publishID = value.record.publishID ∧
        job.reconcileOnly = (value.record.status == .reconciling) := by
  induction visited generalizing publishes items with
  | nil => cases there
  | cons entry rest ih =>
    obtain ⟨visitedID, seen⟩ := entry
    rw [List.length_cons] at room
    unfold claimPublishes
    split
    · next skipped =>
      rcases List.mem_cons.mp there with is | there
      · cases is
        rw [can] at skipped
        cases skipped
      · exact ih there (by omega)
    · dsimp only
      rw [if_neg (by rw [List.length_append, List.length_singleton]; omega)]
      rcases List.mem_cons.mp there with is | there
      · cases is
        exact ⟨_, mem_claimPublishes (List.mem_append_right _ (.head _)), rfl, rfl⟩
      · exact ih there (by rw [List.length_append, List.length_singleton]; omega)

end Loop

variable {rt : Runtime} {s t : MemoryStore} {publishID : String} {value : MemoryPublish}

/-! ## A running publish stays with its worker -/

def RunningPublish (publishID : String) (publishes : GoMap MemoryPublish) : Prop :=
  ∃ value, publishes.get publishID = some value ∧ value.record.status = .running

theorem RunningPublish.set_ne {publishes : GoMap MemoryPublish} {otherID : String}
    {other : MemoryPublish} (running : RunningPublish publishID publishes)
    (ne : publishID ≠ otherID) : RunningPublish publishID (publishes.set otherID other) := by
  obtain ⟨value, stored, status⟩ := running
  exact ⟨value, (get_set_ne publishes other ne).trans stored, status⟩

/-- No operation but its completion changes the status of a running publish. -/
theorem apply_runningPublish {input : Input} (fresh : Fresh s input)
    (uncompleted : ¬ input.op.completes publishID) (running : RunningPublish publishID s.publishes) :
    RunningPublish publishID (apply rt input s).1.publishes := by
  have effect := apply_publishes rt input s
  obtain ⟨call, op⟩ := input
  generalize (apply rt ⟨call, op⟩ s).1.publishes = publishes at effect ⊢
  cases effect with
  | previewed taskStored owner version built =>
    obtain ⟨value, stored, -⟩ := id running
    exact running.set_ne (ne_of_get fresh.2.2 stored)
  | confirmed confirms =>
    refine running.set_ne ?_
    rintro rfl
    obtain ⟨value, stored, status⟩ := running
    cases confirms.stored.symm.trans stored
    cases confirms.preview.symm.trans status
  | moved moves =>
    obtain ⟨value, stored, status⟩ := running
    have each {value value' : MemoryPublish} (move : PublishMove op publishID value value')
        (status : value.record.status = .running) : value'.record.status = .running := by
      cases move with
      | claimed => rfl
      | completed => exact absurd rfl uncompleted
      | payloadClaimed | purged => exact status
    obtain ⟨value', stored', kept⟩ := moves.forth each (fun _ => id)
      (fun first second => second ∘ first) stored
    exact ⟨value', stored', kept status⟩

theorem reachable_publishesKeyed {policy : QueuePolicy} (reachable : Reachable rt policy s) :
    s.publishes.Keyed (·.record.publishID) := by
  obtain ⟨events, history⟩ := reachable
  exact history.invariant (I := fun s => s.publishes.Keyed (·.record.publishID))
    (fun _ input _ keyed => apply_publishesKeyed rt input keyed) (fun _ _ none => by cases none)

/-- Wherever the calls lead, the publish is still running, and a claim passes over it. -/
theorem not_returned_after {events : List StoreEvent}
    (history : History rt (fun _ input => ¬ input.op.completes publishID) s events t)
    (keyed : s.publishes.Keyed (·.record.publishID)) (running : RunningPublish publishID s.publishes)
    (call : Call) (workerID : String) (limit : Int) (now : Time) (ttl : Duration)
    (reconcileOnly : Bool) :
    ¬ Returned (claimPendingPublishes call workerID limit now ttl t) publishID reconcileOnly := by
  have kept : t.publishes.Keyed (·.record.publishID) ∧ RunningPublish publishID t.publishes :=
    history.invariant (I := fun s => s.publishes.Keyed (·.record.publishID) ∧
        RunningPublish publishID s.publishes)
      (fun _ input allowed kept => ⟨apply_publishesKeyed rt input kept.1,
        apply_runningPublish allowed.1 allowed.2 kept.2⟩) ⟨keyed, running⟩
  obtain ⟨value, stored, status⟩ := kept.2
  rintro ⟨jobs, is, job, mem, named, -⟩
  cases is
  rcases claimPublishes_mem mem with collected | ⟨foundID, found, there, can, same⟩
  · cases collected
  have foundStored := (mem_range (call.order_perm t.publishes.keys)).mp there
  have foundKeyed : found.record.publishID = foundID := kept.1 foundID found foundStored
  have sameID : foundID = publishID := foundKeyed.symm.trans (same.symm.trans named)
  rw [sameID, stored] at foundStored
  cases foundStored
  exact status_ne_running_of_claimable can status

/-- An active publish can be handed out after some calls without its completion exactly if its
status is not `RUNNING`; one that waits for a worker is handed out by every claim with enough room
once it is due, for reconciliation only if this is what it waits for. -/
theorem publish_returned_iff_not_running {policy : QueuePolicy} (reachable : Reachable rt policy s)
    (stored : s.publishes.get publishID = some value) (active : value.record.status.active = true) :
    ((∃ events t call workerID limit now ttl reconcileOnly,
        History rt (fun _ input => ¬ input.op.completes publishID) s events t ∧
          Returned (claimPendingPublishes call workerID limit now ttl t) publishID reconcileOnly) ↔
      value.record.status ≠ .running) ∧
    (value.record.status ≠ .running → ∀ call workerID now ttl, value.dueAt ≤ now →
      ∃ limit, Returned (claimPendingPublishes call workerID limit now ttl s) publishID
        (value.record.status == .reconciling)) := by
  have keyed := reachable_publishesKeyed reachable
  have due (free : value.record.status ≠ .running) (call : Call) (workerID : String) (now : Time)
      (ttl : Duration) (late : value.dueAt ≤ now) :
      ∃ limit, Returned (claimPendingPublishes call workerID limit now ttl s) publishID
        (value.record.status == .reconciling) := by
    have there := (mem_range (call.order_perm s.publishes.keys)).mpr stored
    let limit : Int := (s.publishes.range call.order).length + 1
    refine ⟨limit, _, rfl, ?_⟩
    rw [← keyed publishID value stored, if_neg (show ¬ limit < 1 by omega)]
    exact claimPublishes_returns there (claimable_of_due active free late)
      (by simp only [List.length_nil, limit]; omega)
  refine ⟨⟨?_, fun free => ?_⟩, due⟩
  · rintro ⟨events, t, call, workerID, limit, now, ttl, reconcileOnly, history, returned⟩ running
    exact not_returned_after history keyed ⟨value, stored, running⟩ _ _ _ _ _ _ returned
  · let call : Call := .at 0 ""
    obtain ⟨limit, returned⟩ := due free call "" value.dueAt 0 le_rfl
    exact ⟨[], s, call, "", limit, value.dueAt, 0, _, .nil s, returned⟩

/-! ## A worker that stops after its claim -/

def claimedOnce : List Input := previewedTwice ++ [firstConfirmed,
  ⟨.at 8 "e1", .claimPendingPublishes "publisher" 1 8 minute⟩]

/-- The claimed publish is never handed out again, although the claim expires. -/
theorem claimed_publish_lost : ∃ s value, Reachable clockTexts oneSlot s ∧
    s.publishes.get "publish-c1" = some value ∧ value.record.status = .running ∧
    value.claimExpires = 8 + minute ∧
    ∀ events t, History clockTexts (fun _ input => ¬ input.op.completes "publish-c1") s events t →
      ∀ call workerID limit now ttl reconcileOnly,
        ¬ Returned (claimPendingPublishes call workerID limit now ttl t) "publish-c1"
          reconcileOnly := by
  obtain ⟨past, s, reached, value, stored, running, expires⟩ : ∃ past s,
      History clockTexts (fun _ _ => True) (newMemoryStore oneSlot) past s ∧
      ∃ value ∈ s.publishes.get "publish-c1", value.record.status = .running ∧
        value.claimExpires = 8 + minute :=
    Transition.exists_run claimedOnce (by decide +kernel)
  exact ⟨s, value, ⟨past, reached⟩, stored, running, expires, fun events t history =>
    not_returned_after history (reachable_publishesKeyed ⟨past, reached⟩) ⟨value, stored, running⟩⟩

theorem publish_returned_iff_not_running_confirmed : ∃ s value,
    Reachable clockTexts oneSlot s ∧ s.publishes.get "publish-c1" = some value ∧
    value.record.status = .pending ∧
    ∃ limit, Returned (claimPendingPublishes (.at 8 "e1") "publisher" limit 8 minute s) "publish-c1"
      false := by
  obtain ⟨events, s, history, value, stored, pending, due⟩ : ∃ events s,
      History clockTexts (fun _ _ => True) (newMemoryStore oneSlot) events s ∧
      ∃ value ∈ s.publishes.get "publish-c1", value.record.status = .pending ∧ value.dueAt = 7 :=
    Transition.exists_run (previewedTwice ++ [firstConfirmed]) (by decide +kernel)
  have returned := (publish_returned_iff_not_running ⟨events, history⟩ stored
    (by rw [pending]; rfl)).2 (by rw [pending]; decide) (.at 8 "e1") "publisher" 8 minute
    (by rw [due]; decide)
  rw [pending] at returned
  exact ⟨s, value, ⟨events, history⟩, stored, pending, returned⟩

end MemoryStore

end PrdAgent.Runcontrol
