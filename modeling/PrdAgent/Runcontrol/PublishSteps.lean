import PrdAgent.Runcontrol.RunSteps

/-!
# What can happen to a publish

A publish is previewed, confirmed, claimed by a worker, completed with a result, and at last its
payload is claimed and purged. `apply_publishes` says what one operation does to the stored
publishes, with what it checked before (`PublishEffect`). The two claiming operations walk over all
publishes; each of their writes is one `PublishMove`.
-/

namespace PrdAgent.Runcontrol

open GoText AssocMap

/-- A publish is pending, in the hands of a worker, or waits for another attempt. -/
def PublishStatus.active : PublishStatus → Bool
  | .pending | .running | .retryable | .reconciling => true
  | _ => false

/-- A later state of the same publish. Its payload may have been purged. -/
structure MemoryPublish.Descends (value value' : MemoryPublish) : Prop where
  publishID : value'.record.publishID = value.record.publishID
  taskID : value'.record.taskID = value.record.taskID
  taskVersion : value'.record.taskVersion = value.record.taskVersion
  contentHash : value'.record.contentHash = value.record.contentHash
  tenantID : value'.tenantID = value.tenantID
  ownerID : value'.ownerID = value.ownerID

theorem MemoryPublish.Descends.refl (value : MemoryPublish) : value.Descends value :=
  ⟨rfl, rfl, rfl, rfl, rfl, rfl⟩

theorem MemoryPublish.Descends.trans {value value' value'' : MemoryPublish}
    (first : value.Descends value') (second : value'.Descends value'') : value.Descends value'' :=
  ⟨second.publishID.trans first.publishID, second.taskID.trans first.taskID,
    second.taskVersion.trans first.taskVersion, second.contentHash.trans first.contentHash,
    second.tenantID.trans first.tenantID, second.ownerID.trans first.ownerID⟩

namespace MemoryStore

variable (rt : Runtime) (call : Call)

def previewOf (tenantID ownerID taskID : String) (task : Task) (source : PublishSource)
    (now : Time) : MemoryPublish := {
  record := {
    publishID := call.newID "publish", taskID := taskID, status := .preview
    taskVersion := task.version, draftVersion := source.version
    contentHash := source.contentHash, createdAt := now, updatedAt := now }
  tenantID := tenantID, ownerID := ownerID, draftKey := source.source
  content := source.content, expiresAt := now + 10 * minute, availableAt := now }

/-- A publish may be confirmed with these arguments. -/
structure Confirms (s : MemoryStore)
    (tenantID ownerID taskID publishID token key : String) (expected : Int) (now : Time)
    (task : Task) (value : MemoryPublish) : Prop where
  unused : s.publishConfirmIdempotency.get (idempotencyIdentity tenantID ownerID key) = none
  taskStored : s.tasks.get taskID = some task
  stored : s.publishes.get publishID = some value
  taskOwner : task.tenantID = tenantID ∧ task.ownerID = ownerID
  owner : value.tenantID = tenantID ∧ value.ownerID = ownerID
  ofTask : value.record.taskID = taskID
  taskVersion : task.version = expected
  version : value.record.taskVersion = expected
  preview : value.record.status = .preview
  unexpired : now < value.expiresAt
  token : s.publishConfirmationTokenLocked rt value = token

/-- What one operation can do to a publish that is at work. -/
inductive PublishMove : Op → String → MemoryPublish → MemoryPublish → Prop
  | claimed {workerID publishID : String} {limit : Int} {now : Time} {ttl : Duration}
      {value : MemoryPublish} (ttl' : Duration) (can : claimable value now = true) :
      PublishMove (.claimPendingPublishes workerID limit now ttl) publishID value { value with
        record := { value.record with status := .running, updatedAt := now }
        claimWorker := workerID, claimExpires := now + ttl' }
  | completed {workerID publishID : String} {result : PublishResult} {now : Time}
      {value : MemoryPublish} (available : Time) (held : value.claimWorker = workerID)
      (unexpired : now < value.claimExpires) (running : value.record.status = .running) :
      PublishMove (.completePublish workerID publishID result now) publishID value { value with
        record := { value.record with
          status := result.status, safeURL := result.safeURL
          providerRevision := result.providerRevision, errorCode := result.errorCode
          retryable := result.retryable, updatedAt := now }
        claimWorker := "", claimExpires := 0, availableAt := available }
  | payloadClaimed {workerID publishID : String} {limit : Int} {now : Time} {ttl : Duration}
      {value : MemoryPublish} (ttl' : Duration) (can : purgeable value now = true) :
      PublishMove (.claimExpiredPublishPayloads workerID now limit ttl) publishID value
        { value with retentionWorker := workerID, retentionExpires := now + ttl' }
  | purged {lease : PublishPayloadLease} {now : Time} {value : MemoryPublish}
      (held : value.retentionWorker = lease.workerID ∧ value.retentionExpires = lease.expiresAt)
      (unexpired : now < value.retentionExpires)
      (hash : value.record.contentHash = lease.contentHash) :
      PublishMove (.purgePublishPayload lease now) lease.publishID value { value with
        content := ByteArray.empty, payloadPurgedAt := now, retentionWorker := ""
        retentionExpires := 0 }

/-- What one operation can do to the publishes. -/
inductive PublishEffect (s : MemoryStore) : Op → GoMap MemoryPublish → Prop
  | previewed {tenantID ownerID taskID key : String} {expected : Int} {now : Time} {task : Task}
      {source : PublishSource} (taskStored : s.tasks.get taskID = some task)
      (owner : task.tenantID = tenantID ∧ task.ownerID = ownerID)
      (version : task.version = expected)
      (built : s.publishSourceLocked rt call task taskID = .ok source) :
      PublishEffect s (.createPublishPreview tenantID ownerID taskID key expected now)
        (s.publishes.set (call.newID "publish")
          (previewOf call tenantID ownerID taskID task source now))
  | confirmed {tenantID ownerID taskID publishID token key : String} {expected : Int} {now : Time}
      {task : Task} {value : MemoryPublish}
      (confirms : Confirms rt s tenantID ownerID taskID publishID token key expected now task
        value) :
      PublishEffect s (.confirmPublish tenantID ownerID taskID publishID token key expected now)
        (s.publishes.set publishID { value with
          record := { value.record with status := .pending, updatedAt := now }
          availableAt := now })
  | moved {op : Op} {publishes : GoMap MemoryPublish}
      (moves : Moves (PublishMove op) s.publishes publishes) : PublishEffect s op publishes

theorem PublishMove.descends {op : Op} {publishID : String} {value value' : MemoryPublish}
    (move : PublishMove op publishID value value') : value.Descends value' := by
  cases move <;> exact ⟨rfl, rfl, rfl, rfl, rfl, rfl⟩

/-! ## Every operation -/

variable {rt call} {s : MemoryStore}

section

variable (rt call s) in
/-- What the operation does to the publishes. -/
abbrev Publishes (op : Op) : Prop := PublishEffect rt call s op (apply rt ⟨call, op⟩ s).1.publishes

variable {tenantID ownerID taskID publishID workerID token key : String} {expected limit : Int}
  {now : Time} {ttl : Duration}

theorem createPublishPreview_publishes :
    Publishes rt call s (.createPublishPreview tenantID ownerID taskID key expected now) := by
  dsimp only [Publishes, apply, replying, createPublishPreview, fail]
  repeat' split
  all_goals try exact .moved .refl
  next taskStored owner version _ _ _ _ built _ =>
  rw [not_or, not_not, not_not] at owner
  rw [not_or, not_not] at version
  exact .previewed taskStored owner version.2 built

theorem confirmPublish_publishes : Publishes rt call s
    (.confirmPublish tenantID ownerID taskID publishID token key expected now) := by
  dsimp only [Publishes, apply, replying, confirmPublish, fail]
  repeat' split
  all_goals try exact .moved .refl
  next unused _ _ _ _ taskStored stored owner versions status token =>
  simp only [not_or, ne_eq, not_not, not_le] at owner versions status token
  obtain ⟨taskTenant, taskOwner, tenant, owned, ofTask⟩ := owner
  exact .confirmed ⟨unused, taskStored, stored, ⟨taskTenant, taskOwner⟩, ⟨tenant, owned⟩, ofTask,
    versions.1, versions.2, status.1, status.2, token⟩

theorem completePublish_outcome (rt : Runtime) (call : Call) (workerID publishID : String)
    (result : PublishResult) (now : Time) (s : MemoryStore) :
    let t := (completePublish rt call workerID publishID result now s).1
    t.publishes = s.publishes ∨ ∃ value value', s.publishes.get publishID = some value ∧
      PublishMove (.completePublish workerID publishID result now) publishID value value' ∧
      t.publishes = s.publishes.set publishID value' := by
  unfold completePublish fail
  dsimp only
  split
  · exact .inl rfl
  next stored =>
  split
  · exact .inl rfl
  · next held =>
    simp only [not_or, ne_eq, not_not, not_le] at held
    exact .inr ⟨_, _, stored, .completed _ held.1 held.2.1 held.2.2, rfl⟩

theorem purgePublishPayload_publishes {lease : PublishPayloadLease} :
    Publishes rt call s (.purgePublishPayload lease now) := by
  dsimp only [Publishes, apply, replying, purgePublishPayload, fail]
  repeat' split
  all_goals try exact .moved .refl
  next stored _ held =>
  simp only [not_or, ne_eq, not_not, not_le] at held
  exact .moved (.set .refl stored (.purged ⟨held.1, held.2.1⟩ held.2.2.1 held.2.2.2))

theorem claimPendingPublishes_publishes :
    Publishes rt call s (.claimPendingPublishes workerID limit now ttl) := by
  dsimp only [Publishes, apply, replying]
  have perm := call.order_perm s.publishes.keys
  unfold claimPendingPublishes
  generalize (if limit < 1 then 1 else limit) = most, (if ttl ≤ 0 then minute else ttl) = held
  refine .moved (Moves.of_walk (fun visited publishes items =>
    (claimPublishes workerID most now held visited publishes items).1) (fun _ _ => rfl) ?_
    (range_keys_nodup perm) [] (mem_range perm).mp)
  intro publishID value rest publishes items
  rw [claimPublishes]
  split
  · exact .inl rfl
  · next can =>
    rw [Bool.not_eq_false] at can
    dsimp only
    split
    · exact .inr ⟨_, items, .claimed _ can, .inl rfl⟩
    · exact .inr ⟨_, _, .claimed _ can, .inr rfl⟩

theorem claimExpiredPublishPayloads_publishes :
    Publishes rt call s (.claimExpiredPublishPayloads workerID now limit ttl) := by
  dsimp only [Publishes, apply, replying]
  unfold claimExpiredPublishPayloads fail
  split
  · exact .moved .refl
  have perm := call.order_perm s.publishes.keys
  generalize (if limit < 1 then 1 else limit) = most, (if ttl ≤ 0 then minute else ttl) = held
  refine .moved (Moves.of_walk (fun visited publishes items =>
    (claimPayloads workerID now most held visited publishes items).1) (fun _ _ => rfl) ?_
    (range_keys_nodup perm) [] (mem_range perm).mp)
  intro publishID value rest publishes items
  rw [claimPayloads]
  split
  · exact .inl rfl
  · next can =>
    rw [Bool.not_eq_false] at can
    dsimp only
    split
    · exact .inr ⟨_, items, .payloadClaimed _ can, .inl rfl⟩
    · exact .inr ⟨_, _, .payloadClaimed _ can, .inr rfl⟩

end

theorem apply_publishes (rt : Runtime) (input : Input) (s : MemoryStore) :
    PublishEffect rt input.call s input.op (apply rt input s).1.publishes := by
  have kept : .publishes ∉ input.op.writes → (apply rt input s).1.publishes = s.publishes :=
    apply_frame rt input s .publishes
  obtain ⟨call, op⟩ := input
  cases op
  case createPublishPreview => exact createPublishPreview_publishes
  case confirmPublish => exact confirmPublish_publishes
  case claimPendingPublishes => exact claimPendingPublishes_publishes
  case completePublish workerID publishID result now =>
    change PublishEffect rt call s _ (completePublish rt call workerID publishID result now s).1.publishes
    rcases completePublish_outcome rt call workerID publishID result now s with
      same | ⟨_, _, stored, move, is⟩
    · rw [same]
      exact .moved .refl
    · rw [is]
      exact .moved (.set .refl stored move)
  case claimExpiredPublishPayloads => exact claimExpiredPublishPayloads_publishes
  case purgePublishPayload => exact purgePublishPayload_publishes
  all_goals exact kept (by simp) ▸ .moved .refl

/-! ## Publishes keep their identity -/

/-- The publishes with a new preview that the input asked for. -/
def Previews (rt : Runtime) (s : MemoryStore) (input : Input) (publishes : GoMap MemoryPublish) : Prop :=
  ∃ tenantID ownerID taskID key expected now task source,
    input.op = .createPublishPreview tenantID ownerID taskID key expected now ∧
    s.tasks.get taskID = some task ∧ (task.tenantID = tenantID ∧ task.ownerID = ownerID) ∧
    s.publishSourceLocked rt input.call task taskID = .ok source ∧
    publishes = s.publishes.set (input.call.newID "publish")
      (previewOf input.call tenantID ownerID taskID task source now)

theorem apply_publishes_follows {R : MemoryPublish → MemoryPublish → Prop} {input : Input}
    (refl : ∀ value, R value value) (trans : ∀ {u v w}, R u v → R v w → R u w)
    (confirmed : ∀ value : MemoryPublish, value.record.status = .preview → ∀ now,
      R value { value with
        record := { value.record with status := .pending, updatedAt := now }, availableAt := now })
    (moved : ∀ {publishID value value'}, PublishMove input.op publishID value value' → R value value')
    (rt : Runtime) (s : MemoryStore) :
    Follows R s.publishes (apply rt input s).1.publishes ∨
      Previews rt s input (apply rt input s).1.publishes := by
  have effect := apply_publishes rt input s
  obtain ⟨call, op⟩ := input
  generalize (apply rt ⟨call, op⟩ s).1 = t at effect ⊢
  generalize t.publishes = publishes at effect ⊢
  cases effect with
  | previewed taskStored owner version built =>
    exact .inr ⟨_, _, _, _, _, _, _, _, rfl, taskStored, owner, built, rfl⟩
  | confirmed confirms => exact .inl (.set refl confirms.stored (confirmed _ confirms.preview _))
  | moved moves =>
    exact .inl ⟨fun _ _ stored => moves.back moved refl trans stored,
      fun _ _ stored => moves.forth moved refl trans stored⟩

theorem apply_publishes_same (rt : Runtime) (input : Input) (s : MemoryStore) :
    Follows MemoryPublish.Descends s.publishes (apply rt input s).1.publishes ∨
      Previews rt s input (apply rt input s).1.publishes :=
  apply_publishes_follows .refl .trans (fun _ _ _ => ⟨rfl, rfl, rfl, rfl, rfl, rfl⟩)
    PublishMove.descends rt s

theorem apply_publish_descends (rt : Runtime) (input : Input) {publishID : String}
    {value' : MemoryPublish} (stored' : (apply rt input s).1.publishes.get publishID = some value') :
    (∃ value, s.publishes.get publishID = some value ∧ value.Descends value') ∨
      ∃ tenantID ownerID taskID key expected now task source,
        input.op = .createPublishPreview tenantID ownerID taskID key expected now ∧
        s.tasks.get taskID = some task ∧ (task.tenantID = tenantID ∧ task.ownerID = ownerID) ∧
        s.publishSourceLocked rt input.call task taskID = .ok source ∧
        publishID = input.call.newID "publish" ∧
        value' = previewOf input.call tenantID ownerID taskID task source now := by
  rcases apply_publishes_same rt input s with same | ⟨tenantID, ownerID, taskID, key, expected, now,
    task, source, is, taskStored, owner, built, publishes⟩
  · exact .inl (same.came publishID value' stored')
  · rw [publishes] at stored'
    rcases get_set_eq_some stored' with ⟨rfl, rfl⟩ | ⟨-, stored⟩
    · exact .inr ⟨_, _, _, _, _, _, _, _, is, taskStored, owner, built, rfl, rfl⟩
    · exact .inl ⟨value', stored, .refl value'⟩

theorem apply_publishes_into {input : Input} (fresh : Fresh s input) :
    Into MemoryPublish.Descends s.publishes (apply rt input s).1.publishes := by
  rcases apply_publishes_same rt input s with same | ⟨_, _, _, _, _, _, _, _, -, -, -, -, publishes⟩
  · exact same.went
  · rw [publishes]
    exact .insert .refl fresh.2.2 _

theorem apply_publishesKeyed (rt : Runtime) (input : Input)
    (keyed : s.publishes.Keyed (·.record.publishID)) :
    (apply rt input s).1.publishes.Keyed (·.record.publishID) := by
  intro publishID value' stored'
  rcases apply_publish_descends rt input stored' with ⟨value, stored, descends⟩ |
    ⟨_, _, _, _, _, _, _, _, _, _, _, _, rfl, rfl⟩
  · exact descends.publishID.trans (keyed publishID value stored)
  · rfl

end MemoryStore

end PrdAgent.Runcontrol
