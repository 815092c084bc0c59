import PrdAgent.Runcontrol.MemorySearch
import PrdAgent.Runcontrol.RolloutSteps
import PrdAgent.Runcontrol.RunProvision

/-!
# The store with its project memory

`ControlPlane` is the whole in-memory store: the state of the runs and reviews, the rollout control
beside it, and project memory. Its calls are those of the rollout store and the five commands of
project memory. The memory spaces are shared: `CreateTaskWithRun` opens the default space of an
owner, so a call of the store may write them too.

`apply_memory` says what a call can do to project memory (`MemoryEffect`).
-/

namespace PrdAgent.Runcontrol

open GoText

structure ControlPlane where
  rollout : RolloutStore
  tables : MemoryTables := {}

inductive ControlOp
  | rollout (op : RolloutOp)
  | createMemorySpace (command : CreateMemorySpaceCommand)
  | proposeProjectMemory (command : ProposeMemoryCommand)
  | confirmProjectMemoryCandidate (command : ReviewMemoryCandidateCommand)
  | rejectProjectMemoryCandidate (command : ReviewMemoryCandidateCommand)
  | revokeProjectMemory (command : RevokeMemoryCommand)

inductive ControlReply
  | rollout (reply : RolloutReply)
  | space (space : MemorySpace)
  | candidate (candidate : ProjectMemoryCandidate)
  | record (record : ProjectMemoryRecord)

/-- The call is the store's stand-in for the commands of project memory. -/
def RolloutOp.standsIn : RolloutOp → Bool
  | .store (.projectMemory _) => true
  | _ => false

structure ControlInput where
  call : Call
  op : ControlOp

abbrev ControlEvent := Transition.Event ControlPlane ControlInput (Except StoreError ControlReply)

def newControlPlane (policy : QueuePolicy) : ControlPlane := { rollout := newRolloutStore policy }

namespace ControlPlane

def memory (s : ControlPlane) : ProjectMemory :=
  { s.tables with memorySpaces := s.rollout.store.memorySpaces }

def putMemory (s : ControlPlane) (m : ProjectMemory) : ControlPlane where
  rollout := { s.rollout with store := { s.rollout.store with memorySpaces := m.memorySpaces } }
  tables := m.toMemoryTables

def remembering {α : Type} (s : ControlPlane) (wrap : α → ControlReply)
    (result : ProjectMemory.Result α) : ControlPlane × Except StoreError ControlReply :=
  (s.putMemory result.1, result.2.map wrap)

def apply (rt : MemoryRuntime) (input : ControlInput) (s : ControlPlane) :
    ControlPlane × Except StoreError ControlReply :=
  let call := input.call
  match input.op with
  | .rollout op =>
    let result := RolloutStore.apply rt.toRuntime ⟨call, op⟩ s.rollout
    ({ s with rollout := result.1 }, result.2.map .rollout)
  | .createMemorySpace command =>
    s.remembering .space (ProjectMemory.createMemorySpace rt call command s.memory)
  | .proposeProjectMemory command =>
    s.remembering .candidate (ProjectMemory.proposeProjectMemory rt call command s.memory)
  | .confirmProjectMemoryCandidate command =>
    s.remembering .record (ProjectMemory.confirmProjectMemoryCandidate rt call command s.memory)
  | .rejectProjectMemoryCandidate command =>
    s.remembering .candidate
      (ProjectMemory.rejectProjectMemoryCandidate rt call command s.memory)
  | .revokeProjectMemory command =>
    s.remembering .record (ProjectMemory.revokeProjectMemory rt call command s.memory)

/-- The identifiers the call may give out are not in use, and it is not the store's stand-in for the
commands of project memory. -/
def Fresh (s : ControlPlane) (input : ControlInput) : Prop :=
  match input.op with
  | .rollout op => op.standsIn = false ∧ RolloutStore.Fresh s.rollout ⟨input.call, op⟩
  | .proposeProjectMemory _ =>
    s.tables.projectMemoryCandidates.get (input.call.newID "memory-candidate") = none
  | .confirmProjectMemoryCandidate _ =>
    s.tables.projectMemoryRecords.get (input.call.newID "memory") = none
  | _ => True

instance (s : ControlPlane) : (input : ControlInput) → Decidable (Fresh s input)
  | ⟨call, .rollout op⟩ => inferInstanceAs
      (Decidable (op.standsIn = false ∧ RolloutStore.Fresh s.rollout ⟨call, op⟩))
  | ⟨_, .proposeProjectMemory _⟩ | ⟨_, .confirmProjectMemoryCandidate _⟩ =>
    inferInstanceAs (Decidable (_ = none))
  | ⟨_, .createMemorySpace _⟩ | ⟨_, .rejectProjectMemoryCandidate _⟩
  | ⟨_, .revokeProjectMemory _⟩ => .isTrue trivial

abbrev ControlHistory (rt : MemoryRuntime) (condition : ControlPlane → ControlInput → Prop) :
    ControlPlane → List ControlEvent → ControlPlane → Prop :=
  Transition.Run (apply rt) fun s input => Fresh s input ∧ condition s input

end ControlPlane

/-! ## What a call does to project memory -/

namespace ProjectMemory

variable (rt : MemoryRuntime) (call : Call)

structure Same (m m' : ProjectMemory) : Prop where
  spaces : m'.memorySpaces = m.memorySpaces
  records : m'.projectMemoryRecords = m.projectMemoryRecords
  versions : m'.projectMemoryVersions = m.projectMemoryVersions
  conflicts : m'.projectMemoryConflicts = m.projectMemoryConflicts

theorem Same.refl (m : ProjectMemory) : Same m m := ⟨rfl, rfl, rfl, rfl⟩

structure OwnsSpace (m : ProjectMemory) (tenantID ownerID spaceID : String)
    (space : MemorySpace) : Prop where
  stored : m.memorySpaces.get spaceID = some space
  tenant : space.tenantID = tenantID
  owner : space.ownerID = ownerID

/-- The call opens the space: none is stored under its identifier, or the call is
`CreateMemorySpace` and no space has its owner and project key. -/
structure Opens (m : ProjectMemory) (op : ControlOp) (space : MemorySpace) : Prop where
  identity : space.spaceID = memorySpaceID rt space.tenantID space.ownerID space.projectKey
  epoch : space.memoryEpoch = 0
  absent : m.memorySpaces.get space.spaceID = none ∨
    ∃ command, op = .createMemorySpace command ∧ space.tenantID = command.tenantID ∧
      space.ownerID = command.ownerID ∧ space.projectKey = trimSpace command.projectKey ∧
      ∀ spaceID existing, m.memorySpaces.get spaceID = some existing →
        ¬ (existing.tenantID = command.tenantID ∧ existing.ownerID = command.ownerID ∧
          existing.projectKey = trimSpace command.projectKey)

def candidateKey (spaceID : String) (candidate : ProjectMemoryCandidate) : String :=
  memorySemanticKey rt spaceID candidate.memoryType candidate.subject candidate.predicate

/-- The command may confirm the candidate as a new record. -/
structure Confirms (m : ProjectMemory) (command : ReviewMemoryCandidateCommand)
    (space : MemorySpace) (candidate : ProjectMemoryCandidate) : Prop where
  owned : OwnsSpace m command.tenantID command.ownerID command.spaceID space
  stored : m.projectMemoryCandidates.get command.candidateID = some candidate
  inSpace : candidate.spaceID = command.spaceID
  pending : candidate.status = .pending
  fresh : m.projectMemoryRecords.get (call.newID "memory") = none
  unique : m.duplicate rt call space.spaceID (candidateKey rt space.spaceID candidate) candidate =
    none

def confirmedRecord (command : ReviewMemoryCandidateCommand) (space : MemorySpace)
    (candidate : ProjectMemoryCandidate) : ProjectMemoryRecord :=
  let now := commandTime call command.now
  let version := firstVersion rt call command candidate space.spaceID (space.memoryEpoch + 1)
  { memoryID := version.memoryID, spaceID := space.spaceID
    semanticKey := candidateKey rt space.spaceID candidate, currentStatus := .active
    current := version, createdAt := now, updatedAt := now }

/-- The members of the conflict that a confirmation opens, if there is more than one. -/
def confirmedMembers (m : ProjectMemory) (command : ReviewMemoryCandidateCommand)
    (space : MemorySpace) (candidate : ProjectMemoryCandidate) : List String :=
  let record := confirmedRecord rt call command space candidate
  { m with projectMemoryRecords :=
      m.projectMemoryRecords.set record.memoryID record }.conflictMembers rt call space.spaceID
        record.semanticKey record.current

/-- The command may revoke the record. -/
structure Revokes (m : ProjectMemory) (command : RevokeMemoryCommand) (space : MemorySpace)
    (record : ProjectMemoryRecord) : Prop where
  owned : OwnsSpace m command.tenantID command.ownerID command.spaceID space
  stored : m.projectMemoryRecords.get command.memoryID = some record
  inSpace : record.spaceID = command.spaceID
  active : record.currentStatus = .active

def revokedRecord (command : RevokeMemoryCommand) (space : MemorySpace)
    (record : ProjectMemoryRecord) : ProjectMemoryRecord :=
  { record with
    currentStatus := .revoked
    current := revokedVersion rt call command record.current (space.memoryEpoch + 1)
    updatedAt := commandTime call command.now }

/-- What a call can do to project memory. -/
inductive MemoryEffect (m : ProjectMemory) : ControlOp → ProjectMemory → Prop
  | kept {op : ControlOp} {m' : ProjectMemory} (same : Same m m') : MemoryEffect m op m'
  | opened {op : ControlOp} {m' : ProjectMemory} {space : MemorySpace}
      (opens : Opens rt m op space)
      (spaces : m'.memorySpaces = m.memorySpaces.set space.spaceID space)
      (records : m'.projectMemoryRecords = m.projectMemoryRecords)
      (versions : m'.projectMemoryVersions = m.projectMemoryVersions)
      (conflicts : m'.projectMemoryConflicts = m.projectMemoryConflicts) : MemoryEffect m op m'
  | confirmed {command : ReviewMemoryCandidateCommand} {m' : ProjectMemory} {space : MemorySpace}
      {candidate : ProjectMemoryCandidate} (confirms : Confirms rt call m command space candidate)
      (spaces : m'.memorySpaces = m.memorySpaces.set space.spaceID
        (space.committed (commandTime call command.now)))
      (records : m'.projectMemoryRecords = m.projectMemoryRecords.set (call.newID "memory")
        (confirmedRecord rt call command space candidate))
      (versions : m'.projectMemoryVersions = m.projectMemoryVersions.set (call.newID "memory")
        [(confirmedRecord rt call command space candidate).current])
      (conflicts : m'.projectMemoryConflicts = m.openConflict rt space.spaceID
        (confirmedRecord rt call command space candidate).current
        (m.confirmedMembers rt call command space candidate) (commandTime call command.now)) :
      MemoryEffect m (.confirmProjectMemoryCandidate command) m'
  | revoked {command : RevokeMemoryCommand} {m' : ProjectMemory} {space : MemorySpace}
      {record : ProjectMemoryRecord} (revokes : Revokes m command space record)
      (spaces : m'.memorySpaces = m.memorySpaces.set space.spaceID
        (space.committed (commandTime call command.now)))
      (records : m'.projectMemoryRecords = m.projectMemoryRecords.set record.memoryID
        (revokedRecord rt call command space record))
      (versions : m'.projectMemoryVersions = m.projectMemoryVersions.set record.memoryID
        ((m.projectMemoryVersions.get record.memoryID).getD [] ++
          [(revokedRecord rt call command space record).current]))
      (conflicts : ∀ conflictID, m'.projectMemoryConflicts.get conflictID =
        (m.projectMemoryConflicts.get conflictID).map (m'.resolveConflict record.memoryID
          (commandTime call command.now) (space.memoryEpoch + 1))) :
      MemoryEffect m (.revokeProjectMemory command) m'

variable {rt call} {m : ProjectMemory}

theorem ownedSpace_ok_iff {tenantID ownerID spaceID : String} {space : MemorySpace} :
    m.ownedSpace tenantID ownerID spaceID = .ok space ↔ OwnsSpace m tenantID ownerID spaceID space := by
  constructor
  · fun_cases ownedSpace m tenantID ownerID spaceID <;> intro found <;> cases found
    next stored owner =>
    simp only [not_or, ne_eq, not_not] at owner
    exact ⟨stored, owner.1, owner.2⟩
  · rintro ⟨stored, tenant, owner⟩
    simp [ownedSpace, stored, tenant, owner]

theorem createMemorySpace_effect (command : CreateMemorySpaceCommand) :
    MemoryEffect rt call m (.createMemorySpace command)
      (createMemorySpace rt call command m).1 := by
  dsimp only [createMemorySpace, refuse]
  repeat' split
  all_goals try exact .kept (.refl m)
  next new =>
  have opens : Opens rt m (.createMemorySpace command) {
      spaceID := memorySpaceID rt command.tenantID command.ownerID (trimSpace command.projectKey)
      tenantID := command.tenantID, ownerID := command.ownerID
      projectKey := trimSpace command.projectKey, displayName := trimSpace command.displayName
      status := "ACTIVE", policyVersion := "project-memory-policy.v1"
      createdAt := commandTime call command.now, updatedAt := commandTime call command.now } := by
    refine ⟨rfl, rfl, .inr ⟨command, rfl, rfl, rfl, rfl, fun spaceID existing stored same => new ?_⟩⟩
    refine AssocMap.any_values.mpr ⟨spaceID, existing, stored, ?_⟩
    simp only [Bool.and_eq_true, beq_iff_eq]
    exact ⟨⟨same.1, same.2.1⟩, same.2.2⟩
  exact .opened opens rfl rfl rfl rfl

theorem reviewCandidateLocked_ok_iff {command : ReviewMemoryCandidateCommand} {space : MemorySpace}
    {candidate : ProjectMemoryCandidate} :
    m.reviewCandidateLocked command = .ok (space, candidate) ↔
      OwnsSpace m command.tenantID command.ownerID command.spaceID space ∧
      m.projectMemoryCandidates.get command.candidateID = some candidate ∧
      candidate.spaceID = command.spaceID ∧
      (command.expectedHash ≠ "" ∧ command.actorRef ≠ "" ∧ command.idempotencyKey ≠ "") ∧
      candidate.requestHash = command.expectedHash := by
  rw [← ownedSpace_ok_iff]
  constructor
  · fun_cases reviewCandidateLocked command m <;> intro found <;> cases found
    next owned stored inSpace valid =>
    simp only [not_or, ne_eq, not_not] at inSpace valid
    exact ⟨owned, stored, inSpace, ⟨valid.1, valid.2.2.1, valid.2.2.2⟩, valid.2.1⟩
  · rintro ⟨owned, stored, inSpace, ⟨hash, actor, key⟩, expected⟩
    simp [reviewCandidateLocked, owned, stored, inSpace, hash, actor, key, expected]

theorem confirmProjectMemoryCandidate_effect (command : ReviewMemoryCandidateCommand)
    (fresh : m.projectMemoryRecords.get (call.newID "memory") = none) :
    MemoryEffect rt call m (.confirmProjectMemoryCandidate command)
      (confirmProjectMemoryCandidate rt call command m).1 := by
  dsimp only [confirmProjectMemoryCandidate, refuse]
  repeat' split
  all_goals try exact .kept ⟨rfl, rfl, rfl, rfl⟩
  next found _ _ pending _ unique =>
  obtain ⟨owned, stored, inSpace, -⟩ := reviewCandidateLocked_ok_iff.mp found
  exact .confirmed ⟨owned, stored, inSpace, not_not.mp pending, fresh, unique⟩ rfl rfl rfl rfl

theorem revokeProjectMemory_effect (command : RevokeMemoryCommand) :
    MemoryEffect rt call m (.revokeProjectMemory command)
      (revokeProjectMemory rt call command m).1 := by
  fun_cases revokeProjectMemory rt call command m <;> try exact .kept (.refl m)
  next owned _ stored inSpace _ _ _ allowed _ _ _ _ _ =>
  simp only [not_or, ne_eq, not_not] at allowed
  refine .revoked ⟨ownedSpace_ok_iff.mp owned, stored, not_not.mp inSpace, allowed.2.2.1⟩ rfl rfl rfl
    fun conflictID => ?_
  exact AssocMap.get_foldl_range (call.order_perm _) _ conflictID

theorem ensureDefaultMemorySpaceLocked_opens (s : ControlPlane) (op : ControlOp)
    (tenantID ownerID : String) (now : Time) :
    (s.rollout.store.ensureDefaultMemorySpaceLocked rt.toRuntime tenantID ownerID now).2 =
        s.memory.memorySpaces ∨
      ∃ space, Opens rt s.memory op space ∧
        (s.rollout.store.ensureDefaultMemorySpaceLocked rt.toRuntime tenantID ownerID now).2 =
          s.memory.memorySpaces.set space.spaceID space := by
  unfold MemoryStore.ensureDefaultMemorySpaceLocked
  dsimp only
  split
  · exact .inl rfl
  next absent =>
  refine .inr ⟨{
    spaceID := defaultMemorySpaceID rt.toRuntime tenantID ownerID, tenantID := tenantID
    ownerID := ownerID, projectKey := "default", displayName := "Default project memory"
    status := "ACTIVE", policyVersion := "project-memory-policy.v1", createdAt := now
    updatedAt := now }, ⟨rfl, rfl, .inl absent⟩, rfl⟩

end ProjectMemory

namespace ControlPlane

open ProjectMemory

variable {rt : MemoryRuntime} {s : ControlPlane} {input : ControlInput}

theorem apply_memory (fresh : Fresh s input) :
    MemoryEffect rt input.call s.memory input.op (apply rt input s).1.memory := by
  obtain ⟨call, op⟩ := input
  cases op with
  | createMemorySpace command => exact createMemorySpace_effect command
  | confirmProjectMemoryCandidate command => exact confirmProjectMemoryCandidate_effect command fresh
  | proposeProjectMemory command | rejectProjectMemoryCandidate command =>
    dsimp only [apply, proposeProjectMemory, rejectProjectMemoryCandidate, refuse]
    repeat' split
    all_goals exact .kept ⟨rfl, rfl, rfl, rfl⟩
  | revokeProjectMemory command => exact revokeProjectMemory_effect command
  | rollout op =>
    have kept (same : (RolloutStore.apply rt.toRuntime ⟨call, op⟩ s.rollout).1.store.memorySpaces =
        s.rollout.store.memorySpaces) :
        MemoryEffect rt call s.memory (.rollout op)
          (apply rt ⟨call, .rollout op⟩ s).1.memory := .kept ⟨same, rfl, rfl, rfl⟩
    have effect := RolloutStore.apply_effect rt.toRuntime ⟨call, op⟩ s.rollout
    cases op with
    | store op =>
      cases op
      case createTaskWithRun tenantID ownerID message key =>
        rcases MemoryStore.createTaskWithRun_stored rt.toRuntime call s.rollout.store tenantID
          ownerID message key with same | ⟨task, -, -, -, -, spaces, -⟩
        · exact kept (congrArg MemoryStore.memorySpaces same)
        · rcases ensureDefaultMemorySpaceLocked_opens s _ tenantID ownerID call.now with
            same | ⟨space, opens, written⟩
          · exact kept (spaces.trans same)
          · exact .opened opens (spaces.trans written) rfl rfl rfl
      case projectMemory => cases fresh.1
      all_goals exact kept (MemoryStore.apply_frame rt.toRuntime ⟨call, _⟩ s.rollout.store
        .memorySpaces (by simp))
    | _ =>
      refine kept (congrArg MemoryStore.memorySpaces ?_)
      generalize RolloutStore.apply rt.toRuntime ⟨call, _⟩ s.rollout = done at effect ⊢
      obtain ⟨t, reply⟩ := done
      cases effect <;> rfl

/-! ## Sample calls -/

/-- A runtime that knows no texts, and the letters of ASCII. -/
def plainMemory : MemoryRuntime :=
  { Runtime.ofKnown {} with
    toUpper := mapChars Char.toUpper, formatNano := rfc3339Nano
    equalFold := fun left right => mapChars Char.toLower left == mapChars Char.toLower right }

def sampleSpaceID : String := memorySpaceID plainMemory "tenant" "owner" "project"

def spaceCreated : ControlInput := ⟨.at 1 "a0", .createMemorySpace {
  tenantID := "tenant", ownerID := "owner", projectKey := "project", displayName := "Project"
  idempotencyKey := "space" }⟩

def sampleProposal (key : String) (value : Int) (statement : String) : ProposeMemoryCommand := {
  tenantID := "tenant", ownerID := "owner", spaceID := sampleSpaceID, memoryType := .domainTerm
  subject := "subject", predicate := "is", value := .int value, statement := statement
  authorityClass := .userConfirmed, tags := ["terms"], idempotencyKey := key }

def remembered (digits : String) (value : Int) (statement : String) : List ControlInput := [
  ⟨.at 2 digits, .proposeProjectMemory (sampleProposal digits value statement)⟩,
  ⟨.at 3 digits, .confirmProjectMemoryCandidate {
    tenantID := "tenant", ownerID := "owner", spaceID := sampleSpaceID
    candidateID := "memory-candidate-" ++ digits
    expectedHash := memoryCandidateRequestHash plainMemory (sampleProposal digits value statement)
    actorRef := "actor", idempotencyKey := digits }⟩]

def forgotten (digits : String) : ControlInput := ⟨.at 4 digits, .revokeProjectMemory {
  tenantID := "tenant", ownerID := "owner", spaceID := sampleSpaceID
  memoryID := "memory-" ++ digits, expectedVersion := 1, actorRef := "actor"
  idempotencyKey := digits }⟩

end ControlPlane

end PrdAgent.Runcontrol
