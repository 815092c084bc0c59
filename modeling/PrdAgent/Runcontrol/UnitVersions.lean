import Mathlib.Data.List.Induction
import PrdAgent.Runcontrol.DependencyClosure
import PrdAgent.Runcontrol.TaskEvents

/-!
# The versions of a unit

Each unit of a locked outline has no version while it is pending, and then versions with different
numbers (`VersionsSound`). So the latest version of each unit does not depend on the order in which the
versions are visited. The identifiers of outlines and versions are derived from digests, which are taken
not to collide (`OutputUnclaimed`).
-/

namespace PrdAgent.Runcontrol

open GoText AssocMap

/-! ## The latest version -/

/-- A version of a unit that no other version in the list is later than. -/
structure IsLatest (versions : List ConfirmationUnitVersion) (unitKey : String)
    (version : ConfirmationUnitVersion) : Prop where
  mem : version ∈ versions
  key : version.unitKey = unitKey
  latest : ∀ other ∈ versions, other.unitKey = unitKey →
    other.unitVersionNo ≤ version.unitVersionNo

/-- Versions of one unit have different numbers. -/
def DistinctNumbers (versions : List ConfirmationUnitVersion) : Prop :=
  ∀ left ∈ versions, ∀ right ∈ versions, left.unitKey = right.unitKey →
    left.unitVersionNo = right.unitVersionNo → left = right

section

variable {versions : List ConfirmationUnitVersion} {unitKey : String}
  {version : ConfirmationUnitVersion}

theorem IsLatest.congr {left right : List ConfirmationUnitVersion} (same : ∀ version, version ∈ left ↔ version ∈ right)
    (latest : IsLatest left unitKey version) : IsLatest right unitKey version :=
  ⟨(same _).mp latest.mem, latest.key, fun other mem => latest.latest other ((same other).mpr mem)⟩

attribute [local instance] Latest.intOrder

theorem latestByKey_get (versions : List ConfirmationUnitVersion) (unitKey : String) :
    (latestByKey versions).get unitKey =
      (versions.filter (·.unitKey == unitKey)).argmax (·.unitVersionNo) := by
  -- the fold visits the list from the left, so the last version visited is split off
  induction versions using List.reverseRecOn with
  | nil => rfl
  | append_singleton versions added ih =>
    rw [latestByKey, List.foldl_append, List.foldl_cons, List.foldl_nil, ← latestByKey,
      List.filter_append, List.filter_singleton]
    by_cases same : added.unitKey = unitKey
    · subst same
      rw [beq_self_eq_true, cond_true, List.argmax_concat, ← ih]
      cases stored : (latestByKey versions).get added.unitKey with
      | none => exact get_set_self ..
      | some current =>
        dsimp only
        split
        · exact get_set_self ..
        · exact stored
    · rw [beq_false_of_ne same, cond_false, List.append_nil, ← ih]
      split
      · exact get_set_ne _ _ (Ne.symm same)
      · split
        · exact get_set_ne _ _ (Ne.symm same)
        · rfl

theorem latestByKey_latest (found : (latestByKey versions).get unitKey = some version) :
    IsLatest versions unitKey version := by
  rw [latestByKey_get] at found
  obtain ⟨mem, key⟩ := List.mem_filter.mp (List.argmax_mem found)
  exact ⟨mem, beq_iff_eq.mp key, fun other mem is =>
    List.le_of_mem_argmax (List.mem_filter.mpr ⟨mem, by simpa using is⟩) found⟩

theorem latestByKey_iff (distinct : DistinctNumbers versions) :
    (latestByKey versions).get unitKey = some version ↔ IsLatest versions unitKey version := by
  refine ⟨latestByKey_latest, fun latest => ?_⟩
  cases found : (latestByKey versions).get unitKey with
  | none =>
    rw [latestByKey_get, List.argmax_eq_none, List.filter_eq_nil_iff] at found
    exact absurd (beq_iff_eq.mpr latest.key) (found version latest.mem)
  | some other =>
    have first := latestByKey_latest found
    rw [distinct other first.mem version latest.mem (first.key.trans latest.key.symm) (le_antisymm
      (latest.latest other first.mem first.key) (first.latest version latest.mem latest.key))]

/-- Lists with the same versions have the same latest ones, if the numbers are distinct. -/
theorem latestByKey_congr {left right : List ConfirmationUnitVersion}
    (same : ∀ version, version ∈ left ↔ version ∈ right) (distinct : DistinctNumbers left)
    (unitKey : String) : (latestByKey left).get unitKey = (latestByKey right).get unitKey := by
  have distinct' : DistinctNumbers right := fun v mem v' mem' =>
    distinct v ((same v).mpr mem) v' ((same v').mpr mem')
  ext version
  rw [latestByKey_iff distinct, latestByKey_iff distinct']
  exact ⟨.congr same, .congr fun version => (same version).symm⟩

end

variable {version : MemoryConfirmationVersion} {unitKey : String}

namespace MemoryStore

variable {rt : Runtime} {call : Call} {s : MemoryStore}

theorem mem_visitedVersions : version ∈ s.visitedVersions call ↔
      ∃ key, s.confirmationVersions.get key = some version := by
  unfold visitedVersions
  rw [List.mem_map]
  constructor
  · rintro ⟨⟨key, _⟩, mem, rfl⟩
    exact ⟨key, (mem_range (call.order_perm _)).mp mem⟩
  · rintro ⟨key, stored⟩
    exact ⟨⟨key, version⟩, (mem_range (call.order_perm _)).mpr stored, rfl⟩

theorem baseVersion_latest {key taskID : String}
    (stored : s.confirmationVersions.get key = some version) (ofTask : version.taskID = taskID)
    (ofUnit : version.value.unitKey = unitKey) :
    version.value.unitVersionNo ≤ (s.baseVersion call taskID unitKey).unitVersionNo := by
  have mem : version ∈ (s.visitedVersions call).filter fun item =>
      item.taskID == taskID && item.value.unitKey == unitKey := by
    rw [List.mem_filter, Bool.and_eq_true, beq_iff_eq, beq_iff_eq]
    exact ⟨mem_visitedVersions.mpr ⟨key, stored⟩, ofTask, ofUnit⟩
  have latest := Latest.foldl_some (f := ConfirmationUnitVersion.unitVersionNo) {}
    (((s.visitedVersions call).filter fun item =>
      item.taskID == taskID && item.value.unitKey == unitKey).map (·.value))
  rw [List.foldl_map] at latest
  exact List.le_of_mem_argmax (.tail _ (List.mem_map_of_mem mem)) latest

end MemoryStore

/-! ## Versions and units -/

/-- Two versions of the same unit of the same outline, with the same number. -/
structure MemoryConfirmationVersion.SameNumber (version version' : MemoryConfirmationVersion) :
    Prop where
  taskID : version'.taskID = version.taskID
  outlineVersionID : version'.value.outlineVersionID = version.value.outlineVersionID
  unitKey : version'.value.unitKey = version.value.unitKey
  unitVersionNo : version'.value.unitVersionNo = version.value.unitVersionNo

namespace MemoryConfirmationVersion.SameNumber

variable {version version' version'' : MemoryConfirmationVersion}

theorem symm (same : version.SameNumber version') : version'.SameNumber version :=
  ⟨same.taskID.symm, same.outlineVersionID.symm, same.unitKey.symm, same.unitVersionNo.symm⟩

theorem trans (first : version.SameNumber version') (second : version'.SameNumber version'') :
    version.SameNumber version'' :=
  ⟨second.taskID.trans first.taskID, second.outlineVersionID.trans first.outlineVersionID,
    second.unitKey.trans first.unitKey, second.unitVersionNo.trans first.unitVersionNo⟩

end MemoryConfirmationVersion.SameNumber

/-- Outlines have identifiers and their versions are stored apart from those of drafts; a draft
outline and a pending unit have no versions; versions of a unit have different numbers. -/
structure VersionsSound (data : ReviewData) : Prop where
  named : ∀ taskID outline, data.outlines.get taskID = some outline →
    outline.outlineVersionID ≠ ""
  filed : ∀ key version, data.versions.get key = some version →
    version.value.outlineVersionID ≠ "" → ∃ digest, key = "review-unit-version-" ++ digest
  drafts : ∀ taskID outline, data.outlines.get taskID = some outline → outline.status = .draft →
    ∀ key version, data.versions.get key = some version → version.taskID = taskID →
      version.value.outlineVersionID ≠ outline.outlineVersionID
  pending : ∀ taskID outline, data.outlines.get taskID = some outline → outline.status = .locked →
    ∀ unitKey unit, (data.unitsOf taskID).get unitKey = some unit → unit.status = .pending →
    ∀ key version, data.versions.get key = some version → version.taskID = taskID →
      version.value.outlineVersionID = outline.outlineVersionID → version.value.unitKey ≠ unitKey
  apart : ∀ key version key' version', data.versions.get key = some version →
    data.versions.get key' = some version' → version.value.outlineVersionID ≠ "" →
    version.SameNumber version' → key = key'

def VersionsFrom (versions versions' : GoMap MemoryConfirmationVersion) : Prop :=
  ∀ key version', versions'.get key = some version' → version'.value.outlineVersionID ≠ "" →
    ∃ version, versions.get key = some version ∧ version.SameNumber version'

def PendingFrom (data data' : ReviewData) : Prop :=
  ∀ taskID unitKey unit, (data'.unitsOf taskID).get unitKey = some unit →
    unit.status = .pending → (data.unitsOf taskID).get unitKey = some unit

theorem VersionsFrom.refl (versions : GoMap MemoryConfirmationVersion) :
    VersionsFrom versions versions :=
  fun _ version stored _ => ⟨version, stored, rfl, rfl, rfl, rfl⟩

variable {versions : GoMap MemoryConfirmationVersion}

theorem VersionsFrom.set {key : String}
    {version' : MemoryConfirmationVersion} (stored : versions.get key = some version)
    (same : version.SameNumber version') : VersionsFrom versions (versions.set key version') :=
  forall_set (fun _ => ⟨version, stored, same⟩) (VersionsFrom.refl versions)

section

variable {data : ReviewData} {tasks : GoMap Task} {outlines : GoMap ReviewOutlineVersion}
  {versions : GoMap MemoryConfirmationVersion} {reports : GoMap FullReviewReport}

theorem PendingFrom.refl : PendingFrom data ⟨tasks, outlines, data.units, versions, reports⟩ :=
  fun _ _ _ found _ => found

theorem ReviewData.unitsOf_set (data : ReviewData) (taskID : String) (units : GoMap ReviewUnit)
    (other : String) :
    ReviewData.unitsOf ⟨tasks, outlines, data.units.set taskID units, versions, reports⟩ other =
      if other = taskID then units else data.unitsOf other := by
  unfold ReviewData.unitsOf
  rw [get_set]
  split <;> rfl

theorem PendingFrom.set (taskID : String) {unit : ReviewUnit} (other : unit.status ≠ .pending) :
    PendingFrom data ⟨tasks, outlines,
      data.units.set taskID ((data.unitsOf taskID).set unitKey unit), versions, reports⟩ := by
  intro ofTask key found stored pending
  rw [ReviewData.unitsOf_set] at stored
  split at stored
  · next same =>
    rcases get_set_eq_some stored with ⟨-, rfl⟩ | ⟨-, stored⟩
    · exact absurd pending other
    · rw [same]
      exact stored
  · exact stored

end

namespace VersionsSound

variable {data : ReviewData} {tasks : GoMap Task} {units : GoMap (GoMap ReviewUnit)}
  {versions : GoMap MemoryConfirmationVersion} {reports : GoMap FullReviewReport}

theorem transfer (sound : VersionsSound data) (descend : VersionsFrom data.versions versions)
    (pending : PendingFrom data ⟨tasks, data.outlines, units, versions, reports⟩) :
    VersionsSound ⟨tasks, data.outlines, units, versions, reports⟩ where
  named := sound.named
  filed := by
    intro key version stored outlined
    obtain ⟨before, found, same⟩ := descend key version stored outlined
    exact sound.filed key before found (same.outlineVersionID ▸ outlined)
  drafts := by
    intro taskID outline found draft key version stored ofTask ofOutline
    obtain ⟨before, stored, same⟩ := descend key version stored
      (ofOutline ▸ sound.named taskID outline found)
    exact sound.drafts taskID outline found draft key before stored
      (same.taskID.symm.trans ofTask) (same.outlineVersionID.symm.trans ofOutline)
  pending := by
    intro taskID outline found locked unitKey unit unitStored unitPending key version stored ofTask
      ofOutline ofUnit
    obtain ⟨before, stored, same⟩ := descend key version stored
      (ofOutline ▸ sound.named taskID outline found)
    exact sound.pending taskID outline found locked unitKey unit
      (pending taskID unitKey unit unitStored unitPending) unitPending key before stored
      (same.taskID.symm.trans ofTask) (same.outlineVersionID.symm.trans ofOutline)
      (same.unitKey.symm.trans ofUnit)
  apart := by
    intro key version key' version' stored stored' outlined same
    obtain ⟨before, found, descends⟩ := descend key version stored outlined
    obtain ⟨before', found', descends'⟩ := descend key' version' stored'
      (same.outlineVersionID ▸ outlined)
    exact sound.apart key before key' before' found found' (descends.outlineVersionID ▸ outlined)
      ((descends.trans same).trans descends'.symm)

variable {outline : ReviewOutlineVersion} {taskID : String}

theorem store (sound : VersionsSound data) {digest : String} {unit : ReviewUnit}
    (stored : data.outlines.get taskID = some outline) (locked : outline.status = .locked)
    (unitStatus : unit.status ≠ .pending) (ofTask : version.taskID = taskID)
    (ofOutline : version.value.outlineVersionID = outline.outlineVersionID)
    (ofUnit : version.value.unitKey = unitKey)
    (unused : ∀ key other, data.versions.get key = some other → ¬ version.SameNumber other) :
    VersionsSound ⟨tasks, data.outlines,
      data.units.set taskID ((data.unitsOf taskID).set unitKey unit),
      data.versions.set ("review-unit-version-" ++ digest) version, reports⟩ where
  named := sound.named
  filed := forall_set (fun _ => ⟨digest, rfl⟩) sound.filed
  drafts := by
    intro other found outlineStored draft
    refine forall_set (fun versionTask => ?_) (sound.drafts other found outlineStored draft)
    subst versionTask
    rw [ofTask] at outlineStored
    cases stored.symm.trans outlineStored
    cases locked.symm.trans draft
  pending := by
    intro other found outlineStored isLocked otherKey unit' unitStored pending key found' stored'
      versionTask versionOutline
    rcases get_set_eq_some stored' with ⟨-, rfl⟩ | ⟨-, stored'⟩
    · rw [ofUnit]
      rintro rfl
      rw [ReviewData.unitsOf_set, if_pos (versionTask.symm.trans ofTask), get_set_self]
        at unitStored
      cases unitStored
      exact absurd pending unitStatus
    · exact sound.pending other found outlineStored isLocked otherKey unit'
        (PendingFrom.set taskID unitStatus other otherKey unit' unitStored pending) pending key found'
        stored' versionTask versionOutline
  apart := by
    intro key found key' found' stored' stored'' outlined same
    rcases get_set_eq_some stored' with ⟨first, rfl⟩ | ⟨-, before⟩
    · rcases get_set_eq_some stored'' with ⟨second, -⟩ | ⟨-, before'⟩
      · exact first.trans second.symm
      · exact absurd same (unused key' found' before')
    · rcases get_set_eq_some stored'' with ⟨-, rfl⟩ | ⟨-, before'⟩
      · exact absurd same.symm (unused key found before)
      · exact sound.apart key found key' found' before before' outlined same

end VersionsSound

namespace MemoryStore

variable {rt : Runtime} {call : Call} {s : MemoryStore}

/-- A new output derives identifiers that no version has for itself or for its outline. -/
def OutputUnclaimed (rt : Runtime) (s : MemoryStore) (input : Input) : Prop :=
  (match input.op with
    | .submitRunOutput lease output =>
      let identity := joinKey lease.runID output.outputKey
      (s.runOutputs.get identity).isSome ||
        ((s.confirmationVersions.get (unitVersionIDFor rt identity)).isNone &&
          s.confirmationVersions.values.all fun version =>
            version.value.outlineVersionID != "outline-version-" ++ rt.stableHash identity)
    | _ => true) = true

instance (rt : Runtime) (s : MemoryStore) (input : Input) :
    Decidable (OutputUnclaimed rt s input) :=
  inferInstanceAs (Decidable (_ = true))

theorem Submits.unclaimed {lease : LeaseContext} {output : RunOutput} {target : OutputTarget}
    {decoded : DecodedOutput} (submits : Submits rt call s lease output target decoded)
    (unclaimed : OutputUnclaimed rt s ⟨call, .submitRunOutput lease output⟩) :
    s.confirmationVersions.get (unitVersionIDFor rt target.identity) = none ∧
      ∀ key version, s.confirmationVersions.get key = some version →
        version.value.outlineVersionID ≠ "outline-version-" ++ rt.stableHash target.identity := by
  unfold OutputUnclaimed at unclaimed
  dsimp only at unclaimed
  rw [← submits.identity, submits.unused] at unclaimed
  simp only [Option.isSome_none, Bool.false_or, Bool.and_eq_true, Option.isNone_iff_eq_none]
    at unclaimed
  refine ⟨unclaimed.1, fun key version stored => ?_⟩
  exact bne_iff_ne.mp (all_values.mp unclaimed.2 key version stored)

variable {task : Task} {draftID key taskID : String} {scope : RevisionScope}
  {candidates : List ConfirmationCandidate}

theorem storeDraftUnits_get
    (stored : (storeDraftUnits rt call task draftID scope candidates versions).get key =
      some version) : versions.get key = some version ∨
      version.taskID = task.taskID ∧ version.value.outlineVersionID = "" := by
  induction candidates generalizing versions with
  | nil => exact .inl stored
  | cons candidate rest ih =>
    rcases ih stored with stored | draft
    · rcases get_set_eq_some stored with ⟨-, rfl⟩ | ⟨-, stored⟩
      · exact .inr ⟨rfl, rfl⟩
      · exact .inl stored
    · exact .inr draft

theorem ReviewStep.versionsSound {op : Op} {reply : Except StoreError Reply} {data : ReviewData}
    (step : ReviewStep rt call s op reply data) (keyed : s.tasks.Keyed Task.taskID)
    (all : AllUnitsClosed s.reviewUnits) (unclaimed : OutputUnclaimed rt s ⟨call, op⟩) (sound : VersionsSound s.reviewData) :
    VersionsSound data := by
  cases step with
  | kept | created | reviewed | publishConfirmed | publishCompleted =>
    exact sound.transfer (.refl _) .refl
  | outlineDrafted reply submits =>
    refine ⟨forall_set (fun empty => ?_) sound.named, sound.filed, forall_set (fun _ key version stored _ =>
      (submits.unclaimed unclaimed).2 key version stored) sound.drafts, forall_set nofun sound.pending,
      sound.apart⟩
    have length := congrArg String.length empty
    rw [show (draftOutline rt call _ _).outlineVersionID = "outline-version-" ++ _ from rfl,
      String.length_append] at length
    cases (Nat.add_eq_zero_iff.mp length).1
  | unitGenerated reply submits pending =>
    have found := lockedUnit_ok pending
    refine sound.store found.outlineStored found.locked ?_ rfl rfl rfl
      fun key other stored same => ?_
    · exact nofun
    have unitKey := (unitsClosed_unitsOf all _).keyed _ _ found.unitStored
    exact sound.pending _ _ found.outlineStored found.locked _ _ found.unitStored
      found.unitStatus key other stored same.taskID same.outlineVersionID
      (same.unitKey.trans unitKey)
  | @unitRevised _ _ target _ _ _ unit reply submits reopened based =>
    have found := lockedUnit_ok reopened
    refine sound.store found.outlineStored found.locked ?_ rfl rfl rfl
      fun key other stored same => ?_
    · exact nofun
    have bound : other.value.unitVersionNo ≤
        (s.baseVersion call target.task.taskID unit.unitKey).unitVersionNo :=
      baseVersion_latest stored same.taskID same.unitKey
    have number : other.value.unitVersionNo =
        (s.baseVersion call target.task.taskID unit.unitKey).unitVersionNo + 1 :=
      same.unitVersionNo
    omega
  | outlineLocked lockable outcome =>
    have key : _ = _ := keyed _ _ lockable.taskStored
    have drafted := key ▸ lockable.outlineStored
    have named := sound.named _ _ drafted
    refine ⟨forall_set named sound.named, sound.filed,
      forall_set nofun sound.drafts, ?_, sound.apart⟩
    -- a draft outline has no versions
    intro other found stored locked unitKey unit unitStored pending key version versionStored versionTask
      ofOutline
    rcases get_set_eq_some stored with ⟨rfl, rfl⟩ | ⟨ne, stored⟩
    · exact absurd ofOutline
        (sound.drafts _ _ drafted lockable.draft key version versionStored versionTask)
    · change ((⟨_, _, s.reviewData.units.set _ _, _, _⟩ : ReviewData).unitsOf other).get unitKey = _
        at unitStored
      rw [ReviewData.unitsOf_set, if_neg ne] at unitStored
      exact sound.pending other found stored locked unitKey unit unitStored pending key version
        versionStored versionTask ofOutline
  | unitConfirmed decides dependencies idle outcome
  | unitReopened decides independent idle outcome =>
    refine sound.transfer (.set decides.versionStored ⟨rfl, rfl, rfl, rfl⟩) (.set _ ?_)
    exact nofun
  | draftSubmitted reply draftID scope candidates stored taskStored =>
    refine sound.transfer (fun key version stored outlined => ?_) .refl
    rcases storeDraftUnits_get stored with stored | ⟨-, draft⟩
    · exact VersionsFrom.refl _ key version stored outlined
    · exact absurd draft outlined
  | draftDecided reply status taskStatus noOutline taskStored stored versionTask =>
    exact sound.transfer (.set stored ⟨rfl, rfl, rfl, rfl⟩) .refl

theorem reviewVersionID_ne (digest digest' : String) :
    "review-unit-version-" ++ digest ≠ "unit-version-" ++ digest' := by
  intro same
  have first := congrArg (fun text => text.toList.head?) same
  rw [String.toList_append, String.toList_append] at first
  cases first

theorem storeDraftUnits_get_other (other : ∀ digest, key ≠ "unit-version-" ++ digest) :
    (storeDraftUnits rt call task draftID scope candidates versions).get key = versions.get key := by
  induction candidates generalizing versions with
  | nil => rfl
  | cons candidate rest ih => exact ih.trans (get_set_ne _ _ (other _))

theorem VersionsSound.initial (policy : QueuePolicy) :
    VersionsSound (newMemoryStore policy).reviewData := by
  have none {α : Type} {key : String} {value : α} (stored : (∅ : GoMap α).get key = some value) :
      False := by
    cases stored
  exact ⟨fun _ _ stored => (none stored).elim, fun _ _ stored => (none stored).elim,
    fun _ _ stored => (none stored).elim, fun _ _ stored => (none stored).elim,
    fun _ _ _ _ stored => (none stored).elim⟩

def outlineVersions (call : Call) (s : MemoryStore) (taskID outlineVersionID : String) :
    List ConfirmationUnitVersion :=
  ((s.visitedVersions call).filter fun item =>
    item.taskID == taskID && item.value.outlineVersionID == outlineVersionID).map (·.value)

theorem mem_outlineVersions {outlineVersionID : String} {value : ConfirmationUnitVersion} :
    value ∈ outlineVersions call s taskID outlineVersionID ↔
      ∃ key version, s.confirmationVersions.get key = some version ∧ version.taskID = taskID ∧
        version.value.outlineVersionID = outlineVersionID ∧ version.value = value := by
  unfold outlineVersions
  simp only [List.mem_map, List.mem_filter, mem_visitedVersions, Bool.and_eq_true, beq_iff_eq]
  constructor
  · rintro ⟨version, ⟨⟨key, stored⟩, ofTask, ofOutline⟩, is⟩
    exact ⟨key, version, stored, ofTask, ofOutline, is⟩
  · rintro ⟨key, version, stored, ofTask, ofOutline, is⟩
    exact ⟨version, ⟨⟨key, stored⟩, ofTask, ofOutline⟩, is⟩

theorem VersionsSound.distinctNumbers (sound : VersionsSound s.reviewData) (call : Call)
    {outlineVersionID : String} (named : outlineVersionID ≠ "") :
    DistinctNumbers (outlineVersions call s taskID outlineVersionID) := by
  intro left leftMem right rightMem unitKey number
  obtain ⟨key, version, stored, ofTask, ofOutline, rfl⟩ := mem_outlineVersions.mp leftMem
  obtain ⟨key', version', stored', ofTask', ofOutline', rfl⟩ := mem_outlineVersions.mp rightMem
  have same := sound.apart key version key' version' stored stored' (ofOutline ▸ named)
    ⟨ofTask'.trans ofTask.symm, ofOutline'.trans ofOutline.symm, unitKey.symm, number.symm⟩
  subst same
  cases stored.symm.trans stored'
  rfl

end MemoryStore

end PrdAgent.Runcontrol
