import PrdAgent.Storage.RunRows
import PrdAgent.Runcontrol.ContentHashes

/-!
# Run outputs in the PostgreSQL store

`SubmitRunOutput` of `storage/unit_output.go` and the query of `loadReviewConfirmedContext`, on the
tables of `0011_confirmation_units.sql` and `0016_review_workflow_orchestration.sql`. A command is one
transaction: if it returns an error, the tables are as they were. Other commands are present by what
they do to the units and their versions, and may do anything to the other tables (`RowInput`).

A generated unit is stored trimmed, with the hash it was checked against. A revised unit is stored
trimmed, with the hash its payload names, which nothing checks (`HashedPatches`).
-/

namespace PrdAgent.Storage

open Runcontrol GoText AssocMap Transition
open MemoryStore (unitText)

/-! ## The tables -/

/-- The payload of a unit output, as the store decodes it once it is validated. -/
structure UnitOutputValue where
  unitKey : String
  markdown : String
  replacementMarkdown : String
  contentHash : String
  claimIDs : List String
  unknownIDs : List String
  preservedUnknownIDs : List String

/-- The text, the open questions and the awaited review status of a unit output, by its purpose. -/
def UnitOutputValue.text (value : UnitOutputValue) (purpose : RunPurpose) : String :=
  if purpose = .reviseUnit then value.replacementMarkdown else value.markdown

def UnitOutputValue.unknowns (value : UnitOutputValue) (purpose : RunPurpose) : List String :=
  if purpose = .reviseUnit then value.preservedUnknownIDs else value.unknownIDs

def expectedStatus (purpose : RunPurpose) : UnitStatus :=
  if purpose = .reviseUnit then .reopened else .pending

/-- A runtime that decodes unit outputs also into one structure for both kinds. A member of the
document is decoded to the same value in every structure that has it. -/
structure OutputRuntime extends Runtime where
  unmarshalUnitOutput : ByteArray → Option UnitOutputValue
  output_candidate : ∀ payload value candidate, unmarshalUnitOutput payload = some value →
    unmarshalUnitCandidate payload = some candidate → value.unitKey = candidate.unitKey ∧
      value.markdown = candidate.markdown ∧ value.contentHash = candidate.contentHash
  output_patch : ∀ payload value patch, unmarshalUnitOutput payload = some value →
    unmarshalUnitPatch payload = some patch → value.unitKey = patch.unitKey ∧
      value.replacementMarkdown = patch.replacementMarkdown

/-- A scope that `BuildUnitScope` made; no other is inserted into `go_run_unit_scopes`. -/
structure BuiltScope (rt : Runtime) where
  scope : UnitScope
  built : ∃ given, buildUnitScope rt given = .ok scope

/-- A row of `go_run_outputs`. -/
structure OutputRow where
  contentHash : String
  /-- `COALESCE(materialized_task_version,expected_task_version)`. -/
  taskVersion : Int

/-- A row of `go_prd_outline_versions`. -/
structure OutlineVersionRow where
  outlineID : String
  version : Int
  status : OutlineStatus
  contentHash : String

/-- A row of `go_confirmation_units`, with its `COALESCE`s. -/
structure UnitRow where
  unitID : String
  taskID : String
  unitKey : String
  outlineVersionID : Option String := none
  title : String := ""
  ordinal : Int := 0
  dependsOn : List String := []
  reviewStatus : UnitStatus := .pending

/-- A row of `go_confirmation_unit_versions`. The payload column holds a confirmation candidate. -/
structure UnitVersionRow where
  unitID : String
  draftID : Option String := none
  contentHash : String
  payload : ConfirmationCandidate
  outlineVersionID : Option String := none
  unitVersionNo : Option Int := none

/-- A row of `go_full_review_reports`. -/
structure ReportRow where
  taskID : String
  outlineVersionID : String
  disposition : String

/-- What a command returns beside the errors of run control: a constraint of a table, or a `NULL` read
into a text. -/
inductive RowError
  | refused (err : StoreError)
  | database

/-- The tables a run output is read from and written to, by primary key. -/
structure ReviewRows (rt : OutputRuntime) where
  runs : GoMap RunRow := ∅
  scopes : GoMap (BuiltScope rt.toRuntime) := ∅
  tasks : GoMap Task := ∅
  outputs : AssocMap (String × String) OutputRow := ∅
  /-- `go_prd_outlines`, by task: `task_id` is unique. -/
  outlines : GoMap String := ∅
  outlineVersions : GoMap OutlineVersionRow := ∅
  units : GoMap UnitRow := ∅
  versions : GoMap UnitVersionRow := ∅
  reports : GoMap ReportRow := ∅

namespace ReviewRows

variable {rt : OutputRuntime} (rows : ReviewRows rt)

/-- `WHERE task_id=$1 AND unit_key=$2`. -/
def unitByKey (taskID unitKey : String) : Option UnitRow :=
  rows.units.values.find? fun unit => unit.taskID == taskID && unit.unitKey == unitKey

/-- `SELECT COALESCE(MAX(unit_version_no),0)+1 … WHERE unit_id=$1 AND outline_version_id=$2`. -/
def nextVersionNo (unitID outlineVersionID : String) : Int :=
  ((rows.versions.values.filter fun version => version.unitID == unitID &&
    version.outlineVersionID == some outlineVersionID).map
      fun version => version.unitVersionNo.getD 0).foldl max 0 + 1

def lockedOutline (taskID : String) : Option String :=
  ((rows.outlineVersions.range id).find? fun entry =>
    rows.outlines.get taskID == some entry.2.outlineID && entry.2.status == .locked).map Prod.fst

/-- `UPDATE go_control_tasks SET version=$2,status=$3,updated_at=$4`. -/
def advanceTask (task : Task) (status : TaskStatus) (now : Time) : ReviewRows rt :=
  { rows with tasks := rows.tasks.set task.taskID (task.advanced status now) }

/-! ## `SubmitRunOutput` -/

/-- The branch for outlines. -/
def materializeOutline (call : Call) (runID outputKey : String) (task : Task)
    (candidate : OutlineCandidate) : Except RowError (ReviewRows rt) :=
  let outlineID := "outline-" ++ rt.stableHash task.taskID
  let outlineVersionID := "outline-version-" ++ rt.stableHash (joinNul [runID, outputKey])
  let outlines := if (rows.outlines.get task.taskID).isSome then rows.outlines
    else rows.outlines.set task.taskID outlineID
  if (rows.outlineVersions.get outlineVersionID).isSome ||
      rows.outlineVersions.values.any fun version =>
        version.outlineID == outlineID && version.version == 1 then .error .database
  else .ok (advanceTask { rows with
      outlines := outlines
      outlineVersions := rows.outlineVersions.set outlineVersionID {
        outlineID := outlineID, version := 1, status := .draft
        contentHash := candidate.contentHash } } task .outlineReview call.now)

/-- The version a unit output becomes. -/
def unitVersion (rt : OutputRuntime) (unit : UnitRow) (outlineVersionID : String)
    (value : UnitOutputValue) (markdown : String) (unknownIDs : List String) (versionNo : Int) :
    UnitVersionRow :=
  let named := bareSHA256 value.contentHash
  let normalizedHash := if named = "" then rt.stableHash (trimSpace markdown) else named
  { unitID := unit.unitID, contentHash := normalizedHash
    outlineVersionID := some outlineVersionID, unitVersionNo := some versionNo
    payload := {
      unitKey := value.unitKey, title := unit.title, ordinal := unit.ordinal
      markdown := trimSpace markdown, contentHash := normalizedHash, claimIDs := value.claimIDs
      unknownIDs := unknownIDs, dependsOn := unit.dependsOn } }

/-- The branch for generated and revised units. -/
def materializeUnit (call : Call) (runID : String) (output : RunOutput) (task : Task)
    (scope : UnitScope) : Except RowError (ReviewRows rt) :=
  match rt.unmarshalUnitOutput output.payload with
  | none => .error (.refused ⟨.invalidPayload, ""⟩)
  | some value =>
  match rows.unitByKey task.taskID scope.currentUnitKey with
  | none => .error (.refused ⟨.notFound, ""⟩)
  | some unit =>
  match unit.outlineVersionID with
  | none => .error .database
  | some outlineVersionID =>
  if unit.reviewStatus ≠ expectedStatus output.runPurpose ∨
      value.unitKey ≠ scope.currentUnitKey then
    .error (.refused ⟨.invalidRunStatus, ""⟩)
  else
  let versionNo := rows.nextVersionNo unit.unitID outlineVersionID
  let unitVersionID := "review-unit-version-" ++ rt.stableHash (joinNul [runID, output.outputKey])
  if (rows.versions.get unitVersionID).isSome then .error .database
  else .ok (advanceTask { rows with
      versions := rows.versions.set unitVersionID
        (unitVersion rt unit outlineVersionID value (value.text output.runPurpose)
          (value.unknowns output.runPurpose) versionNo)
      units := rows.units.set unit.unitID { unit with reviewStatus := .reviewing } }
    task .unitReview call.now)

/-- The branch for full reviews. -/
def materializeReview (call : Call) (runID : String) (output : RunOutput) (task : Task) :
    Except RowError (ReviewRows rt) :=
  match rt.unmarshalOutcome output.payload with
  | none => .error (.refused ⟨.invalidPayload, ""⟩)
  | some outcome =>
  if outcome ≠ "PASSED" ∧ outcome ≠ "NEEDS_REVISION" then .error (.refused ⟨.invalidPayload, ""⟩)
  else match rows.lockedOutline task.taskID with
  | none => .error (.refused ⟨.notFound, ""⟩)
  | some outlineVersionID =>
  let reportID := "full-review-" ++ rt.stableHash (joinNul [runID, output.outputKey])
  if (rows.reports.get reportID).isSome then .error .database
  else .ok (advanceTask { rows with
      reports := rows.reports.set reportID {
        taskID := task.taskID, outlineVersionID := outlineVersionID, disposition := outcome } }
    task (if outcome = "PASSED" then .reviewable else .fullReview) call.now)

/-- The materialisation of an output by its purpose. -/
def materialize (call : Call) (runID : String) (output : RunOutput) (task : Task)
    (scope : UnitScope) : Except RowError (ReviewRows rt) :=
  match output.runPurpose with
  | .planOutline => match parseOutlineCandidate rt.toRuntime output.payload with
    | .error err => .error (.refused err)
    | .ok candidate => rows.materializeOutline call runID output.outputKey task candidate
  | .generateUnit | .reviseUnit => rows.materializeUnit call runID output task scope
  | .fullReview => rows.materializeReview call runID output task
  | .other _ => .ok rows

/-- `SubmitRunOutput` once the lease is checked and the scope and task are read. -/
def acceptOutput (call : Call) (runID : String) (output : RunOutput) (task : Task)
    (scope : UnitScope) : ReviewRows rt × Except RowError RunOutputReceipt :=
  let contentHash := bareSHA256 output.contentHash
  match rows.outputs.get (runID, output.outputKey) with
  | some existing =>
    if existing.contentHash ≠ contentHash then (rows, .error (.refused ⟨.invalidIdempotency, ""⟩))
    else (rows, .ok {
      outputKey := output.outputKey, contentHash := existing.contentHash
      taskVersion := existing.taskVersion })
  | none =>
  match validateRunOutput rt.toRuntime scope output task.version with
  | .error err => (rows, .error (.refused err))
  | .ok () =>
  match rows.materialize call runID output task scope with
  | .error err => (rows, .error err)
  | .ok done =>
    let taskVersion := match output.runPurpose with
      | .other _ => task.version
      | _ => task.version + 1
    ({ done with outputs :=
        rows.outputs.set (runID, output.outputKey) ⟨contentHash, taskVersion⟩ },
      .ok { outputKey := output.outputKey, contentHash := contentHash, taskVersion := taskVersion })

def submitRunOutput (call : Call) (lease : LeaseContext) (output : RunOutput) :
    ReviewRows rt × Except RowError RunOutputReceipt :=
  match rows.runs.get lease.runID with
  | none => (rows, .error (.refused ⟨.leaseLost, ""⟩))
  | some run =>
  if run.runningUnder lease call.now = false then (rows, .error (.refused ⟨.leaseLost, ""⟩))
  else match rows.scopes.get lease.runID, rows.tasks.get run.run.taskID with
  | some scope, some task => rows.acceptOutput call lease.runID output task scope.scope
  | some _, none | none, _ => (rows, .error (.refused ⟨.notFound, ""⟩))

/-! ## Confirmed context -/

/-- The latest version of a unit under the outline it belongs to. -/
def latestVersion (unit : UnitRow) : Option UnitVersionRow :=
  (rows.versions.values.filter fun version => version.unitID == unit.unitID &&
    unit.outlineVersionID.isSome && version.outlineVersionID == unit.outlineVersionID).foldl
      (fun latest version => match latest with
        | none => some version
        | some current =>
          if current.unitVersionNo.getD 0 < version.unitVersionNo.getD 0 then some version
          else latest) none

def contextItem (unit : UnitRow) (version : UnitVersionRow) : ConfirmedUnitContext := {
  unitKey := unit.unitKey, unitVersion := version.unitVersionNo.getD 0
  contentHash := version.contentHash, summary := unit.title, markdown := version.payload.markdown }

/-- `loadReviewConfirmedContext`, up to the order of its rows. -/
def loadReviewConfirmedContext (taskID : String) : List ConfirmedUnitContext :=
  (rows.units.values.filter fun unit =>
    unit.taskID == taskID && unit.reviewStatus == .confirmed).filterMap fun unit =>
      (rows.latestVersion unit).map (contextItem unit)

/-! ## Steps of the store -/

/-- What the commands of the store do to the tables. -/
inductive RowInput (rt : OutputRuntime)
  | submitRunOutput (call : Call) (lease : LeaseContext) (output : RunOutput)
  /-- `ConfirmOutline` and `SubmitDraft` insert a unit. -/
  | insertUnit (unit : UnitRow)
  /-- `UPDATE go_confirmation_units SET review_status=$2 WHERE unit_id=$1`. -/
  | setReviewStatus (unitID : String) (status : UnitStatus)
  /-- `SubmitDraft` inserts the version of one unit of a patch. -/
  | insertDraftUnit (versionID unitID draftID taskID runID : String) (patch : ByteArray)
      (index : Nat)
  /-- Statements on other tables, whose new rows are those of the given tables. -/
  | elsewhere (others : ReviewRows rt)

/-- The version of a draft's unit. -/
def draftUnitRow (unitID draftID : String) (candidate : ConfirmationCandidate) : UnitVersionRow := {
  unitID := unitID, draftID := some draftID, contentHash := candidate.contentHash
  payload := candidate }

/-- One statement or command. -/
def apply (input : RowInput rt) (rows : ReviewRows rt) :
    ReviewRows rt × Except RowError RunOutputReceipt :=
  match input with
  | .submitRunOutput call lease output => rows.submitRunOutput call lease output
  | .insertUnit unit =>
    if (rows.units.get unit.unitID).isSome || (rows.unitByKey unit.taskID unit.unitKey).isSome then
      (rows, .error .database)
    else ({ rows with units := rows.units.set unit.unitID unit }, .ok {})
  | .setReviewStatus unitID status => match rows.units.get unitID with
      | none => (rows, .ok {})
      | some unit =>
        ({ rows with units := rows.units.set unitID { unit with reviewStatus := status } }, .ok {})
  | .insertDraftUnit versionID unitID draftID taskID runID patch index =>
    match parseConfirmationCandidates rt.toRuntime patch taskID runID with
    | .error err => (rows, .error (.refused err))
    | .ok candidates => match candidates[index]? with
      | none => (rows, .ok {})
      | some candidate =>
        if (rows.versions.get versionID).isSome then (rows, .error .database)
        else ({ rows with versions :=
            rows.versions.set versionID (draftUnitRow unitID draftID candidate) }, .ok {})
  | .elsewhere others =>
    ({ others with outputs := rows.outputs, units := rows.units, versions := rows.versions },
      .ok {})

/-- The hash that a submitted revision names is missing or right. -/
def HashedPatches (_ : ReviewRows rt) (input : RowInput rt) : Prop :=
  (match input with
    | .submitRunOutput _ _ output =>
      output.runPurpose != .reviseUnit ||
        (rt.unmarshalUnitOutput output.payload).all fun value =>
          bareSHA256 value.contentHash == "" ||
            bareSHA256 value.contentHash == rt.hashText (trimSpace value.replacementMarkdown)
    | _ => true) = true

instance (rows : ReviewRows rt) (input : RowInput rt) : Decidable (HashedPatches rows input) :=
  inferInstanceAs (Decidable (_ = true))

/-! ## Hashes -/

end ReviewRows

/-- A task has one unit for each key; versions carry the hash of their text, and those of outlines
belong to named units and are numbered. -/
structure RowsHashed (rt : Runtime) (units : GoMap UnitRow) (versions : GoMap UnitVersionRow) :
    Prop where
  keyed : units.Keyed UnitRow.unitID
  unique : ∀ unitID unit unitID' unit', units.get unitID = some unit →
    units.get unitID' = some unit' → unit.taskID = unit'.taskID →
    unit.unitKey = unit'.unitKey → unitID = unitID'
  hashed : ∀ versionID version, versions.get versionID = some version →
    version.contentHash = rt.hashText version.payload.markdown
  outlined : ∀ versionID version, versions.get versionID = some version →
    version.outlineVersionID.isSome = true →
    (∃ unit, units.get version.unitID = some unit ∧ unit.unitKey ≠ "") ∧
      1 ≤ version.unitVersionNo.getD 0

namespace RowsHashed

variable {rt : Runtime} {units : GoMap UnitRow} {versions : GoMap UnitVersionRow}

theorem setUnit (sound : RowsHashed rt units versions) {unitID : String} {unit : UnitRow}
    (stored : units.get unitID = some unit) (status : UnitStatus) :
    RowsHashed rt (units.set unitID { unit with reviewStatus := status }) versions := by
  have came : ∀ other found,
      (units.set unitID { unit with reviewStatus := status }).get other = some found →
      ∃ before, units.get other = some before ∧ found.taskID = before.taskID ∧
        found.unitKey = before.unitKey :=
    forall_set ⟨unit, stored, rfl, rfl⟩ fun _ found there => ⟨found, there, rfl, rfl⟩
  refine ⟨sound.keyed.set (sound.keyed unitID unit stored),
    fun left found right found' there there' task key => ?_, sound.hashed,
    fun versionID version known outline => ?_⟩
  · obtain ⟨before, known, task', key'⟩ := came left found there
    obtain ⟨before', known', task'', key''⟩ := came right found' there'
    exact sound.unique left before right before' known known'
      (task'.symm.trans (task.trans task'')) (key'.symm.trans (key.trans key''))
  · obtain ⟨⟨owner, known', named⟩, numbered⟩ := sound.outlined versionID version known outline
    refine ⟨?_, numbered⟩
    by_cases same : version.unitID = unitID
    · rw [same] at known' ⊢
      cases stored.symm.trans known'
      exact ⟨_, get_set_self _ _ _, named⟩
    · exact ⟨owner, (get_set_ne _ _ same).trans known', named⟩

theorem insertVersion (sound : RowsHashed rt units versions) {version : UnitVersionRow}
    (versionID : String) (hashed : version.contentHash = rt.hashText version.payload.markdown)
    (outlined : version.outlineVersionID.isSome = true →
      (∃ unit, units.get version.unitID = some unit ∧ unit.unitKey ≠ "") ∧
        1 ≤ version.unitVersionNo.getD 0) :
    RowsHashed rt units (versions.set versionID version) :=
  ⟨sound.keyed, sound.unique, forall_set hashed sound.hashed, forall_set outlined sound.outlined⟩

theorem insertUnit (sound : RowsHashed rt units versions) {unit : UnitRow}
    (unused : units.get unit.unitID = none)
    (missing : ∀ unitID found, units.get unitID = some found →
      ¬ (found.taskID = unit.taskID ∧ found.unitKey = unit.unitKey)) :
    RowsHashed rt (units.set unit.unitID unit) versions := by
  refine ⟨sound.keyed.set rfl, fun left found right found' there there' task key => ?_, sound.hashed,
    fun versionID version known outline => ?_⟩
  · rcases get_set_eq_some there with ⟨rfl, rfl⟩ | ⟨-, stored⟩
    · rcases get_set_eq_some there' with ⟨rfl, -⟩ | ⟨-, stored'⟩
      · rfl
      · exact absurd ⟨task.symm, key.symm⟩ (missing right found' stored')
    · rcases get_set_eq_some there' with ⟨rfl, rfl⟩ | ⟨-, stored'⟩
      · exact absurd ⟨task, key⟩ (missing left found stored)
      · exact sound.unique left found right found' stored stored' task key
  · obtain ⟨⟨owner, known', named⟩, numbered⟩ := sound.outlined versionID version known outline
    exact ⟨⟨owner, get_set_of_unused unused known', named⟩, numbered⟩

end RowsHashed

theorem BuiltScope.named {rt : Runtime} (scope : BuiltScope rt)
    (writes : scope.scope.purpose = .generateUnit ∨ scope.scope.purpose = .reviseUnit) :
    scope.scope.currentUnitKey ≠ "" := by
  obtain ⟨scope, given, built⟩ := scope
  unfold buildUnitScope at built
  split at built
  · cases built
  next valid =>
  cases built
  intro empty
  unfold UnitScope.validate at valid
  dsimp only at valid writes empty
  iterate 3
    split at valid
    · cases valid
  next named =>
  refine named ⟨writes, .inl ?_⟩
  rw [empty]
  rfl

namespace ReviewRows

variable {rt : OutputRuntime} {rows : ReviewRows rt}

variable {output : RunOutput} {call : Call} {lease : LeaseContext}
  {unit : UnitRow}

theorem one_le_nextVersionNo (unitID outlineVersionID : String) :
    1 ≤ rows.nextVersionNo unitID outlineVersionID := by
  unfold nextVersionNo
  generalize ((rows.versions.values.filter _).map _) = numbers
  have nonneg : (0 : Int) ≤ numbers.foldl max 0 := by
    refine List.foldlRecOn (motive := fun most : Int => 0 ≤ most) _ _ (le_refl 0) ?_
    intro most low number _
    exact low.trans (le_max_left _ _)
  omega

section

variable (sound : RowsHashed rt.toRuntime rows.units rows.versions)

include sound

theorem materializeUnit_rowsHashed
    {task : Task} {scope : BuiltScope rt.toRuntime} {done : ReviewRows rt}
    (valid : validateRunOutput rt.toRuntime scope.scope output task.version = .ok ())
    (writes : output.runPurpose = .generateUnit ∨ output.runPurpose = .reviseUnit)
    (patches : HashedPatches rows (.submitRunOutput call lease output))
    (made : rows.materializeUnit call lease.runID output task scope.scope = .ok done) :
    RowsHashed rt.toRuntime done.units done.versions := by
  dsimp only [materializeUnit] at made
  repeat' split at made
  all_goals cases made
  next value decoded _ unit found _ _ _ _ _ =>
  obtain ⟨unitID, stored⟩ := mem_values.mp (List.mem_of_find?_eq_some found)
  have is := List.find?_some found
  rw [Bool.and_eq_true, beq_iff_eq, beq_iff_eq] at is
  have key := is.2
  have same : unit.unitID = unitID := sound.keyed unitID unit stored
  subst same
  have named : unit.unitKey ≠ "" := by
    rw [key]
    refine scope.named ?_
    rw [← (validateRunOutput_ok valid).2.2.1]
    exact writes
  refine (sound.insertVersion _ ?_ fun _ => ⟨⟨unit, stored, named⟩, ?_⟩).setUnit stored .reviewing
  · dsimp only [unitVersion]
    split
    · rfl
    · next some =>
      refine Or.resolve_left (?_ : bareSHA256 value.contentHash = "" ∨ bareSHA256 value.contentHash =
        rt.hashText (trimSpace (value.text output.runPurpose))) some
      unfold UnitOutputValue.text
      rcases writes with generates | revises
      · obtain ⟨-, -, purpose, checked⟩ := validateRunOutput_ok valid
        rw [← purpose, generates] at checked
        dsimp only at checked
        unfold validateUnitCandidatePayload at checked
        repeat' split at checked
        all_goals cases checked
        next candidate read _ content =>
        simp only [not_or, ne_eq, not_not] at content
        obtain ⟨-, text, hash⟩ := rt.output_candidate _ _ _ decoded read
        rw [generates, if_neg (by decide), text, hash]
        exact .inr content.2.2.symm
      · unfold HashedPatches at patches
        dsimp only at patches
        rw [revises, decoded] at patches
        rw [revises, if_pos rfl]
        simpa using patches
  · exact one_le_nextVersionNo _ _

theorem materialize_rowsHashed
    {task : Task} {scope : BuiltScope rt.toRuntime} {done : ReviewRows rt}
    (valid : validateRunOutput rt.toRuntime scope.scope output task.version = .ok ())
    (patches : HashedPatches rows (.submitRunOutput call lease output))
    (made : rows.materialize call lease.runID output task scope.scope = .ok done) :
    RowsHashed rt.toRuntime done.units done.versions := by
  unfold materialize at made
  split at made
  · split at made
    · cases made
    · unfold materializeOutline at made
      dsimp only at made
      split at made
      · cases made
      · cases made
        exact sound
  · next purpose => exact materializeUnit_rowsHashed sound valid (.inl purpose) patches made
  · next purpose => exact materializeUnit_rowsHashed sound valid (.inr purpose) patches made
  · unfold materializeReview at made
    dsimp only at made
    iterate 4
      split at made
      · cases made
    · cases made
      exact sound
  · cases made
    exact sound

theorem submitRunOutput_rowsHashed
    (patches : HashedPatches rows (.submitRunOutput call lease output)) :
    RowsHashed rt.toRuntime (rows.submitRunOutput call lease output).1.units
      (rows.submitRunOutput call lease output).1.versions := by
  unfold submitRunOutput acceptOutput
  split
  · exact sound
  split
  · exact sound
  split
  · dsimp only
    split
    · split <;> exact sound
    split
    · exact sound
    next valid =>
    split
    · exact sound
    · next made =>
      have kept := materialize_rowsHashed sound valid patches made
      exact kept
  all_goals exact sound

theorem apply_rowsHashed {input : RowInput rt}
    (patches : HashedPatches rows input) :
    RowsHashed rt.toRuntime (apply input rows).1.units (apply input rows).1.versions := by
  cases input with
  | submitRunOutput call lease output => exact submitRunOutput_rowsHashed sound patches
  | insertUnit unit =>
    unfold apply
    dsimp only
    split
    · exact sound
    · next free =>
      rw [Bool.not_eq_true, Bool.or_eq_false_iff, Option.isSome_eq_false_iff,
        Option.isSome_eq_false_iff, Option.isNone_iff_eq_none, Option.isNone_iff_eq_none] at free
      refine sound.insertUnit free.1 fun unitID unit stored => ?_
      simpa using List.find?_eq_none.mp free.2 unit (mem_values.mpr ⟨unitID, stored⟩)
  | setReviewStatus unitID status =>
    unfold apply
    dsimp only
    split
    · exact sound
    · next stored => exact sound.setUnit stored status
  | insertDraftUnit versionID unitID draftID taskID runID patch index =>
    unfold apply
    dsimp only
    split
    · exact sound
    next parsed =>
    split
    · exact sound
    next candidate found =>
    split
    · exact sound
    · have hashed := (parseConfirmationCandidates_ok parsed).hashed candidate
        (List.mem_of_getElem? found)
      exact sound.insertVersion versionID hashed nofun
  | elsewhere others => exact sound

end

/-- Histories of the tables whose statements meet a condition. -/
abbrev RowHistory (rt : OutputRuntime) (condition : ReviewRows rt → RowInput rt → Prop) :
    ReviewRows rt → List (Event (ReviewRows rt) (RowInput rt)
      (Except RowError RunOutputReceipt)) → ReviewRows rt → Prop :=
  Run apply condition

/-! ## Confirmed context from the tables -/

theorem latestVersion_some {version : UnitVersionRow}
    (latest : rows.latestVersion unit = some version) :
    (∃ versionID, rows.versions.get versionID = some version) ∧ version.unitID = unit.unitID ∧
      version.outlineVersionID.isSome = true := by
  have latest := (Latest.foldl_none (fun _ => rfl) (fun _ _ => rfl) _).symm.trans latest
  obtain ⟨mem, is⟩ := List.mem_filter.mp (List.argmax_mem latest)
  simp only [Bool.and_eq_true, beq_iff_eq] at is
  exact ⟨mem_values.mp mem, is.1.1, is.2 ▸ is.1.2⟩

theorem RowsHashed.context_apart (sound : RowsHashed rt.toRuntime rows.units rows.versions)
    (taskID : String) : ((rows.loadReviewConfirmedContext taskID).map (·.unitKey)).Nodup := by
  have distinct : rows.units.values.Pairwise fun unit unit' => unit.unitID ≠ unit'.unitID := by
    have nodup := keys_nodup rows.units
    rw [← sound.keyed.map_values] at nodup
    exact List.pairwise_map.mp nodup
  refine List.pairwise_map.mpr (List.pairwise_filterMap.mpr ?_)
  refine (distinct.filter _).imp_of_mem fun {unit unit'} mem mem' apart item is item' is' same => ?_
  obtain ⟨version, -, rfl⟩ := Option.map_eq_some_iff.mp is
  obtain ⟨version', -, rfl⟩ := Option.map_eq_some_iff.mp is'
  obtain ⟨mem, ofTask⟩ := List.mem_filter.mp mem
  obtain ⟨mem', ofTask'⟩ := List.mem_filter.mp mem'
  rw [Bool.and_eq_true, beq_iff_eq] at ofTask ofTask'
  obtain ⟨unitID, stored⟩ := mem_values.mp mem
  obtain ⟨unitID', stored'⟩ := mem_values.mp mem'
  have key := sound.keyed unitID unit stored
  have key' := sound.keyed unitID' unit' stored'
  exact apart (key.trans ((sound.unique unitID unit unitID' unit' stored stored'
    (ofTask.1.trans ofTask'.1.symm) same).trans key'.symm))

theorem RowsHashed.context (sound : RowsHashed rt.toRuntime rows.units rows.versions)
    {given : UnitScope} {taskID : String}
    (loaded : given.confirmedContext = rows.loadReviewConfirmedContext taskID) :
    validateConfirmedContext rt.toRuntime [] given.normalized.confirmedContext = .ok () := by
  refine normalized_context_ok (loaded ▸ RowsHashed.context_apart sound taskID) fun item mem => ?_
  rw [loaded] at mem
  obtain ⟨unit, listed, some⟩ := List.mem_filterMap.mp mem
  obtain ⟨version, latest, rfl⟩ := Option.map_eq_some_iff.mp some
  obtain ⟨unitID, stored⟩ := mem_values.mp (List.mem_filter.mp listed).1
  obtain ⟨⟨versionID, known⟩, ofUnit, outlined⟩ := latestVersion_some latest
  obtain ⟨⟨owner, there, named⟩, numbered⟩ := sound.outlined versionID version known outlined
  have key : unit.unitID = unitID := sound.keyed unitID unit stored
  rw [ofUnit, key] at there
  cases stored.symm.trans there
  exact ⟨named, numbered, sound.hashed versionID version known⟩

/-! ## Both stores -/

/-- In every history in which generated texts come trimmed, and every history of the tables in which
revisions name no hash or the right one, stored versions carry the hash of their text and pass as
confirmed context. -/
theorem unit_versions_hashed {runtime : Runtime} {policy : QueuePolicy}
    {events : List MemoryStore.StoreEvent} {s : MemoryStore}
    (history : MemoryStore.History runtime (MemoryStore.TrimmedTexts runtime)
      (newMemoryStore policy) events s)
    {rowEvents : List (Event (ReviewRows rt) (RowInput rt)
      (Except RowError RunOutputReceipt))}
    (rowHistory : RowHistory rt HashedPatches {} rowEvents rows) :
    ((∀ key version, s.confirmationVersions.get key = some version →
        version.value.contentHash = runtime.hashText version.value.markdown) ∧
      ∀ (given : UnitScope) (versions : List MemoryConfirmationVersion),
        (∀ version ∈ versions, ∃ key,
          s.confirmationVersions.get key = some version ∧ version.value.outlineVersionID ≠ "") →
        (versions.map (·.value.unitKey)).Nodup →
        given.confirmedContext = versions.map (·.value.asContext) →
        validateConfirmedContext runtime [] given.normalized.confirmedContext = .ok ()) ∧
    ((∀ versionID version, rows.versions.get versionID = some version →
        version.contentHash = rt.hashText version.payload.markdown) ∧
      ∀ (given : UnitScope) (taskID : String), given.confirmedContext = rows.loadReviewConfirmedContext taskID →
        validateConfirmedContext rt.toRuntime [] given.normalized.confirmedContext = .ok ()) := by
  have memory : TextsHashed runtime s.reviewData :=
    history.invariant (I := fun s => TextsHashed runtime s.reviewData)
      (fun _ _ allowed sound => MemoryStore.apply_textsHashed allowed.2 sound)
      (MemoryStore.TextsHashed.initial _ policy)
  have tables : RowsHashed rt.toRuntime rows.units rows.versions := by
    refine rowHistory.invariant (I := fun rows => RowsHashed rt.toRuntime rows.units rows.versions)
      (fun _ _ patches sound => apply_rowsHashed sound patches) ⟨.empty _, ?_, ?_, ?_⟩
    · intro unitID unit _ _ stored
      cases stored
    all_goals
      intro versionID version stored
      cases stored
  refine ⟨⟨memory.hashed, fun given versions stored apart taken => ?_⟩,
    tables.hashed, fun given taskID loaded => RowsHashed.context tables loaded⟩
  refine normalized_context_ok ?_ fun item mem => ?_
  · rw [taken, List.map_map]
    exact apart
  · rw [taken] at mem
    obtain ⟨version, listed, rfl⟩ := List.mem_map.mp mem
    obtain ⟨key, known, outlined⟩ := stored version listed
    obtain ⟨named, numbered⟩ := memory.numbered key version known outlined
    exact ⟨named, numbered, memory.hashed key version known⟩

/-! ## A generated and a revised unit -/

/-- The document of a revision of the unit that names a hash. -/
def patchPayload (contentHash : String) : ByteArray := MemoryStore.jsonText (.obj [
  ("schema_version", .str "unit-patch.v1"), ("unit_key", .str "u"),
  ("base_content_hash", .str unitText.contentHash), ("replacement_markdown", .str "y"),
  ("content_hash", .str contentHash)])

def unitPatch : UnitPatch := {
  schemaVersion := "unit-patch.v1", unitKey := "u", baseContentHash := unitText.contentHash
  replacementMarkdown := "y" }

def revisedHash : String := "a1fce4363854ff888cff4b8e7875d600c2682390412a8cf79b37d0b11148b0fa"

def unitPayload : ByteArray :=
  MemoryStore.jsonText (MemoryStore.unitCandidateJson unitText)

/-- The runtime that decodes a text of the unit and two revisions of it, one of which names a wrong
hash. -/
def revisionTexts : Runtime := .ofKnown {
  units := [(unitPayload, unitText)]
  patches := [(patchPayload "00", unitPatch), (patchPayload revisedHash, unitPatch)] }

def revisionOutputs : OutputRuntime where
  toRuntime := revisionTexts
  unmarshalUnitOutput := fun payload =>
    match revisionTexts.unmarshalUnitCandidate payload, revisionTexts.unmarshalUnitPatch payload with
    | some candidate, none => some ⟨candidate.unitKey, candidate.markdown, "", candidate.contentHash,
        [], [], []⟩
    | none, some patch => some ⟨patch.unitKey, "", patch.replacementMarkdown,
        (Runtime.KnownTexts.lookup [(patchPayload "00", "00")] payload).getD revisedHash, [], [], []⟩
    | _, _ => none
  output_candidate := by
    intro payload value candidate decoded read
    rw [read] at decoded
    split at decoded
    · next same _ =>
      cases same
      cases decoded
      exact ⟨rfl, rfl, rfl⟩
    · next no _ => cases no
    · cases decoded
  output_patch := by
    intro payload value patch decoded read
    rw [read] at decoded
    split at decoded
    · next no => cases no
    · next same =>
      cases same
      cases decoded
      exact ⟨rfl, rfl⟩
    · cases decoded

def oneScope {rt : Runtime} (runID : String) (given : UnitScope) : GoMap (BuiltScope rt) :=
  match built : buildUnitScope rt given with
  | .ok scope => (∅ : GoMap (BuiltScope rt)).set runID ⟨scope, given, built⟩
  | .error _ => ∅

def unitScope (purpose : RunPurpose) : UnitScope := {
  purpose := purpose, outlineID := "outline", outlineVersion := 1
  outlineHash := unitText.contentHash, currentUnitKey := "u", currentUnitTitle := "U"
  sectionNodeKeys := ["n"], reopenedUnitKeys := if purpose = .reviseUnit then ["u"] else []
  baseUnitHash := unitText.contentHash, userFeedback := "shorter" }

def unitRunID (purpose : RunPurpose) : String :=
  if purpose = .reviseUnit then "run-a2" else "run-a1"

/-- The outline of the unit is locked, and a run for the purpose is leased. -/
def unitLeased (purpose : RunPurpose) (taskVersion : Int) : RowInput revisionOutputs :=
  .elsewhere {
    outlines := (∅ : GoMap String).set "task-a1" "outline"
    outlineVersions := (∅ : GoMap OutlineVersionRow).set "version"
      ⟨"outline", 1, .locked, unitText.contentHash⟩
    runs := (∅ : GoMap RunRow).set (unitRunID purpose) {
      run := {
        runID := unitRunID purpose, taskID := "task-a1", tenantID := "tenant", ownerID := "ann"
        workflowVersion := .v4, executionLedgerVersion := .v1, status := .running
        queueSlotAcquired := true, leaseID := "lease-b1", workerID := "worker", fencingToken := 1
        leaseExpiresAt := 52, createdAt := 1, updatedAt := 2 }
      leased := true }
    scopes := oneScope (unitRunID purpose) (unitScope purpose)
    tasks := (∅ : GoMap Runcontrol.Task).set "task-a1" {
      taskID := "task-a1", tenantID := "tenant", ownerID := "ann", version := taskVersion } }

def unitInserted (status : UnitStatus) : RowInput revisionOutputs :=
  .insertUnit {
    unitID := "unit", taskID := "task-a1", unitKey := "u", outlineVersionID := some "version"
    title := "U", reviewStatus := status }

def unitSubmission (purpose : RunPurpose) (taskVersion : Int) (payload : ByteArray) :
    RowInput revisionOutputs :=
  .submitRunOutput (.at 3 "b2") ⟨unitRunID purpose, "lease-b1", "worker", 1, 52⟩ {
    schemaVersion := "run-output.v1", outputKey := "unit"
    outputKind := if purpose = .reviseUnit then .unitPatch else .unitCandidate
    runPurpose := purpose
    scopeHash := revisionTexts.hashText
      (revisionTexts.canonicalJSON (unitScopeHashPayload (unitScope purpose).normalized))
    expectedTaskVersion := taskVersion, contentHash := revisionTexts.hashBytesHex payload
    payload := payload }

/-- The unit is generated and confirmed, then reopened, revised and confirmed again. -/
def unitGenerated : List (RowInput revisionOutputs) := [
  unitLeased .generateUnit 3, unitInserted .pending, unitSubmission .generateUnit 3 unitPayload,
  .setReviewStatus "unit" .confirmed, .setReviewStatus "unit" .reopened,
  unitLeased .reviseUnit 5, unitSubmission .reviseUnit 5 (patchPayload revisedHash),
  .setReviewStatus "unit" .confirmed]

theorem unitGenerated_context :
    AllowedFrom apply HashedPatches unitGenerated {} ∧
      ((stateFrom apply unitGenerated {}).loadReviewConfirmedContext "task-a1").map
        (fun item => (item.unitKey, item.unitVersion, item.markdown)) = [("u", 2, "y")] := by
  decide +kernel

theorem unit_versions_hashed_generated : ∃ (s : MemoryStore) (rows : ReviewRows revisionOutputs),
    (∃ key version, s.confirmationVersions.get key = some version ∧
      version.value.contentHash = MemoryStore.unitTexts.hashText version.value.markdown) ∧
    (rows.loadReviewConfirmedContext "task-a1").map
      (fun item => (item.unitKey, item.unitVersion, item.markdown)) = [("u", 2, "y")] ∧
    validateConfirmedContext revisionOutputs.toRuntime [] ({ unitScope .fullReview with
      confirmedContext := rows.loadReviewConfirmedContext "task-a1" }).normalized.confirmedContext =
        .ok () := by
  obtain ⟨allowed, ⟨key, there⟩⟩ := MemoryStore.unitSubmitted_stored
  obtain ⟨rowsAllowed, context⟩ := unitGenerated_context
  obtain ⟨version, stored⟩ := Option.isSome_iff_exists.mp there
  have rowHistory : RowHistory revisionOutputs HashedPatches {} _ _ := .ofInputs rowsAllowed
  generalize stateFrom apply unitGenerated {} = rows at context rowHistory
  have sound := unit_versions_hashed (.ofInputs allowed) rowHistory
  exact ⟨_, rows, ⟨key, version, stored, sound.1.1 key version stored⟩, context,
    sound.2.2 { unitScope .fullReview with
      confirmedContext := rows.loadReviewConfirmedContext "task-a1" } "task-a1" rfl⟩

/-- The unit is revised by a payload that names a wrong hash. -/
def unitRevised : List (RowInput revisionOutputs) := [
  unitLeased .reviseUnit 3, unitInserted .reopened,
  unitSubmission .reviseUnit 3 (patchPayload "00")]

/-- Both stores hold a version with the hash of another text: the memory store of a generated unit
whose text ends with a line break, the tables of a revision that names another hash. The memory store
then refuses to confirm its unit, for the scope of the full review does not pass. -/
theorem stored_hash_of_other_text :
    (∃ s key version, MemoryStore.Reachable MemoryStore.spacedTexts MemoryStore.smallQueue s ∧
      s.confirmationVersions.get key = some version ∧
      version.value.contentHash ≠ MemoryStore.spacedTexts.hashText version.value.markdown ∧
      Reply.error? (MemoryStore.apply MemoryStore.spacedTexts (MemoryStore.versionConfirmed 9 "e1"
        "64f18f157792b5e2a1ea5ad352818c95e033b34d447a2bf127d82dbe4114d60c" "c" 4) s).2 =
          some ⟨.invalidPayload, "confirmed unit markdown hash mismatch"⟩) ∧
    ∃ events rows versionID version,
      RowHistory revisionOutputs (fun _ _ => True) {} events rows ∧
        rows.versions.get versionID = some version ∧
        version.contentHash ≠ revisionOutputs.hashText version.payload.markdown := by
  simp only [exists_and_left]
  exact ⟨MemoryStore.exists_reachable MemoryStore.spacedSubmitted (by decide +kernel),
    Transition.exists_run unitRevised (by decide +kernel)⟩

end ReviewRows

end PrdAgent.Storage
