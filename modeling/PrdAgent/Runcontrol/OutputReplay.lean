import PrdAgent.Runcontrol.ReviewAtomicity
import PrdAgent.Runcontrol.RunSteps

/-!
# Replayed outputs

`SubmitRunOutput` records an output before it checks the state of the review, and answers a
repeated output from the record. A submission that fails the late checks is therefore reported as
accepted when it is repeated (`rejected_output_replays_as_accepted`).
-/

namespace PrdAgent.Runcontrol

open GoText AssocMap Transition

namespace MemoryStore

variable {rt : Runtime} {call : Call} {s : MemoryStore}

/-! ## The checks after the record -/

/-- The checks of the review state that an output has to pass after it was recorded. -/
def MaterializeReady (call : Call) (s : MemoryStore) (target : OutputTarget) : DecodedOutput → Prop
  | .outline _ => True
  | .unit _ _ => ∃ found, s.lockedUnit target .pending = .ok found
  | .patch patch _ => ∃ outline unit, s.lockedUnit target .reopened = .ok (outline, unit) ∧
      1 ≤ (s.baseVersion call target.task.taskID unit.unitKey).unitVersionNo ∧
      bareSHA256 (s.baseVersion call target.task.taskID unit.unitKey).contentHash =
        bareSHA256 patch.baseContentHash
  | .review _ _ => ∃ outline, s.reviewOutlines.get target.task.taskID = some outline ∧
      outline.status = .locked ∧ target.task.status = .fullReviewRunning ∧
      sameConfirmedHashSet (s.confirmedUnitContextLocked call target.task.taskID)
        target.scope.confirmedContext = true

theorem materialize_ok_iff (rt : Runtime) (target : OutputTarget) (output : RunOutput)
    (decoded : DecodedOutput) : (∃ done, materialize rt call target output s decoded = .ok done) ↔
      MaterializeReady call s target decoded := by
  cases decoded with
  | outline candidate => exact iff_of_true ⟨_, rfl⟩ trivial
  | unit candidate refs =>
    unfold materialize materializeUnit MaterializeReady
    dsimp only
    cases s.lockedUnit target .pending with
    | error err => simp
    | ok found => simp
  | patch patch refs =>
    unfold materialize materializePatch MaterializeReady
    dsimp only
    cases s.lockedUnit target .reopened with
    | error err => simp
    | ok found =>
      obtain ⟨outline, unit⟩ := found
      dsimp only
      constructor
      · intro ⟨done, made⟩
        split at made
        · cases made
        · next based =>
          rw [not_or, not_lt, not_not] at based
          exact ⟨outline, unit, rfl, based⟩
      · intro ⟨_, _, same, based⟩
        cases same
        rw [if_neg (by rw [not_or, not_lt, not_not]; exact based)]
        exact ⟨_, rfl⟩
  | review report outcome =>
    unfold materialize materializeReview MaterializeReady
    dsimp only
    cases s.reviewOutlines.get target.task.taskID with
    | none => simp
    | some outline =>
      dsimp only
      constructor
      · intro ⟨done, made⟩
        split at made
        · cases made
        next ready =>
        split at made
        · cases made
        · next current =>
          rw [not_or, not_not, not_not] at ready
          exact ⟨outline, rfl, ready.1, ready.2, (Bool.not_eq_false _).mp current⟩
      · intro ⟨_, same, locked, running, current⟩
        cases same
        rw [if_neg (by rw [not_or, not_not, not_not]; exact ⟨locked, running⟩),
          if_neg (by rw [current]; decide)]
        exact ⟨_, rfl⟩

/-- A submission that passes the checks before the record passes those after it. -/
def OutputReady (rt : Runtime) (s : MemoryStore) (input : Input) : Prop :=
  match input.op with
  | .submitRunOutput lease output => ∀ target decoded,
      Submits rt input.call s lease output target decoded →
        MaterializeReady input.call s target decoded
  | _ => True

theorem recordOutput_ne {identity : String} (output : RunOutput)
    (unused : s.runOutputs.get identity = none) : s.recordOutput identity output ≠ s := by
  intro same
  have recorded : (s.recordOutput identity output).runOutputs.get identity = some _ :=
    get_set_self _ _ _
  rw [same, unused] at recorded
  cases recorded

theorem materialize_record_ok_iff (rt : Runtime) (target : OutputTarget) (output : RunOutput)
    (decoded : DecodedOutput) :
    (∃ done, materialize rt call target output (s.recordOutput target.identity output) decoded =
      .ok done) ↔ MaterializeReady call s target decoded := by
  rw [materialize_ok_iff]
  cases decoded <;> exact Iff.rfl

variable {lease : LeaseContext} {output : RunOutput}

theorem Submits.outcome {target : OutputTarget}
    {decoded : DecodedOutput} (submits : Submits rt call s lease output target decoded) :
    submitRunOutput rt call lease output s =
      match materialize rt call target output (s.recordOutput target.identity output) decoded with
      | .error err => (s.recordOutput target.identity output, .error err)
      | .ok done => ({ done with runOutputReceipts :=
            s.runOutputReceipts.set target.identity (receiptFor target output) },
          .ok (receiptFor target output)) := by
  obtain ⟨run, task, scope, identity⟩ := target
  obtain ⟨stored, leased, hasScope, sameTask, sameIdentity, unused, valid, decodes⟩ := submits
  dsimp only at stored leased hasScope sameTask sameIdentity unused valid
  subst sameTask sameIdentity
  unfold submitRunOutput validateLeaseLocked
  simp only [stored, leased, hasScope, unused, valid, decodes, if_true]
  rfl

theorem submitRunOutput_atomic_iff (lease : LeaseContext) (output : RunOutput) :
    Atomic s (submitRunOutput rt call lease output s) ↔
      OutputReady rt s ⟨call, .submitRunOutput lease output⟩ := by
  constructor
  · intro atomic target decoded submits
    rw [← materialize_record_ok_iff rt target output]
    rw [submits.outcome] at atomic
    cases made : materialize rt call target output (s.recordOutput target.identity output)
        decoded with
    | ok done => exact ⟨done, rfl⟩
    | error err =>
      rw [made] at atomic
      exact absurd atomic (not_atomic_of_changed err (recordOutput_ne output submits.unused))
  · intro ready
    have outcome := submitRunOutput_outcome rt call lease output s
    generalize submitRunOutput rt call lease output s = result at outcome ⊢
    cases outcome with
    | refused err => exact atomic_refused err
    | repeated stored recorded same | materialized submits made => exact atomic_ok _
    | rejected submits failed =>
      obtain ⟨done, made⟩ := (materialize_record_ok_iff rt _ output _).mpr (ready _ _ submits)
      rw [failed] at made
      cases made

/-! ## Replays -/

/-- An event materialised an output and returned its receipt. -/
structure Materializes (rt : Runtime) (event : StoreEvent) (lease : LeaseContext)
    (output : RunOutput) (receipt : RunOutputReceipt) : Prop where
  op : event.input.op = .submitRunOutput lease output
  reply : event.reply = .ok (.output receipt)
  made : ∃ target decoded done,
    Submits rt event.input.call event.before lease output target decoded ∧
    materialize rt event.input.call target output
      (event.before.recordOutput target.identity output) decoded = .ok done ∧
    event.after.reviewData = done.reviewData

/-- The output recorded under an identity was materialised by one of the events, whose receipt is
stored under the same identity. -/
structure Receipted (rt : Runtime) (past : List StoreEvent) (s : MemoryStore) (identity : String)
    (existing : RunOutput) (event : StoreEvent) (lease : LeaseContext) (output : RunOutput)
    (receipt : RunOutputReceipt) : Prop where
  mem : event ∈ past
  materializes : Materializes rt event lease output receipt
  named : identity = joinKey lease.runID output.outputKey
  nulFree : NulFree lease.runID
  content : receipt.contentHash = existing.contentHash
  stored : s.runOutputReceipts.get identity = some receipt

/-- Every recorded output has the receipt of the event that materialised it. -/
structure OutputsReceipted (rt : Runtime) (past : List StoreEvent) (s : MemoryStore) : Prop where
  keyed : s.runs.Keyed AgentRun.runID
  nulFree : NulFreeRuns s.runs
  receipted : ∀ identity existing, s.runOutputs.get identity = some existing →
    ∃ event lease output receipt,
      Receipted rt past s identity existing event lease output receipt

variable {past : List StoreEvent}

theorem Receipted.later {t : MemoryStore} {identity : String}
    {existing : RunOutput} {event : StoreEvent} {receipt : RunOutputReceipt}
    (receipted : Receipted rt past s identity existing event lease output receipt)
    (last : StoreEvent)
    (kept : t.runOutputReceipts.get identity = s.runOutputReceipts.get identity) :
    Receipted rt (past ++ [last]) t identity existing event lease output receipt :=
  { receipted with
    mem := List.mem_append_left _ receipted.mem
    stored := kept.trans receipted.stored }

theorem submitRunOutput_receipted (sound : OutputsReceipted rt past s)
    (ready : OutputReady rt s ⟨call, .submitRunOutput lease output⟩) (identity : String)
    (existing : RunOutput)
    (found : (submitRunOutput rt call lease output s).1.runOutputs.get identity = some existing) :
    ∃ event lease' output' receipt, Receipted rt
        (past ++ [Event.of (apply rt) s ⟨call, .submitRunOutput lease output⟩])
        (submitRunOutput rt call lease output s).1 identity existing event lease' output'
        receipt := by
  have outcome := submitRunOutput_outcome rt call lease output s
  have replied : Event.of (apply rt) s ⟨call, .submitRunOutput lease output⟩ =
      ⟨s, ⟨call, .submitRunOutput lease output⟩,
        (submitRunOutput rt call lease output s).2.map .output,
        (submitRunOutput rt call lease output s).1⟩ := rfl
  rw [replied]
  generalize submitRunOutput rt call lease output s = result at outcome found ⊢
  cases outcome with
  | refused err | repeated stored recorded same =>
    obtain ⟨event, lease', output', receipt, receipted⟩ := sound.receipted identity existing found
    exact ⟨event, lease', output', receipt, receipted.later _ rfl⟩
  | rejected submits failed =>
    obtain ⟨done, made⟩ := (materialize_record_ok_iff rt _ output _).mpr (ready _ _ submits)
    rw [failed] at made
    cases made
  | @materialized target decoded done submits made =>
    have outputs : done.runOutputs = (s.recordOutput target.identity output).runOutputs :=
      materialize_frame rt call made .runOutputs (by decide)
    rw [show _ = done.runOutputs from rfl, outputs] at found
    rcases get_set_eq_some found with ⟨rfl, rfl⟩ | ⟨other, found⟩
    · have free := sound.nulFree _ _ submits.run
      refine ⟨_, lease, output, receiptFor target output,
        List.mem_append_right past (List.mem_singleton_self _), ?_, submits.identity, free, rfl,
        get_set_self _ _ _⟩
      exact ⟨rfl, rfl, target, decoded, done, submits, made, rfl⟩
    · obtain ⟨event, lease', output', receipt, receipted⟩ :=
        sound.receipted identity existing found
      refine ⟨event, lease', output', receipt, receipted.later _ ?_⟩
      exact get_set_ne _ _ other

theorem apply_outputsReceipted {input : Input}
    (sound : OutputsReceipted rt past s) (fresh : Fresh s input) (ready : OutputReady rt s input) :
    OutputsReceipted rt (past ++ [Event.of (apply rt) s input]) (apply rt input s).1 := by
  refine ⟨apply_keyed rt fresh sound.keyed, apply_nulFreeRuns rt sound.keyed fresh sound.nulFree,
    fun identity existing found => ?_⟩
  by_cases submits : ∃ lease output, input.op = .submitRunOutput lease output
  · obtain ⟨call, op⟩ := input
    obtain ⟨lease, output, rfl⟩ := submits
    exact submitRunOutput_receipted sound ready identity existing found
  · obtain ⟨outputs, receipts⟩ : .runOutputs ∉ input.op.writes ∧ .runOutputReceipts ∉ input.op.writes := by
      generalize input.op = op at submits
      cases op <;> simp_all
    have frame := apply_frame rt input s
    have sameOutputs : (apply rt input s).1.runOutputs = s.runOutputs :=
      frame .runOutputs outputs
    have sameReceipts : (apply rt input s).1.runOutputReceipts = s.runOutputReceipts :=
      frame .runOutputReceipts receipts
    rw [sameOutputs] at found
    obtain ⟨event, lease, output, receipt, receipted⟩ := sound.receipted identity existing found
    exact ⟨event, lease, output, receipt, receipted.later _ (by rw [sameReceipts])⟩

theorem History.outputsReceipted {policy : QueuePolicy} {events : List StoreEvent}
    (history : History rt (OutputReady rt) (newMemoryStore policy) events s) :
    OutputsReceipted rt events s := by
  have start : OutputsReceipted rt [] (newMemoryStore policy) := by
    refine ⟨.empty _, fun runID run stored => ?_, fun identity existing stored => ?_⟩
    · cases stored
    · cases stored
  exact history.invariant_events (I := OutputsReceipted rt)
    (fun past s input allowed sound => apply_outputsReceipted sound allowed.1 allowed.2) start

/-- A submission that succeeds returns the receipt of the event that materialised its output. -/
theorem OutputsReceipted.replayed {receipt : RunOutputReceipt} (sound : OutputsReceipted rt past s)
    (replied : (submitRunOutput rt call lease output s).2 = .ok receipt) :
    ∃ made ∈ past ++ [Event.of (apply rt) s ⟨call, .submitRunOutput lease output⟩],
      ∃ lease' output', Materializes rt made lease' output' receipt ∧
        lease'.runID = lease.runID ∧ output'.outputKey = output.outputKey ∧
        bareSHA256 receipt.contentHash = bareSHA256 output.contentHash := by
  have outcome := submitRunOutput_outcome rt call lease output s
  have event : Event.of (apply rt) s ⟨call, .submitRunOutput lease output⟩ =
      ⟨s, ⟨call, .submitRunOutput lease output⟩,
        (submitRunOutput rt call lease output s).2.map .output,
        (submitRunOutput rt call lease output s).1⟩ := rfl
  rw [event]
  generalize submitRunOutput rt call lease output s = result at outcome replied ⊢
  cases outcome with
  | refused err | rejected submits failed => cases replied
  | repeated stored recorded same =>
    obtain ⟨made, lease', output', kept, receipted⟩ := sound.receipted _ _ recorded
    rw [receipted.stored] at replied
    cases replied
    have free := sound.nulFree _ _ stored
    obtain ⟨runID, outputKey⟩ := joinKey_inj receipted.nulFree free receipted.named.symm
    rw [← receipted.content] at same
    exact ⟨made, List.mem_append_left _ receipted.mem, lease', output', receipted.materializes,
      runID, outputKey, same⟩
  | @materialized target decoded done submits made =>
    cases replied
    refine ⟨_, List.mem_append_right past (List.mem_singleton_self _), lease, output,
      ⟨rfl, rfl, target, decoded, done, submits, made, rfl⟩, rfl, rfl, ?_⟩
    have hashed := (validateRunOutput_ok submits.valid).2.1
    dsimp only [receiptFor]
    rw [← hashed]
    exact rt.bareSHA256_sha256Hex _

/-- A failed submission leaves the store as it was exactly when the output, once past the checks
before the record, passes those after it. In a history of such submissions, one that succeeds
returns the receipt of the call that materialised the output of this run and key: an earlier call,
or this one. -/
theorem run_output_atomic_and_replayed (rt : Runtime) : (∀ s call lease output,
      let input : Input := ⟨call, .submitRunOutput lease output⟩
      ((∃ err, (apply rt input s).2 = .error err) → (apply rt input s).1 = s) ↔
        OutputReady rt s input) ∧
    (∀ policy s earlier event later lease output receipt,
      History rt (OutputReady rt) (newMemoryStore policy) (earlier ++ event :: later) s →
      event.input.op = .submitRunOutput lease output →
      event.reply = .ok (.output receipt) →
      ∃ made ∈ earlier ++ [event], ∃ lease' output',
        Materializes rt made lease' output' receipt ∧
        lease'.runID = lease.runID ∧ output'.outputKey = output.outputKey ∧
        bareSHA256 receipt.contentHash = bareSHA256 output.contentHash) := by
  refine ⟨fun s call lease output =>
    Atomic.replying_iff.trans (submitRunOutput_atomic_iff lease output), ?_⟩
  intro policy s earlier event later lease output receipt history op reply
  obtain ⟨before, first, rest⟩ := history.split
  obtain ⟨same, -, -⟩ := rest.uncons
  generalize event.input = input at same op
  subst same
  obtain ⟨call, _⟩ := input
  subst op
  have replied : (submitRunOutput rt call lease output before).2 = .ok receipt := by
    change (submitRunOutput rt call lease output before).2.map Reply.output = _ at reply
    cases returned : (submitRunOutput rt call lease output before).2 with
    | error err =>
      rw [returned] at reply
      cases reply
    | ok value =>
      rw [returned] at reply
      cases reply
      rfl
  exact (History.outputsReceipted first).replayed replied

theorem OutputReady.of_succeeds {input : Input} (succeeds : Succeeds rt s input) :
    OutputReady rt s input := by
  obtain ⟨call, op⟩ := input
  obtain ⟨reply, ok⟩ := succeeds.ok
  cases op
  case submitRunOutput lease output =>
    have atomic : Atomic s (replying .output (submitRunOutput rt call lease output s)) := by
      intro ⟨err, failed⟩
      cases ok.symm.trans failed
    exact (submitRunOutput_atomic_iff lease output).mp (Atomic.replying_iff.mp atomic)
  all_goals trivial

def outlineSent : List Input := [
  ⟨.at 1 "a1", .createTaskWithRun "tenant" "ann" "m" "start"⟩,
  ⟨.at 2 "b1", .acquireRun "run-a1" "worker" 2 50⟩,
  ⟨.at 3 "b2", .submitRunOutput planningLease (outlineOutput oneUnitTexts oneUnitOutline)⟩]

def outlineRepeated : Input :=
  ⟨.at 4 "b3", .submitRunOutput planningLease (outlineOutput oneUnitTexts oneUnitOutline)⟩

theorem run_output_atomic_and_replayed_outline : ∃ made lease output receipt,
    Materializes oneUnitTexts made lease output receipt ∧ lease.runID = "run-a1" ∧
      output.outputKey = "outline" ∧ receipt.taskVersion = 2 := by
  obtain ⟨earlier, s, first, fresh, accepted⟩ : ∃ earlier s,
      History oneUnitTexts (Succeeds oneUnitTexts) (newMemoryStore smallQueue) earlier s ∧
      Fresh s outlineRepeated ∧
      (Reply.output? (apply oneUnitTexts outlineRepeated s).2).map (·.taskVersion) = some 2 :=
    exists_run outlineSent (by decide +kernel)
  obtain ⟨receipt, found, version⟩ := Option.map_eq_some_iff.mp accepted
  have replied := Reply.output?_eq_some.mp found
  have history : History oneUnitTexts (OutputReady oneUnitTexts) _ _ _ :=
    (first.append (.single outlineRepeated ⟨fresh, .of_ok replied⟩)).mono
      fun _ _ allowed => ⟨allowed.1, .of_succeeds allowed.2⟩
  obtain ⟨made, -, lease, output, materializes, runID, outputKey, -⟩ :=
    (run_output_atomic_and_replayed oneUnitTexts).2 smallQueue _ earlier _ [] planningLease
      (outlineOutput oneUnitTexts oneUnitOutline) receipt history rfl replied
  exact ⟨made, lease, output, receipt, materializes, runID, outputKey, version⟩

/-! ## An output after the unit's own -/

def unitCandidateJson (candidate : UnitCandidate) : Json := .obj [
  ("schema_version", .str candidate.schemaVersion), ("unit_key", .str candidate.unitKey),
  ("title", .str candidate.title), ("ordinal", .int candidate.ordinal),
  ("node_keys", .arr (candidate.nodeKeys.map .str)), ("markdown", .str candidate.markdown),
  ("content_hash", .str candidate.contentHash)]

def unitText : UnitCandidate := {
  schemaVersion := "unit-candidate.v1", unitKey := "u", title := "U", ordinal := 0
  nodeKeys := ["n"], markdown := "x"
  -- the digest of the markdown
  contentHash := "2d711642b726b04401627ca9fbac32f5c8530fb1903cc4db02258717921a4881" }

def unitTexts : Runtime := .ofKnown {
  outlines := [(jsonText (outlineHashPayload oneUnitOutline), oneUnitOutline)]
  units := [(jsonText (unitCandidateJson unitText), unitText)]
  unitRefs := [(jsonText (unitCandidateJson unitText), ⟨[], []⟩)] }

def unitOutput (key : String) (version : Int) : RunOutput :=
  let payload := jsonText (unitCandidateJson unitText)
  { schemaVersion := "run-output.v1", outputKey := key, outputKind := .unitCandidate
    runPurpose := .generateUnit, expectedTaskVersion := version
    -- the digest of the scope that the locked outline gives the run
    scopeHash := "c41beb0d79673ac94e9c037e6b8a77db5f0d42476ea547d1d8cc31ba0f9b0d9e"
    payload := payload, contentHash := unitTexts.hashBytesHex payload }

def unitLease : LeaseContext := ⟨"run-c1", "lease-d1", "worker", 1, 56⟩

def unitSubmitted : List Input := outlineSubmitted unitTexts oneUnitOutline ++ [
  outlineConfirmed 5 "c1",
  ⟨.at 6 "d1", .acquireRun "run-c1" "worker" 6 50⟩,
  ⟨.at 7 "d2", .submitRunOutput unitLease (unitOutput "first" 3)⟩]

def submittedAgain (now : Time) (digits : String) : Input :=
  ⟨.at now digits, .submitRunOutput unitLease (unitOutput "second" 4)⟩

/-- The output is rejected, but stays recorded, and is accepted with an empty receipt when the
worker submits it again. -/
theorem rejected_output_replays_as_accepted : ∃ s err, Reachable unitTexts smallQueue s ∧
    (apply unitTexts (submittedAgain 8 "d3") s).2 = .error err ∧
    (apply unitTexts (submittedAgain 8 "d3") s).1 ≠ s ∧
    (apply unitTexts (submittedAgain 9 "d4") (apply unitTexts (submittedAgain 8 "d3") s).1).2 =
      .ok (.output ⟨"", "", 0⟩) := by
  obtain ⟨events, s, history, unused, failed, recorded, accepted⟩ : ∃ events s,
      History unitTexts (fun _ _ => True) (newMemoryStore smallQueue) events s ∧
      let rejected := apply unitTexts (submittedAgain 8 "d3") s
      s.runOutputs.get (joinKey "run-c1" "second") = none ∧
      Reply.error? rejected.2 = some ⟨.invalidRunStatus, ""⟩ ∧
      (rejected.1.runOutputs.get (joinKey "run-c1" "second")).isSome = true ∧
      Reply.output? (apply unitTexts (submittedAgain 9 "d4") rejected.1).2 = some ⟨"", "", 0⟩ :=
    exists_run unitSubmitted (by decide +kernel)
  refine ⟨s, _, ⟨events, history⟩, Reply.error?_eq_some.mp failed, ?_,
    Reply.output?_eq_some.mp accepted⟩
  intro same
  rw [same, unused] at recorded
  cases recorded

end MemoryStore

end PrdAgent.Runcontrol
