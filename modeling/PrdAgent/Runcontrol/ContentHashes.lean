import PrdAgent.Runcontrol.DraftSteps

/-!
# The hashes of unit versions

Drafts and revisions are trimmed before they are hashed and stored. A generated unit is checked against
the hash of its trimmed text, but its text is stored as it came. So hashes are those of the stored texts
if the generated texts come trimmed (`TrimmedTexts`). Such versions pass the check of the confirmed
context when a later scope is built from them (`normalized_context_ok`).
-/

namespace PrdAgent.Runcontrol

open GoText AssocMap

/-- Versions carry the hash of their text; those of outlines belong to named units and are
numbered. -/
structure TextsHashed (rt : Runtime) (data : ReviewData) : Prop where
  outlines : ∀ taskID outline, data.outlines.get taskID = some outline →
    ∀ unit ∈ outline.candidate.units, unit.unitKey ≠ ""
  units : ∀ taskID ofTask, data.units.get taskID = some ofTask →
    ∀ key unit, ofTask.get key = some unit → unit.unitKey ≠ ""
  hashed : ∀ key version, data.versions.get key = some version →
    version.value.contentHash = rt.hashText version.value.markdown
  numbered : ∀ key version, data.versions.get key = some version →
    version.value.outlineVersionID ≠ "" →
    version.value.unitKey ≠ "" ∧ 1 ≤ version.value.unitVersionNo

variable {rt : Runtime}

structure ConfirmedUnitContext.Hashed (rt : Runtime) (item : ConfirmedUnitContext) : Prop where
  named : item.unitKey ≠ ""
  numbered : 1 ≤ item.unitVersion
  hashed : item.contentHash = rt.hashText item.markdown

theorem normalized_confirmedContext_perm {scope : UnitScope}
    (bare : ∀ item ∈ scope.confirmedContext, bareSHA256 item.contentHash = item.contentHash) :
    scope.normalized.confirmedContext.Perm scope.confirmedContext := by
  refine (List.perm_insertionSort _ _).trans ?_
  have same : (scope.confirmedContext.map fun item =>
      { item with contentHash := bareSHA256 item.contentHash }) = scope.confirmedContext := by
    refine (List.map_congr_left fun item mem => ?_).trans (List.map_id _)
    rw [bare item mem]
    rfl
  rw [same]

/-- A scope passes the check of its confirmed context if the units are different and carry the hashes
of their texts. -/
theorem normalized_context_ok {given : UnitScope}
    (apart : (given.confirmedContext.map (·.unitKey)).Nodup)
    (hashed : ∀ item ∈ given.confirmedContext, item.Hashed rt) :
    validateConfirmedContext rt [] given.normalized.confirmedContext = .ok () := by
  have same : given.normalized.confirmedContext.Perm given.confirmedContext := by
    refine normalized_confirmedContext_perm fun item mem => ?_
    rw [(hashed item mem).hashed]
    exact rt.bareSHA256_sha256Hex _
  refine validateConfirmedContext_ok_iff.mpr ⟨(same.map _).nodup_iff.mpr apart, ?_⟩
  intro item mem
  have is := hashed item (same.mem_iff.mp mem)
  refine ⟨List.not_mem_nil, is.named, is.numbered, ?_, fun _ => is.hashed.symm⟩
  rw [is.hashed]
  exact rt.validSHA256_sha256Hex _

variable {version : MemoryConfirmationVersion}

namespace TextsHashed

variable {rt : Runtime} {data : ReviewData} {tasks : GoMap Task}
  {units : GoMap (GoMap ReviewUnit)} {versions : GoMap MemoryConfirmationVersion}
  {reports : GoMap FullReviewReport}

theorem transfer (sound : TextsHashed rt data)
    (named : ∀ taskID ofTask, units.get taskID = some ofTask →
      ∀ key unit, ofTask.get key = some unit → unit.unitKey ≠ "")
    (came : ∀ key version, versions.get key = some version →
      (∃ before, data.versions.get key = some before ∧
        version.value.contentHash = before.value.contentHash ∧
        version.value.markdown = before.value.markdown ∧
        version.value.outlineVersionID = before.value.outlineVersionID ∧
        version.value.unitKey = before.value.unitKey ∧
        version.value.unitVersionNo = before.value.unitVersionNo) ∨
      version.value.contentHash = rt.hashText version.value.markdown ∧
        (version.value.outlineVersionID ≠ "" →
          version.value.unitKey ≠ "" ∧ 1 ≤ version.value.unitVersionNo)) :
    TextsHashed rt ⟨tasks, data.outlines, units, versions, reports⟩ where
  outlines := sound.outlines
  units := named
  hashed := by
    intro key version stored
    rcases came key version stored with ⟨before, found, hash, text, -⟩ | ⟨hashed, -⟩
    · rw [hash, text]
      exact sound.hashed key before found
    · exact hashed
  numbered := by
    intro key version stored outlined
    rcases came key version stored with ⟨before, found, -, -, outline, unitKey, number⟩ | ⟨-, numbered⟩
    · rw [unitKey, number]
      exact sound.numbered key before found (outline ▸ outlined)
    · exact numbered outlined

variable {unit : ReviewUnit} {key taskID : String}

section

variable (sound : TextsHashed rt data)

include sound

theorem unitsOf_named
    (stored : (data.unitsOf taskID).get key = some unit) : unit.unitKey ≠ "" := by
  unfold ReviewData.unitsOf at stored
  cases found : data.units.get taskID with
  | none =>
    rw [found] at stored
    cases stored
  | some ofTask =>
    rw [found] at stored
    exact sound.units taskID ofTask found key unit stored

theorem named_set {unitKey : String} (named : unit.unitKey ≠ "") :
    ∀ other ofTask, (data.units.set taskID ((data.unitsOf taskID).set unitKey unit)).get other =
        some ofTask → ∀ key found, ofTask.get key = some found → found.unitKey ≠ "" :=
  forall_set (forall_set named fun _ _ there => sound.unitsOf_named there) sound.units

theorem set_status (stored : data.versions.get key = some version)
    (status : UnitStatus) (named : ∀ taskID ofTask, units.get taskID = some ofTask →
      ∀ key unit, ofTask.get key = some unit → unit.unitKey ≠ "") :
    TextsHashed rt ⟨tasks, data.outlines, units, data.versions.set key
      { version with value := { version.value with confirmationStatus := status } }, reports⟩ :=
  sound.transfer named (forall_set (.inl ⟨version, stored, rfl, rfl, rfl, rfl, rfl⟩)
    fun _ found there => .inl ⟨found, there, rfl, rfl, rfl, rfl, rfl⟩)

theorem store {unitKey : String} (named : unit.unitKey ≠ "")
    (ofUnit : version.value.unitKey = unit.unitKey) (numbered : 1 ≤ version.value.unitVersionNo)
    (hashed : version.value.contentHash = rt.hashText version.value.markdown) :
    TextsHashed rt ⟨tasks, data.outlines, data.units.set taskID
      ((data.unitsOf taskID).set unitKey { unit with status := .reviewing }),
      data.versions.set key version, reports⟩ :=
  sound.transfer (sound.named_set named)
    (forall_set (.inr ⟨hashed, fun _ => ⟨ofUnit ▸ named, numbered⟩⟩)
      fun _ found there => .inl ⟨found, there, rfl, rfl, rfl, rfl, rfl⟩)

end

end TextsHashed

namespace MemoryStore

variable {rt : Runtime} {call : Call} {s : MemoryStore}

/-- The text of a submitted unit has no white space around it. -/
def TrimmedTexts (rt : Runtime) (_ : MemoryStore) (input : Input) : Prop :=
  (match input.op with
    | .submitRunOutput _ output =>
      output.runPurpose != .generateUnit ||
        (rt.unmarshalUnitCandidate output.payload).all fun candidate =>
          trimSpace candidate.markdown == candidate.markdown
    | _ => true) = true

instance (rt : Runtime) (s : MemoryStore) (input : Input) : Decidable (TrimmedTexts rt s input) :=
  inferInstanceAs (Decidable (_ = true))

variable {lease : LeaseContext}

/-- A generated unit was checked against the hash of its trimmed text. -/
theorem Submits.unitHashed {output : RunOutput} {target : OutputTarget}
    {candidate : UnitCandidate} {refs : UnitCandidateRefs}
    (submits : Submits rt call s lease output target (.unit candidate refs)) :
    bareSHA256 candidate.contentHash = rt.hashText (trimSpace candidate.markdown) := by
  obtain ⟨-, -, purpose, checked⟩ := validateRunOutput_ok submits.valid
  cases decodeOutput_ok submits.decodes with
  | unit _ generates read =>
    rw [← purpose, generates] at checked
    dsimp only at checked
    unfold validateUnitCandidatePayload at checked
    rw [read] at checked
    dsimp only at checked
    split at checked
    · cases checked
    split at checked
    · cases checked
    next content =>
    simp only [not_or, ne_eq, not_not] at content
    exact content.2.2.symm

theorem ReviewStep.textsHashed {op : Op} {reply : Except StoreError Reply} {data : ReviewData}
    (step : ReviewStep rt call s op reply data)
    (other : ∀ lease draftKey expected patch, op ≠ .submitDraft lease draftKey expected patch)
    (trimmed : TrimmedTexts rt s ⟨call, op⟩) (sound : TextsHashed rt s.reviewData) :
    TextsHashed rt data := by
  cases step with
  | kept | created | reviewed | publishConfirmed | publishCompleted =>
    exact ⟨sound.outlines, sound.units, sound.hashed, sound.numbered⟩
  | outlineDrafted reply submits =>
    refine ⟨forall_set ?_ sound.outlines, sound.units, sound.hashed, sound.numbered⟩
    cases decodeOutput_ok submits.decodes with
    | outline _ parsed =>
      dsimp only [parseOutlineCandidate] at parsed
      repeat' split at parsed
      all_goals cases parsed
      next valid _ =>
      obtain ⟨-, _, _, _, _, indexed, -⟩ := validateOutlineCandidate_ok_iff.mp valid
      exact fun unit mem => ((indexUnits_ok_iff.mp indexed).1 unit mem).1
  | unitGenerated reply submits pending =>
    refine sound.store (sound.unitsOf_named (lockedUnit_ok pending).unitStored) rfl (le_refl _) ?_
    change bareSHA256 _ = _
    rw [submits.unitHashed]
    unfold TrimmedTexts at trimmed
    cases decodeOutput_ok submits.decodes with
    | unit _ generates read =>
      dsimp only at trimmed
      rw [generates, read] at trimmed
      rw [show trimSpace _ = _ by simpa using trimmed]
      rfl
  | unitRevised reply submits reopened based =>
    refine sound.store (sound.unitsOf_named (lockedUnit_ok reopened).unitStored) rfl ?_ rfl
    exact le_add_of_nonneg_of_le (le_trans Int.one_nonneg based) (le_refl 1)
  | outlineLocked lockable outcome =>
    have named := sound.outlines _ _ lockable.outlineStored
    exact ⟨forall_set named sound.outlines, forall_set (forall_addAll named) sound.units,
      sound.hashed, sound.numbered⟩
  | unitConfirmed decides dependencies idle outcome
  | unitReopened decides independent idle outcome =>
    have named := sound.unitsOf_named decides.unitStored
    exact sound.set_status decides.versionStored _ (sound.named_set named)
  | draftSubmitted => exact absurd rfl (other _ _ _ _)
  | draftDecided reply status taskStatus noOutline taskStored stored versionTask =>
    exact sound.set_status stored _ sound.units

theorem apply_textsHashed {input : Input} (trimmed : TrimmedTexts rt s input)
    (sound : TextsHashed rt s.reviewData) : TextsHashed rt (apply rt input s).1.reviewData := by
  have step := apply_review rt input s
  obtain ⟨call, op⟩ := input
  cases op
  case submitDraft lease draftKey expected patch =>
    have outcome : DraftOutcome rt call s lease draftKey expected patch _ :=
      submitDraft_outcome lease draftKey expected patch s
    change TextsHashed rt (submitDraft rt call lease draftKey expected patch s).1.reviewData
    generalize (submitDraft rt call lease draftKey expected patch s).1 = t at outcome
    cases outcome with
    | kept => exact sound
    | stored submits =>
      refine sound.transfer sound.units fun key version stored => ?_
      rcases storeDraftUnits_get_of stored with before | ⟨candidate, mem, seen, -, rfl⟩
      · exact .inl ⟨version, before, rfl, rfl, rfl, rfl, rfl⟩
      · exact .inr ⟨(parseConfirmationCandidates_ok submits.parsed).hashed candidate mem,
          fun outlined => absurd rfl outlined⟩
  all_goals exact step.textsHashed nofun trimmed sound

theorem TextsHashed.initial (rt : Runtime) (policy : QueuePolicy) :
    TextsHashed rt (newMemoryStore policy).reviewData := by
  constructor
  all_goals
    intro key value stored
    cases stored

/-! ## A text without and with a line break at its end -/

theorem unitSubmitted_stored : Accepts unitTexts (TrimmedTexts unitTexts) smallQueue unitSubmitted ∧
      ∃ key, ((stateAfter unitTexts smallQueue unitSubmitted).confirmationVersions.get
        key).isSome = true := by
  refine ⟨by decide +kernel,
    "review-unit-version-64f18f157792b5e2a1ea5ad352818c95e033b34d447a2bf127d82dbe4114d60c", ?_⟩
  decide +kernel

def spacedText : UnitCandidate := { unitText with markdown := "x\n" }

def spacedTexts : Runtime := .ofKnown {
  outlines := [(jsonText (outlineHashPayload oneUnitOutline), oneUnitOutline)]
  units := [(jsonText (unitCandidateJson spacedText), spacedText)]
  unitRefs := [(jsonText (unitCandidateJson spacedText), ⟨[], []⟩)] }

def spacedSubmitted : List Input :=
  let payload := jsonText (unitCandidateJson spacedText)
  outlineSubmitted spacedTexts oneUnitOutline ++ [
    outlineConfirmed 5 "c1",
    ⟨.at 6 "d1", .acquireRun "run-c1" "worker" 6 50⟩,
    ⟨.at 7 "d2", .submitRunOutput unitLease { unitOutput "first" 3 with
      payload := payload, contentHash := spacedTexts.hashBytesHex payload }⟩,
    ⟨.at 8 "d3", .completeRun unitLease .succeeded 8⟩]

end MemoryStore

end PrdAgent.Runcontrol
