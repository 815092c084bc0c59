import PrdAgent.Agent.Grounding
import PrdAgent.Agent.OutlineHashes

/-!
# Headings of generated units

`_unit_candidate` and `_unit_patch` of `agent/unit/runtime.py` put the locked title over the markdown of
the model, and `agent/unit/invariants.py` checks the first heading. Both read lines as `str.splitlines`
does, but an outline may have any title that is not empty. `unit_headed_iff` says which units can be
generated.
-/

namespace PrdAgent.Agent

open GoText AssocMap
open Runcontrol

/-! ## Lines -/

/-- The line boundaries of `str.splitlines`. -/
def isLineBreak (ch : Char) : Bool :=
  [0x0a, 0x0b, 0x0c, 0x0d, 0x1c, 0x1d, 0x1e, 0x85, 0x2028, 0x2029].contains ch.toNat

/-- `str.splitlines`. -/
def splitLines : List Char → List (List Char)
  | [] => []
  | '\r' :: '\n' :: rest => [] :: splitLines rest
  | ch :: rest =>
    if isLineBreak ch then [] :: splitLines rest
    else match splitLines rest with
      | [] => [[ch]]
      | line :: lines => (ch :: line) :: lines

theorem splitLines_first {text : List Char} (some : text ≠ []) :
    ∃ lines, splitLines text = text.takeWhile (!isLineBreak ·) :: lines := by
  fun_induction splitLines text with
  | case1 => exact absurd rfl some
  | case2 rest => exact ⟨_, rfl⟩
  | case3 ch rest _ breaks => exact ⟨splitLines rest, by simp [breaks]⟩
  | case4 ch rest _ inside last ih =>
    cases rest with
    | nil => exact ⟨[], by simp [inside]⟩
    | cons => simp [last] at ih
  | case5 ch rest _ inside line lines more ih =>
    cases rest with
    | nil => cases more
    | cons next rest =>
      obtain ⟨_, first⟩ := ih (List.cons_ne_nil _ _)
      cases more.symm.trans first
      exact ⟨lines, by simp [inside]⟩

theorem splitLines_inside (text : List Char) :
    ∀ line ∈ splitLines text, ∀ ch ∈ line, isLineBreak ch = false := by
  fun_induction splitLines text <;> grind

/-! ## Headings -/

def lstrip (text : String) : String := ofChars ((chars text).dropWhile isPySpace)

def headings (text : String) : List String :=
  ((splitLines (chars text)).filter (·.head? == some '#')).map fun line =>
    strip (ofChars (line.dropWhile (· == '#')))

def lockTitle (title text : String) : String :=
  if strip text = "" then text
  else if (headings text).head? = some title then text
  else "# " ++ title ++ "\n\n" ++ lstrip text

/-- `_locked_markdown`. -/
def lockedMarkdown (title : String) : PyValue → PyValue
  | .str text => .str (lockTitle title text)
  | value => value

def OneLine (title : String) : Prop :=
  strip title = title ∧ ∀ ch ∈ title.toList, isLineBreak ch = false

theorem toList_strip (text : String) :
    (strip text).toList = (text.toList.dropWhile isPySpace).rdropWhile isPySpace := by
  simp [strip, List.rdropWhile]

theorem mem_of_mem_strip {text : String} {ch : Char} (mem : ch ∈ (strip text).toList) :
    ch ∈ text.toList := by
  rw [toList_strip] at mem
  exact (List.dropWhile_suffix _).subset ((List.rdropWhile_prefix _ _).subset mem)

theorem strip_strip (text : String) : strip (strip text) = strip text := by
  apply String.toList_inj.mp
  rw [toList_strip (strip text), toList_strip]
  have first : ((text.toList.dropWhile isPySpace).rdropWhile isPySpace).dropWhile isPySpace =
      (text.toList.dropWhile isPySpace).rdropWhile isPySpace := by
    obtain ⟨_, whole⟩ := List.rdropWhile_prefix isPySpace (text.toList.dropWhile isPySpace)
    have start := List.head?_dropWhile_not isPySpace text.toList
    rw [← whole] at start
    generalize (text.toList.dropWhile isPySpace).rdropWhile isPySpace = stripped at start ⊢
    cases stripped with
    | nil => rfl
    | cons ch rest => simpa using start
  rw [first, List.rdropWhile_idempotent]

theorem strip_blank_append (text : String) : strip (" " ++ text) = strip text := by
  apply String.toList_inj.mp
  rw [toList_strip, toList_strip, String.toList_append, show " ".toList = [' '] from rfl,
    List.singleton_append, List.dropWhile_cons_of_pos (by decide)]

theorem strip_lockTitle {title text : String} (given : strip text ≠ "") :
    strip (lockTitle title text) ≠ "" := by
  unfold lockTitle
  rw [if_neg given]
  split
  · exact given
  · intro blank
    have none := congrArg String.toList blank
    rw [toList_strip] at none
    simp [isPySpace, isSpace] at none

theorem head_lockTitle {title text : String} (given : strip text ≠ "") :
    (headings (lockTitle title text)).head? = some title ↔ OneLine title := by
  unfold lockTitle
  rw [if_neg given]
  split
  · next same =>
    refine iff_of_true same ?_
    obtain ⟨line, mem, is⟩ := List.mem_map.mp (List.mem_of_mem_head? same)
    refine is ▸ ⟨strip_strip _, fun ch within => ?_⟩
    refine splitLines_inside _ line (List.mem_filter.mp mem).1 ch ?_
    have kept := mem_of_mem_strip within
    rw [ofChars_eq, String.toList_ofList] at kept
    exact (List.dropWhile_suffix _).subset kept
  · have ends : (title.toList ++ ('\n' :: '\n' :: (lstrip text).toList)).takeWhile (!isLineBreak ·) =
        title.toList.takeWhile (!isLineBreak ·) := by
      rw [List.takeWhile_append]
      split
      · next all => simpa [isLineBreak] using (List.takeWhile_prefix _).eq_of_length all |>.symm
      · rfl
    obtain ⟨lines, first⟩ := @splitLines_first
      ('#' :: ' ' :: (title.toList ++ ('\n' :: '\n' :: (lstrip text).toList))) (List.cons_ne_nil _ _)
    rw [List.takeWhile_cons_of_pos (by decide), List.takeWhile_cons_of_pos (by decide), ends] at first
    have head : (headings ("# " ++ title ++ "\n\n" ++ lstrip text)).head? =
        some (strip (String.ofList (title.toList.takeWhile (!isLineBreak ·)))) := by
      unfold headings
      rw [chars_eq, show ("# " ++ title ++ "\n\n" ++ lstrip text).toList =
        '#' :: ' ' :: (title.toList ++ ('\n' :: '\n' :: (lstrip text).toList)) by simp, first]
      simp [strip_blank_append]
    rw [head, Option.some.injEq]
    constructor
    · intro is
      have inside (ch : Char) (mem : ch ∈ title.toList) : isLineBreak ch = false := by
        rw [← is] at mem
        have kept := mem_of_mem_strip mem
        rw [String.toList_ofList] at kept
        simpa using List.mem_takeWhile_imp kept
      exact ⟨is ▸ strip_strip _, inside⟩
    · rintro ⟨stripped, inside⟩
      rw [List.takeWhile_eq_self_iff.mpr fun ch mem => by simp [inside ch mem], String.ofList_toList]
      exact stripped

/-! ## Candidates and patches -/

structure UnitClaim where
  claimType : ClaimType
  criticality : ClaimCriticality
  statement : String
  evidenceRefs : List String
deriving DecidableEq

structure UnitCandidate where
  unitKey : String
  title : String
  ordinal : Int
  nodeKeys : List String
  markdown : String
  claims : List UnitClaim := []
  claimIDs : List String := []
  unknownIDs : List String := []
  usedFactIDs : List String := []
deriving DecidableEq

/-- `UnitCandidate.__post_init__`. -/
def newCandidate (candidate : UnitCandidate) : Except Fault UnitCandidate :=
  if candidate.unitKey = "" ∨ candidate.title = "" ∨ candidate.ordinal < 0 ∨
      candidate.nodeKeys = [] then
    .error (.valueError "unit candidate requires outline identity")
  else if strip candidate.markdown = "" then
    .error (.valueError "unit candidate markdown is empty")
  else .ok candidate

/-- `_strings`, for a list of texts. -/
def uniqueTexts (values : List String) : Except Fault (List String) :=
  let items := values.map strip
  if "" ∈ items ∨ ¬ items.Nodup then
    .error (.valueError "string list must contain unique non-empty values")
  else .ok items

/-- `str`, given the texts of the values that are no texts. -/
def str (repr : PyValue → String) : PyValue → String
  | .str text => text
  | value => repr value

section Answers

variable (repr : PyValue → String)

/-- `_strings`. -/
def stringsOf : PyValue → Except Fault (List String)
  | .none => .ok []
  | .list items => uniqueTexts (items.map (str repr))
  | _ => .error (.valueError "expected a list of strings")

/-- `UnitClaim.from_dict`. -/
def UnitClaim.fromDict (value : List (String × PyValue)) : Except Fault UnitClaim := do
  let text (name default : String) : String := str repr ((value.lookup name).getD (.str default))
  let claimType ← parseType (repr ∘ .str) (text "claim_type" "PROPOSED_BEHAVIOR")
  let criticality ← parseCriticality (repr ∘ .str) (text "criticality" "IMPORTANT")
  let evidenceRefs ← stringsOf repr ((value.lookup "evidence_refs").getD .none)
  if strip (text "statement" "") = "" then .error (.valueError "unit claim statement is empty")
  else .ok ⟨claimType, criticality, text "statement" "", evidenceRefs⟩

def mapping? : PyValue → Option (List (String × PyValue))
  | .dict fields => some fields
  | _ => none

/-- The claims of `from_dict`, with the checks of `_mappings`. -/
def claimsOf : PyValue → Except Fault (List UnitClaim)
  | .list items =>
    if items.all fun item => (mapping? item).isSome then
      (items.filterMap mapping?).mapM (UnitClaim.fromDict repr)
    else .error (.valueError "claims entries must be objects")
  | _ => .error (.valueError "claims must be a list")

end Answers

/-- `_schema_payload`. -/
def schemaPayload (value : List (String × PyValue)) (expected : String) : List (String × PyValue) :=
  let follows (fields : List (String × PyValue)) : Bool :=
    match fields.lookup "schema_version" with
    | some (.str version) => version == expected
    | _ => false
  if follows value then value
  else match value.lookup "output_contract" with
    | some (.dict nested) => if follows nested then nested else value
    | _ => value

/-- The mapping that `_unit_candidate` makes. -/
structure CandidateFields where
  unitKey : String
  title : String
  ordinal : Int
  nodeKeys : List String
  markdown : PyValue
  claims : PyValue
  claimIDs : PyValue
  unknownIDs : PyValue
  usedFactIDs : PyValue

def unitCandidate (scope : UnitScope) (value : List (String × PyValue)) : CandidateFields :=
  let value := schemaPayload value "unit-candidate.v1"
  let listed (name : String) : PyValue := (value.lookup name).getD (.list [])
  { unitKey := scope.currentUnitKey, title := scope.currentUnitTitle
    ordinal := scope.currentUnitOrdinal, nodeKeys := scope.sectionNodeKeys
    markdown := lockedMarkdown scope.currentUnitTitle ((value.lookup "markdown").getD (.str ""))
    claims := listed "claims", claimIDs := listed "claim_ids", unknownIDs := listed "unknown_ids"
    usedFactIDs := listed "used_fact_ids" }

/-- `UnitCandidate.from_dict`. -/
def UnitCandidate.fromDict (repr : PyValue → String) (value : CandidateFields) :
    Except Fault UnitCandidate := do
  let nodeKeys ← uniqueTexts value.nodeKeys
  let claims ← claimsOf repr value.claims
  let claimIDs ← stringsOf repr value.claimIDs
  let unknownIDs ← stringsOf repr value.unknownIDs
  let usedFactIDs ← stringsOf repr value.usedFactIDs
  newCandidate {
    unitKey := strip value.unitKey, title := strip value.title, ordinal := value.ordinal
    nodeKeys := nodeKeys, markdown := str repr value.markdown, claims := claims
    claimIDs := claimIDs, unknownIDs := unknownIDs, usedFactIDs := usedFactIDs }

/-- `_validate_heading`. -/
def validateHeading (candidate : UnitCandidate) : Except Fault Unit :=
  if (headings candidate.markdown).head? ≠ some candidate.title then
    .error (.valueError "unit markdown must start with its locked title")
  else .ok ()

def validateCandidate (scope : UnitScope) (candidate : UnitCandidate) : Except Fault Unit :=
  if candidate.unitKey ≠ scope.currentUnitKey then
    .error (.valueError "candidate changed the current unit key")
  else if candidate.title ≠ scope.currentUnitTitle then
    .error (.valueError "candidate title is not from the locked outline")
  else if candidate.ordinal ≠ scope.currentUnitOrdinal then
    .error (.valueError "candidate changed the locked unit order")
  else if candidate.nodeKeys ≠ scope.sectionNodeKeys then
    .error (.valueError "candidate changed the locked outline nodes")
  else if candidate.unitKey ∈ scope.immutableUnitKeys then
    .error (.valueError "candidate attempted to modify an immutable unit")
  else validateHeading candidate

/-- The answer of the model that `_unit_patch` takes as the new markdown. -/
def replacement (value : List (String × PyValue)) : PyValue :=
  let value := schemaPayload value "unit-patch.v1"
  (value.lookup "replacement_markdown").getD ((value.lookup "markdown").getD (.str ""))

/-- The `replacement_markdown` of `_unit_patch`. -/
def patchMarkdown (scope : UnitScope) (value : List (String × PyValue)) : PyValue :=
  lockedMarkdown scope.currentUnitTitle (replacement value)

/-- The heading check of `validate_patch`. -/
def validatePatchHeading (base : UnitCandidate) (replacement : String) : Except Fault Unit :=
  match newCandidate
      ⟨base.unitKey, base.title, base.ordinal, base.nodeKeys, replacement, [], [], [], []⟩ with
  | .error fault => .error fault
  | .ok revised => validateHeading revised

def scopeOf (unit : OutlineUnit) (scope : UnitScope) : UnitScope :=
  { scope with
    currentUnitKey := unit.unitKey, currentUnitTitle := unit.title
    currentUnitOrdinal := unit.ordinal, sectionNodeKeys := unit.nodeKeys }

/-! ## Which units can be generated -/

section WellFormed

variable (repr : PyValue → String)

def Listed : PyValue → Prop
  | .none => True
  | .list items =>
    let texts := (items.map (str repr)).map strip
    "" ∉ texts ∧ texts.Nodup
  | _ => False

/-- A claim of a known type and criticality, with a statement and a list of references. -/
def FormedClaim (item : PyValue) : Prop :=
  ∃ fields, item = .dict fields ∧
    let text (name default : String) : String := str repr ((fields.lookup name).getD (.str default))
    (∃ claimType : ClaimType, claimType.value = text "claim_type" "PROPOSED_BEHAVIOR") ∧
    (∃ criticality : ClaimCriticality, criticality.value = text "criticality" "IMPORTANT") ∧
    strip (text "statement" "") ≠ "" ∧ Listed repr ((fields.lookup "evidence_refs").getD .none)

/-- What the answer of the model gives beside the markdown. -/
structure CandidateFields.WellFormed (value : CandidateFields) : Prop where
  claims : ∃ items, value.claims = .list items ∧ ∀ item ∈ items, FormedClaim repr item
  claimIDs : Listed repr value.claimIDs
  unknownIDs : Listed repr value.unknownIDs
  usedFactIDs : Listed repr value.usedFactIDs

variable {repr}

theorem bind_eq_ok {ε α β : Type} {x : Except ε α} {f : α → Except ε β} {b : β} :
    (x >>= f) = .ok b ↔ ∃ a, x = .ok a ∧ f a = .ok b := by
  cases x <;> simp [bind, Except.bind]

theorem mapM_eq_ok {ε α β : Type} {f : α → Except ε β} {items : List α} :
    (∃ results, items.mapM f = .ok results) ↔ ∀ item ∈ items, ∃ result, f item = .ok result := by
  induction items with
  | nil => simp [pure, Except.pure]
  | cons item rest ih =>
    rw [List.forall_mem_cons, ← ih, List.mapM_cons]
    cases f item <;> cases rest.mapM f <;> simp [bind, Except.bind, pure, Except.pure]

theorem uniqueTexts_eq_ok {values texts : List String} : uniqueTexts values = .ok texts ↔
    values.map strip = texts ∧ "" ∉ values.map strip ∧ (values.map strip).Nodup := by
  unfold uniqueTexts
  dsimp only
  split
  · next bad =>
    refine iff_of_false nofun ?_
    rintro ⟨-, named, distinct⟩
    exact bad.elim named fun repeated => repeated distinct
  · next fine =>
    rw [not_or, not_not] at fine
    simp only [Except.ok.injEq, fine, not_false_eq_true, and_self, and_true]

theorem stringsOf_eq_ok {value : PyValue} :
    (∃ texts, stringsOf repr value = .ok texts) ↔ Listed repr value := by
  cases value <;> simp [stringsOf, Listed, uniqueTexts_eq_ok]

theorem parseMember_eq_ok {α : Type} {repr : String → String} {name text : String} {value : α → String}
    {members : List α} (all : ∀ member, member ∈ members) :
    (∃ member, parseMember repr name value members text = .ok member) ↔
      ∃ member, value member = text := by
  unfold parseMember
  cases found : members.find? (value · == text) with
  | none => simpa using fun member => List.find?_eq_none.mp found member (all member)
  | some member => simpa using ⟨member, by simpa using List.find?_some found⟩

theorem parseType_eq_ok (repr : String → String) {text : String} :
    (∃ claimType, parseType repr text = .ok claimType) ↔ ∃ claimType : ClaimType, claimType.value = text :=
  parseMember_eq_ok fun member => by cases member <;> decide

theorem parseCriticality_eq_ok (repr : String → String) {text : String} :
    (∃ criticality, parseCriticality repr text = .ok criticality) ↔
      ∃ criticality : ClaimCriticality, criticality.value = text :=
  parseMember_eq_ok fun member => by cases member <;> decide

theorem claim_eq_ok {fields : List (String × PyValue)} :
    (∃ claim, UnitClaim.fromDict repr fields = .ok claim) ↔ FormedClaim repr (.dict fields) := by
  simp only [UnitClaim.fromDict, bind_eq_ok, FormedClaim, PyValue.dict.injEq, exists_eq_left',
    ← stringsOf_eq_ok]
  rw [← parseType_eq_ok (repr ∘ .str), ← parseCriticality_eq_ok (repr ∘ .str)]
  constructor
  · rintro ⟨claim, claimType, typed, criticality, rated, refs, listed, made⟩
    split at made
    · cases made
    · next given => exact ⟨⟨claimType, typed⟩, ⟨criticality, rated⟩, given, refs, listed⟩
  · rintro ⟨⟨claimType, typed⟩, ⟨criticality, rated⟩, given, refs, listed⟩
    exact ⟨_, claimType, typed, criticality, rated, refs, listed, if_neg given⟩

theorem eq_dict_of_mapping? {item : PyValue} {fields : List (String × PyValue)}
    (is : mapping? item = some fields) : item = .dict fields := by
  cases item <;> cases is
  rfl

theorem claimsOf_eq_ok {value : PyValue} : (∃ claims, claimsOf repr value = .ok claims) ↔
    ∃ items, value = .list items ∧ ∀ item ∈ items, FormedClaim repr item := by
  cases value with
  | list items =>
    simp only [PyValue.list.injEq, exists_eq_left', claimsOf]
    split
    · next objects =>
      rw [mapM_eq_ok]
      simp only [claim_eq_ok, List.mem_filterMap, forall_exists_index, and_imp]
      refine ⟨fun formed item mem => ?_, fun formed fields item mem is => ?_⟩
      · obtain ⟨fields, is⟩ := Option.isSome_iff_exists.mp (List.all_eq_true.mp objects item mem)
        exact eq_dict_of_mapping? is ▸ formed fields item mem is
      · exact eq_dict_of_mapping? is ▸ formed item mem
    · next other =>
      refine iff_of_false (fun ⟨_, is⟩ => nomatch is) fun formed => other ?_
      refine List.all_eq_true.mpr fun item mem => ?_
      obtain ⟨fields, rfl, -⟩ := formed item mem
      rfl
  | _ => simp [claimsOf]

theorem fromDict_eq_ok {value : CandidateFields} {candidate : UnitCandidate} :
    UnitCandidate.fromDict repr value = .ok candidate ↔ ∃ nodeKeys claims claimIDs unknownIDs usedFactIDs,
      uniqueTexts value.nodeKeys = .ok nodeKeys ∧ claimsOf repr value.claims = .ok claims ∧
      stringsOf repr value.claimIDs = .ok claimIDs ∧ stringsOf repr value.unknownIDs = .ok unknownIDs ∧
      stringsOf repr value.usedFactIDs = .ok usedFactIDs ∧
      newCandidate ⟨strip value.unitKey, strip value.title, value.ordinal, nodeKeys,
        str repr value.markdown, claims, claimIDs, unknownIDs, usedFactIDs⟩ = .ok candidate := by
  simp only [UnitCandidate.fromDict, bind_eq_ok, exists_and_left]

end WellFormed

theorem validateHeading_ok_iff {candidate : UnitCandidate} : validateHeading candidate = .ok () ↔
    (headings candidate.markdown).head? = some candidate.title := by
  simp [validateHeading]

theorem checkOutline_unit {outline : OutlineCandidate} (accepted : checkOutline outline = .ok ())
    {unit : OutlineUnit} (mem : unit ∈ outline.units) :
    unit.unitKey ≠ "" ∧ (unit.title ≠ "" ∧ 0 ≤ unit.ordinal ∧ unit.nodeKeys ≠ []) ∧
      "" ∉ unit.nodeKeys ∧ unit.nodeKeys.Nodup := by
  revert accepted
  fun_cases checkOutline outline <;> intro accepted <;> cases accepted
  next nodeKeys unitKeys _ assigned unitsChecked _ _ _ =>
  simp only [not_or, not_not] at nodeKeys unitKeys
  obtain ⟨passes, valid⟩ := validateUnits_of_check unitsChecked
  obtain ⟨each, once, -⟩ := (validateUnits_ok_iff .nil).mp passes
  refine ⟨fun empty => unitKeys.2 ?_, valid unit mem, fun empty => nodeKeys.2 ?_, ?_⟩
  · exact Option.isSome_iff_exists.mpr
      ⟨unit, (get_addAll_id (nodup_of_length_addAll unitKeys.1)).mpr ⟨mem, empty⟩⟩
  · obtain ⟨node, found, -⟩ := (each unit mem).1 "" empty
    exact Option.isSome_iff_exists.mpr ⟨node, found⟩
  · rw [List.append_nil, List.nodup_reverse, List.nodup_flatMap] at once
    exact once.1 unit mem

/-- A unit of an accepted outline can be generated exactly if its title is one line, its keys have no outer
blanks, and the claims and ids that the model answers are well formed; and a revision of it passes the
heading check exactly if its title is one line. -/
theorem unit_headed_iff {outline : OutlineCandidate} (accepted : checkOutline outline = .ok ())
    {unit : OutlineUnit} (mem : unit ∈ outline.units) (scope : UnitScope) (repr : PyValue → String)
    (value : List (String × PyValue)) {text : String} (given : strip text ≠ "") :
    (unit.unitKey ∉ scope.immutableUnitKeys →
      (schemaPayload value "unit-candidate.v1").lookup "markdown" = some (.str text) →
      ((∃ candidate, UnitCandidate.fromDict repr (unitCandidate (scopeOf unit scope) value) =
          .ok candidate ∧ validateCandidate (scopeOf unit scope) candidate = .ok ()) ↔
        OneLine unit.title ∧ (strip unit.unitKey = unit.unitKey ∧ ∀ key ∈ unit.nodeKeys, strip key = key) ∧
          (unitCandidate (scopeOf unit scope) value).WellFormed repr)) ∧
    (∀ base, newCandidate base = .ok base → base.title = unit.title → replacement value = .str text →
      (validatePatchHeading base (str repr (patchMarkdown (scopeOf unit scope) value)) = .ok () ↔
        OneLine unit.title)) := by
  obtain ⟨key, ⟨title, ordinal, nodes⟩, named, distinct⟩ := checkOutline_unit accepted mem
  have marked := @strip_lockTitle unit.title text given
  constructor
  · intro mutable answered
    have locked : (unitCandidate (scopeOf unit scope) value).markdown =
        .str (lockTitle unit.title text) := by
      simp [unitCandidate, answered, scopeOf, lockedMarkdown]
    simp only [fromDict_eq_ok, locked]
    constructor
    · rintro ⟨candidate, ⟨nodeKeys, claims, claimIDs, unknownIDs, usedFactIDs, texts, claimed, first,
        second, third, made⟩, valid⟩
      obtain ⟨rfl, -⟩ := uniqueTexts_eq_ok.mp texts
      unfold newCandidate at made
      repeat' split at made
      all_goals cases made
      unfold validateCandidate at valid
      repeat' split at valid
      all_goals try simp only [reduceCtorEq] at valid
      next sameKey sameTitle _ sameNodes _ =>
      rw [validateHeading_ok_iff] at valid
      rw [not_not] at sameKey sameTitle sameNodes
      exact ⟨(head_lockTitle given).mp (valid.trans (congrArg some sameTitle)),
        ⟨sameKey, map_eq_self_iff.mp sameNodes⟩, claimsOf_eq_ok.mp ⟨_, claimed⟩,
        stringsOf_eq_ok.mp ⟨_, first⟩, stringsOf_eq_ok.mp ⟨_, second⟩, stringsOf_eq_ok.mp ⟨_, third⟩⟩
    · rintro ⟨oneLine, ⟨keyed, stripped⟩, formed⟩
      have same : unit.nodeKeys.map strip = unit.nodeKeys := map_eq_self_iff.mpr stripped
      obtain ⟨claims, claimed⟩ := claimsOf_eq_ok.mpr formed.claims
      obtain ⟨claimIDs, first⟩ := stringsOf_eq_ok.mpr formed.claimIDs
      obtain ⟨unknownIDs, second⟩ := stringsOf_eq_ok.mpr formed.unknownIDs
      obtain ⟨usedFactIDs, third⟩ := stringsOf_eq_ok.mpr formed.usedFactIDs
      have texts : uniqueTexts unit.nodeKeys = .ok unit.nodeKeys :=
        uniqueTexts_eq_ok.mpr ⟨same, same.symm ▸ named, same.symm ▸ distinct⟩
      refine ⟨⟨unit.unitKey, unit.title, unit.ordinal, unit.nodeKeys, lockTitle unit.title text, claims,
        claimIDs, unknownIDs, usedFactIDs⟩, ⟨_, _, _, _, _, texts, claimed, first, second, third, ?_⟩, ?_⟩
      · simp [unitCandidate, scopeOf, keyed, oneLine.1, newCandidate, key, title, ordinal, nodes, str, marked]
      · simp [validateCandidate, scopeOf, mutable, validateHeading_ok_iff, head_lockTitle given, oneLine]
  · intro base checked titled answered
    have locked : patchMarkdown (scopeOf unit scope) value = .str (lockTitle unit.title text) := by
      simp [patchMarkdown, answered, scopeOf, lockedMarkdown]
    let revised : UnitCandidate :=
      ⟨base.unitKey, base.title, base.ordinal, base.nodeKeys, lockTitle unit.title text, [], [], [], []⟩
    have passes : newCandidate revised = .ok revised := by
      unfold newCandidate at checked ⊢
      split at checked
      · cases checked
      · next identity => rw [if_neg identity, if_neg marked]
    unfold validatePatchHeading
    rw [locked, str, passes]
    rw [validateHeading_ok_iff, show revised.title = unit.title from titled]
    exact head_lockTitle given

/-! ### A unit with a plain title, and one with a title of two lines -/

def titledOutline (title : String) : OutlineCandidate :=
  { MemoryStore.oneUnitOutline with
    units := MemoryStore.oneUnitOutline.units.map ({ · with title := title }) }

def answeredText : List (String × PyValue) := [("markdown", .str "text"),
  ("claims", .list [.dict [("statement", .str "s"), ("evidence_refs", .list [.str "e"])]]),
  ("unknown_ids", .list [.str "x", .str "y"])]

theorem plain_title_headed : ∃ unit candidate, unit ∈ (titledOutline "Goals").units ∧
    let scope := scopeOf unit { purpose := .generateUnit }
    UnitCandidate.fromDict (fun _ => "") (unitCandidate scope answeredText) = .ok candidate ∧
      validateCandidate scope candidate = .ok () ∧
      validatePatchHeading candidate (str (fun _ => "") (patchMarkdown scope answeredText)) = .ok () := by
  have accepted : checkOutline (titledOutline "Goals") = .ok () := by decide +kernel
  have headed := unit_headed_iff accepted (.head _) { purpose := .generateUnit } (fun _ => "")
    answeredText (show strip "text" ≠ "" by decide +kernel)
  have oneLine : OneLine "Goals" := ⟨by decide +kernel, by simp [isLineBreak]⟩
  have formed (scope : UnitScope) :
      (unitCandidate scope answeredText).WellFormed (fun _ => "") := by
    refine ⟨⟨_, rfl, fun item mem => ?_⟩, ?_, ?_, ?_⟩
    · rw [List.mem_singleton.mp mem]
      exact ⟨_, rfl, ⟨.proposedBehavior, rfl⟩, ⟨.important, rfl⟩, by decide +kernel,
        show _ ∧ _ by decide +kernel⟩
    all_goals exact show _ ∧ _ by decide +kernel
  obtain ⟨candidate, made, valid⟩ :=
    (headed.1 (by decide +kernel) rfl).mpr ⟨oneLine, by decide +kernel, formed _⟩
  cases made
  exact ⟨_, _, .head _, rfl, valid, (headed.2 _ (by decide +kernel) rfl rfl).mpr oneLine⟩

theorem two_line_title_refused : ∃ unit candidate, checkOutline (titledOutline "a\nb") = .ok () ∧
    unit ∈ (titledOutline "a\nb").units ∧
    let scope := scopeOf unit { purpose := .generateUnit }
    let refused := Except.error (.valueError "unit markdown must start with its locked title")
    UnitCandidate.fromDict (fun _ => "") (unitCandidate scope answeredText) = .ok candidate ∧
      validateCandidate scope candidate = refused ∧
      validatePatchHeading candidate (str (fun _ => "") (patchMarkdown scope answeredText)) = refused :=
  ⟨_, _, by decide +kernel, .head _, rfl, by decide +kernel, by decide +kernel⟩

end PrdAgent.Agent
