import PrdAgent.Agent.Knowledge
import PrdAgent.Agent.UnitModels

/-!
# Grounding of a draft

`agent/grounding/module.py` of the Python worker compares the claims of a draft with the facts of its
knowledge bundle. Claims are joined to their findings by an id that leaves out the criticality, so the
first claim of an id decides for all of them whether a missing support blocks; `assess_sound_iff` says
when the verdict is still that of each claim by itself, whatever the order of the claims and facts.
-/

namespace PrdAgent.Agent

open GoText

/-! ## Claims of a draft -/

inductive ClaimType
  | userRequirement | currentState | constraint | proposedBehavior | acceptanceCriterion | assumption
  deriving DecidableEq

inductive ClaimCriticality
  | blocking | important | informational
  deriving DecidableEq

def ClaimType.value : ClaimType → String
  | .userRequirement => "USER_REQUIREMENT"
  | .currentState => "CURRENT_STATE"
  | .constraint => "CONSTRAINT"
  | .proposedBehavior => "PROPOSED_BEHAVIOR"
  | .acceptanceCriterion => "ACCEPTANCE_CRITERION"
  | .assumption => "ASSUMPTION"

def ClaimCriticality.value : ClaimCriticality → String
  | .blocking => "BLOCKING"
  | .important => "IMPORTANT"
  | .informational => "INFORMATIONAL"

/-- An enumeration called with a text, given the `repr` of texts. -/
def parseMember {α : Type} (repr : String → String) (name : String) (value : α → String)
    (members : List α) (text : String) : Except Fault α :=
  match members.find? (value · == text) with
  | some found => .ok found
  | none => .error (.valueError (repr text ++ " is not a valid " ++ name))

def parseType (repr : String → String) : String → Except Fault ClaimType :=
  parseMember repr "ClaimType" ClaimType.value [.userRequirement, .currentState, .constraint,
    .proposedBehavior, .acceptanceCriterion, .assumption]

def parseCriticality (repr : String → String) : String → Except Fault ClaimCriticality :=
  parseMember repr "ClaimCriticality" ClaimCriticality.value [.blocking, .important, .informational]

structure Claim where
  claimID : String
  unitKey : String
  claimType : ClaimType
  criticality : ClaimCriticality
  statement : String

def Claim.critical (claim : Claim) : Bool := claim.criticality ≠ .informational

/-- An object among the claims of the model, with the texts `str(raw.get(...))`. -/
structure RawClaim where
  unitKey : String := ""
  statement : String := ""
  claimType : String := "PROPOSED_BEHAVIOR"
  criticality : String := "IMPORTANT"

structure DraftUnit where
  unitKey : String
  title : String

/-- The runtime with `str.lower` and `repr`. -/
structure TextPython extends Python where
  lower : String → String
  repr : String → String

def runsOf (member : Char → Bool) (text : List Char) : List (List Char) :=
  (text.splitOnP (!member ·)).filter (· ≠ [])

def joinWith (separator : Char) (parts : List (List Char)) : String :=
  ofChars ([separator].intercalate parts)

namespace TextPython

variable (py : TextPython)

/-- `_unit_key`: what `re.sub` and `strip` leave are the runs, joined by hyphens. -/
def unitKey (value : String) : String :=
  let normalized := joinWith '-'
    (runsOf (fun ch => ch.isLower || ch.isDigit) (chars (py.lower (strip value))))
  if normalized = "" then "unit-" ++ ofChars ((chars (py.sha256 value)).take 12) else normalized

/-- `_claim_id`. -/
def claimID (runID : String) (generation : Int) (unitKey : String) (claimType : ClaimType)
    (statement : String) : String :=
  "claim-" ++ ofChars ((chars (py.sha256 (joinNul
    [runID, toString generation, unitKey, claimType.value, strip statement]))).take 24)

/-- The loop body of `_claims`; nothing stands for an item that is no object. The `evidence_refs`,
`requirement_refs` and `trace_to_claim_ids` of a claim, which grounding does not read, are left out, and
with them the `TypeError` for one that cannot be iterated. -/
def claim (runID : String) (generation : Int) (unitKeys : List String) :
    Option RawClaim → Except Fault Claim
  | none => .error (.valueError "claim must be an object")
  | some raw => do
    let unitKey := py.unitKey raw.unitKey
    let statement := strip raw.statement
    if unitKey ∉ unitKeys ∨ statement = "" then
      throw (.valueError "claim references an unknown unit")
    let claimType ← parseType py.repr raw.claimType
    let criticality ← parseCriticality py.repr raw.criticality
    return ⟨py.claimID runID generation unitKey claimType statement, unitKey, claimType, criticality,
      statement⟩

/-- `_claims`: the claims of the model if it gives a list, and otherwise one for each unit. -/
def claims (runID : String) (generation : Int) (units : List DraftUnit) :
    Option (List (Option RawClaim)) → Except Fault (List Claim)
  | some raws => raws.mapM (py.claim runID generation (units.map (·.unitKey)))
  | none => .ok (units.map fun unit =>
      ⟨py.claimID runID generation unit.unitKey .proposedBehavior unit.title, unit.unitKey,
        .proposedBehavior, .important, unit.title⟩)

end TextPython

/-! ## Facts -/

inductive FactScope
  | currentState | historicalContext | targetDecision | assumption
  deriving DecidableEq

inductive FactType
  | userConfirmed | codeVerified | documentSupported | inferred
  deriving DecidableEq

inductive VerificationStatus
  | supported | partly | unsupported | conflicting
  deriving DecidableEq

/-- A verified fact; `value` is the text of its value. -/
structure VerifiedFact where
  factID : String
  subject : String
  predicate : String
  value : String
  factScope : FactScope
  factType : FactType
  verificationStatus : VerificationStatus
  evidenceIDs : List String

structure SourceConflict where
  factIDs : List String
  status : String := "OPEN"

structure KnowledgeBundle where
  evidence : List KnowledgeRecord
  facts : List VerifiedFact
  conflicts : List SourceConflict

inductive GroundingStatus
  | supported | partly | unsupported | conflicting | notRequired
  deriving DecidableEq

inductive GroundingOutcome
  | grounded | supplementRequired | partly
  deriving DecidableEq

def GroundingStatus.missing (status : GroundingStatus) : Bool :=
  status == .unsupported || status == .partly || status == .conflicting

structure GroundingFinding where
  claimID : String
  status : GroundingStatus
  evidenceRefs : List String
  reasonCode : String
  factIDs : List String := []

def ClaimType.required (claimType : ClaimType) : Bool :=
  claimType == .currentState || claimType == .constraint

def scopeMatches (fact : VerifiedFact) : ClaimType → Bool
  | .currentState => fact.factScope == .currentState
  | .constraint => fact.factScope == .currentState || fact.factScope == .targetDecision
  | _ => false

def scopeSupports (fact : VerifiedFact) (claimType : ClaimType) : Bool :=
  scopeMatches fact claimType && claimType.required &&
    (fact.factType == .codeVerified || fact.factType == .userConfirmed)

/-- `_finding`. -/
def finding (claimID : String) (status : GroundingStatus) (facts : List VerifiedFact)
    (reason : String) : GroundingFinding where
  claimID := claimID
  status := status
  evidenceRefs := ((facts.flatMap (·.evidenceIDs)).dedup).insertionSort (· ≤ ·)
  reasonCode := reason
  factIDs := (facts.map (·.factID)).insertionSort (· ≤ ·)

namespace KnowledgeBundle

variable (py : TextPython) (k : KnowledgeBundle)

/-- `_tokens`. -/
def tokens (value : String) : List (List Char) :=
  runsOf (fun ch => ch.isLower || ch.isDigit || (0x4e00 ≤ ch.toNat && ch.toNat ≤ 0x9fff))
    ((chars (py.lower value)).map fun ch => if ch = '_' then ' ' else ch)

/-- The excerpt that `evidence_by_id` has for the id: that of the last record. -/
def excerpt (evidenceID : String) : String :=
  ((k.evidence.reverse.find? (·.evidenceID == evidenceID)).map (·.excerpt)).getD ""

/-- `_fact_mentions_claim`. -/
def mentions (fact : VerifiedFact) (statement : String) : Bool :=
  let needed := (tokens py statement).filter fun token => token.length > 1
  let searchable := joinWith ' '
    (([fact.subject, fact.predicate, fact.value] ++ fact.evidenceIDs.map k.excerpt).map chars)
  needed ≠ [] && needed.all fun token => (tokens py searchable).contains token

def inConflict (fact : VerifiedFact) : Bool :=
  k.conflicts.any fun conflict => conflict.status == "OPEN" && conflict.factIDs.contains fact.factID

/-- The loop body of `assess`. -/
def assessClaim (claim : Claim) : GroundingFinding :=
  if claim.claimType.required then
    let related := k.facts.filter (k.mentions py · claim.statement)
    let conflicting := related.filter k.inConflict
    let supporting := related.filter fun fact =>
      scopeSupports fact claim.claimType && fact.verificationStatus == .supported
    if conflicting ≠ [] then finding claim.claimID .conflicting conflicting "OPEN_SOURCE_CONFLICT"
    else if supporting ≠ [] then finding claim.claimID .supported supporting "VERIFIED_FACT_SUPPORT"
    else if related ≠ [] then
      finding claim.claimID .unsupported related
        (if related.any (scopeMatches · claim.claimType) then "FACT_TYPE_MISMATCH"
          else "FACT_SCOPE_MISMATCH")
    else ⟨claim.claimID, .unsupported, [], "FACT_REQUIRED", []⟩
  else ⟨claim.claimID, .notRequired, [], "CLAIM_TYPE_NOT_GROUNDING_REQUIRED", []⟩

/-- Some finding blocks: `next` takes the criticality of the first claim of its id. -/
def blocking (claims : List Claim) (findings : List GroundingFinding) : Bool :=
  findings.any fun finding => finding.status.missing &&
    (claims.find? (·.claimID == finding.claimID)).any Claim.critical

/-- `GroundingModule.assess`. -/
def assess (claims : List Claim) (supplementCount maxSupplements : Int) (hasBudget : Bool) :
    List GroundingFinding × GroundingOutcome :=
  let findings := claims.map (k.assessClaim py)
  (findings, if !blocking claims findings then .grounded
    else if supplementCount < maxSupplements && hasBudget then .supplementRequired else .partly)

/-! ## What the verdict should be -/

/-- Some supported fact of an allowed scope and type mentions the claim, and no fact that mentions it is
in an open conflict. -/
def Supported (claim : Claim) : Prop :=
  (∃ fact ∈ k.facts, k.mentions py fact claim.statement ∧ scopeSupports fact claim.claimType ∧
    fact.verificationStatus = .supported) ∧
  ∀ fact ∈ k.facts, k.mentions py fact claim.statement → ¬ k.inConflict fact

def Lacks (claim : Claim) : Prop := claim.claimType.required ∧ ¬ k.Supported py claim

variable {py k} {claims : List Claim}

theorem missing_iff {claim : Claim} :
    (k.assessClaim py claim).status.missing ↔ k.Lacks py claim := by
  let related := k.facts.filter (k.mentions py · claim.statement)
  have clear : related.filter k.inConflict = [] ↔
      ∀ fact ∈ k.facts, k.mentions py fact claim.statement → ¬ k.inConflict fact := by
    simp only [related, List.filter_eq_nil_iff, List.mem_filter, and_imp]
  have bare : (related.filter fun fact => scopeSupports fact claim.claimType &&
      fact.verificationStatus == .supported) ≠ [] ↔ ∃ fact ∈ k.facts, k.mentions py fact claim.statement ∧
        scopeSupports fact claim.claimType ∧ fact.verificationStatus = .supported := by
    simp only [related, ne_eq, List.filter_eq_nil_iff, List.mem_filter, Bool.and_eq_true, beq_iff_eq,
      not_forall, not_not, exists_prop, and_assoc]
  unfold assessClaim Lacks Supported
  rw [← clear, ← bare]
  dsimp only [related]
  generalize List.filter k.inConflict _ = conflicting
  generalize List.filter (fun fact => scopeSupports fact claim.claimType &&
    fact.verificationStatus == .supported) _ = supporting
  split
  · next required =>
    rw [and_iff_right required]
    cases conflicting with
    | cons => simp [finding, GroundingStatus.missing]
    | nil =>
      cases supporting with
      | cons => simp [finding, GroundingStatus.missing]
      | nil =>
        rw [if_neg (by simp), if_neg (by simp)]
        split <;> simp [finding, GroundingStatus.missing]
  · next free => simp [free, GroundingStatus.missing]

/-- Some claim lacks support, and the first claim of its id is not informational. -/
theorem blocking_iff : blocking claims (claims.map (k.assessClaim py)) ↔
    ∃ claim ∈ claims, k.Lacks py claim ∧ ∃ first,
      claims.find? (·.claimID == claim.claimID) = some first ∧ first.critical := by
  have same (claim : Claim) : (k.assessClaim py claim).claimID = claim.claimID := by
    unfold assessClaim
    dsimp only
    repeat' split
    all_goals rfl
  simp [blocking, List.any_map, missing_iff, same, Option.any_eq_true]

theorem find_id {claim : Claim} (mem : claim ∈ claims) :
    ∃ first ∈ claims, claims.find? (·.claimID == claim.claimID) = some first ∧
      first.claimID = claim.claimID := by
  have found : (claims.find? (·.claimID == claim.claimID)).isSome :=
    List.find?_isSome.mpr ⟨claim, mem, beq_self_eq_true _⟩
  obtain ⟨first, is⟩ := Option.isSome_iff_exists.mp found
  exact ⟨first, List.mem_of_find?_eq_some is, is, by simpa using List.find?_some is⟩

def front (test : Claim → Bool) (claims : List Claim) : List Claim :=
  claims.filter test ++ claims.filter (!test ·)

theorem find_front (test : Claim → Bool) {other : Claim} (mem : other ∈ claims) (passes : test other) :
    ∃ first, (front test claims).find? (·.claimID == other.claimID) = some first ∧ test first := by
  obtain ⟨first, there, is, -⟩ := find_id (List.mem_filter.mpr ⟨mem, passes⟩)
  exact ⟨first, by rw [front, List.find?_append, is]; rfl, (List.mem_filter.mp there).2⟩

/-- What each claim by itself asks for is what the verdict says, in every order of the claims and facts,
exactly if a claim that lacks support has an id that no informational claim has, or all claims with the
id of one that lacks support are informational. -/
theorem assess_sound_iff (py : TextPython) (k : KnowledgeBundle) (claims : List Claim)
    (supplementCount maxSupplements : Int) (hasBudget : Bool) :
    (((k.assess py claims supplementCount maxSupplements hasBudget).2 = .grounded ↔
        ∀ claim ∈ claims, claim.claimType.required → claim.critical → k.Supported py claim) ∧
      ∀ claims' facts', claims'.Perm claims → facts'.Perm k.facts →
        (({ k with facts := facts' }).assess py claims' supplementCount maxSupplements hasBudget).2 =
          (k.assess py claims supplementCount maxSupplements hasBudget).2) ↔
      (∃ claim ∈ claims, k.Lacks py claim ∧
        ∀ other ∈ claims, other.claimID = claim.claimID → other.critical) ∨
      ∀ claim ∈ claims, k.Lacks py claim →
        ∀ other ∈ claims, other.claimID = claim.claimID → ¬ other.critical := by
  let blocks (k : KnowledgeBundle) (claims : List Claim) : Bool :=
    blocking claims (claims.map (k.assessClaim py))
  let outcome (blocked : Bool) : GroundingOutcome := if !blocked then .grounded
    else if supplementCount < maxSupplements && hasBudget then .supplementRequired else .partly
  change ((outcome (blocks k claims) = .grounded ↔ _) ∧ ∀ claims' facts', _ → _ →
    outcome (blocks { k with facts := facts' } claims') = outcome (blocks k claims)) ↔ _
  have grounded (blocked : Bool) : outcome blocked = .grounded ↔ blocked = false := by
    grind
  have reordered {facts'} (perm : facts'.Perm k.facts) (claim : Claim) :
      ({ k with facts := facts' }).Lacks py claim ↔ k.Lacks py claim := by
    simp only [Lacks, Supported, perm.mem_iff]
    rfl
  constructor
  · rintro ⟨-, order⟩
    by_contra! mixed
    obtain ⟨mixed, claim, mem, lacks, other, there, same, critical⟩ := mixed
    have perm (test : Claim → Bool) : (front test claims).Perm claims :=
      List.filter_append_perm test claims
    -- with the informational claims last the claim blocks, with those first none does
    have last : blocks k (front Claim.critical claims) = true := by
      obtain ⟨first, is, critical⟩ := find_front _ there critical
      exact blocking_iff.mpr ⟨claim, (perm _).mem_iff.mpr mem, lacks, first, same ▸ is, critical⟩
    have first : blocks k (front (!Claim.critical ·) claims) = false := by
      rw [Bool.eq_false_iff]
      intro blocked
      obtain ⟨claim, mem, lacks, first, is, critical⟩ := blocking_iff.mp blocked
      obtain ⟨other, there, same, plain⟩ := mixed claim ((perm _).mem_iff.mp mem) lacks
      obtain ⟨first', is', plain⟩ := find_front (!Claim.critical ·) there (by simpa using plain)
      rw [same, is] at is'
      cases is'
      simp [critical] at plain
    have agree := (order _ k.facts (perm Claim.critical) (.refl _)).trans
      (order _ k.facts (perm (!Claim.critical ·)) (.refl _)).symm
    cases last.symm.trans ((grounded _).mp (agree.trans ((grounded _).mpr first)))
  · intro alike
    suffices ∃ blocked : Bool, (∀ claims' facts', claims'.Perm claims → facts'.Perm k.facts →
        blocks { k with facts := facts' } claims' = blocked) ∧ (blocked = false ↔ ∀ claim ∈ claims,
          claim.claimType.required → claim.critical → k.Supported py claim) by
      obtain ⟨blocked, fixed, is⟩ := this
      have here : blocks k claims = blocked := fixed _ _ (.refl _) (.refl _)
      rw [grounded, here]
      exact ⟨is, fun claims' facts' order facts => by rw [fixed _ _ order facts]⟩
    rcases alike with ⟨claim, mem, lacks, all⟩ | none
    · refine ⟨true, fun claims' facts' order facts => ?_, nofun, fun sound => ?_⟩
      · obtain ⟨first, there, is, same⟩ := find_id (order.mem_iff.mpr mem)
        exact blocking_iff.mpr ⟨claim, order.mem_iff.mpr mem, (reordered facts claim).mpr lacks, first, is,
          all first (order.mem_iff.mp there) same⟩
      · exact (lacks.2 (sound claim mem lacks.1 (all claim mem rfl))).elim
    · refine ⟨false, fun claims' facts' order facts => ?_, fun _ claim mem required critical => ?_,
        fun _ => rfl⟩
      · refine Bool.eq_false_iff.mpr fun blocked => ?_
        obtain ⟨claim, mem, lacks, first, is, critical⟩ := blocking_iff.mp blocked
        exact none claim (order.mem_iff.mp mem) ((reordered facts claim).mp lacks) first
          (order.mem_iff.mp (List.mem_of_find?_eq_some is)) (by simpa using List.find?_some is) critical
      · by_contra lacks
        exact none claim mem ⟨required, lacks⟩ claim mem rfl critical

end KnowledgeBundle

def claimedTwice : List (Option RawClaim) :=
  [some ⟨"scope", "cache is shared", "CURRENT_STATE", "INFORMATIONAL"⟩,
    some ⟨"scope", "cache is shared", "CURRENT_STATE", "BLOCKING"⟩]

/-- Without any fact the claims are grounded, and in the other order they are not. -/
theorem claimed_twice_grounded :
    let py : TextPython := ⟨.knowing [], mapChars Char.toLower, fun text => "'" ++ text ++ "'"⟩
    ∃ first second, py.claims "run" 1 [⟨"scope", "Scope"⟩] (some claimedTwice) = .ok [first, second] ∧
      second.claimType.required ∧ second.critical ∧ ¬ (⟨[], [], []⟩ : KnowledgeBundle).Supported py second ∧
      (KnowledgeBundle.assess py ⟨[], [], []⟩ [first, second] 0 1 true).2 = .grounded ∧
      (KnowledgeBundle.assess py ⟨[], [], []⟩ [second, first] 0 1 true).2 = .supplementRequired :=
  ⟨_, _, rfl, rfl, rfl, fun supported => by simp [KnowledgeBundle.Supported] at supported,
    by decide +kernel, by decide +kernel⟩

end PrdAgent.Agent
