import PrdAgent.Agent.Ledger

/-!
# Sources of evidence

`agent/knowledge` of the Python worker checks every evidence item against the source authorities of its
run. The loop of `_validate_source` decides on the first authority of the item's kind and binding, so an
authority behind it that would authorise the item is not reached (`validate_source_iff`).
-/

namespace PrdAgent.Agent

open GoText

/-- Evidence of a capability, with the fields of its source. -/
structure SourcedEvidence where
  sourceType : String
  sourceID : String
  locator : String
  excerptHash : String
  excerpt : String
  sourceKind : String := ""
  bindingID : String := ""
  sourceVersion : String := ""
  accessScopeHash : String := ""

structure SourceAuthority where
  sourceKind : String
  bindingID : String
  sourceID : String
  sourceVersion : String
  accessScopeHash : String := ""

inductive SourceReason
  | valid | hashMismatch | staleSource | accessScopeMismatch | locatorMismatch | invalidSource

structure KnowledgeRecord where
  evidenceID : String
  authority : SourceAuthority
  locator : String
  excerptHash : String
  excerpt : String
  actionSignature : String

/-- `_hash(value).removeprefix("sha256:")[:24]`. -/
def Python.digits (py : Python) (value : PyValue) : String :=
  ofChars ((chars (py.sha256Hex (value.dumps.getD "").toUTF8)).take 24)

namespace SourcedEvidence

variable (item : SourcedEvidence) (authority : SourceAuthority)

def kind : String := if item.sourceKind = "" then item.sourceType else item.sourceKind

def binding : String := if item.bindingID = "" then item.sourceID else item.bindingID

def names : Bool :=
  item.kind == authority.sourceKind &&
    (item.binding == authority.sourceID || item.binding == authority.bindingID)

def judge : Option SourceAuthority × SourceReason :=
  if item.sourceVersion ≠ "" ∧ item.sourceVersion ≠ authority.sourceVersion then (none, .staleSource)
  else if item.accessScopeHash ≠ "" ∧ item.accessScopeHash ≠ authority.accessScopeHash then
    (none, .accessScopeMismatch)
  else if authority.sourceKind = "github" then
    if hasPrefix item.locator
        ("github://" ++ authority.bindingID ++ "@" ++ authority.sourceVersion ++ "/") then
      (some authority, .valid)
    else if hasPrefix item.locator ("github://" ++ authority.bindingID ++ "@") then (none, .staleSource)
    else (none, .locatorMismatch)
  else (some authority, .valid)

/-- The loop of `_validate_source`. -/
def validateAmong : List SourceAuthority → Option SourceAuthority × SourceReason
  | [] => (none, .invalidSource)
  | authority :: rest =>
    if item.names authority then item.judge authority else validateAmong rest

def hashCorrect (py : Python) : Bool := "sha256:" ++ py.sha256Hex item.excerpt.toUTF8 == item.excerptHash

/-- `_validate_source`. -/
def validateSource (py : Python) (authorities : List SourceAuthority) :
    Option SourceAuthority × SourceReason :=
  if item.hashCorrect py then item.validateAmong authorities else (none, .hashMismatch)

/-- The `identity` of `_evidence_record`. -/
def identity : PyValue := .dict [
  ("source_kind", .str authority.sourceKind), ("binding_id", .str authority.bindingID),
  ("source_id", .str authority.sourceID), ("source_version", .str authority.sourceVersion),
  ("access_scope_hash", .str authority.accessScopeHash), ("locator", .str item.locator),
  ("excerpt_hash", .str item.excerptHash)]

/-- `_evidence_record`. -/
def evidenceRecord (py : Python) (signature : String) : KnowledgeRecord where
  evidenceID := "evidence-" ++ py.digits (item.identity authority)
  authority := authority
  locator := item.locator
  excerptHash := item.excerptHash
  excerpt := item.excerpt
  actionSignature := signature

/-- The authority authorises the item: it is of its kind and binding, of its version and access scope
where they are given, and, for `github`, the prefix of its locator. -/
def Authorised : Prop :=
  item.names authority ∧
  (item.sourceVersion = "" ∨ item.sourceVersion = authority.sourceVersion) ∧
  (item.accessScopeHash = "" ∨ item.accessScopeHash = authority.accessScopeHash) ∧
  (authority.sourceKind = "github" → hasPrefix item.locator
    ("github://" ++ authority.bindingID ++ "@" ++ authority.sourceVersion ++ "/"))

variable {item authority} {authorities : List SourceAuthority}

theorem judge_eq {found : SourceAuthority} (names : item.names authority) :
    (item.judge authority).1 = some found ↔ authority = found ∧ item.Authorised authority := by
  unfold judge Authorised
  grind

theorem validateAmong_eq {found : SourceAuthority} :
    (item.validateAmong authorities).1 = some found ↔
      authorities.find? item.names = some found ∧ item.Authorised found := by
  induction authorities with
  | nil => simp [validateAmong]
  | cons authority rest ih =>
    unfold validateAmong
    rw [List.find?_cons]
    cases names : item.names authority with
    | false => simpa using ih
    | true =>
      rw [if_pos rfl, judge_eq names, Option.some.injEq]
      exact and_congr_right fun same => same ▸ Iff.rfl

end SourcedEvidence

/-- The records and the reasons that the loop of `build` collects. -/
structure Sourced where
  evidence : AssocMap String KnowledgeRecord
  validIDs : List String := []
  invalidReasons : List SourceReason := []

section

variable (py : Python) (signature : String) (authorities : List SourceAuthority)

/-- The loop of `build` over the evidence items. -/
def sourceItems : List SourcedEvidence → Sourced → Sourced
  | [], sourced => sourced
  | item :: rest, sourced => match item.validateSource py authorities with
    | (none, reason) =>
      sourceItems rest { sourced with invalidReasons := sourced.invalidReasons ++ [reason] }
    | (some authority, _) =>
      let record := item.evidenceRecord authority py signature
      sourceItems rest { sourced with
        evidence := sourced.evidence.set record.evidenceID record
        validIDs := sourced.validIDs ++ [record.evidenceID] }

/-- Among the items, different identities have different digits, and different excerpts different
hashes. -/
structure HashesApart (items : List SourcedEvidence) : Prop where
  identities : ∀ left ∈ items, ∀ right ∈ items, ∀ first ∈ authorities, ∀ second ∈ authorities,
    py.digits (left.identity first) = py.digits (right.identity second) →
      left.identity first = right.identity second
  excerpts : ∀ left ∈ items, ∀ right ∈ items,
    py.sha256Hex left.excerpt.toUTF8 = py.sha256Hex right.excerpt.toUTF8 → left.excerpt = right.excerpt

/-- What the items are recorded as under the id of the record is the record. -/
def RecordedAs (items : List SourcedEvidence) (record : KnowledgeRecord) : Prop :=
  ∀ item ∈ items, ∀ authority, (item.validateSource py authorities).1 = some authority →
    (item.evidenceRecord authority py signature).evidenceID = record.evidenceID →
      item.evidenceRecord authority py signature = record

variable {py signature authorities}

theorem validateSource_eq {item : SourcedEvidence} {authority : SourceAuthority} :
    (item.validateSource py authorities).1 = some authority ↔ item.hashCorrect py ∧
      authorities.find? item.names = some authority ∧ item.Authorised authority := by
  rw [← SourcedEvidence.validateAmong_eq, SourcedEvidence.validateSource]
  split <;> simp_all

/-- Of what is recorded for items whose hashes are apart, an id names one record. -/
theorem HashesApart.record_eq {items : List SourcedEvidence} (apart : HashesApart py authorities items)
    {left right : SourcedEvidence} (mem : left ∈ items) (mem' : right ∈ items)
    {first second : SourceAuthority} (found : (left.validateSource py authorities).1 = some first)
    (found' : (right.validateSource py authorities).1 = some second)
    (same : (left.evidenceRecord first py signature).evidenceID =
      (right.evidenceRecord second py signature).evidenceID) :
    left.evidenceRecord first py signature = right.evidenceRecord second py signature := by
  obtain ⟨hash, there, -⟩ := validateSource_eq.mp found
  obtain ⟨hash', there', -⟩ := validateSource_eq.mp found'
  have equal := apart.identities left mem right mem' first (List.mem_of_find?_eq_some there) second
    (List.mem_of_find?_eq_some there') (by simpa [SourcedEvidence.evidenceRecord] using same)
  obtain ⟨kind, binding, id, version, scope, locator, excerptHash⟩ :
      first.sourceKind = second.sourceKind ∧ first.bindingID = second.bindingID ∧
      first.sourceID = second.sourceID ∧ first.sourceVersion = second.sourceVersion ∧
      first.accessScopeHash = second.accessScopeHash ∧ left.locator = right.locator ∧
      left.excerptHash = right.excerptHash := by
    simpa [SourcedEvidence.identity] using equal
  have excerpt := apart.excerpts left mem right mem' <| by
    simpa [SourcedEvidence.hashCorrect, excerptHash, ← eq_of_beq hash'] using hash
  obtain rfl : first = second := by
    cases first; cases second; simp_all
  unfold SourcedEvidence.evidenceRecord at same ⊢
  simp_all

theorem sourceItems_keeps {items : List SourcedEvidence} {record : KnowledgeRecord} {sourced : Sourced}
    (only : RecordedAs py signature authorities items record)
    (stored : sourced.evidence.get record.evidenceID = some record) :
    (sourceItems py signature authorities items sourced).evidence.get record.evidenceID =
      some record := by
  induction items generalizing sourced with
  | nil => exact stored
  | cons item rest ih =>
    have later : RecordedAs py signature authorities rest record := fun other mem => only other (.tail _ mem)
    unfold sourceItems
    split
    · exact ih later stored
    · next authority _ found =>
      refine ih later ?_
      dsimp only
      rw [AssocMap.get_set]
      split
      · next same =>
        exact congrArg some (only item (.head _) authority (by rw [found]) same.symm)
      · exact stored

theorem sourceItems_stores {items : List SourcedEvidence} {item : SourcedEvidence}
    {authority : SourceAuthority}
    (only : RecordedAs py signature authorities items (item.evidenceRecord authority py signature))
    (mem : item ∈ items) (valid : (item.validateSource py authorities).1 = some authority)
    (sourced : Sourced) :
    (sourceItems py signature authorities items sourced).evidence.get
      (item.evidenceRecord authority py signature).evidenceID =
        some (item.evidenceRecord authority py signature) := by
  induction items generalizing sourced with
  | nil => cases mem
  | cons head rest ih =>
    have later : RecordedAs py signature authorities rest _ := fun other mem => only other (.tail _ mem)
    by_cases again : item ∈ rest
    · unfold sourceItems
      split <;> exact ih later again _
    · obtain rfl := (List.mem_cons.mp mem).resolve_right again
      unfold sourceItems
      split
      · next refused =>
        rw [refused] at valid
        cases valid
      · next found =>
        rw [found] at valid
        cases valid
        exact sourceItems_keeps later (AssocMap.get_set_self _ _ _)

theorem sourceItems_validIDs (items : List SourcedEvidence) (sourced : Sourced) :
    (sourceItems py signature authorities items sourced).validIDs = sourced.validIDs ++
      items.filterMap fun item => (item.validateSource py authorities).1.map fun authority =>
        (item.evidenceRecord authority py signature).evidenceID := by
  induction items generalizing sourced with
  | nil => exact (List.append_nil _).symm
  | cons item rest ih =>
    unfold sourceItems
    rw [List.filterMap_cons]
    rcases item.validateSource py authorities with ⟨_ | authority, reason⟩ <;> simp [ih]

/-- An authority is found for the item exactly if its hash is correct and some authority authorises it, and
the id that is recorded for it names the record of the item with one which does, exactly when the first
authority of the item's kind and binding authorises it if any does. -/
theorem validate_source_iff (py : Python) (signature : String) (authorities : List SourceAuthority)
    (item : SourcedEvidence) :
    (((item.validateSource py authorities).1.isSome ↔
        item.hashCorrect py ∧ ∃ authority ∈ authorities, item.Authorised authority) ∧
      ∀ items prior authority, HashesApart py authorities items → item ∈ items →
        (item.validateSource py authorities).1 = some authority →
        let sourced := sourceItems py signature authorities items ⟨prior, [], []⟩
        let evidenceID := (item.evidenceRecord authority py signature).evidenceID
        authority ∈ authorities ∧ item.Authorised authority ∧ evidenceID ∈ sourced.validIDs ∧
          ∃ record, sourced.evidence.get evidenceID = some record ∧ record.authority = authority ∧
            record.locator = item.locator ∧ record.excerptHash = item.excerptHash ∧
            record.excerpt = item.excerpt) ↔
      (item.hashCorrect py → (∃ authority ∈ authorities, item.Authorised authority) →
        ∃ first, authorities.find? item.names = some first ∧ item.Authorised first) := by
  rw [Option.isSome_iff_exists, and_iff_left ?_]
  · simp only [validateSource_eq, exists_and_left]
    refine ⟨fun is hash any => (is.mpr ⟨hash, any⟩).2, fun is => ⟨fun ⟨hash, first, there, can⟩ =>
      ⟨hash, first, List.mem_of_find?_eq_some there, can⟩, fun ⟨hash, any⟩ => ⟨hash, is hash any⟩⟩⟩
  · intro items prior authority apart mem valid sourced evidenceID
    obtain ⟨-, there, can⟩ := validateSource_eq.mp valid
    refine ⟨List.mem_of_find?_eq_some there, can, ?_, _, sourceItems_stores (fun other mem' found is =>
      apart.record_eq mem' mem is valid) mem valid _, rfl, rfl, rfl, rfl⟩
    dsimp only [sourced]
    rw [sourceItems_validIDs, List.nil_append]
    exact List.mem_filterMap.mpr ⟨item, mem, by rw [valid]; rfl⟩

end

def twoVersions : List SourceAuthority :=
  [⟨"github", "repo", "repo", "v1", ""⟩, ⟨"github", "repo", "repo", "v2", ""⟩]

def newerEvidence : SourcedEvidence where
  sourceType := "github"
  sourceID := "repo"
  locator := "github://repo@v2/main.go"
  excerptHash := "sha256:" ++ Sha256.hex "func main".toUTF8
  excerpt := "func main"

/-- The second authority authorises the item, and in the other order it is found. -/
theorem newer_evidence_refused :
    newerEvidence.hashCorrect (.knowing []) ∧
    (∃ authority ∈ twoVersions, newerEvidence.Authorised authority) ∧
    (newerEvidence.validateSource (.knowing []) twoVersions).1.isNone ∧
    (newerEvidence.validateSource (.knowing []) twoVersions.reverse).1.isSome :=
  ⟨by decide +kernel, ⟨_, .tail _ (.head _), by unfold SourcedEvidence.Authorised; decide⟩,
    by decide +kernel, by decide +kernel⟩

end PrdAgent.Agent
