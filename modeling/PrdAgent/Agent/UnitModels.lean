import PrdAgent.Agent.Ledger

/-!
# Unit scopes and outlines of the worker

`agent/unit/models.py` and `transport.py`: the checks of `UnitScope` and `OutlineCandidate`, the texts
that are hashed for them, and `decode_unit_scope`, which a worker applies to the scope that the
dispatcher sends (`unitScopeToProto`). The records have the fields of their counterparts in the
control plane, and are the same types here.
-/

namespace PrdAgent.Agent

open GoText
open Runcontrol (RunPurpose OutlineNode OutlineUnit OutlineCandidate ConfirmedUnitContext UnitScope)

/-! ## Texts and hashes -/

/-- `str.isspace`: beside the White_Space characters, the four separators U+001C to U+001F. -/
def isPySpace (ch : Char) : Bool := isSpace ch || (0x1c ≤ ch.toNat && ch.toNat ≤ 0x1f)

/-- `str.strip`. -/
def strip (text : String) : String :=
  ofChars ((((chars text).dropWhile isPySpace).reverse.dropWhile isPySpace).reverse)

def bareHash (value : String) : String := trimPrefix value "sha256:"

def isHash (value : String) : Bool :=
  let raw := bareHash value
  (chars raw).length == 64 && (chars raw).all fun ch => "0123456789abcdef".toList.contains ch.toLower

namespace Python

variable (py : Python)

def sha256 (value : String) : String := py.sha256Hex value.toUTF8

/-- `_hash_json`. -/
def hashJson (value : PyValue) : Except Fault String :=
  match value.dumps with
  | none => .error .typeError
  | some encoded => .ok (py.sha256 encoded)

end Python

def strings (values : List String) : PyValue := .list (values.map .str)

/-! ## Unit scopes -/

/-- `ConfirmedUnitContext.__post_init__`. -/
def checkConfirmedUnit (py : Python) (item : ConfirmedUnitContext) : Except Fault Unit :=
  if item.unitKey = "" ∨ item.unitVersion < 1 ∨ isHash item.contentHash = false then
    .error (.valueError "confirmed unit context requires identity, version and hash")
  else if item.markdown ≠ "" ∧ py.sha256 item.markdown ≠ bareHash item.contentHash then
    .error (.valueError "confirmed unit markdown hash mismatch")
  else .ok ()

def confirmedUnitDict (item : ConfirmedUnitContext) : PyValue := .dict [
  ("unit_key", .str item.unitKey), ("unit_version", .int item.unitVersion),
  ("content_hash", .str (bareHash item.contentHash)), ("summary", .str item.summary),
  ("working_draft_ref", .str item.workingDraftRef), ("markdown", .str item.markdown)]

/-- `UnitScope.payload`. -/
def scopePayload (scope : UnitScope) : PyValue := .dict [
  ("schema_version", .str scope.schemaVersion), ("purpose", .str scope.purpose.text),
  ("outline_id", .str scope.outlineID), ("outline_version", .int scope.outlineVersion),
  ("outline_hash", .str (bareHash scope.outlineHash)),
  ("current_unit_key", .str scope.currentUnitKey),
  ("current_unit_title", .str scope.currentUnitTitle),
  ("current_unit_ordinal", .int scope.currentUnitOrdinal),
  ("section_node_keys", strings scope.sectionNodeKeys),
  ("dependency_unit_keys", strings scope.dependencyUnitKeys),
  ("confirmed_context", .list ((scope.confirmedContext.insertionSort
    fun left right => left.unitKey ≤ right.unitKey).map confirmedUnitDict)),
  ("reopened_unit_keys", strings (scope.reopenedUnitKeys.insertionSort (· ≤ ·))),
  ("immutable_unit_keys", strings (scope.immutableUnitKeys.insertionSort (· ≤ ·))),
  ("requirement_brief_ref", .str scope.requirementRef),
  ("requirement_brief_hash", .str (bareHash scope.requirementHash)),
  ("base_unit_hash", .str (bareHash scope.baseUnitHash)),
  ("user_feedback", .str (strip scope.userFeedback))]

/-- The checks of `UnitScope.__post_init__`. -/
def checkScope (scope : UnitScope) : Except Fault Unit :=
  let writesUnit := scope.purpose = .generateUnit ∨ scope.purpose = .reviseUnit
  let contextKeys := scope.confirmedContext.map (·.unitKey)
  if scope.schemaVersion ≠ "unit-scope.v1" then
    .error (.valueError "unsupported unit scope schema")
  else if scope.purpose ≠ .planOutline ∧ (scope.outlineID = "" ∨ scope.outlineVersion < 1 ∨
      isHash scope.outlineHash = false) then
    .error (.valueError "unit scope requires a locked outline identity")
  else if writesUnit ∧ (scope.currentUnitKey = "" ∨ scope.currentUnitTitle = "" ∨
      scope.sectionNodeKeys = []) then
    .error (.valueError "generation scope requires exactly one current unit")
  else if ¬ writesUnit ∧ scope.currentUnitKey ≠ "" then
    .error (.valueError "outline and full review scopes cannot write a current unit")
  else if scope.purpose = .reviseUnit ∧ (scope.currentUnitKey ∉ scope.reopenedUnitKeys ∨
      strip scope.userFeedback = "" ∨ isHash scope.baseUnitHash = false) then
    .error (.valueError "revision scope requires reopened current unit, base hash and feedback")
  else if scope.reopenedUnitKeys.any fun key => decide (key ∈ scope.immutableUnitKeys) then
    .error (.valueError "reopened and immutable unit sets must be disjoint")
  else if ¬ contextKeys.Nodup then
    .error (.valueError "confirmed context unit keys must be unique")
  else if scope.dependencyUnitKeys.any fun key => decide (key ∉ contextKeys) then
    .error (.valueError "all dependencies must have confirmed context")
  else .ok ()

/-- The purposes of `_PURPOSE_FROM_PROTO`. Other purposes go over the wire as unspecified. -/
def knownPurpose : RunPurpose → Bool
  | .planOutline | .generateUnit | .reviseUnit | .fullReview => true
  | .other _ => false

def checkConfirmed (py : Python) : List ConfirmedUnitContext → Except Fault Unit
  | [] => .ok ()
  | item :: rest =>
    match checkConfirmedUnit py item with
    | .error fault => .error fault
    | .ok () => checkConfirmed py rest

/-- `decode_unit_scope`, given the run's purpose and the scope of the message. -/
def decodeUnitScope (py : Python) (purpose : RunPurpose) (value : UnitScope) :
    Except Fault UnitScope :=
  let scope := { value with purpose := purpose, scopeHash := "" }
  let supplied := bareHash value.scopeHash
  if knownPurpose purpose = false then .error (.valueError "unsupported run purpose")
  else match checkConfirmed py scope.confirmedContext with
    | .error fault => .error fault
    | .ok () => match checkScope scope with
      | .error fault => .error fault
      | .ok () => match py.hashJson (scopePayload scope) with
        | .error fault => .error fault
        | .ok hash =>
          if supplied = "" ∨ supplied ≠ hash then
            .error (.valueError "unit scope hash mismatch")
          else .ok { scope with scopeHash := hash }

/-- `unitScopeToProto` of the dispatcher: every field as it is, except that an ordinal has 32 bits. -/
def unitScopeToProto (value : UnitScope) : UnitScope :=
  { value with currentUnitOrdinal := value.currentUnitOrdinal.bmod (2 ^ 32) }

/-! ## Outline candidates -/

def outlineNodeDict (node : OutlineNode) : PyValue := .dict [
  ("node_key", .str node.nodeKey), ("parent_key", .str node.parentKey),
  ("ordinal", .int node.ordinal), ("title", .str node.title),
  ("questions", strings node.questions), ("required_content", strings node.requiredContent),
  ("unit_key", .str node.unitKey)]

def outlineUnitDict (unit : OutlineUnit) : PyValue := .dict [
  ("unit_key", .str unit.unitKey), ("title", .str unit.title), ("ordinal", .int unit.ordinal),
  ("node_keys", strings unit.nodeKeys), ("depends_on", strings unit.dependsOn)]

def outlineFields (candidate : OutlineCandidate) : List (String × PyValue) := [
  ("schema_version", .str candidate.schemaVersion), ("title", .str candidate.title),
  ("requirement_size", .str candidate.requirementSize),
  ("nodes", .list (candidate.nodes.map outlineNodeDict)),
  ("units", .list (candidate.units.map outlineUnitDict))]

/-- `OutlineCandidate.payload`. -/
def outlinePayload (candidate : OutlineCandidate) : PyValue := .dict (outlineFields candidate)

def byKey {α : Type} (key : α → String) (items : List α) : AssocMap String α :=
  items.foldl (fun map item => map.set (key item) item) ∅

/-- The `while parent` loop, with how many more parents the depth limit allows. -/
def checkParents (nodes : AssocMap String OutlineNode) :
    Nat → List String → String → Except Fault Unit
  | remaining, seen, parent =>
    if parent = "" then .ok ()
    else match nodes.get parent with
      | none => .error (.valueError "outline contains a missing parent or node cycle")
      | some parentNode =>
        if parent ∈ seen then
          .error (.valueError "outline contains a missing parent or node cycle")
        else match remaining with
          | 0 => .error (.valueError "outline depth exceeds three levels")
          | remaining + 1 => checkParents nodes remaining (parent :: seen) parentNode.parentKey

/-- The loop over the nodes. -/
def checkNodes (nodes : AssocMap String OutlineNode) (units : AssocMap String OutlineUnit) :
    List OutlineNode → Except Fault Unit
  | [] => .ok ()
  | node :: rest =>
    if node.title = "" ∨ node.ordinal < 0 ∨ (units.get node.unitKey).isNone then
      .error (.valueError "outline node has invalid identity or unit")
    else match checkParents nodes 2 [node.nodeKey] node.parentKey with
      | .error fault => .error fault
      | .ok () => checkNodes nodes units rest

/-- The loop over the nodes that a unit lists, with the nodes assigned so far. -/
def checkAssignment (nodes : AssocMap String OutlineNode) (unitKey : String) :
    List String → List String → Except Fault (List String)
  | assigned, [] => .ok assigned
  | assigned, key :: rest =>
    match nodes.get key with
    | none => .error (.valueError "outline node assignment is invalid")
    | some node =>
      if node.unitKey ≠ unitKey ∨ key ∈ assigned then
        .error (.valueError "outline node assignment is invalid")
      else checkAssignment nodes unitKey (key :: assigned) rest

/-- The loop over the units. -/
def checkUnits (nodes : AssocMap String OutlineNode) (units : AssocMap String OutlineUnit) :
    List String → List OutlineUnit → Except Fault (List String)
  | assigned, [] => .ok assigned
  | assigned, unit :: rest =>
    if unit.title = "" ∨ unit.ordinal < 0 ∨ unit.nodeKeys = [] then
      .error (.valueError "outline unit requires title, order and nodes")
    else match checkAssignment nodes unit.unitKey assigned unit.nodeKeys with
      | .error fault => .error fault
      | .ok assigned =>
        if unit.dependsOn.any fun dep => (units.get dep).isNone || dep == unit.unitKey then
          .error (.valueError "outline unit dependency is invalid")
        else checkUnits nodes units assigned rest

/-- `dependencies[key]`. The code visits the members of a set in some order, on which it does not depend
whether a cycle is met. -/
def dependencySet (units : AssocMap String OutlineUnit) (key : String) : List String :=
  (((units.get key).map (·.dependsOn)).getD []).dedup

/-- `_validate_outline`. -/
def checkOutline (candidate : OutlineCandidate) : Except Fault Unit :=
  let nodes := byKey (·.nodeKey) candidate.nodes
  let units := byKey (·.unitKey) candidate.units
  if candidate.schemaVersion ≠ "outline-candidate.v1" then
    .error (.valueError "unsupported outline candidate schema")
  else if candidate.title = "" ∨ candidate.requirementSize = "" ∨ candidate.nodes = [] then
    .error (.valueError "outline requires title, size and nodes")
  else if candidate.units = [] ∨ candidate.units.length > 15 then
    .error (.valueError "outline requires between one and fifteen units")
  else if nodes.keys.length ≠ candidate.nodes.length ∨ (nodes.get "").isSome then
    .error (.valueError "outline node keys must be unique and non-empty")
  else if units.keys.length ≠ candidate.units.length ∨ (units.get "").isSome then
    .error (.valueError "outline unit keys must be unique and non-empty")
  else match checkNodes nodes units candidate.nodes with
    | .error fault => .error fault
    | .ok () => match checkUnits nodes units [] candidate.units with
      | .error fault => .error fault
      | .ok assigned =>
        if ¬ (assigned ⊆ nodes.keys ∧ nodes.keys ⊆ assigned) then
          .error (.valueError "every outline node must belong to exactly one unit")
        else match Topological.visitAll (dependencySet units) (candidate.units.length + 1)
            (candidate.units.map (·.unitKey)) with
          | none => .error (.valueError "outline unit dependencies contain a cycle")
          | some _ => .ok ()

/-- `OutlineCandidate.__post_init__`: the candidate with its hash. -/
def newOutline (py : Python) (candidate : OutlineCandidate) : Except Fault OutlineCandidate :=
  match checkOutline candidate with
  | .error fault => .error fault
  | .ok () => match py.hashJson (outlinePayload candidate) with
    | .error fault => .error fault
    | .ok hash => .ok { candidate with contentHash := hash }

/-- `OutlineCandidate.as_dict`. -/
def outlineDict (candidate : OutlineCandidate) : PyValue :=
  .dict (outlineFields candidate ++ [("content_hash", .str candidate.contentHash)])

end PrdAgent.Agent
