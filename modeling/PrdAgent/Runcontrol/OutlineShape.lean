import Mathlib.Data.Prod.Lex
import Mathlib.Data.String.Basic
import PrdAgent.Library.Latest
import PrdAgent.Runcontrol.UnitScope

/-!
# Well-formed outlines

`validateOutlineCandidate` indexes nodes and units, walks from each node to its root, assigns the nodes
to the units that list them and searches the dependencies depth first. `WellFormed` says what an outline
is to be, in terms of its lists only; for each loop there is a lemma on when it ends without an error.

The units of an accepted outline are confirmed one after the other, each time the one that
`nextDependencyReadyUnit` gives (`InTurn`).
-/

namespace PrdAgent.Runcontrol

open GoText AssocMap

def ParentOf (nodes : List OutlineNode) (child parent : String) : Prop :=
  ∃ node ∈ nodes, node.nodeKey = child ∧ node.parentKey = parent ∧ parent ≠ ""

def DependsOn (units : List OutlineUnit) (key dependency : String) : Prop :=
  ∃ unit ∈ units, unit.unitKey = key ∧ dependency ∈ unit.dependsOn

/-- Parents are nodes, no node is among its own ancestors, and none has more than two. -/
structure NodesNested (nodes : List OutlineNode) : Prop where
  parents : ∀ child parent, ParentOf nodes child parent → ∃ node ∈ nodes, node.nodeKey = parent
  acyclic : ∀ key, ¬ Relation.TransGen (ParentOf nodes) key key
  depth : ∀ a b c d, ParentOf nodes a b → ParentOf nodes b c → ¬ ParentOf nodes c d

/-- Units list nodes of their own, and every node is listed once. -/
structure NodesListed (nodes : List OutlineNode) (units : List OutlineUnit) : Prop where
  own : ∀ unit ∈ units, ∀ key ∈ unit.nodeKeys,
    ∃ node ∈ nodes, node.nodeKey = key ∧ node.unitKey = unit.unitKey
  once : (units.flatMap (·.nodeKeys)).Nodup
  all : ∀ node ∈ nodes, ∃ unit ∈ units, node.nodeKey ∈ unit.nodeKeys

/-- Dependencies are other units, and no unit depends on itself, be it through others. -/
structure UnitsOrdered (units : List OutlineUnit) : Prop where
  known : ∀ unit ∈ units, ∀ dependency ∈ unit.dependsOn,
    (∃ other ∈ units, other.unitKey = dependency) ∧ dependency ≠ unit.unitKey
  acyclic : ∀ key, ¬ Relation.TransGen (DependsOn units) key key

structure WellFormed (candidate : OutlineCandidate) : Prop where
  identity : candidate.schemaVersion = "outline-candidate.v1" ∧ trimSpace candidate.title ≠ "" ∧
    trimSpace candidate.requirementSize ≠ ""
  sized : candidate.nodes ≠ [] ∧ candidate.units ≠ [] ∧ candidate.units.length ≤ 15
  nodes : ∀ node ∈ candidate.nodes, node.nodeKey ≠ "" ∧ node.title ≠ "" ∧ 0 ≤ node.ordinal
  nodeKeys : (candidate.nodes.map (·.nodeKey)).Nodup
  units : ∀ unit ∈ candidate.units,
    unit.unitKey ≠ "" ∧ unit.title ≠ "" ∧ 0 ≤ unit.ordinal ∧ unit.nodeKeys ≠ []
  unitKeys : (candidate.units.map (·.unitKey)).Nodup
  nested : NodesNested candidate.nodes
  listed : NodesListed candidate.nodes candidate.units
  ordered : UnitsOrdered candidate.units

/-! ## The loops -/

/-- A loop that indexes items by key, refusing bad items and repeated keys. -/
theorem index_ok_iff {α β : Type} {key : α → String} {value : α → β} {bad : α → Prop}
    [DecidablePred bad] {index : GoMap β → List α → Except StoreError (GoMap β)}
    {invalid duplicate : StoreError} (nil : ∀ map, index map [] = .ok map)
    (cons : ∀ map item rest, index map (item :: rest) = if bad item then .error invalid
      else if (map.get (key item)).isSome then .error duplicate
      else index (map.set (key item) (value item)) rest) {items : List α} {map indexed : GoMap β} :
    index map items = .ok indexed ↔ (∀ item ∈ items, ¬ bad item) ∧ (items.map key).Nodup ∧
      (∀ item ∈ items, map.get (key item) = none) ∧ addAll key value items map = indexed := by
  induction items generalizing map with
  | nil => simp [nil, addAll]
  | cons item rest ih =>
    rw [cons, List.forall_mem_cons, List.forall_mem_cons, List.map_cons, List.nodup_cons]
    by_cases wrong : bad item
    · simp [wrong]
    cases stored : map.get (key item) with
    | some found => simp [wrong]
    | none =>
      have free : (∀ other ∈ rest, (map.set (key item) (value item)).get (key other) = none) ↔
          key item ∉ rest.map key ∧ ∀ other ∈ rest, map.get (key other) = none := by
        simp only [get_set, List.mem_map]
        grind
      rw [if_neg wrong, if_neg (by simp), ih, free]
      constructor
      · rintro ⟨good, distinct, ⟨new, unused⟩, is⟩
        exact ⟨⟨wrong, good⟩, ⟨new, distinct⟩, ⟨rfl, unused⟩, is⟩
      · rintro ⟨⟨-, good⟩, ⟨new, distinct⟩, ⟨-, unused⟩, is⟩
        exact ⟨good, distinct, ⟨new, unused⟩, is⟩

variable {units : GoMap OutlineUnit} {list : List OutlineUnit}

theorem indexUnits_ok_iff :
    indexUnits ∅ list = .ok units ↔ (∀ unit ∈ list, unit.unitKey ≠ "" ∧ unit.title ≠ "" ∧
      0 ≤ unit.ordinal ∧ unit.nodeKeys ≠ []) ∧ (list.map (·.unitKey)).Nodup ∧
      addAll (·.unitKey) id list ∅ = units := by
  rw [index_ok_iff (fun _ => rfl) (fun _ _ _ => rfl)]
  simp [addAll]

variable {nodes : GoMap OutlineNode}

theorem indexNodes_ok_iff {list : List OutlineNode} :
    indexNodes ∅ list = .ok nodes ↔ (∀ node ∈ list, node.nodeKey ≠ "" ∧ node.title ≠ "" ∧
      0 ≤ node.ordinal) ∧ (list.map (·.nodeKey)).Nodup ∧ addAll (·.nodeKey) id list ∅ = nodes := by
  rw [index_ok_iff (fun _ => rfl) (fun _ _ _ => rfl)]
  simp [addAll]

theorem validateNodes_ok_iff
    {list : List OutlineNode} : validateNodes nodes units list = .ok () ↔ ∀ node ∈ list,
      (units.get node.unitKey).isSome ∧
        parentChainValid nodes 2 [node.nodeKey] node.parentKey = true := by
  induction list with
  | nil => simp [validateNodes]
  | cons node rest ih =>
    rw [List.forall_mem_cons, ← ih]
    rw [validateNodes]
    cases units.get node.unitKey <;> cases parentChainValid nodes 2 [node.nodeKey] node.parentKey <;>
      simp

theorem assignNodes_ok_iff {unitKey : String}
    {list assigned assigned' : List String} (distinct : assigned.Nodup) :
    assignNodes nodes unitKey assigned list = .ok assigned' ↔
      (∀ key ∈ list, ∃ node, nodes.get key = some node ∧ node.unitKey = unitKey) ∧
        (list.reverse ++ assigned).Nodup ∧ list.reverse ++ assigned = assigned' := by
  induction list generalizing assigned with
  | nil => simp [assignNodes, distinct]
  | cons key rest ih =>
    have shape : (key :: rest).reverse ++ assigned = rest.reverse ++ key :: assigned := by simp
    rw [assignNodes, shape, List.forall_mem_cons]
    cases stored : nodes.get key with
    | none => simp
    | some node =>
      dsimp only
      split
      · next wrong =>
        refine iff_of_false nofun fun ⟨⟨⟨_, is, own⟩, _⟩, once, _⟩ => ?_
        cases is
        exact wrong.elim (· own) (List.nodup_cons.mp once.of_append_right).1
      · next valid =>
        rw [not_or, not_not] at valid
        rw [ih (List.nodup_cons.mpr ⟨valid.2, distinct⟩)]
        simp [valid.1]

theorem validateUnits_ok_iff {assigned assigned' : List String} (distinct : assigned.Nodup) :
    validateUnits nodes units assigned list = .ok assigned' ↔
      (∀ unit ∈ list, (∀ key ∈ unit.nodeKeys, ∃ node, nodes.get key = some node ∧
          node.unitKey = unit.unitKey) ∧
        ∀ dependency ∈ unit.dependsOn, (units.get dependency).isSome ∧ dependency ≠ unit.unitKey) ∧
      ((list.flatMap (·.nodeKeys)).reverse ++ assigned).Nodup ∧
      (list.flatMap (·.nodeKeys)).reverse ++ assigned = assigned' := by
  induction list generalizing assigned with
  | nil => simp [validateUnits, distinct]
  | cons unit rest ih =>
    have shape : ((unit :: rest).flatMap (·.nodeKeys)).reverse ++ assigned =
        (rest.flatMap (·.nodeKeys)).reverse ++ (unit.nodeKeys.reverse ++ assigned) := by simp
    have assigns {mid : List String} := @assignNodes_ok_iff nodes unit.unitKey unit.nodeKeys assigned mid
      distinct
    rw [validateUnits, shape, List.forall_mem_cons]
    cases run : assignNodes nodes unit.unitKey assigned unit.nodeKeys with
    | error err =>
      refine iff_of_false nofun fun ⟨⟨⟨own, _⟩, _⟩, once, _⟩ => ?_
      cases run.symm.trans (assigns.mpr ⟨own, once.of_append_right, rfl⟩)
    | ok mid =>
      obtain ⟨own, once, rfl⟩ := assigns.mp run
      dsimp only
      split
      · next wrong =>
        refine iff_of_false nofun fun ⟨⟨⟨_, known⟩, _⟩, _⟩ => ?_
        obtain ⟨dependency, mem, is⟩ := List.any_eq_true.mp wrong
        have := known dependency mem
        simp_all
      · next valid =>
        have known (dependency : String) (mem : dependency ∈ unit.dependsOn) :
            (units.get dependency).isSome ∧ dependency ≠ unit.unitKey := by
          have := mt (fun is => List.any_eq_true.mpr ⟨dependency, mem, is⟩) valid
          simpa [Option.isSome_iff_ne_none] using this
        rw [ih once]
        exact and_congr_left fun _ => (and_iff_right ⟨own, known⟩).symm

theorem validateOutlineCandidate_ok_iff {candidate : OutlineCandidate} :
    validateOutlineCandidate candidate = .ok () ↔
      (candidate.schemaVersion = "outline-candidate.v1" ∧ trimSpace candidate.title ≠ "" ∧
        trimSpace candidate.requirementSize ≠ "" ∧ candidate.nodes ≠ [] ∧ candidate.units ≠ [] ∧
        candidate.units.length ≤ 15) ∧
      ∃ units nodes assigned visited, indexUnits ∅ candidate.units = .ok units ∧
        indexNodes ∅ candidate.nodes = .ok nodes ∧ validateNodes nodes units candidate.nodes = .ok () ∧
        validateUnits nodes units [] candidate.units = .ok assigned ∧
        assigned.length = nodes.keys.length ∧
        Topological.visitAll (unitDependencies units) (candidate.units.length + 1)
          (candidate.units.map (·.unitKey)) = some visited := by
  unfold validateOutlineCandidate
  split
  · next bad =>
    refine iff_of_false nofun fun ⟨good, _⟩ => ?_
    simp_all
    omega
  next good =>
  simp only [not_or, not_not, not_lt] at good
  rw [and_iff_right good]
  cases indexUnits ∅ candidate.units with
  | error err => simp
  | ok units =>
    cases indexNodes ∅ candidate.nodes with
    | error err => simp
    | ok nodes =>
      cases passed : validateNodes nodes units candidate.nodes with
      | error err => simp [passed]
      | ok done =>
        cases run : validateUnits nodes units [] candidate.units with
        | error err => simp [passed, run]
        | ok assigned =>
          by_cases full : assigned.length = nodes.keys.length
          · cases visited : Topological.visitAll (unitDependencies units) (candidate.units.length + 1)
              (candidate.units.map (·.unitKey)) <;> simp [passed, run, visited, full]
          · simp [passed, run, full]

/-! ## What the indexed nodes and units are -/

section

variable {list : List OutlineNode} {unitList : List OutlineUnit} {nodes : GoMap OutlineNode}
  {units : GoMap OutlineUnit}

section

variable (found : ∀ {key node}, nodes.get key = some node ↔ node ∈ list ∧ node.nodeKey = key)

include found

theorem parentChainValid_iff
    {remaining : Nat} {seen : List String} {node : OutlineNode} (mem : node ∈ list) :
    parentChainValid nodes remaining seen node.parentKey = true ↔
      ∀ parent, ParentOf list node.nodeKey parent → parent ∉ seen ∧ ∃ fewer, remaining = fewer + 1 ∧
        ∃ above ∈ list, above.nodeKey = parent ∧
          parentChainValid nodes fewer (parent :: seen) above.parentKey = true := by
  have is {parent : String} : ParentOf list node.nodeKey parent ↔
      node.parentKey = parent ∧ parent ≠ "" := by
    refine ⟨fun ⟨other, there, same, is⟩ => ?_, fun is => ⟨node, mem, rfl, is⟩⟩
    cases (found.mpr ⟨there, same⟩).symm.trans (found.mpr ⟨mem, rfl⟩)
    exact is
  simp only [← and_assoc, ← found]
  cases remaining with
  | zero => simp [parentChainValid, is]
  | succ fewer =>
    rw [parentChainValid]
    split
    · next root => simp [is, root]
    · next below => cases stored : nodes.get node.parentKey <;> simp [is, below, stored]

theorem nested_iff :
    (∀ node ∈ list, parentChainValid nodes 2 [node.nodeKey] node.parentKey = true) ↔
      NodesNested list := by
  constructor
  · intro valid
    have first {child parent : String} (is : ParentOf list child parent) : ∃ above ∈ list,
        above.nodeKey = parent ∧ parentChainValid nodes 1 [parent, child] above.parentKey = true := by
      obtain ⟨node, mem, rfl, -⟩ := id is
      obtain ⟨-, _, two, above⟩ := (parentChainValid_iff found mem).mp (valid node mem) parent is
      cases two
      exact above
    have depth (a b c d : String) (ab : ParentOf list a b) (bc : ParentOf list b c) :
        ¬ ParentOf list c d := by
      obtain ⟨node, mem, rfl, chain⟩ := first ab
      obtain ⟨-, _, one, above, mem, rfl, chain⟩ := (parentChainValid_iff found mem).mp chain c bc
      cases one
      intro cd
      obtain ⟨-, _, zero, -⟩ := (parentChainValid_iff found mem).mp chain d cd
      cases zero
    refine ⟨fun child parent is => ?_, fun key cycle => ?_, depth⟩
    · obtain ⟨above, mem, same, -⟩ := first is
      exact ⟨above, mem, same⟩
    · -- a cycle can be followed for as long as one likes
      have turn {key : String} (cycle : Relation.TransGen (ParentOf list) key key) :
          ∃ above, ParentOf list key above ∧ Relation.TransGen (ParentOf list) above above := by
        obtain ⟨above, first, back⟩ := Relation.TransGen.head'_iff.mp cycle
        exact ⟨above, first, .tail' back first⟩
      obtain ⟨b, ab, cycle⟩ := turn cycle
      obtain ⟨c, bc, cycle⟩ := turn cycle
      obtain ⟨d, cd, -⟩ := turn cycle
      exact depth key b c d ab bc cd
  · intro nested node mem
    refine (parentChainValid_iff found mem).mpr fun b ab => ⟨fun loop => ?_, 1, rfl, ?_⟩
    · exact nested.acyclic b (.single (List.mem_singleton.mp loop ▸ ab))
    obtain ⟨above, mem, rfl⟩ := nested.parents _ b ab
    refine ⟨above, mem, rfl, (parentChainValid_iff found mem).mpr fun c bc => ⟨fun loop => ?_, 0, rfl, ?_⟩⟩
    · rcases List.mem_cons.mp loop with rfl | loop
      · exact nested.acyclic _ (.single bc)
      · exact nested.acyclic _ (.tail (.single bc) (List.mem_singleton.mp loop ▸ ab))
    obtain ⟨top, mem, rfl⟩ := nested.parents _ c bc
    exact ⟨top, mem, rfl, (parentChainValid_iff found mem).mpr fun d cd =>
      (nested.depth _ _ _ d ab bc cd).elim⟩

theorem listed_iff :
    (∀ unit ∈ unitList, ∀ key ∈ unit.nodeKeys, ∃ node, nodes.get key = some node ∧
      node.unitKey = unit.unitKey) ∧ (unitList.flatMap (·.nodeKeys)).Nodup ∧
    (unitList.flatMap (·.nodeKeys)).length = nodes.keys.length ↔ NodesListed list unitList := by
  have isNode {key : String} : key ∈ nodes.keys ↔ ∃ node ∈ list, node.nodeKey = key := by
    simp only [mem_keys, found]
  simp only [found, and_assoc]
  constructor
  · rintro ⟨own, once, full⟩
    have within : unitList.flatMap (·.nodeKeys) ⊆ nodes.keys := fun key mem => by
      obtain ⟨unit, there, lists⟩ := List.mem_flatMap.mp mem
      obtain ⟨node, mem, is, -⟩ := own unit there key lists
      exact isNode.mpr ⟨node, mem, is⟩
    have perm := (List.subperm_of_subset once within).perm_of_length_le full.ge
    exact ⟨own, once, fun node mem =>
      List.mem_flatMap.mp (perm.mem_iff.mpr (isNode.mpr ⟨node, mem, rfl⟩))⟩
  · rintro ⟨own, once, all⟩
    refine ⟨own, once, ((List.perm_ext_iff_of_nodup once (keys_nodup _)).mpr fun key => ?_).length_eq⟩
    rw [List.mem_flatMap, isNode]
    constructor
    · rintro ⟨unit, mem, lists⟩
      obtain ⟨node, mem, is, -⟩ := own unit mem key lists
      exact ⟨node, mem, is⟩
    · rintro ⟨node, mem, rfl⟩
      exact all node mem

end

theorem mem_unitDependencies
    (found : ∀ {key unit}, units.get key = some unit ↔ unit ∈ unitList ∧ unit.unitKey = key)
    (key dependency : String) :
    dependency ∈ unitDependencies units key ↔ DependsOn unitList key dependency := by
  unfold unitDependencies DependsOn
  simp only [← and_assoc, ← found]
  cases units.get key <;> simp

/-- The search for a cycle gives the same result in every order of the units, and does not run out of
fuel. -/
theorem searched_iff {deps : String → List String}
    (is : ∀ key dependency, dependency ∈ deps key ↔ DependsOn unitList key dependency)
    (known : ∀ unit ∈ unitList, ∀ dependency ∈ unit.dependsOn,
      ∃ other ∈ unitList, other.unitKey = dependency) {keys : List String} {fuel : Nat}
    (same : ∀ key, key ∈ keys ↔ ∃ unit ∈ unitList, unit.unitKey = key)
    (enough : unitList.length < fuel) :
    (∃ visited, Topological.visitAll deps fuel keys = some visited) ↔
      ∀ key, ¬ Relation.TransGen (DependsOn unitList) key key := by
  have depends : Topological.Depends deps = DependsOn unitList :=
    funext fun key => funext fun dependency => propext (is key dependency)
  rw [← depends]
  have same (key : String) : key ∈ keys ↔ key ∈ unitList.map (·.unitKey) := by
    rw [same, List.mem_map]
  refine Topological.visitAll_some_iff (fun key _ dependency needs => ?_) (fun key outside => ?_) same
    (by rwa [List.length_map])
  · obtain ⟨unit, mem, -, needs⟩ := (is key dependency).mp needs
    exact List.mem_map.mpr (known unit mem dependency needs)
  · refine List.eq_nil_iff_forall_not_mem.mpr fun dependency needs => outside ?_
    obtain ⟨unit, mem, rfl, -⟩ := (is key dependency).mp needs
    exact List.mem_map_of_mem mem

end

theorem wellFormed_iff {candidate : OutlineCandidate} :
    validateOutlineCandidate candidate = .ok () ↔ WellFormed candidate := by
  rw [validateOutlineCandidate_ok_iff]
  constructor
  · rintro ⟨⟨version, title, size, sized⟩, units, nodes, assigned, visited, indexed, indexedNodes,
      nodesPass, unitsPass, full, searched⟩
    obtain ⟨unitsValid, unitKeys, rfl⟩ := indexUnits_ok_iff.mp indexed
    obtain ⟨nodesValid, nodeKeys, rfl⟩ := indexNodes_ok_iff.mp indexedNodes
    obtain ⟨each, once, rfl⟩ := (validateUnits_ok_iff .nil).mp unitsPass
    rw [List.append_nil, List.nodup_reverse] at once
    rw [List.append_nil, List.length_reverse] at full
    simp only [Option.isSome_iff_exists, get_addAll_id unitKeys] at each
    exact {
      identity := ⟨version, title, size⟩
      sized
      nodes := nodesValid
      nodeKeys
      units := unitsValid
      unitKeys
      nested := (nested_iff (get_addAll_id nodeKeys)).mp fun node mem =>
        (validateNodes_ok_iff.mp nodesPass node mem).2
      listed := (listed_iff (get_addAll_id nodeKeys)).mp ⟨fun unit mem => (each unit mem).1, once, full⟩
      ordered := ⟨fun unit mem => (each unit mem).2, (searched_iff
        (mem_unitDependencies (get_addAll_id unitKeys))
        (fun unit mem dependency needs => ((each unit mem).2 dependency needs).1)
        (fun _ => List.mem_map) (Nat.lt_succ_self _)).mp ⟨visited, searched⟩⟩ }
  · intro formed
    have foundUnit {key : String} {unit : OutlineUnit} :=
      @get_addAll_id _ _ _ key unit _ _ formed.unitKeys
    obtain ⟨own, once, full⟩ := (listed_iff (get_addAll_id formed.nodeKeys)).mpr formed.listed
    obtain ⟨visited, searched⟩ := (searched_iff (mem_unitDependencies foundUnit)
      (fun unit mem dependency needs => (formed.ordered.known unit mem dependency needs).1)
      (fun _ => List.mem_map) (Nat.lt_succ_self _)).mpr formed.ordered.acyclic
    refine ⟨⟨formed.identity.1, formed.identity.2.1, formed.identity.2.2, formed.sized⟩, _, _, _,
      visited, indexUnits_ok_iff.mpr ⟨formed.units, formed.unitKeys, rfl⟩,
      indexNodes_ok_iff.mpr ⟨formed.nodes, formed.nodeKeys, rfl⟩,
      validateNodes_ok_iff.mpr fun node mem =>
        ⟨?_, (nested_iff (get_addAll_id formed.nodeKeys)).mpr formed.nested node mem⟩,
      (validateUnits_ok_iff .nil).mpr ⟨fun unit mem => ⟨own unit mem, fun dependency needs => ?_⟩,
        by simpa using once, rfl⟩, by simpa using full, searched⟩
    · -- the unit that lists a node is the one the node names
      obtain ⟨unit, there, lists⟩ := formed.listed.all node mem
      obtain ⟨other, mem', same, is⟩ := formed.listed.own unit there _ lists
      cases List.inj_on_of_nodup_map formed.nodeKeys mem' mem same
      exact Option.isSome_iff_exists.mpr ⟨unit, foundUnit.mpr ⟨there, is.symm⟩⟩
    · obtain ⟨⟨known, is⟩, other⟩ := formed.ordered.known unit mem dependency needs
      exact ⟨Option.isSome_iff_exists.mpr ⟨known, foundUnit.mpr is⟩, other⟩

/-- Outlines are accepted exactly if they are well formed. The search for a cycle of dependencies needs no
more fuel than it has, and may follow the units in any order. -/
theorem outline_accepted_iff (candidate : OutlineCandidate) :
    (validateOutlineCandidate candidate = .ok () ↔ WellFormed candidate) ∧
    ∀ units, indexUnits ∅ candidate.units = .ok units →
      (∀ unit ∈ candidate.units, ∀ dependency ∈ unit.dependsOn, (units.get dependency).isSome) →
      ∀ keys fuel, keys.Perm units.keys → candidate.units.length < fuel →
        ((Topological.visitAll (unitDependencies units) fuel keys).isSome ↔
          ∀ key, ¬ Relation.TransGen (DependsOn candidate.units) key key) := by
  refine ⟨wellFormed_iff, fun units indexed known keys fuel perm enough => ?_⟩
  obtain ⟨-, unitKeys, rfl⟩ := indexUnits_ok_iff.mp indexed
  simp only [Option.isSome_iff_exists, get_addAll_id unitKeys] at known ⊢
  refine searched_iff (mem_unitDependencies (get_addAll_id unitKeys)) known (fun key => ?_) enough
  simp only [perm.mem_iff, mem_keys, get_addAll_id unitKeys]

def pairOutline : OutlineCandidate := {
  schemaVersion := "outline-candidate.v1", title := "T", requirementSize := "S"
  nodes := [{
    nodeKey := "n", parentKey := "", ordinal := 0, title := "N", questions := []
    requiredContent := [], unitKey := "a" }, {
    nodeKey := "m", parentKey := "", ordinal := 1, title := "M", questions := []
    requiredContent := [], unitKey := "b" }]
  units := [
    { unitKey := "a", title := "A", ordinal := 0, nodeKeys := ["n"], dependsOn := [] },
    { unitKey := "b", title := "B", ordinal := 1, nodeKeys := ["m"], dependsOn := ["a"] }] }

/-- Outlines that fail one of the other checks: schema version, title, requirement size, the title and
the ordinal of a node, and the key, the title, the ordinal and the nodes of a unit. -/
def refusedOutlines : List OutlineCandidate :=
  let node : OutlineNode := {
    nodeKey := "n", parentKey := "", ordinal := 0, title := "N", questions := []
    requiredContent := [], unitKey := "a" }
  let unit : OutlineUnit := {
    unitKey := "a", title := "A", ordinal := 0, nodeKeys := ["n"], dependsOn := [] }
  let outline := { pairOutline with nodes := [node], units := [unit] }
  [{ outline with schemaVersion := "outline-candidate.v2" }, { outline with title := " " },
    { outline with requirementSize := "" }, { outline with nodes := [{ node with title := "" }] },
    { outline with nodes := [{ node with ordinal := -1 }] },
    { outline with nodes := [{ node with unitKey := "" }], units := [{ unit with unitKey := "" }] },
    { outline with units := [{ unit with title := "" }] },
    { outline with units := [{ unit with ordinal := -1 }] },
    { outline with units := [unit, { unit with unitKey := "b", nodeKeys := [] }] }]

theorem NodesNested.of_flat {nodes : List OutlineNode} (flat : ∀ node ∈ nodes, node.parentKey = "") :
    NodesNested nodes := by
  have none {child parent : String} : ¬ ParentOf nodes child parent := by
    rintro ⟨node, mem, -, rfl, named⟩
    exact named (flat node mem)
  refine ⟨fun _ _ is => (none is).elim, fun key cycle => ?_, fun _ _ _ _ is => (none is).elim⟩
  obtain ⟨_, first, -⟩ := Relation.TransGen.head'_iff.mp cycle
  exact none first

theorem UnitsOrdered.of_flat {units : List OutlineUnit} (flat : ∀ unit ∈ units, unit.dependsOn = []) :
    UnitsOrdered units := by
  refine ⟨fun unit mem dependency needs => ?_, fun key cycle => ?_⟩
  · rw [flat unit mem] at needs
    cases needs
  · obtain ⟨_, ⟨unit, mem, -, needs⟩, -⟩ := Relation.TransGen.head'_iff.mp cycle
    rw [flat unit mem] at needs
    cases needs

/-- Outlines are refused although the keys, the parents, the assignment of nodes, the dependencies and
the sizes are as they should be. -/
theorem other_schema_refused :
    refusedOutlines.map validateOutlineCandidate = (List.replicate 3 "identity or size" ++
      List.replicate 2 "node" ++ List.replicate 4 "unit").map
        (fun part => .error (invalidPayload ("invalid outline " ++ part))) ∧
    ∀ candidate ∈ refusedOutlines,
    (∀ node ∈ candidate.nodes, node.nodeKey ≠ "") ∧ (candidate.nodes.map (·.nodeKey)).Nodup ∧
    NodesNested candidate.nodes ∧ NodesListed candidate.nodes candidate.units ∧
    (candidate.units.map (·.unitKey)).Nodup ∧ UnitsOrdered candidate.units ∧
    (candidate.nodes ≠ [] ∧ candidate.units ≠ [] ∧ candidate.units.length ≤ 15) := by
  have checked : ∀ candidate ∈ refusedOutlines,
      ((∀ node ∈ candidate.nodes, node.nodeKey ≠ "") ∧ (candidate.nodes.map (·.nodeKey)).Nodup) ∧
      ((∀ unit ∈ candidate.units, ∀ key ∈ unit.nodeKeys,
          ∃ node ∈ candidate.nodes, node.nodeKey = key ∧ node.unitKey = unit.unitKey) ∧
        (candidate.units.flatMap (·.nodeKeys)).Nodup ∧
        ∀ node ∈ candidate.nodes, ∃ unit ∈ candidate.units, node.nodeKey ∈ unit.nodeKeys) ∧
      (candidate.units.map (·.unitKey)).Nodup ∧
      (candidate.nodes ≠ [] ∧ candidate.units ≠ [] ∧ candidate.units.length ≤ 15) ∧
      (∀ node ∈ candidate.nodes, node.parentKey = "") ∧
      ∀ unit ∈ candidate.units, unit.dependsOn = [] := by
    decide +kernel
  refine ⟨by decide +kernel, fun candidate mem => ?_⟩
  obtain ⟨⟨named, apart⟩, ⟨own, once, all⟩, unitKeys, sized, rooted, free⟩ := checked candidate mem
  exact ⟨named, apart, .of_flat rooted, ⟨own, once, all⟩, unitKeys, .of_flat free, sized⟩

/-! ## The order of confirmation -/

/-- A unit of an outline some of whose units are confirmed. -/
def OutlineUnit.planned (done : List String) (unit : OutlineUnit) : PlannedConfirmationUnit where
  unitKey := unit.unitKey
  ordinal := unit.ordinal
  dependsOn := unit.dependsOn
  confirmationStatus := if unit.unitKey ∈ done then .confirmed else .pending

/-- Confirm the next unit until there is none; `arrange` is the order the units are listed in. -/
def confirmInTurn (arrange : List String → List OutlineUnit) : Nat → List String → Option (List String)
  | 0, _ => none
  | fuel + 1, done =>
    match nextDependencyReadyUnit ((arrange done).map (·.planned done)) with
    | .error _ => none
    | .ok none => some done
    | .ok (some unit) => confirmInTurn arrange fuel (unit.unitKey :: done)

def OutlineUnit.Ready (done : List String) (unit : OutlineUnit) : Prop :=
  unit.unitKey ∉ done ∧ ∀ dependency ∈ unit.dependsOn, dependency ∈ done

/-- The least ready unit by ordinal and key. -/
def LeastReady (units : List OutlineUnit) (done : List String) (unit : OutlineUnit) : Prop :=
  unit.Ready done ∧ ∀ other ∈ units, other.Ready done →
    toLex (unit.ordinal, unit.unitKey) ≤ toLex (other.ordinal, other.unitKey)

/-- Each key, later ones first, is that of the unit which was the least ready one. -/
def InTurn (units : List OutlineUnit) : List String → Prop
  | [] => True
  | key :: done => (∃ unit ∈ units, unit.unitKey = key ∧ LeastReady units done unit) ∧ InTurn units done

theorem plannedBefore_iff {left right : PlannedConfirmationUnit} : plannedBefore left right = true ↔
    toLex (left.ordinal, left.unitKey) ≤ toLex (right.ordinal, right.unitKey) := by
  unfold plannedBefore
  rw [Prod.Lex.toLex_le_toLex]
  split
  · next same => simp [same]
  · next other => simp [other, le_iff_lt_or_eq]

theorem head?_plannedBefore {ready : List PlannedConfirmationUnit} {first : PlannedConfirmationUnit}
    (head : (ready.insertionSort fun left right => plannedBefore left right).head? = some first) :
    first ∈ ready ∧ ∀ other ∈ ready, plannedBefore first other = true := by
  have sorted := SortedBy.pairwise _ @plannedBefore_iff ready
  obtain ⟨rest, is⟩ := List.head?_eq_some_iff.mp head
  rw [is] at sorted
  have among {other : PlannedConfirmationUnit} : other ∈ ready ↔ other ∈ first :: rest := by
    rw [← is, List.mem_insertionSort]
  refine ⟨among.mpr (.head _), fun other listed => ?_⟩
  rcases List.mem_cons.mp (among.mp listed) with rfl | later
  · exact plannedBefore_iff.mpr (le_refl _)
  · exact (List.pairwise_cons.mp sorted).1 other later

theorem readyUnits_planned {status : GoMap UnitStatus} {done : List String}
    (known : ∀ unit ∈ list, ∀ dependency ∈ unit.dependsOn,
      status.get dependency = some (if dependency ∈ done then .confirmed else .pending)) :
    ∃ ready, readyUnits status (list.map (·.planned done)) = .ok ready ∧
      ∀ found, found ∈ ready ↔ ∃ unit ∈ list, unit.Ready done ∧ unit.planned done = found := by
  induction list with
  | nil => exact ⟨[], rfl, by simp⟩
  | cons unit rest ih =>
    obtain ⟨known, others⟩ := List.forall_mem_cons.mp known
    obtain ⟨ready, run, among⟩ := ih others
    simp only [List.map_cons, List.exists_mem_cons_iff, ← among]
    unfold readyUnits
    by_cases confirmed : unit.unitKey ∈ done
    · rw [if_pos (by simp [OutlineUnit.planned, confirmed])]
      exact ⟨ready, run, fun _ => by simp [OutlineUnit.Ready, confirmed]⟩
    rw [if_neg (by simp [OutlineUnit.planned, confirmed]), if_neg (by
      simp +contextual [OutlineUnit.planned, known]), run]
    dsimp only
    have needed : ((unit.planned done).dependsOn.all fun dependency =>
        status.get dependency == some .confirmed) = true ↔ ∀ dependency ∈ unit.dependsOn,
          dependency ∈ done := by
      refine List.all_eq_true.trans (forall₂_congr fun dependency mem => ?_)
      rw [known dependency mem]
      split <;> simp_all
    split
    · next all =>
      refine ⟨_, rfl, fun found => List.mem_cons.trans (or_congr_left ?_)⟩
      exact ⟨fun is => ⟨⟨confirmed, needed.mp all⟩, is.symm⟩, fun ⟨_, is⟩ => is.symm⟩
    · next missing =>
      refine ⟨ready, rfl, fun found => (or_iff_right ?_).symm⟩
      exact fun ⟨is, _⟩ => missing (needed.mpr is.2)

theorem InTurn.nodup {units : List OutlineUnit} {done : List String} (turn : InTurn units done) :
    done.Nodup ∧ done ⊆ units.map (·.unitKey) := by
  induction done with
  | nil => exact ⟨.nil, List.nil_subset _⟩
  | cons key done ih =>
    obtain ⟨⟨unit, mem, rfl, ready, -⟩, earlier⟩ := turn
    obtain ⟨distinct, among⟩ := ih earlier
    exact ⟨List.nodup_cons.mpr ⟨ready.1, distinct⟩,
      List.cons_subset.mpr ⟨List.mem_map_of_mem mem, among⟩⟩

section

variable {candidate : OutlineCandidate} (accepted : validateOutlineCandidate candidate = .ok ())
  {list : List OutlineUnit} {done : List String}

include accepted

/-- The next unit is the least ready one, and there is one as long as not all are confirmed. -/
theorem nextDependencyReadyUnit_planned (perm : list.Perm candidate.units) :
    ∃ next, nextDependencyReadyUnit (list.map (·.planned done)) = .ok next ∧
      (next = none → ∀ unit ∈ candidate.units, unit.unitKey ∈ done) ∧
      ∀ found, next = some found → ∃ unit ∈ candidate.units, unit.planned done = found ∧
        LeastReady candidate.units done unit := by
  obtain ⟨-, _, _, _, visited, indexed, -, -, -, -, searched⟩ :=
    validateOutlineCandidate_ok_iff.mp accepted
  obtain ⟨valid, unitKeys, rfl⟩ := indexUnits_ok_iff.mp indexed
  obtain ⟨ordered, all⟩ := Topological.visitAll_ordered searched
  have known := (wellFormed_iff.mp accepted).ordered.known
  have distinct : ((list.map (·.planned done)).map (·.unitKey)).Nodup := by
    rw [List.map_map]
    exact (perm.map _).nodup_iff.mpr unitKeys
  obtain ⟨status, is⟩ : ∃ status, addAll (·.unitKey) (·.confirmationStatus)
      (list.map (·.planned done)) ∅ = status := ⟨_, rfl⟩
  have statuses : plannedStatuses ∅ (list.map (·.planned done)) = .ok status := by
    rw [index_ok_iff (fun _ => rfl) (fun _ _ _ => rfl)]
    have named : ∀ unit ∈ list.map (·.planned done), unit.unitKey ≠ "" :=
      List.forall_mem_map.mpr fun unit mem => (valid unit (perm.mem_iff.mp mem)).1
    simpa using And.intro named (And.intro distinct is)
  obtain ⟨ready, run, among⟩ := @readyUnits_planned list status done fun unit mem dependency needs => by
    obtain ⟨⟨other, there, rfl⟩, -⟩ := known unit (perm.mem_iff.mp mem) dependency needs
    rw [← is]
    exact get_addAll_of_mem distinct (List.mem_map_of_mem (perm.mem_iff.mpr there))
  unfold nextDependencyReadyUnit
  rw [statuses]
  dsimp only
  rw [run]
  refine ⟨_, rfl, fun none unit mem => by_contra fun missing => ?_, fun found head => ?_⟩
  · -- of the units that are not confirmed, one depends on none of the others
    obtain ⟨_, -, ⟨first, there, rfl, open_⟩, others⟩ := ordered.exists_first
      (P := fun key => ∃ unit ∈ candidate.units, unit.unitKey = key ∧ key ∉ done)
      ⟨_, all _ (List.mem_map_of_mem mem), unit, mem, rfl, missing⟩
    have ready : first.Ready done := ⟨open_, fun dependency needs => by_contra fun missing => by
      obtain ⟨⟨other, mem, is⟩, -⟩ := known first there dependency needs
      exact others dependency ((mem_unitDependencies (get_addAll_id unitKeys) _ _).mpr
        ⟨first, there, rfl, needs⟩) ⟨other, mem, is, missing⟩⟩
    have listed := (among _).mpr ⟨first, perm.mem_iff.mpr there, ready, rfl⟩
    rw [← List.mem_insertionSort fun left right => plannedBefore left right = true,
      List.head?_eq_none_iff.mp none] at listed
    cases listed
  · obtain ⟨mem, least⟩ := head?_plannedBefore head
    obtain ⟨unit, there, is, rfl⟩ := (among found).mp mem
    refine ⟨unit, perm.mem_iff.mp there, rfl, is, fun other mem ready => ?_⟩
    exact plannedBefore_iff.mp (least _ ((among _).mpr ⟨other, perm.mem_iff.mpr mem, ready, rfl⟩))

/-- Confirming the next unit again and again takes the units of an accepted outline one after the other,
each after its dependencies and as the least of those that are ready, and ends when all are confirmed, in
whatever order they are listed at each step. -/
theorem units_confirmed_in_turn {arrange : List String → List OutlineUnit}
    (perm : ∀ done, (arrange done).Perm candidate.units) :
    ∃ order, confirmInTurn arrange (candidate.units.length + 1) [] = some order ∧
      order.Perm (candidate.units.map (·.unitKey)) ∧ InTurn candidate.units order := by
  have unitKeys := (wellFormed_iff.mp accepted).unitKeys
  have run {fuel : Nat} {done : List String} (turn : InTurn candidate.units done)
      (enough : candidate.units.length < fuel + done.length) :
      ∃ order, confirmInTurn arrange fuel done = some order ∧
        order.Perm (candidate.units.map (·.unitKey)) ∧ InTurn candidate.units order := by
    induction fuel generalizing done with
    | zero =>
      have few := (List.subperm_of_subset turn.nodup.1 turn.nodup.2).length_le
      rw [List.length_map] at few
      omega
    | succ fuel ih =>
      obtain ⟨next, found, none, some⟩ := nextDependencyReadyUnit_planned accepted (perm done)
      unfold confirmInTurn
      rw [found]
      cases next with
      | none =>
        refine ⟨done, rfl, (List.perm_ext_iff_of_nodup turn.nodup.1 unitKeys).mpr fun key => ?_, turn⟩
        exact ⟨fun mem => turn.nodup.2 mem, List.forall_mem_map.mpr (none rfl) key⟩
      | some unit =>
        obtain ⟨unit, mem, rfl, least⟩ := some _ rfl
        exact ih ⟨⟨unit, mem, rfl, least⟩, turn⟩ (by rw [List.length_cons]; omega)
  exact run trivial (by simp)

end

theorem units_confirmed_in_turn_pair : ∃ order,
    confirmInTurn (fun _ => pairOutline.units.reverse) (pairOutline.units.length + 1) [] = some order ∧
      order.Perm (pairOutline.units.map (·.unitKey)) ∧ InTurn pairOutline.units order :=
  units_confirmed_in_turn (by decide +kernel) fun _ => List.reverse_perm _

end PrdAgent.Runcontrol
