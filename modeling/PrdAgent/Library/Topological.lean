import Mathlib.Data.List.Perm.Subperm
import Mathlib.Logic.Relation

/-!
# Depth-first dependency order

`visit` is the usual recursive depth-first search over a dependency relation, with the keys on the
current path in `visiting` and the finished keys in `visited`; it fails when it meets a key of the
current path. The finished keys are kept latest first, so a successful search leaves a list in which
the dependencies of a key stand behind it (`Ordered`).
-/

namespace Topological

variable {κ : Type} [DecidableEq κ]

/-- Visit one key; `none` is a cycle, or not enough fuel. -/
def visit (deps : κ → List κ) : Nat → List κ → List κ → κ → Option (List κ)
  | 0, _, _, _ => none
  | fuel + 1, visiting, visited, key =>
    if key ∈ visiting then none
    else if key ∈ visited then some visited
    else ((deps key).foldlM (fun done dep => visit deps fuel (key :: visiting) done dep)
      visited).map (key :: ·)

def visitAll (deps : κ → List κ) (fuel : Nat) (keys : List κ) : Option (List κ) :=
  keys.foldlM (fun done key => visit deps fuel [] done key) []

/-- Every key stands before all that it depends on. -/
def Ordered (deps : κ → List κ) : List κ → Prop
  | [] => True
  | key :: rest => (∀ dep ∈ deps key, dep ∈ rest) ∧ Ordered deps rest

/-- What a step of the search may do to the finished keys. -/
private def Extends (deps : κ → List κ) (visited : List κ) (key : κ) (visited' : List κ) : Prop :=
  (Ordered deps visited → Ordered deps visited') ∧ (∀ k ∈ visited, k ∈ visited') ∧ key ∈ visited'

omit [DecidableEq κ] in
private theorem foldlM_extends {deps : κ → List κ} {step : List κ → κ → Option (List κ)}
    (one : ∀ visited key visited', step visited key = some visited' →
      Extends deps visited key visited') :
    ∀ (keys : List κ) (visited visited' : List κ), keys.foldlM step visited = some visited' →
      (Ordered deps visited → Ordered deps visited') ∧ (∀ k ∈ visited, k ∈ visited') ∧
        ∀ k ∈ keys, k ∈ visited' := by
  intro keys
  induction keys with
  | nil =>
    intro visited visited' run
    obtain rfl : visited = visited' := by simpa using run
    exact ⟨id, fun _ mem => mem, by simp⟩
  | cons key keys ih =>
    intro visited visited' run
    rw [List.foldlM_cons] at run
    obtain ⟨mid, first, rest⟩ := Option.bind_eq_some_iff.mp run
    rcases one _ _ _ first with ⟨orderedMid, keptMid, keyMid⟩
    rcases ih _ _ rest with ⟨ordered, kept, all⟩
    refine ⟨fun start => ordered (orderedMid start), fun k mem => kept k (keptMid k mem), ?_⟩
    intro k mem
    rcases List.mem_cons.mp mem with rfl | mem
    · exact kept k keyMid
    · exact all k mem

private theorem visit_extends {deps : κ → List κ} :
    ∀ (fuel : Nat) (visiting visited : List κ) (key : κ) (visited' : List κ),
      visit deps fuel visiting visited key = some visited' →
        Extends deps visited key visited' := by
  intro fuel
  induction fuel with
  | zero =>
    intro visiting visited key visited' run
    simp [visit] at run
  | succ fuel ih =>
    intro visiting visited key visited' run
    rw [visit] at run
    split at run
    · cases run
    · split at run
      · obtain rfl : visited = visited' := by simpa using run
        exact ⟨id, fun _ mem => mem, ‹_›⟩
      · obtain ⟨done, inner, rfl⟩ := Option.map_eq_some_iff.mp run
        rcases foldlM_extends (fun v k v' => ih (key :: visiting) v k v') _ _ _ inner with
          ⟨ordered, kept, all⟩
        refine ⟨fun start => ⟨all, ordered start⟩, ?_, .head _⟩
        intro k mem
        exact .tail _ (kept k mem)

/-- A successful search gives an ordered list that holds every key it was asked for. -/
theorem visitAll_ordered {deps : κ → List κ} {fuel : Nat} {keys visited : List κ}
    (run : visitAll deps fuel keys = some visited) :
    Ordered deps visited ∧ ∀ key ∈ keys, key ∈ visited := by
  rcases foldlM_extends (fun v k v' => visit_extends fuel [] v k v') _ _ _ run with
    ⟨ordered, -, all⟩
  exact ⟨ordered trivial, all⟩

/-! ## Cycles -/

/-- A key depends on another one. -/
def Depends (deps : κ → List κ) (key dep : κ) : Prop := dep ∈ deps key

/-- No key depends on itself, be it through others. -/
def Acyclic (deps : κ → List κ) : Prop := ∀ key, ¬ Relation.TransGen (Depends deps) key key

section

variable {deps : κ → List κ} {order all keys : List κ} {key dep : κ} {fuel : Nat}

omit [DecidableEq κ] in
theorem Ordered.closed (ordered : Ordered deps order) (mem : key ∈ order) (needs : dep ∈ deps key) :
    dep ∈ order := by
  induction order with
  | nil => cases mem
  | cons head rest ih =>
    rcases List.mem_cons.mp mem with rfl | later
    · exact .tail _ (ordered.1 dep needs)
    · exact .tail _ (ih ordered.2 later)

omit [DecidableEq κ] in
theorem Ordered.acyclic (ordered : Ordered deps order) (mem : key ∈ order) :
    ¬ Relation.TransGen (Depends deps) key key := by
  induction order with
  | nil => cases mem
  | cons head rest ih =>
    intro cycle
    by_cases later : key ∈ rest
    · exact ih ordered.2 later cycle
    obtain rfl : key = head := (List.mem_cons.mp mem).resolve_right later
    obtain ⟨dep, needs, back⟩ := Relation.TransGen.head'_iff.mp cycle
    -- what the key depends on stands behind it, and so does what that depends on
    have behind {other : κ} (path : Relation.ReflTransGen (Depends deps) dep other) :
        other ∈ rest := by
      induction path with
      | refl => exact ordered.1 dep needs
      | tail _ needs there => exact ordered.2.closed there needs
    exact later (behind back)

omit [DecidableEq κ] in
/-- Of the keys of an ordered list that have a property, one depends on none of the others. -/
theorem Ordered.exists_first {P : κ → Prop} (ordered : Ordered deps order)
    (some : ∃ key ∈ order, P key) : ∃ key ∈ order, P key ∧ ∀ dep ∈ deps key, ¬ P dep := by
  induction order with
  | nil => simp at some
  | cons head rest ih =>
    by_cases later : ∃ key ∈ rest, P key
    · obtain ⟨key, mem, first⟩ := ih ordered.2 later
      exact ⟨key, .tail _ mem, first⟩
    · obtain ⟨key, mem, is⟩ := some
      obtain rfl := (List.mem_cons.mp mem).resolve_right fun mem => later ⟨key, mem, is⟩
      exact ⟨key, .head _, is, fun dep needs holds => later ⟨dep, ordered.1 dep needs, holds⟩⟩

omit [DecidableEq κ] in
private theorem foldlM_some {step : List κ → κ → Option (List κ)} {list : List κ}
    (each : ∀ key ∈ list, ∀ done, ∃ done', step done key = some done') (done : List κ) :
    ∃ done', list.foldlM step done = some done' := by
  induction list generalizing done with
  | nil => exact ⟨done, rfl⟩
  | cons key rest ih =>
    obtain ⟨mid, first⟩ := each key (.head _) done
    obtain ⟨done', others⟩ := ih (fun key mem => each key (.tail _ mem)) mid
    exact ⟨done', by rw [List.foldlM_cons, first]; exact others⟩

/-- Without cycles the path of the search has no key twice, so that the fuel suffices. -/
private theorem visit_of_acyclic (acyclic : Acyclic deps) (closed : ∀ key ∈ all, deps key ⊆ all)
    {visiting visited : List κ} (here : key ∈ all) (within : visiting ⊆ all)
    (distinct : visiting.Nodup)
    (path : ∀ other ∈ visiting, Relation.TransGen (Depends deps) other key)
    (enough : all.length < fuel + visiting.length) :
    ∃ visited', visit deps fuel visiting visited key = some visited' := by
  induction fuel generalizing visiting visited key with
  | zero =>
    have := (List.subperm_of_subset distinct within).length_le
    omega
  | succ fuel ih =>
    have free : key ∉ visiting := fun on => acyclic key (path key on)
    have each (dep : κ) (needs : dep ∈ deps key) (done : List κ) :
        ∃ done', visit deps fuel (key :: visiting) done dep = some done' := by
      refine ih (closed key here needs) (List.cons_subset.mpr ⟨here, within⟩)
        (List.nodup_cons.mpr ⟨free, distinct⟩) (fun other on => ?_) ?_
      · rcases List.mem_cons.mp on with rfl | on
        · exact .single needs
        · exact (path other on).tail needs
      · rw [List.length_cons]
        omega
    unfold visit
    rw [if_neg free]
    split
    · exact ⟨visited, rfl⟩
    · obtain ⟨done', run⟩ := foldlM_some each visited
      exact ⟨key :: done', by rw [run]; rfl⟩

/-- The search over all keys succeeds exactly if there is no cycle, in any order and with any fuel that
is more than the number of keys. -/
theorem visitAll_some_iff (closed : ∀ key ∈ all, deps key ⊆ all)
    (outside : ∀ key, key ∉ all → deps key = []) (same : ∀ key, key ∈ keys ↔ key ∈ all)
    (enough : all.length < fuel) :
    (∃ visited, visitAll deps fuel keys = some visited) ↔ Acyclic deps := by
  constructor
  · rintro ⟨visited, run⟩ key cycle
    obtain ⟨ordered, held⟩ := visitAll_ordered run
    by_cases here : key ∈ all
    · exact ordered.acyclic (held key ((same key).mpr here)) cycle
    · obtain ⟨dep, needs, -⟩ := Relation.TransGen.head'_iff.mp cycle
      rw [Depends, outside key here] at needs
      cases needs
  · intro acyclic
    exact foldlM_some (fun key mem _ => visit_of_acyclic acyclic closed ((same key).mp mem)
      (List.nil_subset _) .nil nofun enough) []

end

end Topological
