import Mathlib.Data.List.AList
import Mathlib.Data.List.Dedup
import Mathlib.Algebra.Order.BigOperators.Group.List
import Mathlib.Algebra.Order.Group.Int
import Mathlib.Algebra.Order.Group.Nat
import Mathlib.Tactic.Abel

/-!
# Finite association maps

A finite map with executable lookup, update, deletion and iteration, over Mathlib's `AList`.

* `get_set`, `get_del` and their `_self`/`_ne` forms determine the map after an update;
* `mem_values`, `mem_range` read iteration back as lookup, for any iteration order;
* `From` and `Into` say that the values of one map come from, or went on to, values of another, and
  `Moves` that they were replaced one after the other;
* `total_set` says how a sum over all entries moves when one entry is written.
-/

/-- A finite map from `κ` to `α`. -/
def AssocMap (κ α : Type) : Type := AList fun _ : κ => α

namespace AssocMap

variable {κ α β : Type} [DecidableEq κ]

instance : EmptyCollection (AssocMap κ α) := ⟨(∅ : AList fun _ : κ => α)⟩

instance : Inhabited (AssocMap κ α) := ⟨∅⟩

/-- The value stored under a key. -/
def get (m : AssocMap κ α) (k : κ) : Option α := AList.lookup k m

/-- Store a value under a key, replacing what was there. -/
def set (m : AssocMap κ α) (k : κ) (v : α) : AssocMap κ α := AList.insert k v m

def del (m : AssocMap κ α) (k : κ) : AssocMap κ α := AList.erase k m

/-- The keys, without repetition. -/
def keys (m : AssocMap κ α) : List κ := AList.keys m

/-- The stored values, one for each key. -/
def values (m : AssocMap κ α) : List α := m.entries.map Sigma.snd

/-- The stored pairs, visited in the order `order` puts the keys in. -/
def range (m : AssocMap κ α) (order : List κ → List κ) : List (κ × α) :=
  (order m.keys).filterMap fun k => (m.get k).map (k, ·)

/-! ## Lookup after an update -/

@[simp] theorem get_empty (k : κ) : (∅ : AssocMap κ α).get k = none :=
  AList.lookup_empty k

@[simp] theorem get_set_self (m : AssocMap κ α) (k : κ) (v : α) :
    (m.set k v).get k = some v :=
  AList.lookup_insert m

variable {m : AssocMap κ α} {k k' : κ} {v w : α} {p : α → Bool} {order : List κ → List κ}

theorem get_set_ne (m : AssocMap κ α) (v : α) (ne : k' ≠ k) :
    (m.set k v).get k' = m.get k' :=
  AList.lookup_insert_ne ne

theorem ne_of_get (unused : m.get k = none) (stored : m.get k' = some w) : k' ≠ k :=
  fun same => by cases unused.symm.trans (same ▸ stored)

theorem get_set_of_unused (unused : m.get k = none) (stored : m.get k' = some w) :
    (m.set k v).get k' = some w :=
  (get_set_ne m v (ne_of_get unused stored)).trans stored

theorem get_set (m : AssocMap κ α) (k k' : κ) (v : α) :
    (m.set k v).get k' = if k' = k then some v else m.get k' := by
  by_cases same : k' = k
  · subst same
    simp
  · simp [get_set_ne m v same, same]

@[simp] theorem get_del_self (m : AssocMap κ α) (k : κ) : (m.del k).get k = none :=
  AList.lookup_erase k m

theorem get_del_ne (m : AssocMap κ α) (ne : k' ≠ k) :
    (m.del k).get k' = m.get k' :=
  AList.lookup_erase_ne ne

theorem get_del (m : AssocMap κ α) (k k' : κ) :
    (m.del k).get k' = if k' = k then none else m.get k' := by
  by_cases same : k' = k
  · subst same
    simp
  · simp [get_del_ne m same, same]

theorem get_set_eq_some (found : (m.set k v).get k' = some w) :
    (k' = k ∧ w = v) ∨ (k' ≠ k ∧ m.get k' = some w) := by
  rw [get_set] at found
  split at found
  · exact .inl ⟨‹_›, (Option.some.inj found).symm⟩
  · exact .inr ⟨‹_›, found⟩

theorem forall_set {P : κ → α → Prop} (here : P k v) (there : ∀ k' w, m.get k' = some w → P k' w)
    (k' : κ) (w : α) (found : (m.set k v).get k' = some w) : P k' w := by
  rcases get_set_eq_some found with ⟨rfl, rfl⟩ | ⟨-, found⟩
  · exact here
  · exact there k' w found

theorem get_del_eq_some (found : (m.del k).get k' = some w) :
    k' ≠ k ∧ m.get k' = some w := by
  rw [get_del] at found
  split at found
  · cases found
  · exact ⟨‹_›, found⟩

/-! ## Iteration -/

theorem get_eq_some_iff :
    m.get k = some v ↔ (⟨k, v⟩ : Sigma fun _ : κ => α) ∈ m.entries :=
  AList.mem_lookup_iff

theorem mem_keys : k ∈ m.keys ↔ ∃ v, m.get k = some v := by
  rw [← Option.isSome_iff_exists]
  exact (AList.lookup_isSome (s := m)).symm

theorem mem_values :
    v ∈ m.values ↔ ∃ k, m.get k = some v := by
  simp only [values, List.mem_map, get_eq_some_iff]
  constructor
  · rintro ⟨⟨k, w⟩, stored, rfl⟩
    exact ⟨k, stored⟩
  · rintro ⟨k, stored⟩
    exact ⟨⟨k, v⟩, stored, rfl⟩

instance decidableExistsGet {P : κ → α → Prop} [∀ k, DecidablePred (P k)] (m : AssocMap κ α) :
    Decidable (∃ k v, m.get k = some v ∧ P k v) :=
  decidable_of_iff (∃ k ∈ m.keys, ∃ v ∈ m.get k, P k v) ⟨fun ⟨k, _, v, is⟩ => ⟨k, v, is⟩,
    fun ⟨k, v, is⟩ => ⟨k, mem_keys.mpr ⟨v, is.1⟩, v, is⟩⟩

omit [DecidableEq κ] in
theorem keys_nodup (m : AssocMap κ α) : m.keys.Nodup := AList.keys_nodup m

theorem length_keys_congr {m' : AssocMap κ α} (same : ∀ k, m.get k = m'.get k) :
    m.keys.length = m'.keys.length := by
  refine List.Perm.length_eq ((List.perm_ext_iff_of_nodup m.keys_nodup m'.keys_nodup).mpr ?_)
  intro k
  rw [mem_keys, mem_keys, same k]

/-! ## The items of a list under their keys -/

section Index

variable {ι : Type} {key : ι → κ} {value : ι → α} {items : List ι} {item : ι}

def addAll (key : ι → κ) (value : ι → α) (items : List ι) (m : AssocMap κ α) : AssocMap κ α :=
  items.foldl (fun m item => m.set (key item) (value item)) m

theorem get_addAll_of_not_mem (out : k ∉ items.map key) :
    (addAll key value items m).get k = m.get k := by
  induction items generalizing m with
  | nil => rfl
  | cons item rest ih =>
    rw [List.map_cons, List.mem_cons, not_or] at out
    exact (ih out.2).trans (get_set_ne _ _ out.1)

theorem get_addAll_of_mem (distinct : (items.map key).Nodup) (mem : item ∈ items) :
    (addAll key value items m).get (key item) = some (value item) := by
  induction items generalizing m with
  | nil => cases mem
  | cons first rest ih =>
    rw [List.map_cons, List.nodup_cons] at distinct
    rcases List.mem_cons.mp mem with rfl | mem
    · exact (get_addAll_of_not_mem distinct.1).trans (get_set_self ..)
    · exact ih distinct.2 mem

theorem get_addAll (distinct : (items.map key).Nodup) :
    (addAll key value items ∅).get k = some v ↔ ∃ item ∈ items, key item = k ∧ value item = v := by
  constructor
  · intro found
    by_cases listed : k ∈ items.map key
    · obtain ⟨item, mem, rfl⟩ := List.mem_map.mp listed
      exact ⟨item, mem, rfl, Option.some.inj ((get_addAll_of_mem distinct mem).symm.trans found)⟩
    · cases (get_addAll_of_not_mem listed).symm.trans found
  · rintro ⟨item, mem, rfl, rfl⟩
    exact get_addAll_of_mem distinct mem

theorem get_addAll_id {key : α → κ} {items : List α} (distinct : (items.map key).Nodup) :
    (addAll key id items ∅).get k = some v ↔ v ∈ items ∧ key v = k := by
  rw [get_addAll distinct]
  exact ⟨fun ⟨_, mem, is, same⟩ => same ▸ ⟨mem, is⟩, fun ⟨mem, is⟩ => ⟨v, mem, is, rfl⟩⟩

theorem forall_addAll {P : κ → α → Prop} (each : ∀ item ∈ items, P (key item) (value item)) :
    ∀ k v, (addAll key value items ∅).get k = some v → P k v := by
  refine List.foldlRecOn (motive := fun m : AssocMap κ α => ∀ k v, m.get k = some v → P k v) _ _
    (fun k v found => ?_) fun _ before item mem => forall_set (each item mem) before
  cases (get_empty k).symm.trans found

theorem isSome_addAll : ((addAll key value items m).get k).isSome ↔
    (m.get k).isSome ∨ k ∈ items.map key := by
  induction items generalizing m with
  | nil => simp [addAll]
  | cons item rest ih =>
    refine ih.trans ?_
    rw [get_set, List.map_cons, List.mem_cons]
    split
    · next same => simp [same]
    · next other => simp [other]

theorem nodup_of_length_addAll (full : (addAll key value items ∅).keys.length = items.length) :
    (items.map key).Nodup := by
  have among : (addAll key value items ∅).keys ⊆ (items.map key).dedup := fun k mem => by
    rw [mem_keys, ← Option.isSome_iff_exists, isSome_addAll] at mem
    exact List.mem_dedup.mpr (mem.resolve_left nofun)
  have few := (List.subperm_of_subset (keys_nodup _) among).length_le
  rw [← List.dedup_eq_self]
  exact (List.dedup_sublist _).eq_of_length_le (by rwa [List.length_map, ← full])

end Index

theorem mem_range (perm : (order m.keys).Perm m.keys) :
    (k, v) ∈ m.range order ↔ m.get k = some v := by
  simp only [range, List.mem_filterMap, Option.map_eq_some_iff, Prod.mk.injEq]
  constructor
  · rintro ⟨k', -, w, stored, rfl, rfl⟩
    exact stored
  · intro stored
    exact ⟨k, perm.mem_iff.mpr (mem_keys.mpr ⟨v, stored⟩), v, stored, rfl, rfl⟩

theorem range_keys_nodup (perm : (order m.keys).Perm m.keys) :
    ((m.range order).map Prod.fst).Nodup := by
  have nodup : (order m.keys).Nodup := perm.nodup_iff.mpr m.keys_nodup
  refine List.Nodup.sublist ?_ nodup
  unfold range
  generalize order m.keys = visited
  induction visited with
  | nil => exact List.Sublist.slnil
  | cons k rest ih =>
    cases found : m.get k with
    | none => simpa [List.filterMap_cons, found] using ih.cons k
    | some v => simpa [List.filterMap_cons, found] using ih.cons_cons k

theorem any_values :
    m.values.any p = true ↔ ∃ k v, m.get k = some v ∧ p v = true := by
  simp only [List.any_eq_true, mem_values]
  constructor
  · rintro ⟨v, ⟨k, stored⟩, holds⟩
    exact ⟨k, v, stored, holds⟩
  · rintro ⟨k, v, stored, holds⟩
    exact ⟨v, ⟨k, stored⟩, holds⟩

theorem any_values_eq_false :
    m.values.any p = false ↔ ∀ k v, m.get k = some v → p v = false := by
  rw [← Bool.not_eq_true, any_values]
  push Not
  simp only [ne_eq, Bool.not_eq_true]

theorem all_values :
    m.values.all p = true ↔ ∀ k v, m.get k = some v → p v = true := by
  simp only [List.all_eq_true, mem_values]
  constructor
  · intro all k v stored
    exact all v ⟨k, stored⟩
  · rintro all v ⟨k, stored⟩
    exact all k v stored

theorem get_foldl_range (perm : (order m.keys).Perm m.keys) (f : α → α) (k : κ) :
    ((m.range order).foldl (fun acc pair => acc.set pair.1 (f pair.2)) m).get k =
      (m.get k).map f := by
  cases stored : m.get k with
  | some v => exact get_addAll_of_mem (range_keys_nodup perm) ((mem_range perm).mpr stored)
  | none =>
    refine (get_addAll_of_not_mem fun mem => ?_).trans stored
    obtain ⟨⟨key, v⟩, visited, rfl⟩ := List.mem_map.mp mem
    cases stored.symm.trans ((mem_range perm).mp visited)

/-! ## Maps whose values carry their key -/

/-- Every value is stored under the key that `key` reads off it. -/
def Keyed (m : AssocMap κ α) (key : α → κ) : Prop := ∀ k v, m.get k = some v → key v = k

theorem Keyed.empty (key : α → κ) : (∅ : AssocMap κ α).Keyed key := by
  intro k v stored
  rw [get_empty] at stored
  cases stored

theorem Keyed.set {m : AssocMap κ α} {key : α → κ} (keyed : m.Keyed key) {k : κ} {v : α}
    (same : key v = k) : (m.set k v).Keyed key :=
  forall_set same keyed

/-- The keys of a keyed map are those of its values. -/
theorem Keyed.map_values {key : α → κ} (keyed : m.Keyed key) :
    m.values.map key = m.keys := by
  unfold values
  rw [List.map_map]
  refine List.map_congr_left fun entry mem => ?_
  exact keyed entry.1 entry.2 (get_eq_some_iff.mpr mem)

theorem Keyed.range_nodup {key : α → κ} (keyed : m.Keyed key) (perm : (order m.keys).Perm m.keys) :
    (((m.range order).map Prod.snd).map key).Nodup := by
  have ids : ((m.range order).map Prod.snd).map key = (m.range order).map Prod.fst := by
    rw [List.map_map]
    exact List.map_congr_left fun entry mem => keyed _ _ ((mem_range perm).mp mem)
  rw [ids]
  exact range_keys_nodup perm

theorem Keyed.find?_values {key : α → κ} (keyed : m.Keyed key) (k : κ) :
    m.values.find? (fun v => key v == k) = m.get k := by
  cases stored : m.get k with
  | none =>
    refine List.find?_eq_none.mpr fun v mem is => ?_
    obtain ⟨k', there⟩ := mem_values.mp mem
    rw [← keyed k' v there, beq_iff_eq.mp is, stored] at there
    cases there
  | some v =>
    have found : (m.values.find? fun v => key v == k).isSome := by
      rw [List.find?_isSome]
      exact ⟨v, mem_values.mpr ⟨k, stored⟩, beq_iff_eq.mpr (keyed k v stored)⟩
    obtain ⟨w, is⟩ := Option.isSome_iff_exists.mp found
    obtain ⟨k', there⟩ := mem_values.mp (List.mem_of_find?_eq_some is)
    have same : key w = k := beq_iff_eq.mp (List.find?_some (p := fun v => key v == k) is)
    rw [← keyed k' w there, same] at there
    rw [is, ← stored, there]

/-! ## Maps that follow one another -/

/-- Every value of the second map comes from a value of the first under the same key. -/
def From (R : α → α → Prop) (m m' : AssocMap κ α) : Prop :=
  ∀ k v', m'.get k = some v' → ∃ v, m.get k = some v ∧ R v v'

/-- Every value of the first map went on to a value of the second under the same key. -/
def Into (R : α → α → Prop) (m m' : AssocMap κ α) : Prop :=
  ∀ k v, m.get k = some v → ∃ v', m'.get k = some v' ∧ R v v'

section Follow

variable {R : α → α → Prop} {m m' m'' : AssocMap κ α}

theorem From.refl (same : ∀ v, R v v) (m : AssocMap κ α) : From R m m :=
  fun _ v stored => ⟨v, stored, same v⟩

theorem From.trans (comp : ∀ {u v w}, R u v → R v w → R u w) (first : From R m m')
    (second : From R m' m'') : From R m m'' := by
  intro k w stored
  obtain ⟨v, found, later⟩ := second k w stored
  obtain ⟨u, present, earlier⟩ := first k v found
  exact ⟨u, present, comp earlier later⟩

theorem From.set (same : ∀ v, R v v) {k : κ} {v v' : α} (stored : m.get k = some v)
    (next : R v v') : From R m (m.set k v') :=
  forall_set ⟨v, stored, next⟩ fun _ w found => ⟨w, found, same w⟩

theorem Into.refl (same : ∀ v, R v v) (m : AssocMap κ α) : Into R m m :=
  fun _ v stored => ⟨v, stored, same v⟩

theorem Into.trans (comp : ∀ {u v w}, R u v → R v w → R u w) (first : Into R m m')
    (second : Into R m' m'') : Into R m m'' := by
  intro k u stored
  obtain ⟨v, found, earlier⟩ := first k u stored
  obtain ⟨w, present, later⟩ := second k v found
  exact ⟨w, present, comp earlier later⟩

theorem Into.set (same : ∀ v, R v v) {k : κ} {v' : α}
    (next : ∀ v, m.get k = some v → R v v') : Into R m (m.set k v') := by
  intro k' w stored
  by_cases here : k' = k
  · subst here
    exact ⟨v', get_set_self m k' v', next w stored⟩
  · exact ⟨w, (get_set_ne m v' here).trans stored, same w⟩

theorem Into.insert (same : ∀ v, R v v) {k : κ} (unused : m.get k = none) (v : α) :
    Into R m (m.set k v) :=
  .set same fun _ stored => by cases unused.symm.trans stored

theorem Into.replace (same : ∀ v, R v v) {k : κ} {v v' : α} (stored : m.get k = some v)
    (next : R v v') : Into R m (m.set k v') :=
  .set same fun _ is => Option.some.inj (stored.symm.trans is) ▸ next

theorem Into.of_eq (same : ∀ v, R v v) (eq : m' = m) : Into R m m' := eq ▸ .refl same m

/-- The values of the second map are those of the first, each as `R` lets it go on. -/
structure Follows (R : α → α → Prop) (m m' : AssocMap κ α) : Prop where
  came : From R m m'
  went : Into R m m'

theorem Follows.set (same : ∀ v, R v v) {k : κ} {v v' : α} (stored : m.get k = some v)
    (next : R v v') : Follows R m (m.set k v') :=
  ⟨.set same stored next, .set same fun _ there => Option.some.inj (stored.symm.trans there) ▸ next⟩

end Follow

/-! ## Maps whose values move -/

/-- Stored values are replaced, one after the other, by values that `R` allows under their key. -/
inductive Moves (R : κ → α → α → Prop) (m : AssocMap κ α) : AssocMap κ α → Prop
  | refl : Moves R m m
  | set {m' : AssocMap κ α} {k : κ} {v v' : α} (before : Moves R m m')
      (stored : m'.get k = some v) (next : R k v v') : Moves R m (m'.set k v')

section Moves

variable {R : κ → α → α → Prop} {Q : α → α → Prop} {m m' : AssocMap κ α} {k : κ} {v v' : α}

theorem Moves.head (stored : m.get k = some v) (next : R k v v') (after : Moves R (m.set k v') m') :
    Moves R m m' := by
  induction after with
  | refl => exact .set .refl stored next
  | set _ found last ih => exact .set ih found last

/-- A walk that replaces values, skips them or stops makes moves: the values still to be visited are
stored as they were when it began, because each key is visited once. -/
theorem Moves.of_walk (walk : List (κ × α) → AssocMap κ α → β → AssocMap κ α)
    (nil : ∀ m acc, walk [] m acc = m)
    (cons : ∀ k v rest m acc, walk ((k, v) :: rest) m acc = walk rest m acc ∨ ∃ v' acc', R k v v' ∧
      (walk ((k, v) :: rest) m acc = m.set k v' ∨
        walk ((k, v) :: rest) m acc = walk rest (m.set k v') acc'))
    {visited : List (κ × α)} (once : (visited.map Prod.fst).Nodup) (acc : β)
    (stored : ∀ {k v}, (k, v) ∈ visited → m.get k = some v) : Moves R m (walk visited m acc) := by
  induction visited generalizing m acc with
  | nil =>
    rw [nil]
    exact .refl
  | cons entry rest ih =>
    obtain ⟨k, v⟩ := entry
    rw [List.map_cons, List.nodup_cons] at once
    rcases cons k v rest m acc with skipped | ⟨v', acc', next, stopped | went⟩
    · rw [skipped]
      exact ih once.2 acc fun mem => stored (.tail _ mem)
    · rw [stopped]
      exact .set .refl (stored (.head _)) next
    · rw [went]
      refine .head (stored (.head _)) next (ih once.2 acc' fun {other w} mem => ?_)
      have ne : other ≠ k := by
        rintro rfl
        exact once.1 (List.mem_map.mpr ⟨_, mem, rfl⟩)
      exact (get_set_ne _ _ ne).trans (stored (.tail _ mem))

theorem Moves.back (moves : Moves R m m') (each : ∀ {v v'}, R k v v' → Q v v')
    (same : ∀ v, Q v v) (comp : ∀ {u v w}, Q u v → Q v w → Q u w)
    (stored : m'.get k = some v') : ∃ v, m.get k = some v ∧ Q v v' := by
  induction moves generalizing v' with
  | refl => exact ⟨v', stored, same v'⟩
  | set _ there next ih =>
    rcases get_set_eq_some stored with ⟨rfl, rfl⟩ | ⟨-, stored⟩
    · obtain ⟨u, first, earlier⟩ := ih there
      exact ⟨u, first, comp earlier (each next)⟩
    · exact ih stored

theorem Moves.forth (moves : Moves R m m') (each : ∀ {v v'}, R k v v' → Q v v')
    (same : ∀ v, Q v v) (comp : ∀ {u v w}, Q u v → Q v w → Q u w)
    (stored : m.get k = some v) : ∃ v', m'.get k = some v' ∧ Q v v' := by
  induction moves with
  | refl => exact ⟨v, stored, same v⟩
  | @set m' k' _ w _ there next ih =>
    obtain ⟨u, found, earlier⟩ := ih
    by_cases here : k = k'
    · subst here
      cases there.symm.trans found
      exact ⟨w, get_set_self _ _ _, comp earlier (each next)⟩
    · exact ⟨u, (get_set_ne _ _ here).trans found, earlier⟩

end Moves

/-! ## Sums over all entries -/

section Total

variable {M : Type} [AddCommMonoid M]

/-- The sum of `f` over all stored pairs. -/
def total (m : AssocMap κ α) (f : κ → α → M) : M :=
  (m.entries.map fun e => f e.1 e.2).sum

theorem entries_set (m : AssocMap κ α) (k : κ) (v : α) :
    (m.set k v).entries = ⟨k, v⟩ :: List.kerase k m.entries := rfl

theorem total_set_of_get (m : AssocMap κ α) (f : κ → α → M) (k : κ) (v w : α)
    (stored : m.get k = some w) :
    (m.set k v).total f + f k w = m.total f + f k v := by
  have shape : (⟨k, w⟩ : Sigma fun _ : κ => α) ∈ m.entries := get_eq_some_iff.mp stored
  have present : k ∈ m.entries.keys := List.mem_keys_of_mem shape
  obtain ⟨b, l₁, l₂, -, split, erased⟩ := List.exists_of_kerase present
  have mem : (⟨k, b⟩ : Sigma fun _ : κ => α) ∈ m.entries := by simp [split]
  have same : b = w := by
    have stored' := get_eq_some_iff.mpr mem
    exact Option.some.inj (stored'.symm.trans stored)
  subst same
  rw [total, total, entries_set, erased, split]
  simp only [List.map_cons, List.map_append, List.sum_cons, List.sum_append]
  abel

theorem total_set_of_none (m : AssocMap κ α) (f : κ → α → M) (k : κ) (v : α)
    (absent : m.get k = none) :
    (m.set k v).total f = m.total f + f k v := by
  have notMem : k ∉ m.entries.keys := AList.lookup_eq_none.mp absent
  simp only [total, entries_set, List.kerase_of_notMem_keys notMem, List.map_cons, List.sum_cons]
  exact add_comm _ _

/-- Writing one entry moves the sum by the difference between the new and the old entry. -/
theorem total_set (m : AssocMap κ α) (f : κ → α → M) (k : κ) (v : α) :
    (m.set k v).total f + ((m.get k).elim 0 (f k)) = m.total f + f k v := by
  cases found : m.get k with
  | none => simpa using total_set_of_none m f k v found
  | some w => simpa using total_set_of_get m f k v w found

theorem total_eq_zero {m : AssocMap κ α} {f : κ → α → M}
    (zero : ∀ k v, m.get k = some v → f k v = 0) : m.total f = 0 := by
  refine List.sum_eq_zero fun amount mem => ?_
  obtain ⟨e, stored, rfl⟩ := List.mem_map.mp mem
  exact zero e.1 e.2 (get_eq_some_iff.mpr stored)

theorem total_eq_sum_keys (m : AssocMap κ α) (f : κ → α → M) :
    m.total f = (m.keys.map fun k => (m.get k).elim 0 (f k)).sum := by
  have keys : m.keys = m.entries.map Sigma.fst := rfl
  unfold total
  rw [keys, List.map_map]
  refine congrArg List.sum (List.map_congr_left fun entry mem => ?_)
  have stored : m.get entry.1 = some entry.2 := get_eq_some_iff.mpr mem
  rw [Function.comp_apply, stored]
  rfl

end Total

theorem total_eq_zero_iff {f : κ → α → Nat} :
    m.total f = 0 ↔ ∀ k v, m.get k = some v → f k v = 0 := by
  refine ⟨fun zero k v stored => ?_, total_eq_zero⟩
  refine List.sum_eq_zero_iff.mp zero _ ?_
  exact List.mem_map.mpr ⟨⟨k, v⟩, get_eq_some_iff.mp stored, rfl⟩

theorem total_nonneg {f : κ → α → Int} (nonneg : ∀ k v, m.get k = some v → 0 ≤ f k v) :
    0 ≤ m.total f := by
  refine List.sum_nonneg fun amount mem => ?_
  obtain ⟨e, present, rfl⟩ := List.mem_map.mp mem
  exact nonneg e.1 e.2 (get_eq_some_iff.mpr present)

theorem le_total {f : κ → α → Int} (stored : m.get k = some v)
    (nonneg : ∀ k v, m.get k = some v → 0 ≤ f k v) : f k v ≤ m.total f := by
  refine List.single_le_sum (fun amount mem => ?_) _
    (List.mem_map.mpr ⟨⟨k, v⟩, get_eq_some_iff.mp stored, rfl⟩)
  obtain ⟨e, present, rfl⟩ := List.mem_map.mp mem
  exact nonneg e.1 e.2 (get_eq_some_iff.mpr present)

/-! ## Counting -/

/-- The number of stored values with a property. -/
def count (m : AssocMap κ α) (p : α → Bool) : Nat :=
  m.total fun _ v => if p v then 1 else 0

omit [DecidableEq κ] in
@[simp] theorem count_empty (p : α → Bool) : (∅ : AssocMap κ α).count p = 0 := rfl

omit [DecidableEq κ] in
theorem length_filter_values (m : AssocMap κ α) (p : α → Bool) :
    (m.values.filter p).length = m.count p := by
  unfold values count total
  rw [← List.countP_eq_length_filter, List.countP_map]
  induction m.entries with
  | nil => rfl
  | cons entry rest ih =>
    rw [List.countP_cons, ih, List.map_cons, List.sum_cons, Nat.add_comm]
    rfl

theorem count_eq_zero_iff :
    m.count p = 0 ↔ ∀ k v, m.get k = some v → p v = false := by
  unfold count
  rw [total_eq_zero_iff]
  refine forall₃_congr fun k v _ => ?_
  cases p v <;> simp

theorem count_map {m' : AssocMap κ β} {f : β → α}
    (same : ∀ k, m.get k = (m'.get k).map f) (p : α → Bool) :
    m.count p = m'.count fun v => p (f v) := by
  have keys : m.keys.Perm m'.keys := by
    refine (List.perm_ext_iff_of_nodup m.keys_nodup m'.keys_nodup).mpr fun k => ?_
    rw [mem_keys, mem_keys, same k]
    cases m'.get k <;> simp
  unfold count
  rw [total_eq_sum_keys, total_eq_sum_keys]
  refine ((keys.map _).sum_eq).trans (congrArg List.sum (List.map_congr_left fun k _ => ?_))
  rw [same k]
  cases m'.get k <;> rfl

theorem count_set_of_get (m : AssocMap κ α) (p : α → Bool) (k : κ) (v w : α)
    (stored : m.get k = some w) :
    (m.set k v).count p + (if p w then 1 else 0) = m.count p + (if p v then 1 else 0) :=
  total_set_of_get m (fun _ v => if p v then 1 else 0) k v w stored

theorem count_set_of_none (m : AssocMap κ α) (p : α → Bool) (k : κ) (v : α)
    (absent : m.get k = none) :
    (m.set k v).count p = m.count p + (if p v then 1 else 0) :=
  total_set_of_none m (fun _ v => if p v then 1 else 0) k v absent

theorem count_set_le (m : AssocMap κ α) (p : α → Bool) (k : κ) (v : α) :
    (m.set k v).count p ≤ m.count p + 1 := by
  have one : (if p v then 1 else 0) ≤ 1 := by split <;> omega
  cases found : m.get k with
  | none =>
    rw [count_set_of_none m p k v found]
    omega
  | some w =>
    have moved := count_set_of_get m p k v w found
    omega

theorem count_set_le_add (m : AssocMap κ α) (p : α → Bool) (k : κ) (v : α) :
    (m.set k v).count p ≤ m.count p + if p v then 1 else 0 := by
  cases found : m.get k with
  | none => exact le_of_eq (count_set_of_none m p k v found)
  | some w =>
    have moved := count_set_of_get m p k v w found
    omega

theorem count_update_le (m : AssocMap κ α)
    (stored : m.get k = some w) (kept : p v = true → p w = true) :
    (m.set k v).count p ≤ m.count p := by
  have moved := count_set_of_get m p k v w stored
  by_cases after : p v = true
  · simp only [after, kept after] at moved
    omega
  · simp only [after, Bool.false_eq_true, if_false] at moved
    omega

theorem Moves.count_le {R : κ → α → α → Prop} {m' : AssocMap κ α} (moves : Moves R m m')
    (kept : ∀ {k v v'}, R k v v' → p v' = true → p v = true) : m'.count p ≤ m.count p := by
  induction moves with
  | refl => exact le_rfl
  | set _ stored next ih => exact (count_update_le _ stored (kept next)).trans ih

theorem count_mono (m : AssocMap κ α) {q : α → Bool}
    (imp : ∀ k v, m.get k = some v → p v = true → q v = true) :
    m.count p ≤ m.count q := by
  refine List.sum_le_sum fun e mem => ?_
  have stored : m.get e.1 = some e.2 := get_eq_some_iff.mpr mem
  by_cases holds : p e.2 = true
  · simp [holds, imp _ _ stored holds]
  · simp [holds]

end AssocMap
