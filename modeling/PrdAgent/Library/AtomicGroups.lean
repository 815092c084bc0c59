import Mathlib.Data.List.Basic

/-!
# Groups that are kept whole

Some items of a list belong to groups, and of a group all items or none are to be kept. A group of
which only some are there is split, and all of it is dropped: for all groups at once, by what was
there at the start (`prune`), or for one group after the other (`sweep`). Groups that overlap may leave
others split, or drop a group that was whole.
-/

namespace AtomicGroups

variable {α : Type} [DecidableEq α]

/-- The number of items of the group that are kept. -/
def present (kept group : List α) : Nat := group.countP fun x => decide (x ∈ kept)

/-- Some items of the group are kept, but not all. -/
def isSplit (kept group : List α) : Bool :=
  present kept group != 0 && present kept group != group.length

/-- All of the group is kept, or nothing of it. -/
def Intact (kept group : List α) : Prop := (∀ x ∈ group, x ∈ kept) ∨ ∀ x ∈ group, x ∉ kept

/-- Different groups have no items in common. -/
def Apart (groups : List (List α)) : Prop :=
  ∀ group ∈ groups, ∀ other ∈ groups, group ≠ other → group.Disjoint other

def without (kept dropped : List α) : List α := kept.filter fun x => decide (x ∉ dropped)

/-- Drop all groups that are split. -/
def prune (groups : List (List α)) (kept : List α) : List α :=
  without kept (groups.filter (isSplit kept)).flatten

/-- Drop one group after the other that is split when its turn comes. -/
def sweep (groups : List (List α)) (kept : List α) : List α :=
  groups.foldl (fun kept group => if isSplit kept group then without kept group else kept) kept

variable {kept dropped group : List α} {groups : List (List α)} {x : α}

theorem present_eq_zero : present kept group = 0 ↔ ∀ x ∈ group, x ∉ kept := by
  simp [present, List.countP_eq_zero]

theorem present_eq_length : present kept group = group.length ↔ ∀ x ∈ group, x ∈ kept := by
  simp [present, List.countP_eq_length]

theorem isSplit_eq_false : isSplit kept group = false ↔ Intact kept group := by
  unfold isSplit Intact
  rw [Bool.and_eq_false_iff, bne_eq_false_iff_eq, bne_eq_false_iff_eq, present_eq_zero,
    present_eq_length]
  exact or_comm

theorem isSplit_eq_true : isSplit kept group = true ↔ ¬ Intact kept group := by
  rw [← isSplit_eq_false, Bool.not_eq_false]

theorem mem_without : x ∈ without kept dropped ↔ x ∈ kept ∧ x ∉ dropped := by
  simp [without]

theorem mem_prune : x ∈ prune groups kept ↔
    x ∈ kept ∧ ∀ group ∈ groups, isSplit kept group = true → x ∉ group := by
  simp [prune, mem_without]

omit [DecidableEq α] in
theorem Apart.of_subset {groups' : List (List α)} (apart : Apart groups)
    (subset : ∀ group ∈ groups', group ∈ groups) : Apart groups' :=
  fun group mem other mem' => apart group (subset group mem) other (subset other mem')

theorem mem_prune_of_intact (apart : Apart groups) (mem : group ∈ groups)
    (intact : Intact kept group) (member : x ∈ group) : x ∈ prune groups kept ↔ x ∈ kept := by
  rw [mem_prune]
  refine and_iff_left_of_imp fun _ other mem' split => ?_
  have ne : group ≠ other := by
    rintro rfl
    exact isSplit_eq_true.mp split intact
  exact apart group mem other mem' ne member

/-- Dropping all split groups at once leaves every group intact. -/
theorem intact_prune (apart : Apart groups) (mem : group ∈ groups) :
    Intact (prune groups kept) group := by
  cases split : isSplit kept group with
  | true => exact .inr fun x member kept => (mem_prune.mp kept).2 group mem split member
  | false =>
    have intact := isSplit_eq_false.mp split
    refine intact.imp (fun all x member => ?_) fun none x member => ?_
    · exact (mem_prune_of_intact apart mem intact member).mpr (all x member)
    · rw [mem_prune_of_intact apart mem intact member]
      exact none x member

theorem sweep_subset (groups : List (List α)) (kept : List α) : sweep groups kept ⊆ kept := by
  unfold sweep
  induction groups generalizing kept with
  | nil => exact fun _ mem => mem
  | cons first rest ih =>
    intro x mem
    rw [List.foldl_cons] at mem
    have kept := ih _ mem
    split at kept
    · exact (mem_without.mp kept).1
    · exact kept

theorem mem_sweep_of_intact (apart : ∀ other ∈ groups, group ≠ other → group.Disjoint other)
    (intact : Intact kept group) (member : x ∈ group) : x ∈ sweep groups kept ↔ x ∈ kept := by
  unfold sweep
  induction groups generalizing kept with
  | nil => rfl
  | cons first rest ih =>
    have apart' := fun other mem => apart other (.tail _ mem)
    rw [List.foldl_cons]
    split
    · next split =>
      have ne : group ≠ first := by
        rintro rfl
        exact isSplit_eq_true.mp split intact
      have outside {y : α} (member : y ∈ group) : y ∈ without kept first ↔ y ∈ kept := by
        rw [mem_without]
        exact and_iff_left (apart first (.head _) ne member)
      rw [ih apart' ?_, outside member]
      exact intact.imp (fun all y member => (outside member).mpr (all y member))
        fun none y member kept => none y member ((outside member).mp kept)
    · exact ih apart' intact

/-- A pass over groups that are apart leaves each of them intact: whole, if it was there when its
turn came, and gone otherwise. -/
theorem intact_sweep (apart : Apart groups) (mem : group ∈ groups) :
    Intact (sweep groups kept) group := by
  induction groups generalizing kept with
  | nil => cases mem
  | cons first rest ih =>
    have apart' := apart.of_subset fun group mem => List.mem_cons_of_mem first mem
    rcases List.mem_cons.mp mem with rfl | mem
    · -- the group is intact after its turn, and the later ones do not touch it
      have others := fun other mem => apart group (.head _) other
        (List.mem_cons_of_mem group mem)
      have intact : Intact (if isSplit kept group then without kept group else kept) group := by
        split
        · exact .inr fun x member kept => (mem_without.mp kept).2 member
        · next whole => exact isSplit_eq_false.mp (Bool.not_eq_true _ ▸ whole)
      refine intact.imp (fun all x member => ?_) fun none x member => ?_
      · exact (mem_sweep_of_intact others intact member).mpr (all x member)
      · exact fun kept => none x member ((mem_sweep_of_intact others intact member).mp kept)
    · exact ih apart' mem

end AtomicGroups
