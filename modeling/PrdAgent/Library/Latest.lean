import Mathlib.Data.List.MinMax
import Mathlib.Data.List.Sort

/-!
# Items of a list by a number or key

A loop that keeps the item with the greatest number, and the first visited of equals, finds what
`List.argmax` finds. Sorting by a key does not depend on the order of items with different keys.
-/

namespace Latest

/-- The order of integers, whatever instances are imported. -/
@[reducible] def intOrder : Preorder Int := Int.instLinearOrder.toPreorder

variable {α β : Type} [Preorder β] [DecidableLT β] {f : α → β}

theorem foldl_none {step : Option α → α → Option α} (first : ∀ item, step none item = some item)
    (later : ∀ current item, step (some current) item =
      if f current < f item then some item else some current) (items : List α) :
    items.foldl step none = items.argmax f := by
  unfold List.argmax
  congr 1
  funext latest item
  cases latest with
  | none => exact first item
  | some current => exact later current item

theorem foldl_some (first : α) (items : List α) : (first :: items).argmax f =
    some (items.foldl (fun latest item => if f latest < f item then item else latest) first) := by
  unfold List.argmax
  rw [List.foldl_cons]
  induction items generalizing first with
  | nil => rfl
  | cons item rest ih =>
    rw [List.foldl_cons, List.foldl_cons, ← ih]
    congr 1
    exact (apply_ite some _ _ _).symm

end Latest

namespace SortedBy

variable {α κ : Type} [LinearOrder κ] (key : α → κ) {r : α → α → Prop} [DecidableRel r]
  (by_key : ∀ x y, r x y ↔ key x ≤ key y)

include by_key

theorem pairwise (items : List α) : (items.insertionSort r).Pairwise r := by
  have : Std.Total r := ⟨fun _ _ => by simpa only [by_key] using le_total _ _⟩
  have : IsTrans α r := ⟨fun _ _ _ => by simpa only [by_key] using le_trans⟩
  exact List.pairwise_insertionSort r items

theorem eq_of_perm {items items' : List α} (perm : items'.Perm items)
    (apart : ∀ x ∈ items, ∀ y ∈ items, key x = key y → x = y) :
    items'.insertionSort r = items.insertionSort r := by
  refine List.Perm.eq_of_pairwise ?_ (pairwise key by_key _) (pairwise key by_key _)
    ((List.perm_insertionSort _ _).trans (perm.trans (List.perm_insertionSort _ _).symm))
  intro x y first second before after
  rw [List.mem_insertionSort] at first second
  exact apart x (perm.mem_iff.mp first) y second
    (le_antisymm ((by_key x y).mp before) ((by_key y x).mp after))

end SortedBy
