import Mathlib.Data.List.FinRange
import Mathlib.Data.List.Sort

set_option relaxedAutoImplicit false
set_option autoImplicit false

/-!
# Stable sorting by positions

What a stable sort does to a list is a rearrangement of its positions. Equal items are told
apart by the positions that they come from.

## Main definitions

* `StableSort.Before` — one item stands before another in a sorted list: it is not greater, and
  of two items that are as great as each other the earlier one.
* `StableSort.order` — the positions of a list, in the order in which insertion sort leaves them.
* `StableSort.byKey` — sorting by key.

## Main results

* `StableSort.pairwise_insertionSort` — insertion sort keeps the order of equal items.
* `StableSort.order_perm`, `StableSort.order_pairwise` — the positions in the new order: each once,
  in sorted order with ties by position.
* `StableSort.byKey_eq_of_perm` — sorting items with different keys does not depend on their order.
-/

namespace StableSort

variable {α : Type} (r : α → α → Prop)

/-- `a` stands before `b` once the items are sorted by `r`, where `earlier` is the order in which
they stood. -/
def Before (earlier : α → α → Prop) (a b : α) : Prop := r a b ∧ (r b a → earlier a b)

section Stability

variable {r} [DecidableRel r] [Std.Total r] [IsTrans α r] {earlier : α → α → Prop}

/-- An item that stood first is inserted before the items that are as great as it is. -/
lemma pairwise_orderedInsert {a : α} {xs : List α} (ha : ∀ b ∈ xs, earlier a b)
    (h : xs.Pairwise (Before r earlier)) :
    (xs.orderedInsert r a).Pairwise (Before r earlier) := by
  induction xs with
  | nil => exact List.pairwise_singleton _ a
  | cons b xs ih =>
    have hb := List.pairwise_cons.1 h
    by_cases hab : r a b
    · rw [List.orderedInsert_cons, if_pos hab]
      refine List.pairwise_cons.2 ⟨fun c hc => ⟨?_, fun _ => ha c hc⟩, h⟩
      rcases List.mem_cons.1 hc with hcb | hcx
      · rw [hcb]
        exact hab
      · exact IsTrans.trans a b c hab (hb.1 c hcx).1
    · rw [List.orderedInsert_cons, if_neg hab]
      refine List.pairwise_cons.2
        ⟨fun c hc => ?_, ih (fun c hc => ha c (List.mem_cons_of_mem b hc)) hb.2⟩
      rcases List.mem_cons.1 ((List.perm_orderedInsert r a xs).mem_iff.1 hc) with hca | hcx
      · rw [hca]
        exact ⟨(Std.Total.total a b).resolve_left hab, fun h => absurd h hab⟩
      · exact hb.1 c hcx

/-- **Insertion sort is stable**: it sorts, and keeps the order of items that are as great as each
other. -/
theorem pairwise_insertionSort {xs : List α} (h : xs.Pairwise earlier) :
    (xs.insertionSort r).Pairwise (Before r earlier) := by
  induction xs with
  | nil => exact List.Pairwise.nil
  | cons a xs ih =>
    have ha := List.pairwise_cons.1 h
    rw [List.insertionSort_cons]
    refine pairwise_orderedInsert (fun b hb => ha.1 b ?_) (ih ha.2)
    exact (List.mem_insertionSort r).1 hb

end Stability

section Positions

/-- The relation between the items at two positions. -/
def AtPositions (xs : List α) (i j : Fin xs.length) : Prop := r (xs.get i) (xs.get j)

variable [DecidableRel r]

instance (xs : List α) : DecidableRel (AtPositions r xs) := fun i j =>
  inferInstanceAs (Decidable (r (xs.get i) (xs.get j)))

/-- The positions of a list, in the order in which insertion sort leaves them. -/
def order (xs : List α) : List (Fin xs.length) :=
  (List.finRange xs.length).insertionSort (AtPositions r xs)

/-- Every position stays, once. -/
theorem order_perm (xs : List α) : (order r xs).Perm (List.finRange xs.length) :=
  List.perm_insertionSort _ _

/-- The positions are sorted by their items, ties by the positions themselves. -/
theorem order_pairwise [Std.Total r] [IsTrans α r] (xs : List α) :
    (order r xs).Pairwise (Before (AtPositions r xs) (· < ·)) := by
  have : Std.Total (AtPositions r xs) := ⟨fun i j => Std.Total.total (xs.get i) (xs.get j)⟩
  have : IsTrans (Fin xs.length) (AtPositions r xs) :=
    ⟨fun i j k => IsTrans.trans (xs.get i) (xs.get j) (xs.get k)⟩
  exact pairwise_insertionSort (List.pairwise_lt_finRange xs.length)

end Positions

section Keys

/-- At most one item has a given key. -/
lemma eq_of_key_eq {κ : Type} {key : α → κ} {xs : List α} (h : (xs.map key).Nodup) {x y : α}
    (hx : x ∈ xs) (hy : y ∈ xs) (hkey : key x = key y) : x = y := by
  induction xs with
  | nil => cases hx
  | cons z zs ih =>
    rw [List.map_cons, List.nodup_cons] at h
    rcases List.mem_cons.1 hx with hxz | hxs
    · rcases List.mem_cons.1 hy with hyz | hys
      · rw [hxz, hyz]
      · rw [hxz] at hkey
        exact absurd (hkey ▸ List.mem_map_of_mem hys) h.1
    · rcases List.mem_cons.1 hy with hyz | hys
      · rw [hyz] at hkey
        exact absurd (hkey ▸ List.mem_map_of_mem hxs) h.1
      · exact ih h.2 hxs hys

variable {κ : Type} [LinearOrder κ]

/-- Sorting by key. -/
def byKey (key : α → κ) (xs : List α) : List α := xs.insertionSort fun x y => key x ≤ key y

variable {key : α → κ} {xs ys : List α}

lemma byKey_perm (xs : List α) : (byKey key xs).Perm xs := List.perm_insertionSort _ xs

lemma pairwise_byKey (xs : List α) : (byKey key xs).Pairwise fun x y => key x ≤ key y := by
  have htotal : Std.Total fun x y : α => key x ≤ key y := ⟨fun x y => le_total (key x) (key y)⟩
  have htrans : IsTrans α fun x y => key x ≤ key y := ⟨fun x y z => le_trans⟩
  exact List.pairwise_insertionSort _ xs

/-- **The order in which items with different keys stood does not matter** when they are sorted by
key. -/
theorem byKey_eq_of_perm (h : (xs.map key).Nodup) (hperm : xs.Perm ys) :
    byKey key xs = byKey key ys := by
  refine List.Perm.eq_of_pairwise (fun x y hx hy hxy hyx => ?_) (pairwise_byKey xs)
    (pairwise_byKey ys) ((byKey_perm xs).trans (hperm.trans (byKey_perm ys).symm))
  have hx' : x ∈ xs := (byKey_perm xs).mem_iff.1 hx
  have hy' : y ∈ xs := hperm.mem_iff.2 ((byKey_perm ys).mem_iff.1 hy)
  exact eq_of_key_eq h hx' hy' (le_antisymm hxy hyx)

end Keys

end StableSort
