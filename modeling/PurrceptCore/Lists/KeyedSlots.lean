import Mathlib.Data.List.Induction
import Mathlib.Data.Nat.Find
import PurrceptCore.Lists.Keyed

set_option relaxedAutoImplicit false
set_option autoImplicit false

/-!
# The slots of a keyed list

Where the items of a list end up when they are inserted one by one: a key has its slot at its
first occurrence, and the item that stands there is the last one with that key.

## Main definitions

* `Keyed.keyAt` — the key of the item at a position.
* `Keyed.RepeatsAt`, `Keyed.FirstRepeat` — a position whose key occurs before it, and the first
  such position.
* `Keyed.slots`, `Keyed.valueAt` — the positions where items stay, and the items that stand there
  in the end.

## Main results

* `Keyed.ofList_slots` — inserting the items of a list one by one fills its slots.
* `Keyed.ofList_append` — inserting two lists, one after the other.
* `Keyed.upsert_of_mem`, `Keyed.upsert_comm` — inserting an item whose key is there changes one
  slot, and such insertions commute.
* `Keyed.exists_firstRepeat` — a list with a repeated key has a first position that repeats one.
-/

namespace Keyed

variable {α κ : Type} (key : α → Option κ)

/-- The key of the item at a position. -/
def keyAt (xs : List α) (i : ℕ) : Option κ := (xs[i]?).bind key

/-- The item at position `i` has the key `k`, which an earlier item has as well. -/
def RepeatsAt (xs : List α) (i : ℕ) (k : κ) : Prop :=
  keyAt key xs i = some k ∧ ∃ j < i, keyAt key xs j = some k

/-- Position `i` is the first one that repeats a key, the key `k`. -/
def FirstRepeat (xs : List α) (i : ℕ) (k : κ) : Prop :=
  RepeatsAt key xs i k ∧ ∀ j < i, ∀ k', ¬ RepeatsAt key xs j k'

/-- A position is a slot when its item has no key, or is the first one with its key. -/
def IsSlot (xs : List α) (i : ℕ) : Prop :=
  ∀ j < i, keyAt key xs i ≠ none → keyAt key xs j ≠ keyAt key xs i

section Positions

variable {key} {xs ys : List α} {x : α} {i : ℕ} {k : κ}

lemma keyAt_of_lt (h : i < xs.length) : keyAt key xs i = key xs[i] := by
  rw [keyAt, List.getElem?_eq_getElem h]
  rfl

lemma keyAt_append_left (h : i < xs.length) : keyAt key (xs ++ ys) i = keyAt key xs i := by
  rw [keyAt, keyAt, List.getElem?_append_left h]

lemma keyAt_concat_length : keyAt key (xs ++ [x]) xs.length = key x := by
  rw [keyAt, List.getElem?_concat_length]
  rfl

@[simp] lemma keyAt_cons_zero : keyAt key (x :: xs) 0 = key x := rfl

@[simp] lemma keyAt_cons_succ : keyAt key (x :: xs) (i + 1) = keyAt key xs i := rfl

/-- The keys of a list are the keys at its positions. -/
lemma mem_filterMap_iff_keyAt :
    k ∈ xs.filterMap key ↔ ∃ i < xs.length, keyAt key xs i = some k := by
  rw [List.mem_filterMap]
  constructor
  · intro ⟨x, hx, hk⟩
    obtain ⟨i, hi, hxi⟩ := List.getElem_of_mem hx
    exact ⟨i, hi, by rw [keyAt_of_lt hi, hxi, hk]⟩
  · intro ⟨i, hi, hk⟩
    exact ⟨xs[i], List.getElem_mem hi, (keyAt_of_lt hi).symm.trans hk⟩

/-- A list with a repeated key has a first position that repeats one. -/
theorem exists_firstRepeat (h : RepeatsAt key xs i k) : ∃ i k, FirstRepeat key xs i k := by
  classical
  have hex : ∃ i, ∃ k, RepeatsAt key xs i k := ⟨i, k, h⟩
  obtain ⟨k, hk⟩ := Nat.find_spec hex
  exact ⟨Nat.find hex, k, hk, fun j hj k' hk' => Nat.find_min hex hj ⟨k', hk'⟩⟩

/-- Keys are unique when no position repeats one. -/
theorem unique_of_not_repeatsAt (h : ∀ i k, ¬ RepeatsAt key xs i k) : Unique key xs := by
  induction xs with
  | nil => exact unique_nil key
  | cons x xs ih =>
    have htail : Unique key xs := by
      refine ih fun i k ⟨hi, j, hj, hk⟩ => h (i + 1) k ⟨hi, j + 1, ?_, hk⟩
      omega
    cases hx : key x with
    | none => rwa [Unique, List.filterMap_cons_none hx]
    | some k =>
      rw [Unique, List.filterMap_cons_some hx, List.nodup_cons]
      refine ⟨fun hmem => ?_, htail⟩
      obtain ⟨i, _, hi⟩ := mem_filterMap_iff_keyAt.1 hmem
      exact h (i + 1) k ⟨hi, 0, Nat.succ_pos i, hx⟩

lemma isSlot_append_left (h : i < xs.length) : IsSlot key (xs ++ ys) i ↔ IsSlot key xs i := by
  refine forall₂_congr fun j hj => ?_
  rw [keyAt_append_left h, keyAt_append_left (Nat.lt_trans hj h)]

/-- The position of an item that is put at the end is a slot unless the item has a key that is
there. -/
lemma isSlot_concat_length :
    IsSlot key (xs ++ [x]) xs.length ↔ ∀ k, key x = some k → k ∉ xs.filterMap key := by
  unfold IsSlot
  rw [keyAt_concat_length]
  constructor
  · intro h k hx hmem
    obtain ⟨j, hj, hk⟩ := mem_filterMap_iff_keyAt.1 hmem
    refine h j hj (by simp [hx]) ?_
    rw [keyAt_append_left hj, hk, hx]
  · intro h j hj hx hk
    obtain ⟨k, hxk⟩ := Option.ne_none_iff_exists'.1 hx
    rw [keyAt_append_left hj, hxk] at hk
    exact h k hxk (mem_filterMap_iff_keyAt.2 ⟨j, hj, hk⟩)

end Positions

section Slots

variable [DecidableEq κ]

instance (xs : List α) (i : ℕ) : Decidable (IsSlot key xs i) :=
  inferInstanceAs (Decidable (∀ j < i, _ → _))

/-- The slots of a list, in order. -/
def slots (xs : List α) : List ℕ := (List.range xs.length).filter fun i => IsSlot key xs i

/-- What stands at a slot in the end: the item itself when it has no key, otherwise the last item
with its key. -/
def valueAt (xs : List α) (i : ℕ) : Option α :=
  match keyAt key xs i with
  | none => xs[i]?
  | some k => xs.reverse.find? fun x => key x = some k

variable {key} {xs ys : List α} {x y : α} {i : ℕ} {k : κ}

/-- The slots when an item is put at the end. -/
lemma slots_concat : slots key (xs ++ [x]) =
    slots key xs ++ if IsSlot key (xs ++ [x]) xs.length then [xs.length] else [] := by
  unfold slots
  rw [List.length_append, List.length_singleton, List.range_succ, List.filter_append]
  congr 1
  · refine List.filter_congr fun i hi => ?_
    simp only [isSlot_append_left (List.mem_range.1 hi)]
  · by_cases h : IsSlot key (xs ++ [x]) xs.length <;> simp [h]

/-- The value at a slot when an item is put at the end. -/
lemma valueAt_concat_left (h : i < xs.length) : valueAt key (xs ++ [x]) i =
    if keyAt key xs i ≠ none ∧ keyAt key xs i = key x then some x else valueAt key xs i := by
  unfold valueAt
  rw [keyAt_append_left h]
  cases hk : keyAt key xs i with
  | none => simp [List.getElem?_append_left h]
  | some k =>
    simp only [List.reverse_append, List.reverse_singleton, List.singleton_append,
      List.find?_cons, ne_eq, reduceCtorEq, not_false_eq_true, true_and]
    by_cases hx : key x = some k
    · simp [hx]
    · simp [hx, Ne.symm hx]

lemma valueAt_concat_length : valueAt key (xs ++ [x]) xs.length = some x := by
  unfold valueAt
  rw [keyAt_concat_length]
  cases hk : key x with
  | none => simp
  | some k => simp [hk]

/-- The value at a slot has the key of the slot. -/
lemma key_of_valueAt (h : valueAt key xs i = some y) : key y = keyAt key xs i := by
  unfold valueAt at h
  cases hk : keyAt key xs i with
  | none =>
    rw [hk] at h
    have hy : (xs[i]?).bind key = none := hk
    rwa [show xs[i]? = some y from h] at hy
  | some k =>
    rw [hk] at h
    simpa using List.find?_some h

/-- Inserting two lists, one after the other. -/
theorem ofList_append : ofList key (xs ++ ys) = ys.foldl (upsert key) (ofList key xs) :=
  List.foldl_append

/-- Putting an item in the place of the one with its key, as a map. -/
lemma replaceFirst_eq_map (h : Unique key xs) (hk : k ∈ xs.filterMap key) :
    replaceFirst key k x xs = xs.map fun y => if key y = some k then x else y := by
  induction xs with
  | nil => cases hk
  | cons y ys ih =>
    rw [replaceFirst, List.map_cons]
    by_cases hy : key y = some k
    · rw [if_pos hy, if_pos hy]
      rw [Unique, List.filterMap_cons_some hy, List.nodup_cons] at h
      congr 1
      have hrest : ∀ z ∈ ys, key z ≠ some k := fun z hz hzk =>
        h.1 (List.mem_filterMap.2 ⟨z, hz, hzk⟩)
      rw [List.map_congr_left fun z hz => if_neg (hrest z hz), List.map_id']
    · rw [if_neg hy, if_neg hy]
      congr 1
      refine ih (List.Nodup.sublist ((List.sublist_cons_self y ys).filterMap key) h) ?_
      obtain ⟨z, hz, hzk⟩ := List.mem_filterMap.1 hk
      rcases List.mem_cons.1 hz with hzy | hzs
      · rw [hzy] at hzk
        exact absurd hzk hy
      · exact List.mem_filterMap.2 ⟨z, hzs, hzk⟩

/-- The keys after an insertion. -/
lemma mem_filterMap_upsert :
    k ∈ (upsert key xs x).filterMap key ↔ k ∈ xs.filterMap key ∨ key x = some k := by
  cases hx : key x with
  | none => simp [upsert_of_none hx, hx]
  | some k' =>
    simp only [upsert, hx, Option.some.injEq]
    by_cases hk' : k' ∈ xs.filterMap key
    · rw [filterMap_replaceFirst_of_mem hx hk']
      refine ⟨Or.inl, fun h => h.elim id fun hkk => ?_⟩
      rwa [← hkk]
    · rw [replaceFirst_of_notMem hk', List.filterMap_append]
      simp [hx, eq_comm]

/-- Inserting the items of a list keeps its keys. -/
lemma mem_filterMap_ofList : k ∈ (ofList key xs).filterMap key ↔ k ∈ xs.filterMap key := by
  induction xs using List.reverseRecOn with
  | nil => exact Iff.rfl
  | append_singleton xs x ih =>
    rw [ofList_append, List.foldl_cons, List.foldl_nil, mem_filterMap_upsert, ih,
      List.filterMap_append, List.mem_append]
    cases hx : key x <;> simp [hx, eq_comm]

/-- **Inserting the items of a list one by one fills its slots**: each key stands where it occurs
first, with the item that has it last, and items without a key keep their places.

**Proof sketch.** Induction on the list from its end. An item that is put at the end without a
key, or with a new one, opens a slot and changes no other. An item with a key that is there opens
no slot, and replaces what stands at the slot of its key, which is the only item with that key. -/
theorem ofList_slots (xs : List α) :
    (ofList key xs).map some = (slots key xs).map (valueAt key xs) := by
  induction xs using List.reverseRecOn with
  | nil => rfl
  | append_singleton xs x ih =>
    rw [ofList_append, List.foldl_cons, List.foldl_nil, slots_concat, List.map_append]
    have hlt : ∀ i ∈ slots key xs, i < xs.length := fun i hi =>
      List.mem_range.1 (List.mem_filter.1 hi).1
    by_cases hnew : ∀ k, key x = some k → k ∉ xs.filterMap key
    · -- the item opens a slot
      have hupsert : upsert key (ofList key xs) x = ofList key xs ++ [x] := by
        cases hx : key x with
        | none => exact upsert_of_none hx
        | some k =>
          simp only [upsert, hx]
          exact replaceFirst_of_notMem fun hk => hnew k hx (mem_filterMap_ofList.1 hk)
      have hsame : ∀ i ∈ slots key xs, valueAt key (xs ++ [x]) i = valueAt key xs i := by
        intro i hi
        rw [valueAt_concat_left (hlt i hi), if_neg]
        intro hboth
        obtain ⟨hne, heq⟩ := hboth
        obtain ⟨k, hk⟩ := Option.ne_none_iff_exists'.1 hne
        exact hnew k (heq ▸ hk) (mem_filterMap_iff_keyAt.2 ⟨i, hlt i hi, hk⟩)
      rw [if_pos (isSlot_concat_length.2 hnew), hupsert, List.map_append, ih,
        List.map_congr_left hsame, List.map_singleton, List.map_singleton,
        valueAt_concat_length]
    · -- the item takes the slot of its key
      rw [if_neg fun h => hnew (isSlot_concat_length.1 h), List.map_nil, List.append_nil]
      simp only [not_forall, not_not] at hnew
      obtain ⟨k, hx, hk⟩ := hnew
      simp only [upsert, hx]
      rw [replaceFirst_eq_map (unique_ofList xs) (mem_filterMap_ofList.2 hk), List.map_map]
      have hput : ∀ i ∈ slots key xs, valueAt key (xs ++ [x]) i =
          (valueAt key xs i).map fun y => if key y = some k then x else y := by
        intro i hi
        obtain ⟨y, -, hy⟩ : ∃ y ∈ ofList key xs, some y = valueAt key xs i := by
          rw [← List.mem_map, ih]
          exact List.mem_map_of_mem hi
        rw [valueAt_concat_left (hlt i hi), ← hy, hx, ← key_of_valueAt hy.symm]
        by_cases hyk : key y = some k <;> simp [hyk]
      have himage := congrArg (List.map (Option.map fun y => if key y = some k then x else y)) ih
      rw [List.map_map, List.map_map] at himage
      rw [List.map_congr_left hput]
      exact himage

/-- **Inserting an item whose key is there changes one slot.** -/
theorem upsert_of_mem (hx : key x = some k) (hk : k ∈ xs.filterMap key) :
    ∃ as old bs, xs = as ++ old :: bs ∧ key old = some k ∧ upsert key xs x = as ++ x :: bs := by
  simp only [upsert, hx]
  induction xs with
  | nil => cases hk
  | cons y ys ih =>
    by_cases hy : key y = some k
    · refine ⟨[], y, ys, rfl, hy, ?_⟩
      rw [replaceFirst, if_pos hy]
      rfl
    · have hk' : k ∈ ys.filterMap key := by
        obtain ⟨z, hz, hzk⟩ := List.mem_filterMap.1 hk
        rcases List.mem_cons.1 hz with hzy | hzs
        · rw [hzy] at hzk
          exact absurd hzk hy
        · exact List.mem_filterMap.2 ⟨z, hzs, hzk⟩
      obtain ⟨as, old, bs, hys, hold, hput⟩ := ih hk'
      refine ⟨y :: as, old, bs, by rw [hys]; rfl, hold, ?_⟩
      rw [replaceFirst, if_neg hy, hput]
      rfl

/-- **Insertions of items with different keys that are there commute.** -/
theorem upsert_comm {l : κ} (h : Unique key xs) (hkl : k ≠ l) (hx : key x = some k)
    (hk : k ∈ xs.filterMap key) (hy : key y = some l) (hl : l ∈ xs.filterMap key) :
    upsert key (upsert key xs x) y = upsert key (upsert key xs y) x := by
  have hafter (z w : α) (m n : κ) (hz : key z = some m) (hw : key w = some n)
      (hm : m ∈ xs.filterMap key) (hn : n ∈ xs.filterMap key) :
      upsert key (upsert key xs z) w = (xs.map fun y => if key y = some m then z else y).map
        fun y => if key y = some n then w else y := by
    have hkeys : n ∈ (upsert key xs z).filterMap key := mem_filterMap_upsert.2 (.inl hn)
    have hunique := unique_upsert h z
    simp only [upsert, hz, hw] at hkeys hunique ⊢
    rw [replaceFirst_eq_map hunique hkeys, replaceFirst_eq_map h hm]
  rw [hafter x y k l hx hy hk hl, hafter y x l k hy hx hl hk, List.map_map, List.map_map]
  refine List.map_congr_left fun z _ => ?_
  simp only [Function.comp_apply]
  by_cases hzk : key z = some k
  · have hzl : key z ≠ some l := fun h => hkl (Option.some.inj (hzk.symm.trans h))
    simp [hzk, hx, hkl]
  · by_cases hzl : key z = some l
    · simp [hzl, hy, Ne.symm hkl]
    · simp [hzk, hzl]

end Slots

end Keyed
