import Mathlib.Data.List.Basic
import Mathlib.Data.List.Nodup

set_option relaxedAutoImplicit false
set_option autoImplicit false

/-!
# Lists with optional keys

A list some of whose items carry a key that is meant to be theirs alone. Inserting an item
replaces the item that has its key, in the place where that stands, and appends the item
otherwise.

## Main definitions

* `Keyed.upsert` — insert an item, or replace the one that has its key.
* `Keyed.ofList` — insert the items of a list one by one.
* `Keyed.Unique` — no key occurs twice.

## Main results

* `Keyed.unique_upsert`, `Keyed.unique_ofList` — inserting keeps keys unique.
* `Keyed.sublist_upsert` — inserting keeps the order of the items that stay.
* `Keyed.ofList_eq_self` — a list with unique keys is not changed by inserting its items anew.
-/

namespace Keyed

variable {α κ : Type} (key : α → Option κ)

/-- No key occurs twice. -/
def Unique (xs : List α) : Prop := (xs.filterMap key).Nodup

lemma unique_nil : Unique key [] := List.nodup_nil

variable {key} in
/-- Uniqueness depends on the keys alone. -/
lemma unique_congr {β : Type} {key' : β → Option κ} {xs : List α} {ys : List β}
    (h : xs.map key = ys.map key') : Unique key xs ↔ Unique key' ys := by
  have hkeys := congrArg (List.filterMap id) h
  rw [List.filterMap_map, List.filterMap_map] at hkeys
  exact iff_of_eq (congrArg List.Nodup hkeys)

variable {key} in
/-- At most one item has a given key. -/
lemma Unique.eq_of_key {xs : List α} (h : Unique key xs) {x y : α} {k : κ} (hx : x ∈ xs)
    (hy : y ∈ xs) (hxk : key x = some k) (hyk : key y = some k) : x = y := by
  induction xs with
  | nil => cases hx
  | cons z zs ih =>
    have hz (w : α) (hw : w ∈ zs) (hk : key w = some k) : key z ≠ some k := by
      intro hzk
      unfold Unique at h
      rw [List.filterMap_cons_some hzk, List.nodup_cons] at h
      exact h.1 (List.mem_filterMap.2 ⟨w, hw, hk⟩)
    rcases List.mem_cons.1 hx with hxz | hxs <;> rcases List.mem_cons.1 hy with hyz | hys
    · rw [hxz, hyz]
    · exact absurd (hxz ▸ hxk) (hz y hys hyk)
    · exact absurd (hyz ▸ hyk) (hz x hxs hxk)
    · refine ih (List.Nodup.sublist ?_ h) hxs hys
      exact (List.sublist_cons_self z zs).filterMap key

section Upsert

variable [DecidableEq κ]

/-- Put `x` in the place of the first item with key `k`, or at the end. -/
def replaceFirst (k : κ) (x : α) : List α → List α
  | [] => [x]
  | y :: ys => if key y = some k then x :: ys else y :: replaceFirst k x ys

lemma mem_replaceFirst (k : κ) (x : α) (xs : List α) : x ∈ replaceFirst key k x xs := by
  induction xs with
  | nil => exact List.mem_singleton_self x
  | cons y ys ih =>
    rw [replaceFirst]
    split
    · exact List.mem_cons_self
    · exact List.mem_cons_of_mem y ih

/-- Insert `x`: in the place of the item that has its key, or at the end. -/
def upsert (xs : List α) (x : α) : List α :=
  match key x with
  | none => xs ++ [x]
  | some k => replaceFirst key k x xs

/-- Insert the items of a list one by one. -/
def ofList (xs : List α) : List α := xs.foldl (upsert key) []

variable {key}

/-- An item without a key is appended. -/
lemma upsert_of_none {xs : List α} {x : α} (hx : key x = none) : upsert key xs x = xs ++ [x] := by
  simp only [upsert, hx]

/-- An item whose key does not occur is appended. -/
lemma replaceFirst_of_notMem {k : κ} {x : α} {xs : List α} (hk : k ∉ xs.filterMap key) :
    replaceFirst key k x xs = xs ++ [x] := by
  induction xs with
  | nil => rfl
  | cons y ys ih =>
    simp only [List.mem_filterMap, List.mem_cons, not_exists, not_and] at hk ih
    rw [replaceFirst, if_neg (hk y (.inl rfl)), ih fun z hz => hk z (.inr hz)]
    rfl

/-- Replacing an item by one of the same key changes no key. -/
lemma filterMap_replaceFirst_of_mem {k : κ} {x : α} {xs : List α} (hx : key x = some k)
    (hk : k ∈ xs.filterMap key) :
    (replaceFirst key k x xs).filterMap key = xs.filterMap key := by
  induction xs with
  | nil => cases hk
  | cons y ys ih =>
    rw [replaceFirst]
    split
    · next hy => simp only [List.filterMap_cons, hx, hy]
    · next hy =>
      have hk' : k ∈ ys.filterMap key := by
        rw [List.mem_filterMap] at hk ⊢
        obtain ⟨z, hz, hzk⟩ := hk
        rcases List.mem_cons.1 hz with rfl | hz
        · exact absurd hzk hy
        · exact ⟨z, hz, hzk⟩
      simp only [List.filterMap_cons, ih hk']

/-- Inserting keeps keys unique. -/
lemma unique_upsert {xs : List α} (h : Unique key xs) (x : α) :
    Unique key (upsert key xs x) := by
  unfold Unique at h ⊢
  cases hx : key x with
  | none => simpa only [upsert_of_none hx, List.filterMap_append, List.filterMap_cons, hx,
      List.filterMap_nil, List.append_nil] using h
  | some k =>
    simp only [upsert, hx]
    by_cases hk : k ∈ xs.filterMap key
    · rwa [filterMap_replaceFirst_of_mem hx hk]
    · rw [replaceFirst_of_notMem hk, List.filterMap_append]
      simp only [List.filterMap_cons, hx, List.filterMap_nil]
      exact List.nodup_append.2 ⟨h, List.nodup_singleton k, fun a ha b hb =>
        fun hab => hk (by rw [List.mem_singleton.1 hb] at hab; exact hab ▸ ha)⟩

/-- Inserting a list keeps keys unique. -/
lemma unique_foldl {xs : List α} (h : Unique key xs) (ys : List α) :
    Unique key (ys.foldl (upsert key) xs) := by
  induction ys generalizing xs with
  | nil => exact h
  | cons y ys ih => exact ih (unique_upsert h y)

/-- The keys of an inserted list are unique. -/
theorem unique_ofList (xs : List α) : Unique key (ofList key xs) :=
  unique_foldl (unique_nil key) xs

/-- Items whose keys are new are appended in their order. -/
lemma foldl_upsert_of_unique (xs ys : List α) (h : Unique key (xs ++ ys)) :
    ys.foldl (upsert key) xs = xs ++ ys := by
  induction ys generalizing xs with
  | nil => rw [List.append_nil]; rfl
  | cons y ys ih =>
    have hy : upsert key xs y = xs ++ [y] := by
      cases hk : key y with
      | none => exact upsert_of_none hk
      | some k =>
        simp only [upsert, hk]
        refine replaceFirst_of_notMem fun hmem => ?_
        unfold Unique at h
        rw [List.filterMap_append, List.nodup_append] at h
        exact h.2.2 k hmem k (List.mem_filterMap.2 ⟨y, List.mem_cons_self, hk⟩) rfl
    rw [List.foldl_cons, hy, ih _ (by rwa [List.append_assoc, List.singleton_append]),
      List.append_assoc, List.singleton_append]

/-- What stays of a list keeps its order when an item is put in its place. -/
lemma sublist_replaceFirst {k : κ} {x : α} {xs : List α} {p : α → Bool}
    (hp : ∀ y ∈ xs, key y = some k → p y = true → y = x) :
    (xs.filter p).Sublist (replaceFirst key k x xs) := by
  induction xs with
  | nil => exact List.nil_sublist _
  | cons y ys ih =>
    have htail := ih fun z hz => hp z (List.mem_cons_of_mem y hz)
    rw [replaceFirst, List.filter_cons]
    split
    · next hkeep =>
      split
      · next hy =>
        rw [hp y List.mem_cons_self hy hkeep]
        exact List.filter_sublist.cons_cons x
      · exact htail.cons_cons y
    · split
      · exact List.filter_sublist.cons x
      · exact htail.cons y

/-- **Inserting keeps the order** of the items that are there before and after. -/
theorem sublist_upsert {xs : List α} (h : Unique key xs) {x : α} {p : α → Bool}
    (hp : ∀ y ∈ xs, p y = true → y ∈ upsert key xs x) :
    (xs.filter p).Sublist (upsert key xs x) := by
  have hunique := unique_upsert h x
  cases hx : key x with
  | none =>
    rw [upsert_of_none hx]
    exact List.filter_sublist.trans (List.sublist_append_left xs [x])
  | some k =>
    have hupsert : upsert key xs x = replaceFirst key k x xs := by simp only [upsert, hx]
    rw [hupsert] at hp hunique ⊢
    refine sublist_replaceFirst fun y hy hk hkeep => ?_
    exact hunique.eq_of_key (hp y hy hkeep) (mem_replaceFirst key k x xs) hk hx

/-- A list with unique keys is not changed by inserting its items anew. -/
theorem ofList_eq_self {xs : List α} (h : Unique key xs) : ofList key xs = xs :=
  foldl_upsert_of_unique [] xs h

end Upsert

/-- A sublist of a list with unique keys has unique keys. -/
lemma Unique.sublist {key : α → Option κ} {xs ys : List α} (h : Unique key ys)
    (hs : xs.Sublist ys) : Unique key xs :=
  List.Nodup.sublist (hs.filterMap key) h

end Keyed
