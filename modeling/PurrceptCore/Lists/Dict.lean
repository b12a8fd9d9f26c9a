import PurrceptCore.Lists.Keyed

set_option relaxedAutoImplicit false
set_option autoImplicit false

/-!
# Insertion-ordered dictionaries

## Main definitions

* `Dict` — items with distinct keys, in the order in which the keys were inserted.
* `Dict.get?`, `Dict.insert`, `Dict.update` — lookup, insertion, and insertion of all items of
  another dictionary.

## Main results

* `Dict.get?_update`, `Dict.keys_update` — what is in an updated dictionary, and in which order.
* `Dict.ext_of_get?` — a dictionary is determined by its keys and what they have.
* `Dict.update_assoc` — updating twice is updating by the updated dictionary.
-/

/-- A dictionary that keeps the order in which its keys were inserted. -/
structure Dict (κ α : Type) where
  items : List (κ × α)
  nodup : (items.map Prod.fst).Nodup

namespace Dict

variable {κ α β : Type}

/-- The keys, in order. -/
def keys (d : Dict κ α) : List κ := d.items.map Prod.fst

/-- The dictionary without items. -/
def empty : Dict κ α := ⟨[], List.nodup_nil⟩

/-- Dictionaries with the same items are equal. -/
lemma ext_items {d e : Dict κ α} (h : d.items = e.items) : d = e := by
  cases d
  cases e
  cases h
  rfl

/-- The key of an item, of which no item is without. -/
def itemKey (item : κ × α) : Option κ := some item.1

lemma filterMap_itemKey (items : List (κ × α)) :
    items.filterMap itemKey = items.map Prod.fst :=
  List.filterMap_eq_map_iff_forall_eq_some.2 fun _ _ => rfl

lemma unique_itemKey {items : List (κ × α)} :
    Keyed.Unique itemKey items ↔ (items.map Prod.fst).Nodup := by
  rw [Keyed.Unique, filterMap_itemKey]

variable [DecidableEq κ]

/-- What a key has. -/
def get? (d : Dict κ α) (k : κ) : Option α := d.items.lookup k

/-- Insert an item: in the place of the one with its key, or at the end. -/
def insert (d : Dict κ α) (k : κ) (a : α) : Dict κ α :=
  ⟨Keyed.upsert itemKey d.items (k, a),
    unique_itemKey.1 (Keyed.unique_upsert (unique_itemKey.2 d.nodup) (k, a))⟩

/-- Insert items one by one. -/
def insertAll (d : Dict κ α) (items : List (κ × α)) : Dict κ α :=
  items.foldl (fun d item => d.insert item.1 item.2) d

/-- Insert the items of another dictionary. -/
def update (d e : Dict κ α) : Dict κ α := d.insertAll e.items

variable {d e f : Dict κ α} {k j : κ} {a : α} {items : List (κ × α)}

/-! ### Keys and lookups -/

/-- The keys are those that have something. -/
lemma mem_keys_iff : k ∈ d.keys ↔ ∃ a, d.get? k = some a := by
  rw [← Option.isSome_iff_exists, get?, List.lookup_isSome_iff, keys, List.mem_map]
  constructor
  · rintro ⟨item, hitem, rfl⟩
    exact ⟨item, hitem, beq_self_eq_true _⟩
  · rintro ⟨item, hitem, hk⟩
    exact ⟨item, hitem, (beq_iff_eq.1 hk).symm⟩

lemma get?_eq_none_iff : d.get? k = none ↔ k ∉ d.keys := by
  rw [mem_keys_iff, Option.eq_none_iff_forall_ne_some]
  exact not_exists.symm

lemma lookup_cons_eq (item : κ × α) : (item :: items).lookup k =
    if k = item.1 then some item.2 else items.lookup k := by
  rw [List.lookup_cons]
  by_cases h : k = item.1
  · rw [if_pos h, beq_iff_eq.2 h]
  · rw [if_neg h, beq_eq_false_iff_ne.2 h]

lemma lookup_replaceFirst : (Keyed.replaceFirst itemKey k (k, a) items).lookup j =
    if j = k then some a else items.lookup j := by
  induction items with
  | nil => exact lookup_cons_eq (k, a)
  | cons item items ih =>
    rw [Keyed.replaceFirst]
    by_cases hitem : item.1 = k
    · have hkey : itemKey item = some k := congrArg some hitem
      rw [if_pos hkey, lookup_cons_eq, lookup_cons_eq, hitem]
      split_ifs <;> rfl
    · have hkey : itemKey item ≠ some k := fun h => hitem (Option.some.inj h)
      rw [if_neg hkey, lookup_cons_eq, lookup_cons_eq, ih]
      by_cases hj : j = item.1
      · rw [if_pos hj, if_pos hj, if_neg (hj ▸ hitem)]
      · rw [if_neg hj, if_neg hj]

/-- **Lookup after an insertion.** -/
theorem get?_insert : (d.insert k a).get? j = if j = k then some a else d.get? j :=
  lookup_replaceFirst

/-- The keys after an insertion. -/
theorem keys_insert :
    (d.insert k a).keys = if k ∈ d.keys then d.keys else d.keys ++ [k] := by
  have hkeys (items : List (κ × α)) : items.map Prod.fst = items.filterMap itemKey :=
    (filterMap_itemKey items).symm
  show (Keyed.replaceFirst itemKey k (k, a) d.items).map Prod.fst = _
  unfold keys
  split
  · next hk =>
    rw [hkeys] at hk ⊢
    rw [hkeys]
    have hkey : itemKey (k, a) = some k := rfl
    exact Keyed.filterMap_replaceFirst_of_mem hkey hk
  · next hk =>
    rw [hkeys] at hk
    rw [Keyed.replaceFirst_of_notMem hk, List.map_append, List.map_singleton]

/-- An item with a new key is appended. -/
lemma items_insert_of_notMem (h : k ∉ d.keys) : (d.insert k a).items = d.items ++ [(k, a)] := by
  rw [keys, ← filterMap_itemKey] at h
  exact Keyed.replaceFirst_of_notMem h

/-- What an item of a dictionary has. -/
lemma get?_of_mem {item : κ × α} (h : item ∈ d.items) : d.get? item.1 = some item.2 := by
  obtain ⟨a, ha⟩ := mem_keys_iff.1 (List.mem_map_of_mem h)
  obtain ⟨before, after, hitems, -⟩ := List.lookup_eq_some_iff.1 ha
  have hmem : (item.1, a) ∈ d.items := by
    rw [hitems]
    exact List.mem_append_right _ List.mem_cons_self
  have hsame : (item.1, a) = item := (unique_itemKey.2 d.nodup).eq_of_key hmem h rfl rfl
  rw [ha, ← congrArg Prod.snd hsame]

/-- **A dictionary is determined by its keys and by what they have.** -/
theorem ext_of_get? (hkeys : d.keys = e.keys) (h : ∀ k, d.get? k = e.get? k) : d = e := by
  have hitems (d : Dict κ α) :
      d.items = d.keys.filterMap fun k => (d.get? k).map (Prod.mk k) := by
    rw [keys, List.filterMap_map]
    refine (List.filterMap_some.symm.trans (List.filterMap_congr fun item hitem => ?_))
    rw [Function.comp_apply, get?_of_mem hitem]
    rfl
  apply ext_items
  rw [hitems d, hitems e, hkeys]
  exact List.filterMap_congr fun k _ => by rw [h k]

/-! ### Updates -/

/-- **Lookup after an update**: what the other dictionary has comes first. -/
theorem get?_update : (d.update e).get? k = (e.get? k).or (d.get? k) := by
  obtain ⟨items, hnodup⟩ := e
  show (d.insertAll items).get? k = (items.lookup k).or (d.get? k)
  induction items generalizing d with
  | nil => rfl
  | cons item items ih =>
    rw [List.map_cons, List.nodup_cons] at hnodup
    show ((d.insert item.1 item.2).insertAll items).get? k = _
    rw [ih hnodup.2, get?_insert, lookup_cons_eq]
    by_cases hk : k = item.1
    · have hnone : get? ⟨items, hnodup.2⟩ k = none := get?_eq_none_iff.2 (hk ▸ hnodup.1)
      rw [get?] at hnone
      rw [if_pos hk, if_pos hk, hnone]
      rfl
    · rw [if_neg hk, if_neg hk]

/-- The keys of an update: those that are new stand at the end. -/
theorem keys_update : (d.update e).keys = d.keys ++ e.keys.filter fun k => k ∉ d.keys := by
  obtain ⟨items, hnodup⟩ := e
  show (d.insertAll items).keys = d.keys ++ (items.map Prod.fst).filter fun k => k ∉ d.keys
  induction items generalizing d with
  | nil => exact (List.append_nil _).symm
  | cons item items ih =>
    rw [List.map_cons, List.nodup_cons] at hnodup
    show ((d.insert item.1 item.2).insertAll items).keys = _
    rw [ih hnodup.2, keys_insert, List.map_cons]
    by_cases hk : item.1 ∈ d.keys
    · rw [if_pos hk, List.filter_cons_of_neg (by simpa using hk)]
    · rw [if_neg hk, List.filter_cons_of_pos (by simpa using hk), List.append_assoc,
        List.singleton_append]
      congr 2
      refine List.filter_congr fun k hk' => ?_
      have hne : k ≠ item.1 := fun h => hnodup.1 (h ▸ hk')
      simp [hne]

lemma mem_keys_update : k ∈ (d.update e).keys ↔ k ∈ d.keys ∨ k ∈ e.keys := by
  rw [keys_update, List.mem_append, List.mem_filter, decide_eq_true_iff]
  tauto

/-- **Updating twice is updating by the updated dictionary.** -/
theorem update_assoc : (d.update e).update f = d.update (e.update f) := by
  refine ext_of_get? ?_ fun k => ?_
  · rw [keys_update, keys_update, keys_update, keys_update, List.filter_append, List.filter_filter,
      List.append_assoc]
    congr 2
    refine List.filter_congr fun k _ => ?_
    by_cases hd : k ∈ d.keys <;> by_cases he : k ∈ e.keys <;> simp [hd, he]
  · rw [get?_update, get?_update, get?_update, get?_update, Option.or_assoc]

@[simp] lemma empty_update : empty.update d = d := by
  refine ext_of_get? ?_ fun k => ?_
  · rw [keys_update]
    exact List.filter_eq_self.2 fun k _ => decide_eq_true List.not_mem_nil
  · rw [get?_update]
    exact Option.or_none

end Dict
