import PurrceptCore.Lists.Keyed
import PurrceptCore.Models.FrozenJson
import PurrceptCore.Models.HeapGraphs

set_option relaxedAutoImplicit false
set_option autoImplicit false

/-!
# Freezing object graphs

What `freeze_json_object` (`_utils.py`) makes of a mapping of a heap in which containers may be
shared and lie on cycles: a copy in new containers, none of which can be changed.

## Main definitions

* `PurrceptCore.Heap.store` — JSON data in new containers of a heap.
* `PurrceptCore.freezeInHeap` — `freeze_json_object`, with the containers that it makes.
* `PurrceptCore.FreezesJson` — what freezing a mapping comes to.

## Main results

* `PurrceptCore.freezeInHeap_freezes` — every mapping of every heap is frozen, or rejected.

## Design

* A `MappingProxyType` and the `dict` behind it, which nothing else refers to, are one container.
* A later heap may have more containers, and other contents of the old ones.
-/

namespace PurrceptCore

open Graphs

/-! ### Heaps that grow -/

/-- A value of a heap, as a value of a larger one. -/
def PyValue.lift {n m : ℕ} (h : n ≤ m) : PyValue n → PyValue m
  | none => none
  | bool value => bool value
  | int value => int value
  | float bits => float bits
  | str value => str value
  | object id => object (id.castLE h)
  | unsupported type => unsupported type

lemma PyValue.str?_lift {n m : ℕ} (h : n ≤ m) (value : PyValue n) :
    (value.lift h).str? = value.str? := by
  cases value <;> rfl

lemma PyValue.lift_lift {n m k : ℕ} (h : n ≤ m) (h' : m ≤ k) (value : PyValue n) :
    (value.lift h).lift h' = value.lift (h.trans h') := by
  cases value <;> rfl

@[simp] lemma PyValue.lift_rfl {n : ℕ} (value : PyValue n) : value.lift le_rfl = value := by
  cases value <;> rfl

/-- The contents of a container, with values of a larger heap. -/
def Contents.lift {n m : ℕ} (h : n ≤ m) : Contents n → Contents m
  | mapping items keys_nodup => mapping (items.map fun item => (item.1.lift h, item.2.lift h)) <| by
      simpa only [List.filterMap_map, Function.comp_def, PyValue.str?_lift] using keys_nodup
  | sequence items => sequence (items.map fun item => item.lift h)
  | dataclass fields names_nodup =>
    dataclass (fields.map fun field => (field.1, field.2.lift h)) <| by
      simpa only [List.map_map, Function.comp_def] using names_nodup

/-- A container, with values of a larger heap. -/
def PyObject.lift {n m : ℕ} (h : n ≤ m) (object : PyObject n) : PyObject m :=
  ⟨object.type, object.contents.lift h⟩

lemma PyObject.lift_lift {n m k : ℕ} (h : n ≤ m) (h' : m ≤ k) (object : PyObject n) :
    (object.lift h).lift h' = object.lift (h.trans h') := by
  obtain ⟨type, contents⟩ := object
  cases contents <;> simp [lift, Contents.lift, PyValue.lift_lift]

@[simp] lemma PyObject.lift_rfl {n : ℕ} (object : PyObject n) : object.lift le_rfl = object := by
  obtain ⟨type, contents⟩ := object
  cases contents <;> simp [lift, Contents.lift]

/-- A read-only mapping or a tuple. -/
def PyObject.isReadOnly {n : ℕ} (object : PyObject n) : Bool :=
  match object.contents with
  | .mapping _ _ => object.type = .builtin "mappingproxy"
  | .sequence _ => object.type = .builtin "tuple"
  | .dataclass _ _ => false

lemma PyObject.isReadOnly_lift {n m : ℕ} (h : n ≤ m) (object : PyObject n) :
    (object.lift h).isReadOnly = object.isReadOnly := by
  obtain ⟨type, contents⟩ := object
  cases contents <;> rfl

namespace Heap

/-- The containers `P` of a heap are as they were in a later one. -/
def Keeps (heap later : Heap) (le : heap.size ≤ later.size) (P : Fin heap.size → Prop) : Prop :=
  ∀ id, P id → later.object (id.castLE le) = (heap.object id).lift le

/-- A heap with one more container. -/
def push (heap : Heap) (object : PyObject heap.size) : Heap where
  size := heap.size + 1
  object id :=
    if h : id < heap.size then (heap.object ⟨id, h⟩).lift heap.size.le_succ
    else object.lift heap.size.le_succ

lemma keeps_push (heap : Heap) (object : PyObject heap.size) (P : Fin heap.size → Prop) :
    heap.Keeps (heap.push object) heap.size.le_succ P :=
  fun id _ => dif_pos id.isLt

lemma push_last (heap : Heap) (object : PyObject heap.size) :
    (heap.push object).object (Fin.last heap.size) = object.lift heap.size.le_succ :=
  dif_neg heap.size.lt_irrefl

/-- The JSON tree of a value depends on the containers that are looked into only. -/
lemma Denotes.lift {heap later : Heap} {le : heap.size ≤ later.size} {P : Fin heap.size → Prop}
    {Q : Fin later.size → Prop} (hkeeps : heap.Keeps later le P)
    (hPQ : ∀ id, P id → Q (id.castLE le)) {value : PyValue heap.size} {json : Json}
    (h : heap.Denotes P value json) : later.Denotes Q (value.lift le) json := by
  induction h with
  | none => exact .none
  | bool value => exact .bool value
  | int value => exact .int value
  | float bits hfinite => exact .float bits hfinite
  | str value => exact .str value
  | mapping id items hkeys fields hid hcontents hnames _ ih =>
    have hlater := congrArg PyObject.contents (hkeeps id hid)
    simp only [PyObject.lift, hcontents, Contents.lift] at hlater
    refine .mapping _ _ _ fields (hPQ id hid) hlater ?_ ?_
    · have hlift := congrArg (List.map (PyValue.lift le)) hnames
      rw [List.map_map, List.map_map] at hlift
      rw [List.map_map]
      exact hlift
    · rw [List.zip_map_left, List.forall_mem_map]
      exact ih
  | sequence id items jsons hid hcontents hlength _ ih =>
    have hlater := congrArg PyObject.contents (hkeeps id hid)
    simp only [PyObject.lift, hcontents, Contents.lift] at hlater
    refine .sequence _ _ jsons (hPQ id hid) hlater ?_ ?_
    · rw [List.length_map, hlength]
    · rw [List.zip_map_left, List.forall_mem_map]
      exact ih
  | dataclass id attributes hattributes fields hid hcontents hnames _ ih =>
    have hlater := congrArg PyObject.contents (hkeeps id hid)
    simp only [PyObject.lift, hcontents, Contents.lift] at hlater
    refine .dataclass _ _ _ fields (hPQ id hid) hlater ?_ ?_
    · rw [List.map_map]
      exact hnames
    · rw [List.zip_map_left, List.forall_mem_map]
      exact ih

/-! ### New containers -/

/-- A heap that has grown, with something in it. -/
structure Stored (heap : Heap) (α : ℕ → Type) where
  later : Heap
  le : heap.size ≤ later.size
  value : α later.size

/-- The key of an item of a `dict`. -/
def itemKey {n : ℕ} (item : String × PyValue n) : Option String := some item.1

/-- `MappingProxyType` of a `dict` that is filled with the items one by one. -/
def mappingProxy {n : ℕ} (items : List (String × PyValue n)) : PyObject n where
  type := .builtin "mappingproxy"
  contents := .mapping ((Keyed.ofList itemKey items).map fun item => (.str item.1, item.2)) <| by
    rw [List.filterMap_map]
    exact Keyed.unique_ofList items

/-- `tuple` of some items. -/
def tuple {n : ℕ} (items : List (PyValue n)) : PyObject n := ⟨.builtin "tuple", .sequence items⟩

mutual

/-- JSON data in new containers: those of its items are made before its own. -/
def store : Json → (heap : Heap) → Stored heap PyValue
  | .null, heap => ⟨heap, le_rfl, .none⟩
  | .bool value, heap => ⟨heap, le_rfl, .bool value⟩
  | .int value, heap => ⟨heap, le_rfl, .int value⟩
  | .float bits, heap => ⟨heap, le_rfl, .float bits⟩
  | .str value, heap => ⟨heap, le_rfl, .str value⟩
  | .array items, heap =>
    let ⟨later, le, values⟩ := storeItems items heap
    ⟨later.push (tuple values), le.trans later.size.le_succ, .object (Fin.last later.size)⟩
  | .object fields, heap =>
    let ⟨later, le, items⟩ := storeFields fields heap
    ⟨later.push (mappingProxy items), le.trans later.size.le_succ, .object (Fin.last later.size)⟩

/-- The items of an array, from the first one to the last. -/
def storeItems : List Json → (heap : Heap) → Stored heap fun n => List (PyValue n)
  | [], heap => ⟨heap, le_rfl, []⟩
  | item :: items, heap =>
    let ⟨later, le, value⟩ := store item heap
    let ⟨last, le', values⟩ := storeItems items later
    ⟨last, le.trans le', value.lift le' :: values⟩

/-- The fields of an object, from the first one to the last. -/
def storeFields : List (String × Json) → (heap : Heap) →
    Stored heap fun n => List (String × PyValue n)
  | [], heap => ⟨heap, le_rfl, []⟩
  | (key, item) :: fields, heap =>
    let ⟨later, le, value⟩ := store item heap
    let ⟨last, le', items⟩ := storeFields fields later
    ⟨last, le.trans le', (key, value.lift le') :: items⟩

end

/-- A read-only container that `heap` does not have. -/
def IsFresh (heap later : Heap) (id : Fin later.size) : Prop :=
  heap.size ≤ id ∧ (later.object id).isReadOnly = true

/-- A heap has grown, and holds some JSON data in new read-only containers. -/
structure Stored.Holds {heap : Heap} (stored : Stored heap PyValue) (json : Json) : Prop where
  keeps : heap.Keeps stored.later stored.le fun _ => True
  denotes : stored.later.Denotes (IsFresh heap stored.later) stored.value json

lemma keeps_refl (heap : Heap) (P : Fin heap.size → Prop) : heap.Keeps heap le_rfl P :=
  fun id _ => (PyObject.lift_rfl (heap.object id)).symm

section Growing

variable {heap later last : Heap} {le : heap.size ≤ later.size} {le' : later.size ≤ last.size}

lemma Keeps.trans (h : heap.Keeps later le fun _ => True)
    (h' : later.Keeps last le' fun _ => True) : heap.Keeps last (le.trans le') fun _ => True := by
  intro id _
  rw [← PyObject.lift_lift le le', ← h id trivial, ← h' (id.castLE le) trivial]
  rfl

/-- What is new stays new. -/
lemma IsFresh.lift (h : later.Keeps last le' fun _ => True) (id : Fin later.size)
    (hid : heap.IsFresh later id) : heap.IsFresh last (id.castLE le') := by
  refine ⟨hid.1, ?_⟩
  rw [h id trivial, PyObject.isReadOnly_lift]
  exact hid.2

/-- What is new later is new. -/
lemma IsFresh.of_le (le : heap.size ≤ later.size) (id : Fin last.size)
    (hid : later.IsFresh last id) : heap.IsFresh last id :=
  ⟨le.trans hid.1, hid.2⟩

/-- A container that is pushed is new. -/
lemma isFresh_last (le : heap.size ≤ later.size) {object : PyObject later.size}
    (h : object.isReadOnly = true) :
    heap.IsFresh (later.push object) (Fin.last later.size) := by
  refine ⟨le, ?_⟩
  rw [push_last]
  exact (object.isReadOnly_lift _).trans h

end Growing

section Containers

variable {heap later : Heap} {le : heap.size ≤ later.size} {P : Fin heap.size → Prop}
  {Q : Fin later.size → Prop} {id : Fin later.size}

/-- The JSON tree of a new tuple. -/
lemma denotes_tuple (hkeeps : heap.Keeps later le P) (hPQ : ∀ id, P id → Q (id.castLE le))
    (hid : Q id) {values : List (PyValue heap.size)}
    (hobject : later.object id = (tuple values).lift le) {items : List Json}
    (hlength : values.length = items.length)
    (hvalues : ∀ m ∈ values.zip items, heap.Denotes P m.1 m.2) :
    later.Denotes Q (.object id) (.array items) := by
  refine .sequence _ _ items hid (congrArg PyObject.contents hobject) ?_ ?_
  · rw [List.length_map, hlength]
  · rw [List.zip_map_left, List.forall_mem_map]
    intro m hm
    exact (hvalues m hm).lift hkeeps hPQ

/-- The JSON tree of a new read-only mapping. -/
lemma denotes_mappingProxy (hkeeps : heap.Keeps later le P) (hPQ : ∀ id, P id → Q (id.castLE le))
    (hid : Q id) {items : List (String × PyValue heap.size)}
    (hobject : later.object id = (mappingProxy items).lift le) {fields : JsonObject}
    (hkeys : (fields.map Prod.fst).Nodup) (hnames : items.map Prod.fst = fields.map Prod.fst)
    (hvalues : ∀ m ∈ items.zip fields, heap.Denotes P m.1.2 m.2.2) :
    later.Denotes Q (.object id) (.object fields) := by
  have hitems : Keyed.ofList itemKey items = items := by
    refine Keyed.ofList_eq_self ?_
    unfold Keyed.Unique
    rw [← hnames, ← List.filterMap_eq_map] at hkeys
    exact hkeys
  refine .mapping _ _ _ fields hid (congrArg PyObject.contents hobject) ?_ ?_
  · rw [hitems, List.map_map, List.map_map]
    have hstr := congrArg (List.map (PyValue.str (n := later.size))) hnames
    rw [List.map_map, List.map_map] at hstr
    exact hstr
  · rw [hitems, List.map_map, List.zip_map_left, List.forall_mem_map]
    intro m hm
    exact (hvalues m hm).lift hkeeps hPQ

end Containers

/-- The items of an array are held by the heap that has grown. -/
lemma storeItems_holds {items : List Json}
    (h : ∀ item ∈ items, ∀ heap, (store item heap).Holds item) (heap : Heap) :
    heap.Keeps (storeItems items heap).later (storeItems items heap).le (fun _ => True) ∧
      (storeItems items heap).value.length = items.length ∧
      ∀ m ∈ (storeItems items heap).value.zip items, (storeItems items heap).later.Denotes
        (heap.IsFresh (storeItems items heap).later) m.1 m.2 := by
  induction items generalizing heap with
  | nil => exact ⟨heap.keeps_refl _, rfl, fun m hm => absurd hm List.not_mem_nil⟩
  | cons item items ih =>
    have hall := List.forall_mem_cons.1 h
    have hitem := hall.1 heap
    obtain ⟨hkeeps, hlength, hvalues⟩ := ih hall.2 (store item heap).later
    refine ⟨hitem.keeps.trans hkeeps, congrArg Nat.succ hlength, List.forall_mem_cons.2 ⟨?_, ?_⟩⟩
    · refine hitem.denotes.lift (fun id _ => hkeeps id trivial) fun id hid => ?_
      exact hid.lift hkeeps
    · intro m hm
      exact (hvalues m hm).mono fun id => IsFresh.of_le (store item heap).le id

/-- The fields of an object are held by the heap that has grown. -/
lemma storeFields_holds {fields : JsonObject}
    (h : ∀ field ∈ fields, ∀ heap, (store field.2 heap).Holds field.2) (heap : Heap) :
    heap.Keeps (storeFields fields heap).later (storeFields fields heap).le (fun _ => True) ∧
      (storeFields fields heap).value.map Prod.fst = fields.map Prod.fst ∧
      ∀ m ∈ (storeFields fields heap).value.zip fields, (storeFields fields heap).later.Denotes
        (heap.IsFresh (storeFields fields heap).later) m.1.2 m.2.2 := by
  induction fields generalizing heap with
  | nil => exact ⟨heap.keeps_refl _, rfl, fun m hm => absurd hm List.not_mem_nil⟩
  | cons field fields ih =>
    obtain ⟨key, item⟩ := field
    have hall := List.forall_mem_cons.1 h
    have hitem := hall.1 heap
    obtain ⟨hkeeps, hnames, hvalues⟩ := ih hall.2 (store item heap).later
    refine ⟨hitem.keeps.trans hkeeps, congrArg (key :: ·) hnames,
      List.forall_mem_cons.2 ⟨?_, ?_⟩⟩
    · refine hitem.denotes.lift (fun id _ => hkeeps id trivial) fun id hid => ?_
      exact hid.lift hkeeps
    · intro m hm
      exact (hvalues m hm).mono fun id => IsFresh.of_le (store item heap).le id

/-- **JSON data is held by the heap that has grown.** -/
theorem store_holds {json : Json} (h : json.WellFormed) (heap : Heap) :
    (store json heap).Holds json := by
  induction h generalizing heap with
  | null => exact ⟨heap.keeps_refl _, .none⟩
  | bool value => exact ⟨heap.keeps_refl _, .bool value⟩
  | int value => exact ⟨heap.keeps_refl _, .int value⟩
  | float bits hfinite => exact ⟨heap.keeps_refl _, .float bits hfinite⟩
  | str value => exact ⟨heap.keeps_refl _, .str value⟩
  | array items _ ih =>
    obtain ⟨hkeeps, hlength, hvalues⟩ := storeItems_holds ih heap
    refine ⟨hkeeps.trans (keeps_push _ _ _), ?_⟩
    exact denotes_tuple (keeps_push _ _ _) (fun id hid => hid.lift (keeps_push _ _ _))
      (isFresh_last (storeItems items heap).le rfl) (push_last _ _) hlength hvalues
  | object fields hkeys _ ih =>
    obtain ⟨hkeeps, hnames, hvalues⟩ := storeFields_holds ih heap
    refine ⟨hkeeps.trans (keeps_push _ _ _), ?_⟩
    exact denotes_mappingProxy (keeps_push _ _ _) (fun id hid => hid.lift (keeps_push _ _ _))
      (isFresh_last (storeFields fields heap).le rfl) (push_last _ _) hkeys hnames hvalues

end Heap

/-! ### Freezing -/

/-- `TypeError` or `ValueError`. -/
def Failure.IsTypeOrValueError : Failure → Prop
  | .typeError _ | .valueError _ => True
  | _ => False

/-- A mapping or a sequence. -/
def Heap.IsMappingOrSequence (heap : Heap) (id : Fin heap.size) : Prop :=
  match (heap.object id).contents with
  | .mapping _ _ | .sequence _ => True
  | .dataclass _ _ => False

/-- `freeze_json_object`, with the containers that it makes. -/
def freezeInHeap (heap : Heap) (value : PyValue heap.size) (fieldName : String) :
    Except Failure (heap.Stored PyValue) := do
  let fields ← freezeJsonObject heap value fieldName
  return Heap.store (.object fields) heap

/-- A copy with the data `json`, in a heap that has grown. -/
structure Heap.Stored.IsFrozenCopy {heap : Heap} (frozen : heap.Stored PyValue) (json : Json) :
    Prop where
  /-- Freezing changes no container of the input. -/
  keeps : heap.Keeps frozen.later frozen.le fun _ => True
  /-- The copy has the data. -/
  denotes : frozen.later.Denotes (fun _ => True) frozen.value json
  /-- The copy consists of new read-only mappings and tuples. -/
  fresh : ∀ id, frozen.later.Reaches (fun _ => True) frozen.value (.object id) →
    heap.IsFresh frozen.later id
  /-- The copy has this data, and no other, whatever becomes of the containers of the input. -/
  stays : ∀ (later : Heap) (le : frozen.later.size ≤ later.size),
    frozen.later.Keeps later le (fun id => heap.size ≤ id) →
      ∀ json', later.Denotes (fun _ => True) (frozen.value.lift le) json' ↔ json' = json
  /-- Freezing the copy gives an equal one. -/
  again : ∀ fieldName, ∃ again, freezeInHeap frozen.later frozen.value fieldName = .ok again ∧
    again.later.Denotes (fun _ => True) again.value json

/-- What freezing a mapping comes to. -/
structure FreezesJson (heap : Heap) (value : PyValue heap.size) (fieldName : String) : Prop where
  /-- The recursion is never deeper than the heap has containers, and no container is left in the
  set of active ones. -/
  terminates : ∀ fuel, heap.size < fuel → (freezeJson heap fieldName).visit fuel [] value [] =
    some ((freezeJson heap fieldName).run value, [])
  /-- What is JSON data is accepted, and nothing else. -/
  accepts : (∃ frozen, freezeInHeap heap value fieldName = .ok frozen) ↔
    heap.Convertible heap.IsMappingOrSequence value
  /-- What is not accepted raises. -/
  raises : ∀ failure, freezeInHeap heap value fieldName = .error failure →
    failure.IsTypeOrValueError
  /-- What is accepted is copied. -/
  copies : ∀ frozen, freezeInHeap heap value fieldName = .ok frozen →
    ∃ json, heap.Denotes heap.IsMappingOrSequence value json ∧ frozen.IsFrozenCopy json

lemma converts_freezeJson (heap : Heap) (fieldName : String) :
    heap.Converts heap.IsMappingOrSequence (freezeJson heap fieldName) where
  none := rfl
  bool _ := rfl
  int _ := rfl
  float bits h := if_pos h
  str _ := rfl
  container id hid := by
    unfold Heap.IsMappingOrSequence at hid
    cases hcontents : (heap.object id).contents with
    | mapping items hkeys => simp only [freezeJson, hcontents]
    | sequence items => simp only [freezeJson, hcontents]
    | dataclass attributes hattributes =>
      rw [hcontents] at hid
      exact hid.elim
  unsupported value h := by
    cases value with
    | float bits => exact ⟨_, if_neg h⟩
    | object id =>
      cases hcontents : (heap.object id).contents with
      | mapping items hkeys => simp [Heap.Supported, Heap.IsMappingOrSequence, hcontents] at h
      | sequence items => simp [Heap.Supported, Heap.IsMappingOrSequence, hcontents] at h
      | dataclass attributes hattributes =>
        refine ⟨unsupportedJson fieldName (heap.object id).type, ?_⟩
        simp only [freezeJson, hcontents]
    | unsupported type => exact ⟨_, rfl⟩
    | _ => exact absurd trivial h
  mapping id items hkeys hcontents := by
    constructor
    · refine ⟨fun path => .typeError
        (jsonPath fieldName path ++ " must contain only string object keys."), ?_⟩
      simp only [freezeJson, hcontents]
    · funext members
      simp only [freezeJson, hcontents]
  sequence id items hcontents := by
    constructor
    · simp only [freezeJson, hcontents]
    · funext members
      simp only [freezeJson, hcontents]
  dataclass id attributes hattributes hid hcontents := by
    simp only [Heap.IsMappingOrSequence, hcontents] at hid

/-- Freezing returns the JSON tree of a mapping, whenever there is one. -/
lemma freezeJsonObject_eq_ok_iff {heap : Heap} {value : PyValue heap.size}
    (hmapping : heap.isMapping value = true) {fieldName : String} {fields : JsonObject} :
    freezeJsonObject heap value fieldName = .ok fields ↔
      heap.Denotes heap.IsMappingOrSequence value (.object fields) := by
  rw [freezeJsonObject_eq_ok, (converts_freezeJson heap fieldName).unfolds_iff]
  exact and_iff_right hmapping

/-- Every error of freezing is a `TypeError` or a `ValueError`. -/
lemma freezeJson_error {heap : Heap} {value : PyValue heap.size} {fieldName : String}
    {failure : Failure} (h : (freezeJson heap fieldName).run value = .error failure) :
    failure.IsTypeOrValueError := by
  refine Walk.walk_error (fun path => trivial) (fun id e path hmember => ?_)
    (fun v e path hview => ?_) h
  · cases hcontents : (heap.object id).contents with
    | mapping items hkeys =>
      simp only [freezeJson, hcontents] at hmember
      rw [Heap.eq_keyError_of_mem hmember]
      trivial
    | sequence items =>
      simp only [freezeJson, hcontents] at hmember
      exact absurd hmember Heap.error_notMem_sequenceMembers
    | dataclass attributes hattributes =>
      simp only [freezeJson, hcontents] at hmember
      exact absurd hmember List.not_mem_nil
  · cases v with
    | float bits =>
      by_cases hfinite : isFinite bits = true
      · simp only [freezeJson, hfinite, if_true] at hview
        cases hview
      · simp only [freezeJson, if_neg hfinite] at hview
        cases hview
        trivial
    | object id =>
      cases hcontents : (heap.object id).contents with
      | mapping items hkeys =>
        simp only [freezeJson, hcontents] at hview
        cases hview
      | sequence items =>
        simp only [freezeJson, hcontents] at hview
        cases hview
      | dataclass attributes hattributes =>
        simp only [freezeJson, hcontents] at hview
        cases hview
        trivial
    | unsupported type =>
      cases hview
      trivial
    | _ => cases hview

/-- Freezing at the level of heaps. -/
lemma freezeInHeap_eq_ok {heap : Heap} {value : PyValue heap.size} {fieldName : String}
    {frozen : heap.Stored PyValue} : freezeInHeap heap value fieldName = .ok frozen ↔
      ∃ fields, freezeJsonObject heap value fieldName = .ok fields ∧
        frozen = Heap.store (.object fields) heap := by
  unfold freezeInHeap
  cases freezeJsonObject heap value fieldName with
  | error failure =>
    constructor
    · intro h
      cases h
    · rintro ⟨fields, h, -⟩
      cases h
  | ok fields =>
    constructor
    · intro h
      cases h
      exact ⟨fields, rfl, rfl⟩
    · rintro ⟨fields', h, rfl⟩
      cases h
      rfl

/-- A read-only container is a mapping or a sequence. -/
lemma Heap.isMappingOrSequence_of_isReadOnly {heap : Heap} {id : Fin heap.size}
    (h : (heap.object id).isReadOnly = true) : heap.IsMappingOrSequence id := by
  unfold Heap.IsMappingOrSequence
  unfold PyObject.isReadOnly at h
  cases hcontents : (heap.object id).contents with
  | mapping items hkeys => trivial
  | sequence items => trivial
  | dataclass attributes hattributes =>
    rw [hcontents] at h
    cases h

/-- JSON data in new containers is a frozen copy. -/
lemma Heap.isFrozenCopy_store {fields : JsonObject} (h : (Json.object fields).WellFormed)
    (heap : Heap) : (store (.object fields) heap).IsFrozenCopy (.object fields) := by
  have hholds := store_holds h heap
  refine ⟨hholds.keeps, hholds.denotes.mono fun _ _ => trivial, fun id hid => ?_,
    fun later le hkeeps json' => ?_, fun fieldName => ?_⟩
  · obtain ⟨json, hjson⟩ := hholds.denotes.of_reaches hid
    exact hjson.container
  · have hlater : later.Denotes (fun _ => True) ((store (.object fields) heap).value.lift le)
        (.object fields) :=
      hholds.denotes.lift (fun id hid => hkeeps id hid.1) fun _ _ => trivial
    constructor
    · intro hjson'
      exact hjson'.unique hlater
    · rintro rfl
      exact hlater
  · have hdenotes : (store (.object fields) heap).later.Denotes
        (store (.object fields) heap).later.IsMappingOrSequence
        (store (.object fields) heap).value (.object fields) :=
      hholds.denotes.mono fun id hid => isMappingOrSequence_of_isReadOnly hid.2
    have hunfolds := (converts_freezeJson _ fieldName).unfolds_iff.2 hdenotes
    have hagain := freezeJsonObject_eq_ok.2 ⟨isMapping_of_unfolds hunfolds, hunfolds⟩
    refine ⟨_, freezeInHeap_eq_ok.2 ⟨fields, hagain, rfl⟩, ?_⟩
    exact (store_holds h _).denotes.mono fun _ _ => trivial

/-- **Every mapping of every heap is frozen or rejected**, however its containers are shared and
whatever cycles there are: the conversion terminates, accepts what is JSON data and raises a
`TypeError` or a `ValueError` otherwise, and gives a copy of the data which nothing can change. -/
theorem freezeInHeap_freezes {heap : Heap} {value : PyValue heap.size}
    (hmapping : heap.isMapping value = true) (fieldName : String) :
    FreezesJson heap value fieldName where
  terminates fuel hfuel := Walk.visit_eq_run (by rwa [Fintype.card_fin]) value
  accepts := by
    rw [← (converts_freezeJson heap fieldName).exists_denotes_iff]
    constructor
    · rintro ⟨frozen, hfrozen⟩
      obtain ⟨fields, hfields, -⟩ := freezeInHeap_eq_ok.1 hfrozen
      exact ⟨_, (freezeJsonObject_eq_ok_iff hmapping).1 hfields⟩
    · rintro ⟨json, hjson⟩
      have hunfolds := (converts_freezeJson heap fieldName).unfolds_iff.2 hjson
      rw [Json.eq_object_of_isMapping hmapping hunfolds] at hjson
      exact ⟨_, freezeInHeap_eq_ok.2 ⟨_, (freezeJsonObject_eq_ok_iff hmapping).2 hjson, rfl⟩⟩
  raises failure hfailure := by
    unfold freezeInHeap freezeJsonObject at hfailure
    simp only [hmapping, Bool.not_true, Bool.false_eq_true, if_false] at hfailure
    cases hrun : (freezeJson heap fieldName).run value with
    | error e =>
      rw [hrun] at hfailure
      cases hfailure
      exact freezeJson_error hrun
    | ok json =>
      rw [hrun] at hfailure
      cases hfailure
  copies frozen hfrozen := by
    obtain ⟨fields, hfields, rfl⟩ := freezeInHeap_eq_ok.1 hfrozen
    have hdenotes := (freezeJsonObject_eq_ok_iff hmapping).1 hfields
    exact ⟨.object fields, hdenotes, Heap.isFrozenCopy_store hdenotes.wellFormed heap⟩

/-- The heap of `{"first": shared, "second": {"third": shared}}` with `shared = [[3]]`. -/
def sharedHeap : Heap where
  size := 4
  object
    | 0 => ⟨.builtin "dict",
      .mapping [(.str "first", .object 1), (.str "second", .object 3)] (by decide)⟩
    | 1 => ⟨.builtin "list", .sequence [.object 2]⟩
    | 2 => ⟨.builtin "list", .sequence [.int 3]⟩
    | 3 => ⟨.builtin "dict", .mapping [(.str "third", .object 1)] (List.nodup_singleton _)⟩

/-- The mapping itself. -/
def sharedValue : PyValue sharedHeap.size := .object (0 : Fin 4)

/-- A list that is shared at two depths is copied twice. -/
theorem freezeInHeap_freezes_shared : FreezesJson sharedHeap sharedValue "arguments" ∧
    freezeJsonObject sharedHeap sharedValue "arguments" =
      .ok [("first", .array [.array [.int 3]]),
        ("second", .object [("third", .array [.array [.int 3]])])] := by
  exact ⟨freezeInHeap_freezes rfl "arguments", freezeJsonObject_eq_ok.2 ⟨rfl, 4, rfl⟩⟩

end PurrceptCore
