import Mathlib.Data.String.Basic
import PurrceptCore.Lists.StableSort
import PurrceptCore.Models.HeapGraphs
import PurrceptCore.Models.ToolEncoding

set_option relaxedAutoImplicit false
set_option autoImplicit false

/-!
# Encoding object graphs

What `encode_tool_result` (`tools/_encoding.py`) makes of a value of a heap in which dataclass
instances, mappings and sequences may be shared and lie on cycles: the text of its JSON tree, which
does not depend on the order of keys.

## Main definitions

* `PurrceptCore.Json.sortKeys` — a JSON tree with the keys of every object in order.
* `PurrceptCore.Json.Reordered` — two JSON trees that differ in the order of keys only.
* `PurrceptCore.dumpsSorted` — `json.dumps` with `sort_keys`.
* `PurrceptCore.EncodesGraph` — what encoding a value comes to.

## Main results

* `PurrceptCore.Json.Reordered.sortKeys_eq` — sorting the keys makes up for their order.
* `PurrceptCore.encodeToolResult_encodes` — every value of every heap is encoded, or rejected.

## Design

* `json.dumps` without `sort_keys` and `json.loads` are parameters, of which all that is used is
  that the text of the tree in question is read back.
* Strings are ordered by their code points.
-/

namespace PurrceptCore

open Graphs

/-! ### The order of keys -/

mutual

/-- A JSON tree with the keys of every object in order. -/
def Json.sortKeys : Json → Json
  | .null => .null
  | .bool value => .bool value
  | .int value => .int value
  | .float bits => .float bits
  | .str value => .str value
  | .array items => .array (sortItems items)
  | .object fields => .object (StableSort.byKey Prod.fst (sortFields fields))

/-- The items of an array, with the keys of their objects in order. -/
def Json.sortItems : List Json → List Json
  | [] => []
  | item :: items => item.sortKeys :: sortItems items

/-- The fields of an object as they stand, with the keys of the objects below in order. -/
def Json.sortFields : List (String × Json) → List (String × Json)
  | [] => []
  | (key, item) :: fields => (key, item.sortKeys) :: sortFields fields

end

/-- Two JSON trees differ in the order of keys only, at any depth. -/
inductive Json.Reordered : Json → Json → Prop
  | null : Reordered .null .null
  | bool (value : Bool) : Reordered (.bool value) (.bool value)
  | int (value : ℤ) : Reordered (.int value) (.int value)
  | float (bits : BitVec 64) : Reordered (.float bits) (.float bits)
  | str (value : String) : Reordered (.str value) (.str value)
  | array (items items' : List Json) (hlength : items.length = items'.length)
      (hitems : ∀ m ∈ items.zip items', Reordered m.1 m.2) :
      Reordered (.array items) (.array items')
  | object (fields fields' fields'' : JsonObject)
      (hnames : fields.map Prod.fst = fields'.map Prod.fst)
      (hvalues : ∀ m ∈ fields.zip fields', Reordered m.1.2 m.2.2) (hperm : fields'.Perm fields'') :
      Reordered (.object fields) (.object fields'')

lemma Json.sortItems_eq (items : List Json) : Json.sortItems items = items.map Json.sortKeys := by
  induction items with
  | nil => rfl
  | cons item items ih => rw [sortItems, ih, List.map_cons]

lemma Json.sortFields_eq (fields : List (String × Json)) :
    Json.sortFields fields = fields.map fun field => (field.1, field.2.sortKeys) := by
  induction fields with
  | nil => rfl
  | cons field fields ih => rw [sortFields, ih, List.map_cons]

/-- Lists with equal images, item by item. -/
lemma map_eq_map_of_zip {α β : Type} {f : α → β} {xs ys : List α} (hlength : xs.length = ys.length)
    (h : ∀ m ∈ xs.zip ys, f m.1 = f m.2) : xs.map f = ys.map f := by
  induction xs generalizing ys with
  | nil => rw [List.eq_nil_of_length_eq_zero hlength.symm]
  | cons x xs ih =>
    cases ys with
    | nil => cases hlength
    | cons y ys =>
      have hall := List.forall_mem_cons.1 h
      have hhead : f x = f y := hall.1
      rw [List.map_cons, List.map_cons, hhead, ih (Nat.succ.inj hlength) hall.2]

/-- Every item of a list beside its image. -/
lemma forall_mem_zip_map {α β : Type} {f : α → β} {p : α × β → Prop} {xs : List α} :
    (∀ m ∈ xs.zip (xs.map f), p m) ↔ ∀ x ∈ xs, p (x, f x) := by
  induction xs with
  | nil => simp
  | cons x xs ih =>
    rw [List.map_cons, List.zip_cons_cons, List.forall_mem_cons, List.forall_mem_cons, ih]

/-- **Sorting the keys makes up for their order.** -/
theorem Json.Reordered.sortKeys_eq {json json' : Json} (h : json.Reordered json')
    (hwf : json.WellFormed) : json.sortKeys = json'.sortKeys := by
  induction h with
  | array items items' hlength _ ih =>
    cases hwf with
    | array _ hall =>
      simp only [sortKeys, sortItems_eq]
      rw [map_eq_map_of_zip hlength fun m hm => ih m hm (hall m.1 (List.of_mem_zip hm).1)]
  | object fields fields' fields'' hnames _ hperm ih =>
    cases hwf with
    | object _ hkeys hall =>
      have hlength : fields.length = fields'.length := Heap.length_eq_of_map_eq hnames
      have hsame : sortFields fields = sortFields fields' := by
        rw [sortFields_eq, sortFields_eq]
        refine map_eq_map_of_zip hlength fun m hm => ?_
        rw [Heap.forall_mem_zip_of_map_eq hnames m hm,
          ih m hm (hall m.1 (List.of_mem_zip hm).1)]
      have hnodup : ((sortFields fields').map Prod.fst).Nodup := by
        rw [sortFields_eq, List.map_map]
        exact hnames ▸ hkeys
      simp only [sortKeys, hsame]
      congr 1
      refine StableSort.byKey_eq_of_perm hnodup ?_
      rw [sortFields_eq, sortFields_eq]
      exact hperm.map _
  | _ => rfl

/-- A tree is its own but for the order of keys when these are sorted. -/
theorem Json.reordered_sortKeys (json : Json) : json.Reordered json.sortKeys := by
  induction json using Json.induction with
  | null => exact .null
  | bool value => exact .bool value
  | int value => exact .int value
  | float bits => exact .float bits
  | str value => exact .str value
  | array items ih =>
    rw [sortKeys, sortItems_eq]
    refine .array items _ (List.length_map Json.sortKeys).symm ?_
    exact forall_mem_zip_map.2 ih
  | object fields ih =>
    rw [sortKeys]
    refine .object fields (sortFields fields) _ ?_ ?_ (StableSort.byKey_perm _).symm
    · rw [sortFields_eq, List.map_map]
      rfl
    · rw [sortFields_eq]
      exact forall_mem_zip_map.2 ih

/-! ### Encoding -/

/-- `json.dumps` with `sort_keys`, by `json.dumps` without it. -/
def dumpsSorted (dumps : Json → String) (json : Json) : Option String := some (dumps json.sortKeys)

/-- What encoding a value comes to. -/
structure EncodesGraph (dumps : Json → String) (loads : String → Option Json)
    (toolName : NonEmptyString) (heap : Heap) (value : PyValue heap.size) : Prop where
  /-- The recursion is never deeper than the heap has containers, and no container is left in the
  set of active ones. -/
  terminates : ∀ fuel, heap.size < fuel → (toJsonValue heap).visit fuel [] value [] =
    some ((toJsonValue heap).run value, [])
  /-- What is not JSON data is rejected, and nothing else. -/
  raises : (∃ error, encodeToolResult (dumpsSorted dumps) toolName (.other heap value) =
    .error error) ↔ ¬ heap.Convertible (fun _ => True) value
  /-- Rejecting is raising `ToolResultEncodingError`. -/
  error : ∀ error, encodeToolResult (dumpsSorted dumps) toolName (.other heap value) =
    .error error → error = toolResultEncodingError toolName (heap.type value)
  /-- What is encoded is one text block, which decodes to the JSON tree of the value. -/
  decodes : ∀ result, encodeToolResult (dumpsSorted dumps) toolName (.other heap value) =
    .ok result → ∃ json text decoded, heap.Denotes (fun _ => True) value json ∧
      result = ⟨[.text text], false⟩ ∧ loads text = some decoded ∧ json.Reordered decoded
  /-- Values whose JSON trees differ in the order of keys only have the same encoding. -/
  sameText : ∀ (heap' : Heap) (value' : PyValue heap'.size) (json json' : Json),
    heap.Denotes (fun _ => True) value json → heap'.Denotes (fun _ => True) value' json' →
      json.Reordered json' → encodeToolResult (dumpsSorted dumps) toolName (.other heap' value') =
        encodeToolResult (dumpsSorted dumps) toolName (.other heap value)

lemma converts_toJsonValue (heap : Heap) : heap.Converts (fun _ => True) (toJsonValue heap) where
  none := rfl
  bool _ := rfl
  int _ := rfl
  float bits h := if_pos h
  str _ := rfl
  container _ _ := rfl
  unsupported value h := by
    cases value with
    | float bits => exact ⟨_, if_neg h⟩
    | unsupported type => exact ⟨_, rfl⟩
    | _ => exact absurd trivial h
  mapping id items hkeys hcontents := by
    constructor
    · refine ⟨fun _ => .typeError "JSON object keys must be strings.", ?_⟩
      simp only [toJsonValue, hcontents]
    · funext members
      simp only [toJsonValue, hcontents]
  sequence id items hcontents := by
    constructor
    · simp only [toJsonValue, hcontents]
    · funext members
      simp only [toJsonValue, hcontents]
  dataclass id attributes hattributes _ hcontents := by
    constructor
    · simp only [toJsonValue, hcontents]
    · funext members
      simp only [toJsonValue, hcontents]

/-- An error of the encoding is that of a value without a JSON tree. -/
lemma encodeToolResult_isError_iff {dumps : Json → String} {toolName : NonEmptyString}
    {heap : Heap} {value : PyValue heap.size} (hstr : value.str? = none) (hnone : value ≠ .none) :
    (∃ error, encodeToolResult (dumpsSorted dumps) toolName (.other heap value) = .error error) ↔
      ¬ ∃ json, heap.Denotes (fun _ => True) value json := by
  rw [encodeToolResult_other hstr hnone]
  cases hresult : encodeJson (dumpsSorted dumps) toolName heap value with
  | ok result =>
    obtain ⟨json, text, hunfolds, -⟩ := encodeJson_ok.1 hresult
    constructor
    · rintro ⟨error, h⟩
      cases h
    · intro h
      exact absurd ⟨json, (converts_toJsonValue heap).unfolds_iff.1 hunfolds⟩ h
  | error error =>
    refine iff_of_true ⟨error, rfl⟩ ?_
    rintro ⟨json, hjson⟩
    have hunfolds := (converts_toJsonValue heap).unfolds_iff.2 hjson
    rw [encodeJson_ok.2 ⟨json, dumps json.sortKeys, hunfolds, rfl, rfl⟩] at hresult
    cases hresult

/-- A value with a JSON tree is encoded as the text of that tree. -/
lemma encodeToolResult_of_denotes {dumps : Json → String} {toolName : NonEmptyString}
    {heap : Heap} {value : PyValue heap.size} (hstr : value.str? = none) (hnone : value ≠ .none)
    {json : Json} (h : heap.Denotes (fun _ => True) value json) :
    encodeToolResult (dumpsSorted dumps) toolName (.other heap value) =
      .ok ⟨[.text (dumps json.sortKeys)], false⟩ := by
  rw [encodeToolResult_other hstr hnone]
  have hunfolds := (converts_toJsonValue heap).unfolds_iff.2 h
  exact encodeJson_ok.2 ⟨json, dumps json.sortKeys, hunfolds, rfl, rfl⟩

/-- A value is neither a string nor `None` when its JSON tree is neither. -/
lemma Json.Reordered.not_str_none {heap heap' : Heap} {value : PyValue heap.size}
    {value' : PyValue heap'.size} {json json' : Json} (hstr : value.str? = none)
    (hnone : value ≠ .none) (h : heap.Denotes (fun _ => True) value json)
    (h' : heap'.Denotes (fun _ => True) value' json') (hreordered : json.Reordered json') :
    value'.str? = none ∧ value' ≠ .none := by
  cases hreordered with
  | null =>
    cases h
    exact absurd rfl hnone
  | str text =>
    cases h
    cases hstr
  | _ =>
    cases h'
    all_goals exact ⟨rfl, by simp⟩

/-- **Every value of every heap is encoded or rejected**, however its containers are shared and
whatever cycles go through them: the conversion terminates, rejects what is not JSON data with a
`ToolResultEncodingError`, and otherwise gives a text which is read back as the JSON tree of the
value, and which is the same for all orders of keys at all depths. -/
theorem encodeToolResult_encodes {dumps : Json → String} {loads : String → Option Json}
    {heap : Heap} {value : PyValue heap.size} (hstr : value.str? = none) (hnone : value ≠ .none)
    (hloads : ∀ json, heap.Denotes (fun _ => True) value json →
      loads (dumps json.sortKeys) = some json.sortKeys) (toolName : NonEmptyString) :
    EncodesGraph dumps loads toolName heap value where
  terminates fuel hfuel := Walk.visit_eq_run (by rwa [Fintype.card_fin]) value
  raises := by
    rw [encodeToolResult_isError_iff hstr hnone,
      (converts_toJsonValue heap).exists_denotes_iff]
  error error herror := by
    rw [encodeToolResult_other hstr hnone] at herror
    exact encodeJson_error herror
  decodes result hresult := by
    rw [encodeToolResult_other hstr hnone] at hresult
    obtain ⟨json, text, hunfolds, htext, rfl⟩ := encodeJson_ok.1 hresult
    have hdenotes := (converts_toJsonValue heap).unfolds_iff.1 hunfolds
    cases htext
    exact ⟨json, _, json.sortKeys, hdenotes, rfl, hloads json hdenotes, json.reordered_sortKeys⟩
  sameText heap' value' json json' hjson hjson' hreordered := by
    obtain ⟨hstr', hnone'⟩ := hreordered.not_str_none hstr hnone hjson hjson'
    rw [encodeToolResult_of_denotes hstr hnone hjson,
      encodeToolResult_of_denotes hstr' hnone' hjson', hreordered.sortKeys_eq hjson.wellFormed]

/-- The heap of `Box(label="x", sides={"b": shared, "a": shared})` with `shared = (1, True)`. -/
def boxHeap : Heap where
  size := 3
  object id :=
    if id = 0 then ⟨⟨"shapes", "Box", "Box"⟩,
      .dataclass [("label", .str "x"), ("sides", .object 1)] (by decide)⟩
    else if id = 1 then ⟨.builtin "dict",
      .mapping [(.str "b", .object 2), (.str "a", .object 2)] (by decide)⟩
    else ⟨.builtin "tuple", .sequence [.int 1, .bool true]⟩

/-- The instance itself. -/
def boxValue : PyValue boxHeap.size := .object (0 : Fin 3)

/-- Its JSON tree. -/
def boxJson : Json := .object [("label", .str "x"),
  ("sides", .object [("b", .array [.int 1, .bool true]), ("a", .array [.int 1, .bool true])])]

/-- The text of this tree, with sorted keys. -/
def boxText : String :=
  "\x7b\"label\":\"x\",\"sides\":\x7b\"a\":[1,true],\"b\":[1,true]\x7d\x7d"

/-- `json.dumps`, as far as this tree is concerned. -/
def boxDumps (_ : Json) : String := boxText

/-- `json.loads`, as far as this text is concerned. -/
def boxLoads (text : String) : Option Json :=
  if text = boxText then some (.object [("label", .str "x"),
    ("sides", .object [("a", .array [.int 1, .bool true]), ("b", .array [.int 1, .bool true])])])
  else none

/-- A dataclass instance with a mapping whose items are shared. -/
theorem encodeToolResult_encodes_box :
    EncodesGraph boxDumps boxLoads ⟨"draw", by decide⟩ boxHeap boxValue ∧
      boxHeap.Denotes (fun _ => True) boxValue boxJson := by
  have hbox : boxHeap.Denotes (fun _ => True) boxValue boxJson :=
    (converts_toJsonValue boxHeap).unfolds_iff.1 ⟨3, rfl⟩
  refine ⟨encodeToolResult_encodes rfl (by simp [boxValue]) (fun json hjson => ?_) _, hbox⟩
  rw [hjson.unique hbox]
  simp [boxLoads, boxDumps, boxJson, Json.sortKeys, Json.sortItems, Json.sortFields,
    StableSort.byKey]

end PurrceptCore
