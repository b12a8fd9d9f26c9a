import PurrceptCore.Models.PyObjects
import PurrceptCore.Models.TurnCalls

set_option relaxedAutoImplicit false
set_option autoImplicit false

/-!
# Freezing JSON values

`_freeze_json` and `freeze_json_object` (`_utils.py`), by which the constructors of the package take
their JSON arguments, and the constructor of `ToolCallBlock` (`content.py`).

## Main definitions

* `PurrceptCore.freezeJson`, `PurrceptCore.freezeJsonObject` — the conversion.
* `PurrceptCore.ToolCallBlock.make` — a tool call.
* `PurrceptCore.nativeJson` — JSON data in `dict` and `list` objects.

## Main results

* `PurrceptCore.freezeJsonObject_eq_ok` — freezing returns exactly the unfolding of a mapping.
* `PurrceptCore.freezeJsonObject_native` — native JSON data is frozen without a change.

## Design

* Freezing goes as deep as the value does: the recursion limit of the interpreter is left out.
-/

namespace PurrceptCore

open Graphs

/-- The path of a value, as error messages name it; the last step comes first. -/
def jsonPath (fieldName : String) : List Segment → String
  | [] => fieldName
  | .key name :: path => jsonPath fieldName path ++ "." ++ name
  | .index i :: path => jsonPath fieldName path ++ "[" ++ toString i ++ "]"

/-- The error of `_freeze_json` for an object of another class. -/
def unsupportedJson (fieldName : String) (type : PyType) (path : List Segment) : Failure :=
  .typeError (jsonPath fieldName path ++ " contains unsupported JSON value of type " ++
    type.name ++ ".")

/-- `_freeze_json`. -/
def freezeJson (heap : Heap) (fieldName : String) : JsonWalk heap where
  view
    | .none => .leaf (.ok .null)
    | .str value => .leaf (.ok (.str value))
    | .bool value => .leaf (.ok (.bool value))
    | .int value => .leaf (.ok (.int value))
    | .float bits =>
      if isFinite bits then .leaf (.ok (.float bits))
      else .leaf (.error fun path =>
        .valueError (jsonPath fieldName path ++ " must contain only finite JSON numbers."))
    | .object id =>
      match (heap.object id).contents with
      | .mapping _ _ | .sequence _ => .node id
      | .dataclass _ _ => .leaf (.error (unsupportedJson fieldName (heap.object id).type))
    | .unsupported type => .leaf (.error (unsupportedJson fieldName type))
  members id :=
    match (heap.object id).contents with
    | .mapping items _ => mappingMembers (fun path =>
        .typeError (jsonPath fieldName path ++ " must contain only string object keys.")) items
    | .sequence items => sequenceMembers items
    | .dataclass _ _ => []
  build id members :=
    match (heap.object id).contents with
    | .mapping _ _ => Json.ofMembers members
    | _ => .array (members.map Prod.snd)
  cycle path := .valueError (jsonPath fieldName path ++ " must not contain a reference cycle.")

/-- `isinstance(value, Mapping)`. -/
def Heap.isMapping (heap : Heap) : PyValue heap.size → Bool
  | .object id =>
    match (heap.object id).contents with
    | .mapping _ _ => true
    | _ => false
  | _ => false

/-- `freeze_json_object`. -/
def freezeJsonObject (heap : Heap) (value : PyValue heap.size) (fieldName : String) :
    Except Failure JsonObject := do
  if !heap.isMapping value then .error (.typeError (fieldName ++ " must be a mapping."))
  else
    let frozen ← (freezeJson heap fieldName).run value
    return frozen.fields

/-- `ToolCallBlock(id, name, arguments=…)`. -/
def ToolCallBlock.make (id name : Attribute) (heap : Heap) (arguments : PyValue heap.size) :
    Except Failure ToolCallBlock := do
  let id ← requireNonEmptyString id "id"
  let name ← requireNonEmptyString name "name"
  let arguments ← freezeJsonObject heap arguments "arguments"
  return ⟨id, name, arguments⟩

/-- A mapping unfolds to a JSON object. -/
lemma Json.eq_object_of_isMapping {heap : Heap} {fieldName : String} {value : PyValue heap.size}
    {json : Json} (hmapping : heap.isMapping value = true)
    (h : (freezeJson heap fieldName).Unfolds value json) : json = .object json.fields := by
  unfold Heap.isMapping at hmapping
  split at hmapping
  · next id =>
    split at hmapping
    · next items hkeys hcontents =>
      have hview : (freezeJson heap fieldName).view (.object id) = .node id := by
        simp only [freezeJson, hcontents]
      obtain ⟨ms, -, rfl⟩ := (Walk.unfolds_node hview).1 h
      simp only [freezeJson, hcontents]
      rfl
    · cases hmapping
  · cases hmapping

/-- **What freezing returns**: the unfolding of a mapping, whenever there is one. -/
theorem freezeJsonObject_eq_ok {heap : Heap} {value : PyValue heap.size} {fieldName : String}
    {fields : JsonObject} : freezeJsonObject heap value fieldName = .ok fields ↔
      heap.isMapping value = true ∧
        (freezeJson heap fieldName).Unfolds value (.object fields) := by
  unfold freezeJsonObject
  cases hmapping : heap.isMapping value with
  | false =>
    constructor
    · intro h
      cases h
    · rintro ⟨h, -⟩
      cases h
  | true =>
    cases hrun : (freezeJson heap fieldName).run value with
    | error e =>
      constructor
      · intro h
        cases h
      · rintro ⟨-, h⟩
        rw [Walk.run_eq_ok.2 h] at hrun
        cases hrun
    | ok json =>
      have hunfolds := Walk.run_eq_ok.1 hrun
      constructor
      · intro h
        cases h
        rw [← Json.eq_object_of_isMapping hmapping hunfolds]
        exact ⟨rfl, hunfolds⟩
      · rintro ⟨-, h⟩
        rw [hunfolds.unique h]
        rfl

/-! ### Native data -/

/-- A `dict` or a `list`. -/
def PyObject.isNative {n : ℕ} (object : PyObject n) : Bool :=
  match object.contents with
  | .mapping _ _ => object.type = .builtin "dict"
  | .sequence _ => object.type = .builtin "list"
  | .dataclass _ _ => false

/-- JSON data as `json.loads` gives it: what can be frozen and has no containers other than `dict`
and `list`. -/
def nativeJson (heap : Heap) (fieldName : String) : JsonWalk heap :=
  { freezeJson heap fieldName with
    view := fun value =>
      match value with
      | .object id =>
        if (heap.object id).isNative then (freezeJson heap fieldName).view (.object id)
        else .leaf (.error (unsupportedJson fieldName (heap.object id).type))
      | value => (freezeJson heap fieldName).view value }

/-- Native data is data that can be frozen. -/
lemma nativeJson_unfolds {heap : Heap} {fieldName : String} {value : PyValue heap.size}
    {json : Json} (h : (nativeJson heap fieldName).Unfolds value json) :
    (freezeJson heap fieldName).Unfolds value json := by
  have hmembers : (freezeJson heap fieldName).members = (nativeJson heap fieldName).members := rfl
  refine h.of_view hmembers rfl fun v => ?_
  cases v with
  | object id =>
    by_cases hnative : (heap.object id).isNative = true
    · exact .inl (if_pos hnative).symm
    · exact .inr ⟨_, if_neg hnative⟩
  | _ => exact .inl rfl

/-- Only a mapping unfolds to a JSON object. -/
lemma isMapping_of_unfolds {heap : Heap} {fieldName : String} {value : PyValue heap.size}
    {fields : JsonObject} (h : (freezeJson heap fieldName).Unfolds value (.object fields)) :
    heap.isMapping value = true := by
  cases value with
  | object id =>
    cases hcontents : (heap.object id).contents with
    | mapping items hkeys => simp only [Heap.isMapping, hcontents]
    | sequence items =>
      have hview : (freezeJson heap fieldName).view (.object id) = .node id := by
        simp only [freezeJson, hcontents]
      obtain ⟨ms, -, hbuild⟩ := (Walk.unfolds_node hview).1 h
      simp only [freezeJson, hcontents] at hbuild
      cases hbuild
    | dataclass items hnames =>
      have hview : (freezeJson heap fieldName).view (.object id) =
          .leaf (.error (unsupportedJson fieldName (heap.object id).type)) := by
        simp only [freezeJson, hcontents]
      cases (Walk.unfolds_leaf hview).1 h
  | float bits =>
    have hview : (freezeJson heap fieldName).view (.float bits) = .leaf (if isFinite bits then
        .ok (.float bits) else .error fun path => .valueError
          (jsonPath fieldName path ++ " must contain only finite JSON numbers.")) := by
      simp only [freezeJson]
      split <;> rfl
    have hresult := (Walk.unfolds_leaf hview).1 h
    split at hresult <;> cases hresult
  | _ => cases (Walk.unfolds_leaf rfl).1 h

/-- Native JSON data is frozen without a change. -/
theorem freezeJsonObject_native {heap : Heap} {value : PyValue heap.size} {fieldName : String}
    {fields : JsonObject} (h : (nativeJson heap fieldName).Unfolds value (.object fields)) :
    freezeJsonObject heap value fieldName = .ok fields :=
  freezeJsonObject_eq_ok.2 ⟨isMapping_of_unfolds (nativeJson_unfolds h), nativeJson_unfolds h⟩

end PurrceptCore
