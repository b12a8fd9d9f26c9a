import PurrceptCore.Models.FrozenJson
import PurrceptCore.Models.ToolInvocation

set_option relaxedAutoImplicit false
set_option autoImplicit false

/-!
# The way of the arguments of a tool call

The arguments of a call are frozen by the constructor of `ToolCallBlock` and handed to the Pydantic
model of the tool by `ArgumentAdapter.validate`.

## Main results

* `PurrceptCore.dictOf_eq_native` — when the mapping that is handed on is native JSON data.
* `PurrceptCore.validate_hands_native_iff` — a JSON object reaches the model as it was given exactly
  if none of its values is an array or an object.
-/

namespace PurrceptCore

open Graphs Interaction

/-- Only the outermost mapping is copied into a `dict`: frozen arguments become native data exactly
if they hold no further container. -/
lemma dictOf_eq_native {fields : JsonObject} :
    dictOf fields = (Json.object fields).native ↔
      ∀ field ∈ fields, field.2.isScalar = true := by
  have hnative : (Json.object fields).native =
      .dict (fields.map fun field => (field.1, field.2.native)) := by
    show PyTree.dict (Json.toPyFields .dict .list fields) = _
    rw [Json.toPyFields_eq]
    rfl
  rw [hnative, dictOf, PyTree.dict.injEq, List.map_inj_left]
  refine forall₂_congr fun field _ => ?_
  rw [Prod.mk.injEq, Json.frozen_eq_native, and_iff_right rfl]

/-- A call is built from every JSON object, with its fields. -/
lemma ToolCallBlock.make_native {heap : Heap} {value : PyValue heap.size} {fields : JsonObject}
    (hnative : (nativeJson heap "arguments").Unfolds value (.object fields))
    (id name : NonEmptyString) :
    ToolCallBlock.make (.str id) (.str name) heap value = .ok ⟨id, name, fields⟩ := by
  have hid (fieldName : String) (s : NonEmptyString) :
      requireNonEmptyString (.str s) fieldName = .ok s :=
    dif_neg s.2
  unfold ToolCallBlock.make
  rw [hid, hid, freezeJsonObject_native hnative]
  rfl

/-- **How the arguments of a call reach the model of its tool**, for every JSON object, however its
objects and arrays are nested or shared: a call is built from it, and what is handed to the model is
the object as it was given exactly if none of its values is an array or an object. -/
theorem validate_hands_native_iff {heap : Heap} {value : PyValue heap.size} {fields : JsonObject}
    (hnative : (nativeJson heap "arguments").Unfolds value (.object fields))
    (id name : NonEmptyString) :
    ∃ block, ToolCallBlock.make (.str id) (.str name) heap value = .ok block ∧
      ∀ (adapter : ArgumentAdapter) (context : ToolCallBlock) (toolName : NonEmptyString),
        ∃ handed k,
          adapter.validate block.arguments context toolName () =
            .call (InvokeCall.modelValidate handed) k ∧
          (handed = (Json.object fields).native ↔ ∀ field ∈ fields, field.2.isScalar = true) := by
  refine ⟨⟨id, name, fields⟩, ToolCallBlock.make_native hnative id name, ?_⟩
  intro adapter context toolName
  exact ⟨dictOf fields, _, rfl, dictOf_eq_native⟩

/-- The heap of `{"limit": 3}`. -/
def limitHeap : Heap where
  size := 1
  object _ := ⟨.builtin "dict", .mapping [(.str "limit", .int 3)] (List.nodup_singleton _)⟩

/-- The mapping itself. -/
def limitArguments : PyValue limitHeap.size := .object (0 : Fin 1)

/-- Scalar arguments reach the model as they were given. -/
theorem validate_hands_native_iff_limit :
    ∃ block, ToolCallBlock.make (.str "call") (.str "search") limitHeap limitArguments = .ok block ∧
      ∀ (adapter : ArgumentAdapter) (toolName : NonEmptyString), ∃ k,
        adapter.validate block.arguments block toolName () =
          .call (InvokeCall.modelValidate (.dict [("limit", .int 3)])) k := by
  have hnative : (nativeJson limitHeap "arguments").Unfolds limitArguments
      (.object [("limit", .int 3)]) := ⟨1, rfl⟩
  obtain ⟨block, hblock, hhands⟩ :=
    validate_hands_native_iff hnative ⟨"call", by decide⟩ ⟨"search", by decide⟩
  refine ⟨block, hblock, fun adapter toolName => ?_⟩
  obtain ⟨handed, k, hcall, hhanded⟩ := hhands adapter block toolName
  have hscalar : handed = (Json.object [("limit", .int 3)]).native :=
    hhanded.2 fun field hfield => by
      rw [List.mem_singleton.1 hfield]
      rfl
  rw [hcall, hscalar]
  exact ⟨k, rfl⟩

/-- The heap of `{"values": [1]}`. -/
def valuesHeap : Heap where
  size := 2
  object
    | 0 => ⟨.builtin "dict", .mapping [(.str "values", .object 1)] (List.nodup_singleton _)⟩
    | 1 => ⟨.builtin "list", .sequence [.int 1]⟩

/-- The mapping itself. -/
def valuesArguments : PyValue valuesHeap.size := .object (0 : Fin 2)

/-- The list `[1]` reaches the model as a tuple. -/
theorem nested_arguments_not_native :
    (nativeJson valuesHeap "arguments").Unfolds valuesArguments
      (.object [("values", .array [.int 1])]) ∧
    ∃ block,
      ToolCallBlock.make (.str "call") (.str "search") valuesHeap valuesArguments = .ok block ∧
      ∀ (adapter : ArgumentAdapter) (toolName : NonEmptyString), ∃ handed k,
        adapter.validate block.arguments block toolName () =
          .call (InvokeCall.modelValidate handed) k ∧
        handed = .dict [("values", .tuple [.int 1])] ∧
        (Json.object [("values", .array [.int 1])]).native = .dict [("values", .list [.int 1])] ∧
        handed ≠ (Json.object [("values", .array [.int 1])]).native := by
  have hnative : (nativeJson valuesHeap "arguments").Unfolds valuesArguments
      (.object [("values", .array [.int 1])]) := ⟨2, rfl⟩
  refine ⟨hnative, _, ToolCallBlock.make_native hnative ⟨"call", by decide⟩
    ⟨"search", by decide⟩, fun adapter toolName => ⟨_, _, rfl, rfl, rfl, ?_⟩⟩
  intro h
  have hscalar := dictOf_eq_native.1 h _ List.mem_cons_self
  cases hscalar

end PurrceptCore
