import PurrceptCore.Graphs.Walk
import PurrceptCore.Models.Messages

set_option relaxedAutoImplicit false
set_option autoImplicit false

/-!
# Python values and object graphs

What the code for JSON looks at in a Python value. A container has an identity, by which it may be
shared and by which a cycle through it is found.

## Main definitions

* `PurrceptCore.PyValue` — a scalar, a container of a heap, or any other object.
* `PurrceptCore.Heap`, `PurrceptCore.PyObject` — finitely many containers.
* `PurrceptCore.PyTree` — the data of a value without cycles, with the class of every container.
* `PurrceptCore.Json.native`, `PurrceptCore.Json.frozen` — JSON data in `dict` and `list`, and in
  `MappingProxyType` and `tuple`.

## Design

* Iterating over a mapping gives every string key once. Containers do not change while they are
  converted.
* Bytes, sets and all other objects that are neither mappings, sequences nor dataclass instances
  are unsupported leaves.
-/

namespace PurrceptCore

open Graphs

/-- A class, by its names. -/
structure PyType where
  module : String
  qualname : String
  name : String
  deriving DecidableEq, Repr

/-- A class of the module `builtins`. -/
def PyType.builtin (name : String) : PyType := ⟨"builtins", name, name⟩

/-- A Python value; the containers are those of a heap of `n` objects. -/
inductive PyValue (n : ℕ)
  | none
  | bool (value : Bool)
  | int (value : ℤ)
  | float (bits : BitVec 64)
  | str (value : String)
  | object (id : Fin n)
  | unsupported (type : PyType)

/-- `isinstance(value, str)`, with the string it is. -/
def PyValue.str? {n : ℕ} : PyValue n → Option String
  | str value => some value
  | _ => Option.none

/-- `math.isfinite`, on the bits of a float. -/
def isFinite (bits : BitVec 64) : Bool := bits.extractLsb' 52 11 != 0x7ff#11

/-- What a container holds: the items of a mapping, the items of a sequence, or the fields of a
dataclass instance. -/
inductive Contents (n : ℕ)
  | mapping (items : List (PyValue n × PyValue n))
      (keys_nodup : (items.filterMap fun item => item.1.str?).Nodup)
  | sequence (items : List (PyValue n))
  | dataclass (fields : List (String × PyValue n)) (names_nodup : (fields.map Prod.fst).Nodup)

/-- A container. -/
structure PyObject (n : ℕ) where
  type : PyType
  contents : Contents n

/-- Finitely many containers, which may hold each other. -/
structure Heap where
  size : ℕ
  object : Fin size → PyObject size

/-- `type(value)`. -/
def Heap.type (heap : Heap) : PyValue heap.size → PyType
  | .none => .builtin "NoneType"
  | .bool _ => .builtin "bool"
  | .int _ => .builtin "int"
  | .float _ => .builtin "float"
  | .str _ => .builtin "str"
  | .object id => (heap.object id).type
  | .unsupported type => type

/-! ### Conversions to JSON -/

/-- A step from a container to a member. -/
inductive Segment
  | key (name : String)
  | index (i : ℕ)

/-- The key, for a step into a mapping. -/
def Segment.key? : Segment → Option String
  | key name => some name
  | index _ => none

/-- A conversion of the values of a heap to JSON. -/
abbrev JsonWalk (heap : Heap) : Type :=
  Walk (PyValue heap.size) (Fin heap.size) Segment Failure Json

/-- The steps into the items of a sequence. -/
def sequenceMembers {n : ℕ} (items : List (PyValue n)) :
    List (Except (List Segment → Failure) (Segment × PyValue n)) :=
  items.mapIdx fun index item => .ok (.index index, item)

/-- The steps into the items of a mapping; a key that is not a string is an error. -/
def mappingMembers {n : ℕ} (keyError : List Segment → Failure)
    (items : List (PyValue n × PyValue n)) :
    List (Except (List Segment → Failure) (Segment × PyValue n)) :=
  items.map fun item =>
    match item.1 with
    | .str key => .ok (.key key, item.2)
    | _ => .error keyError

/-- A JSON object, of the members under keys. -/
def Json.ofMembers (members : List (Segment × Json)) : Json :=
  .object (members.filterMap fun member => member.1.key?.map fun key => (key, member.2))

/-- The fields of a JSON object. -/
def Json.fields : Json → JsonObject
  | object fields => fields
  | _ => []

/-! ### Data with the classes of its containers -/

/-- The data of a value, with the class of every container. -/
inductive PyTree
  | none
  | bool (value : Bool)
  | int (value : ℤ)
  | float (bits : BitVec 64)
  | str (value : String)
  | dict (items : List (String × PyTree))
  | mappingProxy (items : List (String × PyTree))
  | list (items : List PyTree)
  | tuple (items : List PyTree)

section Containers

variable (mapping : List (String × PyTree) → PyTree) (sequence : List PyTree → PyTree)

mutual

/-- JSON data in containers of the given classes. -/
def Json.toPy : Json → PyTree
  | .null => .none
  | .bool value => .bool value
  | .int value => .int value
  | .float bits => .float bits
  | .str value => .str value
  | .array items => sequence (toPyItems items)
  | .object fields => mapping (toPyFields fields)

/-- The items of an array. -/
def Json.toPyItems : List Json → List PyTree
  | [] => []
  | item :: items => item.toPy :: toPyItems items

/-- The fields of an object. -/
def Json.toPyFields : List (String × Json) → List (String × PyTree)
  | [] => []
  | (key, item) :: fields => (key, item.toPy) :: toPyFields fields

end

end Containers

/-- JSON data as `json.loads` gives it: a `dict` for every object, a `list` for every array. -/
def Json.native (json : Json) : PyTree := json.toPy .dict .list

/-- JSON data as `_freeze_json` gives it: a `MappingProxyType` for every object, a `tuple` for every
array. -/
def Json.frozen (json : Json) : PyTree := json.toPy .mappingProxy .tuple

/-- Neither an array nor an object. -/
def Json.isScalar : Json → Bool
  | array _ | object _ => false
  | _ => true

/-- The fields of an object, one by one. -/
lemma Json.toPyFields_eq (mapping : List (String × PyTree) → PyTree)
    (sequence : List PyTree → PyTree) (fields : List (String × Json)) :
    Json.toPyFields mapping sequence fields =
      fields.map fun field => (field.1, field.2.toPy mapping sequence) := by
  induction fields with
  | nil => rfl
  | cons field fields ih => simp only [toPyFields, ih, List.map_cons]

/-- Frozen data is native data only where there is no container. -/
lemma Json.frozen_eq_native {json : Json} : json.frozen = json.native ↔ json.isScalar = true := by
  unfold frozen native
  cases json <;> simp [toPy, isScalar]

end PurrceptCore
