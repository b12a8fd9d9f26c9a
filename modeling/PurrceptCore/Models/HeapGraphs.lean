import PurrceptCore.Graphs.Reachability
import PurrceptCore.Models.PyObjects

set_option relaxedAutoImplicit false
set_option autoImplicit false

/-!
# Data in object graphs

Which JSON data a value of a heap holds, told by what is reachable from it.

## Main definitions

* `PurrceptCore.Heap.Reaches`, `PurrceptCore.Heap.Edge` — the values below a value, and the
  containers that hold one another.
* `PurrceptCore.Heap.Convertible` — no cycle, no key other than a string and no unsupported leaf is
  reachable.
* `PurrceptCore.Heap.Denotes` — the JSON tree of a value.
* `PurrceptCore.Heap.Converts` — a conversion that gives the JSON tree of every value that has one.

## Main results

* `PurrceptCore.Heap.Converts.unfolds_iff` — what such a conversion returns.
* `PurrceptCore.Heap.Converts.convertible_iff` — which values it accepts.

## Design

* The containers that are looked into are a parameter. Any other one is an unsupported leaf.
* `Heap.Denotes` and `Heap.Convertible` do not mention how a value is converted, nor in which order.
-/

namespace PurrceptCore

open Graphs

/-- Every number is finite, and no key occurs twice in an object. -/
inductive Json.WellFormed : Json → Prop
  | null : WellFormed .null
  | bool (value : Bool) : WellFormed (.bool value)
  | int (value : ℤ) : WellFormed (.int value)
  | float (bits : BitVec 64) (h : isFinite bits = true) : WellFormed (.float bits)
  | str (value : String) : WellFormed (.str value)
  | array (items : List Json) (h : ∀ item ∈ items, WellFormed item) : WellFormed (.array items)
  | object (fields : JsonObject) (hkeys : (fields.map Prod.fst).Nodup)
      (h : ∀ field ∈ fields, WellFormed field.2) : WellFormed (.object fields)

/-- The items of a container. -/
def Contents.values {n : ℕ} : Contents n → List (PyValue n)
  | mapping items _ => items.map Prod.snd
  | sequence items => items
  | dataclass fields _ => fields.map Prod.snd

namespace Heap

section Definitions

variable (heap : Heap) (P : Fin heap.size → Prop)

/-- The values that are reachable from `root`. -/
inductive Reaches (root : PyValue heap.size) : PyValue heap.size → Prop
  | root : Reaches root root
  | item {id : Fin heap.size} {value : PyValue heap.size} (h : Reaches root (.object id))
      (hid : P id) (hvalue : value ∈ (heap.object id).contents.values) : Reaches root value

/-- A container holds another one. -/
def Edge (a b : Fin heap.size) : Prop := P a ∧ .object b ∈ (heap.object a).contents.values

/-- A container that is looked into, or a supported leaf: a string, a boolean, an integer, `None` or
a finite float. -/
def Supported : PyValue heap.size → Prop
  | .float bits => isFinite bits = true
  | .object id => P id
  | .unsupported _ => False
  | _ => True

/-- What is reachable from `root` is JSON data. -/
structure Convertible (root : PyValue heap.size) : Prop where
  /-- No container is below itself. -/
  acyclic : ∀ id, heap.Reaches P root (.object id) → ¬ Relation.TransGen (heap.Edge P) id id
  /-- Every key is a string. -/
  keys : ∀ id items hkeys, heap.Reaches P root (.object id) →
    (heap.object id).contents = .mapping items hkeys → ∀ item ∈ items, ∃ key, item.1 = .str key
  /-- Every leaf is supported. -/
  leaves : ∀ value, heap.Reaches P root value → heap.Supported P value

/-- The JSON tree of a value: an object for a mapping and for the fields of a dataclass instance, an
array for a sequence. -/
inductive Denotes : PyValue heap.size → Json → Prop
  | none : Denotes .none .null
  | bool (value : Bool) : Denotes (.bool value) (.bool value)
  | int (value : ℤ) : Denotes (.int value) (.int value)
  | float (bits : BitVec 64) (h : isFinite bits = true) : Denotes (.float bits) (.float bits)
  | str (value : String) : Denotes (.str value) (.str value)
  | mapping (id : Fin heap.size) (items) (hkeys) (fields : JsonObject) (hid : P id)
      (hcontents : (heap.object id).contents = .mapping items hkeys)
      (hnames : items.map Prod.fst = fields.map fun field => .str field.1)
      (hvalues : ∀ m ∈ items.zip fields, Denotes m.1.2 m.2.2) :
      Denotes (.object id) (.object fields)
  | sequence (id : Fin heap.size) (items) (jsons : List Json) (hid : P id)
      (hcontents : (heap.object id).contents = .sequence items)
      (hlength : items.length = jsons.length)
      (hitems : ∀ m ∈ items.zip jsons, Denotes m.1 m.2) : Denotes (.object id) (.array jsons)
  | dataclass (id : Fin heap.size) (attributes) (hattributes) (fields : JsonObject) (hid : P id)
      (hcontents : (heap.object id).contents = .dataclass attributes hattributes)
      (hnames : attributes.map Prod.fst = fields.map Prod.fst)
      (hvalues : ∀ m ∈ attributes.zip fields, Denotes m.1.2 m.2.2) :
      Denotes (.object id) (.object fields)

/-- A conversion by which every supported leaf is converted to itself, and every container that is
looked into to what its items are converted to. -/
structure Converts (w : JsonWalk heap) : Prop where
  none : w.view .none = .leaf (.ok .null)
  bool : ∀ value, w.view (.bool value) = .leaf (.ok (.bool value))
  int : ∀ value, w.view (.int value) = .leaf (.ok (.int value))
  float : ∀ bits, isFinite bits = true → w.view (.float bits) = .leaf (.ok (.float bits))
  str : ∀ value, w.view (.str value) = .leaf (.ok (.str value))
  container : ∀ id, P id → w.view (.object id) = .node id
  unsupported : ∀ value, ¬ heap.Supported P value → ∃ e, w.view value = .leaf (.error e)
  mapping : ∀ id items hkeys, (heap.object id).contents = .mapping items hkeys →
    (∃ keyError, w.members id = mappingMembers keyError items) ∧ w.build id = Json.ofMembers
  sequence : ∀ id items, (heap.object id).contents = .sequence items →
    w.members id = sequenceMembers items ∧ w.build id = fun members => .array (members.map Prod.snd)
  dataclass : ∀ id attributes hattributes, P id →
    (heap.object id).contents = .dataclass attributes hattributes →
      (w.members id = attributes.map fun field => .ok (.key field.1, field.2)) ∧
        w.build id = Json.ofMembers

end Definitions

/-! ### JSON trees -/

section Trees

variable {heap : Heap} {P Q : Fin heap.size → Prop} {value : PyValue heap.size} {json : Json}

/-- Lists that have the same names have the same length. -/
lemma length_eq_of_map_eq {α β γ : Type} {f : α → γ} {g : β → γ} {xs : List α} {ys : List β}
    (h : xs.map f = ys.map g) : xs.length = ys.length := by
  rw [← List.length_map f, h, List.length_map]

/-- Items that stand beside others of a list of the same length. -/
lemma exists_mem_zip {α β : Type} {xs : List α} {ys : List β} (h : xs.length = ys.length) {x : α}
    (hx : x ∈ xs) : ∃ y, (x, y) ∈ xs.zip ys := by
  have hfst : x ∈ (xs.zip ys).map Prod.fst := by
    rw [List.map_fst_zip h.le]
    exact hx
  obtain ⟨m, hm, rfl⟩ := List.mem_map.1 hfst
  exact ⟨m.2, hm⟩

/-- Items that others of a list of the same length stand beside. -/
lemma exists_mem_zip_right {α β : Type} {xs : List α} {ys : List β} (h : xs.length = ys.length)
    {y : β} (hy : y ∈ ys) : ∃ x, (x, y) ∈ xs.zip ys := by
  have hsnd : y ∈ (xs.zip ys).map Prod.snd := by
    rw [List.map_snd_zip h.ge]
    exact hy
  obtain ⟨m, hm, rfl⟩ := List.mem_map.1 hsnd
  exact ⟨m.1, hm⟩

/-- A JSON tree is one as well where more containers are looked into. -/
lemma Denotes.mono (h : heap.Denotes P value json) (hPQ : ∀ id, P id → Q id) :
    heap.Denotes Q value json := by
  induction h with
  | none => exact .none
  | bool value => exact .bool value
  | int value => exact .int value
  | float bits hfinite => exact .float bits hfinite
  | str value => exact .str value
  | mapping id items hkeys fields hid hcontents hnames _ ih =>
    exact .mapping id items hkeys fields (hPQ id hid) hcontents hnames ih
  | sequence id items jsons hid hcontents hlength _ ih =>
    exact .sequence id items jsons (hPQ id hid) hcontents hlength ih
  | dataclass id attributes hattributes fields hid hcontents hnames _ ih =>
    exact .dataclass id attributes hattributes fields (hPQ id hid) hcontents hnames ih

/-- The items of a container that has a JSON tree have one. -/
lemma Denotes.item {id : Fin heap.size} (h : heap.Denotes P (.object id) json)
    (hvalue : value ∈ (heap.object id).contents.values) : ∃ json, heap.Denotes P value json := by
  cases h with
  | mapping _ items hkeys fields hid hcontents hnames hvalues =>
    rw [hcontents] at hvalue
    obtain ⟨item, hitem, rfl⟩ := List.mem_map.1 hvalue
    obtain ⟨field, hfield⟩ := exists_mem_zip (length_eq_of_map_eq hnames) hitem
    exact ⟨field.2, hvalues _ hfield⟩
  | sequence _ items jsons hid hcontents hlength hitems =>
    rw [hcontents] at hvalue
    obtain ⟨json, hjson⟩ := exists_mem_zip hlength hvalue
    exact ⟨json, hitems _ hjson⟩
  | dataclass _ attributes hattributes fields hid hcontents hnames hvalues =>
    rw [hcontents] at hvalue
    obtain ⟨item, hitem, rfl⟩ := List.mem_map.1 hvalue
    obtain ⟨field, hfield⟩ := exists_mem_zip (length_eq_of_map_eq hnames) hitem
    exact ⟨field.2, hvalues _ hfield⟩

/-- A container that has a JSON tree is looked into. -/
lemma Denotes.container {id : Fin heap.size} (h : heap.Denotes P (.object id) json) : P id := by
  cases h with
  | mapping _ _ _ _ hid => exact hid
  | sequence _ _ _ hid => exact hid
  | dataclass _ _ _ _ hid => exact hid

/-- What is below a value with a JSON tree has one. -/
lemma Denotes.of_reaches {root : PyValue heap.size} (h : heap.Denotes P root json)
    (hvalue : heap.Reaches Q root value) : ∃ json, heap.Denotes P value json := by
  induction hvalue with
  | root => exact ⟨json, h⟩
  | item _ _ hvalue ih =>
    obtain ⟨json', hjson'⟩ := ih
    exact hjson'.item hvalue

/-- The JSON tree of a value is well formed. -/
lemma Denotes.wellFormed (h : heap.Denotes P value json) : json.WellFormed := by
  induction h with
  | none => exact .null
  | bool value => exact .bool value
  | int value => exact .int value
  | float bits hfinite => exact .float bits hfinite
  | str value => exact .str value
  | mapping id items hkeys fields hid hcontents hnames hvalues ih =>
    have hlength := length_eq_of_map_eq hnames
    refine .object fields ?_ fun field hfield => ?_
    · have hstr := congrArg (List.filterMap PyValue.str?) hnames
      rw [List.filterMap_map, List.filterMap_map] at hstr
      have hnodup := hkeys
      rw [show (fun item : PyValue heap.size × PyValue heap.size => item.1.str?) =
        PyValue.str? ∘ Prod.fst from rfl, hstr] at hnodup
      rw [← List.filterMap_eq_map]
      exact hnodup
    · obtain ⟨item, hitem⟩ := exists_mem_zip_right hlength hfield
      exact ih _ hitem
  | sequence id items jsons hid hcontents hlength hitems ih =>
    refine .array jsons fun json hjson => ?_
    obtain ⟨item, hitem⟩ := exists_mem_zip_right hlength hjson
    exact ih _ hitem
  | dataclass id attributes hattributes fields hid hcontents hnames hvalues ih =>
    have hlength := length_eq_of_map_eq hnames
    refine .object fields (hnames ▸ hattributes) fun field hfield => ?_
    obtain ⟨item, hitem⟩ := exists_mem_zip_right hlength hfield
    exact ih _ hitem

/-- Lists that stand beside the same items, which determine what stands beside them. -/
lemma eq_of_zip {α β : Type} {R : α → β → Prop} {items : List α} {xs ys : List β}
    (hxs : items.length = xs.length) (hys : items.length = ys.length)
    (hx : ∀ m ∈ items.zip xs, ∀ y, R m.1 y → m.2 = y) (hy : ∀ m ∈ items.zip ys, R m.1 m.2) :
    xs = ys := by
  induction items generalizing xs ys with
  | nil =>
    rw [List.eq_nil_of_length_eq_zero hxs.symm, List.eq_nil_of_length_eq_zero hys.symm]
  | cons item items ih =>
    cases xs with
    | nil => cases hxs
    | cons x xs =>
      cases ys with
      | nil => cases hys
      | cons y ys =>
        have hxall := List.forall_mem_cons.1 hx
        have hyall := List.forall_mem_cons.1 hy
        have hhead : x = y := hxall.1 y hyall.1
        rw [hhead, ih (Nat.succ.inj hxs) (Nat.succ.inj hys) hxall.2 hyall.2]

/-- The names of fields that stand beside named items. -/
lemma forall_mem_zip_of_map_eq {α β γ : Type} {f : α → γ} {g : β → γ} {xs : List α} {ys : List β}
    (h : xs.map f = ys.map g) : ∀ m ∈ xs.zip ys, f m.1 = g m.2 := by
  induction xs generalizing ys with
  | nil => exact fun m hm => absurd hm List.not_mem_nil
  | cons x xs ih =>
    cases ys with
    | nil => cases h
    | cons y ys =>
      rw [List.map_cons, List.map_cons, List.cons.injEq] at h
      exact List.forall_mem_cons.2 ⟨h.1, ih h.2⟩

/-- Fields that stand beside the same named items, which determine their values. -/
lemma fields_eq_of_zip {κ α : Type} {R : α → Json → Prop} {name : String → κ}
    (hname : Function.Injective name) {items : List (κ × α)} {fields fields' : JsonObject}
    (hnames : items.map Prod.fst = fields.map fun field => name field.1)
    (hnames' : items.map Prod.fst = fields'.map fun field => name field.1)
    (hx : ∀ m ∈ items.zip fields, ∀ json, R m.1.2 json → m.2.2 = json)
    (hy : ∀ m ∈ items.zip fields', R m.1.2 m.2.2) : fields = fields' := by
  have hbeside := forall_mem_zip_of_map_eq hnames
  have hbeside' := forall_mem_zip_of_map_eq hnames'
  refine eq_of_zip (R := fun item field => item.1 = name field.1 ∧ R item.2 field.2)
    (length_eq_of_map_eq hnames) (length_eq_of_map_eq hnames') (fun m hm field hfield => ?_)
    fun m hm => ⟨hbeside' m hm, hy m hm⟩
  exact Prod.ext (hname ((hbeside m hm).symm.trans hfield.1)) (hx m hm _ hfield.2)

/-- A mapping denotes the object of its items. -/
lemma Denotes.of_mapping {id : Fin heap.size} {items} {hkeys}
    (hcontents : (heap.object id).contents = .mapping items hkeys)
    (h : heap.Denotes P (.object id) json) : ∃ fields, json = .object fields ∧
      items.map Prod.fst = fields.map (fun field => .str field.1) ∧
      ∀ m ∈ items.zip fields, heap.Denotes P m.1.2 m.2.2 := by
  cases h with
  | mapping _ items' _ fields _ hcontents' hnames hvalues =>
    rw [hcontents] at hcontents'
    cases hcontents'
    exact ⟨fields, rfl, hnames, hvalues⟩
  | sequence _ _ _ _ hcontents' =>
    rw [hcontents] at hcontents'
    cases hcontents'
  | dataclass _ _ _ _ _ hcontents' =>
    rw [hcontents] at hcontents'
    cases hcontents'

/-- A sequence denotes the array of its items. -/
lemma Denotes.of_sequence {id : Fin heap.size} {items}
    (hcontents : (heap.object id).contents = .sequence items)
    (h : heap.Denotes P (.object id) json) : ∃ jsons : List Json, json = .array jsons ∧
      items.length = jsons.length ∧ ∀ m ∈ items.zip jsons, heap.Denotes P m.1 m.2 := by
  cases h with
  | mapping _ _ _ _ _ hcontents' =>
    rw [hcontents] at hcontents'
    cases hcontents'
  | sequence _ items' jsons _ hcontents' hlength hitems =>
    rw [hcontents] at hcontents'
    cases hcontents'
    exact ⟨jsons, rfl, hlength, hitems⟩
  | dataclass _ _ _ _ _ hcontents' =>
    rw [hcontents] at hcontents'
    cases hcontents'

/-- A dataclass instance denotes the object of its fields. -/
lemma Denotes.of_dataclass {id : Fin heap.size} {attributes} {hattributes}
    (hcontents : (heap.object id).contents = .dataclass attributes hattributes)
    (h : heap.Denotes P (.object id) json) : ∃ fields, json = .object fields ∧
      attributes.map Prod.fst = fields.map Prod.fst ∧
      ∀ m ∈ attributes.zip fields, heap.Denotes P m.1.2 m.2.2 := by
  cases h with
  | mapping _ _ _ _ _ hcontents' =>
    rw [hcontents] at hcontents'
    cases hcontents'
  | sequence _ _ _ _ hcontents' =>
    rw [hcontents] at hcontents'
    cases hcontents'
  | dataclass _ attributes' _ fields _ hcontents' hnames hvalues =>
    rw [hcontents] at hcontents'
    cases hcontents'
    exact ⟨fields, rfl, hnames, hvalues⟩

/-- A value has at most one JSON tree. -/
theorem Denotes.unique {json' : Json} (h : heap.Denotes P value json)
    (h' : heap.Denotes Q value json') : json = json' := by
  induction h generalizing json' with
  | none =>
    cases h'
    rfl
  | bool value =>
    cases h'
    rfl
  | int value =>
    cases h'
    rfl
  | float bits _ =>
    cases h'
    rfl
  | str value =>
    cases h'
    rfl
  | mapping id items hkeys fields _ hcontents hnames _ ih =>
    obtain ⟨fields', rfl, hnames', hvalues'⟩ := h'.of_mapping hcontents
    have hinj : Function.Injective (PyValue.str : String → PyValue heap.size) :=
      fun _ _ h => PyValue.str.inj h
    exact congrArg Json.object
      (fields_eq_of_zip hinj hnames hnames' (fun m hm _ => ih m hm) hvalues')
  | sequence id items jsons _ hcontents hlength _ ih =>
    obtain ⟨jsons', rfl, hlength', hitems'⟩ := h'.of_sequence hcontents
    exact congrArg Json.array (eq_of_zip hlength hlength' (fun m hm _ => ih m hm) hitems')
  | dataclass id attributes hattributes fields _ hcontents hnames _ ih =>
    obtain ⟨fields', rfl, hnames', hvalues'⟩ := h'.of_dataclass hcontents
    exact congrArg Json.object
      (fields_eq_of_zip Function.injective_id hnames hnames' (fun m hm _ => ih m hm) hvalues')

end Trees

/-! ### The members of a container -/

/-- What is converted from the members of a container, one by one. -/
def Members {n : ℕ} (R : PyValue n → Json → Prop) :
    List (Except (List Segment → Failure) (Segment × PyValue n)) → List (Segment × Json) → Prop :=
  List.Forall₂ fun member m => ∃ item, member = .ok (m.1, item) ∧ R item m.2

/-- The members of a JSON object, each under its key. -/
def keyMembers (fields : JsonObject) : List (Segment × Json) :=
  fields.map fun field => (.key field.1, field.2)

lemma ofMembers_keyMembers (fields : JsonObject) : Json.ofMembers (keyMembers fields) =
    .object fields := by
  unfold Json.ofMembers keyMembers
  rw [List.filterMap_map]
  congr 1
  exact List.filterMap_some

/-- The members of a JSON array, each under its index. -/
def indexMembers (jsons : List Json) : List (Segment × Json) :=
  jsons.mapIdx fun i json => (.index i, json)

lemma map_snd_indexMembers (jsons : List Json) : (indexMembers jsons).map Prod.snd = jsons := by
  refine List.ext_getElem? fun i => ?_
  simp [indexMembers]

section Members

variable {n : ℕ} {R : PyValue n → Json → Prop} {ms : List (Segment × Json)}

/-- The members of a mapping. -/
lemma members_mapping {keyError : List Segment → Failure} {items : List (PyValue n × PyValue n)} :
    Members R (mappingMembers keyError items) ms ↔
      ∃ fields, ms = keyMembers fields ∧
        items.map Prod.fst = fields.map (fun field => PyValue.str field.1) ∧
        ∀ m ∈ items.zip fields, R m.1.2 m.2.2 := by
  induction items generalizing ms with
  | nil =>
    constructor
    · intro h
      cases h
      exact ⟨[], rfl, rfl, fun m hm => absurd hm List.not_mem_nil⟩
    · rintro ⟨fields, rfl, hnames, -⟩
      cases fields with
      | nil => exact .nil
      | cons field fields => cases hnames
  | cons item items ih =>
    constructor
    · intro h
      cases h with
      | @cons _ m _ ms hm hms =>
        obtain ⟨value, hmember, hvalue⟩ := hm
        obtain ⟨fields, rfl, hnames, hvalues⟩ := ih.1 hms
        obtain ⟨k, v⟩ := item
        cases k with
        | str key =>
          cases m
          cases hmember
          refine ⟨(key, _) :: fields, rfl, ?_, ?_⟩
          · rw [List.map_cons, List.map_cons, hnames]
          · exact List.forall_mem_cons.2 ⟨hvalue, hvalues⟩
        | _ => cases hmember
    · rintro ⟨fields, rfl, hnames, hvalues⟩
      cases fields with
      | nil => cases hnames
      | cons field fields =>
        rw [List.map_cons, List.map_cons, List.cons.injEq] at hnames
        obtain ⟨hkey, hnames⟩ := hnames
        obtain ⟨k, v⟩ := item
        cases hkey
        have hall := List.forall_mem_cons.1 hvalues
        exact .cons ⟨v, rfl, hall.1⟩ (ih.2 ⟨fields, rfl, hnames, hall.2⟩)

/-- The members of a dataclass instance. -/
lemma members_dataclass {attributes : List (String × PyValue n)} :
    Members R (attributes.map fun field => .ok (.key field.1, field.2)) ms ↔
      ∃ fields, ms = keyMembers fields ∧
        attributes.map Prod.fst = fields.map Prod.fst ∧
        ∀ m ∈ attributes.zip fields, R m.1.2 m.2.2 := by
  have hmembers : (attributes.map fun field => .ok (.key field.1, field.2)) =
      mappingMembers (fun _ => .typeError "")
        (attributes.map fun field => (PyValue.str field.1, field.2)) := by
    unfold mappingMembers
    rw [List.map_map]
    rfl
  rw [hmembers, members_mapping]
  refine exists_congr fun fields => and_congr_right fun _ => and_congr ?_ ?_
  · have hinj : Function.Injective (PyValue.str : String → PyValue n) := by
      intro a b hab
      cases hab
      rfl
    rw [List.map_map, ← (List.map_injective_iff.2 hinj).eq_iff, List.map_map, List.map_map]
    rfl
  · rw [List.zip_map_left]
    simp only [List.forall_mem_map]
    rfl

/-- The members of a sequence. -/
lemma members_sequence {items : List (PyValue n)} :
    Members R (sequenceMembers items) ms ↔
      ∃ jsons, ms = indexMembers jsons ∧
        items.length = jsons.length ∧ ∀ m ∈ items.zip jsons, R m.1 m.2 := by
  suffices hlabels : ∀ label : ℕ → Segment,
      Members R (items.mapIdx fun i item => .ok (label i, item)) ms ↔
        ∃ jsons : List Json, ms = jsons.mapIdx (fun i json => (label i, json)) ∧
          items.length = jsons.length ∧ ∀ m ∈ items.zip jsons, R m.1 m.2 from hlabels .index
  intro label
  induction items generalizing ms label with
  | nil =>
    constructor
    · intro h
      cases h
      exact ⟨[], rfl, rfl, fun m hm => absurd hm List.not_mem_nil⟩
    · rintro ⟨jsons, rfl, hlength, -⟩
      cases jsons with
      | nil => exact .nil
      | cons json jsons => cases hlength
  | cons item items ih =>
    rw [List.mapIdx_cons]
    constructor
    · intro h
      cases h with
      | @cons _ m _ ms hm hms =>
        obtain ⟨value, hmember, hvalue⟩ := hm
        obtain ⟨jsons, rfl, hlength, hvalues⟩ := (ih fun i => label (i + 1)).1 hms
        obtain ⟨index, json⟩ := m
        cases hmember
        refine ⟨json :: jsons, ?_, ?_, ?_⟩
        · rw [List.mapIdx_cons]
        · rw [List.length_cons, List.length_cons, hlength]
        · exact List.forall_mem_cons.2 ⟨hvalue, hvalues⟩
    · rintro ⟨jsons, rfl, hlength, hvalues⟩
      cases jsons with
      | nil => cases hlength
      | cons json jsons =>
        rw [List.mapIdx_cons]
        have hall := List.forall_mem_cons.1 hvalues
        exact .cons ⟨item, rfl, hall.1⟩
          ((ih fun i => label (i + 1)).2 ⟨jsons, rfl, Nat.succ.inj hlength, hall.2⟩)

/-- Only a key is an error among the members of a mapping. -/
lemma eq_keyError_of_mem {keyError e : List Segment → Failure}
    {items : List (PyValue n × PyValue n)} (h : .error e ∈ mappingMembers keyError items) :
    e = keyError := by
  obtain ⟨item, -, heq⟩ := List.mem_map.1 h
  split at heq
  · cases heq
  · cases heq
    rfl

/-- There are no errors among the members of a sequence. -/
lemma error_notMem_sequenceMembers {e : List Segment → Failure} {items : List (PyValue n)} :
    .error e ∉ sequenceMembers items := by
  intro h
  obtain ⟨i, hi, heq⟩ := List.mem_mapIdx.1 h
  cases heq

end Members

/-! ### What a conversion returns -/

section Conversions

variable {heap : Heap} {P : Fin heap.size → Prop} {w : JsonWalk heap}

/-- What is not refused is supported. -/
lemma Converts.supported_of_view (hw : heap.Converts P w) {value : PyValue heap.size}
    (h : ∀ e, w.view value ≠ .leaf (.error e)) : heap.Supported P value := by
  by_contra hunsupported
  obtain ⟨e, he⟩ := hw.unsupported value hunsupported
  exact h e he

lemma Converts.supported_of_node (hw : heap.Converts P w) {value : PyValue heap.size}
    {id : Fin heap.size} (hview : w.view value = .node id) : value = .object id ∧ P id := by
  have hsupported := hw.supported_of_view fun e he => by
    rw [hview] at he
    cases he
  cases value with
  | object id' =>
    rw [hw.container id' hsupported] at hview
    cases hview
    exact ⟨rfl, hsupported⟩
  | none =>
    rw [hw.none] at hview
    cases hview
  | bool b =>
    rw [hw.bool] at hview
    cases hview
  | int i =>
    rw [hw.int] at hview
    cases hview
  | float bits =>
    rw [hw.float bits hsupported] at hview
    cases hview
  | str s =>
    rw [hw.str] at hview
    cases hview
  | unsupported type => exact hsupported.elim

/-- What a leaf is converted to. -/
lemma Converts.denotes_of_leaf (hw : heap.Converts P w) {value : PyValue heap.size} {json : Json}
    (hview : w.view value = .leaf (.ok json)) : heap.Denotes P value json := by
  have hsupported := hw.supported_of_view fun e he => by
    rw [hview] at he
    cases he
  cases value with
  | object id =>
    rw [hw.container id hsupported] at hview
    cases hview
  | none =>
    rw [hw.none] at hview
    cases hview
    exact .none
  | bool b =>
    rw [hw.bool] at hview
    cases hview
    exact .bool b
  | int i =>
    rw [hw.int] at hview
    cases hview
    exact .int i
  | float bits =>
    rw [hw.float bits hsupported] at hview
    cases hview
    exact .float bits hsupported
  | str s =>
    rw [hw.str] at hview
    cases hview
    exact .str s
  | unsupported type => exact hsupported.elim

/-- What a conversion returns is the JSON tree of the value. -/
lemma Converts.denotes (hw : heap.Converts P w) {value : PyValue heap.size} {json : Json}
    (h : w.Unfolds value json) : heap.Denotes P value json := by
  refine h.induction (fun v t hview => hw.denotes_of_leaf hview) fun v id ms hview hms => ?_
  obtain ⟨rfl, hid⟩ := hw.supported_of_node hview
  cases hcontents : (heap.object id).contents with
  | mapping items hkeys =>
    obtain ⟨⟨keyError, hmembers⟩, hbuild⟩ := hw.mapping id items hkeys hcontents
    rw [hmembers] at hms
    obtain ⟨fields, rfl, hnames, hvalues⟩ := members_mapping.1 hms
    rw [hbuild, ofMembers_keyMembers]
    exact .mapping id items hkeys fields hid hcontents hnames hvalues
  | sequence items =>
    obtain ⟨hmembers, hbuild⟩ := hw.sequence id items hcontents
    rw [hmembers] at hms
    obtain ⟨jsons, rfl, hlength, hvalues⟩ := members_sequence.1 hms
    rw [hbuild]
    dsimp only
    rw [map_snd_indexMembers]
    exact .sequence id items jsons hid hcontents hlength hvalues
  | dataclass attributes hattributes =>
    obtain ⟨hmembers, hbuild⟩ := hw.dataclass id attributes hattributes hid hcontents
    rw [hmembers] at hms
    obtain ⟨fields, rfl, hnames, hvalues⟩ := members_dataclass.1 hms
    rw [hbuild, ofMembers_keyMembers]
    exact .dataclass id attributes hattributes fields hid hcontents hnames hvalues

/-- A value with a JSON tree is converted to it. -/
lemma Converts.unfolds (hw : heap.Converts P w) {value : PyValue heap.size} {json : Json}
    (h : heap.Denotes P value json) : w.Unfolds value json := by
  induction h with
  | none => exact (Walk.unfolds_leaf hw.none).2 rfl
  | bool value => exact (Walk.unfolds_leaf (hw.bool value)).2 rfl
  | int value => exact (Walk.unfolds_leaf (hw.int value)).2 rfl
  | float bits hfinite => exact (Walk.unfolds_leaf (hw.float bits hfinite)).2 rfl
  | str value => exact (Walk.unfolds_leaf (hw.str value)).2 rfl
  | mapping id items hkeys fields hid hcontents hnames _ ih =>
    obtain ⟨⟨keyError, hmembers⟩, hbuild⟩ := hw.mapping id items hkeys hcontents
    refine (Walk.unfolds_node (hw.container id hid)).2 ⟨keyMembers fields, ?_, ?_⟩
    · rw [hmembers]
      exact members_mapping.2 ⟨fields, rfl, hnames, ih⟩
    · rw [hbuild, ofMembers_keyMembers]
  | sequence id items jsons hid hcontents hlength _ ih =>
    obtain ⟨hmembers, hbuild⟩ := hw.sequence id items hcontents
    refine (Walk.unfolds_node (hw.container id hid)).2 ⟨indexMembers jsons, ?_, ?_⟩
    · rw [hmembers]
      exact members_sequence.2 ⟨jsons, rfl, hlength, ih⟩
    · rw [hbuild]
      dsimp only
      rw [map_snd_indexMembers]
  | dataclass id attributes hattributes fields hid hcontents hnames _ ih =>
    obtain ⟨hmembers, hbuild⟩ := hw.dataclass id attributes hattributes hid hcontents
    refine (Walk.unfolds_node (hw.container id hid)).2 ⟨keyMembers fields, ?_, ?_⟩
    · rw [hmembers]
      exact members_dataclass.2 ⟨fields, rfl, hnames, ih⟩
    · rw [hbuild, ofMembers_keyMembers]

/-- **What a conversion returns**: the JSON tree of a value. -/
theorem Converts.unfolds_iff (hw : heap.Converts P w) {value : PyValue heap.size} {json : Json} :
    w.Unfolds value json ↔ heap.Denotes P value json :=
  ⟨hw.denotes, hw.unfolds⟩

/-- The members of a container are its items. -/
lemma Converts.mem_values (hw : heap.Converts P w) {id : Fin heap.size} (hid : P id)
    {label : Segment} {value : PyValue heap.size} (h : .ok (label, value) ∈ w.members id) :
    value ∈ (heap.object id).contents.values := by
  cases hcontents : (heap.object id).contents with
  | mapping items hkeys =>
    obtain ⟨⟨keyError, hmembers⟩, -⟩ := hw.mapping id items hkeys hcontents
    rw [hmembers] at h
    obtain ⟨item, hitem, heq⟩ := List.mem_map.1 h
    split at heq
    · cases heq
      exact List.mem_map_of_mem hitem
    · cases heq
  | sequence items =>
    rw [(hw.sequence id items hcontents).1] at h
    obtain ⟨i, hi, heq⟩ := List.mem_mapIdx.1 h
    cases heq
    exact List.getElem_mem hi
  | dataclass attributes hattributes =>
    rw [(hw.dataclass id attributes hattributes hid hcontents).1] at h
    obtain ⟨field, hfield, heq⟩ := List.mem_map.1 h
    cases heq
    exact List.mem_map_of_mem hfield

/-- No member is an error when every key is a string. -/
lemma Converts.members_ok (hw : heap.Converts P w) {id : Fin heap.size} (hid : P id)
    (h : ∀ items hkeys, (heap.object id).contents = .mapping items hkeys →
      ∀ item ∈ items, ∃ key, item.1 = .str key) : ∀ m ∈ w.members id, ∃ p, m = .ok p := by
  intro m hm
  cases hcontents : (heap.object id).contents with
  | mapping items hkeys =>
    obtain ⟨⟨keyError, hmembers⟩, -⟩ := hw.mapping id items hkeys hcontents
    rw [hmembers] at hm
    obtain ⟨item, hitem, heq⟩ := List.mem_map.1 hm
    obtain ⟨key, hkey⟩ := h items hkeys hcontents item hitem
    rw [hkey] at heq
    exact ⟨_, heq.symm⟩
  | sequence items =>
    rw [(hw.sequence id items hcontents).1] at hm
    obtain ⟨i, hi, heq⟩ := List.mem_mapIdx.1 hm
    exact ⟨_, heq.symm⟩
  | dataclass attributes hattributes =>
    rw [(hw.dataclass id attributes hattributes hid hcontents).1] at hm
    obtain ⟨field, hfield, heq⟩ := List.mem_map.1 hm
    exact ⟨_, heq.symm⟩

/-- Every key is a string when no member is an error. -/
lemma Converts.keys_of_members (hw : heap.Converts P w) {id : Fin heap.size}
    (h : ∀ m ∈ w.members id, ∃ p, m = .ok p) {items} {hkeys}
    (hcontents : (heap.object id).contents = .mapping items hkeys) :
    ∀ item ∈ items, ∃ key, item.1 = .str key := by
  intro item hitem
  obtain ⟨⟨keyError, hmembers⟩, -⟩ := hw.mapping id items hkeys hcontents
  rw [hmembers] at h
  obtain ⟨p, hp⟩ := h _ (List.mem_map_of_mem hitem)
  split at hp
  · next key hkey => exact ⟨key, hkey⟩
  · cases hp

/-- Every item is a member when no member is an error. -/
lemma Converts.exists_label (hw : heap.Converts P w) {id : Fin heap.size} (hid : P id)
    (h : ∀ m ∈ w.members id, ∃ p, m = .ok p) {value : PyValue heap.size}
    (hvalue : value ∈ (heap.object id).contents.values) :
    ∃ label, .ok (label, value) ∈ w.members id := by
  cases hcontents : (heap.object id).contents with
  | mapping items hkeys =>
    rw [hcontents] at hvalue
    obtain ⟨item, hitem, rfl⟩ := List.mem_map.1 hvalue
    obtain ⟨key, hkey⟩ := hw.keys_of_members h hcontents item hitem
    obtain ⟨⟨keyError, hmembers⟩, -⟩ := hw.mapping id items hkeys hcontents
    refine ⟨.key key, ?_⟩
    rw [hmembers]
    refine List.mem_map.2 ⟨item, hitem, ?_⟩
    rw [hkey]
  | sequence items =>
    rw [hcontents] at hvalue
    obtain ⟨i, hi, rfl⟩ := List.getElem_of_mem hvalue
    refine ⟨.index i, ?_⟩
    rw [(hw.sequence id items hcontents).1]
    exact List.mem_mapIdx.2 ⟨i, hi, rfl⟩
  | dataclass attributes hattributes =>
    rw [hcontents] at hvalue
    obtain ⟨field, hfield, rfl⟩ := List.mem_map.1 hvalue
    refine ⟨.key field.1, ?_⟩
    rw [(hw.dataclass id attributes hattributes hid hcontents).1]
    exact List.mem_map.2 ⟨field, hfield, rfl⟩

/-- What a conversion may meet is reachable. -/
lemma Converts.reaches (hw : heap.Converts P w) {root value : PyValue heap.size}
    (h : w.Reaches root value) : heap.Reaches P root value := by
  induction h with
  | refl => exact .root
  | member _ hview hmember ih =>
    obtain ⟨rfl, hid⟩ := hw.supported_of_node hview
    exact .item ih hid (hw.mem_values hid hmember)

/-- A conversion goes from a container to one that it holds. -/
lemma Converts.edge (hw : heap.Converts P w) {a b : Fin heap.size} (ha : P a)
    (h : w.Edge a b) : heap.Edge P a b := by
  obtain ⟨label, value, hmember, hview⟩ := h
  obtain ⟨rfl, -⟩ := hw.supported_of_node hview
  exact ⟨ha, hw.mem_values ha hmember⟩

/-- A container that is held by one that is looked into is looked into. -/
lemma Converts.target_of_edge (hw : heap.Converts P w) {a b : Fin heap.size}
    (h : w.Edge a b) : P b := by
  obtain ⟨label, value, -, hview⟩ := h
  exact (hw.supported_of_node hview).2

/-- The paths of a conversion are paths of the heap. -/
lemma Converts.transGen (hw : heap.Converts P w) {a b : Fin heap.size} (ha : P a)
    (h : Relation.TransGen w.Edge a b) : Relation.TransGen (heap.Edge P) a b ∧ P b := by
  induction h with
  | single hedge => exact ⟨.single (hw.edge ha hedge), hw.target_of_edge hedge⟩
  | tail _ hedge ih => exact ⟨ih.1.tail (hw.edge ih.2 hedge), hw.target_of_edge hedge⟩

/-- JSON data is convertible. -/
lemma Converts.convertible (hw : heap.Converts P w) {root : PyValue heap.size}
    (h : heap.Convertible P root) : w.Convertible root where
  acyclic value id hvalue hview hcycle := by
    obtain ⟨rfl, hid⟩ := hw.supported_of_node hview
    exact h.acyclic id (hw.reaches hvalue) (hw.transGen hid hcycle).1
  members value id hvalue hview := by
    obtain ⟨rfl, hid⟩ := hw.supported_of_node hview
    exact hw.members_ok hid fun items hkeys => h.keys id items hkeys (hw.reaches hvalue)
  leaves value result hvalue hview := by
    have hsupported := h.leaves value (hw.reaches hvalue)
    cases value with
    | none =>
      rw [hw.none] at hview
      cases hview
      exact ⟨_, rfl⟩
    | bool b =>
      rw [hw.bool] at hview
      cases hview
      exact ⟨_, rfl⟩
    | int i =>
      rw [hw.int] at hview
      cases hview
      exact ⟨_, rfl⟩
    | float bits =>
      rw [hw.float bits hsupported] at hview
      cases hview
      exact ⟨_, rfl⟩
    | str s =>
      rw [hw.str] at hview
      cases hview
      exact ⟨_, rfl⟩
    | object id =>
      rw [hw.container id hsupported] at hview
      cases hview
    | unsupported type => exact hsupported.elim

section Unfolding

variable {root : PyValue heap.size}

/-- What a conversion meets without an error is supported. -/
lemma Converts.supported (hw : heap.Converts P w) (h : w.Convertible root)
    {value : PyValue heap.size} (hvalue : w.Reaches root value) : heap.Supported P value := by
  by_contra hnot
  obtain ⟨e, he⟩ := hw.unsupported value hnot
  obtain ⟨t, ht⟩ := h.leaves value _ hvalue he
  cases ht

/-- A conversion without an error meets all that is reachable. -/
lemma Converts.meets (hw : heap.Converts P w) (h : w.Convertible root)
    {value : PyValue heap.size} (hvalue : heap.Reaches P root value) : w.Reaches root value := by
  induction hvalue with
  | root => exact .refl
  | @item id value _ hid hvalue ih =>
    have hview := hw.container id hid
    obtain ⟨label, hmember⟩ := hw.exists_label hid (h.members _ id ih hview) hvalue
    exact ih.member hview hmember

/-- A conversion without an error goes along every path of the heap. -/
lemma Converts.follows (hw : heap.Converts P w) (h : w.Convertible root) {a b : Fin heap.size}
    (ha : heap.Reaches P root (.object a)) (hpath : Relation.TransGen (heap.Edge P) a b) :
    Relation.TransGen w.Edge a b ∧ heap.Reaches P root (.object b) := by
  have hstep (c d : Fin heap.size) (hc : heap.Reaches P root (.object c))
      (hcd : heap.Edge P c d) : w.Edge c d ∧ heap.Reaches P root (.object d) := by
    have hd : heap.Reaches P root (.object d) := hc.item hcd.1 hcd.2
    have hview := hw.container d (hw.supported h (hw.meets h hd))
    obtain ⟨label, hmember⟩ := hw.exists_label hcd.1
      (h.members _ c (hw.meets h hc) (hw.container c hcd.1)) hcd.2
    exact ⟨⟨label, _, hmember, hview⟩, hd⟩
  induction hpath with
  | single hedge =>
    obtain ⟨hw', hb⟩ := hstep a _ ha hedge
    exact ⟨.single hw', hb⟩
  | tail _ hedge ih =>
    obtain ⟨hw', hb⟩ := hstep _ _ ih.2 hedge
    exact ⟨ih.1.tail hw', hb⟩

end Unfolding

/-- **Which values a conversion accepts**: those whose reachable part is JSON data. -/
theorem Converts.convertible_iff (hw : heap.Converts P w) {root : PyValue heap.size} :
    w.Convertible root ↔ heap.Convertible P root := by
  refine ⟨fun h => ⟨fun id hid hcycle => ?_, fun id items hkeys hid hcontents => ?_,
    fun value hvalue => hw.supported h (hw.meets h hvalue)⟩, hw.convertible⟩
  · have hP : P id := hw.supported h (hw.meets h hid)
    exact h.acyclic _ id (hw.meets h hid) (hw.container id hP) (hw.follows h hid hcycle).1
  · have hP : P id := hw.supported h (hw.meets h hid)
    exact hw.keys_of_members (h.members _ id (hw.meets h hid) (hw.container id hP)) hcontents

/-- A value has a JSON tree exactly if its reachable part is JSON data. -/
theorem Converts.exists_denotes_iff (hw : heap.Converts P w) {root : PyValue heap.size} :
    (∃ json, heap.Denotes P root json) ↔ heap.Convertible P root := by
  rw [← hw.convertible_iff, ← Walk.exists_unfolds_iff]
  exact exists_congr fun json => hw.unfolds_iff.symm

end Conversions

end Heap

end PurrceptCore
