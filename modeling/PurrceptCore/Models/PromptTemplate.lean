import Mathlib.Data.List.DropRight
import PurrceptCore.Driver.Events
import PurrceptCore.Lists.Dict
import PurrceptCore.Lists.Fallible
import PurrceptCore.Models.Decisions

set_option relaxedAutoImplicit false
set_option autoImplicit false

/-!
# Prompt templates

Templates with bound values and render policies (`prompt/template.py`, `prompt/policies.py`), and
their errors (`prompt/errors.py`).

## Main definitions

* `PurrceptCore.parseTemplate` — the parts and the fields of a template.
* `PurrceptCore.RenderPolicy`, `PurrceptCore.optional` — policies, and the one of a field that has
  none.
* `PurrceptCore.PromptTemplate`, `PurrceptCore.PromptTemplate.make` — templates, and their
  constructor.
* `PurrceptCore.PromptTemplate.withValues`, `render`, `renderPartial` — the methods.

## Main results

* `PurrceptCore.PromptTemplate.make_self` — the constructor accepts the data of a template.
* `PurrceptCore.PromptTemplate.fields_eq` — the fields are those of the parts, in the order in which
  they appear first.

## Design

* `string.Formatter.parse` is a parameter. It is lazy: it delivers items, and may raise `ValueError`
  after them.
* A value is `none` for `None`, or another object. What `optional` asks of an object is a parameter.
* A policy is deterministic: what its transform does is a function of the value.
* The keyword `strict` of `render` is an argument of its own, as in the call.
-/

namespace PurrceptCore

open Fallible

/-! ### Errors -/

/-- `str.strip`. -/
def pyStrip (value : String) : String :=
  String.ofList ((value.toList.dropWhile isSpace).rdropWhile isSpace)

/-- The test of `_validate_field_name`. -/
def isFieldName (fieldName : String) : Bool :=
  !(fieldName = "" || pyStrip fieldName ≠ fieldName || fieldName.toList.any isSpace)

/-- A string that has passed `_validate_field_name`. -/
abbrev FieldName : Type := { fieldName : String // isFieldName fieldName = true }

/-- What the functions of a template raise. -/
inductive TemplateFailure
  /-- `PromptDefinitionError`, without its cause. -/
  | definition (text : String) (templateName : NonEmptyString)
  /-- `PromptRenderError`, with its `__cause__`. -/
  | render (text : String) (templateName : NonEmptyString) (fieldName : Option FieldName)
    (missingFields : List FieldName) (cause : Option Exc)
  /-- Any other error. -/
  | other (failure : Failure)

namespace TemplateFailure

/-- `error.missing_fields`, of a `PromptRenderError`. -/
def missing : TemplateFailure → List FieldName
  | render _ _ _ missingFields _ => missingFields
  | definition _ _ | other _ => []

end TemplateFailure

/-- `error_type`. -/
inductive TemplateErrorType
  | promptDefinitionError
  | promptRenderError

/-- The error of this type. -/
def TemplateErrorType.error (errorType : TemplateErrorType) (message : String)
    (templateName : NonEmptyString) : TemplateFailure :=
  match errorType with
  | promptRenderError => .render message templateName none [] none
  | promptDefinitionError => .definition message templateName

/-! ### Parsing -/

/-- What `Formatter.parse` delivers. -/
structure ParsedItem where
  literal : String
  fieldName : Option String
  formatSpec : Option String
  conversion : Option String

/-- The items that `Formatter.parse` delivers, and the text of the `ValueError` that it may raise
after them. -/
structure ParsedFormat where
  items : List ParsedItem
  error : Option String

/-- `_TemplatePart`. -/
structure TemplatePart where
  literal : String
  fieldName : Option FieldName

/-- `_validate_field_name`. -/
def validateFieldName (templateName : NonEmptyString) (fieldName : String) :
    Except TemplateFailure FieldName :=
  if h : isFieldName fieldName = true then .ok ⟨fieldName, h⟩
  else .error (.definition ("Prompt template " ++ pyRepr templateName ++
    " contains invalid field " ++ pyRepr fieldName ++ ".") templateName)

/-- The body of the loop of `_parse_template`. -/
def parseItem (name : NonEmptyString) (parsed : List TemplatePart × List FieldName)
    (item : ParsedItem) : Except TemplateFailure (List TemplatePart × List FieldName) :=
  match item.fieldName with
  | none => .ok (parsed.1 ++ [⟨item.literal, none⟩], parsed.2)
  | some fieldName => do
    let fieldName ← validateFieldName name fieldName
    if item.conversion.isSome ∨ item.formatSpec.getD "" ≠ "" then
      .error (.definition ("Prompt template " ++ pyRepr name ++ " does not support format " ++
        "specifiers or conversions; use a RenderPolicy instead.") name)
    else
      .ok (parsed.1 ++ [⟨item.literal, some fieldName⟩],
        if fieldName ∈ parsed.2 then parsed.2 else parsed.2 ++ [fieldName])

/-- `_parse_template`. -/
def parseTemplate (parse : String → ParsedFormat) (name template : NonEmptyString) :
    Except TemplateFailure (List TemplatePart × List FieldName) := do
  let parsed ← (parse template).items.foldlM (parseItem name) ([], [])
  match (parse template).error with
  | none => .ok parsed
  | some error => .error (.definition ("Prompt template " ++ pyRepr name ++
      " has invalid braces: " ++ error ++ ".") name)

/-! ### Policies -/

/-- What a policy sees of an object other than `None`. -/
inductive ObjectShape
  /-- `isinstance(value, str)`. -/
  | str (value : String)
  /-- A mapping, a sequence or a set; `len(value)` may raise. -/
  | sized (length : Except Exc ℕ)
  | other

/-- What is asked of the objects that are rendered. -/
structure ObjectTexts (V : Type) where
  shape : V → ObjectShape
  /-- `str(value)`. -/
  text : V → Except Exc String

/-- `RenderPolicy`. Its transform may return any object. -/
structure RenderPolicy (V : Type) where
  transform : Option V → Except Exc Attribute

variable {V : Type}

/-- `RenderPolicy.__call__`. -/
def RenderPolicy.call (policy : RenderPolicy V) (value : Option V) : Except Exc String := do
  match ← policy.transform value with
  | .other => .error (typeError 0 "prompt render policies must return a string.")
  | .str rendered => .ok rendered

/-- `str(value)`. -/
def ObjectTexts.str (objects : ObjectTexts V) : Option V → Except Exc String
  | none => .ok "None"
  | some value => objects.text value

/-- `is_effectively_empty`. -/
def isEffectivelyEmpty (objects : ObjectTexts V) : Option V → Except Exc Bool
  | none => .ok true
  | some value =>
    match objects.shape value with
    | .str value => .ok (isBlank value)
    | .sized length => do return (← length) == 0
    | .other => .ok false

/-- `optional`. -/
def optional (objects : ObjectTexts V) (empty : String) : RenderPolicy V where
  transform value := do
    if ← isEffectivelyEmpty objects value then .ok (.str empty)
    else return .str (← objects.str value)

/-! ### Mappings -/

/-- An argument that should be a mapping; the items are those that `items()` delivers. -/
inductive MappingArgument (α : Type)
  | mapping (items : List (Attribute × α))
  | other

/-- `_require_mapping_key`. -/
def requireMappingKey (value : Attribute) (fieldName : String) : Except TemplateFailure String :=
  match value with
  | .other => .error (.other (.typeError (fieldName ++ " must contain only string keys.")))
  | .str value =>
    if value = "" then
      .error (.other (.valueError (fieldName ++ " must not contain empty keys.")))
    else .ok value

/-- What `_freeze_policies` and `_freeze_values` have in common: copy a mapping item by item. -/
def freezeMapping {α β : Type} (fieldName : String) (accept : α → Except TemplateFailure β) :
    MappingArgument α → Except TemplateFailure (Dict String β)
  | .other => .error (.other (.typeError (fieldName ++ " must be a mapping.")))
  | .mapping items =>
    items.foldlM (fun frozen item => do
      let key ← requireMappingKey item.1 fieldName
      let value ← accept item.2
      .ok (frozen.insert key value)) .empty

/-- `_freeze_policies`; `none` is an object that is no `RenderPolicy`. -/
def freezePolicies : MappingArgument (Option (RenderPolicy V)) →
    Except TemplateFailure (Dict String (RenderPolicy V)) :=
  freezeMapping "policies" fun
    | none => .error (.other (.typeError "policies must contain only RenderPolicy values."))
    | some policy => .ok policy

/-- `_freeze_values`. -/
def freezeValues (value : MappingArgument (Option V)) (fieldName : String) :
    Except TemplateFailure (Dict String (Option V)) :=
  freezeMapping fieldName .ok value

/-- The keys that are no fields. -/
def unknownKeys {α : Type} (values : Dict String α) (knownFields : List FieldName) : List String :=
  values.keys.filter fun key => key ∉ knownFields.map Subtype.val

/-- A dictionary over given fields. -/
abbrev Known (knownFields : List FieldName) (α : Type) : Type :=
  { values : Dict String α // unknownKeys values knownFields = [] }

/-- `_reject_unknown_keys`. -/
def rejectUnknownKeys {α : Type} (values : Dict String α) (knownFields : List FieldName)
    (templateName : NonEmptyString) (fieldName : String) (errorType : TemplateErrorType) :
    Except TemplateFailure (Known knownFields α) :=
  if h : unknownKeys values knownFields = [] then .ok ⟨values, h⟩
  else .error (errorType.error (fieldName ++ " contains fields not present in prompt template " ++
    pyRepr templateName ++ ": " ++
    ", ".intercalate ((unknownKeys values knownFields).map pyRepr) ++ ".") templateName)

/-! ### Templates -/

/-- `PromptTemplate`. -/
structure PromptTemplate (parse : String → ParsedFormat) (V : Type) where
  name : NonEmptyString
  template : NonEmptyString
  parts : List TemplatePart
  fields : List FieldName
  policies : Known fields (RenderPolicy V)
  values : Known fields (Option V)
  parsed : parseTemplate parse name template = .ok (parts, fields)

/-- The arguments `values` and `**overrides` of a method. -/
structure BindingArguments (V : Type) where
  values : Option (MappingArgument (Option V))
  overrides : Dict String (Option V)

/-- Pass on an error that is none of a template. -/
def raising {α : Type} (result : Except Failure α) : Except TemplateFailure α :=
  result.mapError .other

/-- A dictionary as an argument. -/
def MappingArgument.ofDict {α β : Type} (f : α → β) (d : Dict String α) : MappingArgument β :=
  .mapping (d.items.map fun item => (.str item.1, f item.2))

/-- `_validate_strict`; `none` is an object that is no `bool`. -/
def validateStrict : Option Bool → Except TemplateFailure Bool
  | none => .error (.other (.typeError "strict must be a bool."))
  | some strict => .ok strict

namespace PromptTemplate

variable {parse : String → ParsedFormat}

/-- `PromptTemplate.__post_init__`. -/
def make (parse : String → ParsedFormat) (name template : Attribute)
    (policies : MappingArgument (Option (RenderPolicy V)))
    (values : MappingArgument (Option V)) : Except TemplateFailure (PromptTemplate parse V) := do
  let name ← raising (requireNonEmptyString name "name")
  let template ← raising (requireNonEmptyString template "template")
  match h : parseTemplate parse name template with
  | .error failure => .error failure
  | .ok (parts, fields) => do
    let policies ← freezePolicies policies
    let values ← freezeValues values "values"
    let policies ← rejectUnknownKeys policies fields name "policies" .promptDefinitionError
    let values ← rejectUnknownKeys values fields name "values" .promptDefinitionError
    .ok ⟨name, template, parts, fields, policies, values, h⟩

variable (t : PromptTemplate parse V)

/-- `_merge_values`. -/
def mergeValues (arguments : BindingArguments V) (errorType : TemplateErrorType) :
    Except TemplateFailure (Known t.fields (Option V)) := do
  let merged ← match arguments.values with
    | none => .ok t.values.1
    | some values => do .ok (t.values.1.update (← freezeValues values "values"))
  let merged := merged.update arguments.overrides
  rejectUnknownKeys merged t.fields t.name "values" errorType

/-- `with_values`. -/
def withValues (arguments : BindingArguments V) :
    Except TemplateFailure (PromptTemplate parse V) := do
  let merged ← t.mergeValues arguments .promptDefinitionError
  make parse (.str t.name) (.str t.template) (.ofDict some t.policies.1) (.ofDict id merged.1)

/-- `self.policies.get(part.field_name, default_policy)`. -/
def policyOf (objects : ObjectTexts V) (fieldName : FieldName) : RenderPolicy V :=
  (t.policies.1.get? fieldName).getD (optional objects "")

section Rendering

variable (objects : ObjectTexts V) (values : Dict String (Option V)) (preserveMissing : Bool)

/-- The body of the loop of `_render_parts`: what a part appends to the output. -/
def renderPart (part : TemplatePart) : Except TemplateFailure (List String) :=
  match part.fieldName with
  | none => .ok [part.literal]
  | some fieldName =>
    if fieldName.1 ∉ values.keys ∧ preserveMissing = true then
      .ok [part.literal, "\x7b" ++ fieldName ++ "\x7d"]
    else
      let value := (values.get? fieldName).getD none
      match (t.policyOf objects fieldName).call value with
      | .ok rendered => .ok [part.literal, rendered]
      | .error error =>
        if error.cls.isException then
          .error (.render ("Policy for field " ++ pyRepr fieldName ++
            " failed while rendering prompt template " ++ pyRepr t.name ++ ".") t.name
            (some fieldName) [] (some error))
        else .error (.other (.raised error))

/-- The loop of `_render_parts`. -/
def renderLoop (parts : List TemplatePart) (output : List String) :
    Except TemplateFailure (List String) :=
  parts.foldlM (fun output part => do
    let pieces ← t.renderPart objects values preserveMissing part
    .ok (output ++ pieces)) output

/-- `_render_parts`. -/
def renderParts : Except TemplateFailure String := do
  let output ← t.renderLoop objects values preserveMissing t.parts []
  .ok (String.join output)

end Rendering

/-- The fields that are missing. -/
def missing (values : Dict String (Option V)) : List FieldName :=
  t.fields.filter fun fieldName => fieldName.1 ∉ values.keys

/-- The error of `render` for missing fields. -/
def missingValues (missing : List FieldName) : TemplateFailure :=
  .render ("Prompt template " ++ pyRepr t.name ++ " is missing values for: " ++
    ", ".intercalate (missing.map fun item => pyRepr item) ++ ".") t.name none missing none

/-- `render`. -/
def render (objects : ObjectTexts V) (arguments : BindingArguments V) (strict : Option Bool) :
    Except TemplateFailure String := do
  let strict ← validateStrict strict
  let effective ← t.mergeValues arguments .promptRenderError
  let missing := t.missing effective.1
  if strict = true ∧ missing ≠ [] then .error (t.missingValues missing)
  else t.renderParts objects effective.1 false

/-- `render_partial`. -/
def renderPartial (objects : ObjectTexts V) (arguments : BindingArguments V) :
    Except TemplateFailure String := do
  let effective ← t.mergeValues arguments .promptRenderError
  t.renderParts objects effective.1 true

end PromptTemplate

/-! ### What is parsed -/

section Parsed

/-- An item that is put at the end is new or not. -/
lemma eraseDups_concat {α : Type} [BEq α] [LawfulBEq α] (xs : List α) (x : α) :
    (xs ++ [x]).eraseDups = if x ∈ xs.eraseDups then xs.eraseDups else xs.eraseDups ++ [x] := by
  rw [List.eraseDups_append]
  by_cases hx : x ∈ xs <;> simp [List.removeAll, List.eraseDups_cons, hx]

variable {parse : String → ParsedFormat} {name template : NonEmptyString}

/-- The fields are those of the parts, in the order in which they appear first. -/
def FirstAppearance (parsed : List TemplatePart × List FieldName) : Prop :=
  parsed.2 = (parsed.1.filterMap TemplatePart.fieldName).eraseDups

lemma parseItem_firstAppearance {parsed parsed' : List TemplatePart × List FieldName}
    {item : ParsedItem} (h : parseItem name parsed item = .ok parsed')
    (hfirst : FirstAppearance parsed) : FirstAppearance parsed' := by
  unfold parseItem at h
  split at h
  · cases h
    show parsed.2 = _
    rw [List.filterMap_append, List.filterMap_cons_none rfl, List.filterMap_nil, List.append_nil]
    exact hfirst
  · obtain ⟨fieldName, -, h⟩ := bind_eq_ok.1 h
    split at h
    · cases h
    · cases h
      show (if fieldName ∈ parsed.2 then parsed.2 else parsed.2 ++ [fieldName]) = _
      rw [List.filterMap_append, List.filterMap_cons_some (f := TemplatePart.fieldName) rfl,
        List.filterMap_nil, eraseDups_concat, ← hfirst]

lemma parseItems_firstAppearance {items : List ParsedItem}
    {parsed parsed' : List TemplatePart × List FieldName}
    (h : items.foldlM (parseItem name) parsed = .ok parsed') (hfirst : FirstAppearance parsed) :
    FirstAppearance parsed' := by
  induction items generalizing parsed with
  | nil =>
    cases h
    exact hfirst
  | cons item items ih =>
    rw [List.foldlM_cons] at h
    obtain ⟨next, hitem, h⟩ := bind_eq_ok.1 h
    exact ih h (parseItem_firstAppearance hitem hfirst)

/-- **The fields of a parsed template stand in the order in which they appear first.** -/
theorem parseTemplate_firstAppearance {parsed : List TemplatePart × List FieldName}
    (h : parseTemplate parse name template = .ok parsed) : FirstAppearance parsed := by
  obtain ⟨parsed', hitems, h⟩ := bind_eq_ok.1 h
  split at h
  · cases h
    exact parseItems_firstAppearance hitems rfl
  · cases h

end Parsed

/-! ### What is merged -/

section Merged

lemma unknownKeys_eq_nil {α : Type} {values : Dict String α} {fields : List FieldName} :
    unknownKeys values fields = [] ↔ ∀ key ∈ values.keys, ∃ field ∈ fields, field.1 = key := by
  rw [unknownKeys, List.filter_eq_nil_iff]
  refine forall₂_congr fun key _ => ?_
  rw [decide_eq_true_iff, not_not, List.mem_map]

/-- A field has a name. -/
lemma FieldName.ne_empty (field : FieldName) : field.1 ≠ "" := by
  intro h
  have hvalid := field.2
  rw [h] at hvalid
  cases hvalid

lemma ne_empty_of_known {α : Type} {fields : List FieldName} {values : Dict String α}
    (h : unknownKeys values fields = []) {key : String} (hkey : key ∈ values.keys) : key ≠ "" := by
  obtain ⟨field, -, rfl⟩ := unknownKeys_eq_nil.1 h key hkey
  exact field.ne_empty

lemma rejectUnknownKeys_of_known {α : Type} {fields : List FieldName} {values : Dict String α}
    (h : unknownKeys values fields = []) (templateName : NonEmptyString) (fieldName : String)
    (errorType : TemplateErrorType) :
    rejectUnknownKeys values fields templateName fieldName errorType = .ok ⟨values, h⟩ :=
  dif_pos h

/-- Keys stay known when values over the fields are laid over. -/
lemma unknownKeys_update {α : Type} {fields : List FieldName} {d e : Dict String α}
    (hd : unknownKeys d fields = []) (he : unknownKeys e fields = []) :
    unknownKeys (d.update e) fields = [] := by
  rw [unknownKeys_eq_nil] at hd he ⊢
  intro key hkey
  exact (Dict.mem_keys_update.1 hkey).elim (hd key) (he key)

/-- Freezing items that are accepted inserts them one by one. -/
lemma freezeItems_eq {α β : Type} (fieldName : String) {accept : α → Except TemplateFailure β}
    {f : β → α} (haccept : ∀ b, accept (f b) = .ok b) {items : List (String × β)}
    (hkeys : ∀ item ∈ items, item.1 ≠ "") (d : Dict String β) :
    (items.map fun item => (Attribute.str item.1, f item.2)).foldlM (fun frozen item => do
      let key ← requireMappingKey item.1 fieldName
      let value ← accept item.2
      .ok (frozen.insert key value)) d = .ok (d.insertAll items) := by
  induction items generalizing d with
  | nil => rfl
  | cons item items ih =>
    have hkey : requireMappingKey (.str item.1) fieldName = .ok item.1 :=
      if_neg (hkeys item List.mem_cons_self)
    rw [List.map_cons, List.foldlM_cons, hkey, haccept]
    exact ih (fun other hother => hkeys other (List.mem_cons_of_mem _ hother)) _

/-- A dictionary with keys that are not empty is frozen as it is. -/
lemma freezeMapping_ofDict {α β : Type} {fieldName : String}
    {accept : α → Except TemplateFailure β} {f : β → α} (haccept : ∀ b, accept (f b) = .ok b)
    {d : Dict String β} (hkeys : ∀ key ∈ d.keys, key ≠ "") :
    freezeMapping fieldName accept (.ofDict f d) = .ok d := by
  have hitems := freezeItems_eq fieldName haccept
    (fun item hitem => hkeys item.1 (List.mem_map_of_mem hitem)) .empty
  exact hitems.trans (congrArg Except.ok Dict.empty_update)

lemma raising_requireNonEmptyString (value : NonEmptyString) (fieldName : String) :
    raising (requireNonEmptyString (.str value) fieldName) = .ok value := by
  rw [requireNonEmptyString, dif_neg value.2]
  rfl

namespace PromptTemplate

variable {parse : String → ParsedFormat} (t : PromptTemplate parse V)

/-- The fields are those of the parts, in the order in which they appear first. -/
theorem fields_eq : t.fields = (t.parts.filterMap TemplatePart.fieldName).eraseDups :=
  parseTemplate_firstAppearance t.parsed

/-- **The constructor accepts the data of a template**, with any values over its fields. -/
theorem make_self (values : Known t.fields (Option V)) :
    make parse (.str t.name) (.str t.template) (.ofDict some t.policies.1) (.ofDict id values.1) =
      .ok { t with values := values } := by
  have hpolicies : freezePolicies (.ofDict some t.policies.1) = .ok t.policies.1 :=
    freezeMapping_ofDict (f := some) (fun _ => rfl) fun _ => ne_empty_of_known t.policies.2
  have hvalues : freezeValues (.ofDict id values.1) "values" = .ok values.1 :=
    freezeMapping_ofDict (f := id) (fun _ => rfl) fun _ => ne_empty_of_known values.2
  unfold make
  rw [raising_requireNonEmptyString, raising_requireNonEmptyString]
  simp only [bind, Except.bind]
  split
  · next failure h =>
    rw [t.parsed] at h
    cases h
  · next parts fields h =>
    have hsame := Except.ok.inj (h.symm.trans t.parsed)
    obtain rfl : parts = t.parts := congrArg Prod.fst hsame
    obtain rfl : fields = t.fields := congrArg Prod.snd hsame
    rw [hpolicies, hvalues]
    dsimp only
    rw [rejectUnknownKeys_of_known t.policies.2]
    dsimp only
    rw [rejectUnknownKeys_of_known values.2]

end PromptTemplate

end Merged

end PurrceptCore
