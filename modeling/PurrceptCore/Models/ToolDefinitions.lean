import PurrceptCore.Exceptions
import PurrceptCore.Lists.Dict
import PurrceptCore.Models.ToolInvocation

set_option relaxedAutoImplicit false
set_option autoImplicit false

/-!
# Defining a tool

`_build_definitions`, `_split_parameter_metadata` and `_create_field` (`tools/_schema.py`): the
parameters of a callable become fields of a Pydantic model, and a `ToolContext` parameter is left
out of it, to be injected.

## Main definitions

* `PurrceptCore.Signature`, `PurrceptCore.TypeHint` — a signature, and the annotations of its
  parameters.
* `PurrceptCore.buildDefinitions` — the fields, and what `ArgumentAdapter` keeps.
* `PurrceptCore.Signature.bind` — how a call with keyword arguments binds to a signature.
* `PurrceptCore.fault?` — what is wrong with a parameter.

## Main results

* `PurrceptCore.build_definitions_iff` — a callable is defined exactly if nothing is wrong with any
  of its parameters, and the first that is wrong is reported.
* `PurrceptCore.tool_calls_bind` — a validated call binds to the signature.

## Design

* Annotations are told apart as far as the code looks at them. The types that Pydantic reads are
  objects.
* A call binds or raises a `TypeError`, of which the text is left out.
-/

namespace PurrceptCore

open Interaction

/-! ### Signatures -/

/-- `inspect.Parameter.kind`. -/
inductive ParameterKind
  | positionalOnly
  | positionalOrKeyword
  | varPositional
  | keywordOnly
  | varKeyword
  deriving DecidableEq

namespace ParameterKind

/-- Its `description`. -/
def description : ParameterKind → String
  | positionalOnly => "positional-only"
  | positionalOrKeyword => "positional or keyword"
  | varPositional => "variadic positional"
  | keywordOnly => "keyword-only"
  | varKeyword => "variadic keyword"

/-- A parameter of this kind takes an argument of its name. -/
def byName : ParameterKind → Bool
  | positionalOrKeyword | keywordOnly => true
  | positionalOnly | varPositional | varKeyword => false

end ParameterKind

/-- `inspect.Parameter`; `none` for a default or an annotation that is `Parameter.empty`. -/
structure SignatureParameter where
  name : String
  kind : ParameterKind
  hasAnnotation : Bool
  default : Option ObjId

/-- `inspect.Signature`. -/
structure Signature where
  parameters : List SignatureParameter
  names_nodup : (parameters.map (·.name)).Nodup

/-- The options that `_create_field` reads of a `ToolParameter`. -/
inductive FieldOption
  | description | ge | le | gt | lt | minLength | maxLength | pattern | strict
  deriving DecidableEq

/-- The options, in the order in which they are read. -/
def FieldOption.all : List FieldOption :=
  [description, ge, le, gt, lt, minLength, maxLength, pattern, strict]

/-- The value of an option. -/
inductive OptionValue
  | text (value : String)
  | object (value : ObjId)

/-- `ToolParameter`; `none` for an option that is `None`. -/
structure ToolParameter where
  value : FieldOption → Option OptionValue

/-- What an annotation is of. -/
inductive AnnotatedType
  | toolContext
  | other (type : ObjId)

/-- A metadata item of `Annotated`. -/
inductive MetadataItem
  | toolParameter (parameter : ToolParameter)
  | other (object : ObjId)

/-- A resolved annotation. -/
inductive TypeHint
  | exact (type : AnnotatedType)
  | annotated (base : AnnotatedType) (metadata : List MetadataItem)

/-- The resolved type hints. -/
abbrev TypeHints : Type := String → Option TypeHint

/-! ### Building definitions -/

/-- `ToolDefinitionError`, with a tool name. -/
structure ToolDefinitionError where
  message : String
  toolName : String
  deriving DecidableEq

/-- `Field(default, **options)`; the default `...` is `none`. -/
structure FieldInfo where
  default : Option ObjId
  options : Dict FieldOption OptionValue

/-- The `ToolParameter` that a metadata item is. -/
def MetadataItem.toolParameter? : MetadataItem → Option ToolParameter
  | toolParameter parameter => some parameter
  | other _ => none

/-- The metadata item that is no `ToolParameter`. -/
def MetadataItem.other? : MetadataItem → Option MetadataItem
  | toolParameter _ => none
  | other object => some (other object)

/-- The names of a tool and a parameter, as the texts of the errors begin with them. -/
def parameterText (toolName parameterName : String) : String :=
  "Tool " ++ pyRepr toolName ++ " parameter " ++ pyRepr parameterName

/-- `_split_parameter_metadata`. -/
def splitParameterMetadata (hint : TypeHint) (toolName parameterName : String) :
    Except ToolDefinitionError (TypeHint × Option ToolParameter) :=
  match hint with
  | .exact type => .ok (.exact type, none)
  | .annotated base metadata =>
    let toolParameters := metadata.filterMap MetadataItem.toolParameter?
    if 1 < toolParameters.length then
      .error ⟨parameterText toolName parameterName ++
        " has more than one ToolParameter annotation.", toolName⟩
    else
      match base with
      | .toolContext =>
        .error ⟨parameterText toolName parameterName ++
          " must annotate ToolContext exactly, without Annotated metadata.", toolName⟩
      | .other type =>
        let remaining := metadata.filterMap MetadataItem.other?
        let exposed :=
          if remaining = [] then .exact (.other type) else .annotated (.other type) remaining
        .ok (exposed, toolParameters.head?)

/-- The loop body of `_create_field`. -/
def readOption (parameter : ToolParameter) (options : Dict FieldOption OptionValue)
    (name : FieldOption) : Dict FieldOption OptionValue :=
  match parameter.value name with
  | none => options
  | some value => options.insert name value

/-- `_create_field`. -/
def createField (default : Option ObjId) (metadata : Option ToolParameter)
    (fallbackDescription : Option String) : FieldInfo :=
  let options := match fallbackDescription with
    | none => .empty
    | some description => Dict.empty.insert FieldOption.description (.text description)
  match metadata with
  | none => ⟨default, options⟩
  | some parameter =>
    ⟨default, FieldOption.all.foldl (readOption parameter) options⟩

/-- What `_build_definitions` returns. -/
structure Definitions where
  definitions : Dict String (TypeHint × FieldInfo)
  parameterNames : List String
  contextParameter : Option String

section Building

variable (toolName : String) (typeHints : TypeHints) (parameterDescriptions : Dict String String)

/-- The loop body of `_build_definitions`. -/
def defineParameter (built : Definitions) (parameter : SignatureParameter) :
    Except ToolDefinitionError Definitions :=
  if !parameter.kind.byName then
    .error ⟨parameterText toolName parameter.name ++ " uses unsupported kind " ++
      pyRepr parameter.kind.description ++ ".", toolName⟩
  else if !parameter.hasAnnotation then
    .error ⟨parameterText toolName parameter.name ++ " must have a type annotation.", toolName⟩
  else
    match typeHints parameter.name with
    | none =>
      .error ⟨"Cannot resolve annotation for tool " ++ pyRepr toolName ++ " parameter " ++
        pyRepr parameter.name ++ ".", toolName⟩
    | some (.exact .toolContext) =>
      if built.contextParameter.isSome then
        .error ⟨"Tool " ++ pyRepr toolName ++
          " must not declare more than one ToolContext parameter.", toolName⟩
      else
        .ok { built with contextParameter := some parameter.name }
    | some hint => do
      let (exposed, metadata) ← splitParameterMetadata hint toolName parameter.name
      .ok { built with
        definitions := built.definitions.insert parameter.name
          (exposed, createField parameter.default metadata
            (parameterDescriptions.get? parameter.name))
        parameterNames := built.parameterNames ++ [parameter.name] }

/-- `_build_definitions`. -/
def buildDefinitions (resolvedSignature : Signature) : Except ToolDefinitionError Definitions :=
  resolvedSignature.parameters.foldlM (defineParameter toolName typeHints parameterDescriptions)
    ⟨.empty, [], none⟩

end Building

/-- What an `ArgumentAdapter` keeps. -/
def Definitions.adapter (built : Definitions) : ArgumentAdapter :=
  ⟨built.parameterNames, built.contextParameter⟩

/-! ### Calling with keyword arguments -/

/-- What a parameter is bound to. -/
inductive BoundArgument (α : Type)
  | given (value : α)
  | default (value : ObjId)
  /-- `*args`, which is empty, or `**kwargs`. -/
  | variadic (values : List (String × α))

/-- A call may pass an argument of this name. -/
def Signature.accepts (signature : Signature) (name : String) : Bool :=
  signature.parameters.any fun parameter =>
    (parameter.name = name && parameter.kind.byName) || parameter.kind = .varKeyword

/-- What a parameter is bound to by a call; `none` if its argument is missing. -/
def SignatureParameter.bind {α : Type} (parameter : SignatureParameter)
    (rest arguments : List (String × α)) : Option (String × BoundArgument α) :=
  let value : Option (BoundArgument α) := match parameter.kind with
    | .varPositional => some (.variadic [])
    | .varKeyword => some (.variadic rest)
    | .positionalOnly => parameter.default.map .default
    | .positionalOrKeyword | .keywordOnly =>
      ((arguments.lookup parameter.name).map .given).or (parameter.default.map .default)
  value.map (Prod.mk parameter.name)

/-- `function(**arguments)`: what the parameters are bound to; `none` if it raises a `TypeError`. -/
def Signature.bind {α : Type} (signature : Signature) (arguments : List (String × α)) :
    Option (List (String × BoundArgument α)) :=
  if arguments.all fun argument => signature.accepts argument.1 then
    let rest := arguments.filter fun argument =>
      !signature.parameters.any fun parameter =>
        parameter.name = argument.1 && parameter.kind.byName
    signature.parameters.mapM (SignatureParameter.bind · rest arguments)
  else
    none

/-! ### What is wrong with a parameter -/

section Faults

variable (toolName : String) (typeHints : TypeHints) (parameterDescriptions : Dict String String)

/-- The parameter is annotated as `ToolContext` exactly. -/
def isContext (parameter : SignatureParameter) : Bool :=
  match typeHints parameter.name with
  | some (.exact .toolContext) => true
  | _ => false

/-- What is wrong with an annotation. -/
def annotationFault? (parameterName : String) : TypeHint → Option ToolDefinitionError
  | .exact _ => none
  | .annotated base metadata =>
    if 1 < (metadata.filterMap MetadataItem.toolParameter?).length then
      some ⟨parameterText toolName parameterName ++
        " has more than one ToolParameter annotation.", toolName⟩
    else
      match base with
      | .toolContext => some ⟨parameterText toolName parameterName ++
          " must annotate ToolContext exactly, without Annotated metadata.", toolName⟩
      | .other _ => none

/-- **What is wrong with a parameter**, if there was a `ToolContext` parameter before it or not. -/
def fault? (seen : Bool) (parameter : SignatureParameter) : Option ToolDefinitionError :=
  if !parameter.kind.byName then
    some ⟨parameterText toolName parameter.name ++ " uses unsupported kind " ++
      pyRepr parameter.kind.description ++ ".", toolName⟩
  else if !parameter.hasAnnotation then
    some ⟨parameterText toolName parameter.name ++ " must have a type annotation.", toolName⟩
  else
    match typeHints parameter.name with
    | none => some ⟨"Cannot resolve annotation for tool " ++ pyRepr toolName ++ " parameter " ++
        pyRepr parameter.name ++ ".", toolName⟩
    | some hint =>
      if isContext typeHints parameter && seen then
        some ⟨"Tool " ++ pyRepr toolName ++
          " must not declare more than one ToolContext parameter.", toolName⟩
      else
        annotationFault? toolName parameter.name hint

/-- What the model sees of an annotation: no `ToolParameter`, and all other metadata in order. -/
def TypeHint.exposed : TypeHint → TypeHint
  | exact type => .exact type
  | annotated base metadata =>
    let remaining := metadata.filterMap MetadataItem.other?
    if remaining = [] then .exact base else .annotated base remaining

/-- The `ToolParameter` of an annotation. -/
def TypeHint.toolParameter? : TypeHint → Option ToolParameter
  | exact _ => none
  | annotated _ metadata => (metadata.filterMap MetadataItem.toolParameter?).head?

/-- The field of a parameter. -/
def fieldOf (parameter : SignatureParameter) : TypeHint × FieldInfo :=
  let hint := (typeHints parameter.name).getD (.exact .toolContext)
  (hint.exposed, createField parameter.default hint.toolParameter?
    (parameterDescriptions.get? parameter.name))

/-- One more parameter. -/
def Definitions.add (built : Definitions) (parameter : SignatureParameter) : Definitions :=
  if isContext typeHints parameter then
    { built with contextParameter := some parameter.name }
  else
    { built with
      definitions := built.definitions.insert parameter.name
        (fieldOf typeHints parameterDescriptions parameter)
      parameterNames := built.parameterNames ++ [parameter.name] }

/-- Splitting an annotation. -/
lemma splitParameterMetadata_eq (hint : TypeHint) (parameterName : String) :
    splitParameterMetadata hint toolName parameterName =
      (annotationFault? toolName parameterName hint).elim
        (.ok (hint.exposed, hint.toolParameter?)) .error := by
  cases hint with
  | exact type => rfl
  | annotated base metadata =>
    simp only [splitParameterMetadata, annotationFault?]
    split
    · rfl
    · cases base <;> rfl

/-- The loop body, on any parameter. -/
lemma defineParameter_eq (built : Definitions) (parameter : SignatureParameter) :
    defineParameter toolName typeHints parameterDescriptions built parameter =
      (fault? toolName typeHints built.contextParameter.isSome parameter).elim
        (.ok (built.add typeHints parameterDescriptions parameter)) .error := by
  unfold defineParameter fault?
  split
  · rfl
  split
  · rfl
  split
  · next hnone => rw [hnone]; rfl
  · next hcontext =>
    have his : isContext typeHints parameter = true := by
      rw [isContext, hcontext]
    rw [hcontext, his, Bool.true_and, Definitions.add, if_pos his]
    split <;> rfl
  · next hint hne hhint =>
    have his : isContext typeHints parameter = false := by
      unfold isContext
      split
      · next hcontext =>
        rw [hhint] at hcontext
        exact absurd hcontext (by simpa using hne)
      · rfl
    have hfield : fieldOf typeHints parameterDescriptions parameter = (hint.exposed,
        createField parameter.default hint.toolParameter?
          (parameterDescriptions.get? parameter.name)) := by
      rw [fieldOf, hhint]
      rfl
    rw [splitParameterMetadata_eq, Definitions.add, hfield, hhint, his, Bool.false_and]
    show _ = (annotationFault? toolName parameter.name hint).elim _ _
    cases annotationFault? toolName parameter.name hint <;> rfl

/-- The first parameter of a list that something is wrong with. -/
def firstFault? (seen : Bool) : List SignatureParameter → Option ToolDefinitionError
  | [] => none
  | parameter :: parameters =>
    (fault? toolName typeHints seen parameter).or
      (firstFault? (seen || isContext typeHints parameter) parameters)

/-- The loop, on any parameters. -/
lemma foldlM_defineParameter (parameters : List SignatureParameter) (built : Definitions) :
    parameters.foldlM (defineParameter toolName typeHints parameterDescriptions) built =
      (firstFault? toolName typeHints built.contextParameter.isSome parameters).elim
        (.ok (parameters.foldl (Definitions.add typeHints parameterDescriptions) built))
        .error := by
  induction parameters generalizing built with
  | nil => rfl
  | cons parameter parameters ih =>
    have hseen : (built.add typeHints parameterDescriptions parameter).contextParameter.isSome =
        (built.contextParameter.isSome || isContext typeHints parameter) := by
      unfold Definitions.add
      split
      · next his => rw [his, Bool.or_true]; rfl
      · next his => rw [Bool.eq_false_iff.2 his, Bool.or_false]
    rw [List.foldlM_cons, defineParameter_eq, firstFault?, List.foldl_cons]
    cases fault? toolName typeHints built.contextParameter.isSome parameter with
    | some e => rfl
    | none =>
      rw [← hseen]
      exact ih _

/-- An annotation that the code takes: of a `ToolContext` exactly, or of another type with at most
one `ToolParameter`. -/
def TypeHint.Allowed : TypeHint → Prop
  | exact _ => True
  | annotated base metadata =>
    (metadata.filterMap MetadataItem.toolParameter?).length ≤ 1 ∧ ∃ type, base = .other type

/-- **A parameter that the code takes.** -/
structure Supported (parameter : SignatureParameter) : Prop where
  byName : parameter.kind.byName = true
  annotated : parameter.hasAnnotation = true
  resolved : ∃ hint, typeHints parameter.name = some hint ∧ hint.Allowed

/-- Nothing is wrong with the annotations that the code takes. -/
lemma annotationFault?_eq_none_iff {parameterName : String} {hint : TypeHint} :
    annotationFault? toolName parameterName hint = none ↔ hint.Allowed := by
  cases hint with
  | exact type => exact ⟨fun _ => trivial, fun _ => rfl⟩
  | annotated base metadata =>
    unfold annotationFault? TypeHint.Allowed
    dsimp only
    rw [← not_lt]
    split
    · next hmany => exact ⟨fun h => (by cases h), fun h => absurd hmany h.1⟩
    · next hmany =>
      cases base with
      | toolContext => exact ⟨fun h => (by cases h), fun ⟨_, _, h⟩ => (by cases h)⟩
      | other type => exact ⟨fun _ => ⟨hmany, type, rfl⟩, fun _ => rfl⟩

/-- Nothing is wrong with the parameters that the code takes, but a second `ToolContext`. -/
lemma fault?_eq_none_iff {seen : Bool} {parameter : SignatureParameter} :
    fault? toolName typeHints seen parameter = none ↔
      Supported typeHints parameter ∧ ¬ (isContext typeHints parameter ∧ seen) := by
  unfold fault?
  rw [← Bool.and_eq_true]
  constructor
  · intro h
    split at h
    · cases h
    next hkind =>
    split at h
    · cases h
    next hannotated =>
    split at h
    · cases h
    next hint hhint =>
    split at h
    · cases h
    next hcontext =>
    have hallowed := (annotationFault?_eq_none_iff toolName).1 h
    exact ⟨⟨by simpa using hkind, by simpa using hannotated, hint, hhint, hallowed⟩,
      hcontext⟩
  · rintro ⟨⟨hkind, hannotated, hint, hhint, hallowed⟩, hcontext⟩
    rw [hkind, hannotated, hhint, Bool.not_true, if_neg Bool.false_ne_true,
      if_neg Bool.false_ne_true]
    dsimp only
    rw [if_neg hcontext]
    exact (annotationFault?_eq_none_iff toolName).2 hallowed

/-- **Nothing is wrong with a list of parameters** if the code takes each of them and at most one
is a `ToolContext`. -/
lemma firstFault?_eq_none_iff {seen : Bool} {parameters : List SignatureParameter} :
    firstFault? toolName typeHints seen parameters = none ↔
      (∀ parameter ∈ parameters, Supported typeHints parameter) ∧
        parameters.countP (isContext typeHints) + seen.toNat ≤ 1 := by
  induction parameters generalizing seen with
  | nil => simp [firstFault?, Bool.toNat_le]
  | cons parameter parameters ih =>
    rw [firstFault?, Option.or_eq_none_iff, fault?_eq_none_iff, ih, List.forall_mem_cons,
      List.countP_cons]
    cases seen <;> cases hcontext : isContext typeHints parameter <;>
      simp [and_assoc]

/-- **The fault that is reported** is that of the first parameter with one. -/
lemma firstFault?_eq_some_iff {seen : Bool} {parameters : List SignatureParameter}
    {e : ToolDefinitionError} : firstFault? toolName typeHints seen parameters = some e ↔
      ∃ before parameter after, parameters = before ++ parameter :: after ∧
        firstFault? toolName typeHints seen before = none ∧
        fault? toolName typeHints (seen || before.any (isContext typeHints)) parameter =
          some e := by
  induction parameters generalizing seen with
  | nil =>
    refine ⟨fun h => (by cases h), ?_⟩
    rintro ⟨before, parameter, after, h, -⟩
    exact absurd h.symm (List.append_ne_nil_of_right_ne_nil before (List.cons_ne_nil _ _))
  | cons first parameters ih =>
    rw [firstFault?]
    constructor
    · intro h
      cases hfirst : fault? toolName typeHints seen first with
      | some e' =>
        rw [hfirst] at h
        refine ⟨[], first, parameters, rfl, rfl, ?_⟩
        rw [List.any_nil, Bool.or_false, hfirst]
        exact h
      | none =>
        rw [hfirst, Option.none_or, ih] at h
        obtain ⟨before, parameter, after, rfl, hbefore, hfault⟩ := h
        refine ⟨first :: before, parameter, after, rfl, ?_, ?_⟩
        · rw [firstFault?, hfirst, Option.none_or, hbefore]
        · rw [List.any_cons, ← Bool.or_assoc, hfault]
    · rintro ⟨before, parameter, after, hsplit, hbefore, hfault⟩
      cases before with
      | nil =>
        obtain ⟨rfl, rfl⟩ := List.cons.inj hsplit
        rw [List.any_nil, Bool.or_false] at hfault
        rw [hfault]
        rfl
      | cons head before =>
        obtain ⟨rfl, rfl⟩ := List.cons.inj hsplit
        rw [firstFault?, Option.or_eq_none_iff] at hbefore
        rw [hbefore.1, Option.none_or, ih]
        rw [List.any_cons, ← Bool.or_assoc] at hfault
        exact ⟨before, parameter, after, rfl, hbefore.2, hfault⟩

end Faults

/-! ### What is built -/

/-- Reading an option. -/
lemma get?_readOption (parameter : ToolParameter) (options : Dict FieldOption OptionValue)
    (name option : FieldOption) : (readOption parameter options name).get? option =
      if option = name then (parameter.value option).or (options.get? option)
      else options.get? option := by
  unfold readOption
  split
  · next hvalue =>
    split
    · next h => rw [h, hvalue, Option.none_or]
    · rfl
  · next value hvalue =>
    rw [Dict.get?_insert]
    split
    · next h => rw [h, hvalue, Option.some_or]
    · rfl

/-- Reading options one by one. -/
lemma get?_foldl_readOption (parameter : ToolParameter) (names : List FieldOption)
    (options : Dict FieldOption OptionValue) (option : FieldOption) :
    (names.foldl (readOption parameter) options).get? option =
      if option ∈ names then (parameter.value option).or (options.get? option)
      else options.get? option := by
  induction names generalizing options with
  | nil => rfl
  | cons name names ih =>
    rw [List.foldl_cons, ih, get?_readOption]
    by_cases hname : option = name
    · have hmem : option ∈ name :: names := hname ▸ List.mem_cons_self
      rw [if_pos hname, if_pos hmem]
      split
      · rw [← Option.or_assoc, Option.or_self]
      · rfl
    · have hmem : option ∈ name :: names ↔ option ∈ names := by
        rw [List.mem_cons, or_iff_right hname]
      rw [if_neg hname]
      simp only [hmem]

/-- **The options of a field**: those of the `ToolParameter`, and then the description that is
given otherwise. -/
lemma createField_options (default : Option ObjId) (metadata : Option ToolParameter)
    (fallback : Option String) (option : FieldOption) :
    (createField default metadata fallback).options.get? option =
      (metadata.bind (·.value option)).or
        (if option = .description then fallback.map .text else none) := by
  have hfallback : Dict.get? (match fallback with
      | none => .empty
      | some description => Dict.empty.insert FieldOption.description (.text description))
      option = if option = .description then fallback.map OptionValue.text else none := by
    cases fallback with
    | none => rw [Option.map_none, ite_self]; rfl
    | some description => rw [Dict.get?_insert]; rfl
  cases metadata with
  | none => exact hfallback
  | some parameter =>
    have hall : option ∈ FieldOption.all := by
      cases option <;> decide
    show Dict.get? (FieldOption.all.foldl _ _) option = _
    rw [get?_foldl_readOption, if_pos hall, hfallback]
    rfl

lemma createField_default (default : Option ObjId) (metadata : Option ToolParameter)
    (fallback : Option String) : (createField default metadata fallback).default = default := by
  cases metadata <;> rfl

section Built

variable (toolName : String) (typeHints : TypeHints) (parameterDescriptions : Dict String String)

/-- The parameters that the model sees. -/
def exposedParameters (parameters : List SignatureParameter) : List SignatureParameter :=
  parameters.filter fun parameter => !isContext typeHints parameter

/-- The parameters one by one. -/
lemma foldl_add (parameters : List SignatureParameter) (built : Definitions)
    (hnodup : (built.definitions.keys ++ parameters.map (·.name)).Nodup) :
    let result := parameters.foldl (Definitions.add typeHints parameterDescriptions) built
    result.definitions.items = built.definitions.items ++
        (exposedParameters typeHints parameters).map (fun parameter =>
          (parameter.name, fieldOf typeHints parameterDescriptions parameter)) ∧
      result.parameterNames = built.parameterNames ++
        (exposedParameters typeHints parameters).map (·.name) ∧
      result.contextParameter =
        ((parameters.filter (isContext typeHints)).getLast?.map (·.name)).or
          built.contextParameter := by
  induction parameters generalizing built with
  | nil => simp [exposedParameters]
  | cons parameter parameters ih =>
    rw [List.map_cons] at hnodup
    unfold exposedParameters at ih ⊢
    rw [List.foldl_cons]
    cases hcontext : isContext typeHints parameter with
    | true =>
      have hadd : built.add typeHints parameterDescriptions parameter =
          { built with contextParameter := some parameter.name } := if_pos hcontext
      rw [hadd]
      obtain ⟨hitems, hnames, hlast⟩ := ih { built with contextParameter := some parameter.name }
        (hnodup.sublist ((List.sublist_cons_self _ _).append_left _))
      refine ⟨?_, ?_, ?_⟩
      · rw [hitems, List.filter_cons_of_neg (by simp [hcontext])]
      · rw [hnames, List.filter_cons_of_neg (by simp [hcontext])]
      · rw [hlast, List.filter_cons_of_pos hcontext, List.getLast?_cons]
        cases (parameters.filter (isContext typeHints)).getLast? <;> rfl
    | false =>
      have hadd : built.add typeHints parameterDescriptions parameter = { built with
          definitions := built.definitions.insert parameter.name
            (fieldOf typeHints parameterDescriptions parameter)
          parameterNames := built.parameterNames ++ [parameter.name] } :=
        if_neg (by rw [hcontext]; exact Bool.false_ne_true)
      have hnew : parameter.name ∉ built.definitions.keys := fun h =>
        (List.nodup_append.1 hnodup).2.2 _ h _ List.mem_cons_self rfl
      rw [hadd]
      obtain ⟨hitems, hnames, hlast⟩ := ih { built with
        definitions := built.definitions.insert parameter.name
          (fieldOf typeHints parameterDescriptions parameter)
        parameterNames := built.parameterNames ++ [parameter.name] } (by
          rwa [Dict.keys_insert, if_neg hnew, List.append_assoc])
      refine ⟨?_, ?_, ?_⟩
      · rw [hitems, Dict.items_insert_of_notMem hnew, List.filter_cons_of_pos (by simp [hcontext]),
          List.map_cons, List.append_assoc, List.singleton_append]
      · rw [hnames, List.filter_cons_of_pos (by simp [hcontext]), List.map_cons, List.append_assoc,
          List.singleton_append]
      · rw [hlast, List.filter_cons_of_neg (by simp [hcontext])]

/-- **What a signature is translated to.** -/
structure Translates (parameters : List SignatureParameter) (built : Definitions) : Prop where
  /-- There is a field for each parameter but the context, in their order. -/
  keys : built.definitions.keys = (exposedParameters typeHints parameters).map (·.name)
  parameterNames : built.parameterNames = built.definitions.keys
  /-- A description that is given explicitly comes before that of the docstring. -/
  fields : ∀ parameter ∈ exposedParameters typeHints parameters,
    ∃ hint field, typeHints parameter.name = some hint ∧
      built.definitions.get? parameter.name = some (hint.exposed, field) ∧
      field.default = parameter.default ∧
      ∀ option, field.options.get? option = (hint.toolParameter?.bind (·.value option)).or
        (if option = .description then (parameterDescriptions.get? parameter.name).map .text
          else none)
  /-- The context is the parameter that is annotated so. -/
  context : built.contextParameter = (parameters.find? (isContext typeHints)).map (·.name)

variable {toolName typeHints parameterDescriptions} in
/-- What is built of a signature. -/
lemma translates_of_build {signature : Signature} {built : Definitions}
    (h : buildDefinitions toolName typeHints parameterDescriptions signature = .ok built) :
    Translates typeHints parameterDescriptions signature.parameters built ∧
      (∀ parameter ∈ signature.parameters, Supported typeHints parameter) ∧
      signature.parameters.countP (isContext typeHints) ≤ 1 := by
  unfold buildDefinitions at h
  rw [foldlM_defineParameter] at h
  cases hfault : firstFault? toolName typeHints (none : Option String).isSome
      signature.parameters with
  | some e =>
    rw [hfault] at h
    cases h
  | none =>
    rw [hfault] at h
    obtain ⟨hsupported, hcount⟩ := (firstFault?_eq_none_iff toolName typeHints).1 hfault
    obtain ⟨hitems, hnames, hlast⟩ := foldl_add typeHints parameterDescriptions
      signature.parameters ⟨.empty, [], none⟩ signature.names_nodup
    obtain rfl := Except.ok.inj h
    have hkeys : (signature.parameters.foldl (Definitions.add typeHints parameterDescriptions)
        ⟨.empty, [], none⟩).definitions.keys =
          (exposedParameters typeHints signature.parameters).map (·.name) := by
      rw [Dict.keys, hitems, List.map_append, List.map_map]
      rfl
    refine ⟨⟨hkeys, hnames.trans hkeys.symm, ?_, ?_⟩, hsupported, hcount⟩
    · intro parameter hparameter
      obtain ⟨hint, hhint, -⟩ :=
        (hsupported parameter (List.mem_of_mem_filter hparameter)).resolved
      have hmem := List.mem_map_of_mem (f := fun parameter : SignatureParameter =>
        (parameter.name, fieldOf typeHints parameterDescriptions parameter)) hparameter
      have hget := Dict.get?_of_mem (hitems ▸ List.mem_append_right _ hmem)
      refine ⟨hint, _, hhint, hget.trans ?_,
        createField_default parameter.default hint.toolParameter? _,
        createField_options parameter.default hint.toolParameter? _⟩
      rw [fieldOf, hhint]
      rfl
    · rw [hlast, Option.or_none, ← List.head?_filter]
      rw [List.countP_eq_length_filter] at hcount
      congr 1
      cases hcontexts : signature.parameters.filter (isContext typeHints) with
      | nil => rfl
      | cons parameter rest =>
        rw [hcontexts, List.length_cons] at hcount
        obtain rfl := List.length_eq_zero_iff.1 (show rest.length = 0 by simpa using hcount)
        rfl

/-- **How a tool is defined.** A callable is a tool exactly if the code takes each of its parameters
and at most one of them is a `ToolContext`. Then its parameters are translated to fields in their
order; otherwise the error is about the first parameter with a fault. -/
theorem build_definitions_iff (signature : Signature) :
    (∀ built, buildDefinitions toolName typeHints parameterDescriptions signature = .ok built →
      Translates typeHints parameterDescriptions signature.parameters built) ∧
    ((∃ built, buildDefinitions toolName typeHints parameterDescriptions signature = .ok built) ↔
      (∀ parameter ∈ signature.parameters, Supported typeHints parameter) ∧
        signature.parameters.countP (isContext typeHints) ≤ 1) ∧
    ∀ e, buildDefinitions toolName typeHints parameterDescriptions signature = .error e ↔
      ∃ before parameter after, signature.parameters = before ++ parameter :: after ∧
        ((∀ earlier ∈ before, Supported typeHints earlier) ∧
          before.countP (isContext typeHints) ≤ 1) ∧
        fault? toolName typeHints (before.any (isContext typeHints)) parameter = some e := by
  refine ⟨fun built h => (translates_of_build h).1, ⟨?_, ?_⟩, fun e => ?_⟩
  · rintro ⟨built, h⟩
    exact (translates_of_build h).2
  · intro h
    have hfault : firstFault? toolName typeHints false signature.parameters = none :=
      (firstFault?_eq_none_iff toolName typeHints).2 h
    unfold buildDefinitions
    rw [foldlM_defineParameter]
    show ∃ built, Option.elim (firstFault? toolName typeHints false _) _ _ = _
    rw [hfault]
    exact ⟨_, rfl⟩
  · have hsplit := @firstFault?_eq_some_iff toolName typeHints false signature.parameters e
    simp only [firstFault?_eq_none_iff, Bool.toNat_false, Nat.add_zero, Bool.false_or] at hsplit
    rw [← hsplit]
    unfold buildDefinitions
    rw [foldlM_defineParameter]
    show Option.elim (firstFault? toolName typeHints false _) _ _ = _ ↔ _
    cases firstFault? toolName typeHints false signature.parameters with
    | none => exact ⟨fun h => (by cases h), fun h => (by cases h)⟩
    | some e' =>
      exact ⟨fun h => congrArg some (Except.error.inj h),
        fun h => congrArg Except.error (Option.some.inj h)⟩

end Built

/-! ### Calls of the callable -/

/-- An argument of a list with distinct names is looked up. -/
lemma lookup_of_mem {α : Type} {arguments : List (String × α)}
    (hnodup : (arguments.map Prod.fst).Nodup) {argument : String × α} (h : argument ∈ arguments) :
    arguments.lookup argument.1 = some argument.2 :=
  Dict.get?_of_mem (d := ⟨arguments, hnodup⟩) h

/-- **A call binds** if its arguments are those of the parameters, each once. -/
lemma Signature.bind_eq_some {α : Type} (signature : Signature) {arguments : List (String × α)}
    (value : SignatureParameter → α)
    (hkind : ∀ parameter ∈ signature.parameters, parameter.kind.byName = true)
    (hnodup : (arguments.map Prod.fst).Nodup)
    (hgiven : ∀ parameter ∈ signature.parameters, (parameter.name, value parameter) ∈ arguments)
    (hnamed : ∀ argument ∈ arguments, ∃ parameter ∈ signature.parameters,
      parameter.name = argument.1) :
    signature.bind arguments = some (signature.parameters.map fun parameter =>
      (parameter.name, .given (value parameter))) := by
  have haccepts : (arguments.all fun argument => signature.accepts argument.1) = true := by
    refine List.all_eq_true.2 fun argument hargument => ?_
    obtain ⟨parameter, hparameter, hname⟩ := hnamed argument hargument
    refine List.any_eq_true.2 ⟨parameter, hparameter, ?_⟩
    rw [hname, hkind parameter hparameter]
    simp
  rw [Signature.bind, if_pos haccepts]
  have hbind (rest : List (String × α)) (parameter : SignatureParameter)
      (hparameter : parameter ∈ signature.parameters) : parameter.bind rest arguments =
        some (parameter.name, .given (value parameter)) := by
    have hlookup := lookup_of_mem hnodup (hgiven parameter hparameter)
    have hby := hkind parameter hparameter
    unfold SignatureParameter.bind
    dsimp only at hlookup
    cases hk : parameter.kind with
    | positionalOnly => rw [hk] at hby; cases hby
    | varPositional => rw [hk] at hby; cases hby
    | varKeyword => rw [hk] at hby; cases hby
    | positionalOrKeyword => simp only [hlookup]; rfl
    | keywordOnly => simp only [hlookup]; rfl
  dsimp only
  generalize arguments.filter _ = rest
  have hbind := hbind rest
  generalize signature.parameters = parameters at hbind ⊢
  induction parameters with
  | nil => rfl
  | cons parameter parameters ih =>
    rw [List.mapM_cons, hbind parameter List.mem_cons_self,
      ih fun q hq => hbind q (List.mem_cons_of_mem _ hq)]
    rfl

section Calls

variable {toolName : String} {typeHints : TypeHints} {parameterDescriptions : Dict String String}
  {signature : Signature} {built : Definitions}

/-- What a parameter of a tool is given in a call. -/
def givenTo (typeHints : TypeHints) (validated : String → ObjId) (call : ToolCallBlock)
    (parameter : SignatureParameter) : ToolArgument :=
  if isContext typeHints parameter then .context call else .value (validated parameter.name)

/-- The arguments of a call are those of the parameters: the fields, and then the context. -/
lemma values_eq
    (h : buildDefinitions toolName typeHints parameterDescriptions signature = .ok built)
    (validated : String → ObjId) (call : ToolCallBlock) :
    built.adapter.values validated call =
      (exposedParameters typeHints signature.parameters ++
        signature.parameters.filter (isContext typeHints)).map fun parameter =>
          (parameter.name, givenTo typeHints validated call parameter) := by
  obtain ⟨htranslates, -, hcount⟩ := translates_of_build h
  have hfields : built.adapter.parameterNames.map (fun name =>
      (name, ToolArgument.value (validated name))) =
        (exposedParameters typeHints signature.parameters).map fun parameter =>
          (parameter.name, givenTo typeHints validated call parameter) := by
    show built.parameterNames.map _ = _
    rw [htranslates.parameterNames, htranslates.keys, List.map_map]
    refine List.map_congr_left fun parameter hparameter => ?_
    have hcontext : ¬ isContext typeHints parameter = true := by
      simpa using List.of_mem_filter hparameter
    rw [givenTo, if_neg hcontext]
    rfl
  have hcontexts : built.adapter.contextParameter.toList.map (fun name =>
      (name, ToolArgument.context call)) =
        (signature.parameters.filter (isContext typeHints)).map fun parameter =>
          (parameter.name, givenTo typeHints validated call parameter) := by
    show built.contextParameter.toList.map _ = _
    rw [htranslates.context, ← List.head?_filter]
    rw [List.countP_eq_length_filter] at hcount
    cases hcontexts : signature.parameters.filter (isContext typeHints) with
    | nil => rfl
    | cons parameter rest =>
      rw [hcontexts, List.length_cons] at hcount
      obtain rfl := List.length_eq_zero_iff.1 (show rest.length = 0 by simpa using hcount)
      have hcontext : isContext typeHints parameter = true :=
        List.of_mem_filter (hcontexts ▸ List.mem_cons_self)
      rw [List.map_singleton, givenTo, if_pos hcontext]
      rfl
  rw [List.map_append, ← hfields, ← hcontexts, ArgumentAdapter.values]
  cases built.adapter.contextParameter with
  | none => exact (List.append_nil _).symm
  | some name => rfl

/-- The arguments that validation makes of a call bind. -/
lemma values_bind
    (h : buildDefinitions toolName typeHints parameterDescriptions signature = .ok built)
    (validated : String → ObjId) (call : ToolCallBlock) :
    signature.bind (built.adapter.values validated call) =
      some (signature.parameters.map fun parameter =>
        (parameter.name, .given (givenTo typeHints validated call parameter))) := by
  have hperm : (exposedParameters typeHints signature.parameters ++
      signature.parameters.filter (isContext typeHints)).Perm signature.parameters := by
    refine List.perm_append_comm.trans ?_
    exact List.filter_append_perm (isContext typeHints) signature.parameters
  have hvalues := values_eq h validated call
  refine signature.bind_eq_some _
    (fun parameter hparameter => ((translates_of_build h).2.1 parameter hparameter).byName) ?_ ?_ ?_
  · rw [hvalues, List.map_map]
    exact (hperm.map (·.name)).nodup_iff.2 signature.names_nodup
  · intro parameter hparameter
    rw [hvalues]
    exact List.mem_map_of_mem (hperm.mem_iff.2 hparameter)
  · intro argument hargument
    rw [hvalues, List.mem_map] at hargument
    obtain ⟨parameter, hparameter, rfl⟩ := hargument
    exact ⟨parameter, hperm.mem_iff.1 hparameter, rfl⟩

/-- How the callable is run begins with a call of it, and no other call of it follows. -/
lemma Ran.called {tool : InvocableTool} {arguments : List (String × ToolArgument)}
    {e : InvokeTrace} {fate : Fate ToolValue} (h : Ran tool arguments e fate) :
    ∃ reply rest, e = ⟨.function tool.inThread arguments, reply⟩ :: rest ∧ OnlyWaits rest := by
  cases h with
  | raised reply own seen h => exact ⟨reply, [], rfl, List.forall_mem_nil _⟩
  | returned reply value h => exact ⟨reply, [], rfl, List.forall_mem_nil _⟩
  | awaited reply object value h =>
    exact ⟨reply, _, rfl, List.forall_mem_singleton.2 (.inl ⟨object, rfl⟩)⟩
  | awaitRaised reply object error h =>
    exact ⟨reply, _, rfl, List.forall_mem_singleton.2 (.inl ⟨object, rfl⟩)⟩
  | lost reply own h rest hwaits => exact ⟨reply, rest, rfl, hwaits⟩
  | cancelled reply cancellation h => exact ⟨reply, [], rfl, List.forall_mem_nil _⟩

/-- **No call of a tool fails to bind.** Whatever the arguments that the model gives: an invocation
ends with their validation, or the validated model is followed by one call of the callable, which
binds each parameter to its validated value and the `ToolContext` parameter to the call. -/
theorem tool_calls_bind {dumps : Json → Option String} {effect : InvokeTool} {tool : InvocableTool}
    (h : buildDefinitions toolName typeHints parameterDescriptions signature = .ok built)
    (hadapter : tool.adapter = built.adapter) (htool : effect.Resolves tool) {e : InvokeTrace}
    {outcome : Except ToolExc ToolResult × Unit}
    (hexec : Exec (effect.execute dumps ()) e (.ret outcome)) :
    (∃ reply, e = [validation effect.call reply] ∧ ∀ validated, reply ≠ .model validated) ∨
    ∃ validated arguments returned rest, e = validation effect.call (.model validated) ::
        ⟨.function tool.inThread arguments, returned⟩ :: rest ∧
      OnlyWaits rest ∧
      signature.bind arguments = some (signature.parameters.map fun parameter =>
        (parameter.name, .given (givenTo typeHints validated effect.call parameter))) := by
  rcases (InvokeTool.execute_spec dumps effect).sound hexec with ⟨hnone, -⟩ | hinvoked
  · exact absurd htool (hnone tool)
  obtain ⟨tool', outcome', htool', hinvokes, -⟩ := hinvoked
  obtain rfl := Option.some.inj (htool.1.symm.trans htool'.1)
  cases hinvokes with
  | rejected errors => exact .inl ⟨_, rfl, fun _ hreply => (by cases hreply)⟩
  | failed error => exact .inl ⟨_, rfl, fun _ hreply => (by cases hreply)⟩
  | ran validated e fate outcome hran =>
    obtain ⟨returned, rest, rfl, hrest⟩ := hran.called
    refine .inr ⟨validated, _, returned, rest, rfl, hrest, ?_⟩
    rw [hadapter]
    exact values_bind h validated effect.call

end Calls

/-! ### A tool with a context -/

/-- `def lookup(*, context: ToolContext, key: Annotated[str, ToolParameter(min_length=1)])`. -/
def lookupSignature : Signature where
  parameters := [⟨"context", .keywordOnly, true, none⟩, ⟨"key", .keywordOnly, true, none⟩]
  names_nodup := by decide

/-- Its type hints. -/
def lookupHints : TypeHints := fun name =>
  if name = "context" then some (.exact .toolContext)
  else if name = "key" then
    some (.annotated (.other (.given 0)) [.toolParameter
      ⟨fun option => if option = .minLength then some (.object (.given 1)) else none⟩])
  else none

/-- What is built of it. -/
def lookupDefinitions : Definitions :=
  lookupSignature.parameters.foldl (Definitions.add lookupHints .empty) ⟨.empty, [], none⟩

/-- The tool. -/
def lookupTool : InvocableTool where
  spec := ⟨⟨"lookup", by decide⟩, none, []⟩
  isCoroutineFunction := false
  errorPolicy := .returnToModel
  syncPolicy := .thread
  adapter := lookupDefinitions.adapter

/-- A call of it. -/
def lookupCall : InvokeTool where
  tool := some lookupTool
  call := ⟨⟨"request-3", by decide⟩, lookupTool.name, []⟩

/-- A call of the tool binds the key, which the model gives, and the context, which stands before
it. -/
theorem tool_calls_bind_lookup : ∃ (validated : ObjId) (arguments : List (String × ToolArgument)),
    lookupSignature.bind arguments = some [("context", .given (.context lookupCall.call)),
      ("key", .given (.value validated))] := by
  have hbuilt : buildDefinitions "lookup" lookupHints .empty lookupSignature =
      .ok lookupDefinitions := rfl
  have hexec : Exec (lookupCall.execute (fun _ => none) ())
      [validation lookupCall.call (.model fun _ => .given 2),
        ⟨.function true (lookupTool.adapter.values (fun _ => .given 2) lookupCall.call),
          .ended (.error ⟨.given 3, .exception, "no such key"⟩) "" (.awaitable (.given 4))⟩]
      (.ret (.ok (errorToolResult ⟨.given 3, .exception, "no such key"⟩), ())) :=
    .step (.step (.refl _))
  rcases tool_calls_bind hbuilt rfl ⟨rfl, rfl⟩ hexec with
    ⟨reply, he, hreply⟩ | ⟨validated, arguments, returned, rest, he, -, hbind⟩
  · cases he
  · exact ⟨validated "key", arguments, hbind⟩

end PurrceptCore
