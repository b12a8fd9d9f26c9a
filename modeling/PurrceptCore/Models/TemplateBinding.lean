import PurrceptCore.Models.PromptTemplate

set_option relaxedAutoImplicit false
set_option autoImplicit false

/-!
# Binding values of a template early or late

## Main definitions

* `PurrceptCore.BindingArguments.Binds` — the values that the arguments of a method bind, whichever
  way they are passed.
* `PurrceptCore.PromptTemplate.PartText` — the text that a part is rendered to.
* `PurrceptCore.PromptTemplate.BindingLaws` — how binding and rendering go together.

## Main results

* `PurrceptCore.PromptTemplate.renderParts_eq_ok` — a rendering is the concatenation of the texts of
  the parts.
* `PurrceptCore.PromptTemplate.binding_laws` — every template keeps the laws.
-/

namespace PurrceptCore

open Fallible

variable {V : Type} {parse : String → ParsedFormat}

/-! ### What arguments bind -/

/-- The values that the arguments of a method bind: those of the mapping, overlaid by the keyword
arguments. -/
def BindingArguments.bound (arguments : BindingArguments V) :
    Except TemplateFailure (Dict String (Option V)) := do
  let values ← match arguments.values with
    | none => .ok .empty
    | some values => freezeValues values "values"
  .ok (values.update arguments.overrides)

/-- The arguments bind the given values. -/
def BindingArguments.Binds (arguments : BindingArguments V) (v : Dict String (Option V)) : Prop :=
  arguments.bound = .ok v

namespace PromptTemplate

variable (t : PromptTemplate parse V)

/-- Values over the fields of a template, as a binding of all that they name. -/
abbrev Bindings : Type := Known t.fields (Option V)

variable {t} {arguments : BindingArguments V}

/-- Values over the fields, overlaid by others. -/
def overlay (v w : t.Bindings) : t.Bindings := ⟨v.1.update w.1, unknownKeys_update v.2 w.2⟩

variable (t) in
/-- The template with other defaults. -/
def withDefaults (values : t.Bindings) : PromptTemplate parse V := { t with values := values }

/-- **Merging lays the arguments over the defaults**, whichever way they are passed. -/
lemma mergeValues_of_binds {v : t.Bindings} (h : arguments.Binds v.1)
    (errorType : TemplateErrorType) :
    t.mergeValues arguments errorType = .ok (overlay t.values v) := by
  obtain ⟨values, overrides⟩ := arguments
  have hmerged (merged : Dict String (Option V))
      (heq : merged.update overrides = t.values.1.update v.1) :
      rejectUnknownKeys (merged.update overrides) t.fields t.name "values" errorType =
        .ok (overlay t.values v) := by
    rw [heq]
    exact rejectUnknownKeys_of_known (overlay t.values v).2 _ _ _
  unfold BindingArguments.Binds BindingArguments.bound at h
  cases values with
  | none =>
    have hv : Dict.empty.update overrides = v.1 := Except.ok.inj h
    refine hmerged _ ?_
    rw [← hv, Dict.empty_update]
  | some values =>
    obtain ⟨frozen, hfrozen, hv⟩ := bind_eq_ok.1 h
    have hv : frozen.update overrides = v.1 := Except.ok.inj hv
    refine bind_eq_ok.2 ⟨frozen, hfrozen, hmerged _ ?_⟩
    rw [Dict.update_assoc, hv]

/-- **Binding values makes the template with these defaults.** -/
lemma withValues_of_binds {v : t.Bindings} (h : arguments.Binds v.1) :
    t.withValues arguments = .ok (t.withDefaults (overlay t.values v)) := by
  unfold withValues
  rw [mergeValues_of_binds h]
  exact make_self t _

/-! ### What is rendered -/

section Rendered

variable (t) (objects : ObjectTexts V) (values : Dict String (Option V)) (preserveMissing : Bool)

/-- **The text of a part**: its literal, followed by what the policy of its field makes of the
value, or by the placeholder of a missing field that is preserved. -/
inductive PartText : TemplatePart → String → Prop
  | literal (literal : String) : PartText ⟨literal, none⟩ literal
  | placeholder (literal : String) (fieldName : FieldName) (hmissing : fieldName.1 ∉ values.keys)
      (hpreserve : preserveMissing = true) :
      PartText ⟨literal, some fieldName⟩ (literal ++ ("\x7b" ++ fieldName ++ "\x7d"))
  | rendered (literal : String) (fieldName : FieldName) (rendered : String)
      (hrendered : ¬ (fieldName.1 ∉ values.keys ∧ preserveMissing = true))
      (hpolicy : (t.policyOf objects fieldName).call ((values.get? fieldName).getD none) =
        .ok rendered) : PartText ⟨literal, some fieldName⟩ (literal ++ rendered)

variable {t objects values preserveMissing} {parts : List TemplatePart} {output : List String}
  {part : TemplatePart}

/-- What a part appends is its text. -/
lemma renderPart_eq_ok {text : String} :
    (∃ pieces, t.renderPart objects values preserveMissing part = .ok pieces ∧
      String.join pieces = text) ↔ t.PartText objects values preserveMissing part text := by
  constructor
  · rintro ⟨pieces, h, rfl⟩
    obtain ⟨literal, fieldName⟩ := part
    cases fieldName with
    | none =>
      cases h
      rw [String.join_cons, String.join_nil, String.append_empty]
      exact .literal literal
    | some fieldName =>
      rw [renderPart] at h
      dsimp only at h
      split at h
      · next hmissing =>
        cases h
        rw [String.join_cons, String.join_cons, String.join_nil, String.append_empty]
        exact .placeholder literal fieldName hmissing.1 hmissing.2
      · next hrendered =>
        split at h
        · next rendered hpolicy =>
          cases h
          rw [String.join_cons, String.join_cons, String.join_nil, String.append_empty]
          exact .rendered literal fieldName rendered hrendered hpolicy
        · split at h <;> cases h
  · intro h
    cases h with
    | literal => exact ⟨[text], rfl, by simp⟩
    | placeholder literal fieldName hmissing hpreserve =>
      exact ⟨_, if_pos ⟨hmissing, hpreserve⟩, by simp⟩
    | rendered literal fieldName rendered hrendered hpolicy =>
      refine ⟨[literal, rendered], ?_, by simp⟩
      rw [renderPart]
      dsimp only
      rw [if_neg hrendered, hpolicy]

/-- One turn of the loop. -/
lemma renderLoop_cons :
    t.renderLoop objects values preserveMissing (part :: parts) output = (do
      let pieces ← t.renderPart objects values preserveMissing part
      t.renderLoop objects values preserveMissing parts (output ++ pieces)) := by
  unfold renderLoop
  rw [List.foldlM_cons, bind_assoc]
  rfl

/-- What the loop makes of the parts that are left. -/
lemma renderLoop_eq_ok {text : String} :
    (∃ result, t.renderLoop objects values preserveMissing parts output = .ok result ∧
      String.join result = text) ↔
      ∃ texts, List.Forall₂ (t.PartText objects values preserveMissing) parts texts ∧
        text = String.join output ++ String.join texts := by
  induction parts generalizing output with
  | nil =>
    constructor
    · rintro ⟨result, hresult, rfl⟩
      cases hresult
      exact ⟨[], .nil, (String.append_empty).symm⟩
    · rintro ⟨texts, htexts, rfl⟩
      cases htexts
      exact ⟨output, rfl, (String.append_empty).symm⟩
  | cons part parts ih =>
    rw [renderLoop_cons]
    constructor
    · rintro ⟨result, hresult, htext⟩
      obtain ⟨pieces, hpieces, hresult⟩ := bind_eq_ok.1 hresult
      obtain ⟨texts, htexts, rfl⟩ := ih.1 ⟨result, hresult, htext⟩
      refine ⟨String.join pieces :: texts, .cons (renderPart_eq_ok.1 ⟨pieces, hpieces, rfl⟩) htexts,
        ?_⟩
      rw [String.join_append, String.join_cons, String.append_assoc]
    · rintro ⟨texts, htexts, rfl⟩
      cases htexts with
      | cons hfirst htexts =>
        obtain ⟨pieces, hpieces, rfl⟩ := renderPart_eq_ok.2 hfirst
        rw [hpieces]
        refine ih.2 ⟨_, htexts, ?_⟩
        rw [String.join_append, String.join_cons, String.append_assoc]

/-- A loop that fails fails at a part. -/
lemma renderLoop_error {failure : TemplateFailure}
    (h : t.renderLoop objects values preserveMissing parts output = .error failure) :
    ∃ part ∈ parts, t.renderPart objects values preserveMissing part = .error failure := by
  induction parts generalizing output with
  | nil => cases h
  | cons part parts ih =>
    rw [renderLoop_cons] at h
    rcases bind_eq_error.1 h with hpart | ⟨_, -, hrest⟩
    · exact ⟨part, List.mem_cons_self, hpart⟩
    · obtain ⟨other, hother, hfailure⟩ := ih hrest
      exact ⟨other, List.mem_cons_of_mem part hother, hfailure⟩

/-- The loop depends on what the parts append. -/
lemma renderLoop_congr (u : PromptTemplate parse V) {preserveMissing' : Bool}
    (h : ∀ part ∈ parts, t.renderPart objects values preserveMissing part =
      u.renderPart objects values preserveMissing' part) :
    t.renderLoop objects values preserveMissing parts output =
      u.renderLoop objects values preserveMissing' parts output := by
  induction parts generalizing output with
  | nil => rfl
  | cons part parts ih =>
    rw [renderLoop_cons, renderLoop_cons, h part List.mem_cons_self]
    refine bind_congr fun pieces => ?_
    exact ih fun other hother => h other (List.mem_cons_of_mem part hother)

/-- **A rendering is the concatenation of the texts of the parts.** -/
theorem renderParts_eq_ok {text : String} :
    t.renderParts objects values preserveMissing = .ok text ↔
      ∃ texts, List.Forall₂ (t.PartText objects values preserveMissing) t.parts texts ∧
        text = String.join texts := by
  have hloop : (∃ result, t.renderLoop objects values preserveMissing t.parts [] = .ok result ∧
      String.join result = text) ↔
      ∃ texts, List.Forall₂ (t.PartText objects values preserveMissing) t.parts texts ∧
        text = String.join [] ++ String.join texts := renderLoop_eq_ok
  simp only [String.join_nil, String.empty_append] at hloop
  refine Iff.trans ?_ hloop
  rw [renderParts, bind_eq_ok]
  simp only [Except.ok.injEq]

/-- Nothing is preserved where nothing is missing. -/
lemma renderPart_of_bound
    (h : ∀ fieldName, part.fieldName = some fieldName → fieldName.1 ∈ values.keys) :
    t.renderPart objects values true part = t.renderPart objects values false part := by
  obtain ⟨literal, fieldName⟩ := part
  cases fieldName with
  | none => rfl
  | some fieldName =>
    have hkey := h fieldName rfl
    rw [renderPart, renderPart]
    dsimp only
    rw [if_neg fun hmissing => hmissing.1 hkey, if_neg fun hmissing => hmissing.1 hkey]

/-- The fields of the parts are those of the template. -/
lemma mem_fields {part : TemplatePart} {fieldName : FieldName} (hpart : part ∈ t.parts)
    (hfield : part.fieldName = some fieldName) : fieldName ∈ t.fields := by
  rw [t.fields_eq, List.mem_eraseDups]
  exact List.mem_filterMap.2 ⟨part, hpart, hfield⟩

lemma missing_eq_nil :
    t.missing values = [] ↔ ∀ fieldName ∈ t.fields, fieldName.1 ∈ values.keys := by
  rw [missing, List.filter_eq_nil_iff]
  refine forall₂_congr fun fieldName _ => ?_
  rw [decide_eq_true_iff, not_not]

/-- Total and partial rendering agree where nothing is missing. -/
lemma renderParts_of_bound (h : t.missing values = []) :
    t.renderParts objects values true = t.renderParts objects values false := by
  have hbound := missing_eq_nil.1 h
  unfold renderParts
  rw [renderLoop_congr t fun part hpart => renderPart_of_bound fun fieldName hfield =>
    hbound fieldName (mem_fields hpart hfield)]

variable (t objects) in
/-- `render` of values that are merged. -/
def renderMerged (strict : Bool) (values : Dict String (Option V)) :
    Except TemplateFailure String :=
  if strict = true ∧ t.missing values ≠ [] then .error (t.missingValues (t.missing values))
  else t.renderParts objects values false

lemma render_of_binds {v : t.Bindings} (h : arguments.Binds v.1) (strict : Option Bool) :
    t.render objects arguments strict =
      (do t.renderMerged objects (← validateStrict strict) (overlay t.values v).1) := by
  unfold render
  rw [mergeValues_of_binds h]
  rfl

lemma renderPartial_of_binds {v : t.Bindings} (h : arguments.Binds v.1) :
    t.renderPartial objects arguments = t.renderParts objects (overlay t.values v).1 true := by
  unfold renderPartial
  rw [mergeValues_of_binds h]
  rfl

end Rendered

/-! ### The laws -/

/-- Every field has a value. -/
def AllBound (t : PromptTemplate parse V) (values : Dict String (Option V)) : Prop :=
  ∀ fieldName ∈ t.fields, fieldName.1 ∈ values.keys

/-- **How binding and rendering go together.** -/
structure BindingLaws (objects : ObjectTexts V) (t : PromptTemplate parse V) : Prop where
  /-- Overlaid values come first. -/
  overlaid : ∀ (v w : t.Bindings) key,
    (overlay v w).1.get? key = (w.1.get? key).or (v.1.get? key)
  /-- Values can be bound on every route: as a mapping, as keyword arguments, or as both. -/
  bindable : ∀ v w : t.Bindings,
    BindingArguments.Binds ⟨some (.ofDict id v.1), .empty⟩ v.1 ∧
      BindingArguments.Binds ⟨none, v.1⟩ v.1 ∧
        BindingArguments.Binds ⟨some (.ofDict id v.1), w.1⟩ (overlay v w).1
  /-- Rendering with values that are bound early is rendering with them overlaid, also where that
  raises. -/
  early : ∀ (v w : t.Bindings) (a b c : BindingArguments V) (strict : Option Bool),
    a.Binds v.1 → b.Binds w.1 → c.Binds (overlay v w).1 →
      (do (← t.withValues a).render objects b strict) = t.render objects c strict
  /-- So it is with partial rendering. -/
  early_partial : ∀ (v w : t.Bindings) (a b c : BindingArguments V),
    a.Binds v.1 → b.Binds w.1 → c.Binds (overlay v w).1 →
      (do (← t.withValues a).renderPartial objects b) = t.renderPartial objects c
  /-- Binding twice is binding the values overlaid. -/
  twice : ∀ (v w : t.Bindings) (a b c : BindingArguments V),
    a.Binds v.1 → b.Binds w.1 → c.Binds (overlay v w).1 →
      ∃ bound, t.withValues c = .ok bound ∧ (do (← t.withValues a).withValues b) = .ok bound
  /-- Partial rendering is rendering when every field is bound. -/
  total : ∀ (v : t.Bindings) (a : BindingArguments V) (strict : Bool), a.Binds v.1 →
    t.AllBound (overlay t.values v).1 →
      t.renderPartial objects a = t.render objects a (some strict)
  /-- Strict rendering fails for missing fields if and only if a field is unbound. -/
  fails : ∀ (v : t.Bindings) (a : BindingArguments V), a.Binds v.1 →
    ((∃ failure, t.render objects a (some true) = .error failure ∧ failure.missing ≠ []) ↔
      ¬ t.AllBound (overlay t.values v).1)
  /-- It names the fields that are unbound, in the order of the fields. -/
  names : ∀ (v : t.Bindings) (a : BindingArguments V) failure, a.Binds v.1 →
    t.render objects a (some true) = .error failure → failure.missing ≠ [] →
      failure.missing = t.fields.filter fun fieldName => fieldName.1 ∉ (overlay t.values v).1.keys
  /-- The fields stand in the order in which they appear first. -/
  order : t.fields = (t.parts.filterMap TemplatePart.fieldName).eraseDups
  /-- A rendering is the concatenation of the texts of the parts. -/
  text : ∀ (v : t.Bindings) (a : BindingArguments V) (strict : Bool) text, a.Binds v.1 →
    (t.render objects a (some strict) = .ok text ↔
      (strict = true → t.AllBound (overlay t.values v).1) ∧
        ∃ texts, List.Forall₂ (t.PartText objects (overlay t.values v).1 false) t.parts texts ∧
          text = String.join texts)
  /-- So it is with partial rendering. -/
  text_partial : ∀ (v : t.Bindings) (a : BindingArguments V) text, a.Binds v.1 →
    (t.renderPartial objects a = .ok text ↔
      ∃ texts, List.Forall₂ (t.PartText objects (overlay t.values v).1 true) t.parts texts ∧
        text = String.join texts)

section Laws

variable {objects : ObjectTexts V} {v w : t.Bindings} {a b c : BindingArguments V}

lemma overlay_assoc (u v w : t.Bindings) : overlay (overlay u v) w = overlay u (overlay v w) :=
  Subtype.ext Dict.update_assoc

lemma freezeValues_ofDict (v : t.Bindings) : freezeValues (.ofDict id v.1) "values" = .ok v.1 :=
  freezeMapping_ofDict (f := id) (fun _ => rfl) fun _ => ne_empty_of_known v.2

lemma binds_mapping (v : t.Bindings) : BindingArguments.Binds ⟨some (.ofDict id v.1), .empty⟩ v.1 :=
  bind_eq_ok.2 ⟨v.1, freezeValues_ofDict v, rfl⟩

lemma binds_both (v w : t.Bindings) :
    BindingArguments.Binds ⟨some (.ofDict id v.1), w.1⟩ (overlay v w).1 :=
  bind_eq_ok.2 ⟨v.1, freezeValues_ofDict v, rfl⟩

lemma binds_overrides (v : t.Bindings) : BindingArguments.Binds ⟨none, v.1⟩ v.1 :=
  congrArg Except.ok Dict.empty_update

/-- A part that cannot be rendered is no missing field. -/
lemma missing_of_renderPart {values : Dict String (Option V)} {preserveMissing : Bool}
    {part : TemplatePart} {failure : TemplateFailure}
    (h : t.renderPart objects values preserveMissing part = .error failure) :
    failure.missing = [] := by
  obtain ⟨literal, fieldName⟩ := part
  cases fieldName with
  | none => cases h
  | some fieldName =>
    rw [renderPart] at h
    dsimp only at h
    split at h
    · cases h
    · split at h
      · cases h
      · split at h
        · cases h
          rfl
        · cases h
          rfl

/-- Rendering given values does not depend on the defaults. -/
lemma renderParts_defaults (defaults : t.Bindings) (values : Dict String (Option V))
    (preserveMissing : Bool) :
    (t.withDefaults defaults).renderParts objects values preserveMissing =
      t.renderParts objects values preserveMissing := by
  unfold renderParts
  rw [renderLoop_congr t fun _ _ => rfl]
  rfl

lemma renderMerged_defaults (defaults : t.Bindings) (strict : Bool)
    (values : Dict String (Option V)) :
    (t.withDefaults defaults).renderMerged objects strict values =
      t.renderMerged objects strict values := by
  unfold renderMerged
  rw [renderParts_defaults]
  rfl

lemma missing_of_renderParts {values : Dict String (Option V)} {preserveMissing : Bool}
    {failure : TemplateFailure}
    (h : t.renderParts objects values preserveMissing = .error failure) :
    failure.missing = [] := by
  cases hloop : t.renderLoop objects values preserveMissing t.parts [] with
  | ok output =>
    rw [renderParts, hloop] at h
    cases h
  | error error =>
    rw [renderParts, hloop] at h
    cases h
    obtain ⟨_, -, hpart⟩ := renderLoop_error hloop
    exact missing_of_renderPart hpart

/-- Strict rendering raises the error for missing fields when a field is missing. -/
lemma renderMerged_strict {values : Dict String (Option V)} (h : t.missing values ≠ []) :
    t.renderMerged objects true values = .error (t.missingValues (t.missing values)) :=
  if_pos ⟨rfl, h⟩

lemma renderMerged_of_bound {strict : Bool} {values : Dict String (Option V)}
    (h : ¬ (strict = true ∧ t.missing values ≠ [])) :
    t.renderMerged objects strict values = t.renderParts objects values false :=
  if_neg h

/-- **Binding early is binding late.** -/
theorem early_render (strict : Option Bool) (ha : a.Binds v.1) (hb : b.Binds w.1)
    (hc : c.Binds (overlay v w).1) :
    (do (← t.withValues a).render objects b strict) = t.render objects c strict := by
  rw [withValues_of_binds ha, render_of_binds hc]
  refine (render_of_binds (t := t.withDefaults (overlay t.values v)) (v := w) hb strict).trans ?_
  cases strict with
  | none => rfl
  | some strict =>
    refine (renderMerged_defaults _ strict _).trans ?_
    rw [← overlay_assoc]
    rfl

/-- **Binding early is binding late**, for partial rendering. -/
theorem early_renderPartial (ha : a.Binds v.1) (hb : b.Binds w.1)
    (hc : c.Binds (overlay v w).1) :
    (do (← t.withValues a).renderPartial objects b) = t.renderPartial objects c := by
  rw [withValues_of_binds ha, renderPartial_of_binds hc]
  refine (renderPartial_of_binds (t := t.withDefaults (overlay t.values v)) (v := w) hb).trans ?_
  refine (renderParts_defaults _ _ _).trans ?_
  rw [← overlay_assoc]
  rfl

/-- **Binding twice is binding the values overlaid.** -/
theorem withValues_twice (ha : a.Binds v.1) (hb : b.Binds w.1) (hc : c.Binds (overlay v w).1) :
    ∃ bound, t.withValues c = .ok bound ∧ (do (← t.withValues a).withValues b) = .ok bound := by
  refine ⟨_, withValues_of_binds hc, ?_⟩
  rw [withValues_of_binds ha]
  refine (withValues_of_binds (t := t.withDefaults (overlay t.values v)) (v := w) hb).trans ?_
  rw [← overlay_assoc]
  rfl

/-- **Partial rendering is rendering** when every field is bound. -/
theorem renderPartial_of_allBound (strict : Bool) (ha : a.Binds v.1)
    (h : t.AllBound (overlay t.values v).1) :
    t.renderPartial objects a = t.render objects a (some strict) := by
  have hmissing := missing_eq_nil.2 h
  rw [renderPartial_of_binds ha, render_of_binds ha, renderParts_of_bound hmissing]
  exact (renderMerged_of_bound fun hstrict => hstrict.2 hmissing).symm

/-- What a strict rendering reports as missing is missing. -/
lemma missing_of_render {failure : TemplateFailure} (ha : a.Binds v.1)
    (h : t.render objects a (some true) = .error failure) (hne : failure.missing ≠ []) :
    failure.missing = t.missing (overlay t.values v).1 := by
  rw [render_of_binds ha] at h
  by_cases hmissing : t.missing (overlay t.values v).1 = []
  · have hparts := (renderMerged_of_bound fun hstrict => hstrict.2 hmissing).symm.trans h
    exact absurd (missing_of_renderParts hparts) hne
  · cases (renderMerged_strict hmissing).symm.trans h
    rfl

/-- **Strict rendering fails for missing fields** if and only if there are any. -/
theorem render_fails_iff (ha : a.Binds v.1) :
    (∃ failure, t.render objects a (some true) = .error failure ∧ failure.missing ≠ []) ↔
      ¬ t.AllBound (overlay t.values v).1 := by
  rw [AllBound, ← missing_eq_nil]
  constructor
  · rintro ⟨failure, h, hne⟩ hmissing
    rw [missing_of_render ha h hne] at hne
    exact hne hmissing
  · intro hmissing
    refine ⟨t.missingValues (t.missing (overlay t.values v).1), ?_, hmissing⟩
    rw [render_of_binds ha]
    exact renderMerged_strict hmissing

/-- **A rendering is the concatenation of the texts of the parts.** -/
theorem render_eq_ok (strict : Bool) (text : String) (ha : a.Binds v.1) :
    t.render objects a (some strict) = .ok text ↔
      (strict = true → t.AllBound (overlay t.values v).1) ∧
        ∃ texts, List.Forall₂ (t.PartText objects (overlay t.values v).1 false) t.parts texts ∧
          text = String.join texts := by
  rw [render_of_binds ha, AllBound, ← missing_eq_nil, ← renderParts_eq_ok]
  show t.renderMerged objects strict (overlay t.values v).1 = .ok text ↔ _
  by_cases hmissing : strict = true ∧ t.missing (overlay t.values v).1 ≠ []
  · obtain ⟨rfl, hmissing⟩ := hmissing
    rw [renderMerged_strict hmissing]
    exact ⟨fun h => (by cases h), fun h => absurd (h.1 rfl) hmissing⟩
  · rw [renderMerged_of_bound hmissing]
    exact ⟨fun h => ⟨fun hstrict => not_not.1 fun hne => hmissing ⟨hstrict, hne⟩, h⟩, And.right⟩

end Laws

/-- **Every template keeps the laws of binding and rendering.** -/
theorem binding_laws (objects : ObjectTexts V) (t : PromptTemplate parse V) :
    BindingLaws objects t where
  overlaid _ _ _ := Dict.get?_update
  bindable v w := ⟨binds_mapping v, binds_overrides v, binds_both v w⟩
  early _ _ _ _ _ strict := early_render strict
  early_partial _ _ _ _ _ := early_renderPartial
  twice _ _ _ _ _ := withValues_twice
  total _ _ strict := renderPartial_of_allBound strict
  fails _ _ := render_fails_iff
  names _ _ _ := missing_of_render
  order := t.fields_eq
  text _ _ strict text := render_eq_ok strict text
  text_partial v a text ha := by
    rw [renderPartial_of_binds ha]
    exact renderParts_eq_ok

/-! ### A value with braces -/

/-- Objects that are strings. -/
def plainTexts : ObjectTexts String := ⟨.str, .ok⟩

/-- The field `name`. -/
def nameField : FieldName := ⟨"name", by decide⟩

/-- The parts of a text that names `name` twice. -/
def twiceNamed : ParsedFormat :=
  ⟨[⟨"Dear ", some "name", some "", none⟩, ⟨", ", some "name", some "", none⟩,
    ⟨"!", none, none, none⟩], none⟩

lemma twiceNamed_parsed (name template : NonEmptyString) :
    parseTemplate (fun _ => twiceNamed) name template =
      .ok ([⟨"Dear ", some nameField⟩, ⟨", ", some nameField⟩, ⟨"!", none⟩], [nameField]) :=
  rfl

/-- A template that names `name` twice. -/
def greeting : PromptTemplate (fun _ => twiceNamed) String where
  name := ⟨"greet", by decide⟩
  template := ⟨"Dear \x7bname\x7d, \x7bname\x7d!", by decide⟩
  parts := [⟨"Dear ", some nameField⟩, ⟨", ", some nameField⟩, ⟨"!", none⟩]
  fields := [nameField]
  policies := ⟨.empty, rfl⟩
  values := ⟨.empty, rfl⟩
  parsed := twiceNamed_parsed _ _

/-- A value with braces. -/
def braces : greeting.Bindings := ⟨Dict.empty.insert "name" (some "\x7bage\x7d"), by decide⟩

/-- Its braces are rendered as they are. -/
theorem binding_laws_greeting :
    greeting.render plainTexts ⟨none, braces.1⟩ (some true) =
      .ok "Dear \x7bage\x7d, \x7bage\x7d!" := by
  have laws := binding_laws plainTexts greeting
  have hbinds := (laws.bindable braces braces).2.1
  refine (laws.text braces _ true _ hbinds).2 ⟨fun _ => missing_eq_nil.1 rfl, ?_⟩
  refine ⟨["Dear \x7bage\x7d", ", \x7bage\x7d", "!"],
    .cons ?_ (.cons ?_ (.cons (.literal "!") .nil)), by decide⟩
  · exact .rendered "Dear " nameField "\x7bage\x7d" (by decide) rfl
  · exact .rendered ", " nameField "\x7bage\x7d" (by decide) rfl

end PromptTemplate

end PurrceptCore
