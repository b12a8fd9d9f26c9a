import PurrceptCore.Models.TemplateBinding
import PurrceptCore.Models.TemplateGrammar

set_option relaxedAutoImplicit false
set_option autoImplicit false

/-!
# Going on with a partial rendering

The text of `render_partial` keeps the placeholders of the fields that have no value. It is the
template of what is left to render exactly if no brace has come into it otherwise.

## Main definitions

* `PurrceptCore.PromptTemplate.fieldText` — what a field is rendered to.
* `PurrceptCore.PromptTemplate.pieces`, `PurrceptCore.PromptTemplate.residue` — the characters and
  fields of a template, and those that a partial rendering leaves.
* `PurrceptCore.PromptTemplate.Continues` — a template renders what is left of another one.

## Main results

* `PurrceptCore.PromptTemplate.partial_rendering_continues` — rendering in two steps is rendering in
  one.
-/

namespace PurrceptCore

open Fallible FormatStrings

namespace PromptTemplate

variable {V : Type} {parse : String → ParsedFormat} (t : PromptTemplate parse V)
  (objects : ObjectTexts V) (values : Dict String (Option V)) (preserveMissing : Bool)

/-! ### Fields -/

/-- What the loop of `_render_parts` appends for a field. -/
def fieldText (fieldName : FieldName) : Except TemplateFailure String :=
  (t.renderPart objects values preserveMissing ⟨"", some fieldName⟩).map String.join

/-- The characters and fields of a template. -/
def pieces : List (Piece FieldName) := t.parts.flatMap TemplatePart.pieces

/-- What a partial rendering puts in the place of a field. -/
def left (fieldName : FieldName) : List (Piece FieldName) :=
  if fieldName.1 ∉ values.keys then [.field fieldName]
  else
    match t.fieldText objects values true fieldName with
    | .ok rendered => rendered.toList.map .char
    | .error _ => []

/-- **What a partial rendering leaves**: the texts of the fields with a value, and the others. -/
def residue : List (Piece FieldName) := substitute (t.left objects values) t.pieces

variable {t objects values preserveMissing}

/-- A part is its literal, followed by the text of its field. -/
lemma renderPart_field (literal : String) (fieldName : FieldName) :
    (t.renderPart objects values preserveMissing ⟨literal, some fieldName⟩).map String.join =
      (t.fieldText objects values preserveMissing fieldName).map (literal ++ ·) := by
  unfold fieldText renderPart
  dsimp only
  split
  · simp [Except.map]
  · split
    · simp [Except.map]
    · split <;> rfl

/-- **A rendering is one of the characters and fields.** -/
lemma renderLoop_pieces (parts : List TemplatePart) (output : List String) :
    (t.renderLoop objects values preserveMissing parts output).map String.join =
      (renderPieces (t.fieldText objects values preserveMissing)
        (parts.flatMap TemplatePart.pieces)).map fun cs =>
          String.join output ++ String.ofList cs := by
  induction parts generalizing output with
  | nil => exact congrArg Except.ok (by simp)
  | cons part parts ih =>
    obtain ⟨literal, fieldName⟩ := part
    rw [renderLoop_cons, List.flatMap_cons, renderPieces_append]
    cases fieldName with
    | none =>
      have hpart : t.renderPart objects values preserveMissing ⟨literal, none⟩ = .ok [literal] :=
        rfl
      have hpieces : (⟨literal, none⟩ : TemplatePart).pieces = literal.toList.map .char :=
        List.append_nil _
      rw [hpart, hpieces, renderPieces_chars]
      refine (ih (output ++ [literal])).trans ?_
      cases renderPieces (t.fieldText objects values preserveMissing)
        (parts.flatMap TemplatePart.pieces) with
      | error => rfl
      | ok cs => exact congrArg Except.ok (by simp [String.join_append, String.append_assoc])
    | some fieldName =>
      have hpieces : (⟨literal, some fieldName⟩ : TemplatePart).pieces =
          literal.toList.map .char ++ [.field fieldName] := rfl
      have hpart : (t.renderPart objects values preserveMissing ⟨literal, some fieldName⟩).map
          String.join = _ := renderPart_field literal fieldName
      rw [hpieces, renderPieces_append, renderPieces_chars, renderPieces_field]
      cases hrender : t.renderPart objects values preserveMissing ⟨literal, some fieldName⟩ with
      | error failure =>
        cases htext : t.fieldText objects values preserveMissing fieldName with
        | error failure' =>
          rw [hrender, htext] at hpart
          cases hpart
          rfl
        | ok rendered =>
          rw [hrender, htext] at hpart
          cases hpart
      | ok appended =>
        cases htext : t.fieldText objects values preserveMissing fieldName with
        | error failure' =>
          rw [hrender, htext] at hpart
          cases hpart
        | ok rendered =>
          rw [hrender, htext] at hpart
          have hjoin : String.join appended = literal ++ rendered := Except.ok.inj hpart
          refine (ih (output ++ appended)).trans ?_
          cases renderPieces (t.fieldText objects values preserveMissing)
            (parts.flatMap TemplatePart.pieces) with
          | error => rfl
          | ok cs =>
            refine congrArg Except.ok ?_
            simp [String.join_append, hjoin, String.append_assoc]

lemma renderParts_pieces :
    t.renderParts objects values preserveMissing =
      (renderPieces (t.fieldText objects values preserveMissing) t.pieces).map String.ofList := by
  have hloop : (t.renderLoop objects values preserveMissing t.parts []).map String.join = _ :=
    renderLoop_pieces t.parts []
  have hparts : t.renderParts objects values preserveMissing =
      (t.renderLoop objects values preserveMissing t.parts []).map String.join := by
    unfold renderParts
    cases t.renderLoop objects values preserveMissing t.parts [] <;> rfl
  rw [hparts, hloop]
  simp only [String.join_nil, String.empty_append]
  rfl

lemma fieldText_missing {fieldName : FieldName} (h : fieldName.1 ∉ values.keys) :
    t.fieldText objects values true fieldName = .ok ("\x7b" ++ fieldName.1 ++ "\x7d") := by
  have hpart : t.renderPart objects values true ⟨"", some fieldName⟩ =
      .ok ["", "\x7b" ++ fieldName.1 ++ "\x7d"] := if_pos ⟨h, rfl⟩
  rw [fieldText, hpart]
  exact congrArg Except.ok (by simp)

/-- A field with a value is rendered, whether others are preserved or not. -/
lemma fieldText_of_mem {fieldName : FieldName} (h : fieldName.1 ∈ values.keys)
    (preserveMissing' : Bool) :
    t.fieldText objects values preserveMissing fieldName =
      t.fieldText objects values preserveMissing' fieldName := by
  unfold fieldText renderPart
  dsimp only
  rw [if_neg fun hmissing => hmissing.1 h, if_neg fun hmissing => hmissing.1 h]

/-- The text of a field depends on its value and its policy. -/
lemma fieldText_congr {u : PromptTemplate parse V} {values' : Dict String (Option V)}
    {fieldName : FieldName} (hname : t.name = u.name)
    (hpolicy : t.policies.1.get? fieldName = u.policies.1.get? fieldName)
    (hvalue : values.get? fieldName = values'.get? fieldName) :
    t.fieldText objects values preserveMissing fieldName =
      u.fieldText objects values' preserveMissing fieldName := by
  have hkeys : fieldName.1 ∈ values.keys ↔ fieldName.1 ∈ values'.keys := by
    rw [Dict.mem_keys_iff, Dict.mem_keys_iff, hvalue]
  unfold fieldText renderPart policyOf
  dsimp only
  rw [hpolicy, hvalue, hname]
  simp only [hkeys]

/-! ### What is left -/

/-- A partial rendering shows what it leaves, without doubling braces. -/
lemma shown_of_renderPieces {ps : List (Piece FieldName)} {cs : List Char}
    (h : renderPieces (t.fieldText objects values true) ps = .ok cs) :
    cs = ((substitute (t.left objects values) ps).map (.map FieldName.chars)).flatMap Piece.shown ∧
      ∀ fieldName, .field fieldName ∈ ps → ∃ rendered,
        t.fieldText objects values true fieldName = .ok rendered := by
  induction ps generalizing cs with
  | nil =>
    cases h
    exact ⟨rfl, fun _ hmem => absurd hmem List.not_mem_nil⟩
  | cons piece ps ih =>
    cases piece with
    | char c =>
      obtain ⟨rest, hrest, h⟩ := bind_eq_ok.1 h
      cases h
      obtain ⟨rfl, hfields⟩ := ih hrest
      refine ⟨rfl, fun fieldName hmem => hfields fieldName ?_⟩
      exact (List.mem_cons.1 hmem).resolve_left fun heq => by cases heq
    | field fieldName =>
      obtain ⟨rendered, hrendered, h⟩ := bind_eq_ok.1 h
      obtain ⟨rest, hrest, h⟩ := bind_eq_ok.1 h
      cases h
      obtain ⟨rfl, hfields⟩ := ih hrest
      constructor
      · have hleft : rendered.toList =
            ((t.left objects values fieldName).map (.map FieldName.chars)).flatMap Piece.shown := by
          unfold left
          split
          · next hmissing =>
            rw [fieldText_missing hmissing] at hrendered
            cases hrendered
            simp [Piece.map, Piece.shown, FieldName.chars]
          · rw [hrendered]
            simp only [List.map_map, List.flatMap_map]
            exact (List.flatMap_singleton' rendered.toList).symm
        rw [hleft]
        unfold substitute
        rw [List.flatMap_cons, List.map_append, List.flatMap_append]
      · intro other hmem
        rcases List.mem_cons.1 hmem with heq | hmem
        · cases heq
          exact ⟨rendered, hrendered⟩
        · exact hfields other hmem

/-- **The text of a partial rendering** is that of what it leaves. -/
lemma shown_of_renderParts {text : String} (h : t.renderParts objects values true = .ok text) :
    text.toList = ((t.residue objects values).map (.map FieldName.chars)).flatMap Piece.shown ∧
      ∀ fieldName, .field fieldName ∈ t.pieces → ∃ rendered,
        t.fieldText objects values true fieldName = .ok rendered := by
  rw [renderParts_pieces] at h
  cases hpieces : renderPieces (t.fieldText objects values true) t.pieces with
  | error failure =>
    rw [hpieces] at h
    cases h
  | ok cs =>
    rw [hpieces] at h
    cases h
    rw [String.toList_ofList]
    exact shown_of_renderPieces hpieces

lemma eraseDups_filter {α : Type} [BEq α] [LawfulBEq α] (p : α → Bool) (xs : List α) :
    (xs.filter p).eraseDups = xs.eraseDups.filter p := by
  induction xs using List.reverseRecOn with
  | nil => rfl
  | append_singleton xs x ih =>
    rw [List.filter_append, eraseDups_concat]
    by_cases hx : p x = true
    · have hsingle : [x].filter p = [x] := by simp [hx]
      rw [hsingle, eraseDups_concat, ih]
      by_cases hmem : x ∈ xs.eraseDups
      · rw [if_pos hmem, if_pos (List.mem_filter.2 ⟨hmem, hx⟩)]
      · rw [if_neg hmem, if_neg fun h => hmem (List.mem_filter.1 h).1, List.filter_append, hsingle]
    · have hsingle : [x].filter p = [] := by simp [hx]
      rw [hsingle, List.append_nil, ih]
      split
      · rfl
      · rw [List.filter_append, hsingle, List.append_nil]

/-- **The fields that are left** are those without a value, in their order. -/
lemma pieceFields_residue : pieceFields (t.residue objects values) = t.missing values := by
  have hfields : pieceFields t.pieces = t.fields :=
    (pieceFields_parts t.parts).trans t.fields_eq.symm
  unfold missing
  rw [← hfields]
  unfold pieceFields residue
  rw [← eraseDups_filter]
  congr 1
  induction t.pieces with
  | nil => rfl
  | cons piece ps ih =>
    cases piece with
    | char c => exact ih
    | field fieldName =>
      unfold substitute at ih ⊢
      rw [List.flatMap_cons, List.filterMap_append, ih]
      change (t.left objects values fieldName).filterMap _ ++ _ =
        (fieldName :: List.filterMap _ ps).filter _
      rw [List.filter_cons]
      unfold left
      by_cases hmem : fieldName.1 ∈ values.keys
      · rw [if_neg (not_not.2 hmem), if_neg (by simpa using hmem)]
        cases t.fieldText objects values true fieldName with
        | error => rfl
        | ok rendered =>
          refine congrArg (· ++ _) (List.filterMap_eq_nil_iff.2 fun piece hpiece => ?_)
          obtain ⟨c, -, rfl⟩ := List.mem_map.1 hpiece
          rfl
      · rw [if_pos hmem, if_pos (by simpa using hmem)]
        rfl

/-! ### Rendering what is left -/

section Continuing

variable {t u : PromptTemplate formatterParse V} {v : t.Bindings} {a : BindingArguments V}
  {text : String}

variable (objects) in
/-- **The template renders what is left of the other one**, once some values are bound: with any
other values it renders, or raises, what that one does with both. -/
structure Continues (t : PromptTemplate formatterParse V) (v : t.Bindings)
    (u : PromptTemplate formatterParse V) : Prop where
  fields : u.fields = t.missing (overlay t.values v).1
  render : ∀ (w : u.Bindings) (b c : BindingArguments V) (strict : Option Bool), b.Binds w.1 →
    c.Binds (v.1.update w.1) → u.render objects b strict = t.render objects c strict
  render_partial : ∀ (w : u.Bindings) (b c : BindingArguments V), b.Binds w.1 →
    c.Binds (v.1.update w.1) → u.renderPartial objects b = t.renderPartial objects c

/-- **The text of a partial rendering is the template of what is left** if and only if no character
of it is a brace. -/
lemma parse_residue_iff (h : t.renderParts objects values true = .ok text) (hne : text ≠ "") :
    (∃ parts, parseTemplate formatterParse t.name ⟨text, hne⟩ = .ok (parts, t.missing values) ∧
      parts.flatMap TemplatePart.pieces = t.residue objects values) ↔
      Braceless ((t.residue objects values).map (.map FieldName.chars)) := by
  have hshown := (shown_of_renderParts h).1
  constructor
  · rintro ⟨parts, hparse, hpieces⟩
    obtain ⟨-, items, hmarkup, hparts⟩ := parseTemplate_iff.1 hparse
    refine braceless_of_length ?_
    have hlength := hmarkup.length_spell_le
    rw [forall₂_pieces_eq hparts, hpieces] at hlength
    exact hlength.trans_eq (congrArg List.length hshown)
  · intro hbraceless
    have htext : spellTemplate (t.residue objects values) = text := by
      rw [spellTemplate, hbraceless.spell_eq, ← hshown, String.ofList_toList]
    have hnames : ∀ fieldName, .field fieldName ∈ t.residue objects values →
        IsName fieldName.chars := by
      intro fieldName hmem
      obtain ⟨piece, hpiece, hmem⟩ := List.mem_flatMap.1 hmem
      cases piece with
      | char c =>
        cases List.mem_singleton.1 hmem
      | field other =>
        change _ ∈ t.left objects values other at hmem
        unfold left at hmem
        split at hmem
        · cases List.mem_singleton.1 hmem
          exact isName_of_parseTemplate t.parsed hpiece
        · split at hmem
          · obtain ⟨c, -, hc⟩ := List.mem_map.1 hmem
            cases hc
          · cases hmem
    subst htext
    have hread : ∃ parts, parseTemplate formatterParse t.name
          ⟨spellTemplate (t.residue objects values), hne⟩ =
        .ok (parts, pieceFields (t.residue objects values)) ∧
      parts.flatMap TemplatePart.pieces = t.residue objects values :=
      parseTemplate_spell hne hnames
    rwa [pieceFields_residue] at hread

/-- What stands for a field in what is left is rendered as the field itself would be. -/
lemma renderPieces_left {values w : Dict String (Option V)} (hname : u.name = t.name)
    (hw : ∀ key ∈ w.keys, key ∉ values.keys) {fieldName : FieldName}
    (hpolicy : fieldName.1 ∉ values.keys →
      u.policies.1.get? fieldName = t.policies.1.get? fieldName)
    (hrendered : ∃ rendered, t.fieldText objects values true fieldName = .ok rendered) :
    renderPieces (u.fieldText objects w preserveMissing) (t.left objects values fieldName) =
      (t.fieldText objects (values.update w) preserveMissing fieldName).map String.toList := by
  unfold left
  by_cases hmem : fieldName.1 ∈ values.keys
  · obtain ⟨rendered, hrendered⟩ := hrendered
    have hnone : w.get? fieldName.1 = none :=
      Dict.get?_eq_none_iff.2 fun hkey => hw _ hkey hmem
    have hvalue : (values.update w).get? fieldName.1 = values.get? fieldName.1 := by
      rw [Dict.get?_update, hnone, Option.none_or]
    have hupdated : fieldName.1 ∈ (values.update w).keys := Dict.mem_keys_update.2 (.inl hmem)
    have htext : t.fieldText objects (values.update w) preserveMissing fieldName = .ok rendered :=
      calc t.fieldText objects (values.update w) preserveMissing fieldName
        _ = t.fieldText objects (values.update w) true fieldName := fieldText_of_mem hupdated true
        _ = t.fieldText objects values true fieldName := fieldText_congr rfl rfl hvalue
        _ = .ok rendered := hrendered
    rw [if_neg (not_not.2 hmem), hrendered, htext]
    exact renderPieces_chars rendered.toList
  · have hvalue : w.get? fieldName.1 = (values.update w).get? fieldName.1 := by
      rw [Dict.get?_update, Dict.get?_eq_none_iff.2 hmem, Option.or_none]
    rw [if_pos hmem, renderPieces_field, fieldText_congr hname (hpolicy hmem) hvalue]

/-- **A template with the pieces that are left renders what is left.** -/
lemma renderParts_left {values w : Dict String (Option V)} (hname : u.name = t.name)
    (hpieces : u.pieces = t.residue objects values) (hw : ∀ key ∈ w.keys, key ∉ values.keys)
    (hpolicy : ∀ fieldName : FieldName, .field fieldName ∈ t.pieces → fieldName.1 ∉ values.keys →
      u.policies.1.get? fieldName = t.policies.1.get? fieldName)
    (h : t.renderParts objects values true = .ok text) :
    u.renderParts objects w preserveMissing =
      t.renderParts objects (values.update w) preserveMissing := by
  rw [renderParts_pieces, renderParts_pieces, hpieces, residue]
  rw [renderPieces_substitute fun fieldName hmem =>
    renderPieces_left hname hw (hpolicy fieldName hmem) ((shown_of_renderParts h).2 fieldName hmem)]

/-- The fields of a template stand among its pieces. -/
lemma mem_fields_of_mem_pieces {fieldName : FieldName} (h : .field fieldName ∈ t.pieces) :
    fieldName ∈ t.fields := by
  obtain ⟨part, hpart, hmem⟩ := List.mem_flatMap.1 h
  rcases List.mem_append.1 hmem with hmem | hmem
  · obtain ⟨c, -, hc⟩ := List.mem_map.1 hmem
    cases hc
  · obtain ⟨other, hother, heq⟩ := Option.map_eq_some_iff.1 (Option.mem_toList.1 hmem)
    cases heq
    exact mem_fields hpart hother

/-- The fields that are missing still, when values for some that were missing come in. -/
lemma missing_update {values w : Dict String (Option V)} (hfields : u.fields = t.missing values) :
    u.missing w = t.missing (values.update w) := by
  unfold missing at hfields ⊢
  rw [hfields, List.filter_filter]
  refine List.filter_congr fun fieldName _ => ?_
  simp only [Dict.mem_keys_update, not_or, Bool.decide_and, Bool.and_comm]

/-- **A template that is made of what is left continues the other one.** -/
lemma continues_of_pieces (ha : t.renderParts objects (overlay t.values v).1 true = .ok text)
    (hname : u.name = t.name) (hfields : u.fields = t.missing (overlay t.values v).1)
    (hpieces : u.pieces = t.residue objects (overlay t.values v).1)
    (hvalues : u.values.1 = .empty)
    (hpolicy : ∀ fieldName ∈ u.fields,
      u.policies.1.get? fieldName = t.policies.1.get? fieldName) :
    Continues objects t v u := by
  have hfresh (w : u.Bindings) : ∀ key ∈ w.1.keys, key ∉ (overlay t.values v).1.keys := by
    intro key hkey
    obtain ⟨fieldName, hmem, rfl⟩ := unknownKeys_eq_nil.1 w.2 key hkey
    rw [hfields] at hmem
    exact of_decide_eq_true (List.mem_filter.1 hmem).2
  have hknown (w : u.Bindings) : unknownKeys w.1 t.fields = [] := by
    refine unknownKeys_eq_nil.2 fun key hkey => ?_
    obtain ⟨fieldName, hmem, rfl⟩ := unknownKeys_eq_nil.1 w.2 key hkey
    rw [hfields] at hmem
    exact ⟨fieldName, (List.mem_filter.1 hmem).1, rfl⟩
  have hmerged (w : u.Bindings) : (overlay u.values w).1 = w.1 := by
    change u.values.1.update w.1 = w.1
    rw [hvalues, Dict.empty_update]
  have hboth (w : u.Bindings) : (overlay t.values (overlay v ⟨w.1, hknown w⟩)).1 =
      (overlay t.values v).1.update w.1 := by
    rw [← overlay_assoc]
    rfl
  have hparts (w : u.Bindings) (preserveMissing : Bool) :
      u.renderParts objects w.1 preserveMissing =
        t.renderParts objects ((overlay t.values v).1.update w.1) preserveMissing := by
    refine renderParts_left hname hpieces (hfresh w) (fun fieldName hmem hmissing => ?_) ha
    refine hpolicy fieldName ?_
    rw [hfields]
    exact List.mem_filter.2 ⟨mem_fields_of_mem_pieces hmem, decide_eq_true hmissing⟩
  refine ⟨hfields, fun w b c strict hb hc => ?_, fun w b c hb hc => ?_⟩
  · have hc' : c.Binds (overlay v ⟨w.1, hknown w⟩).1 := hc
    rw [render_of_binds hb, render_of_binds hc', hmerged, hboth]
    cases strict with
    | none => rfl
    | some strict =>
      change u.renderMerged objects strict w.1 = t.renderMerged objects strict _
      unfold renderMerged
      rw [missing_update hfields, hparts]
      unfold missingValues
      rw [hname]
  · have hc' : c.Binds (overlay v ⟨w.1, hknown w⟩).1 := hc
    rw [renderPartial_of_binds hb, renderPartial_of_binds hc', hmerged, hboth]
    exact hparts w true

end Continuing

/-- **Rendering in two steps is rendering in one.** The text of a partial rendering is the template
of what is left to render if and only if no character of it is a brace. If so, the template that is
made of it, with the policies of the fields that are left, renders with any values for them what the
original template renders with all values at once, and raises what that one raises.

**Proof sketch.** A rendering is one of characters and fields. What is left has the text of each
field that was rendered in its place, and texts are rendered as they are. It is read as it was
written, since there is no brace to double. -/
theorem partial_rendering_continues {t : PromptTemplate formatterParse V} {v : t.Bindings}
    {a : BindingArguments V} {text : String} (ha : a.Binds v.1)
    (h : t.renderPartial objects a = .ok text) (hne : text ≠ "") :
    ((∃ parts, parseTemplate formatterParse t.name ⟨text, hne⟩ =
        .ok (parts, t.missing (overlay t.values v).1) ∧
      parts.flatMap TemplatePart.pieces = t.residue objects (overlay t.values v).1) ↔
      Braceless ((t.residue objects (overlay t.values v).1).map (.map FieldName.chars))) ∧
    (Braceless ((t.residue objects (overlay t.values v).1).map (.map FieldName.chars)) →
      ∀ policies : Known (t.missing (overlay t.values v).1) (RenderPolicy V),
        (∀ fieldName ∈ t.missing (overlay t.values v).1,
          policies.1.get? fieldName = t.policies.1.get? fieldName) →
        ∃ u, make formatterParse (.str t.name) (.str text) (.ofDict some policies.1)
          (.mapping []) = .ok u ∧ Continues objects t v u) := by
  have hparts : t.renderParts objects (overlay t.values v).1 true = .ok text :=
    (renderPartial_of_binds ha).symm.trans h
  have hiff := parse_residue_iff hparts hne
  refine ⟨hiff, fun hbraceless policies hpolicies => ?_⟩
  obtain ⟨parts, hparse, hpieces⟩ := hiff.2 hbraceless
  let u : PromptTemplate formatterParse V :=
    ⟨t.name, ⟨text, hne⟩, parts, _, policies, ⟨.empty, rfl⟩, hparse⟩
  have hmake := u.make_self u.values
  exact ⟨u, hmake, continues_of_pieces hparts rfl rfl hpieces rfl hpolicies⟩

/-! ### An invitation -/

/-- The field `day`. -/
def dayField : FieldName := ⟨"day", by decide⟩

lemma invitation_parsed (name : NonEmptyString) :
    parseTemplate formatterParse name ⟨"Dear \x7bname\x7d, come on \x7bday\x7d!", by decide⟩ =
      .ok ([⟨"Dear ", some nameField⟩, ⟨", come on ", some dayField⟩, ⟨"!", none⟩],
        [nameField, dayField]) :=
  rfl

/-- A template with two fields. -/
def invitation : PromptTemplate formatterParse String where
  name := ⟨"invite", by decide⟩
  template := ⟨"Dear \x7bname\x7d, come on \x7bday\x7d!", by decide⟩
  parts := [⟨"Dear ", some nameField⟩, ⟨", come on ", some dayField⟩, ⟨"!", none⟩]
  fields := [nameField, dayField]
  policies := ⟨.empty, rfl⟩
  values := ⟨.empty, rfl⟩
  parsed := invitation_parsed _

/-- A value for the first one. -/
def invited : invitation.Bindings := ⟨Dict.empty.insert "name" (some "Ada"), by decide⟩

/-- The name is rendered first, and the day later. -/
theorem partial_rendering_continues_invitation :
    invitation.renderPartial plainTexts ⟨none, invited.1⟩ =
      .ok "Dear Ada, come on \x7bday\x7d!" ∧
    ∃ u, make formatterParse (.str "invite") (.str "Dear Ada, come on \x7bday\x7d!")
      (.mapping []) (.mapping []) = .ok u ∧ Continues plainTexts invitation invited u := by
  have hrendered : invitation.renderPartial plainTexts ⟨none, invited.1⟩ =
      .ok "Dear Ada, come on \x7bday\x7d!" := rfl
  have hcontinues := partial_rendering_continues (binds_overrides invited) hrendered (by decide)
  have hbraceless := hcontinues.1.1
    ⟨[⟨"Dear Ada, come on ", some dayField⟩, ⟨"!", none⟩], rfl, rfl⟩
  exact ⟨hrendered, hcontinues.2 hbraceless ⟨.empty, rfl⟩ fun _ _ => rfl⟩

end PromptTemplate

end PurrceptCore
