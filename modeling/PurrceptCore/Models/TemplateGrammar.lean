import PurrceptCore.Models.PromptTemplate
import PurrceptCore.Strings.FormatStrings

set_option relaxedAutoImplicit false
set_option autoImplicit false

/-!
# The grammar of templates

Which texts `_parse_template` (`prompt/template.py`) accepts, with the parser of format strings that
the standard library has.

## Main definitions

* `PurrceptCore.formatterParse` — `Formatter.parse`.
* `PurrceptCore.TemplatePart.pieces`, `PurrceptCore.spellTemplate` — templates as characters and
  fields, and how these are written.
* `PurrceptCore.TemplateGrammar` — what a parser of templates does.

## Main results

* `PurrceptCore.template_grammar` — `_parse_template` follows the grammar.
-/

namespace PurrceptCore

open Fallible FormatStrings

/-! ### The parser -/

/-- An item, as it is delivered. -/
def ParsedItem.ofItem (item : Item) : ParsedItem where
  literal := String.ofList item.literal
  fieldName := item.field.map fun f => String.ofList f.name
  formatSpec := item.field.map fun f => String.ofList f.spec
  conversion := item.field.bind fun f => f.conversion.map Char.toString

/-- `Formatter.parse`. -/
def formatterParse (template : String) : ParsedFormat :=
  let (items, error) := FormatStrings.parse template.toList
  ⟨items.map .ofItem, error.map FormatError.text⟩

/-! ### Characters and fields -/

/-- The characters of a name. -/
def FieldName.chars (fieldName : FieldName) : List Char := fieldName.1.toList

/-- The characters of a part, and its field. -/
def TemplatePart.pieces (part : TemplatePart) : List (Piece FieldName) :=
  part.literal.toList.map .char ++ (part.fieldName.map .field).toList

/-- How characters and fields are written in a template. -/
def spellTemplate (pieces : List (Piece FieldName)) : String :=
  String.ofList (spell (pieces.map (.map FieldName.chars)))

/-- The fields among pieces, in the order in which they appear first. -/
def pieceFields (pieces : List (Piece FieldName)) : List FieldName :=
  (pieces.filterMap fun
    | .char _ => none
    | .field fieldName => some fieldName).eraseDups

/-- The part for an item: its field has a name without spaces, and no more. -/
inductive PartOf : Item → TemplatePart → Prop
  | literal (literal : List Char) : PartOf ⟨literal, none⟩ ⟨String.ofList literal, none⟩
  | field (literal name : List Char) (h : isFieldName (String.ofList name) = true) :
      PartOf ⟨literal, some ⟨name, [], none⟩⟩
        ⟨String.ofList literal, some ⟨String.ofList name, h⟩⟩

/-- **What a parser of templates does.** -/
structure TemplateGrammar (name : NonEmptyString) : Prop where
  /-- It accepts the format strings whose fields are names only. -/
  accepts : ∀ template parts fields,
    parseTemplate formatterParse name template = .ok (parts, fields) ↔
      fields = pieceFields (parts.flatMap TemplatePart.pieces) ∧
        ∃ items, Markup items template.1.toList ∧ List.Forall₂ PartOf items parts
  /-- All others it refuses with an error of the definition that names the template. -/
  rejects : ∀ template failure, parseTemplate formatterParse name template = .error failure →
    ∃ text, failure = .definition text name
  /-- Characters and fields in any order are those of a template. -/
  writes : ∀ pieces (hne : spellTemplate pieces ≠ ""),
    (∀ fieldName, .field fieldName ∈ pieces → IsName fieldName.chars) →
      ∃ parts, parseTemplate formatterParse name ⟨spellTemplate pieces, hne⟩ =
        .ok (parts, pieceFields pieces) ∧ parts.flatMap TemplatePart.pieces = pieces
  /-- A template that is accepted can be written anew, with the same characters and fields. -/
  normalizes : ∀ template parts fields,
    parseTemplate formatterParse name template = .ok (parts, fields) →
      ∃ hne parts', parseTemplate formatterParse name
          ⟨spellTemplate (parts.flatMap TemplatePart.pieces), hne⟩ = .ok (parts', fields) ∧
        parts'.flatMap TemplatePart.pieces = parts.flatMap TemplatePart.pieces

/-! ### Items and parts -/

section Parts

variable {name template : NonEmptyString} {parts : List TemplatePart} {fields : List FieldName}
  {item : Item} {items : List Item} {part : TemplatePart}

lemma String.ofList_eq_empty {cs : List Char} : String.ofList cs = "" ↔ cs = [] := by
  constructor
  · intro h
    have hchars := congrArg String.toList h
    rwa [String.toList_ofList] at hchars
  · rintro rfl
    rfl

/-- **What the loop makes of an item.** -/
lemma parseItem_iff {parsed : List TemplatePart × List FieldName} :
    (∃ fields', parseItem name parsed (.ofItem item) = .ok (parts, fields')) ↔
      ∃ part, PartOf item part ∧ parts = parsed.1 ++ [part] := by
  obtain ⟨literal, field⟩ := item
  cases field with
  | none =>
    constructor
    · rintro ⟨fields', h⟩
      cases h
      exact ⟨_, .literal literal, rfl⟩
    · rintro ⟨part, hpart, rfl⟩
      cases hpart
      exact ⟨parsed.2, rfl⟩
  | some field =>
    obtain ⟨fieldName, spec, conversion⟩ := field
    constructor
    · rintro ⟨fields', h⟩
      obtain ⟨valid, hvalid, h⟩ := bind_eq_ok.1 h
      unfold validateFieldName at hvalid
      split at hvalid
      · next hname =>
        cases hvalid
        split at h
        · cases h
        · next hplain =>
          cases h
          obtain ⟨hconversion, hspec⟩ := not_or.1 hplain
          obtain rfl : spec = [] := String.ofList_eq_empty.1 (not_not.1 hspec)
          obtain rfl : conversion = none := by simpa [ParsedItem.ofItem] using hconversion
          exact ⟨_, .field literal fieldName hname, rfl⟩
      · cases hvalid
    · rintro ⟨part, hpart, rfl⟩
      cases hpart with
      | field _ _ hname =>
        let valid : FieldName := ⟨String.ofList fieldName, hname⟩
        have hvalid : validateFieldName name (String.ofList fieldName) = .ok valid := dif_pos hname
        refine ⟨if valid ∈ parsed.2 then parsed.2 else parsed.2 ++ [valid],
          bind_eq_ok.2 ⟨valid, hvalid, ?_⟩⟩
        exact if_neg (not_or.2 ⟨Bool.false_ne_true, fun hspec => hspec rfl⟩)

/-- What the loop makes of the items. -/
lemma parseItems_iff {parsed : List TemplatePart × List FieldName} :
    (∃ fields', (items.map ParsedItem.ofItem).foldlM (parseItem name) parsed =
        .ok (parts, fields')) ↔
      ∃ parts', List.Forall₂ PartOf items parts' ∧ parts = parsed.1 ++ parts' := by
  induction items generalizing parsed with
  | nil =>
    constructor
    · rintro ⟨fields', h⟩
      cases h
      exact ⟨[], .nil, (List.append_nil _).symm⟩
    · rintro ⟨parts', hparts, rfl⟩
      cases hparts
      exact ⟨parsed.2, by rw [List.append_nil]; rfl⟩
  | cons item items ih =>
    rw [List.map_cons]
    simp only [List.foldlM_cons, bind_eq_ok]
    constructor
    · rintro ⟨fields', next, hitem, hitems⟩
      obtain ⟨part, hpart, hnext⟩ := parseItem_iff.1 ⟨next.2, hitem⟩
      obtain ⟨parts', hparts, rfl⟩ := ih.1 ⟨fields', hitems⟩
      refine ⟨part :: parts', .cons hpart hparts, ?_⟩
      rw [hnext, List.append_assoc]
      rfl
    · rintro ⟨parts', hparts, rfl⟩
      cases hparts with
      | @cons _ part _ parts' hpart hparts =>
        obtain ⟨fields', hitem⟩ := parseItem_iff.2 ⟨part, hpart, rfl⟩
        have hrest : ∃ fields'', (items.map ParsedItem.ofItem).foldlM (parseItem name)
            (parsed.1 ++ [part], fields') = .ok (parsed.1 ++ part :: parts', fields'') :=
          ih.2 ⟨parts', hparts, by simp⟩
        obtain ⟨fields'', hitems⟩ := hrest
        exact ⟨fields'', _, hitem, hitems⟩

/-- The fields of pieces are those of the parts. -/
lemma pieceFields_parts (parts : List TemplatePart) :
    pieceFields (parts.flatMap TemplatePart.pieces) =
      (parts.filterMap TemplatePart.fieldName).eraseDups := by
  have hchars (literal : List Char) :
      (literal.map Piece.char).filterMap (fun
        | Piece.char _ => none
        | Piece.field fieldName => some fieldName) = ([] : List FieldName) := by
    rw [List.filterMap_map]
    exact List.filterMap_eq_nil_iff.2 fun _ _ => rfl
  unfold pieceFields
  congr 1
  induction parts with
  | nil => rfl
  | cons part parts ih =>
    rw [List.flatMap_cons, List.filterMap_append, ih, TemplatePart.pieces, List.filterMap_append,
      hchars, List.nil_append]
    obtain ⟨literal, fieldName⟩ := part
    cases fieldName with
    | none => rfl
    | some fieldName => rfl

/-- **The templates that are accepted.** -/
lemma parseTemplate_iff :
    parseTemplate formatterParse name template = .ok (parts, fields) ↔
      fields = pieceFields (parts.flatMap TemplatePart.pieces) ∧
        ∃ items, Markup items template.1.toList ∧ List.Forall₂ PartOf items parts := by
  constructor
  · intro h
    have hfirst : fields = _ := parseTemplate_firstAppearance h
    obtain ⟨parsed, hitems, h⟩ := bind_eq_ok.1 h
    split at h
    · next herror =>
      cases h
      obtain ⟨parts', hparts, rfl⟩ := parseItems_iff.1 ⟨fields, hitems⟩
      have hnone : (FormatStrings.parse template.1.toList).2 = none :=
        Option.map_eq_none_iff.1 herror
      exact ⟨hfirst.trans (pieceFields_parts _).symm, _, parse_iff.1 (Prod.ext rfl hnone), hparts⟩
    · cases h
  · rintro ⟨hfields, items, hmarkup, hparts⟩
    have hread : ∃ fields', (items.map ParsedItem.ofItem).foldlM (parseItem name) ([], []) =
        .ok (parts, fields') :=
      parseItems_iff.2 ⟨parts, hparts, rfl⟩
    obtain ⟨fields', hitems⟩ := hread
    have hparse : formatterParse template = ⟨items.map .ofItem, none⟩ := by
      unfold formatterParse
      rw [parse_iff.2 hmarkup]
      rfl
    have h : parseTemplate formatterParse name template = .ok (parts, fields') := by
      refine bind_eq_ok.2 ⟨(parts, fields'), ?_, ?_⟩
      · rw [hparse]
        exact hitems
      · rw [hparse]
    have hfirst : fields' = _ := parseTemplate_firstAppearance h
    rw [h, hfirst, hfields, pieceFields_parts]

/-- An error of the loop is one of the definition. -/
lemma parseItem_error {parsed : List TemplatePart × List FieldName} {item : ParsedItem}
    {failure : TemplateFailure} (h : parseItem name parsed item = .error failure) :
    ∃ text, failure = .definition text name := by
  unfold parseItem at h
  split at h
  · cases h
  · rcases bind_eq_error.1 h with h | ⟨fieldName, -, h⟩
    · unfold validateFieldName at h
      split at h
      · cases h
      · cases h
        exact ⟨_, rfl⟩
    · split at h
      · cases h
        exact ⟨_, rfl⟩
      · cases h

lemma parseItems_error {parsed : List TemplatePart × List FieldName} {items : List ParsedItem}
    {failure : TemplateFailure} (h : items.foldlM (parseItem name) parsed = .error failure) :
    ∃ text, failure = .definition text name := by
  induction items generalizing parsed with
  | nil => cases h
  | cons item items ih =>
    rw [List.foldlM_cons] at h
    rcases bind_eq_error.1 h with h | ⟨next, -, h⟩
    · exact parseItem_error h
    · exact ih h

/-- **The others are refused** with an error that names the template. -/
lemma parseTemplate_error {failure : TemplateFailure}
    (h : parseTemplate formatterParse name template = .error failure) :
    ∃ text, failure = .definition text name := by
  rcases bind_eq_error.1 h with h | ⟨parsed, -, h⟩
  · exact parseItems_error h
  · split at h
    · cases h
    · cases h
      exact ⟨_, rfl⟩

/-- A part has the pieces of its item. -/
lemma PartOf.pieces_eq (h : PartOf item part) :
    item.pieces = part.pieces.map (.map FieldName.chars) := by
  have hchars (literal : List Char) :
      (literal.map Piece.char).map (Piece.map FieldName.chars) = literal.map Piece.char := by
    rw [List.map_map]
    rfl
  cases h with
  | literal literal =>
    simp only [Item.pieces, TemplatePart.pieces, List.map_append, String.toList_ofList, hchars]
    rfl
  | field literal fieldName hname =>
    simp only [Item.pieces, TemplatePart.pieces, List.map_append, String.toList_ofList, hchars]
    simp [Piece.map, FieldName.chars]

lemma forall₂_pieces_eq (h : List.Forall₂ PartOf items parts) :
    items.flatMap Item.pieces =
      (parts.flatMap TemplatePart.pieces).map (.map FieldName.chars) := by
  induction h with
  | nil => rfl
  | cons hpart _ ih =>
    rw [List.flatMap_cons, List.flatMap_cons, List.map_append, ih, hpart.pieces_eq]

/-- Names are no more than their characters. -/
lemma FieldName.chars_injective : Function.Injective FieldName.chars :=
  fun _ _ h => Subtype.ext (String.toList_injective h)

lemma Piece.map_injective {N M : Type} {f : N → M} (hf : Function.Injective f) :
    Function.Injective (Piece.map f) := by
  intro p q h
  cases p with
  | char c =>
    cases q with
    | char d =>
      cases h
      rfl
    | field => cases h
  | field fieldName =>
    cases q with
    | char => cases h
    | field other => rw [hf (Piece.field.inj h)]

/-- An item with a plain name that is valid has a part. -/
lemma exists_partOf {item : Item} (hplain : item.IsPlain)
    (hvalid : ∀ f ∈ item.field, ∃ fieldName : FieldName, fieldName.chars = f.name) :
    ∃ part, PartOf item part := by
  obtain ⟨literal, field⟩ := item
  cases field with
  | none => exact ⟨_, .literal literal⟩
  | some field =>
    obtain ⟨chars, spec, conversion⟩ := field
    obtain ⟨rfl, rfl⟩ : spec = [] ∧ conversion = none := hplain _ rfl
    obtain ⟨fieldName, rfl⟩ : ∃ fieldName : FieldName, fieldName.chars = chars := hvalid _ rfl
    refine ⟨_, .field literal fieldName.chars ?_⟩
    rw [FieldName.chars, String.ofList_toList]
    exact fieldName.2

/-- The names in items with the pieces of a template are valid. -/
lemma exists_fieldName {pieces : List (Piece FieldName)}
    (h : items.flatMap Item.pieces = pieces.map (.map FieldName.chars)) (hitem : item ∈ items) :
    ∀ f ∈ item.field, ∃ fieldName : FieldName, fieldName.chars = f.name := by
  intro f hf
  have hfield : Piece.field f.name ∈ item.pieces :=
    List.mem_append_right _ (Option.mem_toList.2 (Option.mem_map_of_mem _ hf))
  have hmem : Piece.field f.name ∈ items.flatMap Item.pieces :=
    List.mem_flatMap.2 ⟨item, hitem, hfield⟩
  rw [h] at hmem
  obtain ⟨piece, -, hpiece⟩ := List.mem_map.1 hmem
  cases piece with
  | char => cases hpiece
  | field fieldName => exact ⟨fieldName, Piece.field.inj hpiece⟩

/-- Items with plain names that are valid have parts. -/
lemma exists_parts (hplain : ∀ item ∈ items, item.IsPlain)
    {pieces : List (Piece FieldName)}
    (h : items.flatMap Item.pieces = pieces.map (.map FieldName.chars)) :
    ∃ parts, List.Forall₂ PartOf items parts ∧ parts.flatMap TemplatePart.pieces = pieces := by
  have hpart : ∀ item ∈ items, ∃ part, PartOf item part := fun item hitem =>
    exists_partOf (hplain item hitem) (exists_fieldName h hitem)
  have hparts : ∃ parts, List.Forall₂ PartOf items parts := by
    clear h hplain
    induction items with
    | nil => exact ⟨[], .nil⟩
    | cons item items ih =>
      obtain ⟨hitem, hitems⟩ := List.forall_mem_cons.1 hpart
      obtain ⟨part, hitem⟩ := hitem
      obtain ⟨parts, hparts⟩ := ih hitems
      exact ⟨part :: parts, .cons hitem hparts⟩
  obtain ⟨parts, hparts⟩ := hparts
  refine ⟨parts, hparts, ?_⟩
  have heq := (forall₂_pieces_eq hparts).symm.trans h
  exact List.map_injective_iff.2 (Piece.map_injective FieldName.chars_injective) heq

/-- **Pieces that are written are read.** -/
lemma parseTemplate_spell {pieces : List (Piece FieldName)} (hne : spellTemplate pieces ≠ "")
    (hnames : ∀ fieldName, .field fieldName ∈ pieces → IsName fieldName.chars) :
    ∃ parts, parseTemplate formatterParse name ⟨spellTemplate pieces, hne⟩ =
      .ok (parts, pieceFields pieces) ∧ parts.flatMap TemplatePart.pieces = pieces := by
  have hnames' : ∀ chars, .field chars ∈ pieces.map (Piece.map FieldName.chars) →
      IsName chars := by
    intro chars hmem
    obtain ⟨piece, hpiece, heq⟩ := List.mem_map.1 hmem
    cases piece with
    | char => cases heq
    | field fieldName =>
      obtain rfl := Piece.field.inj heq
      exact hnames fieldName hpiece
  obtain ⟨items, hmarkup, hpieces, hplain⟩ := exists_markup_spell hnames'
  obtain ⟨parts, hparts, rfl⟩ := exists_parts hplain hpieces
  refine ⟨parts, parseTemplate_iff.2 ⟨rfl, items, ?_, hparts⟩, rfl⟩
  have htext := String.toList_ofList (l := spell
    ((parts.flatMap TemplatePart.pieces).map (.map FieldName.chars)))
  exact htext ▸ hmarkup

/-- The fields of a template that is accepted have names that can be written. -/
lemma isName_of_parseTemplate (h : parseTemplate formatterParse name template = .ok (parts, fields))
    {fieldName : FieldName} (hmem : .field fieldName ∈ parts.flatMap TemplatePart.pieces) :
    IsName fieldName.chars := by
  obtain ⟨-, items, hmarkup, hparts⟩ := parseTemplate_iff.1 h
  have hpiece := List.mem_map_of_mem (f := Piece.map FieldName.chars) hmem
  rw [← forall₂_pieces_eq hparts] at hpiece
  obtain ⟨item, hitem, hpiece⟩ := List.mem_flatMap.1 hpiece
  rcases List.mem_append.1 hpiece with hpiece | hpiece
  · obtain ⟨c, -, hc⟩ := List.mem_map.1 hpiece
    cases hc
  · obtain ⟨f, hf, hpiece⟩ := Option.map_eq_some_iff.1 (Option.mem_toList.1 hpiece)
    have heq : f.name = fieldName.chars := Piece.field.inj hpiece
    exact heq ▸ hmarkup.isName item hitem f hf

/-- What is written for a template that is accepted is not empty. -/
lemma spellTemplate_ne (h : parseTemplate formatterParse name template = .ok (parts, fields)) :
    spellTemplate (parts.flatMap TemplatePart.pieces) ≠ "" := by
  obtain ⟨-, items, hmarkup, hparts⟩ := parseTemplate_iff.1 h
  have hne : template.1.toList ≠ [] := fun hnil => template.2 (String.toList_eq_nil_iff.1 hnil)
  have hpieces := hmarkup.pieces_ne_nil hne
  rw [forall₂_pieces_eq hparts] at hpieces
  exact fun hempty => spell_ne_nil hpieces (String.ofList_eq_empty.1 hempty)

end Parts

/-- **`_parse_template` follows the grammar.** -/
theorem template_grammar (name : NonEmptyString) : TemplateGrammar name where
  accepts _ _ _ := parseTemplate_iff
  rejects _ _ := parseTemplate_error
  writes _ hne hnames := parseTemplate_spell hne hnames
  normalizes template parts fields h := by
    obtain ⟨parts', hparse, hpieces⟩ := parseTemplate_spell (spellTemplate_ne h)
      fun fieldName hmem => isName_of_parseTemplate h hmem
    rw [← (parseTemplate_iff.1 h).1] at hparse
    exact ⟨_, parts', hparse, hpieces⟩

end PurrceptCore
