import Mathlib.Data.List.Basic
import Mathlib.Data.List.TakeWhile
import PurrceptCore.Lists.Fallible
import PurrceptCore.Lists.Strip

set_option relaxedAutoImplicit false
set_option autoImplicit false

/-!
# Format strings

How Python reads a format string (`string.Formatter.parse`): the parser, and the grammar of what it
accepts.

## Main definitions

* `FormatStrings.parse` — the items that are delivered, and the error that may follow them.
* `FormatStrings.Markup` — the format strings, with their items.
* `FormatStrings.Piece`, `FormatStrings.spell` — characters and fields, and how they are written.
* `FormatStrings.renderPieces`, `FormatStrings.substitute` — what they are rendered to, and pieces
  in the place of fields.

## Main results

* `FormatStrings.parse_iff` — what is parsed without an error is what the grammar derives.
* `FormatStrings.exists_markup_spell` — characters and fields can be written in any order.
* `FormatStrings.renderPieces_substitute` — rendering what was substituted.

## Design

* A string is a list of its characters.
* The parser is lazy in the source. The items before an error are delivered.
* `'\x00'` is the character that the source takes for an absent conversion.
-/

namespace FormatStrings

open Fallible PurrceptCore

/-! ### The parser -/

/-- `{`. -/
abbrev opening : Char := '\x7b'

/-- `}`. -/
abbrev closing : Char := '\x7d'

/-- What may be wrong with a format string. -/
inductive FormatError
  | single (brace : Char)
  | unexpectedOpening
  | missingClosing
  | endOfString
  | missingColon
  | unmatchedOpening

/-- The text of the `ValueError`. -/
def FormatError.text : FormatError → String
  | single brace => "Single '" ++ brace.toString ++ "' encountered in format string"
  | unexpectedOpening => "unexpected '\x7b' in field name"
  | missingClosing => "expected '\x7d' before end of string"
  | endOfString => "end of string while looking for conversion specifier"
  | missingColon => "expected ':' after conversion specifier"
  | unmatchedOpening => "unmatched '\x7b' in format spec"

/-- A replacement field. -/
structure Field where
  name : List Char
  spec : List Char
  conversion : Option Char

/-- Literal text, and the field that follows it. -/
structure Item where
  literal : List Char
  field : Option Field

/-- One of the two braces. -/
def isBrace (c : Char) : Bool := c = opening || c = closing

/-- What ends a field name. -/
def endsName (c : Char) : Bool := c = closing || c = ':' || c = '!'

/-- Put a character before what is read. -/
def reading {α : Type} (c : Char) (result : Except FormatError (List Char × α)) :
    Except FormatError (List Char × α) := do
  let read ← result
  .ok (c :: read.1, read.2)

/-- Read a field name, and the character that ends it. Within brackets nothing ends it. -/
def scanName : Bool → List Char → Except FormatError (List Char × Char × List Char)
  | _, [] => .error .missingClosing
  | true, c :: cs => reading c (scanName (c ≠ ']') cs)
  | false, c :: cs =>
    if c = opening then .error .unexpectedOpening
    else if endsName c = true then .ok ([], c, cs)
    else reading c (scanName (c = '[') cs)

/-- Read a format specification up to its closing brace, within some nested fields. -/
def scanSpec : ℕ → List Char → Except FormatError (List Char × List Char)
  | _, [] => .error .unmatchedOpening
  | depth, c :: cs =>
    if c = closing then
      match depth with
      | 0 => .ok ([], cs)
      | depth + 1 => reading c (scanSpec depth cs)
    else reading c (scanSpec (if c = opening then depth + 1 else depth) cs)

/-- The conversion for a character. -/
def conversionOf (c : Char) : Option Char := if c = '\x00' then none else some c

/-- Read the specification of a field. -/
def parseSpec (name : List Char) (conversion : Option Char) (cs : List Char) :
    Except FormatError (Field × List Char) := do
  let (spec, rest) ← scanSpec 0 cs
  .ok (⟨name, spec, conversion⟩, rest)

/-- Read the conversion of a field, and what follows it. -/
def parseConversion (name : List Char) : List Char → Except FormatError (Field × List Char)
  | [] => .error .endOfString
  | [_] => .error .unmatchedOpening
  | c :: d :: rest =>
    if d = closing then .ok (⟨name, [], conversionOf c⟩, rest)
    else if d ≠ ':' then .error .missingColon
    else parseSpec name (conversionOf c) rest

/-- Read a field, after its opening brace. -/
def parseField (cs : List Char) : Except FormatError (Field × List Char) := do
  let (name, c, rest) ← scanName false cs
  if c = closing then .ok (⟨name, [], none⟩, rest)
  else if c = '!' then parseConversion name rest
  else parseSpec name none rest

/-- Read an item. -/
def nextItem (cs : List Char) : Except FormatError (Item × List Char) :=
  let literal := cs.takeWhile fun c => !isBrace c
  match cs.dropWhile fun c => !isBrace c with
  | [] => .ok (⟨literal, none⟩, [])
  | [c] => .error (.single c)
  | c :: d :: rest =>
    if d = c then .ok (⟨literal ++ [c], none⟩, rest)
    else if c = closing then .error (.single c)
    else do
      let (field, rest) ← parseField (d :: rest)
      .ok (⟨literal, some field⟩, rest)

/-- Read at most so many items. -/
def parseItems : ℕ → List Char → List Item × Option FormatError
  | 0, _ => ([], none)
  | fuel + 1, cs =>
    if cs = [] then ([], none)
    else
      match nextItem cs with
      | .error error => ([], some error)
      | .ok (item, rest) =>
        let (items, error) := parseItems fuel rest
        (item :: items, error)

/-- `Formatter.parse`. -/
def parse (cs : List Char) : List Item × Option FormatError := parseItems cs.length cs

/-! ### The grammar -/

/-- Text without braces. -/
def NoBraces (cs : List Char) : Prop := ∀ c ∈ cs, isBrace c = false

/-- Field names. Outside of brackets there are no braces, colons and exclamation marks. -/
inductive IsName : List Char → Prop
  | nil : IsName []
  | plain (c : Char) (name : List Char) (hc : c ≠ opening ∧ endsName c = false ∧ c ≠ '[')
      (hname : IsName name) : IsName (c :: name)
  | brackets (inner name : List Char) (hinner : ']' ∉ inner) (hname : IsName name) :
      IsName ('[' :: (inner ++ ']' :: name))

/-- Texts that close so many braces more than they open, and their own braces in between. -/
inductive Nested : ℕ → List Char → Prop
  | nil : Nested 0 []
  | other (depth : ℕ) (c : Char) (cs : List Char) (hc : isBrace c = false)
      (h : Nested depth cs) : Nested depth (c :: cs)
  | opens (depth : ℕ) (cs : List Char) (h : Nested (depth + 1) cs) : Nested depth (opening :: cs)
  | closes (depth : ℕ) (cs : List Char) (h : Nested depth cs) : Nested (depth + 1) (closing :: cs)

/-- The texts of a field, without its braces. -/
inductive FieldText : Field → List Char → Prop
  | plain (name : List Char) (hname : IsName name) : FieldText ⟨name, [], none⟩ name
  | spec (name spec : List Char) (hname : IsName name) (hspec : Nested 0 spec) :
      FieldText ⟨name, spec, none⟩ (name ++ ':' :: spec)
  | conversion (name : List Char) (c : Char) (hname : IsName name) :
      FieldText ⟨name, [], conversionOf c⟩ (name ++ ['!', c])
  | both (name spec : List Char) (c : Char) (hname : IsName name) (hspec : Nested 0 spec) :
      FieldText ⟨name, spec, conversionOf c⟩ (name ++ '!' :: c :: ':' :: spec)

/-- An item at the front of a text, and what follows it. -/
inductive Next : Item → List Char → List Char → Prop
  | text (literal : List Char) (hliteral : NoBraces literal) : Next ⟨literal, none⟩ literal []
  | brace (literal : List Char) (c : Char) (rest : List Char) (hliteral : NoBraces literal)
      (hc : isBrace c = true) : Next ⟨literal ++ [c], none⟩ (literal ++ c :: c :: rest) rest
  | field (literal : List Char) (f : Field) (text rest : List Char) (hliteral : NoBraces literal)
      (htext : FieldText f text) :
      Next ⟨literal, some f⟩ (literal ++ opening :: (text ++ closing :: rest)) rest

/-- **The format strings**, with their items. -/
inductive Markup : List Item → List Char → Prop
  | nil : Markup [] []
  | cons (item : Item) (items : List Item) (cs rest : List Char) (hne : cs ≠ [])
      (hitem : Next item cs rest) (hitems : Markup items rest) : Markup (item :: items) cs

/-! ### What the scanners read -/

lemma reading_eq_ok {α : Type} {c : Char} {result : Except FormatError (List Char × α)}
    {text : List Char} {a : α} :
    reading c result = .ok (text, a) ↔ ∃ read, result = .ok (read, a) ∧ text = c :: read := by
  unfold reading
  rw [bind_eq_ok]
  constructor
  · rintro ⟨⟨read, a'⟩, hresult, h⟩
    cases h
    exact ⟨read, hresult, rfl⟩
  · rintro ⟨read, hresult, rfl⟩
    exact ⟨(read, a), hresult, rfl⟩

/-- A name, or what is left of one within brackets. -/
def NameIn : Bool → List Char → Prop
  | false, name => IsName name
  | true, name => ∃ inner rest, name = inner ++ ']' :: rest ∧ ']' ∉ inner ∧ IsName rest

lemma not_nameIn_nil : ¬ NameIn true [] := by
  rintro ⟨inner, rest, h, -⟩
  simp at h

lemma nameIn_inside_cons {c : Char} {name : List Char} :
    NameIn true (c :: name) ↔ NameIn (c ≠ ']') name := by
  by_cases hc : c = ']'
  · subst hc
    constructor
    · rintro ⟨inner, rest, h, hinner, hrest⟩
      cases inner with
      | nil =>
        obtain rfl : name = rest := by simpa using h
        exact hrest
      | cons d inner =>
        obtain rfl : ']' = d := (List.cons.inj h).1
        exact absurd List.mem_cons_self hinner
    · intro h
      exact ⟨[], name, rfl, List.not_mem_nil, h⟩
  · rw [decide_eq_true hc]
    constructor
    · rintro ⟨inner, rest, h, hinner, hrest⟩
      cases inner with
      | nil => exact absurd (List.cons.inj h).1 hc
      | cons d inner =>
        exact ⟨inner, rest, (List.cons.inj h).2, fun hmem => hinner (.tail d hmem), hrest⟩
    · rintro ⟨inner, rest, rfl, hinner, hrest⟩
      refine ⟨c :: inner, rest, rfl, ?_, hrest⟩
      intro hmem
      rcases List.mem_cons.1 hmem with h | h
      · exact hc h.symm
      · exact hinner h

lemma nameIn_outside_cons {c : Char} {name : List Char} :
    NameIn false (c :: name) ↔ c ≠ opening ∧ endsName c = false ∧ NameIn (c = '[') name := by
  constructor
  · intro h
    cases h with
    | plain _ _ hc hname =>
      obtain ⟨hopening, hends, hbracket⟩ := hc
      rw [decide_eq_false hbracket]
      exact ⟨hopening, hends, hname⟩
    | brackets inner name hinner hname =>
      exact ⟨by decide, by decide, inner, name, rfl, hinner, hname⟩
  · rintro ⟨hopening, hends, h⟩
    by_cases hbracket : c = '['
    · subst hbracket
      obtain ⟨inner, rest, rfl, hinner, hrest⟩ := h
      exact .brackets inner rest hinner hrest
    · rw [decide_eq_false hbracket] at h
      exact .plain c name ⟨hopening, hends, hbracket⟩ h

/-- **What is read as a name**: a name, and the character that ends it. -/
lemma scanName_iff {inside : Bool} {cs name rest : List Char} {c : Char} :
    scanName inside cs = .ok (name, c, rest) ↔
      NameIn inside name ∧ endsName c = true ∧ cs = name ++ c :: rest := by
  induction cs generalizing inside name with
  | nil =>
    constructor
    · intro h
      rw [scanName] at h
      cases h
    · rintro ⟨-, -, h⟩
      simp at h
  | cons d cs ih =>
    cases inside with
    | true =>
      rw [scanName, reading_eq_ok]
      constructor
      · rintro ⟨read, hread, rfl⟩
        obtain ⟨hname, hends, rfl⟩ := ih.1 hread
        exact ⟨nameIn_inside_cons.2 hname, hends, rfl⟩
      · rintro ⟨hname, hends, h⟩
        cases name with
        | nil => exact absurd hname not_nameIn_nil
        | cons e name =>
          obtain ⟨rfl, rfl⟩ := List.cons.inj h
          exact ⟨name, ih.2 ⟨nameIn_inside_cons.1 hname, hends, rfl⟩, rfl⟩
    | false =>
      rw [scanName]
      constructor
      · intro h
        split at h
        · cases h
        · next hopening =>
          split at h
          · next hends =>
            cases h
            exact ⟨.nil, hends, rfl⟩
          · next hends =>
            obtain ⟨read, hread, rfl⟩ := reading_eq_ok.1 h
            obtain ⟨hname, hend, rfl⟩ := ih.1 hread
            have hcons := nameIn_outside_cons.2 ⟨hopening, Bool.eq_false_iff.2 hends, hname⟩
            exact ⟨hcons, hend, rfl⟩
      · rintro ⟨hname, hends, h⟩
        cases name with
        | nil =>
          obtain ⟨rfl, rfl⟩ := List.cons.inj h
          have hopening : d ≠ opening := by
            intro hd
            rw [hd] at hends
            cases hends
          rw [if_neg hopening, if_pos hends]
        | cons e name =>
          obtain ⟨rfl, rfl⟩ := List.cons.inj h
          obtain ⟨hopening, hplain, hname⟩ := nameIn_outside_cons.1 hname
          rw [if_neg hopening, if_neg (Bool.eq_false_iff.1 hplain), reading_eq_ok]
          exact ⟨name, ih.2 ⟨hname, hends, rfl⟩, rfl⟩

lemma isBrace_eq_false {c : Char} : isBrace c = false ↔ c ≠ opening ∧ c ≠ closing := by
  simp [isBrace]

lemma not_nested_closing {cs : List Char} : ¬ Nested 0 (closing :: cs) := by
  intro h
  cases h with
  | other _ _ _ hc => exact (isBrace_eq_false.1 hc).2 rfl

lemma nested_closing {depth : ℕ} {cs : List Char} :
    Nested (depth + 1) (closing :: cs) ↔ Nested depth cs := by
  constructor
  · intro h
    cases h with
    | other _ _ _ hc => exact absurd rfl (isBrace_eq_false.1 hc).2
    | closes _ _ h => exact h
  · exact .closes depth cs

lemma nested_cons {depth : ℕ} {c : Char} {cs : List Char} (hc : c ≠ closing) :
    Nested depth (c :: cs) ↔ Nested (if c = opening then depth + 1 else depth) cs := by
  constructor
  · intro h
    cases h with
    | other _ _ _ hother h => rwa [if_neg (isBrace_eq_false.1 hother).1]
    | opens _ _ h => exact h
    | closes => exact absurd rfl hc
  · intro h
    by_cases hopening : c = opening
    · subst hopening
      exact .opens depth cs h
    · rw [if_neg hopening] at h
      exact .other depth c cs (isBrace_eq_false.2 ⟨hopening, hc⟩) h

/-- **What is read as a specification**: a text whose braces are closed. -/
lemma scanSpec_iff {depth : ℕ} {cs spec rest : List Char} :
    scanSpec depth cs = .ok (spec, rest) ↔ Nested depth spec ∧ cs = spec ++ closing :: rest := by
  induction cs generalizing depth spec with
  | nil =>
    constructor
    · intro h
      cases h
    · rintro ⟨-, h⟩
      simp at h
  | cons c cs ih =>
    unfold scanSpec
    by_cases hc : c = closing
    · subst hc
      rw [if_pos rfl]
      cases depth with
      | zero =>
        constructor
        · intro h
          cases h
          exact ⟨.nil, rfl⟩
        · rintro ⟨hnested, h⟩
          cases spec with
          | nil =>
            obtain rfl := (List.cons.inj h).2
            rfl
          | cons d spec =>
            obtain rfl := (List.cons.inj h).1
            exact absurd hnested not_nested_closing
      | succ depth =>
        dsimp only
        rw [reading_eq_ok]
        constructor
        · rintro ⟨read, hread, rfl⟩
          obtain ⟨hnested, rfl⟩ := ih.1 hread
          exact ⟨nested_closing.2 hnested, rfl⟩
        · rintro ⟨hnested, h⟩
          cases spec with
          | nil => cases hnested
          | cons d spec =>
            obtain ⟨rfl, rfl⟩ := List.cons.inj h
            exact ⟨spec, ih.2 ⟨nested_closing.1 hnested, rfl⟩, rfl⟩
    · rw [if_neg hc, reading_eq_ok]
      constructor
      · rintro ⟨read, hread, rfl⟩
        obtain ⟨hnested, rfl⟩ := ih.1 hread
        exact ⟨(nested_cons hc).2 hnested, rfl⟩
      · rintro ⟨hnested, h⟩
        cases spec with
        | nil => exact absurd (List.cons.inj h).1 hc
        | cons d spec =>
          obtain ⟨rfl, rfl⟩ := List.cons.inj h
          exact ⟨spec, ih.2 ⟨(nested_cons hc).1 hnested, rfl⟩, rfl⟩

/-! ### What the parser reads -/

lemma parseSpec_iff {name cs rest : List Char} {conversion : Option Char} {f : Field} :
    parseSpec name conversion cs = .ok (f, rest) ↔
      ∃ spec, Nested 0 spec ∧ cs = spec ++ closing :: rest ∧ f = ⟨name, spec, conversion⟩ := by
  unfold parseSpec
  rw [bind_eq_ok]
  constructor
  · rintro ⟨⟨spec, rest'⟩, hspec, h⟩
    cases h
    obtain ⟨hnested, rfl⟩ := scanSpec_iff.1 hspec
    exact ⟨spec, hnested, rfl, rfl⟩
  · rintro ⟨spec, hnested, rfl, rfl⟩
    exact ⟨(spec, rest), scanSpec_iff.2 ⟨hnested, rfl⟩, rfl⟩

/-- What follows the mark of a conversion is read as the rest of a field. -/
lemma parseConversion_sound {name cs rest : List Char} {f : Field} (hname : IsName name)
    (h : parseConversion name cs = .ok (f, rest)) :
    ∃ text, FieldText f text ∧ name ++ '!' :: cs = text ++ closing :: rest := by
  unfold parseConversion at h
  split at h
  · cases h
  · cases h
  · next c d cs =>
    split at h
    · next hd =>
      cases h
      exact ⟨_, .conversion name c hname, by simp [hd]⟩
    · split at h
      · cases h
      · next hd =>
        obtain ⟨spec, hnested, rfl, rfl⟩ := parseSpec_iff.1 h
        exact ⟨_, .both name spec c hname hnested, by simp [not_not.1 hd]⟩

lemma endsName_eq_true {c : Char} : endsName c = true ↔ c = closing ∨ c = ':' ∨ c = '!' := by
  simp [endsName, or_assoc]

/-- **What is read as a field**: the text of one, and its closing brace. -/
lemma parseField_iff {cs rest : List Char} {f : Field} :
    parseField cs = .ok (f, rest) ↔ ∃ text, FieldText f text ∧ cs = text ++ closing :: rest := by
  unfold parseField
  rw [bind_eq_ok]
  constructor
  · rintro ⟨⟨name, c, cs'⟩, hscan, h⟩
    obtain ⟨hname, hends, rfl⟩ := scanName_iff.1 hscan
    rcases endsName_eq_true.1 hends with rfl | rfl | rfl
    · cases h
      exact ⟨name, .plain name hname, rfl⟩
    · obtain ⟨spec, hnested, rfl, rfl⟩ := parseSpec_iff.1 h
      exact ⟨_, .spec name spec hname hnested, by simp⟩
    · exact parseConversion_sound hname h
  · rintro ⟨text, htext, rfl⟩
    cases htext with
    | plain name hname =>
      exact ⟨(text, closing, rest), scanName_iff.2 ⟨hname, rfl, rfl⟩, rfl⟩
    | spec name spec hname hspec =>
      refine ⟨(name, ':', spec ++ closing :: rest), scanName_iff.2 ⟨hname, rfl, by simp⟩, ?_⟩
      exact parseSpec_iff.2 ⟨spec, hspec, rfl, rfl⟩
    | conversion name c hname =>
      exact ⟨(name, '!', c :: closing :: rest), scanName_iff.2 ⟨hname, rfl, by simp⟩, rfl⟩
    | both name spec c hname hspec =>
      refine ⟨(name, '!', c :: ':' :: (spec ++ closing :: rest)),
        scanName_iff.2 ⟨hname, rfl, by simp⟩, ?_⟩
      exact parseSpec_iff.2 ⟨spec, hspec, rfl, rfl⟩

/-- The text of a field does not begin with a brace that opens. -/
lemma FieldText.ne_opening {f : Field} {text : List Char} (h : FieldText f text)
    (rest : List Char) :
    ∃ c cs, text ++ closing :: rest = c :: cs ∧ c ≠ opening := by
  have hname {name : List Char} (hname : IsName name) (d : Char) (hd : d ≠ opening)
      (ds : List Char) : ∃ c cs, name ++ d :: ds = c :: cs ∧ c ≠ opening := by
    cases hname with
    | nil => exact ⟨d, ds, rfl, hd⟩
    | plain c name hc _ => exact ⟨c, name ++ d :: ds, rfl, hc.1⟩
    | brackets inner name _ _ => exact ⟨'[', _, rfl, by decide⟩
  cases h with
  | plain name h => exact hname h closing (by decide) rest
  | spec name spec h _ => simpa using hname h ':' (by decide) (spec ++ closing :: rest)
  | conversion name c h => simpa using hname h '!' (by decide) (c :: closing :: rest)
  | both name spec c h _ =>
    simpa using hname h '!' (by decide) (c :: ':' :: (spec ++ closing :: rest))

/-- Text without braces is read up to the first brace. -/
lemma scan_literal {literal : List Char} (h : NoBraces literal) {c : Char} (hc : isBrace c = true)
    (cs : List Char) :
    (literal ++ c :: cs).takeWhile (fun c => !isBrace c) = literal ∧
      (literal ++ c :: cs).dropWhile (fun c => !isBrace c) = c :: cs := by
  have hstops : Stops (fun c => !isBrace c) (c :: cs) := stops_cons.2 (by rw [hc]; rfl)
  have hall : ∀ d ∈ literal, (!isBrace d) = true := fun d hd => by rw [h d hd]; rfl
  exact ⟨takeWhile_run hall hstops, dropWhile_run hall hstops⟩

lemma scan_text {literal : List Char} (h : NoBraces literal) :
    literal.takeWhile (fun c => !isBrace c) = literal ∧
      literal.dropWhile (fun c => !isBrace c) = [] := by
  have hall : ∀ d ∈ literal, (!isBrace d) = true := fun d hd => by rw [h d hd]; rfl
  exact ⟨List.takeWhile_eq_self_iff.2 hall, List.dropWhile_eq_nil_iff.2 hall⟩

/-- A list is text without braces, which a brace ends if it goes on. -/
lemma exists_literal (cs : List Char) :
    NoBraces (cs.takeWhile fun c => !isBrace c) ∧
      ∀ c rest, cs.dropWhile (fun c => !isBrace c) = c :: rest → isBrace c = true := by
  constructor
  · intro c hc
    simpa using List.mem_takeWhile_imp hc
  · intro c rest h
    have hstops := stops_dropWhile (fun c => !isBrace c) cs
    rw [h, stops_cons] at hstops
    simpa using hstops

lemma isBrace_eq_true {c : Char} : isBrace c = true ↔ c = opening ∨ c = closing := by
  simp [isBrace]

/-- **What is read as an item.** -/
lemma nextItem_iff {cs rest : List Char} {item : Item} :
    nextItem cs = .ok (item, rest) ↔ Next item cs rest := by
  constructor
  · intro h
    obtain ⟨hliteral, hbrace⟩ := exists_literal cs
    have hsplit := List.takeWhile_append_dropWhile (p := fun c => !isBrace c) (l := cs)
    unfold nextItem at h
    dsimp only at h
    split at h
    · next hrest =>
      cases h
      rw [hrest, List.append_nil] at hsplit
      have htext := Next.text _ hliteral
      rwa [hsplit] at htext ⊢
    · cases h
    · next c d cs' hrest =>
      have hc := hbrace _ _ hrest
      rw [hrest] at hsplit
      split at h
      · next hd =>
        cases h
        have hitem := Next.brace _ c rest hliteral hc
        rw [hd] at hsplit
        rwa [hsplit] at hitem
      · split at h
        · cases h
        · next hclosing =>
          obtain ⟨⟨f, rest'⟩, hfield, h⟩ := bind_eq_ok.1 h
          cases h
          obtain ⟨text, htext, htail⟩ := parseField_iff.1 hfield
          have hopening := (isBrace_eq_true.1 hc).resolve_right hclosing
          have hitem := Next.field _ f text rest' hliteral htext
          rwa [← htail, ← hopening, hsplit] at hitem
  · intro h
    unfold nextItem
    cases h with
    | text literal hliteral =>
      obtain ⟨htake, hdrop⟩ := scan_text hliteral
      rw [htake, hdrop]
    | brace literal c rest hliteral hc =>
      obtain ⟨htake, hdrop⟩ := scan_literal hliteral hc (c :: rest)
      rw [htake, hdrop]
      exact if_pos rfl
    | field literal f text rest hliteral htext =>
      obtain ⟨htake, hdrop⟩ := scan_literal hliteral (c := opening) rfl (text ++ closing :: rest)
      obtain ⟨d, cs', htail, hd⟩ := htext.ne_opening rest
      have hfield : parseField (text ++ closing :: rest) = .ok (f, rest) :=
        parseField_iff.2 ⟨text, htext, rfl⟩
      rw [htake, hdrop, htail]
      rw [htail] at hfield
      dsimp only
      rw [if_neg hd, if_neg (by decide), hfield]
      rfl

/-- An item takes some of the text. -/
lemma Next.length_lt {item : Item} {cs rest : List Char} (h : Next item cs rest) (hne : cs ≠ []) :
    rest.length < cs.length := by
  cases h with
  | text => exact List.length_pos_iff.2 hne
  | brace =>
    simp only [List.length_append, List.length_cons]
    omega
  | field =>
    simp only [List.length_append, List.length_cons]
    omega

lemma parseItems_iff {fuel : ℕ} {cs : List Char} (hfuel : cs.length ≤ fuel) {items : List Item} :
    parseItems fuel cs = (items, none) ↔ Markup items cs := by
  induction fuel generalizing cs items with
  | zero =>
    obtain rfl := List.length_eq_zero_iff.1 (Nat.le_zero.1 hfuel)
    constructor
    · intro h
      cases h
      exact .nil
    · intro h
      cases h with
      | nil => rfl
      | cons _ _ _ _ hne => exact absurd rfl hne
  | succ fuel ih =>
    rw [parseItems]
    by_cases hcs : cs = []
    · subst hcs
      rw [if_pos rfl]
      constructor
      · intro h
        cases h
        exact .nil
      · intro h
        cases h with
        | nil => rfl
        | cons _ _ _ _ hne => exact absurd rfl hne
    · rw [if_neg hcs]
      constructor
      · intro h
        split at h
        · cases h
        · next item rest hnext =>
          have hitem := nextItem_iff.1 hnext
          obtain ⟨rfl, herror⟩ := Prod.ext_iff.1 h
          have hlength := hitem.length_lt hcs
          have hrest : parseItems fuel rest = ((parseItems fuel rest).1, none) :=
            Prod.ext rfl herror
          exact .cons item _ cs rest hcs hitem ((ih (by omega)).1 hrest)
      · intro h
        cases h with
        | nil => exact absurd rfl hcs
        | cons item items _ rest _ hitem hitems =>
          have hlength := hitem.length_lt hcs
          rw [nextItem_iff.2 hitem]
          dsimp only
          rw [(ih (by omega)).2 hitems]

/-- **The parser reads what the grammar derives**, and the rest is refused. -/
theorem parse_iff {cs : List Char} {items : List Item} :
    parse cs = (items, none) ↔ Markup items cs :=
  parseItems_iff le_rfl

/-! ### Writing format strings -/

/-- A character, or a field without a specification and a conversion. -/
inductive Piece (N : Type)
  | char (c : Char)
  | field (name : N)

/-- Pieces with other names. -/
def Piece.map {N M : Type} (f : N → M) : Piece N → Piece M
  | char c => char c
  | field name => field (f name)

/-- How a piece is written. -/
def Piece.spelled : Piece (List Char) → List Char
  | char c => if isBrace c = true then [c, c] else [c]
  | field name => opening :: (name ++ [closing])

/-- How pieces are written. -/
def spell (pieces : List (Piece (List Char))) : List Char := pieces.flatMap Piece.spelled

/-- The pieces of an item. -/
def Item.pieces (item : Item) : List (Piece (List Char)) :=
  item.literal.map .char ++ (item.field.map fun f => .field f.name).toList

/-- The field of the item has no specification and no conversion. -/
def Item.IsPlain (item : Item) : Prop := ∀ f ∈ item.field, f.spec = [] ∧ f.conversion = none

/-- An item begins with a character more. -/
lemma Next.cons_char {item : Item} {cs rest : List Char} (h : Next item cs rest) {c : Char}
    (hc : isBrace c = false) : Next { item with literal := c :: item.literal } (c :: cs) rest := by
  have hcons {literal : List Char} (h : NoBraces literal) : NoBraces (c :: literal) :=
    List.forall_mem_cons.2 ⟨hc, h⟩
  cases h with
  | text literal hliteral => exact .text (c :: cs) (hcons hliteral)
  | brace literal d rest hliteral hd => exact .brace (c :: literal) d rest (hcons hliteral) hd
  | field literal f text rest hliteral htext =>
    exact .field (c :: literal) f text rest (hcons hliteral) htext

/-- Items with these pieces make a format string of the text. -/
def Spells (pieces : List (Piece (List Char))) (cs : List Char) : Prop :=
  ∃ items, Markup items cs ∧ items.flatMap Item.pieces = pieces ∧ ∀ item ∈ items, item.IsPlain

/-- An item with one piece. -/
lemma Spells.cons_item {pieces : List (Piece (List Char))} {cs rest : List Char}
    (h : Spells pieces rest) {item : Item} (hne : cs ≠ []) (hitem : Next item cs rest)
    (hplain : item.IsPlain) : Spells (item.pieces ++ pieces) cs := by
  obtain ⟨items, hmarkup, rfl, hplains⟩ := h
  refine ⟨item :: items, .cons item items cs rest hne hitem hmarkup, rfl, ?_⟩
  exact List.forall_mem_cons.2 ⟨hplain, hplains⟩

/-- A character that is no brace goes to the literal that follows. -/
lemma Spells.cons_char {pieces : List (Piece (List Char))} {cs : List Char} (h : Spells pieces cs)
    {c : Char} (hc : isBrace c = false) : Spells (.char c :: pieces) (c :: cs) := by
  obtain ⟨items, hmarkup, rfl, hplains⟩ := h
  cases hmarkup with
  | nil =>
    refine ⟨[⟨[c], none⟩], ?_, rfl, List.forall_mem_singleton.2 fun f hf => by cases hf⟩
    exact .cons _ [] [c] [] (List.cons_ne_nil c [])
      (.text [c] (List.forall_mem_singleton.2 hc)) .nil
  | cons item items _ rest _ hitem hitems =>
    obtain ⟨hplain, hplains⟩ := List.forall_mem_cons.1 hplains
    refine ⟨_, .cons _ items (c :: cs) rest (List.cons_ne_nil c cs) (hitem.cons_char hc) hitems,
      rfl, ?_⟩
    exact List.forall_mem_cons.2 ⟨hplain, hplains⟩

/-- **Characters and fields can be written in any order.** -/
theorem exists_markup_spell {pieces : List (Piece (List Char))}
    (h : ∀ name, .field name ∈ pieces → IsName name) : Spells pieces (spell pieces) := by
  induction pieces with
  | nil => exact ⟨[], .nil, rfl, List.forall_mem_nil _⟩
  | cons piece pieces ih =>
    have hrest := ih fun name hname => h name (.tail piece hname)
    have hcons : spell (piece :: pieces) = piece.spelled ++ spell pieces := List.flatMap_cons
    rw [hcons]
    cases piece with
    | char c =>
      by_cases hc : isBrace c = true
      · have hitem := Next.brace [] c (spell pieces) (List.forall_mem_nil _) hc
        have hspelled : (Piece.char c).spelled = [c, c] := if_pos hc
        rw [hspelled]
        exact hrest.cons_item (List.cons_ne_nil _ _) hitem fun f hf => by cases hf
      · have hspelled : (Piece.char c).spelled = [c] := if_neg hc
        rw [hspelled]
        exact hrest.cons_char (Bool.eq_false_iff.2 hc)
    | field name =>
      have hname := h name List.mem_cons_self
      have hitem := Next.field [] ⟨name, [], none⟩ name (spell pieces) (List.forall_mem_nil _)
        (.plain name hname)
      have hspelled : (Piece.field name).spelled ++ spell pieces =
          [] ++ opening :: (name ++ closing :: spell pieces) := by
        simp [Piece.spelled]
      rw [hspelled]
      refine hrest.cons_item (List.cons_ne_nil _ _) hitem ?_
      intro f hf
      obtain rfl := Option.mem_some.1 hf
      exact ⟨rfl, rfl⟩

/-- Fields have names. -/
lemma FieldText.isName {f : Field} {text : List Char} (h : FieldText f text) : IsName f.name := by
  cases h <;> assumption

lemma Markup.isName {items : List Item} {cs : List Char} (h : Markup items cs) :
    ∀ item ∈ items, ∀ f ∈ item.field, IsName f.name := by
  induction h with
  | nil => exact List.forall_mem_nil _
  | cons item items cs rest _ hitem _ ih =>
    refine List.forall_mem_cons.2 ⟨?_, ih⟩
    intro f hf
    cases hitem with
    | text => cases hf
    | brace => cases hf
    | field _ _ _ _ _ htext =>
      obtain rfl := Option.mem_some.1 hf
      exact htext.isName

/-- A text that is not empty has a piece. -/
lemma Markup.pieces_ne_nil {items : List Item} {cs : List Char} (h : Markup items cs)
    (hne : cs ≠ []) : items.flatMap Item.pieces ≠ [] := by
  cases h with
  | nil => exact absurd rfl hne
  | cons item items _ rest _ hitem _ =>
    rw [List.flatMap_cons]
    refine List.append_ne_nil_of_left_ne_nil ?_ _
    cases hitem with
    | text => simpa [Item.pieces] using hne
    | brace => simp [Item.pieces]
    | field => simp [Item.pieces]

lemma spell_ne_nil {pieces : List (Piece (List Char))} (h : pieces ≠ []) : spell pieces ≠ [] := by
  obtain ⟨piece, pieces, rfl⟩ := List.exists_cons_of_ne_nil h
  unfold spell
  rw [List.flatMap_cons]
  refine List.append_ne_nil_of_left_ne_nil ?_ _
  cases piece with
  | char c =>
    change (if isBrace c = true then [c, c] else [c]) ≠ []
    split <;> exact List.cons_ne_nil _ _
  | field name => exact List.cons_ne_nil _ _

/-- How a piece is shown when braces are not doubled. -/
def Piece.shown : Piece (List Char) → List Char
  | char c => [c]
  | field name => opening :: (name ++ [closing])

/-- No character among the pieces is a brace. -/
def Braceless {N : Type} (pieces : List (Piece N)) : Prop :=
  ∀ c, .char c ∈ pieces → isBrace c = false

lemma Piece.length_shown_le (piece : Piece (List Char)) :
    piece.shown.length ≤ piece.spelled.length := by
  cases piece with
  | char c =>
    change 1 ≤ (if isBrace c = true then [c, c] else [c]).length
    split <;> simp
  | field name => exact le_rfl

lemma length_shown_le (pieces : List (Piece (List Char))) :
    (pieces.flatMap Piece.shown).length ≤ (spell pieces).length := by
  induction pieces with
  | nil => exact le_rfl
  | cons piece pieces ih =>
    have hpiece := piece.length_shown_le
    simp only [spell, List.flatMap_cons, List.length_append] at ih ⊢
    omega

/-- Without braces among the characters there is nothing to double. -/
lemma Braceless.spell_eq {pieces : List (Piece (List Char))} (h : Braceless pieces) :
    spell pieces = pieces.flatMap Piece.shown := by
  induction pieces with
  | nil => rfl
  | cons piece pieces ih =>
    have hrest := ih fun c hc => h c (.tail piece hc)
    unfold spell at hrest ⊢
    rw [List.flatMap_cons, List.flatMap_cons, hrest]
    cases piece with
    | char c =>
      have hc := h c List.mem_cons_self
      have hspelled : (Piece.char c).spelled = [c] := if_neg (Bool.eq_false_iff.1 hc)
      rw [hspelled]
      rfl
    | field => rfl

/-- Braces that are doubled take space. -/
lemma braceless_of_length {pieces : List (Piece (List Char))}
    (h : (spell pieces).length ≤ (pieces.flatMap Piece.shown).length) : Braceless pieces := by
  induction pieces with
  | nil => exact fun c hc => absurd hc List.not_mem_nil
  | cons piece pieces ih =>
    have hpiece := piece.length_shown_le
    have hrest := length_shown_le pieces
    simp only [spell, List.flatMap_cons, List.length_append] at h hrest ih
    intro c hc
    rcases List.mem_cons.1 hc with rfl | hc
    · rw [Bool.eq_false_iff]
      intro hbrace
      have hspelled : (Piece.char c).spelled = [c, c] := if_pos hbrace
      have hshown : (Piece.char c).shown = [c] := rfl
      rw [hspelled, hshown] at h
      simp only [List.length_cons, List.length_nil] at h
      omega
    · exact ih (by omega) c hc

lemma FieldText.length_name_le {f : Field} {text : List Char} (h : FieldText f text) :
    f.name.length ≤ text.length := by
  cases h <;> simp

lemma spell_append (pieces pieces' : List (Piece (List Char))) :
    spell (pieces ++ pieces') = spell pieces ++ spell pieces' :=
  List.flatMap_append

lemma spell_chars {literal : List Char} (h : NoBraces literal) :
    spell (literal.map .char) = literal := by
  have hbraceless : Braceless (literal.map (Piece.char (N := List Char))) := by
    intro c hc
    obtain ⟨d, hd, heq⟩ := List.mem_map.1 hc
    cases heq
    exact h c hd
  rw [hbraceless.spell_eq, List.flatMap_map]
  exact List.flatMap_singleton' literal

/-- An item is not shorter than its pieces. -/
lemma Next.length_spell_le {item : Item} {cs rest : List Char} (h : Next item cs rest) :
    (spell item.pieces).length + rest.length ≤ cs.length := by
  have hnone (literal : List Char) : (⟨literal, none⟩ : Item).pieces = literal.map .char :=
    List.append_nil _
  cases h with
  | text _ hliteral =>
    rw [hnone, spell_chars hliteral]
    simp
  | brace literal c rest hliteral hc =>
    have hspelled : spell [Piece.char c] = [c, c] :=
      (List.append_nil _).trans (if_pos hc)
    rw [hnone, List.map_append, spell_append, spell_chars hliteral, List.map_singleton, hspelled]
    simp
    omega
  | field literal f text rest hliteral htext =>
    have hname := htext.length_name_le
    have hpieces : (⟨literal, some f⟩ : Item).pieces = literal.map .char ++ [.field f.name] := rfl
    have hspelled : spell [Piece.field f.name] = opening :: (f.name ++ [closing]) :=
      List.append_nil _
    rw [hpieces, spell_append, spell_chars hliteral, hspelled]
    simp only [List.length_append, List.length_cons, List.length_nil]
    omega

/-- **A format string is not shorter than its pieces are when they are written.** -/
lemma Markup.length_spell_le {items : List Item} {cs : List Char} (h : Markup items cs) :
    (spell (items.flatMap Item.pieces)).length ≤ cs.length := by
  induction h with
  | nil => exact le_rfl
  | cons item items cs rest _ hitem _ ih =>
    have hlength := hitem.length_spell_le
    rw [List.flatMap_cons, spell_append, List.length_append]
    omega

/-! ### Rendering pieces -/

section Rendering

variable {N M E : Type} {text : N → Except E String} {text' : M → Except E String}

/-- The text of pieces, given that of the fields. -/
def renderPieces (text : N → Except E String) : List (Piece N) → Except E (List Char)
  | [] => .ok []
  | .char c :: pieces => do return c :: (← renderPieces text pieces)
  | .field name :: pieces => do
    let rendered ← text name
    return rendered.toList ++ (← renderPieces text pieces)

/-- Put pieces in the place of the fields. -/
def substitute (f : M → List (Piece N)) (pieces : List (Piece M)) : List (Piece N) :=
  pieces.flatMap fun
    | .char c => [.char c]
    | .field name => f name

lemma renderPieces_append (pieces pieces' : List (Piece N)) :
    renderPieces text (pieces ++ pieces') = (do
      let cs ← renderPieces text pieces
      let cs' ← renderPieces text pieces'
      return cs ++ cs') := by
  induction pieces with
  | nil =>
    change renderPieces text pieces' = renderPieces text pieces' >>= fun cs' => .ok cs'
    cases renderPieces text pieces' <;> rfl
  | cons piece pieces ih =>
    rw [List.cons_append]
    cases piece with
    | char c =>
      rw [renderPieces, renderPieces, ih]
      cases renderPieces text pieces with
      | error => rfl
      | ok cs => cases renderPieces text pieces' <;> rfl
    | field name =>
      rw [renderPieces, renderPieces, ih]
      cases text name with
      | error => rfl
      | ok rendered =>
        cases renderPieces text pieces with
        | error => rfl
        | ok cs =>
          cases renderPieces text pieces' with
          | error => rfl
          | ok cs' => exact congrArg Except.ok (List.append_assoc _ _ _).symm

lemma renderPieces_chars (cs : List Char) : renderPieces text (cs.map .char) = .ok cs := by
  induction cs with
  | nil => rfl
  | cons c cs ih =>
    rw [List.map_cons, renderPieces, ih]
    rfl

lemma renderPieces_field (name : N) :
    renderPieces text [.field name] = (text name).map String.toList := by
  rw [renderPieces]
  cases text name with
  | error => rfl
  | ok rendered => exact congrArg Except.ok (List.append_nil _)

/-- **Rendering what was substituted is rendering with the texts of what was substituted.** -/
theorem renderPieces_substitute {f : M → List (Piece N)} {pieces : List (Piece M)}
    (h : ∀ name, .field name ∈ pieces →
      renderPieces text (f name) = (text' name).map String.toList) :
    renderPieces text (substitute f pieces) = renderPieces text' pieces := by
  induction pieces with
  | nil => rfl
  | cons piece pieces ih =>
    have hrest := ih fun name hname => h name (.tail piece hname)
    unfold substitute at hrest ⊢
    rw [List.flatMap_cons, renderPieces_append, hrest]
    cases piece with
    | char c => cases hpieces : renderPieces text' pieces <;> simp [renderPieces, hpieces] <;> rfl
    | field name =>
      rw [h name List.mem_cons_self, renderPieces]
      cases text' name <;> rfl

end Rendering

end FormatStrings
