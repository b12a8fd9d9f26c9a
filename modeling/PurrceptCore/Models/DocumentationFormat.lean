import PurrceptCore.Models.ToolDocumentation

set_option relaxedAutoImplicit false
set_option autoImplicit false

/-!
# The format of a docstring

What is extracted from a docstring is well formed, whatever the docstring is; and a docstring that
is laid out as documentation is read as it was meant.

## Main definitions

* `PurrceptCore.UnicodeTables.IsIdentifier` — the names that the argument pattern accepts.
* `PurrceptCore.ArgumentDoc`, `PurrceptCore.ToolDocstring` — the documentation of a tool, laid out
  in lines.

## Main results

* `PurrceptCore.documentation_wellFormed` — descriptions are single lines of text, and belong to an
  entry of the argument section.
* `PurrceptCore.documentation_round_trip` — what is laid out is read back.
-/

namespace PurrceptCore

/-! ### What is extracted -/

/-- A line without line boundaries. -/
def OneLine (line : List Char) : Prop := ∀ c ∈ line, isLineBreak c = false

instance (line : List Char) : Decidable (OneLine line) :=
  List.decidableBAll (fun c => isLineBreak c = false) line

/-- Lines have no line boundaries. -/
lemma oneLine_of_mem_splitlines (text : List Char) : ∀ line ∈ splitlines text, OneLine line := by
  fun_induction splitlines text with
  | case1 => exact List.forall_mem_nil _
  | case2 rest ih => exact List.forall_mem_cons.2 ⟨List.forall_mem_nil _, ih⟩
  | case3 c rest _ hc ih => exact List.forall_mem_cons.2 ⟨List.forall_mem_nil _, ih⟩
  | case4 c rest _ hc hnil ih =>
    refine List.forall_mem_singleton.2 (List.forall_mem_singleton.2 ?_)
    exact Bool.eq_false_iff.2 hc
  | case5 c rest _ hc line lines hlines ih =>
    rw [hlines] at ih
    obtain ⟨hline, hrest⟩ := List.forall_mem_cons.1 ih
    exact List.forall_mem_cons.2 ⟨List.forall_mem_cons.2 ⟨Bool.eq_false_iff.2 hc, hline⟩, hrest⟩

/-- A part of a description. -/
structure IsPart (part : List Char) : Prop where
  ne_nil : part ≠ []
  trimmed : Trimmed isSpace part
  oneLine : OneLine part

/-- What stripping leaves of a line is a part, or nothing. -/
lemma isPart_of_mem_nonEmpty {line part : List Char} (hline : OneLine line)
    (h : part ∈ nonEmpty (strip isSpace line)) : IsPart part := by
  unfold nonEmpty at h
  split at h
  · cases h
  · next hne =>
    obtain rfl := List.mem_singleton.1 h
    exact ⟨hne, trimmed_strip isSpace line, fun c hc => hline c (mem_of_mem_strip hc)⟩

/-- Parts with spaces in between are a part. -/
lemma IsPart.joinSpaced {parts : List (List Char)} (hne : parts ≠ [])
    (h : ∀ part ∈ parts, IsPart part) : IsPart (joinSpaced parts) := by
  refine ⟨intercalate_ne_nil hne fun part hpart => (h part hpart).ne_nil,
    .intercalate (fun part hpart => (h part hpart).ne_nil) fun part hpart => (h part hpart).trimmed,
    ?_⟩
  induction parts with
  | nil => exact absurd rfl hne
  | cons part parts ih =>
    have hpart := (h part List.mem_cons_self).oneLine
    cases parts with
    | nil => simpa [PurrceptCore.joinSpaced, List.intercalate] using hpart
    | cons part' parts =>
      have hrest := ih (List.cons_ne_nil _ _) fun q hq => h q (List.mem_cons_of_mem _ hq)
      have hjoin : PurrceptCore.joinSpaced (part :: part' :: parts) =
          part ++ (' ' :: PurrceptCore.joinSpaced (part' :: parts)) := by
        simp [PurrceptCore.joinSpaced, List.intercalate]
      rw [hjoin]
      intro c hc
      rcases List.mem_append.1 hc with hc | hc
      · exact hpart c hc
      · rcases List.mem_cons.1 hc with rfl | hc
        · decide
        · exact hrest c hc

/-- The lines of the argument section of a docstring. -/
def argumentLines (docstring : List Char) : List (List Char) :=
  match findArgumentSection (splitlines docstring) with
  | none => []
  | some sectionIndex => sectionLines ((splitlines docstring).drop (sectionIndex + 1))

lemma argumentLines_subset (docstring : List Char) :
    argumentLines docstring ⊆ splitlines docstring := by
  unfold argumentLines
  cases findArgumentSection (splitlines docstring) with
  | none => exact List.nil_subset _
  | some sectionIndex =>
    exact fun line hline => List.drop_subset _ _ (List.takeWhile_subset _ hline)

namespace UnicodeTables

variable (u : UnicodeTables) {line name value : List Char}

/-- The names that the argument pattern accepts. -/
def IsIdentifier (name : List Char) : Prop :=
  ∃ c word, name = c :: word ∧ isNameStart c = true ∧ ∀ c ∈ word, u.isWord c = true

/-- What a match reads. -/
lemma MatchesPattern.groups (h : u.MatchesPattern line name value) :
    u.IsIdentifier name ∧ ∀ c ∈ value, c ∈ line := by
  cases h with
  | plain lead c word gap gap' _ hlead hc hword => exact ⟨⟨c, word, rfl, hc, hword⟩, by simp_all⟩
  | annotated lead c word gap brackets gap' gap'' _ hlead hc hword =>
    exact ⟨⟨c, word, rfl, hc, hword⟩, by simp_all⟩

/-- An entry comes from a line that matches the argument pattern, and consists of parts. -/
structure IsEntry (lines : List (List Char)) (entry : List Char × List (List Char)) : Prop where
  matched : ∃ line ∈ lines, ∃ value, u.MatchesPattern line entry.1 value
  parts : ∀ part ∈ entry.2, IsPart part

lemma IsEntry.mono {u : UnicodeTables} {lines lines' : List (List Char)}
    {entry : List Char × List (List Char)} (h : u.IsEntry lines entry) (hsub : lines ⊆ lines') :
    u.IsEntry lines' entry := by
  obtain ⟨⟨line, hline, hmatched⟩, hparts⟩ := h
  exact ⟨⟨line, hsub hline, hmatched⟩, hparts⟩

/-- Entries come from lines that match. -/
lemma entries_wellFormed (lines : List (List Char)) (hlines : ∀ line ∈ lines, OneLine line) :
    (∀ part ∈ (u.entries lines).1, IsPart part) ∧
      ∀ entry ∈ (u.entries lines).2, u.IsEntry lines entry := by
  induction lines with
  | nil => exact ⟨List.forall_mem_nil _, List.forall_mem_nil _⟩
  | cons line lines ih =>
    obtain ⟨hline, hlines⟩ := List.forall_mem_cons.1 hlines
    obtain ⟨hloose, hentries⟩ := ih hlines
    rw [entries]
    cases hmatch : u.matchArgument line with
    | some groups =>
      obtain ⟨name, value⟩ := groups
      have hmatched := (u.matchesPattern_of_matchArgument hmatch).1
      have hvalue := hmatched.groups.2
      refine ⟨List.forall_mem_nil _, List.forall_mem_cons.2
        ⟨⟨⟨line, List.mem_cons_self, value, hmatched⟩, fun part hpart => ?_⟩, fun entry hentry =>
          (hentries entry hentry).mono (List.subset_cons_self _ _)⟩⟩
      rcases List.mem_append.1 hpart with hpart | hpart
      · exact isPart_of_mem_nonEmpty (fun c hc => hline c (hvalue c hc)) hpart
      · exact hloose part hpart
    | none =>
      refine ⟨fun part hpart => ?_, fun entry hentry =>
        (hentries entry hentry).mono (List.subset_cons_self _ _)⟩
      rcases List.mem_append.1 hpart with hpart | hpart
      · exact isPart_of_mem_nonEmpty hline hpart
      · exact hloose part hpart

/-- The description of an entry, if it has one. -/
def entryDescription? (name : List Char) (entry : List Char × List (List Char)) :
    Option (List Char) :=
  if entry.1 = name ∧ joinSpaced entry.2 ≠ [] then some (joinSpaced entry.2) else none

/-- **The description of a name** is that of its last entry that has one. -/
theorem get?_described (d : Dict (List Char) (List Char))
    (es : List (List Char × List (List Char))) (name : List Char) :
    (described d es).get? name =
      ((es.filterMap (entryDescription? name)).getLast?).or (d.get? name) := by
  induction es generalizing d with
  | nil => rfl
  | cons entry es ih =>
    have hstore : (storeDescription d (some entry.1) entry.2).get? name =
        (entryDescription? name entry).or (d.get? name) := by
      unfold storeDescription entryDescription?
      by_cases hempty : joinSpaced entry.2 = []
      · simp [hempty]
      · by_cases hname : entry.1 = name
        · simp [hempty, hname, Dict.get?_insert]
        · simp [hempty, hname, Dict.get?_insert, Ne.symm hname]
    change (described (storeDescription d (some entry.1) entry.2) es).get? name = _
    rw [ih, hstore, List.filterMap_cons]
    cases entryDescription? name entry with
    | none => rfl
    | some description =>
      rw [List.getLast?_cons]
      cases (es.filterMap (entryDescription? name)).getLast? <;> rfl

/-- The entries of a docstring. -/
def docstringEntries (docstring : List Char) : List (List Char × List (List Char)) :=
  (u.entries (argumentLines docstring)).2

/-- The argument section is read entry by entry. -/
theorem googleParameterDescriptions_eq (docstring : List Char) :
    u.googleParameterDescriptions docstring = described .empty (u.docstringEntries docstring) := by
  simp only [googleParameterDescriptions, docstringEntries, argumentLines]
  cases findArgumentSection (splitlines docstring) with
  | none => rfl
  | some sectionIndex => exact u.readLines_eq _ _ _ _

/-- A humanized name is not empty. -/
lemma humanizeName_ne_nil {toolName : List Char} (h : toolName ≠ []) :
    u.humanizeName toolName ≠ [] := by
  unfold humanizeName
  simp only
  split
  · next hnil =>
    split at hnil
    · exact absurd hnil h
    · next hne => exact absurd hnil hne
  · next c rest _ =>
    intro hnil
    exact u.upper_ne_nil c (List.append_eq_nil_iff.1 hnil).1

/-- The entries of a docstring come from lines of the argument section that match. -/
lemma docstringEntries_wellFormed (docstring : List Char) :
    ∀ entry ∈ u.docstringEntries docstring, u.IsEntry (argumentLines docstring) entry :=
  (u.entries_wellFormed _ fun line hline =>
    oneLine_of_mem_splitlines docstring line (argumentLines_subset docstring hline)).2

/-- What is extracted for a parameter: the description of its last entry that has one. -/
structure IsDescription (docstring name description : List Char) : Prop where
  matched : ∃ line ∈ argumentLines docstring, ∃ value, u.MatchesPattern line name value
  isPart : IsPart description
  last : ((u.docstringEntries docstring).filterMap (entryDescription? name)).getLast? =
    some description

/-- What is stored for a name is what was extracted for it. -/
lemma isDescription_of_get? {docstring name description : List Char}
    (h : (u.googleParameterDescriptions docstring).get? name = some description) :
    u.IsDescription docstring name description := by
  rw [googleParameterDescriptions_eq, get?_described] at h
  have hempty : (Dict.empty : Dict (List Char) (List Char)).get? name = none := rfl
  rw [hempty, Option.or_none] at h
  obtain ⟨entry, hentry, hdescription⟩ := List.mem_filterMap.1 (List.mem_of_getLast? h)
  obtain ⟨hmatched, hparts⟩ := u.docstringEntries_wellFormed docstring entry hentry
  unfold entryDescription? at hdescription
  split at hdescription
  · next hnamed =>
    cases hdescription
    refine ⟨hnamed.1 ▸ hmatched, .joinSpaced (fun hnil => hnamed.2 ?_) hparts, h⟩
    rw [hnil]
    rfl
  · cases hdescription

end UnicodeTables

/-- **What is extracted is well formed**, whatever the docstring is: a tool that is not described
explicitly has a description that is not empty, and the description of a parameter comes from a line
of the argument section that matches the argument pattern, and is one line of text, trimmed and not
empty, from the last entry of that name which has one. -/
theorem documentation_wellFormed (u : UnicodeTables) (docstring : Option (List Char))
    {toolName : List Char} (htool : toolName ≠ []) (explicit : Option (List Char)) :
    (explicit = none → (u.resolveDocumentation docstring toolName explicit).1 ≠ []) ∧
      ∀ name description,
        (u.resolveDocumentation docstring toolName explicit).2.get? name = some description →
          ∃ text, docstring = some text ∧ u.IsDescription text name description := by
  constructor
  · rintro rfl
    change (docstring.bind firstParagraph).getD (u.humanizeName toolName) ≠ []
    cases hsummary : docstring.bind firstParagraph with
    | none => exact u.humanizeName_ne_nil htool
    | some summary =>
      obtain ⟨text, -, hsome⟩ := Option.bind_eq_some_iff.1 hsummary
      simp only [firstParagraph] at hsome
      split at hsome
      · cases hsome
      · next hne =>
        cases hsome
        exact hne
  · intro name description h
    cases docstring with
    | none => cases h
    | some text => exact ⟨text, rfl, u.isDescription_of_get? h⟩

/-- An ASCII letter or digit is no space. -/
lemma isSpace_of_isAlphanum {c : Char} (h : c.isAlphanum = true) : isSpace c = false := by
  rcases Bool.or_eq_true_iff.1 h with h | h
  · exact isSpace_of_isNameStart (Bool.or_eq_true_iff.2 (.inl h))
  · have hdigit : 48 ≤ c.toNat ∧ c.toNat ≤ 57 := Char.isDigit_iff_toNat.1 h
    simp [isSpace]
    omega

/-- Brackets and colons are neither letters nor digits. -/
lemma ne_of_isAlphanum {c : Char} (h : c.isAlphanum = true) : c ≠ '(' ∧ c ≠ ':' := by
  constructor <;> rintro rfl <;> revert h <;> decide

/-- Tables that know ASCII only. -/
def UnicodeTables.ascii : UnicodeTables where
  isAlnum := Char.isAlphanum
  upper c := [c.toUpper]
  not_isSpace _ := isSpace_of_isAlphanum
  not_punctuation _ := ne_of_isAlphanum
  upper_ne_nil _ := List.cons_ne_nil _ _

/-- A docstring. -/
def addDocstring : List Char :=
  "Add numbers.\n\nArgs:\n  a (int): First\n    one.\n  b: Second.\n\nReturns:\n  c: Sum.".toList

/-- What is extracted from it. -/
theorem documentation_wellFormed_add :
    (UnicodeTables.ascii.resolveDocumentation none "add".toList none).1 ≠ [] ∧
      ∃ text, some addDocstring = some text ∧
        UnicodeTables.ascii.IsDescription text "a".toList "First one.".toList :=
  ⟨(documentation_wellFormed .ascii none (by decide) none).1 rfl,
    (documentation_wellFormed .ascii (some addDocstring) (by decide : "add".toList ≠ [])
      none).2 _ _ (by decide +kernel)⟩

/-! ### Laying out documentation -/

/-- Indentation by `n + 1` blanks. -/
def indentation (n : ℕ) : List Char := List.replicate (n + 1) ' '

/-- A documented parameter: its name, what stands in brackets after it, the description on the line
of the name, the lines that go on with it, and the number of blank lines after them. -/
structure ArgumentDoc (u : UnicodeTables) where
  name : List Char
  brackets : Option (List Char)
  value : List Char
  more : List (List Char)
  blanks : ℕ
  isIdentifier : u.IsIdentifier name
  brackets_closed : ∀ text ∈ brackets, OneLine text ∧ ∀ c ∈ text, c ≠ ')'
  value_trimmed : Trimmed isSpace value ∧ OneLine value
  more_parts : ∀ line ∈ more, IsPart line
  /-- A line that goes on with a description does not look like a parameter. -/
  more_unmatched : ∀ line ∈ more, u.matchArgument line = none

namespace ArgumentDoc

variable {u : UnicodeTables} (doc : ArgumentDoc u)

/-- The annotation, in brackets. -/
def bracketsText : List Char :=
  match doc.brackets with
  | none => []
  | some text => ' ' :: '(' :: (text ++ [')'])

/-- The lines of the parameter. -/
def lines (indent : ℕ) : List (List Char) :=
  (indentation indent ++ doc.name ++ doc.bracketsText ++ ':' :: ' ' :: doc.value) ::
    (doc.more.map (indentation (2 * indent + 1) ++ ·) ++ List.replicate doc.blanks [])

/-- Its entry. -/
def entry : List Char × List (List Char) := (doc.name, nonEmpty doc.value ++ doc.more)

end ArgumentDoc

/-- **The documentation of a tool**: a summary, other text, and the argument section, after which
there may be other sections. -/
structure ToolDocstring (u : UnicodeTables) where
  summary : List (List Char)
  prelude : List (List Char)
  header : List Char
  indent : ℕ
  arguments : List (ArgumentDoc u)
  trailer : List (List Char)
  summary_parts : ∀ line ∈ summary, IsPart line
  summary_text : ∀ line ∈ summary, isSectionHeader line = false
  prelude_oneLine : ∀ line ∈ prelude, OneLine line
  /-- The argument section is the first one. -/
  prelude_text : ∀ line ∈ prelude,
    argumentSections.contains (sectionName (strip isSpace line)) = false
  header_oneLine : OneLine header
  header_section : argumentSections.contains (sectionName (strip isSpace header)) = true
  trailer_oneLine : ∀ line ∈ trailer, OneLine line
  trailer_ends : ∀ line ∈ trailer.head?, endsSection line = true

namespace ToolDocstring

variable {u : UnicodeTables} (doc : ToolDocstring u)

/-- The lines of the argument section. -/
def argumentLines : List (List Char) := doc.arguments.flatMap fun a => a.lines doc.indent

/-- The lines of the docstring. -/
def lines : List (List Char) :=
  doc.summary ++ [] :: (doc.prelude ++ doc.header :: (doc.argumentLines ++ doc.trailer))

/-- The docstring. -/
def render : List Char := doc.lines.flatMap (· ++ ['\n'])

/-- The descriptions of its parameters. -/
def descriptions : Dict (List Char) (List Char) := described .empty (doc.arguments.map (·.entry))

end ToolDocstring

/-! ### Reading it back -/

/-- One line is split off. -/
lemma splitlines_append {line : List Char} (h : OneLine line) (rest : List Char) :
    splitlines (line ++ '\n' :: rest) = line :: splitlines rest := by
  induction line with
  | nil => rfl
  | cons c line ih =>
    obtain ⟨hc, hline⟩ := List.forall_mem_cons.1 h
    have hne : c ≠ '\r' := by
      rintro rfl
      exact absurd hc (by decide)
    rw [List.cons_append, splitlines, ih hline]
    · simp only [hc, Bool.false_eq_true, if_false]
    · intro rest' hr
      exact absurd hr hne

/-- **Lines that were laid out are split.** -/
lemma splitlines_flatMap {lines : List (List Char)} (h : ∀ line ∈ lines, OneLine line) :
    splitlines (lines.flatMap (· ++ ['\n'])) = lines := by
  induction lines with
  | nil => rfl
  | cons line lines ih =>
    obtain ⟨hline, hlines⟩ := List.forall_mem_cons.1 h
    rw [List.flatMap_cons, List.append_assoc, List.singleton_append, splitlines_append hline,
      ih hlines]

/-- A line boundary is a space. -/
lemma isSpace_of_isLineBreak {c : Char} (h : isLineBreak c = true) : isSpace c = true := by
  have hall : ['\n', '\r', '\x0b', '\x0c', '\x1c', '\x1d', '\x1e', '\u0085', '\u2028',
      '\u2029'].all isSpace = true := by decide
  exact List.all_eq_true.1 hall c (List.contains_iff_mem.1 h)

/-- A name is one line. -/
lemma UnicodeTables.IsIdentifier.oneLine {u : UnicodeTables} {name : List Char}
    (h : u.IsIdentifier name) : OneLine name := by
  obtain ⟨c, word, rfl, hc, hword⟩ := h
  have hnot {c : Char} (h : isSpace c = false) : isLineBreak c = false := by
    by_contra hbreak
    rw [isSpace_of_isLineBreak (Bool.not_eq_false _ ▸ hbreak)] at h
    cases h
  exact List.forall_mem_cons.2 ⟨hnot (isSpace_of_isNameStart hc),
    fun c hc => hnot (u.not_of_isWord (hword c hc)).1⟩

lemma isSpace_of_mem_indentation {n : ℕ} : ∀ c ∈ indentation n, isSpace c = true := by
  intro c hc
  obtain rfl := List.eq_of_mem_replicate hc
  decide

lemma oneLine_indentation (n : ℕ) : OneLine (indentation n) := by
  intro c hc
  obtain rfl := List.eq_of_mem_replicate hc
  decide

lemma OneLine.append {line line' : List Char} (h : OneLine line) (h' : OneLine line') :
    OneLine (line ++ line') := by
  intro c hc
  rcases List.mem_append.1 hc with hc | hc
  · exact h c hc
  · exact h' c hc

/-- An indented line does not end the section. -/
lemma endsSection_indentation (n : ℕ) (line : List Char) :
    endsSection (indentation n ++ line) = false := by
  have hhead : (indentation n ++ line).head? = some ' ' := rfl
  rw [endsSection, hhead]
  exact Bool.and_false _

namespace ArgumentDoc

variable {u : UnicodeTables} (doc : ArgumentDoc u)

/-- Its lines are lines. -/
lemma oneLine_lines (indent : ℕ) : ∀ line ∈ doc.lines indent, OneLine line := by
  refine List.forall_mem_cons.2 ⟨?_, fun line hline => ?_⟩
  · have hcolon : OneLine [':', ' '] := by decide
    have hbrackets : OneLine doc.bracketsText := by
      unfold bracketsText
      cases htext : doc.brackets with
      | none => exact List.forall_mem_nil _
      | some text =>
        have hopen : OneLine [' ', '('] := by decide
        exact hopen.append ((doc.brackets_closed text htext).1.append (by decide))
    exact (((oneLine_indentation indent).append doc.isIdentifier.oneLine).append
      hbrackets).append (hcolon.append doc.value_trimmed.2)
  · rcases List.mem_append.1 hline with hline | hline
    · obtain ⟨more, hmore, rfl⟩ := List.mem_map.1 hline
      exact (oneLine_indentation _).append (doc.more_parts more hmore).oneLine
    · obtain rfl := List.eq_of_mem_replicate hline
      exact List.forall_mem_nil _

/-- Its lines do not end the section. -/
lemma endsSection_lines (indent : ℕ) : ∀ line ∈ doc.lines indent, endsSection line = false := by
  refine List.forall_mem_cons.2 ⟨?_, fun line hline => ?_⟩
  · rw [List.append_assoc, List.append_assoc]
    exact endsSection_indentation _ _
  · rcases List.mem_append.1 hline with hline | hline
    · obtain ⟨more, -, rfl⟩ := List.mem_map.1 hline
      exact endsSection_indentation _ _
    · obtain rfl := List.eq_of_mem_replicate hline
      rfl

/-- Its first line matches the argument pattern. -/
lemma matchesPattern (indent : ℕ) : u.MatchesPattern
    (indentation indent ++ doc.name ++ doc.bracketsText ++ ':' :: ' ' :: doc.value) doc.name
    doc.value := by
  obtain ⟨c, word, hname, hc, hword⟩ := doc.isIdentifier
  have hblank : ∀ c ∈ [' '], isSpace c = true := List.forall_mem_singleton.2 rfl
  unfold bracketsText
  cases htext : doc.brackets with
  | none =>
    rw [hname]
    exact .plain _ c word [] [' '] doc.value isSpace_of_mem_indentation hc hword
      (List.forall_mem_nil _) hblank
  | some text =>
    have hmatch := UnicodeTables.MatchesPattern.annotated (u := u) (indentation indent) c word
      [' '] text [] [' '] doc.value isSpace_of_mem_indentation hc hword hblank
      (doc.brackets_closed text htext).2 (List.forall_mem_nil _) hblank
    rw [hname]
    simpa using hmatch

/-- Its lines are read as its entry. -/
lemma entries_lines (indent : ℕ) (rest : List (List Char)) (hrest : (u.entries rest).1 = []) :
    u.entries (doc.lines indent ++ rest) = ([], doc.entry :: (u.entries rest).2) := by
  have hblanks (n : ℕ) : u.entries (List.replicate n [] ++ rest) = ([], (u.entries rest).2) := by
    induction n with
    | zero => exact Prod.ext hrest rfl
    | succ n ih =>
      rw [List.replicate_succ, List.cons_append, UnicodeTables.entries, ih]
      rfl
  have hmore (more : List (List Char)) (hparts : ∀ line ∈ more, IsPart line)
      (hnone : ∀ line ∈ more, u.matchArgument line = none) :
      u.entries (more.map (indentation (2 * indent + 1) ++ ·) ++ (List.replicate doc.blanks [] ++
        rest)) = (more, (u.entries rest).2) := by
    induction more with
    | nil => exact hblanks doc.blanks
    | cons line more ih =>
      obtain ⟨hpart, hparts⟩ := List.forall_mem_cons.1 hparts
      obtain ⟨hline, hnone⟩ := List.forall_mem_cons.1 hnone
      have hindented : u.matchArgument (indentation (2 * indent + 1) ++ line) = none := by
        rw [← hline, UnicodeTables.matchArgument, UnicodeTables.matchArgument,
          List.dropWhile_append_of_pos isSpace_of_mem_indentation]
      have hstrip : strip isSpace (indentation (2 * indent + 1) ++ line) = line := by
        rw [strip_append_left isSpace_of_mem_indentation]
        exact hpart.trimmed
      rw [List.map_cons, List.cons_append, UnicodeTables.entries, hindented, ih hparts hnone,
        hstrip, nonEmpty, if_neg hpart.ne_nil]
      rfl
  have hstrip : strip isSpace (doc.value.dropWhile isSpace) = doc.value := by
    have htrimmed := doc.value_trimmed.1
    rw [dropWhile_of_stops (trimmed_iff.1 htrimmed).1]
    exact htrimmed
  rw [lines, List.cons_append, UnicodeTables.entries, (doc.matchesPattern indent).matchArgument,
    List.append_assoc, hmore doc.more doc.more_parts doc.more_unmatched]
  simp only [hstrip]
  rfl

end ArgumentDoc

/-- The first item that satisfies a predicate. -/
lemma findIdx?_append_cons {α : Type} {p : α → Bool} {xs ys : List α} {y : α}
    (hxs : ∀ x ∈ xs, p x = false) (hy : p y = true) :
    (xs ++ y :: ys).findIdx? p = some xs.length := by
  induction xs with
  | nil => rw [List.nil_append, List.findIdx?_cons, if_pos hy]; rfl
  | cons x xs ih =>
    obtain ⟨hx, hxs⟩ := List.forall_mem_cons.1 hxs
    rw [List.cons_append, List.findIdx?_cons, hx, ih hxs]
    rfl

namespace ToolDocstring

variable {u : UnicodeTables} (doc : ToolDocstring u)

lemma oneLine_lines : ∀ line ∈ doc.lines, OneLine line := by
  intro line hline
  simp only [lines, argumentLines, List.mem_append, List.mem_cons, List.mem_flatMap] at hline
  rcases hline with h | rfl | h | rfl | ⟨a, -, h⟩ | h
  · exact (doc.summary_parts line h).oneLine
  · exact List.forall_mem_nil _
  · exact doc.prelude_oneLine line h
  · exact doc.header_oneLine
  · exact a.oneLine_lines doc.indent line h
  · exact doc.trailer_oneLine line h

/-- The header of the argument section is found. -/
lemma findArgumentSection_lines : findArgumentSection doc.lines =
    some (doc.summary ++ [] :: doc.prelude).length := by
  have hlines : doc.lines =
      (doc.summary ++ [] :: doc.prelude) ++ doc.header :: (doc.argumentLines ++ doc.trailer) := by
    rw [lines, List.append_assoc]
    rfl
  rw [findArgumentSection, hlines]
  refine findIdx?_append_cons (fun line hline => ?_) doc.header_section
  rcases List.mem_append.1 hline with h | h
  · have hnot := doc.summary_text line h
    rw [(doc.summary_parts line h).trimmed]
    by_contra hfound
    have hmem := List.contains_iff_mem.1 (Bool.not_eq_false _ ▸ hfound)
    have hsub : argumentSections ⊆ sectionNames := by decide
    rw [isSectionHeader, List.contains_iff_mem.2 (hsub hmem)] at hnot
    cases hnot
  · rcases List.mem_cons.1 h with rfl | h
    · decide
    · exact doc.prelude_text line h

/-- The argument section ends before the other sections. -/
lemma sectionLines_lines : sectionLines (doc.argumentLines ++ doc.trailer) = doc.argumentLines := by
  refine takeWhile_run (fun line hline => ?_) fun line hline => ?_
  · obtain ⟨a, -, hline⟩ := List.mem_flatMap.1 hline
    rw [a.endsSection_lines doc.indent line hline]
    rfl
  · rw [doc.trailer_ends line hline]
    rfl

/-- The argument section is read as its entries. -/
lemma entries_argumentLines (u : UnicodeTables) (indent : ℕ) (arguments : List (ArgumentDoc u)) :
    u.entries (arguments.flatMap fun a => a.lines indent) = ([], arguments.map (·.entry)) := by
  induction arguments with
  | nil => rfl
  | cons a arguments ih =>
    rw [List.flatMap_cons, a.entries_lines indent _ (by rw [ih]), ih]
    rfl

/-- The summary is read up to the first blank line. -/
lemma summaryLines_lines : summaryLines doc.lines = doc.summary := by
  have hread (summary : List (List Char)) (rest : List (List Char))
      (hparts : ∀ line ∈ summary, IsPart line)
      (htext : ∀ line ∈ summary, isSectionHeader line = false) :
      summaryLines (summary ++ [] :: rest) = summary := by
    induction summary with
    | nil => rfl
    | cons line summary ih =>
      obtain ⟨hpart, hparts⟩ := List.forall_mem_cons.1 hparts
      obtain ⟨hline, htext⟩ := List.forall_mem_cons.1 htext
      have hgoes : ¬ (line = [] ∨ isSectionHeader line = true) := by
        rw [hline]
        simpa using hpart.ne_nil
      have hstrip : strip isSpace line = line := hpart.trimmed
      rw [List.cons_append, summaryLines, hstrip, if_neg hgoes, ih hparts htext]
  exact hread doc.summary _ doc.summary_parts doc.summary_text

end ToolDocstring

/-- **Round trip.** Documentation that was laid out in a docstring is read back: the description of
the tool is the summary, if there is one and no other was given; and the descriptions of its
parameters are those of the argument section, whatever stands before and after it. -/
theorem documentation_round_trip {u : UnicodeTables} (doc : ToolDocstring u) (toolName : List Char)
    (explicit : Option (List Char)) :
    u.resolveDocumentation (some doc.render) toolName explicit =
      (explicit.getD (if doc.summary = [] then u.humanizeName toolName
        else joinSpaced doc.summary), doc.descriptions) := by
  have hsplit : splitlines doc.render = doc.lines := splitlines_flatMap doc.oneLine_lines
  refine Prod.ext ?_ ?_
  · have hsummary : firstParagraph doc.render =
        if doc.summary = [] then none else some (joinSpaced doc.summary) := by
      rw [firstParagraph, hsplit, doc.summaryLines_lines]
      by_cases hnil : doc.summary = []
      · rw [hnil]
        rfl
      · rw [if_neg hnil, if_neg (IsPart.joinSpaced hnil doc.summary_parts).ne_nil]
    change explicit.getD ((firstParagraph doc.render).getD (u.humanizeName toolName)) = _
    rw [hsummary]
    split <;> rfl
  · have hdrop : doc.lines.drop ((doc.summary ++ [] :: doc.prelude).length + 1) =
        doc.argumentLines ++ doc.trailer := by
      have hlines : doc.lines = (doc.summary ++ [] :: doc.prelude ++ [doc.header]) ++
          (doc.argumentLines ++ doc.trailer) := by
        simp [ToolDocstring.lines]
      rw [hlines]
      exact List.drop_left' (by rw [List.length_append, List.length_singleton])
    change u.googleParameterDescriptions doc.render = _
    rw [u.googleParameterDescriptions_eq, UnicodeTables.docstringEntries, argumentLines, hsplit,
      doc.findArgumentSection_lines]
    have hentries : u.entries doc.argumentLines = ([], doc.arguments.map (·.entry)) :=
      ToolDocstring.entries_argumentLines u doc.indent doc.arguments
    simp only [hdrop, doc.sectionLines_lines, hentries]
    rfl

/-- That docstring, laid out. -/
example : ∃ doc : ToolDocstring .ascii, doc.render = addDocstring ++ ['\n'] ∧
    doc.arguments.map (·.name) = ["a".toList, "b".toList] :=
  ⟨{ summary := ["Add numbers.".toList]
     prelude := []
     header := "Args:".toList
     indent := 1
     arguments :=
      [{ name := "a".toList
         brackets := some "int".toList
         value := "First".toList
         more := ["one.".toList]
         blanks := 0
         isIdentifier := ⟨'a', [], by decide, by decide, List.forall_mem_nil _⟩
         brackets_closed := by
           rintro text ⟨⟩
           exact ⟨by decide, List.forall_mem_ne'.2 (by decide)⟩
         value_trimmed := ⟨by decide, by decide⟩
         more_parts := List.forall_mem_singleton.2 ⟨by decide, by decide, by decide⟩
         more_unmatched := by decide },
       { name := "b".toList
         brackets := none
         value := "Second.".toList
         more := []
         blanks := 1
         isIdentifier := ⟨'b', [], by decide, by decide, List.forall_mem_nil _⟩
         brackets_closed := by
           rintro text ⟨⟩
         value_trimmed := ⟨by decide, by decide⟩
         more_parts := List.forall_mem_nil _
         more_unmatched := by decide }]
     trailer := ["Returns:".toList, "  c: Sum.".toList]
     summary_parts := List.forall_mem_singleton.2 ⟨by decide, by decide, by decide⟩
     summary_text := by decide
     prelude_oneLine := by decide
     prelude_text := by decide
     header_oneLine := by decide
     header_section := by decide
     trailer_oneLine := by decide
     trailer_ends := by decide }, by decide +kernel, by decide⟩

end PurrceptCore
