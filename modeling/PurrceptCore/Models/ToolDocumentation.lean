import PurrceptCore.Lists.Dict
import PurrceptCore.Lists.Strip
import PurrceptCore.Models.Decisions

set_option relaxedAutoImplicit false
set_option autoImplicit false

/-!
# The documentation of a tool

`tools/_documentation.py`: the description of a tool and of its parameters, read from a docstring.

## Main definitions

* `PurrceptCore.splitlines`, `PurrceptCore.sectionName`, `PurrceptCore.UnicodeTables.matchArgument`
  — lines, section headers, and the argument pattern.
* `PurrceptCore.UnicodeTables.googleParameterDescriptions` — the argument section.
* `PurrceptCore.UnicodeTables.resolveDocumentation` — the documentation.
* `PurrceptCore.UnicodeTables.MatchesPattern` — the argument pattern, as a grammar.
* `PurrceptCore.UnicodeTables.entries` — an argument section, read entry by entry.

## Main results

* `PurrceptCore.UnicodeTables.matchArgument_iff` — the pattern matches in one way only.
* `PurrceptCore.UnicodeTables.readLines_eq` — the loop reads entries.

## Design

* A string is the list of its characters, and the docstring is what `inspect.getdoc` has returned.
* Of the Unicode tables, the code reads `str.isalnum` and `str.upper`. Both are parameters.
* `str.lower` is used for comparisons with ASCII names only. The one character beyond ASCII whose
  lower case is ASCII is the Kelvin sign; all others are left as they are.
-/

namespace PurrceptCore

/-! ### Lines and headers -/

/-- A line boundary. -/
def isLineBreak (c : Char) : Bool :=
  ['\n', '\r', '\x0b', '\x0c', '\x1c', '\x1d', '\x1e', '\u0085', '\u2028', '\u2029'].contains c

/-- `str.splitlines`. -/
def splitlines : List Char → List (List Char)
  | [] => []
  | '\r' :: '\n' :: rest => [] :: splitlines rest
  | c :: rest =>
    if isLineBreak c then [] :: splitlines rest
    else
      match splitlines rest with
      | [] => [[c]]
      | line :: lines => (c :: line) :: lines

/-- `" ".join(parts)`. -/
def joinSpaced (parts : List (List Char)) : List Char := [' '].intercalate parts

/-- `str.lower`, of one character, as far as comparisons with ASCII names see it. -/
def lowerChar (c : Char) : Char := if c = '\u212a' then 'k' else c.toLower

/-- `_SECTION_NAMES`. -/
def sectionNames : List (List Char) :=
  ["args", "arguments", "attributes", "examples", "keyword args", "keyword arguments", "notes",
    "parameters", "raises", "returns", "warnings", "yields"].map String.toList

/-- The names that `_find_argument_section` looks for. -/
def argumentSections : List (List Char) :=
  ["args", "arguments", "parameters"].map String.toList

/-- `_section_name`. -/
def sectionName (value : List Char) : List Char :=
  if value.getLast? = some ':' then (strip isSpace value.dropLast).map lowerChar else []

/-- `_is_section_header`. -/
def isSectionHeader (value : List Char) : Bool := sectionNames.contains (sectionName value)

/-- The lines of the first paragraph, stripped. -/
def summaryLines : List (List Char) → List (List Char)
  | [] => []
  | line :: lines =>
    let stripped := strip isSpace line
    if stripped = [] ∨ isSectionHeader stripped then [] else stripped :: summaryLines lines

/-- `_first_paragraph`. -/
def firstParagraph (docstring : List Char) : Option (List Char) :=
  let summary := joinSpaced (summaryLines (splitlines docstring))
  if summary = [] then none else some summary

/-- `_find_argument_section`. -/
def findArgumentSection (lines : List (List Char)) : Option ℕ :=
  lines.findIdx? fun line => argumentSections.contains (sectionName (strip isSpace line))

/-! ### Arguments -/

/-- What the code reads of the Unicode tables. -/
structure UnicodeTables where
  /-- `str.isalnum`, of one character. -/
  isAlnum : Char → Bool
  /-- `str.upper`, of one character. -/
  upper : Char → List Char
  not_isSpace : ∀ c, isAlnum c = true → isSpace c = false
  not_punctuation : ∀ c, isAlnum c = true → c ≠ '(' ∧ c ≠ ':'
  upper_ne_nil : ∀ c, upper c ≠ []

/-- `[A-Za-z_]`. -/
def isNameStart (c : Char) : Bool := c.isAlpha || c = '_'

/-- `_store_description`. -/
def storeDescription (descriptions : Dict (List Char) (List Char)) (name : Option (List Char))
    (parts : List (List Char)) : Dict (List Char) (List Char) :=
  let description := joinSpaced parts
  match name with
  | none => descriptions
  | some name => if description = [] then descriptions else descriptions.insert name description

/-- `[text] if text else []`. -/
def nonEmpty (text : List Char) : List (List Char) := if text = [] then [] else [text]

/-- The loop of `_google_parameter_descriptions` stops at this line. -/
def endsSection (line : List Char) : Bool :=
  let stripped := strip isSpace line
  stripped ≠ [] && isSectionHeader stripped && !line.head?.any isSpace

namespace UnicodeTables

variable (u : UnicodeTables)

/-- `\w`. -/
def isWord (c : Char) : Bool := u.isAlnum c || c = '_'

/-- `:\s*(.*)$`, after a name. -/
def matchValue (name : List Char) : List Char → Option (List Char × List Char)
  | ':' :: value => some (name, value.dropWhile isSpace)
  | _ => none

/-- `_ARGUMENT_PATTERN.match`: its two groups. -/
def matchArgument (line : List Char) : Option (List Char × List Char) :=
  match line.dropWhile isSpace with
  | c :: rest =>
    if isNameStart c then
      let name := c :: rest.takeWhile u.isWord
      match (rest.dropWhile u.isWord).dropWhile isSpace with
      | '(' :: brackets =>
        match brackets.dropWhile (· ≠ ')') with
        | ')' :: rest => matchValue name (rest.dropWhile isSpace)
        | _ => none
      | rest => matchValue name rest
    else
      none
  | [] => none

/-- The loop of `_google_parameter_descriptions`. -/
def readLines (descriptions : Dict (List Char) (List Char)) (currentName : Option (List Char))
    (currentParts : List (List Char)) : List (List Char) → Dict (List Char) (List Char)
  | [] => storeDescription descriptions currentName currentParts
  | line :: lines =>
    if endsSection line then
      storeDescription descriptions currentName currentParts
    else
      match u.matchArgument line with
      | some (name, value) =>
        readLines (storeDescription descriptions currentName currentParts) (some name)
          (nonEmpty (strip isSpace value)) lines
      | none =>
        let stripped := strip isSpace line
        if currentName.isSome ∧ stripped ≠ [] then
          readLines descriptions currentName (currentParts ++ [stripped]) lines
        else
          readLines descriptions currentName currentParts lines

/-- `_google_parameter_descriptions`. -/
def googleParameterDescriptions (docstring : List Char) : Dict (List Char) (List Char) :=
  let lines := splitlines docstring
  match findArgumentSection lines with
  | none => .empty
  | some sectionIndex => u.readLines .empty none [] (lines.drop (sectionIndex + 1))

/-- `str.split`. -/
def pySplit (value : List Char) : List (List Char) :=
  (value.splitOnP isSpace).filter fun word => word ≠ []

/-- `_humanize_name`. -/
def humanizeName (toolName : List Char) : List Char :=
  let replaced := (strip (· = '_') toolName).map fun c => if c = '_' then ' ' else c
  let words := joinSpaced (pySplit replaced)
  match if words = [] then toolName else words with
  | [] => []
  | c :: rest => u.upper c ++ rest

/-- `resolve_documentation`. -/
def resolveDocumentation (docstring : Option (List Char)) (toolName : List Char)
    (explicitDescription : Option (List Char)) : List Char × Dict (List Char) (List Char) :=
  let summary := docstring.bind firstParagraph
  let description := explicitDescription.getD (summary.getD (u.humanizeName toolName))
  (description, docstring.elim .empty u.googleParameterDescriptions)

end UnicodeTables

/-! ### The argument pattern -/

/-- A letter is no space. -/
lemma isSpace_of_isNameStart {c : Char} (h : isNameStart c = true) : isSpace c = false := by
  have hupper (h : c.isUpper = true) : 65 ≤ c.toNat ∧ c.toNat ≤ 90 := of_decide_eq_true h
  have hlower (h : c.isLower = true) : 97 ≤ c.toNat ∧ c.toNat ≤ 122 :=
    ⟨of_decide_eq_true (Bool.and_eq_true_iff.1 h).1, of_decide_eq_true (Bool.and_eq_true_iff.1 h).2⟩
  rcases Bool.or_eq_true_iff.1 h with h | h
  · rcases Bool.or_eq_true_iff.1 h with h | h
    · have hrange := hupper h
      simp [isSpace]
      omega
    · have hrange := hlower h
      simp [isSpace]
      omega
  · obtain rfl := of_decide_eq_true h
    decide

namespace UnicodeTables

variable (u : UnicodeTables) {line name value : List Char}

/-- The argument pattern, with its two groups. -/
inductive MatchesPattern : List Char → List Char → List Char → Prop
  | plain (lead : List Char) (c : Char) (word gap gap' value : List Char)
      (hlead : ∀ c ∈ lead, isSpace c = true) (hc : isNameStart c = true)
      (hword : ∀ c ∈ word, u.isWord c = true) (hgap : ∀ c ∈ gap, isSpace c = true)
      (hgap' : ∀ c ∈ gap', isSpace c = true) :
      MatchesPattern (lead ++ (c :: word) ++ gap ++ ':' :: (gap' ++ value)) (c :: word) value
  | annotated (lead : List Char) (c : Char) (word gap brackets gap' gap'' value : List Char)
      (hlead : ∀ c ∈ lead, isSpace c = true) (hc : isNameStart c = true)
      (hword : ∀ c ∈ word, u.isWord c = true) (hgap : ∀ c ∈ gap, isSpace c = true)
      (hbrackets : ∀ c ∈ brackets, c ≠ ')') (hgap' : ∀ c ∈ gap', isSpace c = true)
      (hgap'' : ∀ c ∈ gap'', isSpace c = true) :
      MatchesPattern (lead ++ (c :: word) ++ gap ++ '(' :: (brackets ++ ')' :: (gap' ++
        ':' :: (gap'' ++ value)))) (c :: word) value

/-- A word character is neither a space nor a bracket nor a colon. -/
lemma not_of_isWord {c : Char} (h : u.isWord c = true) :
    isSpace c = false ∧ c ≠ '(' ∧ c ≠ ':' := by
  rw [isWord, Bool.or_eq_true] at h
  rcases h with h | h
  · exact ⟨u.not_isSpace c h, u.not_punctuation c h⟩
  · obtain rfl := of_decide_eq_true h
    decide

/-- What follows a name does not go on with it. -/
lemma stops_isWord {gap : List Char} {c : Char} (rest : List Char)
    (hgap : ∀ c ∈ gap, isSpace c = true) (hc : c = '(' ∨ c = ':') :
    Stops u.isWord (gap ++ c :: rest) := by
  have hnot {c : Char} (h : isSpace c = true ∨ c = '(' ∨ c = ':') : u.isWord c = false := by
    by_contra hword
    obtain ⟨hspace, hopen, hcolon⟩ := u.not_of_isWord (Bool.not_eq_false _ ▸ hword)
    rcases h with h | h | h
    · rw [hspace] at h
      cases h
    · exact hopen h
    · exact hcolon h
  cases gap with
  | nil => exact stops_cons.2 (hnot (.inr hc))
  | cons d gap => exact stops_cons.2 (hnot (.inl (hgap d List.mem_cons_self)))

/-- **The pattern is found.** -/
theorem MatchesPattern.matchArgument (h : u.MatchesPattern line name value) :
    u.matchArgument line = some (name, value.dropWhile isSpace) := by
  cases h with
  | plain lead c word gap gap' _ hlead hc hword hgap hgap' =>
    have hdrop : (lead ++ (c :: word) ++ gap ++ ':' :: (gap' ++ value)).dropWhile isSpace =
        c :: (word ++ (gap ++ ':' :: (gap' ++ value))) := by
      rw [List.append_assoc, List.append_assoc]
      exact dropWhile_run hlead (stops_cons.2 (isSpace_of_isNameStart hc))
    have hstops := u.stops_isWord (gap' ++ value) hgap (.inr rfl)
    rw [UnicodeTables.matchArgument, hdrop]
    simp only [if_pos hc, takeWhile_run hword hstops, dropWhile_run hword hstops,
      dropWhile_run hgap (stops_cons.2 (by decide : isSpace ':' = false))]
    exact congrArg (fun value => some (c :: word, value)) (List.dropWhile_append_of_pos hgap')
  | annotated lead c word gap brackets gap' gap'' _ hlead hc hword hgap hbrackets hgap'
      hgap'' =>
    have hdrop : (lead ++ (c :: word) ++ gap ++ '(' :: (brackets ++ ')' :: (gap' ++
        ':' :: (gap'' ++ value)))).dropWhile isSpace = c :: (word ++ (gap ++ '(' :: (brackets ++
          ')' :: (gap' ++ ':' :: (gap'' ++ value))))) := by
      rw [List.append_assoc, List.append_assoc]
      exact dropWhile_run hlead (stops_cons.2 (isSpace_of_isNameStart hc))
    have hstops := u.stops_isWord (brackets ++ ')' :: (gap' ++ ':' :: (gap'' ++ value))) hgap
      (.inl rfl)
    have hclose : (brackets ++ ')' :: (gap' ++ ':' :: (gap'' ++ value))).dropWhile (· ≠ ')') =
        ')' :: (gap' ++ ':' :: (gap'' ++ value)) :=
      dropWhile_run (fun c hc => decide_eq_true (hbrackets c hc)) (stops_cons.2 (by decide))
    rw [UnicodeTables.matchArgument, hdrop]
    simp only [if_pos hc, takeWhile_run hword hstops, dropWhile_run hword hstops,
      dropWhile_run hgap (stops_cons.2 (by decide : isSpace '(' = false)), hclose,
      dropWhile_run hgap' (stops_cons.2 (by decide : isSpace ':' = false))]
    exact congrArg (fun value => some (c :: word, value)) (List.dropWhile_append_of_pos hgap'')

/-- A colon after a name, and its value. -/
lemma matchValue_eq_some {name' rest : List Char} (h : matchValue name' rest = some (name, value)) :
    name = name' ∧ Stops isSpace value ∧
      ∃ gap, (∀ c ∈ gap, isSpace c = true) ∧ rest = ':' :: (gap ++ value) := by
  unfold matchValue at h
  split at h
  · next value' =>
    cases h
    exact ⟨rfl, stops_dropWhile isSpace value', value'.takeWhile isSpace,
      fun c hc => List.mem_takeWhile_imp hc, by rw [List.takeWhile_append_dropWhile]⟩
  · cases h

/-- **What is found matches the pattern.** -/
theorem matchesPattern_of_matchArgument (h : u.matchArgument line = some (name, value)) :
    u.MatchesPattern line name value ∧ Stops isSpace value := by
  have hlead (xs : List Char) : ∀ c ∈ xs.takeWhile isSpace, isSpace c = true :=
    fun c hc => List.mem_takeWhile_imp hc
  have hline := List.takeWhile_append_dropWhile (p := isSpace) (l := line)
  unfold UnicodeTables.matchArgument at h
  split at h
  · next c rest hdrop =>
    split at h
    · next hc =>
      have hword : ∀ c ∈ rest.takeWhile u.isWord, u.isWord c = true :=
        fun c hc => List.mem_takeWhile_imp hc
      have hrest : rest = rest.takeWhile u.isWord ++
          ((rest.dropWhile u.isWord).takeWhile isSpace ++
            (rest.dropWhile u.isWord).dropWhile isSpace) := by
        rw [List.takeWhile_append_dropWhile, List.takeWhile_append_dropWhile]
      split at h
      · next brackets hbrackets =>
        split at h
        · next after hafter =>
          obtain ⟨rfl, hstops, gap, hgap, hvalue⟩ := matchValue_eq_some h
          refine ⟨?_, hstops⟩
          have hopen : ∀ c ∈ brackets.takeWhile (· ≠ ')'), c ≠ ')' := by
            intro c hc
            simpa using List.mem_takeWhile_imp hc
          have hsplit : brackets = brackets.takeWhile (· ≠ ')') ++ ')' ::
              (after.takeWhile isSpace ++ ':' :: (gap ++ value)) := by
            rw [← hvalue, List.takeWhile_append_dropWhile, ← hafter,
              List.takeWhile_append_dropWhile]
          have hmatch := MatchesPattern.annotated (u := u) (line.takeWhile isSpace) c
            (rest.takeWhile u.isWord) ((rest.dropWhile u.isWord).takeWhile isSpace)
            (brackets.takeWhile (· ≠ ')')) (after.takeWhile isSpace) gap value (hlead _) hc hword
            (hlead _) hopen (hlead _) hgap
          rw [← hsplit, ← hbrackets, List.append_assoc, List.append_assoc, List.cons_append,
            ← hrest, ← hdrop, hline] at hmatch
          exact hmatch
        · cases h
      · next hnot =>
        obtain ⟨rfl, hstops, gap, hgap, hvalue⟩ := matchValue_eq_some h
        refine ⟨?_, hstops⟩
        have hmatch := MatchesPattern.plain (u := u) (line.takeWhile isSpace) c
          (rest.takeWhile u.isWord) ((rest.dropWhile u.isWord).takeWhile isSpace) gap value
          (hlead _) hc hword (hlead _) hgap
        rw [← hvalue, List.append_assoc, List.append_assoc, List.cons_append, ← hrest, ← hdrop,
          hline] at hmatch
        exact hmatch
    · cases h
  · cases h

/-- **The argument pattern matches in one way only**, up to spaces before the value: the match that
is found is the only one there is. -/
theorem matchArgument_iff : u.matchArgument line = some (name, value) ↔
    u.MatchesPattern line name value ∧ Stops isSpace value := by
  refine ⟨u.matchesPattern_of_matchArgument, ?_⟩
  rintro ⟨hmatch, hstops⟩
  rw [hmatch.matchArgument, dropWhile_of_stops hstops]

end UnicodeTables

/-! ### Entries -/

/-- The lines of the argument section. -/
def sectionLines (lines : List (List Char)) : List (List Char) :=
  lines.takeWhile fun line => !endsSection line

/-- The descriptions of the entries: a later entry of a name replaces an earlier one, and empty
descriptions are left out. -/
def described (d : Dict (List Char) (List Char))
    (entries : List (List Char × List (List Char))) : Dict (List Char) (List Char) :=
  entries.foldl (fun d entry => storeDescription d (some entry.1) entry.2) d

/-- Without a name nothing is stored. -/
@[simp] lemma storeDescription_none (d : Dict (List Char) (List Char)) (parts : List (List Char)) :
    storeDescription d none parts = d := rfl

namespace UnicodeTables

variable (u : UnicodeTables)

/-- The lines of an argument section, read entry by entry: what belongs to no entry, and the entries
with the parts of their descriptions. -/
def entries : List (List Char) → List (List Char) × List (List Char × List (List Char))
  | [] => ([], [])
  | line :: lines =>
    match u.matchArgument line with
    | some (name, value) =>
      ([], (name, nonEmpty (strip isSpace value) ++ (entries lines).1) :: (entries lines).2)
    | none => (nonEmpty (strip isSpace line) ++ (entries lines).1, (entries lines).2)

/-- **The loop reads entries.** -/
theorem readLines_eq (lines : List (List Char)) (d : Dict (List Char) (List Char))
    (name : Option (List Char)) (parts : List (List Char)) :
    u.readLines d name parts lines =
      described (storeDescription d name (parts ++ (u.entries (sectionLines lines)).1))
        (u.entries (sectionLines lines)).2 := by
  induction lines generalizing d name parts with
  | nil =>
    rw [readLines, sectionLines, List.takeWhile_nil, entries, List.append_nil]
    rfl
  | cons line lines ih =>
    rw [readLines]
    cases hends : endsSection line with
    | true =>
      rw [if_pos rfl, sectionLines, List.takeWhile_cons, hends, Bool.not_true,
        if_neg Bool.false_ne_true, entries, List.append_nil]
      rfl
    | false =>
      have hsection : sectionLines (line :: lines) = line :: sectionLines lines := by
        rw [sectionLines, List.takeWhile_cons, hends]
        rfl
      rw [if_neg Bool.false_ne_true, hsection, entries]
      cases hmatch : u.matchArgument line with
      | some groups =>
        obtain ⟨name', value⟩ := groups
        simp only [ih, List.append_nil]
        rfl
      | none =>
        simp only
        split
        · next hgoes =>
          rw [ih, nonEmpty, if_neg hgoes.2, List.append_assoc]
        · next hstays =>
          rw [ih]
          cases name with
          | none => rfl
          | some name =>
            have hblank : strip isSpace line = [] := by
              by_contra hne
              exact hstays ⟨rfl, hne⟩
            rw [nonEmpty, if_pos hblank, List.nil_append]

end UnicodeTables

end PurrceptCore
