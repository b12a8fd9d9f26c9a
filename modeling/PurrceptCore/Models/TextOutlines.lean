import PurrceptCore.Interaction.TwoRuns
import PurrceptCore.Models.PromptOrder
import PurrceptCore.Models.TurnPromptSession

set_option relaxedAutoImplicit false
set_option autoImplicit false

/-!
# Prompts without their texts

What the compiler makes of prompts that differ in texts only.

## Main definitions

* `PurrceptCore.SystemReminder.outline` — a reminder without its content.
* `PurrceptCore.PromptDraft.Alike`, `PurrceptCore.CompiledPrompt.Alike` — drafts that differ in
  texts only, and compiled prompts that differ in texts and digests only.

## Main results

* `PurrceptCore.PromptCompiler.compile_alike` — the compiler refuses both drafts, or the diagnostics
  are the same up to digests.
* `PurrceptCore.dropOldestCompleteTurn_alike` — so does trimming.
-/

namespace PurrceptCore

open Interaction

/-! ### Outlines -/

/-- A reminder without its content. -/
structure ReminderOutline where
  key : Option NonEmptyString
  scope : ReminderScope
  placement : ReminderPlacement
  priority : ℤ

/-- The outline of a reminder. -/
def SystemReminder.outline (r : SystemReminder) : ReminderOutline :=
  ⟨r.key, r.scope, r.placement, r.priority⟩

/-- The reminders have the same outlines, one by one. -/
def SameOutlines (reminders reminders' : List SystemReminder) : Prop :=
  reminders.map SystemReminder.outline = reminders'.map SystemReminder.outline

/-! ### Prompts that differ in texts only -/

/-- The histories have as many messages, and the same turn boundaries. -/
structure PreparedContext.Alike (h h' : PreparedContext) : Prop where
  messages : h.messages.length = h'.messages.length
  turnBoundaries : h.turnBoundaries = h'.turnBoundaries

/-- The drafts differ in contents only. -/
structure PromptDraft.Alike (d d' : PromptDraft) : Prop where
  history : d.history.Alike d'.history
  instructions : d.instructions.map SystemInstruction.key =
    d'.instructions.map SystemInstruction.key
  tools : d.tools.map ToolSpec.name = d'.tools.map ToolSpec.name
  toolChoice : d.settings.toolChoice = d'.settings.toolChoice

/-- The diagnostics without digests. -/
def PromptDiagnostics.redacted (d : PromptDiagnostics) : PromptDiagnostics :=
  { d with contentHashes := d.contentHashes.map fun _ => "", promptFingerprint := "" }

/-- The compiled prompts have the same diagnostics up to digests, and consume or not alike. -/
structure CompiledPrompt.Alike (c c' : CompiledPrompt) : Prop where
  diagnostics : c.diagnostics.redacted = c'.diagnostics.redacted
  consumedNextRequest : c.consumedNextRequest = c'.consumedNextRequest

/-! ### The compiler -/

namespace SameOutlines

variable {reminders reminders' others others' : List SystemReminder}

lemma cons {r r' : SystemReminder} (hr : r.outline = r'.outline)
    (h : SameOutlines reminders reminders') : SameOutlines (r :: reminders) (r' :: reminders') := by
  unfold SameOutlines at h ⊢
  rw [List.map_cons, List.map_cons, hr, h]

lemma append (h : SameOutlines reminders reminders') (h' : SameOutlines others others') :
    SameOutlines (reminders ++ others) (reminders' ++ others') := by
  unfold SameOutlines at h h' ⊢
  rw [List.map_append, List.map_append, h, h']

/-- What is read from reminders without their content is read from the outlines. -/
lemma map_eq {β : Type} {f : SystemReminder → β} (h : SameOutlines reminders reminders')
    (g : ReminderOutline → β) (hf : ∀ r, f r = g r.outline) :
    reminders.map f = reminders'.map f := by
  have hmap (rs : List SystemReminder) : rs.map f = (rs.map SystemReminder.outline).map g := by
    rw [List.map_map]
    exact List.map_congr_left fun r _ => hf r
  rw [hmap, hmap, h]

/-- The keys. -/
lemma keys_eq (h : SameOutlines reminders reminders') :
    reminders.map SystemReminder.key = reminders'.map SystemReminder.key :=
  h.map_eq ReminderOutline.key fun _ => rfl

/-- There are as many digests. -/
lemma blank_eq (h : SameOutlines reminders reminders') (digest digest' : SystemReminder → String) :
    (reminders.map digest).map (fun _ => "") = (reminders'.map digest').map fun _ => "" := by
  rw [List.map_map, List.map_map]
  exact h.map_eq (fun _ => "") fun _ => rfl

/-- Whether there is a reminder of a certain outline. -/
lemma any_eq (h : SameOutlines reminders reminders') (p : ReminderOutline → Bool) :
    (reminders.any fun r => p r.outline) = reminders'.any fun r => p r.outline := by
  have hany := congrArg (List.any · p) h
  simp only [List.any_map] at hany
  exact hany

/-- The reminders of certain outlines. -/
lemma filter (h : SameOutlines reminders reminders') (p : ReminderOutline → Bool) :
    SameOutlines (reminders.filter fun r => p r.outline)
      (reminders'.filter fun r => p r.outline) := by
  have hfilter := congrArg (List.filter p) h
  rw [List.filter_map, List.filter_map] at hfilter
  exact hfilter

end SameOutlines

/-- Checking the keys of reminders looks at nothing else. -/
lemma validateUniqueReminderKeys_congr {reminders reminders' : List SystemReminder}
    (h : reminders.map SystemReminder.key = reminders'.map SystemReminder.key)
    (seen : List NonEmptyString) :
    validateUniqueReminderKeys seen reminders = validateUniqueReminderKeys seen reminders' := by
  induction reminders generalizing reminders' seen with
  | nil =>
    cases reminders' with
    | nil => rfl
    | cons _ _ => cases h
  | cons r rs ih =>
    cases reminders' with
    | nil => cases h
    | cons r' rs' =>
      obtain ⟨hkey, hkeys⟩ := List.cons.inj h
      rw [validateUniqueReminderKeys, validateUniqueReminderKeys, hkey]
      cases r'.key with
      | none => exact ih hkeys seen
      | some key =>
        by_cases hmem : key ∈ seen
        · simp only [if_pos hmem]
        · simp only [if_neg hmem]
          exact ih hkeys (key :: seen)

/-- What `ModelRequest` accepts. -/
lemma ModelRequest.make_isOk (draft : PromptDraft) (reminders : List SystemReminder) :
    (make draft.history.messages draft.instructions reminders draft.tools draft.settings draft.cache
      draft.continuation draft.metadata draft.providerOptions).isOk = true ↔
      ¬ draft.Refused reminders ∧ Keyed.Unique SystemReminder.key reminders := by
  constructor
  · intro h
    cases hmake : make draft.history.messages draft.instructions reminders draft.tools
        draft.settings draft.cache draft.continuation draft.metadata draft.providerOptions with
    | error error =>
      rw [hmake] at h
      cases h
    | ok request =>
      obtain ⟨hmessages, hinstructions, hreminders, htools, hsettings, -⟩ := make_fields hmake
      rw [← hreminders]
      refine ⟨?_, request.reminder_keys⟩
      unfold PromptDraft.Refused
      rw [← hmessages, ← hinstructions, ← htools, ← hsettings]
      rintro (hempty | hnames | hkeys | ⟨hrequired, hnone⟩)
      · exact request.nonempty hempty
      · exact hnames request.tool_names
      · exact hkeys request.instruction_keys
      · exact request.required_tools hrequired hnone
  · rintro ⟨hrefused, hunique⟩
    rcases make_draft draft hunique with ⟨h, -⟩ | ⟨request, h⟩
    · exact absurd h hrefused
    · rw [h]
      rfl

section Compiler

variable {draft draft' : PromptDraft}

/-- Whether a draft is refused depends on nothing that differs. -/
lemma PromptDraft.Alike.refused_iff (h : draft.Alike draft')
    {reminders reminders' : List SystemReminder}
    (hkeys : reminders.map SystemReminder.key = reminders'.map SystemReminder.key) :
    draft.Refused reminders ↔ draft'.Refused reminders' := by
  have hnil {α β κ : Type} {f : α → κ} {g : β → κ} {xs : List α} {ys : List β}
      (hmap : xs.map f = ys.map g) : xs = [] ↔ ys = [] := by
    rw [← List.map_eq_nil_iff (f := f), hmap, List.map_eq_nil_iff]
  unfold Refused
  rw [← List.length_eq_zero_iff, h.history.messages, List.length_eq_zero_iff, hnil h.instructions,
    hnil hkeys, h.tools, Keyed.unique_congr h.instructions, h.toolChoice, hnil h.tools]

/-- `ModelRequest` accepts both drafts or refuses both. -/
lemma PromptDraft.Alike.make (h : draft.Alike draft') {reminders reminders' : List SystemReminder}
    (hkeys : reminders.map SystemReminder.key = reminders'.map SystemReminder.key) :
    Outcomes (fun _ _ => True) (fun _ _ => True)
      (ModelRequest.make draft.history.messages draft.instructions reminders draft.tools
        draft.settings draft.cache draft.continuation draft.metadata draft.providerOptions)
      (ModelRequest.make draft'.history.messages draft'.instructions reminders' draft'.tools
        draft'.settings draft'.cache draft'.continuation draft'.metadata
        draft'.providerOptions) := by
  refine Outcomes.of_isOk (Bool.eq_iff_iff.2 ?_)
  rw [ModelRequest.make_isOk, ModelRequest.make_isOk, h.refused_iff hkeys,
    Keyed.unique_congr hkeys]

/-- The entries have the same outlines. -/
def EntriesAlike (entries entries' : List ReminderEntry) : Prop :=
  entries.map (Prod.map SystemReminder.outline id) =
    entries'.map (Prod.map SystemReminder.outline id)

namespace EntriesAlike

variable {entries entries' : List ReminderEntry}

lemma reminders (h : EntriesAlike entries entries') :
    SameOutlines (entries.map Prod.fst) (entries'.map Prod.fst) := by
  have hfst := congrArg (List.map Prod.fst) h
  unfold SameOutlines
  rw [List.map_map, List.map_map] at hfst ⊢
  exact hfst

lemma scopes (h : EntriesAlike entries entries') :
    entries.map Prod.snd = entries'.map Prod.snd := by
  have hsnd := congrArg (List.map Prod.snd) h
  rw [List.map_map, List.map_map] at hsnd
  exact hsnd

/-- Sorting looks at priorities only. -/
lemma insertionSort (h : EntriesAlike entries entries') :
    EntriesAlike (entries.insertionSort ReminderEntry.precedes)
      (entries'.insertionSort ReminderEntry.precedes) := by
  have hsort (entries : List ReminderEntry) :
      (entries.insertionSort ReminderEntry.precedes).map (Prod.map SystemReminder.outline id) =
        (entries.map (Prod.map SystemReminder.outline id)).insertionSort
          fun a b => -a.1.priority ≤ -b.1.priority :=
    List.map_insertionSort _ _ _ _ fun _ _ _ _ => Iff.rfl
  unfold EntriesAlike at h ⊢
  rw [hsort, hsort, h]

end EntriesAlike

/-- The entries of a compilation. -/
lemma reminderEntries_alike {stored stored' turn turn' dynamic dynamic' : List SystemReminder}
    (hstored : SameOutlines stored stored') (hturn : SameOutlines turn turn')
    (hdynamic : SameOutlines dynamic dynamic') :
    EntriesAlike (reminderEntries stored turn dynamic)
      (reminderEntries stored' turn' dynamic') := by
  have hscoped {rs rs' : List SystemReminder} (h : SameOutlines rs rs') :
      rs.map (Prod.map SystemReminder.outline id ∘ fun r => (r, some r.scope)) =
        rs'.map (Prod.map SystemReminder.outline id ∘ fun r => (r, some r.scope)) :=
    h.map_eq (fun o => (o, some o.scope)) fun _ => rfl
  have hplain {rs rs' : List SystemReminder} (h : SameOutlines rs rs') :
      rs.map (Prod.map SystemReminder.outline id ∘ fun r => (r, none)) =
        rs'.map (Prod.map SystemReminder.outline (id : Option ReminderScope → _) ∘
          fun r => (r, none)) :=
    h.map_eq (fun o => (o, none)) fun _ => rfl
  unfold EntriesAlike reminderEntries
  simp only [List.map_append, List.map_map]
  rw [hscoped hstored, hscoped hturn, hplain hdynamic]

/-- **Compiling drafts that differ in texts only**: both are refused, or the diagnostics are the
same up to digests. -/
theorem PromptCompiler.compile_alike (compiler compiler' : PromptCompiler)
    (hdraft : draft.Alike draft')
    {stored stored' turn turn' dynamic dynamic' : List SystemReminder}
    (hstored : SameOutlines stored stored') (hturn : SameOutlines turn turn')
    (hdynamic : SameOutlines dynamic dynamic')
    (ids : List Attribute) (modelRound : ℕ) :
    Outcomes CompiledPrompt.Alike (fun _ _ => True)
      (compiler.compile draft stored turn dynamic ids modelRound)
      (compiler'.compile draft' stored' turn' dynamic' ids modelRound) := by
  have hentries := reminderEntries_alike hstored hturn hdynamic
  have hsorted := hentries.insertionSort
  have hvalid := validateUniqueReminderKeys_congr hentries.reminders.keys_eq []
  unfold compile
  by_cases hround : modelRound = 0
  · rw [if_pos hround, if_pos hround]
    trivial
  rw [if_neg hround, if_neg hround]
  change Outcomes _ _ (normalizeSourceIds ids >>= _) (normalizeSourceIds ids >>= _)
  refine Outcomes.bind_same (fun _ => trivial) (fun sourceIds => ?_) _
  simp only [hvalid]
  refine Outcomes.bind_same (fun _ => trivial) (fun _ => ?_) _
  refine (hdraft.make hsorted.reminders.keys_eq).bind ?_
  intro request request' _
  have hreminders := hsorted.reminders
  have hplacements := hreminders.map_eq (f := SystemReminder.placement) ReminderOutline.placement
    fun _ => rfl
  have hpriorities := hreminders.map_eq (f := SystemReminder.priority) ReminderOutline.priority
    fun _ => rfl
  have hhashes := hreminders.blank_eq (fun r => compiler.reminderHash r.content)
    fun r => compiler'.reminderHash r.content
  refine ⟨?_, ?_⟩
  · simp only [PromptDiagnostics.redacted]
    rw [hreminders.keys_eq, hsorted.scopes, hplacements, hpriorities, hhashes]
  · exact (hstored.append hturn).any_eq fun o => o.scope = .nextRequest

end Compiler

/-- The constructor looks at the number of messages only. -/
lemma PreparedContext.make_alike {messages messages' : List Message}
    (h : messages.length = messages'.length) (continuation continuation' : Option ModelContinuation)
    (boundaries : List ℕ) :
    Outcomes PreparedContext.Alike (fun _ _ => True) (make messages continuation boundaries)
      (make messages' continuation' boundaries) := by
  by_cases hvalid : Segments.Valid messages.length 0 boundaries
  · rw [make_eq_ok hvalid, make_eq_ok (h ▸ hvalid)]
    exact ⟨h, rfl⟩
  · have hrefused {messages : List Message} {continuation : Option ModelContinuation}
        (hvalid : ¬ Segments.Valid messages.length 0 boundaries) :
        ∃ error, make messages continuation boundaries = .error error := by
      cases hmake : make messages continuation boundaries with
      | error error => exact ⟨error, rfl⟩
      | ok context =>
        unfold make at hmake
        split at hmake
        · cases hmake
        · next hok => exact absurd (normalizeBoundaries_eq_ok.1 hok) hvalid
    obtain ⟨error, herror⟩ := @hrefused messages continuation hvalid
    obtain ⟨error', herror'⟩ := @hrefused messages' continuation' (h ▸ hvalid)
    rw [herror, herror']
    trivial

/-- The histories have lost their oldest complete turns, if they have any. -/
lemma dropOldestCompleteTurn_alike {history history' : PreparedContext}
    (h : history.Alike history') :
    Outcomes (Option.Rel PreparedContext.Alike) (fun _ _ => True) (dropOldestCompleteTurn history)
      (dropOldestCompleteTurn history') := by
  unfold dropOldestCompleteTurn
  rw [h.turnBoundaries]
  cases history'.turnBoundaries with
  | nil => exact .none
  | cons b bs =>
    have hlength : (history.messages.drop b).length = (history'.messages.drop b).length := by
      rw [List.length_drop, List.length_drop, h.messages]
    exact (PreparedContext.make_alike hlength _ _ _).bind fun _ _ hcontext => .some hcontext

end PurrceptCore
