import Mathlib.Data.List.Sort
import PurrceptCore.Lists.Fallible
import PurrceptCore.Models.ContextPolicy

set_option relaxedAutoImplicit false
set_option autoImplicit false

/-!
# The prompt compiler

`PromptCompiler.compile` (`prompt/compiler.py`): one request from a draft and the reminders that
apply to it.

## Main definitions

* `PurrceptCore.PromptDraft`, `PurrceptCore.PromptDiagnostics`, `PurrceptCore.CompiledPrompt` —
  its input and output.
* `PurrceptCore.PromptCompiler` — the compiler, with the two digests it takes of its input.
* `PurrceptCore.PromptCompiler.compile` — merge, check, sort and build.

## Main results

* `PurrceptCore.PromptCompiler.compile_messages`, `compile_reminders`, `compile_consumed` — what
  a compiled request is made of.

## Design

* The digests `sha256(repr(…))` are functions given to the compiler, and total: the limit of the
  interpreter on the digits of an `int` that is written out is left out.
* `list.sort` is insertion sort, which is stable as well.
-/

namespace PurrceptCore

open Fallible

/-- `PromptDraft`. -/
structure PromptDraft where
  history : PreparedContext
  instructions : List SystemInstruction
  tools : List ToolSpec
  settings : ModelSettings
  cache : PromptCachePolicy
  continuation : Option ModelContinuation
  metadata : JsonObject
  providerOptions : JsonObject

/-- `PromptDiagnostics`. -/
structure PromptDiagnostics where
  modelRound : ℕ
  reminderKeys : List (Option NonEmptyString)
  reminderScopes : List (Option ReminderScope)
  reminderPlacements : List ReminderPlacement
  reminderPriorities : List ℤ
  contentHashes : List String
  promptFingerprint : String
  dynamicSourceIds : List NonEmptyString
  estimatedTokens : Option ℕ
  trimmedTurns : ℕ

/-- `CompiledPrompt`. -/
structure CompiledPrompt where
  request : ModelRequest
  diagnostics : PromptDiagnostics
  consumedNextRequest : Bool

/-- `PromptCompiler`, with the digests it takes. -/
structure PromptCompiler where
  /-- `_reminder_hash`, of the content of a reminder. -/
  reminderHash : List ContentBlock → String
  /-- `_request_hash`. -/
  requestHash : ModelRequest → String

/-- The strings among the source ids. -/
def stringsOf : List Attribute → Except Failure (List String)
  | [] => .ok []
  | .other :: _ => .error (.typeError "dynamic_source_ids must contain only strings.")
  | .str value :: ids => do .ok (value :: (← stringsOf ids))

/-- The non-empty strings among strings. -/
def nonEmptyOf : List String → Except Failure (List NonEmptyString)
  | [] => .ok []
  | value :: ids =>
    if h : value = "" then
      .error (.valueError "dynamic_source_ids must not contain empty strings.")
    else do .ok (⟨value, h⟩ :: (← nonEmptyOf ids))

/-- `_normalize_source_ids`. -/
def normalizeSourceIds (ids : List Attribute) : Except Failure (List NonEmptyString) := do
  let ids ← nonEmptyOf (← stringsOf ids)
  if ids.Nodup then .ok ids
  else .error (.valueError "dynamic_source_ids must be unique.")

/-- `_validate_unique_reminder_keys`, with the keys `seen` so far. -/
def validateUniqueReminderKeys : List NonEmptyString → List SystemReminder → Except Failure Unit
  | _, [] => .ok ()
  | seen, reminder :: reminders =>
    match reminder.key with
    | none => validateUniqueReminderKeys seen reminders
    | some key =>
      if key ∈ seen then
        .error (.promptCompile ("Reminder key " ++ pyRepr key ++
          " appears more than once in the compiled prompt.") (some key))
      else
        validateUniqueReminderKeys (key :: seen) reminders

/-- The error of a key that appears twice. -/
def keyClash (key : NonEmptyString) : Failure :=
  .promptCompile ("Reminder key " ++ pyRepr key ++
    " appears more than once in the compiled prompt.") (some key)

/-- Keys that are unique and new pass. -/
lemma validateUniqueReminderKeys_append {seen : List NonEmptyString}
    {reminders reminders' : List SystemReminder}
    (hunique : Keyed.Unique SystemReminder.key reminders)
    (hnew : ∀ key ∈ reminders.filterMap SystemReminder.key, key ∉ seen) :
    ∃ seen', validateUniqueReminderKeys seen (reminders ++ reminders') =
      validateUniqueReminderKeys seen' reminders' := by
  induction reminders generalizing seen with
  | nil => exact ⟨seen, rfl⟩
  | cons r rs ih =>
    cases hkey : r.key with
    | none =>
      rw [Keyed.Unique, List.filterMap_cons_none hkey] at hunique
      rw [List.filterMap_cons_none hkey] at hnew
      obtain ⟨seen', h⟩ := ih hunique hnew
      refine ⟨seen', ?_⟩
      rw [List.cons_append, validateUniqueReminderKeys]
      simp only [hkey]
      exact h
    | some key =>
      rw [Keyed.Unique, List.filterMap_cons_some hkey, List.nodup_cons] at hunique
      rw [List.filterMap_cons_some hkey, List.forall_mem_cons] at hnew
      have hnew' : ∀ k ∈ rs.filterMap SystemReminder.key, k ∉ key :: seen := by
        intro k hk hmem
        rcases List.mem_cons.1 hmem with rfl | hmem
        · exact hunique.1 hk
        · exact hnew.2 k hk hmem
      obtain ⟨seen', h⟩ := ih hunique.2 hnew'
      refine ⟨seen', ?_⟩
      rw [List.cons_append, validateUniqueReminderKeys]
      simp only [hkey, if_neg hnew.1]
      exact h

/-- A reminder with the scope that diagnostics record for it. -/
abbrev ReminderEntry : Type := SystemReminder × Option ReminderScope

/-- The order of the entries: by descending priority. -/
def ReminderEntry.precedes (a b : ReminderEntry) : Prop := -a.1.priority ≤ -b.1.priority

instance : DecidableRel ReminderEntry.precedes := fun a b =>
  inferInstanceAs (Decidable (-a.1.priority ≤ -b.1.priority))

/-- The entries of a compilation, before sorting. -/
def reminderEntries (stored turn dynamic : List SystemReminder) : List ReminderEntry :=
  stored.map (fun r => (r, some r.scope)) ++ turn.map (fun r => (r, some r.scope)) ++
    dynamic.map fun r => (r, none)

namespace PromptCompiler

/-- `PromptCompiler.compile`. -/
def compile (compiler : PromptCompiler) (draft : PromptDraft)
    (stored turn dynamic : List SystemReminder) (dynamicSourceIds : List Attribute)
    (modelRound : ℕ) : Except Failure CompiledPrompt := do
  if modelRound = 0 then
    .error (.valueError "model_round must be greater than zero.")
  let sourceIds ← normalizeSourceIds dynamicSourceIds
  let entries := reminderEntries stored turn dynamic
  validateUniqueReminderKeys [] (entries.map Prod.fst)
  let sorted := entries.insertionSort ReminderEntry.precedes
  let reminders := sorted.map Prod.fst
  let request ← ModelRequest.make draft.history.messages draft.instructions reminders
    draft.tools draft.settings draft.cache draft.continuation draft.metadata
    draft.providerOptions
  .ok {
    request
    diagnostics := {
      modelRound
      reminderKeys := reminders.map SystemReminder.key
      reminderScopes := sorted.map Prod.snd
      reminderPlacements := reminders.map SystemReminder.placement
      reminderPriorities := reminders.map SystemReminder.priority
      contentHashes := reminders.map fun r => compiler.reminderHash r.content
      promptFingerprint := compiler.requestHash request
      dynamicSourceIds := sourceIds
      estimatedTokens := none
      trimmedTurns := 0 }
    consumedNextRequest := (stored ++ turn).any fun r => r.scope = .nextRequest }

variable {compiler : PromptCompiler} {draft : PromptDraft}
  {stored turn dynamic : List SystemReminder} {ids : List Attribute} {modelRound : ℕ}
  {compiled : CompiledPrompt}

/-- What a compilation that succeeds has built. -/
lemma compile_inv (h : compiler.compile draft stored turn dynamic ids modelRound = .ok compiled) :
    ModelRequest.make draft.history.messages draft.instructions
        (((reminderEntries stored turn dynamic).insertionSort
          ReminderEntry.precedes).map Prod.fst)
        draft.tools draft.settings draft.cache draft.continuation draft.metadata
        draft.providerOptions = .ok compiled.request ∧
      compiled.consumedNextRequest =
        ((stored ++ turn).any fun r => r.scope = .nextRequest) ∧
      compiled.diagnostics.contentHashes = ((reminderEntries stored turn dynamic).insertionSort
        ReminderEntry.precedes).map (fun entry => compiler.reminderHash entry.1.content) ∧
      compiled.diagnostics.promptFingerprint = compiler.requestHash compiled.request := by
  unfold compile at h
  by_cases hround : modelRound = 0
  · rw [if_pos hround] at h
    cases h
  rw [if_neg hround] at h
  obtain ⟨sourceIds, -, h⟩ := bind_eq_ok.1 h
  obtain ⟨-, -, h⟩ := bind_eq_ok.1 h
  obtain ⟨request, hrequest, h⟩ := bind_eq_ok.1 h
  cases h
  exact ⟨hrequest, rfl, List.map_map, rfl⟩

/-- The messages of the request are those of the draft. -/
theorem compile_messages
    (h : compiler.compile draft stored turn dynamic ids modelRound = .ok compiled) :
    compiled.request.messages = draft.history.messages :=
  (ModelRequest.make_fields (compile_inv h).1).1

/-- The reminders of the request are the stored, turn and dynamic reminders. -/
theorem compile_reminders
    (h : compiler.compile draft stored turn dynamic ids modelRound = .ok compiled) :
    compiled.request.reminders.Perm (stored ++ turn ++ dynamic) := by
  rw [(ModelRequest.make_fields (compile_inv h).1).2.2.1]
  have hfst : (reminderEntries stored turn dynamic).map Prod.fst =
      stored ++ turn ++ dynamic := by
    simp [reminderEntries, Function.comp_def]
  rw [← hfst]
  exact (List.perm_insertionSort _ _).map _

/-- Whether a request consumes next-request reminders. -/
theorem compile_consumed
    (h : compiler.compile draft stored turn dynamic ids modelRound = .ok compiled) :
    compiled.consumedNextRequest = (stored ++ turn).any fun r => r.scope = .nextRequest :=
  (compile_inv h).2.1

end PromptCompiler

end PurrceptCore
