import PurrceptCore.Lists.KeyedSlots
import PurrceptCore.Lists.StableSort
import PurrceptCore.Models.PromptCompiler

set_option relaxedAutoImplicit false
set_option autoImplicit false

/-!
# The order of compiled reminders

Which reminders `PromptCompiler.compile` refuses, and how the request and its diagnostics present
those that it accepts.

## Main definitions

* `PurrceptCore.PromptDraft.Refused` — the draft is one that `ModelRequest` refuses, whatever the
  keys of the reminders are.
* `PurrceptCore.CompiledPrompt.Presents` — the request has the reminders in order, and each entry
  of the diagnostics describes the reminder at its place.

## Main results

* `PurrceptCore.PromptCompiler.compile_presents` — a repeated key is refused by its name, and
  otherwise the reminders are presented by descending priority.

## Design

* The new order of the reminders is a list of their positions, so that equal reminders from the
  stored and the dynamic list are told apart.
-/

namespace PurrceptCore

open Keyed (RepeatsAt FirstRepeat)

/-- `ModelRequest` refuses the draft for a reason other than the keys of the reminders. -/
def PromptDraft.Refused (draft : PromptDraft) (reminders : List SystemReminder) : Prop :=
  (draft.history.messages = [] ∧ draft.instructions = [] ∧ reminders = []) ∨
    ¬ (draft.tools.map ToolSpec.name).Nodup ∨
    ¬ Keyed.Unique SystemInstruction.key draft.instructions ∨
    (draft.settings.toolChoice = .required ∧ draft.tools = [])

/-- The compiled prompt presents the reminders at the positions `positions`, in this order. -/
structure CompiledPrompt.Presents (compiled : CompiledPrompt) (compiler : PromptCompiler)
    (stored turn dynamic : List SystemReminder)
    (positions : List (Fin (stored ++ turn ++ dynamic).length)) : Prop where
  each_once : positions.Perm (List.finRange (stored ++ turn ++ dynamic).length)
  /-- By descending priority, and equal priorities in their original order. -/
  sorted : positions.Pairwise fun i j =>
    ((stored ++ turn ++ dynamic).get j).priority < ((stored ++ turn ++ dynamic).get i).priority ∨
      ((stored ++ turn ++ dynamic).get i).priority =
        ((stored ++ turn ++ dynamic).get j).priority ∧ i < j
  reminders : compiled.request.reminders = positions.map (stored ++ turn ++ dynamic).get
  keys : compiled.diagnostics.reminderKeys =
    compiled.request.reminders.map SystemReminder.key
  /-- No scope exactly for the positions of the dynamic list. -/
  scopes : compiled.diagnostics.reminderScopes =
    positions.map fun (i : Fin (stored ++ turn ++ dynamic).length) =>
      if i.val < stored.length + turn.length then
        some ((stored ++ turn ++ dynamic).get i).scope
      else none
  placements : compiled.diagnostics.reminderPlacements =
    compiled.request.reminders.map SystemReminder.placement
  priorities : compiled.diagnostics.reminderPriorities =
    compiled.request.reminders.map SystemReminder.priority
  hashes : compiled.diagnostics.contentHashes =
    compiled.request.reminders.map fun r => compiler.reminderHash r.content
  consumed : compiled.consumedNextRequest = true ↔
    ∃ r ∈ stored ++ turn, r.scope = .nextRequest

/-! ### Repeated keys -/

section Keys

variable {seen : List NonEmptyString} {reminders : List SystemReminder} {i : ℕ}
  {k : NonEmptyString}

/-- The check stops at the first position whose key has been seen or occurs before. -/
lemma validateUniqueReminderKeys_of_first
    (hk : Keyed.keyAt SystemReminder.key reminders i = some k)
    (hseen : k ∈ seen ∨ ∃ j < i, Keyed.keyAt SystemReminder.key reminders j = some k)
    (hfirst : ∀ i' < i, ∀ k', Keyed.keyAt SystemReminder.key reminders i' = some k' →
      k' ∉ seen ∧ ∀ j < i', Keyed.keyAt SystemReminder.key reminders j ≠ some k') :
    validateUniqueReminderKeys seen reminders = .error (keyClash k) := by
  induction reminders generalizing seen i with
  | nil => cases hk
  | cons r rs ih =>
    rw [validateUniqueReminderKeys]
    cases i with
    | zero =>
      have hkey : r.key = some k := hk
      have hmem : k ∈ seen := by
        rcases hseen with hmem | ⟨j, hj, -⟩
        · exact hmem
        · exact absurd hj (Nat.not_lt_zero j)
      simp only [hkey, if_pos hmem]
      rfl
    | succ i =>
      cases hr : r.key with
      | none =>
        refine ih hk ?_ fun i' hi' k' hk' => ?_
        · rcases hseen with hmem | ⟨j, hj, hjk⟩
          · exact .inl hmem
          · cases j with
            | zero => rw [Keyed.keyAt_cons_zero, hr] at hjk; cases hjk
            | succ j => exact .inr ⟨j, Nat.lt_of_succ_lt_succ hj, hjk⟩
        · obtain ⟨hnew, hbefore⟩ := hfirst (i' + 1) (Nat.succ_lt_succ hi') k' hk'
          exact ⟨hnew, fun j hj => hbefore (j + 1) (Nat.succ_lt_succ hj)⟩
      | some key =>
        have hnew : key ∉ seen := (hfirst 0 (Nat.succ_pos i) key hr).1
        simp only [if_neg hnew]
        refine ih hk ?_ fun i' hi' k' hk' => ?_
        · rcases hseen with hmem | ⟨j, hj, hjk⟩
          · exact .inl (List.mem_cons_of_mem key hmem)
          · cases j with
            | zero =>
              rw [Keyed.keyAt_cons_zero, hr] at hjk
              cases hjk
              exact .inl List.mem_cons_self
            | succ j => exact .inr ⟨j, Nat.lt_of_succ_lt_succ hj, hjk⟩
        · obtain ⟨hnew', hbefore⟩ := hfirst (i' + 1) (Nat.succ_lt_succ hi') k' hk'
          refine ⟨fun hmem => ?_, fun j hj => hbefore (j + 1) (Nat.succ_lt_succ hj)⟩
          rcases List.mem_cons.1 hmem with hkk | hmem
          · exact hbefore 0 (Nat.succ_pos i') (hkk ▸ hr)
          · exact hnew' hmem

/-- The check names the key of the first position that repeats one. -/
lemma validateUniqueReminderKeys_of_firstRepeat
    (h : FirstRepeat SystemReminder.key reminders i k) :
    validateUniqueReminderKeys [] reminders = .error (keyClash k) := by
  obtain ⟨⟨hk, hbefore⟩, hfirst⟩ := h
  refine validateUniqueReminderKeys_of_first hk (.inr hbefore) fun i' hi' k' hk' => ?_
  exact ⟨List.not_mem_nil, fun j hj hjk => hfirst i' hi' k' ⟨hk', j, hj, hjk⟩⟩

/-- Keys of which none is repeated pass. -/
lemma validateUniqueReminderKeys_of_not_repeatsAt
    (h : ∀ i k, ¬ RepeatsAt SystemReminder.key reminders i k) :
    validateUniqueReminderKeys [] reminders = .ok () := by
  have hunique := Keyed.unique_of_not_repeatsAt h
  obtain ⟨seen, hseen⟩ := @validateUniqueReminderKeys_append [] reminders [] hunique
    fun _ _ => List.not_mem_nil
  rw [List.append_nil] at hseen
  rw [hseen]
  rfl

end Keys

/-! ### The order -/

section Order

variable (stored turn dynamic : List SystemReminder)

/-- The order of the reminders: by descending priority. -/
def SystemReminder.Precedes (a b : SystemReminder) : Prop := -a.priority ≤ -b.priority

instance : DecidableRel SystemReminder.Precedes := fun a b =>
  inferInstanceAs (Decidable (-a.priority ≤ -b.priority))

instance : Std.Total SystemReminder.Precedes := ⟨fun a _ => Int.le_total (-a.priority) _⟩

instance : IsTrans SystemReminder SystemReminder.Precedes := ⟨fun _ _ _ => Int.le_trans⟩

/-- The entries of a compilation, by their positions. -/
lemma reminderEntries_eq :
    reminderEntries stored turn dynamic =
      (List.finRange (stored ++ turn ++ dynamic).length).map fun i =>
        ((stored ++ turn ++ dynamic).get i,
          if i.val < stored.length + turn.length then some ((stored ++ turn ++ dynamic).get i).scope
          else none) := by
  refine List.ext_getElem (by simp [reminderEntries]) fun n h _ => ?_
  simp only [reminderEntries, List.getElem_append, List.getElem_map, List.length_append,
    List.length_map, List.getElem_finRange, List.get_eq_getElem, Fin.val_cast]
  by_cases hn : n < stored.length
  · simp [hn, Nat.lt_add_right turn.length hn]
  · by_cases hn' : n < stored.length + turn.length <;> simp [hn, hn']

/-- The sorted entries, by the new order of the positions. -/
lemma insertionSort_reminderEntries :
    (reminderEntries stored turn dynamic).insertionSort ReminderEntry.precedes =
      (StableSort.order SystemReminder.Precedes (stored ++ turn ++ dynamic)).map fun i =>
        ((stored ++ turn ++ dynamic).get i,
          if i.val < stored.length + turn.length then some ((stored ++ turn ++ dynamic).get i).scope
          else none) := by
  rw [reminderEntries_eq]
  exact (List.map_insertionSort (StableSort.AtPositions SystemReminder.Precedes _)
    ReminderEntry.precedes _ _ fun i _ j _ => Iff.rfl).symm

/-- The reminders of the request, by the new order of the positions. -/
lemma map_fst_insertionSort_reminderEntries :
    ((reminderEntries stored turn dynamic).insertionSort ReminderEntry.precedes).map Prod.fst =
      (StableSort.order SystemReminder.Precedes (stored ++ turn ++ dynamic)).map
        (stored ++ turn ++ dynamic).get := by
  rw [insertionSort_reminderEntries, List.map_map]
  rfl

/-- The new order is by descending priority, ties by position. -/
lemma order_sorted :
    (StableSort.order SystemReminder.Precedes (stored ++ turn ++ dynamic)).Pairwise fun i j =>
      ((stored ++ turn ++ dynamic).get j).priority <
          ((stored ++ turn ++ dynamic).get i).priority ∨
        ((stored ++ turn ++ dynamic).get i).priority =
          ((stored ++ turn ++ dynamic).get j).priority ∧ i < j := by
  refine (StableSort.order_pairwise SystemReminder.Precedes _).imp fun {i j} h => ?_
  obtain ⟨hle, htie⟩ := h
  unfold StableSort.AtPositions SystemReminder.Precedes at hle htie
  rcases Int.lt_or_eq_of_le hle with hlt | heq
  · left
    omega
  · exact .inr ⟨by omega, htie (by omega)⟩

end Order

/-! ### Compilation -/

/-- `ModelRequest` accepts a draft with unique reminder keys unless it refuses it for another
reason. -/
lemma ModelRequest.make_draft (draft : PromptDraft) {reminders : List SystemReminder}
    (hunique : Keyed.Unique SystemReminder.key reminders) :
    (draft.Refused reminders ∧ ∃ text, ModelRequest.make draft.history.messages
        draft.instructions reminders draft.tools draft.settings draft.cache draft.continuation
        draft.metadata draft.providerOptions = .error (.valueError text)) ∨
      ∃ request, ModelRequest.make draft.history.messages draft.instructions reminders
        draft.tools draft.settings draft.cache draft.continuation draft.metadata
        draft.providerOptions = .ok request := by
  unfold ModelRequest.make
  by_cases hempty : draft.history.messages.isEmpty ∧ draft.instructions.isEmpty ∧
      reminders.isEmpty
  · rw [dif_pos hempty]
    refine .inl ⟨.inl ?_, _, rfl⟩
    simpa only [List.isEmpty_iff] using hempty
  rw [dif_neg hempty]
  by_cases htools : ¬ (draft.tools.map ToolSpec.name).Nodup
  · rw [dif_pos htools]
    exact .inl ⟨.inr (.inl htools), _, rfl⟩
  rw [dif_neg htools]
  by_cases hinstructions : ¬ Keyed.Unique SystemInstruction.key draft.instructions
  · rw [dif_pos hinstructions]
    exact .inl ⟨.inr (.inr (.inl hinstructions)), _, rfl⟩
  rw [dif_neg hinstructions, dif_neg (not_not.2 hunique)]
  by_cases hrequired : draft.settings.toolChoice = .required ∧ draft.tools.isEmpty
  · rw [dif_pos hrequired]
    refine .inl ⟨.inr (.inr (.inr ?_)), _, rfl⟩
    simpa only [List.isEmpty_iff] using hrequired
  · rw [dif_neg hrequired]
    exact .inr ⟨_, rfl⟩

/-- A draft is refused for the same reasons when its reminders are rearranged. -/
lemma PromptDraft.Refused.perm {draft : PromptDraft} {reminders reminders' : List SystemReminder}
    (h : draft.Refused reminders) (hperm : reminders.Perm reminders') :
    draft.Refused reminders' := by
  refine h.imp_left fun ⟨hmessages, hinstructions, hnil⟩ => ⟨hmessages, hinstructions, ?_⟩
  rw [hnil] at hperm
  exact hperm.nil_eq.symm

namespace PromptCompiler

variable {compiler : PromptCompiler} {draft : PromptDraft}
  {stored turn dynamic : List SystemReminder} {ids : List Attribute}
  {sourceIds : List NonEmptyString} {modelRound : ℕ}

/-- A repeated key ends a compilation. -/
lemma compile_of_firstRepeat (hround : 0 < modelRound)
    (hids : normalizeSourceIds ids = .ok sourceIds) {i : ℕ} {k : NonEmptyString}
    (h : FirstRepeat SystemReminder.key (stored ++ turn ++ dynamic) i k) :
    compiler.compile draft stored turn dynamic ids modelRound = .error (keyClash k) := by
  unfold compile
  have hfst : (reminderEntries stored turn dynamic).map Prod.fst = stored ++ turn ++ dynamic := by
    simp [reminderEntries, Function.comp_def]
  simp only [if_neg (Nat.ne_of_gt hround), hids, hfst, bind, Except.bind,
    validateUniqueReminderKeys_of_firstRepeat h]

/-- **What a compilation without a repeated key gives**: the draft is refused, or the reminders
are presented in order.

**Proof sketch.** The keys pass the check. Sorting rearranges the reminders, so that their keys
are unique in the request as well; what else `ModelRequest` may object to does not depend on their
order. The sorted entries are those at the sorted positions, and every list of the diagnostics is
read off from them. -/
lemma compile_of_not_repeatsAt (hround : 0 < modelRound)
    (hids : normalizeSourceIds ids = .ok sourceIds)
    (h : ∀ i k, ¬ RepeatsAt SystemReminder.key (stored ++ turn ++ dynamic) i k) :
    (draft.Refused (stored ++ turn ++ dynamic) ∧ ∃ text,
        compiler.compile draft stored turn dynamic ids modelRound =
          .error (.valueError text)) ∨
      ∃ compiled positions,
        compiler.compile draft stored turn dynamic ids modelRound = .ok compiled ∧
          compiled.Presents compiler stored turn dynamic positions := by
  have hfst : (reminderEntries stored turn dynamic).map Prod.fst = stored ++ turn ++ dynamic := by
    simp [reminderEntries, Function.comp_def]
  have hperm : (((reminderEntries stored turn dynamic).insertionSort
      ReminderEntry.precedes).map Prod.fst).Perm (stored ++ turn ++ dynamic) := by
    rw [← hfst]
    exact (List.perm_insertionSort _ _).map _
  have hunique : Keyed.Unique SystemReminder.key (((reminderEntries stored turn
      dynamic).insertionSort ReminderEntry.precedes).map Prod.fst) :=
    (hperm.filterMap SystemReminder.key).nodup_iff.2 (Keyed.unique_of_not_repeatsAt h)
  unfold compile
  simp only [if_neg (Nat.ne_of_gt hround), hids, hfst, bind, Except.bind,
    validateUniqueReminderKeys_of_not_repeatsAt h]
  rcases ModelRequest.make_draft draft hunique with ⟨hrefused, text, hmake⟩ | ⟨request, hmake⟩
  · exact .inl ⟨hrefused.perm hperm, text, by rw [hmake]⟩
  · have hreminders := (ModelRequest.make_fields hmake).2.2.1
    rw [hmake]
    refine .inr ⟨_, StableSort.order SystemReminder.Precedes _, rfl, ?_⟩
    constructor
    · exact StableSort.order_perm _ _
    · exact order_sorted stored turn dynamic
    · exact hreminders.trans (map_fst_insertionSort_reminderEntries stored turn dynamic)
    · exact congrArg (List.map SystemReminder.key) hreminders.symm
    · simp only [insertionSort_reminderEntries, List.map_map]
      rfl
    · exact congrArg (List.map SystemReminder.placement) hreminders.symm
    · exact congrArg (List.map SystemReminder.priority) hreminders.symm
    · exact congrArg (List.map fun r : SystemReminder => compiler.reminderHash r.content)
        hreminders.symm
    · simp only [List.any_eq_true, decide_eq_true_eq]

/-- **The order of compiled reminders**: a compilation names the first key that repeats an earlier
one; without such a key it presents the stored, turn and dynamic reminders by descending priority,
unless the draft itself is refused. -/
theorem compile_presents (compiler : PromptCompiler) (draft : PromptDraft)
    (stored turn dynamic : List SystemReminder) (hround : 0 < modelRound)
    (hids : normalizeSourceIds ids = .ok sourceIds) :
    ((∃ text key, compiler.compile draft stored turn dynamic ids modelRound =
        .error (.promptCompile text key)) ↔
      ∃ i k, RepeatsAt SystemReminder.key (stored ++ turn ++ dynamic) i k) ∧
    (∀ i k, FirstRepeat SystemReminder.key (stored ++ turn ++ dynamic) i k →
      compiler.compile draft stored turn dynamic ids modelRound =
        .error (.promptCompile ("Reminder key " ++ pyRepr k ++
          " appears more than once in the compiled prompt.") (some k))) ∧
    ((∀ i k, ¬ RepeatsAt SystemReminder.key (stored ++ turn ++ dynamic) i k) →
      (draft.Refused (stored ++ turn ++ dynamic) ∧ ∃ text,
        compiler.compile draft stored turn dynamic ids modelRound =
          .error (.valueError text)) ∨
      ∃ compiled positions,
        compiler.compile draft stored turn dynamic ids modelRound = .ok compiled ∧
          compiled.Presents compiler stored turn dynamic positions) := by
  refine ⟨⟨fun ⟨text, key, herror⟩ => ?_, fun ⟨i, k, hrepeat⟩ => ?_⟩,
    fun i k => compile_of_firstRepeat hround hids, compile_of_not_repeatsAt hround hids⟩
  · by_contra hnone
    simp only [not_exists] at hnone
    rcases @compile_of_not_repeatsAt compiler draft _ _ _ _ _ _ hround hids hnone with
      ⟨_, _, hcompile⟩ | ⟨_, _, hcompile, _⟩
    · rw [hcompile] at herror
      cases herror
    · rw [hcompile] at herror
      cases herror
  · obtain ⟨i, k, hfirst⟩ := Keyed.exists_firstRepeat hrepeat
    exact ⟨_, _, compile_of_firstRepeat hround hids hfirst⟩

/-- A reminder for one request needs no key. -/
lemma keyless_nextRequest (h : ReminderScope.nextRequest = .conversation) :
    (none : Option NonEmptyString) ≠ none := by
  cases h

/-- A reminder without a key, for one request. -/
def twin : SystemReminder :=
  ⟨[.text "Keep it short."], none, .nextRequest, .auto, 0, ContentBlock.text_ne_nil _,
    keyless_nextRequest⟩

/-- A draft without messages. -/
def bareDraft : PromptDraft :=
  ⟨⟨[], none, [], trivial⟩, [], [], ⟨.auto⟩, ⟨.auto, none, none, false⟩, none, [], []⟩

/-- Equal reminders, one stored and one dynamic: both are presented. -/
theorem compile_presents_twins : ∃ compiled positions,
    PromptCompiler.compile ⟨fun _ => "", fun _ => ""⟩ bareDraft [twin] [] [twin] [] 1 =
        .ok compiled ∧
      compiled.Presents ⟨fun _ => "", fun _ => ""⟩ [twin] [] [twin] positions := by
  have hids : normalizeSourceIds [] = .ok [] := rfl
  have hspec := compile_presents ⟨fun _ => "", fun _ => ""⟩ bareDraft [twin] [] [twin]
    Nat.one_pos hids
  have hkeys : ∀ i, Keyed.keyAt SystemReminder.key ([twin] ++ [] ++ [twin]) i = none
    | 0 => rfl
    | 1 => rfl
    | _ + 2 => rfl
  refine (hspec.2.2 fun i k hrepeat => ?_).resolve_left fun ⟨hrefused, _⟩ => ?_
  · rw [RepeatsAt, hkeys i] at hrepeat
    cases hrepeat.1
  · simp [PromptDraft.Refused, bareDraft, Keyed.Unique] at hrefused

end PromptCompiler

end PurrceptCore
