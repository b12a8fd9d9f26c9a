import PurrceptCore.Models.Acceptance

set_option relaxedAutoImplicit false
set_option autoImplicit false

/-!
# Stored reminders

What the operations of the application do to the stored reminders, what a request shows of them, and
what a turn leaves when it ends, in terms of how often a reminder is stored.

## Main definitions

* `PurrceptCore.copies` — how often a reminder stands in a list.
* `PurrceptCore.SameOrder` — reminders that stay keep their order.
* `PurrceptCore.IdleOp.Spares` — an operation neither stores a reminder nor ends its life.

## Main results

* `PurrceptCore.IdleOp.apply_sameOrder`, `PurrceptCore.IdleOp.Spares.copies_eq` — operations.
* `PurrceptCore.Conversation.Accepts.copies_eq` — an accepted request.
* `PurrceptCore.copies_remaining`, `PurrceptCore.Turning.sublist` — a turn that has ended.
-/

namespace PurrceptCore

open Fallible Interaction

open Classical in
/-- How often a reminder stands in a list. -/
noncomputable def copies (r : SystemReminder) (reminders : List SystemReminder) : ℕ :=
  reminders.countP fun x => decide (x = r)

open Classical in
/-- The reminders of `before` that are among those of `after` stand there in the same order. -/
def SameOrder (before after : List SystemReminder) : Prop :=
  (before.filter fun r => decide (r ∈ after)).Sublist after

@[simp] lemma copies_append (r : SystemReminder) (xs ys : List SystemReminder) :
    copies r (xs ++ ys) = copies r xs + copies r ys :=
  List.countP_append

lemma copies_perm {r : SystemReminder} {xs ys : List SystemReminder} (h : xs.Perm ys) :
    copies r xs = copies r ys :=
  h.countP_eq _

/-- What is left of a reminder when some are dropped. -/
lemma copies_filter (r : SystemReminder) (p : SystemReminder → Bool) (xs : List SystemReminder) :
    copies r (xs.filter p) = if p r then copies r xs else 0 := by
  unfold copies
  rw [List.countP_filter]
  split
  · next h =>
    refine List.countP_congr fun x _ => ?_
    simp only [Bool.and_eq_true, decide_eq_true_eq, and_iff_left_iff_imp]
    rintro rfl
    exact h
  · next h =>
    refine List.countP_eq_zero.2 fun x _ hx => ?_
    simp only [Bool.and_eq_true, decide_eq_true_eq] at hx
    exact h (hx.1 ▸ hx.2)

/-- What is left of a reminder when a scope is dropped. -/
lemma copies_without (r : SystemReminder) (scope : ReminderScope) (xs : List SystemReminder) :
    copies r (ReminderState.without scope xs) = if r.scope = scope then 0 else copies r xs := by
  rw [ReminderState.without, copies_filter]
  by_cases h : r.scope = scope <;> simp [h]

/-- Reminders of which some are dropped stay in their order. -/
lemma SameOrder.of_filter (p : SystemReminder → Bool) (xs : List SystemReminder) :
    SameOrder xs (xs.filter p) := by
  unfold SameOrder
  rw [List.filter_congr (q := p) fun x hx => ?_]
  simp [List.mem_filter, hx]

lemma SameOrder.refl (xs : List SystemReminder) : SameOrder xs xs :=
  List.filter_sublist

/-! ### Operations -/

/-- An operation neither stores the reminder nor ends its life: it does not replace it by its key,
remove it, clear it, or restore other reminders. -/
def IdleOp.Spares (r : SystemReminder) : IdleOp → Prop
  | restore _ | reset => False
  | restoreHistory _ | clearHistory => True
  | clearReminders scope =>
    ∃ value, scope = some value ∧ ReminderScope.ofValue? value ≠ some r.scope
  | remind input => ∀ x, input.normalize = .ok x → x ≠ r ∧ (x.key = none ∨ x.key ≠ r.key)
  | removeReminder key => r.key.map Subtype.val ≠ some key

/-- What an operation does to the stored reminders. -/
lemma IdleOp.apply_reminders {op : IdleOp} {facade facade' : Facade}
    (h : op.apply facade = .ok facade') :
    facade'.reminderState = facade.reminderState ∨
      (∃ p, facade'.reminderState.reminders = facade.reminderState.reminders.filter p ∧
        ∀ r, op.Spares r → p r = true) ∨
      (∃ input x, op = .remind input ∧ input.normalize = .ok x ∧
        facade'.reminderState = facade.reminderState.upsert x) ∨
      ∃ checkpoint, op = .restore (some checkpoint) := by
  cases op with
  | restore checkpoint =>
    cases checkpoint with
    | none => cases h
    | some checkpoint => exact .inr (.inr (.inr ⟨checkpoint, rfl⟩))
  | restoreHistory state => cases state <;> cases h; exact .inl rfl
  | clearHistory => cases h; exact .inl rfl
  | clearReminders scope =>
    cases scope with
    | none =>
      cases h
      refine .inr (.inl ⟨fun _ => false, (List.filter_false _).symm, ?_⟩)
      rintro r ⟨value, hvalue, -⟩
      cases hvalue
    | some value =>
      simp only [IdleOp.apply, bind, Except.bind, ReminderState.clear] at h
      cases hscope : ReminderScope.ofValue? value with
      | none => simp only [hscope] at h; cases h
      | some scope =>
        simp only [hscope] at h
        cases h
        refine .inr (.inl ⟨_, facade.reminderState.clearScope_reminders scope, ?_⟩)
        rintro r ⟨value', hvalue, hne⟩
        cases hvalue
        rw [hscope] at hne
        exact decide_eq_true fun heq => hne (congrArg some heq.symm)
  | reset =>
    cases h
    exact .inr (.inl ⟨fun _ => false, (List.filter_false _).symm, fun r hr => hr.elim⟩)
  | remind input =>
    obtain ⟨x, hinput, h⟩ := bind_eq_ok.1 h
    cases h
    exact .inr (.inr (.inl ⟨input, x, rfl, hinput, rfl⟩))
  | removeReminder key =>
    obtain ⟨removed, hremove, h⟩ := bind_eq_ok.1 h
    cases h
    exact .inr (.inl ⟨_, ReminderState.remove_reminders hremove, fun r hr => decide_eq_true hr⟩)

/-- **Operations keep the order** of the reminders that stay stored, unless they restore others. -/
theorem IdleOp.apply_sameOrder {op : IdleOp} {facade facade' : Facade}
    (h : op.apply facade = .ok facade') (hop : ∀ checkpoint, op ≠ .restore checkpoint) :
    SameOrder facade.reminderState.reminders facade'.reminderState.reminders := by
  rcases IdleOp.apply_reminders h with hsame | ⟨p, hfilter, -⟩ | ⟨input, x, -, -, hupsert⟩ |
    ⟨checkpoint, hrestore⟩
  · rw [hsame]
    exact .refl _
  · rw [hfilter]
    exact .of_filter p _
  · rw [hupsert, ReminderState.upsert_reminders]
    refine Keyed.sublist_upsert facade.reminderState.unique fun y _ hy => ?_
    have hmem : y ∈ ReminderState.upsertReminder facade.reminderState.reminders x := by
      simpa using hy
    exact hmem
  · exact absurd hrestore (hop _)

/-- Storing another reminder, under another key. -/
lemma copies_upsert {r x : SystemReminder} (hne : x ≠ r) (hkey : x.key = none ∨ x.key ≠ r.key)
    (xs : List SystemReminder) : copies r (ReminderState.upsertReminder xs x) = copies r xs := by
  have hx : copies r [x] = 0 := by
    simp [copies, hne]
  unfold ReminderState.upsertReminder
  cases hk : x.key with
  | none => rw [Keyed.upsert_of_none hk, copies_append, hx, Nat.add_zero]
  | some k =>
    have hupsert : Keyed.upsert SystemReminder.key xs x =
        Keyed.replaceFirst SystemReminder.key k x xs := by
      simp only [Keyed.upsert, hk]
    have hrk : r.key ≠ some k := by
      rcases hkey with h | h
      · rw [hk] at h; cases h
      · exact fun heq => h (hk.trans heq.symm)
    rw [hupsert]
    clear hupsert
    induction xs with
    | nil => exact hx
    | cons y ys ih =>
      have hcons (z : SystemReminder) (zs : List SystemReminder) :
          copies r (z :: zs) = copies r [z] + copies r zs := copies_append r [z] zs
      rw [Keyed.replaceFirst]
      split
      · next hy =>
        have hyr : y ≠ r := fun heq => hrk (heq ▸ hy)
        rw [hcons, hx, hcons y]
        simp [copies, hyr]
      · rw [hcons, ih, hcons y ys]

/-- **An operation that spares a reminder** leaves it stored. -/
theorem IdleOp.Spares.copies_eq {op : IdleOp} {r : SystemReminder} {facade facade' : Facade}
    (hr : op.Spares r) (h : op.apply facade = .ok facade') :
    copies r facade'.reminderState.reminders = copies r facade.reminderState.reminders := by
  rcases IdleOp.apply_reminders h with hsame | ⟨p, hfilter, hp⟩ | ⟨input, x, rfl, hinput, hupsert⟩ |
    ⟨checkpoint, rfl⟩
  · rw [hsame]
  · rw [hfilter, copies_filter, if_pos (hp r hr)]
  · rw [hupsert, ReminderState.upsert_reminders]
    exact copies_upsert (hr x hinput).1 (hr x hinput).2 _
  · exact hr.elim

/-! ### Turns -/

section Turn

variable {c : Conversation} {facade : Facade} {a : Ask}

/-- A request was handed to the model among the calls of a turn. -/
def Requested (calls : TurnTrace) : Prop := calls.any isGenerate = true

instance (calls : TurnTrace) : Decidable (Requested calls) :=
  inferInstanceAs (Decidable (_ = true))

/-- When a turn begins, all stored reminders are active. -/
lemma activeReminders_acquired (c : Conversation) (state : ReminderState) :
    (c.session state).activeReminders (state.clearScope .turn) = state.reminders := by
  refine List.filter_eq_self.2 fun r hr => ?_
  by_cases hscope : r.scope = .nextRequest
  · rw [Bool.or_eq_true]
    refine .inr (List.any_eq_true.2 ⟨r, ?_, decide_eq_true hscope⟩)
    rw [ReminderState.clearScope_reminders, ReminderState.mem_without, hscope]
    exact ⟨hr, nofun⟩
  · rw [Bool.or_eq_true]
    exact .inl (decide_eq_true hscope)

/-- What a turn has left after its first request: whether there were next-request reminders or
not, there are none. -/
lemma consume_acquired (c : Conversation) (state : ReminderState) :
    (c.session state).consume (state.clearScope .turn) =
      (state.clearScope .turn).clearScope .nextRequest := by
  unfold TurnPromptSession.consume
  rw [activeReminders_acquired]
  split
  · rfl
  · next hnone =>
    refine ReminderState.ext ?_
    rw [ReminderState.clearScope_reminders _ .nextRequest]
    refine (List.filter_eq_self.2 fun r hr => ?_).symm
    rw [ReminderState.clearScope_reminders, ReminderState.mem_without] at hr
    refine decide_eq_true fun hscope => hnone (List.any_eq_true.2 ⟨r, hr.1, ?_⟩)
    exact decide_eq_true hscope

lemma turnInput_remaining (calls : TurnTrace) :
    (c.turnInput facade a).remaining calls =
      if Requested calls then
        (facade.reminderState.clearScope .turn).clearScope .nextRequest
      else facade.reminderState.clearScope .turn := by
  rw [← consume_acquired c]
  rfl

/-- How often a request shows a reminder, other than through sources: as often as it was stored when
the turn began, unless it is a next-request reminder and not the first request. -/
lemma copies_active (r : SystemReminder) (calls : TurnTrace) :
    copies r ((c.turnInput facade a).session.activeReminders
        ((c.turnInput facade a).remaining calls)) =
      if r.scope = .nextRequest ∧ Requested calls then 0
      else copies r facade.reminderState.reminders := by
  change copies r ((c.session facade.reminderState).activeReminders _) = _
  rw [turnInput_remaining]
  by_cases hcalls : Requested calls
  · rw [if_pos hcalls, TurnPromptSession.activeReminders_clearScope, copies_without]
    simp only [hcalls, and_true]
    rfl
  · rw [if_neg hcalls, activeReminders_acquired, if_neg fun h => hcalls h.2]

/-- How often a turn leaves a reminder stored. -/
lemma copies_remaining (r : SystemReminder) (calls : TurnTrace) :
    copies r ((c.turnInput facade a).remaining calls).reminders =
      if r.scope = .turn ∨ r.scope = .nextRequest ∧ Requested calls then 0
      else copies r facade.reminderState.reminders := by
  rw [turnInput_remaining]
  by_cases hcalls : Requested calls
  · rw [if_pos hcalls, ReminderState.clearScope_reminders, ReminderState.clearScope_reminders,
      copies_without, copies_without]
    by_cases hnext : r.scope = .nextRequest <;> simp [hnext, hcalls]
  · rw [if_neg hcalls, ReminderState.clearScope_reminders, copies_without]
    simp [hcalls]

/-- What the sources have resolved for an accepted request: the last list of each of them. -/
def Conversation.dynamic (c : Conversation) (x : Acceptance) : List SystemReminder :=
  ((resolutions x.calls).rtake c.reminderSources.length).flatten

/-- **An accepted request** shows a reminder as often as it is still active, and as often as the
sources have resolved it. -/
theorem Conversation.Accepts.copies_eq {x : Acceptance} (h : c.Accepts facade a x)
    (r : SystemReminder) :
    copies r x.request.reminders =
      (if r.scope = .nextRequest ∧ Requested x.calls then 0
        else copies r facade.reminderState.reminders) + copies r (c.dynamic x) := by
  rw [copies_perm h.isRequest.reminders, copies_append, copies_active]
  rfl

/-- **A turn that has ended** leaves some of the reminders that were stored, in their order. -/
theorem Turning.sublist {tr : FlowTrace} {o : Except Failure ModelTurnResult}
    {remaining : ReminderState} (h : Turning c facade a tr (.ret (o, remaining))) :
    remaining.reminders.Sublist facade.reminderState.reminders := by
  obtain rfl := h.remaining_eq
  rw [turnInput_remaining]
  split
  · rw [ReminderState.clearScope_reminders, ReminderState.clearScope_reminders]
    exact (ReminderState.without_sublist _ _).trans (ReminderState.without_sublist _ _)
  · rw [ReminderState.clearScope_reminders]
    exact ReminderState.without_sublist _ _

end Turn

end PurrceptCore
