import PurrceptCore.Lists.Keyed
import PurrceptCore.Models.Messages

set_option relaxedAutoImplicit false
set_option autoImplicit false

/-!
# Reminders

Scoped prompt-control state (`reminders.py`).

## Main definitions

* `PurrceptCore.SystemReminder` — guidance with a lifetime, a placement and a priority.
* `PurrceptCore.ReminderState` — the stored reminders, at most one for each key; `upsert`,
  `remove` and `clear`.

## Main results

* `PurrceptCore.ReminderState.ofList_reminders` — constructing a state from the reminders of a
  state gives that state.
* `PurrceptCore.ReminderState.clear_reminders`, `remove_reminders` — what clearing a scope and
  removing a key leave, in the order in which it stood.
-/

namespace PurrceptCore

/-- `ReminderScope`. -/
inductive ReminderScope
  | nextRequest
  | turn
  | conversation
  deriving DecidableEq, Repr

/-- `ReminderScope(value)`: the member with that value. -/
def ReminderScope.ofValue? (value : String) : Option ReminderScope :=
  if value = "next_request" then some nextRequest
  else if value = "turn" then some turn
  else if value = "conversation" then some conversation
  else none

/-- `ReminderPlacement`. -/
inductive ReminderPlacement
  | auto
  | instructions
  | tail
  deriving DecidableEq, Repr

/-- `SystemReminder`. -/
structure SystemReminder where
  content : List ContentBlock
  key : Option NonEmptyString
  scope : ReminderScope
  placement : ReminderPlacement
  priority : ℤ
  content_ne : content ≠ []
  /-- Conversation-scoped reminders have a key. -/
  keyed : scope = .conversation → key ≠ none

/-- `ReminderState`. -/
structure ReminderState where
  reminders : List SystemReminder
  unique : Keyed.Unique SystemReminder.key reminders

namespace ReminderState

@[ext] lemma ext {s t : ReminderState} (h : s.reminders = t.reminders) : s = t := by
  obtain ⟨_, _⟩ := s
  cases h
  rfl

/-- `_upsert`. -/
def upsertReminder (reminders : List SystemReminder) (reminder : SystemReminder) :
    List SystemReminder :=
  Keyed.upsert SystemReminder.key reminders reminder

/-- `ReminderState(reminders)`: a later reminder takes the place of an earlier one with the same
key. -/
def ofList (reminders : List SystemReminder) : ReminderState :=
  ⟨Keyed.ofList SystemReminder.key reminders, Keyed.unique_ofList reminders⟩

/-- `ReminderState()`. -/
def empty : ReminderState := ofList []

/-- `upsert`. -/
def upsert (s : ReminderState) (reminder : SystemReminder) : ReminderState :=
  ofList (upsertReminder s.reminders reminder)

/-- `remove`: the state without the reminder of that key, and whether there was one. -/
def remove (s : ReminderState) (key : String) : Except Failure (ReminderState × Bool) :=
  if key = "" then
    .error (.valueError "key must not be empty.")
  else
    let retained := s.reminders.filter fun r => decide (r.key.map Subtype.val ≠ some key)
    .ok (ofList retained, decide (retained.length ≠ s.reminders.length))

/-- What `clear` with a scope keeps. -/
def without (scope : ReminderScope) (reminders : List SystemReminder) : List SystemReminder :=
  reminders.filter fun r => decide (r.scope ≠ scope)

/-- `clear` with a member of `ReminderScope`. -/
def clearScope (s : ReminderState) (scope : ReminderScope) : ReminderState :=
  ofList (without scope s.reminders)

/-- `clear`. -/
def clear (s : ReminderState) (scope : Option String) : Except Failure ReminderState :=
  match scope with
  | none => .ok empty
  | some value =>
    match ReminderScope.ofValue? value with
    | none => .error (.valueError ("Unsupported reminder scope: " ++ pyRepr value ++ "."))
    | some scope => .ok (s.clearScope scope)

/-! ### What the methods leave -/

/-- Constructing a state from reminders with unique keys keeps them as they are. -/
lemma reminders_ofList {reminders : List SystemReminder}
    (h : Keyed.Unique SystemReminder.key reminders) : (ofList reminders).reminders = reminders :=
  Keyed.ofList_eq_self h

/-- Constructing a state from the reminders of a state gives that state. -/
@[simp] theorem ofList_reminders (s : ReminderState) : ofList s.reminders = s :=
  ext (reminders_ofList s.unique)

/-- Constructing a state from some reminders of a state, in their order, keeps them. -/
lemma reminders_ofList_filter (s : ReminderState) (p : SystemReminder → Bool) :
    (ofList (s.reminders.filter p)).reminders = s.reminders.filter p :=
  reminders_ofList (s.unique.sublist List.filter_sublist)

@[simp] lemma reminders_empty : empty.reminders = [] := rfl

/-- What is left when a scope is cleared. -/
@[simp] theorem clearScope_reminders (s : ReminderState) (scope : ReminderScope) :
    (s.clearScope scope).reminders = without scope s.reminders :=
  reminders_ofList_filter s _

/-- What is stored after an upsert. -/
theorem upsert_reminders (s : ReminderState) (reminder : SystemReminder) :
    (s.upsert reminder).reminders = upsertReminder s.reminders reminder :=
  reminders_ofList (Keyed.unique_upsert s.unique reminder)

/-- What is left when a key is removed. -/
theorem remove_reminders {s t : ReminderState} {key : String} {found : Bool}
    (h : s.remove key = .ok (t, found)) :
    t.reminders = s.reminders.filter fun r => decide (r.key.map Subtype.val ≠ some key) := by
  unfold remove at h
  split at h
  · cases h
  · cases h
    exact reminders_ofList_filter s _

/-- A reminder of another scope is not cleared. -/
@[simp] lemma mem_without {scope : ReminderScope} {reminders : List SystemReminder}
    {r : SystemReminder} : r ∈ without scope reminders ↔ r ∈ reminders ∧ r.scope ≠ scope := by
  simp [without]

lemma without_sublist (scope : ReminderScope) (reminders : List SystemReminder) :
    (without scope reminders).Sublist reminders :=
  List.filter_sublist

end ReminderState

end PurrceptCore
