import PurrceptCore.Lists.KeyedSlots
import PurrceptCore.Models.Construction

set_option relaxedAutoImplicit false
set_option autoImplicit false

/-!
# The slots of stored reminders

What any sequence of operations makes of a `ReminderState` (`reminders.py`), and what becomes of
it when a conversation is snapshotted, restored or forked (`conversation.py`).

## Main definitions

* `PurrceptCore.ReminderOp`, `PurrceptCore.ReminderOp.runAll` — the operations, and any sequence
  of them.
* `PurrceptCore.Facade.snapshot` — `snapshot`.
* `PurrceptCore.ReminderState.KeepsSlots` — the rules of the slots.

## Main results

* `PurrceptCore.ReminderState.keepsSlots` — the operations follow the rules.
-/

namespace PurrceptCore

open Interaction

/-! ### Checkpoints -/

/-- `snapshot`. -/
def Facade.snapshot (facade : Facade) : Except Failure ConversationCheckpoint :=
  if facade.busy then .error .conversationBusy else .ok ⟨facade.state, facade.reminderState⟩

/-! ### Sequences of operations -/

/-- The operations on a `ReminderState`. -/
inductive ReminderOp
  | construct (reminders : List SystemReminder)
  | upsert (reminder : SystemReminder)
  | remove (key : String)
  | clear (scope : Option String)

namespace ReminderOp

/-- What an operation returns. -/
def run (s : ReminderState) : ReminderOp → Except Failure ReminderState
  | construct reminders => .ok (ReminderState.ofList reminders)
  | upsert reminder => .ok (s.upsert reminder)
  | remove key => do .ok (← s.remove key).1
  | clear scope => s.clear scope

/-- A sequence of operations, each on the last state that was returned. -/
def runAll (s : ReminderState) : List ReminderOp → ReminderState
  | [] => s
  | op :: ops =>
    match op.run s with
    | .error _ => runAll s ops
    | .ok t => runAll t ops

end ReminderOp

namespace ReminderState

/-- The keys of the stored reminders. -/
def keys (s : ReminderState) : List NonEmptyString := s.reminders.filterMap SystemReminder.key

/-- Constructing a state from two lists, one after the other. -/
theorem ofList_append_reminders (xs ys : List SystemReminder) :
    ofList (xs ++ ys) = ys.foldl upsert (ofList xs) := by
  induction ys using List.reverseRecOn with
  | nil => rw [List.append_nil, List.foldl_nil]
  | append_singleton ys y ih =>
    rw [List.foldl_append, List.foldl_cons, List.foldl_nil, ← ih, ← List.append_assoc]
    refine ext ?_
    rw [upsert_reminders]
    exact Keyed.ofList_append

/-- An upsert of a key that is stored changes its slot only. -/
lemma upsert_slot (s : ReminderState) {r : SystemReminder} {k : NonEmptyString}
    (hr : r.key = some k) (hk : k ∈ s.keys) :
    ∃ before old after, s.reminders = before ++ old :: after ∧ old.key = some k ∧
      (s.upsert r).reminders = before ++ r :: after := by
  rw [upsert_reminders]
  exact Keyed.upsert_of_mem hr hk

/-- Upserts of two different keys that are stored commute. -/
lemma upsert_upsert_comm (s : ReminderState) {r t : SystemReminder} {k l : NonEmptyString}
    (hkl : k ≠ l) (hr : r.key = some k) (hk : k ∈ s.keys) (ht : t.key = some l)
    (hl : l ∈ s.keys) : (s.upsert r).upsert t = (s.upsert t).upsert r := by
  refine ext ?_
  rw [upsert_reminders, upsert_reminders, upsert_reminders, upsert_reminders]
  exact Keyed.upsert_comm s.unique hkl hr hk ht hl

/-- `remove` takes out the reminder of a key, and reports whether there was one. -/
lemma remove_key (s : ReminderState) (k : NonEmptyString) :
    ∃ t found, s.remove k.val = .ok (t, found) ∧
      t.reminders = s.reminders.filter (fun r => decide (r.key ≠ some k)) ∧
      (found = true ↔ k ∈ s.keys) := by
  have hsame (r : SystemReminder) : r.key.map Subtype.val = some k.val ↔ r.key = some k := by
    cases hr : r.key with
    | none => simp
    | some key => simp [Subtype.ext_iff]
  unfold remove
  rw [if_neg k.property]
  refine ⟨_, _, rfl, ?_, ?_⟩
  · rw [reminders_ofList_filter]
    exact List.filter_congr fun r _ => by simp only [ne_eq, hsame]
  · simp only [decide_eq_true_eq, ne_eq, List.length_filter_eq_length_iff, hsame, not_forall,
      Decidable.not_not, keys, List.mem_filterMap, exists_prop]

/-- `clear` keeps the reminders of the other scopes, in their order. -/
lemma clear_ok {s t : ReminderState} {scope : Option String} (h : s.clear scope = .ok t) :
    (scope = none ∧ t.reminders = []) ∨
      ∃ value member, scope = some value ∧ ReminderScope.ofValue? value = some member ∧
        t.reminders = s.reminders.filter fun r => decide (r.scope ≠ member) := by
  cases scope with
  | none =>
    cases h
    exact .inl ⟨rfl, rfl⟩
  | some value =>
    rw [clear] at h
    cases hvalue : ReminderScope.ofValue? value with
    | none =>
      rw [hvalue] at h
      cases h
    | some member =>
      rw [hvalue] at h
      cases h
      exact .inr ⟨value, member, rfl, hvalue, clearScope_reminders s member⟩

/-- A fork has the reminders of its checkpoint, and without one those of the conversation, if the
reminder sources read as the constructor wants them; otherwise it fails. -/
lemma fork_reminders (c : Conversation) (plainCompiler : PromptCompiler) {facade : Facade}
    (checkpoint : Option ConversationCheckpoint) (hidle : facade.busy = false)
    {s s' : ReminderState} {tr : Trace SetupCall SetupReply}
    {o : Except ConstructionFailure (Conversation × Facade)}
    (h : Exec (c.fork plainCompiler facade (.ofOption checkpoint) s) tr (.ret (o, s'))) :
    (∃ facade', o = .ok (c, facade') ∧ facade'.reminderState =
        (checkpoint.map ConversationCheckpoint.reminders).getD facade.reminderState ∧
        SetupReadsWell [] tr) ∨
      (∃ e, o = .error (.failure e)) ∧ ¬ SetupReadsWell [] tr := by
  have hargument : (OptionalArgument.ofOption checkpoint).get
      ⟨facade.state, facade.reminderState⟩ "checkpoint must be a ConversationCheckpoint or None." =
        .ok (checkpoint.getD ⟨facade.state, facade.reminderState⟩) := by
    cases checkpoint <;> rfl
  rcases c.fork_exec hidle hargument h with ⟨rfl, hreads⟩ | hfails
  · refine .inl ⟨_, rfl, ?_, hreads⟩
    cases checkpoint <;> rfl
  · exact .inr hfails

/-! ### The rules -/

/-- The rules of the slots of stored reminders. -/
structure KeepsSlots : Prop where
  /-- After any sequence of operations, no key is stored twice. -/
  unique : ∀ (xs : List SystemReminder) (ops : List ReminderOp),
    ((ReminderOp.runAll (ofList xs) ops).keys).Nodup
  /-- A key stands at its first occurrence with its last value; the others keep their places. -/
  slots : ∀ xs : List SystemReminder, (ofList xs).reminders.map some =
    (Keyed.slots SystemReminder.key xs).map (Keyed.valueAt SystemReminder.key xs)
  idempotent : ∀ xs : List SystemReminder, ofList (ofList xs).reminders = ofList xs
  /-- Restoring a snapshot gives the state that was snapshotted. -/
  restored : ∀ (facade facade' : Facade) (checkpoint : ConversationCheckpoint),
    facade.snapshot = .ok checkpoint → facade'.busy = false →
      IdleOp.run facade' (.restore (some checkpoint)) = .ok facade
  /-- A fork has the reminders of the checkpoint, and without one those of the conversation, if the
  reminder sources read as the constructor wants them; otherwise it fails. -/
  forked : ∀ (c : Conversation) (plainCompiler : PromptCompiler) (facade : Facade)
    (checkpoint : Option ConversationCheckpoint), facade.busy = false →
      ∀ s tr o s', Exec (c.fork plainCompiler facade (.ofOption checkpoint) s) tr (.ret (o, s')) →
        (∃ facade', o = .ok (c, facade') ∧ facade'.reminderState =
            (checkpoint.map ConversationCheckpoint.reminders).getD facade.reminderState ∧
            SetupReadsWell [] tr) ∨
          (∃ e, o = .error (.failure e)) ∧ ¬ SetupReadsWell [] tr
  append : ∀ xs ys : List SystemReminder, ofList (xs ++ ys) = ys.foldl upsert (ofList xs)
  upserted : ∀ (s : ReminderState) (r : SystemReminder) (k : NonEmptyString),
    r.key = some k → k ∈ s.keys →
      ∃ before old after, s.reminders = before ++ old :: after ∧ old.key = some k ∧
        (s.upsert r).reminders = before ++ r :: after
  commute : ∀ (s : ReminderState) (r t : SystemReminder) (k l : NonEmptyString), k ≠ l →
    r.key = some k → k ∈ s.keys → t.key = some l → l ∈ s.keys →
      (s.upsert r).upsert t = (s.upsert t).upsert r
  removed : ∀ (s : ReminderState) (k : NonEmptyString),
    ∃ t found, s.remove k.val = .ok (t, found) ∧
      t.reminders = s.reminders.filter (fun r => decide (r.key ≠ some k)) ∧
      (found = true ↔ k ∈ s.keys)
  cleared : ∀ (s t : ReminderState) (scope : Option String), s.clear scope = .ok t →
    (scope = none ∧ t.reminders = []) ∨
      ∃ value member, scope = some value ∧ ReminderScope.ofValue? value = some member ∧
        t.reminders = s.reminders.filter fun r => decide (r.scope ≠ member)

/-- **Stored reminders keep their slots**, through any operations on them. -/
theorem keepsSlots : KeepsSlots where
  unique xs ops := (ReminderOp.runAll (ofList xs) ops).unique
  slots xs := Keyed.ofList_slots xs
  idempotent xs := ofList_reminders (ofList xs)
  restored facade facade' checkpoint hsnapshot hidle := by
    unfold Facade.snapshot at hsnapshot
    split at hsnapshot
    · cases hsnapshot
    · next hbusy =>
      cases hsnapshot
      obtain ⟨busy, state, reminderState⟩ := facade
      simp only [Bool.not_eq_true] at hbusy
      simp [IdleOp.run, IdleOp.apply, hidle, hbusy]
  forked c plainCompiler _ checkpoint hidle _ _ _ _ h :=
    fork_reminders c plainCompiler checkpoint hidle h
  append := ofList_append_reminders
  upserted s _ _ hr hk := s.upsert_slot hr hk
  commute s _ _ _ _ hkl hr hk ht hl := s.upsert_upsert_comm hkl hr hk ht hl
  removed := remove_key
  cleared _ _ _ h := clear_ok h

end ReminderState

end PurrceptCore
