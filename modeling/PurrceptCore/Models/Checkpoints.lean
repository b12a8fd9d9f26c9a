import PurrceptCore.Models.ReminderSlots

set_option relaxedAutoImplicit false
set_option autoImplicit false

/-!
# Checkpoints

A checkpoint is all that decides what a conversation does from then on. A conversation that is
restored to it can do what one can that begins with it, such as a fork: there are only some old
flows more, which stand before the new ones.

## Main definitions

* `PurrceptCore.System.behind` — a system with more flows before its own.
* `PurrceptCore.ConversationCheckpoint.start` — a conversation that begins with a checkpoint.
* `PurrceptCore.TakesUp` — a system can do what that conversation can.

## Main results

* `PurrceptCore.Conversation.Step.behind`, `PurrceptCore.Conversation.Step.of_behind` — the steps of
  a system are those of the same system with more flows, as far as these do not move.
* `PurrceptCore.checkpoint_resumes` — forks and restored conversations go on alike.
-/

namespace PurrceptCore

open Interaction

/-- The system with the flows `old` before its own. -/
def System.behind (old : List Flow) (s : System) : System := ⟨s.facade, old ++ s.flows⟩

/-- The same event, with `n` flows before those of the system. -/
def Event.behind (n : ℕ) : Event → Event
  | asked a => asked a
  | advanced i => advanced (n + i)
  | discarded i => discarded (n + i)
  | resumed i call reply => resumed (n + i) call reply
  | closed i => closed (n + i)
  | operated op => operated op
  | refused op error => refused op error

/-- The flow that an event moves. -/
def Event.flow? : Event → Option ℕ
  | advanced i | discarded i | resumed i _ _ | closed i => some i
  | asked _ | operated _ | refused _ _ => none

/-- The event moves none of the first `n` flows. -/
def Event.Spares (n : ℕ) (e : Event) : Prop := ∀ i, e.flow? = some i → n ≤ i

section Behind

variable {c : Conversation} {old : List Flow} {s t : System} {e : Event}

lemma getElem?_behind (i : ℕ) : (s.behind old).flows[old.length + i]? = s.flows[i]? := by
  rw [System.behind, List.getElem?_append_right (Nat.le_add_right _ _), Nat.add_sub_cancel_left]

lemma set_behind (i : ℕ) (f : Flow) :
    (s.behind old).flows.set (old.length + i) f = old ++ s.flows.set i f := by
  rw [System.behind, List.set_append_right _ _ (Nat.le_add_right _ _), Nat.add_sub_cancel_left]

/-- A flow goes on in the same way. -/
lemma proceed_behind (i : ℕ) (a : Ask) (tr : FlowTrace) (p : FlowProg) :
    (s.behind old).proceed (old.length + i) a tr p = (s.proceed i a tr p).behind old := by
  rw [System.proceed, set_behind]
  rfl

/-- **Steps happen** as well when there are more flows. -/
theorem Conversation.Step.behind (h : c.Step s e t) (old : List Flow) :
    c.Step (s.behind old) (e.behind old.length) (t.behind old) := by
  cases h with
  | ask input rounds poll a ha =>
    have hstep := Conversation.Step.ask (s := s.behind old) input rounds poll a ha
    rw [System.behind, List.append_assoc] at hstep
    exact hstep
  | advance i a hi =>
    have hstep := Conversation.Step.advance (c := c) (old.length + i) a
      ((getElem?_behind i).trans hi)
    rwa [proceed_behind] at hstep
  | discard i a hi =>
    have hstep := Conversation.Step.discard (c := c) (old.length + i) a
      ((getElem?_behind i).trans hi)
    rwa [set_behind] at hstep
  | resume i a tr call k reply hi =>
    have hstep := Conversation.Step.resume (c := c) (old.length + i) a tr call k reply
      ((getElem?_behind i).trans hi)
    rwa [proceed_behind] at hstep
  | close i a tr call k hyield hi =>
    have hstep := Conversation.Step.close (c := c) (old.length + i) a tr call k hyield
      ((getElem?_behind i).trans hi)
    rwa [proceed_behind] at hstep
  | operate op facade hop => exact .operate op facade hop
  | refuse op error hop => exact .refuse op error hop

/-- **Steps of a system with more flows** that do not move these are steps of the system. -/
theorem Conversation.Step.of_behind {u : System} (hspares : e.Spares old.length)
    (h : c.Step (s.behind old) e u) :
    ∃ e' t, e = e'.behind old.length ∧ u = t.behind old ∧ c.Step s e' t := by
  cases h with
  | ask input rounds poll a ha =>
    refine ⟨.asked a, _, rfl, ?_, .ask input rounds poll a ha⟩
    rw [System.behind, System.behind, List.append_assoc]
  | advance i a hi =>
    obtain ⟨j, rfl⟩ := Nat.exists_eq_add_of_le (hspares i rfl)
    exact ⟨.advanced j, _, rfl, proceed_behind j a [] _, .advance j a (getElem?_behind j ▸ hi)⟩
  | discard i a hi =>
    obtain ⟨j, rfl⟩ := Nat.exists_eq_add_of_le (hspares i rfl)
    refine ⟨.discarded j, _, rfl, ?_, .discard j a (getElem?_behind j ▸ hi)⟩
    rw [set_behind]
    rfl
  | resume i a tr call k reply hi =>
    obtain ⟨j, rfl⟩ := Nat.exists_eq_add_of_le (hspares i rfl)
    exact ⟨.resumed j call reply, _, rfl, proceed_behind j a _ _,
      .resume j a tr call k reply ((getElem?_behind j).symm.trans hi)⟩
  | close i a tr call k hyield hi =>
    obtain ⟨j, rfl⟩ := Nat.exists_eq_add_of_le (hspares i rfl)
    exact ⟨.closed j, _, rfl, proceed_behind j a _ _,
      .close j a tr call k hyield ((getElem?_behind j).symm.trans hi)⟩
  | operate op facade hop => exact ⟨.operated op, _, rfl, rfl, .operate op facade hop⟩
  | refuse op error hop => exact ⟨.refused op error, _, rfl, rfl, .refuse op error hop⟩

end Behind

/-- The conversation that begins with a checkpoint. -/
def ConversationCheckpoint.start (checkpoint : ConversationCheckpoint) : System :=
  ⟨⟨false, checkpoint.history, checkpoint.reminders⟩, []⟩

/-- **The system goes on from the checkpoint.** It has some flows already. What it can do with new
flows is what the conversation can do that begins with the checkpoint, step by step: the same calls,
replies, outcomes and states, with the old flows before the new ones. -/
structure TakesUp (c : Conversation) (checkpoint : ConversationCheckpoint) (s : System) : Prop where
  runs : ∀ moves t, c.Run checkpoint.start moves t →
    c.Run s (moves.map (Move.map (System.behind s.flows) (Event.behind s.flows.length)))
      (t.behind s.flows)
  only : ∀ moves t, c.Run s moves t → (∀ m ∈ moves, m.label.Spares s.flows.length) →
    ∃ moves' t', moves =
        moves'.map (Move.map (System.behind s.flows) (Event.behind s.flows.length)) ∧
      t = t'.behind s.flows ∧ c.Run checkpoint.start moves' t'

/-- A system whose facade is that of the checkpoint goes on from it. -/
lemma TakesUp.of_facade {c : Conversation} {checkpoint : ConversationCheckpoint} {s : System}
    (h : s.facade = checkpoint.start.facade) : TakesUp c checkpoint s := by
  have hs : checkpoint.start.behind s.flows = s := by
    rw [System.behind, ← h, ConversationCheckpoint.start, List.append_nil]
  constructor
  · intro moves t hrun
    have hmap := hrun.map (f := System.behind s.flows) (g := Event.behind s.flows.length)
      fun _ _ _ hstep => hstep.behind s.flows
    rwa [hs] at hmap
  · intro moves t hrun hspares
    have hrun' : c.Run (checkpoint.start.behind s.flows) moves t := by rwa [hs]
    exact hrun'.lift (P := Event.Spares s.flows.length)
      (fun _ _ _ hlabel hstep => hstep.of_behind hlabel) hspares

/-- A snapshot is taken of an idle conversation, and contains both of its slots. -/
lemma Facade.snapshot_eq_ok {facade : Facade} {checkpoint : ConversationCheckpoint}
    (h : facade.snapshot = .ok checkpoint) :
    facade.busy = false ∧ checkpoint = ⟨facade.state, facade.reminderState⟩ := by
  unfold snapshot at h
  split at h
  · cases h
  · next hidle =>
    cases h
    exact ⟨Bool.eq_false_iff.2 hidle, rfl⟩

/-- What `fork` begins with: the checkpoint it is given, or a snapshot. -/
def Facade.ForksFrom (facade : Facade) (argument : OptionalArgument ConversationCheckpoint)
    (checkpoint : ConversationCheckpoint) : Prop :=
  argument = .value checkpoint ∨ argument = .none ∧ facade.snapshot = .ok checkpoint

/-- **Checkpoints are complete.** A fork that an idle conversation makes of a checkpoint, or of a
snapshot, has the configuration of the conversation and begins with the checkpoint; it is not made
if and only if a reminder source no longer reads as the constructor wants. A conversation that has
been restored to the checkpoint, whatever has happened before and whichever flows were left behind,
can do with new flows exactly what that fork can.

**Proof sketch.** The constructor takes its own values as they are (`Conversation.construct_fork`),
and a step looks at the facade and the flow that it moves only. -/
theorem checkpoint_resumes {c : Conversation} {u v w : System}
    {argument : OptionalArgument ConversationCheckpoint} {checkpoint : ConversationCheckpoint}
    (hidle : u.facade.busy = false) (hargument : u.facade.ForksFrom argument checkpoint)
    {plainCompiler : PromptCompiler} {r r' : ReminderState} {tr : Trace SetupCall SetupReply}
    {o : Except ConstructionFailure (Conversation × Facade)}
    (hfork : Exec (c.fork plainCompiler u.facade argument r) tr (.ret (o, r')))
    (hrestore : c.Step v (.operated (.restore (some checkpoint))) w) :
    (o = .ok (c, checkpoint.start.facade) ∧ SetupReadsWell [] tr ∨
      (∃ e, o = .error (.failure e)) ∧ ¬ SetupReadsWell [] tr) ∧ TakesUp c checkpoint w := by
  have hget : argument.get ⟨u.facade.state, u.facade.reminderState⟩
      "checkpoint must be a ConversationCheckpoint or None." = .ok checkpoint := by
    rcases hargument with rfl | ⟨rfl, hsnapshot⟩
    · rfl
    · obtain ⟨-, rfl⟩ := Facade.snapshot_eq_ok hsnapshot
      rfl
  refine ⟨c.fork_exec hidle hget hfork, .of_facade ?_⟩
  cases hrestore with
  | operate _ facade' hop =>
    unfold IdleOp.run at hop
    split at hop
    · cases hop
    · next hbusy =>
      cases hop
      change Facade.mk _ _ _ = _
      rw [Bool.eq_false_iff.2 hbusy]
      rfl

/-- An idle conversation may be restored. -/
lemma restore_step {c : Conversation} {s : System} (h : s.facade.busy = false)
    (checkpoint : ConversationCheckpoint) :
    c.Step s (.operated (.restore (some checkpoint))) { s with
      facade := ⟨s.facade.busy, checkpoint.history, checkpoint.reminders⟩ } := by
  refine .operate _ _ (if_neg ?_)
  rw [h]
  exact Bool.false_ne_true

/-- A snapshot is taken and a fork made before the first turn. The turn commits two messages, and
the conversation is restored. -/
theorem checkpoint_resumes_plain : ∃ checkpoint moves v w,
    System.new.facade.snapshot = .ok checkpoint ∧ plainConversation.Run .new moves v ∧
    v.facade.state.messages.length = 2 ∧
    plainConversation.Step v (.operated (.restore (some checkpoint))) w ∧
    TakesUp plainConversation checkpoint w := by
  have hstart : plainConversation.Run .new [] .new := .refl
  have hwaiting := (hstart.snoc (.ask (.text "hello") none false _ rfl)).snoc (.advance 0 _ rfl)
  obtain ⟨call, hreturned⟩ :=
    Conversation.Run.respond hwaiting 0 (answering plainAnswer) (by decide +kernel)
  have hfork : Exec (plainConversation.fork plainConversation.promptCompiler System.new.facade .none
      .empty) [] (.ret (.ok (plainConversation, System.new.facade), .empty)) := .refl _
  exact ⟨⟨.empty, .empty⟩, _, _, _, rfl, hreturned, by decide +kernel,
    restore_step (by decide +kernel) _,
    (checkpoint_resumes rfl (.inr ⟨rfl, rfl⟩) hfork (restore_step (by decide +kernel) _)).2⟩

end PurrceptCore
