import PurrceptCore.Models.Totality
import PurrceptCore.Models.TurnRules

set_option relaxedAutoImplicit false
set_option autoImplicit false

/-!
# A turn is its rounds

With effects that bring values of the documented types, a turn yields the effects of its rounds in
their order. It returns when a round ends without calls and without input, and then commits the
messages of all rounds; it raises when the last round it may take is not such a round.

## Main definitions

* `PurrceptCore.TurnInput.Follows` — what a turn has done, and what it may do next.

## Main results

* `PurrceptCore.turn_rounds` — every turn follows its rounds, after any calls.
-/

namespace PurrceptCore

open Interaction

namespace TurnInput

variable (T : TurnInput)

/-- **A turn that has made the calls `tr` and stands at `q`.** The rounds that are over and the
current one are those of the log, which the outcomes alone determine. -/
structure Follows (tr : TurnTrace)
    (q : Prog TurnCall TurnReply (Except Failure ModelTurnResult × ReminderState)) : Prop where
  /-- Every round that is over has a result for each call, was not one to stop at, and took in user
  messages only; there is a round left for the current one. -/
  coherent : (T.log tr).Coherent T.poll T.maxRounds
  /-- The effects so far are those of the rounds, one after the other: a poll, the model, a poll,
  and one invocation for each tool call in the order of the content. -/
  effects : tr.filterMap (fun x => x.1.effect?) = (T.log tr).effects T.conversation T.poll
  /-- The next call is the one that is due. Callbacks are made only to build a request. -/
  due : ∀ call k, q = .call call k → (T.log tr).Admits T.conversation call
  /-- It returns at a round to stop at, and commits the messages of all rounds. -/
  returned : ∀ result s, q = .ret (.ok result, s) → ∃ before response,
    (T.log tr).phase = .stopped before response ∧ T.IsResult tr response result
  /-- It has returned once such a round is over. -/
  stops : ∀ before response, (T.log tr).phase = .stopped before response →
    ∃ result s, q = .ret (.ok result, s)
  /-- It raises the limit error when the last round is not one to stop at. No tool of that round has
  been invoked: its effects are those up to its second poll. -/
  limits : ∀ before response incoming, (T.log tr).phase = .limited before response incoming →
    ∃ s, q = .ret (.error (.toolLoopLimit T.maxRounds response), s)
  /-- It raises nothing else, unless a request could not be built. -/
  raised : ∀ e s, q = .ret (.error e, s) →
    (∃ before response incoming, (T.log tr).phase = .limited before response incoming) ∨
      ∃ before, (T.log tr).phase = .requesting before

end TurnInput

/-- **A turn is its rounds**, for any committed state, user message, limit, tools and input effect,
any behaviour of the application between the effects, and all effect outcomes of the documented
types.

**Proof sketch.** The loop keeps to the log (`TurnInput.wp_run`), so whatever it has done or is
about to do is what the log says. A turn that is not over makes a call, since none of its branches
is cut. -/
theorem turn_rounds {T : TurnInput} (huser : T.user.role = .user) (hpos : 0 < T.maxRounds)
    {tr : TurnTrace}
    {q : Prog TurnCall TurnReply (Except Failure ModelTurnResult × ReminderState)}
    (h : Exec T.run tr q) (htyped : ∀ x ∈ tr, WellTyped x) : T.Follows tr q := by
  have hdue {tr' call k} (h' : Exec T.run tr' (.call call k)) :
      (T.log tr').Admits T.conversation call := (TurnInput.run_call h').2.admits
  obtain ⟨heffects, hfailed⟩ := TurnLog.effects_of hpos h (fun _ _ _ h' => hdue h') htyped
  have hends {o s} (hq : q = .ret (o, s)) : T.Ends tr o := by
    subst hq
    exact (TurnInput.run_ends huser hpos h).1
  have hover (hnone : ∀ call, ¬ (T.log tr).Admits T.conversation call) :
      ∃ o s, q = .ret (o, s) ∧ T.Ends tr o := by
    rcases (h.uncut (T.conversation.runModelTurn_uncut _ _ _ _ _ _)).cases with
      ⟨⟨o, s⟩, rfl⟩ | ⟨call, k, rfl⟩
    · exact ⟨o, s, rfl, hends rfl⟩
    · exact absurd (hdue h) (hnone call)
  refine ⟨TurnLog.coherent_of hpos tr, heffects.symm, ?_, ?_, ?_, ?_, ?_⟩
  · rintro call k rfl
    exact hdue h
  · intro result s hq
    cases hends hq with
    | returned before response _ hphase hresult => exact ⟨before, response, hphase, hresult⟩
  · intro before response hphase
    obtain ⟨o, s, rfl, ho⟩ := hover fun call hcall => by rwa [TurnLog.Admits, hphase] at hcall
    cases ho with
    | returned _ _ result _ _ => exact ⟨result, s, rfl⟩
    | limited _ _ _ hphase' => rw [hphase] at hphase'; cases hphase'
    | notBuilt _ _ hphase' => rw [hphase] at hphase'; cases hphase'
    | failed _ hphase' => exact absurd hphase' hfailed
  · intro before response incoming hphase
    obtain ⟨o, s, rfl, ho⟩ := hover fun call hcall => by rwa [TurnLog.Admits, hphase] at hcall
    cases ho with
    | returned _ _ _ hphase' _ => rw [hphase] at hphase'; cases hphase'
    | limited _ _ _ hphase' => rw [hphase] at hphase'; cases hphase'; exact ⟨s, rfl⟩
    | notBuilt _ _ hphase' => rw [hphase] at hphase'; cases hphase'
    | failed _ hphase' => exact absurd hphase' hfailed
  · intro e s hq
    cases hends hq with
    | limited before incoming response hphase => exact .inl ⟨before, response, incoming, hphase⟩
    | notBuilt before _ hphase => exact .inr ⟨before, hphase⟩
    | failed _ hphase => exact absurd hphase hfailed

/-! ### A turn of two rounds -/

/-- A turn of the default conversation, which takes two rounds at most. -/
def twoRounds : TurnInput where
  conversation := plainConversation
  session := ⟨[], ⟨fun _ => "", fun _ => ""⟩, [], false⟩
  state := .empty
  user := .user "hello"
  maxRounds := 2
  poll := true
  acquired := .empty

/-- Effects that bring the given values; no callback is expected. -/
def bring (incoming : List PolledItem) (content : ContentBlock) : (call : TurnCall) → TurnReply call
  | .inputPoll => .ok (.tuple incoming)
  | .generate _ _ => .ok (.typed
      ⟨⟨.assistant, [content], none, [], List.cons_ne_nil _ _⟩, none, rfl⟩)
  | .invokeTool _ _ => .ok (.typed ⟨[content], false⟩)
  | .prepare _ _ => .ok .other
  | .countTokens _ _ | .countRequest _ _ | .sourceId _ => .ok .other
  | .resolve _ _ => .ok .notIterable
  | .trace _ => .ok .none

/-- The first response calls a tool, and input arrives with it; the second one ends the turn. -/
theorem turn_rounds_twoRounds : ∃ tr q, twoRounds.Follows tr q ∧ tr.length = 7 ∧
    ∃ result s, q = .ret (.ok result, s) ∧ result.state.messages.length = 5 := by
  let script : List ((call : TurnCall) → TurnReply call) :=
    [bring [] (.toolCall lookUp), bring [] (.toolCall lookUp),
      bring [.message (.user "more")] (.text ""), bring [] (.text "found"),
      bring [] (.text "done"), bring [] (.text "done"), bring [] (.text "done")]
  exact ⟨_, _, turn_rounds rfl (by decide) (Exec.play script twoRounds.run) (by decide), rfl, _, _,
    rfl, rfl⟩

end PurrceptCore
