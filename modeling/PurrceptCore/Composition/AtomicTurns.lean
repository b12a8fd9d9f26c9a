import PurrceptCore.Composition.DrivenTurn

set_option relaxedAutoImplicit false
set_option autoImplicit false

/-!
# Driven turns are atomic

What the application gets from the driver, and what the conversation keeps: if the driver returns a
value, the turn has committed once, and the value is its result; if the driver raises, the turn has
left the history alone, unless all that failed was the report of its success: the sink has not
accepted it, or a clock that is read for it has raised.

## Main definitions

* `PurrceptCore.LeavesHistory`, `PurrceptCore.CommitsOnce` — what the moves of a flow do to the
  history of its conversation.
* `PurrceptCore.TurnEnding` — how a driven turn ends.

## Main results

* `PurrceptCore.driven_turn_atomic` — every driven turn ends in one of these ways.
-/

namespace PurrceptCore

open Interaction

/-! ### What a flow does to the history -/

/-- No move of flow `i` changes the committed history. -/
def LeavesHistory (i : ℕ) (moves : List (Move System Event)) : Prop :=
  ∀ m ∈ moves, m.label.runs? = some i → m.after.facade.state = m.before.facade.state

/-- Exactly one move of flow `i` changes the committed history: the one with which it returns
`result`. It replaces the history from which the turn was computed. -/
def CommitsOnce (c : Conversation) (i : ℕ) (result : ModelTurnResult)
    (moves : List (Move System Event)) : Prop :=
  ∃ before m after, moves = before ++ m :: after ∧ m.label.runs? = some i ∧
    Commits c m.before i m.after ∧ m.after.facade.state = result.state ∧
    LeavesHistory i before ∧ LeavesHistory i after

section Histories

variable {c : Conversation} {i : ℕ} {s t u : System} {e : Event}
  {moves : List (Move System Event)}

lemma LeavesHistory.snoc (h : LeavesHistory i moves) {m : Move System Event}
    (hm : m.label.runs? = some i → m.after.facade.state = m.before.facade.state) :
    LeavesHistory i (moves ++ [m]) := by
  intro m' hm' hlabel
  rcases List.mem_append.1 hm' with hm' | hm'
  · exact h m' hm' hlabel
  · obtain rfl := List.mem_singleton.1 hm'
    exact hm hlabel

lemma CommitsOnce.snoc {result : ModelTurnResult} (h : CommitsOnce c i result moves)
    {m : Move System Event}
    (hm : m.label.runs? = some i → m.after.facade.state = m.before.facade.state) :
    CommitsOnce c i result (moves ++ [m]) := by
  obtain ⟨before, m', after, rfl, hlabel, hcommits, hstate, hbefore, hafter⟩ := h
  exact ⟨before, m', after ++ [m], by simp, hlabel, hcommits, hstate, hbefore, hafter.snoc hm⟩

/-- A flow that has returned has one result. -/
lemma System.Returned.unique {result result' : ModelTurnResult} (h : s.Returned i result)
    (h' : s.Returned i result') : result = result' := by
  obtain ⟨a, tr, remaining, hi⟩ := h
  obtain ⟨a', tr', remaining', hi'⟩ := h'
  rw [hi, Option.some_inj] at hi'
  cases hi'
  rfl

/-- An event in which a flow runs is about that flow. -/
lemma Event.about?_of_runs? (h : e.runs? = some i) : e.about? = some i := by
  cases e <;> first | exact h | cases h

/-- A flow that runs in a step had not returned. -/
lemma Conversation.Step.not_returned (h : c.Step s e t) (he : e.runs? = some i)
    (result : ModelTurnResult) : ¬ s.Returned i result := by
  rintro ⟨a, tr, remaining, hi⟩
  exact h.not_ended (Event.about?_of_runs? he) hi

/-- A step that is not about flow `i` does not make it return. -/
lemma Conversation.Step.returned_of_ne (h : c.Step s e t) (he : e.about? ≠ some i)
    (result : ModelTurnResult) : t.Returned i result ↔ s.Returned i result := by
  rcases h.flow_of_ne he with hsame | ⟨a, hnone, ha⟩
  · simp only [System.Returned, hsame]
  · simp only [System.Returned, hnone, ha]
    simp

/-- **A step in which flow `i` runs** leaves the history, and the flow has not returned, or it
commits the result with which the flow returns. -/
lemma Conversation.Step.history (hown : Ownership c s) (h : c.Step s e t)
    (he : e.runs? = some i) :
    (t.facade.state = s.facade.state ∧ ∀ result, ¬ t.Returned i result) ∨
      ∃ result, t.Returned i result ∧ t.facade.state = result.state ∧ Commits c s i t := by
  have hbefore (result) : ¬ s.Returned i result := h.not_returned he result
  have hmove (m : HistoryMove c ⟨s, e, t⟩) :
      (t.facade.state = s.facade.state ∧ ∀ result, ¬ t.Returned i result) ∨
        ∃ result, t.Returned i result ∧ t.facade.state = result.state ∧ Commits c s i t := by
    cases m with
    | kept hstate hreturned =>
      exact .inl ⟨hstate, fun result hr => hbefore result ((hreturned i result).1 hr)⟩
    | operated op hlabel =>
      obtain rfl : e = .operated op := hlabel
      cases he
    | committed j hlabel hcommits =>
      have hij : j = i := Option.some_inj.1 (hlabel.symm.trans he)
      subst hij
      have hcommits' := hcommits
      obtain ⟨a, tr, ttr, session, acquired, result, remaining, hi, -, hstate⟩ := hcommits
      exact .inr ⟨result, ⟨a, _, remaining, hi⟩, hstate, hcommits'⟩
  cases hown.cases h with
  | quiet hquiet => rw [he] at hquiet; cases hquiet
  | operated op facade hop => rw [hop] at he; cases he
  | rejected j a hadvanced hbusy hj ht =>
    subst ht
    refine .inl ⟨rfl, fun result hr => hbefore result ?_⟩
    exact (System.returned_advanced hj (Flow.created_ne_ended a) (fun _ _ h => by cases h) i
      result).1 hr
  | acquired j a rest facade hadvanced hidle hj hadv ht =>
    subst ht
    refine hmove (HistoryMove.of_advanced (by rw [hadvanced]; rfl) hj (Flow.created_ne_ended a) ?_
      hadv)
    rfl
  | advanced j a tr call k reply rest facade hresumed hj hbusy hadv ht =>
    subst ht
    have hflow : e.runs? = some j := by
      rcases hresumed with rfl | ⟨rfl, -⟩ <;> rfl
    exact hmove (HistoryMove.of_advanced hflow hj (Flow.awaiting_ne_ended a tr call k) rfl hadv)

/-- **What a flow does to the history** in a run: it commits once if it has returned, and leaves the
history alone otherwise. -/
theorem Conversation.Run.history (hs : s.Fresh) (h : c.Run s moves t) (i : ℕ) :
    (∀ result, t.Returned i result → CommitsOnce c i result moves) ∧
      ((∀ result, ¬ t.Returned i result) → LeavesHistory i moves) := by
  induction h with
  | refl =>
    refine ⟨fun result hr => ?_, fun _ m hm => by cases hm⟩
    obtain ⟨a, tr, remaining, hi⟩ := hr
    rw [hs.2] at hi
    cases hi
  | @snoc moves t u e hrun hstep ih =>
    by_cases he : e.runs? = some i
    · have hnever : ∀ result, ¬ t.Returned i result := hstep.not_returned he
      rcases hstep.history (Ownership.reachable hs hrun) he with ⟨hstate, hnot⟩ |
        ⟨result, hreturned, hstate, hcommits⟩
      · exact ⟨fun result hr => absurd hr (hnot result), fun _ =>
          (ih.2 hnever).snoc fun _ => hstate⟩
      · refine ⟨fun result' hr => ?_, fun hnone => absurd hreturned (hnone result)⟩
        obtain rfl := hreturned.unique hr
        exact ⟨moves, _, [], rfl, he, hcommits, hstate, ih.2 hnever, fun m hm => by cases hm⟩
    · have hlabel (h : e.runs? = some i) : u.facade.state = t.facade.state := absurd h he
      have hreturned (result) : u.Returned i result ↔ t.Returned i result := by
        by_cases habout : e.about? = some i
        · -- the flow was discarded
          cases hstep with
          | discard j a hj =>
            cases habout
            refine iff_of_false ?_ (System.not_returned hj (Flow.created_ne_ended a))
            rintro ⟨a', tr, remaining, hi⟩
            rw [List.getElem?_set_self (List.getElem?_eq_some_iff.1 hj).1] at hi
            cases hi
          | ask | operate | refuse => cases habout
          | advance | resume | close => exact absurd habout he
        · exact hstep.returned_of_ne habout result
      refine ⟨fun result hr => ?_, fun hnone => ?_⟩
      · exact (ih.1 result ((hreturned result).1 hr)).snoc hlabel
      · exact (ih.2 fun result hr => hnone result ((hreturned result).2 hr)).snoc hlabel

end Histories

/-! ### The ending of a driven turn -/

variable {V : Type}

/-- **How a driven turn ends**: what the driver hands to the application, and what the flow has done
to the conversation. -/
inductive TurnEnding (c : Conversation) (v : Encoding V) (i : ℕ) (tr : DriverTrace V FlowEffect)
    (moves : List (Move System Event)) : Except Exc V → Prop
  /-- The driver returns the result that was committed. -/
  | returned (result : ModelTurnResult) (h : CommitsOnce c i result moves) :
      TurnEnding c v i tr moves (.ok (v.result result))
  /-- The driver raises, and nothing was committed. -/
  | raised (e : Exc) (h : LeavesHistory i moves) : TurnEnding c v i tr moves (.error e)
  /-- The driver raises although the turn was committed: the sink has rejected the report of its
  success, or a service call for this report has raised. -/
  | unreported (e : Exc) (result : ModelTurnResult) (h : CommitsOnce c i result moves)
      (hreport : rejections tr = [v.result result] ∨ Unstamped (v.result result) tr) :
      TurnEnding c v i tr moves (.error e)

/-- **Driven turns are atomic**, for any conversation, any executor, sink and clocks, and whatever
else happens to the conversation meanwhile. Once the driver has ended, its flow has ended as well:
it does not own the facade any more.

**Proof sketch.** The adapter, the flow and the driver agree on how far the turn has come. A driver
that returns has seen the run return; one that raises has closed the run, which leaves the flow
failed unless it had returned before. -/
theorem driven_turn_atomic {c : Conversation} {v : Encoding V} {i : ℕ} {s t : System}
    {moves : List (Move System Event)} {tr : DriverTrace V FlowEffect}
    {state : GeneratorRunState} {host : V} {metadata : List (String × V)} {given : Option String}
    {o : Except Exc V} {d : DriverState FlowEffect} (hs : s.Fresh)
    (hosted : Hosted c v i s tr state moves t)
    (hdriven : DriverRuns host metadata given tr (.ret (o, d))) :
    TurnEnding c v i tr moves o ∧ ¬ t.Live i := by
  have hposition := hosted.position hs
  obtain ⟨hcommits, hleaves⟩ := hosted.run.history hs i
  have hfailed {f : Flow} (hi : t.flows[i]? = some f) (hf : f.Failed) :
      (∀ result, ¬ t.Returned i result) ∧ ¬ t.Live i := by
    refine ⟨?_, ?_⟩
    · rintro result ⟨a, ftr, remaining, hi'⟩
      rw [hi, Option.some_inj] at hi'
      subst hi'
      exact hf
    · rintro ⟨f', hi', hlive⟩
      rw [hi, Option.some_inj] at hi'
      subst hi'
      cases f with
      | created a => exact hf
      | discarded a => exact hlive
      | started a ftr rest =>
        cases rest with
        | ret o => exact hlive o rfl
        | call call k => exact hf
        | cut => exact hf
  have hended {result : ModelTurnResult} (hr : t.Returned i result) : ¬ t.Live i := by
    obtain ⟨a, ftr, remaining, hi⟩ := hr
    rintro ⟨f, hi', hlive⟩
    rw [hi, Option.some_inj] at hi'
    subst hi'
    exact Flow.not_live_ret _ _ _ hlive
  cases o with
  | ok value =>
    have hreturns := hdriven.returned
    cases hposition with
    | created _ hnone | running _ _ _ _ _ hnone | closed _ _ _ hnone =>
      rw [hreturns] at hnone
      cases hnone
    | returned result hi hr =>
      rw [hreturns, List.singleton_inj] at hr
      subst hr
      exact ⟨.returned result (hcommits result hi), hended hi⟩
  | error e =>
    have hsettled := (hdriven.ret (fun fuel => Delivery.keeps fuel host metadata given)
      fun _ _ => trivial).2
    rw [ledger_visible] at hsettled
    have hclosed : closes tr ≠ [] := fun hnil => by
      have hlength : (closes tr).length = 1 := hsettled
      rw [hnil] at hlength
      cases hlength
    cases hposition with
    | created _ _ hopen | running _ _ _ _ _ _ hopen => exact absurd hopen hclosed
    | returned result hi hr =>
      exact ⟨.unreported e result (hcommits result hi) (hdriven.unreported hr), hended hi⟩
    | closed f hi hf _ =>
      obtain ⟨hnone, hlive⟩ := hfailed hi hf
      exact ⟨.raised e (hleaves hnone), hlive⟩

/-! ### A turn of one round -/

/-- Values that the driver of an example passes on. -/
inductive Passed
  | nothing
  | response (value : ModelResponse)
  | result (value : ModelTurnResult)

/-- What they stand for. -/
def Passed.encoding : Encoding Passed where
  polled _ := .other
  response
    | response value => .typed value
    | _ => .other generatorExit
  toolResult _ := .other generatorExit
  result := result
  failure
    | .raised e => e
    | _ => generatorExit
  failure_raised _ := rfl

/-- The flow of the default conversation that answers to a greeting. -/
def helloAsk : Ask := ⟨.user "hello", 8, false⟩

/-- It has been asked for. -/
def askedSystem : System := { System.new with flows := [.created helloAsk] }

/-- It has been entered. -/
def enteredSystem : System :=
  askedSystem.proceed 0 helloAsk [] (plainConversation.askFlow helloAsk .empty)

/-- Collaborators of a turn of one round, which executes `effect` and returns `value`. -/
def oneRound (effect : FlowEffect) (value : Passed) : Collaborators Passed FlowEffect where
  sink _ := .ok .none
  flow
    | none => .ok (.yielded effect)
    | some _ => .ok (.returned value)
  executor _ := .done (.ok (.response plainAnswer))
  close := .ok ()

/-- The driver calls something else several times. -/
lemma Hosted.others {c : Conversation} {v : Encoding V} {i : ℕ} {s t : System}
    {moves : List (Move System Event)} {tr : DriverTrace V FlowEffect}
    {state : GeneratorRunState} (h : Hosted c v i s tr state moves t)
    (e : DriverTrace V FlowEffect) (he : e.all (fun x => !x.1.ofRun) = true) :
    Hosted c v i s (tr ++ e) state moves t := by
  induction e generalizing tr with
  | nil => rwa [List.append_nil]
  | cons x e ih =>
    rw [List.all_cons, Bool.and_eq_true, Bool.not_eq_true'] at he
    rw [List.append_cons]
    exact ih (h.other he.1) he.2

/-- The whole stack of that turn. -/
lemma oneRound_hosted : ∃ moves tr result t f d,
    Hosted plainConversation Passed.encoding 0 .new tr .returned moves t ∧
      DriverRuns .nothing [] (some "run") tr (.ret (.ok (.result result), d)) ∧
      t.flows[0]? = some f ∧ result.state.messages.length = 2 := by
  obtain ⟨effect, a, ftr, k, reply, hi, hanswer, hreturned⟩ : ∃ (effect : FlowEffect) (a : Ask)
      (ftr : FlowTrace) (k : OuterReply (.turn effect.1) → FlowProg)
      (reply : OuterReply (.turn effect.1)),
      enteredSystem.Awaits 0 a ftr (.turn effect.1) k ∧
      reply = Passed.encoding.reply (.ok (.response plainAnswer)) effect.1 ∧
      ∃ result, (enteredSystem.proceed 0 a (ftr ++ [⟨.turn effect.1, reply⟩]) (k reply)).Hands
        Passed.encoding 0 (.stopIteration (.result result)) ∧ result.state.messages.length = 2 :=
    ⟨⟨.generate _ _, rfl⟩, _, _, _, _, rfl, rfl, _, ⟨_, rfl, rfl⟩, rfl⟩
  obtain ⟨result, hstep, hlength⟩ := hreturned
  have hasked : Hosted plainConversation Passed.encoding 0 .new [] .created
      ([] ++ [⟨.new, .asked helloAsk, askedSystem⟩]) askedSystem :=
    .elsewhere .begin (.ask (.text "hello") none false helloAsk rfl) (fun h => by cases h)
  have hentered : plainConversation.Run askedSystem [⟨_, .advanced 0, enteredSystem⟩]
      enteredSystem := .snoc .refl (.advance 0 helloAsk rfl)
  have hresumed := LabelledRun.snoc (LabelledRun.refl (s := enteredSystem))
    (Conversation.Step.resume (c := plainConversation) 0 a ftr _ k reply hi)
  have hyields : enteredSystem.Hands Passed.encoding 0 (.yielded effect) :=
    ⟨_, hi, dif_pos effect.2⟩
  let tr := ((oneRound effect (.result result)).play .nothing [] (some "run") 20).1
  have hstarted : Hosted plainConversation Passed.encoding 0 .new
      ([] ++ tr.take 3 ++ [⟨.start, .ok (.yielded effect)⟩]) .running _ enteredSystem :=
    (hasked.others (tr.take 3) rfl).start (.step (.refl _))
      (.cons (.next hentered rfl (List.forall_mem_nil _) hyields) (.nil _))
  have hended : Hosted plainConversation Passed.encoding 0 .new
      ([] ++ tr.take 3 ++ [⟨.start, .ok (.yielded effect)⟩] ++ (tr.drop 4).take 8 ++
        [⟨.send (.response plainAnswer), .ok (.returned (.result result))⟩] ++ tr.drop 13)
      .returned _ _ :=
    ((hstarted.others ((tr.drop 4).take 8) rfl).send (.step (.refl _))
      (.cons (.send _ effect hresumed (by rw [hanswer]) (List.forall_mem_nil _) hstep)
        (.nil _))).others (tr.drop 13) rfl
  exact ⟨_, _, result, _, _, _, hended,
    (oneRound effect (.result result)).runs .nothing [] (some "run") 20, rfl, hlength⟩

/-- The driver returns what the flow has committed. -/
theorem driven_turn_atomic_plain : ∃ moves tr result,
    TurnEnding plainConversation Passed.encoding 0 tr moves (.ok (.result result)) ∧
      result.state.messages.length = 2 := by
  obtain ⟨moves, tr, result, t, f, d, hosted, hdriven, -, hlength⟩ := oneRound_hosted
  exact ⟨moves, tr, result, (driven_turn_atomic ⟨rfl, rfl⟩ hosted hdriven).1, hlength⟩

end PurrceptCore
