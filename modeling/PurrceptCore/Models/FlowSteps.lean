import PurrceptCore.Models.Totality

set_option relaxedAutoImplicit false
set_option autoImplicit false

/-!
# What a flow can do

The flow of a turn is in one of three phases: it sets up its prompt session, it runs the turn, or
it has ended. Everything that is said about systems of flows rests on the lemmas of this module,
which say once what advancing a flow does to the facade.

## Main definitions

* `PurrceptCore.Conversation.setUp`, `PurrceptCore.Conversation.turn` — the two programs that the
  flow runs over a facade.
* `PurrceptCore.SettingUp`, `PurrceptCore.Turning` — how far a flow has come with them.
* `PurrceptCore.Advanced` — what an advancement of the flow that owns the facade has led to.

## Main results

* `PurrceptCore.settle_askFlow_busy` — on a busy facade a flow ends at once.
* `PurrceptCore.Advanced.start` — on an idle facade it acquires the facade.
* `PurrceptCore.SettingUp.advance`, `PurrceptCore.Turning.advance` — the owner goes on, ends with
  a commit, or ends without one.
-/

namespace PurrceptCore

open Interaction

namespace Conversation

variable (c : Conversation)

/-- The session that a set-up returns. -/
def session (reminderState : ReminderState) : TurnPromptSession :=
  ⟨reminderState.reminders, c.promptCompiler, c.reminderSources, c.promptTraceSink⟩

/-- The set-up of the session. -/
def setUp (reminderState : ReminderState) :
    Prog SetupCall SetupReply (Except Failure TurnPromptSession × ReminderState) :=
  TurnPromptSession.begin reminderState c.promptCompiler c.reminderSources c.promptTraceSink
    .empty

/-- The turn that a flow runs once its session is set up. -/
def turn (facade : Facade) (a : Ask) :
    Prog TurnCall TurnReply (Except Failure ModelTurnResult × ReminderState) :=
  c.runModelTurn (c.session facade.reminderState) facade.state a.userMessage a.maxModelRounds
    a.inputPoll (facade.reminderState.clearScope .turn)

end Conversation

/-! ### The set-up -/

/-- The reads of the sources are as the validation wants them, where `seen` are the ids read
before: every source is an instance, and its id is a non-empty string not seen before. -/
def SetupReadsWell : List NonEmptyString → Trace SetupCall SetupReply → Prop
  | _, [] => True
  | seen, ⟨.isReminderSource _, reply⟩ :: tr => reply = .ok true ∧ SetupReadsWell seen tr
  | seen, ⟨.sourceId _, reply⟩ :: tr =>
    ∃ id : NonEmptyString, reply = .ok (.str id) ∧ id ∉ seen ∧ SetupReadsWell (id :: seen) tr

/-- What `requireNonEmptyString` accepts. -/
lemma requireNonEmptyString_eq_ok {value : Attribute} {fieldName : String}
    {id : NonEmptyString} :
    requireNonEmptyString value fieldName = .ok id ↔ value = .str id := by
  cases value with
  | other => simp [requireNonEmptyString]
  | str value =>
    rw [requireNonEmptyString]
    split
    · next h =>
      simp only [reduceCtorEq, Attribute.str.injEq, false_iff]
      exact fun hid => id.2 (hid ▸ h)
    · next h => simp only [Except.ok.injEq, Attribute.str.injEq, Subtype.ext_iff]

/-- What is left of the validation of a source once its id is read. -/
def validateSourceId (seen : List NonEmptyString) (value : Attribute) : SetupM NonEmptyString := do
  let sourceId ← Routine.ofExcept (requireNonEmptyString value "source_id")
  if sourceId ∈ seen then
    throw (.valueError ("Reminder source " ++ pyRepr sourceId ++
      " is registered more than once."))
  else
    pure sourceId

/-- An id that has been read is accepted if it is a non-empty string not seen before, and refused
otherwise. -/
lemma validateSourceId_cases (seen : List NonEmptyString) (value : Attribute)
    (s : ReminderState) :
    (∃ id : NonEmptyString, value = .str id ∧ id ∉ seen ∧
      validateSourceId seen value s = .ret (.ok id, s)) ∨
    (∀ id : NonEmptyString, value = .str id → id ∈ seen) ∧
      ∃ e, validateSourceId seen value s = .ret (.error e, s) := by
  unfold validateSourceId
  cases hid : requireNonEmptyString value "source_id" with
  | error e =>
    refine .inr ⟨fun id hvalue => ?_, e, rfl⟩
    rw [requireNonEmptyString_eq_ok.2 hvalue] at hid
    cases hid
  | ok id =>
    have hvalue := requireNonEmptyString_eq_ok.1 hid
    by_cases hmem : id ∈ seen
    · refine .inr ⟨fun id' hvalue' => ?_, _, congrFun (if_pos hmem) s⟩
      rw [requireNonEmptyString_eq_ok.2 hvalue'] at hid
      cases hid
      exact hmem
    · exact .inl ⟨id, hvalue, hmem, congrFun (if_neg hmem) s⟩

/-- The validation of one source goes on while the reads are as it wants them, and raises at the
first that is not. -/
lemma validateSource_exec {source : ReminderSource} {seen : List NonEmptyString}
    {s : ReminderState} {tr : Trace SetupCall SetupReply}
    {q : Prog SetupCall SetupReply (Except Failure NonEmptyString × ReminderState)}
    (h : Exec (validateSource seen source s) tr q) :
    (∃ call k, q = .call call k) ∧ SetupReadsWell seen tr ∨
      (∃ id, q = .ret (.ok id, s) ∧
        ∀ tr', SetupReadsWell seen (tr ++ tr') ↔ SetupReadsWell (id :: seen) tr') ∨
      (∃ e, q = .ret (.error e, s)) ∧ ¬ SetupReadsWell seen tr := by
  cases h with
  | refl => exact .inl ⟨⟨_, _, rfl⟩, trivial⟩
  | @step _ _ isSource tr _ h =>
  match isSource with
  | .error e =>
    obtain ⟨rfl, rfl⟩ := Exec.ret_inv h
    exact .inr (.inr ⟨⟨_, rfl⟩, fun hbad => nomatch hbad.1⟩)
  | .ok false =>
    obtain ⟨rfl, rfl⟩ := Exec.ret_inv h
    exact .inr (.inr ⟨⟨_, rfl⟩, fun hbad => nomatch hbad.1⟩)
  | .ok true =>
  cases h with
  | refl => exact .inl ⟨⟨_, _, rfl⟩, rfl, trivial⟩
  | @step _ _ read tr _ h =>
  match read with
  | .error e =>
    obtain ⟨rfl, rfl⟩ := Exec.ret_inv h
    refine .inr (.inr ⟨⟨_, rfl⟩, ?_⟩)
    rintro ⟨-, id, hread, -⟩
    cases hread
  | .ok value =>
  have hread : Exec (validateSourceId seen value s) tr q := h
  rcases validateSourceId_cases seen value s with ⟨id, rfl, hnew, hid⟩ | ⟨hseen, e, hid⟩
  · rw [hid] at hread
    obtain ⟨rfl, rfl⟩ := Exec.ret_inv hread
    refine .inr (.inl ⟨id, rfl, fun tr' => ⟨?_, fun hwell => ⟨rfl, id, rfl, hnew, hwell⟩⟩⟩)
    rintro ⟨-, id', hsame, -, hwell⟩
    obtain rfl : id' = id := by
      simpa only [Except.ok.injEq, Attribute.str.injEq, Subtype.ext_iff, eq_comm] using hsame
    exact hwell
  · rw [hid] at hread
    obtain ⟨rfl, rfl⟩ := Exec.ret_inv hread
    refine .inr (.inr ⟨⟨e, rfl⟩, ?_⟩)
    rintro ⟨-, id, hvalue, hnew, -⟩
    exact hnew (hseen id (Except.ok.inj hvalue))

/-- **The validation of the sources** goes on, or succeeds, while the reads are as it wants them,
and raises at the first that is not. -/
lemma normalizeReminderSources_exec {sources : List ReminderSource}
    {seen : List NonEmptyString} {s : ReminderState} {tr : Trace SetupCall SetupReply}
    {q : Prog SetupCall SetupReply (Except Failure (List ReminderSource) × ReminderState)}
    (h : Exec (normalizeReminderSources seen sources s) tr q) :
    ((∃ call k, q = .call call k) ∨ q = .ret (.ok sources, s)) ∧ SetupReadsWell seen tr ∨
      (∃ e, q = .ret (.error e, s)) ∧ ¬ SetupReadsWell seen tr := by
  induction sources generalizing seen tr q with
  | nil =>
    obtain ⟨rfl, rfl⟩ := h.ret_inv
    exact .inl ⟨.inr rfl, trivial⟩
  | cons source sources ih =>
    have hstart : normalizeReminderSources seen (source :: sources) s =
        validateSource seen source s >>= Routine.continueWith fun sourceId =>
          normalizeReminderSources (sourceId :: seen) sources >>= fun normalized =>
            pure (source :: normalized) := rfl
    rw [hstart] at h
    rcases h.bind_inv with ⟨q₁, hq₁, hne, rfl⟩ | ⟨tr₁, ⟨o, s₁⟩, tr₂, rfl, h₁, h₂⟩
    · rcases validateSource_exec hq₁ with ⟨⟨call, k, rfl⟩, hwell⟩ | ⟨id, rfl, hid⟩ |
        ⟨⟨e, rfl⟩, hbad⟩
      · exact .inl ⟨.inl ⟨_, _, rfl⟩, hwell⟩
      · exact absurd rfl (hne _)
      · exact absurd rfl (hne _)
    rcases validateSource_exec h₁ with ⟨⟨call, k, hq⟩, -⟩ | ⟨id, hq, hid⟩ | ⟨⟨e, hq⟩, hbad⟩
    · cases hq
    · cases hq
      rw [hid]
      rcases Exec.bind_inv h₂ with ⟨q₁, hq₁, hne, rfl⟩ | ⟨tr₂, ⟨o, s₁⟩, tr₃, rfl, h₂, h₃⟩
      · rcases ih hq₁ with ⟨⟨call, k, rfl⟩ | rfl, hwell⟩ | ⟨⟨e, rfl⟩, hbad⟩
        · exact .inl ⟨.inl ⟨_, _, rfl⟩, hwell⟩
        · exact absurd rfl (hne _)
        · exact absurd rfl (hne _)
      · rcases ih h₂ with ⟨⟨call, k, hq⟩ | hq, hwell⟩ | ⟨⟨e, hq⟩, hbad⟩
        · cases hq
        · cases hq
          obtain ⟨rfl, rfl⟩ := Exec.ret_inv h₃
          exact .inl ⟨.inr rfl, by rwa [List.append_nil]⟩
        · cases hq
          obtain ⟨rfl, rfl⟩ := Exec.ret_inv h₃
          exact .inr ⟨⟨e, rfl⟩, by rwa [List.append_nil]⟩
    · cases hq
      obtain ⟨rfl, rfl⟩ := Exec.ret_inv h₂
      refine .inr ⟨⟨e, rfl⟩, ?_⟩
      rwa [List.append_nil]

/-- **The set-up of a session** goes on, or returns the session, while the reads of the sources
are as the validation wants them, and raises at the first that is not. The turn reminders are
not among those that remain. -/
theorem setUp_exec {c : Conversation} {reminderState : ReminderState}
    {tr : Trace SetupCall SetupReply}
    {q : Prog SetupCall SetupReply (Except Failure TurnPromptSession × ReminderState)}
    (h : Exec (c.setUp reminderState) tr q) :
    ((∃ call k, q = .call call k) ∨
        q = .ret (.ok (c.session reminderState), reminderState.clearScope .turn)) ∧
        SetupReadsWell [] tr ∨
      (∃ e, q = .ret (.error e, reminderState.clearScope .turn)) ∧ ¬ SetupReadsWell [] tr := by
  have hstart : c.setUp reminderState =
      normalizeReminderSources [] c.reminderSources (reminderState.clearScope .turn) >>=
        Routine.continueWith fun sources =>
          pure ⟨reminderState.reminders, c.promptCompiler, sources, c.promptTraceSink⟩ := rfl
  rw [hstart] at h
  rcases h.bind_inv with ⟨q₁, hq₁, hne, rfl⟩ | ⟨tr₁, ⟨o, s₁⟩, tr₂, rfl, h₁, h₂⟩
  · rcases normalizeReminderSources_exec hq₁ with ⟨⟨call, k, rfl⟩ | rfl, hwell⟩ |
      ⟨⟨e, rfl⟩, hbad⟩
    · exact .inl ⟨.inl ⟨_, _, rfl⟩, hwell⟩
    · exact absurd rfl (hne _)
    · exact absurd rfl (hne _)
  · rcases normalizeReminderSources_exec h₁ with ⟨⟨call, k, hq⟩ | hq, hwell⟩ | ⟨⟨e, hq⟩, hbad⟩
    · cases hq
    · cases hq
      obtain ⟨rfl, rfl⟩ := Exec.ret_inv h₂
      exact .inl ⟨.inr rfl, by rwa [List.append_nil]⟩
    · cases hq
      obtain ⟨rfl, rfl⟩ := Exec.ret_inv h₂
      exact .inr ⟨⟨e, rfl⟩, by rwa [List.append_nil]⟩

/-! ### The phases of a flow -/

/-- The end of a flow that has run its turn: commit, and the `finally` block. -/
def finish : Except Failure ModelTurnResult × ReminderState → FlowProg
  | (.ok result, remaining) =>
    .call (.facade (.setState result.state)) fun _ =>
    .call (.facade (.setReminderState remaining)) fun _ =>
    .call (.facade (.setBusy false)) fun _ => .ret (.ok result, remaining)
  | (.error e, remaining) =>
    .call (.facade (.setReminderState remaining)) fun _ =>
    .call (.facade (.setBusy false)) fun _ => .ret (.error e, remaining)

/-- A flow whose turn stands at `q`. -/
def inTurn (q : Prog TurnCall TurnReply (Except Failure ModelTurnResult × ReminderState)) :
    FlowProg :=
  (q.handle fun call => Prog.perform (FlowCall.turn call)) >>= finish

/-- What follows the set-up: the committed state is read, and the turn begins. -/
def afterSetup (c : Conversation) (a : Ask) :
    Except Failure TurnPromptSession × ReminderState → FlowProg
  | (.ok session, remaining) =>
    .call (.facade .readState) fun state => inTurn
      (c.runModelTurn session state a.userMessage a.maxModelRounds a.inputPoll remaining)
  | (.error e, remaining) => .ret (.error e, remaining)

/-- A flow whose set-up stands at `q`. -/
def inSetup (c : Conversation) (a : Ask)
    (q : Prog SetupCall SetupReply (Except Failure TurnPromptSession × ReminderState)) :
    FlowProg :=
  (q.handle fun call => Prog.perform (FlowCall.setup call)) >>= afterSetup c a

/-- The body of the flow once its session is set up, with its `finally` block. -/
lemma turn_finish (c : Conversation) (a : Ask) (session : TurnPromptSession)
    (remaining : ReminderState) :
    (Routine.tryFinally (do
      let state ← access .readState
      let result ← ofTurn
        (c.runModelTurn session state a.userMessage a.maxModelRounds a.inputPoll)
      access (.setState result.state)
      return result) (do
      access (.setReminderState (← get))
      access (.setBusy false)) : FlowM ModelTurnResult) remaining =
      afterSetup c a (.ok session, remaining) := by
  refine Prog.call_congr fun state => ?_
  change (((ofTurn (c.runModelTurn session state a.userMessage a.maxModelRounds a.inputPoll)
    remaining).bind _).bind _).bind _ = _
  refine ((Prog.bind_assoc _ _ _).trans (Prog.bind_assoc _ _ _)).trans ?_
  refine Prog.bind_congr _ fun o => ?_
  obtain ⟨_ | result, _⟩ := o <;> rfl

/-- The flow of `ask`, by its phases. -/
lemma askFlow_eq (c : Conversation) (a : Ask) :
    c.askFlow a .empty =
      .call (.facade .readBusy) fun busy =>
        if busy then .ret (.error .conversationBusy, .empty)
        else .call (.facade (.setBusy true)) fun _ =>
          .call (.facade .readReminderState) fun reminderState =>
            inSetup c a (c.setUp reminderState) := by
  refine Prog.call_congr fun busy => ?_
  cases busy with
  | true => rfl
  | false =>
    refine Prog.call_congr fun _ => ?_
    refine Prog.call_congr fun reminderState => ?_
    change (ofSetup (TurnPromptSession.begin reminderState c.promptCompiler c.reminderSources
      c.promptTraceSink) .empty).bind _ = _
    refine Prog.bind_congr _ fun o => ?_
    obtain ⟨_ | session, remaining⟩ := o
    · rfl
    · exact turn_finish c a session remaining

/-! ### Settling -/

/-- A flow that waits for a call of its surroundings is left alone. -/
@[simp] lemma settle_call (facade : Facade) (call : OuterCall) (k : OuterReply call → FlowProg) :
    settle facade (.call call.toFlowCall k) = (.call call.toFlowCall k, facade) := by
  cases call <;> rfl

@[simp] lemma settle_ret (facade : Facade) (o : Except Failure ModelTurnResult × ReminderState) :
    settle facade (.ret o) = (.ret o, facade) := rfl

/-- A turn that has returned commits its state. -/
@[simp] lemma settle_inTurn_ok (facade : Facade) (result : ModelTurnResult)
    (remaining : ReminderState) :
    settle facade (inTurn (.ret (.ok result, remaining))) =
      (.ret (.ok result, remaining), ⟨false, result.state, remaining⟩) := rfl

/-- A turn that has raised leaves the committed state. -/
@[simp] lemma settle_inTurn_error (facade : Facade) (e : Failure) (remaining : ReminderState) :
    settle facade (inTurn (.ret (.error e, remaining))) =
      (.ret (.error e, remaining), ⟨false, facade.state, remaining⟩) := rfl

/-- A set-up that has raised leaves the facade as it is, busy. -/
@[simp] lemma settle_inSetup_error (facade : Facade) (c : Conversation) (a : Ask) (e : Failure)
    (remaining : ReminderState) :
    settle facade (inSetup c a (.ret (.error e, remaining))) =
      (.ret (.error e, remaining), facade) := rfl

/-- A set-up that has returned begins the turn. -/
@[simp] lemma settle_inSetup_ok (facade : Facade) (c : Conversation) (a : Ask) :
    settle facade (inSetup c a
        (.ret (.ok (c.session facade.reminderState), facade.reminderState.clearScope .turn))) =
      settle facade (inTurn (c.turn facade a)) := rfl

/-- **On a busy facade** a flow ends at once, and leaves the facade alone. -/
theorem settle_askFlow_busy {facade : Facade} (h : facade.busy = true) (c : Conversation)
    (a : Ask) :
    settle facade (c.askFlow a .empty) = (.ret (.error .conversationBusy, .empty), facade) := by
  obtain ⟨_, state, reminderState⟩ := facade
  cases h
  rw [askFlow_eq]
  rfl

/-- On an idle facade a flow acquires the facade, and begins its set-up. -/
lemma settle_askFlow_idle {facade : Facade} (h : facade.busy = false) (c : Conversation)
    (a : Ask) :
    settle facade (c.askFlow a .empty) =
      settle { facade with busy := true } (inSetup c a (c.setUp facade.reminderState)) := by
  obtain ⟨_, state, reminderState⟩ := facade
  cases h
  rw [askFlow_eq]
  rfl

/-! ### What an advancement leads to -/

/-- The calls of a set-up, as calls of a flow. -/
def ofSetupTrace (tr : Trace SetupCall SetupReply) : FlowTrace :=
  tr.map fun x => ⟨.setup x.1, x.2⟩

/-- The calls of a turn, as calls of a flow. -/
def ofTurnTrace (tr : TurnTrace) : FlowTrace := tr.map fun x => ⟨.turn x.1, x.2⟩

variable (c : Conversation) (facade : Facade) (a : Ask) (tr : FlowTrace)

/-- The flow that owns the facade has made the calls `tr`, all for its set-up, which now stands at
`q`. -/
def SettingUp
    (q : Prog SetupCall SetupReply (Except Failure TurnPromptSession × ReminderState)) : Prop :=
  ∃ str, tr = ofSetupTrace str ∧ Exec (c.setUp facade.reminderState) str q

/-- The flow that owns the facade has made the calls `tr` for its set-up and its turn, which now
stands at `q`. -/
def Turning
    (q : Prog TurnCall TurnReply (Except Failure ModelTurnResult × ReminderState)) : Prop :=
  ∃ str ttr, tr = ofSetupTrace str ++ ofTurnTrace ttr ∧
    Exec (c.setUp facade.reminderState) str
      (.ret (.ok (c.session facade.reminderState), facade.reminderState.clearScope .turn)) ∧
    Exec (c.turn facade a) ttr q

/-- **What an advancement has led to.** The flow owns the facade, as it was while the flow was
suspended; the calls it has made are `tr`. It now stands at the given program, and the facade is as
given. -/
inductive Advanced : FlowProg → Facade → Prop
  /-- It waits for a read of its set-up. -/
  | settingUp (call : SetupCall)
      (k : SetupReply call → Prog SetupCall SetupReply
        (Except Failure TurnPromptSession × ReminderState))
      (h : SettingUp c facade tr (.call call k)) : Advanced (inSetup c a (.call call k)) facade
  /-- It waits for a call of its turn. -/
  | turning (call : TurnCall)
      (k : TurnReply call → Prog TurnCall TurnReply
        (Except Failure ModelTurnResult × ReminderState))
      (h : Turning c facade a tr (.call call k)) : Advanced (inTurn (.call call k)) facade
  /-- Its set-up has raised: nobody owns the facade, which is still busy. -/
  | setupRaised (e : Failure) (remaining : ReminderState)
      (h : SettingUp c facade tr (.ret (.error e, remaining))) :
      Advanced (.ret (.error e, remaining)) facade
  /-- Its turn has raised. -/
  | turnRaised (e : Failure) (remaining : ReminderState)
      (h : Turning c facade a tr (.ret (.error e, remaining))) :
      Advanced (.ret (.error e, remaining)) ⟨false, facade.state, remaining⟩
  /-- Its turn has returned. -/
  | turnReturned (result : ModelTurnResult) (remaining : ReminderState)
      (h : Turning c facade a tr (.ret (.ok result, remaining))) :
      Advanced (.ret (.ok result, remaining)) ⟨false, result.state, remaining⟩

variable {c facade a tr}

/-- Settling a turn. -/
lemma Turning.settle
    {q : Prog TurnCall TurnReply (Except Failure ModelTurnResult × ReminderState)}
    (h : Turning c facade a tr q) :
    Advanced c facade a tr (settle facade (inTurn q)).1 (settle facade (inTurn q)).2 := by
  obtain ⟨str, ttr, htr, hs, ht⟩ := h
  rcases (ht.uncut (c.runModelTurn_uncut _ _ _ _ _ _)).cases with ⟨⟨o, remaining⟩, rfl⟩ |
    ⟨call, k, rfl⟩
  · cases o with
    | error e => exact .turnRaised e remaining ⟨str, ttr, htr, hs, ht⟩
    | ok result => exact .turnReturned result remaining ⟨str, ttr, htr, hs, ht⟩
  · exact .turning call k ⟨str, ttr, htr, hs, ht⟩

/-- Settling a set-up. -/
lemma SettingUp.settle
    {q : Prog SetupCall SetupReply (Except Failure TurnPromptSession × ReminderState)}
    (h : SettingUp c facade tr q) :
    Advanced c facade a tr (settle facade (inSetup c a q)).1
      (settle facade (inSetup c a q)).2 := by
  obtain ⟨str, rfl, hs⟩ := h
  rcases setUp_exec hs with ⟨⟨call, k, rfl⟩ | rfl, -⟩ | ⟨⟨e, rfl⟩, -⟩
  · exact .settingUp call k ⟨str, rfl, hs⟩
  · exact Turning.settle ⟨str, [], (List.append_nil _).symm, hs, .refl _⟩
  · exact .setupRaised e _ ⟨str, rfl, hs⟩

/-- **The first advancement** on an idle facade acquires it. -/
theorem Advanced.start (h : facade.busy = false) (c : Conversation) (a : Ask) :
    Advanced c { facade with busy := true } a [] (PurrceptCore.settle facade (c.askFlow a .empty)).1
      (PurrceptCore.settle facade (c.askFlow a .empty)).2 := by
  rw [settle_askFlow_idle h]
  exact SettingUp.settle ⟨[], rfl, .refl _⟩

/-- **A read of the set-up** has come back. -/
theorem SettingUp.advance {call : SetupCall}
    {k : SetupReply call → Prog SetupCall SetupReply
      (Except Failure TurnPromptSession × ReminderState)}
    (h : SettingUp c facade tr (.call call k)) (reply : SetupReply call) :
    Advanced c facade a (tr ++ [⟨.setup call, reply⟩])
      (PurrceptCore.settle facade (inSetup c a (k reply))).1
      (PurrceptCore.settle facade (inSetup c a (k reply))).2 := by
  obtain ⟨str, rfl, hs⟩ := h
  exact SettingUp.settle ⟨str ++ [⟨call, reply⟩], by simp [ofSetupTrace], hs.snoc reply⟩

/-- **A call of the turn** has come back. -/
theorem Turning.advance {call : TurnCall}
    {k : TurnReply call → Prog TurnCall TurnReply
      (Except Failure ModelTurnResult × ReminderState)}
    (h : Turning c facade a tr (.call call k)) (reply : TurnReply call) :
    Advanced c facade a (tr ++ [⟨.turn call, reply⟩])
      (PurrceptCore.settle facade (inTurn (k reply))).1
      (PurrceptCore.settle facade (inTurn (k reply))).2 := by
  obtain ⟨str, ttr, rfl, hs, ht⟩ := h
  exact Turning.settle
    ⟨str, ttr ++ [⟨call, reply⟩], by simp [ofTurnTrace], hs, ht.snoc reply⟩

end PurrceptCore
