import PurrceptCore.Models.RequestTrimming
import PurrceptCore.Models.TextOutlines

set_option relaxedAutoImplicit false
set_option autoImplicit false

/-!
# What prompt traces reveal

Two runs of `TurnPromptSession.compile` that differ in the text of messages, instructions, reminders
and exceptions only send the same events to the trace sink, up to digests.

## Main definitions

* `PurrceptCore.traceView` — what is seen of the calls of a compilation and of their replies when
  texts are not.
* `PurrceptCore.TurnPromptSession.Alike`, `PurrceptCore.CompileCall.Alike` — sessions and arguments
  that differ in texts only.
* `PurrceptCore.TurnPromptSession.compileAll` — calls of `compile`, one after the other.

## Main results

* `PurrceptCore.TurnPromptSession.compile_alike` — one compilation.
* `PurrceptCore.TurnPromptSession.traces_reveal_no_text` — runs of compilations.
* `PurrceptCore.digest_reader_raises` — a sink that looks at digests may tell texts apart.

## Design

* The exchanges of two runs are compared position by position: wherever both runs ask a collaborator
  of the same kind, the replies differ in texts only.
* Digests are total functions of the content, as in `PromptCompiler`, where the digit limit of
  `repr` is left out.
-/

namespace PurrceptCore

open Interaction

/-! ### What is seen -/

/-- The class of an exception. -/
structure ErrorClass where
  cls : ExcClass
  typeName : String

/-- An exception without its text. -/
def Exc.errorClass (error : Exc) : ErrorClass := ⟨error.cls, error.typeName⟩

/-- An item of a resolution without content. -/
inductive ItemShape
  | reminder (outline : ReminderOutline)
  | awaitable
  | other

/-- What a source has returned, without content. -/
inductive ResolvedShape
  | items (items : List ItemShape)
  | awaitable
  | notIterable

/-- The shape of an item. -/
def ResolvedItem.shape : ResolvedItem → ItemShape
  | .reminder r => .reminder r.outline
  | .awaitable => .awaitable
  | .other => .other

/-- The shape of a resolution. -/
def Resolved.shape : Resolved → ResolvedShape
  | .items xs => .items (xs.map ResolvedItem.shape)
  | .awaitable => .awaitable
  | .notIterable => .notIterable

/-- An event without digests. -/
def PromptTraceEvent.redacted : PromptTraceEvent → PromptTraceEvent
  | promptCompiled modelRound _ keys scopes placements priorities hashes ids tokens trimmed =>
    promptCompiled modelRound "" keys scopes placements priorities (hashes.map fun _ => "") ids
      tokens trimmed
  | event => event

/-- What is seen of a call. -/
inductive SeenCall
  | sourceId
  | resolve
  | countRequest
  | trace (event : PromptTraceEvent)
  /-- A call that no compilation makes. -/
  | other

/-- What is seen of a reply. -/
inductive SeenReply
  | sourceId (reply : Except ErrorClass Attribute)
  | resolve (reply : Except ErrorClass ResolvedShape)
  /-- The count, if there is one. -/
  | countRequest (count : Option Count)
  | trace (accepted : Bool)
  | other

/-- What is seen of a call. -/
def TurnCall.seen : TurnCall → SeenCall
  | sourceId _ => .sourceId
  | resolve _ _ => .resolve
  | countRequest _ _ => .countRequest
  | trace event => .trace event.redacted
  | _ => .other

/-- What `emit_prompt_trace` makes of a reply of the sink. -/
def sinkOutcome : Except Exc TraceResult → Except Failure Unit
  | .ok .none => .ok ()
  | .ok .awaitable => .error (.typeError "PromptTraceSink must be synchronous.")
  | .ok .other => .error (.typeError "PromptTraceSink must return None.")
  | .error error => .error (.raised error)

/-- What is seen of a reply. -/
def TurnCall.seenReply : (call : TurnCall) → TurnReply call → SeenReply
  | sourceId _, reply => .sourceId (reply.mapError Exc.errorClass)
  | resolve _ _, reply => .resolve ((reply.map Resolved.shape).mapError Exc.errorClass)
  | countRequest _ _, reply => .countRequest reply.toOption
  | trace _, reply => .trace (sinkOutcome reply).isOk
  | _, _ => .other

/-- The view without texts. -/
def traceView : View TurnCall TurnReply where
  Call := SeenCall
  Reply := SeenReply
  call := TurnCall.seen
  reply := TurnCall.seenReply

/-! ### Sessions that differ in texts only -/

/-- The states hold reminders of the same outlines. -/
def ReminderState.Alike (s t : ReminderState) : Prop :=
  SameOutlines s.reminders t.reminders

/-- The sessions differ in contents only. Their sources may be other objects. -/
structure TurnPromptSession.Alike (session session' : TurnPromptSession) : Prop where
  baseReminders : SameOutlines session.baseReminders session'.baseReminders
  sources : session.sources.length = session'.sources.length
  traceSink : session.traceSink = session'.traceSink

/-! ### The parts of a compilation -/

/-- Routines that send the same events up to digests, and both raise or both return. -/
abbrev LooksAlike {α β : Type} (P : α → β → Prop) (x : TurnM α) (y : TurnM β) : Prop :=
  Routine.Alike traceView ReminderState.Alike P (fun _ _ => True) x y

open Routine (Alike)

/-- Going on with what came back. -/
lemma receive_alike {S T C α β : Type} {R : C → Type} {V : View C R} {I : S → T → Prop}
    {P : α → β → Prop} {E : Failure → Failure → Prop} {reply : Except Exc α} {reply' : Except Exc β}
    (h : Outcomes P (fun e e' => E (.raised e) (.raised e')) reply reply') :
    Alike V I P E (receive reply) (receive reply') := by
  cases reply <;> cases reply'
  · exact .throw h
  · exact h.elim
  · exact h.elim
  · exact .pure h

/-- Events are the same up to digests, and so is what becomes of them. -/
lemma emitPromptTrace_alike {event event' : PromptTraceEvent} (h : event.redacted = event'.redacted)
    (sink : Bool) :
    LooksAlike (fun _ _ => True) (emitPromptTrace sink event) (emitPromptTrace sink event') := by
  cases sink with
  | false => exact .pure trivial
  | true =>
    have hsend (event : PromptTraceEvent) : emitPromptTrace true event =
        Routine.call (.trace event) >>= fun reply => Routine.ofExcept (sinkOutcome reply) := by
      funext s
      refine congrArg (Prog.call _) (funext fun reply => ?_)
      obtain _ | _ | _ | _ := reply <;> rfl
    rw [hsend, hsend]
    refine (Alike.call (congrArg SeenCall.trace h)).bind fun reply reply' hreply => ?_
    exact .ofExcept (Outcomes.of_isOk (SeenReply.trace.inj hreply))

/-- The counts are the same. -/
lemma countRequest_alike (request request' : ModelRequest) (model model' : Model) :
    LooksAlike (· = ·) (countRequest request model) (countRequest request' model') := by
  have hcall : traceView.call (.countRequest request model) =
      traceView.call (.countRequest request' model') := rfl
  refine (Alike.call hcall).bind fun reply reply' hreply => ?_
  have hcount := Outcomes.of_toOption (SeenReply.countRequest.inj hreply)
  refine (receive_alike hcount).bind fun count _ hsame => ?_
  subst hsame
  cases count with
  | awaitable => exact .throw trivial
  | other => exact .throw trivial
  | int value =>
    change LooksAlike _ (if value < 0 then _ else _) (if value < 0 then _ else _)
    split
    · exact .throw trivial
    · exact .pure rfl

/-- The failures are of the same class. -/
structure Failure.SameClass (failure failure' : Failure) : Prop where
  isException : failure.isException = failure'.isException
  typeName : failure.typeName = failure'.typeName

lemma Failure.SameClass.refl (failure : Failure) : failure.SameClass failure := ⟨rfl, rfl⟩

/-- Exceptions of one class are failures of one class. -/
lemma Failure.SameClass.raised {error error' : Exc} (h : error.errorClass = error'.errorClass) :
    SameClass (.raised error) (.raised error') :=
  ⟨congrArg (fun c => c.cls.isException) h, congrArg ErrorClass.typeName h⟩

/-- The reminders of resolutions of the same shape. -/
lemma collectReminders_alike {items items' : List ResolvedItem}
    (h : items.map ResolvedItem.shape = items'.map ResolvedItem.shape) :
    Outcomes SameOutlines Failure.SameClass (collectReminders items) (collectReminders items') := by
  induction items generalizing items' with
  | nil =>
    cases items' with
    | nil => exact rfl
    | cons _ _ => cases h
  | cons item items ih =>
    cases items' with
    | nil => cases h
    | cons item' items' =>
      obtain ⟨hitem, hitems⟩ := List.cons.inj h
      cases item with
      | reminder r =>
        cases item' with
        | reminder r' =>
          refine (ih hitems).bind fun rs rs' hrs => ?_
          have houtline : r.outline = r'.outline := ItemShape.reminder.inj hitem
          exact hrs.cons houtline
        | awaitable => cases hitem
        | other => cases hitem
      | awaitable =>
        cases item' with
        | awaitable => exact Failure.SameClass.refl _
        | reminder _ => cases hitem
        | other => cases hitem
      | other =>
        cases item' with
        | other => exact Failure.SameClass.refl _
        | reminder _ => cases hitem
        | awaitable => cases hitem

/-- What is resolved from replies of the same shape. -/
lemma checkResolved_alike {resolved resolved' : Resolved} (h : resolved.shape = resolved'.shape) :
    Outcomes SameOutlines Failure.SameClass (checkResolved resolved) (checkResolved resolved') := by
  cases resolved with
  | items items =>
    cases resolved' with
    | items items' => exact collectReminders_alike (ResolvedShape.items.inj h)
    | awaitable => cases h
    | notIterable => cases h
  | awaitable =>
    cases resolved' with
    | awaitable => exact Failure.SameClass.refl _
    | items _ => cases h
    | notIterable => cases h
  | notIterable =>
    cases resolved' with
    | notIterable => exact Failure.SameClass.refl _
    | items _ => cases h
    | awaitable => cases h

/-- Going on with the id of a source. -/
lemma sourceId_bind {α β : Type} {P : α → β → Prop} {E : Failure → Failure → Prop}
    (hE : ∀ failure failure' : Failure, failure.SameClass failure' → E failure failure')
    (source source' : ReminderSource) {f : Attribute → TurnM α} {g : Attribute → TurnM β}
    (hf : ∀ value, Alike traceView ReminderState.Alike P E (f value) (g value)) :
    Alike traceView ReminderState.Alike P E
      (Routine.call (.sourceId source) >>= fun reply => receive reply >>= f)
      (Routine.call (.sourceId source') >>= fun reply => receive reply >>= g) := by
  have hcall : traceView.call (.sourceId source) = traceView.call (.sourceId source') := rfl
  refine (Alike.call hcall).bind fun reply reply' hreply => ?_
  have hsame := Outcomes.of_mapError (SeenReply.sourceId.inj hreply)
  refine (receive_alike (hsame.mono (fun _ _ h => h) fun _ _ h => hE _ _ (.raised h))).bind ?_
  intro value _ hvalue
  subst hvalue
  exact hf value

/-- The reminders of a source have the same outlines, and failures the same class. -/
lemma resolveReminderSource_alike (source source' : ReminderSource)
    (context context' : ReminderResolutionContext) :
    Alike traceView ReminderState.Alike
      SameOutlines Failure.SameClass (resolveReminderSource source context)
      (resolveReminderSource source' context') := by
  refine sourceId_bind (fun _ _ h => h) source source' fun value => ?_
  refine Alike.ofExcept_bind Failure.SameClass.refl (fun _ => ?_) _
  have hcall : traceView.call (.resolve source context) =
      traceView.call (.resolve source' context') := rfl
  refine (Alike.call hcall).bind fun reply reply' hreply => ?_
  have hshape := (Outcomes.of_mapError (SeenReply.resolve.inj hreply)).of_map
  refine (receive_alike (hshape.mono (fun _ _ h => h) fun _ _ h => .raised h)).bind ?_
  intro resolved resolved' hresolved
  exact .ofExcept (checkResolved_alike hresolved)

namespace TurnPromptSession

variable {session session' : TurnPromptSession}

/-- One source. -/
lemma resolveSource_alike (hsink : session.traceSink = session'.traceSink)
    (context context' : ReminderResolutionContext) (modelRound : ℕ)
    (source source' : ReminderSource) :
    LooksAlike
      (fun x y => SameOutlines x.1 y.1 ∧ x.2 = y.2)
      (session.resolveSource context modelRound source)
      (session'.resolveSource context' modelRound source') := by
  unfold resolveSource
  rw [hsink]
  refine sourceId_bind (fun _ _ _ => trivial) source source' fun value => ?_
  refine (Alike.tryCatch (resolveReminderSource_alike source source' context context') ?_).bind ?_
  · intro failure failure' hclass
    rw [hclass.isException]
    split
    · have hevent : sourceFailureEvent modelRound value failure =
          sourceFailureEvent modelRound value failure' := by
        unfold sourceFailureEvent
        rw [hclass.typeName]
      rw [hevent]
      refine Alike.ofExcept_bind (fun _ => trivial) (fun event => ?_) _
      exact (emitPromptTrace_alike rfl _).bind fun _ _ _ => .throw trivial
    · exact .throw trivial
  · intro resolved resolved' hresolved
    rw [hresolved.keys_eq]
    exact (emitPromptTrace_alike rfl _).bind fun _ _ _ => .pure ⟨hresolved, rfl⟩

/-- All sources. -/
lemma resolveSources_alike (hsink : session.traceSink = session'.traceSink)
    (context context' : ReminderResolutionContext) (modelRound : ℕ)
    {sources sources' : List ReminderSource} (h : sources.length = sources'.length) :
    LooksAlike
      (fun x y => SameOutlines x.1 y.1 ∧ x.2 = y.2)
      (session.resolveSources context modelRound sources)
      (session'.resolveSources context' modelRound sources') := by
  induction sources generalizing sources' with
  | nil =>
    obtain rfl := List.length_eq_zero_iff.1 h.symm
    exact .pure ⟨rfl, rfl⟩
  | cons source sources ih =>
    cases sources' with
    | nil => cases h
    | cons source' sources' =>
      refine (resolveSource_alike hsink context context' modelRound source source').bind ?_
      intro x y hxy
      refine (ih (Nat.succ.inj h)).bind fun u v huv => ?_
      exact .pure ⟨hxy.1.append huv.1, congrArg₂ List.cons hxy.2 huv.2⟩

/-- The active reminders have the same outlines. -/
lemma activeReminders_alike (hsession : session.Alike session')
    {remaining remaining' : ReminderState} (h : remaining.Alike remaining') :
    SameOutlines (session.activeReminders remaining) (session'.activeReminders remaining') := by
  have hactive := SameOutlines.any_eq h fun o => o.scope = .nextRequest
  unfold activeReminders
  change SameOutlines (session.baseReminders.filter fun r => r.outline.scope ≠ .nextRequest ||
    remaining.reminders.any fun r => r.outline.scope = .nextRequest) _
  rw [hactive]
  exact hsession.baseReminders.filter fun o => o.scope ≠ .nextRequest ||
    remaining'.reminders.any fun r => r.scope = .nextRequest

/-- One candidate. -/
lemma compileCandidate_alike (hsession : session.Alike session')
    (context context' : ReminderResolutionContext) (modelRound : ℕ)
    {candidate candidate' : PromptDraft} (h : candidate.Alike candidate') :
    LooksAlike CompiledPrompt.Alike (session.compileCandidate context modelRound candidate)
      (session'.compileCandidate context' modelRound candidate') := by
  have hreplace : Outcomes (fun _ _ => True) (fun _ _ => True)
      (context.replace candidate.history modelRound)
      (context'.replace candidate'.history modelRound) := by
    unfold ReminderResolutionContext.replace
    split
    · trivial
    · trivial
  refine (Alike.ofExcept hreplace).bind fun context context' _ => ?_
  refine (resolveSources_alike hsession.traceSink context context' modelRound
    hsession.sources).bind fun x y hxy => ?_
  refine Alike.get.bind fun remaining remaining' hremaining => ?_
  rw [hxy.2]
  exact .ofExcept (PromptCompiler.compile_alike _ _ h (activeReminders_alike hsession hremaining)
    rfl hxy.1 y.2 modelRound)

/-- The event of a compiled request. -/
lemma emitCompiled_alike (hsink : session.traceSink = session'.traceSink)
    {diagnostics diagnostics' : PromptDiagnostics}
    (h : diagnostics.redacted = diagnostics'.redacted) :
    LooksAlike (fun _ _ => True) (session.emitCompiled diagnostics)
      (session'.emitCompiled diagnostics') := by
  unfold emitCompiled
  rw [hsink]
  apply emitPromptTrace_alike
  exact congrArg (fun d : PromptDiagnostics => PromptTraceEvent.promptCompiled d.modelRound
    d.promptFingerprint d.reminderKeys d.reminderScopes d.reminderPlacements d.reminderPriorities
    d.contentHashes d.dynamicSourceIds d.estimatedTokens d.trimmedTurns) h

/-- The request that is accepted. -/
lemma accept_alike (hsink : session.traceSink = session'.traceSink)
    {compiled compiled' : CompiledPrompt} (h : compiled.Alike compiled') (modelRound : ℕ)
    (estimatedTokens : Option ℕ) (trimmedTurns : ℕ) :
    LooksAlike (fun _ _ => True) (session.accept compiled modelRound estimatedTokens trimmedTurns)
      (session'.accept compiled' modelRound estimatedTokens trimmedTurns) := by
  have hdiagnostics := congrArg
    (fun d : PromptDiagnostics => { d with estimatedTokens, trimmedTurns }) h.diagnostics
  refine (emitCompiled_alike hsink hdiagnostics).bind fun _ _ _ => ?_
  rw [hsink]
  simp only [h.consumedNextRequest]
  split
  · refine Alike.get.bind fun remaining remaining' hremaining => ?_
    have hconsumed := SameOutlines.filter hremaining fun o => o.scope = .nextRequest
    refine (emitPromptTrace_alike ?_ _).bind fun _ _ _ => ?_
    · exact congrArg (PromptTraceEvent.reminderConsumed modelRound) hconsumed.keys_eq
    refine (Alike.modify fun s t hst => ?_).bind fun _ _ _ => .pure trivial
    unfold ReminderState.Alike
    rw [ReminderState.clearScope_reminders, ReminderState.clearScope_reminders]
    exact SameOutlines.filter hst fun o => o.scope ≠ .nextRequest
  · exact .pure trivial

/-- One candidate is accepted or tried again. -/
lemma compileOnce_alike (hsession : session.Alike session')
    (context context' : ReminderResolutionContext) (modelRound : ℕ)
    (budget : Option RequestTokenBudget) {candidate candidate' : PromptDraft}
    (h : candidate.Alike candidate') (trimmedTurns : ℕ)
    {retry retry' : PromptDraft → TurnM CompiledPrompt}
    (hretry : ∀ candidate candidate' : PromptDraft, candidate.Alike candidate' →
      LooksAlike (fun _ _ => True) (retry candidate) (retry' candidate')) :
    LooksAlike (fun _ _ => True)
      (session.compileOnce context modelRound budget candidate trimmedTurns retry)
      (session'.compileOnce context' modelRound budget candidate' trimmedTurns retry') := by
  refine (compileCandidate_alike hsession context context' modelRound h).bind ?_
  intro compiled compiled' hcompiled
  cases budget with
  | none => exact accept_alike hsession.traceSink hcompiled _ _ _
  | some budget =>
    refine (countRequest_alike _ _ _ _).bind fun estimatedTokens _ hcount => ?_
    subst hcount
    split
    · refine (Alike.ofExcept (dropOldestCompleteTurn_alike h.history)).bind ?_
      intro trimmed trimmed' htrimmed
      cases htrimmed with
      | none => exact .throw trivial
      | some hhistory =>
        exact hretry _ _ ⟨hhistory, h.instructions, h.tools, h.toolChoice⟩
    · exact accept_alike hsession.traceSink hcompiled _ _ _

/-- The loop. -/
lemma compileFrom_alike (hsession : session.Alike session')
    (context context' : ReminderResolutionContext) (modelRound : ℕ)
    (budget : Option RequestTokenBudget) (turns : ℕ) {candidate candidate' : PromptDraft}
    (h : candidate.Alike candidate') (trimmedTurns : ℕ) :
    LooksAlike (fun _ _ => True)
      (session.compileFrom context modelRound budget turns candidate trimmedTurns)
      (session'.compileFrom context' modelRound budget turns candidate' trimmedTurns) := by
  induction turns generalizing candidate candidate' trimmedTurns with
  | zero => exact compileOnce_alike hsession _ _ _ _ h _ fun _ _ _ => .cut
  | succ turns ih =>
    exact compileOnce_alike hsession _ _ _ _ h _ fun _ _ hcandidate => ih hcandidate _

/-- **One compilation** looks alike for drafts that differ in texts only. -/
theorem compile_alike (hsession : session.Alike session') {draft draft' : PromptDraft}
    (h : draft.Alike draft') (context context' : ReminderResolutionContext) (modelRound : ℕ)
    (budget : Option RequestTokenBudget) :
    LooksAlike (fun _ _ => True) (session.compile draft context modelRound budget)
      (session'.compile draft' context' modelRound budget) := by
  unfold compile
  rw [h.history.turnBoundaries]
  exact compileFrom_alike hsession _ _ _ _ _ h _

end TurnPromptSession

/-- **Sessions that begin with states that differ in texts only** differ in texts only, and so do
the reminders that remain. -/
theorem TurnPromptSession.begin_alike {state state' : ReminderState} (h : state.Alike state')
    {compiler compiler' : PromptCompiler} {sources sources' : List ReminderSource}
    (hsources : sources.length = sources'.length) {traceSink : Bool}
    {s s' remaining remaining' : ReminderState} {tr tr' : Trace SetupCall SetupReply}
    {session session' : TurnPromptSession}
    (hbegin : Exec (begin state compiler sources traceSink s) tr (.ret (.ok session, remaining)))
    (hbegin' : Exec (begin state' compiler' sources' traceSink s') tr'
      (.ret (.ok session', remaining'))) :
    session.Alike session' ∧ remaining.Alike remaining' := by
  obtain ⟨rfl, hsession⟩ :=
    Routine.Spec.sound hbegin (begin_spec state compiler sources traceSink s)
  obtain ⟨rfl, hsession'⟩ :=
    Routine.Spec.sound hbegin' (begin_spec state' compiler' sources' traceSink s')
  rw [hsession session rfl, hsession' session' rfl]
  refine ⟨⟨h, hsources, rfl⟩, ?_⟩
  unfold ReminderState.Alike
  rw [ReminderState.clearScope_reminders, ReminderState.clearScope_reminders]
  exact SameOutlines.filter h fun o => o.scope ≠ .turn

/-! ### Runs of compilations -/

/-- The arguments of a call of `compile`. -/
structure CompileCall where
  draft : PromptDraft
  context : ReminderResolutionContext
  modelRound : ℕ
  budget : Option RequestTokenBudget

/-- The calls differ in texts only. -/
structure CompileCall.Alike (call call' : CompileCall) : Prop where
  draft : call.draft.Alike call'.draft
  modelRound : call.modelRound = call'.modelRound
  budget : call.budget = call'.budget

/-- Calls of `compile` of one session, one after the other, each after the one before has returned
or raised. -/
def TurnPromptSession.compileAll (session : TurnPromptSession) : List CompileCall → ReminderState →
    Prog TurnCall TurnReply (List (Except Failure CompiledPrompt) × ReminderState)
  | [], remaining => .ret ([], remaining)
  | call :: calls, remaining => do
    let (outcome, remaining) ←
      session.compile call.draft call.context call.modelRound call.budget remaining
    let (outcomes, remaining) ← session.compileAll calls remaining
    return (outcome :: outcomes, remaining)

/-- The event that a call sends to the sink. -/
def sentEvent? : TurnCall → Option PromptTraceEvent
  | .trace event => some event
  | _ => none

/-- The events that the sink receives, in order. -/
def sentEvents (tr : TurnTrace) : List PromptTraceEvent := (tr.map Sigma.fst).filterMap sentEvent?

/-- The event that is seen of a call. -/
def SeenCall.event? : SeenCall → Option PromptTraceEvent
  | .trace event => some event
  | _ => none

/-- A call to a source. -/
def TurnCall.toSource : TurnCall → Bool
  | sourceId _ | resolve _ _ => true
  | _ => false

/-- A call to the token counter. -/
def TurnCall.toCounter : TurnCall → Bool
  | countRequest _ _ => true
  | _ => false

/-- A call to the trace sink. -/
def TurnCall.toSink : TurnCall → Bool
  | trace _ => true
  | _ => false

/-- Wherever both runs make calls of this kind that look alike, the replies look alike. -/
def AgreeOn (kind : TurnCall → Bool) (tr tr' : TurnTrace) : Prop :=
  ∀ (i : ℕ) (x x' : Σ call, TurnReply call), tr[i]? = some x → tr'[i]? = some x' →
    kind x.1 = true → x.1.seen = x'.1.seen → x.1.seenReply x.2 = x'.1.seenReply x'.2

lemma TurnCall.seenReply_of_other {call : TurnCall} (h : call.seen = .other)
    (reply : TurnReply call) : call.seenReply reply = .other := by
  cases call <;> first | rfl | cases h

/-- No other replies are looked at. -/
lemma answeredAlike_of_agreeOn {tr tr' : TurnTrace} (hsources : AgreeOn TurnCall.toSource tr tr')
    (hcounter : AgreeOn TurnCall.toCounter tr tr') (hsink : AgreeOn TurnCall.toSink tr tr') :
    traceView.AnsweredAlike tr tr' := by
  intro i x x' hx hx' hseen
  obtain ⟨call, reply⟩ := x
  have hother (h : call.seen = .other) : call.seenReply reply = x'.1.seenReply x'.2 := by
    rw [TurnCall.seenReply_of_other h, TurnCall.seenReply_of_other (hseen.symm.trans h)]
  cases call with
  | sourceId source => exact hsources i _ x' hx hx' rfl hseen
  | resolve source context => exact hsources i _ x' hx hx' rfl hseen
  | countRequest request model => exact hcounter i _ x' hx hx' rfl hseen
  | trace event => exact hsink i _ x' hx hx' rfl hseen
  | inputPoll => exact hother rfl
  | generate model request => exact hother rfl
  | invokeTool tool call => exact hother rfl
  | prepare state model => exact hother rfl
  | countTokens messages model => exact hother rfl

/-- The events up to digests are read from what is seen. -/
lemma redacted_sentEvents_congr {tr tr' : TurnTrace}
    (h : tr.map traceView.exchange = tr'.map traceView.exchange) :
    (sentEvents tr).map PromptTraceEvent.redacted =
      (sentEvents tr').map PromptTraceEvent.redacted := by
  have hevent : (fun call => (sentEvent? call).map PromptTraceEvent.redacted) =
      fun call : TurnCall => call.seen.event? := by
    funext call
    cases call <;> rfl
  have hread (tr : TurnTrace) : (sentEvents tr).map PromptTraceEvent.redacted =
      (tr.map traceView.exchange).filterMap fun exchange => SeenCall.event? exchange.1 := by
    rw [sentEvents, List.map_filterMap, hevent, List.filterMap_map, List.filterMap_map]
    rfl
  rw [hread, hread, h]

/-- **Calls of `compile`** look alike. -/
lemma TurnPromptSession.compileAll_alike {session session' : TurnPromptSession}
    (hsession : session.Alike session') {calls calls' : List CompileCall}
    (hcalls : List.Forall₂ CompileCall.Alike calls calls') {remaining remaining' : ReminderState}
    (hremaining : remaining.Alike remaining') :
    (session.compileAll calls remaining).Alike traceView
      (fun o o' => o.1.map Except.isOk = o'.1.map Except.isOk)
      (session'.compileAll calls' remaining') := by
  induction hcalls generalizing remaining remaining' with
  | nil => exact .ret rfl
  | @cons call call' calls calls' hcall _ ih =>
    have hcompile := compile_alike hsession hcall.draft call.context call'.context call.modelRound
      call.budget remaining remaining' hremaining
    unfold compileAll
    rw [← hcall.modelRound, ← hcall.budget]
    refine hcompile.bind fun o o' ho => ?_
    refine (ih ho.2).bind fun os os' hos => .ret ?_
    rw [List.map_cons, List.map_cons, ho.1.isOk_eq, hos]

/-- **Traces reveal no text.** Take two runs of as many calls of `compile`, on sessions, remaining
reminders and arguments that differ in the contents of messages, instructions and reminders only.
If the replies of the sources differ in contents and in the texts of exceptions only, the token
counter returns the same, and the sink accepts the same of the events that are equal up to digests,
then the sink receives the same events up to digests, and the same calls raise. -/
theorem TurnPromptSession.traces_reveal_no_text {session session' : TurnPromptSession}
    (hsession : session.Alike session') {remaining remaining' : ReminderState}
    (hremaining : remaining.Alike remaining') {calls calls' : List CompileCall}
    (hcalls : List.Forall₂ CompileCall.Alike calls calls') {tr tr' : TurnTrace}
    {outcomes outcomes' : List (Except Failure CompiledPrompt)} {s s' : ReminderState}
    (hexec : Exec (session.compileAll calls remaining) tr (.ret (outcomes, s)))
    (hexec' : Exec (session'.compileAll calls' remaining') tr' (.ret (outcomes', s')))
    (hsources : AgreeOn TurnCall.toSource tr tr') (hcounter : AgreeOn TurnCall.toCounter tr tr')
    (hsink : AgreeOn TurnCall.toSink tr tr') :
    (sentEvents tr).map PromptTraceEvent.redacted =
        (sentEvents tr').map PromptTraceEvent.redacted ∧
      outcomes.map Except.isOk = outcomes'.map Except.isOk := by
  have hreplies := answeredAlike_of_agreeOn hsources hcounter hsink
  have halike := compileAll_alike hsession hcalls hremaining
  obtain ⟨hseen, houtcomes⟩ := hexec.alike halike hexec' hreplies
  exact ⟨redacted_sentEvents_congr hseen, houtcomes⟩

/-- A next-request reminder. -/
def noteReminder (text : String) : SystemReminder where
  content := [.text text]
  key := none
  scope := .nextRequest
  placement := .auto
  priority := 0
  content_ne := ContentBlock.text_ne_nil text
  keyed h := by cases h

/-- The state with this reminder. -/
def noteState (text : String) : ReminderState := .ofList [noteReminder text]

/-- The digests of the contents `(TextBlock(text='a'),)` and `(TextBlock(text='b'),)`. -/
def noteDigest : List ContentBlock → String
  | [.text text] =>
    if text = "a" then "61bdde77d690ca6081fa3e2279714c42fa364089e48c9b8bda67275f3e343655"
    else "d430c97462544b36ab11646d11c731a872d172400024e25648bc7d2881dd95e7"
  | _ => ""

/-- A session of this reminder, with some sources and a sink. -/
def noteSession (text : String) (sources : List ReminderSource) : TurnPromptSession :=
  ⟨(noteState text).reminders, ⟨noteDigest, fun _ => ""⟩, sources, true⟩

/-- A call over a history of this text. -/
def noteCall (text : String) (budget : Option RequestTokenBudget) : CompileCall where
  draft := plainConversation.draft
    ⟨[Message.user text, Message.user text], none, [1], by simp [Segments.Valid]⟩
  context := plainContext
  modelRound := 1
  budget := budget

lemma noteState_alike (text text' : String) : (noteState text).Alike (noteState text') := rfl

lemma noteSession_alike (text text' : String) (sources : List ReminderSource) :
    (noteSession text sources).Alike (noteSession text' sources) :=
  ⟨rfl, rfl, rfl⟩

lemma noteCall_alike (text text' : String) (budget : Option RequestTokenBudget) :
    (noteCall text budget).Alike (noteCall text' budget) :=
  ⟨⟨⟨rfl, rfl⟩, rfl, rfl, rfl⟩, rfl, rfl⟩

/-- The answers of a source with this text, of a counter that always counts two, and of a sink. -/
def noteAnswers (text : String) (sink : PromptTraceEvent → Except Exc TraceResult) :
    (call : TurnCall) → TurnReply call
  | .sourceId _ => .ok (.str "source")
  | .resolve _ _ => .ok (.items [.reminder (noteReminder text)])
  | .countRequest _ _ => .ok (.int 2)
  | .trace event => sink event
  | call => call.exit

/-- Replies that are answers look alike if the answers do. -/
lemma agreeOn_of_answers {kind : TurnCall → Bool}
    {answer answer' : (call : TurnCall) → TurnReply call} {tr tr' : TurnTrace}
    (h : Answers answer tr) (h' : Answers answer' tr')
    (halike : ∀ call call' : TurnCall, kind call = true → call.seen = call'.seen →
      call.seenReply (answer call) = call'.seenReply (answer' call')) : AgreeOn kind tr tr' := by
  intro i x x' hx hx' hkind hseen
  rw [h x (List.mem_of_getElem? hx), h' x' (List.mem_of_getElem? hx')]
  exact halike x.1 x'.1 hkind hseen

/-- The sources and the counter answer alike. -/
lemma noteAnswers_agree {text text' : String}
    {sink sink' : PromptTraceEvent → Except Exc TraceResult} {tr tr' : TurnTrace}
    (h : Answers (noteAnswers text sink) tr)
    (h' : Answers (noteAnswers text' sink') tr') :
    AgreeOn TurnCall.toSource tr tr' ∧ AgreeOn TurnCall.toCounter tr tr' := by
  constructor
  · refine agreeOn_of_answers h h' fun call call' hkind hseen => ?_
    cases call <;> cases hkind <;> cases call' <;> cases hseen <;> rfl
  · refine agreeOn_of_answers h h' fun call call' hkind hseen => ?_
    cases call <;> cases hkind
    cases call' <;> cases hseen
    rfl

/-- Two runs of two calls, of which the first exceeds its budget. -/
theorem TurnPromptSession.traces_reveal_no_text_notes : ∃ (tr tr' : TurnTrace)
    (outcomes outcomes' : List (Except Failure CompiledPrompt)) (s s' : ReminderState),
    Exec ((noteSession "a" [⟨.given 0⟩]).compileAll
      [noteCall "a" (some ⟨1, Nat.one_pos⟩), noteCall "a" none] (noteState "a")) tr
        (.ret (outcomes, s)) ∧
    Exec ((noteSession "b" [⟨.given 0⟩]).compileAll
      [noteCall "b" (some ⟨1, Nat.one_pos⟩), noteCall "b" none] (noteState "b")) tr'
        (.ret (outcomes', s')) ∧
    outcomes.map Except.isOk = [false, true] ∧
    (sentEvents tr).map PromptTraceEvent.redacted =
      (sentEvents tr').map PromptTraceEvent.redacted ∧
    outcomes.map Except.isOk = outcomes'.map Except.isOk := by
  have heval (text : String) (htext : text = "a" ∨ text = "b") :
      (((noteSession text [⟨.given 0⟩]).compileAll
        [noteCall text (some ⟨1, Nat.one_pos⟩), noteCall text none] (noteState text)).eval
          (noteAnswers text fun _ => .ok .none)).map (fun o => o.1.map Except.isOk) =
            some [false, true] := by
    rcases htext with rfl | rfl <;> decide +kernel
  obtain ⟨⟨outcomes, s⟩, hreturned, houtcomes⟩ :=
    Option.map_eq_some_iff.1 (heval "a" (.inl rfl))
  obtain ⟨⟨outcomes', s'⟩, hreturned', -⟩ := Option.map_eq_some_iff.1 (heval "b" (.inr rfl))
  obtain ⟨tr, hexec, hanswers⟩ := Prog.exec_of_eval hreturned
  obtain ⟨tr', hexec', hanswers'⟩ := Prog.exec_of_eval hreturned'
  obtain ⟨hsources, hcounter⟩ := noteAnswers_agree hanswers hanswers'
  have hsink : AgreeOn TurnCall.toSink tr tr' := by
    refine agreeOn_of_answers hanswers hanswers' fun call call' hkind hseen => ?_
    cases call <;> cases hkind
    cases call' <;> first | rfl | cases hseen
  refine ⟨tr, tr', outcomes, outcomes', s, s', hexec, hexec', houtcomes, ?_⟩
  exact traces_reveal_no_text (noteSession_alike "a" "b" _) (noteState_alike "a" "b")
    (.cons (noteCall_alike "a" "b" _) (.cons (noteCall_alike "a" "b" _) .nil)) hexec hexec'
    hsources hcounter hsink

/-- A sink that refuses one content. -/
def noteSink : PromptTraceEvent → Except Exc TraceResult
  | .promptCompiled _ _ _ _ _ _ hashes _ _ _ =>
    if hashes = ["d430c97462544b36ab11646d11c731a872d172400024e25648bc7d2881dd95e7"] then
      .error ⟨.given 0, .exception, "builtins.ValueError", ""⟩
    else .ok .none
  | _ => .ok .none

/-- A sink that looks at the digests tells the contents apart by raising. -/
theorem digest_reader_raises : ∃ (tr tr' : TurnTrace)
    (outcomes outcomes' : List (Except Failure CompiledPrompt)) (s s' : ReminderState),
    (noteSession "a" []).Alike (noteSession "b" []) ∧ (noteState "a").Alike (noteState "b") ∧
    (noteCall "a" none).Alike (noteCall "b" none) ∧
    Exec ((noteSession "a" []).compileAll [noteCall "a" none] (noteState "a")) tr
      (.ret (outcomes, s)) ∧
    Exec ((noteSession "b" []).compileAll [noteCall "b" none] (noteState "b")) tr'
      (.ret (outcomes', s')) ∧
    Answers (noteAnswers "a" noteSink) tr ∧ Answers (noteAnswers "b" noteSink) tr' ∧
    AgreeOn TurnCall.toSource tr tr' ∧ AgreeOn TurnCall.toCounter tr tr' ∧
    outcomes.map Except.isOk = [true] ∧ outcomes'.map Except.isOk = [false] := by
  have heval : (((noteSession "a" []).compileAll [noteCall "a" none] (noteState "a")).eval
      (noteAnswers "a" noteSink)).map (fun o => o.1.map Except.isOk) = some [true] := by
    decide +kernel
  have heval' : (((noteSession "b" []).compileAll [noteCall "b" none] (noteState "b")).eval
      (noteAnswers "b" noteSink)).map (fun o => o.1.map Except.isOk) = some [false] := by
    decide +kernel
  obtain ⟨⟨outcomes, s⟩, hreturned, houtcomes⟩ := Option.map_eq_some_iff.1 heval
  obtain ⟨⟨outcomes', s'⟩, hreturned', houtcomes'⟩ := Option.map_eq_some_iff.1 heval'
  obtain ⟨tr, hexec, hanswers⟩ := Prog.exec_of_eval hreturned
  obtain ⟨tr', hexec', hanswers'⟩ := Prog.exec_of_eval hreturned'
  obtain ⟨hsources, hcounter⟩ := noteAnswers_agree hanswers hanswers'
  exact ⟨tr, tr', outcomes, outcomes', s, s', noteSession_alike "a" "b" _,
    noteState_alike "a" "b", noteCall_alike "a" "b" _, hexec, hexec', hanswers, hanswers', hsources,
    hcounter, houtcomes, houtcomes'⟩

end PurrceptCore
