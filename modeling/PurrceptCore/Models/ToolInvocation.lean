import PurrceptCore.Interaction.Answers
import PurrceptCore.Models.Requests
import PurrceptCore.Models.ToolEncoding

set_option relaxedAutoImplicit false
set_option autoImplicit false

/-!
# Invoking a tool

`InvokeTool.execute` (`tools/effects.py`), `FunctionTool.invoke` and `_call` (`tools/function.py`),
`ArgumentAdapter.validate` (`tools/_schema.py`), and `asyncio.to_thread`, in which a synchronous
callable may run.

## Main definitions

* `PurrceptCore.InvokeCall`, `PurrceptCore.InvokeReply` — what an invocation asks of the Pydantic
  model of the tool, of its callable, and of an awaitable that the callable returns.
* `PurrceptCore.InvocableTool`, `PurrceptCore.InvokeTool` — a tool, as an invocation reads it, and
  the effect.
* `PurrceptCore.ToolExcClass.passage`, `PurrceptCore.toThread` — how the event loop hands on an
  exception that was raised in a thread.
* `PurrceptCore.InvokeTool.execute` — one invocation.
* `PurrceptCore.Ran`, `PurrceptCore.Fate` — how the callable is run, and what becomes of it.

## Main results

* `PurrceptCore.InvokeTool.execute_spec` — what an invocation does, for every behaviour of its
  collaborators.

## Design

* The reply of a call of the callable is its own outcome, also in a thread; a task that waits for
  the thread may be cancelled. A thread can be started. What becomes of an exception of the thread
  is the behaviour of CPython 3.11 and 3.12.
* What an awaitable comes to is what `await` raises in `_call`, but no future holds a
  `GeneratorExit`. The coroutine `execute` is awaited by another one.
* The error of the Pydantic model is its list of details; values that it has validated are objects
  of which only the identity is known.
-/

namespace PurrceptCore

open Interaction Routine

/-! ### The code -/

/-- `ToolErrorPolicy`. -/
inductive ToolErrorPolicy
  | propagate
  | returnToModel
  deriving DecidableEq, Repr

/-- `SyncToolPolicy`. -/
inductive SyncToolPolicy
  | inline
  | thread
  deriving DecidableEq, Repr

/-- The slots of an `ArgumentAdapter` beside its model and its schema. -/
structure ArgumentAdapter where
  parameterNames : List String
  contextParameter : Option String

/-- A `FunctionTool`, with the slots that an invocation reads; of its callable it is known whether
it is a coroutine function. -/
structure InvocableTool extends FunctionTool where
  isCoroutineFunction : Bool
  errorPolicy : ToolErrorPolicy
  syncPolicy : SyncToolPolicy
  adapter : ArgumentAdapter

/-- `InvokeTool`. -/
structure InvokeTool where
  tool : Option InvocableTool
  call : ToolCallBlock

/-- A keyword argument of the callable: a validated value, or the `ToolContext` of a call. -/
inductive ToolArgument
  | value (object : ObjId)
  | context (call : ToolCallBlock)

/-- A detail of a `ValidationError`. -/
structure ValidationDetail where
  loc : List Segment
  msg : String

/-- The calls of an invocation. -/
inductive InvokeCall
  /-- `self._model.model_validate(…)`. -/
  | modelValidate (arguments : PyTree)
  /-- `self.function(**arguments)`, in the event loop or in a thread. -/
  | function (thread : Bool) (arguments : List (String × ToolArgument))
  /-- `await value`. -/
  | await (awaitable : ObjId)
  /-- Waiting for a future that is never done. -/
  | never

/-- What the Pydantic model does: it returns a model with attributes, or raises. -/
inductive Validation
  | model (validated : String → ObjId)
  | validationError (errors : List ValidationDetail)
  | raised (error : ToolExc)

/-- What the callable returns. -/
inductive Returned
  | value (value : ToolValue)
  | awaitable (object : ObjId)

/-- The `asyncio.CancelledError` with which a task is cancelled. -/
structure Cancellation where
  id : ObjId
  text : String

/-- The exception object. -/
def Cancellation.error (cancellation : Cancellation) : ToolExc :=
  ⟨cancellation.id, .baseException, cancellation.text⟩

/-- What happens while a task waits for a thread: the callable ends, or the task is cancelled before
that. Of an exception of the callable are also given the text of the one that may replace it, and
the attribute `value` of a `StopIteration`. -/
inductive ThreadReply
  | ended (outcome : Except ToolExc Returned) (renewed : String) (value : Returned)
  | cancelled (cancellation : Cancellation)

/-- The replies to the calls of an invocation. -/
abbrev InvokeReply : InvokeCall → Type
  | .modelValidate _ => Validation
  | .function false _ => Except ToolExc Returned
  | .function true _ => ThreadReply
  | .await _ => Except ToolExc ToolValue
  | .never => Cancellation

/-- The calls of an invocation, with their replies. -/
abbrev InvokeTrace : Type := Trace InvokeCall InvokeReply

/-- Parts of an invocation. -/
abbrev InvokeM (α : Type) : Type := Routine Unit InvokeCall InvokeReply ToolExc α

/-- `issubclass(cls, StopIteration)`. -/
def ToolExcClass.isStopIteration : ToolExcClass → Bool
  | stopIteration | stopIterationSubclass => true
  | _ => false

/-- What leaves a coroutine when `error` is raised in it: a `StopIteration` does not. -/
def ToolExc.leaving (error : ToolExc) : ToolExc :=
  if error.cls.isStopIteration then
    ⟨.made 3, .runtimeError, "coroutine raised StopIteration"⟩
  else error

/-- The body of an `async def`. -/
def coroutine {α : Type} (body : InvokeM α) : InvokeM α :=
  tryCatch body fun error => throw error.leaving

/-- How an exception that was raised in a thread reaches the task that waits for the thread. -/
inductive Passage
  | same
  /-- As a new exception object. -/
  | renewed (cls : ToolExcClass)
  /-- The future of the thread is done with the attribute `value` of the exception. -/
  | value
  /-- The future of the thread refuses the exception, and is never done. -/
  | never
  deriving DecidableEq, Repr

/-- How exceptions of a class pass from a thread to `await asyncio.to_thread(…)`. The exceptions of
`concurrent.futures` are replaced by those of `asyncio`, and a `GeneratorExit` closes the coroutines
inside the task, each with an object of its own. -/
def ToolExcClass.passage : ToolExcClass → Passage
  | stopIteration => .never
  | stopIterationSubclass => .value
  | timeoutError => .renewed timeoutError
  | futureCancelledError => .renewed baseException
  | futureInvalidStateError => .renewed exception
  | generatorExit => .renewed generatorExit
  | unknownToolError | toolInputValidationError | toolResultEncodingError | runtimeError
  | exception | baseException => .same

/-- Another object. -/
def ObjId.another : ObjId → ObjId
  | given n => made n
  | made n => given n

/-- The new exception object that replaces `error`. -/
def ToolExc.renew (error : ToolExc) (cls : ToolExcClass) (text : String) : ToolExc :=
  ⟨error.id.another, cls, text⟩

/-- `await asyncio.to_thread(partial(self.function, **arguments))`. -/
def toThread (arguments : List (String × ToolArgument)) : InvokeM Returned := do
  let reply : ThreadReply ← Routine.call (InvokeCall.function true arguments)
  match reply with
  | .cancelled cancellation => throw cancellation.error
  | .ended (.ok returned) _ _ => return returned
  | .ended (.error error) renewed value =>
    match error.cls.passage with
    | .same => throw error
    | .renewed cls => throw (error.renew cls renewed)
    | .value => return value
    | .never =>
      let cancellation : Cancellation ← Routine.call InvokeCall.never
      throw cancellation.error

/-- `str(part)`. -/
def Segment.text : Segment → String
  | key name => name
  | index i => toString i

/-- `_format_validation_issues`. -/
def formatValidationIssues (errors : List ValidationDetail) : List String :=
  errors.map fun detail =>
    let location := ".".intercalate (detail.loc.map Segment.text)
    if location ≠ "" then location ++ ": " ++ detail.msg else detail.msg

/-- `dict(arguments)`. -/
def dictOf (arguments : JsonObject) : PyTree :=
  .dict (arguments.map fun field => (field.1, field.2.frozen))

/-- The keyword arguments: the validated parameters and the context. -/
def ArgumentAdapter.values (adapter : ArgumentAdapter) (validated : String → ObjId)
    (context : ToolCallBlock) : List (String × ToolArgument) :=
  let values := adapter.parameterNames.map fun name => (name, .value (validated name))
  match adapter.contextParameter with
  | some name => values ++ [(name, .context context)]
  | none => values

/-- `ArgumentAdapter.validate`. -/
def ArgumentAdapter.validate (adapter : ArgumentAdapter) (arguments : JsonObject)
    (context : ToolCallBlock) (toolName : NonEmptyString) :
    InvokeM (List (String × ToolArgument)) := do
  let validation : Validation ← Routine.call (InvokeCall.modelValidate (dictOf arguments))
  match validation with
  | .validationError errors =>
    throw (toolInputValidationError toolName (formatValidationIssues errors))
  | .raised error => throw error
  | .model validated => return adapter.values validated context

/-- `_call` up to what the callable has returned. -/
def callFunction (thread : Bool) (arguments : List (String × ToolArgument)) : InvokeM Returned :=
  if thread then toThread arguments
  else do Routine.ofExcept (← Routine.call (InvokeCall.function false arguments))

namespace InvocableTool

/-- Whether the callable runs in a thread. -/
def inThread (tool : InvocableTool) : Bool :=
  tool.syncPolicy = .thread && !tool.isCoroutineFunction

/-- `FunctionTool._call`. -/
def call (tool : InvocableTool) (arguments : List (String × ToolArgument)) : InvokeM ToolValue :=
  coroutine do
    match ← callFunction tool.inThread arguments with
    | .awaitable object => Routine.ofExcept (← Routine.call (.await object))
    | .value value => return value

/-- `FunctionTool.invoke`. -/
def invoke (dumps : Json → Option String) (tool : InvocableTool) (call : ToolCallBlock) :
    InvokeM ToolResult :=
  coroutine do
    if call.name ≠ tool.name then throw (unknownToolError call.name)
    else do
      let arguments ← tool.adapter.validate call.arguments call tool.name
      match ← Routine.attempt (tool.call arguments) with
      | .ok value => Routine.ofExcept (encodeToolResult dumps tool.name value)
      | .error error =>
        if !error.cls.isException then throw error
        else if tool.errorPolicy = .propagate then throw error
        else return errorToolResult error

end InvocableTool

/-- `InvokeTool.execute`. -/
def InvokeTool.execute (dumps : Json → Option String) (effect : InvokeTool) : InvokeM ToolResult :=
  coroutine do
    match effect.tool with
    | none => return errorToolResult (unknownToolError effect.call.name)
    | some tool =>
      if tool.name ≠ effect.call.name then
        return errorToolResult (unknownToolError effect.call.name)
      else
        tryCatch (tool.invoke dumps effect.call) fun error =>
          if error.cls = .toolInputValidationError then return errorToolResult error
          else throw error

/-! ### What the code does -/

/-- How a coroutine ends whose body ends with an outcome. -/
def leave {α : Type} : Except ToolExc α → Except ToolExc α
  | .ok a => .ok a
  | .error error => .error error.leaving

/-- What has left a coroutine leaves another one. -/
lemma ToolExc.leaving_eq {error : ToolExc} (h : error.cls.isStopIteration = false) :
    error.leaving = error :=
  if_neg (by rw [h]; decide)

@[simp] lemma ToolExc.leaving_cls (error : ToolExc) :
    error.leaving.cls.isStopIteration = false := by
  unfold leaving
  split
  · rfl
  · next h => exact Bool.not_eq_true _ ▸ h

/-- A new exception is neither the end of an iteration nor a rejection, and ordinary only if the one
that it replaces is. -/
lemma passage_renewed {cls cls' : ToolExcClass} (h : cls.passage = .renewed cls') :
    cls'.isStopIteration = false ∧ cls' ≠ .toolInputValidationError ∧
      (cls'.isException = true → cls.isException = true) := by
  cases cls <;> cases h <;> decide

/-- The rule for the body of a coroutine. -/
lemma coroutine_spec {α : Type} {allow : InvokeCall → Prop} {body : InvokeM α}
    {P Q : Except ToolExc α → Unit → InvokeTrace → Prop} (hbody : Spec allow body () P)
    (h : ∀ o s e, P o s e → Q (leave o) s e) : Spec allow (coroutine body) () Q := by
  refine hbody.tryCatch (fun a s e hP => h (.ok a) s e hP) fun error s e hP => ?_
  refine Spec.throw ?_
  rw [List.append_nil]
  exact h (.error error) s e hP

/-- **What becomes of a computation**: it returns, it raises, an exception of it is lost in the
event loop, or the task is cancelled that waits for it. -/
inductive Fate (α : Type)
  | returned (a : α)
  /-- It raises `own`, and what reaches the caller is `left`. -/
  | raised (own left : ToolExc)
  /-- It raises `own`, which does not reach the caller as an exception. -/
  | lost (own : ToolExc)
  | cancelled (cancellation : Cancellation)

/-- What the caller sees: nothing is known of it when an exception is lost. -/
def Fate.Shows {α : Type} (o : Except ToolExc α) : Fate α → Prop
  | returned a => o = .ok a
  | raised _ left => o = .error left
  | lost _ => True
  | cancelled cancellation => o = .error cancellation.error

/-- What becomes of the call of a callable that has ended in a thread. -/
def threadFate (renewed : String) : Except ToolExc Returned → Fate Returned
  | .ok returned => .returned returned
  | .error error =>
    match error.cls.passage with
    | .same => .raised error error
    | .renewed cls => .raised error (error.renew cls renewed)
    | .value | .never => .lost error

/-- **What becomes of the call of the callable**, in the event loop or in a thread. -/
def callFate {arguments : List (String × ToolArgument)} :
    (thread : Bool) → InvokeReply (.function thread arguments) → Fate Returned
  | false, .ok returned => .returned returned
  | false, .error error => .raised error error
  | true, .ended outcome renewed _ => threadFate renewed outcome
  | true, .cancelled cancellation => .cancelled cancellation

/-- A part of an invocation that only waits: no callable is called in it. -/
def OnlyWaits (e : InvokeTrace) : Prop :=
  ∀ call ∈ e, (∃ object, call.1 = .await object) ∨ call.1 = .never

/-- **How the callable is run**: what it is called with, and what becomes of it. -/
inductive Ran (tool : InvocableTool) (arguments : List (String × ToolArgument)) :
    InvokeTrace → Fate ToolValue → Prop
  | raised (reply : InvokeReply (.function tool.inThread arguments)) (own seen : ToolExc)
      (h : callFate tool.inThread reply = .raised own seen) :
      Ran tool arguments [⟨.function tool.inThread arguments, reply⟩] (.raised own seen.leaving)
  | returned (reply : InvokeReply (.function tool.inThread arguments)) (value : ToolValue)
      (h : callFate tool.inThread reply = .returned (.value value)) :
      Ran tool arguments [⟨.function tool.inThread arguments, reply⟩] (.returned value)
  | awaited (reply : InvokeReply (.function tool.inThread arguments)) (object : ObjId)
      (value : ToolValue) (h : callFate tool.inThread reply = .returned (.awaitable object)) :
      Ran tool arguments [⟨.function tool.inThread arguments, reply⟩, ⟨.await object, .ok value⟩]
        (.returned value)
  | awaitRaised (reply : InvokeReply (.function tool.inThread arguments)) (object : ObjId)
      (error : ToolExc) (h : callFate tool.inThread reply = .returned (.awaitable object)) :
      Ran tool arguments [⟨.function tool.inThread arguments, reply⟩, ⟨.await object, .error error⟩]
        (.raised error error.leaving)
  | lost (reply : InvokeReply (.function tool.inThread arguments)) (own : ToolExc)
      (h : callFate tool.inThread reply = .lost own) (rest : InvokeTrace) (hrest : OnlyWaits rest) :
      Ran tool arguments (⟨.function tool.inThread arguments, reply⟩ :: rest) (.lost own)
  | cancelled (reply : InvokeReply (.function tool.inThread arguments))
      (cancellation : Cancellation)
      (h : callFate tool.inThread reply = .cancelled cancellation) :
      Ran tool arguments [⟨.function tool.inThread arguments, reply⟩] (.cancelled cancellation)

section Running

variable {tool : InvocableTool} {arguments : List (String × ToolArgument)}

/-- A callable that is run once has one fate. -/
lemma Ran.unique {e : InvokeTrace} {fate fate' : Fate ToolValue} (h : Ran tool arguments e fate)
    (h' : Ran tool arguments e fate') : fate = fate' := by
  cases h with
  | raised reply own seen h =>
    cases h' with
    | raised _ _ _ h' => cases h.symm.trans h'; rfl
    | returned _ _ h' | lost _ _ h' | cancelled _ _ h' => cases h.symm.trans h'
  | returned reply value h =>
    cases h' with
    | returned _ _ h' => cases h.symm.trans h'; rfl
    | raised _ _ _ h' | lost _ _ h' | cancelled _ _ h' => cases h.symm.trans h'
  | awaited reply object value h =>
    cases h' with
    | awaited => rfl
    | lost _ _ h' => cases h.symm.trans h'
  | awaitRaised reply object error h =>
    cases h' with
    | awaitRaised => rfl
    | lost _ _ h' => cases h.symm.trans h'
  | lost reply own h =>
    cases h' with
    | lost _ _ h' => cases h.symm.trans h'; rfl
    | raised _ _ _ h' | returned _ _ h' | awaited _ _ _ h' | awaitRaised _ _ _ h'
    | cancelled _ _ h' => cases h.symm.trans h'
  | cancelled reply cancellation h =>
    cases h' with
    | cancelled _ _ h' => cases h.symm.trans h'; rfl
    | raised _ _ _ h' | returned _ _ h' | lost _ _ h' => cases h.symm.trans h'

/-- Where an exception of the callable comes from, and as what it reaches `_call`. -/
lemma callFate_raised {thread : Bool} {reply : InvokeReply (.function thread arguments)}
    {own seen : ToolExc} (h : callFate thread reply = .raised own seen) :
    (seen = own ∧ ∀ renewed value, (⟨.function thread arguments, reply⟩ : Σ c, InvokeReply c) =
        ⟨.function true arguments, .ended (.error own) renewed value⟩ → own.cls.passage = .same) ∨
      ∃ cls renewed value, own.cls.passage = .renewed cls ∧ seen = own.renew cls renewed ∧
        (⟨.function thread arguments, reply⟩ : Σ c, InvokeReply c) =
          ⟨.function true arguments, .ended (.error own) renewed value⟩ := by
  cases thread with
  | false =>
    cases reply with
    | ok returned => cases h
    | error error =>
      cases h
      exact .inl ⟨rfl, fun _ _ hcall => (by cases hcall)⟩
  | true =>
    cases reply with
    | cancelled cancellation => cases h
    | ended outcome renewed value =>
      cases outcome with
      | ok returned => cases h
      | error error =>
        simp only [callFate, threadFate] at h
        split at h
        · next hpassage =>
          cases h
          exact .inl ⟨rfl, fun _ _ _ => hpassage⟩
        · next cls hpassage =>
          cases h
          exact .inr ⟨cls, renewed, value, hpassage, rfl, rfl⟩
        · cases h
        · cases h

/-- A callable that has returned has not raised in a thread. -/
lemma callFate_returned {thread : Bool} {reply : InvokeReply (.function thread arguments)}
    {returned : Returned} (h : callFate thread reply = .returned returned) (own : ToolExc)
    (renewed : String) (value : Returned) :
    (⟨.function thread arguments, reply⟩ : Σ c, InvokeReply c) ≠
      ⟨.function true arguments, .ended (.error own) renewed value⟩ := by
  intro hcall
  cases hcall
  simp only [callFate, threadFate] at h
  split at h <;> cases h

/-- The specification of `callFunction`: only a lost exception may be followed by another wait. -/
lemma callFunction_spec (thread : Bool) :
    Spec (fun _ => True) (callFunction thread arguments) () fun o _ e => ∃ reply rest,
      e = ⟨.function thread arguments, reply⟩ :: rest ∧ (callFate thread reply).Shows o ∧
        OnlyWaits rest ∧ ((∀ own, callFate thread reply ≠ .lost own) → rest = []) := by
  have hwaits : OnlyWaits [] := List.forall_mem_nil _
  cases thread with
  | false =>
    refine Spec.call_bind (c := InvokeCall.function false arguments) trivial fun outcome => ?_
    cases outcome with
    | ok returned => exact ⟨.ok returned, [], rfl, rfl, hwaits, fun _ => rfl⟩
    | error error => exact ⟨.error error, [], rfl, rfl, hwaits, fun _ => rfl⟩
  | true =>
    refine Spec.call_bind (c := InvokeCall.function true arguments) trivial fun reply => ?_
    cases reply with
    | cancelled cancellation => exact ⟨.cancelled cancellation, [], rfl, rfl, hwaits, fun _ => rfl⟩
    | ended outcome renewed value =>
      cases outcome with
      | ok returned =>
        exact ⟨.ended (.ok returned) renewed value, [], rfl, rfl, hwaits, fun _ => rfl⟩
      | error error =>
        have hfate : @callFate arguments true (.ended (.error error) renewed value) =
          threadFate renewed (.error error) := rfl
        dsimp only
        split
        · next hpassage =>
          refine ⟨.ended (.error error) renewed value, [], rfl, ?_, hwaits, fun _ => rfl⟩
          simp only [hfate, threadFate, hpassage]
          rfl
        · next cls hpassage =>
          refine ⟨.ended (.error error) renewed value, [], rfl, ?_, hwaits, fun _ => rfl⟩
          simp only [hfate, threadFate, hpassage]
          rfl
        · next hpassage =>
          refine ⟨.ended (.error error) renewed value, [], rfl, ?_, hwaits, fun _ => rfl⟩
          simp only [hfate, threadFate, hpassage]
          trivial
        · next hpassage =>
          refine Spec.call_bind (c := InvokeCall.never) trivial fun cancellation => ?_
          have hlost : threadFate renewed (.error error) = .lost error := by
            simp only [threadFate, hpassage]
          refine ⟨.ended (.error error) renewed value, [⟨.never, cancellation⟩], rfl, ?_, ?_, ?_⟩
          · rw [hfate, hlost]
            trivial
          · exact List.forall_mem_singleton.2 (.inr rfl)
          · exact fun hnot => absurd (hfate.trans hlost) (hnot error)

/-- The callable is run, and what it raises leaves `_call`. -/
lemma InvocableTool.call_spec :
    Spec (fun _ => True) (tool.call arguments) () fun o _ e => ∃ fate outcome,
      Ran tool arguments e fate ∧ o = leave outcome ∧ fate.Shows o := by
  have hbody : Spec (fun _ => True)
      (do match ← callFunction tool.inThread arguments with
        | .awaitable object => Routine.ofExcept (← Routine.call (InvokeCall.await object))
        | .value value => return value) ()
      fun o _ e => ∃ fate, Ran tool arguments e fate ∧ fate.Shows (leave o) := by
    refine (callFunction_spec tool.inThread).bind ?_ ?_
    · rintro returned _ _ ⟨reply, rest, rfl, hshows, hwaits, hrest⟩
      cases hfate : callFate tool.inThread reply with
      | returned returned' =>
        rw [hfate] at hshows hrest
        cases hshows
        cases hrest fun _ h => (by cases h)
        cases returned with
        | value value => exact Spec.pure ⟨_, .returned reply value hfate, rfl⟩
        | awaitable object =>
          refine Spec.call_bind (c := InvokeCall.await object) trivial fun outcome => ?_
          refine Spec.ofExcept ?_
          cases outcome with
          | ok value => exact ⟨_, .awaited reply object value hfate, rfl⟩
          | error error => exact ⟨_, .awaitRaised reply object error hfate, rfl⟩
      | raised own seen =>
        rw [hfate] at hshows
        cases hshows
      | lost own =>
        cases returned with
        | value value =>
          refine Spec.pure ?_
          rw [List.append_nil]
          exact ⟨_, .lost reply own hfate rest hwaits, trivial⟩
        | awaitable object =>
          refine Spec.call_bind (c := InvokeCall.await object) trivial fun outcome => ?_
          refine Spec.ofExcept ⟨_, .lost reply own hfate _ ?_, trivial⟩
          exact List.forall_mem_append.2
            ⟨hwaits, List.forall_mem_singleton.2 (.inl ⟨object, rfl⟩)⟩
      | cancelled cancellation =>
        rw [hfate] at hshows
        cases hshows
    · rintro error _ _ ⟨reply, rest, rfl, hshows, hwaits, hrest⟩
      cases hfate : callFate tool.inThread reply with
      | returned returned =>
        rw [hfate] at hshows
        cases hshows
      | raised own seen =>
        rw [hfate] at hshows hrest
        cases hshows
        cases hrest fun _ h => (by cases h)
        exact ⟨_, .raised reply own error hfate, rfl⟩
      | lost own => exact ⟨_, .lost reply own hfate rest hwaits, trivial⟩
      | cancelled cancellation =>
        rw [hfate] at hshows hrest
        cases hshows
        cases hrest fun _ h => (by cases h)
        exact ⟨_, .cancelled reply cancellation hfate, rfl⟩
  refine coroutine_spec hbody fun o s e h => ?_
  obtain ⟨fate, hran, hshows⟩ := h
  exact ⟨fate, o, hran, rfl, hshows⟩

end Running

section Invocations

variable (dumps : Json → Option String) (tool : InvocableTool)

/-- What an invocation makes of the outcome of `_call`. -/
def followPolicy : Except ToolExc ToolValue → Except ToolExc ToolResult
  | .ok value => encodeToolResult dumps tool.name value
  | .error error =>
    if !error.cls.isException then .error error
    else if tool.errorPolicy = .propagate then .error error
    else .ok (errorToolResult error)

/-- The call of the Pydantic model, with its reply. -/
def validation (call : ToolCallBlock) (reply : Validation) : Σ c, InvokeReply c :=
  ⟨.modelValidate (dictOf call.arguments), reply⟩

/-- **What `FunctionTool.invoke` does** with a call of its name. -/
inductive Invokes (call : ToolCallBlock) : InvokeTrace → Except ToolExc ToolResult → Prop
  | rejected (errors : List ValidationDetail) :
      Invokes call [validation call (.validationError errors)]
        (.error (toolInputValidationError tool.name (formatValidationIssues errors)))
  | failed (error : ToolExc) :
      Invokes call [validation call (.raised error)] (.error error.leaving)
  | ran (validated : String → ObjId) (e : InvokeTrace) (fate : Fate ToolValue)
      (outcome : Except ToolExc ToolValue)
      (h : Ran tool (tool.adapter.values validated call) e fate)
      (hshows : fate.Shows (leave outcome)) :
      Invokes call (validation call (.model validated) :: e)
        (followPolicy dumps tool (leave outcome))

variable {dumps tool}

lemma leave_followPolicy (outcome : Except ToolExc ToolValue) :
    leave (followPolicy dumps tool (leave outcome)) = followPolicy dumps tool (leave outcome) := by
  cases outcome with
  | error error =>
    have hleaving := ToolExc.leaving_eq error.leaving_cls
    show leave (followPolicy dumps tool (.error error.leaving)) =
      followPolicy dumps tool (.error error.leaving)
    unfold followPolicy
    dsimp only
    split_ifs
    · exact congrArg Except.error hleaving
    · exact congrArg Except.error hleaving
    · rfl
  | ok value =>
    show leave (encodeToolResult dumps tool.name value) = encodeToolResult dumps tool.name value
    cases hvalue : encodeToolResult dumps tool.name value with
    | ok result => rfl
    | error error =>
      obtain ⟨heap, v, -, rfl⟩ := encodeToolResult_error hvalue
      rfl

/-- How validating the arguments of a call ends. -/
def Validation.outcome (tool : InvocableTool) (call : ToolCallBlock) :
    Validation → Except ToolExc (List (String × ToolArgument))
  | model validated => .ok (tool.adapter.values validated call)
  | validationError errors =>
    .error (toolInputValidationError tool.name (formatValidationIssues errors))
  | raised error => .error error

/-- The specification of `ArgumentAdapter.validate`. -/
lemma ArgumentAdapter.validate_spec (call : ToolCallBlock) :
    Spec (fun _ => True) (tool.adapter.validate call.arguments call tool.name) () fun o _ e =>
      ∃ reply, e = [validation call reply] ∧ o = reply.outcome tool call := by
  refine Spec.call_bind (c := InvokeCall.modelValidate _) trivial fun reply => ?_
  cases reply with
  | model validated => exact ⟨.model validated, rfl, rfl⟩
  | validationError errors => exact ⟨.validationError errors, rfl, rfl⟩
  | raised error => exact ⟨.raised error, rfl, rfl⟩

/-- The specification of `FunctionTool.invoke`. -/
lemma InvocableTool.invoke_spec {call : ToolCallBlock} (hname : tool.name = call.name) :
    Spec (fun _ => True) (tool.invoke dumps call) () fun o _ e =>
      Invokes dumps tool call e o := by
  refine @coroutine_spec _ _ _ (fun o _ e => Invokes dumps tool call e (leave o)) _ ?_
    fun o s e h => h
  rw [if_neg (not_not.2 hname.symm)]
  refine (ArgumentAdapter.validate_spec call).bind ?_ ?_
  · rintro arguments s _ ⟨reply, rfl, hreply⟩
    cases reply with
    | validationError errors => cases hreply
    | raised error => cases hreply
    | model validated =>
      cases hreply
      refine Spec.bind (P := fun o _ e => ∃ fate outcome,
        Ran tool (tool.adapter.values validated call) e fate ∧ o = .ok (leave outcome) ∧
          fate.Shows (leave outcome)) ?_ ?_ ?_
      · refine (call_spec.mono ?_).attempt
        rintro o s e ⟨fate, outcome, hran, rfl, hshows⟩
        exact ⟨fate, outcome, hran, rfl, hshows⟩
      · rintro o s e ⟨fate, outcome, hran, ho, hshows⟩
        cases ho
        have hinvokes := @Invokes.ran dumps tool call validated e fate outcome hran hshows
        rw [← leave_followPolicy, ← List.append_nil e] at hinvokes
        cases houtcome : leave outcome with
        | ok value =>
          rw [houtcome] at hinvokes
          exact Spec.ofExcept hinvokes
        | error error =>
          rw [houtcome] at hinvokes
          unfold followPolicy at hinvokes
          dsimp only at hinvokes ⊢
          split_ifs at hinvokes ⊢
          · exact Spec.throw hinvokes
          · exact Spec.throw hinvokes
          · exact Spec.pure hinvokes
      · rintro error s e ⟨fate, outcome, -, ho, -⟩
        cases ho
  · rintro error s _ ⟨reply, rfl, hreply⟩
    cases reply with
    | model validated => cases hreply
    | validationError errors =>
      cases hreply
      exact .rejected errors
    | raised error =>
      cases hreply
      exact .failed error

/-- What `execute` makes of the outcome of `invoke`. -/
def reportRejection : Except ToolExc ToolResult → Except ToolExc ToolResult
  | .ok result => .ok result
  | .error error =>
    if error.cls = .toolInputValidationError then .ok (errorToolResult error)
    else .error error.leaving

/-- The tool that a call is resolved to: it is not missing and its name is that of the call. -/
def InvokeTool.Resolves (effect : InvokeTool) (tool : InvocableTool) : Prop :=
  effect.tool = some tool ∧ tool.name = effect.call.name

variable (dumps) in
/-- **The specification of `InvokeTool.execute`.** -/
theorem InvokeTool.execute_spec (effect : InvokeTool) :
    Spec (fun _ => True) (effect.execute dumps) () fun o _ e =>
      ((∀ tool, ¬ effect.Resolves tool) ∧ e = [] ∧
        o = .ok (errorToolResult (unknownToolError effect.call.name))) ∨
      ∃ tool o', effect.Resolves tool ∧ Invokes dumps tool effect.call e o' ∧
        o = reportRejection o' := by
  refine coroutine_spec ?_ fun o s e h => h
  unfold Resolves
  cases htool : effect.tool with
  | none =>
    refine Spec.pure (.inl ⟨?_, rfl, rfl⟩)
    rintro tool ⟨h, -⟩
    cases h
  | some tool =>
    dsimp only
    by_cases hname : tool.name = effect.call.name
    · rw [if_neg (not_not.2 hname)]
      refine (InvocableTool.invoke_spec hname).tryCatch ?_ ?_
      · intro result s e hinvokes
        exact .inr ⟨tool, .ok result, ⟨rfl, hname⟩, hinvokes, rfl⟩
      · intro error s e hinvokes
        rw [← List.append_nil e] at hinvokes
        split_ifs with hcls
        · refine Spec.pure (.inr ⟨tool, .error error, ⟨rfl, hname⟩, hinvokes, ?_⟩)
          exact (if_pos hcls).symm
        · refine Spec.throw (.inr ⟨tool, .error error, ⟨rfl, hname⟩, hinvokes, ?_⟩)
          exact (if_neg hcls).symm
    · rw [if_pos hname]
      refine Spec.pure (.inl ⟨?_, rfl, rfl⟩)
      rintro tool' ⟨h, hname'⟩
      cases h
      exact hname hname'

end Invocations

end PurrceptCore
