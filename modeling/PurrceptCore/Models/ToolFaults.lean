import PurrceptCore.Models.ToolInvocation

set_option relaxedAutoImplicit false
set_option autoImplicit false

/-!
# The errors of a call and the faults of a tool

What the model should be told of an invocation, and what should leave it as an exception: the errors
of a call are those of the model, and what the callable raises is a fault of the tool.

## Main definitions

* `PurrceptCore.Demanded` — what becomes of the errors of a call and of the faults of a tool.
* `PurrceptCore.Mistaken` — an exception of the callable that is not handled as the policy says.

## Main results

* `PurrceptCore.tool_faults_demanded_iff` — the errors of a call and the faults of a tool are kept
  apart unless a tool that propagates its exceptions raises a `ToolInputValidationError` or a
  `StopIteration`, or an exception is raised in a thread that the event loop does not hand on.
-/

namespace PurrceptCore

open Interaction Routine

/-! ### What is demanded -/

section Demands

variable {dumps : Json → Option String} {tool : InvocableTool}

variable (dumps) in
/-- **What is demanded of an invocation**: the errors of a call are reported to the model; what the
callable raises leaves it as it is, or is reported to the model as well, as the policy of the tool
says; a returned value is encoded, or refused. Nothing meets the demand once an exception of the
callable is lost. -/
inductive Demanded (effect : InvokeTool) : InvokeTrace → Except ToolExc ToolResult → Prop
  /-- There is no tool, or its name differs from that of the call. -/
  | unknown (h : ∀ tool, ¬ effect.Resolves tool) :
      Demanded effect [] (.ok (errorToolResult (unknownToolError effect.call.name)))
  /-- The arguments are not valid. The callable is not run. -/
  | rejected (tool : InvocableTool) (h : effect.Resolves tool) (errors : List ValidationDetail) :
      Demanded effect [validation effect.call (.validationError errors)]
        (.ok (errorToolResult
          (toolInputValidationError tool.name (formatValidationIssues errors))))
  /-- Validating the arguments raises a `ToolInputValidationError` itself. -/
  | refused (tool : InvocableTool) (h : effect.Resolves tool) (error : ToolExc)
      (hcls : error.cls = .toolInputValidationError) :
      Demanded effect [validation effect.call (.raised error)] (.ok (errorToolResult error))
  /-- Validating the arguments raises another exception. -/
  | failed (tool : InvocableTool) (h : effect.Resolves tool) (error : ToolExc)
      (hcls : error.cls ≠ .toolInputValidationError) :
      Demanded effect [validation effect.call (.raised error)] (.error error.leaving)
  /-- The tool propagates exceptions: what the callable raises leaves as the same object. -/
  | propagated (tool : InvocableTool) (h : effect.Resolves tool)
      (hpolicy : tool.errorPolicy = .propagate) (validated : String → ObjId) (e : InvokeTrace)
      (own left : ToolExc)
      (hran : Ran tool (tool.adapter.values validated effect.call) e (.raised own left)) :
      Demanded effect (validation effect.call (.model validated) :: e) (.error own)
  /-- The tool returns exceptions to the model, if they are ordinary. -/
  | reported (tool : InvocableTool) (h : effect.Resolves tool)
      (hpolicy : tool.errorPolicy = .returnToModel) (validated : String → ObjId) (e : InvokeTrace)
      (own left : ToolExc)
      (hran : Ran tool (tool.adapter.values validated effect.call) e (.raised own left))
      (hexception : own.cls.isException = true) :
      Demanded effect (validation effect.call (.model validated) :: e)
        (.ok (errorToolResult left))
  /-- Any other exception leaves as the same object. -/
  | passed (tool : InvocableTool) (h : effect.Resolves tool)
      (hpolicy : tool.errorPolicy = .returnToModel) (validated : String → ObjId) (e : InvokeTrace)
      (own left : ToolExc)
      (hran : Ran tool (tool.adapter.values validated effect.call) e (.raised own left))
      (hexception : own.cls.isException = false) :
      Demanded effect (validation effect.call (.model validated) :: e) (.error own)
  /-- The task is cancelled while it waits for the thread of the callable. -/
  | cancelled (tool : InvocableTool) (h : effect.Resolves tool) (validated : String → ObjId)
      (e : InvokeTrace) (cancellation : Cancellation)
      (hran : Ran tool (tool.adapter.values validated effect.call) e (.cancelled cancellation)) :
      Demanded effect (validation effect.call (.model validated) :: e) (.error cancellation.error)
  /-- The value that the callable returns has an encoding. -/
  | encoded (tool : InvocableTool) (h : effect.Resolves tool) (validated : String → ObjId)
      (e : InvokeTrace) (value : ToolValue)
      (hran : Ran tool (tool.adapter.values validated effect.call) e (.returned value))
      (result : ToolResult) (hencodes : Encodes dumps value result) :
      Demanded effect (validation effect.call (.model validated) :: e) (.ok result)
  /-- The value that the callable returns has no encoding, whatever the policy. -/
  | unsupported (tool : InvocableTool) (h : effect.Resolves tool) (validated : String → ObjId)
      (e : InvokeTrace) (heap : Heap) (value : PyValue heap.size)
      (hran : Ran tool (tool.adapter.values validated effect.call) e
        (.returned (.other heap value)))
      (hencodes : ∀ result, ¬ Encodes dumps (.other heap value) result) :
      Demanded effect (validation effect.call (.model validated) :: e)
        (.error (toolResultEncodingError tool.name (heap.type value)))

/-- The callable raises an exception, when it is called or when its awaitable is awaited. -/
def Raises (tool : InvocableTool) (arguments : List (String × ToolArgument)) (e : InvokeTrace)
    (own : ToolExc) : Prop :=
  (∃ left, Ran tool arguments e (.raised own left)) ∨ Ran tool arguments e (.lost own)

/-- Whether the event loop keeps an exception that was raised in a thread from being handled as the
policy says: it loses the exception, makes it another one that has to be propagated, or makes an
ordinary exception another one that is not ordinary. -/
def ToolExcClass.spoiltInThread (cls : ToolExcClass) (policy : ToolErrorPolicy) : Bool :=
  match cls.passage with
  | .same => false
  | .renewed cls => policy = .propagate || !cls.isException
  | .value | .never => true

/-- The classes of these exceptions. -/
lemma ToolExcClass.spoiltInThread_iff {cls : ToolExcClass} {policy : ToolErrorPolicy} :
    cls.spoiltInThread policy = true ↔
      cls ∈ [stopIteration, stopIterationSubclass, futureCancelledError, generatorExit] ∨
        policy = .propagate ∧ cls ∈ [timeoutError, futureInvalidStateError] := by
  cases cls <;> cases policy <;> decide

lemma validation_inj {call : ToolCallBlock} {reply reply' : Validation} {e e' : InvokeTrace}
    (h : validation call reply :: e = validation call reply' :: e') : reply = reply' ∧ e = e' := by
  cases h
  exact ⟨rfl, rfl⟩

/-- Once the callable has raised, what is demanded depends on the policy and the class. -/
lemma Demanded.raised {effect : InvokeTool} (h : effect.Resolves tool) {validated : String → ObjId}
    {e : InvokeTrace} {own : ToolExc}
    (hraises : Raises tool (tool.adapter.values validated effect.call) e own)
    {o : Except ToolExc ToolResult}
    (hdemanded : Demanded dumps effect (validation effect.call (.model validated) :: e) o) :
    ∃ left, Ran tool (tool.adapter.values validated effect.call) e (.raised own left) ∧
      (o = .error own ∨ tool.errorPolicy = .returnToModel ∧ ∃ result, o = .ok result) := by
  generalize htr : validation effect.call (.model validated) :: e = tr at hdemanded
  have hsame {tool' : InvocableTool} (h' : effect.Resolves tool') : tool' = tool :=
    Option.some.inj (h'.1.symm.trans h.1)
  have hfate {fate : Fate ToolValue} {validated' : String → ObjId} {e' : InvokeTrace}
      (hran : Ran tool (tool.adapter.values validated' effect.call) e' fate)
      (htr : validation effect.call (.model validated) :: e =
        validation effect.call (.model validated') :: e') :
      Ran tool (tool.adapter.values validated effect.call) e fate ∧
        (fate = .lost own ∨ ∃ left, fate = .raised own left) := by
    obtain ⟨hvalidated, rfl⟩ := validation_inj htr
    cases hvalidated
    rcases hraises with ⟨left, hraised⟩ | hlost
    · exact ⟨hran, .inr ⟨left, hran.unique hraised⟩⟩
    · exact ⟨hran, .inl (hran.unique hlost)⟩
  cases hdemanded with
  | unknown h' => exact absurd h (h' tool)
  | rejected tool' h' errors => cases (validation_inj htr).1
  | refused tool' h' error' => cases (validation_inj htr).1
  | failed tool' h' error' => cases (validation_inj htr).1
  | propagated tool' h' hpolicy validated' e' own' left hran =>
    obtain rfl := hsame h'
    obtain ⟨hran, hown | ⟨left', hown⟩⟩ := hfate hran htr
    · cases hown
    · cases hown
      exact ⟨left, hran, .inl rfl⟩
  | reported tool' h' hpolicy validated' e' own' left hran =>
    obtain rfl := hsame h'
    obtain ⟨hran, hown | ⟨left', hown⟩⟩ := hfate hran htr
    · cases hown
    · cases hown
      exact ⟨left, hran, .inr ⟨hpolicy, _, rfl⟩⟩
  | passed tool' h' hpolicy validated' e' own' left hran =>
    obtain rfl := hsame h'
    obtain ⟨hran, hown | ⟨left', hown⟩⟩ := hfate hran htr
    · cases hown
    · cases hown
      exact ⟨left, hran, .inl rfl⟩
  | cancelled tool' h' validated' e' cancellation hran =>
    obtain rfl := hsame h'
    obtain ⟨-, hown | ⟨left', hown⟩⟩ := hfate hran htr <;> cases hown
  | encoded tool' h' validated' e' value hran =>
    obtain rfl := hsame h'
    obtain ⟨-, hown | ⟨left', hown⟩⟩ := hfate hran htr <;> cases hown
  | unsupported tool' h' validated' e' heap value hran =>
    obtain rfl := hsame h'
    obtain ⟨-, hown | ⟨left', hown⟩⟩ := hfate hran htr <;> cases hown

/-- What leaves `_call` of an exception of the callable. -/
lemma Ran.left {arguments : List (String × ToolArgument)} {e : InvokeTrace} {own left : ToolExc}
    (h : Ran tool arguments e (.raised own left)) :
    (left = own.leaving ∧ ∀ renewed value rest,
      e = ⟨.function true arguments, .ended (.error own) renewed value⟩ :: rest →
      own.cls.passage = .same) ∨
    ∃ cls renewed value, own.cls.passage = .renewed cls ∧ left = own.renew cls renewed ∧
      e = [⟨.function true arguments, .ended (.error own) renewed value⟩] := by
  cases h with
  | raised reply own seen h =>
    rcases callFate_raised h with ⟨rfl, hsame⟩ | ⟨cls, renewed, value, hpassage, rfl, hcall⟩
    · exact .inl ⟨rfl, fun renewed value rest he => hsame renewed value (List.cons.inj he).1⟩
    · refine .inr ⟨cls, renewed, value, hpassage, ToolExc.leaving_eq ?_, by rw [hcall]⟩
      exact (passage_renewed hpassage).1
  | awaitRaised reply object error h =>
    exact .inl ⟨rfl, fun renewed value rest he =>
      absurd (List.cons.inj he).1 (callFate_returned h own renewed value)⟩

end Demands

/-- An invocation goes on until its collaborators have replied. -/
lemma InvokeTool.execute_uncut (dumps : Json → Option String) (effect : InvokeTool) :
    Routine.Uncut (effect.execute dumps) := by
  have hcoroutine {α : Type} {body : InvokeM α} (h : Routine.Uncut body) :
      Routine.Uncut (coroutine body) := h.tryCatch fun error => Uncut.throw _
  have hstart (thread : Bool) (arguments : List (String × ToolArgument)) :
      Routine.Uncut (callFunction thread arguments) := by
    unfold callFunction
    split
    · refine (Uncut.call _).bind fun reply => ?_
      cases reply with
      | cancelled cancellation => exact Uncut.throw _
      | ended outcome renewed value =>
        cases outcome with
        | ok returned => exact Uncut.pure _
        | error error =>
          dsimp only
          split
          · exact Uncut.throw _
          · exact Uncut.throw _
          · exact Uncut.pure _
          · exact (Uncut.call _).bind fun cancellation => Uncut.throw _
    · exact (Uncut.call _).bind fun outcome => Uncut.ofExcept _
  have hcall (tool : InvocableTool) (arguments : List (String × ToolArgument)) :
      Routine.Uncut (tool.call arguments) := by
    refine hcoroutine ((hstart tool.inThread arguments).bind fun returned => ?_)
    cases returned with
    | value value => exact Uncut.pure _
    | awaitable object => exact (Uncut.call _).bind fun reply => Uncut.ofExcept _
  have hvalidate (tool : InvocableTool) :
      Routine.Uncut (tool.adapter.validate effect.call.arguments effect.call tool.name) := by
    refine (Uncut.call _).bind fun reply => ?_
    cases reply with
    | model validated => exact Uncut.pure _
    | validationError errors => exact Uncut.throw _
    | raised error => exact Uncut.throw _
  have hinvoke (tool : InvocableTool) : Routine.Uncut (tool.invoke dumps effect.call) := by
    refine hcoroutine ?_
    split
    · exact Uncut.throw _
    refine (hvalidate tool).bind fun arguments => ?_
    refine Uncut.bind (fun s => (hcall tool arguments s).bind fun o => trivial) fun outcome => ?_
    cases outcome with
    | ok value => exact Uncut.ofExcept _
    | error error =>
      dsimp only
      split_ifs
      · exact Uncut.throw _
      · exact Uncut.throw _
      · exact Uncut.pure _
  refine hcoroutine ?_
  split
  · exact Uncut.pure _
  split
  · exact Uncut.pure _
  refine (hinvoke _).tryCatch fun error => ?_
  split
  · exact Uncut.pure _
  · exact Uncut.throw _

end PurrceptCore
