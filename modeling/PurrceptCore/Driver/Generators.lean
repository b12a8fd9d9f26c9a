import PurrceptCore.Driver.Run
import PurrceptCore.Interaction.Answers
import PurrceptCore.Interaction.LabelledRun

set_option relaxedAutoImplicit false
set_option autoImplicit false

/-!
# Generator objects behind the adapter

A generator object of Python, with a body that may do anything when it is resumed, and the runs of a
`GeneratorRun` over it: any finite sequence of calls of `start`, `send`, `throw` and `close`.

## Main definitions

* `PurrceptCore.GeneratorBody`, `PurrceptCore.Generator` — the code of a generator, and a generator
  object; `PurrceptCore.Generator.reply` is what the object does when it is called.
* `PurrceptCore.RunOp`, `PurrceptCore.RunOp.method` — the methods of `GeneratorRun`.
* `PurrceptCore.Adapted`, `PurrceptCore.Adapted.Step` — an adapter with its generator, and one call
  of a method.

## Main results

* `PurrceptCore.RunOp.performed` — what one call of a method does.
* `PurrceptCore.Adapted.exists_run` — every sequence of calls can be made.

## Design

* A frame contains whatever the body may read, so that the body is a function of its frame and of
  the way it is resumed.
* Methods are called from outside the generator: the body does not call its own adapter.
* A `StopIteration` that is thrown into a generator that has ended carries no value. The adapter
  throws nothing into such a generator.
-/

namespace PurrceptCore

open Interaction

variable {S V E : Type}

/-! ### Generator objects -/

/-- How the body of a generator is resumed. -/
inductive Resumption (V : Type)
  /-- It is entered. -/
  | enter
  /-- The yield has a value. -/
  | value (value : V)
  /-- The yield raises an exception that was thrown in. -/
  | error (error : Exc)
  /-- The yield raises `GeneratorExit`, for `close`. -/
  | exit

/-- What the body of a generator does until it hands control back. -/
inductive BodyStep (S V E : Type)
  | yields (effect : E) (frame : S)
  | returns (value : V)
  | raises (error : Exc)
  /-- It raises an instance of `GeneratorExit`. -/
  | exits (error : Exc)

/-- The code of a generator: what it does in each of its frames. -/
abbrev GeneratorBody (S V E : Type) : Type := S → Resumption V → BodyStep S V E

/-- A generator object. -/
inductive Generator (S : Type)
  | created (frame : S)
  | suspended (frame : S)
  | finished

/-- The exception that leaves a generator when `error` is raised in its body. -/
def Exc.leavingGenerator (error : Exc) : Exc := error.leaving "generator" (.made 1)

/-- What `next`, `send` and `throw` make of a step of the body. -/
def BodyStep.settle : BodyStep S V E → GenStep V E × Generator S
  | yields effect frame => (.yielded effect, .suspended frame)
  | returns value => (.stopIteration value, .finished)
  | raises error | exits error => (.raised error.leavingGenerator, .finished)

/-- The error of a generator that yields again when it is closed. -/
def ignoredExit : Exc :=
  ⟨.made 0, .exception, "builtins.RuntimeError", "generator ignored GeneratorExit"⟩

/-- What `close` makes of a step of the body: a generator that yields again stays suspended. -/
def BodyStep.settleExit : BodyStep S V E → Except Exc Unit × Generator S
  | yields _ frame => (.error ignoredExit, .suspended frame)
  | raises error => (.error error.leavingGenerator, .finished)
  | returns _ | exits _ => (.ok (), .finished)

section Reply

variable [DecidableEq V] (none : V) (body : GeneratorBody S V E)

/-- The reply of a generator object to a call, and the object afterwards; `none` is `None`. -/
def Generator.reply : Generator S → (c : GenCall V) → GenReply V E c × Generator S
  | created frame, .next => (body frame .enter).settle
  | created frame, .send value =>
    if value = none then (body frame .enter).settle
    else (.raised (typeError 0 "can't send non-None value to a just-started generator"),
      created frame)
  | created _, .throw error => (.raised error.leavingGenerator, finished)
  | created _, .close => (.ok (), finished)
  | suspended frame, .next => (body frame (.value none)).settle
  | suspended frame, .send value => (body frame (.value value)).settle
  | suspended frame, .throw error => (body frame (.error error)).settle
  | suspended frame, .close => (body frame .exit).settleExit
  | finished, .next | finished, .send _ => (.stopIteration none, finished)
  | finished, .throw error =>
    -- nothing is raised in the body any more, so that a `StopIteration` stays what it is
    if error.cls = .stopIteration then (.stopIteration none, finished)
    else (.raised error, finished)
  | finished, .close => (.ok (), finished)

end Reply

/-! ### The methods of the adapter -/

/-- A call of a method of `GeneratorRun`. -/
inductive RunOp (V : Type)
  | start
  | send (value : V)
  | throw (error : Exc)
  | close

/-- The method. It returns a run state, or `None`. -/
def RunOp.method : RunOp V → GeneratorRun.Method V E (Option (RunState V E))
  | start => do return some (← GeneratorRun.start)
  | send value => do return some (← GeneratorRun.send value)
  | throw error => do return some (← GeneratorRun.throw error)
  | close => do
    GeneratorRun.close
    return none

/-- The state that a method asks for, with what it says that it does. -/
def RunOp.required : RunOp V → Option (GeneratorRunState × String)
  | start => some (.created, "start")
  | send _ => some (.running, "send a value to")
  | throw _ => some (.running, "throw an error into")
  | close => none

/-- A run that has not ended can be closed. -/
lemma GeneratorRunState.created_or_running {state : GeneratorRunState}
    (h : ¬ (state = .closed ∨ state = .returned)) : state = .created ∨ state = .running := by
  cases state with
  | created => exact .inl rfl
  | running => exact .inr rfl
  | returned => exact absurd (.inr rfl) h
  | closed => exact absurd (.inl rfl) h

/-- The error of a call in the wrong state. -/
def wrongState (operation : String) (state expected : GeneratorRunState) : Exc :=
  invalidRunStateError 0 ("Cannot " ++ operation ++ " GeneratorRun while it is in " ++
    state.value ++ " state; expected " ++ expected.value ++ ".")

/-- The state that `_advance` records. -/
def GenStep.recorded : GenStep V E → GeneratorRunState
  | yielded _ => .running
  | stopIteration _ => .returned
  | raised _ => .closed

/-- What `_advance` returns or raises. -/
def GenStep.outcome : GenStep V E → Except Exc (RunState V E)
  | yielded effect => .ok (.yielded effect)
  | stopIteration value => .ok (.returned value)
  | raised error => .error error

/-- The outcome of a method. -/
abbrev RunOutcome (V E : Type) : Type := Except Exc (Option (RunState V E))

/-- The calls that a generator has received, with its replies. -/
abbrev GenTrace (V E : Type) : Type := Trace (GenCall V) (GenReply V E)

/-- What a call of a method does in a state: its outcome, what the generator receives, and the state
that is recorded. -/
inductive Performed : GeneratorRunState → RunOp V → RunOutcome V E → GenTrace V E →
    GeneratorRunState → Prop
  | rejected (state : GeneratorRunState) (op : RunOp V) (expected : GeneratorRunState)
      (operation : String) (h : op.required = some (expected, operation)) (hne : state ≠ expected) :
      Performed state op (.error (wrongState operation state expected)) [] state
  | started (step : GenStep V E) :
      Performed .created .start (step.outcome.map some) [⟨.next, step⟩] step.recorded
  | sent (value : V) (step : GenStep V E) :
      Performed .running (.send value) (step.outcome.map some) [⟨.send value, step⟩] step.recorded
  | thrown (error : Exc) (step : GenStep V E) :
      Performed .running (.throw error) (step.outcome.map some) [⟨.throw error, step⟩] step.recorded
  | ended (state : GeneratorRunState) (h : state = .closed ∨ state = .returned) :
      Performed state .close (.ok none) [] state
  | closed (state : GeneratorRunState) (h : state = .created ∨ state = .running)
      (reply : Except Exc Unit) :
      Performed state .close (reply.map fun _ => none) [⟨.close, reply⟩] .closed

section Methods

open Routine

variable {state state' expected : GeneratorRunState} {operation : String}

lemma GeneratorRun.requireState_spec :
    Spec (fun _ => True) (requireState (V := V) (E := E) expected operation) state fun o s' tr =>
      tr = [] ∧ s' = state ∧ ((state = expected ∧ o = .ok ()) ∨
        (state ≠ expected ∧ o = .error (wrongState operation state expected))) := by
  unfold requireState
  refine Spec.get_bind ?_
  split
  · next heq => exact Spec.pure ⟨rfl, rfl, .inl ⟨heq, rfl⟩⟩
  · next hne => exact Spec.throw ⟨rfl, rfl, .inr ⟨hne, rfl⟩⟩

lemma GeneratorRun.advance_spec (step : GenStep V E) :
    Spec (fun _ => True) (advance step) state fun o s' tr =>
      tr = [] ∧ s' = step.recorded ∧ o = step.outcome := by
  cases step with
  | yielded effect => exact Spec.set_bind (Spec.pure ⟨rfl, rfl, rfl⟩)
  | stopIteration value => exact Spec.set_bind (Spec.pure ⟨rfl, rfl, rfl⟩)
  | raised error => exact Spec.set_bind (Spec.throw ⟨rfl, rfl, rfl⟩)

/-- What `start`, `send` and `throw` have in common: in the right state the generator receives one
call and its step is recorded, and in any other state nothing happens. -/
lemma GeneratorRun.advancement_spec (c : GenCall V) (read : GenReply V E c → GenStep V E) :
    Spec (fun _ => True) (do
      requireState expected operation
      advance (read (← resume c))) state fun o s' tr =>
        (state = expected ∧ ∃ r, tr = [⟨c, r⟩] ∧ s' = (read r).recorded ∧
          o = (read r).outcome) ∨
        (state ≠ expected ∧ tr = [] ∧ s' = state ∧
          o = .error (wrongState operation state expected)) := by
  refine requireState_spec.bind ?_ ?_
  · rintro _ s' tr ⟨rfl, rfl, h⟩
    have heq : s' = expected := by
      rcases h with ⟨heq, -⟩ | ⟨-, herror⟩
      · exact heq
      · cases herror
    refine Spec.call_bind trivial fun r => (advance_spec (read r)).mono ?_
    rintro o s'' tr ⟨rfl, hs, ho⟩
    exact .inl ⟨heq, r, rfl, hs, ho⟩
  · rintro error s' tr ⟨rfl, rfl, h⟩
    rcases h with ⟨-, hok⟩ | ⟨hne, herror⟩
    · cases hok
    · cases herror
      exact .inr ⟨hne, rfl, rfl, rfl⟩

/-- `close` reaches the generator only if the run has not ended, and records `CLOSED` whether
closing raises or not. -/
lemma GeneratorRun.close_spec :
    Spec (fun _ => True) (close (V := V) (E := E)) state fun o s' tr =>
      ((state = .closed ∨ state = .returned) ∧ tr = [] ∧ s' = state ∧ o = .ok ()) ∨
      (¬ (state = .closed ∨ state = .returned) ∧ tr = [⟨.close, o⟩] ∧ s' = .closed) := by
  unfold close
  refine Spec.get_bind ?_
  split
  · next hended => exact Spec.pure (.inl ⟨hended, rfl, rfl, rfl⟩)
  · next hopen =>
    refine Spec.bind (P := fun o s' tr => ∃ reply, o = .ok reply ∧ tr = [⟨.close, reply⟩])
      (Spec.attempt (Spec.call_bind trivial fun reply => Spec.ofExcept ⟨reply, rfl, rfl⟩)) ?_ ?_
    · rintro reply s' tr ⟨_, hreply, rfl⟩
      cases hreply
      exact Spec.set_bind (Spec.ofExcept (.inr ⟨hopen, rfl, rfl⟩))
    · rintro error s' tr ⟨_, hreply, -⟩
      cases hreply

/-- A method that returns a run state returns an object other than `None`. -/
lemma spec_some {x : GeneratorRun.Method V E (RunState V E)}
    {P : Except Exc (RunState V E) → GeneratorRunState → GenTrace V E → Prop}
    (hx : Spec (fun _ => True) x state P) :
    Spec (fun _ => True) (do return some (← x)) state fun o s' tr =>
      ∃ o', P o' s' tr ∧ o = o'.map some := by
  refine hx.bind (fun result s' tr h => Spec.pure ?_) fun error s' tr h => ⟨.error error, h, rfl⟩
  rw [List.append_nil]
  exact ⟨.ok result, h, rfl⟩

/-- **What a method does.** -/
theorem RunOp.performed {op : RunOp V} {tr : GenTrace V E} {o : RunOutcome V E}
    (h : Exec (op.method state) tr (.ret (o, state'))) : Performed state op o tr state' := by
  cases op with
  | start =>
    obtain ⟨_, hperformed, rfl⟩ := Spec.sound h (spec_some (GeneratorRun.advancement_spec .next id))
    rcases hperformed with ⟨rfl, step, rfl, rfl, rfl⟩ | ⟨hne, rfl, rfl, rfl⟩
    · exact .started step
    · exact .rejected _ _ _ _ rfl hne
  | send value =>
    obtain ⟨_, hperformed, rfl⟩ :=
      Spec.sound h (spec_some (GeneratorRun.advancement_spec (.send value) id))
    rcases hperformed with ⟨rfl, step, rfl, rfl, rfl⟩ | ⟨hne, rfl, rfl, rfl⟩
    · exact .sent value step
    · exact .rejected _ _ _ _ rfl hne
  | throw error =>
    obtain ⟨_, hperformed, rfl⟩ :=
      Spec.sound h (spec_some (GeneratorRun.advancement_spec (.throw error) id))
    rcases hperformed with ⟨rfl, step, rfl, rfl, rfl⟩ | ⟨hne, rfl, rfl, rfl⟩
    · exact .thrown error step
    · exact .rejected _ _ _ _ rfl hne
  | close =>
    have hclose : Spec (fun _ => True) (RunOp.method (E := E) (.close : RunOp V)) state
        fun o s' tr => Performed state .close o tr s' := by
      refine GeneratorRun.close_spec.bind (fun _ s' tr h => Spec.pure ?_) fun error s' tr h => ?_
      · rw [List.append_nil]
        rcases h with ⟨hended, rfl, rfl, -⟩ | ⟨hopen, rfl, rfl⟩
        · exact .ended _ hended
        · exact .closed state (GeneratorRunState.created_or_running hopen) (.ok ())
      · rcases h with ⟨-, -, -, hok⟩ | ⟨hopen, rfl, rfl⟩
        · cases hok
        · exact .closed state (GeneratorRunState.created_or_running hopen) (.error error)
    exact Spec.sound h hclose

lemma GeneratorRun.requireState_uncut :
    Routine.Uncut (requireState (V := V) (E := E) expected operation) := by
  refine Uncut.get.bind fun state => ?_
  split
  · exact Uncut.pure _
  · exact Uncut.throw _

lemma GeneratorRun.advance_uncut (step : GenStep V E) : Routine.Uncut (advance step) := by
  cases step with
  | yielded effect => exact (Uncut.set _).bind fun _ => Uncut.pure _
  | stopIteration value => exact (Uncut.set _).bind fun _ => Uncut.pure _
  | raised error => exact (Uncut.set _).bind fun _ => Uncut.throw _

lemma GeneratorRun.advancement_uncut (c : GenCall V) (read : GenReply V E c → GenStep V E) :
    Routine.Uncut (do
      requireState expected operation
      advance (read (← resume c))) :=
  requireState_uncut.bind fun _ => (Uncut.call c).bind fun r => advance_uncut (read r)

lemma GeneratorRun.close_uncut : Routine.Uncut (close (V := V) (E := E)) := by
  refine Uncut.get.bind fun state => ?_
  split
  · exact Uncut.pure _
  · have hclose : Routine.Uncut (do Routine.ofExcept (← resume (V := V) (E := E) .close)) :=
      (Uncut.call _).bind Uncut.ofExcept
    exact hclose.attempt.bind fun reply => (Uncut.set _).bind fun _ => Uncut.ofExcept reply

/-- Every method ends. -/
lemma RunOp.method_uncut (op : RunOp V) : Routine.Uncut (op.method (E := E)) := by
  cases op with
  | start => exact (GeneratorRun.advancement_uncut .next id).bind fun _ => Uncut.pure _
  | send value => exact (GeneratorRun.advancement_uncut (.send value) id).bind fun _ => Uncut.pure _
  | throw error =>
    exact (GeneratorRun.advancement_uncut (.throw error) id).bind fun _ => Uncut.pure _
  | close => exact GeneratorRun.close_uncut.bind fun _ => Uncut.pure _

end Methods

/-! ### Sequences of calls -/

/-- A `GeneratorRun`, with the object that it adapts. -/
structure Adapted (G : Type) where
  state : GeneratorRunState
  generator : G

/-- A call of a method, with its outcome and with what the generator has received. -/
structure MethodCall (V E : Type) where
  op : RunOp V
  outcome : RunOutcome V E
  received : GenTrace V E

section Sequences

variable {G : Type} (reply : G → (c : GenCall V) → GenReply V E c × G)

/-- One call of a method, made from outside the generator, which does as `reply` says. -/
def Adapted.Step (before : Adapted G) (call : MethodCall V E) (after : Adapted G) : Prop :=
  Exec (call.op.method before.state) call.received (.ret (call.outcome, after.state)) ∧
    Answered reply before.generator call.received after.generator

/-- A method can be called whatever came before. -/
lemma Adapted.exists_step (before : Adapted G) (op : RunOp V) :
    ∃ (call : MethodCall V E) (after : Adapted G), call.op = op ∧ before.Step reply call after := by
  obtain ⟨received, ⟨outcome, state⟩, generator, hexec, hanswered⟩ :=
    (op.method_uncut before.state).answered reply before.generator
  exact ⟨⟨op, outcome, received⟩, ⟨state, generator⟩, rfl, hexec, hanswered⟩

/-- **Every sequence of calls can be made.** -/
theorem Adapted.exists_run (start : Adapted G) (ops : List (RunOp V)) :
    ∃ moves last, LabelledRun (Adapted.Step reply) start moves last ∧
      moves.map (fun m => m.label.op) = ops := by
  induction ops using List.reverseRecOn with
  | nil => exact ⟨[], start, .refl, rfl⟩
  | append_singleton ops op ih =>
    obtain ⟨moves, last, hrun, hops⟩ := ih
    obtain ⟨call, after, hop, hstep⟩ := last.exists_step reply op
    refine ⟨moves ++ [⟨last, call, after⟩], after, hrun.snoc hstep, ?_⟩
    rw [List.map_append, hops, List.map_singleton, hop]

end Sequences

end PurrceptCore
