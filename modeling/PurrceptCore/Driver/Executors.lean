import PurrceptCore.Driver.Retries
import PurrceptCore.Lists.Dict

set_option relaxedAutoImplicit false
set_option autoImplicit false

/-!
# Executors

`InlineExecutor` and `DispatchExecutor` (`executor.py`): an effect is executed by its own method, or
by the handler that is registered for the nearest of its classes. An executor may be made of others,
each of which falls back on the next one or repeats what it does.

## Main definitions

* `PurrceptCore.InlineExecutor.execute`, `PurrceptCore.DispatchExecutor.execute` — the two
  executors.
* `PurrceptCore.EffectExecutor` — how executors are put together.
* `PurrceptCore.RoutesTo` — what an executor calls with an effect, and how often.
* `PurrceptCore.Executes` — how it is called.

## Main results

* `PurrceptCore.EffectExecutor.execute_targets` — an executor calls what it routes the effect to.

## Design

* Handlers, executors of others and the objects that are awaited are known by their identity. What
  is awaited gives a value or raises.
* `PurrceptCore.EffectClasses` is what is known of the class of an effect.
* The `execute` of every executor is a coroutine, and so is `_resolve_result`: a `StopIteration`
  leaves none of them.
-/

namespace PurrceptCore

open Interaction Routine

variable {E X V K : Type}

/-! ### The code -/

/-- What is called with an effect and a context: its own method, or a handler. -/
inductive Callee
  | method
  | handler (object : ObjId)

/-- What such a call returns: a value, or an object to await. -/
inductive CallResult (V : Type)
  | value (result : V)
  | awaitable (object : ObjId)

/-- The calls that executors make. -/
inductive ExecutorCall (E X : Type)
  /-- `effect.execute(context)`, or `handler(effect, context)`. -/
  | invoke (callee : Callee) (effect : E) (context : X)
  /-- `await value`. -/
  | wait (object : ObjId)
  /-- `executor.execute(effect, context)`, where the executor is another one. -/
  | delegate (object : ObjId) (effect : E) (context : X)
  /-- `self._predicate(error)` of a middleware. -/
  | predicate (self : ObjId) (error : Exc)
  /-- `self._delay(attempt, error)` of a middleware. -/
  | delay (self : ObjId) (attempt : ℕ) (error : Exc)
  /-- `self._sleep(seconds)` of a middleware. -/
  | sleep (self : ObjId) (seconds : Seconds)

/-- What they reply. -/
abbrev ExecutorReply (V : Type) : ExecutorCall E X → Type
  | .invoke _ _ _ => Except Exc (CallResult V)
  | .wait _ => Except Exc V
  | .delegate _ _ _ => Except Exc V
  | .predicate _ _ => Except Exc Bool
  | .delay _ _ _ => Except Exc Seconds
  | .sleep _ _ => Except Exc Unit

/-- Parts of an executor. -/
abbrev ExecutorM (E X V α : Type) : Type :=
  Routine Unit (ExecutorCall E X) (ExecutorReply V) Exc α

/-- `_resolve_result`. -/
def resolveResult (value : CallResult V) : ExecutorM E X V V :=
  asyncDef do
    match value with
    | .value result => pure result
    | .awaitable object => Routine.ofExcept (← Routine.call (.wait object))

/-- Call with the effect and the context, and resolve the result. -/
def invoke (callee : Callee) (effect : E) (context : X) : ExecutorM E X V V := do
  let result ← Routine.ofExcept (← Routine.call (.invoke callee effect context))
  resolveResult result

/-- The classes of effects. -/
structure EffectClasses (E K : Type) where
  /-- `type(effect).__mro__`. -/
  mro : E → List K
  /-- `callable(getattr(effect, "execute", None))`. -/
  hasMethod : E → Bool
  /-- The module and the qualified name of the class. -/
  typeName : E → String

/-- An `UnsupportedEffectError`. -/
def unsupportedEffectError (typeName : String) : Exc :=
  ⟨.made 2, .exception, "purrcept_core.errors.UnsupportedEffectError",
    "No executor supports effect type " ++ typeName ++ "."⟩

variable (classes : EffectClasses E K)

/-- `InlineExecutor.execute`. -/
def InlineExecutor.execute (effect : E) (context : X) : ExecutorM E X V V :=
  asyncDef <|
    if classes.hasMethod effect then invoke .method effect context
    else throw (unsupportedEffectError (classes.typeName effect))

variable [DecidableEq K]

/-- `DispatchExecutor._find_handler`. -/
def DispatchExecutor.findHandler (handlers : Dict K ObjId) (effect : E) : Option ObjId :=
  (classes.mro effect).findSome? handlers.get?

/-- `DispatchExecutor(handlers, fallback).execute`. -/
def DispatchExecutor.execute (handlers : Dict K ObjId)
    (fallback : Option (E → X → ExecutorM E X V V)) (effect : E) (context : X) :
    ExecutorM E X V V :=
  asyncDef <|
    match findHandler classes handlers effect with
    | some handler => invoke (.handler handler) effect context
    | none =>
      match fallback with
      | some fallback => fallback effect context
      | none => throw (unsupportedEffectError (classes.typeName effect))

/-- How the calls of a chain of middlewares are carried out, given `base.execute`. -/
def carryOut (base : E → X → ExecutorM E X V V) :
    ∀ c : RetryCall E X, Prog (ExecutorCall E X) (ExecutorReply V) (RetryReply V c)
  | .base effect context => base effect context () >>= fun outcome => .ret outcome.1
  | .predicate self error => .call (.predicate self error) .ret
  | .delay self attempt error => .call (.delay self attempt error) .ret
  | .sleep self seconds => .call (.sleep self seconds) .ret

/-- Executors: an `InlineExecutor`, a `DispatchExecutor` without and with a fallback, a
`MiddlewareExecutor`, and any other one. -/
inductive EffectExecutor (K : Type)
  | inline
  | dispatch (handlers : Dict K ObjId)
  | dispatchOr (handlers : Dict K ObjId) (fallback : EffectExecutor K)
  | retrying (base : EffectExecutor K) (middlewares : List RetryMiddleware)
  | custom (object : ObjId)

/-- `execute`. -/
def EffectExecutor.execute : EffectExecutor K → E → X → ExecutorM E X V V
  | inline => InlineExecutor.execute classes
  | dispatch handlers => DispatchExecutor.execute classes handlers none
  | dispatchOr handlers fallback =>
    DispatchExecutor.execute classes handlers (some fallback.execute)
  | retrying base middlewares => fun effect context s =>
    (MiddlewareExecutor.execute (middlewares.map RetryMiddleware.call) effect context s).handle
      (carryOut base.execute)
  | custom object => fun effect context =>
    asyncDef do Routine.ofExcept (← Routine.call (.delegate object effect context))

/-! ### Where an effect goes -/

/-- The handler for the nearest of some classes that has one. -/
def Nearest (handlers : Dict K ObjId) (mro : List K) : Option ObjId → Prop
  | some handler => ∃ before candidate after, mro = before ++ candidate :: after ∧
      handlers.get? candidate = some handler ∧ ∀ other ∈ before, other ∉ handlers.keys
  | none => ∀ candidate ∈ mro, candidate ∉ handlers.keys

/-- What is called with an effect in the end. -/
inductive Target
  | callee (callee : Callee)
  | executor (object : ObjId)

/-- The call. -/
def Target.call : Target → E → X → ExecutorCall E X
  | callee c, effect, context => .invoke c effect context
  | executor object, effect, context => .delegate object effect context

/-- **Where an executor routes an effect**, and how many attempts it makes at most. -/
inductive RoutesTo (effect : E) : EffectExecutor K → Option Target → ℕ → Prop
  | method (h : classes.hasMethod effect = true) :
      RoutesTo effect .inline (some (.callee .method)) 1
  | noMethod (h : classes.hasMethod effect = false) : RoutesTo effect .inline none 1
  | registered (handlers : Dict K ObjId) (handler : ObjId)
      (h : Nearest handlers (classes.mro effect) (some handler)) :
      RoutesTo effect (.dispatch handlers) (some (.callee (.handler handler))) 1
  | unregistered (handlers : Dict K ObjId) (h : Nearest handlers (classes.mro effect) none) :
      RoutesTo effect (.dispatch handlers) none 1
  | preferred (handlers : Dict K ObjId) (fallback : EffectExecutor K) (handler : ObjId)
      (h : Nearest handlers (classes.mro effect) (some handler)) :
      RoutesTo effect (.dispatchOr handlers fallback) (some (.callee (.handler handler))) 1
  | fallback (handlers : Dict K ObjId) (fallback : EffectExecutor K) (target : Option Target)
      (attempts : ℕ) (h : Nearest handlers (classes.mro effect) none)
      (hfallback : RoutesTo effect fallback target attempts) :
      RoutesTo effect (.dispatchOr handlers fallback) target attempts
  | retried (base : EffectExecutor K) (middlewares : List RetryMiddleware)
      (target : Option Target) (attempts : ℕ) (h : RoutesTo effect base target attempts) :
      RoutesTo effect (.retrying base middlewares) target
        ((middlewares.map RetryMiddleware.maxAttempts).prod * attempts)
  | custom (object : ObjId) : RoutesTo effect (.custom object) (some (.executor object)) 1

/-- The calls of an executor with their replies. -/
abbrev ExecutorTrace (E X V : Type) : Type :=
  Trace (ExecutorCall E X) (ExecutorReply (E := E) (X := X) V)

/-- A call with an effect. -/
def ExecutorCall.IsInvocation : ExecutorCall E X → Prop
  | invoke _ _ _ => True
  | delegate _ _ _ => True
  | _ => False

/-- Nothing but the target is called, and with this effect and this context only. -/
def InvokesOnly (target : Option Target) (effect : E) (context : X)
    (tr : ExecutorTrace E X V) : Prop :=
  ∀ x ∈ tr, x.1.IsInvocation → ∃ t, target = some t ∧ x.1 = t.call effect context

/-- The outcome of an invocation, for the call that gives it, as it leaves the coroutine that has
made the call. -/
def invocationOutcome? : (Σ c : ExecutorCall E X, ExecutorReply V c) → Option (Except Exc V)
  | ⟨.invoke _ _ _, .error error⟩ => some (leavingCoroutine (.error error))
  | ⟨.invoke _ _ _, .ok (.value result)⟩ => some (.ok result)
  | ⟨.wait _, outcome⟩ => some (leavingCoroutine outcome)
  | ⟨.delegate _ _ _, outcome⟩ => some (leavingCoroutine outcome)
  | _ => none

/-- The outcomes of the invocations, in order. -/
def invocationOutcomes (tr : ExecutorTrace E X V) : List (Except Exc V) :=
  tr.filterMap invocationOutcome?

/-- The selectors, the delay strategy and the sleep function do not raise, and delays are not
negative. -/
def QuietExecutorReply : (c : ExecutorCall E X) → ExecutorReply V c → Prop
  | .predicate _ _, reply => ∃ retry, reply = .ok retry
  | .delay _ _ _, reply => ∃ seconds, reply = .ok seconds ∧ 0 ≤ seconds
  | .sleep _ _, reply => reply = .ok ()
  | _, _ => True

/-- Nothing but the target has raised. -/
def OnlyTargetRaises (tr : ExecutorTrace E X V) : Prop := ∀ x ∈ tr, QuietExecutorReply x.1 x.2

/-- So many attempts at most, all but the last of which were ordinary failures. -/
structure Attempts (limit : ℕ) (outcomes : List (Except Exc V)) (outcome : Except Exc V) :
    Prop where
  bound : outcomes.length ≤ limit
  failures : ∀ o ∈ outcomes.dropLast, IsFailure o
  last : outcomes.getLast? = some outcome

/-- The outcome of an execution, from those of the attempts. Without a target there are none. -/
def Attempted (unsupported : Exc) (attempts : ℕ) (outcomes : List (Except Exc V))
    (outcome : Except Exc V) : Option Target → Prop
  | some _ => Attempts attempts outcomes outcome
  | none => outcomes = [] ∧ outcome = .error unsupported

/-- **How a target is called**: the execution ends, but not with a `StopIteration`; nothing else is
called with an effect; and if nothing but the target raises, then the outcome is that of the last
attempt. -/
structure Executes (unsupported : Exc) (effect : E) (context : X) (target : Option Target)
    (attempts : ℕ) (x : ExecutorM E X V V) : Prop where
  ends : Routine.Uncut x
  leaves : ∀ tr outcome s, Exec (x ()) tr (.ret (outcome, s)) → HasLeft outcome
  invokes : ∀ tr q, Exec (x ()) tr q → InvokesOnly target effect context tr
  outcome : ∀ tr outcome s, Exec (x ()) tr (.ret (outcome, s)) → OnlyTargetRaises tr →
    Attempted unsupported attempts (invocationOutcomes tr) outcome target

/-! ### The calls of a chain -/

section Chains

variable {m : RetryMiddleware} {effect : E} {context : X}

/-- The base executor is called with this effect and this context. -/
def OnlyExecutes (effect : E) (context : X) : RetryCall E X → Prop
  | .base e x => e = effect ∧ x = context
  | _ => True

lemma RetryMiddleware.shouldRetry_only (error : Exc) :
    Only (OnlyExecutes effect context) (m.shouldRetry error : RetryM E X V Bool) := by
  unfold shouldRetry
  split
  · exact Only.pure true
  · split
    · exact (Only.call trivial).bind fun reply => Only.ofExcept reply
    · exact Only.pure false

lemma RetryMiddleware.wait_only (attempt : ℕ) (error : Exc) :
    Only (OnlyExecutes effect context) (m.wait attempt error : RetryM E X V Unit) := by
  have hseconds : Only (OnlyExecutes effect context)
      (m.delaySeconds attempt error : RetryM E X V Seconds) := by
    unfold delaySeconds
    split
    · exact Only.pure _
    · exact (Only.call trivial).bind fun reply => Only.ofExcept reply
  refine hseconds.bind fun seconds => ?_
  split
  · exact Only.throw _
  · split
    · exact (Only.call trivial).bind fun reply => Only.ofExcept reply
    · exact Only.pure ()

lemma RetryMiddleware.loop_only {callNext : NextExecutor E X V}
    (hnext : Only (OnlyExecutes effect context) (callNext effect context)) {fuel attempt : ℕ} :
    Only (OnlyExecutes effect context) (m.loop effect context callNext fuel attempt) := by
  induction fuel generalizing attempt with
  | zero => exact fun _ => trivial
  | succ fuel ih =>
    rw [loop]
    refine (Only.attempt hnext).bind fun outcome => ?_
    split
    · exact Only.pure _
    split
    · exact Only.throw _
    split
    · exact Only.throw _
    split
    · split
      · exact Only.throw _
      · refine (m.shouldRetry_only _).bind fun retry => ?_
        split
        · exact Only.throw _
        · exact (m.wait_only attempt _).bind fun _ => ih
    · exact Only.throw _

/-- **A chain executes the effect that it is given**, and no other. -/
lemma MiddlewareExecutor.execute_only (ms : List RetryMiddleware) :
    Only (OnlyExecutes effect context)
      (MiddlewareExecutor.execute (V := V) (ms.map RetryMiddleware.call) effect context) := by
  refine asyncDef_only ?_
  induction ms with
  | nil => exact asyncDef_only ((Only.call ⟨rfl, rfl⟩).bind fun reply => Only.ofExcept reply)
  | cons m ms ih =>
    rw [List.map_cons, callNext_cons]
    exact asyncDef_only (asyncDef_only (m.loop_only ih))

end Chains

/-! ### Attempts -/

section Outcomes

variable {limit limit' : ℕ} {outcomes segment rest : List (Except Exc V)}
  {outcome : Except Exc V}

lemma Attempts.ne_nil (h : Attempts limit outcomes outcome) : outcomes ≠ [] := by
  rintro rfl
  cases h.last

lemma Attempts.mono (h : Attempts limit outcomes outcome) (hle : limit ≤ limit') :
    Attempts limit' outcomes outcome :=
  ⟨h.bound.trans hle, h.failures, h.last⟩

/-- A single attempt. -/
lemma Attempts.single (outcome : Except Exc V) : Attempts 1 [outcome] outcome :=
  ⟨le_rfl, List.forall_mem_nil _, rfl⟩

/-- More attempts, after some that have failed. -/
lemma Attempts.append {error : Exc} (h : Attempts limit segment (.error error))
    (herror : error.IsOrdinary) (hrest : Attempts limit' rest outcome) :
    Attempts (limit + limit') (segment ++ rest) outcome where
  bound := by
    rw [List.length_append]
    exact Nat.add_le_add h.bound hrest.bound
  failures := by
    obtain ⟨before, rfl⟩ := List.getLast?_eq_some_iff.1 h.last
    have hfailures := h.failures
    rw [List.dropLast_concat] at hfailures
    rw [List.dropLast_append_of_ne_nil hrest.ne_nil]
    refine List.forall_mem_append.2 ⟨?_, hrest.failures⟩
    exact List.forall_mem_append.2 ⟨hfailures, List.forall_mem_singleton.2 herror⟩
  last := by
    rw [List.getLast?_append, hrest.last]
    rfl

/-- **Attempts that are themselves made of attempts** multiply. -/
lemma Attempts.flatten {segments : List (List (Except Exc V))}
    (h : Attempts limit' outcomes outcome) (hsegments : List.Forall₂ (fun o segment =>
      Attempts limit segment o) outcomes segments) :
    Attempts (limit' * limit) segments.flatten outcome := by
  suffices hall : Attempts (outcomes.length * limit) segments.flatten outcome from
    hall.mono (Nat.mul_le_mul_right limit h.bound)
  obtain ⟨-, hfailures, hlast⟩ := h
  induction hsegments with
  | nil => cases hlast
  | @cons o segment os segments hfirst hrest ih =>
    rw [List.flatten_cons, List.length_cons, Nat.succ_mul, Nat.add_comm]
    cases hrest with
    | nil =>
      cases hlast
      rw [List.flatten_nil, List.append_nil]
      exact hfirst.mono (Nat.le_add_right limit _)
    | cons hnext hrest =>
      rw [List.dropLast_cons_cons] at hfailures
      obtain ⟨hfailure, hfailures⟩ := List.forall_mem_cons.1 hfailures
      have hlater := ih hfailures (by rwa [List.getLast?_cons_cons] at hlast)
      cases o with
      | ok value => exact hfailure.elim
      | error error => exact hfirst.append hfailure hlater

/-- The attempts of a chain, each of which has been carried out by attempts. -/
lemma Attempted.flatten {unsupported : Exc} {attempts : ℕ} {target : Option Target}
    {segments : List (List (Except Exc V))} (h : Attempts limit outcomes outcome)
    (hsegments : List.Forall₂ (fun o segment => Attempted unsupported attempts segment o target)
      outcomes segments) :
    Attempted unsupported (limit * attempts) segments.flatten outcome target := by
  cases target with
  | some target => exact h.flatten hsegments
  | none =>
    have hall : segments.flatten = [] ∧ ∀ o ∈ outcomes, o = .error unsupported := by
      clear h
      induction hsegments with
      | nil => exact ⟨rfl, List.forall_mem_nil _⟩
      | cons hfirst _ ih =>
        obtain ⟨rfl, ho⟩ := hfirst
        exact ⟨ih.1, List.forall_mem_cons.2 ⟨ho, ih.2⟩⟩
    exact ⟨hall.1, hall.2 outcome (List.mem_of_getLast? h.last)⟩

end Outcomes

/-! ### The executors -/

section Executors

variable {classes} {unsupported : Exc} {effect : E} {context : X} {target : Option Target}
  {attempts : ℕ}

/-- Every call fails. -/
def failedReply (error : Exc) : ∀ c : ExecutorCall E X, ExecutorReply V c
  | .invoke _ _ _ => .error error
  | .wait _ => .error error
  | .delegate _ _ _ => .error error
  | .predicate _ _ => .error error
  | .delay _ _ _ => .error error
  | .sleep _ _ => .error error

/-- It is enough to know the executions that have ended. -/
lemma Executes.of_runs {x : ExecutorM E X V V} (hends : Routine.Uncut x)
    (hruns : ∀ tr outcome s, Exec (x ()) tr (.ret (outcome, s)) →
      HasLeft outcome ∧ InvokesOnly target effect context tr ∧ (OnlyTargetRaises tr →
        Attempted unsupported attempts (invocationOutcomes tr) outcome target)) :
    Executes unsupported effect context target attempts x where
  ends := hends
  leaves tr outcome s hexec := (hruns tr outcome s hexec).1
  invokes tr q hexec := by
    obtain ⟨tr', ⟨outcome, s⟩, hexec', -⟩ := hexec.extend (hends ()) (failedReply unsupported)
    exact (List.forall_mem_append.1 (hruns _ outcome s hexec').2.1).1
  outcome tr outcome s hexec := (hruns tr outcome s hexec).2.2

/-- A coroutine, by the executions of its body that have ended. -/
lemma Executes.of_body {body : ExecutorM E X V V} (hends : Routine.Uncut body)
    (hruns : ∀ tr outcome s, Exec (body ()) tr (.ret (outcome, s)) →
      InvokesOnly target effect context tr ∧ (OnlyTargetRaises tr → Attempted unsupported attempts
        (invocationOutcomes tr) (leavingCoroutine outcome) target)) :
    Executes unsupported effect context target attempts (asyncDef body) := by
  refine .of_runs (asyncDef_uncut hends) fun tr outcome s hexec => ?_
  obtain ⟨raised, hbody, rfl⟩ := exec_asyncDef hexec
  exact ⟨hasLeft_leaving "coroutine" (.made 4) raised, hruns tr raised s hbody⟩

/-- What an executor does, another coroutine may do. -/
lemma Executes.wrap {x : ExecutorM E X V V}
    (h : Executes unsupported effect context target attempts x) :
    Executes unsupported effect context target attempts (asyncDef x) := by
  refine .of_body h.ends fun tr outcome s hexec => ⟨h.invokes tr _ hexec, fun hraises => ?_⟩
  rw [leavingCoroutine, leaving_eq _ _ (h.leaves tr outcome s hexec)]
  exact h.outcome tr outcome s hexec hraises

/-- Without a target, there is an error. -/
lemma executes_throw (hunsupported : unsupported.cls ≠ .stopIteration) :
    Executes unsupported effect context none attempts
      (asyncDef (throw unsupported) : ExecutorM E X V V) := by
  refine .of_body (Uncut.throw _) fun tr outcome s hexec => ?_
  obtain ⟨rfl, heq⟩ := Exec.ret_inv hexec
  cases heq
  refine ⟨List.forall_mem_nil _, fun _ => ⟨rfl, ?_⟩⟩
  exact congrArg Except.error (Exc.leaving_eq _ _ hunsupported)

/-- A target that is attempted, by the specification of the body. -/
lemma Executes.of_spec {body : ExecutorM E X V V} {t : Target} (hends : Routine.Uncut body)
    (hspec : Spec (fun _ => True) body () fun outcome _ tr =>
      InvokesOnly (some t) effect context tr ∧
        Attempts attempts (invocationOutcomes tr) (leavingCoroutine outcome)) :
    Executes unsupported effect context (some t) attempts (asyncDef body) := by
  refine .of_body hends fun tr outcome s hexec => ?_
  obtain ⟨hinvokes, hattempts⟩ := Spec.sound hexec hspec
  exact ⟨hinvokes, fun _ => hattempts⟩

/-- `_resolve_result` awaits an awaitable. -/
lemma resolveResult_spec (value : CallResult V) :
    Spec (fun _ => True) (resolveResult value : ExecutorM E X V V) () fun outcome _ tr =>
      (∃ result, value = .value result ∧ tr = [] ∧ outcome = .ok result) ∨
      ∃ object reply, value = .awaitable object ∧ tr = [⟨.wait object, reply⟩] ∧
        outcome = leavingCoroutine reply := by
  cases value with
  | value result =>
    exact asyncDef_spec (P := fun o _ tr => tr = [] ∧ o = .ok result) (Spec.pure ⟨rfl, rfl⟩)
      fun o _ tr h => .inl ⟨result, rfl, h.1, by rw [h.2]; rfl⟩
  | awaitable object =>
    refine asyncDef_spec (P := fun o _ tr => tr = [⟨.wait object, o⟩]) ?_
      fun o _ tr h => .inr ⟨object, o, rfl, h, rfl⟩
    exact Spec.call_bind trivial fun reply => Spec.ofExcept rfl

/-- A method or a handler is called, and what it returns may be awaited. -/
lemma executes_invoke (callee : Callee) :
    Executes unsupported effect context (some (.callee callee)) 1
      (asyncDef (invoke callee effect context) : ExecutorM E X V V) := by
  refine .of_spec ?_ ?_
  · refine (Uncut.call _).bind fun reply => (Uncut.ofExcept reply).bind fun result => ?_
    refine asyncDef_uncut ?_
    cases result with
    | value => exact Uncut.pure _
    | awaitable => exact (Uncut.call _).bind fun reply => Uncut.ofExcept reply
  · refine Spec.call_bind trivial fun reply => ?_
    cases reply with
    | error error => exact ⟨List.forall_mem_singleton.2 fun _ => ⟨_, rfl, rfl⟩, .single _⟩
    | ok result =>
      refine (resolveResult_spec result).mono fun outcome _ tr h => ?_
      rcases h with ⟨value, rfl, rfl, rfl⟩ | ⟨object, reply, rfl, rfl, rfl⟩
      · exact ⟨List.forall_mem_singleton.2 fun _ => ⟨_, rfl, rfl⟩, .single _⟩
      · -- the outcome is the one of the call that awaits the object
        rw [leavingCoroutine, leaving_eq _ _ (hasLeft_leaving "coroutine" (.made 4) reply)]
        refine ⟨List.forall_mem_cons.2 ⟨fun _ => ⟨_, rfl, rfl⟩, ?_⟩, .single _⟩
        exact List.forall_mem_singleton.2 fun h => h.elim

/-- Another executor is called. -/
lemma executes_delegate (object : ObjId) :
    Executes unsupported effect context (some (.executor object)) 1
      (asyncDef do Routine.ofExcept (← Routine.call (.delegate object effect context)) :
        ExecutorM E X V V) := by
  refine .of_spec ((Uncut.call _).bind fun reply => Uncut.ofExcept reply) ?_
  refine Spec.call_bind trivial fun reply => Spec.ofExcept ?_
  exact ⟨List.forall_mem_singleton.2 fun _ => ⟨_, rfl, rfl⟩, .single _⟩

/-! ### Retries -/

variable {base : E → X → ExecutorM E X V V}

lemma carryOut_uncut (hbase : ∀ effect context, Routine.Uncut (base effect context))
    (c : RetryCall E X) : (carryOut base c).Uncut := by
  cases c with
  | base effect context => exact (hbase effect context ()).bind fun _ => trivial
  | predicate => exact fun _ => trivial
  | delay => exact fun _ => trivial
  | sleep => exact fun _ => trivial

/-- A call that is handed on. -/
lemma Exec.call_ret {C : Type} {R : C → Type} {c : C} {r : R c} {tr : Trace C R}
    (h : Exec (.call c .ret) tr (.ret r)) : tr = [⟨c, r⟩] := by
  cases h with
  | step h =>
    obtain ⟨rfl, heq⟩ := Exec.ret_inv h
    cases heq
    rfl

/-- The base executor has ended, with an outcome. -/
lemma exec_base {tr : ExecutorTrace E X V} {outcome : Except Exc V}
    (h : Exec (carryOut base (.base effect context)) tr (.ret outcome)) :
    ∃ s, Exec (base effect context ()) tr (.ret (outcome, s)) := by
  rcases Exec.bind_inv h with ⟨x, -, hne, heq⟩ | ⟨e, ⟨outcome', s⟩, rest, rfl, he, hrest⟩
  · obtain ⟨o, ho⟩ := Prog.bind_eq_ret heq
    exact absurd ho (hne o)
  · obtain ⟨rfl, heq⟩ := Exec.ret_inv hrest
    cases heq
    rw [List.append_nil]
    exact ⟨s, he⟩

variable (unsupported effect context target attempts) in
/-- The calls of a chain, carried out: only the target is called, and each call of the base executor
is made of attempts. -/
def CarriedOut (tr : RetryTrace E X V) (tr' : ExecutorTrace E X V) : Prop :=
  InvokesOnly target effect context tr' ∧ (OnlyTargetRaises tr' → OnlyBaseRaises tr ∧
    ∃ segments, List.Forall₂ (fun o segment => Attempted unsupported attempts segment o target)
      (baseOutcomes tr) segments ∧ invocationOutcomes tr' = segments.flatten)

/-- A call of a selector, a strategy or a sleep function is handed on. -/
lemma CarriedOut.cons {tr : RetryTrace E X V} {tr' : ExecutorTrace E X V}
    (h : CarriedOut unsupported effect context target attempts tr tr')
    {x : Σ c : RetryCall E X, RetryReply V c} {y : Σ c : ExecutorCall E X, ExecutorReply V c}
    (hx : baseOutcome? x = none) (hy : invocationOutcome? y = none) (hcall : ¬ y.1.IsInvocation)
    (hquiet : QuietExecutorReply y.1 y.2 → QuietReply x.1 x.2) :
    CarriedOut unsupported effect context target attempts (x :: tr) (y :: tr') := by
  obtain ⟨hinvokes, hrest⟩ := h
  refine ⟨List.forall_mem_cons.2 ⟨fun h => absurd h hcall, hinvokes⟩, fun hraises => ?_⟩
  obtain ⟨hreply, hraises⟩ := List.forall_mem_cons.1 hraises
  obtain ⟨hbase, segments, hsegments, heq⟩ := hrest hraises
  refine ⟨List.forall_mem_cons.2 ⟨hquiet hreply, hbase⟩, segments, ?_, ?_⟩
  · unfold baseOutcomes
    rw [List.filterMap_cons_none hx]
    exact hsegments
  · unfold invocationOutcomes
    rw [List.filterMap_cons_none hy]
    exact heq

/-- **How a chain is carried out**, when its base executor calls a target.

**Proof sketch.** Induction on the calls of the chain. -/
lemma carriedOut_of_handled
    (hbase : Executes unsupported effect context target attempts (base effect context))
    {tr : RetryTrace E X V} {tr' : ExecutorTrace E X V} (h : Handled (carryOut base) tr tr')
    (honly : ∀ x ∈ tr, OnlyExecutes effect context x.1) :
    CarriedOut unsupported effect context target attempts tr tr' := by
  induction h with
  | nil =>
    exact ⟨List.forall_mem_nil _, fun _ => ⟨List.forall_mem_nil _, [], .nil, rfl⟩⟩
  | @cons c r e tr tr' he _ ih =>
    have hcarried := ih (List.forall_mem_cons.1 honly).2
    cases c with
    | base effect' context' =>
      obtain ⟨rfl, rfl⟩ := honly _ List.mem_cons_self
      obtain ⟨s, hexec⟩ := exec_base he
      obtain ⟨hinvokes, hrest⟩ := hcarried
      refine ⟨List.forall_mem_append.2 ⟨hbase.invokes e _ hexec, hinvokes⟩, fun hraises => ?_⟩
      obtain ⟨hfirst, hraises⟩ := List.forall_mem_append.1 hraises
      obtain ⟨hquiet, segments, hsegments, heq⟩ := hrest hraises
      have hattempted := hbase.outcome e r s hexec hfirst
      rw [← leaving_eq "coroutine" (.made 4) (hbase.leaves e r s hexec)] at hattempted
      refine ⟨List.forall_mem_cons.2 ⟨trivial, hquiet⟩, invocationOutcomes e :: segments,
        .cons hattempted hsegments, ?_⟩
      rw [List.flatten_cons, ← heq]
      exact List.filterMap_append
    | predicate self error =>
      obtain rfl := Exec.call_ret he
      exact hcarried.cons rfl rfl id id
    | delay self attempt error =>
      obtain rfl := Exec.call_ret he
      exact hcarried.cons rfl rfl id id
    | sleep self seconds =>
      obtain rfl := Exec.call_ret he
      exact hcarried.cons rfl rfl id id

/-- **Retries** repeat what the base executor does. -/
lemma executes_retrying (ms : List RetryMiddleware)
    (huncut : ∀ effect context, Routine.Uncut (base effect context))
    (hbase : Executes unsupported effect context target attempts (base effect context)) :
    Executes unsupported effect context target
      ((ms.map RetryMiddleware.maxAttempts).prod * attempts)
      (fun s => (MiddlewareExecutor.execute (ms.map RetryMiddleware.call) effect context s).handle
        (carryOut base)) := by
  refine .of_runs (fun s => (MiddlewareExecutor.execute_uncut ms s).handle (carryOut_uncut huncut))
    fun tr' outcome s hexec => ?_
  obtain ⟨tr, hchain, hhandled⟩ := Exec.handle_ret hexec
  have hspec : Spec (fun _ => True)
      (MiddlewareExecutor.execute (V := V) (ms.map RetryMiddleware.call) effect context) ()
      fun _ _ tr => (∀ x ∈ tr, OnlyExecutes effect context x.1) ∧ True :=
    (MiddlewareExecutor.execute_only ms ()).weaken fun _ _ => trivial
  have honly := (Spec.sound hchain hspec).1
  obtain ⟨hinvokes, hraises⟩ := carriedOut_of_handled hbase hhandled honly
  refine ⟨?_, hinvokes, fun hquiet => ?_⟩
  · obtain ⟨raised, -, rfl⟩ := exec_asyncDef hchain
    exact hasLeft_leaving "coroutine" (.made 4) raised
  obtain ⟨hquiet, segments, hsegments, heq⟩ := hraises hquiet
  have hrun := Spec.sound hchain (MiddlewareExecutor.execute_spec ms) hquiet
  obtain ⟨⟨hbound, hfailures⟩, hlast⟩ := hrun.executes
  rw [heq]
  exact Attempted.flatten ⟨hbound, hfailures, hlast⟩ hsegments

/-- `_find_handler` finds the handler for the nearest class. -/
lemma nearest_findHandler (classes : EffectClasses E K) (handlers : Dict K ObjId) (effect : E) :
    Nearest handlers (classes.mro effect)
      (DispatchExecutor.findHandler classes handlers effect) := by
  unfold DispatchExecutor.findHandler
  cases hfind : (classes.mro effect).findSome? handlers.get? with
  | none =>
    intro candidate hmem
    exact Dict.get?_eq_none_iff.1 (List.findSome?_eq_none_iff.1 hfind candidate hmem)
  | some handler =>
    obtain ⟨before, candidate, after, hmro, hget, hbefore⟩ := List.findSome?_eq_some_iff.1 hfind
    exact ⟨before, candidate, after, hmro, hget, fun other hother =>
      Dict.get?_eq_none_iff.1 (hbefore other hother)⟩

/-- **An executor calls what it routes an effect to**, and nothing else. It ends, whatever is called
does. Unless a collaborator of a middleware raises, there are so many attempts at most, each after
an ordinary failure, and the outcome is that of the last one; if there is nothing to call, it is an
`UnsupportedEffectError`.

**Proof sketch.** Induction on the executor, for every effect and context: an executor that is
retried ends, whatever it is given. -/
theorem EffectExecutor.execute_targets (executor : EffectExecutor K) (effect : E) (context : X) :
    ∃ target attempts, RoutesTo classes effect executor target attempts ∧
      Executes (unsupportedEffectError (classes.typeName effect)) effect context target attempts
        (executor.execute classes effect context : ExecutorM E X V V) := by
  have hunsupported {effect : E} :
      (unsupportedEffectError (classes.typeName effect)).cls ≠ .stopIteration := by
    intro h
    cases h
  induction executor generalizing effect context with
  | inline =>
    unfold EffectExecutor.execute InlineExecutor.execute
    cases hmethod : classes.hasMethod effect with
    | true => exact ⟨_, _, .method hmethod, executes_invoke .method⟩
    | false => exact ⟨none, 1, .noMethod hmethod, executes_throw hunsupported⟩
  | dispatch handlers =>
    have hnearest := nearest_findHandler classes handlers effect
    unfold EffectExecutor.execute DispatchExecutor.execute
    cases hfind : DispatchExecutor.findHandler classes handlers effect with
    | some handler =>
      rw [hfind] at hnearest
      exact ⟨_, _, .registered handlers handler hnearest, executes_invoke (.handler handler)⟩
    | none =>
      rw [hfind] at hnearest
      exact ⟨none, 1, .unregistered handlers hnearest, executes_throw hunsupported⟩
  | dispatchOr handlers fallback ih =>
    have hnearest := nearest_findHandler classes handlers effect
    unfold EffectExecutor.execute DispatchExecutor.execute
    cases hfind : DispatchExecutor.findHandler classes handlers effect with
    | some handler =>
      rw [hfind] at hnearest
      exact ⟨_, _, .preferred handlers fallback handler hnearest,
        executes_invoke (.handler handler)⟩
    | none =>
      rw [hfind] at hnearest
      obtain ⟨target, attempts, hroute, hexecutes⟩ := ih effect context
      exact ⟨target, attempts, .fallback handlers fallback target attempts hnearest hroute,
        hexecutes.wrap⟩
  | retrying base ms ih =>
    obtain ⟨target, attempts, hroute, hexecutes⟩ := ih effect context
    refine ⟨target, _, .retried base ms target attempts hroute, ?_⟩
    refine executes_retrying ms (fun effect context => ?_) hexecutes
    obtain ⟨_, _, -, hbase⟩ := ih effect context
    exact hbase.ends
  | custom object => exact ⟨_, 1, .custom object, executes_delegate object⟩

end Executors

end PurrceptCore
