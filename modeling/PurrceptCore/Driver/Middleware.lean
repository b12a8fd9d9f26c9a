import Mathlib.Algebra.Order.Ring.Rat
import PurrceptCore.Driver.Events
import PurrceptCore.Interaction.Answers

set_option relaxedAutoImplicit false
set_option autoImplicit false

/-!
# Retrying effects

`MiddlewareExecutor` and `RetryMiddleware` (`middleware.py`): a chain of wrappers around a base
executor, each of which may execute an effect again when it has failed.

## Main definitions

* `PurrceptCore.asyncDef` — the body of a coroutine.
* `PurrceptCore.RetryCall` — the collaborators: the base executor, and the predicate, the delay
  strategy and the sleep function of a middleware.
* `PurrceptCore.RetryMiddleware` — a middleware, with `PurrceptCore.RetryMiddleware.make` and
  `PurrceptCore.RetryMiddleware.call`.
* `PurrceptCore.MiddlewareExecutor.execute` — the chain.
* `PurrceptCore.RetryRun`, `PurrceptCore.ChainRun` — how a middleware and a chain run when nothing
  but the base executor raises.

## Main results

* `PurrceptCore.MiddlewareExecutor.execute_spec` — these are the runs of the code.
* `PurrceptCore.MiddlewareExecutor.execute_uncut` — an execution ends.

## Design

* The collaborators of a middleware are known by the identity of the middleware. A selector by
  classes is the set of the exceptions that it matches.
* A number of seconds is rational.
* The identity of the `RuntimeError` that replaces a `StopIteration` is never compared.
-/

namespace PurrceptCore

open Interaction Routine

variable {E X V : Type}

/-! ### Coroutines -/

/-- What leaves a coroutine whose body has come to an outcome. -/
abbrev leavingCoroutine {α : Type} : Except Exc α → Except Exc α := leaving "coroutine" (.made 4)

/-- The body of an `async def`. -/
def asyncDef {S C α : Type} {R : C → Type} (body : Routine S C R Exc α) : Routine S C R Exc α :=
  tryCatch body fun error => throw (error.leaving "coroutine" (.made 4))

section AsyncDef

variable {S C α : Type} {R : C → Type} {body : Routine S C R Exc α} {s : S}

/-- The rule for the body of a coroutine. -/
lemma asyncDef_spec {allow : C → Prop} {P Q : Except Exc α → S → Trace C R → Prop}
    (hbody : Spec allow body s P) (h : ∀ o s e, P o s e → Q (leavingCoroutine o) s e) :
    Spec allow (asyncDef body) s Q := by
  refine hbody.tryCatch (fun a s e hP => h (.ok a) s e hP) fun error s e hP => ?_
  refine Spec.throw ?_
  rw [List.append_nil]
  exact h (.error error) s e hP

/-- What the body of a coroutine has done, when the coroutine has ended. -/
lemma exec_asyncDef {tr : Trace C R} {outcome : Except Exc α} {s' : S}
    (h : Exec (asyncDef body s) tr (.ret (outcome, s'))) :
    ∃ raised, Exec (body s) tr (.ret (raised, s')) ∧ outcome = leavingCoroutine raised := by
  rcases Exec.bind_inv h with ⟨x, -, hne, heq⟩ | ⟨e, ⟨raised, s₁⟩, rest, rfl, he, hrest⟩
  · obtain ⟨o, ho⟩ := Prog.bind_eq_ret heq
    exact absurd ho (hne o)
  · cases raised with
    | ok value =>
      obtain ⟨rfl, heq⟩ := Exec.ret_inv hrest
      cases heq
      rw [List.append_nil]
      exact ⟨.ok value, he, rfl⟩
    | error error =>
      obtain ⟨rfl, heq⟩ := Exec.ret_inv hrest
      cases heq
      rw [List.append_nil]
      exact ⟨.error error, he, rfl⟩

lemma asyncDef_uncut (h : Routine.Uncut body) : Routine.Uncut (asyncDef body) :=
  h.tryCatch fun _ => Uncut.throw _

lemma asyncDef_only {allow : C → Prop} (h : Only allow body) : Only allow (asyncDef body) :=
  h.tryCatch fun _ => Only.throw _

end AsyncDef

/-! ### The code -/

/-- The calls that a chain makes. -/
inductive RetryCall (E X : Type)
  /-- `base.execute(effect, context)`. -/
  | base (effect : E) (context : X)
  /-- `self._predicate(error)`. -/
  | predicate (self : ObjId) (error : Exc)
  /-- `self._delay(attempt, error)`. -/
  | delay (self : ObjId) (attempt : ℕ) (error : Exc)
  /-- `self._sleep(seconds)`. -/
  | sleep (self : ObjId) (seconds : Seconds)

/-- What they reply. -/
abbrev RetryReply (V : Type) : RetryCall E X → Type
  | .base _ _ => Except Exc V
  | .predicate _ _ => Except Exc Bool
  | .delay _ _ _ => Except Exc Seconds
  | .sleep _ _ => Except Exc Unit

/-- Parts of a chain. -/
abbrev RetryM (E X V α : Type) : Type := Routine Unit (RetryCall E X) (RetryReply V) Exc α

/-- `NextExecutor`. -/
abbrev NextExecutor (E X V : Type) : Type := E → X → RetryM E X V V

/-- `EffectMiddleware`. -/
abbrev EffectMiddleware (E X V : Type) : Type := E → X → NextExecutor E X V → RetryM E X V V

/-- `call_base`. -/
def callBase : NextExecutor E X V := fun effect context =>
  asyncDef do Routine.ofExcept (← Routine.call (.base effect context))

/-- `_wrap_middleware`. -/
def wrapMiddleware (middleware : EffectMiddleware E X V) (callNext : NextExecutor E X V) :
    NextExecutor E X V :=
  fun effect context => asyncDef (middleware effect context callNext)

/-- `MiddlewareExecutor(base, middlewares)._call`. -/
def MiddlewareExecutor.callNext (middlewares : List (EffectMiddleware E X V)) :
    NextExecutor E X V :=
  middlewares.reverse.foldl (fun callNext middleware => wrapMiddleware middleware callNext) callBase

/-- `MiddlewareExecutor(base, middlewares).execute`. -/
def MiddlewareExecutor.execute (middlewares : List (EffectMiddleware E X V)) :
    NextExecutor E X V :=
  fun effect context => asyncDef (callNext middlewares effect context)

/-- A delay, or a strategy that is asked for one. -/
inductive RetryDelay
  | seconds (seconds : Seconds)
  | strategy

/-- A `RetryMiddleware`: `retryOn` is `isinstance(error, self._retry_on)`, and `predicate` is
whether there is one. -/
structure RetryMiddleware where
  object : ObjId
  maxAttempts : ℕ
  retryOn : Exc → Bool
  predicate : Bool
  delay : RetryDelay
  one_le_maxAttempts : 1 ≤ maxAttempts
  delay_nonneg : ∀ seconds, delay = .seconds seconds → 0 ≤ seconds

/-- A candidate for a class to retry on: a subclass of `Exception`, with the exceptions that are
instances of it, or any other object. -/
inductive RetryCandidate
  | exception (instances : Exc → Bool)
  | other

/-- The instances of a subclass of `Exception`. -/
def RetryCandidate.instances? : RetryCandidate → Option (Exc → Bool)
  | exception instances => some instances
  | other => none

/-- What may be passed for `retry_on`: a tuple, or one object. -/
inductive RetryOn
  | single (candidate : RetryCandidate)
  | tuple (candidates : List RetryCandidate)

/-- The candidates. -/
def RetryOn.candidates : RetryOn → List RetryCandidate
  | single candidate => [candidate]
  | tuple candidates => candidates

/-- `_normalize_retry_types`, with the exceptions that are instances of the classes. -/
def normalizeRetryTypes (value : RetryOn) : Except Exc (Exc → Bool) :=
  if value.candidates.any fun candidate => candidate.instances?.isNone then
    .error ⟨.made 0, .typeError, "builtins.TypeError", "retry_on must contain Exception subclasses"⟩
  else .ok fun error => (value.candidates.filterMap RetryCandidate.instances?).any (· error)

/-- A `ValueError`. -/
def retryValueError (text : String) : Exc := ⟨.made 1, .exception, "builtins.ValueError", text⟩

namespace RetryMiddleware

/-- `RetryMiddleware(…)`. -/
def make (object : ObjId) (maxAttempts : ℤ) (retryOn : RetryOn) (predicate : Bool)
    (delay : RetryDelay) : Except Exc RetryMiddleware :=
  if hattempts : maxAttempts < 1 then
    .error (retryValueError "max_attempts must be at least 1")
  else
    match normalizeRetryTypes retryOn with
    | .error error => .error error
    | .ok retryTypes =>
      match delay with
      | .seconds seconds =>
        if hdelay : seconds < 0 then .error (retryValueError "delay must not be negative")
        else .ok ⟨object, maxAttempts.toNat, retryTypes, predicate, .seconds seconds, by omega,
          fun _ h => RetryDelay.seconds.inj h ▸ Rat.not_lt.1 hdelay⟩
      | .strategy => .ok ⟨object, maxAttempts.toNat, retryTypes, predicate, .strategy, by omega,
          fun _ h => RetryDelay.noConfusion h⟩

variable (self : RetryMiddleware)

/-- `_should_retry`. -/
def shouldRetry (error : Exc) : RetryM E X V Bool :=
  if self.retryOn error then pure true
  else if self.predicate then do Routine.ofExcept (← Routine.call (.predicate self.object error))
  else pure false

/-- The seconds to wait after a failed attempt. -/
def delaySeconds (attempt : ℕ) (error : Exc) : RetryM E X V Seconds :=
  match self.delay with
  | .seconds seconds => pure seconds
  | .strategy => do Routine.ofExcept (← Routine.call (.delay self.object attempt error))

/-- The wait after a failed attempt. -/
def wait (attempt : ℕ) (error : Exc) : RetryM E X V Unit := do
  let seconds ← self.delaySeconds attempt error
  if seconds < 0 then throw (retryValueError "retry delay must not be negative")
  else if seconds ≠ 0 then do Routine.ofExcept (← Routine.call (.sleep self.object seconds))
  else pure ()

/-- The loop of `__call__`. -/
def loop (effect : E) (context : X) (callNext : NextExecutor E X V) : ℕ → ℕ → RetryM E X V V
  | 0, _ => Routine.cut
  | fuel + 1, attempt => do
    match ← Routine.attempt (callNext effect context) with
    | .ok value => pure value
    | .error error =>
      -- a cancellation and a failure to dispatch an event are never retried
      if error.cls = .cancelledError then throw error
      else if error.cls = .eventDispatchError then throw error
      else if error.cls.isException then
        if self.maxAttempts ≤ attempt then throw error
        else do
          let retry ← self.shouldRetry error
          if !retry then throw error
          else do
            self.wait attempt error
            loop effect context callNext fuel (attempt + 1)
      else throw error

/-- `RetryMiddleware.__call__`. -/
def call : EffectMiddleware E X V := fun effect context callNext =>
  asyncDef (self.loop effect context callNext self.maxAttempts 1)

end RetryMiddleware

/-! ### The runs -/

/-- The calls of a chain with their replies. -/
abbrev RetryTrace (E X V : Type) : Type := Trace (RetryCall E X) (RetryReply (E := E) (X := X) V)

/-- The selectors, the delay strategy and the sleep function do not raise, and delays are not
negative. -/
def QuietReply : (c : RetryCall E X) → RetryReply V c → Prop
  | .base _ _, _ => True
  | .predicate _ _, reply => ∃ retry, reply = .ok retry
  | .delay _ _ _, reply => ∃ seconds, reply = .ok seconds ∧ 0 ≤ seconds
  | .sleep _ _, reply => reply = .ok ()

/-- Nothing but the base executor has raised. -/
def OnlyBaseRaises (tr : RetryTrace E X V) : Prop := ∀ x ∈ tr, QuietReply x.1 x.2

/-- An ordinary failure: neither a cancellation nor an `EventDispatchError`, nor any other exception
outside `Exception`. -/
def Exc.IsOrdinary (error : Exc) : Prop :=
  error.cls ≠ .cancelledError ∧ error.cls ≠ .eventDispatchError ∧ error.cls.isException = true

/-- The outcome of an attempt that may be followed by another. -/
def IsFailure : Except Exc V → Prop
  | .ok _ => False
  | .error error => error.IsOrdinary

/-- The selectors were asked about an error, and have matched it or not. -/
inductive Asked (m : RetryMiddleware) (error : Exc) : RetryTrace E X V → Bool → Prop
  | type (h : m.retryOn error = true) : Asked m error [] true
  | predicate (h : m.retryOn error = false) (hpredicate : m.predicate = true) (retry : Bool) :
      Asked m error [⟨.predicate m.object error, .ok retry⟩] retry
  | none (h : m.retryOn error = false) (hpredicate : m.predicate = false) : Asked m error [] false

/-- The sleep of some seconds, if there are any. -/
inductive Slept (m : RetryMiddleware) : Seconds → RetryTrace E X V → Prop
  | zero : Slept m 0 []
  | pos (seconds : Seconds) (h : 0 < seconds) : Slept m seconds [⟨.sleep m.object seconds, .ok ()⟩]

/-- The wait after a failed attempt. A strategy is asked once. -/
inductive Waited (m : RetryMiddleware) (attempt : ℕ) (error : Exc) : RetryTrace E X V → Prop
  | seconds (seconds : Seconds) (h : m.delay = .seconds seconds) (tr : RetryTrace E X V)
      (hslept : Slept m seconds tr) : Waited m attempt error tr
  | strategy (seconds : Seconds) (h : m.delay = .strategy) (tr : RetryTrace E X V)
      (hslept : Slept m seconds tr) :
      Waited m attempt error (⟨.delay m.object attempt error, .ok seconds⟩ :: tr)

/-- A run of a middleware from an attempt on, by the runs of what it wraps. -/
inductive RetryRun (m : RetryMiddleware) (Inner : Except Exc V → RetryTrace E X V → Prop) :
    ℕ → Except Exc V → RetryTrace E X V → Prop
  /-- A success, or what is never retried. -/
  | final (attempt : ℕ) (outcome : Except Exc V) (tr : RetryTrace E X V) (h : Inner outcome tr)
      (hfinal : ¬ IsFailure outcome) : RetryRun m Inner attempt outcome tr
  /-- The last attempt. -/
  | exhausted (attempt : ℕ) (error : Exc) (tr : RetryTrace E X V) (h : Inner (.error error) tr)
      (herror : error.IsOrdinary) (hmax : m.maxAttempts ≤ attempt) :
      RetryRun m Inner attempt (.error error) tr
  /-- An error that is not matched. -/
  | unmatched (attempt : ℕ) (error : Exc) (tr asked : RetryTrace E X V)
      (h : Inner (.error error) tr) (herror : error.IsOrdinary) (hlt : attempt < m.maxAttempts)
      (hasked : Asked m error asked false) : RetryRun m Inner attempt (.error error) (tr ++ asked)
  /-- An error that is matched, and the attempts after it. -/
  | again (attempt : ℕ) (error : Exc) (tr asked waited : RetryTrace E X V)
      (outcome : Except Exc V) (rest : RetryTrace E X V) (h : Inner (.error error) tr)
      (herror : error.IsOrdinary) (hlt : attempt < m.maxAttempts)
      (hasked : Asked m error asked true) (hwaited : Waited m attempt error waited)
      (hrest : RetryRun m Inner (attempt + 1) outcome rest) :
      RetryRun m Inner attempt outcome (tr ++ asked ++ waited ++ rest)

/-- A run of a chain. What the base executor comes to leaves a coroutine. -/
def ChainRun (effect : E) (context : X) :
    List RetryMiddleware → Except Exc V → RetryTrace E X V → Prop
  | [], outcome, tr =>
    ∃ reply, tr = [⟨.base effect context, reply⟩] ∧ outcome = leavingCoroutine reply
  | m :: ms, outcome, tr => RetryRun m (ChainRun effect context ms) 1 outcome tr

section Runs

variable {m : RetryMiddleware} {effect : E} {context : X}

lemma OnlyBaseRaises.of_append {tr tr' : RetryTrace E X V} (h : OnlyBaseRaises (tr ++ tr')) :
    OnlyBaseRaises tr ∧ OnlyBaseRaises tr' :=
  List.forall_mem_append.1 h

/-- The selectors are asked. -/
lemma RetryMiddleware.shouldRetry_spec (error : Exc) :
    Spec (fun _ => True) (m.shouldRetry error : RetryM E X V Bool) () fun o _ tr =>
      OnlyBaseRaises tr → ∃ retry, o = .ok retry ∧ Asked m error tr retry := by
  unfold shouldRetry
  split
  · next htype => exact Spec.pure fun _ => ⟨true, rfl, .type htype⟩
  · next htype =>
    have hnot : m.retryOn error = false := eq_false_of_ne_true htype
    split
    · next hpredicate =>
      refine Spec.call_bind trivial fun reply => Spec.ofExcept fun hquiet => ?_
      obtain ⟨retry, rfl⟩ := hquiet _ List.mem_cons_self
      exact ⟨retry, rfl, .predicate hnot hpredicate retry⟩
    · next hpredicate =>
      exact Spec.pure fun _ => ⟨false, rfl, .none hnot (eq_false_of_ne_true hpredicate)⟩

/-- The seconds are known, or the strategy is asked for them. -/
lemma RetryMiddleware.delaySeconds_spec (attempt : ℕ) (error : Exc) :
    Spec (fun _ => True) (m.delaySeconds attempt error : RetryM E X V Seconds) () fun o _ tr =>
      OnlyBaseRaises tr → ∃ seconds, o = .ok seconds ∧ 0 ≤ seconds ∧
        ∀ slept, Slept m seconds slept → Waited m attempt error (tr ++ slept) := by
  unfold delaySeconds
  cases hdelay : m.delay with
  | seconds seconds =>
    exact Spec.pure fun _ => ⟨seconds, rfl, m.delay_nonneg seconds hdelay, fun slept hslept =>
      .seconds seconds hdelay slept hslept⟩
  | strategy =>
    refine Spec.call_bind trivial fun reply => Spec.ofExcept fun hquiet => ?_
    obtain ⟨seconds, rfl, hnonneg⟩ := hquiet _ List.mem_cons_self
    exact ⟨seconds, rfl, hnonneg, fun slept hslept => .strategy seconds hdelay slept hslept⟩

/-- The wait after a failed attempt. -/
lemma RetryMiddleware.wait_spec (attempt : ℕ) (error : Exc) :
    Spec (fun _ => True) (m.wait attempt error : RetryM E X V Unit) () fun o _ tr =>
      OnlyBaseRaises tr → o = .ok () ∧ Waited m attempt error tr := by
  unfold wait
  refine Spec.bind_assuming
    (P := fun seconds _ tr => 0 ≤ seconds ∧
      ∀ slept, Slept m seconds slept → Waited m attempt error (tr ++ slept))
    (fun _ _ => OnlyBaseRaises.of_append) (m.delaySeconds_spec attempt error)
    fun seconds _ tr hseconds => ?_
  obtain ⟨hnonneg, hwaited⟩ := hseconds
  split
  · next hneg => exact absurd hneg (Rat.not_lt.2 hnonneg)
  · split
    · next hne =>
      refine Spec.call_bind trivial fun reply => Spec.ofExcept fun hquiet => ?_
      obtain rfl : reply = .ok () := hquiet _ List.mem_cons_self
      exact ⟨rfl, hwaited _ (.pos _ (lt_of_le_of_ne hnonneg (Ne.symm hne)))⟩
    · next hzero =>
      rw [not_not.1 hzero] at hwaited
      exact Spec.pure fun _ => ⟨rfl, hwaited _ .zero⟩

/-- What happens after a failed attempt that may be followed by another: `x` is the rest of the
loop. -/
lemma RetryMiddleware.again_spec {Inner : Except Exc V → RetryTrace E X V → Prop}
    {x : RetryM E X V V} {attempt : ℕ} {error : Exc} {tr : RetryTrace E X V}
    (h : Inner (.error error) tr) (herror : error.IsOrdinary) (hlt : attempt < m.maxAttempts)
    (hx : Spec (fun _ => True) x () fun o _ tr =>
      OnlyBaseRaises tr → RetryRun m Inner (attempt + 1) o tr) :
    Spec (fun _ => True)
      (do
        let retry ← m.shouldRetry error
        if !retry then throw error
        else do
          m.wait attempt error
          x) () fun o _ tr' => OnlyBaseRaises tr' → RetryRun m Inner attempt o (tr ++ tr') := by
  refine Spec.bind_assuming (P := fun retry _ asked => Asked m error asked retry)
    (fun _ _ => OnlyBaseRaises.of_append) (m.shouldRetry_spec error) fun retry _ asked hasked => ?_
  cases retry with
  | false =>
    refine Spec.throw fun _ => ?_
    rw [List.append_nil]
    exact .unmatched attempt error tr asked h herror hlt hasked
  | true =>
    refine Spec.bind_assuming (P := fun _ _ waited => Waited m attempt error waited)
      (fun _ _ => OnlyBaseRaises.of_append)
      ((m.wait_spec attempt error).mono fun _ _ _ hwait hquiet => ⟨(), hwait hquiet⟩)
      fun _ _ waited hwaited => hx.mono fun outcome _ rest hrest hquiet => ?_
    rw [← List.append_assoc, ← List.append_assoc]
    exact .again attempt error tr asked waited outcome rest h herror hlt hasked hwaited
      (hrest hquiet)

/-- **The runs of a middleware**, by the runs of what it wraps. -/
theorem RetryMiddleware.loop_spec {Inner : Except Exc V → RetryTrace E X V → Prop}
    {callNext : NextExecutor E X V} (hnext : Spec (fun _ => True) (callNext effect context) ()
      fun o _ tr => OnlyBaseRaises tr → Inner o tr) {fuel attempt : ℕ} :
    Spec (fun _ => True) (m.loop effect context callNext fuel attempt) () fun o _ tr =>
      OnlyBaseRaises tr → RetryRun m Inner attempt o tr := by
  induction fuel generalizing attempt with
  | zero => trivial
  | succ fuel ih =>
    rw [loop]
    refine Spec.bind_assuming (P := fun outcome _ tr => Inner outcome tr)
      (fun _ _ => OnlyBaseRaises.of_append)
      (Spec.attempt (hnext.mono fun outcome _ tr h hquiet => ⟨outcome, rfl, h hquiet⟩))
      fun outcome _ tr hinner => ?_
    have hstop (hfinal : ¬ IsFailure outcome) : RetryRun m Inner attempt outcome (tr ++ []) := by
      rw [List.append_nil]
      exact .final attempt outcome tr hinner hfinal
    cases outcome with
    | ok value => exact Spec.pure fun _ => hstop fun h => h
    | error error =>
      dsimp only
      split
      · next hcancelled => exact Spec.throw fun _ => hstop fun h => h.1 hcancelled
      split
      · next hdispatch => exact Spec.throw fun _ => hstop fun h => h.2.1 hdispatch
      split
      · next hcancelled hdispatch hexception =>
        have herror : error.IsOrdinary := ⟨hcancelled, hdispatch, hexception⟩
        split
        · next hmax =>
          refine Spec.throw fun _ => ?_
          rw [List.append_nil]
          exact .exhausted attempt error tr hinner herror hmax
        · next hmax => exact m.again_spec hinner herror (not_le.1 hmax) ih
      · next hexception => exact Spec.throw fun _ => hstop fun h => hexception h.2.2

/-- A chain with one more middleware. -/
lemma MiddlewareExecutor.callNext_cons (middleware : EffectMiddleware E X V)
    (middlewares : List (EffectMiddleware E X V)) :
    callNext (middleware :: middlewares) =
      wrapMiddleware middleware (callNext middlewares) := by
  unfold callNext
  rw [List.reverse_cons, List.foldl_append]
  rfl

/-- A middleware ends as what it wraps. -/
lemma RetryRun.hasLeft {Inner : Except Exc V → RetryTrace E X V → Prop}
    (hinner : ∀ o tr, Inner o tr → HasLeft o) {attempt : ℕ} {outcome : Except Exc V}
    {tr : RetryTrace E X V} (h : RetryRun m Inner attempt outcome tr) : HasLeft outcome := by
  induction h with
  | final attempt outcome tr h _ => exact hinner outcome tr h
  | exhausted attempt error tr h _ _ => exact hinner _ tr h
  | unmatched attempt error tr asked h _ _ _ => exact hinner _ tr h
  | again _ _ _ _ _ _ _ _ _ _ _ _ _ ih => exact ih

/-- A chain does not end with a `StopIteration`. -/
lemma ChainRun.hasLeft {ms : List RetryMiddleware} {outcome : Except Exc V}
    {tr : RetryTrace E X V} (h : ChainRun effect context ms outcome tr) : HasLeft outcome := by
  induction ms generalizing outcome tr with
  | nil =>
    obtain ⟨reply, -, rfl⟩ := h
    exact hasLeft_leaving "coroutine" (.made 4) reply
  | cons m ms ih => exact RetryRun.hasLeft (fun _ _ => ih) h

/-- What a chain has come to leaves the coroutines around it unchanged. -/
lemma ChainRun.leaving_spec {ms : List RetryMiddleware} {x : RetryM E X V V}
    (h : Spec (fun _ => True) x () fun o _ tr =>
      OnlyBaseRaises tr → ChainRun effect context ms o tr) :
    Spec (fun _ => True) (asyncDef x) () fun o _ tr =>
      OnlyBaseRaises tr → ChainRun effect context ms o tr := by
  refine asyncDef_spec h fun o _ tr hrun hquiet => ?_
  have hchain := hrun hquiet
  rwa [leavingCoroutine, leaving_eq _ _ hchain.hasLeft]

/-- **The runs of a chain** of retries. -/
theorem MiddlewareExecutor.execute_spec (ms : List RetryMiddleware) :
    Spec (fun _ => True) (MiddlewareExecutor.execute (V := V) (ms.map RetryMiddleware.call) effect
      context) () fun o _ tr => OnlyBaseRaises tr → ChainRun effect context ms o tr := by
  refine ChainRun.leaving_spec ?_
  induction ms with
  | nil =>
    refine asyncDef_spec (P := fun o _ tr => tr = [⟨.base effect context, o⟩]) ?_
      fun o _ tr htr _ => ⟨o, htr, rfl⟩
    exact Spec.call_bind trivial fun reply => Spec.ofExcept rfl
  | cons m ms ih =>
    rw [List.map_cons, callNext_cons]
    exact ChainRun.leaving_spec (ChainRun.leaving_spec (RetryMiddleware.loop_spec ih))

lemma RetryMiddleware.shouldRetry_uncut (error : Exc) :
    Routine.Uncut (m.shouldRetry error : RetryM E X V Bool) := by
  unfold shouldRetry
  split
  · exact Uncut.pure _
  · split
    · exact (Uncut.call _).bind fun reply => Uncut.ofExcept reply
    · exact Uncut.pure _

lemma RetryMiddleware.delaySeconds_uncut (attempt : ℕ) (error : Exc) :
    Routine.Uncut (m.delaySeconds attempt error : RetryM E X V Seconds) := by
  unfold delaySeconds
  split
  · exact Uncut.pure _
  · exact (Uncut.call _).bind fun reply => Uncut.ofExcept reply

lemma RetryMiddleware.wait_uncut (attempt : ℕ) (error : Exc) :
    Routine.Uncut (m.wait attempt error : RetryM E X V Unit) := by
  refine (m.delaySeconds_uncut attempt error).bind fun seconds => ?_
  split
  · exact Uncut.throw _
  · split
    · exact (Uncut.call _).bind fun reply => Uncut.ofExcept reply
    · exact Uncut.pure _

/-- The loop of a middleware ends, since there is an attempt less each time. -/
lemma RetryMiddleware.loop_uncut {callNext : NextExecutor E X V}
    (hnext : Routine.Uncut (callNext effect context)) {fuel attempt : ℕ}
    (hfuel : m.maxAttempts < fuel + attempt) (hattempt : attempt ≤ m.maxAttempts) :
    Routine.Uncut (m.loop effect context callNext fuel attempt) := by
  induction fuel generalizing attempt with
  | zero => omega
  | succ fuel ih =>
    rw [loop]
    refine (Uncut.attempt hnext).bind fun outcome => ?_
    split
    · exact Uncut.pure _
    split
    · exact Uncut.throw _
    split
    · exact Uncut.throw _
    split
    · split
      · exact Uncut.throw _
      · refine (m.shouldRetry_uncut _).bind fun retry => ?_
        split
        · exact Uncut.throw _
        · exact (m.wait_uncut attempt _).bind fun _ => ih (by omega) (by omega)
    · exact Uncut.throw _

/-- **An execution ends**, whatever the collaborators do. -/
theorem MiddlewareExecutor.execute_uncut (ms : List RetryMiddleware) :
    Routine.Uncut (MiddlewareExecutor.execute (V := V) (ms.map RetryMiddleware.call) effect
      context) := by
  refine asyncDef_uncut ?_
  induction ms with
  | nil => exact asyncDef_uncut ((Uncut.call _).bind fun reply => Uncut.ofExcept reply)
  | cons m ms ih =>
    rw [List.map_cons, callNext_cons]
    exact asyncDef_uncut (asyncDef_uncut
      (m.loop_uncut ih m.maxAttempts.lt_succ_self m.one_le_maxAttempts))

end Runs

end PurrceptCore
