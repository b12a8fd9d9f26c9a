import Mathlib.Algebra.BigOperators.Group.List.Basic
import PurrceptCore.Driver.Middleware

set_option relaxedAutoImplicit false
set_option autoImplicit false

/-!
# How often an effect is executed

A chain of retries executes an effect at most as often as the product of the limits says, never
again after an outcome that is not an ordinary failure, and ends as the last execution has ended.

## Main definitions

* `PurrceptCore.baseOutcomes`, `PurrceptCore.delaysAsked` — the outcomes of the base executor and
  the calls of the delay strategies, in a trace.
* `PurrceptCore.ExecutesAtMost` — how often the base executor is called.
* `PurrceptCore.SingleRun` — a run of one middleware, attempt by attempt.

## Main results

* `PurrceptCore.RetryRun.executes` — one middleware multiplies the number of executions.
* `PurrceptCore.MiddlewareExecutor.execute_retries` — the theorem about chains and about a single
  middleware.
-/

namespace PurrceptCore

open Interaction Routine

variable {E X V : Type}

/-! ### What is read from a trace -/

/-- The outcome of the base executor, for its calls, as it leaves the coroutine. -/
def baseOutcome? : (Σ c : RetryCall E X, RetryReply V c) → Option (Except Exc V)
  | ⟨.base _ _, reply⟩ => some (leavingCoroutine reply)
  | _ => none

/-- The outcomes of the base executor, in order. -/
def baseOutcomes (tr : RetryTrace E X V) : List (Except Exc V) := tr.filterMap baseOutcome?

/-- The attempt and the error, for the calls of a delay strategy. -/
def delayAsked? : (Σ c : RetryCall E X, RetryReply V c) → Option (ℕ × Exc)
  | ⟨.delay _ attempt error, _⟩ => some (attempt, error)
  | _ => none

/-- The calls of the delay strategies, in order. -/
def delaysAsked (tr : RetryTrace E X V) : List (ℕ × Exc) := tr.filterMap delayAsked?

/-- The base executor is called at most `limit` times, and only after ordinary failures: never again
when it has succeeded, was cancelled or has raised an `EventDispatchError`. -/
structure ExecutesAtMost (limit : ℕ) (tr : RetryTrace E X V) : Prop where
  bound : (baseOutcomes tr).length ≤ limit
  failures : ∀ outcome ∈ (baseOutcomes tr).dropLast, IsFailure outcome

/-- An attempt that is followed by another: what the base executor has replied, the error with
which that leaves the coroutine, the calls of the selectors about it and the calls of the wait after
it. -/
structure FailedAttempt (E X V : Type) where
  reply : Except Exc V
  error : Exc
  asked : RetryTrace E X V
  waited : RetryTrace E X V

/-- Why an attempt with this outcome and this number is the last one, with the calls of the
selectors about it: it is a success, a cancellation or another outcome that is never retried; there
are no more attempts; or its error is not matched. -/
inductive IsLast (m : RetryMiddleware) (attempt : ℕ) : Except Exc V → RetryTrace E X V → Prop
  | final (outcome : Except Exc V) (h : ¬ IsFailure outcome) : IsLast m attempt outcome []
  | exhausted (error : Exc) (h : attempt = m.maxAttempts) : IsLast m attempt (.error error) []
  | unmatched (error : Exc) (asked : RetryTrace E X V) (h : Asked m error asked false) :
      IsLast m attempt (.error error) asked

/-- A run of one middleware from the attempt `first` on, which ends with `outcome`. -/
structure RunFrom (m : RetryMiddleware) (effect : E) (context : X) (first : ℕ)
    (outcome : Except Exc V) (tr : RetryTrace E X V) (earlier : List (FailedAttempt E X V))
    (reply : Except Exc V) (last : RetryTrace E X V) : Prop where
  /-- One execution for each attempt. -/
  trace : tr = earlier.flatMap (fun a =>
    ⟨.base effect context, a.reply⟩ :: (a.asked ++ a.waited)) ++
      ⟨.base effect context, reply⟩ :: last
  /-- The outcome is that of the last attempt. -/
  ends : outcome = leavingCoroutine reply
  /-- No attempt before the last one had a reason to be the last one. -/
  again : ∀ i a, earlier[i]? = some a → leavingCoroutine a.reply = .error a.error ∧
    a.error.IsOrdinary ∧ first + i < m.maxAttempts ∧
    Asked m a.error a.asked true ∧ Waited m (first + i) a.error a.waited
  /-- The last attempt has one. -/
  last : IsLast m (first + earlier.length) outcome last
  /-- A delay strategy is asked once about each attempt before the last one. -/
  delays : m.delay = .strategy →
    delaysAsked tr = earlier.mapIdx fun i a => (first + i, a.error)

/-- **A run of one middleware**: it stops at the first attempt that has a reason to be the last one,
and asks for the delay after each attempt before it. -/
def SingleRun (m : RetryMiddleware) (effect : E) (context : X) (outcome : Except Exc V)
    (tr : RetryTrace E X V) : Prop :=
  ∃ earlier reply last, RunFrom m effect context 1 outcome tr earlier reply last

/-! ### One middleware -/

section Runs

variable {m : RetryMiddleware} {effect : E} {context : X} {error : Exc}
  {tr asked waited : RetryTrace E X V}

lemma baseOutcomes_append (tr tr' : RetryTrace E X V) :
    baseOutcomes (tr ++ tr') = baseOutcomes tr ++ baseOutcomes tr' :=
  List.filterMap_append

lemma delaysAsked_append (tr tr' : RetryTrace E X V) :
    delaysAsked (tr ++ tr') = delaysAsked tr ++ delaysAsked tr' :=
  List.filterMap_append

lemma Asked.baseOutcomes {retry : Bool} (h : Asked m error asked retry) :
    baseOutcomes asked = [] := by
  cases h <;> rfl

lemma Asked.delaysAsked {retry : Bool} (h : Asked m error asked retry) :
    delaysAsked asked = [] := by
  cases h <;> rfl

lemma Waited.baseOutcomes {attempt : ℕ} (h : Waited m attempt error waited) :
    baseOutcomes waited = [] := by
  cases h with
  | seconds _ _ _ hslept => cases hslept <;> rfl
  | strategy _ _ _ hslept => cases hslept <;> rfl

/-- The strategy is asked once. -/
lemma Waited.delaysAsked {attempt : ℕ} (h : Waited m attempt error waited)
    (hstrategy : m.delay = .strategy) : delaysAsked waited = [(attempt, error)] := by
  cases h with
  | seconds _ hdelay _ _ =>
    rw [hstrategy] at hdelay
    cases hdelay
  | strategy _ _ _ hslept => cases hslept <;> rfl

/-- The first of two parts of a run, when the second has executed the base executor as well. -/
lemma ExecutesAtMost.append {limit limit' : ℕ} {tr' : RetryTrace E X V} {outcome : Except Exc V}
    (h : ExecutesAtMost limit tr) (hlast : (baseOutcomes tr).getLast? = some (.error error))
    (herror : error.IsOrdinary) (h' : ExecutesAtMost limit' tr')
    (hlast' : (baseOutcomes tr').getLast? = some outcome) :
    ExecutesAtMost (limit + limit') (tr ++ tr') where
  bound := by
    rw [baseOutcomes_append, List.length_append]
    exact Nat.add_le_add h.bound h'.bound
  failures := by
    have hne : baseOutcomes tr' ≠ [] := by
      intro hnil
      rw [hnil] at hlast'
      cases hlast'
    obtain ⟨before, hbefore⟩ := List.getLast?_eq_some_iff.1 hlast
    rw [baseOutcomes_append, List.dropLast_append_of_ne_nil hne]
    intro o ho
    rcases List.mem_append.1 ho with ho | ho
    · rw [hbefore] at ho
      rcases List.mem_append.1 ho with ho | ho
      · refine h.failures o ?_
        rw [hbefore, List.dropLast_concat]
        exact ho
      · rw [List.mem_singleton.1 ho]
        exact herror
    · exact h'.failures o ho

/-- **One middleware multiplies the number of executions** by the number of attempts that are left,
and ends as the last execution has ended. -/
theorem RetryRun.executes {Inner : Except Exc V → RetryTrace E X V → Prop} {limit : ℕ}
    (hinner : ∀ o tr, Inner o tr → ExecutesAtMost limit tr ∧ (baseOutcomes tr).getLast? = some o)
    {attempt : ℕ} {outcome : Except Exc V} (h : RetryRun m Inner attempt outcome tr)
    (hattempt : attempt ≤ m.maxAttempts) :
    ExecutesAtMost (limit * (m.maxAttempts + 1 - attempt)) tr ∧
      (baseOutcomes tr).getLast? = some outcome := by
  have hle (attempt : ℕ) (hattempt : attempt ≤ m.maxAttempts) :
      limit ≤ limit * (m.maxAttempts + 1 - attempt) :=
    Nat.le_mul_of_pos_right limit (by omega)
  induction h with
  | final attempt outcome tr h _ =>
    obtain ⟨hmost, hlast⟩ := hinner outcome tr h
    exact ⟨⟨hmost.bound.trans (hle attempt hattempt), hmost.failures⟩, hlast⟩
  | exhausted attempt error tr h _ _ =>
    obtain ⟨hmost, hlast⟩ := hinner _ tr h
    exact ⟨⟨hmost.bound.trans (hle attempt hattempt), hmost.failures⟩, hlast⟩
  | unmatched attempt error tr asked h _ _ hasked =>
    obtain ⟨hmost, hlast⟩ := hinner _ tr h
    have hsame : baseOutcomes (tr ++ asked) = baseOutcomes tr := by
      rw [baseOutcomes_append, hasked.baseOutcomes, List.append_nil]
    rw [hsame]
    refine ⟨⟨?_, ?_⟩, hlast⟩
    · rw [hsame]
      exact hmost.bound.trans (hle attempt hattempt)
    · rw [hsame]
      exact hmost.failures
  | again attempt error tr asked waited outcome rest h herror hlt hasked hwaited _ ih =>
    obtain ⟨hmost, hlast⟩ := hinner _ tr h
    obtain ⟨hmost', hlast'⟩ := ih (by omega)
    have hsame : baseOutcomes (tr ++ asked ++ waited) = baseOutcomes tr := by
      rw [baseOutcomes_append, baseOutcomes_append, hasked.baseOutcomes, hwaited.baseOutcomes,
        List.append_nil, List.append_nil]
    have hmost'' : ExecutesAtMost limit (tr ++ asked ++ waited) :=
      ⟨by rw [hsame]; exact hmost.bound, by rw [hsame]; exact hmost.failures⟩
    have hsum : limit * (m.maxAttempts + 1 - attempt) =
        limit + limit * (m.maxAttempts + 1 - (attempt + 1)) := by
      obtain ⟨k, hk⟩ : ∃ k, m.maxAttempts = attempt + k := ⟨m.maxAttempts - attempt, by omega⟩
      rw [hk, show attempt + k + 1 - attempt = k + 1 by omega,
        show attempt + k + 1 - (attempt + 1) = k by omega, Nat.mul_succ, Nat.add_comm]
    rw [hsum]
    refine ⟨hmost''.append (by rwa [hsame]) herror hmost' hlast', ?_⟩
    rw [baseOutcomes_append, List.getLast?_append, hlast']
    rfl

/-- A run of one middleware around the base executor, attempt by attempt. -/
theorem RetryRun.runFrom {attempt : ℕ} {outcome : Except Exc V}
    (h : RetryRun m (ChainRun effect context []) attempt outcome tr)
    (hattempt : attempt ≤ m.maxAttempts) :
    ∃ earlier reply last, RunFrom m effect context attempt outcome tr earlier reply last := by
  induction h with
  | final attempt outcome tr h hfinal =>
    obtain ⟨reply, rfl, houtcome⟩ := h
    exact ⟨[], reply, [], rfl, houtcome, by simp, .final outcome hfinal, fun _ => rfl⟩
  | exhausted attempt error tr h _ hmax =>
    obtain ⟨reply, rfl, houtcome⟩ := h
    exact ⟨[], reply, [], rfl, houtcome, by simp,
      .exhausted error (le_antisymm hattempt hmax), fun _ => rfl⟩
  | unmatched attempt error tr asked h _ _ hasked =>
    obtain ⟨reply, rfl, houtcome⟩ := h
    refine ⟨[], reply, asked, rfl, houtcome, by simp, .unmatched error asked hasked, fun _ => ?_⟩
    rw [delaysAsked_append, hasked.delaysAsked]
    rfl
  | again attempt error tr asked waited outcome rest h herror hlt hasked hwaited _ ih =>
    obtain ⟨reply, rfl, houtcome⟩ := h
    obtain ⟨earlier, reply', last, hrun⟩ := ih (by omega)
    refine ⟨⟨reply, error, asked, waited⟩ :: earlier, reply', last, ?_, hrun.ends, ?_, ?_, ?_⟩
    · rw [List.flatMap_cons, hrun.trace]
      simp only [List.cons_append, List.nil_append, List.append_assoc]
    · intro i a ha
      cases i with
      | zero =>
        cases ha
        exact ⟨houtcome.symm, herror, hlt, hasked, hwaited⟩
      | succ i =>
        have hagain := hrun.again i a ha
        rwa [show attempt + 1 + i = attempt + (i + 1) by omega] at hagain
    · have hlast := hrun.last
      rwa [show attempt + 1 + earlier.length = attempt + (earlier.length + 1) by omega] at hlast
    · intro hstrategy
      rw [delaysAsked_append, delaysAsked_append, delaysAsked_append, hasked.delaysAsked,
        hwaited.delaysAsked hstrategy, hrun.delays hstrategy, List.mapIdx_cons]
      have hshift : (fun (i : ℕ) (a : FailedAttempt E X V) => (attempt + 1 + i, a.error)) =
          fun i a => (attempt + (i + 1), a.error) := by
        funext i a
        rw [show attempt + 1 + i = attempt + (i + 1) by omega]
      rw [hshift]
      rfl

/-! ### Chains -/

/-- A chain executes at most as often as the product of the limits says, and ends as the last
execution has ended. -/
theorem ChainRun.executes {ms : List RetryMiddleware} {outcome : Except Exc V}
    (h : ChainRun effect context ms outcome tr) :
    ExecutesAtMost (ms.map RetryMiddleware.maxAttempts).prod tr ∧
      (baseOutcomes tr).getLast? = some outcome := by
  induction ms generalizing outcome tr with
  | nil =>
    obtain ⟨reply, rfl, rfl⟩ := h
    exact ⟨⟨le_rfl, fun o ho => absurd ho List.not_mem_nil⟩, rfl⟩
  | cons m ms ih =>
    have hrun := RetryRun.executes (fun o tr => ih) h m.one_le_maxAttempts
    rwa [Nat.add_sub_cancel, Nat.mul_comm] at hrun

/-- Replies with which nothing but the base executor raises. -/
def quietAnswer : (c : RetryCall E X) → RetryReply V c
  | .base _ _ => .error (retryValueError "")
  | .predicate _ _ => .ok false
  | .delay _ _ _ => .ok 0
  | .sleep _ _ => .ok ()

lemma onlyBaseRaises_of_answers {tr : RetryTrace E X V} (h : Answers quietAnswer tr) :
    OnlyBaseRaises tr := by
  intro x hx
  obtain ⟨c, reply⟩ := x
  obtain rfl : reply = quietAnswer c := h _ hx
  cases c with
  | base effect context => trivial
  | predicate self error => exact ⟨false, rfl⟩
  | delay self attempt error => exact ⟨0, rfl, le_rfl⟩
  | sleep self seconds => rfl

/-- What holds of a trace holds of its beginning. -/
lemma ExecutesAtMost.of_append {limit : ℕ} {tr' : RetryTrace E X V}
    (h : ExecutesAtMost limit (tr ++ tr')) : ExecutesAtMost limit tr where
  bound := by
    have hbound := h.bound
    rw [baseOutcomes_append, List.length_append] at hbound
    omega
  failures o ho := by
    refine h.failures o ?_
    rw [baseOutcomes_append]
    by_cases hnil : baseOutcomes tr' = []
    · rwa [hnil, List.append_nil]
    · rw [List.dropLast_append_of_ne_nil hnil]
      exact List.mem_append_left _ (List.dropLast_subset _ ho)

end Runs

/-- **How often an effect is executed.** A chain of retries ends, whatever the collaborators do. If
nothing but the base executor raises, then the base executor is called at most as often as the
product of the limits says, and only after ordinary failures, and the chain returns or raises what
the last call has returned or raised. A single middleware stops at the first attempt at which there
is a reason to, and asks its delay strategy once about each attempt before. -/
theorem MiddlewareExecutor.execute_retries (effect : E) (context : X) :
    (∀ ms : List RetryMiddleware,
      Routine.Uncut (execute (V := V) (ms.map RetryMiddleware.call) effect context) ∧
      (∀ tr q, Exec (execute (V := V) (ms.map RetryMiddleware.call) effect context ()) tr q →
        OnlyBaseRaises tr → ExecutesAtMost (ms.map RetryMiddleware.maxAttempts).prod tr) ∧
      ∀ tr outcome s, Exec (execute (V := V) (ms.map RetryMiddleware.call) effect context ()) tr
        (.ret (outcome, s)) → OnlyBaseRaises tr → (baseOutcomes tr).getLast? = some outcome) ∧
    ∀ (m : RetryMiddleware) tr outcome s,
      Exec (execute (V := V) [m.call] effect context ()) tr (.ret (outcome, s)) →
        OnlyBaseRaises tr → SingleRun m effect context outcome tr := by
  refine ⟨fun ms => ⟨execute_uncut ms, fun tr q hexec hquiet => ?_,
    fun tr outcome s hexec hquiet => ?_⟩, fun m tr outcome s hexec hquiet => ?_⟩
  · -- an execution that goes on is the beginning of one that ends
    obtain ⟨tr', result, hexec', hanswers⟩ := hexec.extend (execute_uncut ms ()) quietAnswer
    have hall : OnlyBaseRaises (tr ++ tr') :=
      List.forall_mem_append.2 ⟨hquiet, onlyBaseRaises_of_answers hanswers⟩
    have hrun := Spec.sound hexec' (execute_spec ms) hall
    exact hrun.executes.1.of_append
  · exact (Spec.sound hexec (execute_spec ms) hquiet).executes.2
  · have hrun := Spec.sound hexec (execute_spec [m]) hquiet
    exact RetryRun.runFrom hrun m.one_le_maxAttempts

/-- A strategy has no fixed delay, which might be negative. -/
lemma RetryDelay.strategy_nonneg (seconds : Seconds) (h : RetryDelay.strategy = .seconds seconds) :
    0 ≤ seconds := by
  cases h

/-- A middleware that makes two attempts and asks a strategy how long to wait in between. -/
def twoAttempts : RetryMiddleware where
  object := .made 0
  maxAttempts := 2
  retryOn _ := true
  predicate := false
  delay := .strategy
  one_le_maxAttempts := Nat.le_succ 1
  delay_nonneg := RetryDelay.strategy_nonneg

/-- An execution that fails, a wait of a second, and an execution that succeeds. -/
def secondAttempt : RetryTrace Unit Unit Unit :=
  [⟨.base () (), .error (retryValueError "busy")⟩,
    ⟨.delay (.made 0) 1 (retryValueError "busy"), .ok 1⟩, ⟨.sleep (.made 0) 1, .ok ()⟩,
    ⟨.base () (), .ok ()⟩]

/-- The second attempt is the last one, and the strategy was asked about the first. -/
theorem MiddlewareExecutor.execute_retries_twice :
    ExecutesAtMost 2 secondAttempt ∧ SingleRun twoAttempts () () (.ok ()) secondAttempt := by
  have hexec : Exec (execute (V := Unit) [twoAttempts.call] () () ()) secondAttempt
      (.ret (.ok (), ())) := .step (.step (.step (.step (.refl _))))
  have hquiet : OnlyBaseRaises secondAttempt := by
    intro x hx
    simp only [secondAttempt, List.mem_cons, List.not_mem_nil, or_false] at hx
    rcases hx with rfl | rfl | rfl | rfl
    · trivial
    · exact ⟨1, rfl, by decide⟩
    · rfl
    · trivial
  obtain ⟨hchains, hsingle⟩ := execute_retries (V := Unit) () ()
  exact ⟨(hchains [twoAttempts]).2.1 _ _ hexec hquiet, hsingle _ _ _ () hexec hquiet⟩

end PurrceptCore
