import PurrceptCore.Interaction.Monitor

set_option relaxedAutoImplicit false
set_option autoImplicit false

/-!
# Routines: state and exceptions over interaction programs

A routine is an interaction program with a state of its own, which survives exceptions, and
with exceptions that can be caught. It is the shape of a procedure of an imperative language
that calls collaborators, keeps local variables and objects, and uses `try`, `except`, `else`
and `finally`.

## Main definitions

* `Interaction.Routine` — routines with state `S` and exceptions `ε`; a monad, with the
  `throw`, `try`, `get`, `set` and `modify` of the `do` notation.
* `Interaction.Routine.attempt` — run a routine and hand over its outcome, return or exception,
  as a value: `try … except … else …`.
* `Interaction.Routine.tryFinally` — `try … finally …`.
* `Interaction.Routine.wp` — the weakest precondition of a routine; its postcondition speaks of
  the outcome, the state of the routine and the state of the monitor.

## Main results

* `Interaction.Routine.wp_bind`, `Interaction.Routine.wp_tryCatch`,
  `Interaction.Routine.wp_attempt`, `Interaction.Routine.wp_tryFinally` — one rule for each
  way to build a routine.
-/

namespace Interaction

/-- A routine: started in a state, it makes calls and ends with an outcome and a state. -/
def Routine (S C : Type) (R : C → Type) (ε α : Type) : Type :=
  S → Prog C R (Except ε α × S)

namespace Routine

variable {S C : Type} {R : C → Type} {ε α β : Type}

/-- End with a given outcome. -/
def ofExcept (o : Except ε α) : Routine S C R ε α := fun s => .ret (o, s)

/-- What follows an outcome: the next routine after a value, nothing after an exception. -/
def continueWith (f : α → Routine S C R ε β) : Except ε α × S → Prog C R (Except ε β × S)
  | (.ok a, s) => f a s
  | (.error e, s) => .ret (.error e, s)

/-- What follows an outcome under a handler: nothing after a value, the handler after an
exception. -/
def handleWith (h : ε → Routine S C R ε α) : Except ε α × S → Prog C R (Except ε α × S)
  | (.ok a, s) => .ret (.ok a, s)
  | (.error e, s) => h e s

instance : Monad (Routine S C R ε) where
  pure a := ofExcept (.ok a)
  bind x f := fun s => x s >>= continueWith f

instance : MonadExceptOf ε (Routine S C R ε) where
  throw e := ofExcept (.error e)
  tryCatch x h := fun s => x s >>= handleWith h

instance : MonadStateOf S (Routine S C R ε) where
  get := fun s => .ret (.ok s, s)
  set s := fun _ => .ret (.ok (), s)
  modifyGet f := fun s => .ret (.ok (f s).1, (f s).2)

/-- Make a call and return its reply. -/
def call (c : C) : Routine S C R ε (R c) := fun s => .call c fun r => .ret (.ok r, s)

/-- A branch that is not followed. -/
def cut : Routine S C R ε α := fun _ => .cut

/-- Run a routine and return its outcome, whichever it is. -/
def attempt (x : Routine S C R ε α) : Routine S C R ε (Except ε α) :=
  fun s => x s >>= fun o => .ret (.ok o.1, o.2)

/-- Run `x`, then `f` whatever the outcome of `x`; an exception of `f` replaces it. -/
def tryFinally (x : Routine S C R ε α) (f : Routine S C R ε Unit) : Routine S C R ε α := do
  let outcome ← attempt x
  f
  ofExcept outcome

/-- Reading the state. -/
lemma get_bind (f : S → Routine S C R ε α) (s : S) : (get >>= f) s = f s s := rfl

/-! ### Weakest preconditions -/

variable {σ : Type}

/-- The routine, started in state `s` while the monitor is in state `m`, keeps to the monitor
and ends with an outcome, a state and a monitor state that satisfy `Q`. -/
def wp (M : Monitor C R σ) (x : Routine S C R ε α) (Q : Except ε α → S → σ → Prop) (s : S)
    (m : σ) : Prop :=
  Prog.wp M (fun o m' => Q o.1 o.2 m') (x s) m

/-- A postcondition that treats values by `K` and exceptions by `Q`. -/
def onOk (K : α → S → σ → Prop) (Q : Except ε β → S → σ → Prop) : Except ε α → S → σ → Prop
  | .ok a, s, m => K a s m
  | .error e, s, m => Q (.error e) s m

/-- A postcondition that treats exceptions by `K` and values by `Q`. -/
def onError (K : ε → S → σ → Prop) (Q : Except ε α → S → σ → Prop) :
    Except ε α → S → σ → Prop
  | .ok a, s, m => Q (.ok a) s m
  | .error e, s, m => K e s m

@[simp] lemma onOk_ok (K : α → S → σ → Prop) (Q : Except ε β → S → σ → Prop) (a : α) (s : S)
    (m : σ) : onOk K Q (.ok a) s m ↔ K a s m := Iff.rfl

@[simp] lemma onOk_error (K : α → S → σ → Prop) (Q : Except ε β → S → σ → Prop) (e : ε)
    (s : S) (m : σ) : onOk K Q (.error e) s m ↔ Q (.error e) s m := Iff.rfl

@[simp] lemma onError_ok (K : ε → S → σ → Prop) (Q : Except ε α → S → σ → Prop) (a : α)
    (s : S) (m : σ) : onError K Q (.ok a) s m ↔ Q (.ok a) s m := Iff.rfl

@[simp] lemma onError_error (K : ε → S → σ → Prop) (Q : Except ε α → S → σ → Prop) (e : ε)
    (s : S) (m : σ) : onError K Q (.error e) s m ↔ K e s m := Iff.rfl

section Rules

variable (M : Monitor C R σ) (Q : Except ε α → S → σ → Prop) (s : S) (m : σ)

@[simp] lemma wp_ofExcept (o : Except ε α) : wp M (ofExcept o) Q s m ↔ Q o s m := Iff.rfl

@[simp] lemma wp_pure (a : α) : wp M (pure a) Q s m ↔ Q (.ok a) s m := Iff.rfl

@[simp] lemma wp_throw (e : ε) : wp M (throw e) Q s m ↔ Q (.error e) s m := Iff.rfl

@[simp] lemma wp_cut : wp M cut Q s m := trivial

@[simp] lemma wp_get (Q : Except ε S → S → σ → Prop) : wp M get Q s m ↔ Q (.ok s) s m := Iff.rfl

@[simp] lemma wp_set (Q : Except ε PUnit → S → σ → Prop) (s' : S) :
    wp M (set s') Q s m ↔ Q (.ok ()) s' m := Iff.rfl

@[simp] lemma wp_modify (Q : Except ε PUnit → S → σ → Prop) (f : S → S) :
    wp M (modify f) Q s m ↔ Q (.ok ()) (f s) m := Iff.rfl

@[simp] lemma wp_call (c : C) (Q : Except ε (R c) → S → σ → Prop) :
    wp M (call c) Q s m ↔ M.allow m c ∧ ∀ r, M.expect m c r → Q (.ok r) s (M.next m c r) :=
  Iff.rfl

/-- The rule for sequencing. -/
@[simp] theorem wp_bind {Q : Except ε β → S → σ → Prop} (x : Routine S C R ε α)
    (f : α → Routine S C R ε β) :
    wp M (x >>= f) Q s m ↔ wp M x (onOk (fun a => wp M (f a) Q) Q) s m := by
  refine (Prog.wp_bind (M := M) (x s) (continueWith f) m).trans (iff_of_eq ?_)
  unfold wp
  congr 1
  funext o
  obtain ⟨_ | _, _⟩ := o <;> rfl

/-- The rule for a handler. -/
@[simp] theorem wp_tryCatch (x : Routine S C R ε α) (h : ε → Routine S C R ε α) :
    wp M (tryCatch x h) Q s m ↔ wp M x (onError (fun e => wp M (h e) Q) Q) s m := by
  refine (Prog.wp_bind (M := M) (x s) (handleWith h) m).trans (iff_of_eq ?_)
  unfold wp
  congr 1
  funext o
  obtain ⟨_ | _, _⟩ := o <;> rfl

/-- The rule for handing over an outcome. -/
@[simp] theorem wp_attempt (Q : Except ε (Except ε α) → S → σ → Prop)
    (x : Routine S C R ε α) :
    wp M (attempt x) Q s m ↔ wp M x (fun o s' m' => Q (.ok o) s' m') s m :=
  Prog.wp_bind (M := M) (x s) _ m

/-- The rule for `finally`. -/
@[simp] theorem wp_tryFinally (x : Routine S C R ε α) (f : Routine S C R ε Unit) :
    wp M (tryFinally x f) Q s m ↔
      wp M x (fun o => wp M f (onOk (fun _ => Q o) Q)) s m := by
  simp only [tryFinally, wp_bind, wp_attempt, onOk_ok]
  rfl

end Rules

/-- The rule of consequence. -/
theorem wp_mono {M : Monitor C R σ} {Q Q' : Except ε α → S → σ → Prop} {x : Routine S C R ε α}
    {s : S} {m : σ} (h : ∀ o s' m', Q o s' m' → Q' o s' m') (hx : wp M x Q s m) :
    wp M x Q' s m :=
  Prog.wp_mono (fun o m' => h o.1 o.2 m') hx

/-- Soundness for a routine that has ended. -/
theorem wp_sound_ret {M : Monitor C R σ} {Q : Except ε α → S → σ → Prop}
    {x : Routine S C R ε α} {s s' : S} {m : σ} {o : Except ε α} {tr : Trace C R}
    (hx : Exec (x s) tr (.ret (o, s'))) (hp : wp M x Q s m) (he : M.Assumed m tr) :
    Q o s' (M.run m tr) := by
  have hQ := Prog.wp_sound_ret hx hp he
  exact hQ

end Routine

end Interaction
