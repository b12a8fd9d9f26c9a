import PurrceptCore.Interaction.Routine

set_option relaxedAutoImplicit false
set_option autoImplicit false

/-!
# What a program can do

Weakest preconditions say what a program does whatever it is replied. Their dual says that there are
replies with which it comes to an end as wanted.

## Main definitions

* `Interaction.Prog.can`, `Interaction.Routine.can` — with some of the replies that are expected,
  the program ends so that the postcondition holds; it speaks of the outcome, of the state of the
  routine and of the calls with their replies.

## Main results

* `Interaction.Routine.can_bind`, `Interaction.Routine.can_tryCatch`,
  `Interaction.Routine.can_attempt`, `Interaction.Routine.can_tryFinally` — one rule for each way to
  build a routine.
* `Interaction.Routine.can.exec` — what can be is an execution.

## Design

* A branch that is not followed does not come to an end, so a program that runs out of fuel cannot
  do anything.
-/

namespace Interaction

variable {C : Type} {R : C → Type} {α β : Type}

namespace Prog

/-- With some of the replies that are expected, the program returns, and then `Q` holds of its
result and of all calls. -/
def can (expect : (c : C) → R c → Prop) (Q : α → Trace C R → Prop) :
    Prog C R α → Trace C R → Prop
  | ret a, tr => Q a tr
  | call c k, tr => ∃ r, expect c r ∧ (k r).can expect Q (tr ++ [⟨c, r⟩])
  | cut, _ => False

variable {expect : (c : C) → R c → Prop}

lemma can_bind {Q : β → Trace C R → Prop} (p : Prog C R α) (f : α → Prog C R β) (tr : Trace C R) :
    (p >>= f).can expect Q tr ↔ p.can expect (fun a => (f a).can expect Q) tr := by
  induction p generalizing tr with
  | ret a => exact Iff.rfl
  | call c k ih => exact exists_congr fun r => and_congr_right fun _ => ih r _
  | cut => exact Iff.rfl

lemma can_mono {Q Q' : α → Trace C R → Prop} (h : ∀ a tr, Q a tr → Q' a tr) {p : Prog C R α}
    {tr : Trace C R} (hp : p.can expect Q tr) : p.can expect Q' tr := by
  induction p generalizing tr with
  | ret a => exact h a tr hp
  | call c k ih =>
    obtain ⟨r, hr, hrest⟩ := hp
    exact ⟨r, hr, ih r hrest⟩
  | cut => exact hp

/-- What a program can do is an execution. -/
lemma can.exec {Q : α → Trace C R → Prop} {p : Prog C R α} {tr : Trace C R}
    (h : p.can expect Q tr) :
    ∃ tr' a, Exec p tr' (.ret a) ∧ (∀ x ∈ tr', expect x.1 x.2) ∧ Q a (tr ++ tr') := by
  induction p generalizing tr with
  | ret a =>
    refine ⟨[], a, .refl _, fun _ h => absurd h List.not_mem_nil, ?_⟩
    rwa [List.append_nil]
  | call c k ih =>
    obtain ⟨r, hr, hrest⟩ := h
    obtain ⟨tr', a, hexec, hexpect, hQ⟩ := ih r hrest
    refine ⟨⟨c, r⟩ :: tr', a, .step hexec, List.forall_mem_cons.2 ⟨hr, hexpect⟩, ?_⟩
    rwa [List.append_cons]
  | cut => exact h.elim

end Prog

namespace Routine

variable {S ε : Type}

/-- With some of the replies that are expected, the routine ends with an outcome, a state and a
trace that satisfy `Q`. -/
def can (expect : (c : C) → R c → Prop) (x : Routine S C R ε α)
    (Q : Except ε α → S → Trace C R → Prop) (s : S) (tr : Trace C R) : Prop :=
  (x s).can expect (fun o tr' => Q o.1 o.2 tr') tr

section Rules

variable (expect : (c : C) → R c → Prop) (Q : Except ε α → S → Trace C R → Prop) (s : S)
  (tr : Trace C R)

@[simp] lemma can_ofExcept (o : Except ε α) : can expect (ofExcept o) Q s tr ↔ Q o s tr := Iff.rfl

@[simp] lemma can_pure (a : α) : can expect (pure a) Q s tr ↔ Q (.ok a) s tr := Iff.rfl

@[simp] lemma can_throw (e : ε) : can expect (throw e) Q s tr ↔ Q (.error e) s tr := Iff.rfl

@[simp] lemma can_get (Q : Except ε S → S → Trace C R → Prop) :
    can expect get Q s tr ↔ Q (.ok s) s tr := Iff.rfl

@[simp] lemma can_modify (Q : Except ε PUnit → S → Trace C R → Prop) (f : S → S) :
    can expect (modify f) Q s tr ↔ Q (.ok ()) (f s) tr := Iff.rfl

@[simp] lemma can_call (c : C) (Q : Except ε (R c) → S → Trace C R → Prop) :
    can expect (call c) Q s tr ↔ ∃ r, expect c r ∧ Q (.ok r) s (tr ++ [⟨c, r⟩]) := Iff.rfl

/-- Sequencing. -/
@[simp] theorem can_bind {Q : Except ε β → S → Trace C R → Prop} (x : Routine S C R ε α)
    (f : α → Routine S C R ε β) :
    can expect (x >>= f) Q s tr ↔ can expect x (onOk (fun a => can expect (f a) Q) Q) s tr := by
  refine (Prog.can_bind (x s) (continueWith f) tr).trans (iff_of_eq ?_)
  unfold can
  congr 1
  funext o
  obtain ⟨_ | _, _⟩ := o <;> rfl

/-- A handler. -/
@[simp] theorem can_tryCatch (x : Routine S C R ε α) (h : ε → Routine S C R ε α) :
    can expect (tryCatch x h) Q s tr ↔
      can expect x (onError (fun e => can expect (h e) Q) Q) s tr := by
  refine (Prog.can_bind (x s) (handleWith h) tr).trans (iff_of_eq ?_)
  unfold can
  congr 1
  funext o
  obtain ⟨_ | _, _⟩ := o <;> rfl

/-- Handing over an outcome. -/
@[simp] theorem can_attempt (Q : Except ε (Except ε α) → S → Trace C R → Prop)
    (x : Routine S C R ε α) :
    can expect (attempt x) Q s tr ↔ can expect x (fun o s' tr' => Q (.ok o) s' tr') s tr :=
  Prog.can_bind (x s) _ tr

/-- `finally`. -/
@[simp] theorem can_tryFinally (x : Routine S C R ε α) (f : Routine S C R ε Unit) :
    can expect (tryFinally x f) Q s tr ↔
      can expect x (fun o => can expect f (onOk (fun _ => Q o) Q)) s tr := by
  simp only [tryFinally, can_bind, can_attempt, onOk_ok]
  rfl

end Rules

variable {expect : (c : C) → R c → Prop} {x : Routine S C R ε α}
  {Q Q' : Except ε α → S → Trace C R → Prop} {s : S} {tr : Trace C R}

/-- Consequence. -/
theorem can_mono (h : ∀ o s' tr', Q o s' tr' → Q' o s' tr') (hx : can expect x Q s tr) :
    can expect x Q' s tr := by
  refine Prog.can_mono ?_ hx
  exact fun o tr' => h o.1 o.2 tr'

/-- What a routine can do is an execution. -/
theorem can.exec (h : can expect x Q s []) :
    ∃ tr o s', Exec (x s) tr (.ret (o, s')) ∧ (∀ x ∈ tr, expect x.1 x.2) ∧ Q o s' tr := by
  obtain ⟨tr, ⟨o, s'⟩, hexec, hexpect, hQ⟩ := Prog.can.exec h
  exact ⟨tr, o, s', hexec, hexpect, hQ⟩

end Routine

end Interaction
