import PurrceptCore.Interaction.Prog

set_option relaxedAutoImplicit false
set_option autoImplicit false

/-!
# Monitors and weakest preconditions

A *monitor* watches the calls of a program. It keeps a state, says which calls are allowed in
it, which replies the collaborators are assumed to give, and how a call and its reply change
it. The weakest precondition `Prog.wp` says that a program, started while the monitor is in a
given state, only makes allowed calls as long as the replies are as assumed, and that what it
returns satisfies a postcondition. Soundness (`Prog.wp_sound`) turns this into a statement
about every execution.

## Main definitions

* `Interaction.Monitor` — state changes, allowed calls and assumed replies.
* `Interaction.Monitor.run` — the state of a monitor after a trace.
* `Interaction.Monitor.Assumed`, `Interaction.Monitor.Allowed` — the replies of a trace are
  those assumed; its calls are allowed.
* `Interaction.Monitor.assuming` — a monitor with other assumptions.
* `Interaction.Prog.wp` — the weakest precondition.

## Main results

* `Interaction.Monitor.assumed_or_first` — a trace has a first reply that is not assumed, unless all
  of them are.

* `Interaction.Prog.wp_bind` — weakest preconditions compose along sequencing.
* `Interaction.Prog.wp_sound` — a program that meets its weakest precondition keeps to its
  monitor along every execution with the assumed replies.
* `Interaction.Prog.wp_sound_ret` — its postcondition holds of what it returns.
-/

namespace Interaction

/-- An observer of the calls of a program. -/
structure Monitor (C : Type) (R : C → Type) (σ : Type) where
  /-- The calls the program may make. -/
  allow : σ → C → Prop
  /-- The replies the collaborators may give. -/
  expect : σ → (c : C) → R c → Prop
  /-- The state after a call and its reply. -/
  next : σ → (c : C) → R c → σ

namespace Monitor

variable {C : Type} {R : C → Type} {σ : Type} (M : Monitor C R σ)

/-- The state after a trace. -/
def run : σ → Trace C R → σ
  | s, [] => s
  | s, ⟨c, r⟩ :: tr => run (M.next s c r) tr

/-- Every reply of the trace is one the monitor assumes. -/
def Assumed : σ → Trace C R → Prop
  | _, [] => True
  | s, ⟨c, r⟩ :: tr => M.expect s c r ∧ Assumed (M.next s c r) tr

/-- Every call of the trace is one the monitor allows. -/
def Allowed : σ → Trace C R → Prop
  | _, [] => True
  | s, ⟨c, r⟩ :: tr => M.allow s c ∧ Allowed (M.next s c r) tr

@[simp] lemma run_nil (s : σ) : M.run s [] = s := rfl

@[simp] lemma run_cons (s : σ) (c : C) (r : R c) (tr : Trace C R) :
    M.run s (⟨c, r⟩ :: tr) = M.run (M.next s c r) tr := rfl

lemma run_append (s : σ) (tr tr' : Trace C R) : M.run s (tr ++ tr') = M.run (M.run s tr) tr' := by
  induction tr generalizing s with
  | nil => rfl
  | cons x tr ih => exact ih _

lemma allowed_append {s : σ} {tr tr' : Trace C R} :
    M.Allowed s (tr ++ tr') ↔ M.Allowed s tr ∧ M.Allowed (M.run s tr) tr' := by
  induction tr generalizing s with
  | nil => exact ⟨fun h => ⟨trivial, h⟩, And.right⟩
  | cons x tr ih => exact (and_congr_right fun _ => ih).trans and_assoc.symm

/-- The replies of a trace are those assumed, or there is a first one that is not. -/
theorem assumed_or_first (s : σ) (tr : Trace C R) : M.Assumed s tr ∨ ∃ before x after,
    tr = before ++ x :: after ∧ M.Assumed s before ∧ ¬ M.expect (M.run s before) x.1 x.2 := by
  induction tr generalizing s with
  | nil => exact .inl trivial
  | cons x tr ih =>
    obtain ⟨c, r⟩ := x
    by_cases hr : M.expect s c r
    · rcases ih (M.next s c r) with h | ⟨before, y, after, rfl, hbefore, hy⟩
      · exact .inl ⟨hr, h⟩
      · exact .inr ⟨⟨c, r⟩ :: before, y, after, rfl, ⟨hr, hbefore⟩, hy⟩
    · exact .inr ⟨[], ⟨c, r⟩, tr, rfl, trivial, hr⟩

lemma assumed_append {s : σ} {tr tr' : Trace C R} :
    M.Assumed s (tr ++ tr') ↔ M.Assumed s tr ∧ M.Assumed (M.run s tr) tr' := by
  induction tr generalizing s with
  | nil => exact ⟨fun h => ⟨trivial, h⟩, And.right⟩
  | cons x tr ih => exact (and_congr_right fun _ => ih).trans and_assoc.symm

/-- The monitor with other assumptions about the replies. -/
def assuming (expect : σ → (c : C) → R c → Prop) : Monitor C R σ := { M with expect := expect }

@[simp] lemma assuming_run (expect : σ → (c : C) → R c → Prop) (s : σ) (tr : Trace C R) :
    (M.assuming expect).run s tr = M.run s tr := by
  induction tr generalizing s with
  | nil => rfl
  | cons x tr ih => exact ih _

end Monitor

namespace Prog

variable {C : Type} {R : C → Type} {σ α β : Type} (M : Monitor C R σ)

/-- The program keeps to the monitor from state `s` on, and what it returns satisfies `Q` in
the state reached. -/
def wp (Q : α → σ → Prop) : Prog C R α → σ → Prop
  | ret a, s => Q a s
  | call c k, s => M.allow s c ∧ ∀ r, M.expect s c r → wp Q (k r) (M.next s c r)
  | cut, _ => True

variable {M} {Q Q' : α → σ → Prop} {s : σ} {p q : Prog C R α} {tr : Trace C R}

@[simp] lemma wp_ret (a : α) : wp M Q (ret a) s ↔ Q a s := Iff.rfl

@[simp] lemma wp_call (c : C) (k : R c → Prog C R α) :
    wp M Q (call c k) s ↔ M.allow s c ∧ ∀ r, M.expect s c r → wp M Q (k r) (M.next s c r) :=
  Iff.rfl

@[simp] lemma wp_cut : wp M Q (cut : Prog C R α) s := trivial

/-- The weakest precondition of a sequence. -/
theorem wp_bind {Q : β → σ → Prop} (p : Prog C R α) (f : α → Prog C R β) (s : σ) :
    wp M Q (p >>= f) s ↔ wp M (fun a s' => wp M Q (f a) s') p s := by
  induction p generalizing s with
  | ret a => rfl
  | call c k ih => simp only [call_bind, wp_call, ih]
  | cut => rfl

/-- A weaker postcondition has a weaker precondition. -/
theorem wp_mono (h : ∀ a s', Q a s' → Q' a s') (hp : wp M Q p s) : wp M Q' p s := by
  induction p generalizing s with
  | ret a => exact h _ _ hp
  | call c k ih => exact ⟨hp.1, fun r hr => ih r (hp.2 r hr)⟩
  | cut => trivial

/-- **Soundness.** Along an execution with the assumed replies, a program that meets its
weakest precondition only makes allowed calls, and the program left over still meets its own.

**Proof sketch.** Induction on the execution: one call consumes one layer of `wp`. -/
theorem wp_sound (hx : Exec p tr q) (hp : wp M Q p s) (he : M.Assumed s tr) :
    M.Allowed s tr ∧ wp M Q q (M.run s tr) := by
  induction hx generalizing s with
  | refl p => exact ⟨trivial, hp⟩
  | step _ ih =>
    obtain ⟨ha, hw⟩ := ih (hp.2 _ he.1) he.2
    exact ⟨⟨hp.1, ha⟩, hw⟩

/-- Soundness for a program that has returned. -/
theorem wp_sound_ret {a : α} (hx : Exec p tr (ret a)) (hp : wp M Q p s)
    (he : M.Assumed s tr) : Q a (M.run s tr) :=
  (wp_sound hx hp he).2

end Prog

end Interaction
