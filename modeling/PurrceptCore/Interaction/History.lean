import Mathlib.Data.List.Induction
import PurrceptCore.Interaction.Monitor

set_option relaxedAutoImplicit false
set_option autoImplicit false

/-!
# Monitors that remember

The monitor that remembers the calls made so far, with their replies, leaving out those that
are of no interest. What it allows is a condition on a call and on the calls before it, so a
program that keeps to it satisfies that condition whenever it is about to make a call.

## Main definitions

* `Interaction.kept` — the part of a trace that is remembered.
* `Interaction.Monitor.history` — the remembering monitor.

## Main results

* `Interaction.Prog.history_call` — a program that keeps to the monitor satisfies its condition
  at every call.
* `Interaction.Prog.history_ret` — and its postcondition when it returns.
-/

namespace Interaction

variable {C : Type} {R : C → Type} {α β : Type}

/-- The calls of a trace selected by `keep`, with their replies. -/
def kept (keep : C → Bool) (tr : Trace C R) : Trace C R := tr.filter fun x => keep x.1

/-- What ignores the calls left out sees the same in the part that is kept. -/
lemma filterMap_kept {keep : C → Bool} {f : (Σ c, R c) → Option β}
    (hf : ∀ x, keep x.1 = false → f x = none) (tr : Trace C R) :
    (kept keep tr).filterMap f = tr.filterMap f := by
  induction tr with
  | nil => rfl
  | cons x tr ih =>
    unfold kept at ih ⊢
    cases hx : keep x.1 with
    | true => simp only [List.filter_cons, hx, ↓reduceIte, List.filterMap_cons, ih]
    | false => simp only [List.filter_cons, hx, List.filterMap_cons, hf x hx, ← ih]; rfl

namespace Monitor

variable (keep : C → Bool) (allow : Trace C R → C → Prop) (expect : (c : C) → R c → Prop)

/-- The monitor that remembers the calls selected by `keep`. A call is allowed in view of what
is remembered; the replies are assumed to satisfy `expect`. -/
def history : Monitor C R (Trace C R) where
  allow := allow
  expect := fun _ => expect
  next := fun h c r => if keep c then h ++ [⟨c, r⟩] else h

variable {keep allow expect}

lemma history_run (h tr : Trace C R) :
    (history keep allow expect).run h tr = h ++ kept keep tr := by
  induction tr generalizing h with
  | nil => simp [kept]
  | cons x tr ih =>
    obtain ⟨c, r⟩ := x
    rw [run_cons, ih]
    unfold kept
    cases hc : keep c <;> simp [history, hc]

lemma history_assumed (h tr : Trace C R) :
    (history keep allow expect).Assumed h tr ↔ ∀ x ∈ tr, expect x.1 x.2 := by
  induction tr generalizing h with
  | nil => simp [Assumed]
  | cons x tr ih => simp only [Assumed, ih, List.forall_mem_cons]; rfl

end Monitor

namespace Prog

variable {keep : C → Bool} {allow : Trace C R → C → Prop} {expect : (c : C) → R c → Prop}
  {Q : α → Trace C R → Prop} {p : Prog C R α} {tr : Trace C R}

/-- **Soundness at a call.** When a program that keeps to the monitor is about to make a call,
the call satisfies the condition of the monitor. -/
theorem history_call {c : C} {k : R c → Prog C R α} (hx : Exec p tr (.call c k))
    (hp : wp (.history keep allow expect) Q p []) (he : ∀ x ∈ tr, expect x.1 x.2) :
    allow (kept keep tr) c := by
  have hq := (wp_sound hx hp ((Monitor.history_assumed [] tr).2 he)).2
  rw [Monitor.history_run, List.nil_append] at hq
  exact hq.1

/-- **Soundness at the end.** -/
theorem history_ret {a : α} (hx : Exec p tr (.ret a))
    (hp : wp (.history keep allow expect) Q p []) (he : ∀ x ∈ tr, expect x.1 x.2) :
    Q a (kept keep tr) := by
  have hq := (wp_sound hx hp ((Monitor.history_assumed [] tr).2 he)).2
  rw [Monitor.history_run, List.nil_append] at hq
  exact hq

end Prog

/-- Before each call of a trace, the program waits for the reply to that call. -/
lemma Exec.before {p q : Prog C R α} {tr₁ tr₂ : Trace C R} {c : C} {r : R c}
    (h : Exec p (tr₁ ++ ⟨c, r⟩ :: tr₂) q) : ∃ k, Exec p tr₁ (.call c k) := by
  obtain ⟨q₁, h₁, h₂⟩ := h.split
  cases h₂ with
  | step h₂ => exact ⟨_, h₁⟩

/-- What holds of the empty trace, and is kept by each call the program makes, holds of every
trace of the program. -/
theorem Exec.trace_induction {p : Prog C R α} {I : Trace C R → Prop} (h0 : I [])
    (hstep : ∀ tr c k (r : R c), Exec p tr (.call c k) → I tr → I (tr ++ [⟨c, r⟩]))
    {tr : Trace C R} {q : Prog C R α} (h : Exec p tr q) : I tr := by
  induction tr using List.reverseRecOn generalizing q with
  | nil => exact h0
  | append_singleton tr x ih =>
    obtain ⟨c, r⟩ := x
    obtain ⟨k, hk⟩ := h.before
    exact hstep tr c k r hk (ih hk)

end Interaction
