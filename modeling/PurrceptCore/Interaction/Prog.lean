import Mathlib.Tactic.Common
import Mathlib.Data.List.Basic

set_option relaxedAutoImplicit false
set_option autoImplicit false

/-!
# Interaction programs and their executions

A program that talks to collaborators it does not control: it makes *calls*, one at a time,
and continues with the reply. Nothing is said about how a reply comes about, so a statement
about all executions of a program is a statement about every behaviour of its collaborators,
with whatever state they keep or share.

## Main definitions

* `Interaction.Prog` — a program making calls `c : C`, each answered by a reply in `R c`.
* `Interaction.Exec` — `Exec p tr q`: after the calls and replies recorded in `tr`, the
  program `p` has become `q`.

## Main results

* `Interaction.Exec.bind_inv` — an execution of a sequence is an execution of its first part,
  followed by one of the second once the first has returned.
* `Interaction.Exec.append`, `Interaction.Exec.split` — executions compose and split.
* `Interaction.Exec.play` — a script of replies gives an execution.
-/

namespace Interaction

/-- A program over the calls `C`, the replies `R` and the results `α`. The leaf `cut` marks a
branch that is not followed any further, such as a loop whose unrolling has run out. -/
inductive Prog (C : Type) (R : C → Type) (α : Type) : Type
  | ret (a : α)
  | call (c : C) (k : R c → Prog C R α)
  | cut

/-- The calls made so far, each with its reply. -/
abbrev Trace (C : Type) (R : C → Type) : Type := List (Σ c, R c)

variable {C : Type} {R : C → Type} {α β : Type}

namespace Prog

/-- Run `p`, then continue with its result. -/
def bind : Prog C R α → (α → Prog C R β) → Prog C R β
  | ret a, f => f a
  | call c k, f => call c fun r => (k r).bind f
  | cut, _ => cut

instance : Monad (Prog C R) where
  pure := ret
  bind := bind

/-- Make one call and return its reply. -/
def perform (c : C) : Prog C R (R c) := call c ret

@[simp] lemma pure_def (a : α) : (pure a : Prog C R α) = ret a := rfl

@[simp] lemma ret_bind (a : α) (f : α → Prog C R β) : (ret a : Prog C R α) >>= f = f a := rfl

@[simp] lemma call_bind (c : C) (k : R c → Prog C R α) (f : α → Prog C R β) :
    call c k >>= f = call c fun r => k r >>= f := rfl

@[simp] lemma cut_bind (f : α → Prog C R β) : (cut : Prog C R α) >>= f = cut := rfl

/-- A program that waits has not returned. -/
lemma call_ne_ret (c : C) (k : R c → Prog C R α) (a : α) : call c k ≠ ret a := by
  intro h
  cases h

/-- Sequencing is associative. -/
lemma bind_assoc {γ : Type} (p : Prog C R α) (f : α → Prog C R β) (g : β → Prog C R γ) :
    (p >>= f) >>= g = p >>= fun a => f a >>= g := by
  induction p with
  | ret a => rfl
  | call c k ih => simp only [call_bind, ih]
  | cut => rfl

/-- What follows a program matters only at its results. -/
lemma bind_congr {f g : α → Prog C R β} (p : Prog C R α) (h : ∀ a, f a = g a) :
    p >>= f = p >>= g :=
  congrArg (Prog.bind p) (funext h)

/-- A call and what follows it. -/
lemma call_congr {c : C} {k k' : R c → Prog C R α} (h : ∀ r, k r = k' r) :
    call c k = call c k' :=
  congrArg (call c) (funext h)

end Prog

/-- `Exec p tr q`: the program `p` has made the calls of `tr`, received the replies recorded
there, and has become `q`. So `q = ret a` says that `p` has returned `a`, and
`q = call c k` that it waits for the reply to `c`. -/
inductive Exec : Prog C R α → Trace C R → Prog C R α → Prop
  | refl (p : Prog C R α) : Exec p [] p
  | step {c : C} {k : R c → Prog C R α} {r : R c} {tr : Trace C R} {q : Prog C R α}
      (h : Exec (k r) tr q) : Exec (.call c k) (⟨c, r⟩ :: tr) q

namespace Exec

variable {p q q' : Prog C R α} {tr tr' : Trace C R}

/-- A program that has returned makes no call. -/
lemma ret_inv {a : α} (h : Exec (.ret a) tr q) : tr = [] ∧ q = .ret a := by
  cases h
  exact ⟨rfl, rfl⟩

/-- A branch that is not followed makes no call. -/
lemma cut_inv (h : Exec (.cut : Prog C R α) tr q) : tr = [] ∧ q = .cut := by
  cases h
  exact ⟨rfl, rfl⟩

/-- Executions compose. -/
lemma append (h : Exec p tr q) (h' : Exec q tr' q') : Exec p (tr ++ tr') q' := by
  induction h with
  | refl p => exact h'
  | step _ ih => exact .step (ih h')

/-- An execution passes through every prefix of its trace. -/
lemma split (h : Exec p (tr ++ tr') q') : ∃ q, Exec p tr q ∧ Exec q tr' q' := by
  induction tr generalizing p with
  | nil => exact ⟨p, .refl p, h⟩
  | cons x tr ih =>
    cases h with
    | step h =>
      obtain ⟨q, hq, hq'⟩ := ih h
      exact ⟨q, .step hq, hq'⟩

/-- One more call and its reply. -/
lemma snoc {c : C} {k : R c → Prog C R α} (h : Exec p tr (.call c k)) (r : R c) :
    Exec p (tr ++ [⟨c, r⟩]) (k r) :=
  h.append (.step (.refl _))

/-- An execution of a sequence, as one of its first part. -/
lemma bind (h : Exec p tr q) (f : α → Prog C R β) : Exec (p >>= f) tr (q >>= f) := by
  induction h with
  | refl p => exact .refl _
  | step _ ih => exact .step ih

/-- An execution of a sequence is an execution of its first part, which has not returned, or one
in which the first part has returned and the second has been entered.

**Proof sketch.** Induction on the first part. If it has returned, the whole execution belongs
to the second; if it makes a call, the reply leads to a smaller first part. -/
lemma bind_inv {f : α → Prog C R β} {q : Prog C R β} (h : Exec (p >>= f) tr q) :
    (∃ q₁, Exec p tr q₁ ∧ (∀ a, q₁ ≠ .ret a) ∧ q = q₁ >>= f) ∨
      ∃ tr₁ a tr₂, tr = tr₁ ++ tr₂ ∧ Exec p tr₁ (.ret a) ∧ Exec (f a) tr₂ q := by
  induction p generalizing tr with
  | ret a => exact .inr ⟨[], a, tr, rfl, .refl _, h⟩
  | cut =>
    obtain ⟨rfl, rfl⟩ := cut_inv h
    exact .inl ⟨.cut, .refl _, nofun, rfl⟩
  | call c k ih =>
    cases h with
    | refl => exact .inl ⟨.call c k, .refl _, Prog.call_ne_ret c k, rfl⟩
    | step h =>
      rcases ih _ h with ⟨q₁, hq₁, hne, rfl⟩ | ⟨tr₁, a, tr₂, rfl, h₁, h₂⟩
      · exact .inl ⟨q₁, .step hq₁, hne, rfl⟩
      · exact .inr ⟨_ :: tr₁, a, tr₂, rfl, .step h₁, h₂⟩

end Exec

/-! ### Playing a script -/

/-- The execution in which the calls are answered, one after the other, as the script says: the
calls with their replies, and what the program has become at the end of the script. -/
def Prog.play : List ((c : C) → R c) → Prog C R α → Trace C R × Prog C R α
  | answer :: script, .call c k =>
    (⟨c, answer c⟩ :: (play script (k (answer c))).1, (play script (k (answer c))).2)
  | _, p => ([], p)

/-- In a play of one answer function, every reply is the answer to its call. -/
lemma Prog.mem_play {answer : (c : C) → R c} {n : ℕ} {p : Prog C R α} {x : Σ c, R c}
    (h : x ∈ (p.play (List.replicate n answer)).1) : x.2 = answer x.1 := by
  induction n generalizing p with
  | zero => cases p <;> cases h
  | succ n ih =>
    cases p with
    | ret a => cases h
    | cut => cases h
    | call c k =>
      rcases List.mem_cons.1 h with rfl | h
      · rfl
      · exact ih h

/-- A play is an execution. -/
theorem Exec.play (script : List ((c : C) → R c)) (p : Prog C R α) :
    Exec p (p.play script).1 (p.play script).2 := by
  induction script generalizing p with
  | nil => cases p <;> exact .refl _
  | cons answer script ih =>
    cases p with
    | ret a => exact .refl _
    | cut => exact .refl _
    | call c k => exact .step (ih _)

end Interaction
