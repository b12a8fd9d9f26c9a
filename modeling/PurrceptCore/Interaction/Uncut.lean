import PurrceptCore.Interaction.Handle
import PurrceptCore.Interaction.Routine

set_option relaxedAutoImplicit false
set_option autoImplicit false

/-!
# Programs without a branch that is cut

A program is *uncut* if every execution can go on until the program returns.

## Main definitions

* `Interaction.Prog.Uncut`, `Interaction.Routine.Uncut` — no branch is cut.

## Main results

* `Interaction.Exec.uncut` — executing an uncut program leaves an uncut one.
* `Interaction.Routine.Uncut.bind`, `Interaction.Routine.Uncut.tryCatch` — one rule for each way
  to build a routine.
-/

namespace Interaction

variable {C C' : Type} {R : C → Type} {R' : C' → Type} {α β : Type}

/-- No branch of the program is cut. -/
def Prog.Uncut : Prog C R α → Prop
  | ret _ => True
  | call _ k => ∀ r, (k r).Uncut
  | cut => False

namespace Prog

/-- A sequence of uncut programs is uncut. -/
lemma Uncut.bind {p : Prog C R α} {f : α → Prog C R β} (hp : p.Uncut)
    (hf : ∀ a, (f a).Uncut) : (p >>= f).Uncut := by
  induction p with
  | ret a => exact hf a
  | call c k ih => exact fun r => ih r (hp r)
  | cut => exact hp

/-- Calls that are carried out without a cut. -/
lemma Uncut.handle {h : ∀ c, Prog C' R' (R c)} {p : Prog C R α} (hp : p.Uncut)
    (hh : ∀ c, (h c).Uncut) : (p.handle h).Uncut := by
  induction p with
  | ret a => trivial
  | call c k ih => exact (hh c).bind fun r => ih r (hp r)
  | cut => exact hp

end Prog

/-- Executing an uncut program leaves an uncut one. -/
theorem Exec.uncut {p q : Prog C R α} {tr : Trace C R} (h : Exec p tr q) (hp : p.Uncut) :
    q.Uncut := by
  induction h with
  | refl => exact hp
  | step _ ih => exact ih (hp _)

/-- An uncut program that has not returned makes a call. -/
lemma Prog.Uncut.cases {p : Prog C R α} (hp : p.Uncut) :
    (∃ a, p = .ret a) ∨ ∃ c k, p = .call c k := by
  cases p with
  | ret a => exact .inl ⟨a, rfl⟩
  | call c k => exact .inr ⟨c, k, rfl⟩
  | cut => exact hp.elim

namespace Routine

variable {S ε : Type}

/-- No branch of the routine is cut, whatever its state. -/
def Uncut (x : Routine S C R ε α) : Prop := ∀ s, (x s).Uncut

namespace Uncut

lemma ofExcept (o : Except ε α) : Uncut (Routine.ofExcept o : Routine S C R ε α) :=
  fun _ => trivial

lemma pure (a : α) : Uncut (Pure.pure a : Routine S C R ε α) := fun _ => trivial

lemma throw (e : ε) : Uncut (throw e : Routine S C R ε α) := fun _ => trivial

lemma get : Uncut (get : Routine S C R ε S) := fun _ => trivial

lemma set (s : S) : Uncut (set s : Routine S C R ε PUnit) := fun _ => trivial

lemma modify (f : S → S) : Uncut (modify f : Routine S C R ε PUnit) := fun _ => trivial

lemma call (c : C) : Uncut (Routine.call c : Routine S C R ε (R c)) := fun _ _ => trivial

/-- The rule for sequencing. -/
theorem bind {x : Routine S C R ε α} {f : α → Routine S C R ε β} (hx : x.Uncut)
    (hf : ∀ a, (f a).Uncut) : (x >>= f).Uncut := by
  refine fun s => (hx s).bind ?_
  rintro ⟨_ | a, s'⟩
  · trivial
  · exact hf a s'

/-- The rule for a handler. -/
theorem tryCatch {x : Routine S C R ε α} {h : ε → Routine S C R ε α} (hx : x.Uncut)
    (hh : ∀ e, (h e).Uncut) : (tryCatch x h).Uncut := by
  refine fun s => (hx s).bind ?_
  rintro ⟨e | _, s'⟩
  · exact hh e s'
  · trivial

/-- The rule for handing over an outcome. -/
theorem attempt {x : Routine S C R ε α} (hx : x.Uncut) : (Routine.attempt x).Uncut :=
  fun s => (hx s).bind fun _ => trivial

end Uncut

end Routine

end Interaction
