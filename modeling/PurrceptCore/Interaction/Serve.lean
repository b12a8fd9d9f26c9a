import PurrceptCore.Interaction.Uncut

set_option relaxedAutoImplicit false
set_option autoImplicit false

/-!
# Serving the calls of a program

A collaborator may keep a state from one call to the next: each call of a program is carried out by
a routine over other calls, and the state of the routines is handed on.

## Main definitions

* `Interaction.Prog.serve` — carry out every call by a routine.

## Main results

* `Interaction.Prog.wp_serve` — what each call keeps, in view of the calls made so far, the program
  keeps as a whole.
* `Interaction.Prog.Uncut.serve` — serving cuts no branch.
-/

namespace Interaction

namespace Prog

variable {S C C' : Type} {R : C → Type} {R' : C' → Type} {ε α σ : Type}

/-- Carry out every call by the routine `h`. An exception of `h` is no reply: it ends the
program. -/
def serve (h : (c : C) → Routine S C' R' ε (R c)) : Prog C R α → Routine S C' R' ε α
  | ret a => pure a
  | call c k => h c >>= fun r => (k r).serve h
  | cut => Routine.cut

variable {h : (c : C) → Routine S C' R' ε (R c)} {M : Monitor C' R' σ}

/-- **The rule for serving.** An invariant may speak of the calls that the program has made, with
the replies they got. If every call keeps it, it holds in the end of an execution of the program.

**Proof sketch.** Induction on the program; a call is its routine followed by a smaller program. -/
theorem wp_serve {I : Trace C R → S → σ → Prop}
    (hcall : ∀ tr c s m, I tr s m → Routine.wp M (h c)
      (fun o s' m' => ∃ r, o = .ok r ∧ I (tr ++ [⟨c, r⟩]) s' m') s m)
    (p : Prog C R α) {tr : Trace C R} {s : S} {m : σ} (hI : I tr s m) :
    Routine.wp M (p.serve h)
      (fun o s' m' => ∃ a tr', o = .ok a ∧ Exec p tr' (.ret a) ∧ I (tr ++ tr') s' m') s m := by
  induction p generalizing tr s m with
  | ret a => exact ⟨a, [], rfl, .refl _, by rwa [List.append_nil]⟩
  | call c k ih =>
    refine (Routine.wp_bind _ _ _ _ _).2 (Routine.wp_mono ?_ (hcall tr c s m hI))
    rintro o s' m' ⟨r, rfl, hI'⟩
    rw [Routine.onOk_ok]
    refine Routine.wp_mono ?_ (ih r hI')
    rintro o s'' m'' ⟨a, tr', ho, hexec, hI''⟩
    refine ⟨a, ⟨c, r⟩ :: tr', ho, .step hexec, ?_⟩
    rwa [List.append_assoc, List.singleton_append] at hI''
  | cut => trivial

/-- Serving an uncut program by uncut routines. -/
theorem Uncut.serve {p : Prog C R α} (hp : p.Uncut) (hh : ∀ c, (h c).Uncut) :
    (p.serve h).Uncut := by
  induction p with
  | ret a => exact Routine.Uncut.pure a
  | call c k ih => exact (hh c).bind fun r => ih r (hp r)
  | cut => exact hp.elim

end Prog

end Interaction
