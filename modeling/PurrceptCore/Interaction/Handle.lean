import PurrceptCore.Interaction.History

set_option relaxedAutoImplicit false
set_option autoImplicit false

/-!
# Handling calls

A collaborator may itself be a program: a *handler* says how each call is carried out by a
program over other calls, and `Prog.handle` puts these programs in the place of the calls.

## Main definitions

* `Interaction.Prog.handle` — carry out every call by a handler.
* `Interaction.Handled` — the calls that are made in the place of the calls of a trace.

## Main results

* `Interaction.Prog.wp_handle` — a program that keeps to a monitor keeps, when its calls are
  handled, to a second one, if every handled call simulates a step of the first monitor.
* `Interaction.Exec.handle`, `Interaction.Exec.handle_inv` — the executions of a handled program are
  those of the program itself, call by call.
* `Interaction.Exec.handle_ret` — so are those that have returned.
-/

namespace Interaction

namespace Prog

variable {C C' : Type} {R : C → Type} {R' : C' → Type} {α σ τ : Type}

/-- Carry out every call by the handler `h`. -/
def handle (h : ∀ c, Prog C' R' (R c)) : Prog C R α → Prog C' R' α
  | ret a => ret a
  | call c k => h c >>= fun r => (k r).handle h
  | cut => cut

variable {M : Monitor C R σ} {M' : Monitor C' R' τ} {Q : α → σ → Prop} {Q' : α → τ → Prop}

/-- **Simulation.** Suppose that the states of the two monitors are related, and that whenever
`M` allows a call, its handler keeps to `M'`, ends with a reply that `M` assumes, and leaves the
states related. Then a program that keeps to `M` keeps to `M'` once its calls are handled.

**Proof sketch.** Induction on the program; a call is the handler of that call followed by a
smaller program, so `wp_bind` applies. -/
theorem wp_handle (h : ∀ c, Prog C' R' (R c)) (rel : σ → τ → Prop)
    (hcall : ∀ s t c, rel s t → M.allow s c →
      wp M' (fun r t' => M.expect s c r ∧ rel (M.next s c r) t') (h c) t)
    (hret : ∀ a s t, rel s t → Q a s → Q' a t) {p : Prog C R α} :
    ∀ {s : σ} {t : τ}, rel s t → wp M Q p s → wp M' Q' (p.handle h) t := by
  induction p with
  | ret a => exact fun hst hp => hret a _ _ hst hp
  | call c k ih =>
    intro s t hst hp
    rw [handle, wp_bind]
    refine wp_mono (fun r t' hr => ?_) (hcall s t c hst hp.1)
    exact ih r hr.2 (hp.2 r hr.1)
  | cut => exact fun _ _ => trivial

end Prog

section Executions

variable {C C' : Type} {R : C → Type} {R' : C' → Type} {α : Type}
  {h : ∀ c, Prog C' R' (R c)}

/-- The calls of the first trace, carried out one after the other, are those of the second. -/
inductive Handled (h : ∀ c, Prog C' R' (R c)) : Trace C R → Trace C' R' → Prop
  | nil : Handled h [] []
  | cons {c : C} {r : R c} {e : Trace C' R'} {tr : Trace C R} {tr' : Trace C' R'}
      (he : Exec (h c) e (.ret r)) (htr : Handled h tr tr') : Handled h (⟨c, r⟩ :: tr) (e ++ tr')

/-- One more call is carried out. -/
lemma Handled.snoc {tr : Trace C R} {tr' e : Trace C' R'} {c : C} {r : R c}
    (htr : Handled h tr tr') (he : Exec (h c) e (.ret r)) :
    Handled h (tr ++ [⟨c, r⟩]) (tr' ++ e) := by
  induction htr with
  | nil =>
    have hlast := Handled.cons he .nil
    rwa [List.append_nil] at hlast
  | cons he' _ ih =>
    rw [List.append_assoc]
    exact .cons he' ih

/-- Where a program goes, it goes with its calls carried out. -/
theorem Exec.handle {p q : Prog C R α} {tr : Trace C R} {tr' : Trace C' R'} (hp : Exec p tr q)
    (htr : Handled h tr tr') : Exec (p.handle h) tr' (q.handle h) := by
  induction hp generalizing tr' with
  | refl =>
    cases htr
    exact .refl _
  | step _ ih =>
    cases htr with
    | cons he htr => exact (he.bind _).append (ih htr)

/-- An execution of a handled program is one of the program, in which the handler of the next call
may have begun.

**Proof sketch.** Induction on the program; a call is the handler of that call, which has ended or
not, followed by a smaller program. -/
theorem Exec.handle_inv {p : Prog C R α} {tr' : Trace C' R'} {q' : Prog C' R' α}
    (hp : Exec (p.handle h) tr' q') : ∃ tr before q, Exec p tr q ∧ Handled h tr before ∧
      ((tr' = before ∧ q' = q.handle h) ∨ ∃ c k e x, q = .call c k ∧ tr' = before ++ e ∧
        Exec (h c) e x ∧ (∀ r, x ≠ .ret r) ∧ q' = x >>= fun r => (k r).handle h) := by
  induction p generalizing tr' with
  | ret a =>
    obtain ⟨rfl, rfl⟩ := Exec.ret_inv hp
    exact ⟨[], [], .ret a, .refl _, .nil, .inl ⟨rfl, rfl⟩⟩
  | cut =>
    obtain ⟨rfl, rfl⟩ := Exec.cut_inv hp
    exact ⟨[], [], .cut, .refl _, .nil, .inl ⟨rfl, rfl⟩⟩
  | call c k ih =>
    rcases Exec.bind_inv hp with ⟨x, hx, hne, rfl⟩ | ⟨e, r, rest, rfl, he, hrest⟩
    · exact ⟨[], [], .call c k, .refl _, .nil, .inr ⟨c, k, tr', x, rfl, rfl, hx, hne, rfl⟩⟩
    · obtain ⟨tr, before, q, hq, hbefore, hend⟩ := ih r hrest
      refine ⟨⟨c, r⟩ :: tr, e ++ before, q, .step hq, .cons he hbefore, ?_⟩
      rcases hend with ⟨rfl, rfl⟩ | ⟨c', k', e', x, rfl, rfl, hx, hne, rfl⟩
      · exact .inl ⟨rfl, rfl⟩
      · exact .inr ⟨c', k', e', x, rfl, (List.append_assoc _ _ _).symm, hx, hne, rfl⟩

/-- A program that has returned was not waiting for anything. -/
lemma Prog.bind_eq_ret {β : Type} {p : Prog C R α} {f : α → Prog C R β} {b : β}
    (heq : .ret b = p >>= f) : ∃ a, p = .ret a := by
  cases p with
  | ret a => exact ⟨a, rfl⟩
  | call c k => cases heq
  | cut => cases heq

/-- **A handled program that has returned** has run with each call carried out.

**Proof sketch.** Induction on the program; the handler of a call has ended before what follows. -/
theorem Exec.handle_ret {p : Prog C R α} {tr' : Trace C' R'} {a : α}
    (hp : Exec (p.handle h) tr' (.ret a)) : ∃ tr, Exec p tr (.ret a) ∧ Handled h tr tr' := by
  induction p generalizing tr' with
  | ret b =>
    obtain ⟨rfl, heq⟩ := Exec.ret_inv hp
    cases heq
    exact ⟨[], .refl _, .nil⟩
  | cut =>
    obtain ⟨-, heq⟩ := Exec.cut_inv hp
    cases heq
  | call c k ih =>
    rcases Exec.bind_inv hp with ⟨x, -, hne, heq⟩ | ⟨e, r, rest, rfl, he, hrest⟩
    · obtain ⟨r, hr⟩ := Prog.bind_eq_ret heq
      exact absurd hr (hne r)
    · obtain ⟨tr, hq, htr⟩ := ih r hrest
      exact ⟨⟨c, r⟩ :: tr, .step hq, .cons he htr⟩

end Executions

end Interaction
