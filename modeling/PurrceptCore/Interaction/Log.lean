import PurrceptCore.Interaction.History
import PurrceptCore.Interaction.Routine

set_option relaxedAutoImplicit false
set_option autoImplicit false

/-!
# Specifications by the calls made

The monitor that remembers every call. A routine may be specified on its own, by the calls it makes
from an empty memory; wherever it is used, these calls come after those made before.

## Main definitions

* `Interaction.Monitor.log` — the monitor that remembers every call and assumes nothing.
* `Interaction.Routine.Spec` — a routine, by its outcome, its final state and its calls.
* `Interaction.Routine.Only` — a routine, by the calls that it makes.

## Main results

* `Interaction.Routine.wp_spec` — using a specification after other calls.
* `Interaction.Routine.Spec.bind`, `Interaction.Routine.Spec.tryCatch` — one rule for each way to
  build a routine.
-/

namespace Interaction

variable {C : Type} {R : C → Type} {α β : Type}

/-- The monitor that remembers every call. -/
abbrev Monitor.log (allow : Trace C R → C → Prop) : Monitor C R (Trace C R) :=
  .history (fun _ => true) allow fun _ _ => True

@[simp] lemma Monitor.log_next (allow : Trace C R → C → Prop) (h : Trace C R) (c : C)
    (r : R c) : (Monitor.log allow).next h c r = h ++ [⟨c, r⟩] := rfl

lemma kept_true (tr : Trace C R) : kept (fun _ => true) tr = tr :=
  List.filter_true tr

/-- **The frame rule.** What a program does from the memory `e` on it does from `h ++ e` on. -/
theorem Prog.wp_frame {allow allow' : Trace C R → C → Prop} {Q : α → Trace C R → Prop}
    {p : Prog C R α} {h e : Trace C R} (hp : wp (.log allow') Q p e)
    (hallow : ∀ e c, allow' e c → allow (h ++ e) c) :
    wp (.log allow) (fun a h' => ∃ e', h' = h ++ e' ∧ Q a e') p (h ++ e) := by
  induction p generalizing e with
  | ret a => exact ⟨e, rfl, hp⟩
  | call c k ih =>
    refine ⟨hallow e c hp.1, fun r hr => ?_⟩
    have hstep := ih r (hp.2 r hr)
    rw [Monitor.log_next, ← List.append_assoc] at hstep
    exact hstep
  | cut => trivial

/-- Two postconditions hold together. -/
lemma Prog.wp_and {σ : Type} {M : Monitor C R σ} {Q Q' : α → σ → Prop} {p : Prog C R α} {m : σ}
    (hp : wp M Q p m) (hp' : wp M Q' p m) : wp M (fun a m' => Q a m' ∧ Q' a m') p m := by
  induction p generalizing m with
  | ret a => exact ⟨hp, hp'⟩
  | call c k ih => exact ⟨hp.1, fun r hr => ih r (hp.2 r hr) (hp'.2 r hr)⟩
  | cut => trivial

/-- A program that makes only some calls keeps its postcondition under a monitor that allows
these. -/
lemma Prog.wp_restrict {allow allow' : Trace C R → C → Prop} {Q Q' : α → Trace C R → Prop}
    {p : Prog C R α} {e : Trace C R} (hp : wp (.log allow) Q p e)
    (hp' : wp (.log allow') Q' p e) : wp (.log allow') Q p e := by
  induction p generalizing e with
  | ret a => exact hp
  | call c k ih => exact ⟨hp'.1, fun r hr => ih r (hp.2 r hr) (hp'.2 r hr)⟩
  | cut => trivial

/-- A monitor may allow more. -/
lemma Prog.wp_allow {allow allow' : Trace C R → C → Prop} {Q : α → Trace C R → Prop}
    (h : ∀ e c, allow e c → allow' e c) {p : Prog C R α} {e : Trace C R}
    (hp : wp (.log allow) Q p e) : wp (.log allow') Q p e := by
  induction p generalizing e with
  | ret a => exact hp
  | call c k ih => exact ⟨h e c hp.1, fun r hr => ih r (hp.2 r hr)⟩
  | cut => trivial

/-- A program that may make every call meets the postcondition that says nothing. -/
lemma Prog.wp_any (p : Prog C R α) (e : Trace C R) :
    wp (.log fun _ _ => True) (fun _ _ => True) p e := by
  induction p generalizing e with
  | ret a => trivial
  | call c k ih => exact ⟨trivial, fun r _ => ih r _⟩
  | cut => trivial

/-- What has been called was allowed. -/
lemma Prog.wp_called {allow : C → Prop} {Q : α → Trace C R → Prop} {p : Prog C R α}
    {e : Trace C R} (hp : wp (.log fun _ => allow) Q p e) (he : ∀ x ∈ e, allow x.1) :
    wp (.log fun e c => (∀ x ∈ e, allow x.1) ∧ allow c)
      (fun a e => (∀ x ∈ e, allow x.1) ∧ Q a e) p e := by
  induction p generalizing e with
  | ret a => exact ⟨he, hp⟩
  | call c k ih =>
    refine ⟨⟨he, hp.1⟩, fun r hr => ih r (hp.2 r hr) fun x hx => ?_⟩
    rcases List.mem_append.1 hx with hx | hx
    · exact he x hx
    · rw [List.mem_singleton.1 hx]
      exact hp.1
  | cut => trivial

namespace Routine

variable {S ε : Type}

/-- `Spec allow x s P`: started in state `s`, the routine only makes calls that `allow` admits,
and when it ends, its outcome, its state and the calls it has made satisfy `P`. -/
def Spec (allow : C → Prop) (x : Routine S C R ε α) (s : S)
    (P : Except ε α → S → Trace C R → Prop) : Prop :=
  wp (.log fun _ => allow) x P s []

variable {allow : C → Prop} {x : Routine S C R ε α} {s : S}
  {P P' : Except ε α → S → Trace C R → Prop}

/-- Using a specification, after the calls `h`. -/
theorem wp_spec {allow' : Trace C R → C → Prop} {Q : Except ε α → S → Trace C R → Prop}
    {h : Trace C R} (hx : Spec allow x s P)
    (hallow : ∀ e c, (∀ x ∈ e, allow x.1) → allow c → allow' (h ++ e) c)
    (hQ : ∀ o s' e, (∀ x ∈ e, allow x.1) → P o s' e → Q o s' (h ++ e)) :
    wp (.log allow') x Q s h := by
  have hcalled := Prog.wp_called hx fun _ h => nomatch h
  have hframe := Prog.wp_frame (h := h) hcalled fun e c hc => hallow e c hc.1 hc.2
  rw [List.append_nil] at hframe
  refine Prog.wp_mono (fun o h' => ?_) hframe
  rintro ⟨e, rfl, he, hP⟩
  exact hQ o.1 o.2 e he hP

namespace Spec

/-- **Soundness** for a routine that has ended. -/
theorem sound {s' : S} {o : Except ε α} {tr : Trace C R} (hexec : Exec (x s) tr (.ret (o, s')))
    (hx : Spec allow x s P) : P o s' tr := by
  have hpost := Prog.history_ret hexec hx fun _ _ => trivial
  rwa [kept_true] at hpost

/-- The rule of consequence. -/
lemma mono (hx : Spec allow x s P) (h : ∀ o s' e, P o s' e → P' o s' e) : Spec allow x s P' :=
  wp_mono h hx

/-- Two specifications hold together. -/
lemma and (hx : Spec allow x s P) (hx' : Spec allow x s P') :
    Spec allow x s fun o s' e => P o s' e ∧ P' o s' e :=
  Prog.wp_and hx hx'

/-- More calls may be allowed; those that were made are among the ones allowed before. -/
lemma weaken {allow' : C → Prop} (hx : Spec allow x s P) (h : ∀ c, allow c → allow' c) :
    Spec allow' x s fun o s' e => (∀ y ∈ e, allow y.1) ∧ P o s' e := by
  refine wp_spec hx (fun _ c _ hc => h c hc) fun o s' e he hP => ?_
  exact ⟨he, hP⟩

lemma ofExcept {o : Except ε α} (h : P o s []) : Spec allow (Routine.ofExcept o) s P := h

lemma pure {a : α} (h : P (.ok a) s []) : Spec allow (Pure.pure a) s P := h

lemma throw {e : ε} (h : P (.error e) s []) : Spec allow (throw e) s P := h

/-- One call. -/
lemma call {c : C} {P : Except ε (R c) → S → Trace C R → Prop} (hc : allow c)
    (h : ∀ r, P (.ok r) s [⟨c, r⟩]) : Spec allow (Routine.call c) s P :=
  ⟨hc, fun r _ => h r⟩

/-- The rule for sequencing. -/
theorem bind {f : α → Routine S C R ε β} {Q : Except ε β → S → Trace C R → Prop}
    (hx : Spec allow x s P)
    (hok : ∀ a s' e, P (.ok a) s' e → Spec allow (f a) s' fun o s'' e' => Q o s'' (e ++ e'))
    (herr : ∀ err s' e, P (.error err) s' e → Q (.error err) s' e) :
    Spec allow (x >>= f) s Q := by
  unfold Spec
  rw [wp_bind]
  refine wp_mono (fun o s' e he => ?_) hx
  cases o with
  | error err => exact herr err s' e he
  | ok a => exact wp_spec (hok a s' e he) (fun _ _ _ hc => hc) fun _ _ _ _ hQ => hQ

/-- Reading the state, and what follows. -/
lemma get_bind {f : S → Routine S C R ε α} (h : Spec allow (f s) s P) :
    Spec allow (get >>= f) s P := h

/-- Replacing the state, and what follows. -/
lemma set_bind {s₁ : S} {g : PUnit → Routine S C R ε α} (h : Spec allow (g ()) s₁ P) :
    Spec allow (set s₁ >>= g) s P := h

/-- Changing the state, and what follows. -/
lemma modify_bind {f : S → S} {g : PUnit → Routine S C R ε α} (h : Spec allow (g ()) (f s) P) :
    Spec allow (modify f >>= g) s P := h

/-- One call, and what follows it. -/
theorem call_bind {c : C} {f : R c → Routine S C R ε α} {Q : Except ε α → S → Trace C R → Prop}
    (hc : allow c) (h : ∀ r, Spec allow (f r) s fun o s' e => Q o s' (⟨c, r⟩ :: e)) :
    Spec allow (Routine.call c >>= f) s Q :=
  bind (P := fun o s' e => s' = s ∧ ∃ r, o = .ok r ∧ e = [⟨c, r⟩])
    (call hc fun r => ⟨rfl, r, rfl, rfl⟩)
    (fun _ _ _ ⟨hs, _, hr, he⟩ => by cases hs; cases hr; cases he; exact h _)
    (fun _ _ _ ⟨_, _, hr, _⟩ => nomatch hr)

/-- The rule for a handler. -/
theorem tryCatch {f : ε → Routine S C R ε α} {Q : Except ε α → S → Trace C R → Prop}
    (hx : Spec allow x s P) (hok : ∀ a s' e, P (.ok a) s' e → Q (.ok a) s' e)
    (herr : ∀ err s' e, P (.error err) s' e →
      Spec allow (f err) s' fun o s'' e' => Q o s'' (e ++ e')) :
    Spec allow (tryCatch x f) s Q := by
  unfold Spec
  rw [wp_tryCatch]
  refine wp_mono (fun o s' e he => ?_) hx
  cases o with
  | error err => exact wp_spec (herr err s' e he) (fun _ _ _ hc => hc) fun _ _ _ _ hQ => hQ
  | ok a => exact hok a s' e he

/-- The rule for handing over an outcome. -/
theorem attempt {P : Except ε (Except ε α) → S → Trace C R → Prop}
    (hx : Spec allow x s fun o s' e => P (.ok o) s' e) : Spec allow (attempt x) s P :=
  (wp_attempt _ _ _ _ x).2 hx

/-- Where every call is allowed, a routine meets the postcondition that says nothing. -/
lemma any (x : Routine S C R ε α) (s : S) : Spec (fun _ => True) x s fun _ _ _ => True :=
  Prog.wp_any (x s) []

/-- The rule for sequencing under an assumption `H` on the calls, when the first part does not
raise under it. -/
theorem bind_assuming {H : Trace C R → Prop} {f : α → Routine S C R ε β}
    {P : α → S → Trace C R → Prop} {Q : Except ε β → S → Trace C R → Prop}
    (hH : ∀ e e', H (e ++ e') → H e ∧ H e')
    (hx : Spec (fun _ => True) x s fun o s' e => H e → ∃ a, o = .ok a ∧ P a s' e)
    (hf : ∀ a s' e, P a s' e → Spec (fun _ => True) (f a) s' fun o s'' e' =>
      H e' → Q o s'' (e ++ e')) :
    Spec (fun _ => True) (x >>= f) s fun o s' e => H e → Q o s' e := by
  refine hx.bind (fun a s' e hP => ?_) fun err s' e hP he => ?_
  · by_cases he : H e
    · obtain ⟨_, heq, hP⟩ := hP he
      cases heq
      exact (hf a s' e hP).mono fun o s'' e' hQ he' => hQ (hH e e' he').2
    · exact (any (f a) s').mono fun o s'' e' _ he' => absurd (hH e e' he').1 he
  · obtain ⟨_, heq, -⟩ := hP he
    cases heq

end Spec

/-! ### Which calls a routine makes -/

/-- Whatever its state, the routine makes only calls that `allow` admits. -/
def Only (allow : C → Prop) (x : Routine S C R ε α) : Prop :=
  ∀ s, Spec allow x s fun _ _ _ => True

/-- A specification holds with the calls that the routine makes only. -/
lemma Spec.restrict {allow' : C → Prop} (hx : Spec allow x s P) (hx' : Only allow' x) :
    Spec allow' x s P :=
  Prog.wp_restrict hx (hx' s)

namespace Only

lemma ofExcept (o : Except ε α) : Only allow (Routine.ofExcept o : Routine S C R ε α) :=
  fun _ => trivial

lemma pure (a : α) : Only allow (Pure.pure a : Routine S C R ε α) := fun _ => trivial

lemma throw (e : ε) : Only allow (throw e : Routine S C R ε α) := fun _ => trivial

lemma get : Only allow (get : Routine S C R ε S) := fun _ => trivial

lemma modify (f : S → S) : Only allow (modify f : Routine S C R ε PUnit) := fun _ => trivial

lemma call {c : C} (hc : allow c) : Only allow (Routine.call c : Routine S C R ε (R c)) :=
  fun _ => ⟨hc, fun _ _ => trivial⟩

/-- The rule for sequencing. -/
theorem bind {f : α → Routine S C R ε β} (hx : Only allow x) (hf : ∀ a, Only allow (f a)) :
    Only allow (x >>= f) :=
  fun s => (hx s).bind (fun a s' _ _ => hf a s') fun _ _ _ _ => trivial

/-- The rule for a handler. -/
theorem tryCatch {f : ε → Routine S C R ε α} (hx : Only allow x) (hf : ∀ e, Only allow (f e)) :
    Only allow (tryCatch x f) :=
  fun s => (hx s).tryCatch (fun _ _ _ _ => trivial) fun e s' _ _ => hf e s'

/-- The rule for handing over an outcome. -/
lemma attempt (hx : Only allow x) : Only allow (Routine.attempt x) :=
  fun s => Spec.attempt (hx s)

end Only

end Routine

end Interaction
