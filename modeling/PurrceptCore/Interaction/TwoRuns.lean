import PurrceptCore.Interaction.Routine

set_option relaxedAutoImplicit false
set_option autoImplicit false

/-!
# Two runs that look alike

An observer who sees only part of the calls and of their replies cannot tell two programs apart if
they make calls that look alike as long as the replies do.

## Main definitions

* `Interaction.View` — what an observer sees of calls and of their replies.
* `Interaction.Prog.Alike` — two programs look alike, and what they return is related.
* `Interaction.Outcomes` — two outcomes are both values or both exceptions, and related.
* `Interaction.Routine.Alike` — two routines look alike, keep a relation between their states, and
  their outcomes are both values or both exceptions, and related.

## Main results

* `Interaction.Exec.alike` — executions of programs that look alike are seen to be the same.
* `Interaction.Routine.Alike.bind`, `Interaction.Routine.Alike.tryCatch` — one rule for each way to
  build a routine.
-/

namespace Interaction

variable {C : Type} {R : C → Type} {α α' β β' : Type}

/-- What an observer sees of calls and of their replies. -/
structure View (C : Type) (R : C → Type) where
  Call : Type
  Reply : Type
  call : C → Call
  reply : (c : C) → R c → Reply

/-- What the observer sees of a call with its reply. -/
def View.exchange (V : View C R) (x : Σ c, R c) : V.Call × V.Reply := (V.call x.1, V.reply x.1 x.2)

/-- Wherever the calls of two executions look alike, the replies do. -/
def View.AnsweredAlike (V : View C R) (tr tr' : Trace C R) : Prop :=
  ∀ (i : ℕ) (x x' : Σ c, R c), tr[i]? = some x → tr'[i]? = some x' → V.call x.1 = V.call x'.1 →
    V.reply x.1 x.2 = V.reply x'.1 x'.2

/-- The rest of executions whose replies look alike. -/
lemma View.AnsweredAlike.tail {V : View C R} {x x' : Σ c, R c} {tr tr' : Trace C R}
    (h : V.AnsweredAlike (x :: tr) (x' :: tr')) : V.AnsweredAlike tr tr' :=
  fun i => h (i + 1)

/-! ### Programs -/

/-- The programs make calls that look alike as long as the replies do, and then return what is
related by `Q`. -/
inductive Prog.Alike (V : View C R) (Q : α → β → Prop) : Prog C R α → Prog C R β → Prop
  | ret {a : α} {b : β} (h : Q a b) : Prog.Alike V Q (.ret a) (.ret b)
  | call {c d : C} {k : R c → Prog C R α} {l : R d → Prog C R β} (hcall : V.call c = V.call d)
      (h : ∀ r r', V.reply c r = V.reply d r' → Prog.Alike V Q (k r) (l r')) :
      Prog.Alike V Q (.call c k) (.call d l)
  | cut : Prog.Alike V Q .cut .cut

variable {V : View C R} {p : Prog C R α} {p' : Prog C R β}

/-- Sequences of programs that look alike look alike. -/
theorem Prog.Alike.bind {P : α → β → Prop} {Q : α' → β' → Prop} {f : α → Prog C R α'}
    {f' : β → Prog C R β'} (h : p.Alike V P p') (hf : ∀ a b, P a b → (f a).Alike V Q (f' b)) :
    (p >>= f).Alike V Q (p' >>= f') := by
  induction h with
  | ret h => exact hf _ _ h
  | call hcall _ ih => exact .call hcall ih
  | cut => exact .cut

/-- **Executions of programs that look alike are seen to be the same**, and what they return is
related, if the replies look alike.

**Proof sketch.** Induction on the likeness of the programs. If they have returned, there are no
calls. If they make calls, these look alike, hence so do the replies, and what is left of the
executions is executions of programs that look alike. -/
theorem Exec.alike {Q : α → β → Prop} {tr tr' : Trace C R} {a : α} {b : β} (hp : p.Alike V Q p')
    (h : Exec p tr (.ret a)) (h' : Exec p' tr' (.ret b)) (hreplies : V.AnsweredAlike tr tr') :
    tr.map V.exchange = tr'.map V.exchange ∧ Q a b := by
  induction hp generalizing tr tr' with
  | ret hQ =>
    obtain ⟨rfl, ha⟩ := h.ret_inv
    obtain ⟨rfl, hb⟩ := h'.ret_inv
    cases ha
    cases hb
    exact ⟨rfl, hQ⟩
  | @call c d k l hcall _ ih =>
    cases h with
    | @step _ _ r tr _ h =>
      cases h' with
      | @step _ _ r' tr' _ h' =>
        have hr : V.reply c r = V.reply d r' := hreplies 0 _ _ rfl rfl hcall
        obtain ⟨htr, hQ⟩ := ih r r' hr h h' hreplies.tail
        have hexchange : V.exchange ⟨c, r⟩ = V.exchange ⟨d, r'⟩ := Prod.ext hcall hr
        exact ⟨by rw [List.map_cons, List.map_cons, htr, hexchange], hQ⟩
  | cut =>
    obtain ⟨-, hcut⟩ := h.cut_inv
    cases hcut

/-! ### Outcomes -/

/-- Both outcomes are values, related by `P`, or both are exceptions, related by `E`. -/
def Outcomes {ε δ : Type} (P : α → β → Prop) (E : ε → δ → Prop) :
    Except ε α → Except δ β → Prop
  | .ok a, .ok b => P a b
  | .error e, .error f => E e f
  | _, _ => False

namespace Outcomes

variable {ε δ : Type} {P : α → β → Prop} {E : ε → δ → Prop} {o : Except ε α} {o' : Except δ β}

/-- Outcomes may be related more weakly. -/
lemma mono {P' : α → β → Prop} {E' : ε → δ → Prop} (h : Outcomes P E o o')
    (hP : ∀ a b, P a b → P' a b) (hE : ∀ e f, E e f → E' e f) : Outcomes P' E' o o' := by
  cases o <;> cases o'
  · exact hE _ _ h
  · exact h
  · exact h
  · exact hP _ _ h

/-- The outcomes of sequences. -/
theorem bind {Q : α' → β' → Prop} {f : α → Except ε α'} {g : β → Except δ β'}
    (h : Outcomes P E o o') (hf : ∀ a b, P a b → Outcomes Q E (f a) (g b)) :
    Outcomes Q E (o >>= f) (o' >>= g) := by
  cases o <;> cases o'
  · exact h
  · exact h.elim
  · exact h.elim
  · exact hf _ _ h

/-- The outcomes of sequences that begin with one outcome. -/
lemma bind_same {E : ε → ε → Prop} {Q : α' → β' → Prop} {f : α → Except ε α'} {g : α → Except ε β'}
    (hE : ∀ e, E e e) (hf : ∀ a, Outcomes Q E (f a) (g a)) (o : Except ε α) :
    Outcomes Q E (o >>= f) (o >>= g) := by
  cases o with
  | ok a => exact hf a
  | error e => exact hE e

/-- Outcomes are related if they are the same when exceptions are seen through `f`. -/
lemma of_mapError {κ : Type} {f : ε → κ} {o o' : Except ε α}
    (h : o.mapError f = o'.mapError f) : Outcomes (· = ·) (fun e e' => f e = f e') o o' := by
  cases o <;> cases o'
  · exact Except.error.inj h
  · cases h
  · cases h
  · exact Except.ok.inj h

/-- Values are related as they are seen through `f` and `g`. -/
lemma of_map {Q : α' → β' → Prop} {f : α → α'} {g : β → β'}
    (h : Outcomes Q E (o.map f) (o'.map g)) : Outcomes (fun a b => Q (f a) (g b)) E o o' := by
  cases o <;> cases o' <;> exact h

/-- Outcomes are related if they are the same but for the exceptions. -/
lemma of_toOption {o o' : Except ε α} (h : o.toOption = o'.toOption) :
    Outcomes (· = ·) (fun _ _ => True) o o' := by
  cases o <;> cases o'
  · trivial
  · cases h
  · cases h
  · exact Option.some.inj h

/-- Both outcomes are values or both are exceptions. -/
lemma of_isOk (h : o.isOk = o'.isOk) : Outcomes (fun _ _ => True) (fun _ _ => True) o o' := by
  cases o <;> cases o'
  · trivial
  · cases h
  · cases h
  · trivial

/-- Either both outcomes are values or both are exceptions. -/
lemma isOk_eq (h : Outcomes P E o o') : o.isOk = o'.isOk := by
  cases o <;> cases o'
  · rfl
  · exact h.elim
  · exact h.elim
  · rfl

end Outcomes

/-! ### Routines -/

namespace Routine

variable {S T ε δ : Type}

/-- Started in states related by `I`, the routines make calls that look alike as long as the replies
do. They leave states related by `I`, and both return values related by `P` or both raise exceptions
related by `E`. -/
def Alike (V : View C R) (I : S → T → Prop) (P : α → β → Prop) (E : ε → δ → Prop)
    (x : Routine S C R ε α) (y : Routine T C R δ β) : Prop :=
  ∀ s t, I s t → (x s).Alike V (fun o o' => Outcomes P E o.1 o'.1 ∧ I o.2 o'.2) (y t)

variable {I : S → T → Prop} {P : α → β → Prop} {Q : α' → β' → Prop} {E : ε → δ → Prop}

namespace Alike

lemma ofExcept {o : Except ε α} {o' : Except δ β} (h : Outcomes P E o o') :
    Alike V I P E (Routine.ofExcept o) (Routine.ofExcept o') :=
  fun _ _ hI => .ret ⟨h, hI⟩

lemma pure {a : α} {b : β} (h : P a b) :
    Alike V I P E (Pure.pure a : Routine S C R ε α) (Pure.pure b : Routine T C R δ β) :=
  ofExcept h

lemma throw {e : ε} {f : δ} (h : E e f) :
    Alike V I P E (throw e : Routine S C R ε α) (throw f : Routine T C R δ β) :=
  ofExcept h

lemma get : Alike V I I E (get : Routine S C R ε S) (get : Routine T C R δ T) :=
  fun _ _ hI => .ret ⟨hI, hI⟩

lemma modify {f : S → S} {g : T → T} (h : ∀ s t, I s t → I (f s) (g t)) :
    Alike V I (fun _ _ => True) E (modify f : Routine S C R ε PUnit)
      (modify g : Routine T C R δ PUnit) :=
  fun s t hI => .ret ⟨trivial, h s t hI⟩

lemma cut : Alike V I P E (Routine.cut : Routine S C R ε α) (Routine.cut : Routine T C R δ β) :=
  fun _ _ _ => .cut

/-- Calls that look alike get replies that do. -/
lemma call {c d : C} (h : V.call c = V.call d) :
    Alike V I (fun r r' => V.reply c r = V.reply d r') E (Routine.call c : Routine S C R ε (R c))
      (Routine.call d : Routine T C R δ (R d)) :=
  fun _ _ hI => .call h fun _ _ hr => .ret ⟨hr, hI⟩

/-- The rule for sequencing. -/
theorem bind {x : Routine S C R ε α} {y : Routine T C R δ β} {f : α → Routine S C R ε α'}
    {g : β → Routine T C R δ β'} (h : Alike V I P E x y)
    (hf : ∀ a b, P a b → Alike V I Q E (f a) (g b)) : Alike V I Q E (x >>= f) (y >>= g) := by
  intro s t hI
  refine (h s t hI).bind fun o o' ho => ?_
  obtain ⟨_ | a, s'⟩ := o <;> obtain ⟨_ | b, t'⟩ := o'
  · exact .ret ho
  · exact ho.1.elim
  · exact ho.1.elim
  · exact hf a b ho.1 s' t' ho.2

/-- The rule for going on with one outcome. -/
lemma ofExcept_bind {E : ε → ε → Prop} {f : α → Routine S C R ε α'} {g : α → Routine T C R ε β'}
    (hE : ∀ e, E e e) (hf : ∀ a, Alike V I Q E (f a) (g a)) (o : Except ε α) :
    Alike V I Q E (Routine.ofExcept o >>= f) (Routine.ofExcept o >>= g) := by
  cases o with
  | ok a => exact hf a
  | error e => exact fun _ _ hI => .ret ⟨hE e, hI⟩

/-- The rule for a handler. -/
theorem tryCatch {E' : ε → δ → Prop} {x : Routine S C R ε α} {y : Routine T C R δ β}
    {f : ε → Routine S C R ε α} {g : δ → Routine T C R δ β} (h : Alike V I P E' x y)
    (hf : ∀ e e', E' e e' → Alike V I P E (f e) (g e')) :
    Alike V I P E (tryCatch x f) (tryCatch y g) := by
  intro s t hI
  refine (h s t hI).bind fun o o' ho => ?_
  obtain ⟨e | a, s'⟩ := o <;> obtain ⟨e' | b, t'⟩ := o'
  · exact hf e e' ho.1 s' t' ho.2
  · exact ho.1.elim
  · exact ho.1.elim
  · exact .ret ho

end Alike

end Routine

end Interaction
