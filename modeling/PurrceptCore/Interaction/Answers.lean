import PurrceptCore.Interaction.Log
import PurrceptCore.Interaction.Uncut

set_option relaxedAutoImplicit false
set_option autoImplicit false

/-!
# Programs whose calls are answered by a function

When the reply to each call is a function of the call, a program has one execution, which can be
computed.

## Main definitions

* `Interaction.Prog.eval`, `Interaction.Routine.eval` — what a program returns under given answers.
* `Interaction.Prog.record` — what it returns, and the calls that it makes.
* `Interaction.Answers` — every reply of a trace is the answer to its call.
* `Interaction.Answered` — every reply of a trace is that of an object with a state.

## Main results

* `Interaction.Routine.eval_bind` — evaluating a sequence.
* `Interaction.Prog.record_eq_some` — what is recorded is an execution with these answers.
* `Interaction.Exec.unique` — replies that are determined by what came before them.
* `Interaction.Prog.Uncut.exec`, `Interaction.Exec.extend` — an uncut program returns, and its
  executions go on until it does.
* `Interaction.Prog.Uncut.answered` — it returns as well when an object answers.
-/

namespace Interaction

variable {C : Type} {R : C → Type} {α β : Type}

/-- Every reply of the trace is the answer to its call. -/
def Answers (answer : (c : C) → R c) (tr : Trace C R) : Prop := ∀ x ∈ tr, x.2 = answer x.1

namespace Prog

/-- What the program returns when every call gets its answer. -/
def eval (answer : (c : C) → R c) : Prog C R α → Option α
  | ret a => some a
  | call c k => (k (answer c)).eval answer
  | cut => none

variable {answer : (c : C) → R c}

lemma eval_bind (p : Prog C R α) (f : α → Prog C R β) :
    (p >>= f).eval answer = (p.eval answer).bind fun a => (f a).eval answer := by
  induction p with
  | ret a => rfl
  | call c k ih => exact ih (answer c)
  | cut => rfl

end Prog

/-- An uncut program returns along the execution with these answers. -/
theorem Prog.Uncut.exec {p : Prog C R α} (hp : p.Uncut) (answer : (c : C) → R c) :
    ∃ tr a, Exec p tr (.ret a) ∧ Answers answer tr := by
  induction p with
  | ret a => exact ⟨[], a, .refl _, fun _ h => absurd h List.not_mem_nil⟩
  | call c k ih =>
    obtain ⟨tr, a, h, hanswers⟩ := ih (answer c) (hp (answer c))
    refine ⟨⟨c, answer c⟩ :: tr, a, .step h, fun x hx => ?_⟩
    rcases List.mem_cons.1 hx with rfl | hx
    · rfl
    · exact hanswers x hx
  | cut => exact hp.elim

/-- An execution of an uncut program goes on, with these answers, until the program returns. -/
theorem Exec.extend {p q : Prog C R α} {tr : Trace C R} (h : Exec p tr q) (hp : p.Uncut)
    (answer : (c : C) → R c) : ∃ tr' a, Exec p (tr ++ tr') (.ret a) ∧ Answers answer tr' := by
  obtain ⟨tr', a, h', hanswers⟩ := (h.uncut hp).exec answer
  exact ⟨tr', a, h.append h', hanswers⟩

/-- The replies of the trace are those of an object: `reply` is its reply to a call, with the state
it is in afterwards. -/
def Answered {G : Type} (reply : G → (c : C) → R c × G) : G → Trace C R → G → Prop
  | g, [], g' => g' = g
  | g, ⟨c, r⟩ :: tr, g' => r = (reply g c).1 ∧ Answered reply (reply g c).2 tr g'

/-- An uncut program returns when an object answers its calls. -/
theorem Prog.Uncut.answered {G : Type} (reply : G → (c : C) → R c × G) {p : Prog C R α}
    (hp : p.Uncut) (g : G) : ∃ tr a g', Exec p tr (.ret a) ∧ Answered reply g tr g' := by
  induction p generalizing g with
  | ret a => exact ⟨[], a, g, .refl _, rfl⟩
  | call c k ih =>
    obtain ⟨tr, a, g', hexec, hanswered⟩ := ih (reply g c).1 (hp _) (reply g c).2
    exact ⟨⟨c, (reply g c).1⟩ :: tr, a, g', .step hexec, rfl, hanswered⟩
  | cut => exact hp.elim

/-- What was computed is what an execution with these answers returns. -/
theorem Prog.exec_of_eval {answer : (c : C) → R c} {p : Prog C R α} {a : α}
    (h : p.eval answer = some a) : ∃ tr, Exec p tr (.ret a) ∧ Answers answer tr := by
  induction p with
  | ret b =>
    cases h
    exact ⟨[], .refl _, fun _ h => absurd h List.not_mem_nil⟩
  | call c k ih =>
    obtain ⟨tr, hexec, hanswers⟩ := ih (answer c) h
    refine ⟨⟨c, answer c⟩ :: tr, .step hexec, fun x hx => ?_⟩
    rcases List.mem_cons.1 hx with rfl | hx
    · rfl
    · exact hanswers x hx
  | cut => cases h

/-- **When every reply is determined by what came before it, a program returns along one
execution.** -/
theorem Exec.unique {Q : Trace C R → (c : C) → R c → Prop}
    (hQ : ∀ tr c r r', Q tr c r → Q tr c r' → r = r') {p : Prog C R α} {tr tr' : Trace C R}
    {a a' : α} (h : Exec p tr (.ret a)) (h' : Exec p tr' (.ret a'))
    (hreplies : ∀ before x after, tr = before ++ x :: after → Q before x.1 x.2)
    (hreplies' : ∀ before x after, tr' = before ++ x :: after → Q before x.1 x.2) :
    tr = tr' ∧ a = a' := by
  induction p generalizing tr tr' Q with
  | ret b =>
    obtain ⟨htr, ha⟩ := h.ret_inv
    obtain ⟨htr', ha'⟩ := h'.ret_inv
    rw [htr, htr']
    exact ⟨rfl, Prog.ret.inj (ha.trans ha'.symm)⟩
  | call c k ih =>
    cases h with
    | @step _ _ r tr _ h =>
      cases h' with
      | @step _ _ r' tr' _ h' =>
        have hr : r = r' := hQ [] c r r' (hreplies [] _ tr rfl) (hreplies' [] _ tr' rfl)
        subst hr
        obtain ⟨htr, ha⟩ := ih r (Q := fun before => Q (⟨c, r⟩ :: before))
          (fun tr => hQ (⟨c, r⟩ :: tr)) h h'
          (fun before x after heq => hreplies (⟨c, r⟩ :: before) x after (congrArg _ heq))
          fun before x after heq => hreplies' (⟨c, r⟩ :: before) x after (congrArg _ heq)
        exact ⟨congrArg _ htr, ha⟩
  | cut =>
    obtain ⟨-, hcut⟩ := h.cut_inv
    cases hcut

namespace Prog

/-- What the program returns when every call gets its answer, and the calls that it makes. -/
def record (answer : (c : C) → R c) : Prog C R α → Option (α × List C)
  | ret a => some (a, [])
  | call c k => ((k (answer c)).record answer).map fun result => (result.1, c :: result.2)
  | cut => none

/-- What is recorded is an execution with these answers. -/
theorem record_eq_some {answer : (c : C) → R c} {p : Prog C R α} {a : α} {cs : List C} :
    p.record answer = some (a, cs) ↔
      ∃ tr, Exec p tr (.ret a) ∧ Answers answer tr ∧ cs = tr.map Sigma.fst := by
  induction p generalizing cs with
  | ret b =>
    constructor
    · intro h
      cases h
      exact ⟨[], .refl _, fun _ h => absurd h List.not_mem_nil, rfl⟩
    · rintro ⟨tr, hexec, -, rfl⟩
      obtain ⟨rfl, hb⟩ := hexec.ret_inv
      cases hb
      rfl
  | call c k ih =>
    rw [record, Option.map_eq_some_iff]
    constructor
    · rintro ⟨⟨b, ds⟩, hresult, heq⟩
      cases heq
      obtain ⟨tr, hexec, hanswers, hcs⟩ := (ih (answer c)).1 hresult
      refine ⟨⟨c, answer c⟩ :: tr, .step hexec, List.forall_mem_cons.2 ⟨rfl, hanswers⟩, ?_⟩
      rw [hcs, List.map_cons]
    · rintro ⟨tr, hexec, hanswers, rfl⟩
      cases hexec with
      | @step _ _ r tr _ hexec =>
        have hall := List.forall_mem_cons.1 hanswers
        have hr : r = answer c := hall.1
        subst hr
        exact ⟨(a, tr.map Sigma.fst), (ih _).2 ⟨tr, hexec, hall.2, rfl⟩, rfl⟩
  | cut =>
    constructor
    · intro h
      cases h
    · rintro ⟨tr, hexec, -⟩
      obtain ⟨-, hcut⟩ := hexec.cut_inv
      cases hcut

end Prog

namespace Routine

variable {S ε : Type} (answer : (c : C) → R c)

/-- The outcome and the final state of the routine when every call gets its answer. -/
def eval (x : Routine S C R ε α) (s : S) : Option (Except ε α × S) := (x s).eval answer

@[simp] lemma eval_ofExcept (o : Except ε α) (s : S) :
    eval answer (ofExcept o : Routine S C R ε α) s = some (o, s) := rfl

@[simp] lemma eval_pure (a : α) (s : S) :
    eval answer (pure a : Routine S C R ε α) s = some (.ok a, s) := rfl

@[simp] lemma eval_throw (e : ε) (s : S) :
    eval answer (throw e : Routine S C R ε α) s = some (.error e, s) := rfl

@[simp] lemma eval_call (c : C) (s : S) :
    eval answer (call c : Routine S C R ε (R c)) s = some (.ok (answer c), s) := rfl

/-- Evaluating a sequence whose first part returns a value. -/
theorem eval_bind {x : Routine S C R ε α} {s s' : S} {a : α}
    (hx : eval answer x s = some (.ok a, s')) (f : α → Routine S C R ε β) :
    eval answer (x >>= f) s = eval answer (f a) s' := by
  change ((x s >>= continueWith f).eval answer) = _
  rw [Prog.eval_bind]
  unfold eval at hx
  rw [hx]
  rfl

end Routine

end Interaction
