import Mathlib.Data.List.Forall2

set_option relaxedAutoImplicit false
set_option autoImplicit false

/-!
# Steps that may fail

## Main results

* `Fallible.bind_eq_ok`, `Fallible.bind_eq_error` — how a sequence of two steps ends.
* `Fallible.mapM_eq_some`, `Fallible.exists_of_mapM_error` — how a traversal of a list ends.
-/

namespace Fallible

variable {ε α β : Type}

/-! ### Sequences -/

section Sequences

variable {x : Except ε α} {f : α → Except ε β}

/-- A sequence succeeds if both steps do. -/
lemma bind_eq_ok {b : β} : (x >>= f) = .ok b ↔ ∃ a, x = .ok a ∧ f a = .ok b := by
  cases x with
  | error e => exact ⟨fun h => (by cases h), fun ⟨_, h, _⟩ => (by cases h)⟩
  | ok a => exact ⟨fun h => ⟨a, rfl, h⟩, fun ⟨_, h, h'⟩ => (by cases h; exact h')⟩

/-- A sequence fails if one of the steps does. -/
lemma bind_eq_error {e : ε} :
    (x >>= f) = .error e ↔ x = .error e ∨ ∃ a, x = .ok a ∧ f a = .error e := by
  cases x with
  | error e' => simp [bind, Except.bind]
  | ok a => simp [bind, Except.bind]

lemma toOption_eq_some {a : α} : x.toOption = some a ↔ x = .ok a := by
  cases x with
  | error e => exact ⟨fun h => (by cases h), fun h => (by cases h)⟩
  | ok b => exact ⟨fun h => (by cases h; rfl), fun h => (by cases h; rfl)⟩

lemma toOption_bind (x : Except ε α) (f : α → Except ε β) :
    (x >>= f).toOption = x.toOption >>= fun a => (f a).toOption := by
  cases x <;> rfl

end Sequences

/-! ### Traversals -/

lemma toOption_mapM (f : α → Except ε β) (xs : List α) :
    (xs.mapM f).toOption = xs.mapM fun x => (f x).toOption := by
  induction xs with
  | nil => rfl
  | cons x xs ih =>
    simp only [List.mapM_cons, toOption_bind, ih]
    rfl

/-- A traversal succeeds when its steps do. -/
lemma mapM_eq_some {f : α → Option β} {xs : List α} {ys : List β} :
    xs.mapM f = some ys ↔ List.Forall₂ (fun x y => f x = some y) xs ys := by
  induction xs generalizing ys with
  | nil =>
    constructor
    · intro h
      cases h
      exact .nil
    · intro h
      cases h
      rfl
  | cons x xs ih =>
    simp only [List.mapM_cons, Option.bind_eq_bind, Option.bind_eq_some_iff]
    constructor
    · rintro ⟨y, hy, ys', hys, hcons⟩
      cases hcons
      exact .cons hy (ih.1 hys)
    · intro h
      cases h with
      | cons hy hys => exact ⟨_, hy, _, ih.2 hys, rfl⟩

/-- A traversal fails at one of its steps. -/
lemma exists_of_mapM_error {f : α → Except ε β} {xs : List α} {e : ε}
    (h : xs.mapM f = .error e) : ∃ x ∈ xs, f x = .error e := by
  induction xs with
  | nil => cases h
  | cons x xs ih =>
    rw [List.mapM_cons] at h
    rcases bind_eq_error.1 h with hx | ⟨b, -, h⟩
    · exact ⟨x, List.mem_cons_self, hx⟩
    · rcases bind_eq_error.1 h with hxs | ⟨bs, -, hpure⟩
      · obtain ⟨y, hy, hfy⟩ := ih hxs
        exact ⟨y, List.mem_cons_of_mem x hy, hfy⟩
      · cases hpure

end Fallible
