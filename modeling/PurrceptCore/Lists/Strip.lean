import Mathlib.Data.List.DropRight
import Mathlib.Data.List.TakeWhile

set_option relaxedAutoImplicit false
set_option autoImplicit false

/-!
# Stripping and scanning

Stripping a list of what satisfies a predicate at its ends, and reading off the longest run of it
at the front.

## Main definitions

* `PurrceptCore.strip` — a list without the items at its ends that satisfy a predicate.
* `PurrceptCore.Trimmed` — a list that stripping leaves as it is.

## Main results

* `PurrceptCore.trimmed_strip` — what was stripped is trimmed.
* `PurrceptCore.Trimmed.intercalate` — trimmed lists with a separator in between are trimmed.
* `PurrceptCore.takeWhile_run`, `PurrceptCore.dropWhile_run` — scanning a run that is at its end.
-/

namespace PurrceptCore

variable {α : Type} {p : α → Bool} {xs ys : List α}

/-! ### Runs -/

/-- The list does not begin with what satisfies `p`. -/
def Stops (p : α → Bool) (xs : List α) : Prop := ∀ x ∈ xs.head?, p x = false

@[simp] lemma stops_nil : Stops p [] := fun x hx => by simp at hx

@[simp] lemma stops_cons {x : α} : Stops p (x :: xs) ↔ p x = false := by simp [Stops]

/-- Scanning a run that is at its end. -/
lemma takeWhile_run (h : ∀ x ∈ xs, p x = true) (hy : Stops p ys) :
    (xs ++ ys).takeWhile p = xs := by
  rw [List.takeWhile_append_of_pos h]
  cases ys with
  | nil => exact List.append_nil xs
  | cons y ys =>
    rw [List.takeWhile_cons, stops_cons.1 hy, if_neg Bool.false_ne_true, List.append_nil]

/-- What follows a run that is at its end. -/
lemma dropWhile_run (h : ∀ x ∈ xs, p x = true) (hy : Stops p ys) :
    (xs ++ ys).dropWhile p = ys := by
  rw [List.dropWhile_append_of_pos h]
  cases ys with
  | nil => rfl
  | cons y ys => rw [List.dropWhile_cons, stops_cons.1 hy, if_neg Bool.false_ne_true]

/-- What follows a run does not go on with it. -/
lemma stops_dropWhile (p : α → Bool) (xs : List α) : Stops p (xs.dropWhile p) := by
  induction xs with
  | nil => exact stops_nil
  | cons x xs ih =>
    rw [List.dropWhile_cons]
    split
    · exact ih
    · next h => exact stops_cons.2 (Bool.eq_false_iff.2 h)

/-- A list that does not begin with what satisfies `p` has nothing to drop. -/
lemma dropWhile_of_stops (h : Stops p xs) : xs.dropWhile p = xs :=
  @dropWhile_run _ p [] xs (List.forall_mem_nil _) h

/-! ### Stripping -/

/-- A list without the items at its ends that satisfy `p`. -/
def strip (p : α → Bool) (xs : List α) : List α := (xs.dropWhile p).rdropWhile p

/-- Stripping leaves the list as it is. -/
def Trimmed (p : α → Bool) (xs : List α) : Prop := strip p xs = xs

instance [DecidableEq α] (p : α → Bool) (xs : List α) : Decidable (Trimmed p xs) :=
  inferInstanceAs (Decidable (strip p xs = xs))

/-- A list that does not end in what satisfies `p` has nothing to drop at its end. -/
lemma rdropWhile_of_stops (h : Stops p xs.reverse) : xs.rdropWhile p = xs := by
  rw [List.rdropWhile, dropWhile_of_stops h, List.reverse_reverse]

/-- What is left of a list has its end. -/
lemma stops_reverse_rdropWhile (p : α → Bool) (xs : List α) :
    Stops p (xs.rdropWhile p).reverse := by
  rw [List.rdropWhile, List.reverse_reverse]
  exact stops_dropWhile p _

/-- Dropping at the end leaves the beginning. -/
lemma stops_rdropWhile (h : Stops p xs) : Stops p (xs.rdropWhile p) := by
  intro x hx
  obtain ⟨zs, hzs⟩ := xs.rdropWhile_prefix p
  refine h x ?_
  rw [← hzs]
  cases hys : xs.rdropWhile p with
  | nil => rw [hys] at hx; cases hx
  | cons y ys => rw [hys] at hx; exact hx

/-- **A list is trimmed** if neither end satisfies `p`. -/
theorem trimmed_iff : Trimmed p xs ↔ Stops p xs ∧ Stops p xs.reverse := by
  constructor
  · intro h
    rw [Trimmed] at h
    rw [← h]
    exact ⟨stops_rdropWhile (stops_dropWhile p xs), stops_reverse_rdropWhile p _⟩
  · rintro ⟨hfront, hback⟩
    rw [Trimmed, strip, dropWhile_of_stops hfront, rdropWhile_of_stops hback]

@[simp] lemma trimmed_nil : Trimmed p [] := rfl

/-- What was stripped is trimmed. -/
lemma trimmed_strip (p : α → Bool) (xs : List α) : Trimmed p (strip p xs) :=
  trimmed_iff.2 ⟨stops_rdropWhile (stops_dropWhile p xs), stops_reverse_rdropWhile p _⟩

/-- What stripping leaves was there. -/
lemma mem_of_mem_strip {x : α} (h : x ∈ strip p xs) : x ∈ xs :=
  List.dropWhile_subset p ((List.rdropWhile_prefix p _).subset h)

/-- Stripping what begins with a run. -/
lemma strip_append_left (h : ∀ x ∈ xs, p x = true) : strip p (xs ++ ys) = strip p ys := by
  rw [strip, strip, List.dropWhile_append_of_pos h]

/-! ### Joining -/

/-- An end of a list that is trimmed and not empty. -/
lemma Stops.append (h : Stops p xs) (hne : xs ≠ []) : Stops p (xs ++ ys) := by
  cases xs with
  | nil => exact absurd rfl hne
  | cons x xs => exact stops_cons.2 (stops_cons.1 h)

/-- Joining lists that are not empty. -/
lemma intercalate_ne_nil {sep : List α} {parts : List (List α)} (hparts : parts ≠ [])
    (hne : ∀ part ∈ parts, part ≠ []) : sep.intercalate parts ≠ [] := by
  cases parts with
  | nil => exact absurd rfl hparts
  | cons part parts =>
    cases parts with
    | nil => simpa [List.intercalate] using hne part List.mem_cons_self
    | cons part' parts =>
      intro hnil
      simp only [List.intercalate, List.intersperse_cons_cons, List.flatten_cons,
        List.append_eq_nil_iff] at hnil
      exact hne part List.mem_cons_self hnil.1

/-- **Joining trimmed lists** that are not empty, with anything in between. -/
theorem Trimmed.intercalate {sep : List α} {parts : List (List α)}
    (hne : ∀ part ∈ parts, part ≠ []) (h : ∀ part ∈ parts, Trimmed p part) :
    Trimmed p (sep.intercalate parts) := by
  induction parts with
  | nil => exact trimmed_nil
  | cons part parts ih =>
    obtain ⟨hfront, hback⟩ := trimmed_iff.1 (h part List.mem_cons_self)
    cases parts with
    | nil => simpa [List.intercalate] using h part List.mem_cons_self
    | cons part' parts =>
      have hrest := ih (fun q hq => hne q (List.mem_cons_of_mem _ hq))
        fun q hq => h q (List.mem_cons_of_mem _ hq)
      have hne' : sep.intercalate (part' :: parts) ≠ [] :=
        intercalate_ne_nil (List.cons_ne_nil _ _) fun q hq => hne q (List.mem_cons_of_mem _ hq)
      have hjoin : sep.intercalate (part :: part' :: parts) =
          part ++ (sep ++ sep.intercalate (part' :: parts)) := by
        simp [List.intercalate]
      rw [hjoin, trimmed_iff]
      refine ⟨hfront.append (hne part List.mem_cons_self), ?_⟩
      rw [List.reverse_append, List.reverse_append, List.append_assoc]
      exact (trimmed_iff.1 hrest).2.append (by simpa using hne')

end PurrceptCore
