import Mathlib.Data.List.Induction
import Mathlib.Tactic.Common

set_option relaxedAutoImplicit false
set_option autoImplicit false

/-!
# Runs of a labelled step relation

## Main definitions

* `Interaction.Move` — one step: the state before, what happened, the state after.
* `Interaction.LabelledRun` — a run, with the moves it is made of.

## Main results

* `Interaction.LabelledRun.invariant` — what the first state has and every step keeps holds in
  every state of a run.
* `Interaction.LabelledRun.split_move` — a run passes through the state before each of its moves.
* `Interaction.LabelledRun.map`, `Interaction.LabelledRun.lift` — runs of two systems whose steps
  correspond.
-/

namespace Interaction

/-- One step of a system. -/
structure Move (S L : Type) where
  before : S
  label : L
  after : S

/-- The same step, seen through maps of the states and of what happens. -/
def Move.map {S L S' L' : Type} (f : S → S') (g : L → L') (m : Move S L) : Move S' L' :=
  ⟨f m.before, g m.label, f m.after⟩

variable {S L : Type} {step : S → L → S → Prop}

/-- `LabelledRun step s moves t`: the system comes from `s` to `t` by the given moves. -/
inductive LabelledRun (step : S → L → S → Prop) (s : S) : List (Move S L) → S → Prop
  | refl : LabelledRun step s [] s
  | snoc {moves : List (Move S L)} {t u : S} {l : L} (h : LabelledRun step s moves t)
      (hstep : step t l u) : LabelledRun step s (moves ++ [⟨t, l, u⟩]) u

namespace LabelledRun

variable {s t : S} {moves moves' : List (Move S L)}

/-- **The invariant rule.** -/
theorem invariant {I : S → Prop} (h : LabelledRun step s moves t) (h0 : I s)
    (hstep : ∀ m ∈ moves, step m.before m.label m.after → I m.before → I m.after) : I t := by
  induction h with
  | refl => exact h0
  | snoc h hs ih =>
    have hprefix := ih fun m hm => hstep m (List.mem_append_left _ hm)
    exact hstep _ (List.mem_append_right _ (List.mem_singleton_self _)) hs hprefix

/-- Runs compose. -/
theorem append {u : S} (h : LabelledRun step s moves t) (h' : LabelledRun step t moves' u) :
    LabelledRun step s (moves ++ moves') u := by
  induction h' with
  | refl => rwa [List.append_nil]
  | snoc _ hs ih =>
    rw [← List.append_assoc]
    exact ih.snoc hs

/-- The last move of a run. -/
lemma snoc_inv {ms : List (Move S L)} {m : Move S L} (h : LabelledRun step s ms t)
    (hms : ms = moves ++ [m]) :
    LabelledRun step s moves m.before ∧ step m.before m.label m.after ∧ m.after = t := by
  cases h with
  | refl => simp at hms
  | snoc h hs =>
    obtain ⟨rfl, hm⟩ := List.append_inj' hms rfl
    rw [List.singleton_inj] at hm
    subst hm
    exact ⟨h, hs, rfl⟩

/-- A run passes through the states of its prefixes. -/
theorem split (h : LabelledRun step s (moves ++ moves') t) :
    ∃ u, LabelledRun step s moves u ∧ LabelledRun step u moves' t := by
  induction moves' using List.reverseRecOn generalizing t with
  | nil => exact ⟨t, by simpa using h, .refl⟩
  | append_singleton moves' m ih =>
    obtain ⟨hrun, hs, rfl⟩ := h.snoc_inv (List.append_assoc _ _ _).symm
    obtain ⟨u, hu, hu'⟩ := ih hrun
    exact ⟨u, hu, hu'.snoc hs⟩

/-- A run passes through the state before each of its moves, which is a step. -/
lemma split_move {m : Move S L} (h : LabelledRun step s (moves ++ m :: moves') t) :
    LabelledRun step s moves m.before ∧ step m.before m.label m.after := by
  rw [List.append_cons] at h
  obtain ⟨u, hu, -⟩ := h.split
  obtain ⟨hu, hs, -⟩ := hu.snoc_inv rfl
  exact ⟨hu, hs⟩

/-- Every move of a run is a step, from a state that the run reaches before it. -/
theorem mem_move {m : Move S L} (h : LabelledRun step s moves t) (hm : m ∈ moves) :
    step m.before m.label m.after ∧
      ∃ before after, moves = before ++ m :: after ∧ LabelledRun step s before m.before := by
  obtain ⟨before, after, rfl⟩ := List.append_of_mem hm
  obtain ⟨hu, hs⟩ := h.split_move
  exact ⟨hs, before, after, rfl, hu⟩

section Map

variable {S' L' : Type} {step' : S' → L' → S' → Prop} {f : S → S'} {g : L → L'}

/-- **Runs are mapped** by what maps steps. -/
theorem map (hstep : ∀ s l t, step s l t → step' (f s) (g l) (f t))
    (h : LabelledRun step s moves t) :
    LabelledRun step' (f s) (moves.map (Move.map f g)) (f t) := by
  induction h with
  | refl => exact .refl
  | snoc h hs ih =>
    rw [List.map_append]
    exact ih.snoc (hstep _ _ _ hs)

/-- **Runs are lifted** along what lifts steps, as far as their labels are of the given kind. -/
theorem lift {P : L' → Prop}
    (hstep : ∀ s l' t', P l' → step' (f s) l' t' → ∃ l t, l' = g l ∧ t' = f t ∧ step s l t)
    {moves' : List (Move S' L')} {t' : S'} (h : LabelledRun step' (f s) moves' t')
    (hP : ∀ m ∈ moves', P m.label) :
    ∃ moves t, moves' = moves.map (Move.map f g) ∧ t' = f t ∧ LabelledRun step s moves t := by
  induction h with
  | refl => exact ⟨[], s, rfl, rfl, .refl⟩
  | @snoc moves' u' v' l' h hs ih =>
    obtain ⟨moves, u, rfl, rfl, hrun⟩ := ih fun m hm => hP m (List.mem_append_left _ hm)
    have hl := hP ⟨f u, l', v'⟩ (List.mem_append_right _ (List.mem_singleton_self _))
    obtain ⟨l, v, rfl, rfl, hstep'⟩ := hstep u l' v' hl hs
    refine ⟨moves ++ [⟨u, l, v⟩], v, ?_, rfl, hrun.snoc hstep'⟩
    rw [List.map_append]
    rfl

end Map

end LabelledRun

end Interaction
