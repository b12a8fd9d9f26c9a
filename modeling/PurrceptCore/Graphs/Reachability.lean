import Mathlib.Data.Fintype.EquivFin
import Mathlib.Logic.Relation
import Mathlib.Order.WellFounded
import PurrceptCore.Graphs.Walk

set_option relaxedAutoImplicit false
set_option autoImplicit false

/-!
# What a walk can reach

Which values of a finite graph a walk converts, and that it needs no more steps than it has.

## Main definitions

* `Graphs.Walk.Reaches`, `Graphs.Walk.Edge` — the values that a walk may meet, and the containers
  that have one another as members.
* `Graphs.Walk.Convertible` — no cycle, no wrong member and no wrong leaf can be reached.
* `Graphs.Walk.visit` — the walk with a mutable set of active containers, from which every
  container is taken out again when it is left.

## Main results

* `Graphs.Walk.exists_unfolds_iff` — what unfolds is what is convertible.
* `Graphs.Walk.walk_error` — every error of a walk is one of a cycle, a member or a leaf.
* `Graphs.Walk.visit_eq_run` — a conversion with a mutable set terminates with the result of the
  walk, and the set is empty again in the end.
-/

namespace Graphs

open Fallible

variable {V A K E T : Type}

namespace Walk

section Definitions

variable (w : Walk V A K E T)

/-- The values that a walk from `v` may meet. -/
inductive Reaches (v : V) : V → Prop
  | refl : Reaches v v
  | member {x y : V} {a : A} {label : K} (h : Reaches v x) (hview : w.view x = .node a)
      (hmember : .ok (label, y) ∈ w.members a) : Reaches v y

/-- A container has another one as a member. -/
def Edge (a b : A) : Prop := ∃ label y, .ok (label, y) ∈ w.members a ∧ w.view y = .node b

/-- Neither a cycle nor an error can be reached. -/
structure Convertible (v : V) : Prop where
  acyclic : ∀ x a, w.Reaches v x → w.view x = .node a → ¬ Relation.TransGen w.Edge a a
  members : ∀ x a, w.Reaches v x → w.view x = .node a → ∀ m ∈ w.members a, ∃ p, m = .ok p
  leaves : ∀ x r, w.Reaches v x → w.view x = .leaf r → ∃ t, r = .ok t

/-- The members of a container in order, with a mutable set of active containers. -/
def visitAll (f : K → V → List A → Option (Except E T × List A)) (path : List K) :
    List (Except (List K → E) (K × V)) → List A → Option (Except E (List (K × T)) × List A)
  | [], active => some (.ok [], active)
  | .error e :: _, active => some (.error (e path), active)
  | .ok (label, item) :: members, active => do
    match ← f label item active with
    | (.error e, active) => return (.error e, active)
    | (.ok t, active) =>
      match ← visitAll f path members active with
      | (.error e, active) => return (.error e, active)
      | (.ok ms, active) => return (.ok ((label, t) :: ms), active)

/-- The conversion of a value with a mutable set of active containers: a container is taken out of
the set whether its conversion has succeeded or not. It gives nothing when the recursion is deeper
than its bound. -/
def visit [DecidableEq A] : ℕ → List K → V → List A → Option (Except E T × List A)
  | 0, _, _, _ => none
  | fuel + 1, path, v, active =>
    match w.view v with
    | .leaf result => some (located path result, active)
    | .node a =>
      if a ∈ active then some (.error (w.cycle path), active)
      else do
        match ← visitAll (fun label => visit fuel (label :: path)) path (w.members a)
          (a :: active) with
        | (.error e, active) => return (.error e, active.erase a)
        | (.ok ms, active) => return (.ok (w.build a ms), active.erase a)

end Definitions

/-! ### What unfolds -/

section Unfolding

variable {w : Walk V A K E T}

/-- A member of the first list has a counterpart in the second. -/
lemma exists_of_forall₂_of_mem {α β : Type} {R : α → β → Prop} {xs : List α} {ys : List β}
    (h : List.Forall₂ R xs ys) {x : α} (hx : x ∈ xs) : ∃ y ∈ ys, R x y := by
  induction h with
  | nil => cases hx
  | cons hxy _ ih =>
    rcases List.mem_cons.1 hx with hhead | htail
    · rw [hhead]
      exact ⟨_, List.mem_cons_self, hxy⟩
    · obtain ⟨y, hy, hR⟩ := ih htail
      exact ⟨y, List.mem_cons_of_mem _ hy, hR⟩

/-- Induction on what unfolds. -/
theorem Unfolds.induction {P : V → T → Prop}
    (leaf : ∀ v t, w.view v = .leaf (.ok t) → P v t)
    (node : ∀ v a ms, w.view v = .node a → List.Forall₂
      (fun member (m : K × T) => ∃ item, member = .ok (m.1, item) ∧ P item m.2) (w.members a) ms →
      P v (w.build a ms)) {v : V} {t : T} (h : w.Unfolds v t) : P v t := by
  obtain ⟨depth, h⟩ := h
  induction depth generalizing v t with
  | zero =>
    unfold unfold at h
    cases hview : w.view v with
    | leaf r =>
      rw [hview] at h
      exact leaf v t (hview.trans (congrArg View.leaf (toOption_eq_some.1 h)))
    | node a =>
      rw [hview] at h
      cases h
  | succ depth ih =>
    unfold unfold at h
    cases hview : w.view v with
    | leaf r =>
      rw [hview] at h
      exact leaf v t (hview.trans (congrArg View.leaf (toOption_eq_some.1 h)))
    | node a =>
      rw [hview] at h
      obtain ⟨ms, hms, rfl⟩ := unfoldNode_succ.1 h
      refine node v a ms hview ((mapM_eq_some.1 hms).imp fun member m hm => ?_)
      obtain ⟨item, hitem, hunfold⟩ := unfoldMember_eq_some.1 hm
      exact ⟨item, hitem, ih hunfold⟩

/-- What can be reached from a value that unfolds unfolds as well. -/
lemma Reaches.unfolds {v x : V} (h : w.Reaches v x) {t : T} (hv : w.Unfolds v t) :
    ∃ t, w.Unfolds x t := by
  induction h with
  | refl => exact ⟨t, hv⟩
  | member _ hview hmember ih =>
    obtain ⟨s, hx⟩ := ih
    obtain ⟨ms, hms, -⟩ := (unfolds_node hview).1 hx
    obtain ⟨m, -, item, hitem, hy⟩ := exists_of_forall₂_of_mem hms hmember
    cases hitem
    exact ⟨m.2, hy⟩

/-- The members of a container unfold one step earlier. -/
lemma unfoldNode_edge {depth : ℕ} {a b : A} {t : T} (h : w.unfoldNode (depth + 1) a = some t)
    (hedge : w.Edge a b) : ∃ s, w.unfoldNode depth b = some s := by
  obtain ⟨label, y, hmember, hview⟩ := hedge
  obtain ⟨ms, hms, -⟩ := unfoldNode_succ.1 h
  obtain ⟨m, -, hm⟩ := exists_of_forall₂_of_mem (mapM_eq_some.1 hms) hmember
  obtain ⟨item, hitem, hunfold⟩ := unfoldMember_eq_some.1 hm
  cases hitem
  unfold unfold at hunfold
  rw [hview] at hunfold
  exact ⟨m.2, hunfold⟩

/-- What is below a container unfolds earlier. -/
lemma unfoldNode_transGen {depth : ℕ} {a b : A} {t : T} (h : w.unfoldNode depth a = some t)
    (hpath : Relation.TransGen w.Edge a b) :
    ∃ depth' < depth, ∃ s, w.unfoldNode depth' b = some s := by
  have hstep (n : ℕ) (c d : A) (s : T) (hc : w.unfoldNode n c = some s) (hcd : w.Edge c d) :
      ∃ n' < n, ∃ s', w.unfoldNode n' d = some s' := by
    cases n with
    | zero => cases hc
    | succ n => exact ⟨n, n.lt_succ_self, unfoldNode_edge hc hcd⟩
  induction hpath with
  | single hedge => exact hstep depth a _ t h hedge
  | tail _ hedge ih =>
    obtain ⟨n, hn, s, hs⟩ := ih
    obtain ⟨n', hn', s', hs'⟩ := hstep n _ _ s hs hedge
    exact ⟨n', hn'.trans hn, s', hs'⟩

/-- A container that unfolds is on no cycle. -/
lemma not_transGen_of_unfoldNode {depth : ℕ} {a : A} {t : T}
    (h : w.unfoldNode depth a = some t) : ¬ Relation.TransGen w.Edge a a := by
  intro hcycle
  induction depth using Nat.strong_induction_on generalizing t with
  | _ depth ih =>
    obtain ⟨depth', hlt, s, hs⟩ := unfoldNode_transGen h hcycle
    exact ih depth' hlt hs

/-- What unfolds is convertible. -/
lemma Unfolds.convertible {v : V} {t : T} (h : w.Unfolds v t) : w.Convertible v where
  acyclic x a hx hview := by
    obtain ⟨s, depth, hs⟩ := hx.unfolds h
    unfold unfold at hs
    rw [hview] at hs
    exact not_transGen_of_unfoldNode hs
  members x a hx hview m hm := by
    obtain ⟨s, hs⟩ := hx.unfolds h
    obtain ⟨ms, hms, -⟩ := (unfolds_node hview).1 hs
    obtain ⟨m', -, item, hitem, -⟩ := exists_of_forall₂_of_mem hms hm
    exact ⟨_, hitem⟩
  leaves x r hx hview := by
    obtain ⟨s, hs⟩ := hx.unfolds h
    exact ⟨s, (unfolds_leaf hview).1 hs⟩

/-- A container unfolds when all its members do. -/
lemma unfolds_of_members {v : V} {a : A} (hview : w.view v = .node a)
    (h : ∀ m ∈ w.members a, ∃ label item t, m = .ok (label, item) ∧ w.Unfolds item t) :
    ∃ t, w.Unfolds v t := by
  have hms : ∀ members : List (Except (List K → E) (K × V)),
      (∀ m ∈ members, ∃ label item t, m = .ok (label, item) ∧ w.Unfolds item t) →
      ∃ ms, List.Forall₂ (fun member (m : K × T) =>
        ∃ item, member = .ok (m.1, item) ∧ w.Unfolds item m.2) members ms := by
    intro members hmembers
    induction members with
    | nil => exact ⟨[], .nil⟩
    | cons member members ih =>
      rw [List.forall_mem_cons] at hmembers
      obtain ⟨label, item, t, hmember, ht⟩ := hmembers.1
      obtain ⟨ms, hms⟩ := ih hmembers.2
      exact ⟨(label, t) :: ms, .cons ⟨item, hmember, ht⟩ hms⟩
  obtain ⟨ms, hms⟩ := hms (w.members a) h
  exact ⟨_, (unfolds_node hview).2 ⟨ms, hms, rfl⟩⟩

/-- What is convertible unfolds.

**Proof sketch.** On a finite graph, being below a container that can be reached is a well-founded
relation, since none of these is on a cycle. By induction along it, the members of such a container
unfold, so that the container does. -/
lemma Convertible.unfolds [Finite A] {v : V} (h : w.Convertible v) : ∃ t, w.Unfolds v t := by
  let below (b a : A) : Prop :=
    Relation.TransGen w.Edge a b ∧ ∃ x, w.Reaches v x ∧ w.view x = .node a
  have hirrefl : Std.Irrefl below := by
    refine ⟨fun a hbelow => ?_⟩
    obtain ⟨hcycle, x, hx, hview⟩ := hbelow
    exact h.acyclic x a hx hview hcycle
  have htrans : IsTrans A below := ⟨fun a b c hab hbc => ⟨hbc.1.trans hab.1, hbc.2⟩⟩
  have hwf : WellFounded below := Finite.wellFounded_of_trans_of_irrefl below
  have hnode (a : A) : ∀ x, w.Reaches v x → w.view x = .node a → ∃ t, w.Unfolds x t := by
    induction a using hwf.induction with
    | _ a ih =>
      intro x hx hview
      refine unfolds_of_members hview fun m hm => ?_
      obtain ⟨⟨label, y⟩, rfl⟩ := h.members x a hx hview m hm
      have hy : w.Reaches v y := hx.member hview hm
      refine ⟨label, y, ?_⟩
      cases hviewy : w.view y with
      | leaf r =>
        obtain ⟨t, ht⟩ := h.leaves y r hy hviewy
        exact ⟨t, rfl, (unfolds_leaf hviewy).2 ht⟩
      | node b =>
        obtain ⟨t, ht⟩ := ih b ⟨.single ⟨label, y, hm, hviewy⟩, x, hx, hview⟩ y hy hviewy
        exact ⟨t, rfl, ht⟩
  cases hview : w.view v with
  | leaf r =>
    obtain ⟨t, ht⟩ := h.leaves v r .refl hview
    exact ⟨t, (unfolds_leaf hview).2 ht⟩
  | node a => exact hnode a v .refl hview

/-- **What unfolds is what is convertible.** -/
theorem exists_unfolds_iff [Finite A] {v : V} : (∃ t, w.Unfolds v t) ↔ w.Convertible v :=
  ⟨fun ⟨_, h⟩ => h.convertible, Convertible.unfolds⟩

end Unfolding

/-! ### Errors -/

section Errors

variable [DecidableEq A] {w : Walk V A K E T}

lemma located_eq_error {α : Type} {path : List K} {x : Except (List K → E) α} {e : E} :
    located path x = .error e ↔ ∃ f, x = .error f ∧ f path = e := by
  cases x with
  | error f => simp [located]
  | ok a => simp [located]

/-- A member fails itself, or its item does. -/
lemma exists_of_walkMember_error {path : List K} {f : K → V → Except E T}
    {member : Except (List K → E) (K × V)} {e : E} (h : walkMember path f member = .error e) :
    (∃ g, member = .error g ∧ g path = e) ∨ ∃ label item, f label item = .error e := by
  rcases bind_eq_error.1 h with hmember | ⟨⟨label, item⟩, -, h⟩
  · exact .inl (located_eq_error.1 hmember)
  · rcases bind_eq_error.1 h with hitem | ⟨result, -, hpure⟩
    · exact .inr ⟨label, item, hitem⟩
    · cases hpure

/-- **Every error of a walk is one of a cycle, a member or a leaf.** -/
theorem walk_error {P : E → Prop} (hcycle : ∀ path, P (w.cycle path))
    (hmember : ∀ a f path, .error f ∈ w.members a → P (f path))
    (hleaf : ∀ v f path, w.view v = .leaf (.error f) → P (f path)) {fuel : ℕ} {active : List A}
    {path : List K} {v : V} {e : E} (h : w.walk fuel active path v = .error e) : P e := by
  induction fuel generalizing active path v e with
  | zero =>
    cases hview : w.view v with
    | leaf r =>
      rw [walk_leaf hview] at h
      obtain ⟨f, rfl, rfl⟩ := located_eq_error.1 h
      exact hleaf v f path hview
    | node a =>
      simp only [walk, hview] at h
      cases h
      exact hcycle path
  | succ fuel ih =>
    cases hview : w.view v with
    | leaf r =>
      rw [walk_leaf hview] at h
      obtain ⟨f, rfl, rfl⟩ := located_eq_error.1 h
      exact hleaf v f path hview
    | node a =>
      simp only [walk, hview] at h
      by_cases hactive : a ∈ active
      · rw [if_pos hactive] at h
        cases h
        exact hcycle path
      · rw [if_neg hactive] at h
        rcases bind_eq_error.1 h with hmembers | ⟨ms, -, hpure⟩
        · -- the error is that of a member or of its item
          obtain ⟨m, hm, hwalk⟩ := exists_of_mapM_error hmembers
          rcases exists_of_walkMember_error hwalk with ⟨f, rfl, rfl⟩ | ⟨label, item, hitem⟩
          · exact hmember a f path hm
          · exact ih hitem
        · cases hpure

end Errors

/-! ### The bound and the mutable set -/

section Bound

variable {w : Walk V A K E T}

/-- Members are visited as they are walked, if each of them leaves the set as it was. -/
lemma visitAll_eq {f : K → V → List A → Option (Except E T × List A)} {g : K → V → Except E T}
    {active : List A} (h : ∀ label item, f label item active = some (g label item, active))
    (path : List K) (members : List (Except (List K → E) (K × V))) :
    visitAll f path members active = some (members.mapM (walkMember path g), active) := by
  induction members with
  | nil => rfl
  | cons member members ih =>
    rw [List.mapM_cons]
    cases member with
    | error e => rfl
    | ok p =>
      obtain ⟨label, item⟩ := p
      rw [visitAll, h]
      cases hitem : g label item with
      | error e => simp only [walkMember, located, hitem, bind, Option.bind, Except.bind, pure]
      | ok t =>
        simp only [ih, walkMember, located, hitem, bind, Option.bind, Except.bind, pure,
          Except.pure]
        cases members.mapM (walkMember path g) with
        | error e => rfl
        | ok ms => rfl

variable [DecidableEq A]

/-- The mutable set is as it was when a value has been visited.

**Proof sketch.** The bound cannot be used up, since the active containers are distinct. -/
lemma visit_eq [Fintype A] {fuel : ℕ} {active : List A} {path : List K} {v : V}
    (hnodup : active.Nodup) (hcard : Fintype.card A < fuel + active.length) :
    w.visit fuel path v active = some (w.walk fuel active path v, active) := by
  induction fuel generalizing active path v with
  | zero =>
    have hlength := hnodup.length_le_card
    omega
  | succ fuel ih =>
    rw [visit, walk]
    cases w.view v with
    | leaf r => rfl
    | node a =>
      by_cases ha : a ∈ active
      · simp only [if_pos ha]
      · have hbound : Fintype.card A < fuel + (a :: active).length := by
          rw [List.length_cons]
          omega
        simp only [if_neg ha]
        rw [visitAll_eq fun label item => ih (List.nodup_cons.2 ⟨ha, hnodup⟩) hbound]
        cases (w.members a).mapM (walkMember path fun label item =>
            w.walk fuel (a :: active) (label :: path) item) with
        | error e =>
          simp only [List.erase_cons_head, bind, Option.bind, Except.bind, pure]
        | ok ms =>
          simp only [List.erase_cons_head, bind, Option.bind, Except.bind, pure, Except.pure]

/-- When the bound covers the containers that are not active, one more changes nothing. -/
lemma walk_succ_eq [Fintype A] {fuel : ℕ} {active : List A} {path : List K} {v : V}
    (hnodup : active.Nodup) (hcard : Fintype.card A ≤ fuel + active.length) :
    w.walk (fuel + 1) active path v = w.walk fuel active path v := by
  induction fuel generalizing active path v with
  | zero =>
    rw [walk, walk]
    cases w.view v with
    | leaf r => rfl
    | node a =>
      have ha : a ∈ active := by
        by_contra hnew
        have hlength := (List.nodup_cons.2 ⟨hnew, hnodup⟩).length_le_card
        rw [List.length_cons] at hlength
        omega
      exact if_pos ha
  | succ fuel ih =>
    rw [walk, walk]
    cases w.view v with
    | leaf r => rfl
    | node a =>
      by_cases ha : a ∈ active
      · simp only [if_pos ha]
      · have hsame : (fun label item => w.walk (fuel + 1) (a :: active) (label :: path) item) =
            fun label item => w.walk fuel (a :: active) (label :: path) item := by
          funext label item
          refine ih (List.nodup_cons.2 ⟨ha, hnodup⟩) ?_
          rw [List.length_cons]
          omega
        simp only [if_neg ha, hsame]

/-- A walk with a bound that covers all containers. -/
lemma walk_eq_run [Fintype A] {fuel : ℕ} (h : Fintype.card A ≤ fuel) (v : V) :
    w.walk fuel [] [] v = w.run v := by
  induction fuel, h using Nat.le_induction with
  | base => rfl
  | succ fuel h ih => rw [walk_succ_eq List.nodup_nil (by simpa using h), ih]

/-- **A conversion with a mutable set terminates with the result of the walk**: its recursion is
never deeper than there are containers, and it leaves the set empty. -/
theorem visit_eq_run [Fintype A] {fuel : ℕ} (h : Fintype.card A < fuel) (v : V) :
    w.visit fuel [] v [] = some (w.run v, []) := by
  rw [visit_eq List.nodup_nil (by simpa using h), walk_eq_run h.le]

end Bound

end Walk

end Graphs
