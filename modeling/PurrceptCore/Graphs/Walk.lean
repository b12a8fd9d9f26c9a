import Mathlib.Data.Fintype.Card
import PurrceptCore.Lists.Fallible

set_option relaxedAutoImplicit false
set_option autoImplicit false

/-!
# Walks over object graphs

A graph of containers, whose members are leaves or other containers, with sharing and cycles. A walk
converts it bottom-up, remembers the containers on the way to where it is, and gives up when it
meets one of them again. What it returns is the unfolding of the graph into a tree, when there is
one.

## Main definitions

* `Graphs.Walk` — a conversion: what values and containers are and what is built from them.
* `Graphs.Walk.walk` — the walk itself, with the active containers and the path to the value;
  `Graphs.Walk.run` starts it.
* `Graphs.Walk.unfold`, `Graphs.Walk.Unfolds` — the unfolding to some depth, and to any.

## Main results

* `Graphs.Walk.run_eq_ok` — a walk over a finite graph returns exactly the unfolding.
* `Graphs.Walk.unfolds_leaf`, `Graphs.Walk.unfolds_node` — unfolding one level.
* `Graphs.Walk.Unfolds.of_view` — a conversion that accepts more unfolds the same graphs.

## Design

* An error is a function of the path on which it is met.
* The walk is a recursion on a bound for the number of containers that are not active. When it is
  used up, every container is active, so that stopping there is a cycle as well.
-/

namespace Graphs

open Fallible

variable {V A K E T : Type}

/-- What a value is: a leaf with its result, or a container. -/
inductive View (A K E T : Type)
  | leaf (result : Except (List K → E) T)
  | node (a : A)

/-- A conversion of the values `V` and containers `A` to `T`. -/
structure Walk (V A K E T : Type) where
  /-- What a value is. -/
  view : V → View A K E T
  /-- The members of a container, in order, with their labels; or an error in place of a member. -/
  members : A → List (Except (List K → E) (K × V))
  /-- What a container is converted to, given its converted members. -/
  build : A → List (K × T) → T
  /-- The error of meeting an active container. -/
  cycle : List K → E

namespace Walk

variable {α β : Type}

/-- An error is met on a path. -/
def located (path : List K) : Except (List K → E) α → Except E α
  | .ok a => .ok a
  | .error e => .error (e path)

/-- The conversion of a member, met on `path`. -/
def walkMember (path : List K) (f : K → V → Except E T)
    (member : Except (List K → E) (K × V)) : Except E (K × T) := do
  let (label, item) ← located path member
  let result ← f label item
  return (label, result)

/-- The unfolding of a member. -/
def unfoldMember (f : K → V → Option T) (member : Except (List K → E) (K × V)) :
    Option (K × T) := do
  let (label, item) ← member.toOption
  let result ← f label item
  return (label, result)

section Definitions

variable (w : Walk V A K E T)

/-- The conversion of `v`, found on `path`, while the containers `active` are being converted. -/
def walk [DecidableEq A] : ℕ → List A → List K → V → Except E T
  | 0, _, path, v =>
    match w.view v with
    | .leaf result => located path result
    | .node _ => .error (w.cycle path)
  | fuel + 1, active, path, v =>
    match w.view v with
    | .leaf result => located path result
    | .node a =>
      if a ∈ active then .error (w.cycle path)
      else do
        let members ← (w.members a).mapM <| walkMember path fun label item =>
          walk fuel (a :: active) (label :: path) item
        return w.build a members

/-- The conversion of a value. -/
def run [DecidableEq A] [Fintype A] (v : V) : Except E T := w.walk (Fintype.card A) [] [] v

/-- The unfolding of a container to a depth. -/
def unfoldNode : ℕ → A → Option T
  | 0, _ => none
  | depth + 1, a => do
    let members ← (w.members a).mapM <| unfoldMember fun _ item =>
      match w.view item with
      | .leaf result => result.toOption
      | .node b => unfoldNode depth b
    return w.build a members

/-- The unfolding of a value to a depth. -/
def unfold (depth : ℕ) (v : V) : Option T :=
  match w.view v with
  | .leaf result => result.toOption
  | .node a => w.unfoldNode depth a

/-- A value unfolds to a tree. -/
def Unfolds (v : V) (t : T) : Prop := ∃ depth, w.unfold depth v = some t

end Definitions

/-! ### Lists of members -/

lemma toOption_located (path : List K) (x : Except (List K → E) α) :
    (located path x).toOption = x.toOption := by
  cases x <;> rfl

lemma toOption_walkMember (path : List K) (f : K → V → Except E T)
    (member : Except (List K → E) (K × V)) :
    (walkMember path f member).toOption =
      unfoldMember (fun label item => (f label item).toOption) member := by
  unfold walkMember unfoldMember
  simp only [toOption_bind, toOption_located]
  rfl

lemma unfoldMember_eq_some {f : K → V → Option T} {member : Except (List K → E) (K × V)}
    {m : K × T} : unfoldMember f member = some m ↔
      ∃ item, member = .ok (m.1, item) ∧ f m.1 item = some m.2 := by
  obtain ⟨label, result⟩ := m
  cases member with
  | error e =>
    constructor
    · intro h
      cases h
    · rintro ⟨item, hmember, -⟩
      cases hmember
  | ok member =>
    obtain ⟨label', item⟩ := member
    simp only [unfoldMember, Except.toOption, Option.bind_eq_bind, Option.bind_some,
      Option.bind_eq_some_iff]
    constructor
    · rintro ⟨result', hresult, hpair⟩
      cases hpair
      exact ⟨item, rfl, hresult⟩
    · rintro ⟨item', hitem, hresult⟩
      cases hitem
      exact ⟨result, hresult, rfl⟩

/-- Members are converted where their items are. -/
lemma mapM_unfoldMember_mono {f g : K → V → Option T}
    {members : List (Except (List K → E) (K × V))} {ms : List (K × T)}
    (h : ∀ label item t, f label item = some t → g label item = some t)
    (hf : members.mapM (unfoldMember f) = some ms) : members.mapM (unfoldMember g) = some ms := by
  rw [mapM_eq_some] at hf ⊢
  refine hf.imp fun member m hm => ?_
  obtain ⟨item, hmember, hitem⟩ := unfoldMember_eq_some.1 hm
  exact unfoldMember_eq_some.2 ⟨item, hmember, h _ _ _ hitem⟩

/-! ### Unfolding -/

section Unfolding

variable {w : Walk V A K E T}

lemma unfoldNode_succ {depth : ℕ} {a : A} {t : T} :
    w.unfoldNode (depth + 1) a = some t ↔
      ∃ ms, (w.members a).mapM (unfoldMember fun _ => w.unfold depth) = some ms ∧
        w.build a ms = t := by
  simp only [unfoldNode, Option.bind_eq_bind, Option.bind_eq_some_iff, Option.pure_def,
    Option.some.injEq]
  rfl

/-- Values unfold where their containers do. -/
lemma unfold_of_view {w' : Walk V A K E T}
    (hview : ∀ v, w'.view v = w.view v ∨ ∃ e, w.view v = .leaf (.error e)) {depth depth' : ℕ}
    (h : ∀ a t, w.unfoldNode depth a = some t → w'.unfoldNode depth' a = some t) (v : V) (t : T)
    (hv : w.unfold depth v = some t) : w'.unfold depth' v = some t := by
  unfold unfold at hv ⊢
  rcases hview v with hsame | ⟨e, herror⟩
  · rw [hsame]
    cases hcase : w.view v with
    | leaf result =>
      rw [hcase] at hv
      exact hv
    | node a =>
      rw [hcase] at hv
      exact h a t hv
  · rw [herror] at hv
    cases hv

lemma unfold_mono_of {depth depth' : ℕ}
    (h : ∀ a t, w.unfoldNode depth a = some t → w.unfoldNode depth' a = some t) (v : V) (t : T)
    (hv : w.unfold depth v = some t) : w.unfold depth' v = some t :=
  unfold_of_view (fun _ => .inl rfl) h v t hv

lemma unfoldNode_le_succ (depth : ℕ) (a : A) (t : T) (h : w.unfoldNode depth a = some t) :
    w.unfoldNode (depth + 1) a = some t := by
  induction depth generalizing a t with
  | zero => cases h
  | succ depth ih =>
    obtain ⟨ms, hms, hbuild⟩ := unfoldNode_succ.1 h
    exact unfoldNode_succ.2 ⟨ms, mapM_unfoldMember_mono (fun _ => unfold_mono_of ih) hms, hbuild⟩

/-- What unfolds to some depth unfolds to the same tree beyond it. -/
lemma unfoldNode_mono {depth depth' : ℕ} (hle : depth ≤ depth') {a : A} {t : T}
    (h : w.unfoldNode depth a = some t) : w.unfoldNode depth' a = some t := by
  induction hle with
  | refl => exact h
  | step _ ih => exact unfoldNode_le_succ _ a t ih

lemma unfold_mono {depth depth' : ℕ} (hle : depth ≤ depth') {v : V} {t : T}
    (h : w.unfold depth v = some t) : w.unfold depth' v = some t :=
  unfold_mono_of (fun _ _ => unfoldNode_mono hle) v t h

/-- There is a least depth to which a container unfolds. -/
lemma exists_least_depth {depth : ℕ} {a : A} {t : T} (h : w.unfoldNode depth a = some t) :
    ∃ least, least < depth ∧ w.unfoldNode (least + 1) a = some t ∧
      w.unfoldNode least a = none := by
  induction depth with
  | zero => cases h
  | succ depth ih =>
    cases hbefore : w.unfoldNode depth a with
    | none => exact ⟨depth, depth.lt_succ_self, h, hbefore⟩
    | some t' =>
      obtain rfl : t' = t := Option.some.inj ((unfoldNode_le_succ depth a t' hbefore).symm.trans h)
      obtain ⟨least, hlt, hleast⟩ := ih hbefore
      exact ⟨least, hlt.trans depth.lt_succ_self, hleast⟩

/-- There is at most one unfolding. -/
lemma Unfolds.unique {v : V} {t t' : T} (h : w.Unfolds v t) (h' : w.Unfolds v t') : t = t' := by
  obtain ⟨depth, h⟩ := h
  obtain ⟨depth', h'⟩ := h'
  have ht := unfold_mono (le_max_left depth depth') h
  have ht' := unfold_mono (le_max_right depth depth') h'
  exact Option.some.inj (ht.symm.trans ht')

/-- A leaf unfolds to its result. -/
lemma unfolds_leaf {v : V} {result : Except (List K → E) T} (hview : w.view v = .leaf result)
    {t : T} : w.Unfolds v t ↔ result = .ok t := by
  unfold Unfolds unfold
  rw [hview]
  constructor
  · rintro ⟨_, h⟩
    exact toOption_eq_some.1 h
  · intro h
    exact ⟨0, toOption_eq_some.2 h⟩

/-- What unfolds member by member unfolds to a common depth. -/
lemma exists_depth {members : List (Except (List K → E) (K × V))} {ms : List (K × T)}
    (h : List.Forall₂
      (fun member m => ∃ item, member = .ok (m.1, item) ∧ w.Unfolds item m.2) members ms) :
    ∃ depth, members.mapM (unfoldMember fun _ => w.unfold depth) = some ms := by
  induction h with
  | nil => exact ⟨0, rfl⟩
  | cons hmember _ ih =>
    obtain ⟨item, hmember, depth, hitem⟩ := hmember
    obtain ⟨depth', hms⟩ := ih
    refine ⟨max depth depth', mapM_eq_some.2 (.cons ?_ ?_)⟩
    · exact unfoldMember_eq_some.2 ⟨item, hmember, unfold_mono (le_max_left _ _) hitem⟩
    · exact mapM_eq_some.1
        (mapM_unfoldMember_mono (fun _ _ _ => unfold_mono (le_max_right _ _)) hms)

/-- A container unfolds to what is built from the unfoldings of its members. -/
theorem unfolds_node {v : V} {a : A} (hview : w.view v = .node a) {t : T} :
    w.Unfolds v t ↔ ∃ ms, List.Forall₂
      (fun member m => ∃ item, member = .ok (m.1, item) ∧ w.Unfolds item m.2) (w.members a) ms ∧
        w.build a ms = t := by
  have hunfold (depth : ℕ) : w.unfold depth v = w.unfoldNode depth a := by
    unfold unfold
    rw [hview]
  constructor
  · rintro ⟨depth, h⟩
    rw [hunfold] at h
    cases depth with
    | zero => cases h
    | succ depth =>
      obtain ⟨ms, hms, hbuild⟩ := unfoldNode_succ.1 h
      refine ⟨ms, (mapM_eq_some.1 hms).imp fun member m hm => ?_, hbuild⟩
      obtain ⟨item, hmember, hitem⟩ := unfoldMember_eq_some.1 hm
      exact ⟨item, hmember, depth, hitem⟩
  · rintro ⟨ms, hms, hbuild⟩
    obtain ⟨depth, hdepth⟩ := exists_depth hms
    refine ⟨depth + 1, ?_⟩
    rw [hunfold]
    exact unfoldNode_succ.2 ⟨ms, hdepth, hbuild⟩

/-- A container that unfolds as early as no active one is not active. -/
lemma fresh_of_unfold {active : List A} {depth : ℕ} {a : A} {t : T}
    (hactive : ∀ b ∈ active, w.unfoldNode depth b = none) (h : w.unfoldNode depth a = some t) :
    a ∉ active := by
  intro ha
  rw [hactive a ha] at h
  cases h

/-- A conversion that also accepts other values, and treats those of `w` the same way, unfolds what
`w` unfolds. -/
theorem Unfolds.of_view {w' : Walk V A K E T} (hmembers : w'.members = w.members)
    (hbuild : w'.build = w.build)
    (hview : ∀ v, w'.view v = w.view v ∨ ∃ e, w.view v = .leaf (.error e)) {v : V} {t : T}
    (h : w.Unfolds v t) : w'.Unfolds v t := by
  have hnode (depth : ℕ) (a : A) (t : T) (h : w.unfoldNode depth a = some t) :
      w'.unfoldNode depth a = some t := by
    induction depth generalizing a t with
    | zero => cases h
    | succ depth ih =>
      obtain ⟨ms, hms, rfl⟩ := unfoldNode_succ.1 h
      rw [← hmembers] at hms
      refine unfoldNode_succ.2 ⟨ms, mapM_unfoldMember_mono (fun _ => ?_) hms, by rw [hbuild]⟩
      exact unfold_of_view hview ih
  obtain ⟨depth, h⟩ := h
  exact ⟨depth, unfold_of_view hview (hnode depth) v t h⟩

end Unfolding

/-! ### Walking -/

section Walking

variable [DecidableEq A] {w : Walk V A K E T}

lemma walk_leaf {v : V} {result : Except (List K → E) T} (hview : w.view v = .leaf result)
    {fuel : ℕ} {active : List A} {path : List K} :
    w.walk fuel active path v = located path result := by
  cases fuel <;> simp only [walk, hview]

lemma toOption_walk_leaf {v : V} {result : Except (List K → E) T}
    (hview : w.view v = .leaf result) (fuel : ℕ) (active : List A) (path : List K) :
    (w.walk fuel active path v).toOption = result.toOption := by
  rw [walk_leaf hview, toOption_located]

lemma toOption_walk_node {v : V} {a : A} (hview : w.view v = .node a) {fuel : ℕ}
    {active : List A} {path : List K} (hactive : a ∉ active) {t : T} :
    (w.walk (fuel + 1) active path v).toOption = some t ↔
      ∃ ms, (w.members a).mapM (unfoldMember fun label item =>
          (w.walk fuel (a :: active) (label :: path) item).toOption) = some ms ∧
        w.build a ms = t := by
  simp only [walk, hview, if_neg hactive, toOption_bind, toOption_mapM, toOption_walkMember,
    Option.bind_eq_bind, Option.bind_eq_some_iff]
  exact exists_congr fun ms => and_congr_right fun _ => Option.some_inj

/-- What a walk returns is the unfolding. -/
lemma unfold_of_walk {fuel : ℕ} {active : List A} {path : List K} {v : V} {t : T}
    (h : (w.walk fuel active path v).toOption = some t) : w.unfold fuel v = some t := by
  induction fuel generalizing active path v t with
  | zero =>
    unfold unfold
    cases hview : w.view v with
    | leaf result => rwa [toOption_walk_leaf hview] at h
    | node a =>
      simp only [walk, hview] at h
      cases h
  | succ fuel ih =>
    unfold unfold
    cases hview : w.view v with
    | leaf result => rwa [toOption_walk_leaf hview] at h
    | node a =>
      by_cases hactive : a ∈ active
      · simp only [walk, hview, if_pos hactive] at h
        cases h
      · obtain ⟨ms, hms, hbuild⟩ := (toOption_walk_node hview hactive).1 h
        exact unfoldNode_succ.2 ⟨ms, mapM_unfoldMember_mono (fun _ _ _ => ih) hms, hbuild⟩

/-- **A walk returns the unfolding**, if there is one, no active container unfolds as early, and the
bound is large enough.

**Proof sketch.** Induction on the bound. A container is taken at the least depth at which it
unfolds. It does not unfold at the depth of its members, so that it can be active for them. The
bound is not used up: the active containers and the one that is met are distinct. -/
lemma walk_of_unfold [Fintype A] {fuel : ℕ} {active : List A} {path : List K} {v : V} {t : T}
    {depth : ℕ} (h : w.unfold depth v = some t) (hnodup : active.Nodup)
    (hcard : Fintype.card A ≤ fuel + active.length)
    (hactive : ∀ a ∈ active, w.unfoldNode depth a = none) :
    (w.walk fuel active path v).toOption = some t := by
  induction fuel generalizing active path v t depth with
  | zero =>
    unfold unfold at h
    cases hview : w.view v with
    | leaf result =>
      rw [hview] at h
      rwa [toOption_walk_leaf hview]
    | node a =>
      rw [hview] at h
      have hlength := (List.nodup_cons.2 ⟨fresh_of_unfold hactive h, hnodup⟩).length_le_card
      rw [List.length_cons] at hlength
      omega
  | succ fuel ih =>
    unfold unfold at h
    cases hview : w.view v with
    | leaf result =>
      rw [hview] at h
      rwa [toOption_walk_leaf hview]
    | node a =>
      rw [hview] at h
      have hfresh := fresh_of_unfold hactive h
      obtain ⟨least, hlt, hsucc, hleast⟩ := exists_least_depth h
      obtain ⟨ms, hms, hbuild⟩ := unfoldNode_succ.1 hsucc
      have hactive' : ∀ b ∈ a :: active, w.unfoldNode least b = none := by
        intro b hb
        rcases List.mem_cons.1 hb with rfl | hb
        · exact hleast
        · cases hnone : w.unfoldNode least b with
          | none => rfl
          | some t' =>
            have hsome := unfoldNode_mono hlt.le hnone
            rw [hactive b hb] at hsome
            cases hsome
      refine (toOption_walk_node hview hfresh).2 ⟨ms, ?_, hbuild⟩
      refine mapM_unfoldMember_mono (fun label item t' hitem => ?_) hms
      refine ih hitem (List.nodup_cons.2 ⟨hfresh, hnodup⟩) ?_ hactive'
      rw [List.length_cons]
      omega

/-- **What a walk over a finite graph returns**: the unfolding, whenever there is one. -/
theorem run_eq_ok [Fintype A] {v : V} {t : T} : w.run v = .ok t ↔ w.Unfolds v t := by
  rw [← toOption_eq_some]
  constructor
  · intro h
    exact ⟨_, unfold_of_walk h⟩
  · rintro ⟨depth, h⟩
    refine walk_of_unfold h List.nodup_nil (Nat.le_add_right _ _) fun a ha => ?_
    exact absurd ha List.not_mem_nil

end Walking

end Walk

end Graphs
