import PurrceptCore.Driver.DrivenFlows

set_option relaxedAutoImplicit false
set_option autoImplicit false

/-!
# Scripted tests of flows

`ScriptedExecutor` (`testing.py`), and driver runs with one as their executor.

## Main definitions

* `PurrceptCore.ScriptedExecutor` — the executor; `PurrceptCore.ScriptedExecutor.execute` and
  `PurrceptCore.ScriptedExecutor.assertFinished` are its methods.
* `PurrceptCore.Scripted` — a driver trace whose executor is a scripted one.
* `PurrceptCore.Passes` — what a test checks.
* `PurrceptCore.FollowsScript` — a flow is run as the script says.

## Main results

* `PurrceptCore.scripted_test_passes_iff` — a test passes exactly if the flow follows the script.

## Design

* `__eq__` and `repr` of effects are given. An outcome that is an exception is `Except.error`.
* `execute` is a coroutine: a flow that follows a script gets to see a `RuntimeError` where the
  script has a `StopIteration`.
* A scripted executor reports no progress.
-/

namespace PurrceptCore

open Interaction

variable {S V E : Type}

/-! ### The executor -/

/-- `ScriptedExecutor`. -/
structure ScriptedExecutor (V E : Type) where
  script : List (E × Except Exc V)
  index : ℕ
  calls : List (E × ExecutionContext V)

/-- `AssertionError(text)`. -/
def assertionError (object : ObjId) (text : String) : Exc :=
  ⟨object, .exception, "builtins.AssertionError", text⟩

namespace ScriptedExecutor

/-- `ScriptedExecutor(expected)`. -/
def new (expected : List (E × Except Exc V)) : ScriptedExecutor V E := ⟨expected, 0, []⟩

/-- `effects`. -/
def effects (x : ScriptedExecutor V E) : List E := x.calls.map Prod.fst

/-- `remaining`. -/
def remaining (x : ScriptedExecutor V E) : ℕ := x.script.length - x.index

section Methods

variable [BEq E] (reprOf : E → String) (object : ℕ → ObjId)

/-- `execute`: the outcome, and the executor afterwards. The error of call `n`, if one is created,
has the identity `object n`. -/
def execute (x : ScriptedExecutor V E) (effect : E) (context : ExecutionContext V) :
    Except Exc V × ScriptedExecutor V E :=
  let recorded := { x with calls := x.calls ++ [(effect, context)] }
  match x.script[x.index]? with
  | none =>
    (.error (assertionError (object x.calls.length) ("Unexpected effect at script index " ++
      toString x.index ++ ": " ++ reprOf effect ++ "; the script is already exhausted.")),
      recorded)
  | some (expectedEffect, outcome) =>
    if effect != expectedEffect then
      (.error (assertionError (object x.calls.length) ("Effect mismatch at script index " ++
        toString x.index ++ ": expected " ++ reprOf expectedEffect ++ ", got " ++
        reprOf effect ++ ".")), recorded)
    else
      (leaving "coroutine" (object x.calls.length) outcome,
        { recorded with index := x.index + 1 })

omit [BEq E] in
/-- `assert_finished`. -/
def assertFinished (x : ScriptedExecutor V E) : Except Exc Unit :=
  if x.index = x.script.length then
    .ok ()
  else
    match x.script[x.index]? with
    | none => .error ⟨object x.calls.length, .exception, "builtins.IndexError",
        "tuple index out of range"⟩
    | some (expectedEffect, _) =>
      .error (assertionError (object x.calls.length) ("Script has " ++ toString x.remaining ++
        " unconsumed item(s); next expected effect at index " ++ toString x.index ++ " is " ++
        reprOf expectedEffect ++ "."))

end Methods

end ScriptedExecutor

/-! ### Tests -/

/-- The calls of the executor. -/
def Call.ofExecutor : Call V E → Bool
  | .execute _ _ | .resume _ => true
  | _ => false

section Tests

variable [BEq E] (reprOf : E → String) (object : ℕ → ObjId)

/-- **A test.** In the trace of a driver, the calls of the executor were made of a scripted one with
the given script, which is now as given. -/
inductive Scripted (script : List (E × Except Exc V)) :
    DriverTrace V E → ScriptedExecutor V E → Prop
  | begin : Scripted script [] (.new script)
  | execute {tr x effect context} (h : Scripted script tr x) :
      Scripted script
        (tr ++ [⟨.execute effect context, .done (x.execute reprOf object effect context).1⟩])
        (x.execute reprOf object effect context).2
  | other {tr x call r} (h : Scripted script tr x) (hc : Call.ofExecutor call = false) :
      Scripted script (tr ++ [⟨call, r⟩]) x

variable {reprOf object} in
/-- The calls of the driver that are not made of the executor. -/
lemma Scripted.others {script : List (E × Except Exc V)} {tr : DriverTrace V E}
    {x : ScriptedExecutor V E} (h : Scripted reprOf object script tr x) (part : DriverTrace V E)
    (hpart : part.all (fun x => !x.1.ofExecutor) = true) :
    Scripted reprOf object script (tr ++ part) x := by
  induction part using List.reverseRecOn with
  | nil => rwa [List.append_nil]
  | append_singleton part y ih =>
    rw [List.all_append, Bool.and_eq_true] at hpart
    rw [← List.append_assoc]
    refine (ih hpart.1).other ?_
    simpa using hpart.2

/-- **What a test checks**: the run has returned `value`, `assert_finished()` raises nothing, and
the script has as many items as there were calls. -/
structure Passes (o : Except Exc V) (x : ScriptedExecutor V E) (value : V) : Prop where
  returned : o = .ok value
  finished : x.assertFinished reprOf object = .ok ()
  calls : x.calls.length = x.script.length

/-- The effect of call `n` is the expected one, and comes to what leaves `execute` when its outcome
is returned or raised. -/
def AsScripted (n : ℕ) (x y : E × Except Exc V) : Prop :=
  (x.1 == y.1) = true ∧ x.2 = leaving "coroutine" (object n) y.2

/-- Effects and outcomes with which a script begins. -/
def Begins (script log : List (E × Except Exc V)) : Prop :=
  ∀ (n : ℕ) (x : E × Except Exc V), log[n]? = some x →
    ∃ y, script[n]? = some y ∧ AsScripted object n x y

/-- **A flow follows a script** and returns `value`. -/
def FollowsScript (body : GeneratorBody S V E) (frame : S) (script : List (E × Except Exc V))
    (value : V) : Prop :=
  ∃ log, Plays body frame log (.ok value) ∧ log.length = script.length ∧ Begins object script log

/-! ### What the executor has done -/

/-- **How a script is consumed**: the effects with what they came to, and the number of items
consumed. -/
inductive Consumes (script : List (E × Except Exc V)) : List (E × Except Exc V) → ℕ → Prop
  | nil : Consumes script [] 0
  | matched {log : List (E × Except Exc V)} {i : ℕ} {effect expected : E} {outcome : Except Exc V}
      (h : Consumes script log i) (hi : script[i]? = some (expected, outcome))
      (heq : (effect == expected) = true) :
      Consumes script (log ++ [(effect, leaving "coroutine" (object log.length) outcome)]) (i + 1)
  | rejected {log : List (E × Except Exc V)} {i : ℕ} {effect : E} {outcome : Except Exc V}
      (h : Consumes script log i)
      (hi : ∀ item, script[i]? = some item → (effect == item.1) = false) :
      Consumes script (log ++ [(effect, outcome)]) i

section Consuming

variable {object : ℕ → ObjId} {script log before after : List (E × Except Exc V)} {i : ℕ}
  {x y : E × Except Exc V}

lemma begins_nil : Begins object script [] := fun _ _ h => by cases h

/-- One more item. -/
lemma begins_concat : Begins object script (log ++ [x]) ↔ Begins object script log ∧
    ∃ y, script[log.length]? = some y ∧ AsScripted object log.length x y := by
  constructor
  · intro h
    refine ⟨fun n z hz => h n z ?_, h log.length x List.getElem?_concat_length⟩
    rw [List.getElem?_append_left (List.getElem?_eq_some_iff.1 hz).1, hz]
  · rintro ⟨hlog, hx⟩ n z hz
    rcases Nat.lt_or_ge n log.length with hn | hn
    · rw [List.getElem?_append_left hn] at hz
      exact hlog n z hz
    · obtain ⟨hlt, -⟩ := List.getElem?_eq_some_iff.1 hz
      obtain rfl : n = log.length := by
        rw [List.length_append, List.length_singleton] at hlt
        omega
      rw [List.getElem?_concat_length] at hz
      cases hz
      exact hx

lemma Consumes.index_le (h : Consumes object script log i) :
    i ≤ log.length ∧ i ≤ script.length := by
  induction h with
  | nil => exact ⟨Nat.zero_le _, Nat.zero_le _⟩
  | matched h hi heq ih =>
    obtain ⟨hlt, -⟩ := List.getElem?_eq_some_iff.1 hi
    rw [List.length_append]
    exact ⟨Nat.add_le_add_right ih.1 1, hlt⟩
  | rejected h hi ih =>
    rw [List.length_append]
    exact ⟨ih.1.trans (Nat.le_add_right _ _), ih.2⟩

/-- **All effects were expected** exactly if the script begins with the log. -/
lemma Consumes.begins_iff (h : Consumes object script log i) :
    i = log.length ↔ Begins object script log := by
  induction h with
  | nil => exact ⟨fun _ => begins_nil, fun _ => rfl⟩
  | @matched log i effect expected outcome h hi heq ih =>
    rw [List.length_append, List.length_singleton, Nat.add_right_cancel_iff, begins_concat, ih]
    refine ⟨fun hbegins => ⟨hbegins, (expected, outcome), ?_, heq, rfl⟩, And.left⟩
    rw [← ih.2 hbegins, hi]
  | @rejected log i effect outcome h hi ih =>
    rw [List.length_append, begins_concat, ← ih]
    have hle := h.index_le.1
    refine ⟨fun hi => by simp at hi; omega, ?_⟩
    rintro ⟨rfl, item, hitem, heq, -⟩
    rw [hi item hitem] at heq
    cases heq

/-- As long as all effects were expected, an effect that is expected comes to its outcome. -/
lemma Consumes.outcome_eq (h : Consumes object script log i) (hlog : log = before ++ x :: after)
    (hbefore : Begins object script before) (hy : script[before.length]? = some y)
    (heq : (x.1 == y.1) = true) : x.2 = leaving "coroutine" (object before.length) y.2 := by
  have hsplit {log after : List (E × Except Exc V)} {z last : E × Except Exc V}
      (h : log ++ [z] = before ++ x :: after.concat last) : log = before ++ x :: after := by
    rw [List.concat_eq_append, ← List.cons_append, ← List.append_assoc] at h
    exact (List.append_inj' h rfl).1
  induction h generalizing after with
  | nil => simp at hlog
  | @matched log i effect expected outcome h hi heq' ih =>
    rcases List.eq_nil_or_concat after with rfl | ⟨after', last, rfl⟩
    · obtain ⟨rfl, hx⟩ := List.append_inj' hlog rfl
      cases hx
      rw [h.begins_iff.2 hbefore, hy] at hi
      cases hi
      rfl
    · exact ih (hsplit hlog)
  | @rejected log i effect outcome h hi ih =>
    rcases List.eq_nil_or_concat after with rfl | ⟨after', last, rfl⟩
    · obtain ⟨rfl, hx⟩ := List.append_inj' hlog rfl
      cases hx
      rw [h.begins_iff.2 hbefore] at hi
      have hne := hi y hy
      rw [heq] at hne
      cases hne
    · exact ih (hsplit hlog)

end Consuming

variable {reprOf object} {script : List (E × Except Exc V)} {x : ScriptedExecutor V E}

variable (reprOf object) in
/-- What a call does: an item is consumed if its effect is the expected one. -/
lemma ScriptedExecutor.execute_cases (effect : E) (context : ExecutionContext V) :
    (x.execute reprOf object effect context).2.script = x.script ∧
    (x.execute reprOf object effect context).2.calls = x.calls ++ [(effect, context)] ∧
    ((∃ expected outcome, x.script[x.index]? = some (expected, outcome) ∧
        (x.execute reprOf object effect context).1 =
          leaving "coroutine" (object x.calls.length) outcome ∧
        (effect == expected) = true ∧
        (x.execute reprOf object effect context).2.index = x.index + 1) ∨
      ((∀ item, x.script[x.index]? = some item → (effect == item.1) = false) ∧
        (x.execute reprOf object effect context).2.index = x.index)) := by
  unfold execute
  dsimp only
  split
  · next hnone =>
    refine ⟨rfl, rfl, .inr ⟨fun item hitem => ?_, rfl⟩⟩
    rw [hnone] at hitem
    cases hitem
  · next expected outcome hsome =>
    split
    · next hne =>
      refine ⟨rfl, rfl, .inr ⟨fun item hitem => ?_, rfl⟩⟩
      rw [hsome] at hitem
      cases hitem
      simpa [bne] using hne
    · next heq =>
      refine ⟨rfl, rfl, .inl ⟨expected, outcome, hsome, rfl, ?_, rfl⟩⟩
      simpa [bne] using heq

omit [BEq E] in
/-- `assert_finished` raises nothing exactly if the script is consumed. -/
lemma ScriptedExecutor.assertFinished_eq_ok :
    x.assertFinished reprOf object = .ok () ↔ x.index = x.script.length := by
  unfold assertFinished
  split
  · next h => exact ⟨fun _ => h, fun _ => rfl⟩
  · next h =>
    refine ⟨fun hok => ?_, fun h' => absurd h' h⟩
    split at hok <;> cases hok

/-- **What a scripted executor has done** in a driver run. -/
lemma Scripted.consumes {tr : DriverTrace V E} (h : Scripted reprOf object script tr x) :
    x.script = script ∧ x.effects = executed tr ∧
      (executed tr).length = (outcomes tr).length ∧
      Consumes object script ((executed tr).zip (outcomes tr)) x.index := by
  induction h with
  | begin => exact ⟨rfl, rfl, rfl, .nil⟩
  | @execute tr x effect context h ih =>
    obtain ⟨hscript, hcalls, hlength, hconsumes⟩ := ih
    obtain ⟨hscript', hcalls', hindex⟩ := x.execute_cases reprOf object effect context
    generalize x.execute reprOf object effect context = result at hscript' hcalls' hindex ⊢
    obtain ⟨outcome, y⟩ := result
    have hexecuted : executed (tr ++ [⟨.execute effect context, .done outcome⟩]) =
        executed tr ++ [effect] := by simp
    have houtcomes : outcomes (tr ++ [⟨.execute effect context, .done outcome⟩]) =
        outcomes tr ++ [outcome] := by simp
    refine ⟨hscript'.trans hscript, ?_, ?_, ?_⟩
    · rw [hexecuted, ← hcalls, ScriptedExecutor.effects, hcalls', List.map_append]
      rfl
    · rw [hexecuted, houtcomes, List.length_append, List.length_append, hlength]
      rfl
    · have hcount : x.calls.length = ((executed tr).zip (outcomes tr)).length := by
        rw [List.length_zip, ← hlength, Nat.min_self, ← hcalls, ScriptedExecutor.effects,
          List.length_map]
      rw [hexecuted, houtcomes, List.zip_append hlength]
      subst hscript
      rcases hindex with ⟨expected, scripted, hitem, houtcome, heq, hnext⟩ | ⟨hnone, hsame⟩
      · dsimp only at hnext houtcome
        rw [hnext, houtcome, hcount]
        exact hconsumes.matched hitem heq
      · dsimp only at hsame
        rw [hsame]
        exact hconsumes.rejected hnone
  | @other tr x call r h hc ih =>
    have hexecution : executionOf (⟨call, r⟩ : Σ c, Reply V E c) = none := by
      cases call <;> first | rfl | cases hc
    have hactivity : activityOf (⟨call, r⟩ : Σ c, Reply V E c) = none := by
      cases call <;> first | rfl | cases hc
    have hexecuted : executed (tr ++ [⟨call, r⟩]) = executed tr :=
      observe_snoc_none executed (Observation.filterMap_none hexecution)
    have houtcomes : outcomes (tr ++ [⟨call, r⟩]) = outcomes tr :=
      observe_snoc_none outcomes (Observation.filterMap_none hactivity)
    rw [hexecuted, houtcomes]
    exact ih

/-! ### The flow and the script -/

section Flows

variable {body : GeneratorBody S V E} {frame : S} {log log' before after : List (E × Except Exc V)}
  {step step' : BodyStep S V E} {o : Except Exc V} {value : V} {i : ℕ}

/-- A script begins with the first part of a log that it begins with. -/
lemma Begins.of_append {script : List (E × Except Exc V)}
    (h : Begins object script (before ++ after)) : Begins object script before := by
  intro n x hx
  refine h n x ?_
  rwa [List.getElem?_append_left (List.getElem?_eq_some_iff.1 hx).1]

/-- The next effect of a flow is the one of the script, and comes to its outcome. -/
lemma Reaches.next_of_script {effect : E} {frame' : S} {outcome : Except Exc V}
    {x : E × Except Exc V} (h : Reaches body frame before (.yields effect frame'))
    (hreaches : Reaches body frame (before ++ x :: after) step)
    (hbegins : Begins object script (before ++ x :: after))
    (hconsumes : Consumes object script log i)
    {rest : List (E × Except Exc V)} (hlog : log = before ++ (effect, outcome) :: rest) :
    x = (effect, outcome) ∧ Deliverable x.2 := by
  obtain ⟨effect', outcome'⟩ := x
  obtain ⟨hdeliverable, frame'', hyielded⟩ := hreaches.yielded rfl
  cases h.unique hyielded
  obtain ⟨item, hitem, heq, houtcome⟩ := hbegins before.length (effect, outcome') (by
    rw [List.getElem?_append_right le_rfl, Nat.sub_self]
    rfl)
  have hsame := hconsumes.outcome_eq hlog hbegins.of_append hitem heq
  dsimp only at houtcome hsame
  rw [houtcome, hsame]
  rw [houtcome] at hdeliverable
  exact ⟨rfl, hdeliverable⟩

/-- **As long as a flow follows the script**, so does the executor.

**Proof sketch.** Induction on what the flow has done. It yields what it yields when it follows the
script, which is the expected effect, and the executor returns its outcome. -/
lemma Reaches.prefix_of_script (h : Reaches body frame log' step')
    (hreaches : Reaches body frame log step) (hbegins : Begins object script log)
    {full rest : List (E × Except Exc V)} (hconsumes : Consumes object script full i)
    (hfull : full = log' ++ rest) : log' <+: log ∨ log <+: log' := by
  induction h generalizing rest with
  | enter => exact .inl (List.nil_prefix)
  | @resume log' effect frame' outcome h ho ih =>
    rw [List.append_assoc] at hfull
    rcases ih hfull with ⟨after, rfl⟩ | hpre
    · cases after with
      | nil =>
        rw [List.append_nil]
        exact .inr (List.prefix_append _ _)
      | cons x after =>
        obtain ⟨rfl, -⟩ := h.next_of_script hreaches hbegins hconsumes hfull
        exact .inl ⟨after, List.append_assoc _ _ _⟩
    · exact .inr (hpre.trans (List.prefix_append _ _))

omit [BEq E] in
/-- A flow that has ended goes no further. -/
lemma Reaches.not_ended (h : Reaches body frame log step)
    (hreaches : Reaches body frame before step')
    (hstep : ∀ effect frame', step' ≠ .yields effect frame')
    (hpre : before <+: log) : log = before := by
  obtain ⟨after, rfl⟩ := hpre
  cases after with
  | nil => rw [List.append_nil]
  | cons x after =>
    obtain ⟨effect, outcome⟩ := x
    obtain ⟨-, frame', hyielded⟩ := h.yielded rfl
    exact absurd (hreaches.unique hyielded) (hstep _ _)

/-- **A flow that can follow the script does.** -/
lemma Plays.of_script (hplays : Plays body frame log' o) (hconsumes : Consumes object script log' i)
    (hreaches : Reaches body frame log (.returns value)) (hbegins : Begins object script log) :
    log' = log ∧ o = .ok value := by
  have hended {step' : BodyStep S V E} (h : Reaches body frame log' step')
      (hstep : ∀ effect frame', step' ≠ .yields effect frame') :
      log' = log ∧ step' = .returns value := by
    have hsame : log' = log := by
      rcases h.prefix_of_script hreaches hbegins hconsumes (List.append_nil _).symm with
        hpre | hpre
      · exact (hreaches.not_ended h hstep hpre).symm
      · exact h.not_ended hreaches (fun _ _ h => by cases h) hpre
    subst hsame
    exact ⟨rfl, h.unique hreaches⟩
  cases hplays with
  | returned h =>
    obtain ⟨hlog, hstep⟩ := hended h fun _ _ h => by cases h
    cases hstep
    exact ⟨hlog, rfl⟩
  | raised h => cases (hended h fun _ _ h => by cases h).2
  | exited h => cases (hended h fun _ _ h => by cases h).2
  | @stopped log' effect frame' error h he =>
    exfalso
    rcases h.prefix_of_script hreaches hbegins hconsumes rfl with ⟨after, rfl⟩ | hpre
    · cases after with
      | nil =>
        rw [List.append_nil] at hreaches
        cases h.unique hreaches
      | cons x after =>
        obtain ⟨rfl, hdeliverable⟩ := h.next_of_script hreaches hbegins hconsumes rfl
        exact he hdeliverable
    · obtain rfl := h.not_ended hreaches (fun _ _ h => by cases h) hpre
      cases h.unique hreaches

end Flows

/-- **A scripted test passes exactly if the flow follows the script.** For every generator and every
script, in every run of the driver that nothing else disturbs: the run returns `value`, the script
is consumed and there was no other call, exactly if the flow yields the effects of the script, and
returns `value` when it is resumed with their outcomes, a `StopIteration` among these being replaced
by a `RuntimeError`. -/
theorem scripted_test_passes_iff [DecidableEq V] {none : V} {body : GeneratorBody S V E} {frame : S}
    {host : V} {metadata : List (String × V)} {given : Option String} {tr : DriverTrace V E}
    {o : Except Exc V} {s : DriverState E} {a : Adapted (Generator S)}
    (hrun : DriverRuns host metadata given tr (.ret (o, s)))
    (hhosts : Hosts none body frame tr a) (hundisturbed : ∀ x ∈ tr, Undisturbed x.1 x.2)
    (hscripted : Scripted reprOf object script tr x) (value : V) :
    Passes reprOf object o x value ↔ FollowsScript object body frame script value := by
  obtain ⟨hlength, hplays⟩ := driven_flow_plays hrun hhosts hundisturbed
  obtain ⟨rfl, heffects, -, hconsumes⟩ := hscripted.consumes
  have hcalls : x.calls.length = ((executed tr).zip (outcomes tr)).length := by
    rw [List.length_zip, ← hlength, Nat.min_self, ← heffects, ScriptedExecutor.effects,
      List.length_map]
  constructor
  · rintro ⟨rfl, hfinished, hcount⟩
    rw [ScriptedExecutor.assertFinished_eq_ok] at hfinished
    refine ⟨_, hplays, ?_, hconsumes.begins_iff.1 ?_⟩
    · rw [← hcalls, hcount]
    · rw [← hcalls, hcount, hfinished]
  · rintro ⟨log, hlog, hlength', hbegins⟩
    have hreaches : Reaches body frame log (.returns value) := by
      generalize ho : Except.ok value = o at hlog
      cases hlog with
      | returned h => cases ho; exact h
      | raised | exited | stopped => cases ho
    obtain ⟨hsame, rfl⟩ := hplays.of_script hconsumes hreaches hbegins
    rw [hsame] at hcalls hconsumes
    refine ⟨rfl, ScriptedExecutor.assertFinished_eq_ok.2 ?_, hcalls.trans hlength'⟩
    rw [hconsumes.begins_iff.2 hbegins, hlength']

end Tests

/-! ### A flow that asks once -/

/-- The body of `yield effect`, after which the flow returns. -/
def askOnce : GeneratorBody Bool Unit Unit
  | false, _ => .yields () true
  | true, .value value => .returns value
  | true, .error error => .raises error
  | true, _ => .returns ()

/-- A test of it passes, so it follows the script. -/
theorem scripted_test_passes_iff_askOnce :
    FollowsScript ObjId.given askOnce false [((), .ok ())] () := by
  let tr := (Collaborators.plain.play () [] (some "run") 20).1
  have hstart : Adapted.Step (Generator.reply () askOnce) ⟨.created, .created false⟩
      ⟨.start, .ok (some (.yielded ())), [⟨.next, .yielded ()⟩]⟩ ⟨.running, .suspended true⟩ :=
    ⟨.step (.refl _), rfl, rfl⟩
  have hsend : Adapted.Step (Generator.reply () askOnce) ⟨.running, .suspended true⟩
      ⟨.send (), .ok (some (.returned ())), [⟨.send (), .stopIteration ()⟩]⟩
      ⟨.returned, .finished⟩ := ⟨.step (.refl _), rfl, rfl⟩
  have hstarted : Hosts () askOnce false ([] ++ tr.take 3 ++ [⟨.start, .ok (.yielded ())⟩])
      ⟨.running, .suspended true⟩ := (Hosts.begin.others (tr.take 3) rfl).start hstart
  have hhosts : Hosts () askOnce false ([] ++ tr.take 3 ++ [⟨.start, .ok (.yielded ())⟩] ++
      (tr.drop 4).take 8 ++ [⟨.send (), .ok (.returned ())⟩] ++ tr.drop 13)
      ⟨.returned, .finished⟩ :=
    ((hstarted.others ((tr.drop 4).take 8) rfl).send hsend).others (tr.drop 13) rfl
  let context : ExecutionContext Unit := ⟨"run", "id", 0, (), [], 0⟩
  have hscripted : Scripted (fun _ => "()") ObjId.given [((), .ok ())] ([] ++ tr.take 8 ++
      [⟨.execute () context, .done (.ok ())⟩] ++ tr.drop 9) ⟨[((), .ok ())], 1, [((), context)]⟩ :=
    ((Scripted.begin.others (tr.take 8) rfl).execute).others (tr.drop 9) rfl
  have hundisturbed : ∀ x ∈ tr, Undisturbed x.1 x.2 := by
    rintro ⟨c, r⟩ hx
    obtain rfl : r = Collaborators.plain.answer c := Prog.mem_play hx
    cases c with
    | idFactory | clock | monotonic => exact ⟨_, rfl⟩
    | emit => rfl
    | _ => trivial
  exact (scripted_test_passes_iff (Collaborators.plain.runs () [] (some "run") 20) hhosts
    hundisturbed hscripted ()).1 ⟨rfl, rfl, rfl⟩

end PurrceptCore
