import PurrceptCore.Driver.Observations

set_option relaxedAutoImplicit false
set_option autoImplicit false

/-!
# When a run that has returned still fails

The driver returns what the run has returned, once the sink has accepted `RunSucceeded`. If the
sink does not accept it, or a clock raises that is read for it, the driver raises although the run
has returned.

## Main definitions

* `PurrceptCore.rejections` — the `RunSucceeded` events that the sink has not accepted.
* `PurrceptCore.Unstamped` — no `RunSucceeded` was emitted, for want of a time.

## Main results

* `PurrceptCore.DriverRuns.returned`, `PurrceptCore.DriverRuns.unreported` — what the run has come
  to when the driver returns, and why the driver raises although the run has returned.
-/

namespace PurrceptCore

open Interaction

variable {V E : Type}

/-- The value of a `RunSucceeded` event that the sink has not accepted. -/
def rejectionOf : (Σ c, Reply V E c) → Option V
  | ⟨.emit (.runSucceeded _ _ _ _), .ok .none⟩ => none
  | ⟨.emit (.runSucceeded _ _ result _), _⟩ => some result
  | _ => none

/-- The values of the `RunSucceeded` events that the sink has not accepted. -/
@[simps]
def rejections : Observation V E V where
  of := rejectionOf
  service := by rintro ⟨_ | _, _⟩ h <;> first | rfl | cases h

/-- The value that an advancement has returned. -/
@[simp] def returnedValue : Except Exc (RunState V E) → Option V
  | .ok (.returned value) => some value
  | _ => none

/-- The values that the run has returned. -/
abbrev returns : Observation V E V := advancements.filterMap returnedValue

/-- The last visible call is an advancement that has returned a value. -/
def JustReturned (tr : DriverTrace V E) : Prop :=
  ∃ before y v, tr = before ++ [y] ∧ advancementOf y = some (.ok (.returned v))

/-- **The report of a success fails before the sink is called**: right after the run has returned
`v`, a service call raises. -/
def Unstamped (v : V) (tr : DriverTrace V E) : Prop :=
  ∃ before y stamps x after, tr = before ++ y :: (stamps ++ x :: after) ∧
    advancementOf y = some (.ok (.returned v)) ∧
    (∀ z ∈ stamps, z.1.isService = true ∧ TotalServices z.1 z.2) ∧ ¬ TotalServices x.1 x.2

/-- The run has returned the value that is not reported. -/
lemma Unstamped.mem_returns {v : V} {tr : DriverTrace V E} (h : Unstamped v tr) :
    v ∈ returns tr := by
  obtain ⟨before, y, stamps, x, after, rfl, hy, -⟩ := h
  have hreturns : returns.of y = some v := by
    rw [Observation.filterMap_of, advancements_of, hy]
    rfl
  rw [observe_append, observe_cons, hreturns]
  simp

namespace Reporting

/-- The observer. -/
abbrev watch : Monitor (Call V E) (Reply V E) (DriverTrace V E) :=
  observer (fun _ _ => True) fun _ _ => True

/-- The monitor. If `total` holds, the services are assumed to be total when the run has just
returned. -/
abbrev monitor (total : Prop) : Monitor (Call V E) (Reply V E) (DriverTrace V E) :=
  watch.assuming fun tr c r => total → JustReturned tr → TotalServices c r

variable {total : Prop} {tr : DriverTrace V E}

instance : Quiet (monitor (V := V) (E := E) total) where
  allow _ _ hc := .inl hc
  next := Quiet.next (M := watch)

/-- The monitor appends a call with its reply. -/
lemma monitor_next {c : Call V E} {r : Reply V E c} (hc : c.isService = false) :
    (monitor (E := E) total).next tr c r = tr ++ [⟨c, r⟩] :=
  @observer_next V E (fun _ _ => True) (fun _ _ => True) tr c r hc

/-- The assertion where an exception reaches the outer handlers: what has been returned was
rejected. -/
def Raised (total : Prop) (tr : DriverTrace V E) : Prop := total → returns tr = rejections tr

/-- How a driver run ends. -/
def Post (total : Prop) : Except Exc V → DriverTrace V E → Prop
  | .ok v, tr => returns tr = [v]
  | .error _, tr => Raised total tr

/-- The assertion while the run goes on: it has not returned. -/
def Open (tr : DriverTrace V E) : Prop := returns tr = [] ∧ rejections tr = []

lemma Open.raised (h : Open tr) : Raised total tr := fun _ => h.1.trans h.2.symm

/-- The assertion at the head of the loop. -/
structure Head (state : RunState V E) (tr : DriverTrace V E) : Prop where
  returns : returns tr = (returnedValue (.ok state)).toList
  rejections : rejections tr = []
  just : ∀ v, state = .returned v → JustReturned tr

lemma Head.isOpen {state : RunState V E} (h : Head state tr)
    (hstate : returnedValue (.ok state) = none) : Open tr := by
  refine ⟨?_, h.rejections⟩
  rw [h.returns, hstate]
  rfl

/-- Emitting an event other than `RunSucceeded`. -/
lemma reports {f : Instant → Seconds → RunEvent V E} {K : DriverTrace V E → Prop}
    {raise : Exc → DriverTrace V E → Prop}
    (hf : ∀ t d r, rejectionOf ⟨.emit (f t d), r⟩ = none)
    (hK : ∀ tr', returns tr' = returns tr → rejections tr' = rejections tr → K tr')
    (hraise : ∀ e tr', returns tr' = returns tr → rejections tr' = rejections tr → raise e tr') :
    Reports (monitor total) tr f K raise where
  service e _ := hraise e tr rfl rfl
  emits t d :=
    have hreturns (r : Except Exc SinkResult) :
        returns (tr ++ [⟨.emit (f t d), r⟩]) = returns tr := observe_snoc_none returns rfl
    have hrejections (r : Except Exc SinkResult) :
        rejections (tr ++ [⟨.emit (f t d), r⟩]) = rejections tr :=
      observe_snoc_none rejections (hf t d r)
    { allow := .inr trivial
      delivered := by
        intro r _ _
        rw [monitor_next rfl]
        exact hK _ (hreturns r) (hrejections r)
      failed := by
        intro r e _ _ _
        rw [monitor_next rfl]
        exact hraise e _ (hreturns r) (hrejections r)
      escaped := by
        intro e _ _
        rw [monitor_next rfl]
        exact hraise e _ (hreturns _) (hrejections _) }

/-- A reply that was not accepted is a rejection. -/
lemma rejectionOf_failed {runId : String} {t : Instant} {v : V} {d : Seconds}
    {r : Except Exc SinkResult} (hr : ¬ Delivered r) :
    rejectionOf (E := E) ⟨.emit (.runSucceeded runId t v d), r⟩ = some v := by
  cases r with
  | error e => rfl
  | ok result =>
    cases result with
    | none => exact absurd rfl hr
    | awaitable => rfl
    | other typeName => rfl

/-- Emitting `RunSucceeded`. -/
lemma reportsSuccess {runId : String} {v : V} (h : Head (.returned v) tr) :
    Reports (monitor total) tr (fun t d => .runSucceeded runId t v d) (Post total (.ok v))
      fun _ => Raised total where
  service e he := by
    intro htotal
    have hjust : JustReturned tr := h.just v rfl
    rcases he with he | he | he <;> exact (he htotal hjust).elim
  emits t d :=
    have hreturns (r : Except Exc SinkResult) :
        returns (tr ++ [⟨.emit (.runSucceeded runId t v d), r⟩]) = [v] :=
      (observe_snoc_none returns rfl).trans h.returns
    have hrejected {r : Except Exc SinkResult} (hr : ¬ Delivered r) :
        Raised total (tr ++ [⟨.emit (.runSucceeded runId t v d), r⟩]) := by
      intro _
      have hof : rejections.of (⟨.emit (.runSucceeded runId t v d), r⟩ : Σ c, Reply V E c) =
        some v := rejectionOf_failed hr
      rw [hreturns, observe_append, h.rejections, observe_cons, hof]
      rfl
    { allow := .inr trivial
      delivered := by
        intro r _ _
        rw [monitor_next rfl]
        exact hreturns r
      failed := by
        intro r e _ hr _
        rw [monitor_next rfl]
        exact hrejected fun hd => hd.not_failed hr
      escaped := by
        intro e _ _
        rw [monitor_next rfl]
        exact hrejected fun h => by cases h }

/-- Advancing the run. -/
lemma advances {c : Call V E} {read : Reply V E c → Except Exc (RunState V E)}
    (hc : c.isService = false) (hof : ∀ r, advancementOf ⟨c, r⟩ = some (read r))
    (hrej : ∀ r, rejectionOf ⟨c, r⟩ = none) (h : Open tr) :
    Advances (monitor total) tr c read Head fun _ => Raised total where
  allow := .inr trivial
  reply r _ := by
    have hreturns : returns (tr ++ [⟨c, r⟩]) = (returnedValue (read r)).toList := by
      have hshow : returns.of (⟨c, r⟩ : Σ c, Reply V E c) = returnedValue (read r) := by
        rw [Observation.filterMap_of, advancements_of, hof r]
        rfl
      rw [observe_append, h.1, observe_cons, hshow]
      exact List.append_nil _
    have hrejections : rejections (tr ++ [⟨c, r⟩]) = [] :=
      (observe_snoc_none rejections (hrej r)).trans h.2
    rw [monitor_next hc]
    cases hread : read r with
    | ok state =>
      rw [hread] at hreturns
      refine ⟨hreturns, hrejections, fun v hv => ⟨tr, _, v, rfl, ?_⟩⟩
      rw [hof r, hread, hv]
    | error e =>
      rw [hread] at hreturns
      exact fun _ => hreturns.trans hrejections.symm

/-- A call of the executor. -/
lemma Open.snoc (h : Open tr) {c : Call V E} {r : Reply V E c} (hc : c.isService = false)
    (hadv : advancementOf ⟨c, r⟩ = none) (hrej : rejectionOf ⟨c, r⟩ = none) :
    Open ((monitor (E := E) total).next tr c r) := by
  rw [monitor_next hc]
  have hreturns : returns (tr ++ [⟨c, r⟩]) = returns tr :=
    observe_snoc_none returns (Observation.filterMap_none hadv)
  exact ⟨hreturns.trans h.1, (observe_snoc_none rejections hrej).trans h.2⟩

/-- Closing the run. -/
lemma closes {K : DriverTrace V E → Prop}
    (hK : ∀ tr', returns tr' = returns tr → rejections tr' = rejections tr → K tr') :
    Closes (monitor total) tr K := by
  refine ⟨.inr trivial, fun r _ => ?_⟩
  rw [monitor_next rfl]
  exact hK _ (observe_snoc_none returns rfl) (observe_snoc_none rejections rfl)

/-- What has been returned was rejected, whatever else has happened. -/
lemma Raised.congr (h : Raised total tr) {tr' : DriverTrace V E}
    (hreturns : returns tr' = returns tr) (hrejections : rejections tr' = rejections tr) :
    Raised total tr' := by
  rw [Raised, hreturns, hrejections]
  exact h

lemma Open.congr (h : Open tr) {tr' : DriverTrace V E} (hreturns : returns tr' = returns tr)
    (hrejections : rejections tr' = rejections tr) : Open tr' :=
  ⟨hreturns.trans h.1, hrejections.trans h.2⟩

/-- **Proof outline.** At the head of the loop the run has returned at most what the loop is about
to report. -/
def outline (runId : String) (host : V) (metadata : List (String × V)) :
    Outline (E := E) (monitor total) runId host metadata (Post total) [] where
  head _ := Head
  working _ _ _ _ _ := Open
  raised _ := Raised total
  started := reports (fun _ _ _ => rfl)
    (fun _ h h' => advances rfl (fun _ => rfl) (fun _ => rfl) ⟨h, h'⟩)
    fun _ _ h h' _ => h.trans h'.symm
  returned _ _ _ h := reportsSuccess h
  unsupported _ _ _ h _ _ := (h.isOpen rfl).raised
  yielded _ _ _ h _ :=
    have hopen := h.isOpen rfl
    reports (fun _ _ _ => rfl)
      (fun _ h' h'' => ⟨.inr trivial, fun _ _ => (hopen.congr h' h'').snoc rfl rfl rfl⟩)
      fun _ _ h' h'' => hopen.raised.congr h' h''
  progress _ _ _ := {
    stale := fun _ _ _ _ _ h _ _ => ⟨.inr trivial, fun _ _ => h.snoc rfl rfl rfl⟩
    latched := fun _ _ _ h => ⟨.inr trivial, fun _ _ => h.snoc rfl rfl rfl⟩
    fresh := fun _ _ h => reports (fun _ _ _ => rfl)
      (fun _ h' h'' => ⟨.inr trivial, fun _ _ => (h.congr h' h'').snoc rfl rfl rfl⟩)
      fun _ _ h' h'' => ⟨.inr trivial, fun _ _ => (h.congr h' h'').snoc rfl rfl rfl⟩ }
  aborted _ _ _ _ _ _ h _ _ _ := h.raised
  effectFailed _ _ _ _ _ _ h _ _ _ _ := reports (fun _ _ _ => rfl)
    (fun _ h' h'' => advances rfl (fun _ => rfl) (fun _ => rfl) (h.congr h' h''))
    fun _ _ h' h'' => h.raised.congr h' h''
  effectSucceeded _ _ _ _ _ _ h _ _ := reports (fun _ _ _ => rfl)
    (fun _ h' h'' => advances rfl (fun _ => rfl) (fun _ => rfl) (h.congr h' h''))
    fun _ _ h' h'' => h.raised.congr h' h''
  cancelled _ _ h _ := closes fun _ h' h'' => reports (fun _ _ _ => rfl)
    (fun _ g g' => (h.congr h' h'').congr g g') fun _ _ g g' => (h.congr h' h'').congr g g'
  closed _ _ h _ := closes fun _ h' h'' => h.congr h' h''
  failed _ _ h _ _ := reports (fun _ _ _ => rfl)
    (fun _ h' h'' => closes fun _ g g' => (h.congr h' h'').congr g g')
    fun _ _ h' h'' => closes fun _ g g' => (h.congr h' h'').congr g g'

/-- The driver keeps to the monitor. -/
lemma keeps (total : Prop) (fuel : ℕ) (host : V) (metadata : List (String × V))
    (given : Option String) : Routine.wp (monitor (E := E) total)
      (AgentDriver.run fuel host metadata given) (Outline.Post (Post total))
      AgentDriver.initialState [] :=
  Outline.wp_run given (fun runId _ => outline runId host metadata)
    (fun _ _ => closes fun _ h h' _ => h.trans h'.symm) fun o _ _ h => by
      cases o with
      | ok v => exact h
      | error e => exact h

/-- What the monitor remembers of a trace. -/
lemma monitor_run (tr : DriverTrace V E) : (monitor (E := E) total).run [] tr = visible tr := by
  rw [Monitor.assuming_run]
  exact Monitor.history_run [] tr

/-- Service calls that are made when the run has just returned raise nothing, as is assumed. -/
lemma services_total (h : JustReturned tr) {stamps : DriverTrace V E}
    (hservice : ∀ z ∈ stamps, z.1.isService = true)
    (hassumed : (monitor True).Assumed tr stamps) :
    ∀ z ∈ stamps, TotalServices z.1 z.2 := by
  induction stamps with
  | nil => exact List.forall_mem_nil _
  | cons z stamps ih =>
    obtain ⟨c, r⟩ := z
    obtain ⟨hc, hservice⟩ := List.forall_mem_cons.1 hservice
    have hrest := hassumed.2
    rw [Quiet.next tr c r hc] at hrest
    exact List.forall_mem_cons.2 ⟨hassumed.1 trivial h, ih hservice hrest⟩

/-- A trace whose last visible call is an advancement goes on with service calls. -/
lemma split_visible {before m : DriverTrace V E} {y : Σ c, Reply V E c}
    (h : visible before = m ++ [y]) : ∃ before' stamps, before = before' ++ y :: stamps ∧
      visible (before' ++ [y]) = m ++ [y] ∧ ∀ z ∈ stamps, z.1.isService = true := by
  obtain ⟨l, l', rfl, hl, hl'⟩ := List.filter_eq_append_iff.1 h
  obtain ⟨services, stamps, rfl, hnone, hy, hstamps⟩ := List.filter_eq_cons_iff.1 hl'
  refine ⟨l ++ services, stamps, (List.append_assoc ..).symm, ?_, fun z hz => ?_⟩
  · unfold visible kept
    rw [List.filter_append, List.filter_append, hl, List.filter_eq_nil_iff.2 hnone, List.append_nil]
    exact congrArg (m ++ ·) (List.filter_eq_self.2 (List.forall_mem_singleton.2 hy))
  · simpa using List.filter_eq_nil_iff.1 hstamps z hz

/-- The first reply that is not as assumed is that of a service which is called for the report. -/
lemma unstamped_of_first {before after : DriverTrace V E} {x : Σ c, Reply V E c}
    (hassumed : (monitor True).Assumed [] before)
    (hx : ¬ (monitor True).expect ((monitor True).run [] before) x.1 x.2) :
    ∃ v, Unstamped v (before ++ x :: after) := by
  rw [monitor_run] at hx
  have hx' : JustReturned (visible before) ∧ ¬ TotalServices x.1 x.2 := by
    by_contra hnot
    exact hx fun _ hjust => by_contra fun htotal => hnot ⟨hjust, htotal⟩
  obtain ⟨⟨m, y, v, hvisible, hy⟩, hraises⟩ := hx'
  obtain ⟨before', stamps, rfl, hstate, hservice⟩ := split_visible hvisible
  rw [List.append_cons, Monitor.assumed_append, monitor_run, hstate] at hassumed
  have htotal := services_total ⟨m, y, v, rfl, hy⟩ hservice hassumed.2
  refine ⟨v, before', y, stamps, x, after, by simp, hy, fun z hz => ?_, hraises⟩
  exact ⟨hservice z hz, htotal z hz⟩

end Reporting

section Ends

variable {host : V} {metadata : List (String × V)} {given : Option String}
  {tr : DriverTrace V E} {s : DriverState E}

/-- When the driver returns, the run has returned that value, and nothing else. -/
theorem DriverRuns.returned {v : V}
    (h : DriverRuns host metadata given tr (.ret (.ok v, s))) : returns tr = [v] := by
  obtain ⟨fuel, hexec⟩ := h
  have hassumed : (Reporting.monitor False).Assumed [] tr := by
    rcases (Reporting.monitor (E := E) False).assumed_or_first [] tr with hassumed |
      ⟨before, x, after, -, -, hx⟩
    · exact hassumed
    · exact absurd (fun h => h.elim) hx
  have hpost := Prog.wp_sound_ret hexec (Reporting.keeps False fuel host metadata given) hassumed
  rw [Reporting.monitor_run] at hpost
  have hreturns := hpost.2
  rwa [Reporting.Post, observe_visible] at hreturns

/-- When the driver raises although the run has returned, the sink has rejected the report, or a
service call for it has raised. -/
theorem DriverRuns.unreported {e : Exc} {v : V}
    (h : DriverRuns host metadata given tr (.ret (.error e, s))) (hreturns : returns tr = [v]) :
    rejections tr = [v] ∨ Unstamped v tr := by
  obtain ⟨fuel, hexec⟩ := h
  rcases (Reporting.monitor (E := E) True).assumed_or_first [] tr with hassumed |
    ⟨before, x, after, rfl, hbefore, hx⟩
  · have hpost := Prog.wp_sound_ret hexec (Reporting.keeps True fuel host metadata given) hassumed
    rw [Reporting.monitor_run] at hpost
    have hrejected := hpost.2 trivial
    rw [observe_visible, observe_visible, hreturns] at hrejected
    exact .inl hrejected.symm
  · obtain ⟨v', hunstamped⟩ := Reporting.unstamped_of_first hbefore hx
    have hv : v' ∈ returns (before ++ x :: after) := hunstamped.mem_returns
    rw [hreturns, List.mem_singleton] at hv
    exact .inr (hv ▸ hunstamped)

end Ends

end PurrceptCore
