import PurrceptCore.Driver.FailStop

set_option relaxedAutoImplicit false
set_option autoImplicit false

/-!
# What is delivered to the run

The driver advances a run with what the executor made of the effect the run has yielded, once and
in order, and closes it exactly when it does not return. Nothing is assumed of the collaborators.

## Main definitions

* `PurrceptCore.Ledger` — what was yielded, executed and delivered so far.
* `PurrceptCore.Ledger.Permits` — the condition under which the driver makes a call.

## Main results

* `PurrceptCore.Delivery.keeps` — the driver makes only permitted calls.

## Design

* An exception is formatted into a note and gets it without raising, as `Exceptions` says.
-/

namespace PurrceptCore

open Interaction

variable {V E : Type}

/-- What has happened between the driver, the run and the executor. -/
structure Ledger (V E : Type) where
  /-- What the advancements of the run came to. -/
  advancements : List (Except Exc (RunState V E))
  /-- The effects yielded by the run. -/
  yields : List E
  /-- The effects handed to the executor. -/
  executed : List E
  /-- The outcomes of the executor. -/
  outcomes : List (Except Exc V)
  /-- The values sent and the errors thrown into the run. -/
  deliveries : List (Except Exc V)
  /-- The calls of `close`. -/
  closes : List Unit

/-- The ledger of a trace. -/
def ledger (tr : DriverTrace V E) : Ledger V E :=
  ⟨advancements tr, yields tr, executed tr, outcomes tr, deliveries tr, closes tr⟩

@[simp] lemma ledger_visible (tr : DriverTrace V E) : ledger (visible tr) = ledger tr := by
  simp only [ledger, observe_visible]

/-- An emission does not show in the ledger. -/
lemma ledger_emit (tr : DriverTrace V E) (event : RunEvent V E) (r : Except Exc SinkResult) :
    ledger (tr ++ [⟨.emit event, r⟩]) = ledger tr := by
  simp [ledger]

namespace Ledger

/-- A delivery of `outcome` is permitted: every effect yielded has been executed and has ended, all
but the last outcome have been delivered, and `outcome` is that last one; the run has yielded and is
not closed. -/
structure Delivers (L : Ledger V E) (outcome : Except Exc V) : Prop where
  executed : L.executed = L.yields
  ended : L.outcomes.length = L.executed.length
  next : L.outcomes = L.deliveries ++ [outcome]
  running : ∃ before effect, L.advancements = before ++ [.ok (.yielded effect)]
  notClosed : L.closes = []

/-- The condition under which the driver makes a call. -/
def Permits (L : Ledger V E) : Call V E → Prop
  | .start => L.advancements = [] ∧ L.executed = [] ∧ L.closes = []
  | .execute effect _ => L.yields = L.executed ++ [effect] ∧ L.outcomes = L.deliveries ∧
      L.outcomes.length = L.executed.length ∧ L.closes = []
  | .send v => L.Delivers (.ok v)
  | .throw e => L.Delivers (.error e) ∧ e.cls.isException = true ∧ e.cls ≠ .eventDispatchError
  | .close => L.closes = []
  | _ => True

/-- The condition when the run of the driver ends. -/
def Settled (L : Ledger V E) : Except Exc V → Prop
  | .ok _ => L.closes = []
  | .error _ => L.closes.length = 1

/-- The assertion at the head of the loop, where the last advancement came to `state`. -/
structure Head (state : RunState V E) (L : Ledger V E) : Prop where
  advanced : ∃ before, L.advancements = before ++ [.ok state]
  yields : L.yields = L.executed ++ (yieldedEffect (.ok state)).toList
  delivered : L.outcomes = L.deliveries
  ended : L.outcomes.length = L.executed.length
  notClosed : L.closes = []

/-- The assertion while an executor is at work. -/
structure Working (d : Option Exc) (r : ExecReply V) (L : Ledger V E) : Prop where
  latched : ∀ e, d = some e → e.cls = .eventDispatchError
  running : ∃ before effect, L.advancements = before ++ [.ok (.yielded effect)]
  yields : L.yields = L.executed
  outcomes : L.outcomes = L.deliveries ++ r.outcome.toList
  ended : L.deliveries.length + 1 = L.executed.length
  notClosed : L.closes = []

/-- When the executor has ended and nothing was latched, its outcome is to be delivered. -/
lemma Working.delivers {o : Except Exc V} {L : Ledger V E} (h : Working none (.done o) L) :
    L.Delivers o where
  executed := h.yields.symm
  ended := by simp [h.outcomes, h.ended]
  next := h.outcomes
  running := h.running
  notClosed := h.notClosed

/-- An advancement that came to `r`, with what it delivered. -/
def advance (L : Ledger V E) (delivery : Option (Except Exc V))
    (r : Except Exc (RunState V E)) : Ledger V E :=
  { L with
    advancements := L.advancements ++ [r]
    yields := L.yields ++ (yieldedEffect r).toList
    deliveries := L.deliveries ++ delivery.toList }

/-- The first advancement leads to the head of the loop. -/
lemma Permits.head {L : Ledger V E} (h : L = ledger []) (state : RunState V E) :
    (L.advance none (.ok state)).Head state := by
  subst h
  exact ⟨⟨[], rfl⟩, rfl, rfl, rfl, rfl⟩

/-- A delivery leads to the head of the loop. -/
lemma Delivers.head {L : Ledger V E} {o : Except Exc V} (h : L.Delivers o)
    (state : RunState V E) : (L.advance (some o) (.ok state)).Head state where
  advanced := ⟨L.advancements, rfl⟩
  yields := by simp [advance, h.executed]
  delivered := h.next
  ended := h.ended
  notClosed := h.notClosed

end Ledger

namespace Delivery

/-- The monitor: every call is permitted. -/
abbrev monitor : Monitor (Call V E) (Reply V E) (DriverTrace V E) :=
  observer (fun tr c => (ledger tr).Permits c) fun _ _ => True

variable {tr : DriverTrace V E}

/-- Emitting an event. -/
lemma reports {f : Instant → Seconds → RunEvent V E} {K : DriverTrace V E → Prop}
    {raise : Exc → DriverTrace V E → Prop} (hK : ∀ tr', ledger tr' = ledger tr → K tr')
    (hraise : ∀ e tr', ledger tr' = ledger tr → raise e tr') : Reports monitor tr f K raise where
  service e _ := hraise e tr rfl
  emits t d := {
    allow := .inr trivial
    delivered := by
      intro r _ _
      rw [observer_next rfl]
      exact hK _ (ledger_emit tr _ r)
    failed := by
      intro r d _ _ _
      rw [observer_next rfl]
      exact hraise d _ (ledger_emit tr _ r)
    escaped := by
      intro e _ _
      rw [observer_next rfl]
      exact hraise e _ (ledger_emit tr _ _) }

/-- Closing a run that is not closed yet. -/
lemma closes {K : DriverTrace V E → Prop} (h : (ledger tr).closes = [])
    (hK : ∀ tr', (ledger tr').closes.length = 1 → K tr') : Closes monitor tr K := by
  refine ⟨.inr h, fun r _ => ?_⟩
  rw [observer_next rfl]
  refine hK _ ?_
  have h' : PurrceptCore.closes tr = [] := h
  simp [ledger, h']

/-- The assertion where an exception reaches the outer handlers: the run is not closed. -/
def Raised (tr : DriverTrace V E) : Prop := (ledger tr).closes = []

/-- Advancing the run. -/
lemma advances {c : Call V E} {read : Reply V E c → Except Exc (RunState V E)}
    (delivery : Option (Except Exc V)) (hc : c.isService = false) (hp : (ledger tr).Permits c)
    (hclosed : (ledger tr).closes = [])
    (hledger : ∀ r, ledger (tr ++ [⟨c, r⟩]) = (ledger tr).advance delivery (read r))
    (hhead : ∀ state, ((ledger tr).advance delivery (.ok state)).Head state) :
    Advances monitor tr c read (fun state tr' => (ledger tr').Head state) fun _ => Raised where
  allow := .inr hp
  reply r _ := by
    have hnext := hledger r
    rw [observer_next hc]
    cases hread : read r with
    | ok state =>
      rw [hread] at hnext
      change (ledger (tr ++ [⟨c, r⟩])).Head state
      rw [hnext]
      exact hhead state
    | error e =>
      change (ledger (tr ++ [⟨c, r⟩])).closes = []
      rw [hnext]
      exact hclosed

/-- Handing the yielded effect to the executor. -/
lemma executes {effect : E} (context : ExecutionContext V)
    (h : (ledger tr).Head (.yielded effect)) :
    (monitor (E := E)).allow tr (.execute effect context) ∧
      ∀ r, (monitor (E := E)).expect tr (.execute effect context) r →
        (ledger ((monitor (E := E)).next tr (.execute effect context) r)).Working none r := by
  refine ⟨.inr ⟨h.yields, h.delivered, h.ended, h.notClosed⟩, fun r _ => ?_⟩
  obtain ⟨⟨before, hadv⟩, hyields, hdelivered, hended, hclosed⟩ := h
  simp only [ledger] at hadv hyields hdelivered hended hclosed
  rw [observer_next rfl]
  refine ⟨fun e he => absurd he (by simp), ⟨before, effect, ?_⟩, ?_, ?_, ?_, ?_⟩
  · simp [ledger, hadv]
  · simp [ledger, hyields]
  · simp [ledger, hdelivered]
  · simp [ledger, ← hdelivered, hended]
  · simp [ledger, hclosed]

/-- Handing an outcome to the executor. -/
lemma resumes {d d' : Option Exc} {a : ℕ} {p : V} {o : Except Exc Unit}
    (h : (ledger tr).Working d (.progress a p))
    (hd : ∀ e, d' = some e → e.cls = .eventDispatchError) :
    Resumes monitor tr o fun r tr' => (ledger tr').Working d' r := by
  refine ⟨.inr trivial, fun r _ => ?_⟩
  obtain ⟨-, ⟨before, effect, hadv⟩, hyields, houtcomes, hended, hclosed⟩ := h
  simp only [ledger] at hadv hyields houtcomes hended hclosed
  rw [observer_next rfl]
  refine ⟨hd, ⟨before, effect, ?_⟩, ?_, ?_, ?_, ?_⟩
  · simp [ledger, hadv]
  · simp [ledger, hyields]
  · simp [ledger, houtcomes]
  · simp [ledger, hended]
  · simp [ledger, hclosed]

/-- The steps of an executor at work. -/
lemma progresses (k : ℕ) (channel : Channel E) :
    Progresses (monitor (V := V)) k channel fun d r tr => (ledger tr).Working d r where
  stale d a p tr _ h e _ := resumes h h.latched
  latched d p tr h := resumes h h.latched
  fresh p tr h := by
    refine reports (fun tr' h' => ?_) fun e tr' h' => ?_
    · exact resumes (d := none) (h' ▸ h) fun _ he => by cases he
    · refine resumes (d := none) (h' ▸ h) fun e' he' => ?_
      unfold latch at he'
      split at he'
      · cases he'
        assumption
      · cases he'

/-- **Proof outline.** -/
def outline (runId : String) (host : V) (metadata : List (String × V)) :
    Outline (E := E) monitor runId host metadata (fun o tr => (ledger tr).Settled o) [] where
  head _ state tr := (ledger tr).Head state
  working _ _ _ d r tr := (ledger tr).Working d r
  raised _ := Raised
  started := reports (fun tr h => advances none rfl (by rw [h]; exact ⟨rfl, rfl, rfl⟩)
      (by rw [h]; rfl) (fun r => by simp [ledger, Ledger.advance]) (Ledger.Permits.head h))
    fun _ tr h => by rw [Raised, h]; rfl
  returned k v tr h := reports (fun tr' h' => h' ▸ h.notClosed) fun _ tr' h' => by
    rw [Raised, h']
    exact h.notClosed
  unsupported k n tr h e _ := h.notClosed
  yielded k effect tr h effectId := reports (fun tr' h' => executes _ (h' ▸ h)) fun _ tr' h' => by
    rw [Raised, h']
    exact h.notClosed
  progress k effectId effect := progresses k _
  aborted k effectId effect d o tr h e ho he := h.notClosed
  effectFailed k effectId effect d o tr h e ho hx hd := by
    obtain rfl : d = none := by
      cases d with
      | none => rfl
      | some d =>
        cases ho
        exact absurd (h.latched e rfl) hd
    cases ho
    refine reports (fun tr' h' => ?_) fun _ tr' h' => by rw [Raised, h']; exact h.notClosed
    rw [← h'] at h
    exact advances (some (.error e)) rfl ⟨h.delivers, hx, hd⟩ h.notClosed
      (fun r => by simp [ledger, Ledger.advance]) h.delivers.head
  effectSucceeded k effectId effect d o tr h v ho := by
    obtain rfl : d = none := by
      cases d with
      | none => rfl
      | some d => cases ho
    cases ho
    refine reports (fun tr' h' => ?_) fun _ tr' h' => by rw [Raised, h']; exact h.notClosed
    rw [← h'] at h
    exact advances (some (.ok v)) rfl h.delivers h.notClosed
      (fun r => by simp [ledger, Ledger.advance]) h.delivers.head
  cancelled e tr h he := closes h fun tr' h' => reports (fun _ h'' => by rw [h'']; exact h')
    fun _ _ h'' => by rw [h'']; exact h'
  closed e tr h _ := closes h fun tr' h' => h'
  failed e tr h hx hd := reports (fun tr' h' => closes (h' ▸ h) fun _ h'' => h'')
    fun _ tr' h' => closes (h' ▸ h) fun _ h'' => h''

/-- The driver keeps to the monitor. -/
lemma keeps (fuel : ℕ) (host : V) (metadata : List (String × V)) (given : Option String) :
    Routine.wp (monitor (E := E)) (AgentDriver.run fuel host metadata given)
      (Outline.Post fun o tr => (ledger tr).Settled o) AgentDriver.initialState [] :=
  Outline.wp_run given (fun runId _ => outline runId host metadata)
    (fun _ _ => closes rfl fun _ h => h) fun o _ _ h => by
      cases o with
      | ok v => exact h
      | error e => exact h

end Delivery

/-! ### Generator flows -/

/-- The calls of an agent run. -/
def Call.ofRun : Call V E → Bool
  | .start | .send _ | .throw _ | .close => true
  | _ => false

/-- The agent run of the driver is a `GeneratorRun` over a fresh generator: `Adapts tr state` says
that the calls of the run in `tr` were answered by the adapter, whatever the generator did, and
that the adapter is now in `state`. -/
inductive GeneratorRun.Adapts : DriverTrace V E → GeneratorRunState → Prop
  | fresh : Adapts [] .created
  | start {tr state state' r gtr} (h : Adapts tr state)
      (hx : Exec (GeneratorRun.start state) gtr (.ret (r, state'))) :
      Adapts (tr ++ [⟨.start, r⟩]) state'
  | send {tr state state' v r gtr} (h : Adapts tr state)
      (hx : Exec (GeneratorRun.send v state) gtr (.ret (r, state'))) :
      Adapts (tr ++ [⟨.send v, r⟩]) state'
  | throw {tr state state' e r gtr} (h : Adapts tr state)
      (hx : Exec (GeneratorRun.throw e state) gtr (.ret (r, state'))) :
      Adapts (tr ++ [⟨.throw e, r⟩]) state'
  | close {tr state state' r gtr} (h : Adapts tr state)
      (hx : Exec (GeneratorRun.close (V := V) (E := E) state) gtr (.ret (r, state'))) :
      Adapts (tr ++ [⟨.close, r⟩]) state'
  | other {tr state c r} (h : Adapts tr state) (hc : c.ofRun = false) :
      Adapts (tr ++ [⟨c, r⟩]) state

namespace GeneratorRun

/-- The check that the adapter makes on a call passes. -/
def Accepts (state : GeneratorRunState) : Call V E → Prop
  | .start => requireState (V := V) (E := E) .created "start" state = .ret (.ok (), state)
  | .send _ => requireState (V := V) (E := E) .running "send a value to" state =
      .ret (.ok (), state)
  | .throw _ => requireState (V := V) (E := E) .running "throw an error into" state =
      .ret (.ok (), state)
  | _ => True

/-- The state of the adapter, read off the ledger while the run is not closed. -/
structure Tracks (state : GeneratorRunState) (L : Ledger V E) : Prop where
  created : L.advancements = [] → state = .created
  running : ∀ before effect, L.advancements = before ++ [.ok (.yielded effect)] →
    state = .running

/-- An advancement by a method of the adapter. -/
lemma Tracks.advanced {state : GeneratorRunState} {L : Ledger V E}
    {r : Except Exc (RunState V E)} (h : RunningIfYielded r state ())
    {before : List (Except Exc (RunState V E))} (hL : L.advancements = before ++ [r]) :
    Tracks state L where
  created hnil := by simp [hL] at hnil
  running before' effect heq := by
    rw [hL] at heq
    obtain ⟨-, hr⟩ := List.append_inj' heq rfl
    exact h effect (by simpa using hr)

/-- The adapter follows the ledger.

**Proof sketch.** Induction on the calls. The state after an advancement is known from the
method (`wp_method`), a call of `close` ends what is to be tracked, and other calls change
neither. -/
lemma Adapts.tracks {tr : DriverTrace V E} {state : GeneratorRunState} (h : Adapts tr state)
    (hclosed : (ledger tr).closes = []) : Tracks state (ledger tr) := by
  induction h with
  | fresh => exact ⟨fun _ => rfl, fun before effect h => by simp [ledger] at h⟩
  | @start tr state state' r gtr h hx ih =>
    refine .advanced (r := r) ?_ (observe_append ..)
    exact Routine.wp_sound_ret hx (wp_method .next id) (anyGenerator_assumed gtr)
  | @send tr state state' v r gtr h hx ih =>
    refine .advanced (r := r) ?_ (observe_append ..)
    exact Routine.wp_sound_ret hx (wp_method (.send v) id) (anyGenerator_assumed gtr)
  | @throw tr state state' e r gtr h hx ih =>
    refine .advanced (r := r) ?_ (observe_append ..)
    exact Routine.wp_sound_ret hx (wp_method (.throw e) id) (anyGenerator_assumed gtr)
  | close h hx ih => simp [ledger] at hclosed
  | @other tr state c r h hc ih =>
    have hadv : advancementOf ⟨c, r⟩ = none := by cases c <;> first | rfl | cases hc
    have hcls : closingOf ⟨c, r⟩ = none := by cases c <;> first | rfl | cases hc
    have hsame : (ledger (tr ++ [⟨c, r⟩])).advancements = (ledger tr).advancements :=
      observe_snoc_none advancements hadv
    have hclosed' : (ledger tr).closes = [] :=
      (observe_snoc_none PurrceptCore.closes hcls).symm.trans hclosed
    obtain ⟨hcreated, hrunning⟩ := ih hclosed'
    exact ⟨fun hnil => hcreated (hsame ▸ hnil),
      fun before effect heq => hrunning before effect (hsame ▸ heq)⟩

/-- The checks of the adapter pass on a permitted call. -/
lemma Adapts.accepts {tr : DriverTrace V E} {state : GeneratorRunState} {c : Call V E}
    (h : Adapts tr state) (hp : (ledger tr).Permits c) : Accepts state c := by
  cases c with
  | start =>
    obtain rfl := (h.tracks hp.2.2).created hp.1
    exact requireState_self _ _
  | send v =>
    obtain ⟨before, effect, hadv⟩ := hp.running
    obtain rfl := (h.tracks hp.notClosed).running before effect hadv
    exact requireState_self _ _
  | throw e =>
    obtain ⟨before, effect, hadv⟩ := hp.1.running
    obtain rfl := (h.tracks hp.1.notClosed).running before effect hadv
    exact requireState_self _ _
  | _ => trivial

end GeneratorRun

namespace AgentDriver

variable {host : V} {metadata : List (String × V)} {given : Option String}
  {tr : DriverTrace V E}
  {q : Prog (Call V E) (Reply V E) (Except Exc V × DriverState E)}

/-- Every call of a driver run is permitted. -/
lemma permits {c : Call V E}
    {k : Reply V E c → Prog (Call V E) (Reply V E) (Except Exc V × DriverState E)}
    (h : DriverRuns host metadata given tr (.call c k)) : (ledger tr).Permits c := by
  cases hc : c.isService with
  | true => cases c <;> trivial
  | false =>
    have hallow := h.call (fun fuel => Delivery.keeps fuel host metadata given)
      (fun _ _ => trivial) hc
    rwa [ledger_visible] at hallow

/-- **Delivery.** Whatever the run, the executor and the sink do: a call is made only if it is
permitted (the run is started at most once and before anything else, an effect is executed at most
once and in the order of the yields, the outcome of each effect is delivered once and in order, only
ordinary exceptions that are no dispatch failures are thrown in, and nothing follows a call of
`close`); nothing is delivered once a dispatch has failed; the run is closed once if the driver
raises, and not at all if it returns; and a generator flow never meets an `InvalidRunStateError`. -/
theorem delivers_outcomes (h : DriverRuns host metadata given tr q) :
    (∀ c k, q = .call c k → (ledger tr).Permits c) ∧
    (∀ c k, q = .call c k → c.drives = true → undelivered tr = []) ∧
    (∀ o s, q = .ret (o, s) → (ledger tr).Settled o) ∧
    (∀ c k state, q = .call c k → GeneratorRun.Adapts tr state →
      GeneratorRun.Accepts state c) := by
  refine ⟨?_, ?_, ?_, ?_⟩
  · rintro c k rfl
    exact permits h
  · rintro c k rfl hc
    have hservice : c.isService = false := by cases c <;> first | rfl | cases hc
    have hallow := h.call (fun fuel => FailStop.keeps fuel host metadata given)
      (fun _ _ => trivial) hservice
    rw [observe_visible] at hallow
    exact hallow hc
  · rintro o s rfl
    have hsettled := (h.ret (fun fuel => Delivery.keeps fuel host metadata given)
      fun _ _ => trivial).2
    rwa [ledger_visible] at hsettled
  · rintro c k state rfl hadapts
    exact hadapts.accepts (permits h)

/-- A run whose effect succeeds: the value of the executor is about to be sent, and in the end the
run is not closed. -/
theorem delivers_outcomes_plain :
    (ledger (Collaborators.plain.play () [] (some "run") 12).1).Permits (.send ()) ∧
    (ledger (Collaborators.plain.play () [] (some "run") 20).1).Settled (.ok ()) :=
  ⟨(delivers_outcomes (Collaborators.plain.runs () [] (some "run") 12)).1 (.send ()) _ rfl,
    (delivers_outcomes (Collaborators.plain.runs () [] (some "run") 20)).2.2.1 _ _ rfl⟩

end AgentDriver

end PurrceptCore
