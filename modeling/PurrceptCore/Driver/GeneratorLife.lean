import PurrceptCore.Driver.Generators

set_option relaxedAutoImplicit false
set_option autoImplicit false

/-!
# The life of an adapted generator

What a generator receives from a `GeneratorRun`, whatever methods are called and whatever the
generator does.

## Main definitions

* `PurrceptCore.GeneratorRun.lifecycle` — the monitor of the linear lifecycle.
* `PurrceptCore.KeepsLifecycle` — what holds of a sequence of calls.
* `PurrceptCore.TracksGenerator` — the recorded state is that of the generator object.

## Main results

* `PurrceptCore.tracks_of_run` — in every state that is reached, the adapter knows the state of the
  generator.
* `PurrceptCore.GeneratorRun.keeps_lifecycle` — every sequence of calls keeps the lifecycle, over
  every generator.
-/

namespace PurrceptCore

open Interaction

variable {S V E G : Type}

/-! ### The lifecycle -/

/-- A call of `next`. -/
def GenCall.isNext : GenCall V → Bool
  | next => true
  | _ => false

/-- A call of `close`. -/
def GenCall.isClose : GenCall V → Bool
  | close => true
  | _ => false

/-- A call of `send` or `throw`. -/
def GenCall.resumes : GenCall V → Bool
  | send _ | throw _ => true
  | next | close => false

/-- What a generator may receive in a state of the adapter. -/
def GeneratorRunState.Permits : GeneratorRunState → GenCall V → Prop
  | created, .next | created, .close => True
  | running, .send _ | running, .throw _ | running, .close => True
  | _, _ => False

/-- The state that is recorded after a call of the generator. -/
def recordedAfter : (c : GenCall V) → GenReply V E c → GeneratorRunState
  | .next, step | .send _, step | .throw _, step => step.recorded
  | .close, _ => .closed

/-- The monitor of the linear lifecycle. -/
def GeneratorRun.lifecycle : Monitor (GenCall V) (GenReply V E) GeneratorRunState where
  allow := GeneratorRunState.Permits
  expect _ _ _ := True
  next _ := recordedAfter

/-- The generator has yielded. -/
def HasYielded : (Σ c : GenCall V, GenReply V E c) → Prop
  | ⟨.next, .yielded _⟩ | ⟨.send _, .yielded _⟩ | ⟨.throw _, .yielded _⟩ => True
  | _ => False

/-- What a method calls when the state is right. -/
def RunOp.call : RunOp V → GenCall V
  | start => .next
  | send value => .send value
  | throw error => .throw error
  | close => .close

/-- What the generator has received. -/
def receivedBy (moves : List (Move (Adapted G) (MethodCall V E))) : GenTrace V E :=
  moves.flatMap fun m => m.label.received

/-- **A sequence of calls keeps the lifecycle.** -/
structure KeepsLifecycle (moves : List (Move (Adapted G) (MethodCall V E))) : Prop where
  /-- The generator receives at most one `next`. -/
  one_next : (receivedBy moves).countP (fun x => x.1.isNext) ≤ 1
  /-- It receives at most one `close`. -/
  one_close : (receivedBy moves).countP (fun x => x.1.isClose) ≤ 1
  /-- It receives `send` and `throw` only after `next`, and while it is suspended: what it has done
  last is to yield. -/
  resumed : ∀ before x after, receivedBy moves = before ++ x :: after → x.1.resumes = true →
    (∃ y ∈ before, y.1.isNext = true) ∧ ∃ y, before.getLast? = some y ∧ HasYielded y
  /-- It receives nothing after it has returned, has raised or was closed. -/
  silent : ∀ before x after, receivedBy moves = before ++ x :: after → ¬ HasYielded x → after = []
  /-- A call in the wrong state raises `InvalidRunStateError` and touches nothing. -/
  rejected : ∀ m ∈ moves, ∀ expected operation,
    m.label.op.required = some (expected, operation) → m.before.state ≠ expected →
      m.label.outcome = .error (wrongState operation m.before.state expected) ∧
        m.label.received = [] ∧ m.after = m.before
  /-- A call in the right state reaches the generator, whose step is recorded. -/
  forwarded : ∀ m ∈ moves, ∀ expected operation,
    m.label.op.required = some (expected, operation) → m.before.state = expected →
      ∃ reply, m.label.received = [⟨m.label.op.call, reply⟩] ∧
        m.after.state = recordedAfter m.label.op.call reply
  /-- Closing what has ended does nothing: a run that has returned stays so. -/
  close_ended : ∀ m ∈ moves, m.label.op = .close →
    m.before.state = .closed ∨ m.before.state = .returned →
      m.label.outcome = .ok none ∧ m.label.received = [] ∧ m.after = m.before
  /-- Any other `close` reaches the generator and leaves the run closed, also if it raises. -/
  close_open : ∀ m ∈ moves, m.label.op = .close →
    ¬ (m.before.state = .closed ∨ m.before.state = .returned) →
      ∃ reply, m.label.received = [⟨.close, reply⟩] ∧
        m.label.outcome = reply.map (fun _ => none) ∧ m.after.state = .closed
  /-- `close` is idempotent: nothing changes after it. -/
  close_final : ∀ before m after, moves = before ++ m :: after → m.label.op = .close →
    ∀ m' ∈ after, m'.label.received = [] ∧ m'.before = m.after ∧ m'.after = m.after

/-- The state that the adapter has recorded is that of the generator object. Only a generator whose
closing has raised may be suspended although the run is closed. -/
def TracksGenerator (initial : Generator S) (tr : GenTrace V E)
    (adapter : Adapted (Generator S)) : Prop :=
  match adapter.state with
  | .created => adapter.generator = initial ∧ tr = []
  | .running => ∃ frame, adapter.generator = .suspended frame
  | .returned => adapter.generator = .finished
  | .closed => adapter.generator = .finished ∨
      ∃ error, (⟨.close, .error error⟩ : Σ c : GenCall V, GenReply V E c) ∈ tr

/-! ### What the lifecycle allows -/

section Allowed

variable {state : GeneratorRunState} {tr before after : GenTrace V E}
  {x : Σ c : GenCall V, GenReply V E c}

lemma recordedAfter_ne_created (c : GenCall V) (r : GenReply V E c) :
    recordedAfter c r ≠ .created := by
  cases c with
  | close => exact GeneratorRunState.noConfusion
  | next => cases r <;> exact GeneratorRunState.noConfusion
  | send value => cases r <;> exact GeneratorRunState.noConfusion
  | throw error => cases r <;> exact GeneratorRunState.noConfusion

lemma recordedAfter_eq_running : recordedAfter x.1 x.2 = .running ↔ HasYielded x := by
  obtain ⟨c, r⟩ := x
  cases c with
  | close => simp [recordedAfter, HasYielded]
  | next => cases r <;> simp [recordedAfter, HasYielded, GenStep.recorded]
  | send value => cases r <;> simp [recordedAfter, HasYielded, GenStep.recorded]
  | throw error => cases r <;> simp [recordedAfter, HasYielded, GenStep.recorded]

/-- Nothing is permitted once the run has ended. -/
lemma allowed_of_ended (hended : state = .closed ∨ state = .returned)
    (h : GeneratorRun.lifecycle.Allowed state tr) : tr = [] := by
  cases tr with
  | nil => rfl
  | cons x tr =>
    obtain ⟨c, r⟩ := x
    have hpermits : state.Permits c := h.1
    rcases hended with rfl | rfl <;> cases c <;> cases hpermits

/-- After a step that is no yield the run has ended. -/
lemma ended_of_not_hasYielded (h : ¬ HasYielded x) :
    recordedAfter x.1 x.2 = .closed ∨ recordedAfter x.1 x.2 = .returned := by
  cases hstate : recordedAfter x.1 x.2 with
  | created => exact absurd hstate (recordedAfter_ne_created _ _)
  | running => exact absurd (recordedAfter_eq_running.1 hstate) h
  | returned => exact .inr rfl
  | closed => exact .inl rfl

/-- At most one `next`, and none but at the start. -/
lemma countP_next_le (h : GeneratorRun.lifecycle.Allowed state tr) :
    tr.countP (fun x => x.1.isNext) ≤ if state = .created then 1 else 0 := by
  induction tr generalizing state with
  | nil => exact Nat.zero_le _
  | cons x tr ih =>
    obtain ⟨c, r⟩ := x
    have hpermits : state.Permits c := h.1
    have htail : tr.countP (fun x => x.1.isNext) ≤ if recordedAfter c r = .created then 1 else 0 :=
      ih h.2
    rw [if_neg (recordedAfter_ne_created c r), Nat.le_zero] at htail
    rw [List.countP_cons, htail, Nat.zero_add]
    cases c with
    | next => cases state <;> first | exact le_rfl | cases hpermits
    | _ => exact Nat.zero_le _

/-- At most one `close`. -/
lemma countP_close_le (h : GeneratorRun.lifecycle.Allowed state tr) :
    tr.countP (fun x => x.1.isClose) ≤ 1 := by
  induction tr generalizing state with
  | nil => exact Nat.zero_le _
  | cons x tr ih =>
    obtain ⟨c, r⟩ := x
    cases c with
    | close =>
      obtain rfl := allowed_of_ended (.inl rfl) h.2
      exact le_rfl
    | _ => exact ih h.2

/-- What comes first is `next`, unless the run is closed and that is all. -/
lemma exists_next_of_running (h : GeneratorRun.lifecycle.Allowed .created tr)
    (hrunning : GeneratorRun.lifecycle.run .created tr = .running) :
    ∃ y ∈ tr, y.1.isNext = true := by
  cases tr with
  | nil => cases hrunning
  | cons x tr =>
    obtain ⟨c, r⟩ := x
    have hpermits : GeneratorRunState.created.Permits c := h.1
    cases c with
    | next => exact ⟨_, List.mem_cons_self, rfl⟩
    | close =>
      obtain rfl := allowed_of_ended (.inl rfl) h.2
      cases hrunning
    | send value => cases hpermits
    | throw error => cases hpermits

/-- A run is `RUNNING` when the generator has yielded last. -/
lemma getLast?_of_running (hrunning : GeneratorRun.lifecycle.run .created tr = .running) :
    ∃ y, tr.getLast? = some y ∧ HasYielded y := by
  rcases List.eq_nil_or_concat tr with rfl | ⟨init, y, rfl⟩
  · cases hrunning
  · rw [List.concat_eq_append, Monitor.run_append] at hrunning
    rw [List.concat_eq_append, List.getLast?_concat]
    exact ⟨y, rfl, recordedAfter_eq_running.1 hrunning⟩

/-- What is received is permitted in view of what was received before. -/
lemma allowed_split (h : GeneratorRun.lifecycle.Allowed .created (before ++ x :: after)) :
    GeneratorRun.lifecycle.Allowed .created before ∧
      (GeneratorRun.lifecycle.run .created before).Permits x.1 ∧
        GeneratorRun.lifecycle.Allowed (recordedAfter x.1 x.2) after := by
  obtain ⟨hbefore, hpermits, hafter⟩ := (Monitor.allowed_append _).1 h
  exact ⟨hbefore, hpermits, hafter⟩

/-- Only a running generator is resumed. -/
lemma GeneratorRunState.Permits.running {c : GenCall V} (h : state.Permits c)
    (hresumes : c.resumes = true) : state = .running := by
  cases c with
  | next => cases hresumes
  | close => cases hresumes
  | send value => cases state <;> first | rfl | cases h
  | throw error => cases state <;> first | rfl | cases h

end Allowed

/-! ### Sequences of calls -/

section Runs

variable {reply : G → (c : GenCall V) → GenReply V E c × G} {start last : Adapted G}
  {moves : List (Move (Adapted G) (MethodCall V E))} {m : Move (Adapted G) (MethodCall V E)}

/-- A method keeps to the lifecycle, and the state that it records is that of the monitor. -/
lemma Performed.follows {state state' : GeneratorRunState} {op : RunOp V} {o : RunOutcome V E}
    {tr : GenTrace V E} (h : Performed state op o tr state') :
    GeneratorRun.lifecycle.Allowed state tr ∧ GeneratorRun.lifecycle.run state tr = state' := by
  cases h with
  | rejected => exact ⟨trivial, rfl⟩
  | started step => exact ⟨⟨trivial, trivial⟩, rfl⟩
  | sent value step => exact ⟨⟨trivial, trivial⟩, rfl⟩
  | thrown error step => exact ⟨⟨trivial, trivial⟩, rfl⟩
  | ended => exact ⟨trivial, rfl⟩
  | closed state hopen reply =>
    refine ⟨⟨?_, trivial⟩, rfl⟩
    rcases hopen with rfl | rfl <;> trivial

lemma receivedBy_concat : receivedBy (moves ++ [m]) = receivedBy moves ++ m.label.received := by
  rw [receivedBy, List.flatMap_append, List.flatMap_singleton]
  rfl

/-- What the generator receives keeps to the lifecycle, and the recorded state is that of the
monitor. -/
lemma follows {generator : G}
    (h : LabelledRun (Adapted.Step reply) ⟨.created, generator⟩ moves last) :
    GeneratorRun.lifecycle.Allowed .created (receivedBy moves) ∧
      GeneratorRun.lifecycle.run .created (receivedBy moves) = last.state := by
  induction h with
  | refl => exact ⟨trivial, rfl⟩
  | snoc _ hstep ih =>
    obtain ⟨hallowed, hrun⟩ := ih
    obtain ⟨hallowed', hrun'⟩ := (RunOp.performed hstep.1).follows
    rw [receivedBy_concat, Monitor.allowed_append, Monitor.run_append, hrun]
    exact ⟨⟨hallowed, hallowed'⟩, hrun'⟩

/-- A call that does not reach the generator and records no other state changes nothing. -/
lemma Adapted.Step.unchanged {before after : Adapted G} {call : MethodCall V E}
    (h : before.Step reply call after) (hreceived : call.received = [])
    (hstate : after.state = before.state) : after = before := by
  have hanswered := h.2
  rw [hreceived] at hanswered
  obtain ⟨state, generator⟩ := before
  obtain ⟨state', generator'⟩ := after
  cases hstate
  cases hanswered
  rfl

/-- Nothing changes once a run has ended. -/
lemma unchanged_of_ended (h : LabelledRun (Adapted.Step reply) start moves last)
    (hended : start.state = .closed ∨ start.state = .returned) :
    last = start ∧ ∀ m ∈ moves, m.label.received = [] ∧ m.before = start ∧ m.after = start := by
  induction h with
  | refl => exact ⟨rfl, fun m hm => absurd hm List.not_mem_nil⟩
  | snoc _ hstep ih =>
    obtain ⟨rfl, hall⟩ := ih
    obtain ⟨hallowed, hrun⟩ := (RunOp.performed hstep.1).follows
    have hreceived := allowed_of_ended hended hallowed
    rw [hreceived] at hrun
    have hsame := hstep.unchanged hreceived hrun.symm
    refine ⟨hsame, fun m hm => ?_⟩
    rcases List.mem_append.1 hm with hm | hm
    · exact hall m hm
    · rw [List.mem_singleton.1 hm]
      exact ⟨hreceived, rfl, hsame⟩

end Runs

/-! ### Single calls -/

section Calls

variable {state state' expected : GeneratorRunState} {operation : String} {op : RunOp V}
  {o : RunOutcome V E} {tr : GenTrace V E}

/-- A method that asks for a state: it is rejected in every other one. -/
lemma Performed.of_required (h : Performed state op o tr state')
    (hrequired : op.required = some (expected, operation)) :
    (state ≠ expected ∧ o = .error (wrongState operation state expected) ∧ tr = [] ∧
        state' = state) ∨
      (state = expected ∧ ∃ reply, tr = [⟨op.call, reply⟩] ∧
        state' = recordedAfter op.call reply) := by
  cases h with
  | rejected _ _ expected' operation' hrequired' hne =>
    rw [hrequired] at hrequired'
    cases hrequired'
    exact .inl ⟨hne, rfl, rfl, rfl⟩
  | started step =>
    cases hrequired
    exact .inr ⟨rfl, step, rfl, rfl⟩
  | sent value step =>
    cases hrequired
    exact .inr ⟨rfl, step, rfl, rfl⟩
  | thrown error step =>
    cases hrequired
    exact .inr ⟨rfl, step, rfl, rfl⟩
  | ended => cases hrequired
  | closed => cases hrequired

/-- `close` does nothing to a run that has ended, and closes every other one. -/
lemma Performed.of_close (h : Performed state .close o tr state') :
    ((state = .closed ∨ state = .returned) ∧ o = .ok none ∧ tr = [] ∧ state' = state) ∨
      (¬ (state = .closed ∨ state = .returned) ∧ ∃ reply, tr = [⟨.close, reply⟩] ∧
        o = reply.map (fun _ => none) ∧ state' = .closed) := by
  cases h with
  | rejected _ _ _ _ hrequired => cases hrequired
  | ended _ hended => exact .inl ⟨hended, rfl, rfl, rfl⟩
  | closed _ hopen reply =>
    refine .inr ⟨?_, reply, rfl, rfl, rfl⟩
    rcases hopen with rfl | rfl <;> decide

end Calls

/-! ### Every generator -/

section Every

variable {reply : G → (c : GenCall V) → GenReply V E c × G} {last : Adapted G} {initial : G}
  {moves : List (Move (Adapted G) (MethodCall V E))}

/-- One call of a method that asks for a state. -/
lemma Adapted.Step.of_required {before after : Adapted G} {call : MethodCall V E}
    {expected : GeneratorRunState} {operation : String} (h : before.Step reply call after)
    (hrequired : call.op.required = some (expected, operation)) :
    (before.state ≠ expected ∧
        call.outcome = .error (wrongState operation before.state expected) ∧
          call.received = [] ∧ after = before) ∨
      (before.state = expected ∧ ∃ r, call.received = [⟨call.op.call, r⟩] ∧
        after.state = recordedAfter call.op.call r) := by
  rcases (RunOp.performed h.1).of_required hrequired with
    ⟨hne, houtcome, hreceived, hstate⟩ | hcalled
  · exact .inl ⟨hne, houtcome, hreceived, h.unchanged hreceived hstate⟩
  · exact .inr hcalled

/-- One call of `close`. -/
lemma Adapted.Step.of_close {before after : Adapted G} {call : MethodCall V E}
    (h : before.Step reply call after) (hop : call.op = .close) :
    ((before.state = .closed ∨ before.state = .returned) ∧
        call.outcome = .ok none ∧ call.received = [] ∧ after = before) ∨
      (¬ (before.state = .closed ∨ before.state = .returned) ∧
        ∃ r, call.received = [⟨.close, r⟩] ∧ call.outcome = r.map (fun _ => none) ∧
          after.state = .closed) := by
  have hperformed := RunOp.performed h.1
  rw [hop] at hperformed
  rcases hperformed.of_close with ⟨hended, houtcome, hreceived, hstate⟩ | hclosed
  · exact .inl ⟨hended, houtcome, hreceived, h.unchanged hreceived hstate⟩
  · exact .inr hclosed

/-- A run has ended after `close`. -/
lemma Adapted.Step.ended_of_close {before after : Adapted G} {call : MethodCall V E}
    (h : before.Step reply call after) (hop : call.op = .close) :
    after.state = .closed ∨ after.state = .returned := by
  rcases h.of_close hop with ⟨hended, -, -, hsame⟩ | ⟨-, _, -, -, hclosed⟩
  · rw [hsame]
    exact hended
  · exact .inl hclosed

/-- **Every sequence of calls keeps the lifecycle.** -/
theorem keepsLifecycle_of_run
    (h : LabelledRun (Adapted.Step reply) ⟨.created, initial⟩ moves last) :
    KeepsLifecycle moves where
  one_next := (countP_next_le (follows h).1).trans (le_of_eq (if_pos rfl))
  one_close := countP_close_le (follows h).1
  resumed before x after heq hresumes := by
    have hallowed := (follows h).1
    rw [heq] at hallowed
    obtain ⟨hbefore, hpermits, -⟩ := allowed_split hallowed
    have hrunning := hpermits.running hresumes
    exact ⟨exists_next_of_running hbefore hrunning, getLast?_of_running hrunning⟩
  silent before x after heq hx := by
    have hallowed := (follows h).1
    rw [heq] at hallowed
    exact allowed_of_ended (ended_of_not_hasYielded hx) (allowed_split hallowed).2.2
  rejected m hm expected operation hrequired hne := by
    rcases (h.mem_move hm).1.of_required hrequired with ⟨-, hrejected⟩ | ⟨heq, -⟩
    · exact hrejected
    · exact absurd heq hne
  forwarded m hm expected operation hrequired heq := by
    rcases (h.mem_move hm).1.of_required hrequired with ⟨hne, -⟩ | ⟨-, hcalled⟩
    · exact absurd heq hne
    · exact hcalled
  close_ended m hm hop hended := by
    rcases (h.mem_move hm).1.of_close hop with ⟨-, hsame⟩ | ⟨hopen, -⟩
    · exact hsame
    · exact absurd hended hopen
  close_open m hm hop hopen := by
    rcases (h.mem_move hm).1.of_close hop with ⟨hended, -⟩ | ⟨-, hclosed⟩
    · exact absurd hended hopen
    · exact hclosed
  close_final before m after heq hop := by
    subst heq
    have hstep := h.split_move.2
    rw [List.append_cons] at h
    obtain ⟨between, hbetween, hafter⟩ := h.split
    obtain ⟨-, -, rfl⟩ := hbetween.snoc_inv rfl
    exact (unchanged_of_ended hafter (hstep.ended_of_close hop)).2

end Every

/-! ### The state of the generator object -/

section Tracked

/-- What a step of the generator makes of the object: it is suspended when it has yielded, and
finished otherwise. -/
def GenStep.Leaves : GenStep V E → Generator S → Prop
  | yielded _, generator => ∃ frame, generator = .suspended frame
  | stopIteration _, generator | raised _, generator => generator = .finished

lemma BodyStep.settle_leaves (step : BodyStep S V E) : step.settle.1.Leaves step.settle.2 := by
  cases step with
  | yields effect frame => exact ⟨frame, rfl⟩
  | returns value => rfl
  | raises error => rfl
  | exits error => rfl

/-- A generator that is closed without raising has finished. -/
lemma BodyStep.settleExit_finished {step : BodyStep S V E}
    (h : step.settleExit.1 = .ok ()) : step.settleExit.2 = .finished := by
  cases step with
  | yields effect frame => cases h
  | returns value => rfl
  | raises error => rfl
  | exits error => rfl

variable {initial generator : Generator S} {tr : GenTrace V E}

/-- A step is recorded as what it leaves. -/
lemma TracksGenerator.of_leaves {step : GenStep V E} (h : step.Leaves generator) :
    TracksGenerator initial tr ⟨step.recorded, generator⟩ := by
  cases step with
  | yielded effect => exact h
  | stopIteration value => exact h
  | raised error => exact .inl h

/-- A run that is closed has a generator that has finished, unless closing has raised. -/
lemma TracksGenerator.of_close {reply : Except Exc Unit}
    (hmem : (⟨.close, reply⟩ : Σ c : GenCall V, GenReply V E c) ∈ tr)
    (h : reply = .ok () → generator = .finished) :
    TracksGenerator initial tr ⟨.closed, generator⟩ := by
  cases reply with
  | ok _ => exact .inl (h rfl)
  | error error => exact .inr ⟨error, hmem⟩

variable [DecidableEq V] {none : V} {body : GeneratorBody S V E}

lemma Generator.reply_next_leaves :
    (reply none body generator .next).1.Leaves (reply none body generator .next).2 := by
  cases generator with
  | created frame => exact BodyStep.settle_leaves _
  | suspended frame => exact BodyStep.settle_leaves _
  | finished => rfl

lemma Generator.reply_close_finished (h : (reply none body generator .close).1 = .ok ()) :
    (reply none body generator .close).2 = .finished := by
  cases generator with
  | created frame => rfl
  | suspended frame => exact BodyStep.settleExit_finished h
  | finished => rfl

/-- **Every method keeps track of the generator.** -/
lemma TracksGenerator.step {before after : Adapted (Generator S)} {call : MethodCall V E}
    (h : before.Step (Generator.reply none body) call after)
    (htracks : TracksGenerator initial tr before) :
    TracksGenerator initial (tr ++ call.received) after := by
  have hperformed := RunOp.performed h.1
  have hanswered := h.2
  have hunchanged := h.unchanged
  obtain ⟨op, outcome, received⟩ := call
  obtain ⟨state, generator⟩ := before
  obtain ⟨state', generator'⟩ := after
  cases hperformed with
  | rejected =>
    rw [hunchanged rfl rfl, List.append_nil]
    exact htracks
  | started step =>
    obtain ⟨rfl, rfl⟩ := hanswered
    exact .of_leaves Generator.reply_next_leaves
  | sent value step =>
    -- the run is `RUNNING`, so the body is resumed where it is suspended
    obtain ⟨rfl, rfl⟩ := hanswered
    obtain ⟨frame, rfl⟩ := htracks
    exact .of_leaves (BodyStep.settle_leaves _)
  | thrown error step =>
    obtain ⟨rfl, rfl⟩ := hanswered
    obtain ⟨frame, rfl⟩ := htracks
    exact .of_leaves (BodyStep.settle_leaves _)
  | ended =>
    rw [hunchanged rfl rfl, List.append_nil]
    exact htracks
  | closed _ _ reply =>
    obtain ⟨rfl, rfl⟩ := hanswered
    exact .of_close (List.mem_append_right _ (List.mem_singleton_self _))
      Generator.reply_close_finished

/-- **The recorded state is that of the generator object**, in every state that is reached. -/
theorem tracks_of_run {last : Adapted (Generator S)}
    {moves : List (Move (Adapted (Generator S)) (MethodCall V E))}
    (h : LabelledRun (Adapted.Step (Generator.reply none body)) ⟨.created, initial⟩ moves last) :
    TracksGenerator initial (receivedBy moves) last := by
  induction h with
  | refl => exact ⟨rfl, rfl⟩
  | snoc _ hstep ih =>
    rw [receivedBy_concat]
    exact ih.step hstep

end Tracked

/-- **A `GeneratorRun` keeps a linear lifecycle** over every generator and for every sequence of
calls, and what it records is the state that the generator is in. -/
theorem GeneratorRun.keeps_lifecycle (reply : G → (c : GenCall V) → GenReply V E c × G)
    (initial : G) :
    (∀ ops : List (RunOp V), ∃ moves last,
      LabelledRun (Adapted.Step reply) ⟨.created, initial⟩ moves last ∧
        moves.map (fun m => m.label.op) = ops) ∧
    (∀ moves last, LabelledRun (Adapted.Step reply) ⟨.created, initial⟩ moves last →
      KeepsLifecycle moves) ∧
    ∀ [DecidableEq V] (none : V) (body : GeneratorBody S V E) (object : Generator S) moves last,
      LabelledRun (Adapted.Step (Generator.reply none body)) ⟨.created, object⟩ moves last →
        TracksGenerator object (receivedBy moves) last :=
  ⟨Adapted.exists_run reply _, fun _ _ h => keepsLifecycle_of_run h,
    fun _ _ _ _ _ h => tracks_of_run h⟩

/-! ### A generator that does not let itself be closed -/

/-- A generator that yields 0 however it is resumed. -/
def stubborn : GeneratorBody Unit ℕ ℕ := fun _ _ => .yields 0 ()

/-- It is started. -/
def stubbornStart : Move (Adapted (Generator Unit)) (MethodCall ℕ ℕ) :=
  ⟨⟨.created, .created ()⟩, ⟨.start, .ok (some (.yielded 0)), [⟨.next, .yielded 0⟩]⟩,
    ⟨.running, .suspended ()⟩⟩

/-- It is closed, which raises. -/
def stubbornClose : Move (Adapted (Generator Unit)) (MethodCall ℕ ℕ) :=
  ⟨⟨.running, .suspended ()⟩,
    ⟨.close, .error ignoredExit, [⟨.close, .error ignoredExit⟩]⟩, ⟨.closed, .suspended ()⟩⟩

lemma stubborn_run : LabelledRun (Adapted.Step (Generator.reply 0 stubborn))
    ⟨.created, .created ()⟩ [stubbornStart, stubbornClose] ⟨.closed, .suspended ()⟩ := by
  have hstart : stubbornStart.before.Step (Generator.reply 0 stubborn) stubbornStart.label
      stubbornStart.after := ⟨.step (.refl _), rfl, rfl⟩
  have hclose : stubbornClose.before.Step (Generator.reply 0 stubborn) stubbornClose.label
      stubbornClose.after := ⟨.step (.refl _), rfl, rfl⟩
  exact (LabelledRun.refl.snoc hstart).snoc hclose

/-- The run is closed, and the generator has not ended. -/
theorem GeneratorRun.keeps_lifecycle_stubborn :
    KeepsLifecycle [stubbornStart, stubbornClose] ∧
      TracksGenerator (.created ()) (receivedBy [stubbornStart, stubbornClose])
        (⟨.closed, .suspended ()⟩ : Adapted (Generator Unit)) := by
  obtain ⟨-, hkeeps, htracks⟩ :=
    GeneratorRun.keeps_lifecycle (S := Unit) (Generator.reply 0 stubborn) (.created ())
  exact ⟨hkeeps _ _ stubborn_run, htracks 0 stubborn _ _ _ stubborn_run⟩

end PurrceptCore
