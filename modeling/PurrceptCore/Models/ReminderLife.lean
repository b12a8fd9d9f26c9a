import PurrceptCore.Models.StoredReminders

set_option relaxedAutoImplicit false
set_option autoImplicit false

/-!
# The life of a reminder

A next-request reminder is shown by the first request accepted after it was stored, and then it is
gone; a turn reminder is shown by all requests of the first turn that acquires the facade, and is
gone after that turn; a conversation reminder is shown by all requests. Reminders of sources are
shown by the request they were resolved for, and never stored.

## Main definitions

* `PurrceptCore.acquirers`, `PurrceptCore.acceptances` — the flows that acquire the facade in a run,
  and the requests that are accepted.
* `PurrceptCore.Expired`, `PurrceptCore.Shown` — when the life of a reminder is over, and which
  requests show it.
* `PurrceptCore.Lifetime` — a reminder is shown and stored as it should be.

## Main results

* `PurrceptCore.reminder_lifetimes` — in every run, every reminder has its lifetime, and the
  reminders that stay stored keep their order.
-/

namespace PurrceptCore

open Interaction

/-! ### What happens in a run -/

/-- The flow that acquires the facade in a step: it is advanced for the first time, and the facade
is not busy. -/
def acquirer? (m : Move System Event) : Option ℕ :=
  match m.label with
  | .advanced i => if m.before.facade.busy then none else some i
  | _ => none

/-- The flows that acquire the facade, in their order. -/
def acquirers (moves : List (Move System Event)) : List ℕ := moves.filterMap acquirer?

/-- The requests that are accepted, in their order. -/
def acceptances (moves : List (Move System Event)) : List Acceptance := moves.filterMap acceptance?

/-- **The life of a reminder is over** after these moves: a request was accepted, or a turn has
begun. -/
def Expired (r : SystemReminder) (moves : List (Move System Event)) : Prop :=
  match r.scope with
  | .nextRequest => acceptances moves ≠ []
  | .turn => acquirers moves ≠ []
  | .conversation => False

/-- **A request shows a reminder** stored before the moves `before`, if the step `m` accepts the
request for flow `i` next: it is the first request, or its flow is the first to have acquired the
facade. -/
def Shown (r : SystemReminder) (before : List (Move System Event)) (m : Move System Event)
    (i : ℕ) : Prop :=
  match r.scope with
  | .nextRequest => acceptances before = []
  | .turn => acquirers (before ++ [m]) = [i]
  | .conversation => True

/-- The number `k` is `n` if `p` holds, and zero otherwise. -/
def Amount (p : Prop) (n k : ℕ) : Prop := (p → k = n) ∧ (¬ p → k = 0)

/-- The number of copies of a reminder that are stored. -/
noncomputable def System.stored (s : System) (r : SystemReminder) : ℕ :=
  copies r s.facade.reminderState.reminders

/-- **A reminder of which `n` copies are stored** before the given moves. -/
structure Lifetime (c : Conversation) (r : SystemReminder) (n : ℕ)
    (moves : List (Move System Event)) : Prop where
  /-- An accepted request contains the `n` copies if it shows the reminder, and none of them
  otherwise, besides what the sources have resolved for it. -/
  shown : ∀ before m after, moves = before ++ m :: after → ∀ x, acceptance? m = some x →
    ∃ k, Amount (Shown r before m x.flow) n k ∧
      copies r x.request.reminders = k + copies r (c.dynamic x)
  /-- Whenever no turn is running, the `n` copies are stored, unless the life of the reminder is
  over; then none is. -/
  stored : ∀ before m after, moves = before ++ m :: after → (∀ i, ¬ m.after.Live i) →
    Amount (¬ Expired r (before ++ [m])) n (m.after.stored r)

/-- A read of a set-up brings what it should: the source is an instance, and has its id. -/
def StableRead (ids : ReminderSource → NonEmptyString) : (call : SetupCall) → SetupReply call → Prop
  | .isReminderSource _, reply => reply = .ok true
  | .sourceId source, reply => reply = .ok (.str (ids source))

/-- **Stable sources.** Whenever a session is set up, the sources have the ids which they had when
the conversation was constructed, and which were found to be distinct then. -/
structure StableSources (c : Conversation) (ids : ReminderSource → NonEmptyString)
    (moves : List (Move System Event)) : Prop where
  distinct : (c.reminderSources.map ids).Nodup
  stable : ∀ m ∈ moves, ∀ i call reply, m.label = .resumed i (.setup call) reply →
    StableRead ids call reply

/-- The reads of a set-up in the calls of a flow are stable. -/
def StableTrace (ids : ReminderSource → NonEmptyString) (tr : FlowTrace) : Prop :=
  ∀ call reply, ⟨.setup call, reply⟩ ∈ tr → StableRead ids call reply

/-! ### Set-ups with stable sources -/

/-- The monitor of a set-up with stable sources. -/
abbrev stableReads (ids : ReminderSource → NonEmptyString) :
    Monitor SetupCall SetupReply (Trace SetupCall SetupReply) :=
  .history (fun _ => true) (fun _ _ => True) (StableRead ids)

/-- A source with a new id passes the validation. -/
lemma wp_validateSource {ids : ReminderSource → NonEmptyString} {source : ReminderSource}
    {seen : List NonEmptyString} {s : ReminderState} {h : Trace SetupCall SetupReply}
    (hnew : ids source ∉ seen) :
    Routine.wp (stableReads ids) (validateSource seen source)
      (fun o _ _ => o = .ok (ids source)) s h := by
  refine ⟨trivial, fun reply hreply => ?_⟩
  obtain rfl : reply = .ok true := hreply
  refine ⟨trivial, fun reply hreply => ?_⟩
  obtain rfl : reply = .ok (.str (ids source)) := hreply
  change Routine.wp _ (Routine.ofExcept (requireNonEmptyString (.str (ids source)) "source_id") >>=
    fun id => if id ∈ seen then throw (.valueError ("Reminder source " ++ pyRepr id ++
      " is registered more than once.")) else pure id : SetupM _)
      (fun o _ _ => o = .ok (ids source)) s _
  rw [requireNonEmptyString_eq_ok.2 rfl, Routine.wp_bind, Routine.wp_ofExcept, Routine.onOk_ok,
    if_neg hnew]
  rfl

/-- Sources with distinct ids pass the validation. -/
lemma wp_normalizeReminderSources {ids : ReminderSource → NonEmptyString}
    {sources : List ReminderSource} {seen : List NonEmptyString} {s : ReminderState}
    {h : Trace SetupCall SetupReply} (hdistinct : (sources.map ids).Nodup)
    (hseen : ∀ source ∈ sources, ids source ∉ seen) :
    Routine.wp (stableReads ids) (normalizeReminderSources seen sources)
      (fun o _ _ => ∃ normalized, o = .ok normalized) s h := by
  induction sources generalizing seen s h with
  | nil => exact ⟨[], rfl⟩
  | cons source sources ih =>
    rw [List.map_cons, List.nodup_cons] at hdistinct
    rw [List.forall_mem_cons] at hseen
    unfold normalizeReminderSources
    rw [Routine.wp_bind]
    refine Routine.wp_mono (fun o s' h' ho => ?_) (wp_validateSource hseen.1)
    subst ho
    rw [Routine.onOk_ok, Routine.wp_bind]
    refine Routine.wp_mono (fun o s' h' ho => ?_) (ih hdistinct.2 fun other hother => ?_)
    · obtain ⟨normalized, rfl⟩ := ho
      exact ⟨source :: normalized, rfl⟩
    · rw [List.mem_cons, not_or]
      refine ⟨fun heq => hdistinct.1 ?_, hseen.2 other hother⟩
      rw [← heq]
      exact List.mem_map_of_mem hother

/-- **A set-up with stable sources** does not raise. -/
lemma SettingUp.not_raised {c : Conversation} {ids : ReminderSource → NonEmptyString}
    {facade : Facade} {tr : FlowTrace} {e : Failure} {remaining : ReminderState}
    (hdistinct : (c.reminderSources.map ids).Nodup) (htr : StableTrace ids tr) :
    ¬ SettingUp c facade tr (.ret (.error e, remaining)) := by
  rintro ⟨str, rfl, hexec⟩
  have hwp : Prog.wp (stableReads ids) (fun o _ => ∃ session, o.1 = .ok session)
      (c.setUp facade.reminderState) [] := by
    change Routine.wp _ (TurnPromptSession.begin facade.reminderState c.promptCompiler
      c.reminderSources c.promptTraceSink) (fun o _ _ => ∃ session, o = .ok session) _ _
    unfold TurnPromptSession.begin
    rw [Routine.wp_bind, Routine.wp_set, Routine.onOk_ok, Routine.wp_bind]
    refine Routine.wp_mono (fun o s' h' ho => ?_)
      (wp_normalizeReminderSources hdistinct fun _ _ => List.not_mem_nil)
    obtain ⟨normalized, rfl⟩ := ho
    exact ⟨_, rfl⟩
  obtain ⟨session, hsession⟩ := Prog.history_ret hexec hwp fun x hx =>
    htr x.1 x.2 (List.mem_map_of_mem hx)
  cases hsession

/-! ### Requests and acquisitions -/

lemma acquirers_append (moves moves' : List (Move System Event)) :
    acquirers (moves ++ moves') = acquirers moves ++ acquirers moves' :=
  List.filterMap_append

lemma acceptances_append (moves moves' : List (Move System Event)) :
    acceptances (moves ++ moves') = acceptances moves ++ acceptances moves' :=
  List.filterMap_append

lemma acquirers_quiet {m : Move System Event} (hm : acquirer? m = none)
    (moves : List (Move System Event)) : acquirers (moves ++ [m]) = acquirers moves := by
  simp [acquirers, hm]

lemma acceptances_quiet {m : Move System Event} (hm : acceptance? m = none)
    (moves : List (Move System Event)) : acceptances (moves ++ [m]) = acceptances moves := by
  simp [acceptances, hm]

/-- A step in which no flow runs acquires nothing. -/
lemma acquirer?_of_quiet {m : Move System Event} (hm : m.label.runs? = none) :
    acquirer? m = none := by
  obtain ⟨s, e, t⟩ := m
  cases e with
  | advanced i => cases hm
  | _ => rfl

/-- The requests of a turn with one more call. -/
lemma requested_snoc (i : ℕ) (a : Ask) (tr : FlowTrace) (call : OuterCall)
    (k : OuterReply call → FlowProg) (reply : OuterReply call) :
    Requested (turnCalls (tr ++ [⟨call, reply⟩])) ↔ Requested (turnCalls tr) ∨
      (Flow.acceptance? i (.started a tr (.call call.toFlowCall k))).isSome := by
  rw [turnCalls_append, Requested, List.any_append, Bool.or_eq_true]
  refine or_congr Iff.rfl ?_
  cases call with
  | setup call => exact iff_of_false nofun nofun
  | turn call =>
    cases call with
    | generate model request => exact iff_of_true rfl rfl
    | _ => exact iff_of_false nofun nofun

/-! ### The invariant -/

/-- A turn has begun within the moves `during`. A request was accepted in them as stated, and what
was due of the reminder before them is stored `k` times. -/
structure Since (r : SystemReminder) (n : ℕ) (before during : List (Move System Event))
    (requested : Prop) (k : ℕ) : Prop where
  requested_iff : acceptances during ≠ [] ↔ requested
  amount : Amount (¬ Expired r before) n k

/-- **The invariant** after the given moves. While no turn is running, what is due of the reminder
is stored. While the turn of a flow is running, what was due when it began is stored, and only
that turn has begun or made requests since. -/
structure LifeInv (ids : ReminderSource → NonEmptyString) (r : SystemReminder) (n : ℕ)
    (moves : List (Move System Event)) (w : System) : Prop where
  idle : (∀ i, ¬ w.Live i) →
    w.facade.busy = false ∧ Amount (¬ Expired r moves) n (w.stored r)
  owned : ∀ i a tr call k, w.Awaits i a tr call k → StableTrace ids tr ∧
    ∃ before during, moves = before ++ during ∧ acquirers during = [i] ∧
      Since r n before during (Requested (turnCalls tr) ∨
        (Flow.acceptance? i (.started a tr (.call call.toFlowCall k))).isSome) (w.stored r)

/-- **A step in which the turn of flow `i` runs**, after the given moves. -/
structure Runs (c : Conversation) (ids : ReminderSource → NonEmptyString) (r : SystemReminder)
    (n : ℕ) (moves : List (Move System Event)) (m : Move System Event) (i : ℕ) (a : Ask)
    (tr : FlowTrace) (rest : FlowProg) : Prop where
  runs : m.label.runs? = some i
  flow : ∃ f, m.before.flows[i]? = some f
  only : ∀ j, m.before.Live j → j = i
  after : m.after.flows = m.before.flows.set i (.started a tr rest)
  advanced : Advanced c { m.before.facade with busy := true } a tr rest m.after.facade
  stable : StableTrace ids tr
  since : ∃ before during, moves = before ++ during ∧ acquirers (during ++ [m]) = [i] ∧
    Since r n before during (Requested (turnCalls tr)) (m.before.stored r)

section Step

variable {c : Conversation} {ids : ReminderSource → NonEmptyString} {r : SystemReminder} {n : ℕ}
  {moves : List (Move System Event)} {m : Move System Event} {i : ℕ} {a : Ask} {tr : FlowTrace}
  {rest : FlowProg}

/-- The life of a reminder does not end in a step that neither acquires the facade nor accepts a
request. -/
lemma expired_quiet (hacq : acquirer? m = none) (hacc : acceptance? m = none) :
    Expired r (moves ++ [m]) ↔ Expired r moves := by
  unfold Expired
  rw [acquirers_quiet hacq, acceptances_quiet hacc]

/-- What an accepted request of the turn shows of the reminder. -/
lemma Since.shown {before during : List (Move System Event)} {calls : TurnTrace} {k : ℕ}
    (h : Since r n before during (Requested calls) k) (hacq : acquirers (during ++ [m]) = [i]) :
    Amount (Shown r (before ++ during) m i) n
      (if r.scope = .nextRequest ∧ Requested calls then 0 else k) := by
  obtain ⟨hrequested, hamount⟩ := h
  unfold Expired at hamount
  unfold Shown
  cases hscope : r.scope with
  | nextRequest =>
    simp only [hscope] at hamount ⊢
    rw [acceptances_append, List.append_eq_nil_iff]
    by_cases hcalls : Requested calls
    · rw [if_pos ⟨trivial, hcalls⟩]
      exact ⟨fun hnone => absurd hnone.2 (hrequested.2 hcalls), fun _ => rfl⟩
    · have hnone : acceptances during = [] := not_not.1 fun hne => hcalls (hrequested.1 hne)
      rw [if_neg fun hboth => hcalls hboth.2]
      simpa only [hnone, and_true, not_not, Amount] using hamount
  | turn =>
    simp only [hscope] at hamount ⊢
    rw [List.append_assoc, acquirers_append, hacq, if_neg fun hboth => nomatch hboth.1]
    simpa only [List.append_left_eq_self, not_not, Amount] using hamount
  | conversation =>
    simp only [hscope] at hamount ⊢
    rw [if_neg fun hboth => nomatch hboth.1]
    exact ⟨fun _ => hamount.1 not_false, fun hfalse => absurd trivial hfalse⟩

/-- What the turn leaves stored of the reminder when it ends. -/
lemma Since.ended {before during : List (Move System Event)} {calls : TurnTrace} {k : ℕ}
    (h : Since r n before during (Requested calls) k) (hacq : acquirers (during ++ [m]) = [i])
    (hacc : acceptance? m = none) :
    Amount (¬ Expired r (before ++ during ++ [m])) n
      (if r.scope = .turn ∨ r.scope = .nextRequest ∧ Requested calls then 0 else k) := by
  obtain ⟨hrequested, hamount⟩ := h
  unfold Expired at hamount ⊢
  cases hscope : r.scope with
  | nextRequest =>
    simp only [hscope] at hamount ⊢
    rw [acceptances_quiet hacc, acceptances_append, not_not, List.append_eq_nil_iff]
    by_cases hcalls : Requested calls
    · rw [if_pos (.inr ⟨trivial, hcalls⟩)]
      exact ⟨fun hnone => absurd hnone.2 (hrequested.2 hcalls), fun _ => rfl⟩
    · have hnone : acceptances during = [] := not_not.1 fun hne => hcalls (hrequested.1 hne)
      rw [if_neg (by simp [hcalls])]
      simpa only [hnone, and_true, not_not, Amount] using hamount
  | turn =>
    simp only [hscope] at hamount ⊢
    rw [List.append_assoc, acquirers_append, hacq, if_pos (.inl trivial)]
    exact ⟨fun hnone => absurd (List.append_ne_nil_of_right_ne_nil _ (List.cons_ne_nil _ _)) hnone,
      fun _ => rfl⟩
  | conversation =>
    simp only [hscope] at hamount ⊢
    rw [if_neg (by simp)]
    exact hamount

/-- **A step in which no turn runs** keeps the invariant. -/
lemma LifeInv.quiet (h : LifeInv ids r n moves m.before) (hacq : acquirer? m = none)
    (hacc : acceptance? m = none) (hbusy : m.after.facade.busy = m.before.facade.busy)
    (hstored : m.after.stored r = m.before.stored r)
    (hlive : ∀ j, m.after.Live j ↔ m.before.Live j)
    (hawaits : ∀ j a tr call k, m.after.Awaits j a tr call k → m.before.Awaits j a tr call k) :
    LifeInv ids r n (moves ++ [m]) m.after where
  idle := by
    intro hidle
    obtain ⟨hfree, hamount⟩ := h.idle fun j hj => hidle j ((hlive j).2 hj)
    rw [hbusy, hstored, expired_quiet hacq hacc]
    exact ⟨hfree, hamount⟩
  owned := by
    intro j a tr call k hj
    obtain ⟨hstable, before, during, rfl, hacquirers, hrequested, hamount⟩ :=
      h.owned j a tr call k (hawaits j a tr call k hj)
    refine ⟨hstable, before, during ++ [m], List.append_assoc _ _ _, ?_, ?_, hstored ▸ hamount⟩
    · rw [acquirers_quiet hacq, hacquirers]
    · rw [acceptances_quiet hacc, hrequested]

namespace Runs

variable (h : Runs c ids r n moves m i a tr rest)

include h

lemma flow_after : m.after.flows[i]? = some (.started a tr rest) := by
  obtain ⟨f, hf⟩ := h.flow
  rw [h.after]
  exact List.getElem?_set_self (List.getElem?_eq_some_iff.1 hf).1

/-- The request that the step accepts is the one that the flow hands to the model next. -/
lemma acceptance?_eq : acceptance? m = (Flow.started a tr rest).acceptance? i :=
  acceptance?_of_runs h.runs h.flow_after

/-- **What an accepted request shows** of the stored reminder. -/
theorem shown {x : Acceptance} (hx : acceptance? m = some x) :
    ∃ k, Amount (Shown r moves m x.flow) n k ∧
      copies r x.request.reminders = k + copies r (c.dynamic x) := by
  rw [h.acceptance?_eq] at hx
  obtain ⟨-, rfl, hcalls, haccepts⟩ := h.advanced.accepts hx
  obtain ⟨before, during, rfl, hacquirers, hsince⟩ := h.since
  refine ⟨_, ?_, haccepts.copies_eq r⟩
  rw [hcalls]
  exact hsince.shown hacquirers

/-- The flow of the turn is the only one that may be live. -/
lemma only_after {j : ℕ} (hj : m.after.Live j) : j = i := by
  obtain ⟨f, hf⟩ := h.flow
  have hafter : m.after = ⟨m.after.facade, m.before.flows.set i (.started a tr rest)⟩ := by
    rw [← h.after]
  rw [hafter] at hj
  exact System.live_set_only hf h.only hj

/-- The turn goes on. -/
lemma going (hlive : ∀ o, rest ≠ .ret o)
    (hfacade : m.after.facade = { m.before.facade with busy := true }) :
    LifeInv ids r n (moves ++ [m]) m.after where
  idle := fun hidle => absurd ⟨_, h.flow_after, hlive⟩ (hidle i)
  owned := by
    intro j a' tr' call k hj
    obtain ⟨before, during, rfl, hacquirers, hrequested, hamount⟩ := h.since
    have hacc := h.acceptance?_eq
    have hflow := h.flow_after
    obtain rfl := h.only_after hj.live
    unfold System.Awaits at hj
    rw [hj, Option.some_inj] at hflow
    cases hflow
    refine ⟨h.stable, before, during ++ [m], List.append_assoc _ _ _, hacquirers, ?_, ?_⟩
    · rw [← hacc, ← hrequested, acceptances_append, Ne, List.append_eq_nil_iff, not_and_or]
      refine or_congr Iff.rfl ?_
      cases hm : acceptance? m <;> simp [acceptances, hm]
    · have hstored : m.after.stored r = m.before.stored r := by
        unfold System.stored
        rw [hfacade]
      rw [hstored]
      exact hamount

/-- The turn has ended. -/
lemma ended {o : Except Failure ModelTurnResult} {remaining : ReminderState}
    (hrest : rest = .ret (o, remaining))
    (hturn : Turning c { m.before.facade with busy := true } a tr (.ret (o, remaining)))
    (hbusy : m.after.facade.busy = false) (hremaining : m.after.facade.reminderState = remaining) :
    LifeInv ids r n (moves ++ [m]) m.after where
  idle := by
    intro _
    obtain ⟨before, during, rfl, hacquirers, hsince⟩ := h.since
    have hacc : acceptance? m = none := by
      rw [h.acceptance?_eq, hrest]
      rfl
    refine ⟨hbusy, ?_⟩
    unfold System.stored
    rw [hremaining, hturn.remaining_eq, copies_remaining]
    exact hsince.ended hacquirers hacc
  owned := by
    intro j a' tr' call k hj
    have hflow := h.flow_after
    obtain rfl := h.only_after hj.live
    unfold System.Awaits at hj
    rw [hj, hrest, Option.some_inj] at hflow
    cases hflow

/-- **A step in which a turn runs** keeps the invariant. -/
theorem lifeInv (hdistinct : (c.reminderSources.map ids).Nodup) :
    LifeInv ids r n (moves ++ [m]) m.after := by
  have hadv := h.advanced
  generalize hafter : m.after.facade = facade at hadv
  cases hadv with
  | settingUp call k hs => exact h.going (Prog.call_ne_ret _ _) hafter
  | turning call k ht => exact h.going (Prog.call_ne_ret _ _) hafter
  | setupRaised e remaining hs => exact absurd hs (SettingUp.not_raised hdistinct h.stable)
  | turnRaised e remaining ht => exact h.ended rfl ht (by rw [hafter]) (by rw [hafter])
  | turnReturned result remaining ht => exact h.ended rfl ht (by rw [hafter]) (by rw [hafter])

end Runs

/-- **Every step** keeps the invariant, or a turn runs in it. -/
theorem LifeInv.cases (h : LifeInv ids r n moves m.before) (hown : Ownership c m.before)
    (hcase : StepCase c m.before m.label m.after)
    (hstable : ∀ i call reply, m.label = .resumed i (.setup call) reply →
      StableRead ids call reply)
    (hspares : ∀ op, m.label = .operated op → op.Spares r) :
    (acceptance? m = none ∧ LifeInv ids r n (moves ++ [m]) m.after) ∨
      ∃ i a tr rest, Runs c ids r n moves m i a tr rest := by
  obtain ⟨s, e, t⟩ := m
  change StepCase c s e t at hcase
  cases hcase with
  | quiet he hfacade hstarted =>
    have hacc : acceptance? ⟨s, e, t⟩ = none := acceptance?_of_quiet he
    refine .inl ⟨hacc, h.quiet (acquirer?_of_quiet he) hacc (congrArg Facade.busy hfacade) ?_
      (System.live_congr hstarted) fun j a tr call k hj => (hstarted j a tr _).1 hj⟩
    exact congrArg (fun facade => copies r facade.reminderState.reminders) hfacade
  | operated op facade he hidle hop ht =>
    subst ht
    have hquiet : e.runs? = none := by rw [he]; rfl
    have hacc : acceptance? ⟨s, e, { s with facade }⟩ = none := acceptance?_of_quiet hquiet
    exact .inl ⟨hacc, h.quiet (acquirer?_of_quiet hquiet) hacc (IdleOp.apply_busy hop)
      ((hspares op he).copies_eq hop) (fun j => Iff.rfl) fun j a tr call k hj => hj⟩
  | rejected i a he hbusy hi ht =>
    subst ht
    subst he
    have hlt : i < s.flows.length := (List.getElem?_eq_some_iff.1 hi).1
    have hacc := acceptance?_of_runs (m := ⟨s, .advanced i, { s with
      flows := s.flows.set i (.started a [] (.ret (.error .conversationBusy, .empty))) }⟩) rfl
      (List.getElem?_set_self hlt)
    have hacq : acquirer? ⟨s, .advanced i, { s with
        flows := s.flows.set i (.started a [] (.ret (.error .conversationBusy, .empty))) }⟩ =
        none := if_pos hbusy
    exact .inl ⟨hacc, h.quiet hacq hacc rfl rfl (System.live_set_ended hi id)
      fun j a' tr call k hj => hj.of_set_ended hi⟩
  | acquired i a rest facade he hidle hi hadv ht =>
    subst ht
    subst he
    refine .inr ⟨i, a, [], rest, rfl, ⟨_, hi⟩, fun j hj => absurd hj (hown.not_live hidle j), rfl,
      hadv, nofun, moves, [], (List.append_nil _).symm, ?_, ?_, ?_⟩
    · change acquirers [_] = _
      simp [acquirers, acquirer?, hidle]
    · exact iff_of_false (fun hne => hne rfl) nofun
    · exact (h.idle (hown.not_live hidle)).2
  | advanced i a tr call k reply rest facade he hi hbusy hadv ht =>
    subst ht
    obtain ⟨htr, before, during, rfl, hacquirers, hrequested, hamount⟩ := h.owned i a tr call k hi
    have hruns : e.runs? = some i := by
      rcases he with rfl | ⟨rfl, -⟩ <;> rfl
    have hfacade : { s.facade with busy := true } = s.facade := by
      rw [← hbusy]
    refine .inr ⟨i, a, _, rest, hruns, ⟨_, hi⟩, fun j hj => hown.live_unique hj hi.live, rfl,
      hfacade ▸ hadv, ?_, before, during, rfl, ?_, ?_, hamount⟩
    · intro call' reply' hmem
      rcases List.mem_append.1 hmem with hmem | hmem
      · exact htr call' reply' hmem
      · rw [List.mem_singleton] at hmem
        cases hmem
        rcases he with rfl | ⟨-, call, hcall⟩
        · exact hstable i call' reply' rfl
        · cases hcall
    · have hacq : acquirer? ⟨s, e, ⟨facade, s.flows.set i
          (.started a (tr ++ [⟨call, reply⟩]) rest)⟩⟩ = none := by
        rcases he with rfl | ⟨rfl, -⟩ <;> rfl
      rw [acquirers_quiet hacq, hacquirers]
    · rw [hrequested, requested_snoc]

end Step

/-! ### Runs -/

/-- An idle facade stores what is due of a reminder. -/
lemma LifeInv.start {c : Conversation} {ids : ReminderSource → NonEmptyString} {u : System}
    (hown : Ownership c u) (hidle : u.facade.busy = false) (r : SystemReminder) :
    LifeInv ids r (u.stored r) [] u where
  idle := by
    refine fun _ => ⟨hidle, fun _ => rfl, fun hexpired => absurd ?_ hexpired⟩
    unfold Expired
    cases r.scope with
    | nextRequest => exact fun hne => hne rfl
    | turn => exact fun hne => hne rfl
    | conversation => exact not_false
  owned := fun i _ _ _ _ hi => absurd hi.live (hown.not_live hidle i)

/-- **The run lemma**: the invariant holds in every state of a run. -/
lemma LifeInv.reachable {c : Conversation} {ids : ReminderSource → NonEmptyString} {u t : System}
    {moves : List (Move System Event)} {r : SystemReminder} (hown : Ownership c u)
    (hrun : c.Run u moves t) (hstable : StableSources c ids moves)
    (hidle : u.facade.busy = false)
    (hspares : ∀ m ∈ moves, ∀ op, m.label = .operated op → op.Spares r) :
    Ownership c t ∧ LifeInv ids r (u.stored r) moves t := by
  induction hrun with
  | refl => exact ⟨hown, .start hown hidle r⟩
  | @snoc moves t w e hrun hstep ih =>
    obtain ⟨hown', h⟩ := ih
      ⟨hstable.distinct, fun m hm => hstable.stable m (List.mem_append_left _ hm)⟩
      fun m hm => hspares m (List.mem_append_left _ hm)
    have hlast : (⟨t, e, w⟩ : Move System Event) ∈ moves ++ [⟨t, e, w⟩] :=
      List.mem_append_right _ (List.mem_singleton_self _)
    have hcase := hown'.cases hstep
    refine ⟨hown'.step hcase, ?_⟩
    rcases LifeInv.cases (m := ⟨t, e, w⟩) h hown' hcase (hstable.stable _ hlast)
      (hspares _ hlast) with ⟨-, h⟩ | ⟨i, a, tr, rest, h⟩
    · exact h
    · exact h.lifeInv hstable.distinct

/-- A step keeps the order of the reminders that stay stored, and only an operation of the
application stores reminders. -/
structure KeepsOrder (m : Move System Event) : Prop where
  /-- A step of flows only takes stored reminders away. -/
  flows : (∀ op, m.label ≠ .operated op) →
    m.after.facade.reminderState.reminders.Sublist m.before.facade.reminderState.reminders
  /-- An operation keeps the order, unless it restores other reminders. -/
  operations : ∀ op, m.label = .operated op → (∀ checkpoint, op ≠ .restore checkpoint) →
    SameOrder m.before.facade.reminderState.reminders m.after.facade.reminderState.reminders

/-- The flow that owns the facade only takes stored reminders away. -/
lemma Advanced.sublist {c : Conversation} {facade facade' : Facade} {a : Ask} {tr : FlowTrace}
    {rest : FlowProg} (h : Advanced c facade a tr rest facade') :
    facade'.reminderState.reminders.Sublist facade.reminderState.reminders := by
  cases h with
  | settingUp call k h => exact .refl _
  | turning call k h => exact .refl _
  | setupRaised e remaining h => exact .refl _
  | turnRaised e remaining h => exact h.sublist
  | turnReturned result remaining h => exact h.sublist

/-- Every step keeps the order. -/
lemma StepCase.keepsOrder {c : Conversation} {m : Move System Event}
    (h : StepCase c m.before m.label m.after) : KeepsOrder m := by
  obtain ⟨s, e, t⟩ := m
  change StepCase c s e t at h
  cases h with
  | quiet he hfacade hstarted =>
    refine ⟨fun _ => ?_, fun op _ _ => ?_⟩
    · exact hfacade ▸ .refl _
    · exact hfacade ▸ .refl _
  | operated op facade he hidle hop ht =>
    subst ht
    refine ⟨fun hnot => absurd he (hnot op), fun op' he' hrestore => ?_⟩
    rw [he] at he'
    cases he'
    exact IdleOp.apply_sameOrder hop hrestore
  | rejected i a he hbusy hi ht =>
    subst ht
    exact ⟨fun _ => .refl _, fun _ _ _ => .refl _⟩
  | acquired i a rest facade he hidle hi hadv ht =>
    subst ht
    subst he
    exact ⟨fun _ => hadv.sublist, fun _ hop _ => nomatch hop⟩
  | advanced i a tr call k reply rest facade he hi hbusy hadv ht =>
    subst ht
    refine ⟨fun _ => hadv.sublist, fun op hop _ => ?_⟩
    rcases he with he | ⟨he, -⟩
    · exact nomatch he.symm.trans hop
    · exact nomatch he.symm.trans hop

/-- **The lifetimes of reminders**, over any run of flows and operations, whatever the callbacks and
the driver bring, with sources whose ids are stable. Take any moment at which the facade is idle,
and any reminder; it is stored some number of times. In whatever happens from that moment on, up to
an operation that stores another copy of it, replaces it by its key, removes it, clears it or
restores other reminders:

* a next-request reminder is shown by the next request that is accepted, and by no later one; it is
  stored until a request is accepted, and not afterwards;
* a turn reminder is shown by all requests of the next turn that acquires the facade, and by no
  other; it is stored until a turn acquires the facade, and not once that turn has ended;
* a conversation reminder is shown by all requests, and stays stored.

Flows only take stored reminders away, so what sources resolve is never stored, and what stays
stored keeps its order.

**Proof sketch.** The invariant `LifeInv` splits the moves at the beginning of the turn that is
running: what was due then is stored throughout, and the requests accepted since are its own. A
request shows what is active by `Conversation.Accepts.copies_eq`, and when the turn ends it leaves
what `copies_remaining` says. -/
theorem reminder_lifetimes {c : Conversation} {ids : ReminderSource → NonEmptyString}
    {s u t : System} {before moves : List (Move System Event)} (hs : s.Fresh)
    (hbefore : c.Run s before u) (hrun : c.Run u moves t) (hstable : StableSources c ids moves)
    (hidle : u.facade.busy = false) :
    (∀ m ∈ moves, KeepsOrder m) ∧
      ∀ r, (∀ m ∈ moves, ∀ op, m.label = .operated op → op.Spares r) →
        Lifetime c r (u.stored r) moves := by
  have hown := Ownership.reachable hs hbefore
  refine ⟨fun m hm => ?_, fun r hspares => ?_⟩
  · obtain ⟨hstep, ms, after, -, hms⟩ := hrun.mem_move hm
    have hown' := hms.invariant hown fun _ _ hstep h => h.step (h.cases hstep)
    exact (hown'.cases hstep).keepsOrder
  have hcases (ms : List (Move System Event)) (m : Move System Event)
      (after : List (Move System Event)) (hms : moves = ms ++ m :: after) :
      (acceptance? m = none ∧ LifeInv ids r (u.stored r) (ms ++ [m]) m.after) ∨
        ∃ i a tr rest, Runs c ids r (u.stored r) ms m i a tr rest := by
    subst hms
    have hm : m ∈ ms ++ m :: after := List.mem_append_right _ List.mem_cons_self
    obtain ⟨hrun, hstep⟩ := hrun.split_move
    obtain ⟨hown', h⟩ := LifeInv.reachable hown hrun
      ⟨hstable.distinct, fun x hx => hstable.stable x (List.mem_append_left _ hx)⟩ hidle
      fun x hx => hspares x (List.mem_append_left _ hx)
    exact h.cases hown' (hown'.cases hstep) (hstable.stable m hm) (hspares m hm)
  refine ⟨fun ms m after hms x hx => ?_, fun ms m after hms hlive => ?_⟩
  · rcases hcases ms m after hms with ⟨hnone, -⟩ | ⟨i, a, tr, rest, h⟩
    · rw [hnone] at hx
      cases hx
    · exact h.shown hx
  · rcases hcases ms m after hms with ⟨-, h⟩ | ⟨i, a, tr, rest, h⟩
    · exact (h.idle hlive).2
    · exact ((h.lifeInv hstable.distinct).idle hlive).2

/-! ### A reminder that is shown once -/

/-- A next-request reminder. -/
def plainNote : SystemReminder :=
  ⟨[.text "note"], none, .nextRequest, .auto, 0, by decide, nofun⟩

/-- A new conversation in which the note is stored. -/
def System.noted : System := ⟨⟨false, .empty, ReminderState.empty.upsert plainNote⟩, []⟩

/-- A next-request reminder is stored, and the only request of a turn shows it. -/
theorem reminder_lifetimes_plain : ∃ moves t, plainConversation.Run .noted moves t ∧
    (∀ m ∈ moves, KeepsOrder m) ∧
      Lifetime plainConversation plainNote (System.noted.stored plainNote) moves ∧
      System.noted.facade.reminderState.reminders = [plainNote] ∧
      t.facade.busy = false ∧ t.facade.reminderState.reminders.length = 0 := by
  have hbefore : plainConversation.Run .new [⟨.new, .operated (.remind (.reminder plainNote false)),
      .noted⟩] .noted := LabelledRun.refl.snoc (.operate _ _ rfl)
  have hstart : plainConversation.Run .noted [] .noted := .refl
  have hwaiting := (hstart.snoc (.ask (.text "hello") none false _ rfl)).snoc (.advance 0 _ rfl)
  obtain ⟨call, hrun⟩ := Conversation.Run.respond hwaiting 0 (answering plainAnswer)
    (by decide +kernel)
  have hlives := @reminder_lifetimes plainConversation (fun _ => ⟨"source", by decide⟩) _ _ _ _ _
    ⟨rfl, rfl⟩ hbefore hrun
  have hstable : ∀ i read reply, Event.resumed 0 call (answering plainAnswer call) =
      .resumed i (.setup read) reply → StableRead (fun _ => ⟨"source", by decide⟩) read reply := by
    intro i read reply h
    cases h
    cases read <;> rfl
  simp only [List.nil_append, List.cons_append] at hrun hlives
  obtain ⟨horder, hlife⟩ := hlives ⟨List.nodup_nil, by
    simp only [List.forall_mem_cons]
    exact ⟨nofun, nofun, hstable, fun _ h => nomatch h⟩⟩ rfl
  refine ⟨_, _, hrun, horder, hlife plainNote ?_, rfl, by decide +kernel, by decide +kernel⟩
  simp only [List.forall_mem_cons]
  refine ⟨?_, ?_, ?_, fun _ h => nomatch h⟩ <;> intro op hop <;> cases hop

end PurrceptCore
