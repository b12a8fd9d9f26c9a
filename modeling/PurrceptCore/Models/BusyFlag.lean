import PurrceptCore.Models.Ownership

set_option relaxedAutoImplicit false
set_option autoImplicit false

/-!
# The busy flag

`ask` promises that the busy lifecycle of a flow ends when the flow returns, raises or is closed.
The flow sets the flag before it sets up its prompt session, and clears it in the `finally` block
that begins after the set-up. A set-up that raises therefore leaves the flag set for good. This is
the only way in which the promise is broken.

## Main definitions

* `PurrceptCore.System.BusyExact` — the facade is busy exactly while one flow was advanced and has
  not ended.
* `PurrceptCore.SetsUpWell` — a step does not make a set-up raise.

## Main results

* `PurrceptCore.busy_exact_iff` — the flag is exact in all states of a run exactly if no set-up
  raises.
* `PurrceptCore.busy_stuck` — a source whose id raises in the set-up blocks the conversation.
-/

namespace PurrceptCore

open Interaction

/-- The flag is set exactly while a flow was advanced past the guard and has not ended, and there
is at most one such flow. A flow that the guard rejects has ended. -/
def System.BusyExact (s : System) : Prop :=
  (s.facade.busy = true ↔ ∃ i, s.Live i) ∧ ∀ i j, s.Live i → s.Live j → i = j

/-- The reads among the calls of a flow that it has made for its set-up. -/
def readsOfSetup (tr : FlowTrace) : Trace SetupCall SetupReply :=
  tr.filterMap fun
    | ⟨.setup call, reply⟩ => some ⟨call, reply⟩
    | _ => none

/-- The reads that flow `i` has made for its set-up. -/
def System.setupReads (s : System) (i : ℕ) : Trace SetupCall SetupReply :=
  match s.flows[i]? with
  | some (.started _ tr _) => readsOfSetup tr
  | _ => []

/-- **The condition on a step.** If the step answers a read of the set-up of a flow, then all reads
of that set-up so far are as the validation of the sources wants them: every source is a
`ReminderSource`, and its id reads as a non-empty string that no earlier source has. -/
def SetsUpWell (m : Move System Event) : Prop :=
  match m.label with
  | .resumed i (.setup call) reply =>
    SetupReadsWell [] (m.before.setupReads i ++ [⟨call, reply⟩])
  | _ => True

/-! ### The reads of a set-up -/

lemma readsOfSetup_append (tr tr' : FlowTrace) :
    readsOfSetup (tr ++ tr') = readsOfSetup tr ++ readsOfSetup tr' :=
  List.filterMap_append

@[simp] lemma readsOfSetup_ofSetupTrace (str : Trace SetupCall SetupReply) :
    readsOfSetup (ofSetupTrace str) = str := by
  induction str with
  | nil => rfl
  | cons x str ih =>
    change _ :: readsOfSetup (ofSetupTrace str) = _
    rw [ih]

@[simp] lemma readsOfSetup_ofTurnTrace (ttr : TurnTrace) : readsOfSetup (ofTurnTrace ttr) = [] := by
  induction ttr with
  | nil => rfl
  | cons x ttr ih => exact ih

lemma System.setupReads_of_started {s : System} {i : ℕ} {a : Ask} {tr : FlowTrace}
    {rest : FlowProg} (h : s.flows[i]? = some (.started a tr rest)) :
    s.setupReads i = readsOfSetup tr := by
  unfold System.setupReads
  rw [h]

/-- While a set-up has not raised, its reads are as they should be. -/
lemma Advanced.readsWell {c : Conversation} {facade facade' : Facade} {a : Ask} {tr : FlowTrace}
    {rest : FlowProg} (h : Advanced c facade a tr rest facade') :
    SetupReadsWell [] (readsOfSetup tr) ∨
      facade' = facade ∧ ∃ o, rest = .ret o := by
  have hturning {q} (h : Turning c facade a tr q) : SetupReadsWell [] (readsOfSetup tr) := by
    obtain ⟨str, ttr, rfl, hs, -⟩ := h
    rw [readsOfSetup_append, readsOfSetup_ofSetupTrace, readsOfSetup_ofTurnTrace, List.append_nil]
    rcases setUp_exec hs with ⟨-, hwell⟩ | ⟨⟨e, he⟩, -⟩
    · exact hwell
    · cases he
  cases h with
  | settingUp call k h =>
    obtain ⟨str, rfl, hs⟩ := h
    rw [readsOfSetup_ofSetupTrace]
    rcases setUp_exec hs with ⟨-, hwell⟩ | ⟨⟨e, he⟩, -⟩
    · exact .inl hwell
    · cases he
  | turning call k h => exact .inl (hturning h)
  | setupRaised e remaining h => exact .inr ⟨rfl, _, rfl⟩
  | turnRaised e remaining h => exact .inl (hturning h)
  | turnReturned result remaining h => exact .inl (hturning h)

/-- A set-up that has raised has made a read that is not as it should be. -/
lemma SettingUp.not_readsWell {c : Conversation} {facade : Facade} {tr : FlowTrace} {e : Failure}
    {remaining : ReminderState} (h : SettingUp c facade tr (.ret (.error e, remaining))) :
    ∃ str, tr = ofSetupTrace str ∧ ¬ SetupReadsWell [] str := by
  obtain ⟨str, htr, hs⟩ := h
  rcases setUp_exec hs with ⟨⟨call, k, hq⟩ | hq, -⟩ | ⟨-, hbad⟩
  · cases hq
  · cases hq
  · exact ⟨str, htr, hbad⟩

/-! ### The flag after a step -/

/-- When no flow is live, an exact flag is not set. -/
lemma System.BusyExact.of_idle {s : System} (hbusy : s.facade.busy = false)
    (hlive : ∀ i, ¬ s.Live i) : s.BusyExact :=
  ⟨iff_of_false (by simp [hbusy]) fun ⟨i, hi⟩ => hlive i hi, fun i _ hi => absurd hi (hlive i)⟩

/-- After an advancement of the only flow that may be live, other than a set-up that raises, the
flag is exact. -/
lemma System.BusyExact.of_advanced {c : Conversation} {s : System} {facade facade' : Facade}
    {i : ℕ} {f : Flow} {a : Ask} {tr : FlowTrace} {rest : FlowProg} (hi : s.flows[i]? = some f)
    (hbusy : facade.busy = true) (hothers : ∀ j, s.Live j → j = i)
    (hadv : Advanced c facade a tr rest facade')
    (hsetup : ∀ str, tr = ofSetupTrace str → SetupReadsWell [] str) :
    System.BusyExact ⟨facade', s.flows.set i (.started a tr rest)⟩ := by
  have howned (hlive : ∀ o, rest ≠ .ret o) (hb : facade'.busy = true) :
      System.BusyExact ⟨facade', s.flows.set i (.started a tr rest)⟩ := by
    have honly (j : ℕ)
        (hj : System.Live ⟨facade', s.flows.set i (.started a tr rest)⟩ j) : j = i :=
      System.live_set_only hi hothers hj
    refine ⟨iff_of_true hb ⟨i, ?_⟩, fun j k hj hk => (honly j hj).trans (honly k hk).symm⟩
    rw [System.live_set hi, if_pos rfl]
    exact hlive
  cases hadv with
  | settingUp call k h => exact howned (Prog.call_ne_ret _ _) hbusy
  | turning call k h => exact howned (Prog.call_ne_ret _ _) hbusy
  | setupRaised e remaining h =>
    obtain ⟨str, htr, hbad⟩ := h.not_readsWell
    exact absurd (hsetup str htr) hbad
  | turnRaised e remaining h => exact .of_idle rfl (System.not_live_set hi hothers)
  | turnReturned result remaining h => exact .of_idle rfl (System.not_live_set hi hothers)

/-- **The step lemma.** A step that does not make a set-up raise keeps the flag exact. -/
lemma System.BusyExact.step {c : Conversation} {m : Move System Event} (hm : SetsUpWell m)
    (hown : Ownership c m.before) (hcase : StepCase c m.before m.label m.after)
    (h : m.before.BusyExact) : m.after.BusyExact := by
  obtain ⟨s, e, t⟩ := m
  change StepCase c s e t at hcase
  cases hcase with
  | quiet he hfacade hstarted =>
    have hlive := System.live_congr hstarted
    unfold System.BusyExact at h ⊢
    simpa only [hlive, hfacade] using h
  | operated op facade he hidle hop ht =>
    subst ht
    exact .of_idle ((IdleOp.apply_busy hop).trans hidle) (hown.not_live hidle)
  | rejected i a he hbusy hi ht =>
    subst ht
    have hlive (j : ℕ) : System.Live ⟨s.facade, s.flows.set i
        (.started a [] (.ret (.error .conversationBusy, .empty)))⟩ j ↔ s.Live j :=
      System.live_set_ended hi id j
    unfold System.BusyExact at h ⊢
    simpa only [hlive] using h
  | acquired i a rest facade he hidle hi hadv ht =>
    subst ht
    refine .of_advanced hi rfl (fun j hj => absurd hj (hown.not_live hidle j)) hadv ?_
    intro str hstr
    rw [← readsOfSetup_ofSetupTrace str, ← hstr]
    trivial
  | advanced i a tr call k reply rest facade he hi hbusy hadv ht =>
    subst ht
    refine .of_advanced hi hbusy (fun j hj => hown.live_unique hj hi.live) hadv ?_
    intro str hstr
    cases call with
    | turn call =>
      have hlast := congrArg List.getLast? hstr
      rw [List.getLast?_concat, ofSetupTrace, List.getLast?_map] at hlast
      cases hx : str.getLast? with
      | none => rw [hx] at hlast; cases hlast
      | some x => rw [hx] at hlast; cases hlast
    | setup call =>
      rcases he with rfl | ⟨-, call', hcall⟩
      · have hreads := congrArg readsOfSetup hstr
        rw [readsOfSetup_ofSetupTrace, readsOfSetup_append] at hreads
        rw [← hreads, ← System.setupReads_of_started hi]
        exact hm
      · cases hcall

/-- **When the busy flag is exact.** In a run of any flows and operations, with any sources, the
facade is busy in every state reached exactly while one flow was first advanced past the guard and
has not ended, if and only if no step makes a set-up raise.

**Proof sketch.** From right to left, the step lemma goes through the run. From left to right, a
read that is not as it should be makes the set-up raise, and the flow ends outside the `try` block:
the flag stays set, and no flow is live. -/
theorem busy_exact_iff {c : Conversation} {s t : System} {moves : List (Move System Event)}
    (hs : s.Fresh) (hrun : c.Run s moves t) :
    (∀ m ∈ moves, m.after.BusyExact) ↔ ∀ m ∈ moves, SetsUpWell m := by
  constructor
  · intro hexact m hm
    obtain ⟨hown, hcase⟩ := Conversation.Run.cases hs hrun hm
    have hafter := hexact m hm
    obtain ⟨s, e, t⟩ := m
    change StepCase c s e t at hcase
    match e with
    | .resumed i (.setup call) reply =>
      cases hcase with
      | quiet he hfacade hstarted => cases he
      | operated op facade he hidle hop ht => cases he
      | rejected i a he hbusy hi ht => cases he
      | acquired i a rest facade he hidle hi hadv ht => cases he
      | advanced j a tr call' k reply' rest facade he hi hbusy hadv ht =>
        rcases he with he | ⟨he, -⟩
        · cases he
          rcases hadv.readsWell with hwell | ⟨rfl, o, rfl⟩
          · rw [readsOfSetup_append] at hwell
            change SetupReadsWell [] (s.setupReads i ++ [⟨call, reply⟩])
            rw [System.setupReads_of_started hi]
            exact hwell
          · subst ht
            obtain ⟨k, hk⟩ := hafter.1.1 hbusy
            rw [System.live_set hi] at hk
            split at hk
            · exact absurd hk (Flow.not_live_ret _ _ _)
            · next hne => exact absurd (hown.live_unique hk hi.live) hne
        · cases he
    | .resumed i (.turn call) reply => trivial
    | .asked _ | .advanced _ | .discarded _ | .closed _ | .operated _ | .refused _ _ => trivial
  · intro hwell m hm
    obtain ⟨hstep, before, after, rfl, hbefore⟩ := hrun.mem_move hm
    have hfresh : Ownership c s := .of_fresh hs
    have hinv : Ownership c m.before ∧ m.before.BusyExact := by
      refine hbefore.invariant (I := fun u => Ownership c u ∧ u.BusyExact)
        ⟨hfresh, .of_idle hs.1 (hfresh.not_live hs.1)⟩ fun m' hm' hstep' h => ?_
      have hcase := h.1.cases hstep'
      exact ⟨h.1.step hcase, .step (hwell m' (List.mem_append_left _ hm')) h.1 hcase h.2⟩
    exact .step (hwell m hm) hinv.1 (hinv.1.cases hstep) hinv.2

/-! ### Set-ups with one source -/

/-- An exception that `source_id` raises. -/
def sourceIdError : Exc := ⟨.given 0, .exception, "builtins.RuntimeError", "no id"⟩

/-- A conversation with one reminder source. -/
def oneSource : Conversation :=
  { plainConversation with reminderSources := [⟨.given 2⟩] }

/-- The id of the only source reads well when the session is set up, and raises in the turn. The
flag has been set and cleared. -/
theorem busy_exact_iff_oneSource : ∃ moves t, oneSource.Run .new moves t ∧
    (∀ m ∈ moves, m.after.BusyExact) ∧ moves.length = 5 ∧ t.facade.busy = false := by
  have hstart : oneSource.Run .new [] .new := .refl
  have hrun := ((((hstart.snoc (.ask (.text "hello") none false _ rfl)).snoc
    (.advance 0 _ rfl)).snoc
    (.resume 0 _ _ (.setup (.isReminderSource ⟨.given 2⟩)) _ (.ok true) rfl)).snoc
    (.resume 0 _ _ (.setup (.sourceId ⟨.given 2⟩)) _ (.ok (.str "clock")) rfl)).snoc
    (.resume 0 _ _ (.turn (.sourceId ⟨.given 2⟩)) _ (.error sourceIdError) rfl)
  refine ⟨_, _, hrun, (busy_exact_iff ⟨rfl, rfl⟩ hrun).2 ?_, rfl, rfl⟩
  have hread : SetupReadsWell [] [⟨.isReminderSource ⟨.given 2⟩, .ok true⟩,
      ⟨.sourceId ⟨.given 2⟩, .ok (.str "clock")⟩] :=
    ⟨rfl, ⟨"clock", by decide⟩, rfl, List.not_mem_nil, trivial⟩
  simp only [List.nil_append, List.cons_append, List.forall_mem_cons]
  exact ⟨trivial, trivial, ⟨rfl, trivial⟩, hread, trivial, fun _ h => absurd h List.not_mem_nil⟩

/-- **The flag stays set.** The id of the only source raises when the session of the first turn is
set up. The flow has ended, and every operation is refused from then on. -/
theorem busy_stuck : ∃ moves t, oneSource.Run .new moves t ∧ System.new.Fresh ∧
    ¬ t.BusyExact ∧ (∀ i, ¬ t.Live i) ∧
      ∀ op : IdleOp, op.run t.facade = .error .conversationBusy := by
  have hstart : oneSource.Run .new [] .new := .refl
  have hrun := (((hstart.snoc (.ask (.text "hello") none false _ rfl)).snoc
    (.advance 0 _ rfl)).snoc
    (.resume 0 _ _ (.setup (.isReminderSource ⟨.given 2⟩)) _ (.ok true) rfl)).snoc
    (.resume 0 _ _ (.setup (.sourceId ⟨.given 2⟩)) _ (.error sourceIdError) rfl)
  obtain ⟨t, ht, a, tr, o, hflows, hbusy⟩ : ∃ t, oneSource.Run .new _ t ∧
      ∃ a tr o, t.flows = [.started a tr (.ret o)] ∧ t.facade.busy = true :=
    ⟨_, hrun, _, _, _, rfl, rfl⟩
  have hlive (i : ℕ) : ¬ t.Live i := by
    rintro ⟨f, hf, hl⟩
    rw [hflows] at hf
    cases List.mem_singleton.1 (List.mem_of_getElem? hf)
    exact hl o rfl
  refine ⟨_, t, ht, ⟨rfl, rfl⟩, fun h => ?_, hlive, fun op => ?_⟩
  · obtain ⟨i, hi⟩ := h.1.1 hbusy
    exact hlive i hi
  · rw [IdleOp.run, if_pos hbusy]

end PurrceptCore
