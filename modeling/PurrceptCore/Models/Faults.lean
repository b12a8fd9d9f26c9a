import PurrceptCore.Models.TurnSpecs

set_option relaxedAutoImplicit false
set_option autoImplicit false

/-!
# Who is to blame for a failure

The code of a turn raises what a collaborator has raised, and errors of its own when a collaborator
breaks its contract. Here each such failure is traced to the reply that has caused it.

## Main definitions

* `PurrceptCore.Fault` — what the code raises because of one reply.
* `PurrceptCore.Blames` — a failure is the fault of a reply in a trace.
* `PurrceptCore.CandidateFailure` — the failures of compiling one candidate.

## Main results

* `PurrceptCore.TurnPromptSession.resolveSources_fails`, `PurrceptCore.PromptCompiler.compile_fails`
  — why resolving and compiling fail.
* `PurrceptCore.TurnPromptSession.compileCandidate_fails` — why a candidate is not compiled.
* `PurrceptCore.Fault.isFault` — the kinds of failures for which a reply is to blame.
-/

namespace PurrceptCore

open Fallible Interaction Routine

/-- What a collaborator has raised. -/
def Raised {α : Type} (reply : Except Exc α) (failure : Failure) : Prop :=
  ∃ error, reply = .error error ∧ failure = .raised error

/-- What a collaborator has raised, or what is raised at the first use of another object that it
has returned. -/
def RaisedInUse {α : Type} (reply : Except Exc (Answer α)) (failure : Failure) : Prop :=
  Raised reply failure ∨ ∃ error, reply = .ok (.other error) ∧ failure = .raised error

/-- What `_count_tokens` and `RequestTokenBudget.count` raise because of what a counter returned or
raised. -/
def CountFailure (counter : String) : Except Exc Count → Failure → Prop
  | .error error, failure => failure = .raised error
  | .ok .awaitable, failure =>
    failure = .typeError (counter ++ " must be synchronous and return an int.")
  | .ok .other, failure => failure = .typeError (counter ++ " must return an int.")
  | .ok (.int value), failure =>
    value < 0 ∧ failure = .valueError (counter ++ " must return a non-negative count.")

/-- What the code raises because of a source id that it has read. -/
def SourceIdFailure (value : Attribute) (failure : Failure) : Prop :=
  requireNonEmptyString value "source_id" = .error failure ∨
    value = .other ∧ failure = .typeError "dynamic_source_ids must contain only strings." ∨
    value = .str "" ∧ failure = .valueError "dynamic_source_ids must not contain empty strings."

/-- What the code raises because of the reply to a call. -/
def Fault : (call : TurnCall) → TurnReply call → Failure → Prop
  | .inputPoll, reply, failure => Raised reply failure ∨ ∃ value, reply = .ok value ∧
    value.messages? = none ∧
      failure = .typeError "input_poll must return a tuple of user Messages."
  | .generate _ _, reply, failure => RaisedInUse reply failure
  | .invokeTool _ _, reply, failure => RaisedInUse reply failure
  | .prepare _ _, reply, failure => Raised reply failure ∨
    reply = .ok .awaitable ∧
      failure = .typeError "ContextPolicy.prepare() must be synchronous." ∨
    reply = .ok .other ∧
      failure = .typeError "ContextPolicy.prepare() must return PreparedContext."
  | .countTokens _ _, reply, failure => CountFailure "TokenCounter" reply failure
  | .countRequest _ _, reply, failure => CountFailure "RequestTokenCounter" reply failure
  | .sourceId _, reply, failure => Raised reply failure ∨
    ∃ value, reply = .ok value ∧ SourceIdFailure value failure
  | .resolve _ _, reply, failure => Raised reply failure ∨
    ∃ resolved, reply = .ok resolved ∧ checkResolved resolved = .error failure
  | .trace _, reply, failure => Raised reply failure ∨
    reply = .ok .awaitable ∧ failure = .typeError "PromptTraceSink must be synchronous." ∨
    reply = .ok .other ∧ failure = .typeError "PromptTraceSink must return None."

/-- The failure is the fault of a reply in the trace. -/
def Blames (tr : TurnTrace) (failure : Failure) : Prop := ∃ x ∈ tr, Fault x.1 x.2 failure

/-- If the outcome is a failure, a reply in the trace is to blame. -/
abbrev OnlyBlames {α : Type} (o : Except Failure α) (_ : ReminderState) (e : TurnTrace) : Prop :=
  ∀ failure, o = .error failure → Blames e failure

lemma Blames.append_left {tr : TurnTrace} {failure : Failure} (h : Blames tr failure)
    (tr' : TurnTrace) : Blames (tr' ++ tr) failure := by
  obtain ⟨x, hx, hfault⟩ := h
  exact ⟨x, List.mem_append_right _ hx, hfault⟩

lemma Blames.append_right {tr : TurnTrace} {failure : Failure} (h : Blames tr failure)
    (tr' : TurnTrace) : Blames (tr ++ tr') failure := by
  obtain ⟨x, hx, hfault⟩ := h
  exact ⟨x, List.mem_append_left _ hx, hfault⟩

/-- A value is no failure. -/
lemma OnlyBlames.ok {α : Type} (a : α) (s : ReminderState) (e : TurnTrace) :
    OnlyBlames (.ok a) s e := by
  intro failure h
  cases h

/-- The last reply is to blame. -/
lemma OnlyBlames.of_fault {α : Type} (call : TurnCall) (reply : TurnReply call)
    {failure : Failure} (s : ReminderState) (h : Fault call reply failure) (e : TurnTrace) :
    OnlyBlames (α := α) (.error failure) s (⟨call, reply⟩ :: e) := by
  intro failure' h'
  cases h'
  exact ⟨_, List.mem_cons_self, h⟩

/-! ### The callbacks -/

lemma emitPromptTrace_fails (sink : Bool) (event : PromptTraceEvent) (s : ReminderState) :
    Spec IsCallback (emitPromptTrace sink event) s OnlyBlames := by
  unfold emitPromptTrace
  split
  · exact Spec.pure (OnlyBlames.ok _ _ _)
  refine Spec.call_bind rfl fun reply => spec_receive (fun result hreply => ?_) fun error hreply =>
    OnlyBlames.of_fault (.trace event) reply s (.inl ⟨error, hreply, rfl⟩) _
  cases result with
  | none => exact Spec.pure (OnlyBlames.ok _ _ _)
  | awaitable =>
    exact Spec.throw (OnlyBlames.of_fault (.trace event) reply s (.inr (.inl ⟨hreply, rfl⟩)) _)
  | other =>
    exact Spec.throw (OnlyBlames.of_fault (.trace event) reply s (.inr (.inr ⟨hreply, rfl⟩)) _)

/-- A count that is not valid fails as it should. -/
lemma validateCount_fails (counter : String) (count : Count) (s : ReminderState)
    {allow : TurnCall → Prop} :
    Spec allow (validateCount counter count) s fun o s' _ =>
      s' = s ∧ ∀ failure, o = .error failure → CountFailure counter (.ok count) failure := by
  cases count with
  | awaitable => exact Spec.throw ⟨rfl, fun _ h => by cases h; rfl⟩
  | other => exact Spec.throw ⟨rfl, fun _ h => by cases h; rfl⟩
  | int value =>
    change Spec _ (if value < 0 then _ else _) _ _
    split
    · next hneg => exact Spec.throw ⟨rfl, fun _ h => by cases h; exact ⟨hneg, rfl⟩⟩
    · exact Spec.pure ⟨rfl, fun _ h => by cases h⟩

lemma countRequest_fails (request : ModelRequest) (model : Model) (s : ReminderState) :
    Spec IsCallback (countRequest request model) s OnlyBlames := by
  refine Spec.call_bind rfl fun reply => spec_receive (fun count hreply => ?_) ?_
  · refine (validateCount_fails _ count s).mono fun o s' e h failure ho => ?_
    refine ⟨_, List.mem_cons_self, ?_⟩
    rw [hreply]
    exact h.2 failure ho
  · intro error hreply
    refine OnlyBlames.of_fault (.countRequest request model) reply s ?_ _
    rw [hreply]
    rfl

/-! ### Resolving the sources -/

lemma resolveReminderSource_fails (source : ReminderSource) (context : ReminderResolutionContext)
    (s : ReminderState) : Spec IsCallback (resolveReminderSource source context) s OnlyBlames := by
  refine Spec.call_bind rfl fun read => spec_receive (fun value hread => ?_) fun error hread =>
    OnlyBlames.of_fault (.sourceId source) read s (.inl ⟨error, hread, rfl⟩) _
  refine Spec.bind (P := fun o s' e => s' = s ∧ e = [] ∧
    o = requireNonEmptyString value "source_id") (Spec.ofExcept ⟨rfl, rfl, rfl⟩) ?_ ?_
  · rintro _ s' e ⟨rfl, rfl, -⟩
    refine Spec.call_bind rfl fun reply => spec_receive (fun resolved hreply => ?_) ?_
    · refine Spec.ofExcept fun failure h => ?_
      exact ⟨⟨_, reply⟩, List.mem_cons_of_mem _ List.mem_cons_self, .inr ⟨resolved, hreply, h⟩⟩
    · intro error hreply failure h
      cases h
      exact ⟨⟨_, reply⟩, List.mem_cons_of_mem _ List.mem_cons_self, .inl ⟨error, hreply, rfl⟩⟩
  · rintro error s' e ⟨rfl, rfl, herror⟩
    exact OnlyBlames.of_fault (.sourceId source) read _ (.inr ⟨value, hread, .inl herror.symm⟩) _

/-- The id of a source that was read in the trace. -/
def HasRead (e : TurnTrace) (source : ReminderSource) (sourceId : Attribute) : Prop :=
  (⟨.sourceId source, .ok sourceId⟩ : Σ call, TurnReply call) ∈ e

namespace TurnPromptSession

variable (session : TurnPromptSession)

/-- Resolving one source: its id was read, or a reply is to blame. -/
lemma resolveSource_fails (context : ReminderResolutionContext) (modelRound : ℕ)
    (source : ReminderSource) (s : ReminderState) :
    Spec IsCallback (session.resolveSource context modelRound source) s fun o s' e =>
      OnlyBlames o s' e ∧ ∀ r, o = .ok r → HasRead e source r.2 := by
  refine Spec.call_bind rfl fun read => spec_receive (fun sourceId hread => ?_) fun error hread =>
    ⟨OnlyBlames.of_fault (.sourceId source) read s (.inl ⟨error, hread, rfl⟩) _,
      fun r h => by cases h⟩
  subst hread
  refine Spec.bind (P := fun o _ e => ∀ failure, o = .error failure →
    Blames (⟨.sourceId source, .ok sourceId⟩ :: e) failure) ?_ ?_ ?_
  · refine (resolveReminderSource_fails source context s).tryCatch ?_ ?_
    · rintro _ _ _ - failure h
      cases h
    · intro error s' e herror
      have hblames : Blames e error := herror error rfl
      split
      · refine Spec.bind (P := fun o _ e' => e' = [] ∧ ∀ failure, o = .error failure →
          SourceIdFailure sourceId failure) (Spec.ofExcept ⟨rfl, fun failure h => .inl ?_⟩) ?_ ?_
        · unfold sourceFailureEvent at h
          rcases bind_eq_error.1 h with hid | ⟨_, -, h⟩
          · exact hid
          · cases h
        · rintro event s'' e' ⟨rfl, -⟩
          refine (emitPromptTrace_fails _ _ _).bind ?_ ?_
          · rintro _ _ e' -
            refine Spec.throw fun failure h => ?_
            cases h
            exact (hblames.append_right _).append_left [_]
          · rintro failure s'' e' h failure' h'
            exact ((h failure' (by cases h'; rfl)).append_left _).append_left [_]
        · rintro failure s'' e' ⟨rfl, h⟩ failure' h'
          exact ⟨_, List.mem_cons_self, .inr ⟨sourceId, rfl, h failure' (by cases h'; rfl)⟩⟩
      · refine Spec.throw fun failure h => ?_
        cases h
        exact (hblames.append_right _).append_left [_]
  · rintro resolved s' e -
    refine (emitPromptTrace_fails _ _ _).bind ?_ ?_
    · rintro _ s'' e' -
      refine Spec.pure ⟨OnlyBlames.ok _ _ _, fun r h => ?_⟩
      cases h
      exact List.mem_cons_self
    · rintro failure s'' e' h
      refine ⟨fun failure' h' => ?_, fun r h' => by cases h'⟩
      exact ((h failure' (by cases h'; rfl)).append_left _).append_left [_]
  · rintro failure s' e h
    refine ⟨fun failure' h' => ?_, fun r h' => by cases h'⟩
    exact h failure' (by cases h'; rfl)

/-- Resolving the sources: the id of each of them was read, or a reply is to blame. -/
lemma resolveSources_fails (context : ReminderResolutionContext) (modelRound : ℕ)
    (sources : List ReminderSource) (s : ReminderState) :
    Spec IsCallback (session.resolveSources context modelRound sources) s fun o s' e =>
      OnlyBlames o s' e ∧ ∀ r, o = .ok r → List.Forall₂ (HasRead e) sources r.2 := by
  induction sources generalizing s with
  | nil =>
    refine Spec.pure ⟨OnlyBlames.ok _ _ _, fun r h => ?_⟩
    cases h
    exact .nil
  | cons source sources ih =>
    refine (session.resolveSource_fails context modelRound source s).bind ?_ ?_
    · rintro ⟨resolved, sourceId⟩ s' e ⟨-, hread⟩
      refine (ih s').bind ?_ ?_
      · rintro ⟨reminders, sourceIds⟩ s'' e' ⟨-, hreads⟩
        refine Spec.pure ⟨OnlyBlames.ok _ _ _, fun r h => ?_⟩
        cases h
        refine .cons (List.mem_append_left _ (hread _ rfl)) ?_
        refine (hreads _ rfl).imp fun source id hid => ?_
        exact List.mem_append_right _ (List.mem_append_left _ hid)
      · rintro failure s'' e' ⟨h, -⟩
        refine ⟨fun failure' h' => ?_, fun r h' => by cases h'⟩
        exact (h failure' (by cases h'; rfl)).append_left _
    · rintro failure s' e ⟨h, -⟩
      refine ⟨fun failure' h' => ?_, fun r h' => by cases h'⟩
      exact h failure' (by cases h'; rfl)

end TurnPromptSession

/-! ### Compiling a candidate -/

lemma exists_hasRead {e : TurnTrace} {sources : List ReminderSource} {ids : List Attribute}
    (h : List.Forall₂ (HasRead e) sources ids) {id : Attribute} (hid : id ∈ ids) :
    ∃ source, HasRead e source id := by
  induction h with
  | nil => cases hid
  | cons hread _ ih =>
    rcases List.mem_cons.1 hid with rfl | hid
    · exact ⟨_, hread⟩
    · exact ih hid

lemma stringsOf_ok {ids : List Attribute} {strings : List String}
    (h : stringsOf ids = .ok strings) : ids = strings.map .str := by
  induction ids generalizing strings with
  | nil => cases h; rfl
  | cons id ids ih =>
    cases id with
    | other => cases h
    | str value =>
      rw [stringsOf] at h
      obtain ⟨rest, hids, h⟩ := bind_eq_ok.1 h
      cases h
      rw [List.map_cons, ih hids]

lemma stringsOf_error {ids : List Attribute} {failure : Failure}
    (h : stringsOf ids = .error failure) :
    .other ∈ ids ∧ failure = .typeError "dynamic_source_ids must contain only strings." := by
  induction ids with
  | nil => cases h
  | cons id ids ih =>
    cases id with
    | other => cases h; exact ⟨List.mem_cons_self, rfl⟩
    | str value =>
      rw [stringsOf] at h
      rcases bind_eq_error.1 h with hids | ⟨_, -, h⟩
      · exact ⟨List.mem_cons_of_mem _ (ih hids).1, (ih hids).2⟩
      · cases h

lemma nonEmptyOf_ok {strings : List String} {ids : List NonEmptyString}
    (h : nonEmptyOf strings = .ok ids) : strings = ids.map Subtype.val := by
  induction strings generalizing ids with
  | nil => cases h; rfl
  | cons value strings ih =>
    rw [nonEmptyOf] at h
    split at h
    · cases h
    · obtain ⟨rest, hrest, h⟩ := bind_eq_ok.1 h
      cases h
      rw [List.map_cons, ← ih hrest]

lemma nonEmptyOf_error {strings : List String} {failure : Failure}
    (h : nonEmptyOf strings = .error failure) : "" ∈ strings ∧
      failure = .valueError "dynamic_source_ids must not contain empty strings." := by
  induction strings with
  | nil => cases h
  | cons value strings ih =>
    rw [nonEmptyOf] at h
    split at h
    · next hempty =>
      cases h
      exact ⟨hempty ▸ List.mem_cons_self, rfl⟩
    · rcases bind_eq_error.1 h with hrest | ⟨_, -, h⟩
      · exact ⟨List.mem_cons_of_mem _ (ih hrest).1, (ih hrest).2⟩
      · cases h

/-- Source ids that do not pass: a reply is to blame, or two of them are equal. -/
lemma normalizeSourceIds_fails {e : TurnTrace} {sources : List ReminderSource}
    {ids : List Attribute} {failure : Failure} (hreads : List.Forall₂ (HasRead e) sources ids)
    (h : normalizeSourceIds ids = .error failure) :
    Blames e failure ∨
      failure = .valueError "dynamic_source_ids must be unique." ∧ ¬ ids.Nodup := by
  have hread {id : Attribute} (hid : id ∈ ids) (hbad : SourceIdFailure id failure) :
      Blames e failure := by
    obtain ⟨source, hsource⟩ := exists_hasRead hreads hid
    exact ⟨_, hsource, .inr ⟨id, rfl, hbad⟩⟩
  unfold normalizeSourceIds at h
  rcases bind_eq_error.1 h with hstrings | ⟨strings, hstrings, hchecks⟩
  · obtain ⟨hmem, rfl⟩ := stringsOf_error hstrings
    exact .inl (hread hmem (.inr (.inl ⟨rfl, rfl⟩)))
  obtain rfl := stringsOf_ok hstrings
  rcases bind_eq_error.1 hchecks with hnonempty | ⟨nonEmpty, hnonempty, hunique⟩
  · obtain ⟨hmem, rfl⟩ := nonEmptyOf_error hnonempty
    exact .inl (hread (List.mem_map_of_mem hmem) (.inr (.inr ⟨rfl, rfl⟩)))
  obtain rfl := nonEmptyOf_ok hnonempty
  split at hunique
  · cases hunique
  · next hnodup =>
    cases hunique
    refine .inr ⟨rfl, fun hids => hnodup ?_⟩
    exact List.Nodup.of_map _ (List.Nodup.of_map _ hids)

/-- A clash is a clash of a key. -/
lemma validateUniqueReminderKeys_error {seen : List NonEmptyString}
    {reminders : List SystemReminder} {failure : Failure}
    (h : validateUniqueReminderKeys seen reminders = .error failure) :
    ∃ key ∈ reminders.filterMap SystemReminder.key, failure = keyClash key := by
  induction reminders generalizing seen with
  | nil => cases h
  | cons r rs ih =>
    rw [validateUniqueReminderKeys] at h
    cases hkey : r.key with
    | none =>
      simp only [hkey] at h
      rw [List.filterMap_cons_none hkey]
      exact ih h
    | some key =>
      simp only [hkey] at h
      rw [List.filterMap_cons_some hkey]
      split at h
      · cases h
        exact ⟨key, List.mem_cons_self, rfl⟩
      · obtain ⟨key', hmem, hfailure⟩ := ih h
        exact ⟨key', List.mem_cons_of_mem _ hmem, hfailure⟩

/-- Keys that pass are unique and new. -/
lemma validateUniqueReminderKeys_ok {seen : List NonEmptyString} {reminders : List SystemReminder}
    (h : validateUniqueReminderKeys seen reminders = .ok ()) :
    Keyed.Unique SystemReminder.key reminders ∧
      ∀ key ∈ reminders.filterMap SystemReminder.key, key ∉ seen := by
  induction reminders generalizing seen with
  | nil => exact ⟨List.nodup_nil, fun _ hkey => absurd hkey List.not_mem_nil⟩
  | cons r rs ih =>
    rw [validateUniqueReminderKeys] at h
    cases hkey : r.key with
    | none =>
      simp only [hkey] at h
      rw [Keyed.Unique, List.filterMap_cons_none hkey]
      exact ih h
    | some key =>
      simp only [hkey] at h
      split at h
      · cases h
      · next hnew =>
        obtain ⟨hunique, hrest⟩ := ih h
        rw [Keyed.Unique, List.filterMap_cons_some hkey, List.nodup_cons, List.forall_mem_cons]
        refine ⟨⟨fun hmem => hrest key hmem List.mem_cons_self, hunique⟩, hnew, fun k hk hmem => ?_⟩
        exact hrest k hk (List.mem_cons_of_mem _ hmem)

/-- The failures of compiling one candidate: a reply is to blame, sources have equal ids, a source
has resolved a key that is taken, or the round or the request is refused. -/
inductive CandidateFailure (session : TurnPromptSession) (modelRound : ℕ) (candidate : PromptDraft)
    (e : TurnTrace) : Failure → Prop
  | fault (failure : Failure) (h : Blames e failure) :
      CandidateFailure session modelRound candidate e failure
  | sourceIds (ids : List Attribute) (reads : List.Forall₂ (HasRead e) session.sources ids)
      (h : ¬ ids.Nodup) :
      CandidateFailure session modelRound candidate e
        (.valueError "dynamic_source_ids must be unique.")
  | reminderKey (key : NonEmptyString)
      (h : key ∈ (resolutions e).flatten.filterMap SystemReminder.key) :
      CandidateFailure session modelRound candidate e (keyClash key)
  | modelRound (h : modelRound = 0) :
      CandidateFailure session modelRound candidate e
        (.valueError "model_round must be greater than zero.")
  | request (failure : Failure) (reminders : List SystemReminder)
      (hunique : Keyed.Unique SystemReminder.key reminders)
      (h : ModelRequest.make candidate.history.messages candidate.instructions reminders
        candidate.tools candidate.settings candidate.cache candidate.continuation
        candidate.metadata candidate.providerOptions = .error failure) :
      CandidateFailure session modelRound candidate e failure

/-- **Why compiling fails**, after the sources have resolved `dynamic`. -/
lemma PromptCompiler.compile_fails {compiler : PromptCompiler} {session : TurnPromptSession}
    {candidate : PromptDraft} {stored dynamic : List SystemReminder} {ids : List Attribute}
    {modelRound : ℕ} {e : TurnTrace} {failure : Failure}
    (hstored : Keyed.Unique SystemReminder.key stored)
    (hreads : List.Forall₂ (HasRead e) session.sources ids)
    (hdynamic : (resolutions e).flatten = dynamic)
    (h : compiler.compile candidate stored [] dynamic ids modelRound = .error failure) :
    CandidateFailure session modelRound candidate e failure := by
  unfold compile at h
  by_cases hround : modelRound = 0
  · rw [if_pos hround] at h
    cases h
    exact .modelRound hround
  rw [if_neg hround] at h
  have hentries : (reminderEntries stored [] dynamic).map Prod.fst = stored ++ dynamic := by
    simp [reminderEntries, Function.comp_def]
  rcases bind_eq_error.1 h with hids | ⟨sourceIds, -, h⟩
  · rcases normalizeSourceIds_fails hreads hids with hblames | ⟨rfl, hdup⟩
    · exact .fault _ hblames
    · exact .sourceIds ids hreads hdup
  rcases bind_eq_error.1 h with hkeys | ⟨_, hkeys, h⟩
  · rw [hentries] at hkeys
    obtain ⟨seen, hseen⟩ := @validateUniqueReminderKeys_append [] stored dynamic hstored
      fun _ _ => List.not_mem_nil
    rw [hseen] at hkeys
    obtain ⟨key, hkey, rfl⟩ := validateUniqueReminderKeys_error hkeys
    exact .reminderKey key (hdynamic ▸ hkey)
  rcases bind_eq_error.1 h with hrequest | ⟨_, -, h⟩
  · refine .request _ _ ?_ hrequest
    have hunique := (validateUniqueReminderKeys_ok hkeys).1
    refine (List.Perm.nodup_iff ?_).1 hunique
    exact ((List.perm_insertionSort _ _).map _).symm.filterMap _
  · cases h

namespace TurnPromptSession

variable {session : TurnPromptSession}

/-- The active reminders have unique keys. -/
lemma activeReminders_unique (hunique : Keyed.Unique SystemReminder.key session.baseReminders)
    (s : ReminderState) : Keyed.Unique SystemReminder.key (session.activeReminders s) :=
  List.Nodup.sublist (List.filter_sublist.filterMap _) hunique

/-- **Why a candidate is not compiled.** -/
theorem compileCandidate_fails
    (hunique : Keyed.Unique SystemReminder.key session.baseReminders)
    (context : ReminderResolutionContext) (modelRound : ℕ) (candidate : PromptDraft)
    (s : ReminderState) :
    Spec IsCallback (session.compileCandidate context modelRound candidate) s fun o _ e =>
      ∀ failure, o = .error failure → CandidateFailure session modelRound candidate e failure := by
  refine Spec.bind (P := fun o s' e => s' = s ∧ e = [] ∧ o = context.replace candidate.history
    modelRound) (Spec.ofExcept ⟨rfl, rfl, rfl⟩) ?_ ?_
  · rintro resolutionContext s' e ⟨rfl, rfl, -⟩
    refine ((session.resolveSources_spec resolutionContext modelRound session.sources _).and
      (session.resolveSources_fails resolutionContext modelRound session.sources _)).bind ?_ ?_
    · rintro ⟨dynamic, sourceIds⟩ s' e ⟨⟨rfl, hresolved⟩, -, hreads⟩
      refine Spec.get_bind (Spec.ofExcept fun failure h => ?_)
      rw [List.nil_append, List.append_nil]
      exact PromptCompiler.compile_fails (activeReminders_unique hunique _) (hreads _ rfl)
        (hresolved _ rfl).2 h
    · rintro error s' e ⟨-, hblames, -⟩ failure h
      exact .fault _ (hblames failure (by cases h; rfl))
  · rintro error s' e ⟨rfl, rfl, herror⟩ failure h
    cases h
    unfold ReminderResolutionContext.replace at herror
    split at herror
    · cases herror
    · next hround =>
      cases herror
      exact .modelRound (by omega)

end TurnPromptSession

/-! ### Kinds of failures -/

/-- `ContextBudgetExceededError`. -/
def Failure.IsBudget (failure : Failure) : Prop :=
  ∃ maxTokens required, failure = .contextBudgetExceeded maxTokens required

/-- The texts of the value errors for which a reply is to blame. -/
def faultTexts : List String := [
  "source_id must not be empty.",
  "dynamic_source_ids must not contain empty strings.",
  "TokenCounter must return a non-negative count.",
  "RequestTokenCounter must return a non-negative count."]

/-- What replies are to blame for: what a collaborator has raised, a type error, or a value error
with one of these texts. -/
inductive Failure.IsFault : Failure → Prop
  | raised (error : Exc) : IsFault (.raised error)
  | typeError (text : String) : IsFault (.typeError text)
  | valueError (text : String) (h : text ∈ faultTexts) : IsFault (.valueError text)

lemma Raised.isFault {α : Type} {reply : Except Exc α} {failure : Failure}
    (h : Raised reply failure) : failure.IsFault := by
  obtain ⟨error, -, rfl⟩ := h
  exact .raised error

lemma RaisedInUse.isFault {α : Type} {reply : Except Exc (Answer α)} {failure : Failure}
    (h : RaisedInUse reply failure) : failure.IsFault := by
  rcases h with h | ⟨error, -, rfl⟩
  · exact h.isFault
  · exact .raised error

lemma CountFailure.isFault {counter : String} {reply : Except Exc Count} {failure : Failure}
    (h : CountFailure counter reply failure)
    (htext : counter ++ " must return a non-negative count." ∈ faultTexts) : failure.IsFault := by
  cases reply with
  | error error =>
    cases h
    exact .raised error
  | ok count =>
    cases count with
    | awaitable =>
      cases h
      exact .typeError _
    | other =>
      cases h
      exact .typeError _
    | int value =>
      obtain ⟨-, rfl⟩ := h
      exact .valueError _ htext

lemma SourceIdFailure.isFault {value : Attribute} {failure : Failure}
    (h : SourceIdFailure value failure) : failure.IsFault := by
  rcases h with h | ⟨-, rfl⟩ | ⟨-, rfl⟩
  · cases value with
    | other =>
      cases h
      exact .typeError _
    | str value =>
      rw [requireNonEmptyString] at h
      split at h
      · cases h
        exact .valueError _ (by decide)
      · cases h
  · exact .typeError _
  · exact .valueError _ (by decide)

/-- An item that is no reminder is refused with a type error. -/
lemma collectReminders_error {items : List ResolvedItem} {failure : Failure}
    (h : collectReminders items = .error failure) : ∃ text, failure = .typeError text := by
  induction items generalizing failure with
  | nil => cases h
  | cons item items ih =>
    cases item with
    | awaitable =>
      cases h
      exact ⟨_, rfl⟩
    | other =>
      cases h
      exact ⟨_, rfl⟩
    | reminder reminder =>
      rw [collectReminders] at h
      rcases bind_eq_error.1 h with hrest | ⟨_, -, h⟩
      · exact ih hrest
      · cases h

/-- What a source resolves is refused with a type error. -/
lemma checkResolved_error {resolved : Resolved} {failure : Failure}
    (h : checkResolved resolved = .error failure) : ∃ text, failure = .typeError text := by
  cases resolved with
  | awaitable =>
    cases h
    exact ⟨_, rfl⟩
  | notIterable =>
    cases h
    exact ⟨_, rfl⟩
  | items items => exact collectReminders_error h

/-- **What replies are to blame for**, call by call. -/
theorem Fault.isFault {call : TurnCall} {reply : TurnReply call} {failure : Failure}
    (h : Fault call reply failure) : failure.IsFault := by
  cases call with
  | generate model request => exact RaisedInUse.isFault h
  | invokeTool tool call => exact RaisedInUse.isFault h
  | countTokens messages model => exact CountFailure.isFault h (by decide)
  | countRequest request model => exact CountFailure.isFault h (by decide)
  | inputPoll =>
    rcases h with hraised | ⟨value, -, -, rfl⟩
    · exact hraised.isFault
    · exact .typeError _
  | prepare state model =>
    rcases h with hraised | ⟨-, rfl⟩ | ⟨-, rfl⟩
    · exact hraised.isFault
    · exact .typeError _
    · exact .typeError _
  | sourceId source =>
    rcases h with hraised | ⟨value, -, hvalue⟩
    · exact hraised.isFault
    · exact hvalue.isFault
  | resolve source context =>
    rcases h with hraised | ⟨resolved, -, hresolved⟩
    · exact hraised.isFault
    · obtain ⟨text, rfl⟩ := checkResolved_error hresolved
      exact .typeError text
  | trace event =>
    rcases h with hraised | ⟨-, rfl⟩ | ⟨-, rfl⟩
    · exact hraised.isFault
    · exact .typeError _
    · exact .typeError _

/-- A value error for which a reply is to blame has one of the texts. -/
lemma Fault.text {call : TurnCall} {reply : TurnReply call} {text : String}
    (h : Fault call reply (.valueError text)) : text ∈ faultTexts := by
  cases h.isFault with
  | valueError _ htext => exact htext

/-- No reply is to blame for an exceeded budget. -/
lemma Blames.not_budget {tr : TurnTrace} {failure : Failure} (h : Blames tr failure) :
    ¬ failure.IsBudget := by
  obtain ⟨x, -, hfault⟩ := h
  rintro ⟨_, _, rfl⟩
  cases hfault.isFault

/-- A candidate that is not compiled has not exceeded a budget. -/
lemma CandidateFailure.not_budget {session : TurnPromptSession} {modelRound : ℕ}
    {candidate : PromptDraft} {e : TurnTrace} {failure : Failure}
    (h : CandidateFailure session modelRound candidate e failure) : ¬ failure.IsBudget := by
  cases h with
  | fault _ h => exact h.not_budget
  | request _ reminders hunique h =>
    rintro ⟨_, _, rfl⟩
    unfold ModelRequest.make at h
    split_ifs at h <;> cases h
  | _ =>
    rintro ⟨_, _, h⟩
    cases h

end PurrceptCore
