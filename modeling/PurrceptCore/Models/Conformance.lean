import PurrceptCore.Models.Generation

set_option relaxedAutoImplicit false
set_option autoImplicit false

/-!
# Conformance scenarios

`_run_scenario` (`conformance.py`), which lets a backend answer the request of a scenario and checks
the response and the events that were reported as progress.

## Main definitions

* `PurrceptCore.BackendConformanceScenario`, `PurrceptCore.BackendConformanceStep` — what is
  expected of a backend.
* `PurrceptCore.runScenario` — one scenario.
* `PurrceptCore.BackendRan` — how a backend has run, given what `emit` does.
* `PurrceptCore.Conforms` — what a backend does that streams the expected response.

## Main results

* `PurrceptCore.runScenario_streaming` — a streaming scenario accepts exactly the backends that
  stream the expected response.

## Design

* A model comes with what its backend does in each generation, since an adapter may keep a state
  from one to the next.
* A scenario that ends gives `some` outcome. The progress callback is `progress.append`.
* The checks look into objects of which only the identity is known elsewhere. What they see there is
  an `Inspection`.
-/

namespace PurrceptCore

open Interaction Routine

/-! ### The code -/

/-- A count that `TokenUsage` accepts. -/
abbrev TokenCount : Type := { count : ℤ // 0 ≤ count }

/-- `TokenUsage`. -/
structure TokenUsage where
  inputTokens : TokenCount
  outputTokens : TokenCount
  cachedInputTokens : TokenCount
  cacheWriteInputTokens : TokenCount
  reasoningTokens : TokenCount

/-- What the checks see in other objects. -/
structure Inspection where
  /-- `isinstance(event, TextDelta)`. -/
  isTextDelta : ObjId → Bool
  /-- `ModelResponse.usage`. -/
  usage : ModelResponse → Option TokenUsage
  /-- `repr` of a response. -/
  reprResponse : ModelResponse → String
  /-- `repr` of an exception. -/
  reprError : Exc → String

/-- `BackendConformanceStep`. -/
structure BackendConformanceStep where
  request : ModelRequest
  expectedResponse : ModelResponse

/-- `BackendConformanceScenario`. -/
structure BackendConformanceScenario where
  modelName : NonEmptyString
  request : ModelRequest
  expectedResponse : Option ModelResponse
  expectedError : Option Exc
  streaming : Bool
  followUpSteps : List BackendConformanceStep
  one : expectedResponse.isNone ≠ expectedError.isNone
  streaming_response : streaming = true → expectedResponse.isSome = true
  steps_response : followUpSteps ≠ [] → expectedResponse.isSome = true ∧ streaming = false

/-- A model, with what its backend does in the generation of a given number. -/
structure Adapter where
  model : Model
  backend : ℕ → ModelBackend

/-- What a factory gives in the end. -/
inductive Built
  | model (adapter : Adapter)
  | other

/-- What a factory returns. -/
inductive FactoryResult
  | value (built : Built)
  | awaitable (result : Except Exc Built)

/-- Parts of a scenario. -/
abbrev ScenarioM (α : Type) : Type := ExceptT Failure Option α

/-- What has succeeded, or raised. -/
def settled {α : Type} (result : Except Failure α) : ScenarioM α := ExceptT.mk (some result)

lemma settled_ok_bind {α β : Type} (a : α) (f : α → ScenarioM β) :
    settled (.ok a) >>= f = f a := rfl

/-- An exception of the factory or of an adapter. -/
def raiseAs {α : Type} (result : Except Exc α) : Except Failure α := result.mapError .raised

/-- `_require_model`. -/
def requireModel : Built → Except Failure Adapter
  | .model adapter => .ok adapter
  | .other => .error
    (.typeError "factory must return a Model or an awaitable yielding a Model.")

/-- `_build_model`, given what the call of the factory does. -/
def buildModel (factory : Except Exc FactoryResult) : Except Failure Adapter := do
  match ← raiseAs factory with
  | .value built => requireModel built
  | .awaitable result => requireModel (← raiseAs result)

/-- `Model.generate`. -/
def Model.generate (self : Model) (request : ModelRequest) : Generate := ⟨self, request, true⟩

/-- `_assert_token_count`, for an `int`. -/
def assertTokenCount (name : String) (value : ℤ) : Except Failure Unit :=
  if value < 0 then
    .error (.assertionError ("backend response " ++ name ++ " must be a non-negative int."))
  else .ok ()

/-- `_assert_complete_stream`. -/
def assertCompleteStream (inspection : Inspection) (progress : List ModelStreamEvent) :
    Except Failure Unit :=
  if !progress.head?.any ModelStreamEvent.isStarted then
    .error (.assertionError "streaming backend must emit ModelStreamStarted first.")
  else if !progress.getLast?.any ModelStreamEvent.isCompleted then
    .error (.assertionError "streaming backend must emit ModelStreamCompleted last.")
  else if !progress.tail.dropLast.any fun event =>
      match event with
      | .other object => inspection.isTextDelta object
      | _ => false then
    .error (.assertionError "streaming backend must emit at least one TextDelta.")
  else .ok ()

/-- `_assert_response_invariants`. -/
def assertResponseInvariants (inspection : Inspection) (response : ModelResponse) :
    Except Failure Unit :=
  if response.message.role ≠ .assistant then
    .error (.assertionError "backend response message role must be assistant.")
  else
    match inspection.usage response with
    | none => .ok ()
    | some usage => do
      assertTokenCount "input_tokens" usage.inputTokens.1
      assertTokenCount "output_tokens" usage.outputTokens.1
      assertTokenCount "cached_input_tokens" usage.cachedInputTokens.1
      assertTokenCount "cache_write_input_tokens" usage.cacheWriteInputTokens.1
      assertTokenCount "reasoning_tokens" usage.reasoningTokens.1

section Scenario

variable [BEq ModelResponse] (inspection : Inspection)

/-- `InlineExecutor().execute(model.generate(request), context)`, with the events that are appended
to `progress`. -/
def Adapter.execute (adapter : Adapter) (number : ℕ) (request : ModelRequest) :
    Option (Except Exc ModelResponse × List ModelStreamEvent) :=
  (((adapter.model.generate request).execute (adapter.backend number) .new).record
    fun _ => .ok ()).map fun result => (result.1.1, result.2)

/-- `_assert_expected_error`, given how the generation has ended. -/
def assertExpectedError (expected : Exc) : Except Exc ModelResponse → Except Failure Unit
  | .ok _ => .error (.assertionError
    ("backend did not raise the supplied " ++ inspection.reprError expected ++ "."))
  | .error error =>
    if error.cls = .cancelledError then
      if error = expected then .ok () else .error (.raised error)
    else if error.cls.isException then
      if error = expected then .ok ()
      else .error (.assertionError ("backend raised " ++ inspection.reprError error ++
        "; expected the supplied " ++ inspection.reprError expected ++ " unchanged."))
    else .error (.raised error)

/-- The checks that a response is the expected one. -/
def checkResponse (expected : ModelResponse) (response : ModelResponse) :
    Except Failure Unit := do
  assertResponseInvariants inspection response
  if response != expected then
    .error (.assertionError ("backend returned " ++ inspection.reprResponse response ++
      "; expected " ++ inspection.reprResponse expected ++ "."))
  else .ok ()

/-- The follow-up steps of a scenario, the first of which has the given number. -/
def runSteps (adapter : Adapter) : ℕ → List BackendConformanceStep → ScenarioM Unit
  | _, [] => pure ()
  | number, step :: steps => do
    let (outcome, _) ← ExceptT.lift (adapter.execute number step.request)
    let response ← settled (raiseAs outcome)
    settled (checkResponse inspection step.expectedResponse response)
    runSteps adapter (number + 1) steps

/-- `_run_scenario`, given what the call of the factory does. -/
def runScenario (scenario : BackendConformanceScenario) (factory : Except Exc FactoryResult) :
    ScenarioM Unit := do
  let adapter ← settled (buildModel factory)
  if adapter.model.name ≠ scenario.modelName then
    throw (.assertionError ("factory returned model name " ++ pyRepr adapter.model.name ++
      "; expected " ++ pyRepr scenario.modelName ++ "."))
  let (outcome, progress) ← ExceptT.lift (adapter.execute 0 scenario.request)
  match scenario.expectedError, scenario.expectedResponse with
  | some expected, _ => settled (assertExpectedError inspection expected outcome)
  | none, some expected => do
    let response ← settled (raiseAs outcome)
    settled (checkResponse inspection expected response)
    if scenario.streaming then settled (assertCompleteStream inspection progress)
    runSteps inspection adapter 1 scenario.followUpSteps
  | none, none => pure ()

end Scenario

/-! ### Backends that conform -/

/-- How a backend has run: it has made the attempts to emit, each of which has raised the first
violation, once there was one, and it has ended. -/
structure BackendRan (backend : Prog StreamObject EmitReply (Except Exc Generated))
    (attempts : Trace StreamObject EmitReply) (ending : Except Exc Generated) : Prop where
  exec : Exec backend attempts (.ret ending)
  replies : ∀ before x after, attempts = before ++ x :: after → ∃ events violation,
    AmountsTo ((before ++ [x]).map Sigma.fst) events violation ∧ x.2 = emission violation

/-- **A backend that conforms** has returned a response that equals the expected one. It has emitted
one `ModelStreamStarted` first, one `ModelStreamCompleted` with an equal response last, and in
between other stream events, of which at least one is a `TextDelta`. -/
def Conforms [BEq ModelResponse] (inspection : Inspection) (expected : ModelResponse)
    (objects : List StreamObject) (ending : Except Exc Generated) : Prop :=
  ∃ response started completed, ∃ between : List ObjId,
    ending = .ok (.response response) ∧ (response == expected) = true ∧
    objects = .event (.started started) :: between.map (fun object => .event (.other object)) ++
      [.event (.completed completed)] ∧
    (completed.response == response) = true ∧ ∃ delta ∈ between, inspection.isTextDelta delta = true

/-- An object violates the protocol in one way. -/
lemma Violates.unique {events : List ModelStreamEvent} {object : StreamObject} {text text' : String}
    (h : Violates events object text) (h' : Violates events object text') : text = text' := by
  have hcontra (hcompleted : ∃ e ∈ events, e.isCompleted = true)
      (hopen : ∀ e ∈ events, e.isCompleted = false) : False := by
    obtain ⟨e, he, htrue⟩ := hcompleted
    rw [hopen e he] at htrue
    cases htrue
  cases h with
  | notEvent object =>
    cases h'
    rfl
  | afterCompleted event hcompleted =>
    cases h' with
    | afterCompleted _ _ => rfl
    | notFirst _ hopen _ _ => exact (hcontra hcompleted hopen).elim
  | notFirst event hopen _ _ =>
    cases h' with
    | afterCompleted _ hcompleted => exact (hcontra hcompleted hopen).elim
    | notFirst _ _ _ _ => rfl

/-- Of two violations after streams, the one after the shorter stream is the first of all. -/
lemma Violates.unique_of_append {events events' : List ModelStreamEvent}
    {object object' : StreamObject} {objects objects' rest : List StreamObject}
    {text text' : String} (h : Violates events object text) (h' : Violates events' object' text')
    (hstream : IsStream events')
    (hbefore : events'.map StreamObject.event = events.map StreamObject.event ++ rest)
    (hafter : object :: objects = rest ++ object' :: objects') : text = text' := by
  have hinj : Function.Injective StreamObject.event := fun _ _ h => StreamObject.event.inj h
  cases rest with
  | nil =>
    rw [List.append_nil] at hbefore
    rw [List.nil_append, List.cons.injEq] at hafter
    obtain rfl := List.map_injective_iff.2 hinj hbefore
    obtain ⟨rfl, -⟩ := hafter
    exact h.unique h'
  | cons first rest =>
    rw [List.cons_append, List.cons.injEq] at hafter
    obtain ⟨rfl, -⟩ := hafter
    exact (h.not_append hbefore hstream).elim

/-- Objects amount to one thing. -/
lemma AmountsTo.unique {objects : List StreamObject} {events events' : List ModelStreamEvent}
    {violation violation' : Option Exc} (h : AmountsTo objects events violation)
    (h' : AmountsTo objects events' violation') : violation = violation' := by
  cases h with
  | stream _ hstream => exact (h'.eq_none rfl hstream).1.symm
  | violation _ object objects text hstream hviolates =>
    generalize hobjects : events.map StreamObject.event ++ object :: objects = all at h'
    cases h' with
    | stream _ hstream' => exact (hviolates.not_append hobjects.symm hstream').elim
    | violation _ object' objects' text' hstream' hviolates' =>
      rcases List.append_eq_append_iff.1 hobjects with
        ⟨rest, hbefore, hafter⟩ | ⟨rest, hbefore, hafter⟩
      · rw [hviolates.unique_of_append hviolates' hstream' hbefore hafter]
      · rw [hviolates'.unique_of_append hviolates hstream hbefore hafter]

/-- A backend runs in one way. -/
lemma BackendRan.unique {backend : Prog StreamObject EmitReply (Except Exc Generated)}
    {attempts attempts' : Trace StreamObject EmitReply} {ending ending' : Except Exc Generated}
    (h : BackendRan backend attempts ending) (h' : BackendRan backend attempts' ending') :
    attempts = attempts' ∧ ending = ending' := by
  refine Exec.unique (Q := fun before object reply => ∃ events violation,
    AmountsTo (before.map Sigma.fst ++ [object]) events violation ∧ reply = emission violation)
    (fun tr object reply reply' hreply hreply' => ?_) h.exec h'.exec
    (fun before x after heq => ?_) fun before x after heq => ?_
  · obtain ⟨events, violation, hamounts, rfl⟩ := hreply
    obtain ⟨events', violation', hamounts', rfl⟩ := hreply'
    rw [hamounts.unique hamounts']
  · have hreply := h.replies before x after heq
    rwa [List.map_append] at hreply
  · have hreply := h'.replies before x after heq
    rwa [List.map_append] at hreply

/-- Events that are neither the start nor the completion of a stream. -/
lemma exists_others {events : List ModelStreamEvent}
    (hstarted : ∀ e ∈ events, e.isStarted = false)
    (hcompleted : ∀ e ∈ events, e.isCompleted = false) :
    ∃ others : List ObjId, events = others.map .other := by
  induction events with
  | nil => exact ⟨[], rfl⟩
  | cons event events ih =>
    rw [List.forall_mem_cons] at hstarted hcompleted
    obtain ⟨others, rfl⟩ := ih hstarted.2 hcompleted.2
    cases event with
    | started object => cases hstarted.1
    | completed event => cases hcompleted.1
    | other object => exact ⟨object :: others, rfl⟩

/-- Events with a start, a completion and others in between are a stream. -/
lemma isStream_started (started : ObjId) (between : List ObjId)
    (completed : ModelStreamCompleted) :
    IsStream (.started started :: between.map .other ++ [.completed completed]) where
  started e he := by
    rcases List.mem_append.1 he with hother | hlast
    · obtain ⟨object, -, rfl⟩ := List.mem_map.1 hother
      rfl
    · rw [List.mem_singleton.1 hlast]
      rfl
  completed e he := by
    rw [List.dropLast_concat] at he
    rcases List.mem_cons.1 he with rfl | hother
    · rfl
    · obtain ⟨object, -, rfl⟩ := List.mem_map.1 hother
      rfl

/-- The events of a stream that begins with a start and ends with a completion. -/
lemma IsStream.eq_started_completed {events : List ModelStreamEvent} (h : IsStream events)
    (hhead : events.head?.any ModelStreamEvent.isStarted = true)
    (hlast : events.getLast?.any ModelStreamEvent.isCompleted = true) :
    ∃ started completed, ∃ between : List ObjId,
      events = .started started :: between.map .other ++ [.completed completed] := by
  obtain ⟨first, hfirst, hstarted⟩ := (Option.any_eq_true _ _).1 hhead
  obtain ⟨last, hlast, hcompleted⟩ := (Option.any_eq_true _ _).1 hlast
  obtain ⟨before, rfl⟩ := List.getLast?_eq_some_iff.1 hlast
  cases last with
  | started object => cases hcompleted
  | other object => cases hcompleted
  | completed completed =>
    cases before with
    | nil =>
      cases hfirst
      cases hstarted
    | cons event middle =>
      cases hfirst
      cases first with
      | completed event => cases hstarted
      | other object => cases hstarted
      | started started =>
        have hmiddle : ∃ others : List ObjId, middle = others.map .other := by
          refine exists_others (fun e he => h.started e (List.mem_append_left _ he)) fun e he => ?_
          refine h.completed e ?_
          rw [List.dropLast_concat]
          exact List.mem_cons_of_mem _ he
        obtain ⟨between, rfl⟩ := hmiddle
        exact ⟨started, completed, between, rfl⟩

/-- What the checks accept of the events of a stream. -/
lemma assertCompleteStream_eq_ok {inspection : Inspection} {events : List ModelStreamEvent}
    (h : IsStream events) : assertCompleteStream inspection events = .ok () ↔
      ∃ started completed, ∃ between : List ObjId,
        events = .started started :: between.map .other ++ [.completed completed] ∧
          ∃ delta ∈ between, inspection.isTextDelta delta = true := by
  constructor
  · intro hok
    unfold assertCompleteStream at hok
    split at hok
    · cases hok
    · next hhead =>
      split at hok
      · cases hok
      · next hlast =>
        split at hok
        · cases hok
        · next hany =>
          rw [Bool.not_eq_true', Bool.not_eq_false] at hhead hlast hany
          obtain ⟨started, completed, between, rfl⟩ := h.eq_started_completed hhead hlast
          rw [List.cons_append, List.tail_cons, List.dropLast_concat, List.any_eq_true] at hany
          obtain ⟨event, hevent, htext⟩ := hany
          obtain ⟨delta, hdelta, rfl⟩ := List.mem_map.1 hevent
          exact ⟨started, completed, between, rfl, delta, hdelta, htext⟩
  · rintro ⟨started, completed, between, rfl, delta, hdelta, htext⟩
    unfold assertCompleteStream
    rw [if_neg (by simp [ModelStreamEvent.isStarted]),
      if_neg (by rw [List.getLast?_concat]; simp [ModelStreamEvent.isCompleted,
        ModelStreamEvent.completed?]), if_neg]
    rw [List.cons_append, List.tail_cons, List.dropLast_concat, Bool.not_eq_true',
      Bool.not_eq_false, List.any_eq_true]
    exact ⟨.other delta, List.mem_map_of_mem hdelta, htext⟩

/-- The responses that can be built pass the checks that every response must pass. -/
lemma assertResponseInvariants_eq_ok (inspection : Inspection) (response : ModelResponse) :
    assertResponseInvariants inspection response = .ok () := by
  have hcount (name : String) (count : TokenCount) : assertTokenCount name count.1 = .ok () :=
    if_neg (Int.not_lt.2 count.2)
  unfold assertResponseInvariants
  rw [if_neg fun h => h response.role_eq]
  cases inspection.usage response with
  | none => rfl
  | some usage =>
    simp only [hcount]
    rfl

section Scenario

variable [BEq ModelResponse] {inspection : Inspection}

/-- A response passes the checks when it equals the expected one. -/
lemma checkResponse_eq_ok {expected response : ModelResponse} :
    checkResponse inspection expected response = .ok () ↔ (response == expected) = true := by
  unfold checkResponse
  rw [assertResponseInvariants_eq_ok]
  cases hequal : response == expected with
  | true => simp [bne, hequal, bind, Except.bind]
  | false => simp [bne, hequal, bind, Except.bind]

/-- A generation, whose backend ends, with the way in which the backend has run. -/
lemma Adapter.execute_spec (adapter : Adapter) (number : ℕ) (request : ModelRequest)
    (hends : (adapter.backend number request adapter.model.name true).Uncut) :
    ∃ outcome progress attempts ending,
      adapter.execute number request = some (outcome, progress) ∧
      BackendRan (adapter.backend number request adapter.model.name true) attempts ending ∧
      Generation attempts ending outcome progress := by
  have huncut := (adapter.model.generate request).execute_uncut hends StreamForwarder.new
  obtain ⟨tr, ⟨outcome, forwarder⟩, hexec, hanswers⟩ :=
    huncut.exec fun _ => (.ok () : Except Exc Unit)
  have hgeneration := wp_sound_ret hexec
    ((adapter.model.generate request).wp_execute rfl (adapter.backend number))
    (Monitor.payloads_assumed [] hanswers)
  rw [Monitor.payloads_run, List.nil_append] at hgeneration
  obtain ⟨attempts, ending, hran, hgeneration⟩ := hgeneration
  refine ⟨outcome, tr.map Sigma.fst, attempts, ending, ?_, ⟨hran, hgeneration.replies⟩,
    hgeneration⟩
  unfold execute
  rw [Prog.record_eq_some.2 ⟨tr, hexec, hanswers, rfl⟩]
  rfl

/-- The checks of a streaming scenario accept exactly what conforms. -/
lemma Generation.checks_iff_conforms {expected : ModelResponse}
    {attempts : Trace StreamObject EmitReply} {ending : Except Exc Generated}
    {outcome : Except Exc ModelResponse} {progress : List ModelStreamEvent}
    (h : Generation attempts ending outcome progress) :
    (∃ response, outcome = .ok response ∧ (response == expected) = true ∧
      assertCompleteStream inspection progress = .ok ()) ↔
        Conforms inspection expected (attempts.map Sigma.fst) ending := by
  have hinj : Function.Injective StreamObject.event := fun _ _ h => StreamObject.event.inj h
  constructor
  · rintro ⟨response, houtcome, hequal, hcheck⟩
    obtain ⟨hending, events, hobjects, hstream, hagrees⟩ := (h.returns response).1 houtcome
    obtain rfl : events = progress :=
      List.map_injective_iff.2 hinj (hobjects.symm.trans (h.forwards response houtcome))
    obtain ⟨started, completed, between, rfl, hdelta⟩ :=
      (assertCompleteStream_eq_ok hstream).1 hcheck
    refine ⟨response, started, completed, between, hending, hequal, ?_,
      hagrees completed (List.mem_append_right _ (List.mem_singleton_self _)), hdelta⟩
    rw [hobjects, List.map_append, List.map_cons, List.map_map]
    rfl
  · rintro ⟨response, started, completed, between, hending, hequal, hobjects, hagrees, hdelta⟩
    have hstream := isStream_started started between completed
    have hevents : attempts.map Sigma.fst = (ModelStreamEvent.started started ::
        between.map .other ++ [ModelStreamEvent.completed completed]).map .event := by
      rw [hobjects, List.map_append, List.map_cons, List.map_map]
      rfl
    have houtcome : outcome = .ok response := by
      refine (h.returns response).2 ⟨hending, _, hevents, hstream, fun completed' hmem => ?_⟩
      rcases List.mem_append.1 hmem with hbefore | hlast
      · rcases List.mem_cons.1 hbefore with hstart | hother
        · cases hstart
        · obtain ⟨object, -, hobject⟩ := List.mem_map.1 hother
          cases hobject
      · cases List.mem_singleton.1 hlast
        exact hagrees
    have hprogress := List.map_injective_iff.2 hinj
      (hevents.symm.trans (h.forwards response houtcome))
    refine ⟨response, houtcome, hequal, ?_⟩
    rw [← hprogress]
    exact (assertCompleteStream_eq_ok hstream).2 ⟨started, completed, between, rfl, hdelta⟩

/-- A streaming scenario, by its checks. -/
lemma runScenario_eq {scenario : BackendConformanceScenario} {expected : ModelResponse}
    {factory : Except Exc FactoryResult} {adapter : Adapter}
    (hstreaming : scenario.streaming = true)
    (hexpected : scenario.expectedResponse = some expected)
    (hbuilt : buildModel factory = .ok adapter) (hname : adapter.model.name = scenario.modelName)
    {outcome : Except Exc ModelResponse} {progress : List ModelStreamEvent}
    (hexecute : adapter.execute 0 scenario.request = some (outcome, progress)) :
    runScenario inspection scenario factory = some (do
      let response ← raiseAs outcome
      checkResponse inspection expected response
      assertCompleteStream inspection progress) := by
  have herror : scenario.expectedError = none := by
    have hone := scenario.one
    rw [hexpected] at hone
    simpa using hone
  have hsteps : scenario.followUpSteps = [] := by
    by_contra hne
    have hplain := (scenario.steps_response hne).2
    rw [hstreaming] at hplain
    cases hplain
  have hname' : ¬ adapter.model.name ≠ scenario.modelName := fun h => h hname
  have hlift : (ExceptT.lift (some (outcome, progress)) : ScenarioM _) =
      settled (.ok (outcome, progress)) := rfl
  unfold runScenario
  simp only [hbuilt, settled_ok_bind, if_neg hname', hexecute, hlift, herror, hexpected,
    hstreaming, if_true, hsteps, runSteps]
  cases outcome with
  | error error => rfl
  | ok response =>
    have hresponse : raiseAs (.ok response : Except Exc ModelResponse) = .ok response := rfl
    have hchecks (f : ModelResponse → Except Failure Unit) :
        (Except.ok response >>= f : Except Failure Unit) = f response := rfl
    rw [hresponse, settled_ok_bind, hchecks]
    cases checkResponse inspection expected response with
    | error failure => rfl
    | ok _ => cases assertCompleteStream inspection progress <;> rfl

/-- **A streaming scenario accepts exactly the conforming backends.** Whatever objects a backend
emits, whether or not it swallows what `emit` raises, and however it ends: it runs in one way, the
scenario ends, and it ends without an error exactly if the backend has conformed. -/
theorem runScenario_streaming {scenario : BackendConformanceScenario} {expected : ModelResponse}
    {factory : Except Exc FactoryResult} {adapter : Adapter}
    (hstreaming : scenario.streaming = true)
    (hexpected : scenario.expectedResponse = some expected)
    (hbuilt : buildModel factory = .ok adapter) (hname : adapter.model.name = scenario.modelName)
    (hends : (adapter.backend 0 scenario.request adapter.model.name true).Uncut) :
    ∃ attempts ending result,
      BackendRan (adapter.backend 0 scenario.request adapter.model.name true) attempts ending ∧
      (∀ attempts' ending',
        BackendRan (adapter.backend 0 scenario.request adapter.model.name true) attempts' ending' →
          attempts' = attempts ∧ ending' = ending) ∧
      runScenario inspection scenario factory = some result ∧
      (result = .ok () ↔ Conforms inspection expected (attempts.map Sigma.fst) ending) := by
  obtain ⟨outcome, progress, attempts, ending, hexecute, hran, hgeneration⟩ :=
    adapter.execute_spec 0 scenario.request hends
  refine ⟨attempts, ending, _, hran, fun attempts' ending' hran' => hran'.unique hran,
    runScenario_eq hstreaming hexpected hbuilt hname hexecute, ?_⟩
  apply Iff.trans _ hgeneration.checks_iff_conforms
  cases outcome with
  | error error =>
    constructor
    · intro h
      cases h
    · rintro ⟨response, h, -⟩
      cases h
  | ok response =>
    have hresponse : (∃ response', (Except.ok response : Except Exc ModelResponse) =
        .ok response' ∧ (response' == expected) = true ∧
          assertCompleteStream inspection progress = .ok ()) ↔
        (response == expected) = true ∧ assertCompleteStream inspection progress = .ok () := by
      simp
    rw [hresponse, ← checkResponse_eq_ok]
    cases hcheck : checkResponse inspection expected response with
    | error failure => simp [raiseAs, Except.mapError, bind, Except.bind, hcheck]
    | ok _ => simp [raiseAs, Except.mapError, bind, Except.bind, hcheck]

end Scenario

/-- A backend that streams one text delta. -/
def pongBackend : ModelBackend := fun _ _ _ =>
  .call (.event (.started (.given 1))) fun _ =>
    .call (.event (.other (.given 2))) fun _ =>
      .call (.event (.completed ⟨.given 3, hello⟩)) fun _ => .ret (.ok (.response hello))

/-- The delta is a `TextDelta`, and the response reports no usage. -/
def pongInspection : Inspection where
  isTextDelta object := object = .given 2
  usage _ := none
  reprResponse _ := "ModelResponse(…)"
  reprError _ := "ModelError(…)"

/-- A scenario that expects the response. -/
def pongScenario : BackendConformanceScenario where
  modelName := greeting.model.name
  request := greeting.request
  expectedResponse := some hello
  expectedError := none
  streaming := true
  followUpSteps := []
  one := by decide
  streaming_response _ := rfl
  steps_response h := absurd rfl h

/-- The backend is accepted, and conforms. -/
theorem runScenario_streaming_pong :
    @runScenario ⟨fun _ _ => true⟩ pongInspection pongScenario
      (.ok (.value (.model ⟨greeting.model, fun _ => pongBackend⟩))) = some (.ok ()) ∧
    ∃ attempts ending, BackendRan (pongBackend greeting.request greeting.model.name true)
        attempts ending ∧
      @Conforms ⟨fun _ _ => true⟩ pongInspection hello (attempts.map Sigma.fst) ending := by
  have hends : (pongBackend greeting.request greeting.model.name true).Uncut :=
    fun _ _ _ => trivial
  obtain ⟨attempts, ending, result, hran, -, hrun, hresult⟩ :=
    @runScenario_streaming ⟨fun _ _ => true⟩ pongInspection pongScenario hello
      (.ok (.value (.model ⟨greeting.model, fun _ => pongBackend⟩)))
      ⟨greeting.model, fun _ => pongBackend⟩ rfl rfl rfl rfl hends
  have haccepted : @runScenario ⟨fun _ _ => true⟩ pongInspection pongScenario
      (.ok (.value (.model ⟨greeting.model, fun _ => pongBackend⟩))) = some (.ok ()) := rfl
  have hok : result = .ok () := Option.some.inj (hrun.symm.trans haccepted)
  exact ⟨haccepted, attempts, ending, hran, hresult.1 hok⟩

end PurrceptCore
