import PurrceptCore.Models.PromptCompiler

set_option relaxedAutoImplicit false
set_option autoImplicit false

/-!
# The prompt session of a turn

`TurnPromptSession` (`prompt/compiler.py`) owns the reminders that one turn has acquired, and
the reminder sources (`reminder_sources.py`).

## Main definitions

* `PurrceptCore.TurnPromptSession` — the slots of a session that never change. Its slot
  `_remaining_state` is the state of the routines.
* `PurrceptCore.normalizeReminderSources` — the validation of the sources.
* `PurrceptCore.TurnPromptSession.begin` — acquire the turn reminders.
* `PurrceptCore.TurnPromptSession.resolveSources`, `PurrceptCore.TurnPromptSession.compile` —
  resolve the sources, and compile one accepted request.

## Design

* Setting up a session reads the sources before there is a turn, so these reads are calls of
  their own, `SetupCall`.
* `compileFrom` recurses on the number of complete turns that are left to drop.
-/

namespace PurrceptCore

open Interaction

/-- The calls that validate reminder sources. -/
inductive SetupCall
  /-- `isinstance(source, ReminderSource)`. -/
  | isReminderSource (source : ReminderSource)
  /-- `source.source_id`. -/
  | sourceId (source : ReminderSource)

/-- The replies to these calls. -/
abbrev SetupReply : SetupCall → Type
  | .isReminderSource _ => Except Exc Bool
  | .sourceId _ => Except Exc Attribute

/-- Parts of the set-up of a session. -/
abbrev SetupM (α : Type) : Type := Routine ReminderState SetupCall SetupReply Failure α

/-- The body of the loop of `normalize_reminder_sources`: the id of a source, which must be none
of those seen so far. -/
def validateSource (sourceIds : List NonEmptyString) (source : ReminderSource) :
    SetupM NonEmptyString := do
  if !(← receive (← Routine.call (.isReminderSource source))) then
    throw (.typeError "reminder_sources must contain only ReminderSource instances.")
  else do
    let sourceId ← Routine.ofExcept
      (requireNonEmptyString (← receive (← Routine.call (.sourceId source))) "source_id")
    if sourceId ∈ sourceIds then
      throw (.valueError ("Reminder source " ++ pyRepr sourceId ++
        " is registered more than once."))
    else
      pure sourceId

/-- `normalize_reminder_sources`, with the `source_ids` seen so far. -/
def normalizeReminderSources :
    List NonEmptyString → List ReminderSource → SetupM (List ReminderSource)
  | _, [] => pure []
  | sourceIds, source :: sources => do
    let sourceId ← validateSource sourceIds source
    let normalized ← normalizeReminderSources (sourceId :: sourceIds) sources
    return source :: normalized

/-- The slots of a `TurnPromptSession` that never change. -/
structure TurnPromptSession where
  baseReminders : List SystemReminder
  compiler : PromptCompiler
  sources : List ReminderSource
  /-- Whether there is a trace sink. -/
  traceSink : Bool

/-- The reminders in the items of a resolution. -/
def collectReminders : List ResolvedItem → Except Failure (List SystemReminder)
  | [] => .ok []
  | .reminder reminder :: items => do .ok (reminder :: (← collectReminders items))
  | .awaitable :: _ =>
    .error (.typeError "ReminderSource.resolve() must not yield awaitable values.")
  | .other :: _ =>
    .error (.typeError "ReminderSource.resolve() must return only SystemReminder instances.")

/-- What `resolve` returned, checked. -/
def checkResolved : Resolved → Except Failure (List SystemReminder)
  | .awaitable => .error (.typeError "ReminderSource.resolve() must be synchronous.")
  | .notIterable =>
    .error (.typeError "ReminderSource.resolve() must return an iterable of SystemReminder.")
  | .items items => collectReminders items

/-- `resolve_reminder_source`. -/
def resolveReminderSource (source : ReminderSource) (context : ReminderResolutionContext) :
    TurnM (List SystemReminder) := do
  let sourceId ← receive (← Routine.call (.sourceId source))
  let _ ← Routine.ofExcept (requireNonEmptyString sourceId "source_id")
  Routine.ofExcept (checkResolved (← receive (← Routine.call (.resolve source context))))

/-- `source_failure_event`. -/
def sourceFailureEvent (modelRound : ℕ) (sourceId : Attribute) (error : Failure) :
    Except Failure PromptTraceEvent := do
  let sourceId ← requireNonEmptyString sourceId "source_id"
  .ok (.reminderSourceFailed modelRound sourceId error.typeName)

namespace TurnPromptSession

/-- `TurnPromptSession.begin`: turn reminders are acquired, and what remains is without them. -/
def begin (state : ReminderState) (compiler : PromptCompiler) (sources : List ReminderSource)
    (traceSink : Bool) : SetupM TurnPromptSession := do
  set (ReminderState.ofList (ReminderState.without .turn state.reminders))
  let sources ← normalizeReminderSources [] sources
  return ⟨state.reminders, compiler, sources, traceSink⟩

variable (session : TurnPromptSession)

/-- `_active_reminders`. -/
def activeReminders (remaining : ReminderState) : List SystemReminder :=
  let nextRequestActive := remaining.reminders.any fun r => r.scope = .nextRequest
  session.baseReminders.filter fun r => r.scope ≠ .nextRequest || nextRequestActive

/-- The body of the loop of `_resolve_sources`: the reminders of one source, and its id as it
was read first. -/
def resolveSource (context : ReminderResolutionContext) (modelRound : ℕ)
    (source : ReminderSource) : TurnM (List SystemReminder × Attribute) := do
  let sourceId ← receive (← Routine.call (.sourceId source))
  let resolved ← tryCatch (resolveReminderSource source context) fun error =>
    if error.isException then do
      emitPromptTrace session.traceSink
        (← Routine.ofExcept (sourceFailureEvent modelRound sourceId error))
      throw error
    else
      throw error
  emitPromptTrace session.traceSink
    (.reminderSourceResolved modelRound sourceId (resolved.map SystemReminder.key))
  return (resolved, sourceId)

/-- `_resolve_sources`. -/
def resolveSources (context : ReminderResolutionContext) (modelRound : ℕ) :
    List ReminderSource → TurnM (List SystemReminder × List Attribute)
  | [] => pure ([], [])
  | source :: sources => do
    let (resolved, sourceId) ← session.resolveSource context modelRound source
    let (reminders, sourceIds) ← resolveSources context modelRound sources
    return (resolved ++ reminders, sourceId :: sourceIds)

/-- Resolve the sources for a candidate, and compile it. -/
def compileCandidate (context : ReminderResolutionContext) (modelRound : ℕ)
    (candidate : PromptDraft) : TurnM CompiledPrompt := do
  let resolutionContext ← Routine.ofExcept (context.replace candidate.history modelRound)
  let (dynamic, sourceIds) ← session.resolveSources resolutionContext modelRound session.sources
  Routine.ofExcept (session.compiler.compile candidate (session.activeReminders (← get)) []
    dynamic sourceIds modelRound)

/-- `_emit_compiled`. -/
def emitCompiled (diagnostics : PromptDiagnostics) : TurnM Unit :=
  emitPromptTrace session.traceSink (.promptCompiled diagnostics.modelRound
    diagnostics.promptFingerprint diagnostics.reminderKeys diagnostics.reminderScopes
    diagnostics.reminderPlacements diagnostics.reminderPriorities diagnostics.contentHashes
    diagnostics.dynamicSourceIds diagnostics.estimatedTokens diagnostics.trimmedTurns)

/-- The end of `compile`: the accepted request is traced before its reminders are consumed. -/
def accept (compiled : CompiledPrompt) (modelRound : ℕ) (estimatedTokens : Option ℕ)
    (trimmedTurns : ℕ) : TurnM CompiledPrompt := do
  let accepted :=
    { compiled with diagnostics := { compiled.diagnostics with estimatedTokens, trimmedTurns } }
  session.emitCompiled accepted.diagnostics
  if accepted.consumedNextRequest then do
    let consumed := (← get).reminders.filter fun r => r.scope = .nextRequest
    emitPromptTrace session.traceSink
      (.reminderConsumed modelRound (consumed.map SystemReminder.key))
    modify fun remaining => remaining.clearScope .nextRequest
    return accepted
  else
    return accepted

/-- The body of the loop of `compile`: accept the candidate, or `retry` with a history that has
lost its oldest complete turn. -/
def compileOnce (context : ReminderResolutionContext) (modelRound : ℕ)
    (budget : Option RequestTokenBudget) (candidate : PromptDraft) (trimmedTurns : ℕ)
    (retry : PromptDraft → TurnM CompiledPrompt) : TurnM CompiledPrompt := do
  let compiled ← session.compileCandidate context modelRound candidate
  match budget with
  | none => session.accept compiled modelRound none trimmedTurns
  | some budget => do
    let estimatedTokens ← countRequest compiled.request context.model
    if estimatedTokens > budget.maxTokens then do
      match ← Routine.ofExcept (dropOldestCompleteTurn candidate.history) with
      | none => throw (.contextBudgetExceeded budget.maxTokens estimatedTokens)
      | some trimmedHistory => retry { candidate with history := trimmedHistory }
    else
      session.accept compiled modelRound (some estimatedTokens) trimmedTurns

/-- The loop of `compile`. It goes on only when a complete turn was dropped, so `turns`, the
number of complete turns of the candidate, bounds it. -/
def compileFrom (context : ReminderResolutionContext) (modelRound : ℕ)
    (budget : Option RequestTokenBudget) :
    (turns : ℕ) → (candidate : PromptDraft) → (trimmedTurns : ℕ) → TurnM CompiledPrompt
  | 0, candidate, trimmedTurns =>
    session.compileOnce context modelRound budget candidate trimmedTurns fun _ => Routine.cut
  | turns + 1, candidate, trimmedTurns =>
    session.compileOnce context modelRound budget candidate trimmedTurns fun candidate =>
      compileFrom context modelRound budget turns candidate (trimmedTurns + 1)

/-- `TurnPromptSession.compile`. -/
def compile (draft : PromptDraft) (context : ReminderResolutionContext) (modelRound : ℕ)
    (budget : Option RequestTokenBudget) : TurnM CompiledPrompt :=
  session.compileFrom context modelRound budget draft.history.turnBoundaries.length draft 0

end TurnPromptSession

end PurrceptCore
