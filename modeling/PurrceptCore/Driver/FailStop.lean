import PurrceptCore.Driver.Observations

set_option relaxedAutoImplicit false
set_option autoImplicit false

/-!
# Fail-stop on observer failure

Once a dispatch has failed, the run emits nothing any more, executes no further effect, is not
advanced again, and does not return a result.
-/

namespace PurrceptCore

open Interaction

variable {V E : Type}

/-- The calls that a run past a dispatch failure must not make: emitting, advancing, executing. -/
def Call.drives : Call V E → Bool
  | .emit _ | .start | .send _ | .throw _ | .execute _ _ => true
  | _ => false

namespace FailStop

/-- The monitor: the calls that drive the run on are made while no dispatch has failed. -/
abbrev monitor : Monitor (Call V E) (Reply V E) (DriverTrace V E) :=
  observer (fun tr c => c.drives = true → undelivered tr = []) fun _ _ => True

/-- A result is returned only if no dispatch has failed. -/
def Post : Except Exc V → DriverTrace V E → Prop
  | .ok _, tr => undelivered tr = []
  | .error _, _ => True

/-- The assertion where an exception reaches the outer handlers. -/
def Raised (e : Exc) (tr : DriverTrace V E) : Prop :=
  undelivered tr = [] ∨ e.cls = .eventDispatchError

/-- Emitting an event, from a point at which no dispatch has failed. -/
lemma reports {tr : DriverTrace V E} {f : Instant → Seconds → RunEvent V E}
    {K : DriverTrace V E → Prop} {raise : Exc → DriverTrace V E → Prop}
    (htr : undelivered tr = []) (hK : ∀ tr', undelivered tr' = [] → K tr')
    (hraise : ∀ e tr', Raised e tr' → raise e tr') : Reports monitor tr f K raise where
  service e _ := hraise e tr (.inl htr)
  emits t d := {
    allow := .inr fun _ => htr
    delivered := by
      intro r _ hr
      rw [observer_next rfl]
      exact hK _ (by simp [htr, hr.not_failed])
    failed := by
      intro r d _ _ hd
      exact hraise _ _ (.inr hd)
    escaped := by
      intro e _ he
      rw [observer_next rfl]
      exact hraise _ _ (.inl (by simp [htr, Failed, he])) }

/-- Closing the run is always allowed, and is no emission. -/
lemma closes {tr : DriverTrace V E} {K : DriverTrace V E → Prop}
    (hK : ∀ tr', undelivered tr' = undelivered tr → K tr') : Closes monitor tr K := by
  refine ⟨.inr nofun, fun r _ => ?_⟩
  rw [observer_next rfl]
  exact hK _ (by simp)

/-- Advancing the run from a point at which no dispatch has failed. -/
lemma advances {tr : DriverTrace V E} {c : Call V E}
    {read : Reply V E c → Except Exc (RunState V E)} (hc : c.isService = false)
    (hf : ∀ r, failureOf ⟨c, r⟩ = none) (htr : undelivered tr = []) :
    Advances monitor tr c read (fun _ tr' => undelivered tr' = []) Raised where
  allow := .inr fun _ => htr
  reply r _ := by
    have hnext : undelivered (tr ++ [⟨c, r⟩]) = [] := by
      simp only [observe_append, observe_cons, undelivered_of, hf, htr]
      rfl
    rw [observer_next hc]
    cases read r with
    | ok st => exact hnext
    | error e => exact .inl hnext

/-- The assertion while an executor is at work: no dispatch has failed unless the progress
channel has latched the failure. -/
def Working (d : Option Exc) (tr : DriverTrace V E) : Prop :=
  match d with
  | none => undelivered tr = []
  | some e => e.cls = .eventDispatchError

/-- Handing an outcome to the executor is always allowed, and is no emission. -/
lemma resumes {tr : DriverTrace V E} {d : Option Exc} {o : Except Exc Unit} (h : Working d tr) :
    Resumes monitor tr o fun _ tr' => Working d tr' := by
  refine ⟨.inr nofun, fun r _ => ?_⟩
  rw [observer_next rfl]
  cases d with
  | none => simpa [Working] using h
  | some e => exact h

/-- What an exception leaves behind when the channel latches it. -/
lemma Raised.latch {e : Exc} {tr : DriverTrace V E} (h : Raised e tr) : Working (latch e) tr := by
  unfold PurrceptCore.latch
  by_cases he : e.cls = .eventDispatchError
  · rw [if_pos he]
    exact he
  · rw [if_neg he]
    exact h.resolve_right he

/-- The assertion at work, when the executor has ended. -/
lemma Working.resolve {d : Option Exc} {o : Except Exc V} {tr : DriverTrace V E}
    (h : Working d tr) : Ends (fun _ tr => undelivered tr = []) Raised (resolve d o) tr := by
  cases d with
  | some e => exact .inr h
  | none =>
    cases o with
    | ok v => exact h
    | error e => exact .inl h

/-- **Proof outline.** No dispatch has failed at the head of the loop. -/
def outline (runId : String) (host : V) (metadata : List (String × V)) :
    Outline (E := E) monitor runId host metadata Post [] where
  head _ _ tr := undelivered tr = []
  working _ _ _ d _ tr := Working d tr
  raised := Raised
  started := reports rfl (fun _ h => advances rfl (fun _ => rfl) h) fun _ _ h => h
  returned k v tr h := reports h (fun _ h => h) fun _ _ h => h
  unsupported k n tr h e he := .inl h
  yielded k effect tr h effectId := by
    refine reports h (fun tr' h' => ⟨.inr fun _ => h', fun r _ => ?_⟩) fun _ _ h => h
    rw [observer_next rfl]
    simpa [Working] using h'
  progress k effectId effect := {
    stale := fun d a p tr ha h e he => resumes h
    latched := fun d p tr h => resumes h
    fresh := fun p tr h => reports h (fun tr' h' => resumes h') fun e tr' h' => resumes h'.latch }
  aborted k effectId effect d o tr h e ho he := by
    have hends := h.resolve (o := o)
    rw [ho] at hends
    exact hends
  effectFailed k effectId effect d o tr h e ho hx hd := by
    have hends := h.resolve (o := o)
    rw [ho] at hends
    exact reports (hends.resolve_right hd) (fun _ h => advances rfl (fun _ => rfl) h) fun _ _ h => h
  effectSucceeded k effectId effect d o tr h v ho := by
    have hends := h.resolve (o := o)
    rw [ho] at hends
    exact reports hends (fun _ h => advances rfl (fun _ => rfl) h) fun _ _ h => h
  cancelled e tr h he := by
    have hclean : undelivered tr = [] := h.resolve_right (by simp [he])
    exact closes fun tr' h' =>
      reports (h'.trans hclean) (fun _ _ => trivial) fun _ _ _ => trivial
  closed e tr h he := closes fun _ _ => trivial
  failed e tr h hx hd := reports (h.resolve_right hd) (fun _ _ => closes fun _ _ => trivial)
    fun _ _ _ => closes fun _ _ => trivial

/-- The driver keeps to the monitor. -/
lemma keeps (fuel : ℕ) (host : V) (metadata : List (String × V)) (given : Option String) :
    Routine.wp (monitor (E := E)) (AgentDriver.run fuel host metadata given) (Outline.Post Post)
      AgentDriver.initialState [] :=
  Outline.wp_run given (fun runId _ => outline runId host metadata)
    (fun _ _ => closes fun _ _ => trivial) fun o _ _ h => by
      cases o with
      | ok v => exact h
      | error e => trivial

end FailStop

end PurrceptCore
