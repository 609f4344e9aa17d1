import Mathlib.Data.List.Basic
import GlBridge.Window.Fault

/-!
# Nested guards

A guard works with what its thread holds: the handlers, the place to jump to, and the signal caught
last.  All guards of a thread share these, and put them back by hand after a jump that may have left
any number of calls.

**What is meant.**  To a script, a raised signal is an error, and the next guard around it catches
the error.  `Script.attempt` is what a script comes to on this reading, which knows of no thread.
`Script.signals` are the signals that a script raises outside of its own guards, and the first of them
is the error that it ends in (`attempt_eq_error_iff`).

**What a thread does.**  A script under a guard either finishes, with the thread as it was, or jumps
to this very guard (`run_follows`), however many guards it has entered and left in between.  So each
guard does what is meant, and leaves the thread to the guards around it as it found it
(**`catchFault_nests`**).
-/

namespace GlBridge.Window

variable {α β : Type}

/-! ## What is meant -/

/-- What a guard makes of what its body comes to. -/
def Result.ofAttempt : Except Signal (Result α) → Result α
  | .ok result => finished result
  | .error signal => fault signal

namespace Script

mutual

/-- What a script comes to if a raised signal is an error, which the next guard around it catches. -/
def attempt : Script α → Except Signal (Result α)
  | value result => .ok (.value result)
  | raise signal => .error signal
  | guarded body => .ok (.ofAttempt body.attempt)
  | all steps => do
    let results ← attemptAll steps
    return .all results

/-- What scripts come to one after the other, up to the first error. -/
def attemptAll : List (Script α) → Except Signal (List (Result α))
  | [] => .ok []
  | step :: steps => do
    let result ← step.attempt
    let results ← attemptAll steps
    return result :: results

end

mutual

/-- The signals that a script raises outside of its own guards, in order. -/
def signals : Script α → List Signal
  | value _ => []
  | raise signal => [signal]
  | guarded _ => []
  | all steps => signalsOfAll steps

/-- The signals that scripts raise outside of their own guards, in order. -/
def signalsOfAll : List (Script α) → List Signal
  | [] => []
  | step :: steps => step.signals ++ signalsOfAll steps

end

/-- Two steps end in an error if the first one does, or the second one after it. -/
lemma bind_eq_error {x : Except Signal α} {f : α → Except Signal β} {signal : Signal} :
    (x >>= f) = .error signal ↔ x = .error signal ∨ ∃ a, x = .ok a ∧ f a = .error signal := by
  cases x with
  | ok a =>
      constructor
      · exact fun h => .inr ⟨a, rfl, h⟩
      · rintro (h | ⟨_, ⟨⟩, h⟩)
        · exact nomatch h
        · exact h
  | error other =>
      constructor
      · rintro ⟨⟩
        exact .inl rfl
      · rintro (⟨⟨⟩⟩ | ⟨_, h, _⟩)
        · rfl
        · exact nomatch h

mutual

/-- **A script ends in the first signal** that it raises outside of its own guards, if any. -/
theorem attempt_eq_error_iff (script : Script α) (signal : Signal) :
    script.attempt = .error signal ↔ script.signals.head? = some signal := by
  match script with
  | value result => simp [attempt, signals]
  | raise other => simp [attempt, signals]
  | guarded body => simp [attempt, signals]
  | all steps =>
      rw [attempt, signals, bind_eq_error, ← attemptAll_eq_error_iff steps signal]
      exact or_iff_left nofun

theorem attemptAll_eq_error_iff (steps : List (Script α)) (signal : Signal) :
    attemptAll steps = .error signal ↔ (signalsOfAll steps).head? = some signal := by
  match steps with
  | [] => simp [attemptAll, signalsOfAll]
  | step :: steps =>
      have hstep := attempt_eq_error_iff step
      have hfinished : (∃ result, step.attempt = .ok result) ↔ step.signals.head? = none := by
        cases hattempt : step.attempt with
        | ok result =>
            refine iff_of_true ⟨result, rfl⟩ (Option.eq_none_iff_forall_ne_some.2 ?_)
            intro other hother
            exact nomatch hattempt.symm.trans ((hstep other).2 hother)
        | error other =>
            rw [(hstep other).1 hattempt]
            exact iff_of_false nofun nofun
      have hrest (result : Result α) :
          (do let results ← attemptAll steps; return result :: results) = Except.error signal
            ↔ (signalsOfAll steps).head? = some signal := by
        rw [bind_eq_error, attemptAll_eq_error_iff steps signal]
        exact or_iff_left nofun
      rw [attemptAll, signalsOfAll, List.head?_append, bind_eq_error, Option.or_eq_some_iff, hstep]
      simp only [hrest, exists_and_right, hfinished]

end

end Script

/-! ## What a thread does -/

/-- The signals of a thread go to the given guard. -/
structure Thread.Under (thread : Thread) (target : ℕ) : Prop where
  handlers : ∀ signal, thread.handlers signal = .guarded
  jump : thread.jump = some target

/-- A run ends in what is meant: it is done with the thread as it was, or it jumps to the given guard
with the signal noted. -/
def Thread.Follows (thread : Thread) (target : ℕ) (meant : Except Signal β)
    (ending : Outcome β × Thread) : Prop :=
  match meant with
  | .ok result => ∃ caught, ending = (.done result, { thread with caught })
  | .error signal => ending = (.jumped target, { thread with caught := some signal })

/-- Guards catch every signal that there is, so none keeps the handler of before. -/
lemma setHandlers_eq (handlers new : Signal → Handler) : setHandlers handlers new = new := by
  funext signal
  cases signal <;> rfl

namespace Thread

variable {thread : Thread} {target : ℕ}

/-- Where a guard's body starts, signals go to this guard. -/
lemma enter_under (thread : Thread) : thread.enter.Under thread.nextGuard where
  handlers signal := congrFun (setHandlers_eq thread.handlers fun _ => .guarded) signal
  jump := rfl

/-- What a thread had when a guard was entered is put back. -/
lemma restore_eq (thread before : Thread) :
    thread.restore before = { before with caught := thread.caught } := by
  rw [restore, setHandlers_eq]

lemma Under.raise_eq (h : thread.Under target) (signal : Signal) :
    (thread.raise signal : Outcome β × Thread)
      = (.jumped target, { thread with caught := some signal }) := by
  simp only [raise, h.handlers, h.jump]

/-- A guard is left with what is meant, and with what it found when it was entered. -/
lemma leave_eq {meant : Except Signal (Result α)} {ending : Outcome (Result α) × Thread}
    (h : thread.enter.Follows thread.nextGuard meant ending) :
    ∃ caught, thread.leave ending = (.done (.ofAttempt meant), { thread with caught }) := by
  cases meant with
  | ok result =>
      obtain ⟨caught, rfl⟩ := h
      refine ⟨caught, ?_⟩
      rw [leave, restore_eq]
      rfl
  | error signal =>
      obtain rfl := h
      refine ⟨some signal, ?_⟩
      rw [leave, if_pos rfl]
      dsimp only
      rw [restore_eq]
      rfl

end Thread

namespace Script

mutual

/-- **A script under a guard does what is meant.** -/
theorem run_follows {thread : Thread} {target : ℕ} (h : thread.Under target) (script : Script α) :
    thread.Follows target script.attempt (script.run thread) := by
  match script with
  | value result => exact ⟨thread.caught, rfl⟩
  | raise signal =>
      rw [run, attempt]
      exact h.raise_eq signal
  | guarded body =>
      rw [run, attempt]
      exact Thread.leave_eq (run_follows thread.enter_under body)
  | all steps =>
      have hsteps := runAll_follows h steps
      rw [run, attempt]
      cases hattempt : attemptAll steps with
      | ok results =>
          rw [hattempt] at hsteps
          obtain ⟨caught, hrun⟩ := hsteps
          rw [hrun]
          exact ⟨caught, rfl⟩
      | error signal =>
          rw [hattempt] at hsteps
          rw [hsteps]
          rfl

theorem runAll_follows {thread : Thread} {target : ℕ} (h : thread.Under target)
    (steps : List (Script α)) :
    thread.Follows target (attemptAll steps) (runAll thread steps) := by
  match steps with
  | [] => exact ⟨thread.caught, rfl⟩
  | step :: steps =>
      have hstep := run_follows h step
      rw [runAll, attemptAll]
      cases hattempt : step.attempt with
      | ok result =>
          rw [hattempt] at hstep
          obtain ⟨caught, hrun⟩ := hstep
          -- The first step leaves the thread under the guard, so that the others are, too.
          have hunder : Thread.Under { thread with caught } target := ⟨h.handlers, h.jump⟩
          have hsteps := runAll_follows hunder steps
          rw [hrun]
          dsimp only
          cases hrest : attemptAll steps with
          | ok results =>
              rw [hrest] at hsteps
              obtain ⟨caught', hruns⟩ := hsteps
              rw [hruns]
              exact ⟨caught', rfl⟩
          | error signal =>
              rw [hrest] at hsteps
              rw [hsteps]
              rfl
      | error signal =>
          rw [hattempt] at hstep
          rw [hstep]
          rfl

end

end Script

/-! ## The result -/

/-- **Guards nest.**  Under a guard, any script in any thread comes to what is meant.  If it raises
signals outside of its own guards, the first of them ends it and is what the guard reports; otherwise
the guard reports what the script comes to, whatever the guards within have caught.  The thread has
the handlers and the place to jump to that it had before. -/
theorem catchFault_nests (thread : Thread) (body : Script α) :
    ∃ caught result, catchFault thread body = (.done result, { thread with caught }) ∧
      (∀ signal, result = .fault signal ↔ body.signals.head? = some signal) ∧
      ∀ inner, result = .finished inner ↔ body.attempt = .ok inner := by
  obtain ⟨caught, hrun⟩ := Thread.leave_eq (Script.run_follows thread.enter_under body)
  refine ⟨caught, .ofAttempt body.attempt, ?_, ?_, ?_⟩
  · rw [catchFault, Script.run, hrun]
  · intro signal
    rw [← Script.attempt_eq_error_iff]
    cases body.attempt <;> simp [Result.ofAttempt]
  · intro inner
    cases body.attempt <;> simp [Result.ofAttempt]

example : (catchFault {} (.all [.guarded (.raise .busError), .value 6, .raise .illegalInstruction,
    .raise .busError])).1 = .done (.fault .illegalInstruction) := rfl

end GlBridge.Window
