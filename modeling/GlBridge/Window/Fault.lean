import GlBridge.Text.Basic

/-!
# Faults in guarded calls

Some drivers crash in a call instead of failing.  Such a call is made under a guard: handlers for
four signals are installed, a place to jump to is remembered, and a signal raised in the call goes
back to that place.  Afterwards the handlers and the place of before are put back, so that guards
nest.

* `Signal`, `faultText` — the signals that guards catch, and how a fault is described;
* `Script` — a guarded run: values, raised signals, and further guards;
* `Thread`, `Script.run` — what a thread holds for its guards, and what a run does with it;
* `catchFault` — the result of a script under a guard.
-/

namespace GlBridge.Window

/-- The signals that a guard catches. -/
inductive Signal where
  | segmentationFault
  | busError
  | illegalInstruction
  | floatingPointException
deriving DecidableEq, Repr

namespace Signal

/-- The number of a signal. -/
def number : Signal → Int
  | segmentationFault => 11
  | busError => 7
  | illegalInstruction => 4
  | floatingPointException => 8

/-- The name of a signal. -/
def name : Signal → Text
  | segmentationFault => "SIGSEGV".toList
  | busError => "SIGBUS".toList
  | illegalInstruction => "SIGILL".toList
  | floatingPointException => "SIGFPE".toList

/-- Every signal that a guard catches. -/
def all : List Signal := [segmentationFault, busError, illegalInstruction, floatingPointException]

/-- The signal of a number. -/
def ofNumber? (n : Int) : Option Signal := all.find? (·.number == n)

end Signal

/-- The words for a fault with a signal of the given number. -/
def faultText (number : Int) : Text :=
  ((Signal.ofNumber? number).map Signal.name).getD "signal".toList
    ++ " (".toList ++ Text.ofInt number ++ ")".toList

/-- What happens on a signal. -/
inductive Handler where
  /-- What the process does by itself, by the address of the function that it has set.  Zero stands
  for the usual course. -/
  | inherited (address : Nat)
  /-- The guards' handler. -/
  | guarded
deriving DecidableEq, Repr

/-- Handlers with those of the signals that guards catch replaced, one after the other. -/
def setHandlers (handlers new : Signal → Handler) : Signal → Handler :=
  Signal.all.foldl
    (fun handlers signal other => if other = signal then new signal else handlers other) handlers

/-- What a thread holds for its guards.  A jump also puts back which signals are blocked, and the ones
that guards catch are not, so nothing is held for that. -/
structure Thread where
  handlers : Signal → Handler := fun _ => .inherited 0
  /-- The guard to jump to, counted from the outermost. -/
  jump : Option Nat := none
  /-- The signal caught last. -/
  caught : Option Signal := none

/-- A run under guards. -/
inductive Script (α : Type) where
  /-- A step that ends in a value. -/
  | value (result : α)
  /-- A step that raises a signal. -/
  | raise (signal : Signal)
  /-- A run under a guard of its own. -/
  | guarded (body : Script α)
  /-- Steps one after the other. -/
  | all (steps : List (Script α))

/-- What a run results in. -/
inductive Result (α : Type) where
  | value (result : α)
  /-- A guard whose body finished. -/
  | finished (result : Result α)
  /-- A guard whose body was ended by a signal. -/
  | fault (signal : Signal)
  | all (results : List (Result α))

/-- How a run ends. -/
inductive Outcome (β : Type) where
  | done (result : β)
  /-- Control goes to a guard. -/
  | jumped (target : Nat)
  /-- The signal takes its usual course. -/
  | killed (signal : Signal)

namespace Thread

/-- Raising a signal. -/
def raise (thread : Thread) (signal : Signal) : Outcome β × Thread :=
  match thread.handlers signal, thread.jump with
  | .guarded, some target => (.jumped target, { thread with caught := some signal })
  | _, _ => (.killed signal, thread)

/-- The number of a guard that is entered now. -/
def nextGuard (thread : Thread) : Nat :=
  match thread.jump with
  | none => 0
  | some outer => outer + 1

/-- The thread with a guard's handlers and place installed. -/
def enter (thread : Thread) : Thread :=
  { thread with
    handlers := setHandlers thread.handlers fun _ => .guarded
    jump := some thread.nextGuard }

/-- The thread with the handlers and the place of an earlier state put back. -/
def restore (thread before : Thread) : Thread :=
  { thread with
    handlers := setHandlers thread.handlers before.handlers
    jump := before.jump }

/-- What becomes of a guarded body's end. -/
def leave (before : Thread) : Outcome (Result α) × Thread → Outcome (Result α) × Thread
  | (.done result, thread) => (.done (.finished result), thread.restore before)
  | (.jumped target, thread) =>
    if target = before.nextGuard then
      match thread.caught with
      | some signal => (.done (.fault signal), thread.restore before)
      | none => (.jumped target, thread)
    else (.jumped target, thread)
  | (.killed signal, thread) => (.killed signal, thread)

end Thread

mutual

/-- Running a script. -/
def Script.run (thread : Thread) : Script α → Outcome (Result α) × Thread
  | .value result => (.done (.value result), thread)
  | .raise signal => thread.raise signal
  | .guarded body => thread.leave (body.run thread.enter)
  | .all steps =>
    match Script.runAll thread steps with
    | (.done results, thread) => (.done (.all results), thread)
    | (.jumped target, thread) => (.jumped target, thread)
    | (.killed signal, thread) => (.killed signal, thread)

/-- Running scripts in order, up to the first that does not finish. -/
def Script.runAll (thread : Thread) : List (Script α) → Outcome (List (Result α)) × Thread
  | [] => (.done [], thread)
  | step :: steps =>
    match step.run thread with
    | (.done result, thread) =>
      match Script.runAll thread steps with
      | (.done results, thread) => (.done (result :: results), thread)
      | (.jumped target, thread) => (.jumped target, thread)
      | (.killed signal, thread) => (.killed signal, thread)
    | (.jumped target, thread) => (.jumped target, thread)
    | (.killed signal, thread) => (.killed signal, thread)

end

/-- Running a script under a guard. -/
def catchFault (thread : Thread) (body : Script α) : Outcome (Result α) × Thread :=
  (Script.guarded body).run thread

end GlBridge.Window
