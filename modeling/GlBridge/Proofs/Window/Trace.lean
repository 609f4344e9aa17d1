import Mathlib.Data.List.Basic
import GlBridge.Window.Session

/-!
# What passes between a session and its backend

A backend answers from a state of its own, so nothing about it can be assumed beyond its answers.
This file makes the answers visible and reads off them what a platform would have to show for it.

**Recording.**  `Backend.recorded` writes down every call with its answer and answers as before.
A `Trace` has the latest event first, so that what happened *before* an event is the tail behind it,
and everything about traces is one recursion.

**Reading a trace.**  `Trace.surfaces` and `Trace.contexts` are the handles that were created and
not destroyed since, `Trace.bound` is the binding that the last successful `makeCurrent` left.

**Programs.**  `Does x s R` says that from the session `s` and whatever the backend answers, the
program `x` ends in a result, a session and new events that `R` relates.  It has one rule for each
way in which the session's programs are put together.
-/

namespace GlBridge.Window

/-- A call with the answer to it. -/
structure Event where
  call : Call
  answer : call.Answer

/-- The events so far, the latest first. -/
abbrev Trace := List Event

/-- The backend that answers as before and writes down the events. -/
def Backend.recorded {τ : Type} (backend : Backend τ) : Backend (τ × Trace) where
  answer call state :=
    let answered := backend.answer call state.1
    (answered.1, (answered.2, ⟨call, answered.1⟩ :: state.2))

/-- What a thread has bound. -/
structure Binding where
  surface : Option Surface := none
  context : Option Context := none
deriving DecidableEq, Repr

/-! ## Reading a trace -/

namespace Trace

/-- The surfaces that were created and not destroyed since.  A window surface that faults or is
refused is not created. -/
def surfaces : Trace → List Surface
  | [] => []
  | ⟨.createWindowSurface _ _, .ok (some surface)⟩ :: earlier => surface :: surfaces earlier
  | ⟨.createPbufferSurface _ _ _, some surface⟩ :: earlier => surface :: surfaces earlier
  | ⟨.destroySurface surface, _⟩ :: earlier => (surfaces earlier).filter (· ≠ surface)
  | _ :: earlier => surfaces earlier

/-- The contexts that were created and not destroyed since. -/
def contexts : Trace → List Context
  | [] => []
  | ⟨.createContext _ _ _ _, some context⟩ :: earlier => context :: contexts earlier
  | ⟨.destroyContext context, _⟩ :: earlier => (contexts earlier).filter (· ≠ context)
  | _ :: earlier => contexts earlier

/-- What is bound: the arguments of the last `makeCurrent` that succeeded. -/
def bound : Trace → Binding
  | [] => {}
  | ⟨.makeCurrent surface context, true⟩ :: _ => { surface, context }
  | _ :: earlier => bound earlier

/-- Every event was fine in view of what came before it. -/
def Always (fine : Event → Trace → Prop) : Trace → Prop
  | [] => True
  | event :: earlier => fine event earlier ∧ Always fine earlier

instance {fine : Event → Trace → Prop} [∀ event earlier, Decidable (fine event earlier)] :
    ∀ trace, Decidable (Always fine trace)
  | [] => .isTrue trivial
  | event :: earlier =>
    have : Decidable (Always fine earlier) := instDecidableAlways earlier
    inferInstanceAs (Decidable (fine event earlier ∧ Always fine earlier))

variable {fine : Event → Trace → Prop}

@[simp] lemma always_nil : Always fine [] := trivial

@[simp] lemma always_cons {event : Event} {earlier : Trace} :
    Always fine (event :: earlier) ↔ fine event earlier ∧ Always fine earlier := Iff.rfl

lemma Always.of_append {later earlier : Trace} (h : Always fine (later ++ earlier)) :
    Always fine earlier := by
  induction later with
  | nil => exact h
  | cons event later ih => exact ih h.2

/-- In other words, `fine` holds wherever the trace is cut. -/
lemma always_iff {trace : Trace} :
    Always fine trace ↔ ∀ later event earlier, trace = later ++ event :: earlier →
      fine event earlier := by
  constructor
  · rintro h later event earlier rfl
    exact h.of_append.1
  · intro h
    induction trace with
    | nil => trivial
    | cons event earlier ih =>
        refine ⟨h [] event earlier rfl, ih ?_⟩
        rintro later event' earlier' rfl
        exact h (event :: later) event' earlier' rfl

end Trace

/-! ## Programs -/

variable {τ α β : Type}

/-- What a program does from a session: whatever the backend answers, `R` relates its result, the
session it leaves and the events it adds. -/
def Does (x : SessionM (τ × Trace) α) (s : Session) (R : α → Session → Trace → Prop) : Prop :=
  ∀ (state : τ) (earlier : Trace), ∃ events,
    (x s (state, earlier)).2.2 = events ++ earlier ∧
      R (x s (state, earlier)).1.1 (x s (state, earlier)).1.2 events

namespace Does

variable {s s' : Session} {R : α → Session → Trace → Prop} {Q : β → Session → Trace → Prop}

lemma pure {a : α} (h : R a s []) : Does (Pure.pure a : SessionM (τ × Trace) α) s R :=
  fun _ _ => ⟨[], rfl, h⟩

lemma bind {x : SessionM (τ × Trace) α} {f : α → SessionM (τ × Trace) β} (hx : Does x s R)
    (hf : ∀ a s' events, R a s' events →
      Does (f a) s' fun b s'' later => Q b s'' (later ++ events)) :
    Does (x >>= f) s Q := by
  intro state earlier
  obtain ⟨events, htrace, hR⟩ := hx state earlier
  obtain ⟨later, hlater, hQ⟩ := hf _ _ _ hR (x s (state, earlier)).2.1 (events ++ earlier)
  rw [← htrace] at hlater hQ
  exact ⟨later ++ events, by rw [List.append_assoc, ← htrace]; exact hlater, hQ⟩

lemma mono {x : SessionM (τ × Trace) α} {R' : α → Session → Trace → Prop} (hx : Does x s R)
    (h : ∀ a s' events, R a s' events → R' a s' events) : Does x s R' := by
  intro state earlier
  obtain ⟨events, htrace, hR⟩ := hx state earlier
  exact ⟨events, htrace, h _ _ _ hR⟩

/-- A choice.  Both ways have to be reckoned with. -/
lemma ite {c : Prop} [Decidable c] {x y : SessionM (τ × Trace) α} (hx : c → Does x s R)
    (hy : ¬ c → Does y s R) : Does (if c then x else y) s R := by
  split_ifs with h
  · exact hx h
  · exact hy h

/-- Reading the session. -/
lemma get_bind {f : Session → SessionM (τ × Trace) β} (h : Does (f s) s Q) :
    Does (MonadState.get >>= f) s Q := h

/-- Writing the session. -/
lemma set_bind {f : PUnit → SessionM (τ × Trace) β} (h : Does (f ⟨⟩) s' Q) :
    Does (MonadStateOf.set s' >>= f) s Q := h

lemma modify_bind {change : Session → Session} {f : PUnit → SessionM (τ × Trace) β}
    (h : Does (f ⟨⟩) (change s) Q) : Does (modify change >>= f) s Q := h

lemma modify {change : Session → Session} {R : PUnit → Session → Trace → Prop}
    (h : R ⟨⟩ (change s) []) : Does (modify change : SessionM (τ × Trace) PUnit) s R :=
  fun _ _ => ⟨[], rfl, h⟩

/-- Asking the backend: every answer has to be reckoned with. -/
lemma ask {backend : Backend τ} {call : Call} {R : call.Answer → Session → Trace → Prop}
    (h : ∀ answer, R answer s [⟨call, answer⟩]) : Does (Session.ask backend.recorded call) s R :=
  fun _ _ => ⟨[_], rfl, h _⟩

lemma ask_bind {backend : Backend τ} {call : Call} {f : call.Answer → SessionM (τ × Trace) β}
    (h : ∀ answer, Does (f answer) s fun b s' later => Q b s' (later ++ [⟨call, answer⟩])) :
    Does (Session.ask backend.recorded call >>= f) s Q :=
  bind (R := fun answer s' events => s' = s ∧ events = [⟨call, answer⟩])
    (ask fun _ => ⟨rfl, rfl⟩) (by rintro answer _ _ ⟨rfl, rfl⟩; exact h answer)

end Does

end GlBridge.Window
