import Mathlib.Data.List.Basic
import GlBridge.Gl.State

/-!
# What passes between the bridge and the native side

A native side answers from a state of its own.  `Driver.recorded` writes down every call with its
answer, and answers as before, so that what the bridge asks, and how it takes the answers, can be
read off the events.  A trace has the latest event first.

* `Does x R` — whatever the native side answers, the calls `x` end in a result and new events that
  `R` relates;
* `Acts x world R` — in a world, `x` comes to an end, and `R` relates its result, the world that it
  leaves and the new events.

Both have one rule for each way in which they are put together.
-/

namespace GlBridge.Gl

/-- A call with the answer to it. -/
structure Event where
  call : Call
  answer : call.Answer

/-- The events so far, the latest first. -/
abbrev Trace := List Event

/-- The native side that answers as before and writes down the events. -/
def Driver.recorded {σ : Type} (driver : Driver σ) : Driver (σ × Trace) where
  answer call state :=
    let answered := driver.answer call state.1
    (answered.1, (answered.2, ⟨call, answered.1⟩ :: state.2))
  provides state function := driver.provides state.1 function

variable {σ α β : Type}

/-- What calls do: whatever the native side answers, `R` relates their result and the events. -/
def Does (x : NativeM (σ × Trace) α) (R : α → Trace → Prop) : Prop :=
  ∀ (native : σ) (earlier : Trace), ∃ a native' events,
    x (native, earlier) = (a, native', events ++ earlier) ∧ R a events

namespace Does

variable {R : α → Trace → Prop} {Q : β → Trace → Prop}

lemma pure {a : α} (h : R a []) : Does (Pure.pure a : NativeM (σ × Trace) α) R :=
  fun _ _ => ⟨a, _, [], rfl, h⟩

/-- One call: every answer has to be reckoned with. -/
lemma call (driver : Driver σ) (c : Call) :
    Does (Gl.call driver.recorded c) fun answer events => events = [⟨c, answer⟩] :=
  fun _ _ => ⟨_, _, _, rfl, rfl⟩

lemma bind {x : NativeM (σ × Trace) α} {f : α → NativeM (σ × Trace) β} (hx : Does x R)
    (hf : ∀ a events, R a events → Does (f a) fun b later => Q b (later ++ events)) :
    Does (x >>= f) Q := by
  intro native earlier
  obtain ⟨a, native₁, events, hrun, hR⟩ := hx native earlier
  obtain ⟨b, native₂, later, hrun', hQ⟩ := hf a events hR native₁ (events ++ earlier)
  refine ⟨b, native₂, later ++ events, ?_, hQ⟩
  rw [List.append_assoc, ← hrun']
  exact congrArg (fun run => f run.1 run.2) hrun

lemma mono {x : NativeM (σ × Trace) α} {R' : α → Trace → Prop} (hx : Does x R)
    (h : ∀ a events, R a events → R' a events) : Does x R' := by
  intro native earlier
  obtain ⟨a, native', events, hrun, hR⟩ := hx native earlier
  exact ⟨a, native', events, hrun, h _ _ hR⟩

end Does

/-- What part of an application's call does in a world. -/
def Acts (x : EntryM (σ × Trace) α) (world : World (σ × Trace))
    (R : α → World (σ × Trace) → Trace → Prop) : Prop :=
  ∃ a world' events, x world = .ok (a, world') ∧
    world'.native.2 = events ++ world.native.2 ∧ R a world' events

namespace Acts

variable {world : World (σ × Trace)} {R : α → World (σ × Trace) → Trace → Prop}
  {Q : β → World (σ × Trace) → Trace → Prop}

lemma pure {a : α} (h : R a world []) : Acts (Pure.pure a : EntryM (σ × Trace) α) world R :=
  ⟨a, world, [], rfl, rfl, h⟩

lemma bind {x : EntryM (σ × Trace) α} {f : α → EntryM (σ × Trace) β} (hx : Acts x world R)
    (hf : ∀ a world' events, R a world' events →
      Acts (f a) world' fun b world'' later => Q b world'' (later ++ events)) :
    Acts (x >>= f) world Q := by
  obtain ⟨a, world₁, events, hrun, htrace, hR⟩ := hx
  obtain ⟨b, world₂, later, hrun', htrace', hQ⟩ := hf a world₁ events hR
  refine ⟨b, world₂, later ++ events, ?_, ?_, hQ⟩
  · rw [← hrun']
    exact congrArg (fun run => run.bind fun run => f run.1 run.2) hrun
  · rw [htrace', htrace, List.append_assoc]

end Acts

end GlBridge.Gl
