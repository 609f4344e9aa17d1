import GlBridge.Proofs.Window.Outcome

/-!
# Histories of a session

Applications use a session through five operations, one after the other.  A `Moment` is what there
is between two of them: the session, its backend's state, and the events so far.  `Moment.after`
lets a list of operations pass, the latest first, as everywhere where time is concerned.

An operation may be the program's last: where a buffer for pixels would be too large it ends midway,
and there is no moment after it.  Histories leave such operations out.

* `Operation.perform` — carrying out an operation;
* `Performed` — the outcomes of an operation, from those of the session's programs;
* `Ended` — how far an operation gets in which the program ends;
* `Moment.next_performed` — a step of a history is one of these outcomes, and adds its events;
* `Moment.after_keeps` — what these outcomes keep is kept by histories.
-/

namespace GlBridge.Window

variable {τ : Type}

/-! ## Operations -/

/-- What an application asks of a session. -/
inductive Operation where
  | createContext (config : Config) (share : Option Context)
  | destroyContext (context : Context)
  | makeCurrent (drawable : Option Drawable) (context : Option Context)
  | swapBuffers (drawable : Drawable)
  | swapInterval (interval : Int)

/-- Carrying out an operation, and whether the application is told of success.  Where it is told
nothing this counts as success. -/
def Operation.perform (backend : Backend τ) : Operation → SessionM τ Bool
  | createContext config share => return (← Session.createContext backend config share).toBool
  | destroyContext context => do
    Session.destroyContext backend context
    return true
  | makeCurrent drawable context => Session.makeCurrent backend drawable context
  | swapBuffers drawable => do
    Session.swapBuffers backend drawable
    return true
  | swapInterval interval => Session.swapInterval backend interval

/-- The outcomes of an operation. -/
inductive Performed (s : Session) : Operation → Bool → Session → Trace → Prop where
  | createdContext {config : Config} {share : Option Context} {minors : List ℕ}
      {result : Except Text Context} {s' : Session} {events : Trace}
      (h : Created config share s minors result s' events) :
      Performed s (.createContext config share) result.toBool s' events
  | destroyedContext {context : Context} {s' : Session} {events : Trace}
      (h : Destroyed context s s' events) : Performed s (.destroyContext context) true s' events
  | madeCurrent {drawable : Option Drawable} {context : Option Context} {result : Bool}
      {s' : Session} {events : Trace} (h : MadeCurrent s drawable context result s' events) :
      Performed s (.makeCurrent drawable context) result s' events
  | swappedBuffers {drawable : Drawable} {s' : Session} {events : Trace}
      (h : Swapped drawable s s' events) : Performed s (.swapBuffers drawable) true s' events
  | setInterval (interval : Int) (result : Bool) :
      Performed s (.swapInterval interval) result s [⟨.swapInterval interval, result⟩]

/-- The outcomes of a swap are those of its program. -/
lemma Performed.swapped {drawable : Drawable} {result : Bool} {s s' : Session} {events : Trace}
    (h : Performed s (.swapBuffers drawable) result s' events) : Swapped drawable s s' events := by
  cases h with
  | swappedBuffers h => exact h

/-- How far an operation gets in which the program ends.  Only showing a context on a drawable and
following a drawable's size can come to this. -/
inductive Ended (s : Session) : Operation → Session → Trace → Prop where
  | outshown {drawable : Option Drawable} {context : Option Context} {s' : Session} {events : Trace}
      (h : Outshown s drawable context s' events) : Ended s (.makeCurrent drawable context) s' events
  | outgrown {drawable : Drawable} {width height : ℕ} {pixels : Bytes} {s' : Session}
      {events : Trace} (hmode : s.mode = .pbufferCopy width height pixels)
      (h : Outgrown drawable width height s s' events) : Ended s (.swapBuffers drawable) s' events

lemma Operation.perform_does (backend : Backend τ) (operation : Operation) (s : Session) :
    Does (operation.perform backend.recorded) s fun result s' events =>
      Performed s operation result s' events ∨ Ended s operation s' events := by
  cases operation with
  | createContext config share =>
      refine Does.bind (R := fun result s' events => ∃ minors,
        Created config share s minors result s' events) ?_ ?_
      · refine Does.get_bind ?_
        exact (createContextOf_does backend config share s _).mono fun _ _ _ h => ⟨_, h⟩
      · rintro result s' events ⟨minors, h⟩
        exact Does.pure (Or.inl (.createdContext h))
  | destroyContext context =>
      refine Does.bind (destroyContext_does backend context s) fun _ _ _ h => ?_
      exact Does.pure (Or.inl (.destroyedContext h))
  | makeCurrent drawable context =>
      exact (makeCurrent_does backend drawable context s).mono fun _ _ _ h =>
        h.imp .madeCurrent .outshown
  | swapBuffers drawable =>
      refine Does.bind (swapBuffers_does backend drawable s) ?_
      rintro _ _ _ (h | ⟨width, height, pixels, hmode, h⟩)
      · exact Does.pure (Or.inl (.swappedBuffers h))
      · exact Does.pure (Or.inr (.outgrown hmode h))
  | swapInterval interval => exact Does.ask fun result => Or.inl (.setInterval interval result)

lemma Ended.ended {operation : Operation} {s s' : Session} {events : Trace}
    (h : Ended s operation s' events) : s'.ended = true := by
  cases h with
  | outshown h => obtain ⟨_, _, _, ⟨_⟩⟩ := h; rfl
  | outgrown _ h => obtain ⟨_⟩ := h; rfl

/-- A swap that comes to an outcome does not end the program. -/
lemma Swapped.ended {drawable : Drawable} {s s' : Session} {events : Trace}
    (h : Swapped drawable s s' events) : s'.ended = s.ended := by
  cases h with
  | copied _ _ hresized hcopied => cases hresized <;> cases hcopied <;> rfl
  | _ => rfl

/-! ## Moments -/

/-- What there is between two operations. -/
structure Moment (τ : Type) where
  session : Session
  state : τ
  trace : Trace := []

namespace Moment

/-- The first moment of a session. -/
def first (forcePbuffer : Bool) (glesMajor : Int) (state : τ) : Moment τ :=
  { session := { forcePbuffer, glesMajor }, state }

/-- What an operation comes to by the time it or the program ends. -/
def carriedOut (backend : Backend τ) (operation : Operation) (now : Moment τ) : Bool × Moment τ :=
  let ((result, session), (state, trace)) :=
    operation.perform backend.recorded now.session (now.state, now.trace)
  (result, { session, state, trace })

/-- Whether the program ends in an operation. -/
def ends (backend : Backend τ) (operation : Operation) (now : Moment τ) : Bool :=
  (now.carriedOut backend operation).2.session.ended

/-- The result of an operation and the moment after it.  There is no such moment if the program ends
in the operation; it is then left out. -/
def next (backend : Backend τ) (operation : Operation) (now : Moment τ) : Bool × Moment τ :=
  if now.ends backend operation then (false, now) else now.carriedOut backend operation

/-- The moment after some operations, the latest first. -/
def after (backend : Backend τ) (start : Moment τ) : List Operation → Moment τ
  | [] => start
  | operation :: earlier => ((start.after backend earlier).next backend operation).2

/-- An operation comes to one of its outcomes, or to the end of the program. -/
theorem carriedOut_performed (backend : Backend τ) (operation : Operation) (now : Moment τ) :
    ∃ events, (now.carriedOut backend operation).2.trace = events ++ now.trace ∧
      (Performed now.session operation (now.carriedOut backend operation).1
          (now.carriedOut backend operation).2.session events ∨
        Ended now.session operation (now.carriedOut backend operation).2.session events) :=
  operation.perform_does backend now.session now.state now.trace

lemma next_of_ends {backend : Backend τ} {operation : Operation} {now : Moment τ}
    (h : now.ends backend operation = true) : now.next backend operation = (false, now) := if_pos h

lemma next_of_not_ends {backend : Backend τ} {operation : Operation} {now : Moment τ}
    (h : now.ends backend operation = false) :
    now.next backend operation = now.carriedOut backend operation := if_neg (by simp [h])

/-- Where the program goes on, a step of a history is an outcome of the operation. -/
theorem next_performed {backend : Backend τ} {operation : Operation} {now : Moment τ}
    (h : now.ends backend operation = false) :
    ∃ events, (now.next backend operation).2.trace = events ++ now.trace ∧
      Performed now.session operation (now.next backend operation).1
        (now.next backend operation).2.session events := by
  obtain ⟨events, htrace, hperformed | hended⟩ := carriedOut_performed backend operation now
  · rw [next_of_not_ends h]
    exact ⟨events, htrace, hperformed⟩
  · exact absurd (h.symm.trans hended.ended) Bool.false_ne_true

/-- What goes on after an operation: nothing is added if the program ended in it. -/
theorem next_trace (backend : Backend τ) (operation : Operation) (now : Moment τ) :
    ∃ events, (now.next backend operation).2.trace = events ++ now.trace := by
  cases h : now.ends backend operation with
  | true => exact ⟨[], by rw [next_of_ends h]; rfl⟩
  | false =>
      obtain ⟨events, htrace, _⟩ := next_performed h
      exact ⟨events, htrace⟩

/-- As long as there are moments, the program has not ended. -/
lemma after_running (backend : Backend τ) {start : Moment τ} (hstart : start.session.ended = false) :
    ∀ operations : List Operation, (start.after backend operations).session.ended = false
  | [] => hstart
  | operation :: earlier => by
      cases hends : (start.after backend earlier).ends backend operation with
      | true =>
          rw [after, next_of_ends hends]
          exact after_running backend hstart earlier
      | false =>
          rw [after, next_of_not_ends hends]
          exact hends

/-- A swap in which the program ends has got as far as `Outgrown` says. -/
lemma outgrown_of_ends {backend : Backend τ} {drawable : Drawable} {now : Moment τ}
    (hrunning : now.session.ended = false) (hends : now.ends backend (.swapBuffers drawable) = true) :
    ∃ width height pixels events, now.session.mode = .pbufferCopy width height pixels ∧
      (now.carriedOut backend (.swapBuffers drawable)).2.trace = events ++ now.trace ∧
      Outgrown drawable width height now.session
        (now.carriedOut backend (.swapBuffers drawable)).2.session events := by
  obtain ⟨events, htrace, h | h⟩ := carriedOut_performed backend (.swapBuffers drawable) now
  · exact absurd ((hends.symm.trans h.swapped.ended).trans hrunning) (by simp)
  · cases h with
    | outgrown hmode h => exact ⟨_, _, _, events, hmode, htrace, h⟩

/-- **A history keeps what its operations keep.**  They may keep it under an assumption on all that
has happened, if the assumption then was met at earlier moments too. -/
theorem after_keeps_of (backend : Backend τ) (start : Moment τ) (assumed : Trace → Prop)
    (invariant : Session → Trace → Prop)
    (hassumed : ∀ {later earlier : Trace}, assumed (later ++ earlier) → assumed earlier)
    (hstart : invariant start.session start.trace)
    (hstep : ∀ {operation : Operation} {result : Bool} {s s' : Session} {events earlier : Trace},
      Performed s operation result s' events → assumed (events ++ earlier) → invariant s earlier →
        invariant s' (events ++ earlier)) :
    ∀ operations : List Operation, assumed (start.after backend operations).trace →
      invariant (start.after backend operations).session (start.after backend operations).trace
  | [], _ => hstart
  | operation :: earlier, htrace => by
      have hearlier :=
        after_keeps_of backend start assumed invariant hassumed hstart hstep earlier
      cases hends : (start.after backend earlier).ends backend operation with
      | true =>
          rw [after, next_of_ends hends] at htrace ⊢
          exact hearlier htrace
      | false =>
          obtain ⟨events, hevents, h⟩ := next_performed hends
          rw [after, hevents] at htrace ⊢
          exact hstep h htrace (hearlier (hassumed htrace))

theorem after_keeps (backend : Backend τ) (start : Moment τ) (invariant : Session → Trace → Prop)
    (hstart : invariant start.session start.trace)
    (hstep : ∀ {operation : Operation} {result : Bool} {s s' : Session} {events earlier : Trace},
      Performed s operation result s' events → invariant s earlier →
        invariant s' (events ++ earlier)) (operations : List Operation) :
    invariant (start.after backend operations).session (start.after backend operations).trace :=
  after_keeps_of backend start (fun _ => True) invariant (fun _ => trivial) hstart
    (fun h _ => hstep h) operations trivial

end Moment

end GlBridge.Window
