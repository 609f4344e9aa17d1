import GlBridge.Proofs.Window.History

/-!
# The fallback from window surfaces is for good

A call for a window's own surface can crash a driver, so after the first one that fails no other one
is made.  The session remembers the failure in one flag, which only `Attempted` reads and writes.

**Attempts.**  `Event.asksWindow` says which calls these are, and `Event.failsWindow` which of them
came to nothing.  Every other program of a session leaves both the flag and these calls alone
(`LeavesWindows`).

**The latch.**  `Latched` says what the flag and the events so far have to do with each other: it is
set if and only if an attempt has failed, and every attempt was permitted when it was made
(`Event.Permitted`).

* **`Moment.fallback_latched`** — this holds at every moment of every history, an operation sets the
  flag if and only if an attempt fails during it, and nothing clears it.
-/

namespace GlBridge.Window

variable {s s' s'' : Session} {earlier events : Trace} {forcePbuffer : Bool}

/-! ## Attempts -/

namespace Event

/-- Whether an event is a call for a window's own surface. -/
def asksWindow : Event → Bool
  | ⟨.createWindowSurface _ _, _⟩ => true
  | _ => false

/-- Whether an event is such a call that faulted or gave no surface. -/
def failsWindow : Event → Bool
  | ⟨.createWindowSurface _ _, .ok (some _)⟩ => false
  | ⟨.createWindowSurface _ _, _⟩ => true
  | _ => false

/-- Only a call for a window surface can fail to make one. -/
lemma asksWindow_of_failsWindow {event : Event} (h : event.failsWindow = true) :
    event.asksWindow = true := by
  obtain ⟨call, answer⟩ := event
  cases call with
  | createWindowSurface => rfl
  | _ => exact absurd h Bool.false_ne_true

/-- A call for a window's own surface is made only if surfaces are not off screen anyway, none such
call has failed before, and the configuration has just been found to allow windows. -/
def Permitted (forcePbuffer : Bool) : Event → Trace → Prop
  | ⟨.createWindowSurface config _, _⟩, earlier =>
    forcePbuffer = false ∧ (∀ event ∈ earlier, event.failsWindow = false) ∧
      ∃ answer before, AllowsWindow answer ∧
        earlier = ⟨.configAttribute config surfaceTypeAttribute, answer⟩ :: before
  | _, _ => True

/-- Any other call is permitted. -/
lemma permitted_of_not_asksWindow {event : Event} (h : event.asksWindow = false) :
    event.Permitted forcePbuffer earlier := by
  obtain ⟨call, answer⟩ := event
  cases call with
  | createWindowSurface => exact Bool.noConfusion h
  | _ => trivial

end Event

/-- An attempt that ended otherwise than with a surface has failed. -/
lemma failsWindow_of_outcome {config : Config} {drawable : Drawable}
    {outcome : Except Signal (Option Surface)} (h : ∀ surface, outcome ≠ .ok (some surface)) :
    Event.failsWindow ⟨.createWindowSurface config drawable, outcome⟩ = true := by
  match outcome with
  | .error _ => rfl
  | .ok none => rfl
  | .ok (some surface) => exact absurd rfl (h surface)

/-! ## Programs that make no attempts -/

/-- No window surface is asked for, and what decides about that stays as it is. -/
structure LeavesWindows (s s' : Session) (events : Trace) : Prop where
  asks : ∀ event ∈ events, event.asksWindow = false
  failed : s'.nativeWindowFailed = s.nativeWindowFailed
  force : s'.forcePbuffer = s.forcePbuffer

namespace LeavesWindows

lemma refl (s : Session) : LeavesWindows s s [] := ⟨by simp, rfl, rfl⟩

lemma trans {later : Trace} (h : LeavesWindows s s' events) (h' : LeavesWindows s' s'' later) :
    LeavesWindows s s'' (later ++ events) where
  asks := List.forall_mem_append.2 ⟨h'.asks, h.asks⟩
  failed := h'.failed.trans h.failed
  force := h'.force.trans h.force

end LeavesWindows

/-- Tearing down asks for no window surface. -/
lemma TornDown.leavesWindows (h : TornDown s s' events) : LeavesWindows s s' events := by
  cases h <;> exact ⟨by simp [Event.asksWindow], rfl, rfl⟩

lemma Selected.leavesWindows {drawable : Drawable} (h : Selected drawable s s' events) :
    LeavesWindows s s' events := by
  cases h with
  | same => exact .refl s
  | other _ h =>
      obtain ⟨hasks, hfailed, hforce⟩ := h.leavesWindows
      exact ⟨hasks, hfailed, hforce⟩

/-- Creating a context makes no surface. -/
lemma Created.leavesWindows {config : Config} {share : Option Context} {minors : List ℕ}
    {result : Except Text Context} (h : Created config share s minors result s' events) :
    LeavesWindows s s' events := by
  induction h with
  | exhausted => exact .refl s
  | accepted => exact ⟨by simp [Event.asksWindow], rfl, rfl⟩
  | refused _ ih =>
      refine ⟨List.forall_mem_append.2 ⟨ih.asks, ?_⟩, ih.failed, ih.force⟩
      simp [Event.asksWindow]

lemma Dropped.leavesWindows {context : Context} (h : Dropped context s s' events) :
    LeavesWindows s s' events := by
  cases h with
  | current _ _ h =>
      obtain ⟨hasks, hfailed, hforce⟩ := h.leavesWindows
      refine ⟨List.forall_mem_append.2 ⟨hasks, ?_⟩, hfailed, hforce⟩
      simp [Event.asksWindow]
  | other => exact .refl s

lemma Destroyed.leavesWindows {context : Context} (h : Destroyed context s s' events) :
    LeavesWindows s s' events := by
  cases h with
  | known h =>
      obtain ⟨hasks, hfailed, hforce⟩ := h.leavesWindows
      exact ⟨List.forall_mem_cons.2 ⟨rfl, hasks⟩, hfailed, hforce⟩
  | unknown h => exact h.leavesWindows

/-- A window that is followed has an off-screen buffer, and gets another one. -/
lemma Resized.leavesWindows {drawable : Drawable} {width height : ℕ}
    (h : Resized drawable width height s s' events) : LeavesWindows s s' events := by
  cases h <;> exact ⟨by simp [Event.asksWindow], rfl, rfl⟩

lemma Copied.leavesWindows {drawable : Drawable} (h : Copied drawable s s' events) :
    LeavesWindows s s' events := by
  cases h <;> exact ⟨by simp [Event.asksWindow], rfl, rfl⟩

lemma Swapped.leavesWindows {drawable : Drawable} (h : Swapped drawable s s' events) :
    LeavesWindows s s' events := by
  cases h with
  | idle => exact .refl s
  | native => exact ⟨by simp [Event.asksWindow], rfl, rfl⟩
  | copied _ _ hresized hcopied => exact hresized.leavesWindows.trans hcopied.leavesWindows

/-! ## The latch -/

/-- The flag is set if and only if an attempt has failed, and every attempt was permitted. -/
structure Latched (forcePbuffer : Bool) (s : Session) (trace : Trace) : Prop where
  force : s.forcePbuffer = forcePbuffer
  failed_iff : s.nativeWindowFailed = true ↔ ∃ event ∈ trace, event.failsWindow = true
  permitted : trace.Always (Event.Permitted forcePbuffer)

namespace Latched

/-- Without the flag, no attempt has failed so far. -/
lemma no_failure (h : Latched forcePbuffer s earlier) (hopen : s.nativeWindowFailed = false) :
    ∀ event ∈ earlier, event.failsWindow = false := by
  intro event hevent
  by_contra hfails
  rw [Bool.not_eq_false] at hfails
  rw [h.failed_iff.2 ⟨event, hevent, hfails⟩] at hopen
  exact Bool.noConfusion hopen

/-- Where no attempt is made, nothing changes. -/
lemma leave (h : Latched forcePbuffer s earlier) (events : Trace)
    (hleaves : LeavesWindows s s' events) : Latched forcePbuffer s' (events ++ earlier) := by
  obtain ⟨hasks, hfailed, hforce⟩ := hleaves
  refine ⟨hforce.trans h.force, ?_, ?_⟩
  · rw [hfailed, h.failed_iff]
    constructor
    · rintro ⟨event, hevent, hfails⟩
      exact ⟨event, List.mem_append_right _ hevent, hfails⟩
    · rintro ⟨event, hevent, hfails⟩
      refine ⟨event, (List.mem_append.1 hevent).resolve_left fun hnew => ?_, hfails⟩
      have hasked := Event.asksWindow_of_failsWindow hfails
      rw [hasks event hnew] at hasked
      exact Bool.noConfusion hasked
  · induction events with
    | nil => exact h.permitted
    | cons event events ih =>
        rw [List.forall_mem_cons] at hasks
        exact ⟨Event.permitted_of_not_asksWindow hasks.1, ih hasks.2⟩

end Latched

/-- What an attempt adds is permitted, since the flag is not set. -/
lemma Latched.permitted_attempt (h : Latched forcePbuffer s earlier) {config : Config}
    {drawable : Drawable} {answer : Option Int} {outcome : Except Signal (Option Surface)}
    (hopen : s.forcePbuffer = false ∧ s.nativeWindowFailed = false) (hanswer : AllowsWindow answer) :
    Trace.Always (Event.Permitted forcePbuffer)
      (⟨.createWindowSurface config drawable, outcome⟩
        :: ⟨.configAttribute config surfaceTypeAttribute, answer⟩ :: earlier) := by
  refine ⟨⟨h.force.symm.trans hopen.1, ?_, answer, earlier, hanswer, rfl⟩, trivial, h.permitted⟩
  exact List.forall_mem_cons.2 ⟨rfl, h.no_failure hopen.2⟩

/-- An attempt is permitted, and sets the flag if it fails. -/
lemma Attempted.latched {config : Config} {drawable : Drawable} {result : Option Surface}
    (h : Attempted config drawable s result s' events) (hlatched : Latched forcePbuffer s earlier) :
    Latched forcePbuffer s' (events ++ earlier) := by
  cases h with
  | barred => exact hlatched
  | unsupported => exact hlatched.leave [_] ⟨by simp [Event.asksWindow], rfl, rfl⟩
  | @made answer hopen hanswer surface =>
      refine ⟨hlatched.force, ?_, hlatched.permitted_attempt hopen hanswer⟩
      rw [hlatched.failed_iff]
      simp [Event.failsWindow]
  | @failed answer outcome hopen hanswer houtcome =>
      refine ⟨hlatched.force, iff_of_true rfl ?_, hlatched.permitted_attempt hopen hanswer⟩
      exact ⟨_, List.mem_cons_self, failsWindow_of_outcome houtcome⟩

/-- Initializing makes one attempt at most. -/
lemma Initialized.latched {config : Config} {drawable : Drawable} {ok : Bool}
    (h : Initialized config drawable s ok s' events) (hlatched : Latched forcePbuffer s earlier) :
    Latched forcePbuffer s' (events ++ earlier) := by
  cases h with
  | native h => exact (h.latched hlatched).leave [] ⟨by simp, rfl, rfl⟩
  | sizeless h =>
      exact (h.latched hlatched).leave [_] ⟨by simp [Event.asksWindow], rfl, rfl⟩
  | refused h =>
      exact (h.latched hlatched).leave [_, _] ⟨by simp [Event.asksWindow], rfl, rfl⟩
  | pbuffer h =>
      exact (h.latched hlatched).leave [_, _] ⟨by simp [Event.asksWindow], rfl, rfl⟩

/-- Where there is a surface, no attempt is made. -/
lemma Ensured.latched {config : Config} {drawable : Drawable} {ok : Bool}
    (h : Ensured config drawable s ok s' events) (hlatched : Latched forcePbuffer s earlier) :
    Latched forcePbuffer s' (events ++ earlier) := by
  cases h with
  | already => exact hlatched
  | made _ h => exact h.latched hlatched

/-- Nor is another one made when a context is made current. -/
lemma MadeCurrent.latched {drawable : Option Drawable} {context : Option Context} {result : Bool}
    (h : MadeCurrent s drawable context result s' events)
    (hlatched : Latched forcePbuffer s earlier) : Latched forcePbuffer s' (events ++ earlier) := by
  -- In all cases but the first two a surface is made after turning to the drawable.
  have hmade {s₁ s₂ : Session} {selected ensured : Trace} {config : Config} {drawable : Drawable}
      {ok : Bool} (hselected : Selected drawable s s₁ selected)
      (hensured : Ensured config drawable s₁ ok s₂ ensured) :
      Latched forcePbuffer s₂ (ensured ++ selected ++ earlier) := by
    rw [List.append_assoc]
    exact hensured.latched (hlatched.leave _ hselected.leavesWindows)
  cases h with
  | released => exact hlatched.leave [_] ⟨by simp [Event.asksWindow], rfl, rfl⟩
  | unknown => exact hlatched
  | surfaceless _ hselected hensured => exact hmade hselected hensured
  | refused _ hselected hensured =>
      exact (hmade hselected hensured).leave [_] ⟨by simp [Event.asksWindow], rfl, rfl⟩
  | bound _ hselected hensured =>
      exact (hmade hselected hensured).leave [_] ⟨by simp [Event.asksWindow], rfl, rfl⟩

/-- **An operation keeps the latch.** -/
lemma Performed.latched {operation : Operation} {result : Bool}
    (h : Performed s operation result s' events) (hlatched : Latched forcePbuffer s earlier) :
    Latched forcePbuffer s' (events ++ earlier) := by
  cases h with
  | createdContext h => exact hlatched.leave _ h.leavesWindows
  | destroyedContext h => exact hlatched.leave _ h.leavesWindows
  | madeCurrent h => exact h.latched hlatched
  | swappedBuffers h => exact hlatched.leave _ h.leavesWindows
  | setInterval => exact hlatched.leave [_] ⟨by simp [Event.asksWindow], rfl, rfl⟩

/-- How far an operation gets in which the program ends keeps the latch too. -/
lemma Ended.latched {operation : Operation} (h : Ended s operation s' events)
    (hlatched : Latched forcePbuffer s earlier) : Latched forcePbuffer s' (events ++ earlier) := by
  cases h with
  | outshown h =>
      obtain ⟨_, hselected, _, ⟨hattempted, _, _, _, _⟩⟩ := h
      rw [List.append_assoc]
      exact (hattempted.latched (hlatched.leave _ hselected.leavesWindows)).leave [_, _]
        ⟨by simp [Event.asksWindow], rfl, rfl⟩
  | outgrown _ h =>
      obtain ⟨_⟩ := h
      exact hlatched.leave [_, _, _, _] ⟨by simp [Event.asksWindow], rfl, rfl⟩

/-! ## Histories -/

/-- At every moment the latch is sound. -/
lemma Moment.after_latched {τ : Type} (backend : Backend τ) (forcePbuffer : Bool) (glesMajor : Int)
    (state : τ) (operations : List Operation) :
    Latched forcePbuffer ((first forcePbuffer glesMajor state).after backend operations).session
      ((first forcePbuffer glesMajor state).after backend operations).trace :=
  after_keeps backend (first forcePbuffer glesMajor state) (Latched forcePbuffer)
    ⟨rfl, by simp [first], trivial⟩ Performed.latched operations

/-- Where every attempt is permitted, at most one fails. -/
lemma Trace.failures_le_one {trace : Trace} (h : trace.Always (Event.Permitted forcePbuffer)) :
    (trace.filter Event.failsWindow).length ≤ 1 := by
  induction trace with
  | nil => simp
  | cons event earlier ih =>
      rw [List.filter_cons]
      split_ifs with hfails
      · obtain ⟨call, answer⟩ := event
        cases call with
        | createWindowSurface =>
            obtain ⟨_, hnone, _⟩ := h.1
            have hnil : earlier.filter Event.failsWindow = [] := by
              rw [List.filter_eq_nil_iff]
              exact fun event hevent => by simp [hnone event hevent]
            simp [hnil]
        | _ => exact absurd hfails Bool.false_ne_true
      · exact ih h.2

/-- After a failure no attempt is permitted. -/
lemma Trace.asksWindow_after_failure (h : Trace.Always (Event.Permitted forcePbuffer)
    (events ++ earlier)) (hfailed : ∃ event ∈ earlier, event.failsWindow = true) :
    ∀ event ∈ events, event.asksWindow = false := by
  induction events with
  | nil => simp
  | cons event events ih =>
      refine List.forall_mem_cons.2 ⟨?_, ih h.2⟩
      obtain ⟨call, answer⟩ := event
      cases call with
      | createWindowSurface =>
          obtain ⟨failure, hfailure, hfails⟩ := hfailed
          obtain ⟨_, hnone, _⟩ := h.1
          rw [hnone failure (List.mem_append_right _ hfailure)] at hfails
          exact Bool.noConfusion hfails
      | _ => rfl

/-- **The fallback from window surfaces is for good.**  At every moment the flag is set if and only
if an attempt has failed, every attempt was permitted when it was made, and at most one has failed.
During an operation no attempt is made if the flag is set, and it stays set; if it is not, it is
set if and only if an attempt fails.  What is said of attempts is so until the end of an operation in
which the program ends, too. -/
theorem Moment.fallback_latched {τ : Type} (backend : Backend τ) (forcePbuffer : Bool)
    (glesMajor : Int) (state : τ) (operations : List Operation) :
    let now := (first forcePbuffer glesMajor state).after backend operations
    (now.session.nativeWindowFailed = true ↔ ∃ event ∈ now.trace, event.failsWindow = true) ∧
      now.trace.Always (Event.Permitted forcePbuffer) ∧
      (now.trace.filter Event.failsWindow).length ≤ 1 ∧
      ∀ operation, ∃ events, (now.next backend operation).2.trace = events ++ now.trace ∧
        (now.session.nativeWindowFailed = true →
          (now.next backend operation).2.session.nativeWindowFailed = true ∧
            ∀ event ∈ events, event.asksWindow = false) ∧
        (now.session.nativeWindowFailed = false →
          ((now.next backend operation).2.session.nativeWindowFailed = true ↔
            ∃ event ∈ events, event.failsWindow = true)) ∧
        (now.carriedOut backend operation).2.trace.Always (Event.Permitted forcePbuffer) ∧
        ((now.carriedOut backend operation).2.trace.filter Event.failsWindow).length ≤ 1 := by
  intro now
  have hnow := after_latched backend forcePbuffer glesMajor state operations
  refine ⟨hnow.failed_iff, hnow.permitted, Trace.failures_le_one hnow.permitted, ?_⟩
  intro operation
  obtain ⟨events, htrace⟩ := next_trace backend operation now
  have hnext : Latched forcePbuffer (now.next backend operation).2.session (events ++ now.trace) :=
    htrace ▸ after_latched backend forcePbuffer glesMajor state (operation :: operations)
  have hcarried : (now.carriedOut backend operation).2.trace.Always
      (Event.Permitted forcePbuffer) := by
    obtain ⟨all, hall, h⟩ := carriedOut_performed backend operation now
    rw [hall]
    exact h.elim (fun h => (h.latched hnow).permitted) fun h => (h.latched hnow).permitted
  refine ⟨events, htrace, fun hfailed => ⟨?_, ?_⟩, fun hopen => ?_, hcarried,
    Trace.failures_le_one hcarried⟩
  · obtain ⟨failure, hfailure, hfails⟩ := hnow.failed_iff.1 hfailed
    exact hnext.failed_iff.2 ⟨failure, List.mem_append_right _ hfailure, hfails⟩
  · exact Trace.asksWindow_after_failure hnext.permitted (hnow.failed_iff.1 hfailed)
  · rw [hnext.failed_iff]
    constructor
    · rintro ⟨failure, hfailure, hfails⟩
      refine ⟨failure, (List.mem_append.1 hfailure).resolve_right fun hold => ?_, hfails⟩
      rw [hnow.no_failure hopen failure hold] at hfails
      exact Bool.noConfusion hfails
    · rintro ⟨failure, hfailure, hfails⟩
      exact ⟨failure, List.mem_append_left _ hfailure, hfails⟩

end GlBridge.Window
