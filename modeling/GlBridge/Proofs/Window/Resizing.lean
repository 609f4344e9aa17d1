import GlBridge.Proofs.Entries
import GlBridge.Proofs.Window.Presenting

/-!
# Following a window's size

A swap first asks for the size of its drawable.  If the off-screen buffer has another one, a new
buffer is made, bound, and put in the place of the old one.  There are five ways not to get there,
two of them after something has been made or asked for, and the swap then goes on with the buffer it
has.  From a sixth the swap does not go on: the drawable may have grown so large that its pixels take
more bytes than a buffer can have.  The old off-screen buffer is gone by then, and the program ends.

* `Session.KnowsCurrent` — a current context is one that exists, so that there is always a
  configuration for a new buffer while a context is current;
* `Hindered` — why a buffer is kept;
* `Exchanged`, `Kept` — all of the new buffer is there, or all is as it was;
* `Followed` — one of the two, and one frame drawn with the size that the buffer then has;
* **`Moment.resize_atomic`** — this is what every swap comes to, whatever the backend answers, if the
  size it says the drawable has is not too large;
* `Moment.not_followed_of_ends` — if the program ends, it is not.
-/

namespace GlBridge.Window

variable {s s' : Session} {earlier events : Trace}

/-! ## The current context exists -/

/-- The current context is one that exists. -/
def Session.KnowsCurrent (s : Session) : Prop :=
  ∀ context, s.currentContext = some context → (s.contextConfig? context).isSome = true

namespace Session.KnowsCurrent

/-- Without a configuration there is no current context. -/
lemma current_eq_none (h : s.KnowsCurrent)
    (hnone : s.currentContext.bind s.contextConfig? = none) : s.currentContext = none := by
  refine Option.eq_none_iff_forall_ne_some.2 fun context hcurrent => ?_
  have hsome := h context hcurrent
  rw [hcurrent] at hnone
  rw [show s.contextConfig? context = none from hnone] at hsome
  exact Bool.false_ne_true hsome

/-- Without a current context there is nothing to know. -/
lemma of_none (hnone : s.currentContext = none) : s.KnowsCurrent := by
  intro context hcurrent
  rw [hnone] at hcurrent
  exact absurd hcurrent (by simp)

end Session.KnowsCurrent

/-- The current context and the contexts that exist are as before. -/
structure KeepsContexts (s s' : Session) : Prop where
  current : s'.currentContext = s.currentContext
  contexts : s'.contexts = s.contexts

namespace KeepsContexts

lemma refl (s : Session) : KeepsContexts s s := ⟨rfl, rfl⟩

lemma trans {s'' : Session} (h : KeepsContexts s s') (h' : KeepsContexts s' s'') :
    KeepsContexts s s'' :=
  ⟨h'.current.trans h.current, h'.contexts.trans h.contexts⟩

/-- The configurations of contexts are as before. -/
lemma contextConfig?_eq (h : KeepsContexts s s') (context : Context) :
    s'.contextConfig? context = s.contextConfig? context := by
  rw [Session.contextConfig?, Session.contextConfig?, h.contexts]

/-- The current context still exists. -/
lemma knowsCurrent (h : KeepsContexts s s') (hknows : s.KnowsCurrent) : s'.KnowsCurrent := by
  intro context hcurrent
  rw [h.contextConfig?_eq]
  exact hknows context (h.current.symm.trans hcurrent)

end KeepsContexts

/-- Tearing down is about surfaces only. -/
lemma TornDown.keepsContexts (h : TornDown s s' events) : KeepsContexts s s' := by
  cases h <;> exact ⟨rfl, rfl⟩

lemma Selected.keepsContexts {drawable : Drawable} (h : Selected drawable s s' events) :
    KeepsContexts s s' := by
  cases h with
  | same => exact .refl s
  | other _ h => exact ⟨h.keepsContexts.current, h.keepsContexts.contexts⟩

lemma Attempted.keepsContexts {config : Config} {drawable : Drawable} {result : Option Surface}
    (h : Attempted config drawable s result s' events) : KeepsContexts s s' :=
  ⟨h.current, h.kept.2⟩

lemma Ensured.keepsContexts {config : Config} {drawable : Drawable} {ok : Bool}
    (h : Ensured config drawable s ok s' events) : KeepsContexts s s' := by
  cases h with
  | already => exact .refl s
  | made _ h =>
      cases h with
      | native h => exact ⟨h.current, h.kept.2⟩
      | sizeless h => exact h.keepsContexts
      | refused h => exact h.keepsContexts
      | pbuffer h => exact ⟨h.current, h.kept.2⟩

/-- Following a size exchanges surfaces, not contexts. -/
lemma Resized.keepsContexts {drawable : Drawable} {width height : ℕ}
    (h : Resized drawable width height s s' events) : KeepsContexts s s' := by
  cases h <;> exact ⟨rfl, rfl⟩

lemma Copied.keepsContexts {drawable : Drawable} (h : Copied drawable s s' events) :
    KeepsContexts s s' := by
  cases h <;> exact ⟨rfl, rfl⟩

lemma Swapped.keepsContexts {drawable : Drawable} (h : Swapped drawable s s' events) :
    KeepsContexts s s' := by
  cases h with
  | idle => exact .refl s
  | native => exact .refl s
  | copied _ _ hresized hcopied => exact hresized.keepsContexts.trans hcopied.keepsContexts

/-- Creating a context forgets none. -/
lemma Created.knowsCurrent {config : Config} {share : Option Context} {minors : List ℕ}
    {result : Except Text Context} (h : Created config share s minors result s' events)
    (hknows : s.KnowsCurrent) : s'.KnowsCurrent := by
  induction h with
  | exhausted => exact hknows
  | accepted context =>
      intro current hcurrent
      rw [Session.contextConfig?, lookup_insert]
      split_ifs
      · rfl
      · exact hknows current hcurrent
  | refused _ ih => exact ih

/-- A context that is destroyed is no longer current. -/
lemma Destroyed.knowsCurrent {context : Context} (h : Destroyed context s s' events)
    (hknows : s.KnowsCurrent) : s'.KnowsCurrent := by
  have hdropped : ∀ {s₁ : Session} {events : Trace}, Dropped context s s₁ events →
      s₁.KnowsCurrent := by
    intro s₁ events h
    cases h with
    | current _ _ h => exact .of_none h.current
    | other => exact hknows
  cases h with
  | known h =>
      intro current hcurrent
      have hother : current ≠ context := by
        rintro rfl
        exact h.current_ne hcurrent
      rw [Session.contextConfig?, lookup_filter_ne, if_neg hother]
      exact hdropped h current hcurrent
  | unknown h => exact hdropped h

/-- A context is made current only if it exists. -/
lemma MadeCurrent.knowsCurrent {drawable : Option Drawable} {context : Option Context}
    {result : Bool} (h : MadeCurrent s drawable context result s' events)
    (hknows : s.KnowsCurrent) : s'.KnowsCurrent := by
  cases h with
  | released => exact .of_none rfl
  | unknown => exact hknows
  | surfaceless _ hselected hensured =>
      exact (hselected.keepsContexts.trans hensured.keepsContexts).knowsCurrent hknows
  | refused _ hselected hensured =>
      exact (hselected.keepsContexts.trans hensured.keepsContexts).knowsCurrent hknows
  | @bound _ context _ _ s₂ _ _ hknown hselected hensured =>
      rintro _ ⟨⟩
      have hkept := (hselected.keepsContexts.trans hensured.keepsContexts).contextConfig?_eq context
      show (s₂.contextConfig? context).isSome = true
      rw [hkept, hknown]
      rfl

lemma Performed.knowsCurrent {operation : Operation} {result : Bool}
    (h : Performed s operation result s' events) (hknows : s.KnowsCurrent) : s'.KnowsCurrent := by
  cases h with
  | createdContext h => exact h.knowsCurrent hknows
  | destroyedContext h => exact h.knowsCurrent hknows
  | madeCurrent h => exact h.knowsCurrent hknows
  | swappedBuffers h => exact h.keepsContexts.knowsCurrent hknows
  | setInterval => exact hknows

/-- At any time, the current context exists. -/
lemma Moment.after_knowsCurrent {τ : Type} (backend : Backend τ) (forcePbuffer : Bool)
    (glesMajor : Int) (state : τ) (operations : List Operation) :
    ((first forcePbuffer glesMajor state).after backend operations).session.KnowsCurrent :=
  after_keeps backend (first forcePbuffer glesMajor state) (fun s _ => s.KnowsCurrent)
    (.of_none rfl) Performed.knowsCurrent operations

/-! ## Outcomes -/

/-- The frame that an event draws. -/
def Event.drawn? : Event → Option (Drawable × (ℕ × ℕ) × Bytes)
  | ⟨.putPixels drawable width height pixels, _⟩ => some (drawable, (width, height), pixels)
  | _ => none

/-- The size that a drawable is said to have in an event. -/
def Event.size? : Event → Option (ℕ × ℕ)
  | ⟨.drawableSize _, (size : Option (ℕ × ℕ))⟩ => size
  | _ => none

/-- Why a buffer of a size is kept, with what has been asked until then: the drawable's size cannot
be had or is the same, no context is current, or a new buffer cannot be made, or not be bound, in
which case it goes again. -/
inductive Hindered (drawable : Drawable) (size : ℕ × ℕ) (s : Session) : Trace → Prop where
  | sizeless : Hindered drawable size s [⟨.drawableSize drawable, none⟩]
  | unchanged : Hindered drawable size s [⟨.drawableSize drawable, some size⟩]
  | contextless {asked : ℕ × ℕ} (hsize : asked ≠ size) (hcurrent : s.currentContext = none) :
      Hindered drawable size s [⟨.drawableSize drawable, some asked⟩]
  | refused {asked : ℕ × ℕ} (hsize : asked ≠ size) {context : Context} {config : Config}
      (hcurrent : s.currentContext = some context)
      (hconfig : s.contextConfig? context = some config) :
      Hindered drawable size s
        [⟨.createPbufferSurface config asked.1 asked.2, none⟩, ⟨.drawableSize drawable, some asked⟩]
  | unbound {asked : ℕ × ℕ} (hsize : asked ≠ size) {context : Context} {config : Config}
      (hcurrent : s.currentContext = some context)
      (hconfig : s.contextConfig? context = some config) (surface : Surface) :
      Hindered drawable size s
        [⟨.destroySurface surface, ()⟩, ⟨.makeCurrent (some surface) (some context), false⟩,
          ⟨.createPbufferSurface config asked.1 asked.2, some surface⟩,
          ⟨.drawableSize drawable, some asked⟩]

/-- All of a new buffer is there: it was made for the size that the drawable was said to have, bound,
and then the old one was destroyed. -/
structure Exchanged (drawable : Drawable) (size : ℕ × ℕ) (s s' : Session)
    (earlier events : Trace) : Prop where
  size_ne : s.mode.size? ≠ some size
  steps : ∃ old new context config frame, s.surface = some old ∧ s'.surface = some new ∧
    s.currentContext = some context ∧ s.contextConfig? context = some config ∧
    (∀ event ∈ frame, event.isFrame = true) ∧
    events = frame ++ [⟨.destroySurface old, ()⟩, ⟨.makeCurrent (some new) (some context), true⟩,
      ⟨.createPbufferSurface config size.1 size.2, some new⟩, ⟨.drawableSize drawable, some size⟩] ∧
    (events ++ earlier).bound = ⟨some new, some context⟩ ∧
    ((events ++ earlier).Always Fresh → new ≠ old ∧
      (events ++ earlier).surfaces = new :: earlier.surfaces.filter (· ≠ old))

/-- All is as it was: the surface, what is bound, and the surfaces that exist. -/
structure Kept (drawable : Drawable) (size : ℕ × ℕ) (s s' : Session) (earlier events : Trace) :
    Prop where
  size_eq : s.mode.size? = some size
  surface : s'.surface = s.surface
  bound : (events ++ earlier).bound = earlier.bound
  surfaces : (events ++ earlier).Always Fresh → (events ++ earlier).surfaces = earlier.surfaces
  hindered : ∃ frame attempt, events = frame ++ attempt ∧
    (∀ event ∈ frame, event.isFrame = true) ∧ Hindered drawable size s attempt

/-- A drawable's size was followed as a whole or not at all: the off-screen buffer has the size that was
asked for, or the one that it had, and as many bytes as that takes.  The same context is current, and
one frame was drawn, with the size that the buffer then has. -/
def Followed (drawable : Drawable) (s s' : Session) (earlier events : Trace) : Prop :=
  ∃ size read, s'.mode = .pbufferCopy size.1 size.2 read ∧
    read.length = frameBytes size.1 size.2 ∧
    s'.currentContext = s.currentContext ∧
    events.filterMap Event.drawn? = [(drawable, size, read)] ∧
    (Exchanged drawable size s s' earlier events ∨
      Kept drawable size s s' earlier events ∧
        ∃ pixels, s.mode = .pbufferCopy size.1 size.2 pixels ∧ read.length = pixels.length)

section Outcomes

variable {drawable : Drawable} {width height : ℕ} {pixels : Bytes} {attempt frame : Trace}

/-- What was in the way has not changed what is bound. -/
lemma Hindered.bound {size : ℕ × ℕ} (h : Hindered drawable size s attempt) :
    (attempt ++ earlier).bound = earlier.bound := by
  cases h <;> rfl

/-- What was made for a buffer that could not be bound is gone. -/
lemma Hindered.surfaces {size : ℕ × ℕ} (h : Hindered drawable size s attempt)
    (hfresh : (attempt ++ earlier).Always Fresh) :
    (attempt ++ earlier).surfaces = earlier.surfaces := by
  cases h with
  | unbound _ _ _ surface =>
      have hnew : surface ∉ earlier.surfaces := hfresh.2.2.1 surface rfl
      have hkept : earlier.surfaces.filter (· ≠ surface) = earlier.surfaces := by
        refine List.filter_eq_self.2 fun other hlive => ?_
        rw [decide_eq_true_iff]
        rintro rfl
        exact hnew hlive
      simpa [Trace.surfaces] using hkept
  | _ => rfl

/-- An attempt that was hindered draws nothing. -/
lemma Hindered.drawn {size : ℕ × ℕ} (h : Hindered drawable size s attempt) :
    attempt.filterMap Event.drawn? = [] := by
  cases h <;> rfl

/-- A buffer is replaced, or something is in the way. -/
lemma Resized.replaced_or_hindered (h : Resized drawable width height s s' attempt)
    (hknows : s.KnowsCurrent) :
    (∃ size old new context config, size ≠ (width, height) ∧ s.surface = some old ∧
      s.currentContext = some context ∧ s.contextConfig? context = some config ∧
      (∃ cleared, s' =
        { s with surface := some new, mode := .pbufferCopy size.1 size.2 cleared }) ∧
      attempt = [⟨.destroySurface old, ()⟩, ⟨.makeCurrent (some new) (some context), true⟩,
        ⟨.createPbufferSurface config size.1 size.2, some new⟩,
        ⟨.drawableSize drawable, some size⟩]) ∨
      s' = s ∧ Hindered drawable (width, height) s attempt := by
  cases h with
  | sizeless => exact Or.inr ⟨rfl, .sizeless⟩
  | unchanged => exact Or.inr ⟨rfl, .unchanged⟩
  | contextless _ hsize hcontext =>
      exact Or.inr ⟨rfl, .contextless hsize (hknows.current_eq_none hcontext)⟩
  | refused _ _ hsize hcurrent hconfig => exact Or.inr ⟨rfl, .refused hsize hcurrent hconfig⟩
  | unbound _ _ _ surface hsize hcurrent hconfig =>
      exact Or.inr ⟨rfl, .unbound hsize hcurrent hconfig surface⟩
  | replaced hsize hcurrent hsurface _ _ hconfig =>
      exact Or.inl ⟨_, _, _, _, _, hsize, hsurface, hcurrent, hconfig, ⟨_, rfl⟩, rfl⟩

/-- An off-screen buffer is read and drawn with its size. -/
lemma Copied.shown (h : Copied drawable s s' frame)
    (hmode : s.mode = .pbufferCopy width height pixels) :
    ∃ read put, s' = { s with mode := .pbufferCopy width height read } ∧
      frame = [⟨.putPixels drawable width height read, put⟩,
        ⟨.readPixels width height pixels, read⟩] := by
  cases h with
  | idle hother => exact absurd hmode (hother _ _ _)
  | copied hsame read put =>
      rw [hmode] at hsame
      obtain ⟨rfl, rfl, rfl⟩ := Presentation.pbufferCopy.inj hsame
      exact ⟨read, put, rfl, rfl⟩

/-- Swapping an off-screen buffer is following the drawable's size and then showing a frame. -/
lemma Swapped.followed (h : Swapped drawable s s' events) (hdrawable : s.drawable = some drawable)
    (hmode : s.mode = .pbufferCopy width height pixels) (hsurface : s.surface ≠ none) :
    ∃ s₁ attempt frame, events = frame ++ attempt ∧ Resized drawable width height s s₁ attempt ∧
      Copied drawable s₁ s' frame := by
  cases h with
  | idle hidle =>
      rcases hidle with hother | hnone | hnone
      · exact absurd hdrawable hother
      · exact absurd hnone hsurface
      · simp [hmode] at hnone
  | native _ _ hnative => simp [hmode] at hnative
  | copied _ hsame hresized hcopied =>
      rw [hmode] at hsame
      obtain ⟨rfl, rfl, rfl⟩ := Presentation.pbufferCopy.inj hsame
      exact ⟨_, _, _, rfl, hresized, hcopied⟩

/-- The handle of a buffer that was there is not given to a new one. -/
lemma Furnished.new_ne_old {old new : Surface} (hfurnished : Furnished s earlier)
    (hmode : s.mode = .pbufferCopy width height pixels) (hsurface : s.surface = some old)
    (hfresh : earlier.Always Fresh) (hnew : new ∉ earlier.surfaces) : new ≠ old := by
  obtain ⟨⟨surface, hsome, -, hsize⟩, -⟩ := hfurnished.buffer hmode
  obtain rfl : surface = old := Option.some.inj (hsome.symm.trans hsurface)
  rintro rfl
  exact hnew (Trace.mem_surfaces_of_size? (hsize hfresh))

/-- **A swap of an off-screen buffer exchanges it as a whole or keeps it as a whole**, and draws one
frame with the size that it then has. -/
lemma Swapped.exchanged_or_kept (h : Swapped drawable s s' events)
    (hdrawable : s.drawable = some drawable) (hmode : s.mode = .pbufferCopy width height pixels)
    (hknows : s.KnowsCurrent) (hfurnished : Furnished s earlier) :
    ∃ size read, s'.mode = .pbufferCopy size.1 size.2 read ∧
      events.filterMap Event.drawn? = [(drawable, size, read)] ∧
      (Exchanged drawable size s s' earlier events ∨
        size = (width, height) ∧ Kept drawable size s s' earlier events) := by
  have hsurface : s.surface ≠ none := by
    rw [Ne, ← hfurnished.mode_iff, hmode]
    simp
  obtain ⟨s₁, attempt, frame, rfl, hresized, hcopied⟩ := h.followed hdrawable hmode hsurface
  rcases hresized.replaced_or_hindered hknows with
    ⟨size, old, new, context, config, hsize, hold, hcurrent, hconfig, ⟨_, rfl⟩, rfl⟩
      | ⟨rfl, hhindered⟩
  · obtain ⟨read, put, rfl, rfl⟩ := hcopied.shown rfl
    refine ⟨size, read, rfl, rfl, Or.inl ⟨?_, old, new, context, config,
      [⟨.putPixels drawable size.1 size.2 read, put⟩, ⟨.readPixels size.1 size.2 _, read⟩], hold,
      rfl, hcurrent, hconfig, ?_, rfl, rfl, fun hfresh => ?_⟩⟩
    · rw [hmode]
      simpa [Presentation.size?] using hsize.symm
    · simp [Event.isFrame]
    · have hne := hfurnished.new_ne_old hmode hold hfresh.of_append (hfresh.2.2.2.2.1 new rfl)
      exact ⟨hne, by simp [Trace.surfaces, hne]⟩
  · obtain ⟨read, put, rfl, rfl⟩ := hcopied.shown hmode
    refine ⟨(width, height), read, rfl, ?_, Or.inr ⟨rfl, ?_, rfl, ?_, fun hfresh => ?_, ?_⟩⟩
    · rw [List.filterMap_append, hhindered.drawn]
      rfl
    · rw [hmode]
      rfl
    · exact hhindered.bound
    · exact hhindered.surfaces hfresh.2.2
    · exact ⟨_, attempt, rfl, by simp [Event.isFrame], hhindered⟩

end Outcomes

/-! ## The result -/

/-- **Following a window's size is all or nothing.**  Whatever the backend answers, a swap of the
session's drawable leaves an off-screen buffer of the size that was asked for, made, bound and in the
place of the old one, or all as it was.  In both cases one frame is drawn with the size that the
buffer has afterwards.  The drawable may not have become too large for a buffer, though. -/
theorem Moment.resize_atomic {τ : Type} (backend : Backend τ) (forcePbuffer : Bool)
    (glesMajor : Int) (state : τ) (operations : List Operation) {drawable : Drawable}
    {width height : ℕ} {pixels : Bytes}
    (hdrawable : ((first forcePbuffer glesMajor state).after backend operations).session.drawable
      = some drawable)
    (hmode : ((first forcePbuffer glesMajor state).after backend operations).session.mode
      = .pbufferCopy width height pixels)
    (hfits : ∀ events,
      (((first forcePbuffer glesMajor state).after backend operations).carriedOut backend
          (.swapBuffers drawable)).2.trace
        = events ++ ((first forcePbuffer glesMajor state).after backend operations).trace →
      ∀ size ∈ events.filterMap Event.size?, frameBytes size.1 size.2 ≤ bufferLimit)
    (hfills : Trace.Always Fills
      ((first forcePbuffer glesMajor state).after backend (.swapBuffers drawable :: operations)).trace) :
    let before := (first forcePbuffer glesMajor state).after backend operations
    let now := (first forcePbuffer glesMajor state).after backend
      (.swapBuffers drawable :: operations)
    before.ends backend (.swapBuffers drawable) = false ∧
      ∃ events, now.trace = events ++ before.trace ∧
        Followed drawable before.session now.session before.trace events := by
  intro before now
  have hends : before.ends backend (.swapBuffers drawable) = false := by
    by_contra hends
    rw [Bool.not_eq_false] at hends
    obtain ⟨_, _, _, events, -, htrace, houtgrown⟩ :=
      outgrown_of_ends (after_running backend rfl operations) hends
    generalize (before.carriedOut backend (.swapBuffers drawable)).2.session = s' at houtgrown
    cases houtgrown with
    | @outgrown size _ _ _ _ _ _ _ _ hpixels =>
        have hsize := hfits _ htrace size List.mem_cons_self
        exact absurd (bufferLimit_lt_of_pixelBuffer hpixels) (Nat.not_lt.2 hsize)
  have hbefore := after_furnished backend forcePbuffer glesMajor state operations
  have hnow := after_furnished backend forcePbuffer glesMajor state
    (.swapBuffers drawable :: operations)
  obtain ⟨events, htrace, hperformed⟩ := next_performed hends
  obtain ⟨size, read, hread, hdrawn, houtcome⟩ :=
    hperformed.swapped.exchanged_or_kept hdrawable hmode
      (after_knowsCurrent backend forcePbuffer glesMajor state operations) hbefore
  have hlength : read.length = frameBytes size.1 size.2 := (hnow.buffer hread).2 hfills
  refine ⟨hends, events, htrace, size, read, hread, hlength,
    hperformed.swapped.keepsContexts.current, hdrawn, houtcome.imp_right ?_⟩
  rintro ⟨rfl, hkept⟩
  have hfills' : before.trace.Always Fills := by
    rw [after, htrace] at hfills
    exact hfills.of_append
  exact ⟨hkept, pixels, hmode, hlength.trans ((hbefore.buffer hmode).2 hfills').symm⟩

/-- A swap in which the program ends draws no frame, so that it has not followed anything. -/
lemma Moment.not_followed_of_ends {τ : Type} {backend : Backend τ} {drawable : Drawable}
    {now : Moment τ} (hrunning : now.session.ended = false)
    (hends : now.ends backend (.swapBuffers drawable) = true) {events : Trace}
    (htrace : (now.carriedOut backend (.swapBuffers drawable)).2.trace = events ++ now.trace) :
    ¬ Followed drawable now.session (now.carriedOut backend (.swapBuffers drawable)).2.session
      now.trace events := by
  obtain ⟨_, _, _, all, -, hall, houtgrown⟩ := outgrown_of_ends hrunning hends
  obtain rfl : events = all := List.append_cancel_right (htrace.symm.trans hall)
  rintro ⟨size, read, -, -, -, hdrawn, -⟩
  have hnone : events.filterMap Event.drawn? = [] := by
    generalize (now.carriedOut backend (.swapBuffers drawable)).2.session = s' at houtgrown
    cases houtgrown
    rfl
  exact absurd (hnone.symm.trans hdrawn) (by simp)

/-- A platform without surfaces for windows, whose windows grow by a column with every frame. -/
def growingBackend : Backend ScriptedBackend where
  answer
    | .drawableSize _, state => (some (state.frame + 1, 2), state)
    | call, state => ScriptedBackend.answer call state

/-- The size that is asked for in a swap is the one with which its drawable is followed. -/
theorem Moment.resize_atomic_growing :
    let before := (first true 3 {}).after growingBackend (.swapBuffers 1 :: shown)
    let now := (first true 3 {}).after growingBackend (.swapBuffers 1 :: .swapBuffers 1 :: shown)
    (before.session.drawable = some 1 ∧ before.session.mode = .pbufferCopy 1 2 (framePixels 1 8) ∧
      (∀ events, (before.carriedOut growingBackend (.swapBuffers 1)).2.trace
          = events ++ before.trace →
        ∀ size ∈ events.filterMap Event.size?, frameBytes size.1 size.2 ≤ bufferLimit) ∧
      now.trace.Always Fills) ∧
      now.session.mode = .pbufferCopy 2 2 (framePixels 2 16) ∧
      ∃ events, now.trace = events ++ before.trace ∧
        events.filterMap Event.drawn? = [(1, (2, 2), framePixels 2 16)] ∧
        Exchanged 1 (2, 2) before.session now.session before.trace events := by
  intro before now
  have hbefore : before.session.drawable = some 1 ∧
      before.session.mode = .pbufferCopy 1 2 (framePixels 1 8) := by decide +kernel
  have hnow : now.trace.Always Fills ∧
      now.session.mode = .pbufferCopy 2 2 (framePixels 2 16) := by decide +kernel
  have hasked : before.trace.filterMap Event.size? = [(1, 2), (1, 2)] ∧
      (before.carriedOut growingBackend (.swapBuffers 1)).2.trace.filterMap Event.size?
        = [(2, 2), (1, 2), (1, 2)] := by decide +kernel
  have hfits : ∀ events, (before.carriedOut growingBackend (.swapBuffers 1)).2.trace
      = events ++ before.trace →
      ∀ size ∈ events.filterMap Event.size?, frameBytes size.1 size.2 ≤ bufferLimit := by
    intro events htrace size hsize
    have hsizes := hasked.2
    rw [htrace, List.filterMap_append, hasked.1] at hsizes
    have hone : events.filterMap Event.size? = [(2, 2)] :=
      List.append_cancel_right (hsizes.trans (List.singleton_append).symm)
    rw [hone, List.mem_singleton] at hsize
    rw [hsize]
    decide
  have hresult := resize_atomic growingBackend true 3 {} (.swapBuffers 1 :: shown) hbefore.1
    hbefore.2 hfits hnow.1
  obtain ⟨-, events, htrace, ⟨width, height⟩, read, hmode, -, -, hdrawn, houtcome⟩ := hresult
  obtain ⟨rfl, rfl, rfl⟩ := Presentation.pbufferCopy.inj (hnow.2.symm.trans hmode)
  refine ⟨⟨hbefore.1, hbefore.2, hfits, hnow.1⟩, hnow.2, events, htrace, hdrawn, ?_⟩
  rcases houtcome with hexchanged | ⟨hkept, -⟩
  · exact hexchanged
  · have hsame := hkept.size_eq.symm.trans (congrArg Presentation.size? hbefore.2)
    exact absurd hsame (by decide)

/-- A platform without surfaces for windows, whose windows are immense after the first frame. -/
def immenseBackend : Backend ScriptedBackend where
  answer
    | .drawableSize _, state =>
      (some (if state.frame = 0 then (4, 4) else (2147483647, 2147483647)), state)
    | call, state => ScriptedBackend.answer call state

/-- The program ends in the second swap, with the old buffer gone and no frame drawn. -/
theorem Moment.not_followed_immense :
    let before := (first true 3 {}).after immenseBackend (.swapBuffers 1 :: shown)
    let ended := (before.carriedOut immenseBackend (.swapBuffers 1)).2
    (before.session.drawable = some 1 ∧
        before.session.mode = .pbufferCopy 4 4 (framePixels 1 64)) ∧
      before.ends immenseBackend (.swapBuffers 1) = true ∧ ended.trace.Always Fills ∧
      ended.session.surface ≠ before.session.surface ∧
      ended.session.mode = before.session.mode ∧
      ∀ events, ended.trace = events ++ before.trace →
        ¬ Followed 1 before.session ended.session before.trace events := by
  intro before ended
  have hbefore : before.session.drawable = some 1 ∧
      before.session.mode = .pbufferCopy 4 4 (framePixels 1 64) := by decide +kernel
  have hended : before.session.ended = false ∧
      before.ends immenseBackend (.swapBuffers 1) = true ∧ ended.trace.Always Fills ∧
      ended.session.surface ≠ before.session.surface ∧
      ended.session.mode = before.session.mode := by decide +kernel
  obtain ⟨hrunning, hends, hfills, hsurface, hmode⟩ := hended
  exact ⟨hbefore, hends, hfills, hsurface, hmode, fun _ => not_followed_of_ends hrunning hends⟩

end GlBridge.Window
