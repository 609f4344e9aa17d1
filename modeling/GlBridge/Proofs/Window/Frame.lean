import GlBridge.Proofs.Window.Ownership

/-!
# Frames fit their surfaces

Where a window has no surface of its own, every frame is read into a buffer of bytes and drawn from
there.  Three things have to have the same size: the surface, the buffer, and what the backend is
told.  They change at different moments, with ways to fail in between.

**Frames.**  Only swaps move frames (`Event.isFrame`): no other outcome of a session's program does.

**Furniture.**  `Furnished` ties the way of presenting frames to the surface.  It holds whatever the
backend answers; only that the buffer keeps its length needs that reading pixels fills it in place
(`Fills`), and only that a surface has not been replaced under its handle needs new surfaces not to
be in use (`Fresh`).

* `Session.HasBuffer` — the session's surface is an off-screen buffer of a size;
* **`Moment.frames_fit`** — all frames are moved with the size of the surface and as many bytes as
  it has.
-/

namespace GlBridge.Window

variable {s s' : Session} {earlier events : Trace}

/-! ## Moving frames -/

/-- Whether an event moves a frame. -/
def Event.isFrame : Event → Bool
  | ⟨.readPixels _ _ _, _⟩ => true
  | ⟨.putPixels _ _ _ _, _⟩ => true
  | ⟨.swapBuffers _, _⟩ => true
  | _ => false

/-- None of the events moves a frame. -/
def Frameless (events : Trace) : Prop := ∀ event ∈ events, event.isFrame = false

/-- What happens later moves no frame either. -/
lemma Frameless.append {later : Trace} (hlater : Frameless later) (h : Frameless events) :
    Frameless (later ++ events) := by
  intro event hevent
  rcases List.mem_append.1 hevent with hevent | hevent
  · exact hlater event hevent
  · exact h event hevent

lemma Frameless.cons {event : Event} (hevent : event.isFrame = false) (h : Frameless events) :
    Frameless (event :: events) := by
  intro other hother
  rcases List.mem_cons.1 hother with rfl | hother
  · exact hevent
  · exact h other hother

@[simp] lemma frameless_nil : Frameless [] := fun _ h => absurd h List.not_mem_nil

/-- Only swaps move frames, so tearing a surface down moves none. -/
lemma TornDown.frameless (h : TornDown s s' events) : Frameless events := by
  cases h <;> simp [Frameless, Event.isFrame]

lemma Selected.frameless {drawable : Drawable} (h : Selected drawable s s' events) :
    Frameless events := by
  cases h with
  | same => exact frameless_nil
  | other _ h => exact h.frameless

/-- An attempt to make a surface moves no frame, and neither does what is built on it. -/
lemma Attempted.frameless {config : Config} {drawable : Drawable} {result : Option Surface}
    (h : Attempted config drawable s result s' events) : Frameless events := by
  cases h <;> simp [Frameless, Event.isFrame]

lemma Initialized.frameless {config : Config} {drawable : Drawable} {ok : Bool}
    (h : Initialized config drawable s ok s' events) : Frameless events := by
  cases h with
  | native h => exact h.frameless
  | sizeless h => exact h.frameless.cons rfl
  | refused h => exact (h.frameless.cons rfl).cons rfl
  | pbuffer h => exact (h.frameless.cons rfl).cons rfl

lemma Ensured.frameless {config : Config} {drawable : Drawable} {ok : Bool}
    (h : Ensured config drawable s ok s' events) : Frameless events := by
  cases h with
  | already => exact frameless_nil
  | made _ h => exact h.frameless

lemma Created.frameless {config : Config} {share : Option Context} {minors : List ℕ}
    {result : Except Text Context} (h : Created config share s minors result s' events) :
    Frameless events := by
  induction h with
  | exhausted => exact frameless_nil
  | accepted => exact frameless_nil.cons rfl
  | refused _ ih => exact ih.append (frameless_nil.cons rfl)

lemma Dropped.frameless {context : Context} (h : Dropped context s s' events) :
    Frameless events := by
  cases h with
  | current _ _ h => exact h.frameless.append (frameless_nil.cons rfl)
  | other => exact frameless_nil

lemma Destroyed.frameless {context : Context} (h : Destroyed context s s' events) :
    Frameless events := by
  cases h with
  | known h => exact h.frameless.cons rfl
  | unknown h => exact h.frameless

/-- Making a context current moves no frame, whether or not a surface has to be made for it. -/
lemma MadeCurrent.frameless {drawable : Option Drawable} {context : Option Context} {result : Bool}
    (h : MadeCurrent s drawable context result s' events) : Frameless events := by
  cases h with
  | released => exact frameless_nil.cons rfl
  | unknown => exact frameless_nil
  | surfaceless _ hselected hensured => exact hensured.frameless.append hselected.frameless
  | refused _ hselected hensured =>
      exact (hensured.frameless.append hselected.frameless).cons rfl
  | bound _ hselected hensured =>
      exact (hensured.frameless.append hselected.frameless).cons rfl

/-- Resizing moves no frame: the pixels are set anew. -/
lemma Resized.frameless {drawable : Drawable} {width height : ℕ}
    (h : Resized drawable width height s s' events) : Frameless events := by
  cases h <;> simp [Frameless, Event.isFrame]

/-- An operation in which the program ends moves no frame. -/
lemma Ended.frameless {operation : Operation} (h : Ended s operation s' events) :
    Frameless events := by
  cases h with
  | outshown h =>
      obtain ⟨_, hselected, _, ⟨hattempted, _, _, _, _⟩⟩ := h
      exact ((hattempted.frameless.cons rfl).cons rfl).append hselected.frameless
  | outgrown _ h =>
      obtain ⟨_⟩ := h
      simp [Frameless, Event.isFrame]

/-- Every one of the events after `earlier` was fine in view of what came before it. -/
def Trace.Since (fine : Event → Trace → Prop) (earlier : Trace) : Trace → Prop
  | [] => True
  | event :: events => fine event (events ++ earlier) ∧ Since fine earlier events

section Since

variable {fine : Event → Trace → Prop}

/-- A property of all events since an earlier one holds of two runs if it holds of each. -/
lemma Trace.since_append {later : Trace} (hlater : Trace.Since fine (events ++ earlier) later)
    (h : Trace.Since fine earlier events) : Trace.Since fine earlier (later ++ events) := by
  induction later with
  | nil => exact h
  | cons event later ih =>
      have hevent := hlater.1
      rw [← List.append_assoc] at hevent
      exact ⟨hevent, ih hlater.2⟩

/-- What is asked of frames only is granted where no frames are moved. -/
lemma Frameless.since (h : Frameless events)
    (hfine : ∀ event earlier, event.isFrame = false → fine event earlier) :
    Trace.Since fine earlier events := by
  induction events with
  | nil => trivial
  | cons event events ih =>
      rw [Frameless, List.forall_mem_cons] at h
      exact ⟨hfine event _ h.1, ih h.2⟩

end Since

/-! ## Sizes of surfaces -/

/-- The size of a surface, if it is an off-screen buffer that was created and not destroyed
since. -/
def Trace.size? (surface : Surface) : Trace → Option (ℕ × ℕ)
  | [] => none
  | ⟨.createWindowSurface _ _, .ok (some made)⟩ :: earlier =>
    if made = surface then none else size? surface earlier
  | ⟨.createPbufferSurface _ width height, some made⟩ :: earlier =>
    if made = surface then some (width, height) else size? surface earlier
  | ⟨.destroySurface destroyed, _⟩ :: earlier =>
    if destroyed = surface then none else size? surface earlier
  | _ :: earlier => size? surface earlier

/-- A surface that has a size exists. -/
lemma Trace.mem_surfaces_of_size? {surface : Surface} {size : ℕ × ℕ} {trace : Trace}
    (h : trace.size? surface = some size) : surface ∈ trace.surfaces := by
  induction trace with
  | nil => simp [Trace.size?] at h
  | cons event earlier ih =>
      obtain ⟨call, answer⟩ := event
      cases call with
      | createWindowSurface =>
          match answer with
          | .error _ => exact ih h
          | .ok none => exact ih h
          | .ok (some made) =>
              rw [Trace.size?] at h
              split_ifs at h
              exact List.mem_cons_of_mem _ (ih h)
      | createPbufferSurface =>
          match answer with
          | none => exact ih h
          | some made =>
              rw [Trace.size?] at h
              split_ifs at h with hmade
              · exact hmade ▸ List.mem_cons_self
              · exact List.mem_cons_of_mem _ (ih h)
      | destroySurface destroyed =>
          rw [Trace.size?] at h
          split_ifs at h with hdestroyed
          refine List.mem_filter.2 ⟨ih h, ?_⟩
          rw [decide_eq_true_iff]
          exact fun heq => hdestroyed heq.symm
      | _ => exact ih h

/-! ## Buffers -/

/-- Pixels are read into a buffer in place, which therefore keeps its length. -/
def Fills : Event → Trace → Prop
  | ⟨.readPixels _ _ buffer, (read : Bytes)⟩, _ => read.length = buffer.length
  | _, _ => True

instance : ∀ (event : Event) (earlier : Trace), Decidable (Fills event earlier)
  | ⟨.readPixels _ _ buffer, (read : Bytes)⟩, _ =>
    inferInstanceAs (Decidable (read.length = buffer.length))
  | ⟨.chooseConfigs _, _⟩, _ => .isTrue trivial
  | ⟨.configAttribute _ _, _⟩, _ => .isTrue trivial
  | ⟨.createContext _ _ _ _, _⟩, _ => .isTrue trivial
  | ⟨.destroyContext _, _⟩, _ => .isTrue trivial
  | ⟨.createWindowSurface _ _, _⟩, _ => .isTrue trivial
  | ⟨.createPbufferSurface _ _ _, _⟩, _ => .isTrue trivial
  | ⟨.destroySurface _, _⟩, _ => .isTrue trivial
  | ⟨.makeCurrent _ _, _⟩, _ => .isTrue trivial
  | ⟨.swapBuffers _, _⟩, _ => .isTrue trivial
  | ⟨.swapInterval _, _⟩, _ => .isTrue trivial
  | ⟨.drawableSize _, _⟩, _ => .isTrue trivial
  | ⟨.putPixels _ _ _ _, _⟩, _ => .isTrue trivial

/-- The session's surface is an off-screen buffer of the given size.  It was created with this size,
and unless a new surface was in use already, it was not destroyed or created anew since. -/
def Session.HasBuffer (s : Session) (trace : Trace) (width height : ℕ) : Prop :=
  ∃ surface, s.surface = some surface ∧
    (∃ config, ⟨.createPbufferSurface config width height, some surface⟩ ∈ trace) ∧
      (trace.Always Fresh → trace.size? surface = some (width, height))

/-- A surface that is still there has the size it had, if nothing that has been done since changes
it. -/
lemma Session.HasBuffer.later {width height : ℕ} (h : s.HasBuffer earlier width height)
    (hsurface : s'.surface = s.surface)
    (hsize : ∀ surface ∈ earlier.surfaces, (events ++ earlier).Always Fresh →
      (events ++ earlier).size? surface = earlier.size? surface) :
    s'.HasBuffer (events ++ earlier) width height := by
  obtain ⟨surface, hsome, ⟨config, hmade⟩, hkept⟩ := h
  refine ⟨surface, hsurface.trans hsome, ⟨config, List.mem_append_right _ hmade⟩, fun hfresh => ?_⟩
  have hsame := hkept hfresh.of_append
  rw [hsize surface (Trace.mem_surfaces_of_size? hsame) hfresh, hsame]

/-- The way of presenting frames goes with the surface, and a buffer for pixels with its size. -/
structure Furnished (s : Session) (trace : Trace) : Prop where
  mode_iff : s.mode = .uninitialized ↔ s.surface = none
  buffer : ∀ {width height : ℕ} {pixels : Bytes}, s.mode = .pbufferCopy width height pixels →
    s.HasBuffer trace width height ∧
      (trace.Always Fills → pixels.length = frameBytes width height)

namespace Furnished

/-- Without a surface there is nothing to go with. -/
lemma idle (hmode : s.mode = .uninitialized) (hsurface : s.surface = none) :
    Furnished s earlier where
  mode_iff := iff_of_true hmode hsurface
  buffer := by
    intro width height pixels hbuffer
    rw [hmode] at hbuffer
    exact absurd hbuffer (by simp)

/-- Neither the way of presenting frames nor the surface has changed. -/
lemma congr (h : Furnished s earlier) (events : Trace) (hmode : s'.mode = s.mode)
    (hsurface : s'.surface = s.surface)
    (hsize : ∀ surface ∈ earlier.surfaces, (events ++ earlier).Always Fresh →
      (events ++ earlier).size? surface = earlier.size? surface) :
    Furnished s' (events ++ earlier) where
  mode_iff := by rw [hmode, hsurface]; exact h.mode_iff
  buffer := by
    intro width height pixels hbuffer
    rw [hmode] at hbuffer
    obtain ⟨hhas, hlength⟩ := h.buffer hbuffer
    exact ⟨hhas.later hsurface hsize, fun hfills => hlength hfills.of_append⟩

end Furnished

/-- Once torn down, a session has nothing to present. -/
lemma TornDown.furnished (h : TornDown s s' events) : Furnished s' earlier :=
  .idle h.mode h.surface

lemma Selected.furnished {drawable : Drawable} (h : Selected drawable s s' events)
    (hfurnished : Furnished s earlier) : Furnished s' (events ++ earlier) := by
  cases h with
  | same => exact hfurnished
  | other _ h => exact .idle h.mode h.surface

/-- An attempt leaves it to its caller to say how frames are presented. -/
lemma Attempted.mode {config : Config} {drawable : Drawable} {result : Option Surface}
    (h : Attempted config drawable s result s' events) : s'.mode = s.mode := by
  cases h <;> rfl

/-- It leaves the surface to its caller as well. -/
lemma Attempted.surface {config : Config} {drawable : Drawable} {result : Option Surface}
    (h : Attempted config drawable s result s' events) : s'.surface = s.surface := by
  cases h <;> rfl

/-- Initializing chooses the way of presenting frames along with the surface. -/
lemma Initialized.furnished {config : Config} {drawable : Drawable} {ok : Bool}
    (h : Initialized config drawable s ok s' events) (hfurnished : Furnished s earlier)
    (hmode : s.mode = .uninitialized) : Furnished s' (events ++ earlier) := by
  have hsurface := hfurnished.mode_iff.1 hmode
  cases h with
  | native => exact ⟨by simp, by simp⟩
  | sizeless h => exact .idle (h.mode.trans hmode) (h.surface.trans hsurface)
  | refused h => exact .idle (h.mode.trans hmode) (h.surface.trans hsurface)
  | pbuffer h width height surface hpixels =>
      refine ⟨by simp, ?_⟩
      rintro _ _ _ ⟨⟩
      refine ⟨⟨surface, rfl, ⟨config, List.mem_cons_self⟩, fun _ => if_pos rfl⟩, fun _ => ?_⟩
      exact length_of_pixelBuffer hpixels

/-- Where there is a surface already, nothing changes. -/
lemma Ensured.furnished {config : Config} {drawable : Drawable} {ok : Bool}
    (h : Ensured config drawable s ok s' events) (hfurnished : Furnished s earlier) :
    Furnished s' (events ++ earlier) := by
  cases h with
  | already => exact hfurnished
  | made hmode h => exact h.furnished hfurnished hmode

lemma Created.furnished {config : Config} {share : Option Context} {minors : List ℕ}
    {result : Except Text Context} (h : Created config share s minors result s' events)
    (hfurnished : Furnished s earlier) : Furnished s' (events ++ earlier) := by
  induction h generalizing earlier with
  | exhausted => exact hfurnished
  | accepted => exact hfurnished.congr [_] rfl rfl fun _ _ _ => rfl
  | refused _ ih =>
      rw [List.append_assoc]
      exact ih (hfurnished.congr [_] rfl rfl fun _ _ _ => rfl)

/-- A context that is dropped takes the surface along, if it is current. -/
lemma Dropped.furnished {context : Context} (h : Dropped context s s' events)
    (hfurnished : Furnished s earlier) : Furnished s' (events ++ earlier) := by
  cases h with
  | current _ _ h => exact .idle h.mode h.surface
  | other => exact hfurnished

lemma Destroyed.furnished {context : Context} (h : Destroyed context s s' events)
    (hfurnished : Furnished s earlier) : Furnished s' (events ++ earlier) := by
  cases h with
  | known h => exact (h.furnished hfurnished).congr [_] rfl rfl fun _ _ _ => rfl
  | unknown h => exact h.furnished hfurnished

/-- Making a context current ends without a surface, or with one that frames are presented
through. -/
lemma MadeCurrent.furnished {drawable : Option Drawable} {context : Option Context} {result : Bool}
    (h : MadeCurrent s drawable context result s' events) (hfurnished : Furnished s earlier) :
    Furnished s' (events ++ earlier) := by
  cases h with
  | released => exact hfurnished.congr [_] rfl rfl fun _ _ _ => rfl
  | unknown => exact hfurnished
  | surfaceless _ hselected hensured =>
      rw [List.append_assoc]
      exact hensured.furnished (hselected.furnished hfurnished)
  | refused _ hselected hensured =>
      rw [List.cons_append, List.append_assoc]
      exact (hensured.furnished (hselected.furnished hfurnished)).congr [_] rfl rfl fun _ _ _ => rfl
  | bound _ hselected hensured =>
      rw [List.cons_append, List.append_assoc]
      exact (hensured.furnished (hselected.furnished hfurnished)).congr [_] rfl rfl fun _ _ _ => rfl

/-- A resized buffer has the new size, and so have its pixels. -/
lemma Resized.furnished {drawable : Drawable} {width height : ℕ} {pixels : Bytes}
    (h : Resized drawable width height s s' events) (hfurnished : Furnished s earlier)
    (hmode : s.mode = .pbufferCopy width height pixels) : Furnished s' (events ++ earlier) := by
  cases h with
  | sizeless => exact hfurnished.congr [_] rfl rfl fun _ _ _ => rfl
  | unchanged => exact hfurnished.congr [_] rfl rfl fun _ _ _ => rfl
  | contextless => exact hfurnished.congr [_] rfl rfl fun _ _ _ => rfl
  | refused => exact hfurnished.congr [_, _] rfl rfl fun _ _ _ => rfl
  | unbound _ _ _ new =>
      -- The new buffer comes and goes under a handle of its own.
      refine hfurnished.congr [_, _, _, _] rfl rfl fun surface hlive hfresh => ?_
      have hother : new ≠ surface := by
        rintro rfl
        exact hfresh.2.2.1 new rfl hlive
      simp [Trace.size?, hother]
  | @replaced _ _ old _ _ _ hsurface config new _ hpixels =>
      refine ⟨by simp, ?_⟩
      rintro _ _ _ ⟨⟩
      refine ⟨⟨new, rfl, ⟨config, by simp⟩, fun hfresh => ?_⟩,
        fun _ => length_of_pixelBuffer hpixels⟩
      -- The old buffer is still there when the new one is made, so that they are not the same.
      obtain ⟨⟨surface, hsome, _, hkept⟩, _⟩ := hfurnished.buffer hmode
      obtain rfl : surface = old := Option.some.inj (hsome.symm.trans hsurface)
      have hold := Trace.mem_surfaces_of_size? (hkept hfresh.of_append)
      have hother : surface ≠ new := by
        rintro rfl
        exact hfresh.2.2.1 surface rfl hold
      simp [Trace.size?, hother]

/-- Pixels are read into the buffer in place, so its length stays. -/
lemma Copied.furnished {drawable : Drawable} (h : Copied drawable s s' events)
    (hfurnished : Furnished s earlier) : Furnished s' (events ++ earlier) := by
  cases h with
  | idle => exact hfurnished
  | copied hmode read put =>
      obtain ⟨hhas, hlength⟩ := hfurnished.buffer hmode
      refine ⟨?_, ?_⟩
      · simpa [hmode] using hfurnished.mode_iff
      · rintro _ _ _ ⟨⟩
        refine ⟨hhas.later rfl fun _ _ _ => rfl, fun hfills => ?_⟩
        exact Eq.trans hfills.2.1 (hlength hfills.2.2)

lemma Swapped.furnished {drawable : Drawable} (h : Swapped drawable s s' events)
    (hfurnished : Furnished s earlier) : Furnished s' (events ++ earlier) := by
  cases h with
  | idle => exact hfurnished
  | native => exact hfurnished.congr [_] rfl rfl fun _ _ _ => rfl
  | copied _ hmode hresized hcopied =>
      rw [List.append_assoc]
      exact hcopied.furnished (hresized.furnished hfurnished hmode)

/-- Whatever an operation comes to, presenting goes with the surface afterwards. -/
lemma Performed.furnished {operation : Operation} {result : Bool}
    (h : Performed s operation result s' events) (hfurnished : Furnished s earlier) :
    Furnished s' (events ++ earlier) := by
  cases h with
  | createdContext h => exact h.furnished hfurnished
  | destroyedContext h => exact h.furnished hfurnished
  | madeCurrent h => exact h.furnished hfurnished
  | swappedBuffers h => exact h.furnished hfurnished
  | setInterval => exact hfurnished.congr [_] rfl rfl fun _ _ _ => rfl

/-! ## Moved frames -/

/-- A frame that is read or drawn has the size of the session's surface, and the buffer is as long
as that takes. -/
def Event.Fits (s : Session) : Event → Trace → Prop
  | ⟨.readPixels width height buffer, _⟩, earlier =>
    buffer.length = frameBytes width height ∧ s.HasBuffer earlier width height
  | ⟨.putPixels _ width height pixels, _⟩, earlier =>
    pixels.length = frameBytes width height ∧ s.HasBuffer earlier width height
  | _, _ => True

/-- What moves no frame fits. -/
lemma Event.fits_of_not_isFrame (s : Session) : ∀ (event : Event) (earlier : Trace),
    event.isFrame = false → event.Fits s earlier := by
  rintro ⟨call, answer⟩ earlier h
  cases call with
  | readPixels => exact Bool.noConfusion h
  | putPixels => exact Bool.noConfusion h
  | _ => trivial

/-- A copied frame has the size of the surface, as the buffer has. -/
lemma Copied.fits {drawable : Drawable} (h : Copied drawable s s' events)
    (hfurnished : Furnished s earlier) (hfills : Trace.Always Fills (events ++ earlier)) :
    Trace.Since (Event.Fits s') earlier events := by
  cases h with
  | idle => trivial
  | @copied width height pixels hmode read put =>
      obtain ⟨hhas, hlength⟩ := hfurnished.buffer hmode
      have hbuffer := hlength hfills.2.2
      have hread : read.length = frameBytes width height := Eq.trans hfills.2.1 hbuffer
      refine ⟨⟨hread, ?_⟩, ⟨hbuffer, hhas⟩, trivial⟩
      exact hhas.later rfl fun _ _ _ => rfl

lemma Swapped.fits {drawable : Drawable} (h : Swapped drawable s s' events)
    (hfurnished : Furnished s earlier) (hfills : Trace.Always Fills (events ++ earlier)) :
    Trace.Since (Event.Fits s') earlier events := by
  cases h with
  | idle => trivial
  | native => exact ⟨trivial, trivial⟩
  | copied _ hmode hresized hcopied =>
      rw [List.append_assoc] at hfills
      have hcopied := hcopied.fits (hresized.furnished hfurnished hmode) hfills
      exact Trace.since_append hcopied (hresized.frameless.since (Event.fits_of_not_isFrame _))

/-- The frames that an operation moves fit. -/
lemma Performed.fits {operation : Operation} {result : Bool}
    (h : Performed s operation result s' events) (hfurnished : Furnished s earlier)
    (hfills : Trace.Always Fills (events ++ earlier)) :
    Trace.Since (Event.Fits s') earlier events := by
  have hquiet (hnone : Frameless events) : Trace.Since (Event.Fits s') earlier events :=
    hnone.since (Event.fits_of_not_isFrame s')
  cases h with
  | createdContext h => exact hquiet h.frameless
  | destroyedContext h => exact hquiet h.frameless
  | madeCurrent h => exact hquiet h.frameless
  | swappedBuffers h => exact h.fits hfurnished hfills
  | setInterval => exact ⟨trivial, trivial⟩

/-! ## Histories -/

/-- At every moment, frames are presented in a way that goes with the surface. -/
lemma Moment.after_furnished {τ : Type} (backend : Backend τ) (forcePbuffer : Bool)
    (glesMajor : Int) (state : τ) (operations : List Operation) :
    Furnished ((first forcePbuffer glesMajor state).after backend operations).session
      ((first forcePbuffer glesMajor state).after backend operations).trace :=
  after_keeps backend (first forcePbuffer glesMajor state) Furnished (.idle rfl rfl)
    Performed.furnished operations

/-- **Frames fit their surfaces.**  Whenever there is a buffer for pixels, the session's surface is an
off-screen buffer of the same size; and every frame that is read or drawn during an operation, be it
one in which the program ends, is moved with the size of the surface and a buffer of that size. -/
theorem Moment.frames_fit {τ : Type} (backend : Backend τ) (forcePbuffer : Bool) (glesMajor : Int)
    (state : τ) (operations : List Operation)
    (hfills : Trace.Always Fills
      ((first forcePbuffer glesMajor state).after backend operations).trace) :
    let now := (first forcePbuffer glesMajor state).after backend operations
    (∀ width height pixels, now.session.mode = .pbufferCopy width height pixels →
      now.session.HasBuffer now.trace width height ∧
        pixels.length = frameBytes width height) ∧
      (∀ operation earlier, operations = operation :: earlier →
        ∃ events, now.trace
            = events ++ ((first forcePbuffer glesMajor state).after backend earlier).trace ∧
          Trace.Since (Event.Fits now.session)
            ((first forcePbuffer glesMajor state).after backend earlier).trace events) ∧
      ∀ operation, (now.carriedOut backend operation).2.trace.Always Fills →
        ∃ events, (now.carriedOut backend operation).2.trace = events ++ now.trace ∧
          Trace.Since (Event.Fits (now.carriedOut backend operation).2.session) now.trace
            events := by
  have hnow := after_furnished backend forcePbuffer glesMajor state operations
  refine ⟨fun width height pixels hmode => ?_, ?_, fun operation hcarried => ?_⟩
  · obtain ⟨hhas, hlength⟩ := hnow.buffer hmode
    exact ⟨hhas, hlength hfills⟩
  · rintro operation earlier rfl
    cases hends : ((first forcePbuffer glesMajor state).after backend earlier).ends backend
        operation with
    | true => exact ⟨[], by rw [after, next_of_ends hends]; rfl, trivial⟩
    | false =>
        obtain ⟨events, htrace, h⟩ := next_performed hends
        refine ⟨events, htrace,
          h.fits (after_furnished backend forcePbuffer glesMajor state earlier) ?_⟩
        rw [← htrace]
        exact hfills
  · obtain ⟨events, htrace, h⟩ := carriedOut_performed backend operation
      ((first forcePbuffer glesMajor state).after backend operations)
    refine ⟨events, htrace, ?_⟩
    rcases h with h | h
    · exact h.fits hnow (htrace ▸ hcarried)
    · exact h.frameless.since (Event.fits_of_not_isFrame _)

/-- A frame is presented in each of two windows of different sizes. -/
def presentedTwice : List Operation :=
  [.makeCurrent (some 2) (some 101), .swapBuffers 1, .makeCurrent (some 1) (some 101),
    .createContext 1 none]

theorem Moment.frames_fit_presentedTwice :
    let before := (first false 3 pbuffersOnly).after ScriptedBackend.backend presentedTwice
    let now := (first false 3 pbuffersOnly).after ScriptedBackend.backend
      (.swapBuffers 2 :: presentedTwice)
    Trace.Always Fills now.trace ∧ now.session.mode = .pbufferCopy 2 3 (framePixels 2 24) ∧
      now.session.HasBuffer now.trace 2 3 ∧ ∃ events, now.trace = events ++ before.trace ∧
        Trace.Since (Event.Fits now.session) before.trace events := by
  have h : Trace.Always Fills ((first false 3 pbuffersOnly).after ScriptedBackend.backend
        (.swapBuffers 2 :: presentedTwice)).trace ∧
      ((first false 3 pbuffersOnly).after ScriptedBackend.backend
        (.swapBuffers 2 :: presentedTwice)).session.mode
          = .pbufferCopy 2 3 (framePixels 2 24) := by decide +kernel
  obtain ⟨hstate, hevents, -⟩ := frames_fit ScriptedBackend.backend false 3 pbuffersOnly _ h.1
  exact ⟨h.1, h.2, (hstate _ _ _ h.2).1, hevents _ _ rfl⟩

end GlBridge.Window
