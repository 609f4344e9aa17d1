import GlBridge.Proofs.Window.Trace

/-!
# What the session's programs come to

Each of the session's programs has a relation here that lists its outcomes: under which condition,
to which session, and with which events, the latest first.  Beside each relation stands the lemma
that the program does nothing else.  After that nobody looks into the programs again: what holds of
sessions is shown by cases on the outcomes, and those of a program that uses others are built from
theirs.

Where a buffer for pixels would be too large the program ends midway.  That is not an outcome: it
has relations of its own, which say how far the program got.

* `TornDown`, `Selected` — giving up the surface, and turning to a drawable;
* `Attempted`, `Initialized`, `Ensured` — making a surface;
* `Created`, `Destroyed`, `MadeCurrent` — contexts;
* `Resized`, `Copied`, `Swapped` — frames;
* `Overrun`, `Outshown`, `Outgrown` — the ends of the program, in making a surface for a drawable, in
  making a context current, and in following a drawable's size.
-/

namespace GlBridge.Window

variable {τ : Type}

/-! ## Buffers for pixels -/

/-- The number of bytes of a frame. -/
def frameBytes (width height : ℕ) : ℕ := width * height * bytesPerPixel

/-- A buffer that is not too large is filled with zeros. -/
lemma pixelBuffer_of_le {width height : ℕ} (h : frameBytes width height ≤ bufferLimit) :
    pixelBuffer width height = some (List.replicate (frameBytes width height) 0) := if_pos h

/-- A buffer that is too large ends the program. -/
lemma pixelBuffer_of_lt {width height : ℕ} (h : bufferLimit < frameBytes width height) :
    pixelBuffer width height = none := if_neg (Nat.not_le.2 h)

/-- A buffer that there is has the length of a frame. -/
lemma length_of_pixelBuffer {width height : ℕ} {pixels : Bytes}
    (h : pixelBuffer width height = some pixels) : pixels.length = frameBytes width height := by
  rcases Nat.lt_or_ge bufferLimit (frameBytes width height) with hlarge | hfits
  · rw [pixelBuffer_of_lt hlarge] at h
    exact absurd h (by simp)
  · rw [pixelBuffer_of_le hfits] at h
    obtain rfl := Option.some.inj h
    exact List.length_replicate

lemma bufferLimit_lt_of_pixelBuffer {width height : ℕ} (h : pixelBuffer width height = none) :
    bufferLimit < frameBytes width height := by
  by_contra hfits
  rw [pixelBuffer_of_le (Nat.not_lt.1 hfits)] at h
  exact absurd h (by simp)

/-- Either there is a buffer for pixels, or there cannot be one and the program ends. -/
lemma turnToBuffer_does (width height : ℕ) (s : Session) :
    Does (Session.turnToBuffer width height : SessionM (τ × Trace) Bool) s fun ok s' events =>
      events = [] ∧
        ((∃ pixels, pixelBuffer width height = some pixels ∧ ok = true ∧
            s' = { s with mode := .pbufferCopy width height pixels }) ∨
          pixelBuffer width height = none ∧ ok = false ∧ s' = { s with ended := true }) := by
  unfold Session.turnToBuffer
  split
  · next pixels hpixels =>
      exact Does.modify_bind (Does.pure ⟨rfl, Or.inl ⟨pixels, hpixels, rfl, rfl⟩⟩)
  · next hpixels => exact Does.modify_bind (Does.pure ⟨rfl, Or.inr ⟨hpixels, rfl, rfl⟩⟩)

/-! ## Giving up the surface -/

/-- What giving up the surface comes to. -/
inductive TornDown (s : Session) : Session → Trace → Prop where
  | bare (hsurface : s.surface = none) : TornDown s { s with mode := .uninitialized } []
  | unbound {surface : Surface} (hsurface : s.surface = some surface)
      (hcurrent : s.currentContext = none) :
      TornDown s { s with surface := none, mode := .uninitialized } [⟨.destroySurface surface, ()⟩]
  | released {surface : Surface} (hsurface : s.surface = some surface)
      (hcurrent : s.currentContext ≠ none) (made : Bool) :
      TornDown s { s with surface := none, mode := .uninitialized }
        [⟨.destroySurface surface, ()⟩, ⟨.makeCurrent none none, made⟩]

/-- What tearing down does. -/
lemma teardownSurface_does (backend : Backend τ) (s : Session) :
    Does (Session.teardownSurface backend.recorded) s fun _ => TornDown s := by
  unfold Session.teardownSurface
  refine Does.get_bind ?_
  split
  · next surface hsurface =>
      refine Does.set_bind ?_
      split_ifs with hcurrent
      · rw [Option.isSome_iff_ne_none] at hcurrent
        exact Does.ask_bind fun made => Does.ask_bind fun _ =>
          Does.modify (.released hsurface hcurrent made)
      · rw [Option.not_isSome_iff_eq_none] at hcurrent
        exact Does.ask_bind fun _ => Does.modify (.unbound hsurface hcurrent)
  · next hsurface => exact Does.modify (.bare hsurface)

/-- What turning to a drawable comes to. -/
inductive Selected (drawable : Drawable) (s : Session) : Session → Trace → Prop where
  | same (hdrawable : s.drawable = some drawable) : Selected drawable s s []
  | other {s' : Session} {events : Trace} (hdrawable : s.drawable ≠ some drawable)
      (h : TornDown s s' events) :
      Selected drawable s { s' with drawable := some drawable } events

lemma selectDrawable_does (backend : Backend τ) (drawable : Drawable) (s : Session) :
    Does (Session.selectDrawable backend.recorded drawable) s fun _ => Selected drawable s := by
  unfold Session.selectDrawable
  refine Does.get_bind ?_
  split_ifs with hdrawable
  · exact Does.bind (teardownSurface_does backend s) fun _ _ _ h =>
      Does.modify (.other hdrawable h)
  · exact Does.pure (.same (not_not.1 hdrawable))

/-! ## Making a surface -/

/-- Whether the surface type that was answered allows window surfaces. -/
def AllowsWindow (answer : Option Int) : Prop :=
  ∃ surfaceType, answer = some surfaceType ∧ surfaceType % (2 * windowBit) ≥ windowBit

/-- The backend is asked once, and its answer is a set of bits. -/
lemma supportsWindow_does (backend : Backend τ) (config : Config) (s : Session) :
    Does (Session.supportsWindow backend.recorded config) s fun supported s' events =>
      s' = s ∧ ∃ answer : Option Int, (supported = true ↔ AllowsWindow answer) ∧
        events = [⟨.configAttribute config surfaceTypeAttribute, answer⟩] := by
  unfold Session.supportsWindow
  refine Does.ask_bind fun answer => ?_
  split
  · next surfaceType =>
      refine Does.pure ⟨rfl, _, ?_, rfl⟩
      simp [AllowsWindow]
  · exact Does.pure ⟨rfl, _, by simp [AllowsWindow], rfl⟩

/-- What asking for a window's own surface comes to. -/
inductive Attempted (config : Config) (drawable : Drawable) (s : Session) :
    Option Surface → Session → Trace → Prop where
  | barred (hbarred : s.forcePbuffer = true ∨ s.nativeWindowFailed = true) :
      Attempted config drawable s none s []
  | unsupported {answer : Option Int} (hanswer : ¬ AllowsWindow answer) :
      Attempted config drawable s none s [⟨.configAttribute config surfaceTypeAttribute, answer⟩]
  | made {answer : Option Int} (hopen : s.forcePbuffer = false ∧ s.nativeWindowFailed = false)
      (hanswer : AllowsWindow answer) (surface : Surface) :
      Attempted config drawable s (some surface) s
        [⟨.createWindowSurface config drawable, .ok (some surface)⟩,
          ⟨.configAttribute config surfaceTypeAttribute, answer⟩]
  | failed {answer : Option Int} {outcome : Except Signal (Option Surface)}
      (hopen : s.forcePbuffer = false ∧ s.nativeWindowFailed = false)
      (hanswer : AllowsWindow answer) (houtcome : ∀ surface, outcome ≠ .ok (some surface)) :
      Attempted config drawable s none { s with nativeWindowFailed := true }
        [⟨.createWindowSurface config drawable, outcome⟩,
          ⟨.configAttribute config surfaceTypeAttribute, answer⟩]

/-- What an attempt at a window surface does, whichever way it ends. -/
lemma tryNativeWindow_does (backend : Backend τ) (config : Config) (drawable : Drawable)
    (s : Session) :
    Does (Session.tryNativeWindow backend.recorded config drawable) s
      (Attempted config drawable s) := by
  unfold Session.tryNativeWindow
  refine Does.get_bind ?_
  split_ifs with hbarred
  · exact Does.pure (.barred (Bool.or_eq_true_iff.1 hbarred))
  · have hopen : s.forcePbuffer = false ∧ s.nativeWindowFailed = false := by simpa using hbarred
    refine Does.bind (supportsWindow_does backend config s) ?_
    rintro supported _ _ ⟨rfl, answer, hanswer, rfl⟩
    split_ifs with hsupported
    · exact Does.pure (.unsupported fun h => by simp [hanswer.2 h] at hsupported)
    · have hanswer := hanswer.1 (by simpa using hsupported)
      refine Does.ask_bind fun outcome => ?_
      split
      · next surface => exact Does.pure (.made hopen hanswer surface)
      · next houtcome => exact Does.modify_bind (Does.pure (.failed hopen hanswer houtcome))

/-- What making a surface comes to, and whether that succeeds. -/
inductive Initialized (config : Config) (drawable : Drawable) (s : Session) :
    Bool → Session → Trace → Prop where
  | native {s' : Session} {events : Trace} {surface : Surface}
      (h : Attempted config drawable s (some surface) s' events) :
      Initialized config drawable s true
        { s' with surface := some surface, mode := .nativeWindow } events
  | sizeless {s' : Session} {events : Trace} (h : Attempted config drawable s none s' events) :
      Initialized config drawable s false s' (⟨.drawableSize drawable, none⟩ :: events)
  | refused {s' : Session} {events : Trace} (h : Attempted config drawable s none s' events)
      (width height : ℕ) :
      Initialized config drawable s false s'
        (⟨.createPbufferSurface config width height, none⟩
          :: ⟨.drawableSize drawable, some (width, height)⟩ :: events)
  | pbuffer {s' : Session} {events : Trace} {pixels : Bytes}
      (h : Attempted config drawable s none s' events) (width height : ℕ) (surface : Surface)
      (hpixels : pixelBuffer width height = some pixels) :
      Initialized config drawable s true
        { s' with surface := some surface, mode := .pbufferCopy width height pixels }
        (⟨.createPbufferSurface config width height, some surface⟩
          :: ⟨.drawableSize drawable, some (width, height)⟩ :: events)

/-- The end of the program in making a surface: an off-screen one was made and entered, but the buffer
for its pixels would be too large. -/
inductive Overrun (config : Config) (drawable : Drawable) (s : Session) : Session → Trace → Prop where
  | overrun {s' : Session} {events : Trace} (h : Attempted config drawable s none s' events)
      (width height : ℕ) (surface : Surface) (hpixels : pixelBuffer width height = none) :
      Overrun config drawable s { s' with surface := some surface, ended := true }
        (⟨.createPbufferSurface config width height, some surface⟩
          :: ⟨.drawableSize drawable, some (width, height)⟩ :: events)

/-- What initializing does, or that the program ends in it. -/
lemma initializeSurface_does (backend : Backend τ) (config : Config) (drawable : Drawable)
    (s : Session) :
    Does (Session.initializeSurface backend.recorded config drawable) s fun ok s' events =>
      Initialized config drawable s ok s' events ∨
        ok = false ∧ Overrun config drawable s s' events := by
  unfold Session.initializeSurface
  refine Does.bind (tryNativeWindow_does backend config drawable s) fun attempt s' events h => ?_
  cases attempt with
  | some surface => exact Does.modify_bind (Does.pure (Or.inl (.native h)))
  | none =>
      refine Does.ask_bind fun size => ?_
      split
      · exact Does.pure (Or.inl (.sizeless h))
      · next width height =>
          refine Does.ask_bind fun answer => ?_
          split
          · exact Does.pure (Or.inl (.refused h width height))
          · next surface =>
              refine Does.modify_bind ((turnToBuffer_does width height _).mono ?_)
              rintro _ _ _ ⟨rfl, ⟨pixels, hpixels, rfl, rfl⟩ | ⟨hpixels, rfl, rfl⟩⟩
              · exact Or.inl (.pbuffer h width height surface hpixels)
              · exact Or.inr ⟨rfl, .overrun h width height surface hpixels⟩

/-- What making sure of a surface comes to, and whether there is one. -/
inductive Ensured (config : Config) (drawable : Drawable) (s : Session) :
    Bool → Session → Trace → Prop where
  | already (hmode : s.mode ≠ .uninitialized) : Ensured config drawable s true s []
  | made {ok : Bool} {s' : Session} {events : Trace} (hmode : s.mode = .uninitialized)
      (h : Initialized config drawable s ok s' events) : Ensured config drawable s ok s' events

/-- A surface is made where there is none. -/
lemma ensureSurface_does (backend : Backend τ) (config : Config) (drawable : Drawable)
    (s : Session) :
    Does (Session.ensureSurface backend.recorded config drawable) s fun ok s' events =>
      Ensured config drawable s ok s' events ∨
        ok = false ∧ s.mode = .uninitialized ∧ Overrun config drawable s s' events := by
  unfold Session.ensureSurface
  refine Does.get_bind ?_
  split_ifs with hmode
  · refine (initializeSurface_does backend config drawable s).mono fun _ _ _ h => ?_
    exact h.imp (.made hmode) fun ⟨hok, h⟩ => ⟨hok, hmode, h⟩
  · exact Does.pure (Or.inl (.already hmode))

/-! ## Contexts -/

/-- What trying minor versions for a new context comes to. -/
inductive Created (config : Config) (share : Option Context) (s : Session) :
    List ℕ → Except Text Context → Session → Trace → Prop where
  | exhausted : Created config share s [] (.error (Session.contextError s.glesMajor config)) s []
  | accepted {minor : ℕ} {minors : List ℕ} (context : Context) :
      Created config share s (minor :: minors) (.ok context)
        { s with contexts := (context, config) :: s.contexts.filter (·.1 ≠ context) }
        [⟨.createContext config share s.glesMajor minor, some context⟩]
  | refused {minor : ℕ} {minors : List ℕ} {result : Except Text Context} {s' : Session}
      {events : Trace} (h : Created config share s minors result s' events) :
      Created config share s (minor :: minors) result s'
        (events ++ [⟨.createContext config share s.glesMajor minor, none⟩])

lemma createContextOf_does (backend : Backend τ) (config : Config) (share : Option Context)
    (s : Session) : ∀ minors : List ℕ,
      Does (Session.createContextOf backend.recorded config share minors) s
        (Created config share s minors)
  | [] => Does.get_bind (Does.pure .exhausted)
  | minor :: minors => by
      unfold Session.createContextOf
      refine Does.get_bind (Does.ask_bind fun answer => ?_)
      split
      · next context => exact Does.modify_bind (Does.pure (.accepted context))
      · exact (createContextOf_does backend config share s minors).mono fun _ _ _ h => .refused h

/-- What a context that is to be destroyed takes along: the surface, if it is current. -/
inductive Dropped (context : Context) (s : Session) : Session → Trace → Prop where
  | current {s' : Session} {events : Trace} (hcurrent : s.currentContext = some context)
      (made : Bool) (h : TornDown { s with currentContext := none } s' events) :
      Dropped context s { s' with drawable := none } (events ++ [⟨.makeCurrent none none, made⟩])
  | other (hcurrent : s.currentContext ≠ some context) : Dropped context s s []

/-- What destroying a context comes to. -/
inductive Destroyed (context : Context) (s : Session) : Session → Trace → Prop where
  | known {s' : Session} {events : Trace} (h : Dropped context s s' events)
      (hknown : (s'.contextConfig? context).isSome = true) :
      Destroyed context s { s' with contexts := s'.contexts.filter (·.1 ≠ context) }
        (⟨.destroyContext context, ()⟩ :: events)
  | unknown {s' : Session} {events : Trace} (h : Dropped context s s' events)
      (hknown : s'.contextConfig? context = none) : Destroyed context s s' events

lemma destroyContext_does (backend : Backend τ) (context : Context) (s : Session) :
    Does (Session.destroyContext backend.recorded context) s fun _ => Destroyed context s := by
  -- What is left to do once the surface is out of the way.
  have hrest : ∀ s' events, Dropped context s s' events →
      Does (do
        let session ← get
        if (session.contextConfig? context).isSome then
          set { session with contexts := session.contexts.filter (·.1 ≠ context) }
          Session.ask backend.recorded (.destroyContext context) : SessionM (τ × Trace) Unit)
        s' fun _ s'' later => Destroyed context s s'' (later ++ events) := by
    intro s' events h
    refine Does.get_bind ?_
    refine Does.ite (fun hknown => ?_) (fun hknown => ?_)
    · refine Does.set_bind ?_
      exact Does.ask fun _ => Destroyed.known h hknown
    · rw [Option.not_isSome_iff_eq_none] at hknown
      exact Does.pure (by simpa using Destroyed.unknown h hknown)
  unfold Session.destroyContext
  refine Does.get_bind ?_
  split_ifs with hcurrent
  · refine Does.ask_bind fun made => ?_
    refine Does.modify_bind ?_
    refine Does.bind (teardownSurface_does backend _) fun _ _ _ h => ?_
    refine Does.modify_bind ?_
    refine (hrest _ _ (.current hcurrent made h)).mono fun _ _ _ h' => ?_
    rwa [List.append_assoc]
  · refine (hrest s [] (.other hcurrent)).mono fun _ _ _ h' => ?_
    rwa [List.append_nil] at h'

/-- What making a context current comes to, and whether that succeeds. -/
inductive MadeCurrent (s : Session) :
    Option Drawable → Option Context → Bool → Session → Trace → Prop where
  | released {drawable : Option Drawable} {context : Option Context}
      (hnone : drawable = none ∨ context = none) (made : Bool) :
      MadeCurrent s drawable context made { s with currentContext := none }
        [⟨.makeCurrent none none, made⟩]
  | unknown {drawable : Drawable} {context : Context}
      (hunknown : s.contextConfig? context = none) :
      MadeCurrent s (some drawable) (some context) false s []
  | surfaceless {drawable : Drawable} {context : Context} {config : Config} {s₁ s₂ : Session}
      {selected ensured : Trace} (hknown : s.contextConfig? context = some config)
      (hselected : Selected drawable s s₁ selected)
      (hensured : Ensured config drawable s₁ false s₂ ensured) :
      MadeCurrent s (some drawable) (some context) false s₂ (ensured ++ selected)
  | refused {drawable : Drawable} {context : Context} {config : Config} {s₁ s₂ : Session}
      {selected ensured : Trace} (hknown : s.contextConfig? context = some config)
      (hselected : Selected drawable s s₁ selected)
      (hensured : Ensured config drawable s₁ true s₂ ensured) :
      MadeCurrent s (some drawable) (some context) false s₂
        (⟨.makeCurrent s₂.surface (some context), false⟩ :: (ensured ++ selected))
  | bound {drawable : Drawable} {context : Context} {config : Config} {s₁ s₂ : Session}
      {selected ensured : Trace} (hknown : s.contextConfig? context = some config)
      (hselected : Selected drawable s s₁ selected)
      (hensured : Ensured config drawable s₁ true s₂ ensured) :
      MadeCurrent s (some drawable) (some context) true { s₂ with currentContext := some context }
        (⟨.makeCurrent s₂.surface (some context), true⟩ :: (ensured ++ selected))

/-- The end of the program in making a context current, of which the application is told nothing. -/
inductive Outshown (s : Session) : Option Drawable → Option Context → Session → Trace → Prop where
  | outshown {drawable : Drawable} {context : Context} {config : Config} {s₁ s₂ : Session}
      {selected overrun : Trace} (hknown : s.contextConfig? context = some config)
      (hselected : Selected drawable s s₁ selected) (hmode : s₁.mode = .uninitialized)
      (h : Overrun config drawable s₁ s₂ overrun) :
      Outshown s (some drawable) (some context) s₂ (overrun ++ selected)

/-- What making a context current does, or that the program ends in it. -/
lemma makeCurrent_does (backend : Backend τ) (drawable : Option Drawable)
    (context : Option Context) (s : Session) :
    Does (Session.makeCurrent backend.recorded drawable context) s fun made s' events =>
      MadeCurrent s drawable context made s' events ∨ Outshown s drawable context s' events := by
  have hreleased (hnone : drawable = none ∨ context = none) :
      Does (do
        modify fun s => { s with currentContext := none }
        Session.ask backend.recorded (.makeCurrent none none))
        s fun made s' events =>
          MadeCurrent s drawable context made s' events ∨ Outshown s drawable context s' events := by
    refine Does.modify_bind ?_
    exact Does.ask fun made => Or.inl (.released hnone made)
  cases drawable with
  | none => exact hreleased (Or.inl rfl)
  | some drawable =>
      cases context with
      | none => exact hreleased (Or.inr rfl)
      | some context =>
          unfold Session.makeCurrent
          refine Does.get_bind ?_
          split
          · next hunknown => exact Does.pure (Or.inl (.unknown hunknown))
          · next config hknown =>
              refine Does.bind (selectDrawable_does backend drawable s) ?_
              intro _ s₁ selected hselected
              refine Does.bind (ensureSurface_does backend config drawable s₁) ?_
              rintro ensured s₂ events (hensured | ⟨rfl, hmode, hoverrun⟩)
              · cases ensured with
                | false => exact Does.pure (Or.inl (.surfaceless hknown hselected hensured))
                | true =>
                    refine Does.get_bind (Does.ask_bind fun made => ?_)
                    cases made with
                    | false => exact Does.pure (Or.inl (.refused hknown hselected hensured))
                    | true =>
                        exact Does.modify_bind
                          (Does.pure (Or.inl (.bound hknown hselected hensured)))
              · exact Does.pure (Or.inr (.outshown hknown hselected hmode hoverrun))

/-! ## Frames -/

/-- What following a drawable's size comes to, for an off-screen buffer of the given size. -/
inductive Resized (drawable : Drawable) (width height : ℕ) (s : Session) :
    Session → Trace → Prop where
  | sizeless : Resized drawable width height s s [⟨.drawableSize drawable, none⟩]
  | unchanged : Resized drawable width height s s [⟨.drawableSize drawable, some (width, height)⟩]
  | contextless (size : ℕ × ℕ) (hsize : size ≠ (width, height))
      (hcontext : s.currentContext.bind s.contextConfig? = none) :
      Resized drawable width height s s [⟨.drawableSize drawable, some size⟩]
  | refused (size : ℕ × ℕ) (config : Config) (hsize : size ≠ (width, height)) {context : Context}
      (hcurrent : s.currentContext = some context)
      (hconfig : s.contextConfig? context = some config) :
      Resized drawable width height s s
        [⟨.createPbufferSurface config size.1 size.2, none⟩, ⟨.drawableSize drawable, some size⟩]
  | unbound (size : ℕ × ℕ) (config : Config) (context : Context) (surface : Surface)
      (hsize : size ≠ (width, height)) (hcurrent : s.currentContext = some context)
      (hconfig : s.contextConfig? context = some config) :
      Resized drawable width height s s
        [⟨.destroySurface surface, ()⟩, ⟨.makeCurrent (some surface) (some context), false⟩,
          ⟨.createPbufferSurface config size.1 size.2, some surface⟩,
          ⟨.drawableSize drawable, some size⟩]
  | replaced {size : ℕ × ℕ} {context : Context} {old : Surface} {pixels : Bytes}
      (hsize : size ≠ (width, height)) (hcurrent : s.currentContext = some context)
      (hsurface : s.surface = some old) (config : Config) (surface : Surface)
      (hconfig : s.contextConfig? context = some config)
      (hpixels : pixelBuffer size.1 size.2 = some pixels) :
      Resized drawable width height s
        { s with surface := some surface, mode := .pbufferCopy size.1 size.2 pixels }
        [⟨.destroySurface old, ()⟩, ⟨.makeCurrent (some surface) (some context), true⟩,
          ⟨.createPbufferSurface config size.1 size.2, some surface⟩,
          ⟨.drawableSize drawable, some size⟩]

/-- The end of the program in following a drawable's size: the new off-screen buffer was made, bound
and put in the place of the old one, but the buffer for its pixels would be too large. -/
inductive Outgrown (drawable : Drawable) (width height : ℕ) (s : Session) :
    Session → Trace → Prop where
  | outgrown {size : ℕ × ℕ} {context : Context} {old : Surface} (hsize : size ≠ (width, height))
      (hcurrent : s.currentContext = some context) (hsurface : s.surface = some old)
      (config : Config) (surface : Surface) (hconfig : s.contextConfig? context = some config)
      (hpixels : pixelBuffer size.1 size.2 = none) :
      Outgrown drawable width height s { s with surface := some surface, ended := true }
        [⟨.destroySurface old, ()⟩, ⟨.makeCurrent (some surface) (some context), true⟩,
          ⟨.createPbufferSurface config size.1 size.2, some surface⟩,
          ⟨.drawableSize drawable, some size⟩]

/-- Following a size goes on, or the program ends in it. -/
lemma resizePbuffer_does (backend : Backend τ) (drawable : Drawable) (width height : ℕ)
    {s : Session} {old : Surface} (hsurface : s.surface = some old) :
    Does (Session.resizePbuffer backend.recorded drawable width height) s fun ok s' events =>
      ok = true ∧ Resized drawable width height s s' events ∨
        ok = false ∧ Outgrown drawable width height s s' events := by
  unfold Session.resizePbuffer
  refine Does.ask_bind fun answer => ?_
  split
  · exact Does.pure (Or.inl ⟨rfl, .sizeless⟩)
  · next newWidth newHeight =>
      split_ifs with hsame
      · obtain ⟨rfl, rfl⟩ := hsame
        exact Does.pure (Or.inl ⟨rfl, .unchanged⟩)
      · have hsize : (newWidth, newHeight) ≠ (width, height) := by simpa using hsame
        refine Does.get_bind ?_
        split
        · next context config hcurrent hcontext =>
            have hconfig : s.contextConfig? context = some config := by
              rwa [hcurrent] at hcontext
            refine Does.ask_bind fun created => ?_
            split
            · exact Does.pure
                (Or.inl ⟨rfl, .refused (newWidth, newHeight) config hsize hcurrent hconfig⟩)
            · next surface =>
                refine Does.ask_bind fun made => ?_
                cases made with
                | false =>
                    refine Does.ask_bind fun _ => Does.pure (Or.inl ⟨rfl, ?_⟩)
                    exact .unbound (newWidth, newHeight) config context surface hsize hcurrent
                      hconfig
                | true =>
                    simp only [hsurface]
                    refine Does.ask_bind fun _ => Does.modify_bind ?_
                    refine (turnToBuffer_does newWidth newHeight _).mono ?_
                    rintro _ _ _ ⟨rfl, ⟨pixels, hpixels, rfl, rfl⟩ | ⟨hpixels, rfl, rfl⟩⟩
                    · exact Or.inl
                        ⟨rfl, .replaced hsize hcurrent hsurface config surface hconfig hpixels⟩
                    · exact Or.inr
                        ⟨rfl, .outgrown hsize hcurrent hsurface config surface hconfig hpixels⟩
        · next hother =>
            refine Does.pure (Or.inl ⟨rfl, .contextless (newWidth, newHeight) hsize ?_⟩)
            refine Option.eq_none_iff_forall_ne_some.2 fun config hconfig => ?_
            obtain ⟨context, hcurrent, _⟩ := Option.bind_eq_some_iff.1 hconfig
            exact hother context config hcurrent hconfig

/-- What copying into a window comes to. -/
inductive Copied (drawable : Drawable) (s : Session) : Session → Trace → Prop where
  | idle (hmode : ∀ width height pixels, s.mode ≠ .pbufferCopy width height pixels) :
      Copied drawable s s []
  | copied {width height : ℕ} {pixels : Bytes} (hmode : s.mode = .pbufferCopy width height pixels)
      (read : Bytes) (put : Bool) :
      Copied drawable s { s with mode := .pbufferCopy width height read }
        [⟨.putPixels drawable width height read, put⟩, ⟨.readPixels width height pixels, read⟩]

lemma copyToWindow_does (backend : Backend τ) (drawable : Drawable) (s : Session) :
    Does (Session.copyToWindow backend.recorded drawable) s fun _ => Copied drawable s := by
  unfold Session.copyToWindow
  refine Does.get_bind ?_
  split
  · next width height pixels hmode =>
      refine Does.ask_bind fun read => ?_
      refine Does.modify_bind ?_
      exact Does.ask_bind fun put => Does.pure (.copied hmode read put)
  · next hmode => exact Does.pure (.idle hmode)

/-- What presenting a frame comes to. -/
inductive Swapped (drawable : Drawable) (s : Session) : Session → Trace → Prop where
  | idle (hidle : s.drawable ≠ some drawable ∨ s.surface = none ∨ s.mode = .uninitialized) :
      Swapped drawable s s []
  | native {surface : Surface} (hsurface : s.surface = some surface) (swapped : Bool)
      (hmode : s.mode = .nativeWindow) : Swapped drawable s s [⟨.swapBuffers surface, swapped⟩]
  | copied {surface : Surface} {width height : ℕ} {pixels : Bytes} {s₁ s₂ : Session}
      {resized copied : Trace} (hsurface : s.surface = some surface)
      (hmode : s.mode = .pbufferCopy width height pixels)
      (hresized : Resized drawable width height s s₁ resized)
      (hcopied : Copied drawable s₁ s₂ copied) : Swapped drawable s s₂ (copied ++ resized)

/-- A swap goes on, or the program ends in it. -/
lemma swapBuffers_does (backend : Backend τ) (drawable : Drawable) (s : Session) :
    Does (Session.swapBuffers backend.recorded drawable) s fun _ s' events =>
      Swapped drawable s s' events ∨
        ∃ width height pixels, s.mode = .pbufferCopy width height pixels ∧
          Outgrown drawable width height s s' events := by
  unfold Session.swapBuffers
  refine Does.get_bind ?_
  split_ifs with hdrawable
  · split
    · next hnone => exact Does.pure (Or.inl (.idle (Or.inr (Or.inl hnone))))
    · next hmode _ => exact Does.pure (Or.inl (.idle (Or.inr (Or.inr hmode))))
    · next surface hsurface hmode =>
        exact Does.ask_bind fun swapped => Does.pure (Or.inl (.native hsurface swapped hmode))
    · next width height pixels hsurface hmode =>
        refine Does.bind (resizePbuffer_does backend drawable width height hsurface) ?_
        rintro _ s₁ resized (⟨rfl, hresized⟩ | ⟨rfl, houtgrown⟩)
        · exact (copyToWindow_does backend drawable s₁).mono fun _ _ _ hcopied =>
            Or.inl (.copied hsurface hmode hresized hcopied)
        · exact Does.pure (Or.inr ⟨width, height, pixels, hmode, houtgrown⟩)
  · exact Does.pure (Or.inl (.idle (Or.inl hdrawable)))

end GlBridge.Window
