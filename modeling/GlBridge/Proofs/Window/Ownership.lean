import GlBridge.Proofs.Window.Linked
import GlBridge.Window.Script

/-!
# Surfaces and contexts are given back once

Surfaces come and go on five paths: when a drawable is first shown, when it changes, when the
current context is destroyed, when a window is resized, and when resizing fails halfway.  On all of
them the session is the only owner: what was created and not destroyed is exactly what it holds.

* `Fresh` — what a backend promises: new surfaces are not in use;
* `Proper` — what a session owes: it destroys only what exists and is not bound;
* `Sound` — the invariant, `Linked` together with the ownership of surfaces and contexts;
* `Moment.resources_safe` — whatever operations are asked for and however the backend answers, as
  long as it keeps its promise and does not refuse to release, the session owes nothing.
-/

namespace GlBridge.Window

/-- The surface that an event makes. -/
def Event.surface? : Event → Option Surface
  | ⟨.createWindowSurface _ _, .ok (some surface)⟩ => some surface
  | ⟨.createPbufferSurface _ _ _, some surface⟩ => some surface
  | _ => none

/-- New surfaces are not in use.  Nothing of the kind is needed of contexts. -/
def Fresh (event : Event) (earlier : Trace) : Prop :=
  ∀ surface ∈ event.surface?, surface ∉ earlier.surfaces

instance (event : Event) (earlier : Trace) : Decidable (Fresh event earlier) :=
  inferInstanceAs (Decidable (∀ surface ∈ event.surface?, surface ∉ earlier.surfaces))

/-- What is destroyed exists and is not bound. -/
def Proper : Event → Trace → Prop
  | ⟨.destroySurface surface, _⟩, earlier =>
    surface ∈ earlier.surfaces ∧ earlier.bound.surface ≠ some surface
  | ⟨.destroyContext context, _⟩, earlier =>
    context ∈ earlier.contexts ∧ earlier.bound.context ≠ some context
  | _, _ => True

/-- The session owns what exists, and all went properly so far. -/
structure Sound (s : Session) (trace : Trace) : Prop extends Linked s trace where
  surfaces : trace.surfaces = s.surface.toList
  contexts : ∀ context, context ∈ trace.contexts ↔ (s.contextConfig? context).isSome = true
  proper : trace.Always Proper

variable {s s' : Session} {earlier events : Trace}

namespace Sound

/-- A new session owns nothing. -/
lemma new (forcePbuffer : Bool) (glesMajor : Int) : Sound { forcePbuffer, glesMajor } [] where
  toLinked := Linked.new forcePbuffer glesMajor
  surfaces := rfl
  contexts := by simp [Trace.contexts, Session.contextConfig?]
  proper := trivial

/-- Only what the session keeps about the binding has changed. -/
lemma congr {later : Trace} (h : Sound s earlier) (hlinked : Linked s' later)
    (hsurface : s'.surface = s.surface) (hcontexts : s'.contexts = s.contexts)
    (hlive : later.surfaces = earlier.surfaces ∧ later.contexts = earlier.contexts)
    (hproper : later.Always Proper) : Sound s' later where
  toLinked := hlinked
  surfaces := by rw [hlive.1, hsurface, h.surfaces]
  contexts := by
    intro context
    rw [hlive.2, h.contexts, Session.contextConfig?, Session.contextConfig?, hcontexts]
  proper := hproper

end Sound

/-! ## Surfaces -/

/-- Tearing down gives back the surface, once it is released. -/
lemma TornDown.sound (h : TornDown s s' events) (hsound : Sound s earlier)
    (hreleases : Trace.Always Releases (events ++ earlier)) : Sound s' (events ++ earlier) where
  toLinked := h.linked hsound.toLinked hreleases
  surfaces := by
    cases h with
    | bare hsurface => exact hsound.surfaces
    | unbound hsurface => simp [Trace.surfaces, hsound.surfaces, hsurface]
    | released hsurface => simp [Trace.surfaces, hsound.surfaces, hsurface]
  contexts := by cases h <;> exact hsound.contexts
  proper := by
    cases h with
    | bare => exact hsound.proper
    | unbound hsurface hcurrent =>
        refine ⟨⟨?_, ?_⟩, hsound.proper⟩
        · simp [hsound.surfaces, hsurface]
        · simp [hsound.bound_of_current hcurrent]
    | @released surface hsurface hcurrent made =>
        obtain rfl : made = true := hreleases.2.1
        refine ⟨⟨?_, ?_⟩, trivial, hsound.proper⟩
        · simp [Trace.surfaces, hsound.surfaces, hsurface]
        · simp [Trace.bound]

/-- Turning to another drawable gives back the surface of the last one. -/
lemma Selected.sound {drawable : Drawable} (h : Selected drawable s s' events)
    (hsound : Sound s earlier) (hreleases : Trace.Always Releases (events ++ earlier)) :
    Sound s' (events ++ earlier) := by
  cases h with
  | same => exact hsound
  | other hdrawable h =>
      have hdown := h.sound hsound hreleases
      exact hdown.congr (hdown.toLinked.congr rfl rfl rfl rfl) rfl rfl ⟨rfl, rfl⟩ hdown.proper

/-- Asking for a window's own surface makes that surface and nothing else. -/
lemma Attempted.surfaces {config : Config} {drawable : Drawable} {result : Option Surface}
    (h : Attempted config drawable s result s' events) (earlier : Trace) :
    (events ++ earlier).surfaces = result.toList ++ earlier.surfaces := by
  cases h with
  | @failed _ outcome _ _ houtcome =>
      match outcome, houtcome with
      | .error _, _ => rfl
      | .ok none, _ => rfl
      | .ok (some surface), houtcome => exact absurd rfl (houtcome surface)
  | _ => rfl

/-- Making a surface makes no context. -/
lemma Attempted.contexts {config : Config} {drawable : Drawable} {result : Option Surface}
    (h : Attempted config drawable s result s' events) (earlier : Trace) :
    (events ++ earlier).contexts = earlier.contexts := by
  cases h <;> rfl

/-- An attempt leaves it to its caller to keep what it made. -/
lemma Attempted.kept {config : Config} {drawable : Drawable} {result : Option Surface}
    (h : Attempted config drawable s result s' events) :
    s'.surface = s.surface ∧ s'.contexts = s.contexts := by
  cases h <;> exact ⟨rfl, rfl⟩

/-- An attempt destroys nothing. -/
lemma Attempted.proper {config : Config} {drawable : Drawable} {result : Option Surface}
    (h : Attempted config drawable s result s' events) (hproper : earlier.Always Proper) :
    (events ++ earlier).Always Proper := by
  cases h <;> simpa [Proper] using hproper

/-- An attempt that failed made nothing. -/
lemma Attempted.sound {config : Config} {drawable : Drawable}
    (h : Attempted config drawable s none s' events) (hsound : Sound s earlier) :
    Sound s' (events ++ earlier) :=
  hsound.congr (h.linked hsound.toLinked) h.kept.1 h.kept.2 ⟨h.surfaces earlier, h.contexts earlier⟩
    (h.proper hsound.proper)

/-- Initializing keeps the surface that it makes. -/
lemma Initialized.sound {config : Config} {drawable : Drawable} {ok : Bool}
    (h : Initialized config drawable s ok s' events) (hsound : Sound s earlier)
    (hmode : s.mode = .uninitialized) : Sound s' (events ++ earlier) := by
  have hlinked := h.linked hsound.toLinked hmode
  have hnone : earlier.surfaces = [] := by
    rw [hsound.surfaces, hsound.mode_iff.1 hmode, Option.toList_none]
  cases h with
  | @native s₁ _ surface h =>
      refine ⟨hlinked, ?_, ?_, h.proper hsound.proper⟩
      · rw [h.surfaces, hnone, List.append_nil]
      · intro context
        rw [h.contexts, hsound.contexts, Session.contextConfig?, Session.contextConfig?,
          h.kept.2]
  | sizeless h =>
      have hfailed := h.sound hsound
      exact hfailed.congr hlinked rfl rfl ⟨rfl, rfl⟩ ⟨trivial, hfailed.proper⟩
  | refused h =>
      have hfailed := h.sound hsound
      exact hfailed.congr hlinked rfl rfl ⟨rfl, rfl⟩ ⟨trivial, trivial, hfailed.proper⟩
  | pbuffer h width height surface =>
      have hfailed := h.sound hsound
      refine ⟨hlinked, ?_, hfailed.contexts, trivial, trivial, hfailed.proper⟩
      have hearlier := (h.surfaces earlier).trans hnone
      exact congrArg (surface :: ·) hearlier

/-- Where there is a surface already, no other one is made. -/
lemma Ensured.sound {config : Config} {drawable : Drawable} {ok : Bool}
    (h : Ensured config drawable s ok s' events) (hsound : Sound s earlier) :
    Sound s' (events ++ earlier) := by
  cases h with
  | already => exact hsound
  | made hmode h => exact h.sound hsound hmode

/-! ## Contexts -/

/-- A context has a configuration if the session keeps it. -/
lemma Session.contextConfig?_isSome (s : Session) (context : Context) :
    (s.contextConfig? context).isSome = true ↔ ∃ config, (context, config) ∈ s.contexts := by
  simp [Session.contextConfig?]

/-- A context that is created is kept with its configuration. -/
lemma Created.sound {config : Config} {share : Option Context} {minors : List ℕ}
    {result : Except Text Context} (h : Created config share s minors result s' events)
    (hsound : Sound s earlier) : Sound s' (events ++ earlier) := by
  induction h generalizing earlier with
  | exhausted => exact hsound
  | accepted context =>
      refine ⟨hsound.toLinked.congr rfl rfl rfl rfl, hsound.surfaces, ?_, trivial, hsound.proper⟩
      intro context'
      have hearlier := hsound.contexts context'
      rw [Session.contextConfig?_isSome] at hearlier ⊢
      by_cases hsame : context' = context
      · simp [Trace.contexts, hsame]
      · simpa [Trace.contexts, hsame] using hearlier
  | refused _ ih =>
      rw [List.append_assoc]
      exact ih (hsound.congr (hsound.toLinked.congr rfl rfl rfl rfl) rfl rfl ⟨rfl, rfl⟩
        ⟨trivial, hsound.proper⟩)

/-- The current context is released before its surface is given back. -/
lemma Dropped.sound {context : Context} (h : Dropped context s s' events)
    (hsound : Sound s earlier) (hreleases : Trace.Always Releases (events ++ earlier)) :
    Sound s' (events ++ earlier) := by
  cases h with
  | @current s' events hcurrent made h =>
      rw [List.append_assoc] at hreleases ⊢
      obtain rfl : made = true := hreleases.of_append.1
      have hreleased : Sound { s with currentContext := none }
          (⟨.makeCurrent none none, true⟩ :: earlier) :=
        hsound.congr ⟨hsound.mode_iff, Or.inl rfl⟩ rfl rfl ⟨rfl, rfl⟩ ⟨trivial, hsound.proper⟩
      have hdown := h.sound hreleased hreleases
      exact hdown.congr (hdown.toLinked.congr rfl rfl rfl rfl) rfl rfl ⟨rfl, rfl⟩ hdown.proper
  | other => exact hsound

/-- A context that is dropped is not current afterwards. -/
lemma Dropped.current_ne {context : Context} (h : Dropped context s s' events) :
    s'.currentContext ≠ some context := by
  cases h with
  | current _ _ h => cases h <;> simp
  | other hcurrent => exact hcurrent

/-- A context is destroyed once, since the session forgets it. -/
lemma Destroyed.sound {context : Context} (h : Destroyed context s s' events)
    (hsound : Sound s earlier) (hreleases : Trace.Always Releases (events ++ earlier)) :
    Sound s' (events ++ earlier) := by
  have hlinked := h.linked hsound.toLinked hreleases
  cases h with
  | @known s₁ events h hknown =>
      have hdropped := h.sound hsound hreleases.2
      refine ⟨hlinked, hdropped.surfaces, ?_, ⟨?_, ?_⟩, hdropped.proper⟩
      · intro context'
        have hearlier := hdropped.contexts context'
        rw [Session.contextConfig?_isSome] at hearlier ⊢
        by_cases hsame : context' = context
        · simp [Trace.contexts, hsame]
        · simpa [Trace.contexts, hsame] using hearlier
      · exact (hdropped.contexts context).2 hknown
      · exact hdropped.bound_context h.current_ne
  | unknown h => exact h.sound hsound hreleases

/-- Making a context current gives back surfaces, and owns the one that it makes. -/
lemma MadeCurrent.sound {drawable : Option Drawable} {context : Option Context} {result : Bool}
    (h : MadeCurrent s drawable context result s' events) (hsound : Sound s earlier)
    (hreleases : Trace.Always Releases (events ++ earlier)) : Sound s' (events ++ earlier) := by
  have hlinked := h.linked hsound.toLinked hreleases
  cases h with
  | released => exact hsound.congr hlinked rfl rfl ⟨rfl, rfl⟩ ⟨trivial, hsound.proper⟩
  | unknown => exact hsound
  | surfaceless _ hselected hensured =>
      rw [List.append_assoc] at hreleases ⊢
      exact hensured.sound (hselected.sound hsound hreleases.of_append)
  | refused _ hselected hensured =>
      rw [List.cons_append, List.append_assoc] at hreleases hlinked ⊢
      have hshown := hensured.sound (hselected.sound hsound hreleases.2.of_append)
      exact hshown.congr hlinked rfl rfl ⟨rfl, rfl⟩ ⟨trivial, hshown.proper⟩
  | bound _ hselected hensured =>
      rw [List.cons_append, List.append_assoc] at hreleases hlinked ⊢
      have hshown := hensured.sound (hselected.sound hsound hreleases.2.of_append)
      exact hshown.congr hlinked rfl rfl ⟨rfl, rfl⟩ ⟨trivial, hshown.proper⟩

/-! ## Frames -/

/-- Resizing exchanges one surface for another, or gives up the new one. -/
lemma Resized.sound {drawable : Drawable} {width height : ℕ}
    (h : Resized drawable width height s s' events) (hsound : Sound s earlier)
    (hfresh : Trace.Always Fresh (events ++ earlier)) : Sound s' (events ++ earlier) := by
  have hlinked := h.linked hsound.toLinked
  cases h with
  | sizeless => exact hsound.congr hlinked rfl rfl ⟨rfl, rfl⟩ ⟨trivial, hsound.proper⟩
  | unchanged => exact hsound.congr hlinked rfl rfl ⟨rfl, rfl⟩ ⟨trivial, hsound.proper⟩
  | contextless => exact hsound.congr hlinked rfl rfl ⟨rfl, rfl⟩ ⟨trivial, hsound.proper⟩
  | refused => exact hsound.congr hlinked rfl rfl ⟨rfl, rfl⟩ ⟨trivial, trivial, hsound.proper⟩
  | unbound _ _ _ surface =>
      -- The new buffer cannot be bound and goes at once; it is not the one that stays.
      have hnew : surface ∉ earlier.surfaces := hfresh.2.2.1 surface rfl
      have hother : surface ∉ s.surface := by simpa [hsound.surfaces] using hnew
      have hkept : earlier.surfaces.filter (· ≠ surface) = earlier.surfaces := by
        refine List.filter_eq_self.2 fun surface' hlive => ?_
        rw [decide_eq_true_iff]
        rintro rfl
        exact hnew hlive
      refine hsound.congr hlinked rfl rfl ⟨?_, rfl⟩
        ⟨⟨?_, ?_⟩, trivial, trivial, trivial, hsound.proper⟩
      · simpa [Trace.surfaces] using hkept
      · exact List.mem_cons_self
      · exact hsound.bound_surface hother
  | @replaced _ _ old _ _ _ hsurface _ surface =>
      -- The old buffer is not bound anymore, since the new one is another.
      have hnew : surface ∉ earlier.surfaces := hfresh.2.2.1 surface rfl
      have hother : surface ≠ old := by simpa [hsound.surfaces, hsurface] using hnew
      refine ⟨hlinked, ?_, hsound.contexts, ⟨?_, ?_⟩, trivial, trivial, trivial, hsound.proper⟩
      · simp [Trace.surfaces, hsound.surfaces, hsurface, hother]
      · simp [Trace.surfaces, hsound.surfaces, hsurface]
      · simpa [Trace.bound] using hother

/-- Reading pixels makes nothing. -/
lemma Copied.sound {drawable : Drawable} (h : Copied drawable s s' events)
    (hsound : Sound s earlier) : Sound s' (events ++ earlier) := by
  have hlinked := h.linked hsound.toLinked
  cases h with
  | idle => exact hsound
  | copied => exact hsound.congr hlinked rfl rfl ⟨rfl, rfl⟩ ⟨trivial, trivial, hsound.proper⟩

lemma Swapped.sound {drawable : Drawable} (h : Swapped drawable s s' events)
    (hsound : Sound s earlier) (hfresh : Trace.Always Fresh (events ++ earlier)) :
    Sound s' (events ++ earlier) := by
  have hlinked := h.linked hsound.toLinked
  cases h with
  | idle => exact hsound
  | native => exact hsound.congr hlinked rfl rfl ⟨rfl, rfl⟩ ⟨trivial, hsound.proper⟩
  | copied _ _ hresized hcopied =>
      rw [List.append_assoc] at hfresh ⊢
      exact hcopied.sound (hresized.sound hsound hfresh.of_append)

/-! ## Histories -/

/-- Every operation keeps what there is and what the session holds the same. -/
lemma Performed.sound {operation : Operation} {result : Bool}
    (h : Performed s operation result s' events) (hsound : Sound s earlier)
    (hreleases : Trace.Always Releases (events ++ earlier))
    (hfresh : Trace.Always Fresh (events ++ earlier)) : Sound s' (events ++ earlier) := by
  have hlinked := h.linked hsound.toLinked hreleases
  cases h with
  | createdContext h => exact h.sound hsound
  | destroyedContext h => exact h.sound hsound hreleases
  | madeCurrent h => exact h.sound hsound hreleases
  | swappedBuffers h => exact h.sound hsound hfresh
  | setInterval => exact hsound.congr hlinked rfl rfl ⟨rfl, rfl⟩ ⟨trivial, hsound.proper⟩

/-- What an operation destroys before the program ends in it is destroyed properly too. -/
lemma Ended.proper {operation : Operation} (h : Ended s operation s' events)
    (hsound : Sound s earlier) (hreleases : Trace.Always Releases (events ++ earlier))
    (hfresh : Trace.Always Fresh (events ++ earlier)) : (events ++ earlier).Always Proper := by
  cases h with
  | outshown h =>
      obtain ⟨_, hselected, _, ⟨hattempted, _, _, _, _⟩⟩ := h
      rw [List.append_assoc] at hreleases ⊢
      have hshown := hattempted.sound (hselected.sound hsound hreleases.2.2.of_append)
      exact ⟨trivial, trivial, hshown.proper⟩
  | outgrown _ h =>
      cases h with
      | @outgrown _ _ old _ _ hsurface _ surface =>
          have hnew : surface ∉ earlier.surfaces := hfresh.2.2.1 surface rfl
          have hother : surface ≠ old := by simpa [hsound.surfaces, hsurface] using hnew
          refine ⟨⟨?_, ?_⟩, trivial, trivial, trivial, hsound.proper⟩
          · simp [Trace.surfaces, hsound.surfaces, hsurface]
          · simpa [Trace.bound] using hother

/-- So it is after any history. -/
lemma Moment.after_sound {τ : Type} (backend : Backend τ) (forcePbuffer : Bool) (glesMajor : Int)
    (state : τ) (operations : List Operation)
    (hreleases : Trace.Always Releases
      ((first forcePbuffer glesMajor state).after backend operations).trace)
    (hfresh : Trace.Always Fresh
      ((first forcePbuffer glesMajor state).after backend operations).trace) :
    Sound ((first forcePbuffer glesMajor state).after backend operations).session
      ((first forcePbuffer glesMajor state).after backend operations).trace := by
  have hkept := after_keeps_of backend (first forcePbuffer glesMajor state)
    (fun trace => trace.Always Releases ∧ trace.Always Fresh) Sound
    (fun h => ⟨h.1.of_append, h.2.of_append⟩) (Sound.new forcePbuffer glesMajor)
    (fun h hassumed hsound => h.sound hsound hassumed.1 hassumed.2) operations
  exact hkept ⟨hreleases, hfresh⟩

/-- **Surfaces and contexts are given back once.**  At every moment of a session's history the
surfaces that exist are the session's surface, which is there exactly when there is a way to present
frames; and of all that was destroyed so far, each thing existed when it was destroyed and was not
bound.  That much is so until the end of an operation in which the program ends, too. -/
theorem Moment.resources_safe {τ : Type} (backend : Backend τ) (forcePbuffer : Bool)
    (glesMajor : Int) (state : τ) (operations : List Operation)
    (hreleases : Trace.Always Releases
      ((first forcePbuffer glesMajor state).after backend operations).trace)
    (hfresh : Trace.Always Fresh
      ((first forcePbuffer glesMajor state).after backend operations).trace) :
    let now := (first forcePbuffer glesMajor state).after backend operations
    now.trace.surfaces = now.session.surface.toList ∧
      (now.session.mode = .uninitialized ↔ now.session.surface = none) ∧
      (∀ later event before, now.trace = later ++ event :: before → Proper event before) ∧
      ∀ operation, (now.carriedOut backend operation).2.trace.Always Releases →
        (now.carriedOut backend operation).2.trace.Always Fresh →
        ∀ later event before, (now.carriedOut backend operation).2.trace
          = later ++ event :: before → Proper event before := by
  have hsound := after_sound backend forcePbuffer glesMajor state operations hreleases hfresh
  refine ⟨hsound.surfaces, hsound.mode_iff, Trace.always_iff.1 hsound.proper, ?_⟩
  intro operation hreleases hfresh
  obtain ⟨events, htrace, h⟩ := carriedOut_performed backend operation
    ((first forcePbuffer glesMajor state).after backend operations)
  refine Trace.always_iff.1 ?_
  rw [htrace] at hreleases hfresh ⊢
  rcases h with h | h
  · exact (h.sound hsound hreleases hfresh).proper
  · exact h.proper hsound hreleases hfresh

/-- A backend on which no window has a surface of its own. -/
def pbuffersOnly : ScriptedBackend :=
  { script := { window := .fails, sizes := [(1, 4, 4), (2, 2, 3)] } }

/-- A context is shown on two drawables, one after the other, and then destroyed. -/
def shownTwice : List Operation :=
  [.destroyContext 101, .swapBuffers 2, .makeCurrent (some 2) (some 101), .swapBuffers 1,
    .makeCurrent (some 1) (some 101), .createContext 1 none]

theorem Moment.resources_safe_shownTwice :
    let now := (first false 3 pbuffersOnly).after ScriptedBackend.backend shownTwice
    (Trace.Always Releases now.trace ∧ Trace.Always Fresh now.trace) ∧
      now.trace.surfaces = now.session.surface.toList ∧
      (now.session.mode = .uninitialized ↔ now.session.surface = none) ∧
      ∀ later event before, now.trace = later ++ event :: before → Proper event before := by
  have h : Trace.Always Releases
        ((first false 3 pbuffersOnly).after ScriptedBackend.backend shownTwice).trace ∧
      Trace.Always Fresh
        ((first false 3 pbuffersOnly).after ScriptedBackend.backend shownTwice).trace := by
    decide +kernel
  have hsafe := resources_safe ScriptedBackend.backend false 3 pbuffersOnly shownTwice h.1 h.2
  exact ⟨h, hsafe.1, hsafe.2.1, hsafe.2.2.1⟩

end GlBridge.Window
