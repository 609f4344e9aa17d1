import GlBridge.Proofs.Window.Current
import GlBridge.Proofs.Window.Frame

/-!
# Presenting what is bound

A swap presents the session's surface, by reading its pixels or by swapping it.  The backend reads
and swaps what it has bound, so that should be the session's surface.  Whether a swap goes ahead only
depends on the drawable and the surface that the session keeps, though, and these outlive a release.

* `Held` — the session's surface is the bound one;
* `Operation.Shows`, `Moment.Showing` — which operations see to that, and so, for a whole history,
  whether it is so now;
* `Event.OnBound`, `Event.OnNothing` — on what a frame is read or a surface is swapped;
* **`Moment.swap_onBound`** — a swap acts on the bound surface where the history shows it, and
  otherwise, if releases succeed, on nothing;
* `Moment.not_onBound_released` — after a release, frames are read with nothing bound.
-/

namespace GlBridge.Window

variable {s s' : Session} {earlier events : Trace} {was : Prop}

/-- The session's surface is the bound one. -/
def Held (s : Session) (trace : Trace) : Prop :=
  ∃ surface, s.surface = some surface ∧ trace.bound.surface = some surface

/-- Whether an operation with the given result leaves the session's surface bound, given the session
before and after it and whether the surface was bound before.  Showing a context and binding an
off-screen buffer of another size on a swap bind it.  It stays bound until it is released, with the
current context or before another drawable is turned to. -/
def Operation.Shows (result : Bool) (before after : Session) (was : Prop) : Operation → Prop
  | makeCurrent (some drawable) (some context) =>
    result = true ∨ was ∧
      (before.contextConfig? context = none ∨ before.drawable = some drawable)
  | makeCurrent _ _ => was ∧ result = false
  | destroyContext context => was ∧ before.currentContext ≠ some context
  | swapBuffers _ => was ∨ after.mode.size? ≠ before.mode.size?
  | createContext _ _ => was
  | swapInterval _ => was

/-- Whether the session's surface is bound after a history.  An operation in which the program ends
is left out. -/
def Moment.Showing {τ : Type} (backend : Backend τ) (start : Moment τ) : List Operation → Prop
  | [] => False
  | operation :: earlier =>
    let before := start.after backend earlier
    if before.ends backend operation then start.Showing backend earlier
    else
      let (result, after) := before.next backend operation
      operation.Shows result before.session after.session (start.Showing backend earlier)

namespace Moment

variable {τ : Type} {backend : Backend τ} {start : Moment τ} {operation : Operation}
  {earlier : List Operation}

/-- An operation in which the program ends is left out. -/
lemma showing_of_ends (hends : (start.after backend earlier).ends backend operation = true) :
    start.Showing backend (operation :: earlier) ↔ start.Showing backend earlier := by
  rw [Showing, if_pos hends]

/-- Any other operation is looked at with its result. -/
lemma showing_of_not_ends (hends : (start.after backend earlier).ends backend operation = false) :
    start.Showing backend (operation :: earlier) ↔
      operation.Shows ((start.after backend earlier).next backend operation).1
        (start.after backend earlier).session
        ((start.after backend earlier).next backend operation).2.session
        (start.Showing backend earlier) := by
  rw [Showing, if_neg (ne_true_of_eq_false hends)]

end Moment

/-! ## The session's programs -/

/-- Neither the surface nor the binding has changed. -/
lemma Held.congr {later : Trace} (h : Held s earlier) (hsurface : s'.surface = s.surface)
    (hbound : later.bound = earlier.bound) : Held s' later := by
  obtain ⟨surface, hsome, hheld⟩ := h
  exact ⟨surface, hsurface.trans hsome, by rw [hbound, hheld]⟩

/-- Creating a context leaves the surface. -/
lemma Created.surface {config : Config} {share : Option Context} {minors : List ℕ}
    {result : Except Text Context} (h : Created config share s minors result s' events) :
    s'.surface = s.surface := by
  induction h with
  | exhausted => rfl
  | accepted => rfl
  | refused _ ih => exact ih

/-- It binds nothing. -/
lemma Created.bound {config : Config} {share : Option Context} {minors : List ℕ}
    {result : Except Text Context} (h : Created config share s minors result s' events) :
    (events ++ earlier).bound = earlier.bound := by
  induction h generalizing earlier with
  | exhausted => rfl
  | accepted => rfl
  | refused _ ih =>
      rw [List.append_assoc]
      exact ih

/-- With a surface there, none is made. -/
lemma Ensured.held {config : Config} {drawable : Drawable} {ok : Bool}
    (h : Ensured config drawable s ok s' events) (hfurnished : Furnished s earlier)
    (hheld : Held s earlier) : Held s' (events ++ earlier) := by
  cases h with
  | already => exact hheld
  | made hmode =>
      obtain ⟨surface, hsome, _⟩ := hheld
      rw [hfurnished.mode_iff.1 hmode] at hsome
      exact absurd hsome (by simp)

/-- Making a surface binds nothing. -/
lemma Ensured.bound {config : Config} {drawable : Drawable} {ok : Bool}
    (h : Ensured config drawable s ok s' events) :
    (events ++ earlier).bound = earlier.bound := by
  cases h with
  | already => rfl
  | made _ h =>
      cases h with
      | native h => exact h.bound earlier
      | sizeless h => exact h.bound earlier
      | refused h => exact h.bound earlier
      | pbuffer h => exact h.bound earlier

/-- Destroying a context that is not current keeps the surface bound. -/
lemma Destroyed.held {context : Context} (h : Destroyed context s s' events)
    (hcurrent : s.currentContext ≠ some context) (hheld : Held s earlier) :
    Held s' (events ++ earlier) := by
  cases h with
  | known h =>
      cases h with
      | current hsame => exact absurd hsame hcurrent
      | other => exact hheld.congr rfl rfl
  | unknown h =>
      cases h with
      | current hsame => exact absurd hsame hcurrent
      | other => exact hheld

/-- Turning to the same drawable changes nothing. -/
lemma Selected.held {drawable : Drawable} (h : Selected drawable s s' events)
    (hdrawable : s.drawable = some drawable) (hheld : Held s earlier) :
    Held s' (events ++ earlier) := by
  cases h with
  | same => exact hheld
  | other hother => exact absurd hdrawable hother

/-- The surface is bound afterwards if the operation shows it. -/
lemma MadeCurrent.held {drawable : Option Drawable} {context : Option Context} {result : Bool}
    (h : MadeCurrent s drawable context result s' events) (hfurnished : Furnished s earlier)
    (hwas : was → Held s earlier)
    (hshows : (Operation.makeCurrent drawable context).Shows result s s' was) :
    Held s' (events ++ earlier) := by
  cases h with
  | released hnone =>
      have hkept : was ∧ result = false := by
        rcases hnone with rfl | rfl
        · exact hshows
        · cases drawable <;> exact hshows
      obtain ⟨hwas', rfl⟩ := hkept
      exact (hwas hwas').congr rfl rfl
  | unknown =>
      rcases hshows with hresult | ⟨hwas', _⟩
      · exact absurd hresult (by simp)
      · exact hwas hwas'
  | surfaceless hknown hselected hensured =>
      rcases hshows with hresult | ⟨hwas', hunknown | hdrawable⟩
      · exact absurd hresult (by simp)
      · simp [hknown] at hunknown
      · rw [List.append_assoc]
        exact hensured.held (hselected.furnished hfurnished)
          (hselected.held hdrawable (hwas hwas'))
  | refused hknown hselected hensured =>
      rcases hshows with hresult | ⟨hwas', hunknown | hdrawable⟩
      · exact absurd hresult (by simp)
      · simp [hknown] at hunknown
      · rw [List.cons_append, List.append_assoc]
        have hheld := hensured.held (hselected.furnished hfurnished)
          (hselected.held hdrawable (hwas hwas'))
        exact hheld.congr rfl rfl
  | @bound _ context _ _ s₂ _ _ _ hselected hensured =>
      rw [List.cons_append, List.append_assoc]
      have hshown := hensured.furnished (hselected.furnished hfurnished)
      obtain ⟨surface, hsurface⟩ :=
        Option.ne_none_iff_exists'.1 (hshown.mode_iff.not.1 hensured.mode_ne)
      exact ⟨surface, hsurface, hsurface⟩

/-- A resized buffer is bound, or the old one stays if its size is the same. -/
lemma Resized.held {drawable : Drawable} {width height : ℕ}
    (h : Resized drawable width height s s' events)
    (hheld : Held s earlier ∨ s'.mode.size? ≠ s.mode.size?) : Held s' (events ++ earlier) := by
  cases h with
  | replaced => exact ⟨_, rfl, rfl⟩
  | _ =>
      rcases hheld with hheld | hsize
      · exact hheld.congr rfl rfl
      · exact absurd rfl hsize

/-- A copied frame leaves the surface. -/
lemma Copied.surface {drawable : Drawable} (h : Copied drawable s s' events) :
    s'.surface = s.surface := by
  cases h <;> rfl

/-- It is read without binding anything. -/
lemma Copied.bound {drawable : Drawable} (h : Copied drawable s s' events) :
    (events ++ earlier).bound = earlier.bound := by
  cases h <;> rfl

/-- A swap keeps the surface bound, and binds it if it gets another size. -/
lemma Swapped.held {drawable : Drawable} (h : Swapped drawable s s' events)
    (hheld : Held s earlier ∨ s'.mode.size? ≠ s.mode.size?) : Held s' (events ++ earlier) := by
  cases h with
  | idle => exact hheld.resolve_right fun h => h rfl
  | native => exact (hheld.resolve_right fun h => h rfl).congr rfl rfl
  | copied _ _ hresized hcopied =>
      rw [hcopied.size?_eq] at hheld
      rw [List.append_assoc]
      exact (hresized.held hheld).congr hcopied.surface hcopied.bound

/-! ## Nothing bound -/

/-- If something is still bound after a context is dropped, it was bound before, with another
context. -/
lemma Dropped.shows {context : Context} (h : Dropped context s s' events)
    (hlinked : Linked s earlier) (hreleases : Trace.Always Releases (events ++ earlier))
    (hbound : (events ++ earlier).bound ≠ {}) :
    earlier.bound ≠ {} ∧ s.currentContext ≠ some context := by
  cases h with
  | current _ made h =>
      rw [List.append_assoc] at hreleases hbound
      obtain rfl : made = true := hreleases.of_append.1
      have hreleased : Linked { s with currentContext := none }
          (⟨.makeCurrent none none, true⟩ :: earlier) := ⟨hlinked.mode_iff, Or.inl rfl⟩
      exact absurd (h.bound hreleased hreleases) hbound
  | other hcurrent => exact ⟨hbound, hcurrent⟩

/-- So it is if something is bound after a context is destroyed. -/
lemma Destroyed.shows {context : Context} (h : Destroyed context s s' events)
    (hlinked : Linked s earlier) (hreleases : Trace.Always Releases (events ++ earlier))
    (hbound : (events ++ earlier).bound ≠ {}) :
    earlier.bound ≠ {} ∧ s.currentContext ≠ some context := by
  cases h with
  | known h => exact h.shows hlinked hreleases.2 hbound
  | unknown h => exact h.shows hlinked hreleases hbound

/-- Turning to another drawable leaves nothing bound. -/
lemma Selected.shows {drawable : Drawable} (h : Selected drawable s s' events)
    (hlinked : Linked s earlier) (hreleases : Trace.Always Releases (events ++ earlier))
    (hbound : (events ++ earlier).bound ≠ {}) :
    earlier.bound ≠ {} ∧ s.drawable = some drawable := by
  cases h with
  | same hdrawable => exact ⟨hbound, hdrawable⟩
  | other _ h => exact absurd (h.bound hlinked hreleases) hbound

/-- If something is bound after a context is to be made current, the operation shows it. -/
lemma MadeCurrent.shows {drawable : Option Drawable} {context : Option Context} {result : Bool}
    (h : MadeCurrent s drawable context result s' events) (hlinked : Linked s earlier)
    (hreleases : Trace.Always Releases (events ++ earlier)) (hwas : earlier.bound ≠ {} → was)
    (hbound : (events ++ earlier).bound ≠ {}) :
    (Operation.makeCurrent drawable context).Shows result s s' was := by
  cases h with
  | released =>
      obtain rfl : result = true := hreleases.1
      exact absurd rfl hbound
  | unknown hunknown => exact Or.inr ⟨hwas hbound, Or.inl hunknown⟩
  | surfaceless _ hselected hensured =>
      rw [List.append_assoc] at hreleases hbound
      rw [hensured.bound] at hbound
      obtain ⟨hearlier, hdrawable⟩ := hselected.shows hlinked hreleases.of_append hbound
      exact Or.inr ⟨hwas hearlier, Or.inr hdrawable⟩
  | refused _ hselected hensured =>
      rw [List.cons_append, List.append_assoc] at hreleases hbound
      have hkept : (Trace.bound _) ≠ {} := hensured.bound ▸ hbound
      obtain ⟨hearlier, hdrawable⟩ := hselected.shows hlinked hreleases.2.of_append hkept
      exact Or.inr ⟨hwas hearlier, Or.inr hdrawable⟩
  | bound => exact Or.inl rfl

/-- What is bound after resizing was bound before, or has another size. -/
lemma Resized.shows {drawable : Drawable} {width height : ℕ} {pixels : Bytes}
    (h : Resized drawable width height s s' events)
    (hmode : s.mode = .pbufferCopy width height pixels) (hbound : (events ++ earlier).bound ≠ {}) :
    earlier.bound ≠ {} ∨ s'.mode.size? ≠ s.mode.size? := by
  cases h with
  | replaced hsize =>
      refine Or.inr fun hsame => hsize ?_
      rw [hmode] at hsame
      exact Option.some.inj hsame
  | _ => exact Or.inl hbound

/-- So it is after a swap. -/
lemma Swapped.shows {drawable : Drawable} (h : Swapped drawable s s' events)
    (hbound : (events ++ earlier).bound ≠ {}) :
    earlier.bound ≠ {} ∨ s'.mode.size? ≠ s.mode.size? := by
  cases h with
  | idle => exact Or.inl hbound
  | native => exact Or.inl hbound
  | copied _ hmode hresized hcopied =>
      rw [List.append_assoc, hcopied.bound] at hbound
      rw [hcopied.size?_eq]
      exact hresized.shows hmode hbound

/-! ## Histories -/

/-- After any operation that shows it, the surface is bound. -/
lemma Performed.held {operation : Operation} {result : Bool}
    (h : Performed s operation result s' events) (hfurnished : Furnished s earlier)
    (hwas : was → Held s earlier) (hshows : operation.Shows result s s' was) :
    Held s' (events ++ earlier) := by
  cases h with
  | createdContext h => exact (hwas hshows).congr h.surface h.bound
  | destroyedContext h => exact h.held hshows.2 (hwas hshows.1)
  | madeCurrent h => exact h.held hfurnished hwas hshows
  | swappedBuffers h => exact h.held (hshows.imp_left hwas)
  | setInterval => exact (hwas hshows).congr rfl rfl

/-- If something is bound after an operation, the operation shows it. -/
lemma Performed.shows {operation : Operation} {result : Bool}
    (h : Performed s operation result s' events) (hlinked : Linked s earlier)
    (hreleases : Trace.Always Releases (events ++ earlier)) (hwas : earlier.bound ≠ {} → was)
    (hbound : (events ++ earlier).bound ≠ {}) : operation.Shows result s s' was := by
  cases h with
  | createdContext h =>
      rw [h.bound] at hbound
      exact hwas hbound
  | destroyedContext h => exact (h.shows hlinked hreleases hbound).imp_left hwas
  | madeCurrent h => exact h.shows hlinked hreleases hwas hbound
  | swappedBuffers h => exact (h.shows hbound).imp_left hwas
  | setInterval => exact hwas hbound

/-- Where the history shows it, the session's surface is the bound one. -/
lemma Moment.held_of_showing {τ : Type} (backend : Backend τ) (forcePbuffer : Bool)
    (glesMajor : Int) (state : τ) : ∀ operations : List Operation,
      (first forcePbuffer glesMajor state).Showing backend operations →
      Held ((first forcePbuffer glesMajor state).after backend operations).session
        ((first forcePbuffer glesMajor state).after backend operations).trace
  | [], hshows => hshows.elim
  | operation :: earlier, hshows => by
      cases hends : ((first forcePbuffer glesMajor state).after backend earlier).ends backend
          operation with
      | true =>
          rw [showing_of_ends hends] at hshows
          rw [after, next_of_ends hends]
          exact held_of_showing backend forcePbuffer glesMajor state earlier hshows
      | false =>
          rw [showing_of_not_ends hends] at hshows
          obtain ⟨events, htrace, h⟩ := next_performed hends
          rw [after, htrace]
          exact h.held (after_furnished backend forcePbuffer glesMajor state earlier)
            (held_of_showing backend forcePbuffer glesMajor state earlier) hshows

/-- Where it does not, nothing is bound, if releases succeed. -/
lemma Moment.showing_of_bound {τ : Type} (backend : Backend τ) (forcePbuffer : Bool)
    (glesMajor : Int) (state : τ) : ∀ operations : List Operation,
      Trace.Always Releases
        ((first forcePbuffer glesMajor state).after backend operations).trace →
      ((first forcePbuffer glesMajor state).after backend operations).trace.bound ≠ {} →
      (first forcePbuffer glesMajor state).Showing backend operations
  | [], _, hbound => absurd rfl hbound
  | operation :: earlier, hreleases, hbound => by
      cases hends : ((first forcePbuffer glesMajor state).after backend earlier).ends backend
          operation with
      | true =>
          rw [after, next_of_ends hends] at hreleases hbound
          rw [showing_of_ends hends]
          exact showing_of_bound backend forcePbuffer glesMajor state earlier hreleases hbound
      | false =>
          obtain ⟨events, htrace, h⟩ := next_performed hends
          rw [after, htrace] at hreleases hbound
          have hlinked :=
            after_linked backend forcePbuffer glesMajor state earlier hreleases.of_append
          rw [showing_of_not_ends hends]
          exact h.shows hlinked hreleases (showing_of_bound backend forcePbuffer glesMajor state
            earlier hreleases.of_append) hbound

/-! ## Swaps -/

/-- The session's surface is bound where its pixels are read or it is swapped. -/
def Event.OnBound (s : Session) : Event → Trace → Prop
  | ⟨.readPixels _ _ _, _⟩, earlier => Held s earlier
  | ⟨.swapBuffers surface, _⟩, earlier => s.surface = some surface ∧ Held s earlier
  | _, _ => True

/-- Nothing is bound where pixels are read or a surface is swapped. -/
def Event.OnNothing : Event → Trace → Prop
  | ⟨.readPixels _ _ _, _⟩, earlier => earlier.bound = {}
  | ⟨.swapBuffers _, _⟩, earlier => earlier.bound = {}
  | _, _ => True

/-- What moves no frame moves none elsewhere. -/
lemma Event.onBound_of_not_isFrame (s : Session) : ∀ (event : Event) (earlier : Trace),
    event.isFrame = false → event.OnBound s earlier := by
  rintro ⟨call, answer⟩ earlier h
  cases call with
  | readPixels => exact Bool.noConfusion h
  | swapBuffers => exact Bool.noConfusion h
  | _ => trivial

/-- It moves none with nothing bound either. -/
lemma Event.onNothing_of_not_isFrame : ∀ (event : Event) (earlier : Trace),
    event.isFrame = false → event.OnNothing earlier := by
  rintro ⟨call, answer⟩ earlier h
  cases call with
  | readPixels => exact Bool.noConfusion h
  | swapBuffers => exact Bool.noConfusion h
  | _ => trivial

/-- What is bound after a swap was bound when the swap got to its frame. -/
lemma Swapped.onBound {drawable : Drawable} (h : Swapped drawable s s' events)
    (hheld : Held s' (events ++ earlier)) : Trace.Since (Event.OnBound s') earlier events := by
  cases h with
  | idle => trivial
  | native hsurface => exact ⟨⟨hsurface, hheld.congr rfl rfl⟩, trivial⟩
  | copied _ _ hresized hcopied =>
      refine Trace.since_append ?_ (hresized.frameless.since (Event.onBound_of_not_isFrame _))
      rw [List.append_assoc] at hheld
      cases hcopied with
      | idle => trivial
      | copied => exact ⟨trivial, hheld.congr rfl rfl, trivial⟩

/-- With nothing bound, frames are read from nothing. -/
lemma Swapped.onNothing {drawable : Drawable} (h : Swapped drawable s s' events)
    (hbound : (events ++ earlier).bound = {}) : Trace.Since Event.OnNothing earlier events := by
  cases h with
  | idle => trivial
  | native => exact ⟨hbound, trivial⟩
  | copied _ _ hresized hcopied =>
      refine Trace.since_append ?_ (hresized.frameless.since Event.onNothing_of_not_isFrame)
      rw [List.append_assoc] at hbound
      cases hcopied with
      | idle => trivial
      | copied => exact ⟨trivial, hbound, trivial⟩

/-- **A swap acts on the bound surface exactly where the history shows it.**  Where the history does,
the session's surface is bound whenever a swap reads its pixels or swaps it, whatever the backend
answers; where it does not and releases succeed, nothing is bound then.  A swap in which the program
ends moves no frame. -/
theorem Moment.swap_onBound {τ : Type} (backend : Backend τ) (forcePbuffer : Bool)
    (glesMajor : Int) (state : τ) (operations : List Operation) (drawable : Drawable) :
    let start := first forcePbuffer glesMajor state
    let before := start.after backend operations
    let now := start.after backend (.swapBuffers drawable :: operations)
    ∃ events, now.trace = events ++ before.trace ∧
      (start.Showing backend (.swapBuffers drawable :: operations) →
        Trace.Since (Event.OnBound now.session) before.trace events) ∧
      (now.trace.Always Releases → ¬ start.Showing backend (.swapBuffers drawable :: operations) →
        Trace.Since Event.OnNothing before.trace events) ∧
      (before.ends backend (.swapBuffers drawable) = true → ∃ all,
        (before.carriedOut backend (.swapBuffers drawable)).2.trace = all ++ before.trace ∧
          Frameless all) := by
  intro start before now
  cases hends : before.ends backend (.swapBuffers drawable) with
  | true =>
      have hnow : now = before := congrArg Prod.snd (next_of_ends hends)
      rw [hnow]
      refine ⟨[], rfl, fun _ => trivial, fun _ _ => trivial, fun _ => ?_⟩
      obtain ⟨_, _, _, all, hmode, hall, h⟩ :=
        outgrown_of_ends (after_running backend rfl operations) hends
      exact ⟨all, hall, (Ended.outgrown hmode h).frameless⟩
  | false =>
      obtain ⟨events, htrace, h⟩ := next_performed hends
      refine ⟨events, htrace, fun hshowing => ?_, fun hreleases hshowing => ?_, fun h => ?_⟩
      · have hheld := held_of_showing backend forcePbuffer glesMajor state _ hshowing
        rw [after, htrace] at hheld
        exact h.swapped.onBound hheld
      · have hbound := not_not.1 (mt (showing_of_bound backend forcePbuffer glesMajor state
          (.swapBuffers drawable :: operations) hreleases) hshowing)
        rw [after, htrace] at hbound
        exact h.swapped.onNothing hbound
      · exact absurd h Bool.false_ne_true

/-- A context is shown on a window. -/
def shown : List Operation := [.makeCurrent (some 1) (some 101), .createContext 1 none]

/-- A swap reads the frame of the bound surface while the context is shown, and of none after it was
released. -/
theorem Moment.swap_onBound_shown :
    let start := first false 3 pbuffersOnly
    (start.Showing ScriptedBackend.backend (.swapBuffers 1 :: shown) ∧
      ∃ events, (start.after ScriptedBackend.backend (.swapBuffers 1 :: shown)).trace
          = events ++ (start.after ScriptedBackend.backend shown).trace ∧
        Trace.Since
          (Event.OnBound (start.after ScriptedBackend.backend (.swapBuffers 1 :: shown)).session)
          (start.after ScriptedBackend.backend shown).trace events) ∧
    let released := .makeCurrent none none :: shown
    ((start.after ScriptedBackend.backend (.swapBuffers 1 :: released)).trace.Always Releases ∧
      ¬ start.Showing ScriptedBackend.backend (.swapBuffers 1 :: released)) ∧
      ∃ events, (start.after ScriptedBackend.backend (.swapBuffers 1 :: released)).trace
          = events ++ (start.after ScriptedBackend.backend released).trace ∧
        Trace.Since Event.OnNothing (start.after ScriptedBackend.backend released).trace events := by
  have hshowing : (first false 3 pbuffersOnly).Showing ScriptedBackend.backend
      (.swapBuffers 1 :: shown) := by
    rw [showing_of_not_ends (by decide +kernel)]
    refine Or.inl ?_
    rw [shown, showing_of_not_ends (by decide +kernel)]
    refine Or.inl ?_
    decide +kernel
  have hreleases : ((first false 3 pbuffersOnly).after ScriptedBackend.backend
      (.swapBuffers 1 :: .makeCurrent none none :: shown)).trace.Always Releases := by
    decide +kernel
  have hleft : ¬ (first false 3 pbuffersOnly).Showing ScriptedBackend.backend
      (.swapBuffers 1 :: .makeCurrent none none :: shown) := by
    have hmade : (((first false 3 pbuffersOnly).after ScriptedBackend.backend shown).next
        ScriptedBackend.backend (.makeCurrent none none)).1 = true := by decide +kernel
    have hsame : ((first false 3 pbuffersOnly).after ScriptedBackend.backend
        (.swapBuffers 1 :: .makeCurrent none none :: shown)).session.mode.size?
          = ((first false 3 pbuffersOnly).after ScriptedBackend.backend
              (.makeCurrent none none :: shown)).session.mode.size? := by decide +kernel
    rw [showing_of_not_ends (by decide +kernel)]
    rintro (hshowing | hsize)
    · rw [showing_of_not_ends (by decide +kernel)] at hshowing
      exact Bool.noConfusion (hmade.symm.trans hshowing.2)
    · exact hsize hsame
  obtain ⟨events, htrace, honBound, -, -⟩ :=
    swap_onBound ScriptedBackend.backend false 3 pbuffersOnly shown 1
  obtain ⟨others, htrace', -, honNothing, -⟩ := swap_onBound ScriptedBackend.backend false 3
    pbuffersOnly (.makeCurrent none none :: shown) 1
  exact ⟨⟨hshowing, events, htrace, honBound hshowing⟩, ⟨hreleases, hleft⟩, others, htrace',
    honNothing hreleases hleft⟩

/-- After a release, a swap reads pixels although nothing is bound. -/
theorem Moment.not_onBound_released :
    let before := (first false 3 pbuffersOnly).after ScriptedBackend.backend
      (.makeCurrent none none :: shown)
    let now := (first false 3 pbuffersOnly).after ScriptedBackend.backend
      (.swapBuffers 1 :: .makeCurrent none none :: shown)
    now.trace.Always Releases ∧ ∃ events, now.trace = events ++ before.trace ∧
      ¬ Trace.Since (Event.OnBound now.session) before.trace events := by
  refine ⟨by decide +kernel, [_, _, _], rfl, ?_⟩
  rintro ⟨-, ⟨surface, -, hheld⟩, -⟩
  have hbound : ((first false 3 pbuffersOnly).after ScriptedBackend.backend
      (.makeCurrent none none :: shown)).trace.bound = {} := by decide +kernel
  have hnone : some surface = none := hheld.symm.trans (congrArg Binding.surface hbound)
  exact absurd hnone (by simp)

end GlBridge.Window
