import GlBridge.Proofs.Window.Linked
import GlBridge.Window.Script

/-!
# What is current, and what is bound

Applications are told the session's current context, not what the backend has bound, so the two had
better agree.  Mostly they do.  But making a context current on another drawable first gives up the
old surface, which releases the binding, and only then tries to make a new surface.  If that fails
the session returns with its current context untouched and nothing bound.

* `Agrees` — the session's current context is the bound one;
* `Astray` — a context is current that is not bound; by `Linked` this is the only other case;
* `Operation.Strays`, `Moment.Strayed` — which operations lead there, which lead back, and so, for a
  whole history, where it leads;
* `Moment.agrees_iff` — the session agrees with its backend exactly where its history has not
  strayed.
-/

namespace GlBridge.Window

/-- The current context is the one that is bound, with the session's surface. -/
structure Agrees (s : Session) (trace : Trace) : Prop where
  some_iff : ∀ context, s.currentContext = some context ↔
    ∃ surface, s.surface = some surface ∧ trace.bound = ⟨some surface, some context⟩
  none_iff : s.currentContext = none ↔ trace.bound = {}

/-- A context is current, but nothing is bound. -/
def Astray (s : Session) (trace : Trace) : Prop := s.currentContext ≠ none ∧ trace.bound = {}

variable {s s' : Session} {earlier events : Trace}

/-- A session that is tied to the binding agrees with it unless it is astray. -/
lemma Linked.agrees_iff_not_astray (h : Linked s earlier) : Agrees s earlier ↔ ¬ Astray s earlier := by
  constructor
  · rintro hagrees ⟨hcurrent, hbound⟩
    exact hcurrent (hagrees.none_iff.2 hbound)
  · intro hastray
    rcases h.bound_or with hbound | ⟨surface, context, hsurface, hcurrent, hbound⟩
    · have hcurrent : s.currentContext = none := by
        by_contra hcurrent
        exact hastray ⟨hcurrent, hbound⟩
      constructor <;> simp [hcurrent, hbound]
    · constructor
      · intro context'
        simp [hcurrent, hsurface, hbound]
      · simp [hcurrent, hbound]

/-! ## Which operations lead astray -/

/-- The size of an off-screen buffer. -/
def Presentation.size? : Presentation → Option (ℕ × ℕ)
  | pbufferCopy width height _ => some (width, height)
  | _ => none

/-- Whether an operation with the given result leaves the session astray, given the session before
and after it and whether it was astray before.  Failing to show a context on another drawable leads
astray; showing one, releasing, destroying the current context, and binding an off-screen buffer of
another size on a swap lead back. -/
def Operation.Strays (result : Bool) (before after : Session) (was : Prop) : Operation → Prop
  | makeCurrent (some drawable) (some context) =>
    result = false ∧ (was ∨ (before.contextConfig? context).isSome = true ∧
      before.drawable ≠ some drawable ∧ before.currentContext ≠ none)
  | makeCurrent _ _ => False
  | destroyContext context => was ∧ before.currentContext ≠ some context
  | swapBuffers _ => was ∧ after.mode.size? = before.mode.size?
  | createContext _ _ => was
  | swapInterval _ => was

/-- Whether a history has strayed.  An operation in which the program ends is left out. -/
def Moment.Strayed {τ : Type} (backend : Backend τ) (start : Moment τ) : List Operation → Prop
  | [] => False
  | operation :: earlier =>
    let before := start.after backend earlier
    if before.ends backend operation then start.Strayed backend earlier
    else
      let (result, after) := before.next backend operation
      operation.Strays result before.session after.session (start.Strayed backend earlier)

namespace Moment

variable {τ : Type} {backend : Backend τ} {start : Moment τ} {operation : Operation}
  {earlier : List Operation}

lemma strayed_of_ends (hends : (start.after backend earlier).ends backend operation = true) :
    start.Strayed backend (operation :: earlier) ↔ start.Strayed backend earlier := by
  rw [Strayed, if_pos hends]

lemma strayed_of_not_ends (hends : (start.after backend earlier).ends backend operation = false) :
    start.Strayed backend (operation :: earlier) ↔
      operation.Strays ((start.after backend earlier).next backend operation).1
        (start.after backend earlier).session
        ((start.after backend earlier).next backend operation).2.session
        (start.Strayed backend earlier) := by
  rw [Strayed, if_neg (ne_true_of_eq_false hends)]

end Moment

/-! ## The session's programs -/

/-- Neither the current context nor the binding has changed. -/
lemma Astray.congr {later : Trace} (hcurrent : s'.currentContext = s.currentContext)
    (hbound : later.bound = earlier.bound) : Astray s' later ↔ Astray s earlier := by
  rw [Astray, Astray, hcurrent, hbound]

/-- Tearing down leaves the current context as it is; its caller sees to that. -/
lemma TornDown.current (h : TornDown s s' events) : s'.currentContext = s.currentContext := by
  cases h <;> rfl

/-- Turning to another drawable leads astray whenever a context is current. -/
lemma Selected.astray_iff {drawable : Drawable} (h : Selected drawable s s' events)
    (hlinked : Linked s earlier) (hreleases : Trace.Always Releases (events ++ earlier)) :
    Astray s' (events ++ earlier) ↔
      Astray s earlier ∨ s.drawable ≠ some drawable ∧ s.currentContext ≠ none := by
  cases h with
  | same hdrawable => simp [hdrawable]
  | other hdrawable h =>
      have hbound := h.bound hlinked hreleases
      simp only [Astray, h.current, hbound]
      tauto

lemma Attempted.current {config : Config} {drawable : Drawable} {result : Option Surface}
    (h : Attempted config drawable s result s' events) : s'.currentContext = s.currentContext := by
  cases h <;> rfl

lemma Initialized.astray_iff {config : Config} {drawable : Drawable} {ok : Bool}
    (h : Initialized config drawable s ok s' events) :
    Astray s' (events ++ earlier) ↔ Astray s earlier := by
  cases h with
  | native h => exact Astray.congr h.current (h.bound earlier)
  | sizeless h => exact Astray.congr h.current (h.bound earlier)
  | refused h => exact Astray.congr h.current (h.bound earlier)
  | pbuffer h => exact Astray.congr h.current (h.bound earlier)

lemma Ensured.astray_iff {config : Config} {drawable : Drawable} {ok : Bool}
    (h : Ensured config drawable s ok s' events) :
    Astray s' (events ++ earlier) ↔ Astray s earlier := by
  cases h with
  | already => exact Iff.rfl
  | made _ h => exact h.astray_iff

lemma Created.astray_iff {config : Config} {share : Option Context} {minors : List ℕ}
    {result : Except Text Context} (h : Created config share s minors result s' events) :
    Astray s' (events ++ earlier) ↔ Astray s earlier := by
  induction h generalizing earlier with
  | exhausted => exact Iff.rfl
  | accepted => exact Astray.congr rfl rfl
  | refused _ ih =>
      rw [List.append_assoc, ih]
      exact Astray.congr rfl rfl

/-- The current context is no longer current when it is dropped. -/
lemma Dropped.astray_iff {context : Context} (h : Dropped context s s' events) :
    Astray s' (events ++ earlier) ↔ Astray s earlier ∧ s.currentContext ≠ some context := by
  cases h with
  | current hcurrent _ h => simp [Astray, h.current, hcurrent]
  | other hcurrent => simp [hcurrent]

/-- Destroying the current context leads back. -/
lemma Destroyed.astray_iff {context : Context} (h : Destroyed context s s' events) :
    Astray s' (events ++ earlier) ↔ Astray s earlier ∧ s.currentContext ≠ some context := by
  cases h with
  | known h =>
      refine Iff.trans ?_ h.astray_iff
      exact Astray.congr rfl rfl
  | unknown h => exact h.astray_iff

/-- Turning to another drawable leads astray if the context is not made current after all. -/
lemma MadeCurrent.astray_iff {drawable : Option Drawable} {context : Option Context}
    {result : Bool} (h : MadeCurrent s drawable context result s' events)
    (hlinked : Linked s earlier) (hreleases : Trace.Always Releases (events ++ earlier)) :
    Astray s' (events ++ earlier) ↔
      (Operation.makeCurrent drawable context).Strays result s s' (Astray s earlier) := by
  cases h with
  | released hnone =>
      have hleft : ¬ Astray { s with currentContext := none }
          ([⟨.makeCurrent none none, result⟩] ++ earlier) := fun h => h.1 rfl
      rcases hnone with rfl | rfl
      · exact iff_of_false hleft not_false
      · cases drawable <;> exact iff_of_false hleft not_false
  | unknown hunknown => simp [Operation.Strays, hunknown]
  | surfaceless hknown hselected hensured =>
      rw [List.append_assoc] at hreleases ⊢
      rw [hensured.astray_iff, hselected.astray_iff hlinked hreleases.of_append]
      simp [Operation.Strays, hknown]
  | refused hknown hselected hensured =>
      rw [List.cons_append, List.append_assoc] at hreleases ⊢
      have hselected := hselected.astray_iff hlinked hreleases.2.of_append
      refine Iff.trans (Iff.trans ?_ (hensured.astray_iff.trans hselected)) ?_
      · exact Astray.congr rfl rfl
      · simp [Operation.Strays, hknown]
  | bound => simp [Operation.Strays, Astray, Trace.bound]

/-- Binding a buffer of another size leads back. -/
lemma Resized.astray_iff {drawable : Drawable} {width height : ℕ} {pixels : Bytes}
    (h : Resized drawable width height s s' events)
    (hmode : s.mode = .pbufferCopy width height pixels) :
    Astray s' (events ++ earlier) ↔ Astray s earlier ∧ s'.mode.size? = s.mode.size? := by
  cases h with
  | @replaced size _ _ _ hsize =>
      refine iff_of_false (fun hastray => ?_) (fun hboth => hsize ?_)
      · simpa [Trace.bound] using hastray.2
      · rw [hmode] at hboth
        exact Option.some.inj hboth.2
  | _ => exact (Astray.congr rfl rfl).trans (and_iff_left rfl).symm

lemma Copied.astray_iff {drawable : Drawable} (h : Copied drawable s s' events) :
    Astray s' (events ++ earlier) ↔ Astray s earlier := by
  cases h <;> exact Astray.congr rfl rfl

lemma Copied.size?_eq {drawable : Drawable} (h : Copied drawable s s' events) :
    s'.mode.size? = s.mode.size? := by
  cases h with
  | idle => rfl
  | copied hmode => simp [hmode, Presentation.size?]

/-- A swap binds the current context again when it exchanges buffers. -/
lemma Swapped.astray_iff {drawable : Drawable} (h : Swapped drawable s s' events) :
    Astray s' (events ++ earlier) ↔ Astray s earlier ∧ s'.mode.size? = s.mode.size? := by
  cases h with
  | idle => exact (and_iff_left rfl).symm
  | native => exact (Astray.congr rfl rfl).trans (and_iff_left rfl).symm
  | copied _ hmode hresized hcopied =>
      rw [List.append_assoc, hcopied.astray_iff, hresized.astray_iff hmode, hcopied.size?_eq]

/-! ## Histories -/

/-- Every operation leads astray exactly when it is said to. -/
lemma Performed.astray_iff {operation : Operation} {result : Bool}
    (h : Performed s operation result s' events) (hlinked : Linked s earlier)
    (hreleases : Trace.Always Releases (events ++ earlier)) :
    Astray s' (events ++ earlier) ↔ operation.Strays result s s' (Astray s earlier) := by
  cases h with
  | createdContext h => exact h.astray_iff
  | destroyedContext h => exact h.astray_iff
  | madeCurrent h => exact h.astray_iff hlinked hreleases
  | swappedBuffers h => exact h.astray_iff
  | setInterval => exact Astray.congr rfl rfl

/-- So does every history. -/
lemma Moment.astray_iff {τ : Type} (backend : Backend τ) (forcePbuffer : Bool) (glesMajor : Int)
    (state : τ) : ∀ operations : List Operation,
      Trace.Always Releases
        ((first forcePbuffer glesMajor state).after backend operations).trace →
      (Astray ((first forcePbuffer glesMajor state).after backend operations).session
          ((first forcePbuffer glesMajor state).after backend operations).trace ↔
        (first forcePbuffer glesMajor state).Strayed backend operations)
  | [], _ => iff_of_false (fun h => h.1 rfl) not_false
  | operation :: earlier, hreleases => by
      cases hends : ((first forcePbuffer glesMajor state).after backend earlier).ends backend
          operation with
      | true =>
          rw [after, next_of_ends hends] at hreleases ⊢
          rw [strayed_of_ends hends]
          exact astray_iff backend forcePbuffer glesMajor state earlier hreleases
      | false =>
          obtain ⟨events, htrace, h⟩ := next_performed hends
          rw [after, htrace] at hreleases
          have hlinked :=
            after_linked backend forcePbuffer glesMajor state earlier hreleases.of_append
          rw [strayed_of_not_ends hends, after, htrace, h.astray_iff hlinked hreleases,
            ← astray_iff backend forcePbuffer glesMajor state earlier hreleases.of_append]

/-- **The session agrees with its backend exactly where it has not strayed.** -/
theorem Moment.agrees_iff {τ : Type} (backend : Backend τ) (forcePbuffer : Bool) (glesMajor : Int)
    (state : τ) (operations : List Operation)
    (hreleases : Trace.Always Releases
      ((first forcePbuffer glesMajor state).after backend operations).trace) :
    Agrees ((first forcePbuffer glesMajor state).after backend operations).session
        ((first forcePbuffer glesMajor state).after backend operations).trace ↔
      ¬ (first forcePbuffer glesMajor state).Strayed backend operations := by
  rw [(after_linked backend forcePbuffer glesMajor state operations hreleases).agrees_iff_not_astray,
    astray_iff backend forcePbuffer glesMajor state operations hreleases]

/-- The second drawable has no size, so there is no off-screen buffer for it. -/
def secondSizeless : ScriptedBackend := { script := { window := .fails, sizes := [(1, 4, 4)] } }

/-- A context is shown on one drawable and then on another. -/
def shownOnAnother : List Operation :=
  [.makeCurrent (some 2) (some 101), .makeCurrent (some 1) (some 101), .createContext 1 none]

/-- Back on the first drawable, the context is bound again. -/
theorem Moment.agrees_iff_shownOnAnother :
    let operations := .makeCurrent (some 1) (some 101) :: shownOnAnother
    let now := (first false 3 secondSizeless).after ScriptedBackend.backend operations
    Trace.Always Releases now.trace ∧
      (Agrees now.session now.trace ↔
        ¬ (first false 3 secondSizeless).Strayed ScriptedBackend.backend operations) := by
  have h : Trace.Always Releases ((first false 3 secondSizeless).after ScriptedBackend.backend
      (.makeCurrent (some 1) (some 101) :: shownOnAnother)).trace := by decide +kernel
  exact ⟨h, agrees_iff ScriptedBackend.backend false 3 secondSizeless _ h⟩

/-- On the drawable without a size, the context stays current with nothing bound. -/
theorem Moment.not_agrees_shownOnAnother :
    let now := (first false 3 secondSizeless).after ScriptedBackend.backend shownOnAnother
    Trace.Always Releases now.trace ∧ ¬ Agrees now.session now.trace := by
  have h : Trace.Always Releases
        ((first false 3 secondSizeless).after ScriptedBackend.backend shownOnAnother).trace ∧
      ((first false 3 secondSizeless).after ScriptedBackend.backend
        shownOnAnother).session.currentContext = some 101 ∧
      ((first false 3 secondSizeless).after ScriptedBackend.backend shownOnAnother).trace.bound
        = {} := by decide +kernel
  obtain ⟨hreleases, hcurrent, hbound⟩ := h
  refine ⟨hreleases, fun hagrees => ?_⟩
  simp [hagrees.none_iff.2 hbound] at hcurrent

end GlBridge.Window
