import GlBridge.Proofs.Window.History

/-!
# What a session knows of the binding

A session does not ask its backend what is bound; it keeps a surface and a current context instead.
`Linked` is what ties the two together: there is a surface exactly when there is a way to present
frames, and either nothing is bound or what is bound is the session's surface with its current
context.  It is not the case that something is bound whenever a context is current; `Current.lean`
is about that.

All that is needed of the backend is that nothing keeps it from releasing (`Releases`).  Tearing
down then always ends with nothing bound, `TornDown.bound`, and every other outcome either leaves
the binding alone or binds what it enters into the session.
-/

namespace GlBridge.Window

/-- Whether an event is anything but a release that failed. -/
def Event.releases : Event → Bool
  | ⟨.makeCurrent none none, made⟩ => made
  | _ => true

/-- Releasing succeeds. -/
def Releases (event : Event) (_ : Trace) : Prop := event.releases = true

instance (event : Event) (earlier : Trace) : Decidable (Releases event earlier) :=
  inferInstanceAs (Decidable (event.releases = true))

/-- How a session is tied to the binding. -/
structure Linked (s : Session) (trace : Trace) : Prop where
  mode_iff : s.mode = .uninitialized ↔ s.surface = none
  bound_or : trace.bound = {} ∨ ∃ surface context, s.surface = some surface ∧
    s.currentContext = some context ∧ trace.bound = ⟨some surface, some context⟩

variable {s s' : Session} {earlier events : Trace}

namespace Linked

/-- With a new session, nothing is bound. -/
lemma new (forcePbuffer : Bool) (glesMajor : Int) :
    Linked { forcePbuffer, glesMajor } [] where
  mode_iff := by simp
  bound_or := Or.inl rfl

/-- Nothing that `Linked` looks at has changed. -/
lemma congr {later : Trace} (h : Linked s earlier) (hmode : s'.mode = s.mode)
    (hsurface : s'.surface = s.surface) (hcurrent : s'.currentContext = s.currentContext)
    (hbound : later.bound = earlier.bound) : Linked s' later where
  mode_iff := by rw [hmode, hsurface]; exact h.mode_iff
  bound_or := by rw [hsurface, hcurrent, hbound]; exact h.bound_or

/-- Without a surface, nothing may be bound. -/
lemma idle (hmode : s.mode = .uninitialized) (hsurface : s.surface = none)
    (hbound : earlier.bound = {}) : Linked s earlier where
  mode_iff := iff_of_true hmode hsurface
  bound_or := Or.inl hbound

/-- With a surface, nothing or that surface may be bound. -/
lemma shown {surface : Surface} (hmode : s.mode ≠ .uninitialized)
    (hsurface : s.surface = some surface)
    (hbound : earlier.bound = {} ∨ ∃ context, s.currentContext = some context ∧
      earlier.bound = ⟨some surface, some context⟩) : Linked s earlier where
  mode_iff := iff_of_false hmode (by simp [hsurface])
  bound_or := by
    refine hbound.imp_right ?_
    rintro ⟨context, hcurrent, hbound⟩
    exact ⟨surface, context, hsurface, hcurrent, hbound⟩

/-- Without a surface, nothing is bound. -/
lemma bound_of_surface (h : Linked s earlier) (hsurface : s.surface = none) :
    earlier.bound = {} := by
  rcases h.bound_or with hbound | ⟨surface, _, hsome, _, _⟩
  · exact hbound
  · simp [hsurface] at hsome

/-- Without a current context, nothing is bound. -/
lemma bound_of_current (h : Linked s earlier) (hcurrent : s.currentContext = none) :
    earlier.bound = {} := by
  rcases h.bound_or with hbound | ⟨_, context, _, hsome, _⟩
  · exact hbound
  · simp [hcurrent] at hsome

/-- Where there is a way of presenting frames, there is a surface. -/
lemma surface_of_mode (h : Linked s earlier) (hmode : s.mode ≠ .uninitialized) :
    ∃ surface, s.surface = some surface :=
  Option.ne_none_iff_exists'.1 (h.mode_iff.not.1 hmode)

/-- No surface but the session's is bound. -/
lemma bound_surface {surface : Surface} (h : Linked s earlier)
    (hsurface : surface ∉ s.surface) : earlier.bound.surface ≠ some surface := by
  rcases h.bound_or with hbound | ⟨_, _, hsome, _, hbound⟩
  · simp [hbound]
  · simpa [hbound, hsome] using hsurface

/-- No context but the current one is bound. -/
lemma bound_context {context : Context} (h : Linked s earlier)
    (hcurrent : s.currentContext ≠ some context) : earlier.bound.context ≠ some context := by
  rcases h.bound_or with hbound | ⟨_, _, _, hsome, hbound⟩
  · simp [hbound]
  · simpa [hbound, hsome] using hcurrent

end Linked

/-! ## The session's programs -/

/-- Once torn down, there is no way of presenting frames. -/
lemma TornDown.mode (h : TornDown s s' events) : s'.mode = .uninitialized := by
  cases h <;> rfl

/-- Nor is there a surface. -/
lemma TornDown.surface (h : TornDown s s' events) : s'.surface = none := by
  cases h with
  | bare hsurface => exact hsurface
  | unbound => rfl
  | released => rfl

/-- Tearing down leaves nothing bound. -/
lemma TornDown.bound (h : TornDown s s' events) (hlinked : Linked s earlier)
    (hreleases : Trace.Always Releases (events ++ earlier)) : (events ++ earlier).bound = {} := by
  cases h with
  | bare hsurface => exact hlinked.bound_of_surface hsurface
  | unbound hsurface hcurrent => exact hlinked.bound_of_current hcurrent
  | released hsurface hcurrent made =>
      obtain rfl : made = true := hreleases.2.1
      rfl

/-- Tearing down leaves nothing bound and no surface. -/
lemma TornDown.linked (h : TornDown s s' events) (hlinked : Linked s earlier)
    (hreleases : Trace.Always Releases (events ++ earlier)) : Linked s' (events ++ earlier) :=
  .idle h.mode h.surface (h.bound hlinked hreleases)

/-- Turning to another drawable tears down, or changes nothing. -/
lemma Selected.linked {drawable : Drawable} (h : Selected drawable s s' events)
    (hlinked : Linked s earlier) (hreleases : Trace.Always Releases (events ++ earlier)) :
    Linked s' (events ++ earlier) := by
  cases h with
  | same => exact hlinked
  | other _ h => exact (h.linked hlinked hreleases).congr rfl rfl rfl rfl

/-- Asking for a window's own surface binds nothing. -/
lemma Attempted.bound {config : Config} {drawable : Drawable} {result : Option Surface}
    (h : Attempted config drawable s result s' events) (earlier : Trace) :
    (events ++ earlier).bound = earlier.bound := by
  cases h <;> rfl

/-- An attempt binds nothing. -/
lemma Attempted.linked {config : Config} {drawable : Drawable} {result : Option Surface}
    (h : Attempted config drawable s result s' events) (hlinked : Linked s earlier) :
    Linked s' (events ++ earlier) := by
  refine hlinked.congr ?_ ?_ ?_ (h.bound earlier) <;> cases h <;> rfl

/-- Initializing makes a surface with nothing bound. -/
lemma Initialized.linked {config : Config} {drawable : Drawable} {ok : Bool}
    (h : Initialized config drawable s ok s' events) (hlinked : Linked s earlier)
    (hmode : s.mode = .uninitialized) : Linked s' (events ++ earlier) := by
  have hbound := hlinked.bound_of_surface (hlinked.mode_iff.1 hmode)
  cases h with
  | native h =>
      refine .shown (by simp) rfl (Or.inl ?_)
      rw [h.bound, hbound]
  | sizeless h => exact (h.linked hlinked).congr rfl rfl rfl rfl
  | refused h => exact (h.linked hlinked).congr rfl rfl rfl rfl
  | pbuffer h =>
      refine .shown (by simp) rfl (Or.inl ?_)
      exact (h.bound earlier).trans hbound

/-- Where there is a surface already, nothing changes. -/
lemma Ensured.linked {config : Config} {drawable : Drawable} {ok : Bool}
    (h : Ensured config drawable s ok s' events) (hlinked : Linked s earlier) :
    Linked s' (events ++ earlier) := by
  cases h with
  | already => exact hlinked
  | made hmode h => exact h.linked hlinked hmode

/-- When a surface was made sure of, there is a way to present frames. -/
lemma Ensured.mode_ne {config : Config} {drawable : Drawable}
    (h : Ensured config drawable s true s' events) : s'.mode ≠ .uninitialized := by
  cases h with
  | already hmode => exact hmode
  | made _ h => cases h <;> simp

lemma Created.linked {config : Config} {share : Option Context} {minors : List ℕ}
    {result : Except Text Context} (h : Created config share s minors result s' events)
    (hlinked : Linked s earlier) : Linked s' (events ++ earlier) := by
  induction h generalizing earlier with
  | exhausted => exact hlinked
  | accepted => exact hlinked.congr rfl rfl rfl rfl
  | refused _ ih =>
      rw [List.append_assoc]
      exact ih (hlinked.congr rfl rfl rfl rfl)

/-- Dropping the current context tears down, and dropping another one changes nothing. -/
lemma Dropped.linked {context : Context} (h : Dropped context s s' events)
    (hlinked : Linked s earlier) (hreleases : Trace.Always Releases (events ++ earlier)) :
    Linked s' (events ++ earlier) := by
  cases h with
  | @current s' events hcurrent made h =>
      rw [List.append_assoc] at hreleases ⊢
      obtain rfl : made = true := hreleases.of_append.1
      have hreleased : Linked { s with currentContext := none }
          (⟨.makeCurrent none none, true⟩ :: earlier) := ⟨hlinked.mode_iff, Or.inl rfl⟩
      exact (h.linked hreleased hreleases).congr rfl rfl rfl rfl
  | other => exact hlinked

lemma Destroyed.linked {context : Context} (h : Destroyed context s s' events)
    (hlinked : Linked s earlier) (hreleases : Trace.Always Releases (events ++ earlier)) :
    Linked s' (events ++ earlier) := by
  cases h with
  | known h => exact (h.linked hlinked hreleases.2).congr rfl rfl rfl rfl
  | unknown h => exact h.linked hlinked hreleases

/-- What is bound is what the session keeps afterwards, if anything is. -/
lemma MadeCurrent.linked {drawable : Option Drawable} {context : Option Context} {result : Bool}
    (h : MadeCurrent s drawable context result s' events) (hlinked : Linked s earlier)
    (hreleases : Trace.Always Releases (events ++ earlier)) : Linked s' (events ++ earlier) := by
  cases h with
  | released =>
      obtain rfl : result = true := hreleases.1
      exact ⟨hlinked.mode_iff, Or.inl rfl⟩
  | unknown => exact hlinked
  | surfaceless _ hselected hensured =>
      rw [List.append_assoc] at hreleases ⊢
      exact hensured.linked (hselected.linked hlinked hreleases.of_append)
  | refused _ hselected hensured =>
      rw [List.cons_append, List.append_assoc] at hreleases ⊢
      have hshown := hensured.linked (hselected.linked hlinked hreleases.2.of_append)
      exact hshown.congr rfl rfl rfl rfl
  | @bound _ context _ _ s₂ _ _ _ hselected hensured =>
      rw [List.cons_append, List.append_assoc] at hreleases ⊢
      have hshown := hensured.linked (hselected.linked hlinked hreleases.2.of_append)
      obtain ⟨surface, hsurface⟩ := hshown.surface_of_mode hensured.mode_ne
      refine .shown hensured.mode_ne hsurface (Or.inr ⟨context, rfl, ?_⟩)
      rw [← hsurface]
      rfl

/-- A new buffer is bound with the current context, or the old one stays bound. -/
lemma Resized.linked {drawable : Drawable} {width height : ℕ}
    (h : Resized drawable width height s s' events) (hlinked : Linked s earlier) :
    Linked s' (events ++ earlier) := by
  cases h with
  | @replaced _ context _ _ _ hcurrent _ _ surface =>
      exact .shown (by simp) rfl (Or.inr ⟨context, hcurrent, rfl⟩)
  | _ => exact hlinked.congr rfl rfl rfl rfl

lemma Copied.linked {drawable : Drawable} (h : Copied drawable s s' events)
    (hlinked : Linked s earlier) : Linked s' (events ++ earlier) := by
  cases h with
  | idle => exact hlinked
  | copied hmode =>
      refine ⟨?_, hlinked.bound_or⟩
      simpa [hmode] using hlinked.mode_iff

lemma Swapped.linked {drawable : Drawable} (h : Swapped drawable s s' events)
    (hlinked : Linked s earlier) : Linked s' (events ++ earlier) := by
  cases h with
  | idle => exact hlinked
  | native => exact hlinked.congr rfl rfl rfl rfl
  | copied _ _ hresized hcopied =>
      rw [List.append_assoc]
      exact hcopied.linked (hresized.linked hlinked)

/-! ## Histories -/

/-- Every operation keeps a session tied to the binding. -/
lemma Performed.linked {operation : Operation} {result : Bool}
    (h : Performed s operation result s' events) (hlinked : Linked s earlier)
    (hreleases : Trace.Always Releases (events ++ earlier)) : Linked s' (events ++ earlier) := by
  cases h with
  | createdContext h => exact h.linked hlinked
  | destroyedContext h => exact h.linked hlinked hreleases
  | madeCurrent h => exact h.linked hlinked hreleases
  | swappedBuffers h => exact h.linked hlinked
  | setInterval => exact hlinked.congr rfl rfl rfl rfl

/-- At every moment of a session's history the session is tied to the binding. -/
theorem Moment.after_linked {τ : Type} (backend : Backend τ) (forcePbuffer : Bool)
    (glesMajor : Int) (state : τ) (operations : List Operation)
    (hreleases : Trace.Always Releases
      ((first forcePbuffer glesMajor state).after backend operations).trace) :
    Linked ((first forcePbuffer glesMajor state).after backend operations).session
      ((first forcePbuffer glesMajor state).after backend operations).trace :=
  after_keeps_of backend (first forcePbuffer glesMajor state) (Trace.Always Releases) Linked
    Trace.Always.of_append (Linked.new forcePbuffer glesMajor)
    (fun h hreleases hlinked => h.linked hlinked hreleases) operations hreleases

end GlBridge.Window
