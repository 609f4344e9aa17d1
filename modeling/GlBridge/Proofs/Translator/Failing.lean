import GlBridge.Proofs.Layout.Recalling
import GlBridge.Translator

/-!
# What a shader that cannot be translated leaves behind

A shader is laid out before it is compiled, and the registry is written while it is laid out.  If
the compiler then rejects the shader, what was written stays.  The locations are taken, and the
shaders that come later are given others.

**Translators that answer alike.**  A translator keeps nothing but the registry.  Translators whose
registries answer alike therefore give the same results for everything that is submitted from then
on (`results_alike`).

**Failed shaders.**  A shader of a stage that is not compiled never gets to the registry.  Any other
one that fails leaves no trace exactly if it recalls all its varyings
(`tryTranslate_error_traceless`).
-/

namespace GlBridge.Translator

open Text Glsl Layout

/-! ## Submissions -/

/-- A shader that is given to a translator. -/
inductive Submission where
  /-- One that stays as it is if it cannot be translated. -/
  | translate (stage : Stage) (source : Text)
  /-- One whose failure is reported. -/
  | attempt (stage : Stage) (source : Text)

/-- The result for a submission, and the translator afterwards. -/
def Submission.submit (compiler : Compiler) (translator : Translator) :
    Submission → Except Overflow (Except Failure Text × Translator)
  | translate stage source => do
    let (text, translator) ← translator.translate compiler stage source
    return (.ok text, translator)
  | attempt stage source => translator.tryTranslate compiler stage source

/-- The results for submissions one after the other.  An overflow ends them. -/
def results (compiler : Compiler) :
    Translator → List Submission → List (Except Overflow (Except Failure Text))
  | _, [] => []
  | translator, submission :: rest =>
    match submission.submit compiler translator with
    | .error fault => [.error fault]
    | .ok (result, translator) => .ok result :: results compiler translator rest

/-! ## Translators that answer alike -/

/-- Two translators translate in the same way, with registries that answer alike. -/
structure Alike (a b : Translator) : Prop where
  mode : a.mode = b.mode
  varyings : a.varyings.Alike b.varyings

/-- The same comes of a translation, and the translators are alike afterwards. -/
def SameResult {α : Type} (x y : α × Translator) : Prop := x.1 = y.1 ∧ x.2.Alike y.2

variable {compiler : Compiler} {translator after a b : Translator} {stage : Stage} {source : Text}
  {failure : Failure}

lemma tryTranslate_alike (h : a.Alike b) (compiler : Compiler) (stage : Stage) (source : Text) :
    Together SameResult (a.tryTranslate compiler stage source)
      (b.tryTranslate compiler stage source) := by
  unfold tryTranslate
  split_ifs
  · refine (assignLayouts_alike h.varyings stage _).bind ?_
    rintro out _ ⟨hvaryings⟩
    refine .ok ?_
    dsimp only
    cases compiler stage out.text with
    | none => exact ⟨rfl, h.mode, hvaryings⟩
    | some compiled => exact ⟨rfl, h.mode, hvaryings⟩
  · exact .ok ⟨rfl, h⟩

lemma translate_alike (h : a.Alike b) (compiler : Compiler) (stage : Stage) (source : Text) :
    Together SameResult (a.translate compiler stage source)
      (b.translate compiler stage source) := by
  unfold translate
  rw [h.mode]
  cases b.mode with
  | textOnly => exact .ok ⟨rfl, h⟩
  | full =>
      refine (tryTranslate_alike h compiler stage source).bind ?_
      rintro ⟨result, a⟩ ⟨_, b⟩ ⟨rfl, hab⟩
      cases result with
      | error failure => exact .ok ⟨rfl, hab⟩
      | ok text => exact .ok ⟨rfl, hab⟩

lemma submit_alike (h : a.Alike b) (compiler : Compiler) (submission : Submission) :
    Together SameResult (submission.submit compiler a) (submission.submit compiler b) := by
  cases submission with
  | translate stage source =>
      refine (translate_alike h compiler stage source).bind ?_
      rintro ⟨text, a⟩ ⟨_, b⟩ ⟨rfl, hab⟩
      exact .ok ⟨rfl, hab⟩
  | attempt stage source => exact tryTranslate_alike h compiler stage source

/-- **Translators that are alike give the same results from then on.** -/
theorem results_alike (h : a.Alike b) (submissions : List Submission) :
    results compiler a submissions = results compiler b submissions := by
  induction submissions generalizing a b with
  | nil => rfl
  | cons submission rest ih =>
      have hsubmit := submit_alike h compiler submission
      rw [results, results]
      generalize submission.submit compiler a = x, submission.submit compiler b = y at hsubmit
      cases hsubmit with
      | overflow => rfl
      | @ok x y hxy =>
          obtain ⟨result, a⟩ := x
          obtain ⟨_, b⟩ := y
          obtain ⟨rfl, hab⟩ := hxy
          exact congrArg _ (ih hab)

/-! ## Failed shaders -/

/-- What the compiler rejects has been laid out. -/
lemma tryTranslate_rejected (translator : Translator) {out : LaidOut}
    (hstage : isCompiled stage = true) (hout : prepare stage source translator.varyings = .ok out)
    (hnone : compiler stage out.text = none) :
    translator.tryTranslate compiler stage source
      = .ok (.error (.rejected stage out.text),
          { translator with varyings := out.varyings }) := by
  rw [tryTranslate, if_pos hstage]
  refine bind_eq_ok.2 ⟨out, hout, ?_⟩
  rw [hnone]
  rfl

/-- A translation fails before the registry is asked, or after the source has been laid out. -/
lemma tryTranslate_eq_error (h : translator.tryTranslate compiler stage source
      = .ok (.error failure, after)) :
    (isCompiled stage = false ∧ after = translator) ∨
      (isCompiled stage = true ∧ ∃ out, prepare stage source translator.varyings = .ok out ∧
        after = { translator with varyings := out.varyings }) := by
  unfold tryTranslate at h
  split_ifs at h with hstage
  · refine .inr ⟨hstage, ?_⟩
    obtain ⟨out, hout, h⟩ := bind_eq_ok.1 h
    refine ⟨out, hout, ?_⟩
    dsimp only at h
    cases hcompiled : compiler stage out.text with
    | none =>
        rw [hcompiled, pure_eq_ok, Prod.mk.injEq] at h
        exact h.2.symm
    | some compiled =>
        rw [hcompiled, pure_eq_ok, Prod.mk.injEq] at h
        exact absurd h.1 (by simp)
  · rw [pure_eq_ok, Prod.mk.injEq] at h
    exact .inl ⟨Bool.eq_false_of_not_eq_true hstage, h.2.symm⟩

/-- **A shader that cannot be translated leaves no trace exactly if it recalls all its varyings**,
or was not compiled at all.  If it leaves none, all later results are as if it had never been
submitted. -/
theorem tryTranslate_error_traceless
    (h : translator.tryTranslate compiler stage source = .ok (.error failure, after)) :
    (after.varyings.Alike translator.varyings ↔ (isCompiled stage = true →
      ∃ out, prepare stage source translator.varyings = .ok out ∧
        Recalls stage translator.varyings out)) ∧
      (after.varyings.Alike translator.varyings → ∀ submissions,
        results compiler after submissions = results compiler translator submissions) := by
  have hmode : after.mode = translator.mode := by
    rcases tryTranslate_eq_error h with ⟨_, rfl⟩ | ⟨_, out, _, rfl⟩
    · rfl
    · rfl
  refine ⟨?_, fun halike submissions => results_alike ⟨hmode, halike⟩ submissions⟩
  rcases tryTranslate_eq_error h with ⟨hstage, rfl⟩ | ⟨hstage, out, hout, rfl⟩
  · refine ⟨fun _ hcompiled => ?_, fun _ => .refl _⟩
    rw [hstage] at hcompiled
    exact absurd hcompiled (by simp)
  · refine (assignLayouts_alike_iff hout).trans ⟨fun hrecalls _ => ⟨out, hout, hrecalls⟩, ?_⟩
    intro hrecalls
    obtain ⟨out', hout', hrecalls⟩ := hrecalls hstage
    rw [hout, Except.ok.injEq] at hout'
    exact hout' ▸ hrecalls

/-- A vertex shader with an output that is no shader further on. -/
def brokenVertex : Text := "out vec4 a;\nvoid main() { this is not glsl }\n".toList

/-- A compiler that rejects the broken shader. -/
def pickyCompiler : Compiler := fun _ text =>
  if containsIdentifier "glsl".toList text then none else some (text, [])

/-- A translator that has seen the output before. -/
def seasonedTranslator : Translator :=
  { mode := .full, varyings := { assigned := [("b".toList, 1), ("a".toList, 0)], next := 2 } }

/-- The broken shader leaves no trace where its output is known. -/
theorem tryTranslate_error_traceless_seasoned :
    ∃ failure after,
      seasonedTranslator.tryTranslate pickyCompiler .vertex brokenVertex
        = .ok (.error failure, after) ∧
      after.varyings.Alike seasonedTranslator.varyings ∧
      ∀ submissions, results pickyCompiler after submissions
        = results pickyCompiler seasonedTranslator submissions := by
  have hall : (prepare .vertex brokenVertex seasonedTranslator.varyings).map (fun out =>
      (out.text, sharedPlacements .vertex out.placements |>.all fun p =>
        seasonedTranslator.varyings.location? p.name = some p.location))
      = .ok ("#version 460\nlayout(location = 0) out vec4 a;
void main() { this is not glsl }\n".toList, true) := by
    unfold brokenVertex
    repeat rw [toList_literal rfl]
    decide +kernel
  obtain ⟨out, hout, hfound⟩ := map_eq_ok.1 hall
  obtain ⟨htext, hknown⟩ := Prod.mk.inj hfound
  have hrejected : pickyCompiler .vertex out.text = none := by
    rw [htext]
    repeat rw [toList_literal rfl]
    decide +kernel
  have hfailed := tryTranslate_rejected seasonedTranslator rfl hout hrejected
  obtain ⟨hiff, hlater⟩ := tryTranslate_error_traceless hfailed
  have hrecalls : Recalls .vertex seasonedTranslator.varyings out :=
    recalls_of_known hout (by simpa using hknown)
  have halike := hiff.2 fun _ => ⟨out, hout, hrecalls⟩
  exact ⟨_, _, hfailed, halike, hlater halike⟩

/-- **A shader that cannot be translated does leave a trace** where its output is new.  The location
stays taken, and another shader's output is given the next one. -/
theorem tryTranslate_error_traces :
    ∃ failure after,
      tryTranslate pickyCompiler { mode := .full } .vertex brokenVertex
        = .ok (.error failure, after) ∧
      ¬ after.varyings.Alike {} ∧
      results pickyCompiler after [.attempt .vertex "out vec4 b;".toList]
        = [.ok (.ok "#version 460\nlayout(location = 1) out vec4 b;".toList)] ∧
      results pickyCompiler { mode := .full } [.attempt .vertex "out vec4 b;".toList]
        = [.ok (.ok "#version 460\nlayout(location = 0) out vec4 b;".toList)] := by
  have hall : (prepare .vertex brokenVertex {}).map (fun out => (out.text, out.varyings))
      = .ok ("#version 460\nlayout(location = 0) out vec4 a;
void main() { this is not glsl }\n".toList, { assigned := [("a".toList, 0)], next := 1 }) := by
    unfold brokenVertex
    repeat rw [toList_literal rfl]
    decide +kernel
  obtain ⟨out, hout, hfound⟩ := map_eq_ok.1 hall
  obtain ⟨htext, hvaryings⟩ := Prod.mk.inj hfound
  have hrejected : pickyCompiler .vertex out.text = none := by
    rw [htext]
    repeat rw [toList_literal rfl]
    decide +kernel
  have hfailed := tryTranslate_rejected { mode := .full } rfl hout hrejected
  rw [hvaryings] at hfailed
  refine ⟨_, _, hfailed, ?_, ?_, ?_⟩
  · intro halike
    exact absurd halike.next (by decide)
  · repeat rw [toList_literal rfl]
    decide +kernel
  · repeat rw [toList_literal rfl]
    decide +kernel

end GlBridge.Translator
