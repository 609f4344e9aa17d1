import GlBridge.Translator
import GlBridge.Proofs.Glsl.Directive
import GlBridge.Proofs.Glsl.Respelling

/-!
# Translating as text only, twice

Four passes change a source that is only translated as text, and each looks at what the others have
written.  `Settled` says what the result looks like, in the terms of what the passes look for:

* the first line is the version directive of the driver, so the source is no legacy source, and its
  directive is taken out and put back;
* no draw parameter occurs as an identifier, so none is replaced;
* a fragment shader sets the default precision of floats, so it is given none.

A settled text stays as it is (`Settled.translateText`), and every translated text is settled
(`translateText_settled`).  Only the second half says anything about arbitrary sources.  It needs no
more of the passes than that each adds identifiers of its own and no others.
-/

namespace GlBridge

open Text Glsl

namespace Translator

/-! ## Settled texts -/

/-- What the driver is given under its own version directive. -/
def underDirective (body : Text) : Text := targetDirective ++ '\n' :: body

/-- No name occurs that a draw parameter's built-in variable has. -/
def NoParameters (text : Text) : Prop :=
  ∀ parameter ∈ DrawParameter.all, parameter.builtin ∉ identifiers text

instance (text : Text) : Decidable (NoParameters text) :=
  inferInstanceAs (Decidable (∀ parameter ∈ DrawParameter.all, _))

/-- A text that translating leaves as it is. -/
structure Settled (stage : Stage) (text : Text) : Prop where
  directive : ∃ body, text = underDirective body
  parameters : NoParameters text
  precision : stage = .fragment → hasDefaultFloatPrecision text = true

/-- The directive of a text that starts with the driver's. -/
lemma find?_underDirective (body : Text) : VersionDirective.find? (underDirective body) = some {
    before := [], line := targetDirective ++ ['\n'], after := body, version := 320, es := true } := by
  rw [VersionDirective.find?, underDirective, inclusiveLines_line (by decide)]
  have harguments : VersionDirective.arguments? (targetDirective ++ ['\n'])
      = some " 320 es\n".toList := by decide
  rw [VersionDirective.findIn, harguments]
  simp only [flatten_inclusiveLines]
  rfl

lemma modernizeLegacy_underDirective (stage : Stage) (body : Text) :
    modernizeLegacy stage (underDirective body) = underDirective body := by
  have hlegacy : isLegacySource (underDirective body) = false := by
    rw [isLegacySource, find?_underDirective]
    rfl
  rw [modernizeLegacy, hlegacy, if_neg Bool.false_ne_true]

lemma normalizeVersion_underDirective (body : Text) :
    normalizeVersion (underDirective body) targetDirective = underDirective body := by
  rw [normalizeVersion, find?_underDirective]
  rfl

lemma insertAfterVersion_underDirective (body insertion : Text) :
    insertAfterVersion (underDirective body) insertion = underDirective (insertion ++ body) := by
  rw [insertAfterVersion, find?_underDirective, underDirective, underDirective]
  simp only [List.nil_append, List.getLast?_concat, if_true, List.append_nil, List.append_assoc,
    List.cons_append]

/-- A source without draw parameters is not changed for them. -/
lemma NoParameters.polyfillBuiltins {source : Text} (h : NoParameters source) :
    polyfillBuiltins source = source := by
  have hnone : DrawParameter.all.filter (fun p => containsIdentifier p.builtin source) = [] := by
    rw [List.filter_eq_nil_iff]
    intro parameter hparameter
    rw [containsIdentifier, List.contains_iff_mem]
    exact h parameter hparameter
  rw [Glsl.polyfillBuiltins, hnone]

/-- **A settled text stays as it is.** -/
theorem Settled.translateText {stage : Stage} {text : Text} (h : Settled stage text) :
    Translator.translateText stage text = text := by
  obtain ⟨body, rfl⟩ := h.directive
  have hmodern : modernize stage (underDirective body) targetDirective = underDirective body := by
    rw [modernize, modernizeLegacy_underDirective, h.parameters.polyfillBuiltins,
      normalizeVersion_underDirective]
  rw [Translator.translateText, hmodern, finish]
  split_ifs with hstage
  · rw [ensureFragmentPrecision, if_pos (h.precision hstage)]
  · rfl

/-! ## What the passes leave -/

lemma ofBuiltin?_builtin (parameter : DrawParameter) :
    DrawParameter.ofBuiltin? parameter.builtin = some parameter := by
  cases parameter <;> decide

lemma uniform_ne_builtin (parameter other : DrawParameter) :
    parameter.uniform ≠ other.builtin := by
  cases parameter <;> cases other <;> decide

lemma isIdentifier_uniform (parameter : DrawParameter) : isIdentifier parameter.uniform = true := by
  cases parameter <;> decide

/-- The declarations of draw parameters' uniforms, one on a line. -/
def declarations (parameters : List DrawParameter) : Text :=
  parameters.flatMap fun p => p.declaration ++ ['\n']

lemma wholeLines_declarations (parameters : List DrawParameter) :
    WholeLines (declarations parameters) := by
  induction parameters with
  | nil => exact Or.inl rfl
  | cons parameter parameters ih =>
      rw [declarations, List.flatMap_cons]
      exact WholeLines.append (Or.inr ⟨_, rfl⟩) ih

lemma noParameters_declarations (parameters : List DrawParameter) :
    NoParameters (declarations parameters) := by
  induction parameters with
  | nil =>
      intro other _
      rw [declarations, List.flatMap_nil, identifiers_eq_names, Lexeme.names_nil]
      exact List.not_mem_nil
  | cons parameter parameters ih =>
      intro other hother
      rw [declarations, List.flatMap_cons, identifiers_append (Or.inr ⟨_, rfl⟩), List.mem_append,
        not_or]
      refine ⟨?_, ih other hother⟩
      cases parameter <;> cases other <;> decide +kernel

/-- **No draw parameter is left** once they are replaced. -/
theorem noParameters_polyfillBuiltins (source : Text) : NoParameters (polyfillBuiltins source) := by
  intro parameter hparameter hmem
  unfold polyfillBuiltins at hmem
  split at hmem
  · next hnone =>
      rw [List.filter_eq_nil_iff] at hnone
      refine hnone parameter hparameter ?_
      rw [containsIdentifier, List.contains_iff_mem]
      exact hmem
  · next found hfound =>
      rcases mem_identifiers_insertAfterVersion (wholeLines_declarations _) hmem with hold | hnew
      · rw [identifiers_renameIdentifiers, List.mem_map] at hold
        · obtain ⟨name, _, hname⟩ := hold
          cases hbuiltin : DrawParameter.ofBuiltin? name with
          | none =>
              rw [hbuiltin] at hname
              obtain rfl : name = parameter.builtin := hname
              rw [ofBuiltin?_builtin] at hbuiltin
              exact absurd hbuiltin (by simp)
          | some other =>
              rw [hbuiltin] at hname
              exact uniform_ne_builtin other parameter hname
        · intro old new hnew
          obtain ⟨other, _, rfl⟩ := Option.map_eq_some_iff.1 hnew
          exact isIdentifier_uniform other
      · exact noParameters_declarations _ parameter hparameter hnew

/-- A source under the driver's directive has no draw parameters if it had none before. -/
lemma NoParameters.normalizeVersion {source : Text} (h : NoParameters source) :
    NoParameters (normalizeVersion source targetDirective) := by
  intro parameter hparameter hmem
  rcases mem_identifiers_normalizeVersion hmem with hmem | hmem
  · exact h parameter hparameter hmem
  · have hnone : NoParameters targetDirective := by decide +kernel
    exact hnone parameter hparameter hmem

/-- A source has no more draw parameters once default precisions are put in. -/
lemma NoParameters.insertPreamble {source : Text} (h : NoParameters source) :
    NoParameters (insertAfterVersion source precisionPreamble) := by
  intro parameter hparameter hmem
  have hpreamble : WholeLines precisionPreamble :=
    Or.inr ⟨"precision mediump float;\nprecision mediump int;".toList, by decide⟩
  rcases mem_identifiers_insertAfterVersion hpreamble hmem with hmem | hmem
  · exact h parameter hparameter hmem
  · have hnone : NoParameters precisionPreamble := by decide +kernel
    exact hnone parameter hparameter hmem

/-- The default precisions that are put in are found again. -/
lemma hasDefaultFloatPrecision_preamble (body : Text) :
    hasDefaultFloatPrecision (underDirective (precisionPreamble ++ body)) = true := by
  have hpreamble : underDirective (precisionPreamble ++ body) = targetDirective ++ '\n' ::
      ("precision mediump float;".toList ++ '\n' :: ("precision mediump int;\n".toList ++ body)) := by
    have hlines : precisionPreamble = "precision mediump float;".toList ++ '\n' ::
        "precision mediump int;\n".toList := by decide
    rw [underDirective, hlines, List.append_assoc, List.cons_append]
  rw [hpreamble, hasDefaultFloatPrecision, lines, inclusiveLines_line (by decide),
    inclusiveLines_line (by decide), List.map_cons, List.map_cons, List.any_cons, List.any_cons]
  have hfound : setsFloatPrecision (dropLineEnd ("precision mediump float;".toList ++ ['\n']))
      = true := by decide
  rw [hfound, Bool.true_or, Bool.or_true]

/-- **A translated text is settled.** -/
theorem translateText_settled (stage : Stage) (source : Text) :
    Settled stage (translateText stage source) := by
  have hnone : NoParameters (modernize stage source targetDirective) :=
    (noParameters_polyfillBuiltins _).normalizeVersion
  have hdirective : ∃ body, modernize stage source targetDirective = underDirective body :=
    ⟨_, rfl⟩
  rw [translateText, finish]
  split_ifs with hstage
  · rw [ensureFragmentPrecision]
    split_ifs with hprecision
    · exact ⟨hdirective, hnone, fun _ => hprecision⟩
    · obtain ⟨body, hbody⟩ := hdirective
      have hinserted : insertAfterVersion (modernize stage source targetDirective)
          precisionPreamble = underDirective (precisionPreamble ++ body) := by
        rw [hbody, insertAfterVersion_underDirective]
      refine ⟨⟨_, hinserted⟩, hnone.insertPreamble, fun _ => ?_⟩
      rw [hinserted]
      exact hasDefaultFloatPrecision_preamble body
  · exact ⟨hdirective, hnone, fun h => absurd h hstage⟩

/-- **Translating a translated text again changes nothing**, for every stage and source, if shaders
are translated as text only. -/
theorem translate_textOnly_idempotent (compiler : Compiler) (varyings : Layout.VaryingLocations)
    (stage : Stage) (source : Text) :
    ∃ text, translate compiler { mode := .textOnly, varyings } stage source
        = .ok (text, { mode := .textOnly, varyings }) ∧
      translate compiler { mode := .textOnly, varyings } stage text
        = .ok (text, { mode := .textOnly, varyings }) := by
  refine ⟨translateText stage source, rfl, ?_⟩
  show Except.ok (translateText stage (translateText stage source), _) = _
  rw [(translateText_settled stage source).translateText]

end Translator
end GlBridge
