import GlBridge.Proofs.Glsl.Precision
import GlBridge.Proofs.Translator.Polyfilling

/-!
# Where the output of a legacy fragment shader is declared

A legacy fragment shader that writes `gl_FragColor` gets an output of its own, and the driver has
to know a default precision for floats where the output is declared.  Three passes insert lines
behind the version directive, each in front of what the ones before it have put there: the
declaration of the output, those of draw parameters, and default precisions, unless the source sets
one for floats.  The version directive goes to the first line before that last pass looks for it.

So if the precisions are put in, they stand before the output.  If they are not, then what the
source itself sets is where it was, and that is before the output only if it stands before the
source's version directive (`precision_before_output_iff`).
-/

namespace GlBridge

open Text Glsl VersionDirective VersionParts

namespace Translator

/-! ## Legacy names -/

/-- What legacy names are replaced by. -/
def modernNames : List Text :=
  "in".toList :: "out".toList :: fragColorOutput :: samplingNames.map Prod.snd

section Legacy

variable {stage : Stage} {name new : Text}

lemma mem_modernNames (h : modernName? stage name = some new) : new ∈ modernNames := by
  have hsome : ∀ {text : Text}, some text = some new → text ∈ modernNames → new ∈ modernNames := by
    rintro text ⟨rfl⟩ hmem
    exact hmem
  unfold modernName? at h
  split_ifs at h
  · exact hsome h (by simp [modernNames])
  · exact hsome h (by simp [modernNames])
  · exact hsome h (by simp [modernNames])
  · exact hsome h (by simp [modernNames])
  · obtain ⟨before, after, hnames, -⟩ := List.lookup_eq_some_iff.1 h
    have hmem : (name, new) ∈ samplingNames := by rw [hnames]; simp
    simp only [modernNames, List.mem_cons]
    exact Or.inr (Or.inr (Or.inr (List.mem_map_of_mem hmem)))

lemma isIdentifier_of_modernName? (h : modernName? stage name = some new) :
    isIdentifier new = true := by
  have hall : ∀ new ∈ modernNames, isIdentifier new = true := by decide
  exact hall new (mem_modernNames h)

lemma spares_modernName? (hname : modernName? stage name = none) (hfresh : name ∉ modernNames) :
    Spares (modernName? stage) name :=
  spares_of_fresh hname fun _ hold => hfresh (mem_modernNames hold)

end Legacy

/-- The text with legacy names and draw parameters replaced. -/
def renewed (text : Text) : Text :=
  renameIdentifiers uniformOf? (renameIdentifiers (modernName? .fragment) text)

/-- Replacing names does not change whether a precision is set. -/
lemma hasDefaultFloatPrecision_renewed (text : Text) :
    hasDefaultFloatPrecision (renewed text) = hasDefaultFloatPrecision text := by
  rw [renewed, hasDefaultFloatPrecision_renameIdentifiers (fun _ _ => isIdentifier_of_uniformOf?)
      (spares_uniformOf? (by decide) (by rintro ⟨⟩ <;> decide))
      (spares_uniformOf? (by decide) (by rintro ⟨⟩ <;> decide)),
    hasDefaultFloatPrecision_renameIdentifiers (fun _ _ => isIdentifier_of_modernName?)
      (spares_modernName? (by decide) (by decide)) (spares_modernName? (by decide) (by decide))]

/-! ## What is inserted -/

/-- The declaration of the output that takes the place of `gl_FragColor`. -/
def outputDeclaration : Text := "out vec4 ".toList ++ fragColorOutput ++ ";\n".toList

lemma wholeLines_outputDeclaration : WholeLines outputDeclaration :=
  Or.inr ⟨"out vec4 ".toList ++ fragColorOutput ++ ";".toList, by decide⟩

lemma inclusiveLines_declarations (parameters : List DrawParameter) :
    inclusiveLines (declarations parameters) = parameters.map fun p => p.declaration ++ ['\n'] := by
  induction parameters with
  | nil => rfl
  | cons parameter parameters ih =>
      have hline : '\n' ∉ parameter.declaration := by cases parameter <;> decide
      rw [declarations, List.flatMap_cons, List.append_assoc, List.singleton_append,
        inclusiveLines_line hline, List.map_cons]
      exact congrArg _ ih

/-- A declared uniform is no version directive and sets no precision. -/
lemma plain_of_mem_declarations {parameters : List DrawParameter} {line : Text}
    (h : line ∈ inclusiveLines (declarations parameters)) :
    isDirective line = false ∧ setsFloatPrecision line = false := by
  rw [inclusiveLines_declarations, List.mem_map] at h
  obtain ⟨parameter, _, rfl⟩ := h
  cases parameter <;> decide

lemma hasDefaultFloatPrecision_declarations (parameters : List DrawParameter) :
    hasDefaultFloatPrecision (declarations parameters) = false := by
  rw [hasDefaultFloatPrecision_eq, List.any_eq_false]
  intro line hline
  simp [(plain_of_mem_declarations hline).2]

lemma hasDefaultFloatPrecision_underDirective (body : Text) :
    hasDefaultFloatPrecision (underDirective body) = hasDefaultFloatPrecision body := by
  have hdirective : setsFloatPrecision (targetDirective ++ ['\n']) = false := by decide
  rw [hasDefaultFloatPrecision_eq, hasDefaultFloatPrecision_eq, underDirective,
    inclusiveLines_line (by decide), List.any_cons, hdirective, Bool.false_or]

/-- Where draw parameters are replaced, the declarations go behind the directive. -/
lemma ofSource_polyfillBuiltins (source : Text) :
    (ofSource (polyfillBuiltins source)).before
        = renameIdentifiers uniformOf? (ofSource source).before ∧
      (ofSource (polyfillBuiltins source)).after = declarations
          (DrawParameter.all.filter fun p => containsIdentifier p.builtin source)
        ++ renameIdentifiers uniformOf? (ofSource source).after := by
  have hparts := ofSource_uniforms source
  rw [polyfillBuiltins_eq, ← declarations_occurring]
  split_ifs with hoccurring
  · rw [renameIdentifiers_of_occurring_eq_nil hoccurring] at hparts
    rw [hoccurring]
    exact ⟨congrArg VersionParts.before hparts, congrArg VersionParts.after hparts⟩
  · rw [declarations_occurring, ofSource_insertAfterVersion (wholeLines_declarations _)
      fun line hline => (plain_of_mem_declarations hline).1, hparts]
    exact ⟨rfl, rfl⟩

/-! ## The order -/

section Order

variable {source : Text}

/-- **Where the output is declared**, before default precisions are put in. -/
lemma exists_modernize (hlegacy : isLegacySource source = true)
    (hcolor : containsIdentifier "gl_FragColor".toList source = true) :
    ∃ parameters, modernize .fragment source targetDirective
      = underDirective (renewed (ofSource source).before ++ declarations parameters
        ++ (outputDeclaration ++ renewed (ofSource source).after)) := by
  have hmodern : modernizeLegacy .fragment source
      = insertAfterVersion (renameIdentifiers (modernName? .fragment) source) outputDeclaration := by
    rw [modernizeLegacy, if_pos hlegacy]
    exact if_pos ⟨rfl, hcolor⟩
  have hdeclaration : ∀ line ∈ inclusiveLines outputDeclaration, isDirective line = false := by
    decide
  have hparts := ofSource_insertAfterVersion wholeLines_outputDeclaration hdeclaration
    (renameIdentifiers (modernName? .fragment) source)
  rw [← hmodern, ofSource_renameIdentifiers (fun _ _ => isIdentifier_of_modernName?)
    (spares_modernName? (by decide) (by decide))] at hparts
  obtain ⟨hbefore, hafter⟩ := ofSource_polyfillBuiltins (modernizeLegacy .fragment source)
  -- no name in the declaration of the output is replaced
  have hkept : renameIdentifiers uniformOf? (outputDeclaration
      ++ renameIdentifiers (modernName? .fragment) (ofSource source).after)
      = outputDeclaration ++ renewed (ofSource source).after := by
    have hparted := parted_append_singleton (c := '\n') (by decide)
      ("out vec4 ".toList ++ fragColorOutput ++ ";".toList)
      (renameIdentifiers (modernName? .fragment) (ofSource source).after)
    have hnone : renameIdentifiers uniformOf? outputDeclaration = outputDeclaration := by
      decide +kernel
    rw [show outputDeclaration = "out vec4 ".toList ++ fragColorOutput ++ ";".toList ++ ['\n'] from
      rfl] at hnone ⊢
    rw [renameIdentifiers_append hparted, hnone]
    rfl
  refine ⟨DrawParameter.all.filter fun p =>
    containsIdentifier p.builtin (modernizeLegacy .fragment source), ?_⟩
  rw [modernize, normalizeVersion_eq, hbefore, hafter, hparts]
  rw [underDirective, VersionParts.insert, VersionParts.renamed]
  simp only [hkept, List.append_assoc]
  rfl

/-- What a legacy fragment shader with an output of its own is translated to. -/
structure Declared (source before after : Text) : Prop where
  translated : ∀ (compiler : Compiler) (varyings : Layout.VaryingLocations),
    translate compiler { mode := .textOnly, varyings } .fragment source
      = .ok (underDirective (before ++ (outputDeclaration ++ after)), { mode := .textOnly, varyings })
  before_eq : ∃ parameters, before
    = (if hasDefaultFloatPrecision source then [] else precisionPreamble)
      ++ (renewed (ofSource source).before ++ declarations parameters)
  after_eq : after = renewed (ofSource source).after

/-- What stands before the output sets a precision if the part before the directive does. -/
lemma hasDefaultFloatPrecision_lead (source : Text) (parameters : List DrawParameter)
    (rest : Text) :
    hasDefaultFloatPrecision (renewed (ofSource source).before ++ declarations parameters ++ rest)
      = (hasDefaultFloatPrecision (ofSource source).before || hasDefaultFloatPrecision rest) := by
  have hlines : WholeLines (renewed (ofSource source).before) :=
    ((wholeLines_before source).renameIdentifiers).renameIdentifiers
  rw [List.append_assoc, hasDefaultFloatPrecision_append hlines,
    hasDefaultFloatPrecision_append (wholeLines_declarations parameters),
    hasDefaultFloatPrecision_renewed, hasDefaultFloatPrecision_declarations, Bool.false_or]

/-- The passes before it leave what the last pass asks for. -/
lemma hasDefaultFloatPrecision_modernize (hlegacy : isLegacySource source = true)
    (hcolor : containsIdentifier "gl_FragColor".toList source = true) :
    hasDefaultFloatPrecision (modernize .fragment source targetDirective)
      = hasDefaultFloatPrecision source := by
  obtain ⟨parameters, hmodern⟩ := exists_modernize hlegacy hcolor
  have hdeclaration : hasDefaultFloatPrecision outputDeclaration = false := by decide
  rw [hmodern, hasDefaultFloatPrecision_underDirective, hasDefaultFloatPrecision_lead,
    hasDefaultFloatPrecision_append wholeLines_outputDeclaration, hdeclaration, Bool.false_or,
    hasDefaultFloatPrecision_renewed, ← hasDefaultFloatPrecision_parts]

/-- **A default precision for floats stands before the output exactly if** the source sets none, or
sets one before its version directive. -/
theorem precision_before_output_iff (hlegacy : isLegacySource source = true)
    (hcolor : containsIdentifier "gl_FragColor".toList source = true) :
    ∃ before after, Declared source before after ∧
      (hasDefaultFloatPrecision (underDirective before) = true ↔
        (hasDefaultFloatPrecision source = true →
          hasDefaultFloatPrecision (ofSource source).before = true)) := by
  obtain ⟨parameters, hmodern⟩ := exists_modernize hlegacy hcolor
  have hasked := hasDefaultFloatPrecision_modernize hlegacy hcolor
  have hbefore := hasDefaultFloatPrecision_lead source parameters []
  rw [List.append_nil, show hasDefaultFloatPrecision [] = false from rfl, Bool.or_false] at hbefore
  generalize hlead : renewed (ofSource source).before ++ declarations parameters = lead
    at hmodern hbefore
  refine ⟨(if hasDefaultFloatPrecision source then [] else precisionPreamble) ++ lead,
    renewed (ofSource source).after, ⟨fun compiler varyings => ?_, ⟨parameters, by rw [hlead]⟩, rfl⟩,
    ?_⟩
  · have htext : translateText .fragment source = underDirective
        ((if hasDefaultFloatPrecision source then [] else precisionPreamble) ++ lead
          ++ (outputDeclaration ++ renewed (ofSource source).after)) := by
      rw [translateText, finish, if_pos rfl, ensureFragmentPrecision, hasked, hmodern]
      split_ifs
      · rfl
      · rw [insertAfterVersion_underDirective, ← List.append_assoc]
    rw [← htext]
    rfl
  · rw [hasDefaultFloatPrecision_underDirective]
    cases hsource : hasDefaultFloatPrecision source with
    | true => simp [hbefore]
    | false =>
        have hpreamble : hasDefaultFloatPrecision precisionPreamble = true := by decide +kernel
        have hlines : WholeLines precisionPreamble :=
          Or.inr ⟨"precision mediump float;\nprecision mediump int;".toList, by decide⟩
        simp [hasDefaultFloatPrecision_append hlines, hpreamble]

end Order

/-- A shader for desktops, with no precision of its own. -/
def desktopShader : Text :=
  "#version 120\nvarying vec4 c;\nvoid main() { gl_FragColor = c; }\n".toList

theorem precision_before_output_desktop :
    isLegacySource desktopShader = true ∧
      containsIdentifier "gl_FragColor".toList desktopShader = true ∧
      ∃ before after, Declared desktopShader before after ∧
        hasDefaultFloatPrecision (underDirective before) = true := by
  have hall : isLegacySource desktopShader = true ∧
      containsIdentifier "gl_FragColor".toList desktopShader = true ∧
      hasDefaultFloatPrecision desktopShader = false := by
    unfold desktopShader
    repeat rw [toList_literal rfl]
    decide +kernel
  obtain ⟨hlegacy, hcolor, hnone⟩ := hall
  obtain ⟨before, after, hdeclared, hiff⟩ := precision_before_output_iff hlegacy hcolor
  exact ⟨hlegacy, hcolor, before, after, hdeclared,
    hiff.2 fun h => absurd (hnone.symm.trans h) Bool.false_ne_true⟩

/-- A shader that sets a precision where sources of the embedded language do. -/
def embeddedShader : Text :=
  "#version 100\nprecision mediump float;\nvoid main() { gl_FragColor = vec4(1.0); }\n".toList

/-- **The output is declared before the precision that the source sets.** -/
theorem output_before_precision :
    isLegacySource embeddedShader = true ∧
      containsIdentifier "gl_FragColor".toList embeddedShader = true ∧
      translateText .fragment embeddedShader = underDirective (outputDeclaration
        ++ "precision mediump float;\nvoid main() { glxes_FragColor = vec4(1.0); }\n".toList) ∧
      ¬ ∃ before after, Declared embeddedShader before after ∧
        hasDefaultFloatPrecision (underDirective before) = true := by
  have hall : isLegacySource embeddedShader = true ∧
      containsIdentifier "gl_FragColor".toList embeddedShader = true ∧
      translateText .fragment embeddedShader = underDirective (outputDeclaration
        ++ "precision mediump float;\nvoid main() { glxes_FragColor = vec4(1.0); }\n".toList) ∧
      renewed (ofSource embeddedShader).after
        = "precision mediump float;\nvoid main() { glxes_FragColor = vec4(1.0); }\n".toList := by
    unfold embeddedShader
    repeat rw [toList_literal rfl]
    decide +kernel
  obtain ⟨hlegacy, hcolor, htext, hafter⟩ := hall
  refine ⟨hlegacy, hcolor, htext, ?_⟩
  rintro ⟨before, after, hdeclared, hprecision⟩
  have htranslated := hdeclared.translated (fun _ _ => none) {}
  have hsame : translateText .fragment embeddedShader
      = underDirective (before ++ (outputDeclaration ++ after)) :=
    congrArg Prod.fst (Except.ok.inj htranslated)
  rw [htext, hdeclared.after_eq, hafter, underDirective, underDirective] at hsame
  have hnothing : before = [] := by
    have hbody := (List.cons.inj (List.append_cancel_left hsame)).2
    exact List.append_left_eq_self.1 hbody.symm
  rw [hnothing] at hprecision
  exact absurd hprecision (by decide)

end Translator
end GlBridge
