import GlBridge.Proofs.Glsl.Sparing
import GlBridge.Proofs.Translator.TextOnly

/-!
# Draw parameters replaced

Three built-in variables become uniforms.  Whether one occurs is asked of the source, the names are
replaced in it, and the directive behind which the declarations go is looked for in what has become
of it.  So the three have to agree on where identifiers are: in names that look alike, in numbers,
and on the line of the directive itself.

* `standIns` — the three variables, and for each the uniform and its declaration, word for word;
* `Polyfilled` — what comes out, part by part;
* **`polyfillBuiltins_polyfilled`** — that it does, for every source.

The replacement spares the word `version`, so that the directive is where it was.
-/

namespace GlBridge

open Text Glsl VersionParts

namespace Translator

/-! ## What is replaced -/

/-- A built-in variable, the uniform that takes its place, and the line that declares the uniform. -/
structure StandIn where
  builtin : Text
  uniform : Text
  declaration : Text
deriving DecidableEq, Repr

/-- The built-in variables that are replaced, in the order in which the uniforms are declared. -/
def standIns : List StandIn :=
  [ { builtin := "gl_DrawID".toList
      uniform := "glxes_DrawID".toList
      declaration := "uniform int glxes_DrawID;\n".toList },
    { builtin := "gl_BaseInstance".toList
      uniform := "glxes_BaseInstance".toList
      declaration := "uniform int glxes_BaseInstance;\n".toList },
    { builtin := "gl_BaseVertex".toList
      uniform := "glxes_BaseVertex".toList
      declaration := "uniform int glxes_BaseVertex;\n".toList } ]

/-- The uniform that takes the place of a name. -/
def uniformOf? (name : Text) : Option Text :=
  (standIns.find? fun standIn => standIn.builtin == name).map StandIn.uniform

/-- The built-in variables that occur in a source, in the order in which the uniforms are declared. -/
def occurring (source : Text) : List StandIn :=
  standIns.filter fun standIn => (identifiers source).contains standIn.builtin

/-- The text with every built-in variable replaced by its uniform, and nothing else changed. -/
def Replaced (text out : Text) : Prop :=
  Respelled text ((identifierUses text).map fun use => ((uniformOf? use.1).getD use.1, use.2)) out

section Replacing

variable {name new text source : Text}

/-- What stands in for a draw parameter. -/
def StandIn.of (parameter : DrawParameter) : StandIn where
  builtin := parameter.builtin
  uniform := parameter.uniform
  declaration := parameter.declaration ++ ['\n']

lemma standIns_eq : standIns = DrawParameter.all.map StandIn.of := by decide +kernel

lemma uniformOf?_eq (name : Text) :
    uniformOf? name = (DrawParameter.ofBuiltin? name).map DrawParameter.uniform := by
  rw [uniformOf?, standIns_eq, List.find?_map, Option.map_map]
  rfl

/-- The draw parameters that the pass finds are those that occur. -/
lemma occurring_eq (source : Text) : occurring source =
    (DrawParameter.all.filter fun p => containsIdentifier p.builtin source).map StandIn.of := by
  rw [occurring, standIns_eq, List.filter_map]
  rfl

/-- The lines that the pass adds are those of the draw parameters that it finds. -/
lemma declarations_occurring (source : Text) : (occurring source).flatMap StandIn.declaration =
    declarations (DrawParameter.all.filter fun p => containsIdentifier p.builtin source) := by
  rw [occurring_eq, List.flatMap_map]
  rfl

lemma isIdentifier_of_uniformOf? (h : uniformOf? name = some new) : isIdentifier new = true := by
  rw [uniformOf?_eq] at h
  obtain ⟨parameter, _, rfl⟩ := Option.map_eq_some_iff.1 h
  exact isIdentifier_uniform parameter

lemma spares_uniformOf? (hname : uniformOf? name = none)
    (hfresh : ∀ parameter : DrawParameter, parameter.uniform ≠ name) :
    Spares uniformOf? name := by
  refine spares_of_fresh hname fun old hold => ?_
  rw [uniformOf?_eq] at hold
  obtain ⟨parameter, _, huniform⟩ := Option.map_eq_some_iff.1 hold
  exact hfresh parameter huniform

/-- The parts around the version directive are replaced one by one. -/
lemma ofSource_uniforms (source : Text) :
    ofSource (renameIdentifiers uniformOf? source) = (ofSource source).renamed uniformOf? := by
  refine ofSource_renameIdentifiers (fun _ _ => isIdentifier_of_uniformOf?) ?_ source
  exact spares_uniformOf? (by decide +kernel) (by rintro ⟨⟩ <;> decide)

/-- Only the built-in variables are replaced. -/
lemma uniformOf?_eq_none (h : ∀ standIn ∈ standIns, standIn.builtin ≠ name) :
    uniformOf? name = none := by
  rw [uniformOf?, Option.map_eq_none_iff, List.find?_eq_none]
  intro standIn hmem
  simp [h standIn hmem]

lemma replaced_renameIdentifiers (text : Text) :
    Replaced text (renameIdentifiers uniformOf? text) := by
  have hnew : ∀ (name : Text) (_ : Bool) (new : Text), uniformOf? name = some new →
      isIdentifier new = true := fun _ _ _ => isIdentifier_of_uniformOf?
  obtain ⟨huses, hgaps⟩ := identifierUses_renameUses hnew text
  exact ⟨huses, hgaps⟩

/-- A source in which no built-in variable occurs stays. -/
lemma renameIdentifiers_of_occurring_eq_nil (h : occurring source = []) :
    renameIdentifiers uniformOf? source = source := by
  refine renameIdentifiers_eq_self fun name hname => uniformOf?_eq_none ?_
  rintro standIn hmem rfl
  rw [occurring, List.filter_eq_nil_iff] at h
  exact h standIn hmem (List.contains_iff_mem.2 hname)

/-- The pass, in terms of what occurs. -/
lemma polyfillBuiltins_eq (source : Text) : polyfillBuiltins source =
    if occurring source = [] then source
    else insertAfterVersion (renameIdentifiers uniformOf? source)
      ((occurring source).flatMap StandIn.declaration) := by
  have hrename : (fun name => (DrawParameter.ofBuiltin? name).map DrawParameter.uniform)
      = uniformOf? := funext fun name => (uniformOf?_eq name).symm
  rw [polyfillBuiltins, hrename, declarations_occurring, occurring_eq]
  cases DrawParameter.all.filter fun p => containsIdentifier p.builtin source with
  | nil => rfl
  | cons parameter parameters => rfl

end Replacing

/-! ## What comes out -/

/-- What a source is once its built-in variables are replaced.  In the parts around the version
directive they are, and behind the directive, which is ended if it was not, the uniforms are declared
of those that occurred. -/
structure Polyfilled (source out : Text) (parts : VersionParts) : Prop where
  whole : Replaced source parts.text
  before : Replaced (ofSource source).before parts.before
  line : Replaced (ofSource source).line parts.line
  after : Replaced (ofSource source).after parts.after
  out_eq : out =
    if occurring source = [] then parts.text
    else parts.before ++ parts.line ++ (ofSource source).lineEnd
      ++ (occurring source).flatMap StandIn.declaration ++ parts.after

/-- **Draw parameters are replaced completely, and once.**  For every source none of the three is
left, nothing else changes but for the declarations of those that occurred, behind the version
directive or at the start, and doing it again changes nothing. -/
theorem polyfillBuiltins_polyfilled (source : Text) :
    ("gl_DrawID".toList ∉ identifiers (polyfillBuiltins source) ∧
        "gl_BaseInstance".toList ∉ identifiers (polyfillBuiltins source) ∧
        "gl_BaseVertex".toList ∉ identifiers (polyfillBuiltins source)) ∧
      (∃ parts, Polyfilled source (polyfillBuiltins source) parts) ∧
      polyfillBuiltins (polyfillBuiltins source) = polyfillBuiltins source := by
  have hparts := ofSource_uniforms source
  have htext : ((ofSource source).renamed uniformOf?).text
      = renameIdentifiers uniformOf? source := by
    rw [← hparts, text_ofSource]
  have hnone := noParameters_polyfillBuiltins source
  refine ⟨⟨hnone .drawId (by decide), hnone .baseInstance (by decide),
    hnone .baseVertex (by decide)⟩, ⟨(ofSource source).renamed uniformOf?, ?_⟩,
    hnone.polyfillBuiltins⟩
  refine ⟨htext ▸ replaced_renameIdentifiers source, replaced_renameIdentifiers _,
    replaced_renameIdentifiers _, replaced_renameIdentifiers _, ?_⟩
  rw [polyfillBuiltins_eq]
  split_ifs with hoccurring
  · rw [htext, renameIdentifiers_of_occurring_eq_nil hoccurring]
  · rw [insertAfterVersion_eq, hparts, VersionParts.insert,
      lineEnd_renamed fun _ _ => isIdentifier_of_uniformOf?, VersionParts.text]
    simp only [List.append_assoc]

/-- Two of the three occur, against the order of their declarations, on the unended line of the
directive. -/
def unendedSource : Text := "//\n#version 460 gl_BaseVertex gl_DrawID gl_DrawIDs".toList

/-- What becomes of this source. -/
theorem polyfillBuiltins_polyfilled_unended :
    polyfillBuiltins unendedSource
        = "//\n#version 460 glxes_BaseVertex glxes_DrawID gl_DrawIDs\n".toList
          ++ "uniform int glxes_DrawID;\nuniform int glxes_BaseVertex;\n".toList ∧
      "gl_DrawID".toList ∉ identifiers (polyfillBuiltins unendedSource) ∧
      (∃ parts, Polyfilled unendedSource (polyfillBuiltins unendedSource) parts) ∧
      polyfillBuiltins (polyfillBuiltins unendedSource) = polyfillBuiltins unendedSource := by
  have hout : polyfillBuiltins unendedSource
      = "//\n#version 460 glxes_BaseVertex glxes_DrawID gl_DrawIDs\n".toList
        ++ "uniform int glxes_DrawID;\nuniform int glxes_BaseVertex;\n".toList := by
    unfold unendedSource
    repeat rw [toList_literal rfl]
    decide +kernel
  obtain ⟨hnone, hpolyfilled, hagain⟩ := polyfillBuiltins_polyfilled unendedSource
  exact ⟨hout, hnone.1, hpolyfilled, hagain⟩

end Translator
end GlBridge
