import GlBridge.Proofs.Translator.OutputDeclaration

/-!
# Names that are modernized and names that are there already

In a legacy source `texture` is an ordinary name, and what samples a texture is called `texture2D` or
the like.  Modernizing gives the functions their later names and asks nobody whether a name is taken.

**Capturing.**  A text captures a name if the name stands both for what the source calls so and for
something that the source calls otherwise.  Replacing identifiers captures a new name exactly if it
is among the identifiers already, unless new names are replaced in turn
(`captures_renameIdentifiers_iff`).

Nothing else happens to a legacy source (`exists_modernized`), so a sampler called `texture` is
passed to itself (`modernizeLegacy_captures_sampler`).  The main result,
**`modernizeLegacy_captures_iff`**, says for which names this is so.
-/

namespace GlBridge

open Text Glsl

namespace Glsl

/-! ## Capturing -/

/-- The identifiers of a source, each with what stands in its place in another text. -/
def readings (source out : Text) : List (Text × Text) := (identifiers source).zip (identifiers out)

/-- In a text that a source was turned into, a name stands for what the source calls so and for
something that the source calls otherwise. -/
def Captures (source out name : Text) : Prop :=
  (name, name) ∈ readings source out ∧ ∃ old ≠ name, (old, name) ∈ readings source out

section Capturing

variable {rename : Text → Option Text} {source name old new : Text}

lemma mem_readings_renameIdentifiers
    (hnew : ∀ old new, rename old = some new → isIdentifier new = true) :
    (old, new) ∈ readings source (renameIdentifiers rename source) ↔
      old ∈ identifiers source ∧ (rename old).getD old = new := by
  rw [readings, identifiers_renameIdentifiers source hnew, ← List.map_prod_left_eq_zip,
    List.mem_map]
  constructor
  · rintro ⟨found, hfound, heq⟩
    obtain ⟨rfl, rfl⟩ := Prod.mk.inj heq
    exact ⟨hfound, rfl⟩
  · rintro ⟨hold, rfl⟩
    exact ⟨old, hold, rfl⟩

/-- **A new name is captured exactly if it is there already**, as long as no new name is replaced in
turn. -/
theorem captures_renameIdentifiers_iff
    (hnew : ∀ old new, rename old = some new → isIdentifier new = true)
    (hlast : ∀ old new, rename old = some new → rename new = none) :
    Captures source (renameIdentifiers rename source) name ↔
      name ∈ identifiers source ∧ ∃ old ∈ identifiers source, rename old = some name := by
  simp only [Captures, mem_readings_renameIdentifiers hnew]
  constructor
  · rintro ⟨⟨hname, -⟩, old, hne, hold, hread⟩
    refine ⟨hname, old, hold, ?_⟩
    cases h : rename old with
    | none => exact absurd (by rwa [h] at hread) hne
    | some given => rw [← hread, h, Option.getD_some]
  · rintro ⟨hname, old, hold, hgiven⟩
    have hkept := hlast old name hgiven
    refine ⟨⟨hname, by rw [hkept, Option.getD_none]⟩, old, ?_, hold, ?_⟩
    · rintro rfl
      exact Option.some_ne_none _ (hgiven.symm.trans hkept)
    · rw [hgiven, Option.getD_some]

end Capturing
end Glsl

namespace Translator

/-! ## Legacy sources -/

variable {stage : Stage} {source old new : Text}

/-- What a legacy name is replaced by is no legacy name. -/
lemma modernName?_modern (h : modernName? stage old = some new) : modernName? stage new = none := by
  have hall : ∀ new ∈ modernNames, modernName? stage new = none := by cases stage <;> decide
  exact hall new (mem_modernNames h)

/-- What a legacy source is turned into: its legacy names are replaced, and if it writes
`gl_FragColor` for fragments, the output that it writes instead is declared. -/
structure Modernized (stage : Stage) (source renamed : Text) : Prop where
  respelled : Respelled source ((identifierUses source).map fun use =>
    ((modernName? stage use.1).getD use.1, use.2)) renamed
  modernizeLegacy_eq : modernizeLegacy stage source
    = if stage = .fragment ∧ containsIdentifier "gl_FragColor".toList source then
        insertAfterVersion renamed outputDeclaration
      else renamed

lemma exists_modernized (stage : Stage) (hlegacy : isLegacySource source = true) :
    Modernized stage source (renameIdentifiers (modernName? stage) source) := by
  have hnew : ∀ (name : Text) (_ : Bool) (new : Text),
      modernName? stage name = some new → isIdentifier new = true :=
    fun _ _ _ => isIdentifier_of_modernName?
  obtain ⟨huses, hgaps⟩ := identifierUses_renameUses hnew source
  refine ⟨⟨huses, hgaps⟩, ?_⟩
  rw [modernizeLegacy, if_pos hlegacy]
  rfl

lemma captures_modernName?_iff (stage : Stage) (source name : Text) :
    Captures source (renameIdentifiers (modernName? stage) source) name ↔
      name ∈ identifiers source ∧ ∃ old ∈ identifiers source, modernName? stage old = some name :=
  captures_renameIdentifiers_iff (fun _ _ => isIdentifier_of_modernName?)
    fun _ _ => modernName?_modern

/-! ## The result -/

/-- **Which names are captured when a legacy source is modernized**: those that a legacy name is
replaced by and that are identifiers of the source as well. -/
theorem modernizeLegacy_captures_iff (stage : Stage) (hlegacy : isLegacySource source = true) :
    ∃ renamed, Modernized stage source renamed ∧ ∀ name, Captures source renamed name ↔
      name ∈ identifiers source ∧ ∃ old ∈ identifiers source, modernName? stage old = some name :=
  ⟨_, exists_modernized stage hlegacy, captures_modernName?_iff stage source⟩

/-- A shader that samples a texture. -/
def samplingShader : Text :=
  ("#version 120\nvarying vec2 uv;\nuniform sampler2D tex;\n"
    ++ "void main() { gl_FragColor = texture2D(tex, uv); }\n").toList

/-- A shader whose names are its own. -/
theorem modernizeLegacy_captures_iff_sampling :
    isLegacySource samplingShader = true ∧
      ∃ renamed, Modernized .fragment samplingShader renamed ∧
        ∀ name ∈ modernNames, ¬ Captures samplingShader renamed name := by
  have hlegacy : isLegacySource samplingShader = true := by
    unfold samplingShader
    rw [String.toList_append]
    repeat rw [toList_literal rfl]
    decide +kernel
  have hown : ∀ name ∈ identifiers samplingShader, name ∉ modernNames := by
    unfold samplingShader
    rw [String.toList_append]
    repeat rw [toList_literal rfl]
    decide +kernel
  obtain ⟨renamed, hmodernized, hiff⟩ := modernizeLegacy_captures_iff .fragment hlegacy
  refine ⟨hlegacy, renamed, hmodernized, ?_⟩
  intro name hname hcaptures
  exact hown name ((hiff name).1 hcaptures).1 hname

/-- A shader whose sampler is called `texture`. -/
def samplerShader : Text :=
  ("#version 120\nuniform sampler2D texture;\nvarying vec2 uv;\n"
    ++ "void main() { gl_FragColor = texture2D(texture, uv); }\n").toList

/-- **A sampler captures the function that reads it.** -/
theorem modernizeLegacy_captures_sampler :
    isLegacySource samplerShader = true ∧
      modernizeLegacy .fragment samplerShader
        = ("#version 120\nout vec4 glxes_FragColor;\nuniform sampler2D texture;\nin vec2 uv;\n"
          ++ "void main() { glxes_FragColor = texture(texture, uv); }\n").toList ∧
      ∃ renamed, Modernized .fragment samplerShader renamed ∧
        Captures samplerShader renamed "texture".toList := by
  have hall : isLegacySource samplerShader = true ∧
      modernizeLegacy .fragment samplerShader
        = ("#version 120\nout vec4 glxes_FragColor;\nuniform sampler2D texture;\nin vec2 uv;\n"
          ++ "void main() { glxes_FragColor = texture(texture, uv); }\n").toList ∧
      "texture".toList ∈ identifiers samplerShader ∧
      "texture2D".toList ∈ identifiers samplerShader := by
    unfold samplerShader
    simp only [String.toList_append]
    repeat rw [toList_literal rfl]
    decide +kernel
  obtain ⟨hlegacy, htext, htexture, htexture2D⟩ := hall
  refine ⟨hlegacy, htext, _, exists_modernized .fragment hlegacy, ?_⟩
  refine (captures_modernName?_iff .fragment samplerShader _).2 ⟨htexture, ?_⟩
  exact ⟨"texture2D".toList, htexture2D, rfl⟩

end Translator
end GlBridge
