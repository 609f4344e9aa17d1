import GlBridge.Glsl.DrawParameter
import GlBridge.Glsl.Legacy
import GlBridge.Interface.Restore
import GlBridge.Layout.Samplers

/-!
# Translating shaders

Applications write shaders in the desktop language, the driver reads the embedded one.  Either the
source is only changed as text, or it is prepared as text, compiled, and given its names back.  A
shader that cannot be translated goes to the driver as it is.

* `Compiler` — what compiles a prepared source;
* `Translator.modernize`, `Translator.prepare` — the passes over the text;
* `Translator.translate`, `Translator.tryTranslate` — translating with and without falling back to
  the source itself.
-/

namespace GlBridge

open Text Glsl Layout Interface

/-- The compiler of prepared sources: the text it makes, with what it found out about the
resources, or nothing if it rejects the source. -/
abbrev Compiler := Stage → Text → Option (Text × Resources)

namespace Translator

/-- How shaders are translated. -/
inductive Mode where
  /-- By way of the compiler. -/
  | full
  /-- As text only. -/
  | textOnly
deriving DecidableEq, Repr

/-- The version directive of what the compiler is given. -/
def referenceDirective : Text := "#version 460".toList

/-- The version directive of what the driver is given. -/
def targetDirective : Text := "#version 320 es".toList

/-- The source with legacy syntax and draw parameters replaced, under a given version. -/
def modernize (stage : Stage) (source directive : Text) : Text :=
  normalizeVersion (polyfillBuiltins (modernizeLegacy stage source)) directive

/-- The source as the compiler is given it. -/
def prepare (stage : Stage) (source : Text) (varyings : VaryingLocations) :
    Except Overflow LaidOut :=
  assignLayouts stage (separateSamplers (modernize stage source referenceDirective)) varyings

/-- A text for the driver: a fragment shader also gets default precisions. -/
def finish (stage : Stage) (text : Text) : Text :=
  if stage = .fragment then ensureFragmentPrecision text else text

/-- What becomes of a source that is only changed as text. -/
def translateText (stage : Stage) (source : Text) : Text :=
  finish stage (modernize stage source targetDirective)

/-- Why a shader cannot be translated, with its source as far as it got. -/
inductive Failure where
  /-- Shaders of the stage cannot be compiled. -/
  | unsupportedStage (stage : Stage) (processed : Text)
  /-- The compiler rejects the source. -/
  | rejected (stage : Stage) (processed : Text)
deriving DecidableEq, Repr

namespace Failure

/-- The source when translating failed. -/
def processed : Failure → Text
  | unsupportedStage _ text => text
  | rejected _ text => text

/-- What is said of a failure, if the words are the bridge's own. -/
def message? : Failure → Option Text
  | unsupportedStage stage _ =>
    some (stage.name ++ " shader: no ES translation for this stage".toList)
  | rejected _ _ => none

end Failure

/-- Whether shaders of a stage can be compiled. -/
def isCompiled (stage : Stage) : Bool :=
  match stage with
  | .vertex | .fragment | .compute => true
  | .geometry | .tessControl | .tessEvaluation => false

end Translator

/-- What is kept from shader to shader: the locations that varyings have been given so far. -/
structure Translator where
  mode : Translator.Mode
  varyings : VaryingLocations := {}
deriving DecidableEq, Repr

namespace Translator

/-- Translating a source by way of the compiler. -/
def tryTranslate (compiler : Compiler) (translator : Translator) (stage : Stage) (source : Text) :
    Except Overflow (Except Failure Text × Translator) :=
  if isCompiled stage then do
    let laidOut ← prepare stage source translator.varyings
    let translator := { translator with varyings := laidOut.varyings }
    return match compiler stage laidOut.text with
      | none => (.error (.rejected stage laidOut.text), translator)
      | some (text, resources) =>
        (.ok (finish stage (restoreNames stage laidOut.names resources text)), translator)
  else
    return (.error (.unsupportedStage stage (modernize stage source referenceDirective)),
      translator)

/-- Translating a source.  One that cannot be translated stays as it is. -/
def translate (compiler : Compiler) (translator : Translator) (stage : Stage) (source : Text) :
    Except Overflow (Text × Translator) :=
  match translator.mode with
  | .textOnly => .ok (translateText stage source, translator)
  | .full => do
    match ← translator.tryTranslate compiler stage source with
    | (.ok text, translator) => return (text, translator)
    | (.error _, translator) => return (source, translator)

end Translator
end GlBridge
