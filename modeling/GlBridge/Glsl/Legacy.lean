import GlBridge.Glsl.Stage
import GlBridge.Glsl.Version
import GlBridge.Glsl.Word

/-!
# Legacy syntax and default precision

Sources of the oldest language versions use `attribute` and `varying` qualifiers, one sampling
function per texture type, and the built-in output `gl_FragColor`.  `modernizeLegacy` gives them
the names that later versions know.  A fragment shader of the embedded language also needs a
default precision for floats, which `ensureFragmentPrecision` supplies.
-/

namespace GlBridge.Glsl

open Text

/-- The name of the output that replaces `gl_FragColor`. -/
def fragColorOutput : Text := "glxes_FragColor".toList

/-- The legacy functions that sample, and what they are called in later versions. -/
def samplingNames : List (Text × Text) :=
  [("texture2D".toList, "texture".toList), ("texture3D".toList, "texture".toList),
    ("textureCube".toList, "texture".toList),
    ("texture2DProj".toList, "textureProj".toList), ("texture3DProj".toList, "textureProj".toList),
    ("texture2DLod".toList, "textureLod".toList), ("textureCubeLod".toList, "textureLod".toList)]

/-- What a legacy identifier is called in later versions of the language, for a stage. -/
def modernName? (stage : Stage) (name : Text) : Option Text :=
  if name = "attribute".toList ∧ stage = .vertex then some "in".toList
  else if name = "varying".toList ∧ stage = .vertex then some "out".toList
  else if name = "varying".toList ∧ stage = .fragment then some "in".toList
  else if name = "gl_FragColor".toList ∧ stage = .fragment then some fragColorOutput
  else samplingNames.lookup name

/-- Whether the source is written in a legacy version: it has no version directive, or one that
names such a version. -/
def isLegacySource (source : Text) : Bool :=
  (VersionDirective.find? source).all VersionDirective.isLegacy

/-- The source with its legacy names modernized, if it is a legacy source.  A fragment shader
that writes `gl_FragColor` gets an output declared in its place. -/
def modernizeLegacy (stage : Stage) (source : Text) : Text :=
  if isLegacySource source then
    let renamed := renameIdentifiers (modernName? stage) source
    if stage = .fragment ∧ containsIdentifier "gl_FragColor".toList source then
      insertAfterVersion renamed ("out vec4 ".toList ++ fragColorOutput ++ ";\n".toList)
    else renamed
  else source

/-- Whether a line sets the default precision of floats. -/
def setsFloatPrecision (line : Text) : Bool :=
  let line := trim line
  "precision ".toList.isPrefixOf line
    && " float".toList.isSuffixOf (trimEnd (trimEndWhile (· == ';') line))

/-- Whether some line of the source sets the default precision of floats. -/
def hasDefaultFloatPrecision (source : Text) : Bool := (lines source).any setsFloatPrecision

/-- The default precisions given to a fragment shader that sets none. -/
def precisionPreamble : Text := "precision mediump float;\nprecision mediump int;\n".toList

/-- The source with default precisions, if it does not set one for floats itself. -/
def ensureFragmentPrecision (source : Text) : Text :=
  if hasDefaultFloatPrecision source then source
  else insertAfterVersion source precisionPreamble

end GlBridge.Glsl
