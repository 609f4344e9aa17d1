import GlBridge.Program.Cache
import GlBridge.Program.Objects
import GlBridge.Settings.Options
import GlBridge.Translator

/-!
# The state of shaders

What the calls that deal with shaders and programs share: the records of the objects, the
translator, and the program cache, if there is one.
-/

namespace GlBridge

/-- The state that shader calls share. -/
structure ShaderState where
  objects : ShaderObjects := {}
  translator : Translator
  cache : Option ProgramCache := none
deriving DecidableEq, Repr

namespace ShaderState

/-- The cache that options ask for.  There is none if the options turn it off, if there is no
place for it, or if its directory cannot be made. -/
def openCache (options : Options) (home : Option Path) (process : Nat) (files : Files) :
    Option ProgramCache × Files :=
  if options.shaderCache then
    match options.cacheDirectory.or (defaultCacheDirectory home) with
    | none => (none, files)
    | some directory =>
      let (result, files) := ProgramCache.openAt files directory process
      (result.toOption, files)
  else (none, files)

/-- The state that options ask for. -/
def ofOptions (options : Options) (home : Option Path) (process : Nat) (files : Files) :
    ShaderState × Files :=
  let (cache, files) := openCache options home process files
  ({ translator := { mode := if options.translateShaders then .full else .textOnly }, cache },
    files)

/-- A new source for a shader, and the text that the driver gets.  The source of a shader whose
stage is unknown is passed on as it is. -/
def setSource (compiler : Compiler) (state : ShaderState) (shader : Nat) (source : Text) :
    Except Overflow (Text × ShaderState) :=
  let state := { state with objects := state.objects.setSource shader source }
  match state.objects.stage? shader with
  | none => .ok (source, state)
  | some stage => do
    let (text, translator) ← state.translator.translate compiler stage source
    return (text, { state with translator })

/-- The cache, and the key of a program in it. -/
def cacheKey? (state : ShaderState) (program : Nat) : Option (ProgramCache × Digest) := do
  return (← state.cache, ← state.objects.programKey? program)

/-- Linking a program from the cache, and whether that succeeds. -/
def loadProgram (driver : ProgramDriver σ) (state : ShaderState) (program : Nat) (files : Files)
    (native : σ) : Bool × Files × σ :=
  match state.cacheKey? program with
  | none => (false, files, native)
  | some (cache, key) => cache.load driver key program files native

/-- Storing a linked program in the cache. -/
def saveProgram (driver : ProgramDriver σ) (state : ShaderState) (program : Nat) (files : Files)
    (native : σ) : Files × σ :=
  match state.cacheKey? program with
  | none => (files, native)
  | some (cache, key) => cache.save driver key program files native

end ShaderState
end GlBridge
