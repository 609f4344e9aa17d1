import GlBridge.System.Path
import GlBridge.Text.Decimal

/-!
# Options

A library has no command line, so its options are variables of the environment.  Each variable has
one of three grammars: a text, a flag, or a number.  A value that is not in its grammar leaves the
options as they were.

* `Options.apply` — setting one variable;
* `Options.ofLookup` — the options of an environment, together with the variables asked for.
-/

namespace GlBridge

/-- The options a user can set. -/
structure Options where
  /-- The library with the window system functions. -/
  eglLibrary : Option Text := none
  /-- The library with the drawing functions. -/
  glesLibrary : Option Text := none
  /-- Whether shaders are translated in full. -/
  translateShaders : Bool := true
  /-- Whether linked programs are kept. -/
  shaderCache : Bool := true
  /-- Where linked programs are kept. -/
  cacheDirectory : Option Path := none
  /-- Whether frames are always rendered off screen. -/
  forcePbuffer : Bool := false
  /-- The major version asked for in every context. -/
  glesMajor : Int := 3
deriving DecidableEq, Repr

/-- The variables that set options. -/
inductive Variable where
  | eglLibrary
  | glesLibrary
  | translate
  | shaderCache
  | cacheDirectory
  | forcePbuffer
  | glesMajor
deriving DecidableEq, Repr

namespace Variable

/-- Every variable, in the order they are asked for. -/
def all : List Variable :=
  [eglLibrary, glesLibrary, translate, shaderCache, cacheDirectory, forcePbuffer, glesMajor]

/-- The name of a variable in the environment. -/
def name : Variable → Text
  | eglLibrary => "LIBGL_EGL".toList
  | glesLibrary => "LIBGL_GLES".toList
  | translate => "GLXES_TRANSLATE".toList
  | shaderCache => "GLXES_SHADER_CACHE".toList
  | cacheDirectory => "GLXES_CACHE_DIR".toList
  | forcePbuffer => "GLXES_FORCE_PBUFFER".toList
  | glesMajor => "GLXES_GLES_MAJOR".toList

/-- The variable of a name. -/
def ofName? (name : Text) : Option Variable := all.find? (·.name == name)

end Variable

/-- Why a value is refused. -/
inductive OptionError where
  | notABoolean (key : Variable)
  | invalidNumber (key : Variable)
  | outOfRange (key : Variable)
  | emptyCacheDirectory
deriving DecidableEq, Repr

namespace OptionError

/-- What is said of a refused value. -/
def message : OptionError → Text
  | notABoolean v => "Value for ".toList ++ v.name ++ " is not a boolean".toList
  | invalidNumber v => "Value for ".toList ++ v.name ++ " is invalid".toList
  | outOfRange v => "Value for ".toList ++ v.name ++ " is out of range".toList
  | emptyCacheDirectory => "Cache directory is empty".toList

end OptionError

namespace Options

/-- The words for a flag that is set. -/
def setWords : List Text := ["1".toList, "true".toList, "yes".toList, "on".toList]

/-- The words for a flag that is not set. -/
def clearWords : List Text := ["0".toList, "false".toList, "no".toList, "off".toList]

/-- The value of a flag. -/
def readFlag (key : Variable) (value : Text) : Except OptionError Bool :=
  if setWords.contains value then .ok true
  else if clearWords.contains value then .ok false
  else .error (.notABoolean key)

/-- The major versions that can be asked for. -/
def readMajor (value : Text) : Except OptionError Int :=
  match Text.signed32? value with
  | none => .error (.invalidNumber .glesMajor)
  | some major => if 2 ≤ major ∧ major ≤ 3 then .ok major else .error (.outOfRange .glesMajor)

/-- Setting a variable that is known. -/
def set (options : Options) (key : Variable) (value : Text) : Except OptionError Options :=
  match key with
  | .eglLibrary => .ok { options with eglLibrary := some value }
  | .glesLibrary => .ok { options with glesLibrary := some value }
  | .translate => do return { options with translateShaders := ← readFlag key value }
  | .shaderCache => do return { options with shaderCache := ← readFlag key value }
  | .cacheDirectory =>
    if value = [] then .error .emptyCacheDirectory
    else .ok { options with cacheDirectory := some value }
  | .forcePbuffer => do return { options with forcePbuffer := ← readFlag key value }
  | .glesMajor => do return { options with glesMajor := ← readMajor value }

/-- Setting a variable by its name.  The result says whether there is such a variable, or why the
value is refused. -/
def apply (options : Options) (name value : Text) : Except OptionError Bool × Options :=
  match Variable.ofName? name with
  | none => (.ok false, options)
  | some key =>
    match options.set key value with
    | .ok options => (.ok true, options)
    | .error e => (.error e, options)

/-- The options that an environment sets.  Refused values are passed over. -/
def ofLookup (lookup : Text → Option Text) : Options :=
  Variable.all.foldl
    (fun options key =>
      match lookup key.name with
      | none => options
      | some value => (options.apply key.name value).2)
    {}

end Options

/-- Where linked programs are kept below a home directory. -/
def cacheSubdirectory : Path := ".cache/glxes".toList

/-- Where linked programs are kept if no option says so: below the home directory, if there is
one. -/
def defaultCacheDirectory (home : Option Path) : Option Path :=
  (home.filter (· ≠ [])).map (Path.join · cacheSubdirectory)

end GlBridge
