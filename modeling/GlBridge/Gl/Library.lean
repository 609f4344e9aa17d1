import GlBridge.Settings.Options

/-!
# Native libraries

The native side comes in two libraries, one for the window system and one for drawing.  Options
name them; otherwise a few usual names are tried.  Without the window system functions that every
session needs the libraries are of no use.

* `libraryCandidates` — the names to try;
* `loadLibraries` — finding both libraries and the functions needed, or why that fails.
-/

namespace GlBridge.Gl

/-- The names to try for a library: the configured one alone, or else the usual ones. -/
def libraryCandidates (configured : Option Text) (usual : List Text) : List Text :=
  match configured with
  | some name => [name]
  | none => usual

/-- The usual names of the window system library. -/
def usualWindowLibraries : List Text := ["libEGL.so.1".toList, "libEGL.so".toList]

/-- The usual names of the drawing library. -/
def usualDrawingLibraries : List Text := ["libGLESv2.so.2".toList, "libGLESv2.so".toList]

/-- The window system functions that every session needs. -/
def requiredFunctions : List Text :=
  ["eglGetDisplay".toList, "eglInitialize".toList, "eglChooseConfig".toList,
    "eglGetConfigAttrib".toList, "eglBindAPI".toList, "eglCreateContext".toList,
    "eglDestroyContext".toList, "eglCreateWindowSurface".toList,
    "eglCreatePbufferSurface".toList, "eglDestroySurface".toList, "eglMakeCurrent".toList,
    "eglSwapBuffers".toList, "eglQueryString".toList]

/-- Why the libraries cannot be used. -/
inductive LoadError where
  /-- No candidate can be opened; each comes with the system's reason. -/
  | notOpened (failures : List (Text × Text))
  | missingFunction (name : Text)
deriving DecidableEq, Repr

namespace LoadError

/-- The words for an error. -/
def message : LoadError → Text
  | notOpened failures =>
    "Couldn't load any of: ".toList
      ++ Text.join "; ".toList (failures.map fun (name, reason) => name ++ ": ".toList ++ reason)
  | missingFunction name => "Required EGL function ".toList ++ name ++ " is missing".toList

end LoadError

/-- Opening the first candidate that can be opened. -/
def openFirst (tryOpen : Text → Except Text Unit) (failures : List (Text × Text)) :
    List Text → Except LoadError Unit
  | [] => .error (.notOpened failures)
  | name :: names =>
    match tryOpen name with
    | .ok () => .ok ()
    | .error reason => openFirst tryOpen (failures ++ [(name, reason)]) names

/-- Finding the libraries and the functions needed.  `tryOpen` opens a library, `provides` says
which functions the libraries then have. -/
def loadLibraries (options : Options) (tryOpen : Text → Except Text Unit)
    (provides : Text → Bool) : Except LoadError Unit := do
  openFirst tryOpen [] (libraryCandidates options.eglLibrary usualWindowLibraries)
  openFirst tryOpen [] (libraryCandidates options.glesLibrary usualDrawingLibraries)
  match requiredFunctions.find? (!provides ·) with
  | some name => throw (.missingFunction name)
  | none => return ()

end GlBridge.Gl
