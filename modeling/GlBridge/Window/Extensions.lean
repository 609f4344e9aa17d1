import GlBridge.Text.Blank

/-!
# Extensions

The extensions that applications are told of: those of the platform, then the bridge's own.
-/

namespace GlBridge.Window

open Text

/-- The bridge's own extensions. -/
def ownExtensions : List Text :=
  ["GLX_ARB_create_context".toList, "GLX_ARB_create_context_profile".toList,
    "GLX_ARB_get_proc_address".toList]

/-- All extensions, given the platform's. -/
def extensionsText (platform : Text) : Text := join [' '] (asciiWords platform ++ ownExtensions)

end GlBridge.Window
