import GlBridge.Text.Blank

/-!
# Debugging modules

Messages for debugging are printed for the modules that a comma-separated list names.  A module
named there stands for its submodules too, and the word `all` for every module.
-/

namespace GlBridge.DebugModules

open Text

/-- The modules that a list names. -/
def parse (list : Text) : List Text := ((splitOn ',' list).map trim).filter (· ≠ [])

/-- Whether an entry of the list stands for a module. -/
def covers (entry module : Text) : Bool :=
  entry == "all".toList || module == entry
    || match dropPrefix? entry module with
      | some rest => [':', ':'].isPrefixOf rest
      | none => false

/-- Whether messages of a module are wanted. -/
def isEnabled (entries : List Text) (module : Text) : Bool := entries.any (covers · module)

end GlBridge.DebugModules
