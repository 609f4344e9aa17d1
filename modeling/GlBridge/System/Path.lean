import GlBridge.Text.Basic

/-!
# Paths

A path is a text whose names are separated by slashes.  `Path.join` puts a path below another one,
and `Path.names` reads off the names to walk through.
-/

namespace GlBridge

/-- A path of the file system. -/
abbrev Path := Text

namespace Path

/-- The path `below`, taken from the directory `base`.  A path that starts with a slash stands for
itself. -/
def join (base below : Path) : Path :=
  if below.head? = some '/' then below
  else if base.isEmpty ∨ base.getLast? = some '/' then base ++ below
  else base ++ '/' :: below

/-- The names of a path, in order.  Slashes next to each other count as one. -/
def names (path : Path) : List Text := (Text.splitOn '/' path).filter (· ≠ [])

end Path
end GlBridge
