import GlBridge.Text.Blank
import GlBridge.Text.Decimal
import GlBridge.Text.Lines

/-!
# The version directive

The first line that reads `#version`, blanks before and after the `#` allowed, is a source's
version directive.  Finding it cuts the source into the part before the line, the line with its
line end, and the part after it.  A directive counts even inside a comment: lines are all these
passes know of a source.

* `VersionDirective.find?` — the directive of a source;
* `VersionDirective.isLegacy` — whether it names a version without `in` and `out` qualifiers;
* `insertAfterVersion` — a source with a line inserted after the directive;
* `normalizeVersion` — a source whose first line is a given directive.
-/

namespace GlBridge.Glsl

open Text

/-- A source cut at its version directive. -/
structure VersionDirective where
  /-- The source before the line. -/
  before : Text
  /-- The line, with its line feed if it has one. -/
  line : Text
  /-- The source after the line. -/
  after : Text
  /-- The version number, 0 if none can be read. -/
  version : Nat
  /-- Whether the directive asks for the embedded language. -/
  es : Bool
deriving DecidableEq, Repr

namespace VersionDirective

/-- What follows `#version` on a line, if the line is a version directive. -/
def arguments? (line : Text) : Option Text :=
  ((dropPrefix? ['#'] (trimStart line)).map trimStart).bind fun rest =>
    (dropPrefix? "version".toList rest).filter fun arguments =>
      match arguments with
      | [] => true
      | c :: _ => isBlank c

/-- The directive among lines that come after the text `before`. -/
def findIn (before : Text) : List Text → Option VersionDirective
  | [] => none
  | line :: others =>
    match arguments? line with
    | none => findIn (before ++ line) others
    | some arguments =>
      let words := words arguments
      some {
        before := before
        line := line
        after := others.flatten
        version := (words.head?.bind word32?).getD 0
        es := words[1]? == some "es".toList }

/-- The version directive of a source. -/
def find? (source : Text) : Option VersionDirective := findIn [] (inclusiveLines source)

/-- Whether the version is older than the `in` and `out` storage qualifiers. -/
def isLegacy (directive : VersionDirective) : Bool :=
  if directive.es then directive.version < 300 else directive.version < 130

end VersionDirective

/-- The source with `insertion` put on the line after the version directive, or at the very start
if there is none.  A directive that ends the source without a line feed gets one. -/
def insertAfterVersion (source insertion : Text) : Text :=
  match VersionDirective.find? source with
  | none => insertion ++ source
  | some directive =>
    let upTo := directive.before ++ directive.line
    upTo ++ (if upTo.getLast? = some '\n' then [] else ['\n']) ++ insertion ++ directive.after

/-- The source with its version directive taken out and `directive` put on the first line. -/
def normalizeVersion (source directive : Text) : Text :=
  directive ++ '\n' ::
    match VersionDirective.find? source with
    | none => source
    | some found => found.before ++ found.after

end GlBridge.Glsl
