import GlBridge.System.Path
import GlBridge.Text.Utf8

/-!
# Files

The part of the file system that the bridge works in: a tree of directories and files, reached by
paths from its root.  Every operation says what goes wrong, in the words of the system's messages.
What goes wrong for reasons outside the tree, a full disk say, is given by `Files.faults`, of which
every operation that changes a file takes the next entry.

* `FileError.message` — the system's words for an error;
* `Files.resolve` — where a path leads;
* `Files.makeDirectory`, `Files.read`, `Files.create`, `Files.append`, `Files.rename`,
  `Files.remove` — the operations, each in one step.
-/

namespace GlBridge

/-- Why a file operation fails. -/
inductive FileError where
  | notFound
  | denied
  | alreadyExists
  | notADirectory
  | isADirectory
  | noSpace
  | nameTooLong
  | invalidPath
deriving DecidableEq, Repr

namespace FileError

/-- The system's message for an error. -/
def message : FileError → Text
  | notFound => "No such file or directory (os error 2)".toList
  | denied => "Permission denied (os error 13)".toList
  | alreadyExists => "File exists (os error 17)".toList
  | notADirectory => "Not a directory (os error 20)".toList
  | isADirectory => "Is a directory (os error 21)".toList
  | noSpace => "No space left on device (os error 28)".toList
  | nameTooLong => "File name too long (os error 36)".toList
  | invalidPath => "file name contained an unexpected NUL byte".toList

end FileError

/-- What a place in the tree holds. -/
inductive Node where
  | directory
  | file (content : Bytes)
deriving DecidableEq, Repr

/-- A place in the tree: the names from the root to it. -/
abbrev Place := List Text

/-- The tree of files. -/
structure Files where
  /-- Every place below the root that holds something. -/
  nodes : List (Place × Node) := []
  /-- What goes wrong with the coming changes, if anything. -/
  faults : List (Option FileError) := []
deriving DecidableEq, Repr

namespace Files

/-- What a place holds.  The root is a directory. -/
def node? (files : Files) (place : Place) : Option Node :=
  if place = [] then some .directory else files.nodes.lookup place

/-- The tree with something put at a place. -/
def put (files : Files) (place : Place) (node : Node) : Files :=
  { files with nodes := files.nodes.filter (·.1 ≠ place) ++ [(place, node)] }

/-- The tree with nothing at a place. -/
def clear (files : Files) (place : Place) : Files :=
  { files with nodes := files.nodes.filter (·.1 ≠ place) }

/-- The longest name a directory can hold, in bytes. -/
def nameLimit : Nat := 255

/-- Walking through names from a place.  All but the last must lead to directories; the last need
not exist. -/
def walk (files : Files) (place : Place) : List Text → Except FileError Place
  | [] => .ok place
  | name :: rest =>
    match files.node? place with
    | none => .error .notFound
    | some (.file _) => .error .notADirectory
    | some .directory =>
      if name = ['.'] then walk files place rest
      else if name = ['.', '.'] then walk files place.dropLast rest
      else if Text.byteLength name > nameLimit then .error .nameTooLong
      else walk files (place ++ [name]) rest

/-- The place that a path leads to. -/
def resolve (files : Files) (path : Path) : Except FileError Place :=
  if '\x00' ∈ path then .error .invalidPath else files.walk [] path.names

/-- The fault that the next change meets, and the tree with that fault spent. -/
def nextFault (files : Files) : Option FileError × Files :=
  match files.faults with
  | [] => (none, files)
  | fault :: faults => (fault, { files with faults := faults })

/-- Whether a path leads to a directory. -/
def isDirectory (files : Files) (path : Path) : Bool :=
  match files.resolve path with
  | .ok place => files.node? place == some .directory
  | .error _ => false

/-- Making the last directory of a path. -/
def makeDirectory (files : Files) (path : Path) : Except FileError Unit × Files :=
  match files.resolve path with
  | .error e => (.error e, files)
  | .ok place =>
    match files.node? place with
    | some _ => (.error .alreadyExists, files)
    | none => (.ok (), files.put place .directory)

/-- The content of a file. -/
def read (files : Files) (path : Path) : Except FileError Bytes := do
  match files.node? (← files.resolve path) with
  | none => throw .notFound
  | some .directory => throw .isADirectory
  | some (.file content) => return content

/-- Making an empty file, or emptying the one that is there. -/
def create (files : Files) (path : Path) : Except FileError Unit × Files :=
  match files.resolve path with
  | .error e => (.error e, files)
  | .ok place =>
    match files.node? place, files.nextFault with
    | some .directory, _ => (.error .isADirectory, files)
    | _, (some e, files) => (.error e, files)
    | _, (none, files) => (.ok (), files.put place (.file []))

/-- Adding bytes at the end of a file. -/
def append (files : Files) (path : Path) (bytes : Bytes) : Except FileError Unit × Files :=
  match files.resolve path with
  | .error e => (.error e, files)
  | .ok place =>
    match files.node? place, files.nextFault with
    | none, _ => (.error .notFound, files)
    | some .directory, _ => (.error .isADirectory, files)
    | _, (some e, files) => (.error e, files)
    | some (.file content), (none, files) => (.ok (), files.put place (.file (content ++ bytes)))

/-- Giving a file another path, in place of the file that has it. -/
def rename (files : Files) (source target : Path) : Except FileError Unit × Files :=
  match files.resolve source, files.resolve target with
  | .error e, _ => (.error e, files)
  | _, .error e => (.error e, files)
  | .ok source, .ok target =>
    match files.node? source, files.node? target, files.nextFault with
    | none, _, _ => (.error .notFound, files)
    | some .directory, _, _ => (.error .isADirectory, files)
    | _, some .directory, _ => (.error .isADirectory, files)
    | _, _, (some e, files) => (.error e, files)
    | some (.file content), _, (none, files) =>
      (.ok (), (files.clear source).put target (.file content))

/-- Removing a file. -/
def remove (files : Files) (path : Path) : Except FileError Unit × Files :=
  match files.resolve path with
  | .error e => (.error e, files)
  | .ok place =>
    match files.node? place with
    | none => (.error .notFound, files)
    | some .directory => (.error .isADirectory, files)
    | some (.file _) => (.ok (), files.clear place)

/-- Removing a directory with all it holds. -/
def removeTree (files : Files) (path : Path) : Except FileError Unit × Files :=
  match files.resolve path with
  | .error e => (.error e, files)
  | .ok place =>
    match files.node? place with
    | none => (.error .notFound, files)
    | some (.file _) => (.error .notADirectory, files)
    | some .directory =>
      (.ok (), { files with nodes := files.nodes.filter fun (p, _) => !place.isPrefixOf p })

/-- All that is below a place, each with its path from there. -/
def below (files : Files) (place : Place) : List (Path × Node) :=
  files.nodes.filterMap fun (p, node) =>
    if place.isPrefixOf p ∧ p ≠ place then
      some (Text.join ['/'] (p.drop place.length), node)
    else none

/-! ## Setting up a tree -/

/-- The tree with a directory at a place, and at every place on the way. -/
def putDirectories (files : Files) (place : Place) : Files :=
  ((List.range place.length).map fun n => place.take (n + 1)).foldl
    (fun files p => if (files.node? p).isSome then files else files.put p .directory) files

/-- The tree with a file at a place, if a directory is there to hold it. -/
def putFile (files : Files) (path : Path) (content : Bytes) : Bool × Files :=
  match files.create path with
  | (.error _, _) => (false, files)
  | (.ok (), files) =>
    match files.append path content with
    | (.error _, files) => (false, files)
    | (.ok (), files) => (true, files)

/-- Making a directory whose parent may already exist: only the last name of the path is made. -/
def ensureDirectory (files : Files) (path : Path) : Except Text Unit × Files :=
  match files.makeDirectory path with
  | (.ok (), files) => (.ok (), files)
  | (.error e, files) =>
    if e = .alreadyExists ∧ files.isDirectory path then (.ok (), files)
    else (.error ("Couldn't create ".toList ++ path ++ ": ".toList ++ e.message), files)

end Files
end GlBridge
