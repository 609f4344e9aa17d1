import GlBridge.Digest.Sha256
import GlBridge.Program.Binary
import GlBridge.System.Files

/-!
# The program cache

Linked programs are kept in a directory, one file for each, named by the digest of what the
program was made from.  An entry is written to a temporary file of this process and then renamed
into place, so that a reader finds a whole entry or none.  Entries are never trusted: one that is
too short, or that the driver rejects, is removed.

* `ProgramCache.read`, `write`, `remove` — the entry of a key;
* `ProgramCache.load` — linking a program from an entry;
* `ProgramCache.save` — making an entry from a linked program.
-/

namespace GlBridge

/-- A directory of linked programs. -/
structure ProgramCache where
  directory : Path
  /-- The number of the process that writes. -/
  process : Nat
deriving DecidableEq, Repr

namespace ProgramCache

/-- Using a directory, which is made if need be. -/
def openAt (files : Files) (directory : Path) (process : Nat) :
    Except Text ProgramCache × Files :=
  let (result, files) := files.ensureDirectory directory
  (result.map fun _ => { directory, process }, files)

/-- The path of a key's entry. -/
def entryPath (cache : ProgramCache) (key : Digest) : Path := Path.join cache.directory key.toHex

/-- The path of the file that an entry is first written to. -/
def temporaryPath (cache : ProgramCache) (key : Digest) : Path :=
  Path.join cache.directory (key.toHex ++ '.' :: Text.ofNat cache.process ++ ".tmp".toList)

/-- Removing an entry, if it is there. -/
def remove (cache : ProgramCache) (key : Digest) (files : Files) : Files :=
  (files.remove (cache.entryPath key)).2

/-- Reading an entry.  One that is too short is removed. -/
def read (cache : ProgramCache) (key : Digest) (files : Files) : Option ProgramBinary × Files :=
  match files.read (cache.entryPath key) with
  | .error _ => (none, files)
  | .ok bytes =>
    match ProgramBinary.decode? bytes with
    | some binary => (some binary, files)
    | none => (none, cache.remove key files)

/-- Filling a file with bytes. -/
def fill (files : Files) (path : Path) (bytes : Bytes) : Except FileError Unit × Files :=
  match files.create path with
  | (.error e, files) => (.error e, files)
  | (.ok (), files) => files.append path bytes

/-- Writing an entry under its temporary name and giving it its own. -/
def publish (cache : ProgramCache) (key : Digest) (binary : ProgramBinary) (files : Files) :
    Except FileError Unit × Files :=
  match fill files (cache.temporaryPath key) binary.encode with
  | (.error e, files) => (.error e, files)
  | (.ok (), files) => files.rename (cache.temporaryPath key) (cache.entryPath key)

/-- Writing an entry.  If that fails the temporary file is removed. -/
def write (cache : ProgramCache) (key : Digest) (binary : ProgramBinary) (files : Files) :
    Except Text Unit × Files :=
  match cache.publish key binary files with
  | (.ok (), files) => (.ok (), files)
  | (.error e, files) =>
    (.error ("Couldn't write ".toList ++ cache.entryPath key ++ ": ".toList ++ e.message),
      (files.remove (cache.temporaryPath key)).2)

/-- Linking a program from an entry, and whether the driver accepted it.  An entry it rejects is
removed. -/
def load (driver : ProgramDriver σ) (cache : ProgramCache) (key : Digest) (program : Nat)
    (files : Files) (state : σ) : Bool × Files × σ :=
  match cache.read key files with
  | (none, files) => (false, files, state)
  | (some binary, files) =>
    match driver.load program binary state with
    | (true, state) => (true, files, state)
    | (false, state) => (false, cache.remove key files, state)

/-- Making an entry from a linked program, if the driver has a binary of it that is not empty. -/
def save (driver : ProgramDriver σ) (cache : ProgramCache) (key : Digest) (program : Nat)
    (files : Files) (state : σ) : Files × σ :=
  match driver.binary? program state with
  | (none, state) => (files, state)
  | (some binary, state) =>
    if binary.blob = [] then (files, state) else ((cache.write key binary files).2, state)

end ProgramCache
end GlBridge
