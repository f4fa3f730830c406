/-!
# Access to files

What the program does with files, as a record of operations. The same code then runs on the files of
a machine and on a `FileTree`.
-/

namespace LtiLaunch

/-- A point in time, in nanoseconds since the beginning of 1970. -/
abbrev Instant := Int

structure DirectoryEntry where
  name : String
  isFile : Bool
  modified : Instant
  deriving DecidableEq, Repr

structure FileReader (m : Type → Type) where
  /-- The text of a file, if it can be read and is text. -/
  read : String → m (Option String)
  isPresent : String → m Bool

structure Files (m : Type → Type) extends FileReader m where
  /-- Makes a directory with those above it, and says whether it is there now. -/
  makeDirectory : String → m Bool
  /-- The entries of a directory, if it can be listed. -/
  entries : String → m (Option (List DirectoryEntry))
  /-- Removes a file, and says whether that was possible. -/
  remove : String → m Bool

/-- The same access from a richer context. -/
def Files.lift {m n : Type → Type} [MonadLiftT m n] (f : Files m) : Files n where
  read path := f.read path
  isPresent path := f.isPresent path
  makeDirectory path := f.makeDirectory path
  entries path := f.entries path
  remove path := f.remove path

end LtiLaunch
