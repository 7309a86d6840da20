import AdminShell.Files.Tree

/-! # File systems

`FileSystem m` is what the checker and the command line need from a file system, in a
monad `m`: the kind of what a path names, a file's text, the names in a directory, and
writing a file. Paths are texts as a user gives them, relative to the working directory.
A tree held in memory is a file system in the state monad over it; the command line's
outer layer gives the real one.
-/

namespace AdminShell.Files

/-- The operations on files that checking and the command line use. -/
class FileSystem (m : Type → Type) where
  kindAt : String → m (Except IoError EntryKind)
  readText : String → m (Except IoError String)
  list : String → m (Except IoError (List String))
  write : String → String → m (Except IoError Unit)

instance : FileSystem (StateM FileTree) where
  kindAt p := do pure ((← get).kindAt p)
  readText p := do pure ((← get).readText p)
  list p := do pure ((← get).list p)
  write p text := do
    match (← get).write p text with
    | .ok t => set t; pure (.ok ())
    | .error e => pure (.error e)

end AdminShell.Files
