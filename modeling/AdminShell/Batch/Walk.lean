import AdminShell.Files.System
import AdminShell.Settings.Basic

/-! # Walking a tree of documents

`walk` lists what a batch check visits under a root, depth first, the names inside each
directory in byte order, so a directory `a` comes before a file `a.json` and its contents
come right after it. The root itself is never skipped; below it a path is skipped, with
everything under it, when its path relative to the root begins with an ignored path. A
file is visited when its extension is a checked one. A root or directory that cannot be
read is visited as a failure at its place.
-/

namespace AdminShell.Batch

open Files

/-- What a walk reaches: a document to check, at its path and its path relative to the
root, or a place that could not be read, with the path it was read by. -/
inductive Visit where
  | document (path relative : String)
  | unreadable (relative path : String) (error : IoError)
  deriving DecidableEq, Repr

def sortNames (names : List String) : List String :=
  names.mergeSort (fun a b => decide (a ≤ b))

def rootName (root : String) : String :=
  (Path.fileName? root).getD root

def walkDirectory {m : Type → Type} [Monad m] [FileSystem m] (settings : CheckSettings) :
    Nat → String → List String → m (List Visit)
  | 0, _, _ => pure []
  | fuel + 1, dir, relative => do
    match ← FileSystem.list dir with
    | .error e =>
      let label := if relative.isEmpty then rootName dir else Path.ofNames relative
      pure [.unreadable label dir e]
    | .ok names =>
      let visitName (name : String) : m (List Visit) := do
        let path := Path.join dir name
        let below := relative ++ [name]
        if settings.isIgnored (Path.ofNames below) then return []
        match ← FileSystem.kindAt path with
        | .ok .directory => walkDirectory settings fuel path below
        | .ok .file =>
          if settings.matchesExtension path then return [.document path (Path.ofNames below)]
          else return []
        | _ => return []
      let visits ← (sortNames names).mapM visitName
      pure visits.flatten

def walk {m : Type → Type} [Monad m] [FileSystem m] (settings : CheckSettings) (fuel : Nat)
    (root : String) : m (List Visit) := do
  match ← FileSystem.kindAt root with
  | .error e => pure [.unreadable (rootName root) root e]
  | .ok .directory => walkDirectory settings fuel root []
  | .ok .file =>
    if settings.matchesExtension root then pure [.document root (rootName root)] else pure []
  | .ok .other => pure []

end AdminShell.Batch
