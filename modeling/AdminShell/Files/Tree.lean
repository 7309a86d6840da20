import AdminShell.Files.Path

/-! # Trees of files

A `FileTree` is a directory held in memory: each entry is a path of names from the top
and either a file with its text or a directory, or one of them that refuses to be read with
the error the system gives. `FileTree.resolve` follows a path's text
the way a system does, name by name from the top: a name under a file is refused as not a
directory, a missing name as not found, and `..` above the top leaves the tree. A text
that ends in a slash must name a directory.
-/

namespace AdminShell.Files

inductive EntryKind where
  | file
  | directory
  | other
  deriving DecidableEq, Repr

inductive IoError where
  | os (code : Nat)
  | invalidText
  deriving DecidableEq, Repr

namespace IoError

def notFound : IoError := .os 2

def notADirectory : IoError := .os 20

def isADirectory : IoError := .os 21

def describe : Nat → String
  | 1 => "Operation not permitted"
  | 2 => "No such file or directory"
  | 5 => "Input/output error"
  | 13 => "Permission denied"
  | 17 => "File exists"
  | 20 => "Not a directory"
  | 21 => "Is a directory"
  | 22 => "Invalid argument"
  | 24 => "Too many open files"
  | 28 => "No space left on device"
  | 30 => "Read-only file system"
  | 36 => "File name too long"
  | 40 => "Too many levels of symbolic links"
  | n => "Unknown error " ++ toString n

def message : IoError → String
  | .os code => describe code ++ " (os error " ++ toString code ++ ")"
  | .invalidText => "stream did not contain valid UTF-8"

end IoError

/-- An entry of a tree: a file with its text, or a directory. A file whose text or a directory
whose names the system refuses to read keeps the error it refuses with; what a path names, and
writing, go by its kind alone. -/
inductive Entry where
  | file (text : String)
  | directory
  | unreadableFile (error : IoError)
  | unlistableDirectory (error : IoError)
  deriving DecidableEq, Repr

def Entry.kind : Entry → EntryKind
  | .file _ | .unreadableFile _ => .file
  | .directory | .unlistableDirectory _ => .directory

/-- A directory held in memory: paths from its top, each a file or a directory, and the
absolute path of its top, under which absolute paths reach into it (empty when none does). -/
structure FileTree where
  entries : List (List String × Entry)
  location : String := ""
  deriving Inhabited

namespace FileTree

def empty : FileTree := ⟨[], ""⟩

def find? (t : FileTree) : List String → Option Entry
  | [] => some .directory
  | names => (t.entries.find? (fun e => e.1 == names)).map Prod.snd

def names (t : FileTree) (dir : List String) : List String :=
  t.entries.filterMap fun e =>
    match e.1.splitAt dir.length with
    | (front, [n]) => if front == dir then some n else none
    | _ => none

def set (t : FileTree) (names : List String) (e : Entry) : FileTree :=
  if t.entries.any (fun x => x.1 == names) then
    { t with entries := t.entries.map fun x => if x.1 == names then (names, e) else x }
  else { t with entries := t.entries ++ [(names, e)] }

def addDirectory (t : FileTree) (names : List String) : FileTree :=
  (List.range names.length).foldl
    (fun acc i =>
      let p := names.take (i + 1)
      if (acc.find? p).isSome then acc else acc.set p .directory)
    t

def addFile (t : FileTree) (names : List String) (text : String) : FileTree :=
  (t.addDirectory names.dropLast).set names (.file text)

def namesOf (p : String) : List String :=
  (p.splitOn "/").filter (fun s => !s.isEmpty && s != ".")

def localPath? (t : FileTree) (p : String) : Option String :=
  if !t.location.isEmpty && p == t.location then some "."
  else if !t.location.isEmpty && p.startsWith (t.location ++ "/") then
    let rest := (p.drop (t.location.length + 1)).toString
    some (if rest.isEmpty then "." else rest)
  else if p.isEmpty || p.startsWith "/" then none
  else some p

def enter (t : FileTree) (acc : Except IoError (Option (List String))) (segment : String) :
    Except IoError (Option (List String)) := do
  match ← acc with
  | none => pure none
  | some here =>
    match (t.find? here).map Entry.kind with
    | some .file => throw .notADirectory
    | _ =>
      if segment.isEmpty || segment == "." then pure (some here)
      else if segment == ".." then
        if here.isEmpty then pure none else pure (some here.dropLast)
      else
        match t.find? (here ++ [segment]) with
        | some _ => pure (some (here ++ [segment]))
        | none => throw .notFound

def resolve (t : FileTree) (path : String) : Except IoError (List String) := do
  let p ← match t.localPath? path with
    | some q => pure q
    | none => throw .notFound
  match ← (p.splitOn "/").foldl t.enter (.ok (some [])) with
  | none => throw .notFound
  | some names =>
    if p.endsWith "/" then
      match (t.find? names).map Entry.kind with
      | some .file => throw .notADirectory
      | _ => pure names
    else pure names

def kindAt (t : FileTree) (p : String) : Except IoError EntryKind := do
  let names ← t.resolve p
  match t.find? names with
  | some e => pure e.kind
  | none => throw .notFound

def readText (t : FileTree) (p : String) : Except IoError String := do
  let names ← t.resolve p
  match t.find? names with
  | some (.file text) => pure text
  | some .directory => throw .isADirectory
  | some (.unreadableFile e) | some (.unlistableDirectory e) => throw e
  | none => throw .notFound

def list (t : FileTree) (p : String) : Except IoError (List String) := do
  let names ← t.resolve p
  match t.find? names with
  | some .directory => pure (t.names names)
  | some (.unlistableDirectory e) => throw e
  | some (.file _) | some (.unreadableFile _) => throw .notADirectory
  | none => throw .notFound

def write (t : FileTree) (path : String) (text : String) : Except IoError FileTree := do
  let p ← match t.localPath? path with
    | some q => pure q
    | none => throw .notFound
  let trailing := p.endsWith "/"
  let p := String.ofList (p.toList.reverse.dropWhile (· == '/')).reverse
  let segments := p.splitOn "/"
  let dirText := "/".intercalate segments.dropLast
  let dir ← if segments.length ≤ 1 then pure [] else t.resolve (dirText ++ "/")
  match (t.find? dir).map Entry.kind with
  | some .directory => pure ()
  | some _ => throw .notADirectory
  | none => throw .notFound
  let last := segments.getLastD ""
  if trailing || last == "." || last == ".." then throw .isADirectory
  match (t.find? (dir ++ [last])).map Entry.kind with
  | some .directory => throw .isADirectory
  | _ => pure (t.set (dir ++ [last]) (.file text))

end FileTree

end AdminShell.Files
