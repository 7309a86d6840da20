/-! # Slash-separated paths

A path names a file by components. `Path.parts` reads them from the text: a leading slash
is the root, a leading `.` that stands alone or before a slash is the current directory,
`..` is the parent, and the other segments are names, empty segments and inner `.` being
dropped. Two paths are compared by their components, so `drafts/` and `./drafts` differ
only where the current directory is written, and `drafts` is no prefix of `draftsman`.

A file's extension is what follows the last dot of its name, provided something stands
before that dot: `.json` has none, `x.json.bak` has `bak`, and `a.` has the empty one.
-/

namespace AdminShell.Files

/-- A component of a path. -/
inductive PathPart where
  | root
  | current
  | parent
  | name (text : String)
  deriving DecidableEq, Repr

def PathPart.ofSegment? : String → Option PathPart
  | "" => none
  | "." => none
  | ".." => some .parent
  | s => some (.name s)

namespace Path

def parts (p : String) : List PathPart :=
  let body (segments : List String) := segments.filterMap PathPart.ofSegment?
  match p.splitOn "/" with
  | "" :: rest => if p.startsWith "/" then .root :: body rest else body rest
  | "." :: rest => .current :: body rest
  | segments => body segments

def fileName? (p : String) : Option String :=
  match (parts p).getLast? with
  | some (.name s) => some s
  | _ => none

def extensionOfName? (name : String) : Option String :=
  let cs := name.toList
  let after := (cs.reverse.takeWhile (· ≠ '.')).reverse
  if after.length = cs.length then none
  else if after.length + 1 = cs.length then none
  else some (String.ofList after)

def extension? (p : String) : Option String :=
  (fileName? p).bind extensionOfName?

def startsWith (p base : String) : Bool :=
  (parts base).isPrefixOf (parts p)

def join (p name : String) : String :=
  if p.isEmpty || p.endsWith "/" then p ++ name else p ++ "/" ++ name

def ofNames (names : List String) : String :=
  "/".intercalate names

def dropTrailingCurrent : List Char → List Char
  | '/' :: rest => dropTrailingCurrent rest
  | '.' :: '/' :: rest => dropTrailingCurrent rest
  | cs => cs

def withExtension (p ext : String) : String :=
  match fileName? p with
  | none => p
  | some name =>
    let stem := match extensionOfName? name with
      | some e => String.ofList (name.toList.take (name.length - e.length - 1))
      | none => name
    let dir := ((dropTrailingCurrent p.toList.reverse).dropWhile (· != '/')).reverse
    String.ofList dir ++ stem ++ "." ++ ext

def partText : PathPart → String
  | .root => ""
  | .current => "."
  | .parent => ".."
  | .name s => s

def ofParts : List PathPart → String
  | .root :: rest => "/" ++ "/".intercalate (rest.map partText)
  | ps => "/".intercalate (ps.map partText)

def diffParts : List PathPart → List PathPart → List PathPart → Option (List PathPart)
  | [], [], acc => some acc
  | a :: ra, [], acc => some (acc ++ a :: ra)
  | [], _ :: rb, acc => diffParts [] rb (acc ++ [.parent])
  | a :: ra, b :: rb, acc =>
    if acc.isEmpty && a == b then diffParts ra rb acc
    else if b == .current then diffParts ra rb (acc ++ [a])
    else if b == .parent then none
    else some (acc ++ [.parent] ++ rb.map (fun _ => .parent) ++ [a] ++ ra)

def relativeTo? (p base : String) : Option String :=
  let pa := parts p
  let pb := parts base
  let absolute := fun (ps : List PathPart) => ps.head? == some PathPart.root
  if absolute pa != absolute pb then (if absolute pa then some p else none)
  else (diffParts pa pb []).map ofParts

end Path

end AdminShell.Files
