import AdminShell.Toml.Value
import AdminShell.Json.Node
import AdminShell.Number.Read
import AdminShell.Text.Case

/-! # Settings as their sources give them

Settings come in layers: files, then environment variables. Each layer gives a tree of
values, every part of it tagged with the name of its source, so that a value of the wrong
type can be reported with the file it came from. Parts made while the layers are joined
carry no source.

Layers are joined key by key. A key names a path: names joined by dots, with `[n]`
subscripts into arrays (a key that is not such a path names one entry). Setting a path
makes the tables and arrays on its way, replacing any value that stands where one is
needed. A table set under a single name is merged into the table there, key by key, so a
later file changes only the keys it gives; anything else replaces what was there.

An environment variable is a layer of one value: `true` or `false` in any case is a
boolean, then a 64-bit integer, then a float; a list key splits its text at commas;
anything else stays text.
-/

namespace AdminShell

/-- A settings value with the source of each of its parts. -/
inductive Sourced where
  | nil (origin : Option String)
  | boolean (origin : Option String) (b : Bool)
  | integer (origin : Option String) (i : Int)
  | float (origin : Option String) (x : Number.Double)
  | string (origin : Option String) (s : String)
  | array (origin : Option String) (items : List Sourced)
  | table (origin : Option String) (entries : List (String × Sourced))
  deriving Inhabited

namespace Sourced

def origin : Sourced → Option String
  | .nil o | .boolean o _ | .integer o _ | .float o _ | .string o _ | .array o _
  | .table o _ => o

def emptyTable : Sourced := .table none []

def asTable : Sourced → Option String × List (String × Sourced)
  | .table o entries => (o, entries)
  | _ => (none, [])

def asArray : Sourced → Option String × List Sourced
  | .array o items => (o, items)
  | _ => (none, [])

def lookup (entries : List (String × Sourced)) (key : String) : Option Sourced :=
  (entries.find? (·.1 == key)).map Prod.snd

def putEntry (entries : List (String × Sourced)) (key : String) (v : Sourced) :
    List (String × Sourced) :=
  if entries.any (·.1 == key) then entries.map (fun e => if e.1 == key then (key, v) else e)
  else entries ++ [(key, v)]

mutual
def ofToml (origin : Option String) : Toml.Value → Sourced
  | .string s => .string origin s
  | .integer i => .integer origin i
  | .float x => .float origin x
  | .boolean b => .boolean origin b
  | .datetime t => .string origin t
  | .array items => .array origin (ofTomlItems origin items)
  | .table entries => .table origin (ofTomlEntries origin entries)

def ofTomlItems (origin : Option String) : List Toml.Value → List Sourced
  | [] => []
  | v :: rest => ofToml origin v :: ofTomlItems origin rest

def ofTomlEntries (origin : Option String) : List (String × Toml.Value) → List (String × Sourced)
  | [] => []
  | (k, v) :: rest => (k, ofToml origin v) :: ofTomlEntries origin rest
end

def int64Max : Nat := 9223372036854775807

def ofJsonNumber (origin : Option String) : Json.Number → Sourced
  | .nat n => if n ≤ int64Max then .integer origin n
    else .float origin ⟨(Float.ofScientific n false 0).toBits⟩
  | .neg i => .integer origin i
  | .float x => .float origin ⟨x.toBits⟩

mutual
def ofJson (origin : Option String) : Json.Node → Sourced
  | .null => .nil origin
  | .bool b => .boolean origin b
  | .num n => ofJsonNumber origin n
  | .str s => .string origin s
  | .arr items _ => .array origin (ofJsonItems origin items)
  | .obj fields _ => .table origin (ofJsonFields origin fields [])
  | .bad _ => .nil origin

def ofJsonItems (origin : Option String) : List Json.Node → List Sourced
  | [] => []
  | v :: rest => ofJson origin v :: ofJsonItems origin rest

def ofJsonFields (origin : Option String) :
    List (String × Json.Node) → List (String × Sourced) → List (String × Sourced)
  | [], acc => acc
  | (k, v) :: rest, acc => ofJsonFields origin rest (putEntry acc k (ofJson origin v))
end

/-! ## Joining layers -/

mutual
def mergeKey (root : Sourced) (key : String) : Sourced → Sourced
  | .table _ incoming =>
    let (o, entries) := root.asTable
    let target := (lookup entries key).getD emptyTable
    .table o (putEntry entries key (mergeEntries target incoming))
  | v =>
    let (o, entries) := root.asTable
    .table o (putEntry entries key v)

def mergeEntries (target : Sourced) : List (String × Sourced) → Sourced
  | [] => target
  | (k, v) :: rest => mergeEntries (mergeKey target k v) rest
end

/-- One step of a path: a name in a table or an index in an array. -/
inductive Step where
  | key (name : String)
  | index (i : Int)
  deriving DecidableEq, Inhabited

def indexPosition (i : Int) (length : Nat) : Nat :=
  if i ≥ 0 then i.toNat else length - i.natAbs

def padTo (items : List Sourced) (position : Nat) : List Sourced :=
  items ++ List.replicate (position + 1 - items.length) (.nil none)

def modifyAt (node : Sourced) : List Step → (Sourced → Sourced) → Sourced
  | [], f => f node
  | .key k :: rest, f =>
    let (o, entries) := node.asTable
    let child := (lookup entries k).getD (.nil none)
    .table o (putEntry entries k (modifyAt child rest f))
  | .index i :: rest, f =>
    let (o, items) := node.asArray
    let position := indexPosition i items.length
    let padded := padTo items position
    .array o (padded.set position (modifyAt (padded.getD position (.nil none)) rest f))

def setPath (root : Sourced) (head : String) (steps : List Step) (value : Sourced) : Sourced :=
  match steps.reverse with
  | [] => mergeKey root head value
  | .key k :: before =>
    modifyAt root (.key head :: before.reverse) (fun parent =>
      let (o, entries) := parent.asTable
      .table o (putEntry entries k value))
  | .index i :: before =>
    modifyAt root (.key head :: before.reverse) (fun parent =>
      let (o, items) := parent.asArray
      let position := indexPosition i items.length
      .array o ((padTo items position).set position value))

/-! ## Keys as paths -/

def isPathChar (ch : Char) : Bool := ch.isAlphanum || ch == ' ' || ch == '_' || ch == '-'

def indexMax : Nat := 9223372036854775807

def readIndex? (cs : List Char) : Option (Int × List Char) :=
  let blank := fun (ch : Char) => ch == ' ' || ch == '\t'
  let r1 := cs.dropWhile blank
  let (negative, r2) := match r1 with
    | '-' :: rest => (true, rest)
    | _ => (false, r1)
  let ds := r2.takeWhile Char.isDigit
  let value := ds.foldl (fun acc ch => acc * 10 + (ch.toNat - '0'.toNat)) 0
  match (r2.drop ds.length).dropWhile blank with
  | ']' :: rest =>
    if ds.isEmpty then none
    else if negative then (if value ≤ indexMax + 1 then some (-(value : Int), rest) else none)
    else if value ≤ indexMax then some (value, rest) else none
  | _ => none

def readSteps : Nat → List Char → Option (List Step)
  | 0, _ => none
  | _ + 1, [] => some []
  | fuel + 1, '.' :: rest =>
    let name := rest.takeWhile isPathChar
    if name.isEmpty then none
    else (readSteps fuel (rest.drop name.length)).map (.key (String.ofList name) :: ·)
  | fuel + 1, '[' :: rest =>
    match readIndex? rest with
    | some (i, after) => (readSteps fuel after).map (.index i :: ·)
    | none => none
  | _ + 1, _ :: _ => none

def parsePath (key : String) : String × List Step :=
  let cs := key.toList
  let head := cs.takeWhile isPathChar
  if head.isEmpty then (key, [])
  else
    match readSteps (cs.length + 1) (cs.drop head.length) with
    | some steps => (String.ofList head, steps)
    | none => (key, [])

def setKey (root : Sourced) (key : String) (value : Sourced) : Sourced :=
  let (head, steps) := parsePath key
  setPath root head steps value

def setAll (root : Sourced) (entries : List (String × Sourced)) : Sourced :=
  entries.foldl (fun acc (k, v) => setKey acc k v) root

/-! ## Environment variables -/

def environmentOrigin : String := "the environment"

def readInt64? (s : String) : Option Int :=
  let (negative, body) := match s.toList with
    | '-' :: rest => (true, rest)
    | '+' :: rest => (false, rest)
    | cs => (false, cs)
  if body.isEmpty || !body.all Char.isDigit then none
  else
    let value := body.foldl (fun acc ch => acc * 10 + (ch.toNat - '0'.toNat)) 0
    if negative then (if value ≤ int64Max + 1 then some (-(value : Int)) else none)
    else if value ≤ int64Max then some value else none

def ofEnvironment (key value : String) (listKeys : List String) : Sourced :=
  let o := some environmentOrigin
  match Text.toLower value with
  | "true" => .boolean o true
  | "false" => .boolean o false
  | _ =>
    match readInt64? value with
    | some i => .integer o i
    | none =>
      match Number.readFloat? value with
      | some x => .float o x
      | none =>
        if listKeys.contains key then .array o ((value.splitOn ",").map (.string o))
        else .string o value

/-- The settings layer of environment variables: those whose name starts with the prefix
and a separator, in any case, keyed by the rest of the name in lower case with each
separator read as a dot. -/
def environmentLayer (marker separator : String) (listKeys : List String)
    (vars : List (String × String)) : List (String × Sourced) :=
  let start := Text.toLower (marker ++ separator)
  vars.foldl (fun acc (name, value) =>
    let lower := Text.toLower name
    if lower.startsWith start then
      let key := (lower.drop start.length).toString.replace separator "."
      putEntry acc key (ofEnvironment key value listKeys)
    else acc) []

end Sourced

end AdminShell
