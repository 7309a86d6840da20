import AdminShell.Settings.Sourced
import AdminShell.Ini.Read
import AdminShell.Ron.Read
import AdminShell.Json5.Read
import AdminShell.Yaml.Load
import AdminShell.Number.Plain

/-! # Settings from other file formats

Each reader's result becomes the entries of a settings layer, every value carrying the file
it came from. A key given twice keeps its first place and its last value, as a map keeps
it.
-/

namespace AdminShell

namespace Sourced

def ofTexts (origin : Option String) (entries : List (String × String)) :
    List (String × Sourced) :=
  entries.foldl (fun acc kv => putEntry acc kv.1 (.string origin kv.2)) []

/-- The entries of an INI text: those before any header at the top, each section as a table
of its entries. A section named twice keeps only its last entries. -/
def ofIni (origin : Option String) (sections : List Ini.Section) : List (String × Sourced) :=
  sections.foldl (fun acc s =>
    match s.name with
    | none => s.entries.foldl (fun acc kv => putEntry acc kv.1 (.string origin kv.2)) acc
    | some name => putEntry acc name (.table origin (ofTexts origin s.entries))) []

def ronKeyRank : Ron.Value → Nat
  | .bool _ => 0
  | .char _ => 1
  | .map _ => 2
  | .integer _ | .float _ => 3
  | .option _ => 4
  | .string _ => 5
  | .seq _ => 6
  | .unit => 7

def ronFound : Ron.Value → String
  | .bool b => "the boolean `" ++ toString b ++ "`"
  | .char c => "the UTF-8 character `" ++ String.singleton c ++ "`"
  | .map _ => "a map"
  | .integer i => "the signed integer `" ++ toString i ++ "`"
  | .float x => "the floating point number `" ++ x.plainText ++ "`"
  | .option _ => "an optional value"
  | .string s => "the string " ++ Text.quoted s
  | .seq _ => "a sequence"
  | .unit => "a unit value"

def ronKey : Ron.Value → Except String String
  | .string s => .ok s
  | .char c => .ok (String.singleton c)
  | v => .error ("Expected a string but found " ++ ronFound v ++ " instead")

mutual

def ofRon (origin : Option String) : Ron.Value → Except String Sourced
  | .bool b => .ok (.boolean origin b)
  | .char c => .ok (.string origin (String.singleton c))
  | .map entries => do
    let ranked := (ofRonEntries origin entries).mergeSort (fun a b => a.1 ≤ b.1)
    let pairs ← ranked.mapM Prod.snd
    return .table origin (pairs.foldl (fun acc kv => putEntry acc kv.1 kv.2) [])
  | .integer i => .ok (.integer origin i)
  | .float x => .ok (.float origin x)
  | .option none => .ok (.nil origin)
  | .option (some v) => ofRon origin v
  | .string s => .ok (.string origin s)
  | .seq items => do return .array origin (← ofRonItems origin items)
  | .unit => .ok (.nil origin)

def ofRonItems (origin : Option String) : List Ron.Value → Except String (List Sourced)
  | [] => .ok []
  | v :: rest => do return (← ofRon origin v) :: (← ofRonItems origin rest)

def ofRonEntries (origin : Option String) :
    List (Ron.Value × Ron.Value) → List (Nat × Except String (String × Sourced))
  | [] => []
  | (k, v) :: rest =>
    (ronKeyRank k, (do return (← ronKey k, ← ofRon origin v))) :: ofRonEntries origin rest

end

/-- The characters of a JSON5 string's pieces. A `\u` escape of a high surrogate joins the
low surrogate escaped right after it; a surrogate left alone is refused. -/
def json5Chars : List Json5.Piece → Except String (List Char)
  | [] => .ok []
  | .char c :: rest => (c :: ·) <$> json5Chars rest
  | .unit n :: rest =>
    if 0xD800 ≤ n && n ≤ 0xDBFF then
      match rest with
      | .unit m :: rest2 =>
        if 0xDC00 ≤ m && m ≤ 0xDFFF then
          (Char.ofNat (0x10000 + (n - 0xD800) * 0x400 + (m - 0xDC00)) :: ·) <$> json5Chars rest2
        else .error "error parsing unicode prefix"
      | _ => .error "error parsing unicode prefix"
    else if 0xDC00 ≤ n && n ≤ 0xDFFF then .error "error parsing unicode prefix"
    else (Char.ofNat n :: ·) <$> json5Chars rest

def json5Text (pieces : List Json5.Piece) : Except String String :=
  String.ofList <$> json5Chars pieces

def isHexLiteral (t : String) : Bool := 2 < t.length && (t.startsWith "0x" || t.startsWith "0X")

def isJson5Integer (t : String) : Bool :=
  !t.contains '.' && (isHexLiteral t || (!t.contains 'e' && !t.contains 'E')) &&
    !(["Infinity", "-Infinity", "+Infinity", "NaN", "-NaN", "+NaN"].contains t)

def json5IntMax : Int := 9223372036854775807

def int64Digits (base : Nat) (negative : Bool) : List Char → Int → Except String Int
  | [], acc => .ok acc
  | c :: rest, acc =>
    let d? := if c.isDigit then some (c.toNat - 48)
      else if 'a' ≤ c && c ≤ 'z' then some (c.toNat - 87)
      else if 'A' ≤ c && c ≤ 'Z' then some (c.toNat - 55) else none
    match d? with
    | some d =>
      if d < base then
        let v := acc * base + (if negative then -(d : Int) else d)
        if json5IntMax < v then .error "number too large to fit in target type"
        else if v < -json5IntMax - 1 then .error "number too small to fit in target type"
        else int64Digits base negative rest v
      else .error "invalid digit found in string"
    | none => .error "invalid digit found in string"

def readInt64 (base : Nat) (t : String) : Except String Int :=
  match t.toList with
  | [] => .error "cannot parse integer from empty string"
  | ['+'] | ['-'] => .error "invalid digit found in string"
  | '+' :: rest => int64Digits base false rest 0
  | '-' :: rest => int64Digits base true rest 0
  | digits => int64Digits base false digits 0

def ofJson5Number (origin : Option String) (t : String) : Except String Sourced :=
  if isJson5Integer t then
    .integer origin <$> (if isHexLiteral t then readInt64 16 (String.ofList (t.toList.drop 2))
      else readInt64 10 t)
  else if t == "Infinity" then .ok (.float origin Number.Double.infinity)
  else if t == "-Infinity" then .ok (.float origin Number.Double.infinity.neg)
  else if t == "NaN" || t == "-NaN" then .ok (.float origin Number.Double.nan)
  else
    match Number.readFloat? t with
    | some x =>
      if x.isFinite then .ok (.float origin x) else .error "error parsing number: too large"
    | none => .error "error parsing number"

mutual

def ofJson5 (origin : Option String) : Json5.Value → Except String Sourced
  | .null => .ok (.nil origin)
  | .bool b => .ok (.boolean origin b)
  | .number t => ofJson5Number origin t
  | .string pieces => (.string origin) <$> json5Text pieces
  | .array items => (.array origin) <$> ofJson5Items origin items
  | .object entries => do
    let pairs ← ofJson5Entries origin entries
    return .table origin (pairs.foldl (fun acc kv => putEntry acc kv.1 kv.2) [])

def ofJson5Items (origin : Option String) : List Json5.Value → Except String (List Sourced)
  | [] => .ok []
  | v :: rest => do return (← ofJson5 origin v) :: (← ofJson5Items origin rest)

def ofJson5Entries (origin : Option String) :
    List (List Json5.Piece × Json5.Value) → Except String (List (String × Sourced))
  | [] => .ok []
  | (k, v) :: rest => do
    let key ← json5Text k
    let value ← ofJson5 origin v
    return (key, value) :: (← ofJson5Entries origin rest)

end

mutual

def ofYaml (origin : Option String) : Yaml.Node → Except String Sourced
  | .real t =>
    match Number.readFloat? t with
    | some x => .ok (.float origin x)
    | none => .error ("Parsing " ++ t ++ " as floating point number failed")
  | .integer i => .ok (.integer origin i)
  | .string s => .ok (.string origin s)
  | .boolean b => .ok (.boolean origin b)
  | .array items => (.array origin) <$> ofYamlItems origin items
  | .hash entries => do
    let pairs ← ofYamlEntries origin entries
    return .table origin (pairs.foldl (fun acc kv => putEntry acc kv.1 kv.2) [])
  | .null | .badValue => .ok (.nil origin)

def ofYamlItems (origin : Option String) : List Yaml.Node → Except String (List Sourced)
  | [] => .ok []
  | v :: rest => do return (← ofYaml origin v) :: (← ofYamlItems origin rest)

def ofYamlEntries (origin : Option String) :
    List (Yaml.Node × Yaml.Node) → Except String (List (String × Sourced))
  | [] => .ok []
  | (k, v) :: rest => do
    let value ← ofYaml origin v
    let more ← ofYamlEntries origin rest
    match k with
    | .string s => return (s, value) :: more
    | .integer i => return (toString i, value) :: more
    | _ => return more

end

end Sourced

end AdminShell
