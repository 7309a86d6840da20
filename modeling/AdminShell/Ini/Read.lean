import AdminShell.Text.Blank
import AdminShell.Text.Quoted

/-! # Reading INI texts

An INI text is a list of sections: the entries before the first header, then one section
for each `[name]` header, in order, a name given twice making two sections. An entry is
`key = value` or `key : value`.

The text is read character by character, keeping the line and column of the current
character:

* white space between items is skipped, line feeds included;
* `;` and `#` start a comment to the end of the line, but only as the first character of a
  line: after blanks they are refused as an inline comment;
* a header's name runs to `]` and may span lines; a key runs to `=` or `:`, also across
  lines; both are trimmed of white space;
* a value runs to the end of its line and is trimmed, except that parts between double or
  single quotes are taken as they are, line feeds included;
* a backslash escapes the next character in names, keys and values: `\0`, `\a`, `\b`, `\t`,
  `\r` and `\n` stand for control characters, `\x` and four hex digits for a character, a
  backslash before a line feed joins the lines, and any other character stands for itself.

A fault names the line and column where reading stopped, both from one, as `line:column
message`.
-/

namespace AdminShell.Ini

/-- Where reading stands: the rest of the text from the current character on, the number of
line feeds before the current character, counting the current one, and the column of the
current character on its line, from one (zero for a line feed). -/
structure Reader where
  rest : List Char
  line : Nat
  column : Nat

namespace Reader

def next (line column : Nat) : List Char → Nat × Nat
  | '\n' :: _ => (line + 1, 0)
  | _ :: _ => (line, column + 1)
  | [] => (line, column)

def start (text : String) : Reader :=
  let chars := text.toList
  let (line, column) := next 0 0 chars
  ⟨chars, line, column⟩

def peek (r : Reader) : Option Char := r.rest.head?

def advance (r : Reader) : Reader :=
  match r.rest with
  | [] => r
  | _ :: rest =>
    let (line, column) := next r.line r.column rest
    ⟨rest, line, column⟩

def skipWhile (p : Char → Bool) : Nat → Reader → Reader
  | 0, r => r
  | fuel + 1, r =>
    match r.peek with
    | some c => if p c then skipWhile p fuel r.advance else r
    | none => r

def skipSpace (r : Reader) : Reader := skipWhile Text.isWhiteSpace r.rest.length r

def skipLineSpace (r : Reader) : Reader :=
  skipWhile (fun c => (Text.isWhiteSpace c && c != '\n' && c != '\r') || c == '\t')
    r.rest.length r

def skipComment : Nat → Reader → Reader
  | 0, r => r
  | fuel + 1, r =>
    match r.peek with
    | some '\n' => r.advance
    | some _ => skipComment fuel r.advance
    | none => r

end Reader

structure Fault where
  line : Nat
  column : Nat
  message : String
  deriving DecidableEq, Repr

def Fault.render (f : Fault) : String :=
  toString f.line ++ ":" ++ toString f.column ++ " " ++ f.message

def Reader.fault (r : Reader) (message : String) : Fault := ⟨r.line + 1, r.column + 1, message⟩

def stopsText (stops : List (Option Char)) : String :=
  "[" ++ ", ".intercalate (stops.map fun
    | some c => "Some(" ++ Text.quotedChar c ++ ")"
    | none => "None") ++ "]"

def endFault (r : Reader) (stops : List (Option Char)) : Fault :=
  r.fault ("expecting \"" ++ stopsText stops ++ "\" but found EOF.")

def current (r : Reader) (stops : List (Option Char)) : Except Fault Char :=
  match r.peek with
  | some c => .ok c
  | none => .error (endFault r stops)

def optionText : Option Char → String
  | some c => "Some(" ++ Text.quotedChar c ++ ")"
  | none => "None"

def hexEscapeChars (stops : List (Option Char)) : Nat → Reader → List Char →
    Except Fault (List Char × Reader)
  | 0, r, acc => .ok (acc.reverse, r)
  | n + 1, r, acc => do
    let r := r.advance
    let c ← current r stops
    if c == '\\' then
      let r := r.advance
      if r.peek != some '\n' then
        throw (r.fault ("expecting \"\\\\n\" but found \"" ++ optionText r.peek ++ "\"."))
      hexEscapeChars stops n r (c :: acc)
    else hexEscapeChars stops n r (c :: acc)

def hexValue? (cs : List Char) : Option Nat :=
  let digits := match cs with
    | '+' :: rest => rest
    | _ => cs
  if digits.isEmpty then none
  else digits.foldl (fun acc c => acc.bind fun v =>
    if c.isDigit then some (16 * v + (c.toNat - '0'.toNat))
    else if 'a' ≤ c && c ≤ 'f' then some (16 * v + (c.toNat - 'a'.toNat + 10))
    else if 'A' ≤ c && c ≤ 'F' then some (16 * v + (c.toNat - 'A'.toNat + 10))
    else none) (some 0)

def isScalar (n : Nat) : Bool := n < 0x110000 && !(0xD800 ≤ n && n ≤ 0xDFFF)

def readUntil (stops : List (Option Char)) : Nat → Reader → List Char →
    Except Fault (String × Reader)
  | 0, r, acc => .ok (String.ofList acc.reverse, r)
  | fuel + 1, r, acc => do
    if stops.contains r.peek then return (String.ofList acc.reverse, r)
    let c ← current r stops
    if c == '\\' then
      let r := r.advance
      let e ← current r stops
      match e with
      | '0' => readUntil stops fuel r.advance ('\x00' :: acc)
      | 'a' => readUntil stops fuel r.advance ('\x07' :: acc)
      | 'b' => readUntil stops fuel r.advance ('\x08' :: acc)
      | 't' => readUntil stops fuel r.advance ('\t' :: acc)
      | 'r' => readUntil stops fuel r.advance ('\r' :: acc)
      | 'n' => readUntil stops fuel r.advance ('\n' :: acc)
      | '\n' => readUntil stops fuel r.advance acc
      | 'x' =>
        let (code, r) ← hexEscapeChars stops 4 r []
        match hexValue? code with
        | some v =>
          if isScalar v then readUntil stops fuel r.advance (Char.ofNat v :: acc)
          else throw (r.fault "unknown character in \\xHH form")
        | none => throw (r.fault "unknown character in \\xHH form")
      | other => readUntil stops fuel r.advance (other :: acc)
    else readUntil stops fuel r.advance (c :: acc)

def trimEnd (s : String) : String :=
  String.ofList (s.toList.reverse.dropWhile Text.isWhiteSpace).reverse

def readValueParts : Nat → Reader → Bool → String → Except Fault (String × Reader)
  | 0, r, _, acc => .ok (acc, r)
  | fuel + 1, r, first, acc => do
    match r.peek with
    | none => return (acc, r)
    | some q =>
      if q == '"' || q == '\'' then
        let (part, r) ← readUntil [some q] (r.rest.length + 1) r.advance []
        readValueParts fuel r.advance false (acc ++ part)
      else
        let (part, r) ← readUntil [some '\n', some '\r', none] (r.rest.length + 1) r []
        let trimmed := if first then Text.trimWhiteSpace part else trimEnd part
        return (acc ++ trimmed, r)

def readValue (r : Reader) : Except Fault (String × Reader) :=
  let r := r.advance.skipLineSpace
  readValueParts (r.rest.length + 1) r true ""

/-- A section: its name, none for the entries before the first header, and its entries in
order. -/
structure Section where
  name : Option String
  entries : List (String × String)
  deriving DecidableEq, Repr

def addEntry (sections : List Section) (key value : String) : List Section :=
  match sections.reverse with
  | last :: earlier => (⟨last.name, last.entries ++ [(key, value)]⟩ :: earlier).reverse
  | [] => [⟨none, [(key, value)]⟩]

def readItems : Nat → Reader → String → List Section → Except Fault (List Section)
  | 0, _, _, sections => .ok sections
  | fuel + 1, r, key, sections => do
    match r.peek with
    | none => return sections
    | some c =>
      if c == ';' || c == '#' then
        if r.column > 1 then throw (r.fault "doesn't support inline comment")
        readItems fuel (Reader.skipComment r.rest.length r).skipSpace key sections
      else if c == '[' then
        let (name, r) ← readUntil [some ']'] (r.rest.length + 1) r.advance []
        let r := if r.peek == some ']' then r.advance else r
        readItems fuel r.skipSpace key (sections ++ [⟨some (Text.trimWhiteSpace name), []⟩])
      else if c == '=' || c == ':' then
        if key.isEmpty then throw (r.fault "missing key")
        let (value, r) ← readValue r
        readItems fuel r.skipSpace "" (addEntry sections key value)
      else
        let (k, r) ← readUntil [some '=', some ':'] (r.rest.length + 1) r []
        readItems fuel r.skipSpace (Text.trimWhiteSpace k) sections

def read (text : String) : Except Fault (List Section) :=
  let r := (Reader.start text).skipSpace
  readItems (r.rest.length + 1) r "" [⟨none, []⟩]

end AdminShell.Ini
