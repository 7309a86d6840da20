import AdminShell.Toml.Value
import AdminShell.Number.Double

/-! # Writing TOML documents

A document is written table by table: the entries of a table that are not tables as
`key = value` lines under its `[header]`, then its tables, each header after a blank line.
A table that holds only tables gets no header of its own.

A string is written in the first form that holds it without escapes: a basic string, a
literal string, a basic string over lines, a literal string over lines; otherwise as a
basic string with escapes (`stringForm`). Arrays of two or more items put each
item on its own line, indented by four spaces and followed by a comma.
-/

namespace AdminShell.Toml

/-- What the form of a string depends on: the longest runs of single and of double quotes,
and whether it holds a control character other than tab and line feed, a backslash, or a
line feed. -/
structure StringMetrics where
  singles : Nat := 0
  doubles : Nat := 0
  longestSingles : Nat := 0
  longestDoubles : Nat := 0
  controls : Bool := false
  backslash : Bool := false
  lineBreak : Bool := false

def isControl (c : Char) : Bool := c.toNat ≤ 0x1f || c.toNat == 0x7f

def StringMetrics.step (m : StringMetrics) (c : Char) : StringMetrics :=
  let singles := if c == '\'' then m.singles + 1 else 0
  let doubles := if c == '"' then m.doubles + 1 else 0
  { singles, doubles
    longestSingles := max m.longestSingles singles
    longestDoubles := max m.longestDoubles doubles
    controls := m.controls || (c != '\t' && c != '\n' && isControl c)
    backslash := m.backslash || c == '\\'
    lineBreak := m.lineBreak || c == '\n' }

def StringMetrics.of (text : String) : StringMetrics := text.toList.foldl StringMetrics.step {}

inductive StringForm where
  | basic
  | literal
  | multilineBasic
  | multilineLiteral
  deriving DecidableEq, Repr

/-- The form of a string: the first that holds it without escapes of a basic string, a
literal string, a basic string over lines and a literal string over lines; otherwise a basic
string with escapes, over lines when it has a line feed. A basic string holds it without
escapes when it has no control character, backslash, double quote or line feed; a literal
string, when it has no control character, single quote or line feed; the forms over lines
allow runs of two quotes of their own kind. -/
def stringForm (m : StringMetrics) : StringForm :=
  if !m.controls && !m.backslash && m.longestDoubles == 0 && !m.lineBreak then .basic
  else if !m.controls && m.longestSingles == 0 && !m.lineBreak then .literal
  else if !m.controls && !m.backslash && m.longestDoubles ≤ 2 then .multilineBasic
  else if !m.controls && m.longestSingles ≤ 2 then .multilineLiteral
  else if m.lineBreak then .multilineBasic
  else .basic

def hex4 (n : Nat) : String :=
  let ds := (Nat.toDigits 16 n).map Char.toUpper
  String.ofList (List.replicate (4 - ds.length) '0' ++ ds)

def escapeBasic (keepLineFeed : Bool) (c : Char) : String :=
  if c == '\x08' then "\\b"
  else if c == '\t' then "\\t"
  else if c == '\n' then (if keepLineFeed then "\n" else "\\n")
  else if c == '\x0c' then "\\f"
  else if c == '\r' then "\\r"
  else if c == '"' then "\\\""
  else if c == '\\' then "\\\\"
  else if isControl c then "\\u" ++ hex4 c.toNat
  else String.singleton c

def multilineBody : Nat → List Char → String
  | _, [] => ""
  | run, c :: rest =>
    if c == '"' then
      if run + 1 == 3 then "\\\"" ++ multilineBody 0 rest
      else "\"" ++ multilineBody (run + 1) rest
    else escapeBasic true c ++ multilineBody 0 rest

def stringText (text : String) : String :=
  let m := StringMetrics.of text
  let opening := if m.lineBreak then "\n" else ""
  match stringForm m with
  | .basic => "\"" ++ String.join (text.toList.map (escapeBasic false)) ++ "\""
  | .literal => "'" ++ text ++ "'"
  | .multilineBasic => "\"\"\"" ++ opening ++ multilineBody 0 text.toList ++ "\"\"\""
  | .multilineLiteral => "'''" ++ opening ++ text ++ "'''"

def keyText (key : String) : String :=
  if !key.isEmpty && key.all (fun c => c.isAlphanum || c == '-' || c == '_') then key
  else
    let m := StringMetrics.of key
    if !m.controls && !m.backslash && m.longestDoubles == 0 && !m.lineBreak then
      "\"" ++ String.join (key.toList.map (escapeBasic false)) ++ "\""
    else if !m.controls && m.longestSingles == 0 && !m.lineBreak then "'" ++ key ++ "'"
    else "\"" ++ String.join (key.toList.map (escapeBasic false)) ++ "\""

def floatText (x : Number.Double) (plain : Number.Double → String) : String :=
  if x.isNaN then (if x.bits ≥ 0x8000000000000000 then "-nan" else "nan")
  else
    let t := plain x
    if x.isFinite && !(t.contains '.') && !(t.contains 'e') then t ++ ".0" else t

mutual

def Value.text (plain : Number.Double → String) : Value → String
  | .string s => stringText s
  | .integer i => toString i
  | .float x => floatText x plain
  | .boolean b => if b then "true" else "false"
  | .datetime t => t
  | .array [] => "[]"
  | .array [x] => "[" ++ x.text plain ++ "]"
  | .array items => "[" ++ String.join (itemsText plain items) ++ "\n]"
  | .table entries => "\x7b " ++ ", ".intercalate (entriesText plain entries) ++ " \x7d"

def itemsText (plain : Number.Double → String) : List Value → List String
  | [] => []
  | x :: xs => ("\n    " ++ x.text plain ++ ",") :: itemsText plain xs

def entriesText (plain : Number.Double → String) : List (String × Value) → List String
  | [] => []
  | (k, v) :: rest => (keyText k ++ " = " ++ v.text plain) :: entriesText plain rest

end

def valueLines (plain : Number.Double → String) (entries : List (String × Value)) : String :=
  String.join (entries.filterMap fun (k, v) =>
    if v.isTable then none else some (keyText k ++ " = " ++ v.text plain ++ "\n"))

def headerText (path : List String) (first : Bool) (entries : List (String × Value)) :
    String × Bool :=
  let hasValues := entries.any (fun e => !e.2.isTable)
  if path.isEmpty then ("", first && !hasValues)
  else if !hasValues && !entries.isEmpty then ("", first)
  else ((if first then "" else "\n") ++ "[" ++ ".".intercalate (path.map keyText) ++ "]\n", false)

def subtablesText (plain : Number.Double → String) (path : List String) (first : Bool) :
    List (String × Value) → String × Bool
  | [] => ("", first)
  | (k, .table sub) :: rest =>
    let (header, first) := headerText (path ++ [k]) first sub
    let (inner, first) := subtablesText plain (path ++ [k]) first sub
    let (more, first) := subtablesText plain path first rest
    (header ++ valueLines plain sub ++ inner ++ more, first)
  | _ :: rest => subtablesText plain path first rest

def documentText (plain : Number.Double → String) (entries : List (String × Value)) : String :=
  let (header, first) := headerText [] true entries
  header ++ valueLines plain entries ++ (subtablesText plain [] first entries).1

end AdminShell.Toml
