/-! # Reading TOML: cursor and faults

A TOML text is read character by character. A `Cursor` holds the characters left and how
many were read. A reading that cannot go on stops with a `Fault` at an offset. The fault
names what was being read (its label), what could have come next, or the rule the text
broke.

A fault is committed when no other reading of the text may be tried from where it started;
an uncommitted one lets an enclosing list end before it instead.

A fault is shown as the line that holds it with a caret under its column, then its message:

```text
TOML parse error at line 1, column 8
  |
1 | [export
  |        ^
invalid table header
expected `.`, `]`
```

The column counts characters from the line's start. When the character at the fault is
not ASCII, it counts the bytes of that line before it instead. At the end of the text, the
fault is one column past the last character.
-/

namespace AdminShell.Toml

/-- Where the reader stands: the characters left and how many were read. -/
structure Cursor where
  rest : List Char
  offset : Nat
  deriving Inhabited

/-- Why a reading stopped, and where. -/
structure Fault where
  offset : Nat
  label : Option String := none
  expected : List String := []
  cause : Option String := none
  committed : Bool := true
  deriving Inhabited

namespace Cursor

def start (s : String) : Cursor := ⟨s.toList, 0⟩

def advance (c : Cursor) : Cursor :=
  match c.rest with
  | [] => c
  | _ :: rest => ⟨rest, c.offset + 1⟩

def skip (c : Cursor) (n : Nat) : Cursor := ⟨c.rest.drop n, c.offset + min n c.rest.length⟩

def skipWhile (c : Cursor) (p : Char → Bool) : Cursor := c.skip (c.rest.takeWhile p).length

def startsWith (c : Cursor) (s : List Char) : Bool := s.isPrefixOf c.rest

def fault (c : Cursor) (label : String) : Fault := { offset := c.offset, label := some label }

end Cursor

namespace Fault

def within (f : Fault) (label : String) : Fault := { f with label := f.label <|> some label }

def expecting (f : Fault) (items : List String) : Fault := { f with expected := f.expected ++ items }

def commit (f : Fault) : Fault := { f with committed := true }

def message (f : Fault) : String :=
  let parts := (f.label.map ("invalid " ++ ·)).toList ++
    (if f.expected.isEmpty then [] else ["expected " ++ ", ".intercalate f.expected]) ++
    f.cause.toList
  "\n".intercalate parts

end Fault

def position (chars : List Char) (offset : Nat) : Nat × Nat :=
  if chars.isEmpty then (0, offset)
  else
    let atEnd := offset ≥ chars.length
    let safe := if atEnd then chars.length - 1 else offset
    let before := chars.take safe
    let lineStart := before.length - (before.reverse.takeWhile (· != '\n')).length
    let line := ((chars.take lineStart).filter (· == '\n')).length
    let onLine := before.drop lineStart
    if atEnd then (line, onLine.length + 1)
    else
      match chars[safe]? with
      | some ch => if ch.toNat < 0x80 then (line, onLine.length)
        else (line, onLine.foldl (fun n ch => n + ch.utf8Size) 0)
      | none => (line, onLine.length)

def Fault.render (f : Fault) (text : String) : String :=
  let chars := text.toList
  let (line, column) := position chars f.offset
  let number := toString (line + 1)
  let gutter := "".pushn ' ' (number.length + 1)
  let content := (text.splitOn "\n").getD line ""
  let width := match chars[f.offset]? with
    | some ch => ch.utf8Size
    | none => 0
  let carets := max 1 (min width (content.utf8ByteSize - column))
  "TOML parse error at line " ++ number ++ ", column " ++ toString (column + 1) ++ "\n" ++
    gutter ++ "|\n" ++ number ++ " | " ++ content ++ "\n" ++
    gutter ++ "|" ++ "".pushn ' ' (column + 1) ++ "".pushn '^' carets ++ "\n" ++
    f.message ++ "\n"

/-! ## Character classes -/

def isBlank (ch : Char) : Bool := ch == ' ' || ch == '\t'

def isBareKeyChar (ch : Char) : Bool := ch.isAlphanum || ch == '_' || ch == '-'

def isNonAscii (ch : Char) : Bool := ch.toNat ≥ 0x80

def isCommentChar (ch : Char) : Bool :=
  ch == '\t' || (0x20 ≤ ch.toNat && ch.toNat ≤ 0x7E) || isNonAscii ch

def isBasicChar (ch : Char) : Bool :=
  let n := ch.toNat
  isBlank ch || n == 0x21 || (0x23 ≤ n && n ≤ 0x5B) || (0x5D ≤ n && n ≤ 0x7E) || isNonAscii ch

def isLiteralChar (ch : Char) : Bool :=
  let n := ch.toNat
  ch == '\t' || (0x20 ≤ n && n ≤ 0x26) || (0x28 ≤ n && n ≤ 0x7E) || isNonAscii ch

def newline? (c : Cursor) : Option Cursor :=
  match c.rest with
  | '\n' :: _ => some c.advance
  | '\r' :: '\n' :: _ => some (c.skip 2)
  | _ => none

def blankLinesLength : List Char → Nat
  | ' ' :: rest | '\t' :: rest | '\n' :: rest => blankLinesLength rest + 1
  | '\r' :: '\n' :: rest => blankLinesLength rest + 2
  | _ => 0

def spacingLength : Nat → List Char → Nat
  | 0, _ => 0
  | fuel + 1, cs =>
    match cs with
    | ' ' :: rest | '\t' :: rest | '\n' :: rest => spacingLength fuel rest + 1
    | '\r' :: '\n' :: rest => spacingLength fuel rest + 2
    | '#' :: rest =>
      let body := rest.takeWhile isCommentChar
      spacingLength fuel (rest.drop body.length) + body.length + 1
    | _ => 0

def Cursor.skipSpacing (c : Cursor) : Cursor := c.skip (spacingLength (c.rest.length + 1) c.rest)

end AdminShell.Toml
