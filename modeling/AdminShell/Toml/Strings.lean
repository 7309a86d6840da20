import AdminShell.Toml.Cursor

/-! # Reading TOML strings

TOML has four kinds of string. A basic string `"…"` holds escapes; a literal string `'…'`
holds its characters as written; each has a multi-line form, `"""…"""` and `'''…'''`, whose
first line break is dropped and whose line breaks are kept as `LF`. In a multi-line basic
string a backslash at the end of a line drops the line break and the blanks after it.

The escapes are `\b \t \n \f \r \" \\`, `\uXXXX` and `\UXXXXXXXX`; the hexadecimal forms must
name a Unicode scalar value.

A multi-line string may hold one or two quotes of its own kind before its closing
delimiter, and anywhere else when more of the string follows them.
-/

namespace AdminShell.Toml

def escapeChar? : Char → Option Char
  | 'b' => some '\x08'
  | 'f' => some '\x0c'
  | 'n' => some '\n'
  | 'r' => some '\r'
  | 't' => some '\t'
  | '\\' => some '\\'
  | '"' => some '"'
  | _ => none

def escapeLetters : List String :=
  ["`b`", "`f`", "`n`", "`r`", "`t`", "`u`", "`U`", "`\\`", "`\"`"]

def hexValue? (ch : Char) : Option Nat :=
  if ch.isDigit then some (ch.toNat - '0'.toNat)
  else if 'a' ≤ ch && ch ≤ 'f' then some (ch.toNat - 'a'.toNat + 10)
  else if 'A' ≤ ch && ch ≤ 'F' then some (ch.toNat - 'A'.toNat + 10)
  else none

def isScalar (n : Nat) : Bool := n < 0xD800 || (0xDFFF < n && n ≤ 0x10FFFF)

def readHexEscape (c : Cursor) (width : Nat) : Except Fault (Char × Cursor) :=
  let label := "unicode " ++ toString width ++ "-digit hex code"
  let digits := (c.rest.take width).filterMap hexValue?
  if (c.rest.take width).all (fun ch => (hexValue? ch).isSome) && digits.length == width then
    let code := digits.foldl (fun acc d => acc * 16 + d) 0
    if isScalar code then .ok (Char.ofNat code, c.skip width)
    else .error { (c.fault label) with cause := some "value is out of range" }
  else .error (c.fault label)

def readEscape (c : Cursor) : Except Fault (Option (Char × Cursor)) :=
  match c.rest with
  | [] => .ok none
  | 'u' :: _ => (readHexEscape c.advance 4).map some
  | 'U' :: _ => (readHexEscape c.advance 8).map some
  | ch :: _ =>
    match escapeChar? ch with
    | some e => .ok (some (e, c.advance))
    | none => .error { offset := c.offset + 1, label := some "escape sequence"
                       expected := escapeLetters }

def readBasicBody : Nat → Cursor → List Char → Except Fault (String × Cursor)
  | 0, c, _ => .error (c.fault "basic string")
  | fuel + 1, c, acc =>
    match c.rest with
    | '"' :: _ => .ok (String.ofList acc.reverse, c.advance)
    | '\\' :: _ =>
      match readEscape c.advance with
      | .error f => .error f
      | .ok none => .error (c.fault "basic string")
      | .ok (some (ch, next)) => readBasicBody fuel next (ch :: acc)
    | ch :: _ =>
      if isBasicChar ch then readBasicBody fuel c.advance (ch :: acc)
      else .error (c.fault "basic string")
    | [] => .error (c.fault "basic string")

def readBasic (c : Cursor) : Except Fault (String × Cursor) :=
  readBasicBody (c.rest.length + 1) c []

def readLiteral (c : Cursor) : Except Fault (String × Cursor) :=
  let body := c.rest.takeWhile isLiteralChar
  let close := c.skip body.length
  match close.rest with
  | '\'' :: _ => .ok (String.ofList body, close.advance)
  | _ => .error (close.fault "literal string")

/-! ## Multi-line strings -/

def quoteRun? (c : Cursor) (q : Char) : Option (List Char × Cursor) :=
  match c.rest with
  | a :: b :: d :: _ =>
    if a == q && b == q && d != q then some ([q, q], c.skip 2)
    else if a == q && b != q then some ([q], c.advance)
    else none
  | [a, b] => if a == q && b != q then some ([q], c.advance) else none
  | _ => none

def closingQuotes (c : Cursor) (q : Char) : List Char × Cursor :=
  if c.startsWith [q, q, q, q, q] then ([q, q], c.skip 2)
  else if c.startsWith [q, q, q, q] then ([q], c.advance)
  else ([], c)

def escapedNewline? (c : Cursor) : Option Cursor :=
  match newline? (c.advance.skipWhile isBlank) with
  | some next => some (next.skip (blankLinesLength next.rest))
  | none => none

/-- One piece of a multi-line basic string: a run of plain characters, an escaped line
end, an escape, or a line break. -/
def mlBasicPiece? (c : Cursor) : Except Fault (Option (List Char × Cursor)) :=
  match c.rest with
  | [] => .ok none
  | '\\' :: _ =>
    match escapedNewline? c with
    | some next => .ok (some ([], next))
    | none =>
      match readEscape c.advance with
      | .error f => .error f
      | .ok none => .ok none
      | .ok (some (ch, next)) => .ok (some ([ch], next))
  | '\n' :: _ => .ok (some (['\n'], c.advance))
  | '\r' :: '\n' :: _ => .ok (some (['\n'], c.skip 2))
  | ch :: _ =>
    if isBasicChar ch then
      let run := c.rest.takeWhile isBasicChar
      .ok (some (run, c.skip run.length))
    else .ok none

def mlBasicPieces : Nat → Cursor → List Char → Except Fault (List Char × Cursor)
  | 0, c, acc => .ok (acc, c)
  | fuel + 1, c, acc =>
    match mlBasicPiece? c with
    | .error f => .error f
    | .ok none => .ok (acc, c)
    | .ok (some (piece, next)) => mlBasicPieces fuel next (acc ++ piece)

/-- Reads quotes and the pieces after them. Quotes that no piece follows are read but not
kept. -/
def mlBasicQuoted : Nat → Cursor → List Char → Except Fault (List Char × Cursor)
  | 0, c, acc => .ok (acc, c)
  | fuel + 1, c, acc =>
    match quoteRun? c '"' with
    | none => .ok (acc, c)
    | some (qs, afterQuotes) =>
      match mlBasicPiece? afterQuotes with
      | .error f => .error f
      | .ok none => .ok (acc, afterQuotes)
      | .ok (some (piece, next)) =>
        match mlBasicPieces fuel next [] with
        | .error f => .error f
        | .ok (more, after) => mlBasicQuoted fuel after (acc ++ qs ++ piece ++ more)

def readMlBasic (c : Cursor) : Except Fault (String × Cursor) := do
  let fuel := c.rest.length + 1
  let start := (newline? c).getD c
  let (first, c1) ← mlBasicPieces fuel start []
  let (body, c2) ← mlBasicQuoted fuel c1 first
  let (tail, c3) := closingQuotes c2 '"'
  if c3.startsWith ['"', '"', '"'] then pure (String.ofList (body ++ tail), c3.skip 3)
  else throw ((c3.fault "multiline basic string"))

def mlLiteralPiece? (c : Cursor) : Option (List Char × Cursor) :=
  match c.rest with
  | '\n' :: _ => some (['\n'], c.advance)
  | '\r' :: '\n' :: _ => some (['\n'], c.skip 2)
  | ch :: _ =>
    if isLiteralChar ch then
      let run := c.rest.takeWhile isLiteralChar
      some (run, c.skip run.length)
    else none
  | [] => none

def mlLiteralPieces : Nat → Cursor → List Char → List Char × Cursor
  | 0, c, acc => (acc, c)
  | fuel + 1, c, acc =>
    match mlLiteralPiece? c with
    | none => (acc, c)
    | some (piece, next) => mlLiteralPieces fuel next (acc ++ piece)

def mlLiteralQuoted : Nat → Cursor → List Char → List Char × Cursor
  | 0, c, acc => (acc, c)
  | fuel + 1, c, acc =>
    match quoteRun? c '\'' with
    | none => (acc, c)
    | some (qs, afterQuotes) =>
      match mlLiteralPiece? afterQuotes with
      | none => (acc, c)
      | some (piece, next) =>
        let (more, after) := mlLiteralPieces fuel next []
        mlLiteralQuoted fuel after (acc ++ qs ++ piece ++ more)

def readMlLiteral (c : Cursor) : Except Fault (String × Cursor) :=
  let fuel := c.rest.length + 1
  let start := (newline? c).getD c
  let (first, c1) := mlLiteralPieces fuel start []
  let (body, c2) := mlLiteralQuoted fuel c1 first
  let (tail, c3) := closingQuotes c2 '\''
  if c3.startsWith ['\'', '\'', '\''] then .ok (String.ofList (body ++ tail), c3.skip 3)
  else .error (c3.fault "multiline literal string")

def readString (c : Cursor) : Except Fault (String × Cursor) :=
  if c.startsWith ['"', '"', '"'] then readMlBasic (c.skip 3)
  else if c.startsWith ['"'] then readBasic c.advance
  else if c.startsWith ['\'', '\'', '\''] then readMlLiteral (c.skip 3)
  else readLiteral c.advance

end AdminShell.Toml
