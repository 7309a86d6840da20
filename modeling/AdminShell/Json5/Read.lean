import AdminShell.Text.Letters
import AdminShell.Number.Read

/-! # Reading JSON5 texts

A JSON5 text is one value: `null`, `true` or `false`, a string between double or single
quotes, a number, an object `{key: value, ...}` whose keys are names or strings, or an array
`[value, ...]`; a comma may end an object or an array. White space (Unicode space separators,
line terminators, tab, vertical tab, form feed, no-break space and the byte order mark) and
comments (`//` to the end of the line, `/* */`) may stand between tokens.

* Numbers: an optional sign, then `0x` and hex digits, or a decimal with optional point and
  exponent (`.5` and `5.` included), or `Infinity`, or `NaN`.
* Strings and names: a backslash escapes `'`, `"`, `\`, `b`, `f`, `n`, `r`, `t`, `v` and any
  other character that is not a digit, `x`, `u` or a line terminator; `\0` is NUL, `\xHH` and
  `\uHHHH` give code points, and a backslash before a line break joins the lines.
* Names start with a letter, `$`, `_` or a `\u` escape, and go on with those, marks,
  diacritics, decimal digits, connector punctuation and the zero-width joiners.

The grammar is read as a parsing expression grammar: alternatives in order, each repetition
as long as it can go. When the text does not match, the fault names the furthest place where
a named part of the grammar was tried and failed, with every named part tried there.
-/

namespace AdminShell.Json5

/-- The named parts of the grammar, in the order faults list them. -/
inductive Rule where
  | endOfInput
  | array
  | boolean
  | charEscapeSequence
  | charLiteral
  | hexEscapeSequence
  | identifier
  | nulEscapeSequence
  | null
  | number
  | object
  | string
  | unicodeEscapeSequence
  deriving DecidableEq, Repr

def Rule.rank : Rule → Nat
  | .endOfInput => 0
  | .array => 1
  | .boolean => 2
  | .charEscapeSequence => 3
  | .charLiteral => 4
  | .hexEscapeSequence => 5
  | .identifier => 6
  | .nulEscapeSequence => 7
  | .null => 8
  | .number => 9
  | .object => 10
  | .string => 11
  | .unicodeEscapeSequence => 12

def Rule.name : Rule → String
  | .endOfInput => "EOI"
  | .array => "array"
  | .boolean => "boolean"
  | .charEscapeSequence => "char_escape_sequence"
  | .charLiteral => "char_literal"
  | .hexEscapeSequence => "hex_escape_sequence"
  | .identifier => "identifier"
  | .nulEscapeSequence => "nul_escape_sequence"
  | .null => "null"
  | .number => "number"
  | .object => "object"
  | .string => "string"
  | .unicodeEscapeSequence => "unicode_escape_sequence"

/-- The named parts that failed at the furthest place any failed, in the order they failed. -/
structure Attempts where
  position : Nat
  rules : List Rule

def Attempts.countAt (a : Attempts) (p : Nat) : Nat :=
  if p == a.position then a.rules.length else 0

/-- Records that a part tried at `p` failed, where `before` failures were recorded at `p`
when it started. A part whose inner parts added exactly one failure at `p` leaves that one
as the more telling; else the part replaces what its inner parts added. A failure before
the furthest place is forgotten; one past it starts the record afresh. -/
def Attempts.record (a : Attempts) (r : Rule) (p before : Nat) : Attempts :=
  let now := a.countAt p
  if before < now && now - before == 1 then a
  else
    let a := if p == a.position then { a with rules := a.rules.take before } else a
    let a := if a.position < p then ⟨p, []⟩ else a
    if p == a.position then { a with rules := a.rules ++ [r] } else a

def enumerate : List String → String
  | [] => ""
  | [a] => a
  | [a, b] => a ++ " or " ++ b
  | names => ", ".intercalate names.dropLast ++ ", or " ++ names.getLastD ""

def dedupSorted : List Rule → List Rule
  | a :: b :: rest => if a == b then dedupSorted (b :: rest) else a :: dedupSorted (b :: rest)
  | l => l

def Attempts.message (a : Attempts) : String :=
  let rules := dedupSorted (a.rules.mergeSort (fun x y => x.rank ≤ y.rank))
  if rules.isEmpty then "unknown parsing error"
  else "expected " ++ enumerate (rules.map Rule.name)

/-- A piece of a string or name: a character, or the code unit of a `\u` escape. -/
inductive Piece where
  | char (c : Char)
  | unit (n : Nat)
  deriving DecidableEq, Repr

/-- A value as read, numbers kept as their text and strings as their pieces. -/
inductive Value where
  | null
  | bool (b : Bool)
  | number (text : String)
  | string (pieces : List Piece)
  | array (items : List Value)
  | object (entries : List (List Piece × Value))

abbrev Reading := StateM Attempts

abbrev Found (α : Type) := Option (α × Nat)

def named {α : Type} (r : Rule) (p : Nat) (body : Reading (Found α)) : Reading (Found α) := do
  let before := (← get).countAt p
  match ← body with
  | some x => return some x
  | none =>
    modify (·.record r p before)
    return none

section Chars

variable (s : Array Char)

def word? (w : String) (p : Nat) : Option Nat :=
  if (w.toList.zipIdx.all fun (c, i) => s[p + i]? == some c) then some (p + w.length)
  else none

def wordAnyCase? (w : String) (p : Nat) : Option Nat :=
  if (w.toList.zipIdx.all fun (c, i) => (s[p + i]?.map Char.toLower) == some c) then
    some (p + w.length)
  else none

def isLineTerminator (c : Char) : Bool :=
  c == '\n' || c == '\r' || c.toNat == 0x2028 || c.toNat == 0x2029

def isBlank (c : Char) : Bool :=
  c == '\t' || c.toNat == 0x0B || c.toNat == 0x0C || c == ' ' || c.toNat == 0xA0 ||
    c.toNat == 0xFEFF || Text.isSpaceSeparator c || isLineTerminator c

def blockEnd? : Nat → Nat → Option Nat
  | 0, _ => none
  | fuel + 1, p =>
    match s[p]? with
    | none => none
    | some '*' => if s[p + 1]? == some '/' then some (p + 2) else blockEnd? fuel (p + 1)
    | some _ => blockEnd? fuel (p + 1)

def lineEnd : Nat → Nat → Nat
  | 0, p => p
  | fuel + 1, p =>
    match s[p]? with
    | none => p
    | some c => if isLineTerminator c then p else lineEnd fuel (p + 1)

def comment? (p : Nat) : Option Nat :=
  if s[p]? == some '/' && s[p + 1]? == some '*' then blockEnd? s s.size (p + 2)
  else if s[p]? == some '/' && s[p + 1]? == some '/' then some (lineEnd s s.size (p + 2))
  else none

def skipFrom : Nat → Nat → Nat
  | 0, p => p
  | fuel + 1, p =>
    match s[p]? with
    | some c =>
      if isBlank c then skipFrom fuel (p + 1)
      else match comment? s p with
        | some q => skipFrom fuel q
        | none => p
    | none => p

def skip (p : Nat) : Nat := skipFrom s s.size p

def digitsEnd : Nat → Nat → Nat
  | 0, p => p
  | fuel + 1, p =>
    match s[p]? with
    | some c => if c.isDigit then digitsEnd fuel (p + 1) else p
    | none => p

def isHex (c : Char) : Bool :=
  c.isDigit || ('a' ≤ c && c ≤ 'f') || ('A' ≤ c && c ≤ 'F')

def hexEnd : Nat → Nat → Nat
  | 0, p => p
  | fuel + 1, p =>
    match s[p]? with
    | some c => if isHex c then hexEnd fuel (p + 1) else p
    | none => p

def exponent? (p : Nat) : Option Nat :=
  match s[p]? with
  | some c =>
    if c == 'e' || c == 'E' then
      let q := if s[p + 1]? == some '+' || s[p + 1]? == some '-' then p + 2 else p + 1
      let r := digitsEnd s s.size q
      if q < r then some r else none
    else none
  | none => none

def afterExponent (p : Nat) : Nat := (exponent? s p).getD p

def decimalInteger? (p : Nat) : Option Nat :=
  match s[p]? with
  | some '0' => some (p + 1)
  | some c => if c.isDigit then some (digitsEnd s s.size (p + 1)) else none
  | none => none

def decimal? (p : Nat) : Option Nat :=
  match decimalInteger? s p with
  | some q =>
    if s[q]? == some '.' then some (afterExponent s (digitsEnd s s.size (q + 1)))
    else some (afterExponent s q)
  | none =>
    if s[p]? == some '.' then
      let q := digitsEnd s s.size (p + 1)
      if p + 1 < q then some (afterExponent s q) else none
    else none

def numeric? (p : Nat) : Option Nat :=
  let hex := (wordAnyCase? s "0x" p).bind fun q =>
    let r := hexEnd s s.size q
    if q < r then some r else none
  hex <|> decimal? s p <|> word? s "Infinity" p <|> word? s "NaN" p

def slice (p q : Nat) : String := String.ofList ((s.toList.drop p).take (q - p))

end Chars

def charEscape (c : Char) : Option Char :=
  if c == 'b' then some '\x08'
  else if c == 'f' then some '\x0C'
  else if c == 'n' then some '\n'
  else if c == 'r' then some '\r'
  else if c == 't' then some '\t'
  else if c == 'v' then some '\x0B'
  else if c == '\'' || c == '"' || c == '\\' then some c
  else if c.isDigit || c == 'x' || c == 'u' || isLineTerminator c then none
  else some c

def hexValue (cs : List Char) : Nat :=
  cs.foldl (fun acc c =>
    16 * acc + (if c.isDigit then c.toNat - 48
      else if 'a' ≤ c && c ≤ 'f' then c.toNat - 87 else c.toNat - 55)) 0

section Grammar

variable (s : Array Char)

def hexDigits (r : Rule) (n p : Nat) : Reading (Found Nat) :=
  named r p (pure (
    let ds := (s.toList.drop p).take n
    if ds.length == n && ds.all isHex then some (hexValue ds, p + n) else none))

def escapeAt (p : Nat) : Reading (Found Piece) := do
  let single ← named .charEscapeSequence p (pure (
    (s[p]?.bind charEscape).map fun c => (Piece.char c, p + 1)))
  if single.isSome then return single
  let nul ← named .nulEscapeSequence p (pure (
    if s[p]? == some '0' then some (Piece.char '\x00', p + 1) else none))
  if nul.isSome then return nul
  if s[p]? == some 'x' then
    if let some (v, q) ← hexDigits s .hexEscapeSequence 2 (p + 1) then
      return some (Piece.char (Char.ofNat v), q)
  if s[p]? == some 'u' then
    if let some (v, q) ← hexDigits s .unicodeEscapeSequence 4 (p + 1) then
      return some (Piece.unit v, q)
  return none

def charLiteral (p : Nat) : Reading (Found Piece) :=
  named .charLiteral p (pure (
    match s[p]? with
    | some c => if c == '\\' || isLineTerminator c then none else some (Piece.char c, p + 1)
    | none => none))

def stringPart (quote : Char) (p : Nat) : Reading (Found (Option Piece)) := do
  if s[p]? == some '\\' then
    if let some (piece, q) ← escapeAt s (p + 1) then return some (some piece, q)
    match s[p + 1]? with
    | some '\r' => return some (none, if s[p + 2]? == some '\n' then p + 3 else p + 2)
    | some c => if isLineTerminator c then return some (none, p + 2)
    | none => pure ()
  if s[p]? == some quote then return none
  match ← charLiteral s p with
  | some (piece, q) => return some (some piece, q)
  | none => return none

def stringParts (quote : Char) : Nat → Nat → List Piece → Reading (Found (List Piece))
  | 0, p, acc => return some (acc.reverse, p)
  | fuel + 1, p, acc => do
    match ← stringPart s quote p with
    | some (piece, q) => stringParts quote fuel q (match piece with
      | some x => x :: acc
      | none => acc)
    | none => return some (acc.reverse, p)

def stringAt (p : Nat) : Reading (Found (List Piece)) :=
  named .string p do
    match s[p]? with
    | some q =>
      if q == '"' || q == '\'' then
        match ← stringParts s q s.size (p + 1) [] with
        | some (pieces, r) => return (if s[r]? == some q then some (pieces, r + 1) else none)
        | none => return none
      else return none
    | none => return none

def nameStart (p : Nat) : Reading (Found Piece) := do
  match s[p]? with
  | some c =>
    if Text.isLetter c || c == '$' || c == '_' then
      if let some x ← charLiteral s p then return some x
  | none => pure ()
  if s[p]? == some '\\' && s[p + 1]? == some 'u' then
    if let some (v, q) ← hexDigits s .unicodeEscapeSequence 4 (p + 2) then
      return some (Piece.unit v, q)
  return none

def namePart (p : Nat) : Reading (Found Piece) := do
  if let some x ← nameStart s p then return some x
  match s[p]? with
  | some c =>
    if Text.isNamePart c || c.toNat == 0x200C || c.toNat == 0x200D then charLiteral s p
    else return none
  | none => return none

def nameParts : Nat → Nat → List Piece → Reading (Found (List Piece))
  | 0, p, acc => return some (acc.reverse, p)
  | fuel + 1, p, acc => do
    match ← namePart s p with
    | some (x, q) => nameParts fuel q (x :: acc)
    | none => return some (acc.reverse, p)

def identifierAt (p : Nat) : Reading (Found (List Piece)) :=
  named .identifier p do
    match ← nameStart s p with
    | some (x, q) =>
      match ← nameParts s s.size q [] with
      | some (xs, r) => return some (x :: xs, r)
      | none => return none
    | none => return none

def numberAt (p : Nat) : Reading (Found String) :=
  named .number p (pure (
    let q := if s[p]? == some '+' || s[p]? == some '-' then p + 1 else p
    (numeric? s q).map fun r => (slice s p r, r)))

def keyAt (p : Nat) : Reading (Found (List Piece)) := do
  if let some x ← identifierAt s p then return some x
  stringAt s p

mutual

def valueAt : Nat → Nat → Reading (Found Value)
  | 0, _ => return none
  | fuel + 1, p => do
    if let some x ← named .null p (pure ((word? s "null" p).map fun q => (Value.null, q))) then
      return some x
    if let some x ← named .boolean p (pure (
        ((word? s "true" p).map fun q => (Value.bool true, q)) <|>
          ((word? s "false" p).map fun q => (Value.bool false, q)))) then
      return some x
    if let some (pieces, q) ← stringAt s p then return some (.string pieces, q)
    if let some (text, q) ← numberAt s p then return some (.number text, q)
    if let some x ← named .object p (objectBody fuel p) then return some x
    named .array p (arrayBody fuel p)

def objectBody : Nat → Nat → Reading (Found Value)
  | 0, _ => return none
  | fuel + 1, p => do
    if s[p]? != some '{' then return none
    let q := skip s (p + 1)
    if s[q]? == some '}' then return some (.object [], q + 1)
    match ← entryAt fuel q with
    | none => return none
    | some (first, r) =>
      match ← moreEntries fuel r [first] with
      | none => return none
      | some (entries, t) =>
        let u := skip s t
        let u := if s[u]? == some ',' then skip s (u + 1) else u
        return (if s[u]? == some '}' then some (.object entries, u + 1) else none)

def entryAt : Nat → Nat → Reading (Found (List Piece × Value))
  | 0, _ => return none
  | fuel + 1, p => do
    match ← keyAt s p with
    | none => return none
    | some (key, q) =>
      let q := skip s q
      if s[q]? != some ':' then return none
      match ← valueAt fuel (skip s (q + 1)) with
      | some (v, r) => return some ((key, v), r)
      | none => return none

def moreEntries : Nat → Nat → List (List Piece × Value) → Reading (Found (List (List Piece × Value)))
  | 0, p, acc => return some (acc.reverse, p)
  | fuel + 1, p, acc => do
    let q := skip s p
    if s[q]? != some ',' then return some (acc.reverse, p)
    match ← entryAt fuel (skip s (q + 1)) with
    | some (e, r) => moreEntries fuel r (e :: acc)
    | none => return some (acc.reverse, p)

def arrayBody : Nat → Nat → Reading (Found Value)
  | 0, _ => return none
  | fuel + 1, p => do
    if s[p]? != some '[' then return none
    let q := skip s (p + 1)
    if s[q]? == some ']' then return some (.array [], q + 1)
    match ← valueAt fuel q with
    | none => return none
    | some (first, r) =>
      match ← moreItems fuel r [first] with
      | none => return none
      | some (items, t) =>
        let u := skip s t
        let u := if s[u]? == some ',' then skip s (u + 1) else u
        return (if s[u]? == some ']' then some (.array items, u + 1) else none)

def moreItems : Nat → Nat → List Value → Reading (Found (List Value))
  | 0, p, acc => return some (acc.reverse, p)
  | fuel + 1, p, acc => do
    let q := skip s p
    if s[q]? != some ',' then return some (acc.reverse, p)
    match ← valueAt fuel (skip s (q + 1)) with
    | some (v, r) => moreItems fuel r (v :: acc)
    | none => return some (acc.reverse, p)

end

def textAt : Reading (Found Value) := do
  match ← valueAt s (2 * s.size + 2) (skip s 0) with
  | none => return none
  | some (v, q) =>
    let r := skip s q
    named .endOfInput r (pure (if r == s.size then some (v, r) else none))

end Grammar

/-! ## Faults -/

def lineColumn : List Char → Nat → Nat → Nat × Nat
  | [], line, column => (line, column)
  | '\r' :: '\n' :: rest, line, _ => lineColumn rest (line + 1) 1
  | '\n' :: rest, line, _ => lineColumn rest (line + 1) 1
  | _ :: rest, line, column => lineColumn rest line (column + 1)

def lineAround (chars : List Char) (p : Nat) : List Char :=
  let before := (chars.take p).reverse.takeWhile (· != '\n') |>.reverse
  let after := chars.drop p
  let rest := match after.findIdx? (· == '\n') with
    | some i => after.take (i + 1)
    | none => after
  before ++ rest

def report (chars : List Char) (a : Attempts) : String :=
  let p := a.position
  let (line, column) := lineColumn (chars.take p) 1 1
  let around := lineAround chars p
  let atBreak := chars[p]? == some '\n' || chars[p]? == some '\r'
  let shown := if atBreak then
      around.map fun c => if c == '\r' then Char.ofNat 0x240D
        else if c == '\n' then Char.ofNat 0x240A else c
    else around.filter fun c => c != '\r' && c != '\n'
  let mark := String.ofList ((shown.take (column - 1)).map fun c => if c == '\t' then '\t' else ' ')
    ++ "^---"
  let number := toString line
  let pad := String.ofList (List.replicate number.length ' ')
  pad ++ "--> " ++ number ++ ":" ++ toString column ++ "\n" ++
    pad ++ " |\n" ++
    number ++ " | " ++ String.ofList shown ++ "\n" ++
    pad ++ " | " ++ mark ++ "\n" ++
    pad ++ " |\n" ++
    pad ++ " = " ++ a.message

def read (text : String) : Except String Value :=
  let s := text.toList.toArray
  match (textAt s).run ⟨0, []⟩ with
  | (some (v, _), _) => .ok v
  | (none, a) => .error (report text.toList a)

end AdminShell.Json5
