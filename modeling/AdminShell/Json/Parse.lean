import AdminShell.Json.Node

/-! # Reading JSON text

`Json.read` turns a text into a `Document`: the root `Node`, read up to the text's first
syntax fault, and a fault for text after the root. The reader is strict RFC 8259 JSON with
these decisions:

* white space is space, tab, line feed and carriage return;
* an integer literal is an unsigned 64-bit number when it fits, a negative 64-bit number
  when it fits, and a double otherwise; `-0` is the double `-0.0`;
* a literal with a fraction or an exponent is a double, computed from its first 19 or 20
  significant digits (those that fit 64 bits) scaled by a table of powers of ten, one
  multiplication or division per step of at most `10^308`; a finite literal whose value
  overflows is the fault "number out of range";
* at most 127 containers may be open at once;
* `\u` escapes must pair surrogates.

A fault's place is the line and the byte column of the last byte read, or of the next byte
for faults found by looking ahead, as the messages report them.
-/

namespace AdminShell.Json

/-- Where the reader stands: the rest of the text, the line, and the bytes read on it. -/
structure Cursor where
  rest : List Char
  line : Nat
  column : Nat
  depth : Nat
  deriving Inhabited

namespace Cursor

def start (s : String) : Cursor := ⟨s.toList, 1, 0, 0⟩

def peek (c : Cursor) : Option Char := c.rest.head?

def advance (c : Cursor) : Cursor :=
  match c.rest with
  | [] => c
  | ch :: rest =>
    if ch = '\n' then { c with rest := rest, line := c.line + 1, column := 0 }
    else { c with rest := rest, column := c.column + ch.utf8Size }

def fault (c : Cursor) (code : FaultCode) : Fault := ⟨code, c.line, c.column⟩

def peekFault (c : Cursor) (code : FaultCode) : Fault :=
  match c.rest with
  | [] => ⟨code, c.line, c.column⟩
  | '\n' :: _ => ⟨code, c.line + 1, 0⟩
  | _ :: _ => ⟨code, c.line, c.column + 1⟩

def skipBlank (c : Cursor) : Cursor :=
  let blank := c.rest.takeWhile (fun ch => ch = ' ' || ch = '\n' || ch = '\t' || ch = '\r')
  blank.foldl (fun acc _ => acc.advance) c

def shift (c : Cursor) (bytes : Nat) : Cursor := { c with column := c.column + bytes }

end Cursor

/-! ## Numbers -/

def u64Max : Nat := 18446744073709551615

def i32Max : Int := 2147483647

def overflows64 (acc d : Nat) : Bool :=
  acc ≥ u64Max / 10 && (acc > u64Max / 10 || d > u64Max % 10)

def overflows32 (acc d : Nat) : Bool :=
  acc ≥ 214748364 && (acc > 214748364 || d > 7)

def clamp32 (x : Int) : Int :=
  if x > i32Max then i32Max else if x < -i32Max - 1 then -i32Max - 1 else x

def pow10 (k : Nat) : Float := Float.ofScientific 1 false k

/-- `significand · 10^exponent` by the reader's steps: one multiplication or division by a
power of ten of at most `10^308` at a time; `none` when a positive step overflows. -/
def scaleByTen : Int → Nat → Float → Option Float
  | _, 0, f => some f
  | exponent, fuel + 1, f =>
    if exponent.natAbs ≤ 308 then
      if exponent ≥ 0 then
        let g := f * pow10 exponent.toNat
        if g.isInf then none else some g
      else some (f / pow10 exponent.natAbs)
    else if f == 0 then some f
    else if exponent ≥ 0 then none
    else scaleByTen (exponent + 308) fuel (f / pow10 308)

def floatOfParts (c : Cursor) (positive : Bool) (significand : Nat) (exponent : Int) :
    Except Fault Float :=
  match scaleByTen exponent 20 (Float.ofNat significand) with
  | some f => .ok (if positive then f else -f)
  | none => .error (c.fault .numberOutOfRange)

def exponentDigits (positiveExp zeroSignificand : Bool) :
    List Char → Cursor → Nat → Except Fault (Option Nat × Cursor)
  | [], c, acc => .ok (some acc, c)
  | ch :: rest, c, acc =>
    if ch.isDigit then
      let d := ch.toNat - 48
      let c' := c.advance
      if overflows32 acc d then
        if !zeroSignificand && positiveExp then .error (c'.fault .numberOutOfRange)
        else .ok (none, (c'.rest.takeWhile Char.isDigit).foldl (fun a _ => a.advance) c')
      else exponentDigits positiveExp zeroSignificand rest c' (acc * 10 + d)
    else .ok (some acc, c)

def readExponent (c : Cursor) (positive : Bool) (significand : Nat) (start : Int) :
    Except Fault (Float × Cursor) :=
  let c := c.advance
  let (positiveExp, c) :=
    match c.peek with
    | some '+' => (true, c.advance)
    | some '-' => (false, c.advance)
    | _ => (true, c)
  match c.peek with
  | none => .error (c.fault .eofWhileParsingValue)
  | some ch =>
    let c := c.advance
    if !ch.isDigit then .error (c.fault .invalidNumber)
    else
      match exponentDigits positiveExp (significand == 0) c.rest c (ch.toNat - 48) with
      | .error e => .error e
      | .ok (none, c) => .ok ((if positive then 0.0 else -0.0), c)
      | .ok (some e, c) =>
        let final := clamp32 (if positiveExp then start + e else start - e)
        match floatOfParts c positive significand final with
        | .ok f => .ok (f, c)
        | .error e => .error e

def fractionDigits : List Char → Cursor → Nat → Int → Bool × Nat × Int × Cursor
  | [], c, acc, e => (false, acc, e, c)
  | ch :: rest, c, acc, e =>
    if ch.isDigit then
      let d := ch.toNat - 48
      if overflows64 acc d then (true, acc, e, c)
      else fractionDigits rest c.advance (acc * 10 + d) (e - 1)
    else (false, acc, e, c)

def skipDigits (c : Cursor) : Cursor :=
  (c.rest.takeWhile Char.isDigit).foldl (fun a _ => a.advance) c

def finishFloat (c : Cursor) (positive : Bool) (significand : Nat) (exponent : Int) :
    Except Fault (Float × Cursor) :=
  match c.peek with
  | some 'e' | some 'E' => readExponent c positive significand exponent
  | _ =>
    match floatOfParts c positive significand exponent with
    | .ok f => .ok (f, c)
    | .error e => .error e

def readFraction (c : Cursor) (positive : Bool) (significand : Nat) (before : Int) :
    Except Fault (Float × Cursor) :=
  let c := c.advance
  let (overflowed, sig, after, c) := fractionDigits c.rest c significand 0
  if overflowed then finishFloat (skipDigits c) positive sig (before + after)
  else if after == 0 then
    match c.peek with
    | some _ => .error (c.peekFault .invalidNumber)
    | none => .error (c.peekFault .eofWhileParsingValue)
  else finishFloat c positive sig (before + after)

def extraDigits : List Char → Cursor → Nat → Nat × Cursor
  | [], c, n => (n, c)
  | ch :: rest, c, n => if ch.isDigit then extraDigits rest c.advance (n + 1) else (n, c)

def integerDigits : List Char → Cursor → Nat → Bool × Nat × Cursor
  | [], c, acc => (false, acc, c)
  | ch :: rest, c, acc =>
    if ch.isDigit then
      let d := ch.toNat - 48
      if overflows64 acc d then (true, acc, c)
      else integerDigits rest c.advance (acc * 10 + d)
    else (false, acc, c)

/-- The number after its integer part: a fraction, an exponent, or an integer. -/
def finishNumber (c : Cursor) (positive : Bool) (significand : Nat) :
    Except Fault (Number × Cursor) :=
  match c.peek with
  | some '.' =>
    match readFraction c positive significand 0 with
    | .ok (f, c) => .ok (.float f, c)
    | .error e => .error e
  | some 'e' | some 'E' =>
    match readExponent c positive significand 0 with
    | .ok (f, c) => .ok (.float f, c)
    | .error e => .error e
  | _ =>
    if positive then .ok (.nat significand, c)
    else if significand == 0 || significand > Nat.pow 2 63 then
      .ok (.float (-(Float.ofNat significand)), c)
    else .ok (.neg (-(significand : Int)), c)

def readNumber (c : Cursor) (positive : Bool) : Except Fault (Number × Cursor) :=
  match c.peek with
  | none => .error (c.fault .eofWhileParsingValue)
  | some ch =>
    let c := c.advance
    if ch = '0' then
      match c.peek with
      | some d => if d.isDigit then .error (c.peekFault .invalidNumber) else finishNumber c positive 0
      | none => finishNumber c positive 0
    else if ch.isDigit then
      let (overflowed, sig, c) := integerDigits c.rest c (ch.toNat - 48)
      if overflowed then
        let (extra, c) := extraDigits c.rest c 0
        match c.peek with
        | some '.' =>
          match readFraction c positive sig extra with
          | .ok (f, c) => .ok (.float f, c)
          | .error e => .error e
        | some 'e' | some 'E' =>
          match readExponent c positive sig extra with
          | .ok (f, c) => .ok (.float f, c)
          | .error e => .error e
        | _ =>
          match floatOfParts c positive sig extra with
          | .ok f => .ok (.float f, c)
          | .error e => .error e
      else finishNumber c positive sig
    else .error (c.fault .invalidNumber)

/-! ## Strings -/

def hexValue (ch : Char) : Option Nat :=
  if '0' ≤ ch && ch ≤ '9' then some (ch.toNat - 48)
  else if 'a' ≤ ch && ch ≤ 'f' then some (ch.toNat - 87)
  else if 'A' ≤ ch && ch ≤ 'F' then some (ch.toNat - 55)
  else none

def readHex4 (c : Cursor) : Except Fault (Nat × Cursor) :=
  match c.rest with
  | a :: b :: d :: e :: rest =>
    match hexValue a, hexValue b, hexValue d, hexValue e with
    | some x1, some x2, some x3, some x4 =>
      .ok (((x1 * 16 + x2) * 16 + x3) * 16 + x4, { c with rest := rest, column := c.column + 4 })
    | _, _, _, _ =>
      let bytes := (c.rest.map Char.utf8Size).foldl (· + ·) 0
      if bytes ≥ 4 then .error ((c.shift 4).fault .invalidEscape)
      else .error ((c.shift bytes).fault .eofWhileParsingString)
  | rest =>
    let bytes := (rest.map Char.utf8Size).foldl (· + ·) 0
    if bytes ≥ 4 then .error ((c.shift 4).fault .invalidEscape)
    else .error ((c.shift bytes).fault .eofWhileParsingString)

def readUnicodeEscape (c : Cursor) : Except Fault (Char × Cursor) :=
  match readHex4 c with
  | .error e => .error e
  | .ok (n, c) =>
    if 0xDC00 ≤ n && n ≤ 0xDFFF then .error (c.fault .loneLeadingSurrogateInHexEscape)
    else if n < 0xD800 || n > 0xDBFF then .ok (Char.ofNat n, c)
    else
      match c.peek with
      | none => .error (c.fault .eofWhileParsingString)
      | some '\\' =>
        let c := c.advance
        match c.peek with
        | none => .error (c.fault .eofWhileParsingString)
        | some 'u' =>
          match readHex4 c.advance with
          | .error e => .error e
          | .ok (n2, c) =>
            if n2 < 0xDC00 || n2 > 0xDFFF then .error (c.fault .loneLeadingSurrogateInHexEscape)
            else .ok (Char.ofNat ((n - 0xD800) * 1024 + (n2 - 0xDC00) + 0x10000), c)
        | some _ => .error ({ c.shift 1 with rest := c.rest.drop 1 }.fault .unexpectedEndOfHexEscape)
      | some _ => .error ({ c.shift 1 with rest := c.rest.drop 1 }.fault .unexpectedEndOfHexEscape)

def readStringBody : Nat → Cursor → List Char → Except Fault (String × Cursor)
  | 0, c, _ => .error (c.fault .eofWhileParsingString)
  | fuel + 1, c, acc =>
    match c.peek with
    | none => .error (c.fault .eofWhileParsingString)
    | some '"' => .ok (String.ofList acc.reverse, c.advance)
    | some '\\' =>
      let c := c.advance
      match c.peek with
      | none => .error (c.fault .eofWhileParsingString)
      | some e =>
        let c := c.advance
        let simple : Option Char :=
          if e = '"' then some '"' else if e = '\\' then some '\\' else if e = '/' then some '/'
          else if e = 'b' then some (Char.ofNat 8) else if e = 'f' then some (Char.ofNat 12)
          else if e = 'n' then some '\n' else if e = 'r' then some '\r'
          else if e = 't' then some '\t' else none
        match simple with
        | some ch => readStringBody fuel c (ch :: acc)
        | none =>
          if e = 'u' then
            match readUnicodeEscape c with
            | .ok (ch, c) => readStringBody fuel c (ch :: acc)
            | .error f => .error f
          else .error (c.fault .invalidEscape)
    | some ch =>
      let c := c.advance
      if ch.toNat < 0x20 then .error (c.fault .controlCharacterWhileParsingString)
      else readStringBody fuel c (ch :: acc)

def readString (c : Cursor) : Except Fault (String × Cursor) :=
  readStringBody (c.rest.length + 1) c []

/-! ## Values -/

def readIdent (c : Cursor) : List Char → Except Fault Cursor
  | [] => .ok c
  | x :: xs =>
    match c.peek with
    | none => .error (c.fault .eofWhileParsingValue)
    | some ch =>
      let c := c.advance
      if ch = x then readIdent c xs else .error (c.fault .expectedSomeIdent)

def maxDepth : Nat := 127

mutual

/-- Reads one value. The cursor is `none` after it when reading stopped at a fault. -/
def readValue : Nat → Cursor → Node × Option Cursor
  | 0, c => (.bad (c.fault .recursionLimitExceeded), none)
  | fuel + 1, c =>
    let c := c.skipBlank
    match c.peek with
    | none => (.bad (c.peekFault .eofWhileParsingValue), none)
    | some ch =>
      if ch = 'n' then
        match readIdent c.advance ['u', 'l', 'l'] with
        | .ok c => (.null, some c)
        | .error f => (.bad f, none)
      else if ch = 't' then
        match readIdent c.advance ['r', 'u', 'e'] with
        | .ok c => (.bool true, some c)
        | .error f => (.bad f, none)
      else if ch = 'f' then
        match readIdent c.advance ['a', 'l', 's', 'e'] with
        | .ok c => (.bool false, some c)
        | .error f => (.bad f, none)
      else if ch = '-' then
        match readNumber c.advance false with
        | .ok (n, c) => (.num n, some c)
        | .error f => (.bad f, none)
      else if ch.isDigit then
        match readNumber c true with
        | .ok (n, c) => (.num n, some c)
        | .error f => (.bad f, none)
      else if ch = '"' then
        match readString c.advance with
        | .ok (s, c) => (.str s, some c)
        | .error f => (.bad f, none)
      else if ch = '[' then
        if c.depth ≥ maxDepth then
          (.arr [] (some ⟨none, c.peekFault .recursionLimitExceeded⟩), none)
        else readItems fuel { c.advance with depth := c.depth + 1 } true []
      else if ch = '{' then
        if c.depth ≥ maxDepth then
          (.obj [] (some ⟨none, c.peekFault .recursionLimitExceeded⟩), none)
        else readFields fuel { c.advance with depth := c.depth + 1 } true []
      else (.bad (c.peekFault .expectedSomeValue), none)

def readItems : Nat → Cursor → Bool → List Node → Node × Option Cursor
  | 0, c, _, acc => (.arr acc.reverse (some ⟨none, c.fault .recursionLimitExceeded⟩), none)
  | fuel + 1, c, first, acc =>
    let stop (f : Fault) : Node × Option Cursor := (.arr acc.reverse (some ⟨none, f⟩), none)
    let c := c.skipBlank
    match c.peek with
    | none => stop (c.peekFault .eofWhileParsingList)
    | some ']' =>
      let c := c.advance
      (.arr acc.reverse none, some { c with depth := c.depth - 1 })
    | some ch =>
      let next : Except Fault Cursor :=
        if ch = ',' && !first then .ok c.advance.skipBlank
        else if first then .ok c
        else .error (c.peekFault .expectedListCommaOrEnd)
      match next with
      | .error f => stop f
      | .ok c =>
        match c.peek with
        | none => stop (c.peekFault .eofWhileParsingValue)
        | some ']' => stop (c.peekFault .trailingComma)
        | some _ =>
          match readValue fuel c with
          | (item, some c) => readItems fuel c false (item :: acc)
          | (item, none) => (.arr (item :: acc).reverse none, none)

def readFields : Nat → Cursor → Bool → List (String × Node) → Node × Option Cursor
  | 0, c, _, acc => (.obj acc.reverse (some ⟨none, c.fault .recursionLimitExceeded⟩), none)
  | fuel + 1, c, first, acc =>
    let stop (key : Option String) (f : Fault) : Node × Option Cursor :=
      (.obj acc.reverse (some ⟨key, f⟩), none)
    let c := c.skipBlank
    match c.peek with
    | none => stop none (c.peekFault .eofWhileParsingObject)
    | some '}' =>
      let c := c.advance
      (.obj acc.reverse none, some { c with depth := c.depth - 1 })
    | some ch =>
      let next : Except Fault Cursor :=
        if ch = ',' && !first then .ok c.advance.skipBlank
        else if first then .ok c
        else .error (c.peekFault .expectedObjectCommaOrEnd)
      match next with
      | .error f => stop none f
      | .ok c =>
        match c.peek with
        | none => stop none (c.peekFault .eofWhileParsingValue)
        | some '}' => stop none (c.peekFault .trailingComma)
        | some '"' =>
          match readString c.advance with
          | .error f => stop none f
          | .ok (key, c) =>
            let c := c.skipBlank
            match c.peek with
            | none => stop (some key) (c.peekFault .eofWhileParsingObject)
            | some ':' =>
              match readValue fuel c.advance with
              | (v, some c) => readFields fuel c false ((key, v) :: acc)
              | (v, none) => (.obj ((key, v) :: acc).reverse none, none)
            | some _ => stop (some key) (c.peekFault .expectedColon)
        | some _ => stop none (c.peekFault .keyMustBeAString)

end

/-- A text read as one JSON value: the root, and the fault of text after it. -/
structure Document where
  root : Node
  trailing : Option Fault
  deriving Inhabited

def read (s : String) : Document :=
  let c := Cursor.start s
  match readValue (2 * c.rest.length + 4) c with
  | (root, none) => ⟨root, none⟩
  | (root, some c) =>
    let c := c.skipBlank
    match c.peek with
    | none => ⟨root, none⟩
    | some _ => ⟨root, some (c.peekFault .trailingCharacters)⟩

def Document.fault? (d : Document) : Option Fault :=
  match d.root.fault? with
  | some f => some f
  | none => d.trailing

end AdminShell.Json
