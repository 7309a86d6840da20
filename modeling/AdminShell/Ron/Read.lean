import AdminShell.Number.Read
import AdminShell.Text.Quoted

/-! # Reading RON texts

A RON text holds one value, with white space and comments (`//` to the end of the line,
`/* */` nested) around its parts, and optionally `#![enable(...)]` attributes before it:

* `true` and `false`; `Some(v)` and `None`; `()` for the unit;
* an identifier alone is a unit; an identifier or nothing followed by `(` opens a struct
  when an identifier and `:` come first, else a tuple;
* `[a, b]` a sequence, `{k: v}` a map, `(a: 1)` a struct with identifiers as keys;
* numbers: integers in base 10, or 16, 2 and 8 after `0x`, `0b` and `0o`, with `_` between
  digits; a number whose float characters run further than its integer characters is a float,
  as are `inf`, `-inf` and `NaN`; an integer past the signed 64-bit range without a sign
  becomes the nearest float;
* strings between double quotes with escapes, raw strings `r#"..."#`, characters `'c'`.

Commas separate items; one may end a list. The text is read as UTF-8 bytes, and a fault names
the line and the byte column where reading stopped, both from one.
-/

namespace AdminShell.Ron

inductive Value where
  | bool (b : Bool)
  | char (c : Char)
  | map (entries : List (Value × Value))
  | integer (i : Int)
  | float (x : Number.Double)
  | option (v : Option Value)
  | string (s : String)
  | seq (items : List Value)
  | unit

inductive Problem where
  | endOfInput
  | expectedArrayEnd
  | expectedAttribute
  | expectedAttributeEnd
  | expectedComma
  | expectedChar
  | expectedFloat
  | floatUnderscore
  | expectedInteger
  | expectedOption
  | expectedOptionEnd
  | expectedMapColon
  | expectedMapEnd
  | expectedStructLikeEnd
  | expectedString
  | expectedStringEnd
  | expectedIdentifier
  | invalidEscape (why : String)
  | integerOutOfBounds
  | noSuchExtension (name : String)
  | unclosedBlockComment
  | underscoreAtBeginning
  | unexpectedByte (b : UInt8)
  | trailingCharacters
  | exceededRecursionLimit
  | invalidUtf8 (validUpTo : Nat) (badLength : Option Nat)
  deriving DecidableEq, Repr

def Problem.message : Problem → String
  | .endOfInput => "Unexpected end of RON"
  | .expectedArrayEnd => "Expected closing `]`"
  | .expectedAttribute => "Expected an `#![enable(...)]` attribute"
  | .expectedAttributeEnd => "Expected closing `)]` after the enable attribute"
  | .expectedComma => "Expected comma"
  | .expectedChar => "Expected char"
  | .expectedFloat => "Expected float"
  | .floatUnderscore => "Unexpected underscore in float"
  | .expectedInteger => "Expected integer"
  | .expectedOption => "Expected option"
  | .expectedOptionEnd => "Expected closing `)`"
  | .expectedMapColon => "Expected colon"
  | .expectedMapEnd => "Expected closing `\x7d`"
  | .expectedStructLikeEnd => "Expected closing `)`"
  | .expectedString => "Expected string"
  | .expectedStringEnd => "Expected end of string"
  | .expectedIdentifier => "Expected identifier"
  | .invalidEscape why => why
  | .integerOutOfBounds => "Integer is out of bounds"
  | .noSuchExtension name => "No RON extension named `" ++ name ++ "`"
  | .unclosedBlockComment => "Unclosed block comment"
  | .underscoreAtBeginning => "Unexpected leading underscore in an integer"
  | .unexpectedByte b => "Unexpected byte " ++ Text.quotedChar (Char.ofNat b.toNat)
  | .trailingCharacters => "Non-whitespace trailing characters"
  | .exceededRecursionLimit =>
    "Exceeded recursion limit, try increasing `ron::Options::recursion_limit` " ++
      "and using `serde_stacker` to protect against a stack overflow"
  | .invalidUtf8 i (some n) =>
    "invalid utf-8 sequence of " ++ toString n ++ " bytes from index " ++ toString i
  | .invalidUtf8 i none => "incomplete utf-8 byte sequence from index " ++ toString i

structure Fault where
  problem : Problem
  line : Nat
  column : Nat
  deriving DecidableEq, Repr

def Fault.render (f : Fault) : String :=
  toString f.line ++ ":" ++ toString f.column ++ ": " ++ f.problem.message

/-- Where reading stands: the bytes from the cursor on, and the cursor's line and column. -/
structure Cursor where
  rest : List UInt8
  line : Nat
  column : Nat

def Cursor.advance : Nat → Cursor → Cursor
  | 0, c => c
  | n + 1, c =>
    match c.rest with
    | [] => c
    | b :: rest =>
      let feed := b == '\n'.toUInt8
      Cursor.advance n ⟨rest, if feed then c.line + 1 else c.line,
        if feed then 1 else c.column + 1⟩

abbrev Parse := StateT Cursor (Except Fault)

def fail {α : Type} (p : Problem) : Parse α := do
  let c ← get
  throw ⟨p, c.line, c.column⟩

def peekByte : Parse UInt8 := do
  match (← get).rest with
  | b :: _ => return b
  | [] => fail .endOfInput

def skip (n : Nat) : Parse Unit := modify (Cursor.advance n)

def eatByte : Parse UInt8 := do
  let b ← peekByte
  skip 1
  return b

def wordBytes (s : String) : List UInt8 := s.toList.map Char.toUInt8

def startsWithWord (s : String) (rest : List UInt8) : Bool := (wordBytes s).isPrefixOf rest

def consume (s : String) : Parse Bool := do
  if startsWithWord s (← get).rest then
    skip s.length
    return true
  else return false

def isBlankByte (b : UInt8) : Bool := b == 0x20 || (0x09 ≤ b && b ≤ 0x0D)

def isDigitByte (b : UInt8) : Bool := '0'.toUInt8 ≤ b && b ≤ '9'.toUInt8

def isIdentFirst (b : UInt8) : Bool :=
  ('a'.toUInt8 ≤ b && b ≤ 'z'.toUInt8) || ('A'.toUInt8 ≤ b && b ≤ 'Z'.toUInt8) ||
    b == '_'.toUInt8

def isIdentOther (b : UInt8) : Bool := isIdentFirst b || isDigitByte b

def hexDigit? (b : UInt8) : Option Nat :=
  if isDigitByte b then some (b.toNat - 0x30)
  else if 'a'.toUInt8 ≤ b && b ≤ 'f'.toUInt8 then some (b.toNat - 0x61 + 10)
  else if 'A'.toUInt8 ≤ b && b ≤ 'F'.toUInt8 then some (b.toNat - 0x41 + 10)
  else none

def isIntByte (b : UInt8) : Bool := (hexDigit? b).isSome || b == '_'.toUInt8

def isFloatByte (b : UInt8) : Bool := isDigitByte b || (wordBytes "eE.+-_").contains b

def skipBlock : Nat → Nat → Parse Unit
  | 0, _ => pure ()
  | _, 0 => pure ()
  | fuel + 1, level + 1 => do
    let rest := (← get).rest
    if rest.isEmpty then fail .unclosedBlockComment
    skip (rest.takeWhile (fun b => b != '/'.toUInt8 && b != '*'.toUInt8)).length
    if ← consume "/*" then skipBlock fuel (level + 2)
    else if ← consume "*/" then skipBlock fuel level
    else
      if (← get).rest.isEmpty then fail .unclosedBlockComment
      skip 1
      skipBlock fuel (level + 1)

def skipComment : Parse Bool := do
  if !(← consume "/") then return false
  let b ← eatByte
  if b == '/'.toUInt8 then
    skip ((← get).rest.takeWhile (· != '\n'.toUInt8)).length
  else if b == '*'.toUInt8 then
    skipBlock ((← get).rest.length + 1) 1
  else fail (.unexpectedByte b)
  return true

def skipBlankFor : Nat → Parse Unit
  | 0 => pure ()
  | fuel + 1 => do
    skip ((← get).rest.takeWhile isBlankByte).length
    if ← skipComment then skipBlankFor fuel

def skipBlank : Parse Unit := do skipBlankFor ((← get).rest.length + 1)

def comma : Parse Bool := do
  skipBlank
  if ← consume "," then
    skipBlank
    return true
  else return false

def startsWithIdent (s : String) (rest : List UInt8) : Bool :=
  startsWithWord s rest && !((rest.drop s.length).head?.any isIdentOther)

def consumeIdent (s : String) : Parse Bool := do
  if startsWithIdent s (← get).rest then
    skip s.length
    return true
  else return false

def identifierLength? : List UInt8 → Except Problem Nat
  | [] => .error .endOfInput
  | rest@(b :: more) =>
    if !isIdentFirst b then .error .expectedIdentifier
    else if b == 'r'.toUInt8 then
      match more with
      | [] => .error .endOfInput
      | s :: _ =>
        if s == '"'.toUInt8 || s == '#'.toUInt8 then .error .expectedIdentifier
        else .ok (rest.takeWhile isIdentOther).length
    else .ok (rest.takeWhile isIdentOther).length

def identifier : Parse String := do
  let rest := (← get).rest
  match identifierLength? rest with
  | .error p => fail p
  | .ok n =>
    skip n
    return String.ofList ((rest.take n).map fun b => Char.ofNat b.toNat)

/-! ## Numbers -/

def int64Max : Int := 9223372036854775807

def int64Min : Int := -9223372036854775808

def uint64Max : Int := 18446744073709551615

/-- Reads digits in a base, `_` skipped, adding or taking away each digit, within bounds.
Every step checks the product first, then the digit, then the sum. -/
def digitsValue (base : Nat) (negative : Bool) (lo hi : Int) :
    List UInt8 → Int → Except Problem Int
  | [], acc => .ok acc
  | b :: rest, acc =>
    if b == '_'.toUInt8 then digitsValue base negative lo hi rest acc
    else
      let scaled := acc * base
      if scaled < lo || hi < scaled then .error .integerOutOfBounds
      else
        match hexDigit? b with
        | none => .error (.invalidEscape "Non-hex digit found")
        | some d =>
          if base ≤ d then .error .expectedInteger
          else
            let next := if negative then scaled - d else scaled + d
            if next < lo || hi < next then .error .integerOutOfBounds
            else digitsValue base negative lo hi rest next

def baseOf : List UInt8 → Nat
  | a :: b :: _ =>
    if a != '0'.toUInt8 then 10
    else if b == 'x'.toUInt8 then 16
    else if b == 'b'.toUInt8 then 2
    else if b == 'o'.toUInt8 then 8
    else 10
  | _ => 10

def integerBody (negative : Bool) (lo hi : Int) : Parse Int := do
  let base := baseOf (← get).rest
  if base != 10 then skip 2
  let body := (← get).rest.takeWhile isIntByte
  match body with
  | [] => fail .expectedInteger
  | first :: _ =>
    if first == '_'.toUInt8 then fail .underscoreAtBeginning
    match digitsValue base negative lo hi body 0 with
    | .ok v =>
      skip body.length
      return v
    | .error p => fail p

def signedInteger : Parse Int := do
  let b ← peekByte
  if b == '+'.toUInt8 then
    skip 1
    integerBody false int64Min int64Max
  else if b == '-'.toUInt8 then
    skip 1
    integerBody true int64Min int64Max
  else integerBody false int64Min int64Max

def floatWords : List String := ["inf", "+inf", "-inf", "NaN", "+NaN", "-NaN"]

def float : Parse Number.Double := do
  for w in floatWords do
    if ← consumeIdent w then
      return (Number.readFloat? w).getD Number.Double.nan
  let body := (← get).rest.takeWhile isFloatByte
  match body.findIdx? (· == '_'.toUInt8) with
  | some i =>
    skip i
    fail .floatUnderscore
  | none =>
    skip body.length
    match Number.readFloat? (String.ofList (body.map fun b => Char.ofNat b.toNat)) with
    | some x => return x
    | none => fail .expectedFloat

def isFloatAhead (rest : List UInt8) : Bool :=
  let body := match rest with
    | b :: more => if b == '+'.toUInt8 || b == '-'.toUInt8 then more else rest
    | [] => []
  (body.takeWhile isIntByte).length < (body.takeWhile isFloatByte).length

/-- Reads a number: a float, a signed integer, or an unsigned one, which past the signed
range becomes the nearest double. -/
def anyNumber : Parse Value := do
  let rest := (← get).rest
  let first ← peekByte
  if isFloatAhead rest then return .float (← float)
  else if first == '+'.toUInt8 || first == '-'.toUInt8 then return .integer (← signedInteger)
  else
    let n ← integerBody false 0 uint64Max
    return if n ≤ int64Max then .integer n else .float (Number.nearest n.toNat 1)

/-! ## Strings and characters -/

def isContinuation (b : UInt8) : Bool := 0x80 ≤ b && b ≤ 0xBF

/-- Decodes UTF-8 bytes from an index, or says where they go wrong: the index of the bad
sequence and its length, none when the bytes end inside it. Overlong forms, surrogates and
code points past `0x10FFFF` are refused. -/
def decodeFrom (index : Nat) : List UInt8 → Except (Nat × Option Nat) (List Char)
  | [] => .ok []
  | b :: rest =>
    if b < 0x80 then (Char.ofNat b.toNat :: ·) <$> decodeFrom (index + 1) rest
    else if 0xC2 ≤ b && b ≤ 0xDF then
      match rest with
      | [] => .error (index, none)
      | c :: rest2 =>
        if !isContinuation c then .error (index, some 1)
        else
          (Char.ofNat ((b.toNat % 32) * 64 + c.toNat % 64) :: ·) <$> decodeFrom (index + 2) rest2
    else if 0xE0 ≤ b && b ≤ 0xEF then
      match rest with
      | [] => .error (index, none)
      | c :: rest2 =>
        let secondOk :=
          if b == 0xE0 then 0xA0 ≤ c && c ≤ 0xBF
          else if b == 0xED then 0x80 ≤ c && c ≤ 0x9F
          else isContinuation c
        if !secondOk then .error (index, some 1)
        else
          match rest2 with
          | [] => .error (index, none)
          | d :: rest3 =>
            if !isContinuation d then .error (index, some 2)
            else
              (Char.ofNat ((b.toNat % 16) * 4096 + (c.toNat % 64) * 64 + d.toNat % 64) :: ·) <$>
                decodeFrom (index + 3) rest3
    else if 0xF0 ≤ b && b ≤ 0xF4 then
      match rest with
      | [] => .error (index, none)
      | c :: rest2 =>
        let secondOk :=
          if b == 0xF0 then 0x90 ≤ c && c ≤ 0xBF
          else if b == 0xF4 then 0x80 ≤ c && c ≤ 0x8F
          else isContinuation c
        if !secondOk then .error (index, some 1)
        else
          match rest2 with
          | [] => .error (index, none)
          | d :: rest3 =>
            if !isContinuation d then .error (index, some 2)
            else
              match rest3 with
              | [] => .error (index, none)
              | e :: rest4 =>
                if !isContinuation e then .error (index, some 3)
                else
                  (Char.ofNat ((b.toNat % 8) * 262144 + (c.toNat % 64) * 4096 +
                      (d.toNat % 64) * 64 + e.toNat % 64) :: ·) <$>
                    decodeFrom (index + 4) rest4
    else .error (index, some 1)

def decodeText (bytes : List UInt8) : Parse String :=
  match decodeFrom 0 bytes with
  | .ok cs => return String.ofList cs
  | .error (i, n) => fail (.invalidUtf8 i n)

inductive Escaped where
  | byte (b : UInt8)
  | char (c : Char)

def hexAt (b : UInt8) : Parse Nat :=
  match hexDigit? b with
  | some d => return d
  | none => fail (.invalidEscape "Non-hex digit found")

def expectByte (want : UInt8) (p : Problem) : Parse Unit := do
  let b ← eatByte
  if b != want then fail p

def unicodeDigits : Nat → Nat → Nat → Parse (Nat × Nat)
  | 0, value, count => return (value, count)
  | left + 1, value, count => do
    let b ← peekByte
    if b == '}'.toUInt8 then return (value, count)
    skip 1
    let d ← hexAt b
    unicodeDigits left (16 * value + d) (count + 1)

def escape : Parse Escaped := do
  let b ← eatByte
  if b == '\''.toUInt8 || b == '"'.toUInt8 || b == '\\'.toUInt8 then return .byte b
  else if b == 'n'.toUInt8 then return .byte 0x0A
  else if b == 'r'.toUInt8 then return .byte 0x0D
  else if b == 't'.toUInt8 then return .byte 0x09
  else if b == '0'.toUInt8 then return .byte 0
  else if b == 'x'.toUInt8 then
    let high ← hexAt (← eatByte)
    let low ← hexAt (← eatByte)
    return .byte (UInt8.ofNat (16 * high + low))
  else if b == 'u'.toUInt8 then
    expectByte '{'.toUInt8 (.invalidEscape "Missing \x7b in Unicode escape")
    let (value, count) ← unicodeDigits 6 0 0
    if count == 0 then
      fail (.invalidEscape "Expected 1-6 digits, got 0 digits in Unicode escape")
    expectByte '}'.toUInt8 (.invalidEscape "No \x7d at the end of Unicode escape")
    if value < 0x110000 && !(0xD800 ≤ value && value ≤ 0xDFFF) then
      return .char (Char.ofNat value)
    else fail (.invalidEscape "Not a valid char")
  else fail (.invalidEscape "Unknown escape character")

def Escaped.bytes : Escaped → List UInt8
  | .byte b => [b]
  | .char c => (String.singleton c).toUTF8.toList

def quotedBody : Nat → List UInt8 → Parse (List UInt8)
  | 0, acc => return acc
  | fuel + 1, acc => do
    let rest := (← get).rest
    match rest.findIdx? (fun b => b == '\\'.toUInt8 || b == '"'.toUInt8) with
    | none => fail .expectedStringEnd
    | some i =>
      let acc := acc ++ rest.take i
      skip (i + 1)
      if rest.getD i 0 == '"'.toUInt8 then return acc
      let e ← escape
      quotedBody fuel (acc ++ e.bytes)

def findPattern (pattern : List UInt8) : List UInt8 → Nat → Option Nat
  | [], _ => none
  | l@(_ :: rest), i => if pattern.isPrefixOf l then some i else findPattern pattern rest (i + 1)

def rawString : Parse String := do
  let hashes := ((← get).rest.takeWhile (· == '#'.toUInt8)).length
  skip hashes
  if !(← consume "\"") then fail .expectedString
  let rest := (← get).rest
  match findPattern ('"'.toUInt8 :: List.replicate hashes '#'.toUInt8) rest 0 with
  | none => fail .expectedStringEnd
  | some i =>
    skip (i + hashes + 1)
    decodeText (rest.take i)

def string : Parse String := do
  if ← consume "\"" then
    let bytes ← quotedBody ((← get).rest.length + 1) []
    decodeText bytes
  else if ← consume "r" then rawString
  else fail .expectedString

def charLiteral : Parse Char := do
  if !(← consume "'") then fail .expectedChar
  let b ← peekByte
  let c ← if b == '\\'.toUInt8 then do
      skip 1
      match ← escape with
      | .byte v => pure (Char.ofNat v.toNat)
      | .char ch => pure ch
    else do
      let rest := (← get).rest
      match (rest.take 5).findIdx? (· == '\''.toUInt8) with
      | none => fail .expectedChar
      | some n =>
        match decodeFrom 0 (rest.take n) with
        | .error (i, l) => fail (.invalidUtf8 i l)
        | .ok [ch] =>
          skip n
          pure ch
        | .ok _ => fail .expectedChar
  if !(← consume "'") then fail .expectedChar
  return c

/-! ## Values -/

def tupleAhead : Parse Bool := do
  skip 1
  skipBlank
  match identifierLength? (← get).rest with
  | .error _ => return true
  | .ok n =>
    skip n
    skipBlank
    return (← eatByte) != ':'.toUInt8

/-- Whether there is another item before the closing byte: after a comma there may be
none, and without one the closing byte must come. -/
def hasElement (stop : UInt8) (hadComma : Bool) : Parse Bool := do
  skipBlank
  let b ← peekByte
  if hadComma then return b != stop
  else if b == stop then return false
  else fail .expectedComma

def nest (room : Nat) : Parse Nat :=
  match room with
  | 0 => fail .exceededRecursionLimit
  | r + 1 => return r

mutual

def anyValue : Nat → Nat → Parse Value
  | 0, _ => fail .endOfInput
  | fuel + 1, room => do
    if ← consumeIdent "true" then return .bool true
    if ← consumeIdent "false" then return .bool false
    if startsWithIdent "Some" (← get).rest then return ← someValue fuel room
    if ← consumeIdent "None" then return .option none
    if ← consume "()" then return .unit
    if ← consumeIdent "inf" then return .float Number.Double.infinity
    if ← consumeIdent "-inf" then return .float Number.Double.infinity.neg
    if ← consumeIdent "NaN" then return .float Number.Double.nan
    match identifierLength? (← get).rest with
    | .ok n =>
      skip n
      skipBlank
      anyStruct fuel room
    | .error _ =>
      let b ← peekByte
      if b == '('.toUInt8 then anyStruct fuel room
      else if b == '['.toUInt8 then
        skip 1
        let r ← nest room
        let items ← seqItems fuel r ']'.toUInt8 true []
        skipBlank
        if ← consume "]" then return .seq items else fail .expectedArrayEnd
      else if b == '{'.toUInt8 then
        skip 1
        let r ← nest room
        let entries ← mapEntries fuel r '}'.toUInt8 true []
        skipBlank
        if ← consume "\x7d" then return .map entries else fail .expectedMapEnd
      else if isDigitByte b || b == '+'.toUInt8 || b == '-'.toUInt8 then anyNumber
      else if b == '.'.toUInt8 then return .float (← float)
      else if b == '"'.toUInt8 || b == 'r'.toUInt8 then return .string (← string)
      else if b == '\''.toUInt8 then return .char (← charLiteral)
      else fail (.unexpectedByte b)

def someValue : Nat → Nat → Parse Value
  | 0, _ => fail .endOfInput
  | fuel + 1, room => do
    let _ ← consume "Some"
    skipBlank
    if !(← consume "(") then fail .expectedOption
    skipBlank
    let r ← nest room
    let v ← anyValue fuel r
    let _ ← comma
    if ← consume ")" then return .option (some v) else fail .expectedOptionEnd

def anyStruct : Nat → Nat → Parse Value
  | 0, _ => fail .endOfInput
  | fuel + 1, room => do
    let c ← get
    if !startsWithWord "(" c.rest then return .unit
    let isTuple ← match tupleAhead.run c with
      | .ok (t, _) => pure t
      | .error f => fail f.problem
    skip 1
    let r ← nest room
    if isTuple then
      let items ← seqItems fuel r ')'.toUInt8 true []
      skipBlank
      if ← consume ")" then return .seq items else fail .expectedStructLikeEnd
    else
      let entries ← mapEntries fuel r ')'.toUInt8 true []
      skipBlank
      if ← consume ")" then return .map entries else fail .expectedStructLikeEnd

def seqItems : Nat → Nat → UInt8 → Bool → List Value → Parse (List Value)
  | 0, _, _, _, acc => return acc.reverse
  | fuel + 1, room, stop, hadComma, acc => do
    if !(← hasElement stop hadComma) then return acc.reverse
    let r ← nest room
    let v ← anyValue fuel r
    let more ← comma
    seqItems fuel room stop more (v :: acc)

def mapEntries : Nat → Nat → UInt8 → Bool → List (Value × Value) →
    Parse (List (Value × Value))
  | 0, _, _, _, acc => return acc.reverse
  | fuel + 1, room, stop, hadComma, acc => do
    if !(← hasElement stop hadComma) then return acc.reverse
    let key ← if stop == ')'.toUInt8 then Value.string <$> identifier else anyValue fuel room
    skipBlank
    if !(← consume ":") then fail .expectedMapColon
    skipBlank
    let r ← nest room
    let v ← anyValue fuel r
    let more ← comma
    mapEntries fuel room stop more ((key, v) :: acc)

end

/-! ## Attributes and the whole text -/

def extensionNames : List String := ["unwrap_newtypes", "implicit_some", "unwrap_variant_newtypes"]

def consumeAll (words : List String) : Parse Bool :=
  words.foldlM (fun ok w => do
    if ← consume w then
      skipBlank
      return ok
    else return false) true

def extensionList : Nat → Parse Unit
  | 0 => pure ()
  | fuel + 1 => do
    let name ← identifier
    if !extensionNames.contains name then fail (.noSuchExtension name)
    let more ← comma
    let identAhead := (← get).rest.head?.any isIdentOther
    if !more && identAhead then fail .expectedComma
    if more && identAhead then extensionList fuel

def enableAttribute : Parse Bool := do
  if (← get).rest.head? != some '#'.toUInt8 then return false
  if !(← consume "#!") then fail .expectedAttribute
  skipBlank
  let _ ← consumeAll ["[", "enable", "("]
  extensionList ((← get).rest.length + 1)
  skipBlank
  if ← consumeAll [")", "]"] then return true else fail .expectedAttributeEnd

def enableAttributes : Nat → Parse Unit
  | 0 => pure ()
  | fuel + 1 => do
    if ← enableAttribute then
      skipBlank
      enableAttributes fuel

def nestingLimit : Nat := 128

def document : Parse Value := do
  skipBlank
  enableAttributes ((← get).rest.length + 1)
  let v ← anyValue (4 * (← get).rest.length + 16) nestingLimit
  skipBlank
  if !(← get).rest.isEmpty then fail .trailingCharacters
  return v

def read (text : String) : Except Fault Value :=
  (document.run ⟨text.toUTF8.toList, 1, 1⟩).map Prod.fst

end AdminShell.Ron
