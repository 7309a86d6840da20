/-! # JSON documents as read

A `Node` is a JSON value as the reader met it: object fields keep their order and their
duplicates, and numbers keep the class the reader gave them (an unsigned integer, a negative
integer or a float). A text is read up to its first syntax fault; the fault is kept in the
tree at the place where reading stopped, as the `stop` of the innermost open container or as
a `bad` value. A decoder that walks the tree in document order therefore meets the fault
exactly when a reader that decodes while it reads would have met it, and a data error met
earlier wins.

Answers are built from the same type, with no faults in them.
-/

namespace AdminShell.Json

/-- A JSON number in the class the reader gives it: a non-negative integer that fits 64
bits, a negative integer that fits 64 bits with sign, or a double. -/
inductive Number where
  | nat (n : Nat)
  | neg (n : Int)
  | float (x : Float)
  deriving Inhabited

inductive FaultCode where
  | eofWhileParsingList
  | eofWhileParsingObject
  | eofWhileParsingString
  | eofWhileParsingValue
  | expectedColon
  | expectedListCommaOrEnd
  | expectedObjectCommaOrEnd
  | expectedSomeIdent
  | expectedSomeValue
  | invalidEscape
  | invalidNumber
  | numberOutOfRange
  | invalidUnicodeCodePoint
  | controlCharacterWhileParsingString
  | keyMustBeAString
  | loneLeadingSurrogateInHexEscape
  | trailingComma
  | trailingCharacters
  | unexpectedEndOfHexEscape
  | recursionLimitExceeded
  deriving DecidableEq, Repr, Inhabited

namespace FaultCode

def text : FaultCode → String
  | .eofWhileParsingList => "EOF while parsing a list"
  | .eofWhileParsingObject => "EOF while parsing an object"
  | .eofWhileParsingString => "EOF while parsing a string"
  | .eofWhileParsingValue => "EOF while parsing a value"
  | .expectedColon => "expected `:`"
  | .expectedListCommaOrEnd => "expected `,` or `]`"
  | .expectedObjectCommaOrEnd => "expected `,` or `\x7d`"
  | .expectedSomeIdent => "expected ident"
  | .expectedSomeValue => "expected value"
  | .invalidEscape => "invalid escape"
  | .invalidNumber => "invalid number"
  | .numberOutOfRange => "number out of range"
  | .invalidUnicodeCodePoint => "invalid unicode code point"
  | .controlCharacterWhileParsingString =>
    "control character (\\u0000-\\u001F) found while parsing a string"
  | .keyMustBeAString => "key must be a string"
  | .loneLeadingSurrogateInHexEscape => "lone leading surrogate in hex escape"
  | .trailingComma => "trailing comma"
  | .trailingCharacters => "trailing characters"
  | .unexpectedEndOfHexEscape => "unexpected end of hex escape"
  | .recursionLimitExceeded => "recursion limit exceeded"

def isEof : FaultCode → Bool
  | .eofWhileParsingList | .eofWhileParsingObject | .eofWhileParsingString
  | .eofWhileParsingValue => true
  | _ => false

end FaultCode

structure Fault where
  code : FaultCode
  line : Nat
  column : Nat
  deriving DecidableEq, Repr, Inhabited

def Fault.message (f : Fault) : String :=
  f.code.text ++ " at line " ++ toString f.line ++ " column " ++ toString f.column

/-- Where reading of a container stopped: the fault, and the key that was read just
before it, if the fault came between a key and its value. -/
structure Stop where
  key : Option String
  fault : Fault
  deriving Inhabited

inductive Node where
  | null
  | bool (b : Bool)
  | num (n : Number)
  | str (s : String)
  | arr (items : List Node) (stop : Option Stop)
  | obj (fields : List (String × Node)) (stop : Option Stop)
  | bad (fault : Fault)
  deriving Inhabited

namespace Node

abbrev array (items : List Node) : Node := .arr items none

abbrev object (fields : List (String × Node)) : Node := .obj fields none

def ofOption (s : Option String) : Node :=
  match s with
  | some v => .str v
  | none => .null

mutual

def fault? : Node → Option Fault
  | .arr items stop =>
    match faultInItems? items with
    | some f => some f
    | none => stop.map (·.fault)
  | .obj fields stop =>
    match faultInFields? fields with
    | some f => some f
    | none => stop.map (·.fault)
  | .bad f => some f
  | _ => none

def faultInItems? : List Node → Option Fault
  | [] => none
  | n :: ns =>
    match fault? n with
    | some f => some f
    | none => faultInItems? ns

def faultInFields? : List (String × Node) → Option Fault
  | [] => none
  | (_, n) :: ns =>
    match fault? n with
    | some f => some f
    | none => faultInFields? ns

end

mutual

def depth : Node → Nat
  | .arr items _ => itemsDepth items + 1
  | .obj fields _ => fieldsDepth fields + 1
  | _ => 0

def itemsDepth : List Node → Nat
  | [] => 0
  | n :: ns => max n.depth (itemsDepth ns)

def fieldsDepth : List (String × Node) → Nat
  | [] => 0
  | (_, n) :: ns => max n.depth (fieldsDepth ns)

end

end Node

end AdminShell.Json
