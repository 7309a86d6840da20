/-! # Datatypes of literals

The 24 XSD primitive datatypes a literal may declare, their names, the bounds of the
fixed-width integer types, and the two ways a literal fails: the datatype is unknown, or
the literal does not fit it.
-/

namespace AdminShell

inductive Datatype where
  | string
  | normalizedString
  | boolean
  | decimal
  | float
  | double
  | byte
  | short
  | int
  | long
  | unsignedByte
  | unsignedShort
  | unsignedInt
  | unsignedLong
  | nonPositiveInteger
  | negativeInteger
  | nonNegativeInteger
  | positiveInteger
  | date
  | dateTime
  | time
  | anyUri
  | base64Binary
  | hexBinary
  deriving DecidableEq, Repr, Inhabited

namespace Datatype

def name : Datatype → String
  | .string => "string"
  | .normalizedString => "normalizedString"
  | .boolean => "boolean"
  | .decimal => "decimal"
  | .float => "float"
  | .double => "double"
  | .byte => "byte"
  | .short => "short"
  | .int => "int"
  | .long => "long"
  | .unsignedByte => "unsignedByte"
  | .unsignedShort => "unsignedShort"
  | .unsignedInt => "unsignedInt"
  | .unsignedLong => "unsignedLong"
  | .nonPositiveInteger => "nonPositiveInteger"
  | .negativeInteger => "negativeInteger"
  | .nonNegativeInteger => "nonNegativeInteger"
  | .positiveInteger => "positiveInteger"
  | .date => "date"
  | .dateTime => "dateTime"
  | .time => "time"
  | .anyUri => "anyURI"
  | .base64Binary => "base64Binary"
  | .hexBinary => "hexBinary"

def all : List Datatype :=
  [.string, .normalizedString, .boolean, .decimal, .float, .double, .byte, .short, .int, .long,
    .unsignedByte, .unsignedShort, .unsignedInt, .unsignedLong, .nonPositiveInteger,
    .negativeInteger, .nonNegativeInteger, .positiveInteger, .date, .dateTime, .time, .anyUri,
    .base64Binary, .hexBinary]

def bounds : Datatype → Option (Int × Int)
  | .byte => some (-128, 127)
  | .short => some (-32768, 32767)
  | .int => some (-2147483648, 2147483647)
  | .long => some (-9223372036854775808, 9223372036854775807)
  | .unsignedByte => some (0, 255)
  | .unsignedShort => some (0, 65535)
  | .unsignedInt => some (0, 4294967295)
  | .unsignedLong => some (0, 18446744073709551615)
  | _ => none

def isInteger (t : Datatype) : Bool :=
  t.bounds.isSome ||
    match t with
    | .nonPositiveInteger | .negativeInteger | .nonNegativeInteger | .positiveInteger => true
    | _ => false

def ofTag? (tag : String) : Option Datatype :=
  let name := if tag.startsWith "xs:" then String.ofList (tag.toList.drop 3) else tag
  all.find? (fun t => t.name == name)

end Datatype

/-- A datatype tag that names no supported datatype. -/
structure UnsupportedType where
  tag : String
  deriving DecidableEq, Repr

def UnsupportedType.message (e : UnsupportedType) : String :=
  "unsupported-type: no validation rule for datatype '" ++ e.tag ++ "'"

def Datatype.parse (tag : String) : Except UnsupportedType Datatype :=
  match Datatype.ofTag? tag with
  | some t => .ok t
  | none => .error ⟨tag⟩

inductive LiteralError where
  | format (datatype : Datatype) (value : String) (reason : String)
  | range (datatype : Datatype) (value : String) (constraint : String)
  | typeMismatch (datatype : Datatype) (value : String)
  deriving DecidableEq, Repr

namespace LiteralError

def rule : LiteralError → String
  | .format .. => "format-error"
  | .range .. => "range-error"
  | .typeMismatch .. => "type-mismatch"

def datatype : LiteralError → Datatype
  | .format t _ _ => t
  | .range t _ _ => t
  | .typeMismatch t _ => t

def message : LiteralError → String
  | .format t v reason => "format-error: " ++ t.name ++ " literal '" ++ v ++ "' " ++ reason
  | .range t v c => "range-error: " ++ t.name ++ " literal '" ++ v ++ "' must be " ++ c
  | .typeMismatch t v => "type-mismatch: '" ++ v ++ "' is not a valid " ++ t.name

end LiteralError

end AdminShell
