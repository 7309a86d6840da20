import AdminShell.Literal.Datatype
import AdminShell.Literal.Decimal
import AdminShell.Literal.Temporal
import AdminShell.Literal.Uri
import AdminShell.Literal.Base64

/-! # Checking a literal against its datatype

`Datatype.validate t raw` accepts `raw` exactly when it is a lexical form of `t` within
`t`'s bounds. Strings take anything; normalized strings refuse carriage return, line feed
and tab; booleans are `true`, `false`, `1`, `0` or empty; numbers, dates and times follow
their grammars; binary types their encodings. A grammar failure of a number or boolean is
a type mismatch, one of any other type a format error with a reason; a value out of bounds
is a range error that names the bound.
-/

namespace AdminShell

open Literal

def isHexByte (b : UInt8) : Bool :=
  (48 ≤ b && b ≤ 57) || (65 ≤ b && b ≤ 70) || (97 ≤ b && b ≤ 102)

def signConstraint (t : Datatype) (l : IntegerLexeme) : Bool × String :=
  match t with
  | .nonPositiveInteger => (!l.isPositive, "<= 0")
  | .negativeInteger => (l.isNegative, "< 0")
  | .nonNegativeInteger => (!l.isNegative, ">= 0")
  | .positiveInteger => (l.isPositive, "> 0")
  | _ => (true, "")

def validateInteger (t : Datatype) (raw : String) : Except LiteralError Unit :=
  match IntegerLexeme.read? raw with
  | none => .error (.typeMismatch t raw)
  | some l =>
    match t.bounds with
    | some (lo, hi) =>
      match readInt128? raw with
      | some v => if lo ≤ v ∧ v ≤ hi then .ok () else
          .error (.range t raw ("within [" ++ toString lo ++ ", " ++ toString hi ++ "]"))
      | none => .error (.range t raw ("within [" ++ toString lo ++ ", " ++ toString hi ++ "]"))
    | none =>
      let (ok, constraint) := signConstraint t l
      if ok then .ok () else .error (.range t raw constraint)

def validateTimeBounds (t : Datatype) (raw : String) (parts : TimeParts) :
    Except LiteralError Unit :=
  match parts.checkBounds with
  | .ok () => .ok ()
  | .error oob => .error (.range t raw (oob.component ++ " " ++ oob.bounds))

def Datatype.validate (t : Datatype) (raw : String) : Except LiteralError Unit :=
  let formatError (reason : String) : Except LiteralError Unit := .error (.format t raw reason)
  match t with
  | .string => .ok ()
  | .normalizedString =>
    if raw.toList.any (fun c => c = '\r' || c = '\n' || c = '\t') then
      formatError "must not contain carriage return, line feed or tab"
    else .ok ()
  | .boolean =>
    if ["true", "false", "1", "0", ""].contains raw then .ok () else .error (.typeMismatch t raw)
  | .decimal => if isDecimalLiteral raw then .ok () else .error (.typeMismatch t raw)
  | .float | .double =>
    if (Number.readFloat? raw).isSome then .ok () else .error (.typeMismatch t raw)
  | .date =>
    match lexDate raw with
    | none => formatError "must match YYYY-MM-DD"
    | some d => if d.isValid then .ok () else formatError "is not a valid calendar date"
  | .time =>
    match lexTime raw with
    | none => formatError "must match HH:MM[:SS[.fff]][Z|±HH:MM]"
    | some parts => validateTimeBounds t raw parts
  | .dateTime =>
    match lexDateTime raw with
    | none => formatError "must match YYYY-MM-DDThh:mm[:ss[.fff]][Z|±HH:MM]"
    | some (d, parts) =>
      if d.isValid then validateTimeBounds t raw parts
      else formatError "has an invalid calendar date"
  | .anyUri => if hasSchemeOrPath raw then .ok () else formatError "has neither a scheme nor a path"
  | .base64Binary =>
    match decodeBase64 raw with
    | .ok _ => .ok ()
    | .error e => formatError ("is not valid base64 (" ++ e.message ++ ")")
  | .hexBinary =>
    if raw.utf8ByteSize % 2 == 0 && raw.toUTF8.toList.all isHexByte then .ok ()
    else formatError "must be an even number of hexadecimal digits"
  | _ => validateInteger t raw

/-- A literal checked against a datatype named by a tag. -/
inductive TaggedLiteralError where
  | unsupported (e : UnsupportedType)
  | invalid (e : LiteralError)
  deriving DecidableEq, Repr

def TaggedLiteralError.message : TaggedLiteralError → String
  | .unsupported e => e.message
  | .invalid e => e.message

def validateTagged (tag raw : String) : Except TaggedLiteralError Datatype :=
  match Datatype.parse tag with
  | .error e => .error (.unsupported e)
  | .ok t =>
    match t.validate raw with
    | .ok () => .ok t
    | .error e => .error (.invalid e)

end AdminShell
