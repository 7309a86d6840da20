import AdminShell.Literal.Check
import AdminShell.Literal.Integer
import AdminShell.Json.Print

/-! # Typed values of literals

A literal read as the value its datatype names: booleans, 128-bit integers, doubles,
dates, times of day with an optional offset, and date-times with or without one. Any
other datatype, and any literal that does not read, stays text. A date-time with an offset
is written in RFC 3339 form; every fraction of a second is written with 0, 3, 6 or 9
digits, the fewest that are exact, and an offset as `±hh:mm`, UTC as `+00:00`.
-/

namespace AdminShell

open Literal

/-- A literal's typed value. -/
inductive TypedValue where
  | text (s : String)
  | boolean (b : Bool)
  | integer (i : Int)
  | float (x : Number.Double)
  | date (d : DateParts)
  | time (t : TimeOfDay) (offset : Option Int)
  | dateTime (d : DateParts) (t : TimeOfDay) (offset : Int)
  | localDateTime (d : DateParts) (t : TimeOfDay)
  deriving Inhabited

namespace TypedValue

def variant : TypedValue → String
  | .text _ => "Text"
  | .boolean _ => "Boolean"
  | .integer _ => "Integer"
  | .float _ => "Float"
  | .date _ => "Date"
  | .time .. => "Time"
  | .dateTime .. => "DateTime"
  | .localDateTime .. => "LocalDateTime"

def isText : TypedValue → Bool
  | .text _ => true
  | _ => false

end TypedValue

def padded (width n : Nat) : String :=
  let ds := Nat.toDigits 10 n
  String.ofList (List.replicate (width - ds.length) '0' ++ ds)

def fractionText (nanos : Nat) : String :=
  if nanos == 0 then ""
  else if nanos % 1000000 == 0 then "." ++ padded 3 (nanos / 1000000)
  else if nanos % 1000 == 0 then "." ++ padded 6 (nanos / 1000)
  else "." ++ padded 9 nanos

def Literal.DateParts.text (d : DateParts) : String :=
  padded 4 d.year ++ "-" ++ padded 2 d.month ++ "-" ++ padded 2 d.day

def Literal.TimeOfDay.text (t : TimeOfDay) : String :=
  padded 2 t.hour ++ ":" ++ padded 2 t.minute ++ ":" ++ padded 2 t.second ++ fractionText t.nanos

def offsetText (seconds : Int) : String :=
  let sign := if seconds < 0 then "-" else "+"
  let minutes := seconds.natAbs / 60
  sign ++ padded 2 (minutes / 60) ++ ":" ++ padded 2 (minutes % 60)

namespace TypedValue

def toNode : TypedValue → Json.Node
  | .text s => .str s
  | .boolean b => .bool b
  | .integer i =>
    if 0 ≤ i ∧ i < Int.pow 2 64 then .num (.nat i.toNat)
    else if -(Int.pow 2 63) ≤ i ∧ i < 0 then .num (.neg i)
    else .str (toString i)
  | .float x => if x.isFinite then .num (.float x.toFloat) else .null
  | .date d => .str d.text
  | .time t offset => .str (t.text ++ (offset.map offsetText).getD "")
  | .dateTime d t offset => .str (d.text ++ "T" ++ t.text ++ offsetText offset)
  | .localDateTime d t => .str (d.text ++ "T" ++ t.text)

end TypedValue

def readTyped? (t : Datatype) (raw : String) : Option TypedValue :=
  match t with
  | .boolean =>
    if raw == "" then some (.text "")
    else if raw == "true" || raw == "1" then some (.boolean true)
    else if raw == "false" || raw == "0" then some (.boolean false)
    else none
  | .float | .double => (Number.readFloat? raw).map .float
  | .decimal =>
    match Number.readFloat? raw with
    | some x => if x.isFinite then some (.float x) else none
    | none => none
  | .date =>
    match lexDate raw with
    | some d => if d.isValid then some (.date d) else none
    | none => none
  | .time => do
    let parts ← lexTime raw
    let offset ← match parts.offset with
      | some o => o.seconds?.map some
      | none => some none
    let tod ← parts.toTimeOfDay?
    pure (.time tod offset)
  | .dateTime => do
    let (d, parts) ← lexDateTime raw
    if !d.isValid then none
    let tod ← parts.toTimeOfDay?
    match parts.offset with
    | some o => (o.seconds?).map (fun s => .dateTime d tod s)
    | none => pure (.localDateTime d tod)
  | _ =>
    if t.isInteger then (readInt128? raw).map .integer else some (.text raw)

def coerce (t : Datatype) (raw : String) (typed : Bool) : TypedValue :=
  if typed then (readTyped? t raw).getD (.text raw) else .text raw

end AdminShell
