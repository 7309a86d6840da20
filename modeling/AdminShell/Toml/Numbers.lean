import AdminShell.Toml.Cursor
import AdminShell.Number.Read

/-! # Reading TOML numbers, dates and times

A value that starts with a sign or a digit is read as a date or time, else a float, else an
integer, the first that fits.

* An integer is decimal (`+`/`-`, no leading zero, `_` only between digits) or, unsigned,
  hexadecimal `0x`, octal `0o` or binary `0b`; it must fit 64 signed bits.
* A float is a decimal integer part with a fraction, an exponent or both, or `inf` or
  `nan` with an optional sign; a finite float whose value reads as positive infinity is
  refused.
* A date is `YYYY-MM-DD` with month 01 to 12 and day 01 to 31; a time `HH:MM:SS` with hour
  to 23, minute to 59, second to 60, and a fraction of any length of which nine digits
  count. A date and a time joined by `T`, `t` or a space may carry an offset, `Z` or
  `±HH:MM`. A date or time is kept as its text in normal form: upper-case `T` and `Z`,
  the fraction without trailing zeros.

Once the first separator of a date or time is read, a fault there is committed.
-/

namespace AdminShell.Toml

/-- The digits at the start of a list that satisfy `p`, with `_` allowed between them. A
fault marks a `_` that no digit follows. -/
def digitGroupsLength (p : Char → Bool) : List Char → Nat → Except Nat Nat
  | [], n => .ok n
  | '_' :: ch :: rest, n => if p ch then digitGroupsLength p rest (n + 2) else .error (n + 1)
  | ['_'], n => .error (n + 1)
  | ch :: rest, n => if p ch then digitGroupsLength p rest (n + 1) else .ok n

/-- Reads digits with `_` between them after a first digit; a fault marks a `_` that no digit
follows, at the character after it. -/
def readGroups (p : Char → Bool) (c : Cursor) (fault : Nat → Fault) : Except Fault Cursor :=
  match digitGroupsLength p c.rest 0 with
  | .ok n => .ok (c.skip n)
  | .error n => .error (fault (c.offset + n))

def isDigitChar (ch : Char) : Bool := ch.isDigit

def digitsValue (base : Nat) (cs : List Char) : Nat :=
  (cs.filter (· != '_')).foldl (fun acc ch =>
    let d := if ch.isDigit then ch.toNat - '0'.toNat
      else if 'a' ≤ ch && ch ≤ 'z' then ch.toNat - 'a'.toNat + 10
      else ch.toNat - 'A'.toNat + 10
    acc * base + d) 0

def int64Max : Nat := 9223372036854775807

def readDecimalDigits (c : Cursor) : Except Fault Cursor :=
  match c.rest with
  | '0' :: _ => .ok c.advance
  | ch :: _ =>
    if ch.isDigit then
      readGroups isDigitChar c.advance (fun o =>
        { offset := o, label := some "integer", expected := ["digit"] })
    else .error { offset := c.offset, label := some "integer", committed := false }
  | [] => .error { offset := c.offset, label := some "integer", committed := false }

def readSign (c : Cursor) : Bool × Cursor :=
  match c.rest with
  | '-' :: _ => (true, c.advance)
  | '+' :: _ => (false, c.advance)
  | _ => (false, c)

def readPrefixed (start : Cursor) (base : Nat) (label : String) (p : Char → Bool) :
    Except Fault (Int × Cursor) := do
  let c := start.skip 2
  match c.rest with
  | ch :: _ =>
    if p ch then
      let after ← readGroups p c.advance (fun o =>
        { offset := o, label := some label, expected := ["digit"] })
      let value := digitsValue base (c.rest.take (after.offset - c.offset))
      if value ≤ int64Max then pure (value, after)
      else throw { offset := start.offset, cause := some "number too large to fit in target type" }
    else throw (c.fault label)
  | [] => throw (c.fault label)

def readInteger (c : Cursor) : Except Fault (Int × Cursor) :=
  if c.startsWith ['0', 'x'] then readPrefixed c 16 "hexadecimal integer" (fun ch => (hexDigit? ch).isSome)
  else if c.startsWith ['0', 'o'] then readPrefixed c 8 "octal integer" (fun ch => '0' ≤ ch && ch ≤ '7')
  else if c.startsWith ['0', 'b'] then readPrefixed c 2 "binary integer" (fun ch => ch == '0' || ch == '1')
  else do
    let (negative, body) := readSign c
    let after ← readDecimalDigits body
    let magnitude := digitsValue 10 (body.rest.take (after.offset - body.offset))
    if negative then
      if magnitude ≤ int64Max + 1 then pure (-(magnitude : Int), after)
      else throw { offset := c.offset, cause := some "number too small to fit in target type" }
    else if magnitude ≤ int64Max then pure (magnitude, after)
    else throw { offset := c.offset, cause := some "number too large to fit in target type" }
where
  hexDigit? (ch : Char) : Option Nat :=
    if ch.isDigit || ('a' ≤ ch && ch ≤ 'f') || ('A' ≤ ch && ch ≤ 'F') then some 0 else none

def readSpecialFloat? (c : Cursor) : Option (Number.Double × Cursor) :=
  let (negative, body) := readSign c
  let value :=
    if body.startsWith ['i', 'n', 'f'] then some Number.Double.infinity
    else if body.startsWith ['n', 'a', 'n'] then some Number.Double.nan
    else none
  value.map (fun x => (if negative then x.neg else x, body.skip 3))

def floatLabel : String := "floating-point number"

def readExactDigits (c : Cursor) (missing : Fault) (inner : List String) : Except Fault Cursor :=
  match c.rest with
  | ch :: _ =>
    if ch.isDigit then
      readGroups isDigitChar c.advance (fun o =>
        { offset := o, label := some floatLabel, expected := inner })
    else .error missing
  | [] => .error missing

def readExponentPart (c : Cursor) : Except Fault Cursor :=
  let (_, body) := readSign c
  readExactDigits body { offset := body.offset, label := some floatLabel } ["digit"]

def readFloat? (c : Cursor) : Except Fault (Option (Number.Double × Cursor)) :=
  let (_, body) := readSign c
  match readDecimalDigits body with
  | .error f => if f.committed then .error f else .ok (readSpecialFloat? c)
  | .ok afterInt =>
    let tail : Except Fault (Option Cursor) :=
      match afterInt.rest with
      | 'e' :: _ | 'E' :: _ => (readExponentPart afterInt.advance).map some
      | '.' :: _ => do
        let frac := afterInt.advance
        let afterFrac ← readExactDigits frac
          { offset := frac.offset, label := some floatLabel, expected := ["digit"] }
          ["digit", "digit"]
        match afterFrac.rest with
        | 'e' :: _ | 'E' :: _ => (readExponentPart afterFrac.advance).map some
        | _ => pure (some afterFrac)
      | _ => .ok none
    match tail with
    | .error f => .error f
    | .ok none => .ok none
    | .ok (some after) =>
      let text := String.ofList ((c.rest.take (after.offset - c.offset)).filter (· != '_'))
      match Number.readFloat? text with
      | some x =>
        if x == Number.Double.infinity then .error (c.fault floatLabel) else .ok (some (x, after))
      | none => .error (c.fault floatLabel)

/-! ## Dates and times -/

def exactDigits? (c : Cursor) (n : Nat) : Option (Nat × Cursor) :=
  let ds := c.rest.take n
  if ds.length == n && ds.all Char.isDigit then some (digitsValue 10 ds, c.skip n) else none

def readField (c : Cursor) (lo hi : Nat) (label : String) : Except Fault (Nat × Cursor) :=
  match exactDigits? c 2 with
  | some (v, next) =>
    if lo ≤ v && v ≤ hi then .ok (v, next)
    else .error { (c.fault label) with cause := some "value is out of range" }
  | none => .error (c.fault label)

def expectChar (c : Cursor) (ch : Char) (label : String) : Except Fault Cursor :=
  if c.startsWith [ch] then .ok c.advance else .error (c.fault label)

def twoDigits (n : Nat) : String := if n < 10 then "0" ++ toString n else toString n

def fractionText (ds : List Char) : String :=
  let nine := ds.take 9
  let nanos := digitsValue 10 nine * Nat.pow 10 (9 - nine.length)
  if nanos == 0 then ""
  else
    let padded := (toString nanos).toList
    let full := List.replicate (9 - padded.length) '0' ++ padded
    "." ++ String.ofList (full.reverse.dropWhile (· == '0')).reverse

/-- Reads a time `HH:MM:SS` with an optional fraction. `none` when no hour and colon start
here; after them a fault is committed. -/
def readTime? (c : Cursor) (label : String) : Except Fault (Option (String × Cursor)) :=
  match exactDigits? c 2 with
  | some (hour, afterHour) =>
    if hour ≤ 23 && afterHour.startsWith [':'] then do
      let (minute, c1) ← readField afterHour.advance 0 59 label
      let c2 ← expectChar c1 ':' label
      let (second, c3) ← readField c2 0 60 label
      let (frac, c4) :=
        match c3.rest with
        | '.' :: rest =>
          let ds := rest.takeWhile Char.isDigit
          if ds.isEmpty then ("", c3) else (fractionText ds, c3.skip (ds.length + 1))
        | _ => ("", c3)
      pure (some (twoDigits hour ++ ":" ++ twoDigits minute ++ ":" ++ twoDigits second ++ frac, c4))
    else .ok none
  | none => .ok none

def readOffset (c : Cursor) : Except Fault (String × Cursor) :=
  match c.rest with
  | 'Z' :: _ | 'z' :: _ => .ok ("Z", c.advance)
  | '+' :: _ | '-' :: _ => do
    let negative := c.startsWith ['-']
    let label := "time offset"
    let (hours, c1) ← readField c.advance 0 23 label
    let c2 ← expectChar c1 ':' label
    let (minutes, c3) ← readField c2 0 59 label
    let total := hours * 60 + minutes
    let sign := if negative && total != 0 then "-" else "+"
    pure (sign ++ twoDigits (total / 60) ++ ":" ++ twoDigits (total % 60), c3)
  | _ => .ok ("", c)

def isLeapYear (year : Nat) : Bool := year % 4 == 0 && (year % 100 != 0 || year % 400 == 0)

def daysInMonth (year month : Nat) : Nat :=
  if month == 2 then (if isLeapYear year then 29 else 28)
  else if month == 4 || month == 6 || month == 9 || month == 11 then 30
  else 31

def readDatetime? (c : Cursor) : Except Fault (Option (String × Cursor)) :=
  match exactDigits? c 4 with
  | some (year, afterYear) =>
    if afterYear.startsWith ['-'] then do
      let label := "date-time"
      let (month, c1) ← readField afterYear.advance 1 12 label
      let c2 ← expectChar c1 '-' label
      let (day, c3) ← readField c2 1 31 label
      if daysInMonth year month < day then
        throw { (c2.fault label) with cause := some "value is out of range" }
      let date := String.ofList (c.rest.take 4) ++ "-" ++ twoDigits month ++ "-" ++ twoDigits day
      match c3.rest with
      | 'T' :: _ | 't' :: _ | ' ' :: _ =>
        match ← readTime? c3.advance label with
        | some (time, c4) =>
          let (offset, c5) ← readOffset c4
          pure (some (date ++ "T" ++ time ++ offset, c5))
        | none => pure (some (date, c3))
      | _ => pure (some (date, c3))
    else readTime? c "time"
  | none => readTime? c "time"

end AdminShell.Toml
