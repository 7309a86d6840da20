import AdminShell.Number.Read

/-! # Dates and times

The lexical forms of dates and times: a date is `YYYY-MM-DD`; a time is `hh:mm`, then
optionally `:ss` with an optional fraction of one to nine digits, then optionally `Z` or a
signed offset `±hh:mm`; a date-time is a date, `T` and a time. Every field has exactly the
digits shown, all ASCII, and the form covers the whole text.

Reading a form only splits it into numbers. Whether the numbers make a real date or time is
decided separately: a date needs a year of at least 1 and a day of its month, and a time is
checked field by field against its bounds.
-/

namespace AdminShell.Literal

structure DateParts where
  year : Nat
  month : Nat
  day : Nat
  deriving DecidableEq, Repr

inductive Offset where
  | utc
  | fixed (negative : Bool) (hours minutes : Nat)
  deriving DecidableEq, Repr

/-- The numbers of a time literal; `nanos` is the fraction padded to nine digits. -/
structure TimeParts where
  hour : Nat
  minute : Nat
  second : Option Nat
  nanos : Nat
  offset : Option Offset
  deriving DecidableEq, Repr

def fixedDigits (n : Nat) (cs : List Char) : Option (Nat × List Char) :=
  let ds := cs.take n
  if ds.length = n && ds.all Char.isDigit then some (Number.digitsValue ds, cs.drop n)
  else none

def expectChar (c : Char) : List Char → Option (List Char)
  | d :: r => if d = c then some r else none
  | [] => none

def readDateParts (cs : List Char) : Option (DateParts × List Char) := do
  let (y, r) ← fixedDigits 4 cs
  let r ← expectChar '-' r
  let (m, r) ← fixedDigits 2 r
  let r ← expectChar '-' r
  let (d, r) ← fixedDigits 2 r
  pure (⟨y, m, d⟩, r)

def readFraction (cs : List Char) : Option (Nat × List Char) :=
  match cs with
  | '.' :: r =>
    let ds := r.takeWhile Char.isDigit
    if ds.isEmpty || ds.length > 9 then none
    else
      some (Number.digitsValue (ds ++ List.replicate (9 - ds.length) '0'), r.drop ds.length)
  | _ => some (0, cs)

def readOffset : List Char → Option (Option Offset)
  | [] => some none
  | ['Z'] => some (some .utc)
  | c :: r =>
    if c = '+' || c = '-' then do
      let (h, r) ← fixedDigits 2 r
      let r ← expectChar ':' r
      let (m, r) ← fixedDigits 2 r
      if r.isEmpty then pure (some (.fixed (c = '-') h m)) else none
    else none

def readTimeParts (cs : List Char) : Option TimeParts := do
  let (h, r) ← fixedDigits 2 cs
  let r ← expectChar ':' r
  let (m, r) ← fixedDigits 2 r
  let (second, nanos, r) ←
    match r with
    | ':' :: r' => do
      let (s, r'') ← fixedDigits 2 r'
      let (f, r''') ← readFraction r''
      pure (some s, f, r''')
    | _ => pure (none, 0, r)
  let offset ← readOffset r
  pure ⟨h, m, second, nanos, offset⟩

def lexDate (s : String) : Option DateParts :=
  match readDateParts s.toList with
  | some (d, []) => some d
  | _ => none

def lexTime (s : String) : Option TimeParts :=
  readTimeParts s.toList

def lexDateTime (s : String) : Option (DateParts × TimeParts) := do
  let (d, r) ← readDateParts s.toList
  let r ← expectChar 'T' r
  let t ← readTimeParts r
  pure (d, t)

def isLeapYear (y : Nat) : Bool :=
  y % 4 == 0 && (y % 100 != 0 || y % 400 == 0)

def daysInMonth (y m : Nat) : Nat :=
  match m with
  | 1 | 3 | 5 | 7 | 8 | 10 | 12 => 31
  | 4 | 6 | 9 | 11 => 30
  | 2 => if isLeapYear y then 29 else 28
  | _ => 0

def DateParts.isValid (d : DateParts) : Bool :=
  d.year ≥ 1 && 1 ≤ d.day && d.day ≤ daysInMonth d.year d.month

/-- A time field outside its bounds: the field's name and its bounds. -/
structure OutOfBounds where
  component : String
  bounds : String
  deriving DecidableEq, Repr

def TimeParts.checkBounds (t : TimeParts) : Except OutOfBounds Unit :=
  if t.hour > 23 then .error ⟨"hour", "within 00..23"⟩
  else if t.minute > 59 then .error ⟨"minute", "within 00..59"⟩
  else if (t.second.getD 0) > 59 then .error ⟨"second", "within 00..59"⟩
  else
    match t.offset with
    | some (.fixed _ h m) =>
      if h > 14 then .error ⟨"offset hour", "within 00..14"⟩
      else if m > 59 then .error ⟨"offset minute", "within 00..59"⟩
      else .ok ()
    | _ => .ok ()

def Offset.seconds? : Offset → Option Int
  | .utc => some 0
  | .fixed negative h m =>
    let s : Int := (h * 3600 + m * 60 : Nat)
    let s := if negative then -s else s
    if s.natAbs < 86400 then some s else none

structure TimeOfDay where
  hour : Nat
  minute : Nat
  second : Nat
  nanos : Nat
  deriving DecidableEq, Repr

def TimeParts.toTimeOfDay? (t : TimeParts) : Option TimeOfDay :=
  let s := t.second.getD 0
  if t.hour < 24 && t.minute < 60 && s < 60 then some ⟨t.hour, t.minute, s, t.nanos⟩
  else none

end AdminShell.Literal
