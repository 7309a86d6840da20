/-! # Time stamps

A check report is stamped with the time it was written, in RFC 3339 form at UTC:
`YYYY-MM-DDTHH:MM:SS+00:00`, with a fraction of a second of three, six or nine digits,
the fewest that hold it, when it is not zero.

The date of a day count from 1970-01-01 follows the proleptic Gregorian calendar, counted
in eras of 400 years of 146097 days each, with years that start on the first of March so
that the leap day ends them.
-/

namespace AdminShell.Batch

def civilDate (days : Int) : Int × Nat × Nat :=
  let z := days + 719468
  let era := z / 146097
  let doe := (z - era * 146097).toNat
  let yoe := (doe - doe / 1460 + doe / 36524 - doe / 146096) / 365
  let doy := doe - (365 * yoe + yoe / 4 - yoe / 100)
  let mp := (5 * doy + 2) / 153
  let day := doy - (153 * mp + 2) / 5 + 1
  let month := if mp < 10 then mp + 3 else mp - 9
  let year := (yoe : Int) + era * 400 + (if month ≤ 2 then 1 else 0)
  (year, month, day)

def padded (width : Nat) (n : Nat) : String :=
  let s := toString n
  String.ofList (List.replicate (width - s.length) '0') ++ s

/-- The fraction of a second in the fewest of three, six or nine digits; empty for none. -/
def fractionDigits (nanos : Nat) : String :=
  if nanos == 0 then ""
  else if nanos % 1000000 == 0 then "." ++ padded 3 (nanos / 1000000)
  else if nanos % 1000 == 0 then "." ++ padded 6 (nanos / 1000)
  else "." ++ padded 9 nanos

def utcStamp (nanos : Int) : String :=
  let seconds := nanos / 1000000000
  let fraction := (nanos - seconds * 1000000000).toNat
  let days := seconds / 86400
  let inDay := (seconds - days * 86400).toNat
  let (year, month, day) := civilDate days
  let yearText := if year < 0 then "-" ++ padded 4 year.natAbs else padded 4 year.toNat
  yearText ++ "-" ++ padded 2 month ++ "-" ++ padded 2 day ++ "T" ++
    padded 2 (inDay / 3600) ++ ":" ++ padded 2 (inDay % 3600 / 60) ++ ":" ++
    padded 2 (inDay % 60) ++ fractionDigits fraction ++ "+00:00"

end AdminShell.Batch
