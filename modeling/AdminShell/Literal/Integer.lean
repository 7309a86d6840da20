import AdminShell.Number.Read

/-! # Integer literals

An integer literal is an optional sign and one or more ASCII digits. Its sign counts only
when some digit is not zero, so `-0` is zero. Values are unbounded here; the 128-bit reading
that typed values and the fixed-width checks use refuses what does not fit.
-/

namespace AdminShell.Literal

/-- The sign and digits of an integer literal. -/
structure IntegerLexeme where
  negative : Bool
  digits : List Char
  deriving DecidableEq, Repr

namespace IntegerLexeme

def read? (s : String) : Option IntegerLexeme :=
  let (negative, digits) :=
    match s.toList with
    | '-' :: r => (true, r)
    | '+' :: r => (false, r)
    | r => (false, r)
  if digits.isEmpty || !digits.all Char.isDigit then none else some ⟨negative, digits⟩

def isZero (l : IntegerLexeme) : Bool := l.digits.all (· == '0')

def isNegative (l : IntegerLexeme) : Bool := l.negative && !l.isZero

def isPositive (l : IntegerLexeme) : Bool := !l.negative && !l.isZero

def value (l : IntegerLexeme) : Int :=
  let v : Int := Number.digitsValue l.digits
  if l.negative then -v else v

end IntegerLexeme

def int128Min : Int := -(Int.pow 2 127)

def int128Max : Int := Int.pow 2 127 - 1

def readInt128? (s : String) : Option Int :=
  match IntegerLexeme.read? s with
  | none => none
  | some l =>
    let v := l.value
    if int128Min ≤ v ∧ v ≤ int128Max then some v else none

end AdminShell.Literal
