import AdminShell.Number.Nearest

/-! # Reading a double from decimal text

The grammar of a double's text: an optional sign, then either digits with an optional
point (at least one digit on one side of it) and an optional exponent `e` or `E` with an
optional sign and at least one digit, or one of the words `inf`, `infinity` and `nan` in
any case. Digits are ASCII. Nothing else is allowed, blanks included. The value is the
double nearest to the decimal; a sign applies to zero, the infinity and NaN as well.
-/

namespace AdminShell.Number

def digitValue? (c : Char) : Option Nat :=
  if c.isDigit then some (c.toNat - '0'.toNat) else none

def spanDigits (cs : List Char) : List Char × List Char :=
  (cs.takeWhile Char.isDigit, cs.dropWhile Char.isDigit)

def digitsValue (ds : List Char) : Nat :=
  ds.foldl (fun acc c => 10 * acc + (c.toNat - '0'.toNat)) 0

def readExponentText (cs : List Char) : Option Int :=
  let (negative, rest) :=
    match cs with
    | '+' :: r => (false, r)
    | '-' :: r => (true, r)
    | r => (false, r)
  let (ds, tail) := spanDigits rest
  if ds.isEmpty || !tail.isEmpty then none
  else
    let v : Int := digitsValue ds
    some (if negative then -v else v)

/-- A decimal without sign: the digits it spells and the power of ten that scales them. -/
def readDecimalText (cs : List Char) : Option (Nat × Int) :=
  let (whole, rest) := spanDigits cs
  let (frac, rest) :=
    match rest with
    | '.' :: r => spanDigits r
    | r => ([], r)
  if whole.isEmpty && frac.isEmpty then none
  else
    let shift : Int := -(frac.length : Int)
    let mantissa := digitsValue (whole ++ frac)
    match rest with
    | [] => some (mantissa, shift)
    | c :: r =>
      if c = 'e' || c = 'E' then
        (readExponentText r).map (fun e => (mantissa, shift + e))
      else none

def specialWord? (cs : List Char) : Option Double :=
  let w := String.ofList (cs.map Char.toLower)
  if w == "inf" || w == "infinity" then some .infinity
  else if w == "nan" then some .nan
  else none

def readFloat? (s : String) : Option Double :=
  let (negative, body) :=
    match s.toList with
    | '-' :: r => (true, r)
    | '+' :: r => (false, r)
    | r => (false, r)
  let magnitude :=
    if body.isEmpty then none
    else
      match readDecimalText body with
      | some (m, e) => some (nearestScientific m e)
      | none => specialWord? body
  magnitude.map (fun x => if negative then x.neg else x)

end AdminShell.Number
