import AdminShell.Number.Double
import AdminShell.Number.Shortest

/-! # Plain decimal text of doubles

The plain text of a double is its shortest decimal written out in full, never with an
exponent: `1`, `0.1`, `100000000000000000000`, `0.00000015`. Integral values have no
fraction, a negative value and the negative zero a minus sign; the infinities are `inf`
and `-inf`, and every NaN is `NaN`.
-/

namespace AdminShell.Number

def zeroText (n : Nat) : String := String.ofList (List.replicate n '0')

/-- The plain text of the digits `d` times `10^k`. -/
def scientificPlain (d : Nat) (k : Int) : String :=
  let ds := Nat.toDigits 10 d
  let point : Int := k + ds.length
  if 0 ≤ k then String.ofList ds ++ zeroText k.toNat
  else if 0 < point then
    String.ofList (ds.take point.toNat) ++ "." ++ String.ofList (ds.drop point.toNat)
  else "0." ++ zeroText (-point).toNat ++ String.ofList ds

def Double.plainText (x : Double) : String :=
  if x.isNaN then "NaN"
  else
    let sign := if x.bits ≥ 0x8000000000000000 then "-" else ""
    if !x.isFinite then sign ++ "inf"
    else
      match shortest x.toFloat with
      | none => sign ++ "0"
      | some s => sign ++ scientificPlain s.digits s.exponent

end AdminShell.Number
