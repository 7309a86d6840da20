import AdminShell.Number.Nearest

/-! # Arithmetic on doubles

Sums and quotients of non-negative finite doubles, rounded as IEEE 754 rounds by default:
the exact result is a fraction of natural numbers, and the result is the double nearest to
it (`nearest`). Doubles compare by their exact values.
-/

namespace AdminShell.Number

namespace Double

/-- The exact value of a non-negative finite double as a fraction `num / den`: a normal
double is `(2^52 + fraction) · 2^(exponent - 1075)`, a subnormal one
`fraction · 2^-1074`. -/
def fraction (d : Double) : Nat × Nat :=
  let e := d.exponentField
  let (m, q) : Nat × Int :=
    if e == 0 then (d.fractionField, -1074) else (Nat.pow 2 52 + d.fractionField, e - 1075)
  if q ≥ 0 then (m * Nat.pow 2 q.toNat, 1) else (m, Nat.pow 2 (-q).toNat)

def add (x y : Double) : Double :=
  let (a, b) := x.fraction
  let (c, d) := y.fraction
  nearest (a * d + c * b) (b * d)

def divNat (x : Double) (n : Nat) : Double :=
  let (a, b) := x.fraction
  nearest a (b * n)

def lt (x y : Double) : Bool :=
  let (a, b) := x.fraction
  let (c, d) := y.fraction
  a * d < c * b

def le (x y : Double) : Bool := !y.lt x

end Double

end AdminShell.Number
