import AdminShell.Number.Double

/-! # The double nearest to a fraction

`nearest num den` is the double nearest to the positive fraction `num / den`, an exact tie
going to the double whose mantissa is even, as IEEE 754 rounds by default. All arithmetic
is on natural numbers, so the result is exact for every fraction, subnormal and overflowing
ones included: it is found as `m · 2^q` with `2^52 ≤ m < 2^53` where the fraction is large
enough, `q = -1074` below that, and the infinity above the largest finite double.
-/

namespace AdminShell.Number

def floorLog2 (num den : Nat) : Int :=
  let guess : Int := (num.log2 : Int) - (den.log2 : Int)
  let reached :=
    if guess ≥ 0 then num ≥ den * Nat.pow 2 guess.toNat else num * Nat.pow 2 (-guess).toNat ≥ den
  if reached then guess else guess - 1

def roundHalfEven (num den : Nat) : Nat :=
  let q := num / den
  let r := num % den
  if 2 * r > den then q + 1
  else if 2 * r < den then q
  else if q % 2 == 0 then q
  else q + 1

def bitsOf (m : Nat) (q : Int) : UInt64 :=
  if m < Nat.pow 2 52 then UInt64.ofNat m
  else UInt64.ofNat (((q + 1075).toNat) * Nat.pow 2 52 + (m - Nat.pow 2 52))

def nearest (num den : Nat) : Double :=
  if num = 0 ∨ den = 0 then .zero
  else
    let q : Int := max (floorLog2 num den - 52) (-1074)
    let scaledNum := num * Nat.pow 2 (-q).toNat
    let scaledDen := den * Nat.pow 2 q.toNat
    let m := roundHalfEven scaledNum scaledDen
    let (m, q) := if m = Nat.pow 2 53 then (Nat.pow 2 52, q + 1) else (m, q)
    if q > 971 then .infinity else ⟨bitsOf m q⟩

/-- The double nearest to `mantissa · 10^exponent`. Values below `10^-330` round to zero
and values of `10^315` or more to the infinity, so huge exponents cost nothing. -/
def nearestScientific (mantissa : Nat) (exponent : Int) : Double :=
  let size : Int := (Nat.toDigits 10 mantissa).length
  if mantissa = 0 then .zero
  else if exponent + size < -330 then .zero
  else if exponent + size > 315 then .infinity
  else if exponent ≥ 0 then nearest (mantissa * Nat.pow 10 exponent.toNat) 1
  else nearest mantissa (Nat.pow 10 (-exponent).toNat)

end AdminShell.Number
