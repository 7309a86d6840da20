/-! # Shortest decimal text of a double

A finite double `v` stands for the interval of reals that round to it. Its shortest decimal
is the decimal with the fewest significant digits inside that interval; of two such decimals
the one nearer to `v` wins, and an exact tie goes to the even one. The ends of the interval
belong to it exactly when the double's mantissa is even, as round-to-nearest-even decides.

All comparisons are exact: the double is `m · 2^e`, a decimal is `d · 10^k`, and the two are
compared as natural numbers after both are scaled by the same powers of 2 and 10. For each
digit count `n` from 1 to 17 the decimal grid with `n` digits is tried: if some point of
that grid lies in the interval, so does one of the two grid points next to `v`, so those two
are the only candidates.
-/

namespace AdminShell.Number

structure Scientific where
  digits : Nat
  exponent : Int
  deriving DecidableEq, Repr, Inhabited

/-- A finite positive double as `4m · 2^scale`, with the ends of its rounding interval in
the same unit: `(center - below) · 2^scale` to `(center + 2) · 2^scale`. -/
structure Binary where
  center : Nat
  below : Nat
  scale : Int
  closed : Bool
  deriving Repr

def compareScaled (d : Nat) (k : Int) (x : Nat) (s : Int) : Ordering :=
  let lhs := d * Nat.pow 10 k.toNat * Nat.pow 2 (-s).toNat
  let rhs := x * Nat.pow 10 (-k).toNat * Nat.pow 2 s.toNat
  compare lhs rhs

def Binary.ofBits (bits : UInt64) : Option Binary :=
  let b := bits.toNat
  let frac : Nat := b % Nat.pow 2 52
  let expField : Nat := (b / Nat.pow 2 52) % Nat.pow 2 11
  if expField == 2047 then none
  else if expField == 0 then
    if frac == 0 then none
    else some ⟨4 * frac, 2, -1074 - 2, frac % 2 == 0⟩
  else
    let m := frac + Nat.pow 2 52
    let below := if frac == 0 && expField > 1 then 1 else 2
    some ⟨4 * m, below, (expField : Int) - 1075 - 2, m % 2 == 0⟩

namespace Binary

def admits (v : Binary) (d : Nat) (k : Int) : Bool :=
  let lo := compareScaled d k (v.center - v.below) v.scale
  let hi := compareScaled d k (v.center + 2) v.scale
  if v.closed then lo != .lt && hi != .gt else lo == .gt && hi == .lt

def fixLog10 (v : Binary) : Nat → Int → Int
  | 0, e => e
  | fuel + 1, e =>
    if compareScaled 1 e v.center v.scale == .gt then fixLog10 v fuel (e - 1)
    else if compareScaled 1 (e + 1) v.center v.scale != .gt then fixLog10 v fuel (e + 1)
    else e

def log10 (v : Binary) : Int :=
  let bits : Int := (Nat.log2 v.center : Int) + v.scale
  fixLog10 v 8 (Int.fdiv (bits * 78913) 262144)

def floorDiv (v : Binary) (k : Int) : Nat :=
  (v.center * Nat.pow 2 v.scale.toNat * Nat.pow 10 (-k).toNat) /
    (Nat.pow 2 (-v.scale).toNat * Nat.pow 10 k.toNat)

def nearer (v : Binary) (d : Nat) (k : Int) : Nat :=
  match compareScaled (2 * d + 1) k (2 * v.center) v.scale with
  | .gt => d
  | .lt => d + 1
  | .eq => if d % 2 == 0 then d else d + 1

def search (v : Binary) (e : Int) : Nat → Nat → Option Scientific
  | 0, _ => none
  | fuel + 1, n =>
    let k := e - n + 1
    let d := v.floorDiv k
    match v.admits d k, v.admits (d + 1) k with
    | true, true => some ⟨v.nearer d k, k⟩
    | true, false => some ⟨d, k⟩
    | false, true => some ⟨d + 1, k⟩
    | false, false => search v e fuel (n + 1)

end Binary

def Scientific.normalize : Nat → Scientific → Scientific
  | 0, s => s
  | fuel + 1, s =>
    if s.digits != 0 && s.digits % 10 == 0 then
      Scientific.normalize fuel ⟨s.digits / 10, s.exponent + 1⟩
    else s

def shortest (x : Float) : Option Scientific :=
  match Binary.ofBits x.toBits with
  | none => none
  | some v =>
    match v.search v.log10 17 1 with
    | some s => some (s.normalize 20)
    | none => none

def decimalDigits (n : Nat) : List Char :=
  (Nat.toDigits 10 n)

end AdminShell.Number
