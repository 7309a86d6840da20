/-! # Doubles by their bits

A `Double` is an IEEE 754 binary64 value given by its 64-bit pattern. Keeping the pattern,
rather than a machine float, keeps the sign and payload of every NaN, which arithmetic on
machine floats does not promise to preserve.
-/

namespace AdminShell.Number

/-- An IEEE 754 double given by its bit pattern. -/
structure Double where
  bits : UInt64
  deriving DecidableEq, Repr, Inhabited

namespace Double

def zero : Double := ⟨0⟩

def infinity : Double := ⟨0x7ff0000000000000⟩

def nan : Double := ⟨0x7ff8000000000000⟩

def neg (d : Double) : Double := ⟨d.bits ^^^ 0x8000000000000000⟩

def exponentField (d : Double) : Nat := (d.bits.toNat / Nat.pow 2 52) % Nat.pow 2 11

def fractionField (d : Double) : Nat := d.bits.toNat % Nat.pow 2 52

def isNaN (d : Double) : Bool := d.exponentField == 2047 && d.fractionField != 0

def isFinite (d : Double) : Bool := d.exponentField != 2047

def toFloat (d : Double) : Float := Float.ofBits d.bits

end Double

end AdminShell.Number
