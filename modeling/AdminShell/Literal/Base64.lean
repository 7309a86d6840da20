/-! # Base64 with canonical padding

The standard alphabet (`A`–`Z`, `a`–`z`, `0`–`9`, `+`, `/`) with `=` padding. The text is
read as UTF-8 bytes in quads of four symbols. Every quad but the last must hold four
symbols of the alphabet. The last quad holds two to four symbols, and when it holds fewer
than four it is filled up with `=`; a pad may not stand before a symbol or among the first
two places of a quad, and the bits the last symbol carries beyond the last whole byte must
be zero. A failure names the first offending byte, in this order of checks: a lone trailing
byte that is neither a symbol nor a pad, then the bytes of the full quads, then the last
quad.
-/

namespace AdminShell.Literal

/-- Why a text is no canonical base64. -/
inductive Base64Error where
  | invalidByte (offset : Nat) (byte : Nat)
  | invalidLength (length : Nat)
  | invalidLastSymbol (offset : Nat) (byte : Nat)
  | invalidPadding
  deriving DecidableEq, Repr

def Base64Error.message : Base64Error → String
  | .invalidByte o b => "Invalid symbol " ++ toString b ++ ", offset " ++ toString o ++ "."
  | .invalidLength n => "Invalid input length: " ++ toString n
  | .invalidLastSymbol o b =>
    "Invalid last symbol " ++ toString b ++ ", offset " ++ toString o ++ "."
  | .invalidPadding => "Invalid padding"

def padByte : Nat := 61

def symbolValue? (b : Nat) : Option Nat :=
  if 65 ≤ b ∧ b ≤ 90 then some (b - 65)
  else if 97 ≤ b ∧ b ≤ 122 then some (b - 97 + 26)
  else if 48 ≤ b ∧ b ≤ 57 then some (b - 48 + 52)
  else if b = 43 then some 62
  else if b = 47 then some 63
  else none

def quadValues (start : Nat) : List Nat → Except Base64Error (List Nat)
  | [] => .ok []
  | b :: r =>
    match symbolValue? b with
    | none => .error (.invalidByte start b)
    | some v => (quadValues (start + 1) r).map (v :: ·)

def bytesOfSixes (vs : List Nat) : List Nat :=
  let total := vs.foldl (fun acc v => acc * 64 + v) 0
  let bits := 6 * vs.length
  let count := bits / 8
  let whole := total / Nat.pow 2 (bits - 8 * count)
  (List.range count).map (fun i => (whole / Nat.pow 2 (8 * (count - 1 - i))) % 256)

def suffixScan (start : Nat) : Nat → List Nat → List Nat → Nat → Nat →
    Except Base64Error (List Nat × Nat)
  | _, [], acc, pads, _ => .ok (acc.reverse, pads)
  | i, b :: r, acc, pads, firstPad =>
    if b = padByte then
      if i < 2 then .error (.invalidByte (start + i) b)
      else suffixScan start (i + 1) r acc (pads + 1) (if pads = 0 then i else firstPad)
    else if pads > 0 then .error (.invalidByte (start + firstPad) padByte)
    else
      match symbolValue? b with
      | none => .error (.invalidByte (start + i) b)
      | some v => suffixScan start (i + 1) r (v :: acc) pads firstPad

def decodeLastQuad (start : Nat) (quad : List Nat) (empty : Bool) :
    Except Base64Error (List Nat) := do
  let (vs, pads) ← suffixScan start 0 quad [] 0 0
  if !empty && vs.length < 2 then throw (.invalidLength (start + vs.length))
  if (pads + vs.length) % 4 != 0 then throw .invalidPadding
  let count := vs.length * 6 / 8
  let filled := vs ++ List.replicate (4 - vs.length) 0
  let total := filled.foldl (fun acc v => acc * 64 + v) 0
  if total % Nat.pow 2 (24 - 8 * count) != 0 then
    throw (.invalidLastSymbol (start + vs.length - 1) (quad.getD (vs.length - 1) 0))
  pure (bytesOfSixes vs)

def decodeBase64Bytes (input : List Nat) : Except Base64Error (List Nat) := do
  let len := input.length
  let rem := len % 4
  if rem = 1 then
    let last := input.getD (len - 1) 0
    if last != padByte && (symbolValue? last).isNone then
      throw (.invalidByte (len - 1) last)
  let full := if rem = 0 then len - min len 4 else len - rem
  let vs ← quadValues 0 (input.take full)
  let tail ← decodeLastQuad full (input.drop full) input.isEmpty
  pure (bytesOfSixes vs ++ tail)

def decodeBase64 (s : String) : Except Base64Error (List Nat) :=
  decodeBase64Bytes (s.toUTF8.toList.map (·.toNat))

end AdminShell.Literal
