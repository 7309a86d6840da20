import AdminShell.Literal.Integer

/-! # Decimal literals

A decimal literal is a base and an optional exponent after the first `e` or `E`. The
exponent is a 128-bit integer literal. The base is digits with at most one point; when the
point ends the base it is dropped, otherwise the digits on both sides join and those after
the point count as decimal places. The joined digits may carry one leading `-` and then one
`+`, and they may hold underscores anywhere but first; underscores count as no place. The
places less the exponent give the scale, which has to fit 64 bits with sign.
-/

namespace AdminShell.Literal

def int64Min : Int := -(Int.pow 2 63)

def int64Max : Int := Int.pow 2 63 - 1

/-- The joined digits of a base: a sign, then digits and underscores, not first. -/
def decimalDigitsValid (cs : List Char) : Bool :=
  let afterMinus :=
    match cs with
    | '-' :: r => if r.head? == some '+' then cs else r
    | r => r
  let body :=
    match afterMinus with
    | '+' :: r => if r.head? == some '+' then afterMinus else r
    | r => r
  match body with
  | [] => false
  | c :: _ => c != '_' && body.all (fun d => d.isDigit || d == '_')

def splitBase (base : List Char) : List Char × Nat :=
  match base.findIdx? (· == '.') with
  | none => (base, 0)
  | some i =>
    if i + 1 = base.length then (base.take i, 0)
    else
      let trail := base.drop (i + 1)
      (base.take i ++ trail, (trail.filter (· != '_')).length)

def isDecimalLiteral (s : String) : Bool :=
  let cs := s.toList
  let (base, exponent) :=
    match cs.findIdx? (fun c => c == 'e' || c == 'E') with
    | none => (cs, some 0)
    | some i => (cs.take i, readInt128? (String.ofList (cs.drop (i + 1))))
  match exponent with
  | none => false
  | some e =>
    if base.isEmpty then false
    else
      let (digits, places) := splitBase base
      let scale : Int := (places : Int) - e
      int64Min ≤ scale && scale ≤ int64Max && decimalDigitsValid digits

end AdminShell.Literal
