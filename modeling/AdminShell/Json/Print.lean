import AdminShell.Json.Node
import AdminShell.Number.Shortest

/-! # Writing JSON

Compact and pretty text of a `Node`. Object keys are written in sorted order (by code
point, which is the order of their UTF-8 bytes), at every depth. Strings escape `"` and `\`,
write the controls backspace, form feed, line feed, carriage return and tab by their short
escapes and every other control below U+0020 as `\u00xx` in lower-case hex; all else is
written as it is.

A double is written by its shortest decimal `0.d₁…dₙ × 10^K`: positionally when
`-5 < K ≤ 16` (an integral value keeps a `.0`), otherwise as `d₁.d₂…dₙe±X` with an explicit
exponent sign and no `.` after a lone digit. Zero is `0.0` or `-0.0`.
-/

namespace AdminShell.Json

def hexDigit (n : Nat) : Char :=
  if n < 10 then Char.ofNat (48 + n) else Char.ofNat (87 + n)

def escapeChar (c : Char) : List Char :=
  if c = '"' then ['\\', '"']
  else if c = '\\' then ['\\', '\\']
  else if c = '\n' then ['\\', 'n']
  else if c = '\r' then ['\\', 'r']
  else if c = '\t' then ['\\', 't']
  else if c.toNat = 8 then ['\\', 'b']
  else if c.toNat = 12 then ['\\', 'f']
  else if c.toNat < 0x20 then ['\\', 'u', '0', '0', hexDigit (c.toNat / 16), hexDigit (c.toNat % 16)]
  else [c]

def quote (s : String) : String :=
  String.ofList ('"' :: (s.toList.flatMap escapeChar ++ ['"']))

def zeros (n : Nat) : String := String.ofList (List.replicate n '0')

def floatText (x : Float) : String :=
  if x.isNaN then "NaN"
  else if x.isInf then (if x < 0 then "-inf" else "inf")
  else
    let sign := if x.toBits ≥ 0x8000000000000000 then "-" else ""
    match Number.shortest x with
    | none => sign ++ "0.0"
    | some ⟨d, k⟩ =>
      let ds := Nat.toDigits 10 d
      let n := ds.length
      let big : Int := k + n
      let body :=
        if 0 ≤ k && big ≤ 16 then String.ofList ds ++ zeros k.toNat ++ ".0"
        else if 0 < big && big ≤ 16 then
          String.ofList (ds.take big.toNat) ++ "." ++ String.ofList (ds.drop big.toNat)
        else if -5 < big && big ≤ 0 then "0." ++ zeros (-big).toNat ++ String.ofList ds
        else
          let mant := match ds with
            | [] => ""
            | [c] => String.singleton c
            | c :: rest => String.singleton c ++ "." ++ String.ofList rest
          let e := big - 1
          mant ++ "e" ++ (if e < 0 then "-" else "+") ++ toString e.natAbs
      sign ++ body

def Number.text : Number → String
  | .nat n => toString n
  | .neg n => toString n
  | .float x => floatText x

def sortFields (fs : List (String × String)) : List (String × String) :=
  fs.mergeSort (fun a b => decide (a.1 ≤ b.1))

mutual

def Node.compact : Node → String
  | .null => "null"
  | .bool b => if b then "true" else "false"
  | .num n => n.text
  | .str s => quote s
  | .arr items _ => "[" ++ ",".intercalate (compactItems items) ++ "]"
  | .obj fields _ =>
    "\x7b" ++ ",".intercalate ((sortFields (compactFields fields)).map
      (fun p => quote p.1 ++ ":" ++ p.2)) ++ "\x7d"
  | .bad _ => "null"

def compactItems : List Node → List String
  | [] => []
  | n :: ns => n.compact :: compactItems ns

def compactFields : List (String × Node) → List (String × String)
  | [] => []
  | (k, n) :: ns => (k, n.compact) :: compactFields ns

end

def newline (level : Nat) : String := "\n" ++ String.ofList (List.replicate (2 * level) ' ')

mutual

/-- Pretty text at a nesting level: one item or field per line, indented by two spaces
per level; empty containers stay on one line. -/
def Node.prettyAt (level : Nat) : Node → String
  | .arr items _ =>
    match items with
    | [] => "[]"
    | _ =>
      "[" ++ String.join ((prettyItems (level + 1) items).map (fun t => newline (level + 1) ++ t)
        |>.intersperse ",") ++ newline level ++ "]"
  | .obj fields _ =>
    match fields with
    | [] => "\x7b\x7d"
    | _ =>
      let lines := (sortFields (prettyFields (level + 1) fields)).map
        (fun p => newline (level + 1) ++ quote p.1 ++ ": " ++ p.2)
      "\x7b" ++ String.join (lines.intersperse ",") ++ newline level ++ "\x7d"
  | n => n.compact

def prettyItems (level : Nat) : List Node → List String
  | [] => []
  | n :: ns => n.prettyAt level :: prettyItems level ns

def prettyFields (level : Nat) : List (String × Node) → List (String × String)
  | [] => []
  | (k, n) :: ns => (k, n.prettyAt level) :: prettyFields level ns

end

def Node.pretty (n : Node) : String := n.prettyAt 0

end AdminShell.Json
