import AdminShell.Yaml.Parse
import AdminShell.Number.Read

/-! # YAML documents

The events of a YAML text build its documents. A plain scalar is resolved by the core
schema: `~` and `null` are null, `true` and `false` booleans, integers in decimal (an
optional sign), hex after `0x` and octal after `0o` within 64 bits, floats as a decimal
double reads them or `.inf`, `-.inf` and `.nan`, and anything else a string. Quoted and
block scalars are strings. A scalar tagged `!!bool`, `!!int`, `!!float` or `!!null` must read
as such, else it is a bad value; other tags make strings.

An alias stands for a copy of its anchored node as it was when anchored; an unknown one is
a bad value. A key given twice in a mapping keeps its first place and its last value.
-/

namespace AdminShell.Yaml

inductive Node where
  | real (text : String)
  | integer (i : Int)
  | string (s : String)
  | boolean (b : Bool)
  | array (items : List Node)
  | hash (entries : List (Node × Node))
  | null
  | badValue
  deriving BEq, Repr

def digitIn (base : Nat) (c : Char) : Option Nat :=
  let v := if c.isDigit then some (c.toNat - 48)
    else if 'a' ≤ c && c ≤ 'z' then some (c.toNat - 87)
    else if 'A' ≤ c && c ≤ 'Z' then some (c.toNat - 55) else none
  v.filter (· < base)

def readInt64 (base : Nat) (s : String) : Option Int :=
  let (negative, digits) := match s.toList with
    | '-' :: rest => (true, rest)
    | '+' :: rest => (false, rest)
    | rest => (false, rest)
  if digits.isEmpty then none
  else
    (digits.foldlM (fun acc c => (digitIn base c).map (acc * base + ·)) 0).bind fun v =>
      let i : Int := if negative then -(v : Int) else v
      if i < -9223372036854775808 || 9223372036854775807 < i then none else some i

def specialFloats : List String :=
  [".inf", ".Inf", ".INF", "+.inf", "+.Inf", "+.INF", "-.inf", "-.Inf", "-.INF", ".nan", ".NaN",
    ".NAN"]

def isFloatText (s : String) : Bool := specialFloats.contains s || (Number.readFloat? s).isSome

def resolvePlain (v : String) : Node :=
  let general : Node :=
    if v == "~" || v == "null" then .null
    else if v == "true" then .boolean true
    else if v == "false" then .boolean false
    else match readInt64 10 v with
      | some i => .integer i
      | none => if isFloatText v then .real v else .string v
  if v.startsWith "0x" then ((readInt64 16 (v.drop 2).toString).map Node.integer).getD general
  else if v.startsWith "0o" then ((readInt64 8 (v.drop 2).toString).map Node.integer).getD general
  else if v.startsWith "+" then ((readInt64 10 (v.drop 1).toString).map Node.integer).getD general
  else general

def resolveScalar (v : String) (style : ScalarStyle) (tag : Option Tag) : Node :=
  if style != .plain then .string v
  else match tag with
    | some t =>
      if t.handle == "tag:yaml.org,2002:" then
        if t.suffix == "bool" then
          if v == "true" then .boolean true else if v == "false" then .boolean false else .badValue
        else if t.suffix == "int" then ((readInt64 10 v).map Node.integer).getD .badValue
        else if t.suffix == "float" then if isFloatText v then .real v else .badValue
        else if t.suffix == "null" then if v == "~" || v == "null" then .null else .badValue
        else .string v
      else .string v
    | none => resolvePlain v

def hashInsert (entries : List (Node × Node)) (k v : Node) : List (Node × Node) :=
  if entries.any (·.1 == k) then entries.map fun e => if e.1 == k then (k, v) else e
  else entries ++ [(k, v)]

/-- The documents built so far, the open collections (innermost first, each with its anchor
number), the pending key of each open mapping (a bad value for none), and the anchored
nodes. -/
structure Loader where
  docs : List Node
  stack : List (Node × Nat)
  keys : List Node
  anchors : List (Nat × Node)

def Loader.insert (l : Loader) (node : Node) (anchor : Nat) : Loader :=
  let l := if anchor > 0 then { l with anchors := (anchor, node) :: l.anchors } else l
  match l.stack with
  | [] => { l with stack := [(node, anchor)] }
  | (.array items, a) :: rest => { l with stack := (.array (items ++ [node]), a) :: rest }
  | (.hash entries, a) :: rest =>
    match l.keys with
    | k :: ks =>
      if k == .badValue then { l with keys := node :: ks }
      else { l with keys := .badValue :: ks, stack := (.hash (hashInsert entries k node), a) :: rest }
    | [] => l
  | _ :: _ => l

def Loader.step (l : Loader) : Event → Loader
  | .documentEnd =>
    match l.stack with
    | [] => { l with docs := .badValue :: l.docs }
    | [(n, _)] => { l with docs := n :: l.docs, stack := [] }
    | _ => l
  | .sequenceStart a _ => { l with stack := (.array [], a) :: l.stack }
  | .mappingStart a _ => { l with stack := (.hash [], a) :: l.stack, keys := .badValue :: l.keys }
  | .sequenceEnd =>
    match l.stack with
    | (n, a) :: rest => { l with stack := rest }.insert n a
    | [] => l
  | .mappingEnd =>
    match l.stack with
    | (n, a) :: rest => { l with stack := rest, keys := l.keys.drop 1 }.insert n a
    | [] => l
  | .scalar v style a tag => l.insert (resolveScalar v style tag) a
  | .alias id => l.insert (((l.anchors.find? (·.1 == id)).map Prod.snd).getD .badValue) 0
  | _ => l

def load (text : String) : Except ScanError (List Node) :=
  (events text).map fun evs => (evs.foldl Loader.step ⟨[], [], [], []⟩).docs.reverse

end AdminShell.Yaml
