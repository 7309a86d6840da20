import AdminShell.Number.Double

/-! # TOML values

A TOML document is a table: keys in the order they were written, each holding a string,
an integer, a float, a boolean, a date or time (kept as its text), an array, or a table.
-/

namespace AdminShell.Toml

/-- A TOML value. -/
inductive Value where
  | string (s : String)
  | integer (i : Int)
  | float (x : Number.Double)
  | boolean (b : Bool)
  | datetime (text : String)
  | array (items : List Value)
  | table (entries : List (String × Value))
  deriving Inhabited

def Value.isTable : Value → Bool
  | .table _ => true
  | _ => false

def lookup (entries : List (String × Value)) (key : String) : Option Value :=
  (entries.find? (·.1 == key)).map Prod.snd

end AdminShell.Toml
