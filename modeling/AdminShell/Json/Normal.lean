import AdminShell.Json.Node

/-! # JSON values as a map

A document read as a plain value forgets the order of object fields and keeps one value per
key: of several fields with one key the last wins, and the fields are then ordered by key.
`Node.normalize` gives this form at every depth; decoders that work on plain values meet
fields in key order.
-/

namespace AdminShell.Json

/-- Sets a key in a field list: replaces the value of the first field with that key, or
appends the field. -/
def setField (fields : List (String × Node)) (key : String) (value : Node) :
    List (String × Node) :=
  if fields.any (·.1 == key) then fields.map (fun p => if p.1 == key then (key, value) else p)
  else fields ++ [(key, value)]

def lastWins (fields : List (String × Node)) : List (String × Node) :=
  (fields.foldl (fun acc p => setField acc p.1 p.2) []).mergeSort
    (fun a b => decide (a.1 ≤ b.1))

mutual

def Node.normalize : Node → Node
  | .arr items stop => .arr (normalizeItems items) stop
  | .obj fields stop => .obj (lastWins (normalizeFields fields)) stop
  | n => n

def normalizeItems : List Node → List Node
  | [] => []
  | n :: ns => n.normalize :: normalizeItems ns

def normalizeFields : List (String × Node) → List (String × Node)
  | [] => []
  | (k, n) :: ns => (k, n.normalize) :: normalizeFields ns

end

end AdminShell.Json
