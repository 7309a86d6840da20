import AdminShell.Model.Decode.Identifiable
import AdminShell.Model.Export
import AdminShell.Json.Parse

/-! # Reading documents

Two ways to read a text. `readEntity` decodes one entity while it reads: the first syntax
fault or data error in document order is reported, then any text after the entity.
`readIdentifiables` first reads the whole text as a plain value (so a syntax fault anywhere
wins, duplicate keys keep their last value and fields are met in key order), then decodes
one identifiable entity or an array of them, then checks each in order.
-/

namespace AdminShell

open Json

def readEntity {α : Type} (decode : Flavour → Node → Decoded α) (text : String) :
    Except ModelError α :=
  let doc := Json.read text
  match decode .text doc.root with
  | .error e => .error (.json e)
  | .ok x =>
    match doc.trailing with
    | some f => .error (.json (.malformed f))
    | none => .ok x

def readChecked {α : Type} (decode : Flavour → Node → Decoded α) (check : α → Checked)
    (text : String) : Except ModelError α := do
  let x ← readEntity decode text
  check x
  pure x

def readPlainValue (text : String) : Except ModelError Node :=
  let doc := Json.read text
  match doc.fault? with
  | some f => .error (.json (.malformed f))
  | none => .ok doc.root.normalize

/-- Reads the identifiable entities of a text, one or an array, and checks each in order. -/
def readIdentifiables (text : String) : Except ModelError (List Identifiable) := do
  let n ← readPlainValue text
  let decoded :=
    match n with
    | .arr .. => decodeSeq (decodeIdentifiable .value) n
    | _ => (decodeIdentifiable .value n).map (fun x => [x])
  match decoded with
  | .error e => throw (.json e)
  | .ok xs =>
    checkAll Identifiable.validate xs
    pure xs

end AdminShell
