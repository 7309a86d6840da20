import AdminShell.Model.Encode
import AdminShell.Literal.Typed
import AdminShell.Json.Normal

/-! # Exporting entities

An export is the document form of an entity, optionally with typed values: with typing on,
a property's non-empty literal is replaced by its typed value, and the items of collections,
lists and submodels are exported the same way. With typing off an export is the document
form itself.
-/

namespace AdminShell

open Json

/-- Sets a field of an object node, replacing the value of a field with that key. -/
def Json.Node.setField (n : Node) (key : String) (value : Node) : Node :=
  match n with
  | .obj fields stop => .obj (Json.setField fields key value) stop
  | other => other

def Property.typedValue (p : Property) (typed : Bool) : Option TypedValue :=
  if typed then p.literal.map (fun raw => coerce p.valueType raw true) else none

def Property.exportFields (p : Property) (typed : Bool) : List (String × Node) :=
  match p.typedValue typed with
  | some v => Json.setField p.fields "value" v.toNode
  | none => p.fields

def Property.export (p : Property) (typed : Bool) : Node :=
  .object (p.exportFields typed)

mutual

def Element.export (typed : Bool) (e : Element) : Node :=
  if !typed then e.toNode
  else
    let tag := ("modelType", Node.str e.kind.name)
    match e with
    | .property p => .object (tag :: p.exportFields typed)
    | .collection _ _ xs | .list _ _ _ xs =>
      match xs with
      | [] => e.toNode
      | _ => .object (tag :: e.leafFields ++ [("value", .array (Element.exportAll typed xs))])
    | _ => e.toNode

def Element.exportAll (typed : Bool) : List Element → List Node
  | [] => []
  | e :: es => e.export typed :: Element.exportAll typed es

end

def Submodel.export (s : Submodel) (typed : Bool) : Node :=
  if typed && !s.elements.isEmpty then
    .object (Json.setField s.fields "submodelElements" (.array (Element.exportAll typed s.elements)))
  else .object s.fields

def Identifiable.export (typed : Bool) : Identifiable → Node
  | .submodel s => (s.export typed).setField "modelType" (.str "Submodel")
  | i => i.toNode

end AdminShell
