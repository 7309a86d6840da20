import AdminShell.Model.Validate

/-! # Growing a list of elements

An `ElementList` is a submodel element list held on its own, so that items can be added one
at a time. `push` adds an item only when the list admits it (by kind, then by datatype) and
the item is valid; otherwise the list stays as it was.
-/

namespace AdminShell

/-- A submodel element list: attributes, order flag, declared shape and items. -/
structure ElementList where
  attrs : ElementAttrs
  orderRelevant : Bool := true
  shape : ListShape := {}
  items : List Element := []

namespace ElementList

def new (idShort : String) (kind : ElementKind) : ElementList :=
  ⟨{ referable := { idShort := some idShort } }, true, { typeValueListElement := some kind }, []⟩

def toElement (l : ElementList) : Element := .list l.attrs l.orderRelevant l.shape l.items

def length (l : ElementList) : Nat := l.items.length

def validate (l : ElementList) : Checked := l.toElement.validate

def push (l : ElementList) (e : Element) : Except ModelError ElementList := do
  l.shape.checkItem l.items.length e
  e.validate
  pure { l with items := l.items ++ [e] }

def pushInPlace (l : ElementList) (e : Element) : Checked × ElementList :=
  match l.push e with
  | .ok grown => (.ok (), grown)
  | .error err => (.error err, l)

end ElementList

end AdminShell
