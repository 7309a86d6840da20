import AdminShell.Model.Types
import AdminShell.Model.Error
import AdminShell.Literal.Check

/-! # The rules of entities

`validate` checks an entity against the rules of the model, reporting the first broken one
in a fixed order: an entity's attributes before its own fields, and the parts of a tree in
document order. A typed literal is checked only when it is not empty. A list also checks each
item against what it declares: the item's kind must be admitted by the list's
`typeValueListElement`, and a property's or range's datatype must equal the list's
`valueTypeListElement`.
-/

namespace AdminShell

def checkAll {α : Type} (check : α → Checked) : List α → Checked
  | [] => .ok ()
  | x :: xs => do check x; checkAll check xs

def Checked.ofLiteral (r : Except LiteralError Unit) : Checked :=
  match r with
  | .ok () => .ok ()
  | .error e => .error (.literal e)

def checkLiteralField (t : Option Datatype) (v : Option String) : Checked :=
  match t, v with
  | some t, some raw => if raw.isEmpty then .ok () else Checked.ofLiteral (t.validate raw)
  | _, _ => .ok ()

def Semantics.validate (s : Semantics) : Checked :=
  if !s.supplementalSemanticIds.isEmpty && s.semanticId.isNone then
    .error (.constraint .supplementalWithoutSemanticId)
  else .ok ()

def Extension.validate (e : Extension) : Checked := do
  e.semantics.validate
  checkLiteralField e.valueType e.value

def Qualifier.validate (q : Qualifier) : Checked := do
  q.semantics.validate
  checkLiteralField q.valueType q.value

def ReferableAttrs.validate (r : ReferableAttrs) : Checked :=
  checkAll Extension.validate r.extensions

/-- Versions and revisions have at most four characters, and a revision needs a version. -/
def AdministrativeInformation.validate (a : AdministrativeInformation) : Checked := do
  match a.version with
  | some v => if v.length > 4 then throw (.constraint (.versionTooLong v))
  | none => pure ()
  match a.revision with
  | some r =>
    if r.length > 4 then throw (.constraint (.revisionTooLong r))
    if (a.version.map String.isEmpty).getD true then
      throw (.constraint .revisionWithoutVersion)
  | none => pure ()

def IdentifiableAttrs.validate (i : IdentifiableAttrs) : Checked := do
  i.referable.validate
  match i.administration with
  | some a => a.validate
  | none => pure ()

def ElementAttrs.validate (a : ElementAttrs) : Checked := do
  a.referable.validate
  a.semantics.validate
  checkAll Qualifier.validate a.qualifiers

def Property.literal (p : Property) : Option String :=
  p.value.filter (fun v => !v.isEmpty)

def Property.validate (p : Property) : Checked := do
  p.attrs.validate
  match p.literal with
  | some raw => Checked.ofLiteral (p.valueType.validate raw)
  | none =>
    if p.valueId.isNone then throw (.constraint (.missingValueOrValueId p.attrs.referable.idShort))

def Range.validate (r : Range) : Checked := do
  r.attrs.validate
  if r.min.isNone && r.max.isNone then
    throw (.constraint (.rangeWithoutBounds r.attrs.referable.idShort))
  checkLiteralField (some r.valueType) r.min
  checkLiteralField (some r.valueType) r.max

def Blob.validate (b : Blob) : Checked := do
  b.attrs.validate
  Checked.ofLiteral (Datatype.base64Binary.validate b.value)

def Blob.decoded (b : Blob) : Except ModelError (List Nat) :=
  match Literal.decodeBase64 b.value with
  | .ok bytes => .ok bytes
  | .error e =>
    .error (.literal (.format .base64Binary b.value ("is not valid base64 (" ++ e.message ++ ")")))

def RelationshipElement.validate (r : RelationshipElement) : Checked := do
  r.attrs.validate
  if !r.first.isModel then throw (.constraint (.relationshipRequiresModelReference "first"))
  if !r.second.isModel then throw (.constraint (.relationshipRequiresModelReference "second"))

namespace Element

def kind : Element → ElementKind
  | .property _ => .property
  | .multiLanguageProperty _ => .multiLanguageProperty
  | .range _ => .range
  | .file _ => .file
  | .blob _ => .blob
  | .referenceElement _ => .referenceElement
  | .relationship _ => .relationshipElement
  | .collection .. => .collection
  | .list .. => .list

def attrs : Element → ElementAttrs
  | .property p => p.attrs
  | .multiLanguageProperty p => p.attrs
  | .range r => r.attrs
  | .file f => f.attrs
  | .blob b => b.attrs
  | .referenceElement r => r.attrs
  | .relationship r => r.attrs
  | .collection a .. => a
  | .list a .. => a

def valueType : Element → Option Datatype
  | .property p => some p.valueType
  | .range r => some r.valueType
  | _ => none

def items : Element → List Element
  | .collection _ _ xs => xs
  | .list _ _ _ xs => xs
  | _ => []

def idShort (e : Element) : Option String := e.attrs.referable.idShort

end Element

/-- Checks an item at an index against what a list declares: its kind, then its datatype. -/
def ListShape.checkItem (shape : ListShape) (index : Nat) (e : Element) : Checked := do
  match shape.typeValueListElement with
  | some expected =>
    if !expected.admits e.kind then
      throw (.constraint (.listElementKindMismatch expected e.kind index))
  | none => pure ()
  match shape.valueTypeListElement, e.valueType with
  | some expected, some found =>
    if expected != found then throw (.constraint (.listValueTypeMismatch expected found index))
  | _, _ => pure ()

def ListShape.checkItems (shape : ListShape) : Nat → List Element → Checked
  | _, [] => .ok ()
  | i, e :: es => do shape.checkItem i e; shape.checkItems (i + 1) es

mutual

def Element.validate : Element → Checked
  | .property p => p.validate
  | .multiLanguageProperty p => p.attrs.validate
  | .range r => r.validate
  | .file f => f.attrs.validate
  | .blob b => b.validate
  | .referenceElement r => r.attrs.validate
  | .relationship r => r.validate
  | .collection a _ xs => do
    a.validate
    Element.validateAll xs
  | .list a _ shape xs => do
    a.validate
    shape.checkItems 0 xs
    Element.validateAll xs

def Element.validateAll : List Element → Checked
  | [] => .ok ()
  | e :: es => do e.validate; Element.validateAll es

end

def AssetInformation.validate (a : AssetInformation) : Checked :=
  checkAll (fun s => s.semantics.validate) a.specificAssetIds

def Shell.validate (s : Shell) : Checked := do
  s.identity.validate
  s.assetInformation.validate
  match s.derivedFrom with
  | some r => if !r.isModelTo .assetAdministrationShell then
      throw (.constraint .derivedFromMustReferenceShell)
  | none => pure ()
  let rec refs : Nat → List Reference → Checked
    | _, [] => .ok ()
    | i, r :: rs =>
      if !r.isModelTo .submodel then .error (.constraint (.submodelReferenceMustTargetSubmodel i))
      else refs (i + 1) rs
  refs 0 s.submodels

def Submodel.validate (s : Submodel) : Checked := do
  s.identity.validate
  s.semantics.validate
  checkAll Qualifier.validate s.qualifiers
  Element.validateAll s.elements

def ConceptDescription.validate (c : ConceptDescription) : Checked :=
  c.identity.validate

def Identifiable.validate : Identifiable → Checked
  | .shell s => s.validate
  | .submodel s => s.validate
  | .conceptDescription c => c.validate

end AdminShell
