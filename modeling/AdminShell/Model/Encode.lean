import AdminShell.Model.Validate
import AdminShell.Reference.Codec

/-! # Writing entities as documents

Each entity is written as the object a document holds. Absent optional fields and empty
lists are left out; `orderRelevant` and a submodel's `kind` are always written; a datatype is
written by its bare name. Elements and identifiable entities carry their `modelType` tag.
-/

namespace AdminShell

open Json

def optField {α : Type} (key : String) (write : α → Node) : Option α → List (String × Node)
  | some x => [(key, write x)]
  | none => []

def listField {α : Type} (key : String) (write : α → Node) : List α → List (String × Node)
  | [] => []
  | xs => [(key, .array (xs.map write))]

def LangString.toNode (l : LangString) : Node :=
  .object [("language", .str l.language), ("text", .str l.text)]

def Semantics.fields (s : Semantics) : List (String × Node) :=
  optField "semanticId" Reference.toNode s.semanticId ++
    listField "supplementalSemanticIds" Reference.toNode s.supplementalSemanticIds

def Datatype.toNode (t : Datatype) : Node := .str t.name

def Extension.toNode (e : Extension) : Node :=
  .object ([("name", .str e.name)] ++ optField "valueType" Datatype.toNode e.valueType ++
    optField "value" .str e.value ++ listField "refersTo" Reference.toNode e.refersTo ++
    e.semantics.fields)

def Qualifier.toNode (q : Qualifier) : Node :=
  .object ([("type", .str q.type)] ++ optField "valueType" Datatype.toNode q.valueType ++
    optField "value" .str q.value ++ optField "valueId" Reference.toNode q.valueId ++
    q.semantics.fields)

def ReferableAttrs.fields (r : ReferableAttrs) : List (String × Node) :=
  optField "category" .str r.category ++ optField "idShort" .str r.idShort ++
    listField "displayName" LangString.toNode r.displayName ++
    listField "description" LangString.toNode r.description ++
    listField "extensions" Extension.toNode r.extensions

def AdministrativeInformation.toNode (a : AdministrativeInformation) : Node :=
  .object (optField "version" .str a.version ++ optField "revision" .str a.revision ++
    optField "creator" Reference.toNode a.creator ++ optField "templateId" .str a.templateId)

def IdentifiableAttrs.fields (i : IdentifiableAttrs) : List (String × Node) :=
  i.referable.fields ++ [("id", .str i.id)] ++
    optField "administration" AdministrativeInformation.toNode i.administration

def ElementAttrs.fields (a : ElementAttrs) : List (String × Node) :=
  a.referable.fields ++ a.semantics.fields ++ listField "qualifiers" Qualifier.toNode a.qualifiers ++
    listField "dataSpecifications" Reference.toNode a.dataSpecifications

def ElementKind.toNode (k : ElementKind) : Node := .str k.name

def ListShape.fields (s : ListShape) : List (String × Node) :=
  optField "typeValueListElement" ElementKind.toNode s.typeValueListElement ++
    optField "semanticIdListElement" Reference.toNode s.semanticIdListElement ++
    optField "valueTypeListElement" Datatype.toNode s.valueTypeListElement

def Property.fields (p : Property) : List (String × Node) :=
  p.attrs.fields ++ [("valueType", p.valueType.toNode)] ++ optField "value" .str p.value ++
    optField "valueId" Reference.toNode p.valueId

def MultiLanguageProperty.fields (p : MultiLanguageProperty) : List (String × Node) :=
  p.attrs.fields ++ listField "value" LangString.toNode p.value ++
    optField "valueId" Reference.toNode p.valueId

def Range.fields (r : Range) : List (String × Node) :=
  r.attrs.fields ++ [("valueType", r.valueType.toNode)] ++ optField "min" .str r.min ++
    optField "max" .str r.max

def Element.leafFields : Element → List (String × Node)
  | .property p => p.fields
  | .multiLanguageProperty p => p.fields
  | .range r => r.fields
  | .file f => f.attrs.fields ++ [("contentType", .str f.contentType), ("value", .str f.value)]
  | .blob b => b.attrs.fields ++ [("contentType", .str b.contentType), ("value", .str b.value)]
  | .referenceElement r => r.attrs.fields ++ [("value", r.value.toNode)]
  | .relationship r => r.attrs.fields ++ [("first", r.first.toNode), ("second", r.second.toNode)]
  | .collection a o _ => a.fields ++ [("orderRelevant", .bool o)]
  | .list a o s _ => a.fields ++ [("orderRelevant", .bool o)] ++ s.fields

/-- The field of a collection's or list's items, left out when there are none. -/
def itemsField (items : List Node) : List (String × Node) :=
  match items with
  | [] => []
  | _ => [("value", .array items)]

mutual

def Element.toNode : Element → Node
  | .collection a o xs =>
    .object (("modelType", .str ElementKind.collection.name) ::
      (Element.collection a o xs).leafFields ++ itemsField (Element.toNodes xs))
  | .list a o sh xs =>
    .object (("modelType", .str ElementKind.list.name) ::
      (Element.list a o sh xs).leafFields ++ itemsField (Element.toNodes xs))
  | e => .object (("modelType", .str e.kind.name) :: e.leafFields)

def Element.toNodes : List Element → List Node
  | [] => []
  | e :: es => e.toNode :: Element.toNodes es

end

def Element.fields (e : Element) : List (String × Node) :=
  match e with
  | .collection _ _ xs | .list _ _ _ xs => e.leafFields ++ itemsField (Element.toNodes xs)
  | _ => e.leafFields

def Resource.toNode (r : Resource) : Node :=
  .object [("path", .str r.path), ("contentType", .str r.contentType)]

def SpecificAssetId.toNode (s : SpecificAssetId) : Node :=
  .object ([("name", .str s.name), ("value", .str s.value)] ++
    optField "externalSubjectId" Reference.toNode s.externalSubjectId ++ s.semantics.fields)

def AssetKind.toNode (k : AssetKind) : Node := .str k.name

def AssetInformation.toNode (a : AssetInformation) : Node :=
  .object ([("assetKind", a.assetKind.toNode)] ++ optField "globalAssetId" .str a.globalAssetId ++
    listField "specificAssetIds" SpecificAssetId.toNode a.specificAssetIds ++
    optField "assetType" .str a.assetType ++
    optField "defaultThumbnail" Resource.toNode a.defaultThumbnail)

def Shell.fields (s : Shell) : List (String × Node) :=
  s.identity.fields ++ [("assetInformation", s.assetInformation.toNode)] ++
    optField "derivedFrom" Reference.toNode s.derivedFrom ++
    listField "submodels" Reference.toNode s.submodels ++
    listField "dataSpecifications" Reference.toNode s.dataSpecifications

def Submodel.fields (s : Submodel) : List (String × Node) :=
  s.identity.fields ++ [("kind", .str s.kind.name)] ++ s.semantics.fields ++
    listField "qualifiers" Qualifier.toNode s.qualifiers ++
    listField "dataSpecifications" Reference.toNode s.dataSpecifications ++
    (match s.elements with
      | [] => []
      | xs => [("submodelElements", .array (Element.toNodes xs))])

def ConceptDescription.fields (c : ConceptDescription) : List (String × Node) :=
  c.identity.fields ++ listField "isCaseOf" Reference.toNode c.isCaseOf ++
    listField "dataSpecifications" Reference.toNode c.dataSpecifications

def Identifiable.kind : Identifiable → EntityKind
  | .shell _ => .shell
  | .submodel _ => .submodel
  | .conceptDescription _ => .conceptDescription

def Identifiable.identity : Identifiable → IdentifiableAttrs
  | .shell s => s.identity
  | .submodel s => s.identity
  | .conceptDescription c => c.identity

def Identifiable.fields : Identifiable → List (String × Node)
  | .shell s => s.fields
  | .submodel s => s.fields
  | .conceptDescription c => c.fields

/-- An identifiable entity as a document writes it, tagged by its kind. -/
def Identifiable.toNode (i : Identifiable) : Node :=
  .object (("modelType", .str i.kind.name) :: i.fields)

end AdminShell
