import AdminShell.Model.Kind
import AdminShell.Reference.Basic
import AdminShell.Literal.Datatype

/-! # Entities of an asset administration shell

The entities a document describes. Identifiable entities (shells, submodels and concept
descriptions) carry an `id`; submodel elements carry the common attributes of referable,
semantic, qualifiable elements with data specifications. Collections and lists hold further
submodel elements, so `Element` is a tree.
-/

namespace AdminShell

structure LangString where
  language : String
  text : String
  deriving DecidableEq, Repr, Inhabited

/-- The semantic identity of an entity: a main reference and supplemental ones. -/
structure Semantics where
  semanticId : Option Reference := none
  supplementalSemanticIds : List Reference := []

/-- An extension: a named, optionally typed value attached to a referable entity. -/
structure Extension where
  name : String
  valueType : Option Datatype := none
  value : Option String := none
  refersTo : List Reference := []
  semantics : Semantics := {}

structure Qualifier where
  type : String
  valueType : Option Datatype := none
  value : Option String := none
  valueId : Option Reference := none
  semantics : Semantics := {}

structure ReferableAttrs where
  category : Option String := none
  idShort : Option String := none
  displayName : List LangString := []
  description : List LangString := []
  extensions : List Extension := []

structure AdministrativeInformation where
  version : Option String := none
  revision : Option String := none
  creator : Option Reference := none
  templateId : Option String := none

structure IdentifiableAttrs where
  referable : ReferableAttrs := {}
  id : String
  administration : Option AdministrativeInformation := none

structure ElementAttrs where
  referable : ReferableAttrs := {}
  semantics : Semantics := {}
  qualifiers : List Qualifier := []
  dataSpecifications : List Reference := []

structure Property where
  attrs : ElementAttrs := {}
  valueType : Datatype
  value : Option String := none
  valueId : Option Reference := none

structure MultiLanguageProperty where
  attrs : ElementAttrs := {}
  value : List LangString := []
  valueId : Option Reference := none

structure Range where
  attrs : ElementAttrs := {}
  valueType : Datatype
  min : Option String := none
  max : Option String := none

structure FileElement where
  attrs : ElementAttrs := {}
  contentType : String
  value : String

structure Blob where
  attrs : ElementAttrs := {}
  contentType : String
  value : String

structure ReferenceElement where
  attrs : ElementAttrs := {}
  value : Reference

structure RelationshipElement where
  attrs : ElementAttrs := {}
  first : Reference
  second : Reference

structure ListShape where
  typeValueListElement : Option ElementKind := none
  semanticIdListElement : Option Reference := none
  valueTypeListElement : Option Datatype := none

inductive Element where
  | property (p : Property)
  | multiLanguageProperty (p : MultiLanguageProperty)
  | range (r : Range)
  | file (f : FileElement)
  | blob (b : Blob)
  | referenceElement (r : ReferenceElement)
  | relationship (r : RelationshipElement)
  | collection (attrs : ElementAttrs) (orderRelevant : Bool) (items : List Element)
  | list (attrs : ElementAttrs) (orderRelevant : Bool) (shape : ListShape) (items : List Element)

structure Resource where
  path : String
  contentType : String

structure SpecificAssetId where
  name : String
  value : String
  externalSubjectId : Option Reference := none
  semantics : Semantics := {}

structure AssetInformation where
  assetKind : AssetKind
  globalAssetId : Option String := none
  specificAssetIds : List SpecificAssetId := []
  assetType : Option String := none
  defaultThumbnail : Option Resource := none

structure Shell where
  identity : IdentifiableAttrs
  assetInformation : AssetInformation
  derivedFrom : Option Reference := none
  submodels : List Reference := []
  dataSpecifications : List Reference := []

structure Submodel where
  identity : IdentifiableAttrs
  kind : ModellingKind := .«instance»
  semantics : Semantics := {}
  qualifiers : List Qualifier := []
  dataSpecifications : List Reference := []
  elements : List Element := []

structure ConceptDescription where
  identity : IdentifiableAttrs
  isCaseOf : List Reference := []
  dataSpecifications : List Reference := []

inductive Identifiable where
  | shell (s : Shell)
  | submodel (s : Submodel)
  | conceptDescription (c : ConceptDescription)

end AdminShell
