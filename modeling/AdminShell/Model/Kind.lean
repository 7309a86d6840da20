/-! # Kinds of model elements

The kinds a submodel element has or a list asks for, the modelling kind of a submodel and
the kind of an asset. `ElementKind.admits` says which items a list of a kind may hold: a list
of `SubmodelElement` holds any element, a list of `DataElement` holds the data elements
(properties, multi-language properties, ranges, files, blobs and reference elements), and a
list of any other kind holds elements of exactly that kind.
-/

namespace AdminShell

/-- The kind of a submodel element, including the two abstract kinds. -/
inductive ElementKind where
  | submodelElement
  | dataElement
  | property
  | multiLanguageProperty
  | range
  | file
  | blob
  | referenceElement
  | relationshipElement
  | collection
  | list
  deriving DecidableEq, Repr, Inhabited

namespace ElementKind

def name : ElementKind → String
  | .submodelElement => "SubmodelElement"
  | .dataElement => "DataElement"
  | .property => "Property"
  | .multiLanguageProperty => "MultiLanguageProperty"
  | .range => "Range"
  | .file => "File"
  | .blob => "Blob"
  | .referenceElement => "ReferenceElement"
  | .relationshipElement => "RelationshipElement"
  | .collection => "SubmodelElementCollection"
  | .list => "SubmodelElementList"

def all : List ElementKind :=
  [.submodelElement, .dataElement, .property, .multiLanguageProperty, .range, .file, .blob,
    .referenceElement, .relationshipElement, .collection, .list]

def isDataElement : ElementKind → Bool
  | .dataElement | .property | .multiLanguageProperty | .range | .file | .blob
  | .referenceElement => true
  | _ => false

def admits (container item : ElementKind) : Bool :=
  match container with
  | .submodelElement => true
  | .dataElement => item.isDataElement
  | _ => container == item

end ElementKind

inductive EntityKind where
  | shell
  | submodel
  | conceptDescription
  deriving DecidableEq, Repr, Inhabited

def EntityKind.name : EntityKind → String
  | .shell => "AssetAdministrationShell"
  | .submodel => "Submodel"
  | .conceptDescription => "ConceptDescription"

def EntityKind.all : List EntityKind := [.shell, .submodel, .conceptDescription]

inductive ModellingKind where
  | template
  | «instance»
  deriving DecidableEq, Repr, Inhabited

def ModellingKind.name : ModellingKind → String
  | .template => "Template"
  | .«instance» => "Instance"

def ModellingKind.all : List ModellingKind := [.template, .«instance»]

inductive AssetKind where
  | type
  | «instance»
  | notApplicable
  deriving DecidableEq, Repr, Inhabited

def AssetKind.name : AssetKind → String
  | .type => "Type"
  | .«instance» => "Instance"
  | .notApplicable => "NotApplicable"

def AssetKind.all : List AssetKind := [.type, .«instance», .notApplicable]

end AdminShell
