import AdminShell.Text.Blank

/-! # Keys of a reference

A key is one typed hop of a reference's path: a key type from a closed vocabulary of
24 names and a value. This module holds the vocabulary, the two reference kinds and the
`Type=value` text form of a key, together with the tables the chain grammar reads
(`Reference.Chain`).
-/

namespace AdminShell

/-- The closed vocabulary of key types, in alphabetical order of their names. -/
inductive KeyType where
  | annotatedRelationshipElement
  | assetAdministrationShell
  | basicEventElement
  | blob
  | capability
  | conceptDescription
  | dataElement
  | entity
  | eventElement
  | file
  | fragmentReference
  | globalReference
  | identifiable
  | multiLanguageProperty
  | operation
  | property
  | range
  | referable
  | referenceElement
  | relationshipElement
  | submodel
  | submodelElement
  | submodelElementCollection
  | submodelElementList
  deriving DecidableEq, Repr, Inhabited

namespace KeyType

def name : KeyType → String
  | .annotatedRelationshipElement => "AnnotatedRelationshipElement"
  | .assetAdministrationShell => "AssetAdministrationShell"
  | .basicEventElement => "BasicEventElement"
  | .blob => "Blob"
  | .capability => "Capability"
  | .conceptDescription => "ConceptDescription"
  | .dataElement => "DataElement"
  | .entity => "Entity"
  | .eventElement => "EventElement"
  | .file => "File"
  | .fragmentReference => "FragmentReference"
  | .globalReference => "GlobalReference"
  | .identifiable => "Identifiable"
  | .multiLanguageProperty => "MultiLanguageProperty"
  | .operation => "Operation"
  | .property => "Property"
  | .range => "Range"
  | .referable => "Referable"
  | .referenceElement => "ReferenceElement"
  | .relationshipElement => "RelationshipElement"
  | .submodel => "Submodel"
  | .submodelElement => "SubmodelElement"
  | .submodelElementCollection => "SubmodelElementCollection"
  | .submodelElementList => "SubmodelElementList"

def all : List KeyType :=
  [.annotatedRelationshipElement, .assetAdministrationShell, .basicEventElement, .blob,
    .capability, .conceptDescription, .dataElement, .entity, .eventElement, .file,
    .fragmentReference, .globalReference, .identifiable, .multiLanguageProperty, .operation,
    .property, .range, .referable, .referenceElement, .relationshipElement, .submodel,
    .submodelElement, .submodelElementCollection, .submodelElementList]

def ofName? (s : String) : Option KeyType :=
  all.find? (fun t => t.name == s)

def isFragment : KeyType → Bool
  | .submodelElement | .property | .multiLanguageProperty | .range | .referenceElement
  | .relationshipElement | .annotatedRelationshipElement | .submodelElementCollection
  | .submodelElementList | .file | .blob | .entity | .basicEventElement | .operation
  | .fragmentReference => true
  | _ => false

def holdsFragment : KeyType → Bool
  | .file | .blob => true
  | _ => false

def endsExternal : KeyType → Bool
  | .globalReference | .fragmentReference => true
  | _ => false

end KeyType

/-- Whether a reference points into the model or to an external concept. -/
inductive ReferenceKind where
  | external
  | model
  deriving DecidableEq, Repr, Inhabited

namespace ReferenceKind

def name : ReferenceKind → String
  | .external => "ExternalReference"
  | .model => "ModelReference"

def all : List ReferenceKind := [.external, .model]

def firstKeys : ReferenceKind → List KeyType
  | .model => [.assetAdministrationShell, .submodel, .conceptDescription]
  | .external => [.globalReference]

def parse (s : String) : Except String ReferenceKind :=
  if s == "ExternalReference" || s == "external" then .ok .external
  else if s == "ModelReference" || s == "model" then .ok .model
  else .error ("unknown reference type '" ++ s ++ "'")

end ReferenceKind

structure Key where
  type : KeyType
  value : String
  deriving DecidableEq, Repr, Inhabited

namespace Key

def display (k : Key) : String :=
  "(" ++ k.type.name ++ ")" ++ k.value

def parseType (s : String) : Except String KeyType :=
  match KeyType.ofName? s with
  | some t => .ok t
  | none => .error ("unknown key type '" ++ s ++ "'")

def parse (s : String) : Except String Key :=
  match s.toList.span (· ≠ '=') with
  | (typePart, '=' :: value) =>
    match parseType (Text.trimWhiteSpace (String.ofList typePart)) with
    | .ok t => .ok ⟨t, String.ofList value⟩
    | .error e => .error e
  | _ => .error ("expected <Type>=<value>, got '" ++ s ++ "'")

end Key

end AdminShell
