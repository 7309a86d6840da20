import AdminShell.Model.Kind
import AdminShell.Reference.Chain
import AdminShell.Literal.Datatype
import AdminShell.Json.Decode

/-! # Errors of model entities

`ConstraintError` lists the presence and shape rules of entities; `ModelError` is any
failure of reading, building or checking an entity: a broken key chain, a literal that does
not fit its datatype, an unknown datatype, a broken constraint, a document that does not
decode, or a file that cannot be read. Every message starts with the rule's identifier,
except those of documents and files, which start with `JSON error:` and `IO error:`.
-/

namespace AdminShell

inductive ConstraintError where
  | supplementalWithoutSemanticId
  | versionTooLong (version : String)
  | revisionTooLong (revision : String)
  | revisionWithoutVersion
  | missingValueOrValueId (idShort : Option String)
  | rangeWithoutBounds (idShort : Option String)
  | relationshipRequiresModelReference (field : String)
  | derivedFromMustReferenceShell
  | submodelReferenceMustTargetSubmodel (index : Nat)
  | listElementKindMismatch (expected found : ElementKind) (index : Nat)
  | listValueTypeMismatch (expected found : Datatype) (index : Nat)
  deriving DecidableEq, Repr

namespace ConstraintError

def rule : ConstraintError → String
  | .supplementalWithoutSemanticId => "supplemental-semantic-id-requires-semantic-id"
  | .versionTooLong _ => "version-too-long"
  | .revisionTooLong _ => "revision-too-long"
  | .revisionWithoutVersion => "revision-requires-version"
  | .missingValueOrValueId _ => "property-requires-value-or-value-id"
  | .rangeWithoutBounds _ => "range-requires-min-or-max"
  | .relationshipRequiresModelReference _ => "relationship-requires-model-reference"
  | .derivedFromMustReferenceShell => "derived-from-must-reference-shell"
  | .submodelReferenceMustTargetSubmodel _ => "submodel-reference-must-target-submodel"
  | .listElementKindMismatch .. => "list-element-kind-mismatch"
  | .listValueTypeMismatch .. => "list-value-type-mismatch"

def message (e : ConstraintError) : String :=
  e.rule ++ ": " ++
    match e with
    | .supplementalWithoutSemanticId => "supplementalSemanticId is set but semanticId is missing"
    | .versionTooLong v => "version '" ++ v ++ "' exceeds 4 characters"
    | .revisionTooLong r => "revision '" ++ r ++ "' exceeds 4 characters"
    | .revisionWithoutVersion => "revision is set but version is missing"
    | .missingValueOrValueId i =>
      "Property " ++ Text.quotedOption i ++ " has neither a value nor a valueId"
    | .rangeWithoutBounds i => "Range " ++ Text.quotedOption i ++ " has neither min nor max"
    | .relationshipRequiresModelReference f =>
      "'" ++ f ++ "' of a RelationshipElement must be a ModelReference"
    | .derivedFromMustReferenceShell =>
      "derivedFrom must be a ModelReference to an AssetAdministrationShell"
    | .submodelReferenceMustTargetSubmodel i =>
      "submodels[" ++ toString i ++ "] must be a ModelReference to a Submodel"
    | .listElementKindMismatch expected found i =>
      "SubmodelElementList expects " ++ expected.name ++ " elements, item " ++ toString i ++
        " is " ++ found.name
    | .listValueTypeMismatch expected found i =>
      "SubmodelElementList expects valueType " ++ expected.name ++ ", item " ++ toString i ++
        " declares " ++ found.name

end ConstraintError

/-- A file that could not be read: the path as given, and the system's description. -/
structure IoFailure where
  path : String
  description : String
  deriving DecidableEq, Repr

inductive ModelError where
  | chain (e : ChainError)
  | literal (e : LiteralError)
  | unsupported (e : UnsupportedType)
  | constraint (e : ConstraintError)
  | json (e : Json.DecodeError)
  | io (e : IoFailure)

namespace ModelError

def rule : ModelError → String
  | .chain e => e.rule
  | .literal e => e.rule
  | .unsupported _ => "unsupported-type"
  | .constraint e => e.rule
  | .json _ => "parse-error"
  | .io _ => "io-error"

def message : ModelError → String
  | .chain e => e.message
  | .literal e => e.message
  | .unsupported e => e.message
  | .constraint e => e.message
  | .json e => "JSON error: " ++ e.message
  | .io e => "IO error: " ++ e.description

end ModelError

abbrev Checked := Except ModelError Unit

end AdminShell
