import AdminShell.Model.Types
import AdminShell.Reference.Codec

/-! # Reading the attributes of entities

Decoders for the parts that shells, submodels and elements share: texts in languages,
semantics, extensions, qualifiers, referable, identifiable and element attributes, and
version information. Each follows the field order and the flattening of the document
format (see `Json.Source`): semantics and referable attributes are read from the entries
their owner did not know.
-/

namespace AdminShell

open Json

def decodeDatatype (v : Node) : Decoded Datatype := do
  let s ← decodeString v
  match Datatype.parse s with
  | .ok t => pure t
  | .error e => throw (.data e.message)

def decodeOptString (v : Node) : Decoded (Option String) := decodeOption decodeString v

def langStringSpec : StructSpec := ⟨"LangString", [.required "language", .required "text"]⟩

def decodeLangString (fl : Flavour) (n : Node) : Decoded LangString := do
  let set (s : Option String × Option String) (i : Nat) (v : Node) :
      Decoded (Option String × Option String) :=
    match i with
    | 0 => (decodeString v).map (fun x => (some x, s.2))
    | _ => (decodeString v).map (fun x => (s.1, some x))
  let (s, _) ← (Source.node fl n).plain langStringSpec set (none, none)
  match s with
  | (some l, some t) => pure ⟨l, t⟩
  | (none, _) => throw (missingField "language")
  | (_, none) => throw (missingField "text")

def semanticsSpec : StructSpec :=
  ⟨"Semantics", [.withDefault "semanticId",
    .aliased "supplementalSemanticIds" ["supplementalSemanticId"]]⟩

def decodeSemantics (src : Source) : Decoded (Semantics × List (String × Node)) :=
  let fl := src.flavour
  let set (s : Semantics) (i : Nat) (v : Node) : Decoded Semantics :=
    match i with
    | 0 => (decodeOption (decodeReference fl) v).map (fun r => { s with semanticId := r })
    | _ => (decodeSeq (decodeReference fl) v).map (fun rs => { s with supplementalSemanticIds := rs })
  src.plain semanticsSpec set {}

/-- An extension before its name is known to be there. -/
structure ExtensionDraft where
  name : Option String := none
  valueType : Option Datatype := none
  value : Option String := none
  refersTo : List Reference := []

def extensionSpec : StructSpec :=
  ⟨"Extension", [.required "name", .withDefault "valueType", .withDefault "value",
    .withDefault "refersTo"]⟩

def decodeExtension (fl : Flavour) (n : Node) : Decoded Extension := do
  let src := Source.node fl n
  let set (s : ExtensionDraft) (i : Nat) (v : Node) : Decoded ExtensionDraft :=
    match i with
    | 0 => (decodeString v).map (fun x => { s with name := some x })
    | 1 => (decodeOption decodeDatatype v).map (fun x => { s with valueType := x })
    | 2 => (decodeOptString v).map (fun x => { s with value := x })
    | _ => (decodeSeq (decodeReference src.flavour) v).map (fun x => { s with refersTo := x })
  let (d, rest) ← src.mapped extensionSpec set {}
  let (semantics, _) ← decodeSemantics (.flat rest)
  match d.name with
  | some name => pure ⟨name, d.valueType, d.value, d.refersTo, semantics⟩
  | none => throw (missingField "name")

/-- A qualifier before its type is known to be there. -/
structure QualifierDraft where
  type : Option String := none
  valueType : Option Datatype := none
  value : Option String := none
  valueId : Option Reference := none

def qualifierSpec : StructSpec :=
  ⟨"Qualifier", [.required "type", .withDefault "valueType", .withDefault "value",
    .withDefault "valueId"]⟩

def decodeQualifier (fl : Flavour) (n : Node) : Decoded Qualifier := do
  let src := Source.node fl n
  let set (s : QualifierDraft) (i : Nat) (v : Node) : Decoded QualifierDraft :=
    match i with
    | 0 => (decodeString v).map (fun x => { s with type := some x })
    | 1 => (decodeOption decodeDatatype v).map (fun x => { s with valueType := x })
    | 2 => (decodeOptString v).map (fun x => { s with value := x })
    | _ => (decodeOption (decodeReference src.flavour) v).map (fun x => { s with valueId := x })
  let (d, rest) ← src.mapped qualifierSpec set {}
  let (semantics, _) ← decodeSemantics (.flat rest)
  match d.type with
  | some type => pure ⟨type, d.valueType, d.value, d.valueId, semantics⟩
  | none => throw (missingField "type")

def referableSpec : StructSpec :=
  ⟨"ReferableAttrs", [.withDefault "category", .withDefault "idShort", .withDefault "displayName",
    .withDefault "description", .aliased "extensions" ["extension"]]⟩

def decodeReferable (src : Source) : Decoded (ReferableAttrs × List (String × Node)) :=
  let fl := src.flavour
  let set (s : ReferableAttrs) (i : Nat) (v : Node) : Decoded ReferableAttrs :=
    match i with
    | 0 => (decodeOptString v).map (fun x => { s with category := x })
    | 1 => (decodeOptString v).map (fun x => { s with idShort := x })
    | 2 => (decodeSeq (decodeLangString fl) v).map (fun x => { s with displayName := x })
    | 3 => (decodeSeq (decodeLangString fl) v).map (fun x => { s with description := x })
    | _ => (decodeSeq (decodeExtension fl) v).map (fun x => { s with extensions := x })
  src.plain referableSpec set {}

def administrationSpec : StructSpec :=
  ⟨"AdministrativeInformation", [.withDefault "version", .withDefault "revision",
    .withDefault "creator", .withDefault "templateId"]⟩

def decodeAdministration (fl : Flavour) (n : Node) : Decoded AdministrativeInformation := do
  let set (s : AdministrativeInformation) (i : Nat) (v : Node) :
      Decoded AdministrativeInformation :=
    match i with
    | 0 => (decodeOptString v).map (fun x => { s with version := x })
    | 1 => (decodeOptString v).map (fun x => { s with revision := x })
    | 2 => (decodeOption (decodeReference fl) v).map (fun x => { s with creator := x })
    | _ => (decodeOptString v).map (fun x => { s with templateId := x })
  let (s, _) ← (Source.node fl n).plain administrationSpec set {}
  pure s

def identitySpec : StructSpec :=
  ⟨"IdentifiableAttrs", [.required "id", .withDefault "administration"]⟩

def decodeIdentity (src : Source) : Decoded IdentifiableAttrs := do
  let fl := src.flavour
  let set (s : Option String × Option AdministrativeInformation) (i : Nat) (v : Node) :
      Decoded (Option String × Option AdministrativeInformation) :=
    match i with
    | 0 => (decodeString v).map (fun x => (some x, s.2))
    | _ => (decodeOption (decodeAdministration fl) v).map (fun x => (s.1, x))
  let (d, rest) ← src.mapped identitySpec set (none, none)
  let (referable, _) ← decodeReferable (.flat rest)
  match d.1 with
  | some id => pure ⟨referable, id, d.2⟩
  | none => throw (missingField "id")

def elementAttrsSpec : StructSpec :=
  ⟨"ElementAttrs", [.aliased "qualifiers" ["qualifier"],
    .aliased "dataSpecifications" ["dataSpecification"]]⟩

def decodeElementAttrs (src : Source) : Decoded ElementAttrs := do
  let fl := src.flavour
  let set (s : ElementAttrs) (i : Nat) (v : Node) : Decoded ElementAttrs :=
    match i with
    | 0 => (decodeSeq (decodeQualifier fl) v).map (fun x => { s with qualifiers := x })
    | _ => (decodeSeq (decodeReference fl) v).map (fun x => { s with dataSpecifications := x })
  let (d, rest) ← src.mapped elementAttrsSpec set {}
  let (referable, rest) ← decodeReferable (.flat rest)
  let (semantics, _) ← decodeSemantics (.flat rest)
  pure { d with referable, semantics }

end AdminShell
