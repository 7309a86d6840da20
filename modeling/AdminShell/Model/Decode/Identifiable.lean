import AdminShell.Model.Decode.Element

/-! # Reading identifiable entities

Shells, submodels and concept descriptions, each with its identity flattened into it, and
the `modelType`-tagged `Identifiable` that a document holds.
-/

namespace AdminShell

open Json

def modellingKindTable : List (String × ModellingKind) :=
  ModellingKind.all.map (fun k => (k.name, k))

def assetKindTable : List (String × AssetKind) := AssetKind.all.map (fun k => (k.name, k))

def entityTagTable : List (String × EntityKind) := EntityKind.all.map (fun k => (k.name, k))

def decodeResource (fl : Flavour) (n : Node) : Decoded Resource := do
  let spec : StructSpec := ⟨"Resource", [.required "path", .required "contentType"]⟩
  let set (s : Option String × Option String) (i : Nat) (v : Node) :
      Decoded (Option String × Option String) :=
    match i with
    | 0 => (decodeString v).map (fun x => (some x, s.2))
    | _ => (decodeString v).map (fun x => (s.1, some x))
  let (d, _) ← (Source.node fl n).plain spec set (none, none)
  match d with
  | (some path, some contentType) => pure ⟨path, contentType⟩
  | (none, _) => throw (missingField "path")
  | (_, none) => throw (missingField "contentType")

/-- A specific asset identifier before its name and value are known to be there. -/
structure SpecificAssetIdDraft where
  name : Option String := none
  value : Option String := none
  externalSubjectId : Option Reference := none

def decodeSpecificAssetId (fl : Flavour) (n : Node) : Decoded SpecificAssetId := do
  let src := Source.node fl n
  let spec : StructSpec :=
    ⟨"SpecificAssetId", [.required "name", .required "value", .withDefault "externalSubjectId"]⟩
  let set (s : SpecificAssetIdDraft) (i : Nat) (v : Node) : Decoded SpecificAssetIdDraft :=
    match i with
    | 0 => (decodeString v).map (fun x => { s with name := some x })
    | 1 => (decodeString v).map (fun x => { s with value := some x })
    | _ => (decodeOption (decodeReference src.flavour) v).map
        (fun x => { s with externalSubjectId := x })
  let (d, rest) ← src.mapped spec set {}
  let (semantics, _) ← decodeSemantics (.flat rest)
  match d.name, d.value with
  | some name, some value => pure ⟨name, value, d.externalSubjectId, semantics⟩
  | none, _ => throw (missingField "name")
  | _, none => throw (missingField "value")

structure AssetInformationDraft where
  assetKind : Option AssetKind := none
  globalAssetId : Option String := none
  specificAssetIds : List SpecificAssetId := []
  assetType : Option String := none
  defaultThumbnail : Option Resource := none

def assetInformationSpec : StructSpec :=
  ⟨"AssetInformation", [.required "assetKind", .withDefault "globalAssetId",
    .withDefault "specificAssetIds", .withDefault "assetType", .withDefault "defaultThumbnail"]⟩

def decodeAssetInformation (fl : Flavour) (n : Node) : Decoded AssetInformation := do
  let set (s : AssetInformationDraft) (i : Nat) (v : Node) : Decoded AssetInformationDraft :=
    match i with
    | 0 => (decodeUnitVariant fl assetKindTable v).map (fun x => { s with assetKind := some x })
    | 1 => (decodeOptString v).map (fun x => { s with globalAssetId := x })
    | 2 => (decodeSeq (decodeSpecificAssetId fl) v).map (fun x => { s with specificAssetIds := x })
    | 3 => (decodeOptString v).map (fun x => { s with assetType := x })
    | _ => (decodeOption (decodeResource fl) v).map (fun x => { s with defaultThumbnail := x })
  let (d, _) ← (Source.node fl n).plain assetInformationSpec set {}
  match d.assetKind with
  | some k => pure ⟨k, d.globalAssetId, d.specificAssetIds, d.assetType, d.defaultThumbnail⟩
  | none => throw (missingField "assetKind")

/-- A shell before its asset information is known to be there. -/
structure ShellDraft where
  assetInformation : Option AssetInformation := none
  derivedFrom : Option Reference := none
  submodels : List Reference := []
  dataSpecifications : List Reference := []

def shellSpec : StructSpec :=
  ⟨"AssetAdministrationShell", [.required "assetInformation", .withDefault "derivedFrom",
    .withDefault "submodels", .aliased "dataSpecifications" ["dataSpecification"]]⟩

def decodeShell (src : Source) : Decoded Shell := do
  let fl := src.flavour
  let set (s : ShellDraft) (i : Nat) (v : Node) : Decoded ShellDraft :=
    match i with
    | 0 => (decodeAssetInformation fl v).map (fun x => { s with assetInformation := some x })
    | 1 => (decodeOption (decodeReference fl) v).map (fun x => { s with derivedFrom := x })
    | 2 => (decodeSeq (decodeReference fl) v).map (fun x => { s with submodels := x })
    | _ => (decodeSeq (decodeReference fl) v).map (fun x => { s with dataSpecifications := x })
  let (d, rest) ← src.mapped shellSpec set {}
  let identity ← decodeIdentity (.flat rest)
  match d.assetInformation with
  | some info => pure ⟨identity, info, d.derivedFrom, d.submodels, d.dataSpecifications⟩
  | none => throw (missingField "assetInformation")

def submodelSpec : StructSpec :=
  ⟨"Submodel", [.withDefault "kind", .aliased "qualifiers" ["qualifier"],
    .aliased "dataSpecifications" ["dataSpecification"], .withDefault "submodelElements"]⟩

def decodeSubmodel (src : Source) : Decoded Submodel := do
  let fl := src.flavour
  let blank : Submodel := ⟨⟨{}, "", none⟩, .«instance», {}, [], [], []⟩
  let set (s : Submodel) (i : Nat) (v : Node) : Decoded Submodel :=
    match i with
    | 0 => (decodeUnitVariant fl modellingKindTable v).map (fun x => { s with kind := x })
    | 1 => (decodeSeq (decodeQualifier fl) v).map (fun x => { s with qualifiers := x })
    | 2 => (decodeSeq (decodeReference fl) v).map (fun x => { s with dataSpecifications := x })
    | _ => (decodeSeq (decodeElement fl) v).map (fun x => { s with elements := x })
  let (d, rest) ← src.mapped submodelSpec set blank
  let identity ← decodeIdentity (.flat rest)
  let (semantics, _) ← decodeSemantics (.flat rest)
  pure { d with identity, semantics }

def decodeConceptDescription (src : Source) : Decoded ConceptDescription := do
  let fl := src.flavour
  let spec : StructSpec :=
    ⟨"ConceptDescription", [.withDefault "isCaseOf",
      .aliased "dataSpecifications" ["dataSpecification"]]⟩
  let set (s : List Reference × List Reference) (i : Nat) (v : Node) :
      Decoded (List Reference × List Reference) :=
    match i with
    | 0 => (decodeSeq (decodeReference fl) v).map (fun x => (x, s.2))
    | _ => (decodeSeq (decodeReference fl) v).map (fun x => (s.1, x))
  let (d, rest) ← src.mapped spec set ([], [])
  let identity ← decodeIdentity (.flat rest)
  pure ⟨identity, d.1, d.2⟩

def decodeIdentifiableOf (kind : EntityKind) (src : Source) : Decoded Identifiable :=
  match kind with
  | .shell => (decodeShell src).map .shell
  | .submodel => (decodeSubmodel src).map .submodel
  | .conceptDescription => (decodeConceptDescription src).map .conceptDescription

def decodeIdentifiable (fl : Flavour) (n : Node) : Decoded Identifiable := do
  let (kind, rest) ← decodeTagged fl "IdentifiableElement" "modelType" entityTagTable n
  decodeIdentifiableOf kind (.node .content rest)

end AdminShell
