import AdminShell.Model.Decode.Attrs

/-! # Reading submodel elements

A submodel element is an object tagged by `modelType`; the tag names one of the nine
concrete kinds, and the other entries are read as that kind's fields, with the element
attributes taken from the entries the kind does not know. Collections and lists read their
items as elements again; the reading is bounded by the depth of the document, which the
reader limits.
-/

namespace AdminShell

open Json

def elementKindTable : List (String × ElementKind) := ElementKind.all.map (fun k => (k.name, k))

def elementTagTable : List (String × ElementKind) :=
  [.property, .multiLanguageProperty, .range, .file, .blob, .referenceElement,
    .relationshipElement, .collection, .list].map (fun k => (k.name, k))

def decodeElementKind (fl : Flavour) (n : Node) : Decoded ElementKind :=
  decodeUnitVariant fl elementKindTable n

/-- A property before its datatype is known to be there. -/
structure PropertyDraft where
  valueType : Option Datatype := none
  value : Option String := none
  valueId : Option Reference := none

def propertySpec : StructSpec :=
  ⟨"Property", [.required "valueType", .withDefault "value", .withDefault "valueId"]⟩

def decodeProperty (src : Source) : Decoded Property := do
  let fl := src.flavour
  let set (s : PropertyDraft) (i : Nat) (v : Node) : Decoded PropertyDraft :=
    match i with
    | 0 => (decodeDatatype v).map (fun x => { s with valueType := some x })
    | 1 => (decodeOptString v).map (fun x => { s with value := x })
    | _ => (decodeOption (decodeReference fl) v).map (fun x => { s with valueId := x })
  let (d, rest) ← src.mapped propertySpec set {}
  let attrs ← decodeElementAttrs (.flat rest)
  match d.valueType with
  | some t => pure ⟨attrs, t, d.value, d.valueId⟩
  | none => throw (missingField "valueType")

def multiLanguageSpec : StructSpec :=
  ⟨"MultiLanguageProperty", [.withDefault "value", .withDefault "valueId"]⟩

def decodeMultiLanguage (src : Source) : Decoded MultiLanguageProperty := do
  let fl := src.flavour
  let set (s : MultiLanguageProperty) (i : Nat) (v : Node) : Decoded MultiLanguageProperty :=
    match i with
    | 0 => (decodeSeq (decodeLangString fl) v).map (fun x => { s with value := x })
    | _ => (decodeOption (decodeReference fl) v).map (fun x => { s with valueId := x })
  let (d, rest) ← src.mapped multiLanguageSpec set {}
  let attrs ← decodeElementAttrs (.flat rest)
  pure { d with attrs }

/-- A range before its datatype is known to be there. -/
structure RangeDraft where
  valueType : Option Datatype := none
  min : Option String := none
  max : Option String := none

def rangeSpec : StructSpec :=
  ⟨"Range", [.required "valueType", .withDefault "min", .withDefault "max"]⟩

def decodeRange (src : Source) : Decoded Range := do
  let set (s : RangeDraft) (i : Nat) (v : Node) : Decoded RangeDraft :=
    match i with
    | 0 => (decodeDatatype v).map (fun x => { s with valueType := some x })
    | 1 => (decodeOptString v).map (fun x => { s with min := x })
    | _ => (decodeOptString v).map (fun x => { s with max := x })
  let (d, rest) ← src.mapped rangeSpec set {}
  let attrs ← decodeElementAttrs (.flat rest)
  match d.valueType with
  | some t => pure ⟨attrs, t, d.min, d.max⟩
  | none => throw (missingField "valueType")

def decodeContent (name : String) (src : Source) :
    Decoded (ElementAttrs × String × String) := do
  let spec : StructSpec := ⟨name, [.required "contentType", .required "value"]⟩
  let set (s : Option String × Option String) (i : Nat) (v : Node) :
      Decoded (Option String × Option String) :=
    match i with
    | 0 => (decodeString v).map (fun x => (some x, s.2))
    | _ => (decodeString v).map (fun x => (s.1, some x))
  let (d, rest) ← src.mapped spec set (none, none)
  let attrs ← decodeElementAttrs (.flat rest)
  match d with
  | (some contentType, some value) => pure (attrs, contentType, value)
  | (none, _) => throw (missingField "contentType")
  | (_, none) => throw (missingField "value")

def decodeFile (src : Source) : Decoded FileElement := do
  let (attrs, contentType, value) ← decodeContent "File" src
  pure ⟨attrs, contentType, value⟩

def decodeBlob (src : Source) : Decoded Blob := do
  let (attrs, contentType, value) ← decodeContent "Blob" src
  pure ⟨attrs, contentType, value⟩

def decodeReferenceElement (src : Source) : Decoded ReferenceElement := do
  let fl := src.flavour
  let spec : StructSpec := ⟨"ReferenceElement", [.required "value"]⟩
  let set (_ : Option Reference) (_ : Nat) (v : Node) : Decoded (Option Reference) :=
    (decodeReference fl v).map some
  let (d, rest) ← src.mapped spec set none
  let attrs ← decodeElementAttrs (.flat rest)
  match d with
  | some value => pure ⟨attrs, value⟩
  | none => throw (missingField "value")

def decodeRelationship (src : Source) : Decoded RelationshipElement := do
  let fl := src.flavour
  let spec : StructSpec := ⟨"RelationshipElement", [.required "first", .required "second"]⟩
  let set (s : Option Reference × Option Reference) (i : Nat) (v : Node) :
      Decoded (Option Reference × Option Reference) :=
    match i with
    | 0 => (decodeReference fl v).map (fun x => (some x, s.2))
    | _ => (decodeReference fl v).map (fun x => (s.1, some x))
  let (d, rest) ← src.mapped spec set (none, none)
  let attrs ← decodeElementAttrs (.flat rest)
  match d with
  | (some first, some second) => pure ⟨attrs, first, second⟩
  | (none, _) => throw (missingField "first")
  | (_, none) => throw (missingField "second")

def collectionSpec : StructSpec :=
  ⟨"SubmodelElementCollection", [.withDefault "orderRelevant", .withDefault "value"]⟩

def decodeCollectionWith (item : Flavour → Node → Decoded Element) (src : Source) :
    Decoded (ElementAttrs × Bool × List Element) := do
  let fl := src.flavour
  let set (s : Bool × List Element) (i : Nat) (v : Node) : Decoded (Bool × List Element) :=
    match i with
    | 0 => (decodeBool v).map (fun x => (x, s.2))
    | _ => (decodeSeq (item fl) v).map (fun x => (s.1, x))
  let (d, rest) ← src.mapped collectionSpec set (true, [])
  let attrs ← decodeElementAttrs (.flat rest)
  pure (attrs, d.1, d.2)

def listSpec : StructSpec :=
  ⟨"SubmodelElementList", [.withDefault "orderRelevant", .withDefault "typeValueListElement",
    .withDefault "semanticIdListElement", .withDefault "valueTypeListElement",
    .withDefault "value"]⟩

def decodeListWith (item : Flavour → Node → Decoded Element) (src : Source) :
    Decoded (ElementAttrs × Bool × ListShape × List Element) := do
  let fl := src.flavour
  let set (s : Bool × ListShape × List Element) (i : Nat) (v : Node) :
      Decoded (Bool × ListShape × List Element) :=
    match i with
    | 0 => (decodeBool v).map (fun x => (x, s.2.1, s.2.2))
    | 1 => (decodeOption (decodeElementKind fl) v).map
        (fun x => (s.1, { s.2.1 with typeValueListElement := x }, s.2.2))
    | 2 => (decodeOption (decodeReference fl) v).map
        (fun x => (s.1, { s.2.1 with semanticIdListElement := x }, s.2.2))
    | 3 => (decodeOption decodeDatatype v).map
        (fun x => (s.1, { s.2.1 with valueTypeListElement := x }, s.2.2))
    | _ => (decodeSeq (item fl) v).map (fun x => (s.1, s.2.1, x))
  let (d, rest) ← src.mapped listSpec set (true, {}, [])
  let attrs ← decodeElementAttrs (.flat rest)
  pure (attrs, d.1, d.2.1, d.2.2)

def decodeElementOf (item : Flavour → Node → Decoded Element) (kind : ElementKind)
    (src : Source) : Decoded Element :=
  match kind with
  | .property => (decodeProperty src).map .property
  | .multiLanguageProperty => (decodeMultiLanguage src).map .multiLanguageProperty
  | .range => (decodeRange src).map .range
  | .file => (decodeFile src).map .file
  | .blob => (decodeBlob src).map .blob
  | .referenceElement => (decodeReferenceElement src).map .referenceElement
  | .relationshipElement => (decodeRelationship src).map .relationship
  | .collection => (decodeCollectionWith item src).map (fun (a, o, xs) => .collection a o xs)
  | .list => (decodeListWith item src).map (fun (a, o, sh, xs) => .list a o sh xs)
  | _ => .error (unknownVariant kind.name (elementTagTable.map Prod.fst))

def decodeElementFuel : Nat → Flavour → Node → Decoded Element
  | 0, _, _ => .error (unplaced .recursionLimitExceeded)
  | fuel + 1, fl, n => do
    let (kind, rest) ← decodeTagged fl "SubmodelElement" "modelType" elementTagTable n
    decodeElementOf (decodeElementFuel fuel) kind (.node .content rest)

def decodeElement (fl : Flavour) (n : Node) : Decoded Element :=
  decodeElementFuel (n.depth + 1) fl n

end AdminShell
