import AdminShell.Reference.Basic
import AdminShell.Json.Decode

/-! # References in documents

A key is the object `{"type": T, "value": V}`; a reference is `{"type": K, "keys": [...]}`,
where a missing `keys` is an empty chain. A reference is checked against the chain grammar
as it is read, so a document with a broken chain does not decode: its message is the
broken rule's message.
-/

namespace AdminShell

open Json

def keyTypeTable : List (String × KeyType) := KeyType.all.map (fun t => (t.name, t))

def referenceKindTable : List (String × ReferenceKind) :=
  ReferenceKind.all.map (fun k => (k.name, k))

def keySpec : StructSpec := ⟨"Key", [.required "type", .required "value"]⟩

def referenceSpec : StructSpec := ⟨"ReferenceDef", [.required "type", .withDefault "keys"]⟩

def decodeKey (fl : Flavour) (n : Node) : Decoded Key := do
  let src := Source.node fl n
  let set (s : Option KeyType × Option String) (i : Nat) (v : Node) :
      Decoded (Option KeyType × Option String) :=
    match i with
    | 0 => (decodeUnitVariant src.flavour keyTypeTable v).map (fun t => (some t, s.2))
    | _ => (decodeString v).map (fun x => (s.1, some x))
  let (s, _) ← src.plain keySpec set (none, none)
  match s with
  | (some t, some v) => pure ⟨t, v⟩
  | (none, _) => throw (missingField "type")
  | (_, none) => throw (missingField "value")

/-- Reads a reference and checks its chain. -/
def decodeReference (fl : Flavour) (n : Node) : Decoded Reference := do
  let src := Source.node fl n
  let set (s : Option ReferenceKind × List Key) (i : Nat) (v : Node) :
      Decoded (Option ReferenceKind × List Key) :=
    match i with
    | 0 => (decodeUnitVariant src.flavour referenceKindTable v).map (fun k => (some k, s.2))
    | _ => (decodeSeq (decodeKey src.flavour) v).map (fun ks => (s.1, ks))
  let (s, _) ← src.plain referenceSpec set (none, [])
  match s.1 with
  | none => throw (missingField "type")
  | some kind =>
    match Reference.make kind s.2 with
    | .ok r => pure r
    | .error e => throw (.data e.message)

def Key.toNode (k : Key) : Node :=
  .object [("type", .str k.type.name), ("value", .str k.value)]

def Reference.toNode (r : Reference) : Node :=
  .object [("type", .str r.kind.name), ("keys", .array (r.keys.map Key.toNode))]

end AdminShell
