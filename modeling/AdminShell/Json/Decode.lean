import AdminShell.Json.Print
import AdminShell.Text.Quoted

/-! # Decoding documents into typed values

Documents are decoded field by field with the rules of derived decoders, so that of two
faults in one document the same one is reported:

* a map is walked in the order of its entries; a known key is checked against the keys
  already seen (a second one is a duplicate) and its value is decoded at once; after the
  walk the first field without a value and without a default, in declaration order, is
  missing;
* a struct may also be written as an array of its fields in declaration order;
* a struct whose fields include flattened blocks first collects the entries it does not know,
  in order; after its own fields are complete, each flattened block is decoded from the
  collected entries: a block without flattened parts takes the entries whose keys it knows,
  a block with flattened parts sees all entries left;
* an internally tagged value reads its tag when the tag entry is met and keeps every other
  entry, then decodes the variant from what it kept;
* a unit variant is a string, or a map with one entry whose key names it.

A node is read in one of three flavours. `text` nodes come straight from the text and may
hold its first syntax fault: a decoder meets that fault when it walks to it. `content`
nodes were buffered, complete, by a tagged or flattened decoder. `value` nodes come from a
complete document whose objects were normalised (sorted keys, the last of duplicate keys).
The flavours differ only in small points, each noted where it arises.
-/

namespace AdminShell.Json

inductive Flavour where
  | text
  | content
  | value
  deriving DecidableEq, Repr, Inhabited

/-- Why a document could not be decoded: a syntax fault of its text, or data that do not
fit the expected type. -/
inductive DecodeError where
  | malformed (fault : Fault)
  | data (message : String)
  deriving Inhabited

namespace DecodeError

def category : DecodeError → String
  | .malformed f => if f.code.isEof then "eof" else "syntax"
  | .data _ => "data"

def message : DecodeError → String
  | .malformed f => f.message
  | .data m => m

end DecodeError

abbrev Decoded (α : Type) := Except DecodeError α

def unplaced (code : FaultCode) : DecodeError := .malformed ⟨code, 0, 0⟩

def Node.unexpected : Node → String
  | .null => "null"
  | .bool b => "boolean `" ++ (if b then "true" else "false") ++ "`"
  | .num (.nat n) => "integer `" ++ toString n ++ "`"
  | .num (.neg n) => "integer `" ++ toString n ++ "`"
  | .num (.float x) => "floating point `" ++ floatText x ++ "`"
  | .str s => "string " ++ Text.quoted s
  | .arr .. => "sequence"
  | .obj .. => "map"
  | .bad _ => "value"

def invalidType (n : Node) (expected : String) : DecodeError :=
  .data ("invalid type: " ++ n.unexpected ++ ", expected " ++ expected)

def missingField (name : String) : DecodeError :=
  .data ("missing field `" ++ name ++ "`")

def duplicateField (name : String) : DecodeError :=
  .data ("duplicate field `" ++ name ++ "`")

def oneOf (names : List String) : String :=
  match names with
  | [] => "nothing"
  | [a] => "`" ++ a ++ "`"
  | [a, b] => "`" ++ a ++ "` or `" ++ b ++ "`"
  | _ => "one of " ++ ", ".intercalate (names.map (fun n => "`" ++ n ++ "`"))

def unknownVariant (v : String) (names : List String) : DecodeError :=
  .data ("unknown variant `" ++ v ++ "`, expected " ++ oneOf names)

def invalidLength (n : Nat) (expected : String) : DecodeError :=
  .data ("invalid length " ++ toString n ++ ", expected " ++ expected)

def complete (n : Node) : Decoded Unit :=
  match n.fault? with
  | some f => .error (.malformed f)
  | none => .ok ()

/-! ## Scalars and sequences -/

def decodeString : Node → Decoded String
  | .str s => .ok s
  | .bad f => .error (.malformed f)
  | n => .error (invalidType n "a string")

def decodeBool : Node → Decoded Bool
  | .bool b => .ok b
  | .bad f => .error (.malformed f)
  | n => .error (invalidType n "a boolean")

def decodeOption {α : Type} (dec : Node → Decoded α) : Node → Decoded (Option α)
  | .null => .ok none
  | n => (dec n).map some

def decodeItems {α : Type} (dec : Node → Decoded α) : List Node → Decoded (List α)
  | [] => .ok []
  | n :: ns => do
    let x ← dec n
    let xs ← decodeItems dec ns
    pure (x :: xs)

def decodeSeq {α : Type} (dec : Node → Decoded α) : Node → Decoded (List α)
  | .arr items stop => do
    let xs ← decodeItems dec items
    match stop with
    | some st => throw (.malformed st.fault)
    | none => pure xs
  | .bad f => .error (.malformed f)
  | n => .error (invalidType n "a sequence")

/-! ## Variants -/

def variantNamed {α : Type} (table : List (String × α)) (s : String) : Decoded α :=
  match table.find? (fun p => p.1 == s) with
  | some p => .ok p.2
  | none => .error (unknownVariant s (table.map Prod.fst))

def decodeUnitVariant {α : Type} (fl : Flavour) (table : List (String × α)) : Node → Decoded α
  | .str s => variantNamed table s
  | .bad f => .error (.malformed f)
  | .obj fields stop =>
    match fl with
    | .text =>
      match fields with
      | [] =>
        match stop with
        | some st => .error (.malformed st.fault)
        | none => .error (unplaced .expectedSomeValue)
      | (k, v) :: rest => do
        let x ← variantNamed table k
        match v with
        | .null => pure ()
        | .bad f => throw (.malformed f)
        | n => throw (invalidType n "unit")
        match rest, stop with
        | [], none => pure x
        | [], some st => throw (.malformed st.fault)
        | _ :: _, _ => throw (unplaced .expectedSomeValue)
    | _ =>
      match fields with
      | [(k, v)] => do
        let x ← variantNamed table k
        match v with
        | .null => pure x
        | n => throw (invalidType n "unit")
      | _ => .error (.data "invalid value: map, expected map with a single key")
  | n =>
    match fl with
    | .text => .error (unplaced .expectedSomeValue)
    | _ => .error (invalidType n "string or map")

def decodeTag {α : Type} (fl : Flavour) (table : List (String × α)) : Node → Decoded α
  | .str s => variantNamed table s
  | .num (.nat i) =>
    if fl = .content then
      match table[i]? with
      | some p => .ok p.2
      | none =>
        .error (.data ("invalid value: integer `" ++ toString i ++
          "`, expected variant index 0 <= i < " ++ toString table.length))
    else .error (invalidType (.num (.nat i)) "variant identifier")
  | .bad f => .error (.malformed f)
  | n => .error (invalidType n "variant identifier")

def splitTagged {α : Type} (fl : Flavour) (table : List (String × α)) (tag : String) :
    List (String × Node) → Option α → List (String × Node) →
      Decoded (Option α × List (String × Node))
  | [], found, kept => .ok (found, kept.reverse)
  | (k, v) :: rest, found, kept =>
    if k == tag then
      match found with
      | some _ => .error (duplicateField tag)
      | none => do
        let x ← decodeTag fl table v
        splitTagged fl table tag rest (some x) kept
    else do
      complete v
      splitTagged fl table tag rest found ((k, v) :: kept)

def decodeTagged {α : Type} (fl : Flavour) (typeName tag : String) (table : List (String × α)) :
    Node → Decoded (α × Node)
  | .obj fields stop => do
    let (found, kept) ← splitTagged fl table tag fields none []
    match stop with
    | some st =>
      if st.key == some tag && found.isSome then throw (duplicateField tag)
      else throw (.malformed st.fault)
    | none => pure ()
    match found with
    | some x => pure (x, .object kept)
    | none => throw (missingField tag)
  | .arr items stop =>
    match items with
    | [] =>
      match stop with
      | some st => .error (.malformed st.fault)
      | none => .error (missingField tag)
    | first :: more => do
      let x ← decodeTag fl table first
      let _ ← decodeItems complete more
      match stop with
      | some st => throw (.malformed st.fault)
      | none => pure (x, .array more)
  | .bad f => .error (.malformed f)
  | n => .error (invalidType n ("internally tagged enum " ++ typeName))

/-! ## Structs -/

/-- A field of a struct: its name, the other names it answers to, and whether it has a
default for when it is absent. -/
structure FieldSpec where
  name : String
  aliases : List String
  optional : Bool
  deriving Inhabited

def FieldSpec.required (name : String) : FieldSpec := ⟨name, [], false⟩

def FieldSpec.withDefault (name : String) : FieldSpec := ⟨name, [], true⟩

def FieldSpec.aliased (name : String) (aliases : List String) : FieldSpec := ⟨name, aliases, true⟩

/-- A struct's name and fields in declaration order (flattened blocks not counted). -/
structure StructSpec where
  name : String
  fields : List FieldSpec
  deriving Inhabited

namespace StructSpec

def index? (spec : StructSpec) (key : String) : Option Nat :=
  spec.fields.findIdx? (fun f => f.name == key || f.aliases.contains key)

def nameAt (spec : StructSpec) (i : Nat) : String :=
  (spec.fields.getD i default).name

def knows (spec : StructSpec) (key : String) : Bool :=
  (spec.index? key).isSome

def checkMissing (spec : StructSpec) (seen : List Nat) : Decoded Unit :=
  let rec go : Nat → List FieldSpec → Decoded Unit
    | _, [] => .ok ()
    | i, f :: fs => if !f.optional && !seen.contains i then .error (missingField f.name) else go (i + 1) fs
  go 0 spec.fields

end StructSpec

def visitEntries {σ : Type} (spec : StructSpec) (set : σ → Nat → Node → Decoded σ)
    (other : σ → String → Node → Decoded σ) :
    List (String × Node) → σ → List Nat → Decoded (σ × List Nat)
  | [], s, seen => .ok (s, seen)
  | (k, v) :: rest, s, seen =>
    match spec.index? k with
    | some i =>
      if seen.contains i then .error (duplicateField (spec.nameAt i))
      else do
        let s ← set s i v
        visitEntries spec set other rest s (i :: seen)
    | none => do
      let s ← other s k v
      visitEntries spec set other rest s seen

def visitMap {σ : Type} (spec : StructSpec) (set : σ → Nat → Node → Decoded σ)
    (other : σ → String → Node → Decoded σ) (entries : List (String × Node))
    (stop : Option Stop) (init : σ) : Decoded (σ × List Nat) := do
  let (s, seen) ← visitEntries spec set other entries init []
  match stop with
  | some st =>
    match st.key.bind spec.index? with
    | some i => if seen.contains i then throw (duplicateField (spec.nameAt i)) else throw (.malformed st.fault)
    | none => throw (.malformed st.fault)
  | none => pure (s, seen)

def visitSeq {σ : Type} (spec : StructSpec) (fl : Flavour) (set : σ → Nat → Node → Decoded σ)
    (items : List Node) (stop : Option Stop) (init : σ) : Decoded σ :=
  let total := spec.fields.length
  let rec go : Nat → List FieldSpec → List Node → σ → Decoded σ
    | _, [], rest, s =>
      match fl with
      | .text =>
        match rest, stop with
        | [], none => .ok s
        | [], some st => .error (.malformed st.fault)
        | _ :: _, _ => .error (unplaced .trailingCharacters)
      | .value =>
        if rest.isEmpty then .ok s else .error (invalidLength items.length "fewer elements in array")
      | .content =>
        if rest.isEmpty then .ok s
        else .error (invalidLength items.length
          (if total == 1 then "1 element in sequence" else toString total ++ " elements in sequence"))
    | i, f :: fs, rest, s =>
      match rest with
      | n :: more => do
        let s ← set s i n
        go (i + 1) fs more s
      | [] =>
        match stop with
        | some st => .error (.malformed st.fault)
        | none =>
          if f.optional then go (i + 1) fs [] s
          else .error (invalidLength i ("struct " ++ spec.name ++ " with " ++ toString total ++
            (if total == 1 then " element" else " elements")))
  go 0 spec.fields items init

/-- Where a struct is decoded from: a node in some flavour, or the entries a flattening
struct collected (which are buffered content). -/
inductive Source where
  | node (fl : Flavour) (n : Node)
  | flat (entries : List (String × Node))
  deriving Inhabited

namespace Source

def flavour : Source → Flavour
  | .node fl _ => fl
  | .flat _ => .content

def sub (src : Source) (n : Node) : Source := .node src.flavour n

def plain {σ : Type} (src : Source) (spec : StructSpec) (set : σ → Nat → Node → Decoded σ)
    (init : σ) : Decoded (σ × List (String × Node)) :=
  match src with
  | .node fl n =>
    let ignore : σ → String → Node → Decoded σ :=
      fun s _ v => if fl = .text then (complete v).map (fun _ => s) else .ok s
    match n with
    | .obj fields stop => do
      let (s, seen) ← visitMap spec set ignore fields stop init
      spec.checkMissing seen
      pure (s, [])
    | .arr items stop => do
      let s ← visitSeq spec fl set items stop init
      pure (s, [])
    | .bad f => .error (.malformed f)
    | other => .error (invalidType other ("struct " ++ spec.name))
  | .flat entries => do
    let mine := entries.filter (fun e => spec.knows e.1)
    let (s, seen) ← visitMap spec set (fun s _ _ => .ok s) mine none init
    spec.checkMissing seen
    pure (s, entries.filter (fun e => !spec.knows e.1))

def mapped {σ : Type} (src : Source) (spec : StructSpec) (set : σ → Nat → Node → Decoded σ)
    (init : σ) : Decoded (σ × List (String × Node)) :=
  let collect : σ × List (String × Node) → String → Node → Decoded (σ × List (String × Node)) :=
    fun s k v => do
      complete v
      pure (s.1, (k, v) :: s.2)
  let set' : σ × List (String × Node) → Nat → Node → Decoded (σ × List (String × Node)) :=
    fun s i v => do
      let x ← set s.1 i v
      pure (x, s.2)
  let finish (r : (σ × List (String × Node)) × List Nat) : Decoded (σ × List (String × Node)) := do
    spec.checkMissing r.2
    pure (r.1.1, r.1.2.reverse)
  match src with
  | .node _ n =>
    match n with
    | .obj fields stop => do
      let r ← visitMap spec set' collect fields stop (init, [])
      finish r
    | .bad f => .error (.malformed f)
    | other => .error (invalidType other ("struct " ++ spec.name))
  | .flat entries => do
    let r ← visitMap spec set' collect entries none (init, [])
    finish r

end Source

end AdminShell.Json
