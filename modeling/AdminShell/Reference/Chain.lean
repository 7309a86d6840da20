import AdminShell.Reference.Key

/-! # The chain grammar of references

A reference is a typed chain of keys. `Chain.check` reports the first rule a chain breaks,
in a fixed order:

1. the chain has a key;
2. the first key is one its kind may start with;
3. a chain of one key is then valid;
4. in a model reference every later key is a fragment key, the last `FragmentReference`
   closes the chain right after a `File` or `Blob` key, and a key after a
   `SubmodelElementList` key has a non-negative integer value;
5. an external reference of two or more keys ends in `GlobalReference` or
   `FragmentReference`.

Only the last `FragmentReference` is placed by rule 4; earlier ones pass as fragment keys.
-/

namespace AdminShell

/-- The rule a key chain breaks, with what the message reports. -/
inductive ChainError where
  | emptyChain
  | firstKeyKindMismatch (kind : ReferenceKind) (found : KeyType)
  | nonFragmentKeyInTail (index : Nat) (found : KeyType)
  | fragmentReferenceNotLast (index : Nat)
  | fragmentReferenceRequiresFileOrBlob (found : KeyType)
  | listIndexNotInteger (index : Nat) (value : String)
  | externalReferenceBadTerminal (found : KeyType)
  deriving DecidableEq, Repr

namespace ChainError

def rule : ChainError → String
  | .emptyChain => "empty-chain"
  | .firstKeyKindMismatch .. => "first-key-kind-mismatch"
  | .nonFragmentKeyInTail .. => "non-fragment-key-in-tail"
  | .fragmentReferenceNotLast .. => "fragment-reference-not-last"
  | .fragmentReferenceRequiresFileOrBlob .. => "fragment-reference-requires-file-or-blob"
  | .listIndexNotInteger .. => "list-index-not-integer"
  | .externalReferenceBadTerminal .. => "external-reference-bad-terminal"

def message : ChainError → String
  | .emptyChain => "empty-chain: a reference must contain at least one key"
  | .firstKeyKindMismatch kind found =>
    "first-key-kind-mismatch: the first key of a " ++ kind.name ++ " must be one of " ++
      ", ".intercalate (kind.firstKeys.map KeyType.name) ++ ", found " ++ found.name
  | .nonFragmentKeyInTail index found =>
    "non-fragment-key-in-tail: key " ++ toString index ++
      " of a ModelReference must be a fragment key, found " ++ found.name
  | .fragmentReferenceNotLast index =>
    "fragment-reference-not-last: FragmentReference at key " ++ toString index ++
      " must be the last key"
  | .fragmentReferenceRequiresFileOrBlob found =>
    "fragment-reference-requires-file-or-blob: FragmentReference must follow a File or Blob key, found " ++
      found.name
  | .listIndexNotInteger index value =>
    "list-index-not-integer: key " ++ toString index ++
      " follows a SubmodelElementList and must be a non-negative integer, found '" ++ value ++ "'"
  | .externalReferenceBadTerminal found =>
    "external-reference-bad-terminal: the last key of an ExternalReference must be GlobalReference or FragmentReference, found " ++
      found.name

end ChainError

namespace Chain

def isListIndex (value : String) : Bool :=
  !value.isEmpty && value.toList.all Char.isDigit

def firstNonFragment : Nat → List Key → Option (Nat × KeyType)
  | _, [] => none
  | i, k :: ks => if k.type.isFragment then firstNonFragment (i + 1) ks else some (i, k.type)

def lastFragmentReference : Nat → List Key → Option Nat
  | _, [] => none
  | i, k :: ks =>
    match lastFragmentReference (i + 1) ks with
    | some j => some j
    | none => if k.type = .fragmentReference then some i else none

def firstBadListIndex : Nat → List Key → Option (Nat × String)
  | _, [] => none
  | _, [_] => none
  | i, a :: b :: ks =>
    if a.type = .submodelElementList && !isListIndex b.value then some (i + 1, b.value)
    else firstBadListIndex (i + 1) (b :: ks)

def checkModelTail (keys : List Key) : Except ChainError Unit :=
  match firstNonFragment 1 keys.tail with
  | some (i, t) => .error (.nonFragmentKeyInTail i t)
  | none =>
    let placed : Except ChainError Unit :=
      match lastFragmentReference 0 keys with
      | none => .ok ()
      | some i =>
        if i + 1 ≠ keys.length then .error (.fragmentReferenceNotLast i)
        else
          let holder := (keys.getD (keys.length - 2) default).type
          if holder.holdsFragment then .ok () else .error (.fragmentReferenceRequiresFileOrBlob holder)
    match placed with
    | .error e => .error e
    | .ok () =>
      match firstBadListIndex 0 keys with
      | some (i, v) => .error (.listIndexNotInteger i v)
      | none => .ok ()

def check (kind : ReferenceKind) (keys : List Key) : Except ChainError Unit :=
  match keys with
  | [] => .error .emptyChain
  | first :: rest =>
    if first.type ∉ kind.firstKeys then .error (.firstKeyKindMismatch kind first.type)
    else if rest.isEmpty then .ok ()
    else
      match kind with
      | .model => checkModelTail keys
      | .external =>
        let last := (rest.getLast?.getD first).type
        if last.endsExternal then .ok () else .error (.externalReferenceBadTerminal last)

end Chain

end AdminShell
