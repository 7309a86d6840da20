import AdminShell.Reference.Chain

/-! # References

A `Reference` is a key chain together with the proof that it keeps the chain grammar
(`Chain.check`), so every reference a program holds is valid. References are made by
`Reference.make`, which checks, or by `Reference.global`, whose one-key external chain is
valid by construction.
-/

namespace AdminShell

def Chain.isValid (kind : ReferenceKind) (keys : List Key) : Bool :=
  match Chain.check kind keys with
  | .ok () => true
  | .error _ => false

/-- A typed key chain that keeps the chain grammar. -/
structure Reference where
  kind : ReferenceKind
  keys : List Key
  valid : Chain.isValid kind keys = true

namespace Reference

def make (kind : ReferenceKind) (keys : List Key) : Except ChainError Reference :=
  match h : Chain.check kind keys with
  | .ok () => .ok ⟨kind, keys, by simp [Chain.isValid, h]⟩
  | .error e => .error e

def global (value : String) : Reference :=
  ⟨.external, [⟨.globalReference, value⟩], rfl⟩

def model (keys : List Key) : Except ChainError Reference :=
  make .model keys

def firstKey (r : Reference) : Key := r.keys.headD default

def lastKey (r : Reference) : Key := r.keys.getLastD default

def isModel (r : Reference) : Bool := r.kind == .model

def isModelTo (r : Reference) (t : KeyType) : Bool :=
  r.isModel && r.firstKey.type == t

def display (r : Reference) : String :=
  r.kind.name ++ "[" ++ ", ".intercalate (r.keys.map Key.display) ++ "]"

end Reference

end AdminShell
