import Mathlib
import AdminShell.Reference.Codec

/-! # References: every one keeps the grammar, and documents carry them exactly

A `Reference` is made in three ways: `Reference.make` checks the chain, `Reference.global`
builds a one-key external chain without checking it, and `decodeReference` reads one from a
document and checks it as it reads. This module shows that the three agree: `make` accepts
exactly the chains `Chain.check` accepts, `global` is what `make` gives for its chain, and a
document `{"type": K, "keys": ks}` decodes exactly when `K` names a kind, `ks` decodes to keys
and the chain passes the check, the broken rule's message being the failure otherwise. Every
reference therefore has a first and a last key, and writing a reference and reading it back
gives it back.
-/

namespace AdminShell

open Json

set_option autoImplicit false

/-! ## Results of `Except` -/

section Except

variable {ε ε' α β : Type}

theorem except_bind_eq_ok {x : Except ε α} {f : α → Except ε β} {b : β} :
    (x >>= f) = .ok b ↔ ∃ a, x = .ok a ∧ f a = .ok b := by
  cases x <;> simp [bind, Except.bind]

@[simp] theorem except_mapError_eq_ok {x : Except ε α} {f : ε → ε'} {a : α} :
    x.mapError f = .ok a ↔ x = .ok a := by
  cases x <;> simp [Except.mapError]

end Except

/-! ## Making references -/

namespace Reference

theorem eq_of_kind_keys {r s : Reference} (hKind : r.kind = s.kind) (hKeys : r.keys = s.keys) :
    r = s := by
  obtain ⟨kind, keys, _⟩ := r
  obtain ⟨kind', keys', _⟩ := s
  cases hKind
  cases hKeys
  rfl

theorem check_eq_ok (r : Reference) : Chain.check r.kind r.keys = .ok () := by
  have hValid := r.valid
  unfold Chain.isValid at hValid
  split at hValid
  · assumption
  · cases hValid

theorem make_eq_ok_iff (kind : ReferenceKind) (keys : List Key) (r : Reference) :
    make kind keys = .ok r ↔ Chain.check kind keys = .ok () ∧ r.kind = kind ∧ r.keys = keys := by
  unfold make
  split
  · rename_i hCheck
    constructor
    · rintro ⟨⟩
      exact ⟨hCheck, rfl, rfl⟩
    · rintro ⟨-, hKind, hKeys⟩
      exact congrArg Except.ok (eq_of_kind_keys hKind.symm hKeys.symm)
  · rename_i e hCheck
    simp [hCheck]

theorem make_eq_error_iff (kind : ReferenceKind) (keys : List Key) (e : ChainError) :
    make kind keys = .error e ↔ Chain.check kind keys = .error e := by
  unfold make
  split <;> simp_all

theorem make_global (value : String) :
    make .external [⟨.globalReference, value⟩] = .ok (global value) :=
  (make_eq_ok_iff _ _ _).mpr ⟨(global value).check_eq_ok, rfl, rfl⟩

theorem firstKey_lastKey (r : Reference) :
    ∃ h : 0 < r.keys.length, r.firstKey = r.keys[0] ∧ r.lastKey = r.keys[r.keys.length - 1] := by
  have hCheck := r.check_eq_ok
  obtain ⟨kind, keys, _⟩ := r
  cases keys with
  | nil => simp [Chain.check] at hCheck
  | cons k ks => simp [firstKey, lastKey, List.getLastD_eq_getLast?, List.getLast?_eq_getElem?]

end Reference

/-! ## The document form of keys and references -/

theorem keySpec_index_type : keySpec.index? "type" = some 0 := rfl

theorem keySpec_index_value : keySpec.index? "value" = some 1 := rfl

theorem keySpec_checkMissing : keySpec.checkMissing [1, 0] = .ok () := rfl

theorem referenceSpec_index_type : referenceSpec.index? "type" = some 0 := rfl

theorem referenceSpec_index_keys : referenceSpec.index? "keys" = some 1 := rfl

theorem referenceSpec_checkMissing_type_keys : referenceSpec.checkMissing [1, 0] = .ok () := rfl

theorem referenceSpec_checkMissing_keys_type : referenceSpec.checkMissing [0, 1] = .ok () := rfl

theorem referenceSpec_checkMissing_type : referenceSpec.checkMissing [0] = .ok () := rfl

theorem variantNamed_keyType_name (t : KeyType) : variantNamed keyTypeTable t.name = .ok t := by
  cases t <;> rfl

theorem variantNamed_referenceKind_iff (s : String) (kind : ReferenceKind) :
    variantNamed referenceKindTable s = .ok kind ↔ s = kind.name := by
  constructor
  · intro h
    unfold variantNamed at h
    split at h
    · rename_i p hp
      have hName := List.find?_some hp
      have hMem := List.mem_of_find?_eq_some hp
      simp only [referenceKindTable, ReferenceKind.all, List.map, List.mem_cons, List.not_mem_nil,
        or_false] at hMem
      rcases hMem with rfl | rfl <;> simp only [Except.ok.injEq, beq_iff_eq] at h hName <;>
        subst h hName <;> rfl
    · cases h
  · rintro rfl
    cases kind <;> rfl

theorem decodeKey_object (fl : Flavour) (t v : Node) :
    decodeKey fl (.object [("type", t), ("value", v)]) =
      (do
        let t ← decodeUnitVariant fl keyTypeTable t
        let v ← decodeString v
        pure ⟨t, v⟩) := by
  simp only [decodeKey, Source.plain, visitMap, visitEntries, keySpec_index_type,
    keySpec_index_value]
  rcases hT : decodeUnitVariant fl keyTypeTable t with e | t' <;>
    rcases hV : decodeString v with e' | v' <;>
    simp [hT, Source.flavour, keySpec_checkMissing, bind, Except.bind, pure, Except.pure,
      Except.map]

theorem decodeKey_toNode (fl : Flavour) (k : Key) : decodeKey fl k.toNode = .ok k := by
  rw [Key.toNode, decodeKey_object]
  simp [decodeUnitVariant, variantNamed_keyType_name, decodeString, bind, Except.bind, pure,
    Except.pure]

theorem decodeSeq_keys_toNode (fl : Flavour) (keys : List Key) :
    decodeSeq (decodeKey fl) (.array (keys.map Key.toNode)) = .ok keys := by
  have hItems : decodeItems (decodeKey fl) (keys.map Key.toNode) = .ok keys := by
    induction keys with
    | nil => rfl
    | cons k ks ih =>
      simp [decodeItems, decodeKey_toNode, ih, bind, Except.bind, pure, Except.pure]
  simp [decodeSeq, hItems, bind, Except.bind, pure, Except.pure]

/-- A reference document with its two fields: the kind is read, then the keys, then the
chain is checked. -/
theorem decodeReference_type_keys (fl : Flavour) (k ks : Node) :
    decodeReference fl (.object [("type", k), ("keys", ks)]) =
      (do
        let kind ← decodeUnitVariant fl referenceKindTable k
        let keys ← decodeSeq (decodeKey fl) ks
        (Reference.make kind keys).mapError (fun e => .data e.message)) := by
  simp only [decodeReference, Source.plain, visitMap, visitEntries, referenceSpec_index_type,
    referenceSpec_index_keys]
  rcases hK : decodeUnitVariant fl referenceKindTable k with e | kind <;>
    rcases hKs : decodeSeq (decodeKey fl) ks with e' | keys <;>
    simp [hK, hKs, Source.flavour, referenceSpec_checkMissing_type_keys, bind, Except.bind, pure,
      Except.pure, Except.map]
  cases Reference.make kind keys <;> rfl

/-- With the keys written first they are read first: only which failure is met first
changes. -/
theorem decodeReference_keys_type (fl : Flavour) (k ks : Node) :
    decodeReference fl (.object [("keys", ks), ("type", k)]) =
      (do
        let keys ← decodeSeq (decodeKey fl) ks
        let kind ← decodeUnitVariant fl referenceKindTable k
        (Reference.make kind keys).mapError (fun e => .data e.message)) := by
  simp only [decodeReference, Source.plain, visitMap, visitEntries, referenceSpec_index_type,
    referenceSpec_index_keys]
  rcases hK : decodeUnitVariant fl referenceKindTable k with e | kind <;>
    rcases hKs : decodeSeq (decodeKey fl) ks with e' | keys <;>
    simp [hK, hKs, Source.flavour, referenceSpec_checkMissing_keys_type, bind, Except.bind, pure,
      Except.pure, Except.map]
  cases Reference.make kind keys <;> rfl

theorem decodeReference_type (fl : Flavour) (k : Node) :
    decodeReference fl (.object [("type", k)]) =
      (do
        let _ ← decodeUnitVariant fl referenceKindTable k
        .error (.data ChainError.emptyChain.message)) := by
  simp only [decodeReference, Source.plain, visitMap, visitEntries, referenceSpec_index_type]
  rcases hK : decodeUnitVariant fl referenceKindTable k with e | kind <;>
    simp [hK, Source.flavour, referenceSpec_checkMissing_type, bind, Except.bind, pure,
      Except.pure, Except.map]
  have hEmpty : Reference.make kind [] = .error .emptyChain :=
    (Reference.make_eq_error_iff _ _ _).mpr rfl
  rw [hEmpty]
  rfl

theorem decodeReference_toNode (fl : Flavour) (r : Reference) :
    decodeReference fl r.toNode = .ok r := by
  have hKind : decodeUnitVariant fl referenceKindTable (.str r.kind.name) = .ok r.kind :=
    (variantNamed_referenceKind_iff _ _).mpr rfl
  have hMake : Reference.make r.kind r.keys = .ok r :=
    (Reference.make_eq_ok_iff _ _ _).mpr ⟨r.check_eq_ok, rfl, rfl⟩
  rw [Reference.toNode, decodeReference_type_keys]
  simp [hKind, decodeSeq_keys_toNode, hMake, bind, Except.bind]

/-- The representation invariant of references and their document form. Every way to make a
reference checks its chain, or (for `global`) gives what the check gives; so every reference
keeps the grammar and has a first and a last key. A document `{"type": K, "keys": ks}`, in
either order of its fields, decodes exactly when `K` names a kind, `ks` decodes and the chain
passes the check, and fails with the broken rule otherwise; without `keys` it is an empty
chain. Only the exact kind names are kinds, and a written reference reads back as itself. -/
theorem reference_invariant_and_codec :
    (∀ kind keys r, Reference.make kind keys = .ok r ↔
      Chain.check kind keys = .ok () ∧ r.kind = kind ∧ r.keys = keys) ∧
    (∀ kind keys e, Reference.make kind keys = .error e ↔ Chain.check kind keys = .error e) ∧
    (∀ value, Reference.make .external [⟨.globalReference, value⟩] = .ok (Reference.global value)) ∧
    (∀ r : Reference, Chain.check r.kind r.keys = .ok () ∧
      ∃ h : 0 < r.keys.length, r.firstKey = r.keys[0] ∧ r.lastKey = r.keys[r.keys.length - 1]) ∧
    (∀ fl k ks r, decodeReference fl (.object [("type", k), ("keys", ks)]) = .ok r ↔
      ∃ kind keys, decodeUnitVariant fl referenceKindTable k = .ok kind ∧
        decodeSeq (decodeKey fl) ks = .ok keys ∧ Chain.check kind keys = .ok () ∧
        r.kind = kind ∧ r.keys = keys) ∧
    (∀ fl k ks, decodeReference fl (.object [("type", k), ("keys", ks)]) =
      (do
        let kind ← decodeUnitVariant fl referenceKindTable k
        let keys ← decodeSeq (decodeKey fl) ks
        (Reference.make kind keys).mapError (fun e => .data e.message))) ∧
    (∀ fl k ks, decodeReference fl (.object [("keys", ks), ("type", k)]) =
      (do
        let keys ← decodeSeq (decodeKey fl) ks
        let kind ← decodeUnitVariant fl referenceKindTable k
        (Reference.make kind keys).mapError (fun e => .data e.message))) ∧
    (∀ fl k, decodeReference fl (.object [("type", k)]) =
      (do
        let _ ← decodeUnitVariant fl referenceKindTable k
        .error (.data ChainError.emptyChain.message))) ∧
    (∀ fl s kind, decodeUnitVariant fl referenceKindTable (.str s) = .ok kind ↔ s = kind.name) ∧
    (∀ fl r, decodeReference fl r.toNode = .ok r) := by
  refine ⟨Reference.make_eq_ok_iff, Reference.make_eq_error_iff, Reference.make_global,
    fun r => ⟨r.check_eq_ok, r.firstKey_lastKey⟩, ?_, decodeReference_type_keys,
    decodeReference_keys_type, decodeReference_type,
    fun _ s kind => variantNamed_referenceKind_iff s kind, decodeReference_toNode⟩
  intro fl k ks r
  simp only [decodeReference_type_keys, except_bind_eq_ok, except_mapError_eq_ok,
    Reference.make_eq_ok_iff]
  constructor
  · rintro ⟨kind, hKind, keys, hKeys, hCheck, hRKind, hRKeys⟩
    exact ⟨kind, keys, hKind, hKeys, hCheck, hRKind, hRKeys⟩
  · rintro ⟨kind, keys, hKind, hKeys, hCheck, hRKind, hRKeys⟩
    exact ⟨kind, hKind, keys, hKeys, hCheck, hRKind, hRKeys⟩

end AdminShell
