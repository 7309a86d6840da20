import AdminShell.Proofs.Checks

/-! # Validation is every node's local rules

`validate` walks an entity in a fixed order and stops at the first broken rule; which rule
it reports depends on that order (a list checks all its items' shapes before any item).
Whether it passes does not: it passes exactly when every node of the entity keeps the rules
that concern that node alone. Those rules are said here without the walk, as predicates on
one entity (`Sound`, `LocalRules`), and `validate_eq_ok_iff_localRules` shows that the walk
accepts exactly the entities all of whose nodes keep them. The nodes of an element are the
element itself and, for collections and lists, the nodes of their items (`Element.nodes`).
-/

namespace AdminShell

set_option autoImplicit false

attribute [local simp] except_throw except_pure except_ok_bind except_error_bind seq_eq_ok_iff

/-! ## The local rules -/

def Semantics.Sound (s : Semantics) : Prop :=
  s.supplementalSemanticIds ≠ [] → s.semanticId.isSome

def LiteralFits (t : Option Datatype) (v : Option String) : Prop :=
  ∀ dt raw, t = some dt → v = some raw → raw ≠ "" → dt.validate raw = .ok ()

def Extension.Sound (e : Extension) : Prop :=
  e.semantics.Sound ∧ LiteralFits e.valueType e.value

def Qualifier.Sound (q : Qualifier) : Prop :=
  q.semantics.Sound ∧ LiteralFits q.valueType q.value

def ReferableAttrs.Sound (r : ReferableAttrs) : Prop :=
  ∀ e ∈ r.extensions, e.Sound

/-- Versions and revisions have at most four characters, and a revision comes with a
version that is not empty. -/
def AdministrativeInformation.Sound (a : AdministrativeInformation) : Prop :=
  (∀ v, a.version = some v → v.length ≤ 4) ∧
    ∀ r, a.revision = some r → r.length ≤ 4 ∧ ∃ v, a.version = some v ∧ v ≠ ""

def IdentifiableAttrs.Sound (i : IdentifiableAttrs) : Prop :=
  i.referable.Sound ∧ ∀ a, i.administration = some a → a.Sound

def ElementAttrs.Sound (a : ElementAttrs) : Prop :=
  a.referable.Sound ∧ a.semantics.Sound ∧ ∀ q ∈ a.qualifiers, q.Sound

def Property.Sound (p : Property) : Prop :=
  p.attrs.Sound ∧ LiteralFits (some p.valueType) p.value ∧
    ((∀ raw, p.value = some raw → raw = "") → p.valueId.isSome)

def Range.Sound (r : Range) : Prop :=
  r.attrs.Sound ∧ (r.min.isSome ∨ r.max.isSome) ∧ LiteralFits (some r.valueType) r.min ∧
    LiteralFits (some r.valueType) r.max

def Blob.Sound (b : Blob) : Prop :=
  b.attrs.Sound ∧ Datatype.base64Binary.validate b.value = .ok ()

def RelationshipElement.Sound (r : RelationshipElement) : Prop :=
  r.attrs.Sound ∧ r.first.kind = .model ∧ r.second.kind = .model

/-- A list admits an item: its declared kind admits the item's kind, and a declared datatype
is the item's own, when the item has one. -/
def ListShape.Admits (shape : ListShape) (e : Element) : Prop :=
  (∀ k, shape.typeValueListElement = some k → k.admits e.kind = true) ∧
    ∀ t t', shape.valueTypeListElement = some t → e.valueType = some t' → t = t'

def Element.LocalRules : Element → Prop
  | .property p => p.Sound
  | .multiLanguageProperty p => p.attrs.Sound
  | .range r => r.Sound
  | .file f => f.attrs.Sound
  | .blob b => b.Sound
  | .referenceElement r => r.attrs.Sound
  | .relationship r => r.Sound
  | .collection a _ _ => a.Sound
  | .list a _ shape xs => a.Sound ∧ ∀ e ∈ xs, shape.Admits e

mutual

def Element.nodes : Element → List Element
  | .collection a o xs => .collection a o xs :: Element.nodesAll xs
  | .list a o shape xs => .list a o shape xs :: Element.nodesAll xs
  | e => [e]

def Element.nodesAll : List Element → List Element
  | [] => []
  | e :: es => e.nodes ++ Element.nodesAll es

end

def Reference.IsModelTo (r : Reference) (t : KeyType) : Prop :=
  r.kind = .model ∧ r.firstKey.type = t

/-- The rules of a shell: its identity, the semantics of its asset's specific identifiers,
a `derivedFrom` into a shell and submodel references into submodels. -/
def Shell.Sound (s : Shell) : Prop :=
  s.identity.Sound ∧ (∀ a ∈ s.assetInformation.specificAssetIds, a.semantics.Sound) ∧
    (∀ r, s.derivedFrom = some r → r.IsModelTo .assetAdministrationShell) ∧
    ∀ r ∈ s.submodels, r.IsModelTo .submodel

def Submodel.LocalRules (s : Submodel) : Prop :=
  s.identity.Sound ∧ s.semantics.Sound ∧ ∀ q ∈ s.qualifiers, q.Sound

def Submodel.Sound (s : Submodel) : Prop :=
  s.LocalRules ∧ ∀ n ∈ Element.nodesAll s.elements, n.LocalRules

def Identifiable.Sound : Identifiable → Prop
  | .shell s => s.Sound
  | .submodel s => s.Sound
  | .conceptDescription c => c.identity.Sound

/-! ## The attribute blocks -/

theorem Checked.ofLiteral_eq_ok_iff (r : Except LiteralError Unit) :
    Checked.ofLiteral r = .ok () ↔ r = .ok () := by
  rcases r with _ | ⟨⟩ <;> simp [Checked.ofLiteral]

theorem Semantics.validate_eq_ok_iff (s : Semantics) : s.validate = .ok () ↔ s.Sound := by
  unfold Semantics.validate Semantics.Sound
  cases hIds : s.supplementalSemanticIds <;> cases s.semanticId <;> simp

theorem checkLiteralField_eq_ok_iff (t : Option Datatype) (v : Option String) :
    checkLiteralField t v = .ok () ↔ LiteralFits t v := by
  unfold LiteralFits
  rcases t with _ | dt <;> rcases v with _ | raw
  · simp [checkLiteralField]
  · simp [checkLiteralField]
  · simp [checkLiteralField]
  · by_cases hEmpty : raw = ""
    · simp [checkLiteralField, hEmpty]
    · simp [checkLiteralField, String.isEmpty_iff, hEmpty, Checked.ofLiteral_eq_ok_iff]

theorem Extension.validate_eq_ok_iff (e : Extension) : e.validate = .ok () ↔ e.Sound := by
  simp [Extension.validate, Extension.Sound, Semantics.validate_eq_ok_iff,
    checkLiteralField_eq_ok_iff]

theorem Qualifier.validate_eq_ok_iff (q : Qualifier) : q.validate = .ok () ↔ q.Sound := by
  simp [Qualifier.validate, Qualifier.Sound, Semantics.validate_eq_ok_iff,
    checkLiteralField_eq_ok_iff]

theorem ReferableAttrs.validate_eq_ok_iff (r : ReferableAttrs) :
    r.validate = .ok () ↔ r.Sound := by
  simp [ReferableAttrs.validate, ReferableAttrs.Sound, checkAll_eq_ok_iff,
    Extension.validate_eq_ok_iff]

theorem AdministrativeInformation.validate_eq_ok_iff (a : AdministrativeInformation) :
    a.validate = .ok () ↔ a.Sound := by
  obtain ⟨version, revision, creator, templateId⟩ := a
  simp only [AdministrativeInformation.validate, AdministrativeInformation.Sound]
  rcases version with _ | v <;> rcases revision with _ | r
  · simp
  · by_cases hr : r.length > 4 <;> simp [hr]
  · by_cases hv : v.length > 4
    · simp [hv, Nat.not_le.mpr hv]
    · simp [hv, Nat.le_of_not_gt hv]
  · by_cases hv : v.length > 4
    · simp [hv, Nat.not_le.mpr hv]
    · by_cases hr : r.length > 4
      · simp [hv, Nat.le_of_not_gt hv, hr, Nat.not_le.mpr hr]
      · simp [hv, Nat.le_of_not_gt hv, hr, Nat.le_of_not_gt hr, String.isEmpty_iff]

theorem IdentifiableAttrs.validate_eq_ok_iff (i : IdentifiableAttrs) :
    i.validate = .ok () ↔ i.Sound := by
  unfold IdentifiableAttrs.validate IdentifiableAttrs.Sound
  rcases hAdmin : i.administration with _ | a
  · simp [ReferableAttrs.validate_eq_ok_iff]
  · simp [ReferableAttrs.validate_eq_ok_iff, AdministrativeInformation.validate_eq_ok_iff]

theorem ElementAttrs.validate_eq_ok_iff (a : ElementAttrs) : a.validate = .ok () ↔ a.Sound := by
  simp [ElementAttrs.validate, ElementAttrs.Sound, ReferableAttrs.validate_eq_ok_iff,
    Semantics.validate_eq_ok_iff, checkAll_eq_ok_iff, Qualifier.validate_eq_ok_iff]

/-! ## The leaf elements -/

theorem Property.literal_eq_some_iff (p : Property) (raw : String) :
    p.literal = some raw ↔ p.value = some raw ∧ raw ≠ "" := by
  simp [Property.literal, Option.filter_eq_some_iff]

theorem Property.literal_eq_none_iff (p : Property) :
    p.literal = none ↔ ∀ raw, p.value = some raw → raw = "" := by
  simp [Property.literal, Option.filter_eq_none_iff]

theorem Property.validate_eq_ok_iff (p : Property) : p.validate = .ok () ↔ p.Sound := by
  unfold Property.validate Property.Sound
  rw [seq_eq_ok_iff, ElementAttrs.validate_eq_ok_iff]
  apply and_congr_right
  intro _
  rcases hLiteral : p.literal with _ | raw
  · have hEmpty := (Property.literal_eq_none_iff p).mp hLiteral
    have hFits : LiteralFits (some p.valueType) p.value :=
      fun _ raw _ hValue hNe => absurd (hEmpty raw hValue) hNe
    cases hId : p.valueId with
    | none => simpa [hFits] using hEmpty
    | some _ => simp [hFits]
  · obtain ⟨hValue, hNe⟩ := (Property.literal_eq_some_iff p raw).mp hLiteral
    simp [LiteralFits, hValue, hNe, Checked.ofLiteral_eq_ok_iff]

@[simp] theorem literalFits_none (t : Option Datatype) : LiteralFits t none := by
  simp [LiteralFits]

theorem Range.validate_eq_ok_iff (r : Range) : r.validate = .ok () ↔ r.Sound := by
  obtain ⟨attrs, t, lo, hi⟩ := r
  rcases lo with _ | lo <;> rcases hi with _ | hi <;>
    simp [Range.validate, Range.Sound, ElementAttrs.validate_eq_ok_iff,
      checkLiteralField_eq_ok_iff]

theorem Blob.validate_eq_ok_iff (b : Blob) : b.validate = .ok () ↔ b.Sound := by
  simp [Blob.validate, Blob.Sound, ElementAttrs.validate_eq_ok_iff, Checked.ofLiteral_eq_ok_iff]

theorem RelationshipElement.validate_eq_ok_iff (r : RelationshipElement) :
    r.validate = .ok () ↔ r.Sound := by
  unfold RelationshipElement.validate RelationshipElement.Sound
  simp only [seq_eq_ok_iff, ElementAttrs.validate_eq_ok_iff]
  apply and_congr_right
  intro _
  cases hFirst : r.first.kind <;> cases hSecond : r.second.kind <;>
    simp [Reference.isModel, hFirst, hSecond]

theorem ListShape.checkItem_eq_ok_iff (shape : ListShape) (i : Nat) (e : Element) :
    shape.checkItem i e = .ok () ↔ shape.Admits e := by
  obtain ⟨kind, semanticId, valueType⟩ := shape
  rcases kind with _ | k <;> rcases valueType with _ | t <;> rcases hType : e.valueType with _ | t' <;>
    simp [ListShape.checkItem, ListShape.Admits, hType]
  split
  case isTrue hRejected => simp [hRejected]
  case isFalse hAdmitted => simp_all

theorem ListShape.checkItems_eq_ok_iff_admits (shape : ListShape) (es : List Element) :
    shape.checkItems 0 es = .ok () ↔ ∀ e ∈ es, shape.Admits e := by
  rw [ListShape.checkItems_eq_ok_iff]
  simp only [ListShape.checkItem_eq_ok_iff]
  exact ⟨fun h e he => by
    obtain ⟨j, hj, rfl⟩ := List.getElem_of_mem he
    exact h j hj, fun h j hj => h _ (List.getElem_mem hj)⟩

/-! ## Trees of elements -/

theorem Element.localRules_iff (e : Element) :
    e.LocalRules ↔
      match e with
      | .collection a _ _ => a.validate = .ok ()
      | .list a _ shape xs => a.validate = .ok () ∧ shape.checkItems 0 xs = .ok ()
      | e => e.validate = .ok () := by
  cases e with
  | property p => exact (Property.validate_eq_ok_iff p).symm
  | multiLanguageProperty p => exact (ElementAttrs.validate_eq_ok_iff p.attrs).symm
  | range r => exact (Range.validate_eq_ok_iff r).symm
  | file f => exact (ElementAttrs.validate_eq_ok_iff f.attrs).symm
  | blob b => exact (Blob.validate_eq_ok_iff b).symm
  | referenceElement r => exact (ElementAttrs.validate_eq_ok_iff r.attrs).symm
  | relationship r => exact (RelationshipElement.validate_eq_ok_iff r).symm
  | collection a o xs => exact (ElementAttrs.validate_eq_ok_iff a).symm
  | list a o shape xs =>
    simp only [Element.LocalRules, ElementAttrs.validate_eq_ok_iff,
      ListShape.checkItems_eq_ok_iff_admits]

mutual

theorem Element.validate_eq_ok_iff : ∀ e : Element,
    e.validate = .ok () ↔ ∀ n ∈ e.nodes, n.LocalRules
  | .collection a o xs => by
    have hItems := Element.validateAll_eq_ok_iff_nodes xs
    simp only [Element.validate, Element.nodes, seq_eq_ok_iff, hItems, List.mem_cons,
      forall_eq_or_imp, Element.localRules_iff]
  | .list a o shape xs => by
    have hItems := Element.validateAll_eq_ok_iff_nodes xs
    simp only [Element.validate, Element.nodes, seq_eq_ok_iff, hItems, List.mem_cons,
      forall_eq_or_imp, Element.localRules_iff, and_assoc]
  | .property p => by simp [Element.nodes, Element.localRules_iff, Element.validate]
  | .multiLanguageProperty p => by simp [Element.nodes, Element.localRules_iff, Element.validate]
  | .range r => by simp [Element.nodes, Element.localRules_iff, Element.validate]
  | .file f => by simp [Element.nodes, Element.localRules_iff, Element.validate]
  | .blob b => by simp [Element.nodes, Element.localRules_iff, Element.validate]
  | .referenceElement r => by simp [Element.nodes, Element.localRules_iff, Element.validate]
  | .relationship r => by simp [Element.nodes, Element.localRules_iff, Element.validate]

theorem Element.validateAll_eq_ok_iff_nodes : ∀ es : List Element,
    Element.validateAll es = .ok () ↔ ∀ n ∈ Element.nodesAll es, n.LocalRules
  | [] => by simp [Element.validateAll, Element.nodesAll]
  | e :: es => by
    simp only [Element.validateAll, Element.nodesAll, seq_eq_ok_iff, List.mem_append,
      Element.validate_eq_ok_iff e, Element.validateAll_eq_ok_iff_nodes es]
    exact ⟨fun ⟨h1, h2⟩ n hn => hn.elim (h1 n) (h2 n), fun h => ⟨fun n hn => h n (.inl hn),
      fun n hn => h n (.inr hn)⟩⟩

end

/-! ## Identifiable entities -/

theorem Reference.isModelTo_iff (r : Reference) (t : KeyType) :
    r.isModelTo t = true ↔ r.IsModelTo t := by
  simp [Reference.isModelTo, Reference.IsModelTo, Reference.isModel]

theorem AssetInformation.validate_eq_ok_iff (a : AssetInformation) :
    a.validate = .ok () ↔ ∀ s ∈ a.specificAssetIds, s.semantics.Sound := by
  simp [AssetInformation.validate, checkAll_eq_ok_iff, Semantics.validate_eq_ok_iff]

theorem Shell.refs_eq_ok_iff (i : Nat) (rs : List Reference) :
    Shell.validate.refs i rs = .ok () ↔ ∀ r ∈ rs, r.IsModelTo .submodel := by
  induction rs generalizing i with
  | nil => simp [Shell.validate.refs]
  | cons r rs ih =>
    by_cases hTo : r.isModelTo .submodel = true
    · simp [Shell.validate.refs, hTo, ih, ← Reference.isModelTo_iff]
    · simp [Shell.validate.refs, hTo, ← Reference.isModelTo_iff]

theorem Shell.validate_eq_ok_iff (s : Shell) : s.validate = .ok () ↔ s.Sound := by
  unfold Shell.validate Shell.Sound
  simp only [seq_eq_ok_iff, IdentifiableAttrs.validate_eq_ok_iff,
    AssetInformation.validate_eq_ok_iff]
  apply and_congr_right
  intro _
  apply and_congr_right
  intro _
  rcases s.derivedFrom with _ | r
  · simp [Shell.refs_eq_ok_iff]
  · by_cases hTo : r.isModelTo .assetAdministrationShell = true
    · simp [hTo, Shell.refs_eq_ok_iff, ← Reference.isModelTo_iff]
    · simp [hTo, ← Reference.isModelTo_iff]

theorem Submodel.validate_eq_ok_iff (s : Submodel) : s.validate = .ok () ↔ s.Sound := by
  simp [Submodel.validate, Submodel.Sound, Submodel.LocalRules,
    IdentifiableAttrs.validate_eq_ok_iff, Semantics.validate_eq_ok_iff, checkAll_eq_ok_iff,
    Qualifier.validate_eq_ok_iff, Element.validateAll_eq_ok_iff_nodes, and_assoc]

/-- Validation is the conjunction of every node's local rules: an element tree, a
submodel with its elements, a shell, a concept description and any identifiable entity
pass `validate` exactly when each of their nodes keeps the rules that concern it alone. -/
theorem validate_eq_ok_iff_localRules :
    (∀ e : Element, e.validate = .ok () ↔ ∀ n ∈ e.nodes, n.LocalRules) ∧
    (∀ s : Submodel, s.validate = .ok () ↔
      s.LocalRules ∧ ∀ n ∈ Element.nodesAll s.elements, n.LocalRules) ∧
    (∀ s : Shell, s.validate = .ok () ↔ s.Sound) ∧
    (∀ c : ConceptDescription, c.validate = .ok () ↔ c.identity.Sound) ∧
    (∀ i : Identifiable, i.validate = .ok () ↔ i.Sound) := by
  refine ⟨Element.validate_eq_ok_iff, Submodel.validate_eq_ok_iff, Shell.validate_eq_ok_iff,
    fun c => IdentifiableAttrs.validate_eq_ok_iff c.identity, ?_⟩
  intro i
  cases i with
  | shell s => exact Shell.validate_eq_ok_iff s
  | submodel s => exact Submodel.validate_eq_ok_iff s
  | conceptDescription c => exact IdentifiableAttrs.validate_eq_ok_iff c.identity

end AdminShell
