import AdminShell.Proofs.EntityCodec
import AdminShell.Model.Document

/-! # Plain export and reading it back

With typing off, an export is the document form of an entity (a submodel's tag added after
the fact), and decoding that document, as a plain value or from its compact text, gives the
entity back. From text this holds exactly when the document lies within the reader's depth
limit: a deeper text is cut off where the limit is passed, and the decoders of tagged entities
refuse a document holding a fault, so it never decodes.
-/

namespace AdminShell

open Json

set_option autoImplicit false

/-! ## Tagged values need a document without faults -/

theorem complete_clean {n : Node} {u : Unit} (h : complete n = .ok u) : n.fault? = none := by
  unfold complete at h
  cases hFault : n.fault? with
  | none => rfl
  | some f => simp [hFault] at h

theorem decodeTag_clean {α : Type} {fl : Flavour} {table : List (String × α)} {v : Node} {x : α}
    (h : decodeTag fl table v = .ok x) : v.fault? = none := by
  cases v with
  | null | bool _ | num _ | str _ => rfl
  | arr _ _ | obj _ _ | bad _ => simp [decodeTag] at h

theorem faultInItems_eq_none_of {items : List Node} (h : ∀ n ∈ items, n.fault? = none) :
    Node.faultInItems? items = none := by
  induction items with
  | nil => rfl
  | cons n ns ih =>
    simp only [Node.faultInItems?, h n List.mem_cons_self]
    exact ih fun m hm => h m (List.mem_cons_of_mem n hm)

theorem faultInFields_eq_none_of {fields : List (String × Node)}
    (h : ∀ e ∈ fields, e.2.fault? = none) : Node.faultInFields? fields = none := by
  induction fields with
  | nil => rfl
  | cons e es ih =>
    obtain ⟨k, v⟩ := e
    simp only [Node.faultInFields?, h (k, v) List.mem_cons_self]
    exact ih fun m hm => h m (List.mem_cons_of_mem _ hm)

theorem splitTagged_clean {α : Type} {fl : Flavour} {table : List (String × α)} {tag : String} :
    ∀ {entries : List (String × Node)} {found : Option α} {kept : List (String × Node)}
      {r : Option α × List (String × Node)},
      splitTagged fl table tag entries found kept = .ok r → ∀ e ∈ entries, e.2.fault? = none
  | [], _, _, _, _ => by simp
  | (k, v) :: rest, found, kept, r, h => by
    unfold splitTagged at h
    split at h
    · cases found with
      | some _ => cases h
      | none =>
        obtain ⟨x, hTag, hRest⟩ := except_bind_eq_ok.mp h
        exact List.forall_mem_cons.mpr ⟨decodeTag_clean hTag, splitTagged_clean hRest⟩
    · obtain ⟨u, hComplete, hRest⟩ := except_bind_eq_ok.mp h
      exact List.forall_mem_cons.mpr ⟨complete_clean hComplete, splitTagged_clean hRest⟩

theorem decodeItems_complete_clean :
    ∀ {items : List Node} {us : List Unit}, decodeItems complete items = .ok us →
      ∀ n ∈ items, n.fault? = none
  | [], _, _ => by simp
  | n :: ns, us, h => by
    obtain ⟨u, hHead, hRest⟩ := except_bind_eq_ok.mp h
    obtain ⟨us', hTail, -⟩ := except_bind_eq_ok.mp hRest
    exact List.forall_mem_cons.mpr ⟨complete_clean hHead, decodeItems_complete_clean hTail⟩

theorem decodeTagged_clean {α : Type} {fl : Flavour} {typeName tag : String}
    {table : List (String × α)} {n : Node} {r : α × Node}
    (h : decodeTagged fl typeName tag table n = .ok r) : n.fault? = none := by
  cases n with
  | obj fields stop =>
    obtain ⟨⟨found, kept⟩, hSplit, hRest⟩ := except_bind_eq_ok.mp h
    have hFields := faultInFields_eq_none_of (splitTagged_clean hSplit)
    cases stop with
    | some st =>
      dsimp only at hRest
      split at hRest <;> cases hRest
    | none => simp [Node.fault?, hFields]
  | arr items stop =>
    cases items with
    | nil => cases stop <;> cases h
    | cons first more =>
      obtain ⟨x, hTag, hRest⟩ := except_bind_eq_ok.mp h
      obtain ⟨us, hMore, hStop⟩ := except_bind_eq_ok.mp hRest
      have hItems := faultInItems_eq_none_of (List.forall_mem_cons.mpr
        ⟨decodeTag_clean hTag, decodeItems_complete_clean hMore⟩)
      cases stop with
      | some st => cases hStop
      | none => simp [Node.fault?, hItems]
  | null | bool _ | num _ | str _ => rfl
  | bad _ => cases h

theorem decodeElement_clean {fl : Flavour} {n : Node} {e : Element}
    (h : decodeElement fl n = .ok e) : n.fault? = none := by
  unfold decodeElement at h
  rw [decodeElementFuel] at h
  obtain ⟨r, hTagged, -⟩ := except_bind_eq_ok.mp h
  exact decodeTagged_clean hTagged

theorem decodeIdentifiable_clean {fl : Flavour} {n : Node} {i : Identifiable}
    (h : decodeIdentifiable fl n = .ok i) : n.fault? = none := by
  unfold decodeIdentifiable at h
  obtain ⟨r, hTagged, -⟩ := except_bind_eq_ok.mp h
  exact decodeTagged_clean hTagged

/-! ## Reading a compact text -/

section Text

variable {α : Type} (decode : Flavour → Node → Decoded α) (check : α → Checked)

theorem readChecked_compact (n : Node) (hn : n.Encoded) (hDepth : n.depth ≤ maxDepth) (x : α)
    (hDecode : decode .text n.sorted = .ok x) (hCheck : check x = .ok ()) :
    readChecked decode check n.compact = .ok x := by
  have hRead := read_compact n (printable_of_encoded n hn) hDepth
  simp only [readChecked, readEntity, hRead, hDecode, hCheck, except_ok_bind]
  rfl

/-- A document deeper than the limit, written compactly, is cut off by the reader, so a
decoder that needs a document without faults refuses it. -/
theorem readEntity_compact_deep (hClean : ∀ fl m x, decode fl m = .ok x → m.fault? = none)
    (n : Node) (hn : n.Encoded) (hDeep : maxDepth < n.depth) :
    ∃ err, readEntity decode n.compact = .error err := by
  obtain ⟨hFault, -⟩ := read_compact_deep n (printable_of_encoded n hn) hDeep
  cases hDecode : decode .text (read n.compact).root with
  | error err => exact ⟨.json err, by simp only [readEntity, hDecode]⟩
  | ok x =>
    rw [hClean _ _ _ hDecode] at hFault
    cases hFault

theorem readChecked_compact_iff (hClean : ∀ fl m x, decode fl m = .ok x → m.fault? = none)
    (n : Node) (hn : n.Encoded) (x : α) (hDecode : decode .text n.sorted = .ok x)
    (hCheck : check x = .ok ()) :
    readChecked decode check n.compact = .ok x ↔ n.depth ≤ maxDepth := by
  constructor
  · intro hRead
    by_contra hDeep
    obtain ⟨err, hErr⟩ := readEntity_compact_deep decode hClean n hn (Nat.lt_of_not_le hDeep)
    simp [readChecked, hErr, except_error_bind] at hRead
  · intro hDepth
    exact readChecked_compact decode check n hn hDepth x hDecode hCheck

end Text

/-! ## Exports with typing off -/

theorem Element.export_plain (e : Element) : e.export false = e.toNode := by
  simp [Element.export]

theorem Submodel.export_plain (s : Submodel) : s.export false = .object s.fields := by
  simp [Submodel.export]

theorem byKey_eq_of_perm {l₁ l₂ : List (String × Node)} (h : l₁.Perm l₂)
    (hNodup : (l₁.map Prod.fst).Nodup) : byKey l₁ = byKey l₂ := by
  have hTrans : ∀ a b c : String × Node, decide (a.1 ≤ b.1) = true →
      decide (b.1 ≤ c.1) = true → decide (a.1 ≤ c.1) = true := by
    simp only [decide_eq_true_eq]
    exact fun a b c hab hbc => le_trans hab hbc
  have hTotal : ∀ a b : String × Node, (decide (a.1 ≤ b.1) || decide (b.1 ≤ a.1)) = true := by
    intro a b
    simpa using le_total a.1 b.1
  refine List.Perm.eq_of_pairwise (fun a b ha hb hab hba => ?_)
    (List.pairwise_mergeSort hTrans hTotal l₁) (List.pairwise_mergeSort hTrans hTotal l₂)
    (((List.mergeSort_perm _ _).trans h).trans (List.mergeSort_perm _ _).symm)
  have ha' : a ∈ l₁ := (List.mergeSort_perm _ _).mem_iff.mp ha
  have hb' : b ∈ l₁ := h.mem_iff.mpr ((List.mergeSort_perm _ _).mem_iff.mp hb)
  have hKey : a.1 = b.1 := le_antisymm (by simpa using hab) (by simpa using hba)
  exact List.inj_on_of_nodup_map hNodup ha' hb' hKey

/-- A tagged entity's export is its document form up to the order of the fields: a submodel
is exported on its own and its tag added last. -/
theorem Identifiable.export_plain_perm (i : Identifiable) :
    ∃ fields, i.export false = .object fields ∧
      fields.Perm (("modelType", .str i.kind.name) :: i.fields) := by
  cases i with
  | submodel s =>
    obtain ⟨keys, hSub, hNodup⟩ := (Identifiable.submodel s).fields_keys
    have hFresh : s.fields.any (·.1 == "modelType") = false := by
      rw [List.any_eq_false]
      intro p hp hKey
      have hMem : p.1 ∈ keys := hSub.subset (List.mem_map_of_mem hp)
      rw [beq_iff_eq] at hKey
      exact (List.nodup_cons.mp hNodup).1 (hKey ▸ hMem)
    refine ⟨s.fields ++ [("modelType", .str "Submodel")], ?_, List.perm_append_singleton _ _⟩
    simp [Identifiable.export, Submodel.export_plain, Json.Node.setField, Json.setField, hFresh]
  | shell s => exact ⟨_, rfl, List.Perm.refl _⟩
  | conceptDescription c => exact ⟨_, rfl, List.Perm.refl _⟩

theorem Identifiable.export_encoded (i : Identifiable) : (i.export false).Encoded := by
  obtain ⟨fields, hExport, hPerm⟩ := i.export_plain_perm
  have hEncoded := (encoded_object _).mp i.toNode_encoded
  rw [hExport, encoded_object]
  exact ⟨(hPerm.map Prod.fst).nodup_iff.mpr hEncoded.1,
    fun p hp => hEncoded.2 p (hPerm.mem_iff.mp hp)⟩

theorem Identifiable.normalize_export (i : Identifiable) :
    (i.export false).normalize = i.toNode.normalize := by
  obtain ⟨fields, hExport, hPerm⟩ := i.export_plain_perm
  have hNodup := ((encoded_object _).mp i.toNode_encoded).1
  have hEncoded := i.export_encoded
  rw [normalize_eq_sorted _ hEncoded, normalize_eq_sorted _ i.toNode_encoded, hExport,
    Identifiable.toNode, sorted_obj, sorted_obj,
    byKey_eq_of_perm hPerm ((hPerm.map Prod.fst).nodup_iff.mpr hNodup)]

theorem Submodel.object_encoded (s : Submodel) : (Node.object s.fields).Encoded := by
  obtain ⟨keys, hSub, hNodup⟩ := (Identifiable.submodel s).fields_keys
  exact encoded_of_keys _ keys hSub (List.nodup_cons.mp hNodup).2 s.fields_encoded

/-! ## Collections nested past the depth limit -/

def leafProperty : Element :=
  .property { attrs := { referable := { idShort := some "Leaf" } }, valueType := .int,
              value := some "7" }

/-- The leaf property inside `n` collections of one item each, the outermost named by `n - 1`. -/
def nestedCollections : Nat → Element
  | 0 => leafProperty
  | n + 1 =>
    .collection { referable := { idShort := some ("L" ++ toString n) } } true [nestedCollections n]

theorem nestedCollections_validate (n : Nat) : (nestedCollections n).validate = .ok () := by
  induction n with
  | zero => rfl
  | succ n ih =>
    simp [nestedCollections, Element.validate, Element.validateAll, ElementAttrs.validate,
      ReferableAttrs.validate, Semantics.validate, checkAll, except_ok_bind, ih]

theorem nestedCollections_depth (n : Nat) :
    ((nestedCollections n).export false).depth = 2 * n + 1 := by
  rw [Element.export_plain]
  induction n with
  | zero => rfl
  | succ n ih =>
    simp [nestedCollections, Element.toNode, Element.toNodes, itemsField, Element.leafFields,
      ElementAttrs.fields, ReferableAttrs.fields, Semantics.fields, optField, listField, Node.depth,
      Node.fieldsDepth, Node.itemsDepth, ih]
    omega

/-! ## Reading a plain export back -/

theorem Element.normalize_export (e : Element) : (e.export false).normalize = e.toNode.sorted := by
  rw [Element.export_plain, normalize_eq_sorted _ e.toNode_encoded]

theorem Element.read_export_iff (e : Element) (hValid : e.validate = .ok ()) :
    readChecked decodeElement Element.validate (e.export false).compact = .ok e ↔
      (e.export false).depth ≤ maxDepth := by
  rw [Element.export_plain]
  exact readChecked_compact_iff decodeElement Element.validate
    (fun _ _ _ => decodeElement_clean) e.toNode e.toNode_encoded e
    (decodeElement_sorted .text e) hValid

theorem Submodel.normalize_export (s : Submodel) :
    (s.export false).normalize = (Node.object s.fields).sorted := by
  rw [Submodel.export_plain, normalize_eq_sorted _ s.object_encoded]

theorem Submodel.read_export (s : Submodel) (hValid : s.validate = .ok ())
    (hDepth : (s.export false).depth ≤ maxDepth) :
    readChecked (fun fl n => decodeSubmodel (.node fl n)) Submodel.validate
      (s.export false).compact = .ok s := by
  rw [Submodel.export_plain] at hDepth ⊢
  exact readChecked_compact (fun fl n => decodeSubmodel (.node fl n)) Submodel.validate
    (.object s.fields) s.object_encoded hDepth s (decodeSubmodel_sorted .text s) hValid

theorem Identifiable.sorted_export (i : Identifiable) :
    (i.export false).sorted = i.toNode.sorted := by
  rw [← normalize_eq_sorted _ i.export_encoded, ← normalize_eq_sorted _ i.toNode_encoded,
    i.normalize_export]

theorem Identifiable.read_export_iff (i : Identifiable) (hValid : i.validate = .ok ()) :
    readChecked decodeIdentifiable Identifiable.validate (i.export false).compact = .ok i ↔
      (i.export false).depth ≤ maxDepth := by
  have hDecode : decodeIdentifiable .text (i.export false).sorted = .ok i := by
    rw [i.sorted_export]
    exact decodeIdentifiable_sorted .text i
  exact readChecked_compact_iff decodeIdentifiable Identifiable.validate
    (fun _ _ _ => decodeIdentifiable_clean) _ i.export_encoded i hDecode hValid

/-- With typing off an element exports as its document form, a submodel as its own fields and
a tagged entity as its document form up to the order of the fields. Each decodes back from that
value; a valid one reads back from its compact text, and an element or tagged entity does so
exactly when the text nests at most `maxDepth` containers. -/
theorem plain_export_reads_back (e : Element) (s : Submodel) (i : Identifiable) :
    (e.export false = e.toNode ∧
      (∀ fl, decodeElement fl (e.export false).normalize = .ok e) ∧
      (e.validate = .ok () →
        (readChecked decodeElement Element.validate (e.export false).compact = .ok e ↔
          (e.export false).depth ≤ maxDepth))) ∧
    (s.export false = .object s.fields ∧
      (∀ fl, decodeSubmodel (.node fl (s.export false).normalize) = .ok s) ∧
      (s.validate = .ok () → (s.export false).depth ≤ maxDepth →
        readChecked (fun fl n => decodeSubmodel (.node fl n)) Submodel.validate
          (s.export false).compact = .ok s)) ∧
    ((i.export false).normalize = i.toNode.normalize ∧
      (∀ fl, decodeIdentifiable fl (i.export false).normalize = .ok i) ∧
      (i.validate = .ok () →
        (readChecked decodeIdentifiable Identifiable.validate (i.export false).compact = .ok i ↔
          (i.export false).depth ≤ maxDepth))) := by
  refine ⟨⟨e.export_plain, fun fl => ?element, e.read_export_iff⟩,
    ⟨s.export_plain, fun fl => ?submodel, s.read_export⟩,
    ⟨i.normalize_export, fun fl => ?entity, i.read_export_iff⟩⟩
  case element =>
    rw [e.normalize_export]
    exact decodeElement_sorted fl e
  case submodel =>
    rw [s.normalize_export]
    exact decodeSubmodel_sorted fl s
  case entity =>
    rw [i.normalize_export, normalize_eq_sorted _ i.toNode_encoded]
    exact decodeIdentifiable_sorted fl i

def leafSubmodel : Submodel := { identity := { id := "urn:leaf" }, elements := [leafProperty] }

theorem nestedCollections_read_at_limit :
    readChecked decodeElement Element.validate ((nestedCollections 63).export false).compact =
        .ok (nestedCollections 63) ∧
      readChecked (fun fl n => decodeSubmodel (.node fl n)) Submodel.validate
        (leafSubmodel.export false).compact = .ok leafSubmodel ∧
      readChecked decodeIdentifiable Identifiable.validate
        ((Identifiable.submodel leafSubmodel).export false).compact =
          .ok (.submodel leafSubmodel) := by
  obtain ⟨⟨-, -, hElement⟩, ⟨-, -, hSubmodel⟩, ⟨-, -, hEntity⟩⟩ :=
    plain_export_reads_back (nestedCollections 63) leafSubmodel (.submodel leafSubmodel)
  have hValid : leafSubmodel.validate = .ok () := rfl
  have hDepth : (leafSubmodel.export false).depth ≤ maxDepth := by decide
  have hEntityDepth : ((Identifiable.submodel leafSubmodel).export false).depth ≤ maxDepth := by
    decide
  refine ⟨(hElement (nestedCollections_validate 63)).mpr ?_, hSubmodel hValid hDepth,
    (hEntity hValid).mpr hEntityDepth⟩
  rw [nestedCollections_depth]
  decide

theorem nestedCollections_past_limit_unreadable :
    (nestedCollections 64).validate = .ok () ∧
      ∃ err, readChecked decodeElement Element.validate
        ((nestedCollections 64).export false).compact = .error err := by
  have hDeep : maxDepth < ((nestedCollections 64).export false).depth := by
    rw [nestedCollections_depth]
    decide
  rw [Element.export_plain] at hDeep ⊢
  obtain ⟨err, hErr⟩ := readEntity_compact_deep decodeElement (fun _ _ _ => decodeElement_clean)
    _ (nestedCollections 64).toNode_encoded hDeep
  exact ⟨nestedCollections_validate 64, err, by simp only [readChecked, hErr, except_error_bind]⟩

end AdminShell
