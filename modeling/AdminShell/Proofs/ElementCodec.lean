import AdminShell.Proofs.AttrsCodec
import AdminShell.Model.Decode.Element

/-! # Submodel elements read back

Every element decodes, as itself, from the sorted form of its written object, given the fuel
its nesting needs. The decoder splits the `modelType` tag off first (`decodeTagged_perm`) and
leaves the other fields in some order; each kind reads its own fields from them and hands the
rest to its element attributes (`decodeElementAttrs_flat`). Collections and lists read their
items with one level of fuel less, so a whole tree is read by induction on the fuel.
-/

namespace AdminShell

open Json StructSpec

set_option autoImplicit false

/-! ## Leaf elements -/

theorem decodeProperty_perm (fl : Flavour) (p : Property) (kept : List (String × Node))
    (hKept : kept.Perm (p.fields.map sortedEntry)) :
    decodeProperty (.node fl (.obj kept none)) = .ok p := by
  have hOwn := keys_append (keys_append (single_keys "valueType" p.valueType.toNode)
    (optField_keys "value" .str p.value)) (optField_keys "valueId" Reference.toNode p.valueId)
  rw [decodeProperty]
  dsimp only
  refine bind_pair_ok (Source.mapped_node_perm propertySpec _ {} _ _
    (⟨some p.valueType, p.value, p.valueId⟩ : PropertyDraft)
    (known_of_keys propertySpec hOwn (by decide))
    (indices_nodup_of_keys propertySpec hOwn (by decide)) ?_ ?_ ?_ kept
    (perm_sorted_split hKept (List.Perm.of_eq (by simp only [Property.fields, List.append_assoc])))
    (unknown_of_keys propertySpec p.attrs.keys_sublist (by decide))
    (clean_of_encoded p.attrs.fields_encoded) fl) fun rest hRest => ?_
  · refine ⟨fun s s' i v a h => ?_, fun s i j v w a b hij hi hj ha hb => ?_⟩
    · rcases i with _ | _ | i <;> exact map_ok_of_map_ok h
    · simp only [propertySpec, List.length_cons, List.length_nil] at hi hj
      rcases i with _ | _ | _ | i <;> rcases j with _ | _ | _ | j <;> simp only at ha hb ⊢ <;>
        first
        | exact absurd rfl hij
        | omega
        | exact map_commute ha hb (by rintro p q rfl rfl; rfl)
  · refine foldlM_append_ok propertySpec _ _ _ _
      { valueType := some p.valueType, value := p.value } _ ?_ ?_
    · refine foldlM_append_ok propertySpec _ _ _ _ { valueType := some p.valueType } _ ?_ ?_
      · rw [foldlM_required propertySpec _ "valueType" 0 (by decide)]
        exact congrArg (Except.map _) (decodeDatatype_sorted p.valueType)
      · refine foldlM_optField propertySpec _ "value" 1 (by decide) _ _ _ _ (fun x hx => ?_)
          (fun h => by rw [h])
        rw [hx]
        rfl
    · refine foldlM_optField propertySpec _ "valueId" 2 (by decide) _ _ _ _ (fun r hr => ?_)
        (fun h => by rw [h])
      rw [hr]
      exact congrArg (Except.map _) (decodeOption_reference_sorted _ r)
  · refine checkMissing_of_written propertySpec _ [0] rfl ?_
    simp only [List.mem_singleton]
    rintro i rfl
    exact ⟨"valueType", p.valueType.toNode, by decide, by simp⟩
  · rw [decodeElementAttrs_flat p.attrs rest hRest]
    rfl

theorem decodeMultiLanguage_perm (fl : Flavour) (p : MultiLanguageProperty)
    (kept : List (String × Node)) (hKept : kept.Perm (p.fields.map sortedEntry)) :
    decodeMultiLanguage (.node fl (.obj kept none)) = .ok p := by
  have hOwn := keys_append (listField_keys "value" LangString.toNode p.value)
    (optField_keys "valueId" Reference.toNode p.valueId)
  rw [decodeMultiLanguage]
  dsimp only
  refine bind_pair_ok (Source.mapped_node_perm multiLanguageSpec _ {} _ _
    ({ value := p.value, valueId := p.valueId } : MultiLanguageProperty)
    (known_of_keys multiLanguageSpec hOwn (by decide))
    (indices_nodup_of_keys multiLanguageSpec hOwn (by decide)) ?_ ?_ rfl kept
    (perm_sorted_split hKept
      (List.Perm.of_eq (by simp only [MultiLanguageProperty.fields, List.append_assoc])))
    (unknown_of_keys multiLanguageSpec p.attrs.keys_sublist (by decide))
    (clean_of_encoded p.attrs.fields_encoded) fl) fun rest hRest => ?_
  · refine ⟨fun s s' i v a h => ?_, fun s i j v w a b hij hi hj ha hb => ?_⟩
    · rcases i with _ | i <;> exact map_ok_of_map_ok h
    · simp only [multiLanguageSpec, List.length_cons, List.length_nil] at hi hj
      rcases i with _ | _ | i <;> rcases j with _ | _ | j <;> simp only at ha hb ⊢ <;>
        first
        | exact absurd rfl hij
        | omega
        | exact map_commute ha hb (by rintro p q rfl rfl; rfl)
  · refine foldlM_append_ok multiLanguageSpec _ _ _ _ { value := p.value } _ ?_ ?_
    · exact foldlM_listField multiLanguageSpec _ "value" 0 (by decide) _ _ _ _
        (fun _ => congrArg (Except.map _) (decodeSeq_langStrings_sorted _ _)) (fun h => by rw [h])
    · refine foldlM_optField multiLanguageSpec _ "valueId" 1 (by decide) _ _ _ _ (fun r hr => ?_)
        (fun h => by rw [h])
      rw [hr]
      exact congrArg (Except.map _) (decodeOption_reference_sorted _ r)
  · rw [decodeElementAttrs_flat p.attrs rest hRest]
    rfl

theorem decodeRange_perm (fl : Flavour) (r : Range) (kept : List (String × Node))
    (hKept : kept.Perm (r.fields.map sortedEntry)) :
    decodeRange (.node fl (.obj kept none)) = .ok r := by
  have hOwn := keys_append (keys_append (single_keys "valueType" r.valueType.toNode)
    (optField_keys "min" .str r.min)) (optField_keys "max" .str r.max)
  rw [decodeRange]
  dsimp only
  refine bind_pair_ok (Source.mapped_node_perm rangeSpec _ {} _ _
    (⟨some r.valueType, r.min, r.max⟩ : RangeDraft)
    (known_of_keys rangeSpec hOwn (by decide))
    (indices_nodup_of_keys rangeSpec hOwn (by decide)) ?_ ?_ ?_ kept
    (perm_sorted_split hKept (List.Perm.of_eq (by simp only [Range.fields, List.append_assoc])))
    (unknown_of_keys rangeSpec r.attrs.keys_sublist (by decide))
    (clean_of_encoded r.attrs.fields_encoded) fl) fun rest hRest => ?_
  · refine ⟨fun s s' i v a h => ?_, fun s i j v w a b hij hi hj ha hb => ?_⟩
    · rcases i with _ | _ | i <;> exact map_ok_of_map_ok h
    · simp only [rangeSpec, List.length_cons, List.length_nil] at hi hj
      rcases i with _ | _ | _ | i <;> rcases j with _ | _ | _ | j <;> simp only at ha hb ⊢ <;>
        first
        | exact absurd rfl hij
        | omega
        | exact map_commute ha hb (by rintro p q rfl rfl; rfl)
  · refine foldlM_append_ok rangeSpec _ _ _ _ { valueType := some r.valueType, min := r.min } _ ?_ ?_
    · refine foldlM_append_ok rangeSpec _ _ _ _ { valueType := some r.valueType } _ ?_ ?_
      · rw [foldlM_required rangeSpec _ "valueType" 0 (by decide)]
        exact congrArg (Except.map _) (decodeDatatype_sorted r.valueType)
      · refine foldlM_optField rangeSpec _ "min" 1 (by decide) _ _ _ _ (fun x hx => ?_)
          (fun h => by rw [h])
        rw [hx]
        rfl
    · refine foldlM_optField rangeSpec _ "max" 2 (by decide) _ _ _ _ (fun x hx => ?_)
        (fun h => by rw [h])
      rw [hx]
      rfl
  · refine checkMissing_of_written rangeSpec _ [0] rfl ?_
    simp only [List.mem_singleton]
    rintro i rfl
    exact ⟨"valueType", r.valueType.toNode, by decide, by simp⟩
  · rw [decodeElementAttrs_flat r.attrs rest hRest]
    rfl

/-- The spec of a file's or blob's content answers keys by its fields only. -/
theorem contentSpec_knows (name : String) :
    StructSpec.knows ⟨name, [.required "contentType", .required "value"]⟩ =
      StructSpec.knows ⟨"", [.required "contentType", .required "value"]⟩ := rfl

theorem contentSpec_index? (name : String) :
    StructSpec.index? ⟨name, [.required "contentType", .required "value"]⟩ =
      StructSpec.index? ⟨"", [.required "contentType", .required "value"]⟩ := rfl

theorem decodeContent_perm (fl : Flavour) (name : String) (attrs : ElementAttrs)
    (contentType value : String) (kept : List (String × Node))
    (hKept : kept.Perm
      ((attrs.fields ++ [("contentType", Node.str contentType), ("value", Node.str value)]).map
        sortedEntry)) :
    decodeContent name (.node fl (.obj kept none)) = .ok (attrs, contentType, value) := by
  have hOwn : ([("contentType", Node.str contentType), ("value", Node.str value)].map
      Prod.fst).Sublist ["contentType", "value"] := List.Sublist.refl _
  rw [decodeContent]
  dsimp only
  refine bind_pair_ok (Source.mapped_node_perm _ _ (none, none) _ _
    (some contentType, some value)
    (known_of_keys _ hOwn (by rw [contentSpec_knows]; decide))
    (indices_nodup_of_keys _ hOwn (by rw [contentSpec_index?]; decide)) ?_ ?_
    rfl kept (perm_sorted_split hKept (List.Perm.refl _))
    (unknown_of_keys _ attrs.keys_sublist (by rw [contentSpec_knows]; decide))
    (clean_of_encoded attrs.fields_encoded) fl) fun rest hRest => ?_
  · refine ⟨fun s s' i v a h => ?_, fun s i j v w a b hij hi hj ha hb => ?_⟩
    · rcases i with _ | i <;> exact map_ok_of_map_ok h
    · simp only [List.length_cons, List.length_nil] at hi hj
      rcases i with _ | _ | i <;> rcases j with _ | _ | j <;> simp only at ha hb ⊢ <;>
        first
        | exact absurd rfl hij
        | omega
        | exact map_commute ha hb (by rintro p q rfl rfl; rfl)
  · refine foldlM_append_ok _ _ [("contentType", _)] [("value", _)] _ (some contentType, none) _
      ?_ ?_
    · rw [foldlM_required _ _ "contentType" 0 (by rw [contentSpec_index?]; rfl)]
      rfl
    · rw [foldlM_required _ _ "value" 1 (by rw [contentSpec_index?]; rfl)]
      rfl
  · rw [decodeElementAttrs_flat attrs rest hRest]
    rfl

theorem decodeReferenceElement_perm (fl : Flavour) (r : ReferenceElement)
    (kept : List (String × Node))
    (hKept : kept.Perm ((r.attrs.fields ++ [("value", r.value.toNode)]).map sortedEntry)) :
    decodeReferenceElement (.node fl (.obj kept none)) = .ok r := by
  have hOwn := single_keys "value" r.value.toNode
  rw [decodeReferenceElement]
  dsimp only
  refine bind_pair_ok (Source.mapped_node_perm ⟨"ReferenceElement", [.required "value"]⟩ _ none
    _ _ (some r.value) (known_of_keys _ hOwn (by decide))
    (indices_nodup_of_keys _ hOwn (by decide)) ?_ ?_ rfl kept
    (perm_sorted_split hKept (List.Perm.refl _))
    (unknown_of_keys _ r.attrs.keys_sublist (by decide))
    (clean_of_encoded r.attrs.fields_encoded) fl) fun rest hRest => ?_
  · refine ⟨fun s s' i v a h => map_ok_of_map_ok h, fun s i j v w a b hij hi hj ha hb => ?_⟩
    simp only [List.length_cons, List.length_nil] at hi hj
    omega
  · rw [foldlM_required _ _ "value" 0 (by decide)]
    exact congrArg (Except.map _) (decodeReference_sorted _ r.value)
  · rw [decodeElementAttrs_flat r.attrs rest hRest]
    rfl

theorem decodeRelationship_perm (fl : Flavour) (r : RelationshipElement)
    (kept : List (String × Node))
    (hKept : kept.Perm
      ((r.attrs.fields ++ [("first", r.first.toNode), ("second", r.second.toNode)]).map sortedEntry)) :
    decodeRelationship (.node fl (.obj kept none)) = .ok r := by
  have hOwn : ([("first", r.first.toNode), ("second", r.second.toNode)].map Prod.fst).Sublist
      ["first", "second"] := List.Sublist.refl _
  rw [decodeRelationship]
  dsimp only
  refine bind_pair_ok (Source.mapped_node_perm
    ⟨"RelationshipElement", [.required "first", .required "second"]⟩ _ (none, none) _ _
    (some r.first, some r.second) (known_of_keys _ hOwn (by decide))
    (indices_nodup_of_keys _ hOwn (by decide)) ?_ ?_ rfl kept
    (perm_sorted_split hKept (List.Perm.refl _))
    (unknown_of_keys _ r.attrs.keys_sublist (by decide))
    (clean_of_encoded r.attrs.fields_encoded) fl) fun rest hRest => ?_
  · refine ⟨fun s s' i v a h => ?_, fun s i j v w a b hij hi hj ha hb => ?_⟩
    · rcases i with _ | i <;> exact map_ok_of_map_ok h
    · simp only [List.length_cons, List.length_nil] at hi hj
      rcases i with _ | _ | i <;> rcases j with _ | _ | j <;> simp only at ha hb ⊢ <;>
        first
        | exact absurd rfl hij
        | omega
        | exact map_commute ha hb (by rintro p q rfl rfl; rfl)
  · refine foldlM_append_ok _ _ [("first", _)] [("second", _)] _ (some r.first, none) _ ?_ ?_
    · rw [foldlM_required _ _ "first" 0 (by decide)]
      exact congrArg (Except.map _) (decodeReference_sorted _ r.first)
    · rw [foldlM_required _ _ "second" 1 (by decide)]
      exact congrArg (Except.map _) (decodeReference_sorted _ r.second)
  · rw [decodeElementAttrs_flat r.attrs rest hRest]
    rfl

/-! ## Collections and lists -/

theorem Element.toNodes_eq_map (xs : List Element) : Element.toNodes xs = xs.map Element.toNode := by
  induction xs with
  | nil => rfl
  | cons x xs ih => rw [Element.toNodes, ih, List.map_cons]

/-- The items of a collection or list are written as a list field. -/
theorem itemsField_toNodes (xs : List Element) :
    itemsField (Element.toNodes xs) = listField "value" Element.toNode xs := by
  cases xs with
  | nil => rfl
  | cons x xs =>
    rw [Element.toNodes_eq_map, listField]
    · rfl
    · exact List.cons_ne_nil x xs

section Containers

variable (item : Flavour → Node → Decoded Element) (fl : Flavour)

theorem decodeCollectionWith_perm (a : ElementAttrs) (o : Bool) (xs : List Element)
    (kept : List (String × Node))
    (hKept : kept.Perm
      ((a.fields ++ [("orderRelevant", Node.bool o)] ++ itemsField (Element.toNodes xs)).map sortedEntry))
    (hItems : ∀ x ∈ xs, item fl x.toNode.sorted = .ok x) :
    decodeCollectionWith item (.node fl (.obj kept none)) = .ok (a, o, xs) := by
  rw [itemsField_toNodes] at hKept
  have hOwn := keys_append (single_keys "orderRelevant" (.bool o))
    (listField_keys "value" Element.toNode xs)
  rw [decodeCollectionWith]
  dsimp only
  refine bind_pair_ok (Source.mapped_node_perm collectionSpec _ (true, []) _ _ (o, xs)
    (known_of_keys collectionSpec hOwn (by decide))
    (indices_nodup_of_keys collectionSpec hOwn (by decide)) ?_ ?_ rfl kept
    (perm_sorted_split hKept (List.Perm.of_eq (by simp only [List.append_assoc])))
    (unknown_of_keys collectionSpec a.keys_sublist (by decide))
    (clean_of_encoded a.fields_encoded) fl) fun rest hRest => ?_
  · refine ⟨fun s s' i v a h => ?_, fun s i j v w a b hij hi hj ha hb => ?_⟩
    · rcases i with _ | i <;> exact map_ok_of_map_ok h
    · simp only [collectionSpec, List.length_cons, List.length_nil] at hi hj
      rcases i with _ | _ | i <;> rcases j with _ | _ | j <;> simp only at ha hb ⊢ <;>
        first
        | exact absurd rfl hij
        | omega
        | exact map_commute ha hb (by rintro p q rfl rfl; rfl)
  · refine foldlM_append_ok collectionSpec _ _ _ _ (o, []) _ ?_ ?_
    · rw [foldlM_required collectionSpec _ "orderRelevant" 0 (by decide)]
      rfl
    · exact foldlM_listField collectionSpec _ "value" 1 (by decide) _ _ _ _
        (fun _ => congrArg (Except.map _) (decodeSeq_sorted _ _ _ hItems)) (fun h => by rw [h])
  · rw [decodeElementAttrs_flat a rest hRest]
    rfl

theorem variantNamed_elementKind_name (k : ElementKind) :
    variantNamed elementKindTable k.name = .ok k := by
  cases k <;> rfl

theorem decodeOption_elementKind_sorted (k : ElementKind) :
    decodeOption (decodeElementKind fl) k.toNode.sorted = .ok (some k) :=
  congrArg (Except.map some) (variantNamed_elementKind_name k)

theorem ListShape.keys_sublist (sh : ListShape) :
    (sh.fields.map Prod.fst).Sublist
      (["typeValueListElement"] ++ ["semanticIdListElement"] ++ ["valueTypeListElement"]) :=
  keys_append (keys_append (optField_keys _ _ _) (optField_keys _ _ _)) (optField_keys _ _ _)

theorem ListShape.fields_encoded (sh : ListShape) : ∀ p ∈ sh.fields, p.2.Encoded :=
  List.forall_mem_append.mpr ⟨List.forall_mem_append.mpr ⟨optField_encoded _ _ _ fun _ => trivial,
    optField_encoded _ _ _ Reference.toNode_encoded⟩, optField_encoded _ _ _ fun _ => trivial⟩

theorem decodeListWith_perm (a : ElementAttrs) (o : Bool) (sh : ListShape) (xs : List Element)
    (kept : List (String × Node))
    (hKept : kept.Perm ((a.fields ++ [("orderRelevant", Node.bool o)] ++ sh.fields ++
      itemsField (Element.toNodes xs)).map sortedEntry))
    (hItems : ∀ x ∈ xs, item fl x.toNode.sorted = .ok x) :
    decodeListWith item (.node fl (.obj kept none)) = .ok (a, o, sh, xs) := by
  rw [itemsField_toNodes] at hKept
  have hOwn := keys_append (keys_append (keys_append (keys_append
    (single_keys "orderRelevant" (.bool o))
    (optField_keys "typeValueListElement" ElementKind.toNode sh.typeValueListElement))
    (optField_keys "semanticIdListElement" Reference.toNode sh.semanticIdListElement))
    (optField_keys "valueTypeListElement" Datatype.toNode sh.valueTypeListElement))
    (listField_keys "value" Element.toNode xs)
  rw [decodeListWith]
  dsimp only
  refine bind_pair_ok (Source.mapped_node_perm listSpec _ (true, {}, []) _ _
    ((o, ⟨sh.typeValueListElement, sh.semanticIdListElement, sh.valueTypeListElement⟩, xs) :
      Bool × ListShape × List Element)
    (known_of_keys listSpec hOwn (by decide))
    (indices_nodup_of_keys listSpec hOwn (by decide)) ?_ ?_ rfl kept
    (perm_sorted_split hKept
      (List.Perm.of_eq (by simp only [ListShape.fields, List.append_assoc])))
    (unknown_of_keys listSpec a.keys_sublist (by decide))
    (clean_of_encoded a.fields_encoded) fl) fun rest hRest => ?_
  · refine ⟨fun s s' i v a h => ?_, fun s i j v w a b hij hi hj ha hb => ?_⟩
    · rcases i with _ | _ | _ | _ | i <;> exact map_ok_of_map_ok h
    · simp only [listSpec, List.length_cons, List.length_nil] at hi hj
      rcases i with _ | _ | _ | _ | _ | i <;> rcases j with _ | _ | _ | _ | _ | j <;>
        simp only at ha hb ⊢ <;>
        first
        | exact absurd rfl hij
        | omega
        | exact map_commute ha hb (by rintro p q rfl rfl; rfl)
  · refine foldlM_append_ok listSpec _ _ _ _
      (o, ⟨sh.typeValueListElement, sh.semanticIdListElement, sh.valueTypeListElement⟩, []) _ ?_ ?_
    · refine foldlM_append_ok listSpec _ _ _ _
        (o, ⟨sh.typeValueListElement, sh.semanticIdListElement, none⟩, []) _ ?_ ?_
      · refine foldlM_append_ok listSpec _ _ _ _ (o, ⟨sh.typeValueListElement, none, none⟩, []) _
          ?_ ?_
        · refine foldlM_append_ok listSpec _ _ _ _ (o, {}, []) _ ?_ ?_
          · rw [foldlM_required listSpec _ "orderRelevant" 0 (by decide)]
            rfl
          · refine foldlM_optField listSpec _ "typeValueListElement" 1 (by decide) _ _ _ _
              (fun k hk => ?_) (fun h => by rw [h])
            rw [hk]
            exact congrArg (Except.map _) (decodeOption_elementKind_sorted fl k)
        · refine foldlM_optField listSpec _ "semanticIdListElement" 2 (by decide) _ _ _ _
            (fun r hr => ?_) (fun h => by rw [h])
          rw [hr]
          exact congrArg (Except.map _) (decodeOption_reference_sorted _ r)
      · refine foldlM_optField listSpec _ "valueTypeListElement" 3 (by decide) _ _ _ _
          (fun t ht => ?_) (fun h => by rw [h])
        rw [ht]
        exact congrArg (Except.map _) (decodeOption_datatype_sorted t)
    · exact foldlM_listField listSpec _ "value" 4 (by decide) _ _ _ _
        (fun _ => congrArg (Except.map _) (decodeSeq_sorted _ _ _ hItems)) (fun h => by rw [h])
  · rw [decodeElementAttrs_flat a rest hRest]
    rfl

end Containers

/-! ## Elements as written -/

theorem Element.toNode_eq (e : Element) :
    e.toNode = .object (("modelType", .str e.kind.name) :: e.fields) := by
  cases e <;> rfl

theorem itemsField_keys (items : List Node) : ((itemsField items).map Prod.fst).Sublist ["value"] := by
  cases items <;> simp [itemsField]

theorem itemsField_encoded (items : List Node) (h : ∀ n ∈ items, n.Encoded) :
    ∀ p ∈ itemsField items, p.2.Encoded := by
  cases items with
  | nil => simp [itemsField]
  | cons n ns =>
    simp only [itemsField, List.mem_singleton]
    rintro p rfl
    exact (encoded_array _).mpr h

theorem Element.fields_keys (e : Element) :
    ∃ keys : List String, (e.fields.map Prod.fst).Sublist keys ∧ ("modelType" :: keys).Nodup := by
  cases e with
  | property p =>
    exact ⟨_, keys_append (keys_append (keys_append p.attrs.keys_sublist (single_keys _ _))
      (optField_keys _ _ _)) (optField_keys _ _ _), by decide⟩
  | multiLanguageProperty p =>
    exact ⟨_, keys_append (keys_append p.attrs.keys_sublist (listField_keys _ _ _))
      (optField_keys _ _ _), by decide⟩
  | range r =>
    exact ⟨_, keys_append (keys_append (keys_append r.attrs.keys_sublist (single_keys _ _))
      (optField_keys _ _ _)) (optField_keys _ _ _), by decide⟩
  | file f =>
    exact ⟨_, keys_append f.attrs.keys_sublist
      (keys_append (single_keys "contentType" _) (single_keys "value" _)), by decide⟩
  | blob b =>
    exact ⟨_, keys_append b.attrs.keys_sublist
      (keys_append (single_keys "contentType" _) (single_keys "value" _)), by decide⟩
  | referenceElement r =>
    exact ⟨_, keys_append r.attrs.keys_sublist (single_keys "value" _), by decide⟩
  | relationship r =>
    exact ⟨_, keys_append r.attrs.keys_sublist
      (keys_append (single_keys "first" _) (single_keys "second" _)), by decide⟩
  | collection a o xs =>
    exact ⟨_, keys_append (keys_append a.keys_sublist (single_keys _ _)) (itemsField_keys _),
      by decide⟩
  | list a o sh xs =>
    exact ⟨_, keys_append (keys_append (keys_append a.keys_sublist (single_keys _ _))
      sh.keys_sublist) (itemsField_keys _), by decide⟩

mutual

theorem Element.fields_encoded : ∀ e : Element, ∀ p ∈ e.fields, p.2.Encoded
  | .property p =>
    List.forall_mem_append.mpr ⟨List.forall_mem_append.mpr ⟨List.forall_mem_append.mpr
      ⟨p.attrs.fields_encoded, by simp [Datatype.toNode, encoded_str]⟩,
      optField_encoded _ _ _ encoded_str⟩, optField_encoded _ _ _ Reference.toNode_encoded⟩
  | .multiLanguageProperty p =>
    List.forall_mem_append.mpr ⟨List.forall_mem_append.mpr ⟨p.attrs.fields_encoded,
      listField_encoded _ _ _ fun l _ => LangString.toNode_encoded l⟩,
      optField_encoded _ _ _ Reference.toNode_encoded⟩
  | .range r =>
    List.forall_mem_append.mpr ⟨List.forall_mem_append.mpr ⟨List.forall_mem_append.mpr
      ⟨r.attrs.fields_encoded, by simp [Datatype.toNode, encoded_str]⟩,
      optField_encoded _ _ _ encoded_str⟩, optField_encoded _ _ _ encoded_str⟩
  | .file f => List.forall_mem_append.mpr ⟨f.attrs.fields_encoded, by simp [encoded_str]⟩
  | .blob b => List.forall_mem_append.mpr ⟨b.attrs.fields_encoded, by simp [encoded_str]⟩
  | .referenceElement r =>
    List.forall_mem_append.mpr ⟨r.attrs.fields_encoded, by simp [Reference.toNode_encoded]⟩
  | .relationship r =>
    List.forall_mem_append.mpr ⟨r.attrs.fields_encoded, by simp [Reference.toNode_encoded]⟩
  | .collection a _ xs =>
    List.forall_mem_append.mpr ⟨List.forall_mem_append.mpr ⟨a.fields_encoded,
      by simp [encoded_bool]⟩, itemsField_encoded _ (Element.toNodes_encoded xs)⟩
  | .list a _ sh xs =>
    List.forall_mem_append.mpr ⟨List.forall_mem_append.mpr ⟨List.forall_mem_append.mpr
      ⟨a.fields_encoded, by simp [encoded_bool]⟩, sh.fields_encoded⟩,
      itemsField_encoded _ (Element.toNodes_encoded xs)⟩

theorem Element.toNodes_encoded : ∀ xs : List Element, ∀ n ∈ Element.toNodes xs, n.Encoded
  | [] => by simp [Element.toNodes]
  | x :: xs => by
    have hHead : x.toNode.Encoded := by
      obtain ⟨keys, hSub, hNodup⟩ := x.fields_keys
      rw [Element.toNode_eq]
      exact encoded_of_keys _ ("modelType" :: keys) (List.Sublist.cons_cons _ hSub) hNodup
        (List.forall_mem_cons.mpr ⟨encoded_str _, Element.fields_encoded x⟩)
    simp only [Element.toNodes, List.mem_cons]
    rintro n (rfl | hn)
    · exact hHead
    · exact Element.toNodes_encoded xs n hn

end

theorem Element.toNode_encoded (e : Element) : e.toNode.Encoded :=
  Element.toNodes_encoded [e] e.toNode (by simp [Element.toNodes])

theorem Element.untagged (e : Element) :
    ∀ p ∈ e.fields.map sortedEntry, p.1 ≠ "modelType" ∧ p.2.fault? = none := by
  obtain ⟨keys, hSub, hNodup⟩ := e.fields_keys
  intro p hp
  refine ⟨?_, clean_of_encoded e.fields_encoded p hp⟩
  obtain ⟨q, hq, rfl⟩ := List.mem_map.mp hp
  intro hKey
  have hMem : q.1 ∈ keys := hSub.subset (List.mem_map_of_mem hq)
  exact (List.nodup_cons.mp hNodup).1 (hKey ▸ hMem)

theorem decodeTag_element (fl : Flavour) (e : Element) :
    decodeTag fl elementTagTable (.str e.kind.name) = .ok e.kind := by
  cases e <;> rfl

/-- The items of a collection or list lie two levels below it. -/
theorem depth_item_le {es : List (String × Node)} {xs : List Element} {x : Element}
    (hx : x ∈ xs) (hMem : sortedEntry ("value", Node.array (xs.map Element.toNode)) ∈ es) :
    x.toNode.sorted.depth + 2 ≤ (Node.obj es none).depth := by
  have hField := depth_le_fieldsDepth es _ hMem
  have hItem := depth_le_itemsDepth ((xs.map Element.toNode).map Node.sorted) x.toNode.sorted
    (List.mem_map_of_mem (List.mem_map_of_mem hx))
  rw [sortedEntry, sorted_array] at hField
  simp only [Node.depth] at hField ⊢
  omega

theorem value_mem_itemsField (pre : List (String × Node)) {xs : List Element} {x : Element}
    (hx : x ∈ xs) :
    ("value", Node.array (xs.map Element.toNode)) ∈ pre ++ itemsField (Element.toNodes xs) := by
  rw [itemsField_toNodes]
  cases xs with
  | nil => cases hx
  | cons y ys => simp [listField]

/-- An element decodes from its sorted form as itself, given more fuel than its depth. -/
theorem decodeElementFuel_sorted (fuel : Nat) :
    ∀ (fl : Flavour) (e : Element), e.toNode.sorted.depth < fuel →
      decodeElementFuel fuel fl e.toNode.sorted = .ok e := by
  induction fuel with
  | zero =>
    intro fl e hDepth
    exact absurd hDepth (Nat.not_lt_zero _)
  | succ fuel ih =>
    intro fl e hDepth
    obtain ⟨es, hEq, hes⟩ := sorted_object_perm (("modelType", .str e.kind.name) :: e.fields)
    rw [Element.toNode_eq, hEq] at hDepth ⊢
    obtain ⟨kept, hKept, hTagged⟩ := decodeTagged_perm fl "SubmodelElement" "modelType"
      elementTagTable es (e.fields.map sortedEntry) (.str e.kind.name) e.kind hes e.untagged
      (decodeTag_element fl e)
    -- the items of a container are read one level of fuel down
    have hItems : ∀ (pre : List (String × Node)) (xs : List Element),
        e.fields = pre ++ itemsField (Element.toNodes xs) →
          ∀ x ∈ xs, decodeElementFuel fuel .content x.toNode.sorted = .ok x := by
      intro pre xs hFields x hx
      have hMem : sortedEntry ("value", Node.array (xs.map Element.toNode)) ∈ es :=
        hes.mem_iff.mpr (List.mem_cons_of_mem _ (List.mem_map_of_mem
          (hFields ▸ value_mem_itemsField pre hx)))
      have hBelow := depth_item_le hx hMem
      exact ih .content x (by omega)
    rw [decodeElementFuel]
    simp only [hTagged, except_ok_bind]
    cases e with
    | property p => exact congrArg (Except.map _) (decodeProperty_perm .content p kept hKept)
    | multiLanguageProperty p =>
      exact congrArg (Except.map _) (decodeMultiLanguage_perm .content p kept hKept)
    | range r => exact congrArg (Except.map _) (decodeRange_perm .content r kept hKept)
    | file f =>
      simp only [Element.kind, decodeElementOf, decodeFile,
        decodeContent_perm .content "File" f.attrs f.contentType f.value kept hKept, except_ok_bind]
      rfl
    | blob b =>
      simp only [Element.kind, decodeElementOf, decodeBlob,
        decodeContent_perm .content "Blob" b.attrs b.contentType b.value kept hKept, except_ok_bind]
      rfl
    | referenceElement r =>
      exact congrArg (Except.map _) (decodeReferenceElement_perm .content r kept hKept)
    | relationship r =>
      exact congrArg (Except.map _) (decodeRelationship_perm .content r kept hKept)
    | collection a o xs =>
      exact congrArg (Except.map _) (decodeCollectionWith_perm _ .content a o xs kept hKept
        (hItems _ xs rfl))
    | list a o sh xs =>
      exact congrArg (Except.map _) (decodeListWith_perm _ .content a o sh xs kept hKept
        (hItems _ xs rfl))

theorem decodeElement_sorted (fl : Flavour) (e : Element) :
    decodeElement fl e.toNode.sorted = .ok e :=
  decodeElementFuel_sorted _ fl e (Nat.lt_succ_self _)

end AdminShell
