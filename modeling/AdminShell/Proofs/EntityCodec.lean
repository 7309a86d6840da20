import AdminShell.Proofs.ElementCodec
import AdminShell.Model.Decode.Identifiable

/-! # Identifiable entities read back

Shells, submodels and concept descriptions decode from the sorted form of their written
objects as themselves, their identity read from the entries they hand on; the tagged
`Identifiable` splits its tag off first, as elements do. Asset information, its specific
identifiers and thumbnails are plain objects inside a shell.
-/

namespace AdminShell

open Json StructSpec

set_option autoImplicit false

/-! ## What a shell says about its asset -/

theorem Resource.toNode_encoded (r : Resource) : r.toNode.Encoded := by
  simp [Resource.toNode, encoded_object, encoded_str]

theorem decodeResource_sorted (fl : Flavour) (r : Resource) :
    decodeResource fl r.toNode.sorted = .ok r := by
  have hKeys : ([("path", Node.str r.path), ("contentType", Node.str r.contentType)].map
      Prod.fst).Sublist ["path", "contentType"] := List.Sublist.refl _
  rw [Resource.toNode, decodeResource]
  dsimp only
  rw [Source.plain_sorted ⟨"Resource", [.required "path", .required "contentType"]⟩ _ (none, none)
    fl _ (some r.path, some r.contentType) (known_of_keys _ hKeys (by decide))
    (indices_nodup_of_keys _ hKeys (by decide)) ?_ ?_ rfl]
  · rfl
  · refine ⟨fun s s' i v a h => ?_, fun s i j v w a b hij hi hj ha hb => ?_⟩
    · rcases i with _ | i <;> exact map_ok_of_map_ok h
    · simp only [List.length_cons, List.length_nil] at hi hj
      rcases i with _ | _ | i <;> rcases j with _ | _ | j <;> simp only at ha hb ⊢ <;>
        first
        | exact absurd rfl hij
        | omega
        | exact map_commute ha hb (by rintro p q rfl rfl; rfl)
  · refine foldlM_append_ok _ _ [("path", _)] [("contentType", _)] _ (some r.path, none) _ ?_ ?_
    · rw [foldlM_required _ _ "path" 0 (by decide)]
      rfl
    · rw [foldlM_required _ _ "contentType" 1 (by decide)]
      rfl

theorem SpecificAssetId.toNode_encoded (a : SpecificAssetId) : a.toNode.Encoded :=
  encoded_of_keys _ _ (keys_append (keys_append (keys_append (single_keys "name" (.str a.name))
    (single_keys "value" (.str a.value)))
    (optField_keys "externalSubjectId" Reference.toNode a.externalSubjectId))
    a.semantics.keys_sublist) (by decide)
    (List.forall_mem_append.mpr ⟨List.forall_mem_append.mpr
      ⟨by simp [encoded_str], optField_encoded _ _ _ Reference.toNode_encoded⟩,
      a.semantics.fields_encoded⟩)

theorem decodeSpecificAssetId_sorted (fl : Flavour) (a : SpecificAssetId) :
    decodeSpecificAssetId fl a.toNode.sorted = .ok a := by
  have hOwn := keys_append (keys_append (single_keys "name" (.str a.name))
    (single_keys "value" (.str a.value)))
    (optField_keys "externalSubjectId" Reference.toNode a.externalSubjectId)
  rw [SpecificAssetId.toNode, decodeSpecificAssetId]
  dsimp only
  refine bind_pair_ok (Source.mapped_sorted ⟨"SpecificAssetId", [.required "name",
    .required "value", .withDefault "externalSubjectId"]⟩ _ {} fl _ _
    (⟨some a.name, some a.value, a.externalSubjectId⟩ : SpecificAssetIdDraft)
    (known_of_keys _ hOwn (by decide)) (indices_nodup_of_keys _ hOwn (by decide)) ?_ ?_ rfl
    (unknown_of_keys _ a.semantics.keys_sublist (by decide))
    a.semantics.fields_encoded) fun rest hRest => ?_
  · refine ⟨fun s s' i v a h => ?_, fun s i j v w a b hij hi hj ha hb => ?_⟩
    · rcases i with _ | _ | i <;> exact map_ok_of_map_ok h
    · simp only [List.length_cons, List.length_nil] at hi hj
      rcases i with _ | _ | _ | i <;> rcases j with _ | _ | _ | j <;> simp only at ha hb ⊢ <;>
        first
        | exact absurd rfl hij
        | omega
        | exact map_commute ha hb (by rintro p q rfl rfl; rfl)
  · refine foldlM_append_ok _ _ _ _ _ { name := some a.name, value := some a.value } _ ?_ ?_
    · refine foldlM_append_ok _ _ [("name", _)] [("value", _)] _ { name := some a.name } _ ?_ ?_
      · rw [foldlM_required _ _ "name" 0 (by decide)]
        rfl
      · rw [foldlM_required _ _ "value" 1 (by decide)]
        rfl
    · refine foldlM_optField _ _ "externalSubjectId" 2 (by decide) _ _ _ _ (fun r hr => ?_)
        (fun h => by rw [h])
      rw [hr]
      exact congrArg (Except.map _) (decodeOption_reference_sorted _ r)
  · obtain ⟨_, -, hSemantics⟩ :=
      decodeSemantics_flat a.semantics [] rest (by simpa using hRest) (by simp)
    simp only [hSemantics, except_ok_bind]
    rfl

theorem variantNamed_modellingKind_name (k : ModellingKind) :
    variantNamed modellingKindTable k.name = .ok k := by
  cases k <;> rfl

theorem variantNamed_assetKind_name (k : AssetKind) :
    variantNamed assetKindTable k.name = .ok k := by
  cases k <;> rfl

theorem AssetInformation.toNode_encoded (a : AssetInformation) : a.toNode.Encoded :=
  encoded_of_keys _ _ (keys_append (keys_append (keys_append (keys_append
    (single_keys "assetKind" a.assetKind.toNode) (optField_keys _ _ _)) (listField_keys _ _ _))
    (optField_keys _ _ _)) (optField_keys _ _ _)) (by decide)
    (List.forall_mem_append.mpr ⟨List.forall_mem_append.mpr ⟨List.forall_mem_append.mpr
      ⟨List.forall_mem_append.mpr ⟨by simp [AssetKind.toNode, encoded_str],
        optField_encoded _ _ _ encoded_str⟩,
        listField_encoded _ _ _ fun s _ => SpecificAssetId.toNode_encoded s⟩,
      optField_encoded _ _ _ encoded_str⟩, optField_encoded _ _ _ Resource.toNode_encoded⟩)

theorem decodeAssetInformation_sorted (fl : Flavour) (a : AssetInformation) :
    decodeAssetInformation fl a.toNode.sorted = .ok a := by
  have hKeys := keys_append (keys_append (keys_append (keys_append
    (single_keys "assetKind" a.assetKind.toNode)
    (optField_keys "globalAssetId" .str a.globalAssetId))
    (listField_keys "specificAssetIds" SpecificAssetId.toNode a.specificAssetIds))
    (optField_keys "assetType" .str a.assetType))
    (optField_keys "defaultThumbnail" Resource.toNode a.defaultThumbnail)
  rw [AssetInformation.toNode, decodeAssetInformation]
  dsimp only
  rw [Source.plain_sorted assetInformationSpec _ {} fl _
    (⟨some a.assetKind, a.globalAssetId, a.specificAssetIds, a.assetType, a.defaultThumbnail⟩ :
      AssetInformationDraft)
    (known_of_keys assetInformationSpec hKeys (by decide))
    (indices_nodup_of_keys assetInformationSpec hKeys (by decide)) ?_ ?_ ?_]
  · rfl
  · refine ⟨fun s s' i v a h => ?_, fun s i j v w a b hij hi hj ha hb => ?_⟩
    · rcases i with _ | _ | _ | _ | i <;> exact map_ok_of_map_ok h
    · simp only [assetInformationSpec, List.length_cons, List.length_nil] at hi hj
      rcases i with _ | _ | _ | _ | _ | i <;> rcases j with _ | _ | _ | _ | _ | j <;>
        simp only at ha hb ⊢ <;>
        first
        | exact absurd rfl hij
        | omega
        | exact map_commute ha hb (by rintro p q rfl rfl; rfl)
  · refine foldlM_append_ok assetInformationSpec _ _ _ _
      { assetKind := some a.assetKind, globalAssetId := a.globalAssetId,
        specificAssetIds := a.specificAssetIds, assetType := a.assetType } _ ?_ ?_
    · refine foldlM_append_ok assetInformationSpec _ _ _ _
        { assetKind := some a.assetKind, globalAssetId := a.globalAssetId,
          specificAssetIds := a.specificAssetIds } _ ?_ ?_
      · refine foldlM_append_ok assetInformationSpec _ _ _ _
          { assetKind := some a.assetKind, globalAssetId := a.globalAssetId } _ ?_ ?_
        · refine foldlM_append_ok assetInformationSpec _ _ _ _ { assetKind := some a.assetKind } _
            ?_ ?_
          · rw [foldlM_required assetInformationSpec _ "assetKind" 0 (by decide)]
            exact congrArg (Except.map _) (variantNamed_assetKind_name a.assetKind)
          · refine foldlM_optField assetInformationSpec _ "globalAssetId" 1 (by decide) _ _ _ _
              (fun x hx => ?_) (fun h => by rw [h])
            rw [hx]
            rfl
        · exact foldlM_listField assetInformationSpec _ "specificAssetIds" 2 (by decide) _ _ _ _
            (fun _ => congrArg (Except.map _)
              (decodeSeq_sorted _ _ _ fun s _ => decodeSpecificAssetId_sorted fl s))
            (fun h => by rw [h])
      · refine foldlM_optField assetInformationSpec _ "assetType" 3 (by decide) _ _ _ _
          (fun x hx => ?_) (fun h => by rw [h])
        rw [hx]
        rfl
    · refine foldlM_optField assetInformationSpec _ "defaultThumbnail" 4 (by decide) _ _ _ _
        (fun r hr => ?_) (fun h => by rw [h])
      rw [hr, decodeOption_of_ne_null _ _ (by simp [Resource.toNode, sorted_obj]),
        decodeResource_sorted]
      rfl
  · refine checkMissing_of_written assetInformationSpec _ [0] rfl ?_
    simp only [List.mem_singleton]
    rintro i rfl
    exact ⟨"assetKind", a.assetKind.toNode, by decide, by simp⟩

/-! ## Shells, submodels and concept descriptions -/

theorem decodeShell_perm (fl : Flavour) (s : Shell) (kept : List (String × Node))
    (hKept : kept.Perm (s.fields.map sortedEntry)) :
    decodeShell (.node fl (.obj kept none)) = .ok s := by
  have hOwn := keys_append (keys_append (keys_append
    (single_keys "assetInformation" s.assetInformation.toNode)
    (optField_keys "derivedFrom" Reference.toNode s.derivedFrom))
    (listField_keys "submodels" Reference.toNode s.submodels))
    (listField_keys "dataSpecifications" Reference.toNode s.dataSpecifications)
  rw [decodeShell]
  dsimp only
  refine bind_pair_ok (Source.mapped_node_perm shellSpec _ {} _ _
    (⟨some s.assetInformation, s.derivedFrom, s.submodels, s.dataSpecifications⟩ : ShellDraft)
    (known_of_keys shellSpec hOwn (by decide))
    (indices_nodup_of_keys shellSpec hOwn (by decide)) ?_ ?_ ?_ kept
    (perm_sorted_split hKept (List.Perm.of_eq (by simp only [Shell.fields, List.append_assoc])))
    (unknown_of_keys shellSpec s.identity.keys_sublist (by decide))
    (clean_of_encoded s.identity.fields_encoded) fl) fun rest hRest => ?_
  · refine ⟨fun s s' i v a h => ?_, fun s i j v w a b hij hi hj ha hb => ?_⟩
    · rcases i with _ | _ | _ | i <;> exact map_ok_of_map_ok h
    · simp only [shellSpec, List.length_cons, List.length_nil] at hi hj
      rcases i with _ | _ | _ | _ | i <;> rcases j with _ | _ | _ | _ | j <;>
        simp only at ha hb ⊢ <;>
        first
        | exact absurd rfl hij
        | omega
        | exact map_commute ha hb (by rintro p q rfl rfl; rfl)
  · refine foldlM_append_ok shellSpec _ _ _ _
      { assetInformation := some s.assetInformation, derivedFrom := s.derivedFrom,
        submodels := s.submodels } _ ?_ ?_
    · refine foldlM_append_ok shellSpec _ _ _ _
        { assetInformation := some s.assetInformation, derivedFrom := s.derivedFrom } _ ?_ ?_
      · refine foldlM_append_ok shellSpec _ _ _ _ { assetInformation := some s.assetInformation } _
          ?_ ?_
        · rw [foldlM_required shellSpec _ "assetInformation" 0 (by decide)]
          exact congrArg (Except.map _) (decodeAssetInformation_sorted _ s.assetInformation)
        · refine foldlM_optField shellSpec _ "derivedFrom" 1 (by decide) _ _ _ _
            (fun r hr => ?_) (fun h => by rw [h])
          rw [hr]
          exact congrArg (Except.map _) (decodeOption_reference_sorted _ r)
      · exact foldlM_listField shellSpec _ "submodels" 2 (by decide) _ _ _ _
          (fun _ => congrArg (Except.map _) (decodeSeq_references_sorted _ _)) (fun h => by rw [h])
    · exact foldlM_listField shellSpec _ "dataSpecifications" 3 (by decide) _ _ _ _
        (fun _ => congrArg (Except.map _) (decodeSeq_references_sorted _ _)) (fun h => by rw [h])
  · refine checkMissing_of_written shellSpec _ [0] rfl ?_
    simp only [List.mem_singleton]
    rintro i rfl
    exact ⟨"assetInformation", s.assetInformation.toNode, by decide, by simp⟩
  · rw [decodeIdentity_flat s.identity [] rest (by simpa using hRest) (by simp) (by simp) (by simp)]
    rfl

/-- A submodel writes its elements as a list field. -/
theorem Submodel.fields_eq (s : Submodel) :
    s.fields = s.identity.fields ++ [("kind", .str s.kind.name)] ++ s.semantics.fields ++
      listField "qualifiers" Qualifier.toNode s.qualifiers ++
      listField "dataSpecifications" Reference.toNode s.dataSpecifications ++
      listField "submodelElements" Element.toNode s.elements := by
  rw [Submodel.fields]
  simp only [Element.toNodes_eq_map]
  cases s.elements <;> rfl

theorem decodeSubmodel_perm (fl : Flavour) (s : Submodel) (kept : List (String × Node))
    (hKept : kept.Perm (s.fields.map sortedEntry)) :
    decodeSubmodel (.node fl (.obj kept none)) = .ok s := by
  rw [Submodel.fields_eq] at hKept
  have hOwn := keys_append (keys_append (keys_append (single_keys "kind" (.str s.kind.name))
    (listField_keys "qualifiers" Qualifier.toNode s.qualifiers))
    (listField_keys "dataSpecifications" Reference.toNode s.dataSpecifications))
    (listField_keys "submodelElements" Element.toNode s.elements)
  have hOthers := keys_append s.identity.keys_sublist s.semantics.keys_sublist
  rw [decodeSubmodel]
  dsimp only
  refine bind_pair_ok (Source.mapped_node_perm submodelSpec _ _ _ _
    { identity := ⟨{}, "", none⟩, kind := s.kind, qualifiers := s.qualifiers,
      dataSpecifications := s.dataSpecifications, elements := s.elements }
    (known_of_keys submodelSpec hOwn (by decide))
    (indices_nodup_of_keys submodelSpec hOwn (by decide)) ?_ ?_ rfl kept
    (perm_sorted_split hKept ?_) (unknown_of_keys submodelSpec hOthers (by decide))
    (clean_of_encoded (List.forall_mem_append.mpr
      ⟨s.identity.fields_encoded, s.semantics.fields_encoded⟩)) fl) fun rest hRest => ?_
  · refine ⟨fun s s' i v a h => ?_, fun s i j v w a b hij hi hj ha hb => ?_⟩
    · rcases i with _ | _ | _ | i <;> exact map_ok_of_map_ok h
    · simp only [submodelSpec, List.length_cons, List.length_nil] at hi hj
      rcases i with _ | _ | _ | _ | i <;> rcases j with _ | _ | _ | _ | j <;>
        simp only at ha hb ⊢ <;>
        first
        | exact absurd rfl hij
        | omega
        | exact map_commute ha hb (by rintro p q rfl rfl; rfl)
  · refine foldlM_append_ok submodelSpec _ _ _ _
      { identity := ⟨{}, "", none⟩, kind := s.kind, qualifiers := s.qualifiers,
        dataSpecifications := s.dataSpecifications } _ ?_ ?_
    · refine foldlM_append_ok submodelSpec _ _ _ _
        { identity := ⟨{}, "", none⟩, kind := s.kind, qualifiers := s.qualifiers } _ ?_ ?_
      · refine foldlM_append_ok submodelSpec _ _ _ _ { identity := ⟨{}, "", none⟩, kind := s.kind }
          _ ?_ ?_
        · rw [foldlM_required submodelSpec _ "kind" 0 (by decide)]
          exact congrArg (Except.map _) (variantNamed_modellingKind_name s.kind)
        · exact foldlM_listField submodelSpec _ "qualifiers" 1 (by decide) _ _ _ _
            (fun _ => congrArg (Except.map _)
              (decodeSeq_sorted _ _ _ fun q _ => decodeQualifier_sorted _ q)) (fun h => by rw [h])
      · exact foldlM_listField submodelSpec _ "dataSpecifications" 2 (by decide) _ _ _ _
          (fun _ => congrArg (Except.map _) (decodeSeq_references_sorted _ _)) (fun h => by rw [h])
    · exact foldlM_listField submodelSpec _ "submodelElements" 3 (by decide) _ _ _ _
        (fun _ => congrArg (Except.map _)
          (decodeSeq_sorted _ _ _ fun e _ => decodeElement_sorted _ e)) (fun h => by rw [h])
  · simp only [List.append_assoc]
    exact (List.perm_append_comm_assoc _ _ _).append_left _
  · have hIdentity := decodeIdentity_flat s.identity s.semantics.fields rest hRest
      (unknown_of_keys identitySpec s.semantics.keys_sublist (by decide))
      (unknown_of_keys referableSpec s.semantics.keys_sublist (by decide))
      s.semantics.fields_encoded
    obtain ⟨_, -, hSemantics⟩ := decodeSemantics_flat s.semantics s.identity.fields rest
      (hRest.trans (List.perm_append_comm.map _))
      (unknown_of_keys semanticsSpec s.identity.keys_sublist (by decide))
    simp only [hIdentity, hSemantics, except_ok_bind]
    rfl

theorem decodeConceptDescription_perm (fl : Flavour) (c : ConceptDescription)
    (kept : List (String × Node)) (hKept : kept.Perm (c.fields.map sortedEntry)) :
    decodeConceptDescription (.node fl (.obj kept none)) = .ok c := by
  have hOwn := keys_append (listField_keys "isCaseOf" Reference.toNode c.isCaseOf)
    (listField_keys "dataSpecifications" Reference.toNode c.dataSpecifications)
  rw [decodeConceptDescription]
  dsimp only
  refine bind_pair_ok (Source.mapped_node_perm ⟨"ConceptDescription", [.withDefault "isCaseOf",
    .aliased "dataSpecifications" ["dataSpecification"]]⟩ _ ([], []) _ _
    (c.isCaseOf, c.dataSpecifications) (known_of_keys _ hOwn (by decide))
    (indices_nodup_of_keys _ hOwn (by decide)) ?_ ?_ rfl kept
    (perm_sorted_split hKept
      (List.Perm.of_eq (by simp only [ConceptDescription.fields, List.append_assoc])))
    (unknown_of_keys _ c.identity.keys_sublist (by decide))
    (clean_of_encoded c.identity.fields_encoded) fl) fun rest hRest => ?_
  · refine ⟨fun s s' i v a h => ?_, fun s i j v w a b hij hi hj ha hb => ?_⟩
    · rcases i with _ | i <;> exact map_ok_of_map_ok h
    · simp only [List.length_cons, List.length_nil] at hi hj
      rcases i with _ | _ | i <;> rcases j with _ | _ | j <;> simp only at ha hb ⊢ <;>
        first
        | exact absurd rfl hij
        | omega
        | exact map_commute ha hb (by rintro p q rfl rfl; rfl)
  · refine foldlM_append_ok _ _ _ _ _ (c.isCaseOf, []) _ ?_ ?_
    · exact foldlM_listField _ _ "isCaseOf" 0 (by decide) _ _ _ _
        (fun _ => congrArg (Except.map _) (decodeSeq_references_sorted _ _)) (fun h => by rw [h])
    · exact foldlM_listField _ _ "dataSpecifications" 1 (by decide) _ _ _ _
        (fun _ => congrArg (Except.map _) (decodeSeq_references_sorted _ _)) (fun h => by rw [h])
  · rw [decodeIdentity_flat c.identity [] rest (by simpa using hRest) (by simp) (by simp) (by simp)]
    rfl

/-! ## Identifiable entities -/

theorem Identifiable.fields_keys (i : Identifiable) :
    ∃ keys : List String, (i.fields.map Prod.fst).Sublist keys ∧ ("modelType" :: keys).Nodup := by
  cases i with
  | shell s =>
    exact ⟨_, keys_append (keys_append (keys_append (keys_append s.identity.keys_sublist
      (single_keys _ _)) (optField_keys _ _ _)) (listField_keys _ _ _)) (listField_keys _ _ _),
      by decide⟩
  | submodel s =>
    rw [Identifiable.fields, Submodel.fields_eq]
    exact ⟨_, keys_append (keys_append (keys_append (keys_append (keys_append
      s.identity.keys_sublist (single_keys _ _)) s.semantics.keys_sublist) (listField_keys _ _ _))
      (listField_keys _ _ _)) (listField_keys _ _ _), by decide⟩
  | conceptDescription c =>
    exact ⟨_, keys_append (keys_append c.identity.keys_sublist (listField_keys _ _ _))
      (listField_keys _ _ _), by decide⟩

theorem Submodel.fields_encoded (s : Submodel) : ∀ p ∈ s.fields, p.2.Encoded := by
  rw [Submodel.fields_eq]
  exact List.forall_mem_append.mpr ⟨List.forall_mem_append.mpr ⟨List.forall_mem_append.mpr
    ⟨List.forall_mem_append.mpr ⟨List.forall_mem_append.mpr ⟨s.identity.fields_encoded,
      by simp [encoded_str]⟩, s.semantics.fields_encoded⟩,
      listField_encoded _ _ _ fun q _ => Qualifier.toNode_encoded q⟩,
      listField_encoded _ _ _ fun r _ => Reference.toNode_encoded r⟩,
      listField_encoded _ _ _ fun e _ => Element.toNode_encoded e⟩

theorem Identifiable.fields_encoded (i : Identifiable) : ∀ p ∈ i.fields, p.2.Encoded := by
  cases i with
  | shell s =>
    exact List.forall_mem_append.mpr ⟨List.forall_mem_append.mpr ⟨List.forall_mem_append.mpr
      ⟨List.forall_mem_append.mpr ⟨s.identity.fields_encoded,
        by simp [AssetInformation.toNode_encoded]⟩,
        optField_encoded _ _ _ Reference.toNode_encoded⟩,
        listField_encoded _ _ _ fun r _ => Reference.toNode_encoded r⟩,
        listField_encoded _ _ _ fun r _ => Reference.toNode_encoded r⟩
  | submodel s => exact s.fields_encoded
  | conceptDescription c =>
    exact List.forall_mem_append.mpr ⟨List.forall_mem_append.mpr ⟨c.identity.fields_encoded,
      listField_encoded _ _ _ fun r _ => Reference.toNode_encoded r⟩,
      listField_encoded _ _ _ fun r _ => Reference.toNode_encoded r⟩

theorem Identifiable.toNode_encoded (i : Identifiable) : i.toNode.Encoded := by
  obtain ⟨keys, hSub, hNodup⟩ := i.fields_keys
  exact encoded_of_keys _ ("modelType" :: keys) (List.Sublist.cons_cons _ hSub) hNodup
    (List.forall_mem_cons.mpr ⟨encoded_str _, i.fields_encoded⟩)

theorem Identifiable.untagged (i : Identifiable) :
    ∀ p ∈ i.fields.map sortedEntry, p.1 ≠ "modelType" ∧ p.2.fault? = none := by
  obtain ⟨keys, hSub, hNodup⟩ := i.fields_keys
  intro p hp
  refine ⟨?_, clean_of_encoded i.fields_encoded p hp⟩
  obtain ⟨q, hq, rfl⟩ := List.mem_map.mp hp
  intro hKey
  have hMem : q.1 ∈ keys := hSub.subset (List.mem_map_of_mem hq)
  exact (List.nodup_cons.mp hNodup).1 (hKey ▸ hMem)

theorem decodeTag_entity (fl : Flavour) (i : Identifiable) :
    decodeTag fl entityTagTable (.str i.kind.name) = .ok i.kind := by
  cases i <;> rfl

theorem decodeIdentifiable_sorted (fl : Flavour) (i : Identifiable) :
    decodeIdentifiable fl i.toNode.sorted = .ok i := by
  obtain ⟨es, hEq, hes⟩ := sorted_object_perm (("modelType", .str i.kind.name) :: i.fields)
  rw [Identifiable.toNode, hEq, decodeIdentifiable]
  obtain ⟨kept, hKept, hTagged⟩ := decodeTagged_perm fl "IdentifiableElement" "modelType"
    entityTagTable es (i.fields.map sortedEntry) (.str i.kind.name) i.kind hes i.untagged
    (decodeTag_entity fl i)
  simp only [hTagged, except_ok_bind]
  cases i with
  | shell s => exact congrArg (Except.map _) (decodeShell_perm .content s kept hKept)
  | submodel s => exact congrArg (Except.map _) (decodeSubmodel_perm .content s kept hKept)
  | conceptDescription c =>
    exact congrArg (Except.map _) (decodeConceptDescription_perm .content c kept hKept)

/-- A submodel written on its own, without its tag, decodes as itself. -/
theorem decodeSubmodel_sorted (fl : Flavour) (s : Submodel) :
    decodeSubmodel (.node fl (Node.object s.fields).sorted) = .ok s := by
  obtain ⟨es, hEq, hes⟩ := sorted_object_perm s.fields
  rw [hEq]
  exact decodeSubmodel_perm fl s es hes

end AdminShell
