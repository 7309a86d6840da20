import AdminShell.Proofs.FieldOrder
import AdminShell.Model.Encode
import AdminShell.Model.Decode.Attrs

/-! # The shared attributes read back

Each part that shells, submodels and elements share (texts in languages, keys and
references, semantics, extensions, qualifiers, referable, identifiable and element
attributes, version information) decodes from its written form, in sorted form or any
other order of its fields, as itself. A part written flattened into its owner (semantics,
referable attributes) is read from the entries its owner did not know, among entries it does
not know either, and gives those back.

Every struct is read the same way (`Source.plain_node_perm` and its siblings): its own
fields are known to it and name distinct places, those of other parts are not known to it,
its setter sets fields independently, and its walk in declaration order, computed one written
field at a time (`foldlM_required`, `foldlM_optField`, `foldlM_listField`), ends in the
entity.
-/

namespace AdminShell

open Json StructSpec

set_option autoImplicit false

/-! ## Decoded fields set independently -/

section Setters

variable {α β σ : Type}

theorem map_ok_of_map_ok {x : Decoded α} {f g : α → σ} {a : σ} (h : x.map f = .ok a) :
    ∃ b, x.map g = .ok b := by
  cases x with
  | error e => cases h
  | ok y => exact ⟨g y, rfl⟩

/-- Two decoded fields written into different parts of a state commute: writing either
into the state the other produced ends in one state. -/
theorem map_commute {x : Decoded α} {y : Decoded β} {f f' : α → σ} {g g' : β → σ} {a b : σ}
    (ha : x.map f = .ok a) (hb : y.map g = .ok b)
    (hComm : ∀ p q, f p = a → g q = b → g' q = f' p) :
    ∃ c, y.map g' = .ok c ∧ x.map f' = .ok c := by
  cases x with
  | error e => cases ha
  | ok p =>
    cases y with
    | error e => cases hb
    | ok q =>
      cases ha
      cases hb
      exact ⟨_, rfl, congrArg Except.ok (hComm p q rfl rfl).symm⟩

end Setters

/-! ## Written fields -/

section Fields

variable {σ : Type} (spec : StructSpec) (set : σ → Nat → Node → Decoded σ)

theorem keys_sortedEntry (fields : List (String × Node)) :
    (fields.map sortedEntry).map Prod.fst = fields.map Prod.fst := by
  simp [sortedEntry, Function.comp_def]

theorem optField_keys {α : Type} (key : String) (write : α → Node) (o : Option α) :
    ((optField key write o).map Prod.fst).Sublist [key] := by
  cases o <;> simp [optField]

theorem listField_keys {α : Type} (key : String) (write : α → Node) (xs : List α) :
    ((listField key write xs).map Prod.fst).Sublist [key] := by
  cases xs <;> simp [listField]

theorem optField_encoded {α : Type} (key : String) (write : α → Node) (o : Option α)
    (h : ∀ x, (write x).Encoded) : ∀ p ∈ optField key write o, p.2.Encoded := by
  cases o <;> simp [optField, h]

theorem listField_encoded {α : Type} (key : String) (write : α → Node) (xs : List α)
    (h : ∀ x ∈ xs, (write x).Encoded) : ∀ p ∈ listField key write xs, p.2.Encoded := by
  cases xs with
  | nil => simp [listField]
  | cons x xs =>
    simp only [listField, List.mem_singleton]
    rintro p rfl
    exact (encoded_array _).mpr (by simpa using h)

theorem single_keys (key : String) (n : Node) : ([(key, n)].map Prod.fst).Sublist [key] :=
  List.Sublist.refl _

theorem keys_append {l₁ l₂ : List (String × Node)} {k₁ k₂ : List String}
    (h₁ : (l₁.map Prod.fst).Sublist k₁) (h₂ : (l₂.map Prod.fst).Sublist k₂) :
    ((l₁ ++ l₂).map Prod.fst).Sublist (k₁ ++ k₂) := by
  rw [List.map_append]
  exact h₁.append h₂

theorem known_of_keys {l : List (String × Node)} {keys : List String}
    (hSub : (l.map Prod.fst).Sublist keys) (hKnown : ∀ k ∈ keys, spec.knows k = true) :
    ∀ e ∈ l.map sortedEntry, spec.knows e.1 = true :=
  List.forall_mem_map.mpr fun e he => hKnown e.1 (hSub.subset (List.mem_map_of_mem he))

theorem unknown_of_keys {l : List (String × Node)} {keys : List String}
    (hSub : (l.map Prod.fst).Sublist keys) (hUnknown : ∀ k ∈ keys, spec.knows k = false) :
    ∀ e ∈ l.map sortedEntry, spec.knows e.1 = false :=
  List.forall_mem_map.mpr fun e he => hUnknown e.1 (hSub.subset (List.mem_map_of_mem he))

theorem indices_nodup_of_keys {l : List (String × Node)} {keys : List String}
    (hSub : (l.map Prod.fst).Sublist keys) (hNodup : (keys.filterMap spec.index?).Nodup) :
    (spec.indices (l.map sortedEntry)).Nodup := by
  have hIdx : spec.indices (l.map sortedEntry) = (l.map Prod.fst).filterMap spec.index? := by
    simp [indices, List.filterMap_map, sortedEntry, Function.comp_def]
  rw [hIdx]
  exact hNodup.sublist (hSub.filterMap _)

theorem clean_of_encoded {l : List (String × Node)} (h : ∀ p ∈ l, p.2.Encoded) :
    ∀ e ∈ l.map sortedEntry, e.2.fault? = none :=
  List.forall_mem_map.mpr fun p hp => fault_sorted p.2 (h p hp)

theorem checkMissing_of_written (l : List (String × Node)) (required : List Nat)
    (hRequired : spec.checkMissing required = .ok ())
    (hWritten : ∀ i ∈ required, ∃ key n, spec.index? key = some i ∧ (key, n) ∈ l) :
    spec.checkMissing (spec.indices (l.map sortedEntry)) = .ok () := by
  refine checkMissing_mono spec _ _ (fun i hi => ?_) hRequired
  obtain ⟨key, n, hIdx, hMem⟩ := hWritten i hi
  exact List.mem_filterMap.mpr ⟨sortedEntry (key, n), List.mem_map_of_mem hMem, hIdx⟩

theorem foldlM_append_ok (l₁ l₂ : List (String × Node)) (s t u : σ)
    (h₁ : (l₁.map sortedEntry).foldlM (spec.entryStep set pass) s = .ok t)
    (h₂ : (l₂.map sortedEntry).foldlM (spec.entryStep set pass) t = .ok u) :
    ((l₁ ++ l₂).map sortedEntry).foldlM (spec.entryStep set pass) s = .ok u := by
  rw [List.map_append, List.foldlM_append, h₁]
  exact h₂

theorem foldlM_required (key : String) (i : Nat) (hIdx : spec.index? key = some i) (n : Node)
    (s : σ) : ([(key, n)].map sortedEntry).foldlM (spec.entryStep set pass) s = set s i n.sorted := by
  simp [sortedEntry, entryStep, hIdx]

theorem foldlM_optField {α : Type} (key : String) (i : Nat) (hIdx : spec.index? key = some i)
    (write : α → Node) (o : Option α) (s t : σ)
    (hSome : ∀ x, o = some x → set s i (write x).sorted = .ok t) (hNone : o = none → s = t) :
    ((optField key write o).map sortedEntry).foldlM (spec.entryStep set pass) s = .ok t := by
  cases o with
  | none =>
    rw [← hNone rfl]
    rfl
  | some x =>
    rw [optField, foldlM_required spec set key i hIdx]
    exact hSome x rfl

theorem foldlM_listField {α : Type} (key : String) (i : Nat) (hIdx : spec.index? key = some i)
    (write : α → Node) (xs : List α) (s t : σ)
    (hSome : xs ≠ [] → set s i (Node.array (xs.map write)).sorted = .ok t)
    (hNil : xs = [] → s = t) :
    ((listField key write xs).map sortedEntry).foldlM (spec.entryStep set pass) s = .ok t := by
  cases xs with
  | nil =>
    rw [← hNil rfl]
    rfl
  | cons x xs =>
    rw [listField, foldlM_required spec set key i hIdx]
    · exact hSome (List.cons_ne_nil x xs)
    · exact List.cons_ne_nil x xs

end Fields

theorem perm_sorted_split {kept fields own others : List (String × Node)}
    (hKept : kept.Perm (fields.map sortedEntry)) (h : fields.Perm (others ++ own)) :
    kept.Perm (own.map sortedEntry ++ others.map sortedEntry) := by
  rw [← List.map_append]
  exact hKept.trans ((h.trans List.perm_append_comm).map _)

theorem bind_pair_ok {σ β : Type} {x : Decoded (σ × List (String × Node))}
    {k : σ × List (String × Node) → Decoded β} {t : σ} {others : List (String × Node)} {b : β}
    (hx : ∃ rest, rest.Perm others ∧ x = .ok (t, rest))
    (hk : ∀ rest, rest.Perm others → k (t, rest) = .ok b) : (x >>= k) = .ok b := by
  obtain ⟨rest, hRest, rfl⟩ := hx
  exact hk rest hRest

/-! ## Structs written as objects -/

namespace Json.Source

open StructSpec

variable {σ : Type} (spec : StructSpec) (set : σ → Nat → Node → Decoded σ) (init : σ)

theorem plain_sorted (fl : Flavour) (fields : List (String × Node)) (t : σ)
    (hOwn : ∀ e ∈ fields.map sortedEntry, spec.knows e.1 = true)
    (hNodup : (spec.indices (fields.map sortedEntry)).Nodup) (hLaws : spec.SetsIndependently set)
    (hFold : (fields.map sortedEntry).foldlM (spec.entryStep set pass) init = .ok t)
    (hMissing : spec.checkMissing (spec.indices (fields.map sortedEntry)) = .ok ()) :
    (Source.node fl (Node.object fields).sorted).plain spec set init = .ok (t, []) := by
  obtain ⟨es, hEq, hes⟩ := sorted_object_perm fields
  rw [hEq]
  exact plain_node_perm spec set init _ t hOwn hNodup hLaws hFold hMissing fl es hes

/-- A struct with flattened parts, from the sorted form of its written object: its own fields
are read and the written fields of its parts are handed back, sorted, in some order. -/
theorem mapped_sorted (fl : Flavour) (own others : List (String × Node)) (t : σ)
    (hOwn : ∀ e ∈ own.map sortedEntry, spec.knows e.1 = true)
    (hNodup : (spec.indices (own.map sortedEntry)).Nodup) (hLaws : spec.SetsIndependently set)
    (hFold : (own.map sortedEntry).foldlM (spec.entryStep set pass) init = .ok t)
    (hMissing : spec.checkMissing (spec.indices (own.map sortedEntry)) = .ok ())
    (hOthers : ∀ e ∈ others.map sortedEntry, spec.knows e.1 = false)
    (hClean : ∀ p ∈ others, p.2.Encoded) :
    ∃ rest, rest.Perm (others.map sortedEntry) ∧
      (Source.node fl (Node.object (own ++ others)).sorted).mapped spec set init = .ok (t, rest) := by
  obtain ⟨es, hEq, hes⟩ := sorted_object_perm (own ++ others)
  rw [List.map_append] at hes
  rw [hEq]
  exact mapped_node_perm spec set init _ _ t hOwn hNodup hLaws hFold hMissing es hes hOthers
    (clean_of_encoded hClean) fl

end Json.Source

theorem encoded_str (s : String) : (Node.str s).Encoded := trivial

theorem encoded_bool (b : Bool) : (Node.bool b).Encoded := trivial

theorem encoded_of_keys (fields : List (String × Node)) (keys : List String)
    (hSub : (fields.map Prod.fst).Sublist keys) (hNodup : keys.Nodup)
    (hValues : ∀ p ∈ fields, p.2.Encoded) : (Node.object fields).Encoded :=
  (encoded_object fields).mpr ⟨hNodup.sublist hSub, hValues⟩

/-! ## Keys and references -/

theorem Key.toNode_encoded (k : Key) : k.toNode.Encoded := by
  simp [Key.toNode, encoded_object, encoded_str]

theorem decodeKey_sorted (fl : Flavour) (k : Key) : decodeKey fl k.toNode.sorted = .ok k := by
  have hKeys : ([("type", Node.str k.type.name), ("value", Node.str k.value)].map Prod.fst).Sublist
      ["type", "value"] := List.Sublist.refl _
  rw [Key.toNode, decodeKey]
  dsimp only
  rw [Source.plain_sorted keySpec _ (none, none) fl _ (some k.type, some k.value)
    (known_of_keys keySpec hKeys (by decide)) (indices_nodup_of_keys keySpec hKeys (by decide))
    ?_ ?_ rfl]
  · rfl
  · refine ⟨fun s s' i v a h => ?_, fun s i j v w a b hij hi hj ha hb => ?_⟩
    · rcases i with _ | i <;> exact map_ok_of_map_ok h
    · simp only [keySpec, List.length_cons, List.length_nil] at hi hj
      rcases i with _ | _ | i <;> rcases j with _ | _ | j <;> simp only at ha hb ⊢ <;>
        first
        | exact absurd rfl hij
        | omega
        | exact map_commute ha hb (by rintro p q rfl rfl; rfl)
  · refine foldlM_append_ok keySpec _ [("type", _)] [("value", _)] _ (some k.type, none) _ ?_ ?_
    · rw [foldlM_required keySpec _ "type" 0 (by decide)]
      exact congrArg (Except.map _) (variantNamed_keyType_name k.type)
    · rw [foldlM_required keySpec _ "value" 1 (by decide)]
      rfl

theorem Reference.toNode_encoded (r : Reference) : r.toNode.Encoded := by
  simp [Reference.toNode, encoded_object, encoded_array, encoded_str, Key.toNode_encoded]

theorem decodeReference_sorted (fl : Flavour) (r : Reference) :
    decodeReference fl r.toNode.sorted = .ok r := by
  have hKeys : ([("type", Node.str r.kind.name), ("keys", Node.array (r.keys.map Key.toNode))].map
      Prod.fst).Sublist ["type", "keys"] := List.Sublist.refl _
  have hMake : Reference.make r.kind r.keys = .ok r :=
    (Reference.make_eq_ok_iff _ _ _).mpr ⟨r.check_eq_ok, rfl, rfl⟩
  rw [Reference.toNode, decodeReference]
  dsimp only
  rw [Source.plain_sorted referenceSpec _ (none, []) fl _ (some r.kind, r.keys)
    (known_of_keys referenceSpec hKeys (by decide))
    (indices_nodup_of_keys referenceSpec hKeys (by decide)) ?_ ?_ rfl]
  · simp only [except_ok_bind, hMake]
    rfl
  · refine ⟨fun s s' i v a h => ?_, fun s i j v w a b hij hi hj ha hb => ?_⟩
    · rcases i with _ | i <;> exact map_ok_of_map_ok h
    · simp only [referenceSpec, List.length_cons, List.length_nil] at hi hj
      rcases i with _ | _ | i <;> rcases j with _ | _ | j <;> simp only at ha hb ⊢ <;>
        first
        | exact absurd rfl hij
        | omega
        | exact map_commute ha hb (by rintro p q rfl rfl; rfl)
  · refine foldlM_append_ok referenceSpec _ [("type", _)] [("keys", _)] _ (some r.kind, []) _ ?_ ?_
    · rw [foldlM_required referenceSpec _ "type" 0 (by decide)]
      exact congrArg (Except.map _) ((variantNamed_referenceKind_iff _ _).mpr rfl)
    · rw [foldlM_required referenceSpec _ "keys" 1 (by decide)]
      exact congrArg (Except.map _) (decodeSeq_sorted _ _ _ fun k _ => decodeKey_sorted _ k)

theorem decodeOption_reference_sorted (fl : Flavour) (r : Reference) :
    decodeOption (decodeReference fl) r.toNode.sorted = .ok (some r) := by
  rw [decodeOption_of_ne_null _ _ (by simp [Reference.toNode, sorted_obj]),
    decodeReference_sorted]
  rfl

theorem decodeSeq_references_sorted (fl : Flavour) (rs : List Reference) :
    decodeSeq (decodeReference fl) (Node.array (rs.map Reference.toNode)).sorted = .ok rs :=
  decodeSeq_sorted _ _ _ fun r _ => decodeReference_sorted fl r

/-! ## Datatypes and texts in languages -/

theorem Datatype.parse_name (t : Datatype) : Datatype.parse t.name = .ok t := by
  cases t <;> simp [Datatype.parse, Datatype.ofTag?, Datatype.all, Datatype.name]

theorem decodeDatatype_sorted (t : Datatype) : decodeDatatype t.toNode.sorted = .ok t := by
  show decodeDatatype (.str t.name) = _
  simp only [decodeDatatype, decodeString, except_ok_bind, Datatype.parse_name]
  rfl

theorem decodeOption_datatype_sorted (t : Datatype) :
    decodeOption decodeDatatype t.toNode.sorted = .ok (some t) :=
  congrArg (Except.map some) (decodeDatatype_sorted t)

theorem LangString.toNode_encoded (l : LangString) : l.toNode.Encoded := by
  simp [LangString.toNode, encoded_object, encoded_str]

theorem decodeLangString_sorted (fl : Flavour) (l : LangString) :
    decodeLangString fl l.toNode.sorted = .ok l := by
  have hKeys : ([("language", Node.str l.language), ("text", Node.str l.text)].map
      Prod.fst).Sublist ["language", "text"] := List.Sublist.refl _
  rw [LangString.toNode, decodeLangString]
  dsimp only
  rw [Source.plain_sorted langStringSpec _ (none, none) fl _ (some l.language, some l.text)
    (known_of_keys langStringSpec hKeys (by decide))
    (indices_nodup_of_keys langStringSpec hKeys (by decide)) ?_ ?_ rfl]
  · rfl
  · refine ⟨fun s s' i v a h => ?_, fun s i j v w a b hij hi hj ha hb => ?_⟩
    · rcases i with _ | i <;> exact map_ok_of_map_ok h
    · simp only [langStringSpec, List.length_cons, List.length_nil] at hi hj
      rcases i with _ | _ | i <;> rcases j with _ | _ | j <;> simp only at ha hb ⊢ <;>
        first
        | exact absurd rfl hij
        | omega
        | exact map_commute ha hb (by rintro p q rfl rfl; rfl)
  · refine foldlM_append_ok langStringSpec _ [("language", _)] [("text", _)] _ (some l.language, none)
      _ ?_ ?_
    · rw [foldlM_required langStringSpec _ "language" 0 (by decide)]
      rfl
    · rw [foldlM_required langStringSpec _ "text" 1 (by decide)]
      rfl

theorem decodeSeq_langStrings_sorted (fl : Flavour) (ls : List LangString) :
    decodeSeq (decodeLangString fl) (Node.array (ls.map LangString.toNode)).sorted = .ok ls :=
  decodeSeq_sorted _ _ _ fun l _ => decodeLangString_sorted fl l

/-! ## Semantics -/

theorem Semantics.keys_sublist (s : Semantics) :
    (s.fields.map Prod.fst).Sublist (["semanticId"] ++ ["supplementalSemanticIds"]) :=
  keys_append (optField_keys _ _ _) (listField_keys _ _ _)

theorem Semantics.fields_encoded (s : Semantics) : ∀ p ∈ s.fields, p.2.Encoded :=
  List.forall_mem_append.mpr ⟨optField_encoded _ _ _ Reference.toNode_encoded,
    listField_encoded _ _ _ fun r _ => Reference.toNode_encoded r⟩

theorem decodeSemantics_flat (s : Semantics) (others es : List (String × Node))
    (hes : es.Perm ((s.fields ++ others).map sortedEntry))
    (hOthers : ∀ e ∈ others.map sortedEntry, semanticsSpec.knows e.1 = false) :
    ∃ rest, rest.Perm (others.map sortedEntry) ∧ decodeSemantics (.flat es) = .ok (s, rest) := by
  rw [List.map_append] at hes
  unfold decodeSemantics
  refine Source.plain_flat_perm semanticsSpec _ {} _ _ s
    (known_of_keys semanticsSpec s.keys_sublist (by decide))
    (indices_nodup_of_keys semanticsSpec s.keys_sublist (by decide)) ?_ ?_ rfl es hes hOthers
  · refine ⟨fun s s' i v a h => ?_, fun s i j v w a b hij hi hj ha hb => ?_⟩
    · rcases i with _ | i <;> exact map_ok_of_map_ok h
    · simp only [semanticsSpec, List.length_cons, List.length_nil] at hi hj
      rcases i with _ | _ | i <;> rcases j with _ | _ | j <;> simp only at ha hb ⊢ <;>
        first
        | exact absurd rfl hij
        | omega
        | exact map_commute ha hb (by rintro p q rfl rfl; rfl)
  · refine foldlM_append_ok semanticsSpec _ _ _ {} { semanticId := s.semanticId } s ?_ ?_
    · refine foldlM_optField semanticsSpec _ "semanticId" 0 (by decide) _ _ _ _ (fun r hr => ?_)
        (fun h => by rw [h])
      rw [hr]
      exact congrArg (Except.map _) (decodeOption_reference_sorted _ r)
    · refine foldlM_listField semanticsSpec _ "supplementalSemanticIds" 1 (by decide) _ _ _ _
        (fun _ => congrArg (Except.map _) (decodeSeq_references_sorted _ _)) (fun h => ?_)
      obtain ⟨semanticId, supplemental⟩ := s
      dsimp only at h
      rw [h]

/-! ## Extensions and qualifiers -/

theorem Extension.toNode_encoded (e : Extension) : e.toNode.Encoded :=
  encoded_of_keys _ _ (keys_append (keys_append (keys_append (keys_append
    (single_keys "name" (.str e.name)) (optField_keys "valueType" Datatype.toNode e.valueType))
    (optField_keys "value" .str e.value)) (listField_keys "refersTo" Reference.toNode e.refersTo))
    e.semantics.keys_sublist) (by decide)
    (List.forall_mem_append.mpr ⟨List.forall_mem_append.mpr ⟨List.forall_mem_append.mpr
      ⟨List.forall_mem_append.mpr ⟨by simp [encoded_str], optField_encoded _ _ _ fun _ => trivial⟩,
        optField_encoded _ _ _ encoded_str⟩,
      listField_encoded _ _ _ fun r _ => Reference.toNode_encoded r⟩, e.semantics.fields_encoded⟩)

theorem decodeExtension_sorted (fl : Flavour) (e : Extension) :
    decodeExtension fl e.toNode.sorted = .ok e := by
  have hOwn := keys_append (keys_append (keys_append (single_keys "name" (.str e.name))
    (optField_keys "valueType" Datatype.toNode e.valueType)) (optField_keys "value" .str e.value))
    (listField_keys "refersTo" Reference.toNode e.refersTo)
  rw [Extension.toNode, decodeExtension]
  dsimp only
  refine bind_pair_ok (Source.mapped_sorted extensionSpec _ {} fl _ _
    (⟨some e.name, e.valueType, e.value, e.refersTo⟩ : ExtensionDraft) (known_of_keys extensionSpec hOwn (by decide))
    (indices_nodup_of_keys extensionSpec hOwn (by decide)) ?_ ?_ ?_
    (unknown_of_keys extensionSpec e.semantics.keys_sublist (by decide))
    e.semantics.fields_encoded) fun rest hRest => ?_
  · refine ⟨fun s s' i v a h => ?_, fun s i j v w a b hij hi hj ha hb => ?_⟩
    · rcases i with _ | _ | _ | i <;> exact map_ok_of_map_ok h
    · simp only [extensionSpec, List.length_cons, List.length_nil] at hi hj
      rcases i with _ | _ | _ | _ | i <;> rcases j with _ | _ | _ | _ | j <;>
        simp only at ha hb ⊢ <;>
        first
        | exact absurd rfl hij
        | omega
        | exact map_commute ha hb (by rintro p q rfl rfl; rfl)
  · refine foldlM_append_ok extensionSpec _ _ _ _
      { name := some e.name, valueType := e.valueType, value := e.value } _ ?_ ?_
    · refine foldlM_append_ok extensionSpec _ _ _ _ { name := some e.name, valueType := e.valueType }
        _ ?_ ?_
      · refine foldlM_append_ok extensionSpec _ _ _ _ { name := some e.name } _ ?_ ?_
        · rw [foldlM_required extensionSpec _ "name" 0 (by decide)]
          rfl
        · refine foldlM_optField extensionSpec _ "valueType" 1 (by decide) _ _ _ _ (fun t ht => ?_)
            (fun h => by rw [h])
          rw [ht]
          exact congrArg (Except.map _) (decodeOption_datatype_sorted t)
      · refine foldlM_optField extensionSpec _ "value" 2 (by decide) _ _ _ _ (fun x hx => ?_)
          (fun h => by rw [h])
        rw [hx]
        rfl
    · exact foldlM_listField extensionSpec _ "refersTo" 3 (by decide) _ _ _ _
        (fun _ => congrArg (Except.map _) (decodeSeq_references_sorted _ _)) (fun h => by rw [h])
  · refine checkMissing_of_written extensionSpec _ [0] rfl ?_
    simp only [List.mem_singleton]
    rintro i rfl
    exact ⟨"name", .str e.name, by decide, by simp⟩
  · obtain ⟨_, -, hSemantics⟩ :=
      decodeSemantics_flat e.semantics [] rest (by simpa using hRest) (by simp)
    simp only [hSemantics, except_ok_bind]
    rfl

theorem Qualifier.toNode_encoded (q : Qualifier) : q.toNode.Encoded :=
  encoded_of_keys _ _ (keys_append (keys_append (keys_append (keys_append
    (single_keys "type" (.str q.type)) (optField_keys "valueType" Datatype.toNode q.valueType))
    (optField_keys "value" .str q.value)) (optField_keys "valueId" Reference.toNode q.valueId))
    q.semantics.keys_sublist) (by decide)
    (List.forall_mem_append.mpr ⟨List.forall_mem_append.mpr ⟨List.forall_mem_append.mpr
      ⟨List.forall_mem_append.mpr ⟨by simp [encoded_str], optField_encoded _ _ _ fun _ => trivial⟩,
        optField_encoded _ _ _ encoded_str⟩, optField_encoded _ _ _ Reference.toNode_encoded⟩,
      q.semantics.fields_encoded⟩)

theorem decodeQualifier_sorted (fl : Flavour) (q : Qualifier) :
    decodeQualifier fl q.toNode.sorted = .ok q := by
  have hOwn := keys_append (keys_append (keys_append (single_keys "type" (.str q.type))
    (optField_keys "valueType" Datatype.toNode q.valueType)) (optField_keys "value" .str q.value))
    (optField_keys "valueId" Reference.toNode q.valueId)
  rw [Qualifier.toNode, decodeQualifier]
  dsimp only
  refine bind_pair_ok (Source.mapped_sorted qualifierSpec _ {} fl _ _
    (⟨some q.type, q.valueType, q.value, q.valueId⟩ : QualifierDraft)
    (known_of_keys qualifierSpec hOwn (by decide))
    (indices_nodup_of_keys qualifierSpec hOwn (by decide)) ?_ ?_ ?_
    (unknown_of_keys qualifierSpec q.semantics.keys_sublist (by decide))
    q.semantics.fields_encoded) fun rest hRest => ?_
  · refine ⟨fun s s' i v a h => ?_, fun s i j v w a b hij hi hj ha hb => ?_⟩
    · rcases i with _ | _ | _ | i <;> exact map_ok_of_map_ok h
    · simp only [qualifierSpec, List.length_cons, List.length_nil] at hi hj
      rcases i with _ | _ | _ | _ | i <;> rcases j with _ | _ | _ | _ | j <;>
        simp only at ha hb ⊢ <;>
        first
        | exact absurd rfl hij
        | omega
        | exact map_commute ha hb (by rintro p q rfl rfl; rfl)
  · refine foldlM_append_ok qualifierSpec _ _ _ _
      { type := some q.type, valueType := q.valueType, value := q.value } _ ?_ ?_
    · refine foldlM_append_ok qualifierSpec _ _ _ _ { type := some q.type, valueType := q.valueType }
        _ ?_ ?_
      · refine foldlM_append_ok qualifierSpec _ _ _ _ { type := some q.type } _ ?_ ?_
        · rw [foldlM_required qualifierSpec _ "type" 0 (by decide)]
          rfl
        · refine foldlM_optField qualifierSpec _ "valueType" 1 (by decide) _ _ _ _ (fun t ht => ?_)
            (fun h => by rw [h])
          rw [ht]
          exact congrArg (Except.map _) (decodeOption_datatype_sorted t)
      · refine foldlM_optField qualifierSpec _ "value" 2 (by decide) _ _ _ _ (fun x hx => ?_)
          (fun h => by rw [h])
        rw [hx]
        rfl
    · refine foldlM_optField qualifierSpec _ "valueId" 3 (by decide) _ _ _ _ (fun r hr => ?_)
        (fun h => by rw [h])
      rw [hr]
      exact congrArg (Except.map _) (decodeOption_reference_sorted _ r)
  · refine checkMissing_of_written qualifierSpec _ [0] rfl ?_
    simp only [List.mem_singleton]
    rintro i rfl
    exact ⟨"type", .str q.type, by decide, by simp⟩
  · obtain ⟨_, -, hSemantics⟩ :=
      decodeSemantics_flat q.semantics [] rest (by simpa using hRest) (by simp)
    simp only [hSemantics, except_ok_bind]
    rfl

/-! ## Referable and identifiable attributes -/

theorem ReferableAttrs.keys_sublist (r : ReferableAttrs) :
    (r.fields.map Prod.fst).Sublist
      (["category"] ++ ["idShort"] ++ ["displayName"] ++ ["description"] ++ ["extensions"]) :=
  keys_append (keys_append (keys_append (keys_append (optField_keys _ _ _) (optField_keys _ _ _))
    (listField_keys _ _ _)) (listField_keys _ _ _)) (listField_keys _ _ _)

theorem ReferableAttrs.fields_encoded (r : ReferableAttrs) : ∀ p ∈ r.fields, p.2.Encoded :=
  List.forall_mem_append.mpr ⟨List.forall_mem_append.mpr ⟨List.forall_mem_append.mpr
    ⟨List.forall_mem_append.mpr ⟨optField_encoded _ _ _ encoded_str, optField_encoded _ _ _ encoded_str⟩,
      listField_encoded _ _ _ fun l _ => LangString.toNode_encoded l⟩,
    listField_encoded _ _ _ fun l _ => LangString.toNode_encoded l⟩,
    listField_encoded _ _ _ fun e _ => Extension.toNode_encoded e⟩

/-- Referable attributes are read from the entries they share with their owner, among entries
they do not know, and hand those back. -/
theorem decodeReferable_flat (r : ReferableAttrs) (others es : List (String × Node))
    (hes : es.Perm ((r.fields ++ others).map sortedEntry))
    (hOthers : ∀ e ∈ others.map sortedEntry, referableSpec.knows e.1 = false) :
    ∃ rest, rest.Perm (others.map sortedEntry) ∧ decodeReferable (.flat es) = .ok (r, rest) := by
  rw [List.map_append] at hes
  unfold decodeReferable
  refine Source.plain_flat_perm referableSpec _ {} _ _ r
    (known_of_keys referableSpec r.keys_sublist (by decide))
    (indices_nodup_of_keys referableSpec r.keys_sublist (by decide)) ?_ ?_ rfl es hes hOthers
  · refine ⟨fun s s' i v a h => ?_, fun s i j v w a b hij hi hj ha hb => ?_⟩
    · rcases i with _ | _ | _ | _ | i <;> exact map_ok_of_map_ok h
    · simp only [referableSpec, List.length_cons, List.length_nil] at hi hj
      rcases i with _ | _ | _ | _ | _ | i <;> rcases j with _ | _ | _ | _ | _ | j <;>
        simp only at ha hb ⊢ <;>
        first
        | exact absurd rfl hij
        | omega
        | exact map_commute ha hb (by rintro p q rfl rfl; rfl)
  · refine foldlM_append_ok referableSpec _ _ _ _
      { category := r.category, idShort := r.idShort, displayName := r.displayName,
        description := r.description } r ?_ ?_
    · refine foldlM_append_ok referableSpec _ _ _ _
        { category := r.category, idShort := r.idShort, displayName := r.displayName } _ ?_ ?_
      · refine foldlM_append_ok referableSpec _ _ _ _
          { category := r.category, idShort := r.idShort } _ ?_ ?_
        · refine foldlM_append_ok referableSpec _ _ _ _ { category := r.category } _ ?_ ?_
          · refine foldlM_optField referableSpec _ "category" 0 (by decide) _ _ _ _
              (fun x hx => ?_) (fun h => by rw [h])
            rw [hx]
            rfl
          · refine foldlM_optField referableSpec _ "idShort" 1 (by decide) _ _ _ _
              (fun x hx => ?_) (fun h => by rw [h])
            rw [hx]
            rfl
        · exact foldlM_listField referableSpec _ "displayName" 2 (by decide) _ _ _ _
            (fun _ => congrArg (Except.map _) (decodeSeq_langStrings_sorted _ _))
            (fun h => by rw [h])
      · exact foldlM_listField referableSpec _ "description" 3 (by decide) _ _ _ _
          (fun _ => congrArg (Except.map _) (decodeSeq_langStrings_sorted _ _))
          (fun h => by rw [h])
    · refine foldlM_listField referableSpec _ "extensions" 4 (by decide) _ _ _ _
        (fun _ => congrArg (Except.map _)
          (decodeSeq_sorted _ _ _ fun e _ => decodeExtension_sorted _ e)) (fun h => ?_)
      obtain ⟨category, idShort, displayName, description, extensions⟩ := r
      dsimp only at h
      rw [h]

theorem AdministrativeInformation.toNode_encoded (a : AdministrativeInformation) :
    a.toNode.Encoded :=
  encoded_of_keys _ _ (keys_append (keys_append (keys_append (optField_keys _ _ _)
    (optField_keys _ _ _)) (optField_keys _ _ _)) (optField_keys _ _ _)) (by decide)
    (List.forall_mem_append.mpr ⟨List.forall_mem_append.mpr ⟨List.forall_mem_append.mpr
      ⟨optField_encoded _ _ _ encoded_str, optField_encoded _ _ _ encoded_str⟩,
      optField_encoded _ _ _ Reference.toNode_encoded⟩, optField_encoded _ _ _ encoded_str⟩)

theorem decodeAdministration_sorted (fl : Flavour) (a : AdministrativeInformation) :
    decodeAdministration fl a.toNode.sorted = .ok a := by
  have hKeys : _ := keys_append (keys_append (keys_append (optField_keys "version" .str a.version)
    (optField_keys "revision" .str a.revision))
    (optField_keys "creator" Reference.toNode a.creator))
    (optField_keys "templateId" .str a.templateId)
  rw [AdministrativeInformation.toNode, decodeAdministration]
  dsimp only
  rw [Source.plain_sorted administrationSpec _ {} fl _ a
    (known_of_keys administrationSpec hKeys (by decide))
    (indices_nodup_of_keys administrationSpec hKeys (by decide)) ?_ ?_ rfl]
  · rfl
  · refine ⟨fun s s' i v a h => ?_, fun s i j v w a b hij hi hj ha hb => ?_⟩
    · rcases i with _ | _ | _ | i <;> exact map_ok_of_map_ok h
    · simp only [administrationSpec, List.length_cons, List.length_nil] at hi hj
      rcases i with _ | _ | _ | _ | i <;> rcases j with _ | _ | _ | _ | j <;>
        simp only at ha hb ⊢ <;>
        first
        | exact absurd rfl hij
        | omega
        | exact map_commute ha hb (by rintro p q rfl rfl; rfl)
  · refine foldlM_append_ok administrationSpec _ _ _ _
      { version := a.version, revision := a.revision, creator := a.creator } a ?_ ?_
    · refine foldlM_append_ok administrationSpec _ _ _ _
        { version := a.version, revision := a.revision } _ ?_ ?_
      · refine foldlM_append_ok administrationSpec _ _ _ _ { version := a.version } _ ?_ ?_
        · refine foldlM_optField administrationSpec _ "version" 0 (by decide) _ _ _ _
            (fun x hx => ?_) (fun h => by rw [h])
          rw [hx]
          rfl
        · refine foldlM_optField administrationSpec _ "revision" 1 (by decide) _ _ _ _
            (fun x hx => ?_) (fun h => by rw [h])
          rw [hx]
          rfl
      · refine foldlM_optField administrationSpec _ "creator" 2 (by decide) _ _ _ _
          (fun r hr => ?_) (fun h => by rw [h])
        rw [hr]
        exact congrArg (Except.map _) (decodeOption_reference_sorted _ r)
    · obtain ⟨version, revision, creator, templateId⟩ := a
      refine foldlM_optField administrationSpec _ "templateId" 3 (by decide) _ _ _ _
        (fun x hx => ?_) (fun h => ?_)
      · subst hx
        rfl
      · subst h
        rfl

theorem forall_sorted_append {P : String × Node → Prop} {l₁ l₂ : List (String × Node)}
    (h₁ : ∀ e ∈ l₁.map sortedEntry, P e) (h₂ : ∀ e ∈ l₂.map sortedEntry, P e) :
    ∀ e ∈ (l₁ ++ l₂).map sortedEntry, P e := by
  rw [List.map_append]
  exact List.forall_mem_append.mpr ⟨h₁, h₂⟩

theorem IdentifiableAttrs.keys_sublist (a : IdentifiableAttrs) :
    (a.fields.map Prod.fst).Sublist
      (["category"] ++ ["idShort"] ++ ["displayName"] ++ ["description"] ++ ["extensions"] ++
        ["id"] ++ ["administration"]) :=
  keys_append (keys_append a.referable.keys_sublist (single_keys _ _)) (optField_keys _ _ _)

theorem IdentifiableAttrs.fields_encoded (a : IdentifiableAttrs) : ∀ p ∈ a.fields, p.2.Encoded :=
  List.forall_mem_append.mpr ⟨List.forall_mem_append.mpr ⟨a.referable.fields_encoded,
    by simp [encoded_str]⟩, optField_encoded _ _ _ AdministrativeInformation.toNode_encoded⟩

/-- Identifiable attributes are read from the entries they share with their owner, among
entries known to neither their own fields nor their referable attributes. -/
theorem decodeIdentity_flat (a : IdentifiableAttrs) (others es : List (String × Node))
    (hes : es.Perm ((a.fields ++ others).map sortedEntry))
    (hOthers : ∀ e ∈ others.map sortedEntry, identitySpec.knows e.1 = false)
    (hOthers' : ∀ e ∈ others.map sortedEntry, referableSpec.knows e.1 = false)
    (hClean : ∀ p ∈ others, p.2.Encoded) :
    decodeIdentity (.flat es) = .ok a := by
  have hOwn := keys_append (single_keys "id" (.str a.id))
    (optField_keys "administration" AdministrativeInformation.toNode a.administration)
  rw [decodeIdentity]
  dsimp only
  refine bind_pair_ok (Source.mapped_flat_perm identitySpec _ (none, none) _ _
    (some a.id, a.administration) (known_of_keys identitySpec hOwn (by decide))
    (indices_nodup_of_keys identitySpec hOwn (by decide)) ?_ ?_ ?_ es (perm_sorted_split hes ?_)
    (forall_sorted_append (unknown_of_keys identitySpec a.referable.keys_sublist (by decide))
      hOthers)
    (clean_of_encoded (List.forall_mem_append.mpr ⟨a.referable.fields_encoded, hClean⟩)))
    fun rest hRest => ?_
  · refine ⟨fun s s' i v a h => ?_, fun s i j v w a b hij hi hj ha hb => ?_⟩
    · rcases i with _ | i <;> exact map_ok_of_map_ok h
    · simp only [identitySpec, List.length_cons, List.length_nil] at hi hj
      rcases i with _ | _ | i <;> rcases j with _ | _ | j <;> simp only at ha hb ⊢ <;>
        first
        | exact absurd rfl hij
        | omega
        | exact map_commute ha hb (by rintro p q rfl rfl; rfl)
  · refine foldlM_append_ok identitySpec _ _ _ _ (some a.id, none) _ ?_ ?_
    · rw [foldlM_required identitySpec _ "id" 0 (by decide)]
      rfl
    · refine foldlM_optField identitySpec _ "administration" 1 (by decide) _ _ _ _
        (fun x hx => ?_) (fun h => by rw [h])
      rw [hx, decodeOption_of_ne_null _ _ (by simp [AdministrativeInformation.toNode, sorted_obj]),
        decodeAdministration_sorted]
      rfl
  · refine checkMissing_of_written identitySpec _ [0] rfl ?_
    simp only [List.mem_singleton]
    rintro i rfl
    exact ⟨"id", .str a.id, by decide, by simp⟩
  · rw [IdentifiableAttrs.fields, List.append_assoc a.referable.fields,
      List.append_assoc a.referable.fields]
    exact (List.perm_append_comm_assoc _ _ _).trans List.perm_append_comm
  · obtain ⟨_, -, hReferable⟩ := decodeReferable_flat a.referable others rest hRest hOthers'
    simp only [hReferable, except_ok_bind]
    rfl

theorem ElementAttrs.keys_sublist (a : ElementAttrs) :
    (a.fields.map Prod.fst).Sublist
      (["category"] ++ ["idShort"] ++ ["displayName"] ++ ["description"] ++ ["extensions"] ++
        (["semanticId"] ++ ["supplementalSemanticIds"]) ++ ["qualifiers"] ++
        ["dataSpecifications"]) :=
  keys_append (keys_append (keys_append a.referable.keys_sublist a.semantics.keys_sublist)
    (listField_keys _ _ _)) (listField_keys _ _ _)

theorem ElementAttrs.fields_encoded (a : ElementAttrs) : ∀ p ∈ a.fields, p.2.Encoded :=
  List.forall_mem_append.mpr ⟨List.forall_mem_append.mpr ⟨List.forall_mem_append.mpr
    ⟨a.referable.fields_encoded, a.semantics.fields_encoded⟩,
    listField_encoded _ _ _ fun q _ => Qualifier.toNode_encoded q⟩,
    listField_encoded _ _ _ fun r _ => Reference.toNode_encoded r⟩

/-- Element attributes are read from the entries an element hands on: their own qualifiers
and data specifications, then the referable attributes and the semantics flattened into
them. -/
theorem decodeElementAttrs_flat (a : ElementAttrs) (es : List (String × Node))
    (hes : es.Perm (a.fields.map sortedEntry)) : decodeElementAttrs (.flat es) = .ok a := by
  have hOwn := keys_append (listField_keys "qualifiers" Qualifier.toNode a.qualifiers)
    (listField_keys "dataSpecifications" Reference.toNode a.dataSpecifications)
  rw [decodeElementAttrs]
  dsimp only
  refine bind_pair_ok (Source.mapped_flat_perm elementAttrsSpec _ {} _ _
    ({ qualifiers := a.qualifiers, dataSpecifications := a.dataSpecifications } : ElementAttrs)
    (known_of_keys elementAttrsSpec hOwn (by decide))
    (indices_nodup_of_keys elementAttrsSpec hOwn (by decide)) ?_ ?_ rfl es
    (perm_sorted_split hes (List.Perm.of_eq (by simp only [ElementAttrs.fields, List.append_assoc])))
    (unknown_of_keys elementAttrsSpec
      (keys_append a.referable.keys_sublist a.semantics.keys_sublist) (by decide))
    (clean_of_encoded (List.forall_mem_append.mpr
      ⟨a.referable.fields_encoded, a.semantics.fields_encoded⟩)))
    fun rest hRest => ?_
  · refine ⟨fun s s' i v a h => ?_, fun s i j v w a b hij hi hj ha hb => ?_⟩
    · rcases i with _ | i <;> exact map_ok_of_map_ok h
    · simp only [elementAttrsSpec, List.length_cons, List.length_nil] at hi hj
      rcases i with _ | _ | i <;> rcases j with _ | _ | j <;> simp only at ha hb ⊢ <;>
        first
        | exact absurd rfl hij
        | omega
        | exact map_commute ha hb (by rintro p q rfl rfl; rfl)
  · refine foldlM_append_ok elementAttrsSpec _ _ _ _ { qualifiers := a.qualifiers } _ ?_ ?_
    · exact foldlM_listField elementAttrsSpec _ "qualifiers" 0 (by decide) _ _ _ _
        (fun _ => congrArg (Except.map _)
          (decodeSeq_sorted _ _ _ fun q _ => decodeQualifier_sorted _ q)) (fun h => by rw [h])
    · exact foldlM_listField elementAttrsSpec _ "dataSpecifications" 1 (by decide) _ _ _ _
        (fun _ => congrArg (Except.map _) (decodeSeq_references_sorted _ _)) (fun h => by rw [h])
  · obtain ⟨rest', hRest', hReferable⟩ := decodeReferable_flat a.referable a.semantics.fields rest
      hRest (unknown_of_keys referableSpec a.semantics.keys_sublist (by decide))
    obtain ⟨_, -, hSemantics⟩ := decodeSemantics_flat a.semantics [] rest' (by simpa using hRest')
      (by simp)
    simp only [hReferable, hSemantics, except_ok_bind]
    rfl

end AdminShell
