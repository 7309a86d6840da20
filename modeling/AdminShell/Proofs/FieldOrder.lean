import AdminShell.Proofs.JsonText
import AdminShell.Proofs.ReferenceCodec
import AdminShell.Proofs.Checks
import AdminShell.Json.Normal

/-! # Decoding does not depend on the order of fields

A document may give the fields of an object in any order: the printer and the plain-value
form sort them by key, another writer may not. The decoders of structs walk the entries in
the order they are given, so for a decoded struct to be the written one the walk must not
depend on that order. It does not when a field decodes the same whatever was set before it
and fields at different places are set independently (`SetsIndependently`): a walk over any
order of the entries then ends where the walk in declaration order ends.

The module relates first the sorted form of a document to its plain-value form (for
documents whose objects have distinct keys they are the same), then walks the entries of
structs (`Source.plain`, `Source.mapped`) and of tagged values (`decodeTagged`), in any order.
-/

namespace AdminShell.Json

set_option autoImplicit false

/-! ## Documents as the encoders write them -/

mutual

/-- A document as the encoders write it: printable, and no object with a key twice. -/
def Node.Encoded : Node → Prop
  | .null | .bool _ | .str _ => True
  | .num _ | .bad _ => False
  | .arr items stop => stop = none ∧ itemsEncoded items
  | .obj fields stop => stop = none ∧ (fields.map Prod.fst).Nodup ∧ fieldsEncoded fields

def itemsEncoded : List Node → Prop
  | [] => True
  | n :: ns => n.Encoded ∧ itemsEncoded ns

def fieldsEncoded : List (String × Node) → Prop
  | [] => True
  | (_, n) :: ns => n.Encoded ∧ fieldsEncoded ns

end

theorem itemsEncoded_iff (items : List Node) : itemsEncoded items ↔ ∀ n ∈ items, n.Encoded := by
  induction items with
  | nil => simp [itemsEncoded]
  | cons n ns ih => simp [itemsEncoded, ih]

theorem fieldsEncoded_iff (fields : List (String × Node)) :
    fieldsEncoded fields ↔ ∀ p ∈ fields, p.2.Encoded := by
  induction fields with
  | nil => simp [fieldsEncoded]
  | cons p ps ih =>
    obtain ⟨k, v⟩ := p
    simp [fieldsEncoded, ih]

theorem encoded_object (fields : List (String × Node)) :
    (Node.object fields).Encoded ↔ (fields.map Prod.fst).Nodup ∧ ∀ p ∈ fields, p.2.Encoded := by
  simp [Node.Encoded, fieldsEncoded_iff]

theorem encoded_array (items : List Node) :
    (Node.array items).Encoded ↔ ∀ n ∈ items, n.Encoded := by
  simp [Node.Encoded, itemsEncoded_iff]

mutual

theorem printable_of_encoded : ∀ n : Node, n.Encoded → n.Printable
  | .null, _ | .bool _, _ | .str _, _ => trivial
  | .num _, h | .bad _, h => h.elim
  | .arr items _, ⟨hStop, hItems⟩ => ⟨hStop, printable_items items hItems⟩
  | .obj fields _, ⟨hStop, _, hFields⟩ => ⟨hStop, printable_fields fields hFields⟩

theorem printable_items : ∀ items : List Node, itemsEncoded items → itemsPrintable items
  | [], _ => trivial
  | n :: ns, ⟨hn, hns⟩ => ⟨printable_of_encoded n hn, printable_items ns hns⟩

theorem printable_fields :
    ∀ fields : List (String × Node), fieldsEncoded fields → fieldsPrintable fields
  | [], _ => trivial
  | (_, n) :: ns, ⟨hn, hns⟩ => ⟨printable_of_encoded n hn, printable_fields ns hns⟩

end

mutual

theorem fault_eq_none_of_printable : ∀ n : Node, n.Printable → n.fault? = none
  | .null, _ | .bool _, _ | .str _, _ => rfl
  | .num _, h | .bad _, h => h.elim
  | .arr items _, ⟨hStop, hItems⟩ => by
    subst hStop
    simp [Node.fault?, faultInItems_eq_none items hItems]
  | .obj fields _, ⟨hStop, hFields⟩ => by
    subst hStop
    simp [Node.fault?, faultInFields_eq_none fields hFields]

theorem faultInItems_eq_none :
    ∀ items : List Node, itemsPrintable items → Node.faultInItems? items = none
  | [], _ => rfl
  | n :: ns, ⟨hn, hns⟩ => by
    simp [Node.faultInItems?, fault_eq_none_of_printable n hn, faultInItems_eq_none ns hns]

theorem faultInFields_eq_none :
    ∀ fields : List (String × Node), fieldsPrintable fields → Node.faultInFields? fields = none
  | [], _ => rfl
  | (_, n) :: ns, ⟨hn, hns⟩ => by
    simp [Node.faultInFields?, fault_eq_none_of_printable n hn, faultInFields_eq_none ns hns]

end

mutual

theorem printable_sorted : ∀ n : Node, n.Printable → n.sorted.Printable
  | .null, _ | .bool _, _ | .str _, _ => trivial
  | .num _, h | .bad _, h => h.elim
  | .arr items _, ⟨hStop, hItems⟩ => ⟨hStop, printable_sortedItems items hItems⟩
  | .obj fields _, ⟨hStop, hFields⟩ => by
    refine ⟨hStop, ?_⟩
    have hPerm : List.Perm (byKey (sortedFields fields)) (sortedFields fields) :=
      List.mergeSort_perm _ _
    rw [fieldsPrintable_iff] at hFields ⊢
    have hSorted := (fieldsPrintable_iff _).mp (printable_sortedFields fields
      ((fieldsPrintable_iff fields).mpr hFields))
    exact fun p hp => hSorted p (hPerm.mem_iff.mp hp)

theorem printable_sortedItems :
    ∀ items : List Node, itemsPrintable items → itemsPrintable (sortedItems items)
  | [], _ => trivial
  | n :: ns, ⟨hn, hns⟩ => ⟨printable_sorted n hn, printable_sortedItems ns hns⟩

theorem printable_sortedFields : ∀ fields : List (String × Node),
    fieldsPrintable fields → fieldsPrintable (sortedFields fields)
  | [], _ => trivial
  | (_, n) :: ns, ⟨hn, hns⟩ => ⟨printable_sorted n hn, printable_sortedFields ns hns⟩

end

theorem fault_sorted (n : Node) (hn : n.Encoded) : n.sorted.fault? = none :=
  fault_eq_none_of_printable _ (printable_sorted n (printable_of_encoded n hn))

/-! ## The plain-value form of encoded documents -/

theorem foldl_setField (fields acc : List (String × Node))
    (h : ((acc ++ fields).map Prod.fst).Nodup) :
    fields.foldl (fun acc p => setField acc p.1 p.2) acc = acc ++ fields := by
  induction fields generalizing acc with
  | nil => simp
  | cons p ps ih =>
    obtain ⟨k, v⟩ := p
    have hFresh : (acc.any (·.1 == k)) = false := by
      rw [List.map_append, List.map_cons, List.nodup_append] at h
      simp only [List.any_eq_false, beq_iff_eq]
      intro q hq hqk
      exact h.2.2 _ (List.mem_map_of_mem hq) _ List.mem_cons_self hqk
    rw [List.foldl_cons, show setField acc k v = acc ++ [(k, v)] by simp [setField, hFresh],
      ih (acc ++ [(k, v)]) (by simpa using h)]
    simp

theorem lastWins_eq_byKey (fields : List (String × Node)) (h : (fields.map Prod.fst).Nodup) :
    lastWins fields = byKey fields := by
  rw [lastWins, foldl_setField fields [] (by simpa using h), List.nil_append]
  rfl

theorem normalizeFields_keys (fields : List (String × Node)) :
    (normalizeFields fields).map Prod.fst = fields.map Prod.fst := by
  induction fields with
  | nil => rfl
  | cons p ps ih =>
    obtain ⟨k, v⟩ := p
    simp [normalizeFields, ih]

mutual

theorem normalize_eq_sorted : ∀ n : Node, n.Encoded → n.normalize = n.sorted
  | .null, _ | .bool _, _ | .str _, _ => rfl
  | .num _, h | .bad _, h => h.elim
  | .arr items _, ⟨_, hItems⟩ => by
    rw [Node.normalize, Node.sorted, normalizeItems_eq_sorted items hItems]
  | .obj fields _, ⟨_, hKeys, hFields⟩ => by
    rw [Node.normalize, Node.sorted, lastWins_eq_byKey _ (by rwa [normalizeFields_keys]),
      normalizeFields_eq_sorted fields hFields]

theorem normalizeItems_eq_sorted :
    ∀ items : List Node, itemsEncoded items → normalizeItems items = sortedItems items
  | [], _ => rfl
  | n :: ns, ⟨hn, hns⟩ => by
    rw [normalizeItems, sortedItems, normalize_eq_sorted n hn, normalizeItems_eq_sorted ns hns]

theorem normalizeFields_eq_sorted : ∀ fields : List (String × Node),
    fieldsEncoded fields → normalizeFields fields = sortedFields fields
  | [], _ => rfl
  | (k, n) :: ns, ⟨hn, hns⟩ => by
    rw [normalizeFields, sortedFields, normalize_eq_sorted n hn,
      normalizeFields_eq_sorted ns hns]

end

/-! ## Walking the entries of a map -/

namespace StructSpec

variable {σ : Type} (spec : StructSpec)

/-- One entry of a map as a struct's walk takes it: a key that names a field sets it, another
key goes to `other`. -/
def entryStep (set : σ → Nat → Node → Decoded σ) (other : σ → String → Node → Decoded σ)
    (s : σ) (e : String × Node) : Decoded σ :=
  match spec.index? e.1 with
  | some i => set s i e.2
  | none => other s e.1 e.2

/-- The places of the fields that the keys of some entries name, in order. -/
def indices (es : List (String × Node)) : List Nat := es.filterMap (fun e => spec.index? e.1)

/-- A walk that passes over the keys that name no field. -/
def pass (s : σ) (_ : String) (_ : Node) : Decoded σ := .ok s

/-- For the order of entries not to matter: whether a field decodes does not depend on what
was set before it, and fields at different places are set independently. -/
def SetsIndependently (set : σ → Nat → Node → Decoded σ) : Prop :=
  (∀ s s' i v a, set s i v = .ok a → ∃ b, set s' i v = .ok b) ∧
  ∀ s i j v w a b, i ≠ j → i < spec.fields.length → j < spec.fields.length →
    set s i v = .ok a → set s j w = .ok b → ∃ c, set a j w = .ok c ∧ set b i v = .ok c

theorem index?_lt (k : String) (i : Nat) (h : spec.index? k = some i) :
    i < spec.fields.length :=
  (List.findIdx?_eq_some_iff_getElem.mp h).1

theorem index?_of_knows (k : String) (h : spec.knows k = true) : ∃ i, spec.index? k = some i := by
  unfold knows at h
  cases hk : spec.index? k <;> simp_all

theorem index?_of_not_knows (k : String) (h : spec.knows k = false) : spec.index? k = none := by
  unfold knows at h
  cases hk : spec.index? k <;> simp_all

theorem indices_cons_known (k : String) (v : Node) (es : List (String × Node)) (i : Nat)
    (hk : spec.index? k = some i) : spec.indices ((k, v) :: es) = i :: spec.indices es := by
  simp [indices, hk]

theorem indices_cons_unknown (k : String) (v : Node) (es : List (String × Node))
    (hk : spec.index? k = none) : spec.indices ((k, v) :: es) = spec.indices es := by
  simp [indices, hk]

theorem indices_filter_known (es : List (String × Node)) :
    spec.indices (es.filter (fun e => spec.knows e.1)) = spec.indices es := by
  induction es with
  | nil => rfl
  | cons e es ih =>
    obtain ⟨k, v⟩ := e
    cases hk : spec.knows k
    · simp [hk, ih, indices_cons_unknown spec k v es (index?_of_not_knows spec k hk)]
    · obtain ⟨i, hi⟩ := index?_of_knows spec k hk
      simp only [List.filter_cons, hk, ite_true]
      rw [indices_cons_known spec k v _ i hi, indices_cons_known spec k v _ i hi, ih]

theorem visitEntries_of_foldlM (set : σ → Nat → Node → Decoded σ)
    (other : σ → String → Node → Decoded σ) (es : List (String × Node)) (s t : σ)
    (seen : List Nat) (hNodup : (spec.indices es).Nodup)
    (hFresh : ∀ i ∈ spec.indices es, i ∉ seen)
    (h : es.foldlM (spec.entryStep set other) s = .ok t) :
    visitEntries spec set other es s seen = .ok (t, (spec.indices es).reverse ++ seen) := by
  induction es generalizing s seen with
  | nil =>
    simp only [List.foldlM_nil] at h
    cases h
    rfl
  | cons e es ih =>
    obtain ⟨k, v⟩ := e
    rw [List.foldlM_cons, except_bind_eq_ok] at h
    obtain ⟨s₁, hStep, hRest⟩ := h
    cases hk : spec.index? k with
    | none =>
      rw [indices_cons_unknown spec k v es hk] at hNodup hFresh ⊢
      simp only [entryStep, hk] at hStep
      simp only [visitEntries, hk, hStep, except_ok_bind]
      exact ih s₁ seen hNodup hFresh hRest
    | some i =>
      rw [indices_cons_known spec k v es i hk] at hNodup hFresh ⊢
      have hNew : seen.contains i = false := by simpa using hFresh i List.mem_cons_self
      simp only [entryStep, hk] at hStep
      simp only [visitEntries, hk, hNew, hStep, except_ok_bind, Bool.false_eq_true, ite_false]
      rw [ih s₁ (i :: seen) (List.nodup_cons.mp hNodup).2 (fun j hj => ?_) hRest]
      · simp
      · have hji : j ≠ i := fun hEq => (List.nodup_cons.mp hNodup).1 (hEq ▸ hj)
        simpa [hji] using hFresh j (List.mem_cons_of_mem i hj)

theorem foldlM_filter_known (set : σ → Nat → Node → Decoded σ)
    (other : σ → String → Node → Decoded σ) (es : List (String × Node))
    (hOther : ∀ e ∈ es, spec.knows e.1 = false → ∀ s, other s e.1 e.2 = .ok s) (s : σ) :
    es.foldlM (spec.entryStep set other) s =
      (es.filter (fun e => spec.knows e.1)).foldlM (spec.entryStep set pass) s := by
  induction es generalizing s with
  | nil => rfl
  | cons e es ih =>
    obtain ⟨k, v⟩ := e
    have hRest := ih (fun e he => hOther e (List.mem_cons_of_mem _ he))
    cases hk : spec.knows k
    · have hNone := index?_of_not_knows spec k hk
      simp only [List.filter_cons, hk, Bool.false_eq_true, ite_false, List.foldlM_cons,
        entryStep, hNone, hOther (k, v) List.mem_cons_self hk s, except_ok_bind]
      exact hRest s
    · obtain ⟨i, hi⟩ := index?_of_knows spec k hk
      simp only [List.filter_cons, hk, ite_true, List.foldlM_cons, entryStep, hi]
      exact congrArg _ (funext hRest)

theorem foldlM_collect (set : σ → Nat → Node → Decoded σ)
    (set' : σ × List (String × Node) → Nat → Node → Decoded (σ × List (String × Node)))
    (collect : σ × List (String × Node) → String → Node → Decoded (σ × List (String × Node)))
    (hSet : ∀ s acc i v, set' (s, acc) i v = (set s i v >>= fun x => pure (x, acc)))
    (hCollect : ∀ s acc k v, v.fault? = none → collect (s, acc) k v = .ok (s, (k, v) :: acc))
    (es : List (String × Node)) (hClean : ∀ e ∈ es, spec.knows e.1 = false → e.2.fault? = none)
    (s t : σ) (acc : List (String × Node))
    (h : (es.filter (fun e => spec.knows e.1)).foldlM (spec.entryStep set pass) s = .ok t) :
    es.foldlM (spec.entryStep set' collect) (s, acc) =
      .ok (t, (es.filter (fun e => !spec.knows e.1)).reverse ++ acc) := by
  induction es generalizing s acc with
  | nil =>
    simp only [List.filter_nil, List.foldlM_nil] at h
    cases h
    rfl
  | cons e es ih =>
    obtain ⟨k, v⟩ := e
    have hRest := ih (fun e he => hClean e (List.mem_cons_of_mem _ he))
    cases hk : spec.knows k
    · have hNone := index?_of_not_knows spec k hk
      simp only [List.filter_cons, hk, Bool.false_eq_true, ite_false] at h
      simp only [List.foldlM_cons, entryStep, hNone,
        hCollect s acc k v (hClean (k, v) List.mem_cons_self hk), except_ok_bind,
        List.filter_cons, hk, Bool.not_false, ite_true, List.reverse_cons, List.append_assoc,
        List.singleton_append]
      exact hRest s ((k, v) :: acc) h
    · obtain ⟨i, hi⟩ := index?_of_knows spec k hk
      simp only [List.filter_cons, hk, ite_true, List.foldlM_cons, entryStep, hi,
        except_bind_eq_ok] at h
      obtain ⟨s₁, hStep, hTail⟩ := h
      simp only [List.foldlM_cons, entryStep, hi, hSet, hStep, except_ok_bind, except_pure,
        List.filter_cons, hk, Bool.not_true, Bool.false_eq_true, ite_false]
      exact hRest s₁ acc hTail

theorem foldlM_perm (set : σ → Nat → Node → Decoded σ) (hLaws : spec.SetsIndependently set)
    {l l' : List (String × Node)} (hPerm : l.Perm l')
    (hKnown : ∀ e ∈ l, spec.knows e.1 = true) (hNodup : (spec.indices l).Nodup) (s t : σ)
    (h : l.foldlM (spec.entryStep set pass) s = .ok t) :
    l'.foldlM (spec.entryStep set pass) s = .ok t := by
  induction hPerm generalizing s with
  | nil => exact h
  | cons e hp ih =>
    obtain ⟨k, v⟩ := e
    obtain ⟨i, hi⟩ := index?_of_knows spec k (hKnown _ List.mem_cons_self)
    rw [indices_cons_known spec k v _ i hi] at hNodup
    rw [List.foldlM_cons, except_bind_eq_ok] at h ⊢
    obtain ⟨s₁, hStep, hRest⟩ := h
    exact ⟨s₁, hStep, ih (fun e he => hKnown e (List.mem_cons_of_mem _ he))
      (List.nodup_cons.mp hNodup).2 s₁ hRest⟩
  | swap e₁ e₂ l =>
    -- the two fields at the front are set in the other order: they commute
    obtain ⟨k₁, v₁⟩ := e₁
    obtain ⟨k₂, v₂⟩ := e₂
    obtain ⟨i₁, hi₁⟩ := index?_of_knows spec k₁ (hKnown (k₁, v₁) (by simp))
    obtain ⟨i₂, hi₂⟩ := index?_of_knows spec k₂ (hKnown (k₂, v₂) (by simp))
    rw [indices_cons_known spec k₂ v₂ _ i₂ hi₂, indices_cons_known spec k₁ v₁ _ i₁ hi₁] at hNodup
    have hDistinct : i₂ ≠ i₁ := fun hEq => (List.nodup_cons.mp hNodup).1 (by simp [hEq])
    simp only [List.foldlM_cons, except_bind_eq_ok, entryStep, hi₁, hi₂] at h ⊢
    obtain ⟨a, hA, c, hC, hRest⟩ := h
    obtain ⟨b, hB⟩ := hLaws.1 a s i₁ v₁ c hC
    obtain ⟨c', hC', hB'⟩ := hLaws.2 s i₂ i₁ v₂ v₁ a b hDistinct (index?_lt spec k₂ i₂ hi₂)
      (index?_lt spec k₁ i₁ hi₁) hA hB
    rw [hC] at hC'
    cases hC'
    exact ⟨b, hB, c, hB', hRest⟩
  | trans h₁ h₂ ih₁ ih₂ =>
    exact ih₂ (fun e he => hKnown e (h₁.mem_iff.mpr he))
      ((h₁.filterMap _).nodup_iff.mp hNodup) s (ih₁ hKnown hNodup s h)

theorem checkMissing_go_mono (seen seen' : List Nat) (hSub : ∀ i ∈ seen, i ∈ seen')
    (fs : List FieldSpec) (i : Nat) (h : checkMissing.go seen i fs = .ok ()) :
    checkMissing.go seen' i fs = .ok () := by
  induction fs generalizing i with
  | nil => rfl
  | cons f fs ih =>
    simp only [checkMissing.go] at h ⊢
    by_cases hReq : f.optional = false
    · by_cases hSeen : i ∈ seen
      · have hSeen' := hSub i hSeen
        simp_all
      · simp_all
    · simp_all

theorem checkMissing_mono (seen seen' : List Nat) (hSub : ∀ i ∈ seen, i ∈ seen')
    (h : spec.checkMissing seen = .ok ()) : spec.checkMissing seen' = .ok () :=
  checkMissing_go_mono seen seen' hSub spec.fields 0 h

theorem indices_unknown (es : List (String × Node)) (h : ∀ e ∈ es, spec.knows e.1 = false) :
    spec.indices es = [] := by
  induction es with
  | nil => rfl
  | cons e es ih =>
    obtain ⟨k, v⟩ := e
    rw [indices_cons_unknown spec k v es (index?_of_not_knows spec k (h _ List.mem_cons_self))]
    exact ih (fun e he => h e (List.mem_cons_of_mem _ he))

theorem indices_perm (es own others : List (String × Node)) (hes : es.Perm (own ++ others))
    (hOthers : ∀ e ∈ others, spec.knows e.1 = false) :
    (spec.indices es).Perm (spec.indices own) := by
  have hSplit := hes.filterMap (fun e => spec.index? e.1)
  rwa [List.filterMap_append, show others.filterMap (fun e => spec.index? e.1) = [] from
    indices_unknown spec others hOthers, List.append_nil] at hSplit

section Split

variable (es own others : List (String × Node)) (hes : es.Perm (own ++ others))
  (hOwn : ∀ e ∈ own, spec.knows e.1 = true) (hOthers : ∀ e ∈ others, spec.knows e.1 = false)
include hes hOwn hOthers

theorem filter_known_perm : (es.filter (fun e => spec.knows e.1)).Perm own := by
  have hOwnAll : own.filter (fun e => spec.knows e.1) = own := List.filter_eq_self.mpr hOwn
  have hOthersNone : others.filter (fun e => spec.knows e.1) = [] :=
    List.filter_eq_nil_iff.mpr (fun e he => by simp [hOthers e he])
  have hSplit := hes.filter (fun e => spec.knows e.1)
  rwa [List.filter_append, hOwnAll, hOthersNone, List.append_nil] at hSplit

theorem filter_unknown_perm : (es.filter (fun e => !spec.knows e.1)).Perm others := by
  have hOwnNone : own.filter (fun e => !spec.knows e.1) = [] :=
    List.filter_eq_nil_iff.mpr (fun e he => by simp [hOwn e he])
  have hOthersAll : others.filter (fun e => !spec.knows e.1) = others :=
    List.filter_eq_self.mpr (fun e he => by simp [hOthers e he])
  have hSplit := hes.filter (fun e => !spec.knows e.1)
  rwa [List.filter_append, hOwnNone, hOthersAll, List.nil_append] at hSplit

end Split

end StructSpec

namespace Source

open StructSpec

variable {σ : Type} (spec : StructSpec) (set : σ → Nat → Node → Decoded σ) (init : σ)

theorem plain_node (fl : Flavour) (es : List (String × Node)) (t : σ)
    (hKnown : ∀ e ∈ es, spec.knows e.1 = true) (hNodup : (spec.indices es).Nodup)
    (hFold : es.foldlM (spec.entryStep set pass) init = .ok t)
    (hMissing : spec.checkMissing (spec.indices es).reverse = .ok ()) :
    (Source.node fl (.obj es none)).plain spec set init = .ok (t, []) := by
  simp only [Source.plain, visitMap]
  rw [visitEntries_of_foldlM spec _ _ es init t [] hNodup (by simp) ?_]
  · simp [hMissing, except_ok_bind, except_pure]
  · rw [foldlM_filter_known spec _ _ es (fun e he hk => absurd (hKnown e he) (by simp [hk])),
      List.filter_eq_self.mpr hKnown]
    exact hFold

theorem plain_flat (es : List (String × Node)) (t : σ) (hNodup : (spec.indices es).Nodup)
    (hFold : (es.filter (fun e => spec.knows e.1)).foldlM (spec.entryStep set pass) init = .ok t)
    (hMissing : spec.checkMissing (spec.indices es).reverse = .ok ()) :
    (Source.flat es).plain spec set init = .ok (t, es.filter (fun e => !spec.knows e.1)) := by
  have hIdx := indices_filter_known spec es
  simp only [Source.plain, visitMap]
  rw [visitEntries_of_foldlM spec _ _ _ init t [] (by rwa [hIdx]) (by simp) ?_]
  · simp [hIdx, hMissing, except_ok_bind, except_pure]
  · rw [foldlM_filter_known spec _ _ _ (fun e he hk => by simp [hk] at he)]
    simpa using hFold

theorem mapped_node (fl : Flavour) (es : List (String × Node)) (t : σ)
    (hNodup : (spec.indices es).Nodup)
    (hClean : ∀ e ∈ es, spec.knows e.1 = false → e.2.fault? = none)
    (hFold : (es.filter (fun e => spec.knows e.1)).foldlM (spec.entryStep set pass) init = .ok t)
    (hMissing : spec.checkMissing (spec.indices es).reverse = .ok ()) :
    (Source.node fl (.obj es none)).mapped spec set init =
      .ok (t, es.filter (fun e => !spec.knows e.1)) := by
  simp only [Source.mapped, visitMap]
  rw [visitEntries_of_foldlM spec _ _ es (init, []) _ [] hNodup (by simp)
    (foldlM_collect spec set _ _ (fun _ _ _ _ => rfl)
      (fun _ _ _ v hv => by simp [complete, hv, except_ok_bind, except_pure]) es hClean init t []
      hFold)]
  simp [hMissing, except_ok_bind, except_pure]

theorem mapped_flat (es : List (String × Node)) (t : σ) (hNodup : (spec.indices es).Nodup)
    (hClean : ∀ e ∈ es, spec.knows e.1 = false → e.2.fault? = none)
    (hFold : (es.filter (fun e => spec.knows e.1)).foldlM (spec.entryStep set pass) init = .ok t)
    (hMissing : spec.checkMissing (spec.indices es).reverse = .ok ()) :
    (Source.flat es).mapped spec set init = .ok (t, es.filter (fun e => !spec.knows e.1)) := by
  simp only [Source.mapped, visitMap]
  rw [visitEntries_of_foldlM spec _ _ es (init, []) _ [] hNodup (by simp)
    (foldlM_collect spec set _ _ (fun _ _ _ _ => rfl)
      (fun _ _ _ v hv => by simp [complete, hv, except_ok_bind, except_pure]) es hClean init t []
      hFold)]
  simp [hMissing, except_ok_bind, except_pure]

/-! ### Any order of the fields -/

section Perm

variable (own others : List (String × Node)) (t : σ) (hOwn : ∀ e ∈ own, spec.knows e.1 = true)
  (hNodup : (spec.indices own).Nodup) (hLaws : spec.SetsIndependently set)
  (hFold : own.foldlM (spec.entryStep set pass) init = .ok t)
  (hMissing : spec.checkMissing (spec.indices own) = .ok ())
include hOwn hNodup hLaws hFold hMissing

theorem plain_node_perm (fl : Flavour) (es : List (String × Node)) (hes : es.Perm own) :
    (Source.node fl (.obj es none)).plain spec set init = .ok (t, []) := by
  have hIdx : (spec.indices es).Perm (spec.indices own) := by
    simpa using indices_perm spec es own [] (by simpa using hes) (by simp)
  exact plain_node spec set init fl es t (fun e he => hOwn e (hes.mem_iff.mp he))
    (hIdx.nodup_iff.mpr hNodup)
    (foldlM_perm spec set hLaws hes.symm hOwn hNodup init t hFold)
    (checkMissing_mono spec _ _ (fun i hi => by simpa using hIdx.mem_iff.mpr hi) hMissing)

variable (es : List (String × Node)) (hes : es.Perm (own ++ others))
  (hOthers : ∀ e ∈ others, spec.knows e.1 = false)
include hes hOthers

theorem plain_flat_perm :
    ∃ rest, rest.Perm others ∧ (Source.flat es).plain spec set init = .ok (t, rest) := by
  have hIdx := indices_perm spec es own others hes hOthers
  refine ⟨_, filter_unknown_perm spec es own others hes hOwn hOthers, ?_⟩
  exact plain_flat spec set init es t (hIdx.nodup_iff.mpr hNodup)
    (foldlM_perm spec set hLaws (filter_known_perm spec es own others hes hOwn hOthers).symm hOwn
      hNodup init t hFold)
    (checkMissing_mono spec _ _ (fun i hi => by simpa using hIdx.mem_iff.mpr hi) hMissing)

variable (hClean : ∀ e ∈ others, e.2.fault? = none)
include hClean

theorem mapped_node_perm (fl : Flavour) :
    ∃ rest, rest.Perm others ∧ (Source.node fl (.obj es none)).mapped spec set init = .ok (t, rest) := by
  have hIdx := indices_perm spec es own others hes hOthers
  refine ⟨_, filter_unknown_perm spec es own others hes hOwn hOthers, ?_⟩
  refine mapped_node spec set init fl es t (hIdx.nodup_iff.mpr hNodup) (fun e he hk => ?_)
    (foldlM_perm spec set hLaws (filter_known_perm spec es own others hes hOwn hOthers).symm hOwn
      hNodup init t hFold)
    (checkMissing_mono spec _ _ (fun i hi => by simpa using hIdx.mem_iff.mpr hi) hMissing)
  rcases List.mem_append.mp (hes.mem_iff.mp he) with hMine | hOther
  · simp [hOwn e hMine] at hk
  · exact hClean e hOther

theorem mapped_flat_perm :
    ∃ rest, rest.Perm others ∧ (Source.flat es).mapped spec set init = .ok (t, rest) := by
  have hIdx := indices_perm spec es own others hes hOthers
  refine ⟨_, filter_unknown_perm spec es own others hes hOwn hOthers, ?_⟩
  refine mapped_flat spec set init es t (hIdx.nodup_iff.mpr hNodup) (fun e he hk => ?_)
    (foldlM_perm spec set hLaws (filter_known_perm spec es own others hes hOwn hOthers).symm hOwn
      hNodup init t hFold)
    (checkMissing_mono spec _ _ (fun i hi => by simpa using hIdx.mem_iff.mpr hi) hMissing)
  rcases List.mem_append.mp (hes.mem_iff.mp he) with hMine | hOther
  · simp [hOwn e hMine] at hk
  · exact hClean e hOther

end Perm

end Source

/-! ## Tagged values, sequences and options -/

def sortedEntry (p : String × Node) : String × Node := (p.1, p.2.sorted)

theorem sorted_object_perm (fields : List (String × Node)) :
    ∃ es, (Node.object fields).sorted = .obj es none ∧ es.Perm (fields.map sortedEntry) :=
  ⟨_, sorted_obj fields none, (List.mergeSort_perm _ _).map _⟩

theorem sorted_array (items : List Node) :
    (Node.array items).sorted = .arr (items.map Node.sorted) none := by
  simp [Node.sorted, sortedItems_eq_map]

theorem decodeItems_map {α β : Type} (dec : Node → Decoded α) (write : β → Node) (f : β → α)
    (xs : List β) (h : ∀ x ∈ xs, dec (write x) = .ok (f x)) :
    decodeItems dec (xs.map write) = .ok (xs.map f) := by
  induction xs with
  | nil => rfl
  | cons x xs ih =>
    simp only [List.map_cons, decodeItems, h x List.mem_cons_self, except_ok_bind,
      ih (fun y hy => h y (List.mem_cons_of_mem x hy)), except_pure]

theorem decodeSeq_sorted {α : Type} (dec : Node → Decoded α) (write : α → Node) (xs : List α)
    (h : ∀ x ∈ xs, dec (write x).sorted = .ok x) :
    decodeSeq dec (Node.array (xs.map write)).sorted = .ok xs := by
  have hItems := decodeItems_map dec (fun x => (write x).sorted) id xs h
  rw [List.map_id] at hItems
  rw [sorted_array, List.map_map]
  simp only [decodeSeq, Function.comp_def, hItems, except_ok_bind, except_pure]

theorem decodeOption_of_ne_null {α : Type} (dec : Node → Decoded α) (n : Node)
    (h : n ≠ .null) : decodeOption dec n = (dec n).map some := by
  cases n with
  | null => exact absurd rfl h
  | bool _ | num _ | str _ | arr _ _ | obj _ _ | bad _ => rfl

theorem splitTagged_untagged {α : Type} (fl : Flavour) (table : List (String × α)) (tag : String)
    (pre rest : List (String × Node)) (found : Option α) (kept : List (String × Node))
    (hPre : ∀ e ∈ pre, e.1 ≠ tag ∧ e.2.fault? = none) :
    splitTagged fl table tag (pre ++ rest) found kept =
      splitTagged fl table tag rest found (pre.reverse ++ kept) := by
  induction pre generalizing kept with
  | nil => rfl
  | cons e pre ih =>
    obtain ⟨k, v⟩ := e
    obtain ⟨hKey, hClean⟩ := hPre (k, v) List.mem_cons_self
    simp only [List.cons_append, splitTagged, beq_iff_eq, hKey, ite_false, complete, hClean,
      except_ok_bind]
    rw [ih ((k, v) :: kept) (fun e he => hPre e (List.mem_cons_of_mem _ he))]
    simp

theorem decodeTagged_perm {α : Type} (fl : Flavour) (typeName tag : String)
    (table : List (String × α)) (es rest : List (String × Node)) (v : Node) (x : α)
    (hes : es.Perm ((tag, v) :: rest)) (hRest : ∀ e ∈ rest, e.1 ≠ tag ∧ e.2.fault? = none)
    (hTag : decodeTag fl table v = .ok x) :
    ∃ kept, kept.Perm rest ∧ decodeTagged fl typeName tag table (.obj es none) = .ok (x, .object kept) := by
  obtain ⟨pre, post, rfl⟩ := List.append_of_mem (hes.mem_iff.mpr List.mem_cons_self)
  have hRemain : (pre ++ post).Perm rest :=
    (List.perm_cons _).mp (List.perm_middle.symm.trans hes)
  have hOthers : ∀ e ∈ pre ++ post, e.1 ≠ tag ∧ e.2.fault? = none :=
    fun e he => hRest e (hRemain.mem_iff.mp he)
  have hSplit : splitTagged fl table tag (pre ++ (tag, v) :: post) none [] =
      .ok (some x, pre ++ post) := by
    rw [splitTagged_untagged fl table tag pre _ none []
      (fun e he => hOthers e (List.mem_append_left _ he))]
    simp only [splitTagged, beq_self_eq_true, ite_true, hTag, except_ok_bind]
    rw [← List.append_nil post, splitTagged_untagged fl table tag post [] (some x) _
      (fun e he => hOthers e (List.mem_append_right _ he))]
    simp [splitTagged]
  refine ⟨pre ++ post, hRemain, ?_⟩
  simp only [decodeTagged, hSplit, except_ok_bind, except_pure]

end AdminShell.Json
