import AdminShell.Proofs.PlainExport

/-! # Typing an export changes only property values

With typing on, an export is the plain export with one kind of edit, made wherever a property
stands: its `value` member becomes its typed value when its literal is not empty.
`Element.retype` makes this edit on a plain export, following the element tree: at a
collection or a list it goes into the `value` array item by item, at a submodel into
`submodelElements`; every other member, the length and order of every array and every other
kind of element stay as they are, and so do shells and concept descriptions.
`typed_export_retypes_properties` says the typed export is exactly this edit of the plain one.
-/

namespace AdminShell

open Json

set_option autoImplicit false

/-! ## Editing the members of a node -/

def Json.updateFields (fields : List (String × Node)) (key : String) (f : Node → Node) :
    List (String × Node) :=
  fields.map fun p => if p.1 == key then (p.1, f p.2) else p

def Json.Node.updateField (n : Node) (key : String) (f : Node → Node) : Node :=
  match n with
  | .obj fields stop => .obj (updateFields fields key f) stop
  | other => other

def Json.Node.mapItems (f : List Node → List Node) : Node → Node
  | .arr items stop => .arr (f items) stop
  | other => other

/-! ## What typing changes -/

mutual

/-- The edit typing makes to an element's plain export: a property with a literal gets its
typed value as `value`; a collection or a list has the items of its `value` array retyped
by its elements; any other element stays. -/
def Element.retype : Element → Node → Node
  | .property p, n =>
    match p.literal with
    | some raw => n.updateField "value" fun _ => (coerce p.valueType raw true).toNode
    | none => n
  | .collection _ _ xs, n => n.updateField "value" (Node.mapItems (Element.retypeItems xs))
  | .list _ _ _ xs, n => n.updateField "value" (Node.mapItems (Element.retypeItems xs))
  | _, n => n

def Element.retypeItems : List Element → List Node → List Node
  | x :: xs, n :: ns => x.retype n :: Element.retypeItems xs ns
  | _, ns => ns

end

def Submodel.retype (s : Submodel) (n : Node) : Node :=
  n.updateField "submodelElements" (Node.mapItems (Element.retypeItems s.elements))

/-- The edit typing makes to an identifiable entity's plain export: a submodel's elements
retyped, a shell and a concept description left as they are. -/
def Identifiable.retype : Identifiable → Node → Node
  | .submodel s, n => s.retype n
  | _, n => n

/-! ## Field edits -/

namespace Json

variable {fields : List (String × Node)} {key : String}

theorem updateFields_keys (f : Node → Node) :
    (updateFields fields key f).map Prod.fst = fields.map Prod.fst := by
  simp only [updateFields, List.map_map]
  apply List.map_congr_left
  intro p _
  by_cases hKey : p.1 = key <;> simp [hKey]

theorem updateFields_of_forall_eq {f : Node → Node} (hId : ∀ v, f v = v) :
    updateFields fields key f = fields := by
  simp [updateFields, hId]

theorem updateFields_of_not_mem (f : Node → Node) (hKey : key ∉ fields.map Prod.fst) :
    updateFields fields key f = fields := by
  simp only [updateFields]
  conv_rhs => rw [← List.map_id fields]
  apply List.map_congr_left
  intro p hp
  have hNe : p.1 ≠ key := fun h => hKey (h ▸ List.mem_map_of_mem hp)
  simp [hNe]

@[simp] theorem updateFields_cons_of_ne {k : String} (v : Node) (f : Node → Node) (hNe : k ≠ key) :
    updateFields ((k, v) :: fields) key f = (k, v) :: updateFields fields key f := by
  simp [updateFields, hNe]

theorem not_mem_keys_of_nodup {v : Node} (h : ((fields ++ [(key, v)]).map Prod.fst).Nodup) :
    key ∉ fields.map Prod.fst := by
  rw [List.map_append, List.nodup_append] at h
  exact fun hMem => h.2.2 _ hMem _ (by simp) rfl

theorem updateFields_last {v : Node} (f : Node → Node) (hKey : key ∉ fields.map Prod.fst) :
    updateFields (fields ++ [(key, v)]) key f = fields ++ [(key, f v)] := by
  rw [updateFields, List.map_append, ← updateFields, updateFields_of_not_mem f hKey]
  simp

theorem setField_of_any {w : Node} (hAny : fields.any (·.1 == key) = true) :
    setField fields key w = updateFields fields key fun _ => w := by
  simp only [setField, if_pos hAny, updateFields]
  apply List.map_congr_left
  intro p _
  by_cases hKey : p.1 = key <;> simp [hKey]

theorem setField_last {v w : Node} (f : Node → Node) (hKey : key ∉ fields.map Prod.fst)
    (hEdit : f v = w) : setField (fields ++ [(key, v)]) key w = fields ++ [(key, f v)] := by
  have hAny : (fields ++ [(key, v)]).any (·.1 == key) = true := by simp
  rw [setField_of_any hAny, updateFields_last _ hKey, hEdit]

theorem updateFields_setField {key' : String} (hNe : key' ≠ key) (f : Node → Node) (w : Node) :
    updateFields (setField fields key' w) key f = setField (updateFields fields key f) key' w := by
  have hAny : (updateFields fields key f).any (·.1 == key') = fields.any (·.1 == key') := by
    simp only [updateFields, List.any_map, Function.comp_def]
    congr 1
    funext p
    split <;> rfl
  rw [setField, setField, hAny]
  split
  · simp only [updateFields, List.map_map]
    apply List.map_congr_left
    intro p _
    by_cases hKey : p.1 = key <;> by_cases hKey' : p.1 = key' <;> simp_all
  · simp [updateFields, List.map_append, hNe]

theorem updateField_items {k : String} {tag : Node} (hTag : k ≠ "value")
    (hValue : "value" ∉ fields.map Prod.fst) (f : List Node → List Node) (items : List Node) :
    (Node.object ((k, tag) :: fields ++ [("value", .array items)])).updateField "value"
        (Node.mapItems f) =
      .object ((k, tag) :: fields ++ [("value", .array (f items))]) := by
  simp only [Node.updateField, Node.object, List.cons_append, updateFields_cons_of_ne _ _ hTag,
    updateFields_last _ hValue, Node.mapItems]

end Json

theorem Node.mapItems_retypeItems_nil (n : Node) : Node.mapItems (Element.retypeItems []) n = n := by
  cases n <;> simp [Node.mapItems, Element.retypeItems]

theorem itemsField_of_ne_nil {items : List Node} (h : items ≠ []) :
    itemsField items = [("value", .array items)] := by
  cases items with
  | nil => exact absurd rfl h
  | cons n ns => rfl

/-! ## The typed export is the plain export retyped -/

section Properties

variable {p : Property}

theorem Property.literal_value {raw : String} (h : p.literal = some raw) : p.value = some raw := by
  simp only [Property.literal, Option.filter_eq_some_iff] at h
  exact h.1

theorem Property.exportFields_of_literal {raw : String} (h : p.literal = some raw) :
    p.exportFields true = updateFields p.fields "value" fun _ => (coerce p.valueType raw true).toNode := by
  have hAny : p.fields.any (·.1 == "value") = true := by
    simp [Property.fields, optField, Property.literal_value h]
  simp [exportFields, typedValue, h, setField_of_any hAny]

theorem Property.exportFields_plain : p.exportFields false = p.fields := by
  simp [exportFields, typedValue]

theorem Property.exportFields_of_no_literal (h : p.literal = none) : p.exportFields true = p.fields := by
  simp [exportFields, typedValue, h]

end Properties

theorem Property.export_typed (p : Property) :
    p.export true = (Element.property p).retype (p.export false) := by
  cases hLiteral : p.literal with
  | none => simp [Property.export, Property.exportFields_plain,
      Property.exportFields_of_no_literal hLiteral, Element.retype, hLiteral]
  | some raw =>
    simp [Property.export, Property.exportFields_plain, Property.exportFields_of_literal hLiteral,
      Element.retype, hLiteral, Node.updateField]

theorem Element.value_not_mem_leafFields {e : Element} {items : List Node}
    (h : e.fields = e.leafFields ++ [("value", .array items)]) :
    "value" ∉ e.leafFields.map Prod.fst := by
  obtain ⟨keys, hSub, hNodup⟩ := e.fields_keys
  have hKeys : (e.fields.map Prod.fst).Nodup := hSub.nodup (List.nodup_cons.mp hNodup).2
  rw [h] at hKeys
  exact not_mem_keys_of_nodup hKeys

mutual

theorem Element.export_typed : ∀ e : Element, e.export true = e.retype e.toNode
  | .property p => by
    cases hLiteral : p.literal with
    | none => simp [Element.export, Element.retype, hLiteral, Element.toNode, Element.leafFields,
        Property.exportFields_of_no_literal hLiteral]
    | some raw => simp [Element.export, Element.retype, hLiteral, Element.toNode, Element.leafFields,
        Node.updateField, Property.exportFields_of_literal hLiteral]
  | .collection a o [] | .list a o sh [] => by
    simp [Element.export, Element.retype, Element.toNode, Node.updateField,
      updateFields_of_forall_eq Node.mapItems_retypeItems_nil]
  | .collection a o (x :: xs) => by
    have hItems := @itemsField_of_ne_nil (Element.toNodes (x :: xs)) (by simp [Element.toNodes])
    have hValue := @Element.value_not_mem_leafFields (.collection a o (x :: xs)) _
      (by rw [Element.fields, hItems])
    rw [Element.retype, Element.toNode, hItems, updateField_items (by decide) hValue,
      ← Element.exportAll_typed]
    simp [Element.export, Element.kind]
  | .list a o sh (x :: xs) => by
    have hItems := @itemsField_of_ne_nil (Element.toNodes (x :: xs)) (by simp [Element.toNodes])
    have hValue := @Element.value_not_mem_leafFields (.list a o sh (x :: xs)) _
      (by rw [Element.fields, hItems])
    rw [Element.retype, Element.toNode, hItems, updateField_items (by decide) hValue,
      ← Element.exportAll_typed]
    simp [Element.export, Element.kind]
  | .multiLanguageProperty _ | .range _ | .file _ | .blob _ | .referenceElement _
  | .relationship _ => by simp [Element.export, Element.retype]

theorem Element.exportAll_typed : ∀ xs : List Element,
    Element.exportAll true xs = Element.retypeItems xs (Element.toNodes xs)
  | [] => rfl
  | x :: xs => by
    rw [Element.exportAll, Element.toNodes, Element.retypeItems, Element.export_typed x,
      Element.exportAll_typed xs]

end

theorem Submodel.export_typed (s : Submodel) : s.export true = s.retype (s.export false) := by
  rw [Submodel.export_plain, Submodel.retype]
  cases hElements : s.elements with
  | nil =>
    simp [Submodel.export, hElements, Node.updateField,
      updateFields_of_forall_eq Node.mapItems_retypeItems_nil]
  | cons x xs =>
    obtain ⟨keys, hSub, hNodup⟩ := (Identifiable.submodel s).fields_keys
    have hKeys : (s.fields.map Prod.fst).Nodup := hSub.nodup (List.nodup_cons.mp hNodup).2
    simp only [Submodel.fields, hElements] at hKeys ⊢
    have hKey := not_mem_keys_of_nodup hKeys
    have hEdit : Node.mapItems (Element.retypeItems (x :: xs)) (.array (Element.toNodes (x :: xs))) =
        .array (Element.exportAll true (x :: xs)) := by
      simp [Node.mapItems, Element.exportAll_typed]
    simp only [Submodel.export, hElements, List.isEmpty_cons, Bool.not_false, Bool.and_self,
      if_true, Node.updateField, Submodel.fields]
    rw [updateFields_last _ hKey, setField_last _ hKey hEdit]

theorem Identifiable.export_typed (i : Identifiable) :
    i.export true = i.retype (i.export false) := by
  cases i with
  | submodel s =>
    rw [Identifiable.export, Identifiable.export, Submodel.export_typed, Identifiable.retype,
      Submodel.export_plain]
    simp only [Submodel.retype, Node.updateField, Node.setField]
    rw [updateFields_setField (by decide)]
  | shell s => rfl
  | conceptDescription c => rfl

/-- Typing an export changes the plain export only as `retype` says: at every property with
a literal, at any depth, the `value` member becomes the typed value, and nothing else. -/
theorem typed_export_retypes_properties :
    (∀ e : Element, e.export true = e.retype (e.export false)) ∧
      (∀ p : Property, p.export true = (Element.property p).retype (p.export false)) ∧
      (∀ s : Submodel, s.export true = s.retype (s.export false)) ∧
      ∀ i : Identifiable, i.export true = i.retype (i.export false) :=
  ⟨fun e => by rw [Element.export_plain]; exact Element.export_typed e, Property.export_typed,
    Submodel.export_typed, Identifiable.export_typed⟩

example : (Element.collection {} false [.property { valueType := .boolean, value := some "1" }]).export
    true = .object [("modelType", .str "SubmodelElementCollection"), ("orderRelevant", .bool false),
      ("value", .array [.object [("modelType", .str "Property"), ("valueType", .str "boolean"),
        ("value", .bool true)]])] := by
  rfl

end AdminShell
