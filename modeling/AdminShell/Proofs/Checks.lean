import AdminShell.Model.Validate

/-! # Checks run in sequence

Every `validate` of the model is a sequence of checks that stops at the first failure. Here
is the algebra of such sequences: a sequence passes exactly when each of its checks passes,
and it fails with the failure of the first check that fails. The walks over lists
(`checkAll`, `Element.validateAll` and the item checks of a list shape) pass exactly when
every entry passes, and a walk over a list grown at its end is the walk over the list
followed by the check of the new entry.
-/

namespace AdminShell

set_option autoImplicit false

section Sequence

variable {ε α β : Type}

/-! The steps of an `Except` computation, given to `simp` to run one. -/

theorem except_throw (e : ε) : (throw e : Except ε α) = .error e := rfl

theorem except_pure (a : α) : (pure a : Except ε α) = .ok a := rfl

theorem except_ok_bind (a : α) (f : α → Except ε β) : (Except.ok a >>= f) = f a := rfl

theorem except_error_bind (e : ε) (f : α → Except ε β) :
    (Except.error e >>= f) = .error e := rfl

theorem seq_eq_ok_iff {a b : Except ε Unit} :
    (do a; b) = .ok () ↔ a = .ok () ∧ b = .ok () := by
  cases a <;> simp [bind, Except.bind]

theorem seq_eq_error_iff {a b : Except ε Unit} {e : ε} :
    (do a; b) = .error e ↔ a = .error e ∨ (a = .ok () ∧ b = .error e) := by
  cases a <;> simp [bind, Except.bind]

theorem seq_of_ok {a b : Except ε Unit} (h : a = .ok ()) : (do a; b) = b := by
  subst h
  rfl

theorem seq_ok_right (a : Except ε Unit) : (do a; (.ok () : Except ε Unit)) = a := by
  cases a <;> rfl

theorem seq_assoc (a b c : Except ε Unit) :
    (do (do a; b); c) = (do a; b; c) := by
  cases a <;> rfl

end Sequence

/-! ## Walks over lists -/

theorem checkAll_eq_ok_iff {α : Type} (check : α → Checked) (xs : List α) :
    checkAll check xs = .ok () ↔ ∀ x ∈ xs, check x = .ok () := by
  induction xs with
  | nil => simp [checkAll]
  | cons x xs ih => simp [checkAll, seq_eq_ok_iff, ih]

namespace Element

theorem validateAll_eq_ok_iff (es : List Element) :
    validateAll es = .ok () ↔ ∀ e ∈ es, e.validate = .ok () := by
  induction es with
  | nil => simp [validateAll]
  | cons e es ih => simp [validateAll, seq_eq_ok_iff, ih]

theorem validateAll_append_singleton (es : List Element) (e : Element) :
    validateAll (es ++ [e]) = (do validateAll es; e.validate) := by
  induction es with
  | nil => simp only [List.nil_append, validateAll, seq_ok_right]; rfl
  | cons x es ih => rw [List.cons_append, validateAll, validateAll, ih, seq_assoc]

end Element

namespace ListShape

theorem checkItems_eq_ok_iff (shape : ListShape) (i : Nat) (es : List Element) :
    shape.checkItems i es = .ok () ↔
      ∀ (j : Nat) (hj : j < es.length), shape.checkItem (i + j) es[j] = .ok () := by
  induction es generalizing i with
  | nil => simp [checkItems]
  | cons e es ih =>
    simp only [checkItems, seq_eq_ok_iff, ih, List.length_cons]
    constructor
    · rintro ⟨hHead, hRest⟩ j hj
      cases j with
      | zero => simpa using hHead
      | succ j =>
        have hAt := hRest j (by omega)
        rwa [show i + 1 + j = i + (j + 1) by omega] at hAt
    · intro hAll
      refine ⟨by simpa using hAll 0 (by omega), fun j hj => ?_⟩
      have hAt := hAll (j + 1) (by omega)
      rwa [show i + (j + 1) = i + 1 + j by omega] at hAt

/-- An item added at the end of a list is checked at the index after the old items. -/
theorem checkItems_append_singleton (shape : ListShape) (i : Nat) (es : List Element)
    (e : Element) :
    shape.checkItems i (es ++ [e]) = (do shape.checkItems i es; shape.checkItem (i + es.length) e) := by
  induction es generalizing i with
  | nil => simp only [List.nil_append, checkItems, seq_ok_right, List.length_nil, Nat.add_zero]; rfl
  | cons x es ih =>
    rw [List.cons_append, checkItems, checkItems, ih, seq_assoc, List.length_cons,
      show i + 1 + es.length = i + (es.length + 1) by omega]

end ListShape

end AdminShell
