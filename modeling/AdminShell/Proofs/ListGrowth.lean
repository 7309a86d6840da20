import AdminShell.Model.ElementList
import AdminShell.Proofs.Checks

/-! # Growing a list keeps it valid

`push` checks a new item in its own order: the list's shape first (`checkItem` at the next
index), then the item itself. `validate` on the whole list runs every shape check before
any item check. The two orders agree on a valid list: the old items pass both phases, so
the only check left to fail on the grown list is the new item's, first its shape and then
its own rules, which is exactly what `push` runs. Hence `push` on a valid list succeeds
exactly when the grown list is valid, and fails with the error that list reports.

A push that fails leaves the list as it was (`pushInPlace`), so every list built from
`ElementList.new` by pushes, whichever of them succeed, is valid.
-/

namespace AdminShell.ElementList

set_option autoImplicit false

def itemChecks (l : ElementList) (e : Element) : Checked :=
  do l.shape.checkItem l.items.length e; e.validate

def grow (l : ElementList) (e : Element) : ElementList :=
  { l with items := l.items ++ [e] }

theorem validate_eq (l : ElementList) :
    l.validate =
      (do l.attrs.validate; l.shape.checkItems 0 l.items; Element.validateAll l.items) :=
  rfl

theorem new_validate (idShort : String) (kind : ElementKind) :
    (ElementList.new idShort kind).validate = .ok () :=
  rfl

/-! ## One push -/

theorem push_eq_ok_iff (l : ElementList) (e : Element) (l' : ElementList) :
    l.push e = .ok l' ↔ l.itemChecks e = .ok () ∧ l' = l.grow e := by
  unfold push itemChecks grow
  rcases l.shape.checkItem l.items.length e with _ | ⟨⟩ <;>
    rcases e.validate with _ | ⟨⟩ <;> simp [bind, Except.bind, pure, Except.pure, eq_comm]

theorem push_eq_error_iff (l : ElementList) (e : Element) (err : ModelError) :
    l.push e = .error err ↔ l.itemChecks e = .error err := by
  unfold push itemChecks
  rcases l.shape.checkItem l.items.length e with _ | ⟨⟩ <;>
    rcases e.validate with _ | ⟨⟩ <;> simp [bind, Except.bind, pure, Except.pure]

theorem pushInPlace_eq (l : ElementList) (e : Element) :
    l.pushInPlace e =
      match l.itemChecks e with
      | .ok () => (.ok (), l.grow e)
      | .error err => (.error err, l) := by
  rcases hChecks : l.itemChecks e with err | ⟨⟩
  · rw [pushInPlace, (push_eq_error_iff l e err).mpr hChecks]
  · rw [pushInPlace, (push_eq_ok_iff l e (l.grow e)).mpr ⟨hChecks, rfl⟩]

theorem validate_grow (l : ElementList) (hValid : l.validate = .ok ()) (e : Element) :
    (l.grow e).validate = l.itemChecks e := by
  obtain ⟨hAttrs, hShapes, hItems⟩ : l.attrs.validate = .ok () ∧
      l.shape.checkItems 0 l.items = .ok () ∧ Element.validateAll l.items = .ok () := by
    simpa [validate_eq, seq_eq_ok_iff] using hValid
  -- the old items pass both phases, so only the new item's two checks are left
  rw [validate_eq, grow]
  dsimp only
  rw [ListShape.checkItems_append_singleton, Element.validateAll_append_singleton,
    seq_of_ok hAttrs, seq_assoc, seq_of_ok hShapes, Nat.zero_add, seq_of_ok hItems]
  rfl

theorem pushInPlace_outcome (l : ElementList) (e : Element) (hValid : l.validate = .ok ()) :
    (l.pushInPlace e).1 = (l.grow e).validate := by
  rw [pushInPlace_eq, validate_grow l hValid e]
  rcases l.itemChecks e with _ | ⟨⟩ <;> rfl

theorem validate_pushInPlace (l : ElementList) (hValid : l.validate = .ok ()) (e : Element) :
    (l.pushInPlace e).2.validate = .ok () := by
  rw [pushInPlace_eq]
  rcases hChecks : l.itemChecks e with err | ⟨⟩
  · exact hValid
  · exact (validate_grow l hValid e).trans hChecks

/-! ## Runs of pushes -/

def pushEach (l : ElementList) (es : List Element) : ElementList :=
  es.foldl (fun l e => (l.pushInPlace e).2) l

theorem validate_pushEach (l : ElementList) (hValid : l.validate = .ok ()) (es : List Element) :
    (l.pushEach es).validate = .ok () := by
  induction es generalizing l with
  | nil => exact hValid
  | cons e es ih => exact ih _ (validate_pushInPlace l hValid e)

/-- `push` is atomic and keeps lists valid. A push reports the first failing check of the
new item (its shape at the next index, then its own rules) and then leaves the list as it
was; otherwise it adds the item at the end and changes nothing else. On a valid list the
outcome is exactly that of checking the grown list, so every list built from
`ElementList.new` by any pushes, failed or not, is valid. -/
theorem push_atomic_and_keeps_lists_valid :
    (∀ (l : ElementList) (e : Element),
      l.pushInPlace e =
        match (do l.shape.checkItem l.items.length e; e.validate : Checked) with
        | .ok () => (.ok (), { l with items := l.items ++ [e] })
        | .error err => (.error err, l)) ∧
    (∀ (l : ElementList) (e : Element), l.validate = .ok () →
      (l.pushInPlace e).1 = { l with items := l.items ++ [e] }.validate) ∧
    (∀ (idShort : String) (kind : ElementKind) (es : List Element),
      (es.foldl (fun l e => (l.pushInPlace e).2) (ElementList.new idShort kind)).validate =
        .ok ()) :=
  ⟨pushInPlace_eq, pushInPlace_outcome,
    fun idShort kind => validate_pushEach _ (new_validate idShort kind)⟩

theorem push_long_into_int_list :
    (ElementList.mk { referable := { idShort := some "Counts" } } true
        { typeValueListElement := some .property, valueTypeListElement := some .int }
        []).validate = .ok () ∧
      ((ElementList.mk { referable := { idShort := some "Counts" } } true
          { typeValueListElement := some .property, valueTypeListElement := some .int }
          []).pushInPlace
        (.property ⟨{ referable := { idShort := some "C1" } }, .long, some "1", none⟩)).1 =
        (ElementList.mk { referable := { idShort := some "Counts" } } true
          { typeValueListElement := some .property, valueTypeListElement := some .int }
          [.property ⟨{ referable := { idShort := some "C1" } }, .long, some "1", none⟩]).validate :=
  ⟨rfl, push_atomic_and_keeps_lists_valid.2.1 _ _ rfl⟩

end AdminShell.ElementList
