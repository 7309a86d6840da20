import Mathlib
import AdminShell.Proofs.TypedCoercion
import AdminShell.Proofs.Numerals

/-! # Integer literals and their value sets

An integer literal is checked by one of two mechanisms. A fixed-width type reads the literal
as a 128-bit integer and compares it with its bounds; a sign-constrained type looks only at
the sign and at whether every digit is a zero. Both come down to the literal's exact value
(`validate_integer_literal`): a literal `[+-]?[0-9]+` passes exactly when its value lies in
the type's value set, of any length and with any leading zeros, `-0` and `+000` being zero;
any other text is a type mismatch, and a literal outside the value set a range error that
states the set.
-/

namespace AdminShell

open Literal

set_option autoImplicit false

/-- `raw` is an integer literal `[+-]?[0-9]+` that spells `v`: an optional sign, then one or
more ASCII digits, and nothing else. -/
def IsIntegerLiteral (raw : String) (v : Int) : Prop :=
  ∃ sign digits, raw.toList = sign ++ digits ∧ (sign = [] ∨ sign = ['+'] ∨ sign = ['-']) ∧
    digits ≠ [] ∧ (∀ c ∈ digits, c.isDigit = true) ∧
    v = if sign = ['-'] then -(Number.digitsValue digits : Int) else Number.digitsValue digits

namespace Datatype

/-- The values of an integer datatype: a sign for the four sign-constrained types, the
closed interval of its bounds for a fixed-width one. -/
def Admits (t : Datatype) (v : Int) : Prop :=
  match t with
  | .nonPositiveInteger => v ≤ 0
  | .negativeInteger => v < 0
  | .nonNegativeInteger => 0 ≤ v
  | .positiveInteger => 0 < v
  | _ => ∀ lo hi, t.bounds = some (lo, hi) → lo ≤ v ∧ v ≤ hi

def valueSetText (t : Datatype) : String :=
  match t with
  | .nonPositiveInteger => "<= 0"
  | .negativeInteger => "< 0"
  | .nonNegativeInteger => ">= 0"
  | .positiveInteger => "> 0"
  | _ =>
    match t.bounds with
    | some (lo, hi) => "within [" ++ toString lo ++ ", " ++ toString hi ++ "]"
    | none => ""

theorem admits_of_bounds {t : Datatype} {lo hi : Int} (hBounds : t.bounds = some (lo, hi))
    (v : Int) : t.Admits v ↔ lo ≤ v ∧ v ≤ hi := by
  cases t <;> simp_all [Admits, bounds]

theorem valueSetText_of_bounds {t : Datatype} {lo hi : Int} (hBounds : t.bounds = some (lo, hi)) :
    t.valueSetText = "within [" ++ toString lo ++ ", " ++ toString hi ++ "]" := by
  cases t <;> simp_all [valueSetText, bounds]

end Datatype

/-! ## The lexeme of a literal -/

namespace Literal.IntegerLexeme

theorem shape_eq_some_iff (negative : Bool) (digits : List Char) (l : IntegerLexeme) :
    (if digits.isEmpty || !digits.all Char.isDigit then none else some ⟨negative, digits⟩) =
        some l ↔
      l = ⟨negative, digits⟩ ∧ digits ≠ [] ∧ ∀ c ∈ digits, c.isDigit = true := by
  by_cases hShape : digits.isEmpty || !digits.all Char.isDigit
  · have hBad : digits = [] ∨ ∃ c ∈ digits, c.isDigit = false := by
      simpa [List.isEmpty_iff] using hShape
    simp only [hShape, if_true, reduceCtorEq, false_iff, not_and]
    rintro - hNe hDigits
    rcases hBad with hEmpty | ⟨c, hc, hNot⟩
    · exact hNe hEmpty
    · simp [hDigits c hc] at hNot
  · have hGood : digits ≠ [] ∧ ∀ c ∈ digits, c.isDigit = true := by
      simpa [List.isEmpty_iff] using hShape
    simp only [hShape, Bool.false_eq_true, if_false, Option.some.injEq]
    exact ⟨fun h => ⟨h.symm, hGood⟩, fun h => h.1.symm⟩

theorem read?_eq_some_iff (raw : String) (l : IntegerLexeme) :
    read? raw = some l ↔
      ∃ sign, raw.toList = sign ++ l.digits ∧
        (sign = [] ∧ l.negative = false ∨ sign = ['+'] ∧ l.negative = false ∨
          sign = ['-'] ∧ l.negative = true) ∧
        l.digits ≠ [] ∧ ∀ c ∈ l.digits, c.isDigit = true := by
  simp only [read?]
  generalize raw.toList = cs
  constructor
  · intro hRead
    split at hRead
    · obtain ⟨rfl, hNe, hDigits⟩ := (shape_eq_some_iff _ _ _).mp hRead
      exact ⟨['-'], rfl, by simp, hNe, hDigits⟩
    · obtain ⟨rfl, hNe, hDigits⟩ := (shape_eq_some_iff _ _ _).mp hRead
      exact ⟨['+'], rfl, by simp, hNe, hDigits⟩
    · obtain ⟨rfl, hNe, hDigits⟩ := (shape_eq_some_iff _ _ _).mp hRead
      exact ⟨[], rfl, by simp, hNe, hDigits⟩
  · obtain ⟨negative, digits⟩ := l
    rintro ⟨sign, rfl, hSign, hNe, hDigits⟩
    have hLexeme := (shape_eq_some_iff negative digits ⟨negative, digits⟩).mpr ⟨rfl, hNe, hDigits⟩
    rcases hSign with ⟨rfl, rfl⟩ | ⟨rfl, rfl⟩ | ⟨rfl, rfl⟩
    · -- without a sign the first character is a digit, so neither `-` nor `+`
      obtain ⟨c, rest, rfl⟩ := List.exists_cons_of_ne_nil hNe
      have hc := hDigits c List.mem_cons_self
      have hMinus : c ≠ '-' := by rintro rfl; exact absurd hc (by decide)
      have hPlus : c ≠ '+' := by rintro rfl; exact absurd hc (by decide)
      simp only [List.nil_append]
      split
      · rename_i hEq
        exact absurd (List.cons.inj hEq).1 hMinus
      · rename_i hEq
        exact absurd (List.cons.inj hEq).1 hPlus
      · exact hLexeme
    · exact hLexeme
    · exact hLexeme

theorem read?_digits {raw : String} {l : IntegerLexeme} (hRead : read? raw = some l) :
    l.digits ≠ [] ∧ ∀ c ∈ l.digits, c.isDigit = true := by
  obtain ⟨-, -, -, hNe, hDigits⟩ := (read?_eq_some_iff raw l).mp hRead
  exact ⟨hNe, hDigits⟩

theorem isIntegerLiteral_iff (raw : String) (v : Int) :
    IsIntegerLiteral raw v ↔ ∃ l, read? raw = some l ∧ l.value = v := by
  simp only [read?_eq_some_iff]
  constructor
  · rintro ⟨sign, digits, hRaw, hSign, hNe, hDigits, rfl⟩
    refine ⟨⟨decide (sign = ['-']), digits⟩, ⟨sign, hRaw, ?_, hNe, hDigits⟩, ?_⟩
    · rcases hSign with rfl | rfl | rfl <;> simp
    · by_cases hMinus : sign = ['-'] <;> simp [value, hMinus]
  · rintro ⟨⟨negative, digits⟩, ⟨sign, hRaw, hSign, hNe, hDigits⟩, rfl⟩
    refine ⟨sign, digits, hRaw, ?_, hNe, hDigits, ?_⟩
    · rcases hSign with ⟨rfl, -⟩ | ⟨rfl, -⟩ | ⟨rfl, -⟩ <;> simp
    · rcases hSign with ⟨rfl, rfl⟩ | ⟨rfl, rfl⟩ | ⟨rfl, rfl⟩ <;> simp [value]

/-! ## The sign of a lexeme -/

variable {l : IntegerLexeme}

theorem isZero_iff (hDigits : ∀ c ∈ l.digits, c.isDigit = true) :
    l.isZero = true ↔ Number.digitsValue l.digits = 0 :=
  Number.all_eq_zero_iff hDigits

theorem isNegative_iff (hDigits : ∀ c ∈ l.digits, c.isDigit = true) :
    l.isNegative = true ↔ l.value < 0 := by
  have hZero := isZero_iff hDigits
  have hNonneg : (0 : Int) ≤ Number.digitsValue l.digits := Int.natCast_nonneg _
  rw [isNegative, value]
  cases l.negative with
  | false =>
    simp only [Bool.false_and, Bool.false_eq_true, false_iff, if_false]
    omega
  | true =>
    simp only [Bool.true_and, Bool.not_eq_true', if_true]
    rw [← Bool.not_eq_true, hZero]
    omega

theorem isPositive_iff (hDigits : ∀ c ∈ l.digits, c.isDigit = true) :
    l.isPositive = true ↔ 0 < l.value := by
  have hZero := isZero_iff hDigits
  have hNonneg : (0 : Int) ≤ Number.digitsValue l.digits := Int.natCast_nonneg _
  rw [isPositive, value]
  cases l.negative with
  | false =>
    simp only [Bool.not_false, Bool.true_and, Bool.not_eq_true', Bool.false_eq_true, if_false]
    rw [← Bool.not_eq_true, hZero]
    omega
  | true =>
    simp only [Bool.not_true, Bool.false_and, Bool.false_eq_true, false_iff, if_true]
    omega

theorem not_isNegative_iff (hDigits : ∀ c ∈ l.digits, c.isDigit = true) :
    (!l.isNegative) = true ↔ 0 ≤ l.value := by
  rw [Bool.not_eq_true', ← Bool.not_eq_true, isNegative_iff hDigits]
  omega

theorem not_isPositive_iff (hDigits : ∀ c ∈ l.digits, c.isDigit = true) :
    (!l.isPositive) = true ↔ l.value ≤ 0 := by
  rw [Bool.not_eq_true', ← Bool.not_eq_true, isPositive_iff hDigits]
  omega

end Literal.IntegerLexeme

/-! ## The two mechanisms -/

theorem signConstraint_eq {t : Datatype} (hInt : t.isInteger = true) (hBounds : t.bounds = none)
    {l : IntegerLexeme} (hDigits : ∀ c ∈ l.digits, c.isDigit = true) :
    ((signConstraint t l).1 = true ↔ t.Admits l.value) ∧
      (signConstraint t l).2 = t.valueSetText := by
  cases t
  case nonPositiveInteger => exact ⟨IntegerLexeme.not_isPositive_iff hDigits, rfl⟩
  case negativeInteger => exact ⟨IntegerLexeme.isNegative_iff hDigits, rfl⟩
  case nonNegativeInteger => exact ⟨IntegerLexeme.not_isNegative_iff hDigits, rfl⟩
  case positiveInteger => exact ⟨IntegerLexeme.isPositive_iff hDigits, rfl⟩
  all_goals simp [Datatype.isInteger, Datatype.bounds] at hInt hBounds

theorem validateInteger_of_none {t : Datatype} {raw : String}
    (hRead : IntegerLexeme.read? raw = none) :
    validateInteger t raw = .error (.typeMismatch t raw) := by
  simp [validateInteger, hRead]

theorem validateInteger_of_bounds {t : Datatype} {raw : String} {l : IntegerLexeme} {lo hi : Int}
    (hRead : IntegerLexeme.read? raw = some l) (hBounds : t.bounds = some (lo, hi)) :
    validateInteger t raw =
      if lo ≤ l.value ∧ l.value ≤ hi then .ok ()
      else .error (.range t raw ("within [" ++ toString lo ++ ", " ++ toString hi ++ "]")) := by
  simp only [validateInteger, hRead, hBounds, readInt128?_of_read hRead]
  by_cases hWithin : lo ≤ l.value ∧ l.value ≤ hi
  · obtain ⟨hLo64, hHi64⟩ := Datatype.bounds_within_64 hBounds
    have h63 : Int.pow 2 63 ≤ Int.pow 2 127 := by decide
    have h64 : Int.pow 2 64 ≤ Int.pow 2 127 - 1 := by decide
    have hFits : int128Min ≤ l.value ∧ l.value ≤ int128Max := by
      simp only [int128Min, int128Max]
      omega
    simp [hFits, hWithin]
  · by_cases hFits : int128Min ≤ l.value ∧ l.value ≤ int128Max <;> simp [hFits, hWithin]

theorem validateInteger_of_signed {t : Datatype} {raw : String} {l : IntegerLexeme}
    (hRead : IntegerLexeme.read? raw = some l) (hBounds : t.bounds = none) :
    validateInteger t raw =
      if (signConstraint t l).1 then .ok () else .error (.range t raw (signConstraint t l).2) := by
  simp only [validateInteger, hRead, hBounds]

theorem validateInteger_of_read {t : Datatype} (hInt : t.isInteger = true) {raw : String}
    {l : IntegerLexeme} (hRead : IntegerLexeme.read? raw = some l) :
    (validateInteger t raw = .ok () ↔ t.Admits l.value) ∧
      (¬ t.Admits l.value → validateInteger t raw = .error (.range t raw t.valueSetText)) := by
  cases hBounds : t.bounds with
  | some bounds =>
    obtain ⟨lo, hi⟩ := bounds
    rw [validateInteger_of_bounds hRead hBounds, Datatype.admits_of_bounds hBounds,
      Datatype.valueSetText_of_bounds hBounds]
    by_cases hWithin : lo ≤ l.value ∧ l.value ≤ hi <;> simp [hWithin]
  | none =>
    obtain ⟨hTest, hText⟩ := signConstraint_eq hInt hBounds (IntegerLexeme.read?_digits hRead).2
    rw [validateInteger_of_signed hRead hBounds, hText, ← hTest]
    cases (signConstraint t l).1 <;> simp

/-- Integer validation is the value set on the literal's exact value. For each of the twelve
integer datatypes, a text passes exactly when it is an integer literal `[+-]?[0-9]+` whose
value lies in the type's value set: the closed interval of a fixed-width type's bounds, or
`≤ 0`, `< 0`, `≥ 0`, `> 0`, of any magnitude, for the four sign-constrained types. A text of
another shape is a type mismatch; a literal outside the value set a range error stating the
set. -/
theorem validate_integer_literal (t : Datatype) (hInt : t.isInteger = true) (raw : String) :
    (t.validate raw = .ok () ↔ ∃ v, IsIntegerLiteral raw v ∧ t.Admits v) ∧
      ((∀ v, ¬ IsIntegerLiteral raw v) → t.validate raw = .error (.typeMismatch t raw)) ∧
      (∀ v, IsIntegerLiteral raw v → ¬ t.Admits v →
        t.validate raw = .error (.range t raw t.valueSetText)) := by
  rw [Datatype.validate_of_isInteger raw hInt]
  simp only [IntegerLexeme.isIntegerLiteral_iff]
  refine ⟨?_, ?_, ?_⟩
  · constructor
    · intro hOk
      cases hRead : IntegerLexeme.read? raw with
      | none => simp [validateInteger_of_none hRead] at hOk
      | some l => exact ⟨l.value, ⟨l, rfl, rfl⟩, (validateInteger_of_read hInt hRead).1.mp hOk⟩
    · rintro ⟨v, ⟨l, hRead, rfl⟩, hAdmits⟩
      exact (validateInteger_of_read hInt hRead).1.mpr hAdmits
  · intro hNone
    cases hRead : IntegerLexeme.read? raw with
    | none => exact validateInteger_of_none hRead
    | some l => exact absurd ⟨l, hRead, rfl⟩ (hNone l.value)
  · rintro v ⟨l, hRead, rfl⟩ hOutside
    exact (validateInteger_of_read hInt hRead).2 hOutside

theorem negativeInteger_minus_zero :
    Datatype.negativeInteger.isInteger = true ∧
      ((Datatype.negativeInteger.validate "-0" = .ok () ↔
          ∃ v, IsIntegerLiteral "-0" v ∧ Datatype.negativeInteger.Admits v) ∧
        ((∀ v, ¬ IsIntegerLiteral "-0" v) →
          Datatype.negativeInteger.validate "-0" = .error (.typeMismatch .negativeInteger "-0")) ∧
        (∀ v, IsIntegerLiteral "-0" v → ¬ Datatype.negativeInteger.Admits v →
          Datatype.negativeInteger.validate "-0" =
            .error (.range .negativeInteger "-0" Datatype.negativeInteger.valueSetText))) :=
  ⟨rfl, validate_integer_literal .negativeInteger rfl "-0"⟩

example : Datatype.negativeInteger.validate "-0" = .error (.range .negativeInteger "-0" "< 0") := by
  decide

end AdminShell
