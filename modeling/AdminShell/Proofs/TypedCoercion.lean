import Mathlib
import AdminShell.Literal.Typed
import AdminShell.Proofs.DateTime

/-! # The typed value of a checked literal

Typing a literal reads it a second time, by another route than the check: a time through
`toTimeOfDay?` and `Offset.seconds?`, an integer through its 128-bit reading, and whatever
does not read falls back to text. `Datatype.literalValue` says instead which value a literal
names, straight off its lexical form. On every checked literal the two agree
(`coerce_eq_literalValue`): the check's bounds are what the second reading needs, an offset
of at most 14:59 being less than a day. The fallback is left only to a decimal that reads as
no finite double and to a sign-constrained integer too wide for 128 bits.
-/

namespace AdminShell

open Literal

set_option autoImplicit false

def Literal.TimeParts.timeOfDay (t : TimeParts) : TimeOfDay :=
  ⟨t.hour, t.minute, t.second.getD 0, t.nanos⟩

def Literal.Offset.eastSeconds : Offset → Int
  | .utc => 0
  | .fixed negative hours minutes =>
    if negative then -((3600 * hours + 60 * minutes : Nat) : Int)
    else ((3600 * hours + 60 * minutes : Nat) : Int)

def Datatype.integerValue (t : Datatype) (raw : String) : TypedValue :=
  match IntegerLexeme.read? raw with
  | some l =>
    if t.bounds.isSome ∨ int128Min ≤ l.value ∧ l.value ≤ int128Max then .integer l.value
    else .text raw
  | none => .text raw

/-- The value a literal of the datatype names, read straight off its lexical form: the
fields of a date or time as written, an offset as its seconds east of UTC, an integer as
the value of its digits, a float as the nearest double. A sign-constrained integer wider
than 128 bits, a decimal that reads as no finite double, a literal of a datatype with no
typed value and one that does not read stay text. -/
def Datatype.literalValue (t : Datatype) (raw : String) : TypedValue :=
  match t with
  | .boolean =>
    if raw == "true" || raw == "1" then .boolean true
    else if raw == "false" || raw == "0" then .boolean false
    else .text raw
  | .float | .double =>
    match Number.readFloat? raw with
    | some x => .float x
    | none => .text raw
  | .decimal =>
    match Number.readFloat? raw with
    | some x => if x.isFinite then .float x else .text raw
    | none => .text raw
  | .date =>
    match lexDate raw with
    | some d => .date d
    | none => .text raw
  | .time =>
    match lexTime raw with
    | some p => .time p.timeOfDay (p.offset.map Offset.eastSeconds)
    | none => .text raw
  | .dateTime =>
    match lexDateTime raw with
    | some (d, p) =>
      match p.offset with
      | some o => .dateTime d p.timeOfDay o.eastSeconds
      | none => .localDateTime d p.timeOfDay
    | none => .text raw
  | .string | .normalizedString | .anyUri | .base64Binary | .hexBinary => .text raw
  | _ => t.integerValue raw

/-! ## Times within bounds -/

namespace Literal

theorem TimeParts.checkBounds_eq_ok {t : TimeParts} (h : t.checkBounds = .ok ()) :
    t.hour ≤ 23 ∧ t.minute ≤ 59 ∧ t.second.getD 0 ≤ 59 ∧
      ∀ negative hours minutes, t.offset = some (.fixed negative hours minutes) →
        hours ≤ 14 ∧ minutes ≤ 59 := by
  unfold checkBounds at h
  split_ifs at h with hHour hMinute hSecond
  refine ⟨by omega, by omega, by omega, ?_⟩
  intro negative hours minutes hOffset
  simp only [hOffset] at h
  split_ifs at h with hHours hMinutes
  exact ⟨by omega, by omega⟩

theorem TimeParts.toTimeOfDay?_of_checkBounds {t : TimeParts} (h : t.checkBounds = .ok ()) :
    t.toTimeOfDay? = some t.timeOfDay := by
  obtain ⟨hHour, hMinute, hSecond, -⟩ := checkBounds_eq_ok h
  simp [toTimeOfDay?, timeOfDay]
  omega

theorem Offset.seconds?_of_checkBounds {t : TimeParts} {o : Offset} (h : t.checkBounds = .ok ())
    (hOffset : t.offset = some o) : o.seconds? = some o.eastSeconds := by
  obtain ⟨-, -, -, hFixed⟩ := TimeParts.checkBounds_eq_ok h
  cases o with
  | utc => rfl
  | fixed negative hours minutes =>
    obtain ⟨hHours, hMinutes⟩ := hFixed negative hours minutes hOffset
    have hDay : hours * 3600 + minutes * 60 < 86400 := by omega
    cases negative <;> simp [seconds?, eastSeconds] <;> omega

theorem readInt128?_of_read {raw : String} {l : IntegerLexeme}
    (hRead : IntegerLexeme.read? raw = some l) :
    readInt128? raw =
      if int128Min ≤ l.value ∧ l.value ≤ int128Max then some l.value else none := by
  simp only [readInt128?, hRead]

end Literal

/-! ## What a checked literal is made of -/

theorem validateTimeBounds_eq_ok_iff (t : Datatype) (raw : String) (parts : TimeParts) :
    validateTimeBounds t raw parts = .ok () ↔ parts.checkBounds = .ok () := by
  unfold validateTimeBounds
  rcases parts.checkBounds with e | u <;> simp

theorem Datatype.validate_of_isInteger {t : Datatype} (raw : String) (hInt : t.isInteger = true) :
    t.validate raw = validateInteger t raw := by
  cases t <;> simp [Datatype.isInteger, Datatype.bounds] at hInt <;> rfl

theorem validate_eq_ok_of_isInteger {t : Datatype} {raw : String} (hInt : t.isInteger = true)
    (h : t.validate raw = .ok ()) :
    ∃ l, IntegerLexeme.read? raw = some l ∧
      ∀ lo hi, t.bounds = some (lo, hi) →
        lo ≤ l.value ∧ l.value ≤ hi ∧ int128Min ≤ l.value ∧ l.value ≤ int128Max := by
  rw [Datatype.validate_of_isInteger raw hInt] at h
  unfold validateInteger at h
  rcases hRead : IntegerLexeme.read? raw with _ | l
  · simp [hRead] at h
  refine ⟨l, rfl, ?_⟩
  intro lo hi hBounds
  simp only [hRead, hBounds, readInt128?_of_read hRead] at h
  by_cases hFits : int128Min ≤ l.value ∧ l.value ≤ int128Max
  · simp only [if_pos hFits] at h
    split_ifs at h with hWithin
    exact ⟨hWithin.1, hWithin.2, hFits.1, hFits.2⟩
  · simp [if_neg hFits] at h

theorem Datatype.bounds_within_64 {t : Datatype} {lo hi : Int} (h : t.bounds = some (lo, hi)) :
    -(Int.pow 2 63) ≤ lo ∧ hi < Int.pow 2 64 := by
  cases t <;> simp only [Datatype.bounds, reduceCtorEq, Option.some.injEq, Prod.mk.injEq] at h <;>
    obtain ⟨rfl, rfl⟩ := h <;> decide

namespace TypedValue

theorem integer_toNode_of_fits {v : Int} (hLo : -(Int.pow 2 63) ≤ v) (hHi : v < Int.pow 2 64) :
    ∃ n, (integer v).toNode = .num n ∧ n.text = toString v := by
  simp only [toNode]
  by_cases hSign : 0 ≤ v
  · rw [if_pos ⟨hSign, hHi⟩]
    obtain ⟨m, rfl⟩ := Int.eq_ofNat_of_zero_le hSign
    exact ⟨_, rfl, rfl⟩
  · rw [if_neg (by omega), if_pos ⟨hLo, by omega⟩]
    exact ⟨_, rfl, rfl⟩

theorem integer_toNode_of_not_fits {v : Int} (h : ¬ (-(Int.pow 2 63) ≤ v ∧ v < Int.pow 2 64)) :
    (integer v).toNode = .str (toString v) := by
  have h63 : (0 : Int) ≤ Int.pow 2 63 := by decide
  have h64 : (0 : Int) ≤ Int.pow 2 64 := by decide
  simp only [toNode]
  rw [if_neg (by omega), if_neg (by omega)]

end TypedValue

/-! ## The typed reading of a checked literal -/

theorem Datatype.literalValue_of_isInteger {t : Datatype} (raw : String)
    (hInt : t.isInteger = true) : t.literalValue raw = t.integerValue raw := by
  cases t <;> simp [Datatype.isInteger, Datatype.bounds] at hInt <;> rfl

theorem readTyped?_of_isInteger {t : Datatype} (raw : String) (hInt : t.isInteger = true) :
    readTyped? t raw = (readInt128? raw).map .integer := by
  cases t <;> simp [Datatype.isInteger, Datatype.bounds] at hInt <;> rfl

theorem readTyped?_boolean {raw : String} (h : Datatype.validate .boolean raw = .ok ()) :
    readTyped? .boolean raw = some (Datatype.literalValue .boolean raw) := by
  have hRaw : raw = "true" ∨ raw = "false" ∨ raw = "1" ∨ raw = "0" ∨ raw = "" := by
    by_contra hOther
    simp only [not_or] at hOther
    simp [Datatype.validate, hOther] at h
  rcases hRaw with rfl | rfl | rfl | rfl | rfl <;> rfl

theorem readTyped?_float {t : Datatype} {raw : String} (hFloat : t = .float ∨ t = .double)
    (h : t.validate raw = .ok ()) : readTyped? t raw = some (t.literalValue raw) := by
  have hSome : Number.readFloat? raw ≠ none := by
    rcases hFloat with rfl | rfl <;> simpa [Datatype.validate] using h
  obtain ⟨x, hx⟩ := Option.ne_none_iff_exists'.mp hSome
  rcases hFloat with rfl | rfl <;> simp [readTyped?, Datatype.literalValue, hx]

theorem readTyped?_date {raw : String} (h : Datatype.validate .date raw = .ok ()) :
    readTyped? .date raw = some (Datatype.literalValue .date raw) := by
  rw [validate_date_eq] at h
  rcases hLex : lexDate raw with _ | d
  · simp [hLex] at h
  · have hValid : d.isValid = true := by
      by_contra hInvalid
      simp [hLex, hInvalid] at h
    simp [readTyped?, Datatype.literalValue, hLex, hValid]

theorem readTyped?_time {raw : String} (h : Datatype.validate .time raw = .ok ()) :
    readTyped? .time raw = some (Datatype.literalValue .time raw) := by
  rw [validate_time_eq] at h
  rcases hLex : lexTime raw with _ | p
  · simp [hLex] at h
  · have hBounds : p.checkBounds = .ok () := by
      rw [hLex] at h
      exact (validateTimeBounds_eq_ok_iff _ _ _).mp h
    have hTod := TimeParts.toTimeOfDay?_of_checkBounds hBounds
    simp only [readTyped?, Datatype.literalValue, hLex]
    cases hOffset : p.offset with
    | none => simp [hOffset, hTod]
    | some o => simp [hOffset, hTod, Offset.seconds?_of_checkBounds hBounds hOffset]

theorem readTyped?_dateTime {raw : String} (h : Datatype.validate .dateTime raw = .ok ()) :
    readTyped? .dateTime raw = some (Datatype.literalValue .dateTime raw) := by
  rw [validate_dateTime_eq] at h
  rcases hLex : lexDateTime raw with _ | ⟨d, p⟩
  · simp [hLex] at h
  · rw [hLex] at h
    have hValid : d.isValid = true := by
      by_contra hInvalid
      simp [hInvalid] at h
    have hBounds : p.checkBounds = .ok () := by
      simp only [hValid, if_true] at h
      exact (validateTimeBounds_eq_ok_iff _ _ _).mp h
    have hTod := TimeParts.toTimeOfDay?_of_checkBounds hBounds
    simp only [readTyped?, Datatype.literalValue, hLex]
    cases hOffset : p.offset with
    | none => simp [hOffset, hTod, hValid]
    | some o => simp [hOffset, hTod, hValid, Offset.seconds?_of_checkBounds hBounds hOffset]

theorem coerce_integer {t : Datatype} {raw : String} (hInt : t.isInteger = true)
    (h : t.validate raw = .ok ()) : coerce t raw true = t.integerValue raw := by
  obtain ⟨l, hRead, hFixed⟩ := validate_eq_ok_of_isInteger hInt h
  simp only [coerce, if_true, readTyped?_of_isInteger raw hInt, readInt128?_of_read hRead,
    Datatype.integerValue, hRead]
  by_cases hFits : int128Min ≤ l.value ∧ l.value ≤ int128Max
  · simp [hFits]
  · -- a fixed-width type would have bounded the value within 128 bits
    have hNone : t.bounds = none := by
      cases hBounds : t.bounds with
      | none => rfl
      | some b =>
        obtain ⟨-, -, hLo, hHi⟩ := hFixed b.1 b.2 hBounds
        exact absurd ⟨hLo, hHi⟩ hFits
    simp [hFits, hNone]

theorem readTyped?_fixedWidth {t : Datatype} {raw : String} (hFixed : t.bounds.isSome = true)
    (h : t.validate raw = .ok ()) : readTyped? t raw = some (t.literalValue raw) := by
  have hInt : t.isInteger = true := by simp [Datatype.isInteger, hFixed]
  obtain ⟨l, hRead, hWithin⟩ := validate_eq_ok_of_isInteger hInt h
  obtain ⟨⟨lo, hi⟩, hBounds⟩ := Option.isSome_iff_exists.mp hFixed
  obtain ⟨-, -, hFits⟩ := hWithin lo hi hBounds
  rw [readTyped?_of_isInteger raw hInt, readInt128?_of_read hRead, if_pos hFits,
    Datatype.literalValue_of_isInteger raw hInt]
  simp [Datatype.integerValue, hRead, hFixed]

theorem readTyped?_of_validate {t : Datatype} {raw : String} (h : t.validate raw = .ok ())
    (hDecimal : t ≠ .decimal) (hSign : ¬ (t.isInteger = true ∧ t.bounds = none)) :
    readTyped? t raw = some (t.literalValue raw) := by
  cases t with
  | string | normalizedString | anyUri | base64Binary | hexBinary => rfl
  | boolean => exact readTyped?_boolean h
  | float => exact readTyped?_float (.inl rfl) h
  | double => exact readTyped?_float (.inr rfl) h
  | decimal => exact absurd rfl hDecimal
  | date => exact readTyped?_date h
  | time => exact readTyped?_time h
  | dateTime => exact readTyped?_dateTime h
  | byte | short | int | long | unsignedByte | unsignedShort | unsignedInt | unsignedLong =>
    exact readTyped?_fixedWidth rfl h
  | nonPositiveInteger | negativeInteger | nonNegativeInteger | positiveInteger =>
    exact absurd ⟨rfl, rfl⟩ hSign

theorem coerce_decimal (raw : String) :
    coerce .decimal raw true = Datatype.literalValue .decimal raw := by
  simp only [coerce, if_true, readTyped?, Datatype.literalValue]
  rcases Number.readFloat? raw with _ | x
  · rfl
  · by_cases hFinite : x.isFinite = true <;> simp [hFinite]

theorem coerce_eq_literalValue {t : Datatype} {raw : String} (h : t.validate raw = .ok ()) :
    coerce t raw true = t.literalValue raw := by
  by_cases hDecimal : t = .decimal
  · subst hDecimal
    exact coerce_decimal raw
  by_cases hSign : t.isInteger = true ∧ t.bounds = none
  · rw [coerce_integer hSign.1 h, Datatype.literalValue_of_isInteger raw hSign.1]
  · simp [coerce, readTyped?_of_validate h hDecimal hSign]

example : coerce .time "23:59:59.999999999-14:59" true =
    .time ⟨23, 59, 59, 999999999⟩ (some (-53940)) := rfl

theorem readTyped?_eq_none_of_validate {t : Datatype} {raw : String}
    (h : t.validate raw = .ok ()) (hNone : readTyped? t raw = none) :
    t = .decimal ∨ t.isInteger = true ∧ t.bounds = none := by
  by_contra hReads
  simp only [not_or] at hReads
  rw [readTyped?_of_validate h hReads.1 hReads.2] at hNone
  cases hNone

theorem coerce_fixedWidth_within_64 {t : Datatype} {raw : String} {v : Int}
    (hFixed : t.bounds.isSome = true) (h : t.validate raw = .ok ())
    (hValue : coerce t raw true = .integer v) :
    -(Int.pow 2 63) ≤ v ∧ v < Int.pow 2 64 := by
  have hInt : t.isInteger = true := by simp [Datatype.isInteger, hFixed]
  obtain ⟨l, hRead, hWithin⟩ := validate_eq_ok_of_isInteger hInt h
  obtain ⟨⟨lo, hi⟩, hBounds⟩ := Option.isSome_iff_exists.mp hFixed
  obtain ⟨hLo, hHi, -⟩ := hWithin lo hi hBounds
  have hEq : v = l.value := by
    rw [coerce_eq_literalValue h, Datatype.literalValue_of_isInteger raw hInt] at hValue
    simp [Datatype.integerValue, hRead, hFixed] at hValue
    exact hValue.symm
  obtain ⟨hLo64, hHi64⟩ := Datatype.bounds_within_64 hBounds
  subst hEq
  omega

/-- A checked literal's typed value is the value it names. The reading falls back to text
only for a decimal that reads as no finite double and for a sign-constrained integer too
wide for 128 bits; an integer is a JSON number, its decimal text, from `-2^63` to `2^64 - 1`,
and a string of that text beyond, and one of a fixed-width type is always within. -/
theorem coerce_checked_literal (t : Datatype) (raw : String) (h : t.validate raw = .ok ()) :
    coerce t raw true = t.literalValue raw ∧
      (readTyped? t raw = none → t = .decimal ∨ t.isInteger = true ∧ t.bounds = none) ∧
      ∀ v, coerce t raw true = .integer v →
        (t.bounds.isSome = true → -(Int.pow 2 63) ≤ v ∧ v < Int.pow 2 64) ∧
        (-(Int.pow 2 63) ≤ v ∧ v < Int.pow 2 64 →
          ∃ n, (TypedValue.integer v).toNode = .num n ∧ n.text = toString v) ∧
        (¬ (-(Int.pow 2 63) ≤ v ∧ v < Int.pow 2 64) →
          (TypedValue.integer v).toNode = .str (toString v)) := by
  refine ⟨coerce_eq_literalValue h, readTyped?_eq_none_of_validate h, ?_⟩
  intro v hValue
  exact ⟨fun hFixed => coerce_fixedWidth_within_64 hFixed h hValue,
    fun hFits => TypedValue.integer_toNode_of_fits hFits.1 hFits.2,
    TypedValue.integer_toNode_of_not_fits⟩

/-- The largest `unsignedLong` is a checked literal, read as a JSON number. -/
theorem coerce_unsignedLong_max :
    Datatype.validate .unsignedLong "18446744073709551615" = .ok () ∧
      (coerce .unsignedLong "18446744073709551615" true =
          Datatype.literalValue .unsignedLong "18446744073709551615" ∧
        (readTyped? .unsignedLong "18446744073709551615" = none →
          Datatype.unsignedLong = .decimal ∨
            Datatype.unsignedLong.isInteger = true ∧ Datatype.unsignedLong.bounds = none) ∧
        ∀ v, coerce .unsignedLong "18446744073709551615" true = .integer v →
          (Datatype.unsignedLong.bounds.isSome = true →
            -(Int.pow 2 63) ≤ v ∧ v < Int.pow 2 64) ∧
          (-(Int.pow 2 63) ≤ v ∧ v < Int.pow 2 64 →
            ∃ n, (TypedValue.integer v).toNode = .num n ∧ n.text = toString v) ∧
          (¬ (-(Int.pow 2 63) ≤ v ∧ v < Int.pow 2 64) →
            (TypedValue.integer v).toNode = .str (toString v))) :=
  ⟨by decide, coerce_checked_literal .unsignedLong "18446744073709551615" (by decide)⟩

/-- A decimal with an underscore is checked, yet reads as no double and stays text. -/
theorem decimal_with_underscore_stays_text :
    Datatype.validate .decimal "1_000" = .ok () ∧ readTyped? .decimal "1_000" = none ∧
      coerce .decimal "1_000" true = .text "1_000" :=
  ⟨by decide, rfl, rfl⟩

end AdminShell
