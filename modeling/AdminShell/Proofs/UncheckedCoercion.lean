import Mathlib
import AdminShell.Proofs.TemporalRendering
import AdminShell.Proofs.IntegerLiterals

/-! # Typing literals that were never checked

Typing does not assume that the literal was checked. For every datatype and every text it
gives either the value the literal names (`Datatype.literalValue`) or the literal itself as
text, and `Datatype.Coerces` says which without going through the check
(`coerce_unchecked_literal`). Its region differs from the check's in two places: an integer of
any of the twelve integer types is typed whenever it fits 128 bits, whatever the type's bounds
or sign, and a time needs only an offset of less than a day, where the check caps the offset
hour at 14. A date is typed exactly when it passes the check.
-/

namespace AdminShell

open Literal Number

set_option autoImplicit false

/-! ## Times of day -/

namespace Literal

/-- A time's fields make a time of day and its offset is less than a day either way. -/
def TimeParts.WithinDay (p : TimeParts) : Prop :=
  p.hour ≤ 23 ∧ p.minute ≤ 59 ∧ (∀ s, p.second = some s → s ≤ 59) ∧
    ∀ negative hours minutes, p.offset = some (.fixed negative hours minutes) →
      3600 * hours + 60 * minutes < 86400

theorem TimeParts.toTimeOfDay?_eq_some_iff (p : TimeParts) (tod : TimeOfDay) :
    p.toTimeOfDay? = some tod ↔
      (p.hour ≤ 23 ∧ p.minute ≤ 59 ∧ p.second.getD 0 ≤ 59) ∧ tod = p.timeOfDay := by
  unfold toTimeOfDay?
  by_cases hWithin : p.hour ≤ 23 ∧ p.minute ≤ 59 ∧ p.second.getD 0 ≤ 59
  · have hTest : (decide (p.hour < 24) && decide (p.minute < 60) &&
        decide (p.second.getD 0 < 60)) = true := by
      simp only [Bool.and_eq_true, decide_eq_true_eq]
      omega
    simp only [hTest, if_true, Option.some.injEq, hWithin, true_and]
    exact ⟨fun h => h.symm, fun h => h.symm⟩
  · have hTest : (decide (p.hour < 24) && decide (p.minute < 60) &&
        decide (p.second.getD 0 < 60)) = false := by
      simp only [Bool.and_eq_false_iff, decide_eq_false_iff_not]
      omega
    simp only [hTest, Bool.false_eq_true, if_false, reduceCtorEq, false_iff, not_and]
    exact fun h => absurd h hWithin

theorem Offset.natAbs_eastSeconds (negative : Bool) (hours minutes : Nat) :
    (Offset.fixed negative hours minutes).eastSeconds.natAbs = 3600 * hours + 60 * minutes := by
  cases negative <;>
    simp only [eastSeconds, Bool.false_eq_true, ↓reduceIte, Int.natAbs_neg, Int.natAbs_natCast]

theorem Offset.seconds?_eq (o : Offset) :
    o.seconds? = if o.eastSeconds.natAbs < 86400 then some o.eastSeconds else none := by
  cases o with
  | utc => rfl
  | fixed negative hours minutes =>
    have hComm : hours * 3600 + minutes * 60 = 3600 * hours + 60 * minutes := by ring
    cases negative
    · simp only [seconds?, eastSeconds, hComm]
      rfl
    · simp only [seconds?, eastSeconds, hComm]

theorem Offset.seconds?_eq_some_iff (o : Offset) (s : Int) :
    o.seconds? = some s ↔
      (∀ negative hours minutes, o = .fixed negative hours minutes →
        3600 * hours + 60 * minutes < 86400) ∧ o.eastSeconds = s := by
  rw [seconds?_eq]
  cases o with
  | utc => simp [eastSeconds]
  | fixed negative hours minutes =>
    rw [natAbs_eastSeconds]
    constructor
    · intro h
      split at h
      · rename_i hLt
        refine ⟨fun negative' hours' minutes' hEq => ?_, Option.some.inj h⟩
        cases hEq
        exact hLt
      · cases h
    · rintro ⟨hLt, rfl⟩
      rw [if_pos (hLt negative hours minutes rfl)]

theorem TimeParts.withinDay_iff (p : TimeParts) :
    p.WithinDay ↔ (p.hour ≤ 23 ∧ p.minute ≤ 59 ∧ p.second.getD 0 ≤ 59) ∧
      ∀ o, p.offset = some o → ∀ negative hours minutes, o = .fixed negative hours minutes →
        3600 * hours + 60 * minutes < 86400 := by
  unfold WithinDay
  constructor
  · rintro ⟨hHour, hMinute, hSecond, hOffset⟩
    refine ⟨⟨hHour, hMinute, ?_⟩, ?_⟩
    · cases hs : p.second with
      | none => simp
      | some s => simpa using hSecond s hs
    · rintro o hO negative hours minutes rfl
      exact hOffset negative hours minutes hO
  · rintro ⟨⟨hHour, hMinute, hSecond⟩, hOffset⟩
    refine ⟨hHour, hMinute, fun s hs => by simpa [hs] using hSecond, ?_⟩
    intro negative hours minutes hFixed
    exact hOffset _ hFixed negative hours minutes rfl

end Literal

/-! ## Where typing gives a value -/

/-- Where typing a literal gives the value it names rather than the literal, without any
check: one of the four boolean words; a double for the floating types, a finite one for a
decimal; for every integer type an integer literal that fits 128 bits; a real date from year
1; a time whose fields make a time of day, with an offset of less than a day; a date-time that
is both. The string, URI and binary types stay text. -/
def Datatype.Coerces (t : Datatype) (raw : String) : Prop :=
  match t with
  | .boolean => raw = "true" ∨ raw = "1" ∨ raw = "false" ∨ raw = "0"
  | .float | .double => ∃ x, Number.readFloat? raw = some x
  | .decimal => ∃ x, Number.readFloat? raw = some x ∧ x.isFinite = true
  | .date => ∃ w : DateText, w.WellFormed ∧ raw.toList = w.chars ∧
      IsCalendarDate (digitsValue w.year) (digitsValue w.month) (digitsValue w.day)
  | .time => ∃ w : TimeText, w.WellFormed ∧ raw.toList = w.chars ∧ w.parts.WithinDay
  | .dateTime => ∃ (d : DateText) (w : TimeText), d.WellFormed ∧ w.WellFormed ∧
      raw.toList = d.chars ++ 'T' :: w.chars ∧
      IsCalendarDate (digitsValue d.year) (digitsValue d.month) (digitsValue d.day) ∧
      w.parts.WithinDay
  | .string | .normalizedString | .anyUri | .base64Binary | .hexBinary => False
  | _ => ∃ v, IsIntegerLiteral raw v ∧ int128Min ≤ v ∧ v ≤ int128Max

/-- Typing gives the literal's value, which is no text, where it coerces, and the literal as
text everywhere else. -/
def Datatype.TypesWhereCoerces (t : Datatype) (raw : String) : Prop :=
  (t.Coerces raw → coerce t raw true = t.literalValue raw ∧ (t.literalValue raw).isText = false) ∧
    (¬ t.Coerces raw → coerce t raw true = .text raw)

theorem typesWhereCoerces_of_readTyped? {t : Datatype} {raw : String}
    (hRead : ∀ v, readTyped? t raw = some v ↔ t.Coerces raw ∧ t.literalValue raw = v)
    (hValue : t.Coerces raw → (t.literalValue raw).isText = false) : t.TypesWhereCoerces raw := by
  refine ⟨fun hCoerces => ⟨?_, hValue hCoerces⟩, fun hCoerces => ?_⟩
  · simp [coerce, (hRead _).mpr ⟨hCoerces, rfl⟩]
  · have hNone : readTyped? t raw = none := by
      cases hSome : readTyped? t raw with
      | none => rfl
      | some v => exact absurd ((hRead v).mp hSome).1 hCoerces
    simp [coerce, hNone]

/-! ## Each kind of datatype -/

theorem typesWhereCoerces_boolean (raw : String) : Datatype.boolean.TypesWhereCoerces raw := by
  refine ⟨fun hCoerces => ?_, fun hCoerces => ?_⟩
  · have hWords : raw = "true" ∨ raw = "1" ∨ raw = "false" ∨ raw = "0" := hCoerces
    rcases hWords with rfl | rfl | rfl | rfl <;> exact ⟨rfl, rfl⟩
  · have hWords : ¬ (raw = "true" ∨ raw = "1" ∨ raw = "false" ∨ raw = "0") := hCoerces
    simp only [not_or] at hWords
    obtain ⟨hTrue, hOne, hFalse, hZero⟩ := hWords
    by_cases hEmpty : raw = ""
    · subst hEmpty
      rfl
    · simp [coerce, readTyped?, hEmpty, hTrue, hOne, hFalse, hZero]

theorem typesWhereCoerces_float {t : Datatype} (hFloat : t = .float ∨ t = .double) (raw : String) :
    t.TypesWhereCoerces raw := by
  apply typesWhereCoerces_of_readTyped?
  · intro v
    rcases hFloat with rfl | rfl <;>
      cases hRead : Number.readFloat? raw <;>
        simp [readTyped?, Datatype.Coerces, Datatype.literalValue, hRead]
  · intro hCoerces
    rcases hFloat with rfl | rfl <;> obtain ⟨x, hx⟩ := hCoerces <;>
      simp [Datatype.literalValue, hx, TypedValue.isText]

theorem typesWhereCoerces_decimal (raw : String) : Datatype.decimal.TypesWhereCoerces raw := by
  apply typesWhereCoerces_of_readTyped?
  · intro v
    cases hRead : Number.readFloat? raw with
    | none => simp [readTyped?, Datatype.Coerces, hRead]
    | some x =>
      by_cases hFinite : x.isFinite = true <;>
        simp [readTyped?, Datatype.Coerces, Datatype.literalValue, hRead, hFinite]
  · rintro ⟨x, hx, hFinite⟩
    simp [Datatype.literalValue, hx, hFinite, TypedValue.isText]

theorem Datatype.coerces_of_isInteger {t : Datatype} (hInt : t.isInteger = true) (raw : String) :
    t.Coerces raw ↔ ∃ v, IsIntegerLiteral raw v ∧ int128Min ≤ v ∧ v ≤ int128Max := by
  cases t <;> simp [Datatype.isInteger, Datatype.bounds] at hInt <;> rfl

theorem typesWhereCoerces_integer {t : Datatype} (hInt : t.isInteger = true) (raw : String) :
    t.TypesWhereCoerces raw := by
  have hCoerces : t.Coerces raw ↔
      ∃ l, IntegerLexeme.read? raw = some l ∧ int128Min ≤ l.value ∧ l.value ≤ int128Max := by
    rw [Datatype.coerces_of_isInteger hInt]
    simp only [IntegerLexeme.isIntegerLiteral_iff]
    constructor
    · rintro ⟨v, ⟨l, hRead, rfl⟩, hFits⟩
      exact ⟨l, hRead, hFits⟩
    · rintro ⟨l, hRead, hFits⟩
      exact ⟨l.value, ⟨l, hRead, rfl⟩, hFits⟩
  apply typesWhereCoerces_of_readTyped?
  · intro v
    rw [readTyped?_of_isInteger raw hInt, Datatype.literalValue_of_isInteger raw hInt, hCoerces]
    cases hRead : IntegerLexeme.read? raw with
    | none => simp [readInt128?, hRead]
    | some l =>
      rw [readInt128?_of_read hRead]
      by_cases hFits : int128Min ≤ l.value ∧ l.value ≤ int128Max
      · simp [Datatype.integerValue, hRead, hFits]
      · simp [hFits]
  · rw [hCoerces, Datatype.literalValue_of_isInteger raw hInt]
    rintro ⟨l, hRead, hFits⟩
    simp [Datatype.integerValue, hRead, hFits, TypedValue.isText]

theorem Datatype.coerces_date_iff (raw : String) :
    Datatype.date.Coerces raw ↔ Datatype.validate .date raw = .ok () :=
  (validate_date_iff raw).1.symm

theorem typesWhereCoerces_date (raw : String) : Datatype.date.TypesWhereCoerces raw := by
  apply typesWhereCoerces_of_readTyped?
  · intro v
    rw [Datatype.coerces_date_iff, validate_date_eq]
    cases hLex : lexDate raw with
    | none => simp [readTyped?, hLex]
    | some d =>
      by_cases hValid : d.isValid = true <;>
        simp [readTyped?, Datatype.literalValue, hLex, hValid]
  · rw [Datatype.coerces_date_iff, validate_date_eq]
    intro hOk
    cases hLex : lexDate raw with
    | none => simp [hLex] at hOk
    | some d => simp [Datatype.literalValue, hLex, TypedValue.isText]

theorem readTyped?_time_of_lex {raw : String} {p : TimeParts} (hLex : lexTime raw = some p)
    (v : TypedValue) :
    readTyped? .time raw = some v ↔
      p.WithinDay ∧ TypedValue.time p.timeOfDay (p.offset.map Offset.eastSeconds) = v := by
  rw [TimeParts.withinDay_iff]
  cases hOffset : p.offset with
  | none =>
    simp only [readTyped?, hLex, hOffset, Option.bind_eq_bind, Option.bind_some,
      Option.bind_eq_some_iff, pure, Option.some.injEq, TimeParts.toTimeOfDay?_eq_some_iff]
    constructor
    · rintro ⟨_, ⟨hFields, rfl⟩, rfl⟩
      exact ⟨⟨hFields, by rintro _ ⟨⟩⟩, rfl⟩
    · rintro ⟨⟨hFields, -⟩, rfl⟩
      exact ⟨_, ⟨hFields, rfl⟩, rfl⟩
  | some o =>
    simp only [readTyped?, hLex, hOffset, Option.bind_eq_bind, Option.bind_some,
      Option.bind_eq_some_iff, pure, Option.some.injEq, Option.map_eq_some_iff,
      TimeParts.toTimeOfDay?_eq_some_iff, Offset.seconds?_eq_some_iff, Option.map_some]
    constructor
    · rintro ⟨_, ⟨_, ⟨hDay, rfl⟩, rfl⟩, _, ⟨hFields, rfl⟩, rfl⟩
      refine ⟨⟨hFields, ?_⟩, rfl⟩
      rintro o' ⟨⟩
      exact hDay
    · rintro ⟨⟨hFields, hDay⟩, rfl⟩
      exact ⟨_, ⟨_, ⟨hDay o rfl, rfl⟩, rfl⟩, _, ⟨hFields, rfl⟩, rfl⟩

theorem Datatype.coerces_time_iff (raw : String) :
    Datatype.time.Coerces raw ↔ ∃ p, lexTime raw = some p ∧ p.WithinDay := by
  simp only [Datatype.Coerces, lexTime_eq_some_iff_text]
  constructor
  · rintro ⟨w, hw, hRaw, hDay⟩
    exact ⟨w.parts, ⟨w, hw, hRaw, rfl⟩, hDay⟩
  · rintro ⟨p, ⟨w, hw, hRaw, rfl⟩, hDay⟩
    exact ⟨w, hw, hRaw, hDay⟩

theorem typesWhereCoerces_time (raw : String) : Datatype.time.TypesWhereCoerces raw := by
  apply typesWhereCoerces_of_readTyped?
  · intro v
    rw [Datatype.coerces_time_iff]
    cases hLex : lexTime raw with
    | none => simp [readTyped?, hLex]
    | some p => simp [readTyped?_time_of_lex hLex, Datatype.literalValue, hLex]
  · rw [Datatype.coerces_time_iff]
    rintro ⟨p, hLex, -⟩
    simp [Datatype.literalValue, hLex, TypedValue.isText]

theorem lexDateTime_eq_some_iff_text (raw : String) (date : DateParts) (p : TimeParts) :
    lexDateTime raw = some (date, p) ↔
      ∃ (d : DateText) (w : TimeText), d.WellFormed ∧ w.WellFormed ∧
        raw.toList = d.chars ++ 'T' :: w.chars ∧ date = d.parts ∧ p = w.parts := by
  constructor
  · intro hLex
    obtain ⟨pre, rest, hRaw, hDate, hTime⟩ := (lexDateTime_eq_some_iff raw date p).mp hLex
    have hLexDate : lexDate (String.ofList pre) = some date := by
      rw [lexDate_eq_some_iff, String.toList_ofList]
      exact hDate
    obtain ⟨d, hd, hPre, rfl⟩ := (lexDate_eq_some_iff_text _ date).mp hLexDate
    obtain ⟨w, hw, rfl, rfl⟩ := TimeText.of_readTimeParts hTime
    rw [String.toList_ofList] at hPre
    exact ⟨d, w, hd, hw, by rw [hRaw, hPre], rfl, rfl⟩
  · rintro ⟨d, w, hd, hw, hRaw, rfl, rfl⟩
    exact lexDateTime_of_text hd hw hRaw

theorem readTyped?_dateTime_of_lex {raw : String} {date : DateParts} {p : TimeParts}
    (hLex : lexDateTime raw = some (date, p)) (v : TypedValue) :
    readTyped? .dateTime raw = some v ↔
      date.isValid = true ∧ p.WithinDay ∧
        TypedValue.ofDateTime date p.timeOfDay (p.offset.map Offset.eastSeconds) = v := by
  rw [TimeParts.withinDay_iff]
  by_cases hValid : date.isValid = true
  · cases hOffset : p.offset with
    | none =>
      simp only [readTyped?, hLex, hValid, hOffset, Option.bind_eq_bind, Option.bind_some,
        Bool.not_true, Bool.false_eq_true, if_false, Option.bind_eq_some_iff, pure,
        Option.some.injEq, TimeParts.toTimeOfDay?_eq_some_iff, true_and, Option.map_none]
      constructor
      · rintro ⟨_, ⟨hFields, rfl⟩, rfl⟩
        exact ⟨⟨hFields, by rintro _ ⟨⟩⟩, rfl⟩
      · rintro ⟨⟨hFields, -⟩, rfl⟩
        exact ⟨_, ⟨hFields, rfl⟩, rfl⟩
    | some o =>
      simp only [readTyped?, hLex, hValid, hOffset, Option.bind_eq_bind, Option.bind_some,
        Bool.not_true, Bool.false_eq_true, if_false, Option.bind_eq_some_iff,
        Option.map_eq_some_iff, TimeParts.toTimeOfDay?_eq_some_iff, Offset.seconds?_eq_some_iff,
        true_and, Option.map_some]
      constructor
      · rintro ⟨_, ⟨hFields, rfl⟩, _, ⟨hDay, rfl⟩, rfl⟩
        refine ⟨⟨hFields, ?_⟩, rfl⟩
        rintro o' ⟨⟩
        exact hDay
      · rintro ⟨⟨hFields, hDay⟩, rfl⟩
        exact ⟨_, ⟨hFields, rfl⟩, _, ⟨hDay o rfl, rfl⟩, rfl⟩
  · simp [readTyped?, hLex, hValid]

theorem Datatype.coerces_dateTime_iff (raw : String) :
    Datatype.dateTime.Coerces raw ↔
      ∃ date p, lexDateTime raw = some (date, p) ∧ date.isValid = true ∧ p.WithinDay := by
  simp only [Datatype.Coerces, lexDateTime_eq_some_iff_text]
  constructor
  · rintro ⟨d, w, hd, hw, hRaw, hCalendar, hDay⟩
    exact ⟨d.parts, w.parts, ⟨d, w, hd, hw, hRaw, rfl, rfl⟩,
      (DateParts.isValid_iff _).mpr hCalendar, hDay⟩
  · rintro ⟨date, p, ⟨d, w, hd, hw, hRaw, rfl, rfl⟩, hValid, hDay⟩
    exact ⟨d, w, hd, hw, hRaw, (DateParts.isValid_iff _).mp hValid, hDay⟩

theorem literalValue_dateTime_of_lex {raw : String} {date : DateParts} {p : TimeParts}
    (hLex : lexDateTime raw = some (date, p)) :
    Datatype.literalValue .dateTime raw =
      TypedValue.ofDateTime date p.timeOfDay (p.offset.map Offset.eastSeconds) := by
  cases hOffset : p.offset <;> simp [Datatype.literalValue, hLex, hOffset, TypedValue.ofDateTime]

theorem typesWhereCoerces_dateTime (raw : String) : Datatype.dateTime.TypesWhereCoerces raw := by
  apply typesWhereCoerces_of_readTyped?
  · intro v
    rw [Datatype.coerces_dateTime_iff]
    cases hLex : lexDateTime raw with
    | none => simp [readTyped?, hLex]
    | some parts =>
      obtain ⟨date, p⟩ := parts
      simp [readTyped?_dateTime_of_lex hLex, literalValue_dateTime_of_lex hLex, and_assoc]
  · rw [Datatype.coerces_dateTime_iff]
    rintro ⟨date, p, hLex, -, -⟩
    rw [literalValue_dateTime_of_lex hLex]
    cases p.offset <;> rfl

theorem typesWhereCoerces_text {t : Datatype}
    (hText : t = .string ∨ t = .normalizedString ∨ t = .anyUri ∨ t = .base64Binary ∨
      t = .hexBinary) (raw : String) : t.TypesWhereCoerces raw := by
  refine ⟨fun hCoerces => ?_, fun _ => ?_⟩
  · rcases hText with rfl | rfl | rfl | rfl | rfl <;> exact False.elim hCoerces
  · rcases hText with rfl | rfl | rfl | rfl | rfl <;> rfl

theorem typesWhereCoerces (t : Datatype) (raw : String) : t.TypesWhereCoerces raw := by
  cases t with
  | boolean => exact typesWhereCoerces_boolean raw
  | float => exact typesWhereCoerces_float (.inl rfl) raw
  | double => exact typesWhereCoerces_float (.inr rfl) raw
  | decimal => exact typesWhereCoerces_decimal raw
  | date => exact typesWhereCoerces_date raw
  | time => exact typesWhereCoerces_time raw
  | dateTime => exact typesWhereCoerces_dateTime raw
  | string => exact typesWhereCoerces_text (.inl rfl) raw
  | normalizedString => exact typesWhereCoerces_text (.inr (.inl rfl)) raw
  | anyUri => exact typesWhereCoerces_text (.inr (.inr (.inl rfl))) raw
  | base64Binary => exact typesWhereCoerces_text (.inr (.inr (.inr (.inl rfl)))) raw
  | hexBinary => exact typesWhereCoerces_text (.inr (.inr (.inr (.inr rfl)))) raw
  | byte | short | int | long | unsignedByte | unsignedShort | unsignedInt | unsignedLong
  | nonPositiveInteger | negativeInteger | nonNegativeInteger | positiveInteger =>
    exact typesWhereCoerces_integer rfl raw

/-- Typing a literal that was never checked gives, for every datatype and every text, the
value the literal names where `Datatype.Coerces` holds and the literal itself as text
everywhere else; a date is typed exactly when it passes the check. -/
theorem coerce_unchecked_literal (t : Datatype) (raw : String) :
    ((coerce t raw true).isText = false ↔ t.Coerces raw) ∧
      (t.Coerces raw → coerce t raw true = t.literalValue raw) ∧
      (¬ t.Coerces raw → coerce t raw true = .text raw) ∧
      (Datatype.date.Coerces raw ↔ Datatype.validate .date raw = .ok ()) := by
  obtain ⟨hValue, hText⟩ := typesWhereCoerces t raw
  refine ⟨⟨fun hNotText => ?_, fun hCoerces => ?_⟩, fun hCoerces => (hValue hCoerces).1, hText,
    Datatype.coerces_date_iff raw⟩
  · by_contra hCoerces
    rw [hText hCoerces] at hNotText
    cases hNotText
  · rw [(hValue hCoerces).1]
    exact (hValue hCoerces).2

example : coerce .byte "300" true = .integer 300 := by rfl

example : coerce .time "10:00+23:59" true = .time ⟨10, 0, 0, 0⟩ (some 86340) ∧
    Datatype.validate .time "10:00+23:59" =
      .error (.range .time "10:00+23:59" "offset hour within 00..14") :=
  ⟨rfl, by decide⟩

end AdminShell
