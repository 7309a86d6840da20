import Mathlib
import AdminShell.Proofs.TemporalGrammar

/-! # Typed dates and times are written in a normal form

Typing a checked date, time or date-time literal and writing the value as JSON gives a text
of the same datatype, and that text is a fixed point (`temporal_rendering_normal_form`): it
passes the check, types to the same value and is written as itself. A date is written back
as it was. A time keeps the digits of its hour, minute and second and differs from the
literal only as `TimeText.normalize` says: the seconds always written, the fraction with 3, 6
or 9 digits and none when it is zero, and the offset with a sign, `Z` and `-00:00` becoming
`+00:00`. A date-time is a date, a `T` and such a time.

The writer goes through numbers (`fractionText`, `offsetText`) where the normal form is said on
the text; `fractionText_fractionNanos` and `offsetText_eastSeconds` join the two.
-/

namespace AdminShell.Literal

set_option autoImplicit false

open Number

/-! ## The normal form of a written time -/

def nineDigits (f : List Char) : List Char :=
  f ++ List.replicate (9 - f.length) '0'

/-- A fraction written with 3, 6 or 9 digits, the fewest that keep its value, and not at
all when it is zero. -/
def normalFraction (f : List Char) : Option (List Char) :=
  if (nineDigits f).all (· == '0') then none
  else if ((nineDigits f).drop 3).all (· == '0') then some ((nineDigits f).take 3)
  else if ((nineDigits f).drop 6).all (· == '0') then some ((nineDigits f).take 6)
  else some (nineDigits f)

namespace OffsetText

def normalize : OffsetText → OffsetText
  | zulu => signed '+' ['0', '0'] ['0', '0']
  | signed sign hours minutes =>
    if (hours ++ minutes).all (· == '0') then signed '+' hours minutes
    else signed sign hours minutes

end OffsetText

namespace TimeText

/-- A time as typed values write it: the seconds always, `00` when the literal has none; the
fraction by `normalFraction`; the offset by `OffsetText.normalize`. -/
def normalize (w : TimeText) : TimeText :=
  { w with
    second := some ⟨(w.second.map SecondText.digits).getD ['0', '0'],
      (w.second.bind SecondText.fraction).bind normalFraction⟩
    offset := w.offset.map OffsetText.normalize }

end TimeText

/-! ## Fractions -/

section Fractions

variable {f : List Char}

theorem nineDigits_length (hLength : f.length ≤ 9) : (nineDigits f).length = 9 := by
  simp only [nineDigits, List.length_append, List.length_replicate]
  omega

theorem nineDigits_digits (hDigits : ∀ c ∈ f, c.isDigit = true) :
    ∀ c ∈ nineDigits f, c.isDigit = true := by
  intro c hc
  rcases List.mem_append.mp hc with hf | hZero
  · exact hDigits c hf
  · rw [List.eq_of_mem_replicate hZero]
    rfl

theorem fractionNanos_eq : fractionNanos f = digitsValue (nineDigits f) := rfl

theorem fractionText_fractionNanos (hLength : f.length ≤ 9) (hDigits : ∀ c ∈ f, c.isDigit = true) :
    (fractionText (fractionNanos f)).toList = ((normalFraction f).map ('.' :: ·)).getD [] := by
  have hNine := nineDigits_length hLength
  have hNineDigits := nineDigits_digits hDigits
  have hDropDigits (k : Nat) : ∀ c ∈ (nineDigits f).drop k, c.isDigit = true :=
    fun c hc => hNineDigits c (List.mem_of_mem_drop hc)
  have hTakeDigits (k : Nat) : ∀ c ∈ (nineDigits f).take k, c.isDigit = true :=
    fun c hc => hNineDigits c (List.mem_of_mem_take hc)
  obtain ⟨hDiv3, hMod3⟩ := digitsValue_div_mod hNineDigits 3
  obtain ⟨hDiv6, hMod6⟩ := digitsValue_div_mod hNineDigits 6
  rw [hNine] at hDiv3 hMod3 hDiv6 hMod6
  norm_num at hDiv3 hMod3 hDiv6 hMod6
  -- each test of the writer on the number is a test of the normal form on the digits
  have hZero : (nineDigits f).all (· == '0') = (digitsValue (nineDigits f) == 0) := by
    rw [Bool.eq_iff_iff, all_eq_zero_iff hNineDigits, beq_iff_eq]
  have hZero3 : ((nineDigits f).drop 3).all (· == '0') =
      (digitsValue (nineDigits f) % 1000000 == 0) := by
    rw [Bool.eq_iff_iff, all_eq_zero_iff (hDropDigits 3), beq_iff_eq, hMod3]
  have hZero6 : ((nineDigits f).drop 6).all (· == '0') =
      (digitsValue (nineDigits f) % 1000 == 0) := by
    rw [Bool.eq_iff_iff, all_eq_zero_iff (hDropDigits 6), beq_iff_eq, hMod6]
  have hLength3 : ((nineDigits f).take 3).length = 3 := by simp [hNine]
  have hLength6 : ((nineDigits f).take 6).length = 6 := by simp [hNine]
  rw [fractionNanos_eq, fractionText, normalFraction, hZero, hZero3, hZero6]
  split_ifs
  · rfl
  · rw [hDiv3, padded_digitsValue (hTakeDigits 3) hLength3 (by decide)]
    simp
  · rw [hDiv6, padded_digitsValue (hTakeDigits 6) hLength6 (by decide)]
    simp
  · rw [padded_digitsValue hNineDigits hNine (by decide)]
    simp

theorem normalFraction_spec (hLength : f.length ≤ 9) (hDigits : ∀ c ∈ f, c.isDigit = true) :
    (normalFraction f = none ∧ fractionNanos f = 0) ∨
      ∃ g, normalFraction f = some g ∧ (1 ≤ g.length ∧ g.length ≤ 9) ∧
        (∀ c ∈ g, c.isDigit = true) ∧ fractionNanos g = fractionNanos f := by
  have hNine := nineDigits_length hLength
  have hNineDigits := nineDigits_digits hDigits
  have hKeep (k : Nat) (hk : 1 ≤ k ∧ k ≤ 9)
      (hRest : ((nineDigits f).drop k).all (· == '0') = true) :
      (1 ≤ ((nineDigits f).take k).length ∧ ((nineDigits f).take k).length ≤ 9) ∧
        (∀ c ∈ (nineDigits f).take k, c.isDigit = true) ∧
        fractionNanos ((nineDigits f).take k) = fractionNanos f := by
    have hTakeLength : ((nineDigits f).take k).length = k := by simp [hNine]; omega
    refine ⟨by omega, fun c hc => hNineDigits c (List.mem_of_mem_take hc), ?_⟩
    have hZeros : (nineDigits f).drop k = List.replicate (9 - k) '0' := by
      rw [List.eq_replicate_iff]
      refine ⟨by simp [hNine], ?_⟩
      simpa [List.all_eq_true] using hRest
    rw [fractionNanos_eq, fractionNanos_eq, nineDigits, hTakeLength, ← hZeros,
      List.take_append_drop]
  unfold normalFraction
  split_ifs with hAll h3 h6
  · refine .inl ⟨rfl, ?_⟩
    rw [fractionNanos_eq]
    exact (all_eq_zero_iff hNineDigits).mp hAll
  · exact .inr ⟨_, rfl, hKeep 3 (by omega) h3⟩
  · exact .inr ⟨_, rfl, hKeep 6 (by omega) h6⟩
  · have hAllNine : (nineDigits f).take 9 = nineDigits f := List.take_of_length_le (by omega)
    have hNineKept := hKeep 9 (by omega) (by rw [List.drop_eq_nil_of_le (by omega)]; rfl)
    rw [hAllNine] at hNineKept
    exact .inr ⟨_, rfl, hNineKept⟩

end Fractions

/-! ## Offsets -/

theorem offsetText_signed (negative : Bool) (total : Nat) :
    offsetText (if negative then -(total : Int) else total) =
      (if negative ∧ 0 < total then "-" else "+") ++ padded 2 (total / 60 / 60) ++ ":" ++
        padded 2 (total / 60 % 60) := by
  cases negative with
  | false => simp [offsetText]
  | true =>
    by_cases hPos : 0 < total
    · simp [offsetText, hPos]
    · have hZero : total = 0 := by omega
      simp [offsetText, hZero]

namespace OffsetText

theorem normalize_wellFormed {o : OffsetText} (h : o.WellFormed) : o.normalize.WellFormed := by
  cases o with
  | zulu =>
    refine ⟨.inl rfl, rfl, rfl, ?_⟩
    intro c hc
    simp only [List.cons_append, List.nil_append, List.mem_cons, List.not_mem_nil, or_false] at hc
    rcases hc with rfl | rfl | rfl | rfl <;> rfl
  | signed sign hours minutes =>
    obtain ⟨hSign, hRest⟩ := h
    simp only [normalize]
    split_ifs
    · exact ⟨.inl rfl, hRest⟩
    · exact ⟨hSign, hRest⟩

theorem all_zero_iff_of_signed {hours minutes : List Char}
    (hDigits : ∀ c ∈ hours ++ minutes, c.isDigit = true) :
    (hours ++ minutes).all (· == '0') = true ↔ digitsValue hours = 0 ∧ digitsValue minutes = 0 := by
  simp only [List.forall_mem_append] at hDigits
  rw [List.all_append, Bool.and_eq_true, all_eq_zero_iff hDigits.1, all_eq_zero_iff hDigits.2]

theorem eastSeconds_normalize {o : OffsetText} (h : o.WellFormed) :
    o.normalize.parts.eastSeconds = o.parts.eastSeconds := by
  cases o with
  | zulu => rfl
  | signed sign hours minutes =>
    obtain ⟨-, -, -, hDigits⟩ := h
    simp only [normalize]
    split_ifs with hZero
    · -- a zero offset is zero whatever its sign
      obtain ⟨hHours, hMinutes⟩ := (all_zero_iff_of_signed hDigits).mp hZero
      simp [parts, Offset.eastSeconds, hHours, hMinutes]
    · rfl

theorem normalize_parts_fixed {o : OffsetText} {negative : Bool} {hours minutes : Nat}
    (h : o.normalize.parts = .fixed negative hours minutes) :
    (o = zulu ∧ hours = 0 ∧ minutes = 0) ∨ ∃ negative', o.parts = .fixed negative' hours minutes := by
  cases o with
  | zulu =>
    simp only [normalize, parts, Offset.fixed.injEq] at h
    exact .inl ⟨rfl, h.2.1.symm, h.2.2.symm⟩
  | signed sign hoursText minutesText =>
    simp only [normalize] at h
    split_ifs at h <;>
      · simp only [parts, Offset.fixed.injEq] at h
        exact .inr ⟨decide (sign = '-'), by simp [parts, h.2.1, h.2.2]⟩

theorem offsetText_eastSeconds {o : OffsetText} (h : o.WellFormed)
    (hMinutes : ∀ negative hours minutes, o.parts = .fixed negative hours minutes → minutes ≤ 59) :
    (offsetText o.parts.eastSeconds).toList = o.normalize.chars := by
  cases o with
  | zulu => decide
  | signed sign hours minutes =>
    obtain ⟨hSign, hHoursLength, hMinutesLength, hDigits⟩ := h
    have hDigits' := hDigits
    simp only [List.forall_mem_append] at hDigits'
    have hM : digitsValue minutes ≤ 59 := hMinutes _ _ _ rfl
    have hTotal : (3600 * digitsValue hours + 60 * digitsValue minutes) / 60 / 60 =
        digitsValue hours := by omega
    have hRem : (3600 * digitsValue hours + 60 * digitsValue minutes) / 60 % 60 =
        digitsValue minutes := by omega
    have hPadHours := padded_digitsValue hDigits'.1 hHoursLength (by decide)
    have hPadMinutes := padded_digitsValue hDigits'.2 hMinutesLength (by decide)
    simp only [parts, Offset.eastSeconds]
    rw [offsetText_signed, hTotal, hRem, hPadHours, hPadMinutes]
    simp only [normalize]
    by_cases hZero : (hours ++ minutes).all (· == '0') = true
    · -- a zero offset has no sign to keep
      obtain ⟨hHours, hMinutesZero⟩ := (all_zero_iff_of_signed hDigits).mp hZero
      rw [if_pos hZero, if_neg (by omega)]
      simp [chars]
    · -- any other offset keeps its sign
      have hPos : 0 < 3600 * digitsValue hours + 60 * digitsValue minutes := by
        by_contra hNotPos
        exact hZero ((all_zero_iff_of_signed hDigits).mpr (by omega))
      rw [if_neg hZero]
      rcases hSign with rfl | rfl
      · simp [chars]
      · simp [chars, hPos]

end OffsetText

/-! ## Times -/

namespace TimeText

variable {w : TimeText}

theorem normalize_wellFormed (h : w.WellFormed) : w.normalize.WellFormed := by
  obtain ⟨hour, minute, second, offset⟩ := w
  obtain ⟨hHour, hMinute, hDigits, hSecond, hOffset⟩ := h
  refine ⟨hHour, hMinute, hDigits, ?_, ?_⟩
  · rintro s ⟨⟩
    cases second with
    | none =>
      refine ⟨rfl, ?_, by simp⟩
      intro c hc
      simp only [Option.map_none, Option.getD_none, List.mem_cons, List.not_mem_nil,
        or_false] at hc
      rcases hc with rfl | rfl <;> rfl
    | some sec =>
      obtain ⟨ss, fraction⟩ := sec
      obtain ⟨hLength, hSecondDigits, hFraction⟩ := hSecond _ rfl
      refine ⟨hLength, hSecondDigits, ?_⟩
      intro g hg
      cases fraction with
      | none => cases hg
      | some f =>
        obtain ⟨-, hHi, hFractionDigits⟩ := hFraction f rfl
        rcases normalFraction_spec hHi hFractionDigits with ⟨hNone, -⟩ | ⟨g', hSome, hLen, hDig, -⟩
        · simp [hNone] at hg
        · simp only [Option.bind_some, hSome, Option.some.injEq] at hg
          subst hg
          exact ⟨hLen.1, hLen.2, hDig⟩
  · intro o hO
    simp only [normalize, Option.map_eq_some_iff] at hO
    obtain ⟨o', hO', rfl⟩ := hO
    exact OffsetText.normalize_wellFormed (hOffset o' hO')

theorem normalize_timeOfDay (h : w.WellFormed) :
    w.normalize.parts.timeOfDay = w.parts.timeOfDay := by
  obtain ⟨hour, minute, second, offset⟩ := w
  obtain ⟨-, -, -, hSecond, -⟩ := h
  cases second with
  | none => rfl
  | some sec =>
    obtain ⟨ss, fraction⟩ := sec
    cases fraction with
    | none => rfl
    | some f =>
      obtain ⟨-, -, hFraction⟩ := hSecond _ rfl
      obtain ⟨-, hHi, hFractionDigits⟩ := hFraction f rfl
      rcases normalFraction_spec hHi hFractionDigits with ⟨hNone, hZero⟩ | ⟨g, hSome, -, -, hNanos⟩
      · simp [parts, normalize, TimeParts.timeOfDay, hNone, hZero]
      · simp [parts, normalize, TimeParts.timeOfDay, hSome, hNanos]

theorem normalize_offsetSeconds (h : w.WellFormed) :
    w.normalize.parts.offset.map Offset.eastSeconds = w.parts.offset.map Offset.eastSeconds := by
  obtain ⟨hour, minute, second, offset⟩ := w
  obtain ⟨-, -, -, -, hOffset⟩ := h
  cases offset with
  | none => rfl
  | some o => simp [parts, normalize, OffsetText.eastSeconds_normalize (hOffset o rfl)]

theorem normalize_withinBounds (hBounds : w.parts.WithinBounds) : w.normalize.parts.WithinBounds := by
  obtain ⟨hour, minute, second, offset⟩ := w
  obtain ⟨hHour, hMinute, hSecond, hOffset⟩ := hBounds
  refine ⟨hHour, hMinute, ?_, ?_⟩
  · intro s hs
    cases second with
    | none =>
      simp only [parts, normalize, Option.map_none, Option.getD_none, Option.map_some,
        Option.some.injEq] at hs
      subst hs
      decide
    | some sec => exact hSecond s (by simpa [parts, normalize] using hs)
  · intro negative hours minutes hFixed
    cases offset with
    | none => simp [parts, normalize] at hFixed
    | some o =>
      simp only [parts, normalize, Option.map_some, Option.some.injEq] at hFixed
      rcases OffsetText.normalize_parts_fixed hFixed with ⟨-, rfl, rfl⟩ | ⟨negative', hParts⟩
      · omega
      · exact hOffset negative' hours minutes (by simp [parts, hParts])

theorem secondText_eq {second : Option SecondText} (hSecond : ∀ s, second = some s → s.WellFormed) :
    (padded 2 ((second.map (digitsValue ·.digits)).getD 0) ++
        fractionText (((second.bind SecondText.fraction).map fractionNanos).getD 0)).toList =
      (second.map SecondText.digits).getD ['0', '0'] ++
        ((((second.bind SecondText.fraction).bind normalFraction).map ('.' :: ·)).getD []) := by
  cases second with
  | none => decide
  | some sec =>
    obtain ⟨ss, fraction⟩ := sec
    obtain ⟨hLength, hDigits, hFraction⟩ := hSecond _ rfl
    have hPad := padded_digitsValue hDigits hLength (by decide)
    cases fraction with
    | none => simp [hPad, fractionText]
    | some f =>
      obtain ⟨-, hHi, hFractionDigits⟩ := hFraction f rfl
      simp [hPad, fractionText_fractionNanos hHi hFractionDigits]

theorem text_eq_normalize (h : w.WellFormed) (hBounds : w.parts.WithinBounds) :
    (w.parts.timeOfDay.text ++ ((w.parts.offset.map Offset.eastSeconds).map offsetText).getD "").toList =
      w.normalize.chars := by
  obtain ⟨hour, minute, second, offset⟩ := w
  obtain ⟨hHour, hMinute, hDigits, hSecond, hOffset⟩ := h
  obtain ⟨-, -, -, hOffsetBounds⟩ := hBounds
  dsimp only at hHour hMinute hSecond hOffset
  simp only [List.forall_mem_append] at hDigits
  have hPadHour := padded_digitsValue hDigits.1 hHour (by decide)
  have hPadMinute := padded_digitsValue hDigits.2 hMinute (by decide)
  have hOffsetText : ((((offset.map OffsetText.parts).map Offset.eastSeconds).map offsetText).getD "").toList =
      ((offset.map OffsetText.normalize).map OffsetText.chars).getD [] := by
    cases offset with
    | none => rfl
    | some o =>
      have hMinutes : ∀ negative hours minutes, o.parts = .fixed negative hours minutes →
          minutes ≤ 59 := fun negative hours minutes hFixed =>
        (hOffsetBounds negative hours minutes (by simp [parts, hFixed])).2
      simpa using OffsetText.offsetText_eastSeconds (hOffset o rfl) hMinutes
  have hSecondText := secondText_eq hSecond
  simp only [TimeOfDay.text, TimeParts.timeOfDay, parts, normalize, chars, SecondText.chars,
    Option.map_some, Option.getD_some, String.toList_append, hPadHour, hPadMinute,
    String.toList_ofList, List.append_assoc, List.cons_append]
  rw [← List.append_assoc _ (fractionText _).toList, ← String.toList_append, hSecondText,
    hOffsetText]
  simp

end TimeText

/-! ## Dates -/

theorem DateText.parts_text {w : DateText} (h : w.WellFormed) :
    w.parts.text = String.ofList w.chars := by
  obtain ⟨year, month, day⟩ := w
  obtain ⟨hYear, hMonth, hDay, hDigits⟩ := h
  dsimp only at hYear hMonth hDay
  simp only [List.forall_mem_append] at hDigits
  have hPadYear := padded_digitsValue hDigits.1.1 hYear (by decide)
  have hPadMonth := padded_digitsValue hDigits.1.2 hMonth (by decide)
  have hPadDay := padded_digitsValue hDigits.2 hDay (by decide)
  apply String.toList_injective
  simp [DateParts.text, parts, chars, hPadYear, hPadMonth, hPadDay]

end AdminShell.Literal

namespace AdminShell

open Literal Number

set_option autoImplicit false

/-! ## Typing what was written -/

/-- A date and a time of day as one typed value: a date-time with an offset, a local
date-time without one. -/
def TypedValue.ofDateTime (d : DateParts) (t : TimeOfDay) : Option Int → TypedValue
  | some offset => .dateTime d t offset
  | none => .localDateTime d t

theorem TypedValue.toNode_ofDateTime (d : DateParts) (t : TimeOfDay) (offset : Option Int) :
    (ofDateTime d t offset).toNode = .str (d.text ++ "T" ++ (t.text ++ (offset.map offsetText).getD "")) := by
  cases offset <;> simp [ofDateTime, toNode, String.append_assoc]

theorem coerce_time_of_lex {raw : String} {p : TimeParts} (h : Datatype.validate .time raw = .ok ())
    (hLex : lexTime raw = some p) :
    coerce .time raw true = .time p.timeOfDay (p.offset.map Offset.eastSeconds) := by
  simp [coerce_eq_literalValue h, Datatype.literalValue, hLex]

theorem coerce_dateTime_of_lex {raw : String} {date : DateParts} {p : TimeParts}
    (h : Datatype.validate .dateTime raw = .ok ()) (hLex : lexDateTime raw = some (date, p)) :
    coerce .dateTime raw true =
      TypedValue.ofDateTime date p.timeOfDay (p.offset.map Offset.eastSeconds) := by
  rw [coerce_eq_literalValue h]
  cases hOffset : p.offset <;> simp [Datatype.literalValue, hLex, hOffset, TypedValue.ofDateTime]

theorem validate_time_of_lex {raw : String} {p : TimeParts} (hLex : lexTime raw = some p)
    (hBounds : p.WithinBounds) : Datatype.validate .time raw = .ok () := by
  rw [validate_time_eq, hLex, validateTimeBounds_eq_ok_iff, TimeParts.checkBounds_eq_ok_iff]
  exact hBounds

theorem validate_dateTime_of_lex {raw : String} {date : DateParts} {p : TimeParts}
    (hLex : lexDateTime raw = some (date, p)) (hValid : date.isValid = true)
    (hBounds : p.WithinBounds) : Datatype.validate .dateTime raw = .ok () := by
  rw [validate_dateTime_eq, hLex]
  simp only [hValid, if_true, validateTimeBounds_eq_ok_iff, TimeParts.checkBounds_eq_ok_iff]
  exact hBounds

theorem lexDateTime_of_text {raw : String} {d : DateText} {w : TimeText} (hd : d.WellFormed)
    (hw : w.WellFormed) (hRaw : raw.toList = d.chars ++ 'T' :: w.chars) :
    lexDateTime raw = some (d.parts, w.parts) := by
  have hSplit : raw = String.ofList d.chars ++ "T" ++ String.ofList w.chars := by
    apply String.toList_injective
    simp [hRaw]
  have hDate := (lexDate_eq_some_iff_text (String.ofList d.chars) d.parts).mpr ⟨d, hd, by simp, rfl⟩
  have hTime := (lexTime_eq_some_iff_text (String.ofList w.chars) w.parts).mpr ⟨w, hw, by simp, rfl⟩
  rw [hSplit, lexDateTime_append, hDate, hTime]
  rfl

/-! ## The normal form is a fixed point -/

/-- Typing `raw` writes the JSON text `s`, and `s` is a fixed point: it passes the check,
types to the same value and is written as itself. -/
def RendersStably (t : Datatype) (raw s : String) : Prop :=
  (coerce t raw true).toNode = .str s ∧ t.validate s = .ok () ∧
    coerce t s true = coerce t raw true ∧ (coerce t s true).toNode = .str s

theorem rendersStably_of_coerce {t : Datatype} {raw s : String} {v : TypedValue}
    (hRaw : coerce t raw true = v) (hValid : t.validate s = .ok ()) (hText : coerce t s true = v)
    (hNode : v.toNode = .str s) : RendersStably t raw s :=
  ⟨hRaw ▸ hNode, hValid, hText.trans hRaw.symm, hText ▸ hNode⟩

theorem date_renders_stably {raw : String} (h : Datatype.validate .date raw = .ok ()) :
    RendersStably .date raw raw := by
  obtain ⟨w, hw, hRaw, -⟩ := (validate_date_iff raw).1.1 h
  have hLex := (lexDate_eq_some_iff_text raw w.parts).mpr ⟨w, hw, hRaw, rfl⟩
  have hCoerce : coerce .date raw true = .date w.parts := by
    simp [coerce_eq_literalValue h, Datatype.literalValue, hLex]
  refine rendersStably_of_coerce hCoerce h hCoerce ?_
  rw [TypedValue.toNode, DateText.parts_text hw, ← hRaw, String.ofList_toList]

theorem time_renders_stably {raw : String} (h : Datatype.validate .time raw = .ok ()) :
    ∃ w : TimeText, w.WellFormed ∧ raw.toList = w.chars ∧
      RendersStably .time raw (String.ofList w.normalize.chars) := by
  obtain ⟨w, hw, hRaw, hBounds⟩ := (validate_time_iff raw).1.1 h
  have hNormal := TimeText.normalize_wellFormed hw
  have hLex := (lexTime_eq_some_iff_text raw w.parts).mpr ⟨w, hw, hRaw, rfl⟩
  have hLexNormal := (lexTime_eq_some_iff_text (String.ofList w.normalize.chars)
    w.normalize.parts).mpr ⟨w.normalize, hNormal, String.toList_ofList, rfl⟩
  have hValid := validate_time_of_lex hLexNormal (TimeText.normalize_withinBounds hBounds)
  refine ⟨w, hw, hRaw, rendersStably_of_coerce (coerce_time_of_lex h hLex) hValid ?_ ?_⟩
  · rw [coerce_time_of_lex hValid hLexNormal, TimeText.normalize_timeOfDay hw,
      TimeText.normalize_offsetSeconds hw]
  · rw [TypedValue.toNode, ← TimeText.text_eq_normalize hw hBounds, String.ofList_toList]

theorem dateTime_renders_stably {raw : String} (h : Datatype.validate .dateTime raw = .ok ()) :
    ∃ (d : DateText) (w : TimeText), d.WellFormed ∧ w.WellFormed ∧
      raw.toList = d.chars ++ 'T' :: w.chars ∧
      RendersStably .dateTime raw (String.ofList (d.chars ++ 'T' :: w.normalize.chars)) := by
  obtain ⟨dRaw, tRaw, hSplit, -, hDate, hTime⟩ := dateTime_validation_composes.2.1 raw |>.mp h
  obtain ⟨d, hd, hdRaw, hCalendar⟩ := (validate_date_iff dRaw).1.1 hDate
  obtain ⟨w, hw, htRaw, hBounds⟩ := (validate_time_iff tRaw).1.1 hTime
  have hRaw : raw.toList = d.chars ++ 'T' :: w.chars := by simp [hSplit, hdRaw, htRaw]
  have hNormal := TimeText.normalize_wellFormed hw
  have hLex := lexDateTime_of_text hd hw hRaw
  have hLexNormal := lexDateTime_of_text hd hNormal
    String.toList_ofList
  have hValid := validate_dateTime_of_lex hLexNormal ((DateParts.isValid_iff _).mpr hCalendar)
    (TimeText.normalize_withinBounds hBounds)
  refine ⟨d, w, hd, hw, hRaw, rendersStably_of_coerce (coerce_dateTime_of_lex h hLex) hValid ?_ ?_⟩
  · rw [coerce_dateTime_of_lex hValid hLexNormal, TimeText.normalize_timeOfDay hw,
      TimeText.normalize_offsetSeconds hw]
  · rw [TypedValue.toNode_ofDateTime]
    apply congrArg Json.Node.str
    apply String.toList_injective
    rw [String.toList_append, String.toList_append, TimeText.text_eq_normalize hw hBounds,
      DateText.parts_text hd]
    simp

/-- Typing a checked date, time or date-time and writing it as JSON gives a text `s` that is
a fixed point. A date is written as it was; a time is written as `TimeText.normalize` of the
literal, and a date-time as its date, a `T` and that normal form of its time. -/
theorem temporal_rendering_normal_form (t : Datatype)
    (hTemporal : t = .date ∨ t = .time ∨ t = .dateTime) (raw : String)
    (h : t.validate raw = .ok ()) :
    ∃ s, RendersStably t raw s ∧ (t = .date → s = raw) ∧
      (t = .time → ∃ w : TimeText, w.WellFormed ∧ raw.toList = w.chars ∧
        s.toList = w.normalize.chars) ∧
      (t = .dateTime → ∃ (d : DateText) (w : TimeText), d.WellFormed ∧ w.WellFormed ∧
        raw.toList = d.chars ++ 'T' :: w.chars ∧ s.toList = d.chars ++ 'T' :: w.normalize.chars) := by
  rcases hTemporal with rfl | rfl | rfl
  · exact ⟨raw, date_renders_stably h, fun _ => rfl, nofun, nofun⟩
  · obtain ⟨w, hw, hRaw, hStable⟩ := time_renders_stably h
    exact ⟨_, hStable, nofun, fun _ => ⟨w, hw, hRaw, String.toList_ofList⟩, nofun⟩
  · obtain ⟨d, w, hd, hw, hRaw, hStable⟩ := dateTime_renders_stably h
    exact ⟨_, hStable, nofun, nofun, fun _ => ⟨d, w, hd, hw, hRaw, String.toList_ofList⟩⟩

theorem utc_time_renders_with_seconds :
    Datatype.time = .time ∧ Datatype.validate .time "10:00Z" = .ok () ∧
      ∃ s, RendersStably .time "10:00Z" s ∧ (Datatype.time = .date → s = "10:00Z") ∧
        (Datatype.time = .time → ∃ w : TimeText, w.WellFormed ∧ "10:00Z".toList = w.chars ∧
          s.toList = w.normalize.chars) ∧
        (Datatype.time = .dateTime → ∃ (d : DateText) (w : TimeText), d.WellFormed ∧
          w.WellFormed ∧ "10:00Z".toList = d.chars ++ 'T' :: w.chars ∧
          s.toList = d.chars ++ 'T' :: w.normalize.chars) :=
  ⟨rfl, by decide, temporal_rendering_normal_form .time (.inr (.inl rfl)) "10:00Z" (by decide)⟩

example : (coerce .time "10:00Z" true).toNode = .str "10:00:00+00:00" := by rfl

example : (coerce .dateTime "0001-02-03T04:05:06.000000001-00:00" true).toNode =
    .str "0001-02-03T04:05:06.000000001+00:00" := by rfl

end AdminShell
