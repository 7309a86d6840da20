import Mathlib
import AdminShell.Proofs.TypedCoercion
import AdminShell.Proofs.Numerals

/-! # The grammar of dates and times

A date is written `YYYY-MM-DD` and a time `hh:mm[:ss[.f]][Z|±hh:mm]`, with ASCII digits, a
fraction of one to nine digits and nothing around the form. `DateText` and `TimeText` are the
pieces of such a text, and the readers of the model recognise exactly their texts
(`lexDate_eq_some_iff_text`, `lexTime_eq_some_iff_text`), each read as the numbers its
pieces spell.

Validation then checks the numbers: a date must be a real date of the proleptic Gregorian
calendar from year 1 (`IsCalendarDate`, said without the model's month table), a time's fields
must lie within their bounds, and a failing time names the first failing field in the order
hour, minute, second, offset hour, offset minute (`TimeParts.fieldChecks`). A text that is no
form at all is a format error in both cases.
-/

namespace AdminShell.Literal

set_option autoImplicit false

open Number

/-! ## Written dates -/

/-- A date as written, `YYYY-MM-DD`: the digits of its year, month and day. -/
structure DateText where
  year : List Char
  month : List Char
  day : List Char

namespace DateText

def chars (w : DateText) : List Char :=
  w.year ++ '-' :: (w.month ++ '-' :: w.day)

def WellFormed (w : DateText) : Prop :=
  w.year.length = 4 ∧ w.month.length = 2 ∧ w.day.length = 2 ∧
    ∀ c ∈ w.year ++ w.month ++ w.day, c.isDigit = true

def parts (w : DateText) : DateParts :=
  ⟨digitsValue w.year, digitsValue w.month, digitsValue w.day⟩

end DateText

theorem lexDate_eq_some_iff_text (raw : String) (date : DateParts) :
    lexDate raw = some date ↔
      ∃ w : DateText, w.WellFormed ∧ raw.toList = w.chars ∧ date = w.parts := by
  rw [lexDate_eq_some_iff, readDateParts_eq_some_iff]
  constructor
  · rintro ⟨y, m, d, hRaw, hy, hm, hd, hDigits, rfl⟩
    exact ⟨⟨y, m, d⟩, ⟨hy, hm, hd, hDigits⟩, by simpa [DateText.chars] using hRaw, rfl⟩
  · rintro ⟨⟨y, m, d⟩, ⟨hy, hm, hd, hDigits⟩, hRaw, rfl⟩
    exact ⟨y, m, d, by simpa [DateText.chars] using hRaw, hy, hm, hd, hDigits, rfl⟩

/-! ## The calendar -/

def IsLeapYear (y : Nat) : Prop :=
  y % 4 = 0 ∧ (y % 100 ≠ 0 ∨ y % 400 = 0)

/-- A real date of the proleptic Gregorian calendar from year 1: a month from 1 to 12 and a
day of it, April, June, September and November having 30 days, February 29 in a leap year
and 28 otherwise, and the other months 31. -/
def IsCalendarDate (y m d : Nat) : Prop :=
  1 ≤ y ∧ 1 ≤ m ∧ m ≤ 12 ∧ 1 ≤ d ∧ d ≤ 31 ∧ (m = 4 ∨ m = 6 ∨ m = 9 ∨ m = 11 → d ≤ 30) ∧
    (m = 2 → d ≤ 28 ∨ d = 29 ∧ IsLeapYear y)

theorem isLeapYear_iff (y : Nat) : isLeapYear y = true ↔ IsLeapYear y := by
  simp [isLeapYear, IsLeapYear]

theorem DateParts.isValid_iff (d : DateParts) :
    d.isValid = true ↔ IsCalendarDate d.year d.month d.day := by
  obtain ⟨y, m, day⟩ := d
  have hLeap := isLeapYear_iff y
  simp only [IsLeapYear] at hLeap
  simp only [DateParts.isValid, IsCalendarDate, IsLeapYear, Bool.and_eq_true, decide_eq_true_eq]
  unfold daysInMonth
  split
  case h_12 =>
    by_cases hIs : isLeapYear y = true
    · have hRule := hLeap.mp hIs
      simp only [hIs, if_true, true_implies]
      omega
    · have hRule := mt hLeap.mpr hIs
      simp only [hIs, Bool.false_eq_true, if_false, true_implies]
      omega
  case h_13 =>
    simp only [imp_false] at *
    omega
  all_goals omega

/-! ## Written times -/

/-- The offset of a written time: `Z`, or a sign, two hour digits, `:` and two minute
digits. -/
inductive OffsetText where
  | zulu
  | signed (sign : Char) (hours minutes : List Char)

namespace OffsetText

def chars : OffsetText → List Char
  | zulu => ['Z']
  | signed sign hours minutes => sign :: (hours ++ ':' :: minutes)

def WellFormed : OffsetText → Prop
  | zulu => True
  | signed sign hours minutes =>
    (sign = '+' ∨ sign = '-') ∧ hours.length = 2 ∧ minutes.length = 2 ∧
      ∀ c ∈ hours ++ minutes, c.isDigit = true

def parts : OffsetText → Offset
  | zulu => .utc
  | signed sign hours minutes => .fixed (decide (sign = '-')) (digitsValue hours) (digitsValue minutes)

end OffsetText

/-- The seconds of a written time: two digits, then the digits of a fraction if any. -/
structure SecondText where
  digits : List Char
  fraction : Option (List Char)

structure TimeText where
  hour : List Char
  minute : List Char
  second : Option SecondText
  offset : Option OffsetText

namespace SecondText

def chars (s : SecondText) : List Char :=
  ':' :: (s.digits ++ (s.fraction.map ('.' :: ·)).getD [])

def WellFormed (s : SecondText) : Prop :=
  s.digits.length = 2 ∧ (∀ c ∈ s.digits, c.isDigit = true) ∧
    ∀ f, s.fraction = some f → 1 ≤ f.length ∧ f.length ≤ 9 ∧ ∀ c ∈ f, c.isDigit = true

end SecondText

def fractionNanos (f : List Char) : Nat :=
  digitsValue (f ++ List.replicate (9 - f.length) '0')

namespace TimeText

def chars (w : TimeText) : List Char :=
  w.hour ++ ':' :: (w.minute ++
    ((w.second.map SecondText.chars).getD [] ++ (w.offset.map OffsetText.chars).getD []))

def WellFormed (w : TimeText) : Prop :=
  w.hour.length = 2 ∧ w.minute.length = 2 ∧ (∀ c ∈ w.hour ++ w.minute, c.isDigit = true) ∧
    (∀ s, w.second = some s → s.WellFormed) ∧ ∀ o, w.offset = some o → o.WellFormed

def parts (w : TimeText) : TimeParts :=
  ⟨digitsValue w.hour, digitsValue w.minute, w.second.map (digitsValue ·.digits),
    ((w.second.bind SecondText.fraction).map fractionNanos).getD 0,
    w.offset.map OffsetText.parts⟩

end TimeText

/-! ## Reading the pieces of a time -/

def NoDigitHead (r : List Char) : Prop :=
  ∀ c rest, r = c :: rest → c.isDigit = false

theorem fixedDigits_append {n : Nat} {ds : List Char} (r : List Char) (hLength : ds.length = n)
    (hDigits : ∀ c ∈ ds, c.isDigit = true) : fixedDigits n (ds ++ r) = some (digitsValue ds, r) :=
  (fixedDigits_eq_some_iff _ _ _ _).mpr ⟨ds, rfl, hLength, hDigits, rfl⟩

theorem takeWhile_digits_append {ds r : List Char} (hDigits : ∀ c ∈ ds, c.isDigit = true)
    (hRest : NoDigitHead r) : (ds ++ r).takeWhile Char.isDigit = ds := by
  induction ds with
  | nil =>
    cases r with
    | nil => rfl
    | cons c rest => simp [hRest c rest rfl]
  | cons c ds ih =>
    have hc := hDigits c List.mem_cons_self
    simp [hc, ih fun d hd => hDigits d (List.mem_cons_of_mem c hd)]

namespace OffsetText

theorem noDigitHead_chars (o : OffsetText) (h : o.WellFormed) : NoDigitHead o.chars := by
  intro c rest hChars
  cases o with
  | zulu =>
    cases hChars
    rfl
  | signed sign hours minutes =>
    obtain ⟨hSign, -⟩ := h
    cases hChars
    rcases hSign with rfl | rfl <;> rfl

theorem readOffset_chars (o : OffsetText) (h : o.WellFormed) :
    readOffset o.chars = some (some o.parts) := by
  cases o with
  | zulu => rfl
  | signed sign hours minutes =>
    obtain ⟨hSign, hHours, hMinutes, hDigits⟩ := h
    have hSign' : (sign = '+' || sign = '-') = true := by
      rcases hSign with rfl | rfl <;> rfl
    simp only [List.forall_mem_append] at hDigits
    have hZ : sign :: (hours ++ ':' :: minutes) ≠ ['Z'] := by
      rcases hSign with rfl | rfl <;> simp
    have hMinutesRead : fixedDigits 2 minutes = some (digitsValue minutes, []) := by
      simpa using fixedDigits_append [] hMinutes hDigits.2
    simp only [chars, readOffset]
    split
    · rename_i hEq
      exact absurd hEq (List.cons_ne_nil _ _)
    · rename_i hEq
      exact absurd hEq hZ
    · rename_i c r hEq
      obtain ⟨rfl, rfl⟩ := List.cons.inj hEq
      simp [hSign', fixedDigits_append _ hHours hDigits.1, expectChar, hMinutesRead, parts]

theorem of_readOffset {cs : List Char} {offset : Option Offset}
    (h : readOffset cs = some offset) :
    cs = [] ∧ offset = none ∨ ∃ o : OffsetText, o.WellFormed ∧ cs = o.chars ∧ offset = some o.parts := by
  unfold readOffset at h
  split at h
  · exact .inl ⟨rfl, (Option.some.inj h).symm⟩
  · exact .inr ⟨.zulu, trivial, rfl, (Option.some.inj h).symm⟩
  · rename_i _ c r _
    split at h
    · rename_i hSign
      simp only [Option.bind_eq_bind, Option.bind_eq_some_iff, Prod.exists,
        fixedDigits_eq_some_iff, expectChar_eq_some_iff] at h
      obtain ⟨_, _, ⟨hours, rfl, hHours, hDigitsH, rfl⟩, _, rfl, _, _,
        ⟨minutes, rfl, hMinutes, hDigitsM, rfl⟩, hEnd⟩ := h
      split at hEnd
      · rename_i hEmpty
        simp only [List.isEmpty_iff] at hEmpty
        subst hEmpty
        simp only [pure, Option.some.injEq] at hEnd
        refine .inr ⟨.signed c hours minutes, ⟨?_, hHours, hMinutes, ?_⟩, by simp [chars], ?_⟩
        · simpa using hSign
        · exact List.forall_mem_append.mpr ⟨hDigitsH, hDigitsM⟩
        · rw [← hEnd]
          rfl
      · cases hEnd
    · cases h

end OffsetText

theorem readFraction_point {f : List Char} (r : List Char) (hLength : 1 ≤ f.length ∧ f.length ≤ 9)
    (hDigits : ∀ c ∈ f, c.isDigit = true) (hRest : NoDigitHead r) :
    readFraction ('.' :: (f ++ r)) = some (fractionNanos f, r) := by
  have hTake := takeWhile_digits_append hDigits hRest
  have hNe : f.isEmpty = false := by
    cases f with
    | nil => simp at hLength
    | cons _ _ => rfl
  simp [readFraction, hTake, hNe, show ¬ 9 < f.length by omega, fractionNanos]

theorem readFraction_of_not_point {cs : List Char} (h : ∀ rest, cs ≠ '.' :: rest) :
    readFraction cs = some (0, cs) := by
  unfold readFraction
  split
  · rename_i rest
    exact absurd rfl (h rest)
  · rfl

theorem of_readFraction {cs r : List Char} {nanos : Nat} (h : readFraction cs = some (nanos, r)) :
    (cs = r ∧ nanos = 0 ∧ ∀ rest, cs ≠ '.' :: rest) ∨
      ∃ f, cs = '.' :: (f ++ r) ∧ (1 ≤ f.length ∧ f.length ≤ 9) ∧ (∀ c ∈ f, c.isDigit = true) ∧
        NoDigitHead r ∧ nanos = fractionNanos f := by
  unfold readFraction at h
  split at h
  · rename_i rest
    dsimp only at h
    split at h
    · cases h
    · rename_i hLength
      simp only [Option.some.injEq, Prod.mk.injEq] at h
      obtain ⟨rfl, rfl⟩ := h
      refine .inr ⟨rest.takeWhile Char.isDigit, ?_, ?_, fun c hc => List.mem_takeWhile_imp hc, ?_, rfl⟩
      · simp [takeWhile_append_drop_length]
      · simp only [Bool.or_eq_true, List.isEmpty_iff, decide_eq_true_eq, not_or] at hLength
        have hPos := List.length_pos_iff.mpr hLength.1
        omega
      · -- the fraction stops at the first character that is no digit
        intro c tail hTail
        have hSplit := List.takeWhile_append_dropWhile (p := Char.isDigit) (l := rest)
        have hDrop : rest.drop (rest.takeWhile Char.isDigit).length =
            rest.dropWhile Char.isDigit := by
          calc rest.drop (rest.takeWhile Char.isDigit).length
              = (rest.takeWhile Char.isDigit ++ rest.dropWhile Char.isDigit).drop
                  (rest.takeWhile Char.isDigit).length := by rw [hSplit]
            _ = rest.dropWhile Char.isDigit := List.drop_left
        have hHead := List.head?_dropWhile_not Char.isDigit rest
        rw [← hDrop, hTail] at hHead
        exact hHead
  · simp only [Option.some.injEq, Prod.mk.injEq] at h
    obtain ⟨rfl, rfl⟩ := h
    rename_i hNoPoint
    exact .inl ⟨rfl, rfl, fun rest hEq => hNoPoint rest hEq⟩

namespace TimeText

theorem noDigitHead_offsetChars {offset : Option OffsetText}
    (h : ∀ o, offset = some o → o.WellFormed) : NoDigitHead ((offset.map OffsetText.chars).getD []) := by
  cases offset with
  | none => intro c rest hEq; cases hEq
  | some o => exact o.noDigitHead_chars (h o rfl)

theorem offsetChars_ne_cons {offset : Option OffsetText} (h : ∀ o, offset = some o → o.WellFormed)
    {c : Char} (hc : c = ':' ∨ c = '.') (rest : List Char) :
    (offset.map OffsetText.chars).getD [] ≠ c :: rest := by
  intro hEq
  cases offset with
  | none => cases hEq
  | some o =>
    cases o with
    | zulu =>
      simp only [Option.map_some, Option.getD_some, OffsetText.chars, List.cons.injEq] at hEq
      rcases hc with rfl | rfl <;> simp at hEq
    | signed sign hours minutes =>
      obtain ⟨hSign, -⟩ := h _ rfl
      simp only [Option.map_some, Option.getD_some, OffsetText.chars, List.cons.injEq] at hEq
      rcases hSign with rfl | rfl <;> rcases hc with rfl | rfl <;> simp at hEq

theorem readOffset_offsetChars {offset : Option OffsetText}
    (h : ∀ o, offset = some o → o.WellFormed) :
    readOffset ((offset.map OffsetText.chars).getD []) = some (offset.map OffsetText.parts) := by
  cases offset with
  | none => rfl
  | some o => exact o.readOffset_chars (h o rfl)

theorem readTimeParts_chars (w : TimeText) (h : w.WellFormed) :
    readTimeParts w.chars = some w.parts := by
  obtain ⟨hour, minute, second, offset⟩ := w
  obtain ⟨hHour, hMinute, hDigits, hSecond, hOffset⟩ := h
  simp only [List.forall_mem_append] at hDigits
  have hOffsetRead := readOffset_offsetChars hOffset
  simp only [readTimeParts, chars, fixedDigits_append _ hHour hDigits.1, expectChar,
    fixedDigits_append _ hMinute hDigits.2, Option.bind_eq_bind, Option.bind_some, if_true]
  cases second with
  | none =>
    simp only [Option.map_none, Option.getD_none, List.nil_append]
    split
    · rename_i rest hEq
      exact absurd hEq (offsetChars_ne_cons hOffset (.inl rfl) rest)
    · simp [hOffsetRead, parts]
  | some sec =>
    obtain ⟨ss, fraction⟩ := sec
    obtain ⟨hSecondLength, hSecondDigits, hFraction⟩ := hSecond _ rfl
    simp only [Option.map_some, Option.getD_some, SecondText.chars, List.cons_append,
      List.append_assoc, fixedDigits_append _ hSecondLength hSecondDigits, Option.bind_some]
    cases fraction with
    | none =>
      have hNoFraction := readFraction_of_not_point (offsetChars_ne_cons hOffset (.inr rfl))
      simp [hNoFraction, hOffsetRead, parts]
    | some f =>
      obtain ⟨hLo, hHi, hFractionDigits⟩ := hFraction f rfl
      have hRead := readFraction_point _ ⟨hLo, hHi⟩ hFractionDigits (noDigitHead_offsetChars hOffset)
      simp [hRead, hOffsetRead, parts]

theorem writtenFraction_of_readFraction {cs r : List Char} {nanos : Nat}
    (h : readFraction cs = some (nanos, r)) :
    ∃ fraction : Option (List Char),
      (∀ f, fraction = some f → 1 ≤ f.length ∧ f.length ≤ 9 ∧ ∀ c ∈ f, c.isDigit = true) ∧
      cs = (fraction.map ('.' :: ·)).getD [] ++ r ∧ nanos = (fraction.map fractionNanos).getD 0 := by
  rcases of_readFraction h with ⟨rfl, rfl, -⟩ | ⟨f, rfl, hLength, hDigits, -, rfl⟩
  · exact ⟨none, by simp, rfl, rfl⟩
  · refine ⟨some f, ?_, rfl, rfl⟩
    rintro _ ⟨⟩
    exact ⟨hLength.1, hLength.2, hDigits⟩

theorem writtenOffset_of_readOffset {cs : List Char} {offset : Option Offset}
    (h : readOffset cs = some offset) :
    ∃ written : Option OffsetText, (∀ o, written = some o → o.WellFormed) ∧
      cs = (written.map OffsetText.chars).getD [] ∧ offset = written.map OffsetText.parts := by
  rcases OffsetText.of_readOffset h with ⟨rfl, rfl⟩ | ⟨o, ho, rfl, rfl⟩
  · exact ⟨none, by simp, rfl, rfl⟩
  · refine ⟨some o, ?_, rfl, rfl⟩
    rintro _ ⟨⟩
    exact ho

theorem of_readTimeParts {cs : List Char} {p : TimeParts} (h : readTimeParts cs = some p) :
    ∃ w : TimeText, w.WellFormed ∧ cs = w.chars ∧ p = w.parts := by
  simp only [readTimeParts, Option.bind_eq_bind, Option.bind_eq_some_iff, Prod.exists,
    fixedDigits_eq_some_iff, expectChar_eq_some_iff] at h
  obtain ⟨_, _, ⟨hh, rfl, hHour, hDigitsH, rfl⟩, _, rfl, _, rest,
    ⟨mm, rfl, hMinute, hDigitsM, rfl⟩, h⟩ := h
  have hDigits : ∀ c ∈ hh ++ mm, c.isDigit = true := List.forall_mem_append.mpr ⟨hDigitsH, hDigitsM⟩
  split at h
  · -- seconds, then a fraction or none, then the offset
    simp only [Option.bind_eq_some_iff, Prod.exists, fixedDigits_eq_some_iff, pure] at h
    obtain ⟨_, _, ⟨ss, rfl, hSecond, hDigitsS, rfl⟩, _, _, hFraction, _, _, _, hSame, _,
      hOffset, hResult⟩ := h
    simp only [Option.some.injEq, Prod.mk.injEq] at hSame hResult
    obtain ⟨rfl, rfl, rfl⟩ := hSame
    subst hResult
    obtain ⟨fraction, hFractionOk, rfl, rfl⟩ := writtenFraction_of_readFraction hFraction
    obtain ⟨offset, hOffsetOk, rfl, rfl⟩ := writtenOffset_of_readOffset hOffset
    refine ⟨⟨hh, mm, some ⟨ss, fraction⟩, offset⟩, ⟨hHour, hMinute, hDigits, ?_, hOffsetOk⟩,
      by simp [chars, SecondText.chars], rfl⟩
    rintro s ⟨⟩
    exact ⟨hSecond, hDigitsS, hFractionOk⟩
  · -- no seconds: the offset follows the minutes
    simp only [Option.bind_eq_some_iff, pure] at h
    obtain ⟨_, hSame, _, hOffset, hResult⟩ := h
    cases hSame
    simp only [Option.some.injEq] at hResult
    subst hResult
    obtain ⟨offset, hOffsetOk, rfl, rfl⟩ := writtenOffset_of_readOffset hOffset
    exact ⟨⟨hh, mm, none, offset⟩, ⟨hHour, hMinute, hDigits, by simp, hOffsetOk⟩, by simp [chars],
      rfl⟩

end TimeText

theorem lexTime_eq_some_iff_text (raw : String) (p : TimeParts) :
    lexTime raw = some p ↔ ∃ w : TimeText, w.WellFormed ∧ raw.toList = w.chars ∧ p = w.parts := by
  constructor
  · exact TimeText.of_readTimeParts
  · rintro ⟨w, hw, hRaw, rfl⟩
    rw [lexTime, hRaw]
    exact w.readTimeParts_chars hw

/-! ## The bounds of a time -/

namespace TimeParts

def WithinBounds (p : TimeParts) : Prop :=
  p.hour ≤ 23 ∧ p.minute ≤ 59 ∧ (∀ s, p.second = some s → s ≤ 59) ∧
    ∀ negative hours minutes, p.offset = some (.fixed negative hours minutes) →
      hours ≤ 14 ∧ minutes ≤ 59

def fieldChecks (p : TimeParts) : List (String × String × Bool) :=
  [("hour", "within 00..23", decide (p.hour ≤ 23)),
    ("minute", "within 00..59", decide (p.minute ≤ 59)),
    ("second", "within 00..59", p.second.all (· ≤ 59)),
    ("offset hour", "within 00..14",
      match p.offset with
      | some (.fixed _ hours _) => decide (hours ≤ 14)
      | _ => true),
    ("offset minute", "within 00..59",
      match p.offset with
      | some (.fixed _ _ minutes) => decide (minutes ≤ 59)
      | _ => true)]

theorem checkBounds_eq_ok_iff (p : TimeParts) : p.checkBounds = .ok () ↔ p.WithinBounds := by
  constructor
  · intro h
    obtain ⟨hHour, hMinute, hSecond, hOffset⟩ := checkBounds_eq_ok h
    exact ⟨hHour, hMinute, fun s hs => by simpa [hs] using hSecond, hOffset⟩
  · rintro ⟨hHour, hMinute, hSecond, hOffset⟩
    have hSecond' : p.second.getD 0 ≤ 59 := by
      cases hs : p.second with
      | none => simp
      | some s => simpa using hSecond s hs
    unfold checkBounds
    rw [if_neg (by omega), if_neg (by omega), if_neg (by omega)]
    split
    · rename_i negative hours minutes hFixed
      obtain ⟨hHours, hMinutes⟩ := hOffset negative hours minutes hFixed
      rw [if_neg (by omega), if_neg (by omega)]
    · rfl

theorem checkBounds_eq_find (p : TimeParts) :
    p.checkBounds =
      match p.fieldChecks.find? (fun c => !c.2.2) with
      | none => .ok ()
      | some (field, bounds, _) => .error ⟨field, bounds⟩ := by
  obtain ⟨hour, minute, second, nanos, offset⟩ := p
  unfold checkBounds
  split_ifs with hHour hMinute hSecond
  · simp [fieldChecks, hHour]
  · simp [fieldChecks, hHour, hMinute]
  · cases second <;> simp_all [fieldChecks]
  · have hSecond' : second.all (· ≤ 59) = true := by cases second <;> simp_all
    split
    · split_ifs <;> simp_all [fieldChecks]
    · rename_i hNotFixed
      cases offset with
      | none => simp_all [fieldChecks]
      | some o =>
        cases o with
        | utc => simp_all [fieldChecks]
        | fixed negative hours minutes => exact absurd rfl (hNotFixed negative hours minutes)

end TimeParts

end AdminShell.Literal

namespace AdminShell

open Literal Number

set_option autoImplicit false

/-! ## Validation -/

theorem validateTimeBounds_eq (t : Datatype) (raw : String) (parts : TimeParts) :
    validateTimeBounds t raw parts =
      match parts.fieldChecks.find? (fun c => !c.2.2) with
      | none => .ok ()
      | some (field, bounds, _) => .error (.range t raw (field ++ " " ++ bounds)) := by
  unfold validateTimeBounds
  rw [TimeParts.checkBounds_eq_find]
  cases parts.fieldChecks.find? (fun c => !c.2.2) with
  | none => rfl
  | some check => rfl

theorem validate_date_iff (raw : String) :
    (Datatype.validate .date raw = .ok () ↔
      ∃ w : DateText, w.WellFormed ∧ raw.toList = w.chars ∧
        IsCalendarDate (digitsValue w.year) (digitsValue w.month) (digitsValue w.day)) ∧
    ((¬ ∃ w : DateText, w.WellFormed ∧ raw.toList = w.chars) →
      Datatype.validate .date raw = .error (.format .date raw "must match YYYY-MM-DD")) ∧
    (∀ w : DateText, w.WellFormed → raw.toList = w.chars →
      ¬ IsCalendarDate (digitsValue w.year) (digitsValue w.month) (digitsValue w.day) →
      Datatype.validate .date raw = .error (.format .date raw "is not a valid calendar date")) := by
  rw [validate_date_eq]
  refine ⟨⟨?_, ?_⟩, ?_, ?_⟩
  · intro hOk
    cases hLex : lexDate raw with
    | none => simp [hLex] at hOk
    | some date =>
      obtain ⟨w, hw, hRaw, rfl⟩ := (lexDate_eq_some_iff_text raw date).mp hLex
      have hValid : w.parts.isValid = true := by
        by_contra hInvalid
        simp [hLex, hInvalid] at hOk
      exact ⟨w, hw, hRaw, (DateParts.isValid_iff _).mp hValid⟩
  · rintro ⟨w, hw, hRaw, hDate⟩
    rw [(lexDate_eq_some_iff_text raw w.parts).mpr ⟨w, hw, hRaw, rfl⟩]
    simp [(DateParts.isValid_iff w.parts).mpr hDate]
  · intro hShape
    cases hLex : lexDate raw with
    | none => rfl
    | some date =>
      obtain ⟨w, hw, hRaw, -⟩ := (lexDate_eq_some_iff_text raw date).mp hLex
      exact absurd ⟨w, hw, hRaw⟩ hShape
  · intro w hw hRaw hNotDate
    rw [(lexDate_eq_some_iff_text raw w.parts).mpr ⟨w, hw, hRaw, rfl⟩]
    have hInvalid : w.parts.isValid = false := by
      rw [← Bool.not_eq_true, DateParts.isValid_iff]
      exact hNotDate
    simp [hInvalid]

theorem validate_time_iff (raw : String) :
    (Datatype.validate .time raw = .ok () ↔
      ∃ w : TimeText, w.WellFormed ∧ raw.toList = w.chars ∧ w.parts.WithinBounds) ∧
    ((¬ ∃ w : TimeText, w.WellFormed ∧ raw.toList = w.chars) →
      Datatype.validate .time raw =
        .error (.format .time raw "must match HH:MM[:SS[.fff]][Z|±HH:MM]")) ∧
    (∀ w : TimeText, w.WellFormed → raw.toList = w.chars → ∀ field bounds ok,
      w.parts.fieldChecks.find? (fun c => !c.2.2) = some (field, bounds, ok) →
      Datatype.validate .time raw = .error (.range .time raw (field ++ " " ++ bounds))) := by
  rw [validate_time_eq]
  refine ⟨⟨?_, ?_⟩, ?_, ?_⟩
  · intro hOk
    cases hLex : lexTime raw with
    | none => simp [hLex] at hOk
    | some parts =>
      obtain ⟨w, hw, hRaw, rfl⟩ := (lexTime_eq_some_iff_text raw parts).mp hLex
      rw [hLex] at hOk
      exact ⟨w, hw, hRaw, (TimeParts.checkBounds_eq_ok_iff _).mp
        ((validateTimeBounds_eq_ok_iff _ _ _).mp hOk)⟩
  · rintro ⟨w, hw, hRaw, hBounds⟩
    rw [(lexTime_eq_some_iff_text raw w.parts).mpr ⟨w, hw, hRaw, rfl⟩]
    exact (validateTimeBounds_eq_ok_iff _ _ _).mpr ((TimeParts.checkBounds_eq_ok_iff _).mpr hBounds)
  · intro hShape
    cases hLex : lexTime raw with
    | none => rfl
    | some parts =>
      obtain ⟨w, hw, hRaw, -⟩ := (lexTime_eq_some_iff_text raw parts).mp hLex
      exact absurd ⟨w, hw, hRaw⟩ hShape
  · intro w hw hRaw field bounds ok hFirst
    rw [(lexTime_eq_some_iff_text raw w.parts).mpr ⟨w, hw, hRaw, rfl⟩]
    simp only [validateTimeBounds_eq, hFirst]

/-- Dates and times are validated by their grammars first and their values second: the
date rules of `validate_date_iff` and the time rules of `validate_time_iff`, for every
text. -/
theorem calendar_and_clock_validation (raw : String) :
    ((Datatype.validate .date raw = .ok () ↔
      ∃ w : DateText, w.WellFormed ∧ raw.toList = w.chars ∧
        IsCalendarDate (digitsValue w.year) (digitsValue w.month) (digitsValue w.day)) ∧
    ((¬ ∃ w : DateText, w.WellFormed ∧ raw.toList = w.chars) →
      Datatype.validate .date raw = .error (.format .date raw "must match YYYY-MM-DD")) ∧
    (∀ w : DateText, w.WellFormed → raw.toList = w.chars →
      ¬ IsCalendarDate (digitsValue w.year) (digitsValue w.month) (digitsValue w.day) →
      Datatype.validate .date raw = .error (.format .date raw "is not a valid calendar date"))) ∧
    ((Datatype.validate .time raw = .ok () ↔
      ∃ w : TimeText, w.WellFormed ∧ raw.toList = w.chars ∧ w.parts.WithinBounds) ∧
    ((¬ ∃ w : TimeText, w.WellFormed ∧ raw.toList = w.chars) →
      Datatype.validate .time raw =
        .error (.format .time raw "must match HH:MM[:SS[.fff]][Z|±HH:MM]")) ∧
    (∀ w : TimeText, w.WellFormed → raw.toList = w.chars → ∀ field bounds ok,
      w.parts.fieldChecks.find? (fun c => !c.2.2) = some (field, bounds, ok) →
      Datatype.validate .time raw = .error (.range .time raw (field ++ " " ++ bounds)))) :=
  ⟨validate_date_iff raw, validate_time_iff raw⟩

example : Datatype.validate .time "10:60:61+15:00" =
    .error (.range .time "10:60:61+15:00" "minute within 00..59") := by
  decide

end AdminShell
