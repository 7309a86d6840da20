import Mathlib
import AdminShell.Literal.Check

/-! # A date-time is a date, a `T` and a time

The date-time reader has its own grammar, a date, a `T` and a time in one pass, and date-time
validation has its own order of failures. Both come down to the date and time readers and
validators on the two sides of the `T`: a date is four, two and two digits with dashes
between, so it takes exactly ten characters, and neither a date nor a time contains a `T`, so
a string splits at most one way (`lexDateTime_append`). The validation order then follows
(`dateTime_validation_composes`).
-/

namespace AdminShell.Literal

set_option autoImplicit false

/-! ## Dates -/

theorem fixedDigits_eq_some_iff (n : Nat) (cs : List Char) (v : Nat) (r : List Char) :
    fixedDigits n cs = some (v, r) ↔
      ∃ ds, cs = ds ++ r ∧ ds.length = n ∧ (∀ c ∈ ds, c.isDigit = true) ∧
        v = Number.digitsValue ds := by
  unfold fixedDigits
  constructor
  · intro h
    dsimp only at h
    split at h
    · rename_i hDs
      simp only [Bool.and_eq_true, decide_eq_true_eq, List.all_eq_true] at hDs
      simp only [Option.some.injEq, Prod.mk.injEq] at h
      obtain ⟨rfl, rfl⟩ := h
      exact ⟨cs.take n, (List.take_append_drop n cs).symm, hDs.1, hDs.2, rfl⟩
    · cases h
  · rintro ⟨ds, rfl, hLen, hDigits, rfl⟩
    have hTake : (ds ++ r).take n = ds := by simp [← hLen]
    have hDrop : (ds ++ r).drop n = r := by simp [← hLen]
    simpa [hTake, hDrop, hLen] using hDigits

theorem expectChar_eq_some_iff (c : Char) (cs r : List Char) :
    expectChar c cs = some r ↔ cs = c :: r := by
  cases cs with
  | nil => simp [expectChar]
  | cons d ds => by_cases h : d = c <;> simp [expectChar, h]

theorem readDateParts_eq_some_iff (cs : List Char) (date : DateParts) (r : List Char) :
    readDateParts cs = some (date, r) ↔
      ∃ y m d, cs = y ++ '-' :: (m ++ '-' :: (d ++ r)) ∧ y.length = 4 ∧ m.length = 2 ∧
        d.length = 2 ∧ (∀ c ∈ y ++ m ++ d, c.isDigit = true) ∧
        date = ⟨Number.digitsValue y, Number.digitsValue m, Number.digitsValue d⟩ := by
  simp only [readDateParts, Option.bind_eq_bind, Option.bind_eq_some_iff, Prod.exists,
    fixedDigits_eq_some_iff, expectChar_eq_some_iff]
  constructor
  · rintro ⟨_, _, ⟨y, rfl, hy, hyDigits, rfl⟩, _, rfl, _, _, ⟨m, rfl, hm, hmDigits, rfl⟩, _, rfl, _,
      _, ⟨d, rfl, hd, hdDigits, rfl⟩, h⟩
    simp only [pure, Option.some.injEq, Prod.mk.injEq] at h
    obtain ⟨rfl, rfl⟩ := h
    refine ⟨y, m, d, rfl, hy, hm, hd, ?_, rfl⟩
    simp only [List.mem_append]
    intro c hc
    rcases hc with (hc | hc) | hc
    exacts [hyDigits c hc, hmDigits c hc, hdDigits c hc]
  · rintro ⟨y, m, d, rfl, hy, hm, hd, hDigits, rfl⟩
    simp only [List.mem_append] at hDigits
    exact ⟨_, _, ⟨y, rfl, hy, fun c hc => hDigits c (.inl (.inl hc)), rfl⟩, _, rfl, _, _,
      ⟨m, rfl, hm, fun c hc => hDigits c (.inl (.inr hc)), rfl⟩, _, rfl, _, _,
      ⟨d, rfl, hd, fun c hc => hDigits c (.inr hc), rfl⟩, rfl⟩

/-! ## No time contains a `T` -/

theorem takeWhile_append_drop_length (p : Char → Bool) (l : List Char) :
    l.takeWhile p ++ l.drop (l.takeWhile p).length = l := by
  induction l with
  | nil => rfl
  | cons a l ih => by_cases ha : p a = true <;> simp [ha, ih]

theorem not_mem_of_isDigit {ds : List Char} (hDigits : ∀ c ∈ ds, c.isDigit = true) :
    'T' ∉ ds := fun hT => absurd (hDigits 'T' hT) (by decide)

theorem readFraction_eq_some {cs : List Char} {nanos : Nat} {r : List Char}
    (h : readFraction cs = some (nanos, r)) : ∃ p, cs = p ++ r ∧ 'T' ∉ p := by
  unfold readFraction at h
  split at h
  · rename_i rest
    dsimp only at h
    split at h
    · cases h
    · simp only [Option.some.injEq, Prod.mk.injEq] at h
      obtain ⟨-, rfl⟩ := h
      refine ⟨'.' :: rest.takeWhile Char.isDigit, by simp [takeWhile_append_drop_length], ?_⟩
      simp only [List.mem_cons, not_or]
      exact ⟨by decide, not_mem_of_isDigit fun c hc => List.mem_takeWhile_imp hc⟩
  · simp only [Option.some.injEq, Prod.mk.injEq] at h
    obtain ⟨-, rfl⟩ := h
    exact ⟨[], rfl, by simp⟩

theorem not_mem_of_readOffset {cs : List Char} {offset : Option Offset}
    (h : readOffset cs = some offset) : 'T' ∉ cs := by
  unfold readOffset at h
  split at h
  · simp
  · simp
  · rename_i _ c r _
    split at h
    · rename_i hSign
      simp only [Option.bind_eq_bind, Option.bind_eq_some_iff, Prod.exists,
        fixedDigits_eq_some_iff, expectChar_eq_some_iff] at h
      obtain ⟨_, _, ⟨h1, rfl, -, hDigits1, rfl⟩, _, rfl, _, _, ⟨h2, rfl, -, hDigits2, rfl⟩, hEnd⟩ := h
      split at hEnd
      · rename_i hEmpty
        simp only [List.isEmpty_iff] at hEmpty
        subst hEmpty
        have hc : c ≠ 'T' := by
          simp only [Bool.or_eq_true, decide_eq_true_eq] at hSign
          rcases hSign with rfl | rfl <;> decide
        simp only [List.mem_cons, List.mem_append, not_or]
        exact ⟨hc.symm, not_mem_of_isDigit hDigits1, by decide, not_mem_of_isDigit hDigits2, by simp⟩
      · cases hEnd
    · cases h

theorem not_mem_of_readTimeParts {cs : List Char} {time : TimeParts}
    (h : readTimeParts cs = some time) : 'T' ∉ cs := by
  simp only [readTimeParts, Option.bind_eq_bind, Option.bind_eq_some_iff, Prod.exists,
    fixedDigits_eq_some_iff, expectChar_eq_some_iff] at h
  obtain ⟨_, _, ⟨hh, rfl, -, hDigitsH, rfl⟩, _, rfl, _, rest, ⟨mm, rfl, -, hDigitsM, rfl⟩, h⟩ := h
  simp only [List.mem_append, List.mem_cons, not_or]
  refine ⟨not_mem_of_isDigit hDigitsH, by decide, not_mem_of_isDigit hDigitsM, ?_⟩
  split at h
  · simp only [Option.bind_eq_some_iff, Prod.exists, fixedDigits_eq_some_iff, pure] at h
    obtain ⟨_, _, ⟨ss, rfl, -, hDigitsS, rfl⟩, _, _, hFraction, _, _, _, hSame, _, hOffset, -⟩ := h
    simp only [Option.some.injEq, Prod.mk.injEq] at hSame
    obtain ⟨-, -, rfl⟩ := hSame
    obtain ⟨p, rfl, hp⟩ := readFraction_eq_some hFraction
    simp only [List.mem_cons, List.mem_append, not_or]
    exact ⟨by decide, not_mem_of_isDigit hDigitsS, hp, not_mem_of_readOffset hOffset⟩
  · simp only [Option.bind_eq_some_iff, pure] at h
    obtain ⟨_, hSame, _, hOffset, -⟩ := h
    cases hSame
    exact not_mem_of_readOffset hOffset

/-! ## Splitting a date-time -/

theorem readDateParts_append {cs : List Char} {date : DateParts} (r : List Char)
    (h : readDateParts cs = some (date, [])) : readDateParts (cs ++ r) = some (date, r) := by
  obtain ⟨y, m, d, rfl, hy, hm, hd, hDigits, rfl⟩ := (readDateParts_eq_some_iff _ _ _).mp h
  exact (readDateParts_eq_some_iff _ _ _).mpr ⟨y, m, d, by simp, hy, hm, hd, hDigits, rfl⟩

theorem readDateParts_split {cs : List Char} {date : DateParts} {r : List Char}
    (h : readDateParts cs = some (date, r)) :
    ∃ p, cs = p ++ r ∧ p.length = 10 ∧ 'T' ∉ p ∧ readDateParts p = some (date, []) := by
  obtain ⟨y, m, d, rfl, hy, hm, hd, hDigits, rfl⟩ := (readDateParts_eq_some_iff _ _ _).mp h
  refine ⟨y ++ '-' :: (m ++ '-' :: d), by simp, by simp [hy, hm, hd], ?_,
    (readDateParts_eq_some_iff _ _ _).mpr ⟨y, m, d, by simp, hy, hm, hd, hDigits, rfl⟩⟩
  have hNoT := not_mem_of_isDigit hDigits
  simp only [List.mem_append, not_or] at hNoT
  simp only [List.mem_append, List.mem_cons, not_or]
  exact ⟨hNoT.1.1, by decide, hNoT.1.2, by decide, hNoT.2⟩

theorem not_mem_of_readDateParts {cs : List Char} {date : DateParts}
    (h : readDateParts cs = some (date, [])) : 'T' ∉ cs := by
  obtain ⟨p, hEq, -, hNoT, -⟩ := readDateParts_split h
  simpa [hEq] using hNoT

theorem lexDate_eq_some_iff (s : String) (date : DateParts) :
    lexDate s = some date ↔ readDateParts s.toList = some (date, []) := by
  unfold lexDate
  split <;> simp_all

theorem lexDateTime_eq_some_iff (s : String) (date : DateParts) (time : TimeParts) :
    lexDateTime s = some (date, time) ↔
      ∃ p rest, s.toList = p ++ 'T' :: rest ∧ readDateParts p = some (date, []) ∧
        readTimeParts rest = some time := by
  simp only [lexDateTime, Option.bind_eq_bind, Option.bind_eq_some_iff, Prod.exists,
    expectChar_eq_some_iff]
  constructor
  · rintro ⟨date', r, hDate, _, rfl, time', hTime, hPure⟩
    simp only [pure, Option.some.injEq, Prod.mk.injEq] at hPure
    obtain ⟨rfl, rfl⟩ := hPure
    obtain ⟨p, hs, -, -, hp⟩ := readDateParts_split hDate
    exact ⟨p, _, hs, hp, hTime⟩
  · rintro ⟨p, rest, hs, hp, hTime⟩
    exact ⟨date, _, hs ▸ readDateParts_append _ hp, rest, rfl, time, hTime, rfl⟩

/-- Read as a date-time, `d ++ "T" ++ t` is the date `d` and the time `t`: the split at the
`T` is the only one, since no date or time contains a `T`. -/
theorem lexDateTime_append (d t : String) :
    lexDateTime (d ++ "T" ++ t) =
      (lexDate d).bind fun date => (lexTime t).map fun time => (date, time) := by
  apply Option.ext
  rintro ⟨date, time⟩
  rw [lexDateTime_eq_some_iff]
  simp only [Option.bind_eq_some_iff, Option.map_eq_some_iff, Prod.mk.injEq, lexDate_eq_some_iff,
    lexTime, String.toList_append]
  constructor
  · rintro ⟨p, rest, hs, hp, hTime⟩
    -- the `T` after the date is the only one, so both sides split there
    have hs' : p ++ 'T' :: rest = d.toList ++ 'T' :: t.toList := by simpa using hs.symm
    obtain ⟨rfl, -, rfl⟩ := (List.append_cons_inj_of_notMem (not_mem_of_readDateParts hp)
      (not_mem_of_readTimeParts hTime)).mp hs'
    exact ⟨date, hp, time, hTime, rfl, rfl⟩
  · rintro ⟨date', hp, time', hTime, rfl, rfl⟩
    exact ⟨d.toList, t.toList, by simp, hp, hTime⟩

end AdminShell.Literal

namespace AdminShell

open Literal

set_option autoImplicit false

/-- The same failure, reported for another datatype and literal. -/
def LiteralError.relabel (t : Datatype) (raw : String) : LiteralError → LiteralError
  | .format _ _ reason => .format t raw reason
  | .range _ _ constraint => .range t raw constraint
  | .typeMismatch _ _ => .typeMismatch t raw

/-! ## Validation -/

theorem validateTimeBounds_relabel (t t' : Datatype) (raw raw' : String) (parts : TimeParts) :
    validateTimeBounds t' raw' parts = (validateTimeBounds t raw parts).mapError (·.relabel t' raw') := by
  unfold validateTimeBounds
  cases parts.checkBounds <;> rfl

theorem validate_date_eq (d : String) :
    Datatype.validate .date d =
      match lexDate d with
      | none => .error (.format .date d "must match YYYY-MM-DD")
      | some date => if date.isValid then .ok () else .error (.format .date d "is not a valid calendar date") := by
  rfl

theorem validate_time_eq (t : String) :
    Datatype.validate .time t =
      match lexTime t with
      | none => .error (.format .time t "must match HH:MM[:SS[.fff]][Z|±HH:MM]")
      | some parts => validateTimeBounds .time t parts := by
  rfl

theorem validate_dateTime_eq (s : String) :
    Datatype.validate .dateTime s =
      match lexDateTime s with
      | none => .error (.format .dateTime s "must match YYYY-MM-DDThh:mm[:ss[.fff]][Z|±HH:MM]")
      | some (date, parts) =>
        if date.isValid then validateTimeBounds .dateTime s parts
        else .error (.format .dateTime s "has an invalid calendar date") := by
  rfl

theorem lexDateTime_split {s : String} {date : DateParts} {time : TimeParts}
    (h : lexDateTime s = some (date, time)) :
    ∃ d t, s = d ++ "T" ++ t ∧ d.length = 10 ∧ lexDate d = some date ∧ lexTime t = some time := by
  obtain ⟨p, rest, hs, hp, hTime⟩ := (lexDateTime_eq_some_iff _ _ _).mp h
  obtain ⟨p', hEq, hLen, -, -⟩ := readDateParts_split hp
  refine ⟨String.ofList p, String.ofList rest, ?_, by simp [hEq, hLen], ?_, hTime ▸ by simp [lexTime]⟩
  · apply String.toList_injective
    simpa using hs
  · simpa [lexDate_eq_some_iff] using hp

theorem validate_dateTime_append (d t : String) :
    Datatype.validate .dateTime (d ++ "T" ++ t) =
      match lexDate d, lexTime t with
      | some date, some _ =>
        if date.isValid then
          (Datatype.validate .time t).mapError (·.relabel .dateTime (d ++ "T" ++ t))
        else .error (.format .dateTime (d ++ "T" ++ t) "has an invalid calendar date")
      | _, _ =>
        .error (.format .dateTime (d ++ "T" ++ t) "must match YYYY-MM-DDThh:mm[:ss[.fff]][Z|±HH:MM]") := by
  rw [validate_dateTime_eq, lexDateTime_append, validate_time_eq]
  cases hDate : lexDate d <;> cases hTime : lexTime t <;>
    simp [validateTimeBounds_relabel .time .dateTime t (d ++ "T" ++ t)]

theorem validate_dateTime_append_eq_ok_iff (d t : String) :
    Datatype.validate .dateTime (d ++ "T" ++ t) = .ok () ↔
      Datatype.validate .date d = .ok () ∧ Datatype.validate .time t = .ok () := by
  rw [validate_dateTime_append, validate_date_eq]
  cases hDate : lexDate d with
  | none => simp
  | some date =>
    rw [validate_time_eq]
    cases hTime : lexTime t with
    | none => simp
    | some parts =>
      by_cases hValid : date.isValid = true
      · rcases hBounds : validateTimeBounds .time t parts with e | u <;>
          simp [hValid, hBounds, Except.mapError]
      · simp [hValid]

/-- Date-time validation is date validation and time validation of the two sides of the
`T`. A string passes exactly when it is a date of ten characters, a `T` and a time that pass
their own checks. A string that does not split into a date and a time fails for its shape;
one that does fails first for an invalid calendar date, whatever its time, and otherwise
with the bound that time validation reports, now for the whole string. -/
theorem dateTime_validation_composes :
    (∀ d t, Datatype.validate .dateTime (d ++ "T" ++ t) = .ok () ↔
      Datatype.validate .date d = .ok () ∧ Datatype.validate .time t = .ok ()) ∧
    (∀ s, Datatype.validate .dateTime s = .ok () ↔
      ∃ d t, s = d ++ "T" ++ t ∧ d.length = 10 ∧
        Datatype.validate .date d = .ok () ∧ Datatype.validate .time t = .ok ()) ∧
    (∀ d t, Datatype.validate .dateTime (d ++ "T" ++ t) =
      match lexDate d, lexTime t with
      | some date, some _ =>
        if date.isValid then
          (Datatype.validate .time t).mapError (·.relabel .dateTime (d ++ "T" ++ t))
        else .error (.format .dateTime (d ++ "T" ++ t) "has an invalid calendar date")
      | _, _ =>
        .error (.format .dateTime (d ++ "T" ++ t) "must match YYYY-MM-DDThh:mm[:ss[.fff]][Z|±HH:MM]")) ∧
    (∀ s, (∃ d t, s = d ++ "T" ++ t ∧ d.length = 10 ∧ (lexDate d).isSome ∧ (lexTime t).isSome) ∨
      Datatype.validate .dateTime s =
        .error (.format .dateTime s "must match YYYY-MM-DDThh:mm[:ss[.fff]][Z|±HH:MM]")) := by
  refine ⟨validate_dateTime_append_eq_ok_iff, ?_, validate_dateTime_append, ?_⟩
  · intro s
    constructor
    · intro hOk
      cases hLex : lexDateTime s with
      | none => simp [validate_dateTime_eq, hLex] at hOk
      | some parts =>
        obtain ⟨date, time⟩ := parts
        obtain ⟨d, t, rfl, hLen, -, -⟩ := lexDateTime_split hLex
        exact ⟨d, t, rfl, hLen, (validate_dateTime_append_eq_ok_iff d t).mp hOk⟩
    · rintro ⟨d, t, rfl, -, hDate, hTime⟩
      exact (validate_dateTime_append_eq_ok_iff d t).mpr ⟨hDate, hTime⟩
  · intro s
    cases hLex : lexDateTime s with
    | none => exact .inr (by simp [validate_dateTime_eq, hLex])
    | some parts =>
      obtain ⟨date, time⟩ := parts
      obtain ⟨d, t, rfl, hLen, hDate, hTime⟩ := lexDateTime_split hLex
      exact .inl ⟨d, t, rfl, hLen, by simp [hDate], by simp [hTime]⟩

example : Datatype.validate .dateTime "2023-02-29T25:00" =
    .error (.format .dateTime "2023-02-29T25:00" "has an invalid calendar date") := by
  decide

end AdminShell
