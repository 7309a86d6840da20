import Mathlib
import AdminShell.Proofs.TemporalRendering

/-! # Fractions of a second as nanoseconds

A time's fraction of one to nine digits is read by padding it on the right with zeros to nine
digits, so it stands for its value scaled by `10 ^ (9 - length)` nanoseconds: always less than a
second, and the same whatever trailing zeros it is written with. A time of day is written the
other way, its nanoseconds with the fewest of 3, 6 or 9 digits that are exact, and reading the
written time gives them back (`lexTime_text_nanos`).
-/

namespace AdminShell.Literal

set_option autoImplicit false

open Number

/-! ## Reading a fraction -/

section Reading

variable {f : List Char}

theorem fractionNanos_eq_scaled (f : List Char) :
    fractionNanos f = digitsValue f * 10 ^ (9 - f.length) := by
  rw [fractionNanos, digitsValue_append, digitsValue_replicate_zero, List.length_replicate,
    Nat.add_zero, Nat.mul_comm]

theorem fractionNanos_lt (hLength : f.length ≤ 9) (hDigits : ∀ c ∈ f, c.isDigit = true) :
    fractionNanos f < 10 ^ 9 := by
  have hLt := digitsValue_lt (nineDigits_digits hDigits)
  rwa [nineDigits_length hLength, ← fractionNanos_eq] at hLt

theorem fractionNanos_append_zeros (k : Nat) (hLength : f.length + k ≤ 9) :
    fractionNanos (f ++ List.replicate k '0') = fractionNanos f := by
  have hPad : 9 - (f ++ List.replicate k '0').length = 9 - f.length - k := by
    simp only [List.length_append, List.length_replicate]
    omega
  have hZeros : List.replicate k '0' ++ List.replicate (9 - f.length - k) '0' =
      List.replicate (9 - f.length) '0' := by
    rw [← List.replicate_add]
    congr 1
    omega
  rw [fractionNanos, fractionNanos, hPad, List.append_assoc, hZeros]

theorem readFraction_scales {r : List Char} (hLength : 1 ≤ f.length ∧ f.length ≤ 9)
    (hDigits : ∀ c ∈ f, c.isDigit = true) (hRest : NoDigitHead r) :
    readFraction ('.' :: (f ++ r)) = some (digitsValue f * 10 ^ (9 - f.length), r) := by
  rw [readFraction_point r hLength hDigits hRest, fractionNanos_eq_scaled]

theorem readFraction_lt {cs r : List Char} {nanos : Nat} (h : readFraction cs = some (nanos, r)) :
    nanos < 10 ^ 9 := by
  rcases of_readFraction h with ⟨-, rfl, -⟩ | ⟨f, -, hLength, hDigits, -, rfl⟩
  · decide
  · exact fractionNanos_lt hLength.2 hDigits

end Reading

/-! ## Reading a time -/

namespace TimeText

theorem lexTime_chars {w : TimeText} (hw : w.WellFormed) :
    lexTime (String.ofList w.chars) = some w.parts :=
  (lexTime_eq_some_iff_text _ w.parts).mpr ⟨w, hw, String.toList_ofList, rfl⟩

theorem parts_nanos {w : TimeText} {digits f : List Char}
    (hSecond : w.second = some ⟨digits, some f⟩) : w.parts.nanos = fractionNanos f := by
  simp [parts, hSecond]

theorem wellFormed_append_zeros {w : TimeText} {digits f : List Char} (hw : w.WellFormed)
    (hSecond : w.second = some ⟨digits, some f⟩) (k : Nat) (hLength : f.length + k ≤ 9) :
    { w with second := some ⟨digits, some (f ++ List.replicate k '0')⟩ }.WellFormed := by
  obtain ⟨hHour, hMinute, hDigits, hSeconds, hOffset⟩ := hw
  obtain ⟨hDigitsLength, hSecondDigits, hFraction⟩ := hSeconds _ hSecond
  obtain ⟨hLo, -, hFractionDigits⟩ := hFraction f rfl
  refine ⟨hHour, hMinute, hDigits, ?_, hOffset⟩
  rintro s ⟨⟩
  refine ⟨hDigitsLength, hSecondDigits, ?_⟩
  rintro g ⟨⟩
  refine ⟨by simp; omega, by simp; omega, ?_⟩
  intro c hc
  rcases List.mem_append.mp hc with hf | hZero
  · exact hFractionDigits c hf
  · rw [List.eq_of_mem_replicate hZero]
    rfl

end TimeText

theorem lexTime_nanos_lt {raw : String} {p : TimeParts} (h : lexTime raw = some p) :
    p.nanos < 10 ^ 9 := by
  obtain ⟨w, hw, -, rfl⟩ := (lexTime_eq_some_iff_text raw p).mp h
  obtain ⟨-, -, -, hSeconds, -⟩ := hw
  cases hSecond : w.second with
  | none => simp [TimeText.parts, hSecond]
  | some s =>
    obtain ⟨digits, fraction⟩ := s
    cases fraction with
    | none => simp [TimeText.parts, hSecond]
    | some f =>
      obtain ⟨-, -, hFraction⟩ := hSeconds _ hSecond
      obtain ⟨-, hHi, hDigits⟩ := hFraction f rfl
      rw [TimeText.parts_nanos hSecond]
      exact fractionNanos_lt hHi hDigits

/-! ## Writing a time -/

theorem fractionText_written {n : Nat} (h : n < 10 ^ 9) :
    ∃ fraction : Option (List Char),
      (∀ g, fraction = some g → 1 ≤ g.length ∧ g.length ≤ 9 ∧ ∀ c ∈ g, c.isDigit = true) ∧
      (fractionText n).toList = (fraction.map ('.' :: ·)).getD [] ∧
      (fraction.map fractionNanos).getD 0 = n := by
  obtain ⟨hLength, hDigits, hValue⟩ := digitsValue_padded (show 0 < 9 by decide) h
  have hNine : fractionNanos (padded 9 n).toList = n := by
    rw [fractionNanos_eq_scaled, hLength, hValue, Nat.sub_self, Nat.pow_zero, Nat.mul_one]
  have hText := fractionText_fractionNanos hLength.le hDigits
  rw [hNine] at hText
  refine ⟨normalFraction (padded 9 n).toList, ?_, hText, ?_⟩
  · intro g hg
    rcases normalFraction_spec hLength.le hDigits with ⟨hNone, -⟩ | ⟨g', hSome, hLen, hDig, -⟩
    · rw [hNone] at hg
      cases hg
    · rw [hSome, Option.some.injEq] at hg
      subst hg
      exact ⟨hLen.1, hLen.2, hDig⟩
  · rcases normalFraction_spec hLength.le hDigits with ⟨hNone, hZero⟩ | ⟨g, hSome, -, -, hNanos⟩
    · rw [hNone, ← hNine, hZero]
      rfl
    · rw [hSome, ← hNine, ← hNanos]
      rfl

theorem padded_two {n : Nat} (h : n < 100) :
    (padded 2 n).toList.length = 2 ∧ ∀ c ∈ (padded 2 n).toList, c.isDigit = true := by
  obtain ⟨hLength, hDigits, -⟩ := digitsValue_padded (show 0 < 2 by decide) (by simpa using h)
  exact ⟨hLength, hDigits⟩

/-- A time of day written with `hh:mm:ss` and its fraction, and then any offset, is read back
with its nanoseconds. -/
theorem lexTime_text_nanos (t : TimeOfDay) (hHour : t.hour ≤ 23) (hMinute : t.minute ≤ 59)
    (hSecond : t.second ≤ 59) (hNanos : t.nanos < 10 ^ 9) (offset : Option OffsetText)
    (hOffset : ∀ o, offset = some o → o.WellFormed) :
    (lexTime (t.text ++ String.ofList ((offset.map OffsetText.chars).getD []))).map
      TimeParts.nanos = some t.nanos := by
  obtain ⟨fraction, hFraction, hText, hValue⟩ := fractionText_written hNanos
  obtain ⟨hHourLength, hHourDigits⟩ := padded_two (show t.hour < 100 by omega)
  obtain ⟨hMinuteLength, hMinuteDigits⟩ := padded_two (show t.minute < 100 by omega)
  obtain ⟨hSecondLength, hSecondDigits⟩ := padded_two (show t.second < 100 by omega)
  -- the time's text, kept opaque so that its pieces are not unfolded when compared
  generalize hWritten : (⟨(padded 2 t.hour).toList, (padded 2 t.minute).toList,
    some ⟨(padded 2 t.second).toList, fraction⟩, offset⟩ : TimeText) = w
  have hw : w.WellFormed := by
    subst hWritten
    dsimp only [TimeText.WellFormed]
    refine ⟨hHourLength, hMinuteLength, List.forall_mem_append.mpr ⟨hHourDigits, hMinuteDigits⟩,
      ?_, hOffset⟩
    intro s hs
    obtain rfl := Option.some_injective _ hs
    dsimp only [SecondText.WellFormed]
    exact ⟨hSecondLength, hSecondDigits, hFraction⟩
  have hChars : t.text ++ String.ofList ((offset.map OffsetText.chars).getD []) =
      String.ofList w.chars := by
    subst hWritten
    apply String.toList_injective
    simp [TimeOfDay.text, TimeText.chars, SecondText.chars, hText]
  rw [hChars, TimeText.lexTime_chars hw, ← hWritten]
  simp [TimeText.parts, hValue]

/-- A fraction of one to nine digits is its value scaled to nine digits: read by the time
reader as `f * 10 ^ (9 - length)` nanoseconds, less than a second, and the same with zeros
added after it. Every time that is read has less than a second of fraction, and a time of
day written with seconds, its fraction in 3, 6 or 9 digits or none, and any offset, is read
back with its nanoseconds. -/
theorem fraction_scaled_to_nanoseconds :
    (∀ (w : TimeText) (digits f : List Char), w.WellFormed → w.second = some ⟨digits, some f⟩ →
      ∃ p, lexTime (String.ofList w.chars) = some p ∧
        p.nanos = digitsValue f * 10 ^ (9 - f.length) ∧ p.nanos < 10 ^ 9 ∧
        ∀ k, f.length + k ≤ 9 →
          (lexTime (String.ofList
            { w with second := some ⟨digits, some (f ++ List.replicate k '0')⟩ }.chars)).map
              TimeParts.nanos = some p.nanos) ∧
    (∀ raw p, lexTime raw = some p → p.nanos < 10 ^ 9) ∧
    (∀ t : TimeOfDay, t.hour ≤ 23 → t.minute ≤ 59 → t.second ≤ 59 → t.nanos < 10 ^ 9 →
      ∀ offset : Option OffsetText, (∀ o, offset = some o → o.WellFormed) →
        (lexTime (t.text ++ String.ofList ((offset.map OffsetText.chars).getD []))).map
          TimeParts.nanos = some t.nanos) := by
  refine ⟨?_, fun _ _ => lexTime_nanos_lt, lexTime_text_nanos⟩
  intro w digits f hw hSecond
  obtain ⟨-, -, hFraction⟩ := hw.2.2.2.1 _ hSecond
  obtain ⟨-, hHi, hDigits⟩ := hFraction f rfl
  refine ⟨w.parts, TimeText.lexTime_chars hw, ?_, ?_, ?_⟩
  · rw [TimeText.parts_nanos hSecond, fractionNanos_eq_scaled]
  · rw [TimeText.parts_nanos hSecond]
    exact fractionNanos_lt hHi hDigits
  · intro k hLength
    let w' : TimeText := { w with second := some ⟨digits, some (f ++ List.replicate k '0')⟩ }
    have hSecond' : w'.second = some ⟨digits, some (f ++ List.replicate k '0')⟩ := rfl
    rw [TimeText.lexTime_chars (TimeText.wellFormed_append_zeros hw hSecond k hLength),
      Option.map_some, TimeText.parts_nanos hSecond', fractionNanos_append_zeros k hLength,
      TimeText.parts_nanos hSecond]

example : lexTime "23:59:59.5Z" = some ⟨23, 59, some 59, 500000000, some .utc⟩ := by decide

end AdminShell.Literal
