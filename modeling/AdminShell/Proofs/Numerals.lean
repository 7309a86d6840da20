import Mathlib
import AdminShell.Literal.Typed

/-! # Decimal numerals

The digits of a numeral and the number they spell. A numeral of `n` digits spells a number
below `10 ^ n`, its leading zeros aside it is the decimal text of that number
(`exists_zeros_append_toDigits`), so padding the number back to `n` digits gives the numeral
again (`padded_digitsValue`). Conversely every number below `10 ^ n` padded to `n` digits is a
numeral that spells it (`digitsValue_padded`), and cutting a numeral divides its value by a
power of ten (`digitsValue_div_mod`).
-/

namespace AdminShell.Number

set_option autoImplicit false

theorem digitsValue_eq_ofDigitChars (ds : List Char) :
    digitsValue ds = Nat.ofDigitChars 10 ds 0 := rfl

theorem digitsValue_nil : digitsValue [] = 0 := rfl

theorem digitsValue_append (ds es : List Char) :
    digitsValue (ds ++ es) = 10 ^ es.length * digitsValue ds + digitsValue es := by
  rw [digitsValue_eq_ofDigitChars, Nat.ofDigitChars_append, Nat.ofDigitChars_eq_ofDigitChars_zero]
  rfl

theorem digitsValue_singleton (c : Char) : digitsValue [c] = c.toNat - 48 := by
  simp [digitsValue]

theorem digitsValue_cons (c : Char) (ds : List Char) :
    digitsValue (c :: ds) = 10 ^ ds.length * (c.toNat - 48) + digitsValue ds := by
  rw [← List.singleton_append, digitsValue_append, digitsValue_singleton]

theorem digitsValue_replicate_zero (n : Nat) : digitsValue (List.replicate n '0') = 0 := by
  simp [digitsValue_eq_ofDigitChars]

theorem toNat_sub_lt_ten {c : Char} (hDigit : c.isDigit = true) : c.toNat - 48 < 10 := by
  have hRange := Char.isDigit_iff_toNat.mp hDigit
  simp only [Char.reduceToNat] at hRange
  omega

theorem digitChar_of_isDigit {c : Char} (hDigit : c.isDigit = true) :
    Nat.digitChar (c.toNat - 48) = c := by
  have hRange := Char.isDigit_iff_toNat.mp hDigit
  simp only [Char.reduceToNat] at hRange
  apply Char.toNat_inj.mp
  rw [Nat.toNat_digitChar_of_lt_ten (by omega)]
  omega

theorem toNat_sub_eq_zero_iff {c : Char} (hDigit : c.isDigit = true) :
    c.toNat - 48 = 0 ↔ c = '0' := by
  constructor
  · intro hZero
    rw [← digitChar_of_isDigit hDigit, hZero]
    rfl
  · rintro rfl
    rfl

variable {ds : List Char}

theorem digitsValue_lt (hDigits : ∀ c ∈ ds, c.isDigit = true) :
    digitsValue ds < 10 ^ ds.length := by
  induction ds with
  | nil => simp [digitsValue_nil]
  | cons c ds ih =>
    have hHead := toNat_sub_lt_ten (hDigits c List.mem_cons_self)
    have hTail := ih fun d hd => hDigits d (List.mem_cons_of_mem c hd)
    rw [digitsValue_cons, List.length_cons, Nat.pow_succ]
    calc 10 ^ ds.length * (c.toNat - 48) + digitsValue ds
        < 10 ^ ds.length * (c.toNat - 48) + 10 ^ ds.length := by omega
      _ = 10 ^ ds.length * (c.toNat - 48 + 1) := by ring
      _ ≤ 10 ^ ds.length * 10 := Nat.mul_le_mul_left _ (by omega)

theorem digitsValue_eq_zero_iff (hDigits : ∀ c ∈ ds, c.isDigit = true) :
    digitsValue ds = 0 ↔ ∀ c ∈ ds, c = '0' := by
  induction ds with
  | nil => simp [digitsValue_nil]
  | cons c ds ih =>
    have hHead := toNat_sub_eq_zero_iff (hDigits c List.mem_cons_self)
    have hTail := ih fun d hd => hDigits d (List.mem_cons_of_mem c hd)
    have hPow : 0 < 10 ^ ds.length := by positivity
    rw [digitsValue_cons, List.forall_mem_cons, ← hHead, ← hTail, Nat.add_eq_zero_iff,
      Nat.mul_eq_zero]
    simp only [Nat.pos_iff_ne_zero.mp hPow, false_or]

theorem all_eq_zero_iff (hDigits : ∀ c ∈ ds, c.isDigit = true) :
    ds.all (· == '0') = true ↔ digitsValue ds = 0 := by
  rw [digitsValue_eq_zero_iff hDigits, List.all_eq_true]
  simp only [beq_iff_eq]

theorem toDigits_append_digits {acc : Nat} (hAcc : 0 < acc) {cs : List Char}
    (hDigits : ∀ c ∈ cs, c.isDigit = true) :
    Nat.toDigits 10 acc ++ cs = Nat.toDigits 10 (Nat.ofDigitChars 10 cs acc) := by
  induction cs generalizing acc with
  | nil => simp
  | cons c cs ih =>
    have hc := hDigits c List.mem_cons_self
    have hLt := toNat_sub_lt_ten hc
    have hStep : Nat.toDigits 10 acc ++ [c] = Nat.toDigits 10 (10 * acc + (c.toNat - 48)) := by
      rw [← Nat.toDigits_append_toDigits (by decide) hAcc hLt, Nat.toDigits_of_lt_base hLt,
        digitChar_of_isDigit hc]
    calc Nat.toDigits 10 acc ++ c :: cs = (Nat.toDigits 10 acc ++ [c]) ++ cs := by simp
      _ = Nat.toDigits 10 (10 * acc + (c.toNat - 48)) ++ cs := by rw [hStep]
      _ = Nat.toDigits 10 (Nat.ofDigitChars 10 cs (10 * acc + (c.toNat - 48))) :=
        ih (by omega) fun d hd => hDigits d (List.mem_cons_of_mem c hd)
      _ = Nat.toDigits 10 (Nat.ofDigitChars 10 (c :: cs) acc) := by
        rw [Nat.ofDigitChars_cons]
        rfl

theorem exists_zeros_append_toDigits (hDigits : ∀ c ∈ ds, c.isDigit = true) (hNe : ds ≠ []) :
    ∃ k, ds = List.replicate k '0' ++ Nat.toDigits 10 (digitsValue ds) := by
  induction ds with
  | nil => exact absurd rfl hNe
  | cons c ds ih =>
    have hc := hDigits c List.mem_cons_self
    have hTail : ∀ d ∈ ds, d.isDigit = true := fun d hd => hDigits d (List.mem_cons_of_mem c hd)
    by_cases hZero : c = '0'
    · -- a leading zero adds nothing to the value
      subst hZero
      have hValue : digitsValue ('0' :: ds) = digitsValue ds := by
        simp [digitsValue_cons]
      rw [hValue]
      cases ds with
      | nil => exact ⟨0, rfl⟩
      | cons d ds =>
        obtain ⟨k, hk⟩ := ih hTail (List.cons_ne_nil d ds)
        exact ⟨k + 1, by rw [List.replicate_succ, List.cons_append, ← hk]⟩
    · -- a leading digit that is not zero starts the decimal text
      have hPos : 0 < c.toNat - 48 := by
        have := (toNat_sub_eq_zero_iff hc).not.mpr hZero
        omega
      refine ⟨0, ?_⟩
      have hText := toDigits_append_digits hPos hTail
      rw [Nat.toDigits_of_lt_base (toNat_sub_lt_ten hc), digitChar_of_isDigit hc] at hText
      rw [List.replicate_zero, List.nil_append, digitsValue_eq_ofDigitChars, Nat.ofDigitChars_cons]
      simpa using hText

theorem padded_toList (width n : Nat) :
    (padded width n).toList =
      List.replicate (width - (Nat.toDigits 10 n).length) '0' ++ Nat.toDigits 10 n := by
  simp [padded]

theorem padded_digitsValue {width : Nat} (hDigits : ∀ c ∈ ds, c.isDigit = true)
    (hWidth : ds.length = width) (hPos : 0 < width) :
    padded width (digitsValue ds) = String.ofList ds := by
  obtain ⟨k, hk⟩ := exists_zeros_append_toDigits hDigits (List.ne_nil_of_length_pos (by omega))
  apply String.toList_injective
  rw [padded_toList, String.toList_ofList]
  have hLength : width - (Nat.toDigits 10 (digitsValue ds)).length = k := by
    have := congrArg List.length hk
    simp only [List.length_append, List.length_replicate] at this
    omega
  rw [hLength, ← hk]

/-- A number below `10 ^ width` padded to `width` digits is a numeral of that width that
spells it. -/
theorem digitsValue_padded {width n : Nat} (hWidth : 0 < width) (hLt : n < 10 ^ width) :
    (padded width n).toList.length = width ∧
      (∀ c ∈ (padded width n).toList, c.isDigit = true) ∧
      digitsValue (padded width n).toList = n := by
  have hFits := (Nat.length_toDigits_le_iff (by decide) hWidth).mpr hLt
  rw [padded_toList]
  refine ⟨by simp; omega, ?_, ?_⟩
  · intro c hc
    rcases List.mem_append.mp hc with hZero | hText
    · rw [List.eq_of_mem_replicate hZero]
      rfl
    · exact Nat.isDigit_of_mem_toDigits (by decide) (by decide) hText
  · rw [digitsValue_append, digitsValue_replicate_zero, Nat.mul_zero, Nat.zero_add,
      digitsValue_eq_ofDigitChars, Nat.ofDigitChars_ten_toDigits]

/-- Cut after `k` digits, a numeral's leading part spells its value divided by a power of ten
and the rest the remainder. -/
theorem digitsValue_div_mod (hDigits : ∀ c ∈ ds, c.isDigit = true) (k : Nat) :
    digitsValue ds / 10 ^ (ds.length - k) = digitsValue (ds.take k) ∧
      digitsValue ds % 10 ^ (ds.length - k) = digitsValue (ds.drop k) := by
  have hSplit := digitsValue_append (ds.take k) (ds.drop k)
  rw [List.take_append_drop, List.length_drop] at hSplit
  have hLt : digitsValue (ds.drop k) < 10 ^ (ds.length - k) := by
    have := @digitsValue_lt (ds.drop k) fun c hc => hDigits c (List.mem_of_mem_drop hc)
    rwa [List.length_drop] at this
  have hPos : 0 < 10 ^ (ds.length - k) := by positivity
  rw [hSplit]
  constructor
  · rw [Nat.mul_add_div hPos, Nat.div_eq_of_lt hLt, Nat.add_zero]
  · rw [Nat.mul_add_mod, Nat.mod_eq_of_lt hLt]

end AdminShell.Number
