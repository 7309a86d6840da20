import Mathlib
import AdminShell.Literal.Check
import AdminShell.Proofs.DateTime

/-! # URI references

A URI literal is accepted when its fragment, the text after its first `#`, holds no line feed,
and it opens with a scheme or has a non-empty path, the path being read as appendix B of
RFC 3986 splits a reference: past the scheme, an authority after `//` up to the next `/`, `?`
or `#`, then the path up to the next `?` or `#`. `UriSplit` is that split of a text without
its scheme, said by its pieces and what may stand in them. Every text has one, and only one
path (`exists_uriSplit`, `UriSplit.path_unique`), so `anyUri_accepts_scheme_or_path` reads the
rule of the check off the text itself. Nothing else is refused: a line feed outside the
fragment, or any other character, does not make a literal fail.
-/

namespace AdminShell.Literal

set_option autoImplicit false

/-! ## Runs of characters -/

theorem exists_run (p : Char → Bool) (cs : List Char) :
    ∃ run stop, cs = run ++ stop ∧ (∀ c ∈ run, p c = true) ∧
      ∀ c r, stop = c :: r → p c = false := by
  refine ⟨cs.takeWhile p, cs.dropWhile p, (List.takeWhile_append_dropWhile).symm,
    fun c hc => List.mem_takeWhile_imp hc, ?_⟩
  intro c r hStop
  have hHead := List.head?_dropWhile_not p cs
  rw [hStop] at hHead
  simpa using hHead

theorem takeWhile_run {p : Char → Bool} {run stop : List Char} (hRun : ∀ c ∈ run, p c = true)
    (hStop : ∀ c r, stop = c :: r → p c = false) : (run ++ stop).takeWhile p = run := by
  rw [List.takeWhile_append_of_pos hRun]
  cases stop with
  | nil => simp
  | cons c r => simp [hStop c r rfl]

theorem dropWhile_run {p : Char → Bool} {run stop : List Char} (hRun : ∀ c ∈ run, p c = true)
    (hStop : ∀ c r, stop = c :: r → p c = false) : (run ++ stop).dropWhile p = stop := by
  rw [List.dropWhile_append_of_pos hRun]
  cases stop with
  | nil => rfl
  | cons c r => simp [hStop c r rfl]

/-! ## The fragment -/

def FragmentHasNoLineFeed (cs : List Char) : Prop :=
  ∀ pre fragment, cs = pre ++ '#' :: fragment → '#' ∉ pre → '\n' ∉ fragment

theorem fragmentOk_iff (cs : List Char) : fragmentOk cs = true ↔ FragmentHasNoLineFeed cs := by
  obtain ⟨pre, stop, rfl, hPre, hStop⟩ := exists_run (· != '#') cs
  have hNoHash : '#' ∉ pre := fun hHash => by simpa using hPre '#' hHash
  rw [fragmentOk, dropWhile_run hPre hStop]
  cases stop with
  | nil =>
    simp only [true_iff]
    intro pre' fragment hEq _
    have hHash : '#' ∈ pre ++ [] := by rw [hEq]; simp
    exact absurd (by simpa using hHash) hNoHash
  | cons c fragment =>
    have hc : c = '#' := by simpa using hStop c fragment rfl
    subst hc
    simp only [Bool.not_eq_true', List.contains_eq_mem, decide_eq_false_iff_not]
    constructor
    · -- the first `#` is the one the split is at
      intro hFree pre' fragment' hEq hNoHash'
      have hPre' : ∀ d ∈ pre', (d != '#') = true := fun d hd => by
        simp only [bne_iff_ne, ne_eq]
        rintro rfl
        exact hNoHash' hd
      have hDrop := dropWhile_run hPre'
        (show ∀ d r, '#' :: fragment' = d :: r → (d != '#') = false by rintro d r ⟨⟩; rfl)
      rw [← hEq, dropWhile_run hPre hStop, List.cons.injEq] at hDrop
      rw [← hDrop.2]
      exact hFree
    · intro hFree
      exact hFree pre fragment rfl hNoHash

/-! ## The scheme -/

def OpensWithScheme (cs : List Char) : Prop :=
  ∃ c tail rest, cs = c :: (tail ++ ':' :: rest) ∧ c.isAlpha = true ∧
    ∀ d ∈ tail, d.isAlpha = true ∨ d.isDigit = true ∨ d = '+' ∨ d = '.' ∨ d = '-'

theorem isSchemeChar_iff (d : Char) :
    isSchemeChar d = true ↔ d.isAlpha = true ∨ d.isDigit = true ∨ d = '+' ∨ d = '.' ∨ d = '-' := by
  simp [isSchemeChar, or_assoc]

theorem splitScheme_isSome_iff (cs : List Char) :
    (splitScheme cs).isSome = true ↔ OpensWithScheme cs := by
  constructor
  · intro hSome
    cases cs with
    | nil => cases hSome
    | cons c r =>
      simp only [splitScheme] at hSome
      split_ifs at hSome with hAlpha
      · generalize hAfter : r.drop (r.takeWhile isSchemeChar).length = after at hSome
        split at hSome
        · rename_i rest
          refine ⟨c, r.takeWhile isSchemeChar, rest, ?_, hAlpha,
            fun d hd => (isSchemeChar_iff d).mp (List.mem_takeWhile_imp hd)⟩
          rw [← hAfter, takeWhile_append_drop_length]
        · cases hSome
      · cases hSome
  · rintro ⟨c, tail, rest, rfl, hAlpha, hTail⟩
    have hTake : (tail ++ ':' :: rest).takeWhile isSchemeChar = tail :=
      takeWhile_run (fun d hd => (isSchemeChar_iff d).mpr (hTail d hd)) (by
        rintro d r ⟨⟩
        rfl)
    simp [splitScheme, hAlpha, hTake]

/-! ## The path -/

/-- A URI reference past its scheme, split as appendix B of RFC 3986 reads it: an authority
after `//` if there is one, the path, and the query and fragment after it. -/
structure UriSplit where
  authority : Option (List Char)
  path : List Char
  rest : List Char

namespace UriSplit

def chars (s : UriSplit) : List Char :=
  (s.authority.map ('/' :: '/' :: ·)).getD [] ++ (s.path ++ s.rest)

/-- An authority holds no `/`, `?` or `#` and runs as far as it can, and there is one exactly
when the text opens with `//`; the path holds no `?` or `#`; the rest is empty or opens with
`?` or `#`. -/
def WellFormed (s : UriSplit) : Prop :=
  (∀ a, s.authority = some a → (∀ c ∈ a, c ≠ '/' ∧ c ≠ '?' ∧ c ≠ '#') ∧
      ∀ c r, s.path ++ s.rest = c :: r → c = '/' ∨ c = '?' ∨ c = '#') ∧
    (s.authority = none → ∀ r, s.path ++ s.rest ≠ '/' :: '/' :: r) ∧
    (∀ c ∈ s.path, c ≠ '?' ∧ c ≠ '#') ∧
    ∀ c r, s.rest = c :: r → c = '?' ∨ c = '#'

end UriSplit

theorem pathOf_append {path rest : List Char} (hPath : ∀ c ∈ path, c ≠ '?' ∧ c ≠ '#')
    (hRest : ∀ c r, rest = c :: r → c = '?' ∨ c = '#') : pathOf (path ++ rest) = path := by
  apply takeWhile_run
  · intro c hc
    simpa using hPath c hc
  · intro c r hEq
    rcases hRest c r hEq with rfl | rfl <;> rfl

theorem dropAuthority_of_not_slashes {cs : List Char} (h : ∀ r, cs ≠ '/' :: '/' :: r) :
    dropAuthority cs = cs := by
  unfold dropAuthority
  split
  · rename_i r
    exact absurd rfl (h r)
  · rfl

theorem dropAuthority_slashes {a rest : List Char} (ha : ∀ c ∈ a, c ≠ '/' ∧ c ≠ '?' ∧ c ≠ '#')
    (hRest : ∀ c r, rest = c :: r → c = '/' ∨ c = '?' ∨ c = '#') :
    dropAuthority ('/' :: '/' :: (a ++ rest)) = rest := by
  apply dropWhile_run
  · intro c hc
    simpa [and_assoc] using ha c hc
  · intro c r hEq
    rcases hRest c r hEq with rfl | rfl | rfl <;> rfl

namespace UriSplit

theorem pathOf_chars {s : UriSplit} (h : s.WellFormed) : pathOf (dropAuthority s.chars) = s.path := by
  obtain ⟨authority, path, rest⟩ := s
  obtain ⟨hAuthority, hNone, hPath, hRest⟩ := h
  cases authority with
  | none =>
    rw [chars, Option.map_none, Option.getD_none, List.nil_append,
      dropAuthority_of_not_slashes (hNone rfl)]
    exact pathOf_append hPath hRest
  | some a =>
    obtain ⟨ha, hStop⟩ := hAuthority a rfl
    simp only [chars, Option.map_some, Option.getD_some, List.cons_append]
    rw [dropAuthority_slashes ha hStop]
    exact pathOf_append hPath hRest

theorem path_unique {s s' : UriSplit} (h : s.WellFormed) (h' : s'.WellFormed)
    (hChars : s.chars = s'.chars) : s.path = s'.path := by
  rw [← pathOf_chars h, ← pathOf_chars h', hChars]

end UriSplit

theorem exists_path_rest (cs : List Char) :
    ∃ path rest, cs = path ++ rest ∧ (∀ c ∈ path, c ≠ '?' ∧ c ≠ '#') ∧
      ∀ c r, rest = c :: r → c = '?' ∨ c = '#' := by
  obtain ⟨path, rest, rfl, hPath, hRest⟩ := exists_run (fun c => c != '?' && c != '#') cs
  refine ⟨path, rest, rfl, fun c hc => by simpa using hPath c hc, fun c r hEq => ?_⟩
  have hStop := hRest c r hEq
  simp only [Bool.and_eq_false_iff, bne_eq_false_iff_eq] at hStop
  exact hStop

theorem exists_uriSplit (cs : List Char) : ∃ s : UriSplit, s.WellFormed ∧ s.chars = cs := by
  by_cases hSlashes : ∃ r, cs = '/' :: '/' :: r
  · -- the authority runs to the first `/`, `?` or `#` after the slashes
    obtain ⟨r, rfl⟩ := hSlashes
    obtain ⟨a, after, rfl, ha, hAfter⟩ := exists_run (fun c => c != '/' && c != '?' && c != '#') r
    obtain ⟨path, rest, rfl, hPath, hRest⟩ := exists_path_rest after
    refine ⟨⟨some a, path, rest⟩, ⟨?_, nofun, hPath, hRest⟩, rfl⟩
    rintro a' ⟨⟩
    refine ⟨fun c hc => ?_, fun c r' hEq => ?_⟩
    · have hNot := ha c hc
      simp only [Bool.and_eq_true, bne_iff_ne, ne_eq] at hNot
      exact ⟨hNot.1.1, hNot.1.2, hNot.2⟩
    have hStop := hAfter c r' hEq
    simp only [Bool.and_eq_false_iff, bne_eq_false_iff_eq] at hStop
    rcases hStop with (h | h) | h <;> simp [h]
  · obtain ⟨path, rest, rfl, hPath, hRest⟩ := exists_path_rest cs
    refine ⟨⟨none, path, rest⟩, ⟨nofun, fun _ r hEq => hSlashes ⟨r, hEq⟩, hPath, hRest⟩, rfl⟩

end AdminShell.Literal

namespace AdminShell

open Literal

set_option autoImplicit false

theorem hasSchemeOrPath_iff (raw : String) :
    hasSchemeOrPath raw = true ↔ FragmentHasNoLineFeed raw.toList ∧
      (OpensWithScheme raw.toList ∨
        ∃ s : UriSplit, s.WellFormed ∧ raw.toList = s.chars ∧ s.path ≠ []) := by
  rw [hasSchemeOrPath, Bool.and_eq_true, fragmentOk_iff]
  apply and_congr_right
  intro _
  cases hScheme : splitScheme raw.toList with
  | some parts =>
    have hOpens := (splitScheme_isSome_iff raw.toList).mp (by simp [hScheme])
    simp [hOpens]
  | none =>
    have hNotOpens : ¬ OpensWithScheme raw.toList := by
      rw [← splitScheme_isSome_iff, hScheme]
      simp
    obtain ⟨s, hs, hChars⟩ := exists_uriSplit raw.toList
    simp only [hNotOpens, false_or, Bool.not_eq_true', List.isEmpty_eq_false_iff]
    rw [← hChars, UriSplit.pathOf_chars hs]
    constructor
    · intro hPath
      exact ⟨s, hs, rfl, hPath⟩
    · rintro ⟨s', hs', hEq, hPath⟩
      rwa [UriSplit.path_unique hs hs' hEq]

/-- A URI literal passes exactly when the text after its first `#` holds no line feed and it
opens with a scheme or has a non-empty path, its path being that of the one split every text
has; any other literal fails with the reason that it has neither. -/
theorem anyUri_accepts_scheme_or_path (raw : String) :
    (Datatype.validate .anyUri raw = .ok () ↔
      FragmentHasNoLineFeed raw.toList ∧
        (OpensWithScheme raw.toList ∨
          ∃ s : UriSplit, s.WellFormed ∧ raw.toList = s.chars ∧ s.path ≠ [])) ∧
    (Datatype.validate .anyUri raw = .ok () ∨
      Datatype.validate .anyUri raw =
        .error (.format .anyUri raw "has neither a scheme nor a path")) ∧
    (∃ s : UriSplit, s.WellFormed ∧ raw.toList = s.chars) ∧
    (∀ s s' : UriSplit, s.WellFormed → s'.WellFormed → raw.toList = s.chars →
      raw.toList = s'.chars → s.path = s'.path) := by
  have hValidate : Datatype.validate .anyUri raw =
      if hasSchemeOrPath raw then .ok ()
      else .error (.format .anyUri raw "has neither a scheme nor a path") := rfl
  refine ⟨?_, ?_, ?_, ?_⟩
  · rw [hValidate, ← hasSchemeOrPath_iff]
    cases hasSchemeOrPath raw <;> simp
  · rw [hValidate]
    cases hasSchemeOrPath raw <;> simp
  · obtain ⟨s, hs, hChars⟩ := exists_uriSplit raw.toList
    exact ⟨s, hs, hChars.symm⟩
  · intro s s' hs hs' hChars hChars'
    exact UriSplit.path_unique hs hs' (hChars.symm.trans hChars')

example : Datatype.validate .anyUri "//host?q" =
    .error (.format .anyUri "//host?q" "has neither a scheme nor a path") := by
  decide

example : Datatype.validate .anyUri "///x" = .ok () ∧ Datatype.validate .anyUri "a:" = .ok () ∧
    Datatype.validate .anyUri "\n" = .ok () := by
  decide

end AdminShell
