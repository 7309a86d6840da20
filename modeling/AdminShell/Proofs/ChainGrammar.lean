import Mathlib
import AdminShell.Reference.Chain

/-! # The chain grammar, said rule by rule

`Chain.check` walks a key chain in passes: the first key, then for a model reference the
fragment keys, the position of the last `FragmentReference` and the list indices. Here the
same grammar is said declaratively, over the positions of the chain (`Chain.Grammar`), and
`check_eq_ok_iff_grammar` shows that `check` accepts exactly the chains of that grammar.

The placement rule is the one that needs an argument: `check` positions only the last
`FragmentReference`, while the grammar speaks of any of them. They agree because a chain
that ends in a `FragmentReference` has its last one there, so every earlier one is covered.
Key values are read only by the list-index rule.
-/

namespace AdminShell.Chain

set_option autoImplicit false

def IndexFollows (a b : Key) : Prop :=
  a.type = .submodelElementList → isListIndex b.value = true

structure ModelTail (keys : List Key) (long : 2 ≤ keys.length) : Prop where
  fragmentKeys : ∀ k ∈ keys.tail, k.type.isFragment = true
  fragmentClosing : (∃ k ∈ keys, k.type = .fragmentReference) →
    keys[keys.length - 1].type = .fragmentReference ∧
      keys[keys.length - 2].type.holdsFragment = true
  listIndices : ∀ i (h : i + 1 < keys.length), keys[i].type = .submodelElementList →
    isListIndex keys[i + 1].value = true

def TailRules : (kind : ReferenceKind) → (keys : List Key) → 2 ≤ keys.length → Prop
  | .model, keys, long => ModelTail keys long
  | .external, keys, _ => keys[keys.length - 1].type.endsExternal = true

/-- The chain grammar of a reference: a first key its kind may start with and, from two
keys on, the rules of its kind. -/
structure Grammar (kind : ReferenceKind) (keys : List Key) : Prop where
  nonempty : 0 < keys.length
  firstKey : keys[0].type ∈ kind.firstKeys
  tail : ∀ long : 2 ≤ keys.length, TailRules kind keys long

theorem grammar_cons_iff (kind : ReferenceKind) (first : Key) (rest : List Key) :
    Grammar kind (first :: rest) ↔
      first.type ∈ kind.firstKeys ∧
        ∀ long : 2 ≤ (first :: rest).length, TailRules kind (first :: rest) long :=
  ⟨fun h => ⟨h.firstKey, h.tail⟩, fun ⟨hFirst, hTail⟩ => ⟨by simp, hFirst, hTail⟩⟩

/-! ## The passes of `checkModelTail` -/

theorem firstNonFragment_eq_none_iff (i : Nat) (ks : List Key) :
    firstNonFragment i ks = none ↔ ∀ k ∈ ks, k.type.isFragment = true := by
  induction ks generalizing i with
  | nil => simp [firstNonFragment]
  | cons k ks ih =>
    by_cases hk : k.type.isFragment = true <;> simp [firstNonFragment, hk, ih]

theorem lastFragmentReference_eq_none_iff (i : Nat) (ks : List Key) :
    lastFragmentReference i ks = none ↔ ∀ k ∈ ks, k.type ≠ .fragmentReference := by
  induction ks generalizing i with
  | nil => simp [lastFragmentReference]
  | cons k ks ih =>
    rw [lastFragmentReference]
    cases h : lastFragmentReference (i + 1) ks with
    | some j =>
      have hSome : ¬ ∀ k ∈ ks, k.type ≠ .fragmentReference := fun hAll => by
        simp [(ih (i + 1)).mpr hAll] at h
      simp only [not_forall, not_not] at hSome
      obtain ⟨k', hk', hFr⟩ := hSome
      simp only [reduceCtorEq, false_iff, not_forall, not_not]
      exact ⟨k', List.mem_cons_of_mem _ hk', hFr⟩
    | none =>
      have hRest := (ih (i + 1)).mp h
      by_cases hk : k.type = .fragmentReference <;> simp_all

theorem lastFragmentReference_eq_some_iff (i : Nat) (ks : List Key) (j : Nat) :
    lastFragmentReference i ks = some j ↔
      ∃ (m : Nat) (hm : m < ks.length), j = i + m ∧ ks[m].type = .fragmentReference ∧
        ∀ m' (hm' : m' < ks.length), m < m' → ks[m'].type ≠ .fragmentReference := by
  induction ks generalizing i j with
  | nil => simp [lastFragmentReference]
  | cons k ks ih =>
    rw [lastFragmentReference]
    cases h : lastFragmentReference (i + 1) ks with
    | some j' =>
      obtain ⟨m, hm, rfl, hFr, hLater⟩ := (ih (i + 1) j').mp h
      constructor
      · rintro ⟨⟩
        refine ⟨m + 1, by simpa using hm, by omega, hFr, ?_⟩
        intro m' hm' hlt
        obtain ⟨m', rfl⟩ : ∃ n, m' = n + 1 := ⟨m' - 1, by omega⟩
        exact hLater m' (by simpa using hm') (by omega)
      · rintro ⟨m'', hm'', rfl, hFr'', hLater''⟩
        cases m'' with
        | zero => exact absurd hFr (hLater'' (m + 1) (by simpa using hm) (by omega))
        | succ m'' =>
          have hSame : m = m'' := by
            rcases Nat.lt_trichotomy m m'' with hlt | heq | hgt
            · exact absurd hFr'' (hLater m'' _ hlt)
            · exact heq
            · exact absurd hFr (hLater'' (m + 1) (by simpa using hm) (by omega))
          simp only [Option.some.injEq]
          omega
    | none =>
      have hRest := (lastFragmentReference_eq_none_iff (i + 1) ks).mp h
      constructor
      · intro hSome
        by_cases hk : k.type = .fragmentReference
        · simp only [hk, if_true, Option.some.injEq] at hSome
          subst hSome
          refine ⟨0, by simp, by omega, hk, ?_⟩
          intro m' hm' hlt
          obtain ⟨m', rfl⟩ : ∃ n, m' = n + 1 := ⟨m' - 1, by omega⟩
          exact hRest _ (List.getElem_mem _)
        · simp [hk] at hSome
      · rintro ⟨m, hm, rfl, hFr, -⟩
        cases m with
        | zero => simp_all
        | succ m => exact absurd hFr (hRest _ (List.getElem_mem _))

theorem firstBadListIndex_eq_none_iff (i : Nat) (ks : List Key) :
    firstBadListIndex i ks = none ↔ ks.IsChain IndexFollows := by
  fun_induction firstBadListIndex i ks with
  | case1 => simp
  | case2 => simp
  | case3 i a b ks hBad =>
    simp only [Bool.and_eq_true, decide_eq_true_eq, Bool.not_eq_eq_eq_not, Bool.not_true] at hBad
    simp [IndexFollows, hBad]
  | case4 i a b ks hGood ih =>
    simp only [Bool.and_eq_true, decide_eq_true_eq, Bool.not_eq_eq_eq_not, Bool.not_true,
      not_and, Bool.not_eq_false] at hGood
    simp only [List.isChain_cons_cons, IndexFollows, ih]
    exact ⟨fun hChain => ⟨hGood, hChain⟩, fun hChain => hChain.2⟩

theorem checkModelTail_eq_ok_iff_passes (keys : List Key) :
    checkModelTail keys = .ok () ↔
      firstNonFragment 1 keys.tail = none ∧
      (∀ j, lastFragmentReference 0 keys = some j →
        j + 1 = keys.length ∧ (keys.getD (keys.length - 2) default).type.holdsFragment = true) ∧
      firstBadListIndex 0 keys = none := by
  unfold checkModelTail
  rcases h1 : firstNonFragment 1 keys.tail with _ | ⟨i, t⟩ <;>
  rcases h2 : lastFragmentReference 0 keys with _ | j <;>
  rcases h3 : firstBadListIndex 0 keys with _ | ⟨p, v⟩ <;> simp
  all_goals split_ifs <;> simp_all

theorem placesLastFragment_iff (keys : List Key) (long : 2 ≤ keys.length) :
    (∀ j, lastFragmentReference 0 keys = some j →
        j + 1 = keys.length ∧ (keys.getD (keys.length - 2) default).type.holdsFragment = true) ↔
      ((∃ k ∈ keys, k.type = .fragmentReference) →
        keys[keys.length - 1].type = .fragmentReference ∧
          keys[keys.length - 2].type.holdsFragment = true) := by
  have hHolder : keys.getD (keys.length - 2) default = keys[keys.length - 2] := by
    simp [List.getElem?_eq_getElem (show keys.length - 2 < keys.length by omega)]
  rw [hHolder]
  constructor
  · rintro hPlaced ⟨k, hk, hFr⟩
    cases hLast : lastFragmentReference 0 keys with
    | none => exact absurd hFr ((lastFragmentReference_eq_none_iff 0 keys).mp hLast k hk)
    | some j =>
      obtain ⟨m, hm, rfl, hFrm, -⟩ := (lastFragmentReference_eq_some_iff 0 keys j).mp hLast
      obtain ⟨hEnd, hHolds⟩ := hPlaced _ hLast
      obtain rfl : m = keys.length - 1 := by omega
      exact ⟨hFrm, hHolds⟩
  · intro hRule j hLast
    obtain ⟨m, hm, rfl, hFrm, hLater⟩ := (lastFragmentReference_eq_some_iff 0 keys j).mp hLast
    obtain ⟨hEndFr, hHolds⟩ := hRule ⟨keys[m], List.getElem_mem _, hFrm⟩
    refine ⟨?_, hHolds⟩
    -- a `FragmentReference` at the end lies after none other, so it is the last one
    by_contra hNotEnd
    exact hLater (keys.length - 1) (by omega) (by omega) hEndFr

theorem checkModelTail_eq_ok_iff (keys : List Key) (long : 2 ≤ keys.length) :
    checkModelTail keys = .ok () ↔ ModelTail keys long := by
  rw [checkModelTail_eq_ok_iff_passes, firstNonFragment_eq_none_iff,
    placesLastFragment_iff keys long, firstBadListIndex_eq_none_iff, List.isChain_iff_getElem]
  exact ⟨fun ⟨hA, hB, hC⟩ => ⟨hA, hB, hC⟩, fun ⟨hA, hB, hC⟩ => ⟨hA, hB, hC⟩⟩

/-! ## The whole chain -/

/-- `check` accepts a chain exactly when it keeps the chain grammar of its kind. -/
theorem check_eq_ok_iff_grammar (kind : ReferenceKind) (keys : List Key) :
    check kind keys = .ok () ↔ Grammar kind keys := by
  cases keys with
  | nil =>
    simp only [check, reduceCtorEq, false_iff]
    exact fun h => absurd h.nonempty (by simp)
  | cons first rest =>
    rw [grammar_cons_iff]
    by_cases hFirst : first.type ∈ kind.firstKeys
    · cases rest with
      | nil => simp [check, hFirst]
      | cons second more =>
        cases kind with
        | model => simp [check, hFirst, TailRules, checkModelTail_eq_ok_iff]
        | external => simp [check, hFirst, TailRules, List.getLast?_eq_getElem?]
    · simp [check, hFirst]

example :
    check .model [⟨.submodel, "s"⟩, ⟨.fragmentReference, "a"⟩, ⟨.blob, "b"⟩,
      ⟨.fragmentReference, "c"⟩] = .ok () := by
  decide

end AdminShell.Chain
