import Mathlib
import AdminShell.Proofs.ChainGrammar

/-! # The first broken rule of a chain

`Chain.check` reports one error for a chain that breaks several rules at once. Here the
report is said declaratively (`FirstBroken`): the rules are tried in their fixed order, and
the first one broken is reported with the position it names. Each position is read off a
split of the chain: the first key after the first that is no fragment key, the last
`FragmentReference`, and the first pair of a `SubmodelElementList` key and a key that is no
list index. `check_eq_error_iff_firstBroken` shows that `check` fails with an error exactly
when that error is the first broken rule.

The position of a bad list index is the position of the index key itself, one after the
`SubmodelElementList` key that asks for it.
-/

namespace AdminShell.Chain

set_option autoImplicit false

/-! ## The passes, on a split chain -/

theorem firstNonFragment_append (i : Nat) (pre : List Key) (k : Key) (post : List Key)
    (hPre : ∀ k' ∈ pre, k'.type.isFragment = true) (hBad : k.type.isFragment = false) :
    firstNonFragment i (pre ++ k :: post) = some (i + pre.length, k.type) := by
  induction pre generalizing i with
  | nil => simp [firstNonFragment, hBad]
  | cons p pre ih =>
    rw [List.forall_mem_cons] at hPre
    rw [List.cons_append, firstNonFragment, if_pos hPre.1, ih (i + 1) hPre.2]
    simp only [List.length_cons, Option.some.injEq, Prod.mk.injEq, and_true]
    omega

theorem exists_append_of_firstNonFragment (i : Nat) (ks : List Key) (j : Nat) (t : KeyType)
    (hFound : firstNonFragment i ks = some (j, t)) :
    ∃ pre k post, ks = pre ++ k :: post ∧ (∀ k' ∈ pre, k'.type.isFragment = true) ∧
      k.type.isFragment = false ∧ j = i + pre.length ∧ t = k.type := by
  induction ks generalizing i with
  | nil => simp [firstNonFragment] at hFound
  | cons k ks ih =>
    by_cases hk : k.type.isFragment = true
    · rw [firstNonFragment, if_pos hk] at hFound
      obtain ⟨pre, k', post, rfl, hPre, hBad, rfl, rfl⟩ := ih (i + 1) hFound
      refine ⟨k :: pre, k', post, rfl, List.forall_mem_cons.mpr ⟨hk, hPre⟩, hBad, ?_, rfl⟩
      simp only [List.length_cons]
      omega
    · rw [firstNonFragment, if_neg hk] at hFound
      cases hFound
      exact ⟨[], k, ks, rfl, by simp, by simpa using hk, by simp, rfl⟩

theorem lastFragmentReference_append (i : Nat) (pre : List Key) (k : Key) (post : List Key)
    (hFr : k.type = .fragmentReference) (hAfter : ∀ k' ∈ post, k'.type ≠ .fragmentReference) :
    lastFragmentReference i (pre ++ k :: post) = some (i + pre.length) := by
  induction pre generalizing i with
  | nil =>
    rw [List.nil_append, lastFragmentReference,
      (lastFragmentReference_eq_none_iff (i + 1) post).mpr hAfter]
    simp [hFr]
  | cons p pre ih =>
    rw [List.cons_append, lastFragmentReference, ih (i + 1)]
    simp only [List.length_cons, Option.some.injEq]
    omega

theorem exists_append_of_lastFragmentReference (i : Nat) (ks : List Key) (j : Nat)
    (hFound : lastFragmentReference i ks = some j) :
    ∃ pre k post, ks = pre ++ k :: post ∧ k.type = .fragmentReference ∧
      (∀ k' ∈ post, k'.type ≠ .fragmentReference) ∧ j = i + pre.length := by
  induction ks generalizing i with
  | nil => simp [lastFragmentReference] at hFound
  | cons k ks ih =>
    rw [lastFragmentReference] at hFound
    cases hRest : lastFragmentReference (i + 1) ks with
    | some j' =>
      simp only [hRest, Option.some.injEq] at hFound
      subst hFound
      obtain ⟨pre, k', post, rfl, hFr, hAfter, rfl⟩ := ih (i + 1) hRest
      refine ⟨k :: pre, k', post, rfl, hFr, hAfter, ?_⟩
      simp only [List.length_cons]
      omega
    | none =>
      by_cases hk : k.type = .fragmentReference
      · simp only [hRest, hk, if_true, Option.some.injEq] at hFound
        exact ⟨[], k, ks, rfl, hk, (lastFragmentReference_eq_none_iff (i + 1) ks).mp hRest,
          by simp [hFound]⟩
      · simp [hRest, hk] at hFound

theorem firstBadListIndex_cons (i : Nat) (p : Key) (ks : List Key)
    (hGood : ∀ k ∈ ks.head?, IndexFollows p k) :
    firstBadListIndex i (p :: ks) = firstBadListIndex (i + 1) ks := by
  cases ks with
  | nil => rfl
  | cons k ks =>
    have hk : IndexFollows p k := hGood k rfl
    unfold IndexFollows at hk
    rw [firstBadListIndex]
    by_cases hList : p.type = .submodelElementList
    · simp [hList, hk hList]
    · simp [hList]

theorem firstBadListIndex_append (i : Nat) (pre : List Key) (a b : Key) (post : List Key)
    (hBefore : (pre ++ [a]).IsChain IndexFollows) (hBad : ¬ IndexFollows a b) :
    firstBadListIndex i (pre ++ a :: b :: post) = some (i + pre.length + 1, b.value) := by
  induction pre generalizing i with
  | nil =>
    simp only [IndexFollows, Classical.not_imp] at hBad
    simp [firstBadListIndex, hBad]
  | cons p pre ih =>
    rw [List.cons_append, List.isChain_cons] at hBefore
    have hHead : (pre ++ a :: b :: post).head? = (pre ++ [a]).head? := by
      cases pre <;> rfl
    rw [List.cons_append, firstBadListIndex_cons i p _ (hHead ▸ hBefore.1), ih (i + 1) hBefore.2]
    simp only [List.length_cons, Option.some.injEq, Prod.mk.injEq, and_true]
    omega

theorem exists_append_of_firstBadListIndex (i : Nat) (ks : List Key) (j : Nat) (v : String) :
    firstBadListIndex i ks = some (j, v) →
      ∃ pre a b post, ks = pre ++ a :: b :: post ∧ (pre ++ [a]).IsChain IndexFollows ∧
        ¬ IndexFollows a b ∧ j = i + pre.length + 1 ∧ v = b.value := by
  fun_induction firstBadListIndex i ks with
  | case1 => simp
  | case2 => simp
  | case3 i a b ks hBad =>
    simp only [Bool.and_eq_true, decide_eq_true_eq, Bool.not_eq_eq_eq_not, Bool.not_true] at hBad
    rintro ⟨⟩
    exact ⟨[], a, b, ks, rfl, List.isChain_singleton a, by simp [IndexFollows, hBad], by simp,
      rfl⟩
  | case4 i a b ks hGood ih =>
    simp only [Bool.and_eq_true, decide_eq_true_eq, Bool.not_eq_eq_eq_not, Bool.not_true,
      not_and, Bool.not_eq_false] at hGood
    intro hFound
    obtain ⟨pre, a', b', post, hSplit, hChain, hBad, rfl, rfl⟩ := ih hFound
    have hHead : (pre ++ [a']).head? = some b := by
      have := congrArg List.head? hSplit
      cases pre <;> simp_all
    refine ⟨a :: pre, a', b', post, by rw [hSplit]; rfl, ?_, hBad, ?_, rfl⟩
    · rw [List.cons_append, List.isChain_cons, hHead]
      exact ⟨fun k hk => (Option.some.inj hk) ▸ hGood, hChain⟩
    · simp only [List.length_cons]
      omega

/-! ## The first broken rule, said declaratively -/

/-- The chain has a first key, and its kind may start with it. -/
def Opens (kind : ReferenceKind) (keys : List Key) : Prop :=
  ∃ first ∈ keys.head?, first.type ∈ kind.firstKeys

/-- The first rule after the first key that a model reference of two or more keys breaks,
with what its error reports. -/
inductive TailBroken (keys : List Key) : ChainError → Prop where
  | nonFragment (first : Key) (pre : List Key) (k : Key) (post : List Key)
      (hAt : keys = first :: (pre ++ k :: post))
      (hBefore : ∀ k' ∈ pre, k'.type.isFragment = true) (hBad : k.type.isFragment = false) :
      TailBroken keys (.nonFragmentKeyInTail (pre.length + 1) k.type)
  | fragmentNotLast (hTail : ∀ k ∈ keys.tail, k.type.isFragment = true)
      (pre : List Key) (k : Key) (post : List Key) (hAt : keys = pre ++ k :: post)
      (hFr : k.type = .fragmentReference)
      (hAfter : ∀ k' ∈ post, k'.type ≠ .fragmentReference) (hNotEnd : post ≠ []) :
      TailBroken keys (.fragmentReferenceNotLast pre.length)
  | fragmentHolder (hTail : ∀ k ∈ keys.tail, k.type.isFragment = true)
      (pre : List Key) (holder last : Key) (hEnd : keys = pre ++ [holder, last])
      (hFr : last.type = .fragmentReference) (hHolder : holder.type.holdsFragment = false) :
      TailBroken keys (.fragmentReferenceRequiresFileOrBlob holder.type)
  | listIndex (hTail : ∀ k ∈ keys.tail, k.type.isFragment = true)
      (hPlaced : (∃ k ∈ keys, k.type = .fragmentReference) →
        ∃ pre holder last, keys = pre ++ [holder, last] ∧ last.type = .fragmentReference ∧
          holder.type.holdsFragment = true)
      (pre : List Key) (a b : Key) (post : List Key) (hAt : keys = pre ++ a :: b :: post)
      (hBefore : (pre ++ [a]).IsChain IndexFollows) (hBad : ¬ IndexFollows a b) :
      TailBroken keys (.listIndexNotInteger (pre.length + 1) b.value)

/-- The first rule a chain breaks, in the order the rules are checked, with what its
error reports. -/
inductive FirstBroken : ReferenceKind → List Key → ChainError → Prop where
  | empty (kind : ReferenceKind) : FirstBroken kind [] .emptyChain
  | firstKey (kind : ReferenceKind) (first : Key) (rest : List Key)
      (hFirst : first.type ∉ kind.firstKeys) :
      FirstBroken kind (first :: rest) (.firstKeyKindMismatch kind first.type)
  | modelTail (keys : List Key) (err : ChainError) (hOpens : Opens .model keys)
      (hLong : 2 ≤ keys.length) (hTail : TailBroken keys err) :
      FirstBroken .model keys err
  | externalTerminal (keys : List Key) (hOpens : Opens .external keys)
      (hLong : 2 ≤ keys.length) (pre : List Key) (last : Key) (hEnd : keys = pre ++ [last])
      (hBad : last.type.endsExternal = false) :
      FirstBroken .external keys (.externalReferenceBadTerminal last.type)

/-! ## The passes of `checkModelTail`, failing

Each pass that reports an error names the first tail rule broken; the passes before it are
what makes it the first.
-/

theorem holder_getD (pre : List Key) (holder last : Key) :
    (pre ++ [holder, last]).getD ((pre ++ [holder, last]).length - 2) default = holder := by
  simp [List.getD_eq_getElem?_getD]

theorem lastFragmentReference_closing (pre : List Key) (holder last : Key)
    (hFr : last.type = .fragmentReference) :
    lastFragmentReference 0 (pre ++ [holder, last]) = some ((pre ++ [holder, last]).length - 1) := by
  have hSplit : pre ++ [holder, last] = (pre ++ [holder]) ++ last :: [] := by simp
  rw [hSplit, lastFragmentReference_append 0 _ last [] hFr (by simp)]
  simp

theorem exists_closing (keys : List Key) (hLong : 2 ≤ keys.length) (j : Nat)
    (hLast : lastFragmentReference 0 keys = some j) (hEnd : j + 1 = keys.length) :
    ∃ pre holder last, keys = pre ++ [holder, last] ∧ last.type = .fragmentReference ∧
      keys.getD (keys.length - 2) default = holder := by
  obtain ⟨pre, k, post, hAt, hFr, -, rfl⟩ := exists_append_of_lastFragmentReference 0 keys j hLast
  obtain rfl : post = [] := by
    cases post with
    | nil => rfl
    | cons _ _ => simp [hAt] at hEnd
  rcases List.eq_nil_or_concat pre with rfl | ⟨pre', holder, rfl⟩
  · simp [hAt] at hLong
  · have hClosed : keys = pre' ++ [holder, k] := by simp [hAt]
    exact ⟨pre', holder, k, hClosed, hFr, hClosed ▸ holder_getD pre' holder k⟩

theorem placed_of_closing (keys pre : List Key) (holder last : Key)
    (hEnd : keys = pre ++ [holder, last]) (hFr : last.type = .fragmentReference)
    (hHolds : holder.type.holdsFragment = true) (j : Nat)
    (hLast : lastFragmentReference 0 keys = some j) :
    j + 1 = keys.length ∧ (keys.getD (keys.length - 2) default).type.holdsFragment = true := by
  subst hEnd
  rw [lastFragmentReference_closing pre holder last hFr, Option.some.injEq] at hLast
  subst hLast
  rw [holder_getD]
  exact ⟨by simp, hHolds⟩

theorem TailBroken.of_firstNonFragment (keys : List Key) (hLong : 2 ≤ keys.length) (i : Nat)
    (t : KeyType) (hFound : firstNonFragment 1 keys.tail = some (i, t)) :
    TailBroken keys (.nonFragmentKeyInTail i t) := by
  obtain ⟨pre, k, post, hTailAt, hBefore, hBad, rfl, rfl⟩ :=
    exists_append_of_firstNonFragment 1 keys.tail i t hFound
  obtain ⟨first, rest, rfl⟩ : ∃ first rest, keys = first :: rest :=
    List.exists_cons_of_length_pos (by omega)
  rw [Nat.add_comm]
  exact .nonFragment first pre k post (by simpa using hTailAt) hBefore hBad

theorem TailBroken.of_notLast (keys : List Key)
    (hTail : ∀ k ∈ keys.tail, k.type.isFragment = true) (j : Nat)
    (hLast : lastFragmentReference 0 keys = some j) (hNotEnd : j + 1 ≠ keys.length) :
    TailBroken keys (.fragmentReferenceNotLast j) := by
  obtain ⟨pre, k, post, hAt, hFr, hAfter, rfl⟩ :=
    exists_append_of_lastFragmentReference 0 keys j hLast
  rw [Nat.zero_add]
  refine .fragmentNotLast hTail pre k post hAt hFr hAfter ?_
  rintro rfl
  simp [hAt] at hNotEnd

/-- After only fragment keys and with the `FragmentReference`s placed, a key after a
`SubmodelElementList` key that is no list index is the first tail rule broken. -/
theorem TailBroken.of_firstBadListIndex (keys : List Key)
    (hTail : ∀ k ∈ keys.tail, k.type.isFragment = true)
    (hPlaced : (∃ k ∈ keys, k.type = .fragmentReference) →
      ∃ pre holder last, keys = pre ++ [holder, last] ∧ last.type = .fragmentReference ∧
        holder.type.holdsFragment = true)
    (i : Nat) (v : String) (hFound : firstBadListIndex 0 keys = some (i, v)) :
    TailBroken keys (.listIndexNotInteger i v) := by
  obtain ⟨pre, a, b, post, hAt, hChain, hNot, rfl, rfl⟩ :=
    exists_append_of_firstBadListIndex 0 keys i v hFound
  rw [Nat.zero_add]
  exact .listIndex hTail hPlaced pre a b post hAt hChain hNot

theorem tailBroken_of_checkModelTail (keys : List Key) (hLong : 2 ≤ keys.length)
    (err : ChainError) (hCheck : checkModelTail keys = .error err) : TailBroken keys err := by
  unfold checkModelTail at hCheck
  rcases hFirst : firstNonFragment 1 keys.tail with _ | ⟨i, t⟩
  · have hTail := (firstNonFragment_eq_none_iff 1 keys.tail).mp hFirst
    rw [hFirst] at hCheck
    -- the placement pass fails, or it passes and the index pass reports
    rcases hLast : lastFragmentReference 0 keys with _ | j
    · have hNone := (lastFragmentReference_eq_none_iff 0 keys).mp hLast
      rcases hIndex : firstBadListIndex 0 keys with _ | ⟨i, v⟩
      · simp [hLast, hIndex] at hCheck
      · simp only [hLast, hIndex, Except.error.injEq] at hCheck
        subst hCheck
        exact .of_firstBadListIndex keys hTail (fun ⟨k, hk, hFr⟩ => absurd hFr (hNone k hk)) i v
          hIndex
    · by_cases hEnd : j + 1 = keys.length
      · obtain ⟨pre, holder, last, hClosed, hFr, hAt⟩ := exists_closing keys hLong j hLast hEnd
        by_cases hHolds : holder.type.holdsFragment = true
        · rcases hIndex : firstBadListIndex 0 keys with _ | ⟨i, v⟩
          · simp only [hLast, hEnd, hAt, hHolds, hIndex, ne_eq, not_true_eq_false, if_false,
              if_true, reduceCtorEq] at hCheck
          · simp only [hLast, hEnd, hAt, hHolds, hIndex, ne_eq, not_true_eq_false, if_false,
              if_true, Except.error.injEq] at hCheck
            subst hCheck
            exact .of_firstBadListIndex keys hTail (fun _ => ⟨pre, holder, last, hClosed, hFr, hHolds⟩)
              i v hIndex
        · simp only [hLast, hEnd, hAt, hHolds, ne_eq, not_true_eq_false, if_false,
            Bool.false_eq_true, Except.error.injEq] at hCheck
          subst hCheck
          exact .fragmentHolder hTail pre holder last hClosed hFr (by simpa using hHolds)
      · simp only [hLast, hEnd, ne_eq, not_false_eq_true, if_true, Except.error.injEq] at hCheck
        subst hCheck
        exact .of_notLast keys hTail j hLast hEnd
  · simp only [hFirst, Except.error.injEq] at hCheck
    subst hCheck
    exact .of_firstNonFragment keys hLong i t hFirst

theorem checkModelTail_of_tailBroken (keys : List Key) (err : ChainError)
    (hBroken : TailBroken keys err) : checkModelTail keys = .error err := by
  unfold checkModelTail
  cases hBroken with
  | nonFragment first pre k post hAt hBefore hBad =>
    subst hAt
    rw [List.tail_cons, firstNonFragment_append 1 pre k post hBefore hBad, Nat.add_comm]
  | fragmentNotLast hTail pre k post hAt hFr hAfter hNotEnd =>
    have hNotLast : pre.length + 1 ≠ keys.length := by
      cases post with
      | nil => exact absurd rfl hNotEnd
      | cons _ _ => simp [hAt]
    rw [(firstNonFragment_eq_none_iff 1 keys.tail).mpr hTail, hAt,
      lastFragmentReference_append 0 pre k post hFr hAfter, ← hAt]
    simp [hNotLast]
  | fragmentHolder hTail pre holder last hEnd hFr hHolder =>
    rw [(firstNonFragment_eq_none_iff 1 keys.tail).mpr hTail, hEnd,
      lastFragmentReference_closing pre holder last hFr, holder_getD pre holder last]
    simp [hHolder]
  | listIndex hTail hPlaced pre a b post hAt hBefore hBad =>
    rw [(firstNonFragment_eq_none_iff 1 keys.tail).mpr hTail]
    have hIndex : firstBadListIndex 0 keys = some (pre.length + 1, b.value) := by
      rw [hAt, firstBadListIndex_append 0 pre a b post hBefore hBad, Nat.zero_add]
    rcases hLast : lastFragmentReference 0 keys with _ | j
    · simp [hIndex]
    · -- a `FragmentReference` exists, so the chain closes with one after its holder
      obtain ⟨pre', k, post', hAt', hFr, -, -⟩ :=
        exists_append_of_lastFragmentReference 0 keys j hLast
      obtain ⟨pre'', holder, last, hEnd, hLastFr, hHolds⟩ := hPlaced ⟨k, by simp [hAt'], hFr⟩
      obtain ⟨hLen, hHolderOk⟩ := placed_of_closing keys pre'' holder last hEnd hLastFr hHolds j hLast
      simp only [hLen, hHolderOk, hIndex, ne_eq, not_true_eq_false, if_false, if_true]

theorem checkModelTail_eq_error_iff (keys : List Key) (hLong : 2 ≤ keys.length)
    (err : ChainError) : checkModelTail keys = .error err ↔ TailBroken keys err :=
  ⟨tailBroken_of_checkModelTail keys hLong err, checkModelTail_of_tailBroken keys err⟩

/-! ## The whole chain -/

theorem last_of_append (first second : Key) (more pre : List Key) (last : Key)
    (hEnd : first :: second :: more = pre ++ [last]) :
    (second :: more).getLast?.getD first = last := by
  have hLast := congrArg List.getLast? hEnd
  rw [List.getLast?_cons_cons, List.getLast?_concat] at hLast
  rw [hLast]
  rfl

/-- `check` fails with an error exactly when that error is the first rule the chain breaks,
with the position and key type that rule names. -/
theorem check_eq_error_iff_firstBroken (kind : ReferenceKind) (keys : List Key)
    (err : ChainError) : check kind keys = .error err ↔ FirstBroken kind keys err := by
  cases keys with
  | nil =>
    constructor
    · rintro ⟨⟩
      exact .empty kind
    · intro hBroken
      cases hBroken with
      | empty => rfl
      | modelTail _ _ _ hLong _ => simp at hLong
      | externalTerminal _ _ hLong _ _ _ _ => simp at hLong
  | cons first rest =>
    by_cases hFirst : first.type ∈ kind.firstKeys
    · have hOpens : Opens kind (first :: rest) := ⟨first, rfl, hFirst⟩
      cases rest with
      | nil =>
        simp only [check, hFirst, not_true_eq_false, if_false, List.isEmpty_nil, if_true,
          reduceCtorEq, false_iff]
        intro hBroken
        cases hBroken with
        | firstKey _ _ _ hNot => exact hNot hFirst
        | modelTail _ _ _ hLong _ => simp at hLong
        | externalTerminal _ _ hLong _ _ _ _ => simp at hLong
      | cons second more =>
        have hLong : 2 ≤ (first :: second :: more).length := by simp
        cases kind with
        | model =>
          simp only [check, hFirst, not_true_eq_false, if_false, List.isEmpty_cons,
            Bool.false_eq_true]
          rw [checkModelTail_eq_error_iff _ hLong]
          constructor
          · exact fun hTail => .modelTail _ err hOpens hLong hTail
          · intro hBroken
            cases hBroken with
            | firstKey _ _ _ hNot => exact absurd hFirst hNot
            | modelTail _ _ _ _ hTail => exact hTail
        | external =>
          obtain ⟨pre, last, hEnd⟩ : ∃ pre last, first :: second :: more = pre ++ [last] :=
            ⟨(first :: second :: more).dropLast, (second :: more).getLast (by simp),
              by simp [List.dropLast_append_getLast]⟩
          simp only [check, hFirst, not_true_eq_false, if_false, List.isEmpty_cons,
            Bool.false_eq_true, last_of_append first second more pre last hEnd]
          constructor
          · intro hCheck
            split at hCheck
            · cases hCheck
            · rename_i hBad
              cases hCheck
              exact .externalTerminal _ hOpens hLong pre last hEnd (by simpa using hBad)
          · intro hBroken
            cases hBroken with
            | firstKey _ _ _ hNot => exact absurd hFirst hNot
            | externalTerminal _ _ _ pre' last' hEnd' hBad =>
              obtain rfl : last = last' :=
                (last_of_append first second more pre last hEnd).symm.trans
                  (last_of_append first second more pre' last' hEnd')
              simp [hBad]
    · constructor
      · intro hCheck
        simp only [check, hFirst, not_false_eq_true, if_true, Except.error.injEq] at hCheck
        subst hCheck
        exact .firstKey kind first rest hFirst
      · intro hBroken
        -- a chain that breaks the first-key rule cannot break a later one
        have hNotOpens : ¬ Opens kind (first :: rest) := by
          rintro ⟨k, hHead, hIn⟩
          simp only [List.head?_cons, Option.mem_def, Option.some.injEq] at hHead
          exact hFirst (hHead ▸ hIn)
        cases hBroken with
        | firstKey => simp [check, hFirst]
        | modelTail _ _ hOpens => exact absurd hOpens hNotOpens
        | externalTerminal _ hOpens => exact absurd hOpens hNotOpens

example :
    check .model [⟨.submodel, "S1"⟩, ⟨.fragmentReference, "a"⟩, ⟨.file, "Manual"⟩,
      ⟨.fragmentReference, "b"⟩, ⟨.property, "p"⟩] = .error (.fragmentReferenceNotLast 3) := by
  decide

end AdminShell.Chain
