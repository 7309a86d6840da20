import Mathlib
import AdminShell.Files.Tree

/-! # Following paths into a tree

Splitting a path's text at its slashes is splitting its characters at `/` (`splitOn_slash`).
On a tree whose entries sit at distinct paths of plain names, a name joined to the text of a
directory resolves to the directory's names and the name (`FileTree.resolve_join`), whatever
the directory's text is: relative, under the tree's location, with `.`, `..` or a slash at
its end. A walk that joins the names it lists to its paths therefore finds the entries it
lists. A relative path written from plain names has those names for components
(`Path.parts_ofNames`).
-/

namespace AdminShell.Files

set_option autoImplicit false

section Splitting

open String

theorem splitOnAux_slash (l m r : List Char) (acc : List String) :
    splitOnAux (ofList (l ++ m ++ r)) "/" ⟨utf8Len l⟩ ⟨utf8Len l + utf8Len m⟩ 0 acc =
      acc.reverse ++ (List.splitOnPPrepend (· == '/') r m.reverse).map ofList := by
  unfold splitOnAux
  simp only [List.append_assoc, atEnd_iff, rawEndPos_ofList, utf8Len_append, Pos.Raw.mk_le_mk,
    Nat.add_le_add_iff_left, (by omega : utf8Len m + utf8Len r ≤ utf8Len m ↔ utf8Len r = 0),
    utf8Len_eq_zero, List.reverse_cons]
  split
  · subst r
    simpa using extract_of_valid l m []
  · obtain ⟨c, r, rfl⟩ := r.exists_cons_of_ne_nil ‹_›
    simp only [by
      simpa [-ofList_append] using
        (⟨get_of_valid (l ++ m) (c :: r), next_of_valid (l ++ m) c r,
            extract_of_valid l m (c :: r)⟩ :
          _ ∧ _ ∧ _)]
    have hGet : Pos.Raw.get "/" 0 = '/' := rfl
    have hNext : Pos.Raw.next "/" 0 = ⟨1⟩ := rfl
    have hEnd : "/".rawEndPos = ⟨1⟩ := rfl
    simp only [hGet, hNext, hEnd, Pos.Raw.unoffsetBy_zero]
    split <;> rename_i h
    · have hc : c = '/' := by simpa using h
      subst hc
      have hBack : (⟨utf8Len l + utf8Len m + '/'.utf8Size⟩ : Pos.Raw).unoffsetBy ⟨1⟩ =
          ⟨utf8Len l + utf8Len m⟩ := rfl
      rw [hBack, show ofList (l ++ (m ++ '/' :: r)) = ofList (l ++ m ++ '/' :: r) by simp,
        extract_of_valid]
      simpa [Nat.add_assoc, List.splitOnPPrepend_cons_eq_if] using
        splitOnAux_slash (l ++ m ++ ['/']) [] r (ofList m :: acc)
    · rw [show ofList (l ++ (m ++ c :: r)) = ofList (l ++ m ++ c :: r) by simp,
        ← utf8Len_append, next_of_valid, utf8Len_append]
      simpa [h, List.splitOnPPrepend_cons_eq_if, Nat.add_assoc] using
        splitOnAux_slash l (m ++ [c]) r acc

theorem splitOn_slash (s : String) : s.splitOn "/" = (s.toList.splitOn '/').map ofList := by
  have h := splitOnAux_slash [] [] s.toList []
  simp only [List.nil_append, ofList_toList, utf8Len_nil, Nat.add_zero] at h
  simpa [String.splitOn, List.splitOn_eq_splitOnP] using h

end Splitting

/-- A name as a directory holds it: not empty, without a slash, and neither `.` nor `..`. -/
def PlainName (n : String) : Prop :=
  n ≠ "" ∧ '/' ∉ n.toList ∧ n ≠ "." ∧ n ≠ ".."

instance : DecidablePred PlainName := fun _ => inferInstanceAs (Decidable (_ ∧ _ ∧ _ ∧ _))

theorem endsWith_slash_iff (p : String) :
    p.endsWith "/" = true ↔ p.toList.getLast? = some '/' := by
  rw [← List.singleton_suffix_iff_getLast?_eq_some]
  simp [← String.endsWith_toSlice]

theorem startsWith_eq_true_iff (p base : String) :
    p.startsWith base = true ↔ base.toList <+: p.toList := by
  simp

namespace Path

theorem toList_join_of_ne {p : String} (n : String) (h : p ≠ "") :
    (join p n).toList =
      p.toList ++ (if p.toList.getLast? = some '/' then n.toList else '/' :: n.toList) := by
  have hEmpty : p.isEmpty = false := by simpa using h
  by_cases hEnd : p.toList.getLast? = some '/'
  · simp [join, hEmpty, (endsWith_slash_iff p).mpr hEnd, hEnd]
  · have hNot : p.endsWith "/" = false := by
      rw [Bool.eq_false_iff, ne_eq, endsWith_slash_iff]
      exact hEnd
    simp [join, hEmpty, hNot, hEnd]

theorem join_ne {p : String} (hp : p ≠ "") (n : String) : join p n ≠ "" := by
  intro h
  have hList := congrArg String.toList h
  rw [toList_join_of_ne n hp] at hList
  simp_all

theorem splitOn_join {q : String} {n : String} (hq : q ≠ "") (hn : '/' ∉ n.toList) :
    ∃ s, (join q n).splitOn "/" = s ++ [n] ∧
      (q.splitOn "/" = s ∨ q.splitOn "/" = s ++ [""]) := by
  have hName : n.toList.splitOn '/' = [n.toList] := List.splitOn_eq_singleton hn
  rw [splitOn_slash, splitOn_slash, toList_join_of_ne n hq]
  by_cases hEnd : q.toList.getLast? = some '/'
  · obtain ⟨body, hBody⟩ := List.getLast?_eq_some_iff.mp hEnd
    refine ⟨(body.splitOn '/').map String.ofList, ?_, .inr ?_⟩
    · rw [if_pos hEnd, hBody, List.append_assoc, List.singleton_append,
        List.splitOn_append_cons_self, hName]
      simp
    · rw [hBody, List.splitOn_append_cons_self]
      simp
  · refine ⟨(q.toList.splitOn '/').map String.ofList, ?_, .inl rfl⟩
    rw [if_neg hEnd, List.splitOn_append_cons_self, hName]
    simp

theorem endsWith_name {n : String} (hn : PlainName n) : n.endsWith "/" = false := by
  rw [Bool.eq_false_iff, ne_eq, endsWith_slash_iff]
  exact fun h => hn.2.1 (List.mem_of_getLast? h)

theorem endsWith_join {q n : String} (hq : q ≠ "") (hn : PlainName n) :
    (join q n).endsWith "/" = false := by
  obtain ⟨hEmpty, hSlash, -, -⟩ := hn
  have hLast : (join q n).toList.getLast? = n.toList.getLast? := by
    rw [toList_join_of_ne n hq]
    split
    · exact List.getLast?_append_of_ne_nil _ (by simpa using hEmpty)
    · rw [← List.singleton_append, ← List.append_assoc]
      exact List.getLast?_append_of_ne_nil _ (by simpa using hEmpty)
  have hNot : n.toList.getLast? ≠ some '/' := fun h => hSlash (List.mem_of_getLast? h)
  rw [Bool.eq_false_iff, ne_eq, endsWith_slash_iff, hLast]
  exact hNot

end Path

namespace FileTree

/-- A tree whose entries sit at distinct paths of plain names, and whose location is none or
an absolute path without a slash at its end. -/
structure WellFormed (t : FileTree) : Prop where
  distinct : (t.entries.map Prod.fst).Nodup
  plain : ∀ e ∈ t.entries, ∀ n ∈ e.1, PlainName n
  location : t.location = "" ∨
    (t.location.startsWith "/" = true ∧ t.location.endsWith "/" = false)

variable {t : FileTree}

/-! ## Entries and names -/

theorem find?_of_ne_nil {names : List String} (h : names ≠ []) :
    t.find? names = (t.entries.find? (fun e => e.1 == names)).map Prod.snd := by
  cases names with
  | nil => contradiction
  | cons _ _ => rfl

theorem mem_of_find? {names : List String} {e : Entry} (h : t.find? names = some e)
    (hne : names ≠ []) : (names, e) ∈ t.entries := by
  rw [find?_of_ne_nil hne, Option.map_eq_some_iff] at h
  obtain ⟨x, hx, rfl⟩ := h
  have hPath : x.1 = names := by simpa using List.find?_some hx
  rw [← hPath]
  exact List.mem_of_find?_eq_some hx

theorem find?_of_mem (ht : t.WellFormed) {names : List String} {e : Entry}
    (h : (names, e) ∈ t.entries) (hne : names ≠ []) : t.find? names = some e := by
  rw [find?_of_ne_nil hne]
  have hSome : (t.entries.find? (fun e => e.1 == names)).isSome :=
    List.find?_isSome.mpr ⟨(names, e), h, by simp⟩
  obtain ⟨x, hx⟩ := Option.isSome_iff_exists.mp hSome
  have hPath : x.1 = names := by simpa using List.find?_some hx
  -- two entries at one path are one entry
  have hSame : x = (names, e) :=
    List.inj_on_of_nodup_map ht.distinct (List.mem_of_find?_eq_some hx) h hPath
  rw [hx, hSame]
  rfl

theorem names_step_eq_some_iff (here path : List String) (n : String) :
    (match path.splitAt here.length with
      | (front, [m]) => if front == here then some m else none
      | _ => none) = some n ↔ path = here ++ [n] := by
  rw [List.splitAt_eq]
  constructor
  · intro h
    split at h
    · rename_i front m hSplit
      obtain ⟨hFront, hLast⟩ := Prod.mk.inj hSplit
      have hHere : front = here := by simpa using (Option.isSome_of_eq_some h)
      rw [if_pos (by simpa using hHere), Option.some.injEq] at h
      rw [← List.take_append_drop here.length path, hFront, hLast, hHere, h]
    · cases h
  · rintro rfl
    simp

theorem mem_names_iff {here : List String} {n : String} :
    n ∈ t.names here ↔ ∃ e, (here ++ [n], e) ∈ t.entries := by
  simp only [names, List.mem_filterMap]
  constructor
  · rintro ⟨⟨path, e⟩, hMem, hStep⟩
    rw [(names_step_eq_some_iff here path n).mp hStep] at hMem
    exact ⟨e, hMem⟩
  · rintro ⟨e, hMem⟩
    exact ⟨_, hMem, (names_step_eq_some_iff here _ n).mpr rfl⟩

theorem names_nodup (ht : t.WellFormed) (here : List String) : (t.names here).Nodup := by
  have hPaths : t.names here = (t.entries.map Prod.fst).filterMap fun path =>
      match path.splitAt here.length with
      | (front, [m]) => if front == here then some m else none
      | _ => none := by
    rw [List.filterMap_map]
    rfl
  rw [hPaths]
  refine List.Nodup.filterMap ?_ ht.distinct
  intro path path' n hn hn'
  rw [(names_step_eq_some_iff here path n).mp hn, (names_step_eq_some_iff here path' n).mp hn']

theorem plainName_of_mem_names (ht : t.WellFormed) {here : List String} {n : String}
    (h : n ∈ t.names here) : PlainName n := by
  obtain ⟨e, hMem⟩ := mem_names_iff.mp h
  exact ht.plain _ hMem n (by simp)

/-! ## Reading a path below the top -/

theorem localPath?_eq (p : String) : t.localPath? p =
    if t.location ≠ "" ∧ p = t.location then some "."
    else if t.location ≠ "" ∧ t.location.toList ++ ['/'] <+: p.toList then
      some (if p.toList.drop (t.location.length + 1) = [] then "."
        else String.ofList (p.toList.drop (t.location.length + 1)))
    else if p = "" ∨ ['/'] <+: p.toList then none
    else some p := by
  have hDrop : (p.drop (t.location.length + 1)).toString =
      String.ofList (p.toList.drop (t.location.length + 1)) := by
    apply String.toList_injective
    simp
  simp only [localPath?, Bool.and_eq_true, Bool.not_eq_true', String.isEmpty_eq_false_iff,
    beq_iff_eq,
    startsWith_eq_true_iff, String.toList_append, Bool.or_eq_true, String.isEmpty_iff, hDrop]
  have hSlash : "/".toList = ['/'] := rfl
  simp only [hSlash, String.ofList_eq_empty_iff]

theorem WellFormed.location_ne {t : FileTree} (ht : t.WellFormed) (h : t.location ≠ "") :
    t.location.toList.head? = some '/' ∧ t.location.toList.getLast? ≠ some '/' := by
  rcases ht.location with hEmpty | ⟨hStart, hEnd⟩
  · exact absurd hEmpty h
  · refine ⟨?_, ?_⟩
    · rw [← List.singleton_prefix_iff_head?_eq_some]
      exact (startsWith_eq_true_iff _ _).mp hStart
    · rw [ne_eq, ← endsWith_slash_iff, hEnd]
      decide

theorem localPath?_relative (ht : t.WellFormed) {p : String} (hp : p ≠ "")
    (hHead : p.toList.head? ≠ some '/') : t.localPath? p = some p := by
  have hNotSlash : ¬ ['/'] <+: p.toList := by
    rwa [List.singleton_prefix_iff_head?_eq_some]
  rw [localPath?_eq, if_neg, if_neg, if_neg (by simp [hp, hNotSlash])]
  · rintro ⟨hL, hPrefix⟩
    have hHeadL := (ht.location_ne hL).1
    obtain ⟨rest, hRest⟩ := hPrefix
    apply hHead
    rw [← hRest, List.append_assoc, List.head?_append_of_ne_nil _ (by simpa using hL), hHeadL]
  · rintro ⟨hL, rfl⟩
    exact hHead (ht.location_ne hL).1

theorem localPath?_below {p : String} {rest : List Char} (hL : t.location ≠ "")
    (hp : p.toList = t.location.toList ++ '/' :: rest) :
    t.localPath? p = some (if rest = [] then "." else String.ofList rest) := by
  have hLength : t.location.length + 1 = (t.location.toList ++ ['/']).length := by
    rw [List.length_append, String.length_toList]
    rfl
  have hDrop : p.toList.drop (t.location.length + 1) = rest := by
    rw [hLength, hp, show t.location.toList ++ '/' :: rest = (t.location.toList ++ ['/']) ++ rest
      by simp, List.drop_left]
  rw [localPath?_eq, if_neg, if_pos ⟨hL, ⟨rest, by rw [hp]; simp⟩⟩, hDrop]
  rintro ⟨-, hEq⟩
  have := congrArg (fun s : String => s.toList.length) hEq
  simp [hp] at this

theorem localPath?_name_below {p n : String} (hL : t.location ≠ "") (hn : PlainName n)
    (hp : p.toList = t.location.toList ++ '/' :: n.toList) : t.localPath? p = some n := by
  rw [localPath?_below hL hp, if_neg (by simpa using hn.1), String.ofList_toList]

theorem localPath?_cases {p q : String} (h : t.localPath? p = some q) :
    (t.location ≠ "" ∧ p = t.location ∧ q = ".") ∨
    (t.location ≠ "" ∧ ∃ rest, p.toList = t.location.toList ++ '/' :: rest ∧
      q = if rest = [] then "." else String.ofList rest) ∨
    (p ≠ "" ∧ p.toList.head? ≠ some '/' ∧ q = p) := by
  by_cases hAt : t.location ≠ "" ∧ p = t.location
  · rw [localPath?_eq, if_pos hAt, Option.some.injEq] at h
    exact .inl ⟨hAt.1, hAt.2, h.symm⟩
  by_cases hBelow : t.location ≠ "" ∧ t.location.toList ++ ['/'] <+: p.toList
  · obtain ⟨hL, rest, hRest⟩ := hBelow
    have hp : p.toList = t.location.toList ++ '/' :: rest := by
      rw [← hRest]
      simp
    rw [localPath?_below hL hp, Option.some.injEq] at h
    exact .inr (.inl ⟨hL, rest, hp, h.symm⟩)
  · rw [localPath?_eq, if_neg hAt, if_neg hBelow] at h
    split_ifs at h with hRelative
    rw [Option.some.injEq] at h
    refine .inr (.inr ⟨fun hp => hRelative (.inl hp), ?_, h.symm⟩)
    rw [ne_eq, ← List.singleton_prefix_iff_head?_eq_some]
    exact fun hp => hRelative (.inr hp)

/-- A name joined to a path is read below the top as the name joined to the path's part below
it, or as the name alone where that part is the top. -/
theorem localPath?_join (ht : t.WellFormed) {dir q n : String} (hq : t.localPath? dir = some q)
    (hn : PlainName n) :
    ∃ q' s, t.localPath? (Path.join dir n) = some q' ∧ q'.endsWith "/" = false ∧
      q'.splitOn "/" = s ++ [n] ∧
        (q.splitOn "/" = s ∨ q.splitOn "/" = s ++ [""] ∨ (q = "." ∧ s = [])) := by
  have hAlone : n.endsWith "/" = false ∧ n.splitOn "/" = [] ++ [n] := by
    refine ⟨Path.endsWith_name hn, ?_⟩
    rw [splitOn_slash, List.splitOn_eq_singleton hn.2.1]
    simp
  rcases localPath?_cases hq with ⟨hL, rfl, rfl⟩ | ⟨hL, rest, hDir, rfl⟩ |
    ⟨hDir, hHead, rfl⟩
  · have hJoin : (Path.join t.location n).toList = t.location.toList ++ '/' :: n.toList := by
      rw [Path.toList_join_of_ne n hL, if_neg (ht.location_ne hL).2]
    exact ⟨n, [], localPath?_name_below hL hn hJoin, hAlone.1, hAlone.2, .inr (.inr ⟨rfl, rfl⟩)⟩
  · have hDirNe : dir ≠ "" := by
      intro h
      simp [h] at hDir
    by_cases hRest : rest = []
    · subst hRest
      have hJoin : (Path.join dir n).toList = t.location.toList ++ '/' :: n.toList := by
        rw [Path.toList_join_of_ne n hDirNe, if_pos (by simp [hDir]), hDir]
        simp
      exact ⟨n, [], localPath?_name_below hL hn hJoin, hAlone.1, hAlone.2,
        .inr (.inr ⟨by simp, rfl⟩)⟩
    · have hRestNe : String.ofList rest ≠ "" := by simpa using hRest
      have hJoin : (Path.join dir n).toList =
          t.location.toList ++ '/' :: (Path.join (String.ofList rest) n).toList := by
        have hLast : dir.toList.getLast? = rest.getLast? := by
          rw [hDir, ← List.singleton_append, ← List.append_assoc]
          exact List.getLast?_append_of_ne_nil _ hRest
        rw [Path.toList_join_of_ne n hDirNe, Path.toList_join_of_ne n hRestNe, hLast, hDir,
          String.toList_ofList]
        simp
      obtain ⟨s, hSplit, hCases⟩ := Path.splitOn_join hRestNe hn.2.1
      refine ⟨Path.join (String.ofList rest) n, s, ?_, Path.endsWith_join hRestNe hn, hSplit,
        ?_⟩
      · have hJoinNe : (Path.join (String.ofList rest) n).toList ≠ [] := by
          simpa using Path.join_ne hRestNe n
        rw [localPath?_below hL hJoin, if_neg hJoinNe, String.ofList_toList]
      · rw [if_neg hRest]
        exact hCases.elim .inl (.inr ∘ .inl)
  · -- a relative path stays relative
    have hHeadJoin : (Path.join q n).toList.head? = q.toList.head? := by
      rw [Path.toList_join_of_ne n hDir]
      exact List.head?_append_of_ne_nil _ (by simpa using hDir)
    obtain ⟨s, hSplit, hCases⟩ := Path.splitOn_join hDir hn.2.1
    refine ⟨Path.join q n, s, localPath?_relative ht (Path.join_ne hDir n) (by rwa [hHeadJoin]),
      Path.endsWith_join hDir hn, hSplit, hCases.elim .inl (.inr ∘ .inl)⟩

/-! ## Following a path -/

/-- A path resolves to the names its segments lead to from the top; a text that ends in a
slash leads to no file. -/
theorem resolve_eq_ok_iff {p : String} {names : List String} :
    t.resolve p = .ok names ↔ ∃ q, t.localPath? p = some q ∧
      (q.splitOn "/").foldl t.enter (.ok (some [])) = .ok (some names) ∧
      (q.endsWith "/" = true → (t.find? names).map Entry.kind ≠ some .file) := by
  unfold resolve
  cases hLocal : t.localPath? p with
  | none => simp [throw, throwThe, MonadExceptOf.throw, bind, Except.bind]
  | some q =>
    simp only [pure, Except.pure, bind, Except.bind, Option.some.injEq, exists_eq_left']
    generalize List.foldl _ _ _ = r
    rcases r with err | _ | found
    · simp
    · simp [throw, throwThe, MonadExceptOf.throw]
    · by_cases hEnd : q.endsWith "/" = true
      · simp only [hEnd, ↓reduceIte, Except.ok.injEq, Option.some.injEq, forall_const]
        cases hKind : (t.find? found).map Entry.kind with
        | none =>
          simp only [Except.ok.injEq, iff_self_and]
          rintro rfl
          simp [hKind]
        | some k =>
          cases k with
          | file =>
            simp only [throw, throwThe, MonadExceptOf.throw, reduceCtorEq, false_iff, not_and]
            rintro rfl
            simpa using hKind
          | directory | other =>
            simp only [Except.ok.injEq, iff_self_and]
            rintro rfl
            simp [hKind]
      · simp [hEnd]

theorem enter_empty {acc : Except IoError (Option (List String))} {here : List String}
    (h : t.enter acc "" = .ok (some here)) : acc = .ok (some here) := by
  rcases acc with err | _ | found
  · cases h
  · cases h
  · cases hKind : (t.find? found).map Entry.kind with
    | none => simpa [enter, hKind, bind, Except.bind, pure, Except.pure] using h
    | some k =>
      cases k with
      | file => simp [enter, hKind, bind, Except.bind, throw, throwThe, MonadExceptOf.throw] at h
      | directory | other => simpa [enter, hKind, bind, Except.bind, pure, Except.pure] using h

theorem enter_top_dot : t.enter (.ok (some [])) "." = .ok (some []) := rfl

theorem enter_name {here : List String} {n : String} {e : Entry}
    (hHere : t.find? here = some .directory) (hn : PlainName n)
    (hEntry : t.find? (here ++ [n]) = some e) :
    t.enter (.ok (some here)) n = .ok (some (here ++ [n])) := by
  obtain ⟨hEmpty, -, hDot, hDots⟩ := hn
  simp [enter, hHere, hEntry, hEmpty, hDot, hDots, Entry.kind, bind, Except.bind, pure,
    Except.pure]

theorem splitOn_dot : ".".splitOn "/" = ["."] := by
  rw [splitOn_slash]
  rfl

/-- A plain name joined to the text of a directory resolves to the directory's names and the
name, wherever the directory's text leads from. -/
theorem resolve_join (ht : t.WellFormed) {dir n : String} {here : List String} {e : Entry}
    (hDir : t.resolve dir = .ok here) (hHere : t.find? here = some .directory)
    (hn : PlainName n) (hEntry : t.find? (here ++ [n]) = some e) :
    t.resolve (Path.join dir n) = .ok (here ++ [n]) := by
  obtain ⟨q, hq, hFold, -⟩ := resolve_eq_ok_iff.mp hDir
  obtain ⟨q', s, hq', hEnd, hSplit, hCases⟩ := localPath?_join ht hq hn
  have hBefore : s.foldl t.enter (.ok (some [])) = .ok (some here) := by
    rcases hCases with hSame | hSlash | ⟨rfl, rfl⟩
    · rwa [hSame] at hFold
    · rw [hSlash, List.foldl_append] at hFold
      exact enter_empty hFold
    · rw [splitOn_dot, List.foldl_cons, List.foldl_nil, enter_top_dot] at hFold
      exact hFold
  refine resolve_eq_ok_iff.mpr ⟨q', hq', ?_, by simp [hEnd]⟩
  rw [hSplit, List.foldl_append, hBefore, List.foldl_cons, List.foldl_nil,
    enter_name hHere hn hEntry]

theorem kindAt_of_resolve {p : String} {names : List String} {e : Entry}
    (h : t.resolve p = .ok names) (hFind : t.find? names = some e) :
    t.kindAt p = .ok e.kind := by
  simp [kindAt, h, hFind, bind, Except.bind, pure, Except.pure]

theorem readText_of_resolve {p : String} {names : List String} {text : String}
    (h : t.resolve p = .ok names) (hFind : t.find? names = some (.file text)) :
    t.readText p = .ok text := by
  simp [readText, h, hFind, bind, Except.bind, pure, Except.pure]

theorem list_of_resolve {p : String} {names : List String}
    (h : t.resolve p = .ok names) (hFind : t.find? names = some .directory) :
    t.list p = .ok (t.names names) := by
  simp [list, h, hFind, bind, Except.bind, pure, Except.pure]

theorem readText_of_resolve_unreadable {p : String} {names : List String} {e : IoError}
    (h : t.resolve p = .ok names) (hFind : t.find? names = some (.unreadableFile e)) :
    t.readText p = .error e := by
  simp [readText, h, hFind, bind, Except.bind, throw, throwThe, MonadExceptOf.throw]

theorem list_of_resolve_unlistable {p : String} {names : List String} {e : IoError}
    (h : t.resolve p = .ok names) (hFind : t.find? names = some (.unlistableDirectory e)) :
    t.list p = .error e := by
  simp [list, h, hFind, bind, Except.bind, throw, throwThe, MonadExceptOf.throw]

theorem kindAt_eq_ok_iff {p : String} {k : EntryKind} :
    t.kindAt p = .ok k ↔
      ∃ names e, t.resolve p = .ok names ∧ t.find? names = some e ∧ e.kind = k := by
  constructor
  · intro h
    cases hResolve : t.resolve p with
    | error err => simp [kindAt, hResolve, bind, Except.bind] at h
    | ok names =>
      cases hFind : t.find? names with
      | none =>
        simp [kindAt, hResolve, hFind, bind, Except.bind, throw, throwThe,
          MonadExceptOf.throw] at h
      | some e =>
        rw [kindAt_of_resolve hResolve hFind, Except.ok.injEq] at h
        exact ⟨names, e, rfl, hFind, h⟩
  · rintro ⟨names, e, hResolve, hFind, rfl⟩
    exact kindAt_of_resolve hResolve hFind

end FileTree

namespace Path

theorem ofSegment?_name {n : String} (hn : PlainName n) :
    PathPart.ofSegment? n = some (.name n) := by
  obtain ⟨hEmpty, -, hDot, hDots⟩ := hn
  unfold PathPart.ofSegment?
  split <;> simp_all

theorem parts_ofNames {rel : List String} (h : ∀ n ∈ rel, PlainName n) :
    parts (ofNames rel) = rel.map .name := by
  cases rel with
  | nil =>
    have hSplit : (ofNames []).splitOn "/" = [""] := by
      rw [splitOn_slash]
      rfl
    have hNoSlash : ¬ ['/'] <+: (ofNames []).toList := by simp [ofNames]
    simp [parts, hSplit, hNoSlash]
  | cons n rest =>
    have hSplit : (ofNames (n :: rest)).splitOn "/" = n :: rest := by
      rw [splitOn_slash, ofNames, String.toList_intercalate, show "/".toList = ['/'] from rfl,
        List.splitOn_intercalate]
      · simp
      · simpa using fun m hm => (h m hm).2.1
      · simp
    have hBody : (n :: rest).filterMap PathPart.ofSegment? = (n :: rest).map .name :=
      List.filterMap_eq_map_iff_forall_eq_some.mpr fun m hm => ofSegment?_name (h m hm)
    obtain ⟨hEmpty, -, hDot, -⟩ := h n (by simp)
    unfold parts
    rw [hSplit]
    split
    · rename_i hCons
      exact absurd (List.cons.inj hCons).1 hEmpty
    · rename_i hCons
      exact absurd (List.cons.inj hCons).1 hDot
    · exact hBody

end Path

end AdminShell.Files
