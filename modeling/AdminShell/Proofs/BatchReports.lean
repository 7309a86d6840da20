import Mathlib
import AdminShell.Batch.Report
import AdminShell.Proofs.TreePaths

/-! # What a batch check reports

A batch check walks a tree of documents from a root and reports on each entry it meets. On a
tree whose entries sit at distinct paths of plain names (`FileTree.WellFormed`), the walk below
a directory visits exactly the entries it reaches (`Reaches`): through directories it lists
whose paths relative to the root are not ignored, to a file whose path has a checked
extension, read or refused, or to a directory that refuses to be listed. It visits them in the
lexicographic order of their relative names, which is the order of a depth-first walk that
takes each directory's names in byte order (`walkDirectory_visits`); a refused directory is
reported in its own place and nothing below it is visited. An ignored directory hides only
what lies below it, since paths are compared by components (`CheckSettings.isIgnored_of_take`).

A document's report gives its number of entities or its first failure, and a refused file or
directory is a failed report with the system's error (`Report.OfEntry`). A check that stops at
its first failure reports the full run up to and including that failure
(`check_reports_each_document`).
-/

namespace AdminShell

set_option autoImplicit false

open Files

theorem CheckSettings.isIgnored_of_take (c : CheckSettings) {rel : List String}
    (hPlain : ∀ n ∈ rel, PlainName n) (k : Nat)
    (h : c.isIgnored (Path.ofNames (rel.take k)) = true) :
    c.isIgnored (Path.ofNames rel) = true := by
  have hTake : ∀ n ∈ rel.take k, PlainName n := fun n hn => hPlain n (List.mem_of_mem_take hn)
  simp only [isIgnored, List.any_eq_true, Path.startsWith, List.isPrefixOf_iff_prefix,
    Path.parts_ofNames hTake, Path.parts_ofNames hPlain] at h ⊢
  obtain ⟨ignored, hMem, hPrefix⟩ := h
  refine ⟨ignored, hMem, hPrefix.trans ?_⟩
  exact (List.take_prefix k rel).map _

/-- Whether a walk that reaches an entry at `path` reports on it: a file, readable or not, when
its extension is checked, and a directory it cannot list; a directory it lists is walked into. -/
def Files.Entry.reported (c : CheckSettings) (path : String) : Files.Entry → Bool
  | .file _ | .unreadableFile _ => c.matchesExtension path
  | .directory => false
  | .unlistableDirectory _ => true

def Files.Entry.visit (path label : String) : Files.Entry → Batch.Visit
  | .unlistableDirectory e => .unreadable label path e
  | _ => .document path label

namespace Batch

/-! ## Running on a tree held in memory -/

section Run

variable (t : FileTree)

@[simp] theorem run_kindAt (p : String) :
    (FileSystem.kindAt p : StateM FileTree _).run t = pure (t.kindAt p, t) := rfl

@[simp] theorem run_readText (p : String) :
    (FileSystem.readText p : StateM FileTree _).run t = pure (t.readText p, t) := rfl

@[simp] theorem run_list (p : String) :
    (FileSystem.list p : StateM FileTree _).run t = pure (t.list p, t) := rfl

theorem mapM_run_forall₂ {α β : Type} {f : α → StateM FileTree β} {P : α → β → Prop} :
    ∀ xs : List α, (∀ x ∈ xs, ∃ b, (f x).run t = pure (b, t) ∧ P x b) →
      ∃ bs, (xs.mapM f).run t = pure (bs, t) ∧ List.Forall₂ P xs bs
  | [], _ => ⟨[], rfl, .nil⟩
  | x :: xs, h => by
    obtain ⟨b, hb, hP⟩ := h x (by simp)
    obtain ⟨bs, hbs, hRest⟩ := mapM_run_forall₂ xs fun y hy => h y (by simp [hy])
    refine ⟨b :: bs, ?_, .cons hP hRest⟩
    rw [List.mapM_cons, StateT.run_bind, hb]
    change (Functor.map (fun p => (b :: p.1, p.2)) ((xs.mapM f).run t) : Id _) = _
    rw [hbs]
    rfl

theorem run_mapM_flatten {α β : Type} {f : α → StateM FileTree (List β)}
    {P : α → List β → Prop} {Q : List β → Prop} (xs : List α)
    (h : ∀ x ∈ xs, ∃ b, (f x).run t = pure (b, t) ∧ P x b)
    (hQ : ∀ bs, List.Forall₂ P xs bs → Q bs.flatten) :
    ∃ vs, (do
        let p ← (xs.mapM f).run t
        (pure p.1.flatten : StateM FileTree (List β)).run p.2) = pure (vs, t) ∧ Q vs := by
  obtain ⟨bs, hbs, hP⟩ := mapM_run_forall₂ t xs h
  exact ⟨bs.flatten, by rw [hbs]; rfl, hQ bs hP⟩

end Run

/-! ## The walk does not stop early -/

theorem walkDirectory_failFast {m : Type → Type} [Monad m] [FileSystem m] (c : CheckSettings)
    (b : Bool) : ∀ (fuel : Nat) (dir : String) (relative : List String),
      (walkDirectory { c with failFast := b } fuel dir relative : m (List Visit)) =
        walkDirectory c fuel dir relative
  | 0, _, _ => rfl
  | fuel + 1, dir, relative => by
    simp only [walkDirectory, walkDirectory_failFast c b fuel]
    rfl

theorem walk_failFast {m : Type → Type} [Monad m] [FileSystem m] (c : CheckSettings) (b : Bool)
    (fuel : Nat) (root : String) :
    (walk { c with failFast := b } fuel root : m (List Visit)) = walk c fuel root := by
  simp only [walk, walkDirectory_failFast]
  rfl

/-! ## Visits in order -/

def VisitsInOrder (root : String) (Q : List String → Entry → Prop) (vs : List Visit) : Prop :=
  ∃ found : List (List String × Entry),
    vs = found.map (fun x => x.2.visit (x.1.foldl Path.join root) (Path.ofNames x.1)) ∧
    (found.map Prod.fst).Pairwise (· < ·) ∧ ∀ rel e, (rel, e) ∈ found ↔ Q rel e

theorem VisitsInOrder.congr {root : String} {Q Q' : List String → Entry → Prop}
    {vs : List Visit} (h : VisitsInOrder root Q vs) (hQ : ∀ rel e, Q rel e ↔ Q' rel e) :
    VisitsInOrder root Q' vs := by
  obtain ⟨found, hvs, hOrder, hMem⟩ := h
  exact ⟨found, hvs, hOrder, fun rel e => (hMem rel e).trans (hQ rel e)⟩

theorem visitsInOrder_nil (root : String) {Q : List String → Entry → Prop}
    (hQ : ∀ rel e, ¬ Q rel e) : VisitsInOrder root Q [] :=
  ⟨[], rfl, .nil, fun rel e => by simp [hQ rel e]⟩

theorem sortNames_pairwise {names : List String} (h : names.Nodup) :
    (sortNames names).Pairwise (· < ·) := by
  have hSorted : (sortNames names).Pairwise (fun a b => decide (a ≤ b) = true) :=
    List.pairwise_mergeSort
      (fun a b c hab hbc => by simpa using le_trans (by simpa using hab) (by simpa using hbc))
      (fun a b => by simpa using le_total a b) names
  have hNodup : (sortNames names).Nodup := (List.mergeSort_perm names _).nodup_iff.mpr h
  exact (hSorted.and hNodup).imp fun ⟨hLe, hNe⟩ => lt_of_le_of_ne (by simpa using hLe) hNe

theorem lt_of_branch {pre x y : List String} {a b : String} (h : a < b) :
    pre ++ a :: x < pre ++ b :: y :=
  List.append_left_lt (List.cons_lt_cons_iff.mpr (.inl h))

theorem visitsInOrder_flatten {root : String} {pre : List String}
    {Q : String → List String → Entry → Prop}
    (hBranch : ∀ n rel e, Q n rel e → ∃ s, rel = pre ++ n :: s) {names : List String}
    {vss : List (List Visit)} (hNames : names.Pairwise (· < ·))
    (hVisits : List.Forall₂ (fun n vs => VisitsInOrder root (Q n) vs) names vss) :
    VisitsInOrder root (fun rel e => ∃ n ∈ names, Q n rel e) vss.flatten := by
  induction hVisits with
  | nil => exact visitsInOrder_nil root (by simp)
  | @cons n vs names vss hFirst _ ih =>
    obtain ⟨found, rfl, hOrder, hMem⟩ := hFirst
    obtain ⟨found', hvs', hOrder', hMem'⟩ := ih (List.pairwise_cons.mp hNames).2
    refine ⟨found ++ found', by simp [hvs'], ?_, ?_⟩
    · rw [List.map_append]
      refine List.pairwise_append.mpr ⟨hOrder, hOrder', ?_⟩
      intro x hx y hy
      obtain ⟨⟨a, e⟩, ha, rfl⟩ := List.mem_map.mp hx
      obtain ⟨⟨b, e'⟩, hb, rfl⟩ := List.mem_map.mp hy
      obtain ⟨s, rfl⟩ := hBranch n a e ((hMem a e).mp ha)
      obtain ⟨m, hm, hQ⟩ := (hMem' b e').mp hb
      obtain ⟨s', rfl⟩ := hBranch m b e' hQ
      exact lt_of_branch ((List.pairwise_cons.mp hNames).1 m hm)
    · intro rel e
      simp only [List.mem_append, hMem, hMem', List.mem_cons, exists_eq_or_imp]

/-! ## What a walk reaches -/

/-- The walk from the directory at `top ++ pre` reaches the entry `e` at the further names and
reports on it: through directories whose paths relative to the root are not ignored, to an
entry whose relative path is not ignored and that the walk reports on. -/
inductive Reaches (t : FileTree) (c : CheckSettings) (root : String) (top : List String) :
    List String → List String → Entry → Prop
  | entry {pre : List String} {n : String} {e : Entry} :
      c.isIgnored (Path.ofNames (pre ++ [n])) = false →
      t.find? (top ++ pre ++ [n]) = some e →
      e.reported c ((pre ++ [n]).foldl Path.join root) = true →
      Reaches t c root top pre [n] e
  | directory {pre s : List String} {n : String} {e : Entry} :
      c.isIgnored (Path.ofNames (pre ++ [n])) = false →
      t.find? (top ++ pre ++ [n]) = some .directory →
      Reaches t c root top (pre ++ [n]) s e →
      Reaches t c root top pre (n :: s) e

namespace Reaches

variable {t : FileTree} {c : CheckSettings} {root : String} {top : List String}

theorem ne_nil {pre s : List String} {e : Entry} (h : Reaches t c root top pre s e) :
    s ≠ [] := by
  cases h <;> simp

theorem not_ignored {pre s : List String} {n : String} {e : Entry}
    (h : Reaches t c root top pre (n :: s) e) :
    c.isIgnored (Path.ofNames (pre ++ [n])) = false := by
  cases h with
  | entry hIgnored => exact hIgnored
  | directory hIgnored => exact hIgnored

theorem cons_iff_of_directory {pre s : List String} {n : String} {e : Entry}
    (hIgnored : c.isIgnored (Path.ofNames (pre ++ [n])) = false)
    (hDirectory : t.find? (top ++ pre ++ [n]) = some .directory) :
    Reaches t c root top pre (n :: s) e ↔ Reaches t c root top (pre ++ [n]) s e := by
  constructor
  · intro h
    cases h with
    | entry _ hFind hReported =>
      rw [hDirectory, Option.some.injEq] at hFind
      subst hFind
      simp [Files.Entry.reported] at hReported
    | directory _ _ hBelow => exact hBelow
  · exact .directory hIgnored hDirectory

theorem cons_iff_of_leaf {pre s : List String} {n : String} {e e' : Entry}
    (hIgnored : c.isIgnored (Path.ofNames (pre ++ [n])) = false)
    (hLeaf : t.find? (top ++ pre ++ [n]) = some e') (hNot : e' ≠ .directory) :
    Reaches t c root top pre (n :: s) e ↔
      s = [] ∧ e = e' ∧ e'.reported c ((pre ++ [n]).foldl Path.join root) = true := by
  constructor
  · intro h
    cases h with
    | entry _ hFind hReported =>
      rw [hLeaf, Option.some.injEq] at hFind
      subst hFind
      exact ⟨rfl, rfl, hReported⟩
    | directory _ hDirectory =>
      rw [hLeaf, Option.some.injEq] at hDirectory
      exact absurd hDirectory hNot
  · rintro ⟨rfl, rfl, hReported⟩
    exact .entry hIgnored hLeaf hReported

theorem find?_isSome {pre s : List String} {e : Entry} (h : Reaches t c root top pre s e) :
    ∀ k, 0 < k → k ≤ s.length → (t.find? (top ++ pre ++ s.take k)).isSome := by
  induction h with
  | @entry pre n e _ hFind _ =>
    intro k hk hLength
    obtain rfl : k = 1 := by simp at hLength; omega
    rw [List.take_of_length_le hLength, hFind]
    rfl
  | @directory pre s n e _ hDirectory _ ih =>
    intro k hk hLength
    cases k with
    | zero => omega
    | succ j =>
      cases j with
      | zero =>
        rw [List.take_succ_cons, List.take_zero, hDirectory]
        rfl
      | succ i =>
        have := ih (i + 1) (by omega) (by simp at hLength; omega)
        simpa [List.take_succ_cons] using this

end Reaches

/-! ## The walk below a directory -/

section Walk

variable {t : FileTree} (c : CheckSettings) (root : String) (top : List String)

theorem reaches_iff_listed {pre rel : List String} {e : Entry} :
    (∃ s, rel = pre ++ s ∧ Reaches t c root top pre s e) ↔
      ∃ n ∈ sortNames (t.names (top ++ pre)), ∃ s, rel = pre ++ n :: s ∧
        Reaches t c root top pre (n :: s) e := by
  constructor
  · rintro ⟨s, rfl, hReach⟩
    obtain ⟨n, s, rfl⟩ := List.exists_cons_of_ne_nil hReach.ne_nil
    obtain ⟨e', hFind⟩ :=
      Option.isSome_iff_exists.mp (hReach.find?_isSome 1 (by omega) (by simp))
    have hMem := FileTree.mem_of_find? hFind (by simp)
    refine ⟨n, List.mem_mergeSort.mpr (FileTree.mem_names_iff.mpr ⟨e', ?_⟩), s, rfl, hReach⟩
    simpa using hMem
  · rintro ⟨n, -, s, rfl, hReach⟩
    exact ⟨n :: s, rfl, hReach⟩

theorem visitsInOrder_leaf {pre : List String} {n : String} {e : Entry}
    (hKept : c.isIgnored (Path.ofNames (pre ++ [n])) = false)
    (hLeaf : t.find? (top ++ pre ++ [n]) = some e) (hNot : e ≠ .directory) :
    VisitsInOrder root
      (fun rel e' => ∃ s, rel = pre ++ n :: s ∧ Reaches t c root top pre (n :: s) e')
      (if e.reported c (Path.join (pre.foldl Path.join root) n) then
        [e.visit (Path.join (pre.foldl Path.join root) n) (Path.ofNames (pre ++ [n]))]
      else []) := by
  by_cases hReported : e.reported c (Path.join (pre.foldl Path.join root) n) = true
  · refine ⟨[(pre ++ [n], e)], ?_, List.pairwise_singleton _ _, fun rel e' => ?_⟩
    · simp [hReported]
    · simp [Reaches.cons_iff_of_leaf hKept hLeaf hNot, hReported, and_comm]
  · rw [if_neg hReported]
    refine visitsInOrder_nil root ?_
    rintro rel e' ⟨s, -, hReach⟩
    rw [Reaches.cons_iff_of_leaf hKept hLeaf hNot] at hReach
    simp_all

theorem walkDirectory_run_of_unlistable {dir : String} {names : List String} {err : IoError}
    (hResolve : t.resolve dir = .ok names)
    (hFind : t.find? names = some (.unlistableDirectory err)) (fuel : Nat)
    (relative : List String) :
    (walkDirectory c (fuel + 1) dir relative : StateM FileTree _).run t =
      pure ([.unreadable (if relative.isEmpty then rootName dir else Path.ofNames relative)
        dir err], t) := by
  simp only [walkDirectory, StateT.run_bind, run_list,
    FileTree.list_of_resolve_unlistable hResolve hFind, pure_bind]
  rfl

theorem walkDirectory_visits (ht : t.WellFormed) :
    ∀ (fuel : Nat) (pre : List String),
      t.resolve (pre.foldl Path.join root) = .ok (top ++ pre) →
      t.find? (top ++ pre) = some .directory →
      (∀ s e, Reaches t c root top pre s e → s.length < fuel) →
      ∃ vs, (walkDirectory c fuel (pre.foldl Path.join root) pre : StateM FileTree _).run t =
          pure (vs, t) ∧
        VisitsInOrder root (fun rel e => ∃ s, rel = pre ++ s ∧ Reaches t c root top pre s e) vs
  | 0, pre, _, _, hFuel => by
    refine ⟨[], rfl, visitsInOrder_nil root ?_⟩
    rintro rel e ⟨s, -, hReach⟩
    exact absurd (hFuel s e hReach) (Nat.not_lt_zero _)
  | fuel + 1, pre, hResolve, hDirectory, hFuel => by
    simp only [walkDirectory, StateT.run_bind, run_list,
      FileTree.list_of_resolve hResolve hDirectory, pure_bind]
    refine @run_mapM_flatten t String Visit _
      (fun n vs => VisitsInOrder root
        (fun rel e => ∃ s, rel = pre ++ n :: s ∧ Reaches t c root top pre (n :: s) e) vs)
      _ _ ?_ ?_
    · intro n hn
      obtain ⟨e, hMem⟩ := FileTree.mem_names_iff.mp (List.mem_mergeSort.mp hn)
      have hPlain : PlainName n := ht.plain _ hMem n (by simp)
      have hEntry : t.find? (top ++ pre ++ [n]) = some e :=
        FileTree.find?_of_mem ht hMem (by simp)
      have hPath : t.resolve ((pre ++ [n]).foldl Path.join root) = .ok (top ++ (pre ++ [n])) := by
        rw [List.foldl_append, List.foldl_cons, List.foldl_nil, ← List.append_assoc]
        exact FileTree.resolve_join ht hResolve hDirectory hPlain hEntry
      by_cases hIgnored : c.isIgnored (Path.ofNames (pre ++ [n])) = true
      · refine ⟨[], by rw [if_pos hIgnored]; rfl, visitsInOrder_nil root ?_⟩
        rintro rel e' ⟨s, -, hReach⟩
        simp [hReach.not_ignored] at hIgnored
      · have hKept : c.isIgnored (Path.ofNames (pre ++ [n])) = false := by simpa using hIgnored
        have hKind := FileTree.kindAt_of_resolve hPath (by rwa [← List.append_assoc])
        rw [List.foldl_append, List.foldl_cons, List.foldl_nil] at hPath hKind
        simp only [hIgnored, if_false, Bool.false_eq_true, StateT.run_bind, run_kindAt, hKind,
          pure_bind]
        have hLeaf := visitsInOrder_leaf c root top hKept hEntry
        cases e with
        | directory =>
          have hBelow : ∀ s e, Reaches t c root top (pre ++ [n]) s e → s.length < fuel := by
            intro s e hReach
            have := hFuel (n :: s) e (.directory hKept hEntry hReach)
            simp at this
            omega
          obtain ⟨vs, hRun, hVisits⟩ := walkDirectory_visits ht fuel (pre ++ [n])
            (by rwa [List.foldl_append, List.foldl_cons, List.foldl_nil])
            (by rwa [← List.append_assoc]) hBelow
          rw [List.foldl_append, List.foldl_cons, List.foldl_nil] at hRun
          refine ⟨vs, hRun, hVisits.congr fun rel e => ?_⟩
          simp only [Reaches.cons_iff_of_directory hKept hEntry, List.append_assoc,
            List.singleton_append]
        | file _ | unreadableFile _ =>
          refine ⟨_, ?_, hLeaf (by simp)⟩
          by_cases hExtension : c.matchesExtension (Path.join (pre.foldl Path.join root) n) = true
            <;> simp [Files.Entry.kind, Files.Entry.reported, Files.Entry.visit, hExtension]
        | unlistableDirectory err =>
          -- the walk enters the directory, with fuel left since the directory itself is reached
          obtain ⟨below, rfl⟩ : ∃ below, fuel = below + 1 := by
            have := hFuel [n] _ (.entry hKept hEntry rfl)
            exact ⟨fuel - 1, by simp at this; omega⟩
          refine ⟨_, ?_, hLeaf (by simp)⟩
          simp only [Files.Entry.kind]
          rw [walkDirectory_run_of_unlistable c hPath (by rwa [← List.append_assoc])]
          simp [Files.Entry.reported, Files.Entry.visit]
    · intro vss hVisits
      refine (@visitsInOrder_flatten root pre _ (fun n rel e hBranch => ?_) _ _
        (sortNames_pairwise (FileTree.names_nodup ht _)) hVisits).congr
        fun rel e => (reaches_iff_listed c root top).symm
      obtain ⟨s, hs, -⟩ := hBranch
      exact ⟨s, hs⟩

end Walk

/-! ## Entries reached from the top -/

/-- The check of the directory at `top` meets the entry `e` at the relative names `rel` and
reports on it: the entry lies below directories, none of its path is ignored, and the walk
reports on it. -/
def Meets (t : FileTree) (c : CheckSettings) (root : String) (top rel : List String)
    (e : Entry) : Prop :=
  rel ≠ [] ∧
    (∀ k, 0 < k → k < rel.length → t.find? (top ++ rel.take k) = some .directory) ∧
    t.find? (top ++ rel) = some e ∧
    c.isIgnored (Path.ofNames rel) = false ∧ e.reported c (rel.foldl Path.join root) = true

namespace Reaches

variable {t : FileTree} {c : CheckSettings} {root : String} {top : List String}

theorem along {pre s : List String} {e : Entry} (h : Reaches t c root top pre s e) :
    (∀ k, 0 < k → k < s.length → t.find? (top ++ pre ++ s.take k) = some .directory) ∧
      t.find? (top ++ pre ++ s) = some e ∧
      (∀ k, 0 < k → k ≤ s.length → c.isIgnored (Path.ofNames (pre ++ s.take k)) = false) ∧
      e.reported c ((pre ++ s).foldl Path.join root) = true := by
  induction h with
  | @entry pre n e hKept hFind hReported =>
    refine ⟨fun k hk hLength => by simp at hLength; omega, hFind, ?_, hReported⟩
    intro k hk hLength
    obtain rfl : k = 1 := by simp at hLength; omega
    exact hKept
  | @directory pre s n e hKept hDirectory _ ih =>
    obtain ⟨hDirectories, hFind, hNotIgnored, hReported⟩ := ih
    refine ⟨fun k hk hLength => ?_, by simpa using hFind, fun k hk hLength => ?_,
      by simpa using hReported⟩
    · match k, hk with
      | 1, _ => simpa using hDirectory
      | j + 2, _ =>
        have := hDirectories (j + 1) (by omega) (by simp at hLength; omega)
        simpa [List.take_succ_cons] using this
    · match k, hk with
      | 1, _ => simpa using hKept
      | j + 2, _ =>
        have := hNotIgnored (j + 1) (by omega) (by simp at hLength; omega)
        simpa [List.take_succ_cons] using this

theorem of_along {s : List String} {e : Entry} : ∀ {pre : List String}, s ≠ [] →
    (∀ k, 0 < k → k < s.length → t.find? (top ++ pre ++ s.take k) = some .directory) →
    t.find? (top ++ pre ++ s) = some e →
    (∀ k, 0 < k → k ≤ s.length → c.isIgnored (Path.ofNames (pre ++ s.take k)) = false) →
    e.reported c ((pre ++ s).foldl Path.join root) = true →
    Reaches t c root top pre s e := by
  induction s with
  | nil => exact fun h => absurd rfl h
  | cons n rest ih =>
    intro pre _ hDirectories hFind hNotIgnored hReported
    have hKept : c.isIgnored (Path.ofNames (pre ++ [n])) = false := by
      simpa using hNotIgnored 1 (by omega) (by simp)
    by_cases hRest : rest = []
    · subst hRest
      exact .entry hKept hFind hReported
    · have hDirectory : t.find? (top ++ pre ++ [n]) = some .directory := by
        simpa using hDirectories 1 (by omega) (by simp [List.length_pos_iff.mpr hRest])
      refine .directory hKept hDirectory
        (ih hRest (fun j hj hLength => ?_) (by simpa using hFind) (fun j hj hLength => ?_)
          (by simpa using hReported))
      · have := hDirectories (j + 1) (by omega) (by simp; omega)
        simpa [List.take_succ_cons] using this
      · have := hNotIgnored (j + 1) (by omega) (by simp; omega)
        simpa [List.take_succ_cons] using this

theorem length_le {pre s : List String} {e : Entry} (h : Reaches t c root top pre s e) :
    s.length ≤ t.entries.length := by
  let paths := (List.range s.length).map fun i => top ++ pre ++ s.take (i + 1)
  have hNodup : paths.Nodup := by
    refine List.nodup_range.map_on fun i hi j hj hEq => ?_
    have := congrArg List.length hEq
    simp only [List.mem_range] at hi hj
    simp only [List.length_append, List.length_take] at this
    omega
  have hSub : paths ⊆ t.entries.map Prod.fst := by
    intro p hp
    obtain ⟨i, hi, rfl⟩ := List.mem_map.mp hp
    obtain ⟨e', hFind⟩ := Option.isSome_iff_exists.mp
      (h.find?_isSome (i + 1) (by omega) (by simp at hi; omega))
    exact List.mem_map.mpr ⟨_, FileTree.mem_of_find? hFind (by simp [h.ne_nil]), rfl⟩
  simpa [paths] using (hNodup.subperm hSub).length_le

theorem resolve (ht : t.WellFormed) {pre s : List String} {e : Entry}
    (h : Reaches t c root top pre s e)
    (hResolve : t.resolve (pre.foldl Path.join root) = .ok (top ++ pre))
    (hDirectory : t.find? (top ++ pre) = some .directory) :
    t.resolve ((pre ++ s).foldl Path.join root) = .ok (top ++ pre ++ s) := by
  induction h with
  | @entry pre n e _ hFind _ =>
    have hPlain : PlainName n := ht.plain _ (FileTree.mem_of_find? hFind (by simp)) n (by simp)
    simpa using FileTree.resolve_join ht hResolve hDirectory hPlain hFind
  | @directory pre s n e _ hBelow _ ih =>
    have hPlain : PlainName n := ht.plain _ (FileTree.mem_of_find? hBelow (by simp)) n (by simp)
    have hNext := FileTree.resolve_join ht hResolve hDirectory hPlain hBelow
    have := ih (by simpa using hNext) (by simpa using hBelow)
    simpa using this

end Reaches

theorem reaches_iff_meets {t : FileTree} {c : CheckSettings} {root : String}
    {top : List String} (ht : t.WellFormed) {rel : List String} {e : Entry} :
    Reaches t c root top [] rel e ↔ Meets t c root top rel e := by
  constructor
  · intro h
    obtain ⟨hDirectories, hFind, hNotIgnored, hReported⟩ := h.along
    refine ⟨h.ne_nil, by simpa using hDirectories, by simpa using hFind, ?_,
      by simpa using hReported⟩
    simpa using hNotIgnored rel.length (List.length_pos_iff.mpr h.ne_nil) le_rfl
  · rintro ⟨hNe, hDirectories, hFind, hKept, hReported⟩
    -- the names of an entry are plain, so an ignored part of its path would hide it
    have hPlain : ∀ n ∈ rel, PlainName n := fun n hn =>
      ht.plain _ (FileTree.mem_of_find? hFind (by simp [hNe])) n (by simp [hn])
    refine Reaches.of_along hNe (by simpa using hDirectories) (by simpa using hFind)
      (fun k _ _ => ?_) (by simpa using hReported)
    cases hTake : c.isIgnored (Path.ofNames ([] ++ rel.take k)) with
    | false => rfl
    | true =>
      have := c.isIgnored_of_take hPlain k (by simpa using hTake)
      simp [hKept] at this

/-! ## Reports -/

def Report.Describes (r : Report) (path text : String) : Prop :=
  r.path = path ∧
    match readIdentifiables text with
    | .ok entities => r.entities = entities.length ∧ r.failure = none
    | .error e => r.entities = 0 ∧ r.failure = some e

/-- The report on an entry the walk read by `path` and names by `label`: a file's text is
described; a file or a directory the system refuses is a failed report with the refusal. -/
def Report.OfEntry (r : Report) (path label : String) : Entry → Prop
  | .file text => r.Describes label text
  | .directory => False
  | .unreadableFile e => r = ⟨label, 0, some (.io ⟨path, e.message⟩)⟩
  | .unlistableDirectory e => r = ⟨label, 0, some (unreadableFailure path e)⟩

def StopsAtFirstFailure (fast full : List Report) : Prop :=
  (∃ pre r post, full = pre ++ r :: post ∧ (∀ x ∈ pre, x.failed = false) ∧
    r.failed = true ∧ fast = pre ++ [r]) ∨
  ((∀ x ∈ full, x.failed = false) ∧ fast = full)

section Reporting

variable (t : FileTree)

theorem report_document (path relative : String) {text : String}
    (h : t.readText path = .ok text) :
    ∃ r, ((Visit.document path relative).report : StateM FileTree Report).run t = pure (r, t) ∧
      r.Describes relative text := by
  simp only [Visit.report, StateT.run_bind, run_readText, h, pure_bind, countEntities]
  cases hRead : readIdentifiables text with
  | error e => exact ⟨_, rfl, rfl, by simp [hRead]⟩
  | ok entities => exact ⟨_, rfl, rfl, by simp [hRead]⟩

theorem report_visit {path : String} {names : List String} {e : Entry} (label : String)
    (hResolve : t.resolve path = .ok names) (hFind : t.find? names = some e)
    (hNot : e ≠ .directory) :
    ∃ r, ((e.visit path label).report : StateM FileTree Report).run t = pure (r, t) ∧
      r.OfEntry path label e := by
  cases e with
  | file text =>
    exact report_document t path label (FileTree.readText_of_resolve hResolve hFind)
  | directory => exact absurd rfl hNot
  | unreadableFile err =>
    refine ⟨_, ?_, rfl⟩
    simp only [Files.Entry.visit, Visit.report, StateT.run_bind, run_readText,
      FileTree.readText_of_resolve_unreadable hResolve hFind, pure_bind]
    rfl
  | unlistableDirectory err => exact ⟨_, rfl, rfl⟩

theorem report_run (v : Visit) :
    ∃ r, (v.report : StateM FileTree Report).run t = pure (r, t) := by
  cases v with
  | document path relative =>
    simp only [Visit.report, StateT.run_bind, run_readText, pure_bind]
    split
    · exact ⟨_, rfl⟩
    · split
      · exact ⟨_, rfl⟩
      · exact ⟨_, rfl⟩
  | unreadable relative path e => exact ⟨_, rfl⟩

theorem reportAll_run : ∀ vs : List Visit, ∃ full fast,
    (reportAll false vs : StateM FileTree _).run t = pure (full, t) ∧
    (reportAll true vs : StateM FileTree _).run t = pure (fast, t) ∧
    StopsAtFirstFailure fast full ∧
    List.Forall₂ (fun v r => (v.report : StateM FileTree Report).run t = pure (r, t)) vs full
  | [] => ⟨[], [], rfl, rfl, .inr ⟨by simp, rfl⟩, .nil⟩
  | v :: vs => by
    obtain ⟨r, hr⟩ := report_run t v
    obtain ⟨full, fast, hFull, hFast, hStops, hReports⟩ := reportAll_run vs
    refine ⟨r :: full, if r.failed then [r] else r :: fast, ?_, ?_, ?_, .cons hr hReports⟩
    · simp [reportAll, hr, hFull]
    · cases hFailed : r.failed <;> simp [reportAll, hr, hFast, hFailed]
    · cases hFailed : r.failed with
      | true => exact .inl ⟨[], r, full, rfl, by simp, hFailed, rfl⟩
      | false =>
        simp only [Bool.false_eq_true, if_false]
        rcases hStops with ⟨pre, r', post, rfl, hPre, hFailed', rfl⟩ | ⟨hAll, rfl⟩
        · refine .inl ⟨r :: pre, r', post, rfl, ?_, hFailed', rfl⟩
          simpa [hFailed] using hPre
        · exact .inr ⟨by simpa [hFailed] using hAll, rfl⟩

end Reporting

/-! ## Checking a root -/

section Root

variable {t : FileTree} (c : CheckSettings) (root : String)

theorem walk_run_of_kindAt_error {e : IoError} (h : t.kindAt root = .error e) (fuel : Nat) :
    (walk c fuel root : StateM FileTree _).run t =
      pure ([.unreadable (rootName root) root e], t) := by
  simp only [walk, StateT.run_bind, run_kindAt, h, pure_bind]
  rfl

theorem walk_run_of_leaf {top : List String} {e : Entry}
    (hResolve : t.resolve root = .ok top) (hFind : t.find? top = some e)
    (hNot : e ≠ .directory) (fuel : Nat) :
    (walk c (fuel + 1) root : StateM FileTree _).run t =
      pure (if e.reported c root then [e.visit root (rootName root)] else [], t) := by
  simp only [walk, StateT.run_bind, run_kindAt, FileTree.kindAt_of_resolve hResolve hFind,
    pure_bind]
  cases e with
  | file _ | unreadableFile _ =>
    by_cases hExtension : c.matchesExtension root = true <;>
      simp [Files.Entry.kind, Files.Entry.reported, Files.Entry.visit, hExtension]
  | directory => exact absurd rfl hNot
  | unlistableDirectory err =>
    simp only [Files.Entry.kind]
    rw [walkDirectory_run_of_unlistable c hResolve hFind]
    rfl

theorem walk_run_of_directory (ht : t.WellFormed) {top : List String}
    (hResolve : t.resolve root = .ok top) (hDirectory : t.find? top = some .directory) :
    ∃ vs, (walk c (t.entries.length + 1) root : StateM FileTree _).run t = pure (vs, t) ∧
      VisitsInOrder root (Reaches t c root top []) vs := by
  obtain ⟨vs, hRun, hVisits⟩ := walkDirectory_visits c root top ht (t.entries.length + 1) []
    (by simpa using hResolve) (by simpa using hDirectory)
    (fun s e hReach => by have := hReach.length_le; omega)
  refine ⟨vs, ?_, hVisits.congr fun rel e => by simp⟩
  simp only [walk, StateT.run_bind, run_kindAt, FileTree.kindAt_of_resolve hResolve hDirectory,
    pure_bind, Files.Entry.kind]
  exact hRun

theorem checkTree_of_walk {vs : List Visit} {b : Bool} {reports : List Report}
    (hWalk : (walk c (t.entries.length + 1) root : StateM FileTree _).run t = pure (vs, t))
    (hReports : (reportAll b vs : StateM FileTree _).run t = pure (reports, t)) :
    checkTree { c with failFast := b } t root = reports := by
  simp only [checkTree, checkPath, walk_failFast, StateT.run_bind, hWalk, pure_bind, hReports]
  rfl

theorem checkTree_of_kindAt_error {e : IoError} (h : t.kindAt root = .error e) :
    checkTree { c with failFast := false } t root =
      [⟨rootName root, 0, some (unreadableFailure root e)⟩] :=
  checkTree_of_walk c root (walk_run_of_kindAt_error c root h _) rfl

theorem checkTree_of_leaf {top : List String} {e : Entry}
    (hResolve : t.resolve root = .ok top) (hFind : t.find? top = some e)
    (hNot : e ≠ .directory) :
    (e.reported c root = true →
      ∃ r, checkTree { c with failFast := false } t root = [r] ∧
        r.OfEntry root (rootName root) e) ∧
    (e.reported c root = false → checkTree { c with failFast := false } t root = []) := by
  have hWalk := walk_run_of_leaf c root hResolve hFind hNot t.entries.length
  refine ⟨fun hReported => ?_, fun hReported => ?_⟩
  · obtain ⟨r, hr, hOf⟩ := report_visit t (rootName root) hResolve hFind hNot
    rw [if_pos hReported] at hWalk
    refine ⟨r, checkTree_of_walk c root hWalk ?_, hOf⟩
    simp [reportAll, hr]
  · rw [if_neg (by simp [hReported])] at hWalk
    exact checkTree_of_walk c root hWalk rfl

theorem checkTree_of_directory (ht : t.WellFormed) {top : List String}
    (hResolve : t.resolve root = .ok top) (hDirectory : t.find? top = some .directory) :
    ∃ found : List (List String × Entry), (found.map Prod.fst).Pairwise (· < ·) ∧
      (∀ rel e, (rel, e) ∈ found ↔ Meets t c root top rel e) ∧
      List.Forall₂ (fun x r => r.OfEntry (x.1.foldl Path.join root) (Path.ofNames x.1) x.2)
        found (checkTree { c with failFast := false } t root) := by
  obtain ⟨vs, hWalk, found, rfl, hOrder, hMem⟩ :=
    walk_run_of_directory c root ht hResolve hDirectory
  obtain ⟨full, -, hFull, -, -, hReports⟩ := reportAll_run t
    (found.map fun x => x.2.visit (x.1.foldl Path.join root) (Path.ofNames x.1))
  rw [checkTree_of_walk c root hWalk hFull]
  refine ⟨found, hOrder, fun rel e => (hMem rel e).trans (reaches_iff_meets ht), ?_⟩
  have hReached : ∀ x ∈ found, Reaches t c root top [] x.1 x.2 := fun x h => (hMem x.1 x.2).mp h
  refine List.Forall₂.imp ?_
    ((List.forall₂_and_left found full).mpr
      ⟨hReached, List.forall₂_map_left_iff.mp hReports⟩)
  rintro ⟨rel, e⟩ r ⟨hReach, hr⟩
  obtain ⟨-, hFind, -, hReported⟩ := hReach.along
  have hNot : e ≠ .directory := by
    rintro rfl
    simp [Files.Entry.reported] at hReported
  have hPath := hReach.resolve ht (by simpa using hResolve) (by simpa using hDirectory)
  obtain ⟨r', hr', hOf⟩ := report_visit t (Path.ofNames rel) (by simpa using hPath)
    (by simpa using hFind) hNot
  have hSame : r = r' := by
    have := hr.symm.trans hr'
    injection this
  subst hSame
  exact hOf

theorem walk_run (ht : t.WellFormed) :
    ∃ vs, (walk c (t.entries.length + 1) root : StateM FileTree _).run t = pure (vs, t) := by
  cases hKind : t.kindAt root with
  | error e => exact ⟨_, walk_run_of_kindAt_error c root hKind _⟩
  | ok k =>
    obtain ⟨top, entry, hResolve, hFind, -⟩ := FileTree.kindAt_eq_ok_iff.mp hKind
    by_cases hDirectory : entry = .directory
    · subst hDirectory
      obtain ⟨vs, hWalk, -⟩ := walk_run_of_directory c root ht hResolve hFind
      exact ⟨vs, hWalk⟩
    · exact ⟨_, walk_run_of_leaf c root hResolve hFind hDirectory _⟩

theorem checkTree_stops_at_first_failure (ht : t.WellFormed) :
    StopsAtFirstFailure (checkTree { c with failFast := true } t root)
      (checkTree { c with failFast := false } t root) := by
  obtain ⟨vs, hWalk⟩ := walk_run c root ht
  obtain ⟨full, fast, hFull, hFast, hStops, -⟩ := reportAll_run t vs
  rwa [checkTree_of_walk c root hWalk hFull, checkTree_of_walk c root hWalk hFast]

end Root

/-- What a check of `root` reports, run to the end and stopped at the first failure: a root that
cannot be found is one failed report; a root that is no directory the check lists (a file, read
or refused, or a directory it cannot list) is reported by its name when the check reports on it;
a directory root has one report per entry it meets, in the order of their relative names, each
describing a document or giving the refusal met there; and stopping early keeps the reports up
to the first failure. -/
def ReportsAsWalked (c : CheckSettings) (t : FileTree) (root : String) : Prop :=
  (∀ e, t.kindAt root = .error e →
    checkTree { c with failFast := false } t root =
      [⟨rootName root, 0, some (unreadableFailure root e)⟩]) ∧
  (∀ top e, t.resolve root = .ok top → t.find? top = some e → e ≠ .directory →
    (e.reported c root = true →
      ∃ r, checkTree { c with failFast := false } t root = [r] ∧
        r.OfEntry root (rootName root) e) ∧
    (e.reported c root = false → checkTree { c with failFast := false } t root = [])) ∧
  (∀ top, t.resolve root = .ok top → t.find? top = some .directory →
    ∃ found : List (List String × Entry), (found.map Prod.fst).Pairwise (· < ·) ∧
      (∀ rel e, (rel, e) ∈ found ↔ Meets t c root top rel e) ∧
      List.Forall₂ (fun x r => r.OfEntry (x.1.foldl Path.join root) (Path.ofNames x.1) x.2)
        found (checkTree { c with failFast := false } t root)) ∧
  StopsAtFirstFailure (checkTree { c with failFast := true } t root)
    (checkTree { c with failFast := false } t root)

theorem check_reports_each_document (c : CheckSettings) (t : FileTree) (ht : t.WellFormed)
    (root : String) : ReportsAsWalked c t root :=
  ⟨fun _ h => checkTree_of_kindAt_error c root h,
    fun _ _ hResolve hFind hNot => checkTree_of_leaf c root hResolve hFind hNot,
    fun _ hResolve hDirectory => checkTree_of_directory c root ht hResolve hDirectory,
    checkTree_stops_at_first_failure c root ht⟩

def sampleTree : FileTree :=
  ⟨[(["b.json"], .file "[]"), (["a"], .directory), (["a", "x.JSON"], .file "[]"),
    (["drafts"], .directory), (["drafts", "d.json"], .file "[]"),
    (["draftsman.json"], .file "[]"), (["locked"], .unlistableDirectory (.os 13)),
    (["secret.json"], .unreadableFile (.os 13))], ""⟩

theorem sample_tree_reports_in_order :
    sampleTree.WellFormed ∧ ReportsAsWalked { ignorePaths := ["drafts"] } sampleTree "." := by
  have hWellFormed : sampleTree.WellFormed := ⟨by decide, by decide, by decide⟩
  exact ⟨hWellFormed, check_reports_each_document _ sampleTree hWellFormed "."⟩

end Batch

end AdminShell
