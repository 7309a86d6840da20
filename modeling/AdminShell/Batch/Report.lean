import AdminShell.Batch.Walk
import AdminShell.Model.Document

/-! # Batch checks

A batch check reads every document a walk visits as one identifiable entity or an array
of them, and reports per document how many entities it holds or the first rule it
breaks. A place that could not be read is a failed report too. With `failFast` the
reports end at the first failure.
-/

namespace AdminShell.Batch

open Files

structure Report where
  path : String
  entities : Nat
  failure : Option ModelError

def Report.failed (r : Report) : Bool := r.failure.isSome

def countEntities (text : String) : Except ModelError Nat :=
  (readIdentifiables text).map List.length

def unreadableFailure (path : String) (e : IoError) : ModelError :=
  .io ⟨path, "IO error for operation on " ++ path ++ ": " ++ e.message⟩

def Visit.report {m : Type → Type} [Monad m] [FileSystem m] : Visit → m Report
  | .document path relative => do
    match ← FileSystem.readText path with
    | .error e => pure ⟨relative, 0, some (.io ⟨path, e.message⟩)⟩
    | .ok text =>
      match countEntities text with
      | .ok n => pure ⟨relative, n, none⟩
      | .error e => pure ⟨relative, 0, some e⟩
  | .unreadable relative path e => pure ⟨relative, 0, some (unreadableFailure path e)⟩

def reportAll {m : Type → Type} [Monad m] [FileSystem m] (failFast : Bool) :
    List Visit → m (List Report)
  | [] => pure []
  | v :: vs => do
    let r ← v.report
    if failFast && r.failed then pure [r]
    else
      let rs ← reportAll failFast vs
      pure (r :: rs)

def checkPath {m : Type → Type} [Monad m] [FileSystem m] (settings : CheckSettings)
    (fuel : Nat) (root : String) : m (List Report) := do
  let visits ← walk settings fuel root
  reportAll settings.failFast visits

/-- Checks documents in a tree held in memory; a tree's depth is below its number of
entries, which bounds the walk. -/
def checkTree (settings : CheckSettings) (tree : FileTree) (root : String) : List Report :=
  (Id.run ((checkPath settings (tree.entries.length + 1) root : StateM FileTree (List Report)).run tree)).1

end AdminShell.Batch
