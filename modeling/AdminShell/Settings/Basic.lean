import AdminShell.Files.Path

/-! # Settings

The settings of exports and of batch checks. An export writes typed values or the raw
literals, as pretty or compact text. A batch check looks at files whose extension is one
of `extensions`, compared without regard to ASCII case, skips every path below the
checked root that begins, component by component, with one of `ignorePaths`, and may stop
at the first failing file.
-/

namespace AdminShell

/-- How exported text is laid out. -/
inductive OutputFormat where
  | pretty
  | compact
  deriving DecidableEq, Repr

def OutputFormat.name : OutputFormat → String
  | .pretty => "pretty"
  | .compact => "compact"

structure ExportSettings where
  typedValues : Bool := false
  outputFormat : OutputFormat := .pretty
  deriving DecidableEq, Repr

structure CheckSettings where
  extensions : List String := ["json"]
  ignorePaths : List String := []
  failFast : Bool := false
  deriving DecidableEq, Repr

structure Settings where
  exporting : ExportSettings := {}
  checking : CheckSettings := {}
  deriving DecidableEq, Repr

def equalIgnoringAsciiCase (a b : String) : Bool :=
  a.length == b.length && (a.toList.zip b.toList).all (fun p => p.1.toLower == p.2.toLower)

namespace CheckSettings

def matchesExtension (c : CheckSettings) (path : String) : Bool :=
  match Files.Path.extension? path with
  | some x => c.extensions.any (equalIgnoringAsciiCase · x)
  | none => false

def isIgnored (c : CheckSettings) (relative : String) : Bool :=
  c.ignorePaths.any (Files.Path.startsWith relative ·)

end CheckSettings

end AdminShell
