import AdminShell.Settings.Basic
import AdminShell.Toml.Write
import AdminShell.Number.Plain

/-! # Settings as a TOML file

Settings are written as the tables `[export]` and `[check]`, each with its keys in the
order the settings declare them.
-/

namespace AdminShell

def tomlStrings (xs : List String) : Toml.Value := .array (xs.map Toml.Value.string)

def Settings.toTomlTable (s : Settings) : List (String × Toml.Value) :=
  [("export", .table [("typed_values", .boolean s.exporting.typedValues),
      ("output_format", .string s.exporting.outputFormat.name)]),
    ("check", .table [("extensions", tomlStrings s.checking.extensions),
      ("ignore_paths", tomlStrings s.checking.ignorePaths),
      ("fail_fast", .boolean s.checking.failFast)])]

/-- Settings as the text of a TOML file. -/
def Settings.toToml (s : Settings) : String :=
  Toml.documentText Number.Double.plainText s.toTomlTable

end AdminShell
