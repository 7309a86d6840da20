import AdminShell.Settings.Basic
import AdminShell.Json.Decode

/-! # Settings as documents

Settings are the object `{"export": {...}, "check": {...}}` with the keys `typed_values`
and `output_format` (`"pretty"` or `"compact"`) under `export`, and `extensions`,
`ignore_paths` and `fail_fast` under `check`. Every field may be left out and takes its
default; keys that are not fields are passed over.
-/

namespace AdminShell

open Json

def outputFormatTable : List (String × OutputFormat) :=
  [("pretty", .pretty), ("compact", .compact)]

def exportSpec : StructSpec :=
  ⟨"ExportConfig", [.withDefault "typed_values", .withDefault "output_format"]⟩

def checkSpec : StructSpec :=
  ⟨"CheckConfig", [.withDefault "extensions", .withDefault "ignore_paths", .withDefault "fail_fast"]⟩

def settingsSpec : StructSpec :=
  ⟨"ValidatorConfig", [.withDefault "export", .withDefault "check"]⟩

def decodeExportSettings (fl : Flavour) (n : Node) : Decoded ExportSettings := do
  let set (s : ExportSettings) (i : Nat) (v : Node) : Decoded ExportSettings :=
    match i with
    | 0 => (decodeBool v).map (fun b => { s with typedValues := b })
    | _ => (decodeUnitVariant fl outputFormatTable v).map (fun f => { s with outputFormat := f })
  let (s, _) ← (Source.node fl n).plain exportSpec set {}
  pure s

def decodeCheckSettings (fl : Flavour) (n : Node) : Decoded CheckSettings := do
  let set (s : CheckSettings) (i : Nat) (v : Node) : Decoded CheckSettings :=
    match i with
    | 0 => (decodeSeq decodeString v).map (fun xs => { s with extensions := xs })
    | 1 => (decodeSeq decodeString v).map (fun xs => { s with ignorePaths := xs })
    | _ => (decodeBool v).map (fun b => { s with failFast := b })
  let (s, _) ← (Source.node fl n).plain checkSpec set {}
  pure s

def decodeSettings (fl : Flavour) (n : Node) : Decoded Settings := do
  let set (s : Settings) (i : Nat) (v : Node) : Decoded Settings :=
    match i with
    | 0 => (decodeExportSettings fl v).map (fun e => { s with exporting := e })
    | _ => (decodeCheckSettings fl v).map (fun c => { s with checking := c })
  let (s, _) ← (Source.node fl n).plain settingsSpec set {}
  pure s

def textArray (xs : List String) : Node := .array (xs.map Node.str)

def Settings.toNode (s : Settings) : Node :=
  .object [
    ("export", .object [("typed_values", .bool s.exporting.typedValues),
      ("output_format", .str s.exporting.outputFormat.name)]),
    ("check", .object [("extensions", textArray s.checking.extensions),
      ("ignore_paths", textArray s.checking.ignorePaths),
      ("fail_fast", .bool s.checking.failFast)])]

/-- A document laid out as the settings ask: indented by two spaces, or on one line. -/
def OutputFormat.render (f : OutputFormat) (n : Node) : String :=
  match f with
  | .pretty => n.pretty
  | .compact => n.compact

end AdminShell
