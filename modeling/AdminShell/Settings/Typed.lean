import AdminShell.Settings.Basic
import AdminShell.Settings.Sourced
import AdminShell.Files.Tree
import AdminShell.Number.Plain
import AdminShell.Text.Quoted

/-! # Settings from their layers

The joined layers are read into `Settings`. Every key is optional; keys that are not
settings are ignored. A section, `export` or `check`, is a table of its keys or an array of
its values in declaration order.

* A switch is a boolean; a number is true unless zero; a text is true for `1`, `true`, `on`
  or `yes` and false for `0`, `false`, `off` or `no`, in any case.
* A text setting takes a text, or the text of a boolean or a number.
* A list takes an array of texts.
* The output format is `pretty` or `compact`, in any case, as a text or as the single key of
  a table.

A value of the wrong type is reported with its key, as a path from the top, and the source
it came from. A failure to load names a file that is missing, one of a format that is not
known, one that cannot be read, one that is not well formed, or a value of the wrong type.
-/

namespace AdminShell

/-- Why settings could not be loaded. -/
inductive LoadError where
  | notFound (name : String)
  | unsupportedFormat (path : String)
  | unreadable (e : Files.IoError)
  | malformed (report : String) (origin : String)
  | wrongType (unexpected expected : String) (key : Option String) (origin : Option String)
  | mismatch (text : String)

namespace LoadError

def message : LoadError → String
  | .notFound name => "configuration file \"" ++ name ++ "\" not found"
  | .unsupportedFormat path =>
    "configuration file \"" ++ path ++ "\" is not of a supported file format"
  | .unreadable e => e.message
  | .malformed report origin => report ++ " in " ++ origin
  | .wrongType unexpected expected key origin =>
    "invalid type: " ++ unexpected ++ ", expected " ++ expected ++
      (match key with
       | some k => " for key `" ++ k ++ "`"
       | none => "") ++
      (match origin with
       | some o => " in " ++ o
       | none => "")
  | .mismatch text => text

/-- The error with a segment put before its key: with a dot before a name, without one
before a subscript. -/
def under (e : LoadError) (segment : String) (dot : Bool) : LoadError :=
  match e with
  | .wrongType u x key o =>
    let rest := key.getD ""
    let sep := if dot && !rest.isEmpty && !rest.startsWith "[" then "." else ""
    .wrongType u x (some (segment ++ sep ++ rest)) o
  | other => other

def underKey (e : LoadError) (key : String) : LoadError := e.under key true

def underIndex (e : LoadError) (i : Nat) : LoadError := e.under ("[" ++ toString i ++ "]") false

end LoadError

namespace Sourced

def describe : Sourced → String
  | .nil _ => "unit value"
  | .boolean _ b => "boolean `" ++ toString b ++ "`"
  | .integer _ i => "integer 64 bit `" ++ toString i ++ "`"
  | .float _ x => "floating point `" ++ x.plainText ++ "`"
  | .string _ s => "string " ++ Text.quoted s
  | .array _ _ => "sequence"
  | .table _ _ => "map"

def pointedText (x : Number.Double) : String :=
  let t := x.plainText
  if x.isFinite && !t.contains '.' then t ++ ".0" else t

def shapeName : Sourced → String
  | .nil _ => "unit value"
  | .boolean _ b => "boolean `" ++ toString b ++ "`"
  | .integer _ i => "integer `" ++ toString i ++ "`"
  | .float _ x => "floating point `" ++ pointedText x ++ "`"
  | .string _ s => "string " ++ Text.quoted s
  | .array _ _ => "sequence"
  | .table _ _ => "map"

def shapeError (v : Sourced) (expected : String) : LoadError :=
  .mismatch ("invalid type: " ++ v.shapeName ++ ", expected " ++ expected)

def isZero (x : Number.Double) : Bool := x.exponentField == 0 && x.fractionField == 0

def toBool : Sourced → Except LoadError Bool
  | .boolean _ b => .ok b
  | .integer _ i => .ok (i != 0)
  | .float _ x => .ok (!isZero x)
  | .string o s =>
    match Text.toLower s with
    | "1" | "true" | "on" | "yes" => .ok true
    | "0" | "false" | "off" | "no" => .ok false
    | lower => .error (.wrongType ("string " ++ Text.quoted lower) "a boolean" none o)
  | v => .error (.wrongType v.describe "a boolean" none v.origin)

def toText : Sourced → Except LoadError String
  | .string _ s => .ok s
  | .boolean _ b => .ok (toString b)
  | .integer _ i => .ok (toString i)
  | .float _ x => .ok x.plainText
  | v => .error (.wrongType v.describe "a string" none v.origin)

def toTexts : Sourced → Except LoadError (List String)
  | .array _ items => items.zipIdx.mapM (fun (item, i) => item.toText.mapError (·.underIndex i))
  | v => .error (v.shapeError "a sequence")

def formatNamed (name : String) : Except LoadError OutputFormat :=
  match Text.toLower name with
  | "pretty" => .ok .pretty
  | "compact" => .ok .compact
  | _ => .error (.mismatch ("enum OutputFormat does not have variant constructor " ++ name))

def toFormat : Sourced → Except LoadError OutputFormat
  | .string _ s => formatNamed s
  | .table _ [(k, _)] => formatNamed k
  | _ => .error (.mismatch
      "value of enum OutputFormat should be represented by either string or table with exactly one key")

end Sourced

def itemOr {α : Type} (items : List Sourced) (i : Nat) (dflt : α)
    (f : Sourced → Except LoadError α) : Except LoadError α :=
  match items[i]? with
  | some v => (f v).mapError (·.underIndex i)
  | none => .ok dflt

def ExportSettings.ofSourced : Sourced → Except LoadError ExportSettings
  | .table _ entries =>
    entries.foldlM (fun (acc : ExportSettings) (k, v) =>
      match k with
      | "typed_values" => do
        let b ← v.toBool.mapError (·.underKey k)
        pure { acc with typedValues := b }
      | "output_format" => do
        let f ← v.toFormat.mapError (·.underKey k)
        pure { acc with outputFormat := f }
      | _ => pure acc) {}
  | .array _ items => do
    let typedValues ← itemOr items 0 false Sourced.toBool
    let outputFormat ← itemOr items 1 .pretty Sourced.toFormat
    pure { typedValues, outputFormat }
  | v => .error (v.shapeError "struct ExportConfig")

def CheckSettings.ofSourced : Sourced → Except LoadError CheckSettings
  | .table _ entries =>
    entries.foldlM (fun (acc : CheckSettings) (k, v) =>
      match k with
      | "extensions" => do
        let xs ← v.toTexts.mapError (·.underKey k)
        pure { acc with extensions := xs }
      | "ignore_paths" => do
        let xs ← v.toTexts.mapError (·.underKey k)
        pure { acc with ignorePaths := xs }
      | "fail_fast" => do
        let b ← v.toBool.mapError (·.underKey k)
        pure { acc with failFast := b }
      | _ => pure acc) {}
  | .array _ items => do
    let extensions ← itemOr items 0 ["json"] Sourced.toTexts
    let ignorePaths ← itemOr items 1 [] Sourced.toTexts
    let failFast ← itemOr items 2 false Sourced.toBool
    pure { extensions, ignorePaths, failFast }
  | v => .error (v.shapeError "struct CheckConfig")

def Settings.ofSourced (root : Sourced) : Except LoadError Settings :=
  root.asTable.2.foldlM (fun (acc : Settings) (k, v) =>
    match k with
    | "export" => do
      let e ← (ExportSettings.ofSourced v).mapError (·.underKey k)
      pure { acc with exporting := e }
    | "check" => do
      let c ← (CheckSettings.ofSourced v).mapError (·.underKey k)
      pure { acc with checking := c }
    | _ => pure acc) {}

end AdminShell
