import AdminShell.Cli.App
import AdminShell.Cli.Parse
import AdminShell.Settings.Load
import AdminShell.Settings.Toml
import AdminShell.Settings.Codec
import AdminShell.Batch.Report
import AdminShell.Reference.Basic
import AdminShell.Literal.Check
import AdminShell.Literal.Typed
import AdminShell.Model.Document
import AdminShell.Model.Export
import AdminShell.Json.Print

/-! # Running the command line

`run` reads a command line, loads the settings, and runs the command over a file system.
It gives back the exit status and the texts written to standard output and standard
error. A command line that cannot be read is refused with status 2 (help goes to standard
output with status 0); settings that cannot be loaded, and a command that fails, end with
status 1.

* `reference` prints `✅ Kind[keys]`, or `❌ Kind[keys]` and the fault.
* `literal` prints `✅ 'raw' is a valid type`, with the typed value as JSON on request, or
  `❌` and the fault.
* `check` prints one line per document, and its fault under a failed one; with `--output`
  it writes the reports as a JSON file stamped with the time; then a summary. No document
  at all is a failure.
* `export` prints the document's entities as JSON, one alone or else an array, laid out as
  the settings say, with typed values when asked or set.
* `config` prints the settings as TOML.
-/

namespace AdminShell.Cli

open Files

/-- What a run gives back: its exit status and what it wrote. -/
structure Outcome where
  status : Nat
  stdout : String := ""
  stderr : String := ""
  deriving DecidableEq, Repr

namespace Outcome

def ofRefusal (r : Refusal) : Outcome :=
  if r.toStdout then { status := r.status, stdout := r.text }
  else { status := r.status, stderr := r.text }

def failure (stdout message : String) : Outcome :=
  { status := 1, stdout, stderr := "Error: " ++ message ++ "\n" }

end Outcome

/-- What a run needs besides its words: its surroundings, the time it stamps reports
with, and the deepest directory a check walks into. -/
structure RunContext where
  surroundings : Surroundings
  now : String
  depthLimit : Nat

def lastValue? (given : Given) (id : String) : Option String := (given.values id).getLast?

def runReference (given : Given) : Outcome :=
  match ReferenceKind.parse ((lastValue? given "kind").getD ""),
      (given.values "keys").mapM Key.parse with
  | .ok kind, .ok keys =>
    let shown := kind.name ++ "[" ++ ", ".intercalate (keys.map Key.display) ++ "]"
    match Reference.make kind keys with
    | .ok _ => { status := 0, stdout := "✅ " ++ shown ++ "\n" }
    | .error e => { status := 1, stdout := "❌ " ++ shown ++ "\n   " ++ e.message ++ "\n" }
  | .error m, _ | _, .error m => Outcome.failure "" m

def runLiteral (given : Given) : Outcome :=
  let tag := (lastValue? given "datatype").getD ""
  let raw := (lastValue? given "raw").getD ""
  match validateTagged tag raw with
  | .ok t =>
    let typed := if given.has "typed" then
        "   typed: " ++ (coerce t raw true).toNode.compact ++ "\n"
      else ""
    { status := 0, stdout := "✅ '" ++ raw ++ "' is a valid " ++ t.name ++ "\n" ++ typed }
  | .error e => { status := 1, stdout := "❌ " ++ e.message ++ "\n" }

def reportLines (r : Batch.Report) : String :=
  match r.failure with
  | none => "  ✅ " ++ r.path ++ " (" ++ toString r.entities ++ " entities)\n"
  | some e => "  ❌ " ++ r.path ++ "\n     └─ " ++ e.message ++ "\n"

def reportNode (r : Batch.Report) : Json.Node :=
  let failure := match r.failure with
    | some e => [("failure", Json.Node.object [("message", .str e.message), ("rule", .str e.rule)])]
    | none => []
  .object ([("entities", .num (.nat r.entities))] ++ failure ++ [("path", .str r.path)])

def reportDocument (now root : String) (reports : List Batch.Report) : Json.Node :=
  .object [("failed", .num (.nat (reports.filter (·.failed)).length)),
    ("files", .num (.nat reports.length)), ("generated_at", .str now),
    ("reports", .array (reports.map reportNode)), ("root", .str root)]

def checkSummary (reports : List Batch.Report) : Nat × String :=
  let failed := (reports.filter (·.failed)).length
  if reports.isEmpty then (1, "❌ No documents found\n")
  else if failed > 0 then
    (1, "❌ " ++ toString failed ++ " of " ++ toString reports.length ++ " document(s) failed\n")
  else (0, "✅ All " ++ toString reports.length ++ " document(s) valid\n")

variable {m : Type → Type} [Monad m] [FileSystem m]

def runCheck (ctx : RunContext) (settings : Settings) (given : Given) : m Outcome := do
  let root := (lastValue? given "path").getD ""
  let checking := { settings.checking with
    failFast := settings.checking.failFast || given.has "fail_fast" }
  let reports ← Batch.checkPath checking ctx.depthLimit root
  let listed := "🔍 Checking " ++ root ++ "\n" ++ String.join (reports.map reportLines)
  let (status, summary) := checkSummary reports
  match lastValue? given "output" with
  | none => pure { status, stdout := listed ++ "\n" ++ summary }
  | some output =>
    match ← FileSystem.write output (reportDocument ctx.now root reports).pretty with
    | .error e => pure (Outcome.failure listed ("Failed to write " ++ output ++ ": " ++ e.message))
    | .ok () =>
      let written := "✅ Report written to " ++ Text.quoted output ++ "\n"
      pure { status, stdout := listed ++ written ++ "\n" ++ summary }

def documentErrorText (e : ModelError) : String :=
  match e with
  | .json d => e.message ++ ": " ++ d.message
  | _ => e.message

def runExport (settings : Settings) (given : Given) : m Outcome := do
  let file := (lastValue? given "file").getD ""
  match ← FileSystem.readText file with
  | .error e => pure (Outcome.failure "" ("Failed to read " ++ file ++ ": " ++ e.message))
  | .ok text =>
    match readIdentifiables text with
    | .error e => pure (Outcome.failure "" (documentErrorText e))
    | .ok entities =>
      let typed := given.has "typed" || settings.exporting.typedValues
      let value := match entities.map (Identifiable.export typed) with
        | [single] => single
        | many => .array many
      pure { status := 0, stdout := settings.exporting.outputFormat.render value ++ "\n" }

def run (ctx : RunContext) (words : List String) : m Outcome := do
  match validatorApp.parse words with
  | .error refusal => pure (Outcome.ofRefusal refusal)
  | .ok parsed =>
    match ← loadSettings ctx.surroundings (lastValue? parsed.given "config") with
    | .error e => pure (Outcome.failure "" ("Failed to load configuration: " ++ e.message))
    | .ok settings =>
      match parsed.command with
      | "reference" => pure (runReference parsed.given)
      | "literal" => pure (runLiteral parsed.given)
      | "check" => runCheck ctx settings parsed.given
      | "export" => runExport settings parsed.given
      | _ => pure { status := 0, stdout := settings.toToml }

def runInTree (ctx : RunContext) (tree : FileTree) (words : List String) : Outcome × FileTree :=
  Id.run ((run ctx words : StateM FileTree Outcome).run tree)

end AdminShell.Cli
