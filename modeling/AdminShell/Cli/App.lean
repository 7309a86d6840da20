import AdminShell.Cli.Grammar
import AdminShell.Reference.Key

/-! # The validator's command line

`aas-validator` takes an optional settings file (`-c`, `--config`) and one of five
commands:

* `reference --kind KIND -k TYPE=VALUE…` checks a reference's key chain;
* `literal -t TYPE RAW [--typed]` checks a literal against a datatype;
* `check PATH [-o OUTPUT] [--fail-fast]` checks every document under a path;
* `export FILE [--typed]` prints a document back as JSON;
* `config` prints the settings in effect.

A reference's kind and keys are checked as they are read, so a malformed one is refused
with the command line.
-/

namespace AdminShell.Cli

/-- The reason a reader refuses a text, if it does. -/
def refusalOf {α : Type} (reader : String → Except String α) (s : String) : Option String :=
  match reader s with
  | .error reason => some reason
  | .ok _ => none

def referenceCommand : Command where
  name := "reference"
  about := "Validate a single reference key chain"
  order := 1
  args := [
    { id := "kind", long := some "kind", takes := .single "KIND", required := true
      help := "ModelReference or ExternalReference", order := 0
      check := refusalOf ReferenceKind.parse },
    { id := "keys", short := some 'k', long := some "key", takes := .repeated "KEYS"
      required := true, help := "Keys in order, as Type=value", order := 1
      check := refusalOf Key.parse }]

def literalCommand : Command where
  name := "literal"
  about := "Validate a literal against an XSD datatype"
  order := 2
  args := [
    { id := "datatype", short := some 't', long := some "type", takes := .single "DATATYPE"
      required := true, help := "Datatype tag, e.g. int or xs:dateTime", order := 0 },
    { id := "raw", takes := .positional "RAW", required := true, help := "Raw literal" },
    { id := "typed", long := some "typed", takes := .switch
      help := "Also print the coerced value", order := 1 }]

def checkCommand : Command where
  name := "check"
  about := "Check every document under a path"
  order := 3
  args := [
    { id := "path", takes := .positional "PATH", required := true },
    { id := "output", short := some 'o', long := some "output", takes := .single "OUTPUT"
      help := "Write a JSON report", order := 0 },
    { id := "fail_fast", long := some "fail-fast", takes := .switch
      help := "Stop at the first failing file", order := 1 }]

def exportCommand : Command where
  name := "export"
  about := "Print a document back as JSON"
  order := 4
  args := [
    { id := "file", takes := .positional "FILE", required := true },
    { id := "typed", long := some "typed", takes := .switch
      help := "Emit typed values (overrides config)", order := 0 }]

def configCommand : Command where
  name := "config"
  about := "Print the effective configuration"
  order := 5
  args := []

def validatorApp : App where
  name := "aas-validator"
  about := "Validate AAS references, typed literals, and documents"
  options := [
    { id := "config", short := some 'c', long := some "config", takes := .single "CONFIG"
      help := "Explicit config file (defaults to aas-validator.toml lookup)", order := 0 }]
  commands := [referenceCommand, literalCommand, checkCommand, exportCommand, configCommand]

end AdminShell.Cli
