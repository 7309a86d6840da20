import AdminShell.Cli.Grammar

/-! # Usage lines and help texts

A usage line names the program or command, `[OPTIONS]` when it has an optional option
other than help, its required options in order, its positional arguments, and `<COMMAND>`
where a command must follow. A usage line for an error names, after the required options,
those that were given.

A help text is the description, the usage line, and the lists `Commands:`, `Arguments:` and
`Options:`, each entry padded so that the descriptions of one list start in one column,
two spaces after its longest entry.
-/

namespace AdminShell.Cli

def spaces (n : Nat) : String := String.ofList (List.replicate n ' ')

def positionals (args : List Arg) : List Arg := args.filter Arg.isPositional

def namedArgs (args : List Arg) : List Arg := args.filter (fun a => !a.isPositional)

def needsOptionsTag (args : List Arg) : Bool :=
  (namedArgs args).any (fun a => a.takes != .help && !a.required)

def insertOnce (xs : List String) (x : String) : List String :=
  if xs.contains x then xs else xs ++ [x]

def requiredWithUsed (args : List Arg) (used : List String) : List String :=
  let named := (args.filter (·.required)).map (·.id) ++ used
  let options := named.foldl (fun acc id =>
    match args.find? (·.id == id) with
    | some a => if a.isPositional then acc else insertOnce acc (a.render true)
    | none => acc) []
  let shown := (positionals args).filter (fun a => named.contains a.id)
  options ++ shown.map (fun a => a.render true)

/-- The usage of a command with nothing given: name, `[OPTIONS]`, required options, all
positional arguments, and `<COMMAND>` when one must follow. -/
def helpUsage (name : String) (args : List Arg) (needsCommand : Bool) : String :=
  let required := (namedArgs args).filter (·.required) |>.map (fun a => a.render true)
  let positional := (positionals args).map (fun a => a.render a.required)
  let parts := [name] ++ (if needsOptionsTag args then ["[OPTIONS]"] else []) ++ required ++
    positional ++ (if needsCommand then ["<COMMAND>"] else [])
  " ".intercalate parts

def usageWith (name : String) (args : List Arg) (needsCommand : Bool) (used : List String) :
    String :=
  if used.isEmpty then helpUsage name args needsCommand
  else
    " ".intercalate ([name] ++ requiredWithUsed args used ++
      (if needsCommand then ["<COMMAND>"] else []))

def argLine (longest : Nat) (a : Arg) : String :=
  let width := (a.render a.required).length
  let head := match a.short, a.long with
    | some s, some l => "-" ++ String.singleton s ++ ", --" ++ l
    | some s, none => "-" ++ String.singleton s
    | none, some l => "    --" ++ l
    | none, none => ""
  let suffix := if a.isPositional then a.render a.required else a.valueText a.required
  let pad :=
    if a.isPositional || a.long.isSome then longest + 2 - width else longest + 6 - width
  "  " ++ head ++ suffix ++ spaces pad ++ a.help

def argSection (title : String) (args : List Arg) : String :=
  let longest := args.foldl (fun m a => max m (a.render a.required).length) 2
  title ++ ":\n" ++ "\n".intercalate ((sortArgs args).map (argLine longest))

def commandSection (entries : List (String × String)) : String :=
  let longest := entries.foldl (fun m e => max m e.1.length) 2
  "Commands:\n" ++ "\n".intercalate
    (entries.map (fun e => "  " ++ e.1 ++ spaces (longest + 2 - e.1.length) ++ e.2))

def helpText (about usage : String) (commands : List (String × String)) (args : List Arg) :
    String :=
  let sections :=
    (if commands.isEmpty then [] else [commandSection commands]) ++
    (if (positionals args).isEmpty then [] else [argSection "Arguments" (positionals args)]) ++
    (if (namedArgs args).isEmpty then [] else [argSection "Options" (namedArgs args)])
  about ++ "\n\nUsage: " ++ usage ++ "\n\n" ++ "\n\n".intercalate sections ++ "\n"

def helpCommandArg : Arg :=
  { id := "subcommand", takes := .positionalList "COMMAND",
    help := "Print help for the subcommand(s)" }

namespace App

def helpAbout : String := "Print this message or the help of the given subcommand(s)"

def commandEntries (app : App) : List (String × String) :=
  (app.commands.mergeSort (fun a b => a.order < b.order || (a.order == b.order &&
    decide (a.name ≤ b.name)))).map (fun c => (c.name, c.about)) ++ [("help", helpAbout)]

def commandName (app : App) (c : Command) : String := app.name ++ " " ++ c.name

def topHelp (app : App) : String :=
  helpText app.about (helpUsage app.name app.topArgs true) app.commandEntries app.topArgs

def commandHelp (app : App) (c : Command) : String :=
  let args := app.commandArgs c
  helpText c.about (helpUsage (app.commandName c) args false) [] args

def helpCommandHelp (app : App) : String :=
  helpText helpAbout (app.name ++ " help [COMMAND]...") [] [helpCommandArg]

end App

end AdminShell.Cli
