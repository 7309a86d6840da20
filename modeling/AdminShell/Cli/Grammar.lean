/-! # Command-line grammars

A program's command line is a top level with options and a list of commands, each with
its own options and positional arguments. An option has a short name (`-k`), a long name
(`--key`) or both; it is a switch, or takes one value per use and is used once or any
number of times. A value may be checked as it is read, and a failed check gives the reason
shown to the user. Every command and the top level also answer to `-h` and `--help`, and
the top level has a `help` command.

An argument is written in messages by its long name and the name of its value,
`--key <KEYS>`, and a positional argument by its value's name alone, `<RAW>`.
-/

namespace AdminShell.Cli

inductive Takes where
  | switch
  | single (valueName : String)
  | repeated (valueName : String)
  | positional (valueName : String)
  | positionalList (valueName : String)
  | help
  deriving DecidableEq, Repr

/-- An argument of a command. `order` places it in help lists; `check` gives the reason a
value is refused. -/
structure Arg where
  id : String
  short : Option Char := none
  long : Option String := none
  takes : Takes
  required : Bool := false
  help : String := ""
  order : Nat := 999
  check : String → Option String := fun _ => none

structure Command where
  name : String
  about : String
  args : List Arg
  order : Nat := 999

structure App where
  name : String
  about : String
  options : List Arg
  commands : List Command

namespace Arg

def helpSwitch : Arg :=
  { id := "help", short := some 'h', long := some "help", takes := .help, help := "Print help" }

def isPositional (a : Arg) : Bool :=
  match a.takes with
  | .positional _ | .positionalList _ => true
  | _ => false

def takesValue (a : Arg) : Bool :=
  match a.takes with
  | .single _ | .repeated _ => true
  | _ => false

def valueName? (a : Arg) : Option String :=
  match a.takes with
  | .single v | .repeated v | .positional v | .positionalList v => some v
  | _ => none

def valueText (a : Arg) (required : Bool) : String :=
  match a.takes with
  | .positional v => if required then "<" ++ v ++ ">" else "[" ++ v ++ "]"
  | .positionalList v => (if required then "<" ++ v ++ ">" else "[" ++ v ++ "]") ++ "..."
  | .single v | .repeated v => " <" ++ v ++ ">"
  | _ => ""

def render (a : Arg) (required : Bool) : String :=
  let name := match a.long, a.short with
    | some l, _ => "--" ++ l
    | none, some s => "-" ++ String.singleton s
    | none, none => ""
  name ++ a.valueText required

def display (a : Arg) : String := a.render a.required

def sortKey (a : Arg) : Nat × String :=
  let key := match a.short, a.long with
    | some s, _ => String.singleton s.toLower ++ (if s.isLower then "0" else "1")
    | none, some l => l
    | none, none => "\x7b" ++ a.id
  (a.order, key)

end Arg

def sortKeyLe (a b : Nat × String) : Bool :=
  a.1 < b.1 || (a.1 == b.1 && decide (a.2 ≤ b.2))

def sortArgs (args : List Arg) : List Arg :=
  args.mergeSort (fun a b => sortKeyLe a.sortKey b.sortKey)

namespace App

def topArgs (app : App) : List Arg := app.options ++ [Arg.helpSwitch]

def commandArgs (app : App) (c : Command) : List Arg := c.args ++ [Arg.helpSwitch] ++ app.options

def find? (app : App) (name : String) : Option Command :=
  app.commands.find? (·.name == name)

def commandNames (app : App) : List String := app.commands.map (·.name) ++ ["help"]

end App

end AdminShell.Cli
