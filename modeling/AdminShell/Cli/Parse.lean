import AdminShell.Cli.Help
import AdminShell.Text.Jaro

/-! # Reading a command line

The words of a command line are read left to right, first at the top level, then, from the
first word that names a command, by that command. A word is one of:

* `--`, after which every word is a value;
* `--name` or `--name=value`, an option by its long name;
* `-abc`, switches by their short names, where an option's short name takes the rest of
  the word (after an optional `=`) as its value;
* anything else (`-` included): the value of an option waiting for one, or the next
  positional argument.

An option's value is checked when the next argument is met or the words end, so a later
unknown argument is reported before it. Every failure names the first fault met; a help
switch stops reading at once. Once a command is read, the top level checks what it
waits for, and a command must have been named.
-/

namespace AdminShell.Cli

/-- A failure to read a command line, or a request for help. -/
inductive Refusal where
  | help (text : String)
  | helpInstead (text : String)
  | unexpectedArgument (arg : String) (similar : Option String) (tips : List String)
      (usage : String)
  | unrecognizedCommand (word : String) (similar : List String) (usage : String)
  | invalidValue (value arg reason : String)
  | missingValue (arg : String)
  | missingArguments (args : List String) (usage : String)
  | missingCommand (program : String) (names : List String) (usage : String)
  | unexpectedValue (value arg : String) (usage : String)
  | repeatedArgument (arg : String) (usage : String)
  deriving DecidableEq, Repr

namespace Refusal

def tryHelp : String := "\n\nFor more information, try '--help'.\n"

def usageBlock (usage : String) : String := "\n\nUsage: " ++ usage

def quotedList (names : List String) : String := ", ".intercalate (names.map (fun n => "'" ++ n ++ "'"))

def text : Refusal → String
  | .help t => t
  | .helpInstead t => t
  | .unexpectedArgument arg similar tips usage =>
    let hint := match similar with
      | some s => "\n\n  tip: a similar argument exists: '" ++ s ++ "'"
      | none => if tips.isEmpty then "" else "\n" ++ String.join (tips.map ("\n  tip: " ++ ·))
    "error: unexpected argument '" ++ arg ++ "' found" ++ hint ++ usageBlock usage ++ tryHelp
  | .unrecognizedCommand word similar usage =>
    let hint := match similar with
      | [] => ""
      | [s] => "\n\n  tip: a similar subcommand exists: '" ++ s ++ "'"
      | ss => "\n\n  tip: some similar subcommands exist: " ++ quotedList ss
    "error: unrecognized subcommand '" ++ word ++ "'" ++ hint ++ usageBlock usage ++ tryHelp
  | .invalidValue value arg reason =>
    "error: invalid value '" ++ value ++ "' for '" ++ arg ++ "': " ++ reason ++ tryHelp
  | .missingValue arg =>
    "error: a value is required for '" ++ arg ++ "' but none was supplied" ++ tryHelp
  | .missingArguments args usage =>
    "error: the following required arguments were not provided:" ++
      String.join (args.map ("\n  " ++ ·)) ++ usageBlock usage ++ tryHelp
  | .missingCommand program names usage =>
    "error: '" ++ program ++ "' requires a subcommand but one was not provided\n  [subcommands: " ++
      ", ".intercalate names ++ "]" ++ usageBlock usage ++ tryHelp
  | .unexpectedValue value arg usage =>
    "error: unexpected value '" ++ value ++ "' for '" ++ arg ++ "' found; no more were expected" ++
      usageBlock usage ++ tryHelp
  | .repeatedArgument arg usage =>
    "error: the argument '" ++ arg ++ "' cannot be used multiple times" ++ usageBlock usage ++ tryHelp

def toStdout : Refusal → Bool
  | .help _ => true
  | _ => false

def status : Refusal → Nat
  | .help _ => 0
  | _ => 2

end Refusal

abbrev Given := List (String × List String)

def Given.has (g : Given) (id : String) : Bool := g.any (·.1 == id)

def Given.values (g : Given) (id : String) : List String :=
  ((g.find? (·.1 == id)).map Prod.snd).getD []

def Given.add (g : Given) (id : String) (vs : List String) : Given :=
  if g.has id then g.map (fun e => if e.1 == id then (e.1, e.2 ++ vs) else e) else g ++ [(id, vs)]

/-- What a level knows while reading: its arguments, the name it is used by, and whether a
command must follow it. -/
structure Level where
  name : String
  args : List Arg
  needsCommand : Bool
  commands : List String

structure Reading where
  given : Given := []
  pending : Option (Arg × List String) := none
  waiting : Bool := false
  position : Nat := 0
  afterDashes : Bool := false

namespace Level

def findLong (l : Level) (name : String) : Option Arg := l.args.find? (·.long == some name)

def findShort (l : Level) (c : Char) : Option Arg := l.args.find? (·.short == some c)

def usageFor (l : Level) (used : List String) : String :=
  usageWith l.name l.args l.needsCommand used

def optionalGiven (l : Level) (g : Given) : List String :=
  (g.map Prod.fst).filter (fun id => !((l.args.find? (·.id == id)).map (·.required)).getD false)

/-- Records an argument's values: an option of one value may not be given twice, and each
value must pass its check. -/
def record (l : Level) (r : Reading) (a : Arg) (values : List String) : Except Refusal Reading := do
  if a.takesValue && values.isEmpty then throw (.missingValue a.display)
  match a.takes with
  | .single _ | .switch =>
    if r.given.has a.id then throw (.repeatedArgument a.display (l.usageFor []))
  | _ => pure ()
  for v in values do
    match a.check v with
    | some reason => throw (.invalidValue v a.display reason)
    | none => pure ()
  pure { r with given := r.given.add a.id values }

def resolve (l : Level) (r : Reading) : Except Refusal Reading :=
  match r.pending with
  | none => pure r
  | some (a, values) => l.record { r with pending := none, waiting := false } a values

def settle (r : Reading) : Reading :=
  match r.pending with
  | some (a, values) =>
    if values.isEmpty then { r with pending := none, waiting := false }
    else { r with pending := none, waiting := false, given := r.given.add a.id values }
  | none => r

def helpFor (helpText : String) (l : Level) (r : Reading) : Except Refusal Reading := do
  let _ ← l.resolve r
  throw (.help helpText)

def meet (helpText : String) (l : Level) (r : Reading) (a : Arg) (attached : Option String) :
    Except Refusal Reading := do
  match a.takes with
  | .help => l.helpFor helpText r
  | .switch => l.record (← l.resolve r) a ["true"]
  | _ =>
    match attached with
    | some v => l.record (← l.resolve r) a [v]
    | none =>
      let r ← l.resolve r
      pure { r with pending := some (a, []), waiting := true }

def unknownLong (l : Level) (r : Reading) (name : String) (rest : List String)
    (others : List (String × List String)) : Refusal :=
  let r := settle r
  let longs := l.args.filterMap (·.long)
  match (Text.similarTo name longs).getLast? with
  | some s =>
    let given := r.given.add ((l.findLong s).map (·.id) |>.getD s) []
    .unexpectedArgument ("--" ++ name) (some ("--" ++ s)) [] (l.usageFor (given.map Prod.fst))
  | none =>
    let elsewhere := others.findSome? (fun (command, longs) =>
      match (Text.similarTo name longs).getLast? with
      | some s => if rest.contains command then some (command ++ " --" ++ s) else none
      | none => none)
    let tips := match elsewhere with
      | some t => ["'" ++ t ++ "' exists"]
      | none =>
        if !(positionals l.args).isEmpty then
          ["to pass '--" ++ name ++ "' as a value, use '-- --" ++ name ++ "'"]
        else []
    .unexpectedArgument ("--" ++ name) none tips (l.usageFor (r.given.map Prod.fst))

def shorts (helpText : String) (l : Level) (r : Reading) : List Char → Except Refusal Reading
  | [] => pure r
  | c :: rest =>
    match l.findShort c with
    | none =>
      let tip := if (positionals l.args).isEmpty then []
        else ["to pass '-" ++ String.singleton c ++ "' as a value, use '-- -" ++ String.singleton c ++ "'"]
      .error (.unexpectedArgument ("-" ++ String.singleton c) none tip (l.usageFor []))
    | some a =>
      if a.takesValue then
        let value := match rest with
          | '=' :: more => more
          | more => more
        meet helpText l r a (if value.isEmpty then none else some (String.ofList value))
      else do
        let r ← meet helpText l r a none
        shorts helpText l r rest

def stray (l : Level) (r : Reading) (word : String) : Refusal :=
  let _ := settle r
  if r.afterDashes && l.commands.contains word then
    .unexpectedArgument "--" none
      ["subcommand '" ++ word ++ "' exists; to use it, remove the '--' before it"] (l.usageFor [])
  else if !l.commands.isEmpty then
    .unrecognizedCommand word (Text.similarTo word l.commands) (l.usageFor [])
  else .unexpectedArgument word none [] (l.usageFor [])

def value (l : Level) (r : Reading) (word : String) : Except Refusal Reading := do
  if r.waiting && !r.afterDashes then
    match r.pending with
    | some (a, vs) => pure { r with pending := some (a, vs ++ [word]), waiting := false }
    | none => pure r
  else
    match (positionals l.args)[r.position]? with
    | some a =>
      let r ← l.resolve r
      let r ← l.record r a [word]
      pure { r with position := r.position + 1 }
    | none => throw (l.stray r word)

end Level

abbrev LevelEnd := Reading × Option (String × List String)

def readLevel (helpText : String) (l : Level) (others : List (String × List String)) :
    Reading → List String → Except Refusal LevelEnd
  | r, [] => pure (r, none)
  | r, word :: rest =>
    if !r.afterDashes && (l.commands.contains word) then pure (r, some (word, rest))
    else if !r.afterDashes && word == "--" then
      readLevel helpText l others { r with afterDashes := true } rest
    else if !r.afterDashes && word.startsWith "--" then do
      let body := (word.drop 2).toString
      let (name, attached) := match body.splitOn "=" with
        | [n] => (n, none)
        | n :: more => (n, some ("=".intercalate more))
        | [] => (body, none)
      match l.findLong name with
      | some a =>
        match a.takes, attached with
        | .switch, some v | .help, some v =>
          throw (.unexpectedValue v a.display (l.usageFor (l.optionalGiven (Level.settle r).given ++ [a.id])))
        | _, _ =>
          let r ← l.meet helpText r a attached
          readLevel helpText l others r rest
      | none => throw (l.unknownLong r name rest others)
    else if !r.afterDashes && word.startsWith "-" && word.length > 1 then do
      let r ← l.shorts helpText r (word.toList.drop 1)
      readLevel helpText l others r rest
    else do
      let r ← l.value r word
      readLevel helpText l others r rest

def Level.finish (l : Level) (r : Reading) : Except Refusal Given := do
  let r ← l.resolve r
  let missing := l.args.filter (fun a => a.required && !r.given.has a.id)
  if missing.isEmpty then pure r.given
  else
    let shown := requiredWithUsed (l.args.filter (fun a => missing.any (·.id == a.id))) []
    let used := (r.given.map Prod.fst) ++ missing.map (·.id)
    throw (.missingArguments shown (usageWith l.name l.args false used))

/-- A command line read: the command named, and the arguments given to it and to the top
level, the command's values of shared options first. -/
structure Parsed where
  command : String
  given : Given
  deriving DecidableEq, Repr

namespace App

def topLevel (app : App) : Level :=
  ⟨app.name, app.topArgs, true, app.commandNames⟩

def commandLevel (app : App) (c : Command) : Level :=
  ⟨app.commandName c, app.commandArgs c, false, []⟩

def commandLongs (app : App) : List (String × List String) :=
  app.commands.map (fun c => (c.name, (app.commandArgs c).filterMap (·.long)))

def helpFor (app : App) : List String → Refusal
  | [] => .help app.topHelp
  | name :: rest =>
    if name == "help" then
      match rest with
      | [] => .help app.helpCommandHelp
      | w :: _ => .unrecognizedCommand w [] (app.name ++ " help [COMMAND]...")
    else
      match app.find? name with
      | none => .unrecognizedCommand name [] (helpUsage app.name app.topArgs true)
      | some c =>
        match rest with
        | [] => .help (app.commandHelp c)
        | w :: _ => .unrecognizedCommand w [] (helpUsage (app.commandName c) (app.commandArgs c) false)

def parse (app : App) (words : List String) : Except Refusal Parsed := do
  let top := app.topLevel
  let (r, named) ← readLevel app.topHelp top app.commandLongs {} words
  match named with
  | some ("help", rest) => throw (app.helpFor rest)
  | some (name, rest) =>
    match app.find? name with
    | none => throw (.unrecognizedCommand name [] (top.usageFor []))
    | some c =>
      let level := app.commandLevel c
      let (cr, _) ← readLevel (app.commandHelp c) level [] {} rest
      let inner ← level.finish cr
      let outer ← top.resolve r
      pure ⟨name, inner ++ outer.given.filter (fun e => !inner.has e.1)⟩
  | none =>
    let r ← top.resolve r
    if r.given.isEmpty then throw (.helpInstead app.topHelp)
    else throw (.missingCommand app.name app.commandNames (top.usageFor []))

end App

end AdminShell.Cli
